import KotlinMetadata.Text.WhiteSpace

/-! # Scanning a pattern text

    In verbose mode white space and comments may stand between the signs of a pattern, also inside
    a number or a name.

    - `skip` passes over what verbose mode ignores;
    - `gather` collects the characters of a kind that come next;
    - `breakAt` cuts a text at the first place where another one stands.
-/

namespace KotlinMetadata.Pattern

open Text (isWhiteSpace)

/-- The text without the white space and the comments it begins with; `inComment` says that a
    comment has begun. -/
def dropBlank (inComment : Bool) : List Char → List Char
  | [] => []
  | c :: cs =>
    if inComment then dropBlank (c != '\n') cs
    else if c = '#' then dropBlank true cs
    else if isWhiteSpace c then dropBlank false cs
    else c :: cs

/-- The text from the next sign on. -/
def skip (verbose : Bool) (cs : List Char) : List Char :=
  if verbose then dropBlank false cs else cs

/-- The characters with a property that come next, and the sign after them with all that follows
    it; `inComment` says that a comment has begun. -/
def gatherFrom (verbose : Bool) (p : Char → Bool) (inComment : Bool) :
    List Char → List Char × List Char
  | [] => ([], [])
  | c :: cs =>
    if inComment then gatherFrom verbose p (c != '\n') cs
    else if verbose && c == '#' then gatherFrom verbose p true cs
    else if verbose && isWhiteSpace c then gatherFrom verbose p false cs
    else if p c then
      let (taken, left) := gatherFrom verbose p false cs
      (c :: taken, left)
    else ([], c :: cs)

/-- The characters with a property that come next, and what follows from the next sign on. -/
def gather (verbose : Bool) (p : Char → Bool) (cs : List Char) : List Char × List Char :=
  gatherFrom verbose p false cs

/-- Exactly `n` characters with a property, and what follows. -/
def gatherExactly (verbose : Bool) (p : Char → Bool) :
    Nat → List Char → Option (List Char × List Char)
  | 0, cs => some ([], cs)
  | n + 1, cs =>
    match skip verbose cs with
    | c :: rest =>
      if p c then (gatherExactly verbose p n rest).map fun (taken, left) => (c :: taken, left)
      else none
    | [] => none

/-- The parts before and after the first place where `sign` stands. -/
def breakAt (sign : List Char) : List Char → Option (List Char × List Char)
  | [] => none
  | c :: cs =>
    if sign.isPrefixOf (c :: cs) then some ([], (c :: cs).drop sign.length)
    else (breakAt sign cs).map fun (front, back) => (c :: front, back)

/-- The value of decimal digits. -/
def decimal (digits : List Char) : Nat :=
  digits.foldl (fun n c => n * 10 + (c.toNat - '0'.toNat)) 0

/-- The digit is hexadecimal. -/
def isHexDigit (c : Char) : Bool :=
  c.isDigit || ('a' ≤ c && c ≤ 'f') || ('A' ≤ c && c ≤ 'F')

/-- The value of a hexadecimal digit. -/
def hexDigit (c : Char) : Nat :=
  if c.isDigit then c.toNat - '0'.toNat
  else c.toLower.toNat - 'a'.toNat + 10

/-- The value of hexadecimal digits. -/
def hexadecimal (digits : List Char) : Nat :=
  digits.foldl (fun n c => n * 16 + hexDigit c) 0

/-- The character of a code point. -/
def charOf? (n : Nat) : Option Char :=
  if n.isValidChar then some (Char.ofNat n) else none

end KotlinMetadata.Pattern
