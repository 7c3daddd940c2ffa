import KotlinMetadata.Json.Basic

/-! # Reading JSON

    The standard grammar of JSON, over the characters of a text.

    - scanners (`skipSpace`, `scanDigits`, `scanLiteral`, `scanNumber`) take a piece off the front
      and give the rest;
    - `Json.scanValue` reads one value, with the number of characters left as its bound;
    - `Json.parse?` reads a whole text.

    Nesting is not limited here, and string literals with unpaired surrogates are accepted as
    literals that name no text: which values matter is for the typed reader to say.
-/

namespace KotlinMetadata

namespace Json

/-! ## Scanners -/

/-- The four characters that may stand between tokens. -/
def isSpace (c : Char) : Bool :=
  c == ' ' || c == '\t' || c == '\n' || c == '\r'

/-- The text from its first character that is not a space. -/
def skipSpace (cs : List Char) : List Char :=
  cs.dropWhile isSpace

/-- The value of a hexadecimal digit of either case. -/
def hexDigit? (c : Char) : Option Nat :=
  if c.isDigit then some (c.toNat - 48)
  else if 'a' ≤ c && c ≤ 'f' then some (c.toNat - 87)
  else if 'A' ≤ c && c ≤ 'F' then some (c.toNat - 55)
  else none

/-- The value of four hexadecimal digits. -/
def hexUnit? (a b c d : Char) : Option Nat := do
  let a ← hexDigit? a
  let b ← hexDigit? b
  let c ← hexDigit? c
  let d ← hexDigit? d
  return ((a * 16 + b) * 16 + c) * 16 + d

/-- The number written by a run of digits. -/
def valueOfDigits (ds : List Char) : Nat :=
  ds.foldl (fun n d => n * 10 + (d.toNat - 48)) 0

/-- A run of digits of any length and what follows it. -/
def scanDigits (cs : List Char) : List Char × List Char :=
  (cs.takeWhile Char.isDigit, cs.dropWhile Char.isDigit)

/-- The character that a one-letter escape stands for. -/
def escaped? : Char → Option Char
  | '"' => some '"'
  | '\\' => some '\\'
  | '/' => some '/'
  | 'b' => some '\x08'
  | 'f' => some '\x0c'
  | 'n' => some '\n'
  | 'r' => some '\r'
  | 't' => some '\t'
  | _ => none

/-- The unit is the first half of a surrogate pair. -/
def isHighSurrogate (u : Nat) : Bool := 0xD800 ≤ u && u < 0xDC00

/-- The unit is the second half of a surrogate pair. -/
def isLowSurrogate (u : Nat) : Bool := 0xDC00 ≤ u && u < 0xE000

/-- The character that a surrogate pair stands for. -/
def pairChar (high low : Nat) : Char :=
  Char.ofNat (0x10000 + (high - 0xD800) * 0x400 + (low - 0xDC00))

/-- A string literal after its opening quote, and what follows the closing one.

    `chars` holds the characters read so far, last first; `paired` says that every surrogate met
    so far has its partner, that of `high` apart, which is waiting for its second half.
    A control character and an unknown escape are errors. -/
def scanText (chars : List Char) (paired : Bool) (high : Option Nat) :
    List Char → Option (Option String × List Char)
  | [] => none
  | '"' :: rest =>
    some (if paired && high.isNone then some (String.ofList chars.reverse) else none, rest)
  | '\\' :: 'u' :: a :: b :: c :: d :: rest => do
    let unit ← hexUnit? a b c d
    if isLowSurrogate unit then
      match high with
      | some high => scanText (pairChar high unit :: chars) paired none rest
      | none => scanText chars false none rest
    else if isHighSurrogate unit then
      scanText chars (paired && high.isNone) (some unit) rest
    else
      scanText (Char.ofNat unit :: chars) (paired && high.isNone) none rest
  | '\\' :: c :: rest => do
    let c ← escaped? c
    scanText (c :: chars) (paired && high.isNone) none rest
  | c :: rest =>
    if c.toNat < 0x20 || c == '\\' then none
    else scanText (c :: chars) (paired && high.isNone) none rest
termination_by structural cs => cs

/-- A string literal after its opening quote, and what follows the closing one. -/
def scanLiteral (cs : List Char) : Option (Option String × List Char) :=
  scanText [] true none cs

/-- The exponent of a number, if one is written, and what follows. -/
def scanExponent : List Char → Option (Option Int × List Char)
  | c :: cs =>
    if c = 'e' || c = 'E' then
      let (negative, cs) := match cs with
        | '-' :: rest => (true, rest)
        | '+' :: rest => (false, rest)
        | cs => (false, cs)
      match scanDigits cs with
      | ([], _) => none
      | (ds, rest) =>
        let n : Int := valueOfDigits ds
        some (some (if negative then -n else n), rest)
    else some (none, c :: cs)
  | [] => some (none, [])

/-- The fraction of a number, if one is written, and what follows. -/
def scanFraction : List Char → Option (Option (List Char) × List Char)
  | '.' :: cs =>
    match scanDigits cs with
    | ([], _) => none
    | (ds, rest) => some (some ds, rest)
  | cs => some (none, cs)

/-- The digits before a fraction: zero alone, or a run that does not start with zero. -/
def scanWhole (cs : List Char) : Option (List Char × List Char) :=
  match cs with
  | '0' :: rest => some (['0'], rest)
  | cs =>
    match scanDigits cs with
    | ([], _) => none
    | (ds, rest) => some (ds, rest)

/-- A number and what follows it. -/
def scanNumber (cs : List Char) : Option (JsonNumber × List Char) := do
  let (negative, cs) := match cs with
    | '-' :: rest => (true, rest)
    | cs => (false, cs)
  let (whole, cs) ← scanWhole cs
  let (fraction, cs) ← scanFraction cs
  let (exponent, cs) ← scanExponent cs
  match fraction, exponent with
  | none, none => return (.whole negative (valueOfDigits whole), cs)
  | fraction, exponent =>
    let places := fraction.getD []
    return (.scaled negative (valueOfDigits (whole ++ places))
      (exponent.getD 0 - places.length), cs)

/-- A fixed word and what follows it. -/
def scanWord (word : String) (value : Json) (cs : List Char) : Option (Json × List Char) :=
  if word.toList.isPrefixOf cs then some (value, cs.drop word.length) else none

/-! ## Values -/

mutual

/-- One value, with spaces before it, and what follows it. -/
def scanValue (bound : Nat) (cs : List Char) : Option (Json × List Char) :=
  match bound with
  | 0 => none
  | bound + 1 =>
    match skipSpace cs with
    | '[' :: rest =>
      match skipSpace rest with
      | ']' :: rest => some (.array [], rest)
      | rest => (scanItems bound rest).map fun (items, rest) => (.array items, rest)
    | '{' :: rest =>
      match skipSpace rest with
      | '}' :: rest => some (.object [], rest)
      | rest => (scanEntries bound rest).map fun (entries, rest) => (.object entries, rest)
    | '"' :: rest => (scanLiteral rest).map fun (s, rest) => (.text s, rest)
    | 'n' :: rest => scanWord "null" .null ('n' :: rest)
    | 't' :: rest => scanWord "true" (.bool true) ('t' :: rest)
    | 'f' :: rest => scanWord "false" (.bool false) ('f' :: rest)
    | rest => (scanNumber rest).map fun (n, rest) => (.number n, rest)

/-- The items of an array from the first one on, through the closing bracket. -/
def scanItems (bound : Nat) (cs : List Char) : Option (List Json × List Char) :=
  match bound with
  | 0 => none
  | bound + 1 => do
    let (item, rest) ← scanValue bound cs
    match skipSpace rest with
    | ',' :: rest =>
      let (items, rest) ← scanItems bound rest
      return (item :: items, rest)
    | ']' :: rest => return ([item], rest)
    | _ => none

/-- The entries of an object from the first one on, through the closing brace. -/
def scanEntries (bound : Nat) (cs : List Char) :
    Option (List (Option String × Json) × List Char) :=
  match bound with
  | 0 => none
  | bound + 1 =>
    match skipSpace cs with
    | '"' :: rest => do
      let (key, rest) ← scanLiteral rest
      match skipSpace rest with
      | ':' :: rest =>
        let (value, rest) ← scanValue bound rest
        match skipSpace rest with
        | ',' :: rest =>
          let (entries, rest) ← scanEntries bound rest
          return ((key, value) :: entries, rest)
        | '}' :: rest => return ([(key, value)], rest)
        | _ => none
      | _ => none
    | _ => none

end

/-- The value that a text writes, if it writes one value and nothing else.

    Each step into a value, item or entry takes at least one character and lowers the bound by
    one, two at most for each character, so the bound is never what stops the reading. -/
def parse? (s : String) : Option Json := do
  let cs := s.toList
  let (value, rest) ← scanValue (2 * cs.length + 2) cs
  match skipSpace rest with
  | [] => return value
  | _ => none

end Json

end KotlinMetadata
