import KotlinMetadata.Pattern.Error
import KotlinMetadata.Pattern.Scan
import KotlinMetadata.Pattern.Tree

/-! # Escapes

    A backslash gives a sign its plain meaning, names a character that cannot be typed, or stands
    for a class or a condition on a place.  Digits are not taken as references to groups.

    - `escape` reads what follows a backslash.
-/

namespace KotlinMetadata.Pattern

/-- A backslash before the character leaves its plain meaning: any ASCII character but letters,
    digits and the angle brackets. -/
def isEscapable (c : Char) : Bool :=
  c.toNat < 0x80 && !c.isAlphanum && c != '<' && c != '>'

/-- What the rest of a pattern was read as, and what follows. -/
abbrev Scanned (α : Type) := Except PatternError (α × List Char)

/-- A character by its code point. -/
def codePoint (isByte : Bool) (digits rest : List Char) : Scanned Atom :=
  match charOf? (hexadecimal digits) with
  | some char => .ok (.literal { char, isByte }, rest)
  | none => .error .codePoint

/-- A code point of a fixed number of hexadecimal digits or any number of them in braces. -/
def hexEscape (verbose : Bool) (width : Nat) (cs : List Char) : Scanned Atom :=
  match skip verbose cs with
  | '\x7b' :: rest =>
    match gather verbose isHexDigit rest with
    | ([], _) => .error .codePoint
    | (digits, '\x7d' :: rest) => codePoint false digits rest
    | _ => .error .codePoint
  | rest =>
    match gatherExactly verbose isHexDigit width rest with
    | some (digits, rest) => codePoint (width == 2) digits rest
    | none => .error .codePoint

/-- A property as written between braces: a name, or a name and a value with a sign between
    them, which may be one of inequality. -/
def bracedProperty (negated : Bool) (inside : List Char) : Atom :=
  match breakAt ['!', '='] inside with
  | some (name, value) => .named (.propertyValue name value) (!negated)
  | none =>
    match breakAt [':'] inside with
    | some (name, value) => .named (.propertyValue name value) negated
    | none =>
      match breakAt ['='] inside with
      | some (name, value) => .named (.propertyValue name value) negated
      | none => .named (.property inside) negated

/-- A property of one letter or between braces. -/
def propertyEscape (verbose negated : Bool) (cs : List Char) : Scanned Atom :=
  match skip verbose cs with
  | '\x7b' :: rest =>
    match gather verbose (· != '\x7d') rest with
    | (inside, _ :: rest) => .ok (bracedProperty negated inside, rest)
    | (_, []) => .error .escape
  | c :: rest =>
    if c = '\\' then .error .property
    else .ok (.named (.property [c]) negated, rest)
  | [] => .error .escape

/-- The characters in the names of conditions on words. -/
def isWordLookCharacter (c : Char) : Bool := c.isAlpha || c == '-'

/-- A condition on words.  It may be narrowed down by a name between braces; braces with anything
    else in front are the bounds of a repetition and are left alone. -/
def wordBoundary (verbose : Bool) (cs : List Char) : Scanned Atom :=
  match cs with
  | '\x7b' :: inner =>
    match skip verbose inner with
    | [] => .error .escape
    | c :: rest =>
      if isWordLookCharacter c then
        match gather verbose isWordLookCharacter (c :: rest) with
        | (name, '\x7d' :: rest) =>
          match String.ofList name with
          | "start" => .ok (.anchor (.word .start), rest)
          | "end" => .ok (.anchor (.word .stop), rest)
          | "start-half" => .ok (.anchor (.word .startHalf), rest)
          | "end-half" => .ok (.anchor (.word .stopHalf), rest)
          | _ => .error .escape
        | _ => .error .escape
      else .ok (.anchor (.word .boundary), cs)
  | _ => .ok (.anchor (.word .boundary), cs)

/-- What follows a backslash. -/
def escape (verbose : Bool) : List Char → Scanned Atom
  | [] => .error .escape
  | 'x' :: cs => hexEscape verbose 2 cs
  | 'u' :: cs => hexEscape verbose 4 cs
  | 'U' :: cs => hexEscape verbose 8 cs
  | 'p' :: cs => propertyEscape verbose false cs
  | 'P' :: cs => propertyEscape verbose true cs
  | 'd' :: cs => .ok (.named .digit false, cs)
  | 'D' :: cs => .ok (.named .digit true, cs)
  | 's' :: cs => .ok (.named .space false, cs)
  | 'S' :: cs => .ok (.named .space true, cs)
  | 'w' :: cs => .ok (.named .word false, cs)
  | 'W' :: cs => .ok (.named .word true, cs)
  | 'a' :: cs => .ok (.literal ⟨'\x07', false⟩, cs)
  | 'f' :: cs => .ok (.literal ⟨'\x0c', false⟩, cs)
  | 't' :: cs => .ok (.literal ⟨'\t', false⟩, cs)
  | 'n' :: cs => .ok (.literal ⟨'\n', false⟩, cs)
  | 'r' :: cs => .ok (.literal ⟨'\r', false⟩, cs)
  | 'v' :: cs => .ok (.literal ⟨'\x0b', false⟩, cs)
  | 'A' :: cs => .ok (.anchor .textStart, cs)
  | 'z' :: cs => .ok (.anchor .textEnd, cs)
  | 'b' :: cs => wordBoundary verbose cs
  | 'B' :: cs => .ok (.anchor (.word .notBoundary), cs)
  | '<' :: cs => .ok (.anchor (.word .start), cs)
  | '>' :: cs => .ok (.anchor (.word .stop), cs)
  | c :: cs => if isEscapable c then .ok (.literal ⟨c, false⟩, cs) else .error .escape

end KotlinMetadata.Pattern
