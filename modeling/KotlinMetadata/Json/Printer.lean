import KotlinMetadata.Json.Basic

/-! # Printing JSON

    One text per value: no spaces, entries in the order of the tree.

    - `escape` writes one character inside a string literal;
    - `Json.print` writes a value, `Json.compress` gives it as a string.
-/

namespace KotlinMetadata

namespace Json

/-- A hexadecimal digit, in lower case. -/
def hexDigit (n : Nat) : Char :=
  if n < 10 then Char.ofNat (48 + n) else Char.ofNat (87 + n)

/-- A character inside a string literal.

    The quote, the backslash and the control characters below U+0020 are escaped, five of the
    latter by a letter; everything else stands for itself. -/
def escape (c : Char) : List Char :=
  match c with
  | '"' => ['\\', '"']
  | '\\' => ['\\', '\\']
  | '\x08' => ['\\', 'b']
  | '\x09' => ['\\', 't']
  | '\x0a' => ['\\', 'n']
  | '\x0c' => ['\\', 'f']
  | '\x0d' => ['\\', 'r']
  | c =>
    if c.toNat < 0x20 then
      ['\\', 'u', '0', '0', hexDigit (c.toNat / 16), hexDigit (c.toNat % 16)]
    else [c]

/-- A string literal.  One that names no text is written as a lone surrogate escape. -/
def printText : Option String → List Char
  | some s => '"' :: s.toList.flatMap escape ++ ['"']
  | none => "\"\\ud800\"".toList

/-- The sign of a number. -/
def printSign (negative : Bool) : List Char :=
  if negative then ['-'] else []

/-- A number; a scaled one is written as its mantissa and its exponent. -/
def printNumber : JsonNumber → List Char
  | .whole negative n => printSign negative ++ Nat.toDigits 10 n
  | .scaled negative m (.ofNat k) =>
    printSign negative ++ Nat.toDigits 10 m ++ 'e' :: Nat.toDigits 10 k
  | .scaled negative m (.negSucc k) =>
    printSign negative ++ Nat.toDigits 10 m ++ 'e' :: '-' :: Nat.toDigits 10 (k + 1)

mutual

/-- A value without spaces. -/
def print : Json → List Char
  | .null => "null".toList
  | .bool true => "true".toList
  | .bool false => "false".toList
  | .number n => printNumber n
  | .text s => printText s
  | .array [] => ['[', ']']
  | .array (j :: js) => '[' :: print j ++ printItems js ++ [']']
  | .object [] => ['{', '}']
  | .object ((key, j) :: es) =>
    '{' :: printText key ++ ':' :: print j ++ printEntries es ++ ['}']

/-- The further items of an array, each after a comma. -/
def printItems : List Json → List Char
  | [] => []
  | j :: js => ',' :: print j ++ printItems js

/-- The further entries of an object, each after a comma. -/
def printEntries : List (Option String × Json) → List Char
  | [] => []
  | (key, j) :: es => ',' :: printText key ++ ':' :: print j ++ printEntries es

end

/-- The printed value as a string. -/
def compress (j : Json) : String :=
  String.ofList j.print

end Json

end KotlinMetadata
