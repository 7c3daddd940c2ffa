/-! # White space

    The Unicode property White_Space and what is done with it:

    - `isWhiteSpace` decides the property for one character;
    - `trim` drops the white space at both ends of a text;
    - `pieces` cuts a list written with commas into its trimmed, non-blank entries.
-/

namespace KotlinMetadata.Text

/-- The characters with the property White_Space, 25 in all. -/
def isWhiteSpace (c : Char) : Bool :=
  let n := c.toNat
  (0x09 ≤ n && n ≤ 0x0D) || n == 0x20 || n == 0x85 || n == 0xA0 || n == 0x1680 ||
    (0x2000 ≤ n && n ≤ 0x200A) || n == 0x2028 || n == 0x2029 || n == 0x202F ||
    n == 0x205F || n == 0x3000

/-- The text without the white space before its first other character. -/
def trimStart (cs : List Char) : List Char :=
  cs.dropWhile isWhiteSpace

/-- The text without the white space at either end. -/
def trim (cs : List Char) : List Char :=
  (trimStart (trimStart cs).reverse).reverse

/-- The stretches between commas, in order; a text without a comma is one stretch. -/
def splitCommas : List Char → List (List Char)
  | [] => [[]]
  | c :: cs =>
    if c = ',' then [] :: splitCommas cs
    else match splitCommas cs with
      | [] => [[c]]
      | piece :: rest => (c :: piece) :: rest

/-- The entries of a list written with commas: each stretch trimmed, blank ones dropped. -/
def pieces (s : String) : List String :=
  (((splitCommas s.toList).map trim).filter (!·.isEmpty)).map String.ofList

end KotlinMetadata.Text
