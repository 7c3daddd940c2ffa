/-! # Spans of bytes

    A span of a text is given by two offsets into its UTF-8 bytes.  It is valid when it starts
    no later than it ends, ends within the text, and cuts no character in two.

    - `slice?` gives the characters of a valid span and nothing for any other.
-/

namespace KotlinMetadata.Text

/-- Number of UTF-8 bytes of a text. -/
def byteLength : List Char → Nat
  | [] => 0
  | c :: cs => c.utf8Size + byteLength cs

/-- Splits a text after exactly `n` bytes, if that is a boundary between characters. -/
def splitAtByte : Nat → List Char → Option (List Char × List Char)
  | 0, cs => some ([], cs)
  | _ + 1, [] => none
  | n + 1, c :: cs =>
    if c.utf8Size ≤ n + 1 then
      (splitAtByte (n + 1 - c.utf8Size) cs).map fun (front, back) => (c :: front, back)
    else none

/-- The characters between two byte offsets, for a valid span. -/
def slice? (cs : List Char) (start stop : Nat) : Option (List Char) := do
  guard (start ≤ stop)
  let (_, back) ← splitAtByte start cs
  let (middle, _) ← splitAtByte (stop - start) back
  return middle

end KotlinMetadata.Text
