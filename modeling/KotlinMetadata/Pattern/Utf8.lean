import KotlinMetadata.Pattern.CharSet

/-! # Characters as bytes

    In UTF-8 a character is one to four bytes.  Neighbouring characters that differ in nothing
    but their last byte make one range of bytes, and if the bytes before also run through all
    their values, a range for every place.

    - `utf8Bytes`: the bytes of a character;
    - `CharSet.byteSequences`: a set as sequences of byte ranges.
-/

namespace KotlinMetadata

open Unicode (CodeRange)

/-- The bytes after the first that an encoding ends with, given how many there are. -/
def continuationBytes (n : Nat) : Nat → List Nat
  | 0 => []
  | count + 1 => (0x80 + n / Nat.pow 64 count % 64) :: continuationBytes n count

/-- The bytes of a code point in UTF-8. -/
def utf8Bytes (n : Nat) : List Nat :=
  if n < 0x80 then [n]
  else if n < 0x800 then (0xC0 + n / 64) :: continuationBytes n 1
  else if n < 0x10000 then (0xE0 + n / (64 * 64)) :: continuationBytes n 2
  else (0xF0 + n / (64 * 64 * 64)) :: continuationBytes n 3

/-- Neighbouring values of a byte, both ends included. -/
structure ByteRange where
  first : Nat
  last : Nat
deriving DecidableEq, Repr, Inhabited

namespace CharSet

/-- The stretches of code points whose encodings have the same length. -/
def encodingLengths : List CodeRange :=
  [⟨0, 0x7F⟩, ⟨0x80, 0x7FF⟩, ⟨0x800, 0xD7FF⟩, ⟨0xE000, 0xFFFF⟩, ⟨0x10000, lastCode⟩]

/-- A range cut so that in the encodings of every part the bytes change independently.  The given
    numbers are of code points that agree in all but the last byte, in all but the last two and so
    on: of a part before the first multiple of such a number and of a part behind the last one
    the larger numbers need not be looked at. -/
def cutAtBlocks : List Nat → CodeRange → List CodeRange
  | [], r => [r]
  | size :: sizes, r =>
    if r.first / size = r.last / size then [r]
    else
      let start := (r.first + size - 1) / size * size
      let stop := (r.last + 1) / size * size
      (if r.first < start then [⟨r.first, start - 1⟩] else []) ++
        (if start < stop then cutAtBlocks sizes ⟨start, stop - 1⟩ else []) ++
          (if stop ≤ r.last then [⟨stop, r.last⟩] else [])

/-- The byte ranges of code points from one to another. -/
def byteRanges (r : CodeRange) : List ByteRange :=
  (utf8Bytes r.first).zipWith ByteRange.mk (utf8Bytes r.last)

/-- A set as sequences of byte ranges, in the order of its characters.  Surrogates have no
    bytes. -/
def byteSequences (s : CharSet) : List (List ByteRange) :=
  s.ranges.flatMap fun r =>
    (encodingLengths.filterMap (overlap? r)).flatMap fun part =>
      if part.last < 0x80 then [byteRanges part]
      else (cutAtBlocks [64, 64 * 64, 64 * 64 * 64] part).map byteRanges

end CharSet

end KotlinMetadata
