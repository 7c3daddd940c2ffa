/-! # Tables of characters

    A set of characters is kept as a text of numbers: the lengths of the runs of code points that
    are outside and inside it by turns, from code point 0 on.  The tables are those of edition
    16.0 of the Unicode standard.

    - `CodeRange` is a run of code points inside a set;
    - `numbers` reads the numbers of a text, `readRows` those of several rows;
    - `rangesFrom` turns the lengths of runs into ranges;
    - `NamedRuns` is an entry of a table: a set with its names.
-/

namespace KotlinMetadata.Unicode

/-- Neighbouring code points, both ends included. -/
structure CodeRange where
  first : Nat
  last : Nat
deriving DecidableEq, Repr, Inhabited

/-- The numbers of a text, the digits of a first one having been read up to here. -/
def numbersFrom : Option Nat → List Char → List Nat
  | pending, [] => pending.toList
  | pending, c :: cs =>
    if c.isDigit then numbersFrom (some (pending.getD 0 * 10 + (c.toNat - '0'.toNat))) cs
    else pending.toList ++ numbersFrom none cs

/-- The numbers of a text, with anything that is no digit between them. -/
def numbers (s : String) : List Nat :=
  numbersFrom none s.toList

/-- Rows of numbers, with a semicolon between one row and the next. -/
def readRows (s : String) : List (List Nat) :=
  (s.splitOn ";").map numbers

/-- The ranges inside a set, given the lengths of its runs from a code point on. -/
def rangesFrom (start : Nat) : List Nat → List CodeRange
  | outside :: inside :: rest =>
    ⟨start + outside, start + outside + inside - 1⟩ ::
      rangesFrom (start + outside + inside) rest
  | _ => []

/-- A set of characters under the names it is known by. -/
structure NamedRuns where
  /-- Its names, in lower case and without blanks, hyphens and low lines. -/
  names : List String
  /-- The lengths of its runs. -/
  runs : String

/-- The ranges of an entry. -/
def NamedRuns.ranges (entry : NamedRuns) : List CodeRange :=
  rangesFrom 0 (numbers entry.runs)

/-- The ranges of the entry with a given name. -/
def rangesOf? (table : List NamedRuns) (name : String) : Option (List CodeRange) :=
  (table.find? (·.names.contains name)).map NamedRuns.ranges

end KotlinMetadata.Unicode
