import KotlinMetadata.Unicode.Runs

/-! # Newer characters

    The tables are those of edition 16.0 of the standard.  Edition 17.0 added letters and numbers
    that no class contains but that may stand in the name of a group.
-/

namespace KotlinMetadata.Unicode

/-- The alphabetic characters that were new in edition 17.0. -/
def newerLetters : List CodeRange := rangesFrom 0 (numbers
  "2191 1 972 1 127 1 39665 2 2 1 1 1 28 1 24910 26 1387 3 50 2 3172 8 584 44 20676 25 2 25 286
  5 6145 8 1289 22 97 115 22733 31 1 22 8 2 53306 6 5986 12 21762 4298")

/-- The digits and numbers that were new in edition 17.0. -/
def newerNumbers : List CodeRange := rangesFrom 0 (numbers
  "73184 10 21002 3")

end KotlinMetadata.Unicode
