import KotlinMetadata.Unicode.Age
import KotlinMetadata.Unicode.CaseFolding
import KotlinMetadata.Unicode.GeneralCategory
import KotlinMetadata.Unicode.Newer
import KotlinMetadata.Unicode.Property
import KotlinMetadata.Unicode.Script
import KotlinMetadata.Unicode.Segmentation

/-! # Sets of characters

    - `CharSet`: a set of characters as ranges of code points, and the operations on sets;
    - `CharSet.folded`: with a character, every character that is the same but for case;
    - the sets with a name: digits, white space, word characters, and what the tables of the
      standard list.
-/

namespace KotlinMetadata

open Unicode (CodeRange NamedRuns)

/-- A set of characters: the ranges of code points in it, ascending and with a gap between one
    and the next. -/
structure CharSet where
  ranges : List CodeRange
deriving DecidableEq, Repr, Inhabited

namespace CharSet

/-- The greatest code point. -/
def lastCode : Nat := 0x10FFFF

/-- The code point is in the set. -/
def containsCode (s : CharSet) (n : Nat) : Bool :=
  s.ranges.any fun r => r.first ≤ n && n ≤ r.last

/-- The character is in the set. -/
def contains (s : CharSet) (c : Char) : Bool := s.containsCode c.toNat

/-- No character. -/
def empty : CharSet := ⟨[]⟩

/-- Every character. -/
def all : CharSet := ⟨[⟨0, lastCode⟩]⟩

/-- The characters from one to another, both included. -/
def range (lo hi : Char) : CharSet := ⟨[⟨lo.toNat, hi.toNat⟩]⟩

/-- The set of one character. -/
def single (c : Char) : CharSet := range c c

/-- The character, if the set has no other. -/
def single? (s : CharSet) : Option Char :=
  match s.ranges with
  | [r] => if r.first = r.last then some (Char.ofNat r.first) else none
  | _ => none

/-- The characters of the set are all in ASCII. -/
def isAscii (s : CharSet) : Bool := s.ranges.all fun r => r.last < 0x80

/-! ## Union -/

/-- Puts a range into a sorted list where its start belongs, with the rest of another list after
    it. -/
def insertThen (r : CodeRange) (rest : List CodeRange → List CodeRange) :
    List CodeRange → List CodeRange
  | [] => r :: rest []
  | q :: qs =>
    if q.first < r.first then q :: insertThen r rest qs
    else r :: rest (q :: qs)

/-- The ranges of two sorted lists, sorted. -/
def merge : List CodeRange → List CodeRange → List CodeRange
  | [], qs => qs
  | r :: rs, qs => insertThen r (merge rs) qs

/-- Sorted ranges with those that overlap or touch made one, beginning with a given one. -/
def coalesceFrom (r : CodeRange) : List CodeRange → List CodeRange
  | [] => [r]
  | q :: qs =>
    if q.first ≤ r.last + 1 then coalesceFrom ⟨r.first, max r.last q.last⟩ qs
    else r :: coalesceFrom q qs

/-- Sorted ranges with those that overlap or touch made one. -/
def coalesce : List CodeRange → List CodeRange
  | [] => []
  | r :: rs => coalesceFrom r rs

/-- The characters that are in one of two sets. -/
def union (s t : CharSet) : CharSet := ⟨coalesce (merge s.ranges t.ranges)⟩

/-- The unions of neighbouring sets. -/
def unionPairs : List CharSet → List CharSet
  | s :: t :: rest => union s t :: unionPairs rest
  | rest => rest

/-- The union of several sets, in rounds that each halve their number. -/
def unionRounds : Nat → List CharSet → CharSet
  | _, [] => empty
  | _, [s] => s
  | 0, sets => sets.foldr union empty
  | rounds + 1, sets => unionRounds rounds (unionPairs sets)

/-- The union of several sets. -/
def unionAll (sets : List CharSet) : CharSet := unionRounds sets.length sets

/-! ## Other operations -/

/-- The code point after one; surrogates are passed over. -/
def nextCode (n : Nat) : Nat := if n = 0xD7FF then 0xE000 else n + 1

/-- The code point before one; surrogates are passed over. -/
def previousCode (n : Nat) : Nat := if n = 0xE000 then 0xD7FF else n - 1

/-- What lies between two ranges.  If that is surrogates alone, the ends that face each other
    take its place. -/
def between (r q : CodeRange) : CodeRange :=
  let lo := nextCode r.last
  let hi := previousCode q.first
  ⟨min lo hi, max lo hi⟩

/-- What lies between the ranges and after the last one. -/
def gapsAfter (r : CodeRange) : List CodeRange → List CodeRange
  | [] => if r.last < lastCode then [⟨nextCode r.last, lastCode⟩] else []
  | q :: qs => between r q :: gapsAfter q qs

/-- The characters that are not in the set. -/
def compl (s : CharSet) : CharSet :=
  match s.ranges with
  | [] => all
  | r :: rs => ⟨(if 0 < r.first then [⟨0, previousCode r.first⟩] else []) ++ gapsAfter r rs⟩

/-- What two ranges have in common. -/
def overlap? (r q : CodeRange) : Option CodeRange :=
  let first := max r.first q.first
  let last := min r.last q.last
  if first ≤ last then some ⟨first, last⟩ else none

/-- The characters that are in both sets. -/
def inter (s t : CharSet) : CharSet :=
  ⟨s.ranges.flatMap fun r => t.ranges.filterMap (overlap? r)⟩

/-- A range without some ranges, which are sorted. -/
def cutOut (r : CodeRange) : List CodeRange → List CodeRange
  | [] => [r]
  | q :: qs =>
    if q.last < r.first then cutOut r qs
    else if r.last < q.first then [r]
    else
      (if r.first < q.first then [⟨r.first, previousCode q.first⟩] else []) ++
        (if q.last < r.last then cutOut ⟨nextCode q.last, r.last⟩ qs else [])

/-- The characters of the first set that are not in the second. -/
def diff (s t : CharSet) : CharSet := ⟨s.ranges.flatMap fun r => cutOut r t.ranges⟩

/-- The characters that are in one of two sets alone. -/
def symmDiff (s t : CharSet) : CharSet := diff (union s t) (inter s t)

/-! ## Case -/

/-- The set of some code points. -/
def ofCodes (ns : List Nat) : CharSet := unionAll (ns.map fun n => ⟨[⟨n, n⟩]⟩)

/-- The set with every character that is the same as one of its own but for case. -/
def folded (s : CharSet) : CharSet :=
  union s (ofCodes (Unicode.caseClasses.filter (·.any s.containsCode)).flatten)

/-- Every range moved up by some code points. -/
def moveUp (distance : Nat) (s : CharSet) : CharSet :=
  ⟨s.ranges.map fun r => ⟨r.first + distance, r.last + distance⟩⟩

/-- Every range moved down by some code points. -/
def moveDown (distance : Nat) (s : CharSet) : CharSet :=
  ⟨s.ranges.map fun r => ⟨r.first - distance, r.last - distance⟩⟩

/-- The set with the other case of each Latin letter of ASCII in it. -/
def foldedAscii (s : CharSet) : CharSet :=
  unionAll [s, (inter s (range 'A' 'Z')).moveUp 32,
    (inter s (range 'a' 'z')).moveDown 32]

/-! ## The tables of the standard -/

/-- The set of a table entry. -/
def ofTable? (table : List NamedRuns) (name : String) : Option CharSet :=
  (Unicode.rangesOf? table name).map fun ranges => ⟨ranges⟩

/-- The characters of a group of general categories. -/
def categoryGroup (members : List String) : CharSet :=
  unionAll (members.filterMap (ofTable? Unicode.generalCategories))

/-- What is no letter, mark, number, punctuation, symbol or separator. -/
def otherCategory : CharSet :=
  compl (unionAll (Unicode.categoryGroups.map fun (_, members) => categoryGroup members))

/-- The characters of a general category or of a group of them. -/
def category? (name : String) : Option CharSet :=
  match name with
  | "any" => some all
  | "ascii" => some (range '\x00' '\x7f')
  | "assigned" => (ofTable? Unicode.generalCategories "unassigned").map compl
  | "c" | "other" => some otherCategory
  | _ =>
    match Unicode.categoryGroups.find? (·.1.contains name) with
    | some (_, members) => some (categoryGroup members)
    | none => ofTable? Unicode.generalCategories name

/-- The characters of a script. -/
def script? (name : String) : Option CharSet :=
  ofTable? Unicode.scripts name

/-- The characters that a script uses, those it shares with other scripts included. -/
def scriptExtension? (name : String) : Option CharSet :=
  (ofTable? Unicode.scriptExtensions name).or (script? name)

/-- The entries up to the one with a given name. -/
def entriesUpTo? (name : String) : List NamedRuns → Option (List NamedRuns)
  | [] => none
  | entry :: rest =>
    if entry.names.contains name then some [entry]
    else (entriesUpTo? name rest).map (entry :: ·)

/-- The code points assigned in an edition of the standard or before. -/
def age? (name : String) : Option CharSet :=
  (entriesUpTo? name Unicode.ages).map fun entries =>
    unionAll (entries.map fun entry => ⟨entry.ranges⟩)

/-! ## Digits, white space, word characters -/

/-- The decimal digits of all scripts. -/
def digit : CharSet := (category? "nd").getD empty

/-- White space. -/
def space : CharSet := (ofTable? Unicode.properties "whitespace").getD empty

/-- The alphabetic characters of all scripts. -/
def alphabetic : CharSet := (ofTable? Unicode.properties "alphabetic").getD empty

/-- The digits and numbers of all scripts. -/
def numeric : CharSet := (category? "n").getD empty

/-- The letters that the tables do not have yet. -/
def newerLetters : CharSet := ⟨Unicode.newerLetters⟩

/-- The digits and numbers that the tables do not have yet. -/
def newerNumbers : CharSet := ⟨Unicode.newerNumbers⟩

/-- The characters that words are made of: letters and marks, decimal digits, connecting
    punctuation and the joiners. -/
def word : CharSet :=
  unionAll (alphabetic :: digit :: [category? "m", category? "pc",
    ofTable? Unicode.properties "joincontrol"].filterMap id)

/-- The decimal digits of ASCII. -/
def asciiDigit : CharSet := range '0' '9'

/-- The white space of ASCII. -/
def asciiSpace : CharSet := union (range '\t' '\r') (single ' ')

/-- The word characters of ASCII. -/
def asciiWord : CharSet :=
  unionAll [asciiDigit, range 'A' 'Z', range 'a' 'z', single '_']

end CharSet

end KotlinMetadata
