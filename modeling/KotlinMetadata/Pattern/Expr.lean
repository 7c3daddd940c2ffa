import KotlinMetadata.Pattern.CharSet

/-! # Patterns

    A pattern says which stretches of a text match it.

    - `Look`: a condition on a place between two characters;
    - `Pattern`: the patterns, from single characters to counted repetition;
    - `Pattern.ofSet`, `ofConcat`, `ofEither`, `ofIterate` put patterns together in normal form:
      texts side by side are one text, a choice between characters is a set, what a choice's
      branches begin with in common is put in front of it.
-/

namespace KotlinMetadata

/-! ## Conditions on a place -/

namespace Pattern

/-- A condition on whether there is a word character before and after a place. -/
inductive WordLook where
  /-- On one side alone. -/
  | boundary
  /-- On both sides or on neither. -/
  | notBoundary
  /-- After it and not before. -/
  | start
  /-- Before it and not after. -/
  | stop
  /-- Not before. -/
  | startHalf
  /-- Not after. -/
  | stopHalf
deriving DecidableEq, Repr

/-- The condition, given what is before and after. -/
def WordLook.holds : WordLook → (before after : Bool) → Bool
  | .boundary, b, a => b != a
  | .notBoundary, b, a => b == a
  | .start, b, a => !b && a
  | .stop, b, a => b && !a
  | .startHalf, b, _ => !b
  | .stopHalf, _, a => !a

/-- A condition on a place of a text. -/
inductive Look where
  | textStart
  | textEnd
  /-- At the start or after a line feed. -/
  | lineStart
  /-- At the end or before a line feed. -/
  | lineEnd
  /-- At the start or after a line feed, a carriage return or both. -/
  | lineStartCrlf
  /-- At the end or before a line feed, a carriage return or both. -/
  | lineEndCrlf
  /-- A condition on word characters, those of all scripts or those of ASCII alone. -/
  | word (allScripts : Bool) (kind : WordLook)
deriving DecidableEq, Repr

namespace Look

/-- The word characters of all scripts or of ASCII alone. -/
def wordSet (allScripts : Bool) : CharSet :=
  if allScripts then .word else .asciiWord

/-- The condition, given the characters before and after the place. -/
def holds (look : Look) (before after : Option Char) : Bool :=
  match look with
  | .textStart => before.isNone
  | .textEnd => after.isNone
  | .lineStart => before.isNone || before == some '\n'
  | .lineEnd => after.isNone || after == some '\n'
  | .lineStartCrlf =>
    before.isNone || before == some '\n' || (before == some '\r' && after != some '\n')
  | .lineEndCrlf =>
    after.isNone || after == some '\r' || (after == some '\n' && before != some '\r')
  | .word allScripts kind =>
    kind.holds (before.any (wordSet allScripts).contains) (after.any (wordSet allScripts).contains)

/-- The condition at a place between two bytes of one character.  They are no word characters of
    ASCII, and all other conditions are on whole characters and fail there. -/
def holdsInside : Look → Bool
  | .word false kind => kind.holds false false
  | _ => false

end Look

end Pattern

/-! ## Patterns -/

/-- A pattern. -/
inductive Pattern where
  /-- The empty stretch. -/
  | empty
  /-- The stretch that is a given text. -/
  | text (cs : List Char)
  /-- One character of a set. -/
  | set (s : CharSet)
  /-- The empty stretch at a place where the condition holds. -/
  | look (l : Pattern.Look)
  /-- A group with a number of its own. -/
  | capture (index : Nat) (p : Pattern)
  /-- At least `min` and at most `max` stretches, one after another, as many or as few as can
      be. -/
  | iterate (p : Pattern) (min : Nat) (max : Option Nat) (greedy : Bool)
  /-- One stretch of each pattern, one after another. -/
  | concat (ps : List Pattern)
  /-- A stretch of one of the patterns. -/
  | either (ps : List Pattern)
deriving Repr, Inhabited

namespace Pattern

mutual

/-- The two patterns are written alike. -/
def same : Pattern → Pattern → Bool
  | empty, empty => true
  | text cs, text ds => cs == ds
  | set s, set t => s == t
  | look l, look m => l == m
  | capture i p, capture j q => i == j && p.same q
  | iterate p min max greedy, iterate q min' max' greedy' =>
    min == min' && max == max' && greedy == greedy' && p.same q
  | concat ps, concat qs => sameAll ps qs
  | either ps, either qs => sameAll ps qs
  | _, _ => false

/-- The patterns of two lists are written alike, each with its counterpart. -/
def sameAll : List Pattern → List Pattern → Bool
  | [], [] => true
  | p :: ps, q :: qs => p.same q && sameAll ps qs
  | _, _ => false

end

mutual

/-- Only the empty stretch can match. -/
def isEmptyOnly : Pattern → Bool
  | empty | look _ => true
  | text _ | set _ => false
  | capture _ p | iterate p _ _ _ => p.isEmptyOnly
  | concat ps | either ps => areEmptyOnly ps

/-- Only the empty stretch can match, for all of the patterns. -/
def areEmptyOnly : List Pattern → Bool
  | [] => true
  | p :: ps => p.isEmptyOnly && areEmptyOnly ps

end

/-! ## Normal form -/

/-- The pattern of one character of a set. -/
def ofSet (s : CharSet) : Pattern :=
  match s.single? with
  | some c => text [c]
  | none => set s

/-- The items of a sequence. -/
def items : Pattern → List Pattern
  | empty => []
  | concat ps => ps
  | p => [p]

/-- The branches of a choice. -/
def branches : Pattern → List Pattern
  | either ps => ps
  | p => [p]

/-- Puts an item in front of a sequence; a text joins a text that follows. -/
def joinText : Pattern → List Pattern → List Pattern
  | text cs, text ds :: ps => text (cs ++ ds) :: ps
  | p, ps => p :: ps

/-- One stretch of each pattern, one after another. -/
def ofConcat (ps : List Pattern) : Pattern :=
  match (ps.flatMap items).foldr joinText [] with
  | [] => empty
  | [p] => p
  | ps => concat ps

/-- The characters of a choice between texts of one character. -/
def characters? : List Pattern → Option (List Char)
  | [] => some []
  | text [c] :: ps => (characters? ps).map (c :: ·)
  | _ => none

/-- The sets of a choice between sets. -/
def sets? : List Pattern → Option (List CharSet)
  | [] => some []
  | set s :: ps => (sets? ps).map (s :: ·)
  | _ => none

/-- The items of each of several sequences. -/
def sequences? : List Pattern → Option (List (List Pattern))
  | [] => some []
  | concat qs :: ps => (sequences? ps).map (qs :: ·)
  | _ => none

/-- What two sequences begin with in common. -/
def commonFront : List Pattern → List Pattern → List Pattern
  | p :: ps, q :: qs => if p.same q then p :: commonFront ps qs else []
  | _, _ => []

/-- What several sequences begin with in common. -/
def commonFrontOf : List (List Pattern) → List Pattern
  | [] => []
  | ps :: rest => rest.foldl commonFront ps

mutual

/-- The number of patterns that a pattern is made of. -/
def weight : Pattern → Nat
  | empty | text _ | set _ | look _ => 1
  | capture _ p | iterate p _ _ _ => p.weight + 1
  | concat ps | either ps => weightOfList ps + 1

/-- The number of patterns that several patterns are made of. -/
def weightOfList : List Pattern → Nat
  | [] => 0
  | p :: ps => p.weight + weightOfList ps

end

/-- A stretch of one of the patterns.  Each round takes items off every branch. -/
def ofEitherIn : Nat → List Pattern → Pattern
  | rounds, ps =>
    match ps.flatMap branches with
    | [] => set .empty
    | [p] => p
    | ps =>
      match characters? ps, sets? ps with
      | some cs, _ => ofSet (.ofCodes (cs.map Char.toNat))
      | none, some sets => ofSet (.unionAll sets)
      | none, none =>
        match rounds, sequences? ps with
        | rounds + 1, some sequences =>
          let front := commonFrontOf sequences
          if front.isEmpty then either ps
          else
            let rest := sequences.map fun qs => ofConcat (qs.drop front.length)
            ofConcat (front ++ [ofEitherIn rounds rest])
        | _, _ => either ps

/-- A stretch of one of the patterns. -/
def ofEither (ps : List Pattern) : Pattern := ofEitherIn (weightOfList ps) ps

/-- At least `min` and at most `max` stretches, one after another.  Empty stretches need no more
    than one. -/
def ofIterate (p : Pattern) (min : Nat) (max : Option Nat) (greedy : Bool) : Pattern :=
  let (min, max) :=
    if p.isEmptyOnly then (Nat.min min 1, some (Nat.min (max.getD 1) 1)) else (min, max)
  if max = some 0 then empty
  else if min = 1 ∧ max = some 1 then p
  else iterate p min max greedy

end Pattern

end KotlinMetadata
