import KotlinMetadata.Pattern.Expr
import KotlinMetadata.Text.Span

/-! # Matching

    A text of `n` characters has `n + 1` places.  A pattern is read as a function on lists of
    places: from the places where a stretch may start to the places where a matching stretch may
    then end.  The lists are in the order of the text and without repetitions.

    - `Pattern.step` is that function;
    - `Pattern.isMatch`: some stretch of the text matches.
-/

namespace KotlinMetadata

/-! ## Places -/

/-- A place of a text. -/
structure Place where
  /-- How many characters are before it. -/
  index : Nat
  /-- The character before it. -/
  before : Option Char
  /-- The characters after it. -/
  rest : List Char
deriving DecidableEq, Repr

namespace Place

/-- The places from one on. -/
def allFrom (index : Nat) (before : Option Char) : List Char → List Place
  | [] => [⟨index, before, []⟩]
  | c :: cs => ⟨index, before, c :: cs⟩ :: allFrom (index + 1) (some c) cs

/-- Every place of a text. -/
def allOf (cs : List Char) : List Place := allFrom 0 none cs

/-- The place after a character of the set. -/
def advance? (s : CharSet) (p : Place) : Option Place :=
  match p.rest with
  | c :: cs => if s.contains c then some ⟨p.index + 1, some c, cs⟩ else none
  | [] => none

/-- The place after a text. -/
def follow? : List Char → Place → Option Place
  | [], p => some p
  | c :: cs, p =>
    match p.rest with
    | d :: ds => if c = d then follow? cs ⟨p.index + 1, some d, ds⟩ else none
    | [] => none

/-- The condition holds at the place. -/
def satisfies (l : Pattern.Look) (p : Place) : Bool := l.holds p.before p.rest.head?

/-- Puts a place into a list where it belongs, with the rest of another list after it. -/
def insertThen (p : Place) (rest : List Place → List Place) : List Place → List Place
  | [] => p :: rest []
  | q :: qs =>
    if q.index < p.index then q :: insertThen p rest qs
    else if q.index = p.index then p :: rest qs
    else p :: rest (q :: qs)

/-- The places of two lists. -/
def merge : List Place → List Place → List Place
  | [], qs => qs
  | p :: ps, qs => insertThen p (merge ps) qs

/-- The function applied `n` times, from one list of places to the next.  Nothing comes of
    nothing, so it is left alone then. -/
def times (f : List Place → List Place) : Nat → List Place → List Place
  | 0, ps => ps
  | n + 1, ps => if ps.isEmpty then [] else times f n (f ps)

/-- The places with a number of steps that may still be made from each, as those of two lists;
    of a place in both the greater number counts. -/
def insertBudget (p : Place × Nat) (rest : List (Place × Nat) → List (Place × Nat)) :
    List (Place × Nat) → List (Place × Nat)
  | [] => p :: rest []
  | q :: qs =>
    if q.1.index < p.1.index then q :: insertBudget p rest qs
    else if q.1.index = p.1.index then (p.1, max p.2 q.2) :: rest qs
    else p :: rest (q :: qs)

/-- The places of two lists with the steps that may still be made from each. -/
def mergeBudgets : List (Place × Nat) → List (Place × Nat) → List (Place × Nat)
  | [], qs => qs
  | p :: ps, qs => insertBudget p (mergeBudgets ps) qs

/-- The places reached by applying the function as often as the budgets allow.  The first place
    of the list is reached in no other way any more, since no step leads back, and a step that
    does not lead on adds nothing.  Every round settles one place of the text, so their number
    bounds the rounds. -/
def sweep (f : List Place → List Place) : Nat → List (Place × Nat) → List Place
  | 0, ps => ps.map (·.1)
  | _, [] => []
  | rounds + 1, (p, 0) :: ps => p :: sweep f rounds ps
  | rounds + 1, (p, budget + 1) :: ps =>
    let next := ((f [p]).filter fun q => p.index < q.index).map fun q => (q, budget)
    p :: sweep f rounds (mergeBudgets next ps)

/-- The places reached by applying the function at most `n` times. -/
def upTo (f : List Place → List Place) (n : Nat) (ps : List Place) : List Place :=
  match ps with
  | [] => []
  | p :: _ => sweep f (p.rest.length + 1) (ps.map fun q => (q, n))

end Place

/-! ## Stretches -/

namespace Pattern

mutual

/-- The places where a stretch may end that starts at a given place and matches.

    Without an upper bound a repetition goes on in every round or for nothing, so no more rounds
    are needed than there are characters left. -/
def step : Pattern → List Place → List Place
  | empty, ps => ps
  | text cs, ps => ps.filterMap (Place.follow? cs)
  | set s, ps => ps.filterMap (Place.advance? s)
  | look l, ps => ps.filter (Place.satisfies l)
  | capture _ p, ps => step p ps
  | iterate p min max _, ps =>
    let first := Place.times (step p) min ps
    match max with
    | some n => Place.upTo (step p) (n - min) first
    | none => Place.upTo (step p) (first.headD ⟨0, none, []⟩).rest.length first
  | concat qs, ps => stepAll qs ps
  | either qs, ps => stepAny qs ps

/-- The places where stretches of the patterns, one after another, may end. -/
def stepAll : List Pattern → List Place → List Place
  | [], ps => ps
  | q :: qs, ps => stepAll qs (step q ps)

/-- The places where a stretch of one of the patterns may end. -/
def stepAny : List Pattern → List Place → List Place
  | [], _ => []
  | q :: qs, ps => Place.merge (step q ps) (stepAny qs ps)

end

mutual

/-- The pattern for those stretches alone whose characters are all in a set. -/
def within (s : CharSet) : Pattern → Pattern
  | empty => empty
  | text cs => if cs.all s.contains then text cs else set .empty
  | set t => set (t.inter s)
  | look l => look l
  | capture index p => capture index (p.within s)
  | iterate p min max greedy => iterate (p.within s) min max greedy
  | concat ps => concat (allWithin s ps)
  | either ps => either (allWithin s ps)

/-- Each of the patterns for stretches within the set. -/
def allWithin (s : CharSet) : List Pattern → List Pattern
  | [] => []
  | p :: ps => p.within s :: allWithin s ps

end

mutual

/-- The empty stretch between two bytes of one character matches. -/
def matchesInside : Pattern → Bool
  | empty => true
  | text _ | set _ => false
  | look l => l.holdsInside
  | capture _ p => p.matchesInside
  | iterate p min _ _ => min == 0 || p.matchesInside
  | concat ps => allMatchInside ps
  | either ps => anyMatchesInside ps

/-- Each of the patterns matches between two bytes of a character. -/
def allMatchInside : List Pattern → Bool
  | [] => true
  | p :: ps => p.matchesInside && allMatchInside ps

/-- One of the patterns matches between two bytes of a character. -/
def anyMatchesInside : List Pattern → Bool
  | [] => false
  | p :: ps => p.matchesInside || anyMatchesInside ps

end

mutual

/-- There is a condition on the word characters of all scripts in the pattern. -/
def looksAtWords : Pattern → Bool
  | empty | text _ | set _ => false
  | look (.word allScripts _) => allScripts
  | look _ => false
  | capture _ p | iterate p _ _ _ => p.looksAtWords
  | concat ps | either ps => oneLooksAtWords ps

/-- There is such a condition in one of the patterns. -/
def oneLooksAtWords : List Pattern → Bool
  | [] => false
  | p :: ps => p.looksAtWords || oneLooksAtWords ps

end

/-- A text of no more bytes than this is searched place by place if word characters of all
    scripts matter. -/
def shortText : Nat := 128

/-- The search stops at the first byte where a match ends, and if that byte is inside a character
    it begins again behind it.  With a pattern that matches there, a character beyond ASCII is
    never passed over.  Short texts are searched from one place to the next instead if word
    characters of all scripts matter. -/
def stopsInside (p : Pattern) (cs : List Char) : Bool :=
  p.matchesInside && !(p.looksAtWords && Text.byteLength cs ≤ shortText)

/-- Some stretch of the text matches. -/
def isMatch (p : Pattern) (cs : List Char) : Bool :=
  let p := if p.stopsInside cs then p.within (.range '\x00' '\x7f') else p
  !(p.step (Place.allOf cs)).isEmpty

end Pattern

end KotlinMetadata
