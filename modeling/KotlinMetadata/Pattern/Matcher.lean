import KotlinMetadata.Pattern.Match
import KotlinMetadata.Pattern.Meaning
import KotlinMetadata.Text.Span

/-! # Matchers of names

    A matcher is a condition on a text or on a span of it, put together from single tests.

    - `Query`: what is asked about, a whole text or a span;
    - `NameTest`: equal to a fixed text, or matched from end to end by a pattern;
    - `Matcher`: tests combined by "any of", "all of" and "not";
    - `Matcher.run`: the answer together with the tests that were made to find it.

    A test fails for a span that is not valid.  The combinations do not look at the span, so the
    negation of a test holds for such a span.
-/

namespace KotlinMetadata

/-! ## Queries -/

/-- What a matcher is asked about. -/
structure Query where
  /-- The text. -/
  text : List Char
  /-- The byte offsets of the span asked about; without them the whole text is. -/
  span : Option (Nat × Nat) := none
deriving DecidableEq, Repr

/-- The stretch asked about, if the span is valid. -/
def Query.stretch? (q : Query) : Option (List Char) :=
  match q.span with
  | none => some q.text
  | some (start, stop) => Text.slice? q.text start stop

/-! ## Tests -/

/-- A test of a stretch of text. -/
inductive NameTest where
  /-- It is a given text. -/
  | fixed (text : List Char)
  /-- A pattern matches somewhere in it. -/
  | pattern (p : Pattern)
deriving Repr

namespace NameTest

/-- The test whether a pattern matches from end to end.  The text of the pattern is put between
    anchors as it is and read with them. -/
def ofPattern? (text : List Char) : Except PatternError NameTest :=
  (Pattern.ofText? ("^(?:".toList ++ text ++ ")$".toList)).map .pattern

/-- The test of a stretch. -/
def accepts (test : NameTest) (stretch : List Char) : Bool :=
  match test with
  | .fixed text => stretch == text
  | .pattern p => p.isMatch stretch

/-- The answer to a query. -/
def holds (test : NameTest) (q : Query) : Bool :=
  q.stretch?.any test.accepts

end NameTest

/-! ## Combinations -/

/-- Tests of type `α`, combined. -/
inductive Matcher (α : Type) where
  /-- A single test. -/
  | test (a : α)
  /-- One of them holds. -/
  | anyOf (list : List (Matcher α))
  /-- All of them hold. -/
  | allOf (list : List (Matcher α))
  /-- It does not hold. -/
  | not (m : Matcher α)
deriving Repr

namespace Matcher

variable {α : Type}

/-- The parts of a choice or conjunction with one more behind them. -/
def also (parts : List (Matcher α)) (m : Matcher α) : List (Matcher α) := parts ++ [m]

mutual

/-- The answer and the tests made, in order.  Matchers of a list are asked up to the first one
    that settles the answer. -/
def run (ask : α → Bool) : Matcher α → Bool × List α
  | test a => (ask a, [a])
  | anyOf list => runAny ask list
  | allOf list => runAll ask list
  | .not m =>
    let (answer, asked) := run ask m
    (!answer, asked)

/-- Asks up to the first matcher that holds. -/
def runAny (ask : α → Bool) : List (Matcher α) → Bool × List α
  | [] => (false, [])
  | m :: ms =>
    match run ask m with
    | (true, asked) => (true, asked)
    | (false, asked) =>
      let (answer, more) := runAny ask ms
      (answer, asked ++ more)

/-- Asks up to the first matcher that does not hold. -/
def runAll (ask : α → Bool) : List (Matcher α) → Bool × List α
  | [] => (true, [])
  | m :: ms =>
    match run ask m with
    | (false, asked) => (false, asked)
    | (true, asked) =>
      let (answer, more) := runAll ask ms
      (answer, asked ++ more)

end

/-- The answer alone. -/
def holds (ask : α → Bool) (m : Matcher α) : Bool := (m.run ask).1

/-- The tests made. -/
def asked (ask : α → Bool) (m : Matcher α) : List α := (m.run ask).2

end Matcher

/-- The answer of a matcher of names to a query. -/
def Matcher.matchesQuery (m : Matcher NameTest) (q : Query) : Bool :=
  m.holds fun test => test.holds q

end KotlinMetadata
