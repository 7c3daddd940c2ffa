import KotlinMetadata.Pattern.Escape

/-! # Classes between brackets

    - items: characters, ranges, escapes, classes by name and brackets inside brackets;
    - operations between all that stands before and after them, from left to right: `&&` for what
      is in both, `--` for what is in the first alone, `~~` for what is in one alone;
    - a hyphen at the start or end and a closing bracket at the start stand for themselves.
-/

namespace KotlinMetadata.Pattern

/-- What is read up to a closing bracket so far. -/
structure ClassState where
  /-- The left side of an operation and the operation. -/
  pending : Option (Bracket × SetOp) := none
  /-- The items after it, the last one first. -/
  recent : List Bracket := []

namespace ClassState

/-- One more item. -/
def push (s : ClassState) (item : Bracket) : ClassState :=
  { s with recent := item :: s.recent }

/-- The class that has been read. -/
def finish (s : ClassState) : Bracket :=
  let right := Bracket.ofItems s.recent.reverse
  match s.pending with
  | some (left, op) => .binary op left right
  | none => right

/-- Goes on to the right side of an operation. -/
def operate (s : ClassState) (op : SetOp) : ClassState where
  pending := some (s.finish, op)

end ClassState

/-- A class of ASCII characters by name, after the bracket that opens it: `:alpha:]`. -/
def asciiClass? : List Char → Option (Bracket × List Char)
  | ':' :: cs =>
    let (negated, cs) := match cs with
      | '^' :: rest => (true, rest)
      | rest => (false, rest)
    match breakAt [':'] cs with
    | some (name, ']' :: rest) =>
      (Named.ofName? (String.ofList name)).map fun kind => (.ascii kind negated, rest)
    | _ => none
  | _ => none

/-- The next character after a hyphen.  A comment is looked through up to its first character. -/
def afterHyphen (verbose : Bool) (cs : List Char) : Option Char :=
  if verbose then
    match cs.dropWhile Text.isWhiteSpace with
    | '#' :: rest => (rest.dropWhile Text.isWhiteSpace).head?
    | rest => rest.head?
  else cs.head?

/-- A single character or an escape. -/
def classAtom (verbose : Bool) : List Char → Scanned Atom
  | [] => .error .classUnclosed
  | '\\' :: cs => escape verbose cs
  | c :: cs => .ok (.literal ⟨c, false⟩, cs)

/-- An atom as an item of a class. -/
def classItem : Atom → Except PatternError Bracket
  | .literal l => .ok (.literal l)
  | .named name negated => .ok (.named name negated)
  | .anchor _ => .error .classItem

/-- The atoms at the two ends as a range. -/
def classRange : Atom → Atom → Except PatternError Bracket
  | .literal lo, .literal hi =>
    if lo.char ≤ hi.char then .ok (.range lo hi) else .error .classRange
  | _, _ => .error .classRange

/-- A character, an escape or a range. -/
def classEntry (verbose : Bool) (cs : List Char) :
    Except PatternError (Bracket × List Char) := do
  let (first, rest) ← classAtom verbose cs
  match skip verbose rest with
  | [] => .error .classUnclosed
  | '-' :: after =>
    if afterHyphen verbose after == some ']' || afterHyphen verbose after == some '-' then
      return (← classItem first, '-' :: after)
    else
      let (second, rest) ← classAtom verbose (skip verbose after)
      return (← classRange first second, rest)
  | rest => return (← classItem first, rest)

/-- The hyphens at the start of a class. -/
def leadingHyphens (verbose : Bool) (cs : List Char) : ClassState × List Char :=
  let (hyphens, rest) := gather verbose (· == '-') cs
  ({ recent := hyphens.map fun c => .literal ⟨c, false⟩ }, rest)

/-- The start of a class after its bracket: whether it is negated, and what stands for itself. -/
def openClass (verbose : Bool) (cs : List Char) : Bool × ClassState × List Char :=
  let (negated, cs) := match skip verbose cs with
    | '^' :: rest => (true, rest)
    | rest => (false, rest)
  match leadingHyphens verbose cs with
  | (⟨none, []⟩, ']' :: rest) => (negated, ({} : ClassState).push (.literal ⟨']', false⟩), rest)
  | (state, rest) => (negated, state, rest)

/-- A class from some place in it to its closing bracket.  Every call leaves a shorter text, so
    its length bounds their number. -/
def classBody (verbose : Bool) :
    Nat → ClassState → List Char → Except PatternError (Bracket × List Char)
  | 0, _, _ => .error .classUnclosed
  | fuel + 1, state, cs =>
    match skip verbose cs with
    | [] => .error .classUnclosed
    | ']' :: rest => .ok (state.finish, rest)
    | '[' :: rest =>
      match asciiClass? rest with
      | some (item, rest) => classBody verbose fuel (state.push item) rest
      | none => do
        let (negated, inner, rest) := openClass verbose rest
        let (body, rest) ← classBody verbose fuel inner rest
        classBody verbose fuel (state.push (.bracket negated body)) rest
    | '&' :: '&' :: rest => classBody verbose fuel (state.operate .inter) rest
    | '-' :: '-' :: rest => classBody verbose fuel (state.operate .diff) rest
    | '~' :: '~' :: rest => classBody verbose fuel (state.operate .symmDiff) rest
    | rest => do
      let (item, rest) ← classEntry verbose rest
      classBody verbose fuel (state.push item) rest

/-- A class after its opening bracket. -/
def bracketClass (verbose : Bool) (cs : List Char) :
    Except PatternError (Bracket × List Char) := do
  let (negated, state, rest) := openClass verbose cs
  let (body, rest) ← classBody verbose (rest.length + 1) state rest
  return (.bracket negated body, rest)

end KotlinMetadata.Pattern
