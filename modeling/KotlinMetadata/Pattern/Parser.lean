import KotlinMetadata.Pattern.Bracket

/-! # Reading a pattern

    A pattern is a choice of sequences, a sequence a row of items: characters, points, anchors,
    escapes, classes, groups, changes of flags, and repetitions of the item before.

    - `groupOpening` reads what follows an opening parenthesis;
    - `repetitionBounds` reads the bounds between braces;
    - `choice` reads up to the end of a group or of the text;
    - `Tree.ofText?` reads a whole text.

    Verbose mode ends with the group it was switched on in.
-/

namespace KotlinMetadata.Pattern

/-! ## Groups -/

/-- The flags up to a colon or closing parenthesis, which is left.  A hyphen, of which there may
    be one and not at the end, switches the flags after it off. -/
def flagChange (on : Bool) (change : FlagChange) :
    List Char → Except PatternError (FlagChange × List Char)
  | [] => .error .flags
  | '-' :: cs =>
    match on, cs with
    | false, _ | true, [] | true, ':' :: _ | true, ')' :: _ => .error .flags
    | true, cs => flagChange false change cs
  | c :: cs =>
    if c = ':' || c = ')' then .ok (change, c :: cs)
    else match Flag.ofLetter? c with
      | none => .error .flags
      | some flag =>
        if (change.lookup flag).isSome then .error .flags
        else flagChange on (change ++ [(flag, on)]) cs

/-- The character can stand in the name of a group, at its start or further on. -/
def isNameCharacter (first : Bool) (c : Char) : Bool :=
  c == '_' || CharSet.alphabetic.contains c || CharSet.newerLetters.contains c ||
    (!first && (c == '.' || c == '[' || c == ']' || CharSet.numeric.contains c ||
      CharSet.newerNumbers.contains c))

/-- The name of a group, up to an angle bracket. -/
def captureName (cs : List Char) : Except PatternError (List Char × List Char) :=
  match breakAt ['>'] cs with
  | some (c :: name, rest) =>
    if isNameCharacter true c && name.all (isNameCharacter false) then .ok (c :: name, rest)
    else .error .captureName
  | _ => .error .captureName

/-- What an opening parenthesis begins. -/
inductive Opening where
  /-- Flags for the rest of the group around it. -/
  | flags (change : FlagChange)
  /-- A group. -/
  | group (kind : GroupKind)

/-- What follows an opening parenthesis. -/
def groupOpening (cs : List Char) : Except PatternError (Opening × List Char) :=
  match cs with
  | '?' :: '=' :: _ | '?' :: '!' :: _ | '?' :: '<' :: '=' :: _ | '?' :: '<' :: '!' :: _ =>
    .error .lookAround
  | '?' :: 'P' :: '<' :: rest | '?' :: '<' :: rest =>
    (captureName rest).map fun (name, rest) => (.group (.capture (some name)), rest)
  | '?' :: rest =>
    match flagChange true [] rest with
    | .error e => .error e
    | .ok ([], ')' :: _) => .error .operandMissing
    | .ok (change, ')' :: rest) => .ok (.flags change, rest)
    | .ok (change, rest) => .ok (.group (.plain change), rest.drop 1)
  | rest => .ok (.group (.capture none), rest)

/-- Whether verbose mode is on inside a group. -/
def GroupKind.verbose (kind : GroupKind) (around : Bool) : Bool :=
  match kind with
  | .capture _ => around
  | .plain change => change.applyTo .verbose around

/-! ## Repetitions -/

/-- What is to be repeated: the last item, if there is one and it is no change of flags. -/
def operand : List Tree → Except PatternError (Tree × List Tree)
  | [] | .flags _ :: _ => .error .operandMissing
  | item :: items => .ok (item, items)

/-- The mark of a lazy repetition, if it comes next. -/
def lazyMark : List Char → Bool × List Char
  | '?' :: cs => (true, cs)
  | cs => (false, cs)

/-- Repeats the last item, given what follows the sign for that. -/
def repeatLast (items : List Tree) (min : Nat) (max : Option Nat) (rest : List Char) :
    Except PatternError (List Tree × List Char) :=
  let (lazy, rest) := lazyMark rest
  (operand items).map fun (item, items) => (.iterate item min max lazy :: items, rest)

/-- A number of 32 bits between white space, if there is one. -/
def bound (verbose : Bool) (cs : List Char) : Except PatternError (Option Nat × List Char) :=
  let (digits, rest) := gather verbose Char.isDigit (cs.dropWhile Text.isWhiteSpace)
  let rest := skip verbose (rest.dropWhile Text.isWhiteSpace)
  if digits.isEmpty then .ok (none, rest)
  else if decimal digits < UInt32.size then .ok (some (decimal digits), rest)
  else .error .repetitionBounds

/-- The bounds of a repetition after the opening brace: `n`, `n,` or `n,m`. -/
def repetitionBounds (verbose : Bool) (cs : List Char) :
    Except PatternError ((Nat × Option Nat) × List Char) := do
  let (min, rest) ← bound verbose (skip verbose cs)
  match min, rest with
  | some min, '\x7d' :: rest => return ((min, some min), rest)
  | some min, ',' :: rest =>
    match skip verbose rest with
    | '\x7d' :: rest => return ((min, none), rest)
    | rest =>
      let (max, rest) ← bound verbose rest
      match max, rest with
      | some max, '\x7d' :: rest =>
        if min ≤ max then return ((min, some max), rest) else .error .repetitionBounds
      | _, _ => .error .repetitionBounds
  | _, _ => .error .repetitionBounds

/-! ## Patterns -/

/-- What is read of a group so far. -/
structure ChoiceState where
  /-- The finished sequences, the last one first. -/
  sequences : List Tree := []
  /-- The items of the sequence being read, the last one first. -/
  items : List Tree := []

namespace ChoiceState

/-- One more item. -/
def push (s : ChoiceState) (item : Tree) : ChoiceState :=
  { s with items := item :: s.items }

/-- Begins another sequence. -/
def next (s : ChoiceState) : ChoiceState where
  sequences := Tree.ofConcat s.items.reverse :: s.sequences

/-- The choice that has been read. -/
def finish (s : ChoiceState) : Tree :=
  Tree.ofEither s.next.sequences.reverse

end ChoiceState

/-- A choice of sequences up to the end of its group or of the text, which is left.  Every call
    leaves a shorter text, so its length bounds their number. -/
def choice : Nat → (verbose : Bool) → ChoiceState → List Char →
    Except PatternError (Tree × List Char)
  | 0, _, _, _ => .error .groupUnclosed
  | fuel + 1, verbose, state, cs => do
    match skip verbose cs with
    | [] => return (state.finish, [])
    | ')' :: rest => return (state.finish, ')' :: rest)
    | '|' :: rest => choice fuel verbose state.next rest
    | '(' :: rest =>
      let (opening, rest) ← groupOpening (skip verbose rest)
      match opening with
      | .flags change =>
        choice fuel (change.applyTo .verbose verbose) (state.push (.flags change)) rest
      | .group kind =>
        let (body, rest) ← choice fuel (GroupKind.verbose kind verbose) {} rest
        match rest with
        | ')' :: rest => choice fuel verbose (state.push (.group kind body)) rest
        | _ => .error .groupUnclosed
    | '[' :: rest =>
      let (tree, rest) ← bracketClass verbose rest
      choice fuel verbose (state.push (.bracket tree)) rest
    | '?' :: rest =>
      let (items, rest) ← repeatLast state.items 0 (some 1) rest
      choice fuel verbose { state with items } rest
    | '*' :: rest =>
      let (items, rest) ← repeatLast state.items 0 none rest
      choice fuel verbose { state with items } rest
    | '+' :: rest =>
      let (items, rest) ← repeatLast state.items 1 none rest
      choice fuel verbose { state with items } rest
    | '\x7b' :: rest =>
      let ((min, max), rest) ← repetitionBounds verbose rest
      let (items, rest) ← repeatLast state.items min max (skip verbose rest)
      choice fuel verbose { state with items } rest
    | '\\' :: rest =>
      let (atom, rest) ← escape verbose rest
      choice fuel verbose (state.push (.atom atom)) rest
    | '.' :: rest => choice fuel verbose (state.push .dot) rest
    | '^' :: rest => choice fuel verbose (state.push (.atom (.anchor .caret))) rest
    | '$' :: rest => choice fuel verbose (state.push (.atom (.anchor .dollar))) rest
    | c :: rest => choice fuel verbose (state.push (.atom (.literal ⟨c, false⟩))) rest

/-- How deeply a pattern may be nested. -/
def depthLimit : Nat := 250

/-- Reads a whole text as a pattern.  No two groups may have the same name. -/
def Tree.ofText? (cs : List Char) : Except PatternError Tree := do
  let (tree, rest) ← choice (cs.length + 1) false {} cs
  if !rest.isEmpty then .error .groupUnopened
  else if !decide tree.captureNames.Nodup then .error .captureName
  else if depthLimit < tree.depth then .error .tooDeep
  else return tree

end KotlinMetadata.Pattern
