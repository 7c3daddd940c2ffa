import KotlinMetadata.Pattern.Outline
import Std.Data.HashMap

/-! # The size of a pattern

    A pattern is refused when an automaton for it would take up too much memory.  The automata
    are not made: their states are counted along the outline.

    - `Footprint`: the states made so far, and `Footprint.grow`, which stops at the limit;
    - `Sharing`: the states for a set, where states that agree may be made once;
    - `Pattern.fits`: the automata for a pattern stay within the limit.
-/

namespace KotlinMetadata

/-! ## Counting states -/

/-- What the states made so far take up. -/
structure Footprint where
  /-- Their number, which is also the number of the next state. -/
  states : Nat := 0
  /-- The bytes of their edges. -/
  edgeBytes : Nat := 0
deriving DecidableEq, Repr, Inhabited

namespace Footprint

/-- The bytes of a state without its edges. -/
def stateBytes : Nat := 32

/-- The bytes that an automaton may take up. -/
def limit : Nat := 10 * 1024 * 1024

/-- More states, as long as the limit is kept. -/
def grow (f : Footprint) (states edgeBytes : Nat) : Option Footprint :=
  let g : Footprint := { states := f.states + states, edgeBytes := f.edgeBytes + edgeBytes }
  if stateBytes * g.states + g.edgeBytes ≤ limit then some g else none

/-- Grows several times over, as long as the limit is kept. -/
def growTimes (step : Footprint → Option Footprint) : Nat → Footprint → Option Footprint
  | 0, f => some f
  | n + 1, f =>
    match step f with
    | some f => growTimes step n f
    | none => none

end Footprint

/-! ## Shared states -/

/-- The states for one set of characters.  A state is known by a key, the numbers that say what it
    reads and where it leads.  States made are kept in a table of fixed size in the slot that the
    hash of their keys picks; a later state takes the slot of an earlier one. -/
structure Sharing where
  footprint : Footprint
  /-- The number of slots. -/
  slots : Nat
  /-- The key and the number of the state in a slot. -/
  table : Std.HashMap Nat (List Nat × Nat) := {}

namespace Sharing

/-- The slots for the states of a set that is read forwards. -/
def forwardSlots : Nat := 10000

/-- The slots for the states of a set that is read backwards. -/
def backwardSlots : Nat := 1000

/-- What a hash starts from. -/
def hashBasis : UInt64 := 14695981039346656037

/-- What a hash is multiplied by for each number. -/
def hashPrime : UInt64 := 1099511628211

/-- The hash of a key: FNV-1a over its numbers. -/
def hash (key : List Nat) : UInt64 :=
  key.foldl (fun h n => (h ^^^ n.toUInt64) * hashPrime) hashBasis

/-- The state with a key, which is made if it is not in the table. -/
def state (s : Sharing) (key : List Nat) (edgeBytes : Nat) : Option (Nat × Sharing) :=
  let slot := (hash key).toNat % s.slots
  let found := s.table[slot]?.filter fun (known, _) => known == key
  match found with
  | some (_, number) => some (number, s)
  | none =>
    (s.footprint.grow 1 edgeBytes).map fun footprint =>
      let number := s.footprint.states
      (number, { s with footprint, table := s.table.insert slot (key, number) })

/-- The state of a node, given its key; one without branches is the target. -/
def node (s : Sharing) (target : Nat) (key : List Nat) : Option (Nat × Sharing) :=
  if key.isEmpty then some (target, s)
  else s.state key (Outline.rangeBytes * (key.length / 3))

/-- Makes the states below the branches of a node, and gives the key of the node. -/
def branches (target : Nat) : RangeTrie → Sharing → Option (List Nat × Sharing)
  | .done, s => some ([], s)
  | .branch r below beside, s => do
    let (key, s) ← branches target below s
    let (next, s) ← s.node target key
    let (rest, s) ← branches target beside s
    return (r.first :: r.last :: next :: rest, s)

/-- Makes the states that read a sequence backwards, given the state that comes after. -/
def sequence (next : Nat) : List ByteRange → Sharing → Option Sharing
  | [], s => do
    let footprint ← s.footprint.grow 0 Outline.jumpBytes
    return { s with footprint }
  | r :: rs, s => do
    let (next, s) ← s.state [next, r.first, r.last] 0
    sequence next rs s

/-- Makes the states that read one of several sequences backwards. -/
def sequences (next : Nat) : List (List ByteRange) → Sharing → Option Sharing
  | [], s => some s
  | rs :: rest, s => (sequence next rs s).bind (sequences next rest)

end Sharing

/-! ## Whole automata -/

/-- What the states of an outline take up together with those made before.  The state that the
    sequences of a set lead to is the last one made before them. -/
def Outline.measure : Outline → Footprint → Option Footprint
  | states count edgeBytes, f => f.grow count edgeBytes
  | readForwards t, f => do
    let target := f.states - 1
    let (key, s) ← Sharing.branches target t { footprint := f, slots := Sharing.forwardSlots }
    let (_, s) ← s.node target key
    return s.footprint
  | readBackwards sequences, f =>
    let s : Sharing := { footprint := f, slots := Sharing.backwardSlots }
    (Sharing.sequences (f.states - 1) sequences s).map (·.footprint)
  | both first second, f => (measure first f).bind (measure second)
  | times n part, f => Footprint.growTimes (measure part) n f

/-- The automata for a pattern stay within the limit. -/
def Pattern.fits (p : Pattern) : Bool :=
  ((p.outline .forwards).measure {}).isSome && ((p.outline .backwards).measure {}).isSome

end KotlinMetadata
