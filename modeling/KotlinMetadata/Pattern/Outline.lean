import KotlinMetadata.Pattern.Expr
import KotlinMetadata.Pattern.Trie
import KotlinMetadata.Text.Span

/-! # Outlines of automata

    A text can be searched by an automaton that reads it byte by byte, forwards to find where a
    match ends and backwards to find where it starts.  The outline of such an automaton says which
    states it needs and in which order they are made; what the edges lead to is left out, but for
    sets of characters, whose states are shared where they agree.

    - `Outline`: the outlines;
    - `Pattern.body`: the states for a pattern;
    - `Pattern.outline`: the whole automaton.
-/

namespace KotlinMetadata

/-- The states of an automaton or of a part of it. -/
inductive Outline where
  /-- States of their own, and the bytes that their edges take up in all. -/
  | states (count edgeBytes : Nat)
  /-- The states that read one of several sequences of byte ranges forwards. -/
  | readForwards (t : RangeTrie)
  /-- The states that read one of several sequences of byte ranges backwards. -/
  | readBackwards (sequences : List (List ByteRange))
  /-- The states of one part and then those of another. -/
  | both (first second : Outline)
  /-- The states of a part, several times over. -/
  | times (n : Nat) (part : Outline)
deriving Repr, Inhabited

/-- Which way an automaton reads. -/
inductive Direction where
  | forwards
  | backwards
deriving DecidableEq, Repr

namespace Outline

/-- What an edge of a state with several takes up when it is taken without reading. -/
def jumpBytes : Nat := 4

/-- What an edge of a state with several takes up when it is taken on a range of bytes. -/
def rangeBytes : Nat := 8

/-- A state that is passed through. -/
def pass : Outline := states 1 0

/-- A state that goes on in one of several ways. -/
def fork (ways : Nat) : Outline := states 1 (jumpBytes * ways)

/-- The states of several parts, one after another. -/
def all : List Outline → Outline
  | [] => states 0 0
  | [o] => o
  | o :: os => both o (all os)

/-- The states for one character of a set. -/
def ofSet (d : Direction) (s : CharSet) : Outline :=
  if s.isAscii then states 2 (rangeBytes * s.ranges.length)
  else
    match d with
    | .forwards => both pass (readForwards (.ofSequences s.byteSequences))
    | .backwards => both (states 2 0) (readBackwards s.byteSequences)

/-- A part, a fixed number of times. -/
def exactly (part : Outline) (n : Nat) : Outline :=
  if n = 0 then pass else times n part

/-- A part, a given number of times or more.  One that can be passed without reading needs states
    of its own against going around for nothing. -/
def atLeast (part : Outline) (reads : Bool) : Nat → Outline
  | 0 => if reads then both (fork 2) part else all [part, fork 2, fork 2, pass]
  | 1 => both part (fork 2)
  | n + 2 => all [times (n + 1) part, part, fork 2]

/-- A part, repeated. -/
def iterate (part : Outline) (reads : Bool) (min : Nat) : Option Nat → Outline
  | none => atLeast part reads min
  | some max =>
    if min = 0 ∧ max = 1 then all [fork 2, part, pass]
    else if min = max then exactly part min
    else all [exactly part min, pass, times (max - min) (both (fork 2) part)]

/-- One of several parts. -/
def choice : List Outline → Outline
  | first :: second :: rest => all (first :: second :: fork (rest.length + 2) :: pass :: rest)
  | parts => all parts

/-- The state for some branches that lead from one node of a trie by reading a byte. -/
def ofBranches : Nat → Outline
  | 0 => states 0 0
  | 1 => states 1 jumpBytes
  | n => states 1 (jumpBytes + rangeBytes * n)

/-- The states for the branches of a node and what is below, given how many branches of the node
    have been passed since its start or since a mark. -/
def ofNode (passed : Nat) : ByteTrie → Outline
  | .done => ofBranches passed
  | .stop older => all [ofBranches passed, states 0 jumpBytes, ofNode 0 older]
  | .branch _ below older =>
    if below.isLeaf then ofNode (passed + 1) older
    else all [ofNode 0 below, pass, ofNode (passed + 1) older]

/-- The states for one of several texts. -/
def ofTexts (d : Direction) (texts : List (List Char)) : Outline :=
  let sequences := texts.map fun cs =>
    let bytes := cs.flatMap fun c => utf8Bytes c.toNat
    match d with
    | .forwards => bytes
    | .backwards => bytes.reverse
  all [pass, ofNode 0 (.ofSequences sequences), pass]

end Outline

namespace Pattern

mutual

/-- The number of characters in the shortest stretch that matches, unless there is a set without
    any. -/
def leastLength? : Pattern → Option Nat
  | empty | look _ => some 0
  | text cs => some cs.length
  | set s => if s.ranges.isEmpty then none else some 1
  | capture _ p => p.leastLength?
  | iterate p min _ _ => p.leastLength?.map (· * min)
  | concat ps => leastLengths? ps |>.map (·.foldl (· + ·) 0)
  | either ps => leastLengths? ps |>.map fun ns => ns.min?.getD 0

/-- The number for each of several patterns. -/
def leastLengths? : List Pattern → Option (List Nat)
  | [] => some []
  | p :: ps =>
    match p.leastLength?, leastLengths? ps with
    | some n, some ns => some (n :: ns)
    | _, _ => none

end

mutual

/-- Every match is at the start of the text, as the pattern is written. -/
def isAtStart : Pattern → Bool
  | look l => l = .textStart
  | capture _ p => p.isAtStart
  | iterate p min _ _ => 0 < min && p.isAtStart
  | concat ps => beginAtStart ps
  | either ps => areAtStart ps
  | _ => false

/-- Every match of patterns one after another begins at the start of the text. -/
def beginAtStart : List Pattern → Bool
  | [] => false
  | p :: ps => p.isAtStart || (p.isEmptyOnly && beginAtStart ps)

/-- Every match of each pattern is at the start of the text. -/
def areAtStart : List Pattern → Bool
  | [] => true
  | p :: ps => p.isAtStart && areAtStart ps

end

mutual

/-- Every match is at the end of the text, as the pattern is written. -/
def isAtEnd : Pattern → Bool
  | look l => l = .textEnd
  | capture _ p => p.isAtEnd
  | iterate p min _ _ => 0 < min && p.isAtEnd
  | concat ps => finishAtEnd ps
  | either ps => areAtEnd ps
  | _ => false

/-- Every match of patterns one after another ends at the end of the text. -/
def finishAtEnd : List Pattern → Bool
  | [] => false
  | p :: ps => finishAtEnd ps || (areEmptyOnly ps && p.isAtEnd)

/-- Every match of each pattern is at the end of the text. -/
def areAtEnd : List Pattern → Bool
  | [] => true
  | p :: ps => p.isAtEnd && areAtEnd ps

end

/-- The texts of a choice between two texts or more. -/
def texts? : List Pattern → Option (List (List Char))
  | [] => some []
  | text cs :: ps => (texts? ps).map (cs :: ·)
  | _ => none

mutual

/-- The states for a pattern.  Where a captured group starts and ends is kept forwards alone. -/
def body (d : Direction) : Pattern → Outline
  | empty | look _ => .pass
  | text cs => .states (Text.byteLength cs) 0
  | set s => .ofSet d s
  | capture _ p =>
    match d with
    | .forwards => .all [.pass, p.body d, .pass]
    | .backwards => p.body d
  | iterate p min max _ => (p.body d).iterate (p.leastLength?.any (0 < ·)) min max
  | concat ps =>
    match d with
    | .forwards => .all (bodies d ps)
    | .backwards => .all (bodies d ps).reverse
  | either ps =>
    match texts? ps with
    | some texts => .ofTexts d texts
    | none => .choice (bodies d ps)

/-- The states for each of several patterns. -/
def bodies (d : Direction) : List Pattern → List Outline
  | [] => []
  | p :: ps => p.body d :: bodies d ps

end

/-- The automaton that searches for a pattern.  A pattern that matches at one end of the text
    alone is looked for nowhere else. -/
def outline (d : Direction) (p : Pattern) : Outline :=
  let search : Outline := .all [.fork 2, .states 2 Outline.rangeBytes]
  match d with
  | .forwards =>
    .all [if p.isAtStart then .pass else search, .pass, p.body d, .pass, .pass]
  | .backwards =>
    .all [if p.isAtEnd then .pass else search, p.body d, .pass]

end Pattern

end KotlinMetadata
