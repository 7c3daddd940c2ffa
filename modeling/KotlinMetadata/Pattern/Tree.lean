import KotlinMetadata.Named
import KotlinMetadata.Pattern.Expr

/-! # Patterns as written

    The tree of a pattern text, before its flags have been taken into account.

    - `Flag`, `FlagChange`: the switches that a pattern can set for what follows;
    - `Atom`: what an escape can stand for;
    - `Bracket`: what stands between brackets;
    - `Tree`: a whole pattern, with `depth`, how deeply it is nested, and `captureNames`.
-/

namespace KotlinMetadata.Pattern

/-! ## Flags -/

/-- A switch that changes how a pattern is read. -/
inductive Flag where
  /-- Case makes no difference. -/
  | ignoreCase
  /-- `^` and `$` stand for the ends of lines. -/
  | multiLine
  /-- A point also stands for a line feed. -/
  | dotAll
  /-- Greedy and lazy repetition change places. -/
  | swapGreed
  /-- Classes and changes of case reach beyond ASCII. -/
  | unicode
  /-- A carriage return ends a line as well. -/
  | crlf
  /-- White space and comments in the pattern are passed over. -/
  | verbose
deriving DecidableEq, Repr

/-- The letter of a flag. -/
def Flag.ofLetter? : Char → Option Flag
  | 'i' => some .ignoreCase
  | 'm' => some .multiLine
  | 's' => some .dotAll
  | 'U' => some .swapGreed
  | 'u' => some .unicode
  | 'R' => some .crlf
  | 'x' => some .verbose
  | _ => none

/-- Flags that are switched on (`true`) or off, no flag more than once. -/
abbrev FlagChange := List (Flag × Bool)

/-- What a change makes of a flag. -/
def FlagChange.applyTo (change : FlagChange) (flag : Flag) (old : Bool) : Bool :=
  (change.lookup flag).getD old

/-! ## Atoms -/

/-- A character in a pattern. -/
structure Literal where
  /-- The character. -/
  char : Char
  /-- It was written as two hexadecimal digits and so may stand for a byte. -/
  isByte : Bool := false
deriving DecidableEq, Repr

/-- A class of characters written without brackets. -/
inductive CharClass where
  | digit
  | space
  | word
  /-- A property of one letter or a name between braces. -/
  | property (name : List Char)
  /-- A name and a value between braces. -/
  | propertyValue (name value : List Char)
deriving DecidableEq, Repr

/-- A condition on a place, as written. -/
inductive Anchor where
  | caret
  | dollar
  | textStart
  | textEnd
  | word (kind : WordLook)
deriving DecidableEq, Repr

/-- What an escape stands for. -/
inductive Atom where
  | literal (l : Literal)
  | anchor (a : Anchor)
  | named (name : CharClass) (negated : Bool)
deriving DecidableEq, Repr

/-! ## Brackets -/

/-- An operation between two classes. -/
inductive SetOp where
  | inter
  | diff
  | symmDiff
deriving DecidableEq, Repr

/-- A class of ASCII characters that is written by name inside brackets. -/
inductive AsciiClass where
  | alnum
  | alpha
  | ascii
  | blank
  | cntrl
  | digit
  | graph
  | lower
  | print
  | punct
  | space
  | upper
  | word
  | xdigit
deriving DecidableEq, Repr

instance : Named AsciiClass where
  all := [.alnum, .alpha, .ascii, .blank, .cntrl, .digit, .graph, .lower, .print, .punct,
    .space, .upper, .word, .xdigit]
  name
    | .alnum => "alnum"
    | .alpha => "alpha"
    | .ascii => "ascii"
    | .blank => "blank"
    | .cntrl => "cntrl"
    | .digit => "digit"
    | .graph => "graph"
    | .lower => "lower"
    | .print => "print"
    | .punct => "punct"
    | .space => "space"
    | .upper => "upper"
    | .word => "word"
    | .xdigit => "xdigit"

/-- What stands between brackets. -/
inductive Bracket where
  | literal (l : Literal)
  | range (lo hi : Literal)
  | ascii (kind : AsciiClass) (negated : Bool)
  | named (name : CharClass) (negated : Bool)
  | bracket (negated : Bool) (body : Bracket)
  /-- Items side by side. -/
  | items (list : List Bracket)
  | binary (op : SetOp) (left right : Bracket)
deriving Repr, Inhabited

namespace Bracket

/-- Items side by side; a single one stands for itself. -/
def ofItems : List Bracket → Bracket
  | [item] => item
  | list => items list

mutual

/-- How deeply a class is nested. -/
def depth : Bracket → Nat
  | bracket _ body => body.depth + 1
  | items list => if list.isEmpty then 0 else depthOfItems list + 1
  | binary _ left right => max left.depth right.depth + 1
  | _ => 0

/-- The greatest depth of the items. -/
def depthOfItems : List Bracket → Nat
  | [] => 0
  | item :: list => max item.depth (depthOfItems list)

end

end Bracket

/-! ## Patterns -/

/-- What an opening parenthesis begins. -/
inductive GroupKind where
  /-- A group that is captured, under a name if it has one. -/
  | capture (name : Option (List Char))
  /-- A group with flags of its own. -/
  | plain (change : FlagChange)
deriving DecidableEq, Repr

/-- A pattern as written. -/
inductive Tree where
  | atom (a : Atom)
  | dot
  | bracket (c : Bracket)
  /-- Flags for what follows in the group. -/
  | flags (change : FlagChange)
  /-- As many repetitions as can be, or with the mark of a lazy one as few. -/
  | iterate (p : Tree) (min : Nat) (max : Option Nat) (lazy : Bool)
  | group (kind : GroupKind) (body : Tree)
  | concat (list : List Tree)
  | either (list : List Tree)
deriving Repr, Inhabited

namespace Tree

/-- Patterns one after another; a single one stands for itself. -/
def ofConcat : List Tree → Tree
  | [p] => p
  | list => concat list

/-- Patterns to choose from; a single one stands for itself. -/
def ofEither : List Tree → Tree
  | [p] => p
  | list => either list

mutual

/-- How deeply a pattern is nested. -/
def depth : Tree → Nat
  | atom _ | dot | flags _ => 0
  | bracket c => c.depth
  | iterate p _ _ _ => p.depth + 1
  | group _ body => body.depth + 1
  | concat list => if list.isEmpty then 0 else depthOfList list + 1
  | either list => depthOfList list + 1

/-- The greatest depth among patterns. -/
def depthOfList : List Tree → Nat
  | [] => 0
  | p :: ps => max p.depth (depthOfList ps)

end

mutual

/-- The names of the captured groups, in order. -/
def captureNames : Tree → List (List Char)
  | atom _ | dot | bracket _ | flags _ => []
  | iterate p _ _ _ => p.captureNames
  | group (.capture name) body => name.toList ++ body.captureNames
  | group (.plain _) body => body.captureNames
  | concat list | either list => captureNamesOfList list

/-- The names of the captured groups in patterns. -/
def captureNamesOfList : List Tree → List (List Char)
  | [] => []
  | p :: ps => p.captureNames ++ captureNamesOfList ps

end

end Tree

end KotlinMetadata.Pattern
