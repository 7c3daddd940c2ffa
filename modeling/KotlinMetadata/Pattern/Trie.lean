import KotlinMetadata.Pattern.Utf8

/-! # Tries

    Sequences that begin alike share what they begin with.

    - `RangeTrie`: sequences of byte ranges, in order;
    - `ByteTrie`: sequences of bytes to choose from, an earlier one being preferred.
-/

namespace KotlinMetadata

/-! ## Sequences of byte ranges -/

/-- The branches of a node, in order.  A node without branches is the end of a sequence. -/
inductive RangeTrie where
  | done
  /-- A branch, what is below it, and the branches beside it. -/
  | branch (r : ByteRange) (below beside : RangeTrie)
deriving Repr, Inhabited

namespace RangeTrie

/-- Puts a sequence in front of the others.  It shares what it has in common with the first of
    them. -/
def push : List ByteRange → RangeTrie → RangeTrie
  | [], t => t
  | r :: rs, branch q below beside =>
    if r = q then branch q (push rs below) beside
    else branch r (push rs done) (branch q below beside)
  | r :: rs, done => branch r (push rs done) done

/-- The trie of several sequences. -/
def ofSequences (sequences : List (List ByteRange)) : RangeTrie :=
  sequences.foldr push done

end RangeTrie

/-! ## Sequences of bytes -/

/-- The branches of a node, the newest one first, with a mark where a sequence ends.  What is
    below a mark is preferred to that sequence, what is above comes after it. -/
inductive ByteTrie where
  | done
  /-- A mark over older branches. -/
  | stop (older : ByteTrie)
  /-- A branch, what is below it, and the older branches beside it. -/
  | branch (byte : Nat) (below older : ByteTrie)
deriving Repr, Inhabited

namespace ByteTrie

/-- Changes what is below the branch of a byte, if there is one above all marks. -/
def modify? (byte : Nat) (change : ByteTrie → ByteTrie) : ByteTrie → Option ByteTrie
  | done | stop _ => none
  | branch b below older =>
    if b = byte then some (branch b (change below) older)
    else (modify? byte change older).map (branch b below)

/-- There is no branch. -/
def isLeaf : ByteTrie → Bool
  | done => true
  | stop older => older.isLeaf
  | branch _ _ _ => false

/-- Adds a sequence.  A second end at a node without branches makes no difference. -/
def insert : List Nat → ByteTrie → ByteTrie
  | [], done => stop done
  | [], t => if t.isLeaf then t else stop t
  | b :: bs, t => (t.modify? b (insert bs)).getD (branch b (insert bs done) t)

/-- The trie of several sequences. -/
def ofSequences (sequences : List (List Nat)) : ByteTrie :=
  sequences.foldl (fun t bytes => insert bytes t) done

end ByteTrie

end KotlinMetadata
