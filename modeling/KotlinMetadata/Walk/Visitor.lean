import KotlinMetadata.ClassFile.Pool
import KotlinMetadata.Walk.Order

/-! # Visitors

    A visitor reacts to the nodes of a walk and keeps a state.  It may have a handler for each
    kind of node; a node without one goes to the handler of declaration containers, if its root
    carries one, and from there, as every other node, to the handler of any node.

    - `Visitor`: the handlers, `Visitor.visit` the rule above;
    - `Visitor.walk`: all dispatches of a walk, in order;
    - `Visitor.restrict`: lets only nodes of given kinds through;
    - `NodeCounter`: the visitor that counts nodes by kind.
-/

namespace KotlinMetadata

/-- What every handler is told: the graph being walked and the class it belongs to. -/
structure Context where
  /-- The classes that links are looked up in. -/
  pool : ClassPool
  /-- The class of the graph. -/
  jvmClass : JvmClass
  /-- The root of the graph. -/
  metadata : Metadata

/-- The handlers of a visitor with states in `σ`. -/
structure Visitor (σ : Type) where
  /-- The handler of any node; by default nothing happens. -/
  any : Context → Node → σ → σ := fun _ _ s => s
  /-- The handler of the container of a root, if there is one. -/
  container : Option (Context → Container → σ → σ) := none
  /-- The handler of each kind of node, if there is one. -/
  handler : NodeKind → Option (Context → Dispatch → σ → σ) := fun _ => none

namespace Visitor

variable {σ : Type}

/-- Shows a container.  Without a handler of its own it is shown as the root it belongs to. -/
def visitContainer (v : Visitor σ) (ctx : Context) (c : Container) (s : σ) : σ :=
  match v.container with
  | some handle => handle ctx c s
  | none => v.any ctx (.root ctx.metadata) s

/-- What happens to a dispatch that no handler is for. -/
def visitFallback (v : Visitor σ) (ctx : Context) (d : Dispatch) (s : σ) : σ :=
  match d with
  | .root m =>
    match m.container? with
    | some c => v.visitContainer ctx c s
    | none => v.any ctx (.root ctx.metadata) s
  | d => v.any ctx d.node s

/-- Shows a dispatch. -/
def visit (v : Visitor σ) (ctx : Context) (d : Dispatch) (s : σ) : σ :=
  match v.handler d.kind with
  | some handle => handle ctx d s
  | none => v.visitFallback ctx d s

/-- Shows dispatches one after the other. -/
def visitAll (v : Visitor σ) (ctx : Context) (ds : List Dispatch) (s : σ) : σ :=
  ds.foldl (fun s d => v.visit ctx d s) s

/-- Shows every node of the graph. -/
def walk (v : Visitor σ) (ctx : Context) (s : σ) : σ :=
  v.visitAll ctx ctx.metadata.walk s

/-- Lets only dispatches of the given kinds through; a container counts as its root. -/
def restrict (kinds : List NodeKind) (v : Visitor σ) : Visitor σ where
  any ctx n s := if n.kind ∈ kinds then v.any ctx n s else s
  container := some fun ctx c s =>
    if ctx.metadata.nodeKind ∈ kinds then v.visitContainer ctx c s else s
  handler k := some fun ctx d s => if k ∈ kinds then v.visit ctx d s else s

end Visitor

/-! ## Counting -/

/-- How many nodes of each kind were shown. -/
structure NodeCounter where
  /-- The count of each kind. -/
  count : NodeKind → Nat := fun _ => 0

namespace NodeCounter

/-- One more node of a kind. -/
def add (c : NodeCounter) (kind : NodeKind) : NodeCounter where
  count k := if k = kind then c.count k + 1 else c.count k

/-- Nodes of all kinds together. -/
def total (c : NodeCounter) : Nat :=
  (Named.all : List NodeKind).foldl (fun total kind => total + c.count kind) 0

/-- The kinds that were shown, with their counts, in the order of kinds. -/
def counts (c : NodeCounter) : List (NodeKind × Nat) :=
  ((Named.all : List NodeKind).map fun k => (k, c.count k)).filter fun (_, n) => n != 0

/-- The visitor that counts. -/
def visitor : Visitor NodeCounter where
  any _ n c := c.add n.kind

end NodeCounter

end KotlinMetadata
