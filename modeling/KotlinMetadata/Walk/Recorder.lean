import KotlinMetadata.Walk.Label
import KotlinMetadata.Walk.Visitor

/-! # Recorders

    Visitors that write down what they are shown, one line for each handler that is called.

    - `Recorder.full` has every handler, `Recorder.any` only that of any node, and
      `Recorder.container` that of containers as well;
    - `Metadata.groups`: the children in one group, node by node, to show to a recorder.
-/

namespace KotlinMetadata

namespace Recorder

/-- Adds a line. -/
def record (line : String) (lines : List String) : List String := lines ++ [line]

/-- A recorder with every handler. -/
def full : Visitor (List String) where
  any _ n := record ("any " ++ n.label)
  container := some fun _ c => record c.label
  handler _ := some fun ctx d => record (d.text ctx.jvmClass.name)

/-- A recorder with the handler of any node alone. -/
def any : Visitor (List String) where
  any _ n := record (Named.name n.kind ++ "|" ++ n.label)

/-- A recorder with the handlers of containers and of any node. -/
def container : Visitor (List String) where
  any _ n := record n.label
  container := some fun _ c => record c.label

end Recorder

/-- The children in a group, for each node of the graph that has such a group. -/
def Metadata.groups (m : Metadata) (g : ChildGroup) : List (List Dispatch) :=
  m.walk.filterMap (ChildGroup.of? g)

end KotlinMetadata
