import KotlinMetadata.ClassFile.Visitor
import KotlinMetadata.Integrity.Violation
import KotlinMetadata.Walk.Visitor

/-! # Checks of a single link

    - `Site`: the node whose links are checked, and the graph it is in;
    - `MemberVisitor.matching`, `ClassPool.lists`: a member of the kind asked for has the identity,
      found by a visitor or at once;
    - `ifMissing`: a link must have been resolved;
    - `ifDangling`: the member a link was resolved to must be listed by the claimed class, among
      its members of the kind asked for;
    - `checkMember`: both for a link to a member, the second where the first holds.

    Only identities decide.  A member of the same name with another identity does not do.
-/

namespace KotlinMetadata

/-- A node whose links are checked. -/
structure Site where
  /-- The graph and the class it belongs to. -/
  ctx : Context
  /-- How the node is named in a violation. -/
  parentElement : String

/-- A visitor that notes whether a member has an identity. -/
def MemberVisitor.matching (target : MemberId) : MemberVisitor Bool where
  any _ m := modify fun matched => matched || m.id == target

/-- Some class of the pool has the identity and lists such a member. -/
def ClassPool.lists (pool : ClassPool) (kind : MemberKind) (ref : MemberRef) : Bool :=
  match pool.class? ref.owner with
  | some c => (c.membersOfKind kind).any (·.id == ref.member)
  | none => false

namespace Site

/-- A violation at this node. -/
def violation (site : Site) (kind : ViolationKind) (element : String) : Violation where
  kind := kind
  parentElement := site.parentElement
  checkedElement := element
  classId := site.ctx.jvmClass.id
  className := site.ctx.jvmClass.name
  metadataKind := site.ctx.metadata.kind

/-- A violation if nothing was resolved. -/
def ifMissing {α : Type} (site : Site) (link : Option α) (element : String) : List Violation :=
  if link.isNone then [site.violation .missingReference element] else []

/-- A violation if the claimed class does not list the member. -/
def ifDangling (site : Site) (kind : MemberKind) (ref : MemberRef) (element : String) :
    List Violation :=
  if site.ctx.pool.lists kind ref then [] else [site.violation .invalidReference element]

/-- A violation if a link to a member was not resolved or the member is gone. -/
def checkMember (site : Site) (kind : MemberKind) (link : Option MemberRef)
    (element : String) : List Violation :=
  site.ifMissing link element ++
    match link with
    | some ref => site.ifDangling kind ref element
    | none => []

end Site

end KotlinMetadata
