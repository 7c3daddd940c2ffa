import KotlinMetadata.ClassFile.Class
import KotlinMetadata.Log

/-! # The class pool

    The pool holds the classes of one run in the order of their identities, and hands identities
    out.  Identities of members are unique across the pool, and no identity is handed out twice,
    so a link to a member that was replaced never resolves again.

    - look-ups: `class?`, `classByName?`, `member?`;
    - structural edits, which fail with a `PoolError` and then leave the pool alone: `addClass`,
      `removeClass`, `addSubclass`, `addClassAttribute`, `addMember`, `addMemberAttribute`,
      `replaceMember`;
    - edits in place, of one class or member: `editClass`, `editMember`.

    Names are looked up in an index of their own that only adding and removing a class touches:
    an edit in place that renames a class leaves it behind.
-/

namespace KotlinMetadata

/-- Why a structural edit is refused. -/
inductive PoolError where
  /-- No class of the pool has this identity. -/
  | classNotFound (id : ClassId)
  /-- The name is taken. -/
  | duplicateClass (name : String)
  /-- The class is not in the pool or has no such member. -/
  | memberNotFound (ref : MemberRef)
deriving DecidableEq, Repr

/-- The wording of a refusal. -/
def PoolError.message : PoolError → String
  | .classNotFound id => "class not found: " ++ id.text
  | .duplicateClass name => "duplicate class: " ++ name
  | .memberNotFound ref => "member " ++ ref.member.text ++ " not found in " ++ ref.owner.text

/-- What a structural edit reports. -/
inductive PoolEvent where
  /-- A class left the pool. -/
  | removed (name : String) (id : ClassId)
  /-- A member got a new identity. -/
  | replaced (ref : MemberRef) (fresh : MemberId)
deriving DecidableEq, Repr

/-- The log line of an event. -/
def PoolEvent.line : PoolEvent → LogLine
  | .removed name id => ⟨.debug, "Removed class " ++ name ++ " (" ++ id.text ++ ")"⟩
  | .replaced ref fresh =>
    ⟨.debug, "Replaced member " ++ ref.member.text ++ " with " ++ fresh.text ++ " in " ++
      ref.owner.text⟩

/-- The classes of one run. -/
structure ClassPool where
  /-- The classes, in the order of their identities, which is the order of adding. -/
  classes : List JvmClass := []
  /-- The class that each taken name stands for. -/
  nameIndex : List (String × ClassId) := []
  /-- The number of the next class. -/
  nextClass : UInt32 := 0
  /-- The number of the next member. -/
  nextMember : UInt32 := 0
deriving Repr

namespace ClassPool

/-! ## Look-ups -/

/-- The class with a given identity. -/
def class? (pool : ClassPool) (id : ClassId) : Option JvmClass :=
  pool.classes.find? (·.id == id)

/-- The class a name stands for, if it is still in the pool. -/
def classByName? (pool : ClassPool) (name : String) : Option JvmClass :=
  (pool.nameIndex.lookup name).bind pool.class?

/-- The member a link leads to. -/
def member? (pool : ClassPool) (ref : MemberRef) : Option Member :=
  (pool.class? ref.owner).bind (·.findMember? ref.member)

/-- Edits the class with a given identity where it stands. -/
def mapClass (pool : ClassPool) (id : ClassId) (f : JvmClass → JvmClass) : ClassPool :=
  { pool with classes := pool.classes.map fun c => if c.id == id then f c else c }

/-! ## Structural edits -/

/-- Adds an empty public class under a name that is not taken. -/
def addClass (pool : ClassPool) (name : String) (kind : ClassKind) :
    Except PoolError (ClassId × ClassPool) :=
  if (pool.nameIndex.lookup name).isSome then .error (.duplicateClass name)
  else
    let id : ClassId := ⟨pool.nextClass⟩
    .ok (id, { pool with
      classes := pool.classes ++ [{ id, name, kind }]
      nameIndex := pool.nameIndex ++ [(name, id)]
      nextClass := pool.nextClass + 1 })

/-- Removes a class, its current name and every mention of it as a direct subclass. -/
def removeClass (pool : ClassPool) (id : ClassId) : Except PoolError (JvmClass × ClassPool) :=
  match pool.class? id with
  | none => .error (.classNotFound id)
  | some c =>
    .ok (c, { pool with
      classes := (pool.classes.filter (·.id != id)).map fun other =>
        { other with subclasses := other.subclasses.filter (· != id) }
      nameIndex := pool.nameIndex.filter (·.1 != c.name) })

/-- Records a direct subclass, once. -/
def addSubclass (pool : ClassPool) (super sub : ClassId) : Except PoolError ClassPool :=
  if (pool.class? sub).isNone then .error (.classNotFound sub)
  else if (pool.class? super).isNone then .error (.classNotFound super)
  else .ok (pool.mapClass super fun c =>
    if c.hasDirectSubclass sub then c else { c with subclasses := c.subclasses ++ [sub] })

/-- Adds an attribute to a class. -/
def addClassAttribute (pool : ClassPool) (id : ClassId) (added : Attribute) :
    Except PoolError ClassPool :=
  if (pool.class? id).isNone then .error (.classNotFound id)
  else .ok (pool.mapClass id fun c => { c with attributes := c.attributes ++ [added] })

/-- Adds a public member without attributes at the end of its list. -/
def addMember (pool : ClassPool) (owner : ClassId) (kind : MemberKind)
    (name descriptor : String) : Except PoolError (MemberRef × ClassPool) :=
  if (pool.class? owner).isNone then .error (.classNotFound owner)
  else
    let member : MemberId := ⟨pool.nextMember⟩
    let edited := pool.mapClass owner (·.addMember { id := member, kind, name, descriptor })
    .ok (⟨owner, member⟩, { edited with nextMember := pool.nextMember + 1 })

/-- Adds an attribute to a member. -/
def addMemberAttribute (pool : ClassPool) (ref : MemberRef) (added : Attribute) :
    Except PoolError ClassPool :=
  if (pool.member? ref).isNone then .error (.memberNotFound ref)
  else .ok (pool.mapClass ref.owner (·.mapMember ref.member fun m =>
    { m with attributes := m.attributes ++ [added] }))

/-- Gives a member a fresh identity; everything else about it stays, its place included. -/
def replaceMember (pool : ClassPool) (ref : MemberRef) :
    Except PoolError (MemberRef × ClassPool) :=
  if (pool.member? ref).isNone then .error (.memberNotFound ref)
  else
    let fresh : MemberId := ⟨pool.nextMember⟩
    let edited := pool.mapClass ref.owner (·.mapMember ref.member fun m => { m with id := fresh })
    .ok (⟨ref.owner, fresh⟩, { edited with nextMember := pool.nextMember + 1 })

end ClassPool

/-! ## Edits in place -/

/-- Changes to a class in place; what is not given stays. -/
structure ClassEdit where
  /-- A new name. -/
  name : Option String := none
  /-- New access flags. -/
  accessFlags : Option UInt16 := none
  /-- Another kind. -/
  kind : Option ClassKind := none
  /-- A member to drop from fields and methods. -/
  dropMember : Option MemberId := none
  /-- Whether the attributes are dropped. -/
  clearAttributes : Bool := false
deriving DecidableEq, Repr

/-- Changes to a member in place; what is not given stays. -/
structure MemberEdit where
  /-- A new name. -/
  name : Option String := none
  /-- A new descriptor. -/
  descriptor : Option String := none
  /-- New access flags. -/
  accessFlags : Option UInt16 := none
  /-- Whether the attributes are dropped. -/
  clearAttributes : Bool := false
deriving DecidableEq, Repr

/-- The class with the changes made. -/
def ClassEdit.apply (edit : ClassEdit) (c : JvmClass) : JvmClass :=
  let kept := match edit.dropMember with
    | some id => c.dropMember id
    | none => c
  { kept with
    name := edit.name.getD c.name
    accessFlags := edit.accessFlags.getD c.accessFlags
    kind := edit.kind.getD c.kind
    attributes := if edit.clearAttributes then [] else c.attributes }

/-- The member with the changes made. -/
def MemberEdit.apply (edit : MemberEdit) (m : Member) : Member :=
  { m with
    name := edit.name.getD m.name
    descriptor := edit.descriptor.getD m.descriptor
    accessFlags := edit.accessFlags.getD m.accessFlags
    attributes := if edit.clearAttributes then [] else m.attributes }

namespace ClassPool

/-- Changes a class in place, if it is in the pool. -/
def editClass (pool : ClassPool) (id : ClassId) (edit : ClassEdit) : ClassPool :=
  pool.mapClass id edit.apply

/-- Changes a member in place, if the link leads to one. -/
def editMember (pool : ClassPool) (ref : MemberRef) (edit : MemberEdit) : ClassPool :=
  pool.mapClass ref.owner (·.mapMember ref.member edit.apply)

end ClassPool

end KotlinMetadata
