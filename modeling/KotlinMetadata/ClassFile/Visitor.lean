import KotlinMetadata.ClassFile.Pool
import KotlinMetadata.Pattern.Matcher

/-! # Visitors of classes, members and attributes

    A visitor has a handler for any element and may have one for each kind of element, which goes
    before.  One that has neither for an element it is shown ends the run there.

    - `Visit`: what showing an element does to the state of the visitor, or that the run ends;
    - `ClassVisitor`, `MemberVisitor`, `AttributeVisitor`;
    - `ClassVisitor.fields`, `methods`, `members`, `membersOfKind`: from a visitor of members;
    - `ClassVisitor.filter`: shows only some classes, and those by the handler of their kind;
    - `ClassPool.acceptAll`, `ClassPool.accept`: shows the classes of a pool.
-/

namespace KotlinMetadata

/-! ## Visits -/

/-- The handler a visitor would have needed. -/
inductive MissingHandler where
  | anyClass
  | anyMember
  | anyAttribute
deriving DecidableEq, Repr

/-- The name of a handler. -/
def MissingHandler.name : MissingHandler → String
  | .anyClass => "visit_any_class"
  | .anyMember => "visit_any_member"
  | .anyAttribute => "visit_any_attribute"

/-- A step of a run over elements, with a state that outlives the end of the run. -/
abbrev Visit (σ : Type) := EStateM MissingHandler σ

/-! ## Classes -/

/-- A visitor of classes. -/
structure ClassVisitor (σ : Type) where
  /-- The handler of any class. -/
  any : JvmClass → Visit σ Unit := fun _ => throw MissingHandler.anyClass
  /-- The handler of classes of one kind, if there is one. -/
  handler : ClassKind → Option (JvmClass → Visit σ Unit) := fun _ => none

namespace ClassVisitor

variable {σ : Type}

/-- Shows a class as one of a kind. -/
def visitAs (v : ClassVisitor σ) (kind : ClassKind) (c : JvmClass) : Visit σ Unit :=
  match v.handler kind with
  | some handle => handle c
  | none => v.any c

/-- Shows a class. -/
def visit (v : ClassVisitor σ) (c : JvmClass) : Visit σ Unit := v.visitAs c.kind c

/-- Shows only the classes with a property. -/
def filter (p : JvmClass → Bool) (v : ClassVisitor σ) : ClassVisitor σ where
  handler kind := some fun c => if p c then v.visitAs kind c else pure ()

/-- Shows only the classes that do not list a given one as a direct subclass. -/
def withoutSubclass (sub : ClassId) (v : ClassVisitor σ) : ClassVisitor σ :=
  v.filter fun c => !c.hasDirectSubclass sub

/-- Shows only the classes whose name is matched. -/
def withName (m : Matcher NameTest) (v : ClassVisitor σ) : ClassVisitor σ :=
  v.filter fun c => m.matchesQuery { text := c.name.toList }

end ClassVisitor

namespace ClassPool

variable {σ : Type}

/-- Shows every class, in the order of their identities. -/
def acceptAll (pool : ClassPool) (visit : JvmClass → Visit σ Unit) : Visit σ Unit :=
  pool.classes.forM visit

/-- Shows a class, if it is in the pool. -/
def accept (pool : ClassPool) (id : ClassId) (visit : JvmClass → Visit σ Unit) : Visit σ Unit :=
  (pool.class? id).toList.forM visit

end ClassPool

/-! ## Members -/

/-- A visitor of members; every handler is told the class as well. -/
structure MemberVisitor (σ : Type) where
  /-- The handler of any member. -/
  any : JvmClass → Member → Visit σ Unit := fun _ _ => throw MissingHandler.anyMember
  /-- The handler of members of one kind, if there is one. -/
  handler : MemberKind → Option (JvmClass → Member → Visit σ Unit) := fun _ => none

namespace MemberVisitor

variable {σ : Type}

/-- Shows a member of a class as one of a kind. -/
def visitAs (v : MemberVisitor σ) (kind : MemberKind) (c : JvmClass) (m : Member) : Visit σ Unit :=
  match v.handler kind with
  | some handle => handle c m
  | none => v.any c m

/-- Shows a member of a class. -/
def visit (v : MemberVisitor σ) (c : JvmClass) (m : Member) : Visit σ Unit :=
  v.visitAs m.kind c m

end MemberVisitor

namespace ClassVisitor

variable {σ : Type}

/-- Shows the fields of each class. -/
def fields (v : MemberVisitor σ) : ClassVisitor σ where
  any c := c.fields.forM (v.visit c)

/-- Shows the methods of each class. -/
def methods (v : MemberVisitor σ) : ClassVisitor σ where
  any c := c.methods.forM (v.visit c)

/-- Shows the fields and then the methods of each class. -/
def members (v : MemberVisitor σ) : ClassVisitor σ where
  any c := do
    c.fields.forM (v.visit c)
    c.methods.forM (v.visit c)

/-- Shows the members of one kind of each class. -/
def membersOfKind (kind : MemberKind) (v : MemberVisitor σ) : ClassVisitor σ :=
  match kind with
  | .field => fields v
  | .method => methods v

end ClassVisitor

/-! ## Attributes -/

/-- What an attribute belongs to. -/
inductive AttributeOwner where
  | ofClass (c : JvmClass)
  | ofMember (c : JvmClass) (m : Member)
deriving DecidableEq, Repr

/-- The kinds of attributes. -/
inductive AttributeKind where
  | annotations
  | parameterAnnotations
  | other
deriving DecidableEq, Repr

/-- The kind of an attribute. -/
def Attribute.kind : Attribute → AttributeKind
  | .annotations _ _ => .annotations
  | .parameterAnnotations _ _ => .parameterAnnotations
  | .other _ => .other

/-- A visitor of attributes. -/
structure AttributeVisitor (σ : Type) where
  /-- The handler of any attribute. -/
  any : AttributeOwner → Attribute → Visit σ Unit := fun _ _ => throw MissingHandler.anyAttribute
  /-- The handler of attributes of one kind, if there is one. -/
  handler : AttributeKind → Option (AttributeOwner → Attribute → Visit σ Unit) := fun _ => none

/-- Shows an attribute. -/
def AttributeVisitor.visit {σ : Type} (v : AttributeVisitor σ) (owner : AttributeOwner)
    (a : Attribute) : Visit σ Unit :=
  match v.handler a.kind with
  | some handle => handle owner a
  | none => v.any owner a

/-- Shows the attributes of a class. -/
def JvmClass.acceptAttributes {σ : Type} (c : JvmClass) (v : AttributeVisitor σ) : Visit σ Unit :=
  c.attributes.forM (v.visit (.ofClass c))

/-- Shows the attributes of a member. -/
def Member.acceptAttributes {σ : Type} (m : Member) (c : JvmClass) (v : AttributeVisitor σ) :
    Visit σ Unit :=
  m.attributes.forM (v.visit (.ofMember c m))

end KotlinMetadata
