import KotlinMetadata.ClassFile.Attribute
import KotlinMetadata.ClassFile.Id

/-! # Classes and their members

    A class of the pool as far as metadata can refer to it: its members with their identities,
    its direct subclasses and its attributes.

    - `Member` and `JvmClass`: the records;
    - `findMember?` looks a member up by identity, `field?` and `method?` by name and descriptor;
    - `mapMember` edits the member of a given identity where it stands.
-/

namespace KotlinMetadata

/-- Whether a class is processed or only referred to. -/
inductive ClassKind where
  | program
  | library
deriving DecidableEq, Repr

instance : Named ClassKind where
  all := [.program, .library]
  name
    | .program => "program"
    | .library => "library"

/-- Whether a member is a field or a method. -/
inductive MemberKind where
  | field
  | method
deriving DecidableEq, Repr

instance : Named MemberKind where
  all := [.field, .method]
  name
    | .field => "field"
    | .method => "method"

/-- The access flag that every new class and member has. -/
def publicAccess : UInt16 := 0x0001

/-- The access flag of annotation classes. -/
def annotationAccess : UInt16 := 0x2000

/-- A field or method of a class. -/
structure Member where
  /-- Its identity in the pool. -/
  id : MemberId
  /-- Field or method. -/
  kind : MemberKind
  /-- Access flags. -/
  accessFlags : UInt16 := publicAccess
  /-- Its name. -/
  name : String
  /-- Its descriptor, such as `(I)V`. -/
  descriptor : String
  /-- Its attributes, in order. -/
  attributes : List Attribute := []
deriving DecidableEq, Repr

/-- A class of a pool. -/
structure JvmClass where
  /-- Its identity in the pool. -/
  id : ClassId
  /-- Its name, such as `com/example/Foo`. -/
  name : String
  /-- Processed or only referred to. -/
  kind : ClassKind
  /-- Access flags. -/
  accessFlags : UInt16 := publicAccess
  /-- Its fields, in order. -/
  fields : List Member := []
  /-- Its methods, in order. -/
  methods : List Member := []
  /-- Its direct subclasses, in the order they were recorded. -/
  subclasses : List ClassId := []
  /-- Its attributes, in order. -/
  attributes : List Attribute := []
deriving DecidableEq, Repr

/-- The member is a method. -/
def Member.isMethod (m : Member) : Bool := m.kind == .method

namespace JvmClass

/-- The class is processed. -/
def isProgram (c : JvmClass) : Bool := c.kind == .program

/-- The class is an annotation class. -/
def isAnnotation (c : JvmClass) : Bool := c.accessFlags &&& annotationAccess != 0

/-- The class lists `sub` as a direct subclass. -/
def hasDirectSubclass (c : JvmClass) (sub : ClassId) : Bool := c.subclasses.contains sub

/-- All members: the fields, then the methods. -/
def members (c : JvmClass) : List Member := c.fields ++ c.methods

/-- The members of one kind. -/
def membersOfKind (c : JvmClass) : MemberKind → List Member
  | .field => c.fields
  | .method => c.methods

/-- The first member with a given identity. -/
def findMember? (c : JvmClass) (id : MemberId) : Option Member :=
  c.members.find? (·.id == id)

/-- The first member of a list with a given name and descriptor. -/
def named? (members : List Member) (name descriptor : String) : Option Member :=
  members.find? fun m => m.name == name && m.descriptor == descriptor

/-- The first field with a given name and descriptor. -/
def field? (c : JvmClass) (name descriptor : String) : Option Member :=
  named? c.fields name descriptor

/-- The first method with a given name and descriptor. -/
def method? (c : JvmClass) (name descriptor : String) : Option Member :=
  named? c.methods name descriptor

/-- Edits the first member of a list with a given identity. -/
def mapFirst (id : MemberId) (f : Member → Member) : List Member → List Member
  | [] => []
  | m :: ms => if m.id == id then f m :: ms else m :: mapFirst id f ms

/-- Edits the first member with a given identity: a field, or else a method. -/
def mapMember (c : JvmClass) (id : MemberId) (f : Member → Member) : JvmClass :=
  if c.fields.any (·.id == id) then { c with fields := mapFirst id f c.fields }
  else { c with methods := mapFirst id f c.methods }

/-- Adds a member at the end of the list of its kind. -/
def addMember (c : JvmClass) (m : Member) : JvmClass :=
  match m.kind with
  | .field => { c with fields := c.fields ++ [m] }
  | .method => { c with methods := c.methods ++ [m] }

/-- Drops every member with a given identity. -/
def dropMember (c : JvmClass) (id : MemberId) : JvmClass :=
  { c with
    fields := c.fields.filter (·.id != id)
    methods := c.methods.filter (·.id != id) }

end JvmClass

end KotlinMetadata
