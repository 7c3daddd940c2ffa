import KotlinMetadata.ClassFile.Id

/-! # Leaves of the metadata

    The parts of a declaration that hold no further declarations or types.

    - `Signature`: name and descriptor of a method or field, as written in the metadata;
    - `ClassRef`: a class by name, with the class of the pool it was resolved to;
    - `AnnotationUse`: an annotation kept in the metadata itself;
    - `VersionRequirement`: the least version a user of the declaration must have;
    - `Variance`: how a type argument or parameter may vary.

    Every link has two halves: the name that was decoded, and the identity that resolving it
    gave, absent where that failed.
-/

namespace KotlinMetadata

/-! ## Signatures -/

/-- Name and descriptor of a member, as written in the metadata. -/
structure Signature where
  /-- The name. -/
  name : String
  /-- The descriptor. -/
  descriptor : String
deriving DecidableEq, Repr, Inhabited

namespace Signature

/-- The text for the signature of a method. -/
def methodText (s : Signature) : String := s.name ++ s.descriptor

/-- The text for the signature of a field. -/
def fieldText (s : Signature) : String := s.name ++ ":" ++ s.descriptor

/-- The fields in JSON. -/
def keys : List String := ["name", "descriptor"]

/-- A signature in JSON. -/
def toJson (s : Signature) : Json :=
  .record keys [some (.ofString s.name), some (.ofString s.descriptor)]

/-- Reads a signature. -/
def ofJson? (levels : Nat) (j : Json) : Option Signature := do
  let [name, descriptor] ← j.fields levels keys | none
  let name ← Json.required Json.readText name
  let descriptor ← Json.required Json.readText descriptor
  return { name, descriptor }

end Signature

/-! ## Links to classes -/

/-- A class by name, with what the name was resolved to. -/
structure ClassRef where
  /-- The name as written in the metadata. -/
  name : String
  /-- The class it was resolved to. -/
  target : Option ClassId := none
deriving DecidableEq, Repr, Inhabited

namespace ClassRef

/-- The fields in JSON. -/
def keys : List String := ["name", "referenced_class"]

/-- A class link in JSON. -/
def toJson (r : ClassRef) : Json :=
  .record keys [some (.ofString r.name), r.target.map ClassId.toJson]

/-- Reads a class link. -/
def ofJson? (levels : Nat) (j : Json) : Option ClassRef := do
  let [name, target] ← j.fields levels keys | none
  let name ← Json.required Json.readText name
  let target ← Json.optional ClassId.ofJson? target
  return { name, target }

end ClassRef

/-- An annotation kept in the metadata itself. -/
structure AnnotationUse where
  /-- The name of the annotation class. -/
  className : String
  /-- The class it was resolved to. -/
  target : Option ClassId := none
deriving DecidableEq, Repr, Inhabited

namespace AnnotationUse

/-- The fields in JSON. -/
def keys : List String := ["class_name", "referenced_annotation_class"]

/-- An annotation in JSON. -/
def toJson (a : AnnotationUse) : Json :=
  .record keys [some (.ofString a.className), a.target.map ClassId.toJson]

/-- Reads an annotation. -/
def ofJson? (levels : Nat) (j : Json) : Option AnnotationUse := do
  let [className, target] ← j.fields levels keys | none
  let className ← Json.required Json.readText className
  let target ← Json.optional ClassId.ofJson? target
  return { className, target }

end AnnotationUse

/-! ## Version requirements -/

/-- What happens to a user whose version is too low. -/
inductive RequirementLevel where
  | warning
  | error
  | hidden
deriving DecidableEq, Repr

instance : Named RequirementLevel where
  all := [.warning, .error, .hidden]
  name
    | .warning => "warning"
    | .error => "error"
    | .hidden => "hidden"

/-- The least version that a user of a declaration must have. -/
structure VersionRequirement where
  /-- First number of the version. -/
  major : UInt32
  /-- Second number of the version. -/
  minor : UInt32
  /-- Third number of the version. -/
  patch : UInt32
  /-- What happens to a user whose version is too low. -/
  level : RequirementLevel := .error
  /-- What such a user is told. -/
  message : Option String := none
deriving DecidableEq, Repr

namespace VersionRequirement

/-- The version, its numbers between points. -/
def text (r : VersionRequirement) : String :=
  toString r.major.toNat ++ "." ++ toString r.minor.toNat ++ "." ++ toString r.patch.toNat

/-- The fields in JSON. -/
def keys : List String := ["major", "minor", "patch", "level", "message"]

/-- A version requirement in JSON; the level is always written. -/
def toJson (r : VersionRequirement) : Json :=
  .record keys [some (.ofNat r.major.toNat), some (.ofNat r.minor.toNat),
    some (.ofNat r.patch.toNat), some (.ofNamed r.level), r.message.map .ofString]

/-- Reads a version requirement. -/
def ofJson? (source : Json.Source) (levels : Nat) (j : Json) : Option VersionRequirement := do
  let [major, minor, patch, level, message] ← j.fields levels keys | none
  let major ← Json.required Json.readUInt32 major
  let minor ← Json.required Json.readUInt32 minor
  let patch ← Json.required Json.readUInt32 patch
  let level ← Json.defaulted .error (Json.readNamed source (levels - 1)) level
  let message ← Json.optional Json.readText message
  return { major, minor, patch, level, message }

end VersionRequirement

/-! ## Variance -/

/-- How a type argument or parameter may vary. -/
inductive Variance where
  | invariant
  | contravariant
  | covariant
deriving DecidableEq, Repr, Inhabited

instance : Named Variance where
  all := [.invariant, .contravariant, .covariant]
  name
    | .invariant => "invariant"
    | .contravariant => "in"
    | .covariant => "out"

end KotlinMetadata
