import KotlinMetadata.Model.Metadata

/-! # Violations

    A violation says that a link of the metadata does not hold: the name is there and the class or
    member it should have been resolved to is not.

    - `ViolationKind`: a link never resolved, or one whose target is gone;
    - `Violation`: where it was found, with its wording and its JSON form.
-/

namespace KotlinMetadata

/-- What is wrong with a link. -/
inductive ViolationKind where
  /-- There is a name but nothing it was resolved to. -/
  | missingReference
  /-- The member it was resolved to is not among the members of the claimed class. -/
  | invalidReference
deriving DecidableEq, Repr

instance : Named ViolationKind where
  all := [.missingReference, .invalidReference]
  name
    | .missingReference => "missing_reference"
    | .invalidReference => "invalid_reference"

/-- A link that does not hold. -/
structure Violation where
  /-- What is wrong. -/
  kind : ViolationKind
  /-- The node that holds the link. -/
  parentElement : String
  /-- Which link of the node it is. -/
  checkedElement : String
  /-- The class whose metadata was checked. -/
  classId : ClassId
  /-- The name of that class. -/
  className : String
  /-- The kind of that metadata. -/
  metadataKind : MetadataKind
deriving DecidableEq, Repr

namespace Violation

/-- What is wrong, in words. -/
def complaint : ViolationKind → String
  | .missingReference => "is not initialized"
  | .invalidReference => "is invalid"

/-- The wording of a violation. -/
def text (v : Violation) : String :=
  Named.name v.metadataKind ++ " " ++ v.className ++ " (" ++ v.parentElement ++ "): " ++
    v.checkedElement ++ " " ++ complaint v.kind

/-- The fields in JSON. -/
def keys : List String :=
  ["kind", "parent_element", "checked_element", "class_id", "class_name", "metadata_kind"]

/-- A violation in JSON. -/
def toJson (v : Violation) : Json :=
  .record keys [some (.ofNamed v.kind), some (.ofString v.parentElement),
    some (.ofString v.checkedElement), some v.classId.toJson, some (.ofString v.className),
    some (.ofNamed v.metadataKind)]

end Violation

end KotlinMetadata
