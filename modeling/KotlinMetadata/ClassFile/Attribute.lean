import KotlinMetadata.Json.Record

/-! # Attributes of classes and members

    Only annotation attributes are kept in full: they are what the annotation flags of the
    metadata have to agree with.  Any other attribute is kept by name.
-/

namespace KotlinMetadata

/-- Whether an annotation can be seen at run time. -/
inductive Retention where
  | visible
  | invisible
deriving DecidableEq, Repr

instance : Named Retention where
  all := [.visible, .invisible]
  name
    | .visible => "visible"
    | .invisible => "invisible"

/-- One annotation in an attribute. -/
structure AnnotationEntry where
  /-- Descriptor of the annotation class, such as `La/A;`. -/
  typeDescriptor : String
  /-- Names of the elements given. -/
  elementNames : List String := []
deriving DecidableEq, Repr

namespace AnnotationEntry

/-- Descriptor of the annotation that carries the metadata itself. -/
def metadataDescriptor : String := "Lkotlin/Metadata;"

/-- The annotation carries the metadata itself. -/
def isMetadata (a : AnnotationEntry) : Bool := a.typeDescriptor == metadataDescriptor

/-- The annotation with one more element, after those it has. -/
def withElement (a : AnnotationEntry) (name : String) : AnnotationEntry :=
  { a with elementNames := a.elementNames ++ [name] }

/-- The fields of an annotation in JSON. -/
def keys : List String := ["type_descriptor", "element_names"]

/-- An annotation in JSON; no elements leave their field out. -/
def toJson (a : AnnotationEntry) : Json :=
  .record keys [some (.ofString a.typeDescriptor), Json.listSlot .ofString a.elementNames]

/-- Reads an annotation. -/
def ofJson? (levels : Nat) (j : Json) : Option AnnotationEntry := do
  let [descriptor, elements] ← j.fields levels keys | none
  let typeDescriptor ← Json.required Json.readText descriptor
  let elementNames ← Json.defaulted [] (Json.readList (levels - 1) Json.readText) elements
  return { typeDescriptor, elementNames }

end AnnotationEntry

/-- An attribute of a class or member. -/
inductive Attribute where
  /-- Annotations of the element itself. -/
  | annotations (retention : Retention) (list : List AnnotationEntry)
  /-- Annotations of its formal parameters: one list for each, from the first on. -/
  | parameterAnnotations (retention : Retention) (lists : List (List AnnotationEntry))
  /-- Any other attribute. -/
  | other (name : String)
deriving DecidableEq, Repr

/-- The name of an attribute in a class file. -/
def Attribute.name : Attribute → String
  | .annotations .visible _ => "RuntimeVisibleAnnotations"
  | .annotations .invisible _ => "RuntimeInvisibleAnnotations"
  | .parameterAnnotations .visible _ => "RuntimeVisibleParameterAnnotations"
  | .parameterAnnotations .invisible _ => "RuntimeInvisibleParameterAnnotations"
  | .other name => name

end KotlinMetadata
