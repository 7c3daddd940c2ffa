import KotlinMetadata.Json.Parser
import KotlinMetadata.Json.Printer
import KotlinMetadata.Model.Declaration

/-! # Metadata of a class

    What the compiler recorded for one class file.  There are five kinds.

    - `ClassDecl`: a class, interface or object;
    - `FileFacade`: the top-level declarations of one file;
    - `SyntheticClass`: a class the compiler made up, with a function if it is a lambda;
    - `MultiFileFacade`, `MultiFilePart`: a class put together from several files;
    - `Metadata`: the sum of the five;
    - `Metadata.toJson`, `Metadata.ofJson?`: a root as a tree;
    - `Metadata.text`, `Metadata.ofText?`: a root as a text.

    In JSON the root is one record with the name of its kind as a field `kind` in front.  A
    reader does not know what the record is before it has found the kind, so the whole text is
    read first and only then taken as one of the five.
-/

namespace KotlinMetadata

/-! ## The five roots -/

/-- The metadata of a class, interface or object. -/
structure ClassDecl where
  /-- Flags of the class. -/
  flags : ClassFlags := {}
  /-- Its name as written in the metadata. -/
  name : String
  /-- The class that name was resolved to. -/
  target : Option ClassId := none
  /-- Its declarations. -/
  container : Container := {}
  /-- Its companion object. -/
  companion : Option ClassRef := none
  /-- Its nested classes. -/
  nested : List ClassRef := []
  /-- The classes it is sealed for. -/
  sealedSubclasses : List ClassRef := []
  /-- The names of its enum entries. -/
  enumEntries : List String := []
  /-- Its supertypes. -/
  supertypes : List KotlinType := []
  /-- Its type parameters. -/
  typeParameters : List TypeParameter := []
  /-- The version its users need. -/
  versionRequirement : Option VersionRequirement := none
  /-- Its constructors. -/
  constructors : List ConstructorDecl := []
deriving DecidableEq, Repr

namespace ClassDecl

/-- The fields in JSON. -/
def keys : List String :=
  ["flags", "class_name", "referenced_class", "container", "companion_object", "nested_classes",
    "sealed_subclasses", "enum_entry_names", "supertypes", "type_parameters",
    "version_requirement", "constructors"]

/-- A class in JSON. -/
def toJson (c : ClassDecl) : Json :=
  .record keys [some c.flags.toJson, some (.ofString c.name), c.target.map ClassId.toJson,
    some c.container.toJson, c.companion.map ClassRef.toJson,
    Json.listSlot ClassRef.toJson c.nested, Json.listSlot ClassRef.toJson c.sealedSubclasses,
    Json.listSlot .ofString c.enumEntries, Json.listSlot KotlinType.toJson c.supertypes,
    Json.listSlot TypeParameter.toJson c.typeParameters,
    c.versionRequirement.map VersionRequirement.toJson,
    Json.listSlot ConstructorDecl.toJson c.constructors]

/-- Reads a class. -/
def ofJson? (source : Json.Source) (levels : Nat) (j : Json) : Option ClassDecl := do
  let inner := levels - 1
  let [flags, name, target, container, companion, nested, sealedSubclasses, enumEntries,
    supertypes, typeParameters, versionRequirement, constructors]
    ← j.fields levels keys | none
  let flags ← Json.required (ClassFlags.ofJson? inner) flags
  let name ← Json.required Json.readText name
  let target ← Json.optional ClassId.ofJson? target
  let container ← Json.defaulted {} (Container.ofJson? source inner) container
  let companion ← Json.optional (ClassRef.ofJson? inner) companion
  let nested ← Json.defaulted [] (Json.readItems inner ClassRef.ofJson?) nested
  let sealedSubclasses ← Json.defaulted [] (Json.readItems inner ClassRef.ofJson?) sealedSubclasses
  let enumEntries ← Json.defaulted [] (Json.readList inner Json.readText) enumEntries
  let supertypes ← Json.defaulted [] (Json.readItems inner (KotlinType.ofJson? source)) supertypes
  let typeParameters ←
    Json.defaulted [] (Json.readItems inner (TypeParameter.ofJson? source)) typeParameters
  let versionRequirement ←
    Json.optional (VersionRequirement.ofJson? source inner) versionRequirement
  let constructors ←
    Json.defaulted [] (Json.readItems inner (ConstructorDecl.ofJson? source)) constructors
  return {
    flags, name, target, container, companion, nested, sealedSubclasses, enumEntries, supertypes,
    typeParameters, versionRequirement, constructors }

end ClassDecl

/-- The metadata of a file with top-level declarations. -/
structure FileFacade where
  /-- Its declarations. -/
  container : Container := {}
deriving DecidableEq, Repr

namespace FileFacade

/-- The fields in JSON. -/
def keys : List String := ["container"]

/-- A file facade in JSON. -/
def toJson (f : FileFacade) : Json :=
  .record keys [some f.container.toJson]

/-- Reads a file facade. -/
def ofJson? (source : Json.Source) (levels : Nat) (j : Json) : Option FileFacade := do
  let inner := levels - 1
  let [container] ← j.fields levels keys | none
  let container ← Json.defaulted {} (Container.ofJson? source inner) container
  return { container }

end FileFacade

/-- What a synthetic class was made for. -/
inductive SyntheticKind where
  | regular
  | lambda
  | whenMappings
deriving DecidableEq, Repr

instance : Named SyntheticKind where
  all := [.regular, .lambda, .whenMappings]
  name
    | .regular => "regular"
    | .lambda => "lambda"
    | .whenMappings => "when_mappings"

/-- The metadata of a class the compiler made up. -/
structure SyntheticClass where
  /-- What it was made for. -/
  kind : SyntheticKind := .regular
  /-- Its functions. -/
  functions : List FunctionDecl := []
deriving DecidableEq, Repr

namespace SyntheticClass

/-- The fields in JSON. -/
def keys : List String := ["kind", "functions"]

/-- A synthetic class in JSON. -/
def toJson (s : SyntheticClass) : Json :=
  .record keys [some (.ofNamed s.kind), Json.listSlot FunctionDecl.toJson s.functions]

/-- Reads a synthetic class. -/
def ofJson? (source : Json.Source) (levels : Nat) (j : Json) : Option SyntheticClass := do
  let inner := levels - 1
  let [kind, functions] ← j.fields levels keys | none
  let kind ← Json.defaulted .regular (Json.readNamed source inner) kind
  let functions ← Json.defaulted [] (Json.readItems inner (FunctionDecl.ofJson? source)) functions
  return { kind, functions }

end SyntheticClass

/-- The metadata of a class put together from several files. -/
structure MultiFileFacade where
  /-- The classes of the single files. -/
  parts : List ClassRef := []
deriving DecidableEq, Repr

namespace MultiFileFacade

/-- The fields in JSON. -/
def keys : List String := ["part_classes"]

/-- A multi-file facade in JSON. -/
def toJson (f : MultiFileFacade) : Json :=
  .record keys [Json.listSlot ClassRef.toJson f.parts]

/-- Reads a multi-file facade. -/
def ofJson? (levels : Nat) (j : Json) : Option MultiFileFacade := do
  let inner := levels - 1
  let [parts] ← j.fields levels keys | none
  let parts ← Json.defaulted [] (Json.readItems inner ClassRef.ofJson?) parts
  return { parts }

end MultiFileFacade

/-- The metadata of one file of such a class. -/
structure MultiFilePart where
  /-- The name of the class it is a part of. -/
  facadeName : String
  /-- The class that name was resolved to. -/
  facade : Option ClassId := none
  /-- Its declarations. -/
  container : Container := {}
deriving DecidableEq, Repr

namespace MultiFilePart

/-- The fields in JSON. -/
def keys : List String := ["facade_name", "referenced_facade_class", "container"]

/-- A part of a multi-file class in JSON. -/
def toJson (p : MultiFilePart) : Json :=
  .record keys [some (.ofString p.facadeName), p.facade.map ClassId.toJson,
    some p.container.toJson]

/-- Reads a part of a multi-file class. -/
def ofJson? (source : Json.Source) (levels : Nat) (j : Json) : Option MultiFilePart := do
  let inner := levels - 1
  let [facadeName, facade, container] ← j.fields levels keys | none
  let facadeName ← Json.required Json.readText facadeName
  let facade ← Json.optional ClassId.ofJson? facade
  let container ← Json.defaulted {} (Container.ofJson? source inner) container
  return { facadeName, facade, container }

end MultiFilePart

/-! ## The root -/

/-- The metadata of one class file. -/
inductive Metadata where
  | classDecl (c : ClassDecl)
  | fileFacade (f : FileFacade)
  | syntheticClass (s : SyntheticClass)
  | multiFileFacade (f : MultiFileFacade)
  | multiFilePart (p : MultiFilePart)
deriving DecidableEq, Repr

/-- The kinds of metadata. -/
inductive MetadataKind where
  | classDecl
  | fileFacade
  | syntheticClass
  | multiFileFacade
  | multiFilePart
deriving DecidableEq, Repr

instance : Named MetadataKind where
  all := [.classDecl, .fileFacade, .syntheticClass, .multiFileFacade, .multiFilePart]
  name
    | .classDecl => "class"
    | .fileFacade => "file_facade"
    | .syntheticClass => "synthetic_class"
    | .multiFileFacade => "multi_file_facade"
    | .multiFilePart => "multi_file_part"

namespace Metadata

/-- The kind of a root. -/
def kind : Metadata → MetadataKind
  | .classDecl _ => .classDecl
  | .fileFacade _ => .fileFacade
  | .syntheticClass _ => .syntheticClass
  | .multiFileFacade _ => .multiFileFacade
  | .multiFilePart _ => .multiFilePart

/-- The declarations of a root that has any. -/
def container? : Metadata → Option Container
  | .classDecl c => some c.container
  | .fileFacade f => some f.container
  | .multiFilePart p => some p.container
  | .syntheticClass _ | .multiFileFacade _ => none

/-- The class of a root that is one. -/
def asClass? : Metadata → Option ClassDecl
  | .classDecl c => some c
  | _ => none

/-! ## JSON -/

/-- The key under which the kind of a root is written. -/
def tag : String := "kind"

/-- How many arrays and objects may be nested in a text. -/
def levelLimit : Nat := 127

/-- The record of a root without its kind. -/
def bodyToJson : Metadata → Json
  | .classDecl c => c.toJson
  | .fileFacade f => f.toJson
  | .syntheticClass s => s.toJson
  | .multiFileFacade f => f.toJson
  | .multiFilePart p => p.toJson

/-- A root in JSON: its kind, then its record.

    The record of a synthetic class has a field `kind` of its own, which makes two. -/
def toJson (m : Metadata) : Json :=
  match m.bodyToJson with
  | .object entries => .object ((some tag, .ofNamed m.kind) :: entries)
  | body => body

/-- Reads the record of a root of a given kind. -/
def bodyOfJson? (kind : MetadataKind) (levels : Nat) (body : Json) : Option Metadata :=
  match kind with
  | .classDecl => (ClassDecl.ofJson? .buffered levels body).map .classDecl
  | .fileFacade => (FileFacade.ofJson? .buffered levels body).map .fileFacade
  | .syntheticClass => (SyntheticClass.ofJson? .buffered levels body).map .syntheticClass
  | .multiFileFacade => (MultiFileFacade.ofJson? levels body).map .multiFileFacade
  | .multiFilePart => (MultiFilePart.ofJson? .buffered levels body).map .multiFilePart

/-- Splits a root into the name of its kind and the rest of its record.

    In an object the kind may stand anywhere but must stand once; in an array it comes first. -/
def splitTag : Json → Option (String × Json)
  | .object entries =>
    match Json.valuesOf tag entries with
    | [.text (some name)] => some (name, .object (entries.filter (·.1 != some tag)))
    | _ => none
  | .array (.text (some name) :: items) => some (name, .array items)
  | _ => none

/-- Reads a root out of a tree of any depth. -/
def ofTree? (j : Json) : Option Metadata := do
  guard j.representable
  let (name, body) ← splitTag j
  let kind ← Named.ofName? name
  bodyOfJson? kind j.depth body

/-- Reads a root out of a tree that nests no deeper than the limit. -/
def ofJson? (j : Json) : Option Metadata :=
  if j.depth ≤ levelLimit then ofTree? j else none

/-- The text of a root. -/
def text (m : Metadata) : String := m.toJson.compress

/-- Reads the text of a root. -/
def ofText? (s : String) : Option Metadata := (Json.parse? s).bind ofJson?

end Metadata

end KotlinMetadata
