import KotlinMetadata.Model.Type

/-! # Declarations

    The members of a declaration container, as records of what was decoded and what it was
    resolved to.

    - `ValueParameter`: a parameter of a function, constructor or property setter;
    - `FunctionDecl`, `ConstructorDecl`, `PropertyDecl`, `TypeAliasDecl`: the declarations;
    - `Container`: the declarations that a class, a file or a part of a file carries.

    In JSON a field with an absent or empty value is left out, and the fields for flags and types
    are always written.
-/

namespace KotlinMetadata

/-! ## Callables -/

/-- A parameter of a callable. -/
structure ValueParameter where
  /-- Flags of the parameter. -/
  flags : ValueParameterFlags := {}
  /-- Its position among the parameters of the method. -/
  index : UInt64
  /-- Its name. -/
  name : String
  /-- Its type. -/
  type : KotlinType
  /-- The type of one element, if any number may be passed. -/
  varargElement : Option KotlinType := none
deriving DecidableEq, Repr

namespace ValueParameter

/-- The fields in JSON. -/
def keys : List String := ["flags", "index", "name", "type", "vararg_element_type"]

/-- A value parameter in JSON. -/
def toJson (p : ValueParameter) : Json :=
  .record keys [some p.flags.toJson, some (.ofNat p.index.toNat), some (.ofString p.name),
    some p.type.toJson, p.varargElement.map KotlinType.toJson]

/-- Reads a value parameter. -/
def ofJson? (source : Json.Source) (levels : Nat) (j : Json) : Option ValueParameter := do
  let inner := levels - 1
  let [flags, index, name, type, varargElement] ← j.fields levels keys | none
  let flags ← Json.required (ValueParameterFlags.ofJson? inner) flags
  let index ← Json.required Json.readUInt64 index
  let name ← Json.required Json.readText name
  let type ← Json.required (KotlinType.ofJson? source inner) type
  let varargElement ← Json.optional (KotlinType.ofJson? source inner) varargElement
  return { flags, index, name, type, varargElement }

end ValueParameter

/-- A function. -/
structure FunctionDecl where
  /-- Flags of the function. -/
  flags : FunctionFlags := {}
  /-- Its name. -/
  name : String
  /-- The signature of its method. -/
  signature : Option Signature := none
  /-- The method it was resolved to. -/
  method : Option MemberRef := none
  /-- The type it extends. -/
  receiver : Option KotlinType := none
  /-- Its type parameters. -/
  typeParameters : List TypeParameter := []
  /-- Its parameters. -/
  valueParameters : List ValueParameter := []
  /-- The type of its result. -/
  returnType : KotlinType
  /-- The version its users need. -/
  versionRequirement : Option VersionRequirement := none
deriving DecidableEq, Repr

namespace FunctionDecl

/-- The fields in JSON. -/
def keys : List String :=
  ["flags", "name", "jvm_signature", "referenced_method", "receiver_type", "type_parameters",
    "value_parameters", "return_type", "version_requirement"]

/-- A function in JSON. -/
def toJson (f : FunctionDecl) : Json :=
  .record keys [some f.flags.toJson, some (.ofString f.name), f.signature.map Signature.toJson,
    f.method.map MemberRef.toJson, f.receiver.map KotlinType.toJson,
    Json.listSlot TypeParameter.toJson f.typeParameters,
    Json.listSlot ValueParameter.toJson f.valueParameters, some f.returnType.toJson,
    f.versionRequirement.map VersionRequirement.toJson]

/-- Reads a function. -/
def ofJson? (source : Json.Source) (levels : Nat) (j : Json) : Option FunctionDecl := do
  let inner := levels - 1
  let [flags, name, signature, method, receiver, typeParameters, valueParameters, returnType,
    versionRequirement]
    ← j.fields levels keys | none
  let flags ← Json.required (FunctionFlags.ofJson? inner) flags
  let name ← Json.required Json.readText name
  let signature ← Json.optional (Signature.ofJson? inner) signature
  let method ← Json.optional (MemberRef.ofJson? inner) method
  let receiver ← Json.optional (KotlinType.ofJson? source inner) receiver
  let typeParameters ←
    Json.defaulted [] (Json.readItems inner (TypeParameter.ofJson? source)) typeParameters
  let valueParameters ←
    Json.defaulted [] (Json.readItems inner (ValueParameter.ofJson? source)) valueParameters
  let returnType ← Json.required (KotlinType.ofJson? source inner) returnType
  let versionRequirement ←
    Json.optional (VersionRequirement.ofJson? source inner) versionRequirement
  return {
    flags, name, signature, method, receiver, typeParameters, valueParameters, returnType,
    versionRequirement }

end FunctionDecl

/-- A constructor. -/
structure ConstructorDecl where
  /-- Flags of the constructor. -/
  flags : ConstructorFlags := {}
  /-- The signature of its method. -/
  signature : Option Signature := none
  /-- The method it was resolved to. -/
  method : Option MemberRef := none
  /-- Its parameters. -/
  valueParameters : List ValueParameter := []
  /-- The version its users need. -/
  versionRequirement : Option VersionRequirement := none
deriving DecidableEq, Repr

namespace ConstructorDecl

/-- The fields in JSON. -/
def keys : List String :=
  ["flags", "jvm_signature", "referenced_method", "value_parameters", "version_requirement"]

/-- A constructor in JSON. -/
def toJson (k : ConstructorDecl) : Json :=
  .record keys [some k.flags.toJson, k.signature.map Signature.toJson,
    k.method.map MemberRef.toJson, Json.listSlot ValueParameter.toJson k.valueParameters,
    k.versionRequirement.map VersionRequirement.toJson]

/-- Reads a constructor. -/
def ofJson? (source : Json.Source) (levels : Nat) (j : Json) : Option ConstructorDecl := do
  let inner := levels - 1
  let [flags, signature, method, valueParameters, versionRequirement] ← j.fields levels keys | none
  let flags ← Json.required (ConstructorFlags.ofJson? inner) flags
  let signature ← Json.optional (Signature.ofJson? inner) signature
  let method ← Json.optional (MemberRef.ofJson? inner) method
  let valueParameters ←
    Json.defaulted [] (Json.readItems inner (ValueParameter.ofJson? source)) valueParameters
  let versionRequirement ←
    Json.optional (VersionRequirement.ofJson? source inner) versionRequirement
  return { flags, signature, method, valueParameters, versionRequirement }

end ConstructorDecl

/-! ## Properties and aliases -/

/-- A property. -/
structure PropertyDecl where
  /-- Flags of the property. -/
  flags : PropertyFlags := {}
  /-- Flags of its getter. -/
  getterFlags : AccessorFlags := {}
  /-- Flags of its setter. -/
  setterFlags : AccessorFlags := {}
  /-- Its name. -/
  name : String
  /-- The signature of its backing field. -/
  fieldSignature : Option Signature := none
  /-- The field it was resolved to. -/
  backingField : Option MemberRef := none
  /-- The signature of its getter. -/
  getterSignature : Option Signature := none
  /-- The method its getter was resolved to. -/
  getter : Option MemberRef := none
  /-- The signature of its setter. -/
  setterSignature : Option Signature := none
  /-- The method its setter was resolved to. -/
  setter : Option MemberRef := none
  /-- The signature of the synthetic method that holds its annotations. -/
  holderSignature : Option Signature := none
  /-- The method that holder was resolved to. -/
  holder : Option MemberRef := none
  /-- The type it extends. -/
  receiver : Option KotlinType := none
  /-- Its type. -/
  type : KotlinType
  /-- Its type parameters. -/
  typeParameters : List TypeParameter := []
  /-- The parameters of its setter. -/
  setterParameters : List ValueParameter := []
  /-- The version its users need. -/
  versionRequirement : Option VersionRequirement := none
deriving DecidableEq, Repr

namespace PropertyDecl

/-- The fields in JSON. -/
def keys : List String :=
  ["flags", "getter_flags", "setter_flags", "name", "backing_field_signature",
    "referenced_backing_field", "getter_signature", "referenced_getter_method", "setter_signature",
    "referenced_setter_method", "synthetic_method_for_annotations",
    "referenced_synthetic_method_for_annotations", "receiver_type", "type", "type_parameters",
    "setter_parameters", "version_requirement"]

/-- A property in JSON. -/
def toJson (p : PropertyDecl) : Json :=
  .record keys [some p.flags.toJson, some p.getterFlags.toJson, some p.setterFlags.toJson,
    some (.ofString p.name), p.fieldSignature.map Signature.toJson,
    p.backingField.map MemberRef.toJson, p.getterSignature.map Signature.toJson,
    p.getter.map MemberRef.toJson, p.setterSignature.map Signature.toJson,
    p.setter.map MemberRef.toJson, p.holderSignature.map Signature.toJson,
    p.holder.map MemberRef.toJson, p.receiver.map KotlinType.toJson, some p.type.toJson,
    Json.listSlot TypeParameter.toJson p.typeParameters,
    Json.listSlot ValueParameter.toJson p.setterParameters,
    p.versionRequirement.map VersionRequirement.toJson]

/-- Reads a property. -/
def ofJson? (source : Json.Source) (levels : Nat) (j : Json) : Option PropertyDecl := do
  let inner := levels - 1
  let [flags, getterFlags, setterFlags, name, fieldSignature, backingField, getterSignature,
    getter, setterSignature, setter, holderSignature, holder, receiver, type, typeParameters,
    setterParameters, versionRequirement]
    ← j.fields levels keys | none
  let flags ← Json.required (PropertyFlags.ofJson? inner) flags
  let getterFlags ← Json.defaulted {} (AccessorFlags.ofJson? inner) getterFlags
  let setterFlags ← Json.defaulted {} (AccessorFlags.ofJson? inner) setterFlags
  let name ← Json.required Json.readText name
  let fieldSignature ← Json.optional (Signature.ofJson? inner) fieldSignature
  let backingField ← Json.optional (MemberRef.ofJson? inner) backingField
  let getterSignature ← Json.optional (Signature.ofJson? inner) getterSignature
  let getter ← Json.optional (MemberRef.ofJson? inner) getter
  let setterSignature ← Json.optional (Signature.ofJson? inner) setterSignature
  let setter ← Json.optional (MemberRef.ofJson? inner) setter
  let holderSignature ← Json.optional (Signature.ofJson? inner) holderSignature
  let holder ← Json.optional (MemberRef.ofJson? inner) holder
  let receiver ← Json.optional (KotlinType.ofJson? source inner) receiver
  let type ← Json.required (KotlinType.ofJson? source inner) type
  let typeParameters ←
    Json.defaulted [] (Json.readItems inner (TypeParameter.ofJson? source)) typeParameters
  let setterParameters ←
    Json.defaulted [] (Json.readItems inner (ValueParameter.ofJson? source)) setterParameters
  let versionRequirement ←
    Json.optional (VersionRequirement.ofJson? source inner) versionRequirement
  return {
    flags, getterFlags, setterFlags, name, fieldSignature, backingField, getterSignature, getter,
    setterSignature, setter, holderSignature, holder, receiver, type, typeParameters,
    setterParameters, versionRequirement }

end PropertyDecl

/-- A type alias. -/
structure TypeAliasDecl where
  /-- Flags of the alias. -/
  flags : TypeAliasFlags := {}
  /-- Its name. -/
  name : String
  /-- Its type parameters. -/
  typeParameters : List TypeParameter := []
  /-- The type it was declared for. -/
  underlying : KotlinType
  /-- That type with every alias in it replaced. -/
  expanded : KotlinType
  /-- The version its users need. -/
  versionRequirement : Option VersionRequirement := none
  /-- The annotations on the alias. -/
  annotations : List AnnotationUse := []
deriving DecidableEq, Repr

namespace TypeAliasDecl

/-- The fields in JSON. -/
def keys : List String :=
  ["flags", "name", "type_parameters", "underlying_type", "expanded_type", "version_requirement",
    "annotations"]

/-- A type alias in JSON. -/
def toJson (a : TypeAliasDecl) : Json :=
  .record keys [some a.flags.toJson, some (.ofString a.name),
    Json.listSlot TypeParameter.toJson a.typeParameters, some a.underlying.toJson,
    some a.expanded.toJson, a.versionRequirement.map VersionRequirement.toJson,
    Json.listSlot AnnotationUse.toJson a.annotations]

/-- Reads a type alias. -/
def ofJson? (source : Json.Source) (levels : Nat) (j : Json) : Option TypeAliasDecl := do
  let inner := levels - 1
  let [flags, name, typeParameters, underlying, expanded, versionRequirement, annotations]
    ← j.fields levels keys | none
  let flags ← Json.required (TypeAliasFlags.ofJson? inner) flags
  let name ← Json.required Json.readText name
  let typeParameters ←
    Json.defaulted [] (Json.readItems inner (TypeParameter.ofJson? source)) typeParameters
  let underlying ← Json.required (KotlinType.ofJson? source inner) underlying
  let expanded ← Json.required (KotlinType.ofJson? source inner) expanded
  let versionRequirement ←
    Json.optional (VersionRequirement.ofJson? source inner) versionRequirement
  let annotations ← Json.defaulted [] (Json.readItems inner AnnotationUse.ofJson?) annotations
  return { flags, name, typeParameters, underlying, expanded, versionRequirement, annotations }

end TypeAliasDecl

/-! ## Containers -/

/-- The declarations of a class, a file or a part of a file. -/
structure Container where
  /-- The name of the class that owns them, if the metadata gives it. -/
  ownerName : Option String := none
  /-- The class that name was resolved to. -/
  owner : Option ClassId := none
  /-- The properties. -/
  properties : List PropertyDecl := []
  /-- The functions. -/
  functions : List FunctionDecl := []
  /-- The type aliases. -/
  typeAliases : List TypeAliasDecl := []
  /-- The local delegated properties. -/
  delegatedProperties : List PropertyDecl := []
deriving DecidableEq, Repr

namespace Container

/-- The fields in JSON. -/
def keys : List String :=
  ["owner_class_name", "referenced_owner_class", "properties", "functions", "type_aliases",
    "delegated_properties"]

/-- A container in JSON. -/
def toJson (c : Container) : Json :=
  .record keys [c.ownerName.map .ofString, c.owner.map ClassId.toJson,
    Json.listSlot PropertyDecl.toJson c.properties, Json.listSlot FunctionDecl.toJson c.functions,
    Json.listSlot TypeAliasDecl.toJson c.typeAliases,
    Json.listSlot PropertyDecl.toJson c.delegatedProperties]

/-- Reads a container. -/
def ofJson? (source : Json.Source) (levels : Nat) (j : Json) : Option Container := do
  let inner := levels - 1
  let [ownerName, owner, properties, functions, typeAliases, delegatedProperties]
    ← j.fields levels keys | none
  let ownerName ← Json.optional Json.readText ownerName
  let owner ← Json.optional ClassId.ofJson? owner
  let properties ←
    Json.defaulted [] (Json.readItems inner (PropertyDecl.ofJson? source)) properties
  let functions ← Json.defaulted [] (Json.readItems inner (FunctionDecl.ofJson? source)) functions
  let typeAliases ←
    Json.defaulted [] (Json.readItems inner (TypeAliasDecl.ofJson? source)) typeAliases
  let delegatedProperties ←
    Json.defaulted [] (Json.readItems inner (PropertyDecl.ofJson? source)) delegatedProperties
  return { ownerName, owner, properties, functions, typeAliases, delegatedProperties }

end Container

end KotlinMetadata
