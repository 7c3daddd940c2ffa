import Mathlib.Data.List.Forall2
import KotlinMetadata.Proofs.SyntheticRoot

/-! # The records of the metadata as tables

    All records are read alike: the value of a field is read from what is given for it, and a
    field for which nothing is given has its default or is missing.  A table says what the fields
    of a record are.

    - `PlainKind`, `RecordKind`, `Shape`: what a field may hold, and how it is read;
    - `Field`, `RecordKind.table`: the fields of each record, in their order;
    - `RecordKind.table_independent`: the fields of a record are set independently of each other;
    - `RecordKind.readBody_eq_fill`: every reader fills in the fields of its table one by one;
    - `RecordKind.readBody_eq_some_iff`: what is read for a field is its value in the record.
-/

namespace KotlinMetadata

/-! ## Plain values -/

/-- What is written without fields and items. -/
inductive PlainKind where
  | text
  | bool
  | uint32
  | uint64
  | classId
  | memberId
  | variance
  | requirementLevel
  | syntheticKind
  /-- The name of one kind of metadata, and of no other. -/
  | tag (kind : MetadataKind)
deriving DecidableEq, Repr

namespace PlainKind

/-- The values. -/
abbrev Value : PlainKind → Type
  | .text => String
  | .bool => Bool
  | .uint32 => UInt32
  | .uint64 => UInt64
  | .classId => ClassId
  | .memberId => MemberId
  | .variance => Variance
  | .requirementLevel => RequirementLevel
  | .syntheticKind => SyntheticKind
  | .tag _ => Unit

/-- A value in JSON. -/
def write : (p : PlainKind) → p.Value → Json
  | .text, s => .ofString s
  | .bool, b => .bool b
  | .uint32, n => .ofNat n.toNat
  | .uint64, n => .ofNat n.toNat
  | .classId, id => id.toJson
  | .memberId, id => id.toJson
  | .variance, v => .ofNamed v
  | .requirementLevel, level => .ofNamed level
  | .syntheticKind, kind => .ofNamed kind
  | .tag kind, _ => .ofNamed kind

/-- Reads a value. -/
def read : (p : PlainKind) → Nat → Json → Option p.Value
  | .text => fun _ => Json.readText
  | .bool => fun _ => Json.readBool
  | .uint32 => fun _ => Json.readUInt32
  | .uint64 => fun _ => Json.readUInt64
  | .classId => fun _ => ClassId.ofJson?
  | .memberId => fun _ => MemberId.ofJson?
  | .variance => Json.readNamed .buffered
  | .requirementLevel => Json.readNamed .buffered
  | .syntheticKind => Json.readNamed .buffered
  | .tag kind => fun _ j =>
    match j with
    | .text (some name) => if name = Named.name kind then some () else none
    | _ => none

end PlainKind

/-! ## Records -/

/-- The records. -/
inductive RecordKind where
  | commonFlags
  | classFlags
  | constructorFlags
  | functionFlags
  | propertyFlags
  | accessorFlags
  | typeFlags
  | typeParameterFlags
  | typeAliasFlags
  | valueParameterFlags
  | memberRef
  | signature
  | classRef
  | annotationUse
  | versionRequirement
  | type
  | typeParameter
  | valueParameter
  | function
  | constructor
  | property
  | typeAlias
  | container
  /-- The root of one kind of metadata. -/
  | root (kind : MetadataKind)
deriving DecidableEq, Repr

/-- The metadata of one kind. -/
abbrev MetadataKind.Value : MetadataKind → Type
  | .classDecl => ClassDecl
  | .fileFacade => FileFacade
  | .syntheticClass => SyntheticClass
  | .multiFileFacade => MultiFileFacade
  | .multiFilePart => MultiFilePart

namespace RecordKind

/-- The values. -/
abbrev Value : RecordKind → Type
  | .commonFlags => Bool
  | .classFlags => ClassFlags
  | .constructorFlags => ConstructorFlags
  | .functionFlags => FunctionFlags
  | .propertyFlags => PropertyFlags
  | .accessorFlags => AccessorFlags
  | .typeFlags => TypeFlags
  | .typeParameterFlags => TypeParameterFlags
  | .typeAliasFlags => TypeAliasFlags
  | .valueParameterFlags => ValueParameterFlags
  | .memberRef => MemberRef
  | .signature => Signature
  | .classRef => ClassRef
  | .annotationUse => AnnotationUse
  | .versionRequirement => VersionRequirement
  | .type => KotlinType
  | .typeParameter => TypeParameter
  | .valueParameter => ValueParameter
  | .function => FunctionDecl
  | .constructor => ConstructorDecl
  | .property => PropertyDecl
  | .typeAlias => TypeAliasDecl
  | .container => Container
  | .root kind => kind.Value

/-- The fields of a record in JSON, without the tag of a root. -/
def keys : RecordKind → List String
  | .commonFlags => CommonFlags.keys
  | .classFlags => ClassFlags.keys
  | .constructorFlags => ConstructorFlags.keys
  | .functionFlags => FunctionFlags.keys
  | .propertyFlags => PropertyFlags.keys
  | .accessorFlags => AccessorFlags.keys
  | .typeFlags => TypeFlags.keys
  | .typeParameterFlags => TypeParameterFlags.keys
  | .typeAliasFlags => TypeAliasFlags.keys
  | .valueParameterFlags => ValueParameterFlags.keys
  | .memberRef => MemberRef.keys
  | .signature => Signature.keys
  | .classRef => ClassRef.keys
  | .annotationUse => AnnotationUse.keys
  | .versionRequirement => VersionRequirement.keys
  | .type => KotlinType.keys
  | .typeParameter => TypeParameter.keys
  | .valueParameter => ValueParameter.keys
  | .function => FunctionDecl.keys
  | .constructor => ConstructorDecl.keys
  | .property => PropertyDecl.keys
  | .typeAlias => TypeAliasDecl.keys
  | .container => Container.keys
  | .root .classDecl => ClassDecl.keys
  | .root .fileFacade => FileFacade.keys
  | .root .syntheticClass => SyntheticClass.keys
  | .root .multiFileFacade => MultiFileFacade.keys
  | .root .multiFilePart => MultiFilePart.keys

/-- Reads a record out of a tree, without the tag of a root. -/
def readBody : (k : RecordKind) → Nat → Json → Option k.Value
  | .commonFlags => CommonFlags.ofJson?
  | .classFlags => ClassFlags.ofJson?
  | .constructorFlags => ConstructorFlags.ofJson?
  | .functionFlags => FunctionFlags.ofJson?
  | .propertyFlags => PropertyFlags.ofJson?
  | .accessorFlags => AccessorFlags.ofJson?
  | .typeFlags => TypeFlags.ofJson?
  | .typeParameterFlags => TypeParameterFlags.ofJson?
  | .typeAliasFlags => TypeAliasFlags.ofJson?
  | .valueParameterFlags => ValueParameterFlags.ofJson?
  | .memberRef => MemberRef.ofJson?
  | .signature => Signature.ofJson?
  | .classRef => ClassRef.ofJson?
  | .annotationUse => AnnotationUse.ofJson?
  | .versionRequirement => VersionRequirement.ofJson? .buffered
  | .type => KotlinType.ofJson? .buffered
  | .typeParameter => TypeParameter.ofJson? .buffered
  | .valueParameter => ValueParameter.ofJson? .buffered
  | .function => FunctionDecl.ofJson? .buffered
  | .constructor => ConstructorDecl.ofJson? .buffered
  | .property => PropertyDecl.ofJson? .buffered
  | .typeAlias => TypeAliasDecl.ofJson? .buffered
  | .container => Container.ofJson? .buffered
  | .root .classDecl => ClassDecl.ofJson? .buffered
  | .root .fileFacade => FileFacade.ofJson? .buffered
  | .root .syntheticClass => SyntheticClass.ofJson? .buffered
  | .root .multiFileFacade => MultiFileFacade.ofJson?
  | .root .multiFilePart => MultiFilePart.ofJson? .buffered

/-- Reads a record out of a tree; a root must have its tag. -/
def read : (k : RecordKind) → Nat → Json → Option k.Value
  | .root kind => fun levels j => do
    let (name, body) ← Metadata.splitTag j
    guard (name = Named.name kind)
    (root kind).readBody levels body
  | k => k.readBody

end RecordKind

/-! ## Shapes -/

/-- What a field may hold. -/
inductive Shape where
  | plain (p : PlainKind)
  | record (k : RecordKind)
  | option (s : Shape)
  | list (s : Shape)
deriving DecidableEq, Repr

namespace Shape

/-- The values. -/
abbrev Value : Shape → Type
  | .plain p => p.Value
  | .record k => k.Value
  | .option s => Option s.Value
  | .list s => List s.Value

/-- Reads a value; `null` is an absent one where it may be absent. -/
def read : (s : Shape) → Nat → Json → Option s.Value
  | .plain p => p.read
  | .record k => k.read
  | .option s => fun levels j =>
    match j with
    | .null => some none
    | j => (s.read levels j).map some
  | .list s => fun levels => Json.readItems levels s.read

end Shape

/-! ## Fields -/

/-- A field of a record. -/
structure Field (α : Type) where
  /-- The key in an object.  A field without one stands in arrays only. -/
  key : Option String
  /-- What it holds. -/
  shape : Shape
  /-- Its value in a record. -/
  get : α → shape.Value
  /-- The record with another value. -/
  set : shape.Value → α → α
  /-- The value to take when it is not given. -/
  default? : Option shape.Value

namespace Field
variable {α : Type}

/-- A field that must be given. -/
def required (key : String) (shape : Shape) (get : α → shape.Value) (set : shape.Value → α → α) :
    Field α :=
  ⟨some key, shape, get, set, none⟩

/-- A field that may be absent or null. -/
def optional (key : String) (shape : Shape) (get : α → Option shape.Value)
    (set : Option shape.Value → α → α) : Field α :=
  ⟨some key, .option shape, get, set, some none⟩

/-- A field with a value to take when it is not given. -/
def defaulted (key : String) (shape : Shape) (value : shape.Value) (get : α → shape.Value)
    (set : shape.Value → α → α) : Field α :=
  ⟨some key, shape, get, set, some value⟩

/-- A list that is empty when it is not given. -/
def items (key : String) (shape : Shape) (get : α → List shape.Value)
    (set : List shape.Value → α → α) : Field α :=
  ⟨some key, .list shape, get, set, some []⟩

/-- A field that stands in arrays only, as its key is taken. -/
def keyless (shape : Shape) (value : shape.Value) (get : α → shape.Value)
    (set : shape.Value → α → α) : Field α :=
  ⟨none, shape, get, set, some value⟩

/-- The record of the bit that all bundles of flags share. -/
def common (get : α → Bool) (set : Bool → α → α) : Field α :=
  .required "common" (.record .commonFlags) get set

/-- A bit that is false when it is not given. -/
def bit (key : String) (get : α → Bool) (set : Bool → α → α) : Field α :=
  ⟨some key, .plain .bool, get, set, some false⟩

end Field

/-! ## Tables -/

namespace RecordKind

/-- The fields of a record without the tag of a root. -/
def bodyTable : (k : RecordKind) → List (Field k.Value)
  | .commonFlags => [.required "has_annotations" (.plain .bool) (·) fun v _ => v]
  | .classFlags => [
    .common (·.hasAnnotations) fun v a => { a with hasAnnotations := v },
    .bit "is_annotation_class" (·.isAnnotationClass) fun v a => { a with isAnnotationClass := v },
    .bit "is_interface" (·.isInterface) fun v a => { a with isInterface := v },
    .bit "is_enum_class" (·.isEnumClass) fun v a => { a with isEnumClass := v },
    .bit "is_companion_object" (·.isCompanionObject) fun v a => { a with isCompanionObject := v },
    .bit "is_data" (·.isData) fun v a => { a with isData := v }]
  | .constructorFlags => [
    .common (·.hasAnnotations) fun v a => { a with hasAnnotations := v },
    .bit "is_primary" (·.isPrimary) fun v a => { a with isPrimary := v }]
  | .functionFlags => [
    .common (·.hasAnnotations) fun v a => { a with hasAnnotations := v },
    .bit "is_suspend" (·.isSuspend) fun v a => { a with isSuspend := v },
    .bit "is_inline" (·.isInline) fun v a => { a with isInline := v },
    .bit "is_operator" (·.isOperator) fun v a => { a with isOperator := v }]
  | .propertyFlags => [
    .common (·.hasAnnotations) fun v a => { a with hasAnnotations := v },
    .bit "is_var" (·.isVar) fun v a => { a with isVar := v },
    .bit "has_getter" (·.hasGetter) fun v a => { a with hasGetter := v },
    .bit "has_setter" (·.hasSetter) fun v a => { a with hasSetter := v },
    .bit "is_const" (·.isConst) fun v a => { a with isConst := v },
    .bit "is_delegated" (·.isDelegated) fun v a => { a with isDelegated := v }]
  | .accessorFlags => [
    .common (·.hasAnnotations) fun v a => { a with hasAnnotations := v },
    .bit "is_default" (·.isDefault) fun v a => { a with isDefault := v },
    .bit "is_external" (·.isExternal) fun v a => { a with isExternal := v },
    .bit "is_inline" (·.isInline) fun v a => { a with isInline := v }]
  | .typeFlags => [
    .common (·.hasAnnotations) fun v a => { a with hasAnnotations := v },
    .bit "is_nullable" (·.isNullable) fun v a => { a with isNullable := v },
    .bit "is_suspend" (·.isSuspend) fun v a => { a with isSuspend := v }]
  | .typeParameterFlags => [
    .common (·.hasAnnotations) fun v a => { a with hasAnnotations := v },
    .bit "is_reified" (·.isReified) fun v a => { a with isReified := v }]
  | .typeAliasFlags => [
    .common (·.hasAnnotations) fun v a => { a with hasAnnotations := v }]
  | .valueParameterFlags => [
    .common (·.hasAnnotations) fun v a => { a with hasAnnotations := v },
    .bit "declares_default_value" (·.declaresDefaultValue)
      fun v a => { a with declaresDefaultValue := v },
    .bit "is_crossinline" (·.isCrossinline) fun v a => { a with isCrossinline := v },
    .bit "is_noinline" (·.isNoinline) fun v a => { a with isNoinline := v }]
  | .memberRef => [
    .required "class" (.plain .classId) (·.owner) fun v a => { a with owner := v },
    .required "member" (.plain .memberId) (·.member) fun v a => { a with member := v }]
  | .signature => [
    .required "name" (.plain .text) (·.name) fun v a => { a with name := v },
    .required "descriptor" (.plain .text) (·.descriptor) fun v a => { a with descriptor := v }]
  | .classRef => [
    .required "name" (.plain .text) (·.name) fun v a => { a with name := v },
    .optional "referenced_class" (.plain .classId) (·.target) fun v a => { a with target := v }]
  | .annotationUse => [
    .required "class_name" (.plain .text) (·.className) fun v a => { a with className := v },
    .optional "referenced_annotation_class" (.plain .classId) (·.target)
      fun v a => { a with target := v }]
  | .versionRequirement => [
    .required "major" (.plain .uint32) (·.major) fun v a => { a with major := v },
    .required "minor" (.plain .uint32) (·.minor) fun v a => { a with minor := v },
    .required "patch" (.plain .uint32) (·.patch) fun v a => { a with patch := v },
    .defaulted "level" (.plain .requirementLevel) .error (·.level) fun v a => { a with level := v },
    .optional "message" (.plain .text) (·.message) fun v a => { a with message := v }]
  | .type => [
    .required "flags" (.record .typeFlags) (·.flags) fun v a => { a with flags := v },
    .optional "class_name" (.plain .text) (·.className) fun v a => { a with className := v },
    .optional "referenced_class" (.plain .classId) (·.target) fun v a => { a with target := v },
    .optional "type_parameter_id" (.plain .uint32) (·.parameterId)
      fun v a => { a with parameterId := v },
    .optional "alias_name" (.plain .text) (·.aliasName) fun v a => { a with aliasName := v },
    .defaulted "variance" (.plain .variance) .invariant (·.variance)
      fun v a => { a with variance := v },
    .items "type_arguments" (.record .type) (·.arguments) fun v a => { a with arguments := v },
    .items "upper_bounds" (.record .type) (·.upperBounds) fun v a => { a with upperBounds := v },
    .optional "abbreviation" (.record .type) (·.abbreviation)
      fun v a => { a with abbreviation := v },
    .items "annotations" (.record .annotationUse) (·.annotations)
      fun v a => { a with annotations := v }]
  | .typeParameter => [
    .required "flags" (.record .typeParameterFlags) (·.flags) fun v a => { a with flags := v },
    .required "name" (.plain .text) (·.name) fun v a => { a with name := v },
    .required "id" (.plain .uint32) (·.id) fun v a => { a with id := v },
    .defaulted "variance" (.plain .variance) .invariant (·.variance)
      fun v a => { a with variance := v },
    .items "upper_bounds" (.record .type) (·.upperBounds) fun v a => { a with upperBounds := v },
    .items "annotations" (.record .annotationUse) (·.annotations)
      fun v a => { a with annotations := v }]
  | .valueParameter => [
    .required "flags" (.record .valueParameterFlags) (·.flags) fun v a => { a with flags := v },
    .required "index" (.plain .uint64) (·.index) fun v a => { a with index := v },
    .required "name" (.plain .text) (·.name) fun v a => { a with name := v },
    .required "type" (.record .type) (·.type) fun v a => { a with type := v },
    .optional "vararg_element_type" (.record .type) (·.varargElement)
      fun v a => { a with varargElement := v }]
  | .function => [
    .required "flags" (.record .functionFlags) (·.flags) fun v a => { a with flags := v },
    .required "name" (.plain .text) (·.name) fun v a => { a with name := v },
    .optional "jvm_signature" (.record .signature) (·.signature)
      fun v a => { a with signature := v },
    .optional "referenced_method" (.record .memberRef) (·.method) fun v a => { a with method := v },
    .optional "receiver_type" (.record .type) (·.receiver) fun v a => { a with receiver := v },
    .items "type_parameters" (.record .typeParameter) (·.typeParameters)
      fun v a => { a with typeParameters := v },
    .items "value_parameters" (.record .valueParameter) (·.valueParameters)
      fun v a => { a with valueParameters := v },
    .required "return_type" (.record .type) (·.returnType) fun v a => { a with returnType := v },
    .optional "version_requirement" (.record .versionRequirement) (·.versionRequirement)
      fun v a => { a with versionRequirement := v }]
  | .constructor => [
    .required "flags" (.record .constructorFlags) (·.flags) fun v a => { a with flags := v },
    .optional "jvm_signature" (.record .signature) (·.signature)
      fun v a => { a with signature := v },
    .optional "referenced_method" (.record .memberRef) (·.method) fun v a => { a with method := v },
    .items "value_parameters" (.record .valueParameter) (·.valueParameters)
      fun v a => { a with valueParameters := v },
    .optional "version_requirement" (.record .versionRequirement) (·.versionRequirement)
      fun v a => { a with versionRequirement := v }]
  | .property => [
    .required "flags" (.record .propertyFlags) (·.flags) fun v a => { a with flags := v },
    .defaulted "getter_flags" (.record .accessorFlags) ({} : AccessorFlags) (·.getterFlags)
      fun v a => { a with getterFlags := v },
    .defaulted "setter_flags" (.record .accessorFlags) ({} : AccessorFlags) (·.setterFlags)
      fun v a => { a with setterFlags := v },
    .required "name" (.plain .text) (·.name) fun v a => { a with name := v },
    .optional "backing_field_signature" (.record .signature) (·.fieldSignature)
      fun v a => { a with fieldSignature := v },
    .optional "referenced_backing_field" (.record .memberRef) (·.backingField)
      fun v a => { a with backingField := v },
    .optional "getter_signature" (.record .signature) (·.getterSignature)
      fun v a => { a with getterSignature := v },
    .optional "referenced_getter_method" (.record .memberRef) (·.getter)
      fun v a => { a with getter := v },
    .optional "setter_signature" (.record .signature) (·.setterSignature)
      fun v a => { a with setterSignature := v },
    .optional "referenced_setter_method" (.record .memberRef) (·.setter)
      fun v a => { a with setter := v },
    .optional "synthetic_method_for_annotations" (.record .signature) (·.holderSignature)
      fun v a => { a with holderSignature := v },
    .optional "referenced_synthetic_method_for_annotations" (.record .memberRef) (·.holder)
      fun v a => { a with holder := v },
    .optional "receiver_type" (.record .type) (·.receiver) fun v a => { a with receiver := v },
    .required "type" (.record .type) (·.type) fun v a => { a with type := v },
    .items "type_parameters" (.record .typeParameter) (·.typeParameters)
      fun v a => { a with typeParameters := v },
    .items "setter_parameters" (.record .valueParameter) (·.setterParameters)
      fun v a => { a with setterParameters := v },
    .optional "version_requirement" (.record .versionRequirement) (·.versionRequirement)
      fun v a => { a with versionRequirement := v }]
  | .typeAlias => [
    .required "flags" (.record .typeAliasFlags) (·.flags) fun v a => { a with flags := v },
    .required "name" (.plain .text) (·.name) fun v a => { a with name := v },
    .items "type_parameters" (.record .typeParameter) (·.typeParameters)
      fun v a => { a with typeParameters := v },
    .required "underlying_type" (.record .type) (·.underlying)
      fun v a => { a with underlying := v },
    .required "expanded_type" (.record .type) (·.expanded) fun v a => { a with expanded := v },
    .optional "version_requirement" (.record .versionRequirement) (·.versionRequirement)
      fun v a => { a with versionRequirement := v },
    .items "annotations" (.record .annotationUse) (·.annotations)
      fun v a => { a with annotations := v }]
  | .container => [
    .optional "owner_class_name" (.plain .text) (·.ownerName) fun v a => { a with ownerName := v },
    .optional "referenced_owner_class" (.plain .classId) (·.owner) fun v a => { a with owner := v },
    .items "properties" (.record .property) (·.properties) fun v a => { a with properties := v },
    .items "functions" (.record .function) (·.functions) fun v a => { a with functions := v },
    .items "type_aliases" (.record .typeAlias) (·.typeAliases)
      fun v a => { a with typeAliases := v },
    .items "delegated_properties" (.record .property) (·.delegatedProperties)
      fun v a => { a with delegatedProperties := v }]
  | .root .classDecl => [
    .required "flags" (.record .classFlags) (·.flags) fun v a => { a with flags := v },
    .required "class_name" (.plain .text) (·.name) fun v a => { a with name := v },
    .optional "referenced_class" (.plain .classId) (·.target) fun v a => { a with target := v },
    .defaulted "container" (.record .container) ({} : Container) (·.container)
      fun v a => { a with container := v },
    .optional "companion_object" (.record .classRef) (·.companion)
      fun v a => { a with companion := v },
    .items "nested_classes" (.record .classRef) (·.nested) fun v a => { a with nested := v },
    .items "sealed_subclasses" (.record .classRef) (·.sealedSubclasses)
      fun v a => { a with sealedSubclasses := v },
    .items "enum_entry_names" (.plain .text) (·.enumEntries) fun v a => { a with enumEntries := v },
    .items "supertypes" (.record .type) (·.supertypes) fun v a => { a with supertypes := v },
    .items "type_parameters" (.record .typeParameter) (·.typeParameters)
      fun v a => { a with typeParameters := v },
    .optional "version_requirement" (.record .versionRequirement) (·.versionRequirement)
      fun v a => { a with versionRequirement := v },
    .items "constructors" (.record .constructor) (·.constructors)
      fun v a => { a with constructors := v }]
  | .root .fileFacade => [
    .defaulted "container" (.record .container) ({} : Container) (·.container)
      fun v a => { a with container := v }]
  | .root .syntheticClass => [
    -- The key of this field is that of the tag.
    .keyless (.plain .syntheticKind) .regular (·.kind) fun v a => { a with kind := v },
    .items "functions" (.record .function) (·.functions) fun v a => { a with functions := v }]
  | .root .multiFileFacade => [
    .items "part_classes" (.record .classRef) (·.parts) fun v a => { a with parts := v }]
  | .root .multiFilePart => [
    .required "facade_name" (.plain .text) (·.facadeName) fun v a => { a with facadeName := v },
    .optional "referenced_facade_class" (.plain .classId) (·.facade)
      fun v a => { a with facade := v },
    .defaulted "container" (.record .container) ({} : Container) (·.container)
      fun v a => { a with container := v }]

/-- The tag of a root. -/
def tagField (kind : MetadataKind) : Field kind.Value :=
  .required Metadata.tag (.plain (.tag kind)) (fun _ => ()) fun _ a => a

/-- The fields of a record, in their order. -/
def table : (k : RecordKind) → List (Field k.Value)
  | .root kind => tagField kind :: (root kind).bodyTable
  | k => k.bodyTable

end RecordKind

/-! ## Independence -/

/-- Setting one of two fields leaves the other alone. -/
def Field.Apart {α : Type} (f g : Field α) : Prop :=
  ∀ a, (∀ v, f.get (g.set v a) = f.get a) ∧ ∀ v, g.get (f.set v a) = g.get a

/-- Fields that are set independently of each other. -/
structure Independent {α : Type} (fields : List (Field α)) : Prop where
  /-- A field has the value that was set. -/
  get_set : ∀ f ∈ fields, ∀ v a, f.get (f.set v a) = v
  /-- A field that is set to its own value changes nothing. -/
  set_get : ∀ f ∈ fields, ∀ a, f.set (f.get a) a = a
  /-- The other fields keep theirs. -/
  apart : fields.Pairwise Field.Apart

namespace Independent
variable {α : Type} {fields : List (Field α)}

theorem nil : Independent ([] : List (Field α)) :=
  ⟨List.forall_mem_nil _, List.forall_mem_nil _, .nil⟩

/-- A row in front of others: the field keeps what is set, and is set apart from theirs. -/
theorem cons {f : Field α} (hget : ∀ v a, f.get (f.set v a) = v)
    (hset : ∀ a, f.set (f.get a) a = a) (hothers : ∀ g ∈ fields, f.Apart g)
    (h : Independent fields) : Independent (f :: fields) :=
  ⟨List.forall_mem_cons.mpr ⟨hget, h.get_set⟩, List.forall_mem_cons.mpr ⟨hset, h.set_get⟩,
    h.apart.cons hothers⟩

theorem drop (h : Independent fields) (n : Nat) : Independent (fields.drop n) :=
  ⟨fun f hf => h.get_set f (List.mem_of_mem_drop hf),
    fun f hf => h.set_get f (List.mem_of_mem_drop hf), h.apart.drop⟩

theorem tail {f : Field α} (h : Independent (f :: fields)) : Independent fields := h.drop 1

/-- The value of a field after another one was set. -/
theorem get_set_of_ne (h : Independent fields) {i j : Nat} {f g : Field α}
    (hf : fields[i]? = some f) (hg : fields[j]? = some g) (hne : i ≠ j) (v : f.shape.Value)
    (a : α) : g.get (f.set v a) = g.get a := by
  obtain ⟨hi, rfl⟩ := List.getElem?_eq_some_iff.mp hf
  obtain ⟨hj, rfl⟩ := List.getElem?_eq_some_iff.mp hg
  rcases Nat.lt_or_gt_of_ne hne with hlt | hgt
  · exact (List.pairwise_iff_getElem.mp h.apart i j hi hj hlt a).2 v
  · exact (List.pairwise_iff_getElem.mp h.apart j i hj hi hgt a).1 v

end Independent

namespace RecordKind

theorem bodyTable_independent (k : RecordKind) : Independent k.bodyTable := by
  cases k
  case' root kind => cases kind
  all_goals
    -- A recursive record is not made of its fields by definition, so that it is taken apart.
    repeat' first
    | exact .nil
    | exact List.forall_mem_nil _
    | refine .cons (fun _ _ => rfl) (fun a => by cases a <;> rfl) ?_ ?_
    | refine List.forall_mem_cons.mpr ⟨fun _ => ⟨fun _ => rfl, fun _ => rfl⟩, ?_⟩

theorem table_independent (k : RecordKind) : Independent k.table := by
  have hbody := k.bodyTable_independent
  cases k with
  | root kind =>
    exact .cons (fun _ _ => rfl) (fun _ => rfl) (fun _ _ _ => ⟨fun _ => rfl, fun _ => rfl⟩) hbody
  | _ => exact hbody

/-- No two fields have the same key. -/
theorem table_keys_distinct (k : RecordKind) :
    k.table.Pairwise fun f g => f.key = none ∨ f.key ≠ g.key := by
  have hkeys : (k.table.map Field.key).Pairwise fun m n => m = none ∨ m ≠ n := by
    cases k with
    | root kind => cases kind <;> decide
    | _ => decide
  exact List.pairwise_map.mp hkeys

end RecordKind

/-! ## Readers -/

namespace Field
variable {α : Type} {levels : Nat} {slot : Option Json} {fields : List (Field α)}
  {slots : List (Option Json)} {a b : α}

/-- Reads what is given for the field, if anything is. -/
def readSlot (f : Field α) (levels : Nat) : Option Json → Option f.shape.Value
  | some j => f.shape.read levels j
  | none => f.default?

/-- What is given for the field is read as its value in a record. -/
def Reads (f : Field α) (levels : Nat) (slot : Option Json) (a : α) : Prop :=
  f.readSlot levels slot = some (f.get a)

/-- Reads what is given for each of the fields into a record. -/
def fill (levels : Nat) : List (Field α) → List (Option Json) → α → Option α
  | [], [], a => some a
  | f :: fields, slot :: slots, a => do
    let v ← f.readSlot levels slot
    fill levels fields slots (f.set v a)
  | _, _, _ => none

/-- A row of a table: `r` reads a field if it takes the default for nothing, and whatever is given
    as the shape says. -/
theorem fill_row {f : Field α} {r : Option Json → Option f.shape.Value}
    {g : f.shape.Value → Option α} (habsent : f.default? = r none)
    (hgiven : ∀ j, f.shape.read levels j = r (some j))
    (hrest : ∀ v, fill levels fields slots (f.set v a) = g v) :
    fill levels (f :: fields) (slot :: slots) a = r slot >>= g := by
  obtain rfl := funext hrest
  cases slot with
  | none => rw [fill, readSlot, habsent]
  | some j => rw [fill, readSlot, hgiven]

/-- A field keeps its value when others are filled in. -/
theorem get_of_fill {f : Field α} (hothers : ∀ g ∈ fields, f.Apart g)
    (h : fill levels fields slots a = some b) : f.get b = f.get a := by
  induction fields generalizing slots a with
  | nil =>
    cases slots with
    | nil => rw [Option.some.inj h]
    | cons => cases h
  | cons g fields ih =>
    obtain ⟨hg, hfields⟩ := List.forall_mem_cons.mp hothers
    cases slots with
    | nil => cases h
    | cons slot slots =>
      obtain ⟨v, -, hrest⟩ := Option.bind_eq_some_iff.mp h
      rw [ih hfields hrest]
      exact (hg a).1 v

theorem reads_of_fill (hfields : Independent fields) (h : fill levels fields slots a = some b) :
    List.Forall₂ (fun f slot => f.Reads levels slot b) fields slots := by
  induction fields generalizing slots a with
  | nil =>
    cases slots with
    | nil => exact .nil
    | cons => cases h
  | cons f fields ih =>
    cases slots with
    | nil => cases h
    | cons slot slots =>
      obtain ⟨v, hv, hrest⟩ := Option.bind_eq_some_iff.mp h
      refine .cons ?_ (ih hfields.tail hrest)
      have hget : f.get b = v :=
        (get_of_fill (List.pairwise_cons.mp hfields.apart).1 hrest).trans
          (hfields.get_set f List.mem_cons_self v a)
      rw [Reads, hv, hget]

theorem fill_of_reads (hfields : Independent fields)
    (h : List.Forall₂ (fun f slot => f.Reads levels slot a) fields slots) :
    fill levels fields slots a = some a := by
  induction h with
  | nil => rfl
  | @cons f slot fields slots hf _ ih =>
    rw [fill, hf, Option.bind_eq_bind, Option.bind_some, hfields.set_get f List.mem_cons_self]
    exact ih hfields.tail

end Field

/-- Each item of a list gives an item. -/
theorem mapM_eq_some_iff {α β : Type} {g : α → Option β} {xs : List α} {ys : List β} :
    xs.mapM g = some ys ↔ List.Forall₂ (fun x y => g x = some y) xs ys := by
  induction xs generalizing ys with
  | nil => simp [eq_comm]
  | cons x xs ih =>
    simp only [List.mapM_cons, Option.bind_eq_bind, Option.bind_eq_some_iff, Option.pure_def,
      Option.some.injEq, List.forall₂_cons_left_iff, ih]
    exact exists_congr fun y => ⟨fun ⟨hy, rest, hrest, heq⟩ => ⟨rest, hy, hrest, heq.symm⟩,
      fun ⟨rest, hy, hrest, heq⟩ => ⟨hy, rest, hrest, heq.symm⟩⟩

theorem Json.length_slotsInOrder {names : List String} {items : List Json}
    {slots : List (Option Json)} (h : Json.slotsInOrder names items = some slots) :
    slots.length = names.length := by
  induction names generalizing items slots with
  | nil =>
    cases items with
    | nil =>
      rw [← Option.some.inj h]
      rfl
    | cons => cases h
  | cons name names ih =>
    cases items <;>
    · obtain ⟨rest, hrest, rfl⟩ := Option.map_eq_some_iff.mp h
      exact congrArg (· + 1) (ih hrest)

/-- The slots of a record are as many as its fields. -/
theorem Json.length_of_fields {levels : Nat} {names : List String} {j : Json}
    {slots : List (Option Json)} (h : j.fields levels names = some slots) :
    slots.length = names.length := by
  unfold Json.fields at h
  split at h
  · cases h
  · split at h
    · split at h
      · exact (mapM_eq_some_iff.mp h).length_eq.symm
      · cases h
    · exact Json.length_slotsInOrder h
    · cases h

namespace RecordKind

/-- What is read for the fields of a record makes up the record. -/
def ReadsAs (k : RecordKind) (levels : Nat) (j : Json) (a : k.Value) : Prop :=
  ∃ slots, j.fields levels k.keys = some slots ∧
    List.Forall₂ (fun f slot => f.Reads (levels - 1) slot a) k.bodyTable slots

theorem length_keys (k : RecordKind) : k.keys.length = k.bodyTable.length := by
  cases k with
  | root kind => cases kind <;> rfl
  | _ => rfl

theorem forall_length_zero {P : List (Option Json) → Prop} :
    (∀ slots : List (Option Json), slots.length = 0 → P slots) ↔ P [] := by
  constructor
  · exact fun h => h [] rfl
  · intro h slots hlength
    rwa [List.length_eq_zero_iff.mp hlength]

theorem forall_length_succ {n : Nat} {P : List (Option Json) → Prop} :
    (∀ slots : List (Option Json), slots.length = n + 1 → P slots) ↔
      ∀ slot slots, slots.length = n → P (slot :: slots) := by
  constructor
  · intro h slot slots hlength
    exact h _ (congrArg (· + 1) hlength)
  · rintro h (_ | ⟨slot, slots⟩) hlength
    · cases hlength
    · exact h slot slots (Nat.succ.inj hlength)

/-- A reader that takes the slots of a record apart is given as many as it asks for. -/
theorem readBody_of_slots {k : RecordKind} {levels : Nat} {j : Json} {a : k.Value}
    {g : List (Option Json) → Option k.Value}
    (hread : k.readBody levels j = j.fields levels k.keys >>= g)
    (h : ∀ slots : List (Option Json), slots.length = k.bodyTable.length →
      Field.fill (levels - 1) k.bodyTable slots a = g slots) :
    k.readBody levels j =
      j.fields levels k.keys >>= fun slots => Field.fill (levels - 1) k.bodyTable slots a := by
  rw [hread]
  cases hslots : j.fields levels k.keys with
  | none => rfl
  | some slots => exact (h slots ((Json.length_of_fields hslots).trans k.length_keys)).symm

/-- Every reader fills in the fields of its table, whatever was in them before. -/
theorem readBody_eq_fill (k : RecordKind) (levels : Nat) (j : Json) (a : k.Value) :
    k.readBody levels j =
      j.fields levels k.keys >>= fun slots => Field.fill (levels - 1) k.bodyTable slots a := by
  cases k
  case' root kind => cases kind
  -- The shared bit is not put into a record.
  case commonFlags =>
    refine readBody_of_slots rfl (forall_length_succ.mpr fun slot => forall_length_zero.mpr ?_)
    refine Eq.trans ?_ (bind_pure (Json.required Json.readBool slot))
    exact Field.fill_row rfl (fun _ => rfl) fun _ => rfl
  -- A type is read by a recursion over the levels, which shows its fields only at the next one.
  case' type => cases levels
  case type.zero => rfl
  case' type.succ inner => refine readBody_of_slots (KotlinType.ofJson?_succ .buffered inner j) ?_
  any_goals refine readBody_of_slots rfl ?_
  all_goals
    -- Reader and table are compared row by row; in the end all fields are set.
    repeat refine forall_length_succ.mpr fun _ => ?_
    refine forall_length_zero.mpr ?_
    repeat refine Field.fill_row rfl (fun j => by cases j <;> rfl) fun _ => ?_
    rfl

/-- **Readers and tables**: every reader reads the fields of its table, each by its own shape and
    with its own default, and puts the record together from them. -/
theorem readBody_eq_some_iff (k : RecordKind) (levels : Nat) (j : Json) (a : k.Value) :
    k.readBody levels j = some a ↔ k.ReadsAs levels j a := by
  have hfields := k.bodyTable_independent
  rw [k.readBody_eq_fill levels j a, Option.bind_eq_bind, Option.bind_eq_some_iff]
  exact exists_congr fun slots => and_congr_right fun _ =>
    ⟨Field.reads_of_fill hfields, Field.fill_of_reads hfields⟩

/-! ## Roots and other records -/

/-- A root has a tag, which takes its key away from the fields. -/
theorem root_keys (kind : MetadataKind) :
    (root kind).bodyTable.map Field.key =
      (root kind).keys.map fun name => if name = Metadata.tag then none else some name := by
  cases kind <;> decide

/-- A root is read if it has its tag and its record is. -/
theorem read_root_eq_some_iff {kind : MetadataKind} {levels : Nat} {j : Json} {a : kind.Value} :
    (root kind).read levels j = some a ↔
      ∃ body, Metadata.splitTag j = some (Named.name kind, body) ∧
        (root kind).readBody levels body = some a := by
  show (Metadata.splitTag j).bind _ = some a ↔ _
  rw [Option.bind_eq_some_iff]
  constructor
  · rintro ⟨⟨name, body⟩, hsplit, h⟩
    obtain ⟨_, hguard, hread⟩ := Option.bind_eq_some_iff.mp h
    obtain rfl : name = Named.name kind := by
      by_contra hne
      rw [guard, if_neg hne] at hguard
      cases hguard
    exact ⟨body, hsplit, hread⟩
  · rintro ⟨body, hsplit, hread⟩
    have hguard : guard (Named.name kind = Named.name kind) = some () := if_pos rfl
    exact ⟨(_, body), hsplit, Json.bind_of_eq_some hguard hread⟩

/-- The records other than the roots have no tag. -/
theorem exists_root_or (k : RecordKind) :
    (∃ kind, k = root kind) ∨
      k.read = k.readBody ∧ k.table = k.bodyTable ∧
        k.bodyTable.map Field.key = k.keys.map some := by
  cases k with
  | root kind => exact .inl ⟨kind, rfl⟩
  | _ => exact .inr ⟨rfl, rfl, rfl⟩

end RecordKind

end KotlinMetadata
