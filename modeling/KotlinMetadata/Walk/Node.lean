import KotlinMetadata.Model.Metadata

/-! # Nodes and where they stand

    - `Node`: a node of the metadata of any kind, with `NodeKind` as its kind;
    - the owners (`PropertyOwner`, …, `AnnotationOwner`): the place of a node in the node around it;
    - `Dispatch`: a node together with its owner, which is what a visitor is shown.

    A declaration container is no node of its own: it belongs to the root that carries it.
-/

namespace KotlinMetadata

/-! ## Kinds -/

/-- The kinds of nodes, roots first. -/
inductive NodeKind where
  | classDecl
  | fileFacade
  | syntheticClass
  | multiFileFacade
  | multiFilePart
  | property
  | function
  | constructor
  | typeAlias
  | type
  | typeParameter
  | valueParameter
  | versionRequirement
  | annotationUse
deriving DecidableEq, Repr

instance : Named NodeKind where
  all := [.classDecl, .fileFacade, .syntheticClass, .multiFileFacade, .multiFilePart, .property,
    .function, .constructor, .typeAlias, .type, .typeParameter, .valueParameter,
    .versionRequirement, .annotationUse]
  name
    | .classDecl => "class"
    | .fileFacade => "file_facade"
    | .syntheticClass => "synthetic_class"
    | .multiFileFacade => "multi_file_facade"
    | .multiFilePart => "multi_file_part"
    | .property => "property"
    | .function => "function"
    | .constructor => "constructor"
    | .typeAlias => "type_alias"
    | .type => "type"
    | .typeParameter => "type_parameter"
    | .valueParameter => "value_parameter"
    | .versionRequirement => "version_requirement"
    | .annotationUse => "annotation"

/-- The kind of a root as a node. -/
def Metadata.nodeKind : Metadata → NodeKind
  | .classDecl _ => .classDecl
  | .fileFacade _ => .fileFacade
  | .syntheticClass _ => .syntheticClass
  | .multiFileFacade _ => .multiFileFacade
  | .multiFilePart _ => .multiFilePart

/-! ## Nodes -/

/-- A node of any kind. -/
inductive Node where
  | root (m : Metadata)
  | property (p : PropertyDecl)
  | function (f : FunctionDecl)
  | constructor (k : ConstructorDecl)
  | typeAlias (a : TypeAliasDecl)
  | type (t : KotlinType)
  | typeParameter (p : TypeParameter)
  | valueParameter (p : ValueParameter)
  | versionRequirement (r : VersionRequirement)
  | annotationUse (a : AnnotationUse)
deriving DecidableEq, Repr

/-- The kind of a node. -/
def Node.kind : Node → NodeKind
  | .root m => m.nodeKind
  | .property _ => .property
  | .function _ => .function
  | .constructor _ => .constructor
  | .typeAlias _ => .typeAlias
  | .type _ => .type
  | .typeParameter _ => .typeParameter
  | .valueParameter _ => .valueParameter
  | .versionRequirement _ => .versionRequirement
  | .annotationUse _ => .annotationUse

/-! ## Owners -/

/-- Where a property is declared. -/
inductive PropertyOwner where
  /-- Among the properties of a container. -/
  | declared (c : Container)
  /-- Among the local delegated properties of a container. -/
  | delegated (c : Container)
deriving DecidableEq, Repr

/-- Where a function is declared. -/
inductive FunctionOwner where
  | container (c : Container)
  | syntheticClass (s : SyntheticClass)
deriving DecidableEq, Repr

/-- The place of a type. -/
inductive TypeOwner where
  | supertype (c : ClassDecl)
  | propertyType (p : PropertyDecl)
  | propertyReceiver (p : PropertyDecl)
  | functionReturn (f : FunctionDecl)
  | functionReceiver (f : FunctionDecl)
  | valueParameterType (p : ValueParameter)
  | varargElement (p : ValueParameter)
  | parameterBound (p : TypeParameter)
  | underlying (a : TypeAliasDecl)
  | expanded (a : TypeAliasDecl)
  | typeArgument (t : KotlinType)
  | flexibleBound (t : KotlinType)
  | abbreviation (t : KotlinType)
deriving DecidableEq, Repr

/-- The declaration of a type parameter. -/
inductive TypeParameterOwner where
  | classDecl (c : ClassDecl)
  | function (f : FunctionDecl)
  | property (p : PropertyDecl)
  | typeAlias (a : TypeAliasDecl)
deriving DecidableEq, Repr

/-- The callable of a value parameter. -/
inductive ValueParameterOwner where
  | function (f : FunctionDecl)
  /-- A constructor, with the class that declares it. -/
  | constructor (c : ClassDecl) (k : ConstructorDecl)
  | propertySetter (p : PropertyDecl)
deriving DecidableEq, Repr

/-- The declaration of a version requirement. -/
inductive VersionRequirementOwner where
  | classDecl (c : ClassDecl)
  | constructor (k : ConstructorDecl)
  | function (f : FunctionDecl)
  | property (p : PropertyDecl)
  | typeAlias (a : TypeAliasDecl)
deriving DecidableEq, Repr

/-- The node of an annotation. -/
inductive AnnotationOwner where
  | type (t : KotlinType)
  | typeParameter (p : TypeParameter)
  | typeAlias (a : TypeAliasDecl)
deriving DecidableEq, Repr

/-! ## Dispatches -/

/-- A node with its owner. -/
inductive Dispatch where
  | root (m : Metadata)
  | property (owner : PropertyOwner) (p : PropertyDecl)
  | function (owner : FunctionOwner) (f : FunctionDecl)
  | constructor (owner : ClassDecl) (k : ConstructorDecl)
  | typeAlias (owner : Container) (a : TypeAliasDecl)
  | type (owner : TypeOwner) (t : KotlinType)
  | typeParameter (owner : TypeParameterOwner) (p : TypeParameter)
  | valueParameter (owner : ValueParameterOwner) (p : ValueParameter)
  | versionRequirement (owner : VersionRequirementOwner) (r : VersionRequirement)
  | annotationUse (owner : AnnotationOwner) (a : AnnotationUse)
deriving DecidableEq, Repr

/-- The node without its owner. -/
def Dispatch.node : Dispatch → Node
  | .root m => .root m
  | .property _ p => .property p
  | .function _ f => .function f
  | .constructor _ k => .constructor k
  | .typeAlias _ a => .typeAlias a
  | .type _ t => .type t
  | .typeParameter _ p => .typeParameter p
  | .valueParameter _ p => .valueParameter p
  | .versionRequirement _ r => .versionRequirement r
  | .annotationUse _ a => .annotationUse a

/-- The kind of the node. -/
def Dispatch.kind (d : Dispatch) : NodeKind := d.node.kind

end KotlinMetadata
