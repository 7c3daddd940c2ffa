import KotlinMetadata.Walk.Node

/-! # Labels

    A label is a short text for a node: its kind and what tells it apart from others.  The owner
    of a node has one as well, which says in what place of which node it stands.

    - `Node.label`, and a `label` for each kind of declaration;
    - `Dispatch.text`: label and owner.
-/

namespace KotlinMetadata

/-! ## Nodes -/

/-- The label of a class. -/
def ClassDecl.label (c : ClassDecl) : String := "class " ++ c.name

/-- The label of a container: that of its owner, as far as it is named. -/
def Container.label (c : Container) : String := "container " ++ c.ownerName.getD "-"

/-- The label of a synthetic class: the number of its functions. -/
def SyntheticClass.label (s : SyntheticClass) : String :=
  "synthetic_class " ++ toString s.functions.length

/-- The label of a property. -/
def PropertyDecl.label (p : PropertyDecl) : String := "property " ++ p.name

/-- The label of a function. -/
def FunctionDecl.label (f : FunctionDecl) : String := "function " ++ f.name

/-- The label of a constructor: its signature, if it has one. -/
def ConstructorDecl.label (k : ConstructorDecl) : String :=
  "constructor " ++ (k.signature.map Signature.methodText).getD "-"

/-- The label of a type alias. -/
def TypeAliasDecl.label (a : TypeAliasDecl) : String := "type_alias " ++ a.name

/-- The label of a type: its class, or else its type parameter, or else its alias. -/
def KotlinType.label (t : KotlinType) : String :=
  match t.className, t.parameterId, t.aliasName with
  | some name, _, _ => "type " ++ name
  | none, some id, _ => "type #" ++ toString id.toNat
  | none, none, some name => "type ~" ++ name
  | none, none, none => "type ?"

/-- The label of a type parameter. -/
def TypeParameter.label (p : TypeParameter) : String := "type_parameter " ++ p.name

/-- The label of a value parameter. -/
def ValueParameter.label (p : ValueParameter) : String :=
  "value_parameter " ++ toString p.index.toNat ++ ":" ++ p.name

/-- The label of a version requirement. -/
def VersionRequirement.label (r : VersionRequirement) : String := "version_requirement " ++ r.text

/-- The label of an annotation. -/
def AnnotationUse.label (a : AnnotationUse) : String := "annotation " ++ a.className

/-- The label of a node.  That of a root is its kind. -/
def Node.label : Node → String
  | .root m => "root " ++ Named.name m.kind
  | .property p => p.label
  | .function f => f.label
  | .constructor k => k.label
  | .typeAlias a => a.label
  | .type t => t.label
  | .typeParameter p => p.label
  | .valueParameter p => p.label
  | .versionRequirement r => r.label
  | .annotationUse a => a.label

/-- The label of a root with what tells it apart from others of its kind. -/
def Metadata.label : Metadata → String
  | .classDecl c => c.label
  | .fileFacade f => "file_facade " ++ f.container.label
  | .syntheticClass s => s.label
  | .multiFileFacade f => "multi_file_facade " ++ toString f.parts.length
  | .multiFilePart p => "multi_file_part " ++ p.facadeName

/-! ## Owners -/

/-- The label of the owner of a property. -/
def PropertyOwner.label : PropertyOwner → String
  | .declared c => "declared " ++ c.label
  | .delegated c => "delegated " ++ c.label

/-- The label of the owner of a function. -/
def FunctionOwner.label : FunctionOwner → String
  | .container c => c.label
  | .syntheticClass s => s.label

/-- The label of the owner of a type. -/
def TypeOwner.label : TypeOwner → String
  | .supertype c => "supertype " ++ c.label
  | .propertyType p => "property_type " ++ p.label
  | .propertyReceiver p => "property_receiver " ++ p.label
  | .functionReturn f => "function_return " ++ f.label
  | .functionReceiver f => "function_receiver " ++ f.label
  | .valueParameterType p => "value_parameter_type " ++ p.label
  | .varargElement p => "vararg_element " ++ p.label
  | .parameterBound p => "upper_bound " ++ p.label
  | .underlying a => "underlying " ++ a.label
  | .expanded a => "expanded " ++ a.label
  | .typeArgument t => "type_argument " ++ t.label
  | .flexibleBound t => "flexible_upper_bound " ++ t.label
  | .abbreviation t => "abbreviation " ++ t.label

/-- The label of the owner of a type parameter. -/
def TypeParameterOwner.label : TypeParameterOwner → String
  | .classDecl c => c.label
  | .function f => f.label
  | .property p => p.label
  | .typeAlias a => a.label

/-- The label of the owner of a value parameter. -/
def ValueParameterOwner.label : ValueParameterOwner → String
  | .function f => f.label
  | .constructor c k => k.label ++ " of " ++ c.label
  | .propertySetter p => "setter " ++ p.label

/-- The label of the owner of a version requirement. -/
def VersionRequirementOwner.label : VersionRequirementOwner → String
  | .classDecl c => c.label
  | .constructor k => k.label
  | .function f => f.label
  | .property p => p.label
  | .typeAlias a => a.label

/-- The label of the owner of an annotation. -/
def AnnotationOwner.label : AnnotationOwner → String
  | .type t => t.label
  | .typeParameter p => p.label
  | .typeAlias a => a.label

/-- A node and its owner.  The owner of a root is the class it belongs to. -/
def Dispatch.text (className : String) : Dispatch → String
  | .root m => m.label ++ " @ " ++ className
  | .property owner p => p.label ++ " @ " ++ owner.label
  | .function owner f => f.label ++ " @ " ++ owner.label
  | .constructor owner k => k.label ++ " @ " ++ owner.label
  | .typeAlias owner a => a.label ++ " @ " ++ owner.label
  | .type owner t => t.label ++ " @ " ++ owner.label
  | .typeParameter owner p => p.label ++ " @ " ++ owner.label
  | .valueParameter owner p => p.label ++ " @ " ++ owner.label
  | .versionRequirement owner r => r.label ++ " @ " ++ owner.label
  | .annotationUse owner a => a.label ++ " @ " ++ owner.label

end KotlinMetadata
