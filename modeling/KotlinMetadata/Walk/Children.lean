import KotlinMetadata.Walk.Node

/-! # Groups of children

    A `ChildGroup` names one group of children that nodes of one kind have, such as the supertypes
    of a class.

    - `ChildGroup.of?` gives the children of the group, each with its owner, for a node that has
      such a group, and nothing for any other node;
    - every group has a name, that of the node and that of the group with a point between them.

    A container is looked up at the root that carries it.
-/

namespace KotlinMetadata

/-- The groups of children. -/
inductive ChildGroup where
  | containerProperties
  | containerFunctions
  | containerTypeAliases
  | containerDelegatedProperties
  | classSupertypes
  | classTypeParameters
  | classVersionRequirement
  | classConstructors
  | syntheticClassFunctions
  | propertyVersionRequirement
  | propertyType
  | propertySetterParameters
  | propertyReceiver
  | propertyTypeParameters
  | functionReceiver
  | functionTypeParameters
  | functionValueParameters
  | functionReturnType
  | functionVersionRequirement
  | constructorValueParameters
  | constructorVersionRequirement
  | typeAliasTypeParameters
  | typeAliasUnderlying
  | typeAliasExpanded
  | typeAliasVersionRequirement
  | typeAliasAnnotations
  | typeArguments
  | typeUpperBounds
  | typeAbbreviation
  | typeAnnotations
  | typeParameterUpperBounds
  | typeParameterAnnotations
  | valueParameterType
deriving DecidableEq, Repr

instance : Named ChildGroup where
  all := [.containerProperties, .containerFunctions, .containerTypeAliases,
    .containerDelegatedProperties, .classSupertypes, .classTypeParameters,
    .classVersionRequirement, .classConstructors, .syntheticClassFunctions,
    .propertyVersionRequirement, .propertyType, .propertySetterParameters, .propertyReceiver,
    .propertyTypeParameters, .functionReceiver, .functionTypeParameters,
    .functionValueParameters, .functionReturnType, .functionVersionRequirement,
    .constructorValueParameters, .constructorVersionRequirement, .typeAliasTypeParameters,
    .typeAliasUnderlying, .typeAliasExpanded, .typeAliasVersionRequirement,
    .typeAliasAnnotations, .typeArguments, .typeUpperBounds, .typeAbbreviation,
    .typeAnnotations, .typeParameterUpperBounds, .typeParameterAnnotations, .valueParameterType]
  name
    | .containerProperties => "container.properties"
    | .containerFunctions => "container.functions"
    | .containerTypeAliases => "container.type_aliases"
    | .containerDelegatedProperties => "container.delegated_properties"
    | .classSupertypes => "class.supertypes"
    | .classTypeParameters => "class.type_parameters"
    | .classVersionRequirement => "class.version_requirement"
    | .classConstructors => "class.constructors"
    | .syntheticClassFunctions => "synthetic_class.functions"
    | .propertyVersionRequirement => "property.version_requirement"
    | .propertyType => "property.type"
    | .propertySetterParameters => "property.setter_parameters"
    | .propertyReceiver => "property.receiver_type"
    | .propertyTypeParameters => "property.type_parameters"
    | .functionReceiver => "function.receiver_type"
    | .functionTypeParameters => "function.type_parameters"
    | .functionValueParameters => "function.value_parameters"
    | .functionReturnType => "function.return_type"
    | .functionVersionRequirement => "function.version_requirement"
    | .constructorValueParameters => "constructor.value_parameters"
    | .constructorVersionRequirement => "constructor.version_requirement"
    | .typeAliasTypeParameters => "type_alias.type_parameters"
    | .typeAliasUnderlying => "type_alias.underlying_type"
    | .typeAliasExpanded => "type_alias.expanded_type"
    | .typeAliasVersionRequirement => "type_alias.version_requirement"
    | .typeAliasAnnotations => "type_alias.annotations"
    | .typeArguments => "type.type_arguments"
    | .typeUpperBounds => "type.upper_bounds"
    | .typeAbbreviation => "type.abbreviation"
    | .typeAnnotations => "type.annotations"
    | .typeParameterUpperBounds => "type_parameter.upper_bounds"
    | .typeParameterAnnotations => "type_parameter.annotations"
    | .valueParameterType => "value_parameter.type"

/-! ## The children of one node -/

/-- A version requirement that may be absent. -/
def versionDispatches (owner : VersionRequirementOwner) (r : Option VersionRequirement) :
    List Dispatch :=
  r.toList.map (.versionRequirement owner)

/-- Type parameters of one declaration. -/
def typeParameterDispatches (owner : TypeParameterOwner) (ps : List TypeParameter) :
    List Dispatch :=
  ps.map (.typeParameter owner)

/-- Value parameters of one callable. -/
def valueParameterDispatches (owner : ValueParameterOwner) (ps : List ValueParameter) :
    List Dispatch :=
  ps.map (.valueParameter owner)

/-- Annotations of one node. -/
def annotationDispatches (owner : AnnotationOwner) (annotations : List AnnotationUse) :
    List Dispatch :=
  annotations.map (.annotationUse owner)

namespace ChildGroup

/-- The children in a group of a container. -/
def ofContainer? (c : Container) : ChildGroup → Option (List Dispatch)
  | .containerProperties => some (c.properties.map (.property (.declared c)))
  | .containerFunctions => some (c.functions.map (.function (.container c)))
  | .containerTypeAliases => some (c.typeAliases.map (.typeAlias c))
  | .containerDelegatedProperties =>
    some (c.delegatedProperties.map (.property (.delegated c)))
  | _ => none

/-- The children in a group of a class, its container apart. -/
def ofClass? (c : ClassDecl) : ChildGroup → Option (List Dispatch)
  | .classSupertypes => some (c.supertypes.map (.type (.supertype c)))
  | .classTypeParameters => some (typeParameterDispatches (.classDecl c) c.typeParameters)
  | .classVersionRequirement => some (versionDispatches (.classDecl c) c.versionRequirement)
  | .classConstructors => some (c.constructors.map (.constructor c))
  | _ => none

/-- The children in a group of a property. -/
def ofProperty? (p : PropertyDecl) : ChildGroup → Option (List Dispatch)
  | .propertyVersionRequirement => some (versionDispatches (.property p) p.versionRequirement)
  | .propertyType => some [.type (.propertyType p) p.type]
  | .propertySetterParameters =>
    some (valueParameterDispatches (.propertySetter p) p.setterParameters)
  | .propertyReceiver => some (p.receiver.toList.map (.type (.propertyReceiver p)))
  | .propertyTypeParameters => some (typeParameterDispatches (.property p) p.typeParameters)
  | _ => none

/-- The children in a group of a function. -/
def ofFunction? (f : FunctionDecl) : ChildGroup → Option (List Dispatch)
  | .functionReceiver => some (f.receiver.toList.map (.type (.functionReceiver f)))
  | .functionTypeParameters => some (typeParameterDispatches (.function f) f.typeParameters)
  | .functionValueParameters => some (valueParameterDispatches (.function f) f.valueParameters)
  | .functionReturnType => some [.type (.functionReturn f) f.returnType]
  | .functionVersionRequirement => some (versionDispatches (.function f) f.versionRequirement)
  | _ => none

/-- The children in a group of a constructor. -/
def ofConstructor? (c : ClassDecl) (k : ConstructorDecl) : ChildGroup → Option (List Dispatch)
  | .constructorValueParameters =>
    some (valueParameterDispatches (.constructor c k) k.valueParameters)
  | .constructorVersionRequirement =>
    some (versionDispatches (.constructor k) k.versionRequirement)
  | _ => none

/-- The children in a group of a type alias. -/
def ofTypeAlias? (a : TypeAliasDecl) : ChildGroup → Option (List Dispatch)
  | .typeAliasTypeParameters => some (typeParameterDispatches (.typeAlias a) a.typeParameters)
  | .typeAliasUnderlying => some [.type (.underlying a) a.underlying]
  | .typeAliasExpanded => some [.type (.expanded a) a.expanded]
  | .typeAliasVersionRequirement => some (versionDispatches (.typeAlias a) a.versionRequirement)
  | .typeAliasAnnotations => some (annotationDispatches (.typeAlias a) a.annotations)
  | _ => none

/-- The children in a group of a type. -/
def ofType? (t : KotlinType) : ChildGroup → Option (List Dispatch)
  | .typeArguments => some (t.arguments.map (.type (.typeArgument t)))
  | .typeUpperBounds => some (t.upperBounds.map (.type (.flexibleBound t)))
  | .typeAbbreviation => some (t.abbreviation.toList.map (.type (.abbreviation t)))
  | .typeAnnotations => some (annotationDispatches (.type t) t.annotations)
  | _ => none

/-- The children in a group of a type parameter. -/
def ofTypeParameter? (p : TypeParameter) : ChildGroup → Option (List Dispatch)
  | .typeParameterUpperBounds => some (p.upperBounds.map (.type (.parameterBound p)))
  | .typeParameterAnnotations => some (annotationDispatches (.typeParameter p) p.annotations)
  | _ => none

/-- The children in a group of a value parameter: its type, then the type of one element. -/
def ofValueParameter? (p : ValueParameter) : ChildGroup → Option (List Dispatch)
  | .valueParameterType =>
    some (.type (.valueParameterType p) p.type ::
      p.varargElement.toList.map (.type (.varargElement p)))
  | _ => none

/-- The children in a group of a root, those of its container included. -/
def ofRoot? (m : Metadata) (g : ChildGroup) : Option (List Dispatch) :=
  match m with
  | .classDecl c => (ofClass? c g).or (ofContainer? c.container g)
  | .fileFacade f => ofContainer? f.container g
  | .multiFilePart p => ofContainer? p.container g
  | .syntheticClass s =>
    match g with
    | .syntheticClassFunctions => some (s.functions.map (.function (.syntheticClass s)))
    | _ => none
  | .multiFileFacade _ => none

/-- The children in a group of a node that has such a group. -/
def of? (g : ChildGroup) : Dispatch → Option (List Dispatch)
  | .root m => ofRoot? m g
  | .property _ p => ofProperty? p g
  | .function _ f => ofFunction? f g
  | .constructor c k => ofConstructor? c k g
  | .typeAlias _ a => ofTypeAlias? a g
  | .type _ t => ofType? t g
  | .typeParameter _ p => ofTypeParameter? p g
  | .valueParameter _ p => ofValueParameter? p g
  | .versionRequirement _ _ | .annotationUse _ _ => none

end ChildGroup

end KotlinMetadata
