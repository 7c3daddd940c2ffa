import KotlinMetadata.Walk.Children

/-! # The order of a walk

    A walk shows every node of a graph once, each before its children, and the children in a fixed
    order of groups:

    - class: those of its container, supertypes, type parameters, version requirement,
      constructors;
    - container: properties, functions, type aliases, delegated properties;
    - synthetic class: functions; multi-file facade: none;
    - property: version requirement, type, setter parameters, receiver, type parameters;
    - function: receiver, type parameters, value parameters, return type, version requirement;
    - constructor: value parameters, version requirement;
    - type alias: type parameters, underlying type, expanded type, version requirement,
      annotations;
    - type: arguments, upper bounds, abbreviation, annotations;
    - type parameter: upper bounds, annotations;
    - value parameter: type, type of one element.

    `Metadata.walk` is the whole walk as a list.
-/

namespace KotlinMetadata

/-! ## Types -/

mutual

/-- A type and everything in it. -/
def KotlinType.walk (owner : TypeOwner) (t : KotlinType) : List Dispatch :=
  match t with
  | ⟨_, _, _, _, _, _, arguments, upperBounds, abbreviation, annotations⟩ =>
    .type owner t :: KotlinType.walkList (.typeArgument t) arguments ++
      KotlinType.walkList (.flexibleBound t) upperBounds ++
      KotlinType.walkOption (.abbreviation t) abbreviation ++
      annotationDispatches (.type t) annotations

/-- Types that stand in the same place, one after the other. -/
def KotlinType.walkList (owner : TypeOwner) (ts : List KotlinType) : List Dispatch :=
  match ts with
  | [] => []
  | t :: ts => KotlinType.walk owner t ++ KotlinType.walkList owner ts

/-- A type that may be absent. -/
def KotlinType.walkOption (owner : TypeOwner) (t : Option KotlinType) : List Dispatch :=
  match t with
  | none => []
  | some t => KotlinType.walk owner t

end

/-! ## Parameters -/

/-- A type parameter and everything in it. -/
def TypeParameter.walk (owner : TypeParameterOwner) (p : TypeParameter) : List Dispatch :=
  .typeParameter owner p :: KotlinType.walkList (.parameterBound p) p.upperBounds ++
    annotationDispatches (.typeParameter p) p.annotations

/-- A value parameter and everything in it. -/
def ValueParameter.walk (owner : ValueParameterOwner) (p : ValueParameter) : List Dispatch :=
  .valueParameter owner p :: p.type.walk (.valueParameterType p) ++
    KotlinType.walkOption (.varargElement p) p.varargElement

/-! ## Declarations -/

/-- A property and everything in it. -/
def PropertyDecl.walk (owner : PropertyOwner) (p : PropertyDecl) : List Dispatch :=
  .property owner p :: versionDispatches (.property p) p.versionRequirement ++
    p.type.walk (.propertyType p) ++
    p.setterParameters.flatMap (·.walk (.propertySetter p)) ++
    KotlinType.walkOption (.propertyReceiver p) p.receiver ++
    p.typeParameters.flatMap (·.walk (.property p))

/-- A function and everything in it. -/
def FunctionDecl.walk (owner : FunctionOwner) (f : FunctionDecl) : List Dispatch :=
  .function owner f :: KotlinType.walkOption (.functionReceiver f) f.receiver ++
    f.typeParameters.flatMap (·.walk (.function f)) ++
    f.valueParameters.flatMap (·.walk (.function f)) ++
    f.returnType.walk (.functionReturn f) ++
    versionDispatches (.function f) f.versionRequirement

/-- A constructor and everything in it. -/
def ConstructorDecl.walk (owner : ClassDecl) (k : ConstructorDecl) : List Dispatch :=
  .constructor owner k :: k.valueParameters.flatMap (·.walk (.constructor owner k)) ++
    versionDispatches (.constructor k) k.versionRequirement

/-- A type alias and everything in it. -/
def TypeAliasDecl.walk (owner : Container) (a : TypeAliasDecl) : List Dispatch :=
  .typeAlias owner a :: a.typeParameters.flatMap (·.walk (.typeAlias a)) ++
    a.underlying.walk (.underlying a) ++
    a.expanded.walk (.expanded a) ++
    versionDispatches (.typeAlias a) a.versionRequirement ++
    annotationDispatches (.typeAlias a) a.annotations

/-- Everything in a container. -/
def Container.walk (c : Container) : List Dispatch :=
  c.properties.flatMap (·.walk (.declared c)) ++
    c.functions.flatMap (·.walk (.container c)) ++
    c.typeAliases.flatMap (·.walk c) ++
    c.delegatedProperties.flatMap (·.walk (.delegated c))

/-! ## Roots -/

/-- Everything in a class below its root. -/
def ClassDecl.walkBody (c : ClassDecl) : List Dispatch :=
  c.container.walk ++
    KotlinType.walkList (.supertype c) c.supertypes ++
    c.typeParameters.flatMap (·.walk (.classDecl c)) ++
    versionDispatches (.classDecl c) c.versionRequirement ++
    c.constructors.flatMap (·.walk c)

/-- Everything in a root below itself. -/
def Metadata.walkBody : Metadata → List Dispatch
  | .classDecl c => c.walkBody
  | .fileFacade f => f.container.walk
  | .syntheticClass s => s.functions.flatMap (·.walk (.syntheticClass s))
  | .multiFileFacade _ => []
  | .multiFilePart p => p.container.walk

/-- A whole graph, its root first. -/
def Metadata.walk (m : Metadata) : List Dispatch :=
  .root m :: m.walkBody

end KotlinMetadata
