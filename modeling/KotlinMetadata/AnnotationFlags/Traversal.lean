import KotlinMetadata.AnnotationFlags.Site

/-! # Rewriting annotation flags

    A traversal meets every annotation flag of a graph and puts a new value in its place.  It meets
    the flags of the children of a node before those of the node, and is told of each flag with
    everything around it as it was before the traversal.

    - `Metadata.traverseFlags`: with a step that may have effects, which happen in this order;
    - `Metadata.mapFlags`: with a plain function.

    Nothing but the flags changes.
-/

namespace KotlinMetadata

variable {m : Type → Type} [Monad m]

/-! ## Types and parameters -/

mutual

/-- New flags in a type. -/
def KotlinType.traverseFlags (f : FlagSite → m Bool) (owner : TypeOwner) (t : KotlinType) :
    m KotlinType :=
  match t with
  | ⟨flags, className, target, parameterId, aliasName, variance, arguments, upperBounds,
      abbreviation, annotations⟩ => do
    let arguments ← KotlinType.traverseFlagsList f (.typeArgument t) arguments
    let upperBounds ← KotlinType.traverseFlagsList f (.flexibleBound t) upperBounds
    let abbreviation ← KotlinType.traverseFlagsOption f (.abbreviation t) abbreviation
    let hasAnnotations ← f (.type owner t)
    return ⟨{ flags with hasAnnotations }, className, target, parameterId, aliasName, variance,
      arguments, upperBounds, abbreviation, annotations⟩

/-- New flags in types that stand in the same place. -/
def KotlinType.traverseFlagsList (f : FlagSite → m Bool) (owner : TypeOwner)
    (ts : List KotlinType) : m (List KotlinType) :=
  match ts with
  | [] => return []
  | t :: ts => do
    let t ← KotlinType.traverseFlags f owner t
    let ts ← KotlinType.traverseFlagsList f owner ts
    return t :: ts

/-- New flags in a type that may be absent. -/
def KotlinType.traverseFlagsOption (f : FlagSite → m Bool) (owner : TypeOwner)
    (t : Option KotlinType) : m (Option KotlinType) :=
  match t with
  | none => return none
  | some t => do return some (← KotlinType.traverseFlags f owner t)

end

/-- New flags in a type parameter. -/
def TypeParameter.traverseFlags (f : FlagSite → m Bool) (p : TypeParameter) :
    m TypeParameter := do
  let upperBounds ← KotlinType.traverseFlagsList f (.parameterBound p) p.upperBounds
  let hasAnnotations ← f (.typeParameter p)
  return { p with upperBounds, flags := { p.flags with hasAnnotations } }

/-- New flags in a value parameter. -/
def ValueParameter.traverseFlags (f : FlagSite → m Bool) (owner : ValueParameterOwner)
    (p : ValueParameter) : m ValueParameter := do
  let type ← p.type.traverseFlags f (.valueParameterType p)
  let varargElement ← KotlinType.traverseFlagsOption f (.varargElement p) p.varargElement
  let hasAnnotations ← f (.valueParameter owner p)
  return { p with type, varargElement, flags := { p.flags with hasAnnotations } }

/-! ## Declarations -/

/-- New flags in a property: those of the property itself before those of its accessors. -/
def PropertyDecl.traverseFlags (f : FlagSite → m Bool) (p : PropertyDecl) : m PropertyDecl := do
  let type ← p.type.traverseFlags f (.propertyType p)
  let setterParameters ← p.setterParameters.mapM (·.traverseFlags f (.propertySetter p))
  let receiver ← KotlinType.traverseFlagsOption f (.propertyReceiver p) p.receiver
  let typeParameters ← p.typeParameters.mapM (·.traverseFlags f)
  let self ← f (.property p)
  let getter ← f (.getter p)
  let setter ← f (.setter p)
  return { p with
    type, setterParameters, receiver, typeParameters
    flags := { p.flags with hasAnnotations := self }
    getterFlags := { p.getterFlags with hasAnnotations := getter }
    setterFlags := { p.setterFlags with hasAnnotations := setter } }

/-- New flags in a function. -/
def FunctionDecl.traverseFlags (f : FlagSite → m Bool) (fn : FunctionDecl) :
    m FunctionDecl := do
  let receiver ← KotlinType.traverseFlagsOption f (.functionReceiver fn) fn.receiver
  let typeParameters ← fn.typeParameters.mapM (·.traverseFlags f)
  let valueParameters ← fn.valueParameters.mapM (·.traverseFlags f (.function fn))
  let returnType ← fn.returnType.traverseFlags f (.functionReturn fn)
  let hasAnnotations ← f (.function fn)
  return { fn with
    receiver, typeParameters, valueParameters, returnType
    flags := { fn.flags with hasAnnotations } }

/-- New flags in a constructor. -/
def ConstructorDecl.traverseFlags (f : FlagSite → m Bool) (owner : ClassDecl)
    (k : ConstructorDecl) : m ConstructorDecl := do
  let valueParameters ← k.valueParameters.mapM (·.traverseFlags f (.constructor owner k))
  let hasAnnotations ← f (.constructor owner k)
  return { k with valueParameters, flags := { k.flags with hasAnnotations } }

/-- New flags in a type alias. -/
def TypeAliasDecl.traverseFlags (f : FlagSite → m Bool) (a : TypeAliasDecl) :
    m TypeAliasDecl := do
  let typeParameters ← a.typeParameters.mapM (·.traverseFlags f)
  let underlying ← a.underlying.traverseFlags f (.underlying a)
  let expanded ← a.expanded.traverseFlags f (.expanded a)
  let hasAnnotations ← f (.typeAlias a)
  return { a with typeParameters, underlying, expanded, flags := { a.flags with hasAnnotations } }

/-- New flags in the declarations of a container. -/
def Container.traverseFlags (f : FlagSite → m Bool) (c : Container) : m Container := do
  let properties ← c.properties.mapM (·.traverseFlags f)
  let functions ← c.functions.mapM (·.traverseFlags f)
  let typeAliases ← c.typeAliases.mapM (·.traverseFlags f)
  let delegatedProperties ← c.delegatedProperties.mapM (·.traverseFlags f)
  return { c with properties, functions, typeAliases, delegatedProperties }

/-! ## Roots -/

/-- New flags in a class. -/
def ClassDecl.traverseFlags (f : FlagSite → m Bool) (c : ClassDecl) : m ClassDecl := do
  let container ← c.container.traverseFlags f
  let supertypes ← KotlinType.traverseFlagsList f (.supertype c) c.supertypes
  let typeParameters ← c.typeParameters.mapM (·.traverseFlags f)
  let constructors ← c.constructors.mapM (·.traverseFlags f c)
  let hasAnnotations ← f (.classDecl c)
  return { c with
    container, supertypes, typeParameters, constructors
    flags := { c.flags with hasAnnotations } }

/-- New flags in a whole graph. -/
def Metadata.traverseFlags (f : FlagSite → m Bool) : Metadata → m Metadata
  | .classDecl c => do return .classDecl (← c.traverseFlags f)
  | .fileFacade file => do
    return .fileFacade { file with container := ← file.container.traverseFlags f }
  | .syntheticClass s => do
    return .syntheticClass { s with functions := ← s.functions.mapM (·.traverseFlags f) }
  | .multiFileFacade file => return .multiFileFacade file
  | .multiFilePart p => do
    return .multiFilePart { p with container := ← p.container.traverseFlags f }

/-- New flags in a whole graph, each worked out by itself. -/
def Metadata.mapFlags (f : FlagSite → Bool) (root : Metadata) : Metadata :=
  Id.run (root.traverseFlags fun site => pure (f site))

/-- The flags of some kinds overwritten by one value. -/
def Metadata.overwriteFlags (kinds : List FlagKind) (value : Bool) (root : Metadata) : Metadata :=
  root.mapFlags fun site => if kinds.contains site.kind then value else site.value

end KotlinMetadata
