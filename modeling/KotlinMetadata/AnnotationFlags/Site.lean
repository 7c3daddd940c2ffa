import KotlinMetadata.Walk.Node

/-! # Where annotation flags sit

    Nearly every node of the metadata has a flag that says whether it has annotations; a property
    has three, one for itself and one for each accessor.

    - `FlagKind`: the kinds of flags;
    - `FlagSite`: a flag in a graph, as the node that has it and what is around the node;
    - `FlagSite.value`: what the flag says.
-/

namespace KotlinMetadata

/-- The kinds of annotation flags. -/
inductive FlagKind where
  | classDecl
  | property
  | getter
  | setter
  | function
  | constructor
  | typeAlias
  | type
  | typeParameter
  | valueParameter
deriving DecidableEq, Repr

instance : Named FlagKind where
  all := [.classDecl, .property, .getter, .setter, .function, .constructor, .typeAlias, .type,
    .typeParameter, .valueParameter]
  name
    | .classDecl => "class"
    | .property => "property"
    | .getter => "getter"
    | .setter => "setter"
    | .function => "function"
    | .constructor => "constructor"
    | .typeAlias => "type_alias"
    | .type => "type"
    | .typeParameter => "type_parameter"
    | .valueParameter => "value_parameter"

/-- An annotation flag in a graph. -/
inductive FlagSite where
  | classDecl (c : ClassDecl)
  | property (p : PropertyDecl)
  | getter (p : PropertyDecl)
  | setter (p : PropertyDecl)
  | function (f : FunctionDecl)
  | constructor (owner : ClassDecl) (k : ConstructorDecl)
  | typeAlias (a : TypeAliasDecl)
  | type (owner : TypeOwner) (t : KotlinType)
  | typeParameter (p : TypeParameter)
  | valueParameter (owner : ValueParameterOwner) (p : ValueParameter)
deriving DecidableEq, Repr

namespace FlagSite

/-- The kind of a flag. -/
def kind : FlagSite → FlagKind
  | .classDecl _ => .classDecl
  | .property _ => .property
  | .getter _ => .getter
  | .setter _ => .setter
  | .function _ => .function
  | .constructor _ _ => .constructor
  | .typeAlias _ => .typeAlias
  | .type _ _ => .type
  | .typeParameter _ => .typeParameter
  | .valueParameter _ _ => .valueParameter

/-- What a flag says. -/
def value : FlagSite → Bool
  | .classDecl c => c.flags.hasAnnotations
  | .property p => p.flags.hasAnnotations
  | .getter p => p.getterFlags.hasAnnotations
  | .setter p => p.setterFlags.hasAnnotations
  | .function f => f.flags.hasAnnotations
  | .constructor _ k => k.flags.hasAnnotations
  | .typeAlias a => a.flags.hasAnnotations
  | .type _ t => t.flags.hasAnnotations
  | .typeParameter p => p.flags.hasAnnotations
  | .valueParameter _ p => p.flags.hasAnnotations

end FlagSite

/-- The flags of a single node, in the order in which they are listed. -/
def Dispatch.flagSites : Dispatch → List FlagSite
  | .root (.classDecl c) => [.classDecl c]
  | .property _ p => [.property p, .getter p, .setter p]
  | .function _ f => [.function f]
  | .constructor owner k => [.constructor owner k]
  | .typeAlias _ a => [.typeAlias a]
  | .type owner t => [.type owner t]
  | .typeParameter _ p => [.typeParameter p]
  | .valueParameter owner p => [.valueParameter owner p]
  | _ => []

end KotlinMetadata
