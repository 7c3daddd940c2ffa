import KotlinMetadata.Integrity.Check

/-! # Constraints

    A constraint looks at the nodes of certain kinds and checks the links that such a node must
    have.

    - `ConstraintKind`: the nine constraints in the order in which they run, each with its name
      and the kinds of nodes it looks at;
    - `ConstraintKind.visitor`: the constraint as a visitor that collects violations;
    - `ConstraintKind.run`: a walk of the visitor, restricted to the kinds it looks at.
-/

namespace KotlinMetadata

/-! ## The constraints -/

/-- The constraints. -/
inductive ConstraintKind where
  | declarationContainer
  | classDecl
  | function
  | constructor
  | property
  | type
  | multiFileFacade
  | multiFilePart
  | annotationUse
deriving DecidableEq, Repr

instance : Named ConstraintKind where
  all := [.declarationContainer, .classDecl, .function, .constructor, .property, .type,
    .multiFileFacade, .multiFilePart, .annotationUse]
  name
    | .declarationContainer => "declaration_container_integrity"
    | .classDecl => "class_integrity"
    | .function => "function_integrity"
    | .constructor => "constructor_integrity"
    | .property => "property_integrity"
    | .type => "type_integrity"
    | .multiFileFacade => "multi_file_facade_integrity"
    | .multiFilePart => "multi_file_part_integrity"
    | .annotationUse => "annotation_integrity"

namespace ConstraintKind

/-- The kinds of nodes a constraint looks at. -/
def interests : ConstraintKind → List NodeKind
  | .declarationContainer => [.classDecl, .fileFacade, .multiFilePart]
  | .classDecl => [.classDecl]
  | .function => [.function]
  | .constructor => [.constructor]
  | .property => [.property]
  | .type => [.type]
  | .multiFileFacade => [.multiFileFacade]
  | .multiFilePart => [.multiFilePart]
  | .annotationUse => [.annotationUse]

end ConstraintKind

/-! ## What each of them checks -/

/-- A container that names its owner must have it resolved. -/
def Container.violations (ctx : Context) (c : Container) : List Violation :=
  if c.ownerName.isSome then
    Site.ifMissing ⟨ctx, "declaration container"⟩ c.owner "referenced owner class"
  else []

/-- A class must be resolved itself, and so must its companion object, its nested classes and
    its sealed subclasses. -/
def ClassDecl.violations (ctx : Context) (c : ClassDecl) : List Violation :=
  let site : Site := ⟨ctx, "class " ++ c.name⟩
  site.ifMissing c.target "referenced class" ++
    c.companion.toList.flatMap (fun r => site.ifMissing r.target ("companion object " ++ r.name)) ++
    c.nested.flatMap (fun r => site.ifMissing r.target ("nested class " ++ r.name)) ++
    c.sealedSubclasses.flatMap (fun r => site.ifMissing r.target ("sealed subclass " ++ r.name))

/-- A function with a signature must have its method. -/
def FunctionDecl.violations (ctx : Context) (f : FunctionDecl) : List Violation :=
  if f.signature.isSome then
    Site.checkMember ⟨ctx, "function " ++ f.name⟩ .method f.method "referenced method"
  else []

/-- A constructor with a signature must have its method, unless it belongs to an annotation
    class, which has none. -/
def ConstructorDecl.violations (ctx : Context) (owner : ClassDecl) (k : ConstructorDecl) :
    List Violation :=
  if k.signature.isSome && !owner.flags.isAnnotationClass then
    Site.checkMember ⟨ctx, "constructor"⟩ .method k.method "referenced method"
  else []

/-- A property must have the field and the methods it has signatures of, accessors only where
    its flags say that there is one. -/
def PropertyDecl.violations (ctx : Context) (p : PropertyDecl) : List Violation :=
  let site : Site := ⟨ctx, "property " ++ p.name⟩
  (if p.fieldSignature.isSome then site.checkMember .field p.backingField "backing field"
    else []) ++
  (if p.flags.hasGetter && p.getterSignature.isSome then
    site.checkMember .method p.getter "getter" else []) ++
  (if p.flags.hasSetter && p.setterSignature.isSome then
    site.checkMember .method p.setter "setter" else []) ++
  (if p.holderSignature.isSome then
    site.checkMember .method p.holder "synthetic annotations method" else [])

/-- A type that names a class must have it resolved. -/
def KotlinType.violations (ctx : Context) (t : KotlinType) : List Violation :=
  match t.className with
  | some name => Site.ifMissing ⟨ctx, "type " ++ name⟩ t.target "referenced class"
  | none => []

/-- A multi-file facade must have its parts resolved. -/
def MultiFileFacade.violations (ctx : Context) (f : MultiFileFacade) : List Violation :=
  f.parts.flatMap fun r =>
    Site.ifMissing ⟨ctx, "multi-file facade"⟩ r.target ("part class " ++ r.name)

/-- A part of a multi-file class must have its facade resolved. -/
def MultiFilePart.violations (ctx : Context) (p : MultiFilePart) : List Violation :=
  Site.ifMissing ⟨ctx, "multi-file part"⟩ p.facade "facade class"

/-- An annotation must have its class resolved. -/
def AnnotationUse.violations (ctx : Context) (a : AnnotationUse) : List Violation :=
  Site.ifMissing ⟨ctx, "annotation " ++ a.className⟩ a.target "annotation class"

/-! ## Constraints as visitors -/

namespace ConstraintKind

/-- The visitor that handles one kind of node and adds what it finds to a list. -/
def collector (kind : NodeKind) (find : Context → Dispatch → List Violation) :
    Visitor (List Violation) where
  handler k := if k = kind then some fun ctx d found => found ++ find ctx d else none

/-- The visitor of a constraint. -/
def visitor : ConstraintKind → Visitor (List Violation)
  | .declarationContainer => { container := some fun ctx c found => found ++ c.violations ctx }
  | .classDecl => collector .classDecl fun
    | ctx, .root (.classDecl c) => c.violations ctx
    | _, _ => []
  | .function => collector .function fun
    | ctx, .function _ f => f.violations ctx
    | _, _ => []
  | .constructor => collector .constructor fun
    | ctx, .constructor owner k => k.violations ctx owner
    | _, _ => []
  | .property => collector .property fun
    | ctx, .property _ p => p.violations ctx
    | _, _ => []
  | .type => collector .type fun
    | ctx, .type _ t => t.violations ctx
    | _, _ => []
  | .multiFileFacade => collector .multiFileFacade fun
    | ctx, .root (.multiFileFacade f) => f.violations ctx
    | _, _ => []
  | .multiFilePart => collector .multiFilePart fun
    | ctx, .root (.multiFilePart p) => p.violations ctx
    | _, _ => []
  | .annotationUse => collector .annotationUse fun
    | ctx, .annotationUse _ a => a.violations ctx
    | _, _ => []

/-- The violations of a constraint in a graph, in the order of the walk. -/
def run (kind : ConstraintKind) (ctx : Context) : List Violation :=
  (kind.visitor.restrict kind.interests).walk ctx []

/-- The same walk without the restriction. -/
def runUnrestricted (kind : ConstraintKind) (ctx : Context) : List Violation :=
  kind.visitor.walk ctx []

end ConstraintKind

end KotlinMetadata
