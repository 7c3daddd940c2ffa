import KotlinMetadata.AnnotationFlags.Counter
import KotlinMetadata.AnnotationFlags.Traversal

/-! # Settling annotation flags

    The flags that were decoded with the metadata may be out of date.  A pass over a graph settles
    each of them by the annotations that are there:

    - class, function, constructor, accessor: those of the class or method it was resolved to;
      an accessor only if the property has it and it was resolved;
    - property: those of the method that holds them, if there is one;
    - type, type parameter, type alias: those in the metadata itself, except that the receiver of
      a function has those on parameter 0 of its method;
    - value parameter: only taken back, if its flag is set and the method has none on it;
    - constructor of an annotation class: none, and the flags of its parameters are left alone.

    What no link leads to has no annotations.

    - `FlagSite.settle`: a single flag;
    - `Fixer.pass`: a graph with a fixer that may have been used before;
    - `Metadata.fixFlags`: a graph, if its class is in the pool;
    - `fixAll`: several graphs, some of them perhaps more than once.
-/

namespace KotlinMetadata

/-! ## Events -/

/-- What a pass reports. -/
inductive FixEvent where
  /-- A constructor of an annotation class has no annotations. -/
  | constructorUnannotated (className : String)
  /-- The flag of a value parameter was taken back. -/
  | parameterDemoted (name : String) (index : UInt64)
  /-- The class of the graph is not in the pool. -/
  | classAbsent (id : ClassId)
  /-- The pass is over. -/
  | finished (written : Nat) (className : String) (kind : MetadataKind)
deriving DecidableEq, Repr

/-- The log line of an event. -/
def FixEvent.line : FixEvent → LogLine
  | .constructorUnannotated className =>
    ⟨.trace, "Constructor of annotation class " ++ className ++ " forced unannotated"⟩
  | .parameterDemoted name index =>
    ⟨.trace, "Value parameter " ++ name ++ " at index " ++ toString index.toNat ++
      " demoted to unannotated"⟩
  | .classAbsent id =>
    ⟨.warn, "Class " ++ id.text ++ " not in pool, annotation flags left as decoded"⟩
  | .finished written className kind =>
    ⟨.debug, "Fixed " ++ toString written ++ " annotation flags in " ++ className ++ " (" ++
      Named.name kind ++ ")"⟩

/-! ## Single flags -/

/-- A fixer. -/
structure Fixer where
  /-- The counter, as the last element left it. -/
  counter : AnnotationCounter := {}
  /-- How many flags were written so far, changed or not. -/
  flagsWritten : Nat := 0
deriving DecidableEq, Repr

/-- A fixer in the middle of a pass. -/
structure FixPass extends Fixer where
  /-- The events of the pass, in order. -/
  events : List FixEvent := []
deriving DecidableEq, Repr

/-- Steps of a pass. -/
abbrev FixM := StateM FixPass

namespace FixM

/-- Counts the annotations of attributes from nothing. -/
def recount (attributes : List Attribute) : FixM AnnotationCounter := do
  modify fun s => { s with counter := s.counter.reset.addAll attributes }
  return (← get).counter

/-- Writes a flag. -/
def write (value : Bool) : FixM Bool := do
  modify fun s => { s with flagsWritten := s.flagsWritten + 1 }
  return value

/-- Reports an event. -/
def report (event : FixEvent) : FixM Unit :=
  modify fun s => { s with events := s.events ++ [event] }

/-- Writes whether there are annotations in attributes. -/
def writeAnnotated (attributes : List Attribute) : FixM Bool := do
  write (0 < (← recount attributes).count)

end FixM

/-- The constructor belongs to an annotation class. -/
def ClassDecl.isAnnotationClass (c : ClassDecl) : Bool := c.flags.isAnnotationClass

/-- The method whose parameters are the value parameters of an owner. -/
def ValueParameterOwner.method? : ValueParameterOwner → Option MemberRef
  | .function f => f.method
  | .constructor _ k => k.method
  | .propertySetter p => p.setter

/-- The owner is a constructor of an annotation class. -/
def ValueParameterOwner.isAnnotationConstructor : ValueParameterOwner → Bool
  | .constructor c _ => c.isAnnotationClass
  | _ => false

open FixM in
/-- Settles a flag and gives its new value. -/
def FlagSite.settle (pool : ClassPool) : FlagSite → FixM Bool
  | .classDecl c => writeAnnotated (pool.classAttributes c.target)
  | .property p =>
    if p.holderSignature.isSome then writeAnnotated (pool.memberAttributes p.holder)
    else write false
  | .getter p =>
    if p.flags.hasGetter && p.getter.isSome then writeAnnotated (pool.memberAttributes p.getter)
    else return p.getterFlags.hasAnnotations
  | .setter p =>
    if p.flags.hasSetter && p.setter.isSome then writeAnnotated (pool.memberAttributes p.setter)
    else return p.setterFlags.hasAnnotations
  | .function f => writeAnnotated (pool.memberAttributes f.method)
  | .constructor owner k =>
    if owner.isAnnotationClass then do
      report (.constructorUnannotated owner.name)
      write false
    else writeAnnotated (pool.memberAttributes k.method)
  | .typeAlias a => write (!a.annotations.isEmpty)
  | .type (.functionReceiver f) _ => do
    write (0 < (← recount (pool.memberAttributes f.method)).parameterCount 0)
  | .type _ t => write (!t.annotations.isEmpty)
  | .typeParameter p => write (!p.annotations.isEmpty)
  | .valueParameter owner p =>
    if !p.flags.hasAnnotations || owner.isAnnotationConstructor then
      return p.flags.hasAnnotations
    else do
      let counter ← recount (pool.memberAttributes owner.method?)
      let annotated : Bool := 0 < counter.parameterCount p.index.toNat
      if !annotated then report (.parameterDemoted p.name p.index)
      write annotated

/-! ## Graphs -/

/-- Settles every flag of a graph. -/
def Fixer.pass (fixer : Fixer) (pool : ClassPool) (m : Metadata) : Metadata × FixPass :=
  (m.traverseFlags (·.settle pool)).run { fixer with }

/-- What settling the flags of one or more graphs comes to. -/
structure FixReport where
  /-- How many flags were written. -/
  written : Nat := 0
  /-- The events, in order. -/
  events : List FixEvent := []
deriving DecidableEq, Repr

/-- One report after another. -/
def FixReport.append (r s : FixReport) : FixReport :=
  ⟨r.written + s.written, r.events ++ s.events⟩

/-- Settles every flag of the graph of a class. -/
def Metadata.fixFlags (m : Metadata) (pool : ClassPool) (id : ClassId) : Metadata × FixReport :=
  match pool.class? id with
  | none => (m, ⟨0, [.classAbsent id]⟩)
  | some c =>
    let (fixed, pass) := Fixer.pass {} pool m
    (fixed, ⟨pass.flagsWritten, pass.events ++ [.finished pass.flagsWritten c.name m.kind]⟩)

/-- Settles the flags of several graphs out of a family, one after the other. -/
def fixAll {κ : Type} [DecidableEq κ] (pool : ClassPool) (graphs : κ → Metadata) :
    List (ClassId × κ) → (κ → Metadata) × FixReport
  | [] => (graphs, {})
  | (id, key) :: entries =>
    let (fixed, report) := (graphs key).fixFlags pool id
    let (graphs, reports) :=
      fixAll pool (fun k => if k = key then fixed else graphs k) entries
    (graphs, report.append reports)

end KotlinMetadata
