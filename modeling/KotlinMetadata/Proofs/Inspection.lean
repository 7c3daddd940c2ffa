import KotlinMetadata.Integrity.Inspection

/-! # What an inspection finds

    The links that a constraint checks, as a list of slots for each node of a walk, and what must
    hold of each of them.  An inspection finds the slots that do not hold and nothing else, in the
    order of constraints, nodes and slots.

    - `Slot`: a link under the names that a violation gives, with what it has to lead to;
    - `ConstraintKind.slots`: the slots of a node under one constraint;
    - `Slot.violation?`: the violation of a slot that does not hold;
    - `ConstraintKind.run_eq_slots`: a filtered walk finds the violations of the slots;
    - `Config.inspect_exact`: an inspection finds those of the enabled constraints.
-/

namespace KotlinMetadata

/-! ## Slots -/

/-- What a link has to lead to. -/
inductive Demand where
  /-- A class: it must have been resolved. -/
  | resolved (link : Option ClassId)
  /-- A member: it must have been resolved, and the claimed class must own the member. -/
  | owned (kind : MemberKind) (link : Option MemberRef)
deriving DecidableEq, Repr

/-- A link of a node that is checked. -/
structure Slot where
  /-- How the node is named in a violation. -/
  parent : String
  /-- How the link is named. -/
  element : String
  /-- What it has to lead to. -/
  demand : Demand
deriving DecidableEq, Repr

/-- The claimed class is in the pool, and one of its members of that kind has the identity. -/
def ClassPool.Owns (pool : ClassPool) (kind : MemberKind) (ref : MemberRef) : Prop :=
  ∃ c, pool.class? ref.owner = some c ∧ ∃ m ∈ c.membersOfKind kind, m.id = ref.member

theorem ClassPool.lists_iff (pool : ClassPool) (kind : MemberKind) (ref : MemberRef) :
    pool.lists kind ref = true ↔ pool.Owns kind ref := by
  unfold ClassPool.lists ClassPool.Owns
  cases pool.class? ref.owner with
  | none => simp
  | some c => simp [List.any_eq_true, beq_iff_eq]

instance (pool : ClassPool) (kind : MemberKind) (ref : MemberRef) :
    Decidable (pool.Owns kind ref) :=
  decidable_of_iff _ (pool.lists_iff kind ref)

/-- What is wrong with a link that does not lead where it has to. -/
def Demand.fault? (pool : ClassPool) : Demand → Option ViolationKind
  | .resolved none | .owned _ none => some .missingReference
  | .resolved (some _) => none
  | .owned kind (some ref) => if pool.Owns kind ref then none else some .invalidReference

/-- The violation of a slot that does not hold. -/
def Slot.violation? (ctx : Context) (slot : Slot) : Option Violation :=
  (slot.demand.fault? ctx.pool).map fun kind =>
    { kind
      parentElement := slot.parent
      checkedElement := slot.element
      classId := ctx.jvmClass.id
      className := ctx.jvmClass.name
      metadataKind := ctx.metadata.kind }

/-- A slot that is checked on a condition. -/
def Slot.onlyIf (condition : Bool) (slot : Slot) : List Slot :=
  if condition then [slot] else []

namespace ConstraintKind

/-- The slots of a container: its owner, if it names one. -/
def containerSlots (c : Container) : List Slot :=
  Slot.onlyIf c.ownerName.isSome
    ⟨"declaration container", "referenced owner class", .resolved c.owner⟩

/-- The slots of a class: itself, its companion, its nested classes, its sealed subclasses. -/
def classSlots (c : ClassDecl) : List Slot :=
  let slot (element : String) (link : Option ClassId) : Slot :=
    ⟨"class " ++ c.name, element, .resolved link⟩
  [slot "referenced class" c.target] ++
    c.companion.toList.map (fun r => slot ("companion object " ++ r.name) r.target) ++
    c.nested.map (fun r => slot ("nested class " ++ r.name) r.target) ++
    c.sealedSubclasses.map (fun r => slot ("sealed subclass " ++ r.name) r.target)

/-- The slots of a property: its field, its accessors as far as it has them, and the method that
    holds its annotations, each if there is a signature of it. -/
def propertySlots (p : PropertyDecl) : List Slot :=
  let slot (element : String) (kind : MemberKind) (link : Option MemberRef) : Slot :=
    ⟨"property " ++ p.name, element, .owned kind link⟩
  Slot.onlyIf p.fieldSignature.isSome (slot "backing field" .field p.backingField) ++
    Slot.onlyIf (p.flags.hasGetter && p.getterSignature.isSome)
      (slot "getter" .method p.getter) ++
    Slot.onlyIf (p.flags.hasSetter && p.setterSignature.isSome)
      (slot "setter" .method p.setter) ++
    Slot.onlyIf p.holderSignature.isSome
      (slot "synthetic annotations method" .method p.holder)

/-- The slots of a node under a constraint, in the order in which they are checked. -/
def slots : ConstraintKind → Dispatch → List Slot
  | .declarationContainer, .root m => m.container?.toList.flatMap containerSlots
  | .classDecl, .root (.classDecl c) => classSlots c
  | .function, .function _ f =>
    Slot.onlyIf f.signature.isSome
      ⟨"function " ++ f.name, "referenced method", .owned .method f.method⟩
  | .constructor, .constructor owner k =>
    Slot.onlyIf (k.signature.isSome && !owner.flags.isAnnotationClass)
      ⟨"constructor", "referenced method", .owned .method k.method⟩
  | .property, .property _ p => propertySlots p
  | .type, .type _ t =>
    t.className.toList.map fun name => ⟨"type " ++ name, "referenced class", .resolved t.target⟩
  | .multiFileFacade, .root (.multiFileFacade f) =>
    f.parts.map fun r => ⟨"multi-file facade", "part class " ++ r.name, .resolved r.target⟩
  | .multiFilePart, .root (.multiFilePart p) =>
    [⟨"multi-file part", "facade class", .resolved p.facade⟩]
  | .annotationUse, .annotationUse _ a =>
    [⟨"annotation " ++ a.className, "annotation class", .resolved a.target⟩]
  | _, _ => []

end ConstraintKind

/-! ## Checks of one node -/

/-- The violations of slots, in order. -/
def Slot.violations (ctx : Context) (slots : List Slot) : List Violation :=
  slots.filterMap (Slot.violation? ctx)

namespace Slot.violations
variable (ctx : Context)

@[simp] theorem append (ss ts : List Slot) :
    Slot.violations ctx (ss ++ ts) = Slot.violations ctx ss ++ Slot.violations ctx ts :=
  List.filterMap_append

@[simp] theorem onlyIf (condition : Bool) (slot : Slot) :
    Slot.violations ctx (Slot.onlyIf condition slot) =
      if condition then Slot.violations ctx [slot] else [] := by
  cases condition <;> rfl

@[simp] theorem map {α : Type} (slot : α → Slot) (xs : List α) :
    Slot.violations ctx (xs.map slot) = xs.flatMap fun x => Slot.violations ctx [slot x] := by
  induction xs with
  | nil => rfl
  | cons x xs ih =>
    rw [List.map_cons, List.flatMap_cons, ← ih, ← append]
    rfl

end Slot.violations

theorem Site.ifMissing_eq (site : Site) (link : Option ClassId) (element : String) :
    site.ifMissing link element =
      Slot.violations site.ctx [⟨site.parentElement, element, .resolved link⟩] := by
  cases link <;> rfl

theorem Site.checkMember_eq (site : Site) (kind : MemberKind) (link : Option MemberRef)
    (element : String) :
    site.checkMember kind link element =
      Slot.violations site.ctx [⟨site.parentElement, element, .owned kind link⟩] := by
  cases link with
  | none => rfl
  | some ref =>
    -- Of the two checks only that of the member is left.
    have howns := site.ctx.pool.lists_iff kind ref
    by_cases h : site.ctx.pool.Owns kind ref
    · have hlists := howns.mpr h
      simp [Site.checkMember, Site.ifMissing, Site.ifDangling, Slot.violations, Slot.violation?,
        Demand.fault?, h, hlists]
    · have hlists : site.ctx.pool.lists kind ref = false := by
        rw [← Bool.not_eq_true, howns]
        exact h
      simp [Site.checkMember, Site.ifMissing, Site.ifDangling, Slot.violations, Slot.violation?,
        Demand.fault?, h, hlists, Site.violation]

section Nodes
variable (ctx : Context)

theorem Container.violations_eq (c : Container) :
    c.violations ctx = Slot.violations ctx (ConstraintKind.containerSlots c) := by
  rw [Container.violations, ConstraintKind.containerSlots, Slot.violations.onlyIf,
    Site.ifMissing_eq]

theorem ClassDecl.violations_eq (c : ClassDecl) :
    c.violations ctx = Slot.violations ctx (ConstraintKind.classSlots c) := by
  simp only [ClassDecl.violations, ConstraintKind.classSlots, Slot.violations.append,
    Slot.violations.map, Site.ifMissing_eq]

theorem FunctionDecl.violations_eq (owner : FunctionOwner) (f : FunctionDecl) :
    f.violations ctx =
      Slot.violations ctx (ConstraintKind.slots .function (.function owner f)) := by
  rw [FunctionDecl.violations, ConstraintKind.slots, Slot.violations.onlyIf, Site.checkMember_eq]

theorem ConstructorDecl.violations_eq (owner : ClassDecl) (k : ConstructorDecl) :
    k.violations ctx owner =
      Slot.violations ctx (ConstraintKind.slots .constructor (.constructor owner k)) := by
  rw [ConstructorDecl.violations, ConstraintKind.slots, Slot.violations.onlyIf,
    Site.checkMember_eq]

theorem PropertyDecl.violations_eq (p : PropertyDecl) :
    p.violations ctx = Slot.violations ctx (ConstraintKind.propertySlots p) := by
  simp only [PropertyDecl.violations, ConstraintKind.propertySlots, Slot.violations.append,
    Slot.violations.onlyIf, Site.checkMember_eq]

theorem KotlinType.violations_eq (owner : TypeOwner) (t : KotlinType) :
    t.violations ctx = Slot.violations ctx (ConstraintKind.slots .type (.type owner t)) := by
  rw [KotlinType.violations, ConstraintKind.slots, Slot.violations.map]
  cases t.className with
  | none => rfl
  | some name =>
    simp only [Option.toList_some, List.flatMap_singleton, Site.ifMissing_eq]

theorem MultiFileFacade.violations_eq (f : MultiFileFacade) :
    f.violations ctx =
      Slot.violations ctx (ConstraintKind.slots .multiFileFacade (.root (.multiFileFacade f))) := by
  simp only [MultiFileFacade.violations, ConstraintKind.slots, Slot.violations.map,
    Site.ifMissing_eq]

theorem MultiFilePart.violations_eq (p : MultiFilePart) :
    p.violations ctx =
      Slot.violations ctx (ConstraintKind.slots .multiFilePart (.root (.multiFilePart p))) :=
  Site.ifMissing_eq _ _ _

theorem AnnotationUse.violations_eq (owner : AnnotationOwner) (a : AnnotationUse) :
    a.violations ctx =
      Slot.violations ctx (ConstraintKind.slots .annotationUse (.annotationUse owner a)) :=
  Site.ifMissing_eq _ _ _

end Nodes

/-! ## Dispatches -/

namespace ConstraintKind
variable (ctx : Context)

/-- A collector behind a filter for the kind it handles adds what it finds at a node of that kind
    and passes over every other node, the container of a root included. -/
theorem visit_collector (kind : NodeKind) (find : Context → Dispatch → List Violation)
    (d : Dispatch) (found : List Violation) :
    ((collector kind find).restrict [kind]).visit ctx d found =
      if d.kind = kind then found ++ find ctx d else found := by
  by_cases h : d.kind = kind
  · simp [Visitor.visit, Visitor.restrict, collector, h]
  · simp [Visitor.visit, Visitor.restrict, h]

/-- The visitor of containers has no handler for a node, so that a root that carries a container
    falls back to the handler of containers, once.  The filter stops every other node. -/
theorem visit_containers (d : Dispatch) (found : List Violation) :
    ((visitor .declarationContainer).restrict (interests .declarationContainer)).visit ctx d
        found =
      found ++ Slot.violations ctx (slots .declarationContainer d) := by
  have hfallback : ∀ (m : Metadata) (c : Container), m.container? = some c →
      (visitor .declarationContainer).visit ctx (.root m) found =
        found ++ Slot.violations ctx (slots .declarationContainer (.root m)) := by
    intro m c hc
    have hslots : slots .declarationContainer (.root m) = containerSlots c := by
      rw [slots, hc]
      exact List.flatMap_singleton _ _
    have hvisit : (visitor .declarationContainer).visit ctx (.root m) found =
        found ++ c.violations ctx := by
      simp [Visitor.visit, Visitor.visitFallback, Visitor.visitContainer, visitor, hc]
    rw [hvisit, hslots, Container.violations_eq]
  cases d with
  | root m =>
    cases m with
    | classDecl c => exact hfallback (.classDecl c) c.container rfl
    | fileFacade f => exact hfallback (.fileFacade f) f.container rfl
    | multiFilePart p => exact hfallback (.multiFilePart p) p.container rfl
    | syntheticClass s => exact (List.append_nil found).symm
    | multiFileFacade f => exact (List.append_nil found).symm
  | _ => exact (List.append_nil found).symm

/-- A constraint that collects from one kind of node, and has slots at no other, adds the
    violations of the slots of the node. -/
theorem visit_of_collector (kind : ConstraintKind) (node : NodeKind)
    (find : Context → Dispatch → List Violation)
    (hvisitor : kind.visitor = collector node find) (hinterests : kind.interests = [node])
    (hfind : ∀ d, (if d.kind = node then find ctx d else []) =
      Slot.violations ctx (kind.slots d)) (d : Dispatch) (found : List Violation) :
    (kind.visitor.restrict kind.interests).visit ctx d found =
      found ++ Slot.violations ctx (kind.slots d) := by
  rw [hvisitor, hinterests, visit_collector, ← hfind d]
  by_cases h : d.kind = node
  · rw [if_pos h, if_pos h]
  · rw [if_neg h, if_neg h]
    exact (List.append_nil found).symm

/-- The step of a filtered walk: every constraint adds the violations of the slots that it has at
    the node, whatever the node is. -/
theorem visit_eq_slots (kind : ConstraintKind) (d : Dispatch) (found : List Violation) :
    (kind.visitor.restrict kind.interests).visit ctx d found =
      found ++ Slot.violations ctx (kind.slots d) := by
  -- Apart from containers, each constraint collects from nodes of one kind.  The cases inside
  -- show that it has no slots elsewhere; which ones a root has depends on the kind of the root.
  cases kind with
  | declarationContainer => exact visit_containers ctx d found
  | classDecl =>
    refine visit_of_collector ctx .classDecl .classDecl _ rfl rfl (fun d => ?_) d found
    cases d with
    | root m =>
      cases m with
      | classDecl c => exact ClassDecl.violations_eq ctx c
      | _ => rfl
    | _ => rfl
  | function =>
    refine visit_of_collector ctx .function .function _ rfl rfl (fun d => ?_) d found
    cases d with
    | function owner f => exact FunctionDecl.violations_eq ctx owner f
    | root m => cases m <;> rfl
    | _ => rfl
  | constructor =>
    refine visit_of_collector ctx .constructor .constructor _ rfl rfl (fun d => ?_) d found
    cases d with
    | constructor owner k => exact ConstructorDecl.violations_eq ctx owner k
    | root m => cases m <;> rfl
    | _ => rfl
  | property =>
    refine visit_of_collector ctx .property .property _ rfl rfl (fun d => ?_) d found
    cases d with
    | property owner p => exact PropertyDecl.violations_eq ctx p
    | root m => cases m <;> rfl
    | _ => rfl
  | type =>
    refine visit_of_collector ctx .type .type _ rfl rfl (fun d => ?_) d found
    cases d with
    | type owner t => exact KotlinType.violations_eq ctx owner t
    | root m => cases m <;> rfl
    | _ => rfl
  | multiFileFacade =>
    refine visit_of_collector ctx .multiFileFacade .multiFileFacade _ rfl rfl (fun d => ?_) d found
    cases d with
    | root m =>
      cases m with
      | multiFileFacade f => exact MultiFileFacade.violations_eq ctx f
      | _ => rfl
    | _ => rfl
  | multiFilePart =>
    refine visit_of_collector ctx .multiFilePart .multiFilePart _ rfl rfl (fun d => ?_) d found
    cases d with
    | root m =>
      cases m with
      | multiFilePart p => exact MultiFilePart.violations_eq ctx p
      | _ => rfl
    | _ => rfl
  | annotationUse =>
    refine visit_of_collector ctx .annotationUse .annotationUse _ rfl rfl (fun d => ?_) d found
    cases d with
    | annotationUse owner a => exact AnnotationUse.violations_eq ctx owner a
    | root m => cases m <;> rfl
    | _ => rfl

/-! ## Walks -/

/-- Showing dispatches one after the other adds the violations of all their slots. -/
theorem visitAll_eq_slots (kind : ConstraintKind) (ds : List Dispatch) (found : List Violation) :
    (kind.visitor.restrict kind.interests).visitAll ctx ds found =
      found ++ Slot.violations ctx (ds.flatMap kind.slots) := by
  induction ds generalizing found with
  | nil => exact (List.append_nil found).symm
  | cons d ds ih =>
    have hstep : (kind.visitor.restrict kind.interests).visitAll ctx (d :: ds) found =
        (kind.visitor.restrict kind.interests).visitAll ctx ds
          ((kind.visitor.restrict kind.interests).visit ctx d found) := rfl
    rw [hstep, ih, visit_eq_slots, List.append_assoc, List.flatMap_cons, Slot.violations.append]

/-- A constraint finds the violations of its slots, node by node in the order of the walk. -/
theorem run_eq_slots (kind : ConstraintKind) :
    kind.run ctx = Slot.violations ctx (ctx.metadata.walk.flatMap kind.slots) :=
  visitAll_eq_slots ctx kind ctx.metadata.walk []

end ConstraintKind

/-! ## Inspections -/

/-- The constraints that occur in a list, each once and in the order in which they run. -/
def ConstraintKind.enabledIn (constraints : List ConstraintKind) : List ConstraintKind :=
  (Named.all : List ConstraintKind).filter (· ∈ constraints)

theorem ConstraintKind.mem_enabledIn {kind : ConstraintKind} {constraints : List ConstraintKind} :
    kind ∈ ConstraintKind.enabledIn constraints ↔ kind ∈ constraints := by
  have hall : kind ∈ (Named.all : List ConstraintKind) := by cases kind <;> decide
  rw [enabledIn, List.mem_filter, decide_eq_true_iff, and_iff_right hall]

theorem Config.violations_eq (config : Config) (ctx : Context) :
    config.violations ctx =
      (ConstraintKind.enabledIn config.constraints).flatMap fun kind =>
        Slot.violations ctx (ctx.metadata.walk.flatMap kind.slots) := by
  -- Whether a constraint occurs decides, so that order and repetitions do not matter.
  have henabled : (Named.all : List ConstraintKind).filter config.isEnabled =
      ConstraintKind.enabledIn config.constraints := by
    apply List.filter_congr
    intro kind _
    exact List.contains_eq_mem kind config.constraints
  have hrun : (fun kind : ConstraintKind => kind.run ctx) = fun kind : ConstraintKind =>
      Slot.violations ctx (ctx.metadata.walk.flatMap kind.slots) :=
    funext fun kind => kind.run_eq_slots ctx
  rw [Config.violations, henabled, hrun]

/-- An inspection finds the violations of the slots of the graph, constraint by constraint, and
    no others; the reporter is told of each of them, and the log of their number. -/
theorem Config.inspect_exact (config : Config) (reporter : Reporter) (pool : ClassPool)
    (id : ClassId) (m : Metadata) (c : JvmClass) (hc : pool.class? id = some c) :
    let expected := (ConstraintKind.enabledIn config.constraints).flatMap fun kind =>
      Slot.violations ⟨pool, c, m⟩ (m.walk.flatMap kind.slots)
    (config.inspect reporter pool id m).violations = expected ∧
    (config.inspect reporter pool id m).count = expected.length ∧
    (config.inspect reporter pool id m).events =
      expected.flatMap reporter.events ++ [.finished expected.length c.name m.kind] := by
  have hfound := config.violations_eq ⟨pool, c, m⟩
  have hinspect : config.inspect reporter pool id m =
      ⟨config.violations ⟨pool, c, m⟩,
        (config.violations ⟨pool, c, m⟩).flatMap reporter.events ++
          [.finished (config.violations ⟨pool, c, m⟩).length c.name m.kind]⟩ := by
    rw [Config.inspect, hc]
  rw [hinspect, hfound]
  exact ⟨rfl, rfl, rfl⟩

/-- A class whose method got a new identity. -/
def replacedMethodPool : ClassPool where
  classes := [{
    id := ⟨0⟩, name := "a/AKt", kind := .program
    methods := [{ id := ⟨1⟩, kind := .method, name := "run", descriptor := "()V" }] }]
  nextClass := 1
  nextMember := 2

/-- A facade without its class, with a function whose method is the one that was replaced. -/
def staleFacade : Metadata :=
  .fileFacade { container := {
    ownerName := some "a/AKt"
    functions := [{
      name := "run", signature := some { name := "run", descriptor := "()V" }
      method := some ⟨⟨0⟩, ⟨0⟩⟩, returnType := {} }] } }

/-- The constraints run in their own order, and once, in whatever order and how often they are
    named: the owner is missing, and the method is invalid. -/
theorem Config.inspect_exact_of_stale :
    replacedMethodPool.class? ⟨0⟩ = some (replacedMethodPool.classes[0]) ∧
    ((Config.only [.function, .declarationContainer, .function]).inspect .keep
      replacedMethodPool ⟨0⟩ staleFacade).violations.map (fun v => (v.kind, v.checkedElement)) =
      [(.missingReference, "referenced owner class"), (.invalidReference, "referenced method")] :=
  ⟨rfl, (congrArg _ (Config.inspect_exact _ _ _ ⟨0⟩ _ _ rfl).1).trans (by decide)⟩

end KotlinMetadata
