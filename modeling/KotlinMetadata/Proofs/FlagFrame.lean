import KotlinMetadata.Proofs.FlagTruth
import KotlinMetadata.Proofs.Inspection

/-! # What settling flags leaves alone

    A pass over a graph changes annotation flags and nothing else, and an inspection looks at
    everything but those.

    - `KotlinType.induction`: what holds of a type if it holds of the types in it;
    - `Metadata.withFlags`: the graph with every annotation flag overwritten by one value;
    - `Metadata.withFlags_mapFlags`: what a traversal puts in place of the flags is lost then, and
      there is nothing else to lose;
    - `Metadata.mapFlags_const`: overwriting is a traversal with a constant;
    - `ConstraintKind.reread`: no constraint looks at a flag;
    - `Metadata.fixFlags_frame`: a pass and an inspection do not interfere.
-/

namespace KotlinMetadata

/-! ## Types by their parts -/

/-- Induction over a type, by the types that it is made of. -/
@[elab_as_elim]
theorem KotlinType.induction {motive : KotlinType → Prop}
    (step : ∀ t : KotlinType, (∀ s ∈ t.arguments, motive s) → (∀ s ∈ t.upperBounds, motive s) →
      (∀ s ∈ t.abbreviation, motive s) → motive t) (t : KotlinType) : motive t := by
  -- The recursor wants to know what holds of the lists of types in it as well.
  refine @KotlinType.rec motive (fun ts => ∀ s ∈ ts, motive s) (fun t? => ∀ s ∈ t?, motive s)
    ?type ?nil ?cons ?none ?some t
  case type =>
    intro flags className target parameterId aliasName variance arguments upperBounds abbreviation
      annotations
    exact step ⟨flags, className, target, parameterId, aliasName, variance, arguments, upperBounds,
      abbreviation, annotations⟩
  case nil => exact List.forall_mem_nil _
  case cons =>
    intro t ts ht hts
    exact List.forall_mem_cons.mpr ⟨ht, hts⟩
  case none =>
    intro s hs
    exact absurd hs (Option.not_mem_none s)
  case some =>
    intro t ht s hs
    obtain rfl := Option.mem_some.mp hs
    exact ht

/-! ## Overwriting -/

section withFlags
variable (value : Bool)

mutual

/-- A type with every annotation flag in it overwritten. -/
def KotlinType.withFlags : KotlinType → KotlinType
  | ⟨flags, className, target, parameterId, aliasName, variance, arguments, upperBounds,
      abbreviation, annotations⟩ =>
    ⟨{ flags with hasAnnotations := value }, className, target, parameterId, aliasName, variance,
      withFlagsList arguments, withFlagsList upperBounds, withFlagsOption abbreviation, annotations⟩

/-- Types with every annotation flag in them overwritten. -/
def KotlinType.withFlagsList : List KotlinType → List KotlinType
  | [] => []
  | t :: ts => t.withFlags :: withFlagsList ts

/-- A type that may be absent, with every annotation flag in it overwritten. -/
def KotlinType.withFlagsOption : Option KotlinType → Option KotlinType
  | none => none
  | some t => some t.withFlags

end

/-- A type parameter with every annotation flag in it overwritten. -/
def TypeParameter.withFlags (p : TypeParameter) : TypeParameter :=
  { p with
    flags := { p.flags with hasAnnotations := value }
    upperBounds := p.upperBounds.map (KotlinType.withFlags value) }

/-- A value parameter with every annotation flag in it overwritten. -/
def ValueParameter.withFlags (p : ValueParameter) : ValueParameter :=
  { p with
    flags := { p.flags with hasAnnotations := value }
    type := p.type.withFlags value
    varargElement := p.varargElement.map (KotlinType.withFlags value) }

/-- A property with every annotation flag in it overwritten, those of its accessors included. -/
def PropertyDecl.withFlags (p : PropertyDecl) : PropertyDecl :=
  { p with
    flags := { p.flags with hasAnnotations := value }
    getterFlags := { p.getterFlags with hasAnnotations := value }
    setterFlags := { p.setterFlags with hasAnnotations := value }
    type := p.type.withFlags value
    setterParameters := p.setterParameters.map (ValueParameter.withFlags value)
    receiver := p.receiver.map (KotlinType.withFlags value)
    typeParameters := p.typeParameters.map (TypeParameter.withFlags value) }

/-- A function with every annotation flag in it overwritten. -/
def FunctionDecl.withFlags (fn : FunctionDecl) : FunctionDecl :=
  { fn with
    flags := { fn.flags with hasAnnotations := value }
    receiver := fn.receiver.map (KotlinType.withFlags value)
    typeParameters := fn.typeParameters.map (TypeParameter.withFlags value)
    valueParameters := fn.valueParameters.map (ValueParameter.withFlags value)
    returnType := fn.returnType.withFlags value }

/-- A constructor with every annotation flag in it overwritten. -/
def ConstructorDecl.withFlags (k : ConstructorDecl) : ConstructorDecl :=
  { k with
    flags := { k.flags with hasAnnotations := value }
    valueParameters := k.valueParameters.map (ValueParameter.withFlags value) }

/-- A type alias with every annotation flag in it overwritten. -/
def TypeAliasDecl.withFlags (a : TypeAliasDecl) : TypeAliasDecl :=
  { a with
    flags := { a.flags with hasAnnotations := value }
    typeParameters := a.typeParameters.map (TypeParameter.withFlags value)
    underlying := a.underlying.withFlags value
    expanded := a.expanded.withFlags value }

/-- A container with every annotation flag in it overwritten. -/
def Container.withFlags (c : Container) : Container :=
  { c with
    properties := c.properties.map (PropertyDecl.withFlags value)
    functions := c.functions.map (FunctionDecl.withFlags value)
    typeAliases := c.typeAliases.map (TypeAliasDecl.withFlags value)
    delegatedProperties := c.delegatedProperties.map (PropertyDecl.withFlags value) }

/-- A class with every annotation flag in it overwritten. -/
def ClassDecl.withFlags (c : ClassDecl) : ClassDecl :=
  { c with
    flags := { c.flags with hasAnnotations := value }
    container := c.container.withFlags value
    supertypes := c.supertypes.map (KotlinType.withFlags value)
    typeParameters := c.typeParameters.map (TypeParameter.withFlags value)
    constructors := c.constructors.map (ConstructorDecl.withFlags value) }

/-- A graph with every annotation flag in it overwritten. -/
def Metadata.withFlags : Metadata → Metadata
  | .classDecl c => .classDecl (c.withFlags value)
  | .fileFacade file => .fileFacade { file with container := file.container.withFlags value }
  | .syntheticClass s =>
    .syntheticClass { s with functions := s.functions.map (FunctionDecl.withFlags value) }
  | .multiFileFacade file => .multiFileFacade file
  | .multiFilePart p => .multiFilePart { p with container := p.container.withFlags value }

theorem KotlinType.withFlagsList_eq (ts : List KotlinType) :
    withFlagsList value ts = ts.map (withFlags value) := by
  induction ts with
  | nil => rfl
  | cons t ts ih => rw [withFlagsList, ih, List.map_cons]

theorem KotlinType.withFlagsOption_eq (t : Option KotlinType) :
    withFlagsOption value t = t.map (withFlags value) := by
  cases t <;> rfl

/-- The types in a type are overwritten as well. -/
theorem KotlinType.withFlags_eq (t : KotlinType) :
    t.withFlags value = { t with
      flags := { t.flags with hasAnnotations := value }
      arguments := t.arguments.map (withFlags value)
      upperBounds := t.upperBounds.map (withFlags value)
      abbreviation := t.abbreviation.map (withFlags value) } := by
  cases t
  rw [withFlags, withFlagsList_eq, withFlagsList_eq, withFlagsOption_eq]

/-! ## Overwriting after a traversal -/

section frame
variable (g : FlagSite → Bool)

/-- Overwriting loses what a traversal has put in place of the flags of a type. -/
@[simp] theorem KotlinType.withFlags_mapFlags (owner : TypeOwner) (t : KotlinType) :
    (t.mapFlags g owner).withFlags value = t.withFlags value := by
  induction t using KotlinType.induction generalizing owner with
  | step t harguments hbounds habbreviation =>
    rw [withFlags_eq, withFlags_eq value t, mapFlags_eq]
    simp only [List.map_map, Option.map_map, Function.comp_def]
    rw [List.map_congr_left fun s hs => harguments s hs _,
      List.map_congr_left fun s hs => hbounds s hs _,
      Option.map_congr fun s hs => habbreviation s hs _]

@[simp] theorem TypeParameter.withFlags_mapFlags (p : TypeParameter) :
    (p.mapFlags g).withFlags value = p.withFlags value := by
  simp [TypeParameter.mapFlags_eq, TypeParameter.withFlags]

@[simp] theorem ValueParameter.withFlags_mapFlags (owner : ValueParameterOwner)
    (p : ValueParameter) : (p.mapFlags g owner).withFlags value = p.withFlags value := by
  simp [ValueParameter.mapFlags_eq, ValueParameter.withFlags, Function.comp_def]

@[simp] theorem PropertyDecl.withFlags_mapFlags (p : PropertyDecl) :
    (p.mapFlags g).withFlags value = p.withFlags value := by
  simp [PropertyDecl.mapFlags_eq, PropertyDecl.withFlags, Function.comp_def]

@[simp] theorem FunctionDecl.withFlags_mapFlags (fn : FunctionDecl) :
    (fn.mapFlags g).withFlags value = fn.withFlags value := by
  simp [FunctionDecl.mapFlags_eq, FunctionDecl.withFlags, Function.comp_def]

@[simp] theorem ConstructorDecl.withFlags_mapFlags (owner : ClassDecl) (k : ConstructorDecl) :
    (k.mapFlags g owner).withFlags value = k.withFlags value := by
  simp [ConstructorDecl.mapFlags_eq, ConstructorDecl.withFlags]

@[simp] theorem TypeAliasDecl.withFlags_mapFlags (a : TypeAliasDecl) :
    (a.mapFlags g).withFlags value = a.withFlags value := by
  simp [TypeAliasDecl.mapFlags_eq, TypeAliasDecl.withFlags]

@[simp] theorem Container.withFlags_mapFlags (c : Container) :
    (c.mapFlags g).withFlags value = c.withFlags value := by
  simp [Container.mapFlags_eq, Container.withFlags]

@[simp] theorem ClassDecl.withFlags_mapFlags (c : ClassDecl) :
    (c.mapFlags g).withFlags value = c.withFlags value := by
  simp [ClassDecl.mapFlags_eq, ClassDecl.withFlags]

/-- A traversal changes nothing but flags. -/
@[simp] theorem Metadata.withFlags_mapFlags (m : Metadata) :
    (m.mapFlags g).withFlags value = m.withFlags value := by
  rw [Metadata.mapFlags_eq]
  cases m <;> simp [Metadata.withFlags]

end frame

/-! ## Overwriting as a traversal -/

/-- A traversal that puts one value everywhere overwrites, wherever the type is. -/
theorem KotlinType.mapFlags_const_apply (owner : TypeOwner) (t : KotlinType) :
    t.mapFlags (fun _ => value) owner = t.withFlags value := by
  induction t using KotlinType.induction generalizing owner with
  | step t harguments hbounds habbreviation =>
    rw [mapFlags_eq, withFlags_eq]
    rw [List.map_congr_left fun s hs => harguments s hs _,
      List.map_congr_left fun s hs => hbounds s hs _,
      Option.map_congr fun s hs => habbreviation s hs _]

@[simp] theorem KotlinType.mapFlags_const (owner : TypeOwner) :
    KotlinType.mapFlags (fun _ => value) owner = KotlinType.withFlags value :=
  funext (KotlinType.mapFlags_const_apply value owner)

@[simp] theorem TypeParameter.mapFlags_const :
    TypeParameter.mapFlags (fun _ => value) = TypeParameter.withFlags value := by
  funext p
  simp [TypeParameter.mapFlags_eq, TypeParameter.withFlags]

@[simp] theorem ValueParameter.mapFlags_const (owner : ValueParameterOwner) :
    ValueParameter.mapFlags (fun _ => value) owner = ValueParameter.withFlags value := by
  funext p
  simp [ValueParameter.mapFlags_eq, ValueParameter.withFlags]

@[simp] theorem PropertyDecl.mapFlags_const :
    PropertyDecl.mapFlags (fun _ => value) = PropertyDecl.withFlags value := by
  funext p
  simp [PropertyDecl.mapFlags_eq, PropertyDecl.withFlags]

@[simp] theorem FunctionDecl.mapFlags_const :
    FunctionDecl.mapFlags (fun _ => value) = FunctionDecl.withFlags value := by
  funext fn
  simp [FunctionDecl.mapFlags_eq, FunctionDecl.withFlags]

@[simp] theorem ConstructorDecl.mapFlags_const (owner : ClassDecl) :
    ConstructorDecl.mapFlags (fun _ => value) owner = ConstructorDecl.withFlags value := by
  funext k
  simp [ConstructorDecl.mapFlags_eq, ConstructorDecl.withFlags]

@[simp] theorem TypeAliasDecl.mapFlags_const :
    TypeAliasDecl.mapFlags (fun _ => value) = TypeAliasDecl.withFlags value := by
  funext a
  simp [TypeAliasDecl.mapFlags_eq, TypeAliasDecl.withFlags]

@[simp] theorem Container.mapFlags_const :
    Container.mapFlags (fun _ => value) = Container.withFlags value := by
  funext c
  simp [Container.mapFlags_eq, Container.withFlags]

@[simp] theorem ClassDecl.mapFlags_const :
    ClassDecl.mapFlags (fun _ => value) = ClassDecl.withFlags value := by
  funext c
  simp [ClassDecl.mapFlags_eq, ClassDecl.withFlags]

theorem Metadata.mapFlags_const (m : Metadata) :
    m.mapFlags (fun _ => value) = m.withFlags value := by
  rw [Metadata.mapFlags_eq]
  cases m <;> simp [Metadata.withFlags]

end withFlags

/-! ## Constraints -/

/-- No constraint looks at an annotation flag, and none at the owner of a node, but for whether a
    constructor belongs to an annotation class. -/
theorem ConstraintKind.reread (kind : ConstraintKind) (g : FlagSite → Bool) :
    Reread g kind.slots kind.slots where
  root m := by
    rw [Metadata.mapFlags_eq]
    cases m with
    | classDecl c =>
      show kind.slots (.root (.classDecl (c.mapFlags g))) = _
      rw [ClassDecl.mapFlags_eq, Container.mapFlags_eq]
      cases kind <;> rfl
    | fileFacade file =>
      show kind.slots (.root (.fileFacade { container := file.container.mapFlags g })) = _
      rw [Container.mapFlags_eq]
      cases kind <;> rfl
    | syntheticClass _ => cases kind <;> rfl
    | multiFileFacade _ => rfl
    | multiFilePart p =>
      show kind.slots (.root (.multiFilePart { p with container := p.container.mapFlags g })) = _
      rw [Container.mapFlags_eq]
      cases kind <;> rfl
  property _ _ p := by
    rw [PropertyDecl.mapFlags_eq]
    cases kind <;> rfl
  function _ _ fn := by
    rw [FunctionDecl.mapFlags_eq]
    cases kind <;> rfl
  constructor c k := by
    rw [ClassDecl.mapFlags_eq, ConstructorDecl.mapFlags_eq]
    cases kind <;> rfl
  typeAlias _ _ a := by cases kind <;> rfl
  type _ _ t _ := by
    rw [KotlinType.mapFlags_eq]
    cases kind <;> rfl
  typeParameter _ _ p := by cases kind <;> rfl
  valueParameter _ _ p _ _ := by cases kind <;> rfl
  versionRequirement _ _ _ := by cases kind <;> rfl
  annotationUse _ _ _ := by cases kind <;> rfl

@[simp] theorem Metadata.kind_mapFlags (g : FlagSite → Bool) (m : Metadata) :
    (m.mapFlags g).kind = m.kind := by
  rw [Metadata.mapFlags_eq]
  cases m <;> rfl

/-! ## Inspections -/

/-- An inspection finds the same after a traversal as before it. -/
theorem Config.inspect_mapFlags (config : Config) (reporter : Reporter) (pool : ClassPool)
    (id : ClassId) (g : FlagSite → Bool) (m : Metadata) :
    config.inspect reporter pool id (m.mapFlags g) = config.inspect reporter pool id m := by
  unfold Config.inspect
  cases pool.class? id with
  | none => rfl
  | some c =>
    -- A violation shows the graph by its kind only.
    have hcontext : Slot.violation? ⟨pool, c, m.mapFlags g⟩ = Slot.violation? ⟨pool, c, m⟩ := by
      funext slot
      simp only [Slot.violation?, Metadata.kind_mapFlags]
    have hfound : config.violations ⟨pool, c, m.mapFlags g⟩ = config.violations ⟨pool, c, m⟩ := by
      simp only [Config.violations_eq, Slot.violations, hcontext,
        Metadata.reread (ConstraintKind.reread _ g)]
    simp only [hfound, Metadata.kind_mapFlags]

/-- Graphs that differ in flags only are the same to an inspection. -/
theorem Config.inspect_of_withFlags_eq (config : Config) (reporter : Reporter) (pool : ClassPool)
    (id : ClassId) {m n : Metadata} {value : Bool} (h : n.withFlags value = m.withFlags value) :
    config.inspect reporter pool id n = config.inspect reporter pool id m := by
  calc config.inspect reporter pool id n
      = config.inspect reporter pool id (n.withFlags value) := by
        rw [← Metadata.mapFlags_const, config.inspect_mapFlags]
    _ = config.inspect reporter pool id (m.withFlags value) := by rw [h]
    _ = config.inspect reporter pool id m := by
        rw [← Metadata.mapFlags_const, config.inspect_mapFlags]

/-! ## Passes -/

theorem Metadata.fixFlags_of_absent (m : Metadata) {pool : ClassPool} {id : ClassId}
    (habsent : pool.class? id = none) : m.fixFlags pool id = (m, ⟨0, [.classAbsent id]⟩) := by
  rw [Metadata.fixFlags, habsent]

/-- A pass differs from the graph in flags only, whether or not the class is in the pool. -/
theorem Metadata.withFlags_fixFlags (m : Metadata) (pool : ClassPool) (id : ClassId)
    (value : Bool) : (m.fixFlags pool id).1.withFlags value = m.withFlags value := by
  cases hclass : pool.class? id with
  | none => rw [m.fixFlags_of_absent hclass]
  | some c =>
    have hpresent : (pool.class? id).isSome := by rw [hclass]; rfl
    rw [m.fixFlags_eq_mapFlags pool id hpresent, Metadata.withFlags_mapFlags]

/-- **Frame**: settling the flags of a graph leaves everything else in it as it was, a multi-file
    facade as a whole, and the whole graph if its class is not in the pool, when nothing is
    written.  Inspections do not see the difference, on any pool and with any constraints, nor any
    other one in flags alone. -/
theorem Metadata.fixFlags_frame (m : Metadata) (pool : ClassPool) (id : ClassId) :
    (∀ value, (m.fixFlags pool id).1.withFlags value = m.withFlags value) ∧
    (∀ file, m = .multiFileFacade file → (m.fixFlags pool id).1 = m) ∧
    (pool.class? id = none →
      (m.fixFlags pool id).1 = m ∧ (m.fixFlags pool id).2.written = 0) ∧
    (∀ (config : Config) reporter other otherId,
      config.inspect reporter other otherId (m.fixFlags pool id).1 =
        config.inspect reporter other otherId m) ∧
    (∀ (n : Metadata) value, n.withFlags value = m.withFlags value →
      ∀ (config : Config) reporter other otherId,
      config.inspect reporter other otherId n = config.inspect reporter other otherId m) := by
  have hframe := m.withFlags_fixFlags pool id
  refine ⟨hframe, ?_, ?_, ?_, ?_⟩
  · rintro file rfl
    -- A multi-file facade has no flags, so that nothing is lost in overwriting them.
    have hsame : ∀ n : Metadata, n.withFlags false = .multiFileFacade file →
        n = .multiFileFacade file := by
      intro n hn
      cases n with
      | multiFileFacade _ => exact hn
      | _ => exact absurd hn nofun
    exact hsame _ (hframe false)
  · intro habsent
    rw [m.fixFlags_of_absent habsent]
    exact ⟨rfl, rfl⟩
  · intro config reporter other otherId
    exact config.inspect_of_withFlags_eq reporter other otherId (hframe false)
  · intro n value hn config reporter other otherId
    exact config.inspect_of_withFlags_eq reporter other otherId hn

/-- The facade again, with its flags as the pass leaves them, and with all of them set. -/
theorem Metadata.fixFlags_frame_of_extension :
    (extensionFacade.fixFlags annotatedMethodPool ⟨0⟩).1 ≠ extensionFacade ∧
    (extensionFacade.fixFlags annotatedMethodPool ⟨0⟩).1.withFlags true =
      extensionFacade.withFlags true ∧
    annotatedMethodPool.class? ⟨1⟩ = none ∧
    (extensionFacade.fixFlags annotatedMethodPool ⟨1⟩).2.written = 0 ∧
    ({} : Config).inspect .log annotatedMethodPool ⟨0⟩ (extensionFacade.withFlags true) =
      ({} : Config).inspect .log annotatedMethodPool ⟨0⟩ extensionFacade := by
  obtain ⟨hframe, -, -, -, hinspect⟩ := fixFlags_frame extensionFacade annotatedMethodPool ⟨0⟩
  obtain ⟨-, -, habsent, -, -⟩ := fixFlags_frame extensionFacade annotatedMethodPool ⟨1⟩
  refine ⟨by decide, hframe true, rfl, (habsent rfl).2, ?_⟩
  exact hinspect _ true (by decide) {} .log annotatedMethodPool ⟨0⟩

end KotlinMetadata
