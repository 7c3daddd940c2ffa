import KotlinMetadata.AnnotationFlags.Listing
import KotlinMetadata.AnnotationFlags.Traversal
import KotlinMetadata.Proofs.FlagRule

/-! # Traversals of annotation flags

    Three facts about the traversal that rewrites the flags of a graph, whatever the step that
    works out a new value:

    - `Metadata.traverseFlags_rel`: traversals with related steps are related, for every relation
      between computations that sequencing keeps;
    - `Metadata.reread`: two readings that say the same of each node before and after a traversal
      with a plain function say the same of the whole graph, in the order of a walk;
    - `Metadata.readings_mapFlags`: after such a traversal the flags that a walk of the graph lists
      are the values of the function, flag by flag, and each has the rule that it had before.

    The first says that a traversal does nothing but sequence its steps.  The second ties the
    order of a traversal, children first, to the order of a walk, children last; the third is a
    case of it.
-/

namespace KotlinMetadata

/-! ## Related computations -/

/-- A relation between the computations of two monads that sequencing keeps. -/
structure SequenceRel {m n : Type → Type} [Monad m] [Monad n]
    (R : (α : Type) → m α → n α → Prop) : Prop where
  /-- Computations that do nothing are related. -/
  pure : ∀ {α : Type} (a : α), R α (Pure.pure a) (Pure.pure a)
  /-- Related computations may be continued by related ones. -/
  bind : ∀ {α β : Type} {x : m α} {y : n α} {f : α → m β} {g : α → n β},
    R α x y → (∀ a, R β (f a) (g a)) → R β (x >>= f) (y >>= g)

section relational
variable {m n : Type → Type} [Monad m] [Monad n] {R : (α : Type) → m α → n α → Prop}
         {f : FlagSite → m Bool} {g : FlagSite → n Bool}

theorem SequenceRel.mapM [LawfulMonad m] [LawfulMonad n] (h : SequenceRel R) {α β : Type}
    {step : α → m β} {step' : α → n β} (hstep : ∀ a, R β (step a) (step' a)) (xs : List α) :
    R (List β) (xs.mapM step) (xs.mapM step') := by
  induction xs with
  | nil =>
    rw [List.mapM_nil, List.mapM_nil]
    exact h.pure []
  | cons x xs ih =>
    rw [List.mapM_cons, List.mapM_cons]
    exact h.bind (hstep x) fun _ => h.bind ih fun _ => h.pure _

/-! ### Types -/

mutual

/-- Related steps make related traversals of a type. -/
theorem KotlinType.traverseFlags_rel (h : SequenceRel R)
    (hfg : ∀ site, R Bool (f site) (g site)) (owner : TypeOwner) :
    (t : KotlinType) → R KotlinType (t.traverseFlags f owner) (t.traverseFlags g owner)
  | ⟨_, _, _, _, _, _, arguments, upperBounds, abbreviation, _⟩ => by
    rw [KotlinType.traverseFlags, KotlinType.traverseFlags]
    exact h.bind (KotlinType.traverseFlagsList_rel h hfg _ arguments) fun _ =>
      h.bind (KotlinType.traverseFlagsList_rel h hfg _ upperBounds) fun _ =>
      h.bind (KotlinType.traverseFlagsOption_rel h hfg _ abbreviation) fun _ =>
      h.bind (hfg _) fun _ => h.pure _

theorem KotlinType.traverseFlagsList_rel (h : SequenceRel R)
    (hfg : ∀ site, R Bool (f site) (g site)) (owner : TypeOwner) :
    (ts : List KotlinType) →
      R (List KotlinType) (traverseFlagsList f owner ts) (traverseFlagsList g owner ts)
  | [] => by
    rw [KotlinType.traverseFlagsList, KotlinType.traverseFlagsList]
    exact h.pure []
  | t :: ts => by
    rw [KotlinType.traverseFlagsList, KotlinType.traverseFlagsList]
    have hhead := KotlinType.traverseFlags_rel h hfg owner t
    have htail := KotlinType.traverseFlagsList_rel h hfg owner ts
    exact h.bind hhead fun _ => h.bind htail fun _ => h.pure _

theorem KotlinType.traverseFlagsOption_rel (h : SequenceRel R)
    (hfg : ∀ site, R Bool (f site) (g site)) (owner : TypeOwner) :
    (t : Option KotlinType) →
      R (Option KotlinType) (traverseFlagsOption f owner t) (traverseFlagsOption g owner t)
  | none => by
    rw [KotlinType.traverseFlagsOption, KotlinType.traverseFlagsOption]
    exact h.pure none
  | some t => by
    rw [KotlinType.traverseFlagsOption, KotlinType.traverseFlagsOption]
    exact h.bind (KotlinType.traverseFlags_rel h hfg owner t) fun _ => h.pure _

end

/-! ### Parameters and declarations -/

theorem TypeParameter.traverseFlags_rel (h : SequenceRel R)
    (hfg : ∀ site, R Bool (f site) (g site)) (p : TypeParameter) :
    R TypeParameter (p.traverseFlags f) (p.traverseFlags g) := by
  unfold TypeParameter.traverseFlags
  exact h.bind (KotlinType.traverseFlagsList_rel h hfg _ _) fun _ =>
    h.bind (hfg _) fun _ => h.pure _

theorem ValueParameter.traverseFlags_rel (h : SequenceRel R)
    (hfg : ∀ site, R Bool (f site) (g site)) (owner : ValueParameterOwner)
    (p : ValueParameter) :
    R ValueParameter (p.traverseFlags f owner) (p.traverseFlags g owner) := by
  unfold ValueParameter.traverseFlags
  exact h.bind (KotlinType.traverseFlags_rel h hfg _ _) fun _ =>
    h.bind (KotlinType.traverseFlagsOption_rel h hfg _ _) fun _ =>
    h.bind (hfg _) fun _ => h.pure _

variable [LawfulMonad m] [LawfulMonad n]

theorem PropertyDecl.traverseFlags_rel (h : SequenceRel R)
    (hfg : ∀ site, R Bool (f site) (g site)) (p : PropertyDecl) :
    R PropertyDecl (p.traverseFlags f) (p.traverseFlags g) := by
  unfold PropertyDecl.traverseFlags
  exact h.bind (KotlinType.traverseFlags_rel h hfg _ _) fun _ =>
    h.bind (h.mapM (fun v => v.traverseFlags_rel h hfg _) _) fun _ =>
    h.bind (KotlinType.traverseFlagsOption_rel h hfg _ _) fun _ =>
    h.bind (h.mapM (fun q => q.traverseFlags_rel h hfg) _) fun _ =>
    h.bind (hfg _) fun _ => h.bind (hfg _) fun _ => h.bind (hfg _) fun _ => h.pure _

theorem FunctionDecl.traverseFlags_rel (h : SequenceRel R)
    (hfg : ∀ site, R Bool (f site) (g site)) (fn : FunctionDecl) :
    R FunctionDecl (fn.traverseFlags f) (fn.traverseFlags g) := by
  unfold FunctionDecl.traverseFlags
  exact h.bind (KotlinType.traverseFlagsOption_rel h hfg _ _) fun _ =>
    h.bind (h.mapM (fun q => q.traverseFlags_rel h hfg) _) fun _ =>
    h.bind (h.mapM (fun v => v.traverseFlags_rel h hfg _) _) fun _ =>
    h.bind (KotlinType.traverseFlags_rel h hfg _ _) fun _ =>
    h.bind (hfg _) fun _ => h.pure _

theorem ConstructorDecl.traverseFlags_rel (h : SequenceRel R)
    (hfg : ∀ site, R Bool (f site) (g site)) (owner : ClassDecl) (k : ConstructorDecl) :
    R ConstructorDecl (k.traverseFlags f owner) (k.traverseFlags g owner) := by
  unfold ConstructorDecl.traverseFlags
  exact h.bind (h.mapM (fun v => v.traverseFlags_rel h hfg _) _) fun _ =>
    h.bind (hfg _) fun _ => h.pure _

theorem TypeAliasDecl.traverseFlags_rel (h : SequenceRel R)
    (hfg : ∀ site, R Bool (f site) (g site)) (a : TypeAliasDecl) :
    R TypeAliasDecl (a.traverseFlags f) (a.traverseFlags g) := by
  unfold TypeAliasDecl.traverseFlags
  exact h.bind (h.mapM (fun q => q.traverseFlags_rel h hfg) _) fun _ =>
    h.bind (KotlinType.traverseFlags_rel h hfg _ _) fun _ =>
    h.bind (KotlinType.traverseFlags_rel h hfg _ _) fun _ =>
    h.bind (hfg _) fun _ => h.pure _

theorem Container.traverseFlags_rel (h : SequenceRel R)
    (hfg : ∀ site, R Bool (f site) (g site)) (c : Container) :
    R Container (c.traverseFlags f) (c.traverseFlags g) := by
  unfold Container.traverseFlags
  exact h.bind (h.mapM (fun p => p.traverseFlags_rel h hfg) _) fun _ =>
    h.bind (h.mapM (fun fn => fn.traverseFlags_rel h hfg) _) fun _ =>
    h.bind (h.mapM (fun a => a.traverseFlags_rel h hfg) _) fun _ =>
    h.bind (h.mapM (fun p => p.traverseFlags_rel h hfg) _) fun _ => h.pure _

theorem ClassDecl.traverseFlags_rel (h : SequenceRel R)
    (hfg : ∀ site, R Bool (f site) (g site)) (c : ClassDecl) :
    R ClassDecl (c.traverseFlags f) (c.traverseFlags g) := by
  unfold ClassDecl.traverseFlags
  exact h.bind (c.container.traverseFlags_rel h hfg) fun _ =>
    h.bind (KotlinType.traverseFlagsList_rel h hfg _ _) fun _ =>
    h.bind (h.mapM (fun q => q.traverseFlags_rel h hfg) _) fun _ =>
    h.bind (h.mapM (fun k => k.traverseFlags_rel h hfg c) _) fun _ =>
    h.bind (hfg _) fun _ => h.pure _

/-- Related steps make related traversals of a graph. -/
theorem Metadata.traverseFlags_rel (h : SequenceRel R)
    (hfg : ∀ site, R Bool (f site) (g site)) (root : Metadata) :
    R Metadata (root.traverseFlags f) (root.traverseFlags g) := by
  unfold Metadata.traverseFlags
  match root with
  | .classDecl c => exact h.bind (c.traverseFlags_rel h hfg) fun _ => h.pure _
  | .fileFacade file => exact h.bind (file.container.traverseFlags_rel h hfg) fun _ => h.pure _
  | .syntheticClass _ =>
    exact h.bind (h.mapM (fun fn => fn.traverseFlags_rel h hfg) _) fun _ => h.pure _
  | .multiFileFacade _ => exact h.pure _
  | .multiFilePart p => exact h.bind (p.container.traverseFlags_rel h hfg) fun _ => h.pure _

end relational

/-! ## Traversals with a plain function -/

section plain
variable (g : FlagSite → Bool)

/-- New flags in a type, each worked out by itself. -/
def KotlinType.mapFlags (owner : TypeOwner) (t : KotlinType) : KotlinType :=
  Id.run (t.traverseFlags (fun site => pure (g site)) owner)

/-- New flags in a type parameter, each worked out by itself. -/
def TypeParameter.mapFlags (p : TypeParameter) : TypeParameter :=
  Id.run (p.traverseFlags fun site => pure (g site))

/-- New flags in a value parameter, each worked out by itself. -/
def ValueParameter.mapFlags (owner : ValueParameterOwner) (p : ValueParameter) : ValueParameter :=
  Id.run (p.traverseFlags (fun site => pure (g site)) owner)

/-- New flags in a property, each worked out by itself. -/
def PropertyDecl.mapFlags (p : PropertyDecl) : PropertyDecl :=
  Id.run (p.traverseFlags fun site => pure (g site))

/-- New flags in a function, each worked out by itself. -/
def FunctionDecl.mapFlags (fn : FunctionDecl) : FunctionDecl :=
  Id.run (fn.traverseFlags fun site => pure (g site))

/-- New flags in a constructor, each worked out by itself. -/
def ConstructorDecl.mapFlags (owner : ClassDecl) (k : ConstructorDecl) : ConstructorDecl :=
  Id.run (k.traverseFlags (fun site => pure (g site)) owner)

/-- New flags in a type alias, each worked out by itself. -/
def TypeAliasDecl.mapFlags (a : TypeAliasDecl) : TypeAliasDecl :=
  Id.run (a.traverseFlags fun site => pure (g site))

/-- New flags in a container, each worked out by itself. -/
def Container.mapFlags (c : Container) : Container :=
  Id.run (c.traverseFlags fun site => pure (g site))

/-- New flags in a class, each worked out by itself. -/
def ClassDecl.mapFlags (c : ClassDecl) : ClassDecl :=
  Id.run (c.traverseFlags fun site => pure (g site))

theorem KotlinType.run_traverseFlagsList (owner : TypeOwner) (ts : List KotlinType) :
    Id.run (traverseFlagsList (fun site => pure (g site)) owner ts) =
      ts.map (KotlinType.mapFlags g owner) := by
  induction ts with
  | nil => rfl
  | cons t ts ih => rw [List.map_cons, ← ih]; rfl

theorem KotlinType.run_traverseFlagsOption (owner : TypeOwner) (t : Option KotlinType) :
    Id.run (traverseFlagsOption (fun site => pure (g site)) owner t) =
      t.map (KotlinType.mapFlags g owner) := by
  cases t <;> rfl

theorem KotlinType.mapFlags_eq (owner : TypeOwner) (t : KotlinType) :
    t.mapFlags g owner = { t with
      flags := { t.flags with hasAnnotations := g (.type owner t) }
      arguments := t.arguments.map (KotlinType.mapFlags g (.typeArgument t))
      upperBounds := t.upperBounds.map (KotlinType.mapFlags g (.flexibleBound t))
      abbreviation := t.abbreviation.map (KotlinType.mapFlags g (.abbreviation t)) } := by
  -- Lists and options of types are traversed by functions of their own, for the recursion.
  simp only [← run_traverseFlagsList, ← run_traverseFlagsOption]
  cases t
  rfl

theorem TypeParameter.mapFlags_eq (p : TypeParameter) :
    p.mapFlags g = { p with
      flags := { p.flags with hasAnnotations := g (.typeParameter p) }
      upperBounds := p.upperBounds.map (KotlinType.mapFlags g (.parameterBound p)) } := by
  simp only [← KotlinType.run_traverseFlagsList]
  rfl

theorem ValueParameter.mapFlags_eq (owner : ValueParameterOwner) (p : ValueParameter) :
    p.mapFlags g owner = { p with
      flags := { p.flags with hasAnnotations := g (.valueParameter owner p) }
      type := p.type.mapFlags g (.valueParameterType p)
      varargElement := p.varargElement.map (KotlinType.mapFlags g (.varargElement p)) } := by
  simp only [← KotlinType.run_traverseFlagsOption]
  rfl

theorem PropertyDecl.mapFlags_eq (p : PropertyDecl) :
    p.mapFlags g = { p with
      flags := { p.flags with hasAnnotations := g (.property p) }
      getterFlags := { p.getterFlags with hasAnnotations := g (.getter p) }
      setterFlags := { p.setterFlags with hasAnnotations := g (.setter p) }
      type := p.type.mapFlags g (.propertyType p)
      setterParameters := p.setterParameters.map (ValueParameter.mapFlags g (.propertySetter p))
      receiver := p.receiver.map (KotlinType.mapFlags g (.propertyReceiver p))
      typeParameters := p.typeParameters.map (TypeParameter.mapFlags g) } := by
  simp only [PropertyDecl.mapFlags, PropertyDecl.traverseFlags, Id.run_bind, Id.run_pure,
    List.idRun_mapM, KotlinType.run_traverseFlagsOption]
  rfl

theorem FunctionDecl.mapFlags_eq (fn : FunctionDecl) :
    fn.mapFlags g = { fn with
      flags := { fn.flags with hasAnnotations := g (.function fn) }
      receiver := fn.receiver.map (KotlinType.mapFlags g (.functionReceiver fn))
      typeParameters := fn.typeParameters.map (TypeParameter.mapFlags g)
      valueParameters := fn.valueParameters.map (ValueParameter.mapFlags g (.function fn))
      returnType := fn.returnType.mapFlags g (.functionReturn fn) } := by
  simp only [FunctionDecl.mapFlags, FunctionDecl.traverseFlags, Id.run_bind, Id.run_pure,
    List.idRun_mapM, KotlinType.run_traverseFlagsOption]
  rfl

theorem ConstructorDecl.mapFlags_eq (owner : ClassDecl) (k : ConstructorDecl) :
    k.mapFlags g owner = { k with
      flags := { k.flags with hasAnnotations := g (.constructor owner k) }
      valueParameters :=
        k.valueParameters.map (ValueParameter.mapFlags g (.constructor owner k)) } := by
  simp only [ConstructorDecl.mapFlags, ConstructorDecl.traverseFlags, Id.run_bind, Id.run_pure,
    List.idRun_mapM]
  rfl

theorem TypeAliasDecl.mapFlags_eq (a : TypeAliasDecl) :
    a.mapFlags g = { a with
      flags := { a.flags with hasAnnotations := g (.typeAlias a) }
      typeParameters := a.typeParameters.map (TypeParameter.mapFlags g)
      underlying := a.underlying.mapFlags g (.underlying a)
      expanded := a.expanded.mapFlags g (.expanded a) } := by
  simp only [TypeAliasDecl.mapFlags, TypeAliasDecl.traverseFlags, Id.run_bind, Id.run_pure,
    List.idRun_mapM]
  rfl

theorem Container.mapFlags_eq (c : Container) :
    c.mapFlags g = { c with
      properties := c.properties.map (PropertyDecl.mapFlags g)
      functions := c.functions.map (FunctionDecl.mapFlags g)
      typeAliases := c.typeAliases.map (TypeAliasDecl.mapFlags g)
      delegatedProperties := c.delegatedProperties.map (PropertyDecl.mapFlags g) } := by
  simp only [Container.mapFlags, Container.traverseFlags, Id.run_bind, Id.run_pure,
    List.idRun_mapM]
  rfl

theorem ClassDecl.mapFlags_eq (c : ClassDecl) :
    c.mapFlags g = { c with
      flags := { c.flags with hasAnnotations := g (.classDecl c) }
      container := c.container.mapFlags g
      supertypes := c.supertypes.map (KotlinType.mapFlags g (.supertype c))
      typeParameters := c.typeParameters.map (TypeParameter.mapFlags g)
      constructors := c.constructors.map (ConstructorDecl.mapFlags g c) } := by
  simp only [ClassDecl.mapFlags, ClassDecl.traverseFlags, Id.run_bind, Id.run_pure,
    List.idRun_mapM, KotlinType.run_traverseFlagsList]
  rfl

theorem Metadata.mapFlags_eq (root : Metadata) :
    root.mapFlags g =
      match root with
      | .classDecl c => .classDecl (c.mapFlags g)
      | .fileFacade file => .fileFacade { file with container := file.container.mapFlags g }
      | .syntheticClass s =>
        .syntheticClass { s with functions := s.functions.map (FunctionDecl.mapFlags g) }
      | .multiFileFacade file => .multiFileFacade file
      | .multiFilePart p => .multiFilePart { p with container := p.container.mapFlags g } := by
  cases root with
  | syntheticClass s =>
    simp only [Metadata.mapFlags, Metadata.traverseFlags, Id.run_bind, Id.run_pure,
      List.idRun_mapM]
    rfl
  | _ => rfl

end plain

/-! ## Reading a graph after a traversal -/

/-- A reading of nodes after a traversal and one of nodes before it that say the same of each
    node.  Of the owner of a node they may see what no traversal changes: the function whose
    receiver a type is, the method of a value parameter, and whether a constructor belongs to an
    annotation class. -/
structure Reread {β : Type} (g : FlagSite → Bool) (new old : Dispatch → List β) : Prop where
  root : ∀ m : Metadata, new (.root (m.mapFlags g)) = old (.root m)
  property : ∀ owner owner' (p : PropertyDecl),
    new (.property owner' (p.mapFlags g)) = old (.property owner p)
  function : ∀ owner owner' (fn : FunctionDecl),
    new (.function owner' (fn.mapFlags g)) = old (.function owner fn)
  constructor : ∀ (c : ClassDecl) (k : ConstructorDecl),
    new (.constructor (c.mapFlags g) (k.mapFlags g c)) = old (.constructor c k)
  typeAlias : ∀ owner owner' (a : TypeAliasDecl),
    new (.typeAlias owner' (a.mapFlags g)) = old (.typeAlias owner a)
  type : ∀ (owner owner' : TypeOwner) (t : KotlinType),
    owner'.receiverMethod? = owner.receiverMethod? →
    new (.type owner' (t.mapFlags g owner)) = old (.type owner t)
  typeParameter : ∀ owner owner' (p : TypeParameter),
    new (.typeParameter owner' (p.mapFlags g)) = old (.typeParameter owner p)
  valueParameter : ∀ (owner owner' : ValueParameterOwner) (p : ValueParameter),
    owner'.method? = owner.method? →
    owner'.isAnnotationConstructor = owner.isAnnotationConstructor →
    new (.valueParameter owner' (p.mapFlags g owner)) = old (.valueParameter owner p)
  versionRequirement : ∀ owner owner' r,
    new (.versionRequirement owner' r) = old (.versionRequirement owner r)
  annotationUse : ∀ owner owner' a, new (.annotationUse owner' a) = old (.annotationUse owner a)

section reread
variable {β : Type} {g : FlagSite → Bool} {new old : Dispatch → List β}

theorem Reread.versions (h : Reread g new old) (owner owner' : VersionRequirementOwner)
    (r : Option VersionRequirement) :
    (versionDispatches owner' r).flatMap new = (versionDispatches owner r).flatMap old := by
  cases r with
  | none => rfl
  | some r =>
    simp only [versionDispatches, Option.toList_some, List.map_cons, List.map_nil,
      List.flatMap_singleton, h.versionRequirement owner owner' r]

theorem Reread.annotations (h : Reread g new old) (owner owner' : AnnotationOwner)
    (as : List AnnotationUse) :
    (annotationDispatches owner' as).flatMap new = (annotationDispatches owner as).flatMap old := by
  simp only [annotationDispatches, List.flatMap_map, h.annotationUse owner owner']

/-! ### Types -/

mutual

/-- A walk of a type says the same before and after, wherever the new type is put as long as it
    remains the receiver of a function if it was one. -/
theorem KotlinType.reread (h : Reread g new old) (owner owner' : TypeOwner) :
    (t : KotlinType) → owner'.receiverMethod? = owner.receiverMethod? →
      ((t.mapFlags g owner).walk owner').flatMap new = (t.walk owner).flatMap old
  | ⟨fl, c, tg, pi, al, v, arguments, upperBounds, abbreviation, ann⟩, howner => by
    have hself := h.type owner owner'
      ⟨fl, c, tg, pi, al, v, arguments, upperBounds, abbreviation, ann⟩ howner
    rw [KotlinType.mapFlags_eq] at hself ⊢
    simp only [KotlinType.walk, List.flatMap_append, List.flatMap_cons, hself]
    rw [KotlinType.rereadList h _ _ arguments, KotlinType.rereadList h _ _ upperBounds,
      KotlinType.rereadOption h _ _ abbreviation, h.annotations]
    -- No type inside a type is the receiver of a function.
    all_goals rfl

theorem KotlinType.rereadList (h : Reread g new old) (owner owner' : TypeOwner) :
    (ts : List KotlinType) → owner'.receiverMethod? = owner.receiverMethod? →
      (walkList owner' (ts.map (KotlinType.mapFlags g owner))).flatMap new =
        (walkList owner ts).flatMap old
  | [], _ => rfl
  | t :: ts, howner => by
    rw [List.map_cons, KotlinType.walkList, KotlinType.walkList, List.flatMap_append,
      List.flatMap_append, KotlinType.reread h owner owner' t howner,
      KotlinType.rereadList h owner owner' ts howner]

theorem KotlinType.rereadOption (h : Reread g new old) (owner owner' : TypeOwner) :
    (t : Option KotlinType) → owner'.receiverMethod? = owner.receiverMethod? →
      (walkOption owner' (t.map (KotlinType.mapFlags g owner))).flatMap new =
        (walkOption owner t).flatMap old
  | none, _ => rfl
  | some t, howner => by
    rw [Option.map_some, KotlinType.walkOption, KotlinType.walkOption,
      KotlinType.reread h owner owner' t howner]

end

/-! ### Parameters and declarations -/

theorem TypeParameter.reread (h : Reread g new old) (owner owner' : TypeParameterOwner)
    (p : TypeParameter) :
    ((p.mapFlags g).walk owner').flatMap new = (p.walk owner).flatMap old := by
  have hself := h.typeParameter owner owner' p
  rw [TypeParameter.mapFlags_eq] at hself ⊢
  simp only [TypeParameter.walk, List.flatMap_append, List.flatMap_cons, hself]
  rw [KotlinType.rereadList h _ _ p.upperBounds, h.annotations]
  rfl

/-- Value parameters go by their method, unless they belong to a constructor of an annotation
    class. -/
theorem ValueParameter.reread (h : Reread g new old) (owner owner' : ValueParameterOwner)
    (ps : List ValueParameter) (hmethod : owner'.method? = owner.method?)
    (hconstructor : owner'.isAnnotationConstructor = owner.isAnnotationConstructor) :
    (ps.flatMap fun p => ((p.mapFlags g owner).walk owner').flatMap new) =
      ps.flatMap fun p => (p.walk owner).flatMap old := by
  have heach : ∀ p : ValueParameter,
      ((p.mapFlags g owner).walk owner').flatMap new = (p.walk owner).flatMap old := by
    intro p
    have hself := h.valueParameter owner owner' p hmethod hconstructor
    rw [ValueParameter.mapFlags_eq] at hself ⊢
    simp only [ValueParameter.walk, List.flatMap_append, List.flatMap_cons, hself]
    rw [KotlinType.reread h _ _ p.type, KotlinType.rereadOption h _ _ p.varargElement]
    all_goals rfl
  simp only [heach]

theorem PropertyDecl.reread (h : Reread g new old) (owner owner' : PropertyOwner)
    (p : PropertyDecl) :
    ((p.mapFlags g).walk owner').flatMap new = (p.walk owner).flatMap old := by
  have hself := h.property owner owner' p
  rw [PropertyDecl.mapFlags_eq] at hself ⊢
  simp only [PropertyDecl.walk, List.flatMap_append, List.flatMap_cons, List.flatMap_assoc,
    List.flatMap_map, hself, TypeParameter.reread h (.property p)]
  rw [h.versions (.property p), KotlinType.reread h _ _ p.type,
    ValueParameter.reread h _ _ p.setterParameters, KotlinType.rereadOption h _ _ p.receiver]
  all_goals rfl

theorem FunctionDecl.reread (h : Reread g new old) (owner owner' : FunctionOwner)
    (fn : FunctionDecl) :
    ((fn.mapFlags g).walk owner').flatMap new = (fn.walk owner).flatMap old := by
  have hself := h.function owner owner' fn
  rw [FunctionDecl.mapFlags_eq] at hself ⊢
  simp only [FunctionDecl.walk, List.flatMap_append, List.flatMap_cons, List.flatMap_assoc,
    List.flatMap_map, hself, TypeParameter.reread h (.function fn)]
  rw [KotlinType.rereadOption h _ _ fn.receiver, ValueParameter.reread h _ _ fn.valueParameters,
    KotlinType.reread h _ _ fn.returnType, h.versions (.function fn)]
  all_goals rfl

theorem ConstructorDecl.reread (h : Reread g new old) (owner : ClassDecl) (k : ConstructorDecl) :
    ((k.mapFlags g owner).walk (owner.mapFlags g)).flatMap new = (k.walk owner).flatMap old := by
  have hself := h.constructor owner k
  rw [ConstructorDecl.mapFlags_eq] at hself ⊢
  simp only [ConstructorDecl.walk, List.flatMap_append, List.flatMap_cons, List.flatMap_assoc,
    List.flatMap_map, hself]
  rw [ValueParameter.reread h _ _ k.valueParameters, h.versions (.constructor k)]
  · rfl
  · rw [ClassDecl.mapFlags_eq]
    rfl

theorem TypeAliasDecl.reread (h : Reread g new old) (owner owner' : Container)
    (a : TypeAliasDecl) :
    ((a.mapFlags g).walk owner').flatMap new = (a.walk owner).flatMap old := by
  have hself := h.typeAlias owner owner' a
  rw [TypeAliasDecl.mapFlags_eq] at hself ⊢
  simp only [TypeAliasDecl.walk, List.flatMap_append, List.flatMap_cons, List.flatMap_assoc,
    List.flatMap_map, hself, TypeParameter.reread h (.typeAlias a)]
  rw [KotlinType.reread h (.underlying a) _ a.underlying,
    KotlinType.reread h (.expanded a) _ a.expanded, h.versions (.typeAlias a),
    h.annotations (.typeAlias a)]
  all_goals rfl

theorem Container.reread (h : Reread g new old) (c : Container) :
    (c.mapFlags g).walk.flatMap new = c.walk.flatMap old := by
  have hdeclared := fun c' => PropertyDecl.reread h (.declared c) (.declared c')
  have hdelegated := fun c' => PropertyDecl.reread h (.delegated c) (.delegated c')
  rw [Container.mapFlags_eq]
  simp only [Container.walk, List.flatMap_append, List.flatMap_assoc, List.flatMap_map, hdeclared,
    hdelegated, FunctionDecl.reread h (.container c), TypeAliasDecl.reread h c]

theorem ClassDecl.reread (h : Reread g new old) (c : ClassDecl) :
    (c.mapFlags g).walkBody.flatMap new = c.walkBody.flatMap old := by
  have hconstructors : (c.constructors.flatMap fun k =>
      ((k.mapFlags g c).walk (c.mapFlags g)).flatMap new) =
        c.constructors.flatMap fun k => (k.walk c).flatMap old := by
    simp only [ConstructorDecl.reread h c]
  rw [ClassDecl.mapFlags_eq] at hconstructors ⊢
  simp only [ClassDecl.walkBody, List.flatMap_append, List.flatMap_assoc, List.flatMap_map,
    Container.reread h, TypeParameter.reread h (.classDecl c), hconstructors]
  rw [KotlinType.rereadList h _ _ c.supertypes, h.versions (.classDecl c)]
  rfl

/-- **Rereading**: the nodes of a graph after a traversal with a plain function, in the order of a
    walk, say what those of the graph before it said. -/
theorem Metadata.reread (h : Reread g new old) (m : Metadata) :
    (m.mapFlags g).walk.flatMap new = m.walk.flatMap old := by
  have hbody : (m.mapFlags g).walkBody.flatMap new = m.walkBody.flatMap old := by
    rw [Metadata.mapFlags_eq]
    cases m with
    | classDecl c => exact c.reread h
    | fileFacade file => exact file.container.reread h
    | syntheticClass s =>
      simp only [Metadata.walkBody, List.flatMap_assoc, List.flatMap_map,
        FunctionDecl.reread h (.syntheticClass s)]
    | multiFileFacade _ => rfl
    | multiFilePart p => exact p.container.reread h
  rw [Metadata.walk, Metadata.walk, List.flatMap_cons, List.flatMap_cons, h.root, hbody]

end reread

/-! ## Flags in the order of a walk -/

/-- What a function says of the flags of some dispatches, in order. -/
def siteValues {β : Type} (value : FlagSite → β) (ds : List Dispatch) : List β :=
  ds.flatMap fun d => d.flagSites.map value

/-- The flags of a graph, under any reading, are those of its walk. -/
theorem Metadata.map_flagSites {β : Type} (value : FlagSite → β) (m : Metadata) :
    m.flagSites.map value = siteValues value m.walk :=
  List.map_flatMap

/-- What a traversal makes of a reading: the rules as they are, with the new flags. -/
def FlagSite.newReading {β : Type} (read : FlagRule → Bool → β) (g : FlagSite → Bool)
    (site : FlagSite) : β :=
  read site.rule (g site)

/-- The rule of a flag stays the same in a traversal, and the new flag is the value of the
    function. -/
theorem FlagSite.reread {β : Type} (read : FlagRule → Bool → β) (g : FlagSite → Bool) :
    Reread g (fun d => d.flagSites.map (FlagSite.reading read))
      (fun d => d.flagSites.map (FlagSite.newReading read g)) where
  root m := by
    cases m with
    | classDecl c =>
      show [FlagSite.reading read (.classDecl (c.mapFlags g))] = _
      rw [ClassDecl.mapFlags_eq]
      rfl
    | _ => rfl
  property _ _ p := by
    rw [PropertyDecl.mapFlags_eq]
    rfl
  function _ _ fn := by
    rw [FunctionDecl.mapFlags_eq]
    rfl
  constructor c k := by
    rw [ClassDecl.mapFlags_eq, ConstructorDecl.mapFlags_eq]
    rfl
  typeAlias _ _ a := by
    rw [TypeAliasDecl.mapFlags_eq]
    rfl
  type owner owner' t howner := by
    rw [KotlinType.mapFlags_eq]
    simp only [Dispatch.flagSites, List.map_cons, List.map_nil, FlagSite.reading,
      FlagSite.newReading, FlagSite.rule, FlagSite.value, howner]
  typeParameter _ _ p := by
    rw [TypeParameter.mapFlags_eq]
    rfl
  valueParameter owner owner' p hmethod hconstructor := by
    rw [ValueParameter.mapFlags_eq]
    simp only [Dispatch.flagSites, List.map_cons, List.map_nil, FlagSite.reading,
      FlagSite.newReading, FlagSite.rule, FlagSite.value, hmethod, hconstructor]
  versionRequirement _ _ _ := rfl
  annotationUse _ _ _ := rfl

/-- After a traversal with a plain function, the flags that a walk lists are its values, and each
    goes by the rule that it went by before. -/
theorem Metadata.readings_mapFlags {β : Type} (read : FlagRule → Bool → β) (g : FlagSite → Bool)
    (m : Metadata) :
    siteValues (FlagSite.reading read) (m.mapFlags g).walk =
      siteValues (FlagSite.newReading read g) m.walk :=
  m.reread (FlagSite.reread read g)

/-- After a traversal with a plain function, the flags that a walk lists are its values. -/
theorem Metadata.siteValues_mapFlags (g : FlagSite → Bool) (m : Metadata) :
    siteValues FlagSite.value (m.mapFlags g).walk = siteValues g m.walk :=
  m.readings_mapFlags (fun _ value => value) g

end KotlinMetadata
