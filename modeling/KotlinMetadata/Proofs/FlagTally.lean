import Mathlib.Algebra.BigOperators.Group.List.Basic
import Mathlib.Tactic.Abel
import KotlinMetadata.Proofs.FlagFrame

/-! # What a traversal adds up to

    A traversal with a step that has effects goes through the flags of a graph children first, and
    a walk lists them children last.  For effects that add up this makes no difference.

    - `Raises`: a computation raises a measure of its state by a fixed amount;
    - `siteSum`: the amounts of the flags of some dispatches;
    - `Metadata.raises_traverseFlags`: a traversal raises a measure by the amounts of the flags that
      a walk lists;
    - `Metadata.mapFlags_congr`: so a traversal with a plain function looks at no other flags;
    - `Metadata.mapFlags_eq_self`: one that finds each of them as it puts it changes nothing.
-/

namespace KotlinMetadata

/-! ## Measures of a state -/

/-- The computation raises a measure of the state by a fixed amount, whatever it yields. -/
def Raises {σ M : Type} [Add M] (measure : σ → M) (amount : M) {α : Type} (x : StateM σ α) : Prop :=
  ∀ s, measure (x.run s).2 = measure s + amount

namespace Raises
variable {σ M : Type} [AddCommMonoid M] {measure : σ → M} {a b : M} {α β : Type}

theorem pure (x : α) : Raises measure 0 (Pure.pure x) :=
  fun s => (add_zero (measure s)).symm

theorem bind {x : StateM σ α} {f : α → StateM σ β} (hx : Raises measure a x)
    (hf : ∀ y, Raises measure b (f y)) : Raises measure (a + b) (x >>= f) := by
  intro s
  have hfirst := hx s
  have hsecond := hf (x.run s).1 (x.run s).2
  rw [hfirst, add_assoc] at hsecond
  exact hsecond

theorem of_eq {x : StateM σ α} (hx : Raises measure a x) (hab : a = b) : Raises measure b x :=
  hab ▸ hx

theorem mapM {γ : Type} {step : γ → StateM σ α} {amount : γ → M}
    (hstep : ∀ c, Raises measure (amount c) (step c)) (cs : List γ) :
    Raises measure (cs.map amount).sum (cs.mapM step) := by
  induction cs with
  | nil => exact Raises.pure []
  | cons c cs ih =>
    rw [List.mapM_cons, List.map_cons, List.sum_cons]
    refine Raises.of_eq ((hstep c).bind fun _ => ih.bind fun _ => Raises.pure _) ?_
    rw [add_zero]

end Raises

/-! ## Amounts of flags -/

section amounts
variable {M : Type} [AddCommMonoid M] (amount : FlagSite → M)

/-- The amounts of the flags of some dispatches. -/
def siteSum (ds : List Dispatch) : M := (siteValues amount ds).sum

@[simp] theorem siteSum_nil : siteSum amount [] = 0 := rfl

@[simp] theorem siteSum_cons (d : Dispatch) (ds : List Dispatch) :
    siteSum amount (d :: ds) = (d.flagSites.map amount).sum + siteSum amount ds := by
  rw [siteSum, siteValues, List.flatMap_cons, List.sum_append]
  rfl

@[simp] theorem siteSum_append (ds es : List Dispatch) :
    siteSum amount (ds ++ es) = siteSum amount ds + siteSum amount es := by
  rw [siteSum, siteValues, List.flatMap_append, List.sum_append]
  rfl

@[simp] theorem siteSum_flatMap {γ : Type} (xs : List γ) (walk : γ → List Dispatch) :
    siteSum amount (xs.flatMap walk) = (xs.map fun x => siteSum amount (walk x)).sum := by
  induction xs with
  | nil => rfl
  | cons x xs ih => rw [List.flatMap_cons, siteSum_append, ih, List.map_cons, List.sum_cons]

@[simp] theorem siteSum_versions (owner : VersionRequirementOwner)
    (r : Option VersionRequirement) : siteSum amount (versionDispatches owner r) = 0 := by
  cases r <;> simp [versionDispatches, Dispatch.flagSites]

@[simp] theorem siteSum_annotations (owner : AnnotationOwner) (as : List AnnotationUse) :
    siteSum amount (annotationDispatches owner as) = 0 := by
  induction as with
  | nil => rfl
  | cons a as ih =>
    have hcons : annotationDispatches owner (a :: as) =
        .annotationUse owner a :: annotationDispatches owner as := rfl
    rw [hcons, siteSum_cons, ih]
    simp [Dispatch.flagSites]

end amounts

/-! ## Traversals -/

section traversals
variable {σ M : Type} [AddCommMonoid M] {measure : σ → M} {amount : FlagSite → M}
         {f : FlagSite → StateM σ Bool}

mutual

/-- A traversal of a type raises the measure by the amounts of the flags in it. -/
theorem KotlinType.raises_traverseFlags (hf : ∀ site, Raises measure (amount site) (f site))
    (owner : TypeOwner) :
    (t : KotlinType) → Raises measure (siteSum amount (t.walk owner)) (t.traverseFlags f owner)
  | ⟨_, _, _, _, _, _, arguments, upperBounds, abbreviation, _⟩ => by
    rw [KotlinType.traverseFlags, KotlinType.walk]
    refine Raises.of_eq ((KotlinType.raises_traverseFlagsList hf _ arguments).bind fun _ =>
      (KotlinType.raises_traverseFlagsList hf _ upperBounds).bind fun _ =>
      (KotlinType.raises_traverseFlagsOption hf _ abbreviation).bind fun _ =>
      (hf _).bind fun _ => Raises.pure _) ?_
    -- The flag of the type itself comes last here and first in a walk, which is the same sum.
    simp [Dispatch.flagSites]
    abel

theorem KotlinType.raises_traverseFlagsList (hf : ∀ site, Raises measure (amount site) (f site))
    (owner : TypeOwner) :
    (ts : List KotlinType) →
      Raises measure (siteSum amount (walkList owner ts)) (traverseFlagsList f owner ts)
  | [] => by
    rw [KotlinType.traverseFlagsList]
    exact Raises.pure []
  | t :: ts => by
    rw [KotlinType.traverseFlagsList, KotlinType.walkList, siteSum_append]
    refine Raises.of_eq ((KotlinType.raises_traverseFlags hf owner t).bind fun _ =>
      (KotlinType.raises_traverseFlagsList hf owner ts).bind fun _ => Raises.pure _) ?_
    rw [add_zero]

theorem KotlinType.raises_traverseFlagsOption (hf : ∀ site, Raises measure (amount site) (f site))
    (owner : TypeOwner) :
    (t : Option KotlinType) →
      Raises measure (siteSum amount (walkOption owner t)) (traverseFlagsOption f owner t)
  | none => by
    rw [KotlinType.traverseFlagsOption]
    exact Raises.pure none
  | some t => by
    rw [KotlinType.traverseFlagsOption, KotlinType.walkOption]
    refine Raises.of_eq ((KotlinType.raises_traverseFlags hf owner t).bind fun _ =>
      Raises.pure _) ?_
    rw [add_zero]

end

theorem TypeParameter.raises_traverseFlags (hf : ∀ site, Raises measure (amount site) (f site))
    (owner : TypeParameterOwner) (p : TypeParameter) :
    Raises measure (siteSum amount (p.walk owner)) (p.traverseFlags f) := by
  unfold TypeParameter.traverseFlags
  refine Raises.of_eq ((KotlinType.raises_traverseFlagsList hf _ _).bind fun _ =>
    (hf _).bind fun _ => Raises.pure _) ?_
  simp [TypeParameter.walk, Dispatch.flagSites]
  abel

theorem ValueParameter.raises_traverseFlags (hf : ∀ site, Raises measure (amount site) (f site))
    (owner : ValueParameterOwner) (p : ValueParameter) :
    Raises measure (siteSum amount (p.walk owner)) (p.traverseFlags f owner) := by
  unfold ValueParameter.traverseFlags
  refine Raises.of_eq ((KotlinType.raises_traverseFlags hf _ _).bind fun _ =>
    (KotlinType.raises_traverseFlagsOption hf _ _).bind fun _ =>
    (hf _).bind fun _ => Raises.pure _) ?_
  simp [ValueParameter.walk, Dispatch.flagSites]
  abel

theorem PropertyDecl.raises_traverseFlags (hf : ∀ site, Raises measure (amount site) (f site))
    (owner : PropertyOwner) (p : PropertyDecl) :
    Raises measure (siteSum amount (p.walk owner)) (p.traverseFlags f) := by
  unfold PropertyDecl.traverseFlags
  refine Raises.of_eq ((KotlinType.raises_traverseFlags hf _ _).bind fun _ =>
    (Raises.mapM (fun q => q.raises_traverseFlags hf _) _).bind fun _ =>
    (KotlinType.raises_traverseFlagsOption hf _ _).bind fun _ =>
    (Raises.mapM (fun q => q.raises_traverseFlags hf (.property p)) _).bind fun _ =>
    (hf _).bind fun _ => (hf _).bind fun _ => (hf _).bind fun _ => Raises.pure _) ?_
  simp [PropertyDecl.walk, Dispatch.flagSites]
  abel

theorem FunctionDecl.raises_traverseFlags (hf : ∀ site, Raises measure (amount site) (f site))
    (owner : FunctionOwner) (fn : FunctionDecl) :
    Raises measure (siteSum amount (fn.walk owner)) (fn.traverseFlags f) := by
  unfold FunctionDecl.traverseFlags
  refine Raises.of_eq ((KotlinType.raises_traverseFlagsOption hf _ _).bind fun _ =>
    (Raises.mapM (fun q => q.raises_traverseFlags hf (.function fn)) _).bind fun _ =>
    (Raises.mapM (fun q => q.raises_traverseFlags hf _) _).bind fun _ =>
    (KotlinType.raises_traverseFlags hf _ _).bind fun _ =>
    (hf _).bind fun _ => Raises.pure _) ?_
  simp [FunctionDecl.walk, Dispatch.flagSites]
  abel

theorem ConstructorDecl.raises_traverseFlags (hf : ∀ site, Raises measure (amount site) (f site))
    (owner : ClassDecl) (k : ConstructorDecl) :
    Raises measure (siteSum amount (k.walk owner)) (k.traverseFlags f owner) := by
  unfold ConstructorDecl.traverseFlags
  refine Raises.of_eq ((Raises.mapM (fun q => q.raises_traverseFlags hf _) _).bind fun _ =>
    (hf _).bind fun _ => Raises.pure _) ?_
  simp [ConstructorDecl.walk, Dispatch.flagSites]
  abel

theorem TypeAliasDecl.raises_traverseFlags (hf : ∀ site, Raises measure (amount site) (f site))
    (owner : Container) (a : TypeAliasDecl) :
    Raises measure (siteSum amount (a.walk owner)) (a.traverseFlags f) := by
  unfold TypeAliasDecl.traverseFlags
  refine Raises.of_eq ((Raises.mapM (fun q => q.raises_traverseFlags hf (.typeAlias a)) _).bind
    fun _ => (KotlinType.raises_traverseFlags hf _ _).bind fun _ =>
    (KotlinType.raises_traverseFlags hf _ _).bind fun _ =>
    (hf _).bind fun _ => Raises.pure _) ?_
  simp [TypeAliasDecl.walk, Dispatch.flagSites]
  abel

theorem Container.raises_traverseFlags (hf : ∀ site, Raises measure (amount site) (f site))
    (c : Container) : Raises measure (siteSum amount c.walk) (c.traverseFlags f) := by
  unfold Container.traverseFlags
  refine Raises.of_eq ((Raises.mapM (fun p => p.raises_traverseFlags hf (.declared c)) _).bind
    fun _ => (Raises.mapM (fun fn => fn.raises_traverseFlags hf (.container c)) _).bind fun _ =>
    (Raises.mapM (fun a => a.raises_traverseFlags hf c) _).bind fun _ =>
    (Raises.mapM (fun p => p.raises_traverseFlags hf (.delegated c)) _).bind fun _ =>
    Raises.pure _) ?_
  simp [Container.walk]

theorem ClassDecl.raises_traverseFlags (hf : ∀ site, Raises measure (amount site) (f site))
    (c : ClassDecl) :
    Raises measure (amount (.classDecl c) + siteSum amount c.walkBody) (c.traverseFlags f) := by
  unfold ClassDecl.traverseFlags
  refine Raises.of_eq ((c.container.raises_traverseFlags hf).bind fun _ =>
    (KotlinType.raises_traverseFlagsList hf _ _).bind fun _ =>
    (Raises.mapM (fun q => q.raises_traverseFlags hf (.classDecl c)) _).bind fun _ =>
    (Raises.mapM (fun k => k.raises_traverseFlags hf c) _).bind fun _ =>
    (hf _).bind fun _ => Raises.pure _) ?_
  simp [ClassDecl.walkBody]
  abel

/-- A traversal raises a measure that each of its steps raises by a fixed amount by the amounts of
    all flags of the graph. -/
theorem Metadata.raises_traverseFlags (hf : ∀ site, Raises measure (amount site) (f site))
    (m : Metadata) : Raises measure (m.flagSites.map amount).sum (m.traverseFlags f) := by
  rw [Metadata.map_flagSites]
  show Raises measure (siteSum amount m.walk) _
  rw [Metadata.walk]
  unfold Metadata.traverseFlags
  cases m with
  | classDecl c =>
    refine Raises.of_eq ((c.raises_traverseFlags hf).bind fun _ => Raises.pure _) ?_
    simp [Metadata.walkBody, Dispatch.flagSites]
  | fileFacade file =>
    refine Raises.of_eq ((file.container.raises_traverseFlags hf).bind fun _ => Raises.pure _) ?_
    simp [Metadata.walkBody, Dispatch.flagSites]
  | syntheticClass s =>
    refine Raises.of_eq ((Raises.mapM (fun fn => fn.raises_traverseFlags hf (.syntheticClass s))
      _).bind fun _ => Raises.pure _) ?_
    simp [Metadata.walkBody, Dispatch.flagSites]
  | multiFileFacade file =>
    refine Raises.of_eq (Raises.pure _) ?_
    simp [Metadata.walkBody, Dispatch.flagSites]
  | multiFilePart p =>
    refine Raises.of_eq ((p.container.raises_traverseFlags hf).bind fun _ => Raises.pure _) ?_
    simp [Metadata.walkBody, Dispatch.flagSites]

end traversals

/-! ## Traversals that look at the flags of a walk -/

section congruence
variable (g g' : FlagSite → Bool)

/-- The function has another value for the flag than the other one. -/
def differsAt (site : FlagSite) : Nat := if g site = g' site then 0 else 1

/-- A step of a traversal with a plain function that counts where the function differs. -/
def countDifference (site : FlagSite) : StateM Nat Bool := do
  modify (· + differsAt g g' site)
  return g site

/-- A computation with a counter yields a value, unless it has counted something. -/
def YieldsUncounted (α : Type) (x : StateM Nat α) (y : Id α) : Prop :=
  ∀ n, n ≤ (x.run n).2 ∧ ((x.run n).2 = n → (x.run n).1 = y.run)

theorem YieldsUncounted.sequenceRel : SequenceRel YieldsUncounted where
  pure _ n := ⟨Nat.le_refl n, fun _ => rfl⟩
  bind {_ _ x y f f'} hx hf n := by
    obtain ⟨hfirst, hvalue⟩ := hx n
    obtain ⟨hsecond, hresult⟩ := hf (x.run n).1 (x.run n).2
    show n ≤ ((f (x.run n).1).run (x.run n).2).2 ∧ (((f (x.run n).1).run (x.run n).2).2 = n →
      ((f (x.run n).1).run (x.run n).2).1 = (f' y.run).run)
    refine ⟨Nat.le_trans hfirst hsecond, fun hn => ?_⟩
    -- Counters do not go down, so that neither part has counted anything.
    have huncounted : (x.run n).2 = n := by omega
    rw [← hvalue huncounted]
    exact hresult (by omega)

variable {g g'}

/-- Traversals with functions that agree at the flags of the graph have the same result. -/
theorem Metadata.mapFlags_congr {m : Metadata} (h : ∀ site ∈ m.flagSites, g site = g' site) :
    m.mapFlags g = m.mapFlags g' := by
  -- One traversal with the first function counts at how many flags the other one differs.
  have hyields : ((m.traverseFlags (countDifference g g')).run 0).1 = m.mapFlags g :=
    m.traverseFlags_rel (Yields.sequenceRel Nat) (fun _ _ => rfl) 0
  have hstep : ∀ site, YieldsUncounted Bool (countDifference g g' site) (pure (g' site)) := by
    intro site n
    show n ≤ n + differsAt g g' site ∧ (n + differsAt g g' site = n → g site = g' site)
    refine ⟨Nat.le_add_right _ _, fun hn => ?_⟩
    by_contra hne
    rw [differsAt, if_neg hne] at hn
    omega
  have huncounted := (m.traverseFlags_rel YieldsUncounted.sequenceRel hstep 0).2
  have hraises : ∀ site, Raises id (differsAt g g' site) (countDifference g g' site) :=
    fun _ _ => rfl
  have hnone : ((m.traverseFlags (countDifference g g')).run 0).2 = 0 := by
    have htotal := m.raises_traverseFlags hraises 0
    have hzero : (m.flagSites.map (differsAt g g')).sum = 0 := by
      refine List.sum_eq_zero fun n hn => ?_
      obtain ⟨site, hsite, rfl⟩ := List.mem_map.mp hn
      exact if_pos (h site hsite)
    rw [hzero] at htotal
    exact htotal
  rw [← hyields]
  exact huncounted hnone

end congruence

/-! ## Traversals that change nothing -/

/-- A traversal that puts back what it finds changes no type, wherever the type is. -/
theorem KotlinType.mapFlags_value_apply (owner : TypeOwner) (t : KotlinType) :
    t.mapFlags FlagSite.value owner = t := by
  induction t using KotlinType.induction generalizing owner with
  | step t harguments hbounds habbreviation =>
    rw [mapFlags_eq, List.map_congr_left fun s hs => harguments s hs _,
      List.map_congr_left fun s hs => hbounds s hs _,
      Option.map_congr fun s hs => habbreviation s hs _, List.map_id', List.map_id', Option.map_id']
    cases t
    rfl

@[simp] theorem KotlinType.mapFlags_value (owner : TypeOwner) :
    KotlinType.mapFlags FlagSite.value owner = id :=
  funext (KotlinType.mapFlags_value_apply owner)

@[simp] theorem TypeParameter.mapFlags_value :
    TypeParameter.mapFlags FlagSite.value = fun p => p := by
  funext p
  simp [TypeParameter.mapFlags_eq, FlagSite.value]

@[simp] theorem ValueParameter.mapFlags_value (owner : ValueParameterOwner) :
    ValueParameter.mapFlags FlagSite.value owner = id := by
  funext p
  simp [ValueParameter.mapFlags_eq, FlagSite.value]

@[simp] theorem PropertyDecl.mapFlags_value : PropertyDecl.mapFlags FlagSite.value = id := by
  funext p
  simp [PropertyDecl.mapFlags_eq, FlagSite.value]

@[simp] theorem FunctionDecl.mapFlags_value : FunctionDecl.mapFlags FlagSite.value = id := by
  funext fn
  simp [FunctionDecl.mapFlags_eq, FlagSite.value]

@[simp] theorem ConstructorDecl.mapFlags_value (owner : ClassDecl) :
    ConstructorDecl.mapFlags FlagSite.value owner = id := by
  funext k
  simp [ConstructorDecl.mapFlags_eq, FlagSite.value]

@[simp] theorem TypeAliasDecl.mapFlags_value : TypeAliasDecl.mapFlags FlagSite.value = id := by
  funext a
  simp [TypeAliasDecl.mapFlags_eq, FlagSite.value]

@[simp] theorem Container.mapFlags_value (c : Container) : c.mapFlags FlagSite.value = c := by
  simp [Container.mapFlags_eq]

@[simp] theorem ClassDecl.mapFlags_value (c : ClassDecl) : c.mapFlags FlagSite.value = c := by
  simp [ClassDecl.mapFlags_eq, FlagSite.value]

theorem Metadata.mapFlags_value (m : Metadata) : m.mapFlags FlagSite.value = m := by
  rw [Metadata.mapFlags_eq]
  cases m <;> simp

/-- A traversal that finds every flag as it puts it changes nothing. -/
theorem Metadata.mapFlags_eq_self {g : FlagSite → Bool} {m : Metadata}
    (h : ∀ site ∈ m.flagSites, g site = site.value) : m.mapFlags g = m := by
  rw [Metadata.mapFlags_congr h, Metadata.mapFlags_value]

end KotlinMetadata
