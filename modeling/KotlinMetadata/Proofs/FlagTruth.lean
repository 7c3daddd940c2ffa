import KotlinMetadata.AnnotationFlags.Fixer
import KotlinMetadata.Proofs.FlagTraversal

/-! # What a settled flag says

    A pass of the fixer leaves in every annotation flag of a graph what the pool says there, no
    matter which elements its counter saw before.

    - `annotationTotal` and `parameterTotal` count annotations without a counter;
    - `FlagSite.truth` says of each kind of flag what it must be;
    - `FlagSite.settle_truth`: a single step of a pass gives that value from any state;
    - `Fixer.settles_every_flag`: so does the whole pass, for every flag of the graph.
-/

namespace KotlinMetadata

/-! ## Annotations of attributes -/

/-- The annotations of an attribute, those on parameters included. -/
def Attribute.entries : Attribute → List AnnotationEntry
  | .annotations _ list => list
  | .parameterAnnotations _ lists => lists.flatten
  | .other _ => []

/-- The annotations of an attribute on one parameter. -/
def Attribute.entriesOn (index : Nat) : Attribute → List AnnotationEntry
  | .parameterAnnotations _ lists => lists.getD index []
  | _ => []

/-- Number of annotations in attributes, not counting the one that carries the metadata. -/
def annotationTotal (attributes : List Attribute) : Nat :=
  (attributes.flatMap (·.entries)).countP (!·.isMetadata)

/-- Number of those on one parameter. -/
def parameterTotal (attributes : List Attribute) (index : Nat) : Nat :=
  (attributes.flatMap (·.entriesOn index)).countP (!·.isMetadata)

theorem annotationTotal_append (xs ys : List Attribute) :
    annotationTotal (xs ++ ys) = annotationTotal xs + annotationTotal ys := by
  simp only [annotationTotal, List.flatMap_append, List.countP_append]

theorem parameterTotal_append (xs ys : List Attribute) (index : Nat) :
    parameterTotal (xs ++ ys) index = parameterTotal xs index + parameterTotal ys index := by
  simp only [parameterTotal, List.flatMap_append, List.countP_append]

theorem annotationTotal_cons (a : Attribute) (attributes : List Attribute) :
    annotationTotal (a :: attributes) =
      a.entries.countP (!·.isMetadata) + annotationTotal attributes := by
  simp only [annotationTotal, List.flatMap_cons, List.countP_append]

theorem parameterTotal_cons (a : Attribute) (attributes : List Attribute) (index : Nat) :
    parameterTotal (a :: attributes) index =
      (a.entriesOn index).countP (!·.isMetadata) + parameterTotal attributes index := by
  simp only [parameterTotal, List.flatMap_cons, List.countP_append]

theorem countedAnnotations_eq (list : List AnnotationEntry) :
    countedAnnotations list = list.countP (!·.isMetadata) :=
  (List.countP_eq_length_filter ..).symm

theorem foldl_countedAnnotations (lists : List (List AnnotationEntry)) (total : Nat) :
    (lists.map countedAnnotations).foldl (· + ·) total =
      total + lists.flatten.countP (!·.isMetadata) := by
  induction lists generalizing total with
  | nil => rfl
  | cons list lists ih =>
    rw [List.map_cons, List.foldl_cons, ih, countedAnnotations_eq, List.flatten_cons,
      List.countP_append]
    omega

theorem getD_countedAnnotations (lists : List (List AnnotationEntry)) (index : Nat) :
    (lists.map countedAnnotations).getD index 0 =
      (lists.getD index []).countP (!·.isMetadata) := by
  rw [← countedAnnotations_eq]
  simp only [List.getD_eq_getElem?_getD, List.getElem?_map]
  cases lists[index]? <;> rfl

/-! ## The counter -/

namespace AnnotationCounter

/-- In every place, the sum in that place; a list that is too short counts as zeros. -/
theorem getD_addInPlace (ms ns : List Nat) (index : Nat) :
    (addInPlace ms ns).getD index 0 = ms.getD index 0 + ns.getD index 0 := by
  induction ms generalizing ns index with
  | nil => simp [addInPlace]
  | cons m ms ih =>
    cases ns with
    | nil => simp [addInPlace]
    | cons n ns =>
      cases index with
      | zero => rfl
      | succ index => exact ih ns index

theorem count_add (c : AnnotationCounter) (a : Attribute) :
    (c.add a).count = c.count + a.entries.countP (!·.isMetadata) := by
  cases a with
  | annotations _ list => simp only [add, Attribute.entries, countedAnnotations_eq]
  | parameterAnnotations _ lists => simp only [add, Attribute.entries, foldl_countedAnnotations]
  | other _ => rfl

theorem parameterCount_add (c : AnnotationCounter) (a : Attribute) (index : Nat) :
    (c.add a).parameterCount index =
      c.parameterCount index + (a.entriesOn index).countP (!·.isMetadata) := by
  cases a with
  | annotations _ _ => rfl
  | parameterAnnotations _ lists =>
    simp only [parameterCount, add, Attribute.entriesOn, getD_addInPlace, getD_countedAnnotations]
  | other _ => rfl

/-- Counting attributes adds the number of their annotations. -/
theorem count_addAll (c : AnnotationCounter) (attributes : List Attribute) :
    (c.addAll attributes).count = c.count + annotationTotal attributes := by
  induction attributes generalizing c with
  | nil => rfl
  | cons a attributes ih =>
    have hhead := c.count_add a
    have htail := ih (c.add a)
    rw [annotationTotal_cons]
    simp only [addAll, List.foldl_cons] at htail ⊢
    omega

/-- Counting attributes adds, for each parameter, the number of annotations on it. -/
theorem parameterCount_addAll (c : AnnotationCounter) (attributes : List Attribute)
    (index : Nat) :
    (c.addAll attributes).parameterCount index =
      c.parameterCount index + parameterTotal attributes index := by
  induction attributes generalizing c with
  | nil => rfl
  | cons a attributes ih =>
    have hhead := c.parameterCount_add a index
    have htail := ih (c.add a)
    rw [parameterTotal_cons]
    simp only [addAll, List.foldl_cons] at htail ⊢
    omega

end AnnotationCounter

/-! ## The truth about a flag -/

namespace ClassPool

/-- Number of annotations of the class that a link leads to. -/
def classTotal (pool : ClassPool) (link : Option ClassId) : Nat :=
  match link.bind pool.class? with
  | some c => annotationTotal c.attributes
  | none => 0

/-- Number of annotations of the member that a link leads to. -/
def memberTotal (pool : ClassPool) (link : Option MemberRef) : Nat :=
  match link.bind pool.member? with
  | some m => annotationTotal m.attributes
  | none => 0

/-- Number of annotations on one parameter of the member that a link leads to. -/
def memberParameterTotal (pool : ClassPool) (link : Option MemberRef) (index : Nat) : Nat :=
  match link.bind pool.member? with
  | some m => parameterTotal m.attributes index
  | none => 0

theorem annotationTotal_classAttributes (pool : ClassPool) (link : Option ClassId) :
    annotationTotal (pool.classAttributes link) = pool.classTotal link := by
  unfold classAttributes classTotal
  cases link.bind pool.class? <;> rfl

theorem annotationTotal_memberAttributes (pool : ClassPool) (link : Option MemberRef) :
    annotationTotal (pool.memberAttributes link) = pool.memberTotal link := by
  unfold memberAttributes memberTotal
  cases link.bind pool.member? <;> rfl

theorem parameterTotal_memberAttributes (pool : ClassPool) (link : Option MemberRef)
    (index : Nat) :
    parameterTotal (pool.memberAttributes link) index = pool.memberParameterTotal link index := by
  unfold memberAttributes memberParameterTotal
  cases link.bind pool.member? <;> rfl

end ClassPool

/-- What a flag has to say after a pass.

    The flags of value parameters are only ever taken back, and never those of a constructor of
    an annotation class; every other flag does not depend on what it said before, except that of
    an accessor that the property lacks or that was not resolved. -/
def FlagSite.truth (pool : ClassPool) : FlagSite → Bool
  | .classDecl c => 0 < pool.classTotal c.target
  | .property p => p.holderSignature.isSome && 0 < pool.memberTotal p.holder
  | .getter p =>
    if p.flags.hasGetter && p.getter.isSome then 0 < pool.memberTotal p.getter
    else p.getterFlags.hasAnnotations
  | .setter p =>
    if p.flags.hasSetter && p.setter.isSome then 0 < pool.memberTotal p.setter
    else p.setterFlags.hasAnnotations
  | .function f => 0 < pool.memberTotal f.method
  | .constructor owner k => !owner.flags.isAnnotationClass && 0 < pool.memberTotal k.method
  | .typeAlias a => a.annotations ≠ []
  | .type (.functionReceiver f) _ => 0 < pool.memberParameterTotal f.method 0
  | .type _ t => t.annotations ≠ []
  | .typeParameter p => p.annotations ≠ []
  | .valueParameter (.function f) p =>
    p.flags.hasAnnotations && 0 < pool.memberParameterTotal f.method p.index.toNat
  | .valueParameter (.constructor c k) p =>
    p.flags.hasAnnotations &&
      (c.flags.isAnnotationClass || 0 < pool.memberParameterTotal k.method p.index.toNat)
  | .valueParameter (.propertySetter q) p =>
    p.flags.hasAnnotations && 0 < pool.memberParameterTotal q.setter p.index.toNat

/-! ## Single steps -/

namespace FixM

/-- Counting from nothing gives the number of annotations, whatever was counted before. -/
theorem count_recount (attributes : List Attribute) (s : FixPass) :
    ((recount attributes).run s).1.count = annotationTotal attributes := by
  have hcount := AnnotationCounter.count_addAll {} attributes
  rw [Nat.zero_add] at hcount
  exact hcount

/-- So does counting on one parameter. -/
theorem parameterCount_recount (attributes : List Attribute) (index : Nat) (s : FixPass) :
    ((recount attributes).run s).1.parameterCount index = parameterTotal attributes index := by
  have hcount := AnnotationCounter.parameterCount_addAll {} attributes index
  have hnone : AnnotationCounter.parameterCount {} index = 0 := rfl
  rw [hnone, Nat.zero_add] at hcount
  exact hcount

theorem run_writeAnnotated (attributes : List Attribute) (s : FixPass) :
    ((writeAnnotated attributes).run s).1 = decide (0 < annotationTotal attributes) := by
  rw [← count_recount attributes s]
  rfl

/-- A flag that is written from attributes on a condition only. -/
theorem run_writeAnnotated_else (b : Bool) (attributes : List Attribute) (other : FixM Bool)
    (s : FixPass) :
    ((if b then writeAnnotated attributes else other).run s).1 =
      if b then decide (0 < annotationTotal attributes) else (other.run s).1 := by
  cases b with
  | false => rfl
  | true => exact run_writeAnnotated attributes s

/-- A flag is written as it was worked out, whether or not there was something to report. -/
theorem run_write_after_report (b value : Bool) (event : FixEvent) (s : FixPass) :
    ((do if b then report event
         write value : FixM Bool).run s).1 = value := by
  cases b <;> rfl

end FixM

theorem isEmpty_not_eq_decide {α : Type} (xs : List α) : (!xs.isEmpty) = decide (xs ≠ []) := by
  cases xs <;> rfl

namespace FlagSite
variable (pool : ClassPool)

theorem settle_property (p : PropertyDecl) (s : FixPass) :
    ((settle pool (.property p)).run s).1 = truth pool (.property p) := by
  rw [settle, FixM.run_writeAnnotated_else, pool.annotationTotal_memberAttributes]
  simp only [truth]
  cases p.holderSignature.isSome <;> rfl

theorem settle_constructor (owner : ClassDecl) (k : ConstructorDecl) (s : FixPass) :
    ((settle pool (.constructor owner k)).run s).1 = truth pool (.constructor owner k) := by
  have hclass : owner.flags.isAnnotationClass = owner.isAnnotationClass := rfl
  simp only [settle, truth, hclass, ← pool.annotationTotal_memberAttributes,
    ← FixM.run_writeAnnotated _ s]
  cases owner.isAnnotationClass <;> rfl

/-- Only the receiver of a function looks beyond its own annotations. -/
theorem settle_type (owner : TypeOwner) (t : KotlinType) (s : FixPass) :
    ((settle pool (.type owner t)).run s).1 = truth pool (.type owner t) := by
  cases owner with
  | functionReceiver f =>
    simp only [truth, ← pool.parameterTotal_memberAttributes]
    rw [← FixM.parameterCount_recount (pool.memberAttributes f.method) 0 s]
    rfl
  | _ => exact isEmpty_not_eq_decide t.annotations

/-- A flag that is not set stays so, and those of an annotation class stay as they are. -/
theorem settle_valueParameter (owner : ValueParameterOwner) (p : ValueParameter) (s : FixPass) :
    ((settle pool (.valueParameter owner p)).run s).1 = truth pool (.valueParameter owner p) := by
  -- The owners differ in their method only, except for that of an annotation class.
  have htruth : truth pool (.valueParameter owner p) =
      (p.flags.hasAnnotations && (owner.isAnnotationConstructor ||
        decide (0 < pool.memberParameterTotal owner.method? p.index.toNat))) := by
    cases owner <;> rfl
  rw [htruth, ← pool.parameterTotal_memberAttributes,
    ← FixM.parameterCount_recount (pool.memberAttributes owner.method?) p.index.toNat s]
  simp only [settle]
  cases p.flags.hasAnnotations with
  | false => rfl
  | true =>
    cases owner.isAnnotationConstructor with
    | true => rfl
    | false => exact FixM.run_write_after_report _ _ _ _

/-- A step of a pass gives a flag the value it has to have, whatever the state before. -/
theorem settle_truth (site : FlagSite) (s : FixPass) :
    ((site.settle pool).run s).1 = site.truth pool := by
  cases site with
  | classDecl c =>
    simp only [settle, truth, FixM.run_writeAnnotated, pool.annotationTotal_classAttributes]
  | property p => exact settle_property pool p s
  | getter p =>
    rw [settle, FixM.run_writeAnnotated_else, pool.annotationTotal_memberAttributes]
    rfl
  | setter p =>
    rw [settle, FixM.run_writeAnnotated_else, pool.annotationTotal_memberAttributes]
    rfl
  | function f =>
    simp only [settle, truth, FixM.run_writeAnnotated, pool.annotationTotal_memberAttributes]
  | constructor owner k => exact settle_constructor pool owner k s
  | typeAlias a => exact isEmpty_not_eq_decide a.annotations
  | type owner t => exact settle_type pool owner t s
  | typeParameter p => exact isEmpty_not_eq_decide p.annotations
  | valueParameter owner p => exact settle_valueParameter pool owner p s

end FlagSite

/-! ## Whole passes -/

/-- A computation with a state gives one and the same value from every state. -/
def Yields (σ α : Type) (x : StateM σ α) (a : Id α) : Prop :=
  ∀ s, (x.run s).1 = a.run

theorem Yields.sequenceRel (σ : Type) : SequenceRel (Yields σ) where
  pure _ _ := rfl
  bind {_ _ x y f g} hx hf s := by
    show ((f (x.run s).1).run (x.run s).2).1 = (g y.run).run
    rw [← hx s]
    exact hf _ _

/-- A pass gives every flag its value at once, whatever the fixer was used for before. -/
theorem Fixer.pass_eq_mapFlags (fixer : Fixer) (pool : ClassPool) (m : Metadata) :
    (fixer.pass pool m).1 = m.mapFlags (FlagSite.truth pool) := by
  -- The state of a step is no matter, so neither is that of the whole traversal.
  have hstep : ∀ site : FlagSite,
      Yields FixPass Bool (site.settle pool) (pure (site.truth pool)) :=
    fun site s => site.settle_truth pool s
  exact m.traverseFlags_rel (Yields.sequenceRel FixPass) hstep { fixer with }

theorem Metadata.fixFlags_eq_mapFlags (m : Metadata) (pool : ClassPool) (id : ClassId)
    (h : (pool.class? id).isSome) : (m.fixFlags pool id).1 = m.mapFlags (FlagSite.truth pool) := by
  obtain ⟨c, hc⟩ := Option.isSome_iff_exists.mp h
  have hpass := Fixer.pass_eq_mapFlags {} pool m
  simp only [Metadata.fixFlags, hc]
  exact hpass

/-- **Ground truth**: after a pass, by a fixer with any past or by `fixFlags`, every flag that a
    walk of the graph lists says what it has to say, and nothing else in the graph is new. -/
theorem Fixer.settles_every_flag (fixer : Fixer) (pool : ClassPool) (id : ClassId) (m : Metadata)
    (h : (pool.class? id).isSome) :
    (fixer.pass pool m).1.flagSites.map FlagSite.value = m.flagSites.map (FlagSite.truth pool) ∧
    (m.fixFlags pool id).1.flagSites.map FlagSite.value =
      m.flagSites.map (FlagSite.truth pool) ∧
    (fixer.pass pool m).1 = m.mapFlags (FlagSite.truth pool) ∧
    (m.fixFlags pool id).1 = m.mapFlags (FlagSite.truth pool) := by
  have hpass := fixer.pass_eq_mapFlags pool m
  have hfix := m.fixFlags_eq_mapFlags pool id h
  have hlisted : (m.mapFlags (FlagSite.truth pool)).flagSites.map FlagSite.value =
      m.flagSites.map (FlagSite.truth pool) := by
    rw [Metadata.map_flagSites, Metadata.map_flagSites, Metadata.siteValues_mapFlags]
  refine ⟨?_, ?_, hpass, hfix⟩
  · rw [hpass]
    exact hlisted
  · rw [hfix]
    exact hlisted

/-- A class with one method, which has an annotation on its first parameter and the annotation
    that carries the metadata on its second. -/
def annotatedMethodPool : ClassPool where
  classes := [{
    id := ⟨0⟩, name := "a/AKt", kind := .program
    methods := [{
      id := ⟨0⟩, kind := .method, name := "run", descriptor := "(II)V"
      attributes := [.parameterAnnotations .visible
        [[⟨"La/A;", []⟩], [⟨AnnotationEntry.metadataDescriptor, []⟩]]] }] }]
  nextClass := 1
  nextMember := 1

/-- A function with a receiver and a parameter that was decoded as annotated. -/
def extensionFacade : Metadata :=
  .fileFacade { container := { functions := [{
    name := "run", method := some ⟨⟨0⟩, ⟨0⟩⟩, receiver := some {}, returnType := {}
    valueParameters :=
      [{ flags := { hasAnnotations := true }, index := 1, name := "x", type := {} }] }] } }

/-- The function and its receiver are annotated, the parameter no longer is, whatever the counter
    has left over from the element before. -/
theorem Fixer.settles_every_flag_of_extension :
    (annotatedMethodPool.class? ⟨0⟩).isSome ∧
    (Fixer.pass ⟨⟨5, [3, 3]⟩, 2⟩ annotatedMethodPool extensionFacade).1.flagSites.map
      FlagSite.value = [true, true, false, false, false] :=
  ⟨rfl, (Fixer.settles_every_flag _ _ ⟨0⟩ _ rfl).1.trans (by decide)⟩

end KotlinMetadata
