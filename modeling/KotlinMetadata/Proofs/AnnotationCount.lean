import Mathlib.Algebra.BigOperators.Group.List.Basic
import Mathlib.Algebra.Ring.Nat
import KotlinMetadata.Proofs.FlagTruth

/-! # What the counter counts

    A counter goes through attributes one by one, and through the parameters of an attribute one by
    one, with a place for each parameter that it has come across.  However many places it has at
    a time, what it ends with is told by the attributes alone.

    - `AnnotationCounter.run_countParameters`: the loop over parameters, with its invariant;
    - `AnnotationCounter.run_visits`: any classes, fields and methods, one after the other;
    - `AnnotationCounter.Counts`: what the numbers must be;
    - `Attribute.counted?`: what the counter sees of an attribute;
    - `AnnotationCounter.addAll_congr`: it sees no order, and nothing else;
    - `AnnotationCounter.counts_every_annotation`: all this, for every way to show elements.
-/

namespace KotlinMetadata

attribute [ext] AnnotationCounter

/-! ## Attributes -/

/-- The attributes of a class or member. -/
def AttributeOwner.attributes : AttributeOwner → List Attribute
  | .ofClass c => c.attributes
  | .ofMember _ m => m.attributes

/-- The attributes of elements, in the order in which they are shown. -/
def attributesOf (elements : List AttributeOwner) : List Attribute :=
  elements.flatMap (·.attributes)

/-- Number of parameters that an attribute has a list for. -/
def Attribute.parameters : Attribute → Nat
  | .parameterAnnotations _ lists => lists.length
  | _ => 0

/-- Number of annotations in attributes that are not about parameters. -/
def plainTotal (attributes : List Attribute) : Nat :=
  annotationTotal (attributes.filter (·.kind == .annotations))

/-- What the counter sees of an attribute: neither how long its annotations are kept, nor the one
    that carries the metadata, nor any other attribute. -/
def Attribute.counted? : Attribute → Option Attribute
  | .annotations _ list => some (.annotations .visible (list.filter (!·.isMetadata)))
  | .parameterAnnotations _ lists =>
    some (.parameterAnnotations .visible (lists.map (·.filter (!·.isMetadata))))
  | .other _ => none

section Totals
variable {attributes : List Attribute}

theorem plainTotal_cons (a : Attribute) (attributes : List Attribute) :
    plainTotal (a :: attributes) =
      (if a.kind == .annotations then a.entries.countP (!·.isMetadata) else 0) +
        plainTotal attributes := by
  rw [plainTotal, List.filter_cons]
  split
  · exact annotationTotal_cons a _
  · exact (Nat.zero_add _).symm

theorem Attribute.entriesOn_beyond {a : Attribute} {index : Nat} (hbeyond : a.parameters ≤ index) :
    a.entriesOn index = [] := by
  cases a with
  | parameterAnnotations _ lists =>
    rw [entriesOn, List.getD_eq_getElem?_getD, List.getElem?_eq_none hbeyond]
    rfl
  | annotations _ list => rfl
  | other name => rfl

theorem parameterTotal_beyond {index : Nat} (hbeyond : ∀ a ∈ attributes, a.parameters ≤ index) :
    parameterTotal attributes index = 0 := by
  have hnone : attributes.flatMap (·.entriesOn index) = [] :=
    List.flatMap_eq_nil_iff.mpr fun a ha => a.entriesOn_beyond (hbeyond a ha)
  rw [parameterTotal, hnone, List.countP_nil]

/-- Lists are counted place by place, up to any bound on their number. -/
theorem sum_countP_getD {α : Type} (p : α → Bool) {lists : List (List α)} {bound : Nat}
    (hbound : lists.length ≤ bound) :
    ((List.range bound).map fun index => (lists.getD index []).countP p).sum =
      lists.flatten.countP p := by
  induction lists generalizing bound with
  | nil => simp
  | cons list lists ih =>
    cases bound with
    | zero => exact absurd hbound (Nat.not_succ_le_zero _)
    | succ bound =>
      have hrest := ih (Nat.le_of_succ_le_succ hbound)
      rw [List.range_succ_eq_map, List.map_cons, List.map_map, List.sum_cons, List.flatten_cons,
        List.countP_append, ← hrest]
      rfl

theorem Attribute.countP_entries_eq (a : Attribute) {bound : Nat} (hbound : a.parameters ≤ bound)
    (p : AnnotationEntry → Bool) :
    a.entries.countP p = (if a.kind == .annotations then a.entries.countP p else 0) +
      ((List.range bound).map fun index => (a.entriesOn index).countP p).sum := by
  cases a with
  | parameterAnnotations _ lists =>
    exact (sum_countP_getD p hbound).symm.trans (Nat.zero_add _).symm
  | annotations _ list => simp [entriesOn, kind]
  | other name => simp [entries, entriesOn]

/-- The annotations are those in attributes of the element itself and those on its parameters. -/
theorem annotationTotal_eq_add {bound : Nat} (hbound : ∀ a ∈ attributes, a.parameters ≤ bound) :
    annotationTotal attributes =
      plainTotal attributes + ((List.range bound).map (parameterTotal attributes)).sum := by
  induction attributes with
  | nil =>
    have hzero : parameterTotal [] = fun _ => 0 := rfl
    simp [annotationTotal, plainTotal, hzero]
  | cons a attributes ih =>
    -- One more attribute raises the total by its own part, which is plain or on parameters.
    have hhead := a.countP_entries_eq (hbound a List.mem_cons_self) (!·.isMetadata)
    have hrest := ih fun b hb => hbound b (List.mem_cons_of_mem a hb)
    have hparameters : ((List.range bound).map (parameterTotal (a :: attributes))).sum =
        ((List.range bound).map fun index => (a.entriesOn index).countP (!·.isMetadata)).sum +
          ((List.range bound).map (parameterTotal attributes)).sum := by
      rw [← List.sum_map_add]
      exact congrArg List.sum (List.map_congr_left fun index _ => parameterTotal_cons a _ index)
    rw [annotationTotal_cons, plainTotal_cons, hparameters]
    omega

end Totals

/-! ## Places -/

namespace AnnotationCounter

theorem addInPlace_nil (ms : List Nat) : addInPlace ms [] = ms := by
  cases ms <;> rfl

/-- A place that holds 0 is as good as none, if there is something to add in it. -/
theorem addInPlace_room (ms ns : List Nat) :
    addInPlace (ms ++ List.replicate (ns.length - ms.length) 0) ns = addInPlace ms ns := by
  induction ms generalizing ns with
  | nil =>
    show addInPlace (List.replicate ns.length 0) ns = ns
    induction ns with
    | nil => rfl
    | cons n ns ih =>
      show (0 + n) :: addInPlace (List.replicate ns.length 0) ns = n :: ns
      rw [ih, Nat.zero_add]
  | cons m ms ih =>
    cases ns with
    | nil => simp [addInPlace_nil]
    | cons n ns =>
      rw [List.length_cons, List.length_cons, Nat.add_sub_add_right, List.cons_append, addInPlace,
        ih, addInPlace]

theorem addInPlace_right_comm (ms ns ks : List Nat) :
    addInPlace (addInPlace ms ns) ks = addInPlace (addInPlace ms ks) ns := by
  induction ms generalizing ns ks with
  | nil =>
    induction ns generalizing ks with
    | nil => cases ks <;> rfl
    | cons n ns ih =>
      cases ks with
      | nil => rfl
      | cons k ks =>
        have hrest := ih ks
        simp only [addInPlace] at hrest ⊢
        rw [hrest, Nat.add_comm]
  | cons m ms ih =>
    cases ns with
    | nil => cases ks <;> rfl
    | cons n ns =>
      cases ks with
      | nil => rfl
      | cons k ks =>
        simp only [addInPlace]
        rw [ih, Nat.add_right_comm]

/-! ## The loop over parameters -/

/-- The invariant of the loop: places before the current one have got what they get, and in those
    from there on the rest of the lists is still to be added. -/
theorem run_countParameters (lists : List (List AnnotationEntry)) {c : AnnotationCounter}
    {before rest : List Nat} (hplaces : c.parameterCounts = before ++ rest)
    (hroom : lists.length ≤ rest.length) :
    ((lists.zipIdx before.length).forM countParameter).run c =
      .ok () {
        count := (lists.map countedAnnotations).foldl (· + ·) c.count
        parameterCounts := before ++ addInPlace rest (lists.map countedAnnotations) } := by
  induction lists generalizing c before rest with
  | nil =>
    rw [List.map_nil, addInPlace_nil, ← hplaces]
    rfl
  | cons list lists ih =>
    cases rest with
    | nil => exact absurd hroom (Nat.not_succ_le_zero _)
    | cons n rest =>
      -- The current place is written once, and then belongs to those before.
      have hwritten : (c.addAt before.length list).parameterCounts =
          (before ++ [n + countedAnnotations list]) ++ rest := by
        rw [addAt, hplaces, List.append_assoc]
        exact List.modifyTailIdx_add _ 0 before (n :: rest)
      have hnext := ih hwritten (Nat.le_of_succ_le_succ hroom)
      rw [List.length_append, List.append_assoc] at hnext
      exact hnext

/-- Counting an attribute place by place comes to counting it at once. -/
theorem run_countAttribute (a : Attribute) (c : AnnotationCounter) :
    (countAttribute a).run c = .ok () (c.add a) := by
  cases a with
  | annotations retention list => rfl
  | parameterAnnotations retention lists =>
    have hroom : lists.length ≤ (c.makeRoom lists.length).parameterCounts.length := by
      rw [makeRoom, List.length_append, List.length_replicate]
      omega
    have hloop := run_countParameters lists (List.nil_append _).symm hroom
    have hsame := addInPlace_room c.parameterCounts (lists.map countedAnnotations)
    rw [List.length_map] at hsame
    show (lists.zipIdx.forM countParameter).run (c.makeRoom lists.length) = _
    refine hloop.trans ?_
    rw [add, List.nil_append, ← hsame]
    rfl
  | other name => rfl

/-! ## Elements -/

/-- A loop in which no round breaks off comes to a fold. -/
theorem run_forM_of_step {σ α : Type} {visit : α → Visit σ Unit} {step : σ → α → σ}
    (hstep : ∀ x s, (visit x).run s = .ok () (step s x)) (xs : List α) (s : σ) :
    (xs.forM visit).run s = .ok () (xs.foldl step s) := by
  induction xs generalizing s with
  | nil => rfl
  | cons x xs ih =>
    show (visit x >>= fun _ => xs.forM visit).run s = _
    rw [EStateM.run_bind, hstep]
    exact ih (step s x)

theorem run_visit (element : AttributeOwner) (c : AnnotationCounter) :
    (visit element).run c = .ok () (c.addAll element.attributes) := by
  have hattributes : ∀ owner (attributes : List Attribute),
      (attributes.forM (attributeVisitor.visit owner)).run c = .ok () (c.addAll attributes) :=
    fun owner attributes => run_forM_of_step run_countAttribute attributes c
  cases element with
  | ofClass d => exact hattributes (.ofClass d) d.attributes
  | ofMember d m => exact hattributes (.ofMember d m) m.attributes

/-- Shown any elements, the counter does not break off, and has counted their attributes. -/
theorem run_visits (elements : List AttributeOwner) (c : AnnotationCounter) :
    (elements.forM visit).run c = .ok () (c.addAll (attributesOf elements)) := by
  rw [run_forM_of_step run_visit, addAll, attributesOf, List.foldl_flatMap]
  rfl

/-! ## What it must have counted -/

/-- What a counter says that was reset, and has counted these attributes since. -/
structure Counts (c : AnnotationCounter) (attributes : List Attribute) : Prop where
  /-- All annotations count but those that carry the metadata. -/
  count : c.count = annotationTotal attributes
  /-- On a parameter those count that any attribute has in its place. -/
  parameterCount : ∀ index, c.parameterCount index = parameterTotal attributes index
  /-- Beyond the lists of every attribute there are none. -/
  beyond : ∀ index, (∀ a ∈ attributes, a.parameters ≤ index) → c.parameterCount index = 0
  /-- Those that are on no parameter are in attributes of the element itself. -/
  remainder : ∀ bound, (∀ a ∈ attributes, a.parameters ≤ bound) →
    c.count = plainTotal attributes + ((List.range bound).map c.parameterCount).sum

/-- A counter in which every number is the sum of those in two others. -/
structure IsSum (c d e : AnnotationCounter) : Prop where
  count : c.count = d.count + e.count
  parameterCount : ∀ index,
    c.parameterCount index = d.parameterCount index + e.parameterCount index

theorem counts_addAll (attributes : List Attribute) :
    (({} : AnnotationCounter).addAll attributes).Counts attributes where
  count := (count_addAll {} attributes).trans (Nat.zero_add _)
  parameterCount index := (parameterCount_addAll {} attributes index).trans (Nat.zero_add _)
  beyond index hbeyond := by
    rw [parameterCount_addAll, parameterTotal_beyond hbeyond]
    rfl
  remainder bound hbound := by
    have hparameters : (({} : AnnotationCounter).addAll attributes).parameterCount =
        parameterTotal attributes :=
      funext fun index => (parameterCount_addAll {} attributes index).trans (Nat.zero_add _)
    rw [hparameters, count_addAll, ← annotationTotal_eq_add hbound]
    exact Nat.zero_add _

theorem isSum_append (xs ys : List Attribute) :
    (({} : AnnotationCounter).addAll (xs ++ ys)).IsSum (({} : AnnotationCounter).addAll xs)
      (({} : AnnotationCounter).addAll ys) where
  count := by
    rw [(counts_addAll _).count, (counts_addAll _).count, (counts_addAll _).count,
      annotationTotal_append]
  parameterCount index := by
    rw [(counts_addAll _).parameterCount, (counts_addAll _).parameterCount,
      (counts_addAll _).parameterCount, parameterTotal_append]

/-! ## What makes no difference -/

theorem countedAnnotations_filter (list : List AnnotationEntry) :
    countedAnnotations (list.filter (!·.isMetadata)) = countedAnnotations list := by
  simp [countedAnnotations]

theorem add_eq_counted? (c : AnnotationCounter) (a : Attribute) :
    c.add a = (a.counted?.map c.add).getD c := by
  cases a with
  | annotations retention list =>
    show c.add _ = c.add (.annotations .visible _)
    rw [add, add, countedAnnotations_filter]
  | parameterAnnotations retention lists =>
    have hlists : (lists.map (·.filter (!·.isMetadata))).map countedAnnotations =
        lists.map countedAnnotations := by
      rw [List.map_map]
      exact List.map_congr_left fun list _ => countedAnnotations_filter list
    show c.add _ = c.add (.parameterAnnotations .visible _)
    rw [add, add, hlists]
  | other name => rfl

theorem add_right_comm (c : AnnotationCounter) (a b : Attribute) :
    (c.add a).add b = (c.add b).add a := by
  refine AnnotationCounter.ext ?_ ?_
  · simp only [count_add]
    omega
  · cases a with
    | parameterAnnotations _ lists =>
      cases b with
      | parameterAnnotations _ others => exact addInPlace_right_comm _ _ _
      | annotations _ list => rfl
      | other name => rfl
    | annotations _ list => cases b <;> rfl
    | other name => rfl

theorem addAll_eq_counted? (c : AnnotationCounter) (attributes : List Attribute) :
    c.addAll attributes = c.addAll (attributes.filterMap (·.counted?)) := by
  induction attributes generalizing c with
  | nil => rfl
  | cons a attributes ih =>
    rw [List.filterMap_cons]
    show (c.add a).addAll attributes = _
    rw [add_eq_counted? c a, ih]
    cases a.counted? <;> rfl

/-- Two lists of attributes are counted alike if the counter sees the same in them, in any order. -/
theorem addAll_congr (c : AnnotationCounter) {xs ys : List Attribute}
    (hseen : (xs.filterMap (·.counted?)).Perm (ys.filterMap (·.counted?))) :
    c.addAll xs = c.addAll ys := by
  rw [addAll_eq_counted? c xs, addAll_eq_counted? c ys]
  exact hseen.foldl_eq' (fun a _ b _ c => add_right_comm c a b) c

/-! ## Ways to show elements -/

/-- The members that a choice picks from each of some classes. -/
def membersOf (pick : JvmClass → List Member) (classes : List JvmClass) : List AttributeOwner :=
  classes.flatMap fun d => (pick d).map (.ofMember d)

/-- Class by class or all fields first, the same attributes are shown. -/
theorem attributesOf_members_perm (classes : List JvmClass) :
    (attributesOf (membersOf (·.members) classes)).Perm
      (attributesOf (membersOf (·.fields) classes) ++
        attributesOf (membersOf (·.methods) classes)) := by
  simp only [attributesOf, membersOf, JvmClass.members, List.map_append, ← List.flatMap_append]
  exact List.Perm.flatMap_right _ (List.flatMap_append_perm ..).symm

theorem addMembers_eq (c : AnnotationCounter) (d : JvmClass) (ms : List Member) :
    c.addMembers ms = c.addAll (attributesOf (ms.map (.ofMember d))) := by
  rw [addMembers, addAll, attributesOf, List.flatMap_map, List.foldl_flatMap]
  rfl

theorem run_visitMembers (d : JvmClass) (ms : List Member) (c : AnnotationCounter) :
    (ms.forM (memberVisitor.visit d)).run c = .ok () (c.addMembers ms) :=
  run_forM_of_step (fun m c => run_visit (.ofMember d m) c) ms c

theorem run_visitBoth (d : JvmClass) (c : AnnotationCounter) :
    ((ClassVisitor.members memberVisitor).visit d).run c = .ok () (c.addMembers d.members) := by
  show (d.fields.forM (memberVisitor.visit d) >>= fun _ =>
    d.methods.forM (memberVisitor.visit d)).run c = _
  rw [EStateM.run_bind, run_visitMembers, JvmClass.members]
  refine (run_visitMembers d d.methods _).trans ?_
  rw [addMembers, addMembers, addMembers, List.foldl_append]

/-- A visitor of classes that shows the counter the same elements of each class as `shown`. -/
theorem run_visitClasses {v : ClassVisitor AnnotationCounter}
    {shown : JvmClass → List AttributeOwner}
    (hv : ∀ d c, (v.visit d).run c = .ok () (c.addAll (attributesOf (shown d))))
    (classes : List JvmClass) (c : AnnotationCounter) :
    (classes.forM v.visit).run c = .ok () (c.addAll (attributesOf (classes.flatMap shown))) := by
  rw [run_forM_of_step hv, addAll, attributesOf, List.flatMap_assoc, List.foldl_flatMap]
  rfl

/-- The counter after a reset, shown elements. -/
def tally (elements : List AttributeOwner) : AnnotationCounter :=
  reset {} |>.addAll (attributesOf elements)

/-- **Every annotation counts once**: whatever the counter has seen before it is reset, it counts
    the annotations of all classes, fields and methods that it is shown since, in total and for
    each parameter.  What several attributes or elements have adds up.  Order, retention, other
    attributes and the annotation that carries the metadata make no difference, and fields and
    methods add up to members. -/
theorem counts_every_annotation :
    (∀ (earlier : AnnotationCounter) elements,
      (elements.forM visit).run earlier.reset = .ok () (tally elements) ∧
      (tally elements).Counts (attributesOf elements)) ∧
    (∀ xs ys zs, attributesOf zs = attributesOf xs ++ attributesOf ys →
      (tally zs).IsSum (tally xs) (tally ys)) ∧
    (∀ xs ys, xs.Perm ys → tally xs = tally ys) ∧
    (∀ xs ys, ((attributesOf xs).filterMap (·.counted?)).Perm
        ((attributesOf ys).filterMap (·.counted?)) → tally xs = tally ys) ∧
    ∀ (earlier : AnnotationCounter) (classes : List JvmClass),
      (classes.forM classVisitor.visit).run earlier.reset =
        .ok () (tally (classes.map .ofClass)) ∧
      (classes.forM (ClassVisitor.fields memberVisitor).visit).run earlier.reset =
        .ok () (tally (membersOf (·.fields) classes)) ∧
      (classes.forM (ClassVisitor.methods memberVisitor).visit).run earlier.reset =
        .ok () (tally (membersOf (·.methods) classes)) ∧
      (classes.forM (ClassVisitor.members memberVisitor).visit).run earlier.reset =
        .ok () (tally (membersOf (·.members) classes)) ∧
      (tally (membersOf (·.members) classes)).IsSum
        (tally (membersOf (·.fields) classes))
        (tally (membersOf (·.methods) classes)) := by
  refine ⟨?_, ?_, ?_, ?_, ?_⟩
  · intro earlier elements
    exact ⟨run_visits elements _, counts_addAll _⟩
  · intro xs ys zs hattributes
    rw [tally, hattributes]
    exact isSum_append _ _
  · intro xs ys hperm
    exact addAll_congr _ ((hperm.flatMap_right _).filterMap _)
  · intro xs ys hseen
    exact addAll_congr _ hseen
  · intro earlier classes
    refine ⟨?_, ?_, ?_, ?_, ?_⟩
    · have hclass : ∀ d c, (classVisitor.visit d).run c =
          .ok () (c.addAll (attributesOf [.ofClass d])) := by
        intro d c
        rw [attributesOf, List.flatMap_singleton]
        exact run_visit (.ofClass d) c
      rw [← List.flatMap_pure_eq_map]
      exact run_visitClasses hclass classes _
    · exact run_visitClasses (fun d c => addMembers_eq c d _ ▸ run_visitMembers d _ c) classes _
    · exact run_visitClasses (fun d c => addMembers_eq c d _ ▸ run_visitMembers d _ c) classes _
    · exact run_visitClasses (fun d c => addMembers_eq c d _ ▸ run_visitBoth d c) classes _
    · rw [tally, addAll_congr _ ((attributesOf_members_perm classes).filterMap _)]
      exact isSum_append _ _

/-- An annotation that counts. -/
def mark : AnnotationEntry := { typeDescriptor := "La/Mark;" }

/-- The one that does not. -/
def metadataMark : AnnotationEntry := { typeDescriptor := AnnotationEntry.metadataDescriptor }

/-- A class with a mark of its own. -/
def markedClass : JvmClass :=
  { id := ⟨0⟩, name := "a/A", kind := .program
    attributes := [.annotations .visible [metadataMark, mark]] }

/-- A method with marks on its parameters, in two attributes of different lengths. -/
def markedMethod : Member :=
  { id := ⟨0⟩, kind := .method, name := "f", descriptor := "(III)V"
    attributes := [.parameterAnnotations .visible [[], [mark]],
      .parameterAnnotations .invisible [[mark], [metadataMark, mark], []]] }

/-- The method with its attributes turned round, kept for another time and with another one. -/
def markedMethodRewritten : Member :=
  { markedMethod with
    attributes := [.parameterAnnotations .visible [[mark], [mark], [metadataMark]],
      .other "Code", .parameterAnnotations .invisible [[], [mark]]] }

/-- The numbers of a class and a method together, and of the method by itself, which are the same
    for the rewritten one. -/
theorem counts_every_annotation_of_markedMethod :
    ∃ both method, (∀ earlier : AnnotationCounter,
        ([.ofClass markedClass, .ofMember markedClass markedMethod].forM visit).run earlier.reset =
          .ok () both) ∧
      (∀ earlier : AnnotationCounter,
        ([.ofMember markedClass markedMethodRewritten].forM visit).run earlier.reset =
          .ok () method) ∧
      both.count = 4 ∧ method.count = 3 ∧
      [both.parameterCount 0, both.parameterCount 1, both.parameterCount 9] = [1, 2, 0] ∧
      both.IsSum (tally [.ofClass markedClass]) method := by
  obtain ⟨hcounts, hsum, -, hsame, -⟩ := counts_every_annotation
  have hmethod := hsame [.ofMember markedClass markedMethod]
    [.ofMember markedClass markedMethodRewritten] (by decide)
  obtain ⟨-, hboth⟩ := hcounts {} [.ofClass markedClass, .ofMember markedClass markedMethod]
  refine ⟨_, tally [.ofMember markedClass markedMethod], fun earlier => (hcounts earlier _).1,
    fun earlier => ?_, ?_, ?_, ?_, ?_⟩
  · rw [hmethod]
    exact (hcounts earlier _).1
  · exact hboth.count.trans (by decide)
  · exact (hcounts {} _).2.count.trans (by decide)
  · rw [hboth.parameterCount, hboth.parameterCount, hboth.beyond 9 (by decide)]
    decide
  · exact hsum [.ofClass markedClass] [.ofMember markedClass markedMethod] _ rfl

end AnnotationCounter

end KotlinMetadata
