import KotlinMetadata.Proofs.FlagAccount
import KotlinMetadata.Proofs.Inspection

/-! # Several graphs at once

    Settling flags changes graphs, and the same graph may come up more than once: a later pass over
    it finds the flags that an earlier one has left, and may have fewer of them to write.  What
    becomes of the graphs, and how many flags are written in all, is still told by the entries in
    any order.  An inspection changes nothing, so that what it finds is told entry by entry.

    - `Settling.settle`: a pass over one graph of a family, which makes no difference to others;
    - `fixAll_eq_foldl`: several passes are these, for the entries whose class is in the pool;
    - `Config.inspectAll_eq`: an inspection of several graphs, as a list of inspections;
    - `batch_order_irrelevant`: neither depends on how the entries are ordered or divided.
-/

namespace KotlinMetadata

/-! ## Passes over a family -/

/-- A family of graphs with the number of flags that were written in it. -/
@[ext]
structure Settling (κ : Type) where
  /-- The graphs, as they are by now. -/
  graphs : κ → Metadata
  /-- The flags written so far, changed or not. -/
  written : Nat

section settling
variable {κ : Type} (pool : ClassPool)

/-- The graphs that a batch settles, once for each entry whose class is in the pool. -/
def settledKeys (entries : List (ClassId × κ)) : List κ :=
  (entries.filter fun e => (pool.class? e.1).isSome).map (·.2)

theorem mem_settledKeys {pool : ClassPool} {entries : List (ClassId × κ)} {key : κ} :
    key ∈ settledKeys pool entries ↔ ∃ id, (id, key) ∈ entries ∧ (pool.class? id).isSome := by
  simp [settledKeys]

variable [DecidableEq κ]

namespace Settling

/-- A pass over one graph of the family. -/
def settle (s : Settling κ) (key : κ) : Settling κ where
  graphs k := if k = key then (s.graphs key).mapFlags (FlagSite.truth pool) else s.graphs k
  written := s.written + ((s.graphs key).flagSites.map FlagSite.writes).sum

/-- Passes can change places: those over different graphs do not touch each other, and two over
    the same graph are the same. -/
theorem settle_right_comm (s : Settling κ) (a b : κ) :
    (s.settle pool a).settle pool b = (s.settle pool b).settle pool a := by
  by_cases hab : a = b
  · rw [hab]
  · have hb : (s.settle pool a).graphs b = s.graphs b := if_neg (Ne.symm hab)
    have ha : (s.settle pool b).graphs a = s.graphs a := if_neg hab
    refine Settling.ext (funext fun k => ?_) ?_
    · show (if k = b then ((s.settle pool a).graphs b).mapFlags _ else (s.settle pool a).graphs k) =
        if k = a then ((s.settle pool b).graphs a).mapFlags _ else (s.settle pool b).graphs k
      rw [ha, hb]
      by_cases hka : k = a
      · simp [settle, hka, hab]
      · simp [settle, hka]
    · show s.written + _ + (((s.settle pool a).graphs b).flagSites.map FlagSite.writes).sum =
        s.written + _ + (((s.settle pool b).graphs a).flagSites.map FlagSite.writes).sum
      rw [ha, hb, Nat.add_right_comm]

/-- Once there was a pass over a graph, it stays as it is. -/
theorem graphs_foldl_settle (keys : List κ) (s : Settling κ) (key : κ) :
    (keys.foldl (settle pool) s).graphs key =
      if key ∈ keys then (s.graphs key).mapFlags (FlagSite.truth pool) else s.graphs key := by
  induction keys generalizing s with
  | nil => simp
  | cons first keys ih =>
    rw [List.foldl_cons, ih]
    by_cases hkey : key = first
    · have hfirst : (s.settle pool first).graphs key =
          (s.graphs key).mapFlags (FlagSite.truth pool) := by
        rw [hkey]
        exact if_pos rfl
      rw [hfirst, Metadata.mapFlags_truth_twice, ite_self, if_pos (hkey ▸ List.mem_cons_self)]
    · have hother : (s.settle pool first).graphs key = s.graphs key := if_neg hkey
      simp only [hother, List.mem_cons, hkey, false_or]

end Settling

theorem fixAll_cons (graphs : κ → Metadata) (id : ClassId) (key : κ)
    (entries : List (ClassId × κ)) :
    fixAll pool graphs ((id, key) :: entries) =
      let first := (graphs key).fixFlags pool id
      let rest := fixAll pool (fun k => if k = key then first.1 else graphs k) entries
      (rest.1, first.2.append rest.2) :=
  rfl

/-- A batch comes to one pass for each entry whose class is in the pool. -/
theorem fixAll_eq_foldl (entries : List (ClassId × κ)) (s : Settling κ) :
    (⟨(fixAll pool s.graphs entries).1, s.written + (fixAll pool s.graphs entries).2.written⟩ :
      Settling κ) = (settledKeys pool entries).foldl (Settling.settle pool) s := by
  induction entries generalizing s with
  | nil => rfl
  | cons e entries ih =>
    obtain ⟨id, key⟩ := e
    cases hclass : pool.class? id with
    | none =>
      -- The entry is passed over, and its graph is put back as it was.
      have hsame : (fun k => if k = key then s.graphs key else s.graphs k) = s.graphs := by
        funext k
        by_cases hk : k = key
        · rw [if_pos hk, hk]
        · rw [if_neg hk]
      rw [settledKeys, List.filter_cons_of_neg (by simp [hclass])]
      refine Eq.trans ?_ (ih s)
      rw [fixAll_cons, (s.graphs key).fixFlags_of_absent hclass]
      simp only [hsame, FixReport.append, Nat.zero_add]
    | some c =>
      -- Which class of the pool it is makes no difference, only that there is one.
      rw [settledKeys, List.filter_cons_of_pos (by simp [hclass]), List.map_cons, List.foldl_cons]
      refine Eq.trans ?_ (ih (s.settle pool key))
      rw [fixAll_cons, Settling.settle, ← (s.graphs key).graph_fixFlags hclass,
        ← (s.graphs key).written_fixFlags hclass]
      simp only [FixReport.append, Nat.add_assoc]

/-- A graph ends as one pass leaves it, if the batch settles it at all. -/
theorem graph_fixAll (graphs : κ → Metadata) (entries : List (ClassId × κ)) (key : κ) :
    (fixAll pool graphs entries).1 key =
      if key ∈ settledKeys pool entries then (graphs key).mapFlags (FlagSite.truth pool)
      else graphs key := by
  have hfold := fixAll_eq_foldl pool entries ⟨graphs, 0⟩
  rw [← Settling.graphs_foldl_settle pool (settledKeys pool entries) ⟨graphs, 0⟩ key, ← hfold]

/-- In another order a batch comes to the same. -/
theorem fixAll_perm (graphs : κ → Metadata) {entries others : List (ClassId × κ)}
    (hperm : entries.Perm others) :
    (fixAll pool graphs entries).1 = (fixAll pool graphs others).1 ∧
      (fixAll pool graphs entries).2.written = (fixAll pool graphs others).2.written := by
  have hkeys : (settledKeys pool entries).Perm (settledKeys pool others) :=
    (hperm.filter _).map _
  have hsame := hkeys.foldl_eq' (f := Settling.settle pool)
    (fun a _ b _ s => s.settle_right_comm pool a b) ⟨graphs, 0⟩
  rw [← fixAll_eq_foldl, ← fixAll_eq_foldl] at hsame
  obtain ⟨hgraphs, hwritten⟩ := (Settling.mk.injEq ..).mp hsame
  exact ⟨hgraphs, Nat.add_left_cancel hwritten⟩

theorem fixAll_append (graphs : κ → Metadata) (xs ys : List (ClassId × κ)) :
    fixAll pool graphs (xs ++ ys) =
      ((fixAll pool (fixAll pool graphs xs).1 ys).1,
        (fixAll pool graphs xs).2.append (fixAll pool (fixAll pool graphs xs).1 ys).2) := by
  induction xs generalizing graphs with
  | nil => simp [fixAll, FixReport.append]
  | cons e xs ih =>
    obtain ⟨id, key⟩ := e
    simp only [List.cons_append, fixAll_cons, ih]
    simp only [FixReport.append, Nat.add_assoc, List.append_assoc]

end settling

/-! ## Inspections -/

/-- What each entry has by itself. -/
def Config.inspections (config : Config) (reporter : Reporter) (pool : ClassPool)
    (entries : List (ClassId × Metadata)) : List Inspection :=
  entries.map fun (id, m) => config.inspect reporter pool id m

/-- One outcome after another, for any number of them. -/
def Inspection.concat (is : List Inspection) : Inspection :=
  ⟨is.flatMap (·.violations), is.flatMap (·.events)⟩

theorem Inspection.foldl_append (is : List Inspection) (i : Inspection) :
    is.foldl append i = i.append (concat is) := by
  induction is generalizing i with
  | nil => simp [append, concat]
  | cons j is ih =>
    rw [List.foldl_cons, ih]
    simp only [append, concat, List.flatMap_cons, List.append_assoc]

theorem Inspection.count_concat (is : List Inspection) :
    (concat is).count = (is.map (·.count)).sum := by
  rw [count, concat, List.length_flatMap]
  rfl

/-- An inspection of several graphs is what each of them has by itself, one after the other. -/
theorem Config.inspectAll_eq (config : Config) (reporter : Reporter) (pool : ClassPool)
    (entries : List (ClassId × Metadata)) :
    config.inspectAll reporter pool entries =
      .concat (config.inspections reporter pool entries) := by
  have hfold := Inspection.foldl_append (config.inspections reporter pool entries) {}
  rw [Config.inspections, List.foldl_map] at hfold
  exact hfold

/-! ## Batches -/

/-- **Batches**: settling the flags of several graphs leaves each as a single pass does, if an
    entry for it names a class in the pool, and otherwise as it was.  In another order the same
    becomes of every graph, and as many flags are written.  In two batches one after the other
    the same becomes of every graph too, and what they write and report adds up.  An inspection of
    several graphs reports what each of them has by itself, entry by entry, and in another order
    the same outcomes in that order. -/
theorem batch_order_irrelevant {κ : Type} [DecidableEq κ] (pool : ClassPool)
    (graphs : κ → Metadata) (entries : List (ClassId × κ)) :
    (∀ id key, (id, key) ∈ entries → (pool.class? id).isSome →
      (fixAll pool graphs entries).1 key = ((graphs key).fixFlags pool id).1) ∧
    (∀ key, (∀ id, (id, key) ∈ entries → pool.class? id = none) →
      (fixAll pool graphs entries).1 key = graphs key) ∧
    (∀ others, entries.Perm others →
      (fixAll pool graphs entries).1 = (fixAll pool graphs others).1 ∧
      (fixAll pool graphs entries).2.written = (fixAll pool graphs others).2.written) ∧
    (∀ xs ys, entries = xs ++ ys →
      let first := fixAll pool graphs xs
      let second := fixAll pool first.1 ys
      (fixAll pool graphs entries).1 = second.1 ∧
      (fixAll pool graphs entries).2.written = first.2.written + second.2.written ∧
      (fixAll pool graphs entries).2.events = first.2.events ++ second.2.events) ∧
    ∀ (config : Config) (reporter : Reporter) (inspected : List (ClassId × Metadata)),
      let all := config.inspectAll reporter pool inspected
      let each := config.inspections reporter pool inspected
      all.violations = each.flatMap (·.violations) ∧ all.events = each.flatMap (·.events) ∧
      all.count = (each.map (·.count)).sum ∧
      ∀ others, inspected.Perm others →
        each.Perm (config.inspections reporter pool others) ∧
        all.violations.Perm (config.inspectAll reporter pool others).violations ∧
        all.count = (config.inspectAll reporter pool others).count := by
  refine ⟨?_, ?_, fun others hperm => fixAll_perm pool graphs hperm, ?_, ?_⟩
  · intro id key hmem hsome
    obtain ⟨c, hclass⟩ := Option.isSome_iff_exists.mp hsome
    rw [graph_fixAll, if_pos (mem_settledKeys.mpr ⟨id, hmem, hsome⟩),
      (graphs key).graph_fixFlags hclass]
  · intro key habsent
    rw [graph_fixAll, if_neg]
    intro hkey
    obtain ⟨id, hmem, hsome⟩ := mem_settledKeys.mp hkey
    rw [habsent id hmem] at hsome
    exact absurd hsome nofun
  · rintro xs ys rfl first second
    rw [fixAll_append]
    exact ⟨rfl, rfl, rfl⟩
  · intro config reporter inspected all each
    have hall : all = .concat each := config.inspectAll_eq reporter pool inspected
    refine ⟨congrArg Inspection.violations hall, congrArg Inspection.events hall, ?_, ?_⟩
    · rw [hall, Inspection.count_concat]
    · intro others hperm
      have heach : each.Perm (config.inspections reporter pool others) := hperm.map _
      have hviolations := heach.flatMap_right (·.violations)
      rw [hall, config.inspectAll_eq reporter pool others]
      exact ⟨heach, hviolations, hviolations.length_eq⟩

/-- The same graph under two keys. -/
def twoGraphs (_ : Bool) : Metadata := annotationGraph

/-- One of them is settled twice, and the class of the other is not in the pool. -/
def repeatedBatch : List (ClassId × Bool) := [(⟨0⟩, true), (⟨9⟩, false), (⟨0⟩, true)]

/-- Ten flags and then nine are written, whatever comes in between. -/
theorem batch_order_irrelevant_of_repeatedBatch :
    let batch := fixAll annotatedMethodPool twoGraphs repeatedBatch
    let reordered := fixAll annotatedMethodPool twoGraphs [(⟨9⟩, false), (⟨0⟩, true), (⟨0⟩, true)]
    let one := fixAll annotatedMethodPool twoGraphs [(⟨0⟩, true)]
    batch.1 true = (annotationGraph.fixFlags annotatedMethodPool ⟨0⟩).1 ∧
    batch.1 false = annotationGraph ∧
    batch.1 = reordered.1 ∧ batch.2.written = reordered.2.written ∧
    one.2.written = 10 ∧ batch.2.written = 19 ∧
    ∀ config : Config, ∀ reporter,
      (config.inspectAll reporter annotatedMethodPool
        [(⟨0⟩, annotationGraph), (⟨9⟩, annotationGraph)]).count =
      (config.inspectAll reporter annotatedMethodPool
        [(⟨9⟩, annotationGraph), (⟨0⟩, annotationGraph)]).count := by
  intro batch reordered one
  obtain ⟨hsettled, habsent, hperm, -, hinspected⟩ :=
    batch_order_irrelevant annotatedMethodPool twoGraphs repeatedBatch
  obtain ⟨hgraphs, hwritten⟩ := hperm [(⟨9⟩, false), (⟨0⟩, true), (⟨0⟩, true)] (by decide)
  refine ⟨hsettled ⟨0⟩ true (by decide) rfl, ?_, hgraphs, hwritten, by decide, by decide, ?_⟩
  · refine habsent false fun id hid => ?_
    have hnine : id = ⟨9⟩ := by simpa [repeatedBatch] using hid
    rw [hnine]
    rfl
  · intro config reporter
    obtain ⟨-, -, -, hothers⟩ := hinspected config reporter
      [(⟨0⟩, annotationGraph), (⟨9⟩, annotationGraph)]
    exact (hothers _ (.swap ..)).2.2

end KotlinMetadata
