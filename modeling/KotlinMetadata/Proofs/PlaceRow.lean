import Mathlib.Data.List.Basic
import KotlinMetadata.Pattern.Match

/-! # Rows of places

    A search goes from one row of places of a text to the next.  What it finds is told by conditions
    on stretches: a function on rows follows a condition if it leads from the places of a row along
    the stretches that meet the condition, and nowhere else.

    - `StretchCondition`: a condition on a stretch, given what stands before and behind it, with
      sequence (`andThen`) and repetition (`times`, `upTo`, `many`);
    - `Place.Leads`: a stretch from one place to another meets a condition;
    - `Row`, `Place.Follows`: rows, and functions on rows that follow a condition;
    - `Follows.sweep`, `Follows.upTo`, `Follows.many`: the search for repetitions settles one place
      after another, and leaves nothing out.
-/

namespace KotlinMetadata

/-! ## Conditions on stretches -/

/-- A condition on a stretch of text, given what stands before it, the stretch and what stands
    behind it. -/
abbrev StretchCondition := List Char → List Char → List Char → Prop

namespace StretchCondition

/-- The stretch is empty. -/
def isEmpty : StretchCondition := fun _ stretch _ => stretch = []

/-- A stretch that meets one condition with one behind it that meets another. -/
def andThen (first second : StretchCondition) : StretchCondition := fun front stretch back =>
  ∃ left right, stretch = left ++ right ∧ first front left (right ++ back) ∧
    second (front ++ left) right back

/-- So many stretches one after another. -/
def times (condition : StretchCondition) : Nat → StretchCondition
  | 0 => isEmpty
  | n + 1 => condition.andThen (condition.times n)

/-- At most so many stretches one after another. -/
def upTo (condition : StretchCondition) (n : Nat) : StretchCondition := fun front stretch back =>
  ∃ k ≤ n, condition.times k front stretch back

/-- Any number of stretches one after another. -/
def many (condition : StretchCondition) : StretchCondition := fun front stretch back =>
  ∃ k, condition.times k front stretch back

variable {first second third condition : StretchCondition}

theorem isEmpty_andThen : isEmpty.andThen condition = condition := by
  funext front stretch back
  simp [andThen, isEmpty]

theorem andThen_isEmpty : condition.andThen isEmpty = condition := by
  funext front stretch back
  simp [andThen, isEmpty]

theorem andThen_assoc :
    (first.andThen second).andThen third = first.andThen (second.andThen third) := by
  funext front stretch back
  refine propext ⟨?_, ?_⟩
  · intro h
    obtain ⟨_, right, rfl, ⟨left, middle, rfl, hfirst, hsecond⟩, hthird⟩ := h
    refine ⟨left, middle ++ right, by simp, by simpa using hfirst, middle, right, rfl, hsecond, ?_⟩
    simpa using hthird
  · intro h
    obtain ⟨left, _, rfl, hfirst, middle, right, rfl, hsecond, hthird⟩ := h
    refine ⟨left ++ middle, right, by simp, ⟨left, middle, rfl, ?_, hsecond⟩, ?_⟩
    · simpa using hfirst
    · simpa using hthird

theorem times_add (condition : StretchCondition) (m n : Nat) :
    condition.times (m + n) = (condition.times m).andThen (condition.times n) := by
  induction m with
  | zero => rw [Nat.zero_add, times, isEmpty_andThen]
  | succ m ih => rw [Nat.succ_add, times, times, ih, andThen_assoc]

theorem times_andThen_upTo {m n : Nat} {front stretch back : List Char} :
    ((condition.times m).andThen (condition.upTo n)) front stretch back ↔
      ∃ k, m ≤ k ∧ k ≤ m + n ∧ condition.times k front stretch back := by
  constructor
  · intro hall
    obtain ⟨left, right, hstretch, hleft, k, hk, hright⟩ := hall
    refine ⟨m + k, Nat.le_add_right m k, Nat.add_le_add_left hk m, ?_⟩
    rw [times_add]
    exact ⟨left, right, hstretch, hleft, hright⟩
  · intro hall
    obtain ⟨k, hle, hk, h⟩ := hall
    obtain ⟨k, rfl⟩ := Nat.exists_eq_add_of_le hle
    rw [times_add] at h
    obtain ⟨left, right, hstretch, hleft, hright⟩ := h
    exact ⟨left, right, hstretch, hleft, k, Nat.le_of_add_le_add_left hk, hright⟩

theorem times_andThen_many {m : Nat} {front stretch back : List Char} :
    ((condition.times m).andThen condition.many) front stretch back ↔
      ∃ k, m ≤ k ∧ condition.times k front stretch back := by
  constructor
  · intro hall
    obtain ⟨left, right, hstretch, hleft, k, hright⟩ := hall
    refine ⟨m + k, Nat.le_add_right m k, ?_⟩
    rw [times_add]
    exact ⟨left, right, hstretch, hleft, hright⟩
  · intro hall
    obtain ⟨k, hle, h⟩ := hall
    obtain ⟨k, rfl⟩ := Nat.exists_eq_add_of_le hle
    rw [times_add] at h
    obtain ⟨left, right, hstretch, hleft, hright⟩ := h
    exact ⟨left, right, hstretch, hleft, k, hright⟩

/-- Empty stretches can be left out, so no more are needed than the whole has characters. -/
theorem many_iff_upTo {front stretch back : List Char} :
    condition.many front stretch back ↔ condition.upTo stretch.length front stretch back := by
  constructor
  · intro hall
    obtain ⟨k, h⟩ := hall
    induction k generalizing front stretch with
    | zero => exact ⟨0, Nat.zero_le _, h⟩
    | succ k ih =>
      obtain ⟨left, right, rfl, hleft, hright⟩ := h
      obtain ⟨j, hj, hrest⟩ := ih hright
      -- An empty stretch is left out; any other takes up a character of the whole.
      rcases left with _ | ⟨c, left⟩
      · rw [List.append_nil] at hrest
        exact ⟨j, hj, hrest⟩
      · refine ⟨j + 1, ?_, c :: left, right, rfl, hleft, hrest⟩
        rw [List.length_append, List.length_cons]
        omega
  · intro hall
    obtain ⟨k, -, h⟩ := hall
    exact ⟨k, h⟩

end StretchCondition

/-! ## Places and stretches -/

namespace Place

/-- The place between two parts of a text. -/
def between (front back : List Char) : Place where
  index := front.length
  before := front.getLast?
  rest := back

/-- A place of a text. -/
def In (cs : List Char) (p : Place) : Prop :=
  ∃ front back, cs = front ++ back ∧ p = between front back

/-- A stretch of a text from one place to another meets a condition. -/
def Leads (cs : List Char) (condition : StretchCondition) (a b : Place) : Prop :=
  ∃ front stretch back, cs = front ++ stretch ++ back ∧ a = between front (stretch ++ back) ∧
    b = between (front ++ stretch) back ∧ condition front stretch back

variable {cs : List Char} {condition first second : StretchCondition} {a b c : Place}

theorem In.eq_of_index (ha : a.In cs) (hb : b.In cs) (h : a.index = b.index) : a = b := by
  obtain ⟨front, back, hcs, rfl⟩ := ha
  obtain ⟨front', back', hcs', rfl⟩ := hb
  obtain ⟨rfl, rfl⟩ := List.append_inj (hcs.symm.trans hcs') h
  rfl

theorem Leads.left (h : Leads cs condition a b) : a.In cs := by
  obtain ⟨front, stretch, back, rfl, rfl, -, -⟩ := h
  exact ⟨front, stretch ++ back, List.append_assoc _ _ _, rfl⟩

theorem Leads.right (h : Leads cs condition a b) : b.In cs := by
  obtain ⟨front, stretch, back, rfl, -, rfl, -⟩ := h
  exact ⟨front ++ stretch, back, rfl, rfl⟩

theorem Leads.index_le (h : Leads cs condition a b) : a.index ≤ b.index := by
  obtain ⟨front, stretch, back, rfl, rfl, rfl, -⟩ := h
  simp [between]

theorem Leads.mono (h : Leads cs first a b)
    (himp : ∀ front stretch back, first front stretch back → second front stretch back) :
    Leads cs second a b := by
  obtain ⟨front, stretch, back, hcs, ha, hb, hfirst⟩ := h
  exact ⟨front, stretch, back, hcs, ha, hb, himp _ _ _ hfirst⟩

theorem leads_isEmpty_iff : Leads cs .isEmpty a b ↔ a.In cs ∧ b = a := by
  constructor
  · intro h
    have hin := h.left
    obtain ⟨front, stretch, back, rfl, rfl, rfl, rfl⟩ := h
    exact ⟨hin, by simp⟩
  · intro hall
    obtain ⟨⟨front, back, rfl, rfl⟩, rfl⟩ := hall
    exact ⟨front, [], back, by simp, rfl, by simp, rfl⟩

theorem leads_andThen_iff :
    Leads cs (first.andThen second) a b ↔ ∃ c, Leads cs first a c ∧ Leads cs second c b := by
  constructor
  · intro h
    obtain ⟨front, stretch, back, rfl, rfl, rfl, left, right, rfl, hfirst, hsecond⟩ := h
    exact ⟨between (front ++ left) (right ++ back),
      ⟨front, left, right ++ back, by simp, by simp, rfl, hfirst⟩,
      ⟨front ++ left, right, back, by simp, rfl, by simp, hsecond⟩⟩
  · intro h
    obtain ⟨c, ⟨front, left, back, hcs, rfl, rfl, hfirst⟩, front', right, back', hcs', hc, rfl,
      hsecond⟩ := h
    -- The two stretches meet at one place, so the same text stands before it in both.
    have hlength : (front ++ left).length = front'.length := congrArg Place.index hc
    have happend : front ++ left ++ back = front' ++ (right ++ back') := by
      rw [← hcs, hcs', List.append_assoc]
    obtain ⟨rfl, rfl⟩ := List.append_inj happend hlength
    exact ⟨front, left ++ right, back', by simp [hcs'], by simp, by simp, left, right, rfl,
      hfirst, hsecond⟩

/-! ## Rows of places -/

/-- Places of a text in its order, without repetitions. -/
structure Row (cs : List Char) (ps : List Place) : Prop where
  sorted : ps.Pairwise fun a b => a.index < b.index
  valid : ∀ a ∈ ps, a.In cs

theorem row_nil : Row cs [] := ⟨.nil, fun _ h => nomatch h⟩

theorem row_cons_iff {ps : List Place} :
    Row cs (a :: ps) ↔ a.In cs ∧ (∀ b ∈ ps, a.index < b.index) ∧ Row cs ps := by
  constructor
  · intro h
    obtain ⟨hsorted, hvalid⟩ := h
    obtain ⟨hbefore, hrest⟩ := List.pairwise_cons.mp hsorted
    exact ⟨hvalid a (List.mem_cons_self ..), hbefore, hrest,
      fun b hb => hvalid b (List.mem_cons_of_mem a hb)⟩
  · intro h
    obtain ⟨ha, hbefore, hsorted, hvalid⟩ := h
    exact ⟨List.pairwise_cons.mpr ⟨hbefore, hsorted⟩, List.forall_mem_cons.mpr ⟨ha, hvalid⟩⟩

theorem row_singleton (ha : a.In cs) : Row cs [a] :=
  row_cons_iff.mpr ⟨ha, (fun _ h => nomatch h), row_nil⟩

theorem Row.sublist {ps qs : List Place} (h : Row cs qs) (hsub : ps.Sublist qs) : Row cs ps :=
  ⟨h.sorted.sublist hsub, fun a ha => h.valid a (hsub.subset ha)⟩

theorem mem_merge {ps qs : List Place} (hps : ∀ a ∈ ps, a.In cs) (hqs : ∀ a ∈ qs, a.In cs) :
    a ∈ merge ps qs ↔ a ∈ ps ∨ a ∈ qs := by
  induction ps generalizing qs with
  | nil => simp [merge]
  | cons p ps ih =>
    obtain ⟨hp, hps⟩ := List.forall_mem_cons.mp hps
    rw [merge]
    -- The second list is gone through while the first place of the first one waits.
    induction qs with
    | nil => simp [insertThen, ih hps]
    | cons q qs ihq =>
      obtain ⟨hq, hqs'⟩ := List.forall_mem_cons.mp hqs
      rw [insertThen]
      split
      · simp only [List.mem_cons, ihq hqs']
        exact or_left_comm
      · split
        · next hindex =>
          rw [hq.eq_of_index hp hindex, List.mem_cons, ih hps hqs', List.mem_cons, List.mem_cons]
          exact or_or_distrib_left
        · simp only [List.mem_cons, ih hps hqs]
          exact or_assoc.symm

theorem row_merge {ps qs : List Place} (hps : Row cs ps) (hqs : Row cs qs) :
    Row cs (merge ps qs) := by
  induction ps generalizing qs with
  | nil => exact hqs
  | cons p ps ih =>
    have hall := hps.valid
    obtain ⟨hp, hbefore, hps⟩ := row_cons_iff.mp hps
    rw [merge]
    induction qs with
    | nil =>
      rw [insertThen, row_cons_iff]
      refine ⟨hp, fun b hb => ?_, ih hps row_nil⟩
      rw [mem_merge hps.valid row_nil.valid] at hb
      exact hbefore b (hb.resolve_right (List.not_mem_nil))
    | cons q qs ihq =>
      have hqall := hqs.valid
      obtain ⟨hq, hqbefore, hqs'⟩ := row_cons_iff.mp hqs
      rw [insertThen]
      split
      · next hindex =>
        refine row_cons_iff.mpr ⟨hq, fun b hb => ?_, ihq hqs'⟩
        have hmem : b ∈ p :: ps ∨ b ∈ qs := (mem_merge hall hqs'.valid).mp hb
        rcases hmem with hb | hb
        · rcases List.mem_cons.mp hb with rfl | hb
          · exact hindex
          · exact Nat.lt_trans hindex (hbefore b hb)
        · exact hqbefore b hb
      · split
        · next hindex =>
          refine row_cons_iff.mpr ⟨hp, fun b hb => ?_, ih hps hqs'⟩
          rcases (mem_merge hps.valid hqs'.valid).mp hb with hb | hb
          · exact hbefore b hb
          · exact hindex ▸ hqbefore b hb
        · next hless hne =>
          have hindex : p.index < q.index := by omega
          refine row_cons_iff.mpr ⟨hp, fun b hb => ?_, ih hps hqs⟩
          rcases (mem_merge hps.valid hqall).mp hb with hb | hb
          · exact hbefore b hb
          · rcases List.mem_cons.mp hb with rfl | hb
            · exact hindex
            · exact Nat.lt_trans hindex (hqbefore b hb)

/-! ## Functions on rows -/

/-- A function on rows leads from the places of a row along the stretches that meet a condition. -/
structure Follows (cs : List Char) (condition : StretchCondition) (f : List Place → List Place) :
    Prop where
  row : ∀ {ps}, Row cs ps → Row cs (f ps)
  mem : ∀ {ps b}, Row cs ps → (b ∈ f ps ↔ ∃ a ∈ ps, Leads cs condition a b)

/-- A step from each place alone along a stretch of a fixed length. -/
theorem follows_filterMap {next : Place → Option Place} (width : Nat)
    (hnext : ∀ {a b}, a.In cs → (next a = some b ↔ Leads cs condition a b))
    (hwidth : ∀ {front stretch back}, condition front stretch back → stretch.length = width) :
    Follows cs condition (List.filterMap next) where
  row := by
    intro ps hps
    have hindex {a b : Place} (ha : a ∈ ps) (hab : next a = some b) :
        b.index = a.index + width := by
      obtain ⟨front, stretch, back, -, rfl, rfl, h⟩ := (hnext (hps.valid a ha)).mp hab
      rw [← hwidth h]
      exact List.length_append
    constructor
    · refine List.pairwise_filterMap.mpr (hps.sorted.imp_of_mem ?_)
      intro a a' ha ha' hbefore b hb b' hb'
      rw [hindex ha hb, hindex ha' hb']
      exact Nat.add_lt_add_right hbefore width
    · intro b hb
      obtain ⟨a, ha, hab⟩ := List.mem_filterMap.mp hb
      exact ((hnext (hps.valid a ha)).mp hab).right
  mem := by
    intro ps b hps
    rw [List.mem_filterMap]
    exact exists_congr fun a => and_congr_right fun ha => hnext (hps.valid a ha)

theorem follows_isEmpty : Follows cs .isEmpty id where
  row := fun h => h
  mem := by
    intro ps b hps
    constructor
    · intro hb
      exact ⟨b, hb, leads_isEmpty_iff.mpr ⟨hps.valid b hb, rfl⟩⟩
    · intro hall
      obtain ⟨a, ha, hab⟩ := hall
      obtain ⟨-, rfl⟩ := leads_isEmpty_iff.mp hab
      exact ha

variable {f g : List Place → List Place}

theorem Follows.congr (hf : Follows cs first f)
    (h : ∀ front stretch back, first front stretch back ↔ second front stretch back) :
    Follows cs second f where
  row := hf.row
  mem := by
    intro ps b hps
    rw [hf.mem hps]
    refine exists_congr fun a => and_congr_right fun _ => ⟨fun hab => ?_, fun hab => ?_⟩
    · exact hab.mono fun _ _ _ => (h _ _ _).mp
    · exact hab.mono fun _ _ _ => (h _ _ _).mpr

theorem Follows.andThen (hf : Follows cs first f) (hg : Follows cs second g) :
    Follows cs (first.andThen second) fun ps => g (f ps) where
  row := fun hps => hg.row (hf.row hps)
  mem := by
    intro ps b hps
    rw [hg.mem (hf.row hps)]
    constructor
    · intro h
      obtain ⟨c, hc, hcb⟩ := h
      obtain ⟨a, ha, hac⟩ := (hf.mem hps).mp hc
      exact ⟨a, ha, leads_andThen_iff.mpr ⟨c, hac, hcb⟩⟩
    · intro h
      obtain ⟨a, ha, hab⟩ := h
      obtain ⟨c, hac, hcb⟩ := leads_andThen_iff.mp hab
      exact ⟨c, (hf.mem hps).mpr ⟨a, ha, hac⟩, hcb⟩

theorem Follows.orElse (hf : Follows cs first f) (hg : Follows cs second g) :
    Follows cs (fun front stretch back => first front stretch back ∨ second front stretch back)
      fun ps => merge (f ps) (g ps) where
  row := fun hps => row_merge (hf.row hps) (hg.row hps)
  mem := by
    intro ps b hps
    rw [mem_merge (hf.row hps).valid (hg.row hps).valid, hf.mem hps, hg.mem hps]
    constructor
    · intro h
      rcases h with ⟨a, ha, hab⟩ | ⟨a, ha, hab⟩
      · exact ⟨a, ha, hab.mono fun _ _ _ => .inl⟩
      · exact ⟨a, ha, hab.mono fun _ _ _ => .inr⟩
    · intro h
      obtain ⟨a, ha, front, stretch, back, hcs, hfront, hb, hfirst | hsecond⟩ := h
      · exact .inl ⟨a, ha, front, stretch, back, hcs, hfront, hb, hfirst⟩
      · exact .inr ⟨a, ha, front, stretch, back, hcs, hfront, hb, hsecond⟩

theorem Follows.times (hf : Follows cs condition f) (n : Nat) :
    Follows cs (condition.times n) (times f n) := by
  induction n with
  | zero => exact follows_isEmpty
  | succ n ih =>
    have hstep := hf.andThen ih
    -- The model stops where no place is left; a function that follows a condition finds none there.
    have hnil : f [] = [] := by
      refine List.eq_nil_iff_forall_not_mem.mpr fun b hb => ?_
      obtain ⟨a, ha, -⟩ := (hf.mem row_nil).mp hb
      exact absurd ha (List.not_mem_nil)
    have heq : Place.times f (n + 1) = fun ps => Place.times f n (f ps) := by
      funext ps
      cases ps with
      | nil =>
        show [] = Place.times f n (f [])
        rw [hnil]
        cases n <;> rfl
      | cons p ps => rfl
    rw [heq]
    exact hstep

/-! ## Bounded repetition -/

theorem mergeBudgets_places (xs ys : List (Place × Nat)) :
    (mergeBudgets xs ys).map Prod.fst = merge (xs.map Prod.fst) (ys.map Prod.fst) := by
  induction xs generalizing ys with
  | nil => rfl
  | cons x xs ih =>
    rw [mergeBudgets, List.map_cons, merge]
    induction ys with
    | nil => simp [insertBudget, insertThen, ih]
    | cons y ys ihy =>
      rw [insertBudget, List.map_cons, insertThen]
      split
      · rw [List.map_cons, ihy]
      · split
        · rw [List.map_cons, ih]
        · rw [List.map_cons, ih, List.map_cons]

theorem leads_upTo_iff {n : Nat} :
    Leads cs (condition.upTo n) a b ↔ ∃ k ≤ n, Leads cs (condition.times k) a b := by
  constructor
  · intro hall
    obtain ⟨front, stretch, back, hcs, ha, hb, k, hk, h⟩ := hall
    exact ⟨k, hk, front, stretch, back, hcs, ha, hb, h⟩
  · intro hall
    obtain ⟨k, hk, front, stretch, back, hcs, ha, hb, h⟩ := hall
    exact ⟨front, stretch, back, hcs, ha, hb, k, hk, h⟩

theorem leads_upTo_zero_iff (ha : a.In cs) : Leads cs (condition.upTo 0) a b ↔ b = a := by
  rw [leads_upTo_iff]
  constructor
  · intro hall
    obtain ⟨k, hk, h⟩ := hall
    obtain rfl : k = 0 := Nat.le_zero.mp hk
    exact (leads_isEmpty_iff.mp h).2
  · intro hb
    exact ⟨0, Nat.le_refl 0, leads_isEmpty_iff.mpr ⟨ha, hb⟩⟩

/-- The first step of a repetition that matters is one that leads on. -/
theorem leads_upTo_succ_iff {n : Nat} (ha : a.In cs) :
    Leads cs (condition.upTo (n + 1)) a b ↔
      b = a ∨
        ∃ c, Leads cs condition a c ∧ a.index < c.index ∧ Leads cs (condition.upTo n) c b := by
  simp only [leads_upTo_iff]
  constructor
  · intro hall
    obtain ⟨k, hk, h⟩ := hall
    induction k with
    | zero => exact .inl (leads_isEmpty_iff.mp h).2
    | succ k ih =>
      obtain ⟨c, hac, hcb⟩ := leads_andThen_iff.mp h
      by_cases hindex : a.index < c.index
      · exact .inr ⟨c, hac, hindex, k, Nat.le_of_succ_le_succ hk, hcb⟩
      · -- A step that does not lead on is empty, and the repetition does without it.
        have hle := hac.index_le
        obtain rfl : a = c := ha.eq_of_index hac.right (by omega)
        exact ih (Nat.le_of_succ_le hk) hcb
  · intro hall
    rcases hall with rfl | ⟨c, hac, -, k, hk, hcb⟩
    · exact ⟨0, Nat.zero_le _, leads_isEmpty_iff.mpr ⟨ha, rfl⟩⟩
    · exact ⟨k + 1, Nat.succ_le_succ hk, leads_andThen_iff.mpr ⟨c, hac, hcb⟩⟩

theorem Leads.upTo_mono {n m : Nat} (h : Leads cs (condition.upTo n) a b) (hle : n ≤ m) :
    Leads cs (condition.upTo m) a b :=
  h.mono fun _ _ _ ⟨k, hk, htimes⟩ => ⟨k, Nat.le_trans hk hle, htimes⟩

/-- One of several places leads on to a place within its number of steps. -/
def Settles (cs : List Char) (condition : StretchCondition) (xs : List (Place × Nat)) (b : Place) :
    Prop :=
  ∃ x ∈ xs, Leads cs (condition.upTo x.2) x.1 b

theorem settles_cons_iff {x : Place × Nat} {xs : List (Place × Nat)} :
    Settles cs condition (x :: xs) b ↔
      Leads cs (condition.upTo x.2) x.1 b ∨ Settles cs condition xs b :=
  List.exists_mem_cons_iff _ _ _

theorem settles_map_iff {ps : List Place} {n : Nat} :
    Settles cs condition (ps.map fun q => (q, n)) b ↔
      ∃ a ∈ ps, Leads cs (condition.upTo n) a b := by
  constructor
  · intro h
    obtain ⟨x, hx, hxb⟩ := h
    obtain ⟨q, hq, rfl⟩ := List.mem_map.mp hx
    exact ⟨q, hq, hxb⟩
  · intro h
    obtain ⟨q, hq, hqb⟩ := h
    exact ⟨(q, n), List.mem_map_of_mem hq, hqb⟩

/-- Of a place in both lists the greater number of steps is kept, so nothing that one of the lists
    leads to is lost. -/
theorem settles_mergeBudgets_iff {xs ys : List (Place × Nat)} (hxs : ∀ x ∈ xs, x.1.In cs)
    (hys : ∀ y ∈ ys, y.1.In cs) :
    Settles cs condition (mergeBudgets xs ys) b ↔
      Settles cs condition xs b ∨ Settles cs condition ys b := by
  have hnil : ¬ Settles cs condition [] b := fun ⟨_, hx, _⟩ => nomatch hx
  induction xs generalizing ys with
  | nil => exact (or_iff_right hnil).symm
  | cons x xs ih =>
    obtain ⟨hx, hxs⟩ := List.forall_mem_cons.mp hxs
    rw [mergeBudgets]
    induction ys with
    | nil => simp only [insertBudget, settles_cons_iff, ih hxs hys, or_assoc]
    | cons y ys ihy =>
      obtain ⟨hy, hys'⟩ := List.forall_mem_cons.mp hys
      rw [insertBudget]
      split
      · simp only [settles_cons_iff, ihy hys']
        exact or_left_comm
      · split
        · next hindex =>
          have hmax : Leads cs (condition.upTo (max x.2 y.2)) x.1 b ↔
              Leads cs (condition.upTo x.2) x.1 b ∨ Leads cs (condition.upTo y.2) y.1 b := by
            rw [hy.eq_of_index hx hindex]
            constructor
            · intro h
              rcases Nat.le_total x.2 y.2 with hle | hle
              · exact .inr (Nat.max_eq_right hle ▸ h)
              · exact .inl (Nat.max_eq_left hle ▸ h)
            · intro hall
              rcases hall with h | h
              · exact h.upTo_mono (Nat.le_max_left _ _)
              · exact h.upTo_mono (Nat.le_max_right _ _)
          simp only [settles_cons_iff, ih hxs hys', hmax]
          exact or_or_or_comm
        · simp only [settles_cons_iff, ih hxs hys]
          exact or_assoc.symm

theorem In.index_add_rest (ha : a.In cs) : a.index + a.rest.length = cs.length := by
  obtain ⟨front, back, rfl, rfl⟩ := ha
  simp [between]

/-- The further on a place is, the less stands behind it. -/
theorem In.rest_lt (ha : a.In cs) (hb : b.In cs) (h : a.index < b.index) :
    b.rest.length < a.rest.length := by
  have hafter := ha.index_add_rest
  have hafter' := hb.index_add_rest
  omega

theorem Row.rest_le {p : Place} {ps : List Place} (h : Row cs (p :: ps)) :
    ∀ q ∈ p :: ps, q.rest.length ≤ p.rest.length := by
  intro q hq
  obtain ⟨hp, hbefore, hps⟩ := row_cons_iff.mp h
  rcases List.mem_cons.mp hq with rfl | hq
  · exact Nat.le_refl _
  · exact Nat.le_of_lt (hp.rest_lt (hps.valid q hq) (hbefore q hq))

/-- The places behind a place that a step from it leads to. -/
def behind (f : List Place → List Place) (p : Place) : List Place :=
  (f [p]).filter fun q => p.index < q.index

theorem Follows.behind_row (hf : Follows cs condition f) (ha : a.In cs) : Row cs (behind f a) :=
  (hf.row (row_singleton ha)).sublist List.filter_sublist

theorem Follows.mem_behind_iff (hf : Follows cs condition f) (ha : a.In cs) :
    b ∈ behind f a ↔ Leads cs condition a b ∧ a.index < b.index := by
  rw [behind, List.mem_filter, hf.mem (row_singleton ha), decide_eq_true_eq]
  simp only [List.mem_singleton, exists_eq_left]

theorem Row.place_in {xs : List (Place × Nat)} (h : Row cs (xs.map Prod.fst)) {x : Place × Nat}
    (hx : x ∈ xs) : x.1.In cs :=
  h.valid _ (List.mem_map_of_mem hx)

/-- The sweep settles the places of a row one by one: it finds what can be reached from each within
    its number of steps. -/
theorem Follows.sweep (hf : Follows cs condition f) {rounds : Nat} {xs : List (Place × Nat)}
    (hrow : Row cs (xs.map Prod.fst)) (hrounds : ∀ x ∈ xs, x.1.rest.length < rounds) :
    Row cs (sweep f rounds xs) ∧
      ∀ b, b ∈ sweep f rounds xs ↔ Settles cs condition xs b := by
  induction rounds generalizing xs with
  | zero =>
    have hnil : xs = [] :=
      List.eq_nil_iff_forall_not_mem.mpr fun x hx => absurd (hrounds x hx) (Nat.not_lt_zero _)
    subst hnil
    exact ⟨row_nil, fun b => by simp [Place.sweep, Settles]⟩
  | succ rounds ih =>
    rcases xs with _ | ⟨⟨p, budget⟩, xs⟩
    · exact ⟨row_nil, fun b => by simp [Place.sweep, Settles]⟩
    · obtain ⟨hp, hbefore, hxs⟩ := row_cons_iff.mp hrow
      -- What is left to settle lies behind the first place, so one round less is enough for it.
      have hmore {ys : List (Place × Nat)} (hys : Row cs (ys.map Prod.fst))
          (hbehind : ∀ a ∈ ys.map Prod.fst, p.index < a.index) :
          Row cs (p :: Place.sweep f rounds ys) ∧ ∀ b, b ∈ p :: Place.sweep f rounds ys ↔
            b = p ∨ Settles cs condition ys b := by
        have hshort : ∀ y ∈ ys, y.1.rest.length < rounds := by
          intro y hy
          have hrest := hp.rest_lt (hys.place_in hy) (hbehind _ (List.mem_map_of_mem hy))
          exact Nat.lt_of_lt_of_le hrest (Nat.le_of_lt_succ (hrounds _ (List.mem_cons_self ..)))
        obtain ⟨hrest, hmem⟩ := ih hys hshort
        refine ⟨row_cons_iff.mpr ⟨hp, fun b hb => ?_, hrest⟩, fun b => ?_⟩
        · obtain ⟨y, hy, hyb⟩ := (hmem b).mp hb
          exact Nat.lt_of_lt_of_le (hbehind _ (List.mem_map_of_mem hy)) hyb.index_le
        · rw [List.mem_cons, hmem b]
      cases budget with
      | zero =>
        obtain ⟨hresult, hmem⟩ := hmore hxs hbefore
        refine ⟨hresult, fun b => (hmem b).trans ?_⟩
        rw [settles_cons_iff, leads_upTo_zero_iff hp]
      | succ budget =>
        -- Only the places behind `p` go on, each with one step less.
        let next := (behind f p).map fun q => (q, budget)
        have hplaces : next.map Prod.fst = behind f p := by
          rw [List.map_map]
          exact List.map_id (behind f p)
        have hnext : Row cs (next.map Prod.fst) := hplaces ▸ hf.behind_row hp
        have hmerged : Row cs ((mergeBudgets next xs).map Prod.fst) := by
          rw [mergeBudgets_places]
          exact row_merge hnext hxs
        have hbehind : ∀ a ∈ (mergeBudgets next xs).map Prod.fst, p.index < a.index := by
          intro a ha
          rw [mergeBudgets_places, mem_merge hnext.valid hxs.valid, hplaces] at ha
          rcases ha with ha | ha
          · exact ((hf.mem_behind_iff hp).mp ha).2
          · exact hbefore a ha
        obtain ⟨hresult, hmem⟩ := hmore hmerged hbehind
        refine ⟨hresult, fun b => (hmem b).trans ?_⟩
        rw [settles_mergeBudgets_iff (fun _ => hnext.place_in) (fun _ => hxs.place_in),
          settles_map_iff, settles_cons_iff, leads_upTo_succ_iff hp]
        simp only [hf.mem_behind_iff hp, and_assoc]
        exact or_assoc.symm

theorem Follows.upTo (hf : Follows cs condition f) (n : Nat) :
    Follows cs (condition.upTo n) (upTo f n) := by
  have hsweep {p : Place} {ps : List Place} (hps : Row cs (p :: ps)) :
      Row cs (Place.upTo f n (p :: ps)) ∧
        ∀ b, b ∈ Place.upTo f n (p :: ps) ↔ ∃ a ∈ p :: ps, Leads cs (condition.upTo n) a b := by
    have hplaces : ((p :: ps).map fun q => (q, n)).map Prod.fst = p :: ps := by
      rw [List.map_map]
      exact List.map_id (p :: ps)
    have hrounds : ∀ x ∈ (p :: ps).map fun q => (q, n), x.1.rest.length < p.rest.length + 1 := by
      intro x hx
      obtain ⟨q, hq, rfl⟩ := List.mem_map.mp hx
      exact Nat.lt_succ_of_le (hps.rest_le q hq)
    obtain ⟨hrow, hmem⟩ := hf.sweep (hplaces.symm ▸ hps) hrounds
    exact ⟨hrow, fun b => (hmem b).trans settles_map_iff⟩
  constructor
  · intro ps hps
    rcases ps with _ | ⟨p, ps⟩
    · exact row_nil
    · exact (hsweep hps).1
  · intro ps b hps
    rcases ps with _ | ⟨p, ps⟩
    · simp [Place.upTo]
    · exact (hsweep hps).2 b

/-- The first place of a row has the most characters behind it, so as many steps as that are all
    that matter. -/
theorem Follows.many (hf : Follows cs condition f) :
    Follows cs condition.many fun ps => Place.upTo f (ps.headD ⟨0, none, []⟩).rest.length ps where
  row := fun hps => (hf.upTo _).row hps
  mem := by
    intro ps b hps
    rw [(hf.upTo _).mem hps]
    constructor
    · intro hall
      obtain ⟨a, ha, hab⟩ := hall
      exact ⟨a, ha, hab.mono fun _ _ _ ⟨k, _, h⟩ => ⟨k, h⟩⟩
    · intro hall
      obtain ⟨a, ha, front, stretch, back, hcs, rfl, hb, hmany⟩ := hall
      refine ⟨_, ha, Leads.upTo_mono
        ⟨front, stretch, back, hcs, rfl, hb, StretchCondition.many_iff_upTo.mp hmany⟩ ?_⟩
      rcases ps with _ | ⟨p, ps⟩
      · exact nomatch ha
      · have hrest := hps.rest_le _ ha
        have hstretch : (stretch ++ back).length ≤ p.rest.length := hrest
        rw [List.length_append] at hstretch
        exact Nat.le_trans (Nat.le_add_right _ _) hstretch

end Place

end KotlinMetadata
