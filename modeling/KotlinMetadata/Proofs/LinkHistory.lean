import KotlinMetadata.Proofs.PoolRun

/-! # Links over a run

    A link to a member that was replaced or dropped, or whose class was removed, leads nowhere
    from then on.  Two facts about each operation carry this: counters only go up, and what is new
    to the pool has an identity that was not handed out before.

    - `ClassPool.Later`: what holds between a pool and the pools after it, step by step;
    - `PoolRun.later_append`: it holds along every run;
    - `PoolRun.dangling_stays_dangling`: so no link and no class comes back.
-/

namespace KotlinMetadata

namespace ClassPool
variable {pool after : ClassPool}

/-! ## Pools and later pools -/

/-- What holds of a pool after any operations: the counters went no way but up, and what the pool
    before did not have got its identity since. -/
structure Later (pool later : ClassPool) : Prop where
  nextMember : pool.nextMember ≤ later.nextMember
  nextClass : pool.nextClass ≤ later.nextClass
  owns : ∀ kind ref, later.Owns kind ref →
    pool.Owns kind ref ∨ pool.nextMember ≤ ref.member.number
  classes : ∀ id, (later.class? id).isSome →
    (pool.class? id).isSome ∨ pool.nextClass ≤ id.number

theorem Later.refl (pool : ClassPool) : pool.Later pool :=
  ⟨UInt32.le_refl _, UInt32.le_refl _, fun _ _ => .inl, fun _ => .inl⟩

theorem Later.trans {p q r : ClassPool} (hpq : p.Later q) (hqr : q.Later r) : p.Later r where
  nextMember := UInt32.le_trans hpq.nextMember hqr.nextMember
  nextClass := UInt32.le_trans hpq.nextClass hqr.nextClass
  owns kind ref howns := by
    rcases hqr.owns kind ref howns with howns | hnew
    · exact hpq.owns kind ref howns
    · exact .inr (UInt32.le_trans hpq.nextMember hnew)
  classes id hsome := by
    rcases hqr.classes id hsome with hsome | hnew
    · exact hpq.classes id hsome
    · exact .inr (UInt32.le_trans hpq.nextClass hnew)

theorem le_add_one {n : UInt32} (hn : n.toNat + 1 < UInt32.size) : n ≤ n + 1 :=
  UInt32.le_of_lt (lt_add_one hn (.inr rfl))

/-- The step: no operation brings back an identity. -/
theorem Effect.later (h : pool.WellFormed) {reply : PoolReply} {renamed : Bool}
    (heffect : pool.Effect reply renamed after)
    (hclass : pool.nextClass.toNat + reply.classes.length < UInt32.size)
    (hmember : pool.nextMember.toNat + reply.members.length < UInt32.size) :
    pool.Later after := by
  cases heffect with
  | @added name kind id _ hadd =>
    -- The only class that is new has the number that the counter stood at.
    obtain ⟨-, hid, hafter⟩ := addClass_eq_ok hadd
    refine ⟨?_, ?_, ?_, ?_⟩
    · rw [hafter]
      exact UInt32.le_refl _
    · rw [hafter]
      exact le_add_one hclass
    · intro kind ref howns
      exact .inl ((owns_addClass h hadd).mp howns)
    · intro other hsome
      rw [class?_addClass h hadd] at hsome
      by_cases heq : other = id
      · rw [heq, hid]
        exact .inr (UInt32.le_refl _)
      · rw [if_neg heq] at hsome
        exact .inl hsome
  | @removed id c _ hremove =>
    obtain ⟨-, hafter⟩ := removeClass_eq_ok hremove
    refine ⟨?_, ?_, ?_, ?_⟩
    · rw [hafter]
      exact UInt32.le_refl _
    · rw [hafter]
      exact UInt32.le_refl _
    · intro kind ref howns
      exact .inl ((owns_removeClass hremove).mp howns).2
    · intro other hsome
      rw [isSome_class?_iff, ids_removeClass hremove] at hsome
      exact .inl (isSome_class?_iff.mpr (List.mem_filter.mp hsome).1)
  | edited id hf hids _ =>
    refine ⟨UInt32.le_refl _, UInt32.le_refl _, ?_, ?_⟩
    · intro kind ref howns
      rcases howns.of_mapClass hf.id hids with howns | hfresh
      · exact .inl howns
      · exact absurd hfresh List.not_mem_nil
    · intro other hsome
      exact .inl ((isSome_class?_mapClass hf.id id other).mp hsome)
  | editedWithNext id hf hids _ _ =>
    refine ⟨le_add_one hmember, UInt32.le_refl _, ?_, ?_⟩
    · intro kind other howns
      have hedited : (pool.mapClass id _).Owns kind other := howns
      -- The one member that is new has the number that the counter stood at.
      rcases hedited.of_mapClass hf.id hids with howns | hfresh
      · exact .inl howns
      · rw [List.mem_singleton.mp hfresh]
        exact .inr (UInt32.le_refl _)
    · intro other hsome
      exact .inl ((isSome_class?_mapClass hf.id id other).mp hsome)

/-- The identities of classes that an operation hands out are new. -/
theorem Effect.classes_new {reply : PoolReply} {renamed : Bool}
    (heffect : pool.Effect reply renamed after) :
    ∀ id ∈ reply.classes, pool.nextClass ≤ id.number := by
  intro id hid
  cases heffect with
  | added hadd =>
    obtain ⟨-, hnext, -⟩ := addClass_eq_ok hadd
    rw [List.mem_singleton.mp hid, hnext]
    exact UInt32.le_refl _
  | removed hremove => exact absurd hid List.not_mem_nil
  | edited => exact absurd hid List.not_mem_nil
  | editedWithNext => exact absurd hid List.not_mem_nil

/-- A member that is owned later was owned before, if it had an identity then. -/
theorem Later.owned_before {later : ClassPool} (hlater : pool.Later later) {kind : MemberKind}
    {ref : MemberRef} (hlt : ref.member.number < pool.nextMember) (howns : later.Owns kind ref) :
    pool.Owns kind ref := by
  rcases hlater.owns kind ref howns with howns | hnew
  · exact howns
  · exact absurd hnew (UInt32.not_le.mpr hlt)

/-- A class that is in the pool later was in it before, if it had an identity then. -/
theorem Later.present_before {later : ClassPool} (hlater : pool.Later later) {id : ClassId}
    (hlt : id.number < pool.nextClass) (hsome : (later.class? id).isSome) :
    (pool.class? id).isSome := by
  rcases hlater.classes id hsome with hsome | hnew
  · exact hsome
  · exact absurd hnew (UInt32.not_le.mpr hlt)

end ClassPool

/-! ## Along a run -/

namespace PoolRun

/-- There was an identity for everything that the run added. -/
structure Lasts (run : PoolRun) : Prop where
  classes : run.added.length < UInt32.size
  members : run.handedOut.length < UInt32.size

theorem Lasts.of_step {run : PoolRun} {op : PoolOp} (h : (run.step op).Lasts) : run.Lasts :=
  ⟨Nat.lt_of_le_of_lt (run.length_added_le_step op) h.classes,
    Nat.lt_of_le_of_lt (run.length_handedOut_le_step op) h.members⟩

theorem Lasts.of_append {before after : List PoolOp} (h : (of (before ++ after)).Lasts) :
    (of before).Lasts := by
  induction after using List.reverseRecOn with
  | nil => rwa [List.append_nil] at h
  | append_singleton after op ih =>
    rw [← List.append_assoc, of_concat] at h
    exact ih h.of_step

theorem Lasts.wellFormed {ops : List PoolOp} (h : (of ops).Lasts) : (of ops).pool.WellFormed :=
  (sound_of ops h.classes h.members).wellFormed

/-- One operation of a run. -/
theorem later_step {run : PoolRun} (hsound : run.Sound) {op : PoolOp}
    (hlasts : (run.step op).Lasts) :
    run.pool.Later (run.step op).pool ∧ ∃ new, (run.step op).added = run.added ++ new ∧
      ∀ id ∈ new, run.pool.nextClass ≤ id.number := by
  cases hperform : run.pool.perform op with
  | error e =>
    rw [step_of_error hperform]
    exact ⟨.refl _, [], (List.append_nil _).symm, nofun⟩
  | ok result =>
    obtain ⟨reply, after⟩ := result
    have heffect := hsound.wellFormed.effect hperform
    rw [step_of_ok hperform] at hlasts ⊢
    refine ⟨heffect.later hsound.wellFormed ?_ ?_, reply.classes, rfl, heffect.classes_new⟩
    · rw [hsound.classesCounted, ← List.length_append]
      exact hlasts.classes
    · rw [hsound.membersCounted, ← List.length_append]
      exact hlasts.members

/-- Every pool of a run is a later one of those before, and classes added since have identities
    that were not handed out then. -/
theorem later_append (before after : List PoolOp) (hlasts : (of (before ++ after)).Lasts) :
    (of before).pool.Later (of (before ++ after)).pool ∧
    ∃ new, (of (before ++ after)).added = (of before).added ++ new ∧
      ∀ id ∈ new, (of before).pool.nextClass ≤ id.number := by
  induction after using List.reverseRecOn with
  | nil =>
    rw [List.append_nil]
    exact ⟨.refl _, [], (List.append_nil _).symm, nofun⟩
  | append_singleton after op ih =>
    rw [← List.append_assoc, of_concat] at hlasts ⊢
    have hbefore := hlasts.of_step
    obtain ⟨hlater, new, hadded, hnew⟩ := ih hbefore
    obtain ⟨hstep, newer, hstepAdded, hnewer⟩ :=
      later_step (sound_of _ hbefore.classes hbefore.members) hlasts
    refine ⟨hlater.trans hstep, new ++ newer, ?_, ?_⟩
    · rw [hstepAdded, hadded, List.append_assoc]
    · intro id hid
      rcases List.mem_append.mp hid with hid | hid
      · exact hnew id hid
      · exact UInt32.le_trans hlater.nextClass (hnewer id hid)

/-- **Dangling stays dangling**: in a run whose identities last, a link that led to a member leads
    to one of that kind as long as it leads anywhere, and once it leads nowhere it does so from
    then on.  A class that was removed does not come back either, and no class that is added
    later gets its identity. -/
theorem dangling_stays_dangling (before middle after : List PoolOp)
    (hlasts : (of (before ++ middle ++ after)).Lasts) :
    (∀ ref m, (of before).pool.member? ref = some m →
      ((of (before ++ middle)).pool.member? ref = none →
        (of (before ++ middle ++ after)).pool.member? ref = none) ∧
      ∀ m', (of (before ++ middle)).pool.member? ref = some m' → m'.kind = m.kind) ∧
    ∀ id, ((of before).pool.class? id).isSome →
      (of (before ++ middle)).pool.class? id = none →
      (of (before ++ middle ++ after)).pool.class? id = none ∧
      ∃ new, (of (before ++ middle ++ after)).added = (of (before ++ middle)).added ++ new ∧
        id ∉ new := by
  have hmiddle := hlasts.of_append
  have hearly := hmiddle.of_append.wellFormed
  obtain ⟨hbefore, -⟩ := later_append before middle hmiddle
  obtain ⟨hafter, new, hadded, hnew⟩ := later_append (before ++ middle) after hlasts
  refine ⟨?_, ?_⟩
  · intro ref m hm
    have hlt := hearly.number_lt (hearly.owns_iff.mpr ⟨m, hm, rfl⟩)
    refine ⟨?_, ?_⟩
    · -- A member found at the end, with an identity from the beginning, was there in between.
      intro hnone
      by_contra hsome
      obtain ⟨m', hm'⟩ := Option.ne_none_iff_exists'.mp hsome
      have hlate := hlasts.wellFormed.owns_iff.mpr ⟨m', hm', rfl⟩
      have hkept := hafter.owned_before (UInt32.lt_of_lt_of_le hlt hbefore.nextMember) hlate
      obtain ⟨found, hfound, -⟩ := hmiddle.wellFormed.owns_iff.mp hkept
      rw [hnone] at hfound
      exact absurd hfound nofun
    · -- The kind found in between was that of the same member before.
      intro m' hm'
      have hkept := hbefore.owned_before hlt (hmiddle.wellFormed.owns_iff.mpr ⟨m', hm', rfl⟩)
      obtain ⟨found, hfound, hkind⟩ := hearly.owns_iff.mp hkept
      rw [hm] at hfound
      rw [← hkind, ← Option.some.inj hfound]
  · intro id hsome hnone
    have hlt := UInt32.lt_of_lt_of_le (hearly.number_lt_nextClass hsome) hbefore.nextClass
    refine ⟨?_, new, hadded, ?_⟩
    · by_contra hback
      have hkept := hafter.present_before hlt (Option.isSome_iff_ne_none.mpr hback)
      rw [hnone] at hkept
      exact absurd hkept nofun
    · intro hmem
      exact absurd (hnew id hmem) (UInt32.not_le.mpr hlt)

/-- Two classes, each with a method. -/
def twoClasses : List PoolOp :=
  [.addClass "a/A" .program, .addClass "b/B" .library, .addMember ⟨0⟩ .method "run" "()V",
    .addMember ⟨1⟩ .method "run" "()V"]

/-- The method of one class is replaced, and the other class is removed. -/
def cutLoose : List PoolOp := [.replaceMember ⟨⟨0⟩, ⟨0⟩⟩, .removeClass ⟨1⟩]

/-- Both are added anew, under the same names. -/
def addedAnew : List PoolOp :=
  [.addMember ⟨0⟩ .method "run" "()V", .addClass "b/B" .library,
    .addMember ⟨2⟩ .method "run" "()V"]

theorem dangling_stays_dangling_of_addedAnew :
    ((of twoClasses).pool.member? ⟨⟨0⟩, ⟨0⟩⟩).isSome ∧
    (of (twoClasses ++ cutLoose ++ addedAnew)).pool.member? ⟨⟨0⟩, ⟨0⟩⟩ = none ∧
    (of (twoClasses ++ cutLoose ++ addedAnew)).pool.class? ⟨1⟩ = none := by
  have hlasts : (of (twoClasses ++ cutLoose ++ addedAnew)).Lasts := ⟨by decide, by decide⟩
  obtain ⟨hmembers, hclasses⟩ := dangling_stays_dangling twoClasses cutLoose addedAnew hlasts
  have hresolved : ((of twoClasses).pool.member? ⟨⟨0⟩, ⟨0⟩⟩).isSome := by decide
  obtain ⟨m, hm⟩ := Option.isSome_iff_exists.mp hresolved
  exact ⟨hresolved, (hmembers _ m hm).1 (by decide), (hclasses ⟨1⟩ (by decide) (by decide)).1⟩

end PoolRun

end KotlinMetadata
