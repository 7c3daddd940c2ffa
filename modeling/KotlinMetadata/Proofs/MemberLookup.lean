import KotlinMetadata.Proofs.LinkHistory

/-! # What look-ups find after an edit

    Replacing a member and removing a class are the two edits that cut links.  What they leave is
    told by look-ups: each link and each class identity is found as before, but for the ones that
    the edit is about.

    - `JvmClass.mapMember_of_found`: a member is edited in its place, and nothing else is;
    - `JvmClass.Renumbered`: what this means when the edit is a fresh identity;
    - `ClassPool.member?_replaceMember`, `ClassPool.member?_removeClass`: every link after the edit;
    - `ClassPool.Replaced`, `ClassPool.Removed`: what the two edits come to;
    - `PoolRun.replaced_and_removed`: they come to this on every pool that a run reaches.
-/

namespace KotlinMetadata

/-! ## Members of a class -/

namespace JvmClass

/-- The first member with an identity is edited where it stands. -/
theorem mapFirst_of_found {id : MemberId} {ms : List Member} {m : Member}
    (hfound : ms.find? (·.id == id) = some m) (g : Member → Member) :
    ∃ before behind, ms = before ++ m :: behind ∧ mapFirst id g ms = before ++ g m :: behind := by
  induction ms with
  | nil => exact absurd hfound nofun
  | cons n ms ih =>
    rw [List.find?_cons] at hfound
    unfold mapFirst
    cases hn : n.id == id with
    | true =>
      rw [hn] at hfound
      obtain rfl := Option.some.inj hfound
      exact ⟨[], ms, rfl, rfl⟩
    | false =>
      rw [hn] at hfound
      obtain ⟨before, behind, rfl, hmap⟩ := ih hfound
      refine ⟨n :: before, behind, rfl, ?_⟩
      rw [if_neg Bool.false_ne_true, hmap]
      rfl

/-- A member is edited where it stands in one of the two lists, and the other list stays. -/
theorem mapMember_of_found {c : JvmClass} {id : MemberId} {m : Member}
    (hfound : c.findMember? id = some m) (g : Member → Member) :
    ∃ kind before behind, c.membersOfKind kind = before ++ m :: behind ∧
      (c.mapMember id g).membersOfKind kind = before ++ g m :: behind ∧
      ∀ other, other ≠ kind → (c.mapMember id g).membersOfKind other = c.membersOfKind other := by
  rw [findMember?, members, List.find?_append] at hfound
  unfold mapMember
  -- A field goes before a method, in the look-up as in the edit.
  cases hfield : c.fields.find? (·.id == id) with
  | some n =>
    rw [hfield] at hfound
    obtain rfl := Option.some.inj hfound
    have hid : (n.id == id) = true := by simpa using List.find?_some hfield
    have hany : c.fields.any (·.id == id) = true :=
      List.any_eq_true.mpr ⟨n, List.mem_of_find?_eq_some hfield, hid⟩
    obtain ⟨before, behind, hlist, hmap⟩ := mapFirst_of_found hfield g
    refine ⟨.field, before, behind, hlist, ?_, ?_⟩
    · rw [if_pos hany]
      exact hmap
    · intro other hother
      cases other with
      | field => exact absurd rfl hother
      | method => rw [if_pos hany]; rfl
  | none =>
    rw [hfield, Option.none_or] at hfound
    have hany : ¬ c.fields.any (·.id == id) = true := by
      simpa [List.find?_eq_none] using hfield
    obtain ⟨before, behind, hlist, hmap⟩ := mapFirst_of_found hfound g
    refine ⟨.method, before, behind, hlist, ?_, ?_⟩
    · rw [if_neg hany]
      exact hmap
    · intro other hother
      cases other with
      | field => rw [if_neg hany]; rfl
      | method => exact absurd rfl hother

theorem members_mapMember {c : JvmClass} (hc : c.memberIds.Nodup) (id : MemberId)
    (g : Member → Member) :
    (c.mapMember id g).members = c.members.map fun m => if m.id = id then g m else m := by
  have hfields := membersOfKind_mapMember hc id g .field
  have hmethods := membersOfKind_mapMember hc id g .method
  rw [members, members, List.map_append]
  exact congrArg₂ (· ++ ·) hfields hmethods

/-- With an identity that no member has, a member is found under the new one and no longer under
    the old one, and every other identity is found as before. -/
theorem find?_renumber {id fresh : MemberId} {ms : List Member} (hfresh : fresh ∉ ms.map (·.id))
    (x : MemberId) :
    (ms.map fun m => if m.id = id then { m with id := fresh } else m).find? (·.id == x) =
      if x = fresh then (ms.find? (·.id == id)).map fun m => { m with id := fresh }
      else if x = id then none
      else ms.find? (·.id == x) := by
  induction ms with
  | nil => simp
  | cons m ms ih =>
    rw [List.map_cons, List.mem_cons, not_or] at hfresh
    obtain ⟨hm, hms⟩ := hfresh
    rw [List.map_cons, List.find?_cons, List.find?_cons, List.find?_cons, ih hms]
    by_cases hid : m.id = id
    · -- This is the member: found under the new identity, passed over under any other.
      rw [if_pos hid, hid]
      by_cases hx : x = fresh
      · simp [hx]
      · have hnot : (fresh == x) = false := by simpa using Ne.symm hx
        by_cases hold : x = id
        · obtain rfl := hold
          simp [hx, hnot]
        · have hnotOld : (id == x) = false := by simpa using Ne.symm hold
          simp [hx, hold, hnot, hnotOld]
    · -- This is another member, which does not have the new identity either.
      have hnotOld : (m.id == id) = false := by simpa using hid
      rw [if_neg hid, hnotOld]
      by_cases hx : x = fresh
      · obtain rfl := hx
        have hnot : (m.id == x) = false := by simpa using Ne.symm hm
        simp [hnot]
      · by_cases hold : x = id
        · obtain rfl := hold
          simp [hx, hnotOld]
        · simp [hx, hold]

/-- Between a class and what it is after a member got a fresh identity: the member keeps its place
    and everything else about it, and so does all else in the class. -/
structure Renumbered (c d : JvmClass) (m : Member) (fresh : MemberId) : Prop where
  /-- The member stands where it stood, in the same list. -/
  placed : ∃ before behind, c.membersOfKind m.kind = before ++ m :: behind ∧
    d.membersOfKind m.kind = before ++ { m with id := fresh } :: behind
  /-- The list of the other kind stays. -/
  otherKind : ∀ kind, kind ≠ m.kind → d.membersOfKind kind = c.membersOfKind kind
  /-- Neither list gets longer or shorter. -/
  lengths : ∀ kind, (d.membersOfKind kind).length = (c.membersOfKind kind).length
  /-- Nothing but the two lists is touched. -/
  rest : d = { c with fields := d.fields, methods := d.methods }

theorem renumbered_mapMember {c : JvmClass} (hc : c.KindsAgree) {id : MemberId} {m : Member}
    (hfound : c.findMember? id = some m) (fresh : MemberId) :
    c.Renumbered (c.mapMember id fun m => { m with id := fresh }) m fresh := by
  obtain ⟨kind, before, behind, hlist, hmap, hother⟩ :=
    mapMember_of_found hfound fun m => { m with id := fresh }
  -- The list that the member stands in is that of its kind.
  have hmember : m ∈ c.membersOfKind kind := by
    rw [hlist]
    exact List.mem_append_right _ List.mem_cons_self
  obtain rfl := (hc.mem_membersOfKind_iff.mp hmember).2
  refine ⟨⟨before, behind, hlist, hmap⟩, hother, ?_, ?_⟩
  · intro kind
    by_cases hkind : kind = m.kind
    · rw [hkind, hlist, hmap, List.length_append, List.length_append, List.length_cons,
        List.length_cons]
    · rw [hother kind hkind]
  · unfold mapMember
    split <;> rfl

end JvmClass

/-! ## Links after an edit -/

namespace ClassPool
variable {pool after : ClassPool}

theorem WellFormed.fresh_notMem (h : pool.WellFormed) {c : JvmClass} (hc : c ∈ pool.classes) :
    (⟨pool.nextMember⟩ : MemberId) ∉ c.memberIds := by
  intro hmem
  exact absurd (h.memberBelow _ (List.mem_flatMap.mpr ⟨c, hc, hmem⟩)) (UInt32.lt_irrefl _)

/-- Replacing a member: it is found by the fresh link and no longer by the old one, and every
    other link leads where it led before. -/
theorem member?_replaceMember (h : pool.WellFormed) {replaced fresh : MemberRef}
    (hreplace : pool.replaceMember replaced = .ok (fresh, after)) (other : MemberRef) :
    after.member? other =
      if other = fresh then (pool.member? replaced).map fun m => { m with id := fresh.member }
      else if other = replaced then none
      else pool.member? other := by
  obtain ⟨hfresh, -⟩ := replaceMember_eq_ok hreplace
  have howner := owner_replaceMember hreplace
  unfold member?
  rw [class?_replaceMember hreplace]
  by_cases heq : other.owner = replaced.owner
  · have hreplaced : other = replaced ↔ other.member = replaced.member := by
      rw [MemberRef.ext_iff]
      simp [heq]
    have hisFresh : other = fresh ↔ other.member = fresh.member := by
      rw [MemberRef.ext_iff, howner]
      simp [heq]
    simp only [heq, if_true, hreplaced, hisFresh]
    cases hclass : pool.class? replaced.owner with
    | none => simp
    | some c =>
      have hc : c ∈ pool.classes := List.mem_of_find?_eq_some hclass
      have hnew := h.fresh_notMem hc
      rw [← hfresh] at hnew ⊢
      simp only [Option.map_some, Option.bind_some, JvmClass.findMember?]
      rw [JvmClass.members_mapMember (h.memberIds_nodup hc)]
      exact JvmClass.find?_renumber hnew other.member
  · have hreplaced : other ≠ replaced := fun hsame => heq (congrArg MemberRef.owner hsame)
    have hnotFresh : other ≠ fresh := fun hsame =>
      heq ((congrArg MemberRef.owner hsame).trans howner)
    simp [heq, hreplaced, hnotFresh]

/-- Removing a class: links that claim it lead nowhere, and all others lead where they led. -/
theorem member?_removeClass {id : ClassId} {c : JvmClass}
    (hremove : pool.removeClass id = .ok (c, after)) (ref : MemberRef) :
    after.member? ref = if ref.owner = id then none else pool.member? ref := by
  unfold member?
  rw [class?_removeClass hremove]
  by_cases heq : ref.owner = id
  · simp [heq]
  · rw [if_neg heq, if_neg heq, Option.bind_map]
    rfl

/-! ## The two edits -/

/-- What replacing a member comes to. -/
structure Replaced (pool after : ClassPool) (ref fresh : MemberRef) : Prop where
  /-- The fresh link claims the same class. -/
  owner : fresh.owner = ref.owner
  /-- The old link leads nowhere. -/
  gone : after.member? ref = none
  /-- The fresh link leads to the member that the old one led to, which has its place in its class
      and everything but its identity. -/
  moved : ∃ m c d, pool.member? ref = some m ∧
    after.member? fresh = some { m with id := fresh.member } ∧
    pool.class? ref.owner = some c ∧ after.class? ref.owner = some d ∧
    c.Renumbered d m fresh.member
  /-- Every other link leads where it led. -/
  links : ∀ other, other ≠ ref → other ≠ fresh → after.member? other = pool.member? other
  /-- Every other class stays. -/
  classes : ∀ id, id ≠ ref.owner → after.class? id = pool.class? id
  /-- The pool has the same classes, in the same order. -/
  ids : after.ids = pool.ids

/-- What removing a class comes to. -/
structure Removed (pool after : ClassPool) (id : ClassId) (c : JvmClass) : Prop where
  /-- The class is returned as it was in the pool. -/
  stored : pool.class? id = some c
  /-- It is not in the pool any more. -/
  gone : after.class? id = none
  /-- In every other class its identity is taken out of the direct subclasses, and nothing else
      changes. -/
  classes : ∀ other, other ≠ id → after.class? other = (pool.class? other).map fun d =>
    { d with subclasses := d.subclasses.filter (· != id) }
  /-- No link that claims it leads anywhere. -/
  unlinked : ∀ ref, ref.owner = id → after.member? ref = none
  /-- Every other link leads where it led. -/
  links : ∀ ref, ref.owner ≠ id → after.member? ref = pool.member? ref
  /-- The pool has the other classes, in the same order. -/
  ids : after.ids = pool.ids.filter (· != id)

theorem WellFormed.replaced (h : pool.WellFormed) {ref fresh : MemberRef}
    (hreplace : pool.replaceMember ref = .ok (fresh, after)) : pool.Replaced after ref fresh := by
  have hlink := member?_replaceMember h hreplace
  obtain ⟨hfresh, hafter⟩ := replaceMember_eq_ok hreplace
  obtain ⟨m, hm⟩ := exists_member_of_replaceMember hreplace
  obtain ⟨c, hclass, hfound⟩ := Option.bind_eq_some_iff.mp hm
  have hc : c ∈ pool.classes := List.mem_of_find?_eq_some hclass
  have hne := h.ne_fresh hreplace (h.owns_iff.mpr ⟨m, hm, rfl⟩)
  refine ⟨owner_replaceMember hreplace, ?_, ?_, ?_, ?_, ?_⟩
  · rw [hlink, if_neg hne, if_pos rfl]
  · refine ⟨m, c, _, hm, ?_, hclass, ?_, JvmClass.renumbered_mapMember (h.kinds c hc) hfound _⟩
    · rw [hlink, if_pos rfl, hm]
      rfl
    · rw [class?_replaceMember hreplace, hclass, hfresh]
      simp
  · intro other hother hotherFresh
    rw [hlink, if_neg hotherFresh, if_neg hother]
  · intro id hid
    rw [class?_replaceMember hreplace]
    simp [hid]
  · have hallows : pool.Allows [⟨pool.nextMember⟩]
        (·.mapMember ref.member fun m => { m with id := ⟨pool.nextMember⟩ }) :=
      allows_replaceMember _ _
    rw [hafter]
    exact ids_mapClass hallows.id ref.owner

theorem removed_of_removeClass {id : ClassId} {c : JvmClass}
    (hremove : pool.removeClass id = .ok (c, after)) : pool.Removed after id c where
  stored := (removeClass_eq_ok hremove).1
  gone := by rw [class?_removeClass hremove, if_pos rfl]
  classes other hother := by rw [class?_removeClass hremove, if_neg hother]
  unlinked ref howner := by rw [member?_removeClass hremove, if_pos howner]
  links ref howner := by rw [member?_removeClass hremove, if_neg howner]
  ids := ids_removeClass hremove

end ClassPool

/-! ## On every pool of a run -/

namespace PoolRun

/-- **Replaced and removed**: on every pool that a run reaches, as long as there was an identity
    for everything it added, replacing a member gives it a fresh identity where it stands and
    changes nothing else that a link or an identity leads to.  Removing a class hands it back as it
    was, takes it out of the direct subclasses of the others, and changes nothing else either. -/
theorem replaced_and_removed (ops : List PoolOp) (hlasts : (of ops).Lasts) :
    (∀ ref fresh after, (of ops).pool.replaceMember ref = .ok (fresh, after) →
      (of ops).pool.Replaced after ref fresh) ∧
    ∀ id c after, (of ops).pool.removeClass id = .ok (c, after) →
      (of ops).pool.Removed after id c :=
  ⟨fun _ _ _ hreplace => hlasts.wellFormed.replaced hreplace,
    fun _ _ _ hremove => ClassPool.removed_of_removeClass hremove⟩

/-- A base with a field and two methods, and three subclasses of it. -/
def baseWithSubclasses : List PoolOp :=
  [.addClass "a/Base" .program, .addClass "a/B" .program, .addClass "a/C" .program,
    .addClass "a/D" .library, .addSubclass ⟨0⟩ ⟨3⟩, .addSubclass ⟨0⟩ ⟨1⟩, .addSubclass ⟨0⟩ ⟨2⟩,
    .addMember ⟨0⟩ .method "run" "()V", .addMember ⟨0⟩ .field "size" "I",
    .addMember ⟨0⟩ .method "stop" "()V", .addMember ⟨1⟩ .method "run" "()V"]

/-- The first method of the base is replaced in front of the second, and the subclass in the middle
    of the list is removed. -/
theorem replaced_and_removed_of_baseWithSubclasses :
    (∃ fresh after, (of baseWithSubclasses).pool.replaceMember ⟨⟨0⟩, ⟨0⟩⟩ = .ok (fresh, after) ∧
      fresh = ⟨⟨0⟩, ⟨4⟩⟩ ∧ after.member? ⟨⟨0⟩, ⟨0⟩⟩ = none ∧
      (after.member? ⟨⟨0⟩, ⟨2⟩⟩).map (·.name) = some "stop" ∧
      (after.class? ⟨0⟩).map (·.idsOfKind .method) = some [⟨4⟩, ⟨2⟩]) ∧
    ∃ c after, (of baseWithSubclasses).pool.removeClass ⟨1⟩ = .ok (c, after) ∧
      c.name = "a/B" ∧ after.member? ⟨⟨1⟩, ⟨3⟩⟩ = none ∧
      (after.class? ⟨0⟩).map (·.subclasses) = some [⟨3⟩, ⟨2⟩] := by
  obtain ⟨hreplaced, hremoved⟩ :=
    replaced_and_removed baseWithSubclasses ⟨by decide, by decide⟩
  refine ⟨⟨_, _, rfl, rfl, ?_, ?_, ?_⟩, _, _, rfl, rfl, ?_, ?_⟩
  · exact (hreplaced ⟨⟨0⟩, ⟨0⟩⟩ _ _ rfl).gone
  · rw [(hreplaced ⟨⟨0⟩, ⟨0⟩⟩ _ _ rfl).links ⟨⟨0⟩, ⟨2⟩⟩ (by decide) (by decide)]
    decide
  · decide
  · exact (hremoved ⟨1⟩ _ _ rfl).unlinked _ rfl
  · rw [(hremoved ⟨1⟩ _ _ rfl).classes ⟨0⟩ (by decide)]
    decide

end PoolRun

end KotlinMetadata
