import Mathlib.Data.List.Nodup
import KotlinMetadata.Proofs.Inspection
import KotlinMetadata.Proofs.PoolInvariant

/-! # Which members a pool owns

    A link is good if the claimed class is in the pool and owns a member with the identity.  What
    each kind of edit does to this.

    - `ClassPool.WellFormed.owns_iff`: a well-formed pool owns what it finds by the link, under
      the kind of what it finds and no other;
    - `ClassPool.class?_mapClass`, `class?_addClass`, `class?_removeClass`,
      `class?_replaceMember`: the classes after an edit;
    - `ClassPool.Owns.of_mapClass`: an edit of a class makes no link good but fresh ones;
    - `ClassPool.owns_addClass`, `owns_removeClass`, `owns_replaceMember`: exactly the links that
      are good afterwards.
-/

namespace KotlinMetadata

attribute [ext] MemberRef

/-! ## Identities by kind -/

namespace JvmClass

/-- The identities of the members of one kind. -/
def idsOfKind (c : JvmClass) (kind : MemberKind) : List MemberId :=
  (c.membersOfKind kind).map (·.id)

theorem mem_members_of_kind {c : JvmClass} {kind : MemberKind} {m : Member}
    (hm : m ∈ c.membersOfKind kind) : m ∈ c.members := by
  cases kind with
  | field => exact List.mem_append_left _ hm
  | method => exact List.mem_append_right _ hm

theorem mem_memberIds_of_kind {c : JvmClass} {kind : MemberKind} {id : MemberId}
    (hid : id ∈ c.idsOfKind kind) : id ∈ c.memberIds := by
  obtain ⟨m, hm, rfl⟩ := List.mem_map.mp hid
  exact List.mem_map_of_mem (mem_members_of_kind hm)

/-- The members of a kind are those in its list, if fields and methods are not mixed up. -/
theorem KindsAgree.mem_membersOfKind_iff {c : JvmClass} (hc : c.KindsAgree) {kind : MemberKind}
    {m : Member} : m ∈ c.membersOfKind kind ↔ m ∈ c.members ∧ m.kind = kind := by
  obtain ⟨hfields, hmethods⟩ := hc
  constructor
  · intro hm
    refine ⟨mem_members_of_kind hm, ?_⟩
    cases kind with
    | field => exact hfields m hm
    | method => exact hmethods m hm
  · rintro ⟨hm, rfl⟩
    rcases List.mem_append.mp hm with hm | hm
    · rw [hfields m hm]
      exact hm
    · rw [hmethods m hm]
      exact hm

/-- A member is found under its identity, if no other has it. -/
theorem findMember?_eq_some_iff {c : JvmClass} (hc : c.memberIds.Nodup) {id : MemberId}
    {m : Member} : c.findMember? id = some m ↔ m ∈ c.members ∧ m.id = id := by
  unfold findMember?
  unfold memberIds at hc
  generalize c.members = ms at hc
  constructor
  · intro hfound
    exact ⟨List.mem_of_find?_eq_some hfound, by simpa using List.find?_some hfound⟩
  · rintro ⟨hm, rfl⟩
    induction ms with
    | nil => exact absurd hm List.not_mem_nil
    | cons n ms ih =>
      obtain ⟨hn, hms⟩ := List.nodup_cons.mp hc
      rcases List.mem_cons.mp hm with rfl | hm
      · exact List.find?_cons_of_pos (by simp)
      · have hne : n.id ≠ m.id := fun heq => hn (List.mem_map.mpr ⟨m, hm, heq.symm⟩)
        rw [List.find?_cons_of_neg (by simp [hne])]
        exact ih hms hm

/-! ## Edits of a member -/

/-- With distinct identities the first member that has one is the only one. -/
theorem mapFirst_eq_map {g : Member → Member} {id : MemberId} {ms : List Member}
    (hms : (ms.map (·.id)).Nodup) :
    mapFirst id g ms = ms.map fun m => if m.id = id then g m else m := by
  induction ms with
  | nil => rfl
  | cons m ms ih =>
    obtain ⟨hm, hms⟩ := List.nodup_cons.mp hms
    unfold mapFirst
    by_cases heq : m.id = id
    · have hothers : (ms.map fun n => if n.id = id then g n else n) = ms.map fun n => n := by
        apply List.map_congr_left
        intro n hn
        have hne : n.id ≠ id := fun hsame => hm (List.mem_map.mpr ⟨n, hn, hsame.trans heq.symm⟩)
        rw [if_neg hne]
      rw [List.map_cons, hothers, List.map_id']
      simp [heq]
    · rw [List.map_cons, ← ih hms]
      simp [heq]

/-- An edit of the member with an identity is made in the list of its kind, and leaves the other
    list as it is. -/
theorem membersOfKind_mapMember {c : JvmClass} (hc : c.memberIds.Nodup) (id : MemberId)
    (g : Member → Member) (kind : MemberKind) :
    (c.mapMember id g).membersOfKind kind =
      (c.membersOfKind kind).map fun m => if m.id = id then g m else m := by
  rw [memberIds_eq] at hc
  obtain ⟨hfields, hmethods, hdisjoint⟩ := List.nodup_append.mp hc
  -- A list in which no member has the identity is left alone.
  have hsame : ∀ ms : List Member, id ∉ ms.map (·.id) →
      ms = ms.map fun m => if m.id = id then g m else m := by
    intro ms hid
    have hcongr : (ms.map fun m => if m.id = id then g m else m) = ms.map fun m => m := by
      apply List.map_congr_left
      intro m hm
      rw [if_neg fun heq => hid (List.mem_map.mpr ⟨m, hm, heq⟩)]
    rw [hcongr, List.map_id']
  unfold mapMember
  split
  · rename_i hfield
    obtain ⟨m, hm, heq⟩ := List.any_eq_true.mp hfield
    have hid : id ∈ c.fields.map (·.id) := List.mem_map.mpr ⟨m, hm, eq_of_beq heq⟩
    cases kind with
    | field => exact mapFirst_eq_map hfields
    | method => exact hsame c.methods fun hmethod => hdisjoint id hid id hmethod rfl
  · rename_i hfield
    cases kind with
    | field =>
      refine hsame c.fields fun hid => hfield ?_
      obtain ⟨m, hm, heq⟩ := List.mem_map.mp hid
      exact List.any_eq_true.mpr ⟨m, hm, beq_iff_eq.mpr heq⟩
    | method => exact mapFirst_eq_map hmethods

/-- Giving a member a new identity takes the old one from the list of its kind, and puts the new
    one there. -/
theorem mem_idsOfKind_replace {c : JvmClass} (hc : c.memberIds.Nodup) {id fresh : MemberId}
    {kind : MemberKind} {x : MemberId} :
    x ∈ (c.mapMember id fun m => { m with id := fresh }).idsOfKind kind ↔
      (x ≠ id ∧ x ∈ c.idsOfKind kind) ∨ (x = fresh ∧ id ∈ c.idsOfKind kind) := by
  unfold idsOfKind
  rw [membersOfKind_mapMember hc, List.map_map]
  simp only [List.mem_map, Function.comp_apply]
  constructor
  · rintro ⟨m, hm, rfl⟩
    by_cases heq : m.id = id
    · exact .inr ⟨by simp [heq], m, hm, heq⟩
    · exact .inl ⟨by simp [heq], m, hm, by simp [heq]⟩
  · rintro (⟨hne, m, hm, rfl⟩ | ⟨rfl, m, hm, rfl⟩)
    · exact ⟨m, hm, by simp [hne]⟩
    · exact ⟨m, hm, by simp⟩

/-- An edit that gives no member of either kind an identity but the fresh ones. -/
def BringsOnly (fresh : List MemberId) (f : JvmClass → JvmClass) : Prop :=
  ∀ c kind, (f c).idsOfKind kind ⊆ fresh ++ c.idsOfKind kind

theorem bringsOnly_of_sublist {f : JvmClass → JvmClass}
    (hf : ∀ c kind, List.Sublist ((f c).membersOfKind kind) (c.membersOfKind kind)) :
    BringsOnly [] f :=
  fun c kind => ((hf c kind).map _).subset

theorem bringsOnly_classEdit (edit : ClassEdit) : BringsOnly [] edit.apply := by
  refine bringsOnly_of_sublist fun c kind => ?_
  unfold ClassEdit.apply
  cases edit.dropMember with
  | none => cases kind <;> exact List.Sublist.refl _
  | some id => cases kind <;> exact List.filter_sublist

theorem bringsOnly_addMember (m : Member) : BringsOnly [m.id] (·.addMember m) := by
  intro c kind
  show (c.addMember m).idsOfKind kind ⊆ [m.id] ++ c.idsOfKind kind
  have happend : ∀ ms : List Member, (ms ++ [m]).map (·.id) ⊆ [m.id] ++ ms.map (·.id) := by
    intro ms x hx
    rw [List.map_append] at hx
    exact List.mem_append.mpr (List.mem_append.mp hx).symm
  unfold addMember
  -- The list of the other kind stays.
  split
  · cases kind with
    | field => exact happend c.fields
    | method => exact List.subset_append_right _ _
  · cases kind with
    | field => exact List.subset_append_right _ _
    | method => exact happend c.methods

theorem bringsOnly_mapMember {fresh : List MemberId} (id : MemberId) {g : Member → Member}
    (hg : ∀ m, List.Subperm [(g m).id] (fresh ++ [m.id])) :
    BringsOnly fresh (·.mapMember id g) := by
  intro c kind
  show (c.mapMember id g).idsOfKind kind ⊆ fresh ++ c.idsOfKind kind
  unfold mapMember
  split
  · cases kind with
    | field => exact (map_id_mapFirst hg id c.fields).subset
    | method => exact List.subset_append_right _ _
  · cases kind with
    | field => exact List.subset_append_right _ _
    | method => exact (map_id_mapFirst hg id c.methods).subset

end JvmClass

namespace ClassPool
variable {pool after : ClassPool} {kind : MemberKind} {ref : MemberRef}

/-! ## Classes after an edit -/

theorem id_of_class? {id : ClassId} {c : JvmClass} (hclass : pool.class? id = some c) :
    c.id = id := by
  simpa using List.find?_some hclass

theorem class?_mapClass {f : JvmClass → JvmClass} (hid : ∀ c, (f c).id = c.id)
    (id other : ClassId) :
    (pool.mapClass id f).class? other =
      (pool.class? other).map fun c => if other = id then f c else c := by
  unfold class? mapClass
  have htest : ((fun c : JvmClass => c.id == other) ∘ fun c => if c.id == id then f c else c) =
      fun c => c.id == other := by
    funext c
    by_cases heq : c.id = id
    · simp [heq, hid]
    · simp [heq]
  rw [List.find?_map, htest]
  cases hfound : pool.classes.find? (·.id == other) with
  | none => rfl
  | some c =>
    have hc : c.id = other := id_of_class? hfound
    simp [hc]

/-- A class of the pool has an identity below the next one. -/
theorem WellFormed.number_lt_nextClass (h : pool.WellFormed) {id : ClassId}
    (hsome : (pool.class? id).isSome) : id.number < pool.nextClass := by
  obtain ⟨c, hclass⟩ := Option.isSome_iff_exists.mp hsome
  have hlt := h.classBelow c (List.mem_of_find?_eq_some hclass)
  rwa [id_of_class? hclass] at hlt

/-- No class has the identity that is handed out next. -/
theorem WellFormed.class?_next (h : pool.WellFormed) : pool.class? ⟨pool.nextClass⟩ = none := by
  cases hclass : pool.class? ⟨pool.nextClass⟩ with
  | none => rfl
  | some c =>
    have hlt := h.number_lt_nextClass (Option.isSome_iff_exists.mpr ⟨c, hclass⟩)
    exact absurd hlt (UInt32.lt_irrefl _)

theorem class?_addClass (h : pool.WellFormed) {name : String} {classKind : ClassKind}
    {id : ClassId} (hadd : pool.addClass name classKind = .ok (id, after)) (other : ClassId) :
    after.class? other =
      if other = id then some { id, name, kind := classKind } else pool.class? other := by
  obtain ⟨-, rfl, rfl⟩ := addClass_eq_ok hadd
  have hnone := h.class?_next
  unfold class? at hnone ⊢
  rw [List.find?_append]
  by_cases heq : other = ⟨pool.nextClass⟩
  · rw [heq, hnone, if_pos rfl]
    simp
  · have hne : (⟨pool.nextClass⟩ : ClassId) ≠ other := Ne.symm heq
    simp [heq, hne]

theorem class?_removeClass {id : ClassId} {c : JvmClass}
    (hremove : pool.removeClass id = .ok (c, after)) (other : ClassId) :
    after.class? other =
      if other = id then none
      else (pool.class? other).map fun d =>
        { d with subclasses := d.subclasses.filter (· != id) } := by
  obtain ⟨-, rfl⟩ := removeClass_eq_ok hremove
  unfold class?
  have htest : ((fun d : JvmClass => d.id == other) ∘ fun d : JvmClass =>
      { d with subclasses := d.subclasses.filter (· != id) }) = fun d => d.id == other := rfl
  rw [List.find?_map, List.find?_filter, htest]
  by_cases heq : other = id
  · have hnone : pool.classes.find? (fun d => d.id != id && (d.id == other)) = none := by
      simp [List.find?_eq_none, heq]
    rw [if_pos heq]
    simpa using hnone
  · have hkept : (fun d : JvmClass => decide ((d.id != id) = true ∧ (d.id == other) = true)) =
        fun d => d.id == other := by
      funext d
      by_cases hd : d.id = other
      · simp [hd, heq]
      · simp [hd]
    rw [if_neg heq, hkept]

/-- A fresh link claims the same class as the one it replaces. -/
theorem owner_replaceMember {replaced fresh : MemberRef}
    (hreplace : pool.replaceMember replaced = .ok (fresh, after)) :
    fresh.owner = replaced.owner := by
  unfold replaceMember at hreplace
  split at hreplace
  · exact absurd hreplace nofun
  · obtain ⟨rfl, -⟩ := Prod.mk.inj (Except.ok.inj hreplace)
    rfl

/-- Only what a link leads to is replaced. -/
theorem exists_member_of_replaceMember {replaced fresh : MemberRef}
    (hreplace : pool.replaceMember replaced = .ok (fresh, after)) :
    ∃ m, pool.member? replaced = some m := by
  unfold replaceMember at hreplace
  split at hreplace
  · exact absurd hreplace nofun
  · rename_i hfound
    exact Option.ne_none_iff_exists'.mp fun hnone => hfound (Option.isNone_iff_eq_none.mpr hnone)

theorem class?_replaceMember {replaced fresh : MemberRef}
    (hreplace : pool.replaceMember replaced = .ok (fresh, after)) (other : ClassId) :
    after.class? other =
      (pool.class? other).map fun c =>
        if other = replaced.owner then
          c.mapMember replaced.member fun m => { m with id := ⟨pool.nextMember⟩ }
        else c := by
  obtain ⟨-, rfl⟩ := replaceMember_eq_ok hreplace
  have hallows : pool.Allows [⟨pool.nextMember⟩]
      (·.mapMember replaced.member fun m => { m with id := ⟨pool.nextMember⟩ }) :=
    allows_replaceMember _ _
  exact class?_mapClass hallows.id replaced.owner other

/-! ## Members of a well-formed pool -/

theorem owns_iff_mem_idsOfKind :
    pool.Owns kind ref ↔ ∃ c, pool.class? ref.owner = some c ∧ ref.member ∈ c.idsOfKind kind := by
  unfold Owns JvmClass.idsOfKind
  simp only [List.mem_map]

theorem WellFormed.memberIds_nodup (h : pool.WellFormed) {c : JvmClass} (hc : c ∈ pool.classes) :
    c.memberIds.Nodup :=
  (List.nodup_flatMap.mp h.distinct).1 c hc

/-- A well-formed pool owns what it finds by a link, under the kind of what it finds. -/
theorem WellFormed.owns_iff (h : pool.WellFormed) :
    pool.Owns kind ref ↔ ∃ m, pool.member? ref = some m ∧ m.kind = kind := by
  unfold Owns member?
  cases hclass : pool.class? ref.owner with
  | none => simp
  | some c =>
    have hc : c ∈ pool.classes := List.mem_of_find?_eq_some hclass
    have hfound : ∀ m, c.findMember? ref.member = some m ↔ m ∈ c.members ∧ m.id = ref.member :=
      fun m => JvmClass.findMember?_eq_some_iff (h.memberIds_nodup hc)
    have hkind : ∀ m, m ∈ c.membersOfKind kind ↔ m ∈ c.members ∧ m.kind = kind :=
      fun m => (h.kinds c hc).mem_membersOfKind_iff
    simp only [Option.some.injEq, exists_eq_left', Option.bind_some, hfound, hkind]
    constructor
    · rintro ⟨m, ⟨hm, hmkind⟩, hid⟩
      exact ⟨m, ⟨hm, hid⟩, hmkind⟩
    · rintro ⟨m, ⟨hm, hid⟩, hmkind⟩
      exact ⟨m, ⟨hm, hmkind⟩, hid⟩

/-- A member that is owned has an identity below the next one. -/
theorem WellFormed.number_lt (h : pool.WellFormed) (howns : pool.Owns kind ref) :
    ref.member.number < pool.nextMember := by
  obtain ⟨c, hclass, hid⟩ := owns_iff_mem_idsOfKind.mp howns
  refine h.memberBelow _ (List.mem_flatMap.mpr ⟨c, List.mem_of_find?_eq_some hclass, ?_⟩)
  exact JvmClass.mem_memberIds_of_kind hid

/-- A good link is not a fresh one: the identity of its member was handed out before. -/
theorem WellFormed.ne_fresh (h : pool.WellFormed) {replaced fresh : MemberRef}
    (hreplace : pool.replaceMember replaced = .ok (fresh, after)) (howns : pool.Owns kind ref) :
    ref ≠ fresh := by
  rintro rfl
  have hlt := h.number_lt howns
  obtain ⟨hnext, -⟩ := replaceMember_eq_ok hreplace
  rw [hnext] at hlt
  exact absurd hlt (UInt32.lt_irrefl _)

/-! ## Members after an edit -/

/-- Whether a link is good after an edit depends on what the edit does to the claimed class. -/
theorem owns_mapClass_iff {f : JvmClass → JvmClass} (hid : ∀ c, (f c).id = c.id) {id : ClassId} :
    (pool.mapClass id f).Owns kind ref ↔
      ∃ c, pool.class? ref.owner = some c ∧
        ref.member ∈ (if ref.owner = id then f c else c).idsOfKind kind := by
  rw [owns_iff_mem_idsOfKind, class?_mapClass hid]
  simp only [Option.map_eq_some_iff]
  constructor
  · rintro ⟨_, ⟨c, hc, rfl⟩, hmem⟩
    exact ⟨c, hc, hmem⟩
  · rintro ⟨c, hc, hmem⟩
    exact ⟨_, ⟨c, hc, rfl⟩, hmem⟩

/-- A link that is good after an edit was good before, or its member is a fresh one. -/
theorem Owns.of_mapClass {f : JvmClass → JvmClass} {fresh : List MemberId}
    (hid : ∀ c, (f c).id = c.id) (hf : JvmClass.BringsOnly fresh f) {id : ClassId}
    (h : (pool.mapClass id f).Owns kind ref) : pool.Owns kind ref ∨ ref.member ∈ fresh := by
  obtain ⟨c, hc, hmem⟩ := (owns_mapClass_iff hid).mp h
  rw [owns_iff_mem_idsOfKind]
  by_cases heq : ref.owner = id
  · rw [if_pos heq] at hmem
    rcases List.mem_append.mp (hf c kind hmem) with hfresh | hold
    · exact .inr hfresh
    · exact .inl ⟨c, hc, hold⟩
  · rw [if_neg heq] at hmem
    exact .inl ⟨c, hc, hmem⟩

/-- A new class owns nothing. -/
theorem owns_addClass (h : pool.WellFormed) {name : String} {classKind : ClassKind}
    {id : ClassId} (hadd : pool.addClass name classKind = .ok (id, after)) :
    after.Owns kind ref ↔ pool.Owns kind ref := by
  rw [owns_iff_mem_idsOfKind, owns_iff_mem_idsOfKind, class?_addClass h hadd]
  by_cases heq : ref.owner = id
  · -- Neither the new class nor, before, any class has this member.
    have hnone : pool.class? ref.owner = none := by
      obtain ⟨-, hid, -⟩ := addClass_eq_ok hadd
      rw [heq, hid]
      exact h.class?_next
    rw [if_pos heq, hnone]
    constructor
    · rintro ⟨c, hc, hmem⟩
      obtain rfl := Option.some.inj hc
      cases kind <;> exact absurd hmem List.not_mem_nil
    · rintro ⟨c, hc, -⟩
      exact absurd hc nofun
  · rw [if_neg heq]

/-- Removing a class breaks the links that claim it, and no others. -/
theorem owns_removeClass {id : ClassId} {c : JvmClass}
    (hremove : pool.removeClass id = .ok (c, after)) :
    after.Owns kind ref ↔ ref.owner ≠ id ∧ pool.Owns kind ref := by
  have hmembers : ∀ d : JvmClass, ({ d with
      subclasses := d.subclasses.filter (· != id) } : JvmClass).idsOfKind kind =
      d.idsOfKind kind := by
    intro d
    cases kind <;> rfl
  rw [owns_iff_mem_idsOfKind, owns_iff_mem_idsOfKind, class?_removeClass hremove]
  by_cases heq : ref.owner = id
  · simp [heq]
  · rw [if_neg heq]
    constructor
    · rintro ⟨_, hd, hmem⟩
      obtain ⟨d, hclass, rfl⟩ := Option.map_eq_some_iff.mp hd
      exact ⟨heq, d, hclass, hmembers d ▸ hmem⟩
    · rintro ⟨-, d, hclass, hmem⟩
      exact ⟨_, Option.map_eq_some_iff.mpr ⟨d, hclass, rfl⟩, (hmembers d).symm ▸ hmem⟩

/-- Replacing a member breaks the link to it and makes the fresh one good; every other link stays
    as it is. -/
theorem owns_replaceMember (h : pool.WellFormed) {replaced fresh : MemberRef}
    (hreplace : pool.replaceMember replaced = .ok (fresh, after)) :
    after.Owns kind ref ↔
      (ref ≠ replaced ∧ pool.Owns kind ref) ∨ (ref = fresh ∧ pool.Owns kind replaced) := by
  obtain ⟨hfresh, -⟩ := replaceMember_eq_ok hreplace
  have howner := owner_replaceMember hreplace
  simp only [owns_iff_mem_idsOfKind, class?_replaceMember hreplace]
  by_cases heq : ref.owner = replaced.owner
  · have hreplaced : ref = replaced ↔ ref.member = replaced.member := by
      rw [MemberRef.ext_iff]
      simp [heq]
    have hisFresh : ref = fresh ↔ ref.member = ⟨pool.nextMember⟩ := by
      rw [MemberRef.ext_iff, hfresh, howner]
      simp [heq]
    simp only [heq, if_true, Ne, hreplaced, hisFresh]
    cases hclass : pool.class? replaced.owner with
    | none => simp
    | some c =>
      have hc : c ∈ pool.classes := List.mem_of_find?_eq_some hclass
      simpa using JvmClass.mem_idsOfKind_replace (h.memberIds_nodup hc)
  · have hreplaced : ref ≠ replaced := fun hsame => heq (congrArg MemberRef.owner hsame)
    have hnotFresh : ref ≠ fresh := fun hsame => heq ((congrArg MemberRef.owner hsame).trans howner)
    simp [heq, hreplaced, hnotFresh]

end ClassPool

end KotlinMetadata
