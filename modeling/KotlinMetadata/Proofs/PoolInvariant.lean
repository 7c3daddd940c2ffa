import Mathlib.Data.List.Flatten
import Mathlib.Data.List.Perm.Subperm
import KotlinMetadata.ClassFile.Pool

/-! # The invariant of a class pool

    What holds of a pool after every operation, and why each operation keeps it.

    - `ClassPool.WellFormed`: identities are distinct, in order and below the counters, members
      are of the kind of their list, and direct subclasses are in the pool;
    - `ClassPool.IndexedAt`, `ClassPool.Indexed`: the index is right about a name, or about all;
    - `ClassPool.Allows`: what an edit of one class may do to it.  Every operation but adding and
      removing a class is such an edit;
    - `WellFormed.*`, `IndexedAt.*`: one lemma for adding, for removing and for editing a class.
-/

namespace KotlinMetadata

/-! ## Statement -/

/-- The identities of the members of a class, those of its fields first. -/
def JvmClass.memberIds (c : JvmClass) : List MemberId := c.members.map (·.id)

/-- Every member stands in the list of its kind. -/
def JvmClass.KindsAgree (c : JvmClass) : Prop :=
  (∀ m ∈ c.fields, m.kind = .field) ∧ ∀ m ∈ c.methods, m.kind = .method

namespace ClassPool

/-- The identities of the classes, in the order of iteration. -/
def ids (pool : ClassPool) : List ClassId := pool.classes.map (·.id)

/-- The identities of the members of all classes. -/
def memberIds (pool : ClassPool) : List MemberId := pool.classes.flatMap JvmClass.memberIds

/-- What holds of a pool whatever was done to it. -/
structure WellFormed (pool : ClassPool) : Prop where
  /-- A class is found under its own identity. -/
  own : ∀ c ∈ pool.classes, pool.class? c.id = some c
  /-- No class has the identity of a later one. -/
  classBelow : ∀ c ∈ pool.classes, c.id.number < pool.nextClass
  /-- Iteration is in the order of identities. -/
  increasing : pool.classes.Pairwise fun c d => c.id.number < d.id.number
  /-- No two members of the pool share an identity. -/
  distinct : pool.memberIds.Nodup
  /-- No member has the identity of a later one. -/
  memberBelow : ∀ id ∈ pool.memberIds, id.number < pool.nextMember
  /-- Fields are fields, and methods are methods. -/
  kinds : ∀ c ∈ pool.classes, c.KindsAgree
  /-- No direct subclass is listed twice. -/
  subclassesDistinct : ∀ c ∈ pool.classes, c.subclasses.Nodup
  /-- Every direct subclass is in the pool. -/
  subclassesPresent : ∀ c ∈ pool.classes, ∀ sub ∈ c.subclasses, (pool.class? sub).isSome

/-- The index is right about a name: it has the name exactly if a class has it, and then with the
    identity of that class. -/
def IndexedAt (pool : ClassPool) (name : String) : Prop :=
  ∀ id, pool.nameIndex.lookup name = some id ↔ ∃ c ∈ pool.classes, c.name = name ∧ c.id = id

/-- The index has the names of the classes and no others, each with the identity of its class. -/
def Indexed (pool : ClassPool) : Prop := ∀ name, pool.IndexedAt name

/-! ## Look-ups -/

theorem isSome_class?_iff {pool : ClassPool} {id : ClassId} :
    (pool.class? id).isSome ↔ id ∈ pool.ids := by
  simp [class?, ids, List.find?_isSome]

theorem pairwise_ids {pool : ClassPool} :
    (pool.ids.Pairwise fun a b => a.number < b.number) ↔
      pool.classes.Pairwise fun c d => c.id.number < d.id.number :=
  List.pairwise_map

/-- Classes in increasing order are found under their own identities. -/
theorem class?_of_increasing {pool : ClassPool}
    (h : pool.classes.Pairwise fun c d => c.id.number < d.id.number) {c : JvmClass}
    (hc : c ∈ pool.classes) : pool.class? c.id = some c := by
  unfold class?
  generalize pool.classes = cs at h hc
  induction cs with
  | nil => exact absurd hc List.not_mem_nil
  | cons d ds ih =>
    obtain ⟨hd, hds⟩ := List.pairwise_cons.mp h
    rcases List.mem_cons.mp hc with rfl | hc
    · exact List.find?_cons_of_pos (by simp)
    · have hne : d.id ≠ c.id := by
        intro heq
        have hlt := hd c hc
        rw [heq] at hlt
        exact absurd hlt (UInt32.lt_irrefl _)
      rw [List.find?_cons_of_neg (by simp [hne])]
      exact ih hds hc

/-- Increasing identities are distinct. -/
theorem WellFormed.ids_nodup {pool : ClassPool} (h : pool.WellFormed) : pool.ids.Nodup := by
  refine (pairwise_ids.mpr h.increasing).imp ?_
  rintro a b hlt rfl
  exact absurd hlt (UInt32.lt_irrefl _)

/-! ## Counters -/

/-- A counter goes up by one as long as it does not start over. -/
theorem toNat_add_one {n : UInt32} (hn : n.toNat + 1 < UInt32.size) :
    (n + 1).toNat = n.toNat + 1 := by
  rw [UInt32.toNat_add]
  exact Nat.mod_eq_of_lt hn

theorem lt_add_one {a n : UInt32} (hn : n.toNat + 1 < UInt32.size) (h : a < n ∨ a = n) :
    a < n + 1 := by
  rw [UInt32.lt_iff_toNat_lt, toNat_add_one hn]
  rcases h with h | rfl
  · rw [UInt32.lt_iff_toNat_lt] at h
    omega
  · omega

/-! ## Editing a class -/

section Edits
variable {pool : ClassPool} {fresh : List MemberId} {f : JvmClass → JvmClass}

/-- What an edit may do to a class of a pool: it keeps the identity, gives members no identities
    but the fresh ones, each at most once, and adds no member to a list of the other kind and no
    direct subclass twice or from outside the pool. -/
structure Allows (pool : ClassPool) (fresh : List MemberId) (f : JvmClass → JvmClass) : Prop where
  id : ∀ c, (f c).id = c.id
  memberIds : ∀ c, List.Subperm (f c).memberIds (fresh ++ c.memberIds)
  kinds : ∀ c, c.KindsAgree → (f c).KindsAgree
  subclassesDistinct : ∀ c, c.subclasses.Nodup → (f c).subclasses.Nodup
  subclassesPresent : ∀ c, ∀ sub ∈ (f c).subclasses, sub ∈ c.subclasses ∨ (pool.class? sub).isSome

theorem mem_mapClass {id : ClassId} {d : JvmClass} (h : d ∈ (pool.mapClass id f).classes) :
    ∃ c ∈ pool.classes, d = c ∨ d = f c ∧ c.id = id := by
  obtain ⟨c, hc, rfl⟩ := List.mem_map.mp h
  refine ⟨c, hc, ?_⟩
  by_cases heq : c.id = id
  · exact .inr ⟨by simp [heq], heq⟩
  · exact .inl (by simp [heq])

theorem ids_mapClass (hid : ∀ c, (f c).id = c.id) (id : ClassId) :
    (pool.mapClass id f).ids = pool.ids := by
  unfold ids mapClass
  rw [List.map_map]
  apply List.map_congr_left
  intro c _
  by_cases heq : c.id = id
  · simp [heq, hid]
  · simp [heq]

theorem isSome_class?_mapClass (hid : ∀ c, (f c).id = c.id) (id sub : ClassId) :
    ((pool.mapClass id f).class? sub).isSome ↔ (pool.class? sub).isSome := by
  rw [isSome_class?_iff, isSome_class?_iff, ids_mapClass hid]

/-- An edit touches one class only, so that the fresh identities come in once. -/
theorem memberIds_mapClass (hf : pool.Allows fresh f) (hids : pool.ids.Nodup) (id : ClassId) :
    List.Subperm (pool.mapClass id f).memberIds (fresh ++ pool.memberIds) := by
  unfold memberIds mapClass
  unfold ids at hids
  generalize pool.classes = cs at hids
  induction cs with
  | nil => exact List.nil_subperm
  | cons c cs ih =>
    obtain ⟨hc, hcs⟩ := List.nodup_cons.mp hids
    simp only [List.map_cons, List.flatMap_cons]
    by_cases heq : c.id = id
    · -- No later class has this identity, so that the edit leaves all of them alone.
      have hothers : (cs.map fun d => if d.id == id then f d else d) = cs.map fun d => d := by
        apply List.map_congr_left
        intro d hd
        have hne : d.id ≠ id := by
          rintro rfl
          exact hc (List.mem_map.mpr ⟨d, hd, heq.symm⟩)
        simp [hne]
      have hedited : (if c.id == id then f c else c) = f c := by simp [heq]
      rw [hothers, List.map_id', hedited, ← List.append_assoc]
      exact (List.subperm_append_right _).mpr (hf.memberIds c)
    · -- The fresh identities come in further on, and are moved in front of this class.
      have hsame : (if c.id == id then f c else c) = c := by simp [heq]
      have hrest := (List.subperm_append_left c.memberIds).mpr (ih hcs)
      have hperm := List.perm_append_comm_assoc c.memberIds fresh (cs.flatMap JvmClass.memberIds)
      rw [hsame]
      exact hrest.trans hperm.subperm

/-- An allowed edit keeps the invariant, with a counter above the fresh identities. -/
theorem WellFormed.mapClass (h : pool.WellFormed) (hf : pool.Allows fresh f) (id : ClassId)
    (next : UInt32) (hdistinct : (fresh ++ pool.memberIds).Nodup)
    (hbelow : ∀ m ∈ fresh ++ pool.memberIds, m.number < next) :
    ({ pool.mapClass id f with nextMember := next } : ClassPool).WellFormed := by
  -- Two facts carry the rest: identities of classes stay, those of members are among the old
  -- ones and the fresh ones.
  have hmembers := memberIds_mapClass hf h.ids_nodup id
  have hincreasing : (pool.mapClass id f).classes.Pairwise fun c d =>
      c.id.number < d.id.number := by
    rw [← pairwise_ids, ids_mapClass hf.id, pairwise_ids]
    exact h.increasing
  refine ⟨fun c hc => class?_of_increasing hincreasing hc, ?_, hincreasing, ?_, ?_, ?_, ?_, ?_⟩
  · intro d hd
    obtain ⟨c, hc, rfl | ⟨rfl, -⟩⟩ := mem_mapClass hd
    · exact h.classBelow d hc
    · rw [hf.id]
      exact h.classBelow c hc
  · obtain ⟨l, hperm, hsublist⟩ := hmembers
    exact hperm.nodup_iff.mp (hdistinct.sublist hsublist)
  · intro m hm
    exact hbelow m (hmembers.subset hm)
  · intro d hd
    obtain ⟨c, hc, rfl | ⟨rfl, -⟩⟩ := mem_mapClass hd
    · exact h.kinds d hc
    · exact hf.kinds c (h.kinds c hc)
  · intro d hd
    obtain ⟨c, hc, rfl | ⟨rfl, -⟩⟩ := mem_mapClass hd
    · exact h.subclassesDistinct d hc
    · exact hf.subclassesDistinct c (h.subclassesDistinct c hc)
  · intro d hd sub hsub
    refine (isSome_class?_mapClass hf.id id sub).mpr ?_
    obtain ⟨c, hc, rfl | ⟨rfl, -⟩⟩ := mem_mapClass hd
    · exact h.subclassesPresent d hc sub hsub
    · exact (hf.subclassesPresent c sub hsub).elim (h.subclassesPresent c hc sub) fun hsome => hsome

/-- An edit that gives no identities. -/
theorem WellFormed.edit (h : pool.WellFormed) (hf : pool.Allows [] f) (id : ClassId) :
    (pool.mapClass id f).WellFormed :=
  h.mapClass hf id pool.nextMember h.distinct h.memberBelow

/-- An edit that gives the next identity to a member. -/
theorem WellFormed.editWithNext (h : pool.WellFormed)
    (hnext : pool.nextMember.toNat + 1 < UInt32.size)
    (hf : pool.Allows [⟨pool.nextMember⟩] f) (id : ClassId) :
    ({ pool.mapClass id f with nextMember := pool.nextMember + 1 } : ClassPool).WellFormed := by
  refine h.mapClass hf id _ ?_ ?_
  · refine List.nodup_cons.mpr ⟨fun hmem => ?_, h.distinct⟩
    exact absurd (h.memberBelow _ hmem) (UInt32.lt_irrefl _)
  · intro m hm
    apply lt_add_one hnext
    rcases List.mem_cons.mp hm with rfl | hm
    · exact .inr rfl
    · exact .inl (h.memberBelow m hm)

end Edits

end ClassPool

/-! ## The edits -/

namespace JvmClass

/-- An edit of the first member of a given identity gives a list no identities but those that the
    edit of one member gives. -/
theorem map_id_mapFirst {fresh : List MemberId} {g : Member → Member}
    (hg : ∀ m, List.Subperm [(g m).id] (fresh ++ [m.id])) (id : MemberId) (ms : List Member) :
    List.Subperm ((mapFirst id g ms).map (·.id)) (fresh ++ ms.map (·.id)) := by
  induction ms with
  | nil => exact List.nil_subperm
  | cons m ms ih =>
    unfold mapFirst
    split
    · have happend := (List.subperm_append_right (ms.map (·.id))).mpr (hg m)
      rwa [List.append_assoc] at happend
    · have hrest := (List.subperm_cons m.id).mpr ih
      exact hrest.trans List.perm_middle.symm.subperm

/-- Each list keeps the kind of its members if the edit does. -/
theorem kind_mapFirst {g : Member → Member} (hg : ∀ m, (g m).kind = m.kind) (id : MemberId)
    {kind : MemberKind} {ms : List Member} (hms : ∀ m ∈ ms, m.kind = kind) :
    ∀ m ∈ mapFirst id g ms, m.kind = kind := by
  induction ms with
  | nil => exact nofun
  | cons m ms ih =>
    obtain ⟨hm, hms⟩ := List.forall_mem_cons.mp hms
    unfold mapFirst
    split
    · exact List.forall_mem_cons.mpr ⟨(hg m).trans hm, hms⟩
    · exact List.forall_mem_cons.mpr ⟨hm, ih hms⟩

theorem memberIds_eq (c : JvmClass) :
    c.memberIds = c.fields.map (·.id) ++ c.methods.map (·.id) := List.map_append

theorem memberIds_mapMember {fresh : List MemberId} {g : Member → Member}
    (hg : ∀ m, List.Subperm [(g m).id] (fresh ++ [m.id])) (c : JvmClass) (id : MemberId) :
    List.Subperm (c.mapMember id g).memberIds (fresh ++ c.memberIds) := by
  rw [memberIds_eq, memberIds_eq]
  unfold mapMember
  split
  · have hfields := map_id_mapFirst hg id c.fields
    have happend := (List.subperm_append_right (c.methods.map (·.id))).mpr hfields
    rwa [List.append_assoc] at happend
  · have hmethods := map_id_mapFirst hg id c.methods
    have happend := (List.subperm_append_left (c.fields.map (·.id))).mpr hmethods
    exact happend.trans (List.perm_append_comm_assoc _ _ _).subperm

theorem name_mapMember (c : JvmClass) (id : MemberId) (g : Member → Member) :
    (c.mapMember id g).name = c.name := by
  unfold mapMember
  split <;> rfl

theorem name_addMember (c : JvmClass) (m : Member) : (c.addMember m).name = c.name := by
  unfold addMember
  split <;> rfl

end JvmClass

namespace ClassPool
variable {pool : ClassPool} {fresh : List MemberId}

/-- An edit that gives a class no new members. -/
theorem allows_of_sublist {f : JvmClass → JvmClass} (hid : ∀ c, (f c).id = c.id)
    (hfields : ∀ c, List.Sublist (f c).fields c.fields)
    (hmethods : ∀ c, List.Sublist (f c).methods c.methods)
    (hdistinct : ∀ c, c.subclasses.Nodup → (f c).subclasses.Nodup)
    (hpresent : ∀ c, ∀ sub ∈ (f c).subclasses, sub ∈ c.subclasses ∨ (pool.class? sub).isSome) :
    pool.Allows [] f where
  id := hid
  memberIds c := by
    rw [JvmClass.memberIds_eq, List.nil_append, JvmClass.memberIds_eq]
    exact (((hfields c).map _).append ((hmethods c).map _)).subperm
  kinds c hc :=
    ⟨fun m hm => hc.1 m ((hfields c).subset hm), fun m hm => hc.2 m ((hmethods c).subset hm)⟩
  subclassesDistinct := hdistinct
  subclassesPresent := hpresent

theorem allows_addSubclass {sub : ClassId} (hsub : (pool.class? sub).isSome) :
    pool.Allows [] fun c =>
      if c.hasDirectSubclass sub then c else { c with subclasses := c.subclasses ++ [sub] } := by
  refine allows_of_sublist ?_ ?_ ?_ ?_ ?_
  · intro c
    split <;> rfl
  · intro c
    split <;> exact List.Sublist.refl _
  · intro c
    split <;> exact List.Sublist.refl _
  · intro c hc
    split
    · exact hc
    · rename_i hlisted
      have hnew : sub ∉ c.subclasses := by simpa [JvmClass.hasDirectSubclass] using hlisted
      refine List.nodup_append.mpr ⟨hc, List.pairwise_singleton _ _, ?_⟩
      rintro a ha b hb rfl
      obtain rfl := List.mem_singleton.mp hb
      exact hnew ha
  · intro c other hother
    split at hother
    · exact .inl hother
    · rcases List.mem_append.mp hother with hother | hother
      · exact .inl hother
      · obtain rfl := List.mem_singleton.mp hother
        exact .inr hsub

theorem allows_classAttribute (added : Attribute) :
    pool.Allows [] fun c => { c with attributes := c.attributes ++ [added] } :=
  allows_of_sublist (fun _ => rfl) (fun _ => List.Sublist.refl _) (fun _ => List.Sublist.refl _)
    (fun _ h => h) (fun _ _ h => .inl h)

theorem allows_classEdit (edit : ClassEdit) : pool.Allows [] edit.apply := by
  have hfields : ∀ c, List.Sublist (edit.apply c).fields c.fields := by
    intro c
    unfold ClassEdit.apply
    cases edit.dropMember with
    | none => exact List.Sublist.refl _
    | some id => exact List.filter_sublist
  have hmethods : ∀ c, List.Sublist (edit.apply c).methods c.methods := by
    intro c
    unfold ClassEdit.apply
    cases edit.dropMember with
    | none => exact List.Sublist.refl _
    | some id => exact List.filter_sublist
  have hsubclasses : ∀ c, (edit.apply c).subclasses = c.subclasses := by
    intro c
    unfold ClassEdit.apply
    cases edit.dropMember <;> rfl
  refine allows_of_sublist ?_ hfields hmethods ?_ ?_
  · intro c
    unfold ClassEdit.apply
    cases edit.dropMember <;> rfl
  · intro c hc
    rwa [hsubclasses]
  · intro c sub hsub
    rw [hsubclasses] at hsub
    exact .inl hsub

theorem allows_addMember (m : Member) : pool.Allows [m.id] (·.addMember m) where
  id c := by
    unfold JvmClass.addMember
    split <;> rfl
  memberIds c := by
    rw [JvmClass.memberIds_eq, JvmClass.memberIds_eq]
    unfold JvmClass.addMember
    split
    · rw [List.map_append, List.append_assoc]
      exact List.perm_middle.subperm
    · rw [List.map_append, ← List.append_assoc]
      exact (List.perm_append_singleton m.id _).subperm
  kinds c hc := by
    unfold JvmClass.addMember
    split
    · rename_i hkind
      refine ⟨fun n hn => ?_, hc.2⟩
      rcases List.mem_append.mp hn with hn | hn
      · exact hc.1 n hn
      · exact List.mem_singleton.mp hn ▸ hkind
    · rename_i hkind
      refine ⟨hc.1, fun n hn => ?_⟩
      rcases List.mem_append.mp hn with hn | hn
      · exact hc.2 n hn
      · exact List.mem_singleton.mp hn ▸ hkind
  subclassesDistinct c hc := by
    unfold JvmClass.addMember
    split <;> exact hc
  subclassesPresent c sub hsub := by
    unfold JvmClass.addMember at hsub
    split at hsub <;> exact .inl hsub

/-- An edit of a member that keeps its kind and gives it no identity but a fresh one. -/
theorem allows_mapMember (id : MemberId) (g : Member → Member)
    (hkind : ∀ m, (g m).kind = m.kind)
    (hid : ∀ m, List.Subperm [(g m).id] (fresh ++ [m.id])) :
    pool.Allows fresh (·.mapMember id g) where
  id c := by
    unfold JvmClass.mapMember
    split <;> rfl
  memberIds c := JvmClass.memberIds_mapMember hid c id
  kinds c hc := by
    unfold JvmClass.mapMember
    split
    · exact ⟨JvmClass.kind_mapFirst hkind id hc.1, hc.2⟩
    · exact ⟨hc.1, JvmClass.kind_mapFirst hkind id hc.2⟩
  subclassesDistinct c hc := by
    unfold JvmClass.mapMember
    split <;> exact hc
  subclassesPresent c sub hsub := by
    unfold JvmClass.mapMember at hsub
    split at hsub <;> exact .inl hsub

theorem allows_memberAttribute (id : MemberId) (added : Attribute) :
    pool.Allows [] (·.mapMember id fun m => { m with attributes := m.attributes ++ [added] }) :=
  allows_mapMember id _ (fun _ => rfl) fun _ => List.Subperm.refl _

theorem allows_replaceMember (id next : MemberId) :
    pool.Allows [next] (·.mapMember id fun m => { m with id := next }) :=
  allows_mapMember id _ (fun _ => rfl) fun _ =>
    List.singleton_subperm_iff.mpr List.mem_cons_self

theorem allows_memberEdit (id : MemberId) (edit : MemberEdit) :
    pool.Allows [] (·.mapMember id edit.apply) :=
  allows_mapMember id _ (fun _ => rfl) fun _ => List.Subperm.refl _

/-! ## The operations as edits -/

theorem addSubclass_eq_ok {super sub : ClassId} {after : ClassPool}
    (h : pool.addSubclass super sub = .ok after) :
    (pool.class? sub).isSome ∧ after = pool.mapClass super fun c =>
      if c.hasDirectSubclass sub then c else { c with subclasses := c.subclasses ++ [sub] } := by
  unfold addSubclass at h
  split at h
  · exact absurd h nofun
  · rename_i hsub
    split at h
    · exact absurd h nofun
    · exact ⟨Option.isSome_iff_ne_none.mpr fun hnone => hsub (by simp [hnone]),
        (Except.ok.inj h).symm⟩

theorem addClassAttribute_eq_ok {id : ClassId} {added : Attribute} {after : ClassPool}
    (h : pool.addClassAttribute id added = .ok after) :
    after = pool.mapClass id fun c => { c with attributes := c.attributes ++ [added] } := by
  unfold addClassAttribute at h
  split at h
  · exact absurd h nofun
  · exact (Except.ok.inj h).symm

theorem addMember_eq_ok {owner : ClassId} {kind : MemberKind} {name descriptor : String}
    {ref : MemberRef} {after : ClassPool}
    (h : pool.addMember owner kind name descriptor = .ok (ref, after)) :
    ref.member = ⟨pool.nextMember⟩ ∧
      after = { pool.mapClass owner
          (·.addMember { id := ⟨pool.nextMember⟩, kind, name, descriptor }) with
        nextMember := pool.nextMember + 1 } := by
  unfold addMember at h
  split at h
  · exact absurd h nofun
  · obtain ⟨rfl, rfl⟩ := Prod.mk.inj (Except.ok.inj h)
    exact ⟨rfl, rfl⟩

theorem addMemberAttribute_eq_ok {ref : MemberRef} {added : Attribute} {after : ClassPool}
    (h : pool.addMemberAttribute ref added = .ok after) :
    after = pool.mapClass ref.owner (·.mapMember ref.member fun m =>
      { m with attributes := m.attributes ++ [added] }) := by
  unfold addMemberAttribute at h
  split at h
  · exact absurd h nofun
  · exact (Except.ok.inj h).symm

theorem replaceMember_eq_ok {ref fresh : MemberRef} {after : ClassPool}
    (h : pool.replaceMember ref = .ok (fresh, after)) :
    fresh.member = ⟨pool.nextMember⟩ ∧
      after = { pool.mapClass ref.owner
          (·.mapMember ref.member fun m => { m with id := ⟨pool.nextMember⟩ }) with
        nextMember := pool.nextMember + 1 } := by
  unfold replaceMember at h
  split at h
  · exact absurd h nofun
  · obtain ⟨rfl, rfl⟩ := Prod.mk.inj (Except.ok.inj h)
    exact ⟨rfl, rfl⟩

/-! ## Adding and removing a class -/

theorem WellFormed.empty : ({} : ClassPool).WellFormed :=
  ⟨nofun, nofun, List.Pairwise.nil, List.Pairwise.nil, nofun, nofun, nofun, nofun⟩

/-- What adding a class comes to, with the name index apart. -/
theorem addClass_eq_ok {name : String} {kind : ClassKind} {id : ClassId} {after : ClassPool}
    (h : pool.addClass name kind = .ok (id, after)) :
    pool.nameIndex.lookup name = none ∧ id = ⟨pool.nextClass⟩ ∧
      after = { pool with
        classes := pool.classes ++ [{ id, name, kind }]
        nameIndex := pool.nameIndex ++ [(name, id)]
        nextClass := pool.nextClass + 1 } := by
  unfold addClass at h
  split at h
  · exact absurd h nofun
  · rename_i hname
    obtain ⟨rfl, rfl⟩ := Prod.mk.inj (Except.ok.inj h)
    exact ⟨Option.not_isSome_iff_eq_none.mp hname, rfl, rfl⟩

theorem WellFormed.addClass (h : pool.WellFormed) (hnext : pool.nextClass.toNat + 1 < UInt32.size)
    {name : String} {kind : ClassKind} {id : ClassId} {after : ClassPool}
    (hadd : pool.addClass name kind = .ok (id, after)) : after.WellFormed := by
  obtain ⟨-, rfl, hafter⟩ := addClass_eq_ok hadd
  have hclasses : after.classes = pool.classes ++ [{ id := ⟨pool.nextClass⟩, name, kind }] := by
    rw [hafter]
  have hcounter : after.nextClass = pool.nextClass + 1 := by rw [hafter]
  have hmembers : after.memberIds = pool.memberIds := by
    rw [memberIds, hclasses, List.flatMap_append]
    exact List.append_nil _
  have hpresent : ∀ sub, (pool.class? sub).isSome → (after.class? sub).isSome := by
    intro sub hsub
    rw [isSome_class?_iff] at hsub ⊢
    rw [ids, hclasses, List.map_append]
    exact List.mem_append_left _ hsub
  have hincreasing : after.classes.Pairwise fun c d => c.id.number < d.id.number := by
    rw [hclasses]
    refine List.pairwise_append.mpr ⟨h.increasing, List.pairwise_singleton _ _, ?_⟩
    intro c hc d hd
    obtain rfl := List.mem_singleton.mp hd
    exact h.classBelow c hc
  -- The new class has neither members nor direct subclasses.
  have hcases : ∀ {p : JvmClass → Prop}, (∀ c ∈ pool.classes, p c) →
      p { id := ⟨pool.nextClass⟩, name, kind } → ∀ c ∈ after.classes, p c := by
    intro p hold hnew c hc
    rw [hclasses] at hc
    rcases List.mem_append.mp hc with hc | hc
    · exact hold c hc
    · exact List.mem_singleton.mp hc ▸ hnew
  refine ⟨fun c hc => class?_of_increasing hincreasing hc, ?_, hincreasing, ?_, ?_, ?_, ?_, ?_⟩
  · rw [hcounter]
    exact hcases (fun c hc => lt_add_one hnext (.inl (h.classBelow c hc)))
      (lt_add_one hnext (.inr rfl))
  · exact hmembers ▸ h.distinct
  · rw [hmembers, hafter]
    exact h.memberBelow
  · exact hcases h.kinds ⟨nofun, nofun⟩
  · exact hcases h.subclassesDistinct List.nodup_nil
  · exact hcases (fun c hc sub hsub => hpresent sub (h.subclassesPresent c hc sub hsub)) nofun

/-- What removing a class comes to. -/
theorem removeClass_eq_ok {id : ClassId} {c : JvmClass} {after : ClassPool}
    (h : pool.removeClass id = .ok (c, after)) :
    pool.class? id = some c ∧
      after = { pool with
        classes := (pool.classes.filter (·.id != id)).map fun other =>
          { other with subclasses := other.subclasses.filter (· != id) }
        nameIndex := pool.nameIndex.filter (·.1 != c.name) } := by
  unfold removeClass at h
  split at h
  · exact absurd h nofun
  · rename_i hfound
    obtain ⟨rfl, rfl⟩ := Prod.mk.inj (Except.ok.inj h)
    exact ⟨hfound, rfl⟩

theorem ids_removeClass {id : ClassId} {c : JvmClass} {after : ClassPool}
    (hremove : pool.removeClass id = .ok (c, after)) :
    after.ids = pool.ids.filter (· != id) := by
  obtain ⟨-, rfl⟩ := removeClass_eq_ok hremove
  rw [ids, List.map_map, ids, List.filter_map]
  rfl

theorem WellFormed.removeClass (h : pool.WellFormed) {id : ClassId} {c : JvmClass}
    {after : ClassPool} (hremove : pool.removeClass id = .ok (c, after)) : after.WellFormed := by
  obtain ⟨-, hafter⟩ := removeClass_eq_ok hremove
  have hclasses : after.classes = (pool.classes.filter (·.id != id)).map fun other =>
      { other with subclasses := other.subclasses.filter (· != id) } := by
    rw [hafter]
  have hids := ids_removeClass hremove
  have hclass : after.nextClass = pool.nextClass := by rw [hafter]
  have hmember : after.nextMember = pool.nextMember := by rw [hafter]
  have hmembers : List.Sublist after.memberIds pool.memberIds := by
    rw [memberIds, hclasses, List.flatMap_map]
    exact List.filter_sublist.flatMap JvmClass.memberIds
  have hincreasing : after.classes.Pairwise fun c d => c.id.number < d.id.number := by
    rw [← pairwise_ids, hids]
    exact (pairwise_ids.mpr h.increasing).filter _
  -- A class that is left differs in its direct subclasses only.
  have hcases : ∀ {p : JvmClass → Prop},
      (∀ c ∈ pool.classes, p { c with subclasses := c.subclasses.filter (· != id) }) →
      ∀ c ∈ after.classes, p c := by
    intro p hold d hd
    rw [hclasses] at hd
    obtain ⟨c, hc, rfl⟩ := List.mem_map.mp hd
    exact hold c (List.mem_filter.mp hc).1
  refine ⟨fun c hc => class?_of_increasing hincreasing hc, ?_, hincreasing, ?_, ?_, ?_, ?_, ?_⟩
  · rw [hclass]
    exact hcases h.classBelow
  · exact h.distinct.sublist hmembers
  · rw [hmember]
    exact fun m hm => h.memberBelow m (hmembers.subset hm)
  · exact hcases h.kinds
  · exact hcases fun c hc => (h.subclassesDistinct c hc).filter _
  · refine hcases fun c hc sub hsub => ?_
    obtain ⟨hsub, hne⟩ := List.mem_filter.mp hsub
    have hold := isSome_class?_iff.mp (h.subclassesPresent c hc sub hsub)
    rw [isSome_class?_iff, hids]
    exact List.mem_filter.mpr ⟨hold, hne⟩

/-! ## The index of names -/

/-- An edit that neither gives the name to a class nor takes it away leaves the index right. -/
theorem IndexedAt.mapClass {name : String} (h : pool.IndexedAt name) {f : JvmClass → JvmClass}
    (hid : ∀ c, (f c).id = c.id) {id : ClassId}
    (hname : ∀ c ∈ pool.classes, c.id = id → ((f c).name = name ↔ c.name = name)) :
    (pool.mapClass id f).IndexedAt name := by
  have hedit : ∀ c ∈ pool.classes,
      ((if c.id == id then f c else c).name = name ↔ c.name = name) ∧
        (if c.id == id then f c else c).id = c.id := by
    intro c hc
    by_cases heq : c.id = id
    · simp [heq, hid, hname c hc heq]
    · simp [heq]
  intro other
  refine (h other).trans ⟨?_, ?_⟩
  · rintro ⟨c, hc, hcname, rfl⟩
    exact ⟨_, List.mem_map_of_mem hc, (hedit c hc).1.mpr hcname, (hedit c hc).2⟩
  · rintro ⟨d, hd, hdname, rfl⟩
    obtain ⟨c, hc, rfl⟩ := List.mem_map.mp hd
    exact ⟨c, hc, (hedit c hc).1.mp hdname, (hedit c hc).2.symm⟩

/-- The name of a new class was not taken, so that its entry hides no other. -/
theorem IndexedAt.addClass {other : String} (h : pool.IndexedAt other) {name : String}
    {kind : ClassKind} {id : ClassId} {after : ClassPool}
    (hadd : pool.addClass name kind = .ok (id, after)) : after.IndexedAt other := by
  obtain ⟨hfree, -, rfl⟩ := addClass_eq_ok hadd
  intro target
  rw [List.lookup_append]
  by_cases heq : other = name
  · subst heq
    have hfound : (pool.nameIndex.lookup other).or ([(other, id)].lookup other) = some id := by
      simp [hfree]
    rw [hfound]
    refine ⟨fun htarget => ?_, ?_⟩
    · obtain rfl := Option.some.inj htarget
      exact ⟨_, List.mem_append_right _ (List.mem_singleton.mpr rfl), rfl, rfl⟩
    · rintro ⟨c, hc, hname, rfl⟩
      rcases List.mem_append.mp hc with hc | hc
      · have htaken := (h c.id).mpr ⟨c, hc, hname, rfl⟩
        rw [hfree] at htaken
        exact absurd htaken nofun
      · rw [List.mem_singleton.mp hc]
  · have hsame : (pool.nameIndex.lookup other).or ([(name, id)].lookup other) =
        pool.nameIndex.lookup other := by
      have hnone : [(name, id)].lookup other = none := by simp [heq]
      rw [hnone, Option.or_none]
    rw [hsame, h target]
    constructor
    · rintro ⟨c, hc, hname, hid⟩
      exact ⟨c, List.mem_append_left _ hc, hname, hid⟩
    · rintro ⟨c, hc, hname, hid⟩
      rcases List.mem_append.mp hc with hc | hc
      · exact ⟨c, hc, hname, hid⟩
      · rw [List.mem_singleton.mp hc] at hname
        exact absurd hname.symm heq

theorem lookup_filter_ne (index : List (String × ClassId)) (removed name : String) :
    (index.filter (·.1 != removed)).lookup name =
      if name = removed then none else index.lookup name := by
  induction index with
  | nil => simp
  | cons entry index ih =>
    obtain ⟨key, id⟩ := entry
    by_cases hkey : key = removed
    · rw [List.filter_cons_of_neg (by simp [hkey]), ih, List.lookup_cons]
      by_cases hname : name = removed
      · rw [if_pos hname, if_pos hname]
      · have hne : (name == key) = false := by simp [hkey, hname]
        rw [if_neg hname, if_neg hname, hne]
    · rw [List.filter_cons_of_pos (by simp [hkey]), List.lookup_cons, List.lookup_cons, ih]
      by_cases hname : name = removed
      · have hne : (name == key) = false := by
          rw [hname]
          exact beq_eq_false_iff_ne.mpr (Ne.symm hkey)
        rw [if_pos hname, if_pos hname, hne]
      · rw [if_neg hname, if_neg hname]

/-- No other class has the name of the one that is removed. -/
theorem IndexedAt.removeClass {name : String} (h : pool.IndexedAt name) (hwf : pool.WellFormed)
    {id : ClassId} {c : JvmClass} {after : ClassPool}
    (hremove : pool.removeClass id = .ok (c, after)) : after.IndexedAt name := by
  obtain ⟨hfound, rfl⟩ := removeClass_eq_ok hremove
  have hc : c ∈ pool.classes := List.mem_of_find?_eq_some hfound
  have hid : c.id = id := by simpa using List.find?_some hfound
  intro target
  simp only [lookup_filter_ne]
  by_cases hname : name = c.name
  · rw [if_pos hname]
    refine ⟨nofun, ?_⟩
    rintro ⟨_, hmem, hdname, -⟩
    obtain ⟨d, hkept, rfl⟩ := List.mem_map.mp hmem
    obtain ⟨hd, hne⟩ := List.mem_filter.mp hkept
    have hother := (h d.id).mpr ⟨d, hd, hdname, rfl⟩
    have hown := (h c.id).mpr ⟨c, hc, hname.symm, rfl⟩
    rw [hother, hid] at hown
    simp [Option.some.inj hown] at hne
  · rw [if_neg hname, h target]
    refine ⟨?_, ?_⟩
    · rintro ⟨d, hd, rfl, rfl⟩
      -- The class with the identity that goes has the name that goes.
      have hne : d.id ≠ id := by
        intro heq
        have hown := hwf.own d hd
        rw [heq, hfound] at hown
        exact hname (congrArg JvmClass.name (Option.some.inj hown).symm)
      exact ⟨_, List.mem_map_of_mem (List.mem_filter.mpr ⟨hd, by simp [hne]⟩), rfl, rfl⟩
    · rintro ⟨_, hmem, rfl, rfl⟩
      obtain ⟨d, hkept, rfl⟩ := List.mem_map.mp hmem
      exact ⟨d, (List.mem_filter.mp hkept).1, rfl, rfl⟩

/-! ### All names together -/

theorem Indexed.empty : ({} : ClassPool).Indexed :=
  fun _ _ => ⟨nofun, fun ⟨_, hc, _⟩ => absurd hc List.not_mem_nil⟩

/-- An edit that renames no class leaves the index right. -/
theorem Indexed.mapClass (h : pool.Indexed) {f : JvmClass → JvmClass}
    (hid : ∀ c, (f c).id = c.id) {id : ClassId}
    (hname : ∀ c ∈ pool.classes, c.id = id → (f c).name = c.name) :
    (pool.mapClass id f).Indexed := by
  intro name
  exact (h name).mapClass hid fun c hc heq => by rw [hname c hc heq]

theorem Indexed.addClass (h : pool.Indexed) {name : String} {kind : ClassKind} {id : ClassId}
    {after : ClassPool} (hadd : pool.addClass name kind = .ok (id, after)) : after.Indexed :=
  fun other => (h other).addClass hadd

theorem Indexed.removeClass (h : pool.Indexed) (hwf : pool.WellFormed) {id : ClassId}
    {c : JvmClass} {after : ClassPool} (hremove : pool.removeClass id = .ok (c, after)) :
    after.Indexed :=
  fun name => (h name).removeClass hwf hremove

end ClassPool

end KotlinMetadata
