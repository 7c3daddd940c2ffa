import KotlinMetadata.Proofs.EditReport

/-! # An inspection sees identities only

    Of a pool, an inspection asks which classes there are and which members each of them has, by
    identity.  Two pools that agree on this are alike to it, whatever else their classes and
    members are.

    - `ClassPool.SameIdentities`: two pools with the same classes and members, by identity;
    - `ClassPool.accept_matching`: the members of a class are compared with a link one by one, by
      a visitor that looks at no kind, name or descriptor;
    - `SameIdentities.inspect`: inspections of the two pools differ in the name of the class alone;
    - `PoolOp.keepsIdentities`: operations after which a pool has the identities it had;
    - `Config.inspect_identityOnly`: all this, with what it takes for a link to be reported.
-/

namespace KotlinMetadata

/-! ## The visitor behind a check -/

theorem MemberVisitor.run_matching (target : MemberId) (c : JvmClass) (ms : List Member)
    (matched : Bool) :
    (ms.forM ((matching target).visit c)).run matched =
      .ok () (matched || ms.any (·.id == target)) := by
  induction ms generalizing matched with
  | nil =>
    rw [List.any_nil, Bool.or_false]
    rfl
  | cons m ms ih =>
    show (ms.forM ((matching target).visit c)).run (matched || m.id == target) = _
    rw [ih, List.any_cons, Bool.or_assoc]

/-- Shown the members of the claimed class, the visitor finds a link exactly if the class owns the
    member, whatever the kind of the class. -/
theorem ClassPool.accept_matching (pool : ClassPool) (kind : MemberKind) (ref : MemberRef) :
    (pool.accept ref.owner (ClassVisitor.membersOfKind kind (.matching ref.member)).visit).run
      false = .ok () (decide (pool.Owns kind ref)) := by
  have hlists : decide (pool.Owns kind ref) = pool.lists kind ref := by
    rw [Bool.eq_iff_iff, decide_eq_true_iff]
    exact (pool.lists_iff kind ref).symm
  rw [hlists, ClassPool.lists, ClassPool.accept]
  cases pool.class? ref.owner with
  | none => rfl
  | some c =>
    have hshown : (ClassVisitor.membersOfKind kind (.matching ref.member)).visit c =
        (c.membersOfKind kind).forM ((MemberVisitor.matching ref.member).visit c) := by
      cases kind <;> rfl
    have hone : ∀ visit : JvmClass → Visit Bool Unit, (some c).toList.forM visit = visit c :=
      fun visit => bind_pure_unit
    rw [hone, hshown, MemberVisitor.run_matching, Bool.false_or]

/-! ## Pools that are alike -/

namespace ClassPool
variable {p q r : ClassPool}

/-- Two pools have the same classes, and under each identity the same members of each kind, by
    identity.  Names, kinds, descriptors, flags, attributes, subclasses and the order of members
    are not compared. -/
structure SameIdentities (p q : ClassPool) : Prop where
  classes : ∀ id, (p.class? id).isSome ↔ (q.class? id).isSome
  members : ∀ id c d, p.class? id = some c → q.class? id = some d →
    ∀ kind member, member ∈ c.idsOfKind kind ↔ member ∈ d.idsOfKind kind

namespace SameIdentities

theorem refl (p : ClassPool) : p.SameIdentities p where
  classes _ := Iff.rfl
  members id c d hc hd kind member := by
    rw [hc] at hd
    rw [Option.some.inj hd]

theorem symm (h : p.SameIdentities q) : q.SameIdentities p where
  classes id := (h.classes id).symm
  members id c d hc hd kind member := (h.members id d c hd hc kind member).symm

theorem trans (hpq : p.SameIdentities q) (hqr : q.SameIdentities r) : p.SameIdentities r where
  classes id := (hpq.classes id).trans (hqr.classes id)
  members id c e hc he kind member := by
    have hsome : (q.class? id).isSome := (hpq.classes id).mp (by rw [hc]; rfl)
    obtain ⟨d, hd⟩ := Option.isSome_iff_exists.mp hsome
    exact (hpq.members id c d hc hd kind member).trans (hqr.members id d e hd he kind member)

/-- They own the same members. -/
theorem owns_iff (h : p.SameIdentities q) (kind : MemberKind) (ref : MemberRef) :
    p.Owns kind ref ↔ q.Owns kind ref := by
  have hone : ∀ {p q : ClassPool}, p.SameIdentities q → p.Owns kind ref → q.Owns kind ref := by
    intro p q h howns
    obtain ⟨c, hc, hmember⟩ := owns_iff_mem_idsOfKind.mp howns
    obtain ⟨d, hd⟩ := Option.isSome_iff_exists.mp ((h.classes ref.owner).mp (by rw [hc]; rfl))
    exact owns_iff_mem_idsOfKind.mpr ⟨d, hd, (h.members _ c d hc hd kind _).mp hmember⟩
  exact ⟨hone h, hone h.symm⟩

end SameIdentities

/-- An edit of a class that keeps its identity and those of its members. -/
theorem sameIdentities_mapClass (pool : ClassPool) (id : ClassId) {f : JvmClass → JvmClass}
    (hid : ∀ c, (f c).id = c.id)
    (hmembers : ∀ c kind member, member ∈ (f c).idsOfKind kind ↔ member ∈ c.idsOfKind kind) :
    pool.SameIdentities (pool.mapClass id f) where
  classes other := (isSome_class?_mapClass hid id other).symm
  members other c d hc hd kind member := by
    rw [class?_mapClass hid, hc, Option.map_some] at hd
    obtain rfl := Option.some.inj hd
    by_cases heq : other = id
    · rw [if_pos heq, hmembers]
    · rw [if_neg heq]

end ClassPool

/-! ## Violations -/

/-- A violation without the name of the class whose metadata was checked. -/
def Violation.anonymous (v : Violation) : Violation := { v with className := "" }

namespace ClassPool.SameIdentities
variable {p q : ClassPool}

/-- What is wrong with a link is the same in both pools. -/
theorem fault?_eq (h : p.SameIdentities q) (demand : Demand) :
    demand.fault? p = demand.fault? q := by
  cases demand with
  | resolved link => cases link <;> rfl
  | owned kind link =>
    cases link with
    | none => rfl
    | some ref => simp only [Demand.fault?, h.owns_iff kind ref]

theorem violation?_eq (h : p.SameIdentities q) {c d : JvmClass} (hid : c.id = d.id)
    (m : Metadata) (slot : Slot) :
    (slot.violation? ⟨p, c, m⟩).map Violation.anonymous =
      (slot.violation? ⟨q, d, m⟩).map Violation.anonymous := by
  unfold Slot.violation?
  rw [h.fault?_eq, Option.map_map, Option.map_map]
  simp only [Function.comp_def, Violation.anonymous, hid]

/-- Slots give the same violations in both pools, in the same order. -/
theorem violations_eq (h : p.SameIdentities q) {c d : JvmClass} (hid : c.id = d.id)
    (m : Metadata) (slots : List Slot) :
    (Slot.violations ⟨p, c, m⟩ slots).map Violation.anonymous =
      (Slot.violations ⟨q, d, m⟩ slots).map Violation.anonymous := by
  unfold Slot.violations
  rw [List.map_filterMap, List.map_filterMap]
  exact congrArg (slots.filterMap ·) (funext fun slot => h.violation?_eq hid m slot)

/-- So inspections find the same in both pools. -/
theorem inspect (h : p.SameIdentities q) (config : Config) (reporter : Reporter) (id : ClassId)
    (m : Metadata) :
    (config.inspect reporter p id m).violations.map Violation.anonymous =
      (config.inspect reporter q id m).violations.map Violation.anonymous := by
  cases hc : p.class? id with
  | none =>
    have habsent : q.class? id = none := by
      rw [← Option.not_isSome_iff_eq_none, ← h.classes id, hc]
      exact Bool.false_ne_true
    rw [Config.inspect, Config.inspect, hc, habsent]
  | some c =>
    obtain ⟨d, hd⟩ := Option.isSome_iff_exists.mp ((h.classes id).mp (by rw [hc]; rfl))
    have hid : c.id = d.id := (id_of_class? hc).trans (id_of_class? hd).symm
    rw [config.violations_inspect reporter m hc, config.violations_inspect reporter m hd,
      Config.violations_eq, Config.violations_eq, List.map_flatMap, List.map_flatMap]
    simp only [h.violations_eq hid]

end ClassPool.SameIdentities

/-! ## Operations -/

/-- The operation gives no class or member an identity and takes none away.  It may rename classes
    and members, give them other kinds, descriptors and flags, add and drop attributes, and record
    subclasses. -/
def PoolOp.keepsIdentities : PoolOp → Bool
  | .addSubclass _ _ | .addClassAttribute _ _ | .addMemberAttribute _ _ | .editMember _ _ => true
  | .editClass _ edit => edit.dropMember.isNone
  | .addClass _ _ | .removeClass _ | .addMember _ _ _ _ | .replaceMember _ => false

namespace JvmClass

theorem map_id_mapFirst_of_keeps {g : Member → Member} (hg : ∀ m, (g m).id = m.id) (id : MemberId)
    (ms : List Member) : (mapFirst id g ms).map (·.id) = ms.map (·.id) := by
  induction ms with
  | nil => rfl
  | cons m ms ih =>
    unfold mapFirst
    split
    · rw [List.map_cons, List.map_cons, hg]
    · rw [List.map_cons, List.map_cons, ih]

/-- An edit of a member that keeps its identity. -/
theorem idsOfKind_mapMember {g : Member → Member} (hg : ∀ m, (g m).id = m.id) (c : JvmClass)
    (id : MemberId) (kind : MemberKind) : (c.mapMember id g).idsOfKind kind = c.idsOfKind kind := by
  unfold mapMember
  split
  · cases kind with
    | field => exact map_id_mapFirst_of_keeps hg id c.fields
    | method => rfl
  · cases kind with
    | field => rfl
    | method => exact map_id_mapFirst_of_keeps hg id c.methods

end JvmClass

namespace ClassPool

theorem sameIdentities_mapMember (pool : ClassPool) (ref : MemberRef) {g : Member → Member}
    (hg : ∀ m, (g m).id = m.id) :
    pool.SameIdentities (pool.mapClass ref.owner (·.mapMember ref.member g)) := by
  refine pool.sameIdentities_mapClass ref.owner ?_ ?_
  · intro c
    unfold JvmClass.mapMember
    split <;> rfl
  · intro c kind member
    rw [JvmClass.idsOfKind_mapMember hg]

/-- The step: such an operation leaves the pool alike, also if it is refused. -/
theorem sameIdentities_after (pool : ClassPool) {op : PoolOp} (hop : op.keepsIdentities = true) :
    pool.SameIdentities (pool.after op) := by
  have hrefused := SameIdentities.refl pool
  cases op with
  | addClass _ _ => exact absurd hop Bool.false_ne_true
  | removeClass _ => exact absurd hop Bool.false_ne_true
  | addMember _ _ _ _ => exact absurd hop Bool.false_ne_true
  | replaceMember _ => exact absurd hop Bool.false_ne_true
  | addSubclass super sub =>
    refine after_of_map pool.SameIdentities rfl hrefused fun changed hadd => ?_
    obtain ⟨-, rfl⟩ := addSubclass_eq_ok hadd
    refine pool.sameIdentities_mapClass super ?_ ?_
    · intro c
      split <;> rfl
    · intro c kind member
      split <;> cases kind <;> exact Iff.rfl
  | addClassAttribute id added =>
    refine after_of_map pool.SameIdentities rfl hrefused fun changed hadd => ?_
    obtain rfl := addClassAttribute_eq_ok hadd
    refine pool.sameIdentities_mapClass id (fun _ => rfl) fun c kind member => ?_
    cases kind <;> exact Iff.rfl
  | addMemberAttribute ref added =>
    refine after_of_map pool.SameIdentities rfl hrefused fun changed hadd => ?_
    obtain rfl := addMemberAttribute_eq_ok hadd
    exact pool.sameIdentities_mapMember ref fun _ => rfl
  | editMember ref edit => exact pool.sameIdentities_mapMember ref fun _ => rfl
  | editClass id edit =>
    have hdrop : edit.dropMember = none := Option.isNone_iff_eq_none.mp hop
    refine pool.sameIdentities_mapClass id ?_ ?_
    · intro c
      unfold ClassEdit.apply
      rw [hdrop]
    · intro c kind member
      unfold ClassEdit.apply
      rw [hdrop]
      cases kind <;> exact Iff.rfl

/-- Several of them do so too. -/
theorem sameIdentities_foldl (pool : ClassPool) {ops : List PoolOp}
    (hops : ∀ op ∈ ops, op.keepsIdentities = true) :
    pool.SameIdentities (ops.foldl after pool) := by
  induction ops generalizing pool with
  | nil => exact .refl pool
  | cons op ops ih =>
    obtain ⟨hop, hrest⟩ := List.forall_mem_cons.mp hops
    exact (pool.sameIdentities_after hop).trans (ih (pool.after op) hrest)

end ClassPool

/-! ## Links that lead nowhere -/

/-- A slot of an enabled constraint is reported if the claimed class has no member of the kind
    with the identity of the link. -/
theorem Config.mem_violations_inspect (config : Config) (reporter : Reporter) {pool : ClassPool}
    {id : ClassId} {c : JvmClass} (hc : pool.class? id = some c) {m : Metadata} {slot : Slot}
    {kind : ConstraintKind} (henabled : kind ∈ config.constraints)
    (hslot : slot ∈ m.walk.flatMap kind.slots) {memberKind : MemberKind} {ref : MemberRef}
    (hdemand : slot.demand = .owned memberKind (some ref))
    (hnone : ∀ owner, pool.class? ref.owner = some owner →
      ref.member ∉ owner.idsOfKind memberKind) :
    slot.invalid c m ∈ (config.inspect reporter pool id m).violations := by
  have hnot : ¬ pool.Owns memberKind ref := by
    intro howns
    obtain ⟨owner, howner, hmember⟩ := ClassPool.owns_iff_mem_idsOfKind.mp howns
    exact hnone owner howner hmember
  obtain ⟨parent, element, demand⟩ := slot
  subst hdemand
  rw [config.violations_inspect reporter m hc, config.violations_eq]
  refine List.mem_flatMap.mpr ⟨kind, ConstraintKind.mem_enabledIn.mpr henabled, ?_⟩
  exact List.mem_filterMap.mpr ⟨_, hslot, Slot.violation?_of_broken hnot⟩

/-- **Identities only**: inspections of one graph in two pools that have the same classes and
    members by identity find the same violations in the same order, but for the name of the class
    that a violation gives.  Operations that neither give nor take identities lead to such pools,
    whatever they rename, annotate or change.  And a link to a member that the claimed class does
    not have is reported, whichever members it has otherwise. -/
theorem Config.inspect_identityOnly (p : ClassPool) (config : Config) (reporter : Reporter)
    (id : ClassId) (m : Metadata) :
    (∀ q : ClassPool, p.SameIdentities q →
      (config.inspect reporter p id m).violations.map Violation.anonymous =
        (config.inspect reporter q id m).violations.map Violation.anonymous ∧
      (config.inspect reporter p id m).count = (config.inspect reporter q id m).count) ∧
    (∀ ops : List PoolOp, (∀ op ∈ ops, op.keepsIdentities = true) →
      p.SameIdentities (ops.foldl ClassPool.after p)) ∧
    (∀ c, p.class? id = some c → ∀ kind ∈ config.constraints,
      ∀ slot ∈ m.walk.flatMap kind.slots, ∀ memberKind ref,
      slot.demand = .owned memberKind (some ref) →
      (∀ owner, p.class? ref.owner = some owner → ref.member ∉ owner.idsOfKind memberKind) →
      slot.invalid c m ∈ (config.inspect reporter p id m).violations) := by
  refine ⟨?_, fun ops hops => p.sameIdentities_foldl hops, ?_⟩
  · intro q hsame
    have hviolations := hsame.inspect config reporter id m
    refine ⟨hviolations, ?_⟩
    simpa [Inspection.count] using congrArg List.length hviolations
  · intro c hc kind henabled slot hslot memberKind ref hdemand hnone
    exact config.mem_violations_inspect reporter hc henabled hslot hdemand hnone

/-- The class and the method left in it get other names, and the class another kind. -/
def renamedThroughout : List PoolOp :=
  [.editClass ⟨0⟩ { name := some "x/X", kind := some .library },
    .editMember ⟨⟨0⟩, ⟨1⟩⟩ { name := some "go", descriptor := some "(I)V", accessFlags := some 0 },
    .addClassAttribute ⟨0⟩ (.other "Deprecated")]

/-- The function of the facade links to a method that was replaced by another one of the same name
    and descriptor.  This is reported before and after the class and that method are renamed. -/
theorem Config.inspect_identityOnly_of_renamed :
    (({} : Config).inspect .keep replacedMethodPool ⟨0⟩ staleFacade).violations.map
        Violation.anonymous =
      (({} : Config).inspect .keep (renamedThroughout.foldl ClassPool.after replacedMethodPool) ⟨0⟩
        staleFacade).violations.map Violation.anonymous ∧
    Slot.invalid replacedMethodPool.classes[0] staleFacade
        ⟨"function run", "referenced method", .owned .method (some ⟨⟨0⟩, ⟨0⟩⟩)⟩ ∈
      (({} : Config).inspect .keep replacedMethodPool ⟨0⟩ staleFacade).violations := by
  obtain ⟨hsame, hkept, hreported⟩ :=
    Config.inspect_identityOnly replacedMethodPool {} .keep ⟨0⟩ staleFacade
  have halike := hkept renamedThroughout (by decide)
  refine ⟨(hsame _ halike).1, ?_⟩
  refine hreported _ rfl .function (by decide) _ (by decide) .method ⟨⟨0⟩, ⟨0⟩⟩ rfl ?_
  rintro _ ⟨⟩
  decide

end KotlinMetadata
