import KotlinMetadata.Proofs.AnnotationCount
import KotlinMetadata.Proofs.IdentityOnly

/-! # Checked links and looked-up members

    Whether a link is good is found out in two ways.  A check shows the members of one kind to a
    visitor that notes an identity.  A look-up goes through the fields and then the methods, and
    takes the first member that has the identity.  They agree if identities are distinct and every
    member stands in the list of its kind, and so they do on every pool that a run reaches.

    - `ClassPool.isSome_member?_iff`: a link leads somewhere if it is good for one of the kinds;
    - `WellFormed.accept_matching_eq`, `not_owns_iff`, `kind_unique`: what the kind adds to this;
    - `Site.ChecksAgree`: the two checks of a link beside its look-up;
    - `ClassPool.attributesOf_elementOf?`: what a pass over annotation flags looks up and counts;
    - `Demand.Met`: what an inspection vouches for by its silence;
    - `PoolRun.checks_agree_with_lookup`: all this on every pool that a run reaches.
-/

namespace KotlinMetadata

/-! ## A single link -/

namespace ClassPool
variable {pool : ClassPool} {kind other : MemberKind} {ref : MemberRef}

/-- On any pool, a link leads to a member exactly if it is good for one of the two kinds. -/
theorem isSome_member?_iff :
    (pool.member? ref).isSome ↔ pool.Owns .field ref ∨ pool.Owns .method ref := by
  unfold member? Owns
  cases pool.class? ref.owner with
  | none => simp
  | some c =>
    rw [Option.bind_some, JvmClass.findMember?, List.find?_isSome, JvmClass.members]
    simp only [List.mem_append, beq_iff_eq, or_and_right, exists_or, Option.some.injEq,
      exists_eq_left', JvmClass.membersOfKind]

/-- A link is broken for a kind if it leads nowhere, or to a member of the other kind. -/
theorem WellFormed.not_owns_iff (h : pool.WellFormed) :
    ¬ pool.Owns kind ref ↔
      pool.member? ref = none ∨ ∃ m, pool.member? ref = some m ∧ m.kind ≠ kind := by
  rw [h.owns_iff]
  cases pool.member? ref with
  | none => simp
  | some m => simp

/-- No link is good for both kinds: what it leads to is of one. -/
theorem WellFormed.kind_unique (h : pool.WellFormed) (hkind : pool.Owns kind ref)
    (hother : pool.Owns other ref) : kind = other := by
  obtain ⟨m, hm, rfl⟩ := h.owns_iff.mp hkind
  obtain ⟨n, hn, rfl⟩ := h.owns_iff.mp hother
  rw [hm] at hn
  rw [Option.some.inj hn]

/-- The visitor that is shown the members of one kind notes the identity exactly if the first
    member that has it, of either kind, is of that one. -/
theorem WellFormed.accept_matching_eq (h : pool.WellFormed) (kind : MemberKind)
    (ref : MemberRef) :
    (pool.accept ref.owner (ClassVisitor.membersOfKind kind (.matching ref.member)).visit).run
      false = .ok () ((pool.member? ref).any (·.kind == kind)) := by
  have hsame : decide (pool.Owns kind ref) = (pool.member? ref).any (·.kind == kind) := by
    rw [Bool.eq_iff_iff, decide_eq_true_iff, h.owns_iff, Option.any_eq_true]
    simp only [beq_iff_eq]
  rw [accept_matching, hsame]

end ClassPool

/-! ## The checks of a link -/

namespace Site

section
variable (site : Site) (kind : MemberKind) (ref : MemberRef) (element : String)

theorem ifDangling_eq :
    site.ifDangling kind ref element =
      if site.ctx.pool.Owns kind ref then [] else [site.violation .invalidReference element] := by
  simp only [ifDangling, ClassPool.lists_iff]

theorem ifDangling_eq_nil_iff :
    site.ifDangling kind ref element = [] ↔ site.ctx.pool.Owns kind ref := by
  rw [ifDangling_eq]
  split <;> simp [*]

theorem ifDangling_eq_report_iff :
    site.ifDangling kind ref element = [site.violation .invalidReference element] ↔
      ¬ site.ctx.pool.Owns kind ref := by
  rw [ifDangling_eq]
  split <;> simp [*]

end

/-- At a node, the checks of a link for the two kinds, beside what the pool finds by the link. -/
structure ChecksAgree (site : Site) (ref : MemberRef) : Prop where
  /-- A check reports the link if it leads nowhere, or to a member of the other kind. -/
  reports : ∀ kind element,
    site.ifDangling kind ref element = [site.violation .invalidReference element] ↔
      site.ctx.pool.member? ref = none ∨
        ∃ m, site.ctx.pool.member? ref = some m ∧ m.kind ≠ kind
  /-- It is silent if the link leads to a member of its kind. -/
  silent : ∀ kind element, site.ifDangling kind ref element = [] ↔
    ∃ m, site.ctx.pool.member? ref = some m ∧ m.kind = kind
  /-- No link passes both. -/
  apart : ∀ element element',
    ¬ (site.ifDangling .field ref element = [] ∧ site.ifDangling .method ref element' = [])
  /-- A link that leads anywhere passes one of them. -/
  either : ∀ element element', (site.ctx.pool.member? ref).isSome ↔
    site.ifDangling .field ref element = [] ∨ site.ifDangling .method ref element' = []

theorem checksAgree_of_wellFormed {site : Site} (h : site.ctx.pool.WellFormed)
    (ref : MemberRef) : site.ChecksAgree ref where
  reports kind element := by
    rw [ifDangling_eq_report_iff]
    exact h.not_owns_iff
  silent kind element := by
    rw [ifDangling_eq_nil_iff]
    exact h.owns_iff
  apart element element' := by
    rw [ifDangling_eq_nil_iff, ifDangling_eq_nil_iff]
    rintro ⟨hfield, hmethod⟩
    exact absurd (h.kind_unique hfield hmethod) nofun
  either element element' := by
    rw [ifDangling_eq_nil_iff, ifDangling_eq_nil_iff]
    exact ClassPool.isSome_member?_iff

end Site

/-! ## The look-up of a pass -/

namespace ClassPool
variable {pool : ClassPool} {ref : MemberRef}

theorem elementOf?_eq_some_iff {e : AttributeOwner} :
    pool.elementOf? ref = some e ↔
      ∃ c m, pool.class? ref.owner = some c ∧ pool.member? ref = some m ∧ e = .ofMember c m := by
  unfold elementOf?
  cases pool.class? ref.owner <;> cases pool.member? ref <;> simp [eq_comm]

/-- The class is there whenever the member is. -/
theorem exists_elementOf? {m : Member} (hm : pool.member? ref = some m) :
    ∃ c, pool.elementOf? ref = some (.ofMember c m) := by
  obtain ⟨c, hc, -⟩ := Option.bind_eq_some_iff.mp hm
  exact ⟨c, elementOf?_eq_some_iff.mpr ⟨c, m, hc, hm, rfl⟩⟩

/-- What is shown for a link has the attributes that a flag is settled by. -/
theorem attributesOf_elementOf? (pool : ClassPool) (link : Option MemberRef) :
    attributesOf (link.bind pool.elementOf?).toList = pool.memberAttributes link := by
  unfold memberAttributes
  cases link with
  | none => rfl
  | some ref =>
    rw [Option.bind_some, Option.bind_some]
    cases hm : pool.member? ref with
    | none =>
      have hnone : pool.elementOf? ref = none := by
        rw [Option.eq_none_iff_forall_ne_some]
        intro e he
        obtain ⟨_, _, -, hfound, -⟩ := elementOf?_eq_some_iff.mp he
        rw [hm] at hfound
        exact absurd hfound nofun
      rw [hnone]
      rfl
    | some m =>
      obtain ⟨c, hc⟩ := exists_elementOf? hm
      rw [hc]
      exact List.flatMap_singleton _ _

end ClassPool

/-- Counting for a link comes to a reset of the counter and a visit of what is shown for it. -/
theorem FixM.run_recount_eq (pool : ClassPool) (link : Option MemberRef) (s : FixPass) :
    ((link.bind pool.elementOf?).toList.forM AnnotationCounter.visit).run s.counter.reset =
      .ok () ((recount (pool.memberAttributes link)).run s).1 := by
  rw [AnnotationCounter.run_visits, pool.attributesOf_elementOf?]
  rfl

/-! ## Inspections that are silent -/

/-- What a slot links to is there.  A member is one that a pass finds by the link, and of the kind
    that the slot is for. -/
def Demand.Met (pool : ClassPool) : Demand → Prop
  | .resolved link => link.isSome = true
  | .owned kind link => ∃ ref c m,
    link = some ref ∧ pool.elementOf? ref = some (.ofMember c m) ∧ m.kind = kind

theorem ClassPool.WellFormed.fault?_eq_none_iff {pool : ClassPool} (h : pool.WellFormed)
    (demand : Demand) : demand.fault? pool = none ↔ demand.Met pool := by
  cases demand with
  | resolved link => cases link <;> simp [Demand.fault?, Demand.Met]
  | owned kind link =>
    cases link with
    | none => simp [Demand.fault?, Demand.Met]
    | some ref =>
      have howns : (Demand.owned kind (some ref)).fault? pool = none ↔ pool.Owns kind ref := by
        rw [Demand.fault?]
        split <;> simp [*]
      rw [howns, h.owns_iff]
      constructor
      · rintro ⟨m, hm, hkind⟩
        obtain ⟨c, hc⟩ := exists_elementOf? hm
        exact ⟨ref, c, m, rfl, hc, hkind⟩
      · rintro ⟨_, c, m, ⟨⟩, hc, hkind⟩
        obtain ⟨_, _, -, hm, ⟨⟩⟩ := elementOf?_eq_some_iff.mp hc
        exact ⟨m, hm, hkind⟩

/-- An inspection is silent exactly if no slot of an enabled constraint has a fault, or the class
    of the graph is not in the pool and nothing is checked. -/
theorem Config.violations_inspect_eq_nil_iff (config : Config) (reporter : Reporter)
    (pool : ClassPool) (id : ClassId) (m : Metadata) :
    (config.inspect reporter pool id m).violations = [] ↔
      ((pool.class? id).isSome → ∀ kind ∈ config.constraints,
        ∀ slot ∈ m.walk.flatMap kind.slots, slot.demand.fault? pool = none) := by
  cases hc : pool.class? id with
  | none =>
    rw [inspect, hc]
    simp
  | some c =>
    -- The constraints run in an order of their own, which makes no difference to silence.
    rw [config.violations_inspect reporter m hc, config.violations_eq, List.flatMap_eq_nil_iff]
    simp only [ConstraintKind.mem_enabledIn, Slot.violations, List.filterMap_eq_nil_iff,
      Slot.violation?, Option.map_eq_none_iff, Option.isSome_some, forall_const]

/-! ## On every pool of a run -/

namespace PoolRun

/-- **Checks and look-ups agree**: on every pool that a run reaches, as long as there was an
    identity for everything it added, take any link, whether or not it ever led anywhere.  The
    visitor that is shown the members of one kind notes what the look-up finds, if that is of the
    kind.  A check reports the link exactly if the look-up finds nothing or a member of the other
    kind.  A pass over annotation flags counts what the same look-up finds.  So an inspection of a
    class in the pool, with all constraints or some, is silent exactly if each slot that it checks
    leads to what it is for: a member slot to a member of its kind, where a pass finds it. -/
theorem checks_agree_with_lookup (ops : List PoolOp) (hlasts : (of ops).Lasts) :
    (∀ kind ref,
      ((of ops).pool.accept ref.owner
        (ClassVisitor.membersOfKind kind (.matching ref.member)).visit).run false =
          .ok () (((of ops).pool.member? ref).any (·.kind == kind))) ∧
    (∀ site : Site, site.ctx.pool = (of ops).pool → ∀ ref, site.ChecksAgree ref) ∧
    (∀ (link : Option MemberRef) (s : FixPass),
      ((link.bind (of ops).pool.elementOf?).toList.forM AnnotationCounter.visit).run
        s.counter.reset =
          .ok () ((FixM.recount ((of ops).pool.memberAttributes link)).run s).1) ∧
    ∀ (config : Config) reporter id (m : Metadata),
      (config.inspect reporter (of ops).pool id m).violations = [] ↔
        (((of ops).pool.class? id).isSome → ∀ kind ∈ config.constraints,
          ∀ slot ∈ m.walk.flatMap kind.slots, slot.demand.Met (of ops).pool) := by
  have h := hlasts.wellFormed
  refine ⟨h.accept_matching_eq, ?_, FixM.run_recount_eq _, ?_⟩
  · intro site hsite ref
    rw [← hsite] at h
    exact Site.checksAgree_of_wellFormed h ref
  · intro config reporter id m
    rw [config.violations_inspect_eq_nil_iff]
    simp only [h.fault?_eq_none_iff]

/-- A holder of a field and a method, and a class that is removed.  The method is replaced, the
    holder gets another name and kind, and its field another name. -/
def holderMoved : List PoolOp :=
  [.addClass "a/AKt" .program, .addClass "a/Holder" .library, .addClass "a/Gone" .program,
    .addMember ⟨1⟩ .field "size" "I", .addMember ⟨1⟩ .method "getSize" "()I",
    .addMember ⟨2⟩ .method "getSize" "()I", .replaceMember ⟨⟨1⟩, ⟨1⟩⟩,
    .editClass ⟨1⟩ { name := some "b/Holder", kind := some .program },
    .editMember ⟨⟨1⟩, ⟨0⟩⟩ { name := some "count" }, .removeClass ⟨2⟩]

/-- A facade with a property, whose field and getter are those of the holder. -/
def heldProperty : Metadata :=
  .fileFacade { container := {
    properties := [{
      name := "size", flags := { hasGetter := true }, type := {}
      fieldSignature := some { name := "size", descriptor := "I" }
      backingField := some ⟨⟨1⟩, ⟨0⟩⟩
      getterSignature := some { name := "getSize", descriptor := "()I" }
      getter := some ⟨⟨1⟩, ⟨3⟩⟩ }] } }

/-- The property, where its links are checked. -/
def heldPropertySite : Site where
  ctx := ⟨(of holderMoved).pool, { id := ⟨0⟩, name := "a/AKt", kind := .program }, heldProperty⟩
  parentElement := "property size"

/-- As a getter are reported: the method of before, the method of the class that is gone, a member
    that there never was, and the field.  The field passes as a field.  The property is not
    reported, and a pass finds its getter and its field. -/
theorem checks_agree_with_lookup_of_holderMoved :
    (∀ ref ∈ [⟨⟨1⟩, ⟨1⟩⟩, ⟨⟨2⟩, ⟨2⟩⟩, ⟨⟨7⟩, ⟨9⟩⟩, ⟨⟨1⟩, ⟨0⟩⟩],
      heldPropertySite.ifDangling .method ref "getter" =
        [heldPropertySite.violation .invalidReference "getter"]) ∧
    heldPropertySite.ifDangling .field ⟨⟨1⟩, ⟨0⟩⟩ "backing field" = [] ∧
    (({} : Config).inspect .keep (of holderMoved).pool ⟨0⟩ heldProperty).violations = [] ∧
    ∀ slot ∈ heldProperty.walk.flatMap ConstraintKind.property.slots,
      slot.demand.Met (of holderMoved).pool := by
  obtain ⟨-, hchecks, -, hsilent⟩ := checks_agree_with_lookup holderMoved ⟨by decide, by decide⟩
  have hagree := hchecks heldPropertySite rfl
  have hclean :
      (({} : Config).inspect .keep (of holderMoved).pool ⟨0⟩ heldProperty).violations = [] := by
    decide
  refine ⟨?_, ?_, hclean, ?_⟩
  · simp only [List.forall_mem_cons]
    refine ⟨?_, ?_, ?_, ?_, nofun⟩
    · exact ((hagree ⟨⟨1⟩, ⟨1⟩⟩).reports .method "getter").mpr (.inl (by decide))
    · exact ((hagree ⟨⟨2⟩, ⟨2⟩⟩).reports .method "getter").mpr (.inl (by decide))
    · exact ((hagree ⟨⟨7⟩, ⟨9⟩⟩).reports .method "getter").mpr (.inl (by decide))
    · exact ((hagree ⟨⟨1⟩, ⟨0⟩⟩).reports .method "getter").mpr (.inr ⟨_, rfl, by decide⟩)
  · exact ((hagree ⟨⟨1⟩, ⟨0⟩⟩).silent .field "backing field").mpr ⟨_, rfl, by decide⟩
  · exact (hsilent {} .keep ⟨0⟩ heldProperty).mp hclean (by decide) .property (by decide)

end PoolRun

end KotlinMetadata
