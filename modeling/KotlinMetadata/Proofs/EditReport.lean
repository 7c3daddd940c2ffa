import KotlinMetadata.Proofs.LinkHistory

/-! # What an edit does to an inspection

    An inspection that finds nothing finds, after a member was replaced or another class was
    removed, one violation for each checked slot whose link was cut, and no others.

    - `Metadata.checkedSlots`: the slots of all constraints, in the order in which they are checked;
    - `ClassPool.Cuts`: which links an edit breaks; `cuts_replaceMember`, `cuts_removeClass`;
    - `ClassPool.Cuts.violations_eq`: what becomes of slots that held before;
    - `PoolRun.edit_reported`: the two edits, on any pool that a run reaches.
-/

namespace KotlinMetadata

/-! ## Checked slots -/

/-- The slots of a graph: by constraint, then in the order of the walk, then as they stand in the
    node. -/
def Metadata.checkedSlots (m : Metadata) : List Slot :=
  (Named.all : List ConstraintKind).flatMap fun kind => m.walk.flatMap kind.slots

/-- The member that a slot links to. -/
def Slot.link? (slot : Slot) : Option MemberRef :=
  match slot.demand with
  | .resolved _ => none
  | .owned _ link => link

/-- The violation of a slot whose link is broken, in the metadata of a class. -/
def Slot.invalid (c : JvmClass) (m : Metadata) (slot : Slot) : Violation where
  kind := .invalidReference
  parentElement := slot.parent
  checkedElement := slot.element
  classId := c.id
  className := c.name
  metadataKind := m.kind

theorem Slot.violation?_of_good {pool : ClassPool} {c : JvmClass} {m : Metadata}
    {parent element : String} {kind : MemberKind} {ref : MemberRef} (howns : pool.Owns kind ref) :
    Slot.violation? ⟨pool, c, m⟩ ⟨parent, element, .owned kind (some ref)⟩ = none := by
  unfold Slot.violation?
  rw [Demand.fault?, if_pos howns]
  rfl

theorem Slot.violation?_of_broken {pool : ClassPool} {c : JvmClass} {m : Metadata}
    {parent element : String} {kind : MemberKind} {ref : MemberRef} (hnot : ¬ pool.Owns kind ref) :
    Slot.violation? ⟨pool, c, m⟩ ⟨parent, element, .owned kind (some ref)⟩ =
      some (Slot.invalid c m ⟨parent, element, .owned kind (some ref)⟩) := by
  unfold Slot.violation?
  rw [Demand.fault?, if_neg hnot]
  rfl

/-- The checked slots of a graph whose link is one of those that `cut` picks. -/
def Metadata.slotsWith (m : Metadata) (cut : MemberRef → Bool) : List Slot :=
  m.checkedSlots.filter fun slot => slot.link?.any cut

/-- The built-in configuration checks all slots. -/
theorem Config.violations_builtIn (ctx : Context) :
    ({} : Config).violations ctx = Slot.violations ctx ctx.metadata.checkedSlots := by
  have hall : ConstraintKind.enabledIn ({} : Config).constraints = Named.all := rfl
  rw [Config.violations_eq, hall, Metadata.checkedSlots, Slot.violations, List.filterMap_flatMap]
  rfl

theorem Config.violations_inspect (config : Config) (reporter : Reporter) {pool : ClassPool}
    {id : ClassId} (m : Metadata) {c : JvmClass} (hc : pool.class? id = some c) :
    (config.inspect reporter pool id m).violations = config.violations ⟨pool, c, m⟩ := by
  rw [Config.inspect, hc]

/-! ## Links that an edit breaks -/

namespace ClassPool
variable {pool after : ClassPool}

/-- Of the good links, the edit breaks those that `cut` picks and no others. -/
def Cuts (pool after : ClassPool) (cut : MemberRef → Bool) : Prop :=
  ∀ kind ref, pool.Owns kind ref → (after.Owns kind ref ↔ cut ref = false)

/-- Replacing a member breaks the link to it. -/
theorem cuts_replaceMember (h : pool.WellFormed) {replaced fresh : MemberRef}
    (hreplace : pool.replaceMember replaced = .ok (fresh, after)) :
    pool.Cuts after (· == replaced) := by
  intro kind ref howns
  have hnotFresh := h.ne_fresh hreplace howns
  rw [owns_replaceMember h hreplace]
  simp [hnotFresh, howns]

/-- Removing a class breaks the links that claim it. -/
theorem cuts_removeClass {id : ClassId} {c : JvmClass}
    (hremove : pool.removeClass id = .ok (c, after)) :
    pool.Cuts after (·.owner == id) := by
  intro kind ref howns
  rw [owns_removeClass hremove]
  simp [howns]

/-- A slot that held before an edit is violated after it if its link was cut. -/
theorem Cuts.violation?_eq {cut : MemberRef → Bool} (hcuts : pool.Cuts after cut)
    {c c' : JvmClass} (hid : c'.id = c.id) (hname : c'.name = c.name) {m : Metadata} {slot : Slot}
    (hheld : slot.violation? ⟨pool, c, m⟩ = none) :
    slot.violation? ⟨after, c', m⟩ =
      if slot.link?.any cut then some (slot.invalid c m) else none := by
  obtain ⟨parent, element, demand⟩ := slot
  cases demand with
  | resolved link =>
    -- Whether a class was resolved does not depend on the pool.
    cases link with
    | none => exact absurd hheld nofun
    | some target => rfl
  | owned kind link =>
    cases link with
    | none => exact absurd hheld nofun
    | some ref =>
      have howns : pool.Owns kind ref := by
        by_contra hnot
        rw [Slot.violation?_of_broken hnot] at hheld
        exact absurd hheld nofun
      have hafter := hcuts kind ref howns
      show _ = if cut ref then _ else _
      cases hcut : cut ref with
      | false => exact Slot.violation?_of_good (hafter.mpr hcut)
      | true =>
        have hbroken : ¬ after.Owns kind ref := by
          rw [hafter, hcut]
          exact nofun
        have hsame : Slot.invalid c' m = Slot.invalid c m := by
          funext slot
          rw [Slot.invalid, Slot.invalid, hid, hname]
        rw [Slot.violation?_of_broken hbroken, hsame]
        rfl

/-- Slots that held before an edit: those whose link was cut are violated, in order. -/
theorem Cuts.violations_eq {cut : MemberRef → Bool} (hcuts : pool.Cuts after cut)
    {c c' : JvmClass} (hid : c'.id = c.id) (hname : c'.name = c.name) {m : Metadata}
    {slots : List Slot} (hheld : Slot.violations ⟨pool, c, m⟩ slots = []) :
    Slot.violations ⟨after, c', m⟩ slots =
      (slots.filter fun slot => slot.link?.any cut).map (Slot.invalid c m) := by
  have heach := List.filterMap_eq_nil_iff.mp hheld
  clear hheld
  induction slots with
  | nil => rfl
  | cons slot slots ih =>
    obtain ⟨hslot, hslots⟩ := List.forall_mem_cons.mp heach
    have hviolation := hcuts.violation?_eq hid hname hslot
    have hrest : List.filterMap (Slot.violation? ⟨after, c', m⟩) slots =
        (slots.filter fun slot => slot.link?.any cut).map (Slot.invalid c m) := ih hslots
    unfold Slot.violations
    rw [List.filterMap_cons, hviolation, hrest, List.filter_cons]
    by_cases hcut : slot.link?.any cut = true
    · rw [if_pos hcut, if_pos hcut]
      rfl
    · rw [if_neg hcut, if_neg hcut]

/-- The same for an inspection that found nothing, with the class of the graph left in the pool. -/
theorem Cuts.inspect_eq {cut : MemberRef → Bool} (hcuts : pool.Cuts after cut) {id : ClassId}
    {c c' : JvmClass} (hc : pool.class? id = some c) (hc' : after.class? id = some c')
    (hname : c'.name = c.name) {reporter : Reporter} {m : Metadata}
    (hclean : (({} : Config).inspect reporter pool id m).violations = []) :
    (({} : Config).inspect reporter after id m).violations =
      (m.slotsWith cut).map (Slot.invalid c m) := by
  have hid : c'.id = c.id := (id_of_class? hc').trans (id_of_class? hc).symm
  rw [Config.violations_inspect _ _ _ hc, Config.violations_builtIn] at hclean
  rw [Config.violations_inspect _ _ _ hc', Config.violations_builtIn]
  exact hcuts.violations_eq hid hname hclean

/-! ## The class of the graph -/

theorem exists_replaceMember {ref : MemberRef} (hresolved : (pool.member? ref).isSome) :
    ∃ fresh after, pool.replaceMember ref = .ok (fresh, after) := by
  have hpresent : (pool.member? ref).isNone = false := by
    rw [← Option.not_isSome, hresolved]
    rfl
  unfold replaceMember
  rw [hpresent]
  exact ⟨_, _, rfl⟩

theorem exists_removeClass {id : ClassId} (hpresent : (pool.class? id).isSome) :
    ∃ removed after, pool.removeClass id = .ok (removed, after) := by
  obtain ⟨c, hc⟩ := Option.isSome_iff_exists.mp hpresent
  unfold removeClass
  rw [hc]
  exact ⟨_, _, rfl⟩

/-- Replacing a member removes no class and gives none another name. -/
theorem name_replaceMember {ref fresh : MemberRef}
    (hreplace : pool.replaceMember ref = .ok (fresh, after)) {id : ClassId} {c : JvmClass}
    (hc : pool.class? id = some c) : ∃ c', after.class? id = some c' ∧ c'.name = c.name := by
  have hclass := class?_replaceMember hreplace id
  rw [hc] at hclass
  refine ⟨_, hclass, ?_⟩
  split
  · exact c.name_mapMember _ _
  · rfl

/-- Removing a class removes no other and gives none another name. -/
theorem name_removeClass {removed : JvmClass} {other : ClassId}
    (hremove : pool.removeClass other = .ok (removed, after)) {id : ClassId} (hne : other ≠ id)
    {c : JvmClass} (hc : pool.class? id = some c) :
    ∃ c', after.class? id = some c' ∧ c'.name = c.name := by
  have hclass := class?_removeClass hremove id
  rw [if_neg (Ne.symm hne), hc] at hclass
  exact ⟨_, hclass, rfl⟩

end ClassPool

/-! ## The two edits -/

namespace PoolRun

/-- **What an edit breaks is what is reported**: on any pool that a run reaches without running
    out of identities, let the inspection of a graph with all constraints find nothing.  After any
    member is replaced it finds an invalid reference for each checked slot that links to it; after
    any other class is removed, for each checked slot that claims it as the owner.  It finds
    nothing else, so that it finds nothing without such slots, and keeps to the order of
    checking. -/
theorem edit_reported (ops : List PoolOp) (hlasts : (of ops).Lasts) (reporter : Reporter)
    (id : ClassId) (c : JvmClass) (hc : (of ops).pool.class? id = some c) (m : Metadata)
    (hclean : (({} : Config).inspect reporter (of ops).pool id m).violations = []) :
    (∀ ref, ((of ops).pool.member? ref).isSome →
      ∃ fresh after, (of ops).pool.replaceMember ref = .ok (fresh, after) ∧
        (({} : Config).inspect reporter after id m).violations =
          (m.slotsWith (· == ref)).map (Slot.invalid c m)) ∧
    ∀ other, other ≠ id → ((of ops).pool.class? other).isSome →
      ∃ removed after, (of ops).pool.removeClass other = .ok (removed, after) ∧
        (({} : Config).inspect reporter after id m).violations =
          (m.slotsWith (·.owner == other)).map (Slot.invalid c m) := by
  refine ⟨?_, ?_⟩
  · intro ref hresolved
    obtain ⟨fresh, after, hreplace⟩ := ClassPool.exists_replaceMember hresolved
    obtain ⟨c', hc', hname⟩ := ClassPool.name_replaceMember hreplace hc
    have hcuts := ClassPool.cuts_replaceMember hlasts.wellFormed hreplace
    exact ⟨fresh, after, hreplace, hcuts.inspect_eq hc hc' hname hclean⟩
  · intro other hne hpresent
    obtain ⟨removed, after, hremove⟩ := ClassPool.exists_removeClass hpresent
    obtain ⟨c', hc', hname⟩ := ClassPool.name_removeClass hremove hne hc
    have hcuts := ClassPool.cuts_removeClass hremove
    exact ⟨removed, after, hremove, hcuts.inspect_eq hc hc' hname hclean⟩

/-- A facade with a method, and a class with a field. -/
def facadeAndHolder : List PoolOp :=
  [.addClass "a/AKt" .program, .addClass "a/Holder" .program, .addMember ⟨0⟩ .method "run" "()V",
    .addMember ⟨1⟩ .field "size" "I"]

/-- A function and a property of the facade; the field of the property is in the other class. -/
def facadeMetadata : Metadata :=
  .fileFacade { container := {
    ownerName := some "a/AKt"
    owner := some ⟨0⟩
    functions := [{
      name := "run", signature := some { name := "run", descriptor := "()V" }
      method := some ⟨⟨0⟩, ⟨0⟩⟩, returnType := {} }]
    properties := [{
      name := "size", fieldSignature := some { name := "size", descriptor := "I" }
      backingField := some ⟨⟨1⟩, ⟨1⟩⟩, type := {} }] } }

/-- Replacing the method is reported of the function, and removing the other class of the
    property. -/
theorem edit_reported_of_facade :
    (∃ fresh after, (of facadeAndHolder).pool.replaceMember ⟨⟨0⟩, ⟨0⟩⟩ = .ok (fresh, after) ∧
      (({} : Config).inspect .keep after ⟨0⟩ facadeMetadata).violations.map
        (fun v => (v.kind, v.checkedElement)) = [(.invalidReference, "referenced method")]) ∧
    ∃ removed after, (of facadeAndHolder).pool.removeClass ⟨1⟩ = .ok (removed, after) ∧
      (({} : Config).inspect .keep after ⟨0⟩ facadeMetadata).violations.map
        (fun v => (v.kind, v.checkedElement)) = [(.invalidReference, "backing field")] := by
  obtain ⟨c, hc⟩ : ∃ c, (of facadeAndHolder).pool.class? ⟨0⟩ = some c := ⟨_, rfl⟩
  obtain ⟨hreplaced, hremoved⟩ := edit_reported facadeAndHolder ⟨by decide, by decide⟩ .keep ⟨0⟩ c
    hc facadeMetadata (by decide)
  obtain ⟨fresh, after, hreplace, hfound⟩ := hreplaced ⟨⟨0⟩, ⟨0⟩⟩ (by decide)
  obtain ⟨removed, left, hremove, hleft⟩ := hremoved ⟨1⟩ (by decide) (by decide)
  refine ⟨⟨fresh, after, hreplace, ?_⟩, removed, left, hremove, ?_⟩
  · rw [hfound]
    rfl
  · rw [hleft]
    rfl

end PoolRun

end KotlinMetadata
