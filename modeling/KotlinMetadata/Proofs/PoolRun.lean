import Mathlib.Data.List.Induction
import KotlinMetadata.Proofs.Ownership

/-! # Runs over a class pool

    A run performs operations one after the other, from the empty pool on, and goes on after one
    that is refused.  It remembers what the pool does not: the order in which classes were added,
    how many member identities were handed out, and whether a class got another name.

    - `PoolOp`, `ClassPool.perform`: the operations on a pool, edits in place included;
    - `ClassPool.Effect`: what an operation comes to, whichever it is;
    - `PoolRun.step`, `PoolRun.of`: one operation of a run, and all of them;
    - `PoolRun.Sound.step`: every operation keeps the invariant as long as identities last;
    - `PoolRun.pool_wellFormed`: so every pool that a run reaches is well formed.
-/

namespace KotlinMetadata

/-! ## Operations -/

/-- An operation on a pool. -/
inductive PoolOp where
  | addClass (name : String) (kind : ClassKind)
  | removeClass (id : ClassId)
  | addSubclass (super sub : ClassId)
  | addClassAttribute (id : ClassId) (added : Attribute)
  | addMember (owner : ClassId) (kind : MemberKind) (name descriptor : String)
  | addMemberAttribute (ref : MemberRef) (added : Attribute)
  | replaceMember (ref : MemberRef)
  | editClass (id : ClassId) (edit : ClassEdit)
  | editMember (ref : MemberRef) (edit : MemberEdit)
deriving DecidableEq, Repr

/-- What an operation hands out. -/
inductive PoolReply where
  /-- The identity of a new class. -/
  | ofClass (id : ClassId)
  /-- A link with the identity of a new member. -/
  | ofMember (ref : MemberRef)
  /-- No identity. -/
  | done
deriving DecidableEq, Repr

/-- The identities of classes in a reply. -/
def PoolReply.classes : PoolReply → List ClassId
  | .ofClass id => [id]
  | _ => []

/-- The identities of members in a reply. -/
def PoolReply.members : PoolReply → List MemberId
  | .ofMember ref => [ref.member]
  | _ => []

namespace ClassPool

/-- Performs an operation. -/
def perform (pool : ClassPool) : PoolOp → Except PoolError (PoolReply × ClassPool)
  | .addClass name kind => (pool.addClass name kind).map fun (id, after) => (.ofClass id, after)
  | .removeClass id => (pool.removeClass id).map fun (_, after) => (.done, after)
  | .addSubclass super sub => (pool.addSubclass super sub).map fun after => (.done, after)
  | .addClassAttribute id added => (pool.addClassAttribute id added).map fun after => (.done, after)
  | .addMember owner kind name descriptor =>
    (pool.addMember owner kind name descriptor).map fun (ref, after) => (.ofMember ref, after)
  | .addMemberAttribute ref added =>
    (pool.addMemberAttribute ref added).map fun after => (.done, after)
  | .replaceMember ref => (pool.replaceMember ref).map fun (ref, after) => (.ofMember ref, after)
  | .editClass id edit => .ok (.done, pool.editClass id edit)
  | .editMember ref edit => .ok (.done, pool.editMember ref edit)

/-- The pool after an operation; one that is refused changes nothing. -/
def after (pool : ClassPool) (op : PoolOp) : ClassPool :=
  match pool.perform op with
  | .error _ => pool
  | .ok (_, changed) => changed

/-- What holds of the pool before an operation, for a refusal, and of every outcome holds of the
    pool after it. -/
theorem after_of_map (holds : ClassPool → Prop) {pool : ClassPool} {op : PoolOp} {α : Type}
    {result : Except PoolError α} {g : α → PoolReply × ClassPool}
    (hperform : pool.perform op = result.map g) (hrefused : holds pool)
    (hdone : ∀ a, result = .ok a → holds (g a).2) : holds (pool.after op) := by
  cases result with
  | error e =>
    have herror : pool.perform op = .error e := hperform
    rw [after, herror]
    exact hrefused
  | ok a =>
    have hok : pool.perform op = .ok (g a) := hperform
    rw [after, hok]
    exact hdone a rfl

/-- The operation gives a class of the pool another name. -/
def renames (pool : ClassPool) : PoolOp → Bool
  | .editClass id edit => (pool.class? id).any fun c => edit.name.any (· != c.name)
  | _ => false

/-! ## Effects of operations -/

/-- What an operation can do: add a class, remove one, or edit one, which may give the next
    identity to a member.  The flag is set if it may have given a class another name. -/
inductive Effect (pool : ClassPool) : PoolReply → Bool → ClassPool → Prop where
  | added {name : String} {kind : ClassKind} {id : ClassId} {after : ClassPool}
      (hadd : pool.addClass name kind = .ok (id, after)) : Effect pool (.ofClass id) false after
  | removed {id : ClassId} {c : JvmClass} {after : ClassPool}
      (hremove : pool.removeClass id = .ok (c, after)) : Effect pool .done false after
  | edited (id : ClassId) {f : JvmClass → JvmClass} {renamed : Bool} (hf : pool.Allows [] f)
      (hids : JvmClass.BringsOnly [] f)
      (hname : renamed = false → ∀ c ∈ pool.classes, c.id = id → (f c).name = c.name) :
      Effect pool .done renamed (pool.mapClass id f)
  | editedWithNext (id : ClassId) {f : JvmClass → JvmClass}
      (hf : pool.Allows [⟨pool.nextMember⟩] f)
      (hids : JvmClass.BringsOnly [⟨pool.nextMember⟩] f) (hname : ∀ c, (f c).name = c.name)
      {ref : MemberRef} (href : ref.member = ⟨pool.nextMember⟩) :
      Effect pool (.ofMember ref) false
        { pool.mapClass id f with nextMember := pool.nextMember + 1 }

theorem exists_of_map_eq_ok {α β : Type} {x : Except PoolError α} {g : α → β} {b : β}
    (h : x.map g = .ok b) : ∃ a, x = .ok a ∧ g a = b := by
  cases x with
  | error e => exact absurd h nofun
  | ok a => exact ⟨a, rfl, Except.ok.inj h⟩

/-- An edit in place that renames no class keeps the name of the one that it finds, which is the
    only one with its identity. -/
theorem WellFormed.name_classEdit {pool : ClassPool} (h : pool.WellFormed) {id : ClassId}
    {edit : ClassEdit} (hrenames : pool.renames (.editClass id edit) = false) :
    ∀ c ∈ pool.classes, c.id = id → (edit.apply c).name = c.name := by
  rintro c hc rfl
  rw [renames, h.own c hc] at hrenames
  cases hedit : edit.name with
  | none => simp [ClassEdit.apply, hedit]
  | some name =>
    have heq : name = c.name := by simpa [hedit] using hrenames
    simp [ClassEdit.apply, hedit, heq]

/-- Every operation that is not refused is one of these. -/
theorem WellFormed.effect {pool after : ClassPool} (h : pool.WellFormed) {op : PoolOp}
    {reply : PoolReply} (hperform : pool.perform op = .ok (reply, after)) :
    pool.Effect reply (pool.renames op) after := by
  cases op with
  | addClass name kind =>
    obtain ⟨⟨id, _⟩, hadd, heq⟩ := exists_of_map_eq_ok hperform
    obtain ⟨rfl, rfl⟩ := Prod.mk.inj heq
    exact .added hadd
  | removeClass id =>
    obtain ⟨⟨c, _⟩, hremove, heq⟩ := exists_of_map_eq_ok hperform
    obtain ⟨rfl, rfl⟩ := Prod.mk.inj heq
    exact .removed hremove
  | addSubclass super sub =>
    obtain ⟨_, hadd, heq⟩ := exists_of_map_eq_ok hperform
    obtain ⟨rfl, rfl⟩ := Prod.mk.inj heq
    obtain ⟨hsub, rfl⟩ := addSubclass_eq_ok hadd
    refine .edited super (allows_addSubclass hsub) (JvmClass.bringsOnly_of_sublist ?_) ?_
    · intro c kind
      split <;> cases kind <;> exact List.Sublist.refl _
    · intro _ c _ _
      split <;> rfl
  | addClassAttribute id added =>
    obtain ⟨_, hadd, heq⟩ := exists_of_map_eq_ok hperform
    obtain ⟨rfl, rfl⟩ := Prod.mk.inj heq
    obtain rfl := addClassAttribute_eq_ok hadd
    refine .edited id (allows_classAttribute added) (JvmClass.bringsOnly_of_sublist ?_)
      fun _ _ _ _ => rfl
    intro c kind
    cases kind <;> exact List.Sublist.refl _
  | addMember owner kind name descriptor =>
    obtain ⟨⟨ref, _⟩, hadd, heq⟩ := exists_of_map_eq_ok hperform
    obtain ⟨rfl, rfl⟩ := Prod.mk.inj heq
    obtain ⟨href, rfl⟩ := addMember_eq_ok hadd
    let added : Member := { id := ⟨pool.nextMember⟩, kind, name, descriptor }
    exact .editedWithNext owner (allows_addMember added) (JvmClass.bringsOnly_addMember added)
      (fun c => c.name_addMember added) href
  | addMemberAttribute ref added =>
    obtain ⟨_, hadd, heq⟩ := exists_of_map_eq_ok hperform
    obtain ⟨rfl, rfl⟩ := Prod.mk.inj heq
    obtain rfl := addMemberAttribute_eq_ok hadd
    refine .edited ref.owner (allows_memberAttribute ref.member added)
      (JvmClass.bringsOnly_mapMember ref.member ?_) fun _ c _ _ => c.name_mapMember ref.member _
    exact fun _ => List.Subperm.refl _
  | replaceMember ref =>
    obtain ⟨⟨fresh, _⟩, hreplace, heq⟩ := exists_of_map_eq_ok hperform
    obtain ⟨rfl, rfl⟩ := Prod.mk.inj heq
    obtain ⟨hfresh, rfl⟩ := replaceMember_eq_ok hreplace
    refine .editedWithNext ref.owner (allows_replaceMember ref.member _)
      (JvmClass.bringsOnly_mapMember ref.member ?_) (fun c => c.name_mapMember ref.member _) hfresh
    exact fun _ => List.singleton_subperm_iff.mpr List.mem_cons_self
  | editClass id edit =>
    obtain ⟨rfl, rfl⟩ := Prod.mk.inj (Except.ok.inj hperform)
    exact .edited id (allows_classEdit edit) (JvmClass.bringsOnly_classEdit edit) h.name_classEdit
  | editMember ref edit =>
    obtain ⟨rfl, rfl⟩ := Prod.mk.inj (Except.ok.inj hperform)
    refine .edited ref.owner (allows_memberEdit ref.member edit)
      (JvmClass.bringsOnly_mapMember ref.member ?_) fun _ c _ _ => c.name_mapMember ref.member _
    exact fun _ => List.Subperm.refl _

end ClassPool

/-! ## Runs -/

/-- A pool with what was done to it. -/
structure PoolRun where
  /-- The pool. -/
  pool : ClassPool := {}
  /-- The identities of the classes that were added, first to last. -/
  added : List ClassId := []
  /-- The identities of members that were handed out, first to last. -/
  handedOut : List MemberId := []
  /-- Whether a class got another name. -/
  renamed : Bool := false

namespace PoolRun

/-- Performs an operation; one that is refused changes nothing. -/
def step (run : PoolRun) (op : PoolOp) : PoolRun :=
  match run.pool.perform op with
  | .error _ => run
  | .ok (reply, after) =>
    { pool := after
      added := run.added ++ reply.classes
      handedOut := run.handedOut ++ reply.members
      renamed := run.renamed || run.pool.renames op }

theorem pool_step (run : PoolRun) (op : PoolOp) : (run.step op).pool = run.pool.after op := by
  unfold step ClassPool.after
  split <;> rfl

/-- Performs operations from the empty pool on. -/
def of (ops : List PoolOp) : PoolRun := ops.foldl step {}

theorem of_concat (ops : List PoolOp) (op : PoolOp) : of (ops ++ [op]) = (of ops).step op := by
  rw [of, List.foldl_append]
  rfl

/-- What holds of a run besides its pool being well formed: counters count what was handed out,
    and the pool has those of the added classes that are left, in the order of adding. -/
structure Sound (run : PoolRun) : Prop where
  wellFormed : run.pool.WellFormed
  classesCounted : run.pool.nextClass.toNat = run.added.length
  membersCounted : run.pool.nextMember.toNat = run.handedOut.length
  addedBelow : ∀ id ∈ run.added, id.number < run.pool.nextClass
  inOrder : run.pool.ids = run.added.filter (· ∈ run.pool.ids)
  indexed : run.renamed = false → run.pool.Indexed

theorem Sound.empty : ({} : PoolRun).Sound :=
  ⟨.empty, rfl, rfl, nofun, rfl, fun _ => .empty⟩

section Steps
variable {run : PoolRun} {f : JvmClass → JvmClass}

/-- An edit of one class that hands out no identity. -/
theorem Sound.edit (h : run.Sound) (hf : run.pool.Allows [] f) (id : ClassId) (renamed : Bool)
    (hname : renamed = false → ∀ c ∈ run.pool.classes, c.id = id → (f c).name = c.name) :
    ({ run with pool := run.pool.mapClass id f, renamed := run.renamed || renamed } :
      PoolRun).Sound where
  wellFormed := h.wellFormed.edit hf id
  classesCounted := h.classesCounted
  membersCounted := h.membersCounted
  addedBelow := h.addedBelow
  inOrder := by
    rw [ClassPool.ids_mapClass hf.id]
    exact h.inOrder
  indexed hrenamed := by
    obtain ⟨hrun, hop⟩ := Bool.or_eq_false_iff.mp hrenamed
    exact (h.indexed hrun).mapClass hf.id (hname hop)

/-- An edit of one class that hands out the next identity of a member. -/
theorem Sound.editWithNext (h : run.Sound) (hf : run.pool.Allows [⟨run.pool.nextMember⟩] f)
    (id : ClassId) (hlast : run.handedOut.length + 1 < UInt32.size)
    (hname : ∀ c, (f c).name = c.name) :
    ({ run with
        pool := { run.pool.mapClass id f with nextMember := run.pool.nextMember + 1 }
        handedOut := run.handedOut ++ [⟨run.pool.nextMember⟩] } : PoolRun).Sound := by
  have hnext : run.pool.nextMember.toNat + 1 < UInt32.size := by
    rw [h.membersCounted]
    exact hlast
  refine ⟨h.wellFormed.editWithNext hnext hf id, h.classesCounted, ?_, h.addedBelow, ?_, ?_⟩
  · simp only [ClassPool.toNat_add_one hnext, h.membersCounted, List.length_append,
      List.length_singleton]
  · show (run.pool.mapClass id f).ids = run.added.filter (· ∈ (run.pool.mapClass id f).ids)
    rw [ClassPool.ids_mapClass hf.id]
    exact h.inOrder
  · intro hrenamed
    exact (h.indexed hrenamed).mapClass hf.id fun c _ _ => hname c

theorem Sound.addClass (h : run.Sound) {name : String} {kind : ClassKind} {id : ClassId}
    {after : ClassPool} (hadd : run.pool.addClass name kind = .ok (id, after))
    (hlast : run.added.length + 1 < UInt32.size) :
    ({ run with pool := after, added := run.added ++ [id] } : PoolRun).Sound := by
  have hnext : run.pool.nextClass.toNat + 1 < UInt32.size := by
    rw [h.classesCounted]
    exact hlast
  obtain ⟨-, hid, hafter⟩ := ClassPool.addClass_eq_ok hadd
  have hcounter : after.nextClass = run.pool.nextClass + 1 := by rw [hafter]
  have hids : after.ids = run.pool.ids ++ [id] := by
    rw [hafter]
    exact List.map_append
  have hfresh : id ∉ run.added := by
    intro hmem
    have hlt := h.addedBelow id hmem
    rw [hid] at hlt
    exact absurd hlt (UInt32.lt_irrefl _)
  refine ⟨h.wellFormed.addClass hnext hadd, ?_, ?_, ?_, ?_, fun hrenamed =>
    (h.indexed hrenamed).addClass hadd⟩
  · simp only [hcounter, ClassPool.toNat_add_one hnext, h.classesCounted, List.length_append,
      List.length_singleton]
  · rw [hafter]
    exact h.membersCounted
  · intro other hother
    rw [hcounter]
    apply ClassPool.lt_add_one hnext
    rcases List.mem_append.mp hother with hother | hother
    · exact .inl (h.addedBelow other hother)
    · rw [List.mem_singleton.mp hother, hid]
      exact .inr rfl
  · -- A class that was added before is left in the pool exactly if it was.
    have hbefore : run.added.filter (· ∈ after.ids) = run.added.filter (· ∈ run.pool.ids) := by
      apply List.filter_congr
      intro other hother
      have hne : other ≠ id := by
        rintro rfl
        exact hfresh hother
      simp [hids, hne]
    rw [List.filter_append, hbefore, ← h.inOrder, hids]
    simp

theorem Sound.removeClass (h : run.Sound) {id : ClassId} {c : JvmClass} {after : ClassPool}
    (hremove : run.pool.removeClass id = .ok (c, after)) :
    ({ run with pool := after } : PoolRun).Sound := by
  obtain ⟨-, hafter⟩ := ClassPool.removeClass_eq_ok hremove
  have hids := ClassPool.ids_removeClass hremove
  refine ⟨h.wellFormed.removeClass hremove, ?_, ?_, ?_, ?_, fun hrenamed =>
    (h.indexed hrenamed).removeClass h.wellFormed hremove⟩
  · rw [hafter]
    exact h.classesCounted
  · rw [hafter]
    exact h.membersCounted
  · rw [hafter]
    exact h.addedBelow
  · have hleft : run.added.filter (· ∈ after.ids) =
        (run.added.filter (· ∈ run.pool.ids)).filter (· != id) := by
      rw [List.filter_filter, hids]
      apply List.filter_congr
      intro other _
      by_cases hother : other = id
      · simp [hother]
      · simp [hother]
    rw [hleft, ← h.inOrder]
    exact hids

end Steps

theorem step_of_error {run : PoolRun} {op : PoolOp} {e : PoolError}
    (h : run.pool.perform op = .error e) : run.step op = run := by
  rw [step, h]

theorem step_of_ok {run : PoolRun} {op : PoolOp} {reply : PoolReply} {after : ClassPool}
    (h : run.pool.perform op = .ok (reply, after)) :
    run.step op = {
      pool := after
      added := run.added ++ reply.classes
      handedOut := run.handedOut ++ reply.members
      renamed := run.renamed || run.pool.renames op } := by
  rw [step, h]

/-- Every operation keeps a run sound, as long as there is an identity for what it adds. -/
theorem Sound.step {run : PoolRun} (h : run.Sound) (op : PoolOp)
    (hclasses : (run.step op).added.length < UInt32.size)
    (hmembers : (run.step op).handedOut.length < UInt32.size) : (run.step op).Sound := by
  cases hperform : run.pool.perform op with
  | error e =>
    -- A refusal leaves everything as it was.
    rw [step_of_error hperform]
    exact h
  | ok result =>
    obtain ⟨reply, after⟩ := result
    rw [step_of_ok hperform] at hclasses hmembers ⊢
    -- Which operation it was is no matter, only what it came to.
    have heffect := h.wellFormed.effect hperform
    generalize run.pool.renames op = renamed at heffect ⊢
    cases heffect with
    | added hadd =>
      have hsound := h.addClass hadd (by simpa [PoolReply.classes] using hclasses)
      simpa [PoolReply.classes, PoolReply.members] using hsound
    | removed hremove =>
      have hsound := h.removeClass hremove
      simpa [PoolReply.classes, PoolReply.members] using hsound
    | edited id hf _ hname =>
      have hsound := h.edit hf id renamed hname
      simpa [PoolReply.classes, PoolReply.members] using hsound
    | editedWithNext id hf _ hname href =>
      have hsound := h.editWithNext hf id (by simpa [PoolReply.members] using hmembers) hname
      simpa [PoolReply.classes, PoolReply.members, href] using hsound

/-! ## Every run -/

theorem length_added_le_step (run : PoolRun) (op : PoolOp) :
    run.added.length ≤ (run.step op).added.length := by
  unfold step
  split
  · exact Nat.le_refl _
  · simp

theorem length_handedOut_le_step (run : PoolRun) (op : PoolOp) :
    run.handedOut.length ≤ (run.step op).handedOut.length := by
  unfold step
  split
  · exact Nat.le_refl _
  · simp

/-- Every run is sound, as long as there was an identity for everything it added. -/
theorem sound_of (ops : List PoolOp) (hclasses : (of ops).added.length < UInt32.size)
    (hmembers : (of ops).handedOut.length < UInt32.size) : (of ops).Sound := by
  induction ops using List.reverseRecOn with
  | nil => exact .empty
  | append_singleton ops op ih =>
    rw [of_concat] at hclasses hmembers ⊢
    -- The lists only grow, so that the bounds held before the last operation too.
    have hadded := (of ops).length_added_le_step op
    have hhanded := (of ops).length_handedOut_le_step op
    exact (ih (by omega) (by omega)).step op hclasses hmembers

/-- **The invariant of the pool**: whatever was done to it, in whatever order and with however many
    refusals, the pool is well formed, it has the added classes that are left in the order of
    adding, and unless a class got another name the index has their names and no others.  Only
    the identities must not run out: there are 2 ^ 32 for classes and as many for members. -/
theorem pool_wellFormed (ops : List PoolOp) (hclasses : (of ops).added.length < UInt32.size)
    (hmembers : (of ops).handedOut.length < UInt32.size) :
    (of ops).pool.WellFormed ∧
    (of ops).pool.ids = (of ops).added.filter (fun id => ((of ops).pool.class? id).isSome) ∧
    ((of ops).renamed = false → (of ops).pool.Indexed) := by
  have hsound := sound_of ops hclasses hmembers
  refine ⟨hsound.wellFormed, ?_, hsound.indexed⟩
  refine hsound.inOrder.trans (List.filter_congr fun id _ => ?_)
  rw [Bool.eq_iff_iff, ClassPool.isSome_class?_iff]
  exact decide_eq_true_iff

/-- A base with a subclass and a method.  The second class, the repeated link and the second
    replacement are refused or have no effect, and the subclass is removed and added anew. -/
def subclassReplaced : List PoolOp :=
  [.addClass "a/Base" .program, .addClass "a/Base" .library, .addClass "a/Sub" .program,
    .addSubclass ⟨0⟩ ⟨1⟩, .addSubclass ⟨0⟩ ⟨1⟩, .addMember ⟨0⟩ .method "run" "()V",
    .replaceMember ⟨⟨0⟩, ⟨0⟩⟩, .replaceMember ⟨⟨0⟩, ⟨0⟩⟩, .editClass ⟨0⟩ { accessFlags := some 0 },
    .removeClass ⟨1⟩, .addClass "a/Sub" .program]

theorem pool_wellFormed_of_subclassReplaced :
    (of subclassReplaced).added = [⟨0⟩, ⟨1⟩, ⟨2⟩] ∧
    (of subclassReplaced).handedOut = [⟨0⟩, ⟨1⟩] ∧
    (of subclassReplaced).pool.ids = [⟨0⟩, ⟨2⟩] ∧
    (of subclassReplaced).pool.WellFormed ∧ (of subclassReplaced).pool.Indexed := by
  have hadded : (of subclassReplaced).added = [⟨0⟩, ⟨1⟩, ⟨2⟩] := by decide
  have hhanded : (of subclassReplaced).handedOut = [⟨0⟩, ⟨1⟩] := by decide
  obtain ⟨hwf, hids, hindexed⟩ := pool_wellFormed subclassReplaced
    (by rw [hadded]; decide) (by rw [hhanded]; decide)
  refine ⟨hadded, hhanded, hids.trans ?_, hwf, hindexed rfl⟩
  rw [hadded]
  decide

end PoolRun

end KotlinMetadata
