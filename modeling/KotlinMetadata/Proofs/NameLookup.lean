import KotlinMetadata.Proofs.LinkHistory

/-! # Look-ups by name over a run

    The index of names is written when a class is added or removed and at no other time.  So a
    class that got another name in place is still found under the name that it was added with, and
    removing it takes the entry of the name that it has by then.

    - `ClassPool.lookup_after`: what an operation does to the entry of a name;
    - `PoolRun.Holds`: a class was added under a name, and the name was not freed since;
    - `PoolRun.lookup_iff_holds`: the index says this of every name, in every run;
    - `PoolRun.indexedAt_of`: a name that no edit gives to a class or takes from one is right;
    - `PoolRun.lookup_over_run`: what look-ups and additions by name come to.
-/

namespace KotlinMetadata

namespace ClassPool

/-! ## Names at present -/

/-- The first class that has a name at present. -/
def bearer? (pool : ClassPool) (name : String) : Option JvmClass :=
  pool.classes.find? (·.name == name)

/-- No two classes have the same name. -/
def NamesDistinct (pool : ClassPool) : Prop := (pool.classes.map (·.name)).Nodup

instance (pool : ClassPool) : Decidable pool.NamesDistinct :=
  inferInstanceAs (Decidable (List.Nodup _))

/-- Adding a class is refused exactly if the index has its name. -/
theorem addClass_eq_error_iff (pool : ClassPool) (name : String) (kind : ClassKind) :
    pool.addClass name kind = .error (.duplicateClass name) ↔
      ∃ id, pool.nameIndex.lookup name = some id := by
  rw [← Option.isSome_iff_exists]
  unfold addClass
  by_cases htaken : (pool.nameIndex.lookup name).isSome = true
  · simp [htaken]
  · simp [htaken]

theorem classByName?_eq_some_iff (pool : ClassPool) (name : String) (c : JvmClass) :
    pool.classByName? name = some c ↔
      pool.nameIndex.lookup name = some c.id ∧ pool.class? c.id = some c := by
  unfold classByName?
  rw [Option.bind_eq_some_iff]
  constructor
  · rintro ⟨id, hid, hc⟩
    obtain rfl := id_of_class? hc
    exact ⟨hid, hc⟩
  · rintro ⟨hid, hc⟩
    exact ⟨c.id, hid, hc⟩

/-- Where the index is right about a name, a look-up finds the class that has it. -/
theorem IndexedAt.classByName?_eq {pool : ClassPool} (hwf : pool.WellFormed) {name : String}
    (h : pool.IndexedAt name) : pool.classByName? name = pool.bearer? name := by
  cases hbearer : pool.bearer? name with
  | none =>
    have hnobody := List.find?_eq_none.mp hbearer
    rw [Option.eq_none_iff_forall_ne_some]
    intro c hc
    obtain ⟨hlookup, -⟩ := (pool.classByName?_eq_some_iff name c).mp hc
    obtain ⟨d, hd, hname, -⟩ := (h c.id).mp hlookup
    exact hnobody d hd (beq_iff_eq.mpr hname)
  | some c =>
    have hc : c ∈ pool.classes := List.mem_of_find?_eq_some hbearer
    have hname : c.name = name := by simpa using List.find?_some hbearer
    rw [pool.classByName?_eq_some_iff]
    exact ⟨(h c.id).mpr ⟨c, hc, hname, rfl⟩, hwf.own c hc⟩

theorem IndexedAt.addClass_eq_error_iff {pool : ClassPool} {name : String}
    (h : pool.IndexedAt name) (kind : ClassKind) :
    pool.addClass name kind = .error (.duplicateClass name) ↔ (pool.bearer? name).isSome := by
  rw [pool.addClass_eq_error_iff, bearer?, List.find?_isSome]
  constructor
  · rintro ⟨id, hid⟩
    obtain ⟨c, hc, hname, -⟩ := (h id).mp hid
    exact ⟨c, hc, beq_iff_eq.mpr hname⟩
  · rintro ⟨c, hc, hname⟩
    exact ⟨c.id, (h c.id).mpr ⟨c, hc, beq_iff_eq.mp hname, rfl⟩⟩

/-! ## One operation -/

/-- The operation removes a class that has the name when it goes. -/
def frees (pool : ClassPool) (name : String) : PoolOp → Bool
  | .removeClass id => (pool.class? id).any (·.name == name)
  | _ => false

/-- The identity that the operation enters under the name, as long as it is not taken. -/
def enters? (pool : ClassPool) (name : String) : PoolOp → Option ClassId
  | .addClass added _ => if added = name then some ⟨pool.nextClass⟩ else none
  | _ => none

/-- The operation gives the name to a class that is in the pool, or takes it from one. -/
def moves (pool : ClassPool) (name : String) : PoolOp → Bool
  | .editClass id edit =>
    (pool.class? id).any fun c => (c.name == name) != ((edit.apply c).name == name)
  | _ => false

/-- An operation leaves the index as it is if what it hands its work to does. -/
theorem nameIndex_after_of_map {pool : ClassPool} {op : PoolOp} {α : Type}
    {result : Except PoolError α} {g : α → PoolReply × ClassPool}
    (hperform : pool.perform op = result.map g)
    (hkept : ∀ a, result = .ok a → (g a).2.nameIndex = pool.nameIndex) :
    (pool.after op).nameIndex = pool.nameIndex :=
  after_of_map (fun p => p.nameIndex = pool.nameIndex) hperform rfl hkept

theorem lookup_after_addClass (pool : ClassPool) (added : String) (kind : ClassKind)
    (name : String) :
    (pool.after (.addClass added kind)).nameIndex.lookup name =
      (pool.nameIndex.lookup name).or (pool.enters? name (.addClass added kind)) := by
  show _ = (pool.nameIndex.lookup name).or (if added = name then some ⟨pool.nextClass⟩ else none)
  by_cases htaken : (pool.nameIndex.lookup added).isSome = true
  · have hsame : pool.after (.addClass added kind) = pool := by
      simp [after, perform, addClass, htaken, Except.map]
    rw [hsame]
    by_cases hname : added = name
    · obtain ⟨id, hid⟩ := Option.isSome_iff_exists.mp htaken
      rw [← hname, hid, Option.some_or]
    · rw [if_neg hname, Option.or_none]
  · have hindex : (pool.after (.addClass added kind)).nameIndex =
        pool.nameIndex ++ [(added, ⟨pool.nextClass⟩)] := by
      simp [after, perform, addClass, htaken, Except.map]
    rw [hindex, List.lookup_append]
    by_cases hname : added = name
    · simp [hname]
    · have hne : (name == added) = false := beq_eq_false_iff_ne.mpr (Ne.symm hname)
      simp [hname, List.lookup_cons, hne]

theorem lookup_after_removeClass (pool : ClassPool) (id : ClassId) (name : String) :
    (pool.after (.removeClass id)).nameIndex.lookup name =
      if pool.frees name (.removeClass id) then none else pool.nameIndex.lookup name := by
  cases hfound : pool.class? id with
  | none =>
    have hsame : pool.after (.removeClass id) = pool := by
      simp [after, perform, removeClass, hfound, Except.map]
    simp [hsame, frees, hfound]
  | some c =>
    have hindex : (pool.after (.removeClass id)).nameIndex =
        pool.nameIndex.filter (·.1 != c.name) := by
      simp [after, perform, removeClass, hfound, Except.map]
    rw [hindex, lookup_filter_ne, frees, hfound]
    by_cases hname : name = c.name
    · simp [hname]
    · have hne : (c.name == name) = false := beq_eq_false_iff_ne.mpr (Ne.symm hname)
      simp [hname, hne]

/-- What an operation does to the entry of a name: a removal may take it, an addition may make
    it, and nothing else has to do with it. -/
theorem lookup_after (pool : ClassPool) (op : PoolOp) (name : String) :
    (pool.after op).nameIndex.lookup name =
      if pool.frees name op then none
      else (pool.nameIndex.lookup name).or (pool.enters? name op) := by
  -- What neither adds nor removes a class leaves the index as it is.
  have hkept : (pool.after op).nameIndex = pool.nameIndex → pool.frees name op = false →
      pool.enters? name op = none → (pool.after op).nameIndex.lookup name =
        if pool.frees name op then none
        else (pool.nameIndex.lookup name).or (pool.enters? name op) := by
    intro hindex hfrees henters
    simp [hindex, hfrees, henters]
  cases op with
  | addClass added kind => exact pool.lookup_after_addClass added kind name
  | removeClass id =>
    rw [pool.lookup_after_removeClass id name]
    show _ = if _ then none else (pool.nameIndex.lookup name).or none
    rw [Option.or_none]
  | addSubclass super sub =>
    refine hkept (nameIndex_after_of_map rfl fun a ha => ?_) rfl rfl
    rw [(addSubclass_eq_ok ha).2]
    rfl
  | addClassAttribute id added =>
    refine hkept (nameIndex_after_of_map rfl fun a ha => ?_) rfl rfl
    rw [addClassAttribute_eq_ok ha]
    rfl
  | addMember owner kind called descriptor =>
    refine hkept (nameIndex_after_of_map rfl fun a ha => ?_) rfl rfl
    rw [(addMember_eq_ok ha).2]
    rfl
  | addMemberAttribute ref added =>
    refine hkept (nameIndex_after_of_map rfl fun a ha => ?_) rfl rfl
    rw [addMemberAttribute_eq_ok ha]
    rfl
  | replaceMember ref =>
    refine hkept (nameIndex_after_of_map rfl fun a ha => ?_) rfl rfl
    rw [(replaceMember_eq_ok ha).2]
    rfl
  | editClass id edit => exact hkept rfl rfl rfl
  | editMember ref edit => exact hkept rfl rfl rfl

/-- An identity comes in under a name that was free exactly if a class is added under it. -/
theorem enters?_eq_some_iff (pool : ClassPool) (name : String) (op : PoolOp) (id : ClassId) :
    pool.nameIndex.lookup name = none ∧ pool.enters? name op = some id ↔
      ∃ kind after, op = .addClass name kind ∧ pool.addClass name kind = .ok (id, after) := by
  constructor
  · rintro ⟨hfree, henters⟩
    cases op with
    | addClass added kind =>
      have hadded : (if added = name then some ⟨pool.nextClass⟩ else none) = some id := henters
      split at hadded
      · rename_i heq
        subst heq
        have hnot : ¬(pool.nameIndex.lookup added).isSome = true := by simp [hfree]
        obtain rfl := Option.some.inj hadded
        exact ⟨kind, _, rfl, if_neg hnot⟩
      · exact absurd hadded nofun
    | _ => exact absurd henters nofun
  · rintro ⟨kind, after, rfl, hadd⟩
    obtain ⟨hfree, rfl, -⟩ := addClass_eq_ok hadd
    exact ⟨hfree, if_pos rfl⟩

/-- The step: an operation that does not move a name leaves the index right about it. -/
theorem IndexedAt.after {pool : ClassPool} {name : String} (h : pool.IndexedAt name)
    (hwf : pool.WellFormed) {op : PoolOp} (hstays : pool.moves name op = false) :
    (pool.after op).IndexedAt name := by
  by_cases hrenames : pool.renames op = true
  · -- Only an edit in place renames a class, and this one leaves the name where it is.
    cases op with
    | editClass id edit =>
      have hallowed : pool.Allows [] edit.apply := allows_classEdit edit
      refine h.mapClass hallowed.id ?_
      rintro c hc rfl
      simp only [moves, hwf.own c hc, Option.any_some, bne_eq_false_iff_eq] at hstays
      rw [← beq_iff_eq, ← hstays, beq_iff_eq]
    | _ => exact absurd hrenames Bool.false_ne_true
  · rw [Bool.not_eq_true] at hrenames
    unfold ClassPool.after
    cases hperform : pool.perform op with
    | error e => exact h
    | ok result =>
      obtain ⟨reply, changed⟩ := result
      have heffect := hwf.effect hperform
      rw [hrenames] at heffect
      show changed.IndexedAt name
      generalize hrenamed : false = renamed at heffect
      cases heffect with
      | added hadd => exact h.addClass hadd
      | removed hremove => exact h.removeClass hwf hremove
      | edited id hf _ hname =>
        refine h.mapClass hf.id fun c hc heq => ?_
        rw [hname hrenamed.symm c hc heq]
      | editedWithNext id hf _ hname =>
        have hedited : (pool.mapClass id _).IndexedAt name :=
          h.mapClass hf.id fun c _ _ => by rw [hname c]
        exact hedited

end ClassPool

/-! ## Runs -/

namespace PoolRun

/-- A class holds a name after a run: it was added under the name, and since then no class was
    removed that had the name when it went. -/
inductive Holds : List PoolOp → String → ClassId → Prop where
  | added {ops : List PoolOp} {name : String} {kind : ClassKind} {id : ClassId}
      {after : ClassPool} (hadd : (of ops).pool.addClass name kind = .ok (id, after)) :
      Holds (ops ++ [.addClass name kind]) name id
  | kept {ops : List PoolOp} {name : String} {id : ClassId} (op : PoolOp)
      (hholds : Holds ops name id) (hfrees : (of ops).pool.frees name op = false) :
      Holds (ops ++ [op]) name id

theorem not_holds_nil (name : String) (id : ClassId) : ¬Holds [] name id := by
  generalize hops : ([] : List PoolOp) = ops
  intro hholds
  cases hholds with
  | added _ => simp at hops
  | kept _ _ _ => simp at hops

/-- A name is held after an operation if it was held before, or the operation added a class under
    it. -/
theorem holds_concat {ops : List PoolOp} {op : PoolOp} {name : String} {id : ClassId} :
    Holds (ops ++ [op]) name id ↔
      (Holds ops name id ∧ (of ops).pool.frees name op = false) ∨
      ∃ kind after, op = .addClass name kind ∧
        (of ops).pool.addClass name kind = .ok (id, after) := by
  constructor
  · generalize hops : ops ++ [op] = all
    intro hholds
    cases hholds with
    | added hadd =>
      obtain ⟨rfl, rfl⟩ := List.append_singleton_inj.mp hops
      exact .inr ⟨_, _, rfl, hadd⟩
    | kept last hholds hfrees =>
      obtain ⟨rfl, rfl⟩ := List.append_singleton_inj.mp hops
      exact .inl ⟨hholds, hfrees⟩
  · rintro (⟨hholds, hfrees⟩ | ⟨kind, after, rfl, hadd⟩)
    · exact .kept op hholds hfrees
    · exact .added hadd

/-- The index says who holds a name, in every run. -/
theorem lookup_iff_holds (ops : List PoolOp) (name : String) (id : ClassId) :
    (of ops).pool.nameIndex.lookup name = some id ↔ Holds ops name id := by
  induction ops using List.reverseRecOn generalizing id with
  | nil => exact ⟨nofun, fun hholds => absurd hholds (not_holds_nil name id)⟩
  | append_singleton ops op ih =>
    rw [holds_concat, ← ih id, of_concat, pool_step, ClassPool.lookup_after]
    rw [← ClassPool.enters?_eq_some_iff]
    cases hfrees : (of ops).pool.frees name op with
    | false => simp [Option.or_eq_some_iff]
    | true =>
      -- What removes a class adds none.
      have henters : (of ops).pool.enters? name op = none := by
        cases op with
        | removeClass _ => rfl
        | _ => exact absurd hfrees Bool.false_ne_true
      simp [henters]

/-- Some operation of a run that goes on from here moves the name. -/
def movesName (name : String) : PoolRun → List PoolOp → Bool
  | _, [] => false
  | run, op :: ops => run.pool.moves name op || movesName name (run.step op) ops

theorem movesName_concat (name : String) (run : PoolRun) (ops : List PoolOp) (op : PoolOp) :
    movesName name run (ops ++ [op]) =
      (movesName name run ops || (ops.foldl step run).pool.moves name op) := by
  induction ops generalizing run with
  | nil => simp [movesName]
  | cons first ops ih =>
    rw [List.cons_append, movesName, movesName, ih, List.foldl_cons, Bool.or_assoc]

/-- The index is right about a name that no operation of the run moved. -/
theorem indexedAt_of {ops : List PoolOp} {name : String} (hlasts : (of ops).Lasts)
    (hstays : movesName name {} ops = false) : (of ops).pool.IndexedAt name := by
  induction ops using List.reverseRecOn with
  | nil => exact ClassPool.Indexed.empty name
  | append_singleton ops op ih =>
    rw [movesName_concat] at hstays
    obtain ⟨hbefore, hop⟩ := Bool.or_eq_false_iff.mp hstays
    rw [of_concat] at hlasts ⊢
    have hearlier := hlasts.of_step
    rw [pool_step]
    exact (ih hearlier hbefore).after hearlier.wellFormed hop

/-- **Look-ups by name**: after every run an addition is refused exactly if a class holds the name,
    and a look-up finds the class that holds it, as long as it is there.  A removal frees the name
    that the class has when it goes and no other.  For a name that no edit in place gave to a class
    or took from one, this is as one would have it: the class with the name is found, and the name
    is taken exactly if there is one.  Identities must not run out for this. -/
theorem lookup_over_run (ops : List PoolOp) (name : String) :
    (∀ kind, (of ops).pool.addClass name kind = .error (.duplicateClass name) ↔
      ∃ id, Holds ops name id) ∧
    (∀ c, (of ops).pool.classByName? name = some c ↔
      Holds ops name c.id ∧ (of ops).pool.class? c.id = some c) ∧
    (∀ id c after, (of ops).pool.removeClass id = .ok (c, after) →
      ∀ kind, after.addClass name kind = .error (.duplicateClass name) ↔
        name ≠ c.name ∧ ∃ id, Holds ops name id) ∧
    ((of ops).Lasts → movesName name {} ops = false →
      (of ops).pool.classByName? name = (of ops).pool.bearer? name ∧
      ∀ kind, (of ops).pool.addClass name kind = .error (.duplicateClass name) ↔
        ((of ops).pool.bearer? name).isSome) := by
  refine ⟨?_, ?_, ?_, ?_⟩
  · intro kind
    simp only [ClassPool.addClass_eq_error_iff, lookup_iff_holds]
  · intro c
    rw [ClassPool.classByName?_eq_some_iff, lookup_iff_holds]
  · intro id c after hremove kind
    obtain ⟨-, hafter⟩ := ClassPool.removeClass_eq_ok hremove
    have hindex : after.nameIndex = (of ops).pool.nameIndex.filter (·.1 != c.name) := by rw [hafter]
    rw [ClassPool.addClass_eq_error_iff, hindex, ClassPool.lookup_filter_ne]
    by_cases hname : name = c.name
    · simp [hname]
    · simp only [if_neg hname, lookup_iff_holds]
      exact (and_iff_right hname).symm
  · intro hlasts hstays
    have hindexed := indexedAt_of hlasts hstays
    exact ⟨hindexed.classByName?_eq hlasts.wellFormed, hindexed.addClass_eq_error_iff⟩

/-- A class is renamed and another one removed, and the name of the latter is given out anew.  It
    is free again once the class that has it then is removed. -/
def renamedAndReused : List PoolOp :=
  [.addClass "a/A" .program, .addClass "b/B" .program, .editClass ⟨1⟩ { name := some "c/C" },
    .removeClass ⟨0⟩, .addClass "a/A" .library]

theorem lookup_over_run_of_renamedAndReused :
    movesName "a/A" {} renamedAndReused = false ∧
    ((of renamedAndReused).pool.classByName? "a/A").map (·.id) = some ⟨2⟩ ∧
    (of renamedAndReused).pool.addClass "a/A" .program = .error (.duplicateClass "a/A") ∧
    ∃ c after, (of renamedAndReused).pool.removeClass ⟨2⟩ = .ok (c, after) ∧
      after.addClass "a/A" .program ≠ .error (.duplicateClass "a/A") := by
  have hstays : movesName "a/A" {} renamedAndReused = false := by decide
  obtain ⟨-, -, hremoval, hnamed⟩ := lookup_over_run renamedAndReused "a/A"
  obtain ⟨hfound, htaken⟩ := hnamed ⟨by decide, by decide⟩ hstays
  obtain ⟨c, after, hremove, hname⟩ : ∃ c after,
      (of renamedAndReused).pool.removeClass ⟨2⟩ = .ok (c, after) ∧ "a/A" = c.name :=
    ⟨_, _, rfl, rfl⟩
  refine ⟨hstays, ?_, (htaken .program).mpr (by decide), c, after, hremove, ?_⟩
  · rw [hfound]
    decide
  · intro hrefused
    obtain ⟨hother, -⟩ := (hremoval _ c after hremove .program).mp hrefused
    exact hother hname

/-- A class is renamed, another one gets its old name and is removed, and the first one takes that
    name back. -/
def nameHandedOn : List PoolOp :=
  [.addClass "a/A" .program, .addClass "b/B" .program, .editClass ⟨1⟩ { name := some "c/C" },
    .editClass ⟨0⟩ { name := some "b/B" }, .removeClass ⟨0⟩,
    .editClass ⟨1⟩ { name := some "b/B" }]

/-- Names that are distinct all the time are not enough: at the end of this run the class that has
    a name is not found under it, and a name that no class has is refused. -/
theorem nameHandedOn_misleads :
    (∀ before ∈ nameHandedOn.inits, (of before).pool.NamesDistinct) ∧
    ((of nameHandedOn).pool.bearer? "b/B").map (·.id) = some ⟨1⟩ ∧
    (of nameHandedOn).pool.classByName? "b/B" = none ∧
    (of nameHandedOn).pool.bearer? "a/A" = none ∧
    (of nameHandedOn).pool.addClass "a/A" .program = .error (.duplicateClass "a/A") := by
  have htaken : ((of nameHandedOn).pool.nameIndex.lookup "a/A").isSome := by decide
  refine ⟨by decide, by decide, by decide, by decide, ?_⟩
  exact if_pos htaken

end PoolRun

end KotlinMetadata
