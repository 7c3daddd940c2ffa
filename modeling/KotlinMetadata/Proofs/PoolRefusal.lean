import KotlinMetadata.Proofs.PoolRun

/-! # Refused operations

    An operation on a pool is made of checks and of writes, and a check that fails leaves whatever
    was written before it.  Spelled out in this way, a refused operation still leaves the pool as it
    was: no check stands behind a write.

    - `ClassPool.Refuses`: which operations are refused, and why;
    - `PoolEdit`: operations as checks and writes, one after the other;
    - `PoolEdit.run_perform`: they do what the operations do, and leave the pool if one is refused;
    - `PoolEdit.session`: several, each on the pool that the one before has left;
    - `PoolRun.refused_without_trace`: no run shows that an operation was refused in it, but for the
      refusal itself.
-/

namespace KotlinMetadata

/-! ## Refusals -/

namespace ClassPool

/-- No class of the pool has the identity. -/
def Lacks (pool : ClassPool) (id : ClassId) : Prop := ∀ c ∈ pool.classes, c.id ≠ id

/-- The link leads nowhere: the claimed class is not in the pool, or has neither a field nor a
    method with the identity. -/
def Dangles (pool : ClassPool) (ref : MemberRef) : Prop :=
  pool.Lacks ref.owner ∨ ∃ c, pool.class? ref.owner = some c ∧
    (∀ m ∈ c.fields, m.id ≠ ref.member) ∧ ∀ m ∈ c.methods, m.id ≠ ref.member

/-- The operation is refused for a reason: a name that the index has already, an identity that no
    class has, or a link that leads nowhere.  Of two classes that are not in the pool the subclass
    is the reason.  Edits in place are not refused. -/
def Refuses (pool : ClassPool) : PoolOp → PoolError → Prop
  | .addClass name _, e => (∃ id, (name, id) ∈ pool.nameIndex) ∧ e = .duplicateClass name
  | .removeClass id, e => pool.Lacks id ∧ e = .classNotFound id
  | .addClassAttribute id _, e => pool.Lacks id ∧ e = .classNotFound id
  | .addMember owner _ _ _, e => pool.Lacks owner ∧ e = .classNotFound owner
  | .addSubclass super sub, e =>
    (pool.Lacks sub ∧ e = .classNotFound sub) ∨
      (¬ pool.Lacks sub ∧ pool.Lacks super ∧ e = .classNotFound super)
  | .addMemberAttribute ref _, e => pool.Dangles ref ∧ e = .memberNotFound ref
  | .replaceMember ref, e => pool.Dangles ref ∧ e = .memberNotFound ref
  | .editClass _ _, _ => False
  | .editMember _ _, _ => False

section
variable {pool : ClassPool}

theorem class?_eq_none_iff {id : ClassId} : pool.class? id = none ↔ pool.Lacks id := by
  unfold class? Lacks
  simp [List.find?_eq_none]

theorem isNone_class?_iff {id : ClassId} : (pool.class? id).isNone ↔ pool.Lacks id :=
  Option.isNone_iff_eq_none.trans class?_eq_none_iff

theorem isNone_member?_iff {ref : MemberRef} : (pool.member? ref).isNone ↔ pool.Dangles ref := by
  unfold member? Dangles
  rw [Option.isNone_iff_eq_none, ← class?_eq_none_iff]
  cases pool.class? ref.owner with
  | none => simp
  | some c => simp [JvmClass.findMember?, JvmClass.members, List.find?_eq_none]

theorem isSome_lookup_iff {name : String} :
    (pool.nameIndex.lookup name).isSome ↔ ∃ id, (name, id) ∈ pool.nameIndex := by
  rw [List.lookup_isSome_iff]
  simp

theorem addClass_eq_error {name : String} {kind : ClassKind} {e : PoolError} :
    pool.addClass name kind = .error e ↔
      (∃ id, (name, id) ∈ pool.nameIndex) ∧ e = .duplicateClass name := by
  rw [← isSome_lookup_iff]
  unfold addClass
  split
  · rename_i htaken
    simp [htaken, eq_comm]
  · rename_i hfree
    simp [hfree]

theorem removeClass_eq_error {id : ClassId} {e : PoolError} :
    pool.removeClass id = .error e ↔ pool.Lacks id ∧ e = .classNotFound id := by
  rw [← class?_eq_none_iff]
  unfold removeClass
  cases pool.class? id <;> simp [eq_comm]

theorem map_eq_error_iff {α β : Type} {x : Except PoolError α} {g : α → β} {e : PoolError} :
    x.map g = .error e ↔ x = .error e := by
  cases x <;> simp [Except.map]

/-- An operation with one check is refused exactly if the check fails. -/
theorem guard_eq_error {α : Type} {failed : Bool} {reason e : PoolError} {result : α} :
    (if failed then .error reason else .ok result : Except PoolError α) = .error e ↔
      failed = true ∧ e = reason := by
  cases failed <;> simp [eq_comm]

/-- Operations are refused for these reasons and for no others. -/
theorem perform_eq_error_iff {op : PoolOp} {e : PoolError} :
    pool.perform op = .error e ↔ pool.Refuses op e := by
  cases op with
  | addClass name kind => exact map_eq_error_iff.trans addClass_eq_error
  | removeClass id => exact map_eq_error_iff.trans removeClass_eq_error
  | addSubclass super sub =>
    refine map_eq_error_iff.trans ?_
    rw [addSubclass, Refuses, ← isNone_class?_iff, ← isNone_class?_iff]
    cases (pool.class? sub).isNone with
    | true =>
      rw [if_pos rfl, Except.error.injEq]
      constructor
      · rintro rfl
        exact .inl ⟨rfl, rfl⟩
      · rintro (⟨-, rfl⟩ | ⟨hsub, -⟩)
        · rfl
        · exact absurd rfl hsub
    | false =>
      rw [if_neg Bool.false_ne_true, guard_eq_error]
      simp
  | addClassAttribute id added =>
    refine map_eq_error_iff.trans ?_
    rw [addClassAttribute, Refuses, ← isNone_class?_iff]
    exact guard_eq_error
  | addMember owner kind name descriptor =>
    refine map_eq_error_iff.trans ?_
    rw [addMember, Refuses, ← isNone_class?_iff]
    exact guard_eq_error
  | addMemberAttribute ref added =>
    refine map_eq_error_iff.trans ?_
    rw [addMemberAttribute, Refuses, ← isNone_member?_iff]
    exact guard_eq_error
  | replaceMember ref =>
    refine map_eq_error_iff.trans ?_
    rw [replaceMember, Refuses, ← isNone_member?_iff]
    exact guard_eq_error
  | editClass id edit => exact ⟨nofun, nofun⟩
  | editMember ref edit => exact ⟨nofun, nofun⟩

end

end ClassPool

/-! ## Checks and writes -/

/-- Steps on a pool.  One that breaks off leaves the pool as it is by then. -/
abbrev PoolEdit := EStateM PoolError ClassPool

namespace PoolEdit

/-- Breaks off unless the class is in the pool. -/
def demandClass (id : ClassId) : PoolEdit Unit := do
  if ((← get).class? id).isNone then throw (.classNotFound id)

/-- Breaks off unless the link leads to a member. -/
def demandMember (ref : MemberRef) : PoolEdit Unit := do
  if ((← get).member? ref).isNone then throw (.memberNotFound ref)

/-- Hands out the next identity of a class, and enters the name before the class. -/
def addClass (name : String) (kind : ClassKind) : PoolEdit ClassId := do
  if ((← get).nameIndex.lookup name).isSome then throw (.duplicateClass name)
  let id : ClassId := ⟨(← get).nextClass⟩
  modify fun pool => { pool with nextClass := pool.nextClass + 1 }
  modify fun pool => { pool with nameIndex := pool.nameIndex ++ [(name, id)] }
  modify fun pool => { pool with classes := pool.classes ++ [{ id, name, kind }] }
  return id

/-- Takes out the class, then its name, and then goes through the classes that are left. -/
def removeClass (id : ClassId) : PoolEdit JvmClass := do
  let some c := (← get).class? id | throw (.classNotFound id)
  modify fun pool => { pool with classes := pool.classes.filter (·.id != id) }
  modify fun pool => { pool with nameIndex := pool.nameIndex.filter (·.1 != c.name) }
  modify fun pool => { pool with
    classes := pool.classes.map fun other =>
      { other with subclasses := other.subclasses.filter (· != id) } }
  return c

/-- The subclass is looked for before the superclass. -/
def addSubclass (super sub : ClassId) : PoolEdit Unit := do
  demandClass sub
  demandClass super
  modify (·.mapClass super fun c =>
    if c.hasDirectSubclass sub then c else { c with subclasses := c.subclasses ++ [sub] })

def addClassAttribute (id : ClassId) (added : Attribute) : PoolEdit Unit := do
  demandClass id
  modify (·.mapClass id fun c => { c with attributes := c.attributes ++ [added] })

/-- The identity is read before the check, and counted last. -/
def addMember (owner : ClassId) (kind : MemberKind) (name descriptor : String) :
    PoolEdit MemberRef := do
  let member : MemberId := ⟨(← get).nextMember⟩
  demandClass owner
  modify (·.mapClass owner (·.addMember { id := member, kind, name, descriptor }))
  modify fun pool => { pool with nextMember := pool.nextMember + 1 }
  return ⟨owner, member⟩

def addMemberAttribute (ref : MemberRef) (added : Attribute) : PoolEdit Unit := do
  demandMember ref
  modify (·.mapClass ref.owner (·.mapMember ref.member fun m =>
    { m with attributes := m.attributes ++ [added] }))

/-- The identity is read before the check, and counted last. -/
def replaceMember (ref : MemberRef) : PoolEdit MemberRef := do
  let fresh : MemberId := ⟨(← get).nextMember⟩
  demandMember ref
  modify (·.mapClass ref.owner (·.mapMember ref.member fun m => { m with id := fresh }))
  modify fun pool => { pool with nextMember := pool.nextMember + 1 }
  return ⟨ref.owner, fresh⟩

/-- Performs an operation, step by step. -/
def perform : PoolOp → PoolEdit PoolReply
  | .addClass name kind => do return .ofClass (← addClass name kind)
  | .removeClass id => do
    let _ ← removeClass id
    return .done
  | .addSubclass super sub => do
    addSubclass super sub
    return .done
  | .addClassAttribute id added => do
    addClassAttribute id added
    return .done
  | .addMember owner kind name descriptor => do
    return .ofMember (← addMember owner kind name descriptor)
  | .addMemberAttribute ref added => do
    addMemberAttribute ref added
    return .done
  | .replaceMember ref => do return .ofMember (← replaceMember ref)
  | .editClass id edit => do
    modify (·.editClass id edit)
    return .done
  | .editMember ref edit => do
    modify (·.editMember ref edit)
    return .done

/-- What an operation comes to, with the pool that is left: the pool of before, if it is refused. -/
def leaving {α : Type} (pool : ClassPool) :
    Except PoolError (α × ClassPool) → EStateM.Result PoolError ClassPool α
  | .ok (a, after) => .ok a after
  | .error e => .error e pool

section
variable (pool : ClassPool)

theorem run_demandClass (id : ClassId) :
    (demandClass id).run pool =
      if (pool.class? id).isNone then .error (.classNotFound id) pool else .ok () pool := by
  show EStateM.run (if (pool.class? id).isNone then throw _ else pure () : PoolEdit Unit) pool = _
  cases (pool.class? id).isNone <;> rfl

theorem run_demandMember (ref : MemberRef) :
    (demandMember ref).run pool =
      if (pool.member? ref).isNone then .error (.memberNotFound ref) pool else .ok () pool := by
  show EStateM.run (if (pool.member? ref).isNone then throw _ else pure () : PoolEdit Unit) pool = _
  cases (pool.member? ref).isNone <;> rfl

theorem run_addClass (name : String) (kind : ClassKind) :
    (addClass name kind).run pool = leaving pool (pool.addClass name kind) := by
  simp only [addClass, EStateM.run_bind, EStateM.run_get, ClassPool.addClass]
  cases (pool.nameIndex.lookup name).isSome <;> rfl

theorem run_removeClass (id : ClassId) :
    (removeClass id).run pool = leaving pool (pool.removeClass id) := by
  simp only [removeClass, EStateM.run_bind, EStateM.run_get, ClassPool.removeClass]
  cases pool.class? id with
  | none => rfl
  | some c => rfl

theorem run_addSubclass (super sub : ClassId) :
    (addSubclass super sub).run pool =
      leaving pool ((pool.addSubclass super sub).map fun after => ((), after)) := by
  simp only [addSubclass, EStateM.run_bind, run_demandClass, ClassPool.addSubclass]
  cases (pool.class? sub).isNone with
  | true => rfl
  | false =>
    simp only [Bool.false_eq_true, if_false]
    cases (pool.class? super).isNone <;> rfl

theorem run_addMember (owner : ClassId) (kind : MemberKind) (name descriptor : String) :
    (addMember owner kind name descriptor).run pool =
      leaving pool (pool.addMember owner kind name descriptor) := by
  simp only [addMember, EStateM.run_bind, EStateM.run_get, run_demandClass, ClassPool.addMember]
  cases (pool.class? owner).isNone <;> rfl

theorem run_addClassAttribute (id : ClassId) (added : Attribute) :
    (addClassAttribute id added).run pool =
      leaving pool ((pool.addClassAttribute id added).map fun after => ((), after)) := by
  simp only [addClassAttribute, EStateM.run_bind, run_demandClass, ClassPool.addClassAttribute]
  cases (pool.class? id).isNone <;> rfl

theorem run_addMemberAttribute (ref : MemberRef) (added : Attribute) :
    (addMemberAttribute ref added).run pool =
      leaving pool ((pool.addMemberAttribute ref added).map fun after => ((), after)) := by
  simp only [addMemberAttribute, EStateM.run_bind, run_demandMember, ClassPool.addMemberAttribute]
  cases (pool.member? ref).isNone <;> rfl

theorem run_replaceMember (ref : MemberRef) :
    (replaceMember ref).run pool = leaving pool (pool.replaceMember ref) := by
  simp only [replaceMember, EStateM.run_bind, EStateM.run_get, run_demandMember,
    ClassPool.replaceMember]
  cases (pool.member? ref).isNone <;> rfl

/-- A reply at the end changes neither what a step leaves nor whether it breaks off. -/
theorem run_reply {α : Type} {x : PoolEdit α} {result : Except PoolError (α × ClassPool)}
    (hx : x.run pool = leaving pool result) (reply : α → PoolReply) :
    (do return reply (← x) : PoolEdit PoolReply).run pool =
      leaving pool (result.map fun (a, after) => (reply a, after)) := by
  rw [EStateM.run_bind, hx]
  cases result <;> rfl

/-- Step by step, an operation comes to what it comes to at once, and leaves the pool of before if
    it is refused. -/
theorem run_perform (op : PoolOp) : (perform op).run pool = leaving pool (pool.perform op) := by
  cases op with
  | addClass name kind => exact run_reply pool (run_addClass pool name kind) _
  | removeClass id => exact run_reply pool (run_removeClass pool id) _
  | addSubclass super sub =>
    refine (run_reply pool (run_addSubclass pool super sub) _).trans ?_
    rw [ClassPool.perform]
    cases pool.addSubclass super sub <;> rfl
  | addClassAttribute id added =>
    refine (run_reply pool (run_addClassAttribute pool id added) _).trans ?_
    rw [ClassPool.perform]
    cases pool.addClassAttribute id added <;> rfl
  | addMember owner kind name descriptor =>
    exact run_reply pool (run_addMember pool owner kind name descriptor) _
  | addMemberAttribute ref added =>
    refine (run_reply pool (run_addMemberAttribute pool ref added) _).trans ?_
    rw [ClassPool.perform]
    cases pool.addMemberAttribute ref added <;> rfl
  | replaceMember ref => exact run_reply pool (run_replaceMember pool ref) _
  | editClass id edit => rfl
  | editMember ref edit => rfl

/-- An operation breaks off exactly if it is refused, and then leaves the pool of before. -/
theorem run_perform_eq_error_iff {op : PoolOp} {e : PoolError} {left : ClassPool} :
    (perform op).run pool = .error e left ↔ pool.Refuses op e ∧ left = pool := by
  rw [run_perform, ← ClassPool.perform_eq_error_iff]
  cases pool.perform op with
  | error reason => simp [leaving, eq_comm]
  | ok result => simp [leaving]

end

/-! ## Sessions -/

/-- Performs operations, each on the pool that the one before has left, refused or not: the replies
    and refusals, and the pool at the end. -/
def session (pool : ClassPool) : List PoolOp → List (Except PoolError PoolReply) × ClassPool
  | [] => ([], pool)
  | op :: ops =>
    match (perform op).run pool with
    | .ok reply left => ((session left ops).1.cons (.ok reply), (session left ops).2)
    | .error e left => ((session left ops).1.cons (.error e), (session left ops).2)

theorem session_cons (pool : ClassPool) (op : PoolOp) (ops : List PoolOp) :
    session pool (op :: ops) =
      ((pool.perform op).map Prod.fst :: (session (pool.after op) ops).1,
        (session (pool.after op) ops).2) := by
  rw [session, run_perform, ClassPool.after]
  cases pool.perform op <;> rfl

theorem session_append (pool : ClassPool) (ops more : List PoolOp) :
    session pool (ops ++ more) =
      ((session pool ops).1 ++ (session (session pool ops).2 more).1,
        (session (session pool ops).2 more).2) := by
  induction ops generalizing pool with
  | nil => rfl
  | cons op ops ih =>
    rw [List.cons_append, session_cons, session_cons, ih]
    rfl

end PoolEdit

namespace PoolRun

/-- A session from the empty pool on reaches the pools of a run. -/
theorem session_of (ops : List PoolOp) : (PoolEdit.session {} ops).2 = (of ops).pool := by
  induction ops using List.reverseRecOn with
  | nil => rfl
  | append_singleton ops op ih =>
    rw [PoolEdit.session_append, ih, of_concat, pool_step, PoolEdit.session_cons]
    rfl

theorem of_append (ops more : List PoolOp) : of (ops ++ more) = more.foldl step (of ops) :=
  List.foldl_append

/-- **Refused without trace**: in every pool that a run reaches, an operation is refused exactly if
    there is a reason for it, and for that reason.  Step by step it leaves the pool as it was, with
    both counters, the index and every list.  So whatever is done afterwards is answered as if the
    operation had been left out, down to the identities that are handed out, and ends with the
    same pool. -/
theorem refused_without_trace (before : List PoolOp) (op : PoolOp) :
    (PoolEdit.session {} before).2 = (of before).pool ∧
    (∀ e, (of before).pool.perform op = .error e ↔ (of before).pool.Refuses op e) ∧
    (∀ e left, (PoolEdit.perform op).run (of before).pool = .error e left ↔
      (of before).pool.Refuses op e ∧ left = (of before).pool) ∧
    ∀ e, (of before).pool.Refuses op e → ∀ rest,
      of (before ++ op :: rest) = of (before ++ rest) ∧
      ∃ answers final,
        PoolEdit.session {} (before ++ rest) =
          ((PoolEdit.session {} before).1 ++ answers, final) ∧
        PoolEdit.session {} (before ++ op :: rest) =
          ((PoolEdit.session {} before).1 ++ .error e :: answers, final) := by
  refine ⟨session_of before, fun e => ClassPool.perform_eq_error_iff,
    fun e left => PoolEdit.run_perform_eq_error_iff _, ?_⟩
  intro e hrefuses rest
  have hperform : (of before).pool.perform op = .error e :=
    ClassPool.perform_eq_error_iff.mpr hrefuses
  have hafter : (of before).pool.after op = (of before).pool := by
    rw [ClassPool.after, hperform]
  refine ⟨?_, (PoolEdit.session (of before).pool rest).1,
    (PoolEdit.session (of before).pool rest).2, ?_, ?_⟩
  · rw [of_append, of_append, List.foldl_cons, step_of_error hperform]
  · rw [PoolEdit.session_append, session_of]
  · rw [PoolEdit.session_append, session_of, PoolEdit.session_cons, hafter, hperform]
    rfl

/-- A class, and a method of it that was replaced. -/
def methodReplaced : List PoolOp :=
  [.addClass "a/A" .program, .addMember ⟨0⟩ .method "run" "()V", .replaceMember ⟨⟨0⟩, ⟨0⟩⟩]

/-- A field, and a class. -/
def moreAdded : List PoolOp := [.addMember ⟨0⟩ .field "size" "I", .addClass "b/B" .library]

/-- The link to the method of before leads nowhere, and replacing its member once more takes no
    identity from what is added later. -/
theorem refused_without_trace_of_methodReplaced :
    (of methodReplaced).pool.Refuses (.replaceMember ⟨⟨0⟩, ⟨0⟩⟩) (.memberNotFound ⟨⟨0⟩, ⟨0⟩⟩) ∧
    ∃ answers final,
      PoolEdit.session {} (methodReplaced ++ .replaceMember ⟨⟨0⟩, ⟨0⟩⟩ :: moreAdded) =
        ((PoolEdit.session {} methodReplaced).1 ++
          .error (.memberNotFound ⟨⟨0⟩, ⟨0⟩⟩) :: answers, final) ∧
      answers = [.ok (.ofMember ⟨⟨0⟩, ⟨2⟩⟩), .ok (.ofClass ⟨1⟩)] := by
  obtain ⟨-, hrefused, -, htrace⟩ :=
    refused_without_trace methodReplaced (.replaceMember ⟨⟨0⟩, ⟨0⟩⟩)
  have hrefuses := (hrefused (.memberNotFound ⟨⟨0⟩, ⟨0⟩⟩)).mp rfl
  obtain ⟨-, answers, final, hwithout, hwith⟩ := htrace _ hrefuses moreAdded
  refine ⟨hrefuses, answers, final, hwith, ?_⟩
  have hanswers : (PoolEdit.session {} methodReplaced).1 ++ answers =
      (PoolEdit.session {} methodReplaced).1 ++
        [.ok (.ofMember ⟨⟨0⟩, ⟨2⟩⟩), .ok (.ofClass ⟨1⟩)] :=
    (congrArg Prod.fst hwithout).symm
  exact List.append_cancel_left hanswers

end PoolRun

end KotlinMetadata
