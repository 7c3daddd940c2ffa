import Mathlib.Data.List.Basic
import KotlinMetadata.ClassFile.Visitor
import KotlinMetadata.Proofs.PoolInvariant

/-! # Stacks of class filters

    A visitor of classes behind filters, one around the other, is shown the classes that pass all of
    them, as if there were no filter and no other class.

    - `ClassFilter`, `ClassVisitor.behind`: a filter by a direct subclass or by the name, and a
      visitor behind a stack of them;
    - `ClassFilter.visitAs_wrap`: one filter shows a class or passes over it;
    - `ClassPool.acceptAll_behind`: a stack shows the classes that are selected;
    - `ClassPool.run_forM_only_of_other`: where a visitor for one kind of classes breaks off;
    - `ClassPool.filterStack_exact`: which classes and members are seen, in what order and how.
-/

namespace KotlinMetadata

/-! ## Filters -/

/-- A filter of a stack. -/
inductive ClassFilter where
  /-- Shows the classes that do not list a given one as a direct subclass. -/
  | subclass (sub : ClassId)
  /-- Shows the classes whose name is accepted. -/
  | name (accepts : String → Bool)

namespace ClassFilter
variable {σ : Type}

/-- The class passes the filter. -/
def Passes : ClassFilter → JvmClass → Prop
  | .subclass sub, c => sub ∉ c.subclasses
  | .name accepts, c => accepts c.name = true

instance (f : ClassFilter) (c : JvmClass) : Decidable (f.Passes c) :=
  match f with
  | .subclass _ => inferInstanceAs (Decidable (¬ _))
  | .name _ => inferInstanceAs (Decidable (_ = true))

/-- The visitor behind the filter. -/
def wrap : ClassFilter → ClassVisitor σ → ClassVisitor σ
  | .subclass sub, v => v.withoutSubclass sub
  | .name accepts, v => v.filter fun c => accepts c.name

/-- A matcher of names makes such a filter. -/
theorem withName_eq_wrap (m : Matcher NameTest) (v : ClassVisitor σ) :
    v.withName m = (name fun s => m.matchesQuery { text := s.toList }).wrap v := rfl

/-- A filter shows a class as one of the kind as which it was shown, or passes over it. -/
theorem visitAs_wrap (f : ClassFilter) (v : ClassVisitor σ) (kind : ClassKind) (c : JvmClass) :
    (f.wrap v).visitAs kind c = if f.Passes c then v.visitAs kind c else pure () := by
  cases f with
  | subclass sub =>
    show (if (!c.subclasses.contains sub) = true then v.visitAs kind c else pure ()) = _
    by_cases h : sub ∈ c.subclasses <;> simp [Passes, h]
  | name accepts => rfl

end ClassFilter

namespace ClassVisitor
variable {σ : Type}

/-- The visitor behind a stack of filters, the outermost first. -/
def behind (stack : List ClassFilter) (v : ClassVisitor σ) : ClassVisitor σ :=
  stack.foldr ClassFilter.wrap v

theorem visitAs_behind (stack : List ClassFilter) (v : ClassVisitor σ) (kind : ClassKind)
    (c : JvmClass) :
    (v.behind stack).visitAs kind c =
      if ∀ f ∈ stack, f.Passes c then v.visitAs kind c else pure () := by
  induction stack with
  | nil => simp [behind]
  | cons f stack ih =>
    show (f.wrap (v.behind stack)).visitAs kind c = _
    rw [ClassFilter.visitAs_wrap, ih]
    simp only [List.forall_mem_cons, ite_and]

/-- The visitor with a handler for the classes of one kind, and none for any class. -/
def only (kind : ClassKind) (handle : JvmClass → Visit σ Unit) : ClassVisitor σ where
  handler k := if k = kind then some handle else none

theorem visit_only_of_eq {kind : ClassKind} {handle : JvmClass → Visit σ Unit} {c : JvmClass}
    (h : c.kind = kind) : (only kind handle).visit c = handle c := by
  simp [visit, visitAs, only, h]

theorem visit_only_of_ne {kind : ClassKind} {handle : JvmClass → Visit σ Unit} {c : JvmClass}
    (h : c.kind ≠ kind) : (only kind handle).visit c = throw .anyClass := by
  simp [visit, visitAs, only, h]

end ClassVisitor

/-! ## Selections -/

namespace ClassPool
variable {σ : Type} (pool : ClassPool) (stack : List ClassFilter)

/-- The classes that pass all filters, in the order of the pool. -/
def selected : List JvmClass := pool.classes.filter fun c => ∀ f ∈ stack, f.Passes c

variable {pool stack}

theorem mem_selected_iff {c : JvmClass} :
    c ∈ pool.selected stack ↔ c ∈ pool.classes ∧ ∀ f ∈ stack, f.Passes c := by
  rw [selected, List.mem_filter, decide_eq_true_iff]

/-- Which classes are selected depends on which filters there are, and not on how they stand. -/
theorem selected_congr {other : List ClassFilter} (h : ∀ f, f ∈ other ↔ f ∈ stack) :
    pool.selected other = pool.selected stack := by
  unfold selected
  simp only [h]

theorem forM_ite {α : Type} (p : α → Prop) [DecidablePred p] (visit : α → Visit σ Unit)
    (xs : List α) :
    (xs.forM fun x => if p x then visit x else pure ()) = (xs.filter fun x => p x).forM visit := by
  induction xs with
  | nil => rfl
  | cons x xs ih =>
    rw [List.forM_eq_forM] at ih ⊢
    rw [List.forM_cons, ih]
    by_cases hx : p x
    · rw [if_pos hx, List.filter_cons_of_pos (by simpa using hx)]
      rfl
    · rw [if_neg hx, List.filter_cons_of_neg (by simpa using hx), pure_bind]

variable (pool stack)

/-- The run: behind a stack a visitor is shown the selected classes, each as one of its kind. -/
theorem acceptAll_behind (v : ClassVisitor σ) :
    pool.acceptAll (v.behind stack).visit =
      (pool.selected stack).forM fun c => v.visitAs c.kind c := by
  have hvisit : (v.behind stack).visit =
      fun c => if ∀ f ∈ stack, f.Passes c then v.visitAs c.kind c else pure () :=
    funext fun c => v.visitAs_behind stack c.kind c
  rw [acceptAll, hvisit, forM_ite]
  rfl

variable {pool stack}

/-- A visitor that writes down classes of its kind, shown no others. -/
theorem run_forM_only {kind : ClassKind} (see : JvmClass → σ → σ) {cs : List JvmClass}
    (h : ∀ c ∈ cs, c.kind = kind) (s : σ) :
    (cs.forM (ClassVisitor.only kind fun c => modify (see c)).visit).run s =
      .ok () (cs.foldl (fun s c => see c s) s) := by
  induction cs generalizing s with
  | nil => rfl
  | cons c cs ih =>
    obtain ⟨hc, hcs⟩ := List.forall_mem_cons.mp h
    rw [List.forM_eq_forM, List.forM_cons, ClassVisitor.visit_only_of_eq hc, EStateM.run_bind]
    exact ih hcs (see c s)

/-- It breaks off at the first class of the other kind, and has seen those before it. -/
theorem run_forM_only_of_other {kind : ClassKind} (see : JvmClass → σ → σ)
    {before after : List JvmClass} {c : JvmClass} (hbefore : ∀ d ∈ before, d.kind = kind)
    (hc : c.kind ≠ kind) (s : σ) :
    ((before ++ c :: after).forM (ClassVisitor.only kind fun c => modify (see c)).visit).run s =
      .error .anyClass (before.foldl (fun s c => see c s) s) := by
  have hseen := run_forM_only see hbefore s
  rw [List.forM_eq_forM] at hseen ⊢
  rw [List.forM_append, EStateM.run_bind, hseen, List.forM_cons, ClassVisitor.visit_only_of_ne hc]
  rfl

/-- Classes are all of a kind, or there is a first among them that is not. -/
theorem of_kind_or_first_other (kind : ClassKind) (cs : List JvmClass) :
    (∀ c ∈ cs, c.kind = kind) ∨
    ∃ before c after, cs = before ++ c :: after ∧ (∀ d ∈ before, d.kind = kind) ∧
      c.kind ≠ kind := by
  induction cs with
  | nil => exact .inl nofun
  | cons d cs ih =>
    by_cases hd : d.kind = kind
    · rcases ih with hall | ⟨before, c, after, rfl, hbefore, hc⟩
      · exact .inl (List.forall_mem_cons.mpr ⟨hd, hall⟩)
      · exact .inr ⟨d :: before, c, after, rfl, List.forall_mem_cons.mpr ⟨hd, hbefore⟩, hc⟩
    · exact .inr ⟨[], d, cs, rfl, nofun, hd⟩

/-- Whether it breaks off at all is a matter of kinds. -/
theorem run_forM_only_eq_error_iff {kind : ClassKind} (see : JvmClass → σ → σ)
    {cs : List JvmClass} {s : σ} {e : MissingHandler} :
    (∃ left, (cs.forM (ClassVisitor.only kind fun c => modify (see c)).visit).run s =
        .error e left) ↔
      e = .anyClass ∧ ∃ c ∈ cs, c.kind ≠ kind := by
  rcases of_kind_or_first_other kind cs with hall | ⟨before, c, after, rfl, hbefore, hc⟩
  · rw [run_forM_only see hall]
    constructor
    · rintro ⟨_, hrun⟩
      cases hrun
    · rintro ⟨-, c, hc, hkind⟩
      exact absurd (hall c hc) hkind
  · rw [run_forM_only_of_other see hbefore hc]
    constructor
    · rintro ⟨_, hrun⟩
      cases hrun
      exact ⟨rfl, c, by simp, hc⟩
    · rintro ⟨rfl, -⟩
      exact ⟨_, rfl⟩

/-! ## Members -/

theorem forM_congr_of_mem {α : Type} {visit other : α → Visit σ Unit} {xs : List α}
    (h : ∀ x ∈ xs, visit x = other x) : xs.forM visit = xs.forM other := by
  induction xs with
  | nil => rfl
  | cons x xs ih =>
    obtain ⟨hx, hxs⟩ := List.forall_mem_cons.mp h
    show (visit x >>= fun _ => xs.forM visit) = (other x >>= fun _ => xs.forM other)
    rw [hx, ih hxs]

/-- In a well-formed pool the fields of a class are shown as fields. -/
theorem WellFormed.forM_fields (hpool : pool.WellFormed) {c : JvmClass} (hc : c ∈ pool.classes)
    (v : MemberVisitor σ) : c.fields.forM (v.visit c) = c.fields.forM (v.visitAs .field c) :=
  forM_congr_of_mem fun m hm => by
    rw [← (hpool.kinds c hc).1 m hm]
    rfl

/-- In a well-formed pool the methods of a class are shown as methods. -/
theorem WellFormed.forM_methods (hpool : pool.WellFormed) {c : JvmClass} (hc : c ∈ pool.classes)
    (v : MemberVisitor σ) : c.methods.forM (v.visit c) = c.methods.forM (v.visitAs .method c) :=
  forM_congr_of_mem fun m hm => by
    rw [← (hpool.kinds c hc).2 m hm]
    rfl

/-! ## Every stack -/

/-- The run of a visitor for one kind of classes, which writes down what it sees, behind a stack. -/
def runOnly (pool : ClassPool) (stack : List ClassFilter) (kind : ClassKind)
    (see : JvmClass → σ → σ) (s : σ) : EStateM.Result MissingHandler σ Unit :=
  (pool.acceptAll ((ClassVisitor.only kind fun c => modify (see c)).behind stack).visit).run s

/-- **Stacks of filters**: a visitor behind a stack is shown the classes that list none of the given
    direct subclasses and have a name that every name filter accepts, in the order of their
    identities and each as one of its kind.  So how the filters stand and how often does not
    matter.  A visitor for one kind of classes breaks off exactly if a class of the other kind is
    selected, and has seen the selected classes before the first of these.  A visitor of fields,
    methods or members is shown those of the selected classes, class by class and in their order,
    each as one of its kind. -/
theorem filterStack_exact (pool : ClassPool) (stack : List ClassFilter) :
    (∀ c, c ∈ pool.selected stack ↔ c ∈ pool.classes ∧
      (∀ sub, .subclass sub ∈ stack → sub ∉ c.subclasses) ∧
      ∀ accepts, .name accepts ∈ stack → accepts c.name = true) ∧
    (pool.selected stack).Sublist pool.classes ∧
    (pool.WellFormed → (pool.selected stack).Pairwise fun c d => c.id.number < d.id.number) ∧
    ∀ σ : Type,
      (∀ v : ClassVisitor σ, pool.acceptAll (v.behind stack).visit =
        (pool.selected stack).forM fun c => v.visitAs c.kind c) ∧
      (∀ other : List ClassFilter, (∀ f, f ∈ other ↔ f ∈ stack) → ∀ v : ClassVisitor σ,
        pool.acceptAll (v.behind other).visit = pool.acceptAll (v.behind stack).visit) ∧
      (∀ (kind : ClassKind) (see : JvmClass → σ → σ) (s : σ),
        (∀ e, (∃ left, pool.runOnly stack kind see s = .error e left) ↔
          e = .anyClass ∧ ∃ c ∈ pool.selected stack, c.kind ≠ kind) ∧
        (∀ before c after, pool.selected stack = before ++ c :: after →
          (∀ d ∈ before, d.kind = kind) → c.kind ≠ kind →
          pool.runOnly stack kind see s =
            .error .anyClass (before.foldl (fun s c => see c s) s)) ∧
        ((∀ c ∈ pool.selected stack, c.kind = kind) →
          pool.runOnly stack kind see s =
            .ok () ((pool.selected stack).foldl (fun s c => see c s) s))) ∧
      (pool.WellFormed → ∀ v : MemberVisitor σ,
        pool.acceptAll ((ClassVisitor.fields v).behind stack).visit =
          (pool.selected stack).forM (fun c => c.fields.forM (v.visitAs .field c)) ∧
        pool.acceptAll ((ClassVisitor.methods v).behind stack).visit =
          (pool.selected stack).forM (fun c => c.methods.forM (v.visitAs .method c)) ∧
        pool.acceptAll ((ClassVisitor.members v).behind stack).visit =
          (pool.selected stack).forM (fun c => do
            c.fields.forM (v.visitAs .field c)
            c.methods.forM (v.visitAs .method c))) := by
  have hmem : ∀ c ∈ pool.selected stack, c ∈ pool.classes := fun c hc =>
    (mem_selected_iff.mp hc).1
  refine ⟨fun c => ?_, List.filter_sublist,
    fun hpool => hpool.increasing.sublist List.filter_sublist,
    fun σ => ⟨fun v => acceptAll_behind pool stack v, ?_, ?_, ?_⟩⟩
  · rw [mem_selected_iff]
    refine and_congr_right fun _ => ⟨fun h => ⟨fun sub => h _, fun accepts => h _⟩, fun h => ?_⟩
    rintro (sub | accepts) hf
    · exact h.1 sub hf
    · exact h.2 accepts hf
  · intro other hother v
    rw [acceptAll_behind, acceptAll_behind, selected_congr hother]
  · intro kind see s
    have hrun : pool.runOnly stack kind see s =
        ((pool.selected stack).forM
          (ClassVisitor.only kind fun c => modify (see c)).visit).run s := by
      rw [runOnly, acceptAll_behind]
      rfl
    rw [hrun]
    refine ⟨fun e => run_forM_only_eq_error_iff see,
      fun before c after hsplit hbefore hc => ?_, fun hall => run_forM_only see hall s⟩
    rw [hsplit]
    exact run_forM_only_of_other see hbefore hc s
  · intro hpool v
    rw [acceptAll_behind, acceptAll_behind, acceptAll_behind]
    refine ⟨forM_congr_of_mem fun c hc => hpool.forM_fields (hmem c hc) v,
      forM_congr_of_mem fun c hc => hpool.forM_methods (hmem c hc) v,
      forM_congr_of_mem fun c hc => ?_⟩
    rw [← hpool.forM_fields (hmem c hc), ← hpool.forM_methods (hmem c hc)]
    rfl

/-- A class with a subclass, and two more of which one is of a library and one has members. -/
def mixedPool : ClassPool where
  classes := [
    { id := ⟨0⟩, name := "a/Base", kind := .program, subclasses := [⟨1⟩] },
    { id := ⟨1⟩, name := "a/Sub", kind := .program },
    { id := ⟨2⟩, name := "lib/Object", kind := .library },
    { id := ⟨3⟩, name := "a/Main", kind := .program,
      fields := [{ id := ⟨0⟩, kind := .field, name := "x", descriptor := "I" }],
      methods := [{ id := ⟨1⟩, kind := .method, name := "run", descriptor := "()V" }] }]
  nameIndex := [("a/Base", ⟨0⟩), ("a/Sub", ⟨1⟩), ("lib/Object", ⟨2⟩), ("a/Main", ⟨3⟩)]
  nextClass := 4
  nextMember := 2

theorem wellFormed_mixedPool : mixedPool.WellFormed where
  own := by decide
  classBelow := by decide
  increasing := by decide
  distinct := by decide
  memberBelow := by decide
  kinds c hc := by
    have hall : ∀ c ∈ mixedPool.classes,
        (∀ m ∈ c.fields, m.kind = .field) ∧ ∀ m ∈ c.methods, m.kind = .method := by decide
    exact hall c hc
  subclassesDistinct := by decide
  subclassesPresent := by decide

/-- The base class is passed over, and a visitor of program classes sees one class and breaks off at
    that of the library. -/
theorem filterStack_exact_of_mixedPool :
    ((mixedPool.selected [.subclass ⟨1⟩, .name (· != "a/Main")]).Pairwise
        fun c d => c.id.number < d.id.number) ∧
      mixedPool.runOnly [.subclass ⟨1⟩, .name (· != "a/Main")] .program
        (fun c seen => seen ++ [c.name]) [] = .error .anyClass ["a/Sub"] ∧
      ∀ v : MemberVisitor (List String),
        mixedPool.acceptAll ((ClassVisitor.members v).behind [.name (· == "a/Main")]).visit =
          (mixedPool.selected [.name (· == "a/Main")]).forM (fun c => do
            c.fields.forM (v.visitAs .field c)
            c.methods.forM (v.visitAs .method c)) := by
  obtain ⟨-, -, hordered, hruns⟩ :=
    filterStack_exact mixedPool [.subclass ⟨1⟩, .name (· != "a/Main")]
  obtain ⟨-, -, hbroken, -⟩ := hruns (List String)
  obtain ⟨-, -, -, hmain⟩ := filterStack_exact mixedPool [.name (· == "a/Main")]
  refine ⟨hordered wellFormed_mixedPool, ?_, fun v => ?_⟩
  · exact (hbroken .program _ []).2.1 [{ id := ⟨1⟩, name := "a/Sub", kind := .program }]
      { id := ⟨2⟩, name := "lib/Object", kind := .library } [] (by decide) (by decide) (by decide)
  · exact ((hmain (List String)).2.2.2 wellFormed_mixedPool v).2.2

end ClassPool

end KotlinMetadata
