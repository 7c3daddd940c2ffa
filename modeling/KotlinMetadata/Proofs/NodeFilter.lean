import Mathlib.Data.List.Basic
import KotlinMetadata.Integrity.Constraint
import KotlinMetadata.Walk.Recorder

/-! # Walks behind a filter

    A visitor behind a filter for kinds of nodes is shown the walk with the other nodes taken out.
    Which of its handlers a node would reach, or whether it has a handler for it at all, does not
    matter.

    - `Visitor.visitAll_restrict`: a filtered run is a run over the filtered dispatches;
    - `Visitor.restrict_restrict_walk`: of two filters only the kinds in both are left;
    - `Recording`: a visitor that writes down what it is shown, handler by handler;
    - `Visitor.restrict_walk_exact`: what such a visitor writes down behind a filter;
    - `ConstraintKind.visit_of_not_interested`: a constraint does nothing at nodes of other kinds
      than those it looks at;
    - `ConstraintKind.interests_suffice`: so a filter for these kinds costs it no violation.
-/

namespace KotlinMetadata

/-! ## Filters -/

namespace Visitor
variable {σ : Type} (v : Visitor σ) (ctx : Context)

/-- The step: a filter shows a node or passes over it, by the kind of the node alone. -/
theorem visit_restrict (kinds : List NodeKind) (d : Dispatch) (s : σ) :
    (v.restrict kinds).visit ctx d s = if d.kind ∈ kinds then v.visit ctx d s else s :=
  rfl

/-- The run: dispatches behind a filter are those of its kinds, in their order. -/
theorem visitAll_restrict (kinds : List NodeKind) (ds : List Dispatch) (s : σ) :
    (v.restrict kinds).visitAll ctx ds s =
      v.visitAll ctx (ds.filter fun d => d.kind ∈ kinds) s := by
  unfold visitAll
  rw [List.foldl_filter]
  simp only [visit_restrict, decide_eq_true_eq]

/-- Of two filters, one around the other, only the kinds in both are left. -/
theorem restrict_restrict_walk (kinds others : List NodeKind) (s : σ) :
    ((v.restrict others).restrict kinds).walk ctx s =
      (v.restrict (kinds.filter (· ∈ others))).walk ctx s := by
  have hboth : ∀ d : Dispatch, (decide (d.kind ∈ others) && decide (d.kind ∈ kinds)) =
      decide (d.kind ∈ kinds.filter (· ∈ others)) := by
    intro d
    rw [← Bool.decide_and, decide_eq_decide, List.mem_filter, decide_eq_true_iff]
    exact and_comm
  unfold walk
  rw [visitAll_restrict, visitAll_restrict, visitAll_restrict, List.filter_filter]
  simp only [hboth]

/-- A filter makes no difference to a visitor that does nothing at nodes of other kinds. -/
theorem restrict_walk_of_idle {kinds : List NodeKind}
    (hidle : ∀ d : Dispatch, d.kind ∉ kinds → ∀ s, v.visit ctx d s = s) (s : σ) :
    (v.restrict kinds).walk ctx s = v.walk ctx s := by
  have hvisit : ∀ d s, (v.restrict kinds).visit ctx d s = v.visit ctx d s := by
    intro d s
    rw [visit_restrict]
    by_cases hkind : d.kind ∈ kinds
    · exact if_pos hkind
    · rw [if_neg hkind, hidle d hkind]
  simp only [walk, visitAll, hvisit]

/-- A visitor that does nothing at nodes of the kinds of a filter does nothing behind it. -/
theorem restrict_walk_eq_self {kinds : List NodeKind}
    (hidle : ∀ d : Dispatch, d.kind ∈ kinds → ∀ s, v.visit ctx d s = s) (s : σ) :
    (v.restrict kinds).walk ctx s = s := by
  have hvisit : ∀ d s, (v.restrict kinds).visit ctx d s = s := by
    intro d s
    rw [visit_restrict]
    by_cases hkind : d.kind ∈ kinds
    · rw [if_pos hkind, hidle d hkind]
    · exact if_neg hkind
  simp only [walk, visitAll, hvisit]
  exact List.foldl_fixed' (fun _ => rfl) _

end Visitor

/-! ## Recordings -/

/-- What a visitor writes down: a note for each handler that it has. -/
structure Recording (ε : Type) where
  /-- The note on any node. -/
  any : Context → Node → ε
  /-- The note on a container, if there is a handler for it. -/
  container : Option (Context → Container → ε) := none
  /-- The note on a node of each kind, if there is a handler for it. -/
  handler : NodeKind → Option (Context → Dispatch → ε) := fun _ => none

namespace Recording
variable {ε : Type} (r : Recording ε) (ctx : Context)

/-- The visitor that adds its notes to a list. -/
def visitor : Visitor (List ε) where
  any ctx n notes := notes ++ [r.any ctx n]
  container := r.container.map fun note ctx c notes => notes ++ [note ctx c]
  handler k := (r.handler k).map fun note ctx d notes => notes ++ [note ctx d]

/-- The note on the container of a root, or else on the root. -/
def noteContainer (c : Container) : ε :=
  match r.container with
  | some note => note ctx c
  | none => r.any ctx (.root ctx.metadata)

/-- The note on a dispatch that no handler is for. -/
def noteFallback (d : Dispatch) : ε :=
  match d with
  | .root m =>
    match m.container? with
    | some c => r.noteContainer ctx c
    | none => r.any ctx (.root ctx.metadata)
  | d => r.any ctx d.node

/-- The note on a dispatch. -/
def note (d : Dispatch) : ε :=
  match r.handler d.kind with
  | some note => note ctx d
  | none => r.noteFallback ctx d

theorem visitContainer_visitor (c : Container) (notes : List ε) :
    r.visitor.visitContainer ctx c notes = notes ++ [r.noteContainer ctx c] := by
  simp only [Visitor.visitContainer, noteContainer, visitor]
  cases r.container <;> rfl

theorem visitFallback_visitor (d : Dispatch) (notes : List ε) :
    r.visitor.visitFallback ctx d notes = notes ++ [r.noteFallback ctx d] := by
  cases d with
  | root m =>
    simp only [Visitor.visitFallback, noteFallback, visitContainer_visitor]
    cases m.container? <;> rfl
  | _ => rfl

/-- The step: every dispatch gives one note. -/
theorem visit_visitor (d : Dispatch) (notes : List ε) :
    r.visitor.visit ctx d notes = notes ++ [r.note ctx d] := by
  have hhandler : r.visitor.handler d.kind =
      (r.handler d.kind).map fun note ctx d notes => notes ++ [note ctx d] := rfl
  simp only [Visitor.visit, Recording.note, hhandler]
  cases r.handler d.kind with
  | some note => rfl
  | none => exact r.visitFallback_visitor ctx d notes

/-- The run: the notes on dispatches are in their order. -/
theorem visitAll_visitor (ds : List Dispatch) (notes : List ε) :
    r.visitor.visitAll ctx ds notes = notes ++ ds.map (r.note ctx) := by
  induction ds generalizing notes with
  | nil => exact (List.append_nil notes).symm
  | cons d ds ih =>
    have hstep : r.visitor.visitAll ctx (d :: ds) notes =
        r.visitor.visitAll ctx ds (r.visitor.visit ctx d notes) := rfl
    rw [hstep, visit_visitor, ih, List.map_cons, List.append_assoc]
    rfl

end Recording

-- The recorder with every handler is one of them, and so is the one for containers.
example : Recorder.full = Recording.visitor {
    any := fun _ n => "any " ++ n.label
    container := some fun _ c => c.label
    handler := fun _ => some fun ctx d => d.text ctx.jvmClass.name } := rfl

example : Recorder.container = Recording.visitor {
    any := fun _ n => n.label
    container := some fun _ c => c.label } := rfl

/-- **Filtered walks**, of any graph.  Behind a filter a recording has the notes of the whole walk
    on the nodes of the given kinds and no others, in their order and with their owners; what is
    below a node of another kind is shown all the same.  Any other visitor is left in the state of
    a run over these nodes, whatever handlers it has.  Two filters are one for the kinds in both,
    so that their order does not matter. -/
theorem Visitor.restrict_walk_exact (ctx : Context) (kinds others : List NodeKind) :
    (∀ {ε : Type} (r : Recording ε),
      r.visitor.walk ctx [] = ctx.metadata.walk.map (r.note ctx) ∧
      (r.visitor.restrict kinds).walk ctx [] =
        (ctx.metadata.walk.filter fun d => d.kind ∈ kinds).map (r.note ctx) ∧
      ∀ d ∈ ctx.metadata.walk, d.kind ∈ kinds →
        r.note ctx d ∈ (r.visitor.restrict kinds).walk ctx []) ∧
    ∀ {σ : Type} (v : Visitor σ) (s : σ),
      (v.restrict kinds).walk ctx s =
        v.visitAll ctx (ctx.metadata.walk.filter fun d => d.kind ∈ kinds) s ∧
      ((v.restrict others).restrict kinds).walk ctx s =
        (v.restrict (kinds.filter (· ∈ others))).walk ctx s ∧
      ((v.restrict others).restrict kinds).walk ctx s =
        ((v.restrict kinds).restrict others).walk ctx s := by
  refine ⟨fun {ε} r => ?_, fun {σ} v s => ⟨?_, ?_, ?_⟩⟩
  · have hnotes : (r.visitor.restrict kinds).walk ctx [] =
        (ctx.metadata.walk.filter fun d => d.kind ∈ kinds).map (r.note ctx) := by
      unfold walk
      rw [visitAll_restrict, r.visitAll_visitor, List.nil_append]
    refine ⟨r.visitAll_visitor ctx ctx.metadata.walk [], hnotes, ?_⟩
    intro d hd hkind
    rw [hnotes]
    exact List.mem_map_of_mem (List.mem_filter.mpr ⟨hd, decide_eq_true hkind⟩)
  · exact v.visitAll_restrict ctx kinds ctx.metadata.walk s
  · exact v.restrict_restrict_walk ctx kinds others s
  · -- The kinds in both are the same ones, listed in another order.
    have hsame : ∀ d : Dispatch, decide (d.kind ∈ kinds.filter (· ∈ others)) =
        decide (d.kind ∈ others.filter (· ∈ kinds)) := by
      intro d
      rw [decide_eq_decide, List.mem_filter, List.mem_filter, decide_eq_true_iff,
        decide_eq_true_iff]
      exact and_comm
    rw [restrict_restrict_walk, restrict_restrict_walk]
    unfold walk
    rw [visitAll_restrict, visitAll_restrict]
    simp only [hsame]

/-- A property whose type has an annotated argument. -/
def annotatedArgument : Metadata :=
  .fileFacade { container := { properties := [{
    name := "x", type := { arguments := [{ annotations := [{ className := "a/Ann" }] }] } }] } }

/-- The kinds of the nodes of the graph, as a visitor without handlers of its own writes them down.
    The annotation is shown although neither the argument nor the type around it is. -/
theorem Visitor.restrict_walk_exact_of_annotatedArgument :
    let ctx : Context := ⟨{}, { id := ⟨0⟩, name := "a/AKt", kind := .program }, annotatedArgument⟩
    let kinds : Recording NodeKind := { any := fun _ n => n.kind }
    let d : Dispatch :=
      .annotationUse (.type { annotations := [{ className := "a/Ann" }] }) { className := "a/Ann" }
    d ∈ annotatedArgument.walk ∧ d.kind ∈ [NodeKind.property, .annotationUse] ∧
    kinds.note ctx d ∈ (kinds.visitor.restrict [.property, .annotationUse]).walk ctx [] ∧
    (kinds.visitor.restrict [.property, .annotationUse]).walk ctx [] =
      [.property, .annotationUse] ∧
    ((kinds.visitor.restrict [.type, .annotationUse]).restrict [.property, .annotationUse]).walk
      ctx [] = [.annotationUse] := by
  intro ctx kinds d
  obtain ⟨hrecording, hany⟩ :=
    Visitor.restrict_walk_exact ctx [.property, .annotationUse] [.type, .annotationUse]
  obtain ⟨-, hnotes, hshown⟩ := hrecording kinds
  have hd : d ∈ annotatedArgument.walk := by decide
  refine ⟨hd, by decide, hshown d hd (by decide), hnotes.trans (by decide), ?_⟩
  exact (hany kinds.visitor []).2.1.trans (by decide)

/-! ## Constraints -/

namespace ConstraintKind
variable (ctx : Context)

/-- A collector has one handler and does nothing at a node of another kind. -/
theorem visit_collector_of_ne {kind : NodeKind} (find : Context → Dispatch → List Violation)
    {d : Dispatch} (hkind : d.kind ≠ kind) (found : List Violation) :
    (collector kind find).visit ctx d found = found := by
  have hnone : (collector kind find).handler d.kind = none := if_neg hkind
  simp only [Visitor.visit, hnone]
  cases d with
  | root m =>
    simp only [Visitor.visitFallback]
    cases m.container? <;> rfl
  | _ => rfl

/-- A constraint does nothing at a node of a kind that it does not declare. -/
theorem visit_of_not_interested (kind : ConstraintKind) {d : Dispatch}
    (hkind : d.kind ∉ kind.interests) (found : List Violation) :
    kind.visitor.visit ctx d found = found := by
  cases kind with
  | declarationContainer =>
    -- A root that carries a container has one of the three kinds that the constraint declares.
    have hcontainer : ∀ k ∈ interests .declarationContainer, k ≠ d.kind := by
      rintro k hk rfl
      exact hkind hk
    cases d with
    | root m =>
      cases m with
      | classDecl c => exact absurd rfl (hcontainer .classDecl (by decide))
      | fileFacade f => exact absurd rfl (hcontainer .fileFacade (by decide))
      | multiFilePart p => exact absurd rfl (hcontainer .multiFilePart (by decide))
      | syntheticClass s => rfl
      | multiFileFacade f => rfl
    | _ => rfl
  | _ => exact visit_collector_of_ne ctx _ (fun hd => hkind (List.mem_singleton.mpr hd)) found

/-- **Declared interests**: a constraint finds in any graph the same violations, in the same order,
    behind the filter for the kinds it declares and without a filter, and none behind a filter for
    other kinds. -/
theorem interests_suffice (kind : ConstraintKind) :
    kind.run ctx = kind.runUnrestricted ctx ∧
    ∀ kinds : List NodeKind, (∀ k ∈ kinds, k ∉ kind.interests) →
      (kind.visitor.restrict kinds).walk ctx [] = [] := by
  constructor
  · exact kind.visitor.restrict_walk_of_idle ctx
      (fun d hkind found => kind.visit_of_not_interested ctx hkind found) []
  · intro kinds hdisjoint
    exact kind.visitor.restrict_walk_eq_self ctx
      (fun d hkind found => kind.visit_of_not_interested ctx (hdisjoint d.kind hkind) found) []

/-- The container is checked behind the filter although the constraint has no handler for a facade
    as such, and no longer checked without facades. -/
theorem interests_suffice_of_unowned :
    let facade : Metadata := .fileFacade { container := { ownerName := some "a/AKt" } }
    let ctx : Context := ⟨{}, { id := ⟨0⟩, name := "a/AKt", kind := .program }, facade⟩
    (∀ k ∈ [NodeKind.syntheticClass, .property], k ∉ interests .declarationContainer) ∧
    (run .declarationContainer ctx).map (·.checkedElement) = ["referenced owner class"] ∧
    ((visitor .declarationContainer).restrict [.syntheticClass, .property]).walk ctx [] = [] := by
  intro facade ctx
  obtain ⟨hrun, hother⟩ := interests_suffice ctx .declarationContainer
  have hdisjoint : ∀ k ∈ [NodeKind.syntheticClass, .property],
      k ∉ interests .declarationContainer := by decide
  refine ⟨hdisjoint, ?_, hother _ hdisjoint⟩
  rw [hrun]
  decide

end ConstraintKind

end KotlinMetadata
