import KotlinMetadata.Proofs.FlagTruth
import KotlinMetadata.Proofs.PoolRun

/-! # Annotation flags over a run

    A run edits a pool and, in between, settles the flags of a graph, in any order.  Rules carry
    the account of what becomes of a flag: a pass changes flags and no rules.

    - `FlagRule.apply`, `FlagRule.after`: what a rule makes of a flag in one pass, and in several;
    - `FixRun.step`, `FixRun.of`: one step of a run, and all of them;
    - `FixRun.readings_of`: after a run every flag is what its rule makes of it;
    - `FixRun.flags_over_run`: so value parameters are only ever taken back, and no other flag
      shows anything but the last pass.
-/

namespace KotlinMetadata

/-! ## Rules in one pass -/

/-- What a rule makes of a flag in a pass. -/
def FlagRule.apply (pool : ClassPool) (old : Bool) : FlagRule → Bool
  | .ofClass link => 0 < pool.classTotal link
  | .ofMember link => 0 < pool.memberTotal link
  | .ofParameter link index => 0 < pool.memberParameterTotal link index
  | .fixed annotated => annotated
  | .kept => old
  | .takenBack link index => old && 0 < pool.memberParameterTotal link index

/-- The rule does not look at what the flag said before. -/
def FlagRule.overwrites : FlagRule → Bool
  | .kept | .takenBack _ _ => false
  | _ => true

theorem FlagRule.apply_of_overwrites {rule : FlagRule} (h : rule.overwrites) (pool : ClassPool)
    (old old' : Bool) : rule.apply pool old = rule.apply pool old' := by
  cases rule with
  | kept => exact absurd h nofun
  | takenBack _ _ => exact absurd h nofun
  | _ => rfl

namespace FlagSite

/-- A pass gives the flag a value whatever it said before. -/
def isOverwritten : FlagSite → Bool
  | .getter p => p.flags.hasGetter && p.getter.isSome
  | .setter p => p.flags.hasSetter && p.setter.isSome
  | .valueParameter _ _ => false
  | _ => true

theorem isOverwritten_eq (site : FlagSite) : site.isOverwritten = site.rule.overwrites := by
  cases site with
  | property p =>
    simp only [isOverwritten, rule]
    split <;> rfl
  | getter p =>
    simp only [isOverwritten, rule]
    split
    · rename_i hgetter
      exact hgetter
    · rename_i hgetter
      exact eq_false_of_ne_true hgetter
  | setter p =>
    simp only [isOverwritten, rule]
    split
    · rename_i hsetter
      exact hsetter
    · rename_i hsetter
      exact eq_false_of_ne_true hsetter
  | constructor owner k =>
    simp only [isOverwritten, rule]
    split <;> rfl
  | type owner t =>
    simp only [isOverwritten, rule]
    split <;> rfl
  | valueParameter owner p =>
    simp only [isOverwritten, rule]
    split <;> rfl
  | _ => rfl

/-- A pass gives every flag what its rule makes of it. -/
theorem truth_eq_apply (pool : ClassPool) (site : FlagSite) :
    site.truth pool = site.rule.apply pool site.value := by
  cases site with
  | property p =>
    simp only [truth, rule]
    cases p.holderSignature.isSome <;> rfl
  | getter p =>
    simp only [truth, rule]
    split <;> rfl
  | setter p =>
    simp only [truth, rule]
    split <;> rfl
  | constructor owner k =>
    simp only [truth, rule]
    cases owner.flags.isAnnotationClass <;> rfl
  | type owner t => cases owner <;> rfl
  | valueParameter owner p =>
    cases owner with
    | constructor c k =>
      have hclass : (ValueParameterOwner.constructor c k).isAnnotationConstructor =
          c.flags.isAnnotationClass := rfl
      simp only [truth, rule, hclass]
      cases c.flags.isAnnotationClass with
      | true => exact Bool.and_true _
      | false => rfl
    | _ => rfl
  | _ => rfl

end FlagSite

/-! ## Rules in several passes -/

/-- What a rule makes of a flag in passes over some pools, one after the other. -/
def FlagRule.after (passes : List ClassPool) (old : Bool) (rule : FlagRule) : Bool :=
  passes.foldl (fun value pool => rule.apply pool value) old

namespace FlagRule

theorem after_concat (passes : List ClassPool) (pool : ClassPool) (old : Bool) (rule : FlagRule) :
    rule.after (passes ++ [pool]) old = rule.apply pool (rule.after passes old) := by
  unfold after
  rw [List.foldl_append]
  rfl

theorem after_kept (passes : List ClassPool) (old : Bool) : kept.after passes old = old := by
  induction passes with
  | nil => rfl
  | cons pool passes ih => exact ih

/-- A flag that is only taken back survives if there was an annotation at every pass. -/
theorem after_takenBack (passes : List ClassPool) (old : Bool) (link : Option MemberRef)
    (index : Nat) :
    (takenBack link index).after passes old =
      (old && passes.all fun pool => 0 < pool.memberParameterTotal link index) := by
  induction passes generalizing old with
  | nil => exact (Bool.and_true old).symm
  | cons pool passes ih =>
    have hstep : (takenBack link index).after (pool :: passes) old =
        (takenBack link index).after passes
          (old && 0 < pool.memberParameterTotal link index) := rfl
    rw [hstep, ih, List.all_cons, Bool.and_assoc]

/-- The last pass over a flag that does not look back is the only one that counts. -/
theorem after_concat_of_overwrites {rule : FlagRule} (h : rule.overwrites)
    (passes : List ClassPool) (pool : ClassPool) (old : Bool) :
    rule.after (passes ++ [pool]) old = rule.apply pool old := by
  rw [after_concat]
  exact apply_of_overwrites h pool _ _

end FlagRule

/-- What a flag says after passes.

    The flag of a value parameter is set if it was set at first and every pass left it so: because
    it belongs to a constructor of an annotation class, or because the method had an annotation on
    it at that time.  Any other flag says what it had to say at the last pass. -/
def FlagSite.outcome (passes : List ClassPool) : FlagSite → Bool
  | .valueParameter owner p =>
    p.flags.hasAnnotations && passes.all fun pool =>
      owner.isAnnotationConstructor ||
        0 < pool.memberParameterTotal owner.method? p.index.toNat
  | site =>
    match passes.getLast? with
    | none => site.value
    | some pool => site.truth pool

/-- A flag that is left alone or overwritten says what it had to say at the last pass. -/
theorem FlagSite.after_eq_truth {site : FlagSite} (hrule : site.rule = .kept ∨ site.rule.overwrites)
    (passes : List ClassPool) :
    site.rule.after passes site.value =
      match passes.getLast? with
      | none => site.value
      | some pool => site.truth pool := by
  rcases List.eq_nil_or_concat passes with rfl | ⟨before, pool, rfl⟩
  · rfl
  · rw [List.concat_eq_append, List.getLast?_concat]
    show site.rule.after (before ++ [pool]) site.value = site.truth pool
    rw [FlagSite.truth_eq_apply]
    rcases hrule with hkept | hoverwrites
    · rw [hkept]
      exact FlagRule.after_kept _ _
    · exact FlagRule.after_concat_of_overwrites hoverwrites before pool _

theorem FlagSite.after_eq_outcome (passes : List ClassPool) (site : FlagSite) :
    site.rule.after passes site.value = site.outcome passes := by
  cases site with
  | valueParameter owner p =>
    simp only [FlagSite.rule, FlagSite.outcome, FlagSite.value]
    -- Passes leave the parameters of an annotation class alone, and take back any other flag.
    cases owner.isAnnotationConstructor with
    | true =>
      have hall : passes.all (fun _ => true) = true := List.all_eq_true.mpr fun _ _ => rfl
      simp [FlagRule.after_kept, hall]
    | false => simp [FlagRule.after_takenBack]
  | getter p =>
    refine FlagSite.after_eq_truth ?_ passes
    simp only [FlagSite.rule]
    split
    · exact .inr rfl
    · exact .inl rfl
  | setter p =>
    refine FlagSite.after_eq_truth ?_ passes
    simp only [FlagSite.rule]
    split
    · exact .inr rfl
    · exact .inl rfl
  | _ =>
    refine FlagSite.after_eq_truth (.inr ?_) passes
    rw [← FlagSite.isOverwritten_eq]
    rfl

/-! ## Runs -/

/-- A step of a run: an operation on the pool, or a pass over the graph. -/
inductive FixStep where
  | edit (op : PoolOp)
  | pass
deriving DecidableEq, Repr

/-- A pool and a graph, with the passes that were made. -/
structure FixRun where
  /-- The pool. -/
  pool : ClassPool
  /-- The graph. -/
  graph : Metadata
  /-- The pool at each pass that was made while the class of the graph was in it, first to last. -/
  passes : List ClassPool := []

namespace FixRun

/-- The annotation flags of the graph, in the order of a walk. -/
def flags (run : FixRun) : List Bool := run.graph.flagSites.map FlagSite.value

/-- Edits the pool, or settles the flags of the graph of a class. -/
def step (id : ClassId) (run : FixRun) : FixStep → FixRun
  | .edit op => { run with pool := run.pool.after op }
  | .pass =>
    { run with
      graph := (run.graph.fixFlags run.pool id).1
      passes := run.passes ++ if (run.pool.class? id).isSome then [run.pool] else [] }

/-- Goes through steps, from a pool and a graph on. -/
def of (id : ClassId) (pool : ClassPool) (graph : Metadata) (steps : List FixStep) : FixRun :=
  steps.foldl (step id) { pool, graph }

section
variable (id : ClassId) (pool : ClassPool) (graph : Metadata)

theorem of_concat (steps : List FixStep) (s : FixStep) :
    of id pool graph (steps ++ [s]) = (of id pool graph steps).step id s := by
  rw [of, List.foldl_append]
  rfl

/-- The step: a pass over the graph of a class that is not in the pool changes nothing. -/
theorem step_pass_of_absent {run : FixRun} (habsent : run.pool.class? id = none) :
    run.step id .pass = run := by
  have hfix : (run.graph.fixFlags run.pool id).1 = run.graph := by
    rw [Metadata.fixFlags, habsent]
  simp [step, hfix, habsent]

theorem passes_step_pass {run : FixRun} (hpresent : (run.pool.class? id).isSome) :
    (run.step id .pass).passes = run.passes ++ [run.pool] := by
  simp [step, hpresent]

/-- The step: after a pass every flag is what its rule makes of it, and the rules are the same. -/
theorem readings_step_pass {run : FixRun} (hpresent : (run.pool.class? id).isSome) {β : Type}
    (read : FlagRule → Bool → β) :
    siteValues (FlagSite.reading read) (run.step id .pass).graph.walk =
      siteValues (FlagSite.reading fun rule old => read rule (rule.apply run.pool old))
        run.graph.walk := by
  have hnew : FlagSite.newReading read (FlagSite.truth run.pool) =
      FlagSite.reading fun rule old => read rule (rule.apply run.pool old) := by
    funext site
    rw [FlagSite.newReading, FlagSite.truth_eq_apply]
    rfl
  have hgraph : (run.step id .pass).graph = run.graph.mapFlags (FlagSite.truth run.pool) :=
    run.graph.fixFlags_eq_mapFlags run.pool id hpresent
  rw [hgraph, Metadata.readings_mapFlags, hnew]

/-- After a run every flag is what its rule made of it in the passes of the run. -/
theorem readings_of (steps : List FixStep) {β : Type} (read : FlagRule → Bool → β) :
    siteValues (FlagSite.reading read) (of id pool graph steps).graph.walk =
      siteValues (FlagSite.reading fun rule old =>
        read rule (rule.after (of id pool graph steps).passes old)) graph.walk := by
  induction steps using List.reverseRecOn generalizing read with
  | nil => rfl
  | append_singleton steps s ih =>
    rw [of_concat]
    cases s with
    | edit op => exact ih read
    | pass =>
      cases hclass : (of id pool graph steps).pool.class? id with
      | none =>
        rw [step_pass_of_absent id hclass]
        exact ih read
      | some c =>
        have hpresent : ((of id pool graph steps).pool.class? id).isSome := by rw [hclass]; rfl
        -- What the last pass reads is read of the flags that the passes before have left.
        rw [readings_step_pass id hpresent, ih, passes_step_pass id hpresent]
        simp only [FlagRule.after_concat]

/-- Flag by flag, in the order of a walk. -/
theorem flags_of (steps : List FixStep) :
    (of id pool graph steps).flags =
      graph.flagSites.map fun site =>
        site.rule.after (of id pool graph steps).passes site.value := by
  have hvalues := readings_of id pool graph steps fun _ value => value
  rw [flags, Metadata.map_flagSites, Metadata.map_flagSites]
  exact hvalues

/-- The passes of a longer run are those of the shorter one and some more. -/
theorem passes_append (steps more : List FixStep) :
    ∃ later, (of id pool graph (steps ++ more)).passes =
      (of id pool graph steps).passes ++ later := by
  induction more using List.reverseRecOn with
  | nil => exact ⟨[], by rw [List.append_nil, List.append_nil]⟩
  | append_singleton more s ih =>
    obtain ⟨later, hlater⟩ := ih
    rw [← List.append_assoc, of_concat]
    cases s with
    | edit op => exact ⟨later, hlater⟩
    | pass =>
      cases hclass : (of id pool graph (steps ++ more)).pool.class? id with
      | none =>
        rw [step_pass_of_absent id hclass]
        exact ⟨later, hlater⟩
      | some c =>
        refine ⟨later ++ [(of id pool graph (steps ++ more)).pool], ?_⟩
        rw [passes_step_pass id (by rw [hclass]; rfl), hlater, List.append_assoc]

end

/-- Overwriting flags changes no rule. -/
theorem rules_overwriteFlags (kinds : List FlagKind) (value : Bool) (graph : Metadata) :
    (graph.overwriteFlags kinds value).flagSites.map FlagSite.rule =
      graph.flagSites.map FlagSite.rule := by
  rw [Metadata.map_flagSites, Metadata.map_flagSites]
  exact graph.readings_mapFlags (fun rule _ => rule) _

/-- A flag that is overwritten goes by the last pass alone. -/
theorem flags_getElem?_of_overwritten {id : ClassId} {pool last : ClassPool} {graph : Metadata}
    {steps : List FixStep} (hlast : (of id pool graph steps).passes.getLast? = some last)
    {i : Nat} {site : FlagSite} (hsite : graph.flagSites[i]? = some site)
    (hoverwrites : site.rule.overwrites) :
    (of id pool graph steps).flags[i]? = some (site.rule.apply last false) := by
  obtain ⟨before, hpasses⟩ := List.getLast?_eq_some_iff.mp hlast
  rw [flags_of, List.getElem?_map, hsite, hpasses, Option.map_some,
    FlagRule.after_concat_of_overwrites hoverwrites,
    FlagRule.apply_of_overwrites hoverwrites last site.value false]

/-- **Flags over a run** of edits and passes, from any pool and graph on and of any length.  Every
    flag has the outcome of the passes that were made while the class was in the pool: a value
    parameter that was found without annotations once is never flagged again, and a flag that a
    pass overwrites is the same after any run over the same graph, whatever its flags said at
    first, that has the same pool at its last pass.  A pass while the class is absent changes
    nothing. -/
theorem flags_over_run (id : ClassId) (pool : ClassPool) (graph : Metadata)
    (steps more : List FixStep) :
    (of id pool graph steps).flags =
      graph.flagSites.map (FlagSite.outcome (of id pool graph steps).passes) ∧
    (∀ (i : Nat) owner p, graph.flagSites[i]? = some (FlagSite.valueParameter owner p) →
      (of id pool graph steps).flags[i]? = some false →
      (of id pool graph (steps ++ more)).flags[i]? = some false) ∧
    (∀ pool' graph' steps' last,
      graph'.overwriteFlags Named.all false = graph.overwriteFlags Named.all false →
      (of id pool graph steps).passes.getLast? = some last →
      (of id pool' graph' steps').passes.getLast? = some last →
      ∀ (i : Nat) (site : FlagSite), graph.flagSites[i]? = some site → site.isOverwritten →
        (of id pool' graph' steps').flags[i]? = (of id pool graph steps).flags[i]?) ∧
    ((of id pool graph steps).pool.class? id = none →
      of id pool graph (steps ++ [.pass]) = of id pool graph steps) := by
  have houtcome : ∀ steps, (of id pool graph steps).flags =
      graph.flagSites.map (FlagSite.outcome (of id pool graph steps).passes) := by
    intro steps
    rw [flags_of]
    simp only [FlagSite.after_eq_outcome]
  refine ⟨houtcome steps, ?_, ?_, ?_⟩
  · intro i owner p hsite hfalse
    obtain ⟨later, hlater⟩ := passes_append id pool graph steps more
    rw [houtcome, List.getElem?_map, hsite] at hfalse ⊢
    have hearly := Option.some.inj hfalse
    rw [Option.map_some, hlater]
    simp only [FlagSite.outcome, List.all_append] at hearly ⊢
    rw [← Bool.and_assoc, hearly, Bool.false_and]
  · intro pool' graph' steps' last hgraph hlast hlast' i site hsite hoverwritten
    have hrules : graph'.flagSites.map FlagSite.rule = graph.flagSites.map FlagSite.rule := by
      rw [← rules_overwriteFlags Named.all false, hgraph, rules_overwriteFlags]
    -- The other graph has a flag in the same place that goes by the same rule.
    have hrule := congrArg (·[i]?) hrules
    simp only [List.getElem?_map, hsite, Option.map_some, Option.map_eq_some_iff] at hrule
    obtain ⟨site', hsite', hsame⟩ := hrule
    rw [FlagSite.isOverwritten_eq] at hoverwritten
    rw [flags_getElem?_of_overwritten hlast hsite hoverwritten,
      flags_getElem?_of_overwritten hlast' hsite' (hsame ▸ hoverwritten), hsame]
  · intro habsent
    rw [of_concat]
    exact step_pass_of_absent id habsent

/-- An annotation on the second parameter of the method. -/
def annotateParameter : PoolOp :=
  .addMemberAttribute ⟨⟨0⟩, ⟨0⟩⟩ (.parameterAnnotations .visible [[], [⟨"La/B;", []⟩]])

/-- The annotation, a pass, and one more after the class is gone. -/
def annotatedLate : List FixStep :=
  [.edit annotateParameter, .pass, .edit (.removeClass ⟨0⟩), .pass]

/-- The function and its receiver are annotated at the end.  The parameter, which the first pass
    has taken back, is not, though it was annotated when the second pass was made; a single pass
    over the same graph with all flags set gives the function the same flag, and one more pass
    without the class makes no difference. -/
theorem flags_over_run_of_annotatedLate :
    let run := of ⟨0⟩ annotatedMethodPool extensionFacade
    let flagged := extensionFacade.overwriteFlags Named.all true
    (run ([.pass] ++ annotatedLate)).passes.length = 2 ∧
    (run ([.pass] ++ annotatedLate)).flags = [true, true, false, false, false] ∧
    (run ([.pass] ++ annotatedLate)).flags[2]? = some false ∧
    (of ⟨0⟩ (annotatedMethodPool.after annotateParameter) flagged [.pass]).flags[0]? =
      (run ([.pass] ++ annotatedLate)).flags[0]? ∧
    run ([.pass] ++ annotatedLate ++ [.pass]) = run ([.pass] ++ annotatedLate) := by
  obtain ⟨-, hdemoted, -⟩ := flags_over_run ⟨0⟩ annotatedMethodPool extensionFacade [.pass]
    annotatedLate
  obtain ⟨hflags, -, hlast, habsent⟩ := flags_over_run ⟨0⟩ annotatedMethodPool extensionFacade
    ([.pass] ++ annotatedLate) []
  refine ⟨by decide, hflags.trans (by decide), ?_, ?_, habsent (by decide)⟩
  · exact hdemoted 2 _ _ rfl (by decide)
  · exact hlast _ _ [.pass] (annotatedMethodPool.after annotateParameter) (by decide) rfl rfl 0 _
      rfl
      rfl

end FixRun

end KotlinMetadata
