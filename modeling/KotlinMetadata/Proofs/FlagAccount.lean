import Mathlib.Algebra.Group.Prod
import Mathlib.Algebra.Order.Group.Multiset
import Mathlib.Data.Multiset.Bind
import KotlinMetadata.Proofs.FlagHistory
import KotlinMetadata.Proofs.FlagTally
import KotlinMetadata.Proofs.NodeCount

/-! # What a pass writes and reports

    How many flags a pass writes, and what it reports beside that, is a sum over the flags of the
    graph, in which each of them has a part that does not depend on the others.

    - `FlagSite.writes`, `FlagSite.reports`: the part of a flag;
    - `FlagSite.raises_settle`: a step of a pass adds the part of its flag, whatever the state;
    - `Fixer.flagsWritten_pass`, `Fixer.events_pass`: so a pass adds those of all flags;
    - `Metadata.sum_writes`: what that is in terms of the nodes of the graph;
    - `Metadata.truth_of_mem_mapFlags`: a pass leaves flags that another one does not change;
    - `Metadata.demoted`: the value parameters whose flags it takes back;
    - `Metadata.fixFlags_account`: the account of two passes, one after the other.
-/

namespace KotlinMetadata

/-! ## The part of a flag -/

/-- How many flags a pass writes by a rule: none if the flag is left alone, and one that is only
    taken back is not looked at unless it is set. -/
def FlagRule.writes : FlagRule → Bool → Nat
  | .kept, _ => 0
  | .takenBack _ _, old => old.toNat
  | _, _ => 1

/-- The class of a constructor, if it is an annotation class. -/
def ClassDecl.ifAnnotationClass (c : ClassDecl) : Option ClassDecl :=
  if c.isAnnotationClass then some c else none

namespace FlagSite

/-- The parameters of a constructor of an annotation class are left alone. -/
theorem rule_eq_kept {owner : ValueParameterOwner} (h : owner.isAnnotationConstructor = true)
    (p : ValueParameter) : (valueParameter owner p).rule = .kept :=
  if_pos h

/-- Any other value parameter goes by the method of its owner. -/
theorem rule_eq_takenBack {owner : ValueParameterOwner} (h : owner.isAnnotationConstructor = false)
    (p : ValueParameter) :
    (valueParameter owner p).rule = .takenBack owner.method? p.index.toNat := by
  rw [rule, h]
  rfl

/-- How many flags a pass writes for a flag. -/
def writes : FlagSite → Nat := reading FlagRule.writes

/-- In terms of the node that has the flag. -/
theorem writes_eq (site : FlagSite) :
    site.writes =
      match site with
      | .getter p => (p.flags.hasGetter && p.getter.isSome).toNat
      | .setter p => (p.flags.hasSetter && p.setter.isSome).toNat
      | .valueParameter owner p =>
        (p.flags.hasAnnotations && !owner.isAnnotationConstructor).toNat
      | _ => 1 := by
  cases site with
  | getter p =>
    simp only [writes, reading, rule]
    cases p.flags.hasGetter && p.getter.isSome <;> rfl
  | setter p =>
    simp only [writes, reading, rule]
    cases p.flags.hasSetter && p.setter.isSome <;> rfl
  | valueParameter owner p =>
    simp only [writes, reading, rule, value]
    cases owner.isAnnotationConstructor with
    | true => rw [Bool.not_true, Bool.and_false]; rfl
    | false => rw [Bool.not_false, Bool.and_true]; rfl
  | property p =>
    simp only [writes, reading, rule]
    split <;> rfl
  | constructor owner k =>
    simp only [writes, reading, rule]
    split <;> rfl
  | type owner t =>
    simp only [writes, reading, rule]
    split <;> rfl
  | _ => rfl

/-- The value parameter that has the flag, if the flag was set and the new one is not. -/
def demoted? : FlagSite → Bool → Option ValueParameter
  | .valueParameter _ p, new =>
    match p.flags.hasAnnotations, new with
    | true, false => some p
    | _, _ => none
  | _, _ => none

/-- The annotation class whose constructor has the flag. -/
def annotationClass? : FlagSite → Option ClassDecl
  | .constructor owner _ => owner.ifAnnotationClass
  | _ => none

end FlagSite

/-- The report of a value parameter whose flag is taken back. -/
def ValueParameter.demotion (p : ValueParameter) : FixEvent := .parameterDemoted p.name p.index

/-- The report of a constructor of an annotation class. -/
def ClassDecl.unannotated (c : ClassDecl) : FixEvent := .constructorUnannotated c.name

/-- What a pass reports when it settles a flag. -/
def FlagSite.reports (pool : ClassPool) (site : FlagSite) : List FixEvent :=
  (site.demoted? (site.truth pool)).toList.map ValueParameter.demotion ++
    site.annotationClass?.toList.map ClassDecl.unannotated

/-! ## Single steps -/

/-- What a pass has come to so far: how many flags are written, and the reports in no order. -/
def FixPass.tally (s : FixPass) : Nat × Multiset FixEvent := (s.flagsWritten, s.events)

namespace FixM

theorem raises_write (value : Bool) : Raises FixPass.tally (1, 0) (write value) :=
  fun s => Prod.ext rfl (add_zero (s.events : Multiset FixEvent)).symm

theorem raises_report (event : FixEvent) :
    Raises FixPass.tally (0, {event}) (report event) :=
  fun _ => rfl

/-- What follows the counting of attributes starts with the counter that they come to. -/
theorem raises_recount_bind {α : Type} {amount : Nat × Multiset FixEvent}
    {f : AnnotationCounter → FixM α} {attributes : List Attribute}
    (hf : Raises FixPass.tally amount (f (({} : AnnotationCounter).addAll attributes))) :
    Raises FixPass.tally amount (recount attributes >>= f) :=
  fun s => hf { s with counter := s.counter.reset.addAll attributes }

theorem raises_writeAnnotated (attributes : List Attribute) :
    Raises FixPass.tally (1, 0) (writeAnnotated attributes) :=
  raises_recount_bind (raises_write _)

end FixM

namespace FlagSite
variable (pool : ClassPool)

theorem raises_settle_property (p : PropertyDecl) :
    Raises FixPass.tally (1, 0) (settle pool (.property p)) := by
  simp only [settle]
  cases p.holderSignature.isSome with
  | true => exact FixM.raises_writeAnnotated _
  | false => exact FixM.raises_write _

/-- The flag of an accessor is written on a condition. -/
theorem raises_writeAnnotated_else (b old : Bool) (link : Option MemberRef) :
    Raises FixPass.tally ((if b then FlagRule.ofMember link else .kept).writes old, 0)
      (if b then FixM.writeAnnotated (pool.memberAttributes link) else (pure old : FixM Bool)) := by
  cases b with
  | true => exact FixM.raises_writeAnnotated _
  | false => exact Raises.pure old

theorem raises_settle_constructor (owner : ClassDecl) (k : ConstructorDecl) :
    Raises FixPass.tally (1, (constructor owner k).reports pool)
      (settle pool (.constructor owner k)) := by
  simp only [settle, reports, demoted?, annotationClass?, ClassDecl.ifAnnotationClass]
  cases owner.isAnnotationClass with
  | true => exact (FixM.raises_report _).bind fun _ => FixM.raises_write _
  | false => exact FixM.raises_writeAnnotated _

/-- Only a flag that is set is looked at, and only one that is taken back is reported. -/
theorem raises_settle_valueParameter (owner : ValueParameterOwner) (p : ValueParameter) :
    Raises FixPass.tally
      ((valueParameter owner p).writes, (valueParameter owner p).reports pool)
      (settle pool (.valueParameter owner p)) := by
  rw [reports, truth_eq_apply, writes, reading, value]
  cases howner : owner.isAnnotationConstructor with
  | true =>
    rw [rule_eq_kept howner, settle, howner, Bool.or_true, if_pos rfl]
    simp only [FlagRule.writes, FlagRule.apply, demoted?, annotationClass?]
    cases p.flags.hasAnnotations <;> exact Raises.pure _
  | false =>
    rw [rule_eq_takenBack howner, settle, howner, Bool.or_false]
    simp only [FlagRule.writes, FlagRule.apply, demoted?, annotationClass?]
    cases p.flags.hasAnnotations with
    | false => exact Raises.pure false
    | true =>
      have hcount : (({} : AnnotationCounter).addAll
          (pool.memberAttributes owner.method?)).parameterCount p.index.toNat =
            parameterTotal (pool.memberAttributes owner.method?) p.index.toNat :=
        FixM.parameterCount_recount _ _ {}
      refine FixM.raises_recount_bind ?_
      rw [hcount, pool.parameterTotal_memberAttributes]
      cases decide (0 < pool.memberParameterTotal owner.method? p.index.toNat) with
      | true => exact FixM.raises_write true
      | false => exact (FixM.raises_report _).bind fun _ => FixM.raises_write false

/-- **The step**: settling a flag adds its part to what the pass has come to. -/
theorem raises_settle (site : FlagSite) :
    Raises FixPass.tally (site.writes, site.reports pool) (site.settle pool) := by
  cases site with
  | property p =>
    rw [writes_eq]
    exact raises_settle_property pool p
  | getter p => exact raises_writeAnnotated_else pool _ _ p.getter
  | setter p => exact raises_writeAnnotated_else pool _ _ p.setter
  | constructor owner k =>
    rw [writes_eq]
    exact raises_settle_constructor pool owner k
  | valueParameter owner p => exact raises_settle_valueParameter pool owner p
  | type owner t =>
    cases owner with
    | functionReceiver f => exact FixM.raises_recount_bind (FixM.raises_write _)
    | _ => exact FixM.raises_write _
  | classDecl c => exact FixM.raises_writeAnnotated _
  | function f => exact FixM.raises_writeAnnotated _
  | _ => exact FixM.raises_write _

end FlagSite

/-! ## Whole passes -/

section pass
variable (fixer : Fixer) (pool : ClassPool) (m : Metadata)

/-- A pass writes what each of the flags of the graph asks for. -/
theorem Fixer.flagsWritten_pass :
    (fixer.pass pool m).2.flagsWritten =
      fixer.flagsWritten + (m.flagSites.map FlagSite.writes).sum := by
  have hstep : ∀ site : FlagSite,
      Raises (fun s : FixPass => s.flagsWritten) site.writes (site.settle pool) :=
    fun site s => congrArg Prod.fst (site.raises_settle pool s)
  exact m.raises_traverseFlags hstep { fixer with }

/-- A pass reports what each of the flags of the graph asks for, in some order. -/
theorem Fixer.events_pass :
    (fixer.pass pool m).2.events.Perm (m.flagSites.flatMap (FlagSite.reports pool)) := by
  have hstep : ∀ site : FlagSite,
      Raises (fun s : FixPass => (s.events : Multiset FixEvent)) (site.reports pool)
        (site.settle pool) :=
    fun site s => congrArg Prod.snd (site.raises_settle pool s)
  have htotal := m.raises_traverseFlags hstep { fixer with }
  have hsum : (m.flagSites.map fun site => (site.reports pool : Multiset FixEvent)).sum =
      (m.flagSites.flatMap (FlagSite.reports pool) : List FixEvent) :=
    Multiset.coe_bind m.flagSites (FlagSite.reports pool)
  rw [hsum, Multiset.coe_nil, zero_add] at htotal
  exact Multiset.coe_eq_coe.mp htotal

end pass

/-! ## Nodes that are written -/

/-- How many flags a pass writes in a property: its own, and those of the accessors that it has
    and that were resolved, to something that is still in the pool or not. -/
def PropertyDecl.writtenFlags (p : PropertyDecl) : Nat :=
  1 + (p.flags.hasGetter && p.getter.isSome).toNat + (p.flags.hasSetter && p.setter.isSome).toNat

namespace Dispatch

/-- The property that is shown. -/
def property? : Dispatch → Option PropertyDecl
  | .property _ p => some p
  | _ => none

/-- The annotation class whose constructor is shown. -/
def annotationClass? : Dispatch → Option ClassDecl
  | .constructor owner _ => owner.ifAnnotationClass
  | _ => none

/-- A value parameter with its flag set is shown, and none of a constructor of an annotation
    class. -/
def isFlaggedParameter : Dispatch → Bool
  | .valueParameter owner p => p.flags.hasAnnotations && !owner.isAnnotationConstructor
  | _ => false

end Dispatch

/-- What a pass writes in a node, by the kind of the node.  A root is looked at apart. -/
theorem Dispatch.sum_writes (ctx : Context) {d : Dispatch} (hroot : ∀ m, d ≠ .root m) :
    (d.flagSites.map FlagSite.writes).sum =
      NodeKind.among .function (d.shownKind ctx) 1 +
      NodeKind.among .constructor (d.shownKind ctx) 1 +
      NodeKind.among .typeAlias (d.shownKind ctx) 1 + NodeKind.among .type (d.shownKind ctx) 1 +
      NodeKind.among .typeParameter (d.shownKind ctx) 1 +
      (d.property?.toList.map PropertyDecl.writtenFlags).sum + d.isFlaggedParameter.toNat := by
  cases d with
  | root m => exact absurd rfl (hroot m)
  | property owner p =>
    have hkind : shownKind ctx (.property owner p) = .property := rfl
    simp [hkind, NodeKind.among, flagSites, property?, isFlaggedParameter, FlagSite.writes_eq,
      PropertyDecl.writtenFlags, Nat.add_assoc]
  | valueParameter owner p =>
    have hkind : shownKind ctx (.valueParameter owner p) = .valueParameter := rfl
    simp [hkind, NodeKind.among, flagSites, property?, isFlaggedParameter, FlagSite.writes_eq]
  | constructor owner k =>
    show (FlagSite.constructor owner k).writes + 0 = 1
    rw [FlagSite.writes_eq]
  | type owner t =>
    show (FlagSite.type owner t).writes + 0 = 1
    rw [FlagSite.writes_eq]
  | _ => rfl

/-- What a pass writes below the root of a graph, by the kinds of nodes. -/
theorem siteSum_writes (ctx : Context) {ds : List Dispatch} (hroot : ∀ m, .root m ∉ ds) :
    siteSum FlagSite.writes ds =
      ds.countP (·.isShownAs ctx .function) + ds.countP (·.isShownAs ctx .constructor) +
      ds.countP (·.isShownAs ctx .typeAlias) + ds.countP (·.isShownAs ctx .type) +
      ds.countP (·.isShownAs ctx .typeParameter) +
      ((ds.filterMap Dispatch.property?).map PropertyDecl.writtenFlags).sum +
      ds.countP Dispatch.isFlaggedParameter := by
  induction ds with
  | nil => rfl
  | cons d ds ih =>
    have hhead := Dispatch.sum_writes ctx (d := d) (by
      rintro m rfl
      exact hroot m List.mem_cons_self)
    have htail := ih fun m hm => hroot m (List.mem_cons_of_mem d hm)
    have hproperties : (((d :: ds).filterMap Dispatch.property?).map
        PropertyDecl.writtenFlags).sum =
          (d.property?.toList.map PropertyDecl.writtenFlags).sum +
            ((ds.filterMap Dispatch.property?).map PropertyDecl.writtenFlags).sum := by
      rw [List.filterMap_eq_flatMap_toList, List.flatMap_cons, List.map_append, List.sum_append,
        ← List.filterMap_eq_flatMap_toList]
    have hflagged : (d :: ds).countP Dispatch.isFlaggedParameter =
        d.isFlaggedParameter.toNat + ds.countP Dispatch.isFlaggedParameter := by
      rw [List.countP_cons, Nat.add_comm]
      cases d.isFlaggedParameter <;> rfl
    simp only [countP_isShownAs_cons]
    rw [siteSum_cons, hhead, htail, hproperties, hflagged]
    omega

/-- No root is shown below the root. -/
theorem Metadata.root_not_mem_walkBody (m root : Metadata) : .root root ∉ m.walkBody := by
  intro hroot
  -- In a walk of the other root it would be counted as a node of that kind.
  have hcount := m.countP_walkBody ⟨{}, { id := ⟨0⟩, name := "", kind := .program }, root⟩
    root.nodeKind
  rw [m.censusBelow_nodeKind root, List.countP_eq_zero] at hcount
  exact hcount _ hroot (decide_eq_true rfl)

/-- What a pass writes in a graph, by its kind and by the nodes that a counter finds in a walk. -/
theorem Metadata.sum_writes (ctx : Context) :
    (ctx.metadata.flagSites.map FlagSite.writes).sum =
      (if ctx.metadata.nodeKind = .classDecl then 1 else 0) +
      (NodeCounter.visitor.walk ctx {}).count .function +
      (NodeCounter.visitor.walk ctx {}).count .constructor +
      (NodeCounter.visitor.walk ctx {}).count .typeAlias +
      (NodeCounter.visitor.walk ctx {}).count .type +
      (NodeCounter.visitor.walk ctx {}).count .typeParameter +
      ((ctx.metadata.walk.filterMap Dispatch.property?).map PropertyDecl.writtenFlags).sum +
      ctx.metadata.walk.countP Dispatch.isFlaggedParameter := by
  -- The root is of a kind of its own, and is counted as nothing else.
  have hcounted : ∀ k ∈ [NodeKind.function, .constructor, .typeAlias, .type, .typeParameter],
      (NodeCounter.visitor.walk ctx {}).count k =
        ctx.metadata.walkBody.countP (·.isShownAs ctx k) := by
    intro k hk
    have hroot : k.among ctx.metadata.nodeKind 1 = 0 := by
      refine if_neg fun hkind => ?_
      rw [← hkind] at hk
      cases hmetadata : ctx.metadata <;> simp [hmetadata, Metadata.nodeKind] at hk
    have hwalk := NodeCounter.count_visitAll ctx ctx.metadata.walk {} k
    rw [Metadata.walk, countP_isShownAs_cons] at hwalk
    exact hwalk.trans (by
      show 0 + (k.among ctx.metadata.nodeKind 1 + _) = _
      rw [hroot, Nat.zero_add, Nat.zero_add])
  have hroot : ((Dispatch.root ctx.metadata).flagSites.map FlagSite.writes).sum =
      if ctx.metadata.nodeKind = .classDecl then 1 else 0 := by
    cases ctx.metadata <;> rfl
  have hbody := siteSum_writes ctx ctx.metadata.root_not_mem_walkBody
  rw [Metadata.map_flagSites]
  show siteSum FlagSite.writes ctx.metadata.walk = _
  rw [hcounted _ (by decide), hcounted _ (by decide), hcounted _ (by decide),
    hcounted _ (by decide), hcounted _ (by decide), Metadata.walk, siteSum_cons, hroot, hbody,
    List.filterMap_cons_none rfl, List.countP_cons_of_neg Bool.false_ne_true]
  omega

/-! ## A second pass -/

section again
variable (pool : ClassPool)

/-- A rule makes nothing else of what it has made of a flag. -/
theorem FlagRule.apply_apply (old : Bool) (rule : FlagRule) :
    rule.apply pool (rule.apply pool old) = rule.apply pool old := by
  cases rule with
  | takenBack link index => simp [FlagRule.apply]
  | _ => rfl

/-- After a pass every flag says what it has to say. -/
theorem Metadata.truth_of_mem_mapFlags (m : Metadata) {site : FlagSite}
    (h : site ∈ (m.mapFlags (FlagSite.truth pool)).flagSites) :
    site.truth pool = site.value := by
  have hreadings := m.readings_mapFlags (fun rule old => decide (rule.apply pool old = old))
    (FlagSite.truth pool)
  rw [← Metadata.map_flagSites, ← Metadata.map_flagSites] at hreadings
  have hmem := List.mem_map_of_mem
    (f := FlagSite.reading fun rule old => decide (rule.apply pool old = old)) h
  -- The flag stands where the graph had one before, with the same rule.
  rw [hreadings] at hmem
  obtain ⟨before, -, hbefore⟩ := List.mem_map.mp hmem
  have hsettled : before.newReading (fun rule old => decide (rule.apply pool old = old))
      (FlagSite.truth pool) = true := by
    rw [FlagSite.newReading, FlagSite.truth_eq_apply, FlagRule.apply_apply]
    exact decide_eq_true rfl
  rw [hsettled] at hbefore
  rw [FlagSite.truth_eq_apply]
  exact of_decide_eq_true hbefore.symm

/-- What a pass makes of a graph stays the same in another pass. -/
theorem Metadata.mapFlags_truth_twice (m : Metadata) :
    (m.mapFlags (FlagSite.truth pool)).mapFlags (FlagSite.truth pool) =
      m.mapFlags (FlagSite.truth pool) :=
  Metadata.mapFlags_eq_self fun _ hsite => m.truth_of_mem_mapFlags pool hsite

/-- A flag that is taken back is one less to look at, and nothing else changes. -/
theorem FlagSite.writes_truth (site : FlagSite) :
    site.newReading FlagRule.writes (FlagSite.truth pool) +
      (site.demoted? (site.truth pool)).toList.length = site.writes := by
  rw [newReading, writes, reading]
  cases site with
  | valueParameter owner p =>
    rw [truth_eq_apply]
    cases howner : owner.isAnnotationConstructor with
    | true =>
      rw [rule_eq_kept howner]
      simp only [value, demoted?, FlagRule.apply]
      cases p.flags.hasAnnotations <;> rfl
    | false =>
      rw [rule_eq_takenBack howner]
      simp only [value, demoted?, FlagRule.apply]
      cases p.flags.hasAnnotations
      · rfl
      · cases decide (0 < pool.memberParameterTotal owner.method? p.index.toNat) <;> rfl
  | classDecl c => rfl
  | function f => rfl
  | typeAlias a => rfl
  | typeParameter p => rfl
  | _ =>
    simp only [rule, demoted?]
    split <;> rfl

end again

/-! ## Reports -/

/-- The value parameters whose flag is set in one graph and not in another, which differs from it
    in flags only: flag by flag, in the order of a walk. -/
def Metadata.demoted (m new : Metadata) : List ValueParameter :=
  (m.flagSites.zip (new.flagSites.map FlagSite.value)).filterMap fun (site, flag) =>
    site.demoted? flag

theorem Metadata.demoted_mapFlags (m : Metadata) (g : FlagSite → Bool) :
    m.demoted (m.mapFlags g) = m.flagSites.filterMap fun site => site.demoted? (g site) := by
  have hvalues : (m.mapFlags g).flagSites.map FlagSite.value = m.flagSites.map g := by
    rw [Metadata.map_flagSites, Metadata.map_flagSites, Metadata.siteValues_mapFlags]
  rw [Metadata.demoted, hvalues, ← List.map_prod_left_eq_zip, List.filterMap_map]
  rfl

/-- The constructors of annotation classes have a flag each. -/
theorem Metadata.filterMap_annotationClass? (m : Metadata) :
    m.flagSites.filterMap FlagSite.annotationClass? =
      m.walk.filterMap Dispatch.annotationClass? := by
  have heach : ∀ d : Dispatch,
      d.flagSites.filterMap FlagSite.annotationClass? = d.annotationClass?.toList := by
    intro d
    cases d with
    | root m => cases m <;> rfl
    | constructor owner k =>
      show [FlagSite.constructor owner k].filterMap _ = owner.ifAnnotationClass.toList
      rw [List.filterMap_cons, FlagSite.annotationClass?]
      cases owner.ifAnnotationClass <;> rfl
    | _ => rfl
  rw [Metadata.flagSites, List.filterMap_flatMap, List.filterMap_eq_flatMap_toList]
  simp only [heach]

/-- What the flags of a graph report, those of value parameters first. -/
theorem Metadata.reports_perm (m : Metadata) (pool : ClassPool) :
    (m.flagSites.flatMap (FlagSite.reports pool)).Perm
      ((m.demoted (m.mapFlags (FlagSite.truth pool))).map ValueParameter.demotion ++
        (m.walk.filterMap Dispatch.annotationClass?).map ClassDecl.unannotated) := by
  have hsplit := List.flatMap_append_perm m.flagSites
    (fun site => (site.demoted? (site.truth pool)).toList.map ValueParameter.demotion)
    (fun site => site.annotationClass?.toList.map ClassDecl.unannotated)
  rw [← List.map_flatMap, ← List.map_flatMap, ← List.filterMap_eq_flatMap_toList,
    ← List.filterMap_eq_flatMap_toList, ← Metadata.demoted_mapFlags,
    Metadata.filterMap_annotationClass?] at hsplit
  exact hsplit.symm

section present
variable {pool : ClassPool} {id : ClassId} {c : JvmClass} (m : Metadata)

/-- A pass over the graph of a class in the pool, by a fixer that was not used before. -/
theorem Metadata.fixFlags_of_present (h : pool.class? id = some c) :
    m.fixFlags pool id =
      ((Fixer.pass {} pool m).1,
        ⟨(Fixer.pass {} pool m).2.flagsWritten,
          (Fixer.pass {} pool m).2.events ++
            [.finished (Fixer.pass {} pool m).2.flagsWritten c.name m.kind]⟩) := by
  rw [Metadata.fixFlags, h]

theorem Metadata.graph_fixFlags (h : pool.class? id = some c) :
    (m.fixFlags pool id).1 = m.mapFlags (FlagSite.truth pool) := by
  rw [m.fixFlags_of_present h, Fixer.pass_eq_mapFlags]

theorem Metadata.written_fixFlags (h : pool.class? id = some c) :
    (m.fixFlags pool id).2.written = (m.flagSites.map FlagSite.writes).sum := by
  rw [m.fixFlags_of_present h, Fixer.flagsWritten_pass]
  exact Nat.zero_add _

/-- The single decisions that a pass reports are value parameters whose flags are taken back, and
    constructors of annotation classes. -/
theorem Metadata.trace_fixFlags (h : pool.class? id = some c) :
    ((m.fixFlags pool id).2.events.filter (·.line.level = .trace)).Perm
      ((m.demoted (m.fixFlags pool id).1).map ValueParameter.demotion ++
        (m.walk.filterMap Dispatch.annotationClass?).map ClassDecl.unannotated) := by
  have hevents := (Fixer.events_pass {} pool m).trans (m.reports_perm pool)
  rw [m.graph_fixFlags h, m.fixFlags_of_present h]
  have hall : ∀ e ∈ (m.demoted (m.mapFlags (FlagSite.truth pool))).map ValueParameter.demotion ++
      (m.walk.filterMap Dispatch.annotationClass?).map ClassDecl.unannotated,
      decide (e.line.level = .trace) = true := by
    intro e he
    rcases List.mem_append.mp he with hdemotion | hconstructor
    · obtain ⟨p, -, rfl⟩ := List.mem_map.mp hdemotion
      rfl
    · obtain ⟨c, -, rfl⟩ := List.mem_map.mp hconstructor
      rfl
  have htrace := hevents.filter (·.line.level = .trace)
  rw [List.filter_eq_self.mpr hall] at htrace
  -- The event that ends the pass is no single decision.
  show (List.filter _ (_ ++ [FixEvent.finished _ _ _])).Perm _
  rw [List.filter_append, List.filter_cons_of_neg Bool.false_ne_true, List.filter_nil,
    List.append_nil]
  exact htrace

/-- A pass that takes back nothing does not report that it does. -/
theorem Metadata.demotion_not_mem_fixFlags (h : pool.class? id = some c)
    (hnone : m.demoted (m.fixFlags pool id).1 = []) (p : ValueParameter) :
    p.demotion ∉ (m.fixFlags pool id).2.events := by
  intro hp
  have htrace := (m.trace_fixFlags h).mem_iff.mp (List.mem_filter.mpr ⟨hp, rfl⟩)
  rw [hnone, List.map_nil, List.nil_append] at htrace
  obtain ⟨_, -, hreport⟩ := List.mem_map.mp htrace
  exact absurd hreport nofun

/-- A fixer with any past settles the flags in the same way. -/
theorem Fixer.graph_pass (fixer : Fixer) (h : pool.class? id = some c) :
    (fixer.pass pool m).1 = (m.fixFlags pool id).1 := by
  rw [fixer.pass_eq_mapFlags, m.graph_fixFlags h]

theorem Fixer.written_pass (fixer : Fixer) (h : pool.class? id = some c) :
    (fixer.pass pool m).2.flagsWritten = fixer.flagsWritten + (m.fixFlags pool id).2.written := by
  rw [fixer.flagsWritten_pass, m.written_fixFlags h]

/-- A second pass finds nothing to change. -/
theorem Metadata.fixFlags_fixFlags (h : pool.class? id = some c) :
    ((m.fixFlags pool id).1.fixFlags pool id).1 = (m.fixFlags pool id).1 := by
  rw [m.graph_fixFlags h, Metadata.graph_fixFlags _ h]
  exact m.mapFlags_truth_twice pool

/-- Nor does it take back a flag. -/
theorem Metadata.demoted_fixFlags (h : pool.class? id = some c) :
    (m.fixFlags pool id).1.demoted ((m.fixFlags pool id).1.fixFlags pool id).1 = [] := by
  rw [m.graph_fixFlags h, Metadata.graph_fixFlags _ h, Metadata.demoted_mapFlags,
    List.filterMap_eq_nil_iff]
  intro site hsite
  rw [m.truth_of_mem_mapFlags pool hsite]
  cases site with
  | valueParameter owner p =>
    simp only [FlagSite.demoted?, FlagSite.value]
    cases p.flags.hasAnnotations <;> rfl
  | _ => rfl

/-- The flags that were taken back are those that it need not write. -/
theorem Metadata.sum_writes_fixFlags (h : pool.class? id = some c) :
    ((m.fixFlags pool id).1.flagSites.map FlagSite.writes).sum +
        (m.demoted (m.fixFlags pool id).1).length =
      (m.flagSites.map FlagSite.writes).sum := by
  have hwrites : (m.mapFlags (FlagSite.truth pool)).flagSites.map FlagSite.writes =
      m.flagSites.map (FlagSite.newReading FlagRule.writes (FlagSite.truth pool)) := by
    rw [Metadata.map_flagSites, Metadata.map_flagSites]
    exact m.readings_mapFlags FlagRule.writes (FlagSite.truth pool)
  rw [m.graph_fixFlags h, Metadata.demoted_mapFlags, hwrites]
  induction m.flagSites with
  | nil => rfl
  | cons site sites ih =>
    have hsite := site.writes_truth pool
    rw [List.filterMap_cons, List.map_cons, List.sum_cons, List.map_cons, List.sum_cons, ← ih,
      ← hsite]
    cases site.demoted? (site.truth pool) with
    | none =>
      simp only [Option.toList_none, List.length_nil]
      omega
    | some p =>
      simp only [Option.toList_some, List.length_cons, List.length_nil]
      omega

/-- **The account of a pass** over the graph of a class in the pool, and of one more.  The first
    pass writes a flag for a class, for each function, constructor, type alias, type and type
    parameter that a counter finds, and for each value parameter with its flag set that does not
    belong to a constructor of an annotation class; and for each property one flag, and one for
    each accessor that it has and that was resolved.  It reports each value parameter whose flag
    it takes back, and each constructor of an annotation class, and no other single decision.  The
    second pass changes nothing and takes back nothing, and there are fewer flags for it to write
    by those that were taken back.  A fixer that was used before adds these numbers to its own. -/
theorem Metadata.fixFlags_account (pool : ClassPool) (id : ClassId) (c : JvmClass) (m : Metadata)
    (h : pool.class? id = some c) :
    let counter := NodeCounter.visitor.walk ⟨pool, c, m⟩ {}
    let first := m.fixFlags pool id
    let second := first.1.fixFlags pool id
    first.2.written =
      (if m.nodeKind = .classDecl then 1 else 0) + counter.count .function +
      counter.count .constructor + counter.count .typeAlias + counter.count .type +
      counter.count .typeParameter +
      ((m.walk.filterMap Dispatch.property?).map PropertyDecl.writtenFlags).sum +
      m.walk.countP Dispatch.isFlaggedParameter ∧
    (first.2.events.filter (·.line.level = .trace)).Perm
      ((m.demoted first.1).map ValueParameter.demotion ++
        (m.walk.filterMap Dispatch.annotationClass?).map ClassDecl.unannotated) ∧
    second.1 = first.1 ∧
    (∀ p : ValueParameter, p.demotion ∉ second.2.events) ∧
    second.2.written + (m.demoted first.1).length = first.2.written ∧
    ∀ fixer : Fixer,
      let pass := fixer.pass pool m
      let again := pass.2.toFixer.pass pool pass.1
      pass.1 = first.1 ∧ again.1 = first.1 ∧
      pass.2.flagsWritten = fixer.flagsWritten + first.2.written ∧
      again.2.flagsWritten = fixer.flagsWritten + first.2.written + second.2.written := by
  intro counter first second
  have hwritten := m.written_fixFlags h
  have hsecond := first.1.written_fixFlags h
  refine ⟨?_, m.trace_fixFlags h, m.fixFlags_fixFlags h, ?_, ?_, ?_⟩
  · rw [hwritten]
    exact Metadata.sum_writes ⟨pool, c, m⟩
  · exact first.1.demotion_not_mem_fixFlags h (m.demoted_fixFlags h)
  · rw [hwritten, hsecond]
    exact m.sum_writes_fixFlags h
  · intro fixer pass again
    have hpass : pass.1 = first.1 := fixer.graph_pass m h
    have hgrows : pass.2.flagsWritten = fixer.flagsWritten + first.2.written :=
      fixer.written_pass m h
    have hagain : again.1 = (pass.1.fixFlags pool id).1 := pass.2.toFixer.graph_pass pass.1 h
    have hgrowsAgain : again.2.flagsWritten =
        pass.2.flagsWritten + (pass.1.fixFlags pool id).2.written :=
      pass.2.toFixer.written_pass pass.1 h
    rw [hpass] at hagain hgrowsAgain
    refine ⟨hpass, hagain.trans (m.fixFlags_fixFlags h), hgrows, ?_⟩
    rw [hgrowsAgain, hgrows]

end present

/-- An annotation class.  A property of it has a getter that is not in the pool, and a function of
    it has a parameter that was decoded as annotated. -/
def annotationGraph : Metadata :=
  .classDecl {
    name := "a/Ann", flags := { isAnnotationClass := true }
    container := {
      properties := [{
        name := "x", flags := { hasGetter := true }, getter := some ⟨⟨7⟩, ⟨7⟩⟩, type := {} }]
      functions := [{
        name := "run", method := some ⟨⟨0⟩, ⟨0⟩⟩, returnType := {}
        valueParameters :=
          [{ flags := { hasAnnotations := true }, index := 1, name := "y", type := {} }] }] }
    constructors := [{
      valueParameters :=
        [{ flags := { hasAnnotations := true }, index := 0, name := "x", type := {} }] }] }

/-- Ten flags are written: the class, four types, a function, a constructor, a property with its
    getter, and the parameter of the function, which is taken back.  The second pass leaves it
    alone, and the parameter of the constructor is left alone by both. -/
theorem Metadata.fixFlags_account_of_annotationClass :
    let first := annotationGraph.fixFlags annotatedMethodPool ⟨0⟩
    let second := first.1.fixFlags annotatedMethodPool ⟨0⟩
    let used : Fixer := ⟨⟨5, [3, 3]⟩, 2⟩
    let pass := used.pass annotatedMethodPool annotationGraph
    (annotatedMethodPool.class? ⟨0⟩).isSome ∧ first.2.written = 10 ∧
    (first.2.events.filter (·.line.level = .trace)).Perm
      [.parameterDemoted "y" 1, .constructorUnannotated "a/Ann"] ∧
    second.1 = first.1 ∧ second.2.written = 9 ∧
    (pass.2.toFixer.pass annotatedMethodPool pass.1).2.flagsWritten = 21 := by
  intro first second used pass
  obtain ⟨hfirst, htrace, hsame, -, hsecond, hused⟩ :=
    Metadata.fixFlags_account annotatedMethodPool ⟨0⟩ _ annotationGraph rfl
  obtain ⟨-, -, -, hgrows⟩ := hused used
  have hten : first.2.written = 10 := hfirst.trans (by decide)
  have hone : (annotationGraph.demoted first.1).length = 1 := by decide
  have hnine : second.2.written = 9 := by
    have hsum : second.2.written + (annotationGraph.demoted first.1).length = first.2.written :=
      hsecond
    omega
  have hreports : (annotationGraph.demoted first.1).map ValueParameter.demotion ++
      (annotationGraph.walk.filterMap Dispatch.annotationClass?).map ClassDecl.unannotated =
        [.parameterDemoted "y" 1, .constructorUnannotated "a/Ann"] := by decide
  have hpast : used.flagsWritten = 2 := rfl
  refine ⟨rfl, hten, ?_, hsame, hnine, ?_⟩
  · rw [← hreports]
    exact htrace
  · calc (pass.2.toFixer.pass annotatedMethodPool pass.1).2.flagsWritten
        = used.flagsWritten + first.2.written + second.2.written := hgrows
      _ = 21 := by rw [hpast, hten, hnine]

end KotlinMetadata
