import Mathlib.Algebra.BigOperators.Group.List.Basic
import Mathlib.Algebra.GroupWithZero.Nat
import KotlinMetadata.Walk.Visitor

/-! # How many nodes a graph has

    The nodes of a graph counted by its structure, with no walk involved, and what the counting
    visitor makes of a walk.

    - `Metadata.census`: the nodes of one kind in a graph, at every depth;
    - `NodeCounter.visit_eq_add`: a dispatch is counted once, a root with a container included;
    - `*.countP_walk`: a walk has as many dispatches of each kind as there are nodes;
    - `NodeCounter.walk_counts_census`: so a fresh counter ends up with the census.
-/

namespace KotlinMetadata

/-! ## Census -/

/-- How many of `n` nodes of one kind are of kind `k`: all or none. -/
def NodeKind.among (k kind : NodeKind) (n : Nat) : Nat := if kind = k then n else 0

mutual

/-- Nodes of a kind in a type: the type itself, its annotations, and those in nested types. -/
def KotlinType.census (k : NodeKind) : KotlinType → Nat
  | ⟨_, _, _, _, _, _, arguments, upperBounds, abbreviation, annotations⟩ =>
    k.among .type 1 + KotlinType.censusList k arguments + KotlinType.censusList k upperBounds +
      KotlinType.censusOption k abbreviation + k.among .annotationUse annotations.length

/-- Nodes of a kind in types. -/
def KotlinType.censusList (k : NodeKind) : List KotlinType → Nat
  | [] => 0
  | t :: ts => KotlinType.census k t + KotlinType.censusList k ts

/-- Nodes of a kind in a type that may be absent. -/
def KotlinType.censusOption (k : NodeKind) : Option KotlinType → Nat
  | none => 0
  | some t => KotlinType.census k t

end

section Declarations
variable (k : NodeKind)

/-- Nodes of a kind in a version requirement that may be absent. -/
def VersionRequirement.census (r : Option VersionRequirement) : Nat :=
  k.among .versionRequirement r.toList.length

/-- Nodes of a kind in a type parameter. -/
def TypeParameter.census (p : TypeParameter) : Nat :=
  k.among .typeParameter 1 + KotlinType.censusList k p.upperBounds +
    k.among .annotationUse p.annotations.length

/-- Nodes of a kind in a value parameter. -/
def ValueParameter.census (p : ValueParameter) : Nat :=
  k.among .valueParameter 1 + p.type.census k + KotlinType.censusOption k p.varargElement

/-- Nodes of a kind in a function. -/
def FunctionDecl.census (f : FunctionDecl) : Nat :=
  k.among .function 1 + KotlinType.censusOption k f.receiver +
    (f.typeParameters.map (TypeParameter.census k)).sum +
    (f.valueParameters.map (ValueParameter.census k)).sum + f.returnType.census k +
    VersionRequirement.census k f.versionRequirement

/-- Nodes of a kind in a constructor. -/
def ConstructorDecl.census (c : ConstructorDecl) : Nat :=
  k.among .constructor 1 + (c.valueParameters.map (ValueParameter.census k)).sum +
    VersionRequirement.census k c.versionRequirement

/-- Nodes of a kind in a property, the parameters of its setter included. -/
def PropertyDecl.census (p : PropertyDecl) : Nat :=
  k.among .property 1 + KotlinType.censusOption k p.receiver + p.type.census k +
    (p.typeParameters.map (TypeParameter.census k)).sum +
    (p.setterParameters.map (ValueParameter.census k)).sum +
    VersionRequirement.census k p.versionRequirement

/-- Nodes of a kind in a type alias. -/
def TypeAliasDecl.census (a : TypeAliasDecl) : Nat :=
  k.among .typeAlias 1 + (a.typeParameters.map (TypeParameter.census k)).sum +
    a.underlying.census k + a.expanded.census k +
    VersionRequirement.census k a.versionRequirement +
    k.among .annotationUse a.annotations.length

/-- Nodes of a kind in a container, which is no node itself. -/
def Container.census (c : Container) : Nat :=
  (c.properties.map (PropertyDecl.census k)).sum +
    (c.functions.map (FunctionDecl.census k)).sum +
    (c.typeAliases.map (TypeAliasDecl.census k)).sum +
    (c.delegatedProperties.map (PropertyDecl.census k)).sum

/-- Nodes of a kind in a class, its root apart. -/
def ClassDecl.census (c : ClassDecl) : Nat :=
  c.container.census k + KotlinType.censusList k c.supertypes +
    (c.typeParameters.map (TypeParameter.census k)).sum +
    VersionRequirement.census k c.versionRequirement +
    (c.constructors.map (ConstructorDecl.census k)).sum

/-- Nodes of a kind below the root of a graph. -/
def Metadata.censusBelow : Metadata → Nat
  | .classDecl c => c.census k
  | .fileFacade f => f.container.census k
  | .syntheticClass s => (s.functions.map (FunctionDecl.census k)).sum
  | .multiFileFacade _ => 0
  | .multiFilePart p => p.container.census k

/-- Nodes of a kind in a graph: its root, and those below. -/
def Metadata.census (m : Metadata) : Nat :=
  k.among m.nodeKind 1 + m.censusBelow k

end Declarations

/-! ## Counting dispatches -/

/-- The kind that a counter is told of.  A root is shown as the graph that is being walked. -/
def Dispatch.shownKind (ctx : Context) : Dispatch → NodeKind
  | .root _ => ctx.metadata.nodeKind
  | d => d.kind

/-- The counter is told of a node of kind `k`. -/
def Dispatch.isShownAs (ctx : Context) (k : NodeKind) (d : Dispatch) : Bool :=
  d.shownKind ctx = k

/-- The first of several dispatches counts for one node of its kind. -/
theorem countP_isShownAs_cons (ctx : Context) (k : NodeKind) (d : Dispatch) (ds : List Dispatch) :
    (d :: ds).countP (·.isShownAs ctx k) =
      k.among (d.shownKind ctx) 1 + ds.countP (·.isShownAs ctx k) := by
  rw [List.countP_cons, Nat.add_comm]
  by_cases h : d.shownKind ctx = k
  · simp [NodeKind.among, Dispatch.isShownAs, h]
  · simp [NodeKind.among, Dispatch.isShownAs, h]

namespace NodeCounter
variable (ctx : Context)

/-- Every dispatch is counted, and once.  A root that carries a container gets to the counter
    through the handler of containers, but no second time by itself. -/
theorem visit_eq_add (d : Dispatch) (c : NodeCounter) :
    visitor.visit ctx d c = c.add (d.shownKind ctx) := by
  cases d with
  | root m => cases m <;> rfl
  | _ => rfl

theorem count_add (c : NodeCounter) (kind k : NodeKind) :
    (c.add kind).count k = c.count k + k.among kind 1 := by
  unfold add NodeKind.among
  by_cases h : kind = k
  · simp [h]
  · simp [h, Ne.symm h]

/-- Counting dispatches adds, for each kind, the number of those shown as that kind. -/
theorem count_visitAll (ds : List Dispatch) (c : NodeCounter) (k : NodeKind) :
    (visitor.visitAll ctx ds c).count k = c.count k + ds.countP (·.isShownAs ctx k) := by
  induction ds generalizing c with
  | nil => rfl
  | cons d ds ih =>
    have hstep : visitor.visitAll ctx (d :: ds) c =
        visitor.visitAll ctx ds (c.add (d.shownKind ctx)) := by
      rw [← visit_eq_add]
      rfl
    rw [hstep, ih, count_add, countP_isShownAs_cons]
    omega

end NodeCounter

/-! ## Walks -/

section Walks
variable (ctx : Context) (k : NodeKind)

theorem VersionRequirement.countP_dispatches (owner : VersionRequirementOwner)
    (r : Option VersionRequirement) :
    (versionDispatches owner r).countP (·.isShownAs ctx k) = VersionRequirement.census k r := by
  cases r with
  | none => simp [versionDispatches, VersionRequirement.census, NodeKind.among]
  | some r => exact countP_isShownAs_cons ctx k (.versionRequirement owner r) []

theorem AnnotationUse.countP_dispatches (owner : AnnotationOwner) (as : List AnnotationUse) :
    (annotationDispatches owner as).countP (·.isShownAs ctx k) =
      k.among .annotationUse as.length := by
  induction as with
  | nil => simp [annotationDispatches, NodeKind.among]
  | cons a as ih =>
    have hhead := countP_isShownAs_cons ctx k (.annotationUse owner a)
      (annotationDispatches owner as)
    have hlength : k.among .annotationUse (as.length + 1) =
        k.among .annotationUse 1 + k.among .annotationUse as.length := by
      unfold NodeKind.among
      split <;> omega
    rw [List.length_cons, hlength, ← ih]
    exact hhead

/-! ### Types and parameters -/

mutual

/-- A walk of a type has a dispatch for every node in it, wherever the type stands. -/
theorem KotlinType.countP_walk (owner : TypeOwner) :
    (t : KotlinType) → (t.walk owner).countP (·.isShownAs ctx k) = t.census k
  | ⟨_, _, _, _, _, _, arguments, upperBounds, abbreviation, annotations⟩ => by
    rw [KotlinType.walk]
    simp only [List.cons_append, countP_isShownAs_cons, List.countP_append,
      AnnotationUse.countP_dispatches]
    rw [KotlinType.countP_walkList _ arguments,
      KotlinType.countP_walkList _ upperBounds,
      KotlinType.countP_walkOption _ abbreviation, KotlinType.census]
    simp only [Dispatch.shownKind, Dispatch.kind, Dispatch.node, Node.kind]
    omega

theorem KotlinType.countP_walkList (owner : TypeOwner) :
    (ts : List KotlinType) →
      (walkList owner ts).countP (·.isShownAs ctx k) = KotlinType.censusList k ts
  | [] => rfl
  | t :: ts => by
    rw [KotlinType.walkList, List.countP_append, KotlinType.countP_walk owner t,
      KotlinType.countP_walkList owner ts, KotlinType.censusList]

theorem KotlinType.countP_walkOption (owner : TypeOwner) :
    (t : Option KotlinType) →
      (walkOption owner t).countP (·.isShownAs ctx k) = KotlinType.censusOption k t
  | none => rfl
  | some t => by
    rw [KotlinType.walkOption, KotlinType.countP_walk owner t, KotlinType.censusOption]

end

/-- Walks one after the other have the dispatches of all of them. -/
theorem countP_flatMap_walk {α : Type} {walk : α → List Dispatch} {census : α → Nat}
    (h : ∀ x, (walk x).countP (·.isShownAs ctx k) = census x) (xs : List α) :
    (xs.flatMap walk).countP (·.isShownAs ctx k) = (xs.map census).sum := by
  rw [List.countP_flatMap]
  exact congrArg List.sum (List.map_congr_left fun x _ => h x)

theorem TypeParameter.countP_walk (owner : TypeParameterOwner) (p : TypeParameter) :
    (p.walk owner).countP (·.isShownAs ctx k) = p.census k := by
  have hbounds := KotlinType.countP_walkList ctx k (.parameterBound p) p.upperBounds
  have hannotations := AnnotationUse.countP_dispatches ctx k (.typeParameter p) p.annotations
  simp only [TypeParameter.walk, List.cons_append, countP_isShownAs_cons, List.countP_append,
    hbounds, hannotations, TypeParameter.census]
  simp only [Dispatch.shownKind, Dispatch.kind, Dispatch.node, Node.kind]
  omega

theorem ValueParameter.countP_walk (owner : ValueParameterOwner) (p : ValueParameter) :
    (p.walk owner).countP (·.isShownAs ctx k) = p.census k := by
  have htype := KotlinType.countP_walk ctx k (.valueParameterType p) p.type
  have helement := KotlinType.countP_walkOption ctx k (.varargElement p) p.varargElement
  simp only [ValueParameter.walk, List.cons_append, countP_isShownAs_cons, List.countP_append,
    htype, helement, ValueParameter.census]
  simp only [Dispatch.shownKind, Dispatch.kind, Dispatch.node, Node.kind]
  omega

/-! ### Declarations -/

theorem FunctionDecl.countP_walk (owner : FunctionOwner) (f : FunctionDecl) :
    (f.walk owner).countP (·.isShownAs ctx k) = f.census k := by
  have hreceiver := KotlinType.countP_walkOption ctx k (.functionReceiver f) f.receiver
  have htypes := countP_flatMap_walk ctx k (TypeParameter.countP_walk ctx k (.function f))
    f.typeParameters
  have hvalues := countP_flatMap_walk ctx k (ValueParameter.countP_walk ctx k (.function f))
    f.valueParameters
  have hreturn := KotlinType.countP_walk ctx k (.functionReturn f) f.returnType
  have hversion := VersionRequirement.countP_dispatches ctx k (.function f) f.versionRequirement
  simp only [FunctionDecl.walk, List.cons_append, countP_isShownAs_cons, List.countP_append,
    hreceiver, htypes, hvalues, hreturn, hversion, FunctionDecl.census]
  simp only [Dispatch.shownKind, Dispatch.kind, Dispatch.node, Node.kind]
  omega

theorem ConstructorDecl.countP_walk (owner : ClassDecl) (c : ConstructorDecl) :
    (c.walk owner).countP (·.isShownAs ctx k) = c.census k := by
  have hvalues := countP_flatMap_walk ctx k
    (ValueParameter.countP_walk ctx k (.constructor owner c)) c.valueParameters
  have hversion := VersionRequirement.countP_dispatches ctx k (.constructor c)
    c.versionRequirement
  simp only [ConstructorDecl.walk, List.cons_append, countP_isShownAs_cons, List.countP_append,
    hvalues, hversion, ConstructorDecl.census]
  simp only [Dispatch.shownKind, Dispatch.kind, Dispatch.node, Node.kind]
  omega

theorem PropertyDecl.countP_walk (owner : PropertyOwner) (p : PropertyDecl) :
    (p.walk owner).countP (·.isShownAs ctx k) = p.census k := by
  have hversion := VersionRequirement.countP_dispatches ctx k (.property p) p.versionRequirement
  have htype := KotlinType.countP_walk ctx k (.propertyType p) p.type
  have hsetter := countP_flatMap_walk ctx k
    (ValueParameter.countP_walk ctx k (.propertySetter p)) p.setterParameters
  have hreceiver := KotlinType.countP_walkOption ctx k (.propertyReceiver p) p.receiver
  have htypes := countP_flatMap_walk ctx k (TypeParameter.countP_walk ctx k (.property p))
    p.typeParameters
  simp only [PropertyDecl.walk, List.cons_append, countP_isShownAs_cons, List.countP_append,
    hversion, htype, hsetter, hreceiver, htypes, PropertyDecl.census]
  simp only [Dispatch.shownKind, Dispatch.kind, Dispatch.node, Node.kind]
  omega

theorem TypeAliasDecl.countP_walk (owner : Container) (a : TypeAliasDecl) :
    (a.walk owner).countP (·.isShownAs ctx k) = a.census k := by
  have htypes := countP_flatMap_walk ctx k (TypeParameter.countP_walk ctx k (.typeAlias a))
    a.typeParameters
  have hunderlying := KotlinType.countP_walk ctx k (.underlying a) a.underlying
  have hexpanded := KotlinType.countP_walk ctx k (.expanded a) a.expanded
  have hversion := VersionRequirement.countP_dispatches ctx k (.typeAlias a) a.versionRequirement
  have hannotations := AnnotationUse.countP_dispatches ctx k (.typeAlias a) a.annotations
  simp only [TypeAliasDecl.walk, List.cons_append, countP_isShownAs_cons, List.countP_append,
    htypes, hunderlying, hexpanded, hversion, hannotations, TypeAliasDecl.census]
  simp only [Dispatch.shownKind, Dispatch.kind, Dispatch.node, Node.kind]
  omega

theorem Container.countP_walk (c : Container) :
    c.walk.countP (·.isShownAs ctx k) = c.census k := by
  have hproperties := countP_flatMap_walk ctx k (PropertyDecl.countP_walk ctx k (.declared c))
    c.properties
  have hfunctions := countP_flatMap_walk ctx k (FunctionDecl.countP_walk ctx k (.container c))
    c.functions
  have haliases := countP_flatMap_walk ctx k (TypeAliasDecl.countP_walk ctx k c) c.typeAliases
  have hdelegated := countP_flatMap_walk ctx k (PropertyDecl.countP_walk ctx k (.delegated c))
    c.delegatedProperties
  simp only [Container.walk, List.countP_append, hproperties, hfunctions, haliases, hdelegated,
    Container.census]

/-! ### Roots -/

theorem ClassDecl.countP_walkBody (c : ClassDecl) :
    c.walkBody.countP (·.isShownAs ctx k) = c.census k := by
  have hcontainer := c.container.countP_walk ctx k
  have hsupertypes := KotlinType.countP_walkList ctx k (.supertype c) c.supertypes
  have htypes := countP_flatMap_walk ctx k (TypeParameter.countP_walk ctx k (.classDecl c))
    c.typeParameters
  have hversion := VersionRequirement.countP_dispatches ctx k (.classDecl c) c.versionRequirement
  have hconstructors := countP_flatMap_walk ctx k (ConstructorDecl.countP_walk ctx k c)
    c.constructors
  simp only [ClassDecl.walkBody, List.countP_append, hcontainer, hsupertypes, htypes, hversion,
    hconstructors, ClassDecl.census]

/-- Below its root a graph has as many dispatches of a kind as nodes. -/
theorem Metadata.countP_walkBody (m : Metadata) :
    m.walkBody.countP (·.isShownAs ctx k) = m.censusBelow k := by
  cases m with
  | classDecl c => exact c.countP_walkBody ctx k
  | fileFacade f => exact f.container.countP_walk ctx k
  | syntheticClass s =>
    exact countP_flatMap_walk ctx k (FunctionDecl.countP_walk ctx k (.syntheticClass s)) s.functions
  | multiFileFacade f => rfl
  | multiFilePart p => exact p.container.countP_walk ctx k

/-- No root is below a root: the nodes below are the same ones when they are shown in the walk of
    a graph of some other kind, and there none of them has the kind of this root. -/
theorem Metadata.censusBelow_nodeKind (m root : Metadata) : m.censusBelow root.nodeKind = 0 := by
  obtain ⟨other, hother⟩ : ∃ other : Metadata, other.nodeKind ≠ root.nodeKind := by
    cases root with
    | multiFileFacade f => exact ⟨.fileFacade {}, nofun⟩
    | _ => exact ⟨.multiFileFacade {}, nofun⟩
  have hcount := m.countP_walkBody ⟨{}, { id := ⟨0⟩, name := "", kind := .program }, other⟩
    root.nodeKind
  rw [← hcount, List.countP_eq_zero]
  intro d _
  cases d with
  | root _ => exact fun hshown => hother (of_decide_eq_true hshown)
  | _ => cases root <;> exact nofun

end Walks

/-! ## Whole graphs -/

/-- **Every node once**: after a walk of any graph, a fresh counter has counted the nodes of each
    kind that the graph has, and has their sum as its total.  There is one root, of its own kind.
    A root with a container is shown to the counter as that container, which adds one node of the
    kind of the root and nothing for the container. -/
theorem NodeCounter.walk_counts_census (pool : ClassPool) (c : JvmClass) (m : Metadata) :
    (∀ k, (visitor.walk ⟨pool, c, m⟩ {}).count k = m.census k) ∧
    (visitor.walk ⟨pool, c, m⟩ {}).total = ((Named.all : List NodeKind).map (m.census ·)).sum ∧
    (∀ root : Metadata, m.census root.nodeKind = if root.nodeKind = m.nodeKind then 1 else 0) ∧
    ∀ container ∈ m.container?, ∀ counter,
      visitor.visit ⟨pool, c, m⟩ (.root m) counter =
        visitor.visitContainer ⟨pool, c, m⟩ container counter ∧
      visitor.visitContainer ⟨pool, c, m⟩ container counter = counter.add m.nodeKind := by
  have hcount : ∀ k, (visitor.walk ⟨pool, c, m⟩ {}).count k = m.census k := by
    intro k
    have hbody := m.countP_walkBody ⟨pool, c, m⟩ k
    have hall := count_visitAll ⟨pool, c, m⟩ m.walk {} k
    rw [Metadata.walk, countP_isShownAs_cons, hbody] at hall
    have hroot : Dispatch.shownKind ⟨pool, c, m⟩ (.root m) = m.nodeKind := rfl
    rw [hroot] at hall
    exact hall.trans (Nat.zero_add _)
  refine ⟨hcount, ?_, ?_, ?_⟩
  · rw [total, List.sum_eq_foldl, List.foldl_map]
    simp only [hcount]
  · intro root
    rw [Metadata.census, Metadata.censusBelow_nodeKind]
    simp only [NodeKind.among, eq_comm, Nat.add_zero]
  · intro container hcontainer counter
    cases m with
    | syntheticClass s => exact absurd hcontainer nofun
    | multiFileFacade f => exact absurd hcontainer nofun
    | _ =>
      obtain rfl := Option.some.inj hcontainer
      exact ⟨rfl, rfl⟩

/-- A class with a declared and a delegated property, a setter that takes any number of values, a
    flexible supertype whose argument abbreviates an annotated type, and a constructor with a
    version requirement. -/
def nestedClass : Metadata :=
  .classDecl {
    name := "a/A"
    container := {
      properties := [{
        name := "x", type := {}
        setterParameters := [{ index := 0, name := "v", type := {}, varargElement := some {} }] }]
      delegatedProperties := [{ name := "y", type := {} }] }
    supertypes := [{
      arguments := [{ abbreviation := some { annotations := [{ className := "a/Ann" }] } }]
      upperBounds := [{}] }]
    constructors := [{ versionRequirement := some { major := 1, minor := 4, patch := 0 } }] }

theorem NodeCounter.walk_counts_census_of_nested :
    let ctx : Context := ⟨{}, { id := ⟨0⟩, name := "a/A", kind := .program }, nestedClass⟩
    (visitor.walk ctx {}).count .type = 8 ∧ (visitor.walk ctx {}).count .classDecl = 1 ∧
    (visitor.walk ctx {}).total = 15 ∧
    visitor.visit ctx (.root nestedClass) {} =
      visitor.visitContainer ctx (nestedClass.container?.getD {}) {} := by
  have hwalk := NodeCounter.walk_counts_census {} { id := ⟨0⟩, name := "a/A", kind := .program }
    nestedClass
  obtain ⟨hcount, htotal, -, hcontainer⟩ := hwalk
  refine ⟨(hcount .type).trans (by decide), (hcount .classDecl).trans (by decide),
    htotal.trans (by decide), ?_⟩
  exact (hcontainer _ rfl {}).1

end KotlinMetadata
