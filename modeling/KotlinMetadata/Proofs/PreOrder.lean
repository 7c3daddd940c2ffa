import KotlinMetadata.Proofs.NodeFilter

/-! # Walks by groups of children

    A walk is written out node by node, and so are the groups of children that a node has.  Here
    the two are tied together: a walk is the pre-order of a graph by its groups, and every node is
    shown with the owner in whose group it stands.

    - `Dispatch.children`: the children of a node, group by group;
    - `PreOrder`: each node before its children, and these before the nodes that follow;
    - `Dispatch.walk_eq`: a walk of a node shows the node and then walks its children;
    - `PreOrder.iff_walk`: the walk of a graph is its pre-order, and there is no other;
    - `Dispatch.Owns`: what the owner of a node says about its place;
    - `Dispatch.owns_of_mem_children`: the owners of the children of a node tell the truth;
    - `Metadata.walk_preOrder`: both for what a visitor is shown.
-/

namespace KotlinMetadata

/-! ## Children -/

/-- The groups of a container. -/
def ChildGroup.ofContainer : List ChildGroup :=
  [.containerProperties, .containerFunctions, .containerTypeAliases, .containerDelegatedProperties]

/-- The groups of a root, those of its container first. -/
def Metadata.childGroups : Metadata → List ChildGroup
  | .classDecl _ =>
    ChildGroup.ofContainer ++
      [.classSupertypes, .classTypeParameters, .classVersionRequirement, .classConstructors]
  | .fileFacade _ => ChildGroup.ofContainer
  | .syntheticClass _ => [.syntheticClassFunctions]
  | .multiFileFacade _ => []
  | .multiFilePart _ => ChildGroup.ofContainer

namespace Dispatch

/-- The groups of a node, in the order in which a walk goes through them. -/
def childGroups : Dispatch → List ChildGroup
  | .root m => m.childGroups
  | .property _ _ =>
    [.propertyVersionRequirement, .propertyType, .propertySetterParameters, .propertyReceiver,
      .propertyTypeParameters]
  | .function _ _ =>
    [.functionReceiver, .functionTypeParameters, .functionValueParameters, .functionReturnType,
      .functionVersionRequirement]
  | .constructor _ _ => [.constructorValueParameters, .constructorVersionRequirement]
  | .typeAlias _ _ =>
    [.typeAliasTypeParameters, .typeAliasUnderlying, .typeAliasExpanded,
      .typeAliasVersionRequirement, .typeAliasAnnotations]
  | .type _ _ => [.typeArguments, .typeUpperBounds, .typeAbbreviation, .typeAnnotations]
  | .typeParameter _ _ => [.typeParameterUpperBounds, .typeParameterAnnotations]
  | .valueParameter _ _ => [.valueParameterType]
  | .versionRequirement _ _ | .annotationUse _ _ => []

/-- No group of a node is left out, and no other is named. -/
theorem mem_childGroups_iff (g : ChildGroup) (d : Dispatch) :
    g ∈ d.childGroups ↔ (g.of? d).isSome := by
  have hgroups : d.childGroups.contains g = (g.of? d).isSome := by
    cases d with
    | root m => cases m <;> cases g <;> rfl
    | _ => cases g <;> rfl
  rw [← hgroups, List.contains_iff_mem]

/-- The children of a node, group by group. -/
def children (d : Dispatch) : List Dispatch :=
  d.childGroups.flatMap fun g => (g.of? d).getD []

/-- A walk of a node and everything in it. -/
def walk : Dispatch → List Dispatch
  | .root m => m.walk
  | .property owner p => p.walk owner
  | .function owner f => f.walk owner
  | .constructor owner k => k.walk owner
  | .typeAlias owner a => a.walk owner
  | .type owner t => t.walk owner
  | .typeParameter owner p => p.walk owner
  | .valueParameter owner p => p.walk owner
  | .versionRequirement owner r => [.versionRequirement owner r]
  | .annotationUse owner a => [.annotationUse owner a]

end Dispatch

/-! ## The steps of a walk -/

theorem KotlinType.walkList_eq (owner : TypeOwner) (ts : List KotlinType) :
    walkList owner ts = ts.flatMap (·.walk owner) := by
  induction ts with
  | nil => rfl
  | cons t ts ih => rw [walkList, ih, List.flatMap_cons]

theorem KotlinType.walkOption_eq (owner : TypeOwner) (t : Option KotlinType) :
    walkOption owner t = t.toList.flatMap (·.walk owner) := by
  cases t with
  | none => rfl
  | some t => exact (List.append_nil _).symm

/-- A version requirement has no children. -/
theorem flatMap_walk_versions (owner : VersionRequirementOwner) (r : Option VersionRequirement) :
    (versionDispatches owner r).flatMap Dispatch.walk = versionDispatches owner r := by
  cases r <;> rfl

/-- An annotation has no children. -/
theorem flatMap_walk_annotations (owner : AnnotationOwner) (as : List AnnotationUse) :
    (annotationDispatches owner as).flatMap Dispatch.walk = annotationDispatches owner as := by
  rw [annotationDispatches, List.flatMap_map, List.map_eq_flatMap]
  rfl

theorem flatMap_walk_typeParameters (owner : TypeParameterOwner) (ps : List TypeParameter) :
    (typeParameterDispatches owner ps).flatMap Dispatch.walk = ps.flatMap (·.walk owner) :=
  List.flatMap_map ..

theorem flatMap_walk_valueParameters (owner : ValueParameterOwner) (ps : List ValueParameter) :
    (valueParameterDispatches owner ps).flatMap Dispatch.walk = ps.flatMap (·.walk owner) :=
  List.flatMap_map ..

theorem flatMap_walk_types (owner : TypeOwner) (ts : List KotlinType) :
    (ts.map (Dispatch.type owner)).flatMap Dispatch.walk = ts.flatMap (·.walk owner) :=
  List.flatMap_map ..

/-- The declarations in a container are the children of the root that carries it. -/
theorem Container.walk_eq (c : Container) :
    c.walk =
      (ChildGroup.ofContainer.flatMap fun g => (g.ofContainer? c).getD []).flatMap
        Dispatch.walk := by
  simp [Container.walk, ChildGroup.ofContainer, ChildGroup.ofContainer?, List.flatMap_map,
    Dispatch.walk]

/-- Below its root a graph is walked child by child. -/
theorem Metadata.walkBody_eq (m : Metadata) :
    m.walkBody = (Dispatch.root m).children.flatMap Dispatch.walk := by
  cases m with
  | classDecl c =>
    simp [Metadata.walkBody, ClassDecl.walkBody, Container.walk_eq, Dispatch.walk,
      Dispatch.children, Dispatch.childGroups, Metadata.childGroups, ChildGroup.ofContainer,
      ChildGroup.of?, ChildGroup.ofRoot?, ChildGroup.ofClass?, ChildGroup.ofContainer?,
      flatMap_walk_typeParameters, flatMap_walk_versions, KotlinType.walkList_eq,
      List.flatMap_map]
  | fileFacade f => exact f.container.walk_eq
  | syntheticClass s =>
    simp [Metadata.walkBody, Dispatch.walk, Dispatch.children, Dispatch.childGroups,
      Metadata.childGroups, ChildGroup.of?, ChildGroup.ofRoot?, List.flatMap_map]
  | multiFileFacade f => rfl
  | multiFilePart p => exact p.container.walk_eq

namespace Dispatch

/-- The step: a walk of a node shows the node and then walks its children, group by group. -/
theorem walk_eq (d : Dispatch) : d.walk = d :: d.children.flatMap walk := by
  cases d with
  | root m => rw [walk, Metadata.walk, Metadata.walkBody_eq]
  | property owner p =>
    simp [walk, children, childGroups, ChildGroup.of?, ChildGroup.ofProperty?, PropertyDecl.walk,
      flatMap_walk_versions, flatMap_walk_typeParameters, flatMap_walk_valueParameters,
      flatMap_walk_types, KotlinType.walkOption_eq]
  | function owner f =>
    simp [walk, children, childGroups, ChildGroup.of?, ChildGroup.ofFunction?, FunctionDecl.walk,
      flatMap_walk_versions, flatMap_walk_typeParameters, flatMap_walk_valueParameters,
      flatMap_walk_types, KotlinType.walkOption_eq]
  | constructor owner k =>
    simp [walk, children, childGroups, ChildGroup.of?, ChildGroup.ofConstructor?,
      ConstructorDecl.walk, flatMap_walk_versions, flatMap_walk_valueParameters]
  | typeAlias owner a =>
    simp [walk, children, childGroups, ChildGroup.of?, ChildGroup.ofTypeAlias?, TypeAliasDecl.walk,
      flatMap_walk_versions, flatMap_walk_typeParameters, flatMap_walk_annotations]
  | type owner t =>
    cases t
    simp [walk, children, childGroups, ChildGroup.of?, ChildGroup.ofType?, KotlinType.walk,
      flatMap_walk_annotations, flatMap_walk_types, KotlinType.walkOption_eq,
      KotlinType.walkList_eq]
  | typeParameter owner p =>
    simp [walk, children, childGroups, ChildGroup.of?, ChildGroup.ofTypeParameter?,
      TypeParameter.walk, flatMap_walk_annotations, flatMap_walk_types, KotlinType.walkList_eq]
  | valueParameter owner p =>
    simp [walk, children, childGroups, ChildGroup.of?, ChildGroup.ofValueParameter?,
      ValueParameter.walk, flatMap_walk_types, KotlinType.walkOption_eq]
  | versionRequirement owner r => rfl
  | annotationUse owner a => rfl

end Dispatch

/-! ## Pre-order -/

/-- The pre-order of some nodes: each of them before its children, and its children, with all that
    is below them, before the nodes that follow. -/
inductive PreOrder : List Dispatch → List Dispatch → Prop where
  | nil : PreOrder [] []
  | cons {d : Dispatch} {rest below after : List Dispatch} :
    PreOrder d.children below → PreOrder rest after → PreOrder (d :: rest) (d :: below ++ after)

namespace PreOrder

/-- Nodes have no two pre-orders. -/
theorem unique {ds es es' : List Dispatch} (h : PreOrder ds es) (h' : PreOrder ds es') :
    es = es' := by
  induction h generalizing es' with
  | nil =>
    cases h'
    rfl
  | cons _ _ ihbelow ihafter =>
    cases h' with
    | cons hbelow' hafter' => rw [ihbelow hbelow', ihafter hafter']

/-- Walks of some nodes, one after the other, are their pre-order. -/
theorem walks (ds : List Dispatch) : PreOrder ds (ds.flatMap Dispatch.walk) := by
  -- Going down to the children as well as on to the next node leaves less to walk.
  induction hlength : (ds.flatMap Dispatch.walk).length using Nat.strongRecOn
    generalizing ds with
  | ind n ih =>
    cases ds with
    | nil => exact .nil
    | cons d rest =>
      rw [List.flatMap_cons, Dispatch.walk_eq] at hlength ⊢
      rw [List.cons_append, List.length_cons, List.length_append] at hlength
      exact .cons (ih _ (by omega) d.children rfl) (ih _ (by omega) rest rfl)

/-- The walk of a graph is its pre-order, and there is no other. -/
theorem iff_walk (m : Metadata) (es : List Dispatch) : PreOrder [.root m] es ↔ es = m.walk := by
  have hwalk : PreOrder [.root m] m.walk := by
    have hwalks := walks [.root m]
    rw [List.flatMap_singleton] at hwalks
    exact hwalks
  constructor
  · intro h
    exact h.unique hwalk
  · rintro rfl
    exact hwalk

/-- Every node in a pre-order is one of the first nodes or a child of another one in it. -/
theorem mem_cases {ds es : List Dispatch} (h : PreOrder ds es) {e : Dispatch} (he : e ∈ es) :
    e ∈ ds ∨ ∃ parent ∈ es, e ∈ parent.children := by
  induction h with
  | nil => exact absurd he List.not_mem_nil
  | @cons d rest below after _ _ ihbelow ihafter =>
    rw [List.cons_append, List.mem_cons, List.mem_append] at he
    rcases he with rfl | hbelow | hafter
    · exact .inl List.mem_cons_self
    · right
      rcases ihbelow hbelow with hchild | ⟨parent, hparent, hchild⟩
      · exact ⟨d, List.mem_cons_self, hchild⟩
      · exact ⟨parent, List.mem_cons_of_mem d (List.mem_append_left after hparent), hchild⟩
    · rcases ihafter hafter with hrest | ⟨parent, hparent, hchild⟩
      · exact .inl (List.mem_cons_of_mem d hrest)
      · exact .inr ⟨parent, List.mem_cons_of_mem d (List.mem_append_right below hparent), hchild⟩

end PreOrder

/-! ## Owners -/

namespace Dispatch

/-- The node is a root that carries the container. -/
def Carries (parent : Dispatch) (c : Container) : Prop :=
  ∃ m : Metadata, parent = .root m ∧ m.container? = some c

/-- The owner of a node is the parent, and the node stands where its owner says.  The owner of a
    value parameter of a constructor is the constructor together with its class. -/
def Owns (parent : Dispatch) : Dispatch → Prop
  | .root _ => False
  | .property (.declared c) p => parent.Carries c ∧ p ∈ c.properties
  | .property (.delegated c) p => parent.Carries c ∧ p ∈ c.delegatedProperties
  | .function (.container c) f => parent.Carries c ∧ f ∈ c.functions
  | .function (.syntheticClass s) f => parent.node = .root (.syntheticClass s) ∧ f ∈ s.functions
  | .constructor c k => parent.node = .root (.classDecl c) ∧ k ∈ c.constructors
  | .typeAlias c a => parent.Carries c ∧ a ∈ c.typeAliases
  | .type (.supertype c) t => parent.node = .root (.classDecl c) ∧ t ∈ c.supertypes
  | .type (.propertyType p) t => parent.node = .property p ∧ t = p.type
  | .type (.propertyReceiver p) t => parent.node = .property p ∧ t ∈ p.receiver
  | .type (.functionReturn f) t => parent.node = .function f ∧ t = f.returnType
  | .type (.functionReceiver f) t => parent.node = .function f ∧ t ∈ f.receiver
  | .type (.valueParameterType p) t => parent.node = .valueParameter p ∧ t = p.type
  | .type (.varargElement p) t => parent.node = .valueParameter p ∧ t ∈ p.varargElement
  | .type (.parameterBound p) t => parent.node = .typeParameter p ∧ t ∈ p.upperBounds
  | .type (.underlying a) t => parent.node = .typeAlias a ∧ t = a.underlying
  | .type (.expanded a) t => parent.node = .typeAlias a ∧ t = a.expanded
  | .type (.typeArgument u) t => parent.node = .type u ∧ t ∈ u.arguments
  | .type (.flexibleBound u) t => parent.node = .type u ∧ t ∈ u.upperBounds
  | .type (.abbreviation u) t => parent.node = .type u ∧ t ∈ u.abbreviation
  | .typeParameter (.classDecl c) q => parent.node = .root (.classDecl c) ∧ q ∈ c.typeParameters
  | .typeParameter (.function f) q => parent.node = .function f ∧ q ∈ f.typeParameters
  | .typeParameter (.property p) q => parent.node = .property p ∧ q ∈ p.typeParameters
  | .typeParameter (.typeAlias a) q => parent.node = .typeAlias a ∧ q ∈ a.typeParameters
  | .valueParameter (.function f) q => parent.node = .function f ∧ q ∈ f.valueParameters
  | .valueParameter (.constructor c k) q => parent = .constructor c k ∧ q ∈ k.valueParameters
  | .valueParameter (.propertySetter p) q => parent.node = .property p ∧ q ∈ p.setterParameters
  | .versionRequirement (.classDecl c) r =>
    parent.node = .root (.classDecl c) ∧ r ∈ c.versionRequirement
  | .versionRequirement (.constructor k) r =>
    parent.node = .constructor k ∧ r ∈ k.versionRequirement
  | .versionRequirement (.function f) r => parent.node = .function f ∧ r ∈ f.versionRequirement
  | .versionRequirement (.property p) r => parent.node = .property p ∧ r ∈ p.versionRequirement
  | .versionRequirement (.typeAlias a) r => parent.node = .typeAlias a ∧ r ∈ a.versionRequirement
  | .annotationUse (.type t) a => parent.node = .type t ∧ a ∈ t.annotations
  | .annotationUse (.typeParameter p) a => parent.node = .typeParameter p ∧ a ∈ p.annotations
  | .annotationUse (.typeAlias al) a => parent.node = .typeAlias al ∧ a ∈ al.annotations

/-- What is in a group of a root is its own, or that of the container it carries. -/
theorem owns_of_rootGroup {m : Metadata} {g : ChildGroup} {ds : List Dispatch}
    (hg : g.of? (.root m) = some ds) : ∀ d ∈ ds, (root m).Owns d := by
  have hcarries : ∀ c, m.container? = some c → (root m).Carries c := fun c hc => ⟨m, rfl, hc⟩
  cases m with
  | classDecl c =>
    have hc := hcarries c.container rfl
    cases g <;> cases hg <;>
      simp [Owns, node, versionDispatches, typeParameterDispatches, hc]
  | fileFacade f =>
    have hc := hcarries f.container rfl
    cases g <;> cases hg <;> simp [Owns, hc]
  | syntheticClass s =>
    cases g <;> cases hg
    simp [Owns, node]
  | multiFileFacade f => cases hg
  | multiFilePart p =>
    have hc := hcarries p.container rfl
    cases g <;> cases hg <;> simp [Owns, hc]

/-- A node owns what is in its groups. -/
theorem owns_of_group {parent : Dispatch} {g : ChildGroup} {ds : List Dispatch}
    (hg : g.of? parent = some ds) : ∀ d ∈ ds, parent.Owns d := by
  -- Nodes of other kinds do not have the group, and of those that have it the group is known.
  cases parent with
  | root m => exact owns_of_rootGroup hg
  | property owner p =>
    cases g <;> cases hg <;>
      simp [Owns, node, versionDispatches, typeParameterDispatches, valueParameterDispatches]
  | function owner f =>
    cases g <;> cases hg <;>
      simp [Owns, node, versionDispatches, typeParameterDispatches, valueParameterDispatches]
  | constructor owner k =>
    cases g <;> cases hg <;> simp [Owns, node, versionDispatches, valueParameterDispatches]
  | typeAlias owner a =>
    cases g <;> cases hg <;>
      simp [Owns, node, versionDispatches, typeParameterDispatches, annotationDispatches]
  | type owner t => cases g <;> cases hg <;> simp [Owns, node, annotationDispatches]
  | typeParameter owner p => cases g <;> cases hg <;> simp [Owns, node, annotationDispatches]
  | valueParameter owner p =>
    cases g <;> cases hg
    simp [Owns, node]
  | versionRequirement owner r => cases hg
  | annotationUse owner a => cases hg

/-- A node owns its children. -/
theorem owns_of_mem_children {parent d : Dispatch} (h : d ∈ parent.children) : parent.Owns d := by
  obtain ⟨g, -, hd⟩ := List.mem_flatMap.mp h
  cases hg : g.of? parent with
  | none =>
    rw [hg] at hd
    exact absurd hd List.not_mem_nil
  | some ds =>
    rw [hg] at hd
    exact owns_of_group hg d hd

end Dispatch

/-! ## Whole graphs -/

/-- **Walks by groups**: a visitor with all handlers is shown the pre-order of the graph by its
    groups of children, each node by the handler for its kind, as it is shown a single group.  No
    group of a node is left out.  Every node but the root is a child of another one that is shown,
    with that one as its owner and in the place that the owner says. -/
theorem Metadata.walk_preOrder (ctx : Context) :
    (∀ {ε : Type} (any : Context → Node → ε) (note : NodeKind → Context → Dispatch → ε),
      let shown := fun d : Dispatch => note d.kind ctx d
      let v := Recording.visitor { any, handler := fun kind => some (note kind) }
      v.walk ctx [] = ctx.metadata.walk.map shown ∧
      ∀ (g : ChildGroup) (parent : Dispatch),
        v.visitAll ctx ((g.of? parent).getD []) [] = ((g.of? parent).getD []).map shown) ∧
    (∀ es, PreOrder [.root ctx.metadata] es ↔ es = ctx.metadata.walk) ∧
    (∀ (g : ChildGroup) (parent : Dispatch), g ∈ parent.childGroups ↔ (g.of? parent).isSome) ∧
    ∀ d ∈ ctx.metadata.walk, d = .root ctx.metadata ∨
      ∃ parent ∈ ctx.metadata.walk, d ∈ parent.children ∧ parent.Owns d := by
  refine ⟨fun {ε} any note => ?_, PreOrder.iff_walk ctx.metadata, Dispatch.mem_childGroups_iff, ?_⟩
  · have hshown := Recording.visitAll_visitor { any, handler := fun kind => some (note kind) } ctx
    exact ⟨hshown ctx.metadata.walk [], fun g parent => hshown ((g.of? parent).getD []) []⟩
  · intro d hd
    have hwalk := (PreOrder.iff_walk ctx.metadata _).mpr rfl
    rcases hwalk.mem_cases hd with hroot | ⟨parent, hparent, hchild⟩
    · exact .inl (List.mem_singleton.mp hroot)
    · exact .inr ⟨parent, hparent, hchild, Dispatch.owns_of_mem_children hchild⟩

/-- The graph with an annotated argument once more: the argument belongs to the type around it and
    the annotation to the argument. -/
theorem Metadata.walk_preOrder_of_annotatedArgument :
    let ctx : Context := ⟨{}, { id := ⟨0⟩, name := "a/AKt", kind := .program }, annotatedArgument⟩
    let argument : KotlinType := { annotations := [{ className := "a/Ann" }] }
    let property : PropertyDecl := { name := "x", type := { arguments := [argument] } }
    let d : Dispatch := .type (.typeArgument property.type) argument
    PreOrder [.root annotatedArgument]
      [.root annotatedArgument, .property (.declared { properties := [property] }) property,
        .type (.propertyType property) property.type, d,
        .annotationUse (.type argument) { className := "a/Ann" }] ∧
    d ∈ ctx.metadata.walk ∧ ∃ parent ∈ ctx.metadata.walk, parent.Owns d := by
  intro ctx argument property d
  obtain ⟨-, hpreOrder, -, howner⟩ := Metadata.walk_preOrder ctx
  have hd : d ∈ ctx.metadata.walk := by decide
  refine ⟨(hpreOrder _).mpr (by decide), hd, ?_⟩
  rcases howner d hd with hroot | ⟨parent, hparent, -, howns⟩
  · exact absurd hroot nofun
  · exact ⟨parent, hparent, howns⟩

end KotlinMetadata
