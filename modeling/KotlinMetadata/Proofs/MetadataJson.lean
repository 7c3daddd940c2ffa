import KotlinMetadata.Model.Metadata
import KotlinMetadata.Proofs.JsonRecord
import KotlinMetadata.Proofs.JsonText

/-! # Metadata in JSON reads back

    Every record of the metadata reads back what it was written from, from the flags up to the
    roots, whatever is nested in it.

    - `*.readsBack`: one lemma for each record, assembled from those of its fields;
    - `KotlinType.readsBack`: for types, by an induction over the type;
    - `Metadata.ofText?_text`: a text is read as the root it was written for exactly if it does
      not nest too deep;
    - `Metadata.eq_of_text_eq`: no two roots are written alike.

    A synthetic class is left out: its record has a field `kind` beside the kind of the root, and
    a text with two of them is refused.
-/

namespace KotlinMetadata

open Json (ReadsBack)

/-! ## Flags -/

theorem CommonFlags.readsBack (hasAnnotations : Bool) :
    ReadsBack CommonFlags.toJson CommonFlags.ofJson? hasAnnotations := by
  have hbit := (Json.readsBack_bool hasAnnotations).required
  refine ReadsBack.of_record rfl (by decide) rfl ?_ ?_
  · simp [hbit.representable]
  · intro levels hfields hwithin
    obtain ⟨h, -⟩ := List.forall_mem_cons.mp hwithin
    rw [CommonFlags.ofJson?, hfields]
    exact hbit.reads _ h

/-- A bundle of flags: the shared bit in a record of its own, then the others. -/
theorem Json.ReadsBack.of_bundle {α : Type} {write : α → Json}
    {read : Nat → Json → Option α} {a : α} {names : List String} (hasAnnotations : Bool)
    (bits : List Bool)
    (hwrite : write a = .record names
      (some (CommonFlags.toJson hasAnnotations) :: bits.map fun b => some (.bool b)))
    (hnodup : names.Nodup) (hlength : bits.length + 1 = names.length)
    (hreads : ∀ levels, (write a).fields levels names =
        some (some (CommonFlags.toJson hasAnnotations) :: bits.map fun b => some (.bool b)) →
      CommonFlags.ofJson? (levels - 1) (CommonFlags.toJson hasAnnotations) = some hasAnnotations →
      read levels (write a) = some a) :
    ReadsBack write read a := by
  have hcommon := (CommonFlags.readsBack hasAnnotations).required
  refine Json.ReadsBack.of_record hwrite hnodup (by simpa using hlength) ?_ ?_
  · refine List.forall_mem_cons.mpr ⟨hcommon.representable, ?_⟩
    intro slot hslot
    obtain ⟨b, -, rfl⟩ := List.mem_map.mp hslot
    exact (Json.readsBack_bool b).required.representable
  · intro levels hfields hwithin
    obtain ⟨h, -⟩ := List.forall_mem_cons.mp hwithin
    rw [← hwrite] at hfields ⊢
    exact hreads levels hfields (hcommon.reads _ h)

theorem ClassFlags.readsBack (f : ClassFlags) : ReadsBack toJson ofJson? f := by
  refine ReadsBack.of_bundle f.hasAnnotations
    [f.isAnnotationClass, f.isInterface, f.isEnumClass, f.isCompanionObject, f.isData]
    rfl (by decide) rfl fun levels hfields hcommon => ?_
  unfold ofJson?
  refine Json.bind_of_eq_some hfields ?_
  exact Json.bind_of_eq_some hcommon rfl

theorem ConstructorFlags.readsBack (f : ConstructorFlags) : ReadsBack toJson ofJson? f := by
  refine ReadsBack.of_bundle f.hasAnnotations
    [f.isPrimary] rfl (by decide) rfl fun levels hfields hcommon => ?_
  unfold ofJson?
  refine Json.bind_of_eq_some hfields ?_
  exact Json.bind_of_eq_some hcommon rfl

theorem FunctionFlags.readsBack (f : FunctionFlags) : ReadsBack toJson ofJson? f := by
  refine ReadsBack.of_bundle f.hasAnnotations
    [f.isSuspend, f.isInline, f.isOperator] rfl (by decide) rfl fun levels hfields hcommon => ?_
  unfold ofJson?
  refine Json.bind_of_eq_some hfields ?_
  exact Json.bind_of_eq_some hcommon rfl

theorem PropertyFlags.readsBack (f : PropertyFlags) : ReadsBack toJson ofJson? f := by
  refine ReadsBack.of_bundle f.hasAnnotations
    [f.isVar, f.hasGetter, f.hasSetter, f.isConst, f.isDelegated]
    rfl (by decide) rfl fun levels hfields hcommon => ?_
  unfold ofJson?
  refine Json.bind_of_eq_some hfields ?_
  exact Json.bind_of_eq_some hcommon rfl

theorem AccessorFlags.readsBack (f : AccessorFlags) : ReadsBack toJson ofJson? f := by
  refine ReadsBack.of_bundle f.hasAnnotations
    [f.isDefault, f.isExternal, f.isInline] rfl (by decide) rfl fun levels hfields hcommon => ?_
  unfold ofJson?
  refine Json.bind_of_eq_some hfields ?_
  exact Json.bind_of_eq_some hcommon rfl

theorem TypeFlags.readsBack (f : TypeFlags) : ReadsBack toJson ofJson? f := by
  refine ReadsBack.of_bundle f.hasAnnotations
    [f.isNullable, f.isSuspend] rfl (by decide) rfl fun levels hfields hcommon => ?_
  unfold ofJson?
  refine Json.bind_of_eq_some hfields ?_
  exact Json.bind_of_eq_some hcommon rfl

theorem TypeParameterFlags.readsBack (f : TypeParameterFlags) : ReadsBack toJson ofJson? f := by
  refine ReadsBack.of_bundle f.hasAnnotations
    [f.isReified] rfl (by decide) rfl fun levels hfields hcommon => ?_
  unfold ofJson?
  refine Json.bind_of_eq_some hfields ?_
  exact Json.bind_of_eq_some hcommon rfl

theorem TypeAliasFlags.readsBack (f : TypeAliasFlags) : ReadsBack toJson ofJson? f := by
  refine ReadsBack.of_bundle f.hasAnnotations
    [] rfl (by decide) rfl fun levels hfields hcommon => ?_
  unfold ofJson?
  refine Json.bind_of_eq_some hfields ?_
  exact Json.bind_of_eq_some hcommon rfl

theorem ValueParameterFlags.readsBack (f : ValueParameterFlags) : ReadsBack toJson ofJson? f := by
  refine ReadsBack.of_bundle f.hasAnnotations
    [f.declaresDefaultValue, f.isCrossinline, f.isNoinline]
    rfl (by decide) rfl fun levels hfields hcommon => ?_
  unfold ofJson?
  refine Json.bind_of_eq_some hfields ?_
  exact Json.bind_of_eq_some hcommon rfl

/-! ## Leaves

    A record is put together in the same way each time: the slots of its fields read back one by
    one, so its text can be read, and reading goes on from field to field with what it finds. -/

theorem ClassId.readsBack (id : ClassId) : ReadsBack toJson (fun _ => ofJson?) id :=
  (Json.readsBack_uint32 id.number).map rfl

theorem MemberId.readsBack (id : MemberId) : ReadsBack toJson (fun _ => ofJson?) id :=
  (Json.readsBack_uint32 id.number).map rfl

theorem MemberRef.readsBack (ref : MemberRef) : ReadsBack toJson ofJson? ref := by
  have howner := ref.owner.readsBack.required
  have hmember := ref.member.readsBack.required
  refine ReadsBack.of_record rfl (by decide) rfl ?_ ?_
  · simp [howner.representable, hmember.representable]
  · intro levels hfields hwithin
    simp only [List.forall_mem_cons] at hwithin
    obtain ⟨h1, h2, -⟩ := hwithin
    unfold ofJson?
    refine Json.bind_of_eq_some hfields ?_
    refine Json.bind_of_eq_some (howner.reads _ h1) ?_
    refine Json.bind_of_eq_some (hmember.reads _ h2) ?_
    rfl

theorem Signature.readsBack (s : Signature) : ReadsBack toJson ofJson? s := by
  have hname := (Json.readsBack_text s.name).required
  have hdescriptor := (Json.readsBack_text s.descriptor).required
  refine ReadsBack.of_record rfl (by decide) rfl ?_ ?_
  · simp [hname.representable, hdescriptor.representable]
  · intro levels hfields hwithin
    simp only [List.forall_mem_cons] at hwithin
    obtain ⟨h1, h2, -⟩ := hwithin
    unfold ofJson?
    refine Json.bind_of_eq_some hfields ?_
    refine Json.bind_of_eq_some (hname.reads _ h1) ?_
    refine Json.bind_of_eq_some (hdescriptor.reads _ h2) ?_
    rfl

theorem ClassRef.readsBack (r : ClassRef) : ReadsBack toJson ofJson? r := by
  have hname := (Json.readsBack_text r.name).required
  have htarget := ReadsBack.optional fun id (_ : id ∈ r.target) => id.readsBack
  refine ReadsBack.of_record rfl (by decide) rfl ?_ ?_
  · simp [hname.representable, htarget.representable]
  · intro levels hfields hwithin
    simp only [List.forall_mem_cons] at hwithin
    obtain ⟨h1, h2, -⟩ := hwithin
    unfold ofJson?
    refine Json.bind_of_eq_some hfields ?_
    refine Json.bind_of_eq_some (hname.reads _ h1) ?_
    refine Json.bind_of_eq_some (htarget.reads _ h2) ?_
    rfl

theorem AnnotationUse.readsBack (a : AnnotationUse) : ReadsBack toJson ofJson? a := by
  have hname := (Json.readsBack_text a.className).required
  have htarget := ReadsBack.optional fun id (_ : id ∈ a.target) => id.readsBack
  refine ReadsBack.of_record rfl (by decide) rfl ?_ ?_
  · simp [hname.representable, htarget.representable]
  · intro levels hfields hwithin
    simp only [List.forall_mem_cons] at hwithin
    obtain ⟨h1, h2, -⟩ := hwithin
    unfold ofJson?
    refine Json.bind_of_eq_some hfields ?_
    refine Json.bind_of_eq_some (hname.reads _ h1) ?_
    refine Json.bind_of_eq_some (htarget.reads _ h2) ?_
    rfl

theorem RequirementLevel.ofName?_name (level : RequirementLevel) :
    Named.ofName? (Named.name level) = some level := by
  cases level <;> decide

theorem Variance.ofName?_name (variance : Variance) :
    Named.ofName? (Named.name variance) = some variance := by
  cases variance <;> decide

theorem MetadataKind.ofName?_name (kind : MetadataKind) :
    Named.ofName? (Named.name kind) = some kind := by
  cases kind <;> decide

theorem VersionRequirement.readsBack (source : Json.Source) (r : VersionRequirement) :
    ReadsBack toJson (ofJson? source) r := by
  have hmajor := (Json.readsBack_uint32 r.major).required
  have hminor := (Json.readsBack_uint32 r.minor).required
  have hpatch := (Json.readsBack_uint32 r.patch).required
  have hlevel := (Json.readsBack_named source r.level.ofName?_name).defaulted .error
  have hmessage := ReadsBack.optional fun s (_ : s ∈ r.message) => Json.readsBack_text s
  refine ReadsBack.of_record rfl (by decide) rfl ?_ ?_
  · simp [hmajor.representable, hminor.representable, hpatch.representable, hlevel.representable,
      hmessage.representable]
  · intro levels hfields hwithin
    simp only [List.forall_mem_cons] at hwithin
    obtain ⟨h1, h2, h3, h4, h5, -⟩ := hwithin
    unfold ofJson?
    refine Json.bind_of_eq_some hfields ?_
    refine Json.bind_of_eq_some (hmajor.reads _ h1) ?_
    refine Json.bind_of_eq_some (hminor.reads _ h2) ?_
    refine Json.bind_of_eq_some (hpatch.reads _ h3) ?_
    refine Json.bind_of_eq_some (hlevel.reads _ h4) ?_
    refine Json.bind_of_eq_some (hmessage.reads _ h5) ?_
    rfl

/-! ## Types -/

namespace KotlinType

theorem slotOfList_eq (ts : List KotlinType) : slotOfList ts = Json.listSlot toJson ts := by
  have hitems : ∀ us : List KotlinType, itemsOfList us = us.map toJson := by
    intro us
    induction us with
    | nil => rfl
    | cons u us ih => rw [itemsOfList, ih, List.map_cons]
  cases ts with
  | nil => rfl
  | cons t ts =>
    rw [slotOfList, hitems]
    rfl

theorem slotOfOption_eq (t : Option KotlinType) : slotOfOption t = t.map toJson := by
  cases t <;> rfl

/-- Reading a type with a level left for it, the lists in it as any other list. -/
theorem ofJson?_succ (source : Json.Source) (inner : Nat) (j : Json) :
    ofJson? source (inner + 1) j = (do
      let [flags, className, target, parameterId, aliasName, variance, arguments, upperBounds,
        abbreviation, annotations] ← j.fields (inner + 1) keys | none
      let flags ← Json.required (TypeFlags.ofJson? inner) flags
      let className ← Json.optional Json.readText className
      let target ← Json.optional ClassId.ofJson? target
      let parameterId ← Json.optional Json.readUInt32 parameterId
      let aliasName ← Json.optional Json.readText aliasName
      let variance ← Json.defaulted .invariant (Json.readNamed source inner) variance
      let arguments ← Json.defaulted [] (Json.readItems inner (ofJson? source)) arguments
      let upperBounds ← Json.defaulted [] (Json.readItems inner (ofJson? source)) upperBounds
      let abbreviation ← Json.optional (ofJson? source inner) abbreviation
      let annotations ← Json.defaulted [] (Json.readItems inner AnnotationUse.ofJson?) annotations
      return {
        flags, className, target, parameterId, aliasName, variance, arguments, upperBounds,
        abbreviation, annotations }) := by
  cases inner with
  | zero =>
    -- No level is left for a list, so that both sides refuse any.
    have hnone : Json.readItems 0 (ofJson? source) = fun _ => none := by
      funext j
      cases j <;> rfl
    rw [hnone]
    rfl
  | succ innermost => rfl

/-- A type reads back if the types in it do. -/
theorem readsBack_of_nested (source : Json.Source) (t : KotlinType)
    (harguments : ∀ u ∈ t.arguments, ReadsBack toJson (ofJson? source) u)
    (hupperBounds : ∀ u ∈ t.upperBounds, ReadsBack toJson (ofJson? source) u)
    (habbreviation : ∀ u ∈ t.abbreviation, ReadsBack toJson (ofJson? source) u) :
    ReadsBack toJson (ofJson? source) t := by
  obtain ⟨flags, className, target, parameterId, aliasName, variance, arguments, upperBounds,
    abbreviation, annotations⟩ := t
  have hflags := flags.readsBack.required
  have hclassName := ReadsBack.optional fun s (_ : s ∈ className) => Json.readsBack_text s
  have htarget := ReadsBack.optional fun id (_ : id ∈ target) => id.readsBack
  have hparameterId := ReadsBack.optional fun n (_ : n ∈ parameterId) => Json.readsBack_uint32 n
  have haliasName := ReadsBack.optional fun s (_ : s ∈ aliasName) => Json.readsBack_text s
  have hvariance := (Json.readsBack_named source variance.ofName?_name).defaulted .invariant
  have harguments := ReadsBack.items harguments
  have hupperBounds := ReadsBack.items hupperBounds
  have habbreviation := ReadsBack.optional habbreviation
  have hannotations := ReadsBack.items fun a (_ : a ∈ annotations) => a.readsBack
  refine ReadsBack.of_record rfl (by decide) rfl ?_ ?_
  · simp [slotOfList_eq, slotOfOption_eq, hflags.representable, hclassName.representable,
      htarget.representable, hparameterId.representable, haliasName.representable,
      hvariance.representable, harguments.representable, hupperBounds.representable,
      habbreviation.representable, hannotations.representable]
  · intro levels hfields hwithin
    cases levels with
    | zero => exact absurd hfields nofun
    | succ inner =>
      simp only [List.forall_mem_cons, slotOfList_eq, slotOfOption_eq, Nat.add_sub_cancel]
        at hwithin hfields ⊢
      obtain ⟨h1, h2, h3, h4, h5, h6, h7, h8, h9, h10, -⟩ := hwithin
      rw [ofJson?_succ]
      refine Json.bind_of_eq_some hfields ?_
      refine Json.bind_of_eq_some (hflags.reads _ h1) ?_
      refine Json.bind_of_eq_some (hclassName.reads _ h2) ?_
      refine Json.bind_of_eq_some (htarget.reads _ h3) ?_
      refine Json.bind_of_eq_some (hparameterId.reads _ h4) ?_
      refine Json.bind_of_eq_some (haliasName.reads _ h5) ?_
      refine Json.bind_of_eq_some (hvariance.reads _ h6) ?_
      refine Json.bind_of_eq_some (harguments.reads _ h7) ?_
      refine Json.bind_of_eq_some (hupperBounds.reads _ h8) ?_
      refine Json.bind_of_eq_some (habbreviation.reads _ h9) ?_
      refine Json.bind_of_eq_some (hannotations.reads _ h10) ?_
      rfl

mutual

theorem readsBack (source : Json.Source) (t : KotlinType) :
    ReadsBack toJson (ofJson? source) t := by
  match t with
  | ⟨_, _, _, _, _, _, arguments, upperBounds, abbreviation, _⟩ =>
    exact readsBack_of_nested source _ (readsBack_list source arguments)
      (readsBack_list source upperBounds) (readsBack_option source abbreviation)

theorem readsBack_list (source : Json.Source) (ts : List KotlinType) :
    ∀ t ∈ ts, ReadsBack toJson (ofJson? source) t := by
  match ts with
  | [] => exact nofun
  | t :: ts =>
    exact List.forall_mem_cons.mpr ⟨readsBack source t, readsBack_list source ts⟩

theorem readsBack_option (source : Json.Source) (t : Option KotlinType) :
    ∀ u ∈ t, ReadsBack toJson (ofJson? source) u := by
  match t with
  | none => exact nofun
  | some t =>
    rintro _ ⟨⟩
    exact readsBack source t

end

end KotlinType

theorem TypeParameter.readsBack (source : Json.Source) (p : TypeParameter) :
    ReadsBack toJson (ofJson? source) p := by
  have hflags := p.flags.readsBack.required
  have hname := (Json.readsBack_text p.name).required
  have hid := (Json.readsBack_uint32 p.id).required
  have hvariance := (Json.readsBack_named source p.variance.ofName?_name).defaulted .invariant
  have hupperBounds := ReadsBack.items fun t (_ : t ∈ p.upperBounds) => t.readsBack source
  have hannotations := ReadsBack.items fun a (_ : a ∈ p.annotations) => a.readsBack
  refine ReadsBack.of_record rfl (by decide) rfl ?_ ?_
  · simp [hflags.representable, hname.representable, hid.representable, hvariance.representable,
      hupperBounds.representable, hannotations.representable]
  · intro levels hfields hwithin
    simp only [List.forall_mem_cons] at hwithin
    obtain ⟨h1, h2, h3, h4, h5, h6, -⟩ := hwithin
    unfold ofJson?
    refine Json.bind_of_eq_some hfields ?_
    refine Json.bind_of_eq_some (hflags.reads _ h1) ?_
    refine Json.bind_of_eq_some (hname.reads _ h2) ?_
    refine Json.bind_of_eq_some (hid.reads _ h3) ?_
    refine Json.bind_of_eq_some (hvariance.reads _ h4) ?_
    refine Json.bind_of_eq_some (hupperBounds.reads _ h5) ?_
    refine Json.bind_of_eq_some (hannotations.reads _ h6) ?_
    rfl

/-! ## Declarations -/

theorem ValueParameter.readsBack (source : Json.Source) (p : ValueParameter) :
    ReadsBack toJson (ofJson? source) p := by
  have hflags := p.flags.readsBack.required
  have hindex := (Json.readsBack_uint64 p.index).required
  have hname := (Json.readsBack_text p.name).required
  have htype := (p.type.readsBack source).required
  have hvarargElement := ReadsBack.optional fun t (_ : t ∈ p.varargElement) => t.readsBack source
  refine ReadsBack.of_record rfl (by decide) rfl ?_ ?_
  · simp [hflags.representable, hindex.representable, hname.representable, htype.representable,
      hvarargElement.representable]
  · intro levels hfields hwithin
    simp only [List.forall_mem_cons] at hwithin
    obtain ⟨h1, h2, h3, h4, h5, -⟩ := hwithin
    unfold ofJson?
    refine Json.bind_of_eq_some hfields ?_
    refine Json.bind_of_eq_some (hflags.reads _ h1) ?_
    refine Json.bind_of_eq_some (hindex.reads _ h2) ?_
    refine Json.bind_of_eq_some (hname.reads _ h3) ?_
    refine Json.bind_of_eq_some (htype.reads _ h4) ?_
    refine Json.bind_of_eq_some (hvarargElement.reads _ h5) ?_
    rfl

theorem FunctionDecl.readsBack (source : Json.Source) (f : FunctionDecl) :
    ReadsBack toJson (ofJson? source) f := by
  have hflags := f.flags.readsBack.required
  have hname := (Json.readsBack_text f.name).required
  have hsignature := ReadsBack.optional fun s (_ : s ∈ f.signature) => s.readsBack
  have hmethod := ReadsBack.optional fun r (_ : r ∈ f.method) => r.readsBack
  have hreceiver := ReadsBack.optional fun t (_ : t ∈ f.receiver) => t.readsBack source
  have htypeParameters := ReadsBack.items fun p (_ : p ∈ f.typeParameters) => p.readsBack source
  have hvalueParameters := ReadsBack.items fun p (_ : p ∈ f.valueParameters) => p.readsBack source
  have hreturnType := (f.returnType.readsBack source).required
  have hversion := ReadsBack.optional fun r (_ : r ∈ f.versionRequirement) => r.readsBack source
  refine ReadsBack.of_record rfl (by decide) rfl ?_ ?_
  · simp [hflags.representable, hname.representable, hsignature.representable,
      hmethod.representable, hreceiver.representable, htypeParameters.representable,
      hvalueParameters.representable, hreturnType.representable, hversion.representable]
  · intro levels hfields hwithin
    simp only [List.forall_mem_cons] at hwithin
    obtain ⟨h1, h2, h3, h4, h5, h6, h7, h8, h9, -⟩ := hwithin
    unfold ofJson?
    refine Json.bind_of_eq_some hfields ?_
    refine Json.bind_of_eq_some (hflags.reads _ h1) ?_
    refine Json.bind_of_eq_some (hname.reads _ h2) ?_
    refine Json.bind_of_eq_some (hsignature.reads _ h3) ?_
    refine Json.bind_of_eq_some (hmethod.reads _ h4) ?_
    refine Json.bind_of_eq_some (hreceiver.reads _ h5) ?_
    refine Json.bind_of_eq_some (htypeParameters.reads _ h6) ?_
    refine Json.bind_of_eq_some (hvalueParameters.reads _ h7) ?_
    refine Json.bind_of_eq_some (hreturnType.reads _ h8) ?_
    refine Json.bind_of_eq_some (hversion.reads _ h9) ?_
    rfl

theorem ConstructorDecl.readsBack (source : Json.Source) (k : ConstructorDecl) :
    ReadsBack toJson (ofJson? source) k := by
  have hflags := k.flags.readsBack.required
  have hsignature := ReadsBack.optional fun s (_ : s ∈ k.signature) => s.readsBack
  have hmethod := ReadsBack.optional fun r (_ : r ∈ k.method) => r.readsBack
  have hvalueParameters := ReadsBack.items fun p (_ : p ∈ k.valueParameters) => p.readsBack source
  have hversion := ReadsBack.optional fun r (_ : r ∈ k.versionRequirement) => r.readsBack source
  refine ReadsBack.of_record rfl (by decide) rfl ?_ ?_
  · simp [hflags.representable, hsignature.representable, hmethod.representable,
      hvalueParameters.representable, hversion.representable]
  · intro levels hfields hwithin
    simp only [List.forall_mem_cons] at hwithin
    obtain ⟨h1, h2, h3, h4, h5, -⟩ := hwithin
    unfold ofJson?
    refine Json.bind_of_eq_some hfields ?_
    refine Json.bind_of_eq_some (hflags.reads _ h1) ?_
    refine Json.bind_of_eq_some (hsignature.reads _ h2) ?_
    refine Json.bind_of_eq_some (hmethod.reads _ h3) ?_
    refine Json.bind_of_eq_some (hvalueParameters.reads _ h4) ?_
    refine Json.bind_of_eq_some (hversion.reads _ h5) ?_
    rfl

theorem PropertyDecl.readsBack (source : Json.Source) (p : PropertyDecl) :
    ReadsBack toJson (ofJson? source) p := by
  have hflags := p.flags.readsBack.required
  have hgetterFlags := p.getterFlags.readsBack.defaulted {}
  have hsetterFlags := p.setterFlags.readsBack.defaulted {}
  have hname := (Json.readsBack_text p.name).required
  have hfieldSignature := ReadsBack.optional fun s (_ : s ∈ p.fieldSignature) => s.readsBack
  have hbackingField := ReadsBack.optional fun r (_ : r ∈ p.backingField) => r.readsBack
  have hgetterSignature := ReadsBack.optional fun s (_ : s ∈ p.getterSignature) => s.readsBack
  have hgetter := ReadsBack.optional fun r (_ : r ∈ p.getter) => r.readsBack
  have hsetterSignature := ReadsBack.optional fun s (_ : s ∈ p.setterSignature) => s.readsBack
  have hsetter := ReadsBack.optional fun r (_ : r ∈ p.setter) => r.readsBack
  have hholderSignature := ReadsBack.optional fun s (_ : s ∈ p.holderSignature) => s.readsBack
  have hholder := ReadsBack.optional fun r (_ : r ∈ p.holder) => r.readsBack
  have hreceiver := ReadsBack.optional fun t (_ : t ∈ p.receiver) => t.readsBack source
  have htype := (p.type.readsBack source).required
  have htypeParameters := ReadsBack.items fun q (_ : q ∈ p.typeParameters) => q.readsBack source
  have hsetterParameters := ReadsBack.items fun q (_ : q ∈ p.setterParameters) => q.readsBack source
  have hversion := ReadsBack.optional fun r (_ : r ∈ p.versionRequirement) => r.readsBack source
  refine ReadsBack.of_record rfl (by decide) rfl ?_ ?_
  · simp [hflags.representable, hgetterFlags.representable, hsetterFlags.representable,
      hname.representable, hfieldSignature.representable, hbackingField.representable,
      hgetterSignature.representable, hgetter.representable, hsetterSignature.representable,
      hsetter.representable, hholderSignature.representable, hholder.representable,
      hreceiver.representable, htype.representable, htypeParameters.representable,
      hsetterParameters.representable, hversion.representable]
  · intro levels hfields hwithin
    simp only [List.forall_mem_cons] at hwithin
    obtain ⟨h1, h2, h3, h4, h5, h6, h7, h8, h9, h10, h11, h12, h13, h14, h15, h16, h17, -⟩ :=
      hwithin
    unfold ofJson?
    refine Json.bind_of_eq_some hfields ?_
    refine Json.bind_of_eq_some (hflags.reads _ h1) ?_
    refine Json.bind_of_eq_some (hgetterFlags.reads _ h2) ?_
    refine Json.bind_of_eq_some (hsetterFlags.reads _ h3) ?_
    refine Json.bind_of_eq_some (hname.reads _ h4) ?_
    refine Json.bind_of_eq_some (hfieldSignature.reads _ h5) ?_
    refine Json.bind_of_eq_some (hbackingField.reads _ h6) ?_
    refine Json.bind_of_eq_some (hgetterSignature.reads _ h7) ?_
    refine Json.bind_of_eq_some (hgetter.reads _ h8) ?_
    refine Json.bind_of_eq_some (hsetterSignature.reads _ h9) ?_
    refine Json.bind_of_eq_some (hsetter.reads _ h10) ?_
    refine Json.bind_of_eq_some (hholderSignature.reads _ h11) ?_
    refine Json.bind_of_eq_some (hholder.reads _ h12) ?_
    refine Json.bind_of_eq_some (hreceiver.reads _ h13) ?_
    refine Json.bind_of_eq_some (htype.reads _ h14) ?_
    refine Json.bind_of_eq_some (htypeParameters.reads _ h15) ?_
    refine Json.bind_of_eq_some (hsetterParameters.reads _ h16) ?_
    refine Json.bind_of_eq_some (hversion.reads _ h17) ?_
    rfl

theorem TypeAliasDecl.readsBack (source : Json.Source) (a : TypeAliasDecl) :
    ReadsBack toJson (ofJson? source) a := by
  have hflags := a.flags.readsBack.required
  have hname := (Json.readsBack_text a.name).required
  have htypeParameters := ReadsBack.items fun p (_ : p ∈ a.typeParameters) => p.readsBack source
  have hunderlying := (a.underlying.readsBack source).required
  have hexpanded := (a.expanded.readsBack source).required
  have hversion := ReadsBack.optional fun r (_ : r ∈ a.versionRequirement) => r.readsBack source
  have hannotations := ReadsBack.items fun b (_ : b ∈ a.annotations) => b.readsBack
  refine ReadsBack.of_record rfl (by decide) rfl ?_ ?_
  · simp [hflags.representable, hname.representable, htypeParameters.representable,
      hunderlying.representable, hexpanded.representable, hversion.representable,
      hannotations.representable]
  · intro levels hfields hwithin
    simp only [List.forall_mem_cons] at hwithin
    obtain ⟨h1, h2, h3, h4, h5, h6, h7, -⟩ := hwithin
    unfold ofJson?
    refine Json.bind_of_eq_some hfields ?_
    refine Json.bind_of_eq_some (hflags.reads _ h1) ?_
    refine Json.bind_of_eq_some (hname.reads _ h2) ?_
    refine Json.bind_of_eq_some (htypeParameters.reads _ h3) ?_
    refine Json.bind_of_eq_some (hunderlying.reads _ h4) ?_
    refine Json.bind_of_eq_some (hexpanded.reads _ h5) ?_
    refine Json.bind_of_eq_some (hversion.reads _ h6) ?_
    refine Json.bind_of_eq_some (hannotations.reads _ h7) ?_
    rfl

theorem Container.readsBack (source : Json.Source) (c : Container) :
    ReadsBack toJson (ofJson? source) c := by
  have hownerName := ReadsBack.optional fun s (_ : s ∈ c.ownerName) => Json.readsBack_text s
  have howner := ReadsBack.optional fun id (_ : id ∈ c.owner) => id.readsBack
  have hproperties := ReadsBack.items fun p (_ : p ∈ c.properties) => p.readsBack source
  have hfunctions := ReadsBack.items fun f (_ : f ∈ c.functions) => f.readsBack source
  have htypeAliases := ReadsBack.items fun a (_ : a ∈ c.typeAliases) => a.readsBack source
  have hdelegated := ReadsBack.items fun p (_ : p ∈ c.delegatedProperties) => p.readsBack source
  refine ReadsBack.of_record rfl (by decide) rfl ?_ ?_
  · simp [hownerName.representable, howner.representable, hproperties.representable,
      hfunctions.representable, htypeAliases.representable, hdelegated.representable]
  · intro levels hfields hwithin
    simp only [List.forall_mem_cons] at hwithin
    obtain ⟨h1, h2, h3, h4, h5, h6, -⟩ := hwithin
    unfold ofJson?
    refine Json.bind_of_eq_some hfields ?_
    refine Json.bind_of_eq_some (hownerName.reads _ h1) ?_
    refine Json.bind_of_eq_some (howner.reads _ h2) ?_
    refine Json.bind_of_eq_some (hproperties.reads _ h3) ?_
    refine Json.bind_of_eq_some (hfunctions.reads _ h4) ?_
    refine Json.bind_of_eq_some (htypeAliases.reads _ h5) ?_
    refine Json.bind_of_eq_some (hdelegated.reads _ h6) ?_
    rfl

/-! ## Roots -/

theorem ClassDecl.readsBack (source : Json.Source) (c : ClassDecl) :
    ReadsBack toJson (ofJson? source) c := by
  have hflags := c.flags.readsBack.required
  have hname := (Json.readsBack_text c.name).required
  have htarget := ReadsBack.optional fun id (_ : id ∈ c.target) => id.readsBack
  have hcontainer := (c.container.readsBack source).defaulted {}
  have hcompanion := ReadsBack.optional fun r (_ : r ∈ c.companion) => r.readsBack
  have hnested := ReadsBack.items fun r (_ : r ∈ c.nested) => r.readsBack
  have hsealed := ReadsBack.items fun r (_ : r ∈ c.sealedSubclasses) => r.readsBack
  have henumEntries : Json.SlotReadsBack (Json.listSlot .ofString c.enumEntries)
      (fun levels => Json.defaulted [] (Json.readList levels Json.readText)) c.enumEntries :=
    ReadsBack.items fun s (_ : s ∈ c.enumEntries) => Json.readsBack_text s
  have hsupertypes := ReadsBack.items fun t (_ : t ∈ c.supertypes) => t.readsBack source
  have htypeParameters := ReadsBack.items fun p (_ : p ∈ c.typeParameters) => p.readsBack source
  have hversion := ReadsBack.optional fun r (_ : r ∈ c.versionRequirement) => r.readsBack source
  have hconstructors := ReadsBack.items fun k (_ : k ∈ c.constructors) => k.readsBack source
  refine ReadsBack.of_record rfl (by decide) rfl ?_ ?_
  · simp [hflags.representable, hname.representable, htarget.representable,
      hcontainer.representable, hcompanion.representable, hnested.representable,
      hsealed.representable, henumEntries.representable, hsupertypes.representable,
      htypeParameters.representable, hversion.representable, hconstructors.representable]
  · intro levels hfields hwithin
    simp only [List.forall_mem_cons] at hwithin
    obtain ⟨h1, h2, h3, h4, h5, h6, h7, h8, h9, h10, h11, h12, -⟩ := hwithin
    unfold ofJson?
    refine Json.bind_of_eq_some hfields ?_
    refine Json.bind_of_eq_some (hflags.reads _ h1) ?_
    refine Json.bind_of_eq_some (hname.reads _ h2) ?_
    refine Json.bind_of_eq_some (htarget.reads _ h3) ?_
    refine Json.bind_of_eq_some (hcontainer.reads _ h4) ?_
    refine Json.bind_of_eq_some (hcompanion.reads _ h5) ?_
    refine Json.bind_of_eq_some (hnested.reads _ h6) ?_
    refine Json.bind_of_eq_some (hsealed.reads _ h7) ?_
    refine Json.bind_of_eq_some (henumEntries.reads _ h8) ?_
    refine Json.bind_of_eq_some (hsupertypes.reads _ h9) ?_
    refine Json.bind_of_eq_some (htypeParameters.reads _ h10) ?_
    refine Json.bind_of_eq_some (hversion.reads _ h11) ?_
    refine Json.bind_of_eq_some (hconstructors.reads _ h12) ?_
    rfl

theorem FileFacade.readsBack (source : Json.Source) (f : FileFacade) :
    ReadsBack toJson (ofJson? source) f := by
  have hcontainer := (f.container.readsBack source).defaulted {}
  refine ReadsBack.of_record rfl (by decide) rfl ?_ ?_
  · simp [hcontainer.representable]
  · intro levels hfields hwithin
    simp only [List.forall_mem_cons] at hwithin
    obtain ⟨h1, -⟩ := hwithin
    unfold ofJson?
    refine Json.bind_of_eq_some hfields ?_
    refine Json.bind_of_eq_some (hcontainer.reads _ h1) ?_
    rfl

theorem MultiFileFacade.readsBack (f : MultiFileFacade) : ReadsBack toJson ofJson? f := by
  have hparts := ReadsBack.items fun r (_ : r ∈ f.parts) => r.readsBack
  refine ReadsBack.of_record rfl (by decide) rfl ?_ ?_
  · simp [hparts.representable]
  · intro levels hfields hwithin
    simp only [List.forall_mem_cons] at hwithin
    obtain ⟨h1, -⟩ := hwithin
    unfold ofJson?
    refine Json.bind_of_eq_some hfields ?_
    refine Json.bind_of_eq_some (hparts.reads _ h1) ?_
    rfl

theorem MultiFilePart.readsBack (source : Json.Source) (p : MultiFilePart) :
    ReadsBack toJson (ofJson? source) p := by
  have hname := (Json.readsBack_text p.facadeName).required
  have hfacade := ReadsBack.optional fun id (_ : id ∈ p.facade) => id.readsBack
  have hcontainer := (p.container.readsBack source).defaulted {}
  refine ReadsBack.of_record rfl (by decide) rfl ?_ ?_
  · simp [hname.representable, hfacade.representable, hcontainer.representable]
  · intro levels hfields hwithin
    simp only [List.forall_mem_cons] at hwithin
    obtain ⟨h1, h2, h3, -⟩ := hwithin
    unfold ofJson?
    refine Json.bind_of_eq_some hfields ?_
    refine Json.bind_of_eq_some (hname.reads _ h1) ?_
    refine Json.bind_of_eq_some (hfacade.reads _ h2) ?_
    refine Json.bind_of_eq_some (hcontainer.reads _ h3) ?_
    rfl

namespace Metadata

theorem toJson_of_record {m : Metadata} {names : List String} {slots : List (Option Json)}
    (hbody : m.bodyToJson = .record names slots) :
    m.toJson = .object ((some tag, .ofNamed m.kind) :: Json.recordEntries names slots) := by
  rw [toJson, hbody]
  rfl

/-- The kind of a root is split off its record, if the record has no field of that name. -/
theorem splitTag_toJson {m : Metadata} {names : List String} {slots : List (Option Json)}
    (hbody : m.bodyToJson = .record names slots) (htag : tag ∉ names) :
    splitTag m.toJson = some (Named.name m.kind, m.bodyToJson) := by
  -- The kind is the only entry under its name, and everything else is the record.
  have hvalues : Json.valuesOf tag ((some tag, .ofNamed m.kind) :: Json.recordEntries names slots) =
      [.ofNamed m.kind] := by
    have hnone := Json.valuesOf_recordEntries_of_not_mem htag slots
    simp only [Json.valuesOf] at hnone ⊢
    rw [List.filter_cons_of_pos (by simp), List.map_cons, hnone]
  have hfilter : ((some tag, .ofNamed m.kind) :: Json.recordEntries names slots).filter
      (·.1 != some tag) = Json.recordEntries names slots := by
    rw [List.filter_cons_of_neg (by simp), List.filter_eq_self]
    intro e he
    obtain ⟨⟨name, hname, hkey⟩, -⟩ := Json.mem_recordEntries he
    rw [hkey, bne_iff_ne, ne_eq, Option.some.injEq]
    rintro rfl
    exact htag hname
  rw [toJson_of_record hbody, splitTag, hvalues, hbody]
  simp only [Json.ofNamed, Json.ofString] at hfilter ⊢
  rw [hfilter]
  rfl

/-- A root whose record reads back is read out of its tree, whatever the depth. -/
theorem ofTree?_of_readsBack {m : Metadata} {names : List String} {slots : List (Option Json)}
    (hbody : m.bodyToJson = .record names slots) (htag : tag ∉ names)
    (hrepresentable : m.bodyToJson.representable = true)
    (hreads : ∀ levels, m.bodyToJson.depth ≤ levels →
      bodyOfJson? m.kind levels m.bodyToJson = some m) :
    ofTree? m.toJson = some m := by
  have htree := toJson_of_record hbody
  have hdepth : m.bodyToJson.depth ≤ m.toJson.depth := by
    rw [htree, hbody, Json.record_eq, Json.depth, Json.depth, Json.depthOfEntries]
    omega
  have hall : m.toJson.representable = true := by
    rw [hbody, Json.record_eq, Json.representable] at hrepresentable
    rw [htree, Json.representable, Json.entriesRepresentable, hrepresentable]
    rfl
  have hguard : guard (m.toJson.representable = true) = some () := if_pos hall
  unfold ofTree?
  refine Json.bind_of_eq_some hguard ?_
  refine Json.bind_of_eq_some (splitTag_toJson hbody htag) ?_
  refine Json.bind_of_eq_some m.kind.ofName?_name ?_
  exact hreads _ hdepth

/-- A root that is no synthetic class is read out of its tree, whatever the depth. -/
theorem ofTree?_toJson {m : Metadata} (hm : m.kind ≠ .syntheticClass) :
    ofTree? m.toJson = some m := by
  cases m with
  | classDecl c =>
    have hbody := c.readsBack .buffered
    refine ofTree?_of_readsBack rfl (by decide) hbody.representable fun levels h => ?_
    exact congrArg (Option.map Metadata.classDecl) (hbody.reads levels h)
  | fileFacade f =>
    have hbody := f.readsBack .buffered
    refine ofTree?_of_readsBack rfl (by decide) hbody.representable fun levels h => ?_
    exact congrArg (Option.map Metadata.fileFacade) (hbody.reads levels h)
  | syntheticClass s => exact absurd rfl hm
  | multiFileFacade f =>
    -- Its record holds no type and no version, so that it does not matter where it is read from.
    have hbody := f.readsBack
    refine ofTree?_of_readsBack rfl (by decide) hbody.representable fun levels h => ?_
    exact congrArg (Option.map Metadata.multiFileFacade) (hbody.reads levels h)
  | multiFilePart p =>
    have hbody := p.readsBack .buffered
    refine ofTree?_of_readsBack rfl (by decide) hbody.representable fun levels h => ?_
    exact congrArg (Option.map Metadata.multiFilePart) (hbody.reads levels h)

/-! ## Texts -/

theorem parse?_text (m : Metadata) : Json.parse? m.text = some m.toJson :=
  Json.parse?_compress m.toJson

/-- A text is read exactly if it does not nest too deep, and then as the root it was written for. -/
theorem ofText?_text {m : Metadata} (hm : m.kind ≠ .syntheticClass) :
    ofText? m.text = if Json.nesting m.text ≤ levelLimit then some m else none := by
  have hnesting : Json.nesting m.text = m.toJson.depth := Json.nesting_compress m.toJson
  rw [ofText?, parse?_text, Option.bind_some, ofJson?, hnesting, ofTree?_toJson hm]

/-- No two roots are written alike. -/
theorem eq_of_text_eq {m n : Metadata} (hm : m.kind ≠ .syntheticClass)
    (hn : n.kind ≠ .syntheticClass) (h : m.text = n.text) : m = n := by
  -- The tree can be read from the text at any depth; only the root is refused beyond the limit.
  have htree : m.toJson = n.toJson := by
    have hparse := m.parse?_text
    rw [h, n.parse?_text] at hparse
    exact (Option.some.inj hparse).symm
  have hread := ofTree?_toJson hm
  rw [htree, ofTree?_toJson hn] at hread
  exact (Option.some.inj hread).symm

/-- **Round trip**: the text of a root other than a synthetic class is read back as that root up
    to the limit of nesting, and refused beyond it.  Different roots have different texts at any
    depth, and writing what was read gives the text again. -/
theorem text_roundTrip (m : Metadata) (hm : m.kind ≠ .syntheticClass) :
    ofText? m.text = (if Json.nesting m.text ≤ levelLimit then some m else none) ∧
    (∀ n : Metadata, n.kind ≠ .syntheticClass → n.text = m.text → n = m) ∧
    (Json.nesting m.text ≤ levelLimit → (ofText? m.text).map text = some m.text) := by
  have hread := ofText?_text hm
  refine ⟨hread, fun n hn h => eq_of_text_eq hn hm h, fun hnesting => ?_⟩
  rw [hread, if_pos hnesting]
  rfl

/-- The text of a facade whose part has a quote, a control character and a character beyond the
    basic plane in its name. -/
theorem text_roundTrip_of_escapes :
    (multiFileFacade ⟨[⟨"a\"\u0001😀", some ⟨7⟩⟩]⟩).kind ≠ .syntheticClass ∧
    ofText? (multiFileFacade ⟨[⟨"a\"\u0001😀", some ⟨7⟩⟩]⟩).text =
      some (multiFileFacade ⟨[⟨"a\"\u0001😀", some ⟨7⟩⟩]⟩) := by
  have hkind : (multiFileFacade ⟨[⟨"a\"\u0001😀", some ⟨7⟩⟩]⟩).kind ≠ .syntheticClass := nofun
  refine ⟨hkind, (text_roundTrip _ hkind).1.trans (if_pos ?_)⟩
  rw [text, Json.nesting_compress]
  decide

end Metadata

end KotlinMetadata
