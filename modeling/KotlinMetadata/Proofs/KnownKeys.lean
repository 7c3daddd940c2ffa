import KotlinMetadata.Proofs.WrittenForms

/-! # Known keys

    An object is read by the keys of its record.  In which order they stand and what else there is
    does not matter, but no key of the record may stand twice, and none without a default may be
    missing.

    - `RecordKind.decode_object_perm`, `RecordKind.decode_object_unknown`,
      `RecordKind.decode_object_default`: edits of an object that change nothing;
    - `RecordKind.decode_object_repeated`, `RecordKind.decode_object_omitted`: edits that spoil it;
    - `Position.depth_default_le`: a default that is written out has room in a tree that is decoded;
    - `Metadata.knownKeys_exact`: the same of texts, wherever the object stands.
-/

namespace KotlinMetadata

/-! ## Edits of an object -/

namespace Json

theorem slotOf_perm {es fs : List (Option String × Json)} (h : es.Perm fs) (name : String) :
    slotOf es name = slotOf fs name := by
  have hvalues : (valuesOf name es).Perm (valuesOf name fs) := (h.filter _).map _
  have hlength := hvalues.length_eq
  rw [slotOf, slotOf]
  -- Permuted values are the same ones unless they are two at least.
  cases hes : valuesOf name es with
  | nil =>
    rw [hes] at hvalues
    rw [← hvalues.nil_eq]
  | cons v vs =>
    cases vs with
    | nil =>
      rw [hes] at hvalues
      rw [List.perm_singleton.mp hvalues.symm]
    | cons w vs =>
      rw [hes] at hlength
      cases hfs : valuesOf name fs with
      | nil =>
        rw [hfs] at hlength
        cases hlength
      | cons x xs =>
        cases xs with
        | nil =>
          rw [hfs] at hlength
          cases hlength
        | cons y xs => rfl

end Json

namespace RecordKind
variable {k : RecordKind} {before after : List (Option String × Json)} {key : String} {v : Json}

/-- The order of the entries does not matter. -/
theorem decode_object_perm {es fs : List (Option String × Json)} (h : es.Perm fs) :
    (Shape.record k).decode (.object es) = (Shape.record k).decode (.object fs) := by
  have htexts : (∀ e ∈ es, e.1.isSome = true) ↔ ∀ e ∈ fs, e.1.isSome = true :=
    forall_congr' fun e => by rw [h.mem_iff]
  have hslots : Json.slotAt es = Json.slotAt fs := by
    funext key
    cases key with
    | none => rfl
    | some name => exact Json.slotOf_perm h name
  refine Option.ext fun a => ?_
  rw [decode_object, decode_object, htexts]
  simp only [Field.DecodesIn, hslots]

/-- An entry under another key does not matter. -/
theorem decode_object_unknown (hkey : ∀ f ∈ k.table, f.key ≠ some key) :
    (Shape.record k).decode (.object (before ++ (some key, v) :: after)) =
      (Shape.record k).decode (.object (before ++ after)) := by
  refine Option.ext fun a => ?_
  rw [decode_object, decode_object, Json.texts_insert_iff]
  refine and_congr_right fun _ => forall₂_congr fun f hf => ?_
  rw [Field.DecodesIn, Json.slotAt_insert_of_ne (hkey f hf)]
  exact Iff.rfl

/-- An entry that gives a field its default does not matter. -/
theorem decode_object_default {f : Field k.Value} (hf : f ∈ k.table) (hkey : f.key = some key)
    (hdefault : f.shape.decode v = f.default?)
    (hfresh : Json.valuesOf key (before ++ after) = []) :
    (Shape.record k).decode (.object (before ++ (some key, v) :: after)) =
      (Shape.record k).decode (.object (before ++ after)) := by
  obtain ⟨i, hi⟩ := List.getElem?_of_mem hf
  -- For the field it is the same to be given the default and not to be given.
  have hself : ∀ a, f.DecodesIn (before ++ after) a ↔ f.shape.decode v = some (f.get a) := by
    intro a
    have hslot : Json.slotAt (before ++ after) f.key = some none := by
      rw [hkey, Json.slotAt, Json.slotOf, hfresh]
    rw [Field.DecodesIn, hslot, hdefault]
    constructor
    · rintro ⟨_, heq, h⟩
      obtain rfl := Option.some.inj heq
      exact h
    · exact fun h => ⟨none, rfl, h⟩
  refine Option.ext fun a => ?_
  rw [decode_object_entry hi hkey, decode_object, forall_mem_iff_of_getElem? hi, hself]
  constructor
  · rintro ⟨hgiven, hkeys, -, hothers⟩
    exact ⟨hkeys, hgiven, hothers⟩
  · rintro ⟨hkeys, hgiven, hothers⟩
    exact ⟨hgiven, hkeys, hfresh, hothers⟩

/-- A key of the record that is given twice spoils the object, whatever is given. -/
theorem decode_object_repeated {f : Field k.Value} (hf : f ∈ k.table) (hkey : f.key = some key)
    (htwice : Json.valuesOf key (before ++ after) ≠ []) :
    (Shape.record k).decode (.object (before ++ (some key, v) :: after)) = none := by
  obtain ⟨i, hi⟩ := List.getElem?_of_mem hf
  refine Option.eq_none_iff_forall_ne_some.mpr fun a ha => ?_
  exact htwice ((decode_object_entry hi hkey before after v a).mp ha).2.2.1

/-- A field without a default that is not given spoils the object. -/
theorem decode_object_omitted {entries : List (Option String × Json)} {f : Field k.Value}
    (hf : f ∈ k.table) (hkey : f.key = some key) (hdefault : f.default? = none)
    (hmissing : Json.valuesOf key entries = []) :
    (Shape.record k).decode (.object entries) = none := by
  refine Option.eq_none_iff_forall_ne_some.mpr fun a ha => ?_
  obtain ⟨slot, hslot, hdecodes⟩ := ((decode_object k entries a).mp ha).2 f hf
  rw [hkey, Json.slotAt, Json.slotOf, hmissing] at hslot
  obtain rfl := Option.some.inj hslot
  rw [Field.Decodes, Field.decodeSlot, hdefault] at hdecodes
  cases hdecodes

end RecordKind

/-! ## Room for defaults -/

namespace Shape
variable {n : Nat} {j : Json}

theorem depth_written_plain {p : PlainKind} {a : p.Value} (h : (plain p).Written a j) :
    j.depth ≤ n := by
  have hplain : j.depth = 0 := by
    cases h
    cases p <;> rfl
  omega

theorem depth_written_none {s : Shape} (h : (option s).Written (none : Option s.Value) j) :
    j.depth ≤ n := by
  cases h
  exact Nat.zero_le n

theorem depth_written_nil {s : Shape} (h : (list s).Written ([] : List s.Value) j) :
    j.depth ≤ n + 1 := by
  cases h with
  | list hlength _ =>
    rw [List.length_eq_zero_iff.mp hlength]
    exact Nat.succ_le_succ (Nat.zero_le n)

theorem depth_written_record {k : RecordKind} {a : k.Value}
    (hfields : ∀ f ∈ k.table, ∀ v, f.shape.Written (f.get a) v → v.depth ≤ n)
    (h : (record k).Written a j) : j.depth ≤ n + 1 := by
  cases h with
  | @array _ _ items hlength hgiven _ =>
    rw [Json.depth, Nat.add_le_add_iff_right, Json.depthOfItems_le]
    intro v hv
    obtain ⟨i, hi, rfl⟩ := List.getElem_of_mem hv
    have hf := List.getElem?_eq_getElem (Nat.lt_of_lt_of_le hi hlength)
    exact hfields _ (List.mem_of_getElem? hf) _ (hgiven i _ _ hf (List.getElem?_eq_getElem hi))
  | object hkeys _ hgiven _ =>
    rw [Json.depth, Nat.add_le_add_iff_right, Json.depthOfEntries_le]
    intro e he
    obtain ⟨-, f, hf, hkey⟩ := hkeys e he
    exact hfields f hf _ (hgiven e he f hf hkey)

/-- An empty container is made of lists that are empty and of names and links that are absent. -/
theorem depth_written_container (h : (record .container).Written ({} : Container) j) :
    j.depth ≤ 2 := by
  refine depth_written_record (k := .container) ?_ h
  repeat' first
  | exact List.forall_mem_nil _
  | refine List.forall_mem_cons.mpr ⟨fun _ => depth_written_none, ?_⟩
  | refine List.forall_mem_cons.mpr ⟨fun _ => depth_written_nil, ?_⟩

/-- The flags of an accessor are made of bits and of the record of the shared bit. -/
theorem depth_written_accessorFlags
    (h : (record .accessorFlags).Written ({} : AccessorFlags) j) : j.depth ≤ 2 := by
  refine depth_written_record (k := .accessorFlags) ?_ h
  refine List.forall_mem_cons.mpr ⟨fun _ hcommon => ?_, ?_⟩
  · exact depth_written_record (k := .commonFlags)
      (List.forall_mem_cons.mpr ⟨fun _ => depth_written_plain, List.forall_mem_nil _⟩) hcommon
  · repeat' first
    | exact List.forall_mem_nil _
    | refine List.forall_mem_cons.mpr ⟨fun _ => depth_written_plain, ?_⟩

end Shape

namespace Field
variable {α : Type} {n : Nat}

/-- The default of a field, if it has one, nests no deeper when it is written. -/
def DefaultWithin (n : Nat) (f : Field α) : Prop :=
  ∀ d, f.default? = some d → ∀ j, f.shape.Written d j → j.depth ≤ n

theorem DefaultWithin.mono {f : Field α} {m : Nat} (h : f.DefaultWithin m) (hle : m ≤ n) :
    f.DefaultWithin n :=
  fun d hd j hj => Nat.le_trans (h d hd j hj) hle

/-- How deep the default of a row of a table may nest when it is written: an absent value or a plain
    one does not, a list is empty, and a record has a level for its own defaults. -/
def defaultDepth (f : Field α) : Nat :=
  if f.default?.isNone then 0
  else match f.shape with
    | .plain _ | .option _ => 0
    | .list _ => 1
    | .record _ => 2

theorem defaultDepth_le_two (f : Field α) : f.defaultDepth ≤ 2 := by
  unfold defaultDepth
  split
  · exact Nat.zero_le 2
  · split <;> decide

variable {key : Option String} {s : Shape}

theorem defaultWithin_required {get : α → s.Value} {set : s.Value → α → α} :
    DefaultWithin n ⟨key, s, get, set, none⟩ := nofun

theorem defaultWithin_plain {p : PlainKind} {value : p.Value} {get : α → p.Value}
    {set : p.Value → α → α} : DefaultWithin n ⟨key, .plain p, get, set, some value⟩ := by
  rintro _ ⟨⟩ j hj
  exact Shape.depth_written_plain hj

theorem defaultWithin_optional {get : α → Option s.Value} {set : Option s.Value → α → α} :
    DefaultWithin n ⟨key, .option s, get, set, some (none : Option s.Value)⟩ := by
  rintro _ ⟨⟩ j hj
  exact Shape.depth_written_none hj

theorem defaultWithin_items {get : α → List s.Value} {set : List s.Value → α → α} :
    DefaultWithin (n + 1) ⟨key, .list s, get, set, some ([] : List s.Value)⟩ := by
  rintro _ ⟨⟩ j hj
  exact Shape.depth_written_nil hj

theorem defaultWithin_container {get : α → Container} {set : Container → α → α} :
    DefaultWithin 2 ⟨key, .record .container, get, set, some ({} : Container)⟩ := by
  rintro _ ⟨⟩ j hj
  exact Shape.depth_written_container hj

theorem defaultWithin_accessorFlags {get : α → AccessorFlags} {set : AccessorFlags → α → α} :
    DefaultWithin 2 ⟨key, .record .accessorFlags, get, set, some ({} : AccessorFlags)⟩ := by
  rintro _ ⟨⟩ j hj
  exact Shape.depth_written_accessorFlags hj

end Field

namespace RecordKind

/-- Row by row, the default nests as deep as its shape lets it. -/
theorem defaultWithin_depth (k : RecordKind) : ∀ f ∈ k.table, f.DefaultWithin f.defaultDepth := by
  cases k
  case' root kind => cases kind
  all_goals
    repeat' first
    | exact List.forall_mem_nil _
    | refine List.forall_mem_cons.mpr ⟨Field.defaultWithin_required, ?_⟩
    | refine List.forall_mem_cons.mpr ⟨Field.defaultWithin_plain, ?_⟩
    | refine List.forall_mem_cons.mpr ⟨Field.defaultWithin_optional, ?_⟩
    | refine List.forall_mem_cons.mpr ⟨Field.defaultWithin_items, ?_⟩
    | refine List.forall_mem_cons.mpr ⟨Field.defaultWithin_container, ?_⟩
    | refine List.forall_mem_cons.mpr ⟨Field.defaultWithin_accessorFlags, ?_⟩

theorem defaultWithin_two (k : RecordKind) : ∀ f ∈ k.table, f.DefaultWithin 2 :=
  fun f hf => (k.defaultWithin_depth f hf).mono f.defaultDepth_le_two

/-- If no list and no record is taken by default, what is taken does not nest. -/
theorem defaultWithin_zero {k : RecordKind} (h : ∀ f ∈ k.table, f.defaultDepth = 0) :
    ∀ f ∈ k.table, f.DefaultWithin 0 :=
  fun f hf => (k.defaultWithin_depth f hf).mono (Nat.le_of_eq (h f hf))

/-- What is decoded to a record nests at least that deep. -/
def NestsAtLeast (k : RecordKind) (n : Nat) : Prop :=
  ∀ j a, (Shape.record k).decode j = some a → n ≤ j.depth

theorem object_or_array_of_decode {k : RecordKind} {j : Json} {a : k.Value}
    (h : (Shape.record k).decode j = some a) :
    (∃ entries, j = .object entries) ∨ ∃ items, j = .array items := by
  rcases k.exists_root_or with ⟨kind, rfl⟩ | ⟨hread, -, -⟩
  · obtain ⟨body, hsplit, -⟩ := read_root_eq_some_iff.mp h
    cases j with
    | object entries => exact .inl ⟨entries, rfl⟩
    | array items => exact .inr ⟨items, rfl⟩
    | _ => cases hsplit
  · have hbody : k.readBody j.depth j = some a := by
      rw [← hread]
      exact h
    obtain ⟨slots, hslots, -⟩ := (k.readBody_iff_decodes (Nat.le_refl _)).mp hbody
    cases j with
    | object entries => exact .inl ⟨entries, rfl⟩
    | array items => exact .inr ⟨items, rfl⟩
    | _ => cases hslots

theorem nestsAtLeast_one (k : RecordKind) : k.NestsAtLeast 1 := by
  intro j a h
  rcases object_or_array_of_decode h with ⟨entries, rfl⟩ | ⟨items, rfl⟩
  · exact Nat.succ_le_succ (Nat.zero_le _)
  · exact Nat.succ_le_succ (Nat.zero_le _)

/-- A record nests deeper than the one in a field that must be given. -/
theorem NestsAtLeast.of_required {k inner : RecordKind} {n : Nat} (h : inner.NestsAtLeast n)
    {key : Option String} {get : k.Value → inner.Value} {set : inner.Value → k.Value → k.Value}
    {fields : List (Field k.Value)}
    (htable : k.table = ⟨key, .record inner, get, set, none⟩ :: fields) :
    k.NestsAtLeast (n + 1) := by
  intro j a hdecode
  rcases object_or_array_of_decode hdecode with ⟨entries, rfl⟩ | ⟨items, rfl⟩
  · obtain ⟨-, hall⟩ := (decode_object k entries a).mp hdecode
    rw [htable] at hall
    obtain ⟨slot, hslot, hdecodes⟩ := (List.forall_mem_cons.mp hall).1
    cases slot with
    | none => cases hdecodes
    | some v =>
      cases key with
      | none => cases hslot
      | some name =>
        have hv := Json.depth_entry_lt (Json.mem_of_slotOf hslot)
        exact Nat.lt_of_le_of_lt (h v _ hdecodes) hv
  · obtain ⟨-, hall⟩ := (decode_array k items a).mp hdecode
    rw [htable] at hall
    have hdecodes := hall 0 _ rfl
    cases items with
    | nil => cases hdecodes
    | cons v items =>
      have hv := Json.depth_item_lt (List.mem_cons_self (a := v) (l := items))
      exact Nat.lt_of_le_of_lt (h v _ hdecodes) hv

/-- A record that starts with flags nests as deep as these with the record of the shared bit. -/
theorem nestsAtLeast_of_flags {k bundle : RecordKind} {getBit : bundle.Value → Bool}
    {setBit : Bool → bundle.Value → bundle.Value} {bits : List (Field bundle.Value)}
    {get : k.Value → bundle.Value} {set : bundle.Value → k.Value → k.Value}
    {fields : List (Field k.Value)} (hbundle : bundle.table = .common getBit setBit :: bits)
    (htable : k.table = .required "flags" (.record bundle) get set :: fields) :
    k.NestsAtLeast 3 :=
  ((nestsAtLeast_one .commonFlags).of_required hbundle).of_required htable

/-- A record lies near the root, or it nests deep because of its flags, or none of its defaults
    nests at all. -/
theorem room_for_defaults (k : RecordKind) :
    k.height ≠ 0 ∨ k.NestsAtLeast 3 ∨ ∀ f ∈ k.table, f.DefaultWithin 0 := by
  cases k with
  | root kind => exact .inl (Nat.succ_ne_zero 1)
  | container => exact .inl (Nat.succ_ne_zero 0)
  | type => exact .inr (.inl (nestsAtLeast_of_flags rfl rfl))
  | typeParameter => exact .inr (.inl (nestsAtLeast_of_flags rfl rfl))
  | valueParameter => exact .inr (.inl (nestsAtLeast_of_flags rfl rfl))
  | function => exact .inr (.inl (nestsAtLeast_of_flags rfl rfl))
  | constructor => exact .inr (.inl (nestsAtLeast_of_flags rfl rfl))
  | property => exact .inr (.inl (nestsAtLeast_of_flags rfl rfl))
  | typeAlias => exact .inr (.inl (nestsAtLeast_of_flags rfl rfl))
  | _ => exact .inr (.inr (defaultWithin_zero (by decide)))

end RecordKind

/-! ## Edits and tags -/

namespace Metadata

/-- If both lists of entries have a single tag, it is the same one. -/
def SameTag (es fs : List (Option String × Json)) : Prop :=
  ∀ u w, Json.valuesOf tag es = [u] → Json.valuesOf tag fs = [w] → u = w

theorem SameTag.of_eq {es fs : List (Option String × Json)}
    (h : Json.valuesOf tag es = Json.valuesOf tag fs) : SameTag es fs := by
  intro u w hu hw
  rw [h, hw] at hu
  exact (List.cons.inj hu).1.symm

theorem SameTag.of_perm {es fs : List (Option String × Json)} (h : es.Perm fs) :
    SameTag es fs := by
  intro u w hu hw
  have hvalues : (Json.valuesOf tag es).Perm (Json.valuesOf tag fs) := (h.filter _).map _
  rw [hu, hw] at hvalues
  exact List.singleton_perm_singleton.mp hvalues

/-- A second tag is one too many. -/
theorem sameTag_insert (before after : List (Option String × Json)) (key : String) (v : Json) :
    SameTag (before ++ after) (before ++ (some key, v) :: after) := by
  by_cases hkey : key = tag
  · intro u w hu hw
    have hlength := congrArg List.length hw
    have hbase := congrArg List.length hu
    rw [Json.valuesOf_append, hkey, Json.valuesOf_cons_self, List.length_append,
      List.length_cons] at hlength
    rw [Json.valuesOf_append, List.length_append] at hbase
    simp only [List.length_singleton] at hlength hbase
    omega
  · exact .of_eq (Json.valuesOf_insert_of_ne (Ne.symm hkey) before after v).symm

theorem sameTag_filter (entries : List (Option String × Json)) (key : String) :
    SameTag entries (entries.filter (·.1 != some key)) := by
  by_cases hkey : tag = key
  · intro u w _ hw
    rw [hkey, valuesOf_filter_ne] at hw
    cases hw
  · exact .of_eq (Json.valuesOf_filter_of_ne hkey).symm

end Metadata

/-! ## Whole trees -/

namespace Json

theorem representable_insert_iff {before after : List (Option String × Json)} {key : String}
    {v : Json} (hv : v.representable = true) :
    (object (before ++ (some key, v) :: after)).representable = true ↔
      (object (before ++ after)).representable = true := by
  simp only [representable, entriesRepresentable_iff, List.forall_mem_append,
    List.forall_mem_cons, hv, Option.isSome_some, true_and, and_true]

theorem representable_perm {es fs : List (Option String × Json)} (h : es.Perm fs) :
    (object es).representable = true ↔ (object fs).representable = true := by
  simp only [representable, entriesRepresentable_iff, h.mem_iff]

theorem depth_perm {es fs : List (Option String × Json)} (h : es.Perm fs) :
    (object es).depth = (object fs).depth :=
  Nat.le_antisymm (depth_object_le_of_subset h.subset) (depth_object_le_of_subset h.symm.subset)

end Json

namespace Position
variable {k : RecordKind} {kind : MetadataKind} {plug : Json → Json}
  {modify : (k.Value → k.Value) → kind.Value → kind.Value}
  {before after : List (Option String × Json)}

/-- A tree is of no other kind than before when an object in it does not get another tag. -/
theorem kind_of_edit (h : Position k (.record (.root kind)) plug modify)
    {es fs : List (Option String × Json)} (htag : Metadata.SameTag es fs)
    (hkind : Metadata.TaggedAs kind (plug (.object es))) :
    ∀ other, Metadata.TaggedAs other (plug (.object fs)) → other = kind := by
  intro other hother
  refine hkind.unique ?_
  rcases h.taggedAs_plug with ⟨-, hplug⟩ | hsame
  · rw [hplug] at hkind hother ⊢
    have hes := Metadata.taggedAs_object_iff.mp hkind
    have hfs := Metadata.taggedAs_object_iff.mp hother
    rw [Metadata.taggedAs_object_iff, ← htag _ _ hes hfs]
    exact hes
  · exact hsame other _ _ hother

theorem depth_plug_congr (h : Position k (.record (.root kind)) plug modify) {i j : Json}
    (hij : i.depth = j.depth) : (plug i).depth = (plug j).depth :=
  Nat.le_antisymm (h.depth_plug_mono (Nat.le_of_eq hij)) (h.depth_plug_mono (Nat.le_of_eq hij.symm))

/-- A default that is written out has room in a tree that is decoded. -/
theorem depth_default_le (h : Position k (.record (.root kind)) plug modify) {f : Field k.Value}
    (hf : f ∈ k.table) {d : f.shape.Value} (hd : f.default? = some d) {v : Json}
    (hv : f.shape.Written d v) (key : Option String) {a : kind.Value}
    (ha : (Shape.record (.root kind)).decode (plug (.object (before ++ after))) = some a)
    (hdepth : (plug (.object (before ++ after))).depth ≤ Metadata.levelLimit) :
    (plug (.object (before ++ (key, v) :: after))).depth ≤ Metadata.levelLimit := by
  have hinsert := Json.depth_object_insert_le before after (key, v)
  have htwo := k.defaultWithin_two f hf d hd v hv
  dsimp only at hinsert
  by_cases hroom : v.depth + 1 ≤ (Json.object (before ++ after)).depth
  · exact Nat.le_trans (h.depth_plug_mono (by omega)) hdepth
  -- There is no room in the object itself, so that it lies at the root or in a field of it.
  have hshallow : k.height ≠ 0 := by
    rcases k.room_for_defaults with hheight | hnests | hnone
    · exact hheight
    · cases hdecode : (Shape.record k).decode (.object (before ++ after)) with
      | none =>
        rw [h.decode_eq_none (j := .object (before ++ after)) nofun hdecode] at ha
        cases ha
      | some b =>
        have hthree := hnests _ b hdecode
        omega
    · have hzero := hnone f hf d hd v hv
      have hone : 1 ≤ (Json.object (before ++ after)).depth := Nat.succ_le_succ (Nat.zero_le _)
      omega
  obtain ⟨hle, hplug⟩ := h.depth_plug_le hshallow
  have hplug := hplug (.object (before ++ after)) (.object (before ++ (key, v) :: after))
  have hlevels : (Shape.record (.root kind)).height = 2 := rfl
  have hlimit : Metadata.levelLimit = 127 := rfl
  omega

end Position

namespace Metadata

/-- Texts of trees of one kind that are decoded alike are read alike, if they both nest within the
    limit or are not decoded at all. -/
theorem ofText?_congr {kind : MetadataKind} {i j : Json} {s t : String}
    (hs : Json.parse? s = some i) (ht : Json.parse? t = some j)
    (hi : ∀ other, TaggedAs other i → other = kind)
    (hj : ∀ other, TaggedAs other j → other = kind)
    (hrepresentable : i.representable = true ↔ j.representable = true)
    (hdecode : (Shape.record (.root kind)).decode i = (Shape.record (.root kind)).decode j)
    (hdepth : ∀ a, (Shape.record (.root kind)).decode j = some a →
      (i.depth ≤ levelLimit ↔ j.depth ≤ levelLimit)) :
    ofText? s = ofText? t := by
  rw [ofText?_of_parse hs, ofText?_of_parse ht, ofTree?_congr hi hj hrepresentable hdecode]
  cases h : (Shape.record (.root kind)).decode j with
  | none =>
    -- A text that is refused anyway may nest as deep as it likes.
    rw [ofTree?_eq_none hj h, ite_self, ite_self]
  | some a => simp only [hdepth a h]

/-- An object that has no kind of a root for its only tag is no root. -/
theorem ofText?_untagged {entries : List (Option String × Json)}
    (htag : ∀ kind, ¬TaggedAs kind (.object entries)) {s : String}
    (hs : Json.parse? s = some (.object entries)) : ofText? s = none := by
  rw [ofText?_of_parse hs, ite_eq_right_iff.mpr]
  intro _
  refine Option.eq_none_iff_forall_ne_some.mpr fun m hm => ?_
  rw [← m.wrap_value] at hm
  exact htag m.kind (.of_decode (ofTree?_eq_some_iff.mp hm).2)

end Metadata

/-! ## Texts -/

namespace Position
variable {k : RecordKind} {kind : MetadataKind} {plug : Json → Json}
  {modify : (k.Value → k.Value) → kind.Value → kind.Value}
  {entries before after : List (Option String × Json)} {key : String} {v : Json} {f : Field k.Value}
  {s t : String}

theorem ofText?_perm (h : Position k (.record (.root kind)) plug modify)
    (hkind : Metadata.TaggedAs kind (plug (.object (before ++ after))))
    (hperm : (before ++ after).Perm entries)
    (hs : Json.parse? s = some (plug (.object (before ++ after))))
    (ht : Json.parse? t = some (plug (.object entries))) :
    Metadata.ofText? s = Metadata.ofText? t := by
  refine Metadata.ofText?_congr hs ht (fun _ => hkind.unique)
    (h.kind_of_edit (.of_perm hperm) hkind) ?_ ?_ fun _ _ => ?_
  · exact ⟨h.representable_plug (Json.representable_perm hperm).mp,
      h.representable_plug (Json.representable_perm hperm).mpr⟩
  · exact h.decode_congr nofun nofun (RecordKind.decode_object_perm hperm)
  · rw [h.depth_plug_congr (Json.depth_perm hperm)]

/-- An entry that says nothing changes nothing, if it can be represented and there is room for
    it. -/
theorem ofText?_insert (h : Position k (.record (.root kind)) plug modify)
    (hkind : Metadata.TaggedAs kind (plug (.object (before ++ after))))
    (hv : v.representable = true)
    (hdecode : (Shape.record k).decode (.object (before ++ (some key, v) :: after)) =
      (Shape.record k).decode (.object (before ++ after)))
    (hroom : ∀ a, (Shape.record (.root kind)).decode (plug (.object (before ++ after))) = some a →
      (plug (.object (before ++ after))).depth ≤ Metadata.levelLimit →
      (plug (.object (before ++ (some key, v) :: after))).depth ≤ Metadata.levelLimit)
    (hs : Json.parse? s = some (plug (.object (before ++ after))))
    (ht : Json.parse? t = some (plug (.object (before ++ (some key, v) :: after)))) :
    Metadata.ofText? t = Metadata.ofText? s := by
  refine Metadata.ofText?_congr ht hs
    (h.kind_of_edit (Metadata.sameTag_insert before after key v) hkind)
    (fun _ => hkind.unique) ?_ ?_ fun a ha => ?_
  · exact ⟨h.representable_plug (Json.representable_insert_iff hv).mp,
      h.representable_plug (Json.representable_insert_iff hv).mpr⟩
  · exact h.decode_congr nofun nofun hdecode
  · refine ⟨fun hle => ?_, hroom a ha⟩
    exact Nat.le_trans (h.depth_plug_mono (Json.depth_object_le_insert before after _)) hle

/-- An object that is refused spoils the whole text, unless the text is of another kind. -/
theorem ofText?_eq_none (h : Position k (.record (.root kind)) plug modify)
    (hkind : ∀ other, Metadata.TaggedAs other (plug (.object entries)) → other = kind)
    (hnone : (Shape.record k).decode (.object entries) = none)
    (hs : Json.parse? s = some (plug (.object entries))) : Metadata.ofText? s = none := by
  have hread := Metadata.ofTree?_eq_none hkind (h.decode_eq_none (j := .object entries) nofun hnone)
  rw [Metadata.ofText?_of_parse hs, hread]
  exact ite_self _

end Position

namespace Metadata

/-- **Known keys**: at any object that stands for a record, in whatever order its entries stand,
    with whatever other entries that can be represented and have room, and with any default
    written out, a text is read as before.  If the object repeats a key of the record or omits a
    field without a default, the text is refused, as it is if the root has no single tag that is
    the name of a kind. -/
theorem knownKeys_exact :
    (∀ entries : List (Option String × Json),
      (∀ kind : MetadataKind, Json.valuesOf tag entries ≠ [.text (some (Named.name kind))]) →
        ∀ s, Json.parse? s = some (.object entries) → ofText? s = none) ∧
    ∀ (kind : MetadataKind) (k : RecordKind) (plug : Json → Json)
      (modify : (k.Value → k.Value) → kind.Value → kind.Value),
      Position k (.record (.root kind)) plug modify →
      ∀ (before after : List (Option String × Json)) (s : String),
        Json.parse? s = some (plug (.object (before ++ after))) →
        TaggedAs kind (plug (.object (before ++ after))) →
        (∀ (entries : List (Option String × Json)) (t : String),
          (before ++ after).Perm entries → Json.parse? t = some (plug (.object entries)) →
          ofText? t = ofText? s) ∧
        (∀ (key : String) (v : Json) (t : String),
          Json.parse? t = some (plug (.object (before ++ (some key, v) :: after))) →
          ((∀ f ∈ k.table, f.key ≠ some key) → v.representable = true →
            (plug (.object (before ++ (some key, v) :: after))).depth ≤ levelLimit →
            ofText? t = ofText? s) ∧
          ∀ f ∈ k.table, f.key = some key →
            (∀ d, f.default? = some d → f.shape.Written d v →
              Json.valuesOf key (before ++ after) = [] → ofText? t = ofText? s) ∧
            (Json.valuesOf key (before ++ after) ≠ [] → ofText? t = none)) ∧
        ∀ f ∈ k.table, ∀ key : String, f.key = some key → f.default? = none → ∀ t,
          Json.parse? t = some (plug (.object ((before ++ after).filter (·.1 != some key)))) →
          ofText? t = none := by
  refine ⟨fun entries htag s hs => ?_, ?_⟩
  · exact ofText?_untagged (fun kind hkind => htag kind (taggedAs_object_iff.mp hkind)) hs
  intro kind k plug modify hposition before after s hs hkind
  refine ⟨fun entries t hperm ht => ?_, fun key v t ht => ⟨?_, ?_⟩, ?_⟩
  · exact (hposition.ofText?_perm hkind hperm hs ht).symm
  · intro hkey hv hdepth
    exact hposition.ofText?_insert hkind hv (RecordKind.decode_object_unknown hkey)
      (fun _ _ _ => hdepth) hs ht
  · intro f hf hkey
    refine ⟨fun d hd hv hfresh => ?_, fun htwice => ?_⟩
    · have hdecode := RecordKind.decode_object_default hf hkey
        ((Shape.decode_of_written hv).trans hd.symm) hfresh
      exact hposition.ofText?_insert hkind (Shape.representable_of_written hv) hdecode
        (fun _ ha => hposition.depth_default_le hf hd hv (some key) ha) hs ht
    · exact hposition.ofText?_eq_none
        (hposition.kind_of_edit (sameTag_insert before after key v) hkind)
        (RecordKind.decode_object_repeated hf hkey htwice) ht
  · intro f hf key hkey hdefault t ht
    exact hposition.ofText?_eq_none (hposition.kind_of_edit (sameTag_filter _ key) hkind)
      (RecordKind.decode_object_omitted hf hkey hdefault (valuesOf_filter_ne key _)) ht

/-- A facade of one part, with the entries of the part. -/
def facadeOfPart (entries : List (Option String × Json)) : Json :=
  .object [(some "kind", .ofString "multi_file_facade"),
    (some "part_classes", .array [.object entries])]

theorem knownKeys_exact_of_onePart :
    ofText? (facadeOfPart [(some "name", .ofString "a")]).compress =
      some (.multiFileFacade ⟨[⟨"a", none⟩]⟩) ∧
    ofText? (facadeOfPart [(some "x", .bool true), (some "name", .ofString "a")]).compress =
      some (.multiFileFacade ⟨[⟨"a", none⟩]⟩) ∧
    ofText? (facadeOfPart [(some "name", .ofString "a"), (some "x", .bool true)]).compress =
      some (.multiFileFacade ⟨[⟨"a", none⟩]⟩) ∧
    ofText? (facadeOfPart [(some "name", .ofString "a"),
        (some "referenced_class", .null)]).compress =
      some (.multiFileFacade ⟨[⟨"a", none⟩]⟩) ∧
    ofText? (facadeOfPart [(some "name", .ofString "a"), (some "name", .ofString "a")]).compress =
      none ∧
    ofText? (facadeOfPart []).compress = none ∧
    ofText? (Json.object [(some "kind", .ofString "facade")]).compress = none := by
  have hparse := fun entries => Json.parse?_compress (facadeOfPart entries)
  have hposition : Position .classRef (.record (.root .multiFileFacade))
      (fun j => .object ([(some "kind", .ofString "multi_file_facade")] ++
        [(some "part_classes", .array [j])])) _ :=
    .entry (i := 1) [(some "kind", .ofString "multi_file_facade")] [] rfl rfl
      (.item [] [] .here)
  have hkind : ∀ entries, TaggedAs .multiFileFacade (facadeOfPart entries) :=
    fun entries => taggedAs_object_iff.mpr rfl
  have hedits := fun before after => knownKeys_exact.2 _ _ _ _ hposition before after _
    (hparse _) (hkind _)
  have hread : ofText? (facadeOfPart [(some "name", .ofString "a")]).compress =
      some (.multiFileFacade ⟨[⟨"a", none⟩]⟩) := by
    rw [ofText?_of_parse (hparse _), if_pos (by decide)]
    rfl
  have hunknown := (((hedits [] [(some "name", .ofString "a")]).2.1 "x" (.bool true) _
    (hparse _)).1 (by decide) rfl (by decide)).trans hread
  have hperm := ((hedits [(some "x", .bool true)] [(some "name", .ofString "a")]).1 _ _
    (.swap _ _ _) (hparse _)).trans hunknown
  refine ⟨hread, hunknown, hperm, ?_, ?_, ?_, ?_⟩
  · refine Eq.trans ?_ hread
    exact (((hedits [(some "name", .ofString "a")] []).2.1 _ _ _ (hparse _)).2 _
      (List.mem_cons_of_mem _ List.mem_cons_self) rfl).1 _ rfl (.absent _) rfl
  · exact (((hedits [(some "name", .ofString "a")] []).2.1 _ _ _ (hparse _)).2 _
      List.mem_cons_self rfl).2 (by decide)
  · exact (hedits [(some "name", .ofString "a")] []).2.2 _ List.mem_cons_self "name" rfl rfl _
      (hparse [])
  · refine knownKeys_exact.1 _ (fun kind htag => ?_) _ (Json.parse?_compress _)
    have hname : some "facade" = some (Named.name kind) := Json.text.inj (List.cons.inj htag).1
    revert hname
    cases kind <;> decide

end Metadata

end KotlinMetadata
