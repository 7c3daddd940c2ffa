import KotlinMetadata.Proofs.TreePosition

/-! # Written forms of metadata

    A record may be written as an array of its fields in order or as an object with their keys, and
    so may every record in it, whichever way the others are written.

    - `Shape.Written`: a tree is a written form of a value;
    - `Shape.decode_of_written`: every written form is decoded to its value;
    - `RecordKind.withDefaults`: a record with its last fields at their defaults;
    - `Metadata.writtenForms_exact`: texts with any of these forms, with arrays that are cut short,
      and with arrays that are too short or too long.
-/

namespace KotlinMetadata

/-! ## Plain values -/

/-- A plain value reads back, as a written name or number does. -/
theorem PlainKind.readsBack (p : PlainKind) (a : p.Value) : Json.ReadsBack p.write p.read a := by
  cases p with
  | text => exact Json.readsBack_text a
  | bool => exact Json.readsBack_bool a
  | uint32 => exact Json.readsBack_uint32 a
  | uint64 => exact Json.readsBack_uint64 a
  | classId => exact ClassId.readsBack a
  | memberId => exact MemberId.readsBack a
  | variance => exact Json.readsBack_named .buffered a.ofName?_name
  | requirementLevel => exact Json.readsBack_named .buffered a.ofName?_name
  | syntheticKind => exact Json.readsBack_named .buffered a.ofName?_name
  | tag kind => exact ⟨fun _ _ => if_pos rfl, rfl, nofun⟩

/-! ## Written forms -/

/-- The tree is a written form of the value. -/
inductive Shape.Written : (s : Shape) → s.Value → Json → Prop
  | plain (p : PlainKind) (a : p.Value) : Written (.plain p) a (p.write a)
  /-- An absent value is null. -/
  | absent (s : Shape) : Written (.option s) (none : Option s.Value) .null
  | present {s : Shape} {a : s.Value} {j : Json} (hj : j ≠ .null) (h : Written s a j) :
      Written (.option s) (some a : Option s.Value) j
  /-- A list is the array of its items. -/
  | list {s : Shape} {as : List s.Value} {items : List Json} (hlength : items.length = as.length)
      (h : ∀ (i : Nat) (a : s.Value) (j : Json), as[i]? = some a → items[i]? = some j →
        Written s a j) :
      Written (.list s) as (.array items)
  /-- A record is an array of its fields in order.  At the end fields at their defaults may be left
      out. -/
  | array {k : RecordKind} {a : k.Value} {items : List Json}
      (hlength : items.length ≤ k.table.length)
      (hgiven : ∀ (i : Nat) (f : Field k.Value) (j : Json), k.table[i]? = some f →
        items[i]? = some j → Written f.shape (f.get a) j)
      (hleft : ∀ (i : Nat) (f : Field k.Value), k.table[i]? = some f → items.length ≤ i →
        f.default? = some (f.get a)) :
      Written (.record k) a (.array items)
  /-- A record is an object with its fields in any order.  Fields at their defaults may be left
      out. -/
  | object {k : RecordKind} {a : k.Value} {entries : List (Option String × Json)}
      (hkeys : ∀ e ∈ entries, e.1.isSome = true ∧ ∃ f ∈ k.table, f.key = e.1)
      (hdistinct : (entries.map (·.1)).Nodup)
      (hgiven : ∀ e ∈ entries, ∀ f ∈ k.table, f.key = e.1 → Written f.shape (f.get a) e.2)
      (hleft : ∀ f ∈ k.table, f.key ∉ entries.map (·.1) → f.default? = some (f.get a)) :
      Written (.record k) a (.object entries)

namespace Shape.Written
variable {k : RecordKind} {a : k.Value}

/-- All fields of a record in order. -/
theorem ofFields {items : List Json}
    (h : List.Forall₂ (fun f j => f.shape.Written (f.get a) j) k.table items) :
    (Shape.record k).Written a (.array items) := by
  obtain ⟨hlength, hget⟩ := List.forall₂_iff_get.mp h
  refine .array (Nat.le_of_eq hlength.symm) (fun i f j hf hj => ?_) (fun i f hf hi => ?_)
  · obtain ⟨hi, rfl⟩ := List.getElem?_eq_some_iff.mp hf
    obtain ⟨hi', rfl⟩ := List.getElem?_eq_some_iff.mp hj
    exact hget i hi hi'
  · obtain ⟨hlt, -⟩ := List.getElem?_eq_some_iff.mp hf
    omega

/-- All fields of a record that has a key for each, in order. -/
theorem ofEntries {entries : List (Option String × Json)}
    (htexts : ∀ f ∈ k.table, f.key.isSome = true)
    (h : List.Forall₂ (fun f e => f.key = e.1 ∧ f.shape.Written (f.get a) e.2) k.table entries) :
    (Shape.record k).Written a (.object entries) := by
  have hmap : k.table.map Field.key = entries.map (·.1) := by
    rw [← List.forall₂_eq_eq_eq, List.forall₂_map_left_iff, List.forall₂_map_right_iff]
    exact h.imp fun f e hfe => hfe.1
  have hpaired : ∀ e ∈ entries, ∃ f ∈ k.table, f.key = e.1 ∧ f.shape.Written (f.get a) e.2 := by
    obtain ⟨hlength, hget⟩ := List.forall₂_iff_get.mp h
    intro e he
    obtain ⟨i, hi, rfl⟩ := List.getElem_of_mem he
    exact ⟨_, List.getElem_mem (hlength ▸ hi), hget i (hlength ▸ hi) hi⟩
  refine .object (fun e he => ?_) ?_ (fun e he f hf hkey => ?_) (fun f hf hleft => ?_)
  · obtain ⟨f, hf, hkey, -⟩ := hpaired e he
    exact ⟨hkey ▸ htexts f hf, f, hf, hkey⟩
  · rw [← hmap]
    refine List.pairwise_map.mpr (k.table_keys_distinct.imp_of_mem fun hf _ hdistinct => ?_)
    rcases hdistinct with hnone | hne
    · have htext := htexts _ hf
      rw [hnone] at htext
      cases htext
    · exact hne
  · obtain ⟨g, hg, hgkey, hwritten⟩ := hpaired e he
    obtain ⟨name, hname⟩ := Option.isSome_iff_exists.mp (htexts f hf)
    obtain rfl := RecordKind.eq_of_key_eq hf hg hname (by rw [hgkey, ← hkey, hname])
    exact hwritten
  · exact absurd (hmap ▸ List.mem_map_of_mem hf) hleft

/-- All items of a list. -/
theorem ofItems {s : Shape} {as : List s.Value} {items : List Json}
    (h : List.Forall₂ s.Written as items) : (Shape.list s).Written as (.array items) := by
  obtain ⟨hlength, hget⟩ := List.forall₂_iff_get.mp h
  refine .list hlength.symm fun i a j ha hj => ?_
  obtain ⟨hi, rfl⟩ := List.getElem?_eq_some_iff.mp ha
  obtain ⟨hi', rfl⟩ := List.getElem?_eq_some_iff.mp hj
  exact hget i hi hi'

end Shape.Written

namespace Json

theorem representable_take {items : List Json} (n : Nat)
    (h : (array items).representable = true) : (array (items.take n)).representable = true := by
  rw [representable, itemsRepresentable_iff] at h ⊢
  exact fun j hj => h j (List.mem_of_mem_take hj)

/-- A key that is given once has one value. -/
theorem valuesOf_of_nodup {entries : List (Option String × Json)}
    (hdistinct : (entries.map (·.1)).Nodup) {name : String} {j : Json}
    (h : (some name, j) ∈ entries) : valuesOf name entries = [j] := by
  induction entries with
  | nil => cases h
  | cons e entries ih =>
    rw [List.map_cons, List.nodup_cons] at hdistinct
    rcases List.mem_cons.mp h with rfl | h
    · have hrest : valuesOf name entries = [] := by
        rw [valuesOf, List.map_eq_nil_iff, List.filter_eq_nil_iff]
        intro e he heq
        exact hdistinct.1 (List.mem_map.mpr ⟨e, he, eq_of_beq heq⟩)
      rw [valuesOf_cons_self, hrest]
    · have hne : e.1 ≠ some name := fun heq =>
        hdistinct.1 (heq ▸ List.mem_map_of_mem h)
      rw [valuesOf_cons_of_ne hne, ih hdistinct.2 h]

theorem valuesOf_of_not_mem {entries : List (Option String × Json)} {name : String}
    (h : some name ∉ entries.map (·.1)) : valuesOf name entries = [] := by
  rw [valuesOf, List.map_eq_nil_iff, List.filter_eq_nil_iff]
  intro e he heq
  exact h (List.mem_map.mpr ⟨e, he, eq_of_beq heq⟩)

end Json

namespace Shape

/-- Every written form is decoded to its value. -/
theorem decode_of_written {s : Shape} {a : s.Value} {j : Json} (h : s.Written a j) :
    s.decode j = some a := by
  induction h with
  | plain p a => exact (p.readsBack a).reads _ (Nat.le_refl _)
  | absent s => exact decode_option_null s
  | present hj _ ih => rw [decode_option_of_ne hj, ih]; rfl
  | @list s as items hlength _ ih =>
    rw [decode_list_array]
    refine mapM_eq_some_iff.mpr (List.forall₂_iff_get.mpr ⟨hlength, fun i hi hi' => ?_⟩)
    exact ih i _ _ (List.getElem?_eq_getElem hi') (List.getElem?_eq_getElem hi)
  | @array k a items hlength _ hleft ih =>
    refine (k.decode_array items a).mpr ⟨hlength, fun i f hf => ?_⟩
    cases hitem : items[i]? with
    | none => exact hleft i f hf (List.getElem?_eq_none_iff.mp hitem)
    | some j => exact ih i f j hf hitem
  | @object k a entries hkeys hdistinct _ hleft ih =>
    refine (k.decode_object entries a).mpr ⟨fun e he => (hkeys e he).1, fun f hf => ?_⟩
    by_cases hgiven : f.key ∈ entries.map (·.1)
    · obtain ⟨⟨key, j⟩, he, hkey⟩ := List.mem_map.mp hgiven
      obtain ⟨name, hname⟩ := Option.isSome_iff_exists.mp (hkeys _ he).1
      dsimp only at hkey hname
      subst hname
      refine ⟨some j, ?_, ih _ he f hf hkey.symm⟩
      rw [← hkey, Json.slotAt, RecordKind.slotOf_eq_some_some_iff]
      exact Json.valuesOf_of_nodup hdistinct he
    · refine ⟨none, ?_, hleft f hf hgiven⟩
      cases hkey : f.key with
      | none => rfl
      | some name =>
        rw [hkey] at hgiven
        rw [Json.slotAt, Json.slotOf, Json.valuesOf_of_not_mem hgiven]

/-- Every written form can be represented. -/
theorem representable_of_written {s : Shape} {a : s.Value} {j : Json} (h : s.Written a j) :
    j.representable = true := by
  induction h with
  | plain p a => exact (p.readsBack a).representable
  | absent s => rfl
  | present _ _ ih => exact ih
  | @list s as items hlength _ ih =>
    rw [Json.representable, Json.itemsRepresentable_iff]
    intro j hj
    obtain ⟨i, hi, rfl⟩ := List.getElem_of_mem hj
    have ha := List.getElem?_eq_getElem (hlength ▸ hi)
    exact ih i _ _ ha (List.getElem?_eq_getElem hi)
  | @array k a items hlength _ hleft ih =>
    rw [Json.representable, Json.itemsRepresentable_iff]
    intro j hj
    obtain ⟨i, hi, rfl⟩ := List.getElem_of_mem hj
    have hf := List.getElem?_eq_getElem (Nat.lt_of_lt_of_le hi hlength)
    exact ih i _ _ hf (List.getElem?_eq_getElem hi)
  | @object k a entries hkeys hdistinct _ hleft ih =>
    rw [Json.representable, Json.entriesRepresentable_iff]
    intro e he
    obtain ⟨htext, f, hf, hkey⟩ := hkeys e he
    exact ⟨htext, ih e he f hf hkey⟩

end Shape

/-! ## Defaults -/

namespace Field
variable {α : Type}

/-- The record with the fields that have defaults at these. -/
def setDefaults : List (Field α) → α → α
  | [], a => a
  | f :: fields, a =>
    setDefaults fields (match f.default? with
      | some v => f.set v a
      | none => a)

theorem get_setDefaults_of_apart {f : Field α} {fields : List (Field α)}
    (h : ∀ g ∈ fields, f.Apart g) (a : α) : f.get (setDefaults fields a) = f.get a := by
  induction fields generalizing a with
  | nil => rfl
  | cons g fields ih =>
    obtain ⟨hg, hfields⟩ := List.forall_mem_cons.mp h
    rw [setDefaults, ih hfields]
    cases g.default? with
    | none => rfl
    | some v => exact (hg a).1 v

theorem get_setDefaults_of_mem {fields : List (Field α)} (h : Independent fields) {f : Field α}
    (hf : f ∈ fields) {v : f.shape.Value} (hv : f.default? = some v) (a : α) :
    f.get (setDefaults fields a) = v := by
  induction fields generalizing a with
  | nil => cases hf
  | cons g fields ih =>
    rw [setDefaults]
    rcases List.mem_cons.mp hf with rfl | hf
    · rw [get_setDefaults_of_apart (List.pairwise_cons.mp h.apart).1]
      simp only [hv]
      exact h.get_set f List.mem_cons_self v a
    · exact ih h.tail hf _

end Field

namespace RecordKind

/-- The record with its fields from the given one on at their defaults. -/
def withDefaults (k : RecordKind) (n : Nat) (a : k.Value) : k.Value :=
  Field.setDefaults (k.table.drop n) a

theorem get_withDefaults_of_lt {k : RecordKind} {n i : Nat} {f : Field k.Value}
    (hf : k.table[i]? = some f) (hi : i < n) (a : k.Value) :
    f.get (k.withDefaults n a) = f.get a := by
  have hsplit := k.table_independent.apart
  rw [← List.take_append_drop n k.table, List.pairwise_append] at hsplit
  have hmem : f ∈ k.table.take n := by
    rw [← List.getElem?_take_of_lt hi] at hf
    exact List.mem_of_getElem? hf
  exact Field.get_setDefaults_of_apart (hsplit.2.2 f hmem) a

theorem get_withDefaults_of_le {k : RecordKind} {n i : Nat} {f : Field k.Value}
    (hf : k.table[i]? = some f) (hi : n ≤ i) {v : f.shape.Value} (hv : f.default? = some v)
    (a : k.Value) : f.get (k.withDefaults n a) = v := by
  have hmem : f ∈ k.table.drop n := by
    obtain ⟨d, rfl⟩ := Nat.exists_eq_add_of_le hi
    rw [← List.getElem?_drop] at hf
    exact List.mem_of_getElem? hf
  exact Field.get_setDefaults_of_mem (k.table_independent.drop n) hmem hv a

/-- An array that is cut short where all fields have defaults. -/
theorem decode_take {k : RecordKind} {items : List Json} {n : Nat}
    (hdefaults : ∀ f ∈ k.table.drop n, f.default? ≠ none) {a : k.Value}
    (ha : (Shape.record k).decode (.array items) = some a) :
    (Shape.record k).decode (.array (items.take n)) = some (k.withDefaults n a) := by
  obtain ⟨hlength, hall⟩ := (k.decode_array items a).mp ha
  refine (k.decode_array _ _).mpr ⟨?_, fun i f hf => ?_⟩
  · exact Nat.le_trans (List.length_take_le' n items) hlength
  · by_cases hi : i < n
    · rw [List.getElem?_take_of_lt hi, Field.Decodes, get_withDefaults_of_lt hf hi]
      exact hall i f hf
    · have hle : n ≤ i := Nat.le_of_not_lt hi
      have hmem : f ∈ k.table.drop n := by
        obtain ⟨d, rfl⟩ := Nat.exists_eq_add_of_le hle
        rw [← List.getElem?_drop] at hf
        exact List.mem_of_getElem? hf
      obtain ⟨v, hv⟩ := Option.ne_none_iff_exists'.mp (hdefaults f hmem)
      have hend : (items.take n)[i]? = none :=
        List.getElem?_eq_none (Nat.le_trans (List.length_take_le n items) hle)
      rw [hend, Field.Decodes, get_withDefaults_of_le hf hle hv]
      exact hv

/-- An array that is too long, or ends before a field without a default. -/
theorem decode_array_eq_none {k : RecordKind} {items : List Json}
    (h : k.table.length < items.length ∨ ∃ f ∈ k.table.drop items.length, f.default? = none) :
    (Shape.record k).decode (.array items) = none := by
  refine Option.eq_none_iff_forall_ne_some.mpr fun a ha => ?_
  obtain ⟨hlength, hall⟩ := (k.decode_array items a).mp ha
  rcases h with hlong | ⟨f, hf, hnone⟩
  · omega
  · obtain ⟨d, hd⟩ := List.getElem?_of_mem hf
    rw [List.getElem?_drop] at hd
    have hdecodes := hall _ f hd
    rw [List.getElem?_eq_none (Nat.le_add_right _ _)] at hdecodes
    rw [Field.Decodes, Field.decodeSlot, hnone] at hdecodes
    cases hdecodes

end RecordKind

/-! ## Texts -/

namespace Metadata

/-- The tree is a written form of the root: its tag and its fields. -/
def Written (m : Metadata) (j : Json) : Prop := (Shape.record (.root m.kind)).Written m.value j

/-- **Written forms**: a text with a written form of a root is read as that root if it does not nest
    too deep, whichever records in it are arrays and whichever are objects.  Wherever an array
    stands for a record, it may be cut short where all fields have defaults, and the record then
    has these; cut short before a field that has none, or with more items than fields, the text
    is refused. -/
theorem writtenForms_exact :
    (∀ (m : Metadata) (j : Json), m.Written j → j.depth ≤ levelLimit →
      ∀ s, Json.parse? s = some j → ofText? s = some m) ∧
    ∀ (kind : MetadataKind) (k : RecordKind) (plug : Json → Json)
      (modify : (k.Value → k.Value) → kind.Value → kind.Value),
      Position k (.record (.root kind)) plug modify → ∀ items : List Json,
        (∀ (n : Nat) (a : kind.Value) (s t : String),
          Json.parse? s = some (plug (.array items)) →
          Json.parse? t = some (plug (.array (items.take n))) →
          (∀ f ∈ k.table.drop n, f.default? ≠ none) →
          ofText? s = some (kind.wrap a) →
          ofText? t = some (kind.wrap (modify (k.withDefaults n) a))) ∧
        ((k.table.length < items.length ∨ ∃ f ∈ k.table.drop items.length, f.default? = none) →
          (∀ other, TaggedAs other (plug (.array items)) → other = kind) →
          ∀ s, Json.parse? s = some (plug (.array items)) → ofText? s = none) := by
  refine ⟨fun m j hwritten hdepth s hs => ?_, fun kind k plug modify hposition items => ⟨?_, ?_⟩⟩
  · have hread : ofTree? j = some (m.kind.wrap m.value) := ofTree?_eq_some_iff.mpr
      ⟨Shape.representable_of_written hwritten, Shape.decode_of_written hwritten⟩
    rw [ofText?_of_parse hs, if_pos hdepth, hread, m.wrap_value]
  · intro n a s t hs ht hdefaults hread
    rw [ofText?_of_parse hs] at hread
    obtain ⟨hdepth, hread⟩ := Option.ite_none_right_eq_some.mp hread
    obtain ⟨hrep, hdecode⟩ := ofTree?_eq_some_iff.mp hread
    -- The shorter array nests no deeper and can be represented if the longer one can.
    have hdepth' := hposition.depth_plug_mono
      (Json.depth_array_le_of_subset (List.take_subset n items))
    have hrep' := hposition.representable_plug (Json.representable_take n) hrep
    have hdecode' := hposition.decode_modify (i := .array items) (j := .array (items.take n))
      nofun nofun (fun b => RecordKind.decode_take hdefaults) hdecode
    rw [ofText?_of_parse ht, if_pos (Nat.le_trans hdepth' hdepth)]
    exact ofTree?_eq_some_iff.mpr ⟨hrep', hdecode'⟩
  · intro hlength hkind s hs
    have hnone := hposition.decode_eq_none (j := .array items) nofun
      (RecordKind.decode_array_eq_none hlength)
    rw [ofText?_of_parse hs, ofTree?_eq_none hkind hnone]
    exact ite_self _

/-- A facade of two parts, one an array and one an object. -/
def mixedForms : Json :=
  .array [.ofString "multi_file_facade", .array [.array [.ofString "a", .ofNat 7],
    .object [(some "name", .ofString "b"), (some "referenced_class", .null)]]]

theorem writtenForms_exact_of_mixedForms :
    ofText? mixedForms.compress = some (.multiFileFacade ⟨[⟨"a", some ⟨7⟩⟩, ⟨"b", none⟩]⟩) ∧
    ofText? (Json.array [.ofString "multi_file_facade", .array [.array [.ofString "a"],
      .object [(some "name", .ofString "b"), (some "referenced_class", .null)]]]).compress =
        some (.multiFileFacade ⟨[⟨"a", none⟩, ⟨"b", none⟩]⟩) ∧
    ofText? (Json.array [.ofString "multi_file_facade", .array [.array []]]).compress = none ∧
    ofText? (Json.array [.ofString "synthetic_class", .ofString "lambda", .array []]).compress =
      some (.syntheticClass { kind := .lambda }) := by
  have hname : ∀ name, (Shape.plain .text).Written name (.ofString name) := .plain .text
  have htarget : ∀ id, (Shape.plain .classId).Written id id.toJson := .plain .classId
  have hfirst : (Shape.record .classRef).Written ⟨"a", some ⟨7⟩⟩
      (.array [.ofString "a", .ofNat 7]) :=
    .ofFields (.cons (hname "a") (.cons (.present nofun (htarget ⟨7⟩)) .nil))
  have hsecond : (Shape.record .classRef).Written ⟨"b", none⟩
      (.object [(some "name", .ofString "b"), (some "referenced_class", .null)]) :=
    .ofEntries (by decide) (.cons ⟨rfl, hname "b"⟩ (.cons ⟨rfl, .absent _⟩ .nil))
  have hwritten : Written (.multiFileFacade ⟨[⟨"a", some ⟨7⟩⟩, ⟨"b", none⟩]⟩) mixedForms :=
    .ofFields (.cons (.plain (.tag .multiFileFacade) ())
      (.cons (.ofItems (.cons hfirst (.cons hsecond .nil))) .nil))
  have hlambda : Written (.syntheticClass { kind := .lambda })
      (.array [.ofString "synthetic_class", .ofString "lambda", .array []]) :=
    .ofFields (.cons (.plain (.tag .syntheticClass) ())
      (.cons (.plain .syntheticKind .lambda) (.cons (.ofItems .nil) .nil)))
  have hread := writtenForms_exact.1 _ mixedForms hwritten (by decide) _ (Json.parse?_compress _)
  have hposition := fun after : List Json =>
    Position.element (r := .root .multiFileFacade) [.ofString "multi_file_facade"] [] rfl
      (.item [] after (.here (k := .classRef)))
  refine ⟨hread, ?_, ?_, ?_⟩
  · exact (writtenForms_exact.2 .multiFileFacade .classRef _ _ (hposition _) _).1 1 _ _ _
      (Json.parse?_compress mixedForms) (Json.parse?_compress _) (by decide) hread
  · refine (writtenForms_exact.2 .multiFileFacade .classRef _ _ (hposition []) []).2 ?_ ?_ _
      (Json.parse?_compress _)
    · exact .inr ⟨_, List.mem_cons_self, rfl⟩
    · exact fun other => TaggedAs.unique (taggedAs_array_iff.mpr rfl)
  · exact writtenForms_exact.1 _ _ hlambda (by decide) _ (Json.parse?_compress _)

end Metadata

end KotlinMetadata
