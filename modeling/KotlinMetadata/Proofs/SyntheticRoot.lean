import KotlinMetadata.Proofs.MetadataJson

/-! # Synthetic classes in JSON

    The record of a synthetic class has a field under the key of the kind of the root.  As an
    object the root is written with that key twice, and the reader wants it once.

    - `Metadata.splitTag_toJson_eq_none`: a root whose record has a value under the key is refused;
    - `SyntheticClass.readsBack`: the record alone reads back, as that of any other root;
    - `SyntheticClass.toItems`: the root as an array, which has no keys and reads back;
    - `Metadata.kind_of_ofTree?_object`: an object is read as a regular synthetic class or as none;
    - `Metadata.syntheticClass_refused`: all this together.
-/

namespace KotlinMetadata

open Json (ReadsBack)

/-! ## The record -/

theorem SyntheticKind.ofName?_name (kind : SyntheticKind) :
    Named.ofName? (Named.name kind) = some kind := by
  cases kind <;> decide

namespace SyntheticClass

theorem readsBack (source : Json.Source) (s : SyntheticClass) :
    ReadsBack toJson (ofJson? source) s := by
  have hkind := (Json.readsBack_named source s.kind.ofName?_name).defaulted .regular
  have hfunctions := ReadsBack.items fun f (_ : f ∈ s.functions) => f.readsBack source
  refine ReadsBack.of_record rfl (by decide) rfl ?_ ?_
  · simp [hkind.representable, hfunctions.representable]
  · intro levels hfields hwithin
    simp only [List.forall_mem_cons] at hwithin
    obtain ⟨h1, h2, -⟩ := hwithin
    unfold ofJson?
    refine Json.bind_of_eq_some hfields ?_
    refine Json.bind_of_eq_some (hkind.reads _ h1) ?_
    refine Json.bind_of_eq_some (hfunctions.reads _ h2) ?_
    rfl

/-- Different records are written differently. -/
theorem eq_of_toJson_eq {s t : SyntheticClass} (h : s.toJson = t.toJson) : s = t := by
  have hs := (s.readsBack .direct).reads _ (Nat.le_refl _)
  have ht := (t.readsBack .direct).reads _ (Nat.le_refl _)
  rw [h, ht] at hs
  exact (Option.some.inj hs).symm

/-- An object without the key is read with the kind that is taken then. -/
theorem kind_of_ofJson?_object {source : Json.Source} {levels : Nat}
    {entries : List (Option String × Json)} {s : SyntheticClass}
    (hvalues : Json.valuesOf "kind" entries = [])
    (h : ofJson? source levels (.object entries) = some s) : s.kind = .regular := by
  have hslot : Json.slotOf entries "kind" = some none := by rw [Json.slotOf, hvalues]
  unfold ofJson? at h
  obtain ⟨slots, hfields, h⟩ := Option.bind_eq_some_iff.mp h
  -- The slot of the kind is empty, so that its default is read from it.
  obtain ⟨functions, rfl⟩ : ∃ functions, slots = [none, functions] := by
    unfold Json.fields at hfields
    split at hfields
    · cases hfields
    · cases hother : Json.slotOf entries "functions" with
      | none => simp [keys, hslot, hother] at hfields
      | some functions =>
        simp only [keys, List.mapM_cons, List.mapM_nil, hslot, hother,
          Option.ite_none_right_eq_some] at hfields
        exact ⟨functions, (Option.some.inj hfields.2).symm⟩
  obtain ⟨kind, hkind, h⟩ := Option.bind_eq_some_iff.mp h
  obtain ⟨_, -, h⟩ := Option.bind_eq_some_iff.mp h
  obtain rfl := Option.some.inj h
  exact (Option.some.inj hkind).symm

/-- The fields of the record in order. -/
def items (s : SyntheticClass) : List Json :=
  [.ofNamed s.kind, .array (s.functions.map FunctionDecl.toJson)]

/-- The root as an array: its kind, then the fields of the record in order. -/
def toItems (s : SyntheticClass) : Json :=
  .array (.ofNamed MetadataKind.syntheticClass :: s.items)

/-- The record is read from its fields in order, which have no keys. -/
theorem ofJson?_items (source : Json.Source) (s : SyntheticClass) {levels : Nat}
    (hlevels : (Json.array s.items).depth ≤ levels) :
    ofJson? source levels (.array s.items) = some s := by
  have hdepth : Json.depthOfItems s.items + 1 ≤ levels := hlevels
  have hwithin := Json.depthOfItems_le.mp (Nat.le_sub_of_add_le hdepth)
  obtain ⟨h1, h2, -⟩ := List.forall_mem_cons.mp hwithin |>.imp_right List.forall_mem_cons.mp
  have hopen : levels ≠ 0 := by omega
  have hfields : (Json.array s.items).fields levels keys = some (s.items.map some) := by
    rw [Json.fields, if_neg hopen]
    rfl
  have hlist := ReadsBack.list fun f (_ : f ∈ s.functions) => f.readsBack source
  unfold ofJson?
  refine Json.bind_of_eq_some hfields ?_
  refine Json.bind_of_eq_some ((Json.readsBack_named source s.kind.ofName?_name).reads _ h1) ?_
  refine Json.bind_of_eq_some (hlist.reads _ h2) ?_
  rfl

theorem representable_toItems (s : SyntheticClass) : s.toItems.representable = true := by
  have hlist := ReadsBack.list fun f (_ : f ∈ s.functions) => f.readsBack .direct
  rw [toItems, items, Json.representable, Json.itemsRepresentable_iff]
  simp only [List.forall_mem_cons]
  exact ⟨rfl, rfl, hlist.representable, List.forall_mem_nil _⟩

end SyntheticClass

namespace Metadata

/-! ## Objects -/

/-- The key of the kind may stand once, so that a record has no room for it. -/
theorem splitTag_toJson_eq_none {m : Metadata} {names : List String} {slots : List (Option Json)}
    (hbody : m.bodyToJson = .record names slots)
    (hvalues : Json.valuesOf tag (Json.recordEntries names slots) ≠ []) :
    splitTag m.toJson = none := by
  have htwice : Json.valuesOf tag ((some tag, .ofNamed m.kind) :: Json.recordEntries names slots) =
      .ofNamed m.kind :: Json.valuesOf tag (Json.recordEntries names slots) := by
    rw [Json.valuesOf, List.filter_cons_of_pos (by simp), List.map_cons]
    rfl
  obtain ⟨value, values, heq⟩ := List.exists_cons_of_ne_nil hvalues
  rw [toJson_of_record hbody, splitTag, htwice, heq]
  simp

theorem splitTag_syntheticClass (s : SyntheticClass) :
    splitTag (syntheticClass s).toJson = none := by
  have hvalues : Json.valuesOf tag (Json.recordEntries SyntheticClass.keys
      [some (.ofNamed s.kind), Json.listSlot FunctionDecl.toJson s.functions]) ≠ [] := by
    rw [SyntheticClass.keys, Json.recordEntries_cons, Json.valuesOf_append]
    exact List.append_ne_nil_of_left_ne_nil (List.cons_ne_nil _ _) _
  exact splitTag_toJson_eq_none rfl hvalues

/-- What splits off no kind is refused. -/
theorem ofTree?_of_splitTag_eq_none {j : Json} (h : splitTag j = none) : ofTree? j = none := by
  unfold ofTree?
  rw [h]
  exact Option.bind_fun_none _

theorem ofText?_syntheticClass (s : SyntheticClass) : ofText? (syntheticClass s).text = none := by
  rw [ofText?, parse?_text, Option.bind_some, ofJson?,
    ofTree?_of_splitTag_eq_none (splitTag_syntheticClass s)]
  exact ite_self _

theorem body_of_splitTag_object {entries : List (Option String × Json)} {name : String}
    {body : Json} (h : splitTag (.object entries) = some (name, body)) :
    body = .object (entries.filter (·.1 != some tag)) := by
  simp only [splitTag] at h
  split at h
  · exact (Prod.mk.inj (Option.some.inj h)).2.symm
  · cases h

theorem valuesOf_filter_ne (name : String) (entries : List (Option String × Json)) :
    Json.valuesOf name (entries.filter (·.1 != some name)) = [] := by
  rw [Json.valuesOf, List.map_eq_nil_iff, List.filter_eq_nil_iff]
  intro e he
  simpa using (List.mem_filter.mp he).2

/-- The reader takes the kind of the root out of an object, and the record goes without. -/
theorem kind_of_ofTree?_object {entries : List (Option String × Json)} {s : SyntheticClass}
    (h : ofTree? (.object entries) = some (syntheticClass s)) : s.kind = .regular := by
  unfold ofTree? at h
  obtain ⟨-, -, h⟩ := Option.bind_eq_some_iff.mp h
  obtain ⟨⟨name, body⟩, hsplit, h⟩ := Option.bind_eq_some_iff.mp h
  obtain ⟨kind, -, hread⟩ := Option.bind_eq_some_iff.mp h
  rw [body_of_splitTag_object hsplit] at hread
  cases kind with
  | syntheticClass =>
    obtain ⟨t, ht, heq⟩ := Option.map_eq_some_iff.mp hread
    obtain rfl := Metadata.syntheticClass.inj heq
    exact SyntheticClass.kind_of_ofJson?_object (valuesOf_filter_ne "kind" entries) ht
  | _ =>
    obtain ⟨_, -, heq⟩ := Option.map_eq_some_iff.mp hread
    cases heq

/-! ## Arrays -/

/-- An array has the kind of the root first, and then the fields of the record. -/
theorem ofTree?_toItems (s : SyntheticClass) : ofTree? s.toItems = some (syntheticClass s) := by
  have hguard : guard (s.toItems.representable = true) = some () := if_pos s.representable_toItems
  have hsplit : splitTag s.toItems =
      some (Named.name MetadataKind.syntheticClass, .array s.items) := rfl
  have hdepth : (Json.array s.items).depth ≤ s.toItems.depth := by
    rw [SyntheticClass.toItems, Json.depth, Json.depth, Json.depthOfItems]
    omega
  unfold ofTree?
  refine Json.bind_of_eq_some hguard ?_
  refine Json.bind_of_eq_some hsplit ?_
  refine Json.bind_of_eq_some (MetadataKind.ofName?_name .syntheticClass) ?_
  exact congrArg (Option.map syntheticClass) (s.ofJson?_items .buffered hdepth)

/-! ## Texts -/

/-- The record of every root is an object. -/
theorem exists_bodyToJson_eq (m : Metadata) :
    ∃ names slots, m.bodyToJson = .record names slots := by
  cases m <;> exact ⟨_, _, rfl⟩

/-- The text of a synthetic class says which it is, as does that of any other root. -/
theorem eq_syntheticClass_of_text_eq {m : Metadata} {s : SyntheticClass}
    (h : m.text = (syntheticClass s).text) : m = syntheticClass s := by
  have htree : m.toJson = (syntheticClass s).toJson := by
    have hparse := m.parse?_text
    rw [h, parse?_text] at hparse
    exact (Option.some.inj hparse).symm
  obtain ⟨names, slots, hbody⟩ := m.exists_bodyToJson_eq
  rw [toJson_of_record hbody, toJson_of_record (m := syntheticClass s) rfl] at htree
  obtain ⟨hhead, hrest⟩ := List.cons.inj (Json.object.inj htree)
  have hname : Named.name m.kind = Named.name MetadataKind.syntheticClass :=
    Option.some.inj (Json.text.inj (Prod.mk.inj hhead).2)
  have hkind : m.kind = .syntheticClass := by
    have hread := m.kind.ofName?_name
    rw [hname, MetadataKind.ofName?_name] at hread
    exact (Option.some.inj hread).symm
  cases m with
  | syntheticClass t =>
    have hrecord : t.toJson = s.toJson := hbody.trans (congrArg Json.object hrest)
    rw [SyntheticClass.eq_of_toJson_eq hrecord]
  | _ => cases hkind

/-- **Synthetic classes do not read back**: the text of such a root is refused, whatever it has in
    it and however little it nests, since the key of its kind stands there twice.  Nothing is lost
    in the text: no other root is written like this, and the record alone reads back.  As an array
    the root would be read, within the limit of nesting; as an object it can be read only if it is
    a regular one. -/
theorem syntheticClass_refused (s : SyntheticClass) :
    ofText? (syntheticClass s).text = none ∧
    (∀ m : Metadata, m.text = (syntheticClass s).text → m = syntheticClass s) ∧
    (∀ levels, s.toJson.depth ≤ levels → SyntheticClass.ofJson? .direct levels s.toJson = some s) ∧
    (s.toItems.depth ≤ levelLimit → ofText? s.toItems.compress = some (syntheticClass s)) ∧
    ∀ entries, ofTree? (.object entries) = some (syntheticClass s) → s.kind = .regular := by
  refine ⟨ofText?_syntheticClass s, fun m => eq_syntheticClass_of_text_eq,
    (s.readsBack .direct).reads, fun hdepth => ?_, fun entries => kind_of_ofTree?_object⟩
  rw [ofText?, Json.parse?_compress, Option.bind_some, ofJson?, if_pos hdepth, ofTree?_toItems]

/-- A lambda without functions. -/
theorem syntheticClass_refused_of_lambda :
    ofText? (syntheticClass { kind := .lambda }).text = none ∧
    ofText? (SyntheticClass.toItems { kind := .lambda }).compress =
      some (syntheticClass { kind := .lambda }) := by
  obtain ⟨hrefused, -, -, hitems, -⟩ := syntheticClass_refused { kind := .lambda }
  exact ⟨hrefused, hitems (by decide)⟩

/-- The least synthetic class there is nests one level deep and does not read back. -/
theorem not_readsBack_of_least_syntheticClass :
    Json.nesting (syntheticClass {}).text ≤ levelLimit ∧
    ofText? (syntheticClass {}).text ≠ some (syntheticClass {}) := by
  refine ⟨?_, ?_⟩
  · rw [text, Json.nesting_compress]
    decide
  · rw [ofText?_syntheticClass]
    exact (Option.some_ne_none _).symm

end Metadata

end KotlinMetadata
