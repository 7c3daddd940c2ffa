import KotlinMetadata.Proofs.RecordDecoding

/-! # Positions of records in a tree

    A record stands somewhere in a tree: at the root, in a field, in a list, and so on inside.
    What the tree is decoded to depends on the record only through the value of the record.

    - `Position`: where a record may stand, with what is around it;
    - `IsRest`, `Position.exists_rest`: what the rest of the tree says about the value of the whole;
    - `Position.decode_congr`, `Position.decode_modify`, `Position.decode_eq_none`: what comes of
      another tree for the record;
    - `Position.taggedAs_plug`: the tag of the root does not change with a record further in.
-/

namespace KotlinMetadata

/-- A record of kind `k` may stand in a tree of a shape.

    With the tree for the record the first function makes the whole tree; the second one changes
    the record within the value of the whole. -/
inductive Position (k : RecordKind) :
    (s : Shape) → (Json → Json) → ((k.Value → k.Value) → s.Value → s.Value) → Prop
  /-- The tree is that of the record. -/
  | here : Position k (.record k) (fun j => j) (fun g => g)
  /-- The record stands in a value that may be absent. -/
  | present {s : Shape} {plug : Json → Json} {modify : (k.Value → k.Value) → s.Value → s.Value}
      (inside : Position k s plug modify) :
      Position k (.option s) plug (fun g => Option.map (modify g))
  /-- The record stands in an item of a list. -/
  | item {s : Shape} {plug : Json → Json} {modify : (k.Value → k.Value) → s.Value → s.Value}
      (before after : List Json) (inside : Position k s plug modify) :
      Position k (.list s) (fun j => .array (before ++ plug j :: after))
        (fun g (as : List s.Value) => as.modify before.length (modify g))
  /-- The record stands in a field of another one, which is an object. -/
  | entry {r : RecordKind} {i : Nat} {f : Field r.Value} {name : String}
      {plug : Json → Json} {modify : (k.Value → k.Value) → f.shape.Value → f.shape.Value}
      (before after : List (Option String × Json)) (hf : r.table[i]? = some f)
      (hkey : f.key = some name) (inside : Position k f.shape plug modify) :
      Position k (.record r) (fun j => .object (before ++ (some name, plug j) :: after))
        (fun g a => f.set (modify g (f.get a)) a)
  /-- The record stands in a field of another one, which is an array. -/
  | element {r : RecordKind} {f : Field r.Value} {plug : Json → Json}
      {modify : (k.Value → k.Value) → f.shape.Value → f.shape.Value}
      (before after : List Json) (hf : r.table[before.length]? = some f)
      (inside : Position k f.shape plug modify) :
      Position k (.record r) (fun j => .array (before ++ plug j :: after))
        (fun g a => f.set (modify g (f.get a)) a)

/-- What holds of all items holds of one and of the ones at other places. -/
theorem forall_mem_iff_of_getElem? {α : Type} {P : α → Prop} {xs : List α} {i : Nat} {x : α}
    (h : xs[i]? = some x) :
    (∀ y ∈ xs, P y) ↔ P x ∧ ∀ (l : Nat) (y : α), xs[l]? = some y → l ≠ i → P y := by
  constructor
  · intro hall
    exact ⟨hall x (List.mem_of_getElem? h), fun l y hy _ => hall y (List.mem_of_getElem? hy)⟩
  · rintro ⟨hx, hothers⟩ y hy
    obtain ⟨l, hl⟩ := List.getElem?_of_mem hy
    by_cases hne : l = i
    · obtain rfl : x = y := Option.some.inj (h.symm.trans (hne ▸ hl))
      exact hx
    · exact hothers l y hl hne

namespace Json

theorem representable_array_replace {before after : List Json} {i j : Json}
    (hij : i.representable = true → j.representable = true)
    (h : (array (before ++ i :: after)).representable = true) :
    (array (before ++ j :: after)).representable = true := by
  simp only [representable, itemsRepresentable_iff, List.forall_mem_append,
    List.forall_mem_cons] at h ⊢
  exact ⟨h.1, hij h.2.1, h.2.2⟩

theorem representable_object_replace {before after : List (Option String × Json)}
    {key : Option String} {i j : Json} (hij : i.representable = true → j.representable = true)
    (h : (object (before ++ (key, i) :: after)).representable = true) :
    (object (before ++ (key, j) :: after)).representable = true := by
  simp only [representable, entriesRepresentable_iff, List.forall_mem_append,
    List.forall_mem_cons] at h ⊢
  exact ⟨h.1, ⟨h.2.1.1, hij h.2.1.2⟩, h.2.2⟩

theorem depth_array_insert_le (before after : List Json) (j : Json) :
    (array (before ++ j :: after)).depth ≤
      max (array (before ++ after)).depth (j.depth + 1) := by
  have hle : depthOfItems (before ++ j :: after) ≤
      max (depthOfItems (before ++ after)) j.depth := by
    have hothers := depthOfItems_le.mp (Nat.le_refl (depthOfItems (before ++ after)))
    rw [depthOfItems_le]
    simp only [List.forall_mem_append, List.forall_mem_cons] at hothers ⊢
    refine ⟨fun v hv => ?_, Nat.le_max_right _ _, fun v hv => ?_⟩
    · exact Nat.le_trans (hothers.1 v hv) (Nat.le_max_left _ _)
    · exact Nat.le_trans (hothers.2 v hv) (Nat.le_max_left _ _)
  rw [depth, depth]
  omega

theorem depth_object_insert_le (before after : List (Option String × Json))
    (e : Option String × Json) :
    (object (before ++ e :: after)).depth ≤
      max (object (before ++ after)).depth (e.2.depth + 1) := by
  have hle : depthOfEntries (before ++ e :: after) ≤
      max (depthOfEntries (before ++ after)) e.2.depth := by
    have hothers := depthOfEntries_le.mp (Nat.le_refl (depthOfEntries (before ++ after)))
    rw [depthOfEntries_le]
    simp only [List.forall_mem_append, List.forall_mem_cons] at hothers ⊢
    refine ⟨fun x hx => ?_, Nat.le_max_right _ _, fun x hx => ?_⟩
    · exact Nat.le_trans (hothers.1 x hx) (Nat.le_max_left _ _)
    · exact Nat.le_trans (hothers.2 x hx) (Nat.le_max_left _ _)
  rw [depth, depth]
  omega

theorem depth_object_le_insert (before after : List (Option String × Json))
    (e : Option String × Json) :
    (object (before ++ after)).depth ≤ (object (before ++ e :: after)).depth :=
  depth_object_le_of_subset ((List.sublist_cons_self e after).append_left before).subset

/-- With another item an array nests as deep as before or as the item makes it. -/
theorem depth_array_replace_le (before after : List Json) (i j : Json) :
    (array (before ++ j :: after)).depth ≤
      max (array (before ++ i :: after)).depth (j.depth + 1) := by
  have hothers : (array (before ++ after)).depth ≤ (array (before ++ i :: after)).depth :=
    depth_array_le_of_subset ((List.sublist_cons_self i after).append_left before).subset
  have hj := depth_array_insert_le before after j
  omega

theorem depth_object_replace_le (before after : List (Option String × Json))
    (key : Option String) (i j : Json) :
    (object (before ++ (key, j) :: after)).depth ≤
      max (object (before ++ (key, i) :: after)).depth (j.depth + 1) := by
  have hothers := depth_object_le_insert before after (key, i)
  have hj := depth_object_insert_le before after (key, j)
  dsimp only at hj
  omega

theorem depth_array_mono {before after : List Json} {i j : Json} (h : i.depth ≤ j.depth) :
    (array (before ++ i :: after)).depth ≤ (array (before ++ j :: after)).depth := by
  have hj : j.depth < (array (before ++ j :: after)).depth := depth_item_lt (by simp)
  have hle := depth_array_replace_le before after j i
  omega

theorem depth_object_mono {before after : List (Option String × Json)} {key : Option String}
    {i j : Json} (h : i.depth ≤ j.depth) :
    (object (before ++ (key, i) :: after)).depth ≤
      (object (before ++ (key, j) :: after)).depth := by
  have hj : j.depth < (object (before ++ (key, j) :: after)).depth :=
    depth_entry_lt (e := (key, j)) (by simp)
  have hle := depth_object_replace_le before after key j i
  omega

theorem mapM_append_cons {α : Type} {read : Json → Option α} {before after : List Json} {j : Json}
    {as : List α} :
    (before ++ j :: after).mapM read = some as ↔
      ∃ front a back, before.mapM read = some front ∧ read j = some a ∧
        after.mapM read = some back ∧ as = front ++ a :: back := by
  rw [List.mapM_append, List.mapM_cons]
  simp only [Option.bind_eq_bind, Option.bind_eq_some_iff, Option.pure_def, Option.some.injEq]
  constructor
  · rintro ⟨front, hfront, _, ⟨a, ha, back, hback, rfl⟩, rfl⟩
    exact ⟨front, a, back, hfront, ha, hback, rfl⟩
  · rintro ⟨front, a, back, hfront, ha, hback, rfl⟩
    exact ⟨front, hfront, _, ⟨a, ha, back, hback, rfl⟩, rfl⟩

theorem valuesOf_cons_self (name : String) (j : Json) (entries : List (Option String × Json)) :
    valuesOf name ((some name, j) :: entries) = j :: valuesOf name entries := by
  simp [valuesOf]

theorem valuesOf_cons_of_ne {name : String} {e : Option String × Json} (h : e.1 ≠ some name)
    (entries : List (Option String × Json)) :
    valuesOf name (e :: entries) = valuesOf name entries := by
  simp [valuesOf, h]

theorem slotOf_insert_self {name : String} {before after : List (Option String × Json)} {j : Json}
    {slot : Option Json} :
    slotOf (before ++ (some name, j) :: after) name = some slot ↔
      slot = some j ∧ valuesOf name (before ++ after) = [] := by
  have hvalues : valuesOf name (before ++ (some name, j) :: after) =
      valuesOf name before ++ j :: valuesOf name after := by
    rw [valuesOf_append, valuesOf_cons_self]
  rw [slotOf, hvalues, valuesOf_append]
  cases hb : valuesOf name before with
  | nil =>
    cases ha : valuesOf name after with
    | nil => simp [eq_comm]
    | cons => simp
  | cons v vs =>
    cases vs <;> simp

theorem valuesOf_insert_of_ne {name other : String} (h : other ≠ name)
    (before after : List (Option String × Json)) (j : Json) :
    valuesOf other (before ++ (some name, j) :: after) = valuesOf other (before ++ after) := by
  have hne : (some name, j).1 ≠ some other := fun heq => h (Option.some.inj heq).symm
  rw [valuesOf_append, valuesOf_append, valuesOf_cons_of_ne hne]

theorem texts_insert_iff {name : String} {before after : List (Option String × Json)} {j : Json} :
    (∀ e ∈ before ++ (some name, j) :: after, e.1.isSome = true) ↔
      ∀ e ∈ before ++ after, e.1.isSome = true := by
  simp only [List.forall_mem_append, List.forall_mem_cons, Option.isSome_some, true_and]

theorem slotAt_insert_of_ne {name : String} {key : Option String} (h : key ≠ some name)
    (before after : List (Option String × Json)) (j : Json) :
    slotAt (before ++ (some name, j) :: after) key = slotAt (before ++ after) key := by
  cases key with
  | none => rfl
  | some other =>
    have hne : other ≠ name := fun heq => h (congrArg some heq)
    rw [slotAt, slotAt, slotOf, slotOf, valuesOf_insert_of_ne hne]

end Json

namespace RecordKind
variable {r : RecordKind} {i : Nat} {f : Field r.Value} {name : String}

/-- No other field has the key of a field. -/
theorem key_ne_of_ne (hf : r.table[i]? = some f) (hkey : f.key = some name) {l : Nat}
    {g : Field r.Value} (hg : r.table[l]? = some g) (hne : l ≠ i) : g.key ≠ some name := by
  obtain ⟨hi, rfl⟩ := List.getElem?_eq_some_iff.mp hf
  obtain ⟨hl, rfl⟩ := List.getElem?_eq_some_iff.mp hg
  have hdistinct := List.pairwise_iff_getElem.mp r.table_keys_distinct
  rcases Nat.lt_or_gt_of_ne hne with hlt | hgt
  · rcases hdistinct l i hl hi hlt with hnone | hdiff
    · rw [hnone]
      exact nofun
    · rwa [← hkey]
  · rcases hdistinct i l hi hl hgt with hnone | hdiff
    · rw [hkey] at hnone
      cases hnone
    · rw [← hkey]
      exact hdiff.symm

/-- A field is known by its key. -/
theorem eq_of_key_eq {f g : Field r.Value} (hf : f ∈ r.table) (hg : g ∈ r.table)
    (hkey : f.key = some name) (heq : g.key = some name) : f = g := by
  obtain ⟨i, hi⟩ := List.getElem?_of_mem hf
  obtain ⟨l, hl⟩ := List.getElem?_of_mem hg
  by_cases hne : l = i
  · rw [hne, hi] at hl
    exact Option.some.inj hl
  · exact absurd heq (key_ne_of_ne hi hkey hl hne)

/-- A record by what an object gives for one of its fields and what the rest gives for others. -/
theorem decode_object_entry (hf : r.table[i]? = some f) (hkey : f.key = some name)
    (before after : List (Option String × Json)) (j : Json) (a : r.Value) :
    (Shape.record r).decode (.object (before ++ (some name, j) :: after)) = some a ↔
      f.shape.decode j = some (f.get a) ∧
        (∀ e ∈ before ++ after, e.1.isSome = true) ∧ Json.valuesOf name (before ++ after) = [] ∧
        ∀ (l : Nat) (g : Field r.Value), r.table[l]? = some g → l ≠ i →
          g.DecodesIn (before ++ after) a := by
  have hself : f.DecodesIn (before ++ (some name, j) :: after) a ↔
      f.shape.decode j = some (f.get a) ∧ Json.valuesOf name (before ++ after) = [] := by
    rw [Field.DecodesIn, hkey]
    simp only [Json.slotAt, Json.slotOf_insert_self]
    constructor
    · rintro ⟨_, ⟨rfl, hvalues⟩, hdecodes⟩
      exact ⟨hdecodes, hvalues⟩
    · rintro ⟨hdecodes, hvalues⟩
      exact ⟨_, ⟨rfl, hvalues⟩, hdecodes⟩
  have hother : ∀ (l : Nat) (g : Field r.Value), r.table[l]? = some g → l ≠ i →
      (g.DecodesIn (before ++ (some name, j) :: after) a ↔ g.DecodesIn (before ++ after) a) := by
    intro l g hg hne
    rw [Field.DecodesIn, Json.slotAt_insert_of_ne (key_ne_of_ne hf hkey hg hne)]
    exact Iff.rfl
  rw [decode_object, Json.texts_insert_iff, forall_mem_iff_of_getElem? hf, hself]
  constructor
  · rintro ⟨hkeys, ⟨hdecodes, hvalues⟩, hall⟩
    exact ⟨hdecodes, hkeys, hvalues, fun l g hg hne =>
      (hother l g hg hne).mp (hall l g hg hne)⟩
  · rintro ⟨hdecodes, hkeys, hvalues, hall⟩
    exact ⟨hkeys, ⟨hdecodes, hvalues⟩, fun l g hg hne =>
      (hother l g hg hne).mpr (hall l g hg hne)⟩

/-- A record by what an array gives for one of its fields and for the others. -/
theorem decode_array_element {before after : List Json} (hf : r.table[before.length]? = some f)
    (j : Json) (a : r.Value) :
    (Shape.record r).decode (.array (before ++ j :: after)) = some a ↔
      f.shape.decode j = some (f.get a) ∧ before.length + after.length < r.table.length ∧
        ∀ (l : Nat) (g : Field r.Value), r.table[l]? = some g → l ≠ before.length →
          g.Decodes (before ++ .null :: after)[l]? a := by
  have hself : (before ++ j :: after)[before.length]? = some j := by simp
  have hother : ∀ l, l ≠ before.length →
      (before ++ j :: after)[l]? = (before ++ .null :: after)[l]? := by
    intro l hne
    rcases Nat.lt_or_gt_of_ne hne with hlt | hgt
    · rw [List.getElem?_append_left hlt, List.getElem?_append_left hlt]
    · obtain ⟨d, rfl⟩ := Nat.exists_eq_add_of_lt hgt
      simp [List.getElem?_append_right, Nat.add_assoc]
  have hlength : (before ++ j :: after).length ≤ r.table.length ↔
      before.length + after.length < r.table.length := by
    simp [Nat.lt_iff_add_one_le, Nat.add_assoc]
  rw [decode_array, hlength]
  constructor
  · rintro ⟨hlt, hall⟩
    refine ⟨?_, hlt, fun l g hg hne => ?_⟩
    · have h := hall before.length f hf
      rwa [hself] at h
    · rw [← hother l hne]
      exact hall l g hg
  · rintro ⟨hdecodes, hlt, hall⟩
    refine ⟨hlt, fun l g hg => ?_⟩
    by_cases hne : l = before.length
    · obtain rfl : f = g := Option.some.inj (hf.symm.trans (hne ▸ hg))
      rw [hne, hself]
      exact hdecodes
    · rw [hother l hne]
      exact hall l g hg hne

end RecordKind

/-- What is around a record says how the value of the whole has to do with the value of the record,
    whatever tree the record is given by. -/
structure IsRest (k : RecordKind) (s : Shape) (plug : Json → Json)
    (modify : (k.Value → k.Value) → s.Value → s.Value) (Rest : k.Value → s.Value → Prop) :
    Prop where
  /-- The whole is decoded if the record is and the rest agrees. -/
  decode : ∀ j, j ≠ .null → ∀ a, s.decode (plug j) = some a ↔
    ∃ b, (Shape.record k).decode j = some b ∧ Rest b a
  /-- The rest agrees with any other record, if that is changed in the whole. -/
  modify : ∀ g b a, Rest b a → Rest (g b) (modify g a)

namespace IsRest
variable {k : RecordKind} {s : Shape} {plug : Json → Json}
  {modify : (k.Value → k.Value) → s.Value → s.Value} {Rest : k.Value → s.Value → Prop}

theorem here : IsRest k (.record k) (fun j => j) (fun g => g) fun b a => a = b := by
  refine ⟨fun j _ a => ?_, ?_⟩
  · exact ⟨fun ha => ⟨a, ha, rfl⟩, fun ⟨b, hb, hab⟩ => hab ▸ hb⟩
  · rintro g b _ rfl
    rfl

theorem present (h : IsRest k s plug modify Rest) (hplug : ∀ j, j ≠ .null → plug j ≠ .null) :
    IsRest k (.option s) plug (fun g => Option.map (modify g))
      fun b o => ∃ a, o = some a ∧ Rest b a := by
  refine ⟨fun j hj o => ?_, ?_⟩
  · rw [Shape.decode_option_of_ne (hplug j hj), Option.map_eq_some_iff]
    constructor
    · rintro ⟨a, ha, rfl⟩
      obtain ⟨b, hb, hrest⟩ := (h.decode j hj a).mp ha
      exact ⟨b, hb, a, rfl, hrest⟩
    · rintro ⟨b, hb, a, rfl, hrest⟩
      exact ⟨a, (h.decode j hj a).mpr ⟨b, hb, hrest⟩, rfl⟩
  · rintro g b _ ⟨a, rfl, hrest⟩
    exact ⟨modify g a, rfl, h.modify g b a hrest⟩

/-- The items before and after are decoded to the items before and after. -/
theorem item (h : IsRest k s plug modify Rest) (before after : List Json) :
    IsRest k (.list s) (fun j => .array (before ++ plug j :: after))
      (fun g (as : List s.Value) => as.modify before.length (modify g))
      fun b (as : List s.Value) => ∃ front a back, before.mapM s.decode = some front ∧
        after.mapM s.decode = some back ∧ as = front ++ a :: back ∧ Rest b a := by
  refine ⟨fun j hj as => ?_, ?_⟩
  · rw [Shape.decode_list_array]
    refine Json.mapM_append_cons.trans ?_
    constructor
    · rintro ⟨front, a, back, hfront, ha, hback, rfl⟩
      obtain ⟨b, hb, hrest⟩ := (h.decode j hj a).mp ha
      exact ⟨b, hb, front, a, back, hfront, hback, rfl, hrest⟩
    · rintro ⟨b, hb, front, a, back, hfront, hback, rfl, hrest⟩
      exact ⟨front, a, back, hfront, (h.decode j hj a).mpr ⟨b, hb, hrest⟩, hback, rfl⟩
  · rintro g b _ ⟨front, a, back, hfront, hback, rfl, hrest⟩
    refine ⟨front, modify g a, back, hfront, hback, ?_, h.modify g b a hrest⟩
    have hlength : front.length = before.length := (mapM_eq_some_iff.mp hfront).length_eq.symm
    rw [← hlength]
    exact List.modifyTailIdx_add _ 0 front (a :: back)

section Fields
variable {r : RecordKind} {f : Field r.Value}
  {modify : (k.Value → k.Value) → f.shape.Value → f.shape.Value}
  {Rest : k.Value → f.shape.Value → Prop}

/-- The other entries give the other fields their values, and do not give this one any. -/
theorem entry (h : IsRest k f.shape plug modify Rest) {i : Nat} {name : String}
    (before after : List (Option String × Json)) (hf : r.table[i]? = some f)
    (hkey : f.key = some name) :
    IsRest k (.record r) (fun j => .object (before ++ (some name, plug j) :: after))
      (fun g a => f.set (modify g (f.get a)) a)
      fun b a => Rest b (f.get a) ∧ (∀ e ∈ before ++ after, e.1.isSome = true) ∧
        Json.valuesOf name (before ++ after) = [] ∧
        ∀ (l : Nat) (g : Field r.Value), r.table[l]? = some g → l ≠ i →
          g.DecodesIn (before ++ after) a := by
  have hfields := r.table_independent
  refine ⟨fun j hj a => ?_, ?_⟩
  · rw [RecordKind.decode_object_entry hf hkey, h.decode j hj, ← exists_and_right]
    exact exists_congr fun b => and_assoc
  · rintro g b a ⟨hrest, hkeys, hvalues, hothers⟩
    refine ⟨?_, hkeys, hvalues, fun l other hother hne => ?_⟩
    · rw [hfields.get_set f (List.mem_of_getElem? hf)]
      exact h.modify g b _ hrest
    · -- The field was set, and the other ones are as they were.
      obtain ⟨slot, hslot, hdecodes⟩ := hothers l other hother hne
      refine ⟨slot, hslot, ?_⟩
      rw [Field.Decodes, hfields.get_set_of_ne hf hother (Ne.symm hne)]
      exact hdecodes

/-- The other items give the other fields their values. -/
theorem element (h : IsRest k f.shape plug modify Rest) (before after : List Json)
    (hf : r.table[before.length]? = some f) :
    IsRest k (.record r) (fun j => .array (before ++ plug j :: after))
      (fun g a => f.set (modify g (f.get a)) a)
      fun b a => Rest b (f.get a) ∧ before.length + after.length < r.table.length ∧
        ∀ (l : Nat) (g : Field r.Value), r.table[l]? = some g → l ≠ before.length →
          g.Decodes (before ++ .null :: after)[l]? a := by
  have hfields := r.table_independent
  refine ⟨fun j hj a => ?_, ?_⟩
  · rw [RecordKind.decode_array_element hf, h.decode j hj, ← exists_and_right]
    exact exists_congr fun b => and_assoc
  · rintro g b a ⟨hrest, hlength, hothers⟩
    refine ⟨?_, hlength, fun l other hother hne => ?_⟩
    · rw [hfields.get_set f (List.mem_of_getElem? hf)]
      exact h.modify g b _ hrest
    · rw [Field.Decodes, hfields.get_set_of_ne hf hother (Ne.symm hne)]
      exact hothers l other hother hne

end Fields

end IsRest

namespace Position
variable {k : RecordKind} {s : Shape} {plug : Json → Json}
  {modify : (k.Value → k.Value) → s.Value → s.Value}

/-- A tree with a record in it is no `null`. -/
theorem plug_ne_null (h : Position k s plug modify) {j : Json} (hj : j ≠ .null) :
    plug j ≠ .null := by
  induction h with
  | here => exact hj
  | present inside ih => exact ih
  | _ => exact nofun

/-- **The rest of a tree**: at every position something is known of the rest. -/
theorem exists_rest (h : Position k s plug modify) : ∃ Rest, IsRest k s plug modify Rest := by
  induction h with
  | here => exact ⟨_, .here⟩
  | present inside ih =>
    obtain ⟨Rest, hrest⟩ := ih
    exact ⟨_, hrest.present fun _ => inside.plug_ne_null⟩
  | item before after inside ih =>
    obtain ⟨Rest, hrest⟩ := ih
    exact ⟨_, hrest.item before after⟩
  | entry before after hf hkey inside ih =>
    obtain ⟨Rest, hrest⟩ := ih
    exact ⟨_, hrest.entry before after hf hkey⟩
  | element before after hf inside ih =>
    obtain ⟨Rest, hrest⟩ := ih
    exact ⟨_, hrest.element before after hf⟩

/-- Trees that are decoded to one record make whole trees that are decoded to one value. -/
theorem decode_congr (h : Position k s plug modify) {i j : Json} (hi : i ≠ .null)
    (hj : j ≠ .null) (heq : (Shape.record k).decode i = (Shape.record k).decode j) :
    s.decode (plug i) = s.decode (plug j) := by
  obtain ⟨Rest, hrest⟩ := h.exists_rest
  refine Option.ext fun a => ?_
  rw [hrest.decode i hi, hrest.decode j hj, heq]

/-- A changed record makes a value that is changed at its position. -/
theorem decode_modify (h : Position k s plug modify) {i j : Json} (hi : i ≠ .null) (hj : j ≠ .null)
    {g : k.Value → k.Value}
    (hg : ∀ b, (Shape.record k).decode i = some b → (Shape.record k).decode j = some (g b))
    {a : s.Value} (ha : s.decode (plug i) = some a) : s.decode (plug j) = some (modify g a) := by
  obtain ⟨Rest, hrest⟩ := h.exists_rest
  obtain ⟨b, hb, hagrees⟩ := (hrest.decode i hi a).mp ha
  exact (hrest.decode j hj _).mpr ⟨g b, hg b hb, hrest.modify g b a hagrees⟩

/-- Where a record is refused the whole tree is. -/
theorem decode_eq_none (h : Position k s plug modify) {j : Json} (hj : j ≠ .null)
    (hnone : (Shape.record k).decode j = none) : s.decode (plug j) = none := by
  obtain ⟨Rest, hrest⟩ := h.exists_rest
  refine Option.eq_none_iff_forall_ne_some.mpr fun a ha => ?_
  obtain ⟨b, hb, -⟩ := (hrest.decode j hj a).mp ha
  rw [hnone] at hb
  cases hb

/-! ## Whether a tree can be represented -/

theorem representable_plug (h : Position k s plug modify) {i j : Json}
    (hij : i.representable = true → j.representable = true)
    (hi : (plug i).representable = true) : (plug j).representable = true := by
  induction h with
  | here => exact hij hi
  | present inside ih => exact ih hi
  | item before after inside ih => exact Json.representable_array_replace ih hi
  | entry before after hf hkey inside ih => exact Json.representable_object_replace ih hi
  | element before after hf inside ih => exact Json.representable_array_replace ih hi

/-! ## Depth -/

theorem depth_plug_mono (h : Position k s plug modify) {i j : Json} (hij : i.depth ≤ j.depth) :
    (plug i).depth ≤ (plug j).depth := by
  induction h with
  | here => exact hij
  | present inside ih => exact ih
  | item before after inside ih => exact Json.depth_array_mono ih
  | entry before after hf hkey inside ih => exact Json.depth_object_mono ih
  | element before after hf inside ih => exact Json.depth_array_mono ih

end Position

namespace Metadata

theorem taggedAs_object_iff {kind : MetadataKind} {entries : List (Option String × Json)} :
    TaggedAs kind (.object entries) ↔
      Json.valuesOf tag entries = [.text (some (Named.name kind))] := by
  constructor
  · rintro ⟨body, hsplit⟩
    exact (RecordKind.splitTag_object_eq_some_iff.mp hsplit).1
  · exact fun h => ⟨_, RecordKind.splitTag_object_eq_some_iff.mpr ⟨h, rfl⟩⟩

theorem taggedAs_array_iff {kind : MetadataKind} {item : Json} {items : List Json} :
    TaggedAs kind (.array (item :: items)) ↔ item = .text (some (Named.name kind)) := by
  constructor
  · rintro ⟨body, hsplit⟩
    obtain ⟨rest, heq, -⟩ := RecordKind.splitTag_array_eq_some_iff.mp hsplit
    exact (List.cons.inj heq).1
  · rintro rfl
    exact ⟨_, RecordKind.splitTag_array_eq_some_iff.mpr ⟨items, rfl, rfl⟩⟩

end Metadata

/-- How many levels above the records that lie deep a record lies. -/
def RecordKind.height : RecordKind → Nat
  | .root _ => 2
  | .container => 1
  | _ => 0

/-- How many levels above the records that lie deep a value lies, if it is one that does. -/
def Shape.height : Shape → Nat
  | .plain _ => 0
  | .record k => k.height
  | .option s => s.height
  | .list s => if s.height = 0 then 0 else s.height + 1

theorem RecordKind.height_field (r : RecordKind) :
    ∀ f ∈ r.table, f.shape.height = 0 ∨ f.shape.height < r.height := by
  have hshapes : ∀ s ∈ r.table.map Field.shape, s.height = 0 ∨ s.height < r.height := by
    cases r with
    | root kind => cases kind <;> decide
    | _ => decide
  exact fun f hf => hshapes _ (List.mem_map_of_mem hf)

namespace Position
variable {k : RecordKind} {s : Shape} {plug : Json → Json}
  {modify : (k.Value → k.Value) → s.Value → s.Value}

/-- The records that do not lie deep have few levels around them. -/
theorem depth_plug_le (h : Position k s plug modify) (hk : k.height ≠ 0) :
    k.height ≤ s.height ∧ ∀ i j : Json,
      (plug j).depth ≤ max (plug i).depth (j.depth + (s.height - k.height)) := by
  induction h with
  | here => exact ⟨Nat.le_refl _, fun i j =>
      Nat.le_trans (Nat.le_add_right _ _) (Nat.le_max_right _ _)⟩
  | present inside ih => exact ih
  | @item s plug modify before after inside ih =>
    obtain ⟨hle, hdepth⟩ := ih
    have hheight : s.list.height = s.height + 1 := if_neg (by omega)
    refine ⟨by omega, fun i j => ?_⟩
    have hi : (plug i).depth < (Json.array (before ++ plug i :: after)).depth :=
      Json.depth_item_lt (by simp)
    have hj := Json.depth_array_replace_le before after (plug i) (plug j)
    have h := hdepth i j
    dsimp only
    omega
  | @entry r i f name plug modify before after hf hkey inside ih =>
    obtain ⟨hle, hdepth⟩ := ih
    have hheight : f.shape.height < r.height :=
      (r.height_field f (List.mem_of_getElem? hf)).resolve_left (by omega)
    refine ⟨by rw [Shape.height]; omega, fun i j => ?_⟩
    have hi : (plug i).depth < (Json.object (before ++ (some name, plug i) :: after)).depth :=
      Json.depth_entry_lt (e := (some name, plug i)) (by simp)
    have hj := Json.depth_object_replace_le before after (some name) (plug i) (plug j)
    have h := hdepth i j
    rw [Shape.height]
    dsimp only
    omega
  | @element r f plug modify before after hf inside ih =>
    obtain ⟨hle, hdepth⟩ := ih
    have hheight : f.shape.height < r.height :=
      (r.height_field f (List.mem_of_getElem? hf)).resolve_left (by omega)
    refine ⟨by rw [Shape.height]; omega, fun i j => ?_⟩
    have hi : (plug i).depth < (Json.array (before ++ plug i :: after)).depth :=
      Json.depth_item_lt (by simp)
    have hj := Json.depth_array_replace_le before after (plug i) (plug j)
    have h := hdepth i j
    rw [Shape.height]
    dsimp only
    omega

/-! ## Tags -/

/-- No record stands in the tag of a root. -/
theorem ne_tag {kind : MetadataKind} {f : Field kind.Value} {i : Nat}
    {modify : (k.Value → k.Value) → f.shape.Value → f.shape.Value}
    (hf : (RecordKind.root kind).table[i]? = some f) (h : Position k f.shape plug modify) :
    i ≠ 0 := by
  rintro rfl
  obtain rfl : RecordKind.tagField kind = f := Option.some.inj hf
  cases h

/-- The tag of a root stays when a record further in changes. -/
theorem taggedAs_plug {kind : MetadataKind}
    {modify : (k.Value → k.Value) → kind.Value → kind.Value}
    (h : Position k (.record (.root kind)) plug modify) :
    (k = .root kind ∧ ∀ j, plug j = j) ∨
      ∀ (other : MetadataKind) (i j : Json),
        Metadata.TaggedAs other (plug i) → Metadata.TaggedAs other (plug j) := by
  cases h with
  | here => exact .inl ⟨rfl, fun _ => rfl⟩
  | @entry _ l f name plug modify before after hf hkey inside =>
    right
    intro other i j
    have hname : name ≠ Metadata.tag := by
      rintro rfl
      exact RecordKind.key_ne_of_ne hf hkey rfl (Ne.symm (inside.ne_tag hf)) rfl
    have hvalues := Json.valuesOf_insert_of_ne (Ne.symm hname) before after
    rw [Metadata.taggedAs_object_iff, Metadata.taggedAs_object_iff, hvalues, hvalues]
    exact id
  | @element _ f plug modify before after hf inside =>
    right
    intro other i j
    cases before with
    | nil => exact absurd rfl (inside.ne_tag hf)
    | cons item before =>
      intro h
      exact Metadata.taggedAs_array_iff.mpr (Metadata.taggedAs_array_iff.mp h)

end Position

end KotlinMetadata
