import KotlinMetadata.Proofs.RecordTable

/-! # What a tree is decoded to

    How many levels a reader may open does not matter as long as they are enough.  So a tree is
    decoded to one value, and that of a record comes down to those of its fields.

    - `Shape.read_levels`: enough levels are enough;
    - `Shape.decode`: the value of a tree;
    - `RecordKind.decode_object`, `RecordKind.decode_array`: the value of a record by its fields;
    - `Metadata.ofTree?_eq_some_iff`: a root is the record of the kind that its tag says.
-/

namespace KotlinMetadata

/-! ## Depth -/

namespace Json

/-- What an object gives for a field that may have a key. -/
def slotAt (entries : List (Option String × Json)) : Option String → Option (Option Json)
  | some name => slotOf entries name
  | none => some none

theorem depth_item_lt {items : List Json} {j : Json} (h : j ∈ items) :
    j.depth < (array items).depth := by
  rw [depth]
  exact Nat.lt_succ_of_le (depthOfItems_le.mp (Nat.le_refl _) j h)

theorem depth_entry_lt {entries : List (Option String × Json)} {e : Option String × Json}
    (h : e ∈ entries) : e.2.depth < (object entries).depth := by
  rw [depth]
  exact Nat.lt_succ_of_le (depthOfEntries_le.mp (Nat.le_refl _) e h)

theorem depth_array_le_of_subset {items others : List Json} (h : items ⊆ others) :
    (array items).depth ≤ (array others).depth := by
  rw [depth, depth, Nat.add_le_add_iff_right, depthOfItems_le]
  exact fun j hj => depthOfItems_le.mp (Nat.le_refl _) j (h hj)

theorem depth_object_le_of_subset {entries others : List (Option String × Json)}
    (h : entries ⊆ others) : (object entries).depth ≤ (object others).depth := by
  rw [depth, depth, Nat.add_le_add_iff_right, depthOfEntries_le]
  exact fun e he => depthOfEntries_le.mp (Nat.le_refl _) e (h he)

theorem mem_of_slotOf {entries : List (Option String × Json)} {name : String} {j : Json}
    (h : slotOf entries name = some (some j)) : (some name, j) ∈ entries := by
  unfold slotOf at h
  split at h
  · cases h
  · rename_i v hvalues
    obtain rfl : v = j := Option.some.inj (Option.some.inj h)
    have hmem : v ∈ valuesOf name entries := by rw [hvalues]; exact List.mem_singleton_self v
    obtain ⟨⟨key, value⟩, hentry, rfl⟩ := List.mem_map.mp hmem
    obtain ⟨hin, hkey⟩ := List.mem_filter.mp hentry
    rwa [← eq_of_beq hkey]
  · cases h

theorem mem_of_slotsInOrder {names : List String} {items : List Json}
    {slots : List (Option Json)} (h : slotsInOrder names items = some slots) {j : Json}
    (hj : some j ∈ slots) : j ∈ items := by
  induction names generalizing items slots with
  | nil =>
    cases items with
    | nil =>
      obtain rfl := Option.some.inj h
      cases hj
    | cons => cases h
  | cons name names ih =>
    cases items with
    | nil =>
      obtain ⟨rest, hrest, rfl⟩ := Option.map_eq_some_iff.mp h
      exact ih hrest ((List.mem_cons.mp hj).resolve_left nofun)
    | cons item items =>
      obtain ⟨rest, hrest, rfl⟩ := Option.map_eq_some_iff.mp h
      rcases List.mem_cons.mp hj with heq | hj
      · obtain rfl := Option.some.inj heq
        exact List.mem_cons_self
      · exact List.mem_cons_of_mem item (ih hrest hj)

theorem exists_of_mem_mapM {α β : Type} {g : α → Option β} {xs : List α} {ys : List β}
    (h : xs.mapM g = some ys) {y : β} (hy : y ∈ ys) : ∃ x ∈ xs, g x = some y := by
  have hall := mapM_eq_some_iff.mp h
  induction hall with
  | nil => cases hy
  | @cons x first xs ys hfirst hrest ih =>
    rcases List.mem_cons.mp hy with rfl | hy
    · exact ⟨x, List.mem_cons_self, hfirst⟩
    · obtain ⟨x', hx', heq⟩ := ih (mapM_eq_some_iff.mpr hrest) hy
      exact ⟨x', List.mem_cons_of_mem x hx', heq⟩

/-- What is given for a field lies further in. -/
theorem depth_lt_of_fields {levels : Nat} {names : List String} {j : Json}
    {slots : List (Option Json)} (h : j.fields levels names = some slots) {v : Json}
    (hv : some v ∈ slots) : v.depth < j.depth := by
  unfold fields at h
  split at h
  · cases h
  · split at h
    · split at h
      · obtain ⟨name, -, hslot⟩ := exists_of_mem_mapM h hv
        exact depth_entry_lt (mem_of_slotOf hslot)
      · cases h
    · exact depth_item_lt (mem_of_slotsInOrder h hv)
    · cases h

/-- Which slots a record has does not depend on the levels that are left for its fields. -/
theorem fields_levels {names : List String} {j : Json} {m n : Nat} (hm : j.depth ≤ m)
    (hn : j.depth ≤ n) : j.fields m names = j.fields n names := by
  cases j with
  | array items =>
    have hlt : 0 < (array items).depth := Nat.succ_pos _
    have hm' : m ≠ 0 := by omega
    have hn' : n ≠ 0 := by omega
    rw [fields, fields, if_neg hm', if_neg hn']
  | object entries =>
    have hlt : 0 < (object entries).depth := Nat.succ_pos _
    have hm' : m ≠ 0 := by omega
    have hn' : n ≠ 0 := by omega
    rw [fields, fields, if_neg hm', if_neg hn']
  | _ => simp [fields]

end Json

/-! ## Levels -/

theorem forall₂_congr_of_mem_right {α β : Type} {R S : α → β → Prop} {xs : List α} {ys : List β}
    (h : ∀ y ∈ ys, ∀ x, R x y ↔ S x y) : List.Forall₂ R xs ys ↔ List.Forall₂ S xs ys := by
  rw [List.forall₂_iff_zip, List.forall₂_iff_zip]
  refine and_congr_right fun _ => ⟨fun hall x y hxy => ?_, fun hall x y hxy => ?_⟩
  · exact (h y (List.of_mem_zip hxy).2 x).mp (hall hxy)
  · exact (h y (List.of_mem_zip hxy).2 x).mpr (hall hxy)

/-- Trees that nest less deep are read alike with any levels that are enough. -/
def LevelsIrrelevantBelow (d : Nat) : Prop :=
  ∀ j : Json, j.depth < d → ∀ (s : Shape) (m n : Nat), j.depth ≤ m → j.depth ≤ n →
    s.read m j = s.read n j

/-- Only a name written as an object takes a level. -/
theorem PlainKind.read_levels (p : PlainKind) {j : Json} {m n : Nat} (hm : j.depth ≤ m)
    (hn : j.depth ≤ n) : p.read m j = p.read n j := by
  have hnamed : ∀ {α : Type} [Named α], (Json.readNamed .buffered m j : Option α) =
      Json.readNamed .buffered n j := by
    intro α _
    unfold Json.readNamed
    split
    · rfl
    · rename_i s v
      have hlt : 0 < (Json.object [(some s, v)]).depth := Nat.succ_pos _
      have hm' : m ≠ 0 := by omega
      have hn' : n ≠ 0 := by omega
      simp [hm', hn']
    · rfl
  cases p with
  | variance => exact hnamed
  | requirementLevel => exact hnamed
  | syntheticKind => exact hnamed
  | _ => rfl

/-- The record of a root nests no deeper without the tag. -/
theorem depth_body_le {j body : Json} {name : String}
    (h : Metadata.splitTag j = some (name, body)) : body.depth ≤ j.depth := by
  unfold Metadata.splitTag at h
  split at h
  · split at h
    · obtain rfl := (Prod.mk.inj (Option.some.inj h)).2
      exact Json.depth_object_le_of_subset (List.filter_subset_self _)
    · cases h
  · obtain rfl := (Prod.mk.inj (Option.some.inj h)).2
    exact Json.depth_array_le_of_subset (List.subset_cons_self _ _)
  · cases h

namespace LevelsIrrelevantBelow
variable {d : Nat}

theorem readBody (h : LevelsIrrelevantBelow d) (k : RecordKind) {j : Json} (hj : j.depth ≤ d)
    {m n : Nat} (hm : j.depth ≤ m) (hn : j.depth ≤ n) : k.readBody m j = k.readBody n j := by
  have hreads : ∀ a, k.ReadsAs m j a ↔ k.ReadsAs n j a := by
    intro a
    unfold RecordKind.ReadsAs
    rw [Json.fields_levels hm hn]
    refine exists_congr fun slots => and_congr_right fun hslots => ?_
    -- The slots lie further in, so that their levels do not matter either.
    have hslot : ∀ slot ∈ slots, ∀ f : Field k.Value,
        f.Reads (m - 1) slot a ↔ f.Reads (n - 1) slot a := by
      intro slot hslot f
      cases slot with
      | none => exact Iff.rfl
      | some v =>
        have hv := Json.depth_lt_of_fields hslots hslot
        have heq := h v (by omega) f.shape (m - 1) (n - 1) (by omega) (by omega)
        rw [Field.Reads, Field.Reads, Field.readSlot, Field.readSlot, heq]
    exact forall₂_congr_of_mem_right hslot
  refine Option.ext fun a => ?_
  rw [k.readBody_eq_some_iff, k.readBody_eq_some_iff]
  exact hreads a

theorem read (h : LevelsIrrelevantBelow d) (k : RecordKind) {j : Json} (hj : j.depth ≤ d)
    {m n : Nat} (hm : j.depth ≤ m) (hn : j.depth ≤ n) : k.read m j = k.read n j := by
  rcases k.exists_root_or with ⟨kind, rfl⟩ | ⟨hread, -, -⟩
  · refine Option.ext fun a => ?_
    rw [RecordKind.read_root_eq_some_iff, RecordKind.read_root_eq_some_iff]
    refine exists_congr fun body => and_congr_right fun hsplit => ?_
    have hle := depth_body_le hsplit
    rw [h.readBody _ (Nat.le_trans hle hj) (Nat.le_trans hle hm) (Nat.le_trans hle hn)]
  · rw [hread]
    exact h.readBody k hj hm hn

/-- A tree is read alike with any levels that are enough, if the trees in it are. -/
theorem of_depth_le (h : LevelsIrrelevantBelow d) {j : Json} (hj : j.depth ≤ d) (s : Shape)
    {m n : Nat} (hm : j.depth ≤ m) (hn : j.depth ≤ n) : s.read m j = s.read n j := by
  induction s with
  | plain p => exact p.read_levels hm hn
  | record k => exact h.read k hj hm hn
  | option s ih =>
    cases j with
    | null => rfl
    | _ => exact congrArg (Option.map some) ih
  | list s ih =>
    cases j with
    | array items =>
      have hlt : 0 < (Json.array items).depth := Nat.succ_pos _
      have hm' : m ≠ 0 := by omega
      have hn' : n ≠ 0 := by omega
      show Json.readItems m s.read _ = Json.readItems n s.read _
      rw [Json.readItems, Json.readItems, Json.readList, Json.readList, if_neg hm', if_neg hn']
      refine Json.mapM_congr_of_mem fun v hv => ?_
      have hdepth := Json.depth_item_lt hv
      exact h v (by omega) s (m - 1) (n - 1) (by omega) (by omega)
    | _ => rfl

end LevelsIrrelevantBelow

theorem levelsIrrelevantBelow (d : Nat) : LevelsIrrelevantBelow d := by
  -- By induction on the depth, as a tree that nests less deep may stand in any of the shapes.
  induction d with
  | zero => exact fun j hj => absurd hj (Nat.not_lt_zero _)
  | succ d ih =>
    exact fun j hj s m n hm hn => ih.of_depth_le (Nat.le_of_lt_succ hj) s hm hn

/-! ## Decoding -/

namespace Shape

/-- The value of a tree. -/
def decode (s : Shape) (j : Json) : Option s.Value := s.read j.depth j

/-- Enough levels are enough. -/
theorem read_eq_decode (s : Shape) {levels : Nat} {j : Json} (h : j.depth ≤ levels) :
    s.read levels j = s.decode j :=
  levelsIrrelevantBelow (j.depth + 1) j (Nat.lt_succ_self _) s levels j.depth h (Nat.le_refl _)

theorem decode_option_null (s : Shape) : (option s).decode .null = some none := rfl

theorem decode_option_of_ne {s : Shape} {j : Json} (h : j ≠ .null) :
    (option s).decode j = (s.decode j).map some := by
  cases j with
  | null => exact absurd rfl h
  | _ => rfl

/-- A list is decoded item by item. -/
theorem decode_list_array (s : Shape) (items : List Json) :
    (list s).decode (.array items) = items.mapM s.decode := by
  have hread : (list s).decode (.array items) =
      Json.readItems (Json.array items).depth s.read (.array items) := rfl
  have hlevels : (Json.array items).depth ≠ 0 := Nat.succ_ne_zero _
  rw [hread, Json.readItems, Json.readList, if_neg hlevels]
  exact Json.mapM_congr_of_mem fun j hj =>
    s.read_eq_decode (Nat.le_sub_one_of_lt (Json.depth_item_lt hj))

end Shape

namespace Field
variable {α : Type}

/-- The value of what is given for the field, if anything is. -/
def decodeSlot (f : Field α) : Option Json → Option f.shape.Value
  | some j => f.shape.decode j
  | none => f.default?

/-- What is given for the field is decoded to its value in a record. -/
def Decodes (f : Field α) (slot : Option Json) (a : α) : Prop :=
  f.decodeSlot slot = some (f.get a)

/-- What an object gives for the field is decoded to its value in a record. -/
def DecodesIn (f : Field α) (entries : List (Option String × Json)) (a : α) : Prop :=
  ∃ slot, Json.slotAt entries f.key = some slot ∧ f.Decodes slot a

theorem reads_iff_decodes (f : Field α) {levels : Nat} {slot : Option Json} {a : α}
    (h : ∀ j, slot = some j → j.depth ≤ levels) : f.Reads levels slot a ↔ f.Decodes slot a := by
  cases slot with
  | none => exact Iff.rfl
  | some j => rw [Reads, readSlot, f.shape.read_eq_decode (h j rfl)]; exact Iff.rfl

end Field

/-! ## Records -/

theorem exists_forall₂_and {α β γ : Type} {P : α → β → Prop} {Q : γ → β → Prop} {xs : List α}
    {zs : List γ} :
    (∃ ys, List.Forall₂ P xs ys ∧ List.Forall₂ Q zs ys) ↔
      List.Forall₂ (fun z x => ∃ y, P x y ∧ Q z y) zs xs := by
  constructor
  · rintro ⟨ys, hp, hq⟩
    induction hp generalizing zs with
    | nil =>
      rw [List.forall₂_nil_right_iff] at hq
      rw [hq]
      exact .nil
    | cons hx hrest ih =>
      obtain ⟨z, zs, hz, hzs, rfl⟩ := List.forall₂_cons_right_iff.mp hq
      exact .cons ⟨_, hx, hz⟩ (ih hzs)
  · intro h
    induction h with
    | nil => exact ⟨[], .nil, .nil⟩
    | cons hxz hrest ih =>
      obtain ⟨y, hx, hz⟩ := hxz
      obtain ⟨ys, hxs, hzs⟩ := ih
      exact ⟨y :: ys, .cons hx hxs, .cons hz hzs⟩

theorem forall_getElem?_cons {α : Type} {P : Nat → α → Prop} {x : α} {xs : List α} :
    (∀ i y, (x :: xs)[i]? = some y → P i y) ↔ P 0 x ∧ ∀ i y, xs[i]? = some y → P (i + 1) y := by
  constructor
  · exact fun h => ⟨h 0 x rfl, fun i y hy => h (i + 1) y hy⟩
  · rintro ⟨hx, hxs⟩ (_ | i) y hy
    · exact Option.some.inj hy ▸ hx
    · exact hxs i y hy

/-- Fields are filled by the items in order, and those at the end by nothing. -/
theorem slotsInOrder_forall₂ {α : Type} {P : Field α → Option Json → Prop}
    {fields : List (Field α)} {names : List String} (hlength : names.length = fields.length)
    {items : List Json} :
    (∃ slots, Json.slotsInOrder names items = some slots ∧ List.Forall₂ P fields slots) ↔
      items.length ≤ fields.length ∧
        ∀ (i : Nat) (f : Field α), fields[i]? = some f → P f items[i]? := by
  induction fields generalizing names items with
  | nil =>
    obtain rfl := List.length_eq_zero_iff.mp hlength
    cases items <;> simp [Json.slotsInOrder]
  | cons f fields ih =>
    obtain ⟨name, names, rfl⟩ := List.exists_cons_of_length_eq_add_one hlength
    -- The first field gets an item or nothing; either way the others get what is left.
    have hcases : ∀ slot rest,
        (∃ slots, (Json.slotsInOrder names rest).map (slot :: ·) = some slots ∧
          List.Forall₂ P (f :: fields) slots) ↔
        P f slot ∧ rest.length ≤ fields.length ∧
          ∀ (i : Nat) (g : Field α), fields[i]? = some g → P g rest[i]? := by
      intro slot rest
      rw [← ih (Nat.succ.inj hlength)]
      constructor
      · rintro ⟨_, hmap, hall⟩
        obtain ⟨slots, hslots, rfl⟩ := Option.map_eq_some_iff.mp hmap
        obtain ⟨hf, hfields⟩ := List.forall₂_cons.mp hall
        exact ⟨hf, slots, hslots, hfields⟩
      · rintro ⟨hf, slots, hslots, hfields⟩
        exact ⟨slot :: slots, by rw [hslots]; rfl, .cons hf hfields⟩
    rw [forall_getElem?_cons]
    cases items with
    | nil =>
      refine (hcases none []).trans ?_
      simp only [List.length_nil, Nat.zero_le, true_and, List.getElem?_nil]
    | cons item items =>
      refine (hcases (some item) items).trans ?_
      simp only [List.length_cons, Nat.add_le_add_iff_right, List.getElem?_cons_zero,
        List.getElem?_cons_succ, and_left_comm]

/-- What holds of each field together with its name holds of all fields. -/
theorem forall₂_iff_forall_mem {α : Type} {R : Field α → String → Prop} {S : Field α → Prop}
    {keyOf : String → Option String} {fields : List (Field α)} {names : List String}
    (hkeys : fields.map Field.key = names.map keyOf)
    (h : ∀ f name, f.key = keyOf name → (R f name ↔ S f)) :
    List.Forall₂ R fields names ↔ ∀ f ∈ fields, S f := by
  induction fields generalizing names with
  | nil =>
    obtain rfl := List.map_eq_nil_iff.mp hkeys.symm
    simp
  | cons f fields ih =>
    obtain ⟨name, names, rfl, hname, hrest⟩ := List.map_eq_cons_iff.mp hkeys.symm
    rw [List.forall₂_cons, List.forall_mem_cons, ih hrest.symm, h f name hname.symm]

theorem Json.valuesOf_filter_of_ne {entries : List (Option String × Json)} {name other : String}
    (h : name ≠ other) :
    valuesOf name (entries.filter (·.1 != some other)) = valuesOf name entries := by
  rw [valuesOf, List.filter_filter, valuesOf]
  refine congrArg _ (List.filter_congr fun e _ => ?_)
  by_cases he : e.1 = some name
  · simp [he, h]
  · simp [he]

namespace RecordKind

theorem readBody_iff_decodes (k : RecordKind) {levels : Nat} {j : Json} {a : k.Value}
    (h : j.depth ≤ levels) :
    k.readBody levels j = some a ↔ ∃ slots, j.fields levels k.keys = some slots ∧
      List.Forall₂ (fun f slot => f.Decodes slot a) k.bodyTable slots := by
  rw [k.readBody_eq_some_iff]
  refine exists_congr fun slots => and_congr_right fun hslots => ?_
  have hslot : ∀ slot ∈ slots, ∀ f : Field k.Value,
      f.Reads (levels - 1) slot a ↔ f.Decodes slot a := by
    rintro slot hslot f
    refine f.reads_iff_decodes ?_
    rintro v rfl
    have hv := Json.depth_lt_of_fields hslots hslot
    omega
  exact forall₂_congr_of_mem_right hslot

/-- The record of an object by what the object gives for its fields. -/
theorem readBody_object (k : RecordKind) {levels : Nat} {entries : List (Option String × Json)}
    {a : k.Value} (h : (Json.object entries).depth ≤ levels) :
    k.readBody levels (.object entries) = some a ↔ (∀ e ∈ entries, e.1.isSome = true) ∧
      List.Forall₂ (fun f name => ∃ slot, Json.slotOf entries name = some slot ∧ f.Decodes slot a)
        k.bodyTable k.keys := by
  have hlevels : levels ≠ 0 := Nat.ne_of_gt (Nat.lt_of_lt_of_le (Nat.succ_pos _) h)
  rw [k.readBody_iff_decodes h, ← exists_forall₂_and]
  simp only [Json.fields, if_neg hlevels, List.all_eq_true, Option.ite_none_right_eq_some,
    mapM_eq_some_iff, and_assoc, exists_and_left]

theorem readBody_array (k : RecordKind) {levels : Nat} {items : List Json}
    {a : k.Value} (h : (Json.array items).depth ≤ levels) :
    k.readBody levels (.array items) = some a ↔ items.length ≤ k.bodyTable.length ∧
      ∀ (i : Nat) (f : Field k.Value), k.bodyTable[i]? = some f → f.Decodes items[i]? a := by
  have hlevels : levels ≠ 0 := Nat.ne_of_gt (Nat.lt_of_lt_of_le (Nat.succ_pos _) h)
  rw [k.readBody_iff_decodes h]
  simp only [Json.fields, if_neg hlevels]
  exact slotsInOrder_forall₂ k.length_keys

theorem splitTag_object_eq_some_iff {entries : List (Option String × Json)} {name : String}
    {body : Json} :
    Metadata.splitTag (.object entries) = some (name, body) ↔
      Json.valuesOf Metadata.tag entries = [.text (some name)] ∧
        body = .object (entries.filter (·.1 != some Metadata.tag)) := by
  constructor
  · intro h
    refine ⟨?_, Metadata.body_of_splitTag_object h⟩
    simp only [Metadata.splitTag] at h
    split at h
    · rename_i given hvalues
      obtain rfl := (Prod.mk.inj (Option.some.inj h)).1
      exact hvalues
    · cases h
  · rintro ⟨hvalues, rfl⟩
    simp only [Metadata.splitTag, hvalues]

theorem splitTag_array_eq_some_iff {items : List Json} {name : String} {body : Json} :
    Metadata.splitTag (.array items) = some (name, body) ↔
      ∃ rest, items = .text (some name) :: rest ∧ body = .array rest := by
  constructor
  · intro h
    unfold Metadata.splitTag at h
    split at h
    · rename_i heq
      cases heq
    · rename_i given rest heq
      obtain ⟨rfl, rfl⟩ := Prod.mk.inj (Option.some.inj h)
      exact ⟨rest, Json.array.inj heq, rfl⟩
    · cases h
  · rintro ⟨rest, rfl, rfl⟩
    rfl

/-- The tag of a root is the name of its kind. -/
theorem decode_tag_eq_some_iff {kind : MetadataKind} {j : Json} :
    (Shape.plain (.tag kind)).decode j = some () ↔ j = .text (some (Named.name kind)) := by
  have hread : (Shape.plain (.tag kind)).decode j = (PlainKind.tag kind).read j.depth j := rfl
  rw [hread]
  simp only [PlainKind.read]
  constructor
  · intro h
    split at h
    · rename_i name
      split at h
      · rename_i hname
        rw [hname]
      · cases h
    · cases h
  · rintro rfl
    exact if_pos rfl

theorem slotOf_eq_some_some_iff {entries : List (Option String × Json)} {name : String}
    {j : Json} :
    Json.slotOf entries name = some (some j) ↔ Json.valuesOf name entries = [j] := by
  unfold Json.slotOf
  split <;> simp_all

theorem tag_decodesIn_iff {kind : MetadataKind} {entries : List (Option String × Json)}
    {a : kind.Value} :
    (tagField kind).DecodesIn entries a ↔
      Json.valuesOf Metadata.tag entries = [.text (some (Named.name kind))] := by
  rw [← slotOf_eq_some_some_iff]
  constructor
  · rintro ⟨_ | j, hslot, hdecodes⟩
    · cases hdecodes
    · rwa [← decode_tag_eq_some_iff.mp hdecodes]
  · exact fun h => ⟨_, h, decode_tag_eq_some_iff.mpr rfl⟩

theorem slotOf_filter_tag (entries : List (Option String × Json)) :
    Json.slotOf (entries.filter (·.1 != some Metadata.tag)) Metadata.tag = some none := by
  rw [Json.slotOf, Metadata.valuesOf_filter_ne]

theorem slotOf_filter_of_ne {entries : List (Option String × Json)} {name other : String}
    (h : name ≠ other) :
    Json.slotOf (entries.filter (·.1 != some other)) name = Json.slotOf entries name := by
  rw [Json.slotOf, Json.valuesOf_filter_of_ne h, Json.slotOf]

/-- **Objects**: a record is decoded from an object whose keys are texts and which gives each field
    its value: once under its key, or not at all if that is the default. -/
theorem decode_object (k : RecordKind) (entries : List (Option String × Json)) (a : k.Value) :
    (Shape.record k).decode (.object entries) = some a ↔
      (∀ e ∈ entries, e.1.isSome = true) ∧ ∀ f ∈ k.table, f.DecodesIn entries a := by
  rcases k.exists_root_or with ⟨kind, rfl⟩ | ⟨hread, htable, hkeys⟩
  · -- The tag is split off first, and the other fields are looked up in what is left.
    have htexts : (∀ e ∈ entries.filter (·.1 != some Metadata.tag), e.1.isSome = true) ↔
        ∀ e ∈ entries, e.1.isSome = true := by
      refine ⟨fun h e he => ?_, fun h e he => h e (List.mem_filter.mp he).1⟩
      by_cases hkey : e.1 = some Metadata.tag
      · rw [hkey]
        rfl
      · exact h e (List.mem_filter.mpr ⟨he, by simpa using hkey⟩)
    have hbody : (Json.object (entries.filter (·.1 != some Metadata.tag))).depth ≤
        (Json.object entries).depth := Json.depth_object_le_of_subset (List.filter_subset_self _)
    have hfields : List.Forall₂ (fun f name => ∃ slot,
          Json.slotOf (entries.filter (·.1 != some Metadata.tag)) name = some slot ∧
            Field.Decodes f slot a) (root kind).bodyTable (root kind).keys ↔
        ∀ f ∈ (root kind).bodyTable, f.DecodesIn entries a := by
      refine forall₂_iff_forall_mem (root_keys kind) fun f name hkey => ?_
      rw [Field.DecodesIn, hkey]
      by_cases hname : name = Metadata.tag
      · rw [if_pos hname, hname, slotOf_filter_tag]
        exact Iff.rfl
      · rw [if_neg hname, slotOf_filter_of_ne hname]
        exact Iff.rfl
    refine read_root_eq_some_iff.trans ?_
    rw [table, List.forall_mem_cons, tag_decodesIn_iff, ← hfields, ← htexts]
    simp only [splitTag_object_eq_some_iff]
    constructor
    · rintro ⟨body, ⟨htag, rfl⟩, hread⟩
      obtain ⟨hkeys, hall⟩ := ((root kind).readBody_object hbody).mp hread
      exact ⟨hkeys, htag, hall⟩
    · rintro ⟨hkeys, htag, hall⟩
      exact ⟨_, ⟨htag, rfl⟩, ((root kind).readBody_object hbody).mpr ⟨hkeys, hall⟩⟩
  · show k.read _ _ = _ ↔ _
    rw [hread, k.readBody_object (Nat.le_refl _), htable]
    refine and_congr_right fun _ => forall₂_iff_forall_mem hkeys fun f name hkey => ?_
    rw [Field.DecodesIn, hkey]
    exact Iff.rfl

/-- **Arrays**: a record is decoded from an array that gives the fields their values in order and
    ends before fields at their defaults only. -/
theorem decode_array (k : RecordKind) (items : List Json) (a : k.Value) :
    (Shape.record k).decode (.array items) = some a ↔ items.length ≤ k.table.length ∧
      ∀ (i : Nat) (f : Field k.Value), k.table[i]? = some f → f.Decodes items[i]? a := by
  rcases k.exists_root_or with ⟨kind, rfl⟩ | ⟨hread, htable, -⟩
  · refine read_root_eq_some_iff.trans ?_
    rw [table, forall_getElem?_cons]
    cases items with
    | nil =>
      refine iff_of_false ?_ ?_
      · rintro ⟨body, hsplit, -⟩
        cases hsplit
      · rintro ⟨-, htag, -⟩
        cases htag
    | cons item rest =>
      have hbody : (Json.array rest).depth ≤ (Json.array (item :: rest)).depth :=
        Json.depth_array_le_of_subset (List.subset_cons_self _ _)
      simp only [splitTag_array_eq_some_iff, List.length_cons, Nat.add_le_add_iff_right,
        List.getElem?_cons_zero, List.getElem?_cons_succ]
      constructor
      · rintro ⟨body, ⟨_, heq, rfl⟩, hread⟩
        obtain ⟨rfl, rfl⟩ := List.cons.inj heq
        obtain ⟨hlength, hall⟩ := ((root kind).readBody_array hbody).mp hread
        exact ⟨hlength, decode_tag_eq_some_iff.mpr rfl, hall⟩
      · rintro ⟨hlength, htag, hall⟩
        refine ⟨_, ⟨rest, ?_, rfl⟩, ((root kind).readBody_array hbody).mpr ⟨hlength, hall⟩⟩
        rw [decode_tag_eq_some_iff.mp htag]
  · show k.read _ _ = _ ↔ _
    rw [hread, k.readBody_array (Nat.le_refl _), htable]

end RecordKind

/-! ## Roots -/

/-- The name of a value is what it was found by. -/
theorem Named.name_of_ofName? {α : Type} [Named α] {s : String} {a : α}
    (h : (Named.ofName? s : Option α) = some a) : Named.name a = s :=
  eq_of_beq (List.find?_some (p := fun a => Named.name a == s) h)

/-- The metadata of one kind is metadata. -/
def MetadataKind.wrap : (kind : MetadataKind) → kind.Value → Metadata
  | .classDecl => .classDecl
  | .fileFacade => .fileFacade
  | .syntheticClass => .syntheticClass
  | .multiFileFacade => .multiFileFacade
  | .multiFilePart => .multiFilePart

theorem MetadataKind.wrap_inj {kind : MetadataKind} {a b : kind.Value}
    (h : kind.wrap a = kind.wrap b) : a = b := by
  cases kind <;> (cases h; rfl)

namespace Metadata

theorem kind_wrap (kind : MetadataKind) (a : kind.Value) : (kind.wrap a).kind = kind := by
  cases kind <;> rfl

/-- What the root of a kind has in it. -/
def value : (m : Metadata) → m.kind.Value
  | .classDecl c => c
  | .fileFacade f => f
  | .syntheticClass s => s
  | .multiFileFacade f => f
  | .multiFilePart p => p

theorem wrap_value (m : Metadata) : m.kind.wrap m.value = m := by
  cases m <;> rfl

theorem bodyOfJson?_eq (kind : MetadataKind) (levels : Nat) (body : Json) :
    bodyOfJson? kind levels body =
      ((RecordKind.root kind).readBody levels body).map kind.wrap := by
  cases kind <;> rfl

/-- The tree says that it is of a kind. -/
def TaggedAs (kind : MetadataKind) (j : Json) : Prop :=
  ∃ body, splitTag j = some (Named.name kind, body)

theorem TaggedAs.unique {kind other : MetadataKind} {j : Json} (h : TaggedAs kind j)
    (hother : TaggedAs other j) : other = kind := by
  obtain ⟨body, hsplit⟩ := h
  obtain ⟨body', hsplit'⟩ := hother
  have hname := (Prod.mk.inj (Option.some.inj (hsplit'.symm.trans hsplit))).1
  have hfound := other.ofName?_name
  rw [hname, MetadataKind.ofName?_name] at hfound
  exact (Option.some.inj hfound).symm

theorem TaggedAs.of_decode {kind : MetadataKind} {j : Json} {a : kind.Value}
    (h : (Shape.record (.root kind)).decode j = some a) : TaggedAs kind j := by
  obtain ⟨body, hsplit, -⟩ := RecordKind.read_root_eq_some_iff.mp h
  exact ⟨body, hsplit⟩

/-- **Roots**: a root is read exactly if it can be represented and its record is decoded. -/
theorem ofTree?_eq_some_iff {kind : MetadataKind} {j : Json} {a : kind.Value} :
    ofTree? j = some (kind.wrap a) ↔
      j.representable = true ∧ (Shape.record (.root kind)).decode j = some a := by
  constructor
  · intro h
    unfold ofTree? at h
    obtain ⟨_, hguard, h⟩ := Option.bind_eq_some_iff.mp h
    obtain ⟨⟨name, body⟩, hsplit, h⟩ := Option.bind_eq_some_iff.mp h
    obtain ⟨found, hfound, h⟩ := Option.bind_eq_some_iff.mp h
    rw [bodyOfJson?_eq] at h
    obtain ⟨b, hread, hwrap⟩ := Option.map_eq_some_iff.mp h
    obtain rfl : found = kind := by rw [← kind_wrap kind a, ← hwrap, kind_wrap]
    obtain rfl := MetadataKind.wrap_inj hwrap
    have hrepresentable : j.representable = true := by
      by_contra hnot
      rw [guard, if_neg hnot] at hguard
      cases hguard
    rw [← Named.name_of_ofName? hfound] at hsplit
    exact ⟨hrepresentable, RecordKind.read_root_eq_some_iff.mpr ⟨body, hsplit, hread⟩⟩
  · rintro ⟨hrepresentable, hdecode⟩
    obtain ⟨body, hsplit, hread⟩ := RecordKind.read_root_eq_some_iff.mp hdecode
    have hguard : guard (j.representable = true) = some () := if_pos hrepresentable
    unfold ofTree?
    refine Json.bind_of_eq_some hguard ?_
    refine Json.bind_of_eq_some hsplit ?_
    refine Json.bind_of_eq_some kind.ofName?_name ?_
    rw [bodyOfJson?_eq, hread]
    rfl

/-- A root that is of no other kind and whose record is not decoded is refused. -/
theorem ofTree?_eq_none {kind : MetadataKind} {j : Json}
    (hkind : ∀ other, TaggedAs other j → other = kind)
    (h : (Shape.record (.root kind)).decode j = none) : ofTree? j = none := by
  refine Option.eq_none_iff_forall_ne_some.mpr fun m hm => ?_
  rw [← m.wrap_value] at hm
  have hdecode := (ofTree?_eq_some_iff.mp hm).2
  obtain rfl := hkind _ (.of_decode hdecode)
  rw [h] at hdecode
  cases hdecode

/-- What one tree is read as, another of the same kind is that is decoded to whatever it is. -/
theorem ofTree?_eq_some_of_decode {kind : MetadataKind} {i j : Json}
    (hi : ∀ other, TaggedAs other i → other = kind)
    (hrepresentable : i.representable = true → j.representable = true)
    (h : ∀ a, (Shape.record (.root kind)).decode i = some a →
      (Shape.record (.root kind)).decode j = some a)
    {m : Metadata} (hm : ofTree? i = some m) : ofTree? j = some m := by
  rw [← m.wrap_value] at hm ⊢
  obtain ⟨hrep, hdecode⟩ := ofTree?_eq_some_iff.mp hm
  obtain rfl := hi _ (.of_decode hdecode)
  exact ofTree?_eq_some_iff.mpr ⟨hrepresentable hrep, h _ hdecode⟩

/-- Trees of one kind are read alike if they are decoded alike. -/
theorem ofTree?_congr {kind : MetadataKind} {i j : Json}
    (hi : ∀ other, TaggedAs other i → other = kind)
    (hj : ∀ other, TaggedAs other j → other = kind)
    (hrepresentable : i.representable = true ↔ j.representable = true)
    (h : (Shape.record (.root kind)).decode i = (Shape.record (.root kind)).decode j) :
    ofTree? i = ofTree? j :=
  Option.ext fun _ =>
    ⟨ofTree?_eq_some_of_decode hi hrepresentable.mp fun _ ha => h ▸ ha,
      ofTree?_eq_some_of_decode hj hrepresentable.mpr fun _ ha => h ▸ ha⟩

/-- A text is read as its tree, unless that nests too deep. -/
theorem ofText?_of_parse {s : String} {j : Json} (h : Json.parse? s = some j) :
    ofText? s = if j.depth ≤ levelLimit then ofTree? j else none := by
  rw [ofText?, h]
  rfl

end Metadata

end KotlinMetadata
