import KotlinMetadata.Json.Record

/-! # Written records read back

    What one value, slot or record of values needs so that reading undoes writing, stated once
    for all records of the metadata.

    - `Json.ReadsBack`: what is written for a value is read back as that value, with as many
      levels as it nests;
    - `Json.SlotReadsBack`: the same for the slot of a field, by `required`, `optional`,
      `defaulted` or a list;
    - `Json.fields_record`: a written record gives its slots back;
    - `Json.ReadsBack.of_record`: a record whose slots read back reads back.
-/

namespace KotlinMetadata

namespace Json

/-! ## Depth and representability -/

theorem depthOfItems_le {js : List Json} {n : Nat} :
    depthOfItems js ≤ n ↔ ∀ j ∈ js, j.depth ≤ n := by
  induction js with
  | nil => simp [depthOfItems]
  | cons j js ih => rw [depthOfItems, Nat.max_le, ih, List.forall_mem_cons]

theorem depthOfEntries_le {es : List (Option String × Json)} {n : Nat} :
    depthOfEntries es ≤ n ↔ ∀ e ∈ es, e.2.depth ≤ n := by
  induction es with
  | nil => simp [depthOfEntries]
  | cons e es ih => rw [depthOfEntries, Nat.max_le, ih, List.forall_mem_cons]

theorem itemsRepresentable_iff {js : List Json} :
    itemsRepresentable js = true ↔ ∀ j ∈ js, j.representable = true := by
  induction js with
  | nil => simp [itemsRepresentable]
  | cons j js ih => rw [itemsRepresentable, Bool.and_eq_true, ih, List.forall_mem_cons]

theorem entriesRepresentable_iff {es : List (Option String × Json)} :
    entriesRepresentable es = true ↔
      ∀ e ∈ es, e.1.isSome = true ∧ e.2.representable = true := by
  induction es with
  | nil => simp [entriesRepresentable]
  | cons e es ih =>
    rw [entriesRepresentable, Bool.and_eq_true, Bool.and_eq_true, ih, List.forall_mem_cons]

/-! ## Slots -/

/-- What stands in a slot nests no deeper than that. -/
def SlotWithin (levels : Nat) (slot : Option Json) : Prop :=
  ∀ j ∈ slot, j.depth ≤ levels

/-- What stands in a slot is representable. -/
def SlotRepresentable (slot : Option Json) : Prop :=
  ∀ j ∈ slot, j.representable = true

/-- The entries of a written record. -/
def recordEntries (names : List String) (slots : List (Option Json)) :
    List (Option String × Json) :=
  ((names.zip slots).filterMap fun (name, slot) => slot.map fun j => (name, j)).map
    fun (key, value) => (some key, value)

theorem record_eq (names : List String) (slots : List (Option Json)) :
    record names slots = .object (recordEntries names slots) := rfl

theorem recordEntries_cons (name : String) (names : List String) (slot : Option Json)
    (slots : List (Option Json)) :
    recordEntries (name :: names) (slot :: slots) =
      (slot.map fun j => (some name, j)).toList ++ recordEntries names slots := by
  cases slot <;> rfl

/-- An entry of a record stands in one of its slots, under one of its names. -/
theorem mem_recordEntries {names : List String} {slots : List (Option Json)}
    {e : Option String × Json} (h : e ∈ recordEntries names slots) :
    (∃ name ∈ names, e.1 = some name) ∧ some e.2 ∈ slots := by
  simp only [recordEntries, List.mem_map, List.mem_filterMap] at h
  obtain ⟨⟨key, value⟩, ⟨⟨name, slot⟩, hmem, hslot⟩, rfl⟩ := h
  obtain ⟨j, rfl, hj⟩ := Option.map_eq_some_iff.mp hslot
  obtain ⟨rfl, rfl⟩ := Prod.mk.inj hj
  obtain ⟨hname, hslots⟩ := List.of_mem_zip hmem
  exact ⟨⟨name, hname, rfl⟩, hslots⟩

/-- Whatever stands in a slot is an entry of the record. -/
theorem exists_mem_recordEntries {names : List String} {slots : List (Option Json)}
    (hlength : slots.length = names.length) {j : Json} (h : some j ∈ slots) :
    ∃ key, (key, j) ∈ recordEntries names slots := by
  induction names generalizing slots with
  | nil =>
    rw [List.length_eq_zero_iff.mp hlength] at h
    exact absurd h List.not_mem_nil
  | cons name names ih =>
    cases slots with
    | nil => exact absurd h List.not_mem_nil
    | cons slot slots =>
      rw [recordEntries_cons]
      rcases List.mem_cons.mp h with rfl | h
      · exact ⟨some name, List.mem_append_left _ List.mem_cons_self⟩
      · obtain ⟨key, hkey⟩ := ih (Nat.succ.inj hlength) h
        exact ⟨key, List.mem_append_right _ hkey⟩

theorem depth_record_le {names : List String} {slots : List (Option Json)}
    (hlength : slots.length = names.length) {levels : Nat}
    (h : (record names slots).depth ≤ levels) :
    levels ≠ 0 ∧ ∀ slot ∈ slots, SlotWithin (levels - 1) slot := by
  rw [record_eq, depth] at h
  have hentries : depthOfEntries (recordEntries names slots) ≤ levels - 1 := by omega
  refine ⟨by omega, ?_⟩
  rintro _ hslot j rfl
  obtain ⟨key, hkey⟩ := exists_mem_recordEntries hlength hslot
  exact depthOfEntries_le.mp hentries _ hkey

theorem representable_record {names : List String} {slots : List (Option Json)}
    (h : ∀ slot ∈ slots, SlotRepresentable slot) :
    (record names slots).representable = true := by
  rw [record_eq, representable, entriesRepresentable_iff]
  intro e he
  obtain ⟨⟨name, -, hname⟩, hslot⟩ := mem_recordEntries he
  exact ⟨by rw [hname]; rfl, h _ hslot e.2 rfl⟩

/-! ## Fields -/

theorem mapM_congr_of_mem {α β : Type} {f g : α → Option β} {as : List α}
    (h : ∀ a ∈ as, f a = g a) : as.mapM f = as.mapM g := by
  induction as with
  | nil => rfl
  | cons a as ih =>
    rw [List.mapM_cons, List.mapM_cons, h a List.mem_cons_self,
      ih fun x hx => h x (List.mem_cons_of_mem a hx)]

theorem valuesOf_append (name : String) (es fs : List (Option String × Json)) :
    valuesOf name (es ++ fs) = valuesOf name es ++ valuesOf name fs := by
  rw [valuesOf, List.filter_append, List.map_append]
  rfl

/-- A name that a record does not have gives no values. -/
theorem valuesOf_recordEntries_of_not_mem {name : String} {names : List String}
    (hname : name ∉ names) (slots : List (Option Json)) :
    valuesOf name (recordEntries names slots) = [] := by
  rw [valuesOf, List.map_eq_nil_iff, List.filter_eq_nil_iff]
  intro e he heq
  obtain ⟨⟨key, hkey, hentry⟩, -⟩ := mem_recordEntries he
  rw [hentry, beq_iff_eq, Option.some.injEq] at heq
  exact hname (heq ▸ hkey)

/-- The slots are found by their names again. -/
theorem mapM_slotOf_recordEntries {names : List String} {slots : List (Option Json)}
    (hnodup : names.Nodup) (hlength : slots.length = names.length) :
    names.mapM (slotOf (recordEntries names slots)) = some slots := by
  induction names generalizing slots with
  | nil =>
    rw [List.length_eq_zero_iff.mp hlength]
    rfl
  | cons name names ih =>
    cases slots with
    | nil => exact absurd hlength (by simp)
    | cons slot slots =>
      -- The first entry is found by its name and hides no other, as no other name is the same.
      obtain ⟨hname, hnodup⟩ := List.nodup_cons.mp hnodup
      have hothers := valuesOf_recordEntries_of_not_mem hname slots
      have hfirst : slotOf (recordEntries (name :: names) (slot :: slots)) name = some slot := by
        rw [slotOf, recordEntries_cons, valuesOf_append, hothers]
        cases slot <;> simp [valuesOf]
      have hrest : ∀ other ∈ names,
          slotOf (recordEntries (name :: names) (slot :: slots)) other =
            slotOf (recordEntries names slots) other := by
        intro other hother
        have hne : name ≠ other := by
          rintro rfl
          exact hname hother
        rw [slotOf, slotOf, recordEntries_cons, valuesOf_append]
        cases slot <;> simp [valuesOf, hne]
      rw [List.mapM_cons, hfirst, mapM_congr_of_mem hrest, ih hnodup (Nat.succ.inj hlength)]
      rfl

/-- A written record gives its slots back. -/
theorem fields_record {names : List String} {slots : List (Option Json)} (hnodup : names.Nodup)
    (hlength : slots.length = names.length) {levels : Nat} (hlevels : levels ≠ 0) :
    (record names slots).fields levels names = some slots := by
  have hkeys : (recordEntries names slots).all (·.1.isSome) = true := by
    rw [List.all_eq_true]
    intro e he
    obtain ⟨⟨name, -, hname⟩, -⟩ := mem_recordEntries he
    rw [hname]
    rfl
  rw [record_eq, fields, if_neg hlevels]
  simp only [hkeys, if_true]
  exact mapM_slotOf_recordEntries hnodup hlength

/-- Reading goes on with what was read. -/
theorem bind_of_eq_some {α β : Type} {x : Option α} {a : α} {f : α → Option β} {b : Option β}
    (hx : x = some a) (hf : f a = b) : x >>= f = b := by
  rw [hx]
  exact hf

/-! ## Reading back -/

section ReadsBack
variable {α : Type} {write : α → Json} {read : Nat → Json → Option α} {a : α}

/-- What is written for a value is read back as that value, with as many levels as it nests.  It
    can be read at all, and it does not stand for an absent value. -/
structure ReadsBack (write : α → Json) (read : Nat → Json → Option α) (a : α) : Prop where
  reads : ∀ levels, (write a).depth ≤ levels → read levels (write a) = some a
  representable : (write a).representable = true
  notNull : write a ≠ .null

/-- The slot that is written for the value of a field is read back as that value. -/
structure SlotReadsBack (slot : Option Json) (read : Nat → Option Json → Option α) (a : α) :
    Prop where
  reads : ∀ levels, SlotWithin levels slot → read levels slot = some a
  representable : SlotRepresentable slot

/-- A field that is always written. -/
theorem ReadsBack.required (h : ReadsBack write read a) :
    SlotReadsBack (some (write a)) (fun levels => Json.required (read levels)) a where
  reads levels hwithin := h.reads levels (hwithin _ rfl)
  representable := by
    rintro _ ⟨⟩
    exact h.representable

/-- A field that is always written and has a default nevertheless. -/
theorem ReadsBack.defaulted (h : ReadsBack write read a) (value : α) :
    SlotReadsBack (some (write a)) (fun levels => Json.defaulted value (read levels)) a where
  reads levels hwithin := h.reads levels (hwithin _ rfl)
  representable := by
    rintro _ ⟨⟩
    exact h.representable

/-- A field that is left out when it has no value. -/
theorem ReadsBack.optional {value : Option α} (h : ∀ a ∈ value, ReadsBack write read a) :
    SlotReadsBack (value.map write) (fun levels => Json.optional (read levels)) value := by
  cases value with
  | none => exact ⟨fun _ _ => rfl, fun _ => nofun⟩
  | some a =>
    have ha := h a rfl
    refine ⟨fun levels hwithin => ?_, ?_⟩
    · have hread := ha.reads levels (hwithin _ rfl)
      have hnull := ha.notNull
      simp only [Option.map_some, Json.optional, hread]
    · rintro _ ⟨⟩
      exact ha.representable

/-- A value made from another one, if it is written as that one. -/
theorem ReadsBack.map {β : Type} {write' : β → Json} {g : α → β} (h : ReadsBack write read a)
    (hwrite : write' (g a) = write a) :
    ReadsBack write' (fun levels j => (read levels j).map g) (g a) where
  reads levels hdepth := by
    rw [hwrite] at hdepth ⊢
    rw [h.reads levels hdepth]
    rfl
  representable := by
    rw [hwrite]
    exact h.representable
  notNull := by
    rw [hwrite]
    exact h.notNull

/-- A list, with its items one level further in. -/
theorem ReadsBack.list {values : List α} (h : ∀ a ∈ values, ReadsBack write read a) :
    ReadsBack (fun values => .array (values.map write)) (fun levels => readItems levels read)
      values where
  reads levels hdepth := by
    -- One level is for the list itself, the others are left for its items.
    have hwithin : depthOfItems (values.map write) + 1 ≤ levels := hdepth
    have hitems := depthOfItems_le.mp (Nat.le_sub_of_add_le hwithin)
    have hread : ∀ x ∈ values, read (levels - 1) (write x) = some x := fun x hx =>
      (h x hx).reads _ (hitems _ (List.mem_map_of_mem hx))
    have hmapM : (values.map write).mapM (read (levels - 1)) = some values := by
      rw [List.mapM_map, mapM_congr_of_mem (f := read (levels - 1) ∘ write) hread]
      exact (List.mapM_pure (m := Option) (f := id)).trans (by simp)
    have hlevels : levels ≠ 0 := by omega
    rw [readItems, readList, if_neg hlevels]
    exact hmapM
  representable := by
    rw [Json.representable, itemsRepresentable_iff]
    intro j hj
    obtain ⟨x, hx, rfl⟩ := List.mem_map.mp hj
    exact (h x hx).representable
  notNull := nofun

/-- A list that is left out when it is empty. -/
theorem ReadsBack.items {values : List α} (h : ∀ a ∈ values, ReadsBack write read a) :
    SlotReadsBack (listSlot write values)
      (fun levels => Json.defaulted [] (readItems levels read)) values := by
  cases values with
  | nil => exact ⟨fun _ _ => rfl, fun _ => nofun⟩
  | cons a as => exact (ReadsBack.list h).defaulted []

/-- A record reads back if it does so given its slots. -/
theorem ReadsBack.of_record {names : List String} {slots : List (Option Json)}
    (hwrite : write a = record names slots) (hnodup : names.Nodup)
    (hlength : slots.length = names.length)
    (hrepresentable : ∀ slot ∈ slots, SlotRepresentable slot)
    (hreads : ∀ levels, (record names slots).fields levels names = some slots →
      (∀ slot ∈ slots, SlotWithin (levels - 1) slot) →
      read levels (record names slots) = some a) :
    ReadsBack write read a where
  reads levels hdepth := by
    rw [hwrite] at hdepth ⊢
    obtain ⟨hlevels, hwithin⟩ := depth_record_le hlength hdepth
    exact hreads levels (fields_record hnodup hlength hlevels) hwithin
  representable := by
    rw [hwrite]
    exact representable_record hrepresentable
  notNull := by
    rw [hwrite]
    exact nofun

end ReadsBack

/-! ## Plain values -/

theorem readsBack_text (s : String) : ReadsBack .ofString (fun _ => readText) s :=
  ⟨fun _ _ => rfl, rfl, nofun⟩

theorem readsBack_bool (b : Bool) : ReadsBack .bool (fun _ => readBool) b :=
  ⟨fun _ _ => rfl, rfl, nofun⟩

theorem roundToDouble_le {n : Nat} (hn : n ≠ 0) : JsonNumber.roundToDouble n ≤ 2 * n := by
  have hunit : Nat.pow 2 (n.log2 - 52) ≤ n := by
    calc Nat.pow 2 (n.log2 - 52) ≤ Nat.pow 2 n.log2 :=
          Nat.pow_le_pow_right (by decide) (Nat.sub_le _ _)
      _ ≤ n := Nat.log2_self_le hn
  have hkept := Nat.div_mul_le_self n (Nat.pow 2 (n.log2 - 52))
  have hup := Nat.add_one_mul (n / Nat.pow 2 (n.log2 - 52)) (Nat.pow 2 (n.log2 - 52))
  simp only [JsonNumber.roundToDouble]
  split <;> omega

theorem doubleOverflow_gt : 2 * UInt64.size < JsonNumber.doubleOverflow := by
  -- The powers of two are too great for anything but the kernel's arithmetic.
  decide +kernel

/-- A number of 64 bits is read as a finite double. -/
theorem fitsDouble_of_lt {n : Nat} (hn : n < UInt64.size) :
    (JsonNumber.whole false n).fitsDouble = true := by
  -- The number is among those whose digits are all kept.
  have hdigits : JsonNumber.leadingDigits n.log2 n 0 = (n, 0) := by
    cases n.log2 with
    | zero => rfl
    | succ rounds => rw [JsonNumber.leadingDigits, if_pos hn]
  rw [JsonNumber.fitsDouble, JsonNumber.fitsDoubleScaled, hdigits]
  cases n with
  | zero => rfl
  | succ m =>
    have hround := roundToDouble_le (Nat.add_one_ne_zero m)
    have hone : JsonNumber.roundToDouble (Nat.pow 10 0) = 1 := by decide
    have hbound := doubleOverflow_gt
    have hfits : JsonNumber.roundToDouble (m + 1) < JsonNumber.doubleOverflow := by omega
    show (decide (0 ≤ 308) && decide (JsonNumber.roundToDouble (m + 1) *
      JsonNumber.roundToDouble (Nat.pow 10 0) < JsonNumber.doubleOverflow)) = true
    rw [hone, Nat.mul_one]
    simp [hfits]

theorem readsBack_uint32 (n : UInt32) :
    ReadsBack (fun n : UInt32 => .ofNat n.toNat) (fun _ => readUInt32) n where
  reads _ _ := by
    have hlt : decide (n.toNat < UInt32.size) = true := decide_eq_true n.toNat_lt
    show Option.map UInt32.ofNat ((some n.toNat).filter (· < UInt32.size)) = some n
    rw [Option.filter_some, if_pos hlt, Option.map_some, UInt32.ofNat_toNat]
  representable := fitsDouble_of_lt (Nat.lt_trans n.toNat_lt (by decide))
  notNull := nofun

theorem readsBack_uint64 (n : UInt64) :
    ReadsBack (fun n : UInt64 => .ofNat n.toNat) (fun _ => readUInt64) n where
  reads _ _ := by
    have hlt : decide (n.toNat < UInt64.size) = true := decide_eq_true n.toNat_lt
    show Option.map UInt64.ofNat ((some n.toNat).filter (· < UInt64.size)) = some n
    rw [Option.filter_some, if_pos hlt, Option.map_some, UInt64.ofNat_toNat]
  representable := fitsDouble_of_lt n.toNat_lt
  notNull := nofun

/-- A value of an enumeration whose name is its own. -/
theorem readsBack_named {α : Type} [Named α] (source : Source) {a : α}
    (ha : Named.ofName? (Named.name a) = some a) :
    ReadsBack .ofNamed (readNamed source) a :=
  ⟨fun _ _ => ha, rfl, nofun⟩

end Json

end KotlinMetadata
