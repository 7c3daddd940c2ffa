import KotlinMetadata.Json.Parser
import KotlinMetadata.Json.Printer

/-! # Printed JSON reads back

    Every tree is what its printed text says, those with scaled numbers and with literals that
    name no text included.

    - scanners: a printed number, literal or word in front of a rest is taken off it whole;
    - `Json.scanValue_print`: so is a printed value, by an induction over the tree;
    - `Json.parse?_compress`: a printed text is read as the tree it was printed from;
    - `Json.nesting_compress`: the brackets of a printed text nest as deep as the tree.
-/

namespace KotlinMetadata

namespace Json

/-! ## Digits -/

/-- What follows does not go on with a number. -/
def EndsNumber (rest : List Char) : Prop :=
  ∀ c ∈ rest.head?, c.isDigit = false ∧ c ≠ '.' ∧ c ≠ 'e' ∧ c ≠ 'E'

@[simp] theorem endsNumber_nil : EndsNumber [] := by
  simp [EndsNumber]

theorem EndsNumber.comma (rest : List Char) : EndsNumber (',' :: rest) := by
  simp [EndsNumber]

theorem EndsNumber.bracket (rest : List Char) : EndsNumber (']' :: rest) := by
  simp [EndsNumber]

theorem EndsNumber.brace (rest : List Char) : EndsNumber ('}' :: rest) := by
  simp [EndsNumber]

theorem isDigit_of_mem_toDigits {n : Nat} {c : Char} (h : c ∈ Nat.toDigits 10 n) :
    c.isDigit = true :=
  Nat.isDigit_of_mem_toDigits (by decide) (by decide) h

theorem valueOfDigits_toDigits (n : Nat) : valueOfDigits (Nat.toDigits 10 n) = n := by
  have hfold : valueOfDigits (Nat.toDigits 10 n) = Nat.ofDigitChars 10 (Nat.toDigits 10 n) 0 := by
    rw [valueOfDigits, Nat.ofDigitChars_eq_foldl]
    simp only [Nat.mul_comm]
    rfl
  rw [hfold, Nat.ofDigitChars_ten_toDigits]

/-- A run of digits is taken as far as it goes. -/
theorem scanDigits_append {ds rest : List Char} (hds : ∀ d ∈ ds, d.isDigit = true)
    (hrest : ∀ c ∈ rest.head?, c.isDigit = false) :
    scanDigits (ds ++ rest) = (ds, rest) := by
  have htake : rest.takeWhile Char.isDigit = [] := by
    cases rest with
    | nil => rfl
    | cons c cs => simp [hrest c rfl]
  have hdrop : rest.dropWhile Char.isDigit = rest := by
    cases rest with
    | nil => rfl
    | cons c cs => simp [hrest c rfl]
  rw [scanDigits, List.takeWhile_append_of_pos hds, List.dropWhile_append_of_pos hds, htake, hdrop,
    List.append_nil]

theorem scanDigits_toDigits (n : Nat) {rest : List Char}
    (hrest : ∀ c ∈ rest.head?, c.isDigit = false) :
    scanDigits (Nat.toDigits 10 n ++ rest) = (Nat.toDigits 10 n, rest) :=
  scanDigits_append (fun _ => isDigit_of_mem_toDigits) hrest

theorem exists_cons_toDigits (n : Nat) :
    ∃ d ds, Nat.toDigits 10 n = d :: ds ∧ d.isDigit = true := by
  obtain ⟨d, ds, hds⟩ := List.exists_cons_of_ne_nil (Nat.toDigits_ne_nil (n := n) (b := 10))
  have hmem : d ∈ Nat.toDigits 10 n := hds ▸ List.mem_cons_self
  exact ⟨d, ds, hds, isDigit_of_mem_toDigits hmem⟩

/-- The digits of a positive number do not start with zero. -/
theorem head_toDigits_ne_zero {n : Nat} (hn : 0 < n) {c : Char} {cs : List Char}
    (h : Nat.toDigits 10 n = c :: cs) : c ≠ '0' := by
  induction n using Nat.strongRecOn generalizing cs with
  | ind n ih =>
    rw [Nat.toDigits_eq_if (by decide)] at h
    by_cases hlt : n < 10
    · rw [if_pos hlt] at h
      obtain ⟨rfl, -⟩ := List.cons.inj h
      have hdigits : ∀ k < 10, 0 < k → Nat.digitChar k ≠ '0' := by decide
      exact hdigits n hlt hn
    · rw [if_neg hlt] at h
      -- The leading digits are those of a number that is smaller and still positive.
      obtain ⟨d, ds, hlead, -⟩ := exists_cons_toDigits (n / 10)
      rw [hlead, List.cons_append] at h
      obtain ⟨rfl, -⟩ := List.cons.inj h
      exact ih (n / 10) (by omega) (by omega) hlead

/-! ## Numbers -/

theorem scanWhole_toDigits (n : Nat) {rest : List Char}
    (hrest : ∀ c ∈ rest.head?, c.isDigit = false) :
    scanWhole (Nat.toDigits 10 n ++ rest) = some (Nat.toDigits 10 n, rest) := by
  have hscan := scanDigits_toDigits n hrest
  by_cases hn : n = 0
  · subst hn
    rw [Nat.toDigits_zero]
    rfl
  · obtain ⟨d, ds, hds, -⟩ := exists_cons_toDigits n
    have hd : d ≠ '0' := head_toDigits_ne_zero (Nat.pos_of_ne_zero hn) hds
    rw [hds, List.cons_append] at hscan ⊢
    unfold scanWhole
    split
    · rename_i heq
      exact absurd (List.cons.inj heq).1 hd
    · rw [hscan]

theorem scanFraction_none {rest : List Char} (hrest : ∀ c ∈ rest.head?, c ≠ '.') :
    scanFraction rest = some (none, rest) := by
  unfold scanFraction
  split
  · exact absurd rfl (hrest _ rfl)
  · rfl

theorem scanExponent_none {rest : List Char} (hrest : ∀ c ∈ rest.head?, c ≠ 'e' ∧ c ≠ 'E') :
    scanExponent rest = some (none, rest) := by
  cases rest with
  | nil => rfl
  | cons c cs =>
    have hc := hrest c rfl
    simp [scanExponent, hc.1, hc.2]

/-- An exponent is read as it is printed: digits, with a minus sign in front if it is negative. -/
theorem scanExponent_digits (negative : Bool) (n : Nat) {rest : List Char}
    (hrest : EndsNumber rest) :
    scanExponent ('e' :: (printSign negative ++ Nat.toDigits 10 n ++ rest)) =
      some (some (if negative then -(n : Int) else n), rest) := by
  have hscan := @scanDigits_toDigits n rest fun c hc => (hrest c hc).1
  have hvalue := valueOfDigits_toDigits n
  obtain ⟨d, ds, hds, hdigit⟩ := exists_cons_toDigits n
  have hminus : d ≠ '-' := by rintro rfl; exact absurd hdigit (by decide)
  have hplus : d ≠ '+' := by rintro rfl; exact absurd hdigit (by decide)
  rw [hds] at hscan hvalue ⊢
  cases negative with
  | false => simp_all [scanExponent, printSign]
  | true => simp_all [scanExponent, printSign]

/-- Sign and digits in front of what may be an exponent. -/
theorem scanNumber_digits (negative : Bool) (m : Nat) (exponent : Option Int)
    {after rest : List Char} (hafter : ∀ c ∈ after.head?, c.isDigit = false ∧ c ≠ '.')
    (hexponent : scanExponent after = some (exponent, rest)) :
    scanNumber (printSign negative ++ Nat.toDigits 10 m ++ after) =
      some (exponent.elim (.whole negative m) (.scaled negative m), rest) := by
  have hwhole := @scanWhole_toDigits m after fun c hc => (hafter c hc).1
  have hfraction := @scanFraction_none after fun c hc => (hafter c hc).2
  obtain ⟨d, ds, hds, hdigit⟩ := exists_cons_toDigits m
  have hminus : d ≠ '-' := by rintro rfl; exact absurd hdigit (by decide)
  have hvalue := valueOfDigits_toDigits m
  rw [hds] at hwhole hvalue ⊢
  cases negative <;> cases exponent <;> simp_all [scanNumber, printSign]

/-- A printed number is read back, if what follows does not go on with it. -/
theorem scanNumber_printNumber (n : JsonNumber) {rest : List Char} (hrest : EndsNumber rest) :
    scanNumber (printNumber n ++ rest) = some (n, rest) := by
  have hafter : ∀ cs : List Char, ∀ c ∈ ('e' :: cs).head?, c.isDigit = false ∧ c ≠ '.' := by
    simp
  cases n with
  | whole negative m =>
    exact scanNumber_digits negative m none (fun c hc => ⟨(hrest c hc).1, (hrest c hc).2.1⟩)
      (scanExponent_none fun c hc => (hrest c hc).2.2)
  | scaled negative m exponent =>
    cases exponent with
    | ofNat k =>
      have hexponent := scanExponent_digits false k hrest
      have hscan := scanNumber_digits negative m _ (hafter _) hexponent
      simpa [printNumber, printSign] using hscan
    | negSucc k =>
      have hexponent := scanExponent_digits true (k + 1) hrest
      have hscan := scanNumber_digits negative m _ (hafter _) hexponent
      simpa [printNumber, printSign, Int.negSucc_eq] using hscan

/-! ## Literals -/

/-- The four hexadecimal digits of a printed control character give its code back. -/
theorem hexUnit?_control :
    ∀ n < 0x20, hexUnit? '0' '0' (hexDigit (n / 16)) (hexDigit (n % 16)) = some n := by
  decide

/-- One printed character of a literal is read back. -/
theorem scanText_escape (c : Char) (chars rest : List Char) :
    scanText chars true none (escape c ++ rest) = scanText (c :: chars) true none rest := by
  unfold escape
  split
  -- The escapes of two characters compute.  What is left is a control character or stands as is.
  all_goals try rfl
  rename_i hquote hbackslash _ _ _ _ _
  by_cases hc : c.toNat < 0x20
  · rw [if_pos hc]
    have hunit := hexUnit?_control c.toNat hc
    have hlow : isLowSurrogate c.toNat = false := by simp [isLowSurrogate]; omega
    have hhigh : isHighSurrogate c.toNat = false := by simp [isHighSurrogate]; omega
    simp only [List.cons_append, List.nil_append]
    simp [scanText, hunit, hlow, hhigh, Char.ofNat_toNat]
  · rw [if_neg hc]
    simp only [List.cons_append, List.nil_append]
    rw [scanText]
    · have hne : c ≠ '\\' := hbackslash
      simp [hc, hne]
    all_goals simp_all

theorem scanText_flatMap_escape (cs chars rest : List Char) :
    scanText chars true none (cs.flatMap escape ++ rest) =
      scanText (cs.reverse ++ chars) true none rest := by
  induction cs generalizing chars with
  | nil => rfl
  | cons c cs ih =>
    rw [List.flatMap_cons, List.append_assoc, scanText_escape, ih, List.reverse_cons,
      List.append_assoc, List.singleton_append]

theorem printText_none : printText none = ['"', '\\', 'u', 'd', '8', '0', '0', '"'] := by
  decide

theorem printText_some (s : String) :
    printText (some s) = '"' :: (s.toList.flatMap escape ++ ['"']) := rfl

/-- A printed literal is read back, one that names no text included. -/
theorem scanLiteral_printText (s : Option String) :
    ∃ body, printText s = '"' :: body ∧
      ∀ rest, scanLiteral (body ++ rest) = some (s, rest) := by
  cases s with
  | none => exact ⟨_, printText_none, fun rest => rfl⟩
  | some s =>
    refine ⟨_, printText_some s, fun rest => ?_⟩
    rw [scanLiteral, List.append_assoc, scanText_flatMap_escape, List.append_nil,
      List.singleton_append, scanText]
    simp

/-! ## Values -/

@[simp] theorem skipSpace_cons {c : Char} (hc : isSpace c = false) (cs : List Char) :
    skipSpace (c :: cs) = c :: cs := by
  rw [skipSpace, List.dropWhile_cons_of_neg (by simp [hc])]

/-- The characters of a printed number. -/
def isNumberChar (c : Char) : Bool := c.isDigit || c == '-' || c == 'e'

theorem isNumberChar_of_mem {n : JsonNumber} {c : Char} (h : c ∈ printNumber n) :
    isNumberChar c = true := by
  have hdigit : ∀ m : Nat, c ∈ Nat.toDigits 10 m → isNumberChar c = true := by
    intro m hc
    simp [isNumberChar, isDigit_of_mem_toDigits hc]
  have hsign : ∀ negative : Bool, c ∈ printSign negative → isNumberChar c = true := by
    intro negative hc
    cases negative with
    | false => exact absurd hc List.not_mem_nil
    | true =>
      obtain rfl := List.mem_singleton.mp hc
      rfl
  cases n with
  | whole negative m => exact (List.mem_append.mp h).elim (hsign negative) (hdigit m)
  | scaled negative m exponent =>
    cases exponent with
    | ofNat k =>
      simp only [printNumber, List.mem_append, List.mem_cons] at h
      rcases h with (h | h) | rfl | h
      · exact hsign negative h
      · exact hdigit m h
      · rfl
      · exact hdigit k h
    | negSucc k =>
      simp only [printNumber, List.mem_append, List.mem_cons] at h
      rcases h with (h | h) | rfl | rfl | h
      · exact hsign negative h
      · exact hdigit m h
      · rfl
      · rfl
      · exact hdigit (k + 1) h

theorem ne_of_isNumberChar {c d : Char} (hc : isNumberChar c = true)
    (hd : isNumberChar d = false) : c ≠ d := by
  rintro rfl
  exact absurd hc (by simp [hd])

theorem printNumber_ne_nil (n : JsonNumber) : printNumber n ≠ [] := by
  cases n with
  | whole negative m => simp [printNumber, Nat.toDigits_ne_nil]
  | scaled negative m exponent => cases exponent <;> simp [printNumber]

/-- A printed value starts with a character that is no space and closes no bracket. -/
theorem exists_cons_print (j : Json) :
    ∃ c cs, j.print = c :: cs ∧ isSpace c = false ∧ c ≠ ']' := by
  cases j with
  | null => exact ⟨_, _, rfl, rfl, by decide⟩
  | bool b => cases b <;> exact ⟨_, _, rfl, rfl, by decide⟩
  | number n =>
    obtain ⟨c, cs, hcs⟩ := List.exists_cons_of_ne_nil (printNumber_ne_nil n)
    have hc : isNumberChar c = true := isNumberChar_of_mem (n := n) (by simp [hcs])
    refine ⟨c, cs, hcs, ?_, ne_of_isNumberChar hc rfl⟩
    simp only [isSpace, Bool.or_eq_false_iff, beq_eq_false_iff_ne]
    exact ⟨⟨⟨ne_of_isNumberChar hc rfl, ne_of_isNumberChar hc rfl⟩, ne_of_isNumberChar hc rfl⟩,
      ne_of_isNumberChar hc rfl⟩
  | text s => cases s <;> exact ⟨_, _, rfl, rfl, by decide⟩
  | array items => cases items <;> exact ⟨_, _, rfl, rfl, by decide⟩
  | object entries =>
    cases entries with
    | nil => exact ⟨_, _, rfl, rfl, by decide⟩
    | cons e es => exact ⟨_, _, rfl, rfl, by decide⟩

theorem scanValue_number (n : JsonNumber) (bound : Nat) {rest : List Char}
    (hrest : EndsNumber rest) :
    scanValue (bound + 1) (printNumber n ++ rest) = some (.number n, rest) := by
  have hscan := scanNumber_printNumber n hrest
  obtain ⟨c, cs, hcs, hspace, -⟩ := exists_cons_print (.number n)
  rw [print] at hcs
  have hc : isNumberChar c = true := isNumberChar_of_mem (n := n) (by simp [hcs])
  rw [hcs, List.cons_append] at hscan ⊢
  rw [scanValue, skipSpace_cons hspace]
  -- No other value starts with such a character.
  split
  all_goals try exact absurd (List.cons.inj ‹_›).1 (ne_of_isNumberChar hc rfl)
  rw [hscan]
  rfl

/-! The bound: a value takes more than twice the characters of its text, as every item and entry
    lowers the bound once for itself and once for its value. -/

mutual

/-- A printed value is taken off what follows it. -/
theorem scanValue_print (j : Json) (bound : Nat) (rest : List Char)
    (hbound : 2 * j.print.length < bound) (hrest : EndsNumber rest) :
    scanValue bound (j.print ++ rest) = some (j, rest) := by
  obtain ⟨bound, rfl⟩ : ∃ b, bound = b + 1 := ⟨bound - 1, by omega⟩
  match j with
  | .null => rfl
  | .bool true => rfl
  | .bool false => rfl
  | .number n => exact scanValue_number n bound hrest
  | .text s =>
    obtain ⟨body, hbody, hscan⟩ := scanLiteral_printText s
    rw [print, hbody, List.cons_append, scanValue, skipSpace_cons rfl]
    simp [hscan]
  | .array [] => rfl
  | .array (j :: js) =>
    have hitems := scanItems_print (j :: js) bound rest (by simp) (by
      simp [print, printItems] at hbound ⊢
      omega)
    -- The scanner looks at the first character to tell whether there are items at all.
    obtain ⟨c, cs, hcs, hspace, hclose⟩ := exists_cons_print j
    have hprint : (print (.array (j :: js))) ++ rest =
        '[' :: ((printItems (j :: js)).tail ++ ']' :: rest) := by
      simp [print, printItems]
    have htail : (printItems (j :: js)).tail = c :: (cs ++ printItems js) := by
      simp [printItems, hcs]
    rw [hprint, scanValue, skipSpace_cons rfl]
    rw [htail, List.cons_append] at hitems ⊢
    generalize cs ++ printItems js ++ ']' :: rest = after at hitems ⊢
    simp [skipSpace_cons hspace, hclose, hitems]
  | .object [] => rfl
  | .object ((key, j) :: es) =>
    have hentries := scanEntries_print ((key, j) :: es) bound rest (by simp) (by
      simp [print, printEntries] at hbound ⊢
      omega)
    obtain ⟨body, hbody, -⟩ := scanLiteral_printText key
    have hprint : (print (.object ((key, j) :: es))) ++ rest =
        '{' :: ((printEntries ((key, j) :: es)).tail ++ '}' :: rest) := by
      simp [print, printEntries]
    have htail : (printEntries ((key, j) :: es)).tail =
        '"' :: (body ++ ':' :: (j.print ++ printEntries es)) := by
      simp [printEntries, hbody]
    rw [hprint, scanValue, skipSpace_cons rfl]
    rw [htail, List.cons_append] at hentries ⊢
    generalize body ++ ':' :: (j.print ++ printEntries es) ++ '}' :: rest = after at hentries ⊢
    simp [skipSpace_cons (c := '"') rfl, hentries]

/-- Printed items are read to the bracket that closes them. -/
theorem scanItems_print (js : List Json) (bound : Nat) (rest : List Char) (hne : js ≠ [])
    (hbound : 2 * (printItems js).length ≤ bound) :
    scanItems bound ((printItems js).tail ++ ']' :: rest) = some (js, rest) := by
  match js with
  | [] => exact absurd rfl hne
  | j :: js =>
    have hlength : (printItems (j :: js)).length = 1 + j.print.length + (printItems js).length := by
      simp [printItems]
      omega
    obtain ⟨bound, rfl⟩ : ∃ b, bound = b + 1 := ⟨bound - 1, by omega⟩
    have hvalue := scanValue_print j bound
    match js with
    | [] =>
      have hitem := hvalue (']' :: rest) (by omega) (.bracket rest)
      simp [printItems, scanItems, hitem, skipSpace_cons (c := ']') rfl]
    | k :: js =>
      have hitem := hvalue (printItems (k :: js) ++ ']' :: rest) (by omega) (.comma _)
      have hitems := scanItems_print (k :: js) bound rest (by simp) (by omega)
      simp only [printItems, List.cons_append, List.append_assoc, List.tail_cons] at hitem hitems
      simp [printItems, scanItems, hitem, hitems, skipSpace_cons (c := ',') rfl]

/-- Printed entries are read to the brace that closes them. -/
theorem scanEntries_print (es : List (Option String × Json)) (bound : Nat) (rest : List Char)
    (hne : es ≠ []) (hbound : 2 * (printEntries es).length ≤ bound) :
    scanEntries bound ((printEntries es).tail ++ '}' :: rest) = some (es, rest) := by
  match es with
  | [] => exact absurd rfl hne
  | (key, j) :: es =>
    have hlength : (printEntries ((key, j) :: es)).length =
        2 + (printText key).length + j.print.length + (printEntries es).length := by
      simp [printEntries]
      omega
    obtain ⟨bound, rfl⟩ : ∃ b, bound = b + 1 := ⟨bound - 1, by omega⟩
    obtain ⟨body, hbody, hkey⟩ := scanLiteral_printText key
    have hvalue := scanValue_print j bound
    match es with
    | [] =>
      have hentry := hvalue ('}' :: rest) (by omega) (.brace rest)
      simp [printEntries, scanEntries, hbody, hkey, hentry, skipSpace_cons (c := '"') rfl,
        skipSpace_cons (c := ':') rfl, skipSpace_cons (c := '}') rfl]
    | e :: es =>
      have hentry := hvalue (printEntries (e :: es) ++ '}' :: rest) (by omega) (.comma _)
      have hentries := scanEntries_print (e :: es) bound rest (by simp) (by omega)
      obtain ⟨next, value⟩ := e
      simp only [printEntries, List.cons_append, List.append_assoc, List.tail_cons]
        at hentry hentries
      simp [printEntries, scanEntries, hbody, hkey, hentry, hentries,
        skipSpace_cons (c := '"') rfl, skipSpace_cons (c := ':') rfl,
        skipSpace_cons (c := ',') rfl]

end

/-- A printed text is read as the tree it was printed from. -/
theorem parse?_compress (j : Json) : parse? j.compress = some j := by
  have hscan := scanValue_print j (2 * j.print.length + 2) [] (by omega) endsNumber_nil
  rw [List.append_nil] at hscan
  simp [parse?, compress, hscan, skipSpace]

/-! ## Nesting -/

/-- What is known of the brackets of a text read so far. -/
structure Brackets where
  /-- How many are open. -/
  opened : Nat := 0
  /-- How many were open at most. -/
  deepest : Nat := 0
  /-- Whether the text stands in a literal, and there right after a backslash. -/
  literal : Option Bool := none

/-- One more character of the text.  Brackets in a literal do not count. -/
def Brackets.step (b : Brackets) (c : Char) : Brackets :=
  match b.literal with
  | some true => { b with literal := some false }
  | some false =>
    if c = '\\' then { b with literal := some true }
    else if c = '"' then { b with literal := none }
    else b
  | none =>
    if c = '"' then { b with literal := some false }
    else if c = '[' ∨ c = '{' then
      { b with opened := b.opened + 1, deepest := max b.deepest (b.opened + 1) }
    else if c = ']' ∨ c = '}' then { b with opened := b.opened - 1 }
    else b

/-- How many arrays and objects are open at most while a text is read. -/
def nesting (s : String) : Nat :=
  (s.toList.foldl Brackets.step {}).deepest

section Nesting
variable (k d : Nat)

theorem Brackets.step_quote : Brackets.step ⟨k, d, none⟩ '"' = ⟨k, d, some false⟩ := by
  simp [Brackets.step]

theorem Brackets.step_endQuote : Brackets.step ⟨k, d, some false⟩ '"' = ⟨k, d, none⟩ := by
  simp [Brackets.step]

theorem Brackets.step_backslash :
    Brackets.step ⟨k, d, some false⟩ '\\' = ⟨k, d, some true⟩ := by
  simp [Brackets.step]

theorem Brackets.step_escaped (c : Char) :
    Brackets.step ⟨k, d, some true⟩ c = ⟨k, d, some false⟩ := rfl

theorem Brackets.step_literal {c : Char} (hbackslash : c ≠ '\\') (hquote : c ≠ '"') :
    Brackets.step ⟨k, d, some false⟩ c = ⟨k, d, some false⟩ := by
  simp [Brackets.step, hbackslash, hquote]

theorem Brackets.step_open {c : Char} (hc : c = '[' ∨ c = '{') :
    Brackets.step ⟨k, d, none⟩ c = ⟨k + 1, max d (k + 1), none⟩ := by
  rcases hc with rfl | rfl <;> simp [Brackets.step]

theorem Brackets.step_close {c : Char} (hc : c = ']' ∨ c = '}') :
    Brackets.step ⟨k + 1, d, none⟩ c = ⟨k, d, none⟩ := by
  rcases hc with rfl | rfl <;> simp [Brackets.step]

theorem Brackets.step_separator {c : Char} (hc : c = ',' ∨ c = ':') :
    Brackets.step ⟨k, d, none⟩ c = ⟨k, d, none⟩ := by
  rcases hc with rfl | rfl <;> simp [Brackets.step]

theorem foldl_step_printNumber (n : JsonNumber) :
    (printNumber n).foldl Brackets.step ⟨k, d, none⟩ = ⟨k, d, none⟩ := by
  have hstep : ∀ c ∈ printNumber n, Brackets.step ⟨k, d, none⟩ c = ⟨k, d, none⟩ := by
    intro c hmem
    have hc := isNumberChar_of_mem hmem
    have hquote : c ≠ '"' := ne_of_isNumberChar hc rfl
    have hopen : ¬(c = '[' ∨ c = '{') :=
      not_or.mpr ⟨ne_of_isNumberChar hc rfl, ne_of_isNumberChar hc rfl⟩
    have hclose : ¬(c = ']' ∨ c = '}') :=
      not_or.mpr ⟨ne_of_isNumberChar hc rfl, ne_of_isNumberChar hc rfl⟩
    simp only [Brackets.step, if_neg hquote, if_neg hopen, if_neg hclose]
  generalize printNumber n = cs at hstep
  induction cs with
  | nil => rfl
  | cons c cs ih =>
    rw [List.foldl_cons, hstep c List.mem_cons_self]
    exact ih fun x hx => hstep x (List.mem_cons_of_mem c hx)

/-- The hexadecimal digits of a printed control character are no quote and no backslash. -/
theorem hexDigit_ne : ∀ n < 16, hexDigit n ≠ '\\' ∧ hexDigit n ≠ '"' := by
  decide

/-- A printed character of a literal does not end the literal. -/
theorem foldl_step_escape (c : Char) :
    (escape c).foldl Brackets.step ⟨k, d, some false⟩ = ⟨k, d, some false⟩ := by
  unfold escape
  split
  all_goals try rfl
  rename_i hquote hbackslash _ _ _ _ _
  by_cases hc : c.toNat < 0x20
  · rw [if_pos hc]
    have hhigh := hexDigit_ne (c.toNat / 16) (by omega)
    have hlow := hexDigit_ne (c.toNat % 16) (by omega)
    simp only [List.foldl_cons, List.foldl_nil, Brackets.step_backslash, Brackets.step_escaped,
      Brackets.step_literal k d (c := '0') (by decide) (by decide),
      Brackets.step_literal k d hhigh.1 hhigh.2, Brackets.step_literal k d hlow.1 hlow.2]
  · rw [if_neg hc, List.foldl_cons, List.foldl_nil, Brackets.step_literal k d hbackslash hquote]

theorem foldl_step_printText (s : Option String) :
    (printText s).foldl Brackets.step ⟨k, d, none⟩ = ⟨k, d, none⟩ := by
  cases s with
  | none =>
    have hplain : ∀ c ∈ ['d', '8', '0'], Brackets.step ⟨k, d, some false⟩ c = ⟨k, d, some false⟩ :=
      fun c hc => Brackets.step_literal k d (by rintro rfl; simp at hc) (by rintro rfl; simp at hc)
    simp only [printText_none, List.foldl_cons, List.foldl_nil, Brackets.step_quote,
      Brackets.step_backslash, Brackets.step_escaped, hplain _ List.mem_cons_self,
      hplain '8' (by simp), hplain '0' (by simp), Brackets.step_endQuote]
  | some s =>
    have hbody : (s.toList.flatMap escape).foldl Brackets.step ⟨k, d, some false⟩ =
        ⟨k, d, some false⟩ := by
      induction s.toList with
      | nil => rfl
      | cons c cs ih => rw [List.flatMap_cons, List.foldl_append, foldl_step_escape, ih]
    rw [printText_some, List.foldl_cons, Brackets.step_quote, List.foldl_append, hbody,
      List.foldl_cons, Brackets.step_endQuote, List.foldl_nil]

end Nesting

mutual

/-- A printed value opens as many brackets as it is deep, and closes them. -/
theorem foldl_step_print (j : Json) (k d : Nat) (hk : k ≤ d) :
    j.print.foldl Brackets.step ⟨k, d, none⟩ = ⟨k, max d (k + j.depth), none⟩ := by
  have hleaf : ∀ leaf : Json, leaf.depth = 0 → max d (k + leaf.depth) = d := by
    intro leaf h
    omega
  have hempty : max d (k + 1) = max d (k + (0 + 1)) := by omega
  match j with
  | .null =>
    rw [hleaf _ (by simp [depth])]
    simp [print, Brackets.step]
  | .bool true =>
    rw [hleaf _ (by simp [depth])]
    simp [print, Brackets.step]
  | .bool false =>
    rw [hleaf _ (by simp [depth])]
    simp [print, Brackets.step]
  | .number n => rw [hleaf _ (by simp [depth]), print, foldl_step_printNumber]
  | .text s => rw [hleaf _ (by simp [depth]), print, foldl_step_printText]
  | .array [] =>
    rw [print, List.foldl_cons, Brackets.step_open k d (.inl rfl), List.foldl_cons,
      Brackets.step_close _ _ (.inl rfl), List.foldl_nil, hempty, depth, depthOfItems]
  | .array (j :: js) =>
    -- Everything inside is read with one more bracket open.
    have hitem := foldl_step_print j (k + 1) (max d (k + 1)) (by omega)
    have hitems := foldl_step_printItems js (k + 1) (max (max d (k + 1)) (k + 1 + j.depth))
      (by omega)
    have hdepth : max (max (max d (k + 1)) (k + 1 + j.depth)) (k + 1 + depthOfItems js) =
        max d (k + (max j.depth (depthOfItems js) + 1)) := by omega
    simp only [print, depth, depthOfItems, List.cons_append, List.append_assoc, List.foldl_cons,
      List.foldl_append, Brackets.step_open k d (.inl rfl), hitem, hitems, hdepth,
      Brackets.step_close _ _ (.inl rfl), List.foldl_nil]
  | .object [] =>
    rw [print, List.foldl_cons, Brackets.step_open k d (.inr rfl), List.foldl_cons,
      Brackets.step_close _ _ (.inr rfl), List.foldl_nil, hempty, depth, depthOfEntries]
  | .object ((key, j) :: es) =>
    have hvalue := foldl_step_print j (k + 1) (max d (k + 1)) (by omega)
    have hentries := foldl_step_printEntries es (k + 1) (max (max d (k + 1)) (k + 1 + j.depth))
      (by omega)
    have hdepth : max (max (max d (k + 1)) (k + 1 + j.depth)) (k + 1 + depthOfEntries es) =
        max d (k + (max j.depth (depthOfEntries es) + 1)) := by omega
    simp only [print, depth, depthOfEntries, List.cons_append, List.append_assoc, List.foldl_cons,
      List.foldl_append, Brackets.step_open k d (.inr rfl), foldl_step_printText,
      Brackets.step_separator _ _ (.inr rfl), hvalue, hentries, hdepth,
      Brackets.step_close _ _ (.inr rfl), List.foldl_nil]

theorem foldl_step_printItems (js : List Json) (k d : Nat) (hk : k ≤ d) :
    (printItems js).foldl Brackets.step ⟨k, d, none⟩ =
      ⟨k, max d (k + depthOfItems js), none⟩ := by
  match js with
  | [] =>
    have hflat : max d (k + 0) = d := by omega
    rw [printItems, depthOfItems, hflat, List.foldl_nil]
  | j :: js =>
    have hitem := foldl_step_print j k d hk
    have hitems := foldl_step_printItems js k (max d (k + j.depth)) (by omega)
    have hdepth : max (max d (k + j.depth)) (k + depthOfItems js) =
        max d (k + max j.depth (depthOfItems js)) := by omega
    rw [printItems, depthOfItems, List.foldl_append, List.foldl_cons,
      Brackets.step_separator k d (.inl rfl), hitem, hitems, hdepth]

theorem foldl_step_printEntries (es : List (Option String × Json)) (k d : Nat) (hk : k ≤ d) :
    (printEntries es).foldl Brackets.step ⟨k, d, none⟩ =
      ⟨k, max d (k + depthOfEntries es), none⟩ := by
  match es with
  | [] =>
    have hflat : max d (k + 0) = d := by omega
    rw [printEntries, depthOfEntries, hflat, List.foldl_nil]
  | (key, j) :: es =>
    have hvalue := foldl_step_print j k d hk
    have hentries := foldl_step_printEntries es k (max d (k + j.depth)) (by omega)
    have hdepth : max (max d (k + j.depth)) (k + depthOfEntries es) =
        max d (k + max j.depth (depthOfEntries es)) := by omega
    simp only [printEntries, depthOfEntries, List.cons_append, List.append_assoc, List.foldl_cons,
      List.foldl_append, Brackets.step_separator _ _ (.inl rfl), foldl_step_printText,
      Brackets.step_separator _ _ (.inr rfl), hvalue, hentries, hdepth]

end

/-- The brackets of a printed text nest as deep as the tree. -/
theorem nesting_compress (j : Json) : nesting j.compress = j.depth := by
  have hfold := foldl_step_print j 0 0 (Nat.le_refl 0)
  simp [nesting, compress, hfold]

end Json

end KotlinMetadata
