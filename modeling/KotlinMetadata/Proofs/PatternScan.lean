import Mathlib.Data.List.Infix
import KotlinMetadata.Pattern.Parser

/-! # Scanning in front of a closing parenthesis

    A scanner that stops within a text reads the same when a closing parenthesis and the sign for
    the end stand behind the text, and the other way round.  Where it runs on to the end of the
    text, the two may differ: a comment takes in what stands behind it.

    - `closing`: the two signs;
    - `Shortens`: a scanner leaves a shorter end of its text;
    - `Local`, `Inner`: it reads the same with the two signs behind the text, whatever it leaves or
      as long as it leaves something of the text itself;
    - `skip_closing`, `gather_closing`, `breakAt_closing`: the scanners that pass over signs;
    - `escape_shortens`, `escape_closing`: escapes, with the one that reads differently.
-/

namespace KotlinMetadata.Pattern

open Text (isWhiteSpace)

/-- What a group with anchors around it ends with. -/
def closing : List Char := [')', '$']

@[simp] theorem nil_ne_append_closing (rest : List Char) : [] ≠ rest ++ closing :=
  fun h => absurd (congrArg List.length h) (by simp [closing])

@[simp] theorem singleton_ne_append_closing (c : Char) (rest : List Char) : [c] ≠ rest ++ closing :=
  fun h => absurd (congrArg List.length h) (by simp [closing])

@[simp] theorem closing_ne_nil : closing ≠ [] := by decide

@[simp] theorem cons_append_closing_inj (c : Char) (cs rest : List Char) :
    c :: (cs ++ closing) = rest ++ closing ↔ c :: cs = rest := by
  rw [← List.cons_append, List.append_cancel_right_eq]

@[simp] theorem append_closing_eq_cons (cs : List Char) (c : Char) (rest : List Char) :
    cs ++ closing = c :: (rest ++ closing) ↔ cs = c :: rest := by
  rw [← List.cons_append, List.append_cancel_right_eq]

/-! ## Scanners -/

/-- A scanner leaves a shorter end of its text. -/
def Shortens {α : Type} (f : List Char → Except PatternError (α × List Char)) : Prop :=
  ∀ ⦃cs a rest⦄, f cs = .ok (a, rest) → rest <:+ cs ∧ rest.length < cs.length

/-- A scanner reads the same with the two signs behind the text. -/
def Local {α : Type} (f : List Char → Except PatternError (α × List Char)) : Prop :=
  ∀ {cs a rest}, f (cs ++ closing) = .ok (a, rest ++ closing) ↔ f cs = .ok (a, rest)

/-- It does so as long as it leaves something of the text. -/
def Inner {α : Type} (f : List Char → Except PatternError (α × List Char)) : Prop :=
  ∀ {cs a c rest}, f (cs ++ closing) = .ok (a, c :: rest ++ closing) ↔ f cs = .ok (a, c :: rest)

/-! ## Results -/

theorem bind_eq_ok_iff {α β : Type} {x : Except PatternError α} {f : α → Except PatternError β}
    {b : β} : x >>= f = .ok b ↔ ∃ a, x = .ok a ∧ f a = .ok b := by
  cases x with
  | error e => simp [bind, Except.bind]
  | ok a => simp [bind, Except.bind]

theorem map_eq_ok_iff {α β : Type} {x : Except PatternError α} {f : α → β} {b : β} :
    x.map f = .ok b ↔ ∃ a, x = .ok a ∧ f a = b := by
  cases x with
  | error e => simp [Except.map]
  | ok a => simp [Except.map]

theorem ok_read_inj {α : Type} {a b : α} {rest left : List Char}
    (h : (Except.ok (a, rest) : Except PatternError (α × List Char)) = .ok (b, left)) :
    a = b ∧ rest = left :=
  Prod.mk.inj (Except.ok.inj h)

/-- What is made of the value that is read makes no difference to what is left. -/
theorem map_read_eq_ok_iff {α β : Type} {x : Except PatternError (α × List Char)} {g : α → β}
    {b : β} {rest : List Char} :
    x.map (fun (a, left) => (g a, left)) = .ok (b, rest) ↔ ∃ a, x = .ok (a, rest) ∧ g a = b := by
  rw [map_eq_ok_iff]
  constructor
  · intro hall
    obtain ⟨⟨a, left⟩, hx, heq⟩ := hall
    obtain ⟨hb, rfl⟩ := Prod.mk.inj heq
    exact ⟨a, hx, hb⟩
  · intro hall
    obtain ⟨a, hx, rfl⟩ := hall
    exact ⟨(a, rest), hx, rfl⟩

theorem Local.map {α β : Type} {f : List Char → Except PatternError (α × List Char)}
    (hf : Local f) (g : α → β) : Local fun cs => (f cs).map fun (a, rest) => (g a, rest) := by
  intro cs b rest
  rw [map_read_eq_ok_iff, map_read_eq_ok_iff]
  exact exists_congr fun a => and_congr_left' hf

/-! ## Ends of a text -/

theorem length_append_closing (cs : List Char) : (cs ++ closing).length = cs.length + 2 :=
  List.length_append

theorem suffix_of_cons {c : Char} {cs ds : List Char} (h : c :: cs <:+ ds) : cs <:+ ds :=
  (List.suffix_cons c cs).trans h

/-- An end that is as long as the two signs ends with them. -/
theorem exists_of_suffix_append {cs left : List Char} (h : left <:+ cs ++ closing)
    (hlength : 2 ≤ left.length) : ∃ inside, left = inside ++ closing ∧ inside <:+ cs := by
  have hclosing : closing <:+ cs ++ closing := List.suffix_append _ _
  obtain ⟨inside, rfl⟩ := List.suffix_of_suffix_length_le hclosing h hlength
  obtain ⟨front, heq⟩ := h
  rw [← List.append_assoc] at heq
  exact ⟨inside, rfl, front, List.append_cancel_right heq⟩

/-- What is left in front of the two signs stands in the text. -/
theorem inside_of_suffix {cs left rest : List Char} (hleft : left <:+ cs ++ closing)
    (hrest : rest ++ closing <:+ left) : ∃ inside, left = inside ++ closing ∧ rest <:+ inside := by
  have hlength := hrest.length_le
  rw [length_append_closing] at hlength
  obtain ⟨inside, rfl, -⟩ := exists_of_suffix_append hleft (by omega)
  obtain ⟨front, heq⟩ := hrest
  rw [← List.append_assoc] at heq
  exact ⟨inside, rfl, front, List.append_cancel_right heq⟩

/-- What a scanner reads before the two signs stands in the text. -/
theorem Shortens.inside {α : Type} {f : List Char → Except PatternError (α × List Char)}
    (hf : Shortens f) {cs left rest : List Char} {a : α} (h : f left = .ok (a, rest ++ closing))
    (hleft : left <:+ cs ++ closing) : ∃ inside, left = inside ++ closing ∧ inside ≠ [] := by
  obtain ⟨hsuffix, hlength⟩ := hf h
  obtain ⟨inside, rfl, -⟩ := inside_of_suffix hleft hsuffix
  rw [length_append_closing, length_append_closing] at hlength
  refine ⟨inside, rfl, List.ne_nil_of_length_pos ?_⟩
  omega

theorem dropBlank_suffix (inComment : Bool) (cs : List Char) : dropBlank inComment cs <:+ cs := by
  induction cs generalizing inComment with
  | nil => exact List.suffix_refl _
  | cons c cs ih =>
    have hmore (b : Bool) : dropBlank b cs <:+ c :: cs := (ih b).trans (List.suffix_cons c cs)
    rw [dropBlank]
    split
    · exact hmore _
    · split
      · exact hmore _
      · split
        · exact hmore _
        · exact List.suffix_refl _

theorem skip_suffix (verbose : Bool) (cs : List Char) : skip verbose cs <:+ cs := by
  cases verbose
  · exact List.suffix_refl _
  · exact dropBlank_suffix false cs

theorem gatherFrom_suffix (verbose : Bool) (p : Char → Bool) (inComment : Bool)
    (cs : List Char) : (gatherFrom verbose p inComment cs).2 <:+ cs := by
  induction cs generalizing inComment with
  | nil => exact List.suffix_refl _
  | cons c cs ih =>
    have hmore (b : Bool) : (gatherFrom verbose p b cs).2 <:+ c :: cs :=
      (ih b).trans (List.suffix_cons c cs)
    rw [gatherFrom]
    split
    · exact hmore _
    · split
      · exact hmore _
      · split
        · exact hmore _
        · split
          · exact hmore _
          · exact List.suffix_refl _

theorem gather_suffix (verbose : Bool) (p : Char → Bool) (cs : List Char) :
    (gather verbose p cs).2 <:+ cs :=
  gatherFrom_suffix verbose p false cs

theorem gatherExactly_suffix {verbose : Bool} {p : Char → Bool} {n : Nat}
    {cs taken rest : List Char} (h : gatherExactly verbose p n cs = some (taken, rest)) :
    rest <:+ cs := by
  induction n generalizing cs taken with
  | zero =>
    obtain ⟨-, rfl⟩ := Prod.mk.inj (Option.some.inj h)
    exact List.suffix_refl _
  | succ n ih =>
    rw [gatherExactly] at h
    split at h
    · next c left hskip =>
      split at h
      · obtain ⟨⟨more, left'⟩, hmore, heq⟩ := Option.map_eq_some_iff.mp h
        obtain ⟨-, rfl⟩ := Prod.mk.inj heq
        have hleft : left <:+ cs :=
          (List.suffix_cons c left).trans (hskip ▸ skip_suffix verbose cs)
        exact (ih hmore).trans hleft
      · cases h
    · cases h

theorem breakAt_singleton {sign : Char} {cs front back : List Char}
    (h : breakAt [sign] cs = some (front, back)) : cs = front ++ sign :: back := by
  induction cs generalizing front with
  | nil => cases h
  | cons c cs ih =>
    rw [breakAt] at h
    split at h
    · next hsign =>
      obtain ⟨rfl, rfl⟩ := Prod.mk.inj (Option.some.inj h)
      have hc : sign = c := by simpa [List.isPrefixOf] using hsign
      rw [hc]
      rfl
    · obtain ⟨⟨front', back'⟩, hrest, heq⟩ := Option.map_eq_some_iff.mp h
      obtain ⟨rfl, rfl⟩ := Prod.mk.inj heq
      rw [ih hrest]
      rfl

/-! ## What stands behind the text -/

theorem skip_nil (verbose : Bool) : skip verbose [] = [] := by
  cases verbose <;> rfl

theorem skip_twoSigns (verbose : Bool) : skip verbose [')', '$'] = [')', '$'] := by
  cases verbose <;> decide

theorem dropBlank_append (inComment : Bool) (cs : List Char) :
    (∃ c rest, dropBlank inComment cs = c :: rest ∧
      ∀ back, dropBlank inComment (cs ++ back) = c :: rest ++ back) ∨
    (dropBlank inComment cs = [] ∧
      ∃ inComment', ∀ back, dropBlank inComment (cs ++ back) = dropBlank inComment' back) := by
  -- Whether a comment is open goes through the induction: it decides what the rest is read as.
  induction cs generalizing inComment with
  | nil => exact .inr ⟨rfl, inComment, fun _ => rfl⟩
  | cons c cs ih =>
    by_cases hcomment : inComment = true
    · simpa [dropBlank, hcomment] using ih (c != '\n')
    · by_cases hhash : c = '#'
      · simpa [dropBlank, hcomment, hhash] using ih true
      · by_cases hspace : isWhiteSpace c = true
        · simpa [dropBlank, hcomment, hhash, hspace] using ih false
        · exact .inl ⟨c, cs, by simp [dropBlank, hcomment, hhash, hspace],
            fun back => by simp [dropBlank, hcomment, hhash, hspace]⟩

/-- The next sign is found in the text, or there is none; then the parenthesis is the next sign or
    it stands in a comment. -/
theorem skip_closing (verbose : Bool) (cs : List Char) :
    (∃ c rest, skip verbose cs = c :: rest ∧
      skip verbose (cs ++ closing) = c :: rest ++ closing) ∨
    (skip verbose cs = [] ∧
      (skip verbose (cs ++ closing) = [')', '$'] ∨ skip verbose (cs ++ closing) = [])) := by
  cases verbose with
  | false =>
    cases cs with
    | nil => exact .inr ⟨rfl, .inl rfl⟩
    | cons c cs => exact .inl ⟨c, cs, rfl, rfl⟩
  | true =>
    rcases dropBlank_append false cs with ⟨c, rest, h, happend⟩ | ⟨h, inComment, happend⟩
    · exact .inl ⟨c, rest, h, happend closing⟩
    · refine .inr ⟨h, ?_⟩
      have hskip : skip true (cs ++ closing) = dropBlank inComment closing := happend closing
      rw [hskip]
      -- Outside a comment the parenthesis is the next sign; a comment goes on through both signs.
      cases inComment
      · exact .inl (by decide)
      · exact .inr (by decide)

theorem gatherFrom_closing (verbose : Bool) (p : Char → Bool) (inComment : Bool)
    (cs : List Char) :
    (∃ taken c rest, gatherFrom verbose p inComment cs = (taken, c :: rest) ∧
      gatherFrom verbose p inComment (cs ++ closing) = (taken, c :: rest ++ closing)) ∨
    ((gatherFrom verbose p inComment cs).2 = [] ∧
      (gatherFrom verbose p inComment (cs ++ closing)).2 <:+ closing) := by
  -- Once the text is used up, how far the two signs are gathered depends on `p`.
  induction cs generalizing inComment with
  | nil => exact .inr ⟨rfl, gatherFrom_suffix verbose p inComment closing⟩
  | cons c cs ih =>
    by_cases hcomment : inComment = true
    · simpa [gatherFrom, hcomment] using ih (c != '\n')
    · by_cases hhash : (verbose && c == '#') = true
      · simpa only [List.cons_append, gatherFrom, hcomment, hhash, if_true, if_false,
          Bool.false_eq_true] using ih true
      · by_cases hspace : (verbose && isWhiteSpace c) = true
        · simpa only [List.cons_append, gatherFrom, hcomment, hhash, hspace, if_true, if_false,
            Bool.false_eq_true] using ih false
        · by_cases hp : p c = true
          · simp only [List.cons_append, gatherFrom, hcomment, hhash, hspace, hp, if_true,
              if_false, Bool.false_eq_true]
            rcases ih false with ⟨taken, d, rest, h, happend⟩ | ⟨h, happend⟩
            · exact .inl ⟨c :: taken, d, rest, by rw [h], by rw [happend]; rfl⟩
            · exact .inr ⟨h, happend⟩
          · simp only [List.cons_append, gatherFrom, hcomment, hhash, hspace, hp, if_false,
              Bool.false_eq_true]
            exact .inl ⟨[], c, cs, rfl, rfl⟩

/-- The sign behind those that are gathered is found in the text, or all of the text is passed
    over. -/
theorem gather_closing (verbose : Bool) (p : Char → Bool) (cs : List Char) :
    (∃ taken c rest, gather verbose p cs = (taken, c :: rest) ∧
      gather verbose p (cs ++ closing) = (taken, c :: rest ++ closing)) ∨
    ∃ taken taken' left, gather verbose p cs = (taken, []) ∧
      gather verbose p (cs ++ closing) = (taken', left) ∧
      (left = [] ∨ left = ['$'] ∨ left = [')', '$']) := by
  rcases gatherFrom_closing verbose p false cs with hinside | ⟨h, hback⟩
  · exact .inl hinside
  · refine .inr ⟨_, _, _, Prod.ext rfl h, rfl, ?_⟩
    -- The two signs have three ends.
    have hends : (gather verbose p (cs ++ closing)).2 ∈ closing.tails :=
      (List.mem_tails _ _).mpr hback
    rcases List.mem_cons.mp hends with hall | hends
    · exact .inr (.inr hall)
    · rcases List.mem_cons.mp hends with hone | hends
      · exact .inr (.inl hone)
      · exact .inl (List.mem_singleton.mp hends)

/-- What does not stand in the two signs is found in the text or not at all. -/
theorem breakAt_closing {sign : Char} (hsign : sign ∉ closing) (cs : List Char) :
    breakAt [sign] (cs ++ closing) =
      (breakAt [sign] cs).map fun (front, back) => (front, back ++ closing) := by
  induction cs with
  | nil =>
    simp only [closing, List.mem_cons, List.not_mem_nil, or_false, not_or] at hsign
    simp [closing, breakAt, List.isPrefixOf, hsign.1, hsign.2]
  | cons c cs ih =>
    rw [List.cons_append, breakAt, breakAt]
    by_cases hc : sign = c
    · simp [List.isPrefixOf, hc]
    · simp [List.isPrefixOf, hc, ih, Function.comp_def]

theorem gatherExactly_closing {verbose : Bool} {p : Char → Bool} (hp : p ')' = false) {n : Nat}
    {cs taken rest : List Char} :
    gatherExactly verbose p n (cs ++ closing) = some (taken, rest ++ closing) ↔
      gatherExactly verbose p n cs = some (taken, rest) := by
  induction n generalizing cs taken with
  | zero =>
    simp [gatherExactly]
  | succ n ih =>
    rw [gatherExactly, gatherExactly]
    rcases skip_closing verbose cs with ⟨c, left, h, hback⟩ | ⟨h, hback | hback⟩
    · by_cases hc : p c = true
      · simp [h, hback, hc, ih]
      · simp [h, hback, hc]
    · simp [h, hback, hp]
    · simp [h, hback]

/-! ## Escapes -/

theorem codePoint_eq_ok_iff {isByte : Bool} {digits left rest : List Char} {a : Atom} :
    codePoint isByte digits left = .ok (a, rest) ↔
      left = rest ∧ codePoint isByte digits [] = .ok (a, []) := by
  unfold codePoint
  cases charOf? (hexadecimal digits) with
  | none => simp
  | some c => simp [and_comm]

theorem codePoint_closing {isByte : Bool} {digits left rest : List Char} {a : Atom} :
    codePoint isByte digits (left ++ closing) = .ok (a, rest ++ closing) ↔
      codePoint isByte digits left = .ok (a, rest) := by
  rw [codePoint_eq_ok_iff, @codePoint_eq_ok_iff isByte digits left, List.append_cancel_right_eq]

/-- A code point of a fixed number of digits is read if these are gathered and name a character. -/
theorem fixedWidth_eq_ok_iff {isByte : Bool} {gathered : Option (List Char × List Char)}
    {rest : List Char} {a : Atom} :
    (match gathered with
      | some (digits, rest) => codePoint isByte digits rest
      | none => .error .codePoint) = .ok (a, rest) ↔
      ∃ digits, gathered = some (digits, rest) ∧ codePoint isByte digits [] = .ok (a, []) := by
  rcases gathered with _ | ⟨digits, left⟩
  · simp
  · simp [@codePoint_eq_ok_iff isByte _ left]

theorem hexEscape_local (verbose : Bool) (n : Nat) : Local (hexEscape verbose (n + 1)) := by
  intro cs a rest
  have hparen : isHexDigit ')' = false := by decide
  unfold hexEscape
  rcases skip_closing verbose cs with ⟨c, left, h, hback⟩ | ⟨h, hback | hback⟩
  · by_cases hc : c = '\x7b'
    · -- Digits between braces: the brace that closes them is no digit and stands in the text.
      subst hc
      rcases gather_closing verbose isHexDigit left with
        ⟨digits, d, left', hg, hgback⟩ | ⟨digits, digits', left', hg, hgback, hleft⟩
      · cases digits with
        | nil => simp [h, hback, hg, hgback]
        | cons e digits =>
          by_cases hd : d = '\x7d'
          · simp [h, hback, hg, hgback, hd, codePoint_closing]
          · simp [h, hback, hg, hgback, hd]
      · rcases hleft with rfl | rfl | rfl <;> cases digits <;> cases digits' <;>
          simp [h, hback, hg, hgback]
    · -- A fixed number of digits: the parenthesis is none, so they all stand in the text.
      rw [h, hback]
      simp only [List.cons_append, List.cons.injEq, hc, false_and, imp_false, not_false_eq_true,
        implies_true]
      refine fixedWidth_eq_ok_iff.trans (Iff.trans ?_ fixedWidth_eq_ok_iff.symm)
      rw [← List.cons_append]
      simp only [gatherExactly_closing hparen]
  · simp [h, hback, gatherExactly, skip_nil, skip_twoSigns, hparen]
  · simp [h, hback, gatherExactly, skip_nil]

theorem propertyEscape_local (verbose negated : Bool) : Local (propertyEscape verbose negated) := by
  intro cs a rest
  unfold propertyEscape
  rcases skip_closing verbose cs with ⟨c, left, h, hback⟩ | ⟨h, hback | hback⟩
  · by_cases hc : c = '\x7b'
    · subst hc
      rcases gather_closing verbose (· != '\x7d') left with
        ⟨inside, d, left', hg, hgback⟩ | ⟨inside, inside', left', hg, hgback, hleft⟩
      · simp [h, hback, hg, hgback]
      · rcases hleft with rfl | rfl | rfl <;> simp [h, hback, hg, hgback]
    · by_cases hc' : c = '\\'
      · subst hc'
        simp [h, hback]
      · simp [h, hback, hc']
  · simp [h, hback]
  · simp [h, hback]

/-- A condition on words is followed by a brace and nothing else.  Alone that is an unfinished name;
    with the parenthesis behind it, the brace is left to a repetition. -/
def BraceLeft (verbose : Bool) (cs : List Char) (a : Atom) (rest : List Char) : Prop :=
  ∃ inner, cs = '\x7b' :: inner ∧ skip verbose inner = [] ∧
    skip verbose (inner ++ closing) = [')', '$'] ∧ .anchor (.word .boundary) = a ∧ cs = rest

theorem wordBoundary_closing {verbose : Bool} {cs rest : List Char} {a : Atom} :
    wordBoundary verbose (cs ++ closing) = .ok (a, rest ++ closing) ↔
      wordBoundary verbose cs = .ok (a, rest) ∨ BraceLeft verbose cs a rest := by
  unfold wordBoundary BraceLeft
  rcases cs with _ | ⟨c, inner⟩
  · simp [closing]
  · by_cases hc : c = '\x7b'
    · subst hc
      rcases skip_closing verbose inner with ⟨d, left, h, hback⟩ | ⟨h, hback | hback⟩
      · by_cases hd : isWordLookCharacter d = true
        · rcases gather_closing verbose isWordLookCharacter (d :: left) with
            ⟨name, e, left', hg, hgback⟩ | ⟨name, name', left', hg, hgback, hleft⟩
          · rw [List.cons_append] at hgback
            by_cases he : e = '\x7d'
            · simp only [h, hback, hd, hg, hgback, he, List.cons_append, if_true]
              generalize String.ofList name = look
              split <;> simp [h]
            · simp [h, hback, hd, hg, hgback, he]
          · rw [List.cons_append] at hgback
            rcases hleft with rfl | rfl | rfl <;> simp [h, hback, hd, hg, hgback]
        · simp [h, hback, hd]
      · -- The exception: alone the name is missing, but a parenthesis does not begin a name either.
        have hparen : isWordLookCharacter ')' = false := by decide
        simp [h, hback, hparen]
      · simp [h, hback]
    · simp [hc]

/-- The signs with which an escape of several signs begins. -/
def longEscapes : List Char := ['x', 'u', 'U', 'p', 'P', 'b']

theorem escape_short {c : Char} (hc : c ∉ longEscapes) (verbose : Bool) (rest : List Char) :
    escape verbose (c :: rest) = (escape false [c]).map fun (a, _) => (a, rest) := by
  simp only [longEscapes, List.mem_cons, List.not_mem_nil, not_or, or_false] at hc
  unfold escape
  split <;> simp_all [Except.map]
  generalize isEscapable _ = isPlain
  cases isPlain <;> rfl

/-- With the two signs behind the text an escape is read as before, but for a condition on words
    with a brace that nothing follows. -/
theorem escape_closing {verbose : Bool} {cs rest : List Char} {a : Atom} :
    escape verbose (cs ++ closing) = .ok (a, rest ++ closing) ↔
      escape verbose cs = .ok (a, rest) ∨
        ∃ left, cs = 'b' :: left ∧ BraceLeft verbose left a rest := by
  rcases cs with _ | ⟨c, cs⟩
  · have hback : escape verbose ([] ++ closing) = .ok (.literal ⟨')', false⟩, ['$']) := rfl
    rw [hback]
    simp [escape]
  · rw [List.cons_append]
    by_cases hlong : c ∈ longEscapes
    · simp only [longEscapes, List.mem_cons, List.not_mem_nil, or_false] at hlong
      rcases hlong with rfl | rfl | rfl | rfl | rfl | rfl
      · simpa [escape] using hexEscape_local verbose 1
      · simpa [escape] using hexEscape_local verbose 3
      · simpa [escape] using hexEscape_local verbose 7
      · simpa [escape] using propertyEscape_local verbose false
      · simpa [escape] using propertyEscape_local verbose true
      · simpa [escape] using wordBoundary_closing
    · -- All other escapes end with their first sign.
      rw [escape_short hlong verbose (cs ++ closing), escape_short hlong verbose cs]
      have hne : c ≠ 'b' := fun heq => hlong (by simp [longEscapes, heq])
      cases escape false [c] <;> simp [Except.map, hne]

theorem hexEscape_suffix {verbose : Bool} {width : Nat} {cs rest : List Char} {a : Atom}
    (h : hexEscape verbose width cs = .ok (a, rest)) : rest <:+ cs := by
  have hskip := skip_suffix verbose cs
  unfold hexEscape at h
  split at h
  · next left heq =>
    rw [heq] at hskip
    have hgather := gather_suffix verbose isHexDigit left
    split at h
    · cases h
    · next digits left' _ hg =>
      rw [hg] at hgather
      obtain ⟨rfl, -⟩ := codePoint_eq_ok_iff.mp h
      exact (suffix_of_cons hgather).trans (suffix_of_cons hskip)
    · cases h
  · obtain ⟨digits, hdigits, -⟩ := fixedWidth_eq_ok_iff.mp h
    exact (gatherExactly_suffix hdigits).trans hskip

theorem propertyEscape_suffix {verbose negated : Bool} {cs rest : List Char} {a : Atom}
    (h : propertyEscape verbose negated cs = .ok (a, rest)) : rest <:+ cs := by
  have hskip := skip_suffix verbose cs
  unfold propertyEscape at h
  split at h
  · next left heq =>
    rw [heq] at hskip
    have hgather := gather_suffix verbose (· != '\x7d') left
    split at h
    · next inside c left' hg =>
      rw [hg] at hgather
      obtain ⟨-, rfl⟩ := ok_read_inj h
      exact (suffix_of_cons hgather).trans (suffix_of_cons hskip)
    · cases h
  · next c left _ heq =>
    rw [heq] at hskip
    split at h
    · cases h
    · obtain ⟨-, rfl⟩ := ok_read_inj h
      exact suffix_of_cons hskip
  · cases h

theorem wordBoundary_suffix {verbose : Bool} {cs rest : List Char} {a : Atom}
    (h : wordBoundary verbose cs = .ok (a, rest)) : rest <:+ cs := by
  unfold wordBoundary at h
  split at h
  · next inner =>
    have hskip := skip_suffix verbose inner
    split at h
    · cases h
    · next c left heq =>
      rw [heq] at hskip
      have hgather := gather_suffix verbose isWordLookCharacter (c :: left)
      split at h
      · split at h
        · next name left' hg =>
          rw [hg] at hgather
          have hrest : left' <:+ '\x7b' :: inner :=
            ((suffix_of_cons hgather).trans hskip).trans (List.suffix_cons _ _)
          split at h <;> cases h <;> exact hrest
        · cases h
      · obtain ⟨-, rfl⟩ := ok_read_inj h
        exact List.suffix_refl _
  · obtain ⟨-, rfl⟩ := ok_read_inj h
    exact List.suffix_refl _

theorem escape_shortens (verbose : Bool) : Shortens (escape verbose) := by
  intro cs a rest h
  rcases cs with _ | ⟨c, cs⟩
  · cases h
  · have hcons {left : List Char} (hleft : left <:+ cs) :
        left <:+ c :: cs ∧ left.length < (c :: cs).length :=
      ⟨hleft.trans (List.suffix_cons c cs), Nat.lt_succ_of_le hleft.length_le⟩
    by_cases hlong : c ∈ longEscapes
    · simp only [longEscapes, List.mem_cons, List.not_mem_nil, or_false] at hlong
      rcases hlong with rfl | rfl | rfl | rfl | rfl | rfl
      · exact hcons (hexEscape_suffix h)
      · exact hcons (hexEscape_suffix h)
      · exact hcons (hexEscape_suffix h)
      · exact hcons (propertyEscape_suffix h)
      · exact hcons (propertyEscape_suffix h)
      · exact hcons (wordBoundary_suffix h)
    · rw [escape_short hlong] at h
      obtain ⟨_, -, heq⟩ := map_eq_ok_iff.mp h
      obtain ⟨-, rfl⟩ := Prod.mk.inj heq
      exact hcons (List.suffix_refl _)

end KotlinMetadata.Pattern
