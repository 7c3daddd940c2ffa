import KotlinMetadata.Proofs.PatternScan

/-! # Classes in front of a closing parenthesis

    A class between brackets ends within its text or not at all: a parenthesis behind the text never
    closes it, and what is read of the class is the same with the parenthesis as without.

    - `classEntry_inner`: the entries of a class, as long as something of the text follows;
    - `ClassSign`, `classSign`: the next sign of a class, and `classBody_succ`: a class by its
      signs;
    - `classBody_bound`: the bound on the number of signs makes no difference;
    - `bracketClass_shortens`, `bracketClass_local`: whole classes.
-/

namespace KotlinMetadata.Pattern

open Text (isWhiteSpace)

/-! ## Classes by name -/

/-- Whether a class is negated, and what follows the sign for that. -/
def afterCaret : List Char → Bool × List Char
  | '^' :: rest => (true, rest)
  | rest => (false, rest)

/-- A class by name, up to a colon and the bracket. -/
def asciiName? (negated : Bool) (cs : List Char) : Option (Bracket × List Char) :=
  match breakAt [':'] cs with
  | some (name, ']' :: rest) =>
    (Named.ofName? (String.ofList name)).map fun kind => (.ascii kind negated, rest)
  | _ => none

theorem asciiClass?_colon (cs : List Char) :
    asciiClass? (':' :: cs) = asciiName? (afterCaret cs).1 (afterCaret cs).2 := by
  unfold asciiClass? afterCaret asciiName?
  rfl

theorem asciiClass?_other {c : Char} (hc : c ≠ ':') (cs : List Char) :
    asciiClass? (c :: cs) = none := by
  simp [asciiClass?, hc]

theorem afterCaret_closing (cs : List Char) :
    afterCaret (cs ++ closing) = ((afterCaret cs).1, (afterCaret cs).2 ++ closing) := by
  rcases cs with _ | ⟨c, cs⟩
  · rfl
  · by_cases hc : c = '^'
    · simp [afterCaret, hc]
    · simp [afterCaret, hc]

theorem afterCaret_suffix (cs : List Char) : (afterCaret cs).2 <:+ cs := by
  unfold afterCaret
  split
  · exact List.suffix_cons _ _
  · exact List.suffix_refl _

theorem asciiName?_closing (negated : Bool) (cs : List Char) :
    asciiName? negated (cs ++ closing) =
      (asciiName? negated cs).map fun result => (result.1, result.2 ++ closing) := by
  have hcolon : ':' ∉ closing := by decide
  unfold asciiName?
  rw [breakAt_closing hcolon]
  rcases breakAt [':'] cs with _ | ⟨name, _ | ⟨c, rest⟩⟩
  · rfl
  · rfl
  · by_cases hc : c = ']'
    · simp [hc, Function.comp_def]
    · simp [hc]

theorem asciiName?_suffix {negated : Bool} {cs rest : List Char} {item : Bracket}
    (h : asciiName? negated cs = some (item, rest)) : rest <:+ cs := by
  unfold asciiName? at h
  split at h
  · next name rest' hbreak =>
    obtain ⟨_, -, heq⟩ := Option.map_eq_some_iff.mp h
    obtain ⟨-, rfl⟩ := Prod.mk.inj heq
    rw [breakAt_singleton hbreak]
    exact ⟨name ++ [':', ']'], by simp⟩
  · cases h

theorem asciiClass?_closing (cs : List Char) :
    asciiClass? (cs ++ closing) =
      (asciiClass? cs).map fun result => (result.1, result.2 ++ closing) := by
  rcases cs with _ | ⟨c, cs⟩
  · rfl
  · rw [List.cons_append]
    by_cases hc : c = ':'
    · subst hc
      rw [asciiClass?_colon, asciiClass?_colon, afterCaret_closing, asciiName?_closing]
    · rw [asciiClass?_other hc, asciiClass?_other hc]
      rfl

theorem asciiClass?_suffix {cs rest : List Char} {item : Bracket}
    (h : asciiClass? cs = some (item, rest)) : rest <:+ cs := by
  rcases cs with _ | ⟨c, cs⟩
  · cases h
  · by_cases hc : c = ':'
    · subst hc
      rw [asciiClass?_colon] at h
      exact ((asciiName?_suffix h).trans (afterCaret_suffix cs)).trans (List.suffix_cons _ _)
    · rw [asciiClass?_other hc] at h
      cases h

/-! ## Items -/

theorem dropBlank_of_blank {inComment : Bool} {cs : List Char}
    (h : cs.dropWhile isWhiteSpace = []) : dropBlank inComment cs = [] := by
  induction cs generalizing inComment with
  | nil => rfl
  | cons c cs ih =>
    have hc : isWhiteSpace c = true := by
      by_contra hc
      simp [hc] at h
    rw [List.dropWhile_cons_of_pos hc] at h
    rw [dropBlank]
    split
    · exact ih h
    · split
      · exact ih h
      · exact ih h

theorem dropBlank_dropWhile (cs : List Char) :
    dropBlank false (cs.dropWhile isWhiteSpace) = dropBlank false cs := by
  induction cs with
  | nil => rfl
  | cons c cs ih =>
    by_cases hc : isWhiteSpace c = true
    · -- White space begins no comment.
      have hhash : c ≠ '#' := by
        rintro rfl
        exact absurd hc (by decide)
      rw [List.dropWhile_cons_of_pos hc, ih]
      simp [dropBlank, hc, hhash]
    · rw [List.dropWhile_cons_of_neg hc]

/-- The character after a hyphen is found in the text, or nothing but blanks is left and the
    parenthesis is found. -/
theorem afterHyphen_closing (verbose : Bool) (cs : List Char) :
    (∃ c, afterHyphen verbose cs = some c ∧ afterHyphen verbose (cs ++ closing) = some c) ∨
    (skip verbose cs = [] ∧ afterHyphen verbose cs = none ∧
      afterHyphen verbose (cs ++ closing) = some ')') := by
  cases verbose with
  | false =>
    rcases cs with _ | ⟨c, cs⟩
    · exact .inr ⟨rfl, rfl, rfl⟩
    · exact .inl ⟨c, rfl, rfl⟩
  | true =>
    have hskip : skip true cs = dropBlank false (cs.dropWhile isWhiteSpace) :=
      (dropBlank_dropWhile cs).symm
    have hparen : isWhiteSpace ')' = false := by decide
    unfold afterHyphen
    rw [List.dropWhile_append]
    rcases hleft : cs.dropWhile isWhiteSpace with _ | ⟨c, left⟩
    · refine .inr ⟨by rw [hskip, hleft]; rfl, rfl, ?_⟩
      simp [closing, hparen]
    · -- Of a comment only its sign is passed over, with the white space behind the sign.
      by_cases hc : c = '#'
      · subst hc
        rcases hline : left.dropWhile isWhiteSpace with _ | ⟨d, line⟩
        · refine .inr ⟨?_, ?_, ?_⟩
          · have hcomment : dropBlank true left = [] := dropBlank_of_blank hline
            rw [hskip, hleft]
            exact hcomment
          · simp [hline]
          · simp [List.dropWhile_append, hline, closing, hparen]
        · refine .inl ⟨d, ?_, ?_⟩
          · simp [hline]
          · simp [List.dropWhile_append, hline]
      · exact .inl ⟨c, by simp [hc], by simp [hc]⟩

theorem classAtom_shortens (verbose : Bool) : Shortens (classAtom verbose) := by
  intro cs a rest h
  unfold classAtom at h
  split at h
  · cases h
  · next left =>
    obtain ⟨hsuffix, hlength⟩ := escape_shortens verbose h
    exact ⟨hsuffix.trans (List.suffix_cons _ _), Nat.lt_succ_of_lt hlength⟩
  · next c left _ =>
    obtain ⟨-, rfl⟩ := ok_read_inj h
    exact ⟨List.suffix_cons _ _, Nat.lt_succ_self _⟩

/-- With the two signs behind the text the same atom is read, or a condition on words. -/
theorem classAtom_closing {verbose : Bool} {cs rest : List Char} {a : Atom} :
    (classAtom verbose cs = .ok (a, rest) →
      classAtom verbose (cs ++ closing) = .ok (a, rest ++ closing)) ∧
    (classAtom verbose (cs ++ closing) = .ok (a, rest ++ closing) →
      classAtom verbose cs = .ok (a, rest) ∨ ∃ look, a = .anchor look) := by
  rcases cs with _ | ⟨c, cs⟩
  · have hback : classAtom verbose ([] ++ closing) = .ok (.literal ⟨')', false⟩, ['$']) := rfl
    rw [hback]
    simp [classAtom]
  · by_cases hc : c = '\\'
    · subst hc
      refine ⟨fun h => escape_closing.mpr (.inl h), fun h => ?_⟩
      rcases escape_closing.mp h with h | ⟨_, -, _, -, -, -, rfl, -⟩
      · exact .inl h
      · exact .inr ⟨_, rfl⟩
    · simp +contextual [classAtom]

/-- The other end of a range after a hyphen. -/
def rangeAfter (verbose : Bool) (first : Atom) (cs : List Char) :
    Except PatternError (Bracket × List Char) :=
  (classAtom verbose (skip verbose cs)).bind fun (second, rest) =>
    (classRange first second).map fun item => (item, rest)

/-- What follows the first atom of an entry of a class: nothing, or the other end of a range. -/
def entryAfter (verbose : Bool) (first : Atom) (cs : List Char) :
    Except PatternError (Bracket × List Char) :=
  match skip verbose cs with
  | [] => .error .classUnclosed
  | '-' :: after =>
    if afterHyphen verbose after == some ']' || afterHyphen verbose after == some '-' then
      (classItem first).map fun item => (item, '-' :: after)
    else rangeAfter verbose first after
  | rest => (classItem first).map fun item => (item, rest)

theorem classEntry_eq (verbose : Bool) (cs : List Char) :
    classEntry verbose cs =
      (classAtom verbose cs).bind fun (first, rest) => entryAfter verbose first rest := by
  unfold classEntry entryAfter
  rfl

/-- A condition on a place is no end of a range. -/
theorem classRange_anchor (first : Atom) (look : Anchor) :
    classRange first (.anchor look) = .error .classRange := by
  cases first <;> rfl

theorem rangeAfter_suffix {verbose : Bool} {first : Atom} {cs rest : List Char} {item : Bracket}
    (h : rangeAfter verbose first cs = .ok (item, rest)) : rest <:+ cs := by
  obtain ⟨⟨second, left⟩, hsecond, h⟩ := bind_eq_ok_iff.mp h
  obtain ⟨_, -, heq⟩ := map_eq_ok_iff.mp h
  obtain ⟨-, rfl⟩ := Prod.mk.inj heq
  exact (classAtom_shortens verbose hsecond).1.trans (skip_suffix verbose cs)

theorem rangeAfter_local (verbose : Bool) (first : Atom) : Local (rangeAfter verbose first) := by
  intro cs item rest
  unfold rangeAfter
  rcases skip_closing verbose cs with ⟨d, after, h, hback⟩ | ⟨h, hback | hback⟩
  · rw [h, hback]
    constructor
    · intro hok
      obtain ⟨⟨second, left⟩, hsecond, hrange⟩ := bind_eq_ok_iff.mp hok
      obtain ⟨_, hitem, heq⟩ := map_eq_ok_iff.mp hrange
      obtain ⟨rfl, rfl⟩ := Prod.mk.inj heq
      -- What is read differently as an atom is a condition, and those end no range.
      rcases classAtom_closing.2 hsecond with hsecond | ⟨look, rfl⟩
      · exact bind_eq_ok_iff.mpr ⟨_, hsecond, map_eq_ok_iff.mpr ⟨_, hitem, rfl⟩⟩
      · rw [classRange_anchor] at hitem
        cases hitem
    · intro hok
      obtain ⟨⟨second, left⟩, hsecond, hrange⟩ := bind_eq_ok_iff.mp hok
      obtain ⟨_, hitem, heq⟩ := map_eq_ok_iff.mp hrange
      obtain ⟨rfl, rfl⟩ := Prod.mk.inj heq
      exact bind_eq_ok_iff.mpr ⟨_, classAtom_closing.1 hsecond, map_eq_ok_iff.mpr ⟨_, hitem, rfl⟩⟩
  · have hparen : classAtom verbose [')', '$'] = .ok (.literal ⟨')', false⟩, ['$']) := rfl
    rw [h, hback, hparen]
    simp [classAtom, Except.bind, map_eq_ok_iff]
  · rw [h, hback]
    simp [classAtom, Except.bind]

theorem entryAfter_suffix {verbose : Bool} {first : Atom} {cs rest : List Char} {item : Bracket}
    (h : entryAfter verbose first cs = .ok (item, rest)) : rest <:+ cs := by
  have hskip := skip_suffix verbose cs
  unfold entryAfter at h
  split at h
  · cases h
  · next after heq =>
    rw [heq] at hskip
    split at h
    · obtain ⟨_, -, heq⟩ := map_eq_ok_iff.mp h
      obtain ⟨-, rfl⟩ := Prod.mk.inj heq
      exact hskip
    · exact (rangeAfter_suffix h).trans (suffix_of_cons hskip)
  · obtain ⟨_, -, heq⟩ := map_eq_ok_iff.mp h
    obtain ⟨-, rfl⟩ := Prod.mk.inj heq
    exact hskip

/-- A condition on a place begins no entry. -/
theorem entryAfter_anchor {verbose : Bool} {look : Anchor} {cs : List Char}
    (result : Bracket × List Char) : entryAfter verbose (.anchor look) cs ≠ .ok result := by
  unfold entryAfter
  intro h
  split at h
  · cases h
  · split at h
    · cases h
    · obtain ⟨⟨second, left⟩, -, h⟩ := bind_eq_ok_iff.mp h
      cases second <;> cases h
  · cases h

theorem entryAfter_inner (verbose : Bool) (first : Atom) : Inner (entryAfter verbose first) := by
  intro cs item c rest
  unfold entryAfter
  rcases skip_closing verbose cs with ⟨d, after, h, hback⟩ | ⟨h, hback | hback⟩
  · by_cases hd : d = '-'
    · subst hd
      have hrange := @rangeAfter_local verbose first after item (c :: rest)
      rw [h, hback]
      rcases afterHyphen_closing verbose after with ⟨e, hnext, hnext'⟩ | ⟨-, hnext, hnext'⟩
      · -- In front of a bracket or another hyphen the hyphen is an item of its own.
        by_cases he : (some e == some ']' || some e == some '-') = true
        · simp only [List.cons_append, hnext, hnext', he, if_true, map_eq_ok_iff]
          simp
        · simp only [List.cons_append, hnext, hnext', he]
          exact hrange
      · simp only [List.cons_append, hnext, hnext']
        exact hrange
    · rw [h, hback]
      simp [hd, map_eq_ok_iff]
  · simp [h, hback, map_eq_ok_iff]
  · simp [h, hback]

theorem classEntry_shortens (verbose : Bool) : Shortens (classEntry verbose) := by
  intro cs item rest h
  rw [classEntry_eq] at h
  obtain ⟨⟨first, left⟩, hfirst, hafter⟩ := bind_eq_ok_iff.mp h
  obtain ⟨hsuffix, hlength⟩ := classAtom_shortens verbose hfirst
  have hrest := entryAfter_suffix hafter
  exact ⟨hrest.trans hsuffix, Nat.lt_of_le_of_lt hrest.length_le hlength⟩

theorem classEntry_inner (verbose : Bool) : Inner (classEntry verbose) := by
  intro cs item c rest
  rw [classEntry_eq, classEntry_eq]
  refine bind_eq_ok_iff.trans (Iff.trans ?_ bind_eq_ok_iff.symm)
  constructor
  · intro h
    obtain ⟨⟨first, left⟩, hfirst, hafter⟩ := h
    obtain ⟨inside, rfl, -⟩ :=
      inside_of_suffix (classAtom_shortens verbose hfirst).1 (entryAfter_suffix hafter)
    rcases classAtom_closing.2 hfirst with hfirst | ⟨look, rfl⟩
    · exact ⟨(first, inside), hfirst, (entryAfter_inner verbose first).mp hafter⟩
    · exact absurd hafter (entryAfter_anchor _)
  · intro h
    obtain ⟨⟨first, left⟩, hfirst, hafter⟩ := h
    exact ⟨(first, left ++ closing), classAtom_closing.1 hfirst,
      (entryAfter_inner verbose first).mpr hafter⟩

/-! ## Classes -/

/-- What stands for itself at the start of a class. -/
def bodyStart (verbose : Bool) (cs : List Char) : ClassState × List Char :=
  match leadingHyphens verbose cs with
  | (⟨none, []⟩, ']' :: rest) => (({} : ClassState).push (.literal ⟨']', false⟩), rest)
  | (state, rest) => (state, rest)

theorem openClass_eq (verbose : Bool) (cs : List Char) :
    openClass verbose cs =
      ((afterCaret (skip verbose cs)).1, bodyStart verbose (afterCaret (skip verbose cs)).2) := by
  have hstart (negated : Bool) (left : List Char) :
      (match leadingHyphens verbose left with
        | (⟨none, []⟩, ']' :: rest) =>
          (negated, ({} : ClassState).push (.literal ⟨']', false⟩), rest)
        | (state, rest) => (negated, state, rest)) = (negated, bodyStart verbose left) := by
    unfold bodyStart
    split <;> simp_all
  exact hstart (afterCaret (skip verbose cs)).1 (afterCaret (skip verbose cs)).2

theorem bodyStart_suffix (verbose : Bool) (cs : List Char) : (bodyStart verbose cs).2 <:+ cs := by
  have hgather : (leadingHyphens verbose cs).2 <:+ cs := gather_suffix verbose (· == '-') cs
  unfold bodyStart
  split
  · next rest heq =>
    rw [heq] at hgather
    exact suffix_of_cons hgather
  · next state rest _ heq =>
    rw [heq] at hgather
    exact hgather

theorem bodyStart_inner {verbose : Bool} {cs rest : List Char} {state : ClassState} {c : Char} :
    bodyStart verbose (cs ++ closing) = (state, c :: rest ++ closing) ↔
      bodyStart verbose cs = (state, c :: rest) := by
  unfold bodyStart leadingHyphens
  rcases gather_closing verbose (· == '-') cs with
    ⟨hyphens, d, left, h, hback⟩ | ⟨hyphens, hyphens', left, h, hback, hleft⟩
  · rw [h, hback]
    cases hyphens with
    | nil => by_cases hd : d = ']' <;> simp [hd]
    | cons e hyphens => simp
  · rw [h, hback]
    rcases hleft with rfl | rfl | rfl <;> cases hyphens <;> cases hyphens' <;> simp

theorem openClass_suffix (verbose : Bool) (cs : List Char) :
    (openClass verbose cs).2.2 <:+ cs := by
  rw [openClass_eq]
  exact ((bodyStart_suffix verbose _).trans (afterCaret_suffix _)).trans (skip_suffix verbose cs)

/-- The start of a class is read the same as long as something of the text follows it. -/
theorem openClass_inner {verbose negated : Bool} {cs : List Char} {state : ClassState} {c : Char}
    {rest : List Char} :
    openClass verbose (cs ++ closing) = (negated, state, c :: rest ++ closing) ↔
      openClass verbose cs = (negated, state, c :: rest) := by
  have hnil : bodyStart verbose [] = ({}, []) := rfl
  rw [openClass_eq, openClass_eq]
  rcases skip_closing verbose cs with ⟨d, left, h, hback⟩ | ⟨h, hback | hback⟩
  · rw [h, hback, afterCaret_closing]
    simp only [Prod.mk.injEq]
    exact and_congr_right' bodyStart_inner
  · have hparen : bodyStart verbose [')', '$'] = ({}, [')', '$']) := by
      cases verbose <;> rfl
    rw [h, hback]
    simp [afterCaret, hparen, hnil]
  · rw [h, hback]
    simp [afterCaret, hnil]

/-- What comes next in a class. -/
inductive ClassSign where
  /-- The bracket that closes it. -/
  | close
  | item (b : Bracket)
  /-- A class within it. -/
  | opened (negated : Bool) (start : ClassState)
  | operation (op : SetOp)

/-- The next sign of a class, and what follows. -/
def classSign (verbose : Bool) (cs : List Char) :
    Except PatternError (ClassSign × List Char) :=
  match skip verbose cs with
  | [] => .error .classUnclosed
  | ']' :: rest => .ok (.close, rest)
  | '[' :: rest =>
    match asciiClass? rest with
    | some (item, rest) => .ok (.item item, rest)
    | none =>
      let (negated, start, rest) := openClass verbose rest
      .ok (.opened negated start, rest)
  | '&' :: '&' :: rest => .ok (.operation .inter, rest)
  | '-' :: '-' :: rest => .ok (.operation .diff, rest)
  | '~' :: '~' :: rest => .ok (.operation .symmDiff, rest)
  | rest => (classEntry verbose rest).map fun (item, rest) => (.item item, rest)

theorem classBody_succ (verbose : Bool) (n : Nat) (state : ClassState) (cs : List Char) :
    classBody verbose (n + 1) state cs =
      (classSign verbose cs).bind fun
        | (.close, rest) => .ok (state.finish, rest)
        | (.item item, rest) => classBody verbose n (state.push item) rest
        | (.opened negated start, rest) =>
          (classBody verbose n start rest).bind fun (body, rest) =>
            classBody verbose n (state.push (.bracket negated body)) rest
        | (.operation op, rest) => classBody verbose n (state.operate op) rest := by
  rw [classBody, classSign]
  generalize skip verbose cs = left
  split
  · rfl
  · rfl
  · next rest =>
    show _ = (match asciiClass? rest with
      | some (item, rest) => Except.ok (ClassSign.item item, rest)
      | none =>
        let (negated, start, rest) := openClass verbose rest
        .ok (.opened negated start, rest)).bind _
    cases asciiClass? rest <;> rfl
  · rfl
  · rfl
  · rfl
  · simp only [*]
    show (classEntry verbose left).bind _ = _
    cases classEntry verbose left <;> rfl

theorem classSign_shortens (verbose : Bool) : Shortens (classSign verbose) := by
  intro cs sign rest h
  have hskip := skip_suffix verbose cs
  have hcons {c : Char} {left : List Char} (hleft : skip verbose cs = c :: left)
      (hrest : rest <:+ left) : rest <:+ cs ∧ rest.length < cs.length := by
    rw [hleft] at hskip
    have hlength := hskip.length_le
    have hlength' := hrest.length_le
    rw [List.length_cons] at hlength
    exact ⟨hrest.trans (suffix_of_cons hskip), by omega⟩
  unfold classSign at h
  split at h
  · cases h
  · next heq =>
    obtain ⟨-, rfl⟩ := ok_read_inj h
    exact hcons heq (List.suffix_refl _)
  · next left heq =>
    split at h
    · next hname =>
      obtain ⟨-, rfl⟩ := ok_read_inj h
      exact hcons heq (asciiClass?_suffix hname)
    · obtain ⟨-, rfl⟩ := ok_read_inj h
      exact hcons heq (openClass_suffix verbose left)
  · next heq =>
    obtain ⟨-, rfl⟩ := ok_read_inj h
    exact hcons heq (List.suffix_cons _ _)
  · next heq =>
    obtain ⟨-, rfl⟩ := ok_read_inj h
    exact hcons heq (List.suffix_cons _ _)
  · next heq =>
    obtain ⟨-, rfl⟩ := ok_read_inj h
    exact hcons heq (List.suffix_cons _ _)
  · obtain ⟨_, hentry, -⟩ := map_read_eq_ok_iff.mp h
    obtain ⟨hsuffix, hlength⟩ := classEntry_shortens verbose hentry
    exact ⟨hsuffix.trans hskip, Nat.lt_of_lt_of_le hlength hskip.length_le⟩

/-- Where no bracket and no operation comes next, an entry does. -/
theorem classSign_entry {verbose : Bool} {cs left : List Char} {d e : Char}
    (h : skip verbose cs = d :: e :: left) (hclose : d ≠ ']') (hopen : d ≠ '[')
    (hop : ¬ ((d = '&' ∨ d = '-' ∨ d = '~') ∧ e = d)) :
    classSign verbose cs =
      (classEntry verbose (d :: e :: left)).map fun (item, rest) => (.item item, rest) := by
  rw [classSign, h]
  split <;> simp_all

/-- An entry is the same sign of a class with the two signs behind the text, as long as something of
    the text follows it. -/
theorem entrySign_closing {verbose : Bool} {cs rest : List Char} {sign : ClassSign}
    (hmore : sign = .close ∨ rest ≠ []) :
    (classEntry verbose (cs ++ closing)).map (fun (item, left) => (ClassSign.item item, left)) =
        .ok (sign, rest ++ closing) ↔
      (classEntry verbose cs).map (fun (item, left) => (ClassSign.item item, left)) =
        .ok (sign, rest) := by
  rw [map_read_eq_ok_iff, map_read_eq_ok_iff]
  rcases rest with _ | ⟨c, rest⟩
  · have hclose : sign = .close := hmore.resolve_right (by simp)
    simp [hclose]
  · exact exists_congr fun item => and_congr_left' (classEntry_inner verbose)

/-- With the two signs behind the text the next sign of a class is the same, as long as something
    of the text follows it or the class is closed. -/
theorem classSign_closing {verbose : Bool} {cs rest : List Char} {sign : ClassSign}
    (hmore : sign = .close ∨ rest ≠ []) :
    classSign verbose (cs ++ closing) = .ok (sign, rest ++ closing) ↔
      classSign verbose cs = .ok (sign, rest) := by
  rcases skip_closing verbose cs with ⟨d, left, h, hback⟩ | ⟨h, hback | hback⟩
  · by_cases hclose : d = ']'
    · simp [classSign, h, hback, hclose]
    · by_cases hopen : d = '['
      · subst hopen
        simp only [classSign, h, hback, List.cons_append, asciiClass?_closing]
        rcases asciiClass? left with _ | ⟨item, left'⟩
        · rcases rest with _ | ⟨c, rest⟩
          · have hsign : sign = .close := hmore.resolve_right (by simp)
            simp [hsign]
          · cases sign with
            | opened negated start =>
              have hinner := @openClass_inner verbose negated left start c rest
              simpa [Prod.ext_iff, and_assoc] using hinner
            | _ => simp
        · simp
      · -- Two signs make an operation; one alone at the end of the text gets no second from behind.
        rcases left with _ | ⟨e, left⟩
        · rw [classSign, classSign, h, hback]
          simpa [hclose, hopen, closing] using @entrySign_closing verbose [d] rest sign hmore
        · by_cases hop : (d = '&' ∨ d = '-' ∨ d = '~') ∧ e = d
          · obtain ⟨rfl | rfl | rfl, rfl⟩ := hop <;> simp [classSign, h, hback]
          · rw [classSign_entry h hclose hopen hop, classSign_entry hback hclose hopen hop]
            exact @entrySign_closing verbose (d :: e :: left) rest sign hmore
  · have hparen : classEntry verbose [')', '$'] = .ok (.literal ⟨')', false⟩, ['$']) := by
      cases verbose <;> rfl
    simp [classSign, h, hback, hparen, Except.map]
  · simp [classSign, h, hback]

theorem classBody_shortens (verbose : Bool) (n : Nat) (state : ClassState) :
    Shortens (classBody verbose n state) := by
  intro cs b rest h
  induction n generalizing state cs b rest with
  | zero => cases h
  | succ n ih =>
    rw [classBody_succ] at h
    obtain ⟨⟨sign, left⟩, hsign, h⟩ := bind_eq_ok_iff.mp h
    obtain ⟨hsuffix, hlength⟩ := classSign_shortens verbose hsign
    have hlast {state : ClassState} {b : Bracket} {left' : List Char}
        (hleft : left' <:+ left) (h : classBody verbose n state left' = .ok (b, rest)) :
        rest <:+ cs ∧ rest.length < cs.length := by
      obtain ⟨hrest, hlength'⟩ := ih _ h
      have hle := hleft.length_le
      exact ⟨hrest.trans (hleft.trans hsuffix), by omega⟩
    cases sign with
    | close =>
      obtain ⟨-, rfl⟩ := ok_read_inj h
      exact ⟨hsuffix, hlength⟩
    | item item => exact hlast (List.suffix_refl _) h
    | opened negated start =>
      -- The class within is read first, and what is left of the text goes on from there.
      obtain ⟨⟨body, left'⟩, hbody, h⟩ := bind_eq_ok_iff.mp h
      exact hlast (ih _ hbody).1 h
    | operation op => exact hlast (List.suffix_refl _) h

/-- The bound on the signs of a class makes no difference if it exceeds the length of the text. -/
theorem classBody_bound {verbose : Bool} {n m : Nat} {state : ClassState} {cs : List Char}
    (hn : cs.length < n) (hm : cs.length < m) :
    classBody verbose n state cs = classBody verbose m state cs := by
  induction n generalizing m state cs with
  | zero => omega
  | succ n ih =>
    obtain ⟨m, rfl⟩ : ∃ k, m = k + 1 := ⟨m - 1, by omega⟩
    rw [classBody_succ, classBody_succ]
    cases hsign : classSign verbose cs with
    | error e => rfl
    | ok result =>
      obtain ⟨sign, left⟩ := result
      obtain ⟨-, hlength⟩ := classSign_shortens verbose hsign
      -- A sign takes up a character, so one less on both sides is enough for the rest.
      have hmore {state : ClassState} {left' : List Char} (hleft : left'.length ≤ left.length) :
          classBody verbose n state left' = classBody verbose m state left' :=
        ih (by omega) (by omega)
      cases sign with
      | close => rfl
      | item item => exact hmore (Nat.le_refl _)
      | opened negated start =>
        show (classBody verbose n start left).bind _ = (classBody verbose m start left).bind _
        rw [← hmore (Nat.le_refl _)]
        cases hbody : classBody verbose n start left with
        | error e => rfl
        | ok result =>
          exact hmore (Nat.le_of_lt (classBody_shortens verbose n start hbody).2)
      | operation op => exact hmore (Nat.le_refl _)

theorem classBody_local (verbose : Bool) (n : Nat) (state : ClassState) :
    Local (classBody verbose n state) := by
  intro cs b rest
  induction n generalizing state cs b rest with
  | zero => simp [classBody]
  | succ n ih =>
    rw [classBody_succ, classBody_succ]
    refine bind_eq_ok_iff.trans (Iff.trans ?_ bind_eq_ok_iff.symm)
    constructor
    · intro hall
      obtain ⟨⟨sign, left⟩, hsign, h⟩ := hall
      have hleft := (classSign_shortens verbose hsign).1
      -- Unless the sign closes the class, more is read behind it, so it ends within the text.
      cases sign with
      | close =>
        obtain ⟨rfl, rfl⟩ := ok_read_inj h
        exact ⟨_, (classSign_closing (.inl rfl)).mp hsign, rfl⟩
      | item item =>
        obtain ⟨inside, rfl, hne⟩ := (classBody_shortens verbose n _).inside h hleft
        exact ⟨_, (classSign_closing (.inr hne)).mp hsign, (ih _).mp h⟩
      | opened negated start =>
        obtain ⟨⟨body, left'⟩, hbody, hrest⟩ := bind_eq_ok_iff.mp h
        have hleft' := (classBody_shortens verbose n _ hbody).1.trans hleft
        obtain ⟨inside', rfl, -⟩ := (classBody_shortens verbose n _).inside hrest hleft'
        obtain ⟨inside, rfl, hne⟩ := (classBody_shortens verbose n _).inside hbody hleft
        exact ⟨_, (classSign_closing (.inr hne)).mp hsign,
          bind_eq_ok_iff.mpr ⟨_, (ih _).mp hbody, (ih _).mp hrest⟩⟩
      | operation op =>
        obtain ⟨inside, rfl, hne⟩ := (classBody_shortens verbose n _).inside h hleft
        exact ⟨_, (classSign_closing (.inr hne)).mp hsign, (ih _).mp h⟩
    · intro hall
      obtain ⟨⟨sign, left⟩, hsign, h⟩ := hall
      have hne {state : ClassState} {result : Bracket × List Char}
          (h : classBody verbose n state left = .ok result) : left ≠ [] := by
        rintro rfl
        exact absurd (classBody_shortens verbose n state h).2 (by simp)
      cases sign with
      | close =>
        obtain ⟨rfl, rfl⟩ := ok_read_inj h
        exact ⟨_, (classSign_closing (.inl rfl)).mpr hsign, rfl⟩
      | item item => exact ⟨_, (classSign_closing (.inr (hne h))).mpr hsign, (ih _).mpr h⟩
      | opened negated start =>
        obtain ⟨⟨body, left'⟩, hbody, h⟩ := bind_eq_ok_iff.mp h
        exact ⟨_, (classSign_closing (.inr (hne hbody))).mpr hsign,
          bind_eq_ok_iff.mpr ⟨_, (ih _).mpr hbody, (ih _).mpr h⟩⟩
      | operation op => exact ⟨_, (classSign_closing (.inr (hne h))).mpr hsign, (ih _).mpr h⟩

theorem bracketClass_eq_ok_iff {verbose : Bool} {cs rest : List Char} {b : Bracket} :
    bracketClass verbose cs = .ok (b, rest) ↔
      ∃ negated state left body, openClass verbose cs = (negated, state, left) ∧
        classBody verbose (left.length + 1) state left = .ok (body, rest) ∧
        .bracket negated body = b := by
  unfold bracketClass
  rcases openClass verbose cs with ⟨negated, state, left⟩
  refine bind_eq_ok_iff.trans ?_
  constructor
  · intro hall
    obtain ⟨⟨body, rest'⟩, hbody, h⟩ := hall
    obtain ⟨rfl, rfl⟩ := ok_read_inj h
    exact ⟨_, _, _, body, rfl, hbody, rfl⟩
  · intro hall
    obtain ⟨_, _, _, body, heq, hbody, rfl⟩ := hall
    cases heq
    exact ⟨(body, rest), hbody, rfl⟩

theorem bracketClass_shortens (verbose : Bool) : Shortens (bracketClass verbose) := by
  intro cs b rest h
  obtain ⟨negated, state, left, body, hopen, hbody, -⟩ := bracketClass_eq_ok_iff.mp h
  have hsuffix := openClass_suffix verbose cs
  rw [hopen] at hsuffix
  obtain ⟨hrest, hlength⟩ := classBody_shortens verbose _ state hbody
  exact ⟨hrest.trans hsuffix, Nat.lt_of_lt_of_le hlength hsuffix.length_le⟩

/-- A class is closed within the text or not at all. -/
theorem bracketClass_local (verbose : Bool) : Local (bracketClass verbose) := by
  intro cs b rest
  rw [bracketClass_eq_ok_iff, bracketClass_eq_ok_iff]
  constructor
  · intro h
    obtain ⟨negated, state, left, body, hopen, hbody, rfl⟩ := h
    have hleft := openClass_suffix verbose (cs ++ closing)
    rw [hopen] at hleft
    obtain ⟨inside, rfl, hne⟩ := (classBody_shortens verbose _ state).inside hbody hleft
    obtain ⟨c, inside, rfl⟩ := List.exists_cons_of_ne_nil hne
    refine ⟨negated, state, c :: inside, body, openClass_inner.mp hopen, ?_, rfl⟩
    -- The bound is that of the longer text, and still exceeds the length of the shorter one.
    rw [classBody_local] at hbody
    have hlong : (c :: inside).length < (c :: inside ++ closing).length + 1 := by
      rw [length_append_closing]
      omega
    rwa [classBody_bound (Nat.lt_succ_self _) hlong]
  · intro h
    obtain ⟨negated, state, left, body, hopen, hbody, rfl⟩ := h
    obtain ⟨c, left, rfl⟩ : ∃ c left', left = c :: left' := by
      rcases left with _ | ⟨c, left⟩
      · exact absurd (classBody_shortens verbose _ state hbody).2 (by simp)
      · exact ⟨c, left, rfl⟩
    refine ⟨negated, state, c :: left ++ closing, body, openClass_inner.mpr hopen, ?_, rfl⟩
    rw [classBody_local]
    have hlong : (c :: left).length < (c :: left ++ closing).length + 1 := by
      rw [length_append_closing]
      omega
    rwa [classBody_bound hlong (Nat.lt_succ_self _)]

end KotlinMetadata.Pattern
