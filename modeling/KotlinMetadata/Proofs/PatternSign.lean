import KotlinMetadata.Proofs.PatternBracket
import KotlinMetadata.Proofs.PatternGroup

/-! # The signs of a pattern in front of a closing parenthesis

    A pattern is read sign by sign: bars, groups, items, repetitions and the end of a group.

    - `Sign`, `sign`: the next sign, and what follows;
    - `sign_suffix`, `sign_shortens`: a sign takes up some of the text;
    - `sign_append`, `sign_cut`: with a parenthesis behind the text the sign is the same, but for a
      group that nothing follows and a condition on words with a brace that nothing follows.
-/

namespace KotlinMetadata.Pattern

/-! ## Signs -/

/-- What comes next in a choice of sequences. -/
inductive Sign where
  /-- The end of the group or of the text. -/
  | stop
  /-- The bar between two sequences. -/
  | bar
  /-- An opening parenthesis and what it begins. -/
  | opening (o : Opening)
  /-- An item. -/
  | item (tree : Tree)
  /-- The sign that repeats the last item. -/
  | repetition (min : Nat) (max : Option Nat) (lazy : Bool)

/-- A repetition and what follows the mark of a lazy one. -/
def repetitionSign (min : Nat) (max : Option Nat) (rest : List Char) : Sign × List Char :=
  (.repetition min max (lazyMark rest).1, (lazyMark rest).2)

/-- A repetition with bounds between braces.  The mark of a lazy one may stand behind blanks, which
    are left where there is none. -/
def boundedSign (verbose : Bool) (min : Nat) (max : Option Nat) (rest : List Char) :
    Sign × List Char :=
  match skip verbose rest with
  | '?' :: left => (.repetition min max true, left)
  | _ => (.repetition min max false, rest)

/-- The sign that begins with a character, and what follows.  The end of a group is left with all
    that stands in front of it. -/
def signOf (verbose : Bool) (cs : List Char) (c : Char) (rest : List Char) :
    Except PatternError (Sign × List Char) :=
  match c with
  | ')' => .ok (.stop, cs)
  | '|' => .ok (.bar, rest)
  | '(' => (groupOpening (skip verbose rest)).map fun (o, rest) => (.opening o, rest)
  | '[' => (bracketClass verbose rest).map fun (b, rest) => (.item (.bracket b), rest)
  | '?' => .ok (repetitionSign 0 (some 1) rest)
  | '*' => .ok (repetitionSign 0 none rest)
  | '+' => .ok (repetitionSign 1 none rest)
  | '\x7b' =>
    (repetitionBounds verbose rest).map fun ((min, max), rest) => boundedSign verbose min max rest
  | '\\' => (escape verbose rest).map fun (a, rest) => (.item (.atom a), rest)
  | '.' => .ok (.item .dot, rest)
  | '^' => .ok (.item (.atom (.anchor .caret)), rest)
  | '$' => .ok (.item (.atom (.anchor .dollar)), rest)
  | c => .ok (.item (.atom (.literal ⟨c, false⟩)), rest)

/-- The next sign of a choice, and what follows. -/
def sign (verbose : Bool) (cs : List Char) : Except PatternError (Sign × List Char) :=
  match skip verbose cs with
  | [] => .ok (.stop, cs)
  | c :: rest => signOf verbose cs c rest

theorem sign_of_skip {verbose : Bool} {cs rest : List Char} {c : Char}
    (h : skip verbose cs = c :: rest) : sign verbose cs = signOf verbose cs c rest := by
  rw [sign, h]

theorem signOf_escape_eq_ok_iff {verbose : Bool} {cs left rest : List Char} {s : Sign} :
    signOf verbose cs '\\' left = .ok (s, rest) ↔
      ∃ a, escape verbose left = .ok (a, rest) ∧ .item (.atom a) = s :=
  map_read_eq_ok_iff (g := fun a => Sign.item (.atom a))

/-- The mark of a lazy repetition stands behind the bounds, or nothing is left out. -/
theorem boundedSign_cases (verbose : Bool) (min : Nat) (max : Option Nat) (rest : List Char) :
    (∃ left, skip verbose rest = '?' :: left ∧
      boundedSign verbose min max rest = (.repetition min max true, left)) ∨
    (lazyMark (skip verbose rest) = (false, skip verbose rest) ∧
      boundedSign verbose min max rest = (.repetition min max false, rest)) := by
  unfold boundedSign
  rcases skip verbose rest with _ | ⟨c, left⟩
  · exact .inr ⟨rfl, rfl⟩
  · by_cases hc : c = '?'
    · subst hc
      exact .inl ⟨left, rfl, rfl⟩
    · exact .inr ⟨by simp [lazyMark, hc], by simp [hc]⟩

theorem lazyMark_suffix (cs : List Char) : (lazyMark cs).2 <:+ cs := by
  unfold lazyMark
  split
  · exact List.suffix_cons _ _
  · exact List.suffix_refl _

theorem boundedSign_suffix (verbose : Bool) (min : Nat) (max : Option Nat) (cs : List Char) :
    (boundedSign verbose min max cs).2 <:+ cs := by
  have hskip := skip_suffix verbose cs
  rcases boundedSign_cases verbose min max cs with ⟨left, hleft, heq⟩ | ⟨-, heq⟩
  · rw [hleft] at hskip
    rw [heq]
    exact suffix_of_cons hskip
  · rw [heq]

theorem signOf_suffix {verbose : Bool} {cs left rest : List Char} {c : Char} {s : Sign}
    (h : signOf verbose cs c left = .ok (s, rest)) : (s = .stop ∧ rest = cs) ∨ rest <:+ left := by
  unfold signOf at h
  split at h
  · obtain ⟨rfl, rfl⟩ := ok_read_inj h
    exact .inl ⟨rfl, rfl⟩
  · obtain ⟨-, rfl⟩ := ok_read_inj h
    exact .inr (List.suffix_refl _)
  · obtain ⟨_, hopening, -⟩ := map_read_eq_ok_iff.mp h
    exact .inr ((groupOpening_suffix hopening).trans (skip_suffix verbose left))
  · obtain ⟨_, hclass, -⟩ := (map_read_eq_ok_iff (g := fun b => Sign.item (.bracket b))).mp h
    exact .inr (bracketClass_shortens verbose hclass).1
  · obtain ⟨-, rfl⟩ := ok_read_inj h
    exact .inr (lazyMark_suffix _)
  · obtain ⟨-, rfl⟩ := ok_read_inj h
    exact .inr (lazyMark_suffix _)
  · obtain ⟨-, rfl⟩ := ok_read_inj h
    exact .inr (lazyMark_suffix _)
  · obtain ⟨⟨⟨min, max⟩, left'⟩, hbounds, heq⟩ := map_eq_ok_iff.mp h
    have hrest := boundedSign_suffix verbose min max left'
    simp only at heq
    rw [heq] at hrest
    exact .inr (hrest.trans (repetitionBounds_suffix hbounds))
  · obtain ⟨_, hescape, -⟩ := (map_read_eq_ok_iff (g := fun a => Sign.item (.atom a))).mp h
    exact .inr (escape_shortens verbose hescape).1
  all_goals
    obtain ⟨-, rfl⟩ := ok_read_inj h
    exact .inr (List.suffix_refl _)

/-- A sign takes up some of the text, but for the end of a group, which takes up nothing. -/
theorem sign_suffix {verbose : Bool} {cs rest : List Char} {s : Sign}
    (h : sign verbose cs = .ok (s, rest)) :
    (s = .stop ∧ rest = cs) ∨ (rest <:+ cs ∧ rest.length < cs.length) := by
  have hskip := skip_suffix verbose cs
  unfold sign at h
  split at h
  · obtain ⟨rfl, rfl⟩ := ok_read_inj h
    exact .inl ⟨rfl, rfl⟩
  · next c left heq =>
    rw [heq] at hskip
    rcases signOf_suffix h with hstop | hrest
    · exact .inl hstop
    · have hlength := hskip.length_le
      have hlength' := hrest.length_le
      rw [List.length_cons] at hlength
      exact .inr ⟨hrest.trans (suffix_of_cons hskip), by omega⟩

theorem sign_shortens {verbose : Bool} {cs rest : List Char} {s : Sign} (hs : s ≠ .stop)
    (h : sign verbose cs = .ok (s, rest)) : rest <:+ cs ∧ rest.length < cs.length :=
  (sign_suffix h).resolve_left fun hstop => hs hstop.1

/-! ## Signs in front of a closing parenthesis -/

theorem repetitionSign_closing {min : Nat} {max : Option Nat} {cs rest : List Char} {s : Sign} :
    repetitionSign min max (cs ++ closing) = (s, rest ++ closing) ↔
      repetitionSign min max cs = (s, rest) := by
  unfold repetitionSign
  rcases cs with _ | ⟨c, cs⟩
  · simp [lazyMark, closing]
  · by_cases hc : c = '?'
    · simp [lazyMark, hc]
    · simp [lazyMark, hc]

theorem boundedSign_closing {verbose : Bool} {min : Nat} {max : Option Nat}
    {cs rest : List Char} {s : Sign} :
    boundedSign verbose min max (cs ++ closing) = (s, rest ++ closing) ↔
      boundedSign verbose min max cs = (s, rest) := by
  unfold boundedSign
  rcases skip_closing verbose cs with ⟨c, left, h, hback⟩ | ⟨h, hback | hback⟩
  · by_cases hc : c = '?'
    · simp [h, hback, hc]
    · simp [h, hback, hc]
  · simp [h, hback]
  · simp [h, hback]

theorem openingSign_closing {verbose : Bool} {cs rest : List Char} {s : Sign}
    (hmore : ∀ kind, s = .opening (.group kind) → rest ≠ []) :
    (groupOpening (skip verbose (cs ++ closing))).map (fun (o, rest) => (Sign.opening o, rest)) =
        .ok (s, rest ++ closing) ↔
      (groupOpening (skip verbose cs)).map (fun (o, rest) => (Sign.opening o, rest)) =
        .ok (s, rest) := by
  have hparen : groupOpening [')', '$'] = .ok (.group (.capture none), [')', '$']) := rfl
  have hnil : groupOpening [] = .ok (.group (.capture none), []) := rfl
  have hclosing (hne : rest ≠ []) : [')', '$'] ≠ rest ++ closing := fun heq =>
    hne (@List.append_cancel_right _ [] closing rest heq).symm
  rcases skip_closing verbose cs with ⟨c, left, h, hback⟩ | ⟨h, hback | hback⟩
  · rw [h, hback]
    exact @Local.map _ _ _ groupOpening_local Sign.opening (c :: left) s rest
  · -- An opening that nothing follows begins a group, which is left out by `hmore`.
    by_cases hs : s = .opening (.group (.capture none))
    · have hne := hmore _ hs
      simp [h, hback, hparen, hnil, Except.map, hne.symm, hclosing hne]
    · simp [h, hback, hparen, hnil, Except.map, Ne.symm hs]
  · by_cases hs : s = .opening (.group (.capture none))
    · have hne := hmore _ hs
      simp [h, hback, hnil, Except.map, hne.symm]
    · simp [h, hback, hnil, Except.map, Ne.symm hs]

theorem boundsSign_closing {verbose : Bool} {cs rest : List Char} {s : Sign} :
    (repetitionBounds verbose (cs ++ closing)).map
        (fun ((min, max), left) => boundedSign verbose min max left) = .ok (s, rest ++ closing) ↔
      (repetitionBounds verbose cs).map
        (fun ((min, max), left) => boundedSign verbose min max left) = .ok (s, rest) := by
  refine map_eq_ok_iff.trans (Iff.trans ?_ map_eq_ok_iff.symm)
  constructor
  · intro h
    obtain ⟨⟨⟨min, max⟩, left⟩, hbounds, heq⟩ := h
    -- The bounds end before what the sign leaves, so they too end within the text.
    have hrest := boundedSign_suffix verbose min max left
    simp only at heq
    rw [heq] at hrest
    obtain ⟨inside, rfl, -⟩ := inside_of_suffix (repetitionBounds_suffix hbounds) hrest
    exact ⟨_, (repetitionBounds_local verbose).mp hbounds, boundedSign_closing.mp heq⟩
  · intro h
    obtain ⟨⟨⟨min, max⟩, left⟩, hbounds, heq⟩ := h
    exact ⟨_, (repetitionBounds_local verbose).mpr hbounds, boundedSign_closing.mpr heq⟩

/-- Every sign that does not begin with a backslash is read the same with the parenthesis behind the
    text, as long as something of the text follows the opening of a group. -/
theorem signOf_closing {verbose : Bool} {cs left rest : List Char} {c : Char} {s : Sign}
    (hc : c ≠ '\\') (hmore : ∀ kind, s = .opening (.group kind) → rest ≠ []) :
    signOf verbose (cs ++ closing) c (left ++ closing) = .ok (s, rest ++ closing) ↔
      signOf verbose cs c left = .ok (s, rest) := by
  unfold signOf
  split
  · simp
  · simp
  · exact openingSign_closing hmore
  · exact Local.map (bracketClass_local verbose) fun b => Sign.item (.bracket b)
  · simp [repetitionSign_closing]
  · simp [repetitionSign_closing]
  · simp [repetitionSign_closing]
  · exact boundsSign_closing
  · exact absurd rfl hc
  all_goals simp

/-- With the parenthesis behind the text the next sign is the same, as long as something of the text
    follows the opening of a group. -/
theorem sign_append {verbose : Bool} {cs rest : List Char} {s : Sign}
    (hmore : ∀ kind, s = .opening (.group kind) → rest ≠ []) (h : sign verbose cs = .ok (s, rest)) :
    sign verbose (cs ++ closing) = .ok (s, rest ++ closing) := by
  rcases skip_closing verbose cs with ⟨c, left, hskip, hback⟩ | ⟨hskip, hback | hback⟩
  · rw [sign_of_skip hskip] at h
    rw [sign_of_skip hback]
    by_cases hc : c = '\\'
    · subst hc
      obtain ⟨a, hescape, rfl⟩ := signOf_escape_eq_ok_iff.mp h
      exact signOf_escape_eq_ok_iff.mpr ⟨a, escape_closing.mpr (.inl hescape), rfl⟩
    · exact (signOf_closing hc hmore).mpr h
  · rw [sign, hskip] at h
    obtain ⟨rfl, rfl⟩ := ok_read_inj h
    rw [sign_of_skip hback]
    rfl
  · rw [sign, hskip] at h
    obtain ⟨rfl, rfl⟩ := ok_read_inj h
    rw [sign, hback]

/-- Without the parenthesis the next sign is the same, or it is a condition on words with a brace
    that nothing follows. -/
theorem sign_cut {verbose : Bool} {cs rest : List Char} {s : Sign}
    (hmore : ∀ kind, s = .opening (.group kind) → rest ≠ [])
    (h : sign verbose (cs ++ closing) = .ok (s, rest ++ closing)) :
    sign verbose cs = .ok (s, rest) ∨
      ∃ a inner, s = .item (.atom a) ∧ rest = '\x7b' :: inner ∧
        skip verbose (inner ++ closing) = [')', '$'] := by
  rcases skip_closing verbose cs with ⟨c, left, hskip, hback⟩ | ⟨hskip, hback | hback⟩
  · rw [sign_of_skip hback] at h
    rw [sign_of_skip hskip]
    by_cases hc : c = '\\'
    · subst hc
      obtain ⟨a, hescape, rfl⟩ := signOf_escape_eq_ok_iff.mp h
      -- Only an escape may read differently, and then a brace is left of the text.
      rcases escape_closing.mp hescape with hescape | ⟨left', -, inner, rfl, -, hparen, -, rfl⟩
      · exact .inl (signOf_escape_eq_ok_iff.mpr ⟨a, hescape, rfl⟩)
      · exact .inr ⟨_, inner, rfl, rfl, hparen⟩
    · exact .inl ((signOf_closing hc hmore).mp h)
  · rw [sign_of_skip hback] at h
    rw [sign, hskip]
    obtain ⟨rfl, heq⟩ := ok_read_inj h
    rw [List.append_cancel_right heq]
    exact .inl rfl
  · rw [sign, hback] at h
    rw [sign, hskip]
    obtain ⟨rfl, heq⟩ := ok_read_inj h
    rw [List.append_cancel_right heq]
    exact .inl rfl

end KotlinMetadata.Pattern
