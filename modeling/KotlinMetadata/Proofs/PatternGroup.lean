import KotlinMetadata.Proofs.PatternScan

/-! # Groups and repetitions in front of a closing parenthesis

    What follows an opening parenthesis and what stands between the braces of a repetition is read
    within the text: a parenthesis behind the text makes no difference.

    - `groupOpening_suffix`, `groupOpening_local`: what a parenthesis begins;
    - `closeBounds`, `upperBound`, `boundsAfter`: the bounds of a repetition from left to right;
    - `repetitionBounds_suffix`, `repetitionBounds_local`: the bounds as a whole.
-/

namespace KotlinMetadata.Pattern

open Text (isWhiteSpace)

/-! ## Groups -/

/-- A hyphen among flags switches off what follows, if something does. -/
theorem flagChange_hyphen (change : FlagChange) {c : Char} (hcolon : c ≠ ':') (hparen : c ≠ ')')
    (cs : List Char) :
    flagChange true change ('-' :: c :: cs) = flagChange false change (c :: cs) := by
  simp [flagChange, hcolon, hparen]

/-- The flags end at a sign of the text. -/
theorem flagChange_suffix {on : Bool} {change result : FlagChange} {cs rest : List Char}
    (h : flagChange on change cs = .ok (result, rest)) :
    ∃ c left, rest = c :: left ∧ c :: left <:+ cs := by
  fun_induction flagChange on change cs with
  | case6 change cs _ _ _ ih =>
    obtain ⟨c, left, heq, hsuffix⟩ := ih h
    exact ⟨c, left, heq, hsuffix.trans (List.suffix_cons _ _)⟩
  | case7 on change c cs =>
    obtain ⟨-, rfl⟩ := ok_read_inj h
    exact ⟨c, cs, rfl, List.suffix_refl _⟩
  | case10 on change c cs _ _ flag _ _ ih =>
    obtain ⟨d, left, heq, hsuffix⟩ := ih h
    exact ⟨d, left, heq, hsuffix.trans (List.suffix_cons _ _)⟩
  | _ => cases h

theorem flagChange_inner (on : Bool) (change : FlagChange) : Inner (flagChange on change) := by
  intro cs result d rest
  induction cs generalizing on change with
  | nil =>
    have hshort : ['$'] ≠ rest ++ [')', '$'] := fun h => absurd (congrArg List.length h) (by simp)
    simp [flagChange, closing, hshort]
  | cons c cs ih =>
    by_cases hhyphen : c = '-'
    · subst hhyphen
      cases on with
      | false => simp [flagChange]
      | true =>
        -- What follows the hyphen must be a flag, so neither the end nor a parenthesis will do.
        rcases cs with _ | ⟨e, cs⟩
        · simp [flagChange, closing]
        · by_cases hcolon : e = ':'
          · simp [flagChange, hcolon]
          · by_cases hparen : e = ')'
            · simp [flagChange, hparen]
            · have hback := flagChange_hyphen change hcolon hparen (cs ++ closing)
              rw [List.cons_append, List.cons_append, hback, flagChange_hyphen change hcolon hparen]
              exact ih false change
    · by_cases hend : c = ':' ∨ c = ')'
      · simp [flagChange, hend]
      · simp only [not_or] at hend
        simp only [List.cons_append, flagChange, hend.1, hend.2, decide_false, Bool.or_self,
          Bool.false_eq_true, if_false]
        cases Flag.ofLetter? c with
        | none => simp
        | some flag =>
          by_cases htaken : (change.lookup flag).isSome = true
          · simp [htaken]
          · simp only [htaken, Bool.false_eq_true, if_false]
            exact ih on (change ++ [(flag, on)])

theorem captureName_local : Local captureName := by
  intro cs name rest
  have hangle : '>' ∉ closing := by decide
  unfold captureName
  rw [breakAt_closing hangle]
  rcases breakAt ['>'] cs with _ | ⟨_ | ⟨c, name'⟩, back⟩
  · simp
  · simp
  · by_cases hname : (isNameCharacter true c && name'.all (isNameCharacter false)) = true
    · simp [hname]
    · simp [hname]

theorem captureName_suffix {cs name rest : List Char} (h : captureName cs = .ok (name, rest)) :
    rest <:+ cs := by
  unfold captureName at h
  split at h
  · next c name' back hbreak =>
    split at h
    · obtain ⟨-, rfl⟩ := ok_read_inj h
      rw [breakAt_singleton hbreak]
      exact ⟨c :: name' ++ ['>'], by simp⟩
    · cases h
  · cases h

/-- What a parenthesis begins, given the flags behind its question mark. -/
def openingOfFlags : FlagChange × List Char → Except PatternError (Opening × List Char)
  | ([], ')' :: _) => .error .operandMissing
  | (change, ')' :: rest) => .ok (.flags change, rest)
  | (change, rest) => .ok (.group (.plain change), rest.drop 1)

theorem groupOpening_flags {c : Char} (hangle : c ≠ '<') (hequals : c ≠ '=') (hbang : c ≠ '!')
    {cs : List Char} (hname : ∀ rest, c :: cs ≠ 'P' :: '<' :: rest) :
    groupOpening ('?' :: c :: cs) = (flagChange true [] (c :: cs)).bind openingOfFlags := by
  unfold groupOpening
  split
  · simp_all
  · simp_all
  · simp_all
  · simp_all
  · simp_all
  · simp_all
  · next rest _ _ _ _ _ _ heq =>
    obtain rfl : c :: cs = rest := (List.cons.inj heq).2
    cases flagChange true [] (c :: cs) with
    | error e => rfl
    | ok result =>
      simp only [Except.bind, openingOfFlags]
      split <;> simp_all
  · simp_all

theorem openingOfFlags_eq_ok_iff {change : FlagChange} {c : Char} {left rest : List Char}
    {opening : Opening} :
    openingOfFlags (change, c :: left) = .ok (opening, rest) ↔
      left = rest ∧ openingOfFlags (change, [c]) = .ok (opening, []) := by
  by_cases hc : c = ')'
  · subst hc
    cases change <;> simp [openingOfFlags, and_comm]
  · simp [openingOfFlags, hc, and_comm]

theorem flagOpening_local : Local fun cs => (flagChange true [] cs).bind openingOfFlags := by
  intro cs opening rest
  refine bind_eq_ok_iff.trans (Iff.trans ?_ bind_eq_ok_iff.symm)
  constructor
  · intro hall
    obtain ⟨⟨change, left⟩, hflags, h⟩ := hall
    obtain ⟨c, left, rfl, -⟩ := flagChange_suffix hflags
    obtain ⟨rfl, hopening⟩ := openingOfFlags_eq_ok_iff.mp h
    exact ⟨_, (flagChange_inner true []).mp hflags, openingOfFlags_eq_ok_iff.mpr ⟨rfl, hopening⟩⟩
  · intro hall
    obtain ⟨⟨change, left⟩, hflags, h⟩ := hall
    obtain ⟨c, left, rfl, -⟩ := flagChange_suffix hflags
    obtain ⟨rfl, hopening⟩ := openingOfFlags_eq_ok_iff.mp h
    exact ⟨_, (flagChange_inner true []).mpr hflags, openingOfFlags_eq_ok_iff.mpr ⟨rfl, hopening⟩⟩

theorem nameOpening_local : Local fun cs =>
    (captureName cs).map fun (name, rest) => (Opening.group (.capture (some name)), rest) :=
  Local.map captureName_local fun name => Opening.group (.capture (some name))

/-- What a parenthesis begins is read the same. -/
theorem groupOpening_local : Local groupOpening := by
  intro cs opening rest
  rcases cs with _ | ⟨c, cs⟩
  · simp [groupOpening, closing]
  · by_cases hask : c = '?'
    · subst hask
      rcases cs with _ | ⟨d, cs⟩
      · simp [groupOpening, closing, flagChange]
      · by_cases hlook : d = '=' ∨ d = '!'
        · rcases hlook with rfl | rfl <;> simp [groupOpening]
        · simp only [not_or] at hlook
          by_cases hangle : d = '<'
          · subst hangle
            rcases cs with _ | ⟨e, cs⟩
            · exact @nameOpening_local [] opening rest
            · by_cases hbehind : e = '=' ∨ e = '!'
              · rcases hbehind with rfl | rfl <;> simp [groupOpening]
              · simp only [not_or] at hbehind
                have hname := @nameOpening_local (e :: cs) opening rest
                simpa [groupOpening, hbehind.1, hbehind.2] using hname
          · by_cases hname : ∃ back, d :: cs = 'P' :: '<' :: back
            · obtain ⟨back, heq⟩ := hname
              obtain ⟨rfl, rfl⟩ := List.cons.inj heq
              exact @nameOpening_local back opening rest
            · have hflags := @flagOpening_local (d :: cs) opening rest
              -- A name is begun by two signs, and neither of those behind the text is the second.
              have hback (back : List Char) : d :: (cs ++ closing) ≠ 'P' :: '<' :: back := by
                intro heq
                obtain ⟨rfl, htail⟩ := List.cons.inj heq
                rcases cs with _ | ⟨e, cs⟩
                · simp [closing] at htail
                · exact hname ⟨cs, by rw [(List.cons.inj htail).1]⟩
              rw [List.cons_append, List.cons_append,
                groupOpening_flags hangle hlook.1 hlook.2 hback,
                groupOpening_flags hangle hlook.1 hlook.2 fun back heq => hname ⟨back, heq⟩]
              exact hflags
    · simp [groupOpening, hask]

theorem groupOpening_suffix {cs rest : List Char} {opening : Opening}
    (h : groupOpening cs = .ok (opening, rest)) : rest <:+ cs := by
  have hname {inside : List Char}
      (h : (captureName inside).map (fun (name, rest) =>
        (Opening.group (.capture (some name)), rest)) = .ok (opening, rest)) :
      rest <:+ inside := by
    obtain ⟨_, hcapture, -⟩ :=
      (map_read_eq_ok_iff (g := fun name => Opening.group (.capture (some name)))).mp h
    exact captureName_suffix hcapture
  unfold groupOpening at h
  split at h
  · cases h
  · cases h
  · cases h
  · cases h
  · exact (hname h).trans ⟨['?', 'P', '<'], rfl⟩
  · exact (hname h).trans ⟨['?', '<'], rfl⟩
  · next inside _ _ _ _ _ _ =>
    have hinside : inside <:+ '?' :: inside := List.suffix_cons _ _
    split at h
    · cases h
    · cases h
    · next hflags =>
      obtain ⟨c, left', heq, hleft⟩ := flagChange_suffix hflags
      obtain ⟨-, rfl⟩ := ok_read_inj h
      rw [← heq] at hleft
      exact (suffix_of_cons hleft).trans hinside
    · next left _ _ hflags =>
      obtain ⟨c, left', heq, hleft⟩ := flagChange_suffix hflags
      obtain ⟨-, rfl⟩ := ok_read_inj h
      rw [← heq] at hleft
      exact ((List.drop_suffix 1 left).trans hleft).trans hinside
  · obtain ⟨-, rfl⟩ := ok_read_inj h
    exact List.suffix_refl _

/-! ## Repetitions -/

/-- The value of the digits of a bound, if there are any. -/
def boundValue (digits : List Char) : Except PatternError (Option Nat) :=
  if digits.isEmpty then .ok none
  else if decimal digits < UInt32.size then .ok (some (decimal digits))
  else .error .repetitionBounds

/-- What stands behind the digits of a bound and behind the white space after them. -/
def afterDigits (verbose : Bool) (left : List Char) : List Char :=
  skip verbose (left.dropWhile isWhiteSpace)

theorem bound_eq_ok_iff {verbose : Bool} {cs rest : List Char} {n : Option Nat} :
    bound verbose cs = .ok (n, rest) ↔
      ∃ digits left, gather verbose Char.isDigit (cs.dropWhile isWhiteSpace) = (digits, left) ∧
        boundValue digits = .ok n ∧ afterDigits verbose left = rest := by
  unfold bound
  rcases gather verbose Char.isDigit (cs.dropWhile isWhiteSpace) with ⟨digits, left⟩
  by_cases hempty : digits = []
  · simp [hempty, boundValue, afterDigits]
  · by_cases hsmall : decimal digits < UInt32.size
    · simp [hempty, hsmall, boundValue, afterDigits]
    · simp [hempty, hsmall, boundValue]

theorem afterDigits_inner {verbose : Bool} {left rest : List Char} {c : Char} :
    afterDigits verbose (left ++ closing) = c :: rest ++ closing ↔
      afterDigits verbose left = c :: rest := by
  unfold afterDigits
  rw [List.dropWhile_append]
  rcases left.dropWhile isWhiteSpace with _ | ⟨d, left'⟩
  · have hblank : closing.dropWhile isWhiteSpace = [')', '$'] := by decide
    simp [hblank, skip_twoSigns, skip_nil]
  · simp only [List.isEmpty_cons, Bool.false_eq_true, if_false]
    rcases skip_closing verbose (d :: left') with ⟨e, back, h, hback⟩ | ⟨h, hback | hback⟩
    · rw [h, hback, List.append_cancel_right_eq]
    · rw [h, hback]
      simp
    · rw [h, hback]
      simp

theorem bound_inner (verbose : Bool) : Inner (bound verbose) := by
  intro cs n c rest
  rw [bound_eq_ok_iff, bound_eq_ok_iff, List.dropWhile_append]
  rcases cs.dropWhile isWhiteSpace with _ | ⟨d, left⟩
  · have hblank : closing.dropWhile isWhiteSpace = [')', '$'] := by decide
    have hdigits : gather verbose Char.isDigit [')', '$'] = ([], [')', '$']) := by
      cases verbose <;> rfl
    have hnone : gather verbose Char.isDigit [] = ([], []) := rfl
    have hparen : afterDigits verbose [')', '$'] = [')', '$'] := skip_twoSigns verbose
    have hnil : afterDigits verbose [] = [] := skip_nil verbose
    -- No digits are found on either side, and only the parenthesis is left to tell them apart.
    simp [hblank, hdigits, hnone, hparen, hnil]
  · simp only [List.isEmpty_cons, Bool.false_eq_true, if_false]
    rcases gather_closing verbose Char.isDigit (d :: left) with
      ⟨digits, e, left', h, hback⟩ | ⟨digits, digits', left', h, hback, hleft⟩
    · rw [h, hback]
      have hafter := @afterDigits_inner verbose (e :: left') rest c
      simp [← hafter]
    · have hnil : afterDigits verbose [] = [] := skip_nil verbose
      have hsign : afterDigits verbose ['$'] = ['$'] := by cases verbose <;> rfl
      have hparen : afterDigits verbose [')', '$'] = [')', '$'] := skip_twoSigns verbose
      rw [h, hback]
      rcases hleft with rfl | rfl | rfl <;> simp [hnil, hsign, hparen]

theorem bound_suffix {verbose : Bool} {cs rest : List Char} {n : Option Nat}
    (h : bound verbose cs = .ok (n, rest)) : rest <:+ cs := by
  obtain ⟨digits, left, hgather, -, rfl⟩ := bound_eq_ok_iff.mp h
  have hleft := gather_suffix verbose Char.isDigit (cs.dropWhile isWhiteSpace)
  rw [hgather] at hleft
  exact (((skip_suffix verbose _).trans (List.dropWhile_suffix _)).trans hleft).trans
    (List.dropWhile_suffix _)

/-- The end of a repetition after its upper bound. -/
def closeBounds (min : Nat) (max : Option Nat) (rest : List Char) :
    Except PatternError ((Nat × Option Nat) × List Char) :=
  match max, rest with
  | some max, '\x7d' :: rest =>
    if min ≤ max then .ok ((min, some max), rest) else .error .repetitionBounds
  | _, _ => .error .repetitionBounds

/-- The upper bound of a repetition after the comma. -/
def upperBound (verbose : Bool) (min : Nat) (cs : List Char) :
    Except PatternError ((Nat × Option Nat) × List Char) :=
  match skip verbose cs with
  | '\x7d' :: rest => .ok ((min, none), rest)
  | rest => (bound verbose rest).bind fun (max, rest) => closeBounds min max rest

/-- What follows the lower bound. -/
def boundsAfter (verbose : Bool) (min : Option Nat) (rest : List Char) :
    Except PatternError ((Nat × Option Nat) × List Char) :=
  match min, rest with
  | some min, '\x7d' :: rest => .ok ((min, some min), rest)
  | some min, ',' :: rest => upperBound verbose min rest
  | _, _ => .error .repetitionBounds

theorem repetitionBounds_eq (verbose : Bool) (cs : List Char) :
    repetitionBounds verbose cs =
      (bound verbose (skip verbose cs)).bind fun (min, rest) => boundsAfter verbose min rest := by
  unfold repetitionBounds boundsAfter upperBound closeBounds
  rfl

theorem closeBounds_eq_ok_iff {min : Nat} {max : Option Nat} {left rest : List Char}
    {bounds : Nat × Option Nat} :
    closeBounds min max left = .ok (bounds, rest) ↔
      left = '\x7d' :: rest ∧ ∃ m, max = some m ∧ min ≤ m ∧ (min, some m) = bounds := by
  unfold closeBounds
  split
  · next m left =>
    by_cases hle : min ≤ m
    · simp [hle, and_comm]
    · simp [hle]
  · next hother =>
    simp only [false_iff, not_and, not_exists, reduceCtorEq]
    rintro rfl m rfl
    exact absurd rfl (hother m rest rfl)

/-- A bound in front of the parenthesis has no digits. -/
theorem bound_paren (verbose : Bool) : bound verbose [')', '$'] = .ok (none, [')', '$']) := by
  cases verbose <;> rfl

theorem bound_nil (verbose : Bool) : bound verbose [] = .ok (none, []) := by
  cases verbose <;> rfl

theorem upperBound_local (verbose : Bool) (min : Nat) : Local (upperBound verbose min) := by
  intro cs bounds rest
  have hbound (inside : List Char) :
      (bound verbose (inside ++ closing)).bind (fun (max, left) => closeBounds min max left) =
        .ok (bounds, rest ++ closing) ↔
      (bound verbose inside).bind (fun (max, left) => closeBounds min max left) =
        .ok (bounds, rest) := by
    refine bind_eq_ok_iff.trans (Iff.trans ?_ bind_eq_ok_iff.symm)
    constructor
    · intro hall
      obtain ⟨⟨max, left⟩, hmax, hclose⟩ := hall
      obtain ⟨rfl, hvalue⟩ := closeBounds_eq_ok_iff.mp hclose
      exact ⟨_, (bound_inner verbose).mp hmax, closeBounds_eq_ok_iff.mpr ⟨rfl, hvalue⟩⟩
    · intro hall
      obtain ⟨⟨max, left⟩, hmax, hclose⟩ := hall
      obtain ⟨rfl, hvalue⟩ := closeBounds_eq_ok_iff.mp hclose
      exact ⟨_, (bound_inner verbose).mpr hmax, closeBounds_eq_ok_iff.mpr ⟨rfl, hvalue⟩⟩
  unfold upperBound
  rcases skip_closing verbose cs with ⟨c, left, h, hback⟩ | ⟨h, hback | hback⟩
  · rw [h, hback]
    -- The brace may close the repetition without an upper bound.
    by_cases hc : c = '\x7d'
    · simp [hc]
    · simp only [List.cons_append, List.cons.injEq, hc, false_and, imp_false, not_false_eq_true,
        implies_true]
      exact hbound (c :: left)
  · simp [h, hback, bound_paren, bound_nil, Except.bind, closeBounds]
  · simp [h, hback, bound_nil, Except.bind, closeBounds]

theorem upperBound_suffix {verbose : Bool} {min : Nat} {cs rest : List Char}
    {bounds : Nat × Option Nat} (h : upperBound verbose min cs = .ok (bounds, rest)) :
    rest <:+ cs := by
  have hskip := skip_suffix verbose cs
  unfold upperBound at h
  split at h
  · next heq =>
    obtain ⟨-, rfl⟩ := ok_read_inj h
    rw [heq] at hskip
    exact suffix_of_cons hskip
  · obtain ⟨⟨max, left⟩, hmax, hclose⟩ := bind_eq_ok_iff.mp h
    obtain ⟨rfl, -⟩ := closeBounds_eq_ok_iff.mp hclose
    exact (suffix_of_cons (bound_suffix hmax)).trans hskip

theorem boundsAfter_eq_ok_iff {verbose : Bool} {min : Option Nat} {left rest : List Char}
    {bounds : Nat × Option Nat} :
    boundsAfter verbose min left = .ok (bounds, rest) ↔
      ∃ m, min = some m ∧ ((left = '\x7d' :: rest ∧ (m, some m) = bounds) ∨
        ∃ left', left = ',' :: left' ∧ upperBound verbose m left' = .ok (bounds, rest)) := by
  unfold boundsAfter
  split
  · simp [and_comm]
  · simp
  · next hbrace hcomma =>
    simp only [false_iff, not_exists, not_and, not_or, reduceCtorEq]
    rintro m rfl
    refine ⟨?_, ?_⟩
    · rintro rfl
      exact absurd rfl (hbrace m rest rfl)
    · rintro left' rfl
      exact absurd rfl (hcomma m left' rfl)

theorem repetitionBounds_eq_ok_iff {verbose : Bool} {cs rest : List Char}
    {bounds : Nat × Option Nat} :
    repetitionBounds verbose cs = .ok (bounds, rest) ↔
      ∃ min left, bound verbose (skip verbose cs) = .ok (min, left) ∧
        boundsAfter verbose min left = .ok (bounds, rest) := by
  rw [repetitionBounds_eq]
  exact bind_eq_ok_iff.trans Prod.exists

theorem repetitionBounds_suffix {verbose : Bool} {cs rest : List Char}
    {bounds : Nat × Option Nat} (h : repetitionBounds verbose cs = .ok (bounds, rest)) :
    rest <:+ cs := by
  obtain ⟨min, left, hmin, hafter⟩ := repetitionBounds_eq_ok_iff.mp h
  have hleft := (bound_suffix hmin).trans (skip_suffix verbose cs)
  obtain ⟨m, -, ⟨rfl, -⟩ | ⟨left', rfl, hupper⟩⟩ := boundsAfter_eq_ok_iff.mp hafter
  · exact suffix_of_cons hleft
  · exact (upperBound_suffix hupper).trans (suffix_of_cons hleft)

/-- The bounds of a repetition are read within the text or not at all. -/
theorem repetitionBounds_local (verbose : Bool) : Local (repetitionBounds verbose) := by
  intro cs bounds rest
  rw [repetitionBounds_eq_ok_iff, repetitionBounds_eq_ok_iff]
  rcases skip_closing verbose cs with ⟨c, inside, h, hback⟩ | ⟨h, hback | hback⟩
  · rw [h, hback]
    constructor
    · intro hall
      obtain ⟨min, left, hmin, hafter⟩ := hall
      obtain ⟨m, rfl, ⟨rfl, hvalue⟩ | ⟨left', rfl, hupper⟩⟩ := boundsAfter_eq_ok_iff.mp hafter
      · exact ⟨_, _, (bound_inner verbose).mp hmin,
          boundsAfter_eq_ok_iff.mpr ⟨m, rfl, .inl ⟨rfl, hvalue⟩⟩⟩
      · obtain ⟨left, rfl, -⟩ :=
          inside_of_suffix (suffix_of_cons (bound_suffix hmin)) (upperBound_suffix hupper)
        exact ⟨_, _, (bound_inner verbose).mp hmin, boundsAfter_eq_ok_iff.mpr
          ⟨m, rfl, .inr ⟨left, rfl, (upperBound_local verbose m).mp hupper⟩⟩⟩
    · intro hall
      obtain ⟨min, left, hmin, hafter⟩ := hall
      obtain ⟨m, rfl, ⟨rfl, hvalue⟩ | ⟨left', rfl, hupper⟩⟩ := boundsAfter_eq_ok_iff.mp hafter
      · exact ⟨_, _, (bound_inner verbose).mpr hmin,
          boundsAfter_eq_ok_iff.mpr ⟨m, rfl, .inl ⟨rfl, hvalue⟩⟩⟩
      · exact ⟨_, _, (bound_inner verbose).mpr hmin, boundsAfter_eq_ok_iff.mpr
          ⟨m, rfl, .inr ⟨_, rfl, (upperBound_local verbose m).mpr hupper⟩⟩⟩
  · simp [h, hback, bound_paren, bound_nil, boundsAfter]
  · simp [h, hback, bound_nil, boundsAfter]

end KotlinMetadata.Pattern
