import KotlinMetadata.Proofs.PatternSign

/-! # Choices in front of a closing parenthesis

    A pattern that is read to its end is read the same with a parenthesis behind it.  What may
    differ is where the reading ends: in verbose mode the parenthesis may stand in a comment.

    - `choiceEnd`: a choice with the mode and the text where it ends, and `choice_eq`: it is what
      `choice` reads;
    - `choiceEnd_succ_eq_ok_iff`: a choice sign by sign;
    - `choiceEnd_suffix`, `choiceEnd_bound`: it leaves an end of the text, and the bound on the
      number of signs makes no difference;
    - `choiceEnd_local`: the parenthesis behind the text makes no difference.
-/

namespace KotlinMetadata.Pattern

open Text (isWhiteSpace)

/-! ## The end of a choice -/

/-- A choice up to its end, with the mode there and the text from there on, blanks included. -/
def choiceEnd : Nat → Bool → ChoiceState → List Char →
    Except PatternError ((Tree × Bool) × List Char)
  | 0, _, _, _ => .error .groupUnclosed
  | fuel + 1, verbose, state, cs =>
    (sign verbose cs).bind fun
      | (.stop, rest) => .ok ((state.finish, verbose), rest)
      | (.bar, rest) => choiceEnd fuel verbose state.next rest
      | (.opening (.flags change), rest) =>
        choiceEnd fuel (change.applyTo .verbose verbose) (state.push (.flags change)) rest
      | (.opening (.group kind), rest) =>
        (choiceEnd fuel (kind.verbose verbose) {} rest).bind fun ((body, inside), rest) =>
          match skip inside rest with
          | ')' :: rest => choiceEnd fuel verbose (state.push (.group kind body)) rest
          | _ => .error .groupUnclosed
      | (.item tree, rest) => choiceEnd fuel verbose (state.push tree) rest
      | (.repetition min max lazy, rest) =>
        (operand state.items).bind fun (item, items) =>
          choiceEnd fuel verbose { state with items := .iterate item min max lazy :: items } rest

theorem dropBlank_idem (inComment : Bool) (cs : List Char) :
    dropBlank false (dropBlank inComment cs) = dropBlank inComment cs := by
  induction cs generalizing inComment with
  | nil => rfl
  | cons c cs ih =>
    by_cases hcomment : inComment = true
    · simp [dropBlank, hcomment, ih]
    · by_cases hhash : c = '#'
      · simp [dropBlank, hcomment, hhash, ih]
      · by_cases hspace : isWhiteSpace c = true
        · simp [dropBlank, hcomment, hhash, hspace, ih]
        · simp [dropBlank, hcomment, hhash, hspace]

theorem skip_idem (verbose : Bool) (cs : List Char) :
    skip verbose (skip verbose cs) = skip verbose cs := by
  cases verbose
  · rfl
  · exact dropBlank_idem false cs

/-- Blanks in front of a choice make no difference. -/
theorem choice_skip (n : Nat) (verbose : Bool) (state : ChoiceState) (cs : List Char) :
    choice n verbose state (skip verbose cs) = choice n verbose state cs := by
  cases n with
  | zero => rfl
  | succ n =>
    rw [choice, choice, skip_idem]

/-- Repeating the last item reads the mark of a lazy repetition and nothing else. -/
theorem repeatLast_eq (items : List Tree) (min : Nat) (max : Option Nat) (rest : List Char) :
    repeatLast items min max rest = (operand items).map fun (item, items) =>
      (.iterate item min max (lazyMark rest).1 :: items, (lazyMark rest).2) := rfl

/-- A choice that has been read, and the text behind the blanks that follow it. -/
def pastBlanks (read : (Tree × Bool) × List Char) : Tree × List Char :=
  (read.1.1, skip read.1.2 read.2)

/-- With so many signs at most, a choice is read alike to its end and past the blanks there. -/
def AlikeUpTo (n : Nat) : Prop := ∀ verbose state cs,
  choice n verbose state cs = (choiceEnd n verbose state cs).map pastBlanks

/-- Behind the sign of a repetition both readings go on with the last item repeated. -/
theorem AlikeUpTo.repetition {n : Nat} (h : AlikeUpTo n) (verbose : Bool) (state : ChoiceState)
    (min : Nat) (max : Option Nat) (rest : List Char) :
    (repeatLast state.items min max rest >>= fun repeated =>
      choice n verbose { state with items := repeated.1 } repeated.2) =
    ((operand state.items).bind fun last =>
      choiceEnd n verbose
        { state with items := .iterate last.1 min max (lazyMark rest).1 :: last.2 }
        (lazyMark rest).2).map pastBlanks := by
  rw [repeatLast_eq]
  cases operand state.items with
  | error e => rfl
  | ok result => exact h _ _ _

/-- Goes on behind the parenthesis of a group. -/
def closeGroup {α : Type} (next : List Char → Except PatternError α) :
    List Char → Except PatternError α
  | ')' :: rest => next rest
  | _ => .error .groupUnclosed

theorem closeGroup_map {α β : Type} (f : α → β) (next : List Char → Except PatternError α)
    (cs : List Char) :
    (closeGroup next cs).map f = closeGroup (fun rest => (next rest).map f) cs := by
  unfold closeGroup
  split
  · rfl
  · rfl

/-- The blanks that the body of a group leaves are passed over for its parenthesis. -/
theorem AlikeUpTo.group {n : Nat} (h : AlikeUpTo n) (verbose : Bool) (state : ChoiceState)
    (kind : GroupKind) (rest : List Char) :
    ((choice n (kind.verbose verbose) {} rest).bind fun read =>
      closeGroup (choice n verbose (state.push (.group kind read.1))) read.2) =
    ((choiceEnd n (kind.verbose verbose) {} rest).bind fun read =>
      closeGroup (choiceEnd n verbose (state.push (.group kind read.1.1)))
        (skip read.1.2 read.2)).map pastBlanks := by
  rw [h]
  cases choiceEnd n (kind.verbose verbose) {} rest with
  | error e => rfl
  | ok read =>
    have hnext (body : Tree) : choice n verbose (state.push (.group kind body)) =
        fun left => (choiceEnd n verbose (state.push (.group kind body)) left).map pastBlanks :=
      funext fun left => h _ _ _
    simp only [Except.map, Except.bind, pastBlanks, hnext]
    exact (closeGroup_map pastBlanks _ _).symm

/-- `choiceEnd` reads what `choice` reads. -/
theorem choice_eq (n : Nat) : AlikeUpTo n := by
  induction n with
  | zero => exact fun _ _ _ => rfl
  | succ n ih =>
    intro verbose state cs
    rw [choice, choiceEnd, sign]
    generalize hskip : skip verbose cs = left
    split
    · simp only [Except.bind, Except.map, pastBlanks, hskip]
      rfl
    · simp only [Except.bind, Except.map, pastBlanks, hskip, signOf]
      rfl
    · exact ih _ _ _
    · next rest =>
      simp only [signOf]
      cases groupOpening (skip verbose rest) with
      | error e => rfl
      | ok result =>
        obtain ⟨opening, rest⟩ := result
        cases opening with
        | flags change => exact ih _ _ _
        | group kind => exact ih.group verbose state kind rest
    · next rest =>
      simp only [signOf]
      cases bracketClass verbose rest with
      | error e => rfl
      | ok result => exact ih _ _ _
    · exact ih.repetition _ _ _ _ _
    · exact ih.repetition _ _ _ _ _
    · exact ih.repetition _ _ _ _ _
    · next rest =>
      simp only [signOf]
      cases repetitionBounds verbose rest with
      | error e => rfl
      | ok result =>
        obtain ⟨⟨min, max⟩, rest⟩ := result
        show (repeatLast state.items min max (skip verbose rest) >>= fun repeated =>
            choice n verbose { state with items := repeated.1 } repeated.2) =
          ((Except.ok (boundedSign verbose min max rest)).bind _).map _
        -- Behind bounds the blanks are passed over for the mark; without one, the sign leaves them.
        rcases boundedSign_cases verbose min max rest with ⟨left, hleft, heq⟩ | ⟨hmark, heq⟩
        · rw [heq, hleft]
          exact ih.repetition verbose state min max ('?' :: left)
        · rw [heq, repeatLast_eq, hmark]
          cases operand state.items with
          | error e => rfl
          | ok result => exact (choice_skip _ _ _ _).trans (ih _ _ _)
    · next rest =>
      simp only [signOf]
      cases escape verbose rest with
      | error e => rfl
      | ok result => exact ih _ _ _
    · exact ih _ _ _
    · exact ih _ _ _
    · exact ih _ _ _
    · simp only [signOf, *]
      exact ih _ _ _

/-! ## Choices in front of a closing parenthesis -/

/-- What a sign within a sequence does to the mode and to what has been read. -/
inductive Sign.Next (verbose : Bool) (state : ChoiceState) : Sign → Bool → ChoiceState → Prop where
  | bar : Next verbose state .bar verbose state.next
  | flags (change : FlagChange) : Next verbose state (.opening (.flags change))
      (change.applyTo .verbose verbose) (state.push (.flags change))
  | item (tree : Tree) : Next verbose state (.item tree) verbose (state.push tree)
  | repetition {item : Tree} {items : List Tree} (min : Nat) (max : Option Nat) (lazy : Bool)
      (h : operand state.items = .ok (item, items)) :
      Next verbose state (.repetition min max lazy) verbose
        { state with items := .iterate item min max lazy :: items }

/-- A choice is read sign by sign: it ends, it goes on behind a group that has been read to its
    parenthesis, or it goes on behind a sign within a sequence. -/
theorem choiceEnd_succ_eq_ok_iff {n : Nat} {verbose : Bool} {state : ChoiceState}
    {cs rest : List Char} {result : Tree × Bool} :
    choiceEnd (n + 1) verbose state cs = .ok (result, rest) ↔
      (sign verbose cs = .ok (.stop, rest) ∧ result = (state.finish, verbose)) ∨
      (∃ kind left body inside left' after,
        sign verbose cs = .ok (.opening (.group kind), left) ∧
        choiceEnd n (kind.verbose verbose) {} left = .ok ((body, inside), left') ∧
        skip inside left' = ')' :: after ∧
        choiceEnd n verbose (state.push (.group kind body)) after = .ok (result, rest)) ∨
      ∃ s left verbose' state', sign verbose cs = .ok (s, left) ∧
        Sign.Next verbose state s verbose' state' ∧
        choiceEnd n verbose' state' left = .ok (result, rest) := by
  rw [choiceEnd]
  refine bind_eq_ok_iff.trans ?_
  constructor
  · intro hall
    obtain ⟨⟨s, left⟩, hsign, h⟩ := hall
    cases s with
    | stop =>
      obtain ⟨rfl, rfl⟩ := ok_read_inj h
      exact .inl ⟨hsign, rfl⟩
    | bar => exact .inr (.inr ⟨_, _, _, _, hsign, .bar, h⟩)
    | opening o =>
      cases o with
      | flags change => exact .inr (.inr ⟨_, _, _, _, hsign, .flags change, h⟩)
      | group kind =>
        obtain ⟨⟨⟨body, inside⟩, left'⟩, hbody, h⟩ := bind_eq_ok_iff.mp h
        simp only at h
        split at h
        · next after hafter =>
          exact .inr (.inl ⟨kind, left, body, inside, left', after, hsign, hbody, hafter, h⟩)
        · cases h
    | item tree => exact .inr (.inr ⟨_, _, _, _, hsign, .item tree, h⟩)
    | repetition min max lazy =>
      obtain ⟨⟨item, items⟩, hoperand, h⟩ := bind_eq_ok_iff.mp h
      exact .inr (.inr ⟨_, _, _, _, hsign, .repetition min max lazy hoperand, h⟩)
  · intro hall
    rcases hall with ⟨hsign, rfl⟩ |
      ⟨kind, left, body, inside, left', after, hsign, hbody, hafter, h⟩ |
      ⟨s, left, verbose', state', hsign, hnext, h⟩
    · exact ⟨_, hsign, rfl⟩
    · refine ⟨_, hsign, bind_eq_ok_iff.mpr ⟨_, hbody, ?_⟩⟩
      simpa only [hafter] using h
    · refine ⟨_, hsign, ?_⟩
      cases hnext with
      | bar => exact h
      | flags change => exact h
      | item tree => exact h
      | repetition min max lazy hoperand => exact bind_eq_ok_iff.mpr ⟨_, hoperand, h⟩

/-- A sign within a sequence does not end the choice. -/
theorem Sign.Next.ne_stop {verbose verbose' : Bool} {state state' : ChoiceState} {s : Sign}
    (h : Sign.Next verbose state s verbose' state') : s ≠ .stop := by
  cases h <;> simp

/-- A sign within a sequence begins no group. -/
theorem Sign.Next.not_group {verbose verbose' : Bool} {state state' : ChoiceState} {s : Sign}
    {P : Prop} (h : Sign.Next verbose state s verbose' state') (kind : GroupKind)
    (hs : s = .opening (.group kind)) : P := by
  subst hs
  cases h

theorem suffix_of_skip {verbose : Bool} {cs rest : List Char} {c : Char}
    (h : skip verbose cs = c :: rest) : rest <:+ cs :=
  suffix_of_cons (h ▸ skip_suffix verbose cs)

theorem choiceEnd_suffix {n : Nat} {verbose : Bool} {state : ChoiceState} {cs rest : List Char}
    {result : Tree × Bool} (h : choiceEnd n verbose state cs = .ok (result, rest)) :
    rest <:+ cs := by
  induction n generalizing verbose state cs result rest with
  | zero => cases h
  | succ n ih =>
    rcases choiceEnd_succ_eq_ok_iff.mp h with ⟨hsign, -⟩ |
      ⟨kind, left, body, inside, left', after, hsign, hbody, hafter, h⟩ |
      ⟨s, left, verbose', state', hsign, hnext, h⟩
    · rcases sign_suffix hsign with ⟨-, rfl⟩ | ⟨hrest, -⟩
      · exact List.suffix_refl _
      · exact hrest
    · have hleft := (sign_shortens (by simp) hsign).1
      exact (((ih h).trans (suffix_of_skip hafter)).trans (ih hbody)).trans hleft
    · exact (ih h).trans (sign_shortens hnext.ne_stop hsign).1

/-- The bound on the signs of a choice makes no difference if it exceeds the length of the text. -/
theorem choiceEnd_bound {n m : Nat} {verbose : Bool} {state : ChoiceState} {cs rest : List Char}
    {result : Tree × Bool} (hm : cs.length < m)
    (h : choiceEnd n verbose state cs = .ok (result, rest)) :
    choiceEnd m verbose state cs = .ok (result, rest) := by
  induction n generalizing m verbose state cs result rest with
  | zero => cases h
  | succ n ih =>
    obtain ⟨m, rfl⟩ : ∃ k, m = k + 1 := ⟨m - 1, by omega⟩
    rw [choiceEnd_succ_eq_ok_iff] at h ⊢
    rcases h with hstop |
      ⟨kind, left, body, inside, left', after, hsign, hbody, hafter, h⟩ |
      ⟨s, left, verbose', state', hsign, hnext, h⟩
    · exact .inl hstop
    · -- A group takes up the opening, so the body and what follows it are shorter than the text.
      have hleft := (sign_shortens (by simp) hsign).2
      have hlength := (choiceEnd_suffix hbody).length_le
      have hlength' := (suffix_of_skip hafter).length_le
      exact .inr (.inl ⟨kind, left, body, inside, left', after, hsign, ih (by omega) hbody, hafter,
        ih (by omega) h⟩)
    · have hleft := (sign_shortens hnext.ne_stop hsign).2
      exact .inr (.inr ⟨s, left, verbose', state', hsign, hnext, ih (by omega) h⟩)

/-- A brace in front of the parenthesis is no repetition. -/
theorem choiceEnd_brace {verbose : Bool} {inner : List Char}
    (hinner : skip verbose (inner ++ closing) = [')', '$']) (n : Nat) (state : ChoiceState)
    (result : (Tree × Bool) × List Char) :
    choiceEnd n verbose state ('\x7b' :: inner ++ closing) ≠ .ok result := by
  have hskip : skip verbose ('\x7b' :: inner ++ closing) = '\x7b' :: (inner ++ closing) := by
    cases verbose
    · rfl
    · rfl
  have hbounds : repetitionBounds verbose (inner ++ closing) = .error .repetitionBounds := by
    rw [repetitionBounds_eq, hinner, bound_paren]
    rfl
  have hsign : sign verbose ('\x7b' :: inner ++ closing) = .error .repetitionBounds := by
    rw [sign_of_skip hskip]
    simp only [signOf, hbounds]
    rfl
  cases n with
  | zero => simp [choiceEnd]
  | succ n =>
    rw [choiceEnd, hsign]
    simp [Except.bind]

/-- The parenthesis that ends a group stands in the text if something of the text follows it. -/
theorem skip_eq_paren_iff {verbose : Bool} {cs rest : List Char} :
    skip verbose (cs ++ closing) = ')' :: (rest ++ closing) ↔ skip verbose cs = ')' :: rest := by
  rcases skip_closing verbose cs with ⟨c, left, h, hback⟩ | ⟨h, hback | hback⟩
  · rw [h, hback, ← List.cons_append, List.append_cancel_right_eq]
  · simp [h, hback]
  · simp [h, hback]

/-- A choice is read the same with the parenthesis behind the text, if it ends within the text. -/
theorem choiceEnd_local (n : Nat) (verbose : Bool) (state : ChoiceState) :
    Local (choiceEnd n verbose state) := by
  intro cs result rest
  induction n generalizing verbose state cs result rest with
  | zero => simp [choiceEnd]
  | succ n ih =>
    rw [choiceEnd_succ_eq_ok_iff, choiceEnd_succ_eq_ok_iff]
    constructor
    · intro hall
      rcases hall with ⟨hsign, rfl⟩ |
        ⟨kind, left, body, inside, left', after, hsign, hbody, hafter, h⟩ |
        ⟨s, left, verbose', state', hsign, hnext, h⟩
      · rcases sign_cut (by simp) hsign with hsign | ⟨a, inner, heq, -, -⟩
        · exact .inl ⟨hsign, rfl⟩
        · cases heq
      · -- Something of the text is left at last, so all that is read before it stands in the text.
        have hleft := (sign_shortens (by simp) hsign).1
        have hleft' := (choiceEnd_suffix hbody).trans hleft
        obtain ⟨after, rfl, -⟩ := inside_of_suffix ((suffix_of_skip hafter).trans hleft')
          (choiceEnd_suffix h)
        obtain ⟨left', rfl, -⟩ := inside_of_suffix hleft' (suffix_of_skip hafter)
        obtain ⟨left, rfl, hsuffix⟩ := inside_of_suffix hleft (choiceEnd_suffix hbody)
        have hparen := skip_eq_paren_iff.mp hafter
        have hne : left ≠ [] := by
          rintro rfl
          have hnil : left' = [] := List.suffix_nil.mp hsuffix
          rw [hnil, skip_nil] at hparen
          cases hparen
        rcases sign_cut (fun _ _ => hne) hsign with hsign | ⟨a, inner, heq, -, -⟩
        · exact .inr (.inl ⟨kind, left, body, inside, left', after, hsign, (ih _ _).mp hbody,
            hparen, (ih _ _).mp h⟩)
        · cases heq
      · have hleft := (sign_shortens hnext.ne_stop hsign).1
        obtain ⟨left, rfl, -⟩ := inside_of_suffix hleft (choiceEnd_suffix h)
        rcases sign_cut hnext.not_group hsign with hsign | ⟨a, inner, rfl, rfl, hparen⟩
        · exact .inr (.inr ⟨s, left, verbose', state', hsign, hnext, (ih _ _).mp h⟩)
        · -- The brace that is left would have to begin a repetition.
          cases hnext
          exact absurd h (choiceEnd_brace hparen n _ _)
    · intro hall
      rcases hall with ⟨hsign, rfl⟩ |
        ⟨kind, left, body, inside, left', after, hsign, hbody, hafter, h⟩ |
        ⟨s, left, verbose', state', hsign, hnext, h⟩
      · exact .inl ⟨sign_append (by simp) hsign, rfl⟩
      · have hne : left ≠ [] := by
          rintro rfl
          have hnil : left' = [] := List.suffix_nil.mp (choiceEnd_suffix hbody)
          rw [hnil, skip_nil] at hafter
          cases hafter
        exact .inr (.inl ⟨kind, left ++ closing, body, inside, left' ++ closing, after ++ closing,
          sign_append (fun _ _ => hne) hsign, (ih _ _).mpr hbody, skip_eq_paren_iff.mpr hafter,
          (ih _ _).mpr h⟩)
      · exact .inr (.inr ⟨s, left ++ closing, verbose', state', sign_append hnext.not_group hsign,
          hnext, (ih _ _).mpr h⟩)

end KotlinMetadata.Pattern
