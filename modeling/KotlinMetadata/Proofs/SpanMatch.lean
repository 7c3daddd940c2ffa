import Mathlib.Data.List.Infix
import KotlinMetadata.Proofs.ShortCircuit

/-! # Matchers and spans

    A valid span of a text is a stretch of it, and a matcher sees that stretch and nothing else.
    For a span that is not valid every test fails, and the answer is left to the combinations.

    - `Text.ValidSpan`: ordered offsets within the text that cut no character in two;
    - `Text.validSpan_iff`: a span is valid exactly if a stretch of the text lies in it;
    - `Matcher.span_matches_as_stretch`: a valid span is matched as its stretch alone would be;
    - `Matcher.isPositive`: neither a negation nor a conjunction of nothing occurs;
    - `Matcher.invalidSpan_exact`: which matchers refuse the spans that are not valid.
-/

namespace KotlinMetadata

/-! ## Stretches of a text -/

namespace Text

theorem byteLength_append (cs ds : List Char) :
    byteLength (cs ++ ds) = byteLength cs + byteLength ds := by
  induction cs with
  | nil => exact (Nat.zero_add _).symm
  | cons c cs ih =>
    show c.utf8Size + byteLength (cs ++ ds) = c.utf8Size + byteLength cs + byteLength ds
    omega

theorem eq_nil_of_byteLength_eq_zero {cs : List Char} (h : byteLength cs = 0) : cs = [] := by
  cases cs with
  | nil => rfl
  | cons c cs =>
    have hsize := c.utf8Size_pos
    have hzero : c.utf8Size + byteLength cs = 0 := h
    omega

/-- A text is cut at an offset into what takes up the bytes before it and the rest. -/
theorem splitAtByte_eq_some_iff {n : Nat} {cs front back : List Char} :
    splitAtByte n cs = some (front, back) ↔ cs = front ++ back ∧ byteLength front = n := by
  constructor
  · intro h
    induction n, cs using splitAtByte.induct generalizing front back with
    | case1 cs =>
      rw [splitAtByte] at h
      obtain ⟨rfl, rfl⟩ := Prod.mk.inj (Option.some.inj h)
      exact ⟨rfl, rfl⟩
    | case2 n => cases h
    | case3 n c cs hsize ih =>
      rw [splitAtByte, if_pos hsize] at h
      obtain ⟨⟨taken, left⟩, hrest, heq⟩ := Option.map_eq_some_iff.mp h
      obtain ⟨rfl, rfl⟩ := Prod.mk.inj heq
      obtain ⟨rfl, hlength⟩ := ih hrest
      refine ⟨rfl, ?_⟩
      show c.utf8Size + byteLength taken = n + 1
      omega
    | case4 n c cs hsize =>
      -- The offset lies within the bytes of the character.
      rw [splitAtByte, if_neg hsize] at h
      cases h
  · intro hall
    obtain ⟨rfl, rfl⟩ := hall
    induction front with
    | nil =>
      show splitAtByte 0 back = some ([], back)
      rw [splitAtByte]
    | cons c front ih =>
      have hsize := c.utf8Size_pos
      obtain ⟨n, hn⟩ : ∃ n, byteLength (c :: front) = n + 1 :=
        ⟨c.utf8Size + byteLength front - 1, by show c.utf8Size + byteLength front = _; omega⟩
      have hcons : c.utf8Size + byteLength front = n + 1 := hn
      have hrest : n + 1 - c.utf8Size = byteLength front := by omega
      rw [hn, List.cons_append, splitAtByte, if_pos (by omega), hrest, ih]
      rfl

/-- A stretch of a text lies between two byte offsets. -/
def StretchAt (cs : List Char) (start stop : Nat) (stretch : List Char) : Prop :=
  ∃ front back, cs = front ++ stretch ++ back ∧ byteLength front = start ∧
    byteLength (front ++ stretch) = stop

theorem slice?_eq_some_iff {cs : List Char} {start stop : Nat} {stretch : List Char} :
    slice? cs start stop = some stretch ↔ StretchAt cs start stop stretch := by
  unfold slice?
  constructor
  · intro h
    obtain ⟨_, hguard, h⟩ := Option.bind_eq_some_iff.mp h
    obtain ⟨⟨front, after⟩, hfront, h⟩ := Option.bind_eq_some_iff.mp h
    obtain ⟨⟨middle, back⟩, hmiddle, h⟩ := Option.bind_eq_some_iff.mp h
    obtain rfl : middle = stretch := Option.some.inj h
    obtain ⟨rfl, hstart⟩ := splitAtByte_eq_some_iff.mp hfront
    obtain ⟨rfl, hlength⟩ := splitAtByte_eq_some_iff.mp hmiddle
    have hordered : start ≤ stop := by
      by_contra hgt
      rw [guard, if_neg hgt] at hguard
      cases hguard
    refine ⟨front, back, (List.append_assoc ..).symm, hstart, ?_⟩
    rw [byteLength_append]
    omega
  · intro hall
    obtain ⟨front, back, rfl, rfl, rfl⟩ := hall
    have hordered : byteLength front ≤ byteLength (front ++ stretch) := by
      rw [byteLength_append]
      omega
    have hlength : byteLength (front ++ stretch) - byteLength front = byteLength stretch := by
      rw [byteLength_append]
      omega
    have hfront : splitAtByte (byteLength front) (front ++ stretch ++ back) =
        some (front, stretch ++ back) :=
      splitAtByte_eq_some_iff.mpr ⟨List.append_assoc .., rfl⟩
    -- The second cut is made in what the first one leaves, so its offset is the difference.
    have hstretch : splitAtByte (byteLength stretch) (stretch ++ back) = some (stretch, back) :=
      splitAtByte_eq_some_iff.mpr ⟨rfl, rfl⟩
    rw [guard, if_pos hordered, hfront, hlength]
    show (splitAtByte (byteLength stretch) (stretch ++ back)).bind _ = some stretch
    rw [hstretch]
    rfl

/-- The stretch between two offsets is the only one. -/
theorem StretchAt.unique {cs : List Char} {start stop : Nat} {stretch other : List Char}
    (h : StretchAt cs start stop stretch) (hother : StretchAt cs start stop other) :
    other = stretch :=
  Option.some.inj ((slice?_eq_some_iff.mpr hother).symm.trans (slice?_eq_some_iff.mpr h))

/-! ## Valid spans -/

/-- An offset that cuts no character in two. -/
def IsBoundary (cs : List Char) (n : Nat) : Prop :=
  ∃ front back, cs = front ++ back ∧ byteLength front = n

/-- A span that is ordered, ends within the text, and cuts no character in two. -/
structure ValidSpan (cs : List Char) (start stop : Nat) : Prop where
  ordered : start ≤ stop
  inside : stop ≤ byteLength cs
  boundaryBefore : IsBoundary cs start
  boundaryAfter : IsBoundary cs stop

/-- A span is valid exactly if a stretch of the text lies in it. -/
theorem validSpan_iff {cs : List Char} {start stop : Nat} :
    ValidSpan cs start stop ↔ ∃ stretch, StretchAt cs start stop stretch := by
  constructor
  · intro h
    obtain ⟨hordered, -, ⟨front, after, hcs, hstart⟩, ⟨upTo, back, hcs', hstop⟩⟩ := h
    -- Both parts in front begin the text, so that one of them begins the other.
    have hfront : front <+: cs := ⟨after, hcs.symm⟩
    have hupTo : upTo <+: cs := ⟨back, hcs'.symm⟩
    rcases List.prefix_or_prefix_of_prefix hfront hupTo with ⟨stretch, rfl⟩ | ⟨beyond, rfl⟩
    · exact ⟨stretch, front, back, hcs', hstart, hstop⟩
    · have hnothing : byteLength beyond = 0 := by
        rw [byteLength_append] at hstart
        omega
      rw [eq_nil_of_byteLength_eq_zero hnothing, List.append_nil] at hstart
      exact ⟨[], upTo, back, by rw [List.append_nil, hcs'], hstart,
        by rw [List.append_nil, hstop]⟩
  · intro h
    obtain ⟨stretch, front, back, rfl, rfl, rfl⟩ := h
    refine ⟨?_, ?_, ⟨front, stretch ++ back, List.append_assoc .., rfl⟩,
      ⟨front ++ stretch, back, rfl, rfl⟩⟩
    · rw [byteLength_append]
      omega
    · rw [byteLength_append (front ++ stretch)]
      omega

theorem slice?_eq_none_iff {cs : List Char} {start stop : Nat} :
    slice? cs start stop = none ↔ ¬ ValidSpan cs start stop := by
  rw [validSpan_iff]
  simp only [Option.eq_none_iff_forall_not_mem, Option.mem_def, slice?_eq_some_iff, not_exists]

end Text

open Text (ValidSpan StretchAt byteLength)

namespace Query

theorem stretch?_of_stretchAt {text stretch : List Char} {start stop : Nat}
    (h : StretchAt text start stop stretch) :
    stretch? ⟨text, some (start, stop)⟩ = some stretch :=
  Text.slice?_eq_some_iff.mpr h

theorem stretch?_of_not_validSpan {text : List Char} {start stop : Nat}
    (h : ¬ ValidSpan text start stop) : stretch? ⟨text, some (start, stop)⟩ = none :=
  Text.slice?_eq_none_iff.mpr h

end Query

namespace Matcher

/-! ## Valid spans -/

/-- Of a query a matcher sees the stretch alone. -/
theorem matchesQuery_congr (m : Matcher NameTest) {q r : Query} (h : q.stretch? = r.stretch?) :
    m.matchesQuery q = m.matchesQuery r := by
  have htests : (fun test : NameTest => test.holds q) = fun test => test.holds r := by
    funext test
    rw [NameTest.holds, NameTest.holds, h]
  rw [matchesQuery, matchesQuery, htests]

/-- The answer for a stretch in a text is the one for the stretch alone. -/
theorem matchesQuery_of_stretchAt (m : Matcher NameTest) {text stretch : List Char}
    {start stop : Nat} (h : StretchAt text start stop stretch) :
    m.matchesQuery ⟨text, some (start, stop)⟩ = m.matchesQuery ⟨stretch, none⟩ :=
  m.matchesQuery_congr (Query.stretch?_of_stretchAt h)

/-- **Spans and stretches**: in a valid span lies one stretch of the text, and a matcher answers
    for the span what it answers for that stretch as a text of its own.  So the answer for a
    stretch is the same whatever stands before and after it, nothing included, and a fixed text
    accepts it exactly if it is that text. -/
theorem span_matches_as_stretch (m : Matcher NameTest) :
    (∀ text start stop, ValidSpan text start stop →
      ∃ stretch, (∀ other, StretchAt text start stop other ↔ other = stretch) ∧
        m.matchesQuery ⟨text, some (start, stop)⟩ = m.matchesQuery ⟨stretch, none⟩) ∧
    (∀ front stretch back,
      m.matchesQuery ⟨front ++ stretch ++ back,
        some (byteLength front, byteLength (front ++ stretch))⟩ =
          m.matchesQuery ⟨stretch, none⟩) ∧
    ∀ fixed, m = .test (.fixed fixed) → ∀ front stretch back,
      m.matchesQuery ⟨front ++ stretch ++ back,
        some (byteLength front, byteLength (front ++ stretch))⟩ = true ↔ stretch = fixed := by
  have hsurrounded (front stretch back : List Char) :
      StretchAt (front ++ stretch ++ back) (byteLength front) (byteLength (front ++ stretch))
        stretch := ⟨front, back, rfl, rfl, rfl⟩
  refine ⟨?_, ?_, ?_⟩
  · intro text start stop hvalid
    obtain ⟨stretch, hstretch⟩ := Text.validSpan_iff.mp hvalid
    refine ⟨stretch, fun other => ⟨hstretch.unique, ?_⟩, m.matchesQuery_of_stretchAt hstretch⟩
    rintro rfl
    exact hstretch
  · intro front stretch back
    exact m.matchesQuery_of_stretchAt (hsurrounded front stretch back)
  · rintro fixed rfl front stretch back
    rw [matchesQuery_of_stretchAt _ (hsurrounded front stretch back)]
    exact beq_iff_eq

/-- A character of two bytes between others is matched by the span of its bytes. -/
theorem span_matches_as_stretch_of_accented :
    ValidSpan ['a', 'é', 'b'] 1 3 ∧
    (Matcher.test (.fixed ['é'])).matchesQuery ⟨['a', 'é', 'b'], some (1, 3)⟩ = true := by
  have hvalid : ValidSpan ['a', 'é', 'b'] 1 3 :=
    Text.validSpan_iff.mpr ⟨['é'], ['a'], ['b'], rfl, rfl, rfl⟩
  obtain ⟨-, -, hfixed⟩ := span_matches_as_stretch (.test (.fixed ['é']))
  exact ⟨hvalid, (hfixed ['é'] rfl ['a'] ['é'] ['b']).mpr rfl⟩

/-! ## Spans that are not valid -/

variable {α : Type}

mutual

/-- Neither a negation nor a conjunction of nothing occurs. -/
def isPositive : Matcher α → Bool
  | test _ => true
  | anyOf list => areAllPositive list
  | allOf list => !list.isEmpty && areAllPositive list
  | .not _ => false

/-- Neither occurs in any of the matchers. -/
def areAllPositive : List (Matcher α) → Bool
  | [] => true
  | m :: ms => m.isPositive && areAllPositive ms

end

mutual

/-- The matchers that a matcher is put together from, itself included. -/
def parts : Matcher α → List (Matcher α)
  | test a => [test a]
  | anyOf list => anyOf list :: partsOfList list
  | allOf list => allOf list :: partsOfList list
  | .not m => .not m :: parts m

/-- The parts of each matcher. -/
def partsOfList : List (Matcher α) → List (Matcher α)
  | [] => []
  | m :: ms => parts m ++ partsOfList ms

end

theorem self_mem_parts (m : Matcher α) : m ∈ m.parts := by
  cases m <;> simp [parts]

theorem mem_partsOfList {m : Matcher α} {ms : List (Matcher α)} (h : m ∈ ms) :
    m ∈ partsOfList ms := by
  induction ms with
  | nil => cases h
  | cons n ms ih =>
    rw [partsOfList, List.mem_append]
    rcases List.mem_cons.mp h with rfl | hrest
    · exact .inl m.self_mem_parts
    · exact .inr (ih hrest)

/-- If no test holds, a choice whose parts all fail fails with them. -/
theorem holds_anyOf_eq_false {ask : α → Bool} {ms : List (Matcher α)}
    (h : ∀ m ∈ ms, m.holds ask = false) : (anyOf ms).holds ask = false := by
  rw [← Bool.not_eq_true, holds_anyOf]
  intro hall
  obtain ⟨m, hm, hholds⟩ := hall
  rw [h m hm] at hholds
  cases hholds

mutual

/-- Without any test that holds, the positive matchers are those all of whose parts fail. -/
theorem isPositive_iff (m : Matcher α) :
    m.isPositive = true ↔ ∀ part ∈ m.parts, part.holds (fun _ => false) = false := by
  match m with
  | test a => simp [isPositive, parts, holds, run_test]
  | anyOf list =>
    rw [isPositive, areAllPositive_iff list, parts, List.forall_mem_cons]
    refine ⟨fun h => ⟨?_, h⟩, And.right⟩
    exact holds_anyOf_eq_false fun n hn => h n (mem_partsOfList hn)
  | allOf list =>
    rw [isPositive, Bool.and_eq_true, areAllPositive_iff list, parts, List.forall_mem_cons]
    refine and_congr_left fun hparts => ?_
    cases list with
    | nil => simp [holds, run_allOf_nil]
    | cons n ns =>
      -- One part that fails is enough, and the first one does.
      have hn : n.holds (fun _ => false) = false := hparts n (mem_partsOfList List.mem_cons_self)
      have hall : (allOf (n :: ns)).holds (fun _ => false) = false := by
        rw [← Bool.not_eq_true, holds_allOf]
        intro hholds
        rw [hholds n List.mem_cons_self] at hn
        cases hn
      exact iff_of_true rfl hall
  | .not m =>
    refine iff_of_false Bool.false_ne_true fun h => ?_
    rw [parts, List.forall_mem_cons] at h
    have hm : m.holds (fun _ => false) = false := h.2 m m.self_mem_parts
    have hnot : (Matcher.not m).holds (fun _ => false) = false := h.1
    rw [holds_not, hm] at hnot
    cases hnot

theorem areAllPositive_iff (ms : List (Matcher α)) :
    areAllPositive ms = true ↔
      ∀ part ∈ partsOfList ms, part.holds (fun _ => false) = false := by
  match ms with
  | [] => simp [areAllPositive, partsOfList]
  | m :: ms =>
    rw [areAllPositive, Bool.and_eq_true, isPositive_iff m, areAllPositive_iff ms, partsOfList,
      List.forall_mem_append]

end

theorem matchesQuery_of_not_validSpan (m : Matcher NameTest) {text : List Char}
    {start stop : Nat} (h : ¬ ValidSpan text start stop) :
    m.matchesQuery ⟨text, some (start, stop)⟩ = m.holds fun _ => false := by
  have htests : (fun test : NameTest => test.holds ⟨text, some (start, stop)⟩) =
      fun _ => false := by
    funext test
    rw [NameTest.holds, Query.stretch?_of_not_validSpan h]
    rfl
  rw [matchesQuery, htests]

/-- **Spans that are not valid**: whatever the text and the offsets, the answer is the one that the
    matcher gives when no test holds, so that a test alone never matches such a span and a negation
    turns the answer around.  Neither the matcher nor any of its parts matches it exactly if there
    is no negation and no conjunction of nothing among them. -/
theorem invalidSpan_exact (m : Matcher NameTest) {text : List Char} {start stop : Nat}
    (h : ¬ ValidSpan text start stop) :
    m.matchesQuery ⟨text, some (start, stop)⟩ = m.holds (fun _ => false) ∧
    (∀ test, (Matcher.test test).matchesQuery ⟨text, some (start, stop)⟩ = false) ∧
    (Matcher.not m).matchesQuery ⟨text, some (start, stop)⟩ =
      (!m.matchesQuery ⟨text, some (start, stop)⟩) ∧
    (m.isPositive = true ↔
      ∀ part ∈ m.parts, part.matchesQuery ⟨text, some (start, stop)⟩ = false) := by
  refine ⟨m.matchesQuery_of_not_validSpan h,
    fun test => matchesQuery_of_not_validSpan _ h, rfl, ?_⟩
  simp only [matchesQuery_of_not_validSpan _ h]
  exact m.isPositive_iff

/-- The second byte of a character begins no span: a choice of texts does not match there, and its
    negation does. -/
theorem invalidSpan_exact_of_cutCharacter :
    ¬ ValidSpan ['é'] 1 2 ∧
    (anyOf [test (.fixed []), test (.fixed ['é'])]).matchesQuery ⟨['é'], some (1, 2)⟩ = false ∧
    (Matcher.not (anyOf [test (.fixed []), test (.fixed ['é'])])).matchesQuery
      ⟨['é'], some (1, 2)⟩ = true := by
  have hcut : ¬ ValidSpan ['é'] 1 2 := Text.slice?_eq_none_iff.mp (by decide)
  obtain ⟨-, -, hnot, hparts⟩ :=
    invalidSpan_exact (anyOf [test (.fixed []), test (.fixed ['é'])]) hcut
  have hchoice := hparts.mp (by decide) _ (self_mem_parts _)
  exact ⟨hcut, hchoice, hnot.trans (congrArg Bool.not hchoice)⟩

/-- Not every matcher refuses the spans that are not valid. -/
theorem not_refuses_disordered :
    ¬ ∀ (m : Matcher NameTest) (text : List Char) (start stop : Nat),
      ¬ ValidSpan text start stop → m.matchesQuery ⟨text, some (start, stop)⟩ = false := by
  intro hrefuses
  have hdisordered : ¬ ValidSpan ['F', 'o', 'o'] 2 1 :=
    fun hvalid => absurd hvalid.ordered (by decide)
  exact absurd (hrefuses (.not (.test (.fixed ['F', 'o', 'o']))) _ _ _ hdisordered) (by decide)

end Matcher

end KotlinMetadata
