import KotlinMetadata.Pattern.Matcher

/-! # The order of tests

    A combination of matchers asks its parts from left to right and no longer than the answer is
    open.

    - `Matcher.Outcome.orElse`, `andThen`, `negate`: outcomes one after another, and the laws that
      tie them together;
    - `Matcher.run_anyOf_cons`, `run_allOf_cons`, `run_not`: a run by the runs of its parts;
    - `Matcher.holds_anyOf`, `holds_allOf`: the answers alone;
    - `Matcher.shortCircuit_exact`: which parts are asked, and which combinations are alike in
      answer and tests.
-/

namespace KotlinMetadata.Matcher

variable {α : Type}

/-! ## Outcomes -/

/-- An answer and the tests that were made for it, in order. -/
abbrev Outcome (α : Type) := Bool × List α

namespace Outcome

/-- The second outcome is only needed if the first answer is no. -/
def orElse (first second : Outcome α) : Outcome α :=
  if first.1 then first else (second.1, first.2 ++ second.2)

/-- The second outcome is only needed if the first answer is yes. -/
def andThen (first second : Outcome α) : Outcome α :=
  if first.1 then (second.1, first.2 ++ second.2) else first

/-- The other answer after the same tests. -/
def negate (o : Outcome α) : Outcome α := (!o.1, o.2)

theorem orElse_assoc (o p q : Outcome α) : orElse (orElse o p) q = orElse o (orElse p q) := by
  obtain ⟨answer, asked⟩ := o
  obtain ⟨answer', asked'⟩ := p
  cases answer <;> cases answer' <;> simp [orElse]

theorem andThen_assoc (o p q : Outcome α) :
    andThen (andThen o p) q = andThen o (andThen p q) := by
  obtain ⟨answer, asked⟩ := o
  obtain ⟨answer', asked'⟩ := p
  cases answer <;> cases answer' <;> simp [andThen]

theorem negate_orElse (o p : Outcome α) :
    negate (orElse o p) = andThen (negate o) (negate p) := by
  obtain ⟨answer, asked⟩ := o
  cases answer <;> simp [negate, orElse, andThen]

theorem negate_andThen (o p : Outcome α) :
    negate (andThen o p) = orElse (negate o) (negate p) := by
  obtain ⟨answer, asked⟩ := o
  cases answer <;> simp [negate, orElse, andThen]

end Outcome

/-! ## Runs -/

variable (ask : α → Bool)

theorem run_test (a : α) : (test a).run ask = (ask a, [a]) := rfl

theorem run_not (m : Matcher α) : (Matcher.not m).run ask = Outcome.negate (m.run ask) := rfl

theorem run_anyOf_nil : (anyOf []).run ask = (false, []) := rfl

theorem run_allOf_nil : (allOf []).run ask = (true, []) := rfl

theorem run_anyOf_cons (m : Matcher α) (ms : List (Matcher α)) :
    (anyOf (m :: ms)).run ask = Outcome.orElse (m.run ask) ((anyOf ms).run ask) := by
  show runAny ask (m :: ms) = _
  rw [runAny]
  rcases m.run ask with ⟨_ | _, asked⟩ <;> rfl

theorem run_allOf_cons (m : Matcher α) (ms : List (Matcher α)) :
    (allOf (m :: ms)).run ask = Outcome.andThen (m.run ask) ((allOf ms).run ask) := by
  show runAll ask (m :: ms) = _
  rw [runAll]
  rcases m.run ask with ⟨_ | _, asked⟩ <;> rfl

theorem run_anyOf_append (ms ns : List (Matcher α)) :
    (anyOf (ms ++ ns)).run ask = Outcome.orElse ((anyOf ms).run ask) ((anyOf ns).run ask) := by
  induction ms with
  | nil => rfl
  | cons m ms ih =>
    rw [List.cons_append, run_anyOf_cons, run_anyOf_cons, ih, Outcome.orElse_assoc]

theorem run_allOf_append (ms ns : List (Matcher α)) :
    (allOf (ms ++ ns)).run ask = Outcome.andThen ((allOf ms).run ask) ((allOf ns).run ask) := by
  induction ms with
  | nil => rfl
  | cons m ms ih =>
    rw [List.cons_append, run_allOf_cons, run_allOf_cons, ih, Outcome.andThen_assoc]

/-! ## Answers -/

theorem holds_anyOf (ms : List (Matcher α)) :
    (anyOf ms).holds ask = true ↔ ∃ m ∈ ms, m.holds ask = true := by
  induction ms with
  | nil => simp [holds, run_anyOf_nil]
  | cons m ms ih =>
    simp only [List.mem_cons, exists_eq_or_imp]
    rw [← ih]
    unfold holds
    rw [run_anyOf_cons, Outcome.orElse]
    cases h : (m.run ask).1 <;> simp [h]

theorem holds_allOf (ms : List (Matcher α)) :
    (allOf ms).holds ask = true ↔ ∀ m ∈ ms, m.holds ask = true := by
  induction ms with
  | nil => simp [holds, run_allOf_nil]
  | cons m ms ih =>
    rw [List.forall_mem_cons, ← ih]
    unfold holds
    rw [run_allOf_cons, Outcome.andThen]
    cases h : (m.run ask).1 <;> simp [h]

theorem holds_not (m : Matcher α) : (Matcher.not m).holds ask = !m.holds ask := rfl

/-! ## Tests -/

/-- Matchers that do not hold are all asked, and then those behind them. -/
theorem asked_anyOf_append {front : List (Matcher α)}
    (hfront : ∀ m ∈ front, m.holds ask = false) (back : List (Matcher α)) :
    (anyOf (front ++ back)).asked ask =
      front.flatMap (asked ask) ++ (anyOf back).asked ask := by
  induction front with
  | nil => rfl
  | cons m front ih =>
    obtain ⟨hm, hrest⟩ := List.forall_mem_cons.mp hfront
    have hno : (m.run ask).1 = false := hm
    rw [List.cons_append, List.flatMap_cons, List.append_assoc, ← ih hrest]
    -- The first of them leaves the answer open, so its tests stand before all others.
    unfold asked
    rw [run_anyOf_cons, Outcome.orElse, hno]
    rfl

/-- Matchers that hold are all asked, and then those behind them. -/
theorem asked_allOf_append {front : List (Matcher α)}
    (hfront : ∀ m ∈ front, m.holds ask = true) (back : List (Matcher α)) :
    (allOf (front ++ back)).asked ask =
      front.flatMap (asked ask) ++ (allOf back).asked ask := by
  induction front with
  | nil => rfl
  | cons m front ih =>
    obtain ⟨hm, hrest⟩ := List.forall_mem_cons.mp hfront
    have hyes : (m.run ask).1 = true := hm
    rw [List.cons_append, List.flatMap_cons, List.append_assoc, ← ih hrest]
    unfold asked
    rw [run_allOf_cons, Outcome.andThen, hyes]
    rfl

/-- Nothing is asked behind a matcher that holds. -/
theorem asked_anyOf_cons {m : Matcher α} (hm : m.holds ask = true) (back : List (Matcher α)) :
    (anyOf (m :: back)).asked ask = m.asked ask := by
  have hyes : (m.run ask).1 = true := hm
  unfold asked
  rw [run_anyOf_cons, Outcome.orElse, if_pos hyes]

/-- Nothing is asked behind a matcher that does not hold. -/
theorem asked_allOf_cons {m : Matcher α} (hm : m.holds ask = false) (back : List (Matcher α)) :
    (allOf (m :: back)).asked ask = m.asked ask := by
  have hno : ¬ (m.run ask).1 = true := by
    rw [show (m.run ask).1 = false from hm]
    exact Bool.false_ne_true
  unfold asked
  rw [run_allOf_cons, Outcome.andThen, if_neg hno]

/-! ## Combinations that are alike -/

/-- A negated choice is the conjunction of the negations. -/
theorem run_not_anyOf (ms : List (Matcher α)) :
    (Matcher.not (anyOf ms)).run ask = (allOf (ms.map .not)).run ask := by
  induction ms with
  | nil => rfl
  | cons m ms ih =>
    rw [List.map_cons, run_allOf_cons, ← ih, run_not, run_not, run_not, run_anyOf_cons,
      Outcome.negate_orElse]

/-- A negated conjunction is the choice of the negations. -/
theorem run_not_allOf (ms : List (Matcher α)) :
    (Matcher.not (allOf ms)).run ask = (anyOf (ms.map .not)).run ask := by
  induction ms with
  | nil => rfl
  | cons m ms ih =>
    rw [List.map_cons, run_anyOf_cons, ← ih, run_not, run_not, run_not, run_allOf_cons,
      Outcome.negate_andThen]

/-- A choice within a choice may be written out. -/
theorem run_anyOf_flatten (front inner back : List (Matcher α)) :
    (anyOf (front ++ anyOf inner :: back)).run ask = (anyOf (front ++ inner ++ back)).run ask := by
  rw [List.append_assoc, run_anyOf_append, run_anyOf_cons, run_anyOf_append, run_anyOf_append]

/-- A conjunction within a conjunction may be written out. -/
theorem run_allOf_flatten (front inner back : List (Matcher α)) :
    (allOf (front ++ allOf inner :: back)).run ask = (allOf (front ++ inner ++ back)).run ask := by
  rw [List.append_assoc, run_allOf_append, run_allOf_cons, run_allOf_append, run_allOf_append]

theorem foldl_also (ms ns : List (Matcher α)) : ns.foldl also ms = ms ++ ns := by
  have hfold : ns.foldl also ms = ms ++ (ns.map ([·])).flatten := List.foldl_append_eq_append
  rw [hfold, ← List.flatMap_def, List.flatMap_singleton']

/-! ## Altogether -/

/-- **Short circuits**: a choice holds if one of its parts does, and asks them from the left up to
    the first that does; a conjunction holds if all its parts do, and asks them up to the first that
    does not; a negation asks its part once.  In answer and tests, the negation of a choice is the
    conjunction of the negations and the other way round, and a choice within a choice or a
    conjunction within a conjunction may be written out.  To add parts one at a time to a choice or
    conjunction of nothing is to list them. -/
theorem shortCircuit_exact (ask : α → Bool) :
    (∀ a, (test a).run ask = (ask a, [a])) ∧
    (∀ list, ((anyOf list).holds ask = true ↔ ∃ m ∈ list, m.holds ask = true) ∧
      ((∀ m ∈ list, m.holds ask = false) →
        (anyOf list).asked ask = list.flatMap (asked ask)) ∧
      ∀ front m back, list = front ++ m :: back → (∀ n ∈ front, n.holds ask = false) →
        m.holds ask = true → (anyOf list).asked ask = (front ++ [m]).flatMap (asked ask)) ∧
    (∀ list, ((allOf list).holds ask = true ↔ ∀ m ∈ list, m.holds ask = true) ∧
      ((∀ m ∈ list, m.holds ask = true) →
        (allOf list).asked ask = list.flatMap (asked ask)) ∧
      ∀ front m back, list = front ++ m :: back → (∀ n ∈ front, n.holds ask = true) →
        m.holds ask = false → (allOf list).asked ask = (front ++ [m]).flatMap (asked ask)) ∧
    (∀ m, (Matcher.not m).holds ask = (!m.holds ask) ∧
      (Matcher.not m).asked ask = m.asked ask) ∧
    (∀ list : List (Matcher α),
      (Matcher.not (anyOf list)).run ask = (allOf (list.map .not)).run ask ∧
      (Matcher.not (allOf list)).run ask = (anyOf (list.map .not)).run ask) ∧
    (∀ front inner back : List (Matcher α),
      (anyOf (front ++ anyOf inner :: back)).run ask = (anyOf (front ++ inner ++ back)).run ask ∧
      (allOf (front ++ allOf inner :: back)).run ask =
        (allOf (front ++ inner ++ back)).run ask) ∧
    ∀ list : List (Matcher α),
      anyOf (list.foldl also []) = anyOf list ∧ allOf (list.foldl also []) = allOf list := by
  refine ⟨run_test ask, ?_, ?_, fun m => ⟨rfl, rfl⟩,
    fun list => ⟨run_not_anyOf ask list, run_not_allOf ask list⟩,
    fun front inner back =>
      ⟨run_anyOf_flatten ask front inner back, run_allOf_flatten ask front inner back⟩,
    fun list => ⟨congrArg anyOf (foldl_also [] list), congrArg allOf (foldl_also [] list)⟩⟩
  · intro list
    refine ⟨holds_anyOf ask list, ?_, ?_⟩
    · intro hall
      have hasked := asked_anyOf_append ask hall []
      rw [List.append_nil] at hasked
      exact hasked.trans (List.append_nil _)
    · rintro front m back rfl hfront hm
      rw [asked_anyOf_append ask hfront, asked_anyOf_cons ask hm, List.flatMap_append,
        List.flatMap_singleton]
  · intro list
    refine ⟨holds_allOf ask list, ?_, ?_⟩
    · intro hall
      have hasked := asked_allOf_append ask hall []
      rw [List.append_nil] at hasked
      exact hasked.trans (List.append_nil _)
    · rintro front m back rfl hfront hm
      rw [asked_allOf_append ask hfront, asked_allOf_cons ask hm, List.flatMap_append,
        List.flatMap_singleton]

/-- Of three numbers asked whether they are less than two from the right, the first is no more, and
    the conjunction of the negations asks as many. -/
theorem shortCircuit_exact_of_settledEarly :
    (anyOf [test 3, allOf [test 0, test 5], test 1, test 4]).asked (· < 2) = [3, 0, 5, 1] ∧
    (Matcher.not (anyOf [test 3, test 1, test 4])).run (· < 2) =
      (allOf [.not (test 3), .not (test 1), .not (test 4)]).run (· < 2) := by
  obtain ⟨-, hchoice, -, -, hnegated, -⟩ := shortCircuit_exact (α := Nat) (· < 2)
  obtain ⟨-, -, hasked⟩ := hchoice [test 3, allOf [test 0, test 5], test 1, test 4]
  have hfront : ∀ n ∈ [test 3, allOf [test 0, test 5]], n.holds (· < 2) = false := by decide
  exact ⟨hasked [test 3, allOf [test 0, test 5]] (test 1) [test 4] rfl hfront rfl,
    (hnegated [test 3, test 1, test 4]).1⟩

end KotlinMetadata.Matcher
