import KotlinMetadata.Proofs.PlaceRow

/-! # What a pattern matches

    The stretches that match a pattern are told by recursion on the pattern, without a search.  The
    search for it goes along these stretches and no others.

    - `Pattern.Matches`: the stretches that match, given what stands before and behind them;
    - `Pattern.step_follows`: a step of the search leads along them;
    - `Pattern.isMatch_iff`: a pattern is found in a text just when some stretch of it matches;
    - `Pattern.matches_ofConcat`: normal form does not change what a sequence matches.
-/

namespace KotlinMetadata

namespace Pattern

mutual

/-- The stretches that match a pattern.  An upper bound of a repetition below the lower one counts
    for nothing. -/
def Matches : Pattern → StretchCondition
  | empty => .isEmpty
  | text cs => fun _ stretch _ => stretch = cs
  | set s => fun _ stretch _ => ∃ c, stretch = [c] ∧ s.contains c = true
  | look l => fun front stretch back => stretch = [] ∧ l.holds front.getLast? back.head? = true
  | capture _ p => p.Matches
  | iterate p min max _ => fun front stretch back =>
    ∃ n, min ≤ n ∧ (∀ m, max = some m → n ≤ Nat.max min m) ∧
      (StretchCondition.times p.Matches n) front stretch back
  | concat ps => MatchesAll ps
  | either ps => MatchesAny ps

/-- One stretch for each pattern, one after another. -/
def MatchesAll : List Pattern → StretchCondition
  | [] => .isEmpty
  | p :: ps => StretchCondition.andThen p.Matches (MatchesAll ps)

/-- A stretch for one of the patterns. -/
def MatchesAny : List Pattern → StretchCondition
  | [] => fun _ _ _ => False
  | p :: ps => fun front stretch back =>
    p.Matches front stretch back ∨ MatchesAny ps front stretch back

end

end Pattern

/-! ## One step of a search -/

namespace Place

variable {cs : List Char} {a b : Place}

/-- The stretch from a place of a text is found behind it. -/
theorem leads_between_iff {condition : StretchCondition} {front back : List Char} :
    Leads (front ++ back) condition (between front back) b ↔
      ∃ stretch rest, back = stretch ++ rest ∧ b = between (front ++ stretch) rest ∧
        condition front stretch rest := by
  constructor
  · intro hall
    obtain ⟨front', stretch, rest, hcs, ha, rfl, h⟩ := hall
    rw [List.append_assoc] at hcs
    obtain ⟨rfl, rfl⟩ := List.append_inj hcs (congrArg Place.index ha)
    exact ⟨stretch, rest, rfl, rfl, h⟩
  · intro hall
    obtain ⟨stretch, rest, rfl, rfl, h⟩ := hall
    exact ⟨front, stretch, rest, (List.append_assoc _ _ _).symm, rfl, rfl, h⟩

theorem between_cons (front back : List Char) (c : Char) :
    between (front ++ [c]) back = ⟨(between front (c :: back)).index + 1, some c, back⟩ := by
  simp [between]

theorem advance?_eq_some_iff (s : CharSet) (ha : a.In cs) :
    a.advance? s = some b ↔ Leads cs (Pattern.set s).Matches a b := by
  obtain ⟨front, back, rfl, rfl⟩ := ha
  rw [leads_between_iff]
  constructor
  · intro h
    rcases back with _ | ⟨c, back⟩
    · cases h
    · by_cases hc : s.contains c = true
      · have hb : some (between (front ++ [c]) back) = some b := by
          rw [between_cons, ← h]
          simp [advance?, between, hc]
        exact ⟨[c], back, rfl, (Option.some.inj hb).symm, c, rfl, hc⟩
      · simp [advance?, between, hc] at h
  · intro hall
    obtain ⟨_, rest, rfl, rfl, c, rfl, hc⟩ := hall
    rw [between_cons]
    simp [advance?, between, hc]

theorem follow?_eq_some_iff (text : List Char) (ha : a.In cs) :
    follow? text a = some b ↔ Leads cs (Pattern.text text).Matches a b := by
  obtain ⟨front, back, rfl, rfl⟩ := ha
  rw [leads_between_iff]
  -- What has been followed goes to the front, so the induction is on what is left to follow.
  induction text generalizing front back with
  | nil =>
    constructor
    · intro h
      exact ⟨[], back, rfl, by rw [List.append_nil]; exact (Option.some.inj h).symm, rfl⟩
    · intro hall
      obtain ⟨_, rest, rfl, rfl, rfl⟩ := hall
      simp [follow?]
  | cons c text ih =>
    constructor
    · intro h
      rcases back with _ | ⟨d, back⟩
      · cases h
      · by_cases hc : c = d
        · subst hc
          have hrest : follow? text (between (front ++ [c]) back) = some b := by
            rw [between_cons, ← h]
            simp [follow?, between]
          obtain ⟨stretch, rest, rfl, rfl, rfl⟩ := (ih (front ++ [c]) back).mp hrest
          exact ⟨c :: stretch, rest, rfl, by simp, rfl⟩
        · simp [follow?, between, hc] at h
    · intro hall
      obtain ⟨_, rest, rfl, rfl, rfl⟩ := hall
      have hrest := (ih (front ++ [c]) (text ++ rest)).mpr ⟨text, rest, rfl, by simp, rfl⟩
      rw [between_cons] at hrest
      simpa [follow?, between] using hrest

theorem satisfies_iff (l : Pattern.Look) (ha : a.In cs) :
    (Option.guard (satisfies l) a) = some b ↔ Leads cs (Pattern.look l).Matches a b := by
  obtain ⟨front, back, rfl, rfl⟩ := ha
  rw [leads_between_iff, Option.guard_eq_some_iff]
  constructor
  · intro h
    obtain ⟨rfl, hl⟩ := h
    exact ⟨[], back, rfl, by simp, rfl, hl⟩
  · intro h
    obtain ⟨_, rest, rfl, rfl, rfl, hl⟩ := h
    exact ⟨by simp, hl⟩

/-- The places of a text from one on make a row. -/
theorem allFrom_row (front back : List Char) :
    Row (front ++ back) (allFrom front.length front.getLast? back) ∧
      ∀ a, a ∈ allFrom front.length front.getLast? back ↔
        ∃ middle rest, back = middle ++ rest ∧ a = between (front ++ middle) rest := by
  induction back generalizing front with
  | nil =>
    refine ⟨row_singleton ⟨front, [], rfl, rfl⟩, fun a => ?_⟩
    rw [allFrom, List.mem_singleton]
    constructor
    · rintro rfl
      exact ⟨[], [], rfl, by rw [List.append_nil]; rfl⟩
    · intro hgiven
      obtain ⟨middle, rest, hback, rfl⟩ := hgiven
      obtain ⟨rfl, rfl⟩ := List.append_eq_nil_iff.mp hback.symm
      rw [List.append_nil]
      rfl
  | cons c back ih =>
    -- The place in front of `c`, and then those behind it.
    have hall : allFrom front.length front.getLast? (c :: back) =
        between front (c :: back) ::
          allFrom (front ++ [c]).length (front ++ [c]).getLast? back := by
      rw [List.length_append, List.getLast?_concat]
      rfl
    obtain ⟨hrow, hmem⟩ := ih (front ++ [c])
    rw [hall]
    refine ⟨row_cons_iff.mpr ⟨⟨front, c :: back, rfl, rfl⟩, ?_, ?_⟩, fun a => ?_⟩
    · intro b hb
      obtain ⟨middle, rest, -, rfl⟩ := (hmem b).mp hb
      simp [between]
    · simpa using hrow
    · rw [List.mem_cons, hmem]
      constructor
      · intro hgiven
        rcases hgiven with rfl | ⟨middle, rest, rfl, rfl⟩
        · exact ⟨[], c :: back, rfl, by rw [List.append_nil]⟩
        · exact ⟨c :: middle, rest, rfl, by simp⟩
      · intro hgiven
        obtain ⟨_ | ⟨d, middle⟩, rest, hback, rfl⟩ := hgiven
        · exact .inl (by rw [List.append_nil, hback]; rfl)
        · obtain ⟨rfl, rfl⟩ := List.cons.inj hback
          exact .inr ⟨middle, rest, rfl, by simp⟩

theorem allOf_row (cs : List Char) : Row cs (allOf cs) := (allFrom_row [] cs).1

theorem mem_allOf_iff : a ∈ allOf cs ↔ a.In cs := by
  rw [allOf]
  refine ((allFrom_row [] cs).2 a).trans ?_
  rfl

end Place

/-! ## The search for a pattern -/

namespace Pattern

open Place (Follows)

variable {cs : List Char}

theorem follows_look (l : Look) : Follows cs (look l).Matches (look l).step := by
  have hguard : (look l).step = List.filterMap (Option.guard (Place.satisfies l)) := by
    funext ps
    exact (congrFun List.filterMap_eq_filter ps).symm
  rw [hguard]
  exact Place.follows_filterMap 0 (Place.satisfies_iff l) fun h => congrArg List.length h.1

theorem follows_nothing : Follows cs (fun _ _ _ => False) fun _ => [] where
  row := fun _ => Place.row_nil
  mem := by
    intro ps b _
    constructor
    · intro hb
      exact nomatch hb
    · intro hall
      obtain ⟨a, -, front, stretch, back, -, -, -, h⟩ := hall
      exact h.elim

/-- A repetition goes on from where the least number of stretches ends. -/
theorem follows_iterate {p : Pattern} (hp : Follows cs p.Matches p.step) (min : Nat)
    (max : Option Nat) (greedy : Bool) :
    Follows cs (iterate p min max greedy).Matches (iterate p min max greedy).step := by
  have hfirst := hp.times min
  cases max with
  | some m =>
    refine (hfirst.andThen (hp.upTo (m - min))).congr fun front stretch back => ?_
    -- An upper bound below the lower one leaves no room for more, as in `Matches`.
    have hbound : min + (m - min) = Nat.max min m := by
      show _ = max min m
      omega
    rw [StretchCondition.times_andThen_upTo, hbound]
    exact exists_congr fun k => and_congr_right fun _ => and_congr_left fun _ => by simp
  | none =>
    refine (hfirst.andThen hp.many).congr fun front stretch back => ?_
    rw [StretchCondition.times_andThen_many]
    exact exists_congr fun k => and_congr_right fun _ => by simp

mutual

/-- **The search follows the pattern**: from the places of a row it leads to the places where a
    matching stretch ends, and nowhere else. -/
theorem step_follows : (p : Pattern) → Follows cs p.Matches p.step
  | empty => Place.follows_isEmpty
  | text _ =>
    Place.follows_filterMap _ (Place.follow?_eq_some_iff _) fun h => congrArg List.length h
  | set _ =>
    Place.follows_filterMap 1 (Place.advance?_eq_some_iff _) fun ⟨_, h, _⟩ => congrArg List.length h
  | look l => follows_look l
  | capture _ p => step_follows p
  | iterate p min max greedy => follows_iterate (step_follows p) min max greedy
  | concat ps => stepAll_follows ps
  | either ps => stepAny_follows ps

theorem stepAll_follows : (ps : List Pattern) → Follows cs (MatchesAll ps) (stepAll ps)
  | [] => Place.follows_isEmpty
  | p :: ps => (step_follows p).andThen (stepAll_follows ps)

theorem stepAny_follows : (ps : List Pattern) → Follows cs (MatchesAny ps) (stepAny ps)
  | [] => follows_nothing
  | p :: ps => (step_follows p).orElse (stepAny_follows ps)

end

/-- Unless the search stops inside a character, it finds a pattern in a text just when some stretch
    of the text matches. -/
theorem isMatch_iff {p : Pattern} {cs : List Char} (h : p.stopsInside cs = false) :
    p.isMatch cs = true ↔
      ∃ front stretch back, cs = front ++ stretch ++ back ∧ p.Matches front stretch back := by
  have hfollows : Follows cs p.Matches p.step := step_follows p
  have hmem {b : Place} := hfollows.mem (b := b) (Place.allOf_row cs)
  simp only [isMatch, h, Bool.false_eq_true, if_false, Bool.not_eq_true',
    List.isEmpty_eq_false_iff_exists_mem]
  constructor
  · intro hall
    obtain ⟨b, hb⟩ := hall
    obtain ⟨a, -, front, stretch, back, hcs, -, -, hp⟩ := hmem.mp hb
    exact ⟨front, stretch, back, hcs, hp⟩
  · intro hall
    obtain ⟨front, stretch, back, hcs, hp⟩ := hall
    refine ⟨Place.between (front ++ stretch) back, hmem.mpr
      ⟨Place.between front (stretch ++ back), Place.mem_allOf_iff.mpr ?_, front, stretch, back, hcs,
        rfl, rfl, hp⟩⟩
    exact ⟨front, stretch ++ back, by rw [hcs, List.append_assoc], rfl⟩

/-! ## Sequences in normal form -/

theorem matchesAll_append (ps qs : List Pattern) :
    MatchesAll (ps ++ qs) = (MatchesAll ps).andThen (MatchesAll qs) := by
  induction ps with
  | nil => exact StretchCondition.isEmpty_andThen.symm
  | cons p ps ih =>
    rw [List.cons_append, MatchesAll, MatchesAll, ih, StretchCondition.andThen_assoc]

theorem matchesAll_singleton (p : Pattern) : MatchesAll [p] = p.Matches :=
  StretchCondition.andThen_isEmpty

theorem matchesAll_items (p : Pattern) : MatchesAll p.items = p.Matches := by
  cases p with
  | empty => rfl
  | concat ps => rfl
  | _ => exact matchesAll_singleton _

/-- A text joined with the text behind it matches the same stretches. -/
theorem matchesAll_joinText (p : Pattern) (ps : List Pattern) :
    MatchesAll (joinText p ps) = p.Matches.andThen (MatchesAll ps) := by
  unfold joinText
  split
  · next cs ds ps =>
    show (text (cs ++ ds)).Matches.andThen (MatchesAll ps) =
      (text cs).Matches.andThen ((text ds).Matches.andThen (MatchesAll ps))
    -- What follows the two texts is the same on both sides.
    rw [← StretchCondition.andThen_assoc]
    refine congrArg (StretchCondition.andThen · (MatchesAll ps)) ?_
    funext front stretch back
    refine propext ⟨?_, ?_⟩
    · rintro rfl
      exact ⟨cs, ds, rfl, rfl, rfl⟩
    · intro h
      obtain ⟨_, _, rfl, rfl, rfl⟩ := h
      rfl
  · rfl

theorem matchesAll_joined (ps : List Pattern) :
    MatchesAll (ps.foldr joinText []) = MatchesAll ps := by
  induction ps with
  | nil => rfl
  | cons p ps ih => rw [List.foldr_cons, matchesAll_joinText, ih, MatchesAll]

theorem matchesAll_flatMap_items (ps : List Pattern) :
    MatchesAll (ps.flatMap items) = MatchesAll ps := by
  induction ps with
  | nil => rfl
  | cons p ps ih => rw [List.flatMap_cons, matchesAll_append, matchesAll_items, ih, MatchesAll]

/-- Normal form does not change what a sequence matches. -/
theorem matches_ofConcat (ps : List Pattern) : (ofConcat ps).Matches = MatchesAll ps := by
  rw [← matchesAll_flatMap_items ps, ← matchesAll_joined]
  unfold ofConcat
  split
  · next h => rw [h]; rfl
  · next p h => rw [h, matchesAll_singleton]
  · rfl

end Pattern

end KotlinMetadata
