import KotlinMetadata.Pattern.Matcher
import KotlinMetadata.Proofs.PatternChoice
import KotlinMetadata.Proofs.PatternMatch

/-! # Patterns between anchors

    The test for a pattern puts anchors around its text, in a group of its own, and reads the
    whole.  Most texts then mean what they mean alone, from end to end.  Two things go through the
    group: a comment that is open where the text ends takes in the closing parenthesis, and a
    parenthesis that the text closes and does not open ends the group early.

    - `Pattern.EndsInComment`: a comment is open where the text ends;
    - `Pattern.ofText?_anchoredText_iff`, `Pattern.groupUnopened_of_anchored`: what the text between
      anchors is read as;
    - `Pattern.isMatch_anchored_iff`: between anchors a text matches as a whole;
    - `NameTest.anchored_exact`: which texts are accepted as tests, and for which spans they hold.
-/

namespace KotlinMetadata

namespace Pattern

/-! ## The text between anchors -/

/-- A pattern text between anchors, in a group of its own. -/
def anchoredText (text : List Char) : List Char := "^(?:".toList ++ text ++ ")$".toList

theorem anchoredText_eq (text : List Char) :
    anchoredText text = '^' :: '(' :: '?' :: ':' :: (text ++ closing) := by
  have hopen : "^(?:".toList = ['^', '(', '?', ':'] := by decide
  have hclose : ")$".toList = closing := by decide
  rw [anchoredText, hopen, hclose]
  rfl

/-- The tree of a pattern between anchors. -/
def anchoredTree (tree : Tree) : Tree :=
  .concat [.atom (.anchor .caret), .group (.plain []) tree, .atom (.anchor .dollar)]

theorem depth_anchoredTree (tree : Tree) : (anchoredTree tree).depth = tree.depth + 2 := by
  simp [anchoredTree, Tree.depth, Tree.depthOfList]

theorem captureNames_anchoredTree (tree : Tree) :
    (anchoredTree tree).captureNames = tree.captureNames := by
  simp [anchoredTree, Tree.captureNames, Tree.captureNamesOfList]

theorem ofText?_eq_ok_iff {cs : List Char} {tree : Tree} :
    Tree.ofText? cs = .ok tree ↔
      choice (cs.length + 1) false {} cs = .ok (tree, []) ∧ tree.captureNames.Nodup ∧
        tree.depth ≤ depthLimit := by
  unfold Tree.ofText?
  rcases choice (cs.length + 1) false {} cs with e | ⟨tree', rest⟩
  · simp [bind, Except.bind]
  · rcases rest with _ | ⟨c, rest⟩
    · by_cases hnames : tree'.captureNames.Nodup
      · by_cases hdepth : tree'.depth ≤ depthLimit
        · have hle : ¬ depthLimit < tree'.depth := Nat.not_lt.mpr hdepth
          simp only [bind, Except.bind, pure, Except.pure, hnames, hle, List.isEmpty_nil,
            Bool.not_true, Bool.false_eq_true, decide_true, if_false, Except.ok.injEq,
            Prod.mk.injEq, and_true]
          constructor
          · rintro rfl
            exact ⟨rfl, hnames, hdepth⟩
          · intro h
            obtain ⟨rfl, -, -⟩ := h
            rfl
        · have hlt : depthLimit < tree'.depth := Nat.not_le.mp hdepth
          simp [bind, Except.bind, hnames, hlt]
          rintro rfl -
          exact hlt
      · simp [bind, Except.bind, hnames]
        rintro rfl hnodup
        exact absurd hnodup hnames
    · simp [bind, Except.bind]

theorem choice_anchoredText (n : Nat) (text : List Char) :
    choice (n + 2) false {} (anchoredText text) =
      (choice n false {} (text ++ closing)).bind fun (body, rest) =>
        match rest with
        | ')' :: rest =>
          choice n false
            { items := [.group (.plain []) body, .atom (.anchor .caret)] } rest
        | _ => .error .groupUnclosed := by
  rw [anchoredText_eq, choice]
  rfl

theorem choice_dollar (n : Nat) (body : Tree) :
    choice (n + 2) false { items := [.group (.plain []) body, .atom (.anchor .caret)] } ['$'] =
      .ok (anchoredTree body, []) := rfl

theorem choice_eq_ok_iff {n : Nat} {verbose : Bool} {state : ChoiceState} {cs rest : List Char}
    {tree : Tree} :
    choice n verbose state cs = .ok (tree, rest) ↔
      ∃ inside left, choiceEnd n verbose state cs = .ok ((tree, inside), left) ∧
        skip inside left = rest := by
  rw [choice_eq, map_eq_ok_iff]
  constructor
  · intro hall
    obtain ⟨⟨⟨tree', inside⟩, left⟩, h, heq⟩ := hall
    obtain ⟨rfl, rfl⟩ := Prod.mk.inj heq
    exact ⟨inside, left, h, rfl⟩
  · intro hall
    obtain ⟨inside, left, h, rfl⟩ := hall
    exact ⟨_, h, rfl⟩

/-! ## Comments that are not closed -/

/-- A comment begins in the text and no line ends after it. -/
def CommentOpen (cs : List Char) : Prop :=
  ∃ front back, cs = front ++ '#' :: back ∧ '\n' ∉ back

/-- A pattern text is read in verbose mode to its end, and a comment is open there. -/
def EndsInComment (text : List Char) : Prop :=
  ∃ tree left, choiceEnd (text.length + 1) false {} text = .ok ((tree, true), left) ∧
    CommentOpen left

theorem commentOpen_cons_iff {c : Char} {cs : List Char} :
    CommentOpen (c :: cs) ↔ (c = '#' ∧ '\n' ∉ cs) ∨ CommentOpen cs := by
  constructor
  · intro h
    obtain ⟨_ | ⟨d, front⟩, back, heq, hback⟩ := h
    · obtain ⟨rfl, rfl⟩ := List.cons.inj heq
      exact .inl ⟨rfl, hback⟩
    · obtain ⟨rfl, rfl⟩ := List.cons.inj heq
      exact .inr ⟨front, back, rfl, hback⟩
  · intro h
    rcases h with ⟨rfl, hcs⟩ | ⟨front, back, rfl, hback⟩
    · exact ⟨[], cs, rfl, hcs⟩
    · exact ⟨c :: front, back, rfl, hback⟩

/-- Where nothing but blanks is left, the parenthesis is passed over just when it stands in a
    comment. -/
theorem dropBlank_closing_eq_nil_iff {inComment : Bool} {cs : List Char}
    (h : dropBlank inComment cs = []) :
    dropBlank inComment (cs ++ closing) = [] ↔
      (inComment = true ∧ '\n' ∉ cs) ∨ CommentOpen cs := by
  induction cs generalizing inComment with
  | nil =>
    have hnone : ¬ CommentOpen [] := fun ⟨front, back, heq, _⟩ => by simp at heq
    cases inComment with
    | false =>
      have hparen : dropBlank false closing ≠ [] := by decide
      simp [hparen, hnone]
    | true =>
      have hparen : dropBlank true closing = [] := by decide
      simp [hparen]
  | cons c cs ih =>
    rw [List.cons_append, dropBlank]
    rw [dropBlank] at h
    rw [commentOpen_cons_iff]
    by_cases hcomment : inComment = true
    · simp only [hcomment, if_true] at h ⊢
      rw [ih h]
      -- The comment goes on unless its line ends here.
      by_cases hline : c = '\n'
      · simp [hline]
      · simp only [List.mem_cons, Ne.symm hline, false_or, bne_iff_ne, ne_eq, hline,
          not_false_eq_true, true_and]
        constructor
        · intro hall
          rcases hall with hcs | hopen
          · exact .inl hcs
          · exact .inr (.inr hopen)
        · intro hall
          rcases hall with hcs | ⟨-, hcs⟩ | hopen
          · exact .inl hcs
          · exact .inl hcs
          · exact .inr hopen
    · simp only [hcomment, Bool.false_eq_true, if_false, false_and, false_or] at h ⊢
      by_cases hhash : c = '#'
      · simp only [hhash, if_true] at h ⊢
        rw [ih h]
        simp
      · simp only [hhash, if_false, false_and, false_or] at h ⊢
        by_cases hspace : Text.isWhiteSpace c = true
        · simp only [hspace, if_true] at h ⊢
          rw [ih h]
          simp
        · simp [hspace] at h

/-- Where a pattern text ends, the parenthesis behind it is the next sign or stands in a comment. -/
theorem skip_append_closing {inside : Bool} {left : List Char} (h : skip inside left = []) :
    (skip inside (left ++ closing) = [] ∧ inside = true ∧ CommentOpen left) ∨
      (skip inside (left ++ closing) = [')', '$'] ∧ ¬ (inside = true ∧ CommentOpen left)) := by
  have hopen (hinside : inside = true) :
      skip inside (left ++ closing) = [] ↔ CommentOpen left := by
    subst hinside
    exact (dropBlank_closing_eq_nil_iff h).trans (by simp)
  rcases skip_closing inside left with ⟨c, rest, hskip, -⟩ | ⟨-, hback | hback⟩
  · rw [h] at hskip
    cases hskip
  · refine .inr ⟨hback, fun ⟨hinside, hcomment⟩ => ?_⟩
    rw [(hopen hinside).mpr hcomment] at hback
    cases hback
  · have hinside : inside = true := by
      cases inside with
      | false => simp [skip] at hback
      | true => rfl
    exact .inl ⟨hback, hinside, (hopen hinside).mp hback⟩

/-! ## Reading a pattern between anchors -/

/-- A pattern text that is read to its end is read so between anchors, but for a comment that takes
    in the parenthesis. -/
theorem choice_anchored_of_end {text : List Char} {tree : Tree} {n : Nat}
    (h : choice (text.length + 1) false {} text = .ok (tree, [])) (hn : text.length < n) :
    (EndsInComment text ∧ choice n false {} (text ++ closing) = .ok (tree, [])) ∨
      (¬ EndsInComment text ∧ choice n false {} (text ++ closing) = .ok (tree, [')', '$'])) := by
  obtain ⟨inside, left, hend, hskip⟩ := choice_eq_ok_iff.mp h
  have hback : choiceEnd n false {} (text ++ closing) = .ok ((tree, inside), left ++ closing) :=
    (choiceEnd_local n false {}).mpr (choiceEnd_bound hn hend)
  have hcomment : EndsInComment text ↔ inside = true ∧ CommentOpen left := by
    constructor
    · intro hall
      obtain ⟨tree', left', hend', hopen⟩ := hall
      rw [hend] at hend'
      cases hend'
      exact ⟨rfl, hopen⟩
    · intro hall
      obtain ⟨rfl, hopen⟩ := hall
      exact ⟨tree, left, hend, hopen⟩
  rw [hcomment]
  rcases skip_append_closing hskip with ⟨hnil, hopen⟩ | ⟨hparen, hopen⟩
  · exact .inl ⟨hopen, choice_eq_ok_iff.mpr ⟨inside, _, hback, hnil⟩⟩
  · exact .inr ⟨hopen, choice_eq_ok_iff.mpr ⟨inside, _, hback, hparen⟩⟩

/-- A group around the text that is read to a parenthesis ends at the one behind the text, and the
    text is a pattern, or at one within the text, and this one has no counterpart there. -/
theorem choice_of_anchored {text after : List Char} {tree : Tree} {n : Nat}
    (h : choice n false {} (text ++ closing) = .ok (tree, ')' :: after)) :
    (choice (text.length + 1) false {} text = .ok (tree, []) ∧ after = ['$']) ∨
      ∃ rest, choice (text.length + 1) false {} text = .ok (tree, ')' :: rest) := by
  obtain ⟨inside, left, hend, hskip⟩ := choice_eq_ok_iff.mp h
  have hsuffix := choiceEnd_suffix hend
  have hparen : ')' :: after <:+ left := hskip ▸ skip_suffix inside left
  -- The last sign of all is no parenthesis, so something stands behind this one.
  have hafter : after ≠ [] := by
    rintro rfl
    obtain ⟨front, heq⟩ := hparen.trans hsuffix
    have hlast := congrArg List.getLast? heq
    simp [closing] at hlast
  have htwo : 2 ≤ left.length :=
    Nat.le_trans (Nat.succ_le_succ (List.length_pos_iff.mpr hafter)) hparen.length_le
  obtain ⟨left, rfl, -⟩ := exists_of_suffix_append hsuffix htwo
  have halone : choiceEnd (text.length + 1) false {} text = .ok ((tree, inside), left) :=
    choiceEnd_bound (Nat.lt_succ_self _) ((choiceEnd_local n false {}).mp hend)
  rcases skip_closing inside left with ⟨c, rest, hrest, hback⟩ | ⟨hnil, hback | hback⟩
  · rw [hskip] at hback
    obtain ⟨rfl, -⟩ := List.cons.inj hback
    exact .inr ⟨rest, choice_eq_ok_iff.mpr ⟨inside, left, halone, hrest⟩⟩
  · rw [hskip] at hback
    obtain ⟨-, rfl⟩ := List.cons.inj hback
    exact .inl ⟨choice_eq_ok_iff.mpr ⟨inside, left, halone, hnil⟩, rfl⟩
  · rw [hskip] at hback
    cases hback

theorem choice_anchoredText_eq_ok_iff {n : Nat} {text : List Char} {tree : Tree} :
    choice (n + 2) false {} (anchoredText text) = .ok (tree, []) ↔
      ∃ body after, choice n false {} (text ++ closing) = .ok (body, ')' :: after) ∧
        choice n false { items := [.group (.plain []) body, .atom (.anchor .caret)] } after =
          .ok (tree, []) := by
  rw [choice_anchoredText]
  refine bind_eq_ok_iff.trans ?_
  constructor
  · intro hall
    obtain ⟨⟨body, rest⟩, hbody, h⟩ := hall
    simp only at h
    split at h
    · next after => exact ⟨body, after, hbody, h⟩
    · cases h
  · intro hall
    obtain ⟨body, after, hbody, h⟩ := hall
    exact ⟨_, hbody, h⟩

/-- The number of signs that the text between anchors is read with. -/
theorem length_anchoredText (text : List Char) :
    (anchoredText text).length + 1 = text.length + 5 + 2 := by
  rw [anchoredText_eq]
  simp [closing]

/-- What a pattern text between anchors is read as. -/
theorem ofText?_anchoredText_iff {text : List Char} {tree body : Tree}
    (h : Tree.ofText? text = .ok body) :
    Tree.ofText? (anchoredText text) = .ok tree ↔
      ¬ EndsInComment text ∧ body.depth + 2 ≤ depthLimit ∧ anchoredTree body = tree := by
  obtain ⟨halone, hnames, -⟩ := ofText?_eq_ok_iff.mp h
  rw [ofText?_eq_ok_iff, length_anchoredText, choice_anchoredText_eq_ok_iff]
  have hlong : text.length < text.length + 5 := Nat.lt_add_of_pos_right (by decide)
  rcases choice_anchored_of_end halone hlong with ⟨hcomment, hbody⟩ | ⟨hcomment, hbody⟩
  · constructor
    · intro hall
      obtain ⟨⟨body', after, hbody', -⟩, -⟩ := hall
      rw [hbody] at hbody'
      cases hbody'
    · intro hall
      obtain ⟨hno, -⟩ := hall
      exact absurd hcomment hno
  · constructor
    · intro hall
      obtain ⟨⟨body', after, hbody', hafter⟩, -, hdepth⟩ := hall
      rw [hbody] at hbody'
      cases hbody'
      rw [choice_dollar (text.length + 3)] at hafter
      cases hafter
      rw [depth_anchoredTree] at hdepth
      exact ⟨hcomment, hdepth, rfl⟩
    · intro hall
      obtain ⟨-, hdepth, rfl⟩ := hall
      refine ⟨⟨body, ['$'], hbody, choice_dollar (text.length + 3) body⟩, ?_, ?_⟩
      · rw [captureNames_anchoredTree]
        exact hnames
      · rw [depth_anchoredTree]
        exact hdepth

/-- A text that is read between anchors and not alone closes a group that it does not open. -/
theorem groupUnopened_of_anchored {text : List Char} {tree : Tree} {e : PatternError}
    (hok : Tree.ofText? (anchoredText text) = .ok tree) (h : Tree.ofText? text = .error e) :
    e = .groupUnopened := by
  obtain ⟨hread, hnames, hdepth⟩ := ofText?_eq_ok_iff.mp hok
  rw [length_anchoredText, choice_anchoredText_eq_ok_iff] at hread
  obtain ⟨body, after, hbody, hafter⟩ := hread
  -- A group that ends at the parenthesis behind the text would make the text a pattern.
  rcases choice_of_anchored hbody with ⟨halone, rfl⟩ | ⟨rest, halone⟩
  · rw [choice_dollar (text.length + 3)] at hafter
    cases hafter
    rw [captureNames_anchoredTree] at hnames
    rw [depth_anchoredTree] at hdepth
    have hok : Tree.ofText? text = .ok body :=
      ofText?_eq_ok_iff.mpr ⟨halone, hnames, by omega⟩
    rw [h] at hok
    cases hok
  · rw [Tree.ofText?, halone] at h
    cases h
    rfl

/-! ## Matching between anchors -/

/-- A pattern between the start and the end of a text. -/
def anchored (p : Pattern) : Pattern := ofConcat [look .textStart, p, look .textEnd]

/-- A text as a whole matches a pattern. -/
def MatchesWhole (p : Pattern) (cs : List Char) : Prop := p.Matches [] cs []

theorem toPattern_anchoredTree (tree : Tree) :
    (anchoredTree tree).toPattern { flags := {} } =
      (tree.toPattern { flags := {} }).map fun (p, after) => (anchored p, after.withFlags {}) := by
  have hflags : Reading.withFlags { flags := {} } (Flags.change {} []) = { flags := {} } := rfl
  have hcaret : Atom.toPattern {} (.anchor .caret) = .ok (look .textStart) := rfl
  simp only [anchoredTree, Tree.toPattern, Tree.toPatterns, hcaret, bind, Except.bind, pure,
    Except.pure, hflags]
  rcases tree.toPattern { flags := {} } with e | ⟨p, after⟩
  · rfl
  · rfl

theorem matches_textStart_iff {front stretch back : List Char} :
    (look .textStart).Matches front stretch back ↔ stretch = [] ∧ front = [] := by
  show stretch = [] ∧ front.getLast?.isNone = true ↔ _
  rw [Option.isNone_iff_eq_none, List.getLast?_eq_none_iff]

theorem matches_textEnd_iff {front stretch back : List Char} :
    (look .textEnd).Matches front stretch back ↔ stretch = [] ∧ back = [] := by
  show stretch = [] ∧ back.head?.isNone = true ↔ _
  rw [Option.isNone_iff_eq_none, List.head?_eq_none_iff]

theorem matches_anchored_iff {p : Pattern} {front stretch back : List Char} :
    (anchored p).Matches front stretch back ↔
      front = [] ∧ back = [] ∧ p.MatchesWhole stretch := by
  rw [anchored, matches_ofConcat]
  constructor
  · intro h
    obtain ⟨_, _, rfl, hstart, stretch, _, rfl, hp, _, _, rfl, hend, rfl⟩ := h
    obtain ⟨rfl, rfl⟩ := matches_textStart_iff.mp hstart
    obtain ⟨rfl, rfl⟩ := matches_textEnd_iff.mp hend
    simpa [MatchesWhole] using hp
  · intro h
    obtain ⟨rfl, rfl, hp⟩ := h
    exact ⟨[], stretch, rfl, matches_textStart_iff.mpr ⟨rfl, rfl⟩, stretch, [], by simp, hp, [], [],
      rfl, matches_textEnd_iff.mpr ⟨rfl, rfl⟩, rfl⟩

/-- The start of the text is no place inside a character, so the search does not stop there. -/
theorem stopsInside_anchored (p : Pattern) (cs : List Char) :
    (anchored p).stopsInside cs = false := by
  have hinside : (anchored p).matchesInside = false := by
    -- The condition in front is no text, so it is not joined with anything.
    have hitems : ([look .textStart, p, look .textEnd].flatMap items).foldr joinText [] =
        look .textStart :: ((p.items ++ [look .textEnd]).foldr joinText []) := by
      simp [items, joinText]
    rw [anchored, ofConcat, hitems]
    cases (p.items ++ [look .textEnd]).foldr joinText [] with
    | nil => rfl
    | cons q qs => rfl
  rw [stopsInside, hinside, Bool.false_and]

/-- A pattern between anchors is found in a text just when the text as a whole matches. -/
theorem isMatch_anchored_iff {p : Pattern} {cs : List Char} :
    (anchored p).isMatch cs = true ↔ p.MatchesWhole cs := by
  rw [isMatch_iff (stopsInside_anchored p cs)]
  constructor
  · intro hall
    obtain ⟨front, stretch, back, rfl, h⟩ := hall
    obtain ⟨rfl, rfl, hp⟩ := matches_anchored_iff.mp h
    simpa using hp
  · intro h
    exact ⟨[], cs, [], by simp, matches_anchored_iff.mpr ⟨rfl, rfl, h⟩⟩

/-- A text is a pattern on its own: it is read as a tree, and the tree stands for a pattern. -/
def Denotes (text : List Char) (tree : Tree) (p : Pattern) : Prop :=
  Tree.ofText? text = .ok tree ∧ ∃ after, tree.toPattern { flags := {} } = .ok (p, after)

end Pattern

/-! ## Tests between anchors -/

namespace NameTest

open Pattern (anchored Denotes EndsInComment depthLimit)

theorem ofPattern?_eq_ok_iff {text : List Char} {test : NameTest} :
    ofPattern? text = .ok test ↔ ∃ tree p after,
      Pattern.Tree.ofText? (Pattern.anchoredText text) = .ok tree ∧
        tree.toPattern { flags := {} } = .ok (p, after) ∧ p.fits = true ∧ .pattern p = test := by
  show (Pattern.ofText? (Pattern.anchoredText text)).map .pattern = .ok test ↔ _
  rw [Pattern.map_eq_ok_iff]
  unfold Pattern.ofText?
  constructor
  · intro hall
    obtain ⟨p', h, rfl⟩ := hall
    obtain ⟨tree, htree, h⟩ := Pattern.bind_eq_ok_iff.mp h
    obtain ⟨⟨p, after⟩, hp, h⟩ := Pattern.bind_eq_ok_iff.mp h
    simp only at h
    split at h
    · next hfits =>
      obtain rfl := Except.ok.inj h
      exact ⟨tree, p, after, htree, hp, hfits, rfl⟩
    · cases h
  · intro hall
    obtain ⟨tree, p, after, htree, hp, hfits, rfl⟩ := hall
    refine ⟨p, ?_, rfl⟩
    refine Pattern.bind_eq_ok_iff.mpr ⟨tree, htree, Pattern.bind_eq_ok_iff.mpr ⟨_, hp, ?_⟩⟩
    simp only [hfits, if_true]
    rfl

/-- What becomes of a text that is a pattern on its own. -/
theorem ofPattern?_of_denotes {text : List Char} {tree : Pattern.Tree} {p : Pattern}
    {test : NameTest} (h : Denotes text tree p) :
    ofPattern? text = .ok test ↔ ¬ EndsInComment text ∧ tree.depth + 2 ≤ depthLimit ∧
      (anchored p).fits = true ∧ .pattern (anchored p) = test := by
  obtain ⟨htree, after, hp⟩ := h
  have hanchored : (Pattern.anchoredTree tree).toPattern { flags := {} } =
      .ok (anchored p, after.withFlags {}) := by
    rw [Pattern.toPattern_anchoredTree, hp]
    rfl
  rw [ofPattern?_eq_ok_iff]
  constructor
  · intro hall
    obtain ⟨tree', p', after', hread, hp', hfits, rfl⟩ := hall
    obtain ⟨hcomment, hdepth, rfl⟩ := (Pattern.ofText?_anchoredText_iff htree).mp hread
    rw [hanchored] at hp'
    cases hp'
    exact ⟨hcomment, hdepth, hfits, rfl⟩
  · intro hall
    obtain ⟨hcomment, hdepth, hfits, rfl⟩ := hall
    exact ⟨_, _, _, (Pattern.ofText?_anchoredText_iff htree).mpr ⟨hcomment, hdepth, rfl⟩, hanchored,
      hfits, rfl⟩

/-- A text that is accepted and is no pattern on its own closes a group that it does not open. -/
theorem groupUnopened_of_ofPattern? {text : List Char} {test : NameTest}
    (h : ofPattern? text = .ok test) (hno : ∀ tree p, ¬ Denotes text tree p) :
    Pattern.Tree.ofText? text = .error .groupUnopened := by
  obtain ⟨tree, p, after, hread, hp, -, -⟩ := ofPattern?_eq_ok_iff.mp h
  cases htree : Pattern.Tree.ofText? text with
  | error e => rw [Pattern.groupUnopened_of_anchored hread htree]
  | ok body =>
    -- A text that is read alone stands for a pattern if it does so between anchors.
    obtain ⟨-, -, rfl⟩ := (Pattern.ofText?_anchoredText_iff htree).mp hread
    rw [Pattern.toPattern_anchoredTree] at hp
    obtain ⟨⟨p', after'⟩, hbody, -⟩ := Pattern.map_eq_ok_iff.mp hp
    exact absurd ⟨htree, after', hbody⟩ (hno body p')

theorem holds_anchored_iff {p : Pattern} {q : Query} :
    (pattern (anchored p)).holds q = true ↔
      ∃ stretch, q.stretch? = some stretch ∧ p.MatchesWhole stretch := by
  unfold holds
  cases q.stretch? with
  | none => simp
  | some stretch => simpa [accepts] using Pattern.isMatch_anchored_iff

/-- **Tests between anchors**: a text that is a pattern on its own is accepted unless it ends in a
    comment or is too deep or too large with its anchors, and the test then holds for the spans that
    match it as a whole and for no others.  Any other text that is accepted closes a group that it
    does not open. -/
theorem anchored_exact (text : List Char) :
    (∀ tree p, Denotes text tree p →
      ((∃ test, ofPattern? text = .ok test) ↔
        ¬ EndsInComment text ∧ tree.depth + 2 ≤ depthLimit ∧ (anchored p).fits = true) ∧
      ∀ test, ofPattern? text = .ok test → ∀ q,
        test.holds q = true ↔ ∃ stretch, q.stretch? = some stretch ∧ p.MatchesWhole stretch) ∧
    ((∀ tree p, ¬ Denotes text tree p) → ∀ test, ofPattern? text = .ok test →
      Pattern.Tree.ofText? text = .error .groupUnopened) := by
  refine ⟨fun tree p h => ⟨?_, ?_⟩, fun hno test htest => groupUnopened_of_ofPattern? htest hno⟩
  · simp only [ofPattern?_of_denotes h]
    constructor
    · intro hall
      obtain ⟨test, hcomment, hdepth, hfits, -⟩ := hall
      exact ⟨hcomment, hdepth, hfits⟩
    · intro hall
      obtain ⟨hcomment, hdepth, hfits⟩ := hall
      exact ⟨_, hcomment, hdepth, hfits, rfl⟩
  · intro test htest q
    obtain ⟨-, -, -, rfl⟩ := (ofPattern?_of_denotes h).mp htest
    exact holds_anchored_iff

/-- A choice in a pattern does not reach the anchors: `a|bc` holds for `bc` and not for `abc`. -/
theorem anchored_exact_of_choice :
    ∃ test, ofPattern? ['a', '|', 'b', 'c'] = .ok test ∧
      test.holds { text := ['b', 'c'] } = true ∧
      test.holds { text := ['a', 'b', 'c'] } = false := by
  have hdenotes : Denotes ['a', '|', 'b', 'c']
      (.either [.atom (.literal ⟨'a', false⟩),
        .concat [.atom (.literal ⟨'b', false⟩), .atom (.literal ⟨'c', false⟩)]])
      (.either [.text ['a'], .text ['b', 'c']]) := ⟨rfl, _, rfl⟩
  have hcomment : ¬ EndsInComment ['a', '|', 'b', 'c'] := by
    intro hgiven
    obtain ⟨tree, left, h, -⟩ := hgiven
    cases h
  obtain ⟨haccepted, hholds⟩ := (anchored_exact ['a', '|', 'b', 'c']).1 _ _ hdenotes
  obtain ⟨test, htest⟩ := haccepted.mpr ⟨hcomment, by decide, rfl⟩
  refine ⟨test, htest, (hholds test htest _).mpr ⟨['b', 'c'], rfl, .inr (.inl rfl)⟩, ?_⟩
  refine Bool.eq_false_iff.mpr fun hall => ?_
  obtain ⟨_, hstretch, h⟩ := (hholds test htest _).mp hall
  cases hstretch
  rcases h with h | h | h
  · cases h
  · cases h
  · exact h

/-- Anchors do not guard a pattern on every text: `a)|(?:b` is accepted and no pattern, and it holds
    for `ax` by the start alone; a pattern that ends in a comment is refused. -/
theorem anchors_let_through :
    ((∃ test, ofPattern? ['a', ')', '|', '(', '?', ':', 'b'] = .ok test ∧
        test.holds { text := ['a', 'x'] } = true) ∧
      ∀ tree p, ¬ Denotes ['a', ')', '|', '(', '?', ':', 'b'] tree p) ∧
    (∃ tree p, Denotes ['(', '?', 'x', ')', 'a', '#'] tree p) ∧
      ∀ test, ofPattern? ['(', '?', 'x', ')', 'a', '#'] ≠ .ok test := by
  refine ⟨⟨⟨_, rfl, rfl⟩, ?_⟩, ⟨_, _, rfl, _, rfl⟩, ?_⟩
  · rintro tree p ⟨h, -⟩
    cases h
  · intro test h
    cases h

end NameTest

end KotlinMetadata
