import Mathlib.Data.List.Forall2
import Mathlib.Data.List.TakeWhile
import KotlinMetadata.Integrity.Config

/-! # Lists of constraints by name

    A list of names between commas replaces the constraints of a configuration, all of them or none.
    What its entries are is said here without the functions that find them.

    - `Text.Cut`, `Text.TrimsTo`: stretches between commas, and a stretch without the white space
      around it;
    - `Text.Lists`, `Text.lists_iff`: the entries of a list, of which there is one account only;
    - `ConfigEdit.applyList`: the list applied name by name, with one write after the other;
    - `Config.applyList_exact`: what comes of it, for every list, and of the environment.
-/

namespace KotlinMetadata

/-! ## Entries -/

namespace Text

/-- A text cut at its commas. -/
structure Cut (text : List Char) (stretches : List (List Char)) : Prop where
  /-- There is a stretch before the first comma. -/
  notEmpty : stretches ≠ []
  /-- The stretches with commas between them are the text. -/
  whole : [','].intercalate stretches = text
  /-- No stretch has a comma in it. -/
  noComma : ∀ stretch ∈ stretches, ',' ∉ stretch

/-- All characters are white space. -/
def Blank (cs : List Char) : Prop := ∀ c ∈ cs, isWhiteSpace c = true

/-- No white space stands at either end. -/
structure Bare (cs : List Char) : Prop where
  head : ∀ c ∈ cs.head?, isWhiteSpace c = false
  last : ∀ c ∈ cs.reverse.head?, isWhiteSpace c = false

/-- The entry is the stretch without the white space around it. -/
def TrimsTo (stretch entry : List Char) : Prop :=
  Bare entry ∧ ∃ before after, Blank before ∧ Blank after ∧ stretch = before ++ entry ++ after

/-- A list written with commas has these entries: those of its stretches that are not empty when
    trimmed. -/
def Lists (list : String) (names : List String) : Prop :=
  ∃ stretches entries, Cut list.toList stretches ∧ List.Forall₂ TrimsTo stretches entries ∧
    names = (entries.filter (· ≠ [])).map String.ofList

/-! ### Cutting -/

theorem splitCommas_eq_splitOn (cs : List Char) : splitCommas cs = cs.splitOn ',' := by
  induction cs with
  | nil => rfl
  | cons c cs ih =>
    rw [splitCommas, List.splitOn_cons_eq_if_modifyHead, ih]
    obtain ⟨piece, rest, hsplit⟩ := List.exists_cons_of_ne_nil (List.splitOn_ne_nil ',' cs)
    by_cases hc : c = ','
    · simp [hc]
    · simp [hc, hsplit]

theorem noComma_splitCommas (cs : List Char) : ∀ stretch ∈ splitCommas cs, ',' ∉ stretch := by
  induction cs with
  | nil => simp [splitCommas]
  | cons c cs ih =>
    rw [splitCommas]
    split
    · simpa using ih
    · rename_i hc
      split
      · simpa using Ne.symm hc
      · rename_i piece rest hsplit
        rw [hsplit] at ih
        obtain ⟨hpiece, hrest⟩ := List.forall_mem_cons.mp ih
        refine List.forall_mem_cons.mpr ⟨?_, hrest⟩
        simpa [hpiece] using Ne.symm hc

theorem cut_iff {text : List Char} {stretches : List (List Char)} :
    Cut text stretches ↔ stretches = splitCommas text := by
  constructor
  · rintro ⟨hne, rfl, hcomma⟩
    rw [splitCommas_eq_splitOn]
    exact (List.splitOn_intercalate ',' hcomma hne).symm
  · rintro rfl
    refine ⟨?_, ?_, noComma_splitCommas text⟩
    all_goals rw [splitCommas_eq_splitOn]
    · exact List.splitOn_ne_nil ',' text
    · exact List.intercalate_splitOn ','

/-! ### Trimming -/

theorem trimStart_append_of_blank {before : List Char} (h : Blank before) (cs : List Char) :
    trimStart (before ++ cs) = trimStart cs := by
  have hnil : before.dropWhile isWhiteSpace = [] := List.dropWhile_eq_nil_iff.mpr h
  rw [trimStart, List.dropWhile_append, hnil]
  rfl

/-- What starts with a character that is no white space is left as it is. -/
theorem trimStart_of_head {cs : List Char} (h : ∀ c ∈ cs.head?, isWhiteSpace c = false) :
    trimStart cs = cs := by
  cases cs with
  | nil => rfl
  | cons c cs => exact List.dropWhile_cons_of_neg (by simp [h c rfl])

theorem trimStart_blank {cs : List Char} (h : Blank cs) : trimStart cs = [] :=
  List.dropWhile_eq_nil_iff.mpr h

theorem trim_pad {before entry after : List Char} (hbefore : Blank before) (hentry : Bare entry)
    (hafter : Blank after) : trim (before ++ entry ++ after) = entry := by
  have hback : Blank after.reverse := fun c hc => hafter c (List.mem_reverse.mp hc)
  rw [trim, List.append_assoc, trimStart_append_of_blank hbefore]
  cases entry with
  | nil =>
    rw [List.nil_append, trimStart_blank hafter]
    rfl
  | cons c cs =>
    have hstart : trimStart (c :: cs ++ after) = c :: cs ++ after := trimStart_of_head hentry.head
    rw [hstart, List.reverse_append, trimStart_append_of_blank hback,
      trimStart_of_head hentry.last, List.reverse_reverse]

/-- What is left at the front after trimming there is no white space. -/
theorem head_trimStart (cs : List Char) : ∀ c ∈ (trimStart cs).head?, isWhiteSpace c = false := by
  intro c hc
  have hhead := List.head?_dropWhile_not isWhiteSpace cs
  rw [trimStart, Option.mem_def] at hc
  rw [hc] at hhead
  simpa using hhead

theorem exists_append_trimStart (cs : List Char) :
    ∃ before, Blank before ∧ cs = before ++ trimStart cs :=
  ⟨cs.takeWhile isWhiteSpace, fun _ hc => List.mem_takeWhile_imp hc,
    List.takeWhile_append_dropWhile.symm⟩

theorem trimsTo_trim (cs : List Char) : TrimsTo cs (trim cs) := by
  obtain ⟨before, hbefore, hfront⟩ := exists_append_trimStart cs
  obtain ⟨after, hafter, hback⟩ := exists_append_trimStart (trimStart cs).reverse
  have hsplit : trimStart cs = trim cs ++ after.reverse := by
    have hreverse := congrArg List.reverse hback
    rwa [List.reverse_reverse, List.reverse_append] at hreverse
  refine ⟨⟨fun c hc => ?_, fun c hc => ?_⟩, before, after.reverse, hbefore, ?_, ?_⟩
  · -- The first character is that of the text trimmed at its front alone.
    refine head_trimStart cs c ?_
    rw [hsplit, List.head?_append, hc]
    rfl
  · rw [trim, List.reverse_reverse] at hc
    exact head_trimStart _ c hc
  · exact fun c hc => hafter c (List.mem_reverse.mp hc)
  · rw [List.append_assoc, ← hsplit]
    exact hfront

theorem trimsTo_iff {stretch entry : List Char} : TrimsTo stretch entry ↔ entry = trim stretch := by
  constructor
  · rintro ⟨hentry, before, after, hbefore, hafter, rfl⟩
    exact (trim_pad hbefore hentry hafter).symm
  · rintro rfl
    exact trimsTo_trim stretch

theorem forall₂_trimsTo_iff {stretches entries : List (List Char)} :
    List.Forall₂ TrimsTo stretches entries ↔ entries = stretches.map trim := by
  constructor
  · intro h
    induction h with
    | nil => rfl
    | cons htrim _ ih => rw [List.map_cons, ← trimsTo_iff.mp htrim, ← ih]
  · rintro rfl
    rw [List.forall₂_map_right_iff, List.forall₂_same]
    exact fun stretch _ => trimsTo_trim stretch

/-- A list has one account of its entries. -/
theorem lists_iff {list : String} {names : List String} :
    Lists list names ↔ names = pieces list := by
  have hfilter : ∀ entries : List (List Char),
      entries.filter (· ≠ []) = entries.filter (!·.isEmpty) := by
    intro entries
    refine List.filter_congr fun entry _ => ?_
    cases entry <;> rfl
  simp only [Lists, cut_iff, forall₂_trimsTo_iff, hfilter, pieces]
  constructor
  · rintro ⟨_, _, rfl, rfl, h⟩
    exact h
  · exact fun h => ⟨_, _, rfl, rfl, h⟩

end Text

/-! ## Names -/

namespace ConstraintKind

theorem ofName_name (kind : ConstraintKind) : ofName (Named.name kind) = .ok kind := by
  cases kind <;> decide

theorem name_injective {kind other : ConstraintKind} (h : Named.name kind = Named.name other) :
    kind = other := by
  have hread := ofName_name kind
  rw [h, ofName_name] at hread
  exact (Except.ok.inj hread).symm

theorem ofName_of_ne {name : String} (h : ∀ kind : ConstraintKind, Named.name kind ≠ name) :
    ofName name = .error (.unknownConstraint name) := by
  have hnone : Named.ofName? (α := ConstraintKind) name = none :=
    List.find?_eq_none.mpr fun kind _ => by simp [h kind]
  rw [ofName, hnone]

/-- The names of constraints have neither white space nor commas in them. -/
theorem plain_name (kind : ConstraintKind) :
    ∀ c ∈ (Named.name kind).toList, Text.isWhiteSpace c = false ∧ c ≠ ',' := by
  have hall : (Named.name kind).toList.all (fun c => !Text.isWhiteSpace c && c != ',') = true := by
    cases kind <;> decide
  intro c hc
  simpa using List.all_eq_true.mp hall c hc

theorem name_ne_empty (kind : ConstraintKind) : (Named.name kind).toList ≠ [] := by
  cases kind <;> decide

theorem mapM_ofName_names (kinds : List ConstraintKind) :
    (kinds.map Named.name).mapM ofName = .ok kinds := by
  induction kinds with
  | nil => rfl
  | cons kind kinds ih => rw [List.map_cons, List.mapM_cons, ofName_name, ih]; rfl

/-- The first name that no constraint has is the one that is reported. -/
theorem mapM_ofName_of_unknown {front : List String} {name : String} (rest : List String)
    (hfront : ∀ n ∈ front, ∃ kind : ConstraintKind, Named.name kind = n)
    (hname : ∀ kind : ConstraintKind, Named.name kind ≠ name) :
    (front ++ name :: rest).mapM ofName = .error (.unknownConstraint name) := by
  induction front with
  | nil => rw [List.nil_append, List.mapM_cons, ofName_of_ne hname]; rfl
  | cons n front ih =>
    obtain ⟨⟨kind, rfl⟩, hrest⟩ := List.forall_mem_cons.mp hfront
    rw [List.cons_append, List.mapM_cons, ofName_name, ih hrest]
    rfl

/-- Names are all known, or there is a first among them that is not. -/
theorem known_or_first_unknown (names : List String) :
    (∃ kinds : List ConstraintKind, names = kinds.map Named.name) ∨
    ∃ front name rest, names = front ++ name :: rest ∧
      (∀ n ∈ front, ∃ kind : ConstraintKind, Named.name kind = n) ∧
      ∀ kind : ConstraintKind, Named.name kind ≠ name := by
  induction names with
  | nil => exact .inl ⟨[], rfl⟩
  | cons name names ih =>
    by_cases hname : ∃ kind : ConstraintKind, Named.name kind = name
    · obtain ⟨kind, rfl⟩ := hname
      rcases ih with ⟨kinds, rfl⟩ | ⟨front, bad, rest, rfl, hfront, hbad⟩
      · exact .inl ⟨kind :: kinds, rfl⟩
      · exact .inr ⟨Named.name kind :: front, bad, rest, rfl,
          List.forall_mem_cons.mpr ⟨⟨kind, rfl⟩, hfront⟩, hbad⟩
    · exact .inr ⟨[], name, names, rfl, nofun, not_exists.mp hname⟩

end ConstraintKind

/-! ## Applying a list -/

/-- Steps on a configuration.  One that breaks off leaves the configuration as it is by then. -/
abbrev ConfigEdit := EStateM ConfigError Config

namespace ConfigEdit

/-- The constraint of a name.  Breaks off if there is none. -/
def constraintOf (name : String) : ConfigEdit ConstraintKind :=
  match ConstraintKind.ofName name with
  | .ok kind => pure kind
  | .error e => throw e

/-- Looks the entries up first to last, and then writes the constraints and, after them, where they
    came from. -/
def applyList (list : String) : ConfigEdit Unit := do
  let constraints ← (Text.pieces list).mapM constraintOf
  modify fun config => { config with constraints }
  modify fun config => { config with source := .environment }

/-- What steps come to, with the configuration that is left: that of before if they break off. -/
def leaving {α : Type} (config : Config) (left : α → Config) :
    Except ConfigError α → EStateM.Result ConfigError Config α
  | .ok a => .ok a (left a)
  | .error e => .error e config

/-- Looking names up writes nothing. -/
theorem run_mapM_constraintOf (names : List String) (config : Config) :
    (names.mapM constraintOf).run config =
      leaving config (fun _ => config) (names.mapM ConstraintKind.ofName) := by
  induction names with
  | nil => rfl
  | cons name names ih =>
    rw [List.mapM_cons, List.mapM_cons, EStateM.run_bind]
    cases hname : ConstraintKind.ofName name with
    | error e =>
      have hrun : (constraintOf name).run config = .error e config := by
        rw [constraintOf, hname]
        rfl
      rw [hrun]
      rfl
    | ok kind =>
      have hrun : (constraintOf name).run config = .ok kind config := by
        rw [constraintOf, hname]
        rfl
      rw [hrun]
      simp only [EStateM.run_bind, ih]
      cases names.mapM ConstraintKind.ofName <;> rfl

/-- Step by step, a list comes to what it comes to at once. -/
theorem run_applyList (list : String) (config : Config) :
    (applyList list).run config =
      match config.applyList list with
      | .ok changed => .ok () changed
      | .error e => .error e config := by
  rw [applyList, EStateM.run_bind, run_mapM_constraintOf, Config.applyList]
  cases (Text.pieces list).mapM ConstraintKind.ofName <;> rfl

end ConfigEdit

/-! ## Padded entries -/

/-- An entry of a list: the name of a constraint or nothing, with white space around it. -/
structure PaddedEntry where
  /-- What stands before the name. -/
  before : List Char
  /-- The constraint, unless the entry is blank. -/
  kind : Option ConstraintKind
  /-- What stands after the name. -/
  after : List Char
  before_blank : Text.Blank before
  after_blank : Text.Blank after

namespace PaddedEntry

/-- The name, if there is one. -/
def name (entry : PaddedEntry) : List Char :=
  match entry.kind with
  | some kind => (Named.name kind).toList
  | none => []

/-- The entry as it is written. -/
def text (entry : PaddedEntry) : List Char := entry.before ++ entry.name ++ entry.after

/-- A list of entries with commas between them. -/
def join (entries : List PaddedEntry) : String :=
  String.ofList ([','].intercalate (entries.map text))

theorem plain_name (entry : PaddedEntry) :
    ∀ c ∈ entry.name, Text.isWhiteSpace c = false ∧ c ≠ ',' := by
  rw [name]
  split
  · rename_i kind _
    exact kind.plain_name
  · exact nofun

theorem noComma_text (entry : PaddedEntry) : ',' ∉ entry.text := by
  have hblank : ∀ cs, Text.Blank cs → ',' ∉ cs := fun cs h hmem =>
    absurd (h ',' hmem) (by decide)
  rw [text, List.mem_append, List.mem_append]
  rintro ((hmem | hmem) | hmem)
  · exact hblank _ entry.before_blank hmem
  · exact (entry.plain_name ',' hmem).2 rfl
  · exact hblank _ entry.after_blank hmem

theorem trim_text (entry : PaddedEntry) : Text.trim entry.text = entry.name := by
  refine Text.trim_pad entry.before_blank ⟨fun c hc => ?_, fun c hc => ?_⟩ entry.after_blank
  · exact (entry.plain_name c (List.mem_of_mem_head? hc)).1
  · exact (entry.plain_name c (List.mem_reverse.mp (List.mem_of_mem_head? hc))).1

/-- Blank entries aside, the entries are the names. -/
theorem filter_names (entries : List PaddedEntry) :
    ((entries.map name).filter (!·.isEmpty)).map String.ofList =
      (entries.filterMap kind).map Named.name := by
  induction entries with
  | nil => rfl
  | cons entry entries ih =>
    cases hkind : entry.kind with
    | none => simpa [name, hkind] using ih
    | some kind =>
      have hne : (Named.name kind).toList ≠ [] := kind.name_ne_empty
      simpa [name, hkind, hne, String.ofList_toList] using ih

theorem pieces_join (entries : List PaddedEntry) :
    Text.pieces (join entries) = (entries.filterMap kind).map Named.name := by
  rw [← filter_names, Text.pieces, join, String.toList_ofList]
  cases entries with
  | nil => rfl
  | cons entry entries =>
    have hcomma : ∀ cs ∈ (entry :: entries).map text, ',' ∉ cs := by
      intro cs hcs
      obtain ⟨e, -, rfl⟩ := List.mem_map.mp hcs
      exact e.noComma_text
    have htrim : Text.trim ∘ text = name := funext trim_text
    rw [Text.splitCommas_eq_splitOn, List.splitOn_intercalate ',' hcomma (by simp),
      List.map_map, htrim]

end PaddedEntry

/-! ## The environment -/

theorem fromUTF8?_toUTF8 (s : String) : String.fromUTF8? s.toUTF8 = some s := by
  have hvalid : s.toUTF8.IsValidUTF8 := s.isValidUTF8
  rw [String.fromUTF8?, dif_pos hvalid]
  rfl

/-- Bytes that encode no text are none. -/
theorem fromUTF8?_of_ne {bytes : ByteArray} (h : ∀ s : String, s.toUTF8 ≠ bytes) :
    String.fromUTF8? bytes = none := by
  rw [String.fromUTF8?, dif_neg]
  exact fun hvalid => h (String.fromUTF8 bytes hvalid) rfl

namespace Config

/-- **Lists of constraints**: a list has exactly one account of its entries.  If all of them are
    names of constraints, the constraints become those, in order and as often as they are named,
    and a constraint is enabled exactly if its name is among the entries.  Otherwise the first
    entry that is no such name is reported, and neither the constraints nor where they came from
    has changed.  Whatever white space and blank entries are put around them, the names of given
    constraints are read as these constraints.  A setting of the environment is such a list for the
    base, or for the default without one, unless it is missing or encodes no text. -/
theorem applyList_exact (config : Config) (list : String) :
    (∃ names, (∀ others, Text.Lists list others ↔ others = names) ∧
      ((∃ kinds : List ConstraintKind, names = kinds.map Named.name ∧
          (ConfigEdit.applyList list).run config = .ok () ⟨kinds, .environment⟩ ∧
          ∀ kind, isEnabled ⟨kinds, .environment⟩ kind = true ↔ Named.name kind ∈ names) ∨
        ∃ front name rest, names = front ++ name :: rest ∧
          (∀ n ∈ front, ∃ kind : ConstraintKind, Named.name kind = n) ∧
          (∀ kind : ConstraintKind, Named.name kind ≠ name) ∧
          (ConfigEdit.applyList list).run config = .error (.unknownConstraint name) config)) ∧
    (∀ entries : List PaddedEntry, (ConfigEdit.applyList (PaddedEntry.join entries)).run config =
      .ok () ⟨entries.filterMap PaddedEntry.kind, .environment⟩) ∧
    (∀ base setting, (∀ s : String, setting ≠ some s.toUTF8) →
      resolve base setting = .ok (base.getD {})) ∧
    ∀ base, resolve base (some list.toUTF8) =
      match (ConfigEdit.applyList list).run (base.getD {}) with
      | .ok () changed => .ok changed
      | .error e _ => .error e := by
  refine ⟨⟨Text.pieces list, fun _ => Text.lists_iff, ?_⟩, fun entries => ?_, ?_, fun base => ?_⟩
  · rcases ConstraintKind.known_or_first_unknown (Text.pieces list) with
      ⟨kinds, hkinds⟩ | ⟨front, name, rest, hnames, hfront, hname⟩
    · refine .inl ⟨kinds, hkinds, ?_, fun kind => ?_⟩
      · rw [ConfigEdit.run_applyList, applyList, hkinds, ConstraintKind.mapM_ofName_names]
        rfl
      · rw [hkinds, List.mem_map_of_injective fun _ _ => ConstraintKind.name_injective]
        exact List.contains_iff_mem
    · refine .inr ⟨front, name, rest, hnames, hfront, hname, ?_⟩
      rw [ConfigEdit.run_applyList, applyList, hnames,
        ConstraintKind.mapM_ofName_of_unknown rest hfront hname]
      rfl
  · rw [ConfigEdit.run_applyList, applyList, PaddedEntry.pieces_join,
      ConstraintKind.mapM_ofName_names]
    rfl
  · intro base setting hsetting
    have hnone : setting.bind String.fromUTF8? = none := by
      cases setting with
      | none => rfl
      | some bytes => exact fromUTF8?_of_ne fun s heq => hsetting s (congrArg some heq.symm)
    rw [resolve, hnone]
  · rw [ConfigEdit.run_applyList, resolve, Option.bind_some, fromUTF8?_toUTF8]
    simp only
    cases (base.getD {}).applyList list <;> rfl

/-- Two names, a blank entry between them and a no-break space at the end. -/
def spacedOut : List PaddedEntry :=
  have hnothing : Text.Blank [] := List.forall_mem_nil _
  have hspace : Text.Blank [' '] := List.forall_mem_singleton.mpr rfl
  have hnoBreak : Text.Blank ['\u00a0'] := List.forall_mem_singleton.mpr rfl
  [⟨[' '], some .function, [], hspace, hnothing⟩, ⟨[' '], none, [], hspace, hnothing⟩,
    ⟨[], some .property, ['\u00a0'], hnothing, hnoBreak⟩]

/-- The spaced list is read, a list with a misspelt name is refused although the name before it is
    that of a constraint, and without a setting there is nothing to read. -/
theorem applyList_exact_of_misspelt :
    (ConfigEdit.applyList " function_integrity, ,property_integrity\u00a0").run {} =
      .ok () ⟨[.function, .property], .environment⟩ ∧
    (ConfigEdit.applyList "class_integrity, typo ").run {} =
      .error (.unknownConstraint "typo") {} ∧
    resolve none none = .ok {} := by
  obtain ⟨-, hjoin, hunset, -⟩ := applyList_exact {} ""
  have hspaced : PaddedEntry.join spacedOut = " function_integrity, ,property_integrity\u00a0" := by
    decide
  obtain ⟨⟨names, haccount, hcases⟩, -⟩ := applyList_exact {} "class_integrity, typo "
  obtain rfl : ["class_integrity", "typo"] = names :=
    (haccount _).mp (Text.lists_iff.mpr (by decide))
  refine ⟨hspaced ▸ hjoin spacedOut, ?_, hunset none none nofun⟩
  have htypo : ∀ kind : ConstraintKind, Named.name kind ≠ "typo" := by
    intro kind
    cases kind <;> decide
  rcases hcases with ⟨kinds, hkinds, -⟩ | ⟨front, name, rest, hnames, -, hname, hrun⟩
  · have hmem : "typo" ∈ kinds.map Named.name := by
      rw [← hkinds]
      decide
    obtain ⟨kind, -, heq⟩ := List.mem_map.mp hmem
    exact absurd heq (htypo kind)
  · -- The reported name is one of the two, and not the one that a constraint has.
    have hmem : name ∈ ["class_integrity", "typo"] := by simp [hnames]
    rcases List.mem_pair.mp hmem with rfl | rfl
    · exact absurd rfl (hname .classDecl)
    · exact hrun

end Config

end KotlinMetadata
