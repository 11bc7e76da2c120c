import Mathlib.Data.List.TakeWhile
import ShowScout.Proofs.CommandLine.Scan

/-!
# Options for all commands

An option for all commands is read at every level where options are read. Its words, in whichever
spelling, give it its texts and leave nothing behind that the words after them could depend on,
but that it has been given (`GlobalOption.read_words_eq_ok_iff`).
-/

namespace ShowScout.CommandLine

/-! ## Global options -/

/-- How an option is joined to its text, if it takes one. -/
inductive Spelling where
  | bare
  /-- The text is the next word. -/
  | apart (value : String)
  /-- The text stands behind an equality sign. -/
  | attached (value : String)

/-- Whether arguments of a kind are spelled so. A word that starts like an option is never the text
of another one. -/
def Spelling.Fits (kind : ValueKind) : Spelling → Prop
  | .bare => kind = .flag
  | .apart value => kind ≠ .flag ∧ Level.isDashed value = false
  | .attached _ => kind ≠ .flag

instance (kind : ValueKind) : DecidablePred (Spelling.Fits kind)
  | .bare => inferInstanceAs (Decidable (kind = .flag))
  | .apart value => inferInstanceAs (Decidable (kind ≠ .flag ∧ Level.isDashed value = false))
  | .attached _ => inferInstanceAs (Decidable (kind ≠ .flag))

/-- An option for all commands, as it stands on a command line. -/
structure GlobalOption where
  argument : Argument
  spelling : Spelling
  mem_globals : argument ∈ Argument.globals
  fits : spelling.Fits argument.kind

namespace GlobalOption

def words (o : GlobalOption) : List String :=
  let label := "--" ++ o.argument.label
  match o.spelling with
  | .bare => [label]
  | .apart value => [label, value]
  | .attached value => [label ++ "=" ++ value]

def texts (o : GlobalOption) : List String :=
  match o.spelling with
  | .bare => []
  | .apart value | .attached value => [value]

theorem length_words_pos (o : GlobalOption) : 0 < o.words.length := by
  unfold words
  dsimp only
  split <;> exact Nat.succ_pos _

end GlobalOption

/-! ## Reading an option -/

section Labels

variable {a : Argument} {level : Level}

theorem option?_label (ha : a ∈ Argument.globals) (level : Level) :
    level.option? a.label = some a := by
  have hall : ∀ a ∈ Argument.globals, level.option? a.label = some a := by
    cases level <;> decide
  exact hall a ha

theorem label_ne_nil : ∀ a ∈ Argument.globals, a.label.toList ≠ [] := by
  decide

theorem ne_equals_of_mem_label (ha : a ∈ Argument.globals) : ∀ c ∈ a.label.toList, c != '=' := by
  have hall : ∀ a ∈ Argument.globals, a.label.toList.all (· != '=') := by
    decide
  exact List.all_eq_true.1 (hall a ha)

theorem isRepeatable_of_mem_globals : ∀ a ∈ Argument.globals, a.kind.isRepeatable = false := by
  decide

theorem ne_of_mem_globals : ∀ a ∈ Argument.globals, ¬ (a = .help ∨ a = .version) := by
  decide

/-- No subcommand has a name with a dash in front. -/
theorem names_of_dash (level : Level) {word : String} {rest : List Char}
    (h : word.toList = '-' :: rest) : level.names word = false := by
  have hnone : ∀ child ∈ level.subcommands, child.1.toList.head? ≠ some '-' := by
    cases level <;> decide
  have hhelp : word ≠ "help" := by
    rintro rfl
    cases h
  have hlookup : (level.subcommands.lookup word).isSome = false := by
    by_contra hsome
    obtain ⟨child, hchild⟩ : ∃ child, (word, child) ∈ level.subcommands := by
      simpa using hsome
    exact hnone _ hchild (by rw [h]; rfl)
  simp [Level.names, hhelp, hlookup]

end Labels

namespace Scan

/-- Nothing is waited for, and options are still read. -/
structure IsIdle (s : Scan) : Prop where
  pending : s.pending = none
  operandsOnly : s.operandsOnly = false

theorem IsIdle.empty : IsIdle {} :=
  ⟨rfl, rfl⟩

theorem IsIdle.giving {s : Scan} (hs : s.IsIdle) (given : List (Argument × Value)) :
    (s.giving given).IsIdle :=
  ⟨hs.pending, hs.operandsOnly⟩

end Scan

section Words

variable {level : Level} {s t : Scan} {a : Argument} {role : Role} {word value : String}
  {chars : List Char} {texts rest : List String} {r : Reading}

theorem takeWhile_label (ha : a ∈ Argument.globals) :
    a.label.toList.takeWhile (· != '=') = a.label.toList :=
  List.takeWhile_eq_self_iff.2 (ne_equals_of_mem_label ha)

theorem longRole?_label (ha : a ∈ Argument.globals) :
    level.longRole? a.label.toList =
      if a.kind = .flag then some (.whole a []) else some (.opening a) := by
  have hrest : a.label.toList.dropWhile (· != '=') = [] :=
    List.dropWhile_eq_nil_iff.2 (ne_equals_of_mem_label ha)
  simp only [Level.longRole?, takeWhile_label ha, hrest, String.ofList_toList, option?_label ha,
    Level.optionRole?, if_neg (ne_of_mem_globals a ha)]

theorem longRole?_attached (ha : a ∈ Argument.globals) (hkind : a.kind ≠ .flag) :
    level.longRole? (a.label.toList ++ '=' :: value.toList) = some (.whole a [value]) := by
  have hlabel : (a.label.toList ++ '=' :: value.toList).takeWhile (· != '=') = a.label.toList := by
    rw [List.takeWhile_append_of_pos (ne_equals_of_mem_label ha)]
    simp
  have hrest :
      (a.label.toList ++ '=' :: value.toList).dropWhile (· != '=') = '=' :: value.toList := by
    rw [List.dropWhile_append_of_pos (ne_equals_of_mem_label ha)]
    simp
  simp only [Level.longRole?, hlabel, hrest, String.ofList_toList, option?_label ha, if_neg hkind]

theorem role?_of_dashes (hs : s.IsIdle) (hchars : chars ≠ [])
    (hword : word.toList = '-' :: '-' :: chars) : level.role? s word = level.longRole? chars := by
  obtain ⟨c, chars, rfl⟩ := List.exists_cons_of_ne_nil hchars
  simp [Level.role?, hs.operandsOnly, hword]

theorem role?_label (hs : s.IsIdle) (ha : a ∈ Argument.globals) :
    level.role? s ("--" ++ a.label) =
      if a.kind = .flag then some (.whole a []) else some (.opening a) := by
  have hword : ("--" ++ a.label).toList = '-' :: '-' :: a.label.toList :=
    String.toList_append
  rw [role?_of_dashes hs (label_ne_nil a ha) hword, longRole?_label ha]

/-- A word with a dash never names a subcommand. -/
theorem read_cons_of_dash (hword : word.toList = '-' :: chars)
    (hrole : level.role? s word = some role) :
    level.read s (word :: rest) = .ok r ↔
      ∃ t, s.play role = .ok t ∧ level.read t rest = .ok r := by
  have hstays : ¬ (s.mayDescend && level.names word) := by
    rw [names_of_dash level hword]
    simp
  rw [Level.read_cons_of_stays hstays, hrole]
  simp

theorem read_whole_iff_give (hs : s.IsIdle) (hword : word.toList = '-' :: chars)
    (hrole : level.role? s word = some (.whole a texts)) :
    level.read s (word :: rest) = .ok r ↔
      ∃ t, s.give a texts = .ok t ∧ level.read t rest = .ok r := by
  rw [read_cons_of_dash hword hrole]
  simp only [Scan.play_whole_eq_ok_iff, Scan.settle_of_pending hs.pending, Except.ok.injEq,
    exists_eq_left']

theorem read_opening_iff (hs : s.IsIdle) (hword : word.toList = '-' :: chars)
    (hrole : level.role? s word = some (.opening a)) :
    level.read s (word :: rest) = .ok r ↔
      level.read { s with pending := some (a, []) } rest = .ok r := by
  rw [read_cons_of_dash hword hrole]
  simp only [Scan.play_opening_eq_ok_iff, Scan.settle_of_pending hs.pending, Except.ok.injEq,
    exists_eq_left']

/-- An option takes the next word as its text, even where that is the name of a subcommand. -/
theorem read_awaited (hs : s.IsIdle) (hplain : Level.isDashed value = false) :
    level.read { s with pending := some (a, []) } (value :: rest) = .ok r ↔
      level.read { s with pending := some (a, [value]) } rest = .ok r := by
  let opened : Scan := { s with pending := some (a, []) }
  have hawaiting : opened.awaiting? = some (a, []) := by
    simp [opened, Scan.awaiting?, Option.filter]
  have hstays : ¬ (opened.mayDescend && level.names value) := by
    simp [Scan.mayDescend, hawaiting]
  have hrole : level.role? opened value = some (.text value) := by
    have hoperands : opened.operandsOnly = false := hs.operandsOnly
    rw [Level.role?_of_not_isDashed hoperands hplain, hawaiting]
    rfl
  rw [Level.read_cons_of_stays hstays, hrole]
  simp only [Option.mem_def, Option.some.injEq, exists_eq_left', Scan.play, Except.ok.injEq]
  rfl

/-- An option with its one text waits for no more. -/
theorem read_filled_iff_give (hs : s.IsIdle) (ha : a ∈ Argument.globals) :
    level.read { s with pending := some (a, [value]) } rest = .ok r ↔
      ∃ t, s.give a [value] = .ok t ∧ level.read t rest = .ok r := by
  have hone : a.kind ≠ .textsEach := by
    intro hmany
    have honce := isRepeatable_of_mem_globals a ha
    rw [hmany] at honce
    cases honce
  have hawaiting : { s with pending := some (a, [value]) }.awaiting? = none := by
    simp [Scan.awaiting?, Option.filter, hone]
  have hidle : { s with pending := none } = s := by
    rw [← hs.pending]
  have hsettle : { s with pending := some (a, [value]) }.settle = s.give a [value] :=
    congrArg (·.give a [value]) hidle
  rw [Level.read_eq_ok_iff_settle hawaiting, hsettle]

end Words

namespace GlobalOption

variable {o : GlobalOption} {level : Level} {s t : Scan} {rest : List String} {r : Reading}

/-- Whatever the spelling, an option is read by giving it its texts. -/
theorem read_words_iff_give (hs : s.IsIdle) :
    level.read s (o.words ++ rest) = .ok r ↔
      ∃ t, s.give o.argument o.texts = .ok t ∧ level.read t rest = .ok r := by
  obtain ⟨a, spelling, ha, hfits⟩ := o
  have hlabel : ("--" ++ a.label).toList = '-' :: '-' :: a.label.toList :=
    String.toList_append
  cases spelling with
  | bare =>
    have hkind : a.kind = .flag := hfits
    have hrole : level.role? s ("--" ++ a.label) = some (.whole a []) := by
      rw [role?_label hs ha, if_pos hkind]
    exact read_whole_iff_give hs hlabel hrole
  | attached value =>
    have hkind : a.kind ≠ .flag := hfits
    have hword : ("--" ++ a.label ++ "=" ++ value).toList =
        '-' :: '-' :: (a.label.toList ++ '=' :: value.toList) := by
      simp [String.toList_append]
    have hchars : a.label.toList ++ '=' :: value.toList ≠ [] := by
      simp
    have hrole : level.role? s ("--" ++ a.label ++ "=" ++ value) = some (.whole a [value]) := by
      rw [role?_of_dashes hs hchars hword, longRole?_attached ha hkind]
    exact read_whole_iff_give hs hword hrole
  | apart value =>
    obtain ⟨hkind, hplain⟩ : a.kind ≠ .flag ∧ Level.isDashed value = false := hfits
    have hrole : level.role? s ("--" ++ a.label) = some (.opening a) := by
      rw [role?_label hs ha, if_neg hkind]
    calc level.read s (("--" ++ a.label) :: value :: rest) = .ok r
      _ ↔ level.read { s with pending := some (a, []) } (value :: rest) = .ok r :=
        read_opening_iff hs hlabel hrole
      _ ↔ level.read { s with pending := some (a, [value]) } rest = .ok r :=
        read_awaited hs hplain
      _ ↔ ∃ t, s.give a [value] = .ok t ∧ level.read t rest = .ok r :=
        read_filled_iff_give hs ha

theorem kind_of_texts (h : o.texts = []) : o.argument.kind = .flag := by
  obtain ⟨a, spelling, ha, hfits⟩ := o
  cases spelling with
  | bare => exact hfits
  | apart value => cases h
  | attached value => cases h

theorem give_eq_ok_iff :
    s.give o.argument o.texts = .ok t ↔
      o.argument ∉ argumentsOf s.given ∧ ∃ value, o.argument.read o.texts = .ok value ∧
        s.giving (s.given ++ [(o.argument, value)]) = t := by
  rw [Scan.give_eq_ok_iff]
  constructor
  · rintro ⟨-, hnew, hgiven⟩
    exact ⟨hnew (isRepeatable_of_mem_globals _ o.mem_globals), hgiven⟩
  · rintro ⟨hnew, hgiven⟩
    exact ⟨kind_of_texts, fun _ => hnew, hgiven⟩

/-- An option is read if it is new at its level and its texts have a value. -/
theorem read_words_eq_ok_iff (hs : s.IsIdle) :
    level.read s (o.words ++ rest) = .ok r ↔
      o.argument ∉ argumentsOf s.given ∧ ∃ value, o.argument.read o.texts = .ok value ∧
        level.read (s.giving (s.given ++ [(o.argument, value)])) rest = .ok r := by
  rw [read_words_iff_give hs]
  simp only [give_eq_ok_iff]
  constructor
  · rintro ⟨_, ⟨hnew, value, hvalue, rfl⟩, hread⟩
    exact ⟨hnew, value, hvalue, hread⟩
  · rintro ⟨hnew, value, hvalue, hread⟩
    exact ⟨_, ⟨hnew, value, hvalue, rfl⟩, hread⟩

end GlobalOption

end ShowScout.CommandLine
