import ShowScout.Proofs.CommandLine.GlobalOptions

/-!
# In front of a subcommand's name

Up to the name of a subcommand, nothing but options for all commands and the names of the levels
around it can stand on a command line that is read (`Level.exists_leads`).
-/

namespace ShowScout.CommandLine

/-! ## The way to a subcommand -/

/-- What stands on a command line up to the name of a subcommand. -/
inductive Part where
  | option (o : GlobalOption)
  /-- The name of a subcommand. -/
  | name (word : String)

namespace Part

def words : Part → List String
  | option o => o.words
  | name word => [word]

end Part

/-- The words that stand in front, up to the name of a subcommand. -/
def frontWords (parts : List Part) : List String :=
  parts.flatMap Part.words

theorem frontWords_option (o : GlobalOption) (parts : List Part) :
    frontWords (.option o :: parts) = o.words ++ frontWords parts :=
  rfl

namespace Level

/-- The parts lead from one level to another by the names of subcommands, and end with the name of
the last one. Options may stand at each level on the way. -/
inductive Leads : Level → List Part → Level → Prop
  | name {level target : Level} {word : String} :
      level.subcommands.lookup word = some target → Leads level [.name word] target
  | enter {level child target : Level} {word : String} {parts : List Part} :
      level.subcommands.lookup word = some child → Leads child parts target →
        Leads level (.name word :: parts) target
  | option {level target : Level} {parts : List Part} (o : GlobalOption) :
      Leads level parts target → Leads level (.option o :: parts) target

variable {level child : Level} {s : Scan} {r : Reading} {word : String} {rest : List String}

/-- The name of a subcommand opens its level. -/
theorem read_name_eq_ok_iff (hs : s.IsIdle)
    (hchild : level.subcommands.lookup word = some child) :
    level.read s (word :: rest) = .ok r ↔
      ∃ inner, child.read {} rest = .ok inner ∧
        { inner with given := inner.given ++ s.given } = r := by
  have hsome : (level.subcommands.lookup word).isSome := by
    rw [hchild]
    rfl
  have hgroup : level.isGroup := by
    cases hnone : level.subcommands with
    | nil => rw [hnone] at hchild; cases hchild
    | cons _ _ => simp [isGroup, hnone]
  have hdescends : s.mayDescend && level.names word := by
    simp [Scan.mayDescend, Scan.awaiting?_of_pending hs.pending, hs.operandsOnly, names, hgroup,
      hsome]
  rw [read_cons_of_descends hdescends, hchild]
  simp only [Option.some.injEq, exists_eq_left', finish_some_eq_ok_iff,
    Scan.settle_of_pending hs.pending, Except.ok.injEq]

end Level

/-! ## Every command line begins so -/

namespace Scan

variable {s t : Scan} {a : Argument}

/-- An option without the text that it takes is not taken over. -/
theorem settle_ne_ok (hkind : a.kind ≠ .flag) :
    { s with pending := some (a, []) }.settle ≠ .ok t := by
  intro h
  have hgive : { s with pending := none }.give a [] = .ok t := h
  exact hkind ((give_eq_ok_iff.1 hgive).1 rfl)

end Scan

namespace Level

variable {level : Level} {s t : Scan} {r : Reading} {word : String} {words rest : List String}
  {role : Role}

theorem operandRole?_of_isGroup (hgroup : level.isGroup) (hasOperand : Bool) (word : String) :
    level.operandRole? hasOperand word = none := by
  have hnone : level.operand? = none := by
    cases level <;> first | rfl | cases hgroup
  unfold operandRole?
  rw [hnone]
  cases hasOperand <;> rfl

/-- Once dashes have no meaning, no subcommand can be named any more. -/
theorem read_ne_ok_of_operandsOnly (hgroup : level.isGroup) (hs : s.operandsOnly) :
    level.read s words ≠ .ok r := by
  intro h
  cases words with
  | nil =>
    obtain ⟨-, -, hleaf, -⟩ := finish_none_eq_ok_iff.1 h
    rw [hgroup] at hleaf
    cases hleaf
  | cons word rest =>
    have hstays : ¬ (s.mayDescend && level.names word) := by
      simp [Scan.mayDescend, hs]
    obtain ⟨role, hrole, -⟩ := (read_cons_of_stays hstays).1 h
    rw [role?, if_pos hs, operandRole?_of_isGroup hgroup] at hrole
    cases hrole

/-- The options of a group of subcommands with a further role are those for all commands. -/
theorem mem_globals_of_option? (hgroup : level.isGroup) {label : String} {a : Argument}
    (h : level.option? label = some a) (hask : ¬ (a = .help ∨ a = .version)) :
    a ∈ Argument.globals ∧ a.label = label := by
  have hmem : a ∈ level.options := List.mem_of_find?_eq_some h
  have hlabel : a.label = label := by
    simpa using List.find?_some h
  refine ⟨?_, hlabel⟩
  have hown : ∀ b ∈ level.ownOptions, b = .version := by
    cases level <;> first | decide | cases hgroup
  rw [options, List.mem_append, List.mem_cons] at hmem
  rcases hmem with (hhelp | hmine) | hglobal
  · exact absurd (.inl hhelp) hask
  · exact absurd (.inr (hown a hmine)) hask
  · exact hglobal

/-- What a word may be where a subcommand is to be named, other than the name of one. -/
inductive FrontRole (word : String) : Role → Prop
  | endOfOptions : FrontRole word .endOfOptions
  | opening {a : Argument} :
      a ∈ Argument.globals → a.kind ≠ .flag → word = "--" ++ a.label → FrontRole word (.opening a)
  | whole (o : GlobalOption) : o.words = [word] → FrontRole word (.whole o.argument o.texts)

theorem frontRole_of_longRole? (hgroup : level.isGroup) {chars : List Char}
    (hword : word.toList = '-' :: '-' :: chars) (hrole : level.longRole? chars = some role) :
    FrontRole word role := by
  have hsplit : chars.takeWhile (· != '=') ++ chars.dropWhile (· != '=') = chars :=
    List.takeWhile_append_dropWhile
  unfold longRole? at hrole
  split at hrole
  · cases hrole
  · rename_i a hoption hattached
    unfold optionRole? at hrole
    split at hrole
    · cases hrole
    rename_i hask
    obtain ⟨hglobal, hlabel⟩ := mem_globals_of_option? hgroup hoption hask
    have hname : word = "--" ++ a.label := by
      rw [hattached, List.append_nil] at hsplit
      rw [← String.toList_inj, hword, hlabel, hsplit]
      simp
    split at hrole
    · -- a flag has all that it takes
      rename_i hflag
      cases hrole
      refine .whole ⟨a, .bare, hglobal, hflag⟩ ?_
      rw [hname]
      rfl
    · rename_i hkind
      cases hrole
      exact .opening hglobal hkind hname
  · rename_i a c attached hoption hattached
    split at hrole
    · cases hrole
    rename_i hkind
    cases hrole
    have hask : ¬ (a = .help ∨ a = .version) := by
      rintro (rfl | rfl) <;> exact hkind rfl
    obtain ⟨hglobal, hlabel⟩ := mem_globals_of_option? hgroup hoption hask
    have hequals : c = '=' := by
      have hstop := List.head?_dropWhile_not (· != '=') chars
      rw [hattached] at hstop
      simpa using hstop
    have hname : word = "--" ++ a.label ++ "=" ++ .ofList attached := by
      rw [← String.toList_inj, hword, ← hsplit, hattached, hequals, hlabel]
      simp
    refine .whole ⟨a, .attached (.ofList attached), hglobal, hkind⟩ ?_
    rw [hname]
    rfl

/-- A word without a dash has no role there: no option awaits it, and it cannot be an operand. -/
theorem frontRole_of_role? (hgroup : level.isGroup) (hoperands : s.operandsOnly = false)
    (hawaiting : s.awaiting?.isSome → isDashed word) (hrole : level.role? s word = some role) :
    FrontRole word role := by
  cases hdashed : isDashed word with
  | false =>
    rw [role?_of_not_isDashed hoperands hdashed, operandRole?_of_isGroup hgroup] at hrole
    split at hrole
    · rename_i hsome
      rw [hawaiting hsome] at hdashed
      cases hdashed
    · cases hrole
  | true =>
    unfold role? at hrole
    rw [if_neg (by rw [hoperands]; decide)] at hrole
    split at hrole
    · cases hrole
      exact .endOfOptions
    · rename_i hword
      exact frontRole_of_longRole? hgroup hword hrole
    · cases hrole
    · rename_i hplain
      unfold isDashed at hdashed
      split at hdashed
      · exact (hplain _ _ ‹_›).elim
      · cases hdashed

/-- The text of an option is the next word, which must not look like an option itself. -/
theorem exists_of_read_opening (hgroup : level.isGroup) (hs : s.IsIdle) {a : Argument}
    (hkind : a.kind ≠ .flag) (h : level.read { s with pending := some (a, []) } words = .ok r) :
    ∃ value rest, words = value :: rest ∧ isDashed value = false := by
  have hunsettled {t : Scan} : ¬ { s with pending := some (a, []) }.settle = .ok t :=
    Scan.settle_ne_ok hkind
  cases words with
  | nil =>
    obtain ⟨t, hsettle, -⟩ := finish_none_eq_ok_iff.1 h
    exact absurd hsettle hunsettled
  | cons value rest =>
    refine ⟨value, rest, rfl, ?_⟩
    by_contra hplain
    have hdashed : isDashed value := by
      simpa using hplain
    have hstays : ¬ ({ s with pending := some (a, []) }.mayDescend && level.names value) := by
      simp [Scan.mayDescend, Scan.awaiting?, Option.filter]
    obtain ⟨role, hrole, t, hplay, hread⟩ := (read_cons_of_stays hstays).1 h
    have hoperands : { s with pending := some (a, []) }.operandsOnly = false := hs.operandsOnly
    cases frontRole_of_role? hgroup hoperands (fun _ => hdashed) hrole with
    | endOfOptions =>
      cases hplay
      exact read_ne_ok_of_operandsOnly hgroup rfl hread
    | opening =>
      obtain ⟨settled, hsettle, -⟩ := Scan.play_opening_eq_ok_iff.1 hplay
      exact hunsettled hsettle
    | whole =>
      obtain ⟨settled, hsettle, -⟩ := Scan.play_whole_eq_ok_iff.1 hplay
      exact hunsettled hsettle

/-- Where a subcommand is to be named, a command line that is read names one there or starts with an
option for all commands. -/
theorem read_cases (hgroup : level.isGroup) (hs : s.IsIdle) (h : level.read s words = .ok r) :
    (∃ word child rest, words = word :: rest ∧ level.subcommands.lookup word = some child ∧
        ∃ inner, child.read {} rest = .ok inner) ∨
      ∃ o rest t, words = GlobalOption.words o ++ rest ∧ t.IsIdle ∧ level.read t rest = .ok r := by
  have hoption {o : GlobalOption} {rest : List String}
      (h : level.read s (o.words ++ rest) = .ok r) :
      ∃ t : Scan, t.IsIdle ∧ level.read t rest = .ok r := by
    obtain ⟨-, value, -, hread⟩ := (o.read_words_eq_ok_iff hs).1 h
    exact ⟨_, hs.giving _, hread⟩
  cases words with
  | nil =>
    obtain ⟨-, -, hleaf, -⟩ := finish_none_eq_ok_iff.1 h
    rw [hgroup] at hleaf
    cases hleaf
  | cons word rest =>
    by_cases hdescends : s.mayDescend && level.names word
    · obtain ⟨child, hchild, inner, hinner, -⟩ := (read_cons_of_descends hdescends).1 h
      exact .inl ⟨word, child, rest, rfl, hchild, inner, hinner⟩
    have hawaiting : s.awaiting?.isSome → isDashed word := by
      rw [Scan.awaiting?_of_pending hs.pending]
      nofun
    obtain ⟨role, hrole, t, hplay, hread⟩ := (read_cons_of_stays hdescends).1 h
    cases frontRole_of_role? hgroup hs.operandsOnly hawaiting hrole with
    | endOfOptions =>
      cases hplay
      exact absurd hread (read_ne_ok_of_operandsOnly hgroup rfl)
    | @opening a hglobal hkind hname =>
      -- the option and its text are two words, and read as one option
      subst hname
      obtain ⟨settled, hsettle, rfl⟩ := Scan.play_opening_eq_ok_iff.1 hplay
      rw [Scan.settle_of_pending hs.pending] at hsettle
      cases hsettle
      obtain ⟨value, rest, rfl, hplain⟩ := exists_of_read_opening hgroup hs hkind hread
      let o : GlobalOption := ⟨a, .apart value, hglobal, hkind, hplain⟩
      obtain ⟨t, ht, hread⟩ := hoption (o := o) h
      exact .inr ⟨o, rest, t, rfl, ht, hread⟩
    | whole o hwords =>
      have hsame : word :: rest = o.words ++ rest := by
        rw [hwords]
        rfl
      rw [hsame] at h
      obtain ⟨t, ht, hread⟩ := hoption h
      exact .inr ⟨o, rest, t, hsame, ht, hread⟩

/-- Where a subcommand is to be named, a command line that is read names one that has none of its
own, and has nothing but options for all commands in front of that. -/
theorem exists_leads (hgroup : level.isGroup) (hs : s.IsIdle) (h : level.read s words = .ok r) :
    ∃ parts target rest, words = frontWords parts ++ rest ∧ level.Leads parts target ∧
      target.isGroup = false := by
  -- on the number of words: an option takes one or two of them, and a name opens another level
  induction hlength : words.length using Nat.strong_induction_on generalizing level s r words with
  | _ n ih =>
    subst hlength
    rcases read_cases hgroup hs h with
      ⟨word, child, rest, rfl, hchild, inner, hinner⟩ | ⟨o, rest, t, rfl, ht, hread⟩
    · cases hleaf : child.isGroup with
      | false => exact ⟨[.name word], child, rest, rfl, .name hchild, hleaf⟩
      | true =>
        obtain ⟨parts, target, rest, rfl, hleads, htarget⟩ :=
          ih _ (by simp) hleaf .empty hinner rfl
        exact ⟨.name word :: parts, target, rest, rfl, .enter hchild hleads, htarget⟩
    · have hshorter : rest.length < (o.words ++ rest).length := by
        have hpositive := o.length_words_pos
        rw [List.length_append]
        omega
      obtain ⟨parts, target, rest, rfl, hleads, htarget⟩ := ih _ hshorter hgroup ht hread rfl
      refine ⟨.option o :: parts, target, rest, ?_, .option o hleads, htarget⟩
      rw [frontWords_option, List.append_assoc]

end Level

end ShowScout.CommandLine
