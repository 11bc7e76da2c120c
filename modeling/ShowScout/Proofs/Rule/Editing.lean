import ShowScout.Proofs.Rule.Storing

/-!
# Rules under editing

A rule that has been written can be given patterns, disabled, edited, and stored and read back. None
of this enables it again: an edit brings the texts of another rule but not its flag, and a record of
a rule always says whether it is enabled, so that reading it back cannot fall back on a flag that is
missing. A disabled rule therefore stays out of every search.
-/

namespace ShowScout

namespace Rule

/-! ## Changes -/

/-- What may be done to a rule after it was written. -/
inductive Change where
  | urlRegex (source : String)
  | contentRegex (source : String)
  | disable
  | edit (edited : Rule)
  /-- The rule is stored and read back. -/
  | reload

/-- What comes of a change. Only reading back can be refused. -/
def change (rule : Rule) : Change → Except RuleError Rule
  | .urlRegex source => .ok (rule.withUrlRegex source)
  | .contentRegex source => .ok (rule.withContentRegex source)
  | .disable => .ok rule.disable
  | .edit edited => .ok (rule.applyEdit edited)
  | .reload => (StoredSite.ofRule rule).toRule

/-- The rule after a change. One that is refused is given up, and the rule is kept. -/
def changed (rule : Rule) (c : Change) : Rule :=
  match rule.change c with
  | .ok changed => changed
  | .error _ => rule

/-- The rule after some changes, one after another. -/
def after (rule : Rule) (changes : List Change) : Rule :=
  changes.foldl changed rule

variable {rule reloaded : Rule} {c : Change} {changes : List Change} {error : RuleError}

theorem changed_of_error (h : rule.change c = .error error) : rule.changed c = rule := by
  rw [changed, h]

@[simp]
theorem after_nil : rule.after [] = rule :=
  rfl

@[simp]
theorem after_cons : rule.after (c :: changes) = (rule.changed c).after changes :=
  rfl

theorem after_concat : rule.after (changes ++ [c]) = (rule.after changes).changed c :=
  List.foldl_concat changed rule c changes

/-! ## The flag -/

/-- The record of a rule says whether it is enabled, so a rule is read back with its own flag. -/
theorem enabled_of_reload (h : rule.change .reload = .ok reloaded) :
    reloaded.enabled = rule.enabled := by
  have hread : (StoredSite.ofRule rule).toRule = .ok reloaded := h
  obtain ⟨-, -, -, -, rfl⟩ := StoredSite.toRule_ofRule_eq_ok_iff.1 hread
  rfl

/-- One change leaves the flag alone, unless it disables the rule. -/
theorem enabled_changed_iff (rule : Rule) (c : Change) :
    (rule.changed c).enabled ↔ rule.enabled ∧ c ≠ .disable := by
  cases c with
  | urlRegex source => simp [changed, change, withUrlRegex]
  | contentRegex source => simp [changed, change, withContentRegex]
  | disable => simp [changed, change, disable]
  | edit edited => simp [changed, change, applyEdit]
  | reload =>
    cases h : rule.change .reload with
    | error error => simp [changed_of_error h]
    | ok reloaded => simp [changed, h, enabled_of_reload h]

theorem enabled_after_iff (rule : Rule) (changes : List Change) :
    (rule.after changes).enabled ↔ rule.enabled ∧ .disable ∉ changes := by
  induction changes generalizing rule with
  | nil => simp
  | cons c rest ih =>
    rw [after_cons, ih, enabled_changed_iff, List.mem_cons, not_or, and_assoc]
    exact and_congr_right fun _ => and_congr_left fun _ => ne_comm

theorem not_qualifies_of_disabled (h : .disable ∈ changes) (rule : Rule) (url : String) :
    ¬ (rule.after changes).Qualifies url := by
  intro hqualifies
  have henabled := (enabled_after_iff rule changes).1 hqualifies.enabled
  exact henabled.2 h

end Rule

/-- However a rule is changed, it is enabled in the end if and only if it was enabled in the
beginning and has not been disabled; the flags of edited rules do not matter. From the first time
that it is disabled, no search gives the rule, whatever becomes of it afterwards, and every search
goes as if it were not there. A rule that is refused when it is read back stays as it was. -/
theorem disabled_stays_disabled (rule : Rule) (changes : List Rule.Change) :
    ((rule.after changes).enabled ↔ rule.enabled ∧ .disable ∉ changes) ∧
    (.disable ∈ changes → ∀ (url : String) (rules rest : List Rule),
      matchRule rules url ≠ some (rule.after changes) ∧
        matchRule (rules ++ rule.after changes :: rest) url = matchRule (rules ++ rest) url) ∧
    ∀ error, (rule.after changes).change .reload = .error error →
      rule.after (changes ++ [.reload]) = rule.after changes := by
  refine ⟨rule.enabled_after_iff changes, ?_, ?_⟩
  · intro hdisabled url rules rest
    have hidle := Rule.not_qualifies_of_disabled hdisabled rule url
    constructor
    · exact matchRule_ne_of_not_qualifies hidle rules
    · have hleftOut : matchRule (rules ++ [rule.after changes] ++ rest) url =
          matchRule (rules ++ rest) url :=
        matchRule_insert (List.forall_mem_singleton.2 hidle)
      rwa [List.append_assoc] at hleftOut
  · intro error hrefused
    rw [Rule.after_concat, Rule.changed_of_error hrefused]

/-- A rule that nobody has named yet. -/
def Rule.unnamed : Rule where
  name := " "
  host := "trakt.tv"
  extraction := .xpath "//h2"
  injectionXpath := "//h1"

theorem disabled_stays_disabled_unnamed :
    let changes : List Rule.Change := [.disable, .urlRegex "/shows/", .edit .unnamed]
    (Rule.caseless.after changes).name = " " ∧ (Rule.caseless.after changes).enabled = false ∧
      Rule.caseless.after (changes ++ [.reload]) = Rule.caseless.after changes ∧
      ∀ url, matchRule [Rule.caseless.after changes, .caseless] url =
        matchRule [.caseless] url := by
  intro changes
  obtain ⟨hflag, hsearch, hkept⟩ := disabled_stays_disabled .caseless changes
  have hdisabled : Rule.Change.disable ∈ changes := List.mem_cons_self
  have hoff : (Rule.caseless.after changes).enabled = false := by
    simpa [hdisabled] using hflag
  have hrefused : (Rule.caseless.after changes).change .reload = .error .missingIdentity := by
    have hname : Text.trim " " = "" := by decide
    have hafter : (Rule.caseless.after changes).name = " " := rfl
    simp [Rule.change, StoredSite.toRule, StoredSite.ofRule, hafter, hname]
  refine ⟨rfl, hoff, hkept .missingIdentity hrefused, fun url => ?_⟩
  exact (hsearch hdisabled url [] [.caseless]).2

end ShowScout
