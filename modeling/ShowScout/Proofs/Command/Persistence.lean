import ShowScout.Command.Run
import ShowScout.Proofs.Files.Tree

/-!
# What commands leave in files

Only three commands change the settings. Each of them stores what its one change makes of the
settings that were loaded, and nothing that the command line said besides. If it cannot do that,
every file holds what it held before. If it has done that and cannot say so, it fails as well, but
the settings are stored. The other commands leave the settings as they are, unless they are told to
write to the very file.
-/

namespace ShowScout

/-! ## Settings in files -/

/-- The settings that a path leads to: those of a document, or empty ones where nothing is. -/
def Files.Tree.Stores (t : Files.Tree) (path : String) (s : Settings) : Prop :=
  (t.find? path = none ∧ s = {}) ∨
    ∃ text, t.find? path = some (.text text) ∧ Settings.ofJson text = .ok s

theorem loadSettings_eq_ok_iff {t : Files.Tree} {path : String} {s : Settings} :
    loadSettings t path = .ok s ↔ t.Stores path s := by
  have hread (text : String) : t.read path = .ok text ↔ t.find? path = some (.text text) :=
    Files.Tree.read_eq_ok_iff
  unfold loadSettings Files.Tree.holds Files.Tree.Stores
  rcases hfound : t.find? path with _ | entry
  · simp [pure, Except.pure, eq_comm]
  · rcases htext : t.read path with error | text
    · have hnone (text : String) : entry ≠ .text text := by
        rintro rfl
        rw [(hread text).2 hfound] at htext
        cases htext
      simp [hnone, bind, Except.bind, Except.mapError]
    · obtain rfl : entry = .text text := by
        rw [hread, hfound] at htext
        exact Option.some.inj htext
      cases h : Settings.ofJson text <;> simp [h, bind, Except.bind, Except.mapError]

theorem loadSettings_ne_unsaid {t : Files.Tree} {path : String} {e : CommandError}
    (h : loadSettings t path = .error e) (reason : String) : e ≠ .unsaid reason := by
  rintro rfl
  unfold loadSettings at h
  split at h
  · cases h
  · rcases htext : t.read path with error | text
    · simp [htext, bind, Except.bind, Except.mapError] at h
    · cases hsettings : Settings.ofJson text <;>
        simp [htext, hsettings, bind, Except.bind, Except.mapError] at h

/-! ## Work of commands -/

namespace CommandM

variable {α β : Type} {w w' : Workplace}

theorem bind_of_ok {work : CommandM α} {next : α → CommandM β} {a : α}
    (h : work w = .ok a w') : (work >>= next) w = next a w' := by
  simp only [bind, EStateM.bind, h]

theorem bind_of_error {work : CommandM α} {next : α → CommandM β} {e : CommandError}
    (h : work w = .error e w') : (work >>= next) w = .error e w' := by
  simp only [bind, EStateM.bind, h]

theorem get_bind (next : Workplace → CommandM β) (w : Workplace) : (get >>= next) w = next w w :=
  rfl

theorem writeFile_eq (wrap : Files.Error → CommandError) (path text : String) (w : Workplace) :
    writeFile wrap path text w =
      match w.files.write path text with
      | .ok files => .ok () { w with files }
      | .error e => .error (wrap e) w := by
  have hget (f : Files.Tree → Files.FileM Unit) : (get >>= f) w.files = f w.files w.files := rfl
  rw [writeFile, onFiles, hget]
  cases w.files.write path text <;> rfl

theorem say_eq (line : String) (w : Workplace) :
    say line w =
      match w.refusal? w.output line with
      | none => .ok () { w with output := w.output ++ line ++ "\n" }
      | some reason => .error (.unsaid reason) w := by
  rw [say, get_bind]
  cases w.refusal? w.output line <;> rfl

/-! ### Work that leaves files alone -/

/-- Work that leaves all files alone, also when it fails. -/
def LeavesFiles (work : CommandM α) : Prop :=
  ∀ w, (Files.stateAfter (work w)).files = w.files

theorem leavesFiles_pure (a : α) : LeavesFiles (pure a) := fun _ => rfl

theorem leavesFiles_say (line : String) : LeavesFiles (say line) := by
  intro w
  rw [say_eq]
  cases w.refusal? w.output line <;> rfl

theorem leavesFiles_ofExcept (x : Except CommandError α) :
    LeavesFiles (ofExcept x : CommandM α) := by
  intro w
  cases x <;> rfl

theorem LeavesFiles.bind {work : CommandM α} {next : α → CommandM β} (h : LeavesFiles work)
    (hnext : ∀ a, LeavesFiles (next a)) : LeavesFiles (work >>= next) := by
  intro w
  have hwork := h w
  rcases hw : work w with ⟨a, w'⟩ | ⟨e, w'⟩
  · rw [hw] at hwork
    rw [bind_of_ok hw, hnext a w']
    exact hwork
  · rw [hw] at hwork
    rw [bind_of_error hw]
    exact hwork

theorem leavesFiles_launch (s : Surroundings) (o : BrowserOptions) : LeavesFiles (launch s o) :=
  LeavesFiles.bind (fun _ => rfl) fun _ => leavesFiles_ofExcept _

end CommandM

namespace Configuration

open CommandM

variable (c : Configuration) (s : Surroundings)

theorem leavesFiles_check (url : String) : LeavesFiles (c.check url) := by
  unfold check
  cases c.ruleFor? url with
  | some rule =>
    exact (leavesFiles_say _).bind fun _ => (leavesFiles_say _).bind fun _ =>
      (leavesFiles_say _).bind fun _ => leavesFiles_pure _
  | none =>
    exact (leavesFiles_say _).bind fun _ => (leavesFiles_say _).bind fun _ => leavesFiles_pure _

theorem leavesFiles_listRules : LeavesFiles c.listRules := by
  have hlines (lines : List (StoredSite × Nat)) :
      LeavesFiles (forIn lines PUnit.unit fun line _ => do
        CommandM.say (listLine line.2 line.1)
        pure (.yield PUnit.unit)) := by
    -- on the lines still to be printed; each iteration says one and goes on
    induction lines with
    | nil => exact leavesFiles_pure _
    | cons line rest ih =>
      rw [List.forIn_cons]
      refine LeavesFiles.bind ((leavesFiles_say _).bind fun _ => leavesFiles_pure _) fun step => ?_
      cases step with
      | done _ => exact leavesFiles_pure _
      | yield _ => exact ih
  unfold listRules
  by_cases hnone : c.settings.sites.isEmpty
  · rw [if_pos hnone]
    exact (leavesFiles_say _).bind fun _ => (hlines _).bind fun _ => leavesFiles_pure _
  · rw [if_neg hnone]
    exact (hlines _).bind fun _ => leavesFiles_pure _

theorem leavesFiles_resolve : LeavesFiles (c.resolve s) := by
  unfold resolve
  exact (leavesFiles_ofExcept _).bind fun _ => (leavesFiles_say _).bind fun _ => leavesFiles_pure _

theorem leavesFiles_titleOnline (rule : Rule) (url : String) (headed : Bool) :
    LeavesFiles (c.titleOnline s rule url headed) := by
  unfold titleOnline
  exact (leavesFiles_launch s _).bind fun _ => (leavesFiles_ofExcept _).bind fun _ =>
    (leavesFiles_ofExcept _).bind fun _ => leavesFiles_pure _

theorem leavesFiles_extract (url : String) (headed : Bool) :
    LeavesFiles (c.extract s url headed) := by
  unfold extract
  cases c.ruleFor? url with
  | none => exact (leavesFiles_say _).bind fun _ => leavesFiles_pure _
  | some rule =>
    refine (c.leavesFiles_titleOnline s rule url headed).bind fun title => ?_
    cases title <;> exact (leavesFiles_say _).bind fun _ => leavesFiles_pure _

theorem leavesFiles_handOver (request : AddShowRequest) : LeavesFiles (handOver s request) := by
  unfold handOver
  exact (leavesFiles_launch s _).bind fun _ => (leavesFiles_ofExcept _).bind fun _ =>
    leavesFiles_say _

theorem leavesFiles_add (url : String) (headed dryRun : Bool) :
    LeavesFiles (c.add s url headed dryRun) := by
  unfold add
  cases c.ruleFor? url with
  | none => exact (leavesFiles_say _).bind fun _ => leavesFiles_pure _
  | some rule =>
    refine (c.leavesFiles_titleOnline s rule url headed).bind fun title => ?_
    cases title with
    | none => exact (leavesFiles_say _).bind fun _ => leavesFiles_pure _
    | some title =>
      refine (leavesFiles_say _).bind fun _ => (leavesFiles_ofExcept _).bind fun request => ?_
      cases dryRun
      · exact (leavesFiles_handOver s request).bind fun _ => leavesFiles_pure _
      · exact (leavesFiles_say _).bind fun _ => leavesFiles_pure _

end Configuration

/-! ## Storing settings -/

section Save

variable {path : String} {settings : Settings} {w w' : Workplace}

/-- Settings are stored by one write, once the directory for it is there. -/
theorem saveSettings_cases (path : String) (settings : Settings) (w : Workplace) :
    ∃ files, w.files.SameFiles files ∧
      ((∃ directory e,
          saveSettings path settings w = .error (.noDirectory directory e) { w with files }) ∨
        saveSettings path settings w =
          CommandM.writeFile (.unwrittenSettings path) path settings.toPrettyJson
            { w with files }) := by
  unfold saveSettings
  cases Files.parent? path with
  | none => exact ⟨w.files, .refl w.files, .inr rfl⟩
  | some directory =>
    have hsame := Files.sameFiles_ensureDirectories directory w.files
    rcases hmade : Files.ensureDirectories directory w.files with ⟨_, files⟩ | ⟨e, files⟩
    all_goals
      rw [hmade] at hsame
      refine ⟨files, hsame, ?_⟩
    · refine .inr (CommandM.bind_of_ok (a := ()) ?_)
      simp [CommandM.onFiles, hmade]
    · refine .inl ⟨directory, e, CommandM.bind_of_error ?_⟩
      simp [CommandM.onFiles, hmade]

/-- What is stored is found again, and no other file has changed. -/
theorem saveSettings_stores (h : saveSettings path settings w = .ok () w') :
    w.files.Rewritten path settings.toPrettyJson w'.files := by
  obtain ⟨files, hsame, ⟨directory, e, hsave⟩ | hsave⟩ := saveSettings_cases path settings w
  · rw [hsave] at h
    cases h
  rw [hsave, CommandM.writeFile_eq] at h
  rcases hwrite : files.write path settings.toPrettyJson with e | written
  · simp [hwrite] at h
  · simp only [hwrite, EStateM.Result.ok.injEq, true_and] at h
    subst h
    exact hsame.rewritten (Files.Tree.rewritten_of_write hwrite)

/-- Settings that cannot be stored are not stored at all, and no line is to blame for that. -/
theorem saveSettings_error {e : CommandError} (h : saveSettings path settings w = .error e w') :
    w.files.SameFiles w'.files ∧ ∀ reason, e ≠ .unsaid reason := by
  obtain ⟨files, hsame, ⟨directory, e, hsave⟩ | hsave⟩ := saveSettings_cases path settings w
  · rw [hsave] at h
    cases h
    exact ⟨hsame, nofun⟩
  · rw [hsave, CommandM.writeFile_eq] at h
    rcases hwrite : files.write path settings.toPrettyJson with e | written
    · simp only [hwrite, EStateM.Result.error.injEq] at h
      obtain ⟨rfl, rfl⟩ := h
      exact ⟨hsame, nofun⟩
    · simp [hwrite] at h

/-- How a command ends that has settings to store and one line to say then. -/
inductive SaveEnds (path : String) (settings : Settings) (w : Workplace) :
    EStateM.Result CommandError Workplace Status → Prop
  | said {saved : Workplace} {line : String}
      (hsave : saveSettings path settings w = .ok () saved)
      (hwritten : saved.refusal? saved.output line = none) :
      SaveEnds path settings w (.ok .success { saved with output := saved.output ++ line ++ "\n" })
  | unsaid {saved : Workplace} {line reason : String}
      (hsave : saveSettings path settings w = .ok () saved)
      (hrefused : saved.refusal? saved.output line = some reason) :
      SaveEnds path settings w (.error (.unsaid reason) saved)
  | unsaved {e : CommandError} {w' : Workplace}
      (hsave : saveSettings path settings w = .error e w') :
      SaveEnds path settings w (.error e w')

/-- Where the settings can be stored, whether the line can be written decides. -/
theorem SaveEnds.exists_of_ok {result : EStateM.Result CommandError Workplace Status}
    {saved : Workplace} (h : SaveEnds path settings w result)
    (hsave : saveSettings path settings w = .ok () saved) :
    ∃ line, result =
      match saved.refusal? saved.output line with
      | none => .ok .success { saved with output := saved.output ++ line ++ "\n" }
      | some reason => .error (.unsaid reason) saved := by
  cases h with
  | @said _ line hsave' hwritten =>
    rw [hsave] at hsave'
    cases hsave'
    exact ⟨line, by rw [hwritten]⟩
  | @unsaid _ line _ hsave' hrefused =>
    rw [hsave] at hsave'
    cases hsave'
    exact ⟨line, by rw [hrefused]⟩
  | unsaved hsave' =>
    rw [hsave] at hsave'
    cases hsave'

theorem SaveEnds.rewritten_of_ok {status : Status}
    (h : SaveEnds path settings w (.ok status w')) :
    w.files.Rewritten path settings.toPrettyJson w'.files := by
  obtain ⟨hsave, -⟩ := h
  have hstored := saveSettings_stores hsave
  exact hstored

theorem SaveEnds.rewritten_of_unsaid {reason : String}
    (h : SaveEnds path settings w (.error (.unsaid reason) w')) :
    w.files.Rewritten path settings.toPrettyJson w'.files := by
  cases h with
  | unsaid hsave hrefused => exact saveSettings_stores hsave
  | unsaved hsave => exact absurd rfl ((saveSettings_error hsave).2 reason)

theorem SaveEnds.sameFiles_of_error {e : CommandError}
    (h : SaveEnds path settings w (.error e w')) (hsaid : ∀ reason, e ≠ .unsaid reason) :
    w.files.SameFiles w'.files := by
  cases h with
  | unsaid hsave hrefused => exact absurd rfl (hsaid _)
  | unsaved hsave => exact (saveSettings_error hsave).1

theorem saveEnds_bind (path : String) (settings : Settings) (line : String) (w : Workplace) :
    SaveEnds path settings w
      ((saveSettings path settings >>= fun _ =>
        CommandM.say line >>= fun _ => pure .success) w) := by
  rcases hsave : saveSettings path settings w with ⟨_, saved⟩ | ⟨e, w'⟩
  · have hsay := CommandM.say_eq line saved
    rw [CommandM.bind_of_ok hsave]
    cases hrefusal : saved.refusal? saved.output line <;> rw [hrefusal] at hsay
    · rw [CommandM.bind_of_ok hsay]
      exact .said hsave hrefusal
    · rw [CommandM.bind_of_error hsay]
      exact .unsaid hsave hrefusal
  · rw [CommandM.bind_of_error hsave]
    exact .unsaved hsave

end Save

/-! ## Commands that change settings -/

namespace Command

def changesSettings : Command → Bool
  | .rulesEnable _ | .rulesDisable _ | .importFrom .. => true
  | _ => false

/-- The settings that a command makes of those that were loaded. -/
inductive Makes (files : Files.Tree) (loaded : Settings) : Command → Settings → Prop
  | enable {index : Nat} {settings : Settings} :
      loaded.setEnabled index true = .ok settings → Makes files loaded (.rulesEnable index) settings
  | disable {index : Nat} {settings : Settings} :
      loaded.setEnabled index false = .ok settings →
      Makes files loaded (.rulesDisable index) settings
  | importFrom {file : String} {imported : Settings} (overwrite : Bool) (only : List String) :
      files.find? file ≠ none → files.Stores file imported →
      Makes files loaded (.importFrom file overwrite only)
        (loaded.merge imported
          { duplicates := if overwrite then .overwrite else .skip
            only := if only = [] then none else some only }).1

/-- The file besides the settings that a command writes. -/
def output? (today : Date) : Command → Option String
  | .backup out => some (out.getD (backupFileName today))
  | .share _ out => out
  | _ => none

end Command

section Run

variable {a b : Arguments} {s : Surroundings} {w w' : Workplace} {loaded settings : Settings}

theorem Configuration.ofExcept_load (h : w.files.Stores a.settings loaded) :
    (ofExcept (Configuration.load w.files a) : CommandM Configuration) w =
      .ok (.ofArguments a loaded) w := by
  rw [Configuration.load, loadSettings_eq_ok_iff.2 h]
  rfl

theorem Configuration.setRule_of_ok {c : Configuration} {index : Nat} {enabled : Bool}
    (h : c.settings.setEnabled index enabled = .ok settings) :
    SaveEnds c.settingsPath settings w (c.setRule index enabled w) := by
  obtain ⟨site, hsite, hset⟩ := Settings.setEnabled_eq_ok_iff.1 h
  have hswitched : settings.sites[index]? = some { site with enabled := some enabled } := by
    rw [hset]
    exact List.getElem?_set_self (List.getElem?_eq_some_iff.1 hsite).1
  simp only [Configuration.setRule, h, hswitched]
  exact saveEnds_bind c.settingsPath settings _ w

theorem Configuration.importFrom_of_stores {c : Configuration} {file : String}
    {imported : Settings} (hthere : w.files.find? file ≠ none)
    (himported : w.files.Stores file imported) (overwrite : Bool) (only : List String) :
    SaveEnds c.settingsPath
      (c.settings.merge imported
        { duplicates := if overwrite then .overwrite else .skip
          only := if only = [] then none else some only }).1 w
      (c.importFrom file overwrite only w) := by
  have hholds : w.files.holds file = true := Option.isSome_iff_ne_none.2 hthere
  have hloaded : (ofExcept (loadSettings w.files file) : CommandM Settings) w =
      .ok imported w := by
    rw [loadSettings_eq_ok_iff.2 himported]
    rfl
  have hoptions : (if only.isEmpty then none else some only) =
      if only = [] then none else some only := by
    simp only [List.isEmpty_iff]
  unfold Configuration.importFrom
  simp only [CommandM.get_bind, hholds, hoptions, CommandM.bind_of_ok hloaded, Bool.not_true,
    Bool.false_eq_true, if_false]
  exact saveEnds_bind c.settingsPath _ _ w

theorem Configuration.setRule_of_error {c : Configuration} {index : Nat} {enabled : Bool}
    {e : RuleError} (h : c.settings.setEnabled index enabled = .error e) (w : Workplace) :
    c.setRule index enabled w = .error (.rule e) w := by
  simp only [Configuration.setRule, h]
  rfl

theorem Configuration.importFrom_of_not_stores {c : Configuration} {file : String}
    {overwrite : Bool} {only : List String}
    (h : w.files.find? file ≠ none → ∀ imported, ¬ w.files.Stores file imported) :
    ∃ e, (∀ reason, e ≠ .unsaid reason) ∧ c.importFrom file overwrite only w = .error e w := by
  unfold Configuration.importFrom
  by_cases hthere : w.files.find? file = none
  · have hholds : w.files.holds file = false := by simp [Files.Tree.holds, hthere]
    simp only [CommandM.get_bind, hholds]
    exact ⟨.noImportFile file, nofun, rfl⟩
  · have hholds : w.files.holds file = true := Option.isSome_iff_ne_none.2 hthere
    rcases hload : loadSettings w.files file with e | imported
    · simp only [CommandM.get_bind, hholds, hload, Bool.not_true, Bool.false_eq_true, if_false]
      exact ⟨e, loadSettings_ne_unsaid hload, rfl⟩
    · exact absurd (loadSettings_eq_ok_iff.1 hload) (h hthere imported)

/-- A command that makes settings of those that were loaded does nothing but store them and say
so. -/
theorem run_of_makes (hload : w.files.Stores a.settings loaded)
    (hmakes : a.command.Makes w.files loaded settings) :
    SaveEnds a.settings settings w (a.run s w) := by
  unfold Arguments.run
  rw [CommandM.get_bind, CommandM.bind_of_ok (Configuration.ofExcept_load hload)]
  generalize a.command = command at hmakes ⊢
  cases hmakes with
  | enable h => exact Configuration.setRule_of_ok (c := .ofArguments a loaded) h
  | disable h => exact Configuration.setRule_of_ok (c := .ofArguments a loaded) h
  | importFrom overwrite only hthere himported =>
    exact Configuration.importFrom_of_stores (c := .ofArguments a loaded) hthere himported
      overwrite only

/-- Without settings to store, a command that changes settings ends with nothing done. -/
theorem run_of_not_makes (hchanges : a.command.changesSettings)
    (h : ∀ loaded settings, w.files.Stores a.settings loaded →
      ¬ a.command.Makes w.files loaded settings) :
    ∃ e, (∀ reason, e ≠ .unsaid reason) ∧ a.run s w = .error e w := by
  unfold Arguments.run
  rw [CommandM.get_bind]
  rcases hload : loadSettings w.files a.settings with e | loaded
  · simp only [Configuration.load, hload]
    exact ⟨e, loadSettings_ne_unsaid hload, rfl⟩
  have hstores := loadSettings_eq_ok_iff.1 hload
  rw [CommandM.bind_of_ok (Configuration.ofExcept_load hstores)]
  replace h := fun settings => h loaded settings hstores
  generalize a.command = command at hchanges h ⊢
  cases command with
  | rulesEnable index =>
    rcases hset : loaded.setEnabled index true with e | settings
    · exact ⟨.rule e, nofun, Configuration.setRule_of_error hset w⟩
    · exact absurd (.enable hset) (h settings)
  | rulesDisable index =>
    rcases hset : loaded.setEnabled index false with e | settings
    · exact ⟨.rule e, nofun, Configuration.setRule_of_error hset w⟩
    · exact absurd (.disable hset) (h settings)
  | importFrom file overwrite only =>
    refine Configuration.importFrom_of_not_stores fun hthere imported himported => ?_
    exact h _ (.importFrom overwrite only hthere himported)
  | _ => cases hchanges

/-- A command that changes settings stores what it makes, or ends with nothing done. -/
theorem run_cases (s : Surroundings) (w : Workplace) (hchanges : a.command.changesSettings) :
    (∃ loaded settings, w.files.Stores a.settings loaded ∧
      a.command.Makes w.files loaded settings ∧ SaveEnds a.settings settings w (a.run s w)) ∨
    ∃ e, (∀ reason, e ≠ .unsaid reason) ∧ a.run s w = .error e w := by
  by_cases hmade : ∃ loaded settings, w.files.Stores a.settings loaded ∧
      a.command.Makes w.files loaded settings
  · obtain ⟨loaded, settings, hload, hmakes⟩ := hmade
    exact .inl ⟨loaded, settings, hload, hmakes, run_of_makes hload hmakes⟩
  · push Not at hmade
    exact .inr (run_of_not_makes hchanges hmade)

/-- Commands that change settings see of the command line its command and its settings file. -/
theorem run_eq_of_changesSettings (hchanges : a.command.changesSettings)
    (hcommand : b.command = a.command) (hsettings : b.settings = a.settings)
    (s' : Surroundings) : b.run s' w = a.run s w := by
  unfold Arguments.run
  rw [CommandM.get_bind, CommandM.get_bind]
  rcases hload : loadSettings w.files a.settings with e | loaded
  · simp only [Configuration.load, hsettings, hload]
    rfl
  have hstores := loadSettings_eq_ok_iff.1 hload
  rw [CommandM.bind_of_ok (Configuration.ofExcept_load hstores),
    CommandM.bind_of_ok (Configuration.ofExcept_load (hsettings ▸ hstores)), hcommand]
  -- the two configurations differ in what the command line overrides, which none of these reads
  generalize a.command = command at hchanges ⊢
  cases command with
  | rulesEnable index =>
    simp only [Configuration.setRule, Configuration.save, Configuration.ofArguments, hsettings]
  | rulesDisable index =>
    simp only [Configuration.setRule, Configuration.save, Configuration.ofArguments, hsettings]
  | importFrom file overwrite only =>
    simp only [Configuration.importFrom, Configuration.save, Configuration.ofArguments, hsettings]
  | _ => cases hchanges

end Run

/-! ## Commands that do not -/

section Keep

variable {path out : String} {w : Workplace}

theorem find?_writeFile_bind {α : Type} {next : Unit → CommandM α}
    (hnext : ∀ a, CommandM.LeavesFiles (next a)) (h : ¬ w.files.Meet out path)
    (wrap : Files.Error → CommandError) (text : String) :
    (Files.stateAfter ((CommandM.writeFile wrap out text >>= next) w)).files.find? path =
      w.files.find? path := by
  have hwrite := CommandM.writeFile_eq wrap out text w
  rcases hfiles : w.files.write out text with e | files
  · rw [hfiles] at hwrite
    rw [CommandM.bind_of_error hwrite]
    rfl
  · rw [hfiles] at hwrite
    rw [CommandM.bind_of_ok hwrite, hnext]
    exact Files.Tree.find?_write_of_not_meet hfiles h

theorem Configuration.find?_backup (c : Configuration) (today : Date) (out : Option String)
    (h : ¬ w.files.Meet (out.getD (backupFileName today)) path) :
    (Files.stateAfter (c.backup today out w)).files.find? path = w.files.find? path :=
  find?_writeFile_bind
    (fun _ => (CommandM.leavesFiles_say _).bind fun _ => CommandM.leavesFiles_pure _) h _ _

theorem Configuration.find?_share (c : Configuration) (names : List String) (out : Option String)
    (h : ∀ other, out = some other → ¬ w.files.Meet other path) :
    (Files.stateAfter (c.share names out w)).files.find? path = w.files.find? path := by
  unfold Configuration.share
  cases shareDocument c.settings.sites names with
  | error e => rfl
  | ok document =>
    cases out with
    | none =>
      have hleaves := (CommandM.leavesFiles_say document).bind fun _ =>
        CommandM.leavesFiles_pure Status.success
      exact congrArg (·.find? path) (hleaves w)
    | some other =>
      exact find?_writeFile_bind
        (fun _ => (CommandM.leavesFiles_say _).bind fun _ => CommandM.leavesFiles_pure _)
        (h other rfl) _ _

/-- A command that does not change settings leaves their file alone, unless it is told to write to
that file. -/
theorem find?_run_of_not_changesSettings {a : Arguments} (s : Surroundings)
    (hkeeps : a.command.changesSettings = false)
    (hout : ∀ out, a.command.output? s.today = some out → ¬ w.files.Meet out a.settings) :
    (Files.stateAfter (a.run s w)).files.find? a.settings = w.files.find? a.settings := by
  unfold Arguments.run
  rw [CommandM.get_bind]
  rcases Configuration.load w.files a with e | c
  · rfl
  have hloaded : (ofExcept (.ok c) : CommandM Configuration) w = .ok c w := rfl
  rw [CommandM.bind_of_ok hloaded]
  have hleaves {work : CommandM Status} (h : CommandM.LeavesFiles work) :
      (Files.stateAfter (work w)).files.find? a.settings = w.files.find? a.settings := by
    rw [h w]
  generalize a.settings = path at hout hleaves ⊢
  generalize a.command = command at hkeeps hout ⊢
  -- two commands write a file of their own, and the rest write none
  cases command with
  | check url => exact hleaves (c.leavesFiles_check url)
  | extract url => exact hleaves (c.leavesFiles_extract s url a.headed)
  | resolve => exact hleaves (c.leavesFiles_resolve s)
  | add url => exact hleaves (c.leavesFiles_add s url a.headed a.dryRun)
  | rulesList => exact hleaves c.leavesFiles_listRules
  | backup out => exact c.find?_backup s.today out (hout _ rfl)
  | share names out => exact c.find?_share names out fun other h => hout other h
  | rulesEnable | rulesDisable | importFrom => cases hkeeps

end Keep

/-! ## Discipline -/

/--
A command that changes settings stores what it makes of the loaded ones, whatever else the command
line said. Where it ends well or fails for want of saying so, their file holds that and no other
file has changed; where it fails otherwise, every file is as it was. Another command leaves the
settings alone unless its output goes to their very file.
-/
theorem run_persists (a : Arguments) (s : Surroundings) (w : Workplace) :
    (a.command.changesSettings →
      (∀ loaded settings, w.files.Stores a.settings loaded →
        a.command.Makes w.files loaded settings → SaveEnds a.settings settings w (a.run s w)) ∧
      (∀ w', ((∃ status, a.run s w = .ok status w') ∨
          ∃ reason, a.run s w = .error (.unsaid reason) w') →
        ∃ loaded settings, w.files.Stores a.settings loaded ∧
          a.command.Makes w.files loaded settings ∧
          w.files.Rewritten a.settings settings.toPrettyJson w'.files) ∧
      (∀ e w', a.run s w = .error e w' → (∀ reason, e ≠ .unsaid reason) →
        w.files.SameFiles w'.files) ∧
      ∀ (b : Arguments) (s' : Surroundings), b.command = a.command → b.settings = a.settings →
        b.run s' w = a.run s w) ∧
    (a.command.changesSettings = false →
      (∀ out, a.command.output? s.today = some out → ¬ w.files.Meet out a.settings) →
        (Files.stateAfter (a.run s w)).files.find? a.settings = w.files.find? a.settings) := by
  refine ⟨fun hchanges => ⟨?made, ?stored, ?fails, ?ignores⟩, ?keeps⟩
  case made => exact fun _ _ hload hmakes => run_of_makes hload hmakes
  case stored =>
    intro w' hends
    obtain ⟨loaded, settings, hload, hmakes, hsaves⟩ | ⟨e, hsaid, hrun⟩ := run_cases s w hchanges
    · refine ⟨loaded, settings, hload, hmakes, ?_⟩
      obtain ⟨status, hrun⟩ | ⟨reason, hrun⟩ := hends <;> rw [hrun] at hsaves
      · exact hsaves.rewritten_of_ok
      · exact hsaves.rewritten_of_unsaid
    · rw [hrun] at hends
      obtain ⟨status, ⟨⟩⟩ | ⟨reason, ⟨⟩⟩ := hends
      exact absurd rfl (hsaid reason)
  case fails =>
    intro e w' hrun hsaid
    obtain ⟨loaded, settings, -, -, hsaves⟩ | ⟨e', -, hrun'⟩ := run_cases s w hchanges
    · rw [hrun] at hsaves
      exact hsaves.sameFiles_of_error hsaid
    · rw [hrun'] at hrun
      cases hrun
      exact .refl w.files
  case ignores =>
    exact fun b s' hcommand hsettings => run_eq_of_changesSettings hchanges hcommand hsettings s'
  case keeps => exact find?_run_of_not_changesSettings s

/-- An import with a key on the command line. -/
def Arguments.importing : Arguments where
  settings := "settings.json"
  apiKey := some "given"
  command := .importFrom "shared.json" false []

def Surroundings.offline : Surroundings where
  network := .down
  browser := .unreachable
  today := ⟨1970, 1, 1, by decide, by decide⟩

/-- Nothing but a document to import, where some lines cannot be written. -/
def Workplace.unconfigured (refusal? : String → String → Option String) : Workplace where
  files := { entries := [(["shared.json"], .text "\x7b\"apiKey\":\"shared\"\x7d")] }
  refusal? := refusal?

theorem Workplace.makes_unconfigured (refusal? : String → String → Option String) :
    Arguments.importing.command.Makes (Workplace.unconfigured refusal?).files {}
      { apiKey := some "shared" } := by
  have himported : Files.Tree.Stores (Workplace.unconfigured refusal?).files "shared.json"
      { apiKey := some "shared" } := .inr ⟨_, rfl, rfl⟩
  have hthere : (Workplace.unconfigured refusal?).files.find? "shared.json" ≠ none :=
    Option.isSome_iff_ne_none.1 rfl
  exact .importFrom false [] hthere himported

/-- The key of the imported document is stored, not the one on the command line, also where there is
no room for the message. -/
theorem run_persists_importing :
    (∃ w', Arguments.importing.run .offline (.unconfigured fun _ _ => none) = .ok .success w' ∧
      w'.files.find? "settings.json" =
        some (.text (Settings.toPrettyJson { apiKey := some "shared" }))) ∧
    ∃ w', Arguments.importing.run .offline (.unconfigured fun _ _ => some "No space left") =
        .error (.unsaid "No space left") w' ∧
      w'.files.find? "settings.json" =
        some (.text (Settings.toPrettyJson { apiKey := some "shared" })) := by
  have hsaves (refusal? : String → String → Option String) :
      SaveEnds "settings.json" { apiKey := some "shared" } (.unconfigured refusal?)
        (Arguments.importing.run .offline (.unconfigured refusal?)) :=
    ((run_persists .importing .offline (.unconfigured refusal?)).1 rfl).1 {} _ (.inl ⟨rfl, rfl⟩)
      (Workplace.makes_unconfigured refusal?)
  have hstored (refusal? : String → String → Option String) : ∃ saved,
      saveSettings "settings.json" { apiKey := some "shared" } (.unconfigured refusal?) =
        .ok () saved ∧
      saved.refusal? = refusal? ∧
      saved.files.find? "settings.json" =
        some (.text (Settings.toPrettyJson { apiKey := some "shared" })) := by
    obtain ⟨saved, hsave, hrefusal⟩ : ∃ saved,
        saveSettings "settings.json" { apiKey := some "shared" } (.unconfigured refusal?) =
          .ok () saved ∧ saved.refusal? = refusal? := ⟨_, rfl, rfl⟩
    exact ⟨saved, hsave, hrefusal, (saveSettings_stores hsave).found⟩
  constructor
  · obtain ⟨saved, hsave, hrefusal, hfound⟩ := hstored fun _ _ => none
    obtain ⟨line, hrun⟩ := (hsaves _).exists_of_ok hsave
    rw [hrefusal] at hrun
    exact ⟨_, hrun, hfound⟩
  · obtain ⟨saved, hsave, hrefusal, hfound⟩ := hstored fun _ _ => some "No space left"
    obtain ⟨line, hrun⟩ := (hsaves _).exists_of_ok hsave
    rw [hrefusal] at hrun
    exact ⟨_, hrun, hfound⟩

end ShowScout
