import Mathlib.Data.List.DropRight
import ShowScout.Files.Tree

/-!
# What changes in a tree of files

Writing a file is seen where its path leads and nowhere else: a path leads to the same place before
and after, because only what is no directory is ever written. Making directories changes the
contents of no file.
-/

namespace ShowScout.Files

/-! ## Texts -/

@[simp]
theorem Entry.text_inj {s t : String} : Entry.text s = .text t ↔ s = t := by
  simp [Entry.text, String.toUTF8, String.toByteArray_inj]

@[simp]
theorem Entry.text_ne_directory (s : String) : Entry.text s ≠ .directory := nofun

theorem fromUTF8?_eq_some_iff {contents : ByteArray} {text : String} :
    String.fromUTF8? contents = some text ↔ contents = text.toUTF8 := by
  unfold String.fromUTF8?
  split
  · rw [Option.some.injEq, ← String.toByteArray_inj]
    rfl
  · rename_i hinvalid
    simp only [reduceCtorEq, false_iff]
    rintro rfl
    exact hinvalid text.isValidUTF8

namespace Tree

variable {t u : Tree} {path other text : String} {place : Place} {entry : Entry}

/-! ## Entries -/

@[simp]
theorem entryAt_root (t : Tree) : t.entry? [] = some .directory := rfl

theorem entryAt_of_ne_nil (h : place ≠ []) : t.entry? place = t.entries.lookup place := by
  cases place with
  | nil => exact absurd rfl h
  | cons name above => rfl

theorem lookup_filter_ne {entries : List (Place × Entry)} {elsewhere : Place}
    (h : elsewhere ≠ place) :
    (entries.filter (·.1 != place)).lookup elsewhere = entries.lookup elsewhere := by
  induction entries with
  | nil => rfl
  | cons first rest ih =>
    obtain ⟨key, value⟩ := first
    by_cases hkey : key = place
    · subst hkey
      simp [List.lookup_cons, beq_false_of_ne h, ih]
    · simp [hkey, List.lookup_cons, ih]

theorem entryAt_put_self (h : place ≠ []) :
    entry? (t.put place entry) place = some entry := by
  simp [entryAt_of_ne_nil h, put]

theorem entryAt_put_of_ne {elsewhere : Place} (h : elsewhere ≠ place) :
    entry? (t.put place entry) elsewhere = t.entry? elsewhere := by
  cases elsewhere with
  | nil => rfl
  | cons name above =>
    rw [entryAt_of_ne_nil (List.cons_ne_nil name above),
      entryAt_of_ne_nil (List.cons_ne_nil name above), put, List.lookup_cons,
      beq_false_of_ne h, lookup_filter_ne h]

/-! ## Places -/

/-- The same directories at the same places, so that a path leads to the same place. -/
structure SameDirectories (t u : Tree) : Prop where
  workingDirectory : u.workingDirectory = t.workingDirectory
  entry (place : Place) : u.entry? place = some .directory ↔ t.entry? place = some .directory

theorem step_eq_ok_iff {part : List Char} {next : Place} :
    t.step place part = .ok next ↔ t.entry? place = some .directory ∧
      (if isIdle part then .ok place
        else if part == ['.', '.'] then .ok place.tail
        else if 255 < (String.ofList part).utf8ByteSize then .error .nameTooLong
        else .ok (.ofList part :: place)) = Except.ok (ε := Error) next := by
  unfold step
  rcases t.entry? place with _ | (_ | _) <;> simp

theorem SameDirectories.step_eq_ok_iff (h : t.SameDirectories u) {part : List Char}
    {next : Place} : u.step place part = .ok next ↔ t.step place part = .ok next := by
  rw [Tree.step_eq_ok_iff, Tree.step_eq_ok_iff, h.entry]

theorem SameDirectories.foldlM_step_eq_ok_iff (h : t.SameDirectories u) {parts : List (List Char)}
    {start : Place} :
    parts.foldlM u.step start = .ok place ↔ parts.foldlM t.step start = .ok place := by
  induction parts generalizing start with
  | nil => rfl
  | cons part rest ih =>
    have hbind (v : Tree) : (part :: rest).foldlM v.step start = .ok place ↔
        ∃ next, v.step start part = .ok next ∧ rest.foldlM v.step next = .ok place := by
      rw [List.foldlM_cons]
      cases v.step start part <;> simp [bind, Except.bind]
    simp only [hbind, h.step_eq_ok_iff, ih]

theorem SameDirectories.place_eq_ok_iff (h : t.SameDirectories u) :
    u.place path = .ok place ↔ t.place path = .ok place := by
  unfold Tree.place Tree.follow
  split
  · rfl
  split
  · rfl
  split
  · rfl
  rw [h.foldlM_step_eq_ok_iff, h.workingDirectory]

/-! ## Reading -/

/-- Only a file that holds a text can be read. -/
theorem read_eq_ok_iff : t.read path = .ok text ↔ t.find? path = some (.text text) := by
  unfold read find?
  rcases t.place path with error | place
  · simp [bind, Except.bind]
  · rcases h : t.entry? place with _ | (contents | _)
    · simp [bind, Except.bind, h]
    · have htext := @fromUTF8?_eq_some_iff contents text
      cases hdecoded : String.fromUTF8? contents <;> rw [hdecoded] at htext <;>
        simp_all [bind, Except.bind, Entry.text]
    · simp [bind, Except.bind, h, Entry.text]

/-! ## Writing -/

theorem eq_nil_or_getLast?_of_splitOn {s : List Char}
    (h : (s.splitOn '/').getLast? = some []) : s = [] ∨ s.getLast? = some '/' := by
  induction s with
  | nil => exact .inl rfl
  | cons c rest ih =>
    obtain ⟨first, later, hsplit⟩ := List.exists_cons_of_ne_nil (List.splitOn_ne_nil '/' rest)
    rw [List.splitOn_cons_eq_if_modifyHead, hsplit] at h
    rw [hsplit] at ih
    by_cases hc : c = '/'
    · subst hc
      obtain rfl | hrest := ih (by simpa using h)
      · exact .inr rfl
      · exact .inr (by simp [List.getLast?_cons, hrest])
    · -- the part that `c` is put in front of is the last one only if there is no slash
      cases later with
      | nil => simp [hc] at h
      | cons second later =>
        obtain rfl | hrest := ih (by simpa [hc] using h)
        · simp at hsplit
        · exact .inr (by simp [List.getLast?_cons, hrest])

/-- Only a slash at the end of a path leaves a last part without a name. -/
theorem dropEnd_isEmpty_parts (hpath : path ≠ "") (h : path.toList.getLast? ≠ some '/') :
    Text.dropEnd List.isEmpty (parts path) = parts path := by
  refine List.rdropWhile_eq_self_iff.2 fun hne hempty => ?_
  have hlast : (parts path).getLast? = some [] := by
    rw [List.getLast?_eq_some_getLast hne, List.isEmpty_iff.1 hempty]
  obtain hnil | hslash := eq_nil_or_getLast?_of_splitOn hlast
  · exact hpath (String.toList_eq_nil_iff.1 hnil)
  · exact h hslash

/-- A file is written at the place where its path leads. -/
theorem exists_of_write_eq_ok (h : t.write path text = .ok u) :
    ∃ place, t.place path = .ok place ∧ t.entry? place ≠ some .directory ∧
      u = t.put place (.text text) := by
  have hpath : path ≠ "" := by
    rintro rfl
    simp [write, follow, bind, Except.bind] at h
  unfold write at h
  rcases hfollow : t.follow path (Text.dropEnd List.isEmpty (parts path)) with error | place
  · simp [hfollow, bind, Except.bind] at h
  rw [hfollow] at h
  simp only [bind, Except.bind] at h
  split at h
  · cases h
  · rename_i hfile
    simp only [Bool.or_eq_true, beq_iff_eq, not_or] at hfile
    rw [dropEnd_isEmpty_parts hpath hfile.1] at hfollow
    exact ⟨place, hfollow, hfile.2, (Except.ok.inj h).symm⟩

theorem sameDirectories_put_text (h : t.entry? place ≠ some .directory) (text : String) :
    t.SameDirectories (t.put place (.text text)) where
  workingDirectory := rfl
  entry elsewhere := by
    have hroot : place ≠ [] := by
      rintro rfl
      exact h rfl
    by_cases heq : elsewhere = place
    · subst heq
      simp [entryAt_put_self hroot, h]
    · rw [entryAt_put_of_ne heq]

/-- What is written to a file is what is read from it. -/
theorem find?_write (h : t.write path text = .ok u) : u.find? path = some (.text text) := by
  obtain ⟨place, hplace, hentry, rfl⟩ := exists_of_write_eq_ok h
  have hroot : place ≠ [] := by
    rintro rfl
    exact hentry rfl
  have hagain := (sameDirectories_put_text hentry text).place_eq_ok_iff.2 hplace
  simp [find?, hagain, entryAt_put_self hroot]

/-- Two paths lead to one place. -/
def Meet (t : Tree) (path other : String) : Prop :=
  ∃ place, t.place path = .ok place ∧ t.place other = .ok place

/-- Nothing else is found where other paths lead. -/
theorem find?_write_of_not_meet (h : t.write path text = .ok u) (hother : ¬ t.Meet path other) :
    u.find? other = t.find? other := by
  obtain ⟨place, hplace, hentry, rfl⟩ := exists_of_write_eq_ok h
  have hsame := sameDirectories_put_text hentry text
  unfold find?
  rcases hfound : t.place other with error | elsewhere
  · -- a path that leads nowhere still leads nowhere
    rcases hagain : (t.put place (.text text)).place other with _ | elsewhere
    · rfl
    · rw [hsame.place_eq_ok_iff.1 hagain] at hfound
      cases hfound
  · rw [hsame.place_eq_ok_iff.2 hfound]
    refine entryAt_put_of_ne ?_
    rintro rfl
    exact hother ⟨elsewhere, hplace, hfound⟩

/-! ## Files -/

/-- The same files with the same contents at the same places. -/
def SameFiles (t u : Tree) : Prop :=
  ∀ place contents, u.entry? place = some (.file contents) ↔ t.entry? place = some (.file contents)

theorem SameFiles.refl (t : Tree) : t.SameFiles t := fun _ _ => Iff.rfl

theorem SameFiles.trans {v : Tree} (h : t.SameFiles u) (h' : u.SameFiles v) : t.SameFiles v :=
  fun place contents => (h' place contents).trans (h place contents)

/-- All files of `u` are those of `t`, but for the one to which a path leads. It holds a text. -/
structure Rewritten (t : Tree) (path text : String) (u : Tree) : Prop where
  found : u.find? path = some (.text text)
  elsewhere : ∃ place, u.place path = .ok place ∧ ∀ other ≠ place, ∀ contents,
    u.entry? other = some (.file contents) ↔ t.entry? other = some (.file contents)

theorem rewritten_of_write (h : t.write path text = .ok u) : t.Rewritten path text u where
  found := find?_write h
  elsewhere := by
    obtain ⟨place, hplace, hentry, rfl⟩ := exists_of_write_eq_ok h
    refine ⟨place, (sameDirectories_put_text hentry text).place_eq_ok_iff.2 hplace, ?_⟩
    intro other hother contents
    rw [entryAt_put_of_ne hother]

theorem SameFiles.rewritten {v : Tree} (h : t.SameFiles u) (h' : u.Rewritten path text v) :
    t.Rewritten path text v where
  found := h'.found
  elsewhere := by
    obtain ⟨place, hplace, hothers⟩ := h'.elsewhere
    refine ⟨place, hplace, fun other hother contents => ?_⟩
    exact (hothers other hother contents).trans (h other contents)

theorem sameFiles_put_directory (h : t.entry? place = none) :
    t.SameFiles (t.put place .directory) := by
  intro elsewhere contents
  have hroot : place ≠ [] := by
    rintro rfl
    cases h
  by_cases heq : elsewhere = place
  · subst heq
    simp [entryAt_put_self hroot, h]
  · rw [entryAt_put_of_ne heq]

theorem sameFiles_makeDirectory (h : t.makeDirectory path = .ok u) : t.SameFiles u := by
  unfold makeDirectory at h
  rcases hplace : t.place path with error | place
  · simp [hplace, bind, Except.bind] at h
  · by_cases hfree : (t.entry? place).isSome
    · simp [hplace, hfree, bind, Except.bind] at h
    · simp only [hplace, hfree, bind, Except.bind, Bool.false_eq_true, if_false,
        Except.ok.injEq] at h
      subst h
      exact sameFiles_put_directory (by simpa using hfree)

end Tree

/-! ## Making directories -/

/-- The state in which work ends, also when it fails. -/
def stateAfter {ε σ α : Type} : EStateM.Result ε σ α → σ
  | .ok _ s => s
  | .error _ s => s

theorem ensureDirectory_eq (path : String) (t : Tree) :
    ensureDirectory path t =
      match t.makeDirectory path with
      | .ok u => .ok () u
      | .error e => if t.isDirectory path then .ok () t else .error e t := by
  have hget (f : Tree → FileM Unit) : (get >>= f) t = f t t := rfl
  rw [ensureDirectory, hget]
  cases t.makeDirectory path with
  | ok u => rfl
  | error e =>
    simp only [hget]
    cases t.isDirectory path <;> rfl

theorem sameFiles_ensureDirectory (path : String) (t : Tree) :
    t.SameFiles (stateAfter (ensureDirectory path t)) := by
  rw [ensureDirectory_eq]
  rcases h : t.makeDirectory path with e | u
  · by_cases hthere : t.isDirectory path <;> simp [hthere, stateAfter, Tree.SameFiles.refl]
  · exact Tree.sameFiles_makeDirectory h

/-- The directories above are made only where the directory itself cannot be. -/
theorem ensureAncestry_cons_cases (path : String) (above : List String) (t : Tree) :
    ensureAncestry (path :: above) t = ensureDirectory path t ∨
      ensureAncestry (path :: above) t =
        match ensureAncestry above t with
        | .ok _ u => ensureDirectory path u
        | .error e u => .error e u := by
  have hget (f : Tree → FileM Unit) : (get >>= f) t = f t t := rfl
  rw [ensureAncestry, hget]
  rcases t.makeDirectory path with error | u
  · cases error with
    | notFound =>
      refine .inr ?_
      simp only [bind, EStateM.bind]
      cases ensureAncestry above t <;> rfl
    | _ => exact .inl rfl
  · exact .inl rfl

theorem sameFiles_ensureAncestry (paths : List String) (t : Tree) :
    t.SameFiles (stateAfter (ensureAncestry paths t)) := by
  induction paths with
  | nil => exact .refl t
  | cons path above ih =>
    obtain h | h := ensureAncestry_cons_cases path above t <;> rw [h]
    · exact sameFiles_ensureDirectory path t
    · cases habove : ensureAncestry above t with
      | ok _ u =>
        rw [habove] at ih
        exact ih.trans (sameFiles_ensureDirectory path u)
      | error e u =>
        rw [habove] at ih
        exact ih

/-- Directories are made beside the files that there are. -/
theorem sameFiles_ensureDirectories (path : String) (t : Tree) :
    t.SameFiles (stateAfter (ensureDirectories path t)) :=
  sameFiles_ensureAncestry (ancestry path) t

end ShowScout.Files
