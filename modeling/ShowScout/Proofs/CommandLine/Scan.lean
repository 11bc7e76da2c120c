import Mathlib.Data.List.Basic
import ShowScout.CommandLine.Arguments

/-!
# What a word does

What a word is at a level depends on little of what was read before: whether dashes still have a
meaning, whether an option awaits a text, and whether the operand has been there. What has been
given so far matters only in that an argument may not be given again. So the words behind are read
alike, whatever was given before them, as long as nothing is given twice (`Level.read_frame`); and
an option that has its text might be taken over at once (`Level.read_eq_ok_iff_settle`).
-/

namespace ShowScout.CommandLine

theorem bind_eq_ok_iff {ε α β : Type} {result : Except ε α} {next : α → Except ε β} {b : β} :
    result >>= next = .ok b ↔ ∃ a, result = .ok a ∧ next a = .ok b := by
  cases result with
  | error fault => simp [bind, Except.bind]
  | ok a => simp [bind, Except.bind]

/-! ## Roles of words -/

/-- What a word is at a level. -/
inductive Role where
  /-- After it, dashes have no meaning. -/
  | endOfOptions
  /-- One more text for the argument that awaits it. -/
  | text (word : String)
  /-- An option with all that it takes. -/
  | whole (a : Argument) (texts : List String)
  /-- An option whose text is still to come. -/
  | opening (a : Argument)
  | operand (a : Argument) (word : String)

namespace Level

/-- What an option without an attached text is. One that asks for help or for the version has no
role, since nothing is read behind it. -/
def optionRole? (a : Argument) : Option Role :=
  if a = .help ∨ a = .version then none
  else if a.kind = .flag then some (.whole a []) else some (.opening a)

/-- What a word with two dashes is. -/
def longRole? (level : Level) (rest : List Char) : Option Role :=
  match level.option? (.ofList (rest.takeWhile (· != '='))), rest.dropWhile (· != '=') with
  | none, _ => none
  | some a, [] => optionRole? a
  | some a, _ :: attached =>
    if a.kind = .flag then none else some (.whole a [.ofList attached])

def operandRole? (level : Level) (hasOperand : Bool) (word : String) : Option Role :=
  if hasOperand then none else level.operand?.map (.operand · word)

/-- What a word is at a level, unless it is refused there. -/
def role? (level : Level) (s : Scan) (word : String) : Option Role :=
  if s.operandsOnly then level.operandRole? s.hasOperand word
  else
    match word.toList with
    | ['-', '-'] => some .endOfOptions
    | '-' :: '-' :: rest => level.longRole? rest
    | '-' :: _ :: _ => none
    | _ =>
      if s.awaiting?.isSome then some (.text word) else level.operandRole? s.hasOperand word

variable {level : Level} {s t : Scan} {word : String}

/-- The word stands for itself unless dashes have no meaning. -/
def isDashed (word : String) : Bool :=
  match word.toList with
  | '-' :: _ :: _ => true
  | _ => false

theorem role?_of_not_isDashed (hoperands : s.operandsOnly = false) (h : isDashed word = false) :
    level.role? s word =
      if s.awaiting?.isSome then some (.text word) else level.operandRole? s.hasOperand word := by
  unfold isDashed at h
  unfold role?
  rw [hoperands]
  split at h
  · cases h
  · rename_i hplain
    split
    · contradiction
    split
    · exact (hplain _ _ ‹_›).elim
    · exact (hplain _ _ ‹_›).elim
    · exact (hplain _ _ ‹_›).elim
    · rfl

theorem role?_congr (hoperands : t.operandsOnly = s.operandsOnly)
    (hoperand : t.hasOperand = s.hasOperand)
    (hawaiting : t.awaiting?.isSome = s.awaiting?.isSome) (word : String) :
    level.role? t word = level.role? s word := by
  unfold role?
  rw [hoperands, hoperand, hawaiting]

end Level

namespace Scan

variable {level : Level} {s t : Scan} {a : Argument} {word : String}

/-- What a word does that has a role. -/
def play (s : Scan) : Role → Except UsageError Scan
  | .endOfOptions => .ok { s with operandsOnly := true }
  | .text word =>
    .ok { s with pending := s.pending.map fun (a, texts) => (a, texts ++ [word]) }
  | .whole a texts => do (← s.settle).give a texts
  | .opening a => do return { ← s.settle with pending := some (a, []) }
  | .operand a word => do
    return { ← s.settle with pending := some (a, [word]), hasOperand := true }

theorem play_whole_eq_ok_iff {texts : List String} :
    s.play (.whole a texts) = .ok t ↔
      ∃ settled, s.settle = .ok settled ∧ settled.give a texts = .ok t := by
  rw [play, bind_eq_ok_iff]

theorem play_opening_eq_ok_iff :
    s.play (.opening a) = .ok t ↔
      ∃ settled, s.settle = .ok settled ∧ { settled with pending := some (a, []) } = t := by
  rw [play, bind_eq_ok_iff]
  simp [pure, Except.pure]

theorem play_operand_eq_ok_iff :
    s.play (.operand a word) = .ok t ↔
      ∃ settled, s.settle = .ok settled ∧
        { settled with pending := some (a, [word]), hasOperand := true } = t := by
  rw [play, bind_eq_ok_iff]
  simp [pure, Except.pure]

theorem meet_eq_ok_iff :
    s.meet level a = .ok t ↔ ∃ role ∈ Level.optionRole? a, s.play role = .ok t := by
  rw [meet, bind_eq_ok_iff, Level.optionRole?]
  split
  · simp
  · simp
  · rename_i hhelp hversion
    rw [if_neg (not_or.2 ⟨hhelp, hversion⟩)]
    by_cases hflag : a.kind = .flag
    · simp [hflag, play_whole_eq_ok_iff]
    · simp [hflag, play_opening_eq_ok_iff, pure, Except.pure]

theorem meetLong_eq_ok_iff {rest : List Char} :
    s.meetLong level rest = .ok t ↔ ∃ role ∈ level.longRole? rest, s.play role = .ok t := by
  unfold meetLong Level.longRole?
  dsimp only
  cases level.option? (.ofList (rest.takeWhile (· != '='))) with
  | none => simp
  | some a =>
    cases rest.dropWhile (· != '=') with
    | nil => exact meet_eq_ok_iff
    | cons _ attached =>
      by_cases hflag : a.kind = .flag
      · simp [hflag]
      · simp [hflag, play_whole_eq_ok_iff, bind_eq_ok_iff]

/-- The options with a letter ask for help and for the version. -/
theorem meetShort_ne_ok {letter : Char} : s.meetShort level letter ≠ .ok t := by
  unfold meetShort
  split
  · rename_i a hoption
    have hletter : a.letter? = some letter := by
      simpa using List.find?_some hoption
    rw [ne_eq, meet_eq_ok_iff, Level.optionRole?]
    cases a <;> first | cases hletter; simp | cases hletter
  · simp

theorem meetOperand_eq_ok_iff :
    s.meetOperand level word = .ok t ↔
      ∃ role ∈ level.operandRole? s.hasOperand word, s.play role = .ok t := by
  unfold meetOperand Level.operandRole?
  split
  · rename_i a hoperand
    cases hthere : s.hasOperand with
    | true => simp
    | false => simp [hoperand, play_operand_eq_ok_iff, bind_eq_ok_iff, pure, Except.pure]
  · rename_i hoperand
    split <;> simp [hoperand]

/-- A word is read if it has a role, and then does what this asks for. -/
theorem meetWord_eq_ok_iff :
    s.meetWord level word = .ok t ↔ ∃ role ∈ level.role? s word, s.play role = .ok t := by
  unfold meetWord
  split
  · rename_i hoperands
    rw [Level.role?, if_pos hoperands]
    exact meetOperand_eq_ok_iff
  rename_i hoperands
  split
  · rename_i hchars
    simp [Level.role?, hoperands, hchars, play]
  · rename_i hchars
    simp only [Level.role?, if_neg hoperands, hchars]
    exact meetLong_eq_ok_iff
  · rename_i letter rest _ _ hchars
    have hnone : ¬ s.meetShort level letter = .ok t := meetShort_ne_ok
    simp [Level.role?, hoperands, hchars, hnone]
  · rename_i hshort
    have hplain : Level.isDashed word = false := by
      unfold Level.isDashed
      split
      · exact (hshort _ _ ‹_›).elim
      · rfl
    rw [Level.role?_of_not_isDashed (Bool.eq_false_iff.2 hoperands) hplain]
    cases hawaiting : s.awaiting? with
    | none => exact meetOperand_eq_ok_iff
    | some option =>
      have hpending : s.pending = some option := (Option.filter_eq_some_iff.1 hawaiting).1
      simp [play, hpending]

end Scan

/-! ## What is given -/

/-- The arguments that have been given. -/
def argumentsOf (given : List (Argument × Value)) : List Argument :=
  given.map (·.1)

section Given

variable {given added : List (Argument × Value)} {a : Argument}

@[simp]
theorem argumentsOf_nil : argumentsOf [] = [] :=
  rfl

@[simp]
theorem argumentsOf_cons (x : Argument × Value) :
    argumentsOf (x :: given) = x.1 :: argumentsOf given :=
  rfl

@[simp]
theorem argumentsOf_append :
    argumentsOf (given ++ added) = argumentsOf given ++ argumentsOf added :=
  List.map_append

theorem isSome_lookup_iff : (given.lookup a).isSome ↔ a ∈ argumentsOf given := by
  simp [argumentsOf]

end Given

namespace Scan

variable {s t u : Scan} {a : Argument} {texts : List String}

theorem give_eq_ok_iff :
    s.give a texts = .ok t ↔
      (texts = [] → a.kind = .flag) ∧ (a.kind.isRepeatable = false → a ∉ argumentsOf s.given) ∧
        ∃ value, a.read texts = .ok value ∧ { s with given := s.given ++ [(a, value)] } = t := by
  unfold give
  split
  · rename_i hmissing
    simp only [Bool.and_eq_true, List.isEmpty_iff, bne_iff_ne, ne_eq] at hmissing
    simp [hmissing]
  split
  · rename_i hrepeated
    simp only [Bool.and_eq_true, isSome_lookup_iff, Bool.not_eq_true'] at hrepeated
    simp [hrepeated]
  · rename_i hmissing hrepeated
    simp only [Bool.and_eq_true, List.isEmpty_iff, bne_iff_ne, ne_eq, not_and, not_not] at hmissing
    simp only [Bool.and_eq_true, isSome_lookup_iff, Bool.not_eq_true', not_and] at hrepeated
    rw [bind_eq_ok_iff]
    constructor
    · rintro ⟨value, hvalue, h⟩
      exact ⟨hmissing, hrepeated, value, hvalue, Except.ok.inj h⟩
    · rintro ⟨-, -, value, hvalue, h⟩
      exact ⟨value, hvalue, congrArg _ h⟩

/-- The scan with something else given in it. -/
def giving (s : Scan) (given : List (Argument × Value)) : Scan :=
  { s with given }

@[simp]
theorem given_giving (s : Scan) (given : List (Argument × Value)) :
    (s.giving given).given = given :=
  rfl

@[simp]
theorem giving_giving (s : Scan) (given given' : List (Argument × Value)) :
    (s.giving given).giving given' = s.giving given' :=
  rfl

/-- The work on a scan adds to what is given, and would have added the same to anything else. Only
what is given there must not hold an argument that is added, unless it was given already. -/
def Frames (work : Scan → Except UsageError Scan) (s t : Scan) : Prop :=
  ∃ added, t.given = s.given ++ added ∧
    ∀ given, (∀ a ∈ argumentsOf added, a ∈ argumentsOf given → a ∈ argumentsOf s.given) →
      work (s.giving given) = .ok (t.giving (given ++ added))

theorem Frames.bind {first next : Scan → Except UsageError Scan} (h : Frames first s t)
    (hnext : Frames next t u) : Frames (fun s => first s >>= next) s u := by
  obtain ⟨added, hadded, hfirst⟩ := h
  obtain ⟨more, hmore, hnext⟩ := hnext
  refine ⟨added ++ more, by rw [hmore, hadded, List.append_assoc], ?_⟩
  intro given hfresh
  simp only [argumentsOf_append, List.mem_append] at hfresh
  rw [← List.append_assoc]
  refine bind_eq_ok_iff.2 ⟨_, hfirst given fun a ha => hfresh a (.inl ha), ?_⟩
  refine hnext (given ++ added) fun a ha hgiven => ?_
  rw [hadded]
  simp only [argumentsOf_append, List.mem_append] at hgiven ⊢
  exact hgiven.imp_left (hfresh a (.inr ha))

theorem frames_give (h : s.give a texts = .ok t) : Frames (·.give a texts) s t := by
  obtain ⟨htexts, hnew, value, hvalue, rfl⟩ := give_eq_ok_iff.1 h
  refine ⟨[(a, value)], rfl, fun given hfresh => ?_⟩
  refine give_eq_ok_iff.2 ⟨htexts, fun honce hgiven => ?_, value, hvalue, rfl⟩
  exact hnew honce (hfresh a List.mem_cons_self hgiven)

theorem frames_settle (h : s.settle = .ok t) : Frames settle s t := by
  unfold settle at h
  split at h
  · rename_i a texts hpending
    obtain ⟨added, hadded, hgive⟩ := frames_give h
    refine ⟨added, hadded, fun given hfresh => ?_⟩
    have hsettle :
        (s.giving given).settle = ({ s with pending := none }.giving given).give a texts := by
      simp [settle, giving, hpending]
    rw [hsettle]
    exact hgive given hfresh
  · rename_i hpending
    cases h
    refine ⟨[], by simp, fun given _ => ?_⟩
    simp [settle, giving, hpending]

theorem frames_play {role : Role} (h : s.play role = .ok t) : Frames (·.play role) s t := by
  cases role with
  | endOfOptions =>
    cases h
    exact ⟨[], by simp, fun given _ => by simp [play, giving]⟩
  | text word =>
    cases h
    exact ⟨[], by simp, fun given _ => by simp [play, giving]⟩
  | whole a texts =>
    obtain ⟨settled, hsettle, hgive⟩ := play_whole_eq_ok_iff.1 h
    exact (frames_settle hsettle).bind (frames_give hgive)
  | opening a =>
    obtain ⟨settled, hsettle, rfl⟩ := play_opening_eq_ok_iff.1 h
    obtain ⟨added, hadded, hframe⟩ := frames_settle hsettle
    exact ⟨added, hadded, fun given hfresh =>
      play_opening_eq_ok_iff.2 ⟨_, hframe given hfresh, rfl⟩⟩
  | operand a word =>
    obtain ⟨settled, hsettle, rfl⟩ := play_operand_eq_ok_iff.1 h
    obtain ⟨added, hadded, hframe⟩ := frames_settle hsettle
    exact ⟨added, hadded, fun given hfresh =>
      play_operand_eq_ok_iff.2 ⟨_, hframe given hfresh, rfl⟩⟩

end Scan

/-! ## Levels -/

namespace Level

variable {level child : Level} {s t : Scan} {inner r : Reading} {word : String} {rest : List String}

theorem finish_some_eq_ok_iff :
    level.finish s (some inner) = .ok r ↔
      ∃ t, s.settle = .ok t ∧ { inner with given := inner.given ++ t.given } = r := by
  rw [finish, bind_eq_ok_iff]
  simp [pure, Except.pure]

theorem finish_none_eq_ok_iff :
    level.finish s none = .ok r ↔
      ∃ t, s.settle = .ok t ∧ level.isGroup = false ∧
        (∀ a ∈ level.required, a ∈ argumentsOf t.given) ∧
          { leaf := level, given := t.given } = r := by
  rw [finish, bind_eq_ok_iff]
  refine exists_congr fun t => and_congr_right fun _ => ?_
  dsimp only
  split
  · rename_i hgroup
    simp [hgroup]
  rename_i hgroup
  have hcomplete : level.required.find? (fun a => (t.given.lookup a).isNone) = none ↔
      ∀ a ∈ level.required, a ∈ argumentsOf t.given := by
    simp only [List.find?_eq_none, Option.isNone_iff_eq_none, ← Option.isSome_iff_ne_none,
      isSome_lookup_iff]
  rw [← hcomplete]
  cases level.required.find? fun a => (t.given.lookup a).isNone with
  | none => simp [hgroup, pure, Except.pure]
  | some a => simp

/-- A subcommand is read when it is named. -/
theorem read_cons_of_descends (h : s.mayDescend && level.names word) :
    level.read s (word :: rest) = .ok r ↔
      ∃ child, level.subcommands.lookup word = some child ∧
        ∃ inner, child.read {} rest = .ok inner ∧ level.finish s (some inner) = .ok r := by
  rw [read, if_pos h]
  cases level.subcommands.lookup word with
  | none => simp
  | some child => simp [bind_eq_ok_iff]

theorem read_cons_of_stays (h : ¬ (s.mayDescend && level.names word)) :
    level.read s (word :: rest) = .ok r ↔
      ∃ role ∈ level.role? s word, ∃ t, s.play role = .ok t ∧ level.read t rest = .ok r := by
  rw [read, if_neg h, bind_eq_ok_iff]
  simp only [Scan.meetWord_eq_ok_iff]
  constructor
  · rintro ⟨t, ⟨role, hrole, hplay⟩, hread⟩
    exact ⟨role, hrole, t, hplay, hread⟩
  · rintro ⟨role, hrole, t, hplay, hread⟩
    exact ⟨t, ⟨role, hrole, hplay⟩, hread⟩

/-- The words behind are read alike, whatever was given before them: what was given stays in one
piece, between what is given at inner levels and what is given at this level afterwards. Nothing may
be missing that was given, and no argument that was not given may be among those still to come. -/
theorem read_frame {words : List String} (h : level.read s words = .ok r) :
    ∃ inner added, r.given = inner ++ s.given ++ added ∧
      ∀ given, argumentsOf s.given ⊆ argumentsOf given →
        (∀ a ∈ argumentsOf added, a ∈ argumentsOf given → a ∈ argumentsOf s.given) →
        level.read (s.giving given) words = .ok { r with given := inner ++ given ++ added } := by
  -- on the words, since what one of them adds at this level goes in front of what the others add
  induction words generalizing s r with
  | nil =>
    obtain ⟨t, hsettle, hgroup, hrequired, rfl⟩ := finish_none_eq_ok_iff.1 h
    obtain ⟨added, hadded, hframe⟩ := Scan.frames_settle hsettle
    refine ⟨[], added, hadded, fun given hkept hfresh => ?_⟩
    refine finish_none_eq_ok_iff.2 ⟨_, hframe given hfresh, hgroup, fun a ha => ?_, rfl⟩
    have hmem := hrequired a ha
    rw [hadded] at hmem
    simp only [argumentsOf_append, List.mem_append] at hmem
    simp only [Scan.giving, argumentsOf_append, List.mem_append]
    exact hmem.imp_left (@hkept a)
  | cons word rest ih =>
    by_cases hdescends : s.mayDescend && level.names word
    · obtain ⟨child, hchild, inner, hinner, hfinish⟩ := (read_cons_of_descends hdescends).1 h
      obtain ⟨t, hsettle, rfl⟩ := finish_some_eq_ok_iff.1 hfinish
      obtain ⟨added, hadded, hframe⟩ := Scan.frames_settle hsettle
      -- the inner level starts with nothing given, so it is read as before
      refine ⟨inner.given, added, by rw [hadded, List.append_assoc], fun given _ hfresh => ?_⟩
      refine (read_cons_of_descends (s := s.giving given) hdescends).2
        ⟨child, hchild, inner, hinner, ?_⟩
      exact finish_some_eq_ok_iff.2 ⟨_, hframe given hfresh, by simp [Scan.giving]⟩
    · obtain ⟨role, hrole, t, hplay, hread⟩ := (read_cons_of_stays hdescends).1 h
      obtain ⟨first, hfirst, hframe⟩ := Scan.frames_play hplay
      obtain ⟨inner, added, hgiven, hrest⟩ := ih hread
      refine ⟨inner, first ++ added, by rw [hgiven, hfirst]; simp, fun given hkept hfresh => ?_⟩
      simp only [argumentsOf_append, List.mem_append] at hfresh
      refine (read_cons_of_stays (s := s.giving given) hdescends).2 ⟨role, hrole, _,
        hframe given fun a ha => hfresh a (.inl ha), ?_⟩
      have hkept' : argumentsOf t.given ⊆ argumentsOf (given ++ first) := by
        intro a ha
        rw [hfirst] at ha
        simp only [argumentsOf_append, List.mem_append] at ha ⊢
        exact ha.imp_left (@hkept a)
      have hfresh' : ∀ a ∈ argumentsOf added, a ∈ argumentsOf (given ++ first) →
          a ∈ argumentsOf t.given := by
        intro a ha hmem
        rw [hfirst]
        simp only [argumentsOf_append, List.mem_append] at hmem ⊢
        exact hmem.imp_left (hfresh a (.inr ha))
      have hassoc : inner ++ given ++ (first ++ added) = inner ++ (given ++ first) ++ added := by
        simp only [List.append_assoc]
      rw [hassoc]
      exact hrest (given ++ first) hkept' hfresh'

end Level

/-! ## Options with their texts -/

namespace Scan

variable {s t : Scan}

theorem settle_of_pending (h : s.pending = none) : s.settle = .ok s := by
  rw [settle, h]

theorem awaiting?_of_pending (h : s.pending = none) : s.awaiting? = none := by
  rw [awaiting?, h]
  rfl

/-- An argument that is taken over changes nothing but what is given. -/
theorem eq_giving_of_settle (h : s.settle = .ok t) :
    t = { s with pending := none, given := t.given } := by
  unfold settle at h
  split at h
  · obtain ⟨-, -, value, -, rfl⟩ := give_eq_ok_iff.1 h
    rfl
  · rename_i hpending
    cases h
    rw [← hpending]

theorem settle_operandsOnly_eq_ok_iff :
    { s with operandsOnly := true }.settle = .ok t ↔
      ∃ settled, s.settle = .ok settled ∧ { settled with operandsOnly := true } = t := by
  unfold settle
  cases hpending : s.pending with
  | none => simp [hpending]
  | some option =>
    simp only [give_eq_ok_iff]
    constructor
    · rintro ⟨htexts, hnew, value, hvalue, rfl⟩
      exact ⟨_, ⟨htexts, hnew, value, hvalue, rfl⟩, rfl⟩
    · rintro ⟨_, ⟨htexts, hnew, value, hvalue, rfl⟩, rfl⟩
      exact ⟨htexts, hnew, value, hvalue, rfl⟩

end Scan

namespace Level

variable {level : Level} {s t : Scan} {r : Reading} {word : String} {words : List String}

theorem finish_of_settle (h : s.settle = .ok t) (inner? : Option Reading) :
    level.finish s inner? = level.finish t inner? := by
  have hpending : t.pending = none := by
    rw [Scan.eq_giving_of_settle h]
  rw [finish, finish, h, Scan.settle_of_pending hpending]

theorem operandRole?_ne_text {hasOperand : Bool} {w : String} :
    level.operandRole? hasOperand word ≠ some (.text w) := by
  unfold operandRole?
  split
  · nofun
  · simp

theorem longRole?_ne_text {rest : List Char} {w : String} :
    level.longRole? rest ≠ some (.text w) := by
  unfold longRole?
  split
  · nofun
  · unfold optionRole?
    split <;> [skip; split] <;> nofun
  · split <;> nofun

/-- Only a word for which an option waits is a text. -/
theorem awaiting_of_text {w : String} (h : level.role? s word = some (.text w)) :
    s.awaiting?.isSome := by
  unfold role? at h
  split at h
  · exact absurd h operandRole?_ne_text
  split at h
  · cases h
  · exact absurd h longRole?_ne_text
  · cases h
  · split at h
    · assumption
    · exact absurd h operandRole?_ne_text

/-- A role that starts something new settles what was there. -/
theorem play_of_settle (h : s.settle = .ok t) {role : Role} (hend : role ≠ .endOfOptions)
    (htext : ∀ w, role ≠ .text w) : s.play role = t.play role := by
  have hpending : t.pending = none := by
    rw [Scan.eq_giving_of_settle h]
  cases role with
  | endOfOptions => exact absurd rfl hend
  | text w => exact absurd rfl (htext w)
  | whole a texts => rw [Scan.play, Scan.play, h, Scan.settle_of_pending hpending]
  | opening a => rw [Scan.play, Scan.play, h, Scan.settle_of_pending hpending]
  | operand a w => rw [Scan.play, Scan.play, h, Scan.settle_of_pending hpending]

/-- An option that has its text may be taken over at once. -/
theorem read_of_settle (hs : s.awaiting? = none) (h : s.settle = .ok t) :
    level.read s words = .ok r ↔ level.read t words = .ok r := by
  induction words generalizing s t r with
  | nil => rw [read, read, finish_of_settle h]
  | cons word rest ih =>
    have ht : t.awaiting? = none := by
      rw [Scan.eq_giving_of_settle h]
      rfl
    have hmay : t.mayDescend = s.mayDescend := by
      rw [Scan.mayDescend, Scan.mayDescend, ht, hs, Scan.eq_giving_of_settle h]
    by_cases hdescends : s.mayDescend && level.names word
    · rw [read_cons_of_descends hdescends, read_cons_of_descends (hmay ▸ hdescends)]
      simp only [finish_of_settle h]
    · rw [read_cons_of_stays hdescends, read_cons_of_stays (hmay ▸ hdescends)]
      have hrole : level.role? t word = level.role? s word := by
        refine role?_congr ?_ ?_ (by rw [ht, hs]) word <;> rw [Scan.eq_giving_of_settle h]
      rw [hrole]
      refine exists_congr fun role => and_congr_right fun hmem => ?_
      by_cases hend : role = .endOfOptions
      · -- the only word that leaves the argument waiting, here and there
        subst hend
        simp only [Scan.play, Except.ok.injEq, exists_eq_left']
        exact ih hs (Scan.settle_operandsOnly_eq_ok_iff.2 ⟨t, h, rfl⟩)
      · have htext : ∀ w, role ≠ .text w := by
          rintro w rfl
          have hawaiting := awaiting_of_text hmem
          rw [hs] at hawaiting
          cases hawaiting
        rw [play_of_settle h hend htext]

/-- Words are only read to the end if the option that was met last has its text. -/
theorem exists_settle_of_read (hs : s.awaiting? = none) (h : level.read s words = .ok r) :
    ∃ t, s.settle = .ok t := by
  induction words generalizing s with
  | nil =>
    obtain ⟨t, hsettle, -⟩ := finish_none_eq_ok_iff.1 h
    exact ⟨t, hsettle⟩
  | cons word rest ih =>
    by_cases hdescends : s.mayDescend && level.names word
    · obtain ⟨_, _, _, _, hfinish⟩ := (read_cons_of_descends hdescends).1 h
      obtain ⟨t, hsettle, -⟩ := finish_some_eq_ok_iff.1 hfinish
      exact ⟨t, hsettle⟩
    obtain ⟨role, hrole, u, hplay, hread⟩ := (read_cons_of_stays hdescends).1 h
    cases role with
    | endOfOptions =>
      cases hplay
      obtain ⟨t, hsettle⟩ := ih (s := { s with operandsOnly := true }) hs hread
      obtain ⟨settled, hsettled, -⟩ := Scan.settle_operandsOnly_eq_ok_iff.1 hsettle
      exact ⟨settled, hsettled⟩
    | text w =>
      have hawaiting := awaiting_of_text hrole
      rw [hs] at hawaiting
      cases hawaiting
    | whole a texts =>
      obtain ⟨t, hsettle, -⟩ := Scan.play_whole_eq_ok_iff.1 hplay
      exact ⟨t, hsettle⟩
    | opening a =>
      obtain ⟨t, hsettle, -⟩ := Scan.play_opening_eq_ok_iff.1 hplay
      exact ⟨t, hsettle⟩
    | operand a w =>
      obtain ⟨t, hsettle, -⟩ := Scan.play_operand_eq_ok_iff.1 hplay
      exact ⟨t, hsettle⟩

theorem read_eq_ok_iff_settle (hs : s.awaiting? = none) :
    level.read s words = .ok r ↔ ∃ t, s.settle = .ok t ∧ level.read t words = .ok r := by
  constructor
  · intro h
    obtain ⟨t, ht⟩ := exists_settle_of_read hs h
    exact ⟨t, ht, (read_of_settle hs ht).1 h⟩
  · rintro ⟨t, ht, h⟩
    exact (read_of_settle hs ht).2 h

end Level

end ShowScout.CommandLine
