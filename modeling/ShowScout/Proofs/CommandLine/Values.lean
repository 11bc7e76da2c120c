import ShowScout.CommandLine.Arguments

/-!
# Values on a command line

A command line is only accepted if every argument has a value that it takes, at whatever level it
was given. Numbers are therefore within the bounds of their argument; those for polling are never
zero.
-/

namespace ShowScout

namespace CommandLine

/-! ## Results of reading -/

section Results

variable {α β : Type} {P : α → Prop} {Q : β → Prop}

/-- Whatever is read has the property. -/
def Yields (P : α → Prop) (result : Except UsageError α) : Prop :=
  ∀ a, result = .ok a → P a

theorem yields_error (fault : UsageError) : Yields P (.error fault) :=
  nofun

theorem yields_ok {a : α} (h : P a) : Yields P (.ok a) := by
  rintro _ ⟨⟩
  exact h

theorem Yields.bind {result : Except UsageError α} {next : α → Except UsageError β}
    (h : Yields P result) (hnext : ∀ a, P a → Yields Q (next a)) : Yields Q (result >>= next) := by
  cases result with
  | error fault => exact yields_error fault
  | ok a => exact hnext a (h a rfl)

end Results

/-! ## Values -/

/-- The value is one for an argument of the kind. -/
def ValueKind.Takes : ValueKind → Value → Prop
  | .flag, .present => True
  | .text, .text _ => True
  | .path, .text s => ¬ s.isEmpty
  | .number least most, .number n => least ≤ n ∧ n ≤ most
  | .textEach, .texts _ => True
  | .textsEach, .texts _ => True
  | _, _ => False

theorem Argument.read_yields (a : Argument) (texts : List String) :
    Yields a.kind.Takes (a.read texts) := by
  unfold read
  split
  · rename_i hkind
    rw [hkind]
    exact yields_ok trivial
  · exact yields_error _
  · rename_i hkind _
    rw [hkind]
    exact yields_ok trivial
  · rename_i hkind _
    rw [hkind]
    exact yields_ok trivial
  · rename_i hkind
    rw [hkind]
    exact yields_ok trivial
  · rename_i hkind
    split
    · exact yields_error _
    · rename_i hempty
      rw [hkind]
      exact yields_ok hempty
  · rename_i hkind
    split
    · split
      · rename_i hbounds
        rw [hkind]
        exact yields_ok (by simpa [ValueKind.Takes] using hbounds)
      · exact yields_error _
    · exact yields_error _

/-- Every argument has a value that it takes. -/
def Sound (given : List (Argument × Value)) : Prop :=
  ∀ g ∈ given, g.1.kind.Takes g.2

theorem sound_nil : Sound [] :=
  nofun

theorem Sound.append {given given' : List (Argument × Value)} (h : Sound given)
    (h' : Sound given') : Sound (given ++ given') :=
  List.forall_mem_append.2 ⟨h, h'⟩

/-! ## Words -/

namespace Scan

variable {s : Scan} {level : Level}

/-- What has been read of a level is sound. A text that still waits for its argument does not count:
it is checked when it is given. -/
def IsSound (s : Scan) : Prop :=
  Sound s.given

theorem IsSound.give (h : s.IsSound) (a : Argument) (texts : List String) :
    Yields IsSound (s.give a texts) := by
  unfold Scan.give
  split
  · exact yields_error _
  split
  · exact yields_error _
  · refine (a.read_yields texts).bind fun value hvalue => yields_ok ?_
    exact Sound.append h (List.forall_mem_singleton.2 hvalue)

theorem IsSound.settle (h : s.IsSound) : Yields IsSound s.settle := by
  unfold Scan.settle
  split
  · rename_i a texts _
    have hsettled : IsSound { s with pending := none } := h
    exact hsettled.give a texts
  · exact yields_ok h

theorem IsSound.meet (h : s.IsSound) (a : Argument) : Yields IsSound (s.meet level a) := by
  unfold Scan.meet
  refine h.settle.bind fun s hs => ?_
  split
  · exact yields_error _
  · exact yields_error _
  · split
    · exact hs.give _ _
    · exact yields_ok hs

theorem IsSound.meetLong (h : s.IsSound) (rest : List Char) :
    Yields IsSound (s.meetLong level rest) := by
  unfold Scan.meetLong
  dsimp only
  split
  · exact yields_error _
  · exact h.meet _
  · split
    · exact yields_error _
    · exact h.settle.bind fun s hs => hs.give _ _

theorem IsSound.meetShort (h : s.IsSound) (letter : Char) :
    Yields IsSound (s.meetShort level letter) := by
  unfold Scan.meetShort
  split
  · exact h.meet _
  · exact yields_error _

theorem IsSound.meetOperand (h : s.IsSound) (word : String) :
    Yields IsSound (s.meetOperand level word) := by
  unfold Scan.meetOperand
  split
  · split
    · exact yields_error _
    · exact h.settle.bind fun s hs => yields_ok hs
  · split
    · exact yields_error _
    · exact yields_error _

theorem IsSound.meetWord (h : s.IsSound) (word : String) :
    Yields IsSound (s.meetWord level word) := by
  unfold Scan.meetWord
  split
  · exact h.meetOperand word
  split
  · exact yields_ok h
  · exact h.meetLong _
  · exact h.meetShort _
  · split
    · exact yields_ok h
    · exact h.meetOperand word

end Scan

/-! ## Levels -/

namespace Level

variable {s : Scan}

theorem finish_yields (level : Level) (h : s.IsSound) {inner? : Option Reading}
    (hinner : ∀ inner ∈ inner?, Sound inner.given) :
    Yields (fun r => Sound r.given) (level.finish s inner?) := by
  unfold finish
  refine h.settle.bind fun s hs => ?_
  split
  · rename_i inner
    exact yields_ok ((hinner inner rfl).append hs)
  · split
    · exact yields_error _
    · split
      · exact yields_error _
      · exact yields_ok hs

/-- What is given at the levels of a command line is sound, as it is at each of them. -/
theorem read_yields (level : Level) (h : s.IsSound) (words : List String) :
    Yields (fun r => Sound r.given) (level.read s words) := by
  -- on the words, for all levels at once: a word may open a level, which takes the words behind it
  induction words generalizing level s with
  | nil => exact level.finish_yields h nofun
  | cons word rest ih =>
    unfold read
    split
    · split
      · rename_i child _
        refine (ih child (s := {}) sound_nil).bind fun inner hinner => ?_
        exact level.finish_yields h (by simpa using hinner)
      · exact yields_error _
    · exact (h.meetWord word).bind fun s hs => ih level hs

end Level

/-! ## Numbers -/

theorem Reading.number_bounds {r : Reading} (h : Sound r.given) {a : Argument} {least most n : Nat}
    (hkind : a.kind = .number least most) (hn : r.number? a = some n) : least ≤ n ∧ n ≤ most := by
  have hvalue : r.value? a = some (.number n) := by
    unfold number? at hn
    split at hn
    · rename_i hvalue
      rw [hvalue, Option.some.inj hn]
    · cases hn
  obtain ⟨before, after, hgiven, -⟩ := List.lookup_eq_some_iff.1 hvalue
  have htakes : a.kind.Takes (.number n) := h (a, .number n) (by rw [hgiven]; simp)
  rwa [hkind] at htakes

end CommandLine

/-- The limits of polling on an accepted command line are neither zero nor beyond their words. -/
theorem Arguments.poll_bounds {words : List String} {args : Arguments}
    (h : Arguments.parse words = .ok args) :
    0 < args.maxAttempts.toNat ∧ 0 < args.interval ∧ args.interval < Nat.pow 2 64 := by
  have hread := CommandLine.Level.top.read_yields (s := {}) CommandLine.sound_nil words
  unfold parse at h
  rcases hreading : CommandLine.Level.top.read {} words with fault | reading <;>
    rw [hreading] at h
  · cases h
  have hsound := hread reading hreading
  simp only [bind, Except.bind] at h
  split at h
  · cases h
    simp only [CommandLine.Reading.arguments]
    constructor
    · cases hn : reading.number? .maxAttempts with
      | none => decide
      | some n =>
        have hbounds := CommandLine.Reading.number_bounds hsound rfl hn
        have hsmall : n < 2 ^ 32 := Nat.lt_of_le_of_lt hbounds.2 (by decide)
        have hvalue : (UInt32.ofNat n).toNat = n := UInt32.toNat_ofNat_of_lt' hsmall
        simp only [Option.map_some, Option.getD_some, hvalue]
        exact hbounds.1
    · cases hn : reading.number? .intervalMs with
      | none => decide
      | some n =>
        have hbounds := CommandLine.Reading.number_bounds hsound rfl hn
        exact ⟨hbounds.1, Nat.lt_of_le_of_lt hbounds.2 (by decide)⟩
  · cases h

end ShowScout
