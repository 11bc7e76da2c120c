import ShowScout.Page.Title
import ShowScout.Proofs.Regex.Positions
import ShowScout.Proofs.Rule.FirstMatch
import ShowScout.Proofs.Text.Trim

/-!
# Titles as pieces of pages

A title is a piece of the document title or of the value of an expression, without the blanks around
it. What a pattern takes of the document title is the text between two positions that the search has
recorded, and both of them lie within it.
-/

namespace ShowScout

/-! ## Captured pieces -/

namespace Pattern

variable {pattern : Pattern} {text raw : String} {first last : Nat}

/-- The first group took part in the leftmost match of the pattern, between the two positions. -/
def Captures (pattern : Pattern) (text : String) (first last : Nat) : Prop :=
  ∃ program slots, pattern.program? = some program ∧ program.search text.toList = some slots ∧
    Regex.groupSpan slots 1 = some (first, last)

theorem Captures.finds (h : pattern.Captures text first last) : pattern.Finds text := by
  obtain ⟨program, slots, hprogram, hsearch, -⟩ := h
  exact ⟨program, slots, hprogram, hsearch⟩

theorem Captures.last_le (h : pattern.Captures text first last) : last ≤ text.length := by
  obtain ⟨program, slots, -, hsearch, hspan⟩ := h
  exact (Regex.Program.search_within hsearch hspan).2

theorem toList_slice (text : String) (first last : Nat) :
    (slice text first last).toList = (text.toList.drop first).take (last - first) :=
  String.toList_ofList

theorem slice_infix (text : String) (first last : Nat) :
    (slice text first last).toList <:+: text.toList := by
  rw [toList_slice]
  exact (List.take_prefix _ _).isInfix.trans (List.drop_suffix _ _).isInfix

theorem lt_of_slice_ne (h : slice text first last ≠ "") : first < last := by
  by_contra hle
  refine h (String.toList_injective ?_)
  rw [toList_slice, Nat.sub_eq_zero_of_le (Nat.le_of_not_lt hle), List.take_zero]
  rfl

/-- A slice stands between what comes before its start and what comes after its end. -/
theorem eq_append_slice (text : String) (h : first ≤ last) :
    text.toList =
      text.toList.take first ++ (slice text first last).toList ++ text.toList.drop last := by
  have hbehind : text.toList.drop last = (text.toList.drop first).drop (last - first) := by
    rw [List.drop_drop, Nat.add_sub_cancel' h]
  rw [toList_slice, hbehind, List.append_assoc, List.take_append_drop, List.take_append_drop]

theorem firstCapture_eq_some_iff :
    pattern.firstCapture text = some raw ↔
      raw ≠ "" ∧ ∃ first last, pattern.Captures text first last ∧ raw = slice text first last := by
  unfold firstCapture match? Captures
  simp only [Option.bind_eq_bind, Option.bind_eq_some_iff, Option.guard_eq_some']
  constructor
  · rintro ⟨slots, ⟨program, hprogram, hsearch⟩, ⟨first, last⟩, hspan, ⟨⟩, hne, hraw⟩
    cases hraw
    exact ⟨by simpa using hne, first, last, ⟨program, slots, hprogram, hsearch, hspan⟩, rfl⟩
  · rintro ⟨hne, first, last, ⟨program, slots, hprogram, hsearch, hspan⟩, rfl⟩
    exact ⟨slots, ⟨program, hprogram, hsearch⟩, (first, last), hspan, (), by simpa using hne, rfl⟩

end Pattern

/-! ## Pieces that are taken -/

theorem toOption_eq_some_iff {ε α : Type} {answer : Except ε α} {a : α} :
    answer.toOption = some a ↔ answer = .ok a := by
  cases answer <;> simp [Except.toOption]

namespace Rule

variable {r : Rule} {p : LivePage} {source raw t : String}

/-- By its own method, a rule reads a text of the page and takes a piece of it. -/
inductive Takes (r : Rule) (p : LivePage) (source raw : String) : Prop where
  | group {pattern : Pattern} {first last : Nat} (method : r.extraction = .regex pattern)
      (read : p.title = .ok source) (captures : pattern.Captures source first last)
      (piece : raw = Pattern.slice source first last)
  | value {expression : String} (method : r.extraction = .xpath expression)
      (read : p.evaluate expression = .ok source) (whole : raw = source)

theorem Takes.infix (h : r.Takes p source raw) : raw.toList <:+: source.toList := by
  cases h with
  | group _ _ _ piece => exact piece ▸ Pattern.slice_infix _ _ _
  | value _ _ whole => exact whole ▸ List.infix_rfl

/-- A rule does not take an empty group, which would make no title either. -/
theorem rawTitle_eq_some_iff (hne : raw ≠ "") :
    r.rawTitle p = some raw ↔ ∃ source, r.Takes p source raw := by
  unfold rawTitle
  constructor
  · intro h
    split at h
    · rename_i pattern hmethod
      obtain ⟨source, hread, hcapture⟩ := Option.bind_eq_some_iff.1 h
      obtain ⟨-, first, last, hcaptures, hpiece⟩ := Pattern.firstCapture_eq_some_iff.1 hcapture
      exact ⟨source, .group hmethod (toOption_eq_some_iff.1 hread) hcaptures hpiece⟩
    · rename_i expression hmethod
      exact ⟨raw, .value hmethod (toOption_eq_some_iff.1 h) rfl⟩
  · rintro ⟨source, htakes⟩
    cases htakes with
    | group hmethod hread hcaptures hpiece =>
      rw [hmethod, hread]
      exact Pattern.firstCapture_eq_some_iff.2 ⟨hne, _, _, hcaptures, hpiece⟩
    | value hmethod hread hwhole =>
      rw [hmethod, hwhole]
      exact toOption_eq_some_iff.2 hread

theorem title?_eq_some_iff :
    r.title? p = some t ↔
      ∃ source raw, r.Takes p source raw ∧ Text.trim raw ≠ "" ∧ t = Text.trim raw := by
  have hne {raw : String} (h : Text.trim raw ≠ "") : raw ≠ "" := by
    rintro rfl
    exact h rfl
  rw [title?]
  simp only [Option.bind_eq_bind, Option.bind_eq_some_iff, Option.guard_eq_some', Option.pure_def,
    Option.some.injEq]
  constructor
  · rintro ⟨raw, hraw, ⟨⟩, hkept, rfl⟩
    have htrim : Text.trim raw ≠ "" := by simpa using hkept
    obtain ⟨source, htakes⟩ := (rawTitle_eq_some_iff (hne htrim)).1 hraw
    exact ⟨source, raw, htakes, htrim, rfl⟩
  · rintro ⟨source, raw, htakes, htrim, rfl⟩
    have hraw := (rawTitle_eq_some_iff (hne htrim)).2 ⟨source, htakes⟩
    exact ⟨raw, hraw, (), by simpa using htrim, rfl⟩

/-- A rule gives a title exactly if the page answers the call of the rule's method and the piece
that is taken of the answer is not blank, and the title is then that piece without the blanks around
it. So it is a part of the text that was read; and where a pattern takes the piece, the pattern
matches the text, which is made up of what precedes the group, the group and what follows it. -/
theorem title_isPiece (r : Rule) (p : LivePage) :
    (∀ t, r.title? p = some t ↔
      ∃ source raw, r.Takes p source raw ∧ Text.trim raw ≠ "" ∧ t = Text.trim raw) ∧
    ∀ t, r.title? p = some t → t ≠ "" ∧ Text.trim t = t ∧
      ∃ source raw, r.Takes p source raw ∧ t.toList <:+: raw.toList ∧
        raw.toList <:+: source.toList ∧
        ∀ pattern, r.extraction = .regex pattern → pattern.isMatch source ∧
          ∃ first last, pattern.Captures source first last ∧ first < last ∧
            last ≤ source.length ∧
            source.toList =
              source.toList.take first ++ raw.toList ++ source.toList.drop last := by
  refine ⟨fun t => title?_eq_some_iff, fun t ht => ?_⟩
  obtain ⟨source, raw, htakes, hne, rfl⟩ := title?_eq_some_iff.1 ht
  have htrimmed := Text.trim_eq_self_iff.2 (Text.isTrimmed_trim raw)
  refine ⟨hne, htrimmed, source, raw, htakes, Text.trim_infix raw, htakes.infix, ?_⟩
  intro pattern hmethod
  cases htakes with
  | @group taken first last hmethod' _ hcaptures hpiece =>
    obtain rfl : pattern = taken := by
      rw [hmethod] at hmethod'
      cases hmethod'
      rfl
    subst hpiece
    -- the piece is not blank, so it is not empty either, and its end comes after its start
    have hlt : first < last := Pattern.lt_of_slice_ne fun hempty => hne (by rw [hempty]; rfl)
    exact ⟨Pattern.isMatch_iff.2 hcaptures.finds, first, last, hcaptures, hlt, hcaptures.last_le,
      Pattern.eq_append_slice source hlt.le⟩
  | value hmethod' =>
    rw [hmethod] at hmethod'
    cases hmethod'

end Rule

end ShowScout
