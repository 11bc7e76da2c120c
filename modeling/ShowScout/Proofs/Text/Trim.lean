import Mathlib.Data.List.DropRight
import ShowScout.Text.Blank

/-!
# Trimmed texts

A text is trimmed if no blank stands at either of its ends. Trimming makes any text one, and leaves
exactly those as they are.
-/

namespace ShowScout.Text

/-! ## Ends of texts -/

section Ends

variable {p : Char → Bool} {chars : List Char}

/-- A text with nothing of a kind at its ends is trimmed to itself. -/
theorem dropEnd_dropWhile_eq_self (hfirst : ∀ c ∈ chars.head?, p c = false)
    (hlast : ∀ c ∈ chars.getLast?, p c = false) : dropEnd p (chars.dropWhile p) = chars := by
  have hkeep {l : List Char} (h : ∀ c ∈ l.head?, p c = false) : l.dropWhile p = l := by
    cases l with
    | nil => rfl
    | cons c l => simp [h c rfl]
  rw [hkeep hfirst, dropEnd, hkeep (by rwa [List.head?_reverse]), List.reverse_reverse]

/-- What stops the removal from the front is not of the kind. -/
theorem head?_dropWhile {c : Char} (h : (chars.dropWhile p).head? = some c) : p c = false := by
  have hstop := List.head?_dropWhile_not p chars
  rwa [h] at hstop

theorem getLast?_dropEnd {c : Char} (h : (dropEnd p chars).getLast? = some c) : p c = false := by
  rw [dropEnd, List.getLast?_reverse] at h
  exact head?_dropWhile h

/-- As long as anything is left, what is removed from the end leaves the front. -/
theorem head?_dropEnd {c : Char} (h : (dropEnd p chars).head? = some c) :
    chars.head? = some c := by
  have hprefix : dropEnd p chars <+: chars := List.rdropWhile_prefix p chars
  obtain ⟨rest, hrest⟩ := hprefix
  rw [← hrest, List.head?_append, h]
  rfl

end Ends

/-! ## Blanks -/

/-- No blank stands at either end of the text. -/
structure IsTrimmed (s : String) : Prop where
  head : ∀ c ∈ s.toList.head?, isBlank c = false
  last : ∀ c ∈ s.toList.getLast?, isBlank c = false

variable {s : String}

theorem isTrimmed_trim (s : String) : IsTrimmed (trim s) where
  head := by
    rw [trim, String.toList_ofList]
    intro c hc
    exact head?_dropWhile (head?_dropEnd hc)
  last := by
    rw [trim, String.toList_ofList]
    intro c hc
    exact getLast?_dropEnd hc

theorem trim_eq_self_iff : trim s = s ↔ IsTrimmed s := by
  constructor
  · intro h
    rw [← h]
    exact isTrimmed_trim s
  · intro h
    rw [trim, trimChars, dropEnd_dropWhile_eq_self h.head h.last, String.ofList_toList]

theorem trim_infix (s : String) : (trim s).toList <:+: s.toList := by
  rw [trim, String.toList_ofList]
  have hfront : trimChars s.toList <+: s.toList.dropWhile isBlank :=
    List.rdropWhile_prefix isBlank _
  exact hfront.isInfix.trans (List.dropWhile_suffix isBlank).isInfix

theorem isAllBlank_iff : isAllBlank s ↔ ∀ c ∈ s.toList, isBlank c := by
  have htrim : isAllBlank s ↔ ∀ c ∈ s.toList.dropWhile isBlank, isBlank c := by
    simp [isAllBlank, trim, trimChars, dropEnd, List.dropWhile_eq_nil_iff]
  rw [htrim]
  constructor
  · intro h c hc
    have hsplit : s.toList.takeWhile isBlank ++ s.toList.dropWhile isBlank = s.toList :=
      List.takeWhile_append_dropWhile
    rw [← hsplit, List.mem_append] at hc
    exact hc.elim List.mem_takeWhile_imp (h c)
  · exact fun h c hc => h c (List.dropWhile_subset _ hc)

theorem isAllBlank_of_nonBlank? {field : Option String} (h : nonBlank? field = some s) :
    isAllBlank s = false := by
  obtain ⟨-, hblank⟩ := Option.filter_eq_some_iff.1 h
  simpa using hblank

/-! ## Blanks around a text -/

/-- The text is the other one with blanks around it. -/
def Pads (padded s : String) : Prop :=
  ∃ before after, (∀ c ∈ before, isBlank c) ∧ (∀ c ∈ after, isBlank c) ∧
    padded.toList = before ++ s.toList ++ after

theorem dropEnd_append_of_blank {chars after : List Char} (h : ∀ c ∈ after, isBlank c) :
    dropEnd isBlank (chars ++ after) = dropEnd isBlank chars := by
  have hafter : ∀ c ∈ after.reverse, isBlank c := fun c hc => h c (List.mem_reverse.1 hc)
  rw [dropEnd, List.reverse_append, List.dropWhile_append_of_pos hafter, dropEnd]

theorem Pads.trim_eq {padded : String} (h : Pads padded s) : trim padded = trim s := by
  obtain ⟨before, after, hbefore, hafter, hpadded⟩ := h
  rw [trim, hpadded, trimChars, List.append_assoc, List.dropWhile_append_of_pos hbefore,
    List.dropWhile_append]
  split
  -- in a text of blanks only, those behind it go with those in front
  · rename_i hnone
    have hrest : after.dropWhile isBlank = [] := List.dropWhile_eq_nil_iff.2 hafter
    rw [hrest, trim, trimChars, List.isEmpty_iff.1 hnone]
  · rw [dropEnd_append_of_blank hafter, trim, trimChars]

/-! ## Optional fields -/

/-- The field is there, and holds more than blanks. -/
def IsGiven (field : Option String) : Prop :=
  ∃ s ∈ field, ∃ c ∈ s.toList, isBlank c = false

/-- The fields are equal, or neither of them is given. -/
def SaysSame (field other : Option String) : Prop :=
  field = other ∨ ¬ IsGiven field ∧ ¬ IsGiven other

variable {field other : Option String}

theorem isGiven_iff : IsGiven field ↔ nonBlank? field ≠ none := by
  cases field with
  | none => simp [IsGiven, nonBlank?]
  | some s =>
    have hblank : isAllBlank s = false ↔ ∃ c ∈ s.toList, isBlank c = false := by
      rw [← Bool.not_eq_true, isAllBlank_iff]
      simp
    simp [IsGiven, nonBlank?, hblank]

instance (field : Option String) : Decidable (IsGiven field) :=
  decidable_of_iff _ isGiven_iff.symm

theorem SaysSame.nonBlank?_eq (h : SaysSame field other) : nonBlank? field = nonBlank? other := by
  rcases h with rfl | ⟨hfield, hother⟩
  · rfl
  · rw [isGiven_iff, not_not] at hfield hother
    rw [hfield, hother]

end ShowScout.Text
