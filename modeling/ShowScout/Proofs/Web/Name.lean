import Mathlib.Data.Option.Basic
import ShowScout.Proofs.Web.Path
import ShowScout.Web.Domain

/-!
# Characters of names

Whatever script a name is written in, the form in which it is looked up has ASCII characters only,
and none that means something else in an address.
-/

namespace ShowScout.Web

/-! ## Labels in ASCII letters -/

namespace Punycode

/-- Characters that encoding may add to a label. -/
def IsAdded (c : Char) : Prop := c = '-' ∨ ∃ d < base, c = digitChar d

theorem isAdded_of_mem_deltaDigits {bias place delta : Nat} :
    ∀ c ∈ deltaDigits bias place delta, IsAdded c := by
  induction place, delta using deltaDigits.induct bias with
  | case1 place delta t h =>
    have hle : t ≤ 26 := threshold_le place bias
    rw [deltaDigits, if_pos h]
    simp only [List.mem_singleton, forall_eq]
    exact .inr ⟨delta, by unfold base; omega, rfl⟩
  | case2 place delta t h ih =>
    have hle : t ≤ 26 := threshold_le place bias
    rw [deltaDigits, if_neg h]
    rintro c (_ | ⟨_, hc⟩)
    · have hrest := Nat.mod_lt (delta - t) (show 0 < base - t by unfold base; omega)
      exact .inr ⟨t + (delta - t) % (base - t), by unfold base at hrest ⊢; omega, rfl⟩
    · exact ih c hc

namespace Encoder

variable {label : List Char} {e : Encoder}

theorem mem_written_pass {point : Nat} {c d : Char} (h : d ∈ (e.pass point c).written) :
    d ∈ e.written ∨ IsAdded d := by
  unfold pass at h
  split at h
  · exact .inl h
  · split at h
    · obtain h | h := List.mem_append.1 h
      · exact .inr (isAdded_of_mem_deltaDigits d (List.mem_reverse.1 h))
      · exact .inl h
    · exact .inl h

theorem mem_written_foldl_pass {point : Nat} {d : Char}
    (h : d ∈ (label.foldl (pass point) e).written) : d ∈ e.written ∨ IsAdded d := by
  induction label generalizing e with
  | nil => exact .inl h
  | cons c label ih =>
    obtain h | h := ih h
    · exact mem_written_pass h
    · exact .inr h

theorem mem_written_writePoint {previous point : Nat} {d : Char}
    (h : d ∈ (e.writePoint label previous point).written) : d ∈ e.written ∨ IsAdded d :=
  mem_written_foldl_pass
    (e := { e with delta := e.delta + (point - previous) * (e.count + 1) }) h

theorem mem_written_writePoints {previous : Nat} {points : List Nat} {d : Char}
    (h : d ∈ (e.writePoints label previous points).written) : d ∈ e.written ∨ IsAdded d := by
  induction points generalizing e previous with
  | nil => exact .inl h
  | cons point rest ih =>
    obtain h | h := ih h
    · exact mem_written_writePoint h
    · exact .inr h

end Encoder

/-- An encoded label holds the basic characters of the label and what encoding adds. -/
theorem mem_encode {label : List Char} {c : Char} (h : c ∈ encode label) :
    c ∈ label ∧ isBasic c ∨ IsAdded c := by
  obtain h | h := Encoder.mem_written_writePoints (List.mem_reverse.1 h)
  · split at h
    · cases h
    · obtain rfl | h := List.mem_cons.1 h
      · exact .inr (.inl rfl)
      · exact .inl (List.mem_filter.1 (List.mem_reverse.1 h))
  · exact .inr h

theorem isBasic_of_digit? {c : Char} (h : digit? c ≠ none) : isBasic c := by
  have hle {high : Char} (hc : c ≤ high) (hhigh : high.toNat < firstPoint) : isBasic c :=
    decide_eq_true (Nat.lt_of_le_of_lt (Char.le_def.1 hc) hhigh)
  unfold digit? at h
  split at h
  · rename_i hc
    simp only [Bool.and_eq_true, decide_eq_true_eq] at hc
    exact hle hc.2 (by decide)
  · split at h
    · rename_i hc
      simp only [Bool.and_eq_true, decide_eq_true_eq] at hc
      exact hle hc.2 (by decide)
    · split at h
      · rename_i hc
        simp only [Bool.and_eq_true, decide_eq_true_eq] at hc
        exact hle hc.2 (by decide)
      · exact absurd rfl h

theorem isBasic_of_foldlM {digits : List Char} {d d' : Decoder}
    (h : digits.foldlM Decoder.step? d = some d') : ∀ c ∈ digits, isBasic c := by
  induction digits generalizing d with
  | nil => nofun
  | cons c digits ih =>
    obtain ⟨next, hstep, hrest⟩ := Option.bind_eq_some_iff.1 ((List.foldlM_cons ..).symm.trans h)
    have hdigit : digit? c ≠ none := by
      intro hnone
      simp [Decoder.step?, hnone] at hstep
    rintro x (_ | ⟨_, hx⟩)
    · exact isBasic_of_digit? hdigit
    · exact ih hrest x hx

/-- Between the two parts of an encoded label there is a hyphen. -/
theorem mem_splitBasic {s : List Char} {c : Char} (h : c ∈ s) :
    c ∈ (splitBasic s).1 ∨ c = '-' ∨ c ∈ (splitBasic s).2 := by
  have hsplit : (s.reverse.dropWhile (· != '-')).reverse ++
      (s.reverse.takeWhile (· != '-')).reverse = s := by
    rw [← List.reverse_append, List.takeWhile_append_dropWhile, List.reverse_reverse]
  unfold splitBasic
  generalize (s.reverse.takeWhile (· != '-')).reverse = digits at hsplit ⊢
  dsimp only
  split
  · exact .inr (.inr h)
  · rename_i hbefore
    have hhead := List.head?_dropWhile_not (· != '-') s.reverse
    rcases hmore : s.reverse.dropWhile (· != '-') with _ | ⟨hyphen, more⟩
    · rw [hmore] at hsplit
      simp [← hsplit] at hbefore
    · simp only [hmore, List.head?_cons, bne_eq_false_iff_eq] at hhead
      simp only [hmore, hhead, List.reverse_cons, List.append_assoc, List.cons_append,
        List.nil_append] at hsplit
      have hlength : s.length - digits.length - 1 = more.reverse.length := by
        simp only [← hsplit, List.length_append, List.length_cons]
        omega
      rw [hlength, ← hsplit, List.take_left]
      rw [← hsplit] at h
      obtain h | h := List.mem_append.1 h
      · exact .inl h
      · exact .inr (List.mem_cons.1 h)

/-- Only a label in ASCII letters is read. -/
theorem isBasic_of_decode? {s label : List Char} (h : decode? s = some label) :
    ∀ c ∈ s, isBasic c := by
  intro c hc
  simp only [decode?, Option.bind_eq_bind, Option.bind_eq_some_iff, Option.guard_eq_some'] at h
  obtain ⟨-, hbasic, d, hdigits, -⟩ := h
  obtain h | rfl | h := mem_splitBasic hc
  · exact List.all_eq_true.1 hbasic c h
  · decide
  · exact isBasic_of_foldlM hdigits c h

end Punycode

/-! ## Names -/

/-- The characters of names that are looked up. -/
def isNameChar (c : Char) : Bool := Punycode.isBasic c && !isForbidden c

theorem isNameChar_of_isAdded {c : Char} (h : Punycode.IsAdded c) : isNameChar c := by
  obtain rfl | ⟨d, hd, rfl⟩ := h
  · decide
  · have hdigits : ∀ d < Punycode.base, isNameChar (Punycode.digitChar d) := by decide
    exact hdigits d hd

theorem isNameChar_of_ofPart? {part : List Char} {l : Label} (h : Label.ofPart? part = some l)
    (hpart : ∀ c ∈ part, isForbidden c = false) : ∀ c ∈ l.ascii, isNameChar c := by
  have hbasic (h : ∀ c ∈ part, Punycode.isBasic c) : ∀ c ∈ part, isNameChar c := fun c hc => by
    simp [isNameChar, h c hc, hpart c hc]
  have hmark : ∀ c ∈ asciiMark, isNameChar c := List.all_eq_true.1 rfl
  unfold Label.ofPart? at h
  split at h
  · rename_i hmarked
    simp only [Option.bind_eq_bind, Option.bind_eq_some_iff] at h
    obtain ⟨-, -, shown, hshown, -, -, h⟩ := h
    obtain rfl := Option.some.inj h
    refine hbasic fun c hc => ?_
    obtain ⟨digits, rfl⟩ := List.isPrefixOf_iff_prefix.1 hmarked
    obtain hc | hc := List.mem_append.1 hc
    · have hname := hmark c hc
      simp only [isNameChar, Bool.and_eq_true] at hname
      exact hname.1
    · exact Punycode.isBasic_of_decode? hshown c (by simpa using hc)
  · split at h
    · rename_i hall
      obtain rfl := Option.some.inj h
      exact hbasic (List.all_eq_true.1 hall)
    · obtain rfl := Option.some.inj h
      intro c hc
      obtain hc | hc := List.mem_append.1 hc
      · exact hmark c hc
      · obtain ⟨hc, hcbasic⟩ | hc := Punycode.mem_encode hc
        · simp [isNameChar, hcbasic, hpart c hc]
        · exact isNameChar_of_isAdded hc

theorem exists_of_mem_mapM {α β : Type} {f : α → Option β} {as : List α} {bs : List β} {b : β}
    (h : as.mapM f = some bs) (hb : b ∈ bs) : ∃ a ∈ as, f a = some b := by
  induction as generalizing bs with
  | nil =>
    simp only [List.mapM_nil, Option.pure_def, Option.some.injEq] at h
    subst h
    cases hb
  | cons a as ih =>
    simp only [List.mapM_cons, Option.bind_eq_bind, Option.bind_eq_some_iff] at h
    obtain ⟨first, hfirst, rest, hrest, hbs⟩ := h
    obtain rfl := Option.some.inj hbs
    obtain rfl | hb := List.mem_cons.1 hb
    · exact ⟨a, List.mem_cons_self, hfirst⟩
    · obtain ⟨a', ha', hf⟩ := ih hrest hb
      exact ⟨a', List.mem_cons_of_mem a ha', hf⟩

theorem of_mem_intercalate {α : Type} {a : α} {sep : List α} {parts : List (List α)}
    (h : a ∈ sep.intercalate parts) : a ∈ sep ∨ ∃ part ∈ parts, a ∈ part := by
  induction parts with
  | nil => cases h
  | cons part parts ih =>
    by_cases hne : parts = []
    · rw [hne, List.intercalate_singleton] at h
      exact .inr ⟨part, List.mem_cons_self, h⟩
    · rw [List.intercalate_cons_of_ne_nil hne, List.append_assoc] at h
      obtain h | h := List.mem_append.1 h
      · exact .inr ⟨part, List.mem_cons_self, h⟩
      · obtain h | h := List.mem_append.1 h
        · exact .inl h
        · obtain h | ⟨later, hlater, h⟩ := ih h
          · exact .inl h
          · exact .inr ⟨later, List.mem_cons_of_mem part hlater, h⟩

/-- A name is looked up by ASCII characters that mean nothing else in an address. -/
theorem isNameChar_of_asciiDomain? {s name : List Char} (h : asciiDomain? s = some name) :
    ∀ c ∈ name, isNameChar c := by
  simp only [asciiDomain?, prepared?, Option.bind_eq_bind, Option.bind_eq_some_iff,
    Option.guard_eq_some', Option.pure_def, Option.some.injEq] at h
  obtain ⟨prepared, ⟨forms, -, -, hallowed, rfl⟩, labels, hlabels, -, -, -, -, rfl⟩ := h
  intro c hc
  obtain hc | ⟨ascii, hascii, hc⟩ := of_mem_intercalate hc
  · obtain rfl := List.mem_singleton.1 hc
    decide
  · obtain ⟨l, hl, rfl⟩ := List.mem_map.1 hascii
    obtain ⟨part, hpart, hof⟩ := exists_of_mem_mapM hlabels hl
    refine isNameChar_of_ofPart? hof (fun d hd => ?_) c hc
    have hmem := (sublist_of_mem_splitOnP hpart).subset hd
    simp only [Bool.not_eq_true', List.any_eq_false] at hallowed
    exact Bool.eq_false_iff.2 (hallowed d hmem)

end ShowScout.Web
