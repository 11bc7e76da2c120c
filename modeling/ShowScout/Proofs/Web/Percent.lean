import Mathlib.Data.List.Flatten
import ShowScout.Web.Percent

/-!
# Percent coding and decoding

What is encoded stands for the same bytes as before, and for no more bytes than it has been written
with.
-/

namespace ShowScout.Web

variable {mustEncode : Char → Bool} {c : Char} {s rest : List Char}

/-! ## Bytes of a text -/

/-- The bytes in which a text is encoded. -/
def bytes (s : List Char) : List UInt8 :=
  s.flatMap String.utf8EncodeChar

@[simp]
theorem bytes_nil : bytes [] = [] := rfl

@[simp]
theorem bytes_cons (c : Char) (s : List Char) :
    bytes (c :: s) = String.utf8EncodeChar c ++ bytes s := List.flatMap_cons

theorem utf8EncodeChar_length_pos (c : Char) : 0 < (String.utf8EncodeChar c).length := by
  rw [String.length_utf8EncodeChar]
  exact c.utf8Size_pos

theorem bytes_injective {s t : List Char} (h : bytes s = bytes t) : s = t := by
  have htext : (String.ofList s).toByteArray = (String.ofList t).toByteArray :=
    congrArg List.toByteArray h
  exact String.ofList_injective (String.toByteArray_inj.1 htext)

/-- A part of a text has fewer bytes unless it is the whole. -/
theorem eq_of_sublist_of_bytes_le {part : List Char} (h : part.Sublist s)
    (hlength : (bytes s).length ≤ (bytes part).length) : part = s := by
  have hle {a b : List Char} (h : a.Sublist b) : (bytes a).length ≤ (bytes b).length :=
    (h.flatMap String.utf8EncodeChar).length_le
  induction h with
  | slnil => rfl
  | @cons part s c h _ =>
    have hc := utf8EncodeChar_length_pos c
    have hpart := hle h
    simp only [bytes_cons, List.length_append] at hlength
    omega
  | @cons_cons part s c _ ih =>
    rw [ih (by simpa using hlength)]

/-! ## Digits -/

theorem upperHexDigit_lt {n : Nat} (h : n < 16) :
    hexDigit? (upperHexDigit n) = some n ∧ upperHexDigit n ≠ '%' := by
  revert n
  decide

theorem hexByte?_percent (c : Char) : hexByte? '%' c = none ∧ hexByte? c '%' = none := by
  have hpercent : hexDigit? '%' = none := by decide
  cases h : hexDigit? c <;> simp [hexByte?, hpercent, h]

theorem hexByte?_digits (b : UInt8) :
    hexByte? (upperHexDigit (b.toNat / 16)) (upperHexDigit (b.toNat % 16)) = some b := by
  have hb := b.toNat_lt
  simp only [hexByte?, (upperHexDigit_lt (n := b.toNat / 16) (by omega)).1,
    (upperHexDigit_lt (n := b.toNat % 16) (by omega)).1, bind, Option.bind]
  rw [Nat.div_add_mod' b.toNat 16, UInt8.ofNat_toNat]
  rfl

/-! ## Decoding -/

theorem percentDecode_of_ne (h : c ≠ '%') (rest : List Char) :
    percentDecode (c :: rest) = String.utf8EncodeChar c ++ percentDecode rest := by
  rw [percentDecode]
  rintro high low rest' rfl
  exact absurd rfl h

theorem percentDecode_percent (h : ∀ high low after, rest = high :: low :: after →
    hexByte? high low = none) :
    percentDecode ('%' :: rest) = String.utf8EncodeChar '%' ++ percentDecode rest := by
  match rest with
  | [] => rfl
  | [_] => simp [percentDecode]
  | high :: low :: after => rw [percentDecode, h high low after rfl]

theorem percentDecode_escape {high low : Char} {b : UInt8} (h : hexByte? high low = some b) :
    percentDecode ('%' :: high :: low :: rest) = b :: percentDecode rest := by
  rw [percentDecode, h]

theorem percentDecode_bytes (bs : List UInt8) (rest : List Char) :
    percentDecode (bs.flatMap percentByte ++ rest) = bs ++ percentDecode rest := by
  induction bs with
  | nil => rfl
  | cons b bs ih =>
    rw [List.flatMap_cons, percentByte, List.append_assoc, List.cons_append, List.cons_append,
      List.cons_append, List.nil_append, percentDecode_escape (hexByte?_digits b), ih]
    rfl

theorem length_percentDecode_le (s : List Char) :
    (percentDecode s).length ≤ (bytes s).length := by
  induction s using percentDecode.induct with
  | case1 => simp [percentDecode]
  | case2 high low rest b h ih =>
    have hhigh := utf8EncodeChar_length_pos high
    rw [percentDecode_escape h]
    simp only [bytes_cons, List.length_append, List.length_cons]
    omega
  | case3 high low rest h ih =>
    rw [percentDecode, h]
    simp only [bytes_cons, List.length_append] at ih ⊢
    omega
  | case4 c rest h ih =>
    rw [percentDecode]
    · simp only [bytes_cons, List.length_append]
      omega
    · exact h

/-! ## Encoding -/

@[simp]
theorem percentEncode_nil (mustEncode : Char → Bool) : percentEncode mustEncode [] = [] := rfl

theorem percentEncode_cons (mustEncode : Char → Bool) (c : Char) (s : List Char) :
    percentEncode mustEncode (c :: s) =
      (if mustEncode c then (String.utf8EncodeChar c).flatMap percentByte else [c]) ++
        percentEncode mustEncode s := List.flatMap_cons

theorem percentEncode_cons_of_not (h : mustEncode c = false) (s : List Char) :
    percentEncode mustEncode (c :: s) = c :: percentEncode mustEncode s := by
  simp [percentEncode_cons, h]

/-- What needs no encoding stays as it is. -/
theorem percentEncode_eq_self (h : ∀ c ∈ s, mustEncode c = false) :
    percentEncode mustEncode s = s := by
  induction s with
  | nil => rfl
  | cons c s ih =>
    rw [percentEncode_cons_of_not (h c List.mem_cons_self),
      ih fun d hd => h d (List.mem_cons_of_mem c hd)]

/-- What is encoded holds what was there before or percent signs and digits. -/
theorem mem_percentEncode (h : c ∈ percentEncode mustEncode s) :
    c ∈ s ∧ mustEncode c = false ∨ c = '%' ∨ ∃ n < 16, c = upperHexDigit n := by
  obtain ⟨d, hd, hc⟩ := List.mem_flatMap.1 h
  cases hmust : mustEncode d with
  | false =>
    obtain rfl : c = d := by simpa [hmust] using hc
    exact .inl ⟨hd, hmust⟩
  | true =>
    rw [hmust, if_pos rfl] at hc
    obtain ⟨b, -, hb⟩ := List.mem_flatMap.1 hc
    have hlt := b.toNat_lt
    simp only [percentByte, List.mem_cons, List.not_mem_nil, or_false] at hb
    obtain rfl | rfl | rfl := hb
    · exact .inr (.inl rfl)
    · exact .inr (.inr ⟨b.toNat / 16, by omega, rfl⟩)
    · exact .inr (.inr ⟨b.toNat % 16, by omega, rfl⟩)

/-- The front of an encoded text is what it was, or a percent sign. -/
theorem percentEncode_eq_cons (h : percentEncode mustEncode s = c :: rest) (hc : c ≠ '%') :
    ∃ after, s = c :: after ∧ percentEncode mustEncode after = rest := by
  cases s with
  | nil => cases h
  | cons d after =>
    rw [percentEncode_cons] at h
    cases hmust : mustEncode d with
    | false =>
      rw [hmust] at h
      obtain ⟨rfl, rfl⟩ := List.cons.inj h
      exact ⟨after, rfl, rfl⟩
    | true =>
      obtain ⟨b, bs, hbytes⟩ := List.exists_cons_of_length_pos (utf8EncodeChar_length_pos d)
      rw [hmust, if_pos rfl, hbytes] at h
      exact absurd (List.cons.inj h).1.symm hc

/-- Two digits at the front of an encoded text were there before. -/
theorem percentEncode_eq_digits {high low : Char} {b : UInt8}
    (h : percentEncode mustEncode s = high :: low :: rest) (hb : hexByte? high low = some b) :
    ∃ after, s = high :: low :: after := by
  have hhigh : high ≠ '%' := by
    rintro rfl
    simp [hexByte?_percent] at hb
  have hlow : low ≠ '%' := by
    rintro rfl
    simp [hexByte?_percent] at hb
  obtain ⟨later, rfl, hlater⟩ := percentEncode_eq_cons h hhigh
  obtain ⟨after, rfl, -⟩ := percentEncode_eq_cons hlater hlow
  exact ⟨after, rfl⟩

/-- Encoding does not change what a text stands for. -/
theorem percentDecode_percentEncode (hpercent : mustEncode '%' = false)
    (hdigits : ∀ c, mustEncode c → hexDigit? c = none) (s : List Char) :
    percentDecode (percentEncode mustEncode s) = percentDecode s := by
  have hdigit {c : Char} (hc : hexDigit? c ≠ none) : mustEncode c = false :=
    Bool.eq_false_iff.2 fun hmust => hc (hdigits c hmust)
  induction s using percentDecode.induct with
  | case1 => rfl
  | case2 high low rest b h ih =>
    have hhigh : hexDigit? high ≠ none := fun hnone => by simp [hexByte?, hnone] at h
    have hlow : hexDigit? low ≠ none := fun hnone => by simp [hexByte?, hnone] at h
    rw [percentEncode_cons_of_not hpercent, percentEncode_cons_of_not (hdigit hhigh),
      percentEncode_cons_of_not (hdigit hlow), percentDecode_escape h, percentDecode_escape h, ih]
  | case3 high low rest h ih =>
    -- encoding puts no digits behind a percent sign that were not there
    rw [percentEncode_cons_of_not hpercent, percentDecode_percent, ih, percentDecode_percent]
    · rintro _ _ _ ⟨rfl, rfl⟩
      exact h
    · intro high' low' after hcoded
      cases hbyte : hexByte? high' low' with
      | none => rfl
      | some b =>
        obtain ⟨_, ⟨rfl, rfl⟩⟩ := percentEncode_eq_digits hcoded hbyte
        rw [h] at hbyte
        cases hbyte
  | case4 c rest h ih =>
    by_cases hc : c = '%'
    · subst hc
      rw [percentEncode_cons_of_not hpercent, percentDecode_percent, ih, percentDecode_percent]
      · intro high low after hrest
        exact (h high low after rfl hrest).elim
      · intro high low after hcoded
        cases hbyte : hexByte? high low with
        | none => rfl
        | some b =>
          obtain ⟨after, hrest⟩ := percentEncode_eq_digits hcoded hbyte
          exact (h high low after rfl hrest).elim
    · rw [percentDecode_of_ne hc, ← ih]
      cases hmust : mustEncode c with
      | false => rw [percentEncode_cons_of_not hmust, percentDecode_of_ne hc]
      | true => rw [percentEncode_cons, hmust, if_pos rfl, percentDecode_bytes]

end ShowScout.Web
