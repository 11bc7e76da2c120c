import ShowScout.Proofs.Json.Fits

/-!
# Numbers and strings read back

What is written for a number or a string is read as that number or string, whatever stands after it.
A number has to be followed by something that is no part of a number.
-/

namespace ShowScout.Json

/-! ## Ends of values -/

/-- A text that does not go on with a number that stands before it. -/
def Ends (rest : List Char) : Prop :=
  ∀ c ∈ rest.head?, ¬ c.isDigit ∧ c ≠ '.' ∧ c ≠ 'e' ∧ c ≠ 'E'

theorem ends_nil : Ends [] :=
  nofun

theorem ends_cons {c : Char} {rest : List Char}
    (h : ¬ c.isDigit ∧ c ≠ '.' ∧ c ≠ 'e' ∧ c ≠ 'E') : Ends (c :: rest) := by
  rintro d ⟨⟩
  exact h

theorem ends_of_isBlank {c : Char} {rest : List Char} (h : isBlank c) : Ends (c :: rest) := by
  apply ends_cons
  have hcases : c = ' ' ∨ c = '\n' ∨ c = '\t' ∨ c = '\r' := by
    simpa [isBlank, or_assoc] using h
  rcases hcases with rfl | rfl | rfl | rfl <;> decide

/-! ## Numbers -/

/-- The number is an integer. Minus zero is one, although it is kept as a floating point number. -/
def Number.isWhole : Number → Bool
  | .natural _ => true
  | .negative _ => true
  | .float x => x = .zero true

section Numbers

variable {negative : Bool} {n : Nat} {s rest : List Char}

theorem afterInteger_of_ends (h : Ends rest) :
    afterInteger negative n rest = .ok (integerOf negative n, rest) := by
  cases rest with
  | nil => rfl
  | cons c rest =>
    obtain ⟨-, hpoint, he, hE⟩ := h c rfl
    unfold afterInteger
    split <;> simp_all

theorem integerDigits_of_ends (h : Ends rest) :
    integerDigits negative n rest = .ok (integerOf negative n, rest) := by
  rw [← afterInteger_of_ends h]
  cases rest with
  | nil => rfl
  | cons c rest => rw [integerDigits, if_neg (h c rfl).1]

theorem le_ofDigitChars (digits : List Char) (n : Nat) : n ≤ Nat.ofDigitChars 10 digits n := by
  rw [Nat.ofDigitChars_eq_ofDigitChars_zero]
  have hpower : 0 < 10 ^ digits.length := Nat.pow_pos (by decide)
  exact Nat.le_add_right_of_le (Nat.le_mul_of_pos_left n hpower)

theorem integerDigits_append {digits : List Char} (hdigits : ∀ c ∈ digits, c.isDigit)
    (hrange : Nat.ofDigitChars 10 digits n < wordSize) (hends : Ends rest) :
    integerDigits negative n (digits ++ rest) =
      .ok (integerOf negative (Nat.ofDigitChars 10 digits n), rest) := by
  induction digits generalizing n with
  | nil => exact integerDigits_of_ends hends
  | cons c digits ih =>
    have hstep : Nat.ofDigitChars 10 (c :: digits) n =
        Nat.ofDigitChars 10 digits (n * 10 + digitValue c) := by
      rw [Nat.ofDigitChars_cons, Nat.mul_comm]
      rfl
    rw [hstep] at hrange ⊢
    have hsmall : n * 10 + digitValue c < wordSize :=
      Nat.lt_of_le_of_lt (le_ofDigitChars digits _) hrange
    rw [List.cons_append, integerDigits, if_pos (hdigits c (by simp))]
    simp only [if_pos hsmall]
    exact ih (fun d hd => hdigits d (by simp [hd])) hrange

/-- The digits of a number do not start with zero, unless they are zero. -/
theorem natText_eq_cons (h : 0 < n) :
    ∃ c digits, natText n = c :: digits ∧ c ≠ '0' ∧ c.isDigit := by
  have hdigit : ∀ n < 10, 0 < n → n.digitChar ≠ '0' ∧ n.digitChar.isDigit := by decide
  induction n using Nat.strongRecOn with
  | ind n ih =>
    rcases Nat.lt_or_ge n 10 with hlt | hge
    · exact ⟨n.digitChar, [], Nat.toDigits_of_lt_base hlt, hdigit n hlt h⟩
    · obtain ⟨c, digits, hdigits, hne, hdigit⟩ := ih (n / 10) (by omega) (by omega)
      refine ⟨c, digits ++ [(n % 10).digitChar], ?_, hne, hdigit⟩
      rw [natText, Nat.toDigits_of_base_le (by decide) hge, ← List.cons_append, ← hdigits]
      rfl

theorem number_natText (hrange : n < wordSize) (hends : Ends rest) :
    number negative (natText n ++ rest) = .ok (integerOf negative n, rest) := by
  rcases Nat.eq_zero_or_pos n with rfl | hpos
  · have hhead : (rest.head?.map Char.isDigit).getD false = false := by
      cases rest with
      | nil => rfl
      | cons c rest => simpa using (hends c rfl).1
    rw [natText, Nat.toDigits_zero, List.singleton_append, number, if_pos rfl, hhead]
    exact afterInteger_of_ends hends
  · obtain ⟨c, digits, hdigits, hne, hdigit⟩ := natText_eq_cons hpos
    have hvalue : Nat.ofDigitChars 10 digits (digitValue c) = n := by
      have hall := Nat.ofDigitChars_ten_toDigits (n := n)
      rw [← natText, hdigits, Nat.ofDigitChars_cons] at hall
      simpa [digitValue] using hall
    have hmem : ∀ d ∈ digits, d.isDigit := by
      intro d hd
      refine Nat.isDigit_of_mem_toDigits (b := 10) (n := n) (by decide) (by decide) ?_
      rw [← natText, hdigits]
      exact List.mem_cons_of_mem c hd
    rw [hdigits, List.cons_append, number, if_neg hne, if_pos hdigit,
      integerDigits_append hmem (hvalue ▸ hrange) hends, hvalue]

theorem natText_starts (n : Nat) : ∃ c digits, natText n = c :: digits ∧ c.isDigit := by
  rcases Nat.eq_zero_or_pos n with rfl | hpos
  · exact ⟨'0', [], Nat.toDigits_zero 10, by decide⟩
  · obtain ⟨c, digits, hdigits, -, hdigit⟩ := natText_eq_cons hpos
    exact ⟨c, digits, hdigits, hdigit⟩

/-- The text of minus zero has a point, and is read as a fraction. -/
theorem number_minusZero (hends : Ends rest) :
    number true (['0', '.', '0'] ++ rest) = .ok (.float (.zero true), rest) := by
  have hscaled : (Binary64.ofNat 0).bind (scaleByTens · (-1)) = some (.zero false) := by
    have hzero : Binary64.ofNat 0 = some (.zero false) := rfl
    rw [hzero, Option.bind_some, scaleByTens]
    rfl
  have hfloat : floatOf true 0 (-1) rest = .ok (.float (.zero true), rest) := by
    rw [floatOf, hscaled]
    rfl
  have hdigits : fractionDigits true 0 (-1) true rest = floatOf true 0 (-1) rest := by
    cases rest with
    | nil => rfl
    | cons c rest =>
      obtain ⟨hdigit, -, he, hE⟩ := hends c rfl
      rw [fractionDigits, if_neg hdigit, if_pos rfl]
      unfold afterFraction
      split <;> simp_all
  rw [← hfloat, ← hdigits]
  rfl

/-- What the text of a number that stands alone starts with. -/
def StartsNumber (c : Char) : Prop :=
  c = '-' ∨ c.isDigit

instance (c : Char) : Decidable (StartsNumber c) :=
  inferInstanceAs (Decidable (c = '-' ∨ c.isDigit))

theorem StartsNumber.ne {c d : Char} (h : StartsNumber c) (hd : ¬ StartsNumber d) : c ≠ d := by
  rintro rfl
  exact hd h

theorem StartsNumber.isBlank_eq_false {c : Char} (h : StartsNumber c) : isBlank c = false := by
  have hne (d : Char) (hd : ¬ StartsNumber d) : c ≠ d := h.ne hd
  simp [isBlank, hne ' ' (by decide), hne '\n' (by decide), hne '\t' (by decide),
    hne '\r' (by decide)]

/-- A text that starts with a digit is a number. -/
theorem scalar_digit {c : Char} (h : c.isDigit) (s : List Char) :
    scalar c s = do
      let (n, s) ← number false (c :: s)
      return (.number n, s) := by
  have hne : c ≠ 'n' ∧ c ≠ 't' ∧ c ≠ 'f' ∧ c ≠ '-' := by
    refine ⟨?_, ?_, ?_, ?_⟩ <;>
    · rintro rfl
      exact absurd h (by decide)
  rw [scalar, if_neg hne.1, if_neg hne.2.1, if_neg hne.2.2.1, if_neg hne.2.2.2, if_pos h]

theorem scalar_natText (hrange : n < wordSize) :
    ∃ c s, natText n = c :: s ∧ StartsNumber c ∧
      ∀ rest, Ends rest → scalar c (s ++ rest) = .ok (.number (.natural n), rest) := by
  obtain ⟨c, digits, hdigits, hdigit⟩ := natText_starts n
  refine ⟨c, digits, hdigits, .inr hdigit, fun rest hends => ?_⟩
  have hread : number false (c :: (digits ++ rest)) = .ok (.natural n, rest) := by
    rw [← List.cons_append, ← hdigits, number_natText hrange hends]
    rfl
  rw [scalar_digit hdigit, hread]
  rfl

theorem scalar_minus {x : Number} (hread : number true (s ++ rest) = .ok (x, rest)) :
    scalar '-' (s ++ rest) = .ok (.number x, rest) := by
  rw [scalar, if_neg (by decide), if_neg (by decide), if_neg (by decide), if_pos rfl, hread]
  rfl

/-- A number without a fraction or an exponent is read back. -/
theorem scalar_number {x : Number} (hrange : x.InRange) (hwhole : x.isWhole) :
    ∃ c s, x.text = c :: s ∧ StartsNumber c ∧
      ∀ rest, Ends rest → scalar c (s ++ rest) = .ok (.number x, rest) := by
  cases x with
  | natural n => exact scalar_natText hrange
  | negative n =>
    refine ⟨'-', natText n, rfl, .inl rfl, fun rest hends => scalar_minus ?_⟩
    rw [number_natText (Nat.lt_of_le_of_lt hrange.2 (by decide)) hends, integerOf,
      if_neg (by decide), if_neg (Nat.ne_of_gt hrange.1), if_pos hrange.2]
  | float x =>
    obtain rfl : x = .zero true := by simpa [Number.isWhole] using hwhole
    exact ⟨'-', ['0', '.', '0'], rfl, .inl rfl,
      fun rest hends => scalar_minus (number_minusZero hends)⟩

end Numbers

/-! ## Strings -/

theorem hexValue?_hexDigit : ∀ n < 16, hexValue? (hexDigit n) = some n := by
  decide

theorem hexEscape_control {n : Nat} (h : n < 256) (rest : List Char) :
    hexEscape ('0' :: '0' :: hexDigit (n / 16) :: hexDigit (n % 16) :: rest) = .ok (n, rest) := by
  have hzero : hexValue? '0' = some 0 := by decide
  have hhigh := hexValue?_hexDigit (n / 16) (by omega)
  have hlow := hexValue?_hexDigit (n % 16) (by omega)
  have hsum : n / 16 * 16 + n % 16 = n := Nat.div_add_mod' n 16
  simp [hexEscape, hzero, hhigh, hlow, hsum]

theorem escape_control {c : Char} (h : c.toNat < 0x20) (rest : List Char) :
    escape ('u' :: '0' :: '0' :: hexDigit (c.toNat / 16) :: hexDigit (c.toNat % 16) :: rest) =
      .ok (c, rest) := by
  have hlow : isLowSurrogate c.toNat = false := by
    simp only [isLowSurrogate, Bool.and_eq_false_iff, decide_eq_false_iff_not]
    omega
  have hhigh : isHighSurrogate c.toNat = false := by
    simp only [isHighSurrogate, Bool.and_eq_false_iff, decide_eq_false_iff_not]
    omega
  show unicodeEscape _ = _
  rw [unicodeEscape, hexEscape_control (by omega)]
  simp [hlow, hhigh, bind, Except.bind, pure, Except.pure]

section Strings

variable {fuel : Nat} {c : Char} {s escaped rest : List Char}

theorem stringChars_of_escape (h : escape escaped = .ok (c, s)) :
    stringChars (fuel + 1) ('\\' :: escaped) = do
      let (cs, s) ← stringChars fuel s
      return (c :: cs, s) := by
  rw [stringChars, if_neg (by decide), if_pos rfl, h]
  rfl

/-- One character of a string is read back, whether it is escaped or not. -/
theorem stringChars_escapeChar (fuel : Nat) (c : Char) (s : List Char) :
    stringChars (fuel + 1) (escapeChar c ++ s) = do
      let (cs, s) ← stringChars fuel s
      return (c :: cs, s) := by
  fun_cases escapeChar c
  -- a control character by its number, a character as it is, and the escapes by a letter
  case case8 hcontrol => exact stringChars_of_escape (escape_control hcontrol s)
  case case9 hquote hbackslash _ _ _ _ _ hcontrol =>
    rw [List.singleton_append, stringChars, if_neg hquote, if_neg hbackslash, if_neg hcontrol]
  all_goals
    subst c
    exact stringChars_of_escape rfl

theorem stringChars_flatMap {cs : List Char} (hfuel : cs.length < fuel) :
    stringChars fuel (cs.flatMap escapeChar ++ '"' :: rest) = .ok (cs, rest) := by
  induction cs generalizing fuel with
  | nil =>
    obtain ⟨fuel, rfl⟩ := Nat.exists_eq_add_one_of_ne_zero (Nat.ne_of_gt hfuel)
    rfl
  | cons c cs ih =>
    obtain ⟨fuel, rfl⟩ := Nat.exists_eq_add_one_of_ne_zero (Nat.ne_zero_of_lt hfuel)
    rw [List.flatMap_cons, List.append_assoc, stringChars_escapeChar,
      ih (Nat.lt_of_succ_lt_succ hfuel)]
    rfl

theorem length_le_flatMap_escapeChar (cs : List Char) :
    cs.length ≤ (cs.flatMap escapeChar).length := by
  have hone (c : Char) : 1 ≤ (escapeChar c).length := by
    fun_cases escapeChar c <;> simp
  induction cs with
  | nil => exact Nat.le_refl _
  | cons c cs ih =>
    rw [List.flatMap_cons, List.length_append, List.length_cons, Nat.add_comm]
    exact Nat.add_le_add (hone c) ih

/-- A string is read back, with whatever stands after its closing quote left over. -/
theorem stringBody_stringText (x : String) (rest : List Char) :
    stringBody (x.toList.flatMap escapeChar ++ '"' :: rest) = .ok (x, rest) := by
  have hlength := length_le_flatMap_escapeChar x.toList
  rw [stringBody, stringChars_flatMap (by rw [List.length_append]; omega)]
  simp [bind, Except.bind, pure, Except.pure]

end Strings

end ShowScout.Json
