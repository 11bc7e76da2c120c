import ShowScout.Proofs.Json.Scalars

/-!
# The extent of numbers

A number with a fraction may be read back as its neighbour. Where a number ends is always read
right, though: if the text of a number is taken at all, the whole text of it is taken and no more,
whatever number it is taken for.
-/

namespace ShowScout.Json

/-! ## Results of readers -/

section Results

variable {α β γ : Type} {P Q : α → Prop} {R : β → Prop} {rest : List Char}

/-- Whatever the reader gives has the property, and the given text is left. -/
def Leaves (P : α → Prop) (rest : List Char) (result : Except Fault (α × List Char)) : Prop :=
  ∀ x s, result = .ok (x, s) → s = rest ∧ P x

theorem leaves_error (fault : Fault) : Leaves P rest (.error fault) := by
  intro x s hread
  cases hread

theorem leaves_ok {x : α} (h : P x) : Leaves P rest (.ok (x, rest)) := by
  rintro _ _ ⟨⟩
  exact ⟨rfl, h⟩

theorem Leaves.bind {s : List Char} {result : Except Fault (α × List Char)}
    {next : α × List Char → Except Fault (β × List Char)} (h : Leaves P s result)
    (hnext : ∀ x, P x → Leaves R rest (next (x, s))) : Leaves R rest (result >>= next) := by
  cases result with
  | error fault => exact leaves_error fault
  | ok read =>
    obtain ⟨x, s'⟩ := read
    obtain ⟨rfl, hx⟩ := h x s' rfl
    exact hnext x hx

theorem Leaves.mono {result : Except Fault (α × List Char)} (h : Leaves P rest result)
    (hPQ : ∀ x, P x → Q x) : Leaves Q rest result :=
  fun x s hresult => (h x s hresult).imp_right (hPQ x)

/-- Nothing is asked of what was read. -/
def Anything (_ : α) : Prop :=
  True

end Results

/-! ## Parts of numbers -/

/-- A text of digits. -/
def Digits (s : List Char) : Prop :=
  ∀ c ∈ s, c.isDigit

/-- An exponent, or nothing. -/
inductive Exponent : List Char → Prop
  | none : Exponent []
  | signed {sign : Char} {digits : List Char} : sign = '+' ∨ sign = '-' → Digits digits →
      Exponent ('e' :: sign :: digits)

/-- What stands after the whole part of a number. -/
inductive Fraction : List Char → Prop
  | none {exponent : List Char} : Exponent exponent → Fraction exponent
  | point {digits exponent : List Char} : Digits digits → Exponent exponent →
      Fraction ('.' :: (digits ++ exponent))

section Parts

variable {negative any : Bool} {n : Nat} {power : Int} {digits exponent fraction rest : List Char}
  {c : Char}

theorem digits_natText (n : Nat) : Digits (natText n) :=
  fun _ hc => Nat.isDigit_of_mem_toDigits (by decide) (by decide) hc

theorem digits_zeros (n : Nat) : Digits (List.replicate n '0') := by
  intro c hc
  rw [List.eq_of_mem_replicate hc]
  rfl

theorem Digits.append {digits' : List Char} (h : Digits digits) (h' : Digits digits') :
    Digits (digits ++ digits') :=
  List.forall_mem_append.2 ⟨h, h'⟩

/-- Nothing that follows a run of digits goes on with it. -/
theorem Exponent.head_append (h : Exponent exponent) (hends : Ends rest) :
    ∀ c ∈ (exponent ++ rest).head?, ¬ c.isDigit ∧ c ≠ '.' := by
  cases h with
  | none => exact fun c hc => ⟨(hends c hc).1, (hends c hc).2.1⟩
  | signed hsign hdigits =>
    rintro c ⟨⟩
    decide

theorem Fraction.head_append (h : Fraction fraction) (hends : Ends rest) :
    ∀ c ∈ (fraction ++ rest).head?, ¬ c.isDigit := by
  cases h with
  | none hexponent => exact fun c hc => (hexponent.head_append hends c hc).1
  | point =>
    rintro c ⟨⟩
    decide

theorem dropWhile_digits {tail : List Char} (h : Digits digits)
    (htail : ∀ c ∈ tail.head?, ¬ c.isDigit) : (digits ++ tail).dropWhile Char.isDigit = tail := by
  rw [List.dropWhile_append_of_pos h]
  cases tail with
  | nil => rfl
  | cons c tail => rw [List.dropWhile_cons_of_neg (htail c rfl)]

theorem floatOf_leaves : Leaves Anything rest (floatOf negative n power rest) := by
  unfold floatOf
  split
  · exact leaves_ok trivial
  · exact leaves_error _

theorem exponentDigits_leaves (upwards : Bool) (e : Nat) (h : Digits digits) (hends : Ends rest) :
    Leaves Anything rest (exponentDigits negative n power upwards e (digits ++ rest)) := by
  induction digits generalizing e with
  | nil =>
    rw [List.nil_append]
    cases rest with
    | nil => exact floatOf_leaves
    | cons c rest =>
      rw [exponentDigits, if_neg (hends c rfl).1]
      exact floatOf_leaves
  | cons c digits ih =>
    obtain ⟨hc, hdigits⟩ := List.forall_mem_cons.1 h
    rw [List.cons_append, exponentDigits, if_pos hc]
    dsimp only
    split
    · exact ih _ hdigits
    split
    · exact leaves_error _
    · rw [dropWhile_digits hdigits fun c hc => (hends c hc).1]
      exact leaves_ok trivial

theorem exponentPart_digit {sign : Char} (hsign : sign = '+' ∨ sign = '-') (hc : c.isDigit)
    (s : List Char) :
    ∃ upwards, exponentPart negative n power (sign :: c :: s) =
      exponentDigits negative n power upwards (digitValue c) s := by
  obtain rfl | rfl := hsign
  · exact ⟨true, if_pos hc⟩
  · exact ⟨false, if_pos hc⟩

theorem exponentPart_ends {sign : Char} (hsign : sign = '+' ∨ sign = '-') (hends : Ends rest) :
    ∃ fault, exponentPart negative n power (sign :: rest) = .error fault := by
  cases rest with
  | nil => obtain rfl | rfl := hsign <;> exact ⟨_, rfl⟩
  | cons c rest => obtain rfl | rfl := hsign <;> exact ⟨_, if_neg (hends c rfl).1⟩

/-- A sign may be followed by digits only. -/
theorem exponentPart_leaves {sign : Char} (hsign : sign = '+' ∨ sign = '-') (h : Digits digits)
    (hends : Ends rest) :
    Leaves Anything rest (exponentPart negative n power (sign :: (digits ++ rest))) := by
  cases digits with
  | nil =>
    obtain ⟨fault, hfault⟩ := exponentPart_ends hsign hends
    rw [List.nil_append, hfault]
    exact leaves_error fault
  | cons c digits =>
    obtain ⟨hc, hdigits⟩ := List.forall_mem_cons.1 h
    obtain ⟨upwards, hdigit⟩ := exponentPart_digit hsign hc (digits ++ rest)
    rw [List.cons_append, hdigit]
    exact exponentDigits_leaves upwards _ hdigits hends

theorem afterFraction_leaves (h : Exponent exponent) (hends : Ends rest) :
    Leaves Anything rest (afterFraction negative n power (exponent ++ rest)) := by
  cases h with
  | none =>
    rw [List.nil_append]
    unfold afterFraction
    split
    · exact absurd rfl (hends 'e' rfl).2.2.1
    · exact absurd rfl (hends 'E' rfl).2.2.2
    · exact floatOf_leaves
  | signed hsign hdigits => exact exponentPart_leaves hsign hdigits hends

theorem fractionDigits_leaves (h : Digits digits) (hexponent : Exponent exponent)
    (hends : Ends rest) :
    Leaves Anything rest (fractionDigits negative n power any (digits ++ (exponent ++ rest))) := by
  have hhead c hc := (hexponent.head_append hends c hc).1
  induction digits generalizing n power any with
  | nil =>
    have hafter : Leaves Anything rest (afterFraction negative n power (exponent ++ rest)) :=
      afterFraction_leaves hexponent hends
    rw [List.nil_append]
    cases htail : exponent ++ rest with
    | nil =>
      rw [htail] at hafter
      unfold fractionDigits
      split
      · exact hafter
      · exact leaves_error _
    | cons c tail =>
      rw [htail] at hafter hhead
      rw [fractionDigits, if_neg (hhead c rfl)]
      split
      · exact hafter
      · exact leaves_error _
  | cons c digits ih =>
    obtain ⟨hc, hdigits⟩ := List.forall_mem_cons.1 h
    rw [List.cons_append, fractionDigits, if_pos hc]
    dsimp only
    split
    · exact ih hdigits
    · rw [dropWhile_digits hdigits hhead]
      exact afterFraction_leaves hexponent hends

theorem longInteger_leaves (h : Digits digits) (hfraction : Fraction fraction)
    (hends : Ends rest) :
    Leaves Anything rest (longInteger negative n power (digits ++ (fraction ++ rest))) := by
  induction digits generalizing power with
  | nil =>
    rw [List.nil_append]
    cases hfraction with
    | none hexponent =>
      have hafter : Leaves Anything rest (afterFraction negative n power (fraction ++ rest)) :=
        afterFraction_leaves hexponent hends
      have hhead := hexponent.head_append hends
      cases htail : fraction ++ rest with
      | nil =>
        rw [htail] at hafter
        exact hafter
      | cons c tail =>
        rw [htail] at hafter hhead
        unfold longInteger
        split
        · rename_i heq
          exact absurd (List.cons.inj heq).1 (hhead c rfl).2
        · rename_i heq
          obtain ⟨rfl, rfl⟩ := List.cons.inj heq
          rw [if_neg (hhead _ rfl).1]
          exact hafter
        · rename_i heq
          cases heq
    | point hdigits hexponent =>
      rw [List.cons_append, List.append_assoc]
      exact fractionDigits_leaves hdigits hexponent hends
  | cons c digits ih =>
    obtain ⟨hc, hdigits⟩ := List.forall_mem_cons.1 h
    rw [List.cons_append]
    unfold longInteger
    split
    · rename_i heq
      rw [(List.cons.inj heq).1] at hc
      exact absurd hc (by decide)
    · rename_i heq
      obtain ⟨rfl, rfl⟩ := List.cons.inj heq
      rw [if_pos hc]
      exact ih hdigits
    · rename_i heq
      cases heq

theorem afterInteger_leaves (h : Fraction fraction) (hends : Ends rest) :
    Leaves Anything rest (afterInteger negative n (fraction ++ rest)) := by
  cases h with
  | none hexponent =>
    cases hexponent with
    | none =>
      rw [List.nil_append, afterInteger_of_ends hends]
      exact leaves_ok trivial
    | signed hsign hdigits => exact exponentPart_leaves hsign hdigits hends
  | point hdigits hexponent =>
    rw [List.cons_append, List.append_assoc]
    exact fractionDigits_leaves hdigits hexponent hends

theorem integerDigits_leaves (h : Digits digits) (hfraction : Fraction fraction)
    (hends : Ends rest) :
    Leaves Anything rest (integerDigits negative n (digits ++ (fraction ++ rest))) := by
  induction digits generalizing n with
  | nil =>
    have hafter : Leaves Anything rest (afterInteger negative n (fraction ++ rest)) :=
      afterInteger_leaves hfraction hends
    have hhead := hfraction.head_append hends
    rw [List.nil_append]
    cases htail : fraction ++ rest with
    | nil =>
      rw [htail] at hafter
      exact hafter
    | cons c tail =>
      rw [htail] at hafter hhead
      rw [integerDigits, if_neg (hhead c rfl)]
      exact hafter
  | cons c digits ih =>
    have hlong : Leaves Anything rest
        (longInteger negative n 0 (c :: digits ++ (fraction ++ rest))) :=
      longInteger_leaves h hfraction hends
    obtain ⟨hc, hdigits⟩ := List.forall_mem_cons.1 h
    rw [List.cons_append] at hlong ⊢
    rw [integerDigits, if_pos hc]
    dsimp only
    split
    · exact ih hdigits
    · exact hlong

end Parts

/-! ## Numbers -/

section Numbers

variable {negative : Bool} {digits fraction rest : List Char} {c : Char}

/-- Digits, and what stands after the whole part, are taken together. -/
theorem number_leaves (hc : c.isDigit) (h : Digits digits) (hfraction : Fraction fraction)
    (hends : Ends rest) :
    Leaves Anything rest (number negative (c :: (digits ++ (fraction ++ rest)))) := by
  rw [number]
  split
  · split
    · exact leaves_error _
    · rename_i hhead
      -- a zero with another digit after it is no number, so there are no other digits
      cases digits with
      | nil => exact afterInteger_leaves hfraction hends
      | cons d digits =>
        refine absurd ?_ hhead
        simpa using h d (by simp)
  · exact integerDigits_leaves h hfraction hends

/-- The text of a number without its sign. -/
inductive Unsigned : List Char → Prop
  | mk {c : Char} {digits fraction : List Char} : c.isDigit → Digits digits → Fraction fraction →
      Unsigned (c :: (digits ++ fraction))

theorem Unsigned.single {c : Char} {fraction : List Char} (hc : c.isDigit)
    (hfraction : Fraction fraction) : Unsigned (c :: fraction) := by
  rw [← List.nil_append fraction]
  exact .mk hc (List.forall_mem_nil _) hfraction

theorem unsigned_natText (n : Nat) : Unsigned (natText n) := by
  obtain ⟨c, digits, htext, hc⟩ := natText_starts n
  have hdigits := digits_natText n
  rw [htext] at hdigits ⊢
  rw [← List.append_nil digits]
  exact .mk hc (List.forall_mem_cons.1 hdigits).2 (.none .none)

theorem unsigned_pointAfter (whole : Int) (n : Nat) : Unsigned (pointAfter whole (natText n)) := by
  obtain ⟨c, digits, htext, hc⟩ := natText_starts n
  have hall := digits_natText n
  rw [htext] at hall ⊢
  have hdigits : Digits digits := (List.forall_mem_cons.1 hall).2
  unfold pointAfter
  dsimp only
  split
  · rw [← List.append_nil (List.replicate _ _ ++ _)]
    exact .single (by decide) (.point ((digits_zeros _).append hall) .none)
  · rename_i hwhole
    split
    · rw [List.append_assoc, List.cons_append, ← List.append_assoc]
      have hzero : Fraction ('.' :: (List.replicate 1 '0' ++ [])) :=
        .point (digits_zeros 1) .none
      exact .mk hc (hdigits.append (digits_zeros _)) hzero
    · -- the point stands behind the first digit at the earliest
      obtain ⟨k, hk⟩ : ∃ k, whole.toNat = k + 1 := ⟨whole.toNat - 1, by omega⟩
      rw [hk, List.take_succ_cons, List.drop_succ_cons, List.cons_append,
        ← List.append_nil (digits.drop k)]
      exact .mk hc (fun d hd => hdigits d (List.mem_of_mem_take hd))
        (.point (fun d hd => hdigits d (List.mem_of_mem_drop hd)) .none)

theorem exponent_exponentText (power : Int) : Exponent (exponentText floatFormat power) := by
  unfold exponentText
  split
  · exact .signed (.inr rfl) (digits_natText _)
  · exact .signed (.inl rfl) (digits_natText _)

theorem floatText_eq (x : Binary64) :
    ∃ s, Unsigned s ∧ floatText floatFormat x = (if x.negative then ['-'] else []) ++ s := by
  unfold floatText
  dsimp only
  refine ⟨_, ?_, rfl⟩
  split
  · exact unsigned_pointAfter _ _
  · obtain ⟨c, digits, htext, hc⟩ := natText_starts x.shortest.digits
    have hall := digits_natText x.shortest.digits
    rw [htext] at hall ⊢
    obtain ⟨-, hdigits⟩ := List.forall_mem_cons.1 hall
    dsimp only
    split
    · exact .single hc (.none (exponent_exponentText _))
    · exact .single hc (.point hdigits (exponent_exponentText _))

/-- The text of a number is one without a sign, or a minus and one. -/
theorem Number.text_eq (x : Number) : ∃ s, Unsigned s ∧ (x.text = s ∨ x.text = '-' :: s) := by
  cases x with
  | natural n => exact ⟨_, unsigned_natText n, .inl rfl⟩
  | negative n => exact ⟨_, unsigned_natText n, .inr rfl⟩
  | float x =>
    obtain ⟨s, hs, htext⟩ := floatText_eq x
    refine ⟨s, hs, ?_⟩
    rw [Number.text, htext]
    cases x.negative
    · exact .inl rfl
    · exact .inr rfl

/-- The text of a number is taken off, whatever number it stands for. -/
theorem scalar_leaves (x : Number) :
    ∃ c s, x.text = c :: s ∧ StartsNumber c ∧
      ∀ rest, Ends rest → Leaves Anything rest (scalar c (s ++ rest)) := by
  obtain ⟨s, ⟨hc, hdigits, hfraction⟩, htext | htext⟩ := x.text_eq <;>
    refine ⟨_, _, htext, ?_, fun rest hends => ?_⟩
  · exact .inr hc
  · rw [scalar_digit hc, List.append_assoc]
    exact (number_leaves hc hdigits hfraction hends).bind fun x _ => leaves_ok trivial
  · exact .inl rfl
  · rw [scalar, if_neg (by decide), if_neg (by decide), if_neg (by decide), if_pos rfl,
      List.cons_append, List.append_assoc]
    exact (number_leaves hc hdigits hfraction hends).bind fun x _ => leaves_ok trivial

end Numbers

end ShowScout.Json
