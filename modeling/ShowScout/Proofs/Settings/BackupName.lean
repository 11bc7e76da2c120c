import Mathlib.Data.String.Basic
import Mathlib.Tactic.Tauto
import ShowScout.Settings.Backup

/-!
# Backups of different days

The name of a backup gives its date away, also for years of more than four digits and for those
before the first. Within four-digit years all names have one length, and then they are in the order
of their dates.
-/

namespace ShowScout

/-! ## Texts of digits -/

section Digits

variable {s t u v : List Char} {width m n : Nat}

/-- Texts with beginnings of one length are in the order of these, and of what follows if the
beginnings are equal. -/
theorem append_lt_append_iff (h : s.length = t.length) :
    s ++ u < t ++ v ↔ s < t ∨ s = t ∧ u < v := by
  induction s generalizing t with
  | nil =>
    obtain rfl := List.eq_nil_of_length_eq_zero h.symm
    simp
  | cons c s ih =>
    cases t with
    | nil => cases h
    | cons d t =>
      rw [List.cons_append, List.cons_append, List.cons_lt_cons_iff, List.cons_lt_cons_iff,
        ih (Nat.succ.inj h), List.cons.injEq]
      tauto

/-- Numbers that are put together from a digit and a rest are in the order of the digits, and of the
rests if the digits are equal. -/
theorem mul_add_lt_mul_add_iff {p a b : Nat} (hm : m < p) (hn : n < p) :
    p * a + m < p * b + n ↔ a < b ∨ a = b ∧ m < n := by
  rcases Nat.lt_trichotomy a b with hlt | rfl | hgt
  · have hstep : p * (a + 1) ≤ p * b := Nat.mul_le_mul_left p hlt
    rw [Nat.mul_succ] at hstep
    omega
  · simp
  · have hstep : p * (b + 1) ≤ p * a := Nat.mul_le_mul_left p hgt
    rw [Nat.mul_succ] at hstep
    omega

theorem ofList_framed_inj {front back : List Char} :
    String.ofList (front ++ s ++ back) = String.ofList (front ++ t ++ back) ↔ s = t := by
  rw [String.ofList_inj, List.append_left_inj, List.append_right_inj]

/-- What stands around texts of one length does not matter for their order. -/
theorem ofList_framed_lt_iff {front back : List Char} (h : s.length = t.length) :
    String.ofList (front ++ s ++ back) < String.ofList (front ++ t ++ back) ↔ s < t := by
  rw [String.lt_iff, String.toList_ofList, String.toList_ofList, List.append_assoc,
    List.append_assoc, append_lt_append_iff rfl, append_lt_append_iff h]
  simp only [lt_self_iff_false, false_or, true_and, and_false, or_false]

/-- The number that a text of digits stands for. -/
def digitsNumber (s : List Char) : Nat :=
  Nat.ofDigitChars 10 s 0

theorem digitsNumber_cons (c : Char) (s : List Char) :
    digitsNumber (c :: s) = 10 ^ s.length * (c.toNat - '0'.toNat) + digitsNumber s := by
  rw [digitsNumber, Nat.ofDigitChars_cons, Nat.ofDigitChars_eq_ofDigitChars_zero, digitsNumber]
  simp

theorem digitsNumber_lt (h : ∀ c ∈ s, c.isDigit) : digitsNumber s < 10 ^ s.length := by
  induction s with
  | nil => decide
  | cons c s ih =>
    obtain ⟨hc, hs⟩ := List.forall_mem_cons.1 h
    have hdigit : c.toNat - '0'.toNat < 10 := by
      have hlast : c.toNat ≤ '9'.toNat := (Char.isDigit_iff_toNat.1 hc).2
      exact Nat.sub_lt_left_of_lt_add (Char.isDigit_iff_toNat.1 hc).1 (Nat.lt_succ_of_le hlast)
    calc digitsNumber (c :: s)
        = 10 ^ s.length * (c.toNat - '0'.toNat) + digitsNumber s := digitsNumber_cons c s
      _ < 10 ^ s.length * (c.toNat - '0'.toNat) + 10 ^ s.length := Nat.add_lt_add_left (ih hs) _
      _ = 10 ^ s.length * (c.toNat - '0'.toNat + 1) := rfl
      _ ≤ 10 ^ s.length * 10 := Nat.mul_le_mul_left _ hdigit

/-- Texts of equally many digits are in the order of their numbers. -/
theorem lt_iff_digitsNumber_lt (hs : ∀ c ∈ s, c.isDigit) (ht : ∀ c ∈ t, c.isDigit)
    (h : s.length = t.length) : s < t ↔ digitsNumber s < digitsNumber t := by
  induction s generalizing t with
  | nil =>
    obtain rfl := List.eq_nil_of_length_eq_zero h.symm
    simp
  | cons c s ih =>
    cases t with
    | nil => cases h
    | cons d t =>
      obtain ⟨hc, hs⟩ := List.forall_mem_cons.1 hs
      obtain ⟨hd, ht⟩ := List.forall_mem_cons.1 ht
      have hlength : s.length = t.length := Nat.succ.inj h
      have hrest : digitsNumber s < 10 ^ t.length := hlength ▸ digitsNumber_lt hs
      have hfirst : c < d ↔ c.toNat - '0'.toNat < d.toNat - '0'.toNat :=
        (Nat.sub_lt_sub_iff_right (Char.isDigit_iff_toNat.1 hc).1).symm
      have hsame : c = d ↔ c.toNat - '0'.toNat = d.toNat - '0'.toNat := by
        rw [← Char.toNat_inj]
        have hzero := (Char.isDigit_iff_toNat.1 hc).1
        have hzero' := (Char.isDigit_iff_toNat.1 hd).1
        omega
      rw [List.cons_lt_cons_iff, digitsNumber_cons, digitsNumber_cons, ih hs ht hlength, hlength,
        mul_add_lt_mul_add_iff hrest (digitsNumber_lt ht), hfirst, hsame]

theorem digitsNumber_paddedDigits (width n : Nat) : digitsNumber (paddedDigits width n) = n := by
  rw [digitsNumber, paddedDigits, Nat.ofDigitChars_append, Nat.ofDigitChars_replicate_zero,
    Nat.mul_zero, Nat.ofDigitChars_ten_toDigits]

theorem isDigit_of_mem_paddedDigits {c : Char} (h : c ∈ paddedDigits width n) : c.isDigit := by
  rcases List.mem_append.1 h with hpad | hdigit
  · rw [List.eq_of_mem_replicate hpad]
    rfl
  · exact Nat.isDigit_of_mem_toDigits (by decide) (by decide) hdigit

theorem length_paddedDigits (hwidth : 0 < width) (h : n < 10 ^ width) :
    (paddedDigits width n).length = width := by
  have hdigits : (Nat.toDigits 10 n).length ≤ width :=
    (Nat.length_toDigits_le_iff (by decide) hwidth).2 h
  rw [paddedDigits, List.length_append, List.length_replicate, Nat.sub_add_cancel hdigits]

theorem paddedDigits_injective (width : Nat) : Function.Injective (paddedDigits width) :=
  Function.LeftInverse.injective (digitsNumber_paddedDigits width)

/-- Numbers that fit are padded to texts in their order. -/
theorem paddedDigits_lt_iff (hwidth : 0 < width) (hm : m < 10 ^ width) (hn : n < 10 ^ width) :
    paddedDigits width m < paddedDigits width n ↔ m < n := by
  have hlength : (paddedDigits width m).length = (paddedDigits width n).length :=
    (length_paddedDigits hwidth hm).trans (length_paddedDigits hwidth hn).symm
  rw [lt_iff_digitsNumber_lt (fun _ => isDigit_of_mem_paddedDigits)
    (fun _ => isDigit_of_mem_paddedDigits) hlength, digitsNumber_paddedDigits,
    digitsNumber_paddedDigits]

end Digits

/-! ## Dates -/

namespace Date

variable {d e : Date}

/-- The earlier one of two dates is the one of the earlier year, month or day. -/
instance : LT Date where
  lt d e :=
    d.year < e.year ∨ d.year = e.year ∧ (d.month < e.month ∨ d.month = e.month ∧ d.day < e.day)

theorem lt_iff :
    d < e ↔
      d.year < e.year ∨ d.year = e.year ∧ (d.month < e.month ∨ d.month = e.month ∧ d.day < e.day) :=
  Iff.rfl

theorem eq_iff : d = e ↔ d.year = e.year ∧ d.month = e.month ∧ d.day = e.day := by
  rw [mk.injEq]

theorem month_lt (d : Date) : d.month < 10 ^ 2 := by
  have hday := d.day_mem
  unfold daysInMonth at hday
  grind

theorem day_lt (d : Date) : d.day < 10 ^ 2 := by
  have hday := d.day_mem
  unfold daysInMonth at hday
  grind

end Date

/-! ## Names -/

section Names

variable {d e : Date} {year : Int}

/-- The year that a text stands for. -/
def yearNumber : List Char → Int
  | '-' :: digits => -digitsNumber digits
  | '+' :: digits => digitsNumber digits
  | digits => digitsNumber digits

theorem yearNumber_of_digits {s : List Char} (h : ∀ c ∈ s, c.isDigit) :
    yearNumber s = digitsNumber s := by
  unfold yearNumber
  split
  · exact absurd (h '-' List.mem_cons_self) (by decide)
  · exact absurd (h '+' List.mem_cons_self) (by decide)
  · rfl

theorem yearNumber_yearText (year : Int) : yearNumber (yearText year) = year := by
  unfold yearText
  split
  · rw [yearNumber, digitsNumber_paddedDigits]
    omega
  split
  · rw [yearNumber_of_digits fun _ => isDigit_of_mem_paddedDigits, digitsNumber_paddedDigits]
    omega
  · rw [yearNumber, digitsNumber_paddedDigits]
    omega

theorem yearText_injective : Function.Injective yearText :=
  Function.LeftInverse.injective yearNumber_yearText

/-- Month and day have two digits each, so what is in front of them is the year. -/
theorem dateText_inj : dateText d = dateText e ↔ d = e := by
  constructor
  · intro h
    have hday : (paddedDigits 2 d.day).length = (paddedDigits 2 e.day).length := by
      rw [length_paddedDigits (by decide) d.day_lt, length_paddedDigits (by decide) e.day_lt]
    have hmonth : (paddedDigits 2 d.month).length = (paddedDigits 2 e.month).length := by
      rw [length_paddedDigits (by decide) d.month_lt, length_paddedDigits (by decide) e.month_lt]
    obtain ⟨hyears, hrest⟩ := List.append_inj' h (by simp [hday, hmonth])
    obtain ⟨hmonths, hdays⟩ := List.append_inj (List.cons.inj hrest).2 hmonth
    rw [Date.eq_iff]
    exact ⟨yearText_injective hyears, paddedDigits_injective 2 hmonths,
      paddedDigits_injective 2 (List.cons.inj hdays).2⟩
  · rintro rfl
    rfl

/-- The year has four digits. -/
def Date.HasShortYear (d : Date) : Prop :=
  0 ≤ d.year ∧ d.year ≤ 9999

theorem yearText_of_hasShortYear (h : d.HasShortYear) :
    yearText d.year = paddedDigits 4 d.year.natAbs := by
  rw [yearText, if_neg (Int.not_lt.2 h.1), if_pos h.2]

theorem natAbs_year_lt (h : d.HasShortYear) : d.year.natAbs < 10 ^ 4 := by
  obtain ⟨hfirst, hlast⟩ := h
  omega

/-- All parts of such a date have a fixed number of digits, so its text is in the order of them. -/
theorem dateText_lt_iff (hd : d.HasShortYear) (he : e.HasShortYear) :
    dateText d < dateText e ↔ d < e := by
  have hyear := length_paddedDigits (by decide) (natAbs_year_lt hd)
  have hyear' := length_paddedDigits (by decide) (natAbs_year_lt he)
  have hmonth := length_paddedDigits (by decide) d.month_lt
  have hmonth' := length_paddedDigits (by decide) e.month_lt
  have hless : d.year.natAbs < e.year.natAbs ↔ d.year < e.year := by
    have hfirst := hd.1
    have hfirst' := he.1
    omega
  have hsame : d.year.natAbs = e.year.natAbs ↔ d.year = e.year := by
    have hfirst := hd.1
    have hfirst' := he.1
    omega
  rw [dateText, dateText, yearText_of_hasShortYear hd, yearText_of_hasShortYear he,
    append_lt_append_iff (hyear.trans hyear'.symm), List.cons_lt_cons_iff,
    append_lt_append_iff (hmonth.trans hmonth'.symm), List.cons_lt_cons_iff,
    paddedDigits_lt_iff (by decide) (natAbs_year_lt hd) (natAbs_year_lt he),
    paddedDigits_lt_iff (by decide) d.month_lt e.month_lt,
    paddedDigits_lt_iff (by decide) d.day_lt e.day_lt,
    (paddedDigits_injective 4).eq_iff, (paddedDigits_injective 2).eq_iff, hless, hsame,
    Date.lt_iff]
  simp only [lt_self_iff_false, false_or, true_and]

theorem length_dateText (h : d.HasShortYear) : (dateText d).length = 10 := by
  rw [dateText, yearText_of_hasShortYear h, List.length_append, List.length_cons,
    List.length_append, List.length_cons, length_paddedDigits (by decide) (natAbs_year_lt h),
    length_paddedDigits (by decide) d.month_lt, length_paddedDigits (by decide) d.day_lt]

end Names

/-- Two backups have one name if and only if they are of one day. The names of backups within
four-digit years are in the order of their days. -/
theorem backupFileName_order :
    (∀ d e : Date, backupFileName d = backupFileName e ↔ d = e) ∧
    ∀ d e : Date, d.HasShortYear → e.HasShortYear →
      (backupFileName d < backupFileName e ↔ d < e) := by
  constructor
  · intro d e
    exact ofList_framed_inj.trans dateText_inj
  · intro d e hd he
    have hlength : (dateText d).length = (dateText e).length :=
      (length_dateText hd).trans (length_dateText he).symm
    exact (ofList_framed_lt_iff hlength).trans (dateText_lt_iff hd he)

/-- The last day before the years of four digits, and the first one within them. -/
def Date.beforeFourDigits : Date where
  year := 999
  month := 12
  day := 31
  year_mem := by decide
  day_mem := by decide

def Date.fourDigits : Date where
  year := 1000
  month := 1
  day := 1
  year_mem := by decide
  day_mem := by decide

theorem backupFileName_order_fourDigits :
    backupFileName .beforeFourDigits = "showhook-backup-0999-12-31.json" ∧
      backupFileName .beforeFourDigits < backupFileName .fourDigits := by
  have hyear : Date.beforeFourDigits.HasShortYear := ⟨by decide, by decide⟩
  have hyear' : Date.fourDigits.HasShortYear := ⟨by decide, by decide⟩
  have hbefore : Date.beforeFourDigits < Date.fourDigits := .inl (by decide)
  obtain ⟨-, horder⟩ := backupFileName_order
  exact ⟨rfl, (horder _ _ hyear hyear').2 hbefore⟩

end ShowScout
