import ShowScout.Proofs.Web.Url

/-!
# Names of one ASCII label

A name without dots whose characters are ASCII and allowed in names, and which starts with a letter,
is looked up in small letters. Nothing else is made of it, unless it starts as if a label of another
script was written in ASCII letters.
-/

namespace ShowScout.Web

open Unicode

variable {c : Char} {s : List Char}

/-! ## Bytes that are read as a text -/

theorem percentDecode_eq_bytes (h : '%' ∉ s) : percentDecode s = bytes s := by
  induction s with
  | nil => rfl
  | cons c s ih =>
    have hc : c ≠ '%' := fun hc => h (hc ▸ List.mem_cons_self)
    rw [percentDecode_of_ne hc, ih fun hs => h (List.mem_cons_of_mem c hs), bytes_cons]

/-- The bytes in which a text is encoded are read as that text. -/
theorem textOfBytes?_bytes (s : List Char) : textOfBytes? (bytes s) = some s := by
  have hbytes : (⟨(bytes s).toArray⟩ : ByteArray) = (String.ofList s).toByteArray :=
    ByteArray.ext List.data_toByteArray.symm
  have hread : String.fromUTF8? (String.ofList s).toByteArray = some (String.ofList s) := by
    simp only [String.fromUTF8?, dif_pos (String.ofList s).isValidUTF8]
    rfl
  rw [textOfBytes?, hbytes, hread, Option.map_some, String.toList_ofList]

/-! ## Small letters -/

theorem isAscii_of_isNameChar (h : isNameChar c) : isAscii c := by
  simp only [isNameChar, Bool.and_eq_true] at h
  exact h.1

/-- What a character of a name becomes is one as well, and not a dot unless it is one itself. -/
theorem isNameChar_toLower (h : isNameChar c) :
    isNameChar c.toLower ∧ (c ≠ '.' → c.toLower ≠ '.') := by
  have hall : ∀ n < 128, isNameChar (Char.ofNat n) →
      isNameChar (Char.ofNat n).toLower ∧ (Char.ofNat n ≠ '.' → (Char.ofNat n).toLower ≠ '.') := by
    decide
  exact forall_isBasic (p := fun c => isNameChar c →
    isNameChar c.toLower ∧ (c ≠ '.' → c.toLower ≠ '.')) hall (isAscii_of_isNameChar h) h

theorem isForbidden_of_isNameChar (h : isNameChar c) : isForbidden c = false := by
  simp only [isNameChar, Bool.and_eq_true, Bool.not_eq_true'] at h
  exact h.2

theorem isNameChar_of_mem_map_toLower (h : ∀ c ∈ s, isNameChar c) :
    ∀ c ∈ s.map Char.toLower, isNameChar c := by
  intro c hc
  obtain ⟨d, hd, rfl⟩ := List.mem_map.1 hc
  exact (isNameChar_toLower (h d hd)).1

theorem mapM_hostForm? (h : ∀ c ∈ s, isAscii c) :
    s.mapM hostForm? = some (s.map fun c => [c.toLower]) := by
  induction s with
  | nil => rfl
  | cons c s ih =>
    have hc : hostForm? c = some [c.toLower] := if_pos (h c List.mem_cons_self)
    rw [List.mapM_cons, hc, ih fun d hd => h d (List.mem_cons_of_mem c hd)]
    rfl

/-- A name in ASCII is prepared by making its letters small. -/
theorem prepared?_ascii (h : ∀ c ∈ s, isNameChar c) : prepared? s = some (s.map Char.toLower) := by
  have hlower := isNameChar_of_mem_map_toLower h
  have hcompose : compose (s.map Char.toLower) = s.map Char.toLower :=
    if_pos (List.all_eq_true.2 fun c hc => isAscii_of_isNameChar (hlower c hc))
  have hallowed : (s.map Char.toLower).any isForbidden = false := by
    rw [List.any_eq_false]
    intro c hc
    rw [isForbidden_of_isNameChar (hlower c hc)]
    exact Bool.false_ne_true
  have hflat : (s.map fun c => [c.toLower]).flatten = s.map Char.toLower := by
    rw [← List.flatMap_def, ← List.map_eq_flatMap]
  rw [prepared?, mapM_hostForm? fun c hc => isAscii_of_isNameChar (h c hc)]
  dsimp only [Option.bind_eq_bind, Option.bind_some]
  rw [hflat, hcompose, hallowed]
  rfl

/-! ## Labels -/

theorem hasOnlyVisibleJoiners_ascii (h : ∀ c ∈ s, isAscii c) (before : List Char) :
    hasOnlyVisibleJoiners before s := by
  induction s generalizing before with
  | nil => rfl
  | cons c s ih =>
    have hc : c.toNat < 0x80 := of_decide_eq_true (h c List.mem_cons_self)
    have hjoiner : c.toNat ≠ 0x200C ∧ c.toNat ≠ 0x200D := by omega
    rw [hasOnlyVisibleJoiners, if_neg hjoiner.1, if_neg hjoiner.2]
    exact ih (fun d hd => h d (List.mem_cons_of_mem c hd)) (c :: before)

theorem Label.isSound_ascii (h : ∀ c ∈ s, isAscii c) : isSound { shown := s, ascii := s } := by
  have hjoiners := hasOnlyVisibleJoiners_ascii h []
  have hbasic : s.all Punycode.isBasic := List.all_eq_true.2 h
  cases s with
  | nil => rfl
  | cons c s => simp only [isSound, h c List.mem_cons_self, hjoiners, hbasic, Bool.true_or,
      Bool.and_self]

theorem mixesDirections_ascii (h : ∀ c ∈ s, isAscii c) : mixesDirections s = false := by
  rw [mixesDirections, List.any_eq_false]
  intro c hc
  have hlow : c.toNat < 0x80 := of_decide_eq_true (h c hc)
  have hdirected : ¬ c.toNat ≥ 0x590 := by omega
  simp [hdirected]

/-- A label that is written in ASCII is looked up as it is written. -/
theorem Label.ascii_of_ofPart? {part : List Char} {l : Label} (h : ofPart? part = some l)
    (hpart : ∀ c ∈ part, isAscii c) : l.ascii = part := by
  rw [ofPart?] at h
  split at h
  · simp only [Option.bind_eq_bind, Option.bind_eq_some_iff] at h
    obtain ⟨-, -, shown, -, -, -, h⟩ := h
    obtain rfl := Option.some.inj h
    rfl
  · have hbasic : part.all Punycode.isBasic = true := List.all_eq_true.2 hpart
    rw [if_pos hbasic] at h
    obtain rfl := Option.some.inj h
    rfl

theorem map_ascii_of_mapM_ofPart? {parts : List (List Char)} {labels : List Label}
    (h : parts.mapM Label.ofPart? = some labels) (hparts : ∀ part ∈ parts, ∀ c ∈ part, isAscii c) :
    labels.map Label.ascii = parts := by
  induction parts generalizing labels with
  | nil =>
    obtain rfl := Option.some.inj h
    rfl
  | cons part parts ih =>
    simp only [List.mapM_cons, Option.bind_eq_bind, Option.bind_eq_some_iff] at h
    obtain ⟨l, hl, rest, hrest, hlabels⟩ := h
    obtain rfl := Option.some.inj hlabels
    rw [List.map_cons, Label.ascii_of_ofPart? hl (hparts part List.mem_cons_self),
      ih hrest fun later hlater => hparts later (List.mem_cons_of_mem part hlater)]

/-! ## Names -/

/-- A name in ASCII is looked up in small letters, if it is looked up at all. -/
theorem eq_of_asciiDomain? {name : List Char} (h : asciiDomain? s = some name)
    (hs : ∀ c ∈ s, isNameChar c) : name = s.map Char.toLower := by
  rw [asciiDomain?, prepared?_ascii hs] at h
  simp only [Option.bind_eq_bind, Option.bind_some, Option.bind_eq_some_iff] at h
  obtain ⟨labels, hlabels, -, -, -, -, hname⟩ := h
  have hparts : ∀ part ∈ (s.map Char.toLower).splitOn '.', ∀ c ∈ part, isAscii c :=
    fun part hpart c hc => isAscii_of_isNameChar
      (isNameChar_of_mem_map_toLower hs c ((sublist_of_mem_splitOnP hpart).subset hc))
  obtain rfl := Option.some.inj hname
  rw [map_ascii_of_mapM_ofPart? hlabels hparts, List.intercalate_splitOn]

/-- A name in ASCII letters, digits and signs, which starts with a letter. -/
structure IsPlainName (s : List Char) : Prop where
  chars : ∀ c ∈ s, isNameChar c
  letter : ∃ c ∈ s.head?, c.isAlpha

theorem IsPlainName.exists_cons (h : IsPlainName s) : ∃ c rest, s = c :: rest ∧ c.isAlpha := by
  obtain ⟨c, hc, hletter⟩ := h.letter
  obtain ⟨rest, hrest⟩ := List.head?_eq_some_iff.1 hc
  exact ⟨c, rest, hrest, hletter⟩

/-- A name of one label, which is not marked as standing for a label of another script. -/
structure IsPlainLabel (s : List Char) : Prop extends IsPlainName s where
  dotless : '.' ∉ s
  unmarked : ¬ asciiMark <+: s.map Char.toLower

theorem IsPlainLabel.dotless_toLower (h : IsPlainLabel s) :
    ∀ c ∈ s.map Char.toLower, (c == '.') = false := by
  intro c hc
  obtain ⟨d, hd, rfl⟩ := List.mem_map.1 hc
  have hne : d ≠ '.' := fun hdot => h.dotless (hdot ▸ hd)
  exact beq_false_of_ne ((isNameChar_toLower (h.chars d hd)).2 hne)

theorem IsPlainLabel.asciiDomain? (h : IsPlainLabel s) :
    asciiDomain? s = some (s.map Char.toLower) := by
  have hascii : ∀ c ∈ s.map Char.toLower, isAscii c := fun c hc =>
    isAscii_of_isNameChar (isNameChar_of_mem_map_toLower h.chars c hc)
  have hbasic : (s.map Char.toLower).all Punycode.isBasic = true := List.all_eq_true.2 hascii
  have hmark : ¬ asciiMark.isPrefixOf (s.map Char.toLower) := by
    rw [List.isPrefixOf_iff_prefix]
    exact h.unmarked
  have hlabels : ((s.map Char.toLower).splitOn '.').mapM Label.ofPart? =
      some [{ shown := s.map Char.toLower, ascii := s.map Char.toLower }] := by
    rw [List.splitOn, List.splitOnP_eq_singleton h.dotless_toLower, List.mapM_cons, Label.ofPart?,
      if_neg hmark, if_pos hbasic]
    rfl
  rw [Web.asciiDomain?, prepared?_ascii h.chars]
  dsimp only [Option.bind_eq_bind, Option.bind_some]
  rw [hlabels]
  simp [Label.isSound_ascii hascii, mixesDirections_ascii hascii]

/-! ## Letters and numbers -/

theorem isAscii_of_isAlphanum (h : c.isAlphanum) : isAscii c := by
  have hbelow {high : Char} (hle : c.val ≤ high.val) (hhigh : high.toNat < 0x80) : isAscii c :=
    decide_eq_true (Nat.lt_of_le_of_lt (UInt32.le_iff_toNat_le.1 hle) hhigh)
  obtain hletter | hdigit := Bool.or_eq_true_iff.1 h
  · obtain hupper | hlower := Bool.or_eq_true_iff.1 hletter
    · exact hbelow (of_decide_eq_true hupper).2 (by decide)
    · exact hbelow (of_decide_eq_true (Bool.and_eq_true_iff.1 hlower).2) (by decide)
  · exact hbelow (of_decide_eq_true (Bool.and_eq_true_iff.1 hdigit).2) (by decide)

theorem isAscii_of_isAlpha (h : c.isAlpha) : isAscii c :=
  isAscii_of_isAlphanum (Bool.or_eq_true_iff.2 (.inl h))

/-- A letter is no digit of a decimal number. -/
theorem isAlpha_means (h : c.isAlpha) :
    c.toLower.isAlpha ∧ c ≠ '.' ∧ c.isDigit = false ∧ ∀ d ∈ hexDigit? c, ¬ d < 10 := by
  have hall : ∀ n < 128, (Char.ofNat n).isAlpha → (Char.ofNat n).toLower.isAlpha ∧
      Char.ofNat n ≠ '.' ∧ (Char.ofNat n).isDigit = false ∧
      ∀ d ∈ hexDigit? (Char.ofNat n), ¬ d < 10 := by
    decide
  exact forall_isBasic (p := fun c => c.isAlpha → c.toLower.isAlpha ∧ c ≠ '.' ∧
    c.isDigit = false ∧ ∀ d ∈ hexDigit? c, ¬ d < 10) hall (isAscii_of_isAlpha h) h

/-- What starts with a letter is no number. -/
theorem ipNumber?_of_isAlpha (h : c.isAlpha) (s : List Char) : ipNumber? (c :: s) = none := by
  obtain ⟨-, -, hdecimal, hdigit⟩ := isAlpha_means h
  have hvalue : digitsValue? 10 (c :: s) = none := by
    rw [digitsValue?, List.foldlM_cons]
    cases hc : hexDigit? c with
    | none => rfl
    | some d => simp [hdigit d hc, guard]
  have hzero : c ≠ '0' := by
    rintro rfl
    cases hdecimal
  simp [ipNumber?, hzero, hvalue]

theorem dottedParts_cons (h : c ≠ '.') (s : List Char) :
    ∃ label later, dottedParts (c :: s) = (c :: label) :: later := by
  obtain ⟨label, later, hsplit⟩ := List.exists_cons_of_ne_nil (List.splitOnP_ne_nil (· == '.') s)
  have hparts : (c :: s).splitOn '.' = (c :: label) :: later := by
    rw [List.splitOn, List.splitOnP_cons_eq_if_modifyHead, if_neg (by simpa using h), hsplit]
    rfl
  rw [dottedParts, hparts]
  -- only an empty part at the end is left out, and that is not the first one
  split
  · rename_i hlong
    obtain ⟨second, rest, rfl⟩ : ∃ second rest, later = second :: rest :=
      List.exists_cons_of_ne_nil (by rintro rfl; simp at hlong)
    exact ⟨label, _, rfl⟩
  · exact ⟨label, later, rfl⟩

/-- A name of one part that starts with a letter does not end in a number. -/
theorem endsInNumber_of_isAlpha (h : c.isAlpha) (hs : ∀ d ∈ c :: s, (d == '.') = false) :
    endsInNumber (c :: s) = false := by
  obtain ⟨-, -, hdecimal, -⟩ := isAlpha_means h
  have hparts : dottedParts (c :: s) = [c :: s] := by
    rw [dottedParts, List.splitOn, List.splitOnP_eq_singleton hs]
    rfl
  rw [endsInNumber, hparts]
  simp [hdecimal, ipNumber?_of_isAlpha h]

theorem ipv4?_of_isAlpha (h : c.isAlpha) (s : List Char) : ipv4? (c :: s) = none := by
  obtain ⟨label, later, hparts⟩ := dottedParts_cons (isAlpha_means h).2.1 s
  rw [ipv4?, hparts, List.mapM_cons, ipNumber?_of_isAlpha h]
  rfl

/-! ## Hosts -/

namespace Host

/-- A name that starts with a letter stands for no numeric address. -/
theorem ofName_of_isAlpha (h : c.isAlpha) (s : List Char) :
    ofName (c :: s) =
      if endsInNumber (c :: s) then .error .invalidIpv4 else .ok (.domain (c :: s)) := by
  rw [ofName, ipv4?_of_isAlpha h]
  rfl

/-- A name that starts with a letter is no numeric address in brackets. -/
theorem parse_plain (h : IsPlainName s) :
    parse s =
      match asciiDomain? s with
      | some name => ofName name
      | none => .error .invalidDomain := by
  have hpercent : '%' ∉ s := fun hmem => absurd (h.chars '%' hmem) (by decide)
  rw [parse, percentDecode_eq_bytes hpercent, textOfBytes?_bytes]
  · rfl
  · rintro rest rfl
    obtain ⟨c, ⟨rfl⟩, hletter⟩ := h.letter
    exact absurd hletter (by decide)

/-- A name in ASCII that starts with a letter is read as itself in small letters or not at all. -/
theorem eq_of_parse {host : Host} (h : parse s = .ok host) (hs : IsPlainName s) :
    host = .domain (s.map Char.toLower) := by
  rw [parse_plain hs] at h
  split at h
  · rename_i name hname
    obtain rfl := eq_of_asciiDomain? hname hs.chars
    obtain ⟨c, rest, rfl, hletter⟩ := hs.exists_cons
    rw [List.map_cons, ofName_of_isAlpha (isAlpha_means hletter).1] at h
    split at h
    · cases h
    · exact (Except.ok.inj h).symm
  · cases h

end Host

/-- A label is read as the name of a host, in small letters. -/
theorem IsPlainLabel.parse (h : IsPlainLabel s) :
    Host.parse s = .ok (.domain (s.map Char.toLower)) := by
  obtain ⟨c, rest, rfl, hletter⟩ := h.exists_cons
  have hlower := (isAlpha_means hletter).1
  rw [Host.parse_plain h.toIsPlainName, h.asciiDomain?, List.map_cons]
  dsimp only
  rw [Host.ofName_of_isAlpha hlower, endsInNumber_of_isAlpha hlower h.dotless_toLower]
  rfl

end ShowScout.Web
