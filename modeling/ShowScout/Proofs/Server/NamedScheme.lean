import ShowScout.Proofs.Server.Pages
import ShowScout.Proofs.Web.AsciiName

/-!
# Addresses that name a scheme

Only `http` and `https` are known as schemes. An address that names another one is taken for an
address without a scheme: a scheme is put in front of it, and what it named as its scheme is read as
the name of a host.
-/

namespace ShowScout

open Web

variable {kind : AddressKind} {address : String} {scheme rest : List Char} {c : Char}

/-! ## Names of schemes -/

/-- The characters of names of schemes. -/
def isSchemeChar (c : Char) : Bool :=
  c.isAlphanum || ['+', '-', '.'].contains c

/-- How schemes are named, in letters of either size. -/
structure IsSchemeName (scheme : List Char) : Prop where
  chars : ∀ c ∈ scheme, isSchemeChar c
  letter : ∃ c ∈ scheme.head?, c.isAlpha

/-- The scheme is one with which pages are read. -/
def IsKnownScheme (scheme : List Char) : Prop :=
  ∃ known : Scheme, scheme.map Char.toLower = known.name

/-- The address is invalid, or its base has the scheme that it names. -/
def KeepsScheme (kind : AddressKind) (address : String) (scheme : List Char) : Prop :=
  (∃ reason, canonicalBase kind address =
      .error (.invalidAddress (Text.trim address) reason)) ∨
    ∃ base, canonicalBase kind address = .ok base ∧
      scheme.map Char.toLower ++ "://".toList <+: base.toList

/-- The base of the address belongs to a host with the name of the scheme. -/
def NamesHost (kind : AddressKind) (address : String) (scheme : List Char) : Prop :=
  ∃ path, (∀ c ∈ path.head?, c = '/') ∧ canonicalBase kind address =
    .ok (.ofList (kind.defaultScheme.toList ++ "://".toList ++ scheme.map Char.toLower ++ path))

theorem isSchemeChar_means (h : isSchemeChar c) :
    isNameChar c ∧ c ≠ ':' ∧ isSchemeChar c.toLower := by
  have hascii : Unicode.isAscii c := by
    simp only [isSchemeChar, Bool.or_eq_true, List.contains_eq_mem, decide_eq_true_eq,
      List.mem_cons, List.not_mem_nil, or_false] at h
    obtain h | rfl | rfl | rfl := h
    · exact isAscii_of_isAlphanum h
    all_goals decide
  have hall : ∀ n < 128, isSchemeChar (Char.ofNat n) → isNameChar (Char.ofNat n) ∧
      Char.ofNat n ≠ ':' ∧ isSchemeChar (Char.ofNat n).toLower := by
    decide
  exact forall_isBasic (p := fun c => isSchemeChar c →
    isNameChar c ∧ c ≠ ':' ∧ isSchemeChar c.toLower) hall hascii h

theorem isSchemeName_name (known : Scheme) : IsSchemeName known.name where
  chars := by cases known <;> exact List.all_eq_true.1 rfl
  letter := by cases known <;> exact ⟨'h', rfl, rfl⟩

namespace IsSchemeName

theorem isPlainName (h : IsSchemeName scheme) : IsPlainName scheme where
  chars c hc := (isSchemeChar_means (h.chars c hc)).1
  letter := h.letter

theorem toLower (h : IsSchemeName scheme) : IsSchemeName (scheme.map Char.toLower) where
  chars := by
    intro c hc
    obtain ⟨d, hd, rfl⟩ := List.mem_map.1 hc
    exact (isSchemeChar_means (h.chars d hd)).2.2
  letter := by
    obtain ⟨c, hc, hletter⟩ := h.letter
    refine ⟨c.toLower, ?_, (isAlpha_means hletter).1⟩
    rw [List.head?_map]
    exact Option.mem_map_of_mem _ hc

theorem ne_nil (h : IsSchemeName scheme) : scheme ≠ [] := by
  rintro rfl
  obtain ⟨c, ⟨⟩, -⟩ := h.letter

theorem bne_colon (h : IsSchemeName scheme) : ∀ c ∈ scheme, (c != ':') = true :=
  fun c hc => bne_iff_ne.2 (isSchemeChar_means (h.chars c hc)).2.1

theorem authorityChars (h : IsSchemeName scheme) : ∀ c ∈ scheme ++ [':'], isAuthorityChar c := by
  intro c hc
  obtain hc | hc := List.mem_append.1 hc
  · simp [isAuthorityChar, h.isPlainName.chars c hc]
  · obtain rfl := List.mem_singleton.1 hc
    decide

theorem visible (h : IsSchemeName scheme) : ∀ c ∈ scheme ++ "://".toList, isGraphic c := by
  intro c hc
  obtain hc | hc := List.mem_append.1 hc
  · exact (isAuthorityChar_means (h.authorityChars c (List.mem_append_left _ hc))).2.2
  · exact List.all_eq_true.1 (rfl : "://".toList.all isGraphic = true) c hc

/-- A text names one scheme, which stands before its first colon. -/
theorem takeWhile_colon (h : IsSchemeName scheme) (rest : List Char) :
    (scheme ++ "://".toList ++ rest).takeWhile (· != ':') = scheme := by
  rw [List.append_assoc, List.takeWhile_append_of_pos h.bne_colon]
  exact List.append_nil scheme

theorem eq_of_isPrefix {other : List Char} (h : IsSchemeName scheme) (hother : IsSchemeName other)
    (hstart : scheme ++ "://".toList <+: other ++ "://".toList ++ rest) : scheme = other := by
  obtain ⟨behind, hbehind⟩ := hstart
  rw [← h.takeWhile_colon behind, hbehind, hother.takeWhile_colon]

end IsSchemeName

/-! ## Schemes that are known -/

theorem hasScheme_iff (h : IsSchemeName scheme) (rest : List Char) :
    hasScheme (scheme ++ "://".toList ++ rest) ↔ IsKnownScheme scheme := by
  have hlower : (scheme ++ "://".toList ++ rest).map Char.toLower =
      scheme.map Char.toLower ++ "://".toList ++ rest.map Char.toLower := by
    rw [List.map_append, List.map_append]
    rfl
  have hstart (known : Scheme) :
      known.name ++ "://".toList <+: (scheme ++ "://".toList ++ rest).map Char.toLower ↔
        scheme.map Char.toLower = known.name := by
    rw [hlower]
    refine ⟨fun hp => ((isSchemeName_name known).eq_of_isPrefix h.toLower hp).symm, fun heq => ?_⟩
    rw [heq]
    exact List.prefix_append _ _
  rw [hasScheme]
  simp only [Bool.or_eq_true, List.isPrefixOf_iff_prefix]
  constructor
  · rintro (hp | hp)
    · exact ⟨.http, (hstart .http).1 hp⟩
    · exact ⟨.https, (hstart .https).1 hp⟩
  · rintro ⟨known | known, heq⟩
    · exact .inl ((hstart .http).2 heq)
    · exact .inr ((hstart .https).2 heq)

theorem readScheme_known {known : Scheme} (h : IsSchemeName scheme)
    (heq : scheme.map Char.toLower = known.name) (rest : List Char) :
    readScheme (scheme ++ "://".toList ++ rest) = .ok (known, '/' :: '/' :: rest) := by
  have hdrop : (scheme ++ "://".toList ++ rest).dropWhile (· != ':') = "://".toList ++ rest := by
    rw [List.append_assoc, List.dropWhile_append_of_pos h.bne_colon]
    rfl
  rw [readScheme, h.takeWhile_colon, hdrop, heq]
  cases known <;> rfl

/-! ## Schemes that are not known -/

theorem exists_defaultScheme (kind : AddressKind) :
    ∃ known : Scheme, kind.defaultScheme.toList = known.name := by
  cases kind
  · exact ⟨.http, rfl⟩
  · exact ⟨.https, rfl⟩

/-- Behind a scheme, another one is read as a host with an empty port. -/
theorem exists_parse_behindScheme (h : IsSchemeName scheme) (known : Scheme) (rest : List Char) :
    ∃ page : Host → Url,
      (∀ host, (page host).scheme = known ∧ (page host).host = host ∧ (page host).port = none) ∧
      Url.parse (known.name ++ "://".toList ++ (scheme ++ "://".toList ++ rest)) =
        (Host.parse scheme).map page := by
  have hgraphic : ∀ c ∈ known.name ++ "://".toList ++ (scheme ++ "://".toList),
      isGraphic c := by
    intro c hc
    obtain hc | hc := List.mem_append.1 hc
    · exact (isSchemeName_name known).visible c hc
    · exact h.visible c hc
  have hne : known.name ++ "://".toList ++ (scheme ++ "://".toList) ≠ [] := by simp
  obtain ⟨rest', hcleaned⟩ := exists_cleaned_append hgraphic hne rest
  -- the colon behind the second scheme ends the host, and the slashes end the authority
  have hparts : known.name ++ "://".toList ++ (scheme ++ "://".toList) ++ rest' =
      known.name ++ "://".toList ++ (scheme ++ [':'] ++ '/' :: '/' :: rest') := by
    simp
  have hport : splitPort false (scheme ++ [':']) = (scheme, some []) := by
    rw [splitPort_name h.isPlainName.chars]
    simp [splitPort]
  have hslash : ∀ c ∈ ('/' :: '/' :: rest').head?, endsAuthority c := by
    rintro c ⟨rfl⟩
    rfl
  rw [List.append_assoc _ _ rest, hparts] at hcleaned
  refine ⟨fun host => Url.withTail
      { scheme := known, host, port := none, segments := [], query := none, fragment := none }
      ('/' :: '/' :: rest'), fun _ => ⟨rfl, rfl, rfl⟩, ?_⟩
  rw [Url.parse_of_cleaned hcleaned h.authorityChars hslash hport h.ne_nil]
  cases Host.parse scheme <;> rfl

theorem not_keepsScheme_of_namesHost (hname : IsSchemeName scheme)
    (hknown : ¬ IsKnownScheme scheme) (h : NamesHost kind address scheme) :
    ¬ KeepsScheme kind address scheme := by
  obtain ⟨path, -, hbase⟩ := h
  obtain ⟨known, hdefault⟩ := exists_defaultScheme kind
  rintro (⟨reason, herror⟩ | ⟨base, hok, hstart⟩)
  · rw [hbase] at herror
    cases herror
  · obtain rfl := Except.ok.inj (hbase.symm.trans hok)
    simp only [String.toList_ofList, hdefault, List.append_assoc _ _ path] at hstart
    exact hknown ⟨known, hname.toLower.eq_of_isPrefix (isSchemeName_name known) hstart⟩

/-! ## Addresses that name a scheme -/

section

variable (hname : IsSchemeName scheme)
  (htyped : Text.trimChars address.toList = scheme ++ "://".toList ++ rest)
include hname htyped

theorem typed_ne_nil : Text.trimChars address.toList ≠ [] := by
  rw [htyped, List.append_assoc]
  exact List.append_ne_nil_of_left_ne_nil hname.ne_nil _

/-- A scheme that is known is kept. -/
theorem keepsScheme_of_isKnownScheme (hknown : IsKnownScheme scheme) :
    KeepsScheme kind address scheme := by
  have hhas := (hasScheme_iff hname rest).2 hknown
  obtain ⟨known, heq⟩ := hknown
  have hne : scheme ++ "://".toList ≠ [] := by simp
  obtain ⟨rest', hcleaned⟩ := exists_cleaned_append hname.visible hne rest
  -- what is removed from the address stands behind the scheme
  rw [KeepsScheme, canonicalBase_of_typed kind (typed_ne_nil hname htyped), htyped, withScheme,
    if_pos hhas]
  cases hparse : Url.parse (scheme ++ "://".toList ++ rest) with
  | error e => exact .inl ⟨e.message, rfl⟩
  | ok url =>
    have hscheme := Url.scheme_of_parse hparse (hcleaned ▸ readScheme_known hname heq rest')
    have hstart : url.scheme.name ++ "://".toList <+: baseText url := by
      rw [baseText, originText_eq, List.append_assoc]
      exact List.prefix_append _ _
    refine .inr ⟨_, rfl, ?_⟩
    rw [heq, ← hscheme]
    simpa only [String.toList_ofList] using hstart

/-- A scheme that is not known is read as a host. -/
theorem canonicalBase_of_not_isKnownScheme (hknown : ¬ IsKnownScheme scheme) :
    (∀ e, Host.parse scheme = .error e → canonicalBase kind address =
      .error (.invalidAddress (Text.trim address) e.message)) ∧
    (∀ host, Host.parse scheme = .ok host → NamesHost kind address scheme) := by
  obtain ⟨known, hdefault⟩ := exists_defaultScheme kind
  obtain ⟨page, hpage, hparse⟩ := exists_parse_behindScheme hname known rest
  have hhas : hasScheme (scheme ++ "://".toList ++ rest) = false :=
    Bool.eq_false_iff.2 fun h => hknown ((hasScheme_iff hname rest).1 h)
  have hbase := canonicalBase_of_typed kind (typed_ne_nil hname htyped)
  rw [htyped, withScheme, hhas, if_neg Bool.false_ne_true, hdefault] at hbase
  refine ⟨fun e he => ?_, fun host hhost => ?_⟩
  · rw [hbase, hparse, he]
    rfl
  · obtain rfl := Host.eq_of_parse hhost hname.isPlainName
    rw [hhost, Except.map] at hparse
    obtain ⟨hscheme, hnamed, hport⟩ := hpage (.domain (scheme.map Char.toLower))
    refine ⟨_, head?_basePath_eq_slash (Url.isRead_of_parse hparse), ?_⟩
    rw [hbase, hparse]
    dsimp only
    rw [baseText, originText_eq, hscheme, hnamed, hport, portText, List.append_nil, ← basePath,
      hdefault, Host.toText]

end

/-- The scheme that an address names is kept if it is known. If it is not known, it is read as a
host: what cannot be a host makes the address invalid, and otherwise the base belongs to the host of
that name. A name of one label can always be a host. -/
theorem canonicalBase_namedScheme (kind : AddressKind) (hname : IsSchemeName scheme)
    (htyped : Text.trimChars address.toList = scheme ++ "://".toList ++ rest) :
    (KeepsScheme kind address scheme ↔
      IsKnownScheme scheme ∨ ∃ e, Host.parse scheme = .error e) ∧
    (¬ IsKnownScheme scheme →
      (∀ e, Host.parse scheme = .error e → canonicalBase kind address =
        .error (.invalidAddress (Text.trim address) e.message)) ∧
      (∀ host, Host.parse scheme = .ok host → NamesHost kind address scheme)) ∧
    ('.' ∉ scheme → ¬ asciiMark <+: scheme.map Char.toLower →
      ∃ host, Host.parse scheme = .ok host) := by
  refine ⟨⟨fun hkeeps => ?_, ?_⟩, canonicalBase_of_not_isKnownScheme hname htyped,
    fun hdot hmark => ?_⟩
  · by_contra hnone
    obtain ⟨hknown, herror⟩ := not_or.1 hnone
    cases hhost : Host.parse scheme with
    | error e => exact herror ⟨e, hhost⟩
    | ok host =>
      have hnames : NamesHost kind address scheme :=
        (canonicalBase_of_not_isKnownScheme hname htyped hknown).2 host hhost
      exact not_keepsScheme_of_namesHost hname hknown hnames hkeeps
  · rintro (hknown | ⟨e, he⟩)
    · exact keepsScheme_of_isKnownScheme hname htyped hknown
    · by_cases hknown : IsKnownScheme scheme
      · exact keepsScheme_of_isKnownScheme hname htyped hknown
      · exact .inl ⟨_, (canonicalBase_of_not_isKnownScheme hname htyped hknown).1 e he⟩
  · have hlabel : IsPlainLabel scheme :=
      { hname.isPlainName with dotless := hdot, unmarked := hmark }
    exact ⟨_, hlabel.parse⟩

/-- A letter that is missing from the scheme makes a host of it. -/
theorem canonicalBase_namedScheme_htps :
    ¬ KeepsScheme .external "htps://tv.example.com" "htps".toList ∧
      NamesHost .external "htps://tv.example.com" "htps".toList := by
  have hname : IsSchemeName "htps".toList :=
    { chars := List.all_eq_true.1 rfl, letter := ⟨'h', rfl, rfl⟩ }
  have htyped : Text.trimChars "htps://tv.example.com".toList =
      "htps".toList ++ "://".toList ++ "tv.example.com".toList := rfl
  have hknown : ¬ IsKnownScheme "htps".toList := by
    rintro ⟨known | known, h⟩ <;> cases h
  obtain ⟨hkeeps, hhost, hlabel⟩ := canonicalBase_namedScheme .external hname htyped
  obtain ⟨host, hparse⟩ := hlabel (by decide) (by decide)
  refine ⟨fun h => ?_, (hhost hknown).2 host hparse⟩
  obtain h | ⟨e, he⟩ := hkeeps.1 h
  · exact hknown h
  · rw [hparse] at he
    cases he

/-- A file server is not found at its address, but at the host with the name of its scheme. -/
theorem not_keepsScheme_ftp :
    IsSchemeName "ftp".toList ∧
      Text.trimChars "ftp://nas".toList = "ftp".toList ++ "://".toList ++ "nas".toList ∧
      ¬ KeepsScheme .internal "ftp://nas" "ftp".toList := by
  have hbase : canonicalBase .internal "ftp://nas" = .ok "http://ftp//nas" := rfl
  refine ⟨{ chars := List.all_eq_true.1 rfl, letter := ⟨'f', rfl, rfl⟩ }, rfl, ?_⟩
  rintro (⟨reason, herror⟩ | ⟨base, hok, hstart⟩)
  · rw [hbase] at herror
    cases herror
  · obtain rfl := Except.ok.inj (hbase.symm.trans hok)
    revert hstart
    decide

end ShowScout
