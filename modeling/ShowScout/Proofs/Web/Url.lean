import ShowScout.Proofs.Text.Trim
import ShowScout.Proofs.Web.Host
import ShowScout.Proofs.Web.Path

/-!
# Addresses that are read again

An address that has been read is shown as a text that starts with its scheme, host and port. Such a
text is read as the same scheme and port, and what comes behind it says the path, the query and the
fragment.
-/

namespace ShowScout.Web

variable {c : Char} {s rest : List Char} {u : Url}

/-! ## Authorities -/

/-- The characters of authorities without a user. -/
def isAuthorityChar (c : Char) : Bool :=
  isNameChar c || [':', '[', ']'].contains c

/-- What is to be known of ASCII characters can be seen from all of them. -/
theorem forall_isBasic {p : Char → Prop} (h : ∀ n < 128, p (Char.ofNat n))
    (hc : Punycode.isBasic c) : p c := by
  have hofNat := h c.toNat (of_decide_eq_true hc)
  rwa [Char.ofNat_toNat] at hofNat

theorem isBasic_of_isAuthorityChar (h : isAuthorityChar c) : Punycode.isBasic c := by
  simp only [isAuthorityChar, isNameChar, Bool.or_eq_true, Bool.and_eq_true, List.contains_eq_mem,
    decide_eq_true_eq, List.mem_cons, List.not_mem_nil, or_false] at h
  obtain ⟨h, -⟩ | rfl | rfl | rfl := h
  · exact h
  all_goals decide

/-- Whether a character is visible and ASCII. -/
def isGraphic (c : Char) : Bool := 33 ≤ c.toNat && c.toNat < 127

theorem isAuthorityChar_means (h : isAuthorityChar c) :
    endsAuthority c = false ∧ c ≠ '@' ∧ isGraphic c := by
  have hall : ∀ n < 128, isAuthorityChar (Char.ofNat n) →
      endsAuthority (Char.ofNat n) = false ∧ Char.ofNat n ≠ '@' ∧ isGraphic (Char.ofNat n) := by
    decide
  exact forall_isBasic (p := fun c => isAuthorityChar c →
    endsAuthority c = false ∧ c ≠ '@' ∧ isGraphic c) hall (isBasic_of_isAuthorityChar h) h

theorem isGraphic_means (h : isGraphic c) :
    isIgnored c = false ∧ ¬ c ≤ ' ' ∧ Text.isBlank c = false := by
  simp only [isGraphic, Bool.and_eq_true, decide_eq_true_eq] at h
  refine ⟨?_, fun hle => ?_, ?_⟩
  · simp only [isIgnored, Bool.or_eq_false_iff, beq_eq_false_iff_ne]
    refine ⟨⟨?_, ?_⟩, ?_⟩ <;> (rintro rfl; revert h; decide)
  · exact absurd (Nat.le_trans h.1 (Char.le_def.1 hle)) (by decide)
  · simp only [Text.isBlank, Bool.or_eq_false_iff, Bool.and_eq_false_iff, decide_eq_false_iff_not,
      beq_eq_false_iff_ne]
    omega

theorem isGraphic_of_isSettled (h : isSettled c) : isGraphic c := by
  simp only [isSettled, isEncodedInPath, isEncodedAnywhere, Bool.and_eq_true, Bool.not_eq_true',
    Bool.or_eq_false_iff, decide_eq_false_iff_not] at h
  have hlow : ¬ c.toNat ≤ 32 := fun hle => h.2.1.1.1 (Char.le_def.2 hle)
  have hhigh : ¬ 127 ≤ c.toNat := fun hle => h.2.1.1.2 (Char.le_def.2 hle)
  simp only [isGraphic, Bool.and_eq_true, decide_eq_true_eq]
  omega

/-- A path that has been read is visible and needs no encoding. -/
theorem mem_pathText {segments : List (List Char)} (h : ∀ s ∈ segments, IsPlace s)
    (hc : c ∈ pathText segments) : isGraphic c ∧ isEncodedInPath c = false := by
  obtain ⟨segment, hsegment, hc⟩ := List.mem_flatMap.1 hc
  obtain rfl | hc := List.mem_cons.1 hc
  · decide
  · have hsettled := (h segment hsegment).chars c hc
    refine ⟨isGraphic_of_isSettled hsettled, ?_⟩
    simp only [isSettled, Bool.and_eq_true, Bool.not_eq_true'] at hsettled
    exact hsettled.2

/-- A character that is to be encoded does not stand in a path that has been read. -/
theorem ne_of_mem_pathText {segments : List (List Char)} {d : Char}
    (h : ∀ s ∈ segments, IsPlace s) (hd : isEncodedInPath d) :
    ∀ c ∈ pathText segments, (c != d) = true := by
  intro c hc
  refine bne_iff_ne.2 ?_
  rintro rfl
  rw [(mem_pathText h hc).2] at hd
  cases hd

theorem filter_pathText {segments : List (List Char)} (h : ∀ s ∈ segments, IsPlace s) :
    (pathText segments).filter (!isIgnored ·) = pathText segments :=
  List.filter_eq_self.2 fun c hc => by rw [(isGraphic_means (mem_pathText h hc).1).1]; rfl

/-! ## Ends of texts -/

theorem cleaned_eq (hfirst : ∀ c ∈ s.head?, ¬ c ≤ ' ') (hlast : ∀ c ∈ s.getLast?, ¬ c ≤ ' ') :
    cleaned s = s.filter (!isIgnored ·) := by
  have htrim : Text.dropEnd (fun c => decide (c ≤ ' ')) (s.dropWhile (· ≤ ' ')) = s :=
    Text.dropEnd_dropWhile_eq_self (fun c hc => decide_eq_false (hfirst c hc))
      fun c hc => decide_eq_false (hlast c hc)
  exact congrArg (List.filter (!isIgnored ·)) htrim

/-- Nothing is removed from a visible beginning. -/
theorem exists_cleaned_append {front : List Char} (h : ∀ c ∈ front, isGraphic c)
    (hne : front ≠ []) (rest : List Char) :
    ∃ rest', cleaned (front ++ rest) = front ++ rest' := by
  have hkeep : front.filter (!isIgnored ·) = front :=
    List.filter_eq_self.2 fun c hc => by rw [(isGraphic_means (h c hc)).1]; rfl
  have hfirst : (front ++ rest).dropWhile (· ≤ ' ') = front ++ rest := by
    obtain ⟨first, more, rfl⟩ := List.exists_cons_of_ne_nil hne
    have hvisible := (isGraphic_means (h first List.mem_cons_self)).2.1
    simp [hvisible]
  have hlast : front.reverse.dropWhile (· ≤ ' ') = front.reverse := by
    obtain ⟨last, more, hmore⟩ := List.exists_cons_of_ne_nil (List.reverse_ne_nil_iff.2 hne)
    have hmem : last ∈ front := List.mem_reverse.1 (hmore ▸ List.mem_cons_self)
    have hvisible := (isGraphic_means (h last hmem)).2.1
    simp [hmore, hvisible]
  rw [cleaned, hfirst, List.reverse_append, List.dropWhile_append, hlast]
  split
  · exact ⟨[], by rw [List.reverse_reverse, hkeep, List.append_nil]⟩
  · exact ⟨_, by rw [List.reverse_append, List.reverse_reverse, List.filter_append, hkeep]⟩

/-! ## Hosts and ports -/

/-- How a port is written behind a host. -/
def portText : Option Nat → List Char
  | some n => ':' :: decimal n
  | none => []

theorem originText_eq (u : Url) :
    u.originText = u.scheme.name ++ "://".toList ++ (u.host.toText ++ portText u.port) := by
  rw [Url.originText, List.append_assoc _ u.host.toText]
  cases u.port <;> rfl

theorem Url.originText_ne_nil (u : Url) : u.originText ≠ [] := by
  rw [originText_eq]
  cases u.scheme <;> exact List.cons_ne_nil _ _

theorem splitPort_name (h : ∀ c ∈ s, isNameChar c) (rest : List Char) :
    splitPort false (s ++ rest) = ((s ++ (splitPort false rest).1), (splitPort false rest).2) := by
  have hspecial : isNameChar ':' = false ∧ isNameChar '[' = false ∧ isNameChar ']' = false := by
    decide
  induction s with
  | nil => rfl
  | cons c s ih =>
    have hc := h c List.mem_cons_self
    have hcolon : c ≠ ':' := by
      rintro rfl
      simp [hspecial] at hc
    have hopen : c ≠ '[' := by
      rintro rfl
      simp [hspecial] at hc
    have hclose : c ≠ ']' := by
      rintro rfl
      simp [hspecial] at hc
    simp [splitPort, hcolon, hopen, hclose, ih fun d hd => h d (List.mem_cons_of_mem c hd)]

theorem splitPort_brackets (h : ∀ c ∈ s, c = ':' ∨ isNameChar c) (rest : List Char) :
    splitPort true (s ++ ']' :: rest) =
      (s ++ ']' :: (splitPort false rest).1, (splitPort false rest).2) := by
  induction s with
  | nil => simp [splitPort]
  | cons c s ih =>
    have hopen : c ≠ '[' := by
      rintro rfl
      exact absurd (h '[' List.mem_cons_self) (by decide)
    have hclose : c ≠ ']' := by
      rintro rfl
      exact absurd (h ']' List.mem_cons_self) (by decide)
    simp [splitPort, hopen, hclose, ih fun d hd => h d (List.mem_cons_of_mem c hd)]

/-- A port is found behind the host. -/
theorem splitPort_authority (h : IsHostText s) (port : Option Nat) :
    splitPort false (s ++ portText port) = (s, port.map decimal) := by
  have hport : splitPort false (portText port) = ([], port.map decimal) := by
    cases port <;> simp [portText, splitPort]
  obtain ⟨-, hs⟩ | ⟨inner, rfl, hinner⟩ := h
  · simp [splitPort_name hs, hport]
  · simp [splitPort, splitPort_brackets hinner, hport]

theorem isAuthorityChar_authority (h : IsHostText s) (port : Option Nat) :
    ∀ c ∈ s ++ portText port, isAuthorityChar c := by
  have hname {c : Char} (hc : isNameChar c) : isAuthorityChar c := by simp [isAuthorityChar, hc]
  intro c hc
  obtain hc | hc := List.mem_append.1 hc
  · obtain ⟨-, hs⟩ | ⟨inner, rfl, hinner⟩ := h
    · exact hname (hs c hc)
    · simp only [List.mem_cons, List.mem_append, List.not_mem_nil, or_false] at hc
      obtain rfl | hc | rfl := hc
      · decide
      · obtain rfl | hc := hinner c hc
        · decide
        · exact hname hc
      · decide
  · cases port with
    | none => cases hc
    | some n =>
      obtain rfl | hc := List.mem_cons.1 hc
      · decide
      · exact hname (isNameChar_of_mem_toDigits (by decide) (by decide) hc)

theorem readPort_decimal (u : Url)
    (h : ∀ n, u.port = some n → n < 65536 ∧ n ≠ u.scheme.defaultPort) :
    readPort u.scheme (u.port.map decimal) = .ok u.port := by
  cases hport : u.port with
  | none => rfl
  | some n =>
    obtain ⟨hlt, hne⟩ := h n hport
    obtain ⟨digit, digits, hdigits⟩ :=
      List.exists_cons_of_ne_nil (Nat.toDigits_ne_nil (n := n) (b := 10))
    have hvalue := digitsValue?_decimal n
    rw [decimal, hdigits] at hvalue
    simp [decimal, hdigits, readPort, hvalue, hne, Nat.not_le.2 hlt]

theorem readPort_bound {scheme : Scheme} {digits : Option (List Char)} {port : Option Nat} {n : Nat}
    (h : readPort scheme digits = .ok port) (hn : port = some n) :
    n < 65536 ∧ n ≠ scheme.defaultPort := by
  unfold readPort at h
  split at h
  · cases h
    cases hn
  · cases h
    cases hn
  · split at h
    · split at h
      · cases h
      · split at h
        · cases h
          cases hn
        · rename_i m _ hlt hne
          cases h
          cases hn
          exact ⟨Nat.lt_of_not_ge hlt, hne⟩
    · cases h

/-! ## Reading an origin -/

/-- The address with the path, the query and the fragment that a text behind an authority says. -/
def Url.withTail (u : Url) (rest : List Char) : Url :=
  let beforeFragment := rest.takeWhile (· != '#')
  { u with
    segments := pathSegments (beforeFragment.takeWhile (· != '?'))
    query := (after? '?' beforeFragment).map (percentEncode isEncodedInQuery)
    fragment := (after? '#' rest).map (percentEncode isEncodedInFragment) }

theorem readScheme_name (scheme : Scheme) (rest : List Char) :
    readScheme (scheme.name ++ "://".toList ++ rest) = .ok (scheme, '/' :: '/' :: rest) := by
  cases scheme <;> rfl

/-- What is known of an address that has been read. -/
structure Url.IsRead (u : Url) : Prop where
  host : IsHostText u.host.toText
  port : ∀ n, u.port = some n → n < 65536 ∧ n ≠ u.scheme.defaultPort
  segments : ∀ s ∈ u.segments, IsPlace s

theorem exists_of_bind_eq_ok {ε α β : Type} {x : Except ε α} {f : α → Except ε β} {b : β}
    (h : (x >>= f) = .ok b) : ∃ a, x = .ok a ∧ f a = .ok b := by
  cases x with
  | error e => cases h
  | ok a => exact ⟨a, rfl, h⟩

/-- Where the parts of an address that has been read come from. -/
theorem Url.exists_of_parse (h : Url.parse s = .ok u) :
    ∃ rest host port path, readScheme (cleaned s) = .ok (u.scheme, rest) ∧
      Host.parse host = .ok u.host ∧ readPort u.scheme port = .ok u.port ∧
      u.segments = pathSegments path := by
  obtain ⟨⟨scheme, rest⟩, hscheme, h⟩ := exists_of_bind_eq_ok h
  dsimp only at h
  split at h
  · cases h
  · obtain ⟨host, hhost, h⟩ := exists_of_bind_eq_ok h
    obtain ⟨port, hport, h⟩ := exists_of_bind_eq_ok h
    cases h
    exact ⟨rest, _, _, _, hscheme, hhost, hport, rfl⟩

theorem Url.isRead_of_parse (h : Url.parse s = .ok u) : u.IsRead := by
  obtain ⟨-, host, port, path, -, hhost, hport, hsegments⟩ := Url.exists_of_parse h
  exact
    { host := Host.isHostText_of_parse hhost
      port := fun n hn => readPort_bound hport hn
      segments := fun s hs => isPlace_of_mem_pathSegments s (hsegments ▸ hs) }

theorem Url.scheme_of_parse {known : Scheme} (h : Url.parse s = .ok u)
    (hscheme : readScheme (cleaned s) = .ok (known, rest)) : u.scheme = known := by
  obtain ⟨_, -, -, -, hread, -⟩ := Url.exists_of_parse h
  exact (Prod.mk.inj (Except.ok.inj (hread.symm.trans hscheme))).1

theorem Url.IsRead.originText (h : u.IsRead) : ∀ c ∈ u.originText, isGraphic c := by
  intro c hc
  rw [originText_eq] at hc
  obtain hc | hc := List.mem_append.1 hc
  · have hscheme : ∀ scheme, ∀ c ∈ Scheme.name scheme ++ "://".toList, isGraphic c := by
      rintro (_ | _) <;> exact List.all_eq_true.1 rfl
    exact hscheme _ c hc
  · exact (isAuthorityChar_means (isAuthorityChar_authority h.host u.port c hc)).2.2

theorem isIgnored_of_endsAuthority (h : endsAuthority c) : isIgnored c = false := by
  simp only [endsAuthority, isSlash, Bool.or_eq_true, beq_iff_eq] at h
  obtain ((rfl | rfl) | rfl) | rfl := h
  all_goals decide

theorem withoutUser_eq_self (h : ∀ c ∈ s, c ≠ '@') : withoutUser s = s := by
  have hall : s.reverse.takeWhile (· != '@') = s.reverse :=
    List.takeWhile_eq_self_iff.2 fun c hc => bne_iff_ne.2 (h c (List.mem_reverse.1 hc))
  rw [withoutUser, hall, List.reverse_reverse]

theorem Url.cleaned_originText_append (h : u.IsRead) (hlast : ∀ c ∈ rest.getLast?, ¬ c ≤ ' ') :
    cleaned (u.originText ++ rest) = u.originText ++ rest.filter (!isIgnored ·) := by
  have hvisible {c : Char} (hc : c ∈ u.originText) : ¬ c ≤ ' ' :=
    (isGraphic_means (h.originText c hc)).2.1
  have hkeep : u.originText.filter (!isIgnored ·) = u.originText :=
    List.filter_eq_self.2 fun c hc => by rw [(isGraphic_means (h.originText c hc)).1]; rfl
  rw [cleaned_eq, List.filter_append, hkeep]
  · intro c hc
    rw [List.head?_append_of_ne_nil _ u.originText_ne_nil] at hc
    exact hvisible (List.mem_of_mem_head? hc)
  · intro c hc
    rw [List.getLast?_append, Option.mem_def, Option.or_eq_some_iff] at hc
    obtain hc | ⟨-, hc⟩ := hc
    · exact hlast c hc
    · exact hvisible (List.mem_of_getLast? hc)

/-- Behind a scheme, the authority is read up to the first character that ends it. -/
theorem Url.parse_of_cleaned {scheme : Scheme} {authority tail host : List Char}
    {port : Option (List Char)}
    (hcleaned : cleaned s = scheme.name ++ "://".toList ++ (authority ++ tail))
    (hauthority : ∀ c ∈ authority, isAuthorityChar c)
    (htail : ∀ c ∈ tail.head?, endsAuthority c)
    (hport : splitPort false authority = (host, port)) (hhost : host ≠ []) :
    Url.parse s =
      (Host.parse host).bind fun host => (readPort scheme port).map fun port =>
        Url.withTail { scheme, host, port, segments := [], query := none, fragment := none }
          tail := by
  have hchars {c : Char} (hc : c ∈ authority) := isAuthorityChar_means (hauthority c hc)
  have hinside : ∀ c ∈ authority, (!endsAuthority c) = true :=
    fun c hc => by rw [(hchars hc).1]; rfl
  have htake : (authority ++ tail).takeWhile (!endsAuthority ·) = authority := by
    rw [List.takeWhile_append_of_pos hinside]
    cases tail with
    | nil => simp
    | cons c tail => simp [htail c rfl]
  have hbehind : (authority ++ tail).dropWhile (!endsAuthority ·) = tail := by
    rw [List.dropWhile_append_of_pos hinside]
    cases tail with
    | nil => rfl
    | cons c tail => simp [htail c rfl]
  have hslashes : ('/' :: '/' :: (authority ++ tail)).dropWhile isSlash = authority ++ tail := by
    cases authority with
    | nil =>
      cases hport
      exact absurd rfl hhost
    | cons first more =>
      have hends := (hchars (List.mem_cons_self (a := first) (l := more))).1
      simp only [endsAuthority, Bool.or_eq_false_iff] at hends
      have hdrop (s : List Char) : ('/' :: '/' :: s).dropWhile isSlash = s.dropWhile isSlash := rfl
      simp [hdrop, hends.1.1]
  have huser := withoutUser_eq_self fun c hc => (hchars hc).2.1
  unfold Url.parse
  rw [hcleaned, readScheme_name]
  simp only [bind, Except.bind, hslashes, htake, hbehind, huser, hport, List.isEmpty_iff, hhost]
  cases Host.parse host with
  | error e => rfl
  | ok host => cases readPort scheme port <;> rfl

/-- A text that starts with an origin is read as an address with that scheme and port. -/
theorem Url.IsRead.parse_originText_append (h : u.IsRead)
    (hrest : ∀ c ∈ rest.head?, endsAuthority c) (hlast : ∀ c ∈ rest.getLast?, ¬ c ≤ ' ') :
    Url.parse (u.originText ++ rest) =
      (Host.parse u.host.toText).map fun host =>
        ({ u with host } : Url).withTail (rest.filter (!isIgnored ·)) := by
  have htail : ∀ c ∈ (rest.filter (!isIgnored ·)).head?, endsAuthority c := by
    cases rest with
    | nil => nofun
    | cons c rest =>
      have hc : endsAuthority c := hrest c rfl
      simpa [isIgnored_of_endsAuthority hc] using hc
  have hcleaned := Url.cleaned_originText_append h hlast
  rw [originText_eq, List.append_assoc _ _ (rest.filter _)] at hcleaned
  rw [originText_eq, Url.parse_of_cleaned hcleaned (isAuthorityChar_authority h.host u.port) htail
    (splitPort_authority h.host u.port) h.host.ne_nil, readPort_decimal u h.port]
  cases Host.parse u.host.toText <;> rfl

end ShowScout.Web
