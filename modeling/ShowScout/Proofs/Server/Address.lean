import ShowScout.Proofs.Web.Url
import ShowScout.Server.Address

/-!
# Bases that are typed again

A base is its own base, for either kind of server: it has a scheme, nothing around it is trimmed,
and its host, port and path are read as themselves.
-/

namespace ShowScout

open Web

variable {u : Url} {c : Char} {s : List Char}

/-! ## Reading an address -/

theorem canonicalBase_eq_ok_iff {kind : AddressKind} {address base : String} :
    canonicalBase kind address = .ok base ↔
      Text.trimChars address.toList ≠ [] ∧
        ∃ url, Url.parse (withScheme kind (Text.trimChars address.toList)) = .ok url ∧
          .ofList (baseText url) = base := by
  unfold canonicalBase
  cases Text.trimChars address.toList with
  | nil => simp
  | cons c typed =>
    cases h : Url.parse (withScheme kind (c :: typed)) <;> simp [h]

theorem canonicalBase_of_typed (kind : AddressKind) {address : String}
    (h : Text.trimChars address.toList ≠ []) :
    canonicalBase kind address =
      match Url.parse (withScheme kind (Text.trimChars address.toList)) with
      | .ok url => .ok (.ofList (baseText url))
      | .error e => .error (.invalidAddress (Text.trim address) e.message) := by
  have hempty : (Text.trimChars address.toList).isEmpty = false := by simpa using h
  unfold canonicalBase
  dsimp only
  rw [hempty, if_neg Bool.false_ne_true]
  cases Url.parse (withScheme kind (Text.trimChars address.toList)) <;> rfl

theorem withScheme_originText (kind : AddressKind) (u : Url) (rest : List Char) :
    withScheme kind (u.originText ++ rest) = u.originText ++ rest := by
  have hscheme (scheme : Scheme) (s : List Char) :
      hasScheme (scheme.name ++ ("://".toList ++ s)) = true := by
    cases scheme <;> rfl
  rw [withScheme, if_pos]
  rw [originText_eq, List.append_assoc, List.append_assoc]
  exact hscheme u.scheme _

/-! ## Paths of bases -/

/-- The path of an address without the slashes at its end. -/
def basePath (u : Url) : List Char := Text.dropEnd (· == '/') u.path

/-- The parts of such a path. -/
def baseSegments (u : Url) : List (List Char) := Text.dropEnd List.isEmpty u.segments

theorem isPlace_of_mem_baseSegments (h : u.IsRead) : ∀ s ∈ baseSegments u, IsPlace s :=
  isPlace_of_mem_dropEnd h.segments

theorem basePath_eq (h : u.IsRead) : basePath u = pathText (baseSegments u) :=
  dropEnd_pathText fun s hs => (h.segments s hs).slash_not_mem

theorem head?_basePath_eq_slash (h : u.IsRead) : ∀ c ∈ (basePath u).head?, c = '/' := by
  rw [basePath_eq h]
  cases baseSegments u with
  | nil => nofun
  | cons s segments =>
    rintro c ⟨rfl⟩
    rfl

theorem head?_basePath (h : u.IsRead) : ∀ c ∈ (basePath u).head?, endsAuthority c := by
  intro c hc
  rw [head?_basePath_eq_slash h c hc]
  rfl

theorem isGraphic_of_mem_baseText (h : u.IsRead) : ∀ c ∈ baseText u, isGraphic c := by
  intro c hc
  obtain hc | hc := List.mem_append.1 hc
  · exact h.originText c hc
  · rw [← basePath, basePath_eq h] at hc
    exact (mem_pathText (isPlace_of_mem_baseSegments h) hc).1

/-! ## Reading a base -/

/-- A base is read with the same scheme, host and port, and with the same path but for slashes at
its end. -/
theorem parse_baseText (h : u.IsRead) (hhost : Host.parse u.host.toText = .ok u.host) :
    Url.parse (baseText u) = .ok (u.withTail (basePath u)) := by
  have hplaces := isPlace_of_mem_baseSegments h
  have hlast : ∀ c ∈ (basePath u).getLast?, ¬ c ≤ ' ' := by
    rw [basePath_eq h]
    exact fun c hc => (isGraphic_means (mem_pathText hplaces (List.mem_of_getLast? hc)).1).2.1
  have hparse := h.parse_originText_append (head?_basePath h) hlast
  rwa [hhost, basePath_eq h, filter_pathText hplaces, ← basePath_eq h] at hparse

theorem baseText_withTail (h : u.IsRead) : baseText (u.withTail (basePath u)) = baseText u := by
  have hplaces := isPlace_of_mem_baseSegments h
  have hsegments : (u.withTail (basePath u)).segments = pathSegments (basePath u) := by
    rw [Url.withTail]
    dsimp only
    rw [basePath_eq h, List.takeWhile_eq_self_iff.2 (ne_of_mem_pathText hplaces (by decide)),
      List.takeWhile_eq_self_iff.2 (ne_of_mem_pathText hplaces (by decide))]
  have hpath : basePath (u.withTail (basePath u)) = basePath u := by
    rw [basePath, Url.path, hsegments]
    exact dropEnd_pathText_pathSegments h.segments
  exact congrArg (u.originText ++ ·) hpath

theorem trimChars_baseText (h : u.IsRead) : Text.trimChars (baseText u) = baseText u :=
  Text.dropEnd_dropWhile_eq_self
    (fun c hc => (isGraphic_means (isGraphic_of_mem_baseText h c (List.mem_of_mem_head? hc))).2.2)
    fun c hc => (isGraphic_means (isGraphic_of_mem_baseText h c (List.mem_of_getLast? hc))).2.2

/--
A base is its own base, whatever kind of server it is said to belong to. Of hosts it is known that
the text of the one that was read is read as that host.
-/
theorem canonicalBase_idempotent {kind : AddressKind} {address base : String}
    (hhost : ∀ url, Url.parse (withScheme kind (Text.trimChars address.toList)) = .ok url →
      Host.parse url.host.toText = .ok url.host)
    (h : canonicalBase kind address = .ok base) (other : AddressKind) :
    canonicalBase other base = .ok base := by
  obtain ⟨-, url, hparse, rfl⟩ := canonicalBase_eq_ok_iff.1 h
  have hread := Url.isRead_of_parse hparse
  refine canonicalBase_eq_ok_iff.2 ⟨?_, _, ?_, congrArg _ (baseText_withTail hread)⟩
  · rw [String.toList_ofList, trimChars_baseText hread]
    exact List.append_ne_nil_of_left_ne_nil url.originText_ne_nil _
  · rw [String.toList_ofList, trimChars_baseText hread, baseText, withScheme_originText]
    exact parse_baseText hread (hhost url hparse)

/-- A typed address loses its slashes once, and keeps its scheme as an external one. -/
theorem canonicalBase_idempotent_ipv6 :
    canonicalBase .external "http://[2001:db8::1]:8081/tv" =
      .ok "http://[2001:db8::1]:8081/tv" := by
  refine @canonicalBase_idempotent .internal "[2001:DB8::1]:8081/x/../tv//" _ ?_ rfl .external
  intro url h
  have hparse : Url.parse (withScheme .internal (Text.trimChars
      "[2001:DB8::1]:8081/x/../tv//".toList)) =
      .ok {
        scheme := .http
        host := .ipv6 [0x2001, 0xdb8, 0, 0, 0, 0, 0, 1]
        port := some 8081
        segments := ["tv".toList, [], []]
        query := none
        fragment := none } := rfl
  obtain rfl := Except.ok.inj (hparse.symm.trans h)
  rfl

end ShowScout
