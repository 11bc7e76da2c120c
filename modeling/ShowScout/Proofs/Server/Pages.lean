import ShowScout.Proofs.Server.Address

/-!
# Pages below a base

A base is a text to which the path of a page can be appended: nothing in it starts a query or a
fragment, names a user or a port that need not be named, and it does not end with a slash. So the
page is read with the scheme, the host and the port of the base, and with its path behind that of
the base.
-/

namespace ShowScout

open Web

variable {u : Url} {segments : List (List Char)}

/-! ## Appended paths -/

theorem Web.Url.withTail_pathText (hplaces : ∀ s ∈ segments, IsPlace s) (hne : segments ≠ []) :
    u.withTail (pathText segments) = { u with segments, query := none, fragment := none } := by
  have hfragment := ne_of_mem_pathText hplaces (d := '#') (by decide)
  have hquery := ne_of_mem_pathText hplaces (d := '?') (by decide)
  have hnone {d : Char} (h : ∀ c ∈ pathText segments, (c != d) = true) :
      after? d (pathText segments) = none := by
    rw [after?, List.dropWhile_eq_nil_iff.2 h]
  rw [Url.withTail, List.takeWhile_eq_self_iff.2 hfragment, List.takeWhile_eq_self_iff.2 hquery,
    pathSegments_pathText hplaces hne, hnone hfragment, hnone hquery]
  rfl

/-- Behind an origin, parts that have been read are read as a path of these parts. -/
theorem Web.Url.IsRead.parse_append_pathText (h : u.IsRead) (hplaces : ∀ s ∈ segments, IsPlace s)
    (hne : segments ≠ []) :
    Url.parse (u.originText ++ pathText segments) =
      (Host.parse u.host.toText).map fun host =>
        { u with host, segments, query := none, fragment := none } := by
  have hhead : ∀ c ∈ (pathText segments).head?, endsAuthority c := by
    obtain ⟨s, later, rfl⟩ := List.exists_cons_of_ne_nil hne
    rintro c ⟨rfl⟩
    rfl
  have hlast : ∀ c ∈ (pathText segments).getLast?, ¬ c ≤ ' ' := fun c hc =>
    (isGraphic_means (mem_pathText hplaces (List.mem_of_getLast? hc)).1).2.1
  rw [h.parse_originText_append hhead hlast, filter_pathText hplaces]
  exact congrArg (Except.map · _) (funext fun host => Url.withTail_pathText hplaces hne)

/-- The parts of the page on which a server looks for a new show. -/
def newShowSegments (u : Url) : List (List Char) :=
  baseSegments u ++ ["addShows".toList, "newShow".toList, []]

theorem isPlace_of_mem_newShowSegments (h : u.IsRead) : ∀ s ∈ newShowSegments u, IsPlace s := by
  intro s hs
  obtain hs | hs := List.mem_append.1 hs
  · exact isPlace_of_mem_baseSegments h s hs
  · simp only [List.mem_cons, List.not_mem_nil, or_false] at hs
    obtain rfl | rfl | rfl := hs
    · exact ⟨List.all_eq_true.1 rfl, rfl, rfl⟩
    · exact ⟨List.all_eq_true.1 rfl, rfl, rfl⟩
    · exact isPlace_nil

theorem pathText_newShowSegments (h : u.IsRead) :
    pathText (newShowSegments u) = basePath u ++ "/addShows/newShow/".toList := by
  rw [newShowSegments, pathText_append, ← basePath_eq h]
  rfl

/-! ## Texts of bases -/

/-- What stands between the scheme of an address and its path. -/
def authorityText (address : List Char) : List Char :=
  ((address.dropWhile (· != ':')).drop "://".length).takeWhile (!endsAuthority ·)

/-- A text that can be extended by a path. -/
structure IsBaseText (base : List Char) : Prop where
  scheme : "http://".toList <+: base ∨ "https://".toList <+: base
  chars : ∀ c ∈ base, c ≠ '?' ∧ c ≠ '#' ∧ Text.isBlank c = false
  last : base.getLast? ≠ some '/'
  user : '@' ∉ authorityText base
  port : ∀ scheme : Scheme, scheme.name ++ "://".toList <+: base →
    ∀ digits, (splitPort false (authorityText base)).2 = some digits →
      digitsValue? 10 digits ≠ some scheme.defaultPort

theorem authorityText_baseText (h : u.IsRead) :
    authorityText (baseText u) = u.host.toText ++ portText u.port := by
  have hscheme (scheme : Scheme) (s : List Char) :
      ((scheme.name ++ "://".toList ++ s).dropWhile (· != ':')).drop "://".length = s := by
    cases scheme <;> rfl
  have hinside : ∀ c ∈ u.host.toText ++ portText u.port, (!endsAuthority c) = true := fun c hc => by
    rw [(isAuthorityChar_means (isAuthorityChar_authority h.host u.port c hc)).1]
    rfl
  rw [authorityText, baseText, originText_eq, List.append_assoc, hscheme, ← basePath,
    List.takeWhile_append_of_pos hinside]
  have hhead := head?_basePath h
  cases hpath : basePath u with
  | nil => simp
  | cons c path =>
    rw [hpath] at hhead
    simp [hhead c rfl]

theorem exists_of_baseText (u : Url) (rest : List Char) :
    ∃ behind, u.originText ++ rest = u.scheme.name ++ "://".toList ++ behind := by
  rw [originText_eq, List.append_assoc]
  exact ⟨_, rfl⟩

/-- No character that ends an authority has a meaning in a base, but for slashes. -/
theorem not_endsAuthority_of_mem_baseText (h : u.IsRead) :
    ∀ c ∈ baseText u, ¬ (endsAuthority c ∧ isEncodedInPath c) := by
  have hscheme : ∀ scheme, ∀ c ∈ Scheme.name scheme ++ "://".toList,
      isEncodedInPath c = false := by
    intro scheme c hc
    have hall : (scheme.name ++ "://".toList).all (!isEncodedInPath ·) := by
      cases scheme <;> rfl
    simpa using List.all_eq_true.1 hall c hc
  rintro c hc ⟨hends, hcode⟩
  rw [baseText, originText_eq, ← basePath, basePath_eq h] at hc
  obtain hc | hc := List.mem_append.1 hc
  · obtain hc | hc := List.mem_append.1 hc
    · rw [hscheme _ c hc] at hcode
      cases hcode
    · rw [(isAuthorityChar_means (isAuthorityChar_authority h.host u.port c hc)).1] at hends
      cases hends
  · rw [(mem_pathText (isPlace_of_mem_baseSegments h) hc).2] at hcode
    cases hcode

theorem getLast?_baseText (h : u.IsRead) : (baseText u).getLast? ≠ some '/' := by
  intro hlast
  rw [baseText, List.getLast?_append, Option.or_eq_some_iff] at hlast
  obtain hpath | ⟨-, horigin⟩ := hlast
  · have hslash : ('/' == '/') = false := Text.getLast?_dropEnd (p := (· == '/')) hpath
    cases hslash
  · have hne := List.append_ne_nil_of_left_ne_nil h.host.ne_nil (portText u.port)
    rw [originText_eq, List.getLast?_append_of_ne_nil _ hne] at horigin
    have hchar := isAuthorityChar_authority h.host u.port '/' (List.mem_of_getLast? horigin)
    have hends := (isAuthorityChar_means hchar).1
    cases hends

theorem scheme_eq_of_isPrefix {scheme : Scheme} {rest : List Char}
    (h : scheme.name ++ "://".toList <+: u.originText ++ rest) : scheme = u.scheme := by
  obtain ⟨behind, hbehind⟩ := exists_of_baseText u rest
  obtain ⟨tail, htail⟩ := h
  rw [hbehind] at htail
  cases scheme <;> cases hu : u.scheme
  case http.https | https.http =>
    rw [hu] at htail
    cases htail
  all_goals rfl

theorem isBaseText_baseText (h : u.IsRead) : IsBaseText (baseText u) where
  scheme := by
    obtain ⟨behind, hbehind⟩ := exists_of_baseText u (basePath u)
    have hprefix : u.scheme.name ++ "://".toList <+: baseText u := ⟨behind, hbehind.symm⟩
    cases hscheme : u.scheme <;> rw [hscheme] at hprefix
    · exact .inl hprefix
    · exact .inr hprefix
  chars := by
    intro c hc
    have hends := not_endsAuthority_of_mem_baseText h c hc
    refine ⟨?_, ?_, (isGraphic_means (isGraphic_of_mem_baseText h c hc)).2.2⟩
    · rintro rfl
      exact hends (by decide)
    · rintro rfl
      exact hends (by decide)
  last := getLast?_baseText h
  user := by
    rw [authorityText_baseText h]
    intro hmem
    exact (isAuthorityChar_means (isAuthorityChar_authority h.host u.port '@' hmem)).2.1 rfl
  port := by
    intro scheme hscheme digits hdigits hvalue
    obtain rfl := scheme_eq_of_isPrefix hscheme
    rw [authorityText_baseText h, splitPort_authority h.host] at hdigits
    obtain ⟨n, hn, rfl⟩ := Option.map_eq_some_iff.1 hdigits
    rw [digitsValue?_decimal] at hvalue
    exact (h.port n hn).2 (Option.some.inj hvalue)

/-! ## Pages -/

/-- A base can be extended by a path, and the page on which the server looks for a new show is read
as a page of the server of the base, without a query or a fragment, and with its path behind that of
the base. Of hosts it is known that the text of the one that was read is read as that host. -/
theorem canonicalBase_extends {kind : AddressKind} {address base : String}
    (h : canonicalBase kind address = .ok base) :
    IsBaseText base.toList ∧
    ((∀ url, Url.parse (withScheme kind (Text.trimChars address.toList)) = .ok url →
        Host.parse url.host.toText = .ok url.host) →
      ∃ url path, Url.parse base.toList = .ok url ∧ base.toList = url.originText ++ path ∧
        ∀ title other,
          let request := AddShowRequest.ofAddress title { base, kind := other }
          request.url = base ++ "/addShows/newShow/" ∧
          ∃ page, Url.parse request.url.toList = .ok page ∧
            page.scheme = url.scheme ∧ page.host = url.host ∧ page.port = url.port ∧
            page.query = none ∧ page.fragment = none ∧
            page.path = path ++ "/addShows/newShow/".toList) := by
  obtain ⟨-, url, hparse, rfl⟩ := canonicalBase_eq_ok_iff.1 h
  have hread := Url.isRead_of_parse hparse
  rw [String.toList_ofList]
  refine ⟨isBaseText_baseText hread, fun hhost => ?_⟩
  have hread' := hhost url hparse
  refine ⟨_, basePath url, parse_baseText hread hread', rfl, fun title other => ?_⟩
  -- the request takes slashes off the end of a base, which has none there
  have hkeep : Text.dropEnd (· == '/') (baseText url) = baseText url :=
    List.rdropWhile_eq_self_iff.2 fun hne hslash => getLast?_baseText hread (by
      rw [List.getLast?_eq_some_getLast hne, eq_of_beq hslash])
  have hurl : (AddShowRequest.ofAddress title { base := .ofList (baseText url), kind := other }).url =
      .ofList (baseText url ++ "/addShows/newShow/".toList) := by
    rw [AddShowRequest.url, AddShowRequest.ofAddress, String.toList_ofList, hkeep]
  have hpage : baseText url ++ "/addShows/newShow/".toList =
      url.originText ++ pathText (newShowSegments url) := by
    rw [pathText_newShowSegments hread, ← List.append_assoc]
    rfl
  have hne : newShowSegments url ≠ [] :=
    List.append_ne_nil_of_right_ne_nil _ (List.cons_ne_nil _ _)
  intro request
  refine ⟨?_, { url with segments := newShowSegments url, query := none, fragment := none },
    ?_, rfl, rfl, rfl, rfl, rfl, ?_⟩
  · rw [hurl, String.ofList_append, String.ofList_toList]
  · rw [hurl, String.toList_ofList, hpage,
      hread.parse_append_pathText (isPlace_of_mem_newShowSegments hread) hne, hread']
    rfl
  · exact pathText_newShowSegments hread

/-- A server that is found at a path. -/
def Web.Url.tvServer : Url where
  scheme := .https
  host := .domain "tv.example.com".toList
  port := none
  segments := ["sickchill".toList]
  query := none
  fragment := none

/-- A base that is typed with more than it needs is extended by the path of the page alone. -/
theorem canonicalBase_extends_tvServer :
    canonicalBase .external " User@TV.example.com:443/sickchill//?tab=1#top" =
        .ok "https://tv.example.com/sickchill" ∧
      ∃ page, Url.parse "https://tv.example.com/sickchill/addShows/newShow/".toList = .ok page ∧
        page.host = .domain "tv.example.com".toList ∧ page.port = none ∧
        page.path = "/sickchill/addShows/newShow/".toList := by
  have hbase : canonicalBase .external " User@TV.example.com:443/sickchill//?tab=1#top" =
      .ok "https://tv.example.com/sickchill" := rfl
  have htyped : Url.parse (withScheme .external
      (Text.trimChars " User@TV.example.com:443/sickchill//?tab=1#top".toList)) =
      .ok { Url.tvServer with
        segments := ["sickchill".toList, [], []]
        query := some "tab=1".toList
        fragment := some "top".toList } := rfl
  have hserver : Url.parse "https://tv.example.com/sickchill".toList = .ok .tvServer := rfl
  obtain ⟨-, hpages⟩ := canonicalBase_extends hbase
  obtain ⟨url, path, hurl, hpath, hpage⟩ := hpages fun url h => by
    obtain rfl := Except.ok.inj (htyped.symm.trans h)
    rfl
  obtain rfl := Except.ok.inj (hserver.symm.trans hurl)
  have hbehind : "https://tv.example.com/sickchill".toList =
      Url.tvServer.originText ++ "/sickchill".toList := rfl
  obtain rfl := List.append_cancel_left (hbehind.symm.trans hpath)
  obtain ⟨-, page, hparse, -, hhost, hport, -, -, htext⟩ := hpage "The Bear" .external
  exact ⟨hbase, page, hparse, hhost, hport, htext⟩

end ShowScout
