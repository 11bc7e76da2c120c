import ShowScout.Proofs.Server.Address
import ShowScout.Server.Probe

/-!
# Keys in addresses

The key stands in the address of a page as the user has typed it. So it reaches the server only if
it means nothing but itself there: what ends a path or a part of it, what is left out, what is
decoded, and steps do not.
-/

namespace ShowScout

open Web

variable {u page : Url} {c : Char} {s : List Char} {key : String}

/-- A page of a server that is told the key: behind the path of the base, one part stands for it. -/
structure Web.Url.NamesKey (page : Url) (base : List Char) (key : String) : Prop where
  query : page.query = some "cmd=ping".toList
  path : ∃ segment, '/' ∉ segment ∧ percentDecode segment = bytes key.toList ∧
    page.path = base ++ "/api/".toList ++ segment ++ "/".toList

/-- A key that stands for itself in an address. -/
structure IsPlainKey (key : String) : Prop where
  chars : ∀ c ∈ key.toList, endsAuthority c = false ∧ isIgnored c = false
  dots : key ≠ "." ∧ key ≠ ".."
  escapes : percentDecode key.toList = bytes key.toList

/-! ## Reading the page -/

/-- The path of a base and the page below it. -/
def apiSegments (u : Url) : List (List Char) := baseSegments u ++ ["api".toList]

theorem pathText_apiSegments (h : u.IsRead) :
    pathText (apiSegments u) = basePath u ++ "/api".toList := by
  rw [apiSegments, pathText_concat, ← basePath_eq h]
  rfl

theorem isPlace_of_mem_apiSegments (h : u.IsRead) : ∀ s ∈ apiSegments u, IsPlace s := by
  intro s hs
  obtain hs | hs := List.mem_append.1 hs
  · exact isPlace_of_mem_baseSegments h s hs
  · obtain rfl := List.mem_singleton.1 hs
    exact ⟨List.all_eq_true.1 rfl, rfl, rfl⟩

/-- What stands behind that, without what is left out of every address. -/
def keyTail (key : String) : List Char :=
  key.toList.filter (!isIgnored ·) ++ "/?cmd=ping".toList

/-- What stands behind the port in the address of the page. -/
def pageTail (u : Url) (key : String) : List Char :=
  pathText (apiSegments u) ++ '/' :: keyTail key

theorem parse_pingUrl (h : u.IsRead) (key : String) :
    Url.parse (pingUrl (.ofList (baseText u)) key).toList =
      (Host.parse u.host.toText).map fun host =>
        ({ u with host } : Url).withTail (pageTail u key) := by
  have htext : (pingUrl (.ofList (baseText u)) key).toList =
      u.originText ++ (pathText (apiSegments u) ++ '/' :: (key.toList ++ "/?cmd=ping".toList)) := by
    rw [pathText_apiSegments h]
    simp [pingUrl, baseText, basePath]
  have htail : (pathText (apiSegments u) ++ '/' :: (key.toList ++ "/?cmd=ping".toList)).filter
      (!isIgnored ·) = pageTail u key := by
    rw [List.filter_append, filter_pathText (isPlace_of_mem_apiSegments h)]
    simp [pageTail, keyTail, isIgnored]
  rw [htext, h.parse_originText_append, htail]
  · obtain ⟨rest, hrest⟩ := exists_of_pathText_append (apiSegments u)
      (key.toList ++ "/?cmd=ping".toList)
    rw [hrest]
    rintro c ⟨rfl⟩
    rfl
  · intro c hc
    have hlast : (pathText (apiSegments u) ++
        '/' :: (key.toList ++ "/?cmd=ping".toList)).getLast? = some 'g' :=
      List.getLast?_eq_some_iff.2
        ⟨pathText (apiSegments u) ++ '/' :: (key.toList ++ "/?cmd=pin".toList), by simp⟩
    obtain rfl := Option.some.inj (hlast.symm.trans hc)
    decide

/-! ## What is read for the key -/

/-- The part of the path that is read for the key. -/
def keyText (key : String) : List Char :=
  ((keyTail key).takeWhile (· != '#')).takeWhile (· != '?')

/-- The parts of the path that are read for the key. -/
def keyParts (key : String) : List (List Char) :=
  ((keyText key).splitOnP isSlash).map (percentEncode isEncodedInPath)

theorem segments_withTail (h : u.IsRead) (key : String) :
    (u.withTail (pageTail u key)).segments =
      resolveDots (apiSegments u).reverse (keyParts key) := by
  have hplaces := isPlace_of_mem_apiSegments h
  rw [keyParts, ← pathSegments_pathText_append hplaces, Url.withTail, pageTail]
  dsimp only
  rw [List.takeWhile_append_of_pos (ne_of_mem_pathText hplaces (by decide)),
    List.takeWhile_cons_of_pos (by decide),
    List.takeWhile_append_of_pos (ne_of_mem_pathText hplaces (by decide)),
    List.takeWhile_cons_of_pos (by decide)]
  rfl

theorem mem_keyText (h : c ∈ keyText key) : c ≠ '?' ∧ c ≠ '#' := by
  have hquery := List.mem_takeWhile_imp h
  have hfragment := List.mem_takeWhile_imp ((List.takeWhile_sublist _).subset h)
  exact ⟨bne_iff_ne.1 hquery, bne_iff_ne.1 hfragment⟩

theorem keyText_cases (key : String) :
    keyText key = key.toList.filter (!isIgnored ·) ++ ['/'] ∨
      (keyText key).Sublist (key.toList.filter (!isIgnored ·)) := by
  unfold keyText keyTail
  generalize key.toList.filter (!isIgnored ·) = kept
  rw [List.takeWhile_append]
  split
  · rw [List.takeWhile_append]
    split
    · exact .inl rfl
    · exact .inr (List.takeWhile_sublist _)
  · exact .inr ((List.takeWhile_sublist _).trans (List.takeWhile_sublist _))

/-- A part that is read for the key has been typed as a part of it. -/
theorem sublist_of_mem_splitOnP_keyText {part : List Char}
    (h : part ∈ (keyText key).splitOnP isSlash) :
    part.Sublist (key.toList.filter (!isIgnored ·)) := by
  obtain hkey | hkey := keyText_cases key
  · rw [hkey, List.splitOnP_append_cons _ _ (by decide)] at h
    obtain h | h := List.mem_append.1 h
    · exact sublist_of_mem_splitOnP h
    · obtain rfl := List.mem_singleton.1 h
      exact List.nil_sublist _
  · exact (sublist_of_mem_splitOnP h).trans hkey

/-! ## Plain keys -/

theorem keyTail_of_isPlainKey (hkey : IsPlainKey key) :
    keyTail key = key.toList ++ "/?cmd=ping".toList := by
  rw [keyTail, List.filter_eq_self.2 fun c hc => by rw [(hkey.chars c hc).2]; rfl]

theorem IsPlainKey.ne (hkey : IsPlainKey key) {d : Char} (hd : endsAuthority d) :
    ∀ c ∈ key.toList, (c != d) = true := by
  intro c hc
  refine bne_iff_ne.2 ?_
  rintro rfl
  rw [(hkey.chars c hc).1] at hd
  cases hd

theorem keyText_of_isPlainKey (hkey : IsPlainKey key) : keyText key = key.toList ++ ['/'] := by
  rw [keyText, keyTail_of_isPlainKey hkey, List.takeWhile_append_of_pos (hkey.ne (by decide)),
    List.takeWhile_append_of_pos (hkey.ne (by decide))]
  rfl

theorem IsPlainKey.isSlash_eq_false (hkey : IsPlainKey key) :
    ∀ c ∈ key.toList, isSlash c = false := by
  intro c hc
  have hends := (hkey.chars c hc).1
  simp only [endsAuthority, Bool.or_eq_false_iff] at hends
  exact hends.1.1

/-- A plain key is read as one part, which is no step. -/
theorem IsPlainKey.isPlace (hkey : IsPlainKey key) :
    IsPlace (percentEncode isEncodedInPath key.toList) := by
  have hbytes := (percentDecode_percentEncode_path key.toList).trans hkey.escapes
  have hne {text : String} (hkey : key ≠ text) (hdots : percentDecode
      (percentEncode isEncodedInPath key.toList) = bytes text.toList) : False :=
    hkey (String.toList_injective (bytes_injective (hbytes.symm.trans hdots)))
  exact
    { chars := isSettled_percentEncode hkey.isSlash_eq_false
      single := Bool.eq_false_iff.2 fun h => hne hkey.dots.1 (percentDecode_of_isSingleDot h)
      double := Bool.eq_false_iff.2 fun h => hne hkey.dots.2 (percentDecode_of_isDoubleDot h) }

theorem namesKey_of_isPlainKey (h : u.IsRead) (hkey : IsPlainKey key) :
    (u.withTail (pageTail u key)).NamesKey (basePath u) key where
  query := by
    have hplaces := isPlace_of_mem_apiSegments h
    have hfragment : (pageTail u key).takeWhile (· != '#') =
        pathText (apiSegments u) ++ '/' :: (key.toList ++ "/?cmd=ping".toList) := by
      rw [pageTail, keyTail_of_isPlainKey hkey,
        List.takeWhile_append_of_pos (ne_of_mem_pathText hplaces (by decide)),
        List.takeWhile_cons_of_pos (by decide),
        List.takeWhile_append_of_pos (hkey.ne (by decide))]
      rfl
    have hquery : after? '?' (pathText (apiSegments u) ++
        '/' :: (key.toList ++ "/?cmd=ping".toList)) = some "cmd=ping".toList := by
      rw [after?, List.dropWhile_append_of_pos (ne_of_mem_pathText hplaces (by decide)),
        List.dropWhile_cons_of_pos (by decide),
        List.dropWhile_append_of_pos (hkey.ne (by decide))]
      rfl
    rw [Url.withTail]
    dsimp only
    rw [hfragment, hquery]
    rfl
  path := by
    have hplace := hkey.isPlace
    have hsegments : (u.withTail (pageTail u key)).segments =
        apiSegments u ++ [percentEncode isEncodedInPath key.toList, []] := by
      rw [segments_withTail h, keyParts, keyText_of_isPlainKey hkey,
        List.splitOnP_append_cons_of_forall_mem hkey.isSlash_eq_false '/' (by decide),
        List.splitOnP_nil, List.map_cons, List.map_singleton, percentEncode_nil,
        resolveDots_cons hplace, resolveDots_cons isPlace_nil]
      simp [resolveDots]
    refine ⟨percentEncode isEncodedInPath key.toList, hplace.slash_not_mem,
      (percentDecode_percentEncode_path key.toList).trans hkey.escapes, ?_⟩
    rw [Url.path, hsegments, pathText_append, pathText_apiSegments h]
    simp [pathText]

/-! ## Other keys -/

/-- Only one part of what is read for the key can stand for the key. -/
theorem exists_of_namesKey (h : u.IsRead)
    (hpage : (u.withTail (pageTail u key)).NamesKey (basePath u) key) :
    ∃ segment, percentDecode segment = bytes key.toList ∧
      resolveDots (apiSegments u).reverse (keyParts key) = apiSegments u ++ [segment, []] := by
  obtain ⟨segment, hslash, hdecode, hpath⟩ := hpage.path
  refine ⟨segment, hdecode, ?_⟩
  rw [← segments_withTail h]
  refine pathText_inj (fun s hs => ?_) (fun s hs => ?_) ?_
  · exact (isPlace_of_mem_pathSegments s hs).slash_not_mem
  · obtain hs | hs := List.mem_append.1 hs
    · exact (isPlace_of_mem_apiSegments h s hs).slash_not_mem
    · simp only [List.mem_cons, List.not_mem_nil, or_false] at hs
      obtain rfl | rfl := hs
      · exact hslash
      · exact List.not_mem_nil
  · rw [pathText_append]
    refine hpath.trans ?_
    rw [pathText_apiSegments h]
    simp [pathText]

/-- A part that is a step leaves no more than the slash behind it. -/
theorem length_resolveDots_step (hstep : isSingleDot s ∨ isDoubleDot s)
    (done : List (List Char)) : (resolveDots done [s, []]).length ≤ done.length + 1 := by
  obtain ⟨hsingle, hdouble, -⟩ | ⟨place, hplace, hnext⟩ := resolveDots_cons_cases done s [[]]
  · simp [hsingle, hdouble] at hstep
  · have hlength := hplace.length_le
    rw [hnext, if_neg (by simp), resolveDots_cons isPlace_nil]
    simpa [resolveDots] using hlength

theorem isPlainKey_of_namesKey (h : u.IsRead)
    (hpage : (u.withTail (pageTail u key)).NamesKey (basePath u) key) : IsPlainKey key := by
  obtain ⟨segment, hdecode, hsegments⟩ := exists_of_namesKey h hpage
  have hplace : (resolveDots (apiSegments u).reverse (keyParts key))[(apiSegments u).length]? =
      some segment := by
    simp [hsegments]
  obtain hbefore | hpart | rfl := getElem?_resolveDots hplace
  · simp at hbefore
  · obtain ⟨part, hsplit, rfl⟩ := List.mem_map.1 hpart
    rw [percentDecode_percentEncode_path] at hdecode
    have hkept := sublist_of_mem_splitOnP_keyText hsplit
    -- the part stands for as many bytes as the whole key has, so it is the whole key
    obtain rfl : part = key.toList :=
      eq_of_sublist_of_bytes_le (hkept.trans List.filter_sublist) (by
        rw [← hdecode]
        exact length_percentDecode_le part)
    have hdots {text : String} (hlength : (resolveDots (apiSegments u).reverse
        (keyParts text)).length ≤ (apiSegments u).reverse.length + 1) : key ≠ text := by
      rintro rfl
      simp [hsegments] at hlength
    exact
      { chars := fun c hc => by
          have hslash := eq_false_of_mem_splitOnP hsplit c hc
          obtain ⟨hquery, hfragment⟩ := mem_keyText ((sublist_of_mem_splitOnP hsplit).subset hc)
          have hignored : isIgnored c = false := by
            simpa using (List.mem_filter.1 (hkept.subset hc)).2
          simp [endsAuthority, hslash, hquery, hfragment, hignored]
        dots := ⟨hdots (length_resolveDots_step (.inl rfl) _),
          hdots (length_resolveDots_step (.inr rfl) _)⟩
        escapes := hdecode }
  · obtain rfl : key = "" := String.toList_injective (bytes_injective hdecode.symm)
    exact ⟨by simp, by decide, rfl⟩

/-! ## What a probe asks for -/

/--
The one page that a probe asks for names the key exactly if the key is plain. It has the scheme and
the port of the base, and it is there if the host of the base is read as itself.
-/
theorem ping_namesKey_iff {kind : AddressKind} {address : String} {url : Url}
    (hurl : Url.parse (withScheme kind (Text.trimChars address.toList)) = .ok url) (key : String) :
    (∀ page, Url.parse (pingUrl (.ofList (baseText url)) key).toList = .ok page →
      (∀ network : Network, network.ask (pingUrl (.ofList (baseText url)) key) = network page) ∧
        page.scheme = url.scheme ∧ page.port = url.port ∧
        (page.NamesKey (basePath url) key ↔ IsPlainKey key)) ∧
    (Host.parse url.host.toText = .ok url.host →
      ∃ page, Url.parse (pingUrl (.ofList (baseText url)) key).toList = .ok page ∧
        page.host = url.host) := by
  have hread := Url.isRead_of_parse hurl
  constructor
  · intro page hpage
    have hask (network : Network) :
        network.ask (pingUrl (.ofList (baseText url)) key) = network page := by
      rw [Network.ask, hpage]
    rw [parse_pingUrl hread] at hpage
    cases hhost : Host.parse url.host.toText with
    | error e =>
      rw [hhost] at hpage
      cases hpage
    | ok host =>
      rw [hhost] at hpage
      cases hpage
      -- only the host differs from the page that has been looked at above
      refine ⟨hask, rfl, rfl, fun hnames => ?_, fun hkey => ?_⟩
      · exact isPlainKey_of_namesKey hread ⟨hnames.query, hnames.path⟩
      · have hnames := namesKey_of_isPlainKey hread hkey
        exact ⟨hnames.query, hnames.path⟩
  · intro hhost
    rw [parse_pingUrl hread, hhost]
    exact ⟨_, rfl, rfl⟩

/-- The server at a local address, with a path. -/
def Web.Url.localServer : Url where
  scheme := .http
  host := .ipv6 [0xfd00, 0, 0, 0, 0, 0, 0, 1]
  port := some 8081
  segments := ["tv".toList, []]
  query := none
  fragment := none

/-- A key of letters and digits is found in the page's path. -/
theorem ping_namesKey_iff_localServer :
    ∃ page, Url.parse "http://[fd00::1]:8081/tv/api/0a1b2c/?cmd=ping".toList = .ok page ∧
      page.NamesKey "/tv".toList "0a1b2c" := by
  have hurl : Url.parse (withScheme .internal (Text.trimChars "[fd00::1]:8081/tv/".toList)) =
      .ok .localServer := rfl
  obtain ⟨hpages, hthere⟩ := ping_namesKey_iff hurl "0a1b2c"
  obtain ⟨page, hpage, -⟩ := hthere rfl
  obtain ⟨-, -, -, hiff⟩ := hpages page hpage
  have hchars : ∀ c ∈ "0a1b2c".toList, endsAuthority c = false ∧ isIgnored c = false := by
    simp [endsAuthority, isIgnored, isSlash]
  exact ⟨page, hpage, hiff.2 ⟨hchars, by decide, by decide⟩⟩

/-- A key with a number sign is cut off there, and the command with it. -/
theorem not_ping_namesKey_numberSign :
    ∃ page, canonicalBase .internal "[fd00::1]:8081/tv/" = .ok "http://[fd00::1]:8081/tv" ∧
      Url.parse (pingUrl "http://[fd00::1]:8081/tv" "k#1").toList = .ok page ∧
      page.target = "/tv/api/k".toList ∧ ¬ page.NamesKey "/tv".toList "k#1" := by
  refine ⟨{ Url.localServer with
    segments := ["tv".toList, "api".toList, "k".toList], fragment := some "1/?cmd=ping".toList },
    rfl, rfl, rfl, fun hnames => ?_⟩
  cases hnames.query

end ShowScout
