import Mathlib.Data.List.DropRight
import ShowScout.Proofs.Web.Percent
import ShowScout.Text.Blank
import ShowScout.Web.Url

/-!
# Paths that are read again

A path that has been read is read again as itself: its parts are encoded already and none of them
stands for a step. So only the slashes at its end can change it.
-/

namespace ShowScout.Web

variable {p : Char → Bool} {s t part : List Char} {parts segments done : List (List Char)}

/-! ## Splitting -/

theorem sublist_of_mem_splitOnP (h : part ∈ s.splitOnP p) : part.Sublist s := by
  induction s generalizing part with
  | nil => simp_all
  | cons c s ih =>
    obtain ⟨first, later, hsplit⟩ := List.exists_cons_of_ne_nil (List.splitOnP_ne_nil p s)
    rw [List.splitOnP_cons_eq_if_modifyHead] at h
    rw [hsplit] at ih h
    cases hc : p c with
    | true =>
      rw [hc, if_pos rfl] at h
      obtain rfl | hpart := List.mem_cons.1 h
      · exact List.nil_sublist _
      · exact (ih hpart).cons c
    | false =>
      simp only [hc, Bool.false_eq_true, if_false, List.modifyHead_cons, List.mem_cons] at h
      obtain rfl | hpart := h
      · exact (ih List.mem_cons_self).cons_cons c
      · exact (ih (List.mem_cons_of_mem _ hpart)).cons c

theorem eq_false_of_mem_splitOnP (h : part ∈ s.splitOnP p) : ∀ c ∈ part, p c = false := by
  induction s generalizing part with
  | nil => simp_all
  | cons c s ih =>
    obtain ⟨first, later, hsplit⟩ := List.exists_cons_of_ne_nil (List.splitOnP_ne_nil p s)
    rw [List.splitOnP_cons_eq_if_modifyHead] at h
    rw [hsplit] at ih h
    cases hc : p c with
    | true =>
      rw [hc, if_pos rfl] at h
      obtain rfl | hpart := List.mem_cons.1 h
      · exact fun _ h => absurd h List.not_mem_nil
      · exact ih hpart
    | false =>
      simp only [hc, Bool.false_eq_true, if_false, List.modifyHead_cons, List.mem_cons] at h
      obtain rfl | hpart := h
      · rintro d (_ | ⟨_, hd⟩)
        · exact hc
        · exact ih List.mem_cons_self d hd
      · exact ih (List.mem_cons_of_mem _ hpart)

/-! ## Encoded characters -/

theorem hexDigit?_of_isEncodedInPath {c : Char} (h : isEncodedInPath c) : hexDigit? c = none := by
  have hnone (h : c ≤ ' ' ∨ '\x7f' ≤ c) (low high : Char) (hlow : ¬ low ≤ ' ')
      (hhigh : ¬ '\x7f' ≤ high) : ¬ (low ≤ c ∧ c ≤ high) := by
    rintro ⟨hl, hh⟩
    obtain h | h := h
    · exact hlow (Char.le_trans hl h)
    · exact hhigh (Char.le_trans h hh)
  simp only [isEncodedInPath, isEncodedAnywhere, Bool.or_eq_true, decide_eq_true_eq,
    List.contains_eq_mem, List.mem_cons, List.not_mem_nil, or_false] at h
  obtain (h | rfl | rfl | rfl) | rfl | rfl | rfl | rfl | rfl := h
  · simp only [hexDigit?, Bool.and_eq_true, decide_eq_true_eq,
      if_neg (hnone h '0' '9' (by decide) (by decide)),
      if_neg (hnone h 'a' 'f' (by decide) (by decide)),
      if_neg (hnone h 'A' 'F' (by decide) (by decide))]
  all_goals decide

/-- The characters of a path that has been read. -/
def isSettled (c : Char) : Bool := !isSlash c && !isEncodedInPath c

theorem isSettled_percentEncode (h : ∀ c ∈ s, isSlash c = false) :
    ∀ c ∈ percentEncode isEncodedInPath s, isSettled c := by
  intro c hc
  obtain ⟨hmem, hcode⟩ | rfl | ⟨n, hn, rfl⟩ := mem_percentEncode hc
  · simp [isSettled, h c hmem, hcode]
  · decide
  · have hdigits : ∀ n < 16, isSettled (upperHexDigit n) := by decide
    exact hdigits n hn

theorem percentEncode_settled (h : ∀ c ∈ s, isSettled c) : percentEncode isEncodedInPath s = s :=
  percentEncode_eq_self fun c hc => by
    have := h c hc
    simp only [isSettled, Bool.and_eq_true, Bool.not_eq_true'] at this
    exact this.2

/-! ## Parts of a path -/

/-- A part as it is after reading. -/
structure IsPlace (s : List Char) : Prop where
  chars : ∀ c ∈ s, isSettled c
  single : isSingleDot s = false
  double : isDoubleDot s = false

theorem isPlace_nil : IsPlace [] := ⟨nofun, rfl, rfl⟩

/-- What an encoded path stands for is what the path stands for. -/
theorem percentDecode_percentEncode_path (s : List Char) :
    percentDecode (percentEncode isEncodedInPath s) = percentDecode s :=
  percentDecode_percentEncode (by decide) (fun _ => hexDigit?_of_isEncodedInPath) s

theorem percentDecode_of_dropDot? (h : dropDot? s = some t) :
    percentDecode s = String.utf8EncodeChar '.' ++ percentDecode t := by
  have hdot : hexByte? '2' 'e' = some 0x2e ∧ hexByte? '2' 'E' = some 0x2e := by decide
  unfold dropDot? at h
  split at h
  · obtain rfl := Option.some.inj h
    exact percentDecode_of_ne (by decide) _
  · obtain rfl := Option.some.inj h
    rw [percentDecode_escape hdot.1]
    rfl
  · obtain rfl := Option.some.inj h
    rw [percentDecode_escape hdot.2]
    rfl
  · cases h

/-- A part that is a step stands for one dot or two. -/
theorem percentDecode_of_isSingleDot (h : isSingleDot s) : percentDecode s = bytes ['.'] :=
  percentDecode_of_dropDot? (eq_of_beq h)

theorem percentDecode_of_isDoubleDot (h : isDoubleDot s) : percentDecode s = bytes ['.', '.'] := by
  obtain ⟨rest, hfirst, hsecond⟩ := Option.bind_eq_some_iff.1 (eq_of_beq h)
  rw [percentDecode_of_dropDot? hfirst, percentDecode_of_dropDot? hsecond]
  rfl

theorem stepUp_suffix (done : List (List Char)) : stepUp done <:+ done := by
  cases done with
  | nil => exact List.suffix_rfl
  | cons last above =>
    cases h : isDrive last
    · simp [stepUp, h]
    · simp [stepUp, h]

/-- A part is a place of its own, or leads back to a place on the way. -/
theorem resolveDots_cons_cases (done : List (List Char)) (s : List Char)
    (rest : List (List Char)) :
    isSingleDot s = false ∧ isDoubleDot s = false ∧
        resolveDots done (s :: rest) = resolveDots (s :: done) rest ∨
      ∃ place, place <:+ done ∧
        resolveDots done (s :: rest) =
          if rest = [] then resolveDots ([] :: place) [] else resolveDots place rest := by
  cases hdouble : isDoubleDot s with
  | true =>
    refine .inr ⟨stepUp done, stepUp_suffix done, ?_⟩
    cases rest <;> simp [resolveDots, hdouble]
  | false =>
    cases hsingle : isSingleDot s with
    | true =>
      refine .inr ⟨done, List.suffix_rfl, ?_⟩
      cases rest <;> simp [resolveDots, hdouble, hsingle]
    | false => exact .inl ⟨rfl, rfl, by simp [resolveDots, hdouble, hsingle]⟩

theorem resolveDots_cons (h : IsPlace s) (done rest : List (List Char)) :
    resolveDots done (s :: rest) = resolveDots (s :: done) rest := by
  simp [resolveDots, h.double, h.single]

theorem resolveDots_append (h : ∀ s ∈ segments, IsPlace s) (done rest : List (List Char)) :
    resolveDots done (segments ++ rest) = resolveDots (segments.reverse ++ done) rest := by
  induction segments generalizing done with
  | nil => rfl
  | cons s segments ih =>
    rw [List.cons_append, resolveDots_cons (h s List.mem_cons_self),
      ih fun t ht => h t (List.mem_cons_of_mem s ht)]
    simp

theorem isPlace_of_mem_resolveDots (hdone : ∀ s ∈ done, IsPlace s)
    (hparts : ∀ s ∈ parts, ∀ c ∈ s, isSettled c) : ∀ s ∈ resolveDots done parts, IsPlace s := by
  induction parts generalizing done with
  | nil => simpa [resolveDots] using hdone
  | cons part rest ih =>
    have hrest : ∀ s ∈ rest, ∀ c ∈ s, isSettled c := fun s hs =>
      hparts s (List.mem_cons_of_mem part hs)
    obtain ⟨hsingle, hdouble, hnext⟩ | ⟨place, hplace, hnext⟩ :=
      resolveDots_cons_cases done part rest
    · rw [hnext]
      refine ih (fun s hs => ?_) hrest
      obtain rfl | hs := List.mem_cons.1 hs
      · exact ⟨hparts s List.mem_cons_self, hsingle, hdouble⟩
      · exact hdone s hs
    · have habove : ∀ s ∈ place, IsPlace s := fun s hs => hdone s (hplace.subset hs)
      rw [hnext]
      split
      · simp only [resolveDots, List.mem_reverse, List.mem_cons]
        rintro s (rfl | hs)
        · exact isPlace_nil
        · exact habove s hs
      · exact ih habove hrest

/-- What was there stays at its place, and all else comes from the parts. -/
theorem getElem?_resolveDots {i : Nat} (h : (resolveDots done parts)[i]? = some s) :
    done.reverse[i]? = some s ∨ s ∈ parts ∨ s = [] := by
  have hconcat {above : List (List Char)} {last : List Char}
      (h : (last :: above).reverse[i]? = some s) : above.reverse[i]? = some s ∨ s = last := by
    rw [List.reverse_cons, List.getElem?_append] at h
    split at h
    · exact .inl h
    · exact .inr (List.mem_singleton.1 (List.mem_of_getElem? h))
  induction parts generalizing done with
  | nil => exact .inl h
  | cons part rest ih =>
    obtain ⟨-, -, hnext⟩ | ⟨place, hplace, hnext⟩ := resolveDots_cons_cases done part rest
    · rw [hnext] at h
      obtain h | h | h := ih h
      · obtain h | rfl := hconcat h
        · exact .inl h
        · exact .inr (.inl List.mem_cons_self)
      · exact .inr (.inl (List.mem_cons_of_mem part h))
      · exact .inr (.inr h)
    · have hpopped (h : place.reverse[i]? = some s) : done.reverse[i]? = some s := by
        obtain ⟨below, hdone⟩ := List.reverse_prefix.2 hplace
        obtain ⟨hi, -⟩ := List.getElem?_eq_some_iff.1 h
        rw [← hdone, List.getElem?_append_left hi, h]
      rw [hnext] at h
      split at h
      · obtain h | rfl := hconcat h
        · exact .inl (hpopped h)
        · exact .inr (.inr rfl)
      · obtain h | h | h := ih h
        · exact .inl (hpopped h)
        · exact .inr (.inl (List.mem_cons_of_mem part h))
        · exact .inr (.inr h)

theorem isPlace_of_mem_pathSegments : ∀ s ∈ pathSegments t, IsPlace s := by
  unfold pathSegments
  refine isPlace_of_mem_resolveDots nofun fun s hs => ?_
  obtain ⟨part, hpart, rfl⟩ := List.mem_map.1 hs
  exact isSettled_percentEncode (eq_false_of_mem_splitOnP hpart)

/-! ## Texts of paths -/

theorem pathText_cons (s : List Char) (segments : List (List Char)) :
    pathText (s :: segments) = '/' :: (s ++ pathText segments) := rfl

theorem pathText_concat (segments : List (List Char)) (s : List Char) :
    pathText (segments ++ [s]) = pathText segments ++ '/' :: s := by
  simp [pathText]

theorem pathText_append (segments later : List (List Char)) :
    pathText (segments ++ later) = pathText segments ++ pathText later := List.flatMap_append

/-- A text of a path with more behind it starts with a slash. -/
theorem exists_of_pathText_append (segments : List (List Char)) (t : List Char) :
    ∃ u, pathText segments ++ '/' :: t = '/' :: u := by
  cases segments with
  | nil => exact ⟨t, rfl⟩
  | cons s segments => exact ⟨s ++ pathText segments ++ '/' :: t, rfl⟩

theorem splitOnP_pathText_append (hp : p '/') (h : ∀ s ∈ segments, ∀ c ∈ s, p c = false)
    (t : List Char) :
    (pathText segments ++ '/' :: t).splitOnP p = [] :: (segments ++ t.splitOnP p) := by
  have hslash (u : List Char) : ('/' :: u).splitOnP p = [] :: u.splitOnP p := by
    simp [List.splitOnP_cons_eq_if_modifyHead, hp]
  induction segments with
  | nil => exact hslash t
  | cons s segments ih =>
    obtain ⟨u, hu⟩ := exists_of_pathText_append segments t
    have hrest := ih fun s hs => h s (List.mem_cons_of_mem _ hs)
    rw [hu, hslash, List.cons.injEq] at hrest
    rw [pathText_cons, List.cons_append, List.append_assoc, hu, hslash,
      List.splitOnP_append_cons_of_forall_mem (h s List.mem_cons_self) '/' hp, hrest.2]
    rfl

theorem splitOnP_pathText (hp : p '/') (h : ∀ s ∈ segments, ∀ c ∈ s, p c = false)
    (hne : segments ≠ []) : (pathText segments).splitOnP p = [] :: segments := by
  obtain rfl | ⟨before, last, rfl⟩ := List.eq_nil_or_concat' segments
  · exact absurd rfl hne
  · rw [pathText_concat, splitOnP_pathText_append hp fun s hs => h s (List.mem_append_left _ hs),
      List.splitOnP_eq_singleton (h last (by simp))]

/-- Parts without slashes are told apart in the text of their path. -/
theorem pathText_inj {later : List (List Char)} (h : ∀ s ∈ segments, '/' ∉ s)
    (hlater : ∀ s ∈ later, '/' ∉ s) (heq : pathText segments = pathText later) :
    segments = later := by
  have hnone {l : List (List Char)} (hl : pathText l = []) : l = [] := by
    cases l with
    | nil => rfl
    | cons => cases hl
  have hsplit {l : List (List Char)} (hl : ∀ s ∈ l, '/' ∉ s) (hne : l ≠ []) :
      (pathText l).splitOnP (· == '/') = [] :: l :=
    splitOnP_pathText rfl (fun s hs c hc => beq_false_of_ne fun h => hl s hs (h ▸ hc)) hne
  by_cases hne : segments = []
  · rw [hne] at heq ⊢
    exact (hnone heq.symm).symm
  · have hne' : later ≠ [] := fun hl => hne (hnone (by rw [heq, hl]; rfl))
    have hparts := hsplit h hne
    rw [heq, hsplit hlater hne'] at hparts
    exact (List.cons.inj hparts).2.symm

theorem IsPlace.isSlash_eq_false (h : IsPlace s) : ∀ c ∈ s, isSlash c = false := by
  intro c hc
  have hsettled := h.chars c hc
  simp only [isSettled, Bool.and_eq_true, Bool.not_eq_true'] at hsettled
  exact hsettled.1

theorem IsPlace.slash_not_mem (h : IsPlace s) : '/' ∉ s := fun hslash =>
  absurd (h.isSlash_eq_false '/' hslash) (by decide)

/-! ## Reading again -/

theorem pathSegments_pathText_append (h : ∀ s ∈ segments, IsPlace s) (t : List Char) :
    pathSegments (pathText segments ++ '/' :: t) =
      resolveDots segments.reverse ((t.splitOnP isSlash).map (percentEncode isEncodedInPath)) := by
  have hcoded : segments.map (percentEncode isEncodedInPath) = segments :=
    (List.map_congr_left fun s hs => percentEncode_settled (h s hs).chars).trans
      (List.map_id segments)
  have hsplit := splitOnP_pathText_append (p := isSlash) rfl
    (fun s hs => (h s hs).isSlash_eq_false) t
  obtain ⟨u, hu⟩ := exists_of_pathText_append segments t
  have hslash : isSlash '/' = true := rfl
  rw [hu, List.splitOnP_cons_eq_if_modifyHead, if_pos hslash, List.cons.injEq] at hsplit
  rw [hu, pathSegments]
  simp only [hslash, if_pos, hsplit.2, List.map_append, hcoded]
  rw [resolveDots_append h, List.append_nil]

/-- Parts that have been read are read again as themselves. -/
theorem pathSegments_pathText (h : ∀ s ∈ segments, IsPlace s) (hne : segments ≠ []) :
    pathSegments (pathText segments) = segments := by
  obtain rfl | ⟨before, last, rfl⟩ := List.eq_nil_or_concat' segments
  · exact absurd rfl hne
  have hlast : IsPlace last := h last (by simp)
  rw [pathText_concat, pathSegments_pathText_append fun s hs => h s (List.mem_append_left _ hs),
    List.splitOnP_eq_singleton hlast.isSlash_eq_false, List.map_singleton,
    percentEncode_settled hlast.chars, resolveDots_cons hlast]
  simp [resolveDots]

/-! ## Slashes at the end -/

/-- Slashes at the end of a path are parts without text. -/
theorem dropEnd_pathText (h : ∀ s ∈ segments, '/' ∉ s) :
    Text.dropEnd (· == '/') (pathText segments) =
      pathText (Text.dropEnd List.isEmpty segments) := by
  induction segments using List.reverseRecOn with
  | nil => rfl
  | append_singleton before last ih =>
    have hbefore := ih fun s hs => h s (List.mem_append_left _ hs)
    obtain rfl | ⟨start, c, rfl⟩ := List.eq_nil_or_concat' last
    · calc
        Text.dropEnd (· == '/') (pathText (before ++ [[]])) =
            Text.dropEnd (· == '/') (pathText before) := by
          rw [pathText_concat]
          exact List.rdropWhile_concat_pos _ _ _ rfl
        _ = pathText (Text.dropEnd List.isEmpty before) := hbefore
        _ = pathText (Text.dropEnd List.isEmpty (before ++ [[]])) := by
          congr 1
          exact (List.rdropWhile_concat_pos List.isEmpty before [] rfl).symm
    · have hc : ¬ (c == '/') = true := by
        intro hc
        rw [eq_of_beq hc] at h
        exact h (start ++ ['/']) (by simp) (by simp)
      have hkeep : Text.dropEnd List.isEmpty (before ++ [start ++ [c]]) =
          before ++ [start ++ [c]] :=
        List.rdropWhile_concat_neg List.isEmpty before (start ++ [c]) (by simp)
      rw [hkeep, pathText_concat, ← List.cons_append, ← List.append_assoc]
      exact List.rdropWhile_concat_neg _ _ _ hc

/-- The parts of a path without the slashes at its end. -/
theorem isPlace_of_mem_dropEnd (h : ∀ s ∈ segments, IsPlace s) :
    ∀ s ∈ Text.dropEnd List.isEmpty segments, IsPlace s :=
  fun s hs => h s ((List.rdropWhile_prefix List.isEmpty segments).subset hs)

/-- A path without slashes at its end comes back as it is, but for slashes at its end. -/
theorem dropEnd_pathText_pathSegments (h : ∀ s ∈ segments, IsPlace s) :
    Text.dropEnd (· == '/')
        (pathText (pathSegments (Text.dropEnd (· == '/') (pathText segments)))) =
      Text.dropEnd (· == '/') (pathText segments) := by
  have hkept := isPlace_of_mem_dropEnd h
  have htrim := dropEnd_pathText fun s hs => (h s hs).slash_not_mem
  by_cases hne : Text.dropEnd List.isEmpty segments = []
  · rw [htrim, hne]
    rfl
  · rw [htrim, pathSegments_pathText hkept hne, ← htrim]
    exact List.rdropWhile_idempotent _ _

end ShowScout.Web
