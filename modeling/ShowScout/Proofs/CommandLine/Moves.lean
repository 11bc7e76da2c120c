import ShowScout.Proofs.CommandLine.Front

/-!
# Options on either side of a subcommand

An option for all commands means the same in front of a subcommand's name and behind it. Two steps
carry every such move: the option changes places with another one next to it, or with the name of
the subcommand. Each of them leaves alone what every argument is given (`Reading.Alike`), as long as
the option is not given again at another level.
-/

namespace ShowScout.CommandLine

/-! ## What each argument is given -/

/-- The values that an argument has been given, in their order. -/
def valuesOf (given : List (Argument × Value)) (a : Argument) : List Value :=
  (given.filter (·.1 = a)).map (·.2)

section Values

variable {given first second : List (Argument × Value)} {x y : Argument × Value} {a : Argument}

@[simp]
theorem valuesOf_nil : valuesOf [] a = [] :=
  rfl

@[simp]
theorem valuesOf_append : valuesOf (first ++ second) a = valuesOf first a ++ valuesOf second a := by
  simp [valuesOf]

@[simp]
theorem valuesOf_cons :
    valuesOf (x :: given) a = if x.1 = a then x.2 :: valuesOf given a else valuesOf given a := by
  by_cases h : x.1 = a <;> simp [valuesOf, h]

theorem valuesOf_eq_nil_iff : valuesOf given a = [] ↔ a ∉ argumentsOf given := by
  simp only [valuesOf, argumentsOf, List.map_eq_nil_iff, List.filter_eq_nil_iff, List.mem_map,
    decide_eq_true_eq, not_exists, not_and]

theorem head?_valuesOf (given : List (Argument × Value)) (a : Argument) :
    (valuesOf given a).head? = given.lookup a := by
  induction given with
  | nil => rfl
  | cons x given ih =>
    obtain ⟨b, value⟩ := x
    by_cases h : a = b
    · simp [h]
    · have hne : (a == b) = false := beq_eq_false_iff_ne.2 h
      rw [valuesOf_cons, if_neg (Ne.symm h), ih, List.lookup_cons, hne]

/-- Values of two arguments may be given in either order. -/
theorem valuesOf_swap (first : List (Argument × Value)) (h : x.1 ≠ y.1) (a : Argument) :
    valuesOf (first ++ [x] ++ [y]) a = valuesOf (first ++ [y] ++ [x]) a := by
  have hor : x.1 ≠ a ∨ y.1 ≠ a := by
    by_contra hboth
    rw [not_or, not_not, not_not] at hboth
    exact h (hboth.1.trans hboth.2.symm)
  rcases hor with hx | hy
  · simp [hx]
  · simp [hy]

/-- The only value of an argument may be given at any time. -/
theorem valuesOf_move (first second : List (Argument × Value))
    (h : (valuesOf (first ++ second ++ [x]) x.1).length ≤ 1) (a : Argument) :
    valuesOf (first ++ second ++ [x]) a = valuesOf (first ++ [x] ++ second) a := by
  by_cases ha : x.1 = a
  · subst ha
    have hnone : valuesOf second x.1 = [] := by
      apply List.eq_nil_of_length_eq_zero
      simp at h
      omega
    simp [hnone]
  · simp [ha]

end Values

namespace Reading

/-- The same subcommand is named, and every argument has the same values. -/
structure Alike (r r' : Reading) : Prop where
  leaf : r.leaf = r'.leaf
  values : ∀ a, valuesOf r.given a = valuesOf r'.given a

variable {r r' r'' : Reading}

theorem Alike.refl (r : Reading) : r.Alike r :=
  ⟨rfl, fun _ => rfl⟩

theorem Alike.trans (h : r.Alike r') (h' : r'.Alike r'') : r.Alike r'' :=
  ⟨h.leaf.trans h'.leaf, fun a => (h.values a).trans (h'.values a)⟩

/-- The texts of a value that may be given again. -/
def textsOf : Value → List String
  | .texts s => s
  | _ => []

theorem texts_eq (r : Reading) (a : Argument) :
    r.texts a = (valuesOf r.given a).flatMap textsOf := by
  unfold texts
  induction r.given with
  | nil => rfl
  | cons x given ih =>
    obtain ⟨b, value⟩ := x
    rw [List.flatMap_cons, ih, valuesOf_cons]
    by_cases h : b = a
    · cases value <;> simp [h, textsOf]
    · cases value <;> simp [h]

theorem Alike.value?_eq (h : r.Alike r') : r.value? = r'.value? := by
  funext a
  rw [value?, value?, ← head?_valuesOf, ← head?_valuesOf, h.values]

theorem Alike.texts_eq (h : r.Alike r') : r.texts = r'.texts := by
  funext a
  rw [Reading.texts_eq, Reading.texts_eq, h.values]

theorem Alike.command?_eq (h : r.Alike r') : r.command? = r'.command? := by
  have htext : r.text? = r'.text? := by
    funext a
    rw [text?, text?, h.value?_eq]
  have hnumber : r.number? = r'.number? := by
    funext a
    rw [number?, number?, h.value?_eq]
  have hpresent : r.isPresent = r'.isPresent := by
    funext a
    rw [isPresent, isPresent, h.value?_eq]
  unfold command?
  rw [h.leaf, htext, hnumber, hpresent, h.texts_eq]

theorem Alike.arguments_eq (h : r.Alike r') (command : Command) :
    r.arguments command = r'.arguments command := by
  simp only [arguments, text?, number?, isPresent, h.value?_eq]

end Reading

/-! ## Moves -/

namespace Level

/-- Wherever the words are read, the other words can be read as well, and say the same, provided
that none of the arguments is given more than once. -/
def Rereads (level : Level) (movable : List Argument) (words words' : List String) : Prop :=
  ∀ (s : Scan) (r : Reading), s.IsIdle → level.read s words = .ok r →
    (∀ a ∈ movable, (valuesOf r.given a).length ≤ 1) →
    ∃ r', level.read s words' = .ok r' ∧ r.Alike r'

variable {level child : Level} {movable : List Argument} {words words' words'' rest : List String}
  {o o' : GlobalOption} {word : String}

theorem Rereads.refl : level.Rereads movable words words :=
  fun _ r _ h _ => ⟨r, h, .refl r⟩

theorem Rereads.trans (h : level.Rereads movable words words')
    (h' : level.Rereads movable words' words'') : level.Rereads movable words words'' := by
  intro s r hs hread honce
  obtain ⟨r', hread', halike⟩ := h s r hs hread honce
  obtain ⟨r'', hread'', halike'⟩ := h' s r' hs hread' fun a ha => by
    rw [← halike.values]
    exact honce a ha
  exact ⟨r'', hread'', halike.trans halike'⟩

/-- Moves may take place behind an option. -/
theorem Rereads.behindOption (h : level.Rereads movable words words') (o : GlobalOption) :
    level.Rereads movable (o.words ++ words) (o.words ++ words') := by
  intro s r hs hread honce
  obtain ⟨hnew, value, hvalue, hread⟩ := (o.read_words_eq_ok_iff hs).1 hread
  obtain ⟨r', hread', halike⟩ := h _ r (hs.giving _) hread honce
  exact ⟨r', (o.read_words_eq_ok_iff hs).2 ⟨hnew, value, hvalue, hread'⟩, halike⟩

/-- Moves may take place behind the name of a subcommand. -/
theorem Rereads.behindName (hchild : level.subcommands.lookup word = some child)
    (h : child.Rereads movable words words') :
    level.Rereads movable (word :: words) (word :: words') := by
  intro s r hs hread honce
  obtain ⟨inner, hinner, rfl⟩ := (read_name_eq_ok_iff hs hchild).1 hread
  obtain ⟨inner', hinner', halike⟩ := h {} inner .empty hinner fun a ha => by
    have hlength := honce a ha
    simp only [valuesOf_append, List.length_append] at hlength
    omega
  refine ⟨_, (read_name_eq_ok_iff hs hchild).2 ⟨inner', hinner', rfl⟩, halike.leaf, fun a => ?_⟩
  simp only [valuesOf_append, halike.values]

/-- Options next to each other may change places. -/
theorem rereads_swap (o o' : GlobalOption) (movable : List Argument) (rest : List String) :
    level.Rereads movable (o.words ++ (o'.words ++ rest)) (o'.words ++ (o.words ++ rest)) := by
  intro s r hs hread _
  obtain ⟨hnew, value, hvalue, hread⟩ := (o.read_words_eq_ok_iff hs).1 hread
  obtain ⟨hnew', value', hvalue', hread⟩ := (o'.read_words_eq_ok_iff (hs.giving _)).1 hread
  obtain ⟨hother, hne⟩ : o'.argument ∉ argumentsOf s.given ∧ o'.argument ≠ o.argument := by
    simpa using hnew'
  obtain ⟨inner, added, hgiven, hframe⟩ := read_frame hread
  simp only [Scan.given_giving, Scan.giving_giving] at hgiven hframe
  -- the words behind see which arguments are given, not in which order
  have hsame (a : Argument) :
      a ∈ argumentsOf (s.given ++ [(o'.argument, value')] ++ [(o.argument, value)]) ↔
        a ∈ argumentsOf (s.given ++ [(o.argument, value)] ++ [(o'.argument, value')]) := by
    simp only [argumentsOf_append, List.append_assoc, List.mem_append]
    exact or_congr_right or_comm
  have hrest := hframe _ (fun a => (hsame a).2) (fun a _ => (hsame a).1)
  refine ⟨_, (o'.read_words_eq_ok_iff hs).2 ⟨hother, value', hvalue',
    (o.read_words_eq_ok_iff (hs.giving _)).2 ⟨?_, value, hvalue, hrest⟩⟩, rfl, fun a => ?_⟩
  · simpa using ⟨hnew, hne.symm⟩
  · rw [hgiven, valuesOf_append, valuesOf_append, valuesOf_swap s.given hne.symm, ← valuesOf_append,
      ← valuesOf_append]

/-- An option in front of the name of a subcommand may stand behind it. -/
theorem rereads_name (hchild : level.subcommands.lookup word = some child)
    (ho : o.argument ∈ movable) (rest : List String) :
    level.Rereads movable (o.words ++ word :: rest) (word :: (o.words ++ rest)) := by
  intro s r hs hread honce
  obtain ⟨-, value, hvalue, hread⟩ := (o.read_words_eq_ok_iff hs).1 hread
  obtain ⟨inner, hinner, rfl⟩ := (read_name_eq_ok_iff (hs.giving _) hchild).1 hread
  obtain ⟨before, behind, hgiven, hframe⟩ := read_frame hinner
  simp only [hgiven, Scan.given_giving, List.append_nil] at honce ⊢
  have hvalues := honce o.argument ho
  -- it is given here, so it is not among what is given at the inner level
  have hfresh : o.argument ∉ argumentsOf behind := by
    rw [← valuesOf_eq_nil_iff, ← List.length_eq_zero_iff]
    simp at hvalues
    omega
  have hread' := hframe [(o.argument, value)] (List.nil_subset _) (by
    intro a ha hmem
    obtain rfl : a = o.argument := List.mem_singleton.1 hmem
    exact absurd ha hfresh)
  refine ⟨_, (read_name_eq_ok_iff hs hchild).2 ⟨_, (o.read_words_eq_ok_iff .empty).2
    ⟨List.not_mem_nil, value, hvalue, hread'⟩, rfl⟩, rfl, fun a => ?_⟩
  rw [← List.append_assoc, List.append_assoc before] at hvalues
  have hmove := valuesOf_move before (behind ++ s.given) hvalues a
  simpa using hmove

/-- So may options in any number. -/
theorem rereads_perm {options options' : List GlobalOption} (h : options.Perm options')
    (movable : List Argument) (rest : List String) :
    level.Rereads movable (options.flatMap GlobalOption.words ++ rest)
      (options'.flatMap GlobalOption.words ++ rest) := by
  induction h with
  | nil => exact .refl
  | cons o _ ih =>
    simp only [List.flatMap_cons, List.append_assoc]
    exact ih.behindOption o
  | swap o o' _ =>
    simp only [List.flatMap_cons, List.append_assoc]
    exact rereads_swap o' o movable _
  | trans _ _ ih ih' => exact ih.trans ih'

end Level

/-! ## Moves behind a subcommand -/

/-- The option, if it is one of those. -/
def Part.picked? (p : GlobalOption → Bool) : Part → Option GlobalOption
  | .option o => if p o then some o else none
  | .name _ => none

/-- The options that are picked out. -/
def pickedOut (p : GlobalOption → Bool) (parts : List Part) : List GlobalOption :=
  parts.filterMap (Part.picked? p)

/-- What is left when options are picked out. -/
def leftIn (p : GlobalOption → Bool) (parts : List Part) : List Part :=
  parts.filter fun part => (part.picked? p).isNone

section PickedOut

variable {p : GlobalOption → Bool} {o : GlobalOption} {parts : List Part}

theorem pickedOut_option_of_pos (ho : p o) :
    pickedOut p (.option o :: parts) = o :: pickedOut p parts := by
  simp [pickedOut, Part.picked?, ho]

theorem pickedOut_option_of_neg (ho : ¬ p o) :
    pickedOut p (.option o :: parts) = pickedOut p parts := by
  simp [pickedOut, Part.picked?, ho]

theorem leftIn_option_of_pos (ho : p o) : leftIn p (.option o :: parts) = leftIn p parts := by
  simp [leftIn, Part.picked?, ho]

theorem leftIn_option_of_neg (ho : ¬ p o) :
    leftIn p (.option o :: parts) = .option o :: leftIn p parts := by
  simp [leftIn, Part.picked?, ho]

end PickedOut

namespace Level

variable {level target : Level} {parts : List Part} {movable : List Argument} {o : GlobalOption}
  {words words' rest : List String}

theorem Leads.leftIn (h : level.Leads parts target) (p : GlobalOption → Bool) :
    level.Leads (leftIn p parts) target := by
  induction h with
  | name hchild => exact .name hchild
  | enter hchild _ ih => exact .enter hchild ih
  | option o _ ih =>
    by_cases ho : p o
    · rwa [leftIn_option_of_pos ho]
    · rw [leftIn_option_of_neg ho]
      exact ih.option o

/-- Moves may take place behind all the parts on the way. -/
theorem Rereads.behindParts (hparts : level.Leads parts target)
    (h : target.Rereads movable words words') :
    level.Rereads movable (frontWords parts ++ words) (frontWords parts ++ words') := by
  induction hparts with
  | name hchild => exact h.behindName hchild
  | enter hchild _ ih => exact (ih h).behindName hchild
  | option o _ ih =>
    rw [frontWords_option, List.append_assoc, List.append_assoc]
    exact (ih h).behindOption o

/-- An option may pass all the parts on the way. -/
theorem Leads.rereads (h : level.Leads parts target) (ho : o.argument ∈ movable)
    (rest : List String) :
    level.Rereads movable (o.words ++ (frontWords parts ++ rest))
      (frontWords parts ++ (o.words ++ rest)) := by
  induction h with
  | name hchild => exact rereads_name hchild ho rest
  | enter hchild _ ih => exact (rereads_name hchild ho _).trans (ih.behindName hchild)
  | option o' _ ih =>
    rw [frontWords_option, List.append_assoc, List.append_assoc]
    exact (rereads_swap o o' movable _).trans (ih.behindOption o')

/-- Options that are picked out may stand behind the last name. -/
theorem Leads.rereads_pickedOut (h : level.Leads parts target) (p : GlobalOption → Bool)
    (hmovable : ∀ o ∈ pickedOut p parts, o.argument ∈ movable) (rest : List String) :
    level.Rereads movable (frontWords parts ++ rest)
      (frontWords (CommandLine.leftIn p parts) ++
        ((pickedOut p parts).flatMap GlobalOption.words ++ rest)) := by
  induction h with
  | name hchild => exact .refl
  | enter hchild _ ih => exact (ih hmovable).behindName hchild
  | @option level target parts o hparts ih =>
    by_cases ho : p o
    · rw [pickedOut_option_of_pos ho] at hmovable ⊢
      obtain ⟨hfirst, hothers⟩ := List.forall_mem_cons.1 hmovable
      rw [leftIn_option_of_pos ho, frontWords_option, List.flatMap_cons, List.append_assoc,
        List.append_assoc]
      -- the others go first, so that it passes only what stays
      have hpasses := (hparts.leftIn p).rereads hfirst
        ((pickedOut p parts).flatMap GlobalOption.words ++ rest)
      exact ((ih hothers).behindOption o).trans hpasses
    · rw [pickedOut_option_of_neg ho] at hmovable ⊢
      rw [leftIn_option_of_neg ho, frontWords_option, frontWords_option, List.append_assoc,
        List.append_assoc]
      exact (ih hmovable).behindOption o

end Level

end CommandLine

/-! ## Command lines -/

open CommandLine

theorem Arguments.parse_eq_ok_iff {words : List String} {args : Arguments} :
    Arguments.parse words = .ok args ↔
      ∃ r command, Level.top.read {} words = .ok r ∧ r.command? = some command ∧
        r.arguments command = args := by
  rw [parse, bind_eq_ok_iff]
  refine exists_congr fun r => ?_
  cases r.command? with
  | none => simp
  | some command => simp [pure, Except.pure]

/-- An argument that a command line gives once, at whatever level. -/
def Arguments.GivenOnce (words : List String) (a : Argument) : Prop :=
  ∃ r, Level.top.read {} words = .ok r ∧ (valuesOf r.given a).length = 1

/-- Words that say the same give the same options and the same command. -/
theorem Arguments.parse_of_rereads {movable : List Argument} {words words' : List String}
    {args : Arguments} (hrereads : Level.top.Rereads movable words words')
    (honce : ∀ a ∈ movable, GivenOnce words a) (h : Arguments.parse words = .ok args) :
    Arguments.parse words' = .ok args := by
  obtain ⟨r, command, hread, hcommand, rfl⟩ := parse_eq_ok_iff.1 h
  have hvalues : ∀ a ∈ movable, (valuesOf r.given a).length ≤ 1 := by
    intro a ha
    obtain ⟨r', hread', hlength⟩ := honce a ha
    obtain rfl : r = r' := Except.ok.inj (hread.symm.trans hread')
    exact hlength.le
  obtain ⟨r', hread', halike⟩ := hrereads {} r .empty hread hvalues
  refine parse_eq_ok_iff.2 ⟨r', command, hread', ?_, (halike.arguments_eq command).symm⟩
  rw [← halike.command?_eq, hcommand]

/-- An accepted command line has nothing in front of its subcommand but options for all commands and
the names on the way there. Of these options, those that are given only once may be taken out in any
number and put directly behind the name, in any order: the command line is accepted still, with the
same options, the same subcommand and the same arguments for it. The name may as well be that of a
subcommand which has others of its own. -/
theorem Arguments.parse_behind_name :
    (∀ words args, Arguments.parse words = .ok args →
      ∃ parts target rest, words = frontWords parts ++ rest ∧ Level.top.Leads parts target ∧
        target.isGroup = false) ∧
    ∀ parts target rest args, Level.top.Leads parts target →
      Arguments.parse (frontWords parts ++ rest) = .ok args →
      ∀ p, (∀ o ∈ pickedOut p parts, GivenOnce (frontWords parts ++ rest) o.argument) →
      ∀ moved : List GlobalOption, moved.Perm (pickedOut p parts) →
        Arguments.parse (frontWords (leftIn p parts) ++
          (moved.flatMap GlobalOption.words ++ rest)) = .ok args := by
  constructor
  · intro words args h
    obtain ⟨r, -, hread, -⟩ := parse_eq_ok_iff.1 h
    exact Level.exists_leads rfl .empty hread
  · intro parts target rest args hleads hparse p honce moved hmoved
    let movable := (pickedOut p parts).map GlobalOption.argument
    have hmovable : ∀ o ∈ pickedOut p parts, o.argument ∈ movable := by
      intro o ho
      exact List.mem_map_of_mem ho
    have hout := hleads.rereads_pickedOut p hmovable rest
    have horder : target.Rereads movable ((pickedOut p parts).flatMap GlobalOption.words ++ rest)
        (moved.flatMap GlobalOption.words ++ rest) :=
      Level.rereads_perm hmoved.symm movable rest
    refine parse_of_rereads (hout.trans (horder.behindParts (hleads.leftIn p))) ?_ hparse
    intro a ha
    obtain ⟨o, ho, rfl⟩ := List.mem_map.1 ha
    exact honce o ho

/-- A key that is also the name of a subcommand. -/
def CommandLine.GlobalOption.keyCheck : GlobalOption :=
  ⟨.apiKey, .apart "check", by decide, by decide⟩

def CommandLine.GlobalOption.sixAttempts : GlobalOption :=
  ⟨.maxAttempts, .attached "6", by decide, by decide⟩

def CommandLine.GlobalOption.seen : GlobalOption :=
  ⟨.headed, .bare, by decide, by decide⟩

/-- Options move between the name of a subcommand and an option of it that takes many texts. -/
theorem Arguments.parse_behind_import :
    let args : Arguments :=
      { apiKey := some "check", maxAttempts := 6, headed := true
        command := .importFrom "b.json" false ["a", "c"] }
    Arguments.parse ["--api-key", "check", "--headed", "--max-attempts=6", "import",
        "--only", "a", "c", "--", "b.json"] = .ok args ∧
      Arguments.parse ["--headed", "import", "--max-attempts=6", "--api-key", "check",
        "--only", "a", "c", "--", "b.json"] = .ok args := by
  intro args
  let words :=
    ["--api-key", "check", "--headed", "--max-attempts=6", "import", "--only", "a", "c", "--",
      "b.json"]
  have hparse : Arguments.parse words = .ok args := rfl
  have hleads : Level.top.Leads
      [.option .keyCheck, .option .seen, .option .sixAttempts, .name "import"] .importFrom :=
    .option _ (.option _ (.option _ (.name rfl)))
  refine ⟨hparse, Arguments.parse_behind_name.2 _ _ ["--only", "a", "c", "--", "b.json"] args hleads
    hparse (·.argument ≠ .headed) ?_ [.sixAttempts, .keyCheck] (.swap ..)⟩
  intro o ho
  obtain rfl | rfl : o = .keyCheck ∨ o = .sixAttempts := by
    simpa [pickedOut, Part.picked?, GlobalOption.keyCheck, GlobalOption.seen,
      GlobalOption.sixAttempts] using ho
  · exact ⟨_, rfl, rfl⟩
  · exact ⟨_, rfl, rfl⟩

end ShowScout
