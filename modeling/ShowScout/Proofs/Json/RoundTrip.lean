import Mathlib.Data.List.Forall2
import ShowScout.Proofs.Json.Scalars

/-!
# Documents read back

Readers take what was written for a value for that value. Said of one reader at a time, so that the
reader of a list accepts what is written for a list if the reader of its items accepts what is
written for the items, and a record is read member by member, whatever its fields are.
-/

namespace ShowScout.Json

/-! ## Blanks -/

/-- A text of blanks only. -/
def Blank (s : List Char) : Prop :=
  ∀ c ∈ s, isBlank c

theorem blank_nil : Blank [] :=
  nofun

/-- A layout that sets the parts of a document apart by blanks. -/
structure Layout.IsBlank (f : Layout) : Prop where
  gap : ∀ level, Blank (f.gap level)
  colon : ∃ blanks, f.colon = ':' :: blanks ∧ Blank blanks

theorem Layout.pretty_isBlank : Layout.pretty.IsBlank where
  gap level c hc := by
    rcases List.mem_cons.1 hc with rfl | hc
    · rfl
    · rw [List.eq_of_mem_replicate hc]
      rfl
  colon := ⟨[' '], rfl, by simp [Blank, isBlank]⟩

section Blanks

variable {blanks s rest : List Char} {c : Char}

theorem skipBlanks_cons (h : isBlank c = false) : skipBlanks (c :: s) = c :: s := by
  simp [skipBlanks, h]

theorem skipBlanks_append (hblanks : Blank blanks) (s : List Char) :
    skipBlanks (blanks ++ s) = skipBlanks s := by
  rw [skipBlanks, List.dropWhile_append_of_pos hblanks]
  rfl

theorem skipBlanks_append_cons (hblanks : Blank blanks) (h : isBlank c = false) :
    skipBlanks (blanks ++ c :: s) = c :: s := by
  rw [skipBlanks_append hblanks, skipBlanks_cons h]

theorem ends_append (hblanks : Blank blanks) (h : Ends rest) : Ends (blanks ++ rest) := by
  cases blanks with
  | nil => exact h
  | cons b blanks => exact ends_of_isBlank (hblanks b (by simp))

end Blanks

/-! ## Accepted texts -/

/-- What the text of a value starts with: it is no blank, and does not close a list. -/
def StartsValue (text : List Char) : Prop :=
  ∃ c s, text = c :: s ∧ isBlank c = false ∧ c ≠ ']'

/-- The reader takes the text for the value, whatever stands after it and whatever blanks stand in
front. -/
structure Reader.Accepts {α : Type} (r : Reader α) (levels : Nat) (text : List Char) (x : α) :
    Prop where
  starts : StartsValue text
  reads : ∀ {blanks rest}, Blank blanks → Ends rest →
    r levels (blanks ++ (text ++ rest)) = .ok (x, rest)

theorem text_accepts (f : Layout) (levels level : Nat) (x : String) :
    text.Accepts levels ((Value.text x).render f level) x := by
  rw [Value.render, stringText]
  refine ⟨⟨'"', _, rfl, by decide, by decide⟩, fun hblanks _ => ?_⟩
  rw [List.cons_append, text, skipBlanks_append_cons hblanks (by decide)]
  simp only [if_true, List.append_assoc, List.singleton_append, stringBody_stringText]

theorem flag_accepts (f : Layout) (levels level : Nat) (b : Bool) :
    flag.Accepts levels ((Value.bool b).render f level) b := by
  cases b with
  | true =>
    refine ⟨⟨'t', _, rfl, by decide, by decide⟩, fun hblanks _ => ?_⟩
    rw [Value.render, List.cons_append, flag, skipBlanks_append_cons hblanks (by decide)]
    rfl
  | false =>
    refine ⟨⟨'f', _, rfl, by decide, by decide⟩, fun hblanks _ => ?_⟩
    rw [Value.render, List.cons_append, flag, skipBlanks_append_cons hblanks (by decide)]
    rfl

/-- A text that does not start like `null` is read as a value. -/
theorem nullable_accepts {α : Type} {r : Reader α} {levels : Nat} {text : List Char} {x : α}
    (h : r.Accepts levels text x) (hn : text.head? ≠ some 'n') :
    (nullable r).Accepts levels text (some x) where
  starts := h.starts
  reads hblanks hends := by
    obtain ⟨c, s, rfl, hblank, -⟩ := h.starts
    have hread := h.reads blank_nil hends
    have hc : c ≠ 'n' := fun heq => hn (by rw [heq]; rfl)
    rw [List.nil_append, List.cons_append] at hread
    rw [List.cons_append, nullable, skipBlanks_append_cons hblanks hblank]
    split
    · rename_i heq
      exact absurd (List.cons.inj heq).1 hc
    · rw [hread]
      rfl

/-! ## Lists -/

section Items

variable {α : Type} {item : List Char → Except Fault (α × List Char)} {fuel : Nat} {isFirst : Bool}
  {blanks rest : List Char}

theorem itemsFrom_close (hblanks : Blank blanks) :
    itemsFrom item (fuel + 1) isFirst (blanks ++ ']' :: rest) = .ok ([], rest) := by
  rw [itemsFrom, skipBlanks_append_cons hblanks (by decide)]
  rfl

theorem itemsFrom_first {text : List Char} (hblanks : Blank blanks) (h : StartsValue text) :
    itemsFrom item (fuel + 1) true (blanks ++ (text ++ rest)) =
      itemsFrom.more item fuel (text ++ rest) := by
  obtain ⟨c, s, rfl, hblank, hc⟩ := h
  rw [List.cons_append, itemsFrom, skipBlanks_append_cons hblanks hblank]
  simp only [if_neg hc, if_true]

theorem itemsFrom_comma {text : List Char} (hblanks : Blank blanks) (h : StartsValue text) :
    itemsFrom item (fuel + 1) false (',' :: (blanks ++ (text ++ rest))) =
      itemsFrom.more item fuel (text ++ rest) := by
  obtain ⟨c, s, rfl, hblank, hc⟩ := h
  rw [List.cons_append, itemsFrom, skipBlanks_cons (by decide)]
  simp [skipBlanks_append_cons hblanks hblank, hc]

end Items

section Lists

variable {f : Layout} {α : Type} {r : Reader α} {toJson : α → Value} {levels level : Nat}

theorem ends_renderItems (hf : f.IsBlank) (level : Nat) (items : List Value) (outer : Nat)
    (rest : List Char) :
    Ends (renderItems f level items ++ (f.gap outer ++ ']' :: rest)) := by
  cases items with
  | nil =>
    rw [renderItems, List.nil_append]
    exact ends_append (hf.gap outer) (ends_cons (by decide))
  | cons item items => exact ends_cons (by decide)

theorem more_renderItems (hf : f.IsBlank) {outer fuel : Nat} {item : Value} {items : List Value}
    {x : α} {xs : List α} {rest : List Char}
    (hitems : List.Forall₂ (fun v y => r.Accepts levels (v.render f level) y) (item :: items)
      (x :: xs))
    (hfuel : items.length < fuel) :
    itemsFrom.more (r levels) fuel (item.render f level ++
      (renderItems f level items ++ (f.gap outer ++ ']' :: rest))) = .ok (x :: xs, rest) := by
  obtain ⟨hx, hxs⟩ := List.forall₂_cons.1 hitems
  -- an item ends where the text of the further items begins, or the closing bracket
  induction hxs generalizing item x fuel with
  | nil =>
    obtain ⟨fuel, rfl⟩ := Nat.exists_eq_add_one_of_ne_zero (Nat.ne_of_gt hfuel)
    have hread := hx.reads blank_nil (ends_renderItems hf level [] outer rest)
    rw [List.nil_append] at hread
    rw [itemsFrom.more, hread]
    simp only [bind, Except.bind, renderItems, List.nil_append, itemsFrom_close (hf.gap outer)]
    rfl
  | @cons next y items ys hy hys ih =>
    obtain ⟨fuel, rfl⟩ := Nat.exists_eq_add_one_of_ne_zero (Nat.ne_zero_of_lt hfuel)
    have hread := hx.reads blank_nil (ends_renderItems hf level (next :: items) outer rest)
    have hrest := ih (.cons hy hys) (Nat.lt_of_succ_lt_succ hfuel) hy
    rw [List.nil_append] at hread
    rw [itemsFrom.more, hread]
    simp only [bind, Except.bind, renderItems, List.cons_append, List.append_assoc,
      itemsFrom_comma (hf.gap level) hy.starts, hrest]
    rfl

theorem length_le_renderItems (f : Layout) (level : Nat) (items : List Value) :
    items.length ≤ (renderItems f level items).length := by
  induction items with
  | nil => exact Nat.le_refl _
  | cons item items ih =>
    rw [renderItems, List.length_cons, List.length_cons, List.length_append, List.length_append]
    omega

/-- What stands behind the opening bracket of a list is read as what its items are read as. -/
theorem listItems_render (hf : f.IsBlank) {items : List Value} {xs : List α}
    (hitems : List.Forall₂ (fun v x => r.Accepts levels (v.render f (level + 1)) x) items xs) :
    ∃ inner, (Value.list items).render f level = '[' :: inner ∧
      ∀ rest, listItems (r levels) (inner ++ rest) = .ok (xs, rest) := by
  cases hitems with
  | nil =>
    refine ⟨[']'], rfl, fun rest => ?_⟩
    exact itemsFrom_close blank_nil
  | @cons item x items xs hx hxs =>
    refine ⟨_, by rw [Value.render], fun rest => ?_⟩
    have hlength := length_le_renderItems f (level + 1) items
    simp only [List.append_assoc, List.singleton_append, listItems]
    rw [itemsFrom_first (hf.gap (level + 1)) hx.starts]
    apply more_renderItems hf (.cons hx hxs)
    simp only [List.length_append, List.length_cons]
    omega

theorem listOf_accepts (hf : f.IsBlank) {xs : List α}
    (hitems : ∀ x ∈ xs, r.Accepts levels ((toJson x).render f (level + 1)) x) :
    (listOf r).Accepts (levels + 1) ((Value.list (xs.map toJson)).render f level) xs := by
  have hmapped : List.Forall₂ (fun v x => r.Accepts levels (v.render f (level + 1)) x)
      (xs.map toJson) xs :=
    List.forall₂_map_left_iff.2 (List.forall₂_same.2 hitems)
  obtain ⟨inner, htext, hread⟩ := listItems_render hf hmapped
  refine ⟨⟨'[', inner, htext, by decide, by decide⟩, fun {_ rest} hblanks _ => ?_⟩
  rw [htext, List.cons_append, listOf, skipBlanks_append_cons hblanks (by decide)]
  exact hread rest

end Lists

/-! ## Objects -/

section Keys

variable {blanks rest : List Char} {isFirst : Bool}

theorem nextKey_close (hblanks : Blank blanks) :
    nextKey isFirst (blanks ++ '\x7d' :: rest) = .ok (none, rest) := by
  rw [nextKey, skipBlanks_append_cons hblanks (by decide)]
  rfl

theorem nextKey_first (hblanks : Blank blanks) (key : String) (rest : List Char) :
    nextKey true (blanks ++ (stringText key ++ rest)) = .ok (some key, rest) := by
  rw [nextKey, stringText, List.cons_append, skipBlanks_append_cons hblanks (by decide)]
  simp [stringBody_stringText, bind, Except.bind, pure, Except.pure]

theorem nextKey_comma (hblanks : Blank blanks) (key : String) (rest : List Char) :
    nextKey false (',' :: (blanks ++ (stringText key ++ rest))) = .ok (some key, rest) := by
  rw [nextKey, stringText, List.cons_append, skipBlanks_cons (by decide)]
  simp [skipBlanks_append_cons hblanks (c := '"') (by decide), stringBody_stringText, bind,
    Except.bind, pure, Except.pure]

theorem colon_layout {f : Layout} (hf : f.IsBlank) :
    ∃ blanks, Blank blanks ∧ ∀ rest, colon (f.colon ++ rest) = .ok (blanks ++ rest) := by
  obtain ⟨blanks, hcolon, hblanks⟩ := hf.colon
  refine ⟨blanks, hblanks, fun rest => ?_⟩
  rw [hcolon, List.cons_append, colon, skipBlanks_cons (by decide)]
  rfl

end Keys

section Members

variable {f : Layout} {level : Nat} {σ : Type}
  {member : String → σ → List Char → Except Fault (σ × List Char)}

/-- Reading the given members one after another leads from the first to the last state of what is
collected. -/
inductive Collects (member : String → σ → List Char → Except Fault (σ × List Char)) (f : Layout)
    (level : Nat) : σ → Members → σ → Prop
  | nil (collected : σ) : Collects member f level collected [] collected
  | cons {key : String} {value : Value} {members : Members} {start next final : σ}
      (head : ∀ rest, Ends rest →
        member key start (f.colon ++ (value.render f level ++ rest)) = .ok (next, rest))
      (tail : Collects member f level next members final) :
      Collects member f level start ((key, value) :: members) final

theorem Collects.append {start next final : σ} {members others : Members}
    (h : Collects member f level start members next)
    (h' : Collects member f level next others final) :
    Collects member f level start (members ++ others) final := by
  induction h with
  | nil => exact h'
  | cons head _ ih => exact .cons head (ih h')

theorem ends_renderMembers (hf : f.IsBlank) (level : Nat) (members : Members) (outer : Nat)
    (rest : List Char) :
    Ends (renderMembers f level members ++ (f.gap outer ++ '\x7d' :: rest)) := by
  cases members with
  | nil =>
    rw [renderMembers, List.nil_append]
    exact ends_append (hf.gap outer) (ends_cons (by decide))
  | cons member members => exact ends_cons (by decide)

theorem membersFrom_renderMembers (hf : f.IsBlank) {outer fuel : Nat} {start final : σ}
    {members : Members} {rest : List Char} (h : Collects member f level start members final)
    (hfuel : members.length < fuel) :
    membersFrom member fuel false start
      (renderMembers f level members ++ (f.gap outer ++ '\x7d' :: rest)) = .ok (final, rest) := by
  -- every member takes one step of the fuel, and the closing brace the last one
  induction h generalizing fuel with
  | nil collected =>
    obtain ⟨fuel, rfl⟩ := Nat.exists_eq_add_one_of_ne_zero (Nat.ne_of_gt hfuel)
    rw [renderMembers, List.nil_append, membersFrom, nextKey_close (hf.gap outer)]
    rfl
  | @cons key value members start next final head _ ih =>
    obtain ⟨fuel, rfl⟩ := Nat.exists_eq_add_one_of_ne_zero (Nat.ne_zero_of_lt hfuel)
    have hhead := head _ (ends_renderMembers hf level members outer rest)
    simp only [renderMembers, List.cons_append, List.append_assoc]
    rw [membersFrom, nextKey_comma (hf.gap level)]
    simp only [bind, Except.bind, hhead]
    exact ih (Nat.lt_of_succ_lt_succ hfuel)

theorem length_le_renderMembers (f : Layout) (level : Nat) (members : Members) :
    members.length ≤ (renderMembers f level members).length := by
  induction members with
  | nil => exact Nat.le_refl _
  | cons member members ih =>
    obtain ⟨key, value⟩ := member
    simp only [renderMembers, List.length_cons, List.length_append]
    omega

/-- What stands behind the opening brace of an object is read as its members. -/
theorem objectMembers_render (hf : f.IsBlank) {start final : σ} {members : Members}
    (h : Collects member f (level + 1) start members final) :
    ∃ inner, (Value.object members).render f level = '\x7b' :: inner ∧
      ∀ rest, objectMembers member start (inner ++ rest) = .ok (final, rest) := by
  cases h with
  | nil =>
    refine ⟨['\x7d'], rfl, fun rest => ?_⟩
    rw [objectMembers, membersFrom, List.singleton_append, ← List.nil_append (_ :: _),
      nextKey_close blank_nil]
    rfl
  | @cons key value members _ next _ head tail =>
    refine ⟨_, by rw [Value.render], fun rest => ?_⟩
    have hhead := head _ (ends_renderMembers hf (level + 1) members level rest)
    have hlength := length_le_renderMembers f (level + 1) members
    simp only [List.append_assoc, List.singleton_append, objectMembers]
    rw [membersFrom, nextKey_first (hf.gap (level + 1))]
    simp only [bind, Except.bind, hhead]
    apply membersFrom_renderMembers hf tail
    simp only [List.length_append, List.length_cons]
    omega

end Members

/-! ## Sorted members -/

/-- Members that are sorted already are collected in their order. -/
theorem collects_sorted {f : Layout} {level : Nat} {σ : Type}
    {member : String → σ → List Char → Except Fault (σ × List Char)} (put : Members → σ)
    (earlier : Members) {members : Members} (hsorted : (earlier ++ members).Sorted)
    (hstep : ∀ m ∈ members, ∀ collected rest, Ends rest →
      member m.1 (put collected) (f.colon ++ (m.2.render f level ++ rest)) =
        .ok (put (collected.insert m.1 m.2), rest)) :
    Collects member f level (put earlier) members (put (earlier ++ members)) := by
  -- all that has been put lies before the rest, so the next key goes to the end
  induction members generalizing earlier with
  | nil =>
    rw [List.append_nil]
    exact .nil _
  | cons m members ih =>
    have hbefore : ∀ m' ∈ earlier, m'.1 < m.1 :=
      fun m' hm' => (List.pairwise_append.1 hsorted).2.2 m' hm' m (by simp)
    rw [List.append_cons] at hsorted ⊢
    rw [← Members.insert_of_forall_lt hbefore] at hsorted ⊢
    exact .cons (hstep m (by simp) earlier) (ih _ hsorted fun m' hm' => hstep m' (by simp [hm']))

/-! ## Values of free form -/

mutual

/-- The numbers that stand anywhere in a value. -/
def Value.numbers : Value → List Number
  | .null => []
  | .bool _ => []
  | .number n => [n]
  | .text _ => []
  | .list items => numbersOfItems items
  | .object members => numbersOfMembers members

def numbersOfItems : List Value → List Number
  | [] => []
  | item :: items => item.numbers ++ numbersOfItems items

def numbersOfMembers : List (String × Value) → List Number
  | [] => []
  | (_, value) :: members => value.numbers ++ numbersOfMembers members

end

theorem mem_numbersOfItems {items : List Value} {item : Value} {n : Number} (h : item ∈ items)
    (hn : n ∈ item.numbers) : n ∈ numbersOfItems items := by
  induction items with
  | nil => cases h
  | cons first items ih =>
    rw [numbersOfItems]
    rcases List.mem_cons.1 h with rfl | h
    · exact List.mem_append_left _ hn
    · exact List.mem_append_right _ (ih h)

theorem mem_numbersOfMembers {members : Members} {m : String × Value} {n : Number} (h : m ∈ members)
    (hn : n ∈ m.2.numbers) : n ∈ numbersOfMembers members := by
  induction members with
  | nil => cases h
  | cons first members ih =>
    obtain ⟨key, value⟩ := first
    rw [numbersOfMembers]
    rcases List.mem_cons.1 h with rfl | h
    · exact List.mem_append_left _ hn
    · exact List.mem_append_right _ (ih h)

/-- A value that is neither a list nor an object is read by what it starts with. -/
theorem anything_accepts_scalar {levels : Nat} {c : Char} {s : List Char} {v : Value}
    (hblank : isBlank c = false) (hlist : c ≠ '[') (hobject : c ≠ '\x7b') (hclose : c ≠ ']')
    (h : ∀ rest, Ends rest → scalar c (s ++ rest) = .ok (v, rest)) :
    anything.Accepts levels (c :: s) v where
  starts := ⟨c, s, rfl, hblank, hclose⟩
  reads {_ rest} hblanks hends := by
    rw [List.cons_append]
    unfold anything
    rw [skipBlanks_append_cons hblanks hblank]
    simp only [if_neg hlist, if_neg hobject]
    exact h rest hends

theorem anything_accepts_number {levels : Nat} {n : Number} (hrange : n.InRange)
    (hwhole : n.isWhole) : anything.Accepts levels n.text (.number n) := by
  obtain ⟨c, s, htext, hstarts, hscalar⟩ := scalar_number hrange hwhole
  rw [htext]
  exact anything_accepts_scalar hstarts.isBlank_eq_false (hstarts.ne (by decide))
    (hstarts.ne (by decide)) (hstarts.ne (by decide)) hscalar

/-- A list of free form is read if its items are. -/
theorem anything_accepts_list {f : Layout} (hf : f.IsBlank) {levels level : Nat}
    {items xs : List Value}
    (hitems : List.Forall₂ (fun v x => anything.Accepts levels (v.render f (level + 1)) x)
      items xs) :
    anything.Accepts (levels + 1) ((Value.list items).render f level) (.list xs) := by
  obtain ⟨inner, htext, hread⟩ := listItems_render hf hitems
  refine ⟨⟨'[', inner, htext, by decide, by decide⟩, fun {_ rest} hblanks _ => ?_⟩
  rw [htext, List.cons_append]
  unfold anything
  rw [skipBlanks_append_cons hblanks (by decide)]
  simp only [if_true, hread]
  rfl

/-- Reads a member of an object of free form. -/
def anyMember (levels : Nat) (key : String) (members : Members) (s : List Char) :
    Except Fault (Members × List Char) := do
  let (value, s) ← anything levels (← colon s)
  return (members.insert key value, s)

theorem anyMember_eq_ok {f : Layout} (hf : f.IsBlank) {levels level : Nat} {value v : Value}
    (h : anything.Accepts levels (value.render f level) v) (key : String) (members : Members)
    {rest : List Char} (hends : Ends rest) :
    anyMember levels key members (f.colon ++ (value.render f level ++ rest)) =
      .ok (members.insert key v, rest) := by
  obtain ⟨blanks, hblanks, hcolon⟩ := colon_layout hf
  simp only [anyMember, hcolon, bind, Except.bind, h.reads hblanks hends]
  rfl

/-- An object of free form is read as what its members are collected to. -/
theorem anything_accepts_object {f : Layout} (hf : f.IsBlank) {levels level : Nat}
    {members final : Members}
    (h : Collects (anyMember levels) f (level + 1) [] members final) :
    anything.Accepts (levels + 1) ((Value.object members).render f level) (.object final) := by
  obtain ⟨inner, htext, hread⟩ := objectMembers_render hf h
  refine ⟨⟨'\x7b', inner, htext, by decide, by decide⟩, fun {_ rest} hblanks _ => ?_⟩
  rw [htext, List.cons_append]
  unfold anything
  rw [skipBlanks_append_cons hblanks (by decide)]
  simp only [if_true, if_neg (show '\x7b' ≠ '[' by decide)]
  exact congrArg (· >>= fun read => pure (Value.object read.1, read.2)) (hread rest)

/-- A value that fits a document and holds whole numbers only is read back. -/
theorem anything_accepts {f : Layout} (hf : f.IsBlank) {levels : Nat} {v : Value}
    (h : v.Fits levels) (hwhole : ∀ n ∈ v.numbers, n.isWhole) (level : Nat) :
    anything.Accepts levels (v.render f level) v := by
  -- not on the value: that it fits says how deep it is and that its members are sorted
  induction h generalizing level with
  | null levels =>
    rw [Value.render]
    exact anything_accepts_scalar (by decide) (by decide) (by decide) (by decide) fun _ _ => rfl
  | bool levels b =>
    cases b <;> rw [Value.render] <;>
      exact anything_accepts_scalar (by decide) (by decide) (by decide) (by decide) fun _ _ => rfl
  | number levels hrange =>
    rw [Value.render]
    exact anything_accepts_number hrange (hwhole _ (by simp [Value.numbers]))
  | text levels s =>
    rw [Value.render, stringText]
    refine anything_accepts_scalar (by decide) (by decide) (by decide) (by decide) fun rest _ => ?_
    simp [scalar, stringBody_stringText, bind, Except.bind, pure, Except.pure]
  | list _ ih =>
    refine anything_accepts_list hf (List.forall₂_same.2 fun v hv => ?_)
    exact ih v hv (fun n hn => hwhole n (mem_numbersOfItems hv hn)) (level + 1)
  | object hsorted _ ih =>
    refine anything_accepts_object hf (collects_sorted id [] hsorted ?_)
    intro m hm collected rest hends
    have haccepts := ih m hm (fun n hn => hwhole n (mem_numbersOfMembers hm hn)) (level + 1)
    exact anyMember_eq_ok hf haccepts m.1 collected hends

/-! ## Records -/

section Records

variable {f : Layout} {level levels : Nat} {σ : Type} {r : Record σ} {key : String} {value : Value}
  {d final : σ} {members : Members}

/-- A known field that has not been given yet is set. -/
theorem collects_field {α : Type} {get : σ → Option α} {reader : Reader α} {set : α → σ → σ} {x : α}
    (hf : f.IsBlank) (hfield : r.field? key = some (.ofSetter get reader set)) (hget : get d = none)
    (h : reader.Accepts levels (value.render f level) x) (hfinal : final = set x d) :
    Collects (r.member levels) f level d [(key, value)] final := by
  subst hfinal
  refine .cons (fun rest hends => ?_) (.nil _)
  obtain ⟨blanks, hblanks, hcolon⟩ := colon_layout hf
  unfold Record.member
  simp only [hfield, Field.ofSetter, hget, Option.isSome_none, Bool.false_eq_true, if_false, hcolon,
    bind, Except.bind, h.reads hblanks hends]
  rfl

/-- Members of unknown keys are put where they belong. -/
theorem collects_others (put : Members → σ) (hf : f.IsBlank)
    (hput : ∀ key value collected,
      r.other key value (put collected) = put (collected.insert key value))
    (hfield : ∀ m ∈ members, (r.field? m.1).isNone) (hsorted : members.Sorted)
    (hfits : ∀ m ∈ members, m.2.Fits levels) (hwhole : ∀ n ∈ numbersOfMembers members, n.isWhole) :
    Collects (r.member levels) f level (put []) members (put members) := by
  refine collects_sorted put [] hsorted fun m hm collected rest hends => ?_
  obtain ⟨blanks, hblanks, hcolon⟩ := colon_layout hf
  have haccepts := anything_accepts hf (hfits m hm)
    (fun n hn => hwhole n (mem_numbersOfMembers hm hn)) level
  unfold Record.member
  simp only [Option.isNone_iff_eq_none.1 (hfield m hm), hcolon, bind, Except.bind,
    haccepts.reads hblanks hends, ← hput]
  rfl

/-- A record is read back as what its members are collected to. -/
theorem record_accepts (hf : f.IsBlank)
    (h : Collects (r.member levels) f (level + 1) r.start members final) :
    (record r).Accepts (levels + 1) ((Value.object members).render f level) final := by
  obtain ⟨inner, htext, hread⟩ := objectMembers_render hf h
  refine ⟨⟨'\x7b', inner, htext, by decide, by decide⟩, fun {_ rest} hblanks _ => ?_⟩
  rw [htext, List.cons_append, record, skipBlanks_append_cons hblanks (by decide)]
  exact hread rest

end Records

/-! ## Documents -/

/-- A document is read back if its reader accepts its text. -/
theorem readDocument_of_accepts {α : Type} {r : Reader α} {text : List Char} {x : α}
    (h : r.Accepts levelLimit text x) : readDocument r (.ofList text) = .ok x := by
  have hread := h.reads blank_nil ends_nil
  rw [List.append_nil, List.nil_append] at hread
  simp only [readDocument, String.toList_ofList, hread]
  rfl

end ShowScout.Json
