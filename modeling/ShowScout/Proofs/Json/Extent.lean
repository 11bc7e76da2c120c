import Mathlib.Data.List.Forall2
import ShowScout.Proofs.Json.NumberExtent
import ShowScout.Proofs.Json.RoundTrip

/-!
# The extent of values

Whatever value a reader meets in a written document, it takes the whole text of the value and no
more, if it takes it at all. So the parts of a document are never mistaken for each other, even
where a value is not read back as it was written.
-/

namespace ShowScout.Json

/-! ## Texts of values -/

/-- What the text of a value starts with. -/
def Value.StartsWith (v : Value) (c : Char) : Prop :=
  match v with
  | .null => c = 'n'
  | .bool b => c = if b then 't' else 'f'
  | .number _ => StartsNumber c
  | .text _ => c = '"'
  | .list _ => c = '['
  | .object _ => c = '\x7b'

theorem Value.render_startsWith (f : Layout) (level : Nat) (v : Value) :
    ∃ c s, v.render f level = c :: s ∧ v.StartsWith c := by
  cases v with
  | null => exact ⟨'n', _, rfl, rfl⟩
  | bool b => cases b <;> exact ⟨_, _, rfl, rfl⟩
  | number n =>
    obtain ⟨c, s, htext, hstarts, -⟩ := scalar_leaves n
    exact ⟨c, s, by rw [Value.render, htext], hstarts⟩
  | text s => exact ⟨'"', _, rfl, rfl⟩
  | list items => cases items <;> exact ⟨'[', _, rfl, rfl⟩
  | object members => cases members <;> exact ⟨'\x7b', _, rfl, rfl⟩

namespace Value.StartsWith

variable {v : Value} {c : Char}

theorem plain (h : v.StartsWith c) : isBlank c = false ∧ c ≠ ']' := by
  cases v with
  | bool b => cases b <;> obtain rfl := h <;> decide
  | number n => exact ⟨StartsNumber.isBlank_eq_false h, StartsNumber.ne h (by decide)⟩
  | _ => obtain rfl := h; decide

theorem exists_text (h : v.StartsWith '"') : ∃ x, v = .text x := by
  cases v with
  | text x => exact ⟨x, rfl⟩
  | bool b => cases b <;> cases h
  | number n => exact absurd (show StartsNumber '"' from h) (by decide)
  | _ => cases h

theorem exists_bool (h : v.StartsWith 't' ∨ v.StartsWith 'f') : ∃ b, v = .bool b := by
  cases v with
  | bool b => exact ⟨b, rfl⟩
  | number n => exact absurd (show StartsNumber 't' ∨ StartsNumber 'f' from h) (by decide)
  | _ => rcases h with h | h <;> cases h

theorem eq_null (h : v.StartsWith 'n') : v = .null := by
  cases v with
  | null => rfl
  | bool b => cases b <;> cases h
  | number n => exact absurd (show StartsNumber 'n' from h) (by decide)
  | _ => cases h

end Value.StartsWith

theorem startsValue_render (f : Layout) (level : Nat) (v : Value) :
    StartsValue (v.render f level) := by
  obtain ⟨c, s, htext, hstarts⟩ := v.render_startsWith f level
  exact ⟨c, s, htext, hstarts.plain⟩

/-! ## Covered texts -/

section Readers

variable {α : Type} {r : Reader α} {levels level : Nat} {text : List Char} {P : α → Prop} {x : α}
  {f : Layout} {v : Value}

/-- If the reader takes the text at all, it takes all of it and no more, and gives something with
the property, whatever stands after the text and whatever blanks stand in front. -/
def Reader.Covers (r : Reader α) (levels : Nat) (text : List Char) (P : α → Prop) : Prop :=
  ∀ blanks rest, Blank blanks → Ends rest →
    Leaves P rest (r levels (blanks ++ (text ++ rest)))

theorem Reader.Accepts.covers (h : r.Accepts levels text x) (hx : P x) :
    r.Covers levels text P := by
  intro blanks rest hblanks hends
  rw [h.reads hblanks hends]
  exact leaves_ok hx

theorem text_covers (v : Value) : Json.text.Covers levels (v.render f level) Anything := by
  obtain ⟨c, s, htext, hstarts⟩ := v.render_startsWith f level
  by_cases hquote : c = '"'
  · subst hquote
    obtain ⟨x, rfl⟩ := hstarts.exists_text
    exact (text_accepts f levels level x).covers trivial
  · intro blanks rest hblanks _
    rw [htext, List.cons_append, Json.text, skipBlanks_append_cons hblanks hstarts.plain.1]
    simp only [if_neg hquote]
    exact leaves_error _

theorem flag_covers (v : Value) : flag.Covers levels (v.render f level) Anything := by
  obtain ⟨c, s, htext, hstarts⟩ := v.render_startsWith f level
  by_cases hletter : c = 't' ∨ c = 'f'
  · obtain ⟨b, rfl⟩ : ∃ b, v = .bool b := by
      obtain rfl | rfl := hletter
      · exact Value.StartsWith.exists_bool (.inl hstarts)
      · exact Value.StartsWith.exists_bool (.inr hstarts)
    exact (flag_accepts f levels level b).covers trivial
  · obtain ⟨htrue, hfalse⟩ := not_or.1 hletter
    intro blanks rest hblanks _
    rw [htext, List.cons_append, flag, skipBlanks_append_cons hblanks hstarts.plain.1]
    simp only [if_neg htrue, if_neg hfalse]
    exact leaves_error _

/-- Only `null` itself is not left to the reader. -/
theorem nullable_covers (h : r.Covers levels (v.render f level) Anything) :
    (nullable r).Covers levels (v.render f level) Anything := by
  obtain ⟨c, s, htext, hstarts⟩ := v.render_startsWith f level
  intro blanks rest hblanks hends
  have hread := h [] rest blank_nil hends
  -- the reader decides by the first letter, which no other value shares with `null`
  by_cases hnull : c = 'n'
  · subst hnull
    obtain rfl := hstarts.eq_null
    rw [Value.render, List.cons_append, nullable, skipBlanks_append_cons hblanks (by decide)]
    exact leaves_ok trivial
  · rw [htext, List.nil_append, List.cons_append] at hread
    rw [htext, List.cons_append, nullable, skipBlanks_append_cons hblanks hstarts.plain.1]
    split
    · rename_i heq
      exact absurd (List.cons.inj heq).1 hnull
    · exact hread.bind fun x _ => leaves_ok trivial

end Readers

/-! ## Lists -/

section Lists

variable {α β : Type} {r : Reader α} {toJson : β → Value} {levels level : Nat} {f : Layout}
  {xs : List β} {R : β → α → Prop}

theorem itemsFrom_leaves (hf : f.IsBlank) {outer fuel : Nat} {rest : List Char}
    (hitems : ∀ x ∈ xs, r.Covers levels ((toJson x).render f level) (R x)) :
    Leaves (List.Forall₂ R xs) rest (itemsFrom (r levels) fuel false
      (renderItems f level (xs.map toJson) ++ (f.gap outer ++ ']' :: rest))) := by
  -- without fuel the reader gives up, so there need not be enough for all items
  induction xs generalizing fuel with
  | nil =>
    cases fuel with
    | zero =>
      rw [itemsFrom]
      exact leaves_error _
    | succ fuel =>
      rw [List.map_nil, renderItems, List.nil_append, itemsFrom_close (hf.gap outer)]
      exact leaves_ok .nil
  | cons x xs ih =>
    cases fuel with
    | zero =>
      rw [itemsFrom]
      exact leaves_error _
    | succ fuel =>
      obtain ⟨hx, hxs⟩ := List.forall_mem_cons.1 hitems
      have hread := hx [] _ blank_nil (ends_renderItems hf level (xs.map toJson) outer rest)
      simp only [List.map_cons, renderItems, List.cons_append, List.append_assoc]
      rw [itemsFrom_comma (hf.gap level) (startsValue_render f level _), itemsFrom.more]
      exact hread.bind fun y hy => (ih hxs).bind fun ys hys => leaves_ok (.cons hy hys)

/-- What stands behind the opening bracket of a list is taken up to its closing bracket. -/
theorem listItems_leaves (hf : f.IsBlank)
    (hitems : ∀ x ∈ xs, r.Covers levels ((toJson x).render f (level + 1)) (R x)) :
    ∃ inner, (Value.list (xs.map toJson)).render f level = '[' :: inner ∧
      ∀ rest, Leaves (List.Forall₂ R xs) rest (listItems (r levels) (inner ++ rest)) := by
  cases xs with
  | nil =>
    refine ⟨[']'], rfl, fun rest => ?_⟩
    have hread : listItems (r levels) ([']'] ++ rest) = .ok ([], rest) := itemsFrom_close blank_nil
    rw [hread]
    exact leaves_ok .nil
  | cons x xs =>
    refine ⟨_, by rw [List.map_cons, Value.render], fun rest => ?_⟩
    obtain ⟨hx, hxs⟩ := List.forall_mem_cons.1 hitems
    have hread := hx [] _ blank_nil (ends_renderItems hf (level + 1) (xs.map toJson) level rest)
    simp only [List.append_assoc, List.singleton_append, listItems]
    rw [itemsFrom_first (hf.gap (level + 1)) (startsValue_render f (level + 1) _), itemsFrom.more]
    exact hread.bind fun y hy =>
      (itemsFrom_leaves hf hxs).bind fun ys hys => leaves_ok (.cons hy hys)

theorem listOf_covers (hf : f.IsBlank)
    (hitems : ∀ x ∈ xs, r.Covers levels ((toJson x).render f (level + 1)) (R x)) :
    (listOf r).Covers (levels + 1) ((Value.list (xs.map toJson)).render f level)
      (List.Forall₂ R xs) := by
  obtain ⟨inner, htext, hread⟩ := listItems_leaves hf hitems
  intro blanks rest hblanks _
  rw [htext, List.cons_append, listOf, skipBlanks_append_cons hblanks (by decide)]
  exact hread rest

end Lists

/-! ## Objects -/

section Members

variable {f : Layout} {level : Nat} {σ : Type} {P Q : σ → Prop} {members others : Members}
  {member : String → σ → List Char → Except Fault (σ × List Char)} {start : σ}

/-- Reading the given members one after another leads to something with the property, unless the
reader gives up before. -/
def LeadsTo (member : String → σ → List Char → Except Fault (σ × List Char)) (f : Layout)
    (level : Nat) (Q : σ → Prop) : Members → σ → Prop
  | [], collected => Q collected
  | (key, value) :: members, collected =>
    ∀ rest, Ends rest → Leaves (LeadsTo member f level Q members) rest
      (member key collected (f.colon ++ (value.render f level ++ rest)))

theorem LeadsTo.append
    (h : LeadsTo member f level (LeadsTo member f level Q others) members start) :
    LeadsTo member f level Q (members ++ others) start := by
  induction members generalizing start with
  | nil => exact h
  | cons m members ih => exact fun rest hends => (h rest hends).mono fun next hnext => ih hnext

/-- What every member keeps is kept by all of them. -/
theorem leadsTo_of_forall (hstart : P start)
    (h : ∀ m ∈ members, ∀ collected, P collected → ∀ rest, Ends rest →
      Leaves P rest (member m.1 collected (f.colon ++ (m.2.render f level ++ rest)))) :
    LeadsTo member f level P members start := by
  induction members generalizing start with
  | nil => exact hstart
  | cons m members ih =>
    obtain ⟨hm, hmembers⟩ := List.forall_mem_cons.1 h
    exact fun rest hends => (hm start hstart rest hends).mono fun next hnext => ih hnext hmembers

theorem Collects.leadsTo {final : σ} (h : Collects member f level start members final)
    (hfinal : Q final) : LeadsTo member f level Q members start := by
  induction h with
  | nil collected => exact hfinal
  | cons head _ ih =>
    intro rest hends
    rw [head rest hends]
    exact leaves_ok (ih hfinal)

theorem membersFrom_leaves (hf : f.IsBlank) {outer fuel : Nat} {rest : List Char}
    (h : LeadsTo member f level Q members start) :
    Leaves Q rest (membersFrom member fuel false start
      (renderMembers f level members ++ (f.gap outer ++ '\x7d' :: rest))) := by
  induction members generalizing fuel start with
  | nil =>
    cases fuel with
    | zero => exact leaves_error _
    | succ fuel =>
      rw [renderMembers, List.nil_append, membersFrom, nextKey_close (hf.gap outer)]
      exact leaves_ok h
  | cons m members ih =>
    cases fuel with
    | zero => exact leaves_error _
    | succ fuel =>
      have hhead := h _ (ends_renderMembers hf level members outer rest)
      simp only [renderMembers, List.cons_append, List.append_assoc]
      rw [membersFrom, nextKey_comma (hf.gap level)]
      exact hhead.bind fun next hnext => ih hnext

/-- What stands behind the opening brace of an object is taken up to its closing brace. -/
theorem objectMembers_leaves (hf : f.IsBlank)
    (h : LeadsTo member f (level + 1) Q members start) :
    ∃ inner, (Value.object members).render f level = '\x7b' :: inner ∧
      ∀ rest, Leaves Q rest (objectMembers member start (inner ++ rest)) := by
  cases members with
  | nil =>
    refine ⟨['\x7d'], rfl, fun rest => ?_⟩
    rw [objectMembers, membersFrom, List.singleton_append, ← List.nil_append (_ :: _),
      nextKey_close blank_nil]
    exact leaves_ok h
  | cons m members =>
    refine ⟨_, by rw [Value.render], fun rest => ?_⟩
    have hhead := h _ (ends_renderMembers hf (level + 1) members level rest)
    simp only [List.append_assoc, List.singleton_append, objectMembers]
    rw [membersFrom, nextKey_first (hf.gap (level + 1))]
    exact hhead.bind fun next hnext => membersFrom_leaves hf hnext

end Members

/-! ## Values of free form -/

/-- A value that is neither a list nor an object is covered by what it starts with. -/
theorem anything_covers_scalar {levels : Nat} {c : Char} {s : List Char}
    (hblank : isBlank c = false) (hlist : c ≠ '[') (hobject : c ≠ '\x7b')
    (h : ∀ rest, Ends rest → Leaves Anything rest (scalar c (s ++ rest))) :
    anything.Covers levels (c :: s) Anything := by
  intro blanks rest hblanks hends
  rw [List.cons_append]
  unfold anything
  rw [skipBlanks_append_cons hblanks hblank]
  simp only [if_neg hlist, if_neg hobject]
  exact h rest hends

theorem anything_covers_number (levels : Nat) (n : Number) :
    anything.Covers levels n.text Anything := by
  obtain ⟨c, s, htext, hstarts, hscalar⟩ := scalar_leaves n
  rw [htext]
  exact anything_covers_scalar hstarts.isBlank_eq_false (hstarts.ne (by decide))
    (hstarts.ne (by decide)) hscalar

/-- A value that fits and holds no number is read right, and so it is covered. -/
theorem anything_covers_of_fits {f : Layout} (hf : f.IsBlank) {levels : Nat} {v : Value}
    (h : v.Fits levels) (hnone : v.numbers = []) (level : Nat) :
    anything.Covers levels (v.render f level) Anything :=
  (anything_accepts hf h (by simp [hnone]) level).covers trivial

/-- Any value is covered, be it one that can be read or not. -/
theorem anything_covers {f : Layout} (hf : f.IsBlank) (levels level : Nat) (v : Value) :
    anything.Covers levels (v.render f level) Anything := by
  -- the parts of a list or an object have one level less than it has, if it has any
  induction levels using Nat.strongRecOn generalizing level v with
  | ind levels ih =>
  cases v with
  | null => exact anything_covers_of_fits hf (.null levels) rfl level
  | bool b => exact anything_covers_of_fits hf (.bool levels b) rfl level
  | text x => exact anything_covers_of_fits hf (.text levels x) rfl level
  | number n =>
    rw [Value.render]
    exact anything_covers_number levels n
  | list items =>
    intro blanks rest hblanks _
    cases levels with
    | zero =>
      obtain ⟨_, inner, htext, rfl⟩ := Value.render_startsWith f level (.list items)
      rw [htext, List.cons_append]
      unfold anything
      rw [skipBlanks_append_cons hblanks (by decide)]
      exact leaves_error _
    | succ levels =>
      obtain ⟨inner, htext, hread⟩ := listItems_leaves (R := fun _ => Anything) hf
        fun v (_ : v ∈ items) => ih levels (Nat.lt_succ_self levels) (level + 1) v
      rw [List.map_id'] at htext
      rw [htext, List.cons_append]
      unfold anything
      rw [skipBlanks_append_cons hblanks (by decide)]
      exact (hread rest).bind fun items _ => leaves_ok trivial
  | object members =>
    intro blanks rest hblanks _
    cases levels with
    | zero =>
      obtain ⟨_, inner, htext, rfl⟩ := Value.render_startsWith f level (.object members)
      rw [htext, List.cons_append]
      unfold anything
      rw [skipBlanks_append_cons hblanks (by decide)]
      exact leaves_error _
    | succ levels =>
      have hmembers : LeadsTo (anyMember levels) f (level + 1) Anything members [] := by
        refine leadsTo_of_forall trivial fun m _ collected _ rest hends => ?_
        obtain ⟨blanks, hblanks, hcolon⟩ := colon_layout hf
        have hvalue := ih levels (Nat.lt_succ_self levels) (level + 1) m.2
        simp only [anyMember, hcolon, bind, Except.bind]
        exact (hvalue blanks rest hblanks hends).bind fun value _ => leaves_ok trivial
      obtain ⟨inner, htext, hread⟩ := objectMembers_leaves hf hmembers
      rw [htext, List.cons_append]
      unfold anything
      rw [skipBlanks_append_cons hblanks (by decide)]
      exact (hread rest).bind fun members _ => leaves_ok trivial

/-! ## Records -/

section Records

variable {f : Layout} {level levels : Nat} {σ : Type} {r : Record σ} {key : String} {value : Value}
  {start : σ} {rest : List Char} {Q : σ → Prop} {members : Members}

/-- A field that has been given before is not read again, and one that has not is set. -/
theorem member_field_leaves {α : Type} {get : σ → Option α} {reader : Reader α} {set : α → σ → σ}
    {R : α → Prop} (hf : f.IsBlank) (hends : Ends rest)
    (hfield : r.field? key = some (.ofSetter get reader set))
    (h : reader.Covers levels (value.render f level) R)
    (hset : get start = none → ∀ x, R x → Q (set x start)) :
    Leaves Q rest
      (r.member levels key start (f.colon ++ (value.render f level ++ rest))) := by
  obtain ⟨blanks, hblanks, hcolon⟩ := colon_layout hf
  unfold Record.member
  simp only [hfield, hcolon]
  split
  · exact leaves_error _
  · rename_i hgiven
    have hget : get start = none := by simpa [Field.ofSetter] using hgiven
    have hread : Leaves (fun change => Q (change start)) rest
        ((Field.ofSetter get reader set).read levels
          (blanks ++ (value.render f level ++ rest))) :=
      (h blanks rest hblanks hends).bind fun x hx => leaves_ok (hset hget x hx)
    exact hread.bind fun change hchange => leaves_ok hchange

/-- What a member of an unknown key is put to does not depend on its value being read right. -/
theorem member_other_leaves (hf : f.IsBlank) (hends : Ends rest) (hfield : r.field? key = none)
    (hother : ∀ value, Q (r.other key value start)) :
    Leaves Q rest
      (r.member levels key start (f.colon ++ (value.render f level ++ rest))) := by
  obtain ⟨blanks, hblanks, hcolon⟩ := colon_layout hf
  unfold Record.member
  simp only [hfield, hcolon]
  exact (anything_covers hf levels level value blanks rest hblanks hends).bind
    fun value _ => leaves_ok (hother value)

/-- A record is taken as a whole, and gives what its members lead to. -/
theorem record_covers (hf : f.IsBlank)
    (h : LeadsTo (r.member levels) f (level + 1) Q members r.start) :
    (record r).Covers (levels + 1) ((Value.object members).render f level) Q := by
  obtain ⟨inner, htext, hread⟩ := objectMembers_leaves hf h
  intro blanks rest hblanks _
  rw [htext, List.cons_append, record, skipBlanks_append_cons hblanks (by decide)]
  exact hread rest

end Records

/-! ## Documents -/

/-- What a document is read as has the property. -/
theorem readDocument_of_covers {α : Type} {r : Reader α} {text : List Char} {P : α → Prop} {x : α}
    (h : r.Covers levelLimit text P) (hread : readDocument r (.ofList text) = .ok x) : P x := by
  have hleaves := h [] [] blank_nil ends_nil
  rw [List.append_nil, List.nil_append] at hleaves
  unfold readDocument at hread
  simp only [String.toList_ofList] at hread
  split at hread
  · cases hread
  · rename_i hr
    obtain ⟨rfl, hx⟩ := hleaves _ _ hr
    cases hread
    exact hx

end ShowScout.Json
