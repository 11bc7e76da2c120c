import ShowScout.Regex.Search

/-!
# Recorded positions

A search records where it is, and it is nowhere behind the text. So a group that took part in a
match stands for a part of the text.
-/

namespace ShowScout.Regex

variable {p : Program} {position n m : Nat} {slots : Slots} {threads waiting : List Thread}

/-! ## Bounds -/

/-- No position behind the `n`th character is recorded. -/
def Slots.UpTo (n : Nat) (slots : Slots) : Prop :=
  ∀ position, some position ∈ slots → position ≤ n

namespace Slots

theorem UpTo.mono (h : UpTo n slots) (hle : n ≤ m) : UpTo m slots :=
  fun position hmem => Nat.le_trans (h position hmem) hle

theorem upTo_replicate (n size : Nat) : UpTo n (Array.replicate size none) := by
  intro position hmem
  cases (Array.mem_replicate.1 hmem).2

theorem UpTo.record (h : UpTo n slots) (slot : Nat) :
    UpTo n (slots.setIfInBounds slot (some n)) := by
  intro position hmem
  obtain hmem | heq := Array.mem_or_eq_of_mem_setIfInBounds hmem
  · exact h position hmem
  · cases heq
    exact Nat.le_refl n

theorem UpTo.groupSpan {index first last : Nat} (h : UpTo n slots)
    (hspan : groupSpan slots index = some (first, last)) : first ≤ n ∧ last ≤ n := by
  unfold Regex.groupSpan at hspan
  split at hspan
  · rename_i hfirst hlast
    cases hspan
    exact ⟨h _ (Array.mem_of_getElem? hfirst), h _ (Array.mem_of_getElem? hlast)⟩
  · cases hspan

end Slots

/-! ## One position -/

/-- Threads that are followed record nothing but the position they are at. -/
theorem upTo_follow {before after : Option Char} {steps : Nat} {closed : Array Bool}
    (hthreads : ∀ t ∈ threads, t.slots.UpTo position)
    (hwaiting : ∀ t ∈ waiting, t.slots.UpTo position) :
    ∀ t ∈ follow p position before after steps threads closed waiting,
      t.slots.UpTo position := by
  fun_induction follow p position before after steps threads closed waiting with
  | case1 | case2 => exact fun t ht => hwaiting t (List.mem_reverse.1 ht)
  | case3 steps t threads closed waiting hclosed ih =>
    exact ih (List.forall_mem_cons.1 hthreads).2 hwaiting
  | case4 steps t threads closed waiting hopen closed' hcode ih
  | case5 steps t threads closed waiting hopen closed' set next hcode ih =>
    obtain ⟨ht, hrest⟩ := List.forall_mem_cons.1 hthreads
    exact ih hrest (List.forall_mem_cons.2 ⟨ht, hwaiting⟩)
  | case6 steps t threads closed waiting hopen closed' condition next hcode hholds ih =>
    obtain ⟨ht, hrest⟩ := List.forall_mem_cons.1 hthreads
    exact ih (List.forall_mem_cons.2 ⟨ht, hrest⟩) hwaiting
  | case7 steps t threads closed waiting hopen closed' condition next hcode hfails ih =>
    exact ih (List.forall_mem_cons.1 hthreads).2 hwaiting
  | case8 steps t threads closed waiting hopen closed' first second hcode ih =>
    obtain ⟨ht, hrest⟩ := List.forall_mem_cons.1 hthreads
    exact ih (List.forall_mem_cons.2 ⟨ht, List.forall_mem_cons.2 ⟨ht, hrest⟩⟩) hwaiting
  -- a mark is the only instruction that records, and it records where the threads are
  | case9 steps t threads closed waiting hopen closed' slot next hcode slots ih =>
    obtain ⟨ht, hrest⟩ := List.forall_mem_cons.1 hthreads
    exact ih (List.forall_mem_cons.2 ⟨ht.record slot, hrest⟩) hwaiting

/-- Threads that consume a character or accept record nothing. -/
theorem upTo_consume {c : Option Char} (h : ∀ t ∈ threads, t.slots.UpTo n) :
    (∀ t ∈ (consume p c threads).1, t.slots.UpTo n) ∧
      ∀ slots ∈ (consume p c threads).2, Slots.UpTo n slots := by
  fun_induction consume p c threads with
  | case1 => exact ⟨nofun, nofun⟩
  | case2 t threads s next hcode rest accepted hrest d hd hcontains ih =>
    obtain ⟨ht, hthreads⟩ := List.forall_mem_cons.1 h
    rw [hrest] at ih
    obtain ⟨hkept, haccepted⟩ := ih hthreads
    exact ⟨List.forall_mem_cons.2 ⟨ht, hkept⟩, haccepted⟩
  | case3 t threads s next hcode rest accepted hrest
  | case4 t threads s next hcode rest accepted hrest =>
    rename_i ih
    rw [hrest] at ih
    exact ih (List.forall_mem_cons.1 h).2
  | case5 t threads hcode =>
    refine ⟨nofun, ?_⟩
    rintro slots ⟨rfl⟩
    exact h t List.mem_cons_self

/-- Nor does a thread that starts at a position know of any. -/
theorem upTo_started (h : ∀ t ∈ threads, t.slots.UpTo n) (found : Option Slots) :
    ∀ t ∈ if found.isNone then threads ++ [⟨p.start, Array.replicate p.slots none⟩] else threads,
      t.slots.UpTo n := by
  split
  · intro t ht
    obtain ht | ht := List.mem_append.1 ht
    · exact h t ht
    · obtain rfl := List.mem_singleton.1 ht
      exact Slots.upTo_replicate n p.slots
  · exact h

/-- One step of a search records no position behind the one it is at. -/
theorem upTo_step {before c : Option Char} {steps : Nat} {closed : Array Bool}
    {found accepted : Option Slots} {next : List Thread}
    (hthreads : ∀ t ∈ threads, t.slots.UpTo position)
    (hfound : ∀ slots ∈ found, Slots.UpTo position slots)
    (hstep : consume p c (follow p position before c steps
      (if found.isNone then threads ++ [⟨p.start, Array.replicate p.slots none⟩] else threads)
      closed []) = (next, accepted)) :
    (∀ t ∈ next, t.slots.UpTo position) ∧
      ∀ slots ∈ accepted <|> found, Slots.UpTo position slots := by
  generalize hreached : follow p position before c steps _ closed [] = reached at hstep
  have hfollowed : ∀ t ∈ reached, t.slots.UpTo position := by
    rw [← hreached]
    exact upTo_follow (upTo_started hthreads found) (List.forall_mem_nil _)
  obtain ⟨hnext, haccepted⟩ := upTo_consume (p := p) (c := c) hfollowed
  rw [hstep] at hnext haccepted
  refine ⟨hnext, ?_⟩
  cases accepted with
  | none => exact hfound
  | some slots => exact haccepted

/-! ## A whole text -/

theorem upTo_searchFrom {before : Option Char} {found : Option Slots} {text : List Char}
    (hthreads : ∀ t ∈ threads, t.slots.UpTo position)
    (hfound : ∀ slots ∈ found, Slots.UpTo position slots) :
    ∀ slots ∈ searchFrom p position before threads found text,
      Slots.UpTo (position + text.length) slots := by
  -- along the text, the bound goes up with the position, so the threads always keep to it
  fun_induction searchFrom p position before threads found text with
  | case1 text position before threads found fresh started hnone =>
    exact fun slots hslots => (hfound slots hslots).mono (Nat.le_add_right _ _)
  | case2 position before threads found fresh started hsome next accepted found' waiting hstep =>
    exact (upTo_step hthreads hfound hstep).2
  | case3 position before threads found fresh started hsome next accepted found' c rest waiting
      hstep ih =>
    obtain ⟨hnext, hfound'⟩ := upTo_step hthreads hfound hstep
    have hlater := ih (fun t ht => (hnext t ht).mono (Nat.le_succ position))
      fun slots hslots => (hfound' slots hslots).mono (Nat.le_succ position)
    rw [List.length_cons, Nat.add_comm rest.length, ← Nat.add_assoc]
    exact hlater

/-- A group that took part in a match lies within the text. -/
theorem Program.search_within {text : List Char} {index first last : Nat}
    (h : p.search text = some slots) (hspan : groupSpan slots index = some (first, last)) :
    first ≤ text.length ∧ last ≤ text.length := by
  have hnone : ∀ slots ∈ (none : Option Slots), Slots.UpTo 0 slots := nofun
  have hslots : Slots.UpTo (0 + text.length) slots :=
    upTo_searchFrom (List.forall_mem_nil _) hnone slots h
  rw [Nat.zero_add] at hslots
  exact hslots.groupSpan hspan

end ShowScout.Regex
