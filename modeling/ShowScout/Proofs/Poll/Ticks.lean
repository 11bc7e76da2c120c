import ShowScout.Proofs.Poll.Readiness

/-!
# Successive ticks

One poller is handed a page at each tick, and the pages may differ. It waits while they are not
ready, finds the first that is, gives up one tick after the last attempt, and does nothing from then
on. `ticks_outcomes` says all of this at once, for pages in any number and order.
-/

namespace ShowScout

namespace Poller

/-- What successive ticks find, each with the poller after it. -/
def ticks (config : PollConfig) (rule : Rule) :
    Poller → List LivePage → Except PollFault (List (TickOutcome × Poller))
  | _, [] => .ok []
  | p, page :: pages => do
    let (p, _, outcome) ← p.tick config rule page
    return (outcome, p) :: (← ticks config rule p pages)

/-- The poller that has made a number of attempts. -/
def after (n : Nat) (state : PollState := .waiting) : Poller :=
  { attempts := .ofNat n, state }

/-- What ticks find on pages that are not ready, when `start` attempts were made before. -/
def waits (rule : Rule) (start : Nat) (pages : List LivePage) : List (TickOutcome × Poller) :=
  pages.mapIdx fun j page => (rule.pending page, after (start + j + 1))

/-- What ticks find when the poller has left the waiting state. -/
def rests (p : Poller) (pages : List LivePage) : List (TickOutcome × Poller) :=
  pages.map fun _ => (.finished, p)

variable {config : PollConfig} {rule : Rule} {p p' : Poller} {page : LivePage}
  {pages later : List LivePage} {n : Nat}

theorem ticks_cons {calls : List PageCall} {outcome : TickOutcome}
    (h : p.tick config rule page = .ok (p', calls, outcome)) :
    p.ticks config rule (page :: pages) =
      (p'.ticks config rule pages).map ((outcome, p') :: ·) := by
  rw [ticks, h]
  simp only [bind, Except.bind]
  cases p'.ticks config rule pages <;> rfl

/-- A state that is not waiting is kept for good. -/
theorem ticks_of_ne_waiting (hstate : p.state ≠ .waiting) :
    p.ticks config rule pages = .ok (p.rests pages) := by
  induction pages with
  | nil => rfl
  | cons page pages ih =>
    rw [ticks_cons (tick_of_ne_waiting hstate), ih]
    rfl

theorem toNat_attempts_after {state : PollState} (h : n < UInt32.size) :
    (after n state).attempts.toNat = n :=
  UInt32.toNat_ofNat_of_lt' h

theorem tick_after_of_lt (hlt : n < config.maxAttempts.toNat) :
    (after n).tick config rule page =
      .ok (after (n + 1) (afterLook .waiting (rule.look page)), rule.lookCalls page,
        rule.look page) := by
  have hn : (after n).attempts.toNat = n :=
    toNat_attempts_after (Nat.lt_trans hlt config.maxAttempts.toNat_lt)
  rw [tick_of_lt rfl (by rwa [hn])]
  simp [after, UInt32.ofNat_add]

theorem tick_after_max (hmax : config.maxAttempts.toNat + 1 < UInt32.size) :
    (after config.maxAttempts.toNat).tick config rule page =
      .ok (after (config.maxAttempts.toNat + 1) .exhausted, [], .exhausted) := by
  have hn : (after config.maxAttempts.toNat).attempts.toNat = config.maxAttempts.toNat :=
    toNat_attempts_after config.maxAttempts.toNat_lt
  rw [tick_of_le rfl (Nat.le_of_eq hn.symm) (by rwa [hn])]
  simp [after, UInt32.ofNat_add]

theorem tick_after_of_not_ready (hlt : n < config.maxAttempts.toNat)
    (hready : ∀ i, ¬ rule.IsReady page i) :
    (after n).tick config rule page =
      .ok (after (n + 1), rule.lookCalls page, rule.pending page) := by
  have hstate : afterLook .waiting (rule.pending page) = .waiting := by
    unfold Rule.pending
    split <;> rfl
  rw [tick_after_of_lt hlt, Rule.look_of_not_ready hready, hstate]

/-- Each page that is not ready costs an attempt. -/
theorem ticks_append_of_not_ready (hready : ∀ page ∈ pages, ∀ i, ¬ rule.IsReady page i)
    (hlen : n + pages.length ≤ config.maxAttempts.toNat) :
    (after n).ticks config rule (pages ++ later) =
      ((after (n + pages.length)).ticks config rule later).map (waits rule n pages ++ ·) := by
  induction pages generalizing n with
  | nil =>
    rw [List.nil_append]
    cases (after n).ticks config rule later <;> simp [waits, Except.map]
  | cons page pages ih =>
    simp only [List.length_cons] at hlen ⊢
    simp only [List.forall_mem_cons] at hready
    -- the ticks that follow start one attempt later, which shifts what they are counted as
    have hcount : n + 1 + pages.length = n + (pages.length + 1) := by omega
    have hwaits : waits rule n (page :: pages) =
        (rule.pending page, after (n + 1)) :: waits rule (n + 1) pages := by
      simp only [waits, List.mapIdx_cons, Nat.add_zero, List.cons.injEq, true_and]
      congr 1
      funext j page
      rw [show n + (j + 1) + 1 = n + 1 + j + 1 by omega]
    rw [List.cons_append, ticks_cons (tick_after_of_not_ready (by omega) hready.1),
      ih hready.2 (by omega), hcount, hwaits]
    cases (after (n + (pages.length + 1))).ticks config rule later <;> rfl

theorem ticks_of_not_ready (hready : ∀ page ∈ pages, ∀ i, ¬ rule.IsReady page i)
    (hlen : n + pages.length ≤ config.maxAttempts.toNat) :
    (after n).ticks config rule pages = .ok (waits rule n pages) := by
  have hticks : (after n).ticks config rule (pages ++ []) = _ :=
    ticks_append_of_not_ready hready hlen
  rw [List.append_nil] at hticks
  rw [hticks]
  simp [ticks, Except.map]

theorem ticks_cons_of_ready {i : Injection} (hlt : n < config.maxAttempts.toNat)
    (hready : rule.IsReady page i) :
    (after n).ticks config rule (page :: later) =
      .ok ((.found i, after (n + 1) .found) :: rests (after (n + 1) .found) later) := by
  have htick : (after n).tick config rule page =
      .ok (after (n + 1) .found, rule.lookCalls page, .found i) := by
    rw [tick_after_of_lt hlt, Rule.look_eq_found_iff.2 hready]
    rfl
  rw [ticks_cons htick, ticks_of_ne_waiting (by simp [after])]
  rfl

theorem ticks_cons_of_max (hmax : config.maxAttempts.toNat + 1 < UInt32.size) :
    (after config.maxAttempts.toNat).ticks config rule (page :: later) =
      .ok ((.exhausted, after (config.maxAttempts.toNat + 1) .exhausted) ::
        rests (after (config.maxAttempts.toNat + 1) .exhausted) later) := by
  rw [ticks_cons (tick_after_max hmax), ticks_of_ne_waiting (by simp [after])]
  rfl

/-- Whatever pages a new poller is handed, its ticks wait for the first that is ready while there
are attempts left, and the tick after the last attempt gives up. A poller that found something or
gave up finds nothing more and counts no more attempts. -/
theorem ticks_outcomes (hmax : config.maxAttempts.toNat + 1 < UInt32.size) :
    (∀ before page later i,
      before.length < config.maxAttempts.toNat →
      (∀ q ∈ before, ∀ j, ¬ rule.IsReady q j) → rule.IsReady page i →
      ticks config rule {} (before ++ page :: later) =
        .ok (waits rule 0 before ++ (.found i, after (before.length + 1) .found) ::
          rests (after (before.length + 1) .found) later)) ∧
    (∀ pages,
      pages.length ≤ config.maxAttempts.toNat →
      (∀ q ∈ pages, ∀ j, ¬ rule.IsReady q j) →
      ticks config rule {} pages = .ok (waits rule 0 pages)) ∧
    (∀ before page later,
      before.length = config.maxAttempts.toNat →
      (∀ q ∈ before, ∀ j, ¬ rule.IsReady q j) →
      ticks config rule {} (before ++ page :: later) =
        .ok (waits rule 0 before ++ (.exhausted, after (before.length + 1) .exhausted) ::
          rests (after (before.length + 1) .exhausted) later)) := by
  have hnew : ({} : Poller) = after 0 := rfl
  refine ⟨?_, ?_, ?_⟩
  · intro before page later i hlen hready hi
    rw [hnew, ticks_append_of_not_ready hready (by omega), Nat.zero_add,
      ticks_cons_of_ready hlen hi]
    rfl
  · intro pages hlen hready
    rw [hnew, ← List.append_nil pages, ticks_append_of_not_ready hready (by omega),
      List.append_nil]
    simp [ticks, Except.map]
  · intro before page later hlen hready
    rw [hnew, ticks_append_of_not_ready hready (by omega), Nat.zero_add, hlen,
      ticks_cons_of_max hmax]
    rfl

theorem ticks_outcomes_heading :
    ticks { maxAttempts := 2 } .heading {} [.darkText, .darkHeading, .darkText] =
      .ok [(.notReady, after 1), (.found .dark, after 2 .found), (.finished, after 2 .found)] ∧
    ticks { maxAttempts := 1 } .heading {} [.darkText, .darkHeading] =
      .ok [(.notReady, after 1), (.exhausted, after 2 .exhausted)] := by
  have hpending : ∀ q ∈ [LivePage.darkText], ∀ i, ¬ Rule.heading.IsReady q i := by
    simpa using LivePage.darkText_not_isReady
  constructor
  · obtain ⟨hfound, -, -⟩ := @ticks_outcomes { maxAttempts := 2 } .heading (by decide)
    exact hfound [.darkText] .darkHeading [.darkText] .dark (by decide) hpending
      LivePage.darkHeading_isReady
  · obtain ⟨-, -, hgaveUp⟩ := @ticks_outcomes { maxAttempts := 1 } .heading (by decide)
    exact hgaveUp [.darkText] .darkHeading [] rfl hpending

end Poller

end ShowScout
