import ShowScout.Proofs.Poll.Advance
import ShowScout.Proofs.Poll.Readiness

/-!
# How runs end

A run that can start polls the page, unless it is cancelled before, and carries out what polling
ends with. It never goes on beyond its deadline.
-/

namespace ShowScout

/-! ## Limits -/

/-- A budget that can be counted, but beyond what a clock can show. -/
def PollConfig.beyondClock : PollConfig where
  maxAttempts := 4294967294
  interval := 3000000000000

theorem PollConfig.beyondClock_budget : beyondClock.budget = .ok 12884901882000000000000 :=
  rfl

namespace PollSetup

/-- Takes the heading of a page for the title, when the clock has run for a day. -/
def heading (ticker : Ticker) (config : PollConfig := {}) : PollSetup where
  rule := .heading
  config := config
  ticker := ticker
  startedAt := 86400000

variable {s : PollSetup} {page : LivePage} {deadline : Nat}

/-- The budget of the setup in whole seconds. -/
def seconds (s : PollSetup) : Nat :=
  s.config.milliseconds / 1000

/-- What the clock shows when the budget is spent, in whole seconds. -/
def endSecond (s : PollSetup) : Nat :=
  (s.startedAt + s.config.milliseconds) / 1000

theorem seconds_le_endSecond (s : PollSetup) : s.seconds ≤ s.endSecond :=
  Nat.div_le_div_right (Nat.le_add_left _ _)

theorem deadline_cases (s : PollSetup) :
    (s.endSecond < Nat.pow 2 63 ∧ s.deadline = .ok s.config.milliseconds) ∨
      (Nat.pow 2 63 ≤ s.endSecond ∧ s.seconds < Nat.pow 2 64 ∧
        s.deadline = .error .deadlineOverflow) ∨
      Nat.pow 2 64 ≤ s.seconds ∧ s.deadline = .error .budgetOverflow := by
  simp only [seconds, endSecond, PollSetup.deadline, PollConfig.deadline, PollConfig.budget, bind,
    Except.bind, pure, Except.pure]
  by_cases hbudget : s.config.milliseconds / 1000 < Nat.pow 2 64
  · by_cases hclock : (s.startedAt + s.config.milliseconds) / 1000 < Nat.pow 2 63
    · simp [hbudget, hclock]
    · simp [hbudget, hclock, Nat.le_of_not_lt hclock]
  · simp [hbudget, Nat.le_of_not_lt hbudget]

/-- There is a deadline as long as the clock can show it. The budget can then be counted, too. -/
theorem deadline_eq_ok_iff :
    s.deadline = .ok deadline ↔
      deadline = s.config.milliseconds ∧ s.endSecond < Nat.pow 2 63 := by
  have hle := s.seconds_le_endSecond
  have hpow : Nat.pow 2 63 < Nat.pow 2 64 := by decide
  obtain ⟨hclock, h⟩ | ⟨hclock, -, h⟩ | ⟨hbudget, h⟩ := s.deadline_cases <;> rw [h]
  · simp [hclock, eq_comm]
  · simp [Nat.not_lt.2 hclock]
  · have hclock : ¬ s.endSecond < Nat.pow 2 63 := by omega
    simp [hclock]

-- what the clock shows counts: the same budget has no deadline a millisecond later
example : let c : PollConfig := { maxAttempts := 500, interval := 18446744073709551615 }
    c.deadline 499 = .ok c.milliseconds ∧ c.deadline 500 = .error .deadlineOverflow :=
  ⟨rfl, rfl⟩

theorem deadline_of_budget {budget : Nat} (hbudget : s.config.budget = .ok budget) :
    s.deadline =
      if (s.startedAt + budget) / 1000 < Nat.pow 2 63 then .ok budget
      else .error .deadlineOverflow := by
  rw [PollSetup.deadline, PollConfig.deadline, hbudget]
  rfl

theorem checkTicker_eq_ok_iff :
    s.checkTicker = .ok () ↔ ∀ hooks, s.ticker = .interval hooks → 0 < s.config.interval := by
  unfold checkTicker
  cases s.ticker with
  | instant hooks => simp
  | interval hooks =>
    by_cases h : s.config.interval = 0
    · simp [h]
    · simp [h, Nat.pos_of_ne_zero h]

theorem run_of_deadline (hticker : s.checkTicker = .ok ())
    (hdeadline : s.deadline = .ok deadline) :
    s.run page =
      if s.isCancelled then .ok (s.start page deadline, .cancelled 0)
      else ((s.start page deadline).poll s).1.finish s ((s.start page deadline).poll s).2 := by
  unfold run
  rw [hticker, hdeadline]
  rfl

/-- A run whose deadline cannot be told breaks off before it asks the page for anything. -/
theorem run_of_budget {budget : Nat} (hticker : s.checkTicker = .ok ())
    (hbudget : s.config.budget = .ok budget)
    (hclock : Nat.pow 2 63 ≤ (s.startedAt + budget) / 1000) :
    s.run page = .error .deadlineOverflow := by
  unfold run
  rw [hticker, deadline_of_budget hbudget, if_neg (Nat.not_lt.2 hclock)]
  rfl

/-- A run with an outcome could start, and was cancelled before or polled. -/
theorem exists_of_run_eq_ok {r : PollRun} {outcome : PollOutcome}
    (h : s.run page = .ok (r, outcome)) :
    ∃ deadline, s.checkTicker = .ok () ∧ s.deadline = .ok deadline ∧
      ((s.isCancelled ∧ r = s.start page deadline ∧ outcome = .cancelled 0) ∨
        (s.isCancelled = false ∧ ∃ polled ending,
          (s.start page deadline).poll s = (polled, ending) ∧
          polled.finish s ending = .ok (r, outcome))) := by
  rcases hticker : s.checkTicker with fault | _
  · simp [run, hticker, bind, Except.bind] at h
  rcases hdeadline : s.deadline with fault | deadline
  · simp [run, hticker, hdeadline, bind, Except.bind] at h
  refine ⟨deadline, rfl, rfl, ?_⟩
  rw [run_of_deadline hticker hdeadline] at h
  split at h <;> rename_i hcancelled
  · cases h
    exact .inl ⟨hcancelled, rfl, rfl⟩
  · exact .inr ⟨by simpa using hcancelled, _, _, rfl, h⟩

/-- A run without an outcome could not start, or polling broke off. -/
theorem cases_of_run_eq_error {fault : PollFault} (h : s.run page = .error fault) :
    s.checkTicker = .error fault ∨ s.checkTicker = .ok () ∧ (s.deadline = .error fault ∨
      ∃ deadline, s.deadline = .ok deadline ∧
        ((s.start page deadline).poll s).2 = .failed fault) := by
  rcases hticker : s.checkTicker with fault' | _
  · simp only [run, hticker, bind, Except.bind, Except.error.injEq] at h
    exact .inl (congrArg _ h)
  rcases hdeadline : s.deadline with fault' | deadline
  · simp only [run, hticker, hdeadline, bind, Except.bind, Except.error.injEq] at h
    exact .inr ⟨rfl, .inl (congrArg _ h)⟩
  refine .inr ⟨rfl, .inr ⟨deadline, rfl, ?_⟩⟩
  rw [run_of_deadline hticker hdeadline] at h
  split at h
  · cases h
  · -- only an ending with a fault has no outcome
    generalize (s.start page deadline).poll s = polled at h ⊢
    obtain ⟨r, ending⟩ := polled
    cases ending with
    | failed fault' => cases h; rfl
    | stopped stop => cases stop <;> cases h
    | _ => cases h

end PollSetup

namespace PollRun

/-! ## What is found -/

/-- Polling finds only what a look at a ready page finds, with an attempt left. -/
theorem look_eq_found {setup : PollSetup} {r : PollRun} {injection : Injection}
    (h : (r.look setup).2 = some (.found injection)) :
    r.poller.attempts.toNat < setup.config.maxAttempts.toNat ∧
      setup.rule.IsReady r.page injection := by
  unfold look at h
  rcases htick : r.poller.tick setup.config setup.rule r.page with fault | ⟨poller, calls, outcome⟩ <;>
    rw [htick] at h
  · cases h
  simp only at h
  split at h
  · cases h
  · cases outcome with
    | found other =>
      cases h
      exact Poller.tick_eq_found htick
    | _ => cases h

/-! ## The offer -/

/-- To make an offer is to do nothing, to ask the page, or to ask it and have the offer taken. -/
theorem makeOffer_cases (r : PollRun) (injection : Injection) :
    (∃ outcome, r.makeOffer injection = (r, outcome)) ∨
      (∃ outcome, r.makeOffer injection = ((r.call .inject).1, outcome)) ∨
      ∃ page, (r.call .inject).1.page.inject injection = .ok page ∧
        r.makeOffer injection = ({ (r.call .inject).1 with page }, .injected injection) := by
  unfold makeOffer
  split
  · exact .inl ⟨_, rfl⟩
  · rcases r.call .inject with ⟨asked, _ | stop⟩
    · simp only
      rcases hinject : asked.page.inject injection with error | page
      · exact .inr (.inl ⟨_, rfl⟩)
      · exact .inr (.inr ⟨page, rfl, rfl⟩)
    · cases stop with
      | cancelled => exact .inr (.inl ⟨_, rfl⟩)
      | deadline => exact .inr (.inl ⟨_, rfl⟩)

/-- Only an ending that found something does more than tell the outcome. -/
theorem finish_cases {setup : PollSetup} {r r' : PollRun} {ending : Ending}
    {outcome : PollOutcome} (h : r.finish setup ending = .ok (r', outcome)) :
    r' = r ∨ ∃ injection, r.makeOffer injection = (r', outcome) := by
  unfold finish at h
  split at h
  case h_1 injection => exact .inr ⟨injection, Except.ok.inj h⟩
  case h_6 => cases h
  all_goals
    cases h
    exact .inl rfl

theorem makeOffer_frame (r : PollRun) (injection : Injection) :
    ∃ page clock calls, (r.makeOffer injection).1 = { r with page, clock, calls } := by
  obtain ⟨clock, hcall⟩ := r.call_frame .inject
  obtain ⟨_, h⟩ | ⟨_, h⟩ | ⟨page, -, h⟩ := r.makeOffer_cases injection <;> rw [h]
  · exact ⟨r.page, r.clock, r.calls, rfl⟩
  · exact ⟨r.page, clock, _, hcall⟩
  · rw [hcall]
    exact ⟨page, clock, _, rfl⟩

theorem finish_frame {setup : PollSetup} {r r' : PollRun} {ending : Ending}
    {outcome : PollOutcome} (h : r.finish setup ending = .ok (r', outcome)) :
    ∃ page clock calls, r' = { r with page, clock, calls } := by
  obtain rfl | ⟨injection, hoffer⟩ := finish_cases h
  · exact ⟨_, _, _, rfl⟩
  · have hframe := r.makeOffer_frame injection
    rwa [hoffer] at hframe

theorem clock_advances_makeOffer (r : PollRun) (injection : Injection) :
    r.clock.Advances (r.makeOffer injection).1.clock := by
  have hcall := r.clock_advances_call .inject
  obtain ⟨_, h⟩ | ⟨_, h⟩ | ⟨page, -, h⟩ := r.makeOffer_cases injection <;> rw [h]
  · exact .refl _
  · exact hcall
  · exact hcall

theorem clock_advances_finish {setup : PollSetup} {r r' : PollRun} {ending : Ending}
    {outcome : PollOutcome} (h : r.finish setup ending = .ok (r', outcome)) :
    r.clock.Advances r'.clock := by
  obtain rfl | ⟨injection, hoffer⟩ := finish_cases h
  · exact .refl _
  · have hclock := r.clock_advances_makeOffer injection
    rwa [hoffer] at hclock

end PollRun

end ShowScout
