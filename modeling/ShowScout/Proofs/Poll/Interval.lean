import Mathlib.Data.Set.Basic
import ShowScout.Proofs.Poll.Attempts
import ShowScout.Proofs.Poll.Bound
import ShowScout.Proofs.Poll.Instant

/-!
# Ticks an interval apart

On a page that answers at once, ticks an interval apart lead to the same as ticks at once, only
later. The run with an interval is the other one with each tick at its time (`PollRun.paced`). The
tick after the last attempt falls on the very deadline, and still comes.
-/

namespace ShowScout

/-- The same setup with ticks an interval apart. -/
def PollSetup.onInterval (s : PollSetup) : PollSetup :=
  { s with ticker := .interval s.ticker.hooks }

/-- A run that found no offer, before its first tick. -/
def PollSetup.beforeTicks (s : PollSetup) (page : LivePage) : PollRun :=
  { s.start page s.config.milliseconds with calls := [.url, .isInjected] }

namespace PollRun

/-- The same run with its ticks an interval apart, the first of them at time zero. -/
def paced (interval : Nat) (r : PollRun) : PollRun :=
  { r with
    clock := { r.clock with now := (r.ticks - 1) * interval }
    due := r.ticks * interval }

variable {setup : PollSetup} {r : PollRun} {interval : Nat}

/-- A look takes no time on a page that answers at once. -/
theorem look_paced (h : r.page.Unfaulted) :
    (r.paced interval).look setup.onInterval =
      ((r.look setup).1.paced interval, (r.look setup).2) := by
  have hpaced : (r.paced interval).page.Unfaulted := h
  have htick : (r.paced interval).poller.tick setup.onInterval.config setup.onInterval.rule
      (r.paced interval).page = r.poller.tick setup.config setup.rule r.page := rfl
  unfold look
  rw [htick]
  rcases r.poller.tick setup.config setup.rule r.page with fault | ⟨poller, calls, outcome⟩
  · rfl
  · simp only
    rw [callAll_of_unfaulted (r := { r with poller }) h,
      callAll_of_unfaulted (r := { r.paced interval with poller }) hpaced]
    rfl

theorem finish_paced {r' : PollRun} {ending : Ending} {outcome : PollOutcome}
    (h : r.page.Unfaulted) (hwaiting : r.clock.isCancelled = false)
    (hfinish : r.finish setup ending = .ok (r', outcome)) :
    (r.paced interval).finish setup.onInterval ending = .ok (r'.paced interval, outcome) := by
  cases ending with
  | found injection =>
    have hpaced : (r.paced interval).page.Unfaulted := h
    rw [finish, makeOffer_of_unfaulted h hwaiting] at hfinish
    rw [finish, makeOffer_of_unfaulted hpaced hwaiting]
    cases hfinish
    rfl
  | stopped stop =>
    cases stop <;> cases hfinish <;> rfl
  | failed fault => cases hfinish
  | _ => cases hfinish; rfl

/-- The wait for a tick ends when it is due, also when it is due at the deadline. -/
theorem waitDue_paced {config : PollConfig} (hclock : r.clock = { deadline := config.milliseconds })
    (hinterval : 0 < config.interval) (hle : r.ticks ≤ config.maxAttempts.toNat) :
    (r.paced config.interval).waitDue =
      ({ r with
          clock := { deadline := config.milliseconds, now := r.ticks * config.interval }
          due := r.ticks * config.interval }, none) := by
  have hintime : r.ticks * config.interval ≤ config.milliseconds := by
    rw [Nat.mul_comm]
    exact Nat.mul_le_mul_left _ hle
  unfold waitDue paced
  rw [hclock]
  rcases hticks : r.ticks with _ | n
  · simp
  -- later ticks are due an interval after the last one, which is no later than the deadline
  · have hstep : (n + 1) * config.interval = n * config.interval + config.interval :=
      Nat.succ_mul _ _
    rw [hticks] at hintime
    rw [if_neg (by simp only [Nat.add_sub_cancel]; omega)]
    simp only [wait, Clock.wait, Nat.add_sub_cancel]
    rw [if_neg (by omega)]
    simp [Clock.cancelTime?, Clock.waitEnd, Clock.isInTime, hintime]

/-- A run that finds the offer made starts no attempt. -/
theorem pollAttemptTimes_of_injected (h : r.page.Unfaulted)
    (hinjected : r.page.page.injections ≠ []) : r.pollAttemptTimes setup = [] := by
  have hmarker : r.page.isInjected = .ok true := by
    simp [LivePage.isInjected_of_unfaulted h, Page.isInjected, hinjected]
  unfold pollAttemptTimes
  rw [call_of_unfaulted h]
  simp only [hmarker]

theorem pollAttemptTimes_of_empty (h : r.page.Unfaulted) (hempty : r.page.page.injections = []) :
    r.pollAttemptTimes setup =
      { r with calls := .url :: .isInjected :: r.calls }.attemptTimes setup := by
  have hmarker : r.page.isInjected = .ok false := by
    simp [LivePage.isInjected_of_unfaulted h, Page.isInjected, hempty]
  unfold pollAttemptTimes
  rw [call_of_unfaulted h]
  simp only [hmarker]
  unfold startAttemptTimes
  rw [call_of_unfaulted (r := { r with calls := .isInjected :: r.calls }) h]

/-- Of the times of ticks, as many as there are attempts come before the deadline. -/
theorem lt_of_mem_take_tickTimes {n m time : Nat} (hinterval : 0 < interval)
    (h : time ∈ ((List.range n).map (· * interval)).take m) : time < interval * m := by
  rw [← List.map_take, List.take_range] at h
  obtain ⟨k, hk, rfl⟩ := List.mem_map.1 h
  have hlt : k < m := Nat.lt_of_lt_of_le (List.mem_range.1 hk) (Nat.min_le_left _ _)
  rw [Nat.mul_comm]
  exact Nat.mul_lt_mul_of_pos_left hlt hinterval

end PollRun

namespace AtOnce

open PollRun

variable {s : PollSetup} {hooks : Hooks} {page : LivePage} {n : Nat} {poller : Poller}
  {r : PollRun}

section Interval

variable (hs : AtOnce s hooks page) (hcancel : ∀ n, n ∉ hooks.cancelTicks)
include hs hcancel

/-! ## Rounds -/

/-- The tick comes at its time, which is an interval for each tick before it. -/
theorem tick_paced (hinterval : 0 < s.config.interval) (hr : Reached s hooks page n poller r)
    (hle : n ≤ s.config.maxAttempts.toNat) :
    ∃ ticked, r.tick s = (ticked, none) ∧ ticked.page = hooks.pageAt page (n + 1) ∧
      (r.paced s.config.interval).tick s.onInterval =
        (ticked.paced s.config.interval, none) ∧
      (ticked.paced s.config.interval).clock.now = n * s.config.interval := by
  have hnot : .cancel ∉ hooks (n + 1) := fun h => hcancel (n + 1) ⟨Nat.succ_pos n, h⟩
  have hticker : s.onInterval.ticker = .interval hooks := by
    simp [PollSetup.onInterval, hs.ticker_eq, Ticker.hooks]
  have hconfig : s.onInterval.config = s.config := rfl
  have hstarted : { r.paced s.config.interval with
      ticksStarted := (r.paced s.config.interval).ticksStarted + 1 } =
      { r with ticksStarted := n + 1 }.paced s.config.interval := by
    simp [paced, hr.ticksStarted_eq]
  have hwait := waitDue_paced (r := { r with ticksStarted := n + 1 }) hr.clock_eq hinterval
    (hr.ticks_eq ▸ hle)
  -- the tick comes in time, so that the next one is due an interval later
  have hnext : Ticker.nextDue s.config.interval (n * s.config.interval) (n * s.config.interval) =
      (n + 1) * s.config.interval := by
    rw [Ticker.nextDue, if_neg (by omega), Nat.succ_mul]
  refine ⟨_, hs.tick_eq hr (hcancel (n + 1)), rfl, ?_, by simp [paced]⟩
  rw [tick_of_interval _ hticker, hstarted, hconfig]
  unfold tickInterval
  simp only [hwait]
  simp [countTick, happenAll, foldl_happen_eq, paced, hr.ticks_eq, hr.page_eq, hr.clock_eq, hnot,
    hnext, Hooks.pageAt]

theorem exists_reached_round (hmax : s.config.maxAttempts.toNat + 1 < UInt32.size)
    (hr : Reached s hooks page n (.after n) r) (hle : n ≤ s.config.maxAttempts.toNat) :
    ∃ poller, Reached s hooks page (n + 1) poller (r.round s).1 := by
  obtain hlt | rfl := Nat.lt_or_eq_of_le hle
  · obtain ⟨r', hr', hround⟩ := hs.round_eq hr (hcancel _) (Poller.tick_after_of_lt hlt)
    rw [hround]
    exact ⟨_, hr'⟩
  · obtain ⟨r', hr', hround⟩ := hs.round_eq hr (hcancel _) (Poller.tick_after_max hmax)
    rw [hround]
    exact ⟨_, hr'⟩

/-- A round is the same, with an attempt at the time of its tick. -/
theorem round_paced (hinterval : 0 < s.config.interval)
    (hmax : s.config.maxAttempts.toNat + 1 < UInt32.size)
    (hr : Reached s hooks page n (.after n) r) (hle : n ≤ s.config.maxAttempts.toNat) :
    ∃ poller ticked, Reached s hooks page (n + 1) poller (r.round s).1 ∧
      (r.paced s.config.interval).tick s.onInterval = (ticked, none) ∧
      ticked.clock.now = n * s.config.interval ∧
      (r.paced s.config.interval).round s.onInterval =
        ((r.round s).1.paced s.config.interval, (r.round s).2) := by
  obtain ⟨poller, hr'⟩ := hs.exists_reached_round hcancel hmax hr hle
  obtain ⟨ticked, htick, hpage, hpaced, hnow⟩ := hs.tick_paced hcancel hinterval hr hle
  refine ⟨poller, _, hr', hpaced, hnow, ?_⟩
  rw [round_of_tick htick, round_of_tick hpaced]
  exact look_paced (hpage ▸ hs.pageAt_unfaulted (n + 1))

/-- The rounds are the same, and their ticks come an interval apart. -/
theorem rounds_paced (hinterval : 0 < s.config.interval)
    (hmax : s.config.maxAttempts.toNat + 1 < UInt32.size)
    (hr : Reached s hooks page n (.after n) r) (hle : n ≤ s.config.maxAttempts.toNat) :
    ∃ m poller, n < m ∧ Reached s hooks page m poller (r.rounds s).1 ∧
      (r.paced s.config.interval).rounds s.onInterval =
        ((r.rounds s).1.paced s.config.interval, (r.rounds s).2) ∧
      (r.paced s.config.interval).attemptTimes s.onInterval =
        (List.range' n (m - n)).map (· * s.config.interval) := by
  fun_induction rounds s r generalizing n with
  | case1 r r' ending hround =>
    obtain ⟨poller, ticked, hr', htick, hnow, hpaced⟩ :=
      hs.round_paced hcancel hinterval hmax hr hle
    rw [hround] at hr' hpaced
    refine ⟨n + 1, poller, Nat.lt_succ_self n, hr', rounds_of_some hpaced, ?_⟩
    rw [attemptTimes_of_tick htick, hpaced, hnow]
    simp [attemptTimesAfter]
  | case2 r r' hround ih =>
    obtain ⟨poller, ticked, hr', htick, hnow, hpaced⟩ :=
      hs.round_paced hcancel hinterval hmax hr hle
    rw [hround] at hr' hpaced
    -- a round that goes on used up one attempt, and there are further ticks
    obtain ⟨-, hlt, hpoller⟩ := round_eq_none hround
    have hn : r.poller.attempts.toNat = n := by
      rw [hr.poller_eq]
      exact Poller.toNat_attempts_after (by omega)
    obtain rfl : poller = .after (n + 1) := by
      rw [← hr'.poller_eq, hpoller, hr.poller_eq]
      simp [Poller.after, UInt32.ofNat_add]
    obtain ⟨m, poller', hm, hlast, hrounds, htimes⟩ := ih hr' (by omega)
    refine ⟨m, poller', Nat.lt_of_succ_lt hm, hlast, (rounds_of_none hpaced).trans hrounds, ?_⟩
    have hlength : m - n = (m - (n + 1)) + 1 := by omega
    rw [attemptTimes_of_tick htick, hpaced, attemptTimesAfter, htimes, hnow, hlength,
      List.range'_succ, List.map_cons]

/-! ## Runs -/

omit hcancel in
theorem run_onInterval_eq (hinterval : 0 < s.config.interval) : s.onInterval.run page =
    ((s.start page s.config.milliseconds).poll s.onInterval).1.finish s.onInterval
      ((s.start page s.config.milliseconds).poll s.onInterval).2 := by
  have hticker : s.onInterval.checkTicker = .ok () :=
    PollSetup.checkTicker_eq_ok_iff.2 fun _ _ => hinterval
  have hdeadline : s.onInterval.deadline = .ok s.config.milliseconds := hs.deadline_eq
  have hwaiting : s.onInterval.isCancelled = false := hs.isCancelled_eq
  rw [PollSetup.run_of_deadline hticker hdeadline, hwaiting]
  rfl

omit hcancel in
theorem attemptTimes_onInterval_eq : s.onInterval.attemptTimes page =
    (s.start page s.config.milliseconds).pollAttemptTimes s.onInterval := by
  have hwaiting : s.onInterval.isCancelled = false := hs.isCancelled_eq
  exact if_neg (by simp [hwaiting])

omit hcancel in
theorem run_paced_of_injected (hinterval : 0 < s.config.interval)
    (hinjected : page.page.injections ≠ []) :
    ∃ r, s.run page = .ok (r, .alreadyInjected) ∧
      s.onInterval.run page = .ok (r.paced s.config.interval, .alreadyInjected) ∧
      s.onInterval.attemptTimes page = [] ∧ r.ticks = 0 := by
  have hpage : (s.start page s.config.milliseconds).page.Unfaulted := hs.page_unfaulted
  rw [hs.run_eq, hs.run_onInterval_eq hinterval, hs.attemptTimes_onInterval_eq,
    poll_of_injected s hpage hinjected, poll_of_injected s.onInterval hpage hinjected,
    pollAttemptTimes_of_injected hpage hinjected]
  refine ⟨_, rfl, ?_, rfl, rfl⟩
  simp [finish, paced, PollSetup.start]

theorem run_paced_of_empty (hinterval : 0 < s.config.interval)
    (hmax : s.config.maxAttempts.toNat + 1 < UInt32.size) (hempty : page.page.injections = []) :
    ∃ r outcome, s.run page = .ok (r, outcome) ∧
      s.onInterval.run page = .ok (r.paced s.config.interval, outcome) ∧
      s.onInterval.attemptTimes page = (List.range r.ticks).map (· * s.config.interval) := by
  have hpage : (s.start page s.config.milliseconds).page.Unfaulted := hs.page_unfaulted
  have hstart : Reached s hooks page 0 (.after 0) (s.beforeTicks page) := by
    refine ⟨rfl, ?_, rfl, rfl, rfl⟩
    simp [PollSetup.beforeTicks, PollSetup.start, hs.isCancelled_eq, hs.cancelAt_eq]
  have hpaced : (s.beforeTicks page).paced s.config.interval = s.beforeTicks page := by
    simp [paced, PollSetup.beforeTicks, PollSetup.start]
  obtain ⟨m, poller, -, hlast, hrounds, htimes⟩ :=
    hs.rounds_paced hcancel hinterval hmax hstart (Nat.zero_le _)
  rw [hpaced] at hrounds htimes
  obtain ⟨r, outcome, hfinish⟩ : ∃ r outcome,
      ((s.beforeTicks page).rounds s).1.finish s ((s.beforeTicks page).rounds s).2 =
        .ok (r, outcome) :=
    exists_finish_eq_ok fun fault => rounds_ne_failed hmax (Nat.zero_le _)
  have hticks : r.ticks = m := by
    obtain ⟨page', clock, calls, rfl⟩ := finish_frame hfinish
    exact hlast.ticks_eq
  refine ⟨r, outcome, ?_, ?_, ?_⟩
  · rw [hs.run_eq, poll_of_empty s hpage hempty]
    exact hfinish
  -- at the end the page still answers at once, so that an offer takes no time in either run
  · have hunfaulted : ((s.beforeTicks page).rounds s).1.page.Unfaulted :=
      hlast.page_eq ▸ hs.pageAt_unfaulted m
    have hwaiting : ((s.beforeTicks page).rounds s).1.clock.isCancelled = false :=
      congrArg (·.isCancelled) hlast.clock_eq
    have hpoll : (s.start page s.config.milliseconds).poll s.onInterval = _ :=
      (poll_of_empty s.onInterval hpage hempty).trans hrounds
    rw [hs.run_onInterval_eq hinterval, hpoll]
    exact finish_paced hunfaulted hwaiting hfinish
  · rw [hs.attemptTimes_onInterval_eq, pollAttemptTimes_of_empty hpage hempty, hticks,
      List.range_eq_range']
    exact htimes

end Interval

end AtOnce

namespace PollSetup

variable {s : PollSetup} {hooks : Hooks} {page : LivePage}

/-- Ticks an interval apart lead to the same outcome as ticks at once and leave the same page. A
run takes an interval for each tick but the first. The last attempt is made before the deadline,
and the tick that gives up comes at the very deadline. -/
theorem run_interval_outcome (hticker : s.ticker = .instant hooks)
    (hinterval : 0 < s.config.interval) (hattempts : 0 < s.config.maxAttempts.toNat)
    (hmax : s.config.maxAttempts.toNat + 1 < UInt32.size)
    (hclock : s.endSecond < Nat.pow 2 63)
    (hcancelled : s.isCancelled = false) (hcancelAt : s.cancelAt = none)
    (hpage : page.Unfaulted) (hhooks : hooks.Unfaulting) (hcancel : hooks.cancelTicks = ∅) :
    ∃ r r' outcome, s.run page = .ok (r, outcome) ∧ s.onInterval.run page = .ok (r', outcome) ∧
      r'.page = r.page ∧ r'.calls = r.calls ∧ r'.ticks = r.ticks ∧
      s.onInterval.attemptTimes page = (List.range r'.ticks).map (· * s.config.interval) ∧
      (page.page.injections ≠ [] →
        outcome = .alreadyInjected ∧ r'.ticks = 0 ∧ r'.clock.now = 0) ∧
      (page.page.injections = [] →
        (∀ k i, IsLeast (hooks.readyTicks s.rule page) k → k ≤ s.config.maxAttempts.toNat →
          s.rule.IsReady (hooks.pageAt page k) i →
          outcome = .injected i ∧ r'.ticks = k ∧
            r'.clock.now = (k - 1) * s.config.interval) ∧
        ((∀ k ∈ hooks.readyTicks s.rule page, s.config.maxAttempts.toNat < k) →
          outcome = .exhausted s.config.maxAttempts.toNat ∧
            r'.ticks = s.config.maxAttempts.toNat + 1 ∧
            r'.clock.now = s.config.interval * s.config.maxAttempts.toNat ∧
            ∀ time ∈ (s.onInterval.attemptTimes page).take s.config.maxAttempts.toNat,
              time < s.config.interval * s.config.maxAttempts.toNat)) := by
  have hs : AtOnce s hooks page :=
    { ticker_eq := hticker
      deadline_eq := PollSetup.deadline_eq_ok_iff.2 ⟨rfl, hclock⟩
      milliseconds_pos := Nat.mul_pos hinterval hattempts
      isCancelled_eq := hcancelled
      cancelAt_eq := hcancelAt
      page_unfaulted := hpage
      hooks_unfaulting := hhooks }
  have hnone := Set.eq_empty_iff_forall_notMem.1 hcancel
  by_cases hempty : page.page.injections = []
  · obtain ⟨r, outcome, hrun, hpaced, htimes⟩ := hs.run_paced_of_empty hnone hinterval hmax hempty
    refine ⟨r, _, outcome, hrun, hpaced, rfl, rfl, rfl, htimes, absurd hempty, fun _ => ⟨?_, ?_⟩⟩
    · intro k i hk hkmax hready
      obtain ⟨r₂, hrun₂, rfl, -⟩ := hs.run_of_ready hempty hk hkmax
        (fun c hc => absurd hc (hnone c)) hready
      obtain ⟨rfl, rfl⟩ := Prod.mk.inj (Except.ok.inj (hrun.symm.trans hrun₂))
      exact ⟨rfl, rfl, rfl⟩
    · intro hready
      obtain ⟨r₂, hrun₂, hticks, -⟩ := hs.run_of_neither hmax hempty hready
        (fun c hc => absurd hc (hnone c))
      obtain ⟨rfl, rfl⟩ := Prod.mk.inj (Except.ok.inj (hrun.symm.trans hrun₂))
      refine ⟨rfl, hticks, ?_, ?_⟩
      · simp [PollRun.paced, hticks, Nat.mul_comm]
      · intro time htime
        exact PollRun.lt_of_mem_take_tickTimes hinterval (htimes ▸ htime)
  · obtain ⟨r, hrun, hpaced, htimes, hticks⟩ := hs.run_paced_of_injected hinterval hempty
    refine ⟨r, _, _, hrun, hpaced, rfl, rfl, rfl, ?_, fun _ => ⟨rfl, hticks, ?_⟩,
      fun h => absurd h hempty⟩
    · rw [htimes, show (r.paced s.config.interval).ticks = 0 from hticks]
      rfl
    · simp [PollRun.paced, hticks]

/-- The heading is rendered at the second tick, or never. -/
theorem run_interval_outcome_lateHeading :
    (∃ r, (heading (.interval (.lateHeading []))).run .darkText = .ok (r, .injected .dark) ∧
      r.ticks = 2 ∧ r.clock.now = 250) ∧
    ∃ r, (heading (.interval fun _ => [])).run .darkText = .ok (r, .exhausted 60) ∧
      r.ticks = 61 ∧ r.clock.now = 15000 := by
  have hpage : LivePage.darkText.Unfaulted := fun _ => rfl
  constructor
  · have hnone : (Hooks.lateHeading []).cancelTicks = ∅ := by
      refine Set.eq_empty_iff_forall_notMem.2 fun n hn => ?_
      simpa [Hooks.lateHeading] using hn.2
    have hleast : IsLeast ((Hooks.lateHeading []).readyTicks .heading .darkText) 2 := by
      refine ⟨⟨by decide, .dark, LivePage.darkHeading_isReady⟩, ?_⟩
      rintro n ⟨hn, i, -, -, htarget⟩
      obtain rfl | hlater := Nat.eq_or_lt_of_le hn
      · cases htarget
      · exact hlater
    obtain ⟨-, r', outcome, -, hrun, -, -, -, -, -, hempty⟩ :=
      run_interval_outcome (s := heading (.instant (.lateHeading []))) rfl (by decide) (by decide)
        (by decide) (by decide) rfl rfl hpage (Hooks.lateHeading_unfaulting (by simp)) hnone
    obtain ⟨rfl, hticks, hnow⟩ :=
      (hempty rfl).1 2 .dark hleast (by decide) LivePage.darkHeading_isReady
    exact ⟨r', hrun, hticks, hnow⟩
  · have hnone : Hooks.cancelTicks (fun _ => []) = ∅ :=
      Set.eq_empty_iff_forall_notMem.2 fun n hn => absurd hn.2 List.not_mem_nil
    have hsame (n : Nat) : Hooks.pageAt (fun _ => []) .darkText n = .darkText := by
      induction n with
      | zero => rfl
      | succ n ih => rw [Hooks.pageAt, ih]; rfl
    obtain ⟨-, r', outcome, -, hrun, -, -, -, -, -, hempty⟩ :=
      run_interval_outcome (s := heading .plain) rfl (by decide) (by decide) (by decide)
        (by decide) rfl rfl hpage (fun _ _ h => absurd h List.not_mem_nil) hnone
    obtain ⟨rfl, hticks, hnow, -⟩ := (hempty rfl).2 (by
      rintro n ⟨-, i, hi⟩
      exact absurd (hsame n ▸ hi) (LivePage.darkText_not_isReady i))
    exact ⟨r', hrun, hticks, hnow⟩

/-- That the budget can be counted is not enough. -/
theorem not_run_interval_outcome_of_budget :
    ¬ ∀ (s : PollSetup) (hooks : Hooks) (page : LivePage) (k : Nat) (i : Injection),
      s.ticker = .instant hooks → 0 < s.config.interval → 0 < s.config.maxAttempts.toNat →
      s.config.maxAttempts.toNat + 1 < UInt32.size →
      (∃ budget, s.config.budget = .ok budget) →
      s.isCancelled = false → s.cancelAt = none → page.Unfaulted → hooks.Unfaulting →
      hooks.cancelTicks = ∅ → page.page.injections = [] →
      IsLeast (hooks.readyTicks s.rule page) k → k ≤ s.config.maxAttempts.toNat →
      s.rule.IsReady (hooks.pageAt page k) i →
      ∃ r, s.onInterval.run page = .ok (r, .injected i) ∧
        r.clock.now = (k - 1) * s.config.interval := by
  intro h
  obtain ⟨r, hrun, -⟩ := h (heading .plain .beyondClock) (fun _ => []) .darkHeading 1 .dark rfl
    (by decide) (by decide) (by decide) ⟨_, PollConfig.beyondClock_budget⟩ rfl rfl (fun _ => rfl)
    nofun (Set.eq_empty_iff_forall_notMem.2 fun n hn => nomatch hn.2) rfl
    ⟨⟨by decide, .dark, LivePage.darkHeading_isReady⟩, fun _ hn => hn.1⟩ (by decide)
    LivePage.darkHeading_isReady
  rw [run_of_budget rfl PollConfig.beyondClock_budget (by decide)] at hrun
  cases hrun

end PollSetup

end ShowScout
