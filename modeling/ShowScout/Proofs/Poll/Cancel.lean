import ShowScout.Proofs.Poll.CancelAt

/-!
# Cancelled work makes no offer

Work may be cancelled before it starts, at any tick, or from outside while it waits for a tick or an
answer. With ticks of an interval, a cancelling at a tick is only noticed later, and the page may
turn out to be ready before that. No offer is made all the same, since the clock remembers the
cancelling until polling is over.
-/

namespace ShowScout

namespace PollSetup

/-- The number of ticks at which all has happened that happens at them: as they are asked for if
ticks come at once, and otherwise when they come. -/
def happenedTicks (s : PollSetup) (r : PollRun) : Nat :=
  match s.ticker with
  | .instant _ => r.ticksStarted
  | .interval _ => r.ticks

theorem happenedTicks_of_pace {s : PollSetup} {r : PollRun} (hpace : r.ticks = r.ticksStarted) :
    s.happenedTicks r = r.ticksStarted := by
  unfold happenedTicks
  cases s.ticker with
  | instant hooks => rfl
  | interval hooks => exact hpace

end PollSetup

namespace PollRun

/-! ## Cancelling at a tick -/

section Ticks

variable {setup : PollSetup} {hooks : Hooks} {r r' : PollRun}

theorem happenAll_isCancelled (h : .cancel ∈ hooks r.ticksStarted) :
    (r.happenAll hooks).clock.isCancelled = true := by
  simp [happenAll, foldl_happen_eq, h]

theorem tickInstant_isCancelled (h : .cancel ∈ hooks r.ticksStarted) :
    (r.tickInstant hooks).1.clock.isCancelled = true := by
  have hwait := (r.happenAll hooks).advances_wait (some (r.happenAll hooks).clock.now)
  have hkept := hwait.clock.isCancelled (happenAll_isCancelled h)
  rw [tickInstant_eq]
  unfold andThen
  split <;> rename_i hw <;> rw [hw] at hkept
  · exact hkept
  · exact hkept

/-- A tick of an interval that does not come leaves the count of ticks, and one that comes brings
what happens at it. -/
theorem tickInterval_cases (interval : Nat) (hooks : Hooks) (r : PollRun) :
    (∃ stop, (r.tickInterval interval hooks).2 = some stop) ∧
        (r.tickInterval interval hooks).1.ticks = r.ticks ∨
      (r.tickInterval interval hooks).2 = none ∧
        (r.tickInterval interval hooks).1.ticks = r.ticks + 1 ∧
        (.cancel ∈ hooks r.ticksStarted →
          (r.tickInterval interval hooks).1.clock.isCancelled = true) := by
  obtain ⟨clock, hwait⟩ := r.waitDue_frame
  rw [tickInterval_eq]
  unfold andThen
  split <;> rename_i hdue <;> rw [hdue] at hwait <;> subst hwait
  · let due := tickDue interval { r with clock }
    obtain ⟨page, clock', hframe⟩ := due.happenAll_frame hooks
    refine .inr ⟨rfl, congrArg (·.ticks) hframe, ?_⟩
    intro hcancel
    exact happenAll_isCancelled (r := due) hcancel
  · exact .inl ⟨⟨_, rfl⟩, rfl⟩

/-- A tick is counted among those at which all has happened only if it has, and then a cancelling
at it is known. -/
theorem tick_happened (setup : PollSetup) (hpace : r.ticks = r.ticksStarted) :
    setup.happenedTicks (r.tick setup).1 ≤ r.ticksStarted + 1 ∧
      (r.ticksStarted + 1 ≤ setup.happenedTicks (r.tick setup).1 →
        .cancel ∈ setup.ticker.hooks (r.ticksStarted + 1) →
        (r.tick setup).1.clock.isCancelled = true) := by
  obtain ⟨page, clock, ticks, due, hframe⟩ := r.tick_frame setup
  let asked := { r with ticksStarted := r.ticksStarted + 1 }
  unfold PollSetup.happenedTicks
  rcases hticker : setup.ticker with hooks | hooks
  · refine ⟨by simp [hframe], fun _ hcancel => ?_⟩
    rw [r.tick_of_instant hticker]
    exact tickInstant_isCancelled hcancel
  · have htick : r.tick setup = asked.tickInterval setup.config.interval hooks :=
      r.tick_of_interval hticker
    have hticks : asked.ticks = r.ticksStarted := hpace
    simp only [htick]
    obtain ⟨-, hleft⟩ | ⟨-, hcame, hcancelled⟩ :=
      asked.tickInterval_cases setup.config.interval hooks
    -- a tick that does not come is not counted, so there is nothing to show of it
    · rw [hleft, hticks]
      exact ⟨Nat.le_succ _, fun hle => absurd hle (Nat.not_succ_le_self _)⟩
    · rw [hcame, hticks]
      exact ⟨Nat.le_refl _, fun _ => hcancelled⟩

theorem tickInstant_ticks (h : r.tickInstant hooks = (r', none)) : r'.ticks = r.ticks + 1 := by
  obtain ⟨page, clock, hframe⟩ := r.happenAll_frame hooks
  rw [tickInstant_eq, hframe] at h
  unfold andThen at h
  split at h
  · rename_i ticked hwait
    obtain ⟨rfl, -⟩ := Prod.mk.inj h
    have hticks : ticked.ticks = r.ticks := congrArg (·.1.ticks) hwait.symm
    simp [countTick, hticks]
  · cases h

/-- As long as ticks come, all that were asked for are counted. -/
theorem tick_pace (h : r.tick setup = (r', none)) (hpace : r.ticks = r.ticksStarted) :
    r'.ticks = r'.ticksStarted := by
  obtain ⟨page, clock, ticks, due, hframe⟩ := r.tick_frame setup
  have hstarted : r'.ticksStarted = r.ticksStarted + 1 := by
    rw [h] at hframe
    exact congrArg (·.ticksStarted) hframe
  let asked := { r with ticksStarted := r.ticksStarted + 1 }
  have hcame : r'.ticks = asked.ticks + 1 := by
    rcases hticker : setup.ticker with hooks | hooks
    · exact tickInstant_ticks (r.tick_of_instant hticker ▸ h)
    · have hcases := asked.tickInterval_cases setup.config.interval hooks
      rw [← r.tick_of_interval hticker, h] at hcases
      obtain ⟨⟨stop, hstop⟩, -⟩ | ⟨-, hcame, -⟩ := hcases
      · cases hstop
      · exact hcame
  rw [hcame, hstarted]
  exact congrArg (· + 1) hpace

/-- After its tick, a round neither counts ticks nor takes a cancelling back. -/
theorem round_frame (setup : PollSetup) (r : PollRun) :
    ∃ clock poller calls,
      (r.round setup).1 = { (r.tick setup).1 with clock, poller, calls } ∧
        (r.tick setup).1.clock.Advances clock := by
  rcases h : r.tick setup with ⟨ticked, _ | stop⟩
  · obtain ⟨clock, poller, calls, hlook⟩ := ticked.look_frame setup
    have hadvances := (ticked.advances_look setup).clock
    rw [hlook] at hadvances
    rw [round_of_tick h]
    exact ⟨clock, poller, calls, hlook, hadvances⟩
  · rw [round_of_stop h]
    exact ⟨ticked.clock, ticked.poller, ticked.calls, rfl, .refl _⟩

end Ticks

/-! ## Cancelling while polling -/

section Polling

variable {setup : PollSetup} {r : PollRun} {n : Nat}

theorem happenedTicks_round (setup : PollSetup) (r : PollRun) :
    setup.happenedTicks (r.round setup).1 = setup.happenedTicks (r.tick setup).1 := by
  obtain ⟨clock, poller, calls, hframe, -⟩ := r.round_frame setup
  rw [hframe]
  rfl

theorem round_isCancelled (hpace : r.ticks = r.ticksStarted)
    (hle : r.ticksStarted + 1 ≤ setup.happenedTicks (r.round setup).1)
    (hcancel : .cancel ∈ setup.ticker.hooks (r.ticksStarted + 1)) :
    (r.round setup).1.clock.isCancelled = true := by
  obtain ⟨clock, poller, calls, hframe, hadvances⟩ := r.round_frame setup
  rw [happenedTicks_round] at hle
  have hticked := (tick_happened setup hpace).2 hle hcancel
  rw [hframe]
  exact hadvances.isCancelled hticked

theorem round_pace {r' : PollRun} (h : r.round setup = (r', none))
    (hpace : r.ticks = r.ticksStarted) : r'.ticks = r'.ticksStarted := by
  obtain ⟨clock, poller, calls, hframe, -⟩ := r.round_frame setup
  rcases htick : r.tick setup with ⟨ticked, _ | stop⟩
  · rw [h, htick] at hframe
    have hticked : ticked.ticks = ticked.ticksStarted := tick_pace htick hpace
    simp only at hframe
    rw [hframe]
    exact hticked
  · rw [round_of_stop htick] at h
    cases h

/-- A cancelling at one of the ticks is known at the end of the rounds. -/
theorem rounds_isCancelled (hpace : r.ticks = r.ticksStarted) (hlt : r.ticksStarted < n)
    (hle : n ≤ setup.happenedTicks (r.rounds setup).1)
    (hcancel : .cancel ∈ setup.ticker.hooks n) :
    (r.rounds setup).1.clock.isCancelled = true := by
  fun_induction rounds setup r with
  | case1 r r' ending h =>
    -- the last round has one tick at most, so that is the one that cancels
    have hticks := (tick_happened setup hpace).1
    have hround := happenedTicks_round setup r
    rw [h] at hround
    simp only at hle hround ⊢
    obtain rfl : n = r.ticksStarted + 1 := by omega
    have hcancelled := round_isCancelled hpace (by rw [h]; exact hle) hcancel
    rwa [h] at hcancelled
  | case2 r r' h ih =>
    have hpace' := round_pace h hpace
    have hstarted := round_ticksStarted setup r
    rw [h] at hstarted
    -- the tick that cancels is the one of this round or comes later
    obtain rfl | hlater := Nat.eq_or_lt_of_le (Nat.succ_le_of_lt hlt)
    · have hhappened : setup.happenedTicks r' = r.ticksStarted + 1 := by
        rw [PollSetup.happenedTicks_of_pace hpace']
        exact hstarted
      have hle' : r.ticksStarted + 1 ≤ setup.happenedTicks (r.round setup).1 := by
        rw [h]
        exact Nat.le_of_eq hhappened.symm
      have hcancelled := round_isCancelled hpace hle' hcancel
      rw [h] at hcancelled
      exact (r'.advances_rounds setup).clock.isCancelled hcancelled
    · exact ih hpace' (hstarted ▸ hlater) hle

/-- Before its rounds a run counts no ticks, so a cancelling at a tick is known when polling is
over. -/
theorem poll_isCancelled (hticks : r.ticks = 0) (hstarted : r.ticksStarted = 0) (hpos : 0 < n)
    (hle : n ≤ setup.happenedTicks (r.poll setup).1)
    (hcancel : .cancel ∈ setup.ticker.hooks n) :
    (r.poll setup).1.clock.isCancelled = true := by
  obtain ⟨r', hstart, hcases⟩ := r.poll_cases setup
  obtain ⟨clock, calls, rfl⟩ := hstart.frame
  have hpace : r.ticks = r.ticksStarted := hticks.trans hstarted.symm
  have hnone : setup.happenedTicks { r with clock, calls } = 0 :=
    (PollSetup.happenedTicks_of_pace hpace).trans hstarted
  obtain ⟨stop, h⟩ | ⟨-, h⟩ | ⟨-, h⟩ := hcases <;> rw [h] at hle ⊢
  · rw [hnone] at hle
    omega
  · rw [hnone] at hle
    omega
  · exact rounds_isCancelled hpace (hstarted ▸ hpos) hle hcancel

/-- A run that knows that it is cancelled when polling is over does nothing more. -/
theorem finish_of_isCancelled {ending : Ending} {r' : PollRun} {outcome : PollOutcome}
    (hcancelled : r.clock.isCancelled = true) (h : r.finish setup ending = .ok (r', outcome)) :
    r' = r ∧ ∀ i, outcome ≠ .injected i := by
  cases ending with
  | found injection =>
    simp only [finish, makeOffer, hcancelled, if_true] at h
    cases h
    exact ⟨rfl, fun _ hinjected => by cases hinjected⟩
  | stopped stop =>
    cases stop <;> cases h <;> exact ⟨rfl, fun _ hinjected => by cases hinjected⟩
  | failed fault => cases h
  | _ =>
    cases h
    exact ⟨rfl, fun _ hinjected => by cases hinjected⟩

end Polling

end PollRun

/-! ## Runs -/

namespace PollSetup

open PollRun

/-- The same work, not to be cancelled from outside. -/
def undisturbed (s : PollSetup) : PollSetup :=
  { s with cancelAt := none }

/-- The time at which polling is over, so that the offer is made if it is made at all. -/
def pollingEnd (s : PollSetup) (page : LivePage) : Nat :=
  ((s.start page s.config.milliseconds).poll s).1.clock.now

/-- The work is cancelled before a run makes an offer: before the run, at one of its ticks, or from
outside at a time at which it would still be polling. -/
inductive CancelledBeforeOffer (s : PollSetup) (page : LivePage) : Prop where
  | beforeRun (h : s.isCancelled = true)
  | atTick (n : Nat) (hpos : 0 < n) (hle : n ≤ s.happenedTicks (s.progress page))
      (h : .cancel ∈ s.ticker.hooks n)
  | outside (time : Nat) (h : s.cancelAt = some time) (hlt : time < s.undisturbed.pollingEnd page)

variable {s : PollSetup} {page : LivePage}

theorem undisturbed_cancelledAt {time : Nat} (h : s.cancelAt = some time) :
    s.undisturbed.cancelledAt time = s := by
  cases s
  cases h
  rfl

/-- What a run that knows that it is cancelled when polling is over leaves behind. -/
theorem run_of_isCancelled {r : PollRun} {outcome : PollOutcome}
    (hcancelled : ((s.start page s.config.milliseconds).poll s).1.clock.isCancelled = true)
    (h : s.run page = .ok (r, outcome)) :
    .inject ∉ r.calls ∧ r.page.page.injections = page.page.injections ∧
      ∀ i, outcome ≠ .injected i := by
  obtain ⟨deadline, -, hdeadline, ⟨-, rfl, rfl⟩ | ⟨-, polled, ending, hpoll, hfinish⟩⟩ :=
    exists_of_run_eq_ok h
  · exact ⟨List.not_mem_nil, rfl, nofun⟩
  · obtain rfl : deadline = s.config.milliseconds := (deadline_eq_ok_iff.1 hdeadline).1
    have hadvances := (s.start page s.config.milliseconds).advances_poll s
    rw [hpoll] at hcancelled hadvances
    obtain ⟨rfl, houtcome⟩ := finish_of_isCancelled hcancelled hfinish
    refine ⟨List.count_eq_zero.1 ?_, hadvances.injections_eq, houtcome⟩
    exact hadvances.offers_eq

/-- A run that breaks off or has an outcome makes no offer if it knows that it is cancelled when
polling is over. -/
theorem progress_of_isCancelled
    (hcancelled : ((s.start page s.config.milliseconds).poll s).1.clock.isCancelled = true) :
    .inject ∉ (s.progress page).calls ∧
      (s.progress page).page.page.injections = page.page.injections ∧
      ∀ r i, s.run page ≠ .ok (r, .injected i) := by
  rcases hrun : s.run page with fault | ⟨r, outcome⟩
  · obtain ⟨hinjections, hoffers⟩ := progress_of_run_eq_error hrun
    exact ⟨List.count_eq_zero.1 hoffers, hinjections, nofun⟩
  · obtain ⟨hoffers, hinjections, houtcome⟩ := run_of_isCancelled hcancelled hrun
    rw [progress_of_run_eq_ok hrun]
    refine ⟨hoffers, hinjections, ?_⟩
    rintro r' i heq
    exact houtcome i (Prod.mk.inj (Except.ok.inj heq)).2

theorem happenedTicks_start (deadline : Nat) : s.happenedTicks (s.start page deadline) = 0 :=
  happenedTicks_of_pace rfl

/-- What comes after polling counts no ticks. -/
theorem happenedTicks_progress_le (s : PollSetup) (page : LivePage) :
    s.happenedTicks (s.progress page) ≤
      s.happenedTicks ((s.start page s.config.milliseconds).poll s).1 := by
  unfold progress
  split
  · rename_i deadline _ hdeadline
    obtain rfl : deadline = s.config.milliseconds := (deadline_eq_ok_iff.1 hdeadline).1
    rcases hrun : s.run page with fault | ⟨r, outcome⟩
    · exact Nat.le_refl _
    obtain ⟨_, -, hdeadline', ⟨-, rfl, -⟩ | ⟨-, polled, ending, hpoll, hfinish⟩⟩ :=
      exists_of_run_eq_ok hrun
    · simp only [happenedTicks_start]
      exact Nat.zero_le _
    · obtain rfl := Except.ok.inj (hdeadline.symm.trans hdeadline')
      obtain ⟨page', clock, calls, rfl⟩ := finish_frame hfinish
      rw [hpoll]
      exact Nat.le_refl _
  · rw [happenedTicks_start]
    exact Nat.zero_le _

/-- Polling that will be cancelled is polling that will not, with that time on the clock. -/
theorem poll_of_cancelAt {time : Nat} (h : s.cancelAt = some time) :
    (s.start page s.config.milliseconds).poll s =
      ((s.undisturbed.start page s.config.milliseconds).cancelledAt time).poll s.undisturbed :=
  calc (s.start page s.config.milliseconds).poll s
      = ((s.undisturbed.cancelledAt time).start page s.config.milliseconds).poll
          (s.undisturbed.cancelledAt time) := by rw [undisturbed_cancelledAt h]
    _ = _ := poll_cancelledAt _

/-- However the work is cancelled before the offer, that is known when polling is over. -/
theorem CancelledBeforeOffer.isCancelled (h : s.CancelledBeforeOffer page) :
    ((s.start page s.config.milliseconds).poll s).1.clock.isCancelled = true := by
  cases h with
  | beforeRun h => exact ((s.start page _).advances_poll s).clock.isCancelled h
  | atTick n hpos hle h =>
    exact poll_isCancelled rfl rfl hpos (Nat.le_trans hle (s.happenedTicks_progress_le page)) h
  | outside time h hlt =>
    rw [poll_of_cancelAt h]
    have hfollows : Follows time _
        ((s.undisturbed.start page s.config.milliseconds).poll s.undisturbed) _ :=
      follows_poll s.undisturbed rfl (Nat.zero_le _)
    obtain ⟨hnow, -, -⟩ | ⟨stopped, -, ⟨-, hcancelled⟩, heq⟩ := hfollows
    · exact absurd hnow (Nat.not_le.2 hlt)
    · rw [heq]
      exact hcancelled

/-- Work that is cancelled before the offer is made makes none and leaves the page without one, also
when the run breaks off. Work that is cancelled before it starts does not ask for anything. -/
theorem cancel_withholds_offer (s : PollSetup) (page : LivePage) :
    (s.CancelledBeforeOffer page →
      .inject ∉ (s.progress page).calls ∧
      (s.progress page).page.page.injections = page.page.injections ∧
      ∀ r i, s.run page ≠ .ok (r, .injected i)) ∧
    ((∀ hooks, s.ticker = .interval hooks → 0 < s.config.interval) →
      s.endSecond < Nat.pow 2 63 → s.isCancelled = true →
      ∃ r, s.run page = .ok (r, .cancelled 0) ∧ r.page = page ∧ r.calls = [] ∧
        r.ticksStarted = 0) := by
  constructor
  · intro h
    exact progress_of_isCancelled h.isCancelled
  · intro hticker hclock hcancelled
    have hdeadline := deadline_eq_ok_iff.2 ⟨rfl, hclock⟩
    rw [run_of_deadline (checkTicker_eq_ok_iff.2 hticker) hdeadline, if_pos hcancelled]
    exact ⟨_, rfl, rfl, rfl, rfl⟩

/-- The first tick, at which the page is ready, cancels the work. -/
def cancelling : PollSetup :=
  heading (.interval fun _ => [.cancel])

/-- Although the page is found ready, no offer is made. -/
theorem cancel_withholds_offer_found :
    ((cancelling.start .darkHeading 15000).poll cancelling).2 = .found .dark ∧
      .inject ∉ (cancelling.progress .darkHeading).calls ∧
      (cancelling.progress .darkHeading).page.page.injections = [] ∧
      (∀ r i, cancelling.run .darkHeading ≠ .ok (r, .injected i)) ∧
      ∃ r, { cancelling with isCancelled := true }.run .darkHeading = .ok (r, .cancelled 0) ∧
        r.page = .darkHeading ∧ r.calls = [] ∧ r.ticksStarted = 0 := by
  obtain ⟨polled, hround, hcancelled, hticks⟩ : ∃ polled,
      round cancelling { cancelling.start .darkHeading 15000 with calls := [.url, .isInjected] } =
        (polled, some (.found .dark)) ∧
      polled.clock.isCancelled = true ∧ polled.ticks = 1 := ⟨_, rfl, rfl, rfl⟩
  have hpoll : (cancelling.start .darkHeading 15000).poll cancelling = (polled, .found .dark) :=
    rounds_of_some hround
  have hdeadline : cancelling.deadline = .ok 15000 := rfl
  obtain ⟨outcome, hrun⟩ : ∃ outcome, cancelling.run .darkHeading = .ok (polled, outcome) := by
    have hwaiting : cancelling.isCancelled = false := rfl
    rw [run_of_deadline rfl hdeadline, hpoll]
    simp [hwaiting, finish, makeOffer, hcancelled]
  have hticked : cancelling.happenedTicks (cancelling.progress .darkHeading) = 1 := by
    rw [progress_of_run_eq_ok hrun]
    exact hticks
  have hcancel : .cancel ∈ cancelling.ticker.hooks 1 := List.mem_singleton.2 rfl
  obtain ⟨hcalls, hinjections, houtcome⟩ := (cancel_withholds_offer cancelling .darkHeading).1
    (.atTick 1 Nat.one_pos (Nat.le_of_eq hticked.symm) hcancel)
  refine ⟨congrArg (·.2) hpoll, hcalls, hinjections, houtcome, ?_⟩
  exact (cancel_withholds_offer { cancelling with isCancelled := true } .darkHeading).2
    (fun _ _ => by decide) (by decide) rfl

/-- That the budget can be counted is not enough for work that is cancelled before to say so. -/
theorem not_cancel_withholds_offer_of_budget :
    ¬ ∀ (s : PollSetup) (page : LivePage),
      (∀ hooks, s.ticker = .interval hooks → 0 < s.config.interval) →
      (∃ budget, s.config.budget = .ok budget) → s.isCancelled = true →
      ∃ r, s.run page = .ok (r, .cancelled 0) := by
  intro h
  obtain ⟨r, hrun⟩ := h { heading .plain .beyondClock with isCancelled := true } .darkHeading
    nofun ⟨_, PollConfig.beyondClock_budget⟩ rfl
  rw [run_of_budget rfl PollConfig.beyondClock_budget (by decide)] at hrun
  cases hrun

end PollSetup

end ShowScout
