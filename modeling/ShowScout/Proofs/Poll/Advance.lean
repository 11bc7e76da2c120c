import ShowScout.Poll.Run

/-!
# What polling leaves alone

`Advances` relates a run under way to a later state of it, as long as the offer is not made: time
goes on but not beyond the deadline, a cancelling is not taken back, and neither the offers on the
page nor the requests to make one change. Each operation of polling advances a run, and therefore
polling as a whole does.
-/

namespace ShowScout

namespace Clock

/-- The clock may show this later on. -/
structure Advances (c c' : Clock) : Prop where
  deadline_eq : c'.deadline = c.deadline
  cancelAt_eq : c'.cancelAt = c.cancelAt
  now_le : c.now ≤ c'.now
  in_time : c.now ≤ c.deadline → c'.now ≤ c.deadline
  isCancelled : c.isCancelled → c'.isCancelled

theorem Advances.refl (c : Clock) : c.Advances c :=
  ⟨rfl, rfl, Nat.le_refl _, id, id⟩

theorem Advances.trans {a b c : Clock} (hab : a.Advances b) (hbc : b.Advances c) :
    a.Advances c where
  deadline_eq := hbc.deadline_eq.trans hab.deadline_eq
  cancelAt_eq := hbc.cancelAt_eq.trans hab.cancelAt_eq
  now_le := Nat.le_trans hab.now_le hbc.now_le
  in_time h := hab.deadline_eq ▸ hbc.in_time (hab.deadline_eq ▸ hab.in_time h)
  isCancelled h := hbc.isCancelled (hab.isCancelled h)

theorem waitEnd_le (c : Clock) (wake : Option Nat) : c.waitEnd wake ≤ c.deadline := by
  cases wake with
  | none => exact Nat.le_refl _
  | some t => exact Nat.min_le_right _ _

theorem cancelTime?_lt {c : Clock} {wake : Option Nat} {t : Nat}
    (h : c.cancelTime? wake = some t) : t < c.waitEnd wake := by
  obtain ⟨-, hlt⟩ := Option.filter_eq_some_iff.1 h
  simpa using hlt

theorem advances_wait (c : Clock) (wake : Option Nat) : c.Advances (c.wait wake).1 := by
  have hend := c.waitEnd_le wake
  unfold wait
  split
  · exact .refl c
  split
  · exact .refl c
  split
  · rename_i t ht
    -- a cancelling from outside only counts before the wait ends, hence before the deadline
    have hlt := cancelTime?_lt ht
    exact ⟨rfl, rfl, Nat.le_max_left _ _, fun h => Nat.max_le.2 ⟨h, by omega⟩, fun _ => rfl⟩
  · exact ⟨rfl, rfl, Nat.le_max_left _ _, fun h => Nat.max_le.2 ⟨h, hend⟩, id⟩

end Clock

namespace PollRun

/-- The run may get there without making the offer. -/
structure Advances (r r' : PollRun) : Prop where
  clock : r.clock.Advances r'.clock
  injections_eq : r'.page.page.injections = r.page.page.injections
  offers_eq : r'.calls.count .inject = r.calls.count .inject

theorem Advances.refl (r : PollRun) : r.Advances r :=
  ⟨.refl _, rfl, rfl⟩

theorem Advances.trans {a b c : PollRun} (hab : a.Advances b) (hbc : b.Advances c) :
    a.Advances c where
  clock := hab.clock.trans hbc.clock
  injections_eq := hbc.injections_eq.trans hab.injections_eq
  offers_eq := hbc.offers_eq.trans hab.offers_eq

theorem advances_wait (r : PollRun) (wake : Option Nat) : r.Advances (r.wait wake).1 :=
  ⟨r.clock.advances_wait wake, rfl, rfl⟩

/-! ## Requests -/

theorem clock_advances_call (r : PollRun) (c : PageCall) :
    r.clock.Advances (r.call c).1.clock := by
  simp only [call]
  split
  · exact r.clock.advances_wait _
  · exact .refl _

theorem advances_call (r : PollRun) {c : PageCall} (hc : c ≠ .inject) :
    r.Advances (r.call c).1 := by
  have hclock := r.clock_advances_call c
  obtain ⟨clock, hframe⟩ := r.call_frame c
  rw [hframe] at hclock ⊢
  exact ⟨hclock, rfl, List.count_cons_of_ne hc⟩

theorem advances_callAll (r : PollRun) {cs : List PageCall} (hcs : .inject ∉ cs) :
    r.Advances (r.callAll cs).1 := by
  induction cs generalizing r with
  | nil => exact .refl r
  | cons c cs ih =>
    simp only [List.mem_cons, not_or] at hcs
    have hcall := r.advances_call (Ne.symm hcs.1)
    unfold callAll
    rcases h : r.call c with ⟨r', _ | stop⟩ <;> rw [h] at hcall
    · exact hcall.trans (ih r' hcs.2)
    · exact hcall

/-! ## Ticks -/

theorem apply_injections (p : LivePage) (change : PageChange) :
    (p.apply change).page.injections = p.page.injections := by
  cases change <;> rfl

theorem advances_happen (r : PollRun) (action : HookAction) : r.Advances (r.happen action) := by
  cases action with
  | change change => exact ⟨.refl _, apply_injections r.page change, rfl⟩
  | cancel => exact ⟨⟨rfl, rfl, Nat.le_refl _, id, fun _ => rfl⟩, rfl, rfl⟩

theorem advances_happenAll (r : PollRun) (hooks : Hooks) : r.Advances (r.happenAll hooks) := by
  unfold happenAll
  generalize hooks r.ticksStarted = actions
  induction actions generalizing r with
  | nil => exact .refl r
  | cons action actions ih => exact (r.advances_happen action).trans (ih _)

theorem advances_tickInstant (hooks : Hooks) (r : PollRun) :
    r.Advances (r.tickInstant hooks).1 := by
  have hhooks := r.advances_happenAll hooks
  have hwait := (r.happenAll hooks).advances_wait (some (r.happenAll hooks).clock.now)
  simp only [tickInstant]
  split <;> rename_i h <;> rw [h] at hwait
  · exact hhooks.trans ⟨hwait.clock, hwait.injections_eq, hwait.offers_eq⟩
  · exact hhooks.trans hwait

theorem advances_waitDue (r : PollRun) : r.Advances r.waitDue.1 := by
  unfold waitDue
  split
  · exact .refl r
  · exact r.advances_wait _

theorem advances_tickInterval (interval : Nat) (hooks : Hooks) (r : PollRun) :
    r.Advances (r.tickInterval interval hooks).1 := by
  have hwait := r.advances_waitDue
  simp only [tickInterval]
  split <;> rename_i r' h <;> rw [h] at hwait
  · have hdue : r.Advances
        { r' with due := Ticker.nextDue interval r'.due r'.clock.now }.countTick :=
      ⟨hwait.clock, hwait.injections_eq, hwait.offers_eq⟩
    exact hdue.trans (advances_happenAll _ hooks)
  · exact hwait

theorem tick_of_instant {setup : PollSetup} {hooks : Hooks} (r : PollRun)
    (h : setup.ticker = .instant hooks) :
    r.tick setup = { r with ticksStarted := r.ticksStarted + 1 }.tickInstant hooks := by
  unfold tick
  rw [h]

theorem tick_of_interval {setup : PollSetup} {hooks : Hooks} (r : PollRun)
    (h : setup.ticker = .interval hooks) :
    r.tick setup = { r with ticksStarted := r.ticksStarted + 1 }.tickInterval
      setup.config.interval hooks := by
  unfold tick
  rw [h]

theorem advances_tick (setup : PollSetup) (r : PollRun) : r.Advances (r.tick setup).1 := by
  have hstart : r.Advances { r with ticksStarted := r.ticksStarted + 1 } := ⟨.refl _, rfl, rfl⟩
  unfold tick
  cases setup.ticker with
  | instant hooks => exact hstart.trans (advances_tickInstant hooks _)
  | interval hooks => exact hstart.trans (advances_tickInterval _ hooks _)

/-! ## Polling -/

theorem inject_notMem_lookCalls (rule : Rule) (p : LivePage) : .inject ∉ rule.lookCalls p := by
  unfold Rule.lookCalls Rule.titleCall
  cases rule.extraction <;> split <;> split <;> simp

theorem inject_notMem_of_tick {config : PollConfig} {rule : Rule} {page : LivePage}
    {p p' : Poller} {calls : List PageCall} {outcome : TickOutcome}
    (h : p.tick config rule page = .ok (p', calls, outcome)) : .inject ∉ calls := by
  unfold Poller.tick at h
  split at h
  · cases h
    exact List.not_mem_nil
  split at h
  · cases h
  simp only at h
  split at h
  · cases h
    exact List.not_mem_nil
  · cases h
    exact inject_notMem_lookCalls rule page

/-- A look leaves the page and the count of ticks as they are. -/
theorem look_frame (setup : PollSetup) (r : PollRun) :
    ∃ clock poller calls, (r.look setup).1 = { r with clock, poller, calls } := by
  unfold look
  rcases r.poller.tick setup.config setup.rule r.page with fault | ⟨poller, calls, outcome⟩
  · exact ⟨r.clock, r.poller, r.calls, rfl⟩
  obtain ⟨clock, calls', hframe⟩ := callAll_frame { r with poller } calls
  simp only
  split <;> rename_i h <;> rw [h] at hframe
  · exact ⟨clock, poller, calls', hframe⟩
  · exact ⟨clock, poller, calls', hframe⟩

theorem advances_look (setup : PollSetup) (r : PollRun) : r.Advances (r.look setup).1 := by
  unfold look
  rcases htick : r.poller.tick setup.config setup.rule r.page with fault | ⟨poller, calls, outcome⟩
  · exact .refl r
  have hpoller : r.Advances { r with poller } := ⟨.refl _, rfl, rfl⟩
  have hcalls := hpoller.trans (advances_callAll _ (inject_notMem_of_tick htick))
  simp only
  split <;> rename_i h <;> rw [h] at hcalls
  · exact hcalls
  · exact hcalls

theorem advances_round (setup : PollSetup) (r : PollRun) : r.Advances (r.round setup).1 := by
  have htick := r.advances_tick setup
  unfold round
  rcases h : r.tick setup with ⟨r', _ | stop⟩ <;> rw [h] at htick
  · exact htick.trans (r'.advances_look setup)
  · exact htick

theorem advances_rounds (setup : PollSetup) (r : PollRun) : r.Advances (r.rounds setup).1 := by
  fun_induction rounds setup r with
  | case1 r r' ending h => simpa [h] using r.advances_round setup
  | case2 r r' h ih => exact .trans (by simpa [h] using r.advances_round setup) ih

theorem rounds_of_some {setup : PollSetup} {r r' : PollRun} {ending : Ending}
    (h : r.round setup = (r', some ending)) : r.rounds setup = (r', ending) := by
  rw [rounds]
  split <;> simp_all

theorem rounds_of_none {setup : PollSetup} {r r' : PollRun} (h : r.round setup = (r', none)) :
    r.rounds setup = r'.rounds setup := by
  rw [rounds]
  split <;> simp_all

/-- The run may get there by requests, before any tick. -/
structure Requests (r r' : PollRun) : Prop extends r.Advances r' where
  frame : ∃ clock calls, r' = { r with clock, calls }

theorem requests_call (r : PollRun) {c : PageCall} (hc : c ≠ .inject) :
    r.Requests (r.call c).1 := by
  obtain ⟨clock, hframe⟩ := r.call_frame c
  exact ⟨r.advances_call hc, clock, _, hframe⟩

theorem Requests.trans {a b c : PollRun} (hab : a.Requests b) (hbc : b.Requests c) :
    a.Requests c := by
  obtain ⟨clock, calls, rfl⟩ := hab.frame
  obtain ⟨clock', calls', rfl⟩ := hbc.frame
  exact ⟨hab.toAdvances.trans hbc.toAdvances, clock', calls', rfl⟩

theorem startRounds_cases (setup : PollSetup) (r : PollRun) :
    ∃ r', r.Requests r' ∧
      ((∃ stop, r.startRounds setup = (r', .stopped stop)) ∨
        r.startRounds setup = r'.rounds setup) := by
  have hurl := r.requests_call (c := .url) (by decide)
  unfold startRounds
  rcases h : r.call .url with ⟨r', _ | stop⟩ <;> rw [h] at hurl
  · exact ⟨r', hurl, .inr rfl⟩
  · exact ⟨r', hurl, .inl ⟨stop, rfl⟩⟩

/-- Polling stops before the first tick, finds the offer made, or goes on in rounds. -/
theorem poll_cases (setup : PollSetup) (r : PollRun) :
    ∃ r', r.Requests r' ∧
      ((∃ stop, r.poll setup = (r', .stopped stop)) ∨
        (r.page.isInjected = .ok true ∧ r.poll setup = (r', .alreadyInjected)) ∨
        (r.page.isInjected ≠ .ok true ∧ r.poll setup = r'.rounds setup)) := by
  have hmarker := r.requests_call (c := .isInjected) (by decide)
  unfold poll
  rcases h : r.call .isInjected with ⟨r₁, _ | stop⟩ <;> rw [h] at hmarker
  · obtain ⟨clock, calls, hr₁⟩ := hmarker.frame
    have hpage : r₁.page = r.page := congrArg (·.page) hr₁
    obtain ⟨r₂, hurl, hrest⟩ := r₁.startRounds_cases setup
    rw [← hpage]
    simp only
    split <;> rename_i hinjected
    · exact ⟨r₁, hmarker, .inr (.inl ⟨hinjected, rfl⟩)⟩
    all_goals
      refine ⟨r₂, hmarker.trans hurl, hrest.imp_right fun hrounds => .inr ⟨?_, hrounds⟩⟩
      simp [hinjected]
  · exact ⟨r₁, hmarker, .inl ⟨stop, rfl⟩⟩

/-- Polling as a whole makes no offer, and time is up at the deadline. -/
theorem advances_poll (setup : PollSetup) (r : PollRun) : r.Advances (r.poll setup).1 := by
  obtain ⟨r', hstart, ⟨stop, h⟩ | ⟨-, h⟩ | ⟨-, h⟩⟩ := r.poll_cases setup <;> rw [h]
  · exact hstart.toAdvances
  · exact hstart.toAdvances
  · exact hstart.toAdvances.trans (advances_rounds setup r')

end PollRun

end ShowScout
