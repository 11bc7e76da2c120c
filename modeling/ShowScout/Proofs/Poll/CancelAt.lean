import ShowScout.Proofs.Poll.Attempts
import ShowScout.Proofs.Poll.Bound
import ShowScout.Proofs.Poll.Instant

/-!
# Cancelling at a time

A run that will be cancelled from outside at some time does the same as one that will not, until
then: whatever it is waiting for at that time, it stops and does nothing more. `Follows` says so of
one operation, and each operation of a run has it because those that it consists of do. What is due
at the very time of the cancelling still happens.
-/

namespace ShowScout

/-! ## Waiting -/

namespace Clock

/-- The clock of work that will be cancelled from outside. -/
def cancelledAt (c : Clock) (time : Nat) : Clock :=
  { c with cancelAt := some time }

variable {c : Clock} {wake : Option Nat} {time : Nat}

theorem wait_of_deadline (hup : c.deadline ≤ c.now) : c.wait wake = (c, some .deadline) := by
  simp [wait, hup]

theorem wait_of_isCancelled (hup : ¬ c.deadline ≤ c.now) (hcancelled : c.isCancelled = true) :
    c.wait wake = (c, some .cancelled) := by
  simp [wait, hup, hcancelled]

theorem wait_of_cancelTime? (hup : ¬ c.deadline ≤ c.now) (hcancelled : ¬ c.isCancelled = true)
    (h : c.cancelTime? wake = some time) :
    c.wait wake = ({ c with now := max c.now time, isCancelled := true }, some .cancelled) := by
  simp [wait, hup, hcancelled, h]

theorem wait_of_undisturbed (hup : ¬ c.deadline ≤ c.now) (hcancelled : ¬ c.isCancelled = true)
    (h : c.cancelTime? wake = none) :
    c.wait wake =
      ({ c with now := max c.now (c.waitEnd wake) },
        if c.isInTime wake then none else some .deadline) := by
  simp [wait, hup, hcancelled, h]

theorem waitEnd_cancelledAt : (c.cancelledAt time).waitEnd wake = c.waitEnd wake := by
  cases wake <;> rfl

theorem isInTime_cancelledAt : (c.cancelledAt time).isInTime wake = c.isInTime wake := by
  cases wake <;> rfl

theorem cancelTime?_cancelledAt :
    (c.cancelledAt time).cancelTime? wake = if time < c.waitEnd wake then some time else none := by
  have hat : (c.cancelledAt time).cancelAt = some time := rfl
  simp [cancelTime?, hat, waitEnd_cancelledAt, Option.filter]

/-- A wait that ends in time is not disturbed, and a longer one ends when the work is cancelled. -/
theorem wait_cancelledAt (hfree : c.cancelAt = none) (hnow : c.now ≤ time) (wake : Option Nat) :
    (c.wait wake).1.now ≤ time ∧
        (c.cancelledAt time).wait wake = ((c.wait wake).1.cancelledAt time, (c.wait wake).2) ∨
      time < (c.wait wake).1.now ∧
        (c.cancelledAt time).wait wake =
          ({ c.cancelledAt time with now := time, isCancelled := true }, some .cancelled) := by
  have hnever : c.cancelTime? wake = none := by simp [cancelTime?, hfree]
  by_cases hup : c.deadline ≤ c.now
  · rw [wait_of_deadline hup, wait_of_deadline (c := c.cancelledAt time) hup]
    exact .inl ⟨hnow, rfl⟩
  by_cases hcancelled : c.isCancelled = true
  · rw [wait_of_isCancelled hup hcancelled,
      wait_of_isCancelled (c := c.cancelledAt time) hup hcancelled]
    exact .inl ⟨hnow, rfl⟩
  -- nothing keeps the work from waiting, so it is cancelled before the wait ends by itself, or not
  rw [wait_of_undisturbed hup hcancelled hnever]
  by_cases hlate : time < c.waitEnd wake
  · have hcancel : (c.cancelledAt time).cancelTime? wake = some time := by
      rw [cancelTime?_cancelledAt, if_pos hlate]
    have hmax : max (c.cancelledAt time).now time = time := Nat.max_eq_right hnow
    rw [wait_of_cancelTime? (c := c.cancelledAt time) hup hcancelled hcancel, hmax]
    exact .inr ⟨Nat.lt_of_lt_of_le hlate (Nat.le_max_right _ _), rfl⟩
  · have hcancel : (c.cancelledAt time).cancelTime? wake = none := by
      rw [cancelTime?_cancelledAt, if_neg hlate]
    rw [wait_of_undisturbed (c := c.cancelledAt time) hup hcancelled hcancel, waitEnd_cancelledAt,
      isInTime_cancelledAt]
    exact .inl ⟨Nat.max_le.2 ⟨hnow, Nat.le_of_not_lt hlate⟩, rfl⟩

end Clock

namespace PollRun

/-- The run under way that will be cancelled from outside. -/
def cancelledAt (r : PollRun) (time : Nat) : PollRun :=
  { r with clock := r.clock.cancelledAt time }

/-- What comes of an operation that will be cancelled at a time, `out'`, is what comes of it
undisturbed, `out`, if that is over by then; otherwise it stops at that time, being cancelled. -/
inductive Follows {α : Type} (time : Nat) (stopped : α) (out out' : PollRun × α) : Prop where
  | keeps (hnow : out.1.clock.now ≤ time) (hfree : out.1.clock.cancelAt = none)
      (heq : out' = (out.1.cancelledAt time, out.2))
  | stops (r : PollRun) (hlate : time < out.1.clock.now)
      (hstop : r.clock.now = time ∧ r.clock.isCancelled = true) (heq : out' = (r, stopped))

variable {time : Nat} {r : PollRun}

theorem follows_wait (hfree : r.clock.cancelAt = none) (hnow : r.clock.now ≤ time)
    (wake : Option Nat) :
    Follows time (some .cancelled) (r.wait wake) ((r.cancelledAt time).wait wake) := by
  have hstill := (r.clock.advances_wait wake).cancelAt_eq
  unfold wait
  obtain ⟨hintime, hwait⟩ | ⟨hlate, hwait⟩ := Clock.wait_cancelledAt hfree hnow wake
  · refine .keeps hintime (hstill.trans hfree) ?_
    simp only [cancelledAt, hwait]
  · let clock := { r.clock.cancelledAt time with now := time, isCancelled := true }
    refine .stops { r with clock } hlate ⟨rfl, rfl⟩ ?_
    simp only [cancelledAt, hwait, clock]

/-! ## One operation after another -/

/-- Goes on after an operation that did not stop. -/
def andThen {α β : Type} (first : PollRun × Option α) (next : PollRun → PollRun × β)
    (ending : α → β) : PollRun × β :=
  match first with
  | (r, none) => next r
  | (r, some stop) => (r, ending stop)

theorem Follows.andThen {α β : Type} {first first' : PollRun × Option α}
    {next : PollRun → PollRun × β} {stopped : α}
    (hfirst : Follows time (some stopped) first first') (ending : α → β)
    (hnext : ∀ r, r.clock.cancelAt = none → r.clock.now ≤ time →
      Follows time (ending stopped) (next r) (next (r.cancelledAt time)))
    (hlater : ∀ r, r.clock.now ≤ (next r).1.clock.now) :
    Follows time (ending stopped) (andThen first next ending) (andThen first' next ending) := by
  rcases first with ⟨r, _ | stop⟩
  · obtain ⟨hnow, hfree, rfl⟩ | ⟨r', hlate, hstop, rfl⟩ := hfirst
    · exact hnext r hfree hnow
    -- undisturbed, the second operation ends later than the first, which already ends too late
    · exact .stops r' (Nat.lt_of_lt_of_le hlate (hlater r)) hstop rfl
  · obtain ⟨hnow, hfree, rfl⟩ | ⟨r', hlate, hstop, rfl⟩ := hfirst
    · exact .keeps hnow hfree rfl
    · exact .stops r' hlate hstop rfl

/-! ## Requests -/

theorem follows_call (hfree : r.clock.cancelAt = none) (hnow : r.clock.now ≤ time) (c : PageCall) :
    Follows time (some .cancelled) (r.call c) ((r.cancelledAt time).call c) := by
  let asked := { r with calls := c :: r.calls }
  have hwait (wake : Option Nat) :
      Follows time (some .cancelled) (asked.wait wake) ((asked.cancelledAt time).wait wake) :=
    follows_wait (r := asked) hfree hnow wake
  have hpause : ((r.cancelledAt time).page.faults c).pause? (r.cancelledAt time).clock.now =
      (r.page.faults c).pause? r.clock.now := rfl
  simp only [call, hpause]
  cases (r.page.faults c).pause? r.clock.now with
  | none => exact .keeps hnow hfree rfl
  | some wake => exact hwait wake

theorem clock_advances_callAll (r : PollRun) (cs : List PageCall) :
    r.clock.Advances (r.callAll cs).1.clock := by
  induction cs generalizing r with
  | nil => exact .refl _
  | cons c cs ih =>
    have hcall := r.clock_advances_call c
    unfold callAll
    rcases h : r.call c with ⟨r', _ | stop⟩ <;> rw [h] at hcall
    · exact hcall.trans (ih r')
    · exact hcall

theorem callAll_cons (r : PollRun) (c : PageCall) (cs : List PageCall) :
    r.callAll (c :: cs) = andThen (r.call c) (·.callAll cs) some := by
  rw [callAll]
  unfold andThen
  rcases r.call c with ⟨r', _ | stop⟩ <;> rfl

theorem follows_callAll (hfree : r.clock.cancelAt = none) (hnow : r.clock.now ≤ time)
    (cs : List PageCall) :
    Follows time (some .cancelled) (r.callAll cs) ((r.cancelledAt time).callAll cs) := by
  induction cs generalizing r with
  | nil => exact .keeps hnow hfree rfl
  | cons c cs ih =>
    rw [callAll_cons, callAll_cons]
    apply (follows_call hfree hnow c).andThen some
    · intro r' hfree' hnow'
      exact ih hfree' hnow'
    · intro r'
      exact (r'.clock_advances_callAll cs).now_le

/-! ## Ticks -/

/-- What happens at a tick happens at once, whether or not the work will be cancelled later. -/
theorem happenAll_clock (r : PollRun) (hooks : Hooks) :
    (r.happenAll hooks).clock.now = r.clock.now ∧
      (r.happenAll hooks).clock.cancelAt = r.clock.cancelAt := by
  rw [happenAll, foldl_happen_eq]
  exact ⟨rfl, rfl⟩

theorem happenAll_cancelledAt (r : PollRun) (hooks : Hooks) (time : Nat) :
    (r.cancelledAt time).happenAll hooks = (r.happenAll hooks).cancelledAt time := by
  simp only [happenAll, foldl_happen_eq]
  rfl

theorem tickInstant_eq (hooks : Hooks) (r : PollRun) :
    r.tickInstant hooks =
      andThen ((r.happenAll hooks).wait (some (r.happenAll hooks).clock.now))
        (fun ticked => (ticked.countTick, none)) some := by
  simp only [tickInstant, andThen]
  rcases (r.happenAll hooks).wait (some (r.happenAll hooks).clock.now) with ⟨r', _ | stop⟩ <;> rfl

theorem follows_tickInstant (hfree : r.clock.cancelAt = none) (hnow : r.clock.now ≤ time)
    (hooks : Hooks) :
    Follows time (some .cancelled) (r.tickInstant hooks)
      ((r.cancelledAt time).tickInstant hooks) := by
  obtain ⟨hsame, hstill⟩ := r.happenAll_clock hooks
  rw [tickInstant_eq, tickInstant_eq, happenAll_cancelledAt]
  apply (follows_wait (hstill.trans hfree) (hsame ▸ hnow) _).andThen some
  · intro ticked hfree' hnow'
    exact .keeps hnow' hfree' rfl
  · intro ticked
    exact Nat.le_refl _

/-- A tick of an interval has come, and the next one is due later. -/
def tickDue (interval : Nat) (r : PollRun) : PollRun :=
  { r with due := Ticker.nextDue interval r.due r.clock.now }.countTick

theorem tickInterval_eq (interval : Nat) (hooks : Hooks) (r : PollRun) :
    r.tickInterval interval hooks =
      andThen r.waitDue (fun ticked => ((ticked.tickDue interval).happenAll hooks, none)) some := by
  unfold tickInterval andThen
  rcases r.waitDue with ⟨r', _ | stop⟩ <;> rfl

theorem follows_waitDue (hfree : r.clock.cancelAt = none) (hnow : r.clock.now ≤ time) :
    Follows time (some .cancelled) r.waitDue (r.cancelledAt time).waitDue := by
  have hdue : (r.cancelledAt time).due ≤ (r.cancelledAt time).clock.now ↔ r.due ≤ r.clock.now :=
    Iff.rfl
  unfold waitDue
  simp only [hdue]
  split
  · exact .keeps hnow hfree rfl
  · exact follows_wait hfree hnow (some r.due)

theorem follows_tickInterval (hfree : r.clock.cancelAt = none) (hnow : r.clock.now ≤ time)
    (interval : Nat) (hooks : Hooks) :
    Follows time (some .cancelled) (r.tickInterval interval hooks)
      ((r.cancelledAt time).tickInterval interval hooks) := by
  rw [tickInterval_eq, tickInterval_eq]
  apply (follows_waitDue hfree hnow).andThen some
  · intro ticked hfree' hnow'
    obtain ⟨hsame, hstill⟩ := (ticked.tickDue interval).happenAll_clock hooks
    refine .keeps ?_ ?_ ?_
    · exact hsame ▸ hnow'
    · exact hstill.trans hfree'
    · exact congrArg (·, none) ((ticked.tickDue interval).happenAll_cancelledAt hooks time)
  · intro ticked
    exact Nat.le_of_eq ((ticked.tickDue interval).happenAll_clock hooks).1.symm

theorem follows_tick (setup : PollSetup) (hfree : r.clock.cancelAt = none)
    (hnow : r.clock.now ≤ time) :
    Follows time (some .cancelled) (r.tick setup) ((r.cancelledAt time).tick setup) := by
  let asked := { r with ticksStarted := r.ticksStarted + 1 }
  unfold tick
  cases setup.ticker with
  | instant hooks => exact follows_tickInstant (r := asked) hfree hnow hooks
  | interval hooks => exact follows_tickInterval (r := asked) hfree hnow setup.config.interval hooks

/-! ## Polling -/

theorem look_of_tick {setup : PollSetup} {poller : Poller} {calls : List PageCall}
    {outcome : TickOutcome}
    (h : r.poller.tick setup.config setup.rule r.page = .ok (poller, calls, outcome)) :
    r.look setup = andThen ({ r with poller }.callAll calls)
      (fun looked => (looked, Ending.ofTick? outcome)) (fun stop => some (.stopped stop)) := by
  unfold look andThen
  rw [h]
  simp only
  rcases PollRun.callAll { r with poller } calls with ⟨r', _ | stop⟩ <;> rfl

theorem follows_look (setup : PollSetup) (hfree : r.clock.cancelAt = none)
    (hnow : r.clock.now ≤ time) :
    Follows time (some (.stopped .cancelled)) (r.look setup)
      ((r.cancelledAt time).look setup) := by
  rcases h : r.poller.tick setup.config setup.rule r.page with fault | ⟨poller, calls, outcome⟩
  · have hfailed : r.look setup = (r, some (.failed fault)) := by simp [look, h]
    have hfailed' : (r.cancelledAt time).look setup =
        (r.cancelledAt time, some (.failed fault)) := by
      simp [look, cancelledAt, h]
    rw [hfailed, hfailed']
    exact .keeps hnow hfree rfl
  · rw [look_of_tick h, look_of_tick (r := r.cancelledAt time) h]
    apply (follows_callAll (r := { r with poller }) hfree hnow calls).andThen
      (fun stop => some (Ending.stopped stop))
    · intro looked hfree' hnow'
      exact .keeps hnow' hfree' rfl
    · intro looked
      exact Nat.le_refl _

theorem round_eq (setup : PollSetup) (r : PollRun) :
    r.round setup = andThen (r.tick setup) (·.look setup) (fun stop => some (.stopped stop)) := by
  unfold round andThen
  rcases r.tick setup with ⟨r', _ | stop⟩ <;> rfl

theorem follows_round (setup : PollSetup) (hfree : r.clock.cancelAt = none)
    (hnow : r.clock.now ≤ time) :
    Follows time (some (.stopped .cancelled)) (r.round setup)
      ((r.cancelledAt time).round setup) := by
  rw [round_eq, round_eq]
  apply (follows_tick setup hfree hnow).andThen (fun stop => some (Ending.stopped stop))
  · intro ticked hfree' hnow'
    exact follows_look setup hfree' hnow'
  · intro ticked
    exact (ticked.advances_look setup).clock.now_le

theorem follows_rounds (setup : PollSetup) (hfree : r.clock.cancelAt = none)
    (hnow : r.clock.now ≤ time) :
    Follows time (.stopped .cancelled) (r.rounds setup) ((r.cancelledAt time).rounds setup) := by
  fun_induction rounds setup r with
  | case1 r r' ending h =>
    have hround := follows_round setup hfree hnow
    rw [h] at hround
    obtain ⟨hnow', hfree', heq⟩ | ⟨stopped, hlate, hstop, heq⟩ := hround
    · rw [rounds_of_some heq]
      exact .keeps hnow' hfree' rfl
    · rw [rounds_of_some heq]
      exact .stops stopped hlate hstop rfl
  | case2 r r' h ih =>
    have hround := follows_round setup hfree hnow
    rw [h] at hround
    obtain ⟨hnow', hfree', heq⟩ | ⟨stopped, hlate, hstop, heq⟩ := hround
    · rw [rounds_of_none heq]
      exact ih hfree' hnow'
    -- undisturbed there are more rounds, but the cancelling makes this one the last
    · rw [rounds_of_some heq]
      have hlater := (r'.advances_rounds setup).clock.now_le
      exact .stops stopped (Nat.lt_of_lt_of_le hlate hlater) hstop rfl

theorem startRounds_eq (setup : PollSetup) (r : PollRun) :
    r.startRounds setup = andThen (r.call .url) (·.rounds setup) .stopped := by
  unfold startRounds andThen
  rcases r.call .url with ⟨r', _ | stop⟩ <;> rfl

theorem follows_startRounds (setup : PollSetup) (hfree : r.clock.cancelAt = none)
    (hnow : r.clock.now ≤ time) :
    Follows time (.stopped .cancelled) (r.startRounds setup)
      ((r.cancelledAt time).startRounds setup) := by
  rw [startRounds_eq, startRounds_eq]
  apply (follows_call hfree hnow .url).andThen Ending.stopped
  · intro asked hfree' hnow'
    exact follows_rounds setup hfree' hnow'
  · intro asked
    exact (asked.advances_rounds setup).clock.now_le

theorem now_le_startRounds (setup : PollSetup) (r : PollRun) :
    r.clock.now ≤ (r.startRounds setup).1.clock.now := by
  obtain ⟨r', hstart, ⟨stop, h⟩ | h⟩ := r.startRounds_cases setup <;> rw [h]
  · exact hstart.clock.now_le
  · exact Nat.le_trans hstart.clock.now_le (r'.advances_rounds setup).clock.now_le

/-- Goes on with what the page says about an offer made before. -/
def afterMarker (setup : PollSetup) (r : PollRun) : PollRun × Ending :=
  match r.page.isInjected with
  | .ok true => (r, .alreadyInjected)
  | .ok false | .error _ => r.startRounds setup

theorem poll_eq (setup : PollSetup) (r : PollRun) :
    r.poll setup = andThen (r.call .isInjected) (·.afterMarker setup) .stopped := by
  unfold poll andThen
  rcases r.call .isInjected with ⟨r', _ | stop⟩ <;> rfl

theorem follows_poll (setup : PollSetup) (hfree : r.clock.cancelAt = none)
    (hnow : r.clock.now ≤ time) :
    Follows time (.stopped .cancelled) (r.poll setup) ((r.cancelledAt time).poll setup) := by
  rw [poll_eq, poll_eq]
  apply (follows_call hfree hnow .isInjected).andThen Ending.stopped
  · intro asked hfree' hnow'
    have hpage : (asked.cancelledAt time).page = asked.page := rfl
    simp only [afterMarker, hpage]
    rcases asked.page.isInjected with error | _ | _
    case ok.true => exact .keeps hnow' hfree' rfl
    all_goals exact follows_startRounds setup hfree' hnow'
  · intro asked
    unfold afterMarker
    split
    · exact Nat.le_refl _
    all_goals exact now_le_startRounds setup asked

/-! ## Attempts -/

/-- Once the work is cancelled, attempts that are not yet started come too late. -/
theorem filter_le_eq_nil {times : List Nat} {now : Nat} (hlate : time < now)
    (h : ∀ later ∈ times, now ≤ later) : times.filter (· ≤ time) = [] := by
  simp only [List.filter_eq_nil_iff, decide_eq_true_eq]
  intro later hmem
  exact Nat.not_le.2 (Nat.lt_of_lt_of_le hlate (h later hmem))

/-- A tick that is due by then starts an attempt, and what holds of the attempts after the round
holds of all. -/
theorem attemptTimes_cancelledAt_of_after (setup : PollSetup) (hfree : r.clock.cancelAt = none)
    (hnow : r.clock.now ≤ time)
    (hafter : attemptTimesAfter setup ((r.cancelledAt time).round setup) =
      (attemptTimesAfter setup (r.round setup)).filter (· ≤ time)) :
    (r.cancelledAt time).attemptTimes setup = (r.attemptTimes setup).filter (· ≤ time) := by
  have hticks := follows_tick setup hfree hnow
  rcases htick : r.tick setup with ⟨ticked, _ | stop⟩ <;> rw [htick] at hticks
  · have hlook := (ticked.advances_look setup).clock.now_le
    rw [← round_of_tick htick] at hlook
    rw [attemptTimes_of_tick htick]
    obtain ⟨hintime, -, htick'⟩ | ⟨stopped, hlate, -, htick'⟩ := hticks
    · rw [attemptTimes_of_tick htick', hafter, List.filter_cons_of_pos (by simpa using hintime)]
      rfl
    -- the tick is too late for an attempt, and what comes after the round is later still
    · rw [attemptTimes_of_stop htick', List.filter_cons_of_neg (by simpa using hlate)]
      exact (filter_le_eq_nil (Nat.lt_of_lt_of_le hlate hlook)
        fun later hmem => le_of_mem_attemptTimesAfter hmem).symm
  · rw [attemptTimes_of_stop htick]
    obtain ⟨-, -, htick'⟩ | ⟨stopped, -, -, htick'⟩ := hticks
    · exact attemptTimes_of_stop htick'
    · exact attemptTimes_of_stop htick'

/-- A run that will be cancelled starts the attempts that are due by then. -/
theorem attemptTimes_cancelledAt (setup : PollSetup) (hfree : r.clock.cancelAt = none)
    (hnow : r.clock.now ≤ time) :
    (r.cancelledAt time).attemptTimes setup = (r.attemptTimes setup).filter (· ≤ time) := by
  fun_induction rounds setup r with
  | case1 r r' ending hround =>
    have hrounds := follows_round setup hfree hnow
    apply attemptTimes_cancelledAt_of_after setup hfree hnow
    rw [hround] at hrounds ⊢
    obtain ⟨-, -, hround'⟩ | ⟨stopped, -, -, hround'⟩ := hrounds <;> rw [hround'] <;> rfl
  | case2 r r' hround ih =>
    have hrounds := follows_round setup hfree hnow
    apply attemptTimes_cancelledAt_of_after setup hfree hnow
    rw [hround] at hrounds ⊢
    obtain ⟨hnow', hfree', hround'⟩ | ⟨stopped, hlate, -, hround'⟩ := hrounds <;> rw [hround']
    · exact ih hfree' hnow'
    · exact (filter_le_eq_nil hlate fun later hmem => le_of_mem_attemptTimes hmem).symm

theorem startAttemptTimes_cancelledAt (setup : PollSetup) (hfree : r.clock.cancelAt = none)
    (hnow : r.clock.now ≤ time) :
    (r.cancelledAt time).startAttemptTimes setup =
      (r.startAttemptTimes setup).filter (· ≤ time) := by
  have hurl := follows_call hfree hnow .url
  unfold startAttemptTimes
  rcases h : r.call .url with ⟨asked, _ | stop⟩ <;> rw [h] at hurl
  · obtain ⟨hnow', hfree', heq⟩ | ⟨stopped, hlate, -, heq⟩ := hurl <;> rw [heq]
    · exact attemptTimes_cancelledAt setup hfree' hnow'
    · exact (filter_le_eq_nil hlate fun later hmem => le_of_mem_attemptTimes hmem).symm
  · obtain ⟨-, -, heq⟩ | ⟨stopped, -, -, heq⟩ := hurl <;> rw [heq] <;> rfl

theorem pollAttemptTimes_cancelledAt (setup : PollSetup) (hfree : r.clock.cancelAt = none)
    (hnow : r.clock.now ≤ time) :
    (r.cancelledAt time).pollAttemptTimes setup =
      (r.pollAttemptTimes setup).filter (· ≤ time) := by
  have hmarker := follows_call hfree hnow .isInjected
  unfold pollAttemptTimes
  rcases h : r.call .isInjected with ⟨asked, _ | stop⟩ <;> rw [h] at hmarker
  · obtain ⟨hnow', hfree', heq⟩ | ⟨stopped, hlate, -, heq⟩ := hmarker <;> rw [heq]
    · have hpage : (asked.cancelledAt time).page = asked.page := rfl
      simp only [hpage]
      rcases asked.page.isInjected with error | _ | _
      case ok.true => rfl
      all_goals exact startAttemptTimes_cancelledAt setup hfree' hnow'
    · simp only
      rcases asked.page.isInjected with error | _ | _
      case ok.true => rfl
      all_goals
        exact (filter_le_eq_nil hlate fun later hmem => le_of_mem_startAttemptTimes hmem).symm
  · obtain ⟨-, -, heq⟩ | ⟨stopped, -, -, heq⟩ := hmarker <;> rw [heq] <;> rfl

/-! ## The end of a run -/

/-- The offer is made unless the work is cancelled meanwhile. -/
theorem follows_makeOffer (hfree : r.clock.cancelAt = none) (hnow : r.clock.now ≤ time)
    (injection : Injection) :
    Follows time r.cancelledOutcome (r.makeOffer injection)
      ((r.cancelledAt time).makeOffer injection) := by
  have hcall := follows_call hfree hnow .inject
  obtain ⟨clock, hframe⟩ := (r.cancelledAt time).call_frame .inject
  have hclock : (r.cancelledAt time).clock.isCancelled = r.clock.isCancelled := rfl
  unfold makeOffer
  rw [hclock]
  split
  · exact .keeps hnow hfree rfl
  rcases h : r.call .inject with ⟨asked, stop⟩
  rw [h] at hcall
  obtain ⟨hnow', hfree', heq⟩ | ⟨stopped, hlate, hstop, heq⟩ := hcall
  · have hpage : (asked.cancelledAt time).page = asked.page := rfl
    rw [heq]
    cases stop with
    | some stop => cases stop <;> exact .keeps hnow' hfree' rfl
    | none =>
      simp only [hpage]
      split <;> exact .keeps hnow' hfree' rfl
  -- the request that is broken off leaves the poller as it was, and so the attempts to be told
  · rw [heq] at hframe ⊢
    have hpoller : stopped.poller = r.poller := congrArg (·.poller) hframe
    refine .stops stopped ?_ hstop ?_
    · cases stop with
      | some stop => cases stop <;> exact hlate
      | none =>
        simp only
        split <;> exact hlate
    · simp only [cancelledOutcome, hpoller]

theorem follows_finish {setup : PollSetup} {ending : Ending} {r' : PollRun} {outcome : PollOutcome}
    (hfree : r.clock.cancelAt = none) (hnow : r.clock.now ≤ time)
    (h : r.finish setup ending = .ok (r', outcome)) :
    ∃ out, (r.cancelledAt time).finish setup ending = .ok out ∧
      Follows time r.cancelledOutcome (r', outcome) out := by
  cases ending with
  | found injection =>
    have hoffer := follows_makeOffer hfree hnow injection
    rw [Except.ok.inj h] at hoffer
    exact ⟨_, rfl, hoffer⟩
  | alreadyInjected =>
    cases h
    exact ⟨_, rfl, .keeps hnow hfree rfl⟩
  | exhausted =>
    cases h
    exact ⟨_, rfl, .keeps hnow hfree rfl⟩
  | stopped stop =>
    cases stop <;> cases h <;> exact ⟨_, rfl, .keeps hnow hfree rfl⟩
  | failed fault => cases h

end PollRun

/-! ## Runs -/

namespace PollSetup

/-- The same work, to be cancelled from outside. -/
def cancelledAt (s : PollSetup) (time : Nat) : PollSetup :=
  { s with cancelAt := some time }

variable {s : PollSetup} {page : LivePage} {time : Nat}

open PollRun

/-- Polling does not look at how the work is cancelled, which is for the clock to know. -/
theorem rounds_cancelledAt (r : PollRun) : r.rounds (s.cancelledAt time) = r.rounds s := by
  fun_induction rounds s r with
  | case1 r r' ending h => exact rounds_of_some h
  | case2 r r' h ih =>
    have hround : r.round (s.cancelledAt time) = (r', none) := h
    rw [rounds_of_none hround, ih]

theorem poll_cancelledAt (r : PollRun) : r.poll (s.cancelledAt time) = r.poll s := by
  simp only [poll, startRounds, rounds_cancelledAt]

theorem start_cancelledAt (deadline : Nat) :
    (s.cancelledAt time).start page deadline = (s.start page deadline).cancelledAt time :=
  rfl

/-- A run that will be cancelled follows the one that will not, and counts the attempts that are
started by then. -/
theorem run_follows {r : PollRun} {outcome : PollOutcome}
    (hmax : s.config.maxAttempts.toNat + 1 < UInt32.size) (hfree : s.cancelAt = none)
    (h : s.run page = .ok (r, outcome)) :
    ∃ out, (s.cancelledAt time).run page = .ok out ∧
      Follows time (.cancelled ((s.attemptTimes page).countP (· ≤ time))) (r, outcome) out := by
  obtain ⟨deadline, hticker, hdeadline, hcases⟩ := exists_of_run_eq_ok h
  have hticker' : (s.cancelledAt time).checkTicker = .ok () := hticker
  have hdeadline' : (s.cancelledAt time).deadline = .ok deadline := hdeadline
  obtain rfl : deadline = s.config.milliseconds := (deadline_eq_ok_iff.1 hdeadline).1
  let start := s.start page s.config.milliseconds
  have hcancelled' : (s.cancelledAt time).isCancelled = s.isCancelled := rfl
  rw [run_of_deadline hticker' hdeadline', start_cancelledAt, hcancelled', poll_cancelledAt]
  obtain ⟨hcancelled, rfl, rfl⟩ | ⟨hcancelled, polled, ending, hpoll, hfinish⟩ := hcases
  · rw [if_pos hcancelled]
    exact ⟨_, rfl, .keeps (Nat.zero_le _) hfree rfl⟩
  -- the poller of the cancelled run counts the attempts of the other one that are due by then
  have hattempts : ((start.cancelledAt time).poll s).1.poller.attempts.toNat =
      (s.attemptTimes page).countP (· ≤ time) := by
    have hcount := poll_attempts (r := start.cancelledAt time) hmax rfl (Nat.zero_le _)
    rw [hcount, pollAttemptTimes_cancelledAt s hfree (Nat.zero_le _),
      ← List.countP_eq_length_filter]
    simp [attemptTimes, hcancelled, start, PollRun.cancelledAt, PollSetup.start]
  have hpolled : Follows time _ (start.poll s) ((start.cancelledAt time).poll s) :=
    follows_poll s hfree (Nat.zero_le _)
  rw [if_neg (by simp [hcancelled])]
  rw [hpoll] at hpolled
  obtain ⟨hnow, hfree', heq⟩ | ⟨stopped, hlate, hstop, heq⟩ := hpolled
  · obtain ⟨out, hfinish', hfollows⟩ := follows_finish hfree' hnow hfinish
    have houtcome : polled.cancelledOutcome =
        .cancelled ((s.attemptTimes page).countP (· ≤ time)) := by
      rw [← hattempts, heq]
      rfl
    rw [heq]
    exact ⟨out, hfinish', houtcome ▸ hfollows⟩
  · have hlater := (clock_advances_finish hfinish).now_le
    have houtcome : stopped.cancelledOutcome =
        .cancelled ((s.attemptTimes page).countP (· ≤ time)) := by
      rw [← hattempts, heq]
      rfl
    rw [heq]
    exact ⟨_, rfl, .stops stopped (Nat.lt_of_lt_of_le hlate hlater) hstop (by rw [← houtcome])⟩

/-- What keeps a run from starting does so whether or not it will be cancelled. -/
theorem run_eq_error_cancelledAt (hmax : s.config.maxAttempts.toNat + 1 < UInt32.size)
    {fault : PollFault} (h : s.run page = .error fault) :
    (s.cancelledAt time).run page = .error fault := by
  have hticker' : (s.cancelledAt time).checkTicker = s.checkTicker := rfl
  have hdeadline' : (s.cancelledAt time).deadline = s.deadline := rfl
  rcases hticker : s.checkTicker with fault' | _
  · simp only [run, hticker', hticker, bind, Except.bind] at h ⊢
    exact h
  rcases hdeadline : s.deadline with fault' | deadline
  · simp only [run, hticker', hticker, hdeadline', hdeadline, bind, Except.bind] at h ⊢
    exact h
  · obtain ⟨r, outcome, hrun⟩ : ∃ r outcome, s.run page = .ok (r, outcome) :=
      exists_run_eq_ok hticker hmax hdeadline
    rw [hrun] at h
    cases h

/-- A run that ends by some time is the same whether or not it is cancelled at that time. A longer
one ends at that very time when it is cancelled, with the attempts that it had started by then and
without an offer. Either way it starts and has an outcome if it does so undisturbed. -/
theorem run_cancelledAt (hmax : s.config.maxAttempts.toNat + 1 < UInt32.size)
    (hfree : s.cancelAt = none) :
    ((∀ hooks, s.ticker = .interval hooks → 0 < s.config.interval) →
      s.endSecond < Nat.pow 2 63 → ∃ r outcome, s.run page = .ok (r, outcome)) ∧
    (∀ fault, s.run page = .error fault → (s.cancelledAt time).run page = .error fault) ∧
    ∀ r outcome, s.run page = .ok (r, outcome) →
      (r.clock.now ≤ time →
        (s.cancelledAt time).run page = .ok (r.cancelledAt time, outcome)) ∧
      (time < r.clock.now → ∃ r',
        (s.cancelledAt time).run page =
          .ok (r', .cancelled ((s.attemptTimes page).countP (· ≤ time))) ∧
        r'.clock.now = time ∧ r'.page.page.injections = page.page.injections) := by
  refine ⟨?_, ?_, ?_⟩
  · intro hticker hclock
    exact exists_run_eq_ok (checkTicker_eq_ok_iff.2 hticker) hmax
      (deadline_eq_ok_iff.2 ⟨rfl, hclock⟩)
  · intro fault hrun
    exact run_eq_error_cancelledAt hmax hrun
  · intro r outcome hrun
    obtain ⟨out, hrun', hfollows⟩ : ∃ out, (s.cancelledAt time).run page = .ok out ∧
        Follows time (.cancelled ((s.attemptTimes page).countP (· ≤ time))) (r, outcome) out :=
      run_follows hmax hfree hrun
    obtain ⟨hnow, -, rfl⟩ | ⟨r', hlate, ⟨hnow, -⟩, rfl⟩ := hfollows
    · exact ⟨fun _ => hrun', fun hlate => absurd hnow (Nat.not_le.2 hlate)⟩
    · refine ⟨fun hle => absurd hle (Nat.not_le.2 hlate), fun _ => ⟨r', hrun', hnow, ?_⟩⟩
      exact (run_effect hrun').resolve_right fun ⟨_, i, houtcome, _⟩ => nomatch houtcome

/-! ### A run that stalls -/

/-- The heading is rendered at the second tick, from which on it cannot be evaluated. -/
def stalling : PollSetup :=
  heading (.interval (.lateHeading [.change (.fault .evaluate .stall)]))

/-- The run before its first tick. -/
def stallingStart : PollRun :=
  { stalling.start .darkText 15000 with calls := [.url, .isInjected] }

/-- The run between its ticks. -/
def stallingBetween : PollRun :=
  { stallingStart with
    poller := { attempts := 1 }
    ticksStarted := 1
    ticks := 1
    due := 250
    calls := [.locate, .evaluate, .url, .isInjected] }

/-- The run as its second tick comes. -/
def stallingTicked : PollRun :=
  { stallingBetween with
    page := LivePage.darkHeading.apply (.fault .evaluate .stall)
    clock := { now := 250, deadline := 15000 }
    ticksStarted := 2
    ticks := 2
    due := 500 }

/-- The run at its deadline. -/
def stallingEnd : PollRun :=
  { stallingTicked with
    clock := { now := 15000, deadline := 15000 }
    poller := { attempts := 2, state := .found }
    calls := [.evaluate, .locate, .evaluate, .url, .isInjected] }

theorem stallingStart_round : stallingStart.round stalling = (stallingBetween, none) := rfl

theorem stallingBetween_tick : stallingBetween.tick stalling = (stallingTicked, none) := rfl

theorem stallingBetween_round :
    stallingBetween.round stalling = (stallingEnd, some (.stopped .deadline)) := rfl

theorem stalling_poll :
    (stalling.start .darkText 15000).poll stalling = (stallingEnd, .stopped .deadline) :=
  (rounds_of_none stallingStart_round).trans (rounds_of_some stallingBetween_round)

theorem stalling_attemptTimes : stalling.attemptTimes .darkText = [0, 250] := by
  have htick : stallingStart.tick stalling =
      ({ stallingStart with ticksStarted := 1, ticks := 1, due := 250 }, none) := rfl
  have htimes : stallingStart.attemptTimes stalling = [0, 250] := by
    rw [attemptTimes_of_tick htick, stallingStart_round, attemptTimesAfter,
      attemptTimes_of_tick stallingBetween_tick, stallingBetween_round]
    rfl
  exact htimes

/-- The work is cancelled during the evaluation that never answers, or after the run is over. -/
theorem run_cancelledAt_stalling :
    (∃ r, (stalling.cancelledAt 400).run .darkText = .ok (r, .cancelled 2) ∧
      r.clock.now = 400 ∧ r.page.page.injections = []) ∧
    ∃ r, (stalling.cancelledAt 20000).run .darkText = .ok (r, .exhausted 2) ∧
      r.clock.now = 15000 := by
  have hrun : stalling.run .darkText = .ok (stallingEnd, .exhausted 2) := by
    have hdeadline : stalling.deadline = .ok 15000 := rfl
    rw [run_of_deadline rfl hdeadline, stalling_poll]
    rfl
  constructor
  · obtain ⟨-, -, hcancel⟩ := @run_cancelledAt stalling .darkText 400 (by decide) rfl
    obtain ⟨r, hr, hnow, hinjections⟩ := (hcancel stallingEnd _ hrun).2 (by decide)
    rw [stalling_attemptTimes] at hr
    exact ⟨r, hr, hnow, hinjections⟩
  · obtain ⟨-, -, hcancel⟩ := @run_cancelledAt stalling .darkText 20000 (by decide) rfl
    exact ⟨_, (hcancel stallingEnd _ hrun).1 (by decide), rfl⟩

end PollSetup

end ShowScout
