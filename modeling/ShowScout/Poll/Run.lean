import ShowScout.Poll.Clock
import ShowScout.Poll.Poller
import ShowScout.Poll.Ticker

/-!
# Runs

A run polls a page until it is ready and then makes the offer, all within a budget of time and until
it is cancelled. A page on which the offer was made before is left alone.
-/

namespace ShowScout

/-- How a run ends. -/
inductive PollOutcome where
  /-- The page was ready, and it was asked to make the offer. -/
  | injected (injection : Injection)
  | alreadyInjected
  | exhausted (attempts : Nat)
  | cancelled (attempts : Nat)
deriving DecidableEq, Repr

/-- The title that a run found. -/
def PollOutcome.title? : PollOutcome → Option String
  | .injected injection => some injection.title
  | _ => none

/-- What a run is given besides the page. -/
structure PollSetup where
  rule : Rule
  config : PollConfig
  ticker : Ticker
  /-- Whether the work is cancelled before it starts. -/
  isCancelled : Bool := false
  /-- When the work is cancelled from outside. -/
  cancelAt : Option Nat := none
  /--
  What the clock shows at the start, in milliseconds. A part of one counts as a whole one, as timers
  count it. All other times are counted from the start on.
  -/
  startedAt : Nat := 0

/-- A run under way. -/
structure PollRun where
  page : LivePage
  clock : Clock
  poller : Poller := {}
  /-- The ticks that were asked for, and those that came. -/
  ticksStarted : Nat := 0
  ticks : Nat := 0
  /-- When the next tick of an interval is due. -/
  due : Nat := 0
  /-- The requests made to the page, the last one first. -/
  calls : List PageCall := []

namespace PollRun

/-- Waits, and says why if the run is broken off. -/
def wait (r : PollRun) (wake : Option Nat) : PollRun × Option Stop :=
  let (clock, stop) := r.clock.wait wake
  ({ r with clock }, stop)

/-! ## Requests -/

/-- Makes a request and waits for the answer. -/
def call (r : PollRun) (call : PageCall) : PollRun × Option Stop :=
  let r := { r with calls := call :: r.calls }
  match (r.page.faults call).pause? r.clock.now with
  | some wake => r.wait wake
  | none => (r, none)

/-- Makes requests one after another. -/
def callAll (r : PollRun) : List PageCall → PollRun × Option Stop
  | [] => (r, none)
  | c :: rest =>
    match r.call c with
    | (r, none) => r.callAll rest
    | (r, some stop) => (r, some stop)

/-! ## Ticks -/

/-- Lets one thing happen. -/
def happen (r : PollRun) : HookAction → PollRun
  | .change change => { r with page := r.page.apply change }
  | .cancel => { r with clock := { r.clock with isCancelled := true } }

/-- Lets happen what happens at the tick that was asked for last. -/
def happenAll (r : PollRun) (hooks : Hooks) : PollRun :=
  (hooks r.ticksStarted).foldl happen r

/-- Counts a tick that came. -/
def countTick (r : PollRun) : PollRun :=
  { r with ticks := r.ticks + 1 }

/-- Ticks at once, letting others run before the tick comes. -/
def tickInstant (hooks : Hooks) (r : PollRun) : PollRun × Option Stop :=
  let r := r.happenAll hooks
  match r.wait (some r.clock.now) with
  | (r, none) => (r.countTick, none)
  | (r, some stop) => (r, some stop)

/-- Waits until the next tick of an interval is due, unless it is. -/
def waitDue (r : PollRun) : PollRun × Option Stop :=
  if r.due ≤ r.clock.now then (r, none) else r.wait (some r.due)

/-- Ticks when the time has come. -/
def tickInterval (interval : Nat) (hooks : Hooks) (r : PollRun) : PollRun × Option Stop :=
  match r.waitDue with
  | (r, none) =>
    let due := Ticker.nextDue interval r.due r.clock.now
    ({ r with due }.countTick.happenAll hooks, none)
  | (r, some stop) => (r, some stop)

/-- Waits for the next tick. -/
def tick (setup : PollSetup) (r : PollRun) : PollRun × Option Stop :=
  let r := { r with ticksStarted := r.ticksStarted + 1 }
  match setup.ticker with
  | .instant hooks => r.tickInstant hooks
  | .interval hooks => r.tickInterval setup.config.interval hooks

/-! ## Polling -/

/-- How polling ends, before the offer is made. -/
inductive Ending where
  | found (injection : Injection)
  | alreadyInjected
  | exhausted
  | stopped (stop : Stop)
  | failed (fault : PollFault)

/-- The ending that a tick brings, if it brings one. -/
def Ending.ofTick? : TickOutcome → Option Ending
  | .found injection => some (.found injection)
  | .exhausted | .finished => some .exhausted
  | .contentPending | .notReady => none

/-- Looks at the page. Gives the ending if there is one. -/
def look (setup : PollSetup) (r : PollRun) : PollRun × Option Ending :=
  match r.poller.tick setup.config setup.rule r.page with
  | .error fault => (r, some (.failed fault))
  | .ok (poller, calls, outcome) =>
    match { r with poller }.callAll calls with
    | (r, some stop) => (r, some (.stopped stop))
    | (r, none) => (r, Ending.ofTick? outcome)

/-- Waits for a tick and looks at the page. Gives the ending if there is one. -/
def round (setup : PollSetup) (r : PollRun) : PollRun × Option Ending :=
  match r.tick setup with
  | (r, some stop) => (r, some (.stopped stop))
  | (r, none) => r.look setup

/-!
### What requests and ticks leave alone

Requests change the clock and what was requested, and ticks leave the poller and the requests as
they are. Only a look at the page counts an attempt, so a round without an ending uses one up.
-/

theorem call_frame (r : PollRun) (c : PageCall) :
    ∃ clock, (r.call c).1 = { r with clock, calls := c :: r.calls } := by
  simp only [call]
  split
  · exact ⟨_, rfl⟩
  · exact ⟨r.clock, rfl⟩

theorem callAll_frame (r : PollRun) (cs : List PageCall) :
    ∃ clock calls, (r.callAll cs).1 = { r with clock, calls } := by
  induction cs generalizing r with
  | nil => exact ⟨r.clock, r.calls, rfl⟩
  | cons c cs ih =>
    obtain ⟨clock, hcall⟩ := r.call_frame c
    unfold callAll
    rcases h : r.call c with ⟨r', _ | stop⟩ <;> rw [h] at hcall <;> subst hcall
    · exact ih _
    · exact ⟨clock, _, rfl⟩

theorem callAll_poller (r : PollRun) (cs : List PageCall) :
    (r.callAll cs).1.poller = r.poller := by
  obtain ⟨clock, calls, h⟩ := r.callAll_frame cs
  rw [h]

theorem happenAll_frame (r : PollRun) (hooks : Hooks) :
    ∃ page clock, r.happenAll hooks = { r with page, clock } := by
  unfold happenAll
  generalize hooks r.ticksStarted = actions
  induction actions generalizing r with
  | nil => exact ⟨r.page, r.clock, rfl⟩
  | cons action actions ih => cases action <;> exact ih _

theorem tickInstant_frame (hooks : Hooks) (r : PollRun) :
    ∃ page clock ticks, (r.tickInstant hooks).1 = { r with page, clock, ticks } := by
  obtain ⟨page, clock, hhooks⟩ := r.happenAll_frame hooks
  have hwait : ((r.happenAll hooks).wait (some (r.happenAll hooks).clock.now)).1 =
      { r with page, clock := (clock.wait (some clock.now)).1 } := by rw [hhooks]; rfl
  simp only [tickInstant]
  split <;> rename_i h <;> rw [h] at hwait <;> subst hwait
  · exact ⟨page, _, _, rfl⟩
  · exact ⟨page, _, r.ticks, rfl⟩

theorem waitDue_frame (r : PollRun) : ∃ clock, r.waitDue.1 = { r with clock } := by
  unfold waitDue
  split
  · exact ⟨r.clock, rfl⟩
  · exact ⟨_, rfl⟩

theorem tickInterval_frame (interval : Nat) (hooks : Hooks) (r : PollRun) :
    ∃ page clock ticks due,
      (r.tickInterval interval hooks).1 = { r with page, clock, ticks, due } := by
  obtain ⟨clock, hwait⟩ := r.waitDue_frame
  simp only [tickInterval]
  split <;> rename_i h <;> rw [h] at hwait <;> subst hwait
  · obtain ⟨page, clock, hhooks⟩ := happenAll_frame _ hooks
    exact ⟨page, clock, _, _, hhooks⟩
  · exact ⟨r.page, clock, r.ticks, r.due, rfl⟩

theorem tick_frame (setup : PollSetup) (r : PollRun) :
    ∃ page clock ticks due, (r.tick setup).1 =
      { r with page, clock, ticks, due, ticksStarted := r.ticksStarted + 1 } := by
  unfold tick
  cases setup.ticker with
  | instant hooks =>
    obtain ⟨page, clock, ticks, h⟩ := tickInstant_frame hooks _
    exact ⟨page, clock, ticks, r.due, h⟩
  | interval hooks => exact tickInterval_frame _ hooks _

/-- Only a poller with an attempt left goes on, and has one less. -/
theorem look_eq_none {setup : PollSetup} {r r' : PollRun} (h : r.look setup = (r', none)) :
    r.poller.state = .waiting ∧ r.poller.attempts.toNat < setup.config.maxAttempts.toNat ∧
      r'.poller = { attempts := r.poller.attempts + 1 } := by
  unfold look at h
  by_cases hstate : r.poller.state = .waiting
  · by_cases hlt : r.poller.attempts.toNat < setup.config.maxAttempts.toNat
    · rw [Poller.tick_of_lt hstate hlt] at h
      simp only at h
      split at h
      · simp at h
      · rename_i r₁ hcalls
        have hpoller := congrArg (·.1.poller) hcalls
        simp only [callAll_poller] at hpoller
        obtain ⟨rfl, hending⟩ := Prod.mk.inj h
        refine ⟨hstate, hlt, ?_⟩
        cases hlook : setup.rule.look r.page <;> simp_all [Ending.ofTick?, Poller.afterLook]
    -- beyond the last attempt the poller gives up, or cannot even count the attempt
    · by_cases hsize : r.poller.attempts.toNat + 1 = UInt32.size
      · simp [Poller.tick_of_size hstate hsize] at h
      · have hle := r.poller.attempts.toNat_lt
        rw [Poller.tick_of_le hstate (by omega) (by simp only [UInt32.size] at *; omega)] at h
        simp [callAll, Ending.ofTick?] at h
  · simp [Poller.tick_of_ne_waiting hstate, callAll, Ending.ofTick?] at h

theorem round_eq_none {setup : PollSetup} {r r' : PollRun} (h : r.round setup = (r', none)) :
    r.poller.state = .waiting ∧ r.poller.attempts.toNat < setup.config.maxAttempts.toNat ∧
      r'.poller = { attempts := r.poller.attempts + 1 } := by
  obtain ⟨page, clock, ticks, due, htick⟩ := r.tick_frame setup
  unfold round at h
  rcases ht : r.tick setup with ⟨r₁, _ | stop⟩
  · rw [ht] at h htick
    have hpoller : r₁.poller = r.poller := congrArg (·.poller) htick
    rw [← hpoller]
    exact look_eq_none h
  · simp [ht] at h

/-- Round after round until there is an ending. -/
def rounds (setup : PollSetup) (r : PollRun) : PollRun × Ending :=
  match _ : r.round setup with
  | (r', some ending) => (r', ending)
  | (r', none) => rounds setup r'
termination_by setup.config.maxAttempts.toNat - r.poller.attempts.toNat
decreasing_by
  obtain ⟨-, hlt, hpoller⟩ := round_eq_none ‹_›
  rw [hpoller]
  simp only [Poller.toNat_attempts_add_one hlt]
  omega

/-- Asks for the address of the page and goes on in rounds. -/
def startRounds (setup : PollSetup) (r : PollRun) : PollRun × Ending :=
  match r.call .url with
  | (r, some stop) => (r, .stopped stop)
  | (r, none) => r.rounds setup

/-- Polls a page, unless the offer was made before. -/
def poll (setup : PollSetup) (r : PollRun) : PollRun × Ending :=
  match r.call .isInjected with
  | (r, some stop) => (r, .stopped stop)
  | (r, none) =>
    match r.page.isInjected with
    | .ok true => (r, .alreadyInjected)
    | .ok false | .error _ => r.startRounds setup

/-! ## The end of a run -/

/-- The outcome of a run that was cancelled. -/
def cancelledOutcome (r : PollRun) : PollOutcome :=
  .cancelled r.poller.attempts.toNat

/-- Makes the offer. Whether or not the page takes it in time, the page was ready. -/
def makeOffer (r : PollRun) (injection : Injection) : PollRun × PollOutcome :=
  if r.clock.isCancelled then (r, r.cancelledOutcome)
  else
    match r.call .inject with
    | (r, some .cancelled) => (r, r.cancelledOutcome)
    | (r, some .deadline) => (r, .injected injection)
    | (r, none) =>
      match r.page.inject injection with
      | .ok page => ({ r with page }, .injected injection)
      | .error _ => (r, .injected injection)

/-- Carries out what an ending of polling asks for. -/
def finish (setup : PollSetup) (r : PollRun) : Ending → Except PollFault (PollRun × PollOutcome)
  | .found injection => .ok (r.makeOffer injection)
  | .alreadyInjected => .ok (r, .alreadyInjected)
  | .exhausted => .ok (r, .exhausted setup.config.maxAttempts.toNat)
  | .stopped .cancelled => .ok (r, r.cancelledOutcome)
  | .stopped .deadline =>
    .ok (r, .exhausted (min r.poller.attempts setup.config.maxAttempts).toNat)
  | .failed fault => .error fault

end PollRun

namespace PollSetup

/-- Refuses an interval that is no time. -/
def checkTicker (s : PollSetup) : Except PollFault Unit :=
  match s.ticker with
  | .instant _ => .ok ()
  | .interval _ => if s.config.interval = 0 then .error .zeroInterval else .ok ()

/-- The end of polling, counted from the start. -/
def deadline (s : PollSetup) : Except PollFault Nat :=
  s.config.deadline s.startedAt

/-- The start of a run with the given deadline. -/
def start (s : PollSetup) (page : LivePage) (deadline : Nat) : PollRun :=
  { page, clock := { deadline, isCancelled := s.isCancelled, cancelAt := s.cancelAt } }

/-- Runs until the end. -/
def run (s : PollSetup) (page : LivePage) : Except PollFault (PollRun × PollOutcome) := do
  s.checkTicker
  let r := s.start page (← s.deadline)
  if s.isCancelled then return (r, r.cancelledOutcome)
  let (r, ending) := r.poll s
  r.finish s ending

end PollSetup

end ShowScout
