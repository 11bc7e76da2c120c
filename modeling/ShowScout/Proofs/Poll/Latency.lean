import Mathlib.Algebra.GroupWithZero.Nat
import ShowScout.Proofs.Poll.CancelAt

/-!
# Answers that take time

With ticks at once, time passes only while the page is asked for something. A page that takes time to
answer is asked for the same as one that answers at once, as long as the answers come before the
deadline, so that the run ends in the same way and has taken as long as the answers. `Lags` says so
of a part of a run.
-/

namespace ShowScout

/-! ## Pages without delays -/

namespace Fault

/-- The same fault without the time it takes. -/
def prompt : Fault → Fault
  | delay _ fails => delay 0 fails
  | fault => fault

/-- The time that an answer takes, in milliseconds. -/
def latency : Fault → Nat
  | delay milliseconds _ => milliseconds
  | _ => 0

@[simp]
theorem fails_prompt (fault : Fault) : fault.prompt.fails = fault.fails := by
  cases fault <;> rfl

@[simp]
theorem latency_prompt (fault : Fault) : fault.prompt.latency = 0 := by
  cases fault <;> rfl

theorem prompt_eq_stall_iff {fault : Fault} : fault.prompt = .stall ↔ fault = .stall := by
  cases fault <;> simp [prompt]

end Fault

namespace LivePage

/-- The same page with answers that take no time. -/
def prompt (p : LivePage) : LivePage :=
  { p with faults := fun call => (p.faults call).prompt }

/-- The page answers every request at some time. -/
def Answers (p : LivePage) : Prop :=
  ∀ call, p.faults call ≠ .stall

variable {p : LivePage}

theorem Answers.prompt (h : p.Answers) : p.prompt.Answers :=
  fun call => mt Fault.prompt_eq_stall_iff.1 (h call)

@[simp]
theorem reply_prompt {α : Type} (p : LivePage) (call : PageCall) (answer : Except PageError α) :
    p.prompt.reply call answer = p.reply call answer := by
  simp [reply, prompt]

@[simp]
theorem isInjected_prompt (p : LivePage) : p.prompt.isInjected = p.isInjected :=
  p.reply_prompt .isInjected _

theorem inject_prompt (p : LivePage) (i : Injection) :
    p.prompt.inject i = (p.inject i).map prompt := by
  unfold inject reply
  simp only [prompt, Fault.fails_prompt]
  split <;> rfl

end LivePage

namespace Rule

variable (rule : Rule) (p : LivePage)

@[simp]
theorem hasContent_prompt : rule.hasContent p.prompt = rule.hasContent p := by
  have hbody : p.prompt.body = p.body := p.reply_prompt .body _
  unfold hasContent
  rw [hbody]

theorem rawTitle_prompt : rule.rawTitle p.prompt = rule.rawTitle p := by
  have htitle : p.prompt.title = p.title := p.reply_prompt .title _
  have hevaluate (xpath : String) : p.prompt.evaluate xpath = p.evaluate xpath :=
    p.reply_prompt .evaluate _
  unfold rawTitle
  rw [htitle]
  simp only [hevaluate]

@[simp]
theorem title?_prompt : rule.title? p.prompt = rule.title? p := by
  rw [title?, rawTitle_prompt]
  rfl

@[simp]
theorem target?_prompt : rule.target? p.prompt = rule.target? p := by
  have hlocate : p.prompt.locate rule.injectionXpath = p.locate rule.injectionXpath :=
    p.reply_prompt .locate _
  unfold target?
  rw [hlocate]

/-- How long the answers take makes no difference to what a look finds. -/
theorem look_prompt : rule.look p.prompt = rule.look p := by
  simp [look, lookForTitle]

theorem lookCalls_prompt : rule.lookCalls p.prompt = rule.lookCalls p := by
  simp [lookCalls]

end Rule

theorem Poller.tick_prompt (config : PollConfig) (rule : Rule) (page : LivePage) (p : Poller) :
    p.tick config rule page.prompt = p.tick config rule page := by
  simp only [tick, Rule.look_prompt, Rule.lookCalls_prompt]

/-! ## Ticks without delays -/

/-- The same change without the time that a fault takes. -/
def PageChange.prompt : PageChange → PageChange
  | .fault call original => .fault call original.prompt
  | other => other

def HookAction.prompt : HookAction → HookAction
  | .change original => .change original.prompt
  | .cancel => .cancel

theorem LivePage.happen_prompt (p : LivePage) (action : HookAction) :
    p.prompt.happen action.prompt = (p.happen action).prompt := by
  cases action with
  | cancel => rfl
  | change change =>
    cases change with
    | fault call fault =>
      simp only [HookAction.prompt, PageChange.prompt, happen, apply, prompt, LivePage.mk.injEq,
        true_and]
      funext c
      split <;> rfl
    | _ => rfl

namespace Hooks

/-- The same happens at each tick, but no fault takes time. -/
def prompt (hooks : Hooks) : Hooks :=
  fun n => (hooks n).map HookAction.prompt

/-- Nothing that happens keeps the page from answering. -/
def Answers (hooks : Hooks) : Prop :=
  ∀ n, ∀ action ∈ hooks n, ∀ call, action ≠ .change (.fault call .stall)

/-- The time that the page takes to answer requests, each made after a number of ticks. -/
def latency (hooks : Hooks) (page : LivePage) (log : List (Nat × PageCall)) : Nat :=
  (log.map fun (n, call) => ((hooks.pageAt page n).faults call).latency).sum

variable {hooks : Hooks} {page : LivePage}

theorem pageAt_prompt (hooks : Hooks) (page : LivePage) (n : Nat) :
    hooks.prompt.pageAt page.prompt n = (hooks.pageAt page n).prompt := by
  induction n with
  | zero => rfl
  | succ n ih =>
    rw [pageAt, pageAt, ih, prompt]
    generalize hooks.pageAt page n = p
    induction hooks (n + 1) generalizing p with
    | nil => rfl
    | cons action actions ih' =>
      rw [List.map_cons, List.foldl_cons, List.foldl_cons, LivePage.happen_prompt]
      exact ih' _

theorem foldl_happen_answers {p : LivePage} {actions : List HookAction} (hp : p.Answers)
    (h : ∀ action ∈ actions, ∀ call, action ≠ .change (.fault call .stall)) :
    (actions.foldl LivePage.happen p).Answers := by
  induction actions generalizing p with
  | nil => exact hp
  | cons action actions ih =>
    simp only [List.forall_mem_cons] at h
    refine ih ?_ h.2
    cases action with
    | cancel => exact hp
    | change change =>
      cases change with
      | fault call fault =>
        intro c
        simp only [LivePage.happen, LivePage.apply]
        split
        · rintro rfl
          exact h.1 call rfl
        · exact hp c
      | _ => exact hp

theorem pageAt_answers (hhooks : hooks.Answers) (hpage : page.Answers) (n : Nat) :
    (hooks.pageAt page n).Answers := by
  induction n with
  | zero => exact hpage
  | succ n ih => exact foldl_happen_answers ih (hhooks (n + 1))

theorem Answers.prompt (h : hooks.Answers) : hooks.prompt.Answers := by
  intro n action haction call
  obtain ⟨original, horiginal, rfl⟩ := List.mem_map.1 haction
  have hstall := h n original horiginal call
  cases original with
  | cancel => nofun
  | change change =>
    cases change with
    | fault c fault => cases fault <;> simp_all [HookAction.prompt, PageChange.prompt, Fault.prompt]
    | _ => nofun

theorem cancelTicks_prompt (hooks : Hooks) : hooks.prompt.cancelTicks = hooks.cancelTicks := by
  ext n
  have hcancel (action : HookAction) : action.prompt = .cancel ↔ action = .cancel := by
    cases action <;> simp [HookAction.prompt]
  simp [cancelTicks, prompt, hcancel]

theorem latency_append (log log' : List (Nat × PageCall)) :
    hooks.latency page (log ++ log') = hooks.latency page log + hooks.latency page log' := by
  simp [latency]

end Hooks

/-- The same ticks, at which no fault takes time. -/
def Ticker.prompt : Ticker → Ticker
  | .instant hooks => .instant hooks.prompt
  | .interval hooks => .interval hooks.prompt

/-- The same work at pages without delays. -/
def PollSetup.prompt (s : PollSetup) : PollSetup :=
  { s with ticker := s.ticker.prompt }

/-! ## What a run asks for -/

namespace PollRun

/-- The requests made from one point of a run to a later one, each with the number of ticks by then,
and the last one first. -/
def madeSince (r r' : PollRun) : List (Nat × PageCall) :=
  (r'.calls.take (r'.calls.length - r.calls.length)).map (r'.ticks, ·)

theorem madeSince_eq {r r' : PollRun} (made : List PageCall) (h : r'.calls = made ++ r.calls) :
    r.madeSince r' = made.map (r'.ticks, ·) := by
  simp [madeSince, h]

/-- The requests made in rounds. -/
def roundsLog (setup : PollSetup) (r : PollRun) : List (Nat × PageCall) :=
  (match _ : r.round setup with
    | (_, some _) => []
    | (r', none) => r'.roundsLog setup) ++ r.madeSince (r.round setup).1
termination_by setup.config.maxAttempts.toNat - r.poller.attempts.toNat
decreasing_by
  obtain ⟨-, hlt, hpoller⟩ := round_eq_none ‹_›
  rw [hpoller]
  simp only [Poller.toNat_attempts_add_one hlt]
  omega

/-- The requests of a run that found no offer. -/
def startLog (setup : PollSetup) (r : PollRun) : List (Nat × PageCall) :=
  (match r.call .url with
    | (_, some _) => []
    | (asked, none) => asked.roundsLog setup) ++ r.madeSince (r.call .url).1

/-- The requests of polling. -/
def pollLog (setup : PollSetup) (r : PollRun) : List (Nat × PageCall) :=
  (match r.call .isInjected with
    | (_, some _) => []
    | (asked, none) =>
      match asked.page.isInjected with
      | .ok true => []
      | .ok false | .error _ => asked.startLog setup) ++ r.madeSince (r.call .isInjected).1

/-- The requests made when polling is over. -/
def finishLog (setup : PollSetup) (r : PollRun) (ending : Ending) : List (Nat × PageCall) :=
  match r.finish setup ending with
  | .ok (r', _) => r.madeSince r'
  | .error _ => []

theorem roundsLog_of_some {setup : PollSetup} {r r' : PollRun} {ending : Ending}
    (h : r.round setup = (r', some ending)) : r.roundsLog setup = r.madeSince r' := by
  rw [roundsLog]
  split <;> simp_all

theorem roundsLog_of_none {setup : PollSetup} {r r' : PollRun} (h : r.round setup = (r', none)) :
    r.roundsLog setup = r'.roundsLog setup ++ r.madeSince r' := by
  rw [roundsLog]
  split <;> simp_all

end PollRun

/-- The requests that a run makes, each with the number of ticks by then, the last one first. -/
def PollSetup.log (s : PollSetup) (page : LivePage) : List (Nat × PageCall) :=
  match s.checkTicker, s.deadline with
  | .ok (), .ok deadline =>
    if s.isCancelled then []
    else
      let start := s.start page deadline
      (start.poll s).1.finishLog s (start.poll s).2 ++ start.pollLog s
  | _, _ => []

/-! ## Waiting for answers -/

/-- The run has ticks at once and is not cancelled once it has started, and the page answers all
that it is asked for. -/
structure Undisturbed (s : PollSetup) (hooks : Hooks) (page : LivePage) : Prop where
  ticker_eq : s.ticker = .instant hooks
  cancelTicks_eq : hooks.cancelTicks = ∅
  page_answers : page.Answers
  hooks_answer : hooks.Answers

theorem Undisturbed.prompt {s : PollSetup} {hooks : Hooks} {page : LivePage}
    (hs : Undisturbed s hooks page) : Undisturbed s.prompt hooks.prompt page.prompt where
  ticker_eq := by rw [PollSetup.prompt, hs.ticker_eq, Ticker.prompt]
  cancelTicks_eq := by rw [Hooks.cancelTicks_prompt, hs.cancelTicks_eq]
  page_answers := hs.page_answers.prompt
  hooks_answer := hs.hooks_answer.prompt

namespace PollRun

/-- The page answers all that it is asked for, and nothing is known of a cancelling. -/
structure Unhindered (r : PollRun) : Prop where
  answers : r.page.Answers
  isCancelled_eq : r.clock.isCancelled = false
  cancelAt_eq : r.clock.cancelAt = none

/-- The run as it stands, after so much more time. -/
def delay (r : PollRun) (milliseconds : Nat) : PollRun :=
  { r with clock := { r.clock with now := r.clock.now + milliseconds } }

/-- The time that the page as it stands takes to answer requests. -/
def latency (r : PollRun) (cs : List PageCall) : Nat :=
  (cs.map fun c => (r.page.faults c).latency).sum

/-- The run once requests were answered. -/
def answered (r : PollRun) (cs : List PageCall) : PollRun :=
  { r with calls := cs.reverse ++ r.calls }.delay (r.latency cs)

section Requests

variable {r : PollRun}

theorem wait_in_time (time : Nat) (hr : r.Unhindered)
    (hlt : r.clock.now + time < r.clock.deadline) :
    r.wait (some (r.clock.now + time)) = (r.delay time, none) := by
  have hup : ¬ r.clock.deadline ≤ r.clock.now := by omega
  have hnever : r.clock.cancelTime? (some (r.clock.now + time)) = none := by
    simp [Clock.cancelTime?, hr.cancelAt_eq]
  have hend : max r.clock.now (r.clock.waitEnd (some (r.clock.now + time))) =
      r.clock.now + time := by
    simp only [Clock.waitEnd]
    omega
  have hintime : r.clock.isInTime (some (r.clock.now + time)) = true := by
    simp only [Clock.isInTime, decide_eq_true_eq]
    omega
  unfold wait
  rw [Clock.wait_of_undisturbed hup (by simp [hr.isCancelled_eq]) hnever, hend, hintime]
  rfl

/-- A request whose answer comes before the deadline takes as long as the answer. -/
theorem call_in_time {c : PageCall} (hr : r.Unhindered)
    (hlt : r.clock.now + r.latency [c] < r.clock.deadline) :
    r.call c = (r.answered [c], none) := by
  let asked := { r with calls := c :: r.calls }
  have hasked : asked.Unhindered := ⟨hr.answers, hr.isCancelled_eq, hr.cancelAt_eq⟩
  have hanswer := hr.answers c
  simp only [answered, latency, List.map_cons, List.map_nil, List.sum_cons, List.sum_nil,
    Nat.add_zero, call] at hlt ⊢
  -- only a delay is waited for, and one of no time is not
  cases hfault : r.page.faults c with
  | none => rfl
  | error => rfl
  | stall => exact absurd hfault hanswer
  | delay milliseconds fails =>
    rw [hfault] at hlt
    cases milliseconds with
    | zero => rfl
    | succ n => exact wait_in_time (n + 1) hasked hlt

theorem callAll_in_time {cs : List PageCall} (hr : r.Unhindered)
    (hlt : r.clock.now + r.latency cs < r.clock.deadline) :
    r.callAll cs = (r.answered cs, none) := by
  -- the answers do not change the page, so each takes as long as it would at first
  induction cs generalizing r with
  | nil => rfl
  | cons c cs ih =>
    have hcons : r.latency (c :: cs) = r.latency [c] + r.latency cs := by simp [latency]
    have hfirst : (r.answered [c]).Unhindered := ⟨hr.answers, hr.isCancelled_eq, hr.cancelAt_eq⟩
    have hnow : (r.answered [c]).clock.now = r.clock.now + r.latency [c] := rfl
    have hlatency : (r.answered [c]).latency cs = r.latency cs := rfl
    have hdeadline : (r.answered [c]).clock.deadline = r.clock.deadline := rfl
    rw [hcons] at hlt
    have hrest := ih hfirst (by omega)
    rw [callAll, call_in_time hr (by omega)]
    simp only
    rw [hrest]
    simp [answered, delay, latency, Nat.add_assoc]

end Requests

/-! ## Parts of a run -/

/-- Where a run stands that was not hindered: all ticks came, and changed the page. -/
structure InStep (hooks : Hooks) (page : LivePage) (r : PollRun) : Prop extends r.Unhindered where
  page_eq : r.page = hooks.pageAt page r.ticks
  pace : r.ticks = r.ticksStarted

/-- The same run at a page without delays, at which it takes no time. -/
def prompt (r : PollRun) : PollRun :=
  { r with page := r.page.prompt, clock := { r.clock with now := 0 } }

/-- The run as its next tick comes. -/
def nextTick (hooks : Hooks) (page : LivePage) (r : PollRun) : PollRun :=
  { r with
    page := hooks.pageAt page (r.ticks + 1)
    ticksStarted := r.ticks + 1
    ticks := r.ticks + 1 }

/-- What comes of a part of a run, `out`, is what comes of it at a page without delays, `out'`, but
later, by the time that the answers take to the requests made there. -/
structure Lags {α : Type} (hooks : Hooks) (page : LivePage) (r : PollRun)
    (log : List (Nat × PageCall)) (out out' : PollRun × α) : Prop where
  clock_eq : out.1.clock = (r.delay (hooks.latency page log)).clock
  calls_eq : out.1.calls = log.map (·.2) ++ r.calls
  eq_prompt : out' = (out.1.prompt, out.2)

/-- The run lags and may go on. -/
structure LagsInStep {α : Type} (hooks : Hooks) (page : LivePage) (r : PollRun)
    (log : List (Nat × PageCall)) (out out' : PollRun × α) : Prop
    extends Lags hooks page r log out out' where
  inStep : InStep hooks page out.1

section Parts

variable {s : PollSetup} {hooks : Hooks} {page : LivePage} {r : PollRun}

theorem Unhindered.prompt (hr : r.Unhindered) : r.prompt.Unhindered :=
  ⟨hr.answers.prompt, hr.isCancelled_eq, hr.cancelAt_eq⟩

theorem InStep.prompt (hr : InStep hooks page r) : InStep hooks.prompt page.prompt r.prompt where
  toUnhindered := hr.toUnhindered.prompt
  page_eq := by
    rw [Hooks.pageAt_prompt]
    exact congrArg LivePage.prompt hr.page_eq
  pace := hr.pace

theorem latency_prompt (cs : List PageCall) : r.prompt.latency cs = 0 := by
  simp [latency, prompt, LivePage.prompt, List.map_const']

/-- At a page without delays, answers are in time whenever any would be. -/
theorem prompt_in_time {time : Nat} (hlt : time < r.clock.deadline) (cs : List PageCall) :
    r.prompt.clock.now + r.prompt.latency cs < r.prompt.clock.deadline := by
  rw [latency_prompt]
  exact Nat.lt_of_le_of_lt (Nat.zero_le time) hlt

theorem InStep.latency_eq (hr : InStep hooks page r) (cs : List PageCall) :
    hooks.latency page (cs.reverse.map (r.ticks, ·)) = r.latency cs := by
  simp only [Hooks.latency, latency, hr.page_eq, List.map_map, List.map_reverse, List.sum_reverse]
  rfl

theorem answered_prompt (r : PollRun) (cs : List PageCall) :
    r.prompt.answered cs = (r.answered cs).prompt := by
  simp only [answered, latency_prompt]
  rfl

theorem madeSince_answered (r : PollRun) (poller : Poller) (cs : List PageCall) :
    r.madeSince ({ r with poller }.answered cs) = cs.reverse.map (r.ticks, ·) :=
  madeSince_eq _ rfl

/-- Requests that are answered in time are all that comes between. -/
theorem InStep.lags_answered {α : Type} (hr : InStep hooks page r) (poller : Poller)
    (cs : List PageCall) (a : α) :
    LagsInStep hooks page r (cs.reverse.map (r.ticks, ·)) ({ r with poller }.answered cs, a)
      (({ r with poller }.answered cs).prompt, a) where
  clock_eq := by
    rw [hr.latency_eq]
    rfl
  calls_eq := by simp [answered, delay, Function.comp_def]
  eq_prompt := rfl
  inStep := ⟨⟨hr.answers, hr.isCancelled_eq, hr.cancelAt_eq⟩, hr.page_eq, hr.pace⟩

theorem nextTick_prompt : r.prompt.nextTick hooks.prompt page.prompt =
    (r.nextTick hooks page).prompt := by
  simp only [nextTick, prompt, Hooks.pageAt_prompt]

theorem tick_in_time (hs : Undisturbed s hooks page) (hr : InStep hooks page r)
    (hlt : r.clock.now < r.clock.deadline) :
    r.tick s = (r.nextTick hooks page, none) ∧ InStep hooks page (r.nextTick hooks page) := by
  have hnot : .cancel ∉ hooks (r.ticksStarted + 1) := by
    intro hcancel
    have hmem : r.ticksStarted + 1 ∈ hooks.cancelTicks := ⟨Nat.succ_pos _, hcancel⟩
    rw [hs.cancelTicks_eq] at hmem
    exact hmem
  have hpage : (hooks (r.ticksStarted + 1)).foldl LivePage.happen r.page =
      hooks.pageAt page (r.ticks + 1) := by
    rw [Hooks.pageAt, hr.page_eq, hr.pace]
  have hnext : InStep hooks page (r.nextTick hooks page) :=
    ⟨⟨Hooks.pageAt_answers hs.hooks_answer hs.page_answers _, hr.isCancelled_eq, hr.cancelAt_eq⟩,
      rfl, rfl⟩
  refine ⟨?_, hnext⟩
  -- the tick waits for the time that it is already, and only the deadline could keep it from that
  let asked : PollRun := { r with ticksStarted := r.ticksStarted + 1 }
  have hhappened : asked.happenAll hooks = { r with
      page := hooks.pageAt page (r.ticks + 1)
      ticksStarted := r.ticks + 1 } := by
    simp [happenAll, foldl_happen_eq, asked, hpage, hnot, hr.pace]
  have hwait : (asked.happenAll hooks).wait (some (asked.happenAll hooks).clock.now) =
      (asked.happenAll hooks, none) := by
    rw [hhappened]
    exact wait_in_time 0 ⟨hnext.answers, hr.isCancelled_eq, hr.cancelAt_eq⟩ hlt
  rw [r.tick_of_instant hs.ticker_eq, tickInstant_eq, hwait, hhappened]
  rfl

theorem look_in_time {poller : Poller} {calls : List PageCall} {outcome : TickOutcome}
    (hr : r.Unhindered)
    (htick : r.poller.tick s.config s.rule r.page = .ok (poller, calls, outcome))
    (hlt : r.clock.now + r.latency calls < r.clock.deadline) :
    r.look s = ({ r with poller }.answered calls, Ending.ofTick? outcome) := by
  have hcounted : Unhindered { r with poller } := ⟨hr.answers, hr.isCancelled_eq, hr.cancelAt_eq⟩
  rw [look_of_tick htick, callAll_in_time hcounted hlt]
  rfl

theorem lags_look (hr : InStep hooks page r)
    (hlt : r.clock.now +
      hooks.latency page (r.prompt.madeSince (r.prompt.look s.prompt).1) < r.clock.deadline) :
    LagsInStep hooks page r (r.prompt.madeSince (r.prompt.look s.prompt).1) (r.look s)
      (r.prompt.look s.prompt) := by
  have htick' : r.prompt.poller.tick s.prompt.config s.prompt.rule r.prompt.page =
      r.poller.tick s.config s.rule r.page := Poller.tick_prompt s.config s.rule r.page r.poller
  rcases htick : r.poller.tick s.config s.rule r.page with fault | ⟨poller, calls, outcome⟩ <;>
    rw [htick] at htick'
  · have hlook : r.look s = (r, some (.failed fault)) := by simp [look, htick]
    have hlook' : r.prompt.look s.prompt = (r.prompt, some (.failed fault)) := by
      simp [look, htick']
    have hnone : r.prompt.madeSince r.prompt = [] := madeSince_eq [] rfl
    rw [hlook, hlook', hnone]
    exact ⟨⟨rfl, rfl, rfl⟩, hr⟩
  -- what is asked for depends on the page alone, which is the same but for its delays
  · have hlook' := look_in_time hr.toUnhindered.prompt htick' (prompt_in_time hlt calls)
    rw [hlook', madeSince_answered] at hlt ⊢
    have hlook := look_in_time hr.toUnhindered htick (hr.latency_eq calls ▸ hlt)
    have hprompt := answered_prompt { r with poller } calls
    rw [hlook]
    exact hprompt ▸ hr.lags_answered poller calls (Ending.ofTick? outcome)

/-- A round is a tick and a look at the page, and only the look takes time. -/
theorem lags_round (hs : Undisturbed s hooks page) (hr : InStep hooks page r)
    (hlt : r.clock.now +
      hooks.latency page (r.prompt.madeSince (r.prompt.round s.prompt).1) < r.clock.deadline) :
    LagsInStep hooks page r (r.prompt.madeSince (r.prompt.round s.prompt).1) (r.round s)
      (r.prompt.round s.prompt) := by
  have hlate : r.clock.now < r.clock.deadline := Nat.lt_of_le_of_lt (Nat.le_add_right _ _) hlt
  obtain ⟨htick, hnext⟩ := tick_in_time hs hr hlate
  obtain ⟨htick', -⟩ := tick_in_time hs.prompt hr.prompt (Nat.lt_of_le_of_lt (Nat.zero_le _) hlate)
  rw [nextTick_prompt] at htick'
  rw [round_of_tick htick'] at hlt ⊢
  rw [round_of_tick htick]
  obtain ⟨⟨hclock, hcalls, hprompt⟩, hinStep⟩ := lags_look hnext hlt
  exact ⟨⟨hclock, hcalls, hprompt⟩, hinStep⟩

/-- One part of a run after another. -/
theorem Lags.trans {α β : Type} {r' : PollRun} {log log' : List (Nat × PageCall)} {a : α}
    {out out' : PollRun × β} (h : Lags hooks page r log (r', a) (r'.prompt, a))
    (h' : Lags hooks page r' log' out out') : Lags hooks page r (log' ++ log) out out' := by
  refine ⟨?_, ?_, h'.eq_prompt⟩
  · rw [h'.clock_eq, delay, h.clock_eq, Hooks.latency_append]
    simp [delay, Nat.add_assoc, Nat.add_comm]
  · rw [h'.calls_eq, h.calls_eq, List.map_append, List.append_assoc]

/-- What is in time after one part of a run is so from its start. -/
theorem Lags.in_time {α : Type} {log log' : List (Nat × PageCall)} {out out' : PollRun × α}
    (h : Lags hooks page r log out out')
    (hlt : r.clock.now + hooks.latency page (log' ++ log) < r.clock.deadline) :
    out.1.clock.now + hooks.latency page log' < out.1.clock.deadline := by
  rw [h.clock_eq]
  rw [Hooks.latency_append] at hlt
  simp only [delay]
  omega

theorem round_prompt (hs : Undisturbed s hooks page) (hr : InStep hooks page r)
    (hlt : r.clock.now + hooks.latency page (r.prompt.roundsLog s.prompt) < r.clock.deadline)
    {r' : PollRun} {ending : Option Ending} (h : r.round s = (r', ending)) :
    r.prompt.round s.prompt = (r'.prompt, ending) ∧
      LagsInStep hooks page r (r.prompt.madeSince r'.prompt) (r', ending) (r'.prompt, ending) := by
  -- the round is in time, since what is asked for in the rounds after it only adds to the log
  have hround := lags_round hs hr (by rw [roundsLog, Hooks.latency_append] at hlt; omega)
  have hprompt := hround.eq_prompt
  rw [h] at hprompt
  rw [h, hprompt] at hround
  exact ⟨hprompt, hround⟩

theorem lags_rounds (hs : Undisturbed s hooks page) (hr : InStep hooks page r)
    (hlt : r.clock.now + hooks.latency page (r.prompt.roundsLog s.prompt) < r.clock.deadline) :
    LagsInStep hooks page r (r.prompt.roundsLog s.prompt) (r.rounds s)
      (r.prompt.rounds s.prompt) := by
  fun_induction rounds s r with
  | case1 r r' ending h =>
    obtain ⟨hprompt, hround⟩ := round_prompt hs hr hlt h
    rw [roundsLog_of_some hprompt, rounds_of_some hprompt]
    exact ⟨⟨hround.clock_eq, hround.calls_eq, rfl⟩, hround.inStep⟩
  | case2 r r' h ih =>
    obtain ⟨hprompt, hround⟩ := round_prompt hs hr hlt h
    rw [roundsLog_of_none hprompt] at hlt ⊢
    rw [rounds_of_none hprompt]
    have hrest := ih hround.inStep (hround.in_time hlt)
    exact ⟨hround.trans hrest.toLags, hrest.inStep⟩

theorem call_prompt (hr : InStep hooks page r) {c : PageCall}
    (hlt : r.clock.now +
      hooks.latency page (r.prompt.madeSince (r.prompt.call c).1) < r.clock.deadline) :
    ∃ asked, r.call c = (asked, none) ∧ r.prompt.call c = (asked.prompt, none) ∧
      LagsInStep hooks page r (r.prompt.madeSince asked.prompt) (asked, ()) (asked.prompt, ()) := by
  have hcall' := call_in_time hr.toUnhindered.prompt (prompt_in_time hlt [c])
  have hlog : r.prompt.madeSince (r.prompt.answered [c]) = [c].reverse.map (r.ticks, ·) :=
    madeSince_answered r.prompt r.poller [c]
  rw [hcall', hlog, hr.latency_eq] at hlt
  refine ⟨r.answered [c], call_in_time hr.toUnhindered hlt, ?_, ?_⟩
  · rw [hcall', answered_prompt]
  · rw [← answered_prompt, hlog, answered_prompt]
    exact hr.lags_answered r.poller [c] ()

theorem lags_startRounds (hs : Undisturbed s hooks page) (hr : InStep hooks page r)
    (hlt : r.clock.now + hooks.latency page (r.prompt.startLog s.prompt) < r.clock.deadline) :
    LagsInStep hooks page r (r.prompt.startLog s.prompt) (r.startRounds s)
      (r.prompt.startRounds s.prompt) := by
  obtain ⟨asked, hcall, hcall', hasked⟩ :=
    call_prompt hr (c := .url) (by rw [startLog, Hooks.latency_append] at hlt; omega)
  have hlog : r.prompt.startLog s.prompt =
      asked.prompt.roundsLog s.prompt ++ r.prompt.madeSince asked.prompt := by
    rw [startLog, hcall']
  rw [hlog] at hlt ⊢
  rw [startRounds, startRounds, hcall, hcall']
  have hrest := lags_rounds hs hasked.inStep (hasked.in_time hlt)
  exact ⟨hasked.trans hrest.toLags, hrest.inStep⟩

theorem lags_poll (hs : Undisturbed s hooks page) (hr : InStep hooks page r)
    (hlt : r.clock.now + hooks.latency page (r.prompt.pollLog s.prompt) < r.clock.deadline) :
    LagsInStep hooks page r (r.prompt.pollLog s.prompt) (r.poll s) (r.prompt.poll s.prompt) := by
  obtain ⟨asked, hcall, hcall', hasked⟩ :=
    call_prompt hr (c := .isInjected) (by rw [pollLog, Hooks.latency_append] at hlt; omega)
  have hmarker : asked.prompt.page.isInjected = asked.page.isInjected :=
    asked.page.isInjected_prompt
  rw [pollLog, hcall'] at hlt ⊢
  rw [poll, poll, hcall, hcall']
  simp only [hmarker] at hlt ⊢
  rcases hinjected : asked.page.isInjected with error | _ | _ <;> rw [hinjected] at hlt
  case ok.true => exact ⟨⟨hasked.clock_eq, hasked.calls_eq, rfl⟩, hasked.inStep⟩
  all_goals
    have hrest := lags_startRounds hs hasked.inStep (hasked.in_time hlt)
    exact ⟨hasked.trans hrest.toLags, hrest.inStep⟩

/-! ## The end of a run -/

/-- The page may refuse the offer, which is told as made. -/
theorem makeOffer_in_time (hr : r.Unhindered) (i : Injection)
    (hlt : r.clock.now + r.latency [.inject] < r.clock.deadline) :
    r.makeOffer i =
      ({ r.answered [.inject] with page := (r.page.inject i).toOption.getD r.page },
        .injected i) := by
  have hpage : (r.answered [.inject]).page = r.page := rfl
  unfold makeOffer
  rw [hr.isCancelled_eq, call_in_time hr hlt]
  simp only [hpage]
  cases r.page.inject i <;> rfl

theorem lags_makeOffer (hr : InStep hooks page r) (i : Injection)
    (hlt : r.clock.now +
      hooks.latency page (r.prompt.madeSince (r.prompt.makeOffer i).1) < r.clock.deadline) :
    Lags hooks page r (r.prompt.madeSince (r.prompt.makeOffer i).1) (r.makeOffer i)
      (r.prompt.makeOffer i) := by
  have hoffer' := makeOffer_in_time hr.toUnhindered.prompt i (prompt_in_time hlt [.inject])
  have hlog : r.prompt.madeSince (r.prompt.makeOffer i).1 =
      [PageCall.inject].reverse.map (r.ticks, ·) := by
    rw [hoffer']
    exact madeSince_eq _ rfl
  rw [hlog] at hlt ⊢
  have hpage : (r.prompt.page.inject i).toOption.getD r.prompt.page =
      ((r.page.inject i).toOption.getD r.page).prompt := by
    have hinject : r.prompt.page.inject i = _ := r.page.inject_prompt i
    rw [hinject]
    cases r.page.inject i <;> rfl
  have hasked := hr.lags_answered r.poller [.inject] ()
  rw [hoffer', hpage, answered_prompt,
    makeOffer_in_time hr.toUnhindered i (hr.latency_eq [.inject] ▸ hlt)]
  exact ⟨hasked.clock_eq, hasked.calls_eq, rfl⟩

/-- Only an offer takes time when polling is over. -/
theorem lags_finish (hr : InStep hooks page r) (ending : Ending)
    (hlt : r.clock.now + hooks.latency page (r.prompt.finishLog s.prompt ending) <
      r.clock.deadline) :
    (∃ fault, r.finish s ending = .error fault ∧ r.prompt.finish s.prompt ending = .error fault) ∨
      ∃ out out', r.finish s ending = .ok out ∧ r.prompt.finish s.prompt ending = .ok out' ∧
        Lags hooks page r (r.prompt.finishLog s.prompt ending) out out' := by
  have hnone (outcome : PollOutcome) :
      Lags hooks page r (r.prompt.madeSince r.prompt) (r, outcome) (r.prompt, outcome) := by
    rw [madeSince_eq [] rfl]
    exact ⟨rfl, rfl, rfl⟩
  cases ending with
  | found i => exact .inr ⟨_, _, rfl, rfl, lags_makeOffer hr i hlt⟩
  | failed fault => exact .inl ⟨fault, rfl, rfl⟩
  | stopped stop => cases stop <;> exact .inr ⟨_, _, rfl, rfl, hnone _⟩
  | _ => exact .inr ⟨_, _, rfl, rfl, hnone _⟩

theorem lags_poll_finish (hs : Undisturbed s hooks page) (hr : InStep hooks page r)
    (hlt : r.clock.now + hooks.latency page
      ((r.prompt.poll s.prompt).1.finishLog s.prompt (r.prompt.poll s.prompt).2 ++
        r.prompt.pollLog s.prompt) < r.clock.deadline) :
    (∃ fault, (r.poll s).1.finish s (r.poll s).2 = .error fault ∧
        (r.prompt.poll s.prompt).1.finish s.prompt (r.prompt.poll s.prompt).2 = .error fault) ∨
      ∃ out out', (r.poll s).1.finish s (r.poll s).2 = .ok out ∧
        (r.prompt.poll s.prompt).1.finish s.prompt (r.prompt.poll s.prompt).2 = .ok out' ∧
        Lags hooks page r
          ((r.prompt.poll s.prompt).1.finishLog s.prompt (r.prompt.poll s.prompt).2 ++
            r.prompt.pollLog s.prompt) out out' := by
  have hpoll := lags_poll hs hr (by rw [Hooks.latency_append] at hlt; omega)
  have hprompt := hpoll.eq_prompt
  generalize r.poll s = polled at hpoll hprompt ⊢
  obtain ⟨polled, ending⟩ := polled
  rw [hprompt] at hlt hpoll ⊢
  refine (lags_finish hpoll.inStep ending (hpoll.in_time hlt)).imp_right ?_
  rintro ⟨out, out', hfinish, hfinish', hlags⟩
  exact ⟨out, out', hfinish, hfinish', hpoll.trans hlags⟩

end Parts

end PollRun

/-! ## Runs -/

namespace PollSetup

open PollRun

variable {s : PollSetup} {hooks : Hooks} {page : LivePage}

theorem lags_run (hs : Undisturbed s hooks page) (hfree : s.cancelAt = none)
    (hlt : hooks.latency page (s.prompt.log page.prompt) < s.config.milliseconds) :
    (∃ fault, s.run page = .error fault ∧ s.prompt.run page.prompt = .error fault) ∨
      ∃ out out', s.run page = .ok out ∧ s.prompt.run page.prompt = .ok out' ∧
        Lags hooks page (s.start page s.config.milliseconds) (s.prompt.log page.prompt) out out' := by
  have hticker : s.checkTicker = .ok () := by simp [checkTicker, hs.ticker_eq]
  have hticker' : s.prompt.checkTicker = .ok () := by simp [checkTicker, hs.prompt.ticker_eq]
  rcases hdeadline : s.deadline with fault | deadline
  · have hdeadline' : s.prompt.deadline = .error fault := hdeadline
    refine .inl ⟨fault, ?_, ?_⟩
    · simp only [run, hticker, hdeadline, bind, Except.bind]
    · simp only [run, hticker', hdeadline', bind, Except.bind]
  obtain rfl : deadline = s.config.milliseconds := (deadline_eq_ok_iff.1 hdeadline).1
  have hdeadline' : s.prompt.deadline = .ok s.config.milliseconds := hdeadline
  let start := s.start page s.config.milliseconds
  have hstart : s.prompt.start page.prompt s.config.milliseconds = start.prompt := rfl
  have hlog : s.prompt.log page.prompt = if s.isCancelled then [] else
      (start.prompt.poll s.prompt).1.finishLog s.prompt (start.prompt.poll s.prompt).2 ++
        start.prompt.pollLog s.prompt := by
    rw [log, hticker', hdeadline']
    rfl
  have hcancelled' : s.prompt.isCancelled = s.isCancelled := rfl
  rw [run_of_deadline hticker hdeadline, run_of_deadline hticker' hdeadline', hstart, hcancelled']
  rcases hcancelled : s.isCancelled with _ | _ <;> rw [hcancelled] at hlog <;>
    simp only [if_true, Bool.false_eq_true, if_false] at hlog ⊢ <;> rw [hlog]
  · rw [hlog, ← Nat.zero_add (hooks.latency page _)] at hlt
    exact lags_poll_finish hs ⟨⟨hs.page_answers, hcancelled, hfree⟩, rfl, rfl⟩ hlt
  -- work that is cancelled before it starts asks for nothing
  · exact .inr ⟨_, _, rfl, rfl, rfl, rfl, rfl⟩

/-! ### A run with slow answers -/

/-- The heading is rendered at the second tick, from which on it takes longer to be evaluated. -/
def slowHooks : Hooks :=
  .lateHeading [.change (.fault .evaluate (.delay 50 false))]

def slowing : PollSetup :=
  heading (.instant slowHooks)

/-- A page that is slow to tell its address, to evaluate expressions and to take the offer. -/
def slowPage : LivePage where
  page := LivePage.darkText.page
  faults
    | .url => .delay 10 false
    | .evaluate => .delay 30 false
    | .inject => .delay 20 false
    | _ => .none

/-- The run without delays before its first tick. -/
def promptStart : PollRun :=
  { slowing.prompt.start slowPage.prompt 15000 with calls := [.url, .isInjected] }

/-- The run without delays between its ticks. -/
def promptBetween : PollRun :=
  { promptStart with
    poller := { attempts := 1 }
    ticksStarted := 1
    ticks := 1
    calls := [.locate, .evaluate, .url, .isInjected] }

/-- The run without delays before the offer is made. -/
def promptFound : PollRun :=
  { promptBetween with
    page := (slowPage.prompt.apply (.node "//h1" "h1")).apply (.fault .evaluate (.delay 0 false))
    poller := { attempts := 2, state := .found }
    ticksStarted := 2
    ticks := 2
    calls := [.locate, .evaluate, .locate, .evaluate, .url, .isInjected] }

theorem promptStart_round : promptStart.round slowing.prompt = (promptBetween, none) := rfl

theorem promptBetween_round :
    promptBetween.round slowing.prompt = (promptFound, some (.found .dark)) := rfl

theorem slowing_poll :
    (slowing.prompt.start slowPage.prompt 15000).poll slowing.prompt = (promptFound, .found .dark) :=
  (rounds_of_none promptStart_round).trans (rounds_of_some promptBetween_round)

theorem slowing_log : slowing.prompt.log slowPage.prompt =
    [(2, .inject), (2, .locate), (2, .evaluate), (1, .locate), (1, .evaluate), (0, .url),
      (0, .isInjected)] := by
  have hrounds : promptStart.roundsLog slowing.prompt =
      [(2, .locate), (2, .evaluate), (1, .locate), (1, .evaluate)] := by
    rw [roundsLog_of_none promptStart_round, roundsLog_of_some promptBetween_round]
    rfl
  have hpollLog : (slowing.prompt.start slowPage.prompt 15000).pollLog slowing.prompt =
      promptStart.roundsLog slowing.prompt ++ [(0, .url)] ++ [(0, .isInjected)] := rfl
  have hlog : slowing.prompt.log slowPage.prompt =
      ((slowing.prompt.start slowPage.prompt 15000).poll slowing.prompt).1.finishLog slowing.prompt
        ((slowing.prompt.start slowPage.prompt 15000).poll slowing.prompt).2 ++
      (slowing.prompt.start slowPage.prompt 15000).pollLog slowing.prompt := rfl
  rw [hlog, slowing_poll, hpollLog, hrounds]
  rfl

/-! ### Slow and prompt runs -/

/-- As long as the answers of the page come before the deadline, a run with ticks at once asks for
the same, has as many ticks and ends in the same way as if they took no time, and it has taken just
the time of the answers to what it asked for. -/
theorem run_lags (hticker : s.ticker = .instant hooks)
    (hmax : s.config.maxAttempts.toNat + 1 < UInt32.size) (hfree : s.cancelAt = none)
    (hcancel : hooks.cancelTicks = ∅) (hpage : page.Answers) (hhooks : hooks.Answers)
    (hlt : hooks.latency page (s.prompt.log page.prompt) < s.config.milliseconds) :
    (s.endSecond < Nat.pow 2 63 →
      ∃ r' outcome, s.prompt.run page.prompt = .ok (r', outcome)) ∧
    (∀ fault, s.prompt.run page.prompt = .error fault → s.run page = .error fault) ∧
    ∀ r' outcome, s.prompt.run page.prompt = .ok (r', outcome) →
      (s.prompt.log page.prompt).map (·.2) = r'.calls ∧
      ∃ r, s.run page = .ok (r, outcome) ∧ r.calls = r'.calls ∧ r.ticks = r'.ticks ∧
        r.page.page.injections = r'.page.page.injections ∧
        r.clock.now = hooks.latency page (s.prompt.log page.prompt) := by
  have hs : Undisturbed s hooks page := ⟨hticker, hcancel, hpage, hhooks⟩
  have hruns := lags_run hs hfree hlt
  refine ⟨?_, ?_, ?_⟩
  · intro hclock
    have hticker' : s.prompt.checkTicker = .ok () := by simp [checkTicker, hs.prompt.ticker_eq]
    exact exists_run_eq_ok (s := s.prompt) hticker' hmax
      (deadline_eq_ok_iff.2 ⟨rfl, hclock⟩)
  · intro fault hrun'
    obtain ⟨fault', hrun, hfault⟩ | ⟨out, out', -, hout, -⟩ := hruns
    · rw [hrun', Except.error.injEq] at hfault
      rw [hrun, hfault]
    · rw [hrun'] at hout
      cases hout
  · intro r' outcome hrun'
    obtain ⟨fault, -, hfault⟩ | ⟨⟨r, outcome'⟩, out', hrun, hout, hlags⟩ := hruns
    · rw [hrun'] at hfault
      cases hfault
    · obtain ⟨hclock, hcalls, hprompt⟩ := hlags
      rw [hrun', Except.ok.injEq] at hout
      rw [← hout, Prod.mk.injEq] at hprompt
      obtain ⟨rfl, rfl⟩ := hprompt
      refine ⟨?_, r, hrun, rfl, rfl, rfl, ?_⟩
      · exact (hcalls.trans (List.append_nil _)).symm
      · exact (congrArg (·.now) hclock).trans (Nat.zero_add _)

theorem run_lags_slowing :
    (slowing.prompt.log slowPage.prompt).length = 7 ∧
      ∃ r, slowing.run slowPage = .ok (r, .injected .dark) ∧ r.ticks = 2 ∧ r.clock.now = 110 := by
  have hcancel : slowHooks.cancelTicks = ∅ := by
    refine Set.ext fun n => iff_of_false ?_ id
    rintro ⟨-, hcancel⟩
    simp [slowHooks, Hooks.lateHeading] at hcancel
  have hpage : slowPage.Answers := by
    intro call
    cases call <;> simp [slowPage]
  have hhooks : slowHooks.Answers := by
    intro n action haction call
    unfold slowHooks Hooks.lateHeading at haction
    split at haction
    · simp only [List.mem_cons, List.not_mem_nil, or_false] at haction
      obtain rfl | rfl := haction <;> simp
    · cases haction
  have hlatency : slowHooks.latency slowPage (slowing.prompt.log slowPage.prompt) = 110 := by
    rw [slowing_log]
    rfl
  obtain ⟨-, -, hlags⟩ := @run_lags slowing _ slowPage rfl (by decide) rfl hcancel
    hpage hhooks (by rw [hlatency]; decide)
  obtain ⟨r', hrun', hticks⟩ : ∃ r', slowing.prompt.run slowPage.prompt =
      .ok (r', .injected .dark) ∧ r'.ticks = 2 := by
    have hdeadline : slowing.prompt.deadline = .ok 15000 := rfl
    rw [run_of_deadline rfl hdeadline, slowing_poll]
    exact ⟨_, rfl, rfl⟩
  obtain ⟨-, r, hrun, -, hsame, -, hnow⟩ := hlags r' _ hrun'
  rw [slowing_log]
  exact ⟨rfl, r, hrun, hsame.trans hticks, hnow.trans hlatency⟩

end PollSetup

end ShowScout
