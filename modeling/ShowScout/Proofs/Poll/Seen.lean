import ShowScout.Proofs.Poll.Cancel
import ShowScout.Proofs.Poll.Offer
import ShowScout.Proofs.Text.Trim

/-!
# Offers of what was seen at once

A run that ends with an offer looked at the page after its last tick and found the title and the
element there, on one state of the page and behind the content that the rule waits for. No title is
offered at an element that was seen at another tick. `OnTrack` says where a run stands after its
ticks, whatever goes wrong meanwhile, and the rest is what one look says about the page it is at.
-/

namespace ShowScout

/-! ## Elements of pages -/

/-- Every element is listed under the expression by which it was found. -/
def LivePage.ListsNodes (p : LivePage) : Prop :=
  ∀ entry ∈ p.page.nodes, entry.2.xpath = entry.1

namespace LivePage

variable {p q : LivePage}

theorem ListsNodes.apply (h : p.ListsNodes) (change : PageChange) :
    (p.apply change).ListsNodes := by
  cases change with
  | node xpath tag =>
    rintro entry (_ | ⟨_, hentry⟩)
    · rfl
    · exact h entry hentry
  | _ => exact h

theorem ListsNodes.inject {injection : Injection} (h : p.ListsNodes)
    (hinject : p.inject injection = .ok q) : q.ListsNodes := by
  unfold LivePage.inject reply at hinject
  split at hinject
  · cases hinject
  · cases hinject
    unfold ListsNodes Page.inject
    split <;> exact h

theorem ListsNodes.xpath_eq (h : p.ListsNodes) {xpath : String} {node : Node}
    (hnode : p.page.nodes.lookup xpath = some node) : node.xpath = xpath := by
  obtain ⟨before, after, hsplit, -⟩ := List.lookup_eq_some_iff.1 hnode
  exact h (xpath, node) (by rw [hsplit]; simp)

theorem ListsNodes.foldl_happen (h : p.ListsNodes) (actions : List HookAction) :
    (actions.foldl happen p).ListsNodes := by
  induction actions generalizing p with
  | nil => exact h
  | cons action actions ih =>
    refine ih ?_
    cases action with
    | change change => exact h.apply change
    | cancel => exact h

theorem ListsNodes.pageAt (h : p.ListsNodes) (hooks : Hooks) (n : Nat) :
    (hooks.pageAt p n).ListsNodes := by
  induction n with
  | zero => exact h
  | succ n ih => exact ih.foldl_happen (hooks (n + 1))

end LivePage

namespace PollRun

variable {setup : PollSetup} {r r' : PollRun}

/-! ## Pages at ticks -/

theorem happenAll_page (r : PollRun) (hooks : Hooks) :
    (r.happenAll hooks).page = (hooks r.ticksStarted).foldl LivePage.happen r.page := by
  rw [happenAll, foldl_happen_eq]

theorem tickInstant_page (hooks : Hooks) (r : PollRun) :
    (r.tickInstant hooks).1.page = (hooks r.ticksStarted).foldl LivePage.happen r.page := by
  rw [← happenAll_page, tickInstant_eq]
  have hwait : ((r.happenAll hooks).wait (some (r.happenAll hooks).clock.now)).1.page =
      (r.happenAll hooks).page := rfl
  unfold andThen
  split <;> rename_i h <;> rw [h] at hwait
  · exact hwait
  · exact hwait

theorem tickInterval_page (interval : Nat) (hooks : Hooks) (r : PollRun) :
    (∃ stop, (r.tickInterval interval hooks).2 = some stop) ∧
        (r.tickInterval interval hooks).1.page = r.page ∨
      (r.tickInterval interval hooks).1.page =
        (hooks r.ticksStarted).foldl LivePage.happen r.page := by
  obtain ⟨clock, hwait⟩ := r.waitDue_frame
  rw [tickInterval_eq]
  unfold andThen
  split <;> rename_i h <;> rw [h] at hwait <;> subst hwait
  · exact .inr (happenAll_page _ hooks)
  -- a wait that is broken off is the end of the tick, before anything happens
  · exact .inl ⟨⟨_, rfl⟩, rfl⟩

/-- All happens that happens at a tick, unless the tick does not come. -/
theorem tick_page (setup : PollSetup) (r : PollRun) :
    (∃ stop, (r.tick setup).2 = some stop) ∧ (r.tick setup).1.page = r.page ∨
      (r.tick setup).1.page =
        (setup.ticker.hooks (r.ticksStarted + 1)).foldl LivePage.happen r.page := by
  rcases hticker : setup.ticker with hooks | hooks
  · rw [r.tick_of_instant hticker]
    exact .inr (tickInstant_page hooks _)
  · rw [r.tick_of_interval hticker]
    exact tickInterval_page setup.config.interval hooks _

theorem tick_ticks (h : r.tick setup = (r', none)) (hpace : r.ticks = r.ticksStarted) :
    r'.ticks = r.ticks + 1 := by
  obtain ⟨page, clock, ticks, due, hframe⟩ := r.tick_frame setup
  rw [h] at hframe
  have hstarted : r'.ticksStarted = r.ticksStarted + 1 := congrArg (·.ticksStarted) hframe
  rw [tick_pace h hpace, hstarted, hpace]

/-- As long as ticks come, the page is the one that they leave behind. -/
theorem tick_pageAt {page : LivePage} (h : r.tick setup = (r', none))
    (hpace : r.ticks = r.ticksStarted) (hpage : r.page = setup.ticker.hooks.pageAt page r.ticks) :
    r'.page = setup.ticker.hooks.pageAt page (r.ticks + 1) := by
  have htick := tick_page setup r
  rw [h] at htick
  obtain ⟨⟨stop, hstop⟩, -⟩ | hnext := htick
  · cases hstop
  · rw [Hooks.pageAt, ← hpage, hpace]
    exact hnext

/-! ## Where a run stands -/

/-- The run has come to as many ticks as it asked for, each of which changed the page and was
followed by an attempt. -/
structure OnTrack (setup : PollSetup) (page : LivePage) (r : PollRun) : Prop where
  page_eq : r.page = setup.ticker.hooks.pageAt page r.ticks
  pace : r.ticks = r.ticksStarted
  attempts_eq : r.poller.attempts.toNat = r.ticks

/-- The injection was found at the last tick of the run, on the page as the ticks had left it. -/
structure FoundAtLastTick (setup : PollSetup) (page : LivePage) (r : PollRun) (i : Injection) :
    Prop where
  ticks_pos : 0 < r.ticks
  ticks_le : r.ticks ≤ setup.config.maxAttempts.toNat
  isReady : setup.rule.IsReady (setup.ticker.hooks.pageAt page r.ticks) i

/-- A tick that comes is the only one of its round, and the look that follows leaves the page. -/
theorem OnTrack.round_of_tick {page : LivePage} (hr : OnTrack setup page r)
    (h : r.tick setup = (r', none)) :
    (r.round setup).1.ticks = r.ticks + 1 ∧ (r.round setup).1.page = r'.page ∧
      r'.page = setup.ticker.hooks.pageAt page (r.ticks + 1) := by
  have hticks := tick_ticks h hr.pace
  obtain ⟨clock, poller, calls, hframe, -⟩ := r.round_frame setup
  rw [h] at hframe
  rw [hframe]
  exact ⟨hticks, rfl, tick_pageAt h hr.pace hr.page_eq⟩

theorem OnTrack.round {page : LivePage} (hr : OnTrack setup page r)
    (h : r.round setup = (r', none)) : OnTrack setup page r' := by
  obtain ⟨-, hlt, hpoller⟩ := round_eq_none h
  rcases htick : r.tick setup with ⟨ticked, _ | stop⟩
  · obtain ⟨hticks, hkept, hpage⟩ := hr.round_of_tick htick
    rw [h] at hticks hkept
    refine ⟨?_, round_pace h hr.pace, ?_⟩
    · rw [hkept, hpage, hticks]
    · rw [hpoller, Poller.toNat_attempts_add_one hlt, hr.attempts_eq, hticks]
  · rw [round_of_stop htick] at h
    cases h

theorem round_eq_found {page : LivePage} {i : Injection} (hr : OnTrack setup page r)
    (h : r.round setup = (r', some (.found i))) :
    FoundAtLastTick setup page r' i := by
  have hpoller := r.tick_poller setup
  rcases htick : r.tick setup with ⟨ticked, _ | stop⟩ <;> rw [htick] at hpoller
  · obtain ⟨hticks, -, hpage⟩ := hr.round_of_tick htick
    rw [h] at hticks
    rw [PollRun.round_of_tick htick] at h
    obtain ⟨hlt, hready⟩ := look_eq_found (congrArg (·.2) h)
    rw [hpoller, hr.attempts_eq, ← Nat.succ_le_iff] at hlt
    rw [hpage] at hready
    -- the attempts so far are the ticks, so that one was left for this tick
    constructor <;> rw [hticks]
    · exact Nat.succ_pos r.ticks
    · exact hlt
    · exact hready
  · rw [round_of_stop htick] at h
    cases h

theorem rounds_eq_found {page : LivePage} {i : Injection} (hr : OnTrack setup page r)
    (h : r.rounds setup = (r', .found i)) :
    FoundAtLastTick setup page r' i := by
  fun_induction rounds setup r with
  | case1 r r₁ ending hround =>
    cases h
    exact round_eq_found hr hround
  | case2 r r₁ hround ih => exact ih (hr.round hround) h

/-- The ticks before the offer are those that led to it. -/
theorem poll_eq_found {page : LivePage} {i : Injection} (hr : OnTrack setup page r)
    (h : r.poll setup = (r', .found i)) :
    FoundAtLastTick setup page r' i := by
  obtain ⟨asked, hstart, hcases⟩ := r.poll_cases setup
  obtain ⟨clock, calls, rfl⟩ := hstart.frame
  obtain ⟨stop, hpoll⟩ | ⟨-, hpoll⟩ | ⟨-, hpoll⟩ := hcases <;> rw [hpoll] at h
  · cases h
  · cases h
  · have hasked : OnTrack setup page { r with clock, calls } :=
      ⟨hr.page_eq, hr.pace, hr.attempts_eq⟩
    exact rounds_eq_found hasked h

/-- Only what was found is offered. -/
theorem finish_eq_injected {ending : Ending} {i : Injection}
    (h : r.finish setup ending = .ok (r', .injected i)) : ending = .found i ∧ r'.ticks = r.ticks := by
  obtain ⟨page, clock, calls, hframe⟩ := finish_frame h
  have hticks : r'.ticks = r.ticks := congrArg (·.ticks) hframe
  cases ending with
  | found j =>
    simp only [finish, makeOffer, cancelledOutcome, Except.ok.injEq] at h
    refine ⟨?_, hticks⟩
    split at h
    · cases h
    -- an outcome that tells an injection tells the one that was found, however the offer goes
    split at h <;> try split at h
    all_goals cases h
    all_goals rfl
  | stopped stop => cases stop <;> cases h
  | _ => cases h

/-! ## Elements -/

theorem listsNodes_tick (setup : PollSetup) (h : r.page.ListsNodes) :
    (r.tick setup).1.page.ListsNodes := by
  obtain ⟨-, hpage⟩ | hpage := r.tick_page setup <;> rw [hpage]
  · exact h
  · exact h.foldl_happen _

theorem listsNodes_round (setup : PollSetup) (h : r.page.ListsNodes) :
    (r.round setup).1.page.ListsNodes := by
  obtain ⟨clock, poller, calls, hframe, -⟩ := r.round_frame setup
  rw [hframe]
  exact listsNodes_tick setup h

theorem listsNodes_rounds (setup : PollSetup) (h : r.page.ListsNodes) :
    (r.rounds setup).1.page.ListsNodes := by
  fun_induction rounds setup r with
  | case1 r r' ending hround => simpa [hround] using listsNodes_round setup h
  | case2 r r' hround ih => exact ih (by simpa [hround] using listsNodes_round setup h)

theorem listsNodes_poll (setup : PollSetup) (h : r.page.ListsNodes) :
    (r.poll setup).1.page.ListsNodes := by
  obtain ⟨asked, hstart, hcases⟩ := r.poll_cases setup
  obtain ⟨clock, calls, rfl⟩ := hstart.frame
  obtain ⟨stop, hpoll⟩ | ⟨-, hpoll⟩ | ⟨-, hpoll⟩ := hcases <;> rw [hpoll]
  · exact h
  · exact h
  · exact listsNodes_rounds setup h

theorem listsNodes_makeOffer (i : Injection) (h : r.page.ListsNodes) :
    (r.makeOffer i).1.page.ListsNodes := by
  obtain ⟨clock, hcall⟩ := r.call_frame .inject
  obtain ⟨_, hoffer⟩ | ⟨_, hoffer⟩ | ⟨page, hinject, hoffer⟩ := r.makeOffer_cases i <;> rw [hoffer]
  · exact h
  · rw [hcall]
    exact h
  · rw [hcall] at hinject
    exact h.inject hinject

theorem listsNodes_finish {ending : Ending} {outcome : PollOutcome} (h : r.page.ListsNodes)
    (hfinish : r.finish setup ending = .ok (r', outcome)) : r'.page.ListsNodes := by
  obtain rfl | ⟨i, hoffer⟩ := finish_cases hfinish
  · exact h
  · have hlists := listsNodes_makeOffer i h
    rwa [hoffer] at hlists

end PollRun

theorem PollSetup.listsNodes_progress {page : LivePage} (s : PollSetup) (h : page.ListsNodes) :
    (s.progress page).page.ListsNodes := by
  have hpoll (deadline : Nat) : ((s.start page deadline).poll s).1.page.ListsNodes :=
    PollRun.listsNodes_poll (r := s.start page deadline) s h
  rcases hrun : s.run page with fault | ⟨r, outcome⟩
  · unfold progress
    split
    · rw [hrun]
      exact hpoll _
    · exact h
  · rw [progress_of_run_eq_ok hrun]
    obtain ⟨deadline, -, -, ⟨-, rfl, -⟩ | ⟨-, polled, ending, hpolled, hfinish⟩⟩ :=
      exists_of_run_eq_ok hrun
    · exact h
    · have hlists := hpoll deadline
      rw [hpolled] at hlists
      exact PollRun.listsNodes_finish hlists hfinish

namespace LivePage

variable {p : LivePage}

theorem ListsNodes.perform (h : p.ListsNodes) (operation : PageOperation) :
    (p.perform operation).ListsNodes := by
  cases operation with
  | change change => exact h.apply change
  | inject i =>
    simp only [LivePage.perform]
    split
    · exact h
    · rcases hinject : p.inject i with error | q
      · exact h
      · exact h.inject hinject
  | run setup => exact setup.listsNodes_progress h

/-- The page came about from one without anything on it. -/
def HasHistory (p : LivePage) : Prop :=
  ∃ (url : String) (operations : List PageOperation),
    p = operations.foldl perform { page := { url } }

theorem HasHistory.listsNodes (h : p.HasHistory) : p.ListsNodes := by
  obtain ⟨url, operations, rfl⟩ := h
  have hnew : ListsNodes { page := { url } } := nofun
  generalize ({ page := { url } } : LivePage) = q at hnew ⊢
  induction operations generalizing q with
  | nil => exact hnew
  | cons operation operations ih => exact ih _ (hnew.perform operation)

end LivePage

/-! ## What is seen -/

theorem LivePage.reply_eq_ok_iff {α : Type} {p : LivePage} {call : PageCall}
    {answer : Except PageError α} {a : α} :
    p.reply call answer = .ok a ↔ (p.faults call).fails = false ∧ answer = .ok a := by
  unfold reply
  cases (p.faults call).fails <;> simp

theorem Page.locate_eq_ok_iff {p : Page} {xpath : String} {node : Option Node} :
    p.locate xpath = .ok node ↔ xpath ∉ p.failing ∧ p.nodes.lookup xpath = node := by
  unfold locate guardExpression
  by_cases h : xpath ∈ p.failing <;>
    simp [h, bind, Except.bind, pure, Except.pure]

theorem Rule.title?_eq_some {rule : Rule} {p : LivePage} {title : String}
    (h : rule.title? p = some title) : title ≠ "" ∧ Text.IsTrimmed title := by
  obtain ⟨raw, -, hkept⟩ := Option.bind_eq_some_iff.1 h
  obtain ⟨⟨⟩, hne, htitle⟩ := Option.bind_eq_some_iff.1 hkept
  cases htitle
  refine ⟨?_, Text.isTrimmed_trim raw⟩
  intro hempty
  rw [hempty] at hne
  cases hne

namespace Rule

/-- The page shows all of an offer at once: behind the content that the rule waits for, the title
that its extraction gives, and the element listed under its expression. -/
structure Sees (rule : Rule) (p : LivePage) (i : Injection) : Prop extends rule.IsReady p i where
  content_shown : ∀ pattern ∈ rule.contentPattern, pattern.isMatch p.page.body
  title_ne : i.title ≠ ""
  title_trimmed : Text.IsTrimmed i.title
  target_listed : p.page.nodes.lookup rule.injectionXpath = some i.target
  target_evaluable : rule.injectionXpath ∉ p.page.failing

theorem IsReady.sees {rule : Rule} {p : LivePage} {i : Injection} (h : rule.IsReady p i) :
    rule.Sees p i := by
  obtain ⟨hne, htrimmed⟩ := title?_eq_some h.title
  obtain ⟨-, hlocate⟩ := LivePage.reply_eq_ok_iff.1 h.target
  obtain ⟨hevaluable, hlisted⟩ := Page.locate_eq_ok_iff.1 hlocate
  refine ⟨h, fun pattern hpattern => ?_, hne, htrimmed, hlisted, hevaluable⟩
  obtain ⟨text, hbody, hmatch⟩ := h.content pattern hpattern
  obtain ⟨-, htext⟩ := LivePage.reply_eq_ok_iff.1 hbody
  cases htext
  exact hmatch

end Rule

namespace PollSetup

variable {s : PollSetup} {page : LivePage} {r : PollRun} {i : Injection}

/-! ### A run with a slow page -/

/-- The heading is rendered at the second tick. -/
def late : PollSetup :=
  heading (.interval (.lateHeading []))

/-- A page that takes some time to evaluate expressions. -/
def slowText : LivePage :=
  LivePage.darkText.apply (.fault .evaluate (.delay 30 false))

theorem slowText_hasHistory : slowText.HasHistory :=
  ⟨"", [.change (.value "string(//h1)" " Dark "), .change (.fault .evaluate (.delay 30 false))], rfl⟩

/-- The run before its first tick. -/
def slowStart : PollRun :=
  { late.start slowText 15000 with calls := [.url, .isInjected] }

/-- The run between its ticks. -/
def slowBetween : PollRun :=
  { slowStart with
    clock := { now := 30, deadline := 15000 }
    poller := { attempts := 1 }
    ticksStarted := 1
    ticks := 1
    due := 250
    calls := [.locate, .evaluate, .url, .isInjected] }

/-- The run before the offer is made. -/
def slowFound : PollRun :=
  { slowBetween with
    page := slowText.apply (.node "//h1" "h1")
    clock := { now := 280, deadline := 15000 }
    poller := { attempts := 2, state := .found }
    ticksStarted := 2
    ticks := 2
    due := 500
    calls := [.locate, .evaluate, .locate, .evaluate, .url, .isInjected] }

theorem slow_poll : (late.start slowText 15000).poll late = (slowFound, .found .dark) := by
  have hwaits : slowStart.round late = (slowBetween, none) := rfl
  have hfinds : slowBetween.round late = (slowFound, some (.found .dark)) := rfl
  exact (PollRun.rounds_of_none hwaits).trans (PollRun.rounds_of_some hfinds)

/-! ### Offers -/

/-- An offer was seen at the last tick of its run, all of it on the page as the ticks had left it by
then. Its element has the expression of the rule, since a page lists no others under it. -/
theorem run_injected_seen (h : s.run page = .ok (r, .injected i)) :
    0 < r.ticks ∧ r.ticks ≤ s.config.maxAttempts.toNat ∧
      s.rule.Sees (s.ticker.hooks.pageAt page r.ticks) i ∧
      (page.HasHistory → i.target.xpath = s.rule.injectionXpath) := by
  obtain ⟨deadline, -, -, ⟨-, -, houtcome⟩ | ⟨-, polled, ending, hpoll, hfinish⟩⟩ :=
    exists_of_run_eq_ok h
  · cases houtcome
  · obtain ⟨rfl, hticks⟩ := PollRun.finish_eq_injected hfinish
    have hstart : PollRun.OnTrack s page (s.start page deadline) := ⟨rfl, rfl, rfl⟩
    obtain ⟨hpos, hmax, hready⟩ := PollRun.poll_eq_found hstart hpoll
    rw [hticks]
    refine ⟨hpos, hmax, hready.sees, fun hhistory => ?_⟩
    exact (hhistory.listsNodes.pageAt _ _).xpath_eq hready.sees.target_listed

theorem run_injected_seen_slowText :
    ∃ r, late.run slowText = .ok (r, .injected .dark) ∧ r.ticks = 2 ∧ r.clock.now = 280 ∧
      Rule.heading.Sees ((Hooks.lateHeading []).pageAt slowText 2) .dark ∧
      Injection.dark.target.xpath = "//h1" := by
  obtain ⟨r, hrun, hticks, hnow⟩ : ∃ r, late.run slowText = .ok (r, .injected .dark) ∧
      r.ticks = 2 ∧ r.clock.now = 280 := by
    have hdeadline : late.deadline = .ok 15000 := rfl
    rw [run_of_deadline rfl hdeadline, slow_poll]
    exact ⟨_, rfl, rfl, rfl⟩
  obtain ⟨-, -, hsees, hxpath⟩ := run_injected_seen hrun
  rw [hticks] at hsees
  exact ⟨r, hrun, hticks, hnow, hsees, hxpath slowText_hasHistory⟩

end PollSetup

end ShowScout
