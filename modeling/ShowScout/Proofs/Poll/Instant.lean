import Mathlib.Order.Bounds.Defs
import ShowScout.Proofs.Poll.Offer
import ShowScout.Proofs.Poll.Ticks

/-!
# Ticks at once

A run with ticks at once, on a page that answers at once, takes no time. How it ends depends only on
the pages that the ticks leave behind and on the first tick that cancels the work:
`run_instant_outcome` tells the outcome from these.
-/

namespace ShowScout

/-! ## What ticks leave behind -/

/-- The page answers every request at once and without an error. -/
def LivePage.Unfaulted (p : LivePage) : Prop :=
  ∀ call, p.faults call = .none

theorem LivePage.isInjected_of_unfaulted {p : LivePage} (h : p.Unfaulted) :
    p.isInjected = .ok p.page.isInjected := by
  simp [isInjected, reply, h .isInjected, Fault.fails]

/-- What happens at a tick may change the page. -/
def LivePage.happen (p : LivePage) : HookAction → LivePage
  | .change change => p.apply change
  | .cancel => p

namespace Hooks

/-- The page after the first ticks. -/
def pageAt (hooks : Hooks) (page : LivePage) : Nat → LivePage
  | 0 => page
  | n + 1 => (hooks (n + 1)).foldl LivePage.happen (hooks.pageAt page n)

/-- The ticks that cancel the work. -/
def cancelTicks (hooks : Hooks) : Set Nat :=
  {n | 0 < n ∧ .cancel ∈ hooks n}

/-- The ticks at which the page is ready. -/
def readyTicks (hooks : Hooks) (rule : Rule) (page : LivePage) : Set Nat :=
  {n | 0 < n ∧ ∃ injection, rule.IsReady (hooks.pageAt page n) injection}

/-- Nothing that happens makes requests go wrong. -/
def Unfaulting (hooks : Hooks) : Prop :=
  ∀ n, ∀ action ∈ hooks n, ∀ call fault, action ≠ .change (.fault call fault)

variable {hooks : Hooks} {page : LivePage}

theorem foldl_happen_faults {p : LivePage} {actions : List HookAction}
    (h : ∀ action ∈ actions, ∀ call fault, action ≠ .change (.fault call fault)) :
    (actions.foldl LivePage.happen p).faults = p.faults := by
  induction actions generalizing p with
  | nil => rfl
  | cons action actions ih =>
    simp only [List.forall_mem_cons] at h
    rw [List.foldl_cons, ih h.2]
    cases action with
    | cancel => rfl
    | change change =>
      cases change with
      | fault call fault => exact absurd rfl (h.1 call fault)
      | _ => rfl

theorem pageAt_unfaulted (hhooks : hooks.Unfaulting) (hpage : page.Unfaulted) (n : Nat) :
    (hooks.pageAt page n).Unfaulted := by
  induction n with
  | zero => exact hpage
  | succ n ih =>
    intro call
    rw [pageAt, foldl_happen_faults (hhooks (n + 1)), ih call]

theorem foldl_happen_injections (p : LivePage) (actions : List HookAction) :
    (actions.foldl LivePage.happen p).page.injections = p.page.injections := by
  induction actions generalizing p with
  | nil => rfl
  | cons action actions ih =>
    rw [List.foldl_cons, ih]
    cases action with
    | cancel => rfl
    | change change => exact PollRun.apply_injections p change

theorem pageAt_injections (hooks : Hooks) (page : LivePage) (n : Nat) :
    (hooks.pageAt page n).page.injections = page.page.injections := by
  induction n with
  | zero => rfl
  | succ n ih => rw [pageAt, foldl_happen_injections, ih]

/-- The heading is rendered at the second tick, at which more may happen. -/
def lateHeading (more : List HookAction) : Hooks :=
  fun n => if n = 2 then .change (.node "//h1" "h1") :: more else []

theorem lateHeading_unfaulting {more : List HookAction}
    (h : ∀ action ∈ more, ∀ call fault, action ≠ .change (.fault call fault)) :
    (lateHeading more).Unfaulting := by
  intro n action haction
  unfold lateHeading at haction
  split at haction
  · obtain rfl | haction := List.mem_cons.1 haction
    · nofun
    · exact h action haction
  · cases haction

end Hooks

namespace PollRun

theorem foldl_happen_eq (r : PollRun) (actions : List HookAction) :
    actions.foldl happen r =
      { r with
        page := actions.foldl LivePage.happen r.page
        clock := { r.clock with
          isCancelled := r.clock.isCancelled || decide (.cancel ∈ actions) } } := by
  induction actions generalizing r with
  | nil => simp
  | cons action actions ih =>
    rw [List.foldl_cons, ih]
    cases action <;> simp [happen, LivePage.happen]

/-! ## Requests that are answered at once -/

theorem call_of_unfaulted {r : PollRun} (h : r.page.Unfaulted) (c : PageCall) :
    r.call c = ({ r with calls := c :: r.calls }, none) := by
  simp [call, h c, Fault.pause?]

theorem callAll_of_unfaulted {r : PollRun} (h : r.page.Unfaulted) (cs : List PageCall) :
    r.callAll cs = ({ r with calls := cs.reverse ++ r.calls }, none) := by
  induction cs generalizing r with
  | nil => rfl
  | cons c cs ih =>
    rw [callAll, call_of_unfaulted h]
    simp only
    rw [ih (r := { r with calls := c :: r.calls }) h]
    simp

/-- An offer on a page that answers at once is made. -/
theorem makeOffer_of_unfaulted {r : PollRun} {injection : Injection} (h : r.page.Unfaulted)
    (hcancelled : r.clock.isCancelled = false) :
    r.makeOffer injection =
      ({ r with
          page := { r.page with page := r.page.page.inject injection }
          calls := .inject :: r.calls }, .injected injection) := by
  simp [makeOffer, hcancelled, call_of_unfaulted h, LivePage.inject, LivePage.reply, h .inject,
    Fault.fails]

theorem startRounds_of_unfaulted {r : PollRun} (setup : PollSetup) (h : r.page.Unfaulted) :
    r.startRounds setup = { r with calls := .url :: r.calls }.rounds setup := by
  unfold startRounds
  rw [call_of_unfaulted h]

/-- Before the first tick, a run only asks whether the offer was made, and for the address. -/
theorem poll_of_empty {r : PollRun} (setup : PollSetup) (h : r.page.Unfaulted)
    (hempty : r.page.page.injections = []) :
    r.poll setup = { r with calls := .url :: .isInjected :: r.calls }.rounds setup := by
  have hmarker : r.page.isInjected = .ok false := by
    simp [LivePage.isInjected_of_unfaulted h, Page.isInjected, hempty]
  unfold poll
  rw [call_of_unfaulted h]
  simp only [hmarker]
  exact startRounds_of_unfaulted setup h

theorem poll_of_injected {r : PollRun} (setup : PollSetup) (h : r.page.Unfaulted)
    (hinjected : r.page.page.injections ≠ []) :
    r.poll setup = ({ r with calls := .isInjected :: r.calls }, .alreadyInjected) := by
  have hmarker : r.page.isInjected = .ok true := by
    simp [LivePage.isInjected_of_unfaulted h, Page.isInjected, hinjected]
  unfold poll
  rw [call_of_unfaulted h]
  simp only [hmarker]

end PollRun

/-! ## Rounds -/

/-- The run can start, and the ticks and the answers of the page come at once. -/
structure AtOnce (s : PollSetup) (hooks : Hooks) (page : LivePage) : Prop where
  ticker_eq : s.ticker = .instant hooks
  deadline_eq : s.deadline = .ok s.config.milliseconds
  milliseconds_pos : 0 < s.config.milliseconds
  isCancelled_eq : s.isCancelled = false
  cancelAt_eq : s.cancelAt = none
  page_unfaulted : page.Unfaulted
  hooks_unfaulting : hooks.Unfaulting

/-- The run after some ticks at once, none of which cancelled the work. -/
structure PollRun.Reached (s : PollSetup) (hooks : Hooks) (page : LivePage) (n : Nat)
    (poller : Poller) (r : PollRun) : Prop where
  page_eq : r.page = hooks.pageAt page n
  clock_eq : r.clock = { deadline := s.config.milliseconds }
  poller_eq : r.poller = poller
  ticksStarted_eq : r.ticksStarted = n
  ticks_eq : r.ticks = n

namespace AtOnce

open PollRun

variable {s : PollSetup} {hooks : Hooks} {page : LivePage} {n : Nat} {poller : Poller}
  {r : PollRun}

section Rounds

variable (hs : AtOnce s hooks page)
include hs

theorem pageAt_unfaulted (n : Nat) : (hooks.pageAt page n).Unfaulted :=
  Hooks.pageAt_unfaulted hs.hooks_unfaulting hs.page_unfaulted n

/-- A tick that cancels the work does not come, but what else happens then has happened. -/
theorem rounds_of_cancel (hr : Reached s hooks page n poller r)
    (hcancel : n + 1 ∈ hooks.cancelTicks) :
    r.rounds s =
      ({ r with
          page := hooks.pageAt page (n + 1)
          clock := { deadline := s.config.milliseconds, isCancelled := true }
          ticksStarted := n + 1 }, .stopped .cancelled) := by
  -- the wait of the tick is the first to notice the cancelling, since time is not up at zero
  apply rounds_of_some
  simp [PollRun.round, tick, hs.ticker_eq, tickInstant, happenAll, foldl_happen_eq, hr.page_eq,
    hr.clock_eq, hr.ticksStarted_eq, wait, Clock.wait, Hooks.pageAt, hcancel.2,
    Nat.not_le.2 hs.milliseconds_pos]

theorem tick_eq (hr : Reached s hooks page n poller r) (hcancel : n + 1 ∉ hooks.cancelTicks) :
    r.tick s =
      ({ r with
          page := hooks.pageAt page (n + 1)
          ticksStarted := n + 1
          ticks := n + 1 }, none) := by
  have hnot : .cancel ∉ hooks (n + 1) := fun h => hcancel ⟨Nat.succ_pos n, h⟩
  simp [tick, hs.ticker_eq, tickInstant, happenAll, foldl_happen_eq, hr.page_eq, hr.clock_eq,
    hr.ticksStarted_eq, hr.ticks_eq, wait, Clock.wait, Clock.cancelTime?, Clock.waitEnd,
    Clock.isInTime, countTick, Hooks.pageAt, hnot, Nat.not_le.2 hs.milliseconds_pos]

/-- A tick that cancels nothing is followed by a look at the page, which takes no time. -/
theorem round_eq (hr : Reached s hooks page n poller r) (hcancel : n + 1 ∉ hooks.cancelTicks)
    {poller' : Poller} {calls : List PageCall} {outcome : TickOutcome}
    (htick : poller.tick s.config s.rule (hooks.pageAt page (n + 1)) =
      .ok (poller', calls, outcome)) :
    ∃ r', Reached s hooks page (n + 1) poller' r' ∧ r.round s = (r', Ending.ofTick? outcome) := by
  refine ⟨{ r with
    page := hooks.pageAt page (n + 1)
    poller := poller'
    ticksStarted := n + 1
    ticks := n + 1
    calls := calls.reverse ++ r.calls }, ⟨rfl, hr.clock_eq, rfl, rfl, rfl⟩, ?_⟩
  unfold PollRun.round
  rw [hs.tick_eq hr hcancel]
  simp only [look, hr.poller_eq, htick]
  rw [callAll_of_unfaulted (hs.pageAt_unfaulted (n + 1))]

/-- Ticks that cancel nothing, on pages that are not ready, lead on to the next one. -/
theorem exists_later (hr : Reached s hooks page 0 (.after 0) r) {k : Nat}
    (hmax : k ≤ s.config.maxAttempts.toNat)
    (hcancel : ∀ c ∈ hooks.cancelTicks, k < c)
    (hready : ∀ j ∈ hooks.readyTicks s.rule page, k < j) :
    ∃ r', Reached s hooks page k (.after k) r' ∧ r.rounds s = r'.rounds s := by
  induction k with
  | zero => exact ⟨r, hr, rfl⟩
  | succ k ih =>
    obtain ⟨r', hr', hrounds⟩ := ih (Nat.le_of_succ_le hmax)
      (fun c hc => Nat.lt_of_succ_lt (hcancel c hc)) (fun j hj => Nat.lt_of_succ_lt (hready j hj))
    have hpending : ∀ i, ¬ s.rule.IsReady (hooks.pageAt page (k + 1)) i :=
      fun i hi => Nat.lt_irrefl _ (hready (k + 1) ⟨Nat.succ_pos k, i, hi⟩)
    obtain ⟨r'', hr'', hround⟩ := hs.round_eq hr' (fun h => Nat.lt_irrefl _ (hcancel _ h))
      (Poller.tick_after_of_not_ready hmax hpending)
    -- what is found on a page that is not ready brings no ending, so there is another round
    have hgoOn : Ending.ofTick? (s.rule.pending (hooks.pageAt page (k + 1))) = none := by
      unfold Rule.pending
      split <;> rfl
    rw [hgoOn] at hround
    exact ⟨r'', hr'', hrounds.trans (rounds_of_none hround)⟩

theorem rounds_of_ready (hr : Reached s hooks page n (.after n) r)
    (hlt : n < s.config.maxAttempts.toNat) (hcancel : n + 1 ∉ hooks.cancelTicks) {i : Injection}
    (hready : s.rule.IsReady (hooks.pageAt page (n + 1)) i) :
    ∃ r', Reached s hooks page (n + 1) (.after (n + 1) .found) r' ∧
      r.rounds s = (r', .found i) := by
  have htick : (Poller.after n).tick s.config s.rule (hooks.pageAt page (n + 1)) = _ :=
    Poller.tick_after_of_lt hlt
  rw [Rule.look_eq_found_iff.2 hready] at htick
  obtain ⟨r', hr', hround⟩ := hs.round_eq hr hcancel htick
  exact ⟨r', hr', rounds_of_some hround⟩

theorem rounds_of_max
    (hr : Reached s hooks page s.config.maxAttempts.toNat (.after s.config.maxAttempts.toNat) r)
    (hmax : s.config.maxAttempts.toNat + 1 < UInt32.size)
    (hcancel : s.config.maxAttempts.toNat + 1 ∉ hooks.cancelTicks) :
    ∃ r', Reached s hooks page (s.config.maxAttempts.toNat + 1)
        (.after (s.config.maxAttempts.toNat + 1) .exhausted) r' ∧
      r.rounds s = (r', .exhausted) := by
  obtain ⟨r', hr', hround⟩ := hs.round_eq hr hcancel (Poller.tick_after_max hmax)
  exact ⟨r', hr', rounds_of_some hround⟩

/-! ## Outcomes -/

theorem run_eq : s.run page =
    ((s.start page s.config.milliseconds).poll s).1.finish s
      ((s.start page s.config.milliseconds).poll s).2 := by
  have hticker : s.checkTicker = .ok () :=
    PollSetup.checkTicker_eq_ok_iff.2 (by simp [hs.ticker_eq])
  rw [PollSetup.run_of_deadline hticker hs.deadline_eq, hs.isCancelled_eq]
  rfl

theorem run_of_injected (hinjected : page.page.injections ≠ []) :
    ∃ r, s.run page = .ok (r, .alreadyInjected) ∧ r.ticksStarted = 0 ∧ r.page = page := by
  have hpoll : (s.start page s.config.milliseconds).poll s = _ :=
    poll_of_injected s hs.page_unfaulted hinjected
  rw [hs.run_eq, hpoll]
  exact ⟨_, rfl, rfl, rfl⟩

/-- On a page without an offer, the run begins with rounds. -/
theorem run_eq_rounds (hempty : page.page.injections = []) :
    ∃ r, Reached s hooks page 0 (.after 0) r ∧
      s.run page = (r.rounds s).1.finish s (r.rounds s).2 := by
  have hpoll : (s.start page s.config.milliseconds).poll s = _ :=
    poll_of_empty s hs.page_unfaulted hempty
  rw [hs.run_eq, hpoll]
  refine ⟨_, ⟨rfl, ?_, rfl, rfl, rfl⟩, rfl⟩
  simp [PollSetup.start, hs.isCancelled_eq, hs.cancelAt_eq]

theorem run_of_ready {k : Nat} {i : Injection} (hempty : page.page.injections = [])
    (hk : IsLeast (hooks.readyTicks s.rule page) k) (hmax : k ≤ s.config.maxAttempts.toNat)
    (hcancel : ∀ c ∈ hooks.cancelTicks, k < c)
    (hready : s.rule.IsReady (hooks.pageAt page k) i) :
    ∃ r, s.run page = .ok (r, .injected i) ∧ r.ticks = k ∧ r.page.page.injections = [i] := by
  obtain ⟨⟨hpos, -⟩, hleast⟩ := hk
  obtain ⟨n, rfl⟩ : ∃ n, k = n + 1 := ⟨k - 1, by omega⟩
  obtain ⟨r₀, hr₀, hrun⟩ := hs.run_eq_rounds hempty
  obtain ⟨r₁, hr₁, hlater⟩ := hs.exists_later hr₀ (Nat.le_of_succ_le hmax)
    (fun c hc => Nat.lt_of_succ_lt (hcancel c hc)) (fun j hj => hleast hj)
  obtain ⟨r₂, hr₂, hfound⟩ := hs.rounds_of_ready hr₁ hmax
    (fun h => Nat.lt_irrefl _ (hcancel _ h)) hready
  have hunfaulted : r₂.page.Unfaulted := hr₂.page_eq ▸ hs.pageAt_unfaulted (n + 1)
  -- nothing came in between, so the offer is the first on the page and is asked for
  have hwaiting : r₂.clock.isCancelled = false := by rw [hr₂.clock_eq]
  have hstill : r₂.page.page.injections = [] := by
    rw [hr₂.page_eq, Hooks.pageAt_injections, hempty]
  rw [hrun, hlater, hfound, finish, makeOffer_of_unfaulted hunfaulted hwaiting]
  refine ⟨_, rfl, hr₂.ticks_eq, ?_⟩
  simp [Page.inject, Page.isInjected, hstill]

/-- The tick that cancels starts no attempt, so that the attempts are those before it. -/
theorem run_of_cancel {c : Nat} (hempty : page.page.injections = [])
    (hc : IsLeast hooks.cancelTicks c) (hmax : c ≤ s.config.maxAttempts.toNat + 1)
    (hready : ∀ k ∈ hooks.readyTicks s.rule page, c ≤ k) :
    ∃ r, s.run page = .ok (r, .cancelled (c - 1)) ∧ r.ticks = c - 1 ∧
      r.page.page.injections = [] := by
  obtain ⟨hcancel, hleast⟩ := hc
  obtain ⟨n, rfl⟩ : ∃ n, c = n + 1 := ⟨c - 1, by have := hcancel.1; omega⟩
  obtain ⟨r₀, hr₀, hrun⟩ := hs.run_eq_rounds hempty
  obtain ⟨r₁, hr₁, hlater⟩ := hs.exists_later hr₀ (Nat.le_of_succ_le_succ hmax)
    (fun j hj => hleast hj) hready
  have hsize := s.config.maxAttempts.toNat_lt
  have hattempts : r₁.poller.attempts.toNat = n := by
    rw [hr₁.poller_eq, Poller.toNat_attempts_after (by simp only [UInt32.size]; omega)]
  rw [hrun, hlater, hs.rounds_of_cancel hr₁ hcancel]
  simp only [finish, cancelledOutcome, hattempts, Nat.add_sub_cancel]
  exact ⟨_, rfl, hr₁.ticks_eq, (Hooks.pageAt_injections hooks page _).trans hempty⟩

theorem run_of_neither (hmax : s.config.maxAttempts.toNat + 1 < UInt32.size)
    (hempty : page.page.injections = [])
    (hready : ∀ k ∈ hooks.readyTicks s.rule page, s.config.maxAttempts.toNat < k)
    (hcancel : ∀ c ∈ hooks.cancelTicks, s.config.maxAttempts.toNat + 1 < c) :
    ∃ r, s.run page = .ok (r, .exhausted s.config.maxAttempts.toNat) ∧
      r.ticks = s.config.maxAttempts.toNat + 1 ∧ r.page.page.injections = [] := by
  obtain ⟨r₀, hr₀, hrun⟩ := hs.run_eq_rounds hempty
  obtain ⟨r₁, hr₁, hlater⟩ := hs.exists_later hr₀ (Nat.le_refl _)
    (fun c hc => Nat.lt_of_succ_lt (hcancel c hc)) hready
  obtain ⟨r₂, hr₂, hgaveUp⟩ := hs.rounds_of_max hr₁ hmax
    (fun h => Nat.lt_irrefl _ (hcancel _ h))
  rw [hrun, hlater, hgaveUp]
  refine ⟨r₂, rfl, hr₂.ticks_eq, ?_⟩
  rw [hr₂.page_eq, Hooks.pageAt_injections, hempty]

end Rounds

end AtOnce

namespace PollSetup

variable {s : PollSetup} {hooks : Hooks} {page : LivePage}

/-- With ticks at once, what comes first decides: the page is ready, the work is cancelled, or the
attempts are used up. A tick that does both cancels. -/
theorem run_instant_outcome (hticker : s.ticker = .instant hooks)
    (hmax : s.config.maxAttempts.toNat + 1 < UInt32.size) (hpos : 0 < s.config.milliseconds)
    (hclock : s.endSecond < Nat.pow 2 63)
    (hcancelled : s.isCancelled = false) (hcancelAt : s.cancelAt = none)
    (hpage : page.Unfaulted) (hhooks : hooks.Unfaulting) :
    (page.page.injections ≠ [] →
      ∃ r, s.run page = .ok (r, .alreadyInjected) ∧ r.ticksStarted = 0 ∧ r.page = page) ∧
    (page.page.injections = [] →
      (∀ k i, IsLeast (hooks.readyTicks s.rule page) k → k ≤ s.config.maxAttempts.toNat →
        (∀ c ∈ hooks.cancelTicks, k < c) → s.rule.IsReady (hooks.pageAt page k) i →
        ∃ r, s.run page = .ok (r, .injected i) ∧ r.ticks = k ∧ r.page.page.injections = [i]) ∧
      (∀ c, IsLeast hooks.cancelTicks c → c ≤ s.config.maxAttempts.toNat + 1 →
        (∀ k ∈ hooks.readyTicks s.rule page, c ≤ k) →
        ∃ r, s.run page = .ok (r, .cancelled (c - 1)) ∧ r.ticks = c - 1 ∧
          r.page.page.injections = []) ∧
      ((∀ k ∈ hooks.readyTicks s.rule page, s.config.maxAttempts.toNat < k) →
        (∀ c ∈ hooks.cancelTicks, s.config.maxAttempts.toNat + 1 < c) →
        ∃ r, s.run page = .ok (r, .exhausted s.config.maxAttempts.toNat) ∧
          r.ticks = s.config.maxAttempts.toNat + 1 ∧ r.page.page.injections = [])) := by
  have hs : AtOnce s hooks page :=
    { ticker_eq := hticker
      deadline_eq := PollSetup.deadline_eq_ok_iff.2 ⟨rfl, hclock⟩
      milliseconds_pos := hpos
      isCancelled_eq := hcancelled
      cancelAt_eq := hcancelAt
      page_unfaulted := hpage
      hooks_unfaulting := hhooks }
  refine ⟨hs.run_of_injected, fun hempty => ⟨?_, ?_, ?_⟩⟩
  · intro k i hk hkmax hcancel hready
    exact hs.run_of_ready hempty hk hkmax hcancel hready
  · intro c hc hcmax hready
    exact hs.run_of_cancel hempty hc hcmax hready
  · intro hready hcancel
    exact hs.run_of_neither hmax hempty hready hcancel

theorem run_instant_outcome_lateHeading :
    (∃ r, (heading (.instant (.lateHeading []))).run .darkText = .ok (r, .injected .dark) ∧
      r.ticks = 2 ∧ r.page.page.injections = [.dark]) ∧
    (∃ r, (heading (.instant (.lateHeading [.cancel]))).run .darkText = .ok (r, .cancelled 1) ∧
      r.ticks = 1 ∧ r.page.page.injections = []) := by
  have hpage : LivePage.darkText.Unfaulted := fun _ => rfl
  have hready (more : List HookAction) :
      ∀ n ∈ (Hooks.lateHeading more).readyTicks .heading .darkText, 2 ≤ n := by
    rintro n ⟨hn, i, -, -, htarget⟩
    obtain rfl | hlater := Nat.eq_or_lt_of_le hn
    · cases htarget
    · exact hlater
  constructor
  · obtain ⟨-, hempty⟩ := run_instant_outcome (s := heading (.instant (.lateHeading []))) rfl
      (by decide) (by decide) (by decide) rfl rfl hpage (Hooks.lateHeading_unfaulting (by simp))
    refine (hempty rfl).1 2 .dark ⟨⟨by decide, .dark, LivePage.darkHeading_isReady⟩, hready []⟩
      (by decide) ?_ LivePage.darkHeading_isReady
    rintro c ⟨-, hc⟩
    simp [Hooks.lateHeading] at hc
  · obtain ⟨-, hempty⟩ := run_instant_outcome (s := heading (.instant (.lateHeading [.cancel]))) rfl
      (by decide) (by decide) (by decide) rfl rfl hpage (Hooks.lateHeading_unfaulting (by simp))
    refine (hempty rfl).2.1 2 ⟨⟨by decide, by decide⟩, ?_⟩ (by decide) (hready [.cancel])
    rintro c ⟨-, hc⟩
    simp [Hooks.lateHeading] at hc
    omega

/-- That the budget can be counted is not enough. -/
theorem not_run_instant_outcome_of_budget :
    ¬ ∀ (s : PollSetup) (hooks : Hooks) (page : LivePage) (k : Nat) (i : Injection),
      s.ticker = .instant hooks → s.config.maxAttempts.toNat + 1 < UInt32.size →
      (∃ budget, 0 < budget ∧ s.config.budget = .ok budget) →
      s.isCancelled = false → s.cancelAt = none → page.Unfaulted → hooks.Unfaulting →
      page.page.injections = [] → IsLeast (hooks.readyTicks s.rule page) k →
      k ≤ s.config.maxAttempts.toNat → (∀ c ∈ hooks.cancelTicks, k < c) →
      s.rule.IsReady (hooks.pageAt page k) i →
      ∃ r, s.run page = .ok (r, .injected i) := by
  intro h
  obtain ⟨r, hrun⟩ := h (heading .plain .beyondClock) (fun _ => []) .darkHeading 1 .dark rfl
    (by decide) ⟨_, by decide, PollConfig.beyondClock_budget⟩ rfl rfl (fun _ => rfl) nofun rfl
    ⟨⟨by decide, .dark, LivePage.darkHeading_isReady⟩, fun _ hn => hn.1⟩ (by decide)
    (fun _ hc => nomatch hc.2) LivePage.darkHeading_isReady
  rw [run_of_budget rfl PollConfig.beyondClock_budget (by decide)] at hrun
  cases hrun

end PollSetup

end ShowScout
