import ShowScout.Proofs.Poll.Ending

/-!
# The offer is made once

A run makes at most one offer, on a page without one, and says so. Over any sequence of runs,
changes and requests in between, a page therefore never gets a second offer, and the first one
stays.
-/

namespace ShowScout

/-! ## Making an offer -/

theorem Page.isInjected_eq_false_iff {p : Page} : p.isInjected = false ↔ p.injections = [] := by
  simp [Page.isInjected]

/-- A request for an offer changes the offers only where there were none. -/
theorem LivePage.inject_effect {p q : LivePage} {injection : Injection}
    (h : p.inject injection = .ok q) :
    q.page.injections = p.page.injections ∨
      p.page.injections = [] ∧ q.page.injections = [injection] := by
  unfold LivePage.inject LivePage.reply at h
  split at h
  · cases h
  · cases h
    unfold Page.inject
    split
    · exact .inl rfl
    · rename_i hinjected
      exact .inr ⟨Page.isInjected_eq_false_iff.1 (by simpa using hinjected), rfl⟩

theorem LivePage.inject_of_empty {p q : LivePage} {injection : Injection}
    (h : p.inject injection = .ok q) (hempty : p.page.injections = []) :
    q.page.injections = [injection] := by
  unfold LivePage.inject LivePage.reply at h
  split at h
  · cases h
  · cases h
    simp [Page.inject, Page.isInjected_eq_false_iff.2 hempty]

namespace PollRun

theorem makeOffer_effect (r : PollRun) (injection : Injection) :
    (r.makeOffer injection).1.page.page.injections = r.page.page.injections ∨
      r.page.page.injections = [] ∧ (r.makeOffer injection).2 = .injected injection ∧
        (r.makeOffer injection).1.page.page.injections = [injection] := by
  obtain ⟨clock, hcall⟩ := r.call_frame .inject
  obtain ⟨_, h⟩ | ⟨_, h⟩ | ⟨page, hinject, h⟩ := r.makeOffer_cases injection <;> rw [h]
  · exact .inl rfl
  · rw [hcall]
    exact .inl rfl
  · rw [hcall] at hinject
    exact (LivePage.inject_effect hinject).imp_right fun ⟨hempty, hmade⟩ =>
      ⟨hempty, rfl, hmade⟩

theorem makeOffer_offers_le (r : PollRun) (injection : Injection) :
    (r.makeOffer injection).1.calls.count .inject ≤ r.calls.count .inject + 1 := by
  obtain ⟨clock, hcall⟩ := r.call_frame .inject
  obtain ⟨_, h⟩ | ⟨_, h⟩ | ⟨page, -, h⟩ := r.makeOffer_cases injection <;> rw [h]
  · exact Nat.le_succ _
  · simp [hcall]
  · simp [hcall]

theorem finish_effect {setup : PollSetup} {r r' : PollRun} {ending : Ending}
    {outcome : PollOutcome} (h : r.finish setup ending = .ok (r', outcome)) :
    r'.page.page.injections = r.page.page.injections ∨
      r.page.page.injections = [] ∧ ∃ injection, outcome = .injected injection ∧
        r'.page.page.injections = [injection] := by
  obtain rfl | ⟨injection, hoffer⟩ := finish_cases h
  · exact .inl rfl
  · have heffect := r.makeOffer_effect injection
    rw [hoffer] at heffect
    exact heffect.imp_right fun ⟨hempty, hmade⟩ => ⟨hempty, injection, hmade⟩

theorem finish_offers_le {setup : PollSetup} {r r' : PollRun} {ending : Ending}
    {outcome : PollOutcome} (h : r.finish setup ending = .ok (r', outcome)) :
    r'.calls.count .inject ≤ r.calls.count .inject + 1 := by
  obtain rfl | ⟨injection, hoffer⟩ := finish_cases h
  · exact Nat.le_succ _
  · have hoffers := r.makeOffer_offers_le injection
    rwa [hoffer] at hoffers

end PollRun

/-! ## Runs -/

namespace PollSetup

/-- How far a run gets, also when it breaks off. -/
def progress (s : PollSetup) (page : LivePage) : PollRun :=
  match s.checkTicker, s.deadline with
  | .ok (), .ok deadline =>
    match s.run page with
    | .ok (r, _) => r
    | .error _ => ((s.start page deadline).poll s).1
  | _, _ => s.start page 0

/-- The run asks for the offer, and the page answers in time that it is made. -/
def OfferTaken (s : PollSetup) (page : LivePage) (injection : Injection) : Prop :=
  ∃ deadline r asked taken, s.deadline = .ok deadline ∧
    (s.start page deadline).poll s = (r, .found injection) ∧ r.clock.isCancelled = false ∧
    r.call .inject = (asked, none) ∧ asked.page.inject injection = .ok taken

variable {s : PollSetup} {page : LivePage}

theorem progress_of_run_eq_ok {r : PollRun} {outcome : PollOutcome}
    (h : s.run page = .ok (r, outcome)) : s.progress page = r := by
  obtain ⟨deadline, hticker, hdeadline, -⟩ := exists_of_run_eq_ok h
  simp [progress, hticker, hdeadline, h]

theorem run_effect {r : PollRun} {outcome : PollOutcome} (h : s.run page = .ok (r, outcome)) :
    r.page.page.injections = page.page.injections ∨
      page.page.injections = [] ∧ ∃ injection, outcome = .injected injection ∧
        r.page.page.injections = [injection] := by
  obtain ⟨deadline, -, -, ⟨-, rfl, -⟩ | ⟨-, polled, ending, hpoll, hfinish⟩⟩ :=
    exists_of_run_eq_ok h
  · exact .inl rfl
  · have hpolled := (s.start page deadline).advances_poll s
    rw [hpoll] at hpolled
    have heffect := PollRun.finish_effect hfinish
    rwa [hpolled.injections_eq] at heffect

/-- A run that breaks off makes no offer. -/
theorem progress_of_run_eq_error {fault : PollFault} (h : s.run page = .error fault) :
    (s.progress page).page.page.injections = page.page.injections ∧
      (s.progress page).calls.count .inject = 0 := by
  unfold progress
  split
  · rename_i deadline _ _
    have hpolled := (s.start page deadline).advances_poll s
    rw [h]
    exact ⟨hpolled.injections_eq, hpolled.offers_eq⟩
  · exact ⟨rfl, rfl⟩

theorem progress_offers_le (s : PollSetup) (page : LivePage) :
    (s.progress page).calls.count .inject ≤ 1 := by
  rcases h : s.run page with fault | ⟨r, outcome⟩
  · rw [(progress_of_run_eq_error h).2]
    exact Nat.zero_le 1
  · rw [progress_of_run_eq_ok h]
    obtain ⟨deadline, -, -, ⟨-, rfl, -⟩ | ⟨-, polled, ending, hpoll, hfinish⟩⟩ :=
      exists_of_run_eq_ok h
    · exact Nat.zero_le 1
    · have hpolled := (s.start page deadline).advances_poll s
      rw [hpoll] at hpolled
      have hoffers := PollRun.finish_offers_le hfinish
      rwa [hpolled.offers_eq] at hoffers

theorem progress_effect (s : PollSetup) (page : LivePage) :
    (s.progress page).page.page.injections = page.page.injections ∨
      page.page.injections = [] ∧ ∃ injection,
        (s.progress page).page.page.injections = [injection] := by
  rcases h : s.run page with fault | ⟨r, outcome⟩
  · exact .inl (progress_of_run_eq_error h).1
  · rw [progress_of_run_eq_ok h]
    exact (run_effect h).imp_right fun ⟨hempty, injection, _, hmade⟩ => ⟨hempty, injection, hmade⟩

/-- On a page that said that there is no offer, one that is taken is there. -/
theorem run_of_offerTaken {r : PollRun} {outcome : PollOutcome} {injection : Injection}
    (h : s.run page = .ok (r, outcome)) (hmarker : page.isInjected = .ok false)
    (htaken : s.OfferTaken page injection) :
    page.page.injections = [] ∧ outcome = .injected injection ∧
      r.page.page.injections = [injection] := by
  obtain ⟨deadline, polled, asked, taken, hdeadline, hpoll, hcancelled, hasked, hinject⟩ := htaken
  have hpolled := (s.start page deadline).advances_poll s
  rw [hpoll] at hpolled
  have hempty : page.page.injections = [] := by
    unfold LivePage.isInjected LivePage.reply at hmarker
    split at hmarker
    · cases hmarker
    · exact Page.isInjected_eq_false_iff.1 (Except.ok.inj hmarker)
  -- work that is cancelled before it starts stays cancelled, and never gets to an offer
  have hstart : ¬ s.isCancelled = true := by
    intro hs
    have hstop : polled.clock.isCancelled = true := hpolled.clock.isCancelled hs
    rw [hcancelled] at hstop
    cases hstop
  obtain ⟨deadline', hticker, hdeadline', -⟩ := exists_of_run_eq_ok h
  obtain rfl : deadline = deadline' := Except.ok.inj (hdeadline.symm.trans hdeadline')
  rw [run_of_deadline hticker hdeadline, if_neg hstart, hpoll] at h
  have hoffer :
      polled.makeOffer injection = ({ asked with page := taken }, .injected injection) := by
    simp [PollRun.makeOffer, hcancelled, hasked, hinject]
  simp only [PollRun.finish, hoffer, Except.ok.injEq, Prod.mk.injEq] at h
  obtain ⟨rfl, rfl⟩ := h
  obtain ⟨clock, hframe⟩ := polled.call_frame .inject
  rw [hasked] at hframe
  have hpage : asked.page = polled.page := congrArg (·.page) hframe
  refine ⟨hempty, rfl, LivePage.inject_of_empty hinject ?_⟩
  rw [hpage, hpolled.injections_eq]
  exact hempty

end PollSetup

/-! ## Histories of a page -/

/-- What may be done to a page. To be asked for a title is a run, whose outcome tells it. -/
inductive PageOperation where
  | change (change : PageChange)
  /-- The page is asked to make an offer; one that never answers does not. -/
  | inject (injection : Injection)
  | run (setup : PollSetup)

/-- The page after an operation, also after one that fails or breaks off. -/
def LivePage.perform (p : LivePage) : PageOperation → LivePage
  | .change change => p.apply change
  | .inject injection =>
    if p.faults .inject = .stall then p else (p.inject injection).toOption.getD p
  | .run setup => (setup.progress p).page

theorem LivePage.perform_effect (p : LivePage) (operation : PageOperation) :
    (p.perform operation).page.injections = p.page.injections ∨
      p.page.injections = [] ∧
        ∃ injection, (p.perform operation).page.injections = [injection] := by
  cases operation with
  | change change => exact .inl (PollRun.apply_injections p change)
  | inject injection =>
    simp only [perform]
    split
    · exact .inl rfl
    · rcases h : p.inject injection with error | q
      · exact .inl rfl
      · exact (inject_effect h).imp_right fun ⟨hempty, hmade⟩ => ⟨hempty, injection, hmade⟩
  | run setup => exact setup.progress_effect p

/-- A page with an offer keeps it, and no other. -/
theorem LivePage.foldl_perform_of_injected {p : LivePage} (operations : List PageOperation)
    (h : p.page.injections ≠ []) :
    (operations.foldl perform p).page.injections = p.page.injections := by
  induction operations generalizing p with
  | nil => rfl
  | cons operation operations ih =>
    -- an offer is only ever made where there is none
    have hkept : (p.perform operation).page.injections = p.page.injections :=
      (p.perform_effect operation).resolve_right fun hmade => h hmade.1
    rw [List.foldl_cons, ih (by rwa [hkept]), hkept]

theorem LivePage.foldl_perform_length_le {p : LivePage} (operations : List PageOperation)
    (h : p.page.injections.length ≤ 1) :
    (operations.foldl perform p).page.injections.length ≤ 1 := by
  induction operations generalizing p with
  | nil => exact h
  | cons operation operations ih =>
    refine ih ?_
    obtain hkept | ⟨-, injection, hmade⟩ := p.perform_effect operation
    · rwa [hkept]
    · rw [hmade]
      exact Nat.le_refl 1

/-- Whatever is done to a page without an offer, it gets one at most, which it then keeps. A run
asks for an offer once at most, and either leaves the offers on the page as they are or makes the
first one, which it tells. If the page says that there is no offer and takes the one it is asked
for, that one is there. -/
theorem offer_made_once :
    (∀ (p : LivePage) (earlier later : List PageOperation), p.page.injections = [] →
      let q := earlier.foldl LivePage.perform p
      q.page.injections.length ≤ 1 ∧
        (q.page.injections ≠ [] →
          (later.foldl LivePage.perform q).page.injections = q.page.injections)) ∧
    ∀ (s : PollSetup) (page : LivePage),
      (s.progress page).calls.count .inject ≤ 1 ∧
      (∀ fault, s.run page = .error fault →
        (s.progress page).page.page.injections = page.page.injections) ∧
      ∀ r outcome, s.run page = .ok (r, outcome) →
        s.progress page = r ∧
        (r.page.page.injections = page.page.injections ∨
          page.page.injections = [] ∧ ∃ i, outcome = .injected i ∧ r.page.page.injections = [i]) ∧
        ((∀ i, outcome ≠ .injected i) → r.page.page.injections = page.page.injections) ∧
        ∀ i, page.isInjected = .ok false → s.OfferTaken page i →
          page.page.injections = [] ∧ outcome = .injected i ∧ r.page.page.injections = [i] := by
  constructor
  · intro p earlier later hempty
    exact ⟨LivePage.foldl_perform_length_le earlier (by simp [hempty]),
      LivePage.foldl_perform_of_injected later⟩
  · intro s page
    refine ⟨s.progress_offers_le page, fun fault hrun => (s.progress_of_run_eq_error hrun).1, ?_⟩
    intro r outcome hrun
    have heffect := PollSetup.run_effect hrun
    refine ⟨PollSetup.progress_of_run_eq_ok hrun, heffect, ?_, ?_⟩
    · intro houtcome
      exact heffect.resolve_right fun ⟨_, i, hi, _⟩ => houtcome i hi
    · intro i hmarker htaken
      exact PollSetup.run_of_offerTaken hrun hmarker htaken

theorem offer_made_once_heading :
    PollSetup.OfferTaken (.heading .plain) .darkHeading .dark ∧
      ∃ r, PollSetup.run (.heading .plain) .darkHeading = .ok (r, .injected .dark) ∧
        r.page.page.injections = [.dark] ∧
        ∀ later : List PageOperation,
          (later.foldl LivePage.perform r.page).page.injections = [.dark] := by
  obtain ⟨hhistory, hruns⟩ := offer_made_once
  obtain ⟨polled, hround, hclock, hasked, hpage⟩ : ∃ polled,
      PollRun.round (.heading .plain)
        { PollSetup.start (.heading .plain) .darkHeading 15000 with calls := [.url, .isInjected] } =
        (polled, some (.found .dark)) ∧
      polled.clock.isCancelled = false ∧
      polled.call .inject = ({ polled with calls := .inject :: polled.calls }, none) ∧
      polled.page = .darkHeading := ⟨_, rfl, rfl, rfl, rfl⟩
  have hpoll : (PollSetup.start (.heading .plain) .darkHeading 15000).poll (.heading .plain) =
      (polled, .found .dark) := PollRun.rounds_of_some hround
  have hinject : LivePage.inject .darkHeading .dark = .ok _ := rfl
  have hdeadline : (PollSetup.heading .plain).deadline = .ok 15000 := rfl
  have htaken : PollSetup.OfferTaken (.heading .plain) .darkHeading .dark :=
    ⟨15000, polled, _, _, hdeadline, hpoll, hclock, hasked, hpage ▸ hinject⟩
  obtain ⟨r, hrun⟩ : ∃ r, PollSetup.run (.heading .plain) .darkHeading =
      .ok (r, .injected .dark) := by
    rw [PollSetup.run_of_deadline rfl hdeadline, hpoll]
    simp [PollSetup.heading, PollRun.finish, PollRun.makeOffer, hclock, hasked, hpage, hinject]
  obtain ⟨-, -, houtcome⟩ := hruns (.heading .plain) .darkHeading
  obtain ⟨hprogress, -, -, htook⟩ := houtcome r _ hrun
  obtain ⟨hempty, -, hmade⟩ := htook .dark rfl htaken
  refine ⟨htaken, r, hrun, hmade, fun later => ?_⟩
  have hkept := (hhistory .darkHeading [.run (.heading .plain)] later hempty).2
  simp only [List.foldl_cons, List.foldl_nil, LivePage.perform, hprogress, hmade] at hkept
  exact hkept (by simp)

end ShowScout
