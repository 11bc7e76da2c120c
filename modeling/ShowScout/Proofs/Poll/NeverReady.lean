import ShowScout.Proofs.Poll.Offer
import ShowScout.Proofs.Poll.Ticks
import ShowScout.Proofs.Rule.Broken

/-!
# Rules for which no page is ready

Such a rule makes no offer, whatever happens to the page and however long it is looked at. A rule
with a broken pattern for the content or the title is one.
-/

namespace ShowScout

variable {pattern : Pattern} {rule : Rule}

theorem Rule.not_gateOpen_of_broken (hpattern : pattern ∈ rule.contentPattern)
    (h : pattern.isValid = false) (page : LivePage) : ¬ rule.GateOpen page := by
  intro hopen
  obtain ⟨text, -, hmatch⟩ := hopen pattern hpattern
  rw [Pattern.isMatch_of_broken h] at hmatch
  cases hmatch

/-- No page is ready for the rule. -/
def Rule.NeverReady (rule : Rule) : Prop :=
  ∀ page injection, ¬ rule.IsReady page injection

theorem Rule.neverReady_of_content (hpattern : pattern ∈ rule.contentPattern)
    (h : pattern.isValid = false) : rule.NeverReady :=
  fun page _ hready => not_gateOpen_of_broken hpattern h page hready.content

theorem Rule.neverReady_of_extraction (hextraction : rule.extraction = .regex pattern)
    (h : pattern.isValid = false) : rule.NeverReady := by
  rintro page injection ⟨-, htitle, -⟩
  have hraw : rule.rawTitle page = none := by
    unfold rawTitle
    rw [hextraction]
    cases page.title.toOption <;> simp [Pattern.firstCapture_of_broken h]
  simp [title?, hraw] at htitle

/-! ## Ticks -/

theorem Poller.tick_ne_found (h : rule.NeverReady) {config : PollConfig} {page : LivePage}
    {p p' : Poller} {calls : List PageCall} {outcome : TickOutcome}
    (htick : p.tick config rule page = .ok (p', calls, outcome)) (injection : Injection) :
    outcome ≠ .found injection := by
  rintro rfl
  exact h page injection (tick_eq_found htick).2

/-- While the content cannot be found, each tick waits for it. -/
theorem Poller.tick_of_broken_content (hpattern : pattern ∈ rule.contentPattern)
    (h : pattern.isValid = false) {config : PollConfig} {p : Poller} (page : LivePage)
    (hstate : p.state = .waiting) (hlt : p.attempts.toNat < config.maxAttempts.toNat) :
    p.tick config rule page =
      .ok ({ attempts := p.attempts + 1 }, [.body], .contentPending) := by
  have hclosed : rule.hasContent page = false :=
    Bool.eq_false_iff.2 (mt Rule.hasContent_iff.1 (Rule.not_gateOpen_of_broken hpattern h page))
  have hlook : rule.look page = .contentPending := by simp [Rule.look, hclosed]
  have hcalls : rule.lookCalls page = [.body] := by
    simp [Rule.lookCalls, hclosed, Option.mem_def.1 hpattern]
  rw [tick_of_lt hstate hlt, hlook, hcalls]
  rfl

/-- A new poller waits, up to its last attempt, for content that cannot be found. -/
theorem Poller.ticks_of_broken_content (hpattern : pattern ∈ rule.contentPattern)
    (h : pattern.isValid = false) {config : PollConfig} {pages : List LivePage}
    (hlen : pages.length ≤ config.maxAttempts.toNat) :
    ({} : Poller).ticks config rule pages =
      .ok (pages.mapIdx fun i _ => (.contentPending, after (i + 1))) := by
  have hready : ∀ page ∈ pages, ∀ i, ¬ rule.IsReady page i := fun page _ =>
    Rule.neverReady_of_content hpattern h page
  have hwaits : waits rule 0 pages = pages.mapIdx fun i _ => (.contentPending, after (i + 1)) := by
    simp [waits, Rule.pending, Rule.not_gateOpen_of_broken hpattern h]
  rw [← hwaits]
  exact ticks_of_not_ready (n := 0) hready (by omega)

/-! ## Runs -/

namespace PollRun

variable {setup : PollSetup}

theorem look_ne_found (h : setup.rule.NeverReady) (r : PollRun) (injection : Injection) :
    (r.look setup).2 ≠ some (.found injection) :=
  fun hfound => h r.page injection (look_eq_found hfound).2

theorem round_ne_found (h : setup.rule.NeverReady) (r : PollRun) (injection : Injection) :
    (r.round setup).2 ≠ some (.found injection) := by
  unfold round
  split
  · simp
  · exact look_ne_found h _ injection

theorem rounds_ne_found (h : setup.rule.NeverReady) (r : PollRun) (injection : Injection) :
    (r.rounds setup).2 ≠ .found injection := by
  fun_induction rounds setup r with
  | case1 r r' ending hround =>
    have hending := round_ne_found h r injection
    rw [hround] at hending
    simpa using hending
  | case2 r r' hround ih => exact ih

theorem poll_ne_found (h : setup.rule.NeverReady) (r : PollRun) (injection : Injection) :
    (r.poll setup).2 ≠ .found injection := by
  obtain ⟨r', -, ⟨stop, hpoll⟩ | ⟨-, hpoll⟩ | ⟨-, hpoll⟩⟩ := r.poll_cases setup <;> rw [hpoll]
  · simp
  · simp
  · exact rounds_ne_found h r' injection

/-- An ending that found nothing is told without an offer. -/
theorem finish_of_ne_found {r r' : PollRun} {ending : Ending} {outcome : PollOutcome}
    (hending : ∀ injection, ending ≠ .found injection)
    (h : r.finish setup ending = .ok (r', outcome)) :
    r' = r ∧ ∀ injection, outcome ≠ .injected injection := by
  unfold finish at h
  split at h
  · exact absurd rfl (hending _)
  all_goals cases h
  all_goals exact ⟨rfl, by simp [cancelledOutcome]⟩

end PollRun

/-- A run for a rule without ready pages makes no offer and does not say so. -/
theorem PollSetup.run_of_neverReady {s : PollSetup} (h : s.rule.NeverReady) (page : LivePage) :
    (∀ r injection, s.run page ≠ .ok (r, .injected injection)) ∧
      (s.progress page).page.page.injections = page.page.injections ∧
      (s.progress page).calls.count .inject = 0 := by
  have hrun {r : PollRun} {outcome : PollOutcome} (hrun : s.run page = .ok (r, outcome)) :
      (∀ injection, outcome ≠ .injected injection) ∧
        r.page.page.injections = page.page.injections ∧ r.calls.count .inject = 0 := by
    obtain ⟨deadline, -, -, ⟨-, rfl, rfl⟩ | ⟨-, polled, ending, hpoll, hfinish⟩⟩ :=
      exists_of_run_eq_ok hrun
    · exact ⟨by simp, rfl, rfl⟩
    · have hpolled := (s.start page deadline).advances_poll s
      have hending := PollRun.poll_ne_found h (s.start page deadline)
      rw [hpoll] at hpolled hending
      obtain ⟨rfl, houtcome⟩ := PollRun.finish_of_ne_found hending hfinish
      exact ⟨houtcome, hpolled.injections_eq, hpolled.offers_eq⟩
  refine ⟨fun r injection hinjected => (hrun hinjected).1 injection rfl, ?_⟩
  rcases houtcome : s.run page with fault | ⟨r, outcome⟩
  · exact progress_of_run_eq_error houtcome
  · rw [progress_of_run_eq_ok houtcome]
    exact (hrun houtcome).2

end ShowScout
