import ShowScout.Command.Configuration
import ShowScout.Proofs.CommandLine.Values
import ShowScout.Proofs.Poll.Faults

/-!
# Polling as the command line asks for

Each limit of polling on a command line is checked by itself. That makes sure that ticks are some
time apart, but neither that the time for all attempts can be counted nor that a clock will show
when it is over.
-/

namespace ShowScout

/-- The interval of polling on an accepted command line is always one that can be ticked. Runs with
its limits have an outcome if a clock will show their deadline and one attempt more than allowed can
be counted; they break off for want of one of the two alone, whatever the settings and the page. -/
theorem Arguments.run_poll {words : List String} {args : Arguments}
    (hparse : Arguments.parse words = .ok args) (settings : Settings) {s : PollSetup}
    (hpoll : s.config = (Configuration.ofArguments args settings).poll) (page : LivePage) :
    s.checkTicker = .ok () ∧
      ((∃ budget, s.config.budget = .ok budget) ↔ s.seconds < Nat.pow 2 64) ∧
      (s.endSecond < Nat.pow 2 63 → s.config.maxAttempts.toNat + 1 < UInt32.size →
        ∃ r outcome, s.run page = .ok (r, outcome)) ∧
      match s.run page with
      | .ok _ => s.endSecond < Nat.pow 2 63
      | .error fault => fault ≠ .zeroInterval ∧ fault.IsDue s := by
  have hinterval : 0 < s.config.interval := by
    rw [hpoll]
    exact (Arguments.poll_bounds hparse).2.1
  have hticker : s.checkTicker = .ok () :=
    PollSetup.checkTicker_eq_ok_iff.2 fun _ _ => hinterval
  refine ⟨hticker, PollConfig.budget_eq_ok_iff, fun hclock hmax => ?_, ?_⟩
  · exact PollSetup.exists_run_eq_ok hticker hmax (PollSetup.deadline_eq_ok_iff.2 ⟨rfl, hclock⟩)
  · split <;> rename_i hrun
    · exact PollSetup.endSecond_lt_of_run hrun
    -- of the reasons to break off, the interval is ruled out by the command line
    · have hdue := PollSetup.isDue_of_run hrun
      refine ⟨?_, hdue⟩
      rintro rfl
      exact Nat.ne_of_gt hinterval hdue

/-- Three looks, forty milliseconds apart. -/
def Arguments.threeLooks : Arguments where
  maxAttempts := 3
  interval := 40
  command := .extract "u"

theorem Arguments.run_poll_threeLooks :
    let poll := (Configuration.ofArguments .threeLooks {}).poll
    let s := PollSetup.heading (.interval fun _ => []) poll
    Arguments.parse ["--max-attempts", "3", "--interval-ms", "40", "extract", "u"] =
        .ok .threeLooks ∧
      s.config = poll ∧ s.checkTicker = .ok () ∧ (∃ budget, s.config.budget = .ok budget) ∧
      ∃ r outcome, s.run .darkHeading = .ok (r, outcome) := by
  intro poll s
  have hparse : Arguments.parse ["--max-attempts", "3", "--interval-ms", "40", "extract", "u"] =
      .ok .threeLooks := rfl
  have hseconds : s.seconds = 0 := by decide
  have hend : s.endSecond = 86400 := by decide
  obtain ⟨hticker, hbudget, hrun, -⟩ := Arguments.run_poll hparse {} (s := s) rfl .darkHeading
  rw [hseconds] at hbudget
  rw [hend] at hrun
  exact ⟨hparse, rfl, hticker, hbudget.2 (by decide), hrun (by decide) (by decide)⟩

/-- The largest limits that the command line takes. -/
def Arguments.largestLimits : Arguments where
  maxAttempts := 4294967295
  interval := 18446744073709551615
  command := .extract "u"

/-- Each limit of the largest ones is taken, but they are too large together. -/
theorem not_run_poll_of_largestLimits :
    ¬ ∀ (words : List String) (args : Arguments) (settings : Settings) (s : PollSetup)
        (page : LivePage), Arguments.parse words = .ok args →
        s.config = (Configuration.ofArguments args settings).poll →
        s.checkTicker = .ok () ∧ (∃ budget, s.config.budget = .ok budget) ∧
          ∃ r outcome, s.run page = .ok (r, outcome) := by
  intro h
  have hparse : Arguments.parse ["--max-attempts", "4294967295",
      "--interval-ms", "18446744073709551615", "extract", "u"] = .ok .largestLimits := rfl
  obtain ⟨-, hcounted, -⟩ := h _ _ {} (.heading (.interval fun _ => [])
    (Configuration.ofArguments .largestLimits {}).poll) .darkHeading hparse rfl
  exact absurd (PollConfig.budget_eq_ok_iff.1 hcounted) (by decide)

end ShowScout
