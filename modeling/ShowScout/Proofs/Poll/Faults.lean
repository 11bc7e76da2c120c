import ShowScout.Proofs.Poll.Bound

/-!
# Faults

A run breaks off because of its limits and the clock alone: its ticks are no time apart, its budget
or its deadline cannot be counted, or more attempts are allowed than can be counted.
-/

namespace ShowScout

namespace PollRun

variable {setup : PollSetup} {r : PollRun} {fault : PollFault}

/-! ## Polling -/

/-- A look breaks off as one attempt more cannot be counted. -/
theorem look_failed (h : (r.look setup).2 = some (.failed fault)) : fault = .attemptOverflow := by
  unfold look at h
  split at h
  · rename_i fault' htick
    unfold Poller.tick at htick
    split at htick
    · cases htick
    split at htick
    · cases htick
      cases h
      rfl
    · dsimp only at htick
      split at htick <;> cases htick
  · rename_i outcome _
    split at h
    · cases h
    · cases outcome <;> cases h

theorem round_failed (h : (r.round setup).2 = some (.failed fault)) : fault = .attemptOverflow := by
  unfold round at h
  split at h
  · cases h
  · exact look_failed h

theorem rounds_failed (h : (r.rounds setup).2 = .failed fault) : fault = .attemptOverflow := by
  fun_induction rounds setup r with
  | case1 r r' ending hround =>
    have hending : ending = .failed fault := h
    exact round_failed (r := r) (by rw [hround, hending])
  | case2 r r' hround ih => exact ih h

/-- Polling breaks off only if the largest number of attempts is allowed. -/
theorem poll_failed (h : (r.poll setup).2 = .failed fault)
    (hle : r.poller.attempts.toNat ≤ setup.config.maxAttempts.toNat) :
    fault = .attemptOverflow ∧ setup.config.maxAttempts.toNat + 1 = UInt32.size := by
  constructor
  · obtain ⟨r', -, ⟨stop, hpoll⟩ | ⟨-, hpoll⟩ | ⟨-, hpoll⟩⟩ := r.poll_cases setup <;>
      rw [hpoll] at h
    · cases h
    · cases h
    · exact rounds_failed h
  · have hlt := setup.config.maxAttempts.toNat_lt
    refine Nat.le_antisymm hlt (Nat.le_of_not_lt fun hmax => ?_)
    exact poll_ne_failed hmax hle h

end PollRun

/-! ## Runs -/

/-- What is wrong with a setup whose runs break off with the fault. -/
def PollFault.IsDue (s : PollSetup) : PollFault → Prop
  | .zeroInterval => s.config.interval = 0
  | .budgetOverflow => Nat.pow 2 64 ≤ s.seconds
  | .deadlineOverflow => Nat.pow 2 63 ≤ s.endSecond ∧ s.seconds < Nat.pow 2 64
  | .attemptOverflow =>
    s.endSecond < Nat.pow 2 63 ∧ s.config.maxAttempts.toNat + 1 = UInt32.size

theorem PollConfig.budget_eq_ok_iff {c : PollConfig} :
    (∃ budget, c.budget = .ok budget) ↔ c.milliseconds / 1000 < Nat.pow 2 64 := by
  unfold PollConfig.budget
  split <;> simp_all

namespace PollSetup

variable {s : PollSetup} {page : LivePage} {fault : PollFault}

theorem isDue_of_checkTicker (h : s.checkTicker = .error fault) : fault.IsDue s := by
  unfold checkTicker at h
  split at h
  · cases h
  · split at h <;> cases h
    assumption

theorem isDue_of_deadline (h : s.deadline = .error fault) : fault.IsDue s := by
  obtain ⟨-, hok⟩ | ⟨hclock, hbudget, herror⟩ | ⟨hbudget, herror⟩ := s.deadline_cases
  · rw [hok] at h
    cases h
  · rw [herror] at h
    cases h
    exact ⟨hclock, hbudget⟩
  · rw [herror] at h
    cases h
    exact hbudget

/-- A run that breaks off has a reason for it. -/
theorem isDue_of_run (h : s.run page = .error fault) : fault.IsDue s := by
  obtain hticker | ⟨-, hdeadline | ⟨deadline, hdeadline, hfailed⟩⟩ := cases_of_run_eq_error h
  · exact isDue_of_checkTicker hticker
  · exact isDue_of_deadline hdeadline
  · obtain ⟨rfl, hmax⟩ := PollRun.poll_failed hfailed (Nat.zero_le _)
    exact ⟨(deadline_eq_ok_iff.1 hdeadline).2, hmax⟩

theorem endSecond_lt_of_run {r : PollRun} {outcome : PollOutcome}
    (h : s.run page = .ok (r, outcome)) : s.endSecond < Nat.pow 2 63 := by
  obtain ⟨deadline, -, hdeadline, -⟩ := exists_of_run_eq_ok h
  exact (deadline_eq_ok_iff.1 hdeadline).2

end PollSetup

end ShowScout
