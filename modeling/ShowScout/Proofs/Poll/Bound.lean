import ShowScout.Proofs.Poll.Ending

/-!
# Bounded polling

However slowly a page answers, and whatever happens to it meanwhile, a run comes to an outcome
within its budget. Time alone does not bound a run, as ticks at once take none; the attempts do.
-/

namespace ShowScout

namespace PollRun

/-! ## Polling does not break off -/

/-- A look breaks off only when the attempts can no longer be counted. -/
theorem look_ne_failed {setup : PollSetup} {r : PollRun} {fault : PollFault}
    (hsize : r.poller.attempts.toNat + 1 < UInt32.size) :
    (r.look setup).2 ≠ some (.failed fault) := by
  have htick : ∃ p calls outcome,
      r.poller.tick setup.config setup.rule r.page = .ok (p, calls, outcome) := by
    by_cases hstate : r.poller.state = .waiting
    · by_cases hlt : r.poller.attempts.toNat < setup.config.maxAttempts.toNat
      · exact ⟨_, _, _, Poller.tick_of_lt hstate hlt⟩
      · exact ⟨_, _, _, Poller.tick_of_le hstate (Nat.le_of_not_lt hlt) hsize⟩
    · exact ⟨_, _, _, Poller.tick_of_ne_waiting hstate⟩
  obtain ⟨p, calls, outcome, htick⟩ := htick
  unfold look
  rw [htick]
  simp only
  split
  · simp
  · cases outcome <;> simp [Ending.ofTick?]

theorem round_ne_failed {setup : PollSetup} {r : PollRun} {fault : PollFault}
    (hsize : r.poller.attempts.toNat + 1 < UInt32.size) :
    (r.round setup).2 ≠ some (.failed fault) := by
  obtain ⟨page, clock, ticks, due, htick⟩ := r.tick_frame setup
  unfold round
  rcases h : r.tick setup with ⟨r', _ | stop⟩ <;> rw [h] at htick
  · have hpoller : r'.poller = r.poller := congrArg (·.poller) htick
    exact look_ne_failed (by rwa [hpoller])
  · simp

/-- The attempts outgrow their limit by no more than one, so a limit below the largest count leaves
room for them. -/
theorem rounds_ne_failed {setup : PollSetup} {r : PollRun} {fault : PollFault}
    (hmax : setup.config.maxAttempts.toNat + 1 < UInt32.size)
    (hle : r.poller.attempts.toNat ≤ setup.config.maxAttempts.toNat) :
    (r.rounds setup).2 ≠ .failed fault := by
  fun_induction rounds setup r with
  | case1 r r' ending h =>
    have hround : (r.round setup).2 ≠ some (.failed fault) := round_ne_failed (by omega)
    rw [h] at hround
    simpa using hround
  | case2 r r' h ih =>
    -- a round that goes on had an attempt left, so the count is still within the limit
    obtain ⟨-, hlt, hpoller⟩ := round_eq_none h
    have hcount := Poller.toNat_attempts_add_one hlt
    exact ih (by rw [hpoller]; simp only; omega)

theorem poll_ne_failed {setup : PollSetup} {r : PollRun} {fault : PollFault}
    (hmax : setup.config.maxAttempts.toNat + 1 < UInt32.size)
    (hle : r.poller.attempts.toNat ≤ setup.config.maxAttempts.toNat) :
    (r.poll setup).2 ≠ .failed fault := by
  obtain ⟨r', hstart, ⟨stop, h⟩ | ⟨-, h⟩ | ⟨-, h⟩⟩ := r.poll_cases setup <;> rw [h]
  · simp
  · simp
  · obtain ⟨clock, calls, rfl⟩ := hstart.frame
    exact rounds_ne_failed hmax hle

theorem exists_finish_eq_ok {setup : PollSetup} {r : PollRun} {ending : Ending}
    (h : ∀ fault, ending ≠ .failed fault) :
    ∃ r' outcome, r.finish setup ending = .ok (r', outcome) := by
  cases ending with
  | stopped stop => cases stop <;> exact ⟨_, _, rfl⟩
  | failed fault => exact absurd rfl (h fault)
  | _ => exact ⟨_, _, rfl⟩

/-! ## Ticks -/

theorem look_ticksStarted (setup : PollSetup) (r : PollRun) :
    (r.look setup).1.ticksStarted = r.ticksStarted := by
  obtain ⟨clock, poller, calls, h⟩ := r.look_frame setup
  rw [h]

theorem round_ticksStarted (setup : PollSetup) (r : PollRun) :
    (r.round setup).1.ticksStarted = r.ticksStarted + 1 := by
  obtain ⟨page, clock, ticks, due, htick⟩ := r.tick_frame setup
  have hticks := congrArg (·.ticksStarted) htick
  unfold round
  rcases h : r.tick setup with ⟨r', _ | stop⟩ <;> rw [h] at hticks
  · exact (look_ticksStarted setup r').trans hticks
  · exact hticks

/-- There is a tick for each attempt that is left, and one that gives up. -/
theorem rounds_ticksStarted_le (setup : PollSetup) (r : PollRun) :
    (r.rounds setup).1.ticksStarted ≤
      r.ticksStarted + (setup.config.maxAttempts.toNat - r.poller.attempts.toNat) + 1 := by
  fun_induction rounds setup r with
  | case1 r r' ending h =>
    have hticks := round_ticksStarted setup r
    rw [h] at hticks
    simp only at hticks ⊢
    omega
  | case2 r r' h ih =>
    have hticks := round_ticksStarted setup r
    obtain ⟨-, hlt, hpoller⟩ := round_eq_none h
    have hcount := Poller.toNat_attempts_add_one hlt
    rw [h] at hticks
    rw [hpoller] at ih
    simp only at hticks ih
    omega

theorem poll_ticksStarted_le (setup : PollSetup) (r : PollRun) :
    (r.poll setup).1.ticksStarted ≤
      r.ticksStarted + (setup.config.maxAttempts.toNat - r.poller.attempts.toNat) + 1 := by
  obtain ⟨r', hstart, hcases⟩ := r.poll_cases setup
  obtain ⟨clock, calls, rfl⟩ := hstart.frame
  obtain ⟨stop, h⟩ | ⟨-, h⟩ | ⟨-, h⟩ := hcases <;> rw [h]
  · simp only
    omega
  · simp only
    omega
  · exact rounds_ticksStarted_le setup _

end PollRun

namespace PollSetup

variable {s : PollSetup} {page : LivePage}

/-- A run that can start has an outcome. -/
theorem exists_run_eq_ok (hticker : s.checkTicker = .ok ())
    (hmax : s.config.maxAttempts.toNat + 1 < UInt32.size) {deadline : Nat}
    (hdeadline : s.deadline = .ok deadline) :
    ∃ r outcome, s.run page = .ok (r, outcome) := by
  rw [run_of_deadline hticker hdeadline]
  split
  · exact ⟨_, _, rfl⟩
  · exact PollRun.exists_finish_eq_ok fun fault => PollRun.poll_ne_failed hmax (Nat.zero_le _)

/-- A run whose deadline can be told ends with an outcome within its budget, after at most one tick
more than there are attempts. -/
theorem run_ends_in_time (hticker : ∀ hooks, s.ticker = .interval hooks → 0 < s.config.interval)
    (hmax : s.config.maxAttempts.toNat + 1 < UInt32.size)
    (hclock : s.endSecond < Nat.pow 2 63) :
    ∃ r outcome, s.run page = .ok (r, outcome) ∧
      r.clock.now ≤ s.config.interval * s.config.maxAttempts.toNat ∧
      r.ticksStarted ≤ s.config.maxAttempts.toNat + 1 := by
  have hdeadline := deadline_eq_ok_iff.2 ⟨rfl, hclock⟩
  rw [run_of_deadline (checkTicker_eq_ok_iff.2 hticker) hdeadline]
  split
  · exact ⟨_, _, rfl, Nat.zero_le _, Nat.zero_le _⟩
  · let r₀ := s.start page s.config.milliseconds
    have hpoll := r₀.advances_poll s
    have hticks := PollRun.poll_ticksStarted_le s r₀
    have hattempts : r₀.poller.attempts.toNat ≤ s.config.maxAttempts.toNat := Nat.zero_le _
    -- polling ends in a way that has an outcome, and the end of the run adds no ticks
    have hfailed fault : (r₀.poll s).2 ≠ .failed fault := PollRun.poll_ne_failed hmax hattempts
    obtain ⟨r, outcome, h⟩ : ∃ r outcome, (r₀.poll s).1.finish s (r₀.poll s).2 = .ok (r, outcome) :=
      PollRun.exists_finish_eq_ok hfailed
    have hfinish := PollRun.clock_advances_finish h
    obtain ⟨page', clock, calls, hframe⟩ := PollRun.finish_frame h
    refine ⟨r, outcome, h, ?_, ?_⟩
    · exact (hpoll.clock.trans hfinish).in_time (Nat.zero_le _)
    · rw [hframe]
      simpa [r₀, start] using hticks

theorem run_ends_in_time_stalled :
    ∃ r outcome,
      (heading (.interval fun _ => [])).run (.apply .darkHeading (.fault .evaluate .stall)) =
        .ok (r, outcome) ∧ r.clock.now ≤ 15000 ∧ r.ticksStarted ≤ 61 :=
  run_ends_in_time (fun _ _ => by decide) (by decide) (by decide)

/-- That the budget can be counted is not enough. -/
theorem not_run_ends_in_time_of_budget :
    ¬ ∀ (s : PollSetup) (page : LivePage),
      (∀ hooks, s.ticker = .interval hooks → 0 < s.config.interval) →
      s.config.maxAttempts.toNat + 1 < UInt32.size →
      (∃ budget, s.config.budget = .ok budget) →
      ∃ r outcome, s.run page = .ok (r, outcome) ∧
        r.clock.now ≤ s.config.interval * s.config.maxAttempts.toNat := by
  intro h
  obtain ⟨r, outcome, hrun, -⟩ := h (heading (.interval fun _ => []) .beyondClock) .darkHeading
    (fun _ _ => by decide) (by decide) ⟨_, PollConfig.beyondClock_budget⟩
  rw [run_of_budget rfl PollConfig.beyondClock_budget (by decide)] at hrun
  cases hrun

end PollSetup

end ShowScout
