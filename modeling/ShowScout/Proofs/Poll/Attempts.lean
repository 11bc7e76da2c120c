import ShowScout.Proofs.Poll.Advance

/-!
# When attempts start

Every tick that comes starts an attempt, at the time that the clock then shows. These times are
listed here, apart from the run, so that statements can tell how many attempts a run has started by
some time. The poller counts the same attempts.
-/

namespace ShowScout

namespace PollRun

theorem tick_poller (setup : PollSetup) (r : PollRun) : (r.tick setup).1.poller = r.poller := by
  obtain ⟨page, clock, ticks, due, h⟩ := r.tick_frame setup
  rw [h]

theorem look_poller {setup : PollSetup} {r : PollRun} {poller : Poller} {calls : List PageCall}
    {outcome : TickOutcome}
    (h : r.poller.tick setup.config setup.rule r.page = .ok (poller, calls, outcome)) :
    (r.look setup).1.poller = poller := by
  have hcalls := callAll_poller { r with poller } calls
  unfold look
  rw [h]
  simp only
  split <;> rename_i hall <;> rw [hall] at hcalls
  · exact hcalls
  · exact hcalls

/-- A look counts an attempt, also the one that gives up. -/
theorem look_attempts {setup : PollSetup} {r : PollRun} (hstate : r.poller.state = .waiting)
    (hsize : r.poller.attempts.toNat + 1 < UInt32.size) :
    (r.look setup).1.poller.attempts.toNat = r.poller.attempts.toNat + 1 := by
  have hcount : (r.poller.attempts + 1).toNat = r.poller.attempts.toNat + 1 := by
    simp only [UInt32.size] at hsize
    rw [UInt32.toNat_add, UInt32.toNat_one]
    omega
  by_cases hlt : r.poller.attempts.toNat < setup.config.maxAttempts.toNat
  · rw [look_poller (Poller.tick_of_lt hstate hlt)]
    exact hcount
  · rw [look_poller (Poller.tick_of_le hstate (Nat.le_of_not_lt hlt) hsize)]
    exact hcount

/-! ## In rounds -/

/-- The times at which rounds start attempts. -/
def attemptTimes (setup : PollSetup) (r : PollRun) : List Nat :=
  match r.tick setup with
  | (_, some _) => []
  | (ticked, none) =>
    ticked.clock.now ::
      match _ : r.round setup with
      | (_, some _) => []
      | (r', none) => r'.attemptTimes setup
termination_by setup.config.maxAttempts.toNat - r.poller.attempts.toNat
decreasing_by
  obtain ⟨-, hlt, hpoller⟩ := round_eq_none ‹_›
  rw [hpoller]
  simp only [Poller.toNat_attempts_add_one hlt]
  omega

/-- The times at which attempts are started after a round. -/
def attemptTimesAfter (setup : PollSetup) : PollRun × Option Ending → List Nat
  | (_, some _) => []
  | (r, none) => r.attemptTimes setup

section Rounds

variable {setup : PollSetup} {r ticked r' : PollRun}

theorem attemptTimes_of_stop {stop : Stop} (h : r.tick setup = (ticked, some stop)) :
    r.attemptTimes setup = [] := by
  rw [attemptTimes, h]

theorem attemptTimes_of_tick (h : r.tick setup = (ticked, none)) :
    r.attemptTimes setup = ticked.clock.now :: attemptTimesAfter setup (r.round setup) := by
  rw [attemptTimes, h]
  simp only
  split <;> rename_i hround <;> rw [hround] <;> rfl

theorem round_of_stop {stop : Stop} (h : r.tick setup = (ticked, some stop)) :
    r.round setup = (ticked, some (.stopped stop)) := by
  unfold round
  rw [h]

theorem round_of_tick (h : r.tick setup = (ticked, none)) :
    r.round setup = ticked.look setup := by
  unfold round
  rw [h]

/-- Attempts start at no time that is past. -/
theorem le_of_mem_attemptTimes {time : Nat} (h : time ∈ r.attemptTimes setup) :
    r.clock.now ≤ time := by
  -- the induction is on the rounds, whose last one is followed by no attempt
  fun_induction rounds setup r with
  | case1 r r' ending hround =>
    have hticked := (r.advances_tick setup).clock.now_le
    rcases htick : r.tick setup with ⟨ticked, _ | stop⟩ <;> rw [htick] at hticked
    · rw [attemptTimes_of_tick htick, hround, attemptTimesAfter, List.mem_singleton] at h
      rwa [h]
    · rw [attemptTimes_of_stop htick] at h
      exact absurd h List.not_mem_nil
  | case2 r r' hround ih =>
    have hticked := (r.advances_tick setup).clock.now_le
    have hnext := (r.advances_round setup).clock.now_le
    rcases htick : r.tick setup with ⟨ticked, _ | stop⟩ <;> rw [htick] at hticked
    · rw [attemptTimes_of_tick htick, hround, attemptTimesAfter, List.mem_cons] at h
      rw [hround] at hnext
      obtain rfl | hlater := h
      · exact hticked
      · exact Nat.le_trans hnext (ih hlater)
    · rw [round_of_stop htick] at hround
      cases hround

theorem le_of_mem_attemptTimesAfter {round : PollRun × Option Ending} {time : Nat}
    (h : time ∈ attemptTimesAfter setup round) : round.1.clock.now ≤ time := by
  rcases round with ⟨r, _ | ending⟩
  · exact le_of_mem_attemptTimes h
  · exact absurd h List.not_mem_nil

end Rounds

/-- The poller counts the attempts whose times are listed. -/
theorem rounds_attempts {setup : PollSetup} {r : PollRun}
    (hmax : setup.config.maxAttempts.toNat + 1 < UInt32.size)
    (hstate : r.poller.state = .waiting)
    (hle : r.poller.attempts.toNat ≤ setup.config.maxAttempts.toNat) :
    (r.rounds setup).1.poller.attempts.toNat =
      r.poller.attempts.toNat + (r.attemptTimes setup).length := by
  fun_induction rounds setup r with
  | case1 r r' ending hround =>
    have hpoller := r.tick_poller setup
    rcases htick : r.tick setup with ⟨ticked, _ | stop⟩ <;> rw [htick] at hpoller
    -- the last attempt is counted too, also if the poller gives up with it
    · have hlook := round_of_tick htick
      rw [hround] at hlook
      have hcount : (ticked.look setup).1.poller.attempts.toNat =
          ticked.poller.attempts.toNat + 1 :=
        look_attempts (by rw [hpoller]; exact hstate) (by rw [hpoller]; omega)
      rw [attemptTimes_of_tick htick, hround]
      rwa [← hlook, hpoller] at hcount
    · have hstop := round_of_stop htick
      rw [hround] at hstop
      obtain ⟨rfl, -⟩ := Prod.mk.inj hstop
      rw [attemptTimes_of_stop htick, hpoller]
      rfl
  | case2 r r' hround ih =>
    -- a round that goes on came to a tick and used up one attempt
    obtain ⟨-, hlt, hpoller⟩ := round_eq_none hround
    have hcount := Poller.toNat_attempts_add_one hlt
    rcases htick : r.tick setup with ⟨ticked, _ | stop⟩
    · have hnext := ih (by rw [hpoller]) (by rw [hpoller]; simp only; omega)
      rw [hnext, attemptTimes_of_tick htick, hround, attemptTimesAfter, hpoller, List.length_cons]
      simp only
      omega
    · rw [round_of_stop htick] at hround
      cases hround

/-! ## While polling -/

/-- The times at which a run that found no offer starts attempts. -/
def startAttemptTimes (setup : PollSetup) (r : PollRun) : List Nat :=
  match r.call .url with
  | (_, some _) => []
  | (r, none) => r.attemptTimes setup

/-- The times at which polling starts attempts. -/
def pollAttemptTimes (setup : PollSetup) (r : PollRun) : List Nat :=
  match r.call .isInjected with
  | (_, some _) => []
  | (r, none) =>
    match r.page.isInjected with
    | .ok true => []
    | .ok false | .error _ => r.startAttemptTimes setup

theorem le_of_mem_startAttemptTimes {setup : PollSetup} {r : PollRun} {time : Nat}
    (h : time ∈ r.startAttemptTimes setup) : r.clock.now ≤ time := by
  have hurl := (r.clock_advances_call .url).now_le
  unfold startAttemptTimes at h
  rcases hcall : r.call .url with ⟨r', _ | stop⟩ <;> rw [hcall] at h hurl
  · exact Nat.le_trans hurl (le_of_mem_attemptTimes h)
  · exact absurd h List.not_mem_nil

theorem startRounds_attempts {setup : PollSetup} {r : PollRun}
    (hmax : setup.config.maxAttempts.toNat + 1 < UInt32.size)
    (hstate : r.poller.state = .waiting)
    (hle : r.poller.attempts.toNat ≤ setup.config.maxAttempts.toNat) :
    (r.startRounds setup).1.poller.attempts.toNat =
      r.poller.attempts.toNat + (r.startAttemptTimes setup).length := by
  obtain ⟨clock, hframe⟩ := r.call_frame .url
  unfold startRounds startAttemptTimes
  rcases hcall : r.call .url with ⟨r', _ | stop⟩ <;> rw [hcall] at hframe <;> subst hframe
  · exact rounds_attempts hmax hstate hle
  · rfl

theorem poll_attempts {setup : PollSetup} {r : PollRun}
    (hmax : setup.config.maxAttempts.toNat + 1 < UInt32.size)
    (hstate : r.poller.state = .waiting)
    (hle : r.poller.attempts.toNat ≤ setup.config.maxAttempts.toNat) :
    (r.poll setup).1.poller.attempts.toNat =
      r.poller.attempts.toNat + (r.pollAttemptTimes setup).length := by
  obtain ⟨clock, hframe⟩ := r.call_frame .isInjected
  unfold poll pollAttemptTimes
  rcases hcall : r.call .isInjected with ⟨r', _ | stop⟩ <;> rw [hcall] at hframe <;> subst hframe
  · simp only
    rcases r.page.isInjected with error | _ | _
    case ok.true => rfl
    all_goals exact startRounds_attempts hmax hstate hle
  · rfl

end PollRun

/-- The times at which a run starts attempts. -/
def PollSetup.attemptTimes (s : PollSetup) (page : LivePage) : List Nat :=
  if s.isCancelled then [] else (s.start page s.config.milliseconds).pollAttemptTimes s

end ShowScout
