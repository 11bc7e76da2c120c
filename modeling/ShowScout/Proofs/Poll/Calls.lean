import ShowScout.Proofs.Poll.Attempts
import ShowScout.Proofs.Poll.Bound
import ShowScout.Proofs.Poll.Offer

/-!
# What a run asks of a page

A look at a page begins with one request, and goes on with others only as these are answered. A run
asks for the marker of an earlier offer, then for the address, then for what its looks take, and
last for the offer, so that the requests made tell how many attempts there were, also when the run
is broken off in the middle of a look. The outcome tells the same number.
-/

namespace ShowScout

/-! ## Requests of looks -/

/-- The number of requests by which a title is extracted. -/
def extractionsIn (calls : List PageCall) : Nat :=
  calls.count .title + calls.count .evaluate

/-- The number of looks that have been begun: each first asks for the content if the rule waits for
any, and for the title otherwise. -/
def Rule.evaluationsIn (rule : Rule) (calls : List PageCall) : Nat :=
  if rule.contentPattern.isSome then calls.count .body else extractionsIn calls

/-- The requests of so many looks for a rule, the last one first. A look may be broken off after any
of its requests, but makes the first one. -/
inductive Rule.Looks (rule : Rule) : Nat → List PageCall → Prop
  | none : rule.Looks 0 []
  | look {n : Nat} {calls made : List PageCall} (page : LivePage) (earlier : rule.Looks n calls)
      (begins : made ≠ []) (goesOn : made <+: rule.lookCalls page) :
      rule.Looks (n + 1) (made.reverse ++ calls)

section Counts

variable {rule : Rule} {page : LivePage} {n : Nat} {calls made : List PageCall}

@[simp]
theorem extractionsIn_append (calls calls' : List PageCall) :
    extractionsIn (calls ++ calls') = extractionsIn calls + extractionsIn calls' := by
  simp only [extractionsIn, List.count_append]
  omega

@[simp]
theorem extractionsIn_reverse (calls : List PageCall) :
    extractionsIn calls.reverse = extractionsIn calls := by
  simp only [extractionsIn, List.count_reverse]

@[simp]
theorem Rule.evaluationsIn_append (rule : Rule) (calls calls' : List PageCall) :
    rule.evaluationsIn (calls ++ calls') =
      rule.evaluationsIn calls + rule.evaluationsIn calls' := by
  unfold evaluationsIn
  split
  · exact List.count_append
  · exact extractionsIn_append calls calls'

@[simp]
theorem Rule.evaluationsIn_reverse (rule : Rule) (calls : List PageCall) :
    rule.evaluationsIn calls.reverse = rule.evaluationsIn calls := by
  simp only [evaluationsIn, List.count_reverse, extractionsIn_reverse]

theorem Rule.titleCall_cases (rule : Rule) :
    rule.titleCall = .title ∨ rule.titleCall = .evaluate := by
  unfold titleCall
  cases rule.extraction
  · exact .inl rfl
  · exact .inr rfl

/-- A look asks for the content first if the rule waits for any, and then, or at once, for the title
and the element. -/
theorem Rule.lookCalls_cases (rule : Rule) (page : LivePage) :
    (rule.contentPattern.isSome ∧
        (rule.lookCalls page = [.body] ∨
          rule.lookCalls page = [.body, rule.titleCall, .locate])) ∨
      rule.contentPattern = none ∧ rule.lookCalls page = [rule.titleCall, .locate] := by
  unfold lookCalls
  cases hpattern : rule.contentPattern with
  | none => simp [hasContent, hpattern]
  | some pattern => cases rule.hasContent page <;> simp

/-- What a look asks for, as far as it gets. -/
theorem Rule.counts_of_look (begins : made ≠ []) (goesOn : made <+: rule.lookCalls page) :
    rule.evaluationsIn made = 1 ∧ made.count .locate ≤ extractionsIn made ∧
      extractionsIn made ≤ 1 := by
  have htitle := rule.titleCall_cases
  rcases rule.lookCalls_cases page with ⟨hpattern, hcalls | hcalls⟩ | ⟨hpattern, hcalls⟩ <;>
    rw [hcalls] at goesOn <;> simp only [List.prefix_cons_iff, List.prefix_nil] at goesOn
  · obtain rfl | ⟨_, rfl, rfl⟩ := goesOn
    · exact absurd rfl begins
    · simp [evaluationsIn, hpattern, extractionsIn]
  · obtain rfl | ⟨_, rfl, rfl | ⟨_, rfl, rfl | ⟨_, rfl, rfl⟩⟩⟩ := goesOn
    · exact absurd rfl begins
    all_goals
      rcases htitle with htitle | htitle <;>
        simp [evaluationsIn, hpattern, extractionsIn, htitle]
  · obtain rfl | ⟨_, rfl, rfl | ⟨_, rfl, rfl⟩⟩ := goesOn
    · exact absurd rfl begins
    all_goals
      rcases htitle with htitle | htitle <;>
        simp [evaluationsIn, hpattern, extractionsIn, htitle]

namespace Rule.Looks

theorem evaluationsIn_eq (h : rule.Looks n calls) : rule.evaluationsIn calls = n := by
  induction h with
  | none => simp [evaluationsIn, extractionsIn]
  | look page _ begins goesOn ih =>
    rw [evaluationsIn_append, evaluationsIn_reverse, (counts_of_look begins goesOn).1, ih,
      Nat.add_comm]

theorem extractionsIn_le (h : rule.Looks n calls) : extractionsIn calls ≤ n := by
  induction h with
  | none => exact Nat.le_refl 0
  | look page _ begins goesOn ih =>
    have hlook := (counts_of_look begins goesOn).2.2
    rw [extractionsIn_append, extractionsIn_reverse]
    omega

theorem locates_le (h : rule.Looks n calls) : calls.count .locate ≤ extractionsIn calls := by
  induction h with
  | none => exact Nat.le_refl 0
  | look page _ begins goesOn ih =>
    have hlook := (counts_of_look begins goesOn).2.1
    rw [extractionsIn_append, extractionsIn_reverse, List.count_append, List.count_reverse]
    omega

/-- The looks for a rule ask for nothing that the rule does not need. -/
theorem cases_of_mem (h : rule.Looks n calls) {c : PageCall} (hc : c ∈ calls) :
    c = .body ∧ rule.contentPattern.isSome ∨ c = rule.titleCall ∨ c = .locate := by
  induction h with
  | none => exact absurd hc List.not_mem_nil
  | look page _ _ goesOn ih =>
    rcases List.mem_append.1 hc with hmade | hearlier
    · have hlook := goesOn.mem (List.mem_reverse.1 hmade)
      rcases rule.lookCalls_cases page with ⟨hpattern, hcalls | hcalls⟩ | ⟨-, hcalls⟩ <;>
        simp_all
    · exact ih hearlier

end Rule.Looks

end Counts

namespace PollRun

/-! ## Rounds -/

section Rounds

variable {setup : PollSetup} {r r' : PollRun} {before : List PageCall}

/-- Requests are made in order up to the one that is not answered, which is made too. -/
theorem callAll_calls (r : PollRun) (cs : List PageCall) :
    ∃ made, made <+: cs ∧ (cs ≠ [] → made ≠ []) ∧
      (r.callAll cs).1.calls = made.reverse ++ r.calls ∧
      ((r.callAll cs).2 = none → made = cs) := by
  -- on the requests still to be made; the run differs in each step by what was asked
  induction cs generalizing r with
  | nil => exact ⟨[], List.prefix_rfl, id, rfl, fun _ => rfl⟩
  | cons c cs ih =>
    obtain ⟨clock, hcall⟩ := r.call_frame c
    unfold callAll
    rcases h : r.call c with ⟨asked, _ | stop⟩ <;> rw [h] at hcall <;> simp only at hcall
    · obtain ⟨made, hprefix, -, hcalls, hall⟩ := ih asked
      refine ⟨c :: made, List.cons_prefix_cons.2 ⟨rfl, hprefix⟩, fun _ => List.cons_ne_nil _ _, ?_,
        fun hnone => congrArg (c :: ·) (hall hnone)⟩
      rw [hcalls, hcall, List.reverse_cons, List.append_assoc, List.singleton_append]
    · refine ⟨[c], by simp, fun _ => List.cons_ne_nil _ _, ?_, by simp⟩
      rw [hcall]
      rfl

/-- An attempt that is left is used for a look, which may be broken off; the one after the last
gives up and asks for nothing. -/
theorem look_cases (setup : PollSetup) (hstate : r.poller.state = .waiting)
    (hsize : r.poller.attempts.toNat + 1 < UInt32.size) :
    (r.poller.attempts.toNat < setup.config.maxAttempts.toNat ∧
        (r.look setup).2 ≠ some .exhausted ∧
        ∃ made, made ≠ [] ∧ made <+: setup.rule.lookCalls r.page ∧
          (r.look setup).1.calls = made.reverse ++ r.calls ∧
          ∀ injection, (r.look setup).2 = some (.found injection) → .locate ∈ made) ∨
      setup.config.maxAttempts.toNat ≤ r.poller.attempts.toNat ∧
        (r.look setup).2 = some .exhausted ∧ (r.look setup).1.calls = r.calls := by
  by_cases hlt : r.poller.attempts.toNat < setup.config.maxAttempts.toNat
  · refine .inl ⟨hlt, ?_⟩
    have htick : r.poller.tick setup.config setup.rule r.page = .ok _ :=
      Poller.tick_of_lt hstate hlt
    obtain ⟨made, hprefix, hbegins, hcalls, hall⟩ := callAll_calls
      { r with poller := { attempts := r.poller.attempts + 1,
                           state := Poller.afterLook .waiting (setup.rule.look r.page) } }
      (setup.rule.lookCalls r.page)
    have hne : setup.rule.lookCalls r.page ≠ [] := by
      rcases setup.rule.lookCalls_cases r.page with ⟨-, h | h⟩ | ⟨-, h⟩ <;> simp [h]
    unfold look
    rw [htick]
    simp only
    split <;> rename_i hbroken <;> rw [hbroken] at hcalls hall
    · exact ⟨by simp, made, hbegins hne, hprefix, hcalls, by simp⟩
    · refine ⟨?_, made, hbegins hne, hprefix, hcalls, fun injection hfound => ?_⟩
      · unfold Rule.look Rule.lookForTitle
        split
        · split <;> simp [Ending.ofTick?]
        · simp [Ending.ofTick?]
      -- what finds something was answered to the end, on a page with the content
      · have hlook : setup.rule.look r.page = .found injection := by
          cases hlook : setup.rule.look r.page <;> rw [hlook] at hfound <;>
            simp_all [Ending.ofTick?]
        have hcontent : setup.rule.hasContent r.page = true :=
          Rule.hasContent_iff.2 (Rule.look_eq_found_iff.1 hlook).content
        rw [hall rfl]
        simp [Rule.lookCalls, hcontent]
  · have hle := Nat.le_of_not_lt hlt
    refine .inr ⟨hle, ?_⟩
    unfold look
    rw [Poller.tick_of_le hstate hle hsize]
    exact ⟨rfl, rfl⟩

/-- Since the rounds began, what was requested are the looks of the attempts so far, except the one
that gives up. -/
def Looked (setup : PollSetup) (before : List PageCall) (r : PollRun) : Prop :=
  ∃ looked,
    setup.rule.Looks (min r.poller.attempts.toNat setup.config.maxAttempts.toNat) looked ∧
      r.calls = looked ++ before

/-- How rounds end that began with the given requests: only an exhausted poller has counted an
attempt without a look, and only after a look to its end is something found. -/
structure EndsRounds (setup : PollSetup) (before : List PageCall) (r : PollRun)
    (ending : Ending) : Prop where
  looked : r.Looked setup before
  exhausted : ending = .exhausted → setup.config.maxAttempts.toNat ≤ r.poller.attempts.toNat
  others : ending ≠ .exhausted → r.poller.attempts.toNat ≤ setup.config.maxAttempts.toNat
  found : ∀ injection, ending = .found injection → .locate ∈ r.calls

/-- A round keeps the account of looks, and an ending that it brings agrees with it. -/
theorem round_looked (hmax : setup.config.maxAttempts.toNat + 1 < UInt32.size)
    (hstate : r.poller.state = .waiting)
    (hle : r.poller.attempts.toNat ≤ setup.config.maxAttempts.toNat)
    (h : r.Looked setup before) :
    (r.round setup).1.Looked setup before ∧
      ∀ ending, (r.round setup).2 = some ending →
        EndsRounds setup before (r.round setup).1 ending := by
  obtain ⟨page, clock, ticks, due, hframe⟩ := r.tick_frame setup
  rcases htick : r.tick setup with ⟨ticked, _ | stop⟩ <;> rw [htick] at hframe <;>
    simp only at hframe
  · have hpoller : ticked.poller = r.poller := by rw [hframe]
    have hcalls : ticked.calls = r.calls := by rw [hframe]
    have hstate' : ticked.poller.state = .waiting := by rw [hpoller, hstate]
    have hsize : ticked.poller.attempts.toNat + 1 < UInt32.size := by rw [hpoller]; omega
    have hcount : (ticked.look setup).1.poller.attempts.toNat = r.poller.attempts.toNat + 1 := by
      rw [look_attempts hstate' hsize, hpoller]
    obtain ⟨looked, hlooks, hbefore⟩ := h
    rw [round_of_tick htick]
    -- each attempt is a look more, but for the one too many, which the minimum leaves out
    rcases look_cases setup hstate' hsize with
      ⟨hlt, hending, made, hbegins, hprefix, hmade, hfound⟩ | ⟨hmost, hending, hnone⟩
    · rw [hpoller] at hlt
      have hlooked : (ticked.look setup).1.Looked setup before := by
        refine ⟨made.reverse ++ looked, ?_, ?_⟩
        · rw [hcount, Nat.min_eq_left hlt]
          rw [Nat.min_eq_left hle] at hlooks
          exact .look ticked.page hlooks hbegins hprefix
        · rw [hmade, hcalls, hbefore, List.append_assoc]
      refine ⟨hlooked, fun ending heq => ⟨hlooked, ?_, ?_, ?_⟩⟩
      · rintro rfl
        exact absurd heq hending
      · intro
        rw [hcount]
        exact hlt
      · rintro injection rfl
        rw [hmade]
        exact List.mem_append_left _ (List.mem_reverse.2 (hfound injection heq))
    · rw [hpoller] at hmost
      have hlooked : (ticked.look setup).1.Looked setup before := by
        refine ⟨looked, ?_, by rw [hnone, hcalls, hbefore]⟩
        rw [hcount, Nat.min_eq_right (Nat.le_succ_of_le hmost)]
        rwa [Nat.min_eq_right hmost] at hlooks
      refine ⟨hlooked, fun ending heq => ⟨hlooked, ?_, ?_, ?_⟩⟩
      · intro
        rw [hcount]
        exact Nat.le_succ_of_le hmost
      all_goals
        rw [hending] at heq
        cases heq
        simp
  -- a wait that is broken off asks for nothing
  · have hlooked : ticked.Looked setup before := by
      rw [hframe]
      exact h
    rw [round_of_stop htick]
    refine ⟨hlooked, ?_⟩
    rintro ending ⟨⟩
    refine ⟨hlooked, nofun, fun _ => ?_, nofun⟩
    rw [hframe]
    exact hle

/-- The account of looks is kept through all rounds. -/
theorem rounds_looked (hmax : setup.config.maxAttempts.toNat + 1 < UInt32.size)
    (hstate : r.poller.state = .waiting)
    (hle : r.poller.attempts.toNat ≤ setup.config.maxAttempts.toNat)
    (h : r.Looked setup before) :
    EndsRounds setup before (r.rounds setup).1 (r.rounds setup).2 := by
  fun_induction rounds setup r with
  | case1 r r' ending hround =>
    have hends := (round_looked hmax hstate hle h).2 ending
    rw [hround] at hends
    exact hends rfl
  | case2 r r' hround ih =>
    -- a round that goes on leaves a poller that waits, within its attempts
    obtain ⟨-, hlt, hpoller⟩ := round_eq_none hround
    have hcount := Poller.toNat_attempts_add_one hlt
    have hlooked := (round_looked hmax hstate hle h).1
    rw [hround] at hlooked
    exact ih (by rw [hpoller]) (by rw [hpoller]; simp only; omega) hlooked

end Rounds

/-! ## Polling -/

section Polling

variable {setup : PollSetup} {r r' : PollRun} {ending : Ending} {outcome : PollOutcome}

/-- What a run requests before its rounds, the last one first. -/
inductive Opening : List PageCall → Prop
  | marker : Opening [.isInjected]
  | address : Opening [.url, .isInjected]

theorem endsRounds_of_no_attempt {before : List PageCall} (hcalls : r.calls = before)
    (hattempts : r.poller.attempts = 0) (hfound : ∀ injection, ending ≠ .found injection)
    (hexhausted : ending ≠ .exhausted) : EndsRounds setup before r ending where
  looked := ⟨[], by rw [hattempts]; exact .none, hcalls⟩
  exhausted h := absurd h hexhausted
  others _ := by simp [hattempts]
  found injection h := absurd h (hfound injection)

/-- Polling first asks for the marker, on whose word it leaves the page alone, then for the address,
and then for what its looks take. -/
theorem poll_ends (hmax : setup.config.maxAttempts.toNat + 1 < UInt32.size)
    (hcalls : r.calls = []) (hpoller : r.poller = {}) :
    ∃ before, Opening before ∧
      EndsRounds setup before (r.poll setup).1 (r.poll setup).2 ∧
      (r.page.isInjected = .ok true →
        (r.poll setup).1.calls = [.isInjected] ∧
          ∀ injection, (r.poll setup).2 ≠ .found injection) := by
  obtain ⟨clock, hmarker⟩ := r.call_frame .isInjected
  unfold poll
  rcases h : r.call .isInjected with ⟨asked, _ | stop⟩ <;> rw [h] at hmarker <;>
    simp only at hmarker
  · have hpage : asked.page = r.page := by rw [hmarker]
    have hasked : asked.calls = [.isInjected] := by rw [hmarker]; simp [hcalls]
    have hnone : asked.poller = {} := by rw [hmarker]; exact hpoller
    simp only
    -- a marker that is not there and one that is not told are the same from here on
    split <;> rename_i hinjected
    · exact ⟨_, .marker, endsRounds_of_no_attempt hasked (by rw [hnone]) nofun nofun,
        fun _ => ⟨hasked, nofun⟩⟩
    all_goals
      have hclear : r.page.isInjected ≠ .ok true := by
        rw [← hpage, hinjected]
        nofun
      refine ⟨[.url, .isInjected], .address, ?_, fun hmarked => absurd hmarked hclear⟩
      obtain ⟨clock', hurl⟩ := asked.call_frame .url
      unfold startRounds
      rcases h' : asked.call .url with ⟨started, _ | stop⟩ <;> rw [h'] at hurl <;>
        simp only at hurl
      · have hopening : started.calls = [.url, .isInjected] := by rw [hurl]; simp [hasked]
        have hfresh : started.poller = {} := by rw [hurl]; exact hnone
        refine rounds_looked hmax (by rw [hfresh]) (by rw [hfresh]; exact Nat.zero_le _) ?_
        exact ⟨[], by rw [hfresh]; simpa using Rule.Looks.none, hopening⟩
      · exact endsRounds_of_no_attempt (by rw [hurl]; simp [hasked]) (by rw [hurl]; simp [hnone])
          nofun nofun
  · have hasked : asked.calls = [.isInjected] := by rw [hmarker]; simp [hcalls]
    have hcount : asked.poller.attempts = 0 := by rw [hmarker]; simp [hpoller]
    exact ⟨_, .marker, endsRounds_of_no_attempt hasked hcount nofun nofun,
      fun _ => ⟨hasked, nofun⟩⟩

/-- After polling, an offer is asked for at most, and that only of what was found. -/
theorem finish_calls (h : r.finish setup ending = .ok (r', outcome)) :
    r'.calls = r.calls ∨
      r'.calls = .inject :: r.calls ∧ ∃ injection, ending = .found injection := by
  cases ending with
  | found injection =>
    obtain ⟨clock, hcall⟩ := r.call_frame .inject
    have hoffer : r.makeOffer injection = (r', outcome) := Except.ok.inj h
    obtain ⟨_, hcase⟩ | ⟨_, hcase⟩ | ⟨page, -, hcase⟩ := r.makeOffer_cases injection <;>
      rw [hoffer] at hcase <;> obtain ⟨rfl, -⟩ := Prod.mk.inj hcase
    · exact .inl rfl
    all_goals exact .inr ⟨by rw [hcall], injection, rfl⟩
  | stopped stop => cases stop <;> cases h <;> exact .inl rfl
  | failed fault => cases h
  | alreadyInjected =>
    cases h
    exact .inl rfl
  | exhausted =>
    cases h
    exact .inl rfl

theorem toNat_min_attempts (n max : UInt32) : (min n max).toNat = min n.toNat max.toNat := by
  show (if n ≤ max then n else max).toNat = _
  split <;> rename_i hle <;> rw [UInt32.le_iff_toNat_le] at hle <;> omega

/-- The attempts that an outcome tells are those of the account. -/
theorem finish_attempts {before : List PageCall} (hends : EndsRounds setup before r ending)
    (h : r.finish setup ending = .ok (r', outcome)) {n : Nat}
    (hn : outcome = .exhausted n ∨ outcome = .cancelled n) :
    n = min r.poller.attempts.toNat setup.config.maxAttempts.toNat := by
  have hcancelled (hending : ending ≠ .exhausted) :
      r.poller.attempts.toNat = min r.poller.attempts.toNat setup.config.maxAttempts.toNat :=
    (Nat.min_eq_left (hends.others hending)).symm
  cases ending with
  | found injection =>
    -- an offer that is asked for is told as made, so only a cancelling before it counts here
    have hoffer : r.makeOffer injection = (r', outcome) := Except.ok.inj h
    obtain ⟨clock, hcall⟩ := r.call_frame .inject
    have hpoller : (r.call .inject).1.poller = r.poller := by rw [hcall]
    unfold makeOffer at hoffer
    split at hoffer
    · obtain ⟨-, rfl⟩ := Prod.mk.inj hoffer
      simp only [cancelledOutcome, reduceCtorEq, false_or, PollOutcome.cancelled.injEq] at hn
      rw [← hn]
      exact hcancelled nofun
    · split at hoffer
      · rename_i asked hasked
        rw [hasked] at hpoller
        obtain ⟨-, rfl⟩ := Prod.mk.inj hoffer
        simp only [cancelledOutcome, reduceCtorEq, false_or, PollOutcome.cancelled.injEq] at hn
        rw [← hn, hpoller]
        exact hcancelled nofun
      · obtain ⟨-, rfl⟩ := Prod.mk.inj hoffer
        simp at hn
      · split at hoffer <;> obtain ⟨-, rfl⟩ := Prod.mk.inj hoffer <;> simp at hn
  | alreadyInjected =>
    cases h
    simp at hn
  | exhausted =>
    cases h
    simp only [PollOutcome.exhausted.injEq, reduceCtorEq, or_false] at hn
    rw [← hn, Nat.min_eq_right (hends.exhausted rfl)]
  | stopped stop =>
    cases stop with
    | cancelled =>
      cases h
      simp only [cancelledOutcome, reduceCtorEq, false_or, PollOutcome.cancelled.injEq] at hn
      rw [← hn]
      exact hcancelled nofun
    | deadline =>
      -- the outcome itself bounds the attempts by those allowed
      cases h
      simp only [PollOutcome.exhausted.injEq, reduceCtorEq, or_false] at hn
      rw [← hn]
      exact toNat_min_attempts _ _
  | failed fault => cases h

end Polling

end PollRun

/-! ## Runs -/

namespace PollSetup

/-- What the requests of a run, the last one first, are bound to, given its page and its outcome. -/
structure Disciplined (s : PollSetup) (page : LivePage) (calls : List PageCall)
    (outcome : PollOutcome) : Prop where
  marker_once : calls.count .isInjected ≤ 1
  address_once : calls.count .url ≤ 1
  offer_once : calls.count .inject ≤ 1
  /-- A page that says that it has an offer is left alone. -/
  marked : page.isInjected = .ok true → ∀ c ∈ calls, c = .isInjected
  regex : ∀ pattern, s.rule.extraction = .regex pattern → .evaluate ∉ calls
  xpath : ∀ expression, s.rule.extraction = .xpath expression → .title ∉ calls
  body : s.rule.contentPattern = none → .body ∉ calls
  locates_le : calls.count .locate ≤ extractionsIn calls
  extractions_le : extractionsIn calls ≤ s.rule.evaluationsIn calls
  evaluations_le : s.rule.evaluationsIn calls ≤ s.config.maxAttempts.toNat
  /-- Before the offer is asked for, its element is. -/
  offer_located : ∀ later earlier, calls = later ++ .inject :: earlier → .locate ∈ earlier
  attempts : ∀ n, outcome = .exhausted n ∨ outcome = .cancelled n →
    n = s.rule.evaluationsIn calls

variable {s : PollSetup} {page : LivePage}

section Calls

variable {looked before calls : List PageCall} {n : Nat}

/-- What a run requests before the offer. -/
theorem cases_of_mem_looked (hopening : PollRun.Opening before) (hlooks : s.rule.Looks n looked)
    {c : PageCall} (hc : c ∈ looked ++ before) :
    c = .isInjected ∨ c = .url ∨ (c = .body ∧ s.rule.contentPattern.isSome) ∨
      c = s.rule.titleCall ∨ c = .locate := by
  rcases List.mem_append.1 hc with hc | hc
  · exact .inr (.inr (hlooks.cases_of_mem hc))
  · cases hopening <;> simp at hc
    · exact .inl hc
    · exact hc.symm.imp_right .inl

/-- The opening of a run is asked for outside of looks. -/
theorem counts_of_opening (hopening : PollRun.Opening before) (hlooks : s.rule.Looks n looked) :
    (looked ++ before).count .isInjected ≤ 1 ∧ (looked ++ before).count .url ≤ 1 ∧
      (looked ++ before).count .locate = looked.count .locate ∧
      extractionsIn (looked ++ before) = extractionsIn looked ∧
      s.rule.evaluationsIn (looked ++ before) = n := by
  have hnone {c : PageCall} (hbody : c ≠ .body) (htitle : c ≠ s.rule.titleCall)
      (hlocate : c ≠ .locate) : looked.count c = 0 := by
    refine List.count_eq_zero.2 fun hc => ?_
    rcases hlooks.cases_of_mem hc with ⟨h, -⟩ | h | h
    · exact hbody h
    · exact htitle h
    · exact hlocate h
  have htitle := s.rule.titleCall_cases
  have hmarker : looked.count .isInjected = 0 :=
    hnone nofun (by rcases htitle with h | h <;> rw [h] <;> nofun) nofun
  have haddress : looked.count .url = 0 :=
    hnone nofun (by rcases htitle with h | h <;> rw [h] <;> nofun) nofun
  have hopened : extractionsIn before = 0 ∧ s.rule.evaluationsIn before = 0 := by
    cases hopening <;> simp [Rule.evaluationsIn, extractionsIn]
  simp only [extractionsIn_append, Rule.evaluationsIn_append, hopened, hlooks.evaluationsIn_eq]
  cases hopening <;> simp [hmarker, haddress, List.count_append]

theorem inject_notMem_looked (hopening : PollRun.Opening before)
    (hlooks : s.rule.Looks n looked) : .inject ∉ looked ++ before := by
  intro hc
  have htitle := s.rule.titleCall_cases
  rcases cases_of_mem_looked hopening hlooks hc with h | h | ⟨h, -⟩ | h | h
  case inr.inr.inr.inl => rcases htitle with h' | h' <;> rw [h'] at h <;> cases h
  all_goals cases h

/-- Work that is cancelled before it starts asks for nothing. -/
theorem disciplined_nil : s.Disciplined page [] (.cancelled 0) := by
  constructor <;> simp [extractionsIn, Rule.evaluationsIn]

/-- The opening and the looks of a run are as they should be. -/
theorem disciplined_of_looks {outcome : PollOutcome} (hopening : PollRun.Opening before)
    (hlooks : s.rule.Looks n looked) (hn : n ≤ s.config.maxAttempts.toNat)
    (hmarked : page.isInjected = .ok true → looked ++ before = [.isInjected])
    (hattempts : ∀ m, outcome = .exhausted m ∨ outcome = .cancelled m → m = n) :
    s.Disciplined page (looked ++ before) outcome := by
  obtain ⟨hmarkers, haddresses, hlocates, hextractions, hevaluations⟩ :=
    counts_of_opening hopening hlooks
  have hcases := fun {c} => cases_of_mem_looked hopening hlooks (c := c)
  have hinject := inject_notMem_looked hopening hlooks
  constructor
  case marker_once => exact hmarkers
  case address_once => exact haddresses
  case offer_once =>
    rw [List.count_eq_zero.2 hinject]
    exact Nat.zero_le 1
  case marked =>
    intro hinjected c hc
    rw [hmarked hinjected] at hc
    exact List.mem_singleton.1 hc
  case regex =>
    intro pattern hextraction hc
    have htitle : s.rule.titleCall = .title := by simp [Rule.titleCall, hextraction]
    simpa [htitle] using hcases hc
  case xpath =>
    intro expression hextraction hc
    have htitle : s.rule.titleCall = .evaluate := by simp [Rule.titleCall, hextraction]
    simpa [htitle] using hcases hc
  case body =>
    intro hpattern hc
    rcases s.rule.titleCall_cases with htitle | htitle <;>
      simpa [htitle, hpattern] using hcases hc
  case locates_le =>
    rw [hlocates, hextractions]
    exact hlooks.locates_le
  case extractions_le =>
    rw [hextractions, hevaluations]
    exact hlooks.extractionsIn_le
  case evaluations_le => rwa [hevaluations]
  case offer_located =>
    intro later earlier heq
    refine absurd ?_ hinject
    rw [heq]
    exact List.mem_append_right later List.mem_cons_self
  case attempts =>
    intro m hm
    rw [hevaluations]
    exact hattempts m hm

/-- The offer may be asked for behind its element, on a page that does not say that it has one. -/
theorem Disciplined.offer {outcome : PollOutcome} (h : s.Disciplined page calls outcome)
    (hmarked : page.isInjected ≠ .ok true) (hnone : .inject ∉ calls) (hlocated : .locate ∈ calls) :
    s.Disciplined page (.inject :: calls) outcome := by
  have hextractions : extractionsIn (.inject :: calls) = extractionsIn calls := by
    simp [extractionsIn]
  have hevaluations : s.rule.evaluationsIn (.inject :: calls) = s.rule.evaluationsIn calls := by
    simp [Rule.evaluationsIn, hextractions]
  constructor
  case marker_once => simpa using h.marker_once
  case address_once => simpa using h.address_once
  case offer_once => simp [List.count_eq_zero.2 hnone]
  case marked => exact fun hinjected => absurd hinjected hmarked
  case regex => exact fun pattern hextraction => by simpa using h.regex pattern hextraction
  case xpath => exact fun expression hextraction => by simpa using h.xpath expression hextraction
  case body => exact fun hpattern => by simpa using h.body hpattern
  case locates_le => simpa [hextractions] using h.locates_le
  case extractions_le => simpa [hextractions, hevaluations] using h.extractions_le
  case evaluations_le => simpa [hevaluations] using h.evaluations_le
  case offer_located =>
    intro later earlier heq
    cases later with
    | nil =>
      rw [List.nil_append] at heq
      rwa [← (List.cons.inj heq).2]
    | cons c later =>
      refine absurd ?_ hnone
      rw [(List.cons.inj heq).2]
      exact List.mem_append_right later List.mem_cons_self
  case attempts => simpa [hevaluations] using h.attempts

end Calls

/-- A run of which so many attempts can be counted breaks off only before it asks for anything. -/
theorem run_eq_error {fault : PollFault} (hmax : s.config.maxAttempts.toNat + 1 < UInt32.size)
    (h : s.run page = .error fault) :
    s.checkTicker = .error fault ∨ s.checkTicker = .ok () ∧ s.deadline = .error fault := by
  refine (cases_of_run_eq_error h).imp_right (And.imp_right fun hcases => ?_)
  obtain hdeadline | ⟨deadline, -, hfailed⟩ := hcases
  · exact hdeadline
  · exact absurd hfailed (PollRun.poll_ne_failed hmax (Nat.zero_le _))

/-- A run whose budget and attempts can be counted either breaks off before it asks the page for
anything, as its ticks are no time apart or no clock will show its deadline, or has an outcome, and
then it has asked for no more than it needs and tells how often it looked. -/
theorem run_disciplined (hbudget : ∃ budget, s.config.budget = .ok budget)
    (hmax : s.config.maxAttempts.toNat + 1 < UInt32.size) :
    match s.run page with
    | .ok (r, outcome) => s.Disciplined page r.calls outcome
    | .error fault =>
      (fault = .zeroInterval ∨ fault = .deadlineOverflow) ∧ (s.progress page).calls = [] := by
  rcases hrun : s.run page with fault | ⟨r, outcome⟩ <;> simp only
  · obtain ⟨budget, hbudget⟩ := hbudget
    unfold progress
    rcases run_eq_error hmax hrun with hticker | ⟨hticker, hdeadline⟩
    · refine ⟨.inl ?_, by rw [hticker]; rfl⟩
      unfold checkTicker at hticker
      split at hticker
      · cases hticker
      · split at hticker <;> cases hticker
        rfl
    · refine ⟨.inr ?_, by rw [hticker, hdeadline]; rfl⟩
      rw [deadline_of_budget hbudget] at hdeadline
      split at hdeadline <;> cases hdeadline
      rfl
  · obtain ⟨deadline, -, -, ⟨-, rfl, rfl⟩ | ⟨-, polled, ending, hpoll, hfinish⟩⟩ :=
      exists_of_run_eq_ok hrun
    · exact disciplined_nil
    · obtain ⟨before, hopening, hends, hmarked⟩ :=
        PollRun.poll_ends (r := s.start page deadline) hmax rfl rfl
      rw [hpoll] at hends hmarked
      obtain ⟨looked, hlooks, hcalls⟩ := hends.looked
      have hattempts := fun m => PollRun.finish_attempts hends hfinish (n := m)
      have hpolled : s.Disciplined page polled.calls outcome := by
        rw [hcalls]
        exact disciplined_of_looks hopening hlooks (Nat.min_le_right _ _)
          (fun hinjected => hcalls ▸ (hmarked hinjected).1) hattempts
      rcases PollRun.finish_calls hfinish with heq | ⟨heq, injection, rfl⟩ <;> rw [heq]
      · exact hpolled
      · refine hpolled.offer (fun hinjected => (hmarked hinjected).2 injection rfl) ?_
          (hends.found injection rfl)
        rw [hcalls]
        exact inject_notMem_looked hopening hlooks

/-- The page never tells where the heading is, so the run is broken off in the middle of its first
look, which counts. -/
theorem run_disciplined_unlocated :
    let s := heading (.interval fun _ => [])
    let page := LivePage.darkHeading.apply (.fault .locate .stall)
    (∃ budget, s.config.budget = .ok budget) ∧
      s.config.maxAttempts.toNat + 1 < UInt32.size ∧
      ∃ r, s.run page = .ok (r, .exhausted 1) ∧
        r.calls = [.locate, .evaluate, .url, .isInjected] ∧
        s.Disciplined page r.calls (.exhausted 1) := by
  have hbudget : (heading (.interval fun _ => [])).config.budget = .ok 15000 := rfl
  have hdeadline : (heading (.interval fun _ => [])).deadline = .ok 15000 := rfl
  intro s page
  obtain ⟨r, hround, hcalls, hattempts⟩ : ∃ r,
      PollRun.round s { s.start page 15000 with calls := [.url, .isInjected] } =
        (r, some (.stopped .deadline)) ∧
      r.calls = [.locate, .evaluate, .url, .isInjected] ∧ r.poller.attempts = 1 :=
    ⟨_, rfl, rfl, rfl⟩
  have hpoll : (s.start page 15000).poll s = (r, .stopped .deadline) :=
    PollRun.rounds_of_some hround
  have hrun : s.run page = .ok (r, .exhausted 1) := by
    rw [run_of_deadline rfl hdeadline, hpoll]
    simp only [PollRun.finish, hattempts]
    rfl
  have hdisciplined := @run_disciplined s page ⟨_, hbudget⟩ (by decide)
  rw [hrun] at hdisciplined
  exact ⟨⟨_, hbudget⟩, by decide, r, hrun, hcalls, hdisciplined⟩

end PollSetup

end ShowScout
