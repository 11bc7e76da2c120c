import ShowScout.Page.Title
import ShowScout.Poll.Config

/-!
# Looking at a page until it is ready

A page is ready when one look at it finds the content, a title and the element for the offer
together. A poller counts the looks and gives up after the last one.
-/

namespace ShowScout

inductive PollState where
  | waiting
  | found
  | exhausted
  | cancelled
deriving DecidableEq, Repr

/-- What one tick finds. -/
inductive TickOutcome where
  /-- The content that the rule waits for is not there. -/
  | contentPending
  /-- The title or the element for the offer is not there. -/
  | notReady
  | found (injection : Injection)
  /-- The attempts are used up. -/
  | exhausted
  /-- The poller was no longer waiting. -/
  | finished
deriving DecidableEq, Repr

namespace Rule

/-- What a look at a page finds once the content is there. -/
def lookForTitle (r : Rule) (p : LivePage) : TickOutcome :=
  match r.title? p, r.target? p with
  | some title, some target => .found { title, target }
  | _, _ => .notReady

/-- What a look at a page finds. -/
def look (r : Rule) (p : LivePage) : TickOutcome :=
  if r.hasContent p then r.lookForTitle p else .contentPending

/-- The requests of a look, in order. Those after one that never answers are not reached. -/
def lookCalls (r : Rule) (p : LivePage) : List PageCall :=
  (if r.contentPattern.isSome then [.body] else []) ++
    (if r.hasContent p then [r.titleCall, .locate] else [])

end Rule

structure Poller where
  /-- The number of attempts started. -/
  attempts : UInt32 := 0
  state : PollState := .waiting
deriving DecidableEq, Repr

namespace Poller

/-- The state after a look. -/
def afterLook (state : PollState) : TickOutcome → PollState
  | .found _ => .found
  | _ => state

/-- One tick: the poller after it, the requests made to the page, and what was found. -/
def tick (config : PollConfig) (rule : Rule) (page : LivePage) (p : Poller) :
    Except PollFault (Poller × List PageCall × TickOutcome) :=
  if p.state ≠ .waiting then .ok (p, [], .finished)
  else if p.attempts.toNat + 1 = UInt32.size then .error .attemptOverflow
  else
    let attempts := p.attempts + 1
    if attempts > config.maxAttempts then .ok ({ attempts, state := .exhausted }, [], .exhausted)
    else
      let outcome := rule.look page
      .ok ({ attempts, state := afterLook p.state outcome }, rule.lookCalls page, outcome)

section Tick

variable {config : PollConfig} {rule : Rule} {page : LivePage} {p : Poller}

theorem toNat_attempts_add_one {n max : UInt32} (h : n.toNat < max.toNat) :
    (n + 1).toNat = n.toNat + 1 := by
  have := max.toNat_lt
  rw [UInt32.toNat_add, UInt32.toNat_one]
  omega

/-- A poller that waits for nothing does nothing. -/
theorem tick_of_ne_waiting (hstate : p.state ≠ .waiting) :
    p.tick config rule page = .ok (p, [], .finished) := by
  simp [tick, hstate]

/-- While there are attempts left, a tick is a look at the page. -/
theorem tick_of_lt (hstate : p.state = .waiting)
    (hlt : p.attempts.toNat < config.maxAttempts.toNat) :
    p.tick config rule page =
      .ok ({ attempts := p.attempts + 1, state := afterLook .waiting (rule.look page) },
        rule.lookCalls page, rule.look page) := by
  have hsize := config.maxAttempts.toNat_lt
  have hover : p.attempts.toNat + 1 ≠ UInt32.size := by
    simp only [UInt32.size]
    omega
  have hgt : ¬ p.attempts + 1 > config.maxAttempts := by
    simp only [gt_iff_lt, UInt32.lt_iff_toNat_lt, toNat_attempts_add_one hlt]
    omega
  simp [tick, hstate, hover, hgt]

/-- The tick after the last attempt gives up, without a look at the page. -/
theorem tick_of_le (hstate : p.state = .waiting)
    (hle : config.maxAttempts.toNat ≤ p.attempts.toNat)
    (hsize : p.attempts.toNat + 1 < UInt32.size) :
    p.tick config rule page =
      .ok ({ attempts := p.attempts + 1, state := .exhausted }, [], .exhausted) := by
  have hgt : p.attempts + 1 > config.maxAttempts := by
    simp only [UInt32.size] at hsize
    simp only [gt_iff_lt, UInt32.lt_iff_toNat_lt, UInt32.toNat_add, UInt32.toNat_one]
    omega
  simp [tick, hstate, Nat.ne_of_lt hsize, hgt]

/-- The counter cannot go beyond 32 bits. -/
theorem tick_of_size (hstate : p.state = .waiting) (hsize : p.attempts.toNat + 1 = UInt32.size) :
    p.tick config rule page = .error .attemptOverflow := by
  simp [tick, hstate, hsize]

end Tick

end Poller

end ShowScout
