/-!
# Waiting

Time passes only while everything waits. A wait ends early when the work is cancelled or its time is
up: cancelling is noticed first, then what is waited for, then the deadline, so that work that is
done at the very deadline counts. All times are in milliseconds since the start.
-/

namespace ShowScout

/-- Why work is broken off. -/
inductive Stop where
  | cancelled
  | deadline
deriving DecidableEq, Repr

structure Clock where
  now : Nat := 0
  deadline : Nat
  /-- Whether the work was cancelled, which is noticed at the next wait. -/
  isCancelled : Bool := false
  /-- When the work will be cancelled from outside. -/
  cancelAt : Option Nat := none
deriving DecidableEq, Repr

namespace Clock

/-- When a wait ends by itself: at the time waited for or at the deadline. -/
def waitEnd (c : Clock) (wake : Option Nat) : Nat :=
  match wake with
  | some t => min t c.deadline
  | none => c.deadline

/-- The time of a cancelling from outside before a wait ends by itself. -/
def cancelTime? (c : Clock) (wake : Option Nat) : Option Nat :=
  c.cancelAt.filter (· < c.waitEnd wake)

/-- Whether what is waited for happens before time is up. -/
def isInTime (c : Clock) : Option Nat → Bool
  | some t => t ≤ c.deadline
  | none => false

/-- Waits until `wake`, or for something that never happens, and says why the wait ended early. -/
def wait (c : Clock) (wake : Option Nat) : Clock × Option Stop :=
  if c.deadline ≤ c.now then (c, some .deadline)
  else if c.isCancelled then (c, some .cancelled)
  else
    match c.cancelTime? wake with
    | some t => ({ c with now := max c.now t, isCancelled := true }, some .cancelled)
    | none =>
      ({ c with now := max c.now (c.waitEnd wake) },
        if c.isInTime wake then none else some .deadline)

end Clock

end ShowScout
