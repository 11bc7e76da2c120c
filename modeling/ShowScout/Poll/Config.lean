/-!
# Limits of polling

How often and how long a page is looked at before it is given up.
-/

namespace ShowScout

structure PollConfig where
  maxAttempts : UInt32 := 60
  /-- The milliseconds between two looks at the page. -/
  interval : Nat := 250
deriving DecidableEq, Repr

/-- What is wrong with limits, so that polling breaks off. -/
inductive PollFault where
  /-- Ticks that are no time apart. -/
  | zeroInterval
  /-- A budget of too many seconds to be counted. -/
  | budgetOverflow
  /-- A deadline that no clock will show. -/
  | deadlineOverflow
  /-- More attempts than can be counted. -/
  | attemptOverflow
deriving DecidableEq, Repr

def PollFault.message : PollFault → String
  | .zeroInterval => "`period` must be non-zero."
  | .budgetOverflow => "overflow when multiplying duration by scalar"
  | .deadlineOverflow => "overflow when adding duration to instant"
  | .attemptOverflow => "attempt to add with overflow"

namespace PollConfig

/-- The time that all attempts take together, in milliseconds. -/
def milliseconds (c : PollConfig) : Nat :=
  c.interval * c.maxAttempts.toNat

/-- The bound on the time spent on a page, in milliseconds. Its seconds are counted in 64 bits. -/
def budget (c : PollConfig) : Except PollFault Nat :=
  if c.milliseconds / 1000 < Nat.pow 2 64 then .ok c.milliseconds else .error .budgetOverflow

/--
The end of polling, counted from its start, at which a clock shows the given milliseconds. The clock
has to show the end as well, and it counts fewer seconds than a budget may have.
-/
def deadline (c : PollConfig) (startedAt : Nat) : Except PollFault Nat := do
  let budget ← c.budget
  if (startedAt + budget) / 1000 < Nat.pow 2 63 then return budget else .error .deadlineOverflow

end PollConfig

end ShowScout
