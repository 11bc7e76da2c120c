import ShowScout.Page.Live

/-!
# Tickers

What makes a poller look at a page again. Something may happen to the page at each tick.
-/

namespace ShowScout

/-- What happens at a tick. -/
inductive HookAction where
  | change (change : PageChange)
  /-- The work is cancelled. -/
  | cancel
deriving DecidableEq, Repr

/-- What happens at each tick, which are counted from one. -/
abbrev Hooks := Nat → List HookAction

inductive Ticker where
  /-- Ticks at once, letting others run in between. -/
  | instant (hooks : Hooks)
  /-- Ticks after each interval, the first time at once. -/
  | interval (hooks : Hooks)

namespace Ticker

/-- Ticks at once, and nothing happens. -/
def plain : Ticker := .instant fun _ => []

def hooks : Ticker → Hooks
  | instant hooks | interval hooks => hooks

/-- How late a tick may be without the later ones being put off. -/
def tolerance : Nat := 5

/-- When the next tick is due after one that was due and came at the given times. -/
def nextDue (interval due now : Nat) : Nat :=
  if due + tolerance < now then now + interval else due + interval

end Ticker

end ShowScout
