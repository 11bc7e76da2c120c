/-!
# Durations in messages

How a message shows a span of time: in the largest unit that it fills, with as many decimals as it
needs.
-/

namespace ShowScout.Text

/-- The decimals of a fraction of `10 ^ places`, without zeros at the end. -/
def decimals (places fraction : Nat) : List Char :=
  let digits := Nat.toDigits 10 fraction
  let padded := List.replicate (places - digits.length) '0' ++ digits
  match (padded.reverse.dropWhile (· == '0')).reverse with
  | [] => []
  | digits => '.' :: digits

/-- A number of units of `10 ^ places` parts each, and the name of the unit. -/
def inUnits (parts places : Nat) (unit : String) : List Char :=
  Nat.toDigits 10 (parts / Nat.pow 10 places) ++ decimals places (parts % Nat.pow 10 places) ++
    unit.toList

/-- A duration, given in nanoseconds. -/
def duration (nanoseconds : Nat) : String :=
  .ofList <|
    if nanoseconds ≥ 1000000000 then inUnits nanoseconds 9 "s"
    else if nanoseconds ≥ 1000000 then inUnits nanoseconds 6 "ms"
    else if nanoseconds ≥ 1000 then inUnits nanoseconds 3 "µs"
    else inUnits nanoseconds 0 "ns"

end ShowScout.Text
