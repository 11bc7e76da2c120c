import ShowScout.Decimal.Binary64

/-!
# JSON values

Documents as trees. Integers that fit 64 bits are exact, all other numbers are binary floating
point. The members of an object are kept in a list; in the objects of free form they are sorted by
key.
-/

namespace ShowScout.Json

inductive Number where
  /-- An integer from zero on, below `2 ^ 64`. -/
  | natural (n : Nat)
  /-- The integer `-n`, for a positive `n` up to `2 ^ 63`. -/
  | negative (n : Nat)
  | float (x : Binary64)
deriving DecidableEq, Repr

inductive Value where
  | null
  | bool (b : Bool)
  | number (n : Number)
  | text (s : String)
  | list (items : List Value)
  | object (members : List (String × Value))
deriving Repr, Inhabited

/-! ## Sorted members -/

/-- The members of an object of free form, sorted by key, each key once. -/
abbrev Members := List (String × Value)

/-- Sets a member of a sorted list; an earlier value of the key is replaced. -/
def Members.insert (key : String) (value : Value) : Members → Members
  | [] => [(key, value)]
  | (k, v) :: rest =>
    if key < k then (key, value) :: (k, v) :: rest
    else if key = k then (key, value) :: rest
    else (k, v) :: Members.insert key value rest

end ShowScout.Json
