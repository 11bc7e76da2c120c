import ShowScout.Server.Probe

/-!
# Finding the server

The addresses are tried one after another, the internal one first, each for a limited time. The
first that answers is taken.
-/

namespace ShowScout

/-- The time that a probe is given if nothing else is said, in milliseconds. -/
def defaultProbeTimeout : Nat := 3000

/-- What one probe gives within a time limit, and how long it takes. A reply at the limit counts. -/
def ProbeReply.within (base : String) (timeout : Nat) :
    ProbeReply → Except LinkError Unit × Nat
  | .never => (.error (.timeout base (timeout * 1000000)), timeout)
  | .after delay outcome =>
    if delay ≤ timeout then (outcome, delay)
    else (.error (.timeout base (timeout * 1000000)), timeout)

/-- What came of a search: the server, the bases and pages asked for, and the time it took. -/
structure Resolution where
  resolved : Option ResolvedAddress := none
  calls : List (String × String) := []
  elapsed : Nat := 0

namespace Resolution

/-- The search after one more call, made before all others. -/
def afterCall (call : String × String) (time : Nat) (r : Resolution) : Resolution :=
  { r with calls := call :: r.calls, elapsed := time + r.elapsed }

end Resolution

/-- Tries bases in their order. -/
def tryBases (probe : Probe) (timeout : Nat) (key : String) :
    List ResolvedAddress → Resolution
  | [] => {}
  | address :: rest =>
    let page := pingUrl address.base key
    let (outcome, time) := (probe address.base page).within address.base timeout
    match outcome with
    | .ok _ => Resolution.afterCall (address.base, page) time { resolved := some address }
    | .error _ =>
      (tryBases probe timeout key rest).afterCall (address.base, page) time

/-- The bases of typed addresses; an address without a reading is left out. -/
def basesOf (typed : List (AddressKind × String)) : List ResolvedAddress :=
  typed.filterMap fun (kind, address) =>
    ((canonicalBase kind address).map fun base => { base, kind }).toOption

/-- Looks for the server at its typed addresses. -/
def resolve (probe : Probe) (timeout : Nat) (internal external key : String) : Resolution :=
  tryBases probe timeout key (basesOf (candidates internal external))

end ShowScout
