import Mathlib.Algebra.GroupWithZero.Nat
import ShowScout.Server.Resolver

/-!
# What a search for the server finds

A search takes the first address that answers in time. It asks the addresses up to that one, each
once, and takes as long as their answers do, within the limit that each of them has.
-/

namespace ShowScout

/-! ## Replies -/

namespace ProbeReply

/-- A reply that shows in time that a server is there. -/
def isSuccess (timeout : Nat) : ProbeReply → Bool
  | .after delay (.ok _) => delay ≤ timeout
  | .after _ (.error _) | .never => false

/-- How long a reply is waited for. -/
def duration (timeout : Nat) : ProbeReply → Nat
  | .after delay _ => min delay timeout
  | .never => timeout

variable {base : String} {timeout : Nat} {reply : ProbeReply}

theorem duration_le (timeout : Nat) (reply : ProbeReply) : reply.duration timeout ≤ timeout := by
  cases reply with
  | never => exact Nat.le_refl _
  | after delay outcome => exact Nat.min_le_right _ _

/-- A reply at the limit is in time. -/
theorem within_of_isSuccess (h : reply.isSuccess timeout) :
    reply.within base timeout = (.ok (), reply.duration timeout) := by
  rcases reply with _ | ⟨delay, error | _⟩
  case after.ok =>
    have hintime : delay ≤ timeout := by simpa [isSuccess] using h
    rw [duration, Nat.min_eq_left hintime]
    exact if_pos hintime
  all_goals simp [isSuccess] at h

theorem within_of_not_isSuccess (h : ¬ reply.isSuccess timeout) :
    ∃ error, reply.within base timeout = (.error error, reply.duration timeout) := by
  rcases reply with _ | ⟨delay, outcome⟩
  case never => exact ⟨_, rfl⟩
  -- an error that comes in time is passed on, and a reply that comes late counts as none
  by_cases hintime : delay ≤ timeout
  · rw [duration, Nat.min_eq_left hintime]
    cases outcome with
    | error error => exact ⟨error, if_pos hintime⟩
    | ok _ => simp [isSuccess, hintime] at h
  · rw [duration, Nat.min_eq_right (Nat.le_of_not_le hintime)]
    exact ⟨_, if_neg hintime⟩

end ProbeReply

/-! ## Bases that are tried -/

namespace Probe

variable (probe : Probe) (timeout : Nat) (key : String)

/-- What a probe of a server gives. -/
def reply (address : ResolvedAddress) : ProbeReply :=
  probe address.base (pingUrl address.base key)

/-- The server answers in time. -/
def reaches (address : ResolvedAddress) : Bool :=
  (probe.reply key address).isSuccess timeout

/-- The servers that are asked: those up to the first that answers in time, or all. -/
def asked (addresses : List ResolvedAddress) : List ResolvedAddress :=
  addresses.take (addresses.findIdx (probe.reaches timeout key) + 1)

end Probe

section Tried

variable {probe : Probe} {timeout : Nat} {key : String} {address : ResolvedAddress}
  {addresses : List ResolvedAddress}

theorem Probe.asked_of_reaches (h : probe.reaches timeout key address) :
    probe.asked timeout key (address :: addresses) = [address] := by
  simp [asked, List.findIdx_cons, h]

theorem Probe.asked_of_not_reaches (h : ¬ probe.reaches timeout key address) :
    probe.asked timeout key (address :: addresses) =
      address :: probe.asked timeout key addresses := by
  simp [asked, List.findIdx_cons, h]

theorem tryBases_of_reaches (h : probe.reaches timeout key address) :
    tryBases probe timeout key (address :: addresses) =
      { resolved := some address
        calls := [(address.base, pingUrl address.base key)]
        elapsed := (probe.reply key address).duration timeout } := by
  have hwithin : (probe address.base (pingUrl address.base key)).within address.base timeout =
      (.ok (), (probe.reply key address).duration timeout) := ProbeReply.within_of_isSuccess h
  unfold tryBases
  simp [hwithin, Resolution.afterCall]

theorem tryBases_of_not_reaches (h : ¬ probe.reaches timeout key address) :
    tryBases probe timeout key (address :: addresses) =
      (tryBases probe timeout key addresses).afterCall (address.base, pingUrl address.base key)
        ((probe.reply key address).duration timeout) := by
  obtain ⟨error, hwithin⟩ : ∃ error,
      (probe address.base (pingUrl address.base key)).within address.base timeout =
        (.error error, (probe.reply key address).duration timeout) :=
    ProbeReply.within_of_not_isSuccess h
  rw [tryBases]
  simp [hwithin]

/-- What comes of trying servers, and at what cost. -/
theorem tryBases_eq (addresses : List ResolvedAddress) :
    tryBases probe timeout key addresses =
      { resolved := addresses.find? (probe.reaches timeout key)
        calls := (probe.asked timeout key addresses).map fun a => (a.base, pingUrl a.base key)
        elapsed := ((probe.asked timeout key addresses).map fun a =>
          (probe.reply key a).duration timeout).sum } := by
  induction addresses with
  | nil => rfl
  | cons address rest ih =>
    by_cases h : probe.reaches timeout key address
    · simp [tryBases_of_reaches h, Probe.asked_of_reaches h, h]
    · simp [tryBases_of_not_reaches h, Probe.asked_of_not_reaches h, h, Resolution.afterCall, ih]

theorem tryBases_elapsed_le (addresses : List ResolvedAddress) :
    (tryBases probe timeout key addresses).elapsed ≤ addresses.length * timeout := by
  induction addresses with
  | nil => exact Nat.zero_le _
  | cons address rest ih =>
    have hreply := (probe.reply key address).duration_le timeout
    rw [List.length_cons, Nat.succ_mul]
    by_cases h : probe.reaches timeout key address
    · simp only [tryBases_of_reaches h]
      omega
    · simp only [tryBases_of_not_reaches h, Resolution.afterCall]
      omega

end Tried

/-! ## Searches -/

/-- The server at a typed address, unless the address is blank or has no reading. -/
def serverAt? (kind : AddressKind) (address : String) : Option ResolvedAddress :=
  if Text.isAllBlank address then none
  else
    match canonicalBase kind address with
    | .ok base => some { base, kind }
    | .error _ => none

/-- The servers that a search may ask, in order. -/
def serversAt (internal external : String) : List ResolvedAddress :=
  (serverAt? .internal internal).toList ++ (serverAt? .external external).toList

theorem basesOf_filter_singleton (kind : AddressKind) (address : String) :
    basesOf ([(kind, address)].filter fun (_, address) => !Text.isAllBlank address) =
      (serverAt? kind address).toList := by
  unfold serverAt?
  by_cases hblank : Text.isAllBlank address
  · simp [basesOf, hblank]
  · rcases hbase : canonicalBase kind address with error | base <;>
      simp [basesOf, hblank, hbase, Except.map, Except.toOption]

theorem basesOf_candidates (internal external : String) :
    basesOf (candidates internal external) = serversAt internal external := by
  have hcandidates : candidates internal external =
      [(.internal, internal)].filter (fun (_, address) => !Text.isAllBlank address) ++
        [(.external, external)].filter (fun (_, address) => !Text.isAllBlank address) :=
    List.filter_append [_] [_]
  rw [hcandidates, basesOf, List.filterMap_append, serversAt, ← basesOf_filter_singleton,
    ← basesOf_filter_singleton]
  rfl

theorem length_serversAt_le (internal external : String) :
    (serversAt internal external).length ≤ 2 := by
  have hone (a : Option ResolvedAddress) : a.toList.length ≤ 1 := by
    cases a <;> simp
  rw [serversAt, List.length_append]
  exact Nat.add_le_add (hone _) (hone _)

theorem canonicalBase_of_serverAt? {kind : AddressKind} {address : String}
    {server : ResolvedAddress} (h : serverAt? kind address = some server) :
    canonicalBase kind address = .ok server.base := by
  unfold serverAt? at h
  split at h
  · cases h
  · split at h
    · rename_i base hbase
      cases h
      exact hbase
    · cases h

theorem exists_of_mem_serversAt {internal external : String} {server : ResolvedAddress}
    (h : server ∈ serversAt internal external) :
    ∃ kind address, canonicalBase kind address = .ok server.base := by
  obtain h | h := List.mem_append.1 h
  · exact ⟨_, _, canonicalBase_of_serverAt? (Option.mem_toList.1 h)⟩
  · exact ⟨_, _, canonicalBase_of_serverAt? (Option.mem_toList.1 h)⟩

/-- A search finds the first server that answers in time, the internal one if both do. It asks each
server up to that one once, for the page that shows it is there, and takes as long as the answers
that it waits for. Two limits are time enough for it. -/
theorem resolve_finds_first (probe : Probe) (timeout : Nat) (internal external key : String) :
    (resolve probe timeout internal external key).resolved =
      (serversAt internal external).find? (probe.reaches timeout key) ∧
    (resolve probe timeout internal external key).calls =
      (probe.asked timeout key (serversAt internal external)).map
        (fun server => (server.base, server.base ++ "/api/" ++ key ++ "/?cmd=ping")) ∧
    (resolve probe timeout internal external key).elapsed =
      ((probe.asked timeout key (serversAt internal external)).map
        fun server => (probe.reply key server).duration timeout).sum ∧
    (resolve probe timeout internal external key).elapsed ≤ 2 * timeout := by
  have heq : resolve probe timeout internal external key =
      tryBases probe timeout key (serversAt internal external) := by
    rw [resolve, basesOf_candidates]
  have hle : (tryBases probe timeout key (serversAt internal external)).elapsed ≤ 2 * timeout :=
    calc (tryBases probe timeout key (serversAt internal external)).elapsed
        ≤ (serversAt internal external).length * timeout := tryBases_elapsed_le _
      _ ≤ 2 * timeout := Nat.mul_le_mul_right _ (length_serversAt_le _ _)
  rw [heq]
  refine ⟨?_, ?_, ?_, hle⟩
  · rw [tryBases_eq]
  · rw [tryBases_eq]
    simp only [pingUrl]
  · rw [tryBases_eq]

end ShowScout
