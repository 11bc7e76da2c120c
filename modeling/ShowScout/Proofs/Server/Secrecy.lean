import ShowScout.Command.Shows
import ShowScout.Proofs.Server.Ping
import ShowScout.Proofs.Server.Resolve

/-!
# Keys that do not show

The key goes into the page that a probe asks for and nowhere else. So two searches with different
keys that are answered alike cannot be told apart by what they find, by what they say went wrong, by
the bases they ask in turn or by the time they take.
-/

namespace ShowScout

open Web

variable {key other base : String} {timeout : Nat}

/-! ## Requests -/

/-- Requests for the page of a base are taken alike, whichever of two keys they hold. -/
def Servers.TakeAlike (servers : Servers) (base key other : String) : Prop :=
  ∀ page page', Url.parse (pingUrl base key).toList = .ok page →
    Url.parse (pingUrl base other).toList = .ok page' → servers page = servers page'

namespace Servers

variable {servers : Servers}

/-- Of two pages that are taken alike, the same is told, and nothing of their addresses. -/
theorem request_hidden {page page' : String} {url url' : Url}
    (hpage : Url.parse page.toList = .ok url) (hpage' : Url.parse page'.toList = .ok url')
    (halike : servers url = servers url') (timeout : Nat) :
    (servers.request timeout page).1 = (servers.request timeout page').1 ∧
      answerOfRequest (servers.request timeout page).2 =
        answerOfRequest (servers.request timeout page').2 := by
  rw [request, request, hpage, hpage']
  dsimp only
  rw [halike]
  rcases servers url' with _ | ⟨delay, answer⟩
  · exact ⟨rfl, rfl⟩
  · by_cases hintime : delay ≤ timeout
    · cases answer <;> simp [hintime, answerOfRequest, RequestFailure.withoutPage]
    · simp [hintime, answerOfRequest, RequestFailure.withoutPage]

end Servers

/-- A probe of a base gives the same for two keys if the requests are taken alike. -/
theorem Probe.overServers_hidden {servers : Servers} {kind : AddressKind} {address : String}
    (hbase : canonicalBase kind address = .ok base) (halike : servers.TakeAlike base key other) :
    overServers servers timeout base (pingUrl base key) =
      overServers servers timeout base (pingUrl base other) := by
  obtain ⟨-, url, hurl, rfl⟩ := canonicalBase_eq_ok_iff.1 hbase
  have hread := Url.isRead_of_parse hurl
  have hpage := parse_pingUrl hread key
  have hpage' := parse_pingUrl hread other
  cases hhost : Host.parse url.host.toText with
  -- no request is sent, and what is told is about the host alone
  | error e =>
    rw [hhost] at hpage hpage'
    simp only [overServers, Servers.request, hpage, hpage', Except.map]
  | ok host =>
    rw [hhost] at hpage hpage'
    obtain ⟨htime, htold⟩ := Servers.request_hidden hpage hpage' (halike _ _ hpage hpage') timeout
    simp only [overServers, htime, htold]

/-! ## Searches -/

/-- The searches find the same in the same time and ask the same bases in turn, each for the page
with its own key. -/
structure Resolution.Hides (key other : String) (r r' : Resolution) : Prop where
  resolved : r.resolved = r'.resolved
  elapsed : r.elapsed = r'.elapsed
  calls : ∃ bases : List String, r.calls = bases.map (fun base => (base, pingUrl base key)) ∧
    r'.calls = bases.map fun base => (base, pingUrl base other)

theorem Resolution.Hides.afterCall {r r' : Resolution} (h : Hides key other r r') (base : String)
    (time : Nat) :
    Hides key other (r.afterCall (base, pingUrl base key) time)
      (r'.afterCall (base, pingUrl base other) time) where
  resolved := h.resolved
  elapsed := congrArg (time + ·) h.elapsed
  calls := by
    obtain ⟨bases, hcalls, hcalls'⟩ := h.calls
    exact ⟨base :: bases, congrArg (_ :: ·) hcalls, congrArg (_ :: ·) hcalls'⟩

section Searches

variable {probe : Probe} {addresses : List ResolvedAddress}

theorem tryBases_hidden
    (h : ∀ server ∈ addresses, probe.reply key server = probe.reply other server) :
    Resolution.Hides key other (tryBases probe timeout key addresses)
      (tryBases probe timeout other addresses) := by
  induction addresses with
  | nil => exact ⟨rfl, rfl, [], rfl, rfl⟩
  | cons server rest ih =>
    obtain ⟨hserver, hrest⟩ := List.forall_mem_cons.1 h
    have hsame : probe.reaches timeout key server = probe.reaches timeout other server := by
      rw [Probe.reaches, hserver, Probe.reaches]
    -- the searches stop at the same server, so as long as one goes on, the other does too
    by_cases hreaches : probe.reaches timeout key server
    · rw [tryBases_of_reaches hreaches, tryBases_of_reaches (hsame ▸ hreaches), hserver]
      exact ⟨rfl, rfl, [server.base], rfl, rfl⟩
    · rw [tryBases_of_not_reaches hreaches, tryBases_of_not_reaches (hsame ▸ hreaches), hserver]
      exact (ih hrest).afterCall _ _

end Searches

/-- The servers at two typed addresses reply alike, whichever of two keys they are asked with. -/
def Probe.RepliesAlike (probe : Probe) (internal external key other : String) : Prop :=
  ∀ server ∈ serversAt internal external, probe.reply key server = probe.reply other server

namespace Probe

variable {probe : Probe} {internal external : String}

theorem RepliesAlike.of_base (h : ∀ base page page', probe base page = probe base page') :
    probe.RepliesAlike internal external key other :=
  fun server _ => h server.base _ _

theorem RepliesAlike.of_servers {servers : Servers}
    (h : ∀ server ∈ serversAt internal external, servers.TakeAlike server.base key other) :
    (overServers servers timeout).RepliesAlike internal external key other := by
  intro server hserver
  obtain ⟨kind, address, hbase⟩ := exists_of_mem_serversAt hserver
  exact overServers_hidden hbase (h server hserver)

theorem RepliesAlike.resolve_hidden (h : probe.RepliesAlike internal external key other) :
    Resolution.Hides key other (resolve probe timeout internal external key)
      (resolve probe timeout internal external other) := by
  rw [resolve, resolve, basesOf_candidates]
  exact tryBases_hidden h

end Probe

/-! ## Configurations -/

namespace Configuration

variable {c : Configuration} {probe : Probe}

theorem findServer_of_apiKey (h : c.apiKey ≠ "") :
    c.findServer probe timeout =
      ShowScout.resolve probe timeout c.internalAddress c.externalAddress c.apiKey := by
  rw [findServer, if_neg (by simpa using h)]

theorem server_hidden (hkey : key ≠ "") (hother : other ≠ "")
    (h : probe.RepliesAlike c.internalAddress c.externalAddress key other) :
    server { c with apiKey := key } probe timeout =
      server { c with apiKey := other } probe timeout := by
  rw [server, server, findServer_of_apiKey hkey, findServer_of_apiKey hother,
    h.resolve_hidden.resolved]

end Configuration

/-! ## Two keys -/

/-- Two keys for which the servers do the same cannot be told apart: not by what a probe of a base
gives, whatever goes wrong, and not by a search, which differs in nothing but the pages asked for.
With either key, a configuration gives the same server or the same lack of one. That servers reply
alike can be seen from how they take the requests, and it is so for every probe that looks at bases
only. -/
theorem key_hidden (key other : String) (timeout : Nat) :
    (∀ (servers : Servers) kind address base, canonicalBase kind address = .ok base →
      servers.TakeAlike base key other →
      Probe.overServers servers timeout base (pingUrl base key) =
        Probe.overServers servers timeout base (pingUrl base other)) ∧
    (∀ (probe : Probe) internal external, probe.RepliesAlike internal external key other →
      Resolution.Hides key other (resolve probe timeout internal external key)
        (resolve probe timeout internal external other)) ∧
    (∀ (c : Configuration) (probe : Probe), key ≠ "" → other ≠ "" →
      probe.RepliesAlike c.internalAddress c.externalAddress key other →
      Configuration.server { c with apiKey := key } probe timeout =
        Configuration.server { c with apiKey := other } probe timeout) ∧
    (∀ (servers : Servers) internal external,
      (∀ server ∈ serversAt internal external, servers.TakeAlike server.base key other) →
      (Probe.overServers servers timeout).RepliesAlike internal external key other) ∧
    ∀ (probe : Probe) internal external, (∀ base page page', probe base page = probe base page') →
      probe.RepliesAlike internal external key other :=
  ⟨fun _ _ _ _ => Probe.overServers_hidden, fun _ _ _ h => h.resolve_hidden,
    fun _ _ hkey hother h => Configuration.server_hidden hkey hother h,
    fun _ _ _ => Probe.RepliesAlike.of_servers, fun _ _ _ => Probe.RepliesAlike.of_base⟩

/-- A server at which connections are refused. -/
def Servers.refusing : Servers := fun _ => .after 20 (.unreachable "Connection refused")

/-- What is told of a server that refuses connections is the same with either key. -/
theorem key_hidden_refusing :
    ∃ error : LinkError,
      error.message =
        "Request to http://10.0.0.5:8081 failed: error sending request: Connection refused" ∧
      ∀ key ∈ ["abc123", "k3y"], Probe.overServers .refusing 3000 "http://10.0.0.5:8081"
        (pingUrl "http://10.0.0.5:8081" key) = .after 20 (.error error) := by
  have hbase : canonicalBase .internal "10.0.0.5:8081/" = .ok "http://10.0.0.5:8081" := rfl
  have hsame : Probe.overServers .refusing 3000 "http://10.0.0.5:8081"
        (pingUrl "http://10.0.0.5:8081" "abc123") =
      Probe.overServers .refusing 3000 "http://10.0.0.5:8081"
        (pingUrl "http://10.0.0.5:8081" "k3y") :=
    (key_hidden "abc123" "k3y" 3000).1 .refusing _ _ _ hbase fun _ _ _ _ => rfl
  have hfirst : Probe.overServers .refusing 3000 "http://10.0.0.5:8081"
      (pingUrl "http://10.0.0.5:8081" "abc123") = .after 20 (.error (.transport
        "http://10.0.0.5:8081" "error sending request: Connection refused")) := rfl
  refine ⟨_, ?_, List.forall_mem_cons.2 ⟨hfirst, List.forall_mem_singleton.2 ?_⟩⟩
  · rfl
  · exact hsame.symm.trans hfirst

end ShowScout
