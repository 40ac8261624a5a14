import DarwinNet.Lib.Inquiry
import DarwinNet.Dns.Expand

/-!
`LookupHost` of the Go resolver (`resolver.go`), over a network whose servers need not answer
the same twice. The walk is that of `Lib.Inquiry`: cluster candidates are its closed ones.
Whatever comes of the queries, the lookup fails closed and asks a bounded number of them
(`lookup_fails_closed`).
-/

namespace DarwinNet.Dns

open Lib Lib.Inquiry

inductive Exchange
  | transport
  | unusable
  | answer (rcode : Nat) (addrs : List (BitVec 32))
  deriving DecidableEq

/-- What a lookup meets outside the program: whether `dnsmessage` can pack a name, and what
comes of each query, by its number, the server's index and the name. -/
structure Network where
  packs : Text → Bool
  exchange : Nat → Nat → Text → Exchange

def queryAttempts : Nat := 2

def ensureFQDN (name : Text) : Text :=
  if name = [] || name.getLast? = some '.' then name else name ++ ['.']

/-- `Resolver`; a server is its address and port. -/
structure Resolver where
  cfg : DNSConfig
  servers : List (Text × Text)
  exclusive : Bool

def underDomain (name d : Text) : Bool := name = d || ('.' :: d).isSuffixOf name

def Resolver.isClusterCandidate (r : Resolver) (fqdn : Text) : Bool :=
  if r.exclusive then true
  else
    let name := stripDot fqdn
    if !name.contains '.' then true
    else (r.cfg.clusterDomain :: r.cfg.searchDomains).any fun d =>
      stripDot d ≠ [] && underDomain name (stripDot d)

inductive LookupResult
  | addrs (l : List (BitVec 32))
  | notFound
  | tempFail
  | emptyName
  deriving DecidableEq

/-- `askServer` of the server with index `i`, as query number `t`. -/
def askServerAt (net : Network) (fqdn : Text) (t i : Nat) :
    Except Failure (List (BitVec 32)) :=
  if !net.packs (ensureFQDN fqdn) then .ok []
  else match net.exchange t i fqdn with
    | .transport => .error .unreachable
    | .unusable => .error .unusable
    | .answer rcode addrs => if rcode = 0 || rcode = 3 then .ok addrs else .error .unusable

namespace Resolver

variable (api : NetV1) (r : Resolver)

def policy : Policy Text (List (BitVec 32)) :=
  ⟨fun _ => false, fun _ => false, r.isClusterCandidate, fun addrs => addrs ≠ []⟩

def alive : List (Nat × Bool) := (List.range r.servers.length).map (·, false)

/-- The candidate loop of `LookupHost`. -/
def walkAt (net : Network) (cands : List Text) :
    Walked Text Nat (List (BitVec 32)) :=
  walk r.policy (askServerAt net) queryAttempts false 0 r.alive cands

def resultOf : Stop (List (BitVec 32)) → LookupResult
  | .found addrs => .addrs addrs
  | .deferred | .opened => .notFound
  | .through temp => if temp then .tempFail else .notFound

/-- `LookupHost`: the candidates it asked for, as `onCandidate` sees them, and its result. -/
def lookup (net : Network) (name : Text) :
    List (Visit Text Nat (List (BitVec 32))) × LookupResult :=
  let cands := candidateNames api r.cfg name
  if cands = [] then ([], .emptyName)
  else ((r.walkAt net cands).visits, resultOf (r.walkAt net cands).stop)

variable {r}

lemma isClusterCandidate_of_exclusive (h : r.exclusive = true) (fqdn : Text) :
    r.isClusterCandidate fqdn = true := by
  rw [isClusterCandidate, if_pos h]

lemma map_fst_alive (r : Resolver) : r.alive.map Prod.fst = List.range r.servers.length := by
  rw [alive, List.map_map]
  exact List.map_id _

lemma nodup_alive (r : Resolver) : (r.alive.map Prod.fst).Nodup := by
  rw [map_fst_alive]
  exact List.nodup_range

lemma lookup_of_ne {net : Network} {name : Text} (hne : candidateNames api r.cfg name ≠ []) :
    r.lookup api net name = ((r.walkAt net (candidateNames api r.cfg name)).visits,
      resultOf (r.walkAt net (candidateNames api r.cfg name)).stop) :=
  if_neg hne

@[simp]
lemma resultOf_eq_addrs {stop : Stop (List (BitVec 32))} {addrs : List (BitVec 32)} :
    resultOf stop = .addrs addrs ↔ stop = .found addrs := by
  cases stop with
  | found l => simp [resultOf]
  | deferred | opened => simp [resultOf]
  | through temp => cases temp <;> simp [resultOf]

@[simp]
lemma resultOf_eq_notFound {stop : Stop (List (BitVec 32))} :
    resultOf stop = .notFound ↔ stop = .deferred ∨ stop = .opened ∨ stop = .through false := by
  cases stop with
  | found l => simp [resultOf]
  | deferred | opened => simp [resultOf]
  | through temp => cases temp <;> simp [resultOf]

/-- Whatever comes of the queries: addresses are those of the last candidate asked for, and if
that is a cluster name no cluster name before it went unanswered; not found means a definitive
miss of every candidate, or an external name that went unanswered outside exclusive mode; of
several servers none is lost twice and none asked more than `queryAttempts` times for a name; and
the exchanges recorded are those of the network in order. -/
theorem lookup_fails_closed (api : NetV1) (r : Resolver) (net : Network) (name : Text) :
    (∀ addrs, (r.lookup api net name).2 = .addrs addrs →
      ∃ before v, (r.lookup api net name).1 = before ++ [v] ∧ answerOf v.asks = some addrs ∧
        v.cand ∈ candidateNames api r.cfg name ∧ (r.isClusterCandidate v.cand = true →
          ∀ u ∈ before, r.isClusterCandidate u.cand = true → answerOf u.asks ≠ none)) ∧
    ((r.lookup api net name).2 = .notFound → (∀ cand ∈ candidateNames api r.cfg name,
        ∃ v ∈ (r.lookup api net name).1, v.cand = cand ∧ answerOf v.asks = some []) ∨
      r.exclusive = false ∧ ∃ v ∈ (r.lookup api net name).1,
        r.isClusterCandidate v.cand = false ∧ answerOf v.asks = none) ∧
    (2 ≤ r.servers.length → ∀ i,
      ((r.lookup api net name).1.flatMap (·.asks)).countP (lostAt i) ≤ 1 ∧
      ∀ v ∈ (r.lookup api net name).1, (v.asks.map Prod.fst).count i ≤ queryAttempts) ∧
    (∀ k cand i reply, (exchanges (r.lookup api net name).1)[k]? = some ((cand, i), reply) →
      i < r.servers.length ∧ reply = askServerAt net cand k i) := by
  by_cases hne : candidateNames api r.cfg name = []
  · have hempty : r.lookup api net name = ([], .emptyName) := if_pos hne
    rw [hempty]
    refine ⟨fun addrs h => ?_, fun h => ?_, fun _ i => ⟨Nat.zero_le 1, fun v hv => ?_⟩,
      fun k cand i reply h => ?_⟩
    · cases h
    · cases h
    · cases hv
    · cases h
  rw [lookup_of_ne api hne]
  have hwalks := walks_walk r.policy (askServerAt net) queryAttempts false 0 r.alive
    (candidateNames api r.cfg name)
  change Walks _ _ _ _ _ _ _ (r.walkAt net _) at hwalks
  have hanswer : ∀ v ∈ (r.walkAt net (candidateNames api r.cfg name)).visits,
      v.answer = answerOf v.asks := by
    intro v hv
    obtain ⟨-, -, -, -, -, -, hans⟩ := hwalks.visit hv
    exact hans
  refine ⟨fun addrs h => ?_, fun h => ?_, fun hseveral i => ⟨?_, fun v hv => ?_⟩,
    fun k cand i reply hk => ?_⟩
  · obtain ⟨before, v, hvis, hans, -, hclosed⟩ := hwalks.found_last (resultOf_eq_addrs.mp h)
    have hv : v ∈ (r.walkAt net (candidateNames api r.cfg name)).visits := by simp [hvis]
    refine ⟨before, v, hvis, hanswer v hv ▸ hans, (hwalks.visit hv).1, fun hc u hu => ?_⟩
    rw [← hanswer u (by simp [hvis, hu])]
    exact (hclosed hc).2 u hu
  · rcases resultOf_eq_notFound.mp h with hstop | hstop | hstop
    · -- the resolver defers no candidate
      obtain ⟨c, hdefer⟩ := hwalks.deferred_cand hstop
      cases hdefer
    · obtain ⟨v, hv, hopen, hnone⟩ := hwalks.opened_failed hstop
      refine .inr ⟨?_, v, hv, hopen, hanswer v hv ▸ hnone⟩
      rw [← Bool.not_eq_true]
      intro hexclusive
      cases (isClusterCandidate_of_exclusive hexclusive v.cand).symm.trans hopen
    · refine .inl fun cand hcand => ?_
      rcases (hwalks.missed hstop).2 cand hcand with hskip | ⟨v, hv, hvc, addrs, hans, hmiss⟩
      · cases hskip
      · have hnil : addrs = [] := by simpa [policy] using hmiss
        exact ⟨v, hv, hvc, hanswer v hv ▸ hnil ▸ hans⟩
  · have hlen : r.alive.length ≠ 1 := by
      rw [alive, List.length_map, List.length_range]
      omega
    have hone := List.nodup_iff_count_le_one.mp r.nodup_alive i
    exact (Nat.le_add_right _ _).trans ((hwalks.lost hlen i).trans hone)
  · exact hwalks.asked r.nodup_alive hv i
  · obtain ⟨hserver, hreply⟩ := hwalks.numbered k _ hk
    rw [map_fst_alive, List.mem_range] at hserver
    rw [Nat.zero_add] at hreply
    exact ⟨hserver, hreply⟩

end Resolver

end DarwinNet.Dns
