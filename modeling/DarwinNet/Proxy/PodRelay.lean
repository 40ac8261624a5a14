import DarwinNet.Lib.Machine
import DarwinNet.Netip.Prefix
import DarwinNet.Proxy.Table

/-!
The relays of vm pods (`podrelay.go`): the manager `podRelays` with the routing table it
observes, the call of `SetTransportOverrides` in progress, the reconcile goroutine, and the
goroutines of the relayed connections, interleaved between their lock sections.

A `podRelay` is an object of the heap: one that has left the manager's map exists until it is
closed. The manager's lock is held across steps by the edit of a reconcile pass only. Shutdown
and the throttled warnings are left out. `serves_of_admitted` says what an admitted relay leads
to.
-/

namespace DarwinNet.Proxy

open Lib Netip Api

def maxRelayPorts : Nat := 32

/-! ## Admission -/

structure RelayConfig where
  vmnet : Prefix
  gateway : Addr
  broadcast : Addr
  deriving DecidableEq

/-- `newPodRelays`: gateway and broadcast are the zero `Addr` where the prefix has none. -/
def newPodRelays (vmnet : Prefix) : RelayConfig :=
  match vmnet.masked.ip with
  | .v4 a =>
    if vmnet.masked.isValid ∧ vmnet.masked.bits ≤ 30 then
      ⟨vmnet.masked, vmnet.masked.ip.next, .v4 (a ||| (1#32 <<< (32 - vmnet.masked.bits) - 1#32))⟩
    else ⟨vmnet.masked, .zero, .zero⟩
  | .v6 _ _ =>
    if vmnet.masked.isValid ∧ vmnet.masked.bits ≤ 126 then
      ⟨vmnet.masked, vmnet.masked.ip.next, .zero⟩
    else ⟨vmnet.masked, .zero, .zero⟩
  | .zero => ⟨vmnet.masked, .zero, .zero⟩

def liveClaims (transport : GoMap Addr VMPodTransport) (live : Addr) : Nat :=
  GoMap.sumBy (fun tr => if tr.live = live then 1 else 0) transport

def RoutingSnapshot.relayBackendPorts (s : RoutingSnapshot) (published : Addr) : List UInt16 :=
  if (s.transport.lookup published).isNone then []
  else s.states.entries.flatMap fun e =>
    if e.1.protocol ≠ .TCP then []
    else (e.2.all.filter fun b => b.addr.addr.unmap = published).map fun b => b.addr.port

structure RelayPlan where
  live : Addr
  ports : List UInt16
  deriving DecidableEq

namespace RelayConfig

variable (cfg : RelayConfig)

def refusal (published live : Addr) (claims : Nat) : Option String :=
  if !cfg.vmnet.isValid then some "no vmnet segment is configured on this node"
  else if !cfg.vmnet.contains live then
    some ("live address is outside the node's vmnet segment " ++ cfg.vmnet.string)
  else if live = cfg.vmnet.ip ∧ cfg.vmnet.bits ≤ 30 then
    some "live address is the vmnet segment's network address"
  else if live = cfg.gateway then some "live address is the vmnet gateway"
  else if live = cfg.broadcast then some "live address is the vmnet broadcast address"
  else if live = published then some "live address equals the published address"
  else if 1 < claims then some "live address is reported by more than one pod"
  else none

/-- `admit`: the ports an override is relayed on, or why it is not. -/
def admitRelay (published : Addr) (tr : VMPodTransport) (svcPorts : List UInt16) (claims : Nat) :
    Except String (List UInt16) :=
  match cfg.refusal published tr.live claims with
  | some reason => .error reason
  | none =>
    let ports := SortedSet.normalize (tr.ports ++ svcPorts)
    if maxRelayPorts < ports.length then
      .error ("port set has " ++ toString ports.length ++
        " ports, over the per-pod relay cap of " ++ toString maxRelayPorts)
    else .ok ports

def admitIn (s : RoutingSnapshot) (published : Addr) (tr : VMPodTransport) :
    Except String (List UInt16) :=
  cfg.admitRelay published tr (s.relayBackendPorts published) (liveClaims s.transport tr.live)

/-- The relay each admitted pod of a snapshot should have. -/
def plan (s : RoutingSnapshot) : GoMap Addr RelayPlan :=
  GoMap.insertAll ∅ <| s.transport.entries.filterMap fun e =>
    match cfg.admitIn s e.1 e.2 with
    | .ok ports => some (e.1, ⟨e.2.live, ports⟩)
    | .error _ => none

end RelayConfig

/-- One side of a relayed connection: the client's, or the backend's. -/
inductive RelayConn
  | client (n : Nat)
  | backend (n : Nat)
  deriving DecidableEq

structure PodRelay where
  published : Addr
  live : Addr
  listeners : Finset UInt16
  conns : Finset RelayConn
  closed : Bool
  deriving DecidableEq

namespace PodRelay

variable (r : PodRelay)

def new (published live : Addr) : PodRelay := ⟨published, live, ∅, ∅, false⟩

/-- Without the listeners of other ports; the ports that have none yet. -/
def trimPorts (want : List UInt16) : PodRelay × List UInt16 :=
  ({ r with listeners := r.listeners.filter (· ∈ want) }, want.filter (· ∉ r.listeners))

def addListener (port : UInt16) : Option PodRelay :=
  if r.closed then none
  else if port ∈ r.listeners then none
  else some { r with listeners := insert port r.listeners }

def track (c : RelayConn) : Option PodRelay :=
  if r.closed then none else some { r with conns := insert c r.conns }

def release (c : RelayConn) : PodRelay := { r with conns := r.conns.erase c }

/-- The listeners are closed and forgotten; the connections are closed, and stay registered
until their goroutine releases them. -/
def close : PodRelay := if r.closed then r else { r with closed := true, listeners := ∅ }

end PodRelay

/-! ## What admission checks -/

variable {cfg : RelayConfig} {published : Addr}

lemma RelayConfig.refusal_eq_none {live : Addr} {claims : Nat}
    (h : cfg.refusal published live claims = none) :
    cfg.vmnet.contains live = true ∧ ¬ (live = cfg.vmnet.ip ∧ cfg.vmnet.bits ≤ 30) ∧
      live ≠ cfg.gateway ∧ live ≠ cfg.broadcast ∧ live ≠ published ∧ claims ≤ 1 := by
  unfold refusal at h
  (repeat' split at h) <;> cases h
  next hin hnet hgw hbc hpub hclaims =>
  exact ⟨by simpa using hin, hnet, hgw, hbc, hpub, Nat.le_of_not_lt hclaims⟩

/-- The overrides lead to `live`, and the relays do not refuse it. -/
def Admitted (cfg : RelayConfig) (transport : GoMap Addr VMPodTransport)
    (published live : Addr) : Prop :=
  ∃ tr, transport.lookup published = some tr ∧ tr.live = live ∧
    cfg.refusal published live (liveClaims transport live) = none

lemma admitted_of_admitIn {s : RoutingSnapshot} {tr : VMPodTransport} {ports : List UInt16}
    (htr : s.transport.lookup published = some tr) (h : cfg.admitIn s published tr = .ok ports) :
    Admitted cfg s.transport published tr.live := by
  refine ⟨tr, htr, rfl, ?_⟩
  unfold RelayConfig.admitIn RelayConfig.admitRelay at h
  split at h
  · cases h
  · assumption

lemma admitted_of_plan {s : RoutingSnapshot} {pl : RelayPlan}
    (h : (cfg.plan s).lookup published = some pl) : Admitted cfg s.transport published pl.live := by
  rw [RelayConfig.plan, GoMap.lookup_insertAll, AList.lookup_empty, Option.or_none] at h
  obtain ⟨e, he, hsome⟩ := List.mem_filterMap.mp (GoMap.mem_of_lastWrite h)
  split at hsome
  · rename_i ports hadmit
    cases hsome
    exact admitted_of_admitIn (GoMap.lookup_of_mem_entries he) hadmit
  · cases hsome

lemma two_le_liveClaims {transport : GoMap Addr VMPodTransport} {p q : Addr}
    {tr tr' : VMPodTransport} (hp : transport.lookup p = some tr)
    (hq : transport.lookup q = some tr') (hne : q ≠ p) (hlive : tr'.live = tr.live) :
    2 ≤ liveClaims transport tr.live := by
  have hsum := GoMap.sumBy_erase (fun t : VMPodTransport => if t.live = tr.live then 1 else 0)
    transport p
  have hsum' := GoMap.sumBy_erase (fun t : VMPodTransport => if t.live = tr.live then 1 else 0)
    (transport.erase p) q
  have hq' : (transport.erase p).lookup q = some tr' := by
    rw [GoMap.lookup_erase_ite, if_neg hne, hq]
  simp only [GoMap.valueAt, hp, hq', Option.map_some, Option.getD_some, if_pos hlive,
    if_true] at hsum hsum'
  unfold liveClaims
  omega

/-- An IPv6 segment that has a gateway, and whose network address `refusal` does not check. -/
def uncheckedNetwork (vmnet : Prefix) : Bool :=
  vmnet.masked.ip.is6 && decide (30 < vmnet.masked.bits ∧ vmnet.masked.bits ≤ 126)

/-- A prefix with a gateway has a network address; only IPv6 prefixes of 31 to 126 bits
have both and more than 30 bits. -/
lemma bits_le_of_gateway {vmnet : Prefix} (h6 : uncheckedNetwork vmnet = false)
    (hgw : (newPodRelays vmnet).gateway.isValid = true) : (newPodRelays vmnet).vmnet.bits ≤ 30 := by
  unfold newPodRelays at hgw ⊢
  split at hgw
  · rename_i a ha
    split at hgw
    · rename_i hbits
      simp [ha, hbits]
    · cases hgw
  · rename_i a zone ha
    split at hgw
    · rename_i hbits
      simp only [ha, hbits, and_self, if_true]
      by_contra hlt
      simp [uncheckedNetwork, ha, Addr.is6, hbits.2] at h6
      omega
    · cases hgw
  · cases hgw

lemma newPodRelays_vmnet_ip (vmnet : Prefix) :
    (newPodRelays vmnet).vmnet.ip = vmnet.masked.ip := by
  unfold newPodRelays
  (repeat' split) <;> rfl

/-- What a relay that is not closed must be: the relay of a pod of the overrides, whose live
address is one of the vmnet segment and the pod's own. -/
structure Serves (cfg : RelayConfig) (transport : GoMap Addr VMPodTransport) (r : PodRelay) :
    Prop where
  override : ∃ tr, transport.lookup r.published = some tr ∧ tr.live = r.live
  inside : cfg.vmnet.contains r.live = true
  /-- A prefix that has a gateway also has a network address. -/
  network : cfg.gateway.isValid = true → r.live ≠ cfg.vmnet.ip
  gateway : r.live ≠ cfg.gateway
  broadcast : r.live ≠ cfg.broadcast
  published : r.live ≠ r.published
  unclaimed : ∀ p tr, transport.lookup p = some tr → tr.live = r.live → p = r.published

lemma serves_of_admitted {vmnet : Prefix} {transport : GoMap Addr VMPodTransport} {r : PodRelay}
    (h6 : uncheckedNetwork vmnet = true →
      ∀ p tr, transport.lookup p = some tr → tr.live ≠ vmnet.masked.ip)
    (h : Admitted (newPodRelays vmnet) transport r.published r.live) :
    Serves (newPodRelays vmnet) transport r := by
  obtain ⟨tr, htr, hlive, hrefusal⟩ := h
  obtain ⟨hin, hnet, hgw, hbc, hpub, hclaims⟩ := RelayConfig.refusal_eq_none hrefusal
  refine ⟨⟨tr, htr, hlive⟩, hin, ?_, hgw, hbc, hpub, ?_⟩
  · intro hvalid heq
    cases hun : uncheckedNetwork vmnet with
    | false => exact hnet ⟨heq, bits_le_of_gateway hun hvalid⟩
    | true =>
      rw [← hlive, newPodRelays_vmnet_ip] at heq
      exact h6 hun r.published tr htr heq
  intro p tr' hp hp'
  by_contra hne
  have htwo := two_le_liveClaims htr hp hne (hp'.trans hlive.symm)
  rw [hlive] at htwo
  omega

/-! ## The goroutines -/

/-- The holder of the table's writer lock: a call of `SetTransportOverrides`. -/
inductive Writer
  | idle
  /-- The snapshot is stored; `retire` has not taken the manager's lock yet. -/
  | stored (overrides : GoMap Addr VMPodTransport)
  /-- `retire` closes what it took out of the map. -/
  | retiring (overrides : GoMap Addr VMPodTransport) (gone : Finset Nat)

inductive Pass
  | idle
  | loaded (s : RoutingSnapshot)
  /-- Under the manager's lock: `todo` is the part of the plan still to be installed. -/
  | editing (s : RoutingSnapshot) (todo : GoMap Addr RelayPlan) (gone : Finset Nat)
      (jobs : List (Nat × UInt16))
  | closing (gone : Finset Nat) (jobs : List (Nat × UInt16)) (ok : Bool)

/-- The relays the pass took out of the map and has not closed. -/
def Pass.gone : Pass → Finset Nat
  | .editing _ _ gone _ | .closing gone _ _ => gone
  | _ => ∅

inductive ConnStage
  | accepted
  | handling
  | dialed
  | splicing
  | leaving
  | done
  deriving DecidableEq

structure RelayedConn where
  relay : Nat
  port : UInt16
  stage : ConnStage
  deriving DecidableEq

structure PodRelays where
  table : RoutingTable
  writer : Writer
  relays : GoMap Addr Nat
  heap : GoMap Nat PodRelay
  nextRelay : Nat
  pass : Pass
  kick : Bool
  retry : Bool
  conns : GoMap Nat RelayedConn
  closedConns : Finset RelayConn
  /-- The argument of the last call of `SetTransportOverrides` that returned. -/
  overrides : GoMap Addr VMPodTransport
  /-- The calls of `SetTransportOverrides` that stored since a pass last loaded. -/
  stores : Nat

namespace PodRelays

variable (cfg : RelayConfig) (s : PodRelays)

def setRelay (id : Nat) (r : PodRelay) : PodRelays := { s with heap := s.heap.insert id r }

def closeRelay (id : Nat) : PodRelays :=
  match s.heap.lookup id with
  | none => s
  | some r =>
    if r.closed then s
    else { s.setRelay id r.close with closedConns := s.closedConns ∪ r.conns }

/-- `retire` keeps a relay whose pod has its live address and is admitted. -/
def keeps (published : Addr) (id : Nat) : Bool :=
  match s.heap.lookup id, s.table.snap.transport.lookup published with
  | some r, some tr =>
    decide (tr.live = r.live) && (cfg.admitIn s.table.snap published tr).toBool
  | _, _ => false

def dropRelays (keep : Addr → Nat → Bool) : GoMap Addr Nat × Finset Nat :=
  let out := s.relays.entries.filter fun e => !keep e.1 e.2
  (GoMap.eraseAll s.relays (out.map (·.1)), (out.map (·.2)).toFinset)

/-- The section of `retire` under the manager's lock. -/
def retire (overrides : GoMap Addr VMPodTransport) : PodRelays :=
  let (relays, gone) := s.dropRelays (keeps cfg s)
  { s with relays := relays, writer := .retiring overrides gone }

def planned (want : GoMap Addr RelayPlan) (published : Addr) (id : Nat) : Bool :=
  match s.heap.lookup id, want.lookup published with
  | some r, some pl => decide (pl.live = r.live)
  | _, _ => false

/-- A pass takes the manager's lock: it gives up on a newer transport generation, and
drops the relays that are not in its plan. -/
def lock (snap : RoutingSnapshot) : PodRelays :=
  if s.table.snap.transportGen ≠ snap.transportGen then { s with pass := .idle, retry := false }
  else
    let want := cfg.plan snap
    let (relays, gone) := s.dropRelays (s.planned want)
    { s with relays := relays, pass := .editing snap want gone [] }

def install (published : Addr) (live : Addr) : PodRelays × Nat :=
  match s.relays.lookup published with
  | some id => (s, id)
  | none =>
    ({ s.setRelay s.nextRelay (.new published live) with
        relays := s.relays.insert published s.nextRelay, nextRelay := s.nextRelay + 1 },
      s.nextRelay)

def trimRelay (id : Nat) (ports : List UInt16) : PodRelays × List (Nat × UInt16) :=
  match s.heap.lookup id with
  | none => (s, [])
  | some r =>
    let (r, missing) := r.trimPorts ports
    (s.setRelay id r, missing.map fun port => (id, port))

def listen (id : Nat) (port : UInt16) : PodRelays :=
  match (s.heap.lookup id).bind fun r => r.addListener port with
  | none => s
  | some r => s.setRelay id r

def setConn (n : Nat) (c : RelayedConn) : PodRelays := { s with conns := s.conns.insert n c }

def releaseConn (id : Nat) (c : RelayConn) : PodRelays :=
  let s' := { s with closedConns := insert c s.closedConns }
  match s.heap.lookup id with
  | none => s'
  | some r => s'.setRelay id (r.release c)

/-- `track` on an object: registered, or closed at once by the caller. -/
def trackConn (id : Nat) (c : RelayConn) : PodRelays × Bool :=
  match (s.heap.lookup id).bind fun r => r.track c with
  | none => ({ s with closedConns := insert c s.closedConns }, false)
  | some r => (s.setRelay id r, true)

end PodRelays

inductive PodRelayLabel
  | setTransportOverrides (overrides : GoMap Addr VMPodTransport)
  | retire
  | closeRetired (id : Nat)
  | endOverrides
  | installEndpoints (key : PortKey) (svc : ObjectKey) (eps : List Endpoint)
      (policy : TrafficPolicy) (aff : AffinityConfig)
  | delete (key : PortKey)
  | load (timer : Bool)
  | lock
  | edit (published : Addr)
  | unlock
  | closeGone (id : Nat)
  | openJob (bound : Bool)
  | endPass
  | accept (n id : Nat) (port : UInt16)
  | trackClient (n : Nat)
  | dial (n : Nat) (src : Addr) (allowed dialed : Bool)
  | trackBackend (n : Nat)
  | releaseBackend (n : Nat)
  | releaseClient (n : Nat)

namespace PodRelays

variable (api : Netv1) (cfg : RelayConfig)

def step (s : PodRelays) : PodRelayLabel → Option PodRelays
  | .setTransportOverrides overrides =>
    match s.writer with
    | .idle => some { s with
        table := s.table.setTransportOverrides overrides, writer := .stored overrides
        stores := s.stores + 1 }
    | _ => none
  | .retire =>
    match s.writer, s.pass with
    | .stored _, .editing .. => none
    | .stored overrides, _ => some (s.retire cfg overrides)
    | _, _ => none
  | .closeRetired id =>
    match s.writer with
    | .retiring overrides gone =>
      if id ∈ gone then
        some { s.closeRelay id with writer := .retiring overrides (gone.erase id) }
      else none
    | _ => none
  | .endOverrides =>
    match s.writer with
    | .retiring overrides gone =>
      if gone = ∅ then some { s with writer := .idle, overrides := overrides, kick := true }
      else none
    | _ => none
  | .installEndpoints key svc eps policy aff =>
    match s.writer with
    | .idle => some { s with
        table := s.table.installEndpoints api key svc eps policy aff, kick := true }
    | _ => none
  | .delete key =>
    match s.writer with
    | .idle => some { s with table := s.table.delete key, kick := true }
    | _ => none
  | .load timer =>
    match s.pass with
    | .idle =>
      if timer then
        if s.retry then
          some { s with pass := .loaded s.table.snap, retry := false, stores := 0 }
        else none
      else if s.kick then
        some { s with pass := .loaded s.table.snap, kick := false, stores := 0 }
      else none
    | _ => none
  | .lock =>
    match s.pass with
    | .loaded snap => some (s.lock cfg snap)
    | _ => none
  | .edit published =>
    match s.pass with
    | .editing snap todo gone jobs =>
      match todo.lookup published with
      | none => none
      | some pl =>
        let (s, id) := s.install published pl.live
        let (s, new) := s.trimRelay id pl.ports
        some { s with pass := .editing snap (todo.erase published) gone (jobs ++ new) }
    | _ => none
  | .unlock =>
    match s.pass with
    | .editing _ todo gone jobs =>
      if todo.size = 0 then some { s with pass := .closing gone jobs true } else none
    | _ => none
  | .closeGone id =>
    match s.pass with
    | .closing gone jobs ok =>
      if id ∈ gone then some { s.closeRelay id with pass := .closing (gone.erase id) jobs ok }
      else none
    | _ => none
  | .openJob bound =>
    match s.pass with
    | .closing gone ((id, port) :: jobs) ok =>
      if gone = ∅ then
        if bound then some { s.listen id port with pass := .closing ∅ jobs ok }
        else some { s with pass := .closing ∅ jobs false }
      else none
    | _ => none
  | .endPass =>
    match s.pass with
    | .closing gone [] ok =>
      if gone = ∅ then some { s with pass := .idle, retry := !ok } else none
    | _ => none
  | .accept n id port =>
    match s.conns.lookup n, s.heap.lookup id with
    | none, some r =>
      if port ∈ r.listeners then some (s.setConn n ⟨id, port, .accepted⟩) else none
    | _, _ => none
  | .trackClient n =>
    match s.conns.lookup n with
    | some ⟨id, port, .accepted⟩ =>
      match s.trackConn id (.client n) with
      | (s, true) => some (s.setConn n ⟨id, port, .handling⟩)
      | (s, false) => some (s.setConn n ⟨id, port, .done⟩)
    | _ => none
  | .dial n src allowed dialed =>
    match s.conns.lookup n with
    | some ⟨id, port, .handling⟩ =>
      if cfg.vmnet.contains src || !allowed || !dialed then
        some (s.setConn n ⟨id, port, .leaving⟩)
      else some (s.setConn n ⟨id, port, .dialed⟩)
    | _ => none
  | .trackBackend n =>
    match s.conns.lookup n with
    | some ⟨id, port, .dialed⟩ =>
      match s.trackConn id (.backend n) with
      | (s, true) => some (s.setConn n ⟨id, port, .splicing⟩)
      | (s, false) => some (s.setConn n ⟨id, port, .leaving⟩)
    | _ => none
  | .releaseBackend n =>
    match s.conns.lookup n with
    | some ⟨id, port, .splicing⟩ =>
      some ((s.releaseConn id (.backend n)).setConn n ⟨id, port, .leaving⟩)
    | _ => none
  | .releaseClient n =>
    match s.conns.lookup n with
    | some ⟨id, port, .leaving⟩ =>
      some ((s.releaseConn id (.client n)).setConn n ⟨id, port, .done⟩)
    | _ => none

/-- A manager right after `newPodRelays`, over a table whose overrides are those of the last
call. -/
structure Started (s : PodRelays) : Prop where
  writer : s.writer = .idle
  relays : s.relays = ∅
  heap : s.heap = ∅
  pass : s.pass = .idle
  conns : s.conns = ∅
  transport : s.table.snap.transport = normalizeOverrides s.overrides

def machine : Machine PodRelays PodRelayLabel where
  init := Started
  step := step api cfg

end PodRelays

end DarwinNet.Proxy
