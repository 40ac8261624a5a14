import DarwinNet.Proxy.Table

/-!
From a Service to the routing table: `reconcileServicePort` and
`ReconcileDelete` (`proxy.go`), and the watcher's `applyService` and
`deleteServicePorts` on top of them (`watch.go`). Here the port worker applies an
event as soon as it is delivered; the hand-off itself is modelled apart.

A `ProxyState` has a worker for exactly the keys the table knows, which is why a
deletion without a worker has nothing to remove. Both watcher functions are a list
of deliveries, and after such a list a key holds its last one, or what it held
before (`ProxyState.holds_deliverAll`).
-/

namespace DarwinNet.Proxy

open Lib Netip Api

/-! ## One key of the table -/

def RoutingTable.entry (t : RoutingTable) (key : PortKey) : Option KeyMeta × Option PortState :=
  (t.metas.lookup key, t.snap.states.lookup key)

section

variable (api : Netv1) (t : RoutingTable) {key k : PortKey}

lemma RoutingTable.holds_congr {t t' : RoutingTable} (hcfg : t'.cfg = t.cfg)
    (hentry : t'.entry key = t.entry key) {d : Desired} (h : t.Holds api key d) :
    t'.Holds api key d := by
  have hm : t'.metas.lookup key = t.metas.lookup key := congrArg Prod.fst hentry
  have hs : t'.snap.states.lookup key = t.snap.states.lookup key := congrArg Prod.snd hentry
  cases d with
  | absent => exact ⟨hm.trans h.1, hs.trans h.2⟩
  | install svc policy aff eps =>
    simp only [Holds, hm, hs, hcfg]
    exact h

lemma RoutingTable.entry_installEndpoints_ne (svc : ObjectKey) (eps : List Endpoint)
    (policy : TrafficPolicy) (aff : AffinityConfig) (hk : k ≠ key) :
    (t.installEndpoints api key svc eps policy aff).entry k = t.entry k := by
  rw [entry, installEndpoints_metas, installEndpoints_snap, RoutingSnapshot.withState_lookup,
    if_neg hk, AList.lookup_insert_ne hk]
  rfl

lemma RoutingTable.entry_delete_ne (hk : k ≠ key) : (t.delete key).entry k = t.entry k := by
  rw [entry, delete_metas, delete_snap, RoutingSnapshot.withState_lookup, if_neg hk,
    AList.lookup_erase_ne hk]
  rfl

end

/-- The proxy between two handlers. A worker runs for exactly the keys the table
knows, and a key the table does not know has no state. -/
structure ProxyState where
  exemptVIPs : Finset Addr
  table : RoutingTable
  workers : Finset PortKey
  worker_iff : ∀ key, key ∈ workers ↔ (table.metas.lookup key).isSome
  state_known : ∀ key, table.metas.lookup key = none → table.snap.states.lookup key = none

def newProxy (exemptVIPs : Finset Addr) (cfg : TableConfig) : ProxyState where
  exemptVIPs
  table := newRoutingTable cfg
  workers := ∅
  worker_iff _ := by simp [newRoutingTable]
  state_known _ _ := by simp [newRoutingTable, emptySnapshot]

inductive ReconcileError
  | portRequired
  | parseClusterIP
  | shuttingDown
  | workerStopped
  deriving DecidableEq, Repr

/-- The checks of `reconcileServicePort` before its hand-off: the worker key, or
`none` for a VIP that a node-local binder owns. -/
def reconcileTarget (exemptVIPs : Finset Addr) (clusterIP : String) :
    Option ServicePort → Except ReconcileError (Option PortKey)
  | none => .error .portRequired
  | some port =>
    match parseAddr clusterIP with
    | none => .error .parseClusterIP
    | some addr =>
      if addr ∈ exemptVIPs then .ok none
      else .ok (some ⟨clusterIP, port.port, defaultProto port.protocol⟩)

/-- The proxy takes ports of this ClusterIP: it parses and is not exempt. -/
def ownsVIP (exemptVIPs : Finset Addr) (clusterIP : String) : Bool :=
  (parseAddr clusterIP).any fun addr => addr ∉ exemptVIPs

lemma reconcileTarget_of_ownsVIP {exemptVIPs : Finset Addr} {clusterIP : String}
    (h : ownsVIP exemptVIPs clusterIP = true) (port : ServicePort) :
    reconcileTarget exemptVIPs clusterIP (some port) =
      .ok (some ⟨clusterIP, port.port, defaultProto port.protocol⟩) := by
  unfold ownsVIP at h
  unfold reconcileTarget
  cases hp : parseAddr clusterIP with
  | none => simp [hp] at h
  | some addr =>
    have hmem : addr ∉ exemptVIPs := by simpa [hp] using h
    simp only [if_neg hmem]

lemma ownsVIP_of_reconcileTarget {exemptVIPs : Finset Addr} {clusterIP : String}
    {port : ServicePort} {r : Option PortKey}
    (h : reconcileTarget exemptVIPs clusterIP (some port) = .ok r) :
    ownsVIP exemptVIPs clusterIP = r.isSome := by
  unfold reconcileTarget at h
  unfold ownsVIP
  cases hp : parseAddr clusterIP with
  | none => simp [hp] at h
  | some addr =>
    simp only [hp] at h
    split_ifs at h with hmem
    · cases h
      simp [hmem]
    · cases h
      simp [hmem]

section

variable (api : Netv1)

namespace ProxyState

def install (p : ProxyState) (key : PortKey) (svc : ObjectKey) (policy : TrafficPolicy)
    (aff : AffinityConfig) (eps : List Endpoint) : ProxyState where
  exemptVIPs := p.exemptVIPs
  table := p.table.installEndpoints api key svc eps policy aff
  workers := insert key p.workers
  worker_iff k := by
    rw [RoutingTable.installEndpoints_metas, GoMap.lookup_insert_ite, Finset.mem_insert,
      p.worker_iff k]
    split_ifs with hk <;> simp [hk]
  state_known k hnone := by
    rw [RoutingTable.installEndpoints_metas, GoMap.lookup_insert_ite] at hnone
    split_ifs at hnone with hk
    rw [RoutingTable.installEndpoints_snap, RoutingSnapshot.withState_lookup, if_neg hk]
    exact p.state_known k hnone

def remove (p : ProxyState) (key : PortKey) : ProxyState where
  exemptVIPs := p.exemptVIPs
  table := p.table.delete key
  workers := p.workers.erase key
  worker_iff k := by
    rw [RoutingTable.delete_metas, GoMap.lookup_erase_ite, Finset.mem_erase, p.worker_iff k]
    split_ifs with hk <;> simp [hk]
  state_known k hnone := by
    rw [RoutingTable.delete_snap, RoutingSnapshot.withState_lookup]
    split_ifs with hk
    · rfl
    · rw [RoutingTable.delete_metas, GoMap.lookup_erase_ite, if_neg hk] at hnone
      exact p.state_known k hnone

/-- `ReconcileDelete`: without a worker for the key there is nobody to tell. -/
def reconcileDelete (p : ProxyState) (key : PortKey) : ProxyState :=
  if key ∈ p.workers then p.remove key else p

def reconcileServicePort (p : ProxyState) (svc : ObjectKey) (clusterIP : String)
    (port : Option ServicePort) (policy : TrafficPolicy) (aff : AffinityConfig)
    (eps : List Endpoint) : Except ReconcileError ProxyState :=
  match reconcileTarget p.exemptVIPs clusterIP port with
  | .error e => .error e
  | .ok none => .ok p
  | .ok (some key) => .ok (p.install api key svc policy aff eps)

def deliver (p : ProxyState) (key : PortKey) : Desired → ProxyState
  | .install svc policy aff eps => p.install api key svc policy aff eps
  | .absent => p.reconcileDelete key

def deliverAll (p : ProxyState) (l : List (PortKey × Desired)) : ProxyState :=
  l.foldl (fun p e => p.deliver api e.1 e.2) p

variable (p : ProxyState) (key : PortKey) (d : Desired)

lemma holds_deliver : (p.deliver api key d).table.Holds api key d := by
  cases d with
  | install svc policy aff eps => exact holds_installEndpoints api p.table key svc eps policy aff
  | absent =>
    simp only [deliver, reconcileDelete]
    split_ifs with hw
    · exact holds_delete api p.table key
    · rw [p.worker_iff, Option.not_isSome_iff_eq_none] at hw
      exact ⟨hw, p.state_known key hw⟩

lemma deliver_entry_ne {k : PortKey} (hk : k ≠ key) :
    (p.deliver api key d).table.entry k = p.table.entry k := by
  cases d with
  | install svc policy aff eps =>
    exact p.table.entry_installEndpoints_ne api svc eps policy aff hk
  | absent =>
    simp only [deliver, reconcileDelete]
    split_ifs
    · exact p.table.entry_delete_ne hk
    · rfl

lemma deliver_cfg : (p.deliver api key d).table.cfg = p.table.cfg := by
  cases d with
  | install svc policy aff eps => exact p.table.installEndpoints_cfg api key svc eps policy aff
  | absent =>
    simp only [deliver, reconcileDelete]
    split_ifs <;> rfl

lemma deliver_exemptVIPs : (p.deliver api key d).exemptVIPs = p.exemptVIPs := by
  cases d with
  | install svc policy aff eps => rfl
  | absent =>
    simp only [deliver, reconcileDelete]
    split_ifs <;> rfl

lemma deliverAll_cfg (l : List (PortKey × Desired)) :
    (p.deliverAll api l).table.cfg = p.table.cfg := by
  induction l generalizing p with
  | nil => rfl
  | cons e l ih => exact (ih _).trans (p.deliver_cfg api e.1 e.2)

lemma deliverAll_exemptVIPs (l : List (PortKey × Desired)) :
    (p.deliverAll api l).exemptVIPs = p.exemptVIPs := by
  induction l generalizing p with
  | nil => rfl
  | cons e l ih => exact (ih _).trans (p.deliver_exemptVIPs api e.1 e.2)

lemma holds_deliverAll (l : List (PortKey × Desired)) : match GoMap.lastWrite key l with
    | some d => (p.deliverAll api l).table.Holds api key d
    | none => (p.deliverAll api l).table.entry key = p.table.entry key := by
  induction l generalizing p with
  | nil => rfl
  | cons e l ih =>
    have hcons : p.deliverAll api (e :: l) = (p.deliver api e.1 e.2).deliverAll api l := rfl
    have hrest := ih (p.deliver api e.1 e.2)
    rw [hcons, GoMap.lastWrite]
    cases hl : GoMap.lastWrite key l with
    | some d => simpa only [hl, Option.some_or] using hrest
    | none =>
      simp only [hl, Option.none_or] at hrest ⊢
      by_cases hk : e.1 = key
      · subst hk
        simp only [if_true]
        refine RoutingTable.holds_congr api ?_ hrest (p.holds_deliver api e.1 e.2)
        exact deliverAll_cfg api (p.deliver api e.1 e.2) l
      · simp only [if_neg hk]
        exact hrest.trans (p.deliver_entry_ne api e.1 e.2 (Ne.symm hk))

variable {p key d} {l : List (PortKey × Desired)}

lemma holds_deliverAll_last (h : GoMap.lastWrite key l = some d) :
    (p.deliverAll api l).table.Holds api key d := by
  simpa only [h] using p.holds_deliverAll api key l

lemma holds_deliverAll_other (h : GoMap.lastWrite key l = none)
    (hd : p.table.Holds api key d) : (p.deliverAll api l).table.Holds api key d := by
  have hentry := p.holds_deliverAll api key l
  simp only [h] at hentry
  exact RoutingTable.holds_congr api (p.deliverAll_cfg api l) hentry hd

end ProxyState

/-! ## The watcher's deliveries -/

abbrev StaticBackends := GoMap ObjectKey (List Endpoint)

def slicesForService (slices : List EndpointSlice) (svc : ObjectKey) : List EndpointSlice :=
  slices.filter fun sl => sl.key.ns = svc.ns ∧ sl.serviceName = svc.name

/-- The override of a pinned Service replaces its slices entirely. -/
def backendsForPort (static : StaticBackends) (svc : ObjectKey) (slices : List EndpointSlice)
    (portName : String) : List Endpoint :=
  match static.lookup svc with
  | some eps => eps
  | none => endpointsForPort slices portName

/-- Deliver the backend set of every port of `svc`; a port that fails is logged
and skipped. -/
def applyService (static : StaticBackends) (p : ProxyState) (svc : Service)
    (slices : List EndpointSlice) : ProxyState :=
  match serviceToVIP api svc with
  | none => p
  | some v => v.vip.ports.foldl (fun p port =>
      match p.reconcileServicePort api svc.key v.vip.clusterIP (some port) v.policy v.affinity
          (backendsForPort static svc.key slices port.name) with
      | .ok p' => p'
      | .error _ => p) p

def deleteServicePorts (p : ProxyState) (svc : Service) : ProxyState :=
  match serviceToVIP api svc with
  | none => p
  | some v => v.vip.ports.foldl (fun p port => p.reconcileDelete (deleteKey v.vip port)) p

def desiredPort (static : StaticBackends) (svc : Service) (v : ServedVIP)
    (slices : List EndpointSlice) (port : ServicePort) : Desired :=
  .install svc.key v.policy v.affinity (backendsForPort static svc.key slices port.name)

def serviceDeliveries (static : StaticBackends) (exemptVIPs : Finset Addr) (svc : Service)
    (slices : List EndpointSlice) : List (PortKey × Desired) :=
  match serviceToVIP api svc with
  | none => []
  | some v =>
    if ownsVIP exemptVIPs v.vip.clusterIP then
      v.vip.ports.map fun port => (reconcileKey v.vip port, desiredPort static svc v slices port)
    else []

lemma ProxyState.reconcileServicePort_of_not_ownsVIP (p : ProxyState) {clusterIP : String}
    (h : ¬ ownsVIP p.exemptVIPs clusterIP = true) (svc : ObjectKey) (port : ServicePort)
    (policy : TrafficPolicy) (aff : AffinityConfig) (eps : List Endpoint) :
    p.reconcileServicePort api svc clusterIP (some port) policy aff eps = .error .parseClusterIP ∨
      p.reconcileServicePort api svc clusterIP (some port) policy aff eps = .ok p := by
  unfold ownsVIP at h
  unfold reconcileServicePort reconcileTarget
  cases hp : parseAddr clusterIP with
  | none => exact .inl rfl
  | some addr =>
    have hmem : addr ∈ p.exemptVIPs := by simpa [hp] using h
    exact .inr (by simp only [if_pos hmem])

lemma applyService_eq (static : StaticBackends) (p : ProxyState) (svc : Service)
    (slices : List EndpointSlice) : applyService api static p svc slices =
      p.deliverAll api (serviceDeliveries api static p.exemptVIPs svc slices) := by
  unfold applyService serviceDeliveries
  cases serviceToVIP api svc with
  | none => rfl
  | some v =>
    dsimp only
    generalize v.vip.ports = ports
    split_ifs with how
    · induction ports generalizing p with
      | nil => rfl
      | cons port ports ih =>
        have hp : p.reconcileServicePort api svc.key v.vip.clusterIP (some port) v.policy
            v.affinity (backendsForPort static svc.key slices port.name) =
            .ok (p.deliver api (reconcileKey v.vip port)
              (desiredPort static svc v slices port)) := by
          unfold ProxyState.reconcileServicePort
          rw [reconcileTarget_of_ownsVIP how]
          rfl
        simp only [List.foldl_cons, hp]
        exact ih _ (by rw [p.deliver_exemptVIPs]; exact how)
    · induction ports with
      | nil => rfl
      | cons port ports ih =>
        rw [List.foldl_cons]
        rcases p.reconcileServicePort_of_not_ownsVIP api how svc.key port v.policy v.affinity
            (backendsForPort static svc.key slices port.name) with h | h
        · rw [h]
          exact ih
        · rw [h]
          exact ih

lemma deleteServicePorts_eq (p : ProxyState) (svc : Service) : deleteServicePorts api p svc =
      p.deliverAll api ((deletedKeys api svc).map fun key => (key, .absent)) := by
  unfold deleteServicePorts deletedKeys
  cases serviceToVIP api svc with
  | none => rfl
  | some v =>
    simp only [ProxyState.deliverAll, List.foldl_map]
    rfl

end

end DarwinNet.Proxy
