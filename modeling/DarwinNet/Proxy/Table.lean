import DarwinNet.Proxy.Translate
import DarwinNet.Lib.SortedSet

/-!
The routing table (`routing.go`): per Service port an immutable `PortState` in
the current snapshot and a `KeyMeta` that outlives it, and the ClientIP
bindings beside them. A `PortState` carries the number of its allocation, so
two of them are equal exactly when the program's two pointers are; the two
fields a pick writes, the round-robin cursor and the warn-once flag, are kept by
allocation in the table.

A writer stores the next snapshot and purges bindings afterwards, so
`installEndpoints` and `delete` are each a store step (`installStore`,
`deleteStore`) followed by the purge. What an install leaves for its key does
not depend on the table before it (`holds_installEndpoints`).
-/

namespace DarwinNet.Proxy

open Lib Netip Api

inductive Locality
  | localityUnknown
  | localityLocal
  | localityRemote
  | localityNode
  | localityNodeRouted
  deriving DecidableEq, Repr

def Locality.nodeLocal (l : Locality) : Bool := l = .localityLocal ∨ l = .localityNode

structure Backend where
  addr : AddrPort
  locality : Locality
  deriving DecidableEq, Repr

structure VMPodTransport where
  live : Addr
  ports : List UInt16
  deriving DecidableEq, Repr

structure PortState where
  id : Nat
  all : List Backend
  locals : List Backend
  policy : TrafficPolicy
  affinityMode : AffinityMode
  affinityTimeout : Int
  allSet : Finset AddrPort
  localSet : Finset AddrPort
  gen : Nat
  deriving DecidableEq

structure RoutingSnapshot where
  states : GoMap PortKey PortState
  transport : GoMap Addr VMPodTransport
  transportGen : UInt64

/-- The bookkeeping of a key that outlives its `PortState`. -/
structure KeyMeta where
  service : ObjectKey
  gen : Nat
  policy : TrafficPolicy
  dropWarned : Nat
  lastDropWarn : Int
  deriving DecidableEq, Repr

structure AffinityBinding where
  backend : Backend
  lastSeen : Int
  deriving DecidableEq, Repr

/-- The fields of a table that are set before it is used and never change. -/
structure TableConfig where
  podCIDR : Prefix
  nodeAddr : Addr
  clusterCIDR : Prefix
  maxAffinityPerPort : Int
  maxAffinityTotal : Int

def maxAffinityBindingsPerPort : Int := 8192

def maxAffinityBindingsTotal : Int := 8 * maxAffinityBindingsPerPort

def defaultConfig (podCIDR : Prefix) : TableConfig :=
  ⟨podCIDR, .zero, .zero, maxAffinityBindingsPerPort, maxAffinityBindingsTotal⟩

structure RoutingTable where
  cfg : TableConfig
  snap : RoutingSnapshot
  metas : GoMap PortKey KeyMeta
  affinity : GoMap PortKey (GoMap Addr AffinityBinding)
  affinityCount : Int
  affinityWarned : Bool
  nextState : Nat
  cursor : Nat → Nat
  warned : Nat → Bool

def emptySnapshot : RoutingSnapshot := ⟨∅, ∅, 0⟩

/-- An empty table; its owner may have overridden the caps and the addresses. -/
def newRoutingTable (cfg : TableConfig) : RoutingTable :=
  { cfg, snap := emptySnapshot, metas := ∅, affinity := ∅, affinityCount := 0,
    affinityWarned := false, nextState := 0, cursor := fun _ => 0, warned := fun _ => false }

/-- The next snapshot with the state of `key` replaced, or removed by `none`. -/
def RoutingSnapshot.withState (s : RoutingSnapshot) (key : PortKey) (st : Option PortState) :
    RoutingSnapshot :=
  { s with states := match st with
      | none => s.states.erase key
      | some st => s.states.insert key st }

def RoutingSnapshot.withTransport (s : RoutingSnapshot) (m : GoMap Addr VMPodTransport) :
    RoutingSnapshot :=
  { s with transport := m, transportGen := s.transportGen + 1 }

/-! ## Admission -/

def TableConfig.classify (cfg : TableConfig) (addr : Addr) : Locality :=
  if !cfg.podCIDR.isValid then .localityUnknown
  else if cfg.podCIDR.contains addr.unmap then .localityLocal
  else if cfg.nodeAddr.isValid ∧ addr.unmap = cfg.nodeAddr.unmap then .localityNode
  else if cfg.clusterCIDR.isValid ∧ addr.unmap.isValid ∧ !cfg.clusterCIDR.contains addr.unmap ∧
      !addr.unmap.isLoopback then .localityNodeRouted
  else .localityRemote

def backendLess (a b : Backend) : Bool :=
  if a.addr.addr ≠ b.addr.addr then a.addr.addr.less b.addr.addr
  else a.addr.port < b.addr.port

section

variable (api : Netv1)

def admitEndpoint (ep : Endpoint) : Option AddrPort :=
  if !ep.ready then none
  else if !api.validate ep then none
  else (parseAddr ep.ip).map fun addr => ⟨addr, UInt16.ofInt ep.port⟩

def readyBackends (cfg : TableConfig) (eps : List Endpoint) : List Backend :=
  ((eps.filterMap (admitEndpoint api)).map fun ap => (⟨ap, cfg.classify ap.addr⟩ : Backend))
    |>.insertionSort fun a b => backendLess b a = false

def localBackends (ready : List Backend) : List Backend :=
  ready.filter fun b => b.locality.nodeLocal

def addrSet (bs : List Backend) : Finset AddrPort := (bs.map (·.addr)).toFinset

/-! ## Generations -/

def sameAddrSet (set : Finset AddrPort) (bs : List Backend) : Bool :=
  bs.all (fun b => b.addr ∈ set) && (addrSet bs).card = set.card

def sameInstall (prev : Option PortState) (prevPolicy : TrafficPolicy)
    (ready locals : List Backend) (policy : TrafficPolicy) : Bool :=
  if policy ≠ prevPolicy then false
  else match prev with
    | none => ready = []
    | some st => sameAddrSet st.allSet ready && sameAddrSet st.localSet locals

/-- The key's bookkeeping for an install: a new Service name replaces it, and the
generation, a `uint64`, moves when the install differs from the previous one. -/
def RoutingTable.advanceMeta (t : RoutingTable) (key : PortKey) (svc : ObjectKey)
    (ready locals : List Backend) (policy : TrafficPolicy) : KeyMeta :=
  match t.metas.lookup key with
  | none => ⟨svc, 1, policy, 0, 0⟩
  | some m =>
    if m.service ≠ svc then ⟨svc, (m.gen + 1) % 2 ^ 64, policy, 0, m.lastDropWarn⟩
    else if sameInstall (t.snap.states.lookup key) m.policy ready locals policy then
      { m with policy }
    else { m with gen := (m.gen + 1) % 2 ^ 64, policy }

/-! ## Dropping bindings -/

def RoutingTable.dropBinding (t : RoutingTable) (key : PortKey) (client : Addr) : RoutingTable :=
  { t with
    affinity := t.affinity.insert key (((t.affinity.lookup key).getD ∅).erase client)
    affinityCount := t.affinityCount - 1 }

def RoutingTable.dropAffinity (t : RoutingTable) (key : PortKey) : RoutingTable :=
  { t with
    affinityCount := t.affinityCount - (GoMap.size ((t.affinity.lookup key).getD ∅) : Int)
    affinity := t.affinity.erase key }

/-- `dropAffinity` for a writer, which takes the binding lock for it. -/
def RoutingTable.purgeAffinity (t : RoutingTable) (key : PortKey) : RoutingTable :=
  t.dropAffinity key

/-! ## Writers -/

def clampTimeout (aff : AffinityConfig) : Int :=
  if aff.mode = .affinityClientIP ∧ aff.timeout ≤ 0 then affinityDefaultTimeout else aff.timeout

def RoutingTable.installStore (t : RoutingTable) (key : PortKey) (svc : ObjectKey)
    (eps : List Endpoint) (policy : TrafficPolicy) (aff : AffinityConfig) : RoutingTable :=
  let ready := readyBackends api t.cfg eps
  let locals := localBackends ready
  let m := t.advanceMeta key svc ready locals policy
  if ready = [] then
    { t with metas := t.metas.insert key m, snap := t.snap.withState key none }
  else
    { t with
      metas := t.metas.insert key m
      snap := t.snap.withState key (some
        { id := t.nextState, all := ready, locals, policy, affinityMode := aff.mode
          affinityTimeout := clampTimeout aff, allSet := addrSet ready
          localSet := addrSet locals, gen := m.gen })
      nextState := t.nextState + 1
      cursor := fun i => if i = t.nextState then 0 else t.cursor i
      warned := fun i => if i = t.nextState then false else t.warned i }

/-- Whether an install purges the port's bindings after its store: no Ready
backend, or affinity off. -/
def installPurges (cfg : TableConfig) (eps : List Endpoint) (aff : AffinityConfig) : Bool :=
  readyBackends api cfg eps = [] ∨ aff.mode ≠ .affinityClientIP

def RoutingTable.installEndpoints (t : RoutingTable) (key : PortKey) (svc : ObjectKey)
    (eps : List Endpoint) (policy : TrafficPolicy) (aff : AffinityConfig) : RoutingTable :=
  let t' := t.installStore api key svc eps policy aff
  if installPurges api t.cfg eps aff then t'.purgeAffinity key else t'

def RoutingTable.deleteStore (t : RoutingTable) (key : PortKey) : RoutingTable :=
  { t with snap := t.snap.withState key none }

def RoutingTable.deletePurge (t : RoutingTable) (key : PortKey) : RoutingTable :=
  { t.purgeAffinity key with metas := t.metas.erase key }

def RoutingTable.delete (t : RoutingTable) (key : PortKey) : RoutingTable :=
  (t.deleteStore key).deletePurge key

def normalizePorts (ports : List UInt16) : List UInt16 :=
  SortedSet.normalize (ports.filter (· ≠ 0))

/-- The overrides a call installs: entries with an invalid address are skipped,
both addresses are unmapped. -/
def normalizeOverrides (overrides : GoMap Addr VMPodTransport) : GoMap Addr VMPodTransport :=
  GoMap.insertAll ∅ <| overrides.entries.filterMap fun e =>
    if !e.1.isValid || !e.2.live.isValid then none
    else some (e.1.unmap, ⟨e.2.live.unmap, normalizePorts e.2.ports⟩)

def RoutingTable.setTransportOverrides (t : RoutingTable)
    (overrides : GoMap Addr VMPodTransport) : RoutingTable :=
  { t with snap := t.snap.withTransport (normalizeOverrides overrides) }

end

/-! ## What a writer leaves -/

section

variable (api : Netv1) (t : RoutingTable) (key : PortKey) (svc : ObjectKey) (eps : List Endpoint)
  (policy : TrafficPolicy) (aff : AffinityConfig)

lemma RoutingTable.installStore_cfg : (t.installStore api key svc eps policy aff).cfg = t.cfg := by
  simp only [installStore]
  split <;> rfl

lemma RoutingTable.installStore_metas :
    (t.installStore api key svc eps policy aff).metas = t.metas.insert key
      (t.advanceMeta key svc (readyBackends api t.cfg eps)
        (localBackends (readyBackends api t.cfg eps)) policy) := by
  simp only [installStore]
  split <;> rfl

lemma RoutingTable.installStore_affinity :
    (t.installStore api key svc eps policy aff).affinity = t.affinity ∧
      (t.installStore api key svc eps policy aff).affinityCount = t.affinityCount := by
  simp only [installStore]
  split <;> exact ⟨rfl, rfl⟩

def installedState : Option PortState :=
  let ready := readyBackends api t.cfg eps
  if ready = [] then none
  else some
    { id := t.nextState, all := ready, locals := localBackends ready, policy
      affinityMode := aff.mode, affinityTimeout := clampTimeout aff, allSet := addrSet ready
      localSet := addrSet (localBackends ready)
      gen := (t.advanceMeta key svc ready (localBackends ready) policy).gen }

lemma RoutingTable.installStore_snap : (t.installStore api key svc eps policy aff).snap =
      t.snap.withState key (installedState api t key svc eps policy aff) := by
  simp only [installStore, installedState]
  split <;> rfl

lemma RoutingTable.installEndpoints_snap : (t.installEndpoints api key svc eps policy aff).snap =
      t.snap.withState key (installedState api t key svc eps policy aff) := by
  rw [← installStore_snap, installEndpoints]
  split <;> rfl

lemma RoutingTable.installEndpoints_cfg :
    (t.installEndpoints api key svc eps policy aff).cfg = t.cfg := by
  rw [← installStore_cfg api t key svc eps policy aff, installEndpoints]
  split <;> rfl

lemma RoutingTable.installEndpoints_metas :
    (t.installEndpoints api key svc eps policy aff).metas = t.metas.insert key
      (t.advanceMeta key svc (readyBackends api t.cfg eps)
        (localBackends (readyBackends api t.cfg eps)) policy) := by
  rw [← installStore_metas api t key svc eps policy aff, installEndpoints]
  split <;> rfl

@[simp] lemma RoutingTable.delete_cfg : (t.delete key).cfg = t.cfg := rfl
@[simp] lemma RoutingTable.delete_metas : (t.delete key).metas = t.metas.erase key := rfl
@[simp] lemma RoutingTable.delete_snap : (t.delete key).snap = t.snap.withState key none := rfl

lemma RoutingSnapshot.withState_lookup (s : RoutingSnapshot) (st : Option PortState) (k : PortKey) :
    (s.withState key st).states.lookup k = if k = key then st else s.states.lookup k := by
  cases st with
  | none => exact GoMap.lookup_erase_ite s.states key k
  | some st => exact GoMap.lookup_insert_ite s.states key k st

lemma RoutingTable.advanceMeta_fields (ready locals : List Backend) :
    (t.advanceMeta key svc ready locals policy).service = svc ∧
      (t.advanceMeta key svc ready locals policy).policy = policy := by
  unfold advanceMeta
  split
  · exact ⟨rfl, rfl⟩
  split
  · exact ⟨rfl, rfl⟩
  · rename_i m _ hsvc
    have hs : m.service = svc := not_ne_iff.mp hsvc
    split <;> exact ⟨hs, rfl⟩

end

inductive Desired
  | install (svc : ObjectKey) (policy : TrafficPolicy) (aff : AffinityConfig)
      (eps : List Endpoint)
  | absent
  deriving DecidableEq, Repr

/-- The table holds for `key` exactly what was asked: the owner, the Ready
endpoints, the policy and the affinity of an install (a port without a Ready
endpoint has no state, only its bookkeeping), nothing after a delete. -/
def RoutingTable.Holds (api : Netv1) (t : RoutingTable) (key : PortKey) : Desired → Prop
  | .absent => t.metas.lookup key = none ∧ t.snap.states.lookup key = none
  | .install svc policy aff eps =>
    (∃ m, t.metas.lookup key = some m ∧ m.service = svc ∧ m.policy = policy) ∧
    (t.snap.states.lookup key).map (fun st => (st.all, st.locals, st.policy, st.affinityMode,
        st.affinityTimeout)) =
      if readyBackends api t.cfg eps = [] then none
      else some (readyBackends api t.cfg eps, localBackends (readyBackends api t.cfg eps), policy,
        aff.mode, clampTimeout aff)

lemma holds_installEndpoints (api : Netv1) (t : RoutingTable) (key : PortKey) (svc : ObjectKey)
    (eps : List Endpoint) (policy : TrafficPolicy) (aff : AffinityConfig) :
    (t.installEndpoints api key svc eps policy aff).Holds api key
      (.install svc policy aff eps) := by
  have hm := t.advanceMeta_fields key svc policy (readyBackends api t.cfg eps)
    (localBackends (readyBackends api t.cfg eps))
  refine ⟨⟨_, by rw [RoutingTable.installEndpoints_metas, AList.lookup_insert], hm⟩, ?_⟩
  rw [RoutingTable.installEndpoints_snap, RoutingTable.installEndpoints_cfg,
    RoutingSnapshot.withState_lookup, if_pos rfl]
  simp only [installedState]
  split <;> rfl

lemma holds_delete (api : Netv1) (t : RoutingTable) (key : PortKey) :
    (t.delete key).Holds api key .absent := by
  refine ⟨?_, ?_⟩
  · rw [RoutingTable.delete_metas, AList.lookup_erase]
  · rw [RoutingTable.delete_snap, RoutingSnapshot.withState_lookup, if_pos rfl]

end DarwinNet.Proxy
