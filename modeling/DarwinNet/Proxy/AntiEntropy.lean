import DarwinNet.Proxy.Watch

/-!
What an anti-entropy pass decides (`antientropy.go`) from two views of the
cluster, the live lists and the informer store: which Services diverge, whether
the repair is withheld, and the calls the repair of one Service makes.

A live view holds each Service under its own key (`ServiceView.svcs_key`). A
repair installs every port the live Service serves (`exists_repairCall`).
-/

namespace DarwinNet.Proxy

open Lib Netip Api

/-! ## Views -/

structure ServiceView where
  svcs : GoMap ObjectKey Service
  slices : GoMap ObjectKey (List EndpointSlice)
  svcRV : String
  sliceRV : String

/-- What two LIST calls returned: the items and the first page's version. -/
structure LiveLists where
  svcs : List Service
  svcRV : String
  slices : List EndpointSlice
  sliceRV : String

/-- `listLive`: a later item of the same key replaces an earlier one, and a slice
without the Service label is left out. -/
def listLive (l : LiveLists) : ServiceView where
  svcs := GoMap.insertAll ∅ (l.svcs.map fun svc => (svc.key, svc))
  slices := groupByService l.slices
  svcRV := l.svcRV
  sliceRV := l.sliceRV

/-- `storeView`: the same from the stores, without versions. -/
def storeView (services : GoMap ObjectKey Service) (slices : GoMap ObjectKey EndpointSlice) :
    ServiceView :=
  listLive ⟨storeList services, "", storeList slices, ""⟩

lemma ServiceView.svcs_key (l : LiveLists) {k : ObjectKey} {svc : Service}
    (h : (listLive l).svcs.lookup k = some svc) : svc.key = k ∧ svc ∈ l.svcs := by
  rw [listLive, GoMap.lookup_insertAll, AList.lookup_empty, Option.or_none] at h
  obtain ⟨svc', hmem, heq⟩ := List.mem_map.mp (GoMap.mem_of_lastWrite h)
  cases heq
  exact ⟨rfl, hmem⟩

section

variable (api : Netv1) (static : StaticBackends)

/-- `Watcher.backendSets`: what the proxy would install for one Service. -/
def viewBackendSets (key : ObjectKey) (v : ServiceView) : GoMap PortKey BackendSet :=
  match v.svcs.lookup key with
  | none => ∅
  | some svc => apiBackendSets api [svc] ((v.slices.lookup key).getD []) static

def viewKeys (live store : ServiceView) : List ObjectKey :=
  live.svcs.keys ++ store.svcs.keys.filter fun k => (live.svcs.lookup k).isNone

def divergences (live store : ServiceView) : List (ObjectKey × List Divergence) :=
  (viewKeys live store).filterMap fun k =>
    match diffBackendSets (viewBackendSets api static k live)
        (viewBackendSets api static k store) with
    | [] => none
    | ds => some (k, ds)

def anyBackend (sets : GoMap PortKey BackendSet) : Bool := (storeList sets).any (· ≠ [])

/-- A repair is withheld when the live list is empty and the store is not, or when
more than half of the stored Services with a Ready backend would lose one. -/
def breakerTripped (live store : ServiceView) (divs : List (ObjectKey × List Divergence)) : Bool :=
  if live.svcs.keys = [] ∧ store.svcs.keys ≠ [] then true
  else
    let ready := store.svcs.keys.filter fun k => anyBackend (viewBackendSets api static k store)
    let losing := ready.filter fun k =>
      ((GoMap.lastWrite k divs).getD []).any fun d => d.extra ≠ []
    decide (0 < ready.length ∧ ready.length < 2 * losing.length)

def parseUint (s : String) : Option Nat :=
  let l := s.toList
  if l ≠ [] ∧ l.all Char.isDigit then
    let n := ofDigits 10 (l.map fun c => c.toNat - '0'.toNat)
    if n < 2 ^ 64 then some n else none
  else none

def rvNewer (a b : String) : Bool :=
  match parseUint a, parseUint b with
  | some x, some y => decide (y < x)
  | _, _ => false

def storeNewerThan (services : GoMap ObjectKey Service) (slices : GoMap ObjectKey EndpointSlice)
    (key : ObjectKey) (live : ServiceView) : Bool :=
  (services.lookup key).any (fun svc => rvNewer svc.resourceVersion live.svcRV) ||
    (slicesForService (storeList slices) key).any fun sl => rvNewer sl.resourceVersion live.sliceRV

/-! ## The calls made for one Service -/

/-- One call of `reconcileServicePort`, with the object its policy and affinity
are taken from, or of `ReconcileDelete`. -/
inductive PortCall
  | install (svc : Service) (key : PortKey) (eps : List Endpoint)
  | delete (key : PortKey)
  deriving DecidableEq

def PortCall.key : PortCall → PortKey
  | .install _ key _ => key
  | .delete key => key

def applyCalls (svc : Service) (slices : List EndpointSlice) : List PortCall :=
  match serviceToVIP api svc with
  | none => []
  | some v => v.vip.ports.map fun port =>
      .install svc (reconcileKey v.vip port) (backendsForPort static svc.key slices port.name)

def deleteCalls (svc : Service) : List PortCall := (deletedKeys api svc).map .delete

/-- The calls of `repairService` when it is not skipped. -/
def repairCalls (key : ObjectKey) (live : ServiceView) (ds : List Divergence) : List PortCall :=
  let liveSets := viewBackendSets api static key live
  (match live.svcs.lookup key with
    | none => []
    | some svc => applyCalls api static svc ((live.slices.lookup key).getD [])) ++
  (ds.filter fun d => (liveSets.lookup d.key).isNone).map fun d => .delete d.key

variable {api static} {svc : Service} {slices : List EndpointSlice} {p : PortKey}

lemma exists_applyCall (static : StaticBackends) (slices : List EndpointSlice)
    (hp : p ∈ servedKeys api svc) :
    ∃ eps, .install svc p eps ∈ applyCalls api static svc slices := by
  unfold servedKeys at hp
  unfold applyCalls
  cases hv : serviceToVIP api svc with
  | none => simp [hv] at hp
  | some v =>
    simp only [hv, List.mem_map] at hp ⊢
    obtain ⟨port, hport, rfl⟩ := hp
    exact ⟨_, port, hport, rfl⟩

lemma mem_applyCalls {c : PortCall} (hc : c ∈ applyCalls api static svc slices) :
    ∃ p eps, c = .install svc p eps ∧ p ∈ servedKeys api svc := by
  unfold applyCalls at hc
  unfold servedKeys
  cases hv : serviceToVIP api svc with
  | none => simp [hv] at hc
  | some v =>
    simp only [hv, List.mem_map] at hc ⊢
    obtain ⟨port, hport, rfl⟩ := hc
    exact ⟨_, _, rfl, port, hport, rfl⟩

lemma mem_deleteCalls {c : PortCall} :
    c ∈ deleteCalls api svc ↔ ∃ p ∈ deletedKeys api svc, c = .delete p := by
  simp only [deleteCalls, List.mem_map, eq_comm]

lemma exists_repairCall (static : StaticBackends) {l : LiveLists} {b : Service}
    (ds : List Divergence)
    (hb : (listLive l).svcs.lookup b.key = some b) (hp : p ∈ servedKeys api b) :
    ∃ eps, .install b p eps ∈ repairCalls api static b.key (listLive l) ds := by
  obtain ⟨eps, hc⟩ := exists_applyCall static (((listLive l).slices.lookup b.key).getD []) hp
  refine ⟨eps, List.mem_append_left _ ?_⟩
  rw [hb]
  exact hc

end

end DarwinNet.Proxy
