import DarwinNet.Proxy.Delivery
import Mathlib.Data.String.Basic

/-!
The two views of the Ready backends per Service port and their comparison
(`vipstate.go`): `vipStates` and `backendSets` read the routing table,
`apiBackendSets` derives the same map from Services and EndpointSlices, and
`diffBackendSets` lists exactly the keys on which two such maps differ
(`mem_diffBackendSets`). A table built from Services and slices shows the
backends derived from them (`backend_derivations_agree`).
-/

namespace DarwinNet.Proxy

open Lib Netip Api

/-! ## The table's view -/

structure VIPState where
  clusterIP : String
  port : Int
  protocol : Protocol
  ns : String
  name : String
  policy : String
  backends : List String
  localBackends : Nat
  generation : Nat
  deriving DecidableEq, Repr

def VIPState.key (s : VIPState) : PortKey := ⟨s.clusterIP, s.port, s.protocol⟩

/-- Keys are ordered by ClusterIP (as addresses when both parse), then port, then
protocol. -/
def comparePortKey (a b : PortKey) : Ordering :=
  if a.clusterIP ≠ b.clusterIP then
    match parseAddr a.clusterIP, parseAddr b.clusterIP with
    | some x, some y => (x.compare y).then (compare a.clusterIP b.clusterIP)
    | _, _ => compare a.clusterIP b.clusterIP
  else (compare a.port b.port).then (compare a.protocol.string b.protocol.string)

def RoutingTable.backendStrings (t : RoutingTable) (key : PortKey) : List String :=
  match t.snap.states.lookup key with
  | none => []
  | some st => st.all.map (·.addr.string)

def RoutingTable.vipState (t : RoutingTable) (key : PortKey) (m : KeyMeta) : VIPState where
  clusterIP := key.clusterIP
  port := key.port
  protocol := key.protocol
  ns := m.service.ns
  name := m.service.name
  policy := m.policy.string
  backends := t.backendStrings key
  localBackends := match t.snap.states.lookup key with
    | none => 0
    | some st => st.locals.length
  generation := m.gen

def RoutingTable.vipStates (t : RoutingTable) : List VIPState :=
  (t.metas.entries.map fun e => t.vipState e.1 e.2).insertionSort
    fun a b => comparePortKey a.key b.key ≠ .gt

abbrev BackendSet := List String

def backendSets (states : List VIPState) : GoMap PortKey BackendSet :=
  GoMap.insertAll ∅ (states.map fun s => (s.key, s.backends))

/-! ## The derivation from the API -/

def groupByService (slices : List EndpointSlice) : GoMap ObjectKey (List EndpointSlice) :=
  slices.foldl (fun m sl =>
    if sl.serviceName ≠ "" then m.insert sl.owner ((m.lookup sl.owner).getD [] ++ [sl]) else m) ∅

def normalizeSet (s : BackendSet) : List String := SortedSet.normalize s

section

variable (api : Netv1)

def admittedStrings (eps : List Endpoint) : BackendSet :=
  (eps.filterMap (admitEndpoint api)).map AddrPort.string

def serviceBackendSets (byService : GoMap ObjectKey (List EndpointSlice)) (static : StaticBackends)
    (svc : Service) : List (PortKey × BackendSet) :=
  match serviceToVIP api svc with
  | none => []
  | some v => v.vip.ports.map fun p =>
      (reconcileKey v.vip p, normalizeSet (admittedStrings api
        (backendsForPort static svc.key ((byService.lookup svc.key).getD []) p.name)))

def apiBackendSets (services : List Service) (slices : List EndpointSlice)
    (static : StaticBackends) : GoMap PortKey BackendSet :=
  GoMap.insertAll ∅ (services.flatMap (serviceBackendSets api (groupByService slices) static))

end

/-! ## The comparison -/

structure Divergence where
  key : PortKey
  want : List String
  have_ : List String
  missing : List String
  extra : List String
  deriving DecidableEq, Repr

def setAt (m : GoMap PortKey BackendSet) (key : PortKey) : BackendSet := (m.lookup key).getD []

def visitKey (want have_ : GoMap PortKey BackendSet) (key : PortKey) : Option Divergence :=
  let w := normalizeSet (setAt want key)
  let h := normalizeSet (setAt have_ key)
  if w = h then none
  else some ⟨key, w, h, SortedSet.setMinus w h, SortedSet.setMinus h w⟩

def visitedKeys (want have_ : GoMap PortKey BackendSet) : List PortKey :=
  want.keys ++ have_.keys.filter fun key => (want.lookup key).isNone

def diffBackendSets (want have_ : GoMap PortKey BackendSet) : List Divergence :=
  ((visitedKeys want have_).filterMap (visitKey want have_)).insertionSort
    fun a b => comparePortKey a.key b.key ≠ .gt

/-! ## What the comparison lists -/

section

variable {want have_ : GoMap PortKey BackendSet} {key : PortKey} {d : Divergence}

lemma mem_visitedKeys (h : key ∉ visitedKeys want have_) :
    setAt want key = [] ∧ setAt have_ key = [] := by
  simp only [visitedKeys, List.mem_append, List.mem_filter, not_or, not_and,
    Option.isNone_iff_eq_none, GoMap.mem_keys_iff, not_exists] at h
  have hw : want.lookup key = none := Option.eq_none_iff_forall_ne_some.mpr h.1
  have hh : have_.lookup key = none := by
    by_contra hne
    obtain ⟨v, hv⟩ := Option.ne_none_iff_exists'.mp hne
    exact h.2 ⟨v, hv⟩ hw
  simp [setAt, hw, hh]

lemma nodup_visitedKeys : (visitedKeys want have_).Nodup := by
  refine List.Nodup.append want.keys_nodup (have_.keys_nodup.filter _) ?_
  intro key hw hh
  obtain ⟨v, hv⟩ := GoMap.mem_keys_iff.mp hw
  simp [hv] at hh

lemma visitKey_eq_some :
    visitKey want have_ key = some d ↔ ¬ (∀ x, x ∈ setAt want key ↔ x ∈ setAt have_ key) ∧
        d = ⟨key, normalizeSet (setAt want key), normalizeSet (setAt have_ key),
          SortedSet.setMinus (normalizeSet (setAt want key)) (normalizeSet (setAt have_ key)),
          SortedSet.setMinus (normalizeSet (setAt have_ key)) (normalizeSet (setAt want key))⟩ := by
  simp only [visitKey, normalizeSet, ← SortedSet.normalize_eq_iff]
  split_ifs with h
  · simp [h]
  · simp [h, eq_comm]

lemma visitKey_key (h : visitKey want have_ key = some d) : d.key = key := by
  rw [(visitKey_eq_some.mp h).2]

lemma mem_diffBackendSets :
    d ∈ diffBackendSets want have_ ↔ visitKey want have_ d.key = some d := by
  rw [diffBackendSets, List.mem_insertionSort, List.mem_filterMap]
  constructor
  · rintro ⟨key, -, hd⟩
    rw [visitKey_key hd, hd]
  intro hd
  refine ⟨d.key, ?_, hd⟩
  by_contra hnot
  obtain ⟨hw, hh⟩ := mem_visitedKeys hnot
  exact (visitKey_eq_some.mp hd).1 (by simp [hw, hh])

lemma mem_keys_diffBackendSets : key ∈ (diffBackendSets want have_).map (·.key) ↔
      ¬ ∀ x, x ∈ setAt want key ↔ x ∈ setAt have_ key := by
  rw [List.mem_map]
  constructor
  · rintro ⟨d, hd, rfl⟩
    exact (visitKey_eq_some.mp (mem_diffBackendSets.mp hd)).1
  intro hne
  obtain ⟨d, hd⟩ : ∃ d, visitKey want have_ key = some d :=
    ⟨_, visitKey_eq_some.mpr ⟨hne, rfl⟩⟩
  have hkey := visitKey_key hd
  exact ⟨d, mem_diffBackendSets.mpr (hkey ▸ hd), hkey⟩

lemma diffBackendSets_eq_nil : diffBackendSets want have_ = [] ↔
    ∀ key x, x ∈ setAt want key ↔ x ∈ setAt have_ key := by
  rw [← List.map_eq_nil_iff (f := (·.key)), List.eq_nil_iff_forall_not_mem]
  simp only [mem_keys_diffBackendSets, not_not]

lemma pairwise_normalizeSet (s : BackendSet) : (normalizeSet s).Pairwise (· ≤ ·) :=
  (SortedSet.normalize_strict s).imp le_of_lt

lemma divergence_parts (hd : d ∈ diffBackendSets want have_) (x : String) :
    (x ∈ d.want ↔ x ∈ setAt want d.key) ∧ (x ∈ d.have_ ↔ x ∈ setAt have_ d.key) ∧
      (x ∈ d.missing ↔ x ∈ setAt want d.key ∧ x ∉ setAt have_ d.key) ∧
      (x ∈ d.extra ↔ x ∈ setAt have_ d.key ∧ x ∉ setAt want d.key) := by
  have hparts := (visitKey_eq_some.mp (mem_diffBackendSets.mp hd)).2
  generalize hkey : d.key = key at hparts
  subst hparts
  refine ⟨SortedSet.mem_normalize _ x, SortedSet.mem_normalize _ x, ?_, ?_⟩
  · rw [SortedSet.mem_setMinus _ _ (pairwise_normalizeSet _), normalizeSet, normalizeSet,
      SortedSet.mem_normalize, SortedSet.mem_normalize]
  · rw [SortedSet.mem_setMinus _ _ (pairwise_normalizeSet _), normalizeSet, normalizeSet,
      SortedSet.mem_normalize, SortedSet.mem_normalize]

lemma nodup_keys_diffBackendSets : ((diffBackendSets want have_).map (·.key)).Nodup := by
  have hperm : ((diffBackendSets want have_).map (·.key)).Perm
      (((visitedKeys want have_).filterMap (visitKey want have_)).map (·.key)) :=
    (List.perm_insertionSort _ _).map _
  rw [hperm.nodup_iff, List.map_filterMap]
  refine nodup_visitedKeys.filterMap fun a b key ha hb => ?_
  obtain ⟨d, hd, rfl⟩ := Option.map_eq_some_iff.mp ha
  obtain ⟨e, he, hkey⟩ := Option.map_eq_some_iff.mp hb
  rw [← visitKey_key hd, ← visitKey_key he, hkey]

end

/-! ## The two views of one set of Services -/

lemma lookup_groupByService (slices : List EndpointSlice) (k : ObjectKey) :
    ((groupByService slices).lookup k).getD [] =
      slices.filter fun sl => sl.serviceName ≠ "" ∧ sl.owner = k := by
  suffices h : ∀ m : GoMap ObjectKey (List EndpointSlice),
      ((slices.foldl (fun m sl => if sl.serviceName ≠ "" then
          m.insert sl.owner ((m.lookup sl.owner).getD [] ++ [sl]) else m) m).lookup k).getD [] =
        (m.lookup k).getD [] ++ slices.filter fun sl => sl.serviceName ≠ "" ∧ sl.owner = k from
    h ∅
  induction slices with
  | nil => simp
  | cons sl slices ih =>
    intro m
    rw [List.foldl_cons, ih]
    by_cases hname : sl.serviceName = ""
    · simp [hname]
    by_cases hk : sl.owner = k
    · subst hk
      simp [hname]
    · simp [hname, hk, AList.lookup_insert_ne (Ne.symm hk)]

lemma groupByService_eq_slicesForService (slices : List EndpointSlice) (svc : Service) :
    ((groupByService slices).lookup svc.key).getD [] = slicesForService slices svc.key := by
  rw [lookup_groupByService, slicesForService]
  refine List.filter_congr fun sl _ => ?_
  have hnamed := svc.named
  simp only [EndpointSlice.owner, ObjectKey.ext_iff, decide_eq_decide]
  constructor
  · rintro ⟨-, h⟩
    exact h
  · intro h
    exact ⟨h.2 ▸ hnamed, h⟩

lemma lookup_backendSets (t : RoutingTable) (key : PortKey) : (backendSets t.vipStates).lookup key =
      (t.metas.lookup key).map fun _ => t.backendStrings key := by
  have hperm : (t.vipStates.map fun s => (s.key, s.backends)).Perm
      (t.metas.entries.map fun e => (e.1, t.backendStrings e.1)) := by
    have := (List.perm_insertionSort (fun a b => comparePortKey a.key b.key ≠ .gt)
      (t.metas.entries.map fun e => t.vipState e.1 e.2)).map fun s => (s.key, s.backends)
    rwa [List.map_map] at this
  have hnodup : ((t.vipStates.map fun s => (s.key, s.backends)).map Prod.fst).Nodup := by
    rw [(hperm.map Prod.fst).nodup_iff, List.map_map]
    exact t.metas.keys_nodup
  rw [backendSets, GoMap.lookup_insertAll, AList.lookup_empty, Option.or_none]
  ext v
  rw [GoMap.lastWrite_eq_some_iff hnodup, hperm.mem_iff, List.mem_map, Option.map_eq_some_iff]
  constructor
  · rintro ⟨e, he, heq⟩
    cases heq
    exact ⟨e.2, GoMap.lookup_of_mem_entries he, rfl⟩
  · rintro ⟨m, hm, rfl⟩
    exact ⟨⟨key, m⟩, GoMap.mem_entries_of_lookup hm, rfl⟩

lemma setAt_backendSets (t : RoutingTable) (key : PortKey) : setAt (backendSets t.vipStates) key =
      if (t.metas.lookup key).isSome then t.backendStrings key else [] := by
  rw [setAt, lookup_backendSets]
  cases t.metas.lookup key <;> rfl

lemma mem_keys_vipStates (t : RoutingTable) (key : PortKey) :
    key ∈ t.vipStates.map (·.key) ↔ (t.metas.lookup key).isSome := by
  have hperm : (t.vipStates.map (·.key)).Perm (t.metas.entries.map Sigma.fst) := by
    have := (List.perm_insertionSort (fun a b => comparePortKey a.key b.key ≠ .gt)
      (t.metas.entries.map fun e => t.vipState e.1 e.2)).map VIPState.key
    rwa [List.map_map] at this
  rw [hperm.mem_iff, AList.lookup_isSome]
  rfl

section

variable (api : Netv1) {t : RoutingTable} {key : PortKey}

lemma mem_admittedStrings_readyBackends (cfg : TableConfig) (eps : List Endpoint) (x : String) :
    x ∈ (readyBackends api cfg eps).map (·.addr.string) ↔ x ∈ admittedStrings api eps := by
  simp only [readyBackends, admittedStrings, List.mem_map, List.mem_insertionSort]
  constructor
  · rintro ⟨_, ⟨ap, hap, rfl⟩, rfl⟩
    exact ⟨ap, hap, rfl⟩
  · rintro ⟨ap, hap, rfl⟩
    exact ⟨_, ⟨ap, hap, rfl⟩, rfl⟩

lemma mem_setAt_of_holds_install {svc : ObjectKey} {policy : TrafficPolicy} {aff : AffinityConfig}
    {eps : List Endpoint} (h : t.Holds api key (.install svc policy aff eps)) (x : String) :
    x ∈ setAt (backendSets t.vipStates) key ↔ x ∈ admittedStrings api eps := by
  obtain ⟨⟨m, hm, -⟩, hst⟩ := h
  rw [setAt_backendSets, hm, Option.isSome_some, if_pos rfl, RoutingTable.backendStrings,
    ← mem_admittedStrings_readyBackends api t.cfg]
  split_ifs at hst with hready
  · rw [Option.map_eq_none_iff] at hst
    simp [hst, hready]
  · obtain ⟨st, hlook, hfields⟩ := Option.map_eq_some_iff.mp hst
    rw [hlook, ← (Prod.mk.inj hfields).1]

lemma setAt_of_holds_absent (h : t.Holds api key .absent) :
    setAt (backendSets t.vipStates) key = [] := by
  rw [setAt_backendSets, h.1]
  rfl

end

/-! ### Installing a list of Services -/

section

variable (api : Netv1) (static : StaticBackends) (slices : List EndpointSlice)

def applyServices (p : ProxyState) (services : List Service) : ProxyState :=
  services.foldl (fun p svc => applyService api static p svc (slicesForService slices svc.key)) p

def servicesDeliveries (exemptVIPs : Finset Addr) (services : List Service) :
    List (PortKey × Desired) :=
  services.flatMap fun svc =>
    serviceDeliveries api static exemptVIPs svc (slicesForService slices svc.key)

lemma applyServices_eq (p : ProxyState) (services : List Service) :
    applyServices api static slices p services =
      p.deliverAll api (servicesDeliveries api static slices p.exemptVIPs services) := by
  induction services generalizing p with
  | nil => rfl
  | cons svc services ih =>
    have hcons : applyServices api static slices p (svc :: services) =
        applyServices api static slices
          (applyService api static p svc (slicesForService slices svc.key)) services := rfl
    rw [hcons, ih, applyService_eq, ProxyState.deliverAll_exemptVIPs]
    exact List.foldl_append.symm

/-- The proxy takes the ports of `svc`, if the Service is served at all. -/
def OwnsService (exemptVIPs : Finset Addr) (svc : Service) : Prop :=
  ∀ v, serviceToVIP api svc = some v → ownsVIP exemptVIPs v.vip.clusterIP = true

instance (exemptVIPs : Finset Addr) (svc : Service) : Decidable (OwnsService api exemptVIPs svc) :=
  match h : serviceToVIP api svc with
  | none => isTrue fun v hv => by rw [h] at hv; cases hv
  | some v =>
    if ho : ownsVIP exemptVIPs v.vip.clusterIP = true then
      isTrue fun v' hv => by rw [h] at hv; cases hv; exact ho
    else isFalse fun hall => ho (hall v h)

variable {api static slices} {exemptVIPs : Finset Addr} {svc : Service}

lemma keys_serviceDeliveries (how : OwnsService api exemptVIPs svc) (sls : List EndpointSlice) :
    (serviceDeliveries api static exemptVIPs svc sls).map Prod.fst = servedKeys api svc := by
  unfold serviceDeliveries servedKeys
  cases h : serviceToVIP api svc with
  | none => rfl
  | some v => simp [how v h]

lemma keys_serviceBackendSets (byService : GoMap ObjectKey (List EndpointSlice)) :
    (serviceBackendSets api byService static svc).map Prod.fst = servedKeys api svc := by
  unfold serviceBackendSets servedKeys
  cases serviceToVIP api svc with
  | none => rfl
  | some v => simp

lemma exists_delivery (how : OwnsService api exemptVIPs svc) {key : PortKey} {set : BackendSet}
    (h : (key, set) ∈ serviceBackendSets api (groupByService slices) static svc) :
    ∃ policy aff eps, set = normalizeSet (admittedStrings api eps) ∧
      (key, Desired.install svc.key policy aff eps) ∈
        serviceDeliveries api static exemptVIPs svc (slicesForService slices svc.key) := by
  unfold serviceBackendSets at h
  unfold serviceDeliveries
  cases hv : serviceToVIP api svc with
  | none => simp [hv] at h
  | some v =>
    simp only [hv, List.mem_map, Prod.mk.injEq] at h
    obtain ⟨port, hport, rfl, rfl⟩ := h
    refine ⟨v.policy, v.affinity, _, rfl, ?_⟩
    simp only [how v hv, if_true, List.mem_map]
    refine ⟨port, hport, ?_⟩
    rw [groupByService_eq_slicesForService]
    rfl

lemma map_fst_flatMap {α β γ : Type} (l : List α) (f : α → List (β × γ)) (g : α → List β)
    (h : ∀ a ∈ l, (f a).map Prod.fst = g a) : (l.flatMap f).map Prod.fst = l.flatMap g := by
  rw [List.map_flatMap]
  exact List.flatMap_congr h

end

section

variable {api : Netv1} {static : StaticBackends} {slices : List EndpointSlice}
  {exemptVIPs : Finset Addr} {services installed : List Service}

lemma perm_keys_servicesDeliveries (hperm : installed.Perm services)
    (howned : ∀ svc ∈ services, OwnsService api exemptVIPs svc) :
    ((servicesDeliveries api static slices exemptVIPs installed).map Prod.fst).Perm
      (services.flatMap (servedKeys api)) := by
  rw [servicesDeliveries, map_fst_flatMap _ _ (servedKeys api) fun svc hsvc =>
    keys_serviceDeliveries (howned svc (hperm.subset hsvc)) _]
  exact hperm.flatMap_right _

lemma mem_setAt_applyServices (cfg : TableConfig) (hperm : installed.Perm services)
    (hkeys : (services.flatMap (servedKeys api)).Nodup)
    (howned : ∀ svc ∈ services, OwnsService api exemptVIPs svc) (key : PortKey) (x : String) :
    x ∈ setAt (apiBackendSets api services slices static) key ↔
      x ∈ setAt (backendSets (applyServices api static slices (newProxy exemptVIPs cfg)
        installed).table.vipStates) key := by
  set D := servicesDeliveries api static slices exemptVIPs installed
  set W := services.flatMap (serviceBackendSets api (groupByService slices) static)
  have hWkeys : W.map Prod.fst = services.flatMap (servedKeys api) :=
    map_fst_flatMap _ _ _ fun svc _ => keys_serviceBackendSets _
  have hDperm : (D.map Prod.fst).Perm (W.map Prod.fst) :=
    hWkeys ▸ perm_keys_servicesDeliveries hperm howned
  have htable : applyServices api static slices (newProxy exemptVIPs cfg) installed =
      (newProxy exemptVIPs cfg).deliverAll api D := applyServices_eq api static slices _ _
  have hwant : setAt (apiBackendSets api services slices static) key =
      (GoMap.lastWrite key W).getD [] := by
    rw [setAt, apiBackendSets, GoMap.lookup_insertAll, AList.lookup_empty, Option.or_none]
  rw [htable, hwant]
  cases hlast : GoMap.lastWrite key W with
  | none =>
    -- no Service has the key: nothing is delivered for it either
    have hDnone : GoMap.lastWrite key D = none := by
      rw [GoMap.lastWrite_eq_none_iff] at hlast ⊢
      rwa [hDperm.mem_iff]
    have hnew : (newProxy exemptVIPs cfg).table.Holds api key .absent := ⟨rfl, rfl⟩
    rw [setAt_of_holds_absent api (ProxyState.holds_deliverAll_other api hDnone hnew),
      Option.getD_none]
  | some set =>
    obtain ⟨svc, hsvc, hmem⟩ := List.mem_flatMap.mp (GoMap.mem_of_lastWrite hlast)
    obtain ⟨policy, aff, eps, rfl, hdel⟩ := exists_delivery (howned svc hsvc) hmem
    have hDnodup : (D.map Prod.fst).Nodup := hDperm.nodup_iff.mpr (hWkeys ▸ hkeys)
    have hDlast : GoMap.lastWrite key D = some (.install svc.key policy aff eps) :=
      (GoMap.lastWrite_eq_some_iff hDnodup).mpr
        (List.mem_flatMap.mpr ⟨svc, hperm.mem_iff.mpr hsvc, hdel⟩)
    rw [mem_setAt_of_holds_install api (ProxyState.holds_deliverAll_last api hDlast),
      Option.getD_some]
    exact SortedSet.mem_normalize _ x

end

/-- The backends the table shows are those derived from the Services and slices it was built from,
and `diffBackendSets` reports exactly the keys on which two views differ, each once, with what is
missing and what is extra. -/
theorem backend_derivations_agree (api : Netv1) (static : StaticBackends)
    (slices : List EndpointSlice) (exemptVIPs : Finset Addr) (cfg : TableConfig)
    (services installed : List Service) (hperm : installed.Perm services)
    (hkeys : (services.flatMap (servedKeys api)).Nodup)
    (howned : ∀ svc ∈ services, OwnsService api exemptVIPs svc) :
    diffBackendSets (apiBackendSets api services slices static)
        (backendSets (applyServices api static slices (newProxy exemptVIPs cfg)
          installed).table.vipStates) = [] ∧
      ∀ want have_ : GoMap PortKey BackendSet,
        (∀ key, key ∈ (diffBackendSets want have_).map (·.key) ↔
          ¬ ∀ x, x ∈ setAt want key ↔ x ∈ setAt have_ key) ∧
        ((diffBackendSets want have_).map (·.key)).Nodup ∧
        ∀ d ∈ diffBackendSets want have_, ∀ x,
          (x ∈ d.missing ↔ x ∈ setAt want d.key ∧ x ∉ setAt have_ d.key) ∧
          (x ∈ d.extra ↔ x ∈ setAt have_ d.key ∧ x ∉ setAt want d.key) := by
  refine ⟨?_, fun want have_ => ⟨fun _ => mem_keys_diffBackendSets, nodup_keys_diffBackendSets,
    fun d hd x => (divergence_parts hd x).2.2⟩⟩
  rw [diffBackendSets_eq_nil]
  exact mem_setAt_applyServices cfg hperm hkeys howned

lemma web_named : (⟨"default", "web"⟩ : ObjectKey).name ≠ "" := by decide

lemma db_named : (⟨"default", "db"⟩ : ObjectKey).name ≠ "" := by decide

def sampleServices : List Service :=
  [⟨⟨"default", "web"⟩, web_named, "1", .tcp "10.43.0.10" [80, 443]⟩,
    ⟨⟨"default", "db"⟩, db_named, "1", .tcp "10.43.0.11" [5432]⟩]

theorem backend_derivations_agree_sampleServices :
    diffBackendSets (apiBackendSets Netv1.standard sampleServices
        [.single ⟨"default", "web-1"⟩ ⟨"default", "web"⟩ "80" 8080 "10.42.0.5"] ∅)
      (backendSets (applyServices Netv1.standard ∅
        [.single ⟨"default", "web-1"⟩ ⟨"default", "web"⟩ "80" 8080 "10.42.0.5"]
        (newProxy ∅ (defaultConfig .zero)) sampleServices.reverse).table.vipStates) = [] :=
  (backend_derivations_agree Netv1.standard ∅ _ ∅ (defaultConfig .zero) sampleServices _
    sampleServices.reverse_perm (by decide) (by decide)).1

end DarwinNet.Proxy
