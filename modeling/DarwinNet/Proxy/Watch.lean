import DarwinNet.Proxy.VipState
import DarwinNet.Lib.Machine

/-!
The watch path (`watch.go`) with its handlers run one at a time: an event updates
a store, its handler recomputes the Service it names and delivers, and the port
workers apply what was delivered before the next event.

A handler does not see the ports the Service had before an update, nor the Service a
slice belonged to before it was labelled for another, so the table follows the stores
in the runs whose updates lose neither (`KeepsServed`): `watch_converges`. Outside
them it does not (`watch_leaves_stale`).
-/

namespace DarwinNet.Proxy

open Lib Netip Api

/-- The informer stores, each object under its own key, and the proxy. -/
structure WatchState where
  services : GoMap ObjectKey Service
  slices : GoMap ObjectKey EndpointSlice
  proxy : ProxyState
  service_key : ∀ k svc, services.lookup k = some svc → svc.key = k
  slice_key : ∀ k sl, slices.lookup k = some sl → sl.key = k

section

variable {V : Type} {m : GoMap ObjectKey V} {key : V → ObjectKey}

lemma keyed_empty : ∀ k v, (∅ : GoMap ObjectKey V).lookup k = some v → key v = k := by
  simp

lemma keyed_insert (h : ∀ k v, m.lookup k = some v → key v = k) {k : ObjectKey} {v : V}
    (hv : key v = k) : ∀ k' v', (m.insert k v).lookup k' = some v' → key v' = k' := by
  intro k' v' hl
  rw [GoMap.lookup_insert_ite] at hl
  split_ifs at hl with hk
  · cases hl
    exact hv.trans hk.symm
  · exact h k' v' hl

lemma keyed_erase (h : ∀ k v, m.lookup k = some v → key v = k) (k : ObjectKey) :
    ∀ k' v', (m.erase k).lookup k' = some v' → key v' = k' := by
  intro k' v' hl
  rw [GoMap.lookup_erase_ite] at hl
  split_ifs at hl
  exact h k' v' hl

end

def storeList {K V : Type} (m : GoMap K V) : List V := m.entries.map Sigma.snd

lemma mem_storeList {K V : Type} [DecidableEq K] {m : GoMap K V} {v : V} :
    v ∈ storeList m ↔ ∃ k, m.lookup k = some v := by
  rw [storeList, List.mem_map]
  constructor
  · rintro ⟨e, he, rfl⟩
    exact ⟨e.1, GoMap.lookup_of_mem_entries he⟩
  · rintro ⟨k, hk⟩
    exact ⟨⟨k, v⟩, GoMap.mem_entries_of_lookup hk, rfl⟩

/-- What the API server guarantees of the Services alive at one time: a served
Service has a ClusterIP of its own, which the proxy owns. -/
def Admissible (api : Netv1) (exemptVIPs : Finset Addr) (services : List Service) : Prop :=
  (∀ a ∈ services, OwnsService api exemptVIPs a) ∧
    ∀ a ∈ services, ∀ b ∈ services, (serviceToVIP api a).isSome → (serviceToVIP api b).isSome →
      a.spec.clusterIP = b.spec.clusterIP → a.key = b.key

instance (api : Netv1) (exemptVIPs : Finset Addr) (services : List Service) :
    Decidable (Admissible api exemptVIPs services) :=
  inferInstanceAs (Decidable ((∀ a ∈ services, OwnsService api exemptVIPs a) ∧
    ∀ a ∈ services, ∀ b ∈ services, (serviceToVIP api a).isSome → (serviceToVIP api b).isSome →
      a.spec.clusterIP = b.spec.clusterIP → a.key = b.key))

inductive WatchEvent
  | setService (svc : Service)
  | deleteService (key : ObjectKey)
  | setSlice (sl : EndpointSlice)
  | deleteSlice (key : ObjectKey)

section

variable (api : Netv1) (static : StaticBackends)

namespace WatchState

def reconcileService (w : WatchState) (svc : Service) : WatchState :=
  let slices := slicesForService (storeList w.slices) svc.key
  { w with proxy := applyService api static w.proxy svc slices }

def onService (w : WatchState) (svc : Service) : WatchState := w.reconcileService api static svc

def onServiceDelete (w : WatchState) (svc : Service) : WatchState :=
  { w with proxy := deleteServicePorts api w.proxy svc }

def onSlice (w : WatchState) (sl : EndpointSlice) : WatchState :=
  if sl.serviceName = "" then w
  else match w.services.lookup sl.owner with
    | none => w
    | some svc => w.reconcileService api static svc

def putService (w : WatchState) (svc : Service) : WatchState :=
  { w with
    services := w.services.insert svc.key svc
    service_key := keyed_insert w.service_key rfl }

def dropService (w : WatchState) (key : ObjectKey) : WatchState :=
  { w with
    services := w.services.erase key
    service_key := keyed_erase w.service_key key }

def putSlice (w : WatchState) (sl : EndpointSlice) : WatchState :=
  { w with
    slices := w.slices.insert sl.key sl
    slice_key := keyed_insert w.slice_key rfl }

def dropSlice (w : WatchState) (key : ObjectKey) : WatchState :=
  { w with
    slices := w.slices.erase key
    slice_key := keyed_erase w.slice_key key }

/-- The store is written first, then the handler runs on the object of the event;
a deletion carries the last object the store held. -/
def handle (w : WatchState) : WatchEvent → Option WatchState
  | .setService svc => some ((w.putService svc).onService api static svc)
  | .deleteService key =>
    (w.services.lookup key).map fun old => (w.dropService key).onServiceDelete api old
  | .setSlice sl => some ((w.putSlice sl).onSlice api static sl)
  | .deleteSlice key =>
    (w.slices.lookup key).map fun old => (w.dropSlice key).onSlice api static old

def step (w : WatchState) (ev : WatchEvent) : Option WatchState :=
  (w.handle api static ev).filter fun w' =>
    Admissible api w'.proxy.exemptVIPs (storeList w'.services)

end WatchState

def watchMachine (exemptVIPs : Finset Addr) (cfg : TableConfig) :
    Machine WatchState WatchEvent where
  init w := w = ⟨∅, ∅, newProxy exemptVIPs cfg, keyed_empty, keyed_empty⟩
  step w ev := w.step api static ev

/-- The table shows exactly the stores: the keys installed are those the stored
Services serve, and each shows the backends derived from the stores. -/
def WatchState.Converged (w : WatchState) : Prop :=
  (∀ key, key ∈ w.proxy.table.vipStates.map (·.key) ↔
    ∃ svc ∈ storeList w.services, key ∈ servedKeys api svc) ∧
  ∀ key x, x ∈ setAt (backendSets w.proxy.table.vipStates) key ↔
    x ∈ setAt (apiBackendSets api (storeList w.services) (storeList w.slices) static) key

/-- The condition on an event: a Service update serves every key the Service
served before, and a slice update leaves no stored Service behind that the slice
was labelled for. -/
def KeepsServed (w : WatchState) : WatchEvent → Prop
  | .setService svc => ∀ old, w.services.lookup svc.key = some old →
      ∀ key ∈ servedKeys api old, key ∈ servedKeys api svc
  | .setSlice sl => ∀ old, w.slices.lookup sl.key = some old →
      old.serviceName = sl.serviceName ∨ w.services.lookup old.owner = none
  | _ => True

end

section

variable (api : Netv1) (static : StaticBackends)

def WatchState.ownDeliveries (w : WatchState) (svc : Service) : List (PortKey × Desired) :=
  serviceDeliveries api static w.proxy.exemptVIPs svc
    (slicesForService (storeList w.slices) svc.key)

/-- The table holds what the last deliveries of the stored Services asked for, and no more. -/
structure InSync (w : WatchState) : Prop where
  admissible : Admissible api w.proxy.exemptVIPs (storeList w.services)
  served : ∀ svc ∈ storeList w.services, ∀ key d,
    GoMap.lastWrite key (w.ownDeliveries api static svc) = some d → w.proxy.table.Holds api key d
  unserved : ∀ key, (∀ svc ∈ storeList w.services, key ∉ servedKeys api svc) →
    w.proxy.table.Holds api key .absent

variable {api static}

lemma lastWrite_serviceDeliveries_eq_none {exemptVIPs : Finset Addr} {svc : Service}
    (how : OwnsService api exemptVIPs svc) {sls : List EndpointSlice} {key : PortKey} :
    GoMap.lastWrite key (serviceDeliveries api static exemptVIPs svc sls) = none ↔
      key ∉ servedKeys api svc := by
  rw [GoMap.lastWrite_eq_none_iff, keys_serviceDeliveries how]

lemma mem_servedKeys_of_lastWrite {exemptVIPs : Finset Addr} {svc : Service}
    (how : OwnsService api exemptVIPs svc) {sls : List EndpointSlice} {key : PortKey} {d : Desired}
    (h : GoMap.lastWrite key (serviceDeliveries api static exemptVIPs svc sls) = some d) :
    key ∈ servedKeys api svc := by
  by_contra hnot
  rw [(lastWrite_serviceDeliveries_eq_none how).mpr hnot] at h
  cases h

section

variable {w : WatchState}

lemma WatchState.mem_services {svc : Service} :
    svc ∈ storeList w.services ↔ w.services.lookup svc.key = some svc := by
  rw [mem_storeList]
  constructor
  · rintro ⟨k, hk⟩
    rwa [w.service_key k svc hk]
  · exact fun h => ⟨svc.key, h⟩

lemma WatchState.eq_of_mem_servedKeys (hapi : api.Lawful)
    (hadm : Admissible api w.proxy.exemptVIPs (storeList w.services)) {a b : Service}
    (ha : a ∈ storeList w.services) (hb : b ∈ storeList w.services) {key : PortKey}
    (hka : key ∈ servedKeys api a) (hkb : key ∈ servedKeys api b) : a = b := by
  have served : ∀ {c : Service}, key ∈ servedKeys api c → (serviceToVIP api c).isSome := by
    intro c hc
    unfold servedKeys at hc
    cases h : serviceToVIP api c with
    | none => simp [h] at hc
    | some v => rfl
  have hip : a.spec.clusterIP = b.spec.clusterIP :=
    (clusterIP_of_mem_servedKeys api hapi hka).symm.trans
      (clusterIP_of_mem_servedKeys api hapi hkb)
  have hkey := hadm.2 a ha b hb (served hka) (served hkb) hip
  have hla := mem_services.mp ha
  rw [hkey, mem_services.mp hb] at hla
  exact (Option.some.inj hla).symm

lemma inSync_reconcileService (hapi : api.Lawful)
    (hadm : Admissible api w.proxy.exemptVIPs (storeList w.services)) {svc : Service}
    (hsvc : svc ∈ storeList w.services) (hothers : ∀ b ∈ storeList w.services, b ≠ svc → ∀ key d,
      GoMap.lastWrite key (w.ownDeliveries api static b) = some d → w.proxy.table.Holds api key d)
    (hunserved : ∀ key, (∀ b ∈ storeList w.services, key ∉ servedKeys api b) →
      w.proxy.table.Holds api key .absent) :
    InSync api static (w.reconcileService api static svc) := by
  have hproxy : (w.reconcileService api static svc).proxy =
      w.proxy.deliverAll api (w.ownDeliveries api static svc) := applyService_eq api static _ _ _
  have hexempt : (w.reconcileService api static svc).proxy.exemptVIPs = w.proxy.exemptVIPs := by
    rw [hproxy, ProxyState.deliverAll_exemptVIPs]
  have hown : ∀ b, (w.reconcileService api static svc).ownDeliveries api static b =
      w.ownDeliveries api static b := fun b => by
    rw [WatchState.ownDeliveries, hexempt]
    rfl
  have hnone : ∀ {key}, key ∉ servedKeys api svc →
      GoMap.lastWrite key (w.ownDeliveries api static svc) = none :=
    (lastWrite_serviceDeliveries_eq_none (hadm.1 svc hsvc)).mpr
  refine ⟨by rw [hexempt]; exact hadm, fun b hb key d hd => ?_, fun key hkey => ?_⟩
  · rw [hown] at hd
    rw [hproxy]
    by_cases hbs : b = svc
    · subst hbs
      exact ProxyState.holds_deliverAll_last api hd
    -- the keys of `b` are not touched
    have hkb : key ∈ servedKeys api b := mem_servedKeys_of_lastWrite (hadm.1 b hb) hd
    refine ProxyState.holds_deliverAll_other api (hnone fun hk => hbs ?_)
      (hothers b hb hbs key d hd)
    exact WatchState.eq_of_mem_servedKeys hapi hadm hb hsvc hkb hk
  · rw [hproxy]
    exact ProxyState.holds_deliverAll_other api (hnone (hkey svc hsvc)) (hunserved key hkey)

end

/-! ### Slices of the other Services -/

section

variable {m : GoMap ObjectKey EndpointSlice} {key : ObjectKey}

lemma owner_eq_iff (sl : EndpointSlice) :
    (sl.key.ns = key.ns ∧ sl.serviceName = key.name) ↔ sl.owner = key := by
  rw [EndpointSlice.owner, ObjectKey.ext_iff]

lemma slicesForService_erase {k : ObjectKey}
    (hold : ∀ old, m.lookup k = some old → old.owner ≠ key) :
    slicesForService (storeList (m.erase k)) key = slicesForService (storeList m) key := by
  cases hl : m.lookup k with
  | none => rw [GoMap.erase_of_lookup_none hl]
  | some old =>
    have hk : k ∈ m.entries.keys := AList.mem_keys.mp (AList.lookup_isSome.mp (by rw [hl]; rfl))
    obtain ⟨b, l₁, l₂, -, hm, he⟩ := List.exists_of_kerase hk
    have hb : m.lookup k = some b := GoMap.lookup_of_mem_entries (e := ⟨k, b⟩) (by rw [hm]; simp)
    have hke : (m.erase k).entries = l₁ ++ l₂ := he
    simp [slicesForService, storeList, hke, hm, owner_eq_iff, hold b hb]

lemma slicesForService_insert {sl : EndpointSlice} (hsl : sl.owner ≠ key)
    (hold : ∀ old, m.lookup sl.key = some old → old.owner ≠ key) :
    slicesForService (storeList (m.insert sl.key sl)) key = slicesForService (storeList m) key := by
  rw [← slicesForService_erase hold]
  simp [slicesForService, storeList, AList.entries_insert, GoMap.entries_erase, owner_eq_iff, hsl]

end

/-! ### Events -/

section

variable {w : WatchState}

lemma InSync.of_slices (h : InSync api static w) {w' : WatchState}
    (hservices : w'.services = w.services) (hproxy : w'.proxy = w.proxy)
    (hslices : ∀ svc ∈ storeList w.services, slicesForService (storeList w'.slices) svc.key =
        slicesForService (storeList w.slices) svc.key) : InSync api static w' := by
  refine ⟨by rw [hservices, hproxy]; exact h.admissible, fun svc hsvc key d hd => ?_, ?_⟩
  · rw [hservices] at hsvc
    rw [WatchState.ownDeliveries, hproxy, hslices svc hsvc] at hd
    rw [hproxy]
    exact h.served svc hsvc key d hd
  · rw [hservices, hproxy]
    exact h.unserved

lemma inSync_onSlice (hapi : api.Lawful) (h : InSync api static w) (w' : WatchState)
    (hservices : w'.services = w.services) (hproxy : w'.proxy = w.proxy) (sl : EndpointSlice)
    (hslices : ∀ svc ∈ storeList w.services, svc.key ≠ sl.owner →
      slicesForService (storeList w'.slices) svc.key =
        slicesForService (storeList w.slices) svc.key) :
    InSync api static (w'.onSlice api static sl) := by
  unfold WatchState.onSlice
  split_ifs with hname
  · refine h.of_slices hservices hproxy fun svc hsvc => hslices svc hsvc fun heq => ?_
    exact svc.named (by rw [heq]; exact hname)
  cases hl : w'.services.lookup sl.owner with
  | none =>
    refine h.of_slices hservices hproxy fun svc hsvc => hslices svc hsvc fun heq => ?_
    rw [hservices, ← heq, WatchState.mem_services.mp hsvc] at hl
    cases hl
  | some svc =>
    have hkey := w'.service_key _ _ hl
    have hstore : svc ∈ storeList w'.services := mem_storeList.mpr ⟨_, hl⟩
    refine inSync_reconcileService hapi (by rw [hservices, hproxy]; exact h.admissible) hstore
      (fun b hb hbs key d hd => ?_) ?_
    · have hne : b.key ≠ sl.owner := by
        intro heq
        have hb' := WatchState.mem_services.mp hb
        rw [heq, hl] at hb'
        exact hbs (Option.some.inj hb').symm
      rw [hservices] at hb
      rw [WatchState.ownDeliveries, hproxy, hslices b hb hne] at hd
      rw [hproxy]
      exact h.served b hb key d hd
    · rw [hservices, hproxy]
      exact h.unserved

lemma inSync_setService (hapi : api.Lawful) (h : InSync api static w) {svc : Service}
    (hok : KeepsServed api w (.setService svc))
    (hadm : Admissible api w.proxy.exemptVIPs (storeList (w.putService svc).services)) :
    InSync api static ((w.putService svc).onService api static svc) := by
  have hlookup : ∀ k, (w.putService svc).services.lookup k =
      if k = svc.key then some svc else w.services.lookup k :=
    fun k => GoMap.lookup_insert_ite w.services svc.key k svc
  have hstore : svc ∈ storeList (w.putService svc).services :=
    mem_storeList.mpr ⟨svc.key, by rw [hlookup, if_pos rfl]⟩
  have hother : ∀ b, b ∈ storeList (w.putService svc).services → b ≠ svc →
      b ∈ storeList w.services := by
    intro b hb hbs
    rw [WatchState.mem_services, hlookup] at hb
    split_ifs at hb with hk
    · exact absurd (Option.some.inj hb).symm hbs
    · exact WatchState.mem_services.mpr hb
  refine inSync_reconcileService hapi hadm hstore
    (fun b hb hbs key d hd => h.served b (hother b hb hbs) key d hd) fun key hkey => ?_
  refine h.unserved key fun b hb hkb => ?_
  by_cases hk : b.key = svc.key
  · -- the replaced object: the new one serves the key as well
    have hold := WatchState.mem_services.mp hb
    rw [hk] at hold
    exact hkey svc hstore (hok b hold key hkb)
  · refine hkey b (WatchState.mem_services.mpr ?_) hkb
    rw [hlookup, if_neg hk]
    exact WatchState.mem_services.mp hb

lemma inSync_deleteService (hapi : api.Lawful) (h : InSync api static w) {key : ObjectKey}
    {old : Service} (hold : w.services.lookup key = some old)
    (hadm : Admissible api w.proxy.exemptVIPs (storeList (w.dropService key).services)) :
    InSync api static ((w.dropService key).onServiceDelete api old) := by
  have hproxy : ((w.dropService key).onServiceDelete api old).proxy =
      w.proxy.deliverAll api ((servedKeys api old).map fun k => (k, .absent)) := by
    rw [← deletedKeys_eq api hapi]
    exact deleteServicePorts_eq api w.proxy old
  have hexempt : ((w.dropService key).onServiceDelete api old).proxy.exemptVIPs =
      w.proxy.exemptVIPs := by rw [hproxy, ProxyState.deliverAll_exemptVIPs]
  have holdMem : old ∈ storeList w.services := mem_storeList.mpr ⟨key, hold⟩
  have hmem : ∀ {b}, b ∈ storeList (w.dropService key).services ↔
      b ∈ storeList w.services ∧ b ≠ old := by
    intro b
    rw [WatchState.mem_services, WatchState.mem_services]
    change (w.services.erase key).lookup b.key = some b ↔ _
    rw [GoMap.lookup_erase_ite]
    split_ifs with hk
    · rw [hk, hold]
      simp [eq_comm]
    · refine ⟨fun hb => ⟨hb, fun heq => hk ?_⟩, And.left⟩
      rw [heq]
      exact w.service_key key old hold
  have hlast : ∀ k : PortKey, GoMap.lastWrite k ((servedKeys api old).map fun k =>
      (k, Desired.absent)) = if k ∈ servedKeys api old then some .absent else none :=
    fun k => GoMap.lastWrite_const k _ _
  refine ⟨by rw [hexempt]; exact hadm, fun b hb k d hd => ?_, fun k hk => ?_⟩
  · have hb' := hmem.mp hb
    rw [WatchState.ownDeliveries, hexempt] at hd
    rw [hproxy]
    have hkb : k ∈ servedKeys api b := mem_servedKeys_of_lastWrite (h.admissible.1 b hb'.1) hd
    refine ProxyState.holds_deliverAll_other api ?_ (h.served b hb'.1 k d hd)
    rw [hlast, if_neg fun hko => hb'.2 ?_]
    exact WatchState.eq_of_mem_servedKeys hapi h.admissible hb'.1 holdMem hkb hko
  · rw [hproxy]
    by_cases hko : k ∈ servedKeys api old
    · exact ProxyState.holds_deliverAll_last api (by rw [hlast, if_pos hko])
    refine ProxyState.holds_deliverAll_other api (by rw [hlast, if_neg hko])
      (h.unserved k fun b hb hkb => ?_)
    by_cases hbo : b = old
    · exact hko (hbo ▸ hkb)
    · exact hk b (hmem.mpr ⟨hb, hbo⟩) hkb

/-- An event that loses nothing served keeps the table in sync. -/
lemma inSync_step (hapi : api.Lawful) (h : InSync api static w) {ev : WatchEvent}
    {w' : WatchState} (hok : KeepsServed api w ev) (hst : w.step api static ev = some w') :
    InSync api static w' := by
  obtain ⟨hhandle, hadm⟩ := Option.filter_eq_some_iff.mp hst
  rw [decide_eq_true_eq] at hadm
  cases ev with
  | setService svc =>
    cases hhandle
    refine inSync_setService hapi h hok ?_
    have hexempt : ((w.putService svc).onService api static svc).proxy.exemptVIPs =
        w.proxy.exemptVIPs := by
      simp only [WatchState.onService, WatchState.reconcileService, applyService_eq,
        ProxyState.deliverAll_exemptVIPs]
      rfl
    rwa [hexempt] at hadm
  | deleteService key =>
    obtain ⟨old, hold, rfl⟩ := Option.map_eq_some_iff.mp hhandle
    refine inSync_deleteService hapi h hold ?_
    have hexempt : ((w.dropService key).onServiceDelete api old).proxy.exemptVIPs =
        w.proxy.exemptVIPs := by
      simp only [WatchState.onServiceDelete, deleteServicePorts_eq,
        ProxyState.deliverAll_exemptVIPs]
      rfl
    rwa [hexempt] at hadm
  | setSlice sl =>
    cases hhandle
    refine inSync_onSlice hapi h (w.putSlice sl) rfl rfl sl
      fun svc hsvc hne => slicesForService_insert (Ne.symm hne) fun old hold heq => ?_
    rcases hok old hold with hname | hgone
    · refine hne (heq.symm.trans ?_)
      rw [EndpointSlice.owner, w.slice_key _ _ hold, hname]
      rfl
    · rw [heq, WatchState.mem_services.mp hsvc] at hgone
      cases hgone
  | deleteSlice key =>
    obtain ⟨old, hold, rfl⟩ := Option.map_eq_some_iff.mp hhandle
    refine inSync_onSlice hapi h (w.dropSlice key) rfl rfl old
      fun svc _ hne => slicesForService_erase fun old' hold' heq => hne ?_
    rw [hold] at hold'
    cases hold'
    exact heq.symm

lemma InSync.holds_install (h : InSync api static w) {svc : Service}
    (hsvc : svc ∈ storeList w.services) {key : PortKey} (hkey : key ∈ servedKeys api svc) :
    ∃ policy aff eps, w.proxy.table.Holds api key (.install svc.key policy aff eps) ∧
      GoMap.lastWrite key
          (serviceBackendSets api (groupByService (storeList w.slices)) static svc) =
        some (normalizeSet (admittedStrings api eps)) := by
  have how := h.admissible.1 svc hsvc
  have hserved := h.served svc hsvc key
  unfold servedKeys at hkey
  unfold serviceBackendSets
  rw [WatchState.ownDeliveries, serviceDeliveries] at hserved
  cases hv : serviceToVIP api svc with
  | none => simp [hv] at hkey
  | some v =>
    simp only [hv, how v hv, if_true, groupByService_eq_slicesForService] at hkey hserved ⊢
    rw [GoMap.lastWrite_map] at hserved ⊢
    cases hlast : GoMap.lastWrite key (v.vip.ports.map fun p => (reconcileKey v.vip p, p)) with
    | none =>
      rw [GoMap.lastWrite_eq_none_iff, List.map_map] at hlast
      exact absurd hkey hlast
    | some port =>
      exact ⟨v.policy, v.affinity, _, hserved _ (by rw [hlast]; rfl), rfl⟩

lemma converged_of_inSync (hapi : api.Lawful) (h : InSync api static w) :
    w.Converged api static := by
  have hcases : ∀ key, (∃ svc ∈ storeList w.services, key ∈ servedKeys api svc) ∨
      ∀ svc ∈ storeList w.services, key ∉ servedKeys api svc := fun key => by
    by_cases hex : ∃ svc ∈ storeList w.services, key ∈ servedKeys api svc
    · exact .inl hex
    · exact .inr fun svc hsvc hkey => hex ⟨svc, hsvc, hkey⟩
  refine ⟨fun key => ?_, fun key x => ?_⟩
  · rw [mem_keys_vipStates]
    rcases hcases key with ⟨svc, hsvc, hkey⟩ | hnone
    · obtain ⟨policy, aff, eps, ⟨⟨m, hm, -⟩, -⟩, -⟩ := h.holds_install hsvc hkey
      exact iff_of_true (by rw [hm]; rfl) ⟨svc, hsvc, hkey⟩
    · refine iff_of_false ?_ fun ⟨svc, hsvc, hkey⟩ => hnone svc hsvc hkey
      rw [(h.unserved key hnone).1]
      exact Bool.false_ne_true
  · have hwant : setAt (apiBackendSets api (storeList w.services) (storeList w.slices) static)
        key = (GoMap.lastWrite key ((storeList w.services).flatMap
          (serviceBackendSets api (groupByService (storeList w.slices)) static))).getD [] := by
      rw [setAt, apiBackendSets, GoMap.lookup_insertAll, AList.lookup_empty, Option.or_none]
    have hnoWrite : ∀ svc, key ∉ servedKeys api svc → GoMap.lastWrite key
        (serviceBackendSets api (groupByService (storeList w.slices)) static svc) = none := by
      intro svc hkey
      rwa [GoMap.lastWrite_eq_none_iff, keys_serviceBackendSets]
    rw [hwant]
    rcases hcases key with ⟨svc, hsvc, hkey⟩ | hnone
    · obtain ⟨policy, aff, eps, hholds, hset⟩ := h.holds_install hsvc hkey
      rw [mem_setAt_of_holds_install api hholds, GoMap.lastWrite_flatMap hsvc ?_, hset,
        Option.getD_some]
      · exact (SortedSet.mem_normalize _ x).symm
      · exact fun b hb hbs => hnoWrite b fun hkb =>
          hbs (WatchState.eq_of_mem_servedKeys hapi h.admissible hb hsvc hkb hkey)
    · have hlast : GoMap.lastWrite key ((storeList w.services).flatMap
          (serviceBackendSets api (groupByService (storeList w.slices)) static)) = none := by
        rw [GoMap.lastWrite_eq_none_iff,
          map_fst_flatMap _ _ (servedKeys api) fun svc _ => keys_serviceBackendSets _]
        simpa using hnone
      rw [setAt_of_holds_absent api (h.unserved key hnone), hlast, Option.getD_none]

end

end

/-- In every run whose updates keep the ports a Service had and the owner a slice had, the table
shows the stores after every event. -/
theorem watch_converges {api : Netv1} (hapi : api.Lawful) (static : StaticBackends)
    (exemptVIPs : Finset Addr) (cfg : TableConfig) {w : WatchState}
    (h : (watchMachine api static exemptVIPs cfg).Reach (KeepsServed api) w) :
    w.Converged api static := by
  refine converged_of_inSync hapi ?_
  refine Machine.Reach.invariant (I := InSync api static) ?_ ?_ h
  · rintro w rfl
    exact ⟨⟨fun _ hm => (nomatch hm), fun _ hm => (nomatch hm)⟩, fun _ hm => (nomatch hm),
      fun _ _ => ⟨rfl, rfl⟩⟩
  · intro w ev w' hw hok hst
    exact inSync_step hapi hw hok hst

def watchStart : WatchState := ⟨∅, ∅, newProxy ∅ (defaultConfig .zero), by simp, by simp⟩

def webService (ports : List Int) : Service :=
  ⟨⟨"default", "web"⟩, web_named, "", .tcp "10.43.0.10" ports⟩

def dbService (ports : List Int) : Service :=
  ⟨⟨"default", "db"⟩, db_named, "", .tcp "10.43.0.11" ports⟩

def podSlice (owner portName : String) : EndpointSlice :=
  .single ⟨"default", "slice-1"⟩ ⟨"default", owner⟩ portName 8080 "10.42.0.5"

def keepingRun : List WatchEvent :=
  [.setService (webService [80]), .setSlice (podSlice "web" "80"),
    .setService (webService [80, 443]), .setService (dbService [5432]),
    .deleteSlice ⟨"default", "slice-1"⟩, .deleteService ⟨"default", "db"⟩]

instance (api : Netv1) (w : WatchState) (ev : WatchEvent) : Decidable (KeepsServed api w ev) :=
  match ev with
  | .setService svc => decidable_of_iff
      ((w.services.lookup svc.key).all fun old => (servedKeys api old).all fun key =>
        key ∈ servedKeys api svc) (by simp [KeepsServed, Option.all_eq_true])
  | .setSlice sl => decidable_of_iff
      ((w.slices.lookup sl.key).all fun old => old.serviceName = sl.serviceName ∨
        w.services.lookup old.owner = none) (by simp [KeepsServed, Option.all_eq_true])
  | .deleteService _ => isTrue trivial
  | .deleteSlice _ => isTrue trivial

theorem watch_converges_keepingRun :
    ∃ w, (watchMachine Netv1.standard ∅ ∅ (defaultConfig .zero)).run watchStart keepingRun =
      some w ∧ w.Converged Netv1.standard ∅ := by
  exact Machine.exists_run_of (P := fun _ => True) rfl (by decide) (by decide) fun w hreach _ =>
    watch_converges Netv1.standard_lawful ∅ ∅ (defaultConfig .zero) hreach

/-- A dropped port keeps its state, and a slice that changes its Service its backends. -/
theorem watch_leaves_stale :
    (∃ w, (watchMachine Netv1.standard ∅ ∅ (defaultConfig .zero)).Reach Machine.always w ∧
      (watchMachine Netv1.standard ∅ ∅ (defaultConfig .zero)).run watchStart
        [.setService (webService [80, 443]), .setService (webService [80])] = some w ∧
      ¬ w.Converged Netv1.standard ∅) ∧
    ∃ w, (watchMachine Netv1.standard ∅ ∅ (defaultConfig .zero)).Reach Machine.always w ∧
      (watchMachine Netv1.standard ∅ ∅ (defaultConfig .zero)).run watchStart
        [.setService (webService [80]), .setSlice (podSlice "web" "80"),
          .setSlice (podSlice "db" "80")] = some w ∧
      ¬ w.Converged Netv1.standard ∅ := by
  constructor
  · refine Machine.Reach.exists_run_of (P := fun w =>
      ⟨"10.43.0.10", 443, .TCP⟩ ∈ w.proxy.table.vipStates.map (·.key) ∧
      ∀ svc ∈ storeList w.services, ⟨"10.43.0.10", 443, .TCP⟩ ∉ servedKeys Netv1.standard svc) rfl
      (Machine.meets_always _ _) (by decide) ?_
    rintro w ⟨hin, hout⟩ hconv
    obtain ⟨svc, hsvc, hkey⟩ := (hconv.1 _).mp hin
    exact hout svc hsvc hkey
  · refine Machine.Reach.exists_run_of (P := fun w =>
      "10.42.0.5:8080" ∈ setAt (backendSets w.proxy.table.vipStates) ⟨"10.43.0.10", 80, .TCP⟩ ∧
      "10.42.0.5:8080" ∉ setAt (apiBackendSets Netv1.standard (storeList w.services)
        (storeList w.slices) ∅) ⟨"10.43.0.10", 80, .TCP⟩) rfl
      (Machine.meets_always _ _) (by decide) ?_
    rintro w ⟨hin, hout⟩ hconv
    exact hout ((hconv.2 _ _).mp hin)

end DarwinNet.Proxy
