import DarwinNet.Proxy.Generation
import DarwinNet.Proxy.Teardown

/-!
One anti-entropy pass as a whole (`antientropy.go`: `antiEntropyPass`, `settleRepaired`,
`repairService`, `maybeRelist`, `relist`), with nothing else going on. What the lists return,
whether the replacement informers sync and what they hold, the clock and the orders of the loops
over maps are the environment's choice.

The circuit breaker withholds the repairs of a pass, not its relist: that deletes the ports of
every Service the replacement does not list, so a source that has lost its objects empties the
table in that very pass (`breaker_table_emptied`). What such a pass delivers is the list
`Watcher.deliveries`: the Services to settle, then those of the relist, and the last delivery of a
key decides what the pass leaves of it.
-/

namespace DarwinNet.Proxy

open Lib Netip Api

def relistBackoffInitial : Int := 60 * 10 ^ 9

def relistBackoffMax : Int := 15 * 60 * 10 ^ 9

/-- The watcher between two events: its stores and proxy, and what the passes remember. The
zero time of `nextRelist` is `none`, and `relists` has what each call of `relist` returned, the
newest first. -/
structure Watcher extends WatchState where
  confirmDelay : Int
  repairedFromLive : List ObjectKey
  divWarned : List PortKey
  breakerWarned : Bool
  episodeRelisted : Bool
  nextRelist : Option Int
  relistBackoff : Int
  relists : List Bool

def newWatcher (w : WatchState) (confirmDelay : Int) : Watcher :=
  { w with
    confirmDelay, repairedFromLive := [], divWarned := [], breakerWarned := false
    episodeRelisted := false, nextRelist := none, relistBackoff := relistBackoffInitial
    relists := [] }

structure Replacement where
  services : GoMap ObjectKey Service
  slices : GoMap ObjectKey EndpointSlice
  service_key : ∀ k svc, services.lookup k = some svc → svc.key = k
  slice_key : ∀ k sl, slices.lookup k = some sl → sl.key = k

/-- What a pass meets: its list and the confirming one (`none` for an error), the time before
and after a relist, the replacement unless it does not sync, and the orders of its loops. -/
structure PassEnv where
  list : Option LiveLists
  confirm : Option LiveLists
  now : Int
  later : Int
  replacement : Option Replacement
  settle : List ObjectKey
  repairs : List (ObjectKey × List Divergence)
  deletes : List Service
  applies : List Service

section

variable (api : Netv1) (static : StaticBackends)

def WatchState.reconcileCalls (w : WatchState) (svc : Service) : List PortCall :=
  applyCalls api static svc (slicesForService (storeList w.slices) svc.key)

namespace Watcher

def view (w : Watcher) : ServiceView := storeView w.services w.slices

def callAll (w : Watcher) (calls : List PortCall) : Watcher :=
  { w with
    proxy := w.proxy.deliverAll api (calls.filterMap (·.event api w.proxy.exemptVIPs)) }

/-- The list the pass acts on: a divergence is confirmed by a second one. -/
def compared (w : Watcher) (env : PassEnv) : Option LiveLists :=
  env.list.bind fun l =>
    if divergences api static (listLive l) w.view = [] ∨ w.confirmDelay ≤ 0 then some l
    else env.confirm

def toSettle (w : Watcher) (divs : List (ObjectKey × List Divergence)) : List ObjectKey :=
  w.repairedFromLive.filter fun k => k ∉ divs.map Prod.fst

def settleRepaired (w : Watcher) (divs : List (ObjectKey × List Divergence))
    (order : List ObjectKey) : Watcher :=
  { w with repairedFromLive := w.repairedFromLive.filter fun k => k ∈ divs.map Prod.fst }.callAll
    api ((order.filterMap w.view.svcs.lookup).flatMap (w.reconcileCalls api static))

def divKeys (divs : List (ObjectKey × List Divergence)) : List PortKey :=
  divs.flatMap fun x => x.2.map (·.key)

def endKeyEpisodes (w : Watcher) (divs : List (ObjectKey × List Divergence)) : Watcher :=
  { w with divWarned := w.divWarned.filter fun k => k ∈ divKeys divs }

def reportDivergences (w : Watcher) (divs : List (ObjectKey × List Divergence)) : Watcher :=
  { w with divWarned := w.divWarned ∪ divKeys divs }

def endEpisode (w : Watcher) (now : Int) : Watcher :=
  { w with
    episodeRelisted := false
    breakerWarned := false
    relistBackoff := match w.nextRelist with
      | some next => if now < next then w.relistBackoff else relistBackoffInitial
      | none => w.relistBackoff }

def repairService (live : ServiceView) (w : Watcher) (x : ObjectKey × List Divergence) :
    Watcher :=
  if storeNewerThan w.services w.slices x.1 live then w
  else
    { w with repairedFromLive := w.repairedFromLive.insert x.1 }.callAll api
      (repairCalls api static x.1 live x.2)

/-- The replacement this pass swaps in: none if the episode has relisted, inside the backoff,
or if it does not sync. -/
def relisted (w : Watcher) (env : PassEnv) : Option Replacement :=
  if w.episodeRelisted ∨ ∃ next ∈ w.nextRelist, env.now < next then none else env.replacement

def lostTo (w : Watcher) (fresh : Replacement) : List Service :=
  (storeList w.services).filter fun svc => (fresh.services.lookup svc.key).isNone

def swapIn (w : Watcher) (fresh : Replacement) : Watcher :=
  { w with
    services := fresh.services, slices := fresh.slices
    service_key := fresh.service_key, slice_key := fresh.slice_key }

/-- `relist`, and whether it swapped a replacement in. -/
def relist (w : Watcher) (env : PassEnv) : Watcher × Bool :=
  match env.replacement with
  | none => ({ w with relists := false :: w.relists }, false)
  | some fresh =>
    ({ (w.swapIn fresh).callAll api (env.deletes.flatMap (deleteCalls api) ++
        env.applies.flatMap ((w.swapIn fresh).reconcileCalls api static)) with
      repairedFromLive := [], relists := true :: w.relists }, true)

def maybeRelist (w : Watcher) (env : PassEnv) : Watcher :=
  if w.episodeRelisted ∨ ∃ next ∈ w.nextRelist, env.now < next then w
  else
    let (w, swapped) := { w with episodeRelisted := true }.relist api static env
    if swapped then
      { w with
        nextRelist := some (env.later + w.relistBackoff)
        relistBackoff := min (2 * w.relistBackoff) relistBackoffMax }
    else w

/-- The orders are orders of the maps walked. -/
def Ordered (w : Watcher) (divs : List (ObjectKey × List Divergence)) (env : PassEnv) : Prop :=
  env.settle.Perm (w.toSettle divs) ∧ env.repairs.Perm divs ∧
    ∀ fresh ∈ env.replacement, env.deletes.Perm (w.lostTo fresh) ∧
      env.applies.Perm (storeList fresh.services)

instance decidableOrdered (w : Watcher) (divs : List (ObjectKey × List Divergence))
    (env : PassEnv) : Decidable (w.Ordered divs env) :=
  inferInstanceAs (Decidable (_ ∧ _ ∧ ∀ fresh ∈ env.replacement, _ ∧ _))

/-- The pass, and whether it found a divergence; `none` if the orders are not orders of the
maps. -/
def antiEntropyPass (w : Watcher) (env : PassEnv) : Option (Watcher × Bool) :=
  match w.compared api static env with
  | none => some (w, false)
  | some l =>
    let live := listLive l
    let divs := divergences api static live w.view
    if w.Ordered divs env then
      let settled := (w.settleRepaired api static divs env.settle).endKeyEpisodes divs
      if divs = [] then some (settled.endEpisode env.now, false)
      else
        let told := settled.reportDivergences divs
        if breakerTripped api static live w.view divs then
          some ({ told with breakerWarned := true }.maybeRelist api static env, true)
        else
          some ((env.repairs.foldl (repairService api static live) told).maybeRelist api static env,
            true)
    else none

end Watcher

end

/-! ## What a table keeps -/

def RoutingTable.readyAt (t : RoutingTable) (key : PortKey) : Finset AddrPort :=
  match t.snap.states.lookup key with
  | none => ∅
  | some st => addrSet st.all

/-- No key and no Ready backend of `t` is gone from `t'`. -/
def Covers (t t' : RoutingTable) : Prop :=
  ∀ key, ((t.metas.lookup key).isSome → (t'.metas.lookup key).isSome) ∧
    t.readyAt key ⊆ t'.readyAt key

section

variable (api : Netv1) (static : StaticBackends)

/-- What a delivery to `key` must be to take nothing from it. -/
def Desired.Keeps (t : RoutingTable) (key : PortKey) : Desired → Prop
  | .install _ _ _ eps => t.readyAt key ⊆ readyAddrs api eps
  | .absent => t.metas.lookup key = none

instance decidableKeeps (t : RoutingTable) (key : PortKey) (d : Desired) :
    Decidable (d.Keeps api t key) := by
  unfold Desired.Keeps
  split <;> infer_instance

namespace Watcher

/-- The calls of a pass that found a divergence and repairs nothing: the Services to settle are
applied from the store; a relist deletes what the replacement has lost and applies what it has. -/
def withheldCalls (w : Watcher) (env : PassEnv) : List PortCall :=
  (env.settle.filterMap w.view.svcs.lookup).flatMap (w.reconcileCalls api static) ++
    match w.relisted env with
    | none => []
    | some fresh => env.deletes.flatMap (deleteCalls api) ++
        env.applies.flatMap ((w.swapIn fresh).reconcileCalls api static)

/-- What the proxy makes of these calls: headless Services and exempt VIPs are passed over. -/
def deliveries (w : Watcher) (env : PassEnv) : List (PortKey × Desired) :=
  (w.withheldCalls api static env).filterMap (·.event api w.proxy.exemptVIPs)

end Watcher

end

section

variable {api : Netv1} {static : StaticBackends} {t t' : RoutingTable} {key : PortKey}

lemma readyAt_of_entry (h : t'.entry key = t.entry key) : t'.readyAt key = t.readyAt key := by
  have hs : t'.snap.states.lookup key = t.snap.states.lookup key := congrArg Prod.snd h
  rw [RoutingTable.readyAt, RoutingTable.readyAt, hs]

lemma readyAt_of_holds {svc : ObjectKey} {policy : TrafficPolicy} {aff : AffinityConfig}
    {eps : List Endpoint} (h : t.Holds api key (.install svc policy aff eps)) :
    t.readyAt key = readyAddrs api eps := by
  have hstate := h.2
  unfold RoutingTable.readyAt
  have hset : addrSet (readyBackends api t.cfg eps) = readyAddrs api eps := addrSet_readyBackends
  rw [← hset]
  cases hs : t.snap.states.lookup key with
  | none =>
    rw [hs] at hstate
    split_ifs at hstate with hnil
    · rw [hnil]
      rfl
    · cases hstate
  | some st =>
    rw [hs] at hstate
    split_ifs at hstate with hnil
    · cases hstate
    · simp only [Option.map_some, Option.some.injEq, Prod.mk.injEq] at hstate
      exact congrArg addrSet hstate.1

/-- Deliveries take nothing from a table exactly if the last one of each key does not. -/
lemma covers_deliverAll_iff (p : ProxyState) (l : List (PortKey × Desired)) :
    Covers p.table (p.deliverAll api l).table ↔
      ∀ key d, GoMap.lastWrite key l = some d → d.Keeps api p.table key := by
  refine forall_congr' fun key => ?_
  have hlast := p.holds_deliverAll api key l
  cases hd : GoMap.lastWrite key l with
  | none =>
    -- the entry of the key is the old one
    rw [hd] at hlast
    have hm : (p.deliverAll api l).table.metas.lookup key = p.table.metas.lookup key :=
      congrArg Prod.fst hlast
    rw [hm, readyAt_of_entry hlast]
    simp
  | some d =>
    rw [hd] at hlast
    simp only [Option.some.injEq, forall_eq']
    cases d with
    | install svc policy aff eps =>
      obtain ⟨m, hm, -⟩ := hlast.1
      rw [readyAt_of_holds hlast, hm]
      simp [Desired.Keeps]
    | absent =>
      have hnone : (p.deliverAll api l).table.metas.lookup key = none := hlast.1
      rw [hnone, Desired.Keeps]
      refine ⟨fun h => by simpa using h.1, fun h => ⟨by simp [h], ?_⟩⟩
      rw [RoutingTable.readyAt, p.state_known key h]
      exact Finset.empty_subset _

/-! ## The pass -/

lemma ProxyState.deliverAll_append (p : ProxyState) (l l' : List (PortKey × Desired)) :
    (p.deliverAll api l).deliverAll api l' = p.deliverAll api (l ++ l') :=
  (List.foldl_append ..).symm

namespace Watcher

variable {w w' : Watcher} {env : PassEnv}

lemma proxy_maybeRelist {calls : List PortCall}
    (hproxy : w'.proxy = w.proxy.deliverAll api (calls.filterMap (·.event api w.proxy.exemptVIPs)))
    (hepisode : w'.episodeRelisted = w.episodeRelisted) (hnext : w'.nextRelist = w.nextRelist) :
    (w'.maybeRelist api static env).proxy = w.proxy.deliverAll api
      ((calls ++ match w.relisted env with
        | none => []
        | some fresh => env.deletes.flatMap (deleteCalls api) ++
            env.applies.flatMap ((w.swapIn fresh).reconcileCalls api static)).filterMap
        (·.event api w.proxy.exemptVIPs)) := by
  unfold maybeRelist relisted
  rw [hepisode, hnext]
  split
  · rw [List.append_nil, hproxy]
  unfold relist
  cases env.replacement with
  | none =>
    simp only [List.append_nil]
    exact hproxy
  | some fresh =>
    rw [List.filterMap_append, ← ProxyState.deliverAll_append, ← hproxy]
    have hexempt : w.proxy.exemptVIPs = w'.proxy.exemptVIPs := by
      rw [hproxy, ProxyState.deliverAll_exemptVIPs]
    rw [hexempt]
    rfl

lemma proxy_withheld {l : LiveLists} {divs : List (ObjectKey × List Divergence)}
    (hpass : w.antiEntropyPass api static env = some (w', true))
    (hlist : w.compared api static env = some l)
    (hdivs : divergences api static (listLive l) w.view = divs)
    (htripped : breakerTripped api static (listLive l) w.view divs = true) :
    w'.proxy = w.proxy.deliverAll api (w.deliveries api static env) := by
  unfold antiEntropyPass at hpass
  rw [hlist] at hpass
  simp only [hdivs, htripped, if_true, Option.ite_none_right_eq_some] at hpass
  obtain ⟨-, hpass⟩ := hpass
  split at hpass
  · cases hpass
  · cases hpass
    exact proxy_maybeRelist rfl rfl rfl

end Watcher

end

/-! ## A node with one Service -/

def webRun : List WatchEvent := [.setService (webService [80]), .setSlice (podSlice "web" "80")]

def webPortKey : PortKey := ⟨"10.43.0.10", 80, .TCP⟩

def nothingListed : LiveLists := ⟨[], "1", [], "1"⟩

def suspiciousPass (replacement : Replacement) (divs : List (ObjectKey × List Divergence))
    (deletes applies : List Service) : PassEnv :=
  ⟨some nothingListed, some nothingListed, 0, 0, some replacement, [], divs, deletes, applies⟩

def emptyReplacement : Replacement := ⟨∅, ∅, keyed_empty, keyed_empty⟩

def webReplacement : Replacement :=
  ⟨AList.insert ⟨"default", "web"⟩ (webService [80]) ∅,
    AList.insert ⟨"default", "slice-1"⟩ (podSlice "web" "80") ∅,
    keyed_insert keyed_empty rfl, keyed_insert keyed_empty rfl⟩

def webDivs : List (ObjectKey × List Divergence) :=
  [(⟨"default", "web"⟩, [⟨webPortKey, [], ["10.42.0.5:8080"], [], ["10.42.0.5:8080"]⟩])]

def webWatcher (w : WatchState) : Watcher := newWatcher w 0

end DarwinNet.Proxy
