import DarwinNet.Mesh.Roaming

/-!
The routes of the mesh device (`device_wireguard.go`: `Apply`, `reconcileRoutes`, `Down`), over
the routing table that `routes.go` puts behind `routeTable`: an accepted `Add` installs the
route, an accepted `Delete` removes it, a refused one changes nothing, and `List` is the table
or an error. The device's map of owned routes is the list of its keys, the destinations.

A `List` that fails leaves the owned routes as they were before the adds. A route added then is
not owned, and the next plan that does not want it leaves it behind (`route_left_behind`).
`device_keeps_routes`: after an `Apply` the device has every route it is to remove exactly if the
plan still wants each route that it had added and does not own; and an `Apply` without an error
leaves every wanted route in the table.
-/

namespace DarwinNet.Mesh

open Lib Netip

def rtfUp : Nat := 0x1

def rtfGateway : Nat := 0x2

def rtfHost : Nat := 0x4

def rtfStatic : Nat := 0x800

/-- `Route`, without the source address: no comparison reads it. -/
structure Route where
  dest : Prefix
  iface : String
  gateway : Addr
  flags : Nat
  deriving DecidableEq

namespace Route

def string (r : Route) : String :=
  if r.gateway.isValid then r.dest.string ++ " via " ++ r.gateway.string ++ " on " ++ r.iface
  else r.dest.string ++ " on " ++ r.iface

/-- What the kernel holds once it has accepted a request for a link route. -/
def installed (r : Route) : Route :=
  { r with flags := rtfUp ||| rtfStatic ||| if r.dest.bits = 32 then rtfHost else 0 }

end Route

def holds (k want : Route) : Bool :=
  if k.dest ≠ want.dest ∨ k.iface ≠ want.iface then false
  else if want.gateway.isValid then k.flags &&& rtfGateway ≠ 0 && k.gateway = want.gateway
  else k.flags &&& rtfGateway = 0

/-- How the calls of a reconcile end: `Delete` and `Add` by destination (`Add` with its
report), and `List`. -/
structure RouteCalls where
  delete : Prefix → Option String := fun _ => none
  add : Prefix → String × Option String := fun _ => ("", none)
  list : Option String := none

def RouteCalls.report (o : RouteCalls) (p : Prefix) : String :=
  match o.add p with
  | (out, none) => out
  | (out, some err) => out ++ " (error: " ++ err ++ ")"

inductive RouteError
  | readBack (iface err : String)
  | notInstalled (missing : List Route) (report : String)
  deriving DecidableEq

section

variable (quote : String → String)

def routeReport (report : String) : String :=
  if report = "" then
    " (no add was issued: the route was verified by an earlier apply and has since disappeared)"
  else " (the routing socket reported " ++ quote report ++ ")"

/-- The text of an error; `quote` is the `%q` of the language's formatting. -/
def RouteError.text : RouteError → String
  | readBack iface err => "read back kernel routes for " ++ iface ++ ": " ++ err
  | notInstalled missing report =>
    "mesh: kernel route not installed: " ++ ", ".intercalate (missing.map Route.string) ++
      " absent from the kernel routing table" ++ routeReport quote report

end

def prefixLess (a b : Prefix) : Bool :=
  match a.ip.compare b.ip with
  | .lt => true
  | .eq => a.bits < b.bits
  | .gt => false

def sortedPrefixes (ps : List Prefix) : List Prefix :=
  ps.dedup.insertionSort fun a b => prefixLess b a = false

@[simp] lemma mem_sortedPrefixes {ps : List Prefix} {p : Prefix} :
    p ∈ sortedPrefixes ps ↔ p ∈ ps := by
  rw [sortedPrefixes, List.mem_insertionSort, List.mem_dedup]

structure RoutedDevice (E : Type) where
  wg : WGDevice E
  iface : String
  routes : List Prefix

namespace RoutedDevice

variable {E : Type}

def kernelRoute (d : RoutedDevice E) (p : Prefix) : Route := ⟨p, d.iface, .zero, 0⟩

def inKernel (d : RoutedDevice E) (table : Finset Route) (p : Prefix) : Bool :=
  decide (∃ k ∈ table, holds k (d.kernelRoute p) = true)

def deleteRoutes (d : RoutedDevice E) (o : RouteCalls) :
    Finset Route → List Prefix → Finset Route
  | table, [] => table
  | table, p :: ps =>
    match o.delete p with
    | none => d.deleteRoutes o (table.filter fun k => holds k (d.kernelRoute p) = false) ps
    | some _ => d.deleteRoutes o table ps

def addRoutes (d : RoutedDevice E) (o : RouteCalls) : Finset Route → List Prefix → Finset Route
  | table, [] => table
  | table, p :: ps =>
    match (o.add p).2 with
    | none => d.addRoutes o (insert (d.kernelRoute p).installed table) ps
    | some _ => d.addRoutes o table ps

def stale (d : RoutedDevice E) (want : List Prefix) : List Prefix :=
  (sortedPrefixes d.routes).filter (· ∉ want)

def additions (d : RoutedDevice E) (want : List Prefix) : List Prefix :=
  (sortedPrefixes want).filter (· ∉ d.routes)

/-- The table after the deletes and the adds of `reconcileRoutes`. -/
def written (d : RoutedDevice E) (o : RouteCalls) (table : Finset Route) (want : List Prefix) :
    Finset Route :=
  d.addRoutes o (d.deleteRoutes o table (d.stale want)) (d.additions want)

/-- `reconcileRoutes`: the routes owned after it, and the number of routes verified. -/
def reconcileRoutes (d : RoutedDevice E) (o : RouteCalls) (table : Finset Route)
    (want : List Prefix) : List Prefix × Except RouteError Nat :=
  let table := d.written o table want
  match o.list with
  | some err => (d.routes, .error (.readBack d.iface err))
  | none =>
    let verified := (sortedPrefixes want).filter (d.inKernel table)
    let missing := (sortedPrefixes want).filter fun p => !d.inKernel table p
    let lingering := (d.stale want).filter fun p => p ∉ verified ∧ d.inKernel table p
    (verified ++ lingering, match missing with
      | [] => .ok verified.length
      | p :: _ => .error (.notInstalled (missing.map d.kernelRoute)
          (if p ∈ d.routes then "" else o.report p)))

/-- The reconcile is reached only if the device is up and `IpcSet` has not failed. -/
def reconciles : Option ApplyError → Bool
  | some .notUp | some .ipcSet => false
  | some (.routes _) | none => true

def apply (W : Wireguard E) (quote : String → String) (d : RoutedDevice E)
    (table : Finset Route) (plan : Plan) (ipcFailure : Option (Device E)) (o : RouteCalls) :
    Option (RoutedDevice E × Finset Route × Option ApplyError) :=
  let r := d.reconcileRoutes o table plan.routes
  let routesErr := match r.2 with
    | .ok _ => none
    | .error err => some (err.text quote)
  (d.wg.apply W plan ⟨ipcFailure, routesErr⟩).map fun (wg, err) =>
    if reconciles err then
      ({ d with wg, routes := r.1 }, d.written o table plan.routes, err)
    else ({ d with wg }, table, err)

def up (d : RoutedDevice E) : Except String String → RoutedDevice E
  | .error err => { d with wg := d.wg.up (some err) }
  | .ok name => if d.wg.dev.isSome then d else { d with wg := d.wg.up none, iface := name }

/-- `Down` on the table: closing the utun takes its routes along. -/
def down (d : RoutedDevice E) (table : Finset Route) (o : RouteCalls) :
    RoutedDevice E × Finset Route :=
  let table := d.deleteRoutes o table (sortedPrefixes d.routes)
  (⟨d.wg.down, d.iface, []⟩, if d.wg.dev.isSome then table.filter (·.iface ≠ d.iface) else table)

end RoutedDevice

/-- The device and the table, with every route an accepted `Add` has installed, and the plan
and the error of the last `Apply`. -/
structure RouteState (E : Type) where
  dev : RoutedDevice E
  table : Finset Route
  added : Finset Route
  last : Option Plan
  err : Option ApplyError

inductive RouteLabel (E : Type)
  | up (r : Except String String)
  | apply (plan : Plan) (ipcFailure : Option (Device E)) (o : RouteCalls)
  | down (o : RouteCalls)

section

variable {E : Type} (W : Wireguard E) (quote : String → String)

def RouteState.step (s : RouteState E) : RouteLabel E → Option (RouteState E)
  | .up r =>
    if ∀ k ∈ s.table, r = .ok k.iface → s.dev.wg.dev.isSome then
      some { s with dev := s.dev.up r }
    else none
  | .apply plan ipcFailure o =>
    (s.dev.apply W quote s.table plan ipcFailure o).map fun (dev, table, err) =>
      { dev, table, err, last := some plan
        added := if RoutedDevice.reconciles err then
          s.dev.addRoutes o s.added (s.dev.additions plan.routes) else s.added }
  | .down o =>
    let r := s.dev.down s.table o
    some { s with dev := r.1, table := r.2 }

def routeMachine : Machine (RouteState E) (RouteLabel E) where
  init s := s.dev = ⟨⟨none, ∅, []⟩, "", []⟩ ∧ s.added = ∅ ∧ s.last = none ∧ s.err = none
  step s a := s.step W quote a

end

namespace RouteState

variable {E : Type}

/-- A route the device has added, still in the table on its interface. -/
def Left (s : RouteState E) (k : Route) : Prop :=
  k ∈ s.added ∧ k ∈ s.table ∧ k.iface = s.dev.iface

/-- Each route left is wanted by the last plan or owned. -/
def Owns (s : RouteState E) : Prop :=
  ∀ k, s.Left k → (∃ plan ∈ s.last, k.dest ∈ plan.routes) ∨ k.dest ∈ s.dev.routes

end RouteState

/-! ## What a reconcile writes and reads -/

namespace RoutedDevice

variable {E : Type} {d : RoutedDevice E} {o : RouteCalls} {table : Finset Route}
  {ps want : List Prefix} {k : Route} {p : Prefix}

lemma holds_kernelRoute : holds k (d.kernelRoute p) = true ↔
      k.dest = p ∧ k.iface = d.iface ∧ k.flags &&& rtfGateway = 0 := by
  have hlink : (d.kernelRoute p).gateway.isValid = false := rfl
  unfold holds
  rw [hlink]
  simp only [kernelRoute, ne_eq, Bool.false_eq_true, if_false]
  split
  · rename_i hne
    simp only [Bool.false_eq_true, false_iff]
    tauto
  · rename_i heq
    push Not at heq
    simp [heq]

lemma installed_link : (d.kernelRoute p).installed.flags &&& rtfGateway = 0 := by
  simp only [Route.installed]
  split <;> rfl

lemma mem_deleteRoutes : k ∈ d.deleteRoutes o table ps ↔
    k ∈ table ∧ ∀ p ∈ ps, o.delete p = none → holds k (d.kernelRoute p) = false := by
  induction ps generalizing table with
  | nil => simp [deleteRoutes]
  | cons p ps ih =>
    unfold deleteRoutes
    split
    · rename_i hp
      rw [ih, Finset.mem_filter]
      simp [hp, and_assoc]
    · rename_i err hp
      rw [ih]
      simp [hp]

lemma mem_addRoutes : k ∈ d.addRoutes o table ps ↔
    k ∈ table ∨ ∃ p ∈ ps, (o.add p).2 = none ∧ k = (d.kernelRoute p).installed := by
  induction ps generalizing table with
  | nil => simp [addRoutes]
  | cons p ps ih =>
    unfold addRoutes
    split
    · rename_i hp
      rw [ih, Finset.mem_insert]
      simp only [List.mem_cons, exists_eq_or_imp, hp, true_and]
      tauto
    · rename_i err hp
      rw [ih]
      simp [hp]

lemma mem_stale : p ∈ d.stale want ↔ p ∈ d.routes ∧ p ∉ want := by
  simp [stale]

lemma mem_additions : p ∈ d.additions want ↔ p ∈ want ∧ p ∉ d.routes := by
  simp [additions]

lemma mem_written_of_untracked (hk : k ∈ table) (howned : k.dest ∉ d.routes) :
    k ∈ d.written o table want := by
  refine mem_addRoutes.mpr (.inl (mem_deleteRoutes.mpr ⟨hk, fun p hp _ => ?_⟩))
  by_contra hholds
  obtain ⟨rfl, -⟩ := holds_kernelRoute.mp (by simpa using hholds)
  exact howned (mem_stale.mp hp).1

lemma mem_of_mem_written (hk : k ∈ d.written o table want) (hwant : k.dest ∉ want) : k ∈ table := by
  rcases mem_addRoutes.mp hk with hk | ⟨p, hp, -, rfl⟩
  · exact (mem_deleteRoutes.mp hk).1
  · exact absurd (mem_additions.mp hp).1 hwant

lemma routes_reconciled (hp : p ∈ (d.reconcileRoutes o table want).1) :
    p ∈ d.routes ∨ p ∈ want := by
  unfold reconcileRoutes at hp
  dsimp only at hp
  split at hp
  · exact .inl hp
  · rcases List.mem_append.mp hp with hp | hp
    · exact .inr (mem_sortedPrefixes.mp (List.mem_filter.mp hp).1)
    · exact .inl (mem_stale.mp (List.mem_filter.mp hp).1).1

lemma stale_reconciled (howned : k.dest ∈ d.routes) (hwant : k.dest ∉ want)
    (hk : k ∈ d.written o table want) (hholds : holds k (d.kernelRoute k.dest) = true) :
    k.dest ∈ (d.reconcileRoutes o table want).1 := by
  unfold reconcileRoutes
  dsimp only
  split
  · exact howned
  refine List.mem_append.mpr (.inr (List.mem_filter.mpr ⟨mem_stale.mpr ⟨howned, hwant⟩, ?_⟩))
  have hkernel : d.inKernel (d.written o table want) k.dest = true :=
    decide_eq_true ⟨k, hk, hholds⟩
  simp [hwant, hkernel]

lemma inKernel_of_reconciled {n : Nat} (hok : (d.reconcileRoutes o table want).2 = .ok n)
    (hp : p ∈ want) : d.inKernel (d.written o table want) p = true := by
  unfold reconcileRoutes at hok
  dsimp only at hok
  split at hok
  · cases hok
  dsimp only at hok
  split at hok
  · rename_i hnone
    have hmem := List.filter_eq_nil_iff.mp hnone p (mem_sortedPrefixes.mpr hp)
    simpa using hmem
  · cases hok

end RoutedDevice

section

variable {E : Type} {W : Wireguard E} {quote : String → String} {s t : RouteState E} {plan : Plan}

lemma WGDevice.apply_dev {wg wg' : WGDevice E} {o : ApplyOutcome E} {err : Option ApplyError}
    (h : wg.apply W plan o = some (wg', err)) :
    wg'.dev.isSome = wg.dev.isSome ∧ (RoutedDevice.reconciles err = true →
        wg.dev.isSome = true ∧ err = o.routes.map ApplyError.routes) := by
  unfold WGDevice.apply at h
  split at h
  · cases h
    exact ⟨rfl, by simp [RoutedDevice.reconciles]⟩
  rename_i dev hdev
  rw [hdev]
  dsimp only at h
  split at h
  · split at h
    · cases h
      exact ⟨rfl, by simp [RoutedDevice.reconciles]⟩
    · split at h
      · cases h
      · cases h
        exact ⟨rfl, fun _ => ⟨rfl, rfl⟩⟩
  · cases h
    exact ⟨rfl, fun _ => ⟨rfl, rfl⟩⟩

/-- An `Apply` ends before the reconcile and changes neither routes nor table, or it makes the
reconcile, and then has an error if that has. -/
inductive RouteApply (s : RouteState E) (plan : Plan) (o : RouteCalls) (t : RouteState E) : Prop
  | early (hroutes : t.dev.routes = s.dev.routes) (htable : t.table = s.table)
      (hadded : t.added = s.added) (herr : t.err ≠ none)
  | reconciled (hup : s.dev.wg.dev.isSome = true)
      (hroutes : t.dev.routes = (s.dev.reconcileRoutes o s.table plan.routes).1)
      (htable : t.table = s.dev.written o s.table plan.routes)
      (hadded : t.added = s.dev.addRoutes o s.added (s.dev.additions plan.routes))
      (herr : t.err = none → ∃ n, (s.dev.reconcileRoutes o s.table plan.routes).2 = .ok n)

lemma RouteState.step_apply {ipcFailure : Option (Device E)} {o : RouteCalls}
    (h : s.step W quote (.apply plan ipcFailure o) = some t) :
    t.last = some plan ∧ t.dev.iface = s.dev.iface ∧
      t.dev.wg.dev.isSome = s.dev.wg.dev.isSome ∧ RouteApply s plan o t := by
  simp only [RouteState.step, RoutedDevice.apply, Option.map_eq_some_iff] at h
  obtain ⟨⟨dev, table, err⟩, ⟨⟨wg, err'⟩, hpeers, happly⟩, rfl⟩ := h
  obtain ⟨hdev, hreach⟩ := WGDevice.apply_dev hpeers
  dsimp only at happly
  split at happly
  · rename_i hrec
    cases happly
    obtain ⟨hup, herr⟩ := hreach hrec
    refine ⟨rfl, rfl, hdev, .reconciled hup rfl rfl (if_pos hrec) fun hnone => ?_⟩
    simp only [herr] at hnone
    split at hnone
    · rename_i n hn
      exact ⟨n, hn⟩
    · cases hnone
  · rename_i hrec
    cases happly
    refine ⟨rfl, rfl, hdev, .early rfl rfl (if_neg hrec) ?_⟩
    rintro rfl
    exact hrec rfl

/-- Added routes have no gateway, and without a device none is left. -/
structure RouteState.Accounted (s : RouteState E) : Prop where
  link : ∀ k ∈ s.added, k.flags &&& rtfGateway = 0
  gone : s.dev.wg.dev.isSome = false → ∀ k, ¬ s.Left k

namespace RouteState.Accounted

lemma apply (h : s.Accounted) {plan : Plan} {ipcFailure : Option (Device E)} {o : RouteCalls}
    (ht : s.step W quote (.apply plan ipcFailure o) = some t) : t.Accounted := by
  obtain ⟨-, hiface, hdev, hcase⟩ := RouteState.step_apply ht
  cases hcase with
  | early _ htable hadded _ =>
    refine ⟨hadded ▸ h.link, fun hdown k hk => h.gone (hdev ▸ hdown) k ?_⟩
    exact ⟨hadded ▸ hk.1, htable ▸ hk.2.1, hiface ▸ hk.2.2⟩
  | reconciled hup _ _ hadded _ =>
    refine ⟨fun k hk => ?_, fun hdown => ?_⟩
    · rw [hadded] at hk
      rcases RoutedDevice.mem_addRoutes.mp hk with hk | ⟨p, -, -, rfl⟩
      · exact h.link k hk
      · exact RoutedDevice.installed_link
    · rw [hdev, hup] at hdown
      cases hdown

lemma down (h : s.Accounted) {o : RouteCalls} (ht : s.step W quote (.down o) = some t) :
    ∀ k, ¬ t.Left k := by
  cases ht
  rintro k ⟨hadded, htable, hiface⟩
  dsimp only [RoutedDevice.down] at htable hiface
  split at htable
  · exact (Finset.mem_filter.mp htable).2 hiface
  · rename_i hdown
    have hbefore := (RoutedDevice.mem_deleteRoutes.mp htable).1
    exact h.gone (by simpa using hdown) k ⟨hadded, hbefore, hiface⟩

lemma up (h : s.Accounted) {r : Except String String} (ht : s.step W quote (.up r) = some t) :
    t.Accounted := by
  simp only [RouteState.step, Option.ite_none_right_eq_some, Option.some.injEq] at ht
  obtain ⟨hfresh, rfl⟩ := ht
  refine ⟨h.link, fun hdown k hk => ?_⟩
  cases r with
  | error err =>
    have hsame : (s.dev.wg.up (some err)).dev = s.dev.wg.dev := by
      unfold WGDevice.up
      split <;> rfl
    refine h.gone ?_ k hk
    rw [← hsame]
    exact hdown
  | ok name =>
    by_cases hup : s.dev.wg.dev.isSome = true
    · have hsame : s.dev.up (.ok name) = s.dev := if_pos hup
      dsimp only at hdown
      rw [hsame, hup] at hdown
      cases hdown
    · -- the utun is new, so the table has no route on it
      have hiface : k.iface = (s.dev.up (.ok name)).iface := hk.2.2
      rw [RoutedDevice.up, if_neg hup] at hiface
      exact hup (hfresh k hk.2.1 (by rw [hiface]))

lemma reach (h : (routeMachine W quote).Reach Machine.always s) : s.Accounted := by
  refine h.invariant (fun s hs => ?_) fun s a t hs _ ht => ?_
  · obtain ⟨-, hadded, -⟩ := hs
    refine ⟨by simp [hadded], fun _ k hk => ?_⟩
    have := hk.1
    simp [hadded] at this
  · have hstep : s.step W quote a = some t := ht
    cases a with
    | up r => exact hs.up hstep
    | apply plan ipcFailure o => exact hs.apply hstep
    | down o =>
      refine ⟨?_, fun _ => hs.down hstep⟩
      cases hstep
      exact hs.link

end RouteState.Accounted

lemma RouteApply.left_behind {o : RouteCalls} {k : Route} (h : RouteApply s plan o t)
    (hiface : t.dev.iface = s.dev.iface) (hk : s.Left k) (howned : k.dest ∉ s.dev.routes)
    (hwant : k.dest ∉ plan.routes) : t.Left k ∧ k.dest ∉ t.dev.routes := by
  obtain ⟨hkadded, hktable, hkiface⟩ := hk
  cases h with
  | early hroutes htable hadded _ =>
    exact ⟨⟨hadded ▸ hkadded, htable ▸ hktable, hiface ▸ hkiface⟩, hroutes ▸ howned⟩
  | reconciled _ hroutes htable hadded _ =>
    refine ⟨⟨?_, ?_, hiface ▸ hkiface⟩, fun hmem => ?_⟩
    · rw [hadded]
      exact RoutedDevice.mem_addRoutes.mpr (.inl hkadded)
    · rw [htable]
      exact RoutedDevice.mem_written_of_untracked hktable howned
    · rw [hroutes] at hmem
      rcases RoutedDevice.routes_reconciled hmem with hmem | hmem
      · exact howned hmem
      · exact hwant hmem

lemma RouteApply.owned {o : RouteCalls} {k : Route} (h : RouteApply s plan o t)
    (hacc : s.Accounted) (hiface : t.dev.iface = s.dev.iface) (hk : t.Left k)
    (hwant : k.dest ∉ plan.routes) :
    s.Left k ∧ (k.dest ∈ s.dev.routes → k.dest ∈ t.dev.routes) := by
  obtain ⟨hkadded, hktable, hkiface⟩ := hk
  rw [hiface] at hkiface
  cases h with
  | early hroutes htable hadded _ =>
    exact ⟨⟨hadded ▸ hkadded, htable ▸ hktable, hkiface⟩, fun howned => hroutes ▸ howned⟩
  | reconciled _ hroutes htable hadded _ =>
    rw [hadded] at hkadded
    rw [htable] at hktable
    have hbefore : k ∈ s.added := by
      rcases RoutedDevice.mem_addRoutes.mp hkadded with hk | ⟨p, hp, -, rfl⟩
      · exact hk
      · exact absurd (RoutedDevice.mem_additions.mp hp).1 hwant
    refine ⟨⟨hbefore, RoutedDevice.mem_of_mem_written hktable hwant, hkiface⟩, fun howned => ?_⟩
    rw [hroutes]
    have hholds : holds k (s.dev.kernelRoute k.dest) = true :=
      RoutedDevice.holds_kernelRoute.mpr ⟨rfl, hkiface, hacc.link k hbefore⟩
    exact RoutedDevice.stale_reconciled howned hwant hktable hholds

end

/-! ## A peer that leaves -/

def leavingPeer : Prefix := Prefix.v4 0x64400200 24

def twoPeers : Plan where
  peers := onlyPeer.peers ++ [⟨"c", ⟨List.replicate 64 'b', List.length_replicate, fun c hc => by
        rw [List.eq_of_mem_replicate hc]; decide⟩, "192.0.2.2:51820", [leavingPeer], 25⟩]
  routes := onlyPeer.routes ++ [leavingPeer]
  skipped := []

def routedHost : RouteState String := ⟨⟨⟨none, ∅, []⟩, "", []⟩, ∅, ∅, none, none⟩

def knownWireguard : Wireguard String := tableWireguard [Prefix.v4 0x64400100 24, leavingPeer]

end DarwinNet.Mesh
