import DarwinNet.Proxy.Delivery
import DarwinNet.Lib.Machine

/-!
The hand-off between a caller and the worker of one port (`proxy.go`:
`reconcileServicePort`, `ReconcileDelete`, `worker`, `removeWorker`, `runWorker`). One caller
issues calls for `key` one after another; a call looks the worker up under the map's lock,
starting one if it needs it, and blocks in a select between its send and the worker's stop
channel. Others may add barriers to a channel and write other keys.

A worker that dequeues a delete removes itself from the map and stops reading, so an install
sent behind a delete is lost (`handOff_loses_install`). Where no reconcile finds a worker with a
delete before it (`NoDeleteAhead`), the table ends with what the last call asked for
(`handOff_keeps_last`).
-/

namespace DarwinNet.Proxy

open Lib Netip Api

inductive PortEvent
  | barrier
  | desired (d : Desired)
  deriving DecidableEq

inductive WorkerPC
  | running
  | installing (svc : ObjectKey) (policy : TrafficPolicy) (aff : AffinityConfig)
      (eps : List Endpoint)
  | deleting
  | removing
  | closing
  | exited
  deriving DecidableEq

structure Worker where
  ch : List PortEvent
  pc : WorkerPC
  stop : Bool
  deriving DecidableEq

def workerBuffer : Nat := 16

/-- The proxy as one port sees it. `caller` is the call blocked in its select, by
worker and event; `last` is what the last call asked for; `failed` records that a
reconcile returned an error. -/
structure HandOff where
  table : RoutingTable
  cur : Option Nat
  worker : Nat → Worker
  started : Nat
  caller : Option (Nat × Desired)
  last : Option Desired
  failed : Bool

inductive HandOffLabel
  | reconcile (port : ServicePort) (svc : ObjectKey) (policy : TrafficPolicy)
      (aff : AffinityConfig) (eps : List Endpoint)
  | reconcileDelete
  | send
  | stopped
  | barrier (i : Nat)
  | dequeue (i : Nat)
  | stopRun (i : Nat)
  | install (i : Nat)
  | tableDelete (i : Nat)
  | removeWorker (i : Nat)
  | closeStop (i : Nat)
  | elsewhere (k : PortKey) (d : Desired)

def Worker.goto (w : Worker) (pc : WorkerPC) : Worker := ⟨w.ch, pc, w.stop⟩

def Worker.push (w : Worker) (e : PortEvent) : Worker := ⟨w.ch ++ [e], w.pc, w.stop⟩

def newWorker : Worker := ⟨[], .running, false⟩

def noWorker : Worker := ⟨[], .exited, false⟩

def RoutingTable.applyDesired (api : Netv1) (t : RoutingTable) (key : PortKey) :
    Desired → RoutingTable
  | .install svc policy aff eps => t.installEndpoints api key svc eps policy aff
  | .absent => t.delete key

namespace HandOff

def setWorker (s : HandOff) (i : Nat) (w : Worker) : HandOff :=
  { s with worker := Function.update s.worker i w }

/-- `worker`: the mapped worker, or a new one. The caller goes on to its select. -/
def lookup (s : HandOff) (d : Desired) : HandOff :=
  match s.cur with
  | some i => { s with caller := some (i, d), last := some d }
  | none =>
    { s.setWorker s.started newWorker with
      cur := some s.started
      started := s.started + 1
      caller := some (s.started, d)
      last := some d }

def dequeue (s : HandOff) (i : Nat) : Option HandOff :=
  match s.worker i with
  | ⟨.barrier :: ch, .running, stop⟩ => some (s.setWorker i ⟨ch, .running, stop⟩)
  | ⟨.desired (.install svc policy aff eps) :: ch, .running, stop⟩ =>
    some (s.setWorker i ⟨ch, .installing svc policy aff eps, stop⟩)
  | ⟨.desired .absent :: ch, .running, stop⟩ => some (s.setWorker i ⟨ch, .deleting, stop⟩)
  | _ => none

section

variable (api : Netv1) (exemptVIPs : Finset Addr) (key : PortKey)

/-- A reconcile of `key`, up to its select. A VIP that a node-local binder owns
is left alone: such a call asks for no entry. -/
def reconcile (s : HandOff) (port : ServicePort) (d : Desired) : Option HandOff :=
  if (⟨key.clusterIP, port.port, defaultProto port.protocol⟩ : PortKey) ≠ key then none
  else match reconcileTarget exemptVIPs key.clusterIP (some port) with
    | .error _ => some { s with failed := true }
    | .ok none => some { s with last := some .absent }
    | .ok (some _) => some (s.lookup d)

def step (s : HandOff) : HandOffLabel → Option HandOff
  | .reconcile port svc policy aff eps =>
    match s.caller with
    | none => s.reconcile exemptVIPs key port (.install svc policy aff eps)
    | some _ => none
  | .reconcileDelete =>
    match s.caller, s.cur with
    | none, none => some { s with last := some .absent }
    | none, some i => some { s with caller := some (i, .absent), last := some .absent }
    | some _, _ => none
  | .send =>
    match s.caller with
    | some (i, d) =>
      if (s.worker i).ch.length < workerBuffer then
        some { s.setWorker i ((s.worker i).push (.desired d)) with
          caller := none }
      else none
    | none => none
  | .stopped =>
    match s.caller with
    | some (i, d) =>
      if (s.worker i).stop then some { s with caller := none, failed := s.failed || d ≠ .absent }
      else none
    | none => none
  | .barrier i =>
    if i < s.started ∧ (s.worker i).ch.length < workerBuffer then
      some (s.setWorker i ((s.worker i).push .barrier))
    else none
  | .dequeue i => s.dequeue i
  | .stopRun i =>
    match s.worker i with
    | ⟨ch, .running, true⟩ => some (s.setWorker i ⟨ch, .exited, true⟩)
    | _ => none
  | .install i =>
    match (s.worker i).pc with
    | .installing svc policy aff eps =>
      some { s.setWorker i ((s.worker i).goto .running) with
        table := s.table.installEndpoints api key svc eps policy aff }
    | _ => none
  | .tableDelete i =>
    match (s.worker i).pc with
    | .deleting =>
      some { s.setWorker i ((s.worker i).goto .removing) with table := s.table.delete key }
    | _ => none
  | .removeWorker i =>
    match (s.worker i).pc with
    | .removing =>
      if s.cur = some i then
        some { s.setWorker i ((s.worker i).goto .closing) with cur := none }
      else some (s.setWorker i ((s.worker i).goto .exited))
    | _ => none
  | .closeStop i =>
    match (s.worker i).pc with
    | .closing => some (s.setWorker i ⟨(s.worker i).ch, .exited, true⟩)
    | _ => none
  | .elsewhere k d =>
    if k ≠ key then some { s with table := s.table.applyDesired api k d } else none

end

def start (cfg : TableConfig) : HandOff :=
  ⟨newRoutingTable cfg, none, fun _ => noWorker, 0, none, none, false⟩

/-- The call has returned, and every started worker is idle or has exited. -/
def Quiescent (s : HandOff) : Prop :=
  s.caller = none ∧ ∀ i < s.started,
    ((s.worker i).pc = .running ∧ (s.worker i).ch = []) ∨ (s.worker i).pc = .exited

end HandOff

def handOffMachine (api : Netv1) (exemptVIPs : Finset Addr) (cfg : TableConfig) (key : PortKey) :
    Machine HandOff HandOffLabel where
  init s := s = .start cfg
  step s l := s.step api exemptVIPs key l

/-- A worker that has not seen a delete: it is in its loop or installing, and no
delete is in its channel. -/
def Worker.Undeleted (w : Worker) : Prop :=
  (match w.pc with
    | .running => True
    | .installing _ _ _ _ => True
    | _ => False) ∧ .desired .absent ∉ w.ch

/-- The condition: a reconcile finds no worker in the map, or one that has not
seen a delete. -/
def NoDeleteAhead (s : HandOff) : HandOffLabel → Prop
  | .reconcile _ _ _ _ _ => ∀ i, s.cur = some i → (s.worker i).Undeleted
  | _ => True

/-! ## What is still to be applied -/

def PortEvent.desired? : PortEvent → Option Desired
  | .barrier => none
  | .desired d => some d

def WorkerPC.inflight : WorkerPC → List Desired
  | .installing svc policy aff eps => [.install svc policy aff eps]
  | .deleting => [.absent]
  | .removing => [.absent]
  | _ => []

def WorkerPC.live : WorkerPC → Bool
  | .closing => false
  | .exited => false
  | _ => true

def Worker.events (w : Worker) : List Desired := w.pc.inflight ++ w.ch.filterMap PortEvent.desired?

lemma Worker.events_push (w : Worker) (d : Desired) :
    (w.push (.desired d)).events = w.events ++ [d] := by
  simp [events, push, PortEvent.desired?]

lemma Worker.events_push_barrier (w : Worker) : (w.push .barrier).events = w.events := by
  simp [events, push, PortEvent.desired?]

lemma Worker.events_goto (w : Worker) (pc : WorkerPC) :
    (w.goto pc).events = pc.inflight ++ w.ch.filterMap PortEvent.desired? := rfl

lemma Worker.Undeleted.absent_notMem {w : Worker} (h : w.Undeleted) : .absent ∉ w.events := by
  obtain ⟨hpc, hch⟩ := h
  have hqueue : Desired.absent ∉ w.ch.filterMap PortEvent.desired? := by
    rw [List.mem_filterMap]
    rintro ⟨e, he, hd⟩
    cases e with
    | barrier => cases hd
    | desired d =>
      cases hd
      exact hch he
  unfold Worker.events
  cases hw : w.pc <;> simp_all [WorkerPC.inflight]

lemma RoutingTable.holds_applyDesired_ne (api : Netv1) (t : RoutingTable) {k key : PortKey}
    (hk : k ≠ key) (d d' : Desired) (h : t.Holds api key d') :
    (t.applyDesired api k d).Holds api key d' := by
  cases d with
  | install svc policy aff eps =>
    exact holds_congr api (t.installEndpoints_cfg api k svc eps policy aff)
      (t.entry_installEndpoints_ne api svc eps policy aff (Ne.symm hk)) h
  | absent => exact holds_congr api (t.delete_cfg k) (t.entry_delete_ne (Ne.symm hk)) h

section

variable (api : Netv1) (exemptVIPs : Finset Addr) (key : PortKey)

/-- The last event of the mapped worker asks for `d`, or the table already holds
it; without a mapped worker there is no entry. -/
def HandOff.Settled (s : HandOff) (d : Desired) : Prop :=
  match s.cur with
  | none => d = .absent
  | some i =>
    match (s.worker i).events.getLast? with
    | none => s.table.Holds api key d
    | some d' => d' = d

/-- One worker at most is live, and behind a delete its channel holds deletes only. -/
structure HandOffInv (s : HandOff) : Prop where
  live : ∀ i, s.cur = some i ↔ (s.worker i).pc.live = true
  bound : ∀ i, s.cur = some i → i < s.started
  stopped : ∀ i, (s.worker i).stop = true → (s.worker i).pc = .exited
  order : ∀ i, s.cur = some i →
    (s.worker i).events.Pairwise fun a b => a = Desired.absent → b = .absent
  gone : s.cur = none → s.table.Holds api key .absent
  removed : ∀ i, (s.worker i).pc = .removing → s.table.Holds api key .absent
  owned : ∀ i, s.cur = some i → ownsVIP exemptVIPs key.clusterIP = true
  idle : s.caller = none → ∀ d, s.last = some d → s.Settled api key d
  call : ∀ i d, s.caller = some (i, d) → s.last = some d ∧
    ((s.cur = some i ∧ (d ≠ .absent → .absent ∉ (s.worker i).events)) ∨
      (s.cur = none ∧ d = .absent))

variable {api exemptVIPs key} {s : HandOff} {i : Nat} {w : Worker}

lemma handOffInv_start (cfg : TableConfig) : HandOffInv api exemptVIPs key (.start cfg) where
  live _ := ⟨fun h => (nomatch h), fun h => (nomatch h)⟩
  bound _ h := nomatch h
  stopped _ h := nomatch h
  order _ h := nomatch h
  gone _ := ⟨rfl, rfl⟩
  removed _ h := nomatch h
  owned _ h := nomatch h
  idle _ _ h := nomatch h
  call _ _ h := nomatch h

/-! ## Steps of a worker -/

@[simp] lemma HandOff.setWorker_self : (s.setWorker i w).worker i = w := by
  simp [HandOff.setWorker]

lemma HandOff.setWorker_ne {j : Nat} (h : j ≠ i) : (s.setWorker i w).worker j = s.worker j := by
  simp [HandOff.setWorker, h]

lemma HandOff.eq_of_cur {j : Nat} (hcur : s.cur = some i) (hj : s.cur = some j) : j = i := by
  rw [hcur] at hj
  exact (Option.some.inj hj).symm

section

variable (h : HandOffInv api exemptVIPs key s) {s' : HandOff} {d : Desired}
include h

lemma HandOffInv.live_setWorker (hlive : w.pc.live = (s.worker i).pc.live) (j : Nat) :
    s.cur = some j ↔ ((s.setWorker i w).worker j).pc.live = true := by
  by_cases hj : j = i
  · subst hj
    rw [HandOff.setWorker_self, hlive]
    exact h.live j
  · rw [HandOff.setWorker_ne hj]
    exact h.live j

lemma HandOffInv.stopped_setWorker (hstop : w.stop = true → w.pc = .exited) (j : Nat)
    (hj : ((s.setWorker i w).worker j).stop = true) :
    ((s.setWorker i w).worker j).pc = .exited := by
  by_cases hji : j = i
  · subst hji
    rw [HandOff.setWorker_self] at hj ⊢
    exact hstop hj
  · rw [HandOff.setWorker_ne hji] at hj ⊢
    exact h.stopped j hj

lemma HandOffInv.stop_ne_true (hcur : s.cur = some i) : (s.worker i).stop ≠ true := by
  intro hstop
  have hlive := (h.live i).mp hcur
  rw [h.stopped i hstop] at hlive
  exact nomatch hlive

lemma HandOffInv.dead (hcur : s.cur ≠ some i) : (s.worker i).pc.live = false := by
  by_contra hl
  exact hcur ((h.live i).mpr (by simpa using hl))

lemma HandOffInv.removed_setWorker (hcur : s.cur = some i) {t : RoutingTable}
    (hremoved : w.pc = .removing → t.Holds api key .absent) (j : Nat)
    (hj : ((s.setWorker i w).worker j).pc = .removing) : t.Holds api key .absent := by
  by_cases hji : j = i
  · subst hji
    rw [HandOff.setWorker_self] at hj
    exact hremoved hj
  · rw [HandOff.setWorker_ne hji] at hj
    exact absurd (HandOff.eq_of_cur hcur ((h.live j).mpr (by rw [hj]; rfl))) hji

lemma HandOffInv.progress (hcur : s.cur = some i) {t : RoutingTable} (hlive : w.pc.live = true)
    (hstop : w.stop = (s.worker i).stop) (hevents : w.events = (s.worker i).events)
    (htable : ∀ d, w.events = [] → s.table.Holds api key d → t.Holds api key d)
    (hremoved : w.pc = .removing → t.Holds api key .absent) :
    HandOffInv api exemptVIPs key { s.setWorker i w with table := t } where
  live := h.live_setWorker (hlive.trans ((h.live i).mp hcur).symm)
  bound := h.bound
  stopped := h.stopped_setWorker fun hw => absurd (hstop ▸ hw) (h.stop_ne_true hcur)
  order j hj := by
    cases HandOff.eq_of_cur hcur hj
    simp only [HandOff.setWorker_self, hevents]
    exact h.order _ hcur
  gone hnone := by
    have : s.cur = none := hnone
    rw [hcur] at this
    exact nomatch this
  removed := h.removed_setWorker hcur hremoved
  owned := h.owned
  idle hidle d hd := by
    have hset := h.idle hidle d hd
    simp only [HandOff.Settled, HandOff.setWorker, hcur, Function.update_self] at hset ⊢
    rw [← hevents] at hset
    cases hl : w.events.getLast? with
    | some d' => simpa only [hl] using hset
    | none =>
      simp only [hl] at hset
      exact htable d (List.getLast?_eq_none_iff.mp hl) hset
  call j d hj := by
    obtain ⟨hlast, hc⟩ := h.call j d hj
    refine ⟨hlast, hc.imp_left fun ⟨hcj, hd⟩ => ⟨hcj, ?_⟩⟩
    cases HandOff.eq_of_cur hcur hcj
    simpa only [HandOff.setWorker_self, hevents] using hd

lemma HandOffInv.finish (hcur : s.cur = some i) {svc : ObjectKey} {policy : TrafficPolicy}
    {aff : AffinityConfig} {eps : List Endpoint}
    (hpc : (s.worker i).pc = .installing svc policy aff eps) :
    HandOffInv api exemptVIPs key { s.setWorker i ((s.worker i).goto .running) with
      table := s.table.installEndpoints api key svc eps policy aff } := by
  have hevents : (s.worker i).events = .install svc policy aff eps ::
      ((s.worker i).goto .running).events := by
    rw [Worker.events_goto, Worker.events, hpc]
    rfl
  have horder := h.order i hcur
  rw [hevents, List.pairwise_cons] at horder
  exact {
    live := h.live_setWorker (by rw [hpc]; rfl)
    bound := h.bound
    stopped := h.stopped_setWorker fun hw => absurd hw (h.stop_ne_true hcur)
    order := fun j hj => by
      cases HandOff.eq_of_cur hcur hj
      rw [HandOff.setWorker_self]
      exact horder.2
    gone := fun hnone => by
      have : s.cur = none := hnone
      rw [hcur] at this
      exact nomatch this
    removed := h.removed_setWorker hcur fun hw => nomatch hw
    owned := h.owned
    idle := fun hidle d hd => by
      have hset := h.idle hidle d hd
      simp only [HandOff.Settled, HandOff.setWorker, hcur, Function.update_self] at hset ⊢
      rw [hevents, List.getLast?_cons] at hset
      cases hl : ((s.worker i).goto .running).events.getLast? with
      | some d' => simpa [hl] using hset
      | none =>
        simp only [hl, Option.getD_none] at hset
        rw [← hset]
        exact holds_installEndpoints api s.table key svc eps policy aff
    call := fun j d hj => by
      obtain ⟨hlast, hc⟩ := h.call j d hj
      refine ⟨hlast, hc.imp_left fun ⟨hcj, hd⟩ => ⟨hcj, fun hne hmem => ?_⟩⟩
      cases HandOff.eq_of_cur hcur hcj
      rw [HandOff.setWorker_self] at hmem
      exact hd hne (hevents ▸ List.mem_cons_of_mem _ hmem) }

lemma HandOffInv.unmapped (hcur : s.cur ≠ some i) (hlive : w.pc.live = false)
    (hstop : w.stop = true → w.pc = .exited) : HandOffInv api exemptVIPs key (s.setWorker i w) := by
  have hne : ∀ {j}, s.cur = some j → j ≠ i := fun hj hji => hcur (hji ▸ hj)
  exact {
    live := h.live_setWorker (hlive.trans (h.dead hcur).symm)
    bound := h.bound
    stopped := h.stopped_setWorker hstop
    order := fun j hj => by
      rw [HandOff.setWorker_ne (hne hj)]
      exact h.order j hj
    gone := h.gone
    removed := fun j hj => by
      by_cases hji : j = i
      · subst hji
        rw [HandOff.setWorker_self] at hj
        rw [hj] at hlive
        exact nomatch hlive
      · rw [HandOff.setWorker_ne hji] at hj
        exact h.removed j hj
    owned := h.owned
    idle := fun hidle d hd => by
      have hset := h.idle hidle d hd
      unfold HandOff.Settled at hset ⊢
      cases hc : s.cur with
      | none => simpa only [HandOff.setWorker, hc] using hset
      | some j =>
        have hw : (s.setWorker i w).worker j = s.worker j := HandOff.setWorker_ne (hne hc)
        simp only [hc] at hset
        simp only [show (s.setWorker i w).cur = some j from hc, hw]
        exact hset
    call := fun j d hj => by
      obtain ⟨hlast, hc⟩ := h.call j d hj
      refine ⟨hlast, hc.imp_left fun ⟨hcj, hd⟩ => ⟨hcj, ?_⟩⟩
      rwa [HandOff.setWorker_ne (hne hcj)] }

lemma handOffInv_dequeue (hst : s.dequeue i = some s') : HandOffInv api exemptVIPs key s' := by
  unfold HandOff.dequeue at hst
  split at hst
  · rename_i ch stop hw
    cases hst
    refine h.progress ((h.live i).mpr (by rw [hw]; rfl)) rfl (by rw [hw]) ?_ (fun _ _ => id)
      fun hpc => nomatch hpc
    rw [hw]
    rfl
  · rename_i svc policy aff eps ch stop hw
    cases hst
    refine h.progress ((h.live i).mpr (by rw [hw]; rfl)) rfl (by rw [hw]) ?_ (fun _ _ => id)
      fun hpc => nomatch hpc
    rw [hw]
    rfl
  · rename_i ch stop hw
    cases hst
    refine h.progress ((h.live i).mpr (by rw [hw]; rfl)) rfl (by rw [hw]) ?_ (fun _ _ => id)
      fun hpc => nomatch hpc
    rw [hw]
    rfl
  · cases hst

lemma handOffInv_barrier : HandOffInv api exemptVIPs key
      (s.setWorker i ((s.worker i).push .barrier)) := by
  by_cases hcur : s.cur = some i
  · exact h.progress hcur ((h.live i).mp hcur) rfl (Worker.events_push_barrier _) (fun _ _ => id)
      fun hpc => h.removed i hpc
  · exact h.unmapped hcur (h.dead hcur) (h.stopped i)

lemma handOffInv_tableDelete (hpc : (s.worker i).pc = .deleting) : HandOffInv api exemptVIPs key
      { s.setWorker i ((s.worker i).goto .removing) with table := s.table.delete key } := by
  have hevents : ((s.worker i).goto .removing).events = (s.worker i).events := by
    rw [Worker.events_goto, Worker.events, hpc]
    rfl
  refine h.progress ((h.live i).mpr (by rw [hpc]; rfl)) rfl rfl hevents (fun d hnil => ?_)
    fun _ => holds_delete api s.table key
  exact nomatch hnil

lemma handOffInv_removeWorker (hpc : (s.worker i).pc = .removing) : HandOffInv api exemptVIPs key
      { s.setWorker i ((s.worker i).goto .closing) with cur := none } := by
  have hcur : s.cur = some i := (h.live i).mpr (by rw [hpc]; rfl)
  have hevents : (s.worker i).events = .absent :: (s.worker i).ch.filterMap PortEvent.desired? := by
    simp [Worker.events, hpc, WorkerPC.inflight]
  have horder := h.order i hcur
  rw [hevents, List.pairwise_cons] at horder
  exact {
    live := fun j => by
      refine ⟨fun hj => (nomatch hj), fun hj => ?_⟩
      by_cases hji : j = i
      · subst hji
        simp [HandOff.setWorker, Worker.goto, WorkerPC.live] at hj
      · simp only [HandOff.setWorker, Function.update_of_ne hji] at hj
        exact absurd (HandOff.eq_of_cur hcur ((h.live j).mpr hj)) hji
    bound := fun _ hj => nomatch hj
    stopped := h.stopped_setWorker fun hw => absurd hw (h.stop_ne_true hcur)
    order := fun _ hj => nomatch hj
    gone := fun _ => h.removed i hpc
    removed := fun _ _ => h.removed i hpc
    owned := fun _ hj => nomatch hj
    idle := fun hidle d hd => by
      have hset := h.idle hidle d hd
      simp only [HandOff.Settled, hcur, hevents, List.getLast?_cons] at hset
      -- the last of a list of deletes
      rw [HandOff.Settled, ← hset]
      cases hl : ((s.worker i).ch.filterMap PortEvent.desired?).getLast? with
      | none => rfl
      | some d' => exact horder.1 d' (List.mem_of_getLast? hl) rfl
    call := fun j d hj => by
      obtain ⟨hlast, ⟨hcj, hd⟩ | ⟨hnone, -⟩⟩ := h.call j d hj
      · refine ⟨hlast, .inr ⟨rfl, ?_⟩⟩
        by_contra hne
        cases HandOff.eq_of_cur hcur hcj
        exact hd hne (hevents ▸ List.mem_cons_self)
      · rw [hcur] at hnone
        exact nomatch hnone }

lemma handOffInv_send (hcaller : s.caller = some (i, d)) : HandOffInv api exemptVIPs key
      { s.setWorker i ((s.worker i).push (.desired d)) with
        caller := none } := by
  obtain ⟨hlast, ⟨hcur, hd⟩ | ⟨hnone, rfl⟩⟩ := h.call i d hcaller
  · exact {
      live := h.live_setWorker rfl
      bound := h.bound
      stopped := h.stopped_setWorker (h.stopped i)
      order := fun j hj => by
        cases HandOff.eq_of_cur hcur hj
        rw [HandOff.setWorker_self, Worker.events_push, List.pairwise_append]
        refine ⟨h.order _ hcur, List.pairwise_singleton _ _, fun a ha b hb hab => ?_⟩
        rw [List.mem_singleton.mp hb]
        by_contra hne
        exact hd hne (hab ▸ ha)
      gone := h.gone
      removed := h.removed_setWorker hcur fun hpc => h.removed i hpc
      owned := h.owned
      idle := fun _ d' hd' => by
        have hdd : d = d' := Option.some.inj (hlast.symm.trans hd')
        simp [HandOff.Settled, HandOff.setWorker, hcur, Worker.events_push, hdd]
      call := fun _ _ hj => nomatch hj }
  · have hcur : s.cur ≠ some i := by
      rw [hnone]
      exact nofun
    have h' := h.unmapped (w := (s.worker i).push (.desired .absent)) hcur (h.dead hcur)
      (h.stopped i)
    refine { h' with idle := fun _ d' hd' => ?_, call := fun _ _ hj => nomatch hj }
    have hdd : .absent = d' := Option.some.inj (hlast.symm.trans hd')
    simp [HandOff.Settled, HandOff.setWorker, hnone, hdd]

/-! ## Steps of the caller -/

lemma HandOffInv.called (hcur : s.cur = some i) (hd : d ≠ .absent → .absent ∉ (s.worker i).events) :
    HandOffInv api exemptVIPs key { s with caller := some (i, d), last := some d } :=
  { h with
    idle := fun hidle => nomatch hidle
    call := fun j d' hj => by
      cases hj
      exact ⟨rfl, .inl ⟨hcur, hd⟩⟩ }

lemma HandOffInv.returned (hcur : s.cur = none) (hidle : s.caller = none) :
    HandOffInv api exemptVIPs key { s with last := some .absent } :=
  { h with
    idle := fun _ d hd => by
      cases hd
      simp [HandOff.Settled, hcur]
    call := fun j d hj => by
      rw [show _ = s.caller from rfl, hidle] at hj
      exact nomatch hj }

lemma handOffInv_spawn (hcur : s.cur = none) (how : ownsVIP exemptVIPs key.clusterIP = true) :
    HandOffInv api exemptVIPs key
      { s.setWorker s.started newWorker with
        cur := some s.started, started := s.started + 1, caller := none, last := none } := by
  have hdead : ∀ j, (s.worker j).pc.live = false := fun j => h.dead (by rw [hcur]; exact nofun)
  have hself : ∀ {j}, some s.started = some j → j = s.started :=
    fun hj => (Option.some.inj hj).symm
  exact {
    live := fun j => by
      by_cases hj : j = s.started
      · subst hj
        simp [newWorker, WorkerPC.live]
      · rw [show _ = (s.worker j).pc from congrArg Worker.pc (HandOff.setWorker_ne hj), hdead]
        exact ⟨fun hc => absurd (hself hc) hj, fun hl => nomatch hl⟩
    bound := fun j hj => by
      cases hself hj
      exact Nat.lt_succ_self _
    stopped := h.stopped_setWorker fun hw => nomatch hw
    order := fun j hj => by
      cases hself hj
      rw [show _ = newWorker from HandOff.setWorker_self]
      exact .nil
    gone := fun hnone => nomatch hnone
    removed := fun _ _ => h.gone hcur
    owned := fun _ _ => how
    idle := fun _ _ hd => nomatch hd
    call := fun _ _ hj => nomatch hj }

lemma handOffInv_lookup (how : ownsVIP exemptVIPs key.clusterIP = true)
    (hok : ∀ i, s.cur = some i → (s.worker i).Undeleted) :
    HandOffInv api exemptVIPs key (s.lookup d) := by
  unfold HandOff.lookup
  split
  · rename_i i hcur
    exact h.called hcur fun _ => (hok i hcur).absent_notMem
  · rename_i hcur
    refine (handOffInv_spawn h hcur how).called (i := s.started) (d := d) rfl fun _ => ?_
    simp [newWorker, Worker.events, WorkerPC.inflight]

lemma handOffInv_reconcile {port : ServicePort} (hidle : s.caller = none)
    (hok : ∀ i, s.cur = some i → (s.worker i).Undeleted)
    (hst : s.reconcile exemptVIPs key port d = some s') : HandOffInv api exemptVIPs key s' := by
  unfold HandOff.reconcile at hst
  split_ifs at hst
  split at hst
  · cases hst
    exact { h with }
  · rename_i htarget
    cases hst
    have how := ownsVIP_of_reconcileTarget htarget
    refine h.returned ?_ hidle
    -- a key of an exempt VIP never gets a worker
    by_contra hne
    obtain ⟨i, hi⟩ := Option.ne_none_iff_exists'.mp hne
    rw [h.owned i hi] at how
    exact nomatch how
  · rename_i htarget
    cases hst
    exact handOffInv_lookup h (ownsVIP_of_reconcileTarget htarget) hok

lemma handOffInv_stopped (hcaller : s.caller = some (i, d)) (hstop : (s.worker i).stop = true) :
    HandOffInv api exemptVIPs key
      { s with caller := none, failed := s.failed || d ≠ .absent } := by
  obtain ⟨hlast, ⟨hcur, -⟩ | ⟨hnone, rfl⟩⟩ := h.call i d hcaller
  · exact absurd hstop (h.stop_ne_true hcur)
  · refine { h with idle := fun _ d' hd' => ?_, call := fun _ _ hj => nomatch hj }
    have hdd : .absent = d' := Option.some.inj (hlast.symm.trans hd')
    simp [HandOff.Settled, hnone, hdd]

lemma handOffInv_elsewhere {k : PortKey} (hk : k ≠ key) (d : Desired) :
    HandOffInv api exemptVIPs key { s with table := s.table.applyDesired api k d } :=
  { h with
    gone := fun hnone => s.table.holds_applyDesired_ne api hk d _ (h.gone hnone)
    removed := fun i hi => s.table.holds_applyDesired_ne api hk d _ (h.removed i hi)
    idle := fun hidle d' hd' => by
      have hset := h.idle hidle d' hd'
      unfold HandOff.Settled at hset ⊢
      cases hc : s.cur with
      | none => simpa only [hc] using hset
      | some i =>
        simp only [hc] at hset ⊢
        cases hl : (s.worker i).events.getLast? with
        | some d'' => simpa only [hl] using hset
        | none =>
          simp only [hl] at hset ⊢
          exact s.table.holds_applyDesired_ne api hk d _ hset }

/-- A hand-off with no delete ahead keeps the order of events. -/
lemma handOffInv_step {l : HandOffLabel} (hok : NoDeleteAhead s l)
    (hst : s.step api exemptVIPs key l = some s') : HandOffInv api exemptVIPs key s' := by
  cases l
  case dequeue i => exact handOffInv_dequeue h hst
  all_goals simp only [HandOff.step] at hst
  case reconcile =>
    split at hst
    next hidle => exact handOffInv_reconcile h hidle hok hst
    next => cases hst
  case removeWorker i =>
    split at hst
    next hpc =>
      rw [if_pos ((h.live i).mpr (by rw [hpc]; rfl))] at hst
      cases hst
      exact handOffInv_removeWorker h hpc
    next => cases hst
  all_goals (repeat' split at hst) <;> cases hst
  next hidle hcur => exact h.returned hcur hidle
  next hcur => exact h.called hcur fun hne => absurd rfl hne
  next hcaller _ => exact handOffInv_send h hcaller
  next hcaller hstop => exact handOffInv_stopped h hcaller hstop
  next => exact handOffInv_barrier h
  next i _ _ hw =>
    have hexit := h.stopped i (by rw [hw])
    rw [hw] at hexit
    exact nomatch hexit
  next hpc => exact h.finish ((h.live _).mpr (by rw [hpc]; rfl)) hpc
  next hpc => exact handOffInv_tableDelete h hpc
  next i _ hpc =>
    refine h.unmapped (fun hcur => ?_) rfl fun _ => rfl
    have hlive := (h.live i).mp hcur
    rw [hpc] at hlive
    exact nomatch hlive
  next hk => exact handOffInv_elsewhere h hk _

lemma HandOffInv.holds_last (hq : s.Quiescent) (hd : s.last = some d) :
    s.table.Holds api key d := by
  have hset := h.idle hq.1 d hd
  unfold HandOff.Settled at hset
  cases hc : s.cur with
  | none =>
    simp only [hc] at hset
    rw [hset]
    exact h.gone hc
  | some i =>
    have hlive := (h.live i).mp hc
    rcases hq.2 i (h.bound i hc) with ⟨hrun, hch⟩ | hexit
    · have hevents : (s.worker i).events = [] := by
        simp [Worker.events, hrun, hch, WorkerPC.inflight]
      simpa only [hc, hevents, List.getLast?_nil] using hset
    · rw [hexit] at hlive
      exact nomatch hlive

end

end

/-- Where no call reconciles a worker that has a delete ahead, the table holds what the last call
asked for once every worker has drained its channel. -/
theorem handOff_keeps_last (api : Netv1) (exemptVIPs : Finset Addr) (cfg : TableConfig)
    (key : PortKey) {s : HandOff}
    (h : (handOffMachine api exemptVIPs cfg key).Reach NoDeleteAhead s) (hq : s.Quiescent)
    {d : Desired} (hd : s.last = some d) : s.table.Holds api key d := by
  suffices hinv : HandOffInv api exemptVIPs key s from hinv.holds_last hq hd
  refine Machine.Reach.invariant ?_ ?_ h
  · rintro _ rfl
    exact handOffInv_start cfg
  · intro s l s' hs hok hst
    exact handOffInv_step hs hok hst

instance (w : Worker) : Decidable w.Undeleted :=
  decidable_of_iff ((w.pc.live && w.pc.inflight.all (· ≠ .absent)) = true ∧
    .desired .absent ∉ w.ch) (by
      unfold Worker.Undeleted
      cases w.pc <;> simp [WorkerPC.live, WorkerPC.inflight])

instance (s : HandOff) (l : HandOffLabel) : Decidable (NoDeleteAhead s l) :=
  match l with
  | .reconcile _ _ _ _ _ => decidable_of_iff (s.cur.all fun i => decide (s.worker i).Undeleted)
      (by simp [NoDeleteAhead, Option.all_eq_true])
  | .reconcileDelete | .send | .stopped | .barrier _ | .dequeue _ | .stopRun _ | .install _
  | .tableDelete _ | .removeWorker _ | .closeStop _ | .elsewhere _ _ => isTrue trivial

instance (s : HandOff) : Decidable s.Quiescent :=
  inferInstanceAs (Decidable (s.caller = none ∧ ∀ i < s.started,
    ((s.worker i).pc = .running ∧ (s.worker i).ch = []) ∨ (s.worker i).pc = .exited))

def httpKey : PortKey := ⟨"10.43.0.10", 80, .TCP⟩

def httpReconcile (addr : String) : HandOffLabel :=
  .reconcile ⟨"http", 80, 0, .TCP, 0⟩ ⟨"default", "web"⟩ .trafficCluster ⟨.affinityNone, 0⟩
    [⟨addr, 8080, true⟩]

def reinstallRun : List HandOffLabel :=
  [httpReconcile "10.42.0.5", .send, .dequeue 0, .install 0, .reconcileDelete, .send, .dequeue 0,
    .tableDelete 0, .removeWorker 0, httpReconcile "10.42.0.6", .send, .closeStop 0, .dequeue 1,
    .install 1]

theorem handOff_keeps_last_reinstallRun :
    ∃ s, (handOffMachine Netv1.standard ∅ (defaultConfig .zero) httpKey).run
        (.start (defaultConfig .zero)) reinstallRun = some s ∧
      s.table.Holds Netv1.standard httpKey (.install ⟨"default", "web"⟩ .trafficCluster
        ⟨.affinityNone, 0⟩ [⟨"10.42.0.6", 8080, true⟩]) := by
  exact Machine.exists_run_of (P := fun s => s.Quiescent ∧ s.last = some (.install
    ⟨"default", "web"⟩ .trafficCluster ⟨.affinityNone, 0⟩ [⟨"10.42.0.6", 8080, true⟩])) rfl
    (by decide) (by decide) fun s hreach hfacts => handOff_keeps_last Netv1.standard ∅
      (defaultConfig .zero) httpKey hreach hfacts.1 hfacts.2

/-- A delete ahead of an install takes the worker down before it reads the install. -/
theorem handOff_loses_install :
    ∃ s, (handOffMachine Netv1.standard ∅ (defaultConfig .zero) httpKey).Reach Machine.always s ∧
      (handOffMachine Netv1.standard ∅ (defaultConfig .zero) httpKey).run
        (.start (defaultConfig .zero))
        [httpReconcile "10.42.0.5", .send, .dequeue 0, .install 0, .reconcileDelete, .send,
          httpReconcile "10.42.0.6", .send, .dequeue 0, .tableDelete 0, .removeWorker 0,
          .closeStop 0] = some s ∧
      s.Quiescent ∧ s.failed = false ∧
      ∃ d, s.last = some d ∧ ¬ s.table.Holds Netv1.standard httpKey d := by
  refine Machine.Reach.exists_run_of (P := fun s => s.Quiescent ∧ s.failed = false ∧
    s.last = some (.install ⟨"default", "web"⟩ .trafficCluster ⟨.affinityNone, 0⟩
      [⟨"10.42.0.6", 8080, true⟩]) ∧ s.table.metas.lookup httpKey = none) rfl
    (Machine.meets_always _ _) (by decide) ?_
  rintro s ⟨hq, hfailed, hlast, hmeta⟩
  refine ⟨hq, hfailed, _, hlast, ?_⟩
  rintro ⟨⟨m, hm, -⟩, -⟩
  rw [hmeta] at hm
  exact nomatch hm

end DarwinNet.Proxy
