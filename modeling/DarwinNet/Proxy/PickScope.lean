import DarwinNet.Proxy.AffinityRace

/-!
Which backend a pick returns, in every interleaving of `Pick`, `PickSticky` and
`PickStickyCluster` with installs, deletes and sweeps. `PickRun` adds to the race of
`AffinityRace` the plain picks and the answers: a call keeps its arguments and the table
before and after each of its own steps, and stays on record when it returns.

A backend that is returned is in the pool its scope is meant to pick from (`eligible`) of a
snapshot the call saw, an internal pick is dropped only where that pool is empty, and a client
whose binding is `Bound` at each of the call's steps gets the backend it is bound to
(`picks_scoped_and_sticky`). Nothing that concerns other ports takes such a binding away.
-/

namespace DarwinNet.Proxy

open Lib Netip Api

inductive PickArgs
  | pick (key : PortKey)
  | sticky (p : StickyPick)

def PickArgs.key : PickArgs → PortKey
  | .pick key => key
  | .sticky p => p.key

def PickArgs.external : PickArgs → Bool
  | .pick _ => false
  | .sticky p => p.external

abbrev OwnSteps := List (RoutingTable × RoutingTable)

structure PickCall where
  args : PickArgs
  own : OwnSteps

structure PickReturn extends PickCall where
  answer : Except PickError Backend

structure PickRun where
  race : AffinityRace
  calls : Nat → Option PickCall
  returned : List PickReturn

inductive PickLabel
  | pick (tid : Nat) (key : PortKey)
  | race (l : RaceLabel)

def RaceLabel.thread : RaceLabel → Option Nat
  | .begin tid _ => some tid
  | .acquire tid => some tid
  | .reload tid => some tid
  | .decide tid _ => some tid
  | .validate tid => some tid
  | .commit tid => some tid
  | .sweepAcquire tid _ => some tid
  | .sweepLoad tid => some tid
  | .sweepFinish tid => some tid
  | _ => none

/-- What a pick returns at a load: an error, or a backend when affinity is off. -/
def AffinityRace.loadAnswer (s : AffinityRace) (p : StickyPick) :
    Option (Except PickError Backend) :=
  match s.table.scopedPool p.key p.external with
  | (_, .error e) => some (.error e)
  | (t, .ok sc) =>
    if sc.st.affinityMode ≠ .affinityClientIP then some (.ok (t.roundRobin sc.st sc.pool).2)
    else none

def AffinityRace.answer (s : AffinityRace) : RaceLabel → Option (Except PickError Backend)
  | .begin _ p => s.loadAnswer p
  | .reload tid =>
    match s.pc tid with
    | .locked p => s.loadAnswer p
    | _ => none
  | .decide tid victim =>
    match s.pc tid with
    | .deciding p sc =>
      match s.table.stickyReuse p.key p.client p.now sc victim with
      | (_, .done r) => some r
      | (_, .record _ _) => none
    | _ => none
  | .validate tid =>
    match s.pc tid with
    | .recording p st be =>
      if s.table.snap.states.lookup p.key = some st then none else some (.ok be)
    | _ => none
  | .commit tid =>
    match s.pc tid with
    | .committing _ be => some (.ok be)
    | _ => none
  | _ => none

namespace PickRun

def callAt (s : PickRun) (tid : Nat) : RaceLabel → Option PickCall
  | .begin _ p => some ⟨.sticky p, []⟩
  | _ => s.calls tid

def ownStep (s : PickRun) (tid : Nat) (race : AffinityRace) (call : Option PickCall)
    (answer : Option (Except PickError Backend)) : PickRun :=
  let call := call.map fun c => { c with own := (s.race.table, race.table) :: c.own }
  match call, answer with
  | some c, some r => ⟨race, Function.update s.calls tid none, ⟨c, r⟩ :: s.returned⟩
  | call, _ => ⟨race, Function.update s.calls tid call, s.returned⟩

def observe (s : PickRun) (l : RaceLabel) (race : AffinityRace) : PickRun :=
  match l.thread with
  | none => { s with race }
  | some tid => s.ownStep tid race (s.callAt tid l) (s.race.answer l)

def step (api : Netv1) (s : PickRun) : PickLabel → Option PickRun
  | .pick tid key =>
    match s.race.pc tid with
    | .idle =>
      some (s.ownStep tid (s.race.move tid .idle (s.race.table.pick key).1 s.race.affMu)
        (some ⟨.pick key, []⟩) (some (s.race.table.pick key).2))
    | _ => none
  | .race l => (s.race.step api l).map (s.observe l)

end PickRun

def pickMachine (api : Netv1) : Machine PickRun PickLabel where
  init s := ∃ cfg, s = ⟨⟨newRoutingTable cfg, fun _ => .idle, none, none⟩, fun _ => none, []⟩
  step s l := s.step api l

/-! ## Scopes -/

/-- The pool a scope picks from: all Ready backends, or the node-local ones for an internal
pick under the Local policy when locality is known. -/
def PortState.eligible (cfg : TableConfig) (st : PortState) (external : Bool) : List Backend :=
  if external ∨ st.policy = .trafficCluster ∨ ¬cfg.podCIDR.isValid then st.all
  else st.all.filter fun b => b.locality.nodeLocal

/-- The state is one that an install leaves. -/
structure PortState.Installed (api : Netv1) (cfg : TableConfig) (st : PortState) : Prop where
  ready : ∃ eps, st.all = readyBackends api cfg eps
  nonempty : st.all ≠ []
  locals : st.locals = localBackends st.all
  allSet : st.allSet = addrSet st.all
  localSet : st.localSet = addrSet st.locals
  timeout : st.affinityMode = .affinityClientIP → 0 < st.affinityTimeout

/-- Every state was installed, and a bound backend has the locality of its address. -/
structure RoutingTable.WellFormed (api : Netv1) (t : RoutingTable) : Prop where
  states : ∀ key st, t.snap.states.lookup key = some st → st.Installed api t.cfg
  binds : ∀ key client b, (t.binds key).lookup client = some b →
    b.backend.locality = t.cfg.classify b.backend.addr.addr

/-- The client of `p` is bound to `be`, idle for less than the timeout of the port's
affinity, and `be` is in the scope's pool. -/
def RoutingTable.Bound (t : RoutingTable) (p : StickyPick) (be : Backend) : Prop :=
  ∃ st b, t.snap.states.lookup p.key = some st ∧ st.affinityMode = .affinityClientIP ∧
    (t.binds p.key).lookup p.client = some b ∧ b.backend = be ∧
    p.now - b.lastSeen < st.affinityTimeout ∧ be ∈ st.eligible t.cfg p.external

/-- One of the steps saw a snapshot in which `be` is in the scope's pool. -/
def Granted (api : Netv1) (cfg : TableConfig) (own : OwnSteps) (args : PickArgs)
    (be : Backend) : Prop :=
  ∃ e ∈ own, ∃ st, e.1.snap.states.lookup args.key = some st ∧ st.Installed api cfg ∧
    be ∈ st.eligible cfg args.external

/-- One of the steps saw a snapshot with Ready backends for the Local policy, none of them
node-local. -/
def NoneLocal (api : Netv1) (cfg : TableConfig) (own : OwnSteps) (key : PortKey) : Prop :=
  ∃ e ∈ own, ∃ st, e.1.snap.states.lookup key = some st ∧ st.Installed api cfg ∧
    st.policy = .trafficLocal ∧ st.all ≠ [] ∧
    st.all.filter (fun b => b.locality.nodeLocal) = []

/-- None of the steps turns the cursor. -/
def Quiet (own : OwnSteps) : Prop := ∀ e ∈ own, e.2.cursor = e.1.cursor

/-- What a pick returned was due to it at one of its own steps. -/
structure PickReturn.Correct (api : Netv1) (cfg : TableConfig) (r : PickReturn) : Prop where
  granted : ∀ be, r.answer = .ok be → Granted api cfg r.own r.args be
  dropped : r.answer = .error .errNoLocalBackends →
    r.args.external = false ∧ cfg.podCIDR.isValid = true ∧ NoneLocal api cfg r.own r.args.key
  sticky : ∀ p be, r.args = .sticky p → (∀ e ∈ r.own, e.1.Bound p be) →
    r.answer = .ok be ∧ Quiet r.own

section

variable {api : Netv1} {t t' : RoutingTable} {key : PortKey} {external : Bool} {cfg : TableConfig}
  {st : PortState} {sc : Scope} {p : StickyPick}

lemma locality_of_mem_readyBackends {eps : List Endpoint} {b : Backend}
    (h : b ∈ readyBackends api cfg eps) : b.locality = cfg.classify b.addr.addr := by
  rw [readyBackends, List.mem_insertionSort] at h
  obtain ⟨ap, -, rfl⟩ := List.mem_map.mp h
  rfl

lemma PortState.mem_all_of_mem_eligible {b : Backend} (h : b ∈ st.eligible cfg external) :
    b ∈ st.all := by
  unfold eligible at h
  split at h
  · exact h
  · exact (List.mem_filter.mp h).1

lemma PortState.Installed.locality {b : Backend} (h : st.Installed api cfg) (hb : b ∈ st.all) :
    b.locality = cfg.classify b.addr.addr := by
  obtain ⟨eps, heps⟩ := h.ready
  exact locality_of_mem_readyBackends (heps ▸ hb)

lemma PortState.Installed.eligible_eq_nil (h : st.Installed api cfg)
    (hnil : st.eligible cfg external = []) :
    external = false ∧ cfg.podCIDR.isValid = true ∧ st.policy = .trafficLocal ∧
      st.all.filter (fun b => b.locality.nodeLocal) = [] := by
  unfold eligible at hnil
  split_ifs at hnil with hall
  · exact absurd hnil h.nonempty
  obtain ⟨hext, hrest⟩ := not_or.mp hall
  obtain ⟨hpol, hcidr⟩ := not_or.mp hrest
  cases hp : st.policy with
  | trafficCluster => exact absurd hp hpol
  | trafficLocal => exact ⟨by simpa using hext, not_not.mp hcidr, rfl, hnil⟩

lemma activePool_snd (external : Bool) (h : st.Installed api t.cfg) : (t.activePool st external).2 =
      if st.eligible t.cfg external = [] then .error .errNoLocalBackends
      else .ok (st.eligible t.cfg external, addrSet (st.eligible t.cfg external)) := by
  have hall : st.eligible t.cfg external = st.all →
      (Except.ok (st.all, st.allSet) : Except PickError _) =
        if st.eligible t.cfg external = [] then .error .errNoLocalBackends
        else .ok (st.eligible t.cfg external, addrSet (st.eligible t.cfg external)) := by
    intro heq
    rw [heq, if_neg h.nonempty, h.allSet]
  unfold RoutingTable.activePool
  by_cases hext : external = true
  · rw [if_pos hext]
    exact hall (if_pos (.inl hext))
  rw [if_neg hext]
  by_cases hpol : st.policy = .trafficLocal
  · rw [if_pos hpol]
    by_cases hcidr : t.cfg.podCIDR.isValid = true
    · have hlocal : st.eligible t.cfg external = st.locals := by
        rw [PortState.eligible, if_neg (by simp [hext, hpol, hcidr]), h.locals]
        rfl
      rw [if_pos hcidr, hlocal, ← h.localSet]
      split <;> rfl
    · rw [if_neg hcidr]
      exact hall (if_pos (.inr (.inr hcidr)))
  · rw [if_neg hpol]
    refine hall (if_pos (.inr (.inl ?_)))
    cases hp : st.policy with
    | trafficCluster => rfl
    | trafficLocal => exact absurd hp hpol

lemma scopedPool_snd (external : Bool) (hinst : st.Installed api t.cfg)
    (hst : t.snap.states.lookup key = some st) : (t.scopedPool key external).2 =
      if st.eligible t.cfg external = [] then .error .errNoLocalBackends
      else .ok ⟨st, st.eligible t.cfg external, addrSet (st.eligible t.cfg external)⟩ := by
  have hact := activePool_snd external hinst
  unfold RoutingTable.scopedPool
  rw [hst]
  simp only [if_neg hinst.nonempty]
  cases hcase : t.activePool st external with
  | mk u r =>
  rw [hcase] at hact
  simp only at hact
  subst hact
  split_ifs with hnil
  · rfl
  · simp only [if_neg hnil]

lemma scopedPool_of_none (h : t.snap.states.lookup key = none) :
    t.scopedPool key external = (t, .error .errNoBackends) := by
  rw [RoutingTable.scopedPool, h]

lemma exists_state_of_scopedPool {r : Except PickError Scope} (hr : r ≠ .error .errNoBackends)
    (h : t.scopedPool key external = (t', r)) : ∃ st, t.snap.states.lookup key = some st := by
  cases hst : t.snap.states.lookup key with
  | none =>
    rw [scopedPool_of_none hst] at h
    cases h
    exact absurd rfl hr
  | some st => exact ⟨st, rfl⟩

structure Scope.Loaded (api : Netv1) (cfg : TableConfig) (external : Bool) (sc : Scope) :
    Prop where
  installed : sc.st.Installed api cfg
  pool : sc.pool = sc.st.eligible cfg external
  set : sc.set = addrSet sc.pool
  nonempty : sc.pool ≠ []

lemma loaded_of_scopedPool (hwf : t.WellFormed api) (h : t.scopedPool key external = (t', .ok sc)) :
    t.snap.states.lookup key = some sc.st ∧ sc.Loaded api t.cfg external := by
  obtain ⟨st, hst⟩ := exists_state_of_scopedPool (by simp) h
  have hinst := hwf.states key st hst
  have hsnd := scopedPool_snd external hinst hst
  rw [h] at hsnd
  split_ifs at hsnd with hnil
  cases hsnd
  exact ⟨hst, hinst, rfl, rfl, hnil⟩

lemma noneLocal_of_scopedPool (hwf : t.WellFormed api)
    (h : t.scopedPool key external = (t', .error .errNoLocalBackends)) :
    external = false ∧ t.cfg.podCIDR.isValid = true ∧
      ∃ st, t.snap.states.lookup key = some st ∧ st.Installed api t.cfg ∧
        st.policy = .trafficLocal ∧ st.all ≠ [] ∧
        st.all.filter (fun b => b.locality.nodeLocal) = [] := by
  obtain ⟨st, hst⟩ := exists_state_of_scopedPool (by simp) h
  have hinst := hwf.states key st hst
  have hsnd := scopedPool_snd external hinst hst
  rw [h] at hsnd
  split_ifs at hsnd with hnil
  obtain ⟨hext, hcidr, hpol, hloc⟩ := hinst.eligible_eq_nil hnil
  exact ⟨hext, hcidr, st, hst, hinst, hpol, hinst.nonempty, hloc⟩

lemma mem_roundRobin (st : PortState) {pool : List Backend} (h : pool ≠ []) :
    (t.roundRobin st pool).2 ∈ pool := by
  have hlt : t.cursor st.id % pool.length < pool.length :=
    Nat.mod_lt _ (List.length_pos_iff.mpr h)
  have hget : (t.roundRobin st pool).2 = pool[t.cursor st.id % pool.length] := by
    simp [RoutingTable.roundRobin, hlt]
  rw [hget]
  exact List.getElem_mem hlt

lemma timeSub_lt {a b timeout : Int} (h : a - b < timeout) (hpos : 0 < timeout) :
    timeSub a b < timeout := by
  unfold timeSub
  omega

/-- The client has a binding to `be` that is in scope and not expired. -/
def RoutingTable.Hit (t : RoutingTable) (p : StickyPick) (sc : Scope) (be : Backend) : Prop :=
  ∃ b, (t.binds p.key).lookup p.client = some b ∧ b.backend = be ∧ b.backend.addr ∈ sc.set ∧
    timeSub p.now b.lastSeen < sc.st.affinityTimeout

lemma RoutingTable.Bound.scopedPool {be : Backend} (h : t.Bound p be) (hwf : t.WellFormed api) :
    ∃ t' sc, t.scopedPool p.key p.external = (t', .ok sc) ∧
      sc.st.affinityMode = .affinityClientIP ∧ t.Hit p sc be := by
  obtain ⟨st, b, hst, hmode, hb, rfl, hidle, hmem⟩ := h
  have hinst := hwf.states p.key st hst
  have hfits := timeSub_lt hidle (hinst.timeout hmode)
  have hsnd := scopedPool_snd p.external hinst hst
  rw [if_neg (List.ne_nil_of_mem hmem)] at hsnd
  refine ⟨_, _, Prod.ext rfl hsnd, hmode, b, hb, rfl, ?_, hfits⟩
  exact List.mem_toFinset.mpr (List.mem_map_of_mem hmem)

lemma stickyReuse_of_hit {be : Backend} (h : t.Hit p sc be) (victim : Nat) :
    ∃ b, t.stickyReuse p.key p.client p.now sc victim =
      (t.touchBinding p.key p.client b p.now, .done (.ok be)) := by
  obtain ⟨b, hb, rfl, hmem, hidle⟩ := h
  refine ⟨b, ?_⟩
  simp only [RoutingTable.stickyReuse, hb]
  rw [if_pos ⟨hmem, hidle⟩]

lemma stickyReuse_mem (hsc : sc.Loaded api cfg external)
    (hbinds : ∀ b, (t.binds p.key).lookup p.client = some b →
      b.backend.locality = cfg.classify b.backend.addr.addr) (victim : Nat) :
    (∃ be ∈ sc.pool, (t.stickyReuse p.key p.client p.now sc victim).2 = .done (.ok be)) ∨
      ∃ be ∈ sc.pool, (t.stickyReuse p.key p.client p.now sc victim).2 = .record sc.st be := by
  have hmiss : ∀ u : RoutingTable,
      (∃ be ∈ sc.pool, (u.stickyMiss p.key sc victim).2 = .done (.ok be)) ∨
        ∃ be ∈ sc.pool, (u.stickyMiss p.key sc victim).2 = .record sc.st be := by
    intro u
    have hmem := mem_roundRobin (t := u) sc.st hsc.nonempty
    unfold RoutingTable.stickyMiss
    dsimp only
    split
    · exact .inl ⟨_, hmem, rfl⟩
    · exact .inr ⟨_, hmem, rfl⟩
  unfold RoutingTable.stickyReuse
  split
  · exact hmiss t
  rename_i b hb
  split_ifs with hhit
  · refine .inl ⟨b.backend, ?_, rfl⟩
    -- locality is a function of the address, so the pool's backend is the bound one
    rw [hsc.set] at hhit
    obtain ⟨b', hb', haddr⟩ := List.mem_map.mp (List.mem_toFinset.mp hhit.1)
    have hall := hsc.pool ▸ hb'
    have hloc := hsc.installed.locality (PortState.mem_all_of_mem_eligible hall)
    have heq : b' = b.backend := by
      cases hbb : b.backend
      cases b'
      simp_all
    exact heq ▸ hb'
  · exact hmiss _

end

/-! ## Tables along a run -/

section

variable {api : Netv1} {t t' : RoutingTable}

lemma RoutingTable.WellFormed.narrows (h : t.WellFormed api) (hn : Narrows t t') :
    t'.WellFormed api where
  states key st hst := by
    rw [hn.snap] at hst
    rw [hn.cfg]
    exact h.states key st hst
  binds key client b hb := by
    obtain ⟨b', hb', heq⟩ := hn.binds key client b hb
    rw [hn.cfg, ← heq]
    exact h.binds key client b' hb'

lemma RoutingTable.WellFormed.recordBinding (h : t.WellFormed api) (key : PortKey) (client : Addr)
    (now : Int) {be : Backend} (hbe : be.locality = t.cfg.classify be.addr.addr) :
    (t.recordBinding key client now be).WellFormed api where
  states := h.states
  binds k c b hb := by
    rw [RoutingTable.binds_of_affinity_insert (t := t) rfl] at hb
    split_ifs at hb
    · rw [GoMap.lookup_insert_ite] at hb
      split_ifs at hb
      · cases hb
        exact hbe
      · exact h.binds key c b hb
    · exact h.binds k c b hb

lemma RoutingTable.WellFormed.store (h : t.WellFormed api) (hcfg : t'.cfg = t.cfg)
    (haff : t'.affinity = t.affinity) {key : PortKey} {st : Option PortState}
    (hsnap : ∀ k, t'.snap.states.lookup k = if k = key then st else t.snap.states.lookup k)
    (hst : ∀ st', st = some st' → st'.Installed api t.cfg) : t'.WellFormed api where
  states k st' hk := by
    rw [hsnap] at hk
    rw [hcfg]
    split_ifs at hk
    · exact hst st' hk
    · exact h.states k st' hk
  binds k client b hb := by
    rw [hcfg]
    rw [RoutingTable.binds, haff] at hb
    exact h.binds k client b hb

lemma installed_installedState {key : PortKey} {svc : ObjectKey} {eps : List Endpoint}
    {policy : TrafficPolicy} {aff : AffinityConfig} {st : PortState}
    (h : installedState api t key svc eps policy aff = some st) : st.Installed api t.cfg := by
  simp only [installedState] at h
  split_ifs at h with hne
  cases h
  refine ⟨⟨eps, rfl⟩, hne, rfl, rfl, rfl, ?_⟩
  intro hmode
  simp only at hmode ⊢
  unfold clampTimeout
  split_ifs with hclamp
  · decide
  · have hpos : ¬aff.timeout ≤ 0 := fun hle => hclamp ⟨hmode, hle⟩
    omega

lemma RoutingTable.WellFormed.installStore (h : t.WellFormed api) (key : PortKey)
    (svc : ObjectKey) (eps : List Endpoint) (policy : TrafficPolicy) (aff : AffinityConfig) :
    (t.installStore api key svc eps policy aff).WellFormed api := by
  have hsnap : ∀ k, (t.installStore api key svc eps policy aff).snap.states.lookup k =
      if k = key then installedState api t key svc eps policy aff
      else t.snap.states.lookup k := by
    intro k
    rw [RoutingTable.installStore_snap, RoutingSnapshot.withState_lookup]
  exact h.store (t.installStore_cfg api key svc eps policy aff)
    (t.installStore_affinity api key svc eps policy aff).1 hsnap
    fun st' => installed_installedState

lemma RoutingTable.WellFormed.deleteStore (h : t.WellFormed api) (key : PortKey) :
    (t.deleteStore key).WellFormed api := by
  refine h.store rfl rfl (RoutingSnapshot.withState_lookup key t.snap none) ?_
  intro st hst
  cases hst

end

/-! ## Calls along a run -/

section

variable {api : Netv1} {cfg : TableConfig}

/-- A fresh backend was picked, so the client was not bound at every step so far. -/
structure Fresh (api : Netv1) (cfg : TableConfig) (own : OwnSteps) (p : StickyPick)
    (be : Backend) : Prop where
  granted : Granted api cfg own (.sticky p) be
  unbound : ∀ be', ¬∀ e ∈ own, e.1.Bound p be'

def CallOk (api : Netv1) (cfg : TableConfig) (t : RoutingTable) (call : Option PickCall) :
    ThreadPC → Prop
  | .waiting p => ∃ own, call = some ⟨.sticky p, own⟩ ∧ Quiet own
  | .locked p => ∃ own, call = some ⟨.sticky p, own⟩ ∧ Quiet own
  | .deciding p sc => ∃ own, call = some ⟨.sticky p, own⟩ ∧ Quiet own ∧
      sc.Loaded api cfg p.external ∧ (∃ e ∈ own, e.1.snap.states.lookup p.key = some sc.st) ∧
      ∀ be, (∀ e ∈ own, e.1.Bound p be) → t.Hit p sc be
  | .recording p _ be => ∃ own, call = some ⟨.sticky p, own⟩ ∧ Fresh api cfg own p be
  | .committing p be => ∃ own, call = some ⟨.sticky p, own⟩ ∧ Fresh api cfg own p be
  | _ => True

lemma CallOk.of_affinity {t t' : RoutingTable} {call : Option PickCall} {pc : ThreadPC}
    (h : CallOk api cfg t call pc) (haff : pc.holdsLock = true → t'.affinity = t.affinity) :
    CallOk api cfg t' call pc := by
  cases pc with
  | deciding p sc =>
    obtain ⟨own, hcall, hquiet, hsc, hseen, hhit⟩ := h
    refine ⟨own, hcall, hquiet, hsc, hseen, fun be hbound => ?_⟩
    obtain ⟨b, hb, hrest⟩ := hhit be hbound
    refine ⟨b, ?_, hrest⟩
    rw [RoutingTable.binds, haff rfl]
    exact hb
  | _ => exact h

/-- Every pick under way has taken the steps of its place, and those that returned are `Correct`. -/
structure PickInv (api : Netv1) (cfg : TableConfig) (s : PickRun) : Prop where
  race : RaceInv s.race
  config : s.race.table.cfg = cfg
  table : s.race.table.WellFormed api
  calls : ∀ tid, CallOk api cfg s.race.table (s.calls tid) (s.race.pc tid)
  returned : ∀ r ∈ s.returned, r.Correct api cfg

section

variable {s : PickRun} {tid : Nat} {pc : ThreadPC} {t : RoutingTable} {mu : Option Nat}

lemma PickInv.calls_move (h : PickInv api cfg s)
    (haff : (s.race.pc tid).holdsLock = true ∨ t.affinity = s.race.table.affinity)
    {call : Option PickCall} (hcall : CallOk api cfg t call pc) (u : Nat) :
    CallOk api cfg t (Function.update s.calls tid call u) ((s.race.move tid pc t mu).pc u) := by
  by_cases hu : u = tid
  · subst hu
    rw [Function.update_self]
    simpa only [AffinityRace.move, Function.update_self] using hcall
  · have hpc : (s.race.move tid pc t mu).pc u = s.race.pc u := Function.update_of_ne hu _ _
    rw [hpc, Function.update_of_ne hu]
    refine (h.calls u).of_affinity fun hlock => ?_
    rcases haff with htid | haff
    · -- two threads would hold the lock
      have hmine := h.race.holder tid htid
      rw [h.race.holder u hlock] at hmine
      exact absurd (Option.some.inj hmine) hu
    · exact haff

lemma PickInv.continue (h : PickInv api cfg s) (hrace : RaceInv (s.race.move tid pc t mu))
    (hcfg : t.cfg = s.race.table.cfg) (hwf : t.WellFormed api)
    (haff : (s.race.pc tid).holdsLock = true ∨ t.affinity = s.race.table.affinity)
    {call : Option PickCall} (hcall : CallOk api cfg t
      (call.map fun c => { c with own := (s.race.table, t) :: c.own }) pc) :
    PickInv api cfg (s.ownStep tid (s.race.move tid pc t mu) call none) := by
  have hcalls : ∀ u, CallOk api cfg t (Function.update s.calls tid _ u)
      ((s.race.move tid pc t mu).pc u) := h.calls_move haff hcall
  cases call with
  | none => exact ⟨hrace, hcfg.trans h.config, hwf, hcalls, h.returned⟩
  | some c => exact ⟨hrace, hcfg.trans h.config, hwf, hcalls, h.returned⟩

lemma PickInv.finish (h : PickInv api cfg s) (hrace : RaceInv (s.race.move tid .idle t mu))
    (hcfg : t.cfg = s.race.table.cfg) (hwf : t.WellFormed api)
    (haff : (s.race.pc tid).holdsLock = true ∨ t.affinity = s.race.table.affinity) {call : PickCall}
    {answer : Except PickError Backend} (hcorrect : PickReturn.Correct api cfg
      ⟨⟨call.args, (s.race.table, t) :: call.own⟩, answer⟩) :
    PickInv api cfg (s.ownStep tid (s.race.move tid .idle t mu) (some call) (some answer)) where
  race := hrace
  config := hcfg.trans h.config
  table := hwf
  calls := h.calls_move haff trivial
  returned r hr := by
    rcases List.mem_cons.mp hr with rfl | hr
    · exact hcorrect
    · exact h.returned r hr

end

lemma PickInv.write {s : PickRun} (h : PickInv api cfg s) {race : AffinityRace}
    (hrace : RaceInv race) (hcfg : race.table.cfg = s.race.table.cfg)
    (hwf : race.table.WellFormed api) (hpc : race.pc = s.race.pc)
    (haff : race.table.affinity = s.race.table.affinity ∨ s.race.affMu = none) :
    PickInv api cfg { s with race } where
  race := hrace
  config := hcfg.trans h.config
  table := hwf
  calls tid := by
    show CallOk api cfg race.table (s.calls tid) (race.pc tid)
    rw [hpc]
    refine (h.calls tid).of_affinity fun hlock => ?_
    rcases haff with haff | hfree
    · exact haff
    · have hheld := h.race.holder tid hlock
      rw [hfree] at hheld
      cases hheld
  returned := h.returned

end

/-! ### Loads -/

section

variable {api : Netv1} {t t' u : RoutingTable} (args : PickArgs) {own : OwnSteps}

lemma correct_of_error {e : PickError} (hwf : t.WellFormed api)
    (h : t.scopedPool args.key args.external = (t', .error e)) :
    PickReturn.Correct api t.cfg ⟨⟨args, (t, u) :: own⟩, .error e⟩ where
  granted be hok := by cases hok
  dropped hdrop := by
    cases hdrop
    obtain ⟨hext, hcidr, hlocal⟩ := noneLocal_of_scopedPool hwf h
    exact ⟨hext, hcidr, (t, u), List.mem_cons_self, hlocal⟩
  sticky p be hargs hbound := by
    change args = .sticky p at hargs
    subst hargs
    obtain ⟨_, sc, hsc, -, -⟩ := (hbound (t, u) List.mem_cons_self).scopedPool hwf
    rw [show t.scopedPool p.key p.external = (t', .error e) from h] at hsc
    cases hsc

lemma correct_of_roundRobin {sc : Scope} {v : RoutingTable} (hwf : t.WellFormed api)
    (h : t.scopedPool args.key args.external = (t', .ok sc))
    (hmode : ∀ p, args = .sticky p → sc.st.affinityMode ≠ .affinityClientIP) :
    PickReturn.Correct api t.cfg
      ⟨⟨args, (t, u) :: own⟩, .ok (v.roundRobin sc.st sc.pool).2⟩ where
  granted be hok := by
    cases hok
    obtain ⟨hst, hsc⟩ := loaded_of_scopedPool hwf h
    refine ⟨(t, u), List.mem_cons_self, sc.st, hst, hsc.installed, ?_⟩
    rw [← hsc.pool]
    exact mem_roundRobin sc.st hsc.nonempty
  dropped hdrop := by cases hdrop
  sticky p be hargs hbound := by
    have hoff := hmode p hargs
    change args = .sticky p at hargs
    subst hargs
    obtain ⟨_, sc', hsc', hclient, -⟩ := (hbound (t, u) List.mem_cons_self).scopedPool hwf
    rw [show t.scopedPool p.key p.external = (t', .ok sc) from h] at hsc'
    cases hsc'
    exact absurd hclient hoff

end

/-! ### Steps of a sticky pick -/

section

variable {api : Netv1} {cfg : TableConfig} {s : PickRun} {tid : Nat} {p : StickyPick}
  {own : OwnSteps} {be : Backend}

lemma affinity_of_scopedPool {t t' : RoutingTable} {key : PortKey} {external : Bool}
    {r : Except PickError Scope} (h : t.scopedPool key external = (t', r)) :
    t'.affinity = t.affinity ∧ t'.cursor = t.cursor := by
  obtain ⟨w, hw⟩ := t.scopedPool_fst key external
  rw [h] at hw
  cases hw
  exact ⟨rfl, rfl⟩

lemma PickInv.load (h : PickInv api cfg s) {race : AffinityRace} (hrace : RaceInv race)
    (mu : Option Nat) (next : Scope → ThreadPC)
    (herror : ∀ t e, s.race.table.scopedPool p.key p.external = (t, .error e) →
      race = s.race.move tid .idle t mu)
    (hoff : ∀ t sc, s.race.table.scopedPool p.key p.external = (t, .ok sc) →
      sc.st.affinityMode ≠ .affinityClientIP →
      race = s.race.move tid .idle (t.roundRobin sc.st sc.pool).1 mu)
    (hon : ∀ t sc, s.race.table.scopedPool p.key p.external = (t, .ok sc) →
      sc.st.affinityMode = .affinityClientIP →
      race = s.race.move tid (next sc) t s.race.affMu ∧
        CallOk api cfg t (some ⟨.sticky p, (s.race.table, t) :: own⟩) (next sc)) :
    PickInv api cfg (s.ownStep tid race (some ⟨.sticky p, own⟩) (s.race.loadAnswer p)) := by
  have hcfg := h.config
  subst hcfg
  unfold AffinityRace.loadAnswer
  cases hload : s.race.table.scopedPool p.key p.external with
  | mk t r =>
  have hn := narrows_scopedPool hload
  have haff := (affinity_of_scopedPool hload).1
  cases r with
  | error e =>
    have heq := herror t e hload
    subst heq
    exact h.finish hrace hn.cfg (h.table.narrows hn) (.inr haff)
      (correct_of_error (.sticky p) h.table hload)
  | ok sc =>
    by_cases hmode : sc.st.affinityMode = .affinityClientIP
    · obtain ⟨heq, hcall⟩ := hon t sc hload hmode
      subst heq
      simp only [hmode, ne_eq, not_true_eq_false, if_false]
      exact h.continue hrace hn.cfg (h.table.narrows hn) (.inr haff) hcall
    · have heq := hoff t sc hload hmode
      subst heq
      simp only [if_pos (show sc.st.affinityMode ≠ .affinityClientIP from hmode)]
      have hn' := hn.trans (narrows_roundRobin sc.st sc.pool)
      exact h.finish hrace hn'.cfg (h.table.narrows hn') (.inr haff)
        (correct_of_roundRobin (.sticky p) h.table hload fun _ _ => hmode)

lemma Quiet.nil : Quiet [] := by
  intro e he
  cases he

lemma Quiet.cons {t t' : RoutingTable} (h : Quiet own) (hcur : t'.cursor = t.cursor) :
    Quiet ((t, t') :: own) := by
  intro e he
  rcases List.mem_cons.mp he with rfl | he
  · exact hcur
  · exact h e he

lemma pickInv_begin (h : PickInv api cfg s) (hrace : RaceInv (s.race.begin tid p)) :
    PickInv api cfg (s.ownStep tid (s.race.begin tid p) (some ⟨.sticky p, []⟩)
      (s.race.loadAnswer p)) := by
  refine h.load hrace s.race.affMu (fun _ => .waiting p) ?_ ?_ ?_
  · intro t e hload
    simp only [AffinityRace.begin, hload]
  · intro t sc hload hmode
    simp only [AffinityRace.begin, hload]
    rw [if_pos hmode]
  · intro t sc hload hmode
    simp only [AffinityRace.begin, hload]
    refine ⟨if_neg (not_not.mpr hmode), _, rfl, ?_⟩
    exact Quiet.nil.cons (affinity_of_scopedPool hload).2

lemma pickInv_reload (h : PickInv api cfg s) (hpc : s.race.pc tid = .locked p)
    (hrace : RaceInv (s.race.reload tid p)) :
    PickInv api cfg (s.ownStep tid (s.race.reload tid p) (s.calls tid) (s.race.loadAnswer p)) := by
  have hcall := h.calls tid
  rw [hpc] at hcall
  obtain ⟨own, hcall, hquiet⟩ := hcall
  rw [hcall]
  refine h.load hrace none (.deciding p) ?_ ?_ ?_
  · intro t e hload
    simp only [AffinityRace.reload, hload]
  · intro t sc hload hmode
    simp only [AffinityRace.reload, hload]
    rw [if_pos hmode]
  · intro t sc hload hmode
    simp only [AffinityRace.reload, hload]
    obtain ⟨haff, hcur⟩ := affinity_of_scopedPool hload
    obtain ⟨hst, hsc⟩ := loaded_of_scopedPool h.table hload
    refine ⟨if_neg (not_not.mpr hmode), _, rfl, hquiet.cons hcur, h.config ▸ hsc,
      ⟨_, List.mem_cons_self, hst⟩, ?_⟩
    intro be hbound
    obtain ⟨_, sc', hsc', -, hhit⟩ := (hbound _ List.mem_cons_self).scopedPool h.table
    rw [hload] at hsc'
    cases hsc'
    obtain ⟨b, hb, hrest⟩ := hhit
    refine ⟨b, ?_, hrest⟩
    rw [RoutingTable.binds, haff]
    exact hb

lemma pickInv_decide (h : PickInv api cfg s) {sc : Scope} (hpc : s.race.pc tid = .deciding p sc)
    (victim : Nat) (hrace : RaceInv (s.race.decide tid p sc victim)) :
    PickInv api cfg (s.ownStep tid (s.race.decide tid p sc victim) (s.calls tid)
      (s.race.answer (.decide tid victim))) := by
  have hlock : (s.race.pc tid).holdsLock = true := by rw [hpc]; rfl
  have hcall := h.calls tid
  rw [hpc] at hcall
  obtain ⟨own, hcall, hquiet, hsc, ⟨e, he, hst⟩, hhit⟩ := hcall
  have hn := (narrows_stickyReuse (t := s.race.table) p.key p.client p.now sc victim).1
  have hmem := stickyReuse_mem (t := s.race.table) (p := p) hsc
    (fun b hb => h.config ▸ h.table.binds p.key p.client b hb) victim
  have hgranted : ∀ be ∈ sc.pool, ∀ t, Granted api cfg ((s.race.table, t) :: own) (.sticky p) be :=
    fun be hbe t => ⟨e, List.mem_cons_of_mem _ he, sc.st, hst, hsc.installed, hsc.pool ▸ hbe⟩
  have hreuse : ∀ be t, (∀ e ∈ (s.race.table, t) :: own, e.1.Bound p be) →
      ∃ b, s.race.table.stickyReuse p.key p.client p.now sc victim =
        (s.race.table.touchBinding p.key p.client b p.now, .done (.ok be)) := by
    intro be t hbound
    exact stickyReuse_of_hit (hhit be fun e he => hbound e (List.mem_cons_of_mem _ he)) victim
  simp only [hcall, AffinityRace.answer, hpc]
  unfold AffinityRace.decide at hrace ⊢
  cases hcase : s.race.table.stickyReuse p.key p.client p.now sc victim with
  | mk t r =>
  rw [hcase] at hrace hn hmem hreuse
  cases r with
  | done r =>
    refine h.finish hrace hn.cfg (h.table.narrows hn) (.inl hlock) ?_
    obtain ⟨be, hbe, hans⟩ | ⟨be, -, hans⟩ := hmem
    · cases hans
      refine ⟨?_, ?_, ?_⟩
      · rintro be' ⟨⟩
        exact hgranted be hbe t
      · intro hdrop
        cases hdrop
      · rintro p' be' ⟨⟩ hbound
        obtain ⟨b, hb⟩ := hreuse be' t hbound
        cases hb
        exact ⟨rfl, hquiet.cons rfl⟩
    · cases hans
  | record st be =>
    refine h.continue hrace hn.cfg (h.table.narrows hn) (.inl hlock) ?_
    obtain ⟨be', -, hans⟩ | ⟨be', hbe', hans⟩ := hmem
    · cases hans
    cases hans
    refine ⟨_, rfl, hgranted be hbe' t, ?_⟩
    intro be' hbound
    obtain ⟨b, hb⟩ := hreuse be' t hbound
    cases hb

lemma Fresh.cons (h : Fresh api cfg own p be) (e : RoutingTable × RoutingTable) :
    Fresh api cfg (e :: own) p be where
  granted := by
    obtain ⟨e', he', hrest⟩ := h.granted
    exact ⟨e', List.mem_cons_of_mem _ he', hrest⟩
  unbound be' hbound := h.unbound be' fun e' he' => hbound e' (List.mem_cons_of_mem _ he')

lemma Fresh.correct (h : Fresh api cfg own p be) :
    PickReturn.Correct api cfg ⟨⟨.sticky p, own⟩, .ok be⟩ where
  granted be' hok := by
    cases hok
    exact h.granted
  dropped hdrop := by cases hdrop
  sticky p' be' hargs hbound := by
    cases hargs
    exact absurd hbound (h.unbound be')

lemma pickInv_validate (h : PickInv api cfg s) {st : PortState}
    (hpc : s.race.pc tid = .recording p st be) (hrace : RaceInv (s.race.validate tid p st be)) :
    PickInv api cfg (s.ownStep tid (s.race.validate tid p st be) (s.calls tid)
      (s.race.answer (.validate tid))) := by
  have hcall := h.calls tid
  rw [hpc] at hcall
  obtain ⟨own, hcall, hfresh⟩ := hcall
  simp only [hcall, AffinityRace.answer, hpc]
  unfold AffinityRace.validate at hrace ⊢
  by_cases hst : s.race.table.snap.states.lookup p.key = some st
  · rw [if_pos hst] at hrace
    simp only [if_pos hst]
    exact h.continue hrace rfl h.table (.inr rfl) ⟨_, rfl, hfresh.cons _⟩
  · rw [if_neg hst] at hrace
    simp only [if_neg hst]
    exact h.finish hrace rfl h.table (.inr rfl) (hfresh.cons _).correct

lemma pickInv_commit (h : PickInv api cfg s) (hpc : s.race.pc tid = .committing p be)
    (hrace : RaceInv (s.race.move tid .idle
      (s.race.table.recordBinding p.key p.client p.now be) none)) :
    PickInv api cfg (s.ownStep tid (s.race.move tid .idle
      (s.race.table.recordBinding p.key p.client p.now be) none) (s.calls tid)
        (s.race.answer (.commit tid))) := by
  have hcall := h.calls tid
  rw [hpc] at hcall
  obtain ⟨own, hcall, hfresh⟩ := hcall
  have hloc : be.locality = s.race.table.cfg.classify be.addr.addr := by
    obtain ⟨e, he, st, -, hinst, hmem⟩ := hfresh.granted
    rw [h.config]
    exact hinst.locality (PortState.mem_all_of_mem_eligible hmem)
  simp only [hcall, AffinityRace.answer, hpc]
  exact h.finish hrace rfl (h.table.recordBinding p.key p.client p.now hloc)
    (.inl (by rw [hpc]; rfl)) (hfresh.cons _).correct

end

section

variable {api : Netv1} {cfg : TableConfig} {s s' : PickRun} {key : PortKey} {t : RoutingTable}
  {p : StickyPick} {be : Backend}

lemma pickInv_pick (h : PickInv api cfg s) {tid : Nat}
    (hst : s.step api (.pick tid key) = some s') : PickInv api cfg s' := by
  have hcfg := h.config
  subst hcfg
  simp only [PickRun.step] at hst
  split at hst <;> cases hst
  have hpick : Narrows s.race.table (s.race.table.pick key).1 ∧
      (s.race.table.pick key).1.affinity = s.race.table.affinity ∧
      ∀ t, PickReturn.Correct api s.race.table.cfg
        ⟨⟨.pick key, [(s.race.table, t)]⟩, (s.race.table.pick key).2⟩ := by
    unfold RoutingTable.pick
    cases hload : s.race.table.scopedPool key false with
    | mk t r =>
    have hn := narrows_scopedPool hload
    have haff := (affinity_of_scopedPool hload).1
    cases r with
    | error e => exact ⟨hn, haff, fun _ => correct_of_error (.pick key) h.table hload⟩
    | ok sc =>
      refine ⟨hn.trans (narrows_roundRobin sc.st sc.pool), haff, fun _ => ?_⟩
      refine correct_of_roundRobin (.pick key) h.table hload ?_
      intro p hargs
      cases hargs
  obtain ⟨hn, haff, hcorrect⟩ := hpick
  have hrace : RaceInv (s.race.move tid .idle (s.race.table.pick key).1 s.race.affMu) :=
    h.race.move hn.shrinks (.inl rfl) Bool.noConfusion trivial
  exact h.finish hrace hn.cfg (h.table.narrows hn) (.inr haff) (hcorrect _)

lemma pickInv_race (h : PickInv api cfg s) {l : RaceLabel}
    (hst : s.step api (.race l) = some s') : PickInv api cfg s' := by
  simp only [PickRun.step, Option.map_eq_some_iff] at hst
  obtain ⟨race, hst, rfl⟩ := hst
  have hrace := raceInv_step api h.race hst
  cases l <;> simp only [AffinityRace.step] at hst <;> split at hst <;> cases hst
  next => exact pickInv_begin h hrace
  next tid _ _ _ hpc _ =>
    have hcall := h.calls tid
    rw [hpc] at hcall
    obtain ⟨own, hcall, hquiet⟩ := hcall
    refine h.continue hrace rfl h.table (.inr rfl) ?_
    exact ⟨(s.race.table, s.race.table) :: own, by simp [PickRun.callAt, hcall], hquiet.cons rfl⟩
  next hpc =>
    have hnext := pickInv_reload h hpc hrace
    simpa only [PickRun.observe, RaceLabel.thread, PickRun.callAt, AffinityRace.answer, hpc]
      using hnext
  next hpc => exact pickInv_decide h hpc _ hrace
  next hpc => exact pickInv_validate h hpc hrace
  next hpc => exact pickInv_commit h hpc hrace
  next => exact h.continue hrace rfl h.table (.inr rfl) trivial
  next => exact h.continue hrace rfl h.table (.inr rfl) trivial
  next now snap hpc =>
    have hn := narrows_sweepExpired (t := s.race.table) snap now
    exact h.continue hrace hn.cfg (h.table.narrows hn) (.inl (by rw [hpc]; rfl)) trivial
  next =>
    exact h.write hrace (s.race.table.installStore_cfg ..) (h.table.installStore ..) rfl
      (.inl (s.race.table.installStore_affinity ..).1)
  next => exact h.write hrace rfl (h.table.deleteStore _) rfl (.inl rfl)
  next => exact h.write hrace rfl ⟨h.table.states, h.table.binds⟩ rfl (.inl rfl)
  next pu _ hfree =>
    have hn : Narrows s.race.table (s.race.purge pu).table := by
      cases pu with
      | install key => exact narrows_dropAffinity key
      | delete key =>
        exact (narrows_dropAffinity key).trans (.of_affinity_eq rfl rfl rfl)
    have hpc : (s.race.purge pu).pc = s.race.pc := by cases pu <;> rfl
    exact h.write hrace hn.cfg (h.table.narrows hn) hpc (.inr hfree)

/-- Picks are `Correct` in every interleaving with the writer. -/
lemma pickInv_of_reach (h : (pickMachine api).Reach Machine.always s) :
    PickInv api s.race.table.cfg s := by
  have hinv : ∃ cfg, PickInv api cfg s := by
    refine Machine.Reach.invariant (I := fun s => ∃ cfg, PickInv api cfg s) ?_ ?_ h
    · rintro _ ⟨cfg, rfl⟩
      refine ⟨cfg, raceInv_init cfg, rfl, ?_, fun _ => trivial, ?_⟩
      · refine ⟨?_, ?_⟩
        · intro key st hst
          cases hst
        · intro key client b hb
          cases hb
      · intro r hr
        cases hr
    · rintro s l s' ⟨cfg, hs⟩ _ hst
      cases l with
      | pick tid key => exact ⟨cfg, pickInv_pick hs hst⟩
      | race l => exact ⟨cfg, pickInv_race hs hst⟩
  obtain ⟨cfg, hinv⟩ := hinv
  exact hinv.config ▸ hinv

/-! ## Bound clients -/

lemma RoutingTable.Bound.congr {t' : RoutingTable} (h : t.Bound p be) (hcfg : t'.cfg = t.cfg)
    (hst : t'.snap.states.lookup p.key = t.snap.states.lookup p.key)
    (hbinds : t'.binds p.key = t.binds p.key) : t'.Bound p be := by
  unfold RoutingTable.Bound
  rw [hcfg, hst, hbinds]
  exact h

lemma pickStickyScoped_of_bound (h : t.Bound p be) (hwf : t.WellFormed api) (victim : Nat) :
    (t.pickStickyScoped p.key p.client p.now p.external victim).2 = .ok be ∧
      (t.pickStickyScoped p.key p.client p.now p.external victim).1.cursor = t.cursor := by
  obtain ⟨t₁, sc₁, hload₁, hmode₁, -⟩ := h.scopedPool hwf
  have hn₁ := narrows_scopedPool hload₁
  obtain ⟨haff₁, hcur₁⟩ := affinity_of_scopedPool hload₁
  have hbinds₁ : ∀ k, t₁.binds k = t.binds k := by
    intro k
    rw [RoutingTable.binds, haff₁]
    rfl
  have h₁ := h.congr hn₁.cfg (by rw [hn₁.snap]) (hbinds₁ p.key)
  obtain ⟨t₂, sc₂, hload₂, hmode₂, b, hb, hhit⟩ := h₁.scopedPool (hwf.narrows hn₁)
  obtain ⟨haff₂, hcur₂⟩ := affinity_of_scopedPool hload₂
  have hbinds₂ : t₂.binds p.key = t₁.binds p.key := by
    rw [RoutingTable.binds, haff₂]
    rfl
  obtain ⟨b', hreuse⟩ := stickyReuse_of_hit ⟨b, hbinds₂ ▸ hb, hhit⟩ victim
  have hpick : t.pickStickyScoped p.key p.client p.now p.external victim =
      (t₂.touchBinding p.key p.client b' p.now, .ok be) := by
    simp only [RoutingTable.pickStickyScoped, RoutingTable.stickyDecide, hload₁, hload₂, hmode₁,
      hmode₂, ne_eq, not_true_eq_false, if_false, hreuse]
  rw [hpick]
  exact ⟨rfl, hcur₂.trans hcur₁⟩

/-- A step that concerns other ports: a store or a purge of another key, a decision or a
record of a pick on another key, and whatever leaves the bindings alone. -/
def PickRun.Elsewhere (key : PortKey) (s : PickRun) : PickLabel → Prop
  | .race (.installStore k _ _ _ _) => k ≠ key
  | .race (.deleteStore k) => k ≠ key
  | .race .purge => ∀ pu, s.race.writer = some pu → pu.key ≠ key
  | .race (.decide tid _) => ∀ p sc, s.race.pc tid = .deciding p sc → p.key ≠ key
  | .race (.commit tid) => ∀ p be, s.race.pc tid = .committing p be → p.key ≠ key
  | .race (.sweepFinish _) => False
  | _ => True

lemma RoutingTable.binds_evict_of_ne {k : PortKey} (hk : k ≠ key) (victim : Nat) :
    (t.evict key victim).binds k = t.binds k := by
  unfold evict
  split
  · split
    · rw [binds_dropBinding, if_neg hk]
    · rfl
  · rfl

lemma RoutingTable.binds_stickyReuse_of_ne {k : PortKey} (hk : k ≠ key) (client : Addr)
    (now : Int) (sc : Scope) (victim : Nat) :
    (t.stickyReuse key client now sc victim).1.binds k = t.binds k := by
  have hmiss : ∀ u : RoutingTable, (u.stickyMiss key sc victim).1.binds k = u.binds k := by
    intro u
    have hevict : ((u.roundRobin sc.st sc.pool).1.evict key victim).binds k = u.binds k :=
      binds_evict_of_ne hk victim
    unfold stickyMiss
    dsimp only
    split <;> exact hevict
  unfold stickyReuse
  split
  · exact hmiss t
  · split_ifs
    · exact (binds_of_affinity_insert rfl k).trans (if_neg hk)
    · rw [hmiss, binds_dropBinding, if_neg hk]

lemma PickRun.ownStep_race (s : PickRun) (tid : Nat) (race : AffinityRace)
    (call : Option PickCall) (answer : Option (Except PickError Backend)) :
    (s.ownStep tid race call answer).race = race := by
  cases call <;> cases answer <;> rfl

lemma PickRun.observe_race (s : PickRun) (l : RaceLabel) (race : AffinityRace) :
    (s.observe l race).race = race := by
  unfold observe
  split
  · rfl
  · exact s.ownStep_race _ race _ _

lemma RoutingTable.Bound.load {t' : RoutingTable} (h : t.Bound p be) {external : Bool}
    {r : Except PickError Scope} (hload : t.scopedPool key external = (t', r)) :
    t'.Bound p be ∧ ∀ st pool, (t'.roundRobin st pool).1.Bound p be := by
  have hn := narrows_scopedPool hload
  have hbinds : t'.binds p.key = t.binds p.key := by
    rw [RoutingTable.binds, (affinity_of_scopedPool hload).1]
    rfl
  have h' := h.congr hn.cfg (by rw [hn.snap]) hbinds
  exact ⟨h', fun st pool => h'.congr rfl rfl rfl⟩

/-- Only steps on the same port can end a binding. -/
lemma bound_step {l : PickLabel} (hst : s.step api l = some s') (hl : s.Elsewhere p.key l)
    (h : s.race.table.Bound p be) : s'.race.table.Bound p be := by
  cases l with
  | pick tid key =>
    simp only [PickRun.step] at hst
    split at hst <;> cases hst
    rw [PickRun.ownStep_race]
    show (s.race.table.pick key).1.Bound p be
    unfold RoutingTable.pick
    split
    next hload => exact (h.load hload).1
    next sc hload => exact (h.load hload).2 sc.st sc.pool
  | race l =>
  simp only [PickRun.step, Option.map_eq_some_iff] at hst
  obtain ⟨race, hst, rfl⟩ := hst
  rw [PickRun.observe_race]
  cases l <;> simp only [AffinityRace.step] at hst <;> split at hst <;> cases hst
  next =>
    unfold AffinityRace.begin
    split
    next hload => exact (h.load hload).1
    next sc hload =>
      split_ifs
      · exact (h.load hload).2 sc.st sc.pool
      · exact (h.load hload).1
  next => exact h
  next =>
    unfold AffinityRace.reload
    split
    next hload => exact (h.load hload).1
    next sc hload =>
      split_ifs
      · exact (h.load hload).2 sc.st sc.pool
      · exact (h.load hload).1
  next victim _ p' sc hpc =>
    have hne : p.key ≠ p'.key := (hl p' sc hpc).symm
    have hn := (narrows_stickyReuse (t := s.race.table) p'.key p'.client p'.now sc victim).1
    have hnext := h.congr hn.cfg (by rw [hn.snap])
      (RoutingTable.binds_stickyReuse_of_ne hne p'.client p'.now sc victim)
    unfold AffinityRace.decide
    split <;> rename_i hreuse <;> rw [hreuse] at hnext <;> exact hnext
  next =>
    unfold AffinityRace.validate
    split <;> exact h
  next p' be' hpc =>
    have hne : p.key ≠ p'.key := (hl p' be' hpc).symm
    exact h.congr rfl rfl ((RoutingTable.binds_of_affinity_insert rfl p.key).trans (if_neg hne))
  next => exact h
  next => exact h
  next => exact absurd hl id
  next key svc eps policy aff _ _ =>
    have hne : p.key ≠ key := Ne.symm hl
    refine h.congr (s.race.table.installStore_cfg api key svc eps policy aff) ?_ ?_
    · show (s.race.table.installStore api key svc eps policy aff).snap.states.lookup p.key = _
      rw [RoutingTable.installStore_snap, RoutingSnapshot.withState_lookup, if_neg hne]
    · show (s.race.table.installStore api key svc eps policy aff).binds p.key = _
      rw [RoutingTable.binds, (s.race.table.installStore_affinity api key svc eps policy aff).1]
      rfl
  next key _ _ =>
    have hne : p.key ≠ key := Ne.symm hl
    exact h.congr rfl
      ((RoutingSnapshot.withState_lookup key s.race.table.snap none p.key).trans (if_neg hne)) rfl
  next => exact h.congr rfl rfl rfl
  next pu hpu _ =>
    have hne : p.key ≠ pu.key := (hl pu hpu).symm
    cases pu with
    | install key | delete key =>
      exact h.congr rfl rfl ((s.race.table.binds_dropAffinity key p.key).trans (if_neg hne))

lemma bound_run {ls : List PickLabel} (hls : (pickMachine api).Meets (PickRun.Elsewhere p.key) s ls)
    (hrun : (pickMachine api).run s ls = some s') (h : s.race.table.Bound p be) :
    s'.race.table.Bound p be := by
  induction ls generalizing s with
  | nil =>
    cases hrun
    exact h
  | cons l ls ih =>
    cases hst : (pickMachine api).step s l with
    | none => simp [Machine.run, hst] at hrun
    | some u =>
      simp only [Machine.run, hst, Option.bind_some] at hrun
      exact ih (hls.2 u hst) hrun (bound_step hst hls.1 h)

end

/-- Every pick that has returned is `Correct`; and a bound client stays bound, and is given its
backend without a turn of the cursor, whatever happens to other ports. -/
theorem picks_scoped_and_sticky (api : Netv1) {s : PickRun}
    (h : (pickMachine api).Reach Machine.always s) :
    (∀ r ∈ s.returned, r.Correct api s.race.table.cfg) ∧ ∀ p be, s.race.table.Bound p be →
        ∀ ls s', (pickMachine api).Meets (PickRun.Elsewhere p.key) s ls →
          (pickMachine api).run s ls = some s' →
          s'.race.table.Bound p be ∧ ∀ victim,
            (s'.race.table.pickStickyScoped p.key p.client p.now p.external victim).2 = .ok be ∧
            (s'.race.table.pickStickyScoped p.key p.client p.now p.external victim).1.cursor =
              s'.race.table.cursor := by
  refine ⟨(pickInv_of_reach h).returned, ?_⟩
  intro p be hbound ls s' hls hrun
  have hreach := h.run_of ls (Machine.meets_always s ls) hrun
  have hbound' := bound_run hls hrun hbound
  exact ⟨hbound', pickStickyScoped_of_bound hbound' (pickInv_of_reach hreach).table⟩

/-- A client is bound by its first pick; another port is installed and a plain pick moves the
cursor; and the client's next pick comes through the node port. -/
def boundRun : List PickLabel :=
  let key : PortKey := ⟨"10.43.0.1", 80, .TCP⟩
  let eps : List Endpoint := [⟨"10.42.0.5", 8080, true⟩, ⟨"10.42.0.6", 8080, true⟩]
  let web : PickLabel := .race (.installStore key ⟨"default", "web"⟩ eps .trafficCluster
    ⟨.affinityClientIP, 0⟩)
  let db : PickLabel := .race (.installStore ⟨"10.43.0.2", 80, .TCP⟩ ⟨"default", "db"⟩ eps
    .trafficLocal ⟨.affinityClientIP, 0⟩)
  [web, .race (.begin 0 ⟨key, .v4 1, 0, false⟩), .race (.acquire 0), .race (.reload 0),
    .race (.decide 0 0), .race (.validate 0), .race (.commit 0), .pick 1 key,
    .race (.begin 0 ⟨key, .v4 1, 5, true⟩), .race (.acquire 0), db, .race (.reload 0),
    .race (.decide 0 0)]

theorem picks_scoped_and_sticky_boundRun : ∃ s, (pickMachine Netv1.standard).run
        ⟨⟨newRoutingTable cappedConfig, fun _ => .idle, none, none⟩, fun _ => none, []⟩ boundRun =
          some s ∧
      s.returned.map (fun r => r.answer.toOption.map (·.addr.addr)) =
        [parseAddr "10.42.0.5", parseAddr "10.42.0.6", parseAddr "10.42.0.5"] ∧
      ∀ r ∈ s.returned, r.Correct Netv1.standard s.race.table.cfg := by
  exact Machine.exists_run_of (P := fun s => s.returned.map (fun r => r.answer.toOption.map
    (·.addr.addr)) = [parseAddr "10.42.0.5", parseAddr "10.42.0.6", parseAddr "10.42.0.5"])
    ⟨cappedConfig, rfl⟩ (Machine.meets_always _ _) (by decide +kernel) fun s hreach hanswers =>
      ⟨hanswers, (picks_scoped_and_sticky Netv1.standard hreach).1⟩

end DarwinNet.Proxy
