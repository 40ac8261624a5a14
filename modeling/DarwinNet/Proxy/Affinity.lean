import DarwinNet.Proxy.Table
import DarwinNet.Lib.Machine

/-!
Backend selection (`routing.go`, `Pick`) and the ClientIP session-affinity
overlay on it (`affinity.go`). A sticky pick is cut where the program can be
interleaved with a writer: a lock-free load, a critical section that loads again
and decides (`stickyDecide`), and a last load that decides whether the binding
is recorded (`stickyRecord`). `pickStickyScoped` runs the three in a row.

`Accounted` is the accounting invariant of the bindings. Every operation keeps
it, so it holds after every sequence of operations on a new table
(`affinity_accounting`).
-/

namespace DarwinNet.Proxy

open Lib Netip Api

/-! ## Selection -/

inductive PickError
  | errNoBackends
  | errNoLocalBackends
  deriving DecidableEq, Repr

instance : Inhabited Backend := ⟨⟨⟨.zero, 0⟩, .localityUnknown⟩⟩

/-- What a load resolves a key to: the state, the pool the scope selects, and the
membership set of that pool. -/
structure Scope where
  st : PortState
  pool : List Backend
  set : Finset AddrPort

namespace RoutingTable

def warnOnce (t : RoutingTable) (st : PortState) : RoutingTable :=
  { t with warned := fun i => if i = st.id then true else t.warned i }

def activePool (t : RoutingTable) (st : PortState) (external : Bool) :
    RoutingTable × Except PickError (List Backend × Finset AddrPort) :=
  if external then (t, .ok (st.all, st.allSet))
  else if st.policy = .trafficLocal then
    if t.cfg.podCIDR.isValid then
      if st.locals = [] then (t, .error .errNoLocalBackends)
      else (t, .ok (st.locals, st.localSet))
    else (t.warnOnce st, .ok (st.all, st.allSet))
  else (t, .ok (st.all, st.allSet))

def scopedPool (t : RoutingTable) (key : PortKey) (external : Bool) :
    RoutingTable × Except PickError Scope :=
  match t.snap.states.lookup key with
  | none => (t, .error .errNoBackends)
  | some st =>
    if st.all = [] then (t, .error .errNoBackends)
    else match t.activePool st external with
      | (t', .error e) => (t', .error e)
      | (t', .ok (pool, set)) =>
        if pool = [] then (t', .error .errNoBackends) else (t', .ok ⟨st, pool, set⟩)

/-- The cursor is a 64-bit counter; the slot claimed is its value before the
increment. -/
def roundRobin (t : RoutingTable) (st : PortState) (pool : List Backend) :
    RoutingTable × Backend :=
  ({ t with cursor := fun i => if i = st.id then (t.cursor st.id + 1) % 2 ^ 64 else t.cursor i },
    pool.getD (t.cursor st.id % pool.length) default)

def pick (t : RoutingTable) (key : PortKey) : RoutingTable × Except PickError Backend :=
  match t.scopedPool key false with
  | (t', .error e) => (t', .error e)
  | (t', .ok sc) => ((t'.roundRobin sc.st sc.pool).1, .ok (t'.roundRobin sc.st sc.pool).2)

/-! ## Sticky picks -/

/-- The binding map of a key; a key without one reads as the empty map. -/
def binds (t : RoutingTable) (key : PortKey) : GoMap Addr AffinityBinding :=
  (t.affinity.lookup key).getD ∅

end RoutingTable

/-- `time.Time.Sub`, which saturates at the range of a 64-bit duration. -/
def timeSub (a b : Int) : Int := max (-2 ^ 63) (min (2 ^ 63 - 1) (a - b))

/-- How the critical section of a sticky pick ends: with its answer, or with a
fresh backend that is recorded if `st` is still the key's state. -/
inductive StickyStep
  | done (r : Except PickError Backend)
  | record (st : PortState) (be : Backend)

namespace RoutingTable

def perPortCap (t : RoutingTable) : Int := max 1 t.cfg.maxAffinityPerPort

def totalCap (t : RoutingTable) : Int := max 1 t.cfg.maxAffinityTotal

def touchBinding (t : RoutingTable) (key : PortKey) (client : Addr) (b : AffinityBinding)
    (now : Int) : RoutingTable :=
  { t with
    affinity := t.affinity.insert key ((t.binds key).insert client { b with lastSeen := now }) }

/-- Evict one binding of a port at its cap: the first entry a range over the map
visits, any of them. -/
def evict (t : RoutingTable) (key : PortKey) (victim : Nat) : RoutingTable :=
  if t.perPortCap ≤ GoMap.size (t.binds key) then
    match (t.binds key).entries[victim % GoMap.size (t.binds key)]? with
    | some e => t.dropBinding key e.1
    | none => t
  else t

/-- A miss: round-robin, make room, and stop at the ceiling over all ports. -/
def stickyMiss (t : RoutingTable) (key : PortKey) (sc : Scope) (victim : Nat) :
    RoutingTable × StickyStep :=
  let (t, be) := t.roundRobin sc.st sc.pool
  let t := t.evict key victim
  if t.totalCap ≤ t.affinityCount then ({ t with affinityWarned := true }, .done (.ok be))
  else ({ t with affinityWarned := false }, .record sc.st be)

/-- The binding of `client` is reused if its backend is still in the pool and it
did not idle past the timeout; a stale one is dropped, and a fresh backend is
picked. -/
def stickyReuse (t : RoutingTable) (key : PortKey) (client : Addr) (now : Int) (sc : Scope)
    (victim : Nat) : RoutingTable × StickyStep :=
  match (t.binds key).lookup client with
  | none => t.stickyMiss key sc victim
  | some b =>
    if b.backend.addr ∈ sc.set ∧ timeSub now b.lastSeen < sc.st.affinityTimeout then
      (t.touchBinding key client b now, .done (.ok b.backend))
    else (t.dropBinding key client).stickyMiss key sc victim

/-- The part of a sticky pick under the binding lock, up to its last load. -/
def stickyDecide (t : RoutingTable) (key : PortKey) (client : Addr) (now : Int) (external : Bool)
    (victim : Nat) : RoutingTable × StickyStep :=
  match t.scopedPool key external with
  | (t, .error e) => (t, .done (.error e))
  | (t, .ok sc) =>
    if sc.st.affinityMode ≠ .affinityClientIP then
      ((t.roundRobin sc.st sc.pool).1, .done (.ok (t.roundRobin sc.st sc.pool).2))
    else t.stickyReuse key client now sc victim

def recordBinding (t : RoutingTable) (key : PortKey) (client : Addr) (now : Int) (be : Backend) :
    RoutingTable :=
  { t with
    affinity := t.affinity.insert key ((t.binds key).insert client ⟨be, now⟩)
    affinityCount := t.affinityCount + 1 }

/-- The last load: the binding is recorded only if `key` still maps to the very
state the backend was picked from. -/
def stickyRecord (t : RoutingTable) (key : PortKey) (client : Addr) (now : Int) (st : PortState)
    (be : Backend) : RoutingTable :=
  if t.snap.states.lookup key = some st then t.recordBinding key client now be else t

def pickStickyScoped (t : RoutingTable) (key : PortKey) (client : Addr) (now : Int)
    (external : Bool) (victim : Nat) : RoutingTable × Except PickError Backend :=
  match t.scopedPool key external with
  | (t, .error e) => (t, .error e)
  | (t, .ok sc) =>
    if sc.st.affinityMode ≠ .affinityClientIP then
      ((t.roundRobin sc.st sc.pool).1, .ok (t.roundRobin sc.st sc.pool).2)
    else match t.stickyDecide key client now external victim with
      | (t, .done r) => (t, r)
      | (t, .record st be) => (t.stickyRecord key client now st be, .ok be)

def pickSticky (t : RoutingTable) (key : PortKey) (client : Addr) (now : Int) (victim : Nat) :
    RoutingTable × Except PickError Backend :=
  t.pickStickyScoped key client now false victim

def pickStickyCluster (t : RoutingTable) (key : PortKey) (client : Addr) (now : Int)
    (victim : Nat) : RoutingTable × Except PickError Backend :=
  t.pickStickyScoped key client now true victim

/-! ## The idle sweep -/

def sweepBinds (t : RoutingTable) (key : PortKey) (timeout now : Int)
    (es : List (Σ _ : Addr, AffinityBinding)) : RoutingTable :=
  es.foldl (fun t e => if timeout ≤ timeSub now e.2.lastSeen then t.dropBinding key e.1 else t) t

def sweepKey (snap : RoutingSnapshot) (now : Int) (t : RoutingTable) (key : PortKey) :
    RoutingTable :=
  match snap.states.lookup key with
  | none => t.dropAffinity key
  | some st =>
    let t := t.sweepBinds key st.affinityTimeout now (t.binds key).entries
    if GoMap.size (t.binds key) = 0 then t.dropAffinity key else t

/-- `SweepExpired` with the snapshot it loaded under the binding lock. -/
def sweepExpired (t : RoutingTable) (snap : RoutingSnapshot) (now : Int) : RoutingTable :=
  t.affinity.keys.foldl (sweepKey snap now) t

end RoutingTable

section

variable (t : RoutingTable) (key : PortKey)

lemma RoutingTable.activePool_fst (st : PortState) (external : Bool) :
    ∃ w, (t.activePool st external).1 = { t with warned := w } := by
  unfold activePool
  split_ifs
  · exact ⟨t.warned, rfl⟩
  · exact ⟨t.warned, rfl⟩
  · exact ⟨t.warned, rfl⟩
  · exact ⟨_, rfl⟩
  · exact ⟨t.warned, rfl⟩

lemma RoutingTable.scopedPool_fst (external : Bool) :
    ∃ w, (t.scopedPool key external).1 = { t with warned := w } := by
  unfold scopedPool
  split
  · exact ⟨t.warned, rfl⟩
  rename_i st _
  split_ifs
  · exact ⟨t.warned, rfl⟩
  · obtain ⟨w, hw⟩ := t.activePool_fst st external
    refine ⟨w, ?_⟩
    split
    · rename_i h
      rw [h] at hw
      exact hw
    · rename_i h
      rw [h] at hw
      split_ifs <;> exact hw

lemma RoutingTable.valueAt_size : GoMap.valueAt GoMap.size t.affinity key =
    GoMap.size (t.binds key) := by
  unfold GoMap.valueAt binds
  cases t.affinity.lookup key <;> rfl

lemma RoutingTable.binds_of_affinity_insert {t t' : RoutingTable} {key : PortKey}
    {m : GoMap Addr AffinityBinding} (h : t'.affinity = t.affinity.insert key m) (k : PortKey) :
    t'.binds k = if k = key then m else t.binds k := by
  rw [binds, h, GoMap.lookup_insert_ite]
  split_ifs <;> rfl

lemma RoutingTable.binds_of_affinity_erase {t t' : RoutingTable} {key : PortKey}
    (h : t'.affinity = t.affinity.erase key) (k : PortKey) :
    t'.binds k = if k = key then ∅ else t.binds k := by
  rw [binds, h, GoMap.lookup_erase_ite]
  split_ifs <;> rfl

lemma RoutingTable.binds_dropAffinity (t : RoutingTable) (key k : PortKey) :
    (t.dropAffinity key).binds k = if k = key then ∅ else t.binds k :=
  binds_of_affinity_erase rfl k

lemma RoutingTable.binds_dropBinding (client : Addr) (k : PortKey) :
    (t.dropBinding key client).binds k =
      if k = key then (t.binds key).erase client else t.binds k :=
  binds_of_affinity_insert rfl k

end

/-! ## Accounting -/

/-- The counter is the number of bindings, and both caps hold. -/
structure Accounted (t : RoutingTable) : Prop where
  count : t.affinityCount = GoMap.sumBy GoMap.size t.affinity
  perPort : ∀ key, (GoMap.size (t.binds key) : Int) ≤ t.perPortCap
  total : t.affinityCount ≤ t.totalCap

lemma one_le_perPortCap (t : RoutingTable) : 1 ≤ t.perPortCap := Int.le_max_left _ _

lemma one_le_totalCap (t : RoutingTable) : 1 ≤ t.totalCap := Int.le_max_left _ _

lemma accounted_newRoutingTable (cfg : TableConfig) : Accounted (newRoutingTable cfg) where
  count := rfl
  perPort _ := Int.le_trans Int.one_nonneg (one_le_perPortCap _)
  total := Int.le_trans Int.one_nonneg (one_le_totalCap _)

variable {t : RoutingTable}

lemma Accounted.congr {t' : RoutingTable} (h : Accounted t) (hcfg : t'.cfg = t.cfg)
    (haff : t'.affinity = t.affinity) (hcount : t'.affinityCount = t.affinityCount) :
    Accounted t' where
  count := by rw [hcount, haff, h.count]
  perPort key := by
    rw [RoutingTable.binds, haff, RoutingTable.perPortCap, hcfg]
    exact h.perPort key
  total := by
    rw [hcount, RoutingTable.totalCap, hcfg]
    exact h.total

lemma Accounted.replace {t' : RoutingTable} {key : PortKey} {m : GoMap Addr AffinityBinding}
    (h : Accounted t) (hcfg : t'.cfg = t.cfg) (haff : t'.affinity = t.affinity.insert key m)
    (hcount : t'.affinityCount = t.affinityCount + GoMap.size m - GoMap.size (t.binds key))
    (hm : (GoMap.size m : Int) ≤ t.perPortCap) (ht : t'.affinityCount ≤ t.totalCap) :
    Accounted t' where
  count := by
    have hs := GoMap.sumBy_insert GoMap.size t.affinity key m
    rw [t.valueAt_size key] at hs
    rw [hcount, haff, h.count]
    omega
  perPort k := by
    rw [RoutingTable.binds_of_affinity_insert haff, RoutingTable.perPortCap, hcfg]
    split_ifs
    · exact hm
    · exact h.perPort k
  total := by
    rw [RoutingTable.totalCap, hcfg]
    exact ht

lemma accounted_dropBinding {key : PortKey} {client : Addr} {b : AffinityBinding}
    (h : Accounted t) (hb : (t.binds key).lookup client = some b) :
    Accounted (t.dropBinding key client) := by
  have hsize := GoMap.size_erase hb
  have hport := h.perPort key
  have htotal := h.total
  refine h.replace rfl rfl ?_ ?_ ?_
  · simp only [RoutingTable.dropBinding]
    change _ = t.affinityCount + (GoMap.size ((t.binds key).erase client) : Int) - _
    omega
  · change (GoMap.size ((t.binds key).erase client) : Int) ≤ _
    omega
  · simp only [RoutingTable.dropBinding]
    omega

lemma accounted_dropAffinity (h : Accounted t) (key : PortKey) :
    Accounted (t.dropAffinity key) where
  count := by
    have hs := GoMap.sumBy_erase GoMap.size t.affinity key
    have hc := h.count
    rw [t.valueAt_size key] at hs
    simp only [RoutingTable.dropAffinity]
    change t.affinityCount - (GoMap.size (t.binds key) : Int) = _
    omega
  perPort k := by
    rw [RoutingTable.binds_dropAffinity]
    split_ifs
    · exact Int.le_trans Int.one_nonneg (one_le_perPortCap _)
    · exact h.perPort k
  total := Int.le_trans (Int.sub_le_self _ (Int.natCast_nonneg _)) h.total

/-! ### Writers -/

section

variable {t : RoutingTable} (api : Netv1)

lemma accounted_installEndpoints (h : Accounted t) (key : PortKey) (svc : ObjectKey)
    (eps : List Endpoint) (policy : TrafficPolicy) (aff : AffinityConfig) :
    Accounted (t.installEndpoints api key svc eps policy aff) := by
  have hstore := t.installStore_affinity api key svc eps policy aff
  have h' : Accounted (t.installStore api key svc eps policy aff) :=
    h.congr (t.installStore_cfg api key svc eps policy aff) hstore.1 hstore.2
  rw [RoutingTable.installEndpoints]
  split
  · exact accounted_dropAffinity h' key
  · exact h'

lemma accounted_delete (h : Accounted t) (key : PortKey) : Accounted (t.delete key) :=
  (accounted_dropAffinity h key).congr rfl rfl rfl

lemma accounted_setTransportOverrides (h : Accounted t) (ov : GoMap Addr VMPodTransport) :
    Accounted (t.setTransportOverrides ov) := h.congr rfl rfl rfl

end

/-! ### Sticky picks -/

/-- A new binding fits under both caps. -/
structure CanRecord (t : RoutingTable) (key : PortKey) (client : Addr) : Prop where
  fresh : (t.binds key).lookup client = none
  perPort : (GoMap.size (t.binds key) : Int) < t.perPortCap
  total : t.affinityCount < t.totalCap

section

variable {t : RoutingTable} {key : PortKey} {client : Addr}

lemma accounted_scopedPool {t' : RoutingTable} {external : Bool} {r : Except PickError Scope}
    (h : Accounted t) (hs : t.scopedPool key external = (t', r)) : Accounted t' := by
  obtain ⟨w, hw⟩ := t.scopedPool_fst key external
  rw [hs] at hw
  cases hw
  exact h.congr rfl rfl rfl

lemma accounted_touchBinding {b : AffinityBinding} (h : Accounted t)
    (hb : (t.binds key).lookup client = some b) (now : Int) :
    Accounted (t.touchBinding key client b now) := by
  have hsize : GoMap.size ((t.binds key).insert client { b with lastSeen := now }) =
      GoMap.size (t.binds key) := by
    have := GoMap.sumBy_insert (fun _ => 1) (t.binds key) client { b with lastSeen := now }
    simp only [GoMap.valueAt, hb, Option.map_some, Option.getD_some] at this
    simp only [GoMap.size_eq_sumBy]
    omega
  have hport := h.perPort key
  refine h.replace rfl rfl ?_ ?_ h.total
  · rw [hsize]
    simp only [RoutingTable.touchBinding]
    omega
  · omega

lemma accounted_recordBinding (h : Accounted t) (hroom : CanRecord t key client) (now : Int)
    (be : Backend) : Accounted (t.recordBinding key client now be) := by
  have hsize := GoMap.size_insert hroom.fresh (⟨be, now⟩ : AffinityBinding)
  have hport := hroom.perPort
  refine h.replace rfl rfl ?_ ?_
    (Int.add_one_le_of_lt hroom.total)
  · simp only [RoutingTable.recordBinding]
    omega
  · omega

lemma accounted_evict (h : Accounted t) (key : PortKey) (client : Addr) (victim : Nat) :
    Accounted (t.evict key victim) ∧ (t.evict key victim).cfg = t.cfg ∧
      (GoMap.size ((t.evict key victim).binds key) : Int) < t.perPortCap ∧
      ((t.binds key).lookup client = none →
        ((t.evict key victim).binds key).lookup client = none) := by
  have hport := h.perPort key
  have hcap := one_le_perPortCap t
  unfold RoutingTable.evict
  split
  · rename_i hfull
    have hpos : 0 < GoMap.size (t.binds key) := by omega
    have hlt : victim % GoMap.size (t.binds key) < (t.binds key).entries.length :=
      Nat.mod_lt _ hpos
    rw [List.getElem?_eq_getElem hlt]
    have hb := GoMap.lookup_of_mem_entries (List.getElem_mem hlt)
    have hsize := GoMap.size_erase hb
    refine ⟨accounted_dropBinding h hb, rfl, ?_, ?_⟩
    · rw [RoutingTable.binds_dropBinding, if_pos rfl]
      omega
    · intro hfresh
      rw [RoutingTable.binds_dropBinding, if_pos rfl, GoMap.lookup_erase_ite, hfresh, ite_self]
  · rename_i hroom
    exact ⟨h, rfl, by omega, id⟩

lemma accounted_stickyMiss (h : Accounted t) (hfresh : (t.binds key).lookup client = none)
    (sc : Scope) (victim : Nat) : Accounted (t.stickyMiss key sc victim).1 ∧
      ∀ st be, (t.stickyMiss key sc victim).2 = .record st be →
        CanRecord (t.stickyMiss key sc victim).1 key client := by
  have hrr : Accounted (t.roundRobin sc.st sc.pool).1 := h.congr rfl rfl rfl
  obtain ⟨hev, hcfg, hsize, hnone⟩ := accounted_evict hrr key client victim
  unfold RoutingTable.stickyMiss
  dsimp only
  split
  · exact ⟨hev.congr rfl rfl rfl, fun _ _ hr => nomatch hr⟩
  rename_i hceil
  refine ⟨hev.congr rfl rfl rfl, fun _ _ _ => ⟨hnone hfresh, ?_, Int.not_le.mp hceil⟩⟩
  rw [RoutingTable.perPortCap, hcfg]
  exact hsize

lemma accounted_stickyReuse (h : Accounted t) (now : Int) (sc : Scope) (victim : Nat) :
    Accounted (t.stickyReuse key client now sc victim).1 ∧
      ∀ st be, (t.stickyReuse key client now sc victim).2 = .record st be →
        CanRecord (t.stickyReuse key client now sc victim).1 key client := by
  unfold RoutingTable.stickyReuse
  split
  · rename_i hnone
    exact accounted_stickyMiss h hnone sc victim
  rename_i b hb
  split_ifs
  · exact ⟨accounted_touchBinding h hb now, fun _ _ hr => nomatch hr⟩
  · refine accounted_stickyMiss (accounted_dropBinding h hb) ?_ sc victim
    rw [RoutingTable.binds_dropBinding, if_pos rfl, AList.lookup_erase]

lemma accounted_stickyDecide (h : Accounted t) (key : PortKey) (client : Addr) (now : Int)
    (external : Bool) (victim : Nat) : Accounted (t.stickyDecide key client now external victim).1 ∧
      ∀ st be, (t.stickyDecide key client now external victim).2 = .record st be →
        CanRecord (t.stickyDecide key client now external victim).1 key client := by
  unfold RoutingTable.stickyDecide
  split
  · rename_i hs
    exact ⟨accounted_scopedPool h hs, fun _ _ hr => nomatch hr⟩
  rename_i t' sc hs
  have h' : Accounted t' := accounted_scopedPool h hs
  split_ifs
  · exact ⟨h'.congr rfl rfl rfl, fun _ _ hr => nomatch hr⟩
  · exact accounted_stickyReuse h' now sc victim

lemma accounted_pickStickyScoped (h : Accounted t) (now : Int) (external : Bool) (victim : Nat) :
    Accounted (t.pickStickyScoped key client now external victim).1 := by
  unfold RoutingTable.pickStickyScoped
  split
  · rename_i hs
    exact accounted_scopedPool h hs
  rename_i t' sc hs
  have h' : Accounted t' := accounted_scopedPool h hs
  split_ifs
  · exact h'.congr rfl rfl rfl
  · obtain ⟨hacc, hroom⟩ := accounted_stickyDecide h' key client now external victim
    split
    · rename_i hd
      rw [hd] at hacc
      exact hacc
    · rename_i st be hd
      rw [hd] at hacc hroom
      dsimp only [RoutingTable.stickyRecord]
      split
      · exact accounted_recordBinding hacc (hroom st be rfl) now be
      · exact hacc

end

/-! ### Sweeps -/

lemma accounted_sweepBinds (h : Accounted t) (key : PortKey) (timeout now : Int)
    (es : List (Σ _ : Addr, AffinityBinding)) (hnodup : es.NodupKeys)
    (hes : ∀ e ∈ es, (t.binds key).lookup e.1 = some e.2) :
    Accounted (t.sweepBinds key timeout now es) := by
  induction es generalizing t with
  | nil => exact h
  | cons e es ih =>
    rw [List.nodupKeys_cons] at hnodup
    have hrest : ∀ e' ∈ es, e'.1 ≠ e.1 := fun e' he' heq =>
      hnodup.1 (List.mem_keys.mpr ⟨e'.2, by rw [← heq]; exact he'⟩)
    simp only [RoutingTable.sweepBinds, List.foldl_cons]
    split
    · refine ih (accounted_dropBinding h (hes e List.mem_cons_self)) hnodup.2 fun e' he' => ?_
      rw [RoutingTable.binds_dropBinding, if_pos rfl, GoMap.lookup_erase_ite, if_neg (hrest e' he')]
      exact hes e' (List.mem_cons_of_mem _ he')
    · exact ih h hnodup.2 fun e' he' => hes e' (List.mem_cons_of_mem _ he')

lemma accounted_sweepKey (h : Accounted t) (snap : RoutingSnapshot) (now : Int) (key : PortKey) :
    Accounted (t.sweepKey snap now key) := by
  unfold RoutingTable.sweepKey
  split
  · exact accounted_dropAffinity h key
  rename_i st _
  have h' := accounted_sweepBinds h key st.affinityTimeout now (t.binds key).entries
    (t.binds key).nodupKeys fun e he => GoMap.lookup_of_mem_entries he
  dsimp only
  split
  · exact accounted_dropAffinity h' key
  · exact h'

lemma accounted_sweepExpired (h : Accounted t) (snap : RoutingSnapshot) (now : Int) :
    Accounted (t.sweepExpired snap now) := by
  unfold RoutingTable.sweepExpired
  generalize t.affinity.keys = keys
  induction keys generalizing t with
  | nil => exact h
  | cons key keys ih => exact ih (accounted_sweepKey h snap now key)

/-! ### Picks and sweeps leave what writers store -/

section

variable {t : RoutingTable}

/-- Picks and sweeps write neither the snapshot nor the bookkeeping. -/
structure Unwritten (t t' : RoutingTable) : Prop where
  metas : t'.metas = t.metas
  snap : t'.snap = t.snap

lemma Unwritten.trans {t' t'' : RoutingTable} (h : Unwritten t t') (h' : Unwritten t' t'') :
    Unwritten t t'' :=
  ⟨h'.metas.trans h.metas, h'.snap.trans h.snap⟩

lemma unwritten_scopedPool {t' : RoutingTable} {key : PortKey} {external : Bool}
    {r : Except PickError Scope} (hs : t.scopedPool key external = (t', r)) : Unwritten t t' := by
  obtain ⟨w, hw⟩ := t.scopedPool_fst key external
  rw [hs] at hw
  cases hw
  exact ⟨rfl, rfl⟩

lemma unwritten_evict (t : RoutingTable) (key : PortKey) (victim : Nat) :
    Unwritten t (t.evict key victim) := by
  unfold RoutingTable.evict
  split
  · split <;> exact ⟨rfl, rfl⟩
  · exact ⟨rfl, rfl⟩

lemma unwritten_stickyMiss (t : RoutingTable) (key : PortKey) (sc : Scope) (victim : Nat) :
    Unwritten t (t.stickyMiss key sc victim).1 := by
  have hev := unwritten_evict (t.roundRobin sc.st sc.pool).1 key victim
  unfold RoutingTable.stickyMiss
  dsimp only
  split <;> exact ⟨hev.metas, hev.snap⟩

lemma unwritten_stickyReuse (t : RoutingTable) (key : PortKey) (client : Addr) (now : Int)
    (sc : Scope) (victim : Nat) : Unwritten t (t.stickyReuse key client now sc victim).1 := by
  unfold RoutingTable.stickyReuse
  split
  · exact unwritten_stickyMiss t key sc victim
  split
  · exact ⟨rfl, rfl⟩
  · have hmiss := unwritten_stickyMiss (t.dropBinding key client) key sc victim
    exact ⟨hmiss.metas, hmiss.snap⟩

lemma unwritten_stickyDecide (t : RoutingTable) (key : PortKey) (client : Addr) (now : Int)
    (external : Bool) (victim : Nat) :
    Unwritten t (t.stickyDecide key client now external victim).1 := by
  unfold RoutingTable.stickyDecide
  split
  · rename_i hs
    exact unwritten_scopedPool hs
  rename_i t' sc hs
  have hload := unwritten_scopedPool hs
  split
  · exact ⟨hload.metas, hload.snap⟩
  · exact hload.trans (unwritten_stickyReuse t' key client now sc victim)

lemma unwritten_pickStickyScoped (t : RoutingTable) (key : PortKey) (client : Addr) (now : Int)
    (external : Bool) (victim : Nat) :
    Unwritten t (t.pickStickyScoped key client now external victim).1 := by
  unfold RoutingTable.pickStickyScoped
  split
  · rename_i hs
    exact unwritten_scopedPool hs
  rename_i t' sc hs
  have hload := unwritten_scopedPool hs
  split
  · exact ⟨hload.metas, hload.snap⟩
  · have hdecide := hload.trans (unwritten_stickyDecide t' key client now external victim)
    split
    · rename_i hd
      rw [hd] at hdecide
      exact hdecide
    · rename_i hd
      rw [hd] at hdecide
      unfold RoutingTable.stickyRecord
      dsimp only
      split
      · exact ⟨hdecide.metas, hdecide.snap⟩
      · exact hdecide

lemma unwritten_sweepBinds (t : RoutingTable) (key : PortKey) (timeout now : Int)
    (es : List (Σ _ : Addr, AffinityBinding)) : Unwritten t (t.sweepBinds key timeout now es) := by
  induction es generalizing t with
  | nil => exact ⟨rfl, rfl⟩
  | cons e es ih =>
    simp only [RoutingTable.sweepBinds, List.foldl_cons]
    split
    · exact ⟨(ih (t.dropBinding key e.1)).metas, (ih (t.dropBinding key e.1)).snap⟩
    · exact ih t

lemma unwritten_sweepExpired (t : RoutingTable) (snap : RoutingSnapshot) (now : Int) :
    Unwritten t (t.sweepExpired snap now) := by
  unfold RoutingTable.sweepExpired
  generalize t.affinity.keys = keys
  induction keys generalizing t with
  | nil => exact ⟨rfl, rfl⟩
  | cons key keys ih =>
    refine Unwritten.trans ?_ (ih _)
    unfold RoutingTable.sweepKey
    split
    · exact ⟨rfl, rfl⟩
    rename_i st _
    have hsw := unwritten_sweepBinds t key st.affinityTimeout now (t.binds key).entries
    dsimp only
    split
    · exact ⟨hsw.metas, hsw.snap⟩
    · exact hsw

end

/-! ## Every sequence of operations -/

inductive TableOp
  | installEndpoints (key : PortKey) (svc : ObjectKey) (eps : List Endpoint)
      (policy : TrafficPolicy) (aff : AffinityConfig)
  | delete (key : PortKey)
  | setTransportOverrides (overrides : GoMap Addr VMPodTransport)
  | pickSticky (key : PortKey) (client : Addr) (now : Int) (victim : Nat)
  | pickStickyCluster (key : PortKey) (client : Addr) (now : Int) (victim : Nat)
  | sweepExpired (now : Int)

def RoutingTable.apply (api : Netv1) (t : RoutingTable) : TableOp → RoutingTable
  | .installEndpoints key svc eps policy aff => t.installEndpoints api key svc eps policy aff
  | .delete key => t.delete key
  | .setTransportOverrides ov => t.setTransportOverrides ov
  | .pickSticky key client now victim => (t.pickSticky key client now victim).1
  | .pickStickyCluster key client now victim => (t.pickStickyCluster key client now victim).1
  | .sweepExpired now => t.sweepExpired t.snap now

def tableMachine (api : Netv1) : Machine RoutingTable TableOp where
  init t := ∃ cfg, t = newRoutingTable cfg
  step t op := some (t.apply api op)

lemma accounted_apply (api : Netv1) (h : Accounted t) (op : TableOp) :
    Accounted (t.apply api op) := by
  cases op with
  | installEndpoints key svc eps policy aff =>
    exact accounted_installEndpoints api h key svc eps policy aff
  | delete key => exact accounted_delete h key
  | setTransportOverrides ov => exact accounted_setTransportOverrides h ov
  | pickSticky key client now victim => exact accounted_pickStickyScoped h now false victim
  | pickStickyCluster key client now victim => exact accounted_pickStickyScoped h now true victim
  | sweepExpired now => exact accounted_sweepExpired h t.snap now

/-- After any operations the counter is the number of bindings, and neither cap is exceeded. -/
theorem affinity_accounting (api : Netv1) {t : RoutingTable}
    (h : (tableMachine api).Reach Machine.always t) :
    t.affinityCount = GoMap.sumBy GoMap.size t.affinity ∧
      (∀ key binds, t.affinity.lookup key = some binds →
        (GoMap.size binds : Int) ≤ max 1 t.cfg.maxAffinityPerPort) ∧
      t.affinityCount ≤ max 1 t.cfg.maxAffinityTotal := by
  have hacc : Accounted t := by
    refine Machine.Reach.invariant ?_ ?_ h
    · rintro _ ⟨cfg, rfl⟩
      exact accounted_newRoutingTable cfg
    · intro s op _ hs _ hst
      cases hst
      exact accounted_apply api hs op
  refine ⟨hacc.count, fun key binds hk => ?_, hacc.total⟩
  have hport := hacc.perPort key
  rwa [RoutingTable.binds, hk] at hport

/-- A per-port cap of one, and two clients of one ClientIP port: the second
client's binding evicts the first one's. -/
def cappedConfig : TableConfig := ⟨.zero, .zero, .zero, 1, 4⟩

def cappedRun : List TableOp :=
  let key : PortKey := ⟨"10.43.0.1", 80, .TCP⟩
  [.installEndpoints key ⟨"default", "web"⟩ [⟨"10.42.0.5", 8080, true⟩] .trafficCluster
      ⟨.affinityClientIP, 0⟩,
    .pickSticky key (.v4 1) 0 0, .pickStickyCluster key (.v4 2) 5 0]

def cappedTable : RoutingTable :=
  cappedRun.foldl (RoutingTable.apply Netv1.standard) (newRoutingTable cappedConfig)

theorem affinity_accounting_cappedTable :
    cappedTable.affinityCount = 1 ∧ cappedTable.affinityCount ≤ max 1 4 := by
  have hreach : (tableMachine Netv1.standard).Reach Machine.always cappedTable :=
    .of_run cappedRun ⟨cappedConfig, rfl⟩ (Machine.meets_always _ _) rfl
  exact ⟨by decide, (affinity_accounting Netv1.standard hreach).2.2⟩

end DarwinNet.Proxy
