import DarwinNet.Lib.Cyclic
import DarwinNet.Proxy.PickScope

/-!
How evenly round-robin picks fall (`routing.go`: `installEndpoints`, `roundRobin`, `Pick`).

An install keeps an endpoint once for every time it is listed. An address listed in two slices
takes two places of the pool, so two picks in a row may both return it while another address
waits (`roundRobin_favours_duplicate`). Consecutive picks of one scope take turns
(`answers_eq_turns`), and the pool is sorted, so a repeated address always leads to that.
-/

namespace DarwinNet.Proxy

open Lib Netip Api

/-! ## Consecutive picks -/

/-- A pick of the scope that goes round-robin: `Pick`, or a sticky pick that moves the
cursor. -/
inductive RoundRobinPick (key : PortKey) (external : Bool) (t : RoutingTable) (be : Backend)
    (t' : RoutingTable) : Prop
  | pick : external = false → t.pick key = (t', .ok be) → RoundRobinPick key external t be t'
  | sticky (client : Addr) (now : Int) (victim : Nat) :
    t.pickStickyScoped key client now external victim = (t', .ok be) → t'.cursor ≠ t.cursor →
    RoundRobinPick key external t be t'

/-- Consecutive round-robin picks of one scope on the state `st`, with what they return.
What happens in between leaves the port's state and its cursor alone. -/
inductive PicksInARow (key : PortKey) (external : Bool) (st : PortState) :
    RoutingTable → List Backend → Prop
  | nil (t : RoutingTable) : PicksInARow key external st t []
  | pick {t t' : RoutingTable} {be : Backend} {bes : List Backend} :
    RoundRobinPick key external t be t' → PicksInARow key external st t' bes →
    PicksInARow key external st t (be :: bes)
  | other {t t' : RoutingTable} {bes : List Backend} :
    t'.cfg = t.cfg → t'.snap.states.lookup key = t.snap.states.lookup key →
    t'.cursor st.id = t.cursor st.id → PicksInARow key external st t' bes →
    PicksInARow key external st t bes

section

variable {api : Netv1} {t t' : RoutingTable} {key : PortKey} {external : Bool} {st : PortState}
  {pool : List Backend} {be : Backend}

/-- `be` is the pool's backend at the cursor, which has moved by one. -/
structure Turn (t : RoutingTable) (st : PortState) (pool : List Backend) (be : Backend)
    (t' : RoutingTable) : Prop where
  cfg : t'.cfg = t.cfg
  snap : t'.snap = t.snap
  cursor : t'.cursor st.id = (t.cursor st.id + 1) % 2 ^ 64
  backend : be = pool.getD (t.cursor st.id % pool.length) default

lemma turn_roundRobin (t : RoutingTable) (st : PortState) (pool : List Backend) :
    Turn t st pool (t.roundRobin st pool).2 (t.roundRobin st pool).1 :=
  ⟨rfl, rfl, if_pos rfl, rfl⟩

lemma Turn.congr {u u' : RoutingTable} (h : Turn t st pool be t') (hcfg : u.cfg = t.cfg)
    (hsnap : u.snap = t.snap) (hcur : u.cursor = t.cursor) (hcfg' : u'.cfg = t'.cfg)
    (hsnap' : u'.snap = t'.snap) (hcur' : u'.cursor = t'.cursor) : Turn u st pool be u' where
  cfg := by rw [hcfg', h.cfg, hcfg]
  snap := by rw [hsnap', h.snap, hsnap]
  cursor := by rw [hcur', h.cursor, hcur]
  backend := by rw [hcur]; exact h.backend

lemma cursor_evict (t : RoutingTable) (key : PortKey) (victim : Nat) :
    (t.evict key victim).cursor = t.cursor := by
  unfold RoutingTable.evict
  split
  · split <;> rfl
  · rfl

lemma turn_stickyMiss (t : RoutingTable) (key : PortKey) (sc : Scope) (victim : Nat) :
    ∃ be, Turn t sc.st sc.pool be (t.stickyMiss key sc victim).1 ∧
      ((t.stickyMiss key sc victim).2 = .done (.ok be) ∨
        (t.stickyMiss key sc victim).2 = .record sc.st be) := by
  have hturn := turn_roundRobin t sc.st sc.pool
  have hn := narrows_evict (t := (t.roundRobin sc.st sc.pool).1) key victim
  have hcur := cursor_evict (t.roundRobin sc.st sc.pool).1 key victim
  refine ⟨(t.roundRobin sc.st sc.pool).2, ?_⟩
  unfold RoutingTable.stickyMiss
  dsimp only
  split
  · exact ⟨hturn.congr rfl rfl rfl hn.cfg hn.snap hcur, .inl rfl⟩
  · exact ⟨hturn.congr rfl rfl rfl hn.cfg hn.snap hcur, .inr rfl⟩

lemma turn_stickyReuse (t : RoutingTable) (key : PortKey) (client : Addr) (now : Int)
    (sc : Scope) (victim : Nat) :
    (∃ be, (t.stickyReuse key client now sc victim).2 = .done (.ok be) ∧
      (t.stickyReuse key client now sc victim).1.cursor = t.cursor) ∨
    ∃ be, Turn t sc.st sc.pool be (t.stickyReuse key client now sc victim).1 ∧
      ((t.stickyReuse key client now sc victim).2 = .done (.ok be) ∨
        (t.stickyReuse key client now sc victim).2 = .record sc.st be) := by
  unfold RoutingTable.stickyReuse
  split
  · exact .inr (turn_stickyMiss t key sc victim)
  rename_i b _
  split
  · exact .inl ⟨b.backend, rfl, rfl⟩
  · obtain ⟨be, hturn, hans⟩ := turn_stickyMiss (t.dropBinding key client) key sc victim
    exact .inr ⟨be, hturn.congr rfl rfl rfl rfl rfl rfl, hans⟩

lemma eligible_of_scopedPool {sc : Scope} (hinst : st.Installed api t.cfg)
    (hst : t.snap.states.lookup key = some st) (h : t.scopedPool key external = (t', .ok sc)) :
    sc.st = st ∧ sc.pool = st.eligible t.cfg external := by
  have hsnd := scopedPool_snd external hinst hst
  rw [h] at hsnd
  split_ifs at hsnd
  cases hsnd
  exact ⟨rfl, rfl⟩

lemma Turn.of_load {sc : Scope} {u : RoutingTable} (hinst : st.Installed api t.cfg)
    (hst : t.snap.states.lookup key = some st) (hload : t.scopedPool key external = (u, .ok sc))
    (h : Turn u sc.st sc.pool be t') : Turn t st (st.eligible t.cfg external) be t' := by
  obtain ⟨hsc, hpool⟩ := eligible_of_scopedPool hinst hst hload
  have hn := narrows_scopedPool hload
  rw [hsc, hpool] at h
  exact h.congr hn.cfg.symm hn.snap.symm (affinity_of_scopedPool hload).2.symm rfl rfl rfl

lemma turn_stickyRecord (t : RoutingTable) (key : PortKey) (client : Addr) (now : Int)
    (st : PortState) (be : Backend) : (t.stickyRecord key client now st be).cfg = t.cfg ∧
      (t.stickyRecord key client now st be).snap = t.snap ∧
      (t.stickyRecord key client now st be).cursor = t.cursor := by
  unfold RoutingTable.stickyRecord
  split <;> exact ⟨rfl, rfl, rfl⟩

lemma RoundRobinPick.turn (h : RoundRobinPick key external t be t')
    (hinst : st.Installed api t.cfg) (hst : t.snap.states.lookup key = some st) :
    Turn t st (st.eligible t.cfg external) be t' := by
  cases h with
  | pick hext hpick =>
    subst hext
    unfold RoutingTable.pick at hpick
    split at hpick
    · cases hpick
    · rename_i u sc hload
      cases hpick
      exact .of_load hinst hst hload (turn_roundRobin u sc.st sc.pool)
  | sticky client now victim hpick hmoved =>
    unfold RoutingTable.pickStickyScoped at hpick
    split at hpick
    · cases hpick
    rename_i u sc hload
    split at hpick
    · cases hpick
      exact .of_load hinst hst hload (turn_roundRobin u sc.st sc.pool)
    rename_i hmode
    -- the second load, under the lock, resolves the same state
    have hn := narrows_scopedPool hload
    have hcur := (affinity_of_scopedPool hload).2
    obtain ⟨hsc, -⟩ := eligible_of_scopedPool hinst hst hload
    have hinst' : st.Installed api u.cfg := hn.cfg ▸ hinst
    have hst' : u.snap.states.lookup key = some st := hn.snap ▸ hst
    have hback : ∀ {v : RoutingTable}, Turn u st (st.eligible u.cfg external) be v →
        Turn t st (st.eligible t.cfg external) be v := by
      intro v hturn
      rw [hn.cfg] at hturn
      exact hturn.congr hn.cfg.symm hn.snap.symm hcur.symm rfl rfl rfl
    unfold RoutingTable.stickyDecide at hpick
    cases hload' : u.scopedPool key external with
    | mk v r =>
    rw [hload'] at hpick
    cases r with
    | error e => cases hpick
    | ok sc' =>
    obtain ⟨hsc', -⟩ := eligible_of_scopedPool hinst' hst' hload'
    have hmode' : ¬ sc'.st.affinityMode ≠ .affinityClientIP := by
      rw [hsc', ← hsc]
      exact hmode
    simp only [if_neg hmode'] at hpick
    have hcur' := (affinity_of_scopedPool hload').2
    have hreuse := turn_stickyReuse v key client now sc' victim
    generalize v.stickyReuse key client now sc' victim = reused at hpick hreuse
    obtain ⟨w, step⟩ := reused
    rcases hreuse with ⟨be', hans, hkeep⟩ | ⟨be', hturn, hans | hans⟩
    · cases hans
      cases hpick
      exact absurd (hkeep.trans (hcur'.trans hcur)) hmoved
    · cases hans
      cases hpick
      exact hback (.of_load hinst' hst' hload' hturn)
    · cases hans
      cases hpick
      obtain ⟨hcfg, hsnap, hrec⟩ := turn_stickyRecord w key client now sc'.st be
      exact hback (.of_load hinst' hst' hload' (hturn.congr rfl rfl rfl hcfg hsnap hrec))

lemma answers_eq_turns {bes : List Backend} (h : PicksInARow key external st t bes)
    (hinst : st.Installed api t.cfg) (hst : t.snap.states.lookup key = some st)
    (hcursor : t.cursor st.id + bes.length ≤ 2 ^ 64) :
    bes = turns default (st.eligible t.cfg external) (t.cursor st.id) bes.length := by
  induction h with
  | nil t => rfl
  | @pick t t' be bes hpick _ ih =>
    have hturn := hpick.turn hinst hst
    rw [List.length_cons] at hcursor
    rcases Nat.lt_or_ge (t.cursor st.id + 1) (2 ^ 64) with hlt | hge
    · have hnext : t'.cursor st.id = t.cursor st.id + 1 := by
        rw [hturn.cursor, Nat.mod_eq_of_lt hlt]
      have hrest := ih (hturn.cfg ▸ hinst) (hturn.snap ▸ hst) (by omega)
      rw [hturn.cfg, hnext] at hrest
      rw [List.length_cons, turns, ← hrest, ← hturn.backend]
    · -- the last pick before the cursor wraps
      have hnil : bes = [] := List.length_eq_zero_iff.mp (by omega)
      subst hnil
      rw [List.length_singleton, turns, turns, ← hturn.backend]
  | other hcfg hkey hcur _ ih =>
    have hrest := ih (hcfg ▸ hinst) (hkey.trans hst) (by rw [hcur]; exact hcursor)
    rw [hcfg, hcur] at hrest
    exact hrest

end

section

variable {api : Netv1} {cfg : TableConfig} {eps : List Endpoint}

/-! ## The pool of a scope -/

/-- The order of a pool: by address, then by port. -/
def addrPortRank (ap : AddrPort) : (Nat ×ₗ Nat ×ₗ String) ×ₗ Nat :=
  toLex (ap.addr.rank, ap.port.toNat)

lemma addrPortRank_injective : Function.Injective addrPortRank := by
  rintro ⟨a, p⟩ ⟨b, q⟩ h
  simp only [addrPortRank, EmbeddingLike.apply_eq_iff_eq, Prod.mk.injEq] at h
  rw [Addr.rank_injective h.1, UInt16.toNat_inj.mp h.2]

/-- Backends are sorted by the rank of their addresses. -/
lemma backendLess_iff (a b : Backend) :
    backendLess a b = true ↔ addrPortRank a.addr < addrPortRank b.addr := by
  simp only [backendLess, addrPortRank, Prod.Lex.toLex_lt_toLex]
  split_ifs with hne
  · have hrank : a.addr.addr.rank ≠ b.addr.addr.rank := mt (fun h => Addr.rank_injective h) hne
    simp [Addr.less_iff, hrank]
  · simp [not_ne_iff.mp hne, UInt16.lt_iff_toNat_lt]

/-- The pools are in this order. -/
def rankLE (a b : AddrPort) : Prop := addrPortRank a ≤ addrPortRank b

instance transRankLE : IsTrans AddrPort rankLE := ⟨fun _ _ _ => le_trans⟩

instance antisymmRankLE : Std.Antisymm rankLE :=
  ⟨fun _ _ hab hba => addrPortRank_injective (le_antisymm hab hba)⟩

lemma not_backendLess_iff (a b : Backend) : backendLess b a = false ↔ rankLE a.addr b.addr := by
  rw [← Bool.not_eq_true, backendLess_iff, not_lt]
  rfl

lemma pairwise_readyBackends :
    ((readyBackends api cfg eps).map (·.addr)).Pairwise rankLE := by
  have htotal : Std.Total fun a b : Backend => backendLess b a = false := by
    refine ⟨fun a b => ?_⟩
    rw [not_backendLess_iff, not_backendLess_iff]
    exact le_total _ _
  have htrans : IsTrans Backend fun a b => backendLess b a = false := by
    refine ⟨fun a b c hab hbc => ?_⟩
    rw [not_backendLess_iff] at hab hbc ⊢
    exact le_trans hab hbc
  rw [List.pairwise_map]
  exact (List.pairwise_insertionSort _ _).imp fun h => (not_backendLess_iff _ _).mp h

lemma pairwise_eligible {st : PortState} (h : (st.all.map (·.addr)).Pairwise rankLE)
    (external : Bool) : ((st.eligible cfg external).map (·.addr)).Pairwise rankLE := by
  unfold PortState.eligible
  split
  · exact h
  · exact h.sublist (List.filter_sublist.map _)

/-- The addresses a scope picks from, as often as the endpoints list them. -/
def scopeAddrs (api : Netv1) (cfg : TableConfig) (policy : TrafficPolicy) (external : Bool)
    (eps : List Endpoint) : List AddrPort :=
  (eps.filterMap (admitEndpoint api)).filter fun ap =>
    external ∨ policy = .trafficCluster ∨ ¬cfg.podCIDR.isValid ∨ (cfg.classify ap.addr).nodeLocal

lemma eligible_perm {st : PortState} (hall : st.all = readyBackends api cfg eps) (external : Bool) :
    ((st.eligible cfg external).map (·.addr)).Perm
      (scopeAddrs api cfg st.policy external eps) := by
  have hready : st.all.Perm ((eps.filterMap (admitEndpoint api)).map fun ap =>
      (⟨ap, cfg.classify ap.addr⟩ : Backend)) := hall ▸ List.perm_insertionSort _ _
  unfold PortState.eligible scopeAddrs
  split_ifs with hwhole
  · have hkeep : ∀ ap ∈ eps.filterMap (admitEndpoint api), (external ∨
        st.policy = .trafficCluster ∨ ¬cfg.podCIDR.isValid ∨ (cfg.classify ap.addr).nodeLocal) := by
      intro ap _
      tauto
    rw [List.filter_eq_self.mpr (by simpa using hkeep)]
    simpa [Function.comp_def] using hready.map (·.addr)
  · push Not at hwhole
    have hsame : ∀ ap : AddrPort, decide (external = true ∨ st.policy = .trafficCluster ∨
        ¬cfg.podCIDR.isValid = true ∨ (cfg.classify ap.addr).nodeLocal = true) =
          (cfg.classify ap.addr).nodeLocal := by
      intro ap
      simp [hwhole]
    simp only [hsame]
    have hfilter := (hready.filter fun b => b.locality.nodeLocal).map (·.addr)
    rw [List.filter_map, List.map_map] at hfilter
    simpa [Function.comp_def] using hfilter

end

/-! ## Picks that go on -/

section

variable {api : Netv1} {t : RoutingTable} {key : PortKey} {external : Bool} {st : PortState}

/-- A client without a binding is given the next turn. -/
lemma exists_roundRobinPick (hinst : st.Installed api t.cfg)
    (hst : t.snap.states.lookup key = some st) (hpool : st.eligible t.cfg external ≠ [])
    (hfresh : t.binds key = ∅) : ∃ be t', RoundRobinPick key external t be t' := by
  let sc : Scope := ⟨st, st.eligible t.cfg external, addrSet (st.eligible t.cfg external)⟩
  have hload : ∀ {u : RoutingTable}, u.cfg = t.cfg → u.snap = t.snap →
      ∃ v, u.scopedPool key external = (v, .ok sc) := by
    intro u hcfg hsnap
    have hsnd := scopedPool_snd external (hcfg ▸ hinst) (hsnap ▸ hst)
    rw [hcfg, if_neg hpool] at hsnd
    exact ⟨_, Prod.ext rfl hsnd⟩
  have hmove : ∀ {u v : RoutingTable} {be : Backend}, u.cursor = t.cursor →
      Turn u st sc.pool be v → v.cursor ≠ t.cursor := by
    intro u v be hcur hturn heq
    have hnext := hturn.cursor
    rw [heq, hcur] at hnext
    omega
  obtain ⟨u, hu⟩ := hload rfl rfl
  have hn := narrows_scopedPool hu
  obtain ⟨haff, hcur⟩ := affinity_of_scopedPool hu
  suffices h : ∃ be t', t.pickStickyScoped key .zero 0 external 0 = (t', .ok be) ∧
      t'.cursor ≠ t.cursor by
    obtain ⟨be, t', hpick, hmoved⟩ := h
    exact ⟨be, t', .sticky .zero 0 0 hpick hmoved⟩
  unfold RoutingTable.pickStickyScoped
  rw [hu]
  dsimp only
  split
  · exact ⟨_, _, rfl, hmove hcur (turn_roundRobin u st sc.pool)⟩
  · rename_i hmode
    -- under the binding lock: the client has no binding, so the pick is a miss
    obtain ⟨v, hv⟩ := hload hn.cfg hn.snap
    obtain ⟨haff', hcur'⟩ := affinity_of_scopedPool hv
    have hbinds : v.binds key = ∅ := by
      rw [← hfresh, RoutingTable.binds, haff', haff]
      rfl
    have hmiss : u.stickyDecide key .zero 0 external 0 = v.stickyMiss key sc 0 := by
      unfold RoutingTable.stickyDecide RoutingTable.stickyReuse
      rw [hv]
      simp only [if_neg hmode, hbinds, AList.lookup_empty]
    obtain ⟨be, hturn, hans⟩ := turn_stickyMiss v key sc 0
    rw [hmiss]
    rcases hcase : v.stickyMiss key sc 0 with ⟨w, step⟩
    rw [hcase] at hturn hans
    have hmoved := hmove (hcur'.trans hcur) hturn
    rcases hans with hans | hans
    · cases hans
      exact ⟨be, w, rfl, hmoved⟩
    · cases hans
      refine ⟨be, _, rfl, ?_⟩
      rw [(turn_stickyRecord w key .zero 0 sc.st be).2.2]
      exact hmoved

lemma exists_picksInARow (n : Nat) (hinst : st.Installed api t.cfg)
    (hst : t.snap.states.lookup key = some st) (hpool : st.eligible t.cfg external ≠ []) :
    ∃ bes, PicksInARow key external st t bes ∧ bes.length = n := by
  induction n generalizing t with
  | zero => exact ⟨[], .nil t, rfl⟩
  | succ n ih =>
    -- the bindings of the port may have been swept in between
    obtain ⟨be, t', hpick⟩ := exists_roundRobinPick (t := { t with affinity := ∅ }) hinst hst
      hpool rfl
    have hturn := hpick.turn hinst hst
    obtain ⟨bes, hpicks, hlen⟩ := ih (hturn.cfg ▸ hinst) (hturn.snap ▸ hst) (hturn.cfg ▸ hpool)
    have hrow : PicksInARow key external st { t with affinity := ∅ } (be :: bes) :=
      .pick hpick hpicks
    refine ⟨be :: bes, .other ?_ ?_ ?_ hrow, congrArg (· + 1) hlen⟩ <;> rfl

/-- Any two addresses of a scope's pool come up equally often, give or take one, in every stretch
of consecutive round-robin picks on an installed state: exactly if the endpoints list no address
of the scope twice, or the scope has only one address. -/
theorem roundRobin_fair {t₀ : RoutingTable} {svc : ObjectKey} {eps : List Endpoint}
    {policy : TrafficPolicy} {aff : AffinityConfig}
    (hinstall : installedState api t₀ key svc eps policy aff = some st)
    (hlen : eps.length ≤ 2 ^ 64) (external : Bool) :
    (∀ (t : RoutingTable) (bes : List Backend), t.cfg = t₀.cfg →
      t.snap.states.lookup key = some st → PicksInARow key external st t bes →
      t.cursor st.id + bes.length ≤ 2 ^ 64 →
      ∀ a ∈ scopeAddrs api t₀.cfg policy external eps,
      ∀ b ∈ scopeAddrs api t₀.cfg policy external eps,
        (bes.map (·.addr)).count a ≤ (bes.map (·.addr)).count b + 1) ↔
      (scopeAddrs api t₀.cfg policy external eps).Nodup ∨
        ∀ a ∈ scopeAddrs api t₀.cfg policy external eps,
        ∀ b ∈ scopeAddrs api t₀.cfg policy external eps, a = b := by
  have hinst := installed_installedState hinstall
  obtain ⟨hall, rfl⟩ : st.all = readyBackends api t₀.cfg eps ∧ st.policy = policy := by
    simp only [installedState] at hinstall
    split_ifs at hinstall
    cases hinstall
    exact ⟨rfl, rfl⟩
  have hperm := eligible_perm hall external
  have hsorted : ((st.eligible t₀.cfg external).map (·.addr)).Pairwise rankLE :=
    pairwise_eligible (hall ▸ pairwise_readyBackends) external
  have hbound : ((st.eligible t₀.cfg external).map (·.addr)).length ≤ 2 ^ 64 := by
    rw [hperm.length_eq]
    exact (List.length_filter_le _ _).trans ((List.length_filterMap_le _ _).trans hlen)
  simp only [← hperm.mem_iff, ← hperm.nodup_iff]
  rw [← fair_turns_iff hsorted (default : Backend).addr hbound]
  constructor
  · intro hfair c n hcn a ha b hb
    -- a table with this state and cursor, and picks on it
    obtain ⟨t, hcfg, hst, hcur⟩ : ∃ t : RoutingTable, t.cfg = t₀.cfg ∧
        t.snap.states.lookup key = some st ∧ t.cursor st.id = c := by
      refine ⟨{ t₀.installEndpoints api key svc eps st.policy aff with cursor := fun _ => c },
        RoutingTable.installEndpoints_cfg .., ?_, rfl⟩
      change (t₀.installEndpoints api key svc eps st.policy aff).snap.states.lookup key = some st
      rw [RoutingTable.installEndpoints_snap, RoutingSnapshot.withState_lookup, if_pos rfl,
        hinstall]
    have hpool : st.eligible t.cfg external ≠ [] := by
      rw [hcfg]
      exact List.map_eq_nil_iff.not.mp (List.ne_nil_of_mem ha)
    obtain ⟨bes, hpicks, hn⟩ := exists_picksInARow n (hcfg ▸ hinst) hst hpool
    have hturns := answers_eq_turns hpicks (hcfg ▸ hinst) hst (by rw [hcur, hn]; exact hcn)
    rw [hcur, hn, hcfg] at hturns
    have hcount := hfair t bes hcfg hst hpicks (by rw [hcur, hn]; exact hcn) a ha b hb
    rwa [hturns, map_turns] at hcount
  · intro hfair t bes hcfg hst hpicks hcursor a ha b hb
    rw [answers_eq_turns hpicks (hcfg ▸ hinst) hst hcursor, map_turns, hcfg]
    exact hfair _ _ hcursor a ha b hb

end

def duplicated : List Endpoint :=
  [⟨"10.42.0.5", 8080, true⟩, ⟨"10.42.0.6", 8080, true⟩, ⟨"10.42.0.5", 8080, true⟩]

def fairKey : PortKey := ⟨"10.43.0.1", 80, .TCP⟩

def freshPort (eps : List Endpoint) : RoutingTable :=
  (newRoutingTable cappedConfig).installEndpoints Netv1.standard fairKey ⟨"default", "web"⟩ eps
    .trafficCluster ⟨.affinityNone, 0⟩

def podBackend (host : BitVec 32) : Backend :=
  ⟨⟨.v4 (0x0a2a0000#32 + host), 8080⟩, .localityUnknown⟩

/-- An address listed twice gets both of two turns. -/
theorem roundRobin_favours_duplicate :
    ∃ st, (freshPort duplicated).snap.states.lookup fairKey = some st ∧
      PicksInARow fairKey false st (freshPort duplicated) [podBackend 5, podBackend 5] ∧
      (podBackend 6).addr ∈ (st.eligible (freshPort duplicated).cfg false).map (·.addr) ∧
      ([podBackend 5, podBackend 5].map (·.addr)).count (podBackend 5).addr = 2 ∧
      ([podBackend 5, podBackend 5].map (·.addr)).count (podBackend 6).addr = 0 := by
  have hpick : (freshPort duplicated).pick fairKey =
      (((freshPort duplicated).pick fairKey).1, .ok (podBackend 5)) := rfl
  have hpick' : ((freshPort duplicated).pick fairKey).1.pick fairKey =
      ((((freshPort duplicated).pick fairKey).1.pick fairKey).1, .ok (podBackend 5)) := rfl
  refine ⟨_, rfl, ?_, by decide +kernel, by decide, by decide⟩
  exact .pick (.pick rfl hpick) (.pick (.pick rfl hpick') (.nil _))

def distinctPods : List Endpoint :=
  [⟨"10.42.0.6", 8080, true⟩, ⟨"10.42.0.5", 8080, true⟩]

theorem roundRobin_fair_threePicks :
    ∃ st, (freshPort distinctPods).snap.states.lookup fairKey = some st ∧
      PicksInARow fairKey false st (freshPort distinctPods)
        [podBackend 5, podBackend 6, podBackend 5] ∧
      ([podBackend 5, podBackend 6, podBackend 5].map (·.addr)).count (podBackend 5).addr ≤
        ([podBackend 5, podBackend 6, podBackend 5].map (·.addr)).count (podBackend 6).addr +
          1 := by
  have hpick : (freshPort distinctPods).pick fairKey =
      (((freshPort distinctPods).pick fairKey).1, .ok (podBackend 5)) := rfl
  have hpick' : ((freshPort distinctPods).pick fairKey).1.pick fairKey =
      ((((freshPort distinctPods).pick fairKey).1.pick fairKey).1, .ok (podBackend 6)) := rfl
  have hpick'' : (((freshPort distinctPods).pick fairKey).1.pick fairKey).1.pick fairKey =
      (((((freshPort distinctPods).pick fairKey).1.pick fairKey).1.pick fairKey).1,
        .ok (podBackend 5)) := rfl
  have hpicks : ∀ st, PicksInARow fairKey false st (freshPort distinctPods)
      [podBackend 5, podBackend 6, podBackend 5] := fun st =>
    .pick (.pick rfl hpick) (.pick (.pick rfl hpick') (.pick (.pick rfl hpick'') (.nil _)))
  obtain ⟨st, hst, hinstall, hcursor⟩ :
      ∃ st, (freshPort distinctPods).snap.states.lookup fairKey = some st ∧
        installedState Netv1.standard (newRoutingTable cappedConfig) fairKey ⟨"default", "web"⟩
          distinctPods .trafficCluster ⟨.affinityNone, 0⟩ = some st ∧
        (freshPort distinctPods).cursor st.id + 3 ≤ 2 ^ 64 :=
    ⟨_, rfl, rfl, by decide +kernel⟩
  have hfair := (roundRobin_fair hinstall (by decide) false).mpr (.inl (by decide +kernel))
  exact ⟨st, hst, hpicks st, hfair (freshPort distinctPods) _ rfl hst (hpicks st) hcursor _
    (by decide +kernel) _ (by decide +kernel)⟩

end DarwinNet.Proxy
