import DarwinNet.Proxy.Affinity
import Mathlib.Data.List.Chain

/-!
The generations of one key. `GenRun` is a table together with the installs its key has seen
since its last `Delete`, newest first: what each asked for, as sets of addresses, and the
generation it left.

The bookkeeping and the state of a key record exactly the newest install (`Records`), an
install with an empty Ready set included, although that one leaves no state. So `sameInstall`
compares with the previous install, and the generation moves exactly when the two differ. It
is a `uint64`: `advances_of_changes` says that it counts the changes while they fit in one.
-/

namespace DarwinNet.Proxy

open Lib Netip Api

/-! ## Histories -/

structure Install where
  service : ObjectKey
  ready : Finset AddrPort
  locals : Finset AddrPort
  policy : TrafficPolicy
  gen : Nat
  deriving DecidableEq

/-- Something that a generation stands for has changed. -/
def Install.Differs (later earlier : Install) : Prop :=
  later.service ≠ earlier.service ∨ later.ready ≠ earlier.ready ∨
    later.locals ≠ earlier.locals ∨ later.policy ≠ earlier.policy

instance decidableDiffers : DecidableRel Install.Differs := fun later earlier => by
  unfold Install.Differs
  infer_instance

/-- How often an install of the history differs from the one before it. -/
def changes : List Install → Nat
  | later :: earlier :: older =>
    (if later.Differs earlier then 1 else 0) + changes (earlier :: older)
  | _ => 0

section

variable (api : Netv1)

def readyAddrs (eps : List Endpoint) : Finset AddrPort :=
  (eps.filterMap (admitEndpoint api)).toFinset

def nodeLocalAddrs (cfg : TableConfig) (eps : List Endpoint) : Finset AddrPort :=
  (readyAddrs api eps).filter fun ap => (cfg.classify ap.addr).nodeLocal

def RoutingTable.generation (t : RoutingTable) (key : PortKey) : Nat :=
  ((t.metas.lookup key).map (·.gen)).getD 0

structure GenRun where
  table : RoutingTable
  installs : List Install

def GenRun.record (s : GenRun) (key : PortKey) (t' : RoutingTable) : TableOp → List Install
  | .installEndpoints k svc eps policy _ =>
    if k = key then
      ⟨svc, readyAddrs api eps, nodeLocalAddrs api t'.cfg eps, policy, t'.generation key⟩ ::
        s.installs
    else s.installs
  | .delete k => if k = key then [] else s.installs
  | _ => s.installs

def generationMachine (key : PortKey) : Machine GenRun TableOp where
  init s := ∃ cfg, s = ⟨newRoutingTable cfg, []⟩
  step s op := some ⟨s.table.apply api op, s.record api key (s.table.apply api op) op⟩

end

/-! ## Address sets -/

section

variable {api : Netv1} {cfg : TableConfig} {eps : List Endpoint}

lemma mem_readyBackends {b : Backend} : b ∈ readyBackends api cfg eps ↔
      b.addr ∈ readyAddrs api eps ∧ b.locality = cfg.classify b.addr.addr := by
  simp only [readyBackends, List.mem_insertionSort, List.mem_map, readyAddrs, List.mem_toFinset]
  constructor
  · rintro ⟨ap, hap, rfl⟩
    exact ⟨hap, rfl⟩
  · rintro ⟨hap, hloc⟩
    exact ⟨b.addr, hap, by rw [← hloc]⟩

lemma mem_addrSet {bs : List Backend} {ap : AddrPort} :
    ap ∈ addrSet bs ↔ ∃ b ∈ bs, b.addr = ap := by
  simp only [addrSet, List.mem_toFinset, List.mem_map]

lemma addrSet_readyBackends : addrSet (readyBackends api cfg eps) = readyAddrs api eps := by
  ext ap
  rw [mem_addrSet]
  constructor
  · rintro ⟨b, hb, rfl⟩
    exact (mem_readyBackends.mp hb).1
  · intro hap
    exact ⟨⟨ap, cfg.classify ap.addr⟩, mem_readyBackends.mpr ⟨hap, rfl⟩, rfl⟩

lemma addrSet_localBackends :
    addrSet (localBackends (readyBackends api cfg eps)) = nodeLocalAddrs api cfg eps := by
  ext ap
  simp only [mem_addrSet, localBackends, List.mem_filter, mem_readyBackends, nodeLocalAddrs,
    Finset.mem_filter]
  constructor
  · rintro ⟨b, ⟨⟨hap, hloc⟩, hlocal⟩, rfl⟩
    exact ⟨hap, hloc ▸ hlocal⟩
  · rintro ⟨hap, hlocal⟩
    exact ⟨⟨ap, cfg.classify ap.addr⟩, ⟨⟨hap, rfl⟩, hlocal⟩, rfl⟩

lemma readyBackends_eq_nil : readyBackends api cfg eps = [] ↔ readyAddrs api eps = ∅ := by
  have hset : addrSet (readyBackends api cfg eps) = readyAddrs api eps := addrSet_readyBackends
  rw [← hset]
  simp [addrSet]

lemma nodeLocalAddrs_of_ready_empty (h : readyAddrs api eps = ∅) :
    nodeLocalAddrs api cfg eps = ∅ := by
  rw [nodeLocalAddrs, h, Finset.filter_empty]

lemma sameAddrSet_iff {set : Finset AddrPort} {bs : List Backend} :
    sameAddrSet set bs = true ↔ addrSet bs = set := by
  simp only [sameAddrSet, Bool.and_eq_true, List.all_eq_true, decide_eq_true_eq]
  constructor
  · rintro ⟨hmem, hcard⟩
    refine Finset.eq_of_subset_of_card_le ?_ hcard.ge
    intro ap hap
    obtain ⟨b, hb, rfl⟩ := mem_addrSet.mp hap
    exact hmem b hb
  · rintro rfl
    exact ⟨fun b hb => mem_addrSet.mpr ⟨b, hb, rfl⟩, rfl⟩

end

/-! ## What the table remembers of the newest install -/

/-- The state of a key carries the sets of an install; an empty one leaves no state. -/
def StateOf (i : Install) : Option PortState → Prop
  | none => i.ready = ∅ ∧ i.locals = ∅
  | some st => st.allSet = i.ready ∧ st.localSet = i.locals ∧ i.ready ≠ ∅

/-- The table holds what the install left. -/
structure RoutingTable.Records (t : RoutingTable) (key : PortKey) (i : Install) : Prop where
  bookkeeping : ∃ m, t.metas.lookup key = some m ∧ m.service = i.service ∧
    m.policy = i.policy ∧ m.gen = i.gen
  state : StateOf i (t.snap.states.lookup key)

/-- One install after another: the generation moves by one, and may wrap, if they differ and
stays otherwise. -/
def Install.Follows (later earlier : Install) : Prop :=
  (later.Differs earlier ∧ later.gen = (earlier.gen + 1) % 2 ^ 64) ∨
    (¬later.Differs earlier ∧ later.gen = earlier.gen)

/-- The table holds the newest install, and each follows the one before. -/
structure GenRun.Tracks (s : GenRun) (key : PortKey) : Prop where
  fresh : s.installs = [] → s.table.metas.lookup key = none ∧ s.table.snap.states.lookup key = none
  newest : ∀ i rest, s.installs = i :: rest → s.table.Records key i
  chain : s.installs.IsChain Install.Follows
  first : ∀ i ∈ s.installs.getLast?, i.gen = 1

section

variable {api : Netv1} {t : RoutingTable} {key : PortKey} {i : Install}

/-- `sameInstall` compares with the install on record. -/
lemma sameInstall_iff (api : Netv1) (eps : List Endpoint) (policy : TrafficPolicy)
    (h : StateOf i (t.snap.states.lookup key)) :
    sameInstall (t.snap.states.lookup key) i.policy (readyBackends api t.cfg eps)
        (localBackends (readyBackends api t.cfg eps)) policy = true ↔
      policy = i.policy ∧ readyAddrs api eps = i.ready ∧
        nodeLocalAddrs api t.cfg eps = i.locals := by
  unfold sameInstall
  by_cases hpol : policy = i.policy
  swap
  · simp [hpol]
  rw [if_neg (not_not.mpr hpol)]
  cases hst : t.snap.states.lookup key with
  | none =>
    rw [hst] at h
    obtain ⟨hready, hlocals⟩ := h
    rw [decide_eq_true_iff, readyBackends_eq_nil, hready, hlocals]
    exact ⟨fun he => ⟨hpol, he, nodeLocalAddrs_of_ready_empty he⟩, fun hs => hs.2.1⟩
  | some st =>
    rw [hst] at h
    obtain ⟨hall, hlocal, -⟩ := h
    simp only [Bool.and_eq_true, sameAddrSet_iff, addrSet_readyBackends, addrSet_localBackends,
      hall, hlocal, hpol, true_and]

lemma advanceMeta_gen (h : t.Records key i) (svc : ObjectKey) (eps : List Endpoint)
    (policy : TrafficPolicy) : Install.Follows
      ⟨svc, readyAddrs api eps, nodeLocalAddrs api t.cfg eps, policy,
        (t.advanceMeta key svc (readyBackends api t.cfg eps)
          (localBackends (readyBackends api t.cfg eps)) policy).gen⟩ i := by
  obtain ⟨m, hm, hsvc, hpol, hgen⟩ := h.bookkeeping
  unfold RoutingTable.advanceMeta Install.Follows Install.Differs
  rw [hm]
  dsimp only
  by_cases howner : m.service = svc
  swap
  · rw [if_pos howner]
    refine .inl ⟨.inl fun he => howner (hsvc.trans he.symm), ?_⟩
    rw [hgen]
  rw [if_neg (not_not.mpr howner), hpol]
  have hsame := sameInstall_iff api eps policy h.state
  split
  · rename_i heq
    obtain ⟨hp, hr, hl⟩ := hsame.mp heq
    refine .inr ⟨?_, hgen⟩
    rintro (hd | hd | hd | hd)
    · exact hd (howner.symm.trans hsvc)
    · exact hd hr
    · exact hd hl
    · exact hd hp
  · rename_i hne
    refine .inl ⟨?_, by rw [hgen]⟩
    by_contra hall
    push Not at hall
    exact hne (hsame.mpr ⟨hall.2.2.2, hall.2.1, hall.2.2.1⟩)

lemma records_installEndpoints (t : RoutingTable) (key : PortKey) (svc : ObjectKey)
    (eps : List Endpoint) (policy : TrafficPolicy) (aff : AffinityConfig) :
    (t.installEndpoints api key svc eps policy aff).Records key
      ⟨svc, readyAddrs api eps, nodeLocalAddrs api t.cfg eps, policy,
        (t.installEndpoints api key svc eps policy aff).generation key⟩ := by
  have hm := t.advanceMeta_fields key svc policy (readyBackends api t.cfg eps)
    (localBackends (readyBackends api t.cfg eps))
  have hlookup := congrArg (AList.lookup key)
    (t.installEndpoints_metas api key svc eps policy aff)
  rw [AList.lookup_insert] at hlookup
  refine ⟨⟨_, hlookup, hm.1, hm.2, ?_⟩, ?_⟩
  · rw [RoutingTable.generation, hlookup]
    rfl
  rw [RoutingTable.installEndpoints_snap, RoutingSnapshot.withState_lookup, if_pos rfl]
  simp only [installedState]
  split
  · rename_i hnil
    have hempty := readyBackends_eq_nil.mp hnil
    exact ⟨hempty, nodeLocalAddrs_of_ready_empty hempty⟩
  · rename_i hne
    exact ⟨addrSet_readyBackends, addrSet_localBackends, mt readyBackends_eq_nil.mpr hne⟩

end

/-! ## Operations that leave a key alone -/

/-- Nothing of the port has changed. -/
structure Leaves (key : PortKey) (t t' : RoutingTable) : Prop where
  bookkeeping : t'.metas.lookup key = t.metas.lookup key
  state : t'.snap.states.lookup key = t.snap.states.lookup key

section

variable {api : Netv1} {t : RoutingTable} {key : PortKey}

lemma leaves_installEndpoints {k : PortKey} (hk : k ≠ key) (svc : ObjectKey)
    (eps : List Endpoint) (policy : TrafficPolicy) (aff : AffinityConfig) :
    Leaves key t (t.installEndpoints api k svc eps policy aff) where
  bookkeeping := by
    rw [RoutingTable.installEndpoints_metas, GoMap.lookup_insert_ite, if_neg hk.symm]
  state := by
    rw [RoutingTable.installEndpoints_snap, RoutingSnapshot.withState_lookup, if_neg hk.symm]

lemma leaves_delete {k : PortKey} (hk : k ≠ key) : Leaves key t (t.delete k) where
  bookkeeping := by
    rw [RoutingTable.delete_metas, GoMap.lookup_erase_ite, if_neg hk.symm]
  state := by
    rw [RoutingTable.delete_snap, RoutingSnapshot.withState_lookup, if_neg hk.symm]

lemma Unwritten.leaves {t' : RoutingTable} (h : Unwritten t t') (key : PortKey) : Leaves key t t' :=
  ⟨by rw [h.metas], by rw [h.snap]⟩

end

section

variable {api : Netv1} {key : PortKey} {s : GenRun}

lemma GenRun.Tracks.leaves (h : s.Tracks key) {t' : RoutingTable}
    (hl : Leaves key s.table t') : GenRun.Tracks ⟨t', s.installs⟩ key where
  fresh hnil := by
    obtain ⟨hm, hst⟩ := h.fresh hnil
    exact ⟨hl.bookkeeping.trans hm, hl.state.trans hst⟩
  newest i rest hi := by
    obtain ⟨hbook, hstate⟩ := h.newest i rest hi
    exact ⟨hl.bookkeeping ▸ hbook, hl.state ▸ hstate⟩
  chain := h.chain
  first := h.first

lemma generation_installEndpoints (t : RoutingTable) (svc : ObjectKey) (eps : List Endpoint)
    (policy : TrafficPolicy) (aff : AffinityConfig) :
    (t.installEndpoints api key svc eps policy aff).generation key =
      (t.advanceMeta key svc (readyBackends api t.cfg eps)
        (localBackends (readyBackends api t.cfg eps)) policy).gen := by
  rw [RoutingTable.generation, RoutingTable.installEndpoints_metas, AList.lookup_insert]
  rfl

lemma GenRun.Tracks.install (h : s.Tracks key) (svc : ObjectKey) (eps : List Endpoint)
    (policy : TrafficPolicy) (aff : AffinityConfig) : GenRun.Tracks
      ⟨s.table.installEndpoints api key svc eps policy aff,
        ⟨svc, readyAddrs api eps, nodeLocalAddrs api s.table.cfg eps, policy,
          (s.table.installEndpoints api key svc eps policy aff).generation key⟩ :: s.installs⟩
      key where
  fresh hnil := by cases hnil
  newest i rest hi := by
    cases hi
    exact records_installEndpoints s.table key svc eps policy aff
  chain := by
    rw [generation_installEndpoints]
    cases hinst : s.installs with
    | nil => exact .singleton _
    | cons i rest =>
      have hchain := h.chain
      rw [hinst] at hchain
      exact .cons_cons (advanceMeta_gen (h.newest i rest hinst) svc eps policy) hchain
  first := by
    rw [generation_installEndpoints]
    have hfirst := h.first
    cases hinst : s.installs with
    | nil => simp [RoutingTable.advanceMeta, (h.fresh hinst).1]
    | cons i rest =>
      rw [hinst] at hfirst
      rwa [List.getLast?_cons_cons]

lemma tracks_apply (h : s.Tracks key) (op : TableOp) :
    GenRun.Tracks ⟨s.table.apply api op, s.record api key (s.table.apply api op) op⟩ key := by
  cases op with
  | installEndpoints k svc eps policy aff =>
    simp only [GenRun.record, RoutingTable.apply, RoutingTable.installEndpoints_cfg]
    split
    · rename_i hk
      subst hk
      exact h.install svc eps policy aff
    · rename_i hk
      exact h.leaves (leaves_installEndpoints hk svc eps policy aff)
  | delete k =>
    simp only [GenRun.record, RoutingTable.apply]
    split
    · rename_i hk
      subst hk
      obtain ⟨hm, hst⟩ := holds_delete api s.table k
      refine ⟨fun _ => ⟨hm, hst⟩, fun i rest hi => ?_, .nil, fun i hi => ?_⟩ <;> cases hi
    · rename_i hk
      exact h.leaves (leaves_delete hk)
  | setTransportOverrides ov => exact h.leaves ⟨rfl, rfl⟩
  | pickSticky k client now victim =>
    exact h.leaves ((unwritten_pickStickyScoped s.table k client now false victim).leaves key)
  | pickStickyCluster k client now victim =>
    exact h.leaves ((unwritten_pickStickyScoped s.table k client now true victim).leaves key)
  | sweepExpired now =>
    exact h.leaves ((unwritten_sweepExpired s.table s.table.snap now).leaves key)

/-- The newest install is in the table after every run. -/
lemma tracks_of_reach (h : (generationMachine api key).Reach Machine.always s) : s.Tracks key := by
  refine Machine.Reach.invariant (I := fun s => s.Tracks key) ?_ ?_ h
  · rintro _ ⟨cfg, rfl⟩
    refine ⟨fun _ => ⟨rfl, rfl⟩, fun i rest hi => ?_, .nil, fun i hi => ?_⟩ <;> cases hi
  · intro s op t hs _ hstep
    cases hstep
    exact tracks_apply hs op

/-! ## Histories that do not wrap -/

/-- `Follows` where the counter has not wrapped. -/
def Install.Advances (later earlier : Install) : Prop :=
  (later.Differs earlier ∧ later.gen = earlier.gen + 1) ∨
    (¬later.Differs earlier ∧ later.gen = earlier.gen)

/-- The generation counts the changes of the history, from one, until the counter wraps. -/
lemma advances_of_changes {installs : List Install} (hchain : installs.IsChain Install.Follows)
    (hfirst : ∀ i ∈ installs.getLast?, i.gen = 1) (hchanges : changes installs + 1 < 2 ^ 64) :
    installs.IsChain Install.Advances ∧
      ∀ i ∈ installs.head?, i.gen = changes installs + 1 := by
  induction installs with
  | nil => exact ⟨.nil, fun i hi => by cases hi⟩
  | cons later installs ih =>
    cases installs with
    | nil => exact ⟨.singleton _, hfirst⟩
    | cons earlier older =>
      rw [List.isChain_cons_cons] at hchain
      rw [List.getLast?_cons_cons] at hfirst
      have hle : changes (earlier :: older) ≤ changes (later :: earlier :: older) :=
        Nat.le_add_left _ _
      obtain ⟨hrest, hhead⟩ := ih hchain.2 hfirst (by omega)
      have hgen := hhead earlier rfl
      -- the newest install either changes the state, below the bound, or keeps it
      rcases hchain.1 with ⟨hdiff, hlater⟩ | ⟨hsame, hlater⟩
      · have hone : changes (later :: earlier :: older) = 1 + changes (earlier :: older) := by
          rw [changes, if_pos hdiff]
        rw [hone] at hchanges ⊢
        rw [hgen, Nat.mod_eq_of_lt (by omega)] at hlater
        refine ⟨.cons_cons (.inl ⟨hdiff, by omega⟩) hrest, ?_⟩
        rintro i ⟨⟩
        omega
      · have hzero : changes (later :: earlier :: older) = changes (earlier :: older) := by
          rw [changes, if_neg hsame, Nat.zero_add]
        rw [hzero]
        refine ⟨.cons_cons (.inr ⟨hsame, hlater⟩) hrest, ?_⟩
        rintro i ⟨⟩
        omega

def Install.Succeeds (later earlier : Install) : Prop :=
  earlier.gen ≤ later.gen ∧ (earlier.gen = later.gen → ¬later.Differs earlier)

lemma Install.Advances.succeeds {later earlier : Install} (h : later.Advances earlier) :
    later.Succeeds earlier := by
  rcases h with ⟨-, hgen⟩ | ⟨hsame, hgen⟩
  · exact ⟨by omega, fun he => by omega⟩
  · exact ⟨hgen.ge, fun _ => hsame⟩

lemma Install.Succeeds.trans {i j k : Install} (h : i.Succeeds j) (h' : j.Succeeds k) :
    i.Succeeds k := by
  refine ⟨h'.1.trans h.1, fun he => ?_⟩
  have hij := h.2 (le_antisymm h.1 (he ▸ h'.1))
  have hjk := h'.2 (le_antisymm h'.1 (he ▸ h.1))
  simp only [Install.Differs, not_or, not_ne_iff] at hij hjk ⊢
  obtain ⟨hs, hr, hl, hp⟩ := hij
  exact ⟨hs.trans hjk.1, hr.trans hjk.2.1, hl.trans hjk.2.2.1, hp.trans hjk.2.2.2⟩

instance transSucceeds : IsTrans Install Install.Succeeds := ⟨fun _ _ _ => .trans⟩

lemma agree_of_pairwise {installs : List Install} (h : installs.Pairwise Install.Succeeds)
    {i j : Install} (hi : i ∈ installs) (hj : j ∈ installs) (hgen : i.gen = j.gen) :
    i.ready = j.ready ∧ i.locals = j.locals ∧ i.policy = j.policy := by
  have hagree : ∀ {later earlier : Install}, later.Succeeds earlier → earlier.gen = later.gen →
      later.ready = earlier.ready ∧ later.locals = earlier.locals ∧
        later.policy = earlier.policy := by
    intro later earlier hs he
    have hsame := hs.2 he
    simp only [Install.Differs, not_or, not_ne_iff] at hsame
    exact hsame.2
  refine List.Pairwise.forall_of_forall_of_flip (R := fun i j : Install => i.gen = j.gen →
    i.ready = j.ready ∧ i.locals = j.locals ∧ i.policy = j.policy) ?_ ?_ ?_ hi hj hgen
  · intro k _ _
    exact ⟨rfl, rfl, rfl⟩
  · exact h.imp fun hs he => hagree hs (Eq.symm he)
  · refine h.imp fun hs he => ?_
    obtain ⟨hr, hl, hp⟩ := hagree hs he
    exact ⟨hr.symm, hl.symm, hp.symm⟩

/-- The generations a key hands out between two `Delete`s, while fewer than `2 ^ 64 - 1` of its
installs change anything: they never fall, they rise exactly where an install differs from the
one before it, and one Service never has two states under one generation. -/
theorem generation_law (h : (generationMachine api key).Reach Machine.always s)
    (hchanges : changes s.installs + 1 < 2 ^ 64) :
    (s.installs.Pairwise fun later earlier => earlier.gen ≤ later.gen) ∧
      (∀ newer later earlier older, s.installs = newer ++ later :: earlier :: older →
        (earlier.gen < later.gen ↔ later.service ≠ earlier.service ∨ later.ready ≠ earlier.ready ∨
            later.locals ≠ earlier.locals ∨ later.policy ≠ earlier.policy)) ∧
      (∀ i ∈ s.installs, ∀ j ∈ s.installs, i.service = j.service → i.gen = j.gen →
        i.ready = j.ready ∧ i.locals = j.locals ∧ i.policy = j.policy) ∧
      s.table.generation key = (s.installs.head?.map (·.gen)).getD 0 := by
  have htracks := tracks_of_reach h
  have hchain := (advances_of_changes htracks.chain htracks.first hchanges).1
  have hpairwise : s.installs.Pairwise Install.Succeeds :=
    List.isChain_iff_pairwise.mp (hchain.imp fun _ _ => Install.Advances.succeeds)
  refine ⟨hpairwise.imp fun hs => hs.1, ?_, ?_, ?_⟩
  · intro newer later earlier older hinst
    have hpair : [later, earlier] <:+: s.installs := ⟨newer, older, by rw [hinst]; simp⟩
    have hadvances : later.Advances earlier := by simpa using hchain.infix hpair
    rcases hadvances with ⟨hdiff, hgen⟩ | ⟨hsame, hgen⟩
    · exact ⟨fun _ => hdiff, fun _ => by omega⟩
    · exact ⟨fun hlt => by omega, fun hdiff => absurd hdiff hsame⟩
  · intro i hi j hj _ hgen
    exact agree_of_pairwise hpairwise hi hj hgen
  · cases hinst : s.installs with
    | nil =>
      rw [RoutingTable.generation, (htracks.fresh hinst).1]
      rfl
    | cons i rest =>
      obtain ⟨m, hm, -, -, hgen⟩ := (htracks.newest i rest hinst).bookkeeping
      rw [RoutingTable.generation, hm]
      exact hgen

end

/-- A list repeated in another order and with a duplicate, two empty sets in a row, then a
new policy and a new owner. -/
def generationRun : List TableOp :=
  let key : PortKey := ⟨"10.43.0.1", 80, .TCP⟩
  let web : ObjectKey := ⟨"default", "web"⟩
  let five : Endpoint := ⟨"10.42.0.5", 8080, true⟩
  let six : Endpoint := ⟨"10.42.0.6", 8080, true⟩
  let aff : AffinityConfig := ⟨.affinityNone, 0⟩
  [.installEndpoints key web [five, six] .trafficCluster aff,
    .installEndpoints key web [six, five, six] .trafficCluster aff,
    .installEndpoints key web [] .trafficCluster aff,
    .installEndpoints key web [] .trafficCluster aff,
    .installEndpoints key web [five] .trafficLocal aff,
    .installEndpoints key ⟨"default", "api"⟩ [five] .trafficLocal aff]

theorem generation_law_generationRun :
    ∃ s, (generationMachine Netv1.standard ⟨"10.43.0.1", 80, .TCP⟩).run
        ⟨newRoutingTable cappedConfig, []⟩ generationRun = some s ∧
      s.installs.map (·.gen) = [4, 3, 2, 2, 1, 1] ∧
      s.table.generation ⟨"10.43.0.1", 80, .TCP⟩ = (s.installs.head?.map (·.gen)).getD 0 := by
  exact Machine.exists_run_of
    (P := fun s => s.installs.map (·.gen) = [4, 3, 2, 2, 1, 1] ∧ changes s.installs = 3)
    ⟨cappedConfig, rfl⟩ (Machine.meets_always _ _) (by decide +kernel) fun s hreach hrun =>
      ⟨hrun.1, (generation_law hreach (by rw [hrun.2]; decide)).2.2.2⟩

end DarwinNet.Proxy
