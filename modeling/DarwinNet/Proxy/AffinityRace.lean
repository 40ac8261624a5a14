import DarwinNet.Proxy.Affinity

/-!
Sticky picks and sweeps racing with writers. Any number of threads pick and
sweep; a thread's step is one snapshot load or one stretch of work under the
binding lock `affMu`. Writers hold the table's own lock from their snapshot store
to the end of their purge, so at most one of them is between the two.

A key with bindings is `Covered`: its current state has ClientIP affinity, or
the writer that changed this is still to purge the key (`raceInv_of_reach`).
Without a pending purge only the first case is left (`no_binding_resurrected`).
-/

namespace DarwinNet.Proxy

open Lib Netip Api

structure StickyPick where
  key : PortKey
  client : Addr
  now : Int
  external : Bool

inductive ThreadPC
  | idle
  | waiting (p : StickyPick)
  | locked (p : StickyPick)
  | deciding (p : StickyPick) (sc : Scope)
  | recording (p : StickyPick) (st : PortState) (be : Backend)
  | committing (p : StickyPick) (be : Backend)
  | sweepLocked (now : Int)
  | sweeping (now : Int) (snap : RoutingSnapshot)

def ThreadPC.holdsLock : ThreadPC → Bool
  | .idle => false
  | .waiting _ => false
  | _ => true

inductive Purge
  | install (key : PortKey)
  | delete (key : PortKey)

def Purge.key : Purge → PortKey
  | .install key => key
  | .delete key => key

structure AffinityRace where
  table : RoutingTable
  pc : Nat → ThreadPC
  affMu : Option Nat
  writer : Option Purge

inductive RaceLabel
  | begin (tid : Nat) (p : StickyPick)
  | acquire (tid : Nat)
  | reload (tid : Nat)
  | decide (tid : Nat) (victim : Nat)
  | validate (tid : Nat)
  | commit (tid : Nat)
  | sweepAcquire (tid : Nat) (now : Int)
  | sweepLoad (tid : Nat)
  | sweepFinish (tid : Nat)
  | installStore (key : PortKey) (svc : ObjectKey) (eps : List Endpoint) (policy : TrafficPolicy)
      (aff : AffinityConfig)
  | deleteStore (key : PortKey)
  | setTransportOverrides (overrides : GoMap Addr VMPodTransport)
  | purge

namespace AffinityRace

def move (s : AffinityRace) (tid : Nat) (pc : ThreadPC) (table : RoutingTable)
    (affMu : Option Nat) : AffinityRace :=
  { s with table, affMu, pc := Function.update s.pc tid pc }

def begin (s : AffinityRace) (tid : Nat) (p : StickyPick) : AffinityRace :=
  match s.table.scopedPool p.key p.external with
  | (t, .error _) => s.move tid .idle t s.affMu
  | (t, .ok sc) =>
    if sc.st.affinityMode ≠ .affinityClientIP then
      s.move tid .idle (t.roundRobin sc.st sc.pool).1 s.affMu
    else s.move tid (.waiting p) t s.affMu

def reload (s : AffinityRace) (tid : Nat) (p : StickyPick) : AffinityRace :=
  match s.table.scopedPool p.key p.external with
  | (t, .error _) => s.move tid .idle t none
  | (t, .ok sc) =>
    if sc.st.affinityMode ≠ .affinityClientIP then
      s.move tid .idle (t.roundRobin sc.st sc.pool).1 none
    else s.move tid (.deciding p sc) t s.affMu

def decide (s : AffinityRace) (tid : Nat) (p : StickyPick) (sc : Scope) (victim : Nat) :
    AffinityRace :=
  match s.table.stickyReuse p.key p.client p.now sc victim with
  | (t, .done _) => s.move tid .idle t none
  | (t, .record st be) => s.move tid (.recording p st be) t s.affMu

def validate (s : AffinityRace) (tid : Nat) (p : StickyPick) (st : PortState) (be : Backend) :
    AffinityRace :=
  if s.table.snap.states.lookup p.key = some st then
    s.move tid (.committing p be) s.table s.affMu
  else s.move tid .idle s.table none

/-- A writer's store, with the purge it owes afterwards. -/
def storeInstall (api : Netv1) (s : AffinityRace) (key : PortKey) (svc : ObjectKey)
    (eps : List Endpoint) (policy : TrafficPolicy) (aff : AffinityConfig) : AffinityRace :=
  { s with
    table := s.table.installStore api key svc eps policy aff
    writer := if installPurges api s.table.cfg eps aff then some (.install key) else none }

def purge (s : AffinityRace) : Purge → AffinityRace
  | .install key => { s with table := s.table.purgeAffinity key, writer := none }
  | .delete key => { s with table := s.table.deletePurge key, writer := none }

def step (api : Netv1) (s : AffinityRace) : RaceLabel → Option AffinityRace
  | .begin tid p =>
    match s.pc tid with
    | .idle => some (s.begin tid p)
    | _ => none
  | .acquire tid =>
    match s.pc tid, s.affMu with
    | .waiting p, none => some (s.move tid (.locked p) s.table (some tid))
    | _, _ => none
  | .reload tid =>
    match s.pc tid with
    | .locked p => some (s.reload tid p)
    | _ => none
  | .decide tid victim =>
    match s.pc tid with
    | .deciding p sc => some (s.decide tid p sc victim)
    | _ => none
  | .validate tid =>
    match s.pc tid with
    | .recording p st be => some (s.validate tid p st be)
    | _ => none
  | .commit tid =>
    match s.pc tid with
    | .committing p be =>
      some (s.move tid .idle (s.table.recordBinding p.key p.client p.now be) none)
    | _ => none
  | .sweepAcquire tid now =>
    match s.pc tid, s.affMu with
    | .idle, none => some (s.move tid (.sweepLocked now) s.table (some tid))
    | _, _ => none
  | .sweepLoad tid =>
    match s.pc tid with
    | .sweepLocked now => some (s.move tid (.sweeping now s.table.snap) s.table s.affMu)
    | _ => none
  | .sweepFinish tid =>
    match s.pc tid with
    | .sweeping now snap => some (s.move tid .idle (s.table.sweepExpired snap now) none)
    | _ => none
  | .installStore key svc eps policy aff =>
    match s.writer with
    | none => some (s.storeInstall api key svc eps policy aff)
    | some _ => none
  | .deleteStore key =>
    match s.writer with
    | none => some { s with table := s.table.deleteStore key, writer := some (.delete key) }
    | some _ => none
  | .setTransportOverrides ov =>
    match s.writer with
    | none => some { s with table := s.table.setTransportOverrides ov }
    | some _ => none
  | .purge =>
    match s.writer, s.affMu with
    | some p, none => some (s.purge p)
    | _, _ => none

end AffinityRace

def raceMachine (api : Netv1) : Machine AffinityRace RaceLabel where
  init s := ∃ cfg, s = ⟨newRoutingTable cfg, fun _ => .idle, none, none⟩
  step s l := s.step api l

/-! ## Steps that bind nothing -/

/-- `t'` has the snapshot of `t`, and bindings only where `t` has some. -/
structure Shrinks (t t' : RoutingTable) : Prop where
  snap : t'.snap = t.snap
  binds : ∀ key, t'.binds key ≠ ∅ → t.binds key ≠ ∅

lemma Shrinks.refl (t : RoutingTable) : Shrinks t t := ⟨rfl, fun _ => id⟩

/-- `t'` has the configuration and the snapshot of `t`, and every client bound in `t'` is
bound to the same backend in `t`. -/
structure Narrows (t t' : RoutingTable) : Prop where
  cfg : t'.cfg = t.cfg
  snap : t'.snap = t.snap
  binds : ∀ key client b, (t'.binds key).lookup client = some b →
    ∃ b', (t.binds key).lookup client = some b' ∧ b'.backend = b.backend

lemma Narrows.refl (t : RoutingTable) : Narrows t t := ⟨rfl, rfl, fun _ _ b hb => ⟨b, hb, rfl⟩⟩

variable {t t' : RoutingTable}

lemma Narrows.trans {t'' : RoutingTable} (h : Narrows t t') (h' : Narrows t' t'') :
    Narrows t t'' where
  cfg := h'.cfg.trans h.cfg
  snap := h'.snap.trans h.snap
  binds key client b hb := by
    obtain ⟨b', hb', heq'⟩ := h'.binds key client b hb
    obtain ⟨b'', hb'', heq''⟩ := h.binds key client b' hb'
    exact ⟨b'', hb'', heq''.trans heq'⟩

lemma Narrows.of_affinity_eq (hcfg : t'.cfg = t.cfg) (hsnap : t'.snap = t.snap)
    (haff : t'.affinity = t.affinity) : Narrows t t' where
  cfg := hcfg
  snap := hsnap
  binds key client b hb := by
    rw [RoutingTable.binds, haff] at hb
    exact ⟨b, hb, rfl⟩

lemma Narrows.shrinks (h : Narrows t t') : Shrinks t t' where
  snap := h.snap
  binds key hne hempty := by
    refine hne (AList.ext (List.eq_nil_iff_forall_not_mem.mpr ?_))
    rintro ⟨client, b⟩ hmem
    obtain ⟨b', hb', -⟩ := h.binds key client b (AList.mem_lookup_iff.mpr hmem)
    rw [hempty] at hb'
    exact nomatch hb'

section

variable {t : RoutingTable} (key : PortKey)

lemma narrows_scopedPool {t' : RoutingTable} {key : PortKey} {external : Bool}
    {r : Except PickError Scope} (hs : t.scopedPool key external = (t', r)) : Narrows t t' := by
  obtain ⟨w, hw⟩ := t.scopedPool_fst key external
  rw [hs] at hw
  cases hw
  exact .of_affinity_eq rfl rfl rfl

lemma narrows_roundRobin (st : PortState) (pool : List Backend) :
    Narrows t (t.roundRobin st pool).1 := .of_affinity_eq rfl rfl rfl

lemma Narrows.of_affinity_insert {t' : RoutingTable} {key : PortKey}
    {m : GoMap Addr AffinityBinding} (hcfg : t'.cfg = t.cfg) (hsnap : t'.snap = t.snap)
    (haff : t'.affinity = t.affinity.insert key m) (hm : ∀ client b, m.lookup client = some b →
      ∃ b', (t.binds key).lookup client = some b' ∧ b'.backend = b.backend) : Narrows t t' where
  cfg := hcfg
  snap := hsnap
  binds k client b hb := by
    rw [RoutingTable.binds_of_affinity_insert haff] at hb
    split at hb
    · rename_i hk
      exact hk ▸ hm client b hb
    · exact ⟨b, hb, rfl⟩

lemma narrows_dropBinding (client : Addr) : Narrows t (t.dropBinding key client) := by
  refine .of_affinity_insert rfl rfl rfl ?_
  intro other b hb
  rw [GoMap.lookup_erase_ite] at hb
  split at hb
  · exact nomatch hb
  · exact ⟨b, hb, rfl⟩

lemma narrows_dropAffinity : Narrows t (t.dropAffinity key) where
  cfg := rfl
  snap := rfl
  binds k client b hb := by
    rw [RoutingTable.binds_dropAffinity] at hb
    split at hb
    · exact nomatch hb
    · exact ⟨b, hb, rfl⟩

lemma narrows_touchBinding {client : Addr} {b : AffinityBinding}
    (hb : (t.binds key).lookup client = some b) (now : Int) :
    Narrows t (t.touchBinding key client b now) := by
  refine .of_affinity_insert rfl rfl rfl ?_
  intro other b' hb'
  rw [GoMap.lookup_insert_ite] at hb'
  split at hb'
  · rename_i hother
    cases hb'
    exact ⟨b, hother ▸ hb, rfl⟩
  · exact ⟨b', hb', rfl⟩

lemma narrows_evict (victim : Nat) : Narrows t (t.evict key victim) := by
  unfold RoutingTable.evict
  split
  · split
    · exact narrows_dropBinding key _
    · exact .refl t
  · exact .refl t

lemma narrows_stickyMiss (sc : Scope) (victim : Nat) : Narrows t (t.stickyMiss key sc victim).1 ∧
      ∀ st be, (t.stickyMiss key sc victim).2 = .record st be → st = sc.st := by
  have hev := (narrows_roundRobin (t := t) sc.st sc.pool).trans (narrows_evict key victim)
  unfold RoutingTable.stickyMiss
  dsimp only
  split
  · exact ⟨hev.trans (.of_affinity_eq rfl rfl rfl), fun _ _ hr => nomatch hr⟩
  · refine ⟨hev.trans (.of_affinity_eq rfl rfl rfl), fun st be hr => ?_⟩
    cases hr
    rfl

lemma narrows_stickyReuse (client : Addr) (now : Int) (sc : Scope) (victim : Nat) :
    Narrows t (t.stickyReuse key client now sc victim).1 ∧
      ∀ st be, (t.stickyReuse key client now sc victim).2 = .record st be → st = sc.st := by
  unfold RoutingTable.stickyReuse
  split
  · exact narrows_stickyMiss key sc victim
  rename_i b hb
  split_ifs
  · exact ⟨narrows_touchBinding key hb now, fun _ _ hr => nomatch hr⟩
  · obtain ⟨hmiss, hst⟩ := narrows_stickyMiss (t := t.dropBinding key client) key sc victim
    exact ⟨(narrows_dropBinding key client).trans hmiss, hst⟩

lemma narrows_sweepBinds (timeout now : Int) (es : List (Σ _ : Addr, AffinityBinding)) :
    Narrows t (t.sweepBinds key timeout now es) := by
  induction es generalizing t with
  | nil => exact .refl t
  | cons e es ih =>
    simp only [RoutingTable.sweepBinds, List.foldl_cons]
    split
    · exact (narrows_dropBinding key e.1).trans ih
    · exact ih

lemma narrows_sweepExpired (snap : RoutingSnapshot) (now : Int) :
    Narrows t (t.sweepExpired snap now) := by
  unfold RoutingTable.sweepExpired
  generalize t.affinity.keys = keys
  induction keys generalizing t with
  | nil => exact .refl t
  | cons key keys ih =>
    refine Narrows.trans ?_ ih
    unfold RoutingTable.sweepKey
    split
    · exact narrows_dropAffinity key
    rename_i st _
    have hsw := narrows_sweepBinds (t := t) key st.affinityTimeout now (t.binds key).entries
    dsimp only
    split
    · exact hsw.trans (narrows_dropAffinity key)
    · exact hsw

end

/-- The port has ClientIP affinity. -/
def RoutingTable.Sticky (t : RoutingTable) (key : PortKey) : Prop :=
  ∃ st, t.snap.states.lookup key = some st ∧ st.affinityMode = .affinityClientIP

namespace AffinityRace

/-- Bindings of `key` are in order: its state is sticky, or a purge is owed. -/
def Covered (s : AffinityRace) (key : PortKey) : Prop :=
  s.table.Sticky key ∨ ∃ p, s.writer = some p ∧ p.key = key

/-- A pick that may bind has read a state with ClientIP affinity. -/
def Sound (s : AffinityRace) : ThreadPC → Prop
  | .deciding _ sc => sc.st.affinityMode = .affinityClientIP
  | .recording _ st _ => st.affinityMode = .affinityClientIP
  | .committing p _ => s.Covered p.key
  | _ => True

end AffinityRace

/-- A binding has a sticky port, or someone who will purge it. -/
structure RaceInv (s : AffinityRace) : Prop where
  covered : ∀ key, s.table.binds key ≠ ∅ → s.Covered key
  holder : ∀ tid, (s.pc tid).holdsLock = true → s.affMu = some tid
  sound : ∀ tid, s.Sound (s.pc tid)

section

variable {s : AffinityRace} {tid : Nat} {pc : ThreadPC} {t : RoutingTable} {mu : Option Nat}
  {p : StickyPick}

lemma AffinityRace.covered_move (hsnap : t.snap = s.table.snap) (key : PortKey) :
    (s.move tid pc t mu).Covered key ↔ s.Covered key := by
  simp only [Covered, move, RoutingTable.Sticky, hsnap]

lemma AffinityRace.sound_move (hsnap : t.snap = s.table.snap) (q : ThreadPC) :
    (s.move tid pc t mu).Sound q ↔ s.Sound q := by
  cases q with
  | committing p be => exact covered_move hsnap p.key
  | _ => exact Iff.rfl

lemma RaceInv.holder_move (h : RaceInv s) (hmu : mu = s.affMu ∨ s.affMu = none ∨ s.affMu = some tid)
    (hpc : pc.holdsLock = true → mu = some tid) (u : Nat)
    (hu : ((s.move tid pc t mu).pc u).holdsLock = true) : mu = some u := by
  by_cases htid : u = tid
  · subst htid
    simp only [AffinityRace.move, Function.update_self] at hu
    exact hpc hu
  · simp only [AffinityRace.move, Function.update_of_ne htid] at hu
    have hold := h.holder u hu
    rcases hmu with rfl | hnone | hself
    · exact hold
    · rw [hnone] at hold
      exact nomatch hold
    · rw [hself] at hold
      exact absurd (Option.some.inj hold).symm htid

lemma RaceInv.sound_update (h : RaceInv s) (hsnap : t.snap = s.table.snap) (hpc : s.Sound pc)
    (u : Nat) : (s.move tid pc t mu).Sound ((s.move tid pc t mu).pc u) := by
  rw [AffinityRace.sound_move hsnap]
  by_cases htid : u = tid
  · subst htid
    simpa only [AffinityRace.move, Function.update_self] using hpc
  · simpa only [AffinityRace.move, Function.update_of_ne htid] using h.sound u

lemma RaceInv.move (h : RaceInv s) (ht : Shrinks s.table t)
    (hmu : mu = s.affMu ∨ s.affMu = none ∨ s.affMu = some tid)
    (hpc : pc.holdsLock = true → mu = some tid) (hsound : s.Sound pc) :
    RaceInv (s.move tid pc t mu) where
  covered key hne := (AffinityRace.covered_move ht.snap key).mpr (h.covered key (ht.binds key hne))
  holder := h.holder_move hmu hpc
  sound := h.sound_update ht.snap hsound

lemma RaceInv.leave (h : RaceInv s) (hlock : (s.pc tid).holdsLock = true)
    (ht : Shrinks s.table t) : RaceInv (s.move tid .idle t none) :=
  h.move ht (.inr (.inr (h.holder tid hlock))) (fun hidle => nomatch hidle) trivial

lemma raceInv_begin (h : RaceInv s) (p : StickyPick) : RaceInv (s.begin tid p) := by
  unfold AffinityRace.begin
  split
  · rename_i hs
    exact h.move (narrows_scopedPool hs).shrinks (.inl rfl) (fun hidle => nomatch hidle) trivial
  rename_i hs
  have hsh := narrows_scopedPool hs
  split
  · exact h.move (hsh.trans (narrows_roundRobin _ _)).shrinks (.inl rfl)
      (fun hidle => nomatch hidle) trivial
  · exact h.move hsh.shrinks (.inl rfl) (fun hwait => nomatch hwait) trivial

lemma raceInv_reload (h : RaceInv s) (hpc : s.pc tid = .locked p) : RaceInv (s.reload tid p) := by
  have hlock : (s.pc tid).holdsLock = true := by rw [hpc]; rfl
  unfold AffinityRace.reload
  split
  · rename_i hs
    exact h.leave hlock (narrows_scopedPool hs).shrinks
  rename_i hs
  have hsh := narrows_scopedPool hs
  split
  · exact h.leave hlock (hsh.trans (narrows_roundRobin _ _)).shrinks
  · rename_i hmode
    exact h.move hsh.shrinks (.inl rfl) (fun _ => h.holder tid hlock) (not_ne_iff.mp hmode)

lemma raceInv_decide (h : RaceInv s) {sc : Scope} (hpc : s.pc tid = .deciding p sc)
    (victim : Nat) : RaceInv (s.decide tid p sc victim) := by
  have hlock : (s.pc tid).holdsLock = true := by rw [hpc]; rfl
  have hmode : s.Sound (.deciding p sc) := hpc ▸ h.sound tid
  obtain ⟨hsh, hst⟩ := narrows_stickyReuse (t := s.table) p.key p.client p.now sc victim
  unfold AffinityRace.decide
  split
  · rename_i hd
    rw [hd] at hsh
    exact h.leave hlock hsh.shrinks
  · rename_i st be hd
    rw [hd] at hsh hst
    cases hst st be rfl
    exact h.move hsh.shrinks (.inl rfl) (fun _ => h.holder tid hlock) hmode

lemma raceInv_validate (h : RaceInv s) {st : PortState} {be : Backend}
    (hpc : s.pc tid = .recording p st be) : RaceInv (s.validate tid p st be) := by
  have hlock : (s.pc tid).holdsLock = true := by rw [hpc]; rfl
  have hmode : s.Sound (.recording p st be) := hpc ▸ h.sound tid
  unfold AffinityRace.validate
  split
  · rename_i hcur
    exact h.move (.refl _) (.inl rfl) (fun _ => h.holder tid hlock) (.inl ⟨st, hcur, hmode⟩)
  · exact h.leave hlock (.refl _)

lemma raceInv_commit (h : RaceInv s) {be : Backend} (hpc : s.pc tid = .committing p be) :
    RaceInv (s.move tid .idle (s.table.recordBinding p.key p.client p.now be) none) where
  covered key hne := by
    have hcov : s.Sound (.committing p be) := hpc ▸ h.sound tid
    have hsnap : (s.table.recordBinding p.key p.client p.now be).snap = s.table.snap := rfl
    rw [AffinityRace.covered_move hsnap]
    by_cases hk : key = p.key
    · exact hk ▸ hcov
    · refine h.covered key ?_
      simp only [AffinityRace.move] at hne
      rwa [RoutingTable.binds_of_affinity_insert (t := s.table) rfl, if_neg hk] at hne
  holder := h.holder_move (.inr (.inr (h.holder tid (by rw [hpc]; rfl))))
    fun hidle => nomatch hidle
  sound := h.sound_update rfl trivial

end

/-! ### Writers -/

section

variable {s : AffinityRace}

lemma RaceInv.store (h : RaceInv s) (hfree : s.writer = none) (key : PortKey) {t : RoutingTable}
    {w : Option Purge} (haff : t.affinity = s.table.affinity)
    (hother : ∀ k, k ≠ key → t.snap.states.lookup k = s.table.snap.states.lookup k)
    (hkey : t.Sticky key ∨ ∃ p, w = some p ∧ p.key = key) :
    RaceInv { s with table := t, writer := w } := by
  have hcov : ∀ k, s.Covered k → AffinityRace.Covered { s with table := t, writer := w } k := by
    rintro k (⟨st, hst, hmode⟩ | ⟨p, hp, -⟩)
    · by_cases hk : k = key
      · exact hk ▸ hkey
      · exact .inl ⟨st, (hother k hk).trans hst, hmode⟩
    · rw [hfree] at hp
      exact nomatch hp
  refine ⟨fun k hne => hcov k (h.covered k ?_), h.holder, fun tid => ?_⟩
  · rwa [RoutingTable.binds, haff] at hne
  have hs := h.sound tid
  change AffinityRace.Sound _ (s.pc tid)
  cases hpc : s.pc tid with
  | committing p be =>
    rw [hpc] at hs
    exact hcov p.key hs
  | _ =>
    rw [hpc] at hs
    exact hs

lemma sticky_installStore (api : Netv1) (t : RoutingTable) (key : PortKey) (svc : ObjectKey)
    (eps : List Endpoint) (policy : TrafficPolicy) (aff : AffinityConfig)
    (h : ¬ installPurges api t.cfg eps aff = true) :
    (t.installStore api key svc eps policy aff).Sticky key := by
  simp only [installPurges, decide_eq_true_eq, not_or, not_ne_iff] at h
  rw [RoutingTable.Sticky, RoutingTable.installStore_snap, RoutingSnapshot.withState_lookup,
    if_pos rfl]
  simp only [installedState, if_neg h.1]
  exact ⟨_, rfl, h.2⟩

lemma raceInv_storeInstall (api : Netv1) (h : RaceInv s) (hfree : s.writer = none) (key : PortKey)
    (svc : ObjectKey) (eps : List Endpoint) (policy : TrafficPolicy) (aff : AffinityConfig) :
    RaceInv (s.storeInstall api key svc eps policy aff) := by
  refine h.store hfree key
    (s.table.installStore_affinity api key svc eps policy aff).1 ?_ ?_
  · intro k hk
    rw [RoutingTable.installStore_snap, RoutingSnapshot.withState_lookup, if_neg hk]
  · by_cases hp : installPurges api s.table.cfg eps aff = true
    · exact .inr ⟨.install key, if_pos hp, rfl⟩
    · exact .inl (sticky_installStore api s.table key svc eps policy aff hp)

lemma raceInv_deleteStore (h : RaceInv s) (hfree : s.writer = none) (key : PortKey) :
    RaceInv { s with table := s.table.deleteStore key, writer := some (.delete key) } := by
  refine h.store hfree key rfl ?_ (.inr ⟨.delete key, rfl, rfl⟩)
  intro k hk
  exact (RoutingSnapshot.withState_lookup key s.table.snap none k).trans (if_neg hk)

lemma raceInv_setTransportOverrides (h : RaceInv s) (ov : GoMap Addr VMPodTransport) :
    RaceInv { s with table := s.table.setTransportOverrides ov } :=
  ⟨h.covered, h.holder, h.sound⟩

lemma raceInv_purge (h : RaceInv s) {p : Purge} (hp : s.writer = some p)
    (hfree : s.affMu = none) : RaceInv (s.purge p) := by
  have hidle : ∀ tid, (s.pc tid).holdsLock = false := fun tid => by
    by_contra hlock
    have := h.holder tid (by simpa using hlock)
    rw [hfree] at this
    exact nomatch this
  have hpc : (s.purge p).pc = s.pc := by cases p <;> rfl
  have hsnap : (s.purge p).table.snap = s.table.snap := by cases p <;> rfl
  have haff : (s.purge p).table.affinity = s.table.affinity.erase p.key := by cases p <;> rfl
  refine ⟨fun key hne => ?_, fun tid hlock => ?_, fun tid => ?_⟩
  · rw [RoutingTable.binds_of_affinity_erase haff] at hne
    split at hne
    · exact absurd rfl hne
    rename_i hk
    rcases h.covered key hne with ⟨st, hst, hmode⟩ | ⟨q, hq, hkey⟩
    · exact .inl ⟨st, hsnap ▸ hst, hmode⟩
    · rw [hp] at hq
      cases hq
      exact absurd hkey.symm hk
  · rw [hpc, hidle tid] at hlock
    exact nomatch hlock
  · rw [hpc]
    have hlock := hidle tid
    cases h' : s.pc tid with
    | idle => trivial
    | waiting p => trivial
    | _ =>
      rw [h'] at hlock
      exact nomatch hlock

end

lemma raceInv_init (cfg : TableConfig) :
    RaceInv ⟨newRoutingTable cfg, fun _ => .idle, none, none⟩ :=
  ⟨fun _ hne => absurd rfl hne, fun _ hlock => (nomatch hlock), fun _ => trivial⟩

/-- A step of a pick or of the writer keeps `RaceInv`. -/
lemma raceInv_step (api : Netv1) {s s' : AffinityRace} {l : RaceLabel} (h : RaceInv s)
    (hst : s.step api l = some s') : RaceInv s' := by
  cases l <;> simp only [AffinityRace.step] at hst <;> split at hst <;> cases hst
  next => exact raceInv_begin h _
  next hmu => exact h.move (.refl _) (.inr (.inl hmu)) (fun _ => rfl) trivial
  next hpc => exact raceInv_reload h hpc
  next hpc => exact raceInv_decide h hpc _
  next hpc => exact raceInv_validate h hpc
  next hpc => exact raceInv_commit h hpc
  next hmu => exact h.move (.refl _) (.inr (.inl hmu)) (fun _ => rfl) trivial
  next tid _ _ hpc =>
    exact h.move (.refl _) (.inl rfl) (fun _ => h.holder tid (by rw [hpc]; rfl)) trivial
  next hpc => exact h.leave (by rw [hpc]; rfl) (narrows_sweepExpired _ _).shrinks
  next hfree => exact raceInv_storeInstall api h hfree _ _ _ _ _
  next hfree => exact raceInv_deleteStore h hfree _
  next => exact raceInv_setTransportOverrides h _
  next hp hmu => exact raceInv_purge h hp hmu

lemma raceInv_of_reach (api : Netv1) {s : AffinityRace}
    (h : (raceMachine api).Reach Machine.always s) : RaceInv s := by
  refine Machine.Reach.invariant (I := RaceInv) ?_ ?_ h
  · rintro _ ⟨cfg, rfl⟩
    exact raceInv_init cfg
  · intro s l s' hs _ hst
    exact raceInv_step api hs hst

/-- With no writer at work, a port that has bindings has ClientIP affinity: no pick that raced with
the writer has left one behind. -/
theorem no_binding_resurrected (api : Netv1) {s : AffinityRace}
    (h : (raceMachine api).Reach Machine.always s) (hwriter : s.writer = none) (key : PortKey)
    (binds : GoMap Addr AffinityBinding) (hbinds : s.table.affinity.lookup key = some binds)
    (hne : binds ≠ ∅) :
    ∃ st, s.table.snap.states.lookup key = some st ∧ st.affinityMode = .affinityClientIP := by
  have hb : s.table.binds key = binds := by rw [RoutingTable.binds, hbinds, Option.getD_some]
  rcases (raceInv_of_reach api h).covered key (hb ▸ hne) with hsticky | ⟨p, hp, -⟩
  · exact hsticky
  · rw [hwriter] at hp
    cases hp

def recordedRun : List RaceLabel :=
  let key : PortKey := ⟨"10.43.0.1", 80, .TCP⟩
  [.installStore key ⟨"default", "web"⟩ [⟨"10.42.0.5", 8080, true⟩] .trafficCluster
      ⟨.affinityClientIP, 0⟩,
    .begin 0 ⟨key, .v4 1, 0, false⟩, .acquire 0, .reload 0, .decide 0 0, .validate 0,
    .deleteStore ⟨"10.43.0.2", 80, .TCP⟩, .commit 0, .purge]

theorem no_binding_resurrected_recordedRun : ∃ s, (raceMachine Netv1.standard).run
        ⟨newRoutingTable cappedConfig, fun _ => .idle, none, none⟩ recordedRun = some s ∧
      GoMap.size (s.table.binds ⟨"10.43.0.1", 80, .TCP⟩) = 1 ∧
      s.table.Sticky ⟨"10.43.0.1", 80, .TCP⟩ := by
  refine Machine.exists_run_of (P := fun s => s.writer = none ∧
    GoMap.size (s.table.binds ⟨"10.43.0.1", 80, .TCP⟩) = 1) ⟨cappedConfig, rfl⟩
    (Machine.meets_always _ _) (by decide) fun s hreach hfacts => ⟨hfacts.2, ?_⟩
  have hsize := hfacts.2
  unfold RoutingTable.binds at hsize
  cases hb : s.table.affinity.lookup ⟨"10.43.0.1", 80, .TCP⟩ with
  | none =>
    rw [hb] at hsize
    exact nomatch hsize
  | some binds =>
    refine no_binding_resurrected Netv1.standard hreach hfacts.1 _ binds hb ?_
    rintro rfl
    rw [hb] at hsize
    exact nomatch hsize

end DarwinNet.Proxy
