import DarwinNet.Proxy.PodRelay

/-!
When `SetTransportOverrides` returns, is a dropped vm pod released (`podrelay.go`)?

`retire` closes what it finds in the manager's map. A reconcile pass takes relays out of that
map as well and closes them after it has let go of the manager's lock: a call that returns in
between leaves the relay of a dropped pod open (`relay_open_after_return`). If no `retire` runs
in that time, every relay that is not closed serves a pod of the overrides
(`relay_served_after_return`).
-/

namespace DarwinNet.Proxy

open Lib Netip Api

namespace PodRelays

/-! ## Small facts about the operations -/

variable {cfg : RelayConfig} {s t : PodRelays}

lemma lookup_dropRelays (keep : Addr → Nat → Bool) (p : Addr) (id : Nat) :
    (s.dropRelays keep).1.lookup p = some id ↔ s.relays.lookup p = some id ∧ keep p id = true := by
  have hout : p ∈ ((s.relays.entries.filter fun e => !keep e.1 e.2).map fun e => e.1) ↔
      ∃ id', s.relays.lookup p = some id' ∧ keep p id' = false := by
    constructor
    · intro h
      obtain ⟨e, he, rfl⟩ := List.mem_map.mp h
      obtain ⟨hmem, hkeep⟩ := List.mem_filter.mp he
      exact ⟨e.2, GoMap.lookup_of_mem_entries hmem, by simpa using hkeep⟩
    · rintro ⟨id', hid, hkeep⟩
      refine List.mem_map.mpr ⟨⟨p, id'⟩, List.mem_filter.mpr ⟨?_, by simpa using hkeep⟩, rfl⟩
      exact GoMap.mem_entries_of_lookup hid
  rw [dropRelays, GoMap.lookup_eraseAll]
  split
  · rename_i hmem
    obtain ⟨id', hid, hkeep⟩ := hout.mp hmem
    constructor
    · intro h
      cases h
    · rintro ⟨h, hk⟩
      cases hid.symm.trans h
      cases hkeep.symm.trans hk
  · rename_i hmem
    refine ⟨fun h => ⟨h, ?_⟩, fun h => h.1⟩
    by_contra hk
    exact hmem (hout.mpr ⟨id, h, by simpa using hk⟩)

lemma mem_dropRelays (keep : Addr → Nat → Bool) (id : Nat) :
    id ∈ (s.dropRelays keep).2 ↔ ∃ p, s.relays.lookup p = some id ∧ keep p id = false := by
  simp only [dropRelays, List.mem_toFinset, List.mem_map, List.mem_filter]
  constructor
  · rintro ⟨e, ⟨hmem, hkeep⟩, rfl⟩
    exact ⟨e.1, GoMap.lookup_of_mem_entries hmem, by simpa using hkeep⟩
  · rintro ⟨p, hp, hkeep⟩
    exact ⟨⟨p, id⟩, ⟨GoMap.mem_entries_of_lookup hp, by simpa using hkeep⟩, rfl⟩

end PodRelays

namespace Writer

def gone : Writer → Finset Nat
  | .retiring _ gone => gone
  | _ => ∅

def isIdle : Writer → Bool
  | .idle => true
  | _ => false

lemma eq_idle {w : Writer} (h : w.isIdle = true) : w = .idle := by
  cases w with
  | idle => rfl
  | stored overrides => cases h
  | retiring overrides gone => cases h

def isStored : Writer → Bool
  | .stored _ => true
  | _ => false

end Writer

def Pass.snap? : Pass → Option RoutingSnapshot
  | .loaded snap | .editing snap _ _ _ => some snap
  | _ => none

namespace PodRelays

variable {cfg : RelayConfig} {s t : PodRelays}

/-- The overrides in the table: those of the call in progress, or of the last one. -/
def current (s : PodRelays) : GoMap Addr VMPodTransport :=
  match s.writer with
  | .idle => s.overrides
  | .stored overrides | .retiring overrides _ => overrides

/-- The relay is in the map, or a pass has taken it out and is to close it. -/
def Listed (s : PodRelays) (id : Nat) (r : PodRelay) : Prop :=
  s.relays.lookup r.published = some id ∨ id ∈ s.pass.gone

/-- `now` is `stores` calls of `SetTransportOverrides` ahead of `snap`: too few for the
generation to come around. -/
structure Ahead (stores : Nat) (now snap : RoutingSnapshot) : Prop where
  bound : stores < 2 ^ 64
  gen : now.transportGen = snap.transportGen + UInt64.ofNat stores
  transport : stores = 0 → snap.transport = now.transport

lemma Ahead.stores_eq_zero {stores : Nat} {now snap : RoutingSnapshot} (h : Ahead stores now snap)
    (hgen : now.transportGen = snap.transportGen) : stores = 0 := by
  have hzero : UInt64.ofNat stores = 0 := by
    have heq : snap.transportGen + UInt64.ofNat stores = snap.transportGen + 0 := by
      rw [← h.gen, hgen, UInt64.add_zero]
    exact (UInt64.add_right_inj _).mp heq
  have hmod : stores % 2 ^ 64 = 0 := by
    rw [← UInt64.toNat_ofNat', hzero]
    rfl
  rwa [Nat.mod_eq_of_lt h.bound] at hmod

lemma Ahead.store {stores : Nat} {now snap : RoutingSnapshot} (h : Ahead stores now snap)
    (hbound : stores + 1 < 2 ^ 64) (m : GoMap Addr VMPodTransport) :
    Ahead (stores + 1) (now.withTransport m) snap where
  bound := hbound
  gen := by
    rw [UInt64.ofNat_add, ← UInt64.add_assoc, ← h.gen]
    rfl
  transport h0 := by cases h0

structure Inv (cfg : RelayConfig) (s : PodRelays) : Prop where
  fresh : ∀ id r, s.heap.lookup id = some r → id < s.nextRelay
  mapped : ∀ p id, s.relays.lookup p = some id → ∃ r, s.heap.lookup id = some r ∧ r.published = p
  /-- A relay that is not closed is in the map or about to be closed. -/
  held : ∀ id r, s.heap.lookup id = some r → r.closed = false → s.Listed id r ∨ id ∈ s.writer.gone
  closed : ∀ id r, s.heap.lookup id = some r → r.closed = true →
    r.listeners = ∅ ∧ r.conns ⊆ s.closedConns
  /-- Once `retire` has run, the relays it left are admitted by the overrides. -/
  admitted : s.writer.isStored = false → ∀ id r, s.heap.lookup id = some r → s.Listed id r →
    Admitted cfg s.table.snap.transport r.published r.live
  snapshot : ∀ snap, s.pass.snap? = some snap → Ahead s.stores s.table.snap snap
  /-- An edit is of the newest generation until `retire` waits for its lock. -/
  editing : ∀ snap todo gone jobs, s.pass = .editing snap todo gone jobs →
    (s.writer.isStored = true ∨ s.stores = 0) ∧
    ∀ p pl, todo.lookup p = some pl → (cfg.plan snap).lookup p = some pl
  transport : s.table.snap.transport = normalizeOverrides s.current

namespace Inv

lemma frame (hs : Inv cfg s) (kick retry : Bool) (conns : GoMap Nat RelayedConn) :
    Inv cfg { s with kick := kick, retry := retry, conns := conns } :=
  ⟨hs.fresh, hs.mapped, hs.held, hs.closed, hs.admitted, hs.snapshot, hs.editing, hs.transport⟩

lemma setRelay (hs : Inv cfg s) {id : Nat} {r r' : PodRelay} {closedConns : Finset RelayConn}
    (hr : s.heap.lookup id = some r) (hpub : r'.published = r.published) (hlive : r'.live = r.live)
    (hopen : r'.closed = false → r.closed = false)
    (hclosed : r'.closed = true → r'.listeners = ∅ ∧ r'.conns ⊆ closedConns)
    (hsub : s.closedConns ⊆ closedConns) :
    Inv cfg { s.setRelay id r' with closedConns := closedConns } := by
  -- an object after the change is one before it, with the same addresses
  have hheap : ∀ id' x', (s.heap.insert id r').lookup id' = some x' →
      ∃ x, s.heap.lookup id' = some x ∧ x'.published = x.published ∧ x'.live = x.live ∧
        (x'.closed = false → x.closed = false) := by
    intro id' x' h
    rw [GoMap.lookup_insert_ite] at h
    split at h
    · rename_i heq
      cases h
      exact ⟨r, heq ▸ hr, hpub, hlive, hopen⟩
    · exact ⟨x', h, rfl, rfl, fun hcl => hcl⟩
  have hlisted : ∀ id' x x', x'.published = x.published →
      ({ s.setRelay id r' with closedConns := closedConns } : PodRelays).Listed id' x' →
      s.Listed id' x := by
    intro id' x x' hp h
    unfold Listed at h ⊢
    rwa [hp] at h
  refine ⟨?_, ?_, ?_, ?_, ?_, hs.snapshot, hs.editing, hs.transport⟩
  · intro id' x' h
    obtain ⟨x, hx, -⟩ := hheap id' x' h
    exact hs.fresh id' x hx
  · intro p id' h
    obtain ⟨x, hx, hp⟩ := hs.mapped p id' h
    by_cases heq : id' = id
    · refine ⟨r', ?_, ?_⟩
      · rw [heq]
        exact AList.lookup_insert _
      · rw [heq, hr] at hx
        cases hx
        rw [hpub, hp]
    · refine ⟨x, ?_, hp⟩
      change (s.heap.insert id r').lookup id' = some x
      rw [GoMap.lookup_insert_ite, if_neg heq, hx]
  · intro id' x' h hopen'
    obtain ⟨x, hx, hp, -, hcl⟩ := hheap id' x' h
    have hold := hs.held id' x hx (hcl hopen')
    unfold Listed at hold ⊢
    rwa [hp]
  · intro id' x' h hcl
    change (s.heap.insert id r').lookup id' = some x' at h
    rw [GoMap.lookup_insert_ite] at h
    split at h
    · cases h
      exact hclosed hcl
    · obtain ⟨hl, hc⟩ := hs.closed id' x' h hcl
      exact ⟨hl, hc.trans hsub⟩
  · intro hst id' x' h hl
    obtain ⟨x, hx, hp, hlv, -⟩ := hheap id' x' h
    have hadm := hs.admitted hst id' x hx (hlisted id' x x' hp hl)
    rw [hp, hlv]
    exact hadm

lemma setPass (hs : Inv cfg s) (pass : Pass) (hsub : pass.gone ⊆ s.pass.gone)
    (hgone : ∀ id ∈ s.pass.gone, id ∉ pass.gone → ∀ r, s.heap.lookup id = some r → r.closed = true)
    (hsnap : ∀ snap, pass.snap? = some snap → Ahead s.stores s.table.snap snap)
    (hedit : ∀ snap todo gone jobs, pass = .editing snap todo gone jobs →
      (s.writer.isStored = true ∨ s.stores = 0) ∧
      ∀ p pl, todo.lookup p = some pl → (cfg.plan snap).lookup p = some pl) :
    Inv cfg { s with pass := pass } := by
  refine ⟨hs.fresh, hs.mapped, ?_, hs.closed, ?_, hsnap, hedit, hs.transport⟩
  · intro id r hr hopen
    rcases hs.held id r hr hopen with (hmap | hin) | hw
    · exact .inl (.inl hmap)
    · by_cases hp : id ∈ pass.gone
      · exact .inl (.inr hp)
      · cases (hgone id hin hp r hr).symm.trans hopen
    · exact .inr hw
  · intro hst id r hr hl
    exact hs.admitted hst id r hr (hl.imp_right fun hp => hsub hp)

lemma setWriter (hs : Inv cfg s) {writer : Writer} {overrides : GoMap Addr VMPodTransport}
    (hstored : s.writer.isStored = false)
    (hgone : ∀ id ∈ s.writer.gone, id ∉ writer.gone → ∀ r, s.heap.lookup id = some r →
      r.closed = true)
    (hcurrent : ({ s with writer := writer, overrides := overrides } : PodRelays).current =
      s.current) :
    Inv cfg { s with writer := writer, overrides := overrides } := by
  refine ⟨hs.fresh, hs.mapped, ?_, hs.closed, fun _ => hs.admitted hstored, hs.snapshot, ?_, ?_⟩
  · intro id r hr hopen
    rcases hs.held id r hr hopen with hl | hw
    · exact .inl hl
    · by_cases hin : id ∈ writer.gone
      · exact .inr hin
      · cases (hgone id hw hin r hr).symm.trans hopen
  · intro snap todo gone jobs h
    obtain ⟨hnow, htodo⟩ := hs.editing snap todo gone jobs h
    refine ⟨.inr ?_, htodo⟩
    rcases hnow with hst | hnow
    · cases hstored.symm.trans hst
    · exact hnow
  · rw [hcurrent]
    exact hs.transport

end Inv

lemma closeRelay_frame (s : PodRelays) (id : Nat) :
    (s.closeRelay id).writer = s.writer ∧ (s.closeRelay id).pass = s.pass ∧
      (s.closeRelay id).overrides = s.overrides := by
  unfold closeRelay
  split
  · exact ⟨rfl, rfl, rfl⟩
  · split <;> exact ⟨rfl, rfl, rfl⟩

lemma closed_closeRelay {id : Nat} {r : PodRelay}
    (h : (s.closeRelay id).heap.lookup id = some r) : r.closed = true := by
  unfold closeRelay at h
  split at h
  · rename_i hnone
    cases hnone.symm.trans h
  rename_i r' hr'
  split at h
  · rename_i hcl
    cases hr'.symm.trans h
    exact hcl
  · rename_i hcl
    have hnew : (s.heap.insert id r'.close).lookup id = some r := h
    rw [AList.lookup_insert] at hnew
    cases hnew
    simp [PodRelay.close, hcl]

lemma Inv.closeRelay (hs : Inv cfg s) (id : Nat) : Inv cfg (s.closeRelay id) := by
  unfold PodRelays.closeRelay
  split
  · exact hs
  rename_i r hr
  split
  · exact hs
  · rename_i hcl
    have hclose : r.close = { r with closed := true, listeners := ∅ } := by
      simp [PodRelay.close, hcl]
    rw [hclose]
    refine hs.setRelay hr rfl rfl ?_ ?_ Finset.subset_union_left
    · intro h
      cases h
    · intro _
      exact ⟨rfl, Finset.subset_union_right⟩

/-! ## Steps of a call -/

namespace Inv

lemma setTransportOverrides (hs : Inv cfg s) (overrides : GoMap Addr VMPodTransport)
    (hidle : s.writer = .idle) (hbound : s.pass.snap?.isSome = true → s.stores + 1 < 2 ^ 64) :
    Inv cfg { s with
      table := s.table.setTransportOverrides overrides, writer := .stored overrides
      stores := s.stores + 1 } := by
  refine ⟨hs.fresh, hs.mapped, ?_, hs.closed, ?_, ?_, ?_, rfl⟩
  · intro id r hr hopen
    rcases hs.held id r hr hopen with hl | hw
    · exact .inl hl
    · rw [hidle] at hw
      cases hw
  · intro hst
    cases hst
  · intro snap h
    exact (hs.snapshot snap h).store (hbound (Option.isSome_of_eq_some h)) _
  · intro snap todo gone jobs h
    exact ⟨.inl rfl, (hs.editing snap todo gone jobs h).2⟩

variable {overrides : GoMap Addr VMPodTransport}

lemma retire (hs : Inv cfg s) (hstored : s.writer = .stored overrides) (hpass : s.pass.gone = ∅)
    (hedit : ∀ snap todo gone jobs, s.pass ≠ .editing snap todo gone jobs) :
    Inv cfg (s.retire cfg overrides) := by
  refine ⟨hs.fresh, ?_, ?_, hs.closed, ?_, hs.snapshot, ?_, ?_⟩
  · intro p id h
    exact hs.mapped p id ((lookup_dropRelays _ p id).mp h).1
  · intro id r hr hopen
    rcases hs.held id r hr hopen with (hmap | hin) | hw
    · cases hkeep : keeps cfg s r.published id with
      | true => exact .inl (.inl ((lookup_dropRelays _ _ _).mpr ⟨hmap, hkeep⟩))
      | false => exact .inr ((mem_dropRelays _ _).mpr ⟨r.published, hmap, hkeep⟩)
    · rw [hpass] at hin
      cases hin
    · rw [hstored] at hw
      cases hw
  · intro _ id r hr hl
    rcases hl with hmap | hin
    · obtain ⟨-, hkeep⟩ := (lookup_dropRelays _ _ _).mp hmap
      have hr' : s.heap.lookup id = some r := hr
      unfold keeps at hkeep
      rw [hr'] at hkeep
      split at hkeep
      · rename_i r' tr heq htr
        cases heq
        simp only [Bool.and_eq_true, decide_eq_true_eq] at hkeep
        obtain ⟨hlive, hadmit⟩ := hkeep
        cases hports : cfg.admitIn s.table.snap r.published tr with
        | error reason =>
          rw [hports] at hadmit
          cases hadmit
        | ok ports => exact hlive ▸ admitted_of_admitIn htr hports
      · cases hkeep
    · have hin' : id ∈ s.pass.gone := hin
      rw [hpass] at hin'
      cases hin'
  · intro snap todo gone jobs h
    exact absurd h (hedit snap todo gone jobs)
  · have hcur : s.current = overrides := by rw [current, hstored]
    have htr := hs.transport
    rw [hcur] at htr
    exact htr

lemma closeRetired (hs : Inv cfg s) {gone : Finset Nat} (hw : s.writer = .retiring overrides gone)
    (id : Nat) :
    Inv cfg { s.closeRelay id with writer := .retiring overrides (gone.erase id) } := by
  obtain ⟨hw', -, hov⟩ := closeRelay_frame s id
  have hwriter : (s.closeRelay id).writer = .retiring overrides gone := hw'.trans hw
  refine (hs.closeRelay id).setWriter (by rw [hwriter]; rfl) ?_ ?_
  · intro id' hin hout r hr
    rw [hwriter] at hin
    have heq : id' = id := by
      by_contra hne
      exact hout (Finset.mem_erase.mpr ⟨hne, hin⟩)
    subst heq
    exact closed_closeRelay hr
  · simp only [current, hwriter]

lemma endOverrides (hs : Inv cfg s) (hw : s.writer = .retiring overrides ∅) :
    Inv cfg { s with writer := .idle, overrides := overrides, kick := true } := by
  have hidle : Inv cfg { s with writer := .idle, overrides := overrides } := by
    refine hs.setWriter (by rw [hw]; rfl) ?_ ?_
    · intro id hin
      rw [hw] at hin
      cases hin
    · simp only [current, hw]
  exact hidle.frame true s.retry s.conns

lemma setTable (hs : Inv cfg s) {table : RoutingTable} {kick : Bool}
    (htransport : table.snap.transport = s.table.snap.transport)
    (hgen : table.snap.transportGen = s.table.snap.transportGen) :
    Inv cfg { s with table := table, kick := kick } := by
  refine ⟨hs.fresh, hs.mapped, hs.held, hs.closed, ?_, ?_, ?_, ?_⟩
  · intro hst id r hr hl
    have hadm := hs.admitted hst id r hr hl
    rwa [← htransport] at hadm
  · intro snap h
    obtain ⟨hbound, hahead, hsame⟩ := hs.snapshot snap h
    exact ⟨hbound, hgen.trans hahead, fun h0 => (hsame h0).trans htransport.symm⟩
  · exact hs.editing
  · have htr := hs.transport
    rwa [← htransport] at htr

/-! ## Steps of a pass -/

lemma endPass (hs : Inv cfg s) (hgone : s.pass.gone = ∅) (retry : Bool) :
    Inv cfg { s with pass := .idle, retry := retry } := by
  have hidle : Inv cfg { s with pass := .idle } := by
    refine hs.setPass _ (Finset.empty_subset _) ?_ ?_ ?_
    · intro id hin
      rw [hgone] at hin
      cases hin
    · intro snap h
      cases h
    · intro snap todo gone jobs h
      cases h
  exact hidle.frame s.kick retry s.conns

lemma load (hs : Inv cfg s) (hpass : s.pass = .idle) (kick retry : Bool) :
    Inv cfg { s with
      pass := .loaded s.table.snap, kick := kick, retry := retry, stores := 0 } := by
  have hgone : s.pass.gone = ∅ := by
    rw [hpass]
    rfl
  have hidle := (hs.endPass hgone retry).frame kick retry s.conns
  refine ⟨hidle.fresh, hidle.mapped, hidle.held, hidle.closed, hidle.admitted, ?_, ?_,
    hidle.transport⟩
  · intro snap h
    cases h
    exact ⟨Nat.two_pow_pos 64, (UInt64.add_zero _).symm, fun _ => rfl⟩
  · intro snap todo gone jobs h
    cases h

lemma lock (hs : Inv cfg s) {snap : RoutingSnapshot} (hpass : s.pass = .loaded snap) :
    Inv cfg (s.lock cfg snap) := by
  have hgone : s.pass.gone = ∅ := by
    rw [hpass]
    rfl
  unfold PodRelays.lock
  split
  · exact hs.endPass hgone false
  · rename_i hgen
    have hsnap := hs.snapshot snap (by rw [hpass]; rfl)
    have hnow : s.stores = 0 := hsnap.stores_eq_zero (not_ne_iff.mp hgen)
    -- in the map or taken from it: in the map before
    have hlisted : ∀ id r, s.heap.lookup id = some r →
        ((s.dropRelays (s.planned (cfg.plan snap))).1.lookup r.published = some id ∨
          id ∈ (s.dropRelays (s.planned (cfg.plan snap))).2) →
        s.relays.lookup r.published = some id := by
      intro id r hr h
      rcases h with hmap | hin
      · exact ((lookup_dropRelays _ _ _).mp hmap).1
      obtain ⟨p, hp, -⟩ := (mem_dropRelays _ _).mp hin
      obtain ⟨r', hr', hpub⟩ := hs.mapped p id hp
      cases hr.symm.trans hr'
      rw [hpub, hp]
    refine ⟨hs.fresh, ?_, ?_, hs.closed, ?_, ?_, ?_, hs.transport⟩
    · intro p id h
      exact hs.mapped p id ((lookup_dropRelays _ p id).mp h).1
    · intro id r hr hopen
      rcases hs.held id r hr hopen with (hmap | hin) | hw
      · cases hkeep : s.planned (cfg.plan snap) r.published id with
        | true => exact .inl (.inl ((lookup_dropRelays _ _ _).mpr ⟨hmap, hkeep⟩))
        | false => exact .inl (.inr ((mem_dropRelays _ _).mpr ⟨r.published, hmap, hkeep⟩))
      · rw [hgone] at hin
        cases hin
      · exact .inr hw
    · intro hst id r hr hl
      exact hs.admitted hst id r hr (.inl (hlisted id r hr hl))
    · intro snap' h
      cases h
      exact hsnap
    · intro snap' todo gone jobs h
      cases h
      exact ⟨.inr hnow, fun p pl hpl => hpl⟩

lemma install (hs : Inv cfg s) {p live : Addr}
    (hadm : s.writer.isStored = false → Admitted cfg s.table.snap.transport p live) :
    Inv cfg (s.install p live).1 := by
  unfold PodRelays.install
  split
  · exact hs
  rename_i hnone
  have hheap : ∀ id r, (s.heap.insert s.nextRelay (.new p live)).lookup id = some r →
      id = s.nextRelay ∧ r = .new p live ∨ s.heap.lookup id = some r := by
    intro id r h
    rw [GoMap.lookup_insert_ite] at h
    split at h
    · rename_i heq
      cases h
      exact .inl ⟨heq, rfl⟩
    · exact .inr h
  have hold : ∀ id r, s.heap.lookup id = some r →
      (s.heap.insert s.nextRelay (.new p live)).lookup id = some r := by
    intro id r h
    have hlt := hs.fresh id r h
    rw [GoMap.lookup_insert_ite, if_neg (by omega), h]
  refine ⟨?_, ?_, ?_, ?_, ?_, hs.snapshot, hs.editing, hs.transport⟩
  · intro id r h
    rcases hheap id r h with ⟨rfl, -⟩ | h
    · exact Nat.lt_succ_self _
    · exact Nat.lt_succ_of_lt (hs.fresh id r h)
  · intro q id h
    have h' : (s.relays.insert p s.nextRelay).lookup q = some id := h
    rw [GoMap.lookup_insert_ite] at h'
    split at h'
    · rename_i heq
      cases h'
      refine ⟨.new p live, ?_, heq.symm⟩
      exact AList.lookup_insert _
    · obtain ⟨r, hr, hpub⟩ := hs.mapped q id h'
      exact ⟨r, hold id r hr, hpub⟩
  · intro id r h hopen
    rcases hheap id r h with ⟨rfl, rfl⟩ | h
    · exact .inl (.inl (AList.lookup_insert _))
    · rcases hs.held id r h hopen with (hmap | hin) | hw
      · refine .inl (.inl ?_)
        have hne : r.published ≠ p := by
          rintro rfl
          cases hnone.symm.trans hmap
        change (s.relays.insert p s.nextRelay).lookup r.published = some id
        rw [GoMap.lookup_insert_ite, if_neg hne, hmap]
      · exact .inl (.inr hin)
      · exact .inr hw
  · intro id r h hcl
    rcases hheap id r h with ⟨-, rfl⟩ | h
    · cases hcl
    · exact hs.closed id r h hcl
  · intro hst id r h hl
    rcases hheap id r h with ⟨-, rfl⟩ | h
    · exact hadm hst
    · refine hs.admitted hst id r h ?_
      rcases hl with hmap | hin
      · have hmap' : (s.relays.insert p s.nextRelay).lookup r.published = some id := hmap
        rw [GoMap.lookup_insert_ite] at hmap'
        split at hmap'
        · cases hmap'
          have hlt := hs.fresh _ r h
          omega
        · exact .inl hmap'
      · exact .inr hin

lemma trimRelay (hs : Inv cfg s) (id : Nat) (ports : List UInt16) :
    Inv cfg (s.trimRelay id ports).1 := by
  unfold PodRelays.trimRelay
  split
  · exact hs
  rename_i r hr
  refine hs.setRelay hr rfl rfl (fun h => h) ?_ (Finset.Subset.refl _)
  intro hcl
  obtain ⟨hl, hc⟩ := hs.closed id r hr hcl
  refine ⟨?_, hc⟩
  change r.listeners.filter _ = ∅
  rw [hl, Finset.filter_empty]

end Inv

lemma install_frame (s : PodRelays) (p live : Addr) :
    (s.install p live).1.pass = s.pass ∧ (s.install p live).1.writer = s.writer ∧
      (s.install p live).1.table = s.table ∧ (s.install p live).1.stores = s.stores := by
  unfold PodRelays.install
  split <;> exact ⟨rfl, rfl, rfl, rfl⟩

lemma trimRelay_frame (s : PodRelays) (id : Nat) (ports : List UInt16) :
    (s.trimRelay id ports).1.pass = s.pass ∧ (s.trimRelay id ports).1.writer = s.writer ∧
      (s.trimRelay id ports).1.table = s.table ∧ (s.trimRelay id ports).1.stores = s.stores := by
  unfold PodRelays.trimRelay
  split <;> exact ⟨rfl, rfl, rfl, rfl⟩

namespace Inv

variable {gone : Finset Nat} {jobs : List (Nat × UInt16)}

lemma edit (hs : Inv cfg s) {snap : RoutingSnapshot} {todo : GoMap Addr RelayPlan}
    {new : List (Nat × UInt16)} {p : Addr} {pl : RelayPlan} {u : PodRelays}
    (hpass : s.pass = .editing snap todo gone jobs) (hpl : todo.lookup p = some pl)
    (hu : u = ((s.install p pl.live).1.trimRelay (s.install p pl.live).2 pl.ports).1) :
    Inv cfg { u with pass := .editing snap (todo.erase p) gone (jobs ++ new) } := by
  obtain ⟨hnow, htodo⟩ := hs.editing snap todo gone jobs hpass
  have hsnap := hs.snapshot snap (by rw [hpass]; rfl)
  have hadm : s.writer.isStored = false → Admitted cfg s.table.snap.transport p pl.live := by
    intro hst
    rcases hnow with hst' | hnow
    · cases hst.symm.trans hst'
    · rw [← hsnap.transport hnow]
      exact admitted_of_plan (htodo p pl hpl)
  have hinv : Inv cfg u := hu ▸ (hs.install hadm).trimRelay _ _
  obtain ⟨hp1, hw1, ht1, hn1⟩ := install_frame s p pl.live
  obtain ⟨hp2, hw2, ht2, hn2⟩ :=
    trimRelay_frame (s.install p pl.live).1 (s.install p pl.live).2 pl.ports
  have hp : u.pass = s.pass := by rw [hu, hp2, hp1]
  have hw : u.writer = s.writer := by rw [hu, hw2, hw1]
  have ht : u.table = s.table := by rw [hu, ht2, ht1]
  have hn : u.stores = s.stores := by rw [hu, hn2, hn1]
  have hsame : u.pass.gone = gone := by
    rw [hp, hpass]
    rfl
  refine hinv.setPass _ ?_ ?_ ?_ ?_
  · rw [hsame]
    exact Finset.Subset.refl _
  · intro id hin hout
    rw [hsame] at hin
    exact absurd hin hout
  · intro snap' h
    cases h
    rw [ht, hn]
    exact hsnap
  · intro snap' todo' gone' jobs' h
    cases h
    refine ⟨?_, ?_⟩
    · rw [hw, hn]
      exact hnow
    intro q ql hq
    rw [GoMap.lookup_erase_ite] at hq
    split_ifs at hq
    exact htodo q ql hq

lemma closing (hs : Inv cfg s) {ok : Bool} (hsub : gone ⊆ s.pass.gone)
    (hgone : ∀ id ∈ s.pass.gone, id ∉ gone → ∀ r, s.heap.lookup id = some r →
      r.closed = true) : Inv cfg { s with pass := .closing gone jobs ok } := by
  refine hs.setPass _ hsub hgone ?_ ?_
  · intro snap h
    cases h
  · intro snap todo gone' jobs' h
    cases h

lemma listen (hs : Inv cfg s) (id : Nat) (port : UInt16) : Inv cfg (s.listen id port) := by
  unfold PodRelays.listen
  split
  · exact hs
  rename_i r' hr'
  obtain ⟨r, hr, hadd⟩ := Option.bind_eq_some_iff.mp hr'
  unfold PodRelay.addListener at hadd
  split at hadd
  · cases hadd
  · rename_i hopen
    split at hadd
    · cases hadd
    · cases hadd
      refine hs.setRelay hr rfl rfl (fun h => h) ?_ (Finset.Subset.refl _)
      intro hcl
      exact absurd hcl hopen

lemma closeGone (hs : Inv cfg s) {ok : Bool} (hpass : s.pass = .closing gone jobs ok) (id : Nat) :
    Inv cfg { s.closeRelay id with pass := .closing (gone.erase id) jobs ok } := by
  have hpass' : (s.closeRelay id).pass = .closing gone jobs ok :=
    (closeRelay_frame s id).2.1.trans hpass
  refine (hs.closeRelay id).closing ?_ ?_
  · rw [hpass']
    exact Finset.erase_subset _ _
  intro id' hin hout r hr
  rw [hpass'] at hin
  have heq : id' = id := by
    by_contra hne
    exact hout (Finset.mem_erase.mpr ⟨hne, hin⟩)
  subst heq
  exact closed_closeRelay hr

lemma drained (hs : Inv cfg s) (hgone : s.pass.gone = ∅) (jobs : List (Nat × UInt16))
    (ok : Bool) : Inv cfg { s with pass := .closing ∅ jobs ok } := by
  refine hs.closing (Finset.empty_subset _) ?_
  intro id hin
  rw [hgone] at hin
  cases hin

lemma closeConn (hs : Inv cfg s) (c : RelayConn) :
    Inv cfg { s with closedConns := insert c s.closedConns } := by
  refine ⟨hs.fresh, hs.mapped, hs.held, ?_, hs.admitted, hs.snapshot, hs.editing, hs.transport⟩
  intro id r hr hcl
  obtain ⟨hl, hc⟩ := hs.closed id r hr hcl
  exact ⟨hl, hc.trans (Finset.subset_insert _ _)⟩

lemma trackConn (hs : Inv cfg s) (id : Nat) (c : RelayConn) : Inv cfg (s.trackConn id c).1 := by
  unfold PodRelays.trackConn
  split
  · exact hs.closeConn c
  · rename_i r' hr'
    obtain ⟨r, hr, htrack⟩ := Option.bind_eq_some_iff.mp hr'
    unfold PodRelay.track at htrack
    split_ifs at htrack with hopen
    cases htrack
    refine hs.setRelay hr rfl rfl (fun h => h) ?_ (Finset.Subset.refl _)
    intro hcl
    exact absurd hcl hopen

lemma tracked (hs : Inv cfg s) {id : Nat} {c : RelayConn} {u : PodRelays} {open_ : Bool}
    (hu : s.trackConn id c = (u, open_)) (conns : GoMap Nat RelayedConn) :
    Inv cfg { u with conns := conns } := by
  have hinv := hs.trackConn id c
  rw [hu] at hinv
  exact hinv.frame u.kick u.retry conns

lemma releaseConn (hs : Inv cfg s) (id : Nat) (c : RelayConn) : Inv cfg (s.releaseConn id c) := by
  unfold PodRelays.releaseConn
  split
  · exact hs.closeConn c
  · rename_i r hr
    refine hs.setRelay hr rfl rfl (fun h => h) ?_ (Finset.subset_insert _ _)
    intro hcl
    obtain ⟨hl, hc⟩ := hs.closed id r hr hcl
    exact ⟨hl, (Finset.erase_subset _ _).trans (hc.trans (Finset.subset_insert _ _))⟩

end Inv

/-- No `retire` while the reconcile goroutine holds relays it took out of the map. The second
case keeps the generation, a `uint64`, from coming around within a pass. -/
def Drained (s : PodRelays) : PodRelayLabel → Prop
  | .retire => s.pass.gone = ∅
  | .setTransportOverrides _ => s.pass.snap?.isSome = true → s.stores + 1 < 2 ^ 64
  | _ => True

instance decidableDrained (s : PodRelays) (l : PodRelayLabel) : Decidable (Drained s l) := by
  unfold Drained
  split <;> infer_instance

lemma Inv.init (h : s.Started) : Inv cfg s := by
  have hheap : ∀ id r, s.heap.lookup id ≠ some r := by
    intro id r hr
    rw [h.heap] at hr
    cases hr
  refine ⟨?_, ?_, ?_, ?_, ?_, ?_, ?_, ?_⟩
  · intro id r hr
    exact absurd hr (hheap id r)
  · intro p id hp
    rw [h.relays] at hp
    cases hp
  · intro id r hr
    exact absurd hr (hheap id r)
  · intro id r hr
    exact absurd hr (hheap id r)
  · intro _ id r hr
    exact absurd hr (hheap id r)
  · intro snap hp
    rw [h.pass] at hp
    cases hp
  · intro snap todo gone jobs hp
    cases h.pass.symm.trans hp
  · rw [h.transport, current, h.writer]

lemma listen_frame (s : PodRelays) (id : Nat) (port : UInt16) :
    (s.listen id port).pass = s.pass := by
  unfold listen
  split <;> rfl

/-- A step of a call, a pass or a connection keeps `Inv`. -/
lemma Inv.step {api : Netv1} {l : PodRelayLabel} (hs : Inv cfg s) (hok : Drained s l)
    (h : step api cfg s l = some t) : Inv cfg t := by
  cases l <;> simp only [PodRelays.step] at h <;> (repeat' split at h) <;> cases h
  next hw => exact hs.setTransportOverrides _ hw hok
  next hw hne => exact hs.retire hw hok hne
  next hw _ => exact hs.closeRetired hw _
  next hw hgone => exact hs.endOverrides (hgone ▸ hw)
  next => refine hs.setTable ?_ ?_ <;> rw [RoutingTable.installEndpoints_snap] <;> rfl
  next => exact hs.setTable rfl rfl
  next hpass _ _ => exact hs.load hpass s.kick false
  next hpass _ _ => exact hs.load hpass false s.retry
  next hpass => exact hs.lock hpass
  next hpass _ _ hpl => exact hs.edit hpass hpl rfl
  next gone _ hpass _ =>
    have hgone : s.pass.gone = gone := by
      rw [hpass]
      rfl
    refine hs.closing ?_ ?_
    · rw [hgone]
    · intro id hin hout
      rw [hgone] at hin
      exact absurd hin hout
  next hpass _ => exact hs.closeGone hpass _
  next id port jobs ok hpass hnone _ =>
    refine (hs.listen id port).drained ?_ jobs ok
    rw [listen_frame, hpass]
    exact hnone
  next jobs _ hpass hnone _ =>
    refine hs.drained ?_ jobs false
    rw [hpass]
    exact hnone
  next ok hpass hnone =>
    refine hs.endPass ?_ (!ok)
    rw [hpass]
    exact hnone
  next => exact hs.frame s.kick s.retry _
  next hu => exact hs.tracked hu _
  next hu => exact hs.tracked hu _
  next => exact hs.frame s.kick s.retry _
  next => exact hs.frame s.kick s.retry _
  next hu => exact hs.tracked hu _
  next hu => exact hs.tracked hu _
  next => exact (hs.releaseConn _ _).frame _ _ _
  next => exact (hs.releaseConn _ _).frame _ _ _

/-- Between calls of `SetTransportOverrides` a relay serves a pod of the overrides of the last
one, or is closed with everything it held. -/
theorem relay_served_after_return {api : Netv1} {vmnet : Prefix}
    (h6 : uncheckedNetwork vmnet = true → ∀ p tr,
      (normalizeOverrides s.overrides).lookup p = some tr → tr.live ≠ vmnet.masked.ip)
    (hreach : (machine api (newPodRelays vmnet)).Reach Drained s) (hidle : s.writer.isIdle = true) :
    ∀ id r, s.heap.lookup id = some r →
      (r.closed = false → Serves (newPodRelays vmnet) (normalizeOverrides s.overrides) r) ∧
      (r.closed = true → r.listeners = ∅ ∧ r.conns ⊆ s.closedConns) := by
  have hinv : Inv (newPodRelays vmnet) s :=
    hreach.invariant (fun _ h => .init h) fun _ _ _ hi hok hst => hi.step hok hst
  have hidle := Writer.eq_idle hidle
  intro id r hr
  refine ⟨fun hopen => ?_, hinv.closed id r hr⟩
  have hlisted : s.Listed id r := by
    rcases hinv.held id r hr hopen with hl | hw
    · exact hl
    · rw [hidle] at hw
      cases hw
  have htransport := hinv.transport
  rw [current, hidle] at htransport
  rw [← htransport] at h6 ⊢
  exact serves_of_admitted h6 (hinv.admitted (by rw [hidle]; rfl) id r hr hlisted)

/-! ## A relay that outlives its pod -/

def labOverrides (live : Addr) : GoMap Addr VMPodTransport :=
  GoMap.insertAll ∅ [(.v4 0x0a2a0005, ⟨live, [80]⟩)]

def labRelays : PodRelays where
  table := newRoutingTable (defaultConfig .zero)
  writer := .idle
  relays := ∅
  heap := ∅
  nextRelay := 0
  pass := .idle
  kick := false
  retry := false
  conns := ∅
  closedConns := ∅
  overrides := ∅
  stores := 0

lemma started_labRelays : labRelays.Started := ⟨rfl, rfl, rfl, rfl, rfl, rfl⟩

def callSteps (overrides : GoMap Addr VMPodTransport) (gone : List Nat) : List PodRelayLabel :=
  .setTransportOverrides overrides :: .retire :: gone.map .closeRetired ++ [.endOverrides]

def servedSteps (live : Addr) : List PodRelayLabel :=
  callSteps (labOverrides live) [] ++
    [.load false, .lock, .edit (.v4 0x0a2a0005), .unlock, .openJob true, .endPass,
      .accept 0 0 80, .trackClient 0]

/-- The pod is dropped: a pass that the endpoint write kicked sees the new overrides first,
takes the relay out of the map and waits before it closes it. -/
def overtakenSteps : List PodRelayLabel :=
  servedSteps (.v4 0xc0a84002) ++
    [.delete ⟨"10.43.0.1", 80, .TCP⟩, .setTransportOverrides ∅, .load false, .lock, .unlock,
      .retire, .endOverrides]

def labVmnet : Prefix := .prefixFrom (.v4 0xc0a84000) 24

def labVmnet6 : Prefix := .prefixFrom (.v6 (0xfd00#128 <<< 112) "") 64

/-- A pass has the relay out of the map and not closed when the call returns; and the network
address of an IPv6 segment is relayed to. -/
theorem relay_open_after_return :
    (∃ s, (machine Netv1.standard (newPodRelays labVmnet)).Reach Machine.always s ∧
      s.writer.isIdle = true ∧ s.overrides.size = 0 ∧
      ∃ r, s.heap.lookup 0 = some r ∧ r.closed = false ∧ 80 ∈ r.listeners ∧
        .client 0 ∈ r.conns ∧ .client 0 ∉ s.closedConns) ∧
    (∃ s, (machine Netv1.standard (newPodRelays labVmnet6)).Reach Machine.always s ∧
      s.writer.isIdle = true ∧
      ∃ r, s.heap.lookup 0 = some r ∧ r.closed = false ∧ 80 ∈ r.listeners ∧
        r.live = labVmnet6.masked.ip ∧ (newPodRelays labVmnet6).gateway.isValid = true) := by
  constructor
  · have hrun : ((machine Netv1.standard (newPodRelays labVmnet)).run labRelays
        overtakenSteps).map (fun s => decide (s.writer.isIdle = true ∧ s.overrides.size = 0 ∧
          ∃ r ∈ s.heap.lookup 0, r.closed = false ∧ 80 ∈ r.listeners ∧ .client 0 ∈ r.conns ∧
            .client 0 ∉ s.closedConns)) = some true := by
      decide +kernel
    obtain ⟨s, hs, hfact⟩ := Option.map_eq_some_iff.mp hrun
    exact ⟨s, .of_run _ started_labRelays (Machine.meets_always _ _) hs, of_decide_eq_true hfact⟩
  · have hrun : ((machine Netv1.standard (newPodRelays labVmnet6)).run labRelays
        (servedSteps labVmnet6.ip)).map (fun s => decide (s.writer.isIdle = true ∧
          ∃ r ∈ s.heap.lookup 0, r.closed = false ∧ 80 ∈ r.listeners ∧
            r.live = labVmnet6.masked.ip ∧
            (newPodRelays labVmnet6).gateway.isValid = true)) = some true := by
      decide +kernel
    obtain ⟨s, hs, hfact⟩ := Option.map_eq_some_iff.mp hrun
    exact ⟨s, .of_run _ started_labRelays (Machine.meets_always _ _) hs, of_decide_eq_true hfact⟩

def keptSteps : List PodRelayLabel :=
  servedSteps (.v4 0xc0a84002) ++ callSteps (labOverrides (.v4 0xc0a84002)) []

theorem relay_served_after_return_kept : ∃ s,
    (machine Netv1.standard (newPodRelays labVmnet)).Reach Drained s ∧
      ∃ r, s.heap.lookup 0 = some r ∧ r.closed = false ∧ 80 ∈ r.listeners ∧
        Serves (newPodRelays labVmnet) (normalizeOverrides s.overrides) r := by
  have hrun : ((machine Netv1.standard (newPodRelays labVmnet)).run labRelays keptSteps).map
      (fun s => decide (s.writer.isIdle = true ∧
        ∃ r ∈ s.heap.lookup 0, r.closed = false ∧ 80 ∈ r.listeners)) = some true := by
    decide +kernel
  obtain ⟨s, hs, hfact⟩ := Option.map_eq_some_iff.mp hrun
  have hreach : (machine Netv1.standard (newPodRelays labVmnet)).Reach Drained s := by
    refine .of_run _ started_labRelays ?_ hs
    decide +kernel
  obtain ⟨hidle, r, hr, hopen, hport⟩ := of_decide_eq_true hfact
  have hserves := (relay_served_after_return (fun h => by cases h) hreach hidle 0 r hr).1 hopen
  exact ⟨s, hreach, r, hr, hopen, hport, hserves⟩

end PodRelays

end DarwinNet.Proxy
