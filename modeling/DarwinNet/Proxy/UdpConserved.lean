import DarwinNet.Proxy.UdpRelay

/-!
Accounts of the UDP relays. At any time a relay owes the budget the flows it still
counts and the slot of an admission that has reserved (`UdpRelay.owed`), and holds
the sockets of its flows, of its admission and of a `Close` in flight
(`UdpRelay.sockets`). Each move of one relay changes what it owes exactly as it
changes the budget (`RelayMoves.accounts`) and moves a socket from one place to one
other (`RelayMoves.places`); summed over the relays this is the invariant of whole
runs behind `udp_budget_conserved`. With the limits of `New` it bounds the sockets
that are open (`udp_sockets_within_limits`).
-/

namespace DarwinNet.Proxy

open Lib Netip

variable {sh sh' : UdpShared} {r r' : UdpRelay}

/-! ## What a relay owes -/

namespace Admission

def holding : Admission → Option AddrPort
  | locked c _ | reserved c _ => some c
  | _ => none

def slots (p : Addr → Bool) : Admission → Nat
  | reserved c _ => if p c.addr then 1 else 0
  | _ => 0

lemma slots_eq_zero {a : Admission} (h : a.holding = none) (p : Addr → Bool) : a.slots p = 0 := by
  cases a <;> first | rfl | cases h

lemma holding_eq_none_of_socket {a : Admission} (h : a.socket = none) : a.holding = none := by
  cases a <;> first | rfl | cases h

end Admission

def flowsFrom (p : Addr → Bool) (flows : GoMap AddrPort UdpFlow) : Nat :=
  GoMap.countBy (fun fl => p fl.srcIP) flows

def flowsWith (x : Nat) (flows : GoMap AddrPort UdpFlow) : Nat :=
  GoMap.countBy (fun fl => fl.upstream == x) flows

lemma flowsFrom_erase {flows : GoMap AddrPort UdpFlow} {k : AddrPort} {fl : UdpFlow}
    (h : flows.lookup k = some fl) (p : Addr → Bool) :
    flowsFrom p flows = flowsFrom p (flows.erase k) + if p fl.srcIP then 1 else 0 :=
  (GoMap.countBy_erase h).symm

lemma flowsWith_erase {flows : GoMap AddrPort UdpFlow} {k : AddrPort} {fl : UdpFlow}
    (h : flows.lookup k = some fl) (x : Nat) :
    flowsWith x flows = flowsWith x (flows.erase k) + if fl.upstream = x then 1 else 0 := by
  have := GoMap.countBy_erase h (p := fun fl => fl.upstream == x)
  simp only [beq_iff_eq] at this
  exact this.symm

namespace UdpRelay

/-- The flows the relay still counts: while `Close` drains, those not visited. -/
def counted (r : UdpRelay) : GoMap AddrPort UdpFlow :=
  match r.mu with
  | .closer rest => rest
  | _ => r.flows

def owed (r : UdpRelay) (p : Addr → Bool) : Nat := flowsFrom p r.counted + r.admission.slots p

def sockets (r : UdpRelay) (x : Nat) : Nat :=
  flowsWith x r.flows + (if r.admission.socket = some x then 1 else 0) + flowsWith x r.closing

/-- One relay: its counts are those of its flows, and its admission holds what it has reserved. -/
structure Consistent (r : UdpRelay) : Prop where
  perSource : GoMap.Counts r.perSource fun a => flowsFrom (fun src => src == a) r.counted
  size_le : GoMap.size r.flows ≤ maxUDPFlows
  perSource_le : ∀ a, GoMap.count r.perSource a ≤ r.perSourceCap
  /-- The dispatcher is the only one that inserts. -/
  absent : ∀ c, r.admission.client = some c → r.flows.lookup c = none
  locked : ∀ c, r.admission.holding = some c → r.mu = .dispatcher
  room : ∀ c, r.admission.holding = some c →
    GoMap.size r.flows < maxUDPFlows ∧ GoMap.count r.perSource c.addr < r.perSourceCap
  open_ : r.closed = false → r.closing = ∅
  draining : ∀ rest, r.mu = .closer rest → r.closed = true ∧ r.closing = ∅

end UdpRelay

/-! ## One step keeps a relay consistent -/

section Touch

variable {flows : GoMap AddrPort UdpFlow} {client k : AddrPort} {now : Int}

lemma countBy_touch {p : UdpFlow → Bool}
    (hp : ∀ fl : UdpFlow, p ⟨fl.upstream, fl.client, fl.srcIP, now⟩ = p fl) :
    GoMap.countBy p (touch flows client now) = GoMap.countBy p flows := by
  unfold touch
  split
  · rename_i fl hfl
    exact GoMap.countBy_insert_same hfl (hp fl)
  · rfl

@[simp] lemma flowsFrom_touch (p : Addr → Bool) :
    flowsFrom p (touch flows client now) = flowsFrom p flows := countBy_touch fun _ => rfl

@[simp] lemma flowsWith_touch (x : Nat) :
    flowsWith x (touch flows client now) = flowsWith x flows := countBy_touch fun _ => rfl

@[simp] lemma size_touch : GoMap.size (touch flows client now) = GoMap.size flows := by
  rw [← GoMap.countBy_true, ← GoMap.countBy_true]
  exact countBy_touch fun _ => rfl

lemma lookup_touch_of_none (h : flows.lookup k = none) :
    (touch flows client now).lookup k = none := by
  unfold touch
  split
  · rename_i fl hfl
    have hne : k ≠ client := fun he => by rw [he, hfl] at h; cases h
    rw [GoMap.lookup_insert_ite, if_neg hne, h]
  · exact h

end Touch

namespace UdpRelay

lemma counted_eq_flows (h : ∀ rest, r.mu ≠ .closer rest) : r.counted = r.flows := by
  unfold counted
  split
  · rename_i rest hmu
    exact absurd hmu (h rest)
  · rfl

lemma counted_closer {rest : GoMap AddrPort UdpFlow} (h : r.mu = .closer rest) :
    r.counted = rest := by
  simp [counted, h]

lemma counted_of_isFree (h : r.mu.isFree = true) : r.counted = r.flows := by
  refine counted_eq_flows fun rest hmu => ?_
  rw [hmu] at h
  cases h

lemma full_eq_false {srcIP : Addr} : r.full srcIP = false ↔
    GoMap.size r.flows < maxUDPFlows ∧ GoMap.count r.perSource srcIP < r.perSourceCap := by
  simp [full]

lemma flowsFrom_counted_touch (p : Addr → Bool) (client : AddrPort) (now : Int) :
    flowsFrom p ({ r with flows := touch r.flows client now } : UdpRelay).counted =
      flowsFrom p r.counted := by
  unfold counted
  cases r.mu <;> simp

lemma counted_setMu {m : RelayMu} (h : ∀ rest, r.mu ≠ .closer rest)
    (hm : ∀ rest, m ≠ .closer rest) : (r.setMu m).counted = r.counted := by
  rw [counted_eq_flows h]
  exact counted_eq_flows (r := r.setMu m) hm

lemma owed_goto (a : Admission) (p : Addr → Bool) :
    (r.goto a).owed p = flowsFrom p r.counted + a.slots p := rfl

lemma sockets_goto (a : Admission) (x : Nat) :
    (r.goto a).sockets x = flowsWith x r.flows + (if a.socket = some x then 1 else 0) +
      flowsWith x r.closing := rfl

lemma Consistent.holding_eq_none (hr : r.Consistent) (h : r.mu ≠ .dispatcher) :
    r.admission.holding = none := by
  cases hh : r.admission.holding with
  | none => rfl
  | some c => exact absurd (hr.locked c hh) h

lemma counts_decr {m : GoMap Addr Int} {c : GoMap AddrPort UdpFlow} {cap : Int}
    (c' : GoMap AddrPort UdpFlow) (src : Addr)
    (hm : GoMap.Counts m fun a => flowsFrom (fun src => src == a) c)
    (hle : ∀ a, GoMap.count m a ≤ cap)
    (hc : ∀ p, flowsFrom p c = flowsFrom p c' + if p src then 1 else 0) :
    (GoMap.Counts (GoMap.decr m src) fun a => flowsFrom (fun src => src == a) c') ∧
      ∀ a, GoMap.count (GoMap.decr m src) a ≤ cap := by
  have hm' := hm.decr (k := src) (g := fun a => flowsFrom (fun src => src == a) c')
    fun a => by simp [hc]
  refine ⟨hm', fun a => ?_⟩
  have ha := hle a
  rw [hm.count_eq, hc] at ha
  rw [hm'.count_eq]
  push_cast at ha
  split at ha <;> omega

lemma Consistent.insertFlow {client : AddrPort} {up : Nat} (hr : r.Consistent) (now : Int)
    (h : r.admission = .reserved client up) : (r.insertFlow client up now).Consistent := by
  have habsent : r.flows.lookup client = none := hr.absent client (by rw [h]; rfl)
  have hmu : r.mu = .dispatcher := hr.locked client (by rw [h]; rfl)
  obtain ⟨hsize, hsource⟩ := hr.room client (by rw [h]; rfl)
  have hcounted : r.counted = r.flows := counted_eq_flows fun rest => by simp [hmu]
  have hperSource := hr.perSource
  rw [hcounted] at hperSource
  have hcounts : GoMap.Counts (GoMap.incr r.perSource client.addr) fun a =>
      flowsFrom (fun src => src == a)
        (r.flows.insert client ⟨up, client, client.addr, now⟩) :=
    hperSource.incr fun a => by
      rw [flowsFrom, GoMap.countBy_insert habsent]
      simp [flowsFrom]
  refine ⟨hcounts, ?_, fun a => ?_, nofun, nofun, nofun, hr.open_, nofun⟩
  · show GoMap.size (r.flows.insert _ _) ≤ _
    rw [GoMap.size_insert habsent]
    exact hsize
  · have ha := hr.perSource_le a
    show GoMap.count (GoMap.incr r.perSource client.addr) a ≤ r.perSourceCap
    rw [GoMap.count, GoMap.incr, GoMap.lookup_insert_ite]
    split
    · exact Int.add_one_le_of_lt hsource
    · exact ha

lemma Consistent.reap {e : Int} {rest rest' : List AddrPort} {k : AddrPort} {fl : UdpFlow}
    (hr : r.Consistent) (hmu : r.mu = .sweeper e rest) (h : r.flows.lookup k = some fl) :
    (reapFlow sh (r.setMu (.sweeper e rest')) k fl).2.Consistent := by
  have hholding := hr.holding_eq_none (by simp [hmu])
  have hcounted : r.counted = r.flows := counted_eq_flows fun rest => by simp [hmu]
  have hperSource := hr.perSource
  rw [hcounted] at hperSource
  obtain ⟨hcounts, hle⟩ := counts_decr (r.flows.erase k) fl.srcIP hperSource hr.perSource_le
    (flowsFrom_erase h)
  refine ⟨hcounts, ?_, hle, fun c hc => ?_, fun c hc => ?_, fun c hc => ?_, hr.open_, nofun⟩
  · exact (GoMap.size_erase_le r.flows k).trans hr.size_le
  · show (r.flows.erase k).lookup c = none
    rw [GoMap.lookup_erase_ite, hr.absent c hc, ite_self]
  · cases hholding.symm.trans hc
  · cases hholding.symm.trans hc

lemma Consistent.drain {rest : GoMap AddrPort UdpFlow} {k : AddrPort} {fl : UdpFlow}
    (hr : r.Consistent) (hmu : r.mu = .closer rest) (h : rest.lookup k = some fl) :
    (releaseFlowLocked sh (r.setMu (.closer (rest.erase k))) fl).2.Consistent := by
  have hholding := hr.holding_eq_none (by simp [hmu])
  have hperSource := hr.perSource
  rw [counted_closer hmu] at hperSource
  obtain ⟨hcounts, hle⟩ := counts_decr (rest.erase k) fl.srcIP hperSource hr.perSource_le
    (flowsFrom_erase h)
  exact ⟨hcounts, hr.size_le, hle, hr.absent, fun c hc => (by cases hholding.symm.trans hc),
    fun c hc => (by cases hholding.symm.trans hc), hr.open_, fun _ _ => hr.draining rest hmu⟩

lemma Consistent.goto {a : Admission} (hr : r.Consistent) (ha : a.holding = none)
    (habsent : ∀ c, a.client = some c → r.flows.lookup c = none) : (r.goto a).Consistent :=
  { hr with
    absent := habsent
    locked := fun c hc => by cases ha.symm.trans hc
    room := fun c hc => by cases ha.symm.trans hc }

lemma Consistent.move {m : RelayMu} {a : Admission} (hr : r.Consistent)
    (h : ∀ rest, r.mu ≠ .closer rest) (hm : ∀ rest, m ≠ .closer rest)
    (habsent : ∀ c, a.client = some c → r.flows.lookup c = none)
    (hlocked : ∀ c, a.holding = some c → m = .dispatcher)
    (hroom : ∀ c, a.holding = some c → r.full c.addr = false) : ((r.setMu m).goto a).Consistent :=
  { hr with
    perSource := by
      have := hr.perSource
      rwa [← counted_setMu h hm] at this
    absent := habsent
    locked := hlocked
    room := fun c hc => full_eq_false.mp (hroom c hc)
    draining := fun rest hrest => absurd hrest (hm rest) }

end UdpRelay

open UdpRelay in
lemma RelayMoves.consistent (h : RelayMoves sh r sh' r') (hr : r.Consistent) : r'.Consistent := by
  cases h with
  | stays => exact hr
  | touches client now =>
    exact { hr with
      perSource := by simpa only [flowsFrom_counted_touch] using hr.perSource
      size_le := by simpa using hr.size_le
      absent := fun c hc => lookup_touch_of_none (hr.absent c hc)
      room := fun c hc => by simpa using hr.room c hc }
  | goes _ hto habsent =>
    exact hr.goto (Admission.holding_eq_none_of_socket hto) fun c hc =>
      (habsent c hc).elim (hr.absent c) id
  | dials h =>
    refine hr.goto rfl fun c hc => hr.absent c ?_
    rw [h]
    exact hc
  | locks hmu h hroom =>
    refine hr.move (by simp [hmu]) (by simp) (fun c hc => hr.absent c ?_) (fun _ _ => rfl) ?_
    · rw [h]
      exact hc
    · rintro c ⟨⟩
      exact hroom
  | rejects hmu h =>
    refine hr.move (fun rest hrest => ?_) (by simp) (by simp [Admission.client])
      (by simp [Admission.holding]) (by simp [Admission.holding])
    obtain hmu | ⟨client, hc⟩ := hmu
    · cases hmu.symm.trans hrest
    · cases (hr.locked client (by rw [hc]; rfl)).symm.trans hrest
  | reserves h =>
    exact { hr with
      absent := fun c hc => hr.absent c (by rw [h]; exact hc)
      locked := fun c hc => hr.locked c (by rw [h]; exact hc)
      room := fun c hc => hr.room c (by rw [h]; exact hc) }
  | inserts now h => exact hr.insertFlow now h
  | discards => exact hr.goto rfl (by simp [Admission.client])
  | @sweeps m hfrom hto =>
    have hholding : r.admission.holding = none := hr.holding_eq_none <| by
      obtain hmu | ⟨e, rest, hmu⟩ := hfrom <;> simp [hmu]
    show ((r.setMu m).goto r.admission).Consistent
    refine hr.move (fun rest hrest => ?_) (fun rest hm => ?_) hr.absent
      (by simp [hholding]) (by simp [hholding])
    · obtain hmu | ⟨e, rest, hmu⟩ := hfrom <;> cases hmu.symm.trans hrest
    · obtain hto | ⟨e, rest, hto⟩ := hto <;> cases hto.symm.trans hm
  | reaps hmu h => exact hr.reap hmu h
  | closes hmu h =>
    have hholding := hr.holding_eq_none (by simp [hmu])
    have hcounted : r.counted = r.flows := counted_eq_flows fun rest => by simp [hmu]
    exact { hr with
      perSource := by
        have := hr.perSource
        rwa [hcounted] at this
      locked := fun c hc => by cases hholding.symm.trans hc
      open_ := fun hopen => by cases hopen
      draining := fun _ _ => ⟨rfl, hr.open_ h⟩ }
  | drains hmu h => exact hr.drain hmu h
  | drained hmu =>
    have hholding := hr.holding_eq_none (by simp [hmu])
    refine ⟨?_, Nat.zero_le _, hr.perSource_le, fun _ _ => rfl, fun c hc => ?_, fun c hc => ?_,
      fun hopen => ?_, fun rest hrest => by cases hrest⟩
    · have := hr.perSource
      rwa [counted_closer hmu] at this
    · cases hholding.symm.trans hc
    · cases hholding.symm.trans hc
    · cases (hr.draining ∅ hmu).1.symm.trans hopen
  | shuts h =>
    -- `closing` has an entry, so the relay is closed and no longer drains.
    have hne : r.closing ≠ ∅ := fun he => by rw [he] at h; cases h
    exact { hr with
      open_ := fun hopen => absurd (hr.open_ hopen) hne
      draining := fun rest hmu => absurd (hr.draining rest hmu).2 hne }

/-! ## One step keeps the accounts -/

open UdpRelay in
lemma RelayMoves.accounts {others : (Addr → Bool) → Nat} (h : RelayMoves sh r sh' r')
    (hr : r.Consistent) (hb : sh.budget.Accounts fun p => others p + r.owed p) :
    sh'.budget.Accounts fun p => others p + r'.owed p := by
  -- Most moves leave the budget and what the relay owes.
  have quiet : (∀ p, r'.owed p = r.owed p) → sh'.budget = sh.budget →
      sh'.budget.Accounts fun p => others p + r'.owed p := by
    intro howed hbudget
    rw [hbudget]
    simpa only [howed] using hb
  have hslots : r.mu ≠ .dispatcher → ∀ p, r.admission.slots p = 0 :=
    fun hmu => Admission.slots_eq_zero (hr.holding_eq_none hmu)
  cases h with
  | stays => exact hb
  | touches client now =>
    exact quiet (fun p => by simp [owed, flowsFrom_counted_touch]) rfl
  | goes hfrom hto =>
    have hslots' := Admission.slots_eq_zero (Admission.holding_eq_none_of_socket hfrom)
    have hslots'' := Admission.slots_eq_zero (Admission.holding_eq_none_of_socket hto)
    exact quiet (fun p => by rw [owed_goto, owed, hslots', hslots'']) rfl
  | dials h => exact quiet (fun p => by simp [owed, counted, goto, h, Admission.slots]) rfl
  | locks hmu h =>
    refine quiet (fun p => ?_) rfl
    simp [owed, counted, goto, UdpRelay.setMu, hmu, h, Admission.slots]
  | rejects hmu h =>
    refine quiet (fun p => ?_) rfl
    obtain hmu | ⟨client, hc⟩ := hmu
    · have hslots' := hslots (by simp [hmu]) p
      rw [owed_goto, owed, hslots', counted_setMu (fun rest => by simp [hmu]) (by simp)]
      rfl
    · have hmu := hr.locked client (by rw [hc]; rfl)
      simp [owed, counted, goto, UdpRelay.setMu, hmu, hc, Admission.slots]
  | reserves h hbudget =>
    refine hb.reserve hbudget fun p => ?_
    simp [owed, counted, goto, h, Admission.slots, Nat.add_assoc]
  | inserts now h =>
    refine quiet (fun p => ?_) rfl
    have hmu := hr.locked _ (by rw [h]; rfl)
    have habsent := hr.absent _ (by rw [h]; rfl)
    simp [owed, counted, insertFlow, hmu, h, Admission.slots, flowsFrom,
      GoMap.countBy_insert habsent]
  | discards h => exact quiet (fun p => by simp [owed, counted, goto, h, Admission.slots]) rfl
  | sweeps hfrom hto =>
    refine quiet (fun p => ?_) rfl
    obtain hmu | ⟨e, rest, hmu⟩ := hfrom <;> obtain rfl | ⟨e', rest', rfl⟩ := hto <;>
      simp [owed, counted, UdpRelay.setMu, hmu]
  | reaps hmu h =>
    refine hb.release fun p => ?_
    have hp := flowsFrom_erase h p
    simp only [owed, counted, hmu, reapFlow, releaseFlowLocked, UdpRelay.setMu]
    omega
  | closes hmu => exact quiet (fun p => by simp [owed, counted, UdpRelay.setMu, hmu]) rfl
  | drains hmu h =>
    refine hb.release fun p => ?_
    have hp := flowsFrom_erase h p
    simp only [owed, counted, hmu, releaseFlowLocked, UdpRelay.setMu]
    omega
  | drained hmu =>
    exact quiet (fun p => by simp [owed, counted, UdpRelay.setMu, hmu, flowsFrom]) rfl
  | shuts => exact quiet (fun p => rfl) rfl

/-- Every dialed socket has exactly one place, no other has any. -/
def UdpShared.Places (sh : UdpShared) (held : Nat → Nat) : Prop :=
  ∀ x, held x + sh.closed.count x = if x < sh.dialed then 1 else 0

lemma UdpShared.Places.dialSocket {held held' : Nat → Nat} (h : sh.Places held)
    (hheld : ∀ x, held' x = held x + if sh.dialed = x then 1 else 0) :
    sh.dialSocket.Places held' := by
  intro x
  have hx := h x
  show held' x + sh.closed.count x = if x < sh.dialed + 1 then 1 else 0
  rw [hheld]
  split_ifs at hx ⊢ <;> omega

lemma UdpShared.Places.closeSocket {held held' : Nat → Nat} {up : Nat} (h : sh.Places held)
    (hheld : ∀ x, held x = held' x + if up = x then 1 else 0) :
    (sh.closeSocket up).Places held' := by
  intro x
  have hx := h x
  rw [hheld] at hx
  show held' x + (up :: sh.closed).count x = if x < sh.dialed then 1 else 0
  rw [← hx, List.count_cons]
  simp only [beq_iff_eq]
  omega

open UdpRelay in
lemma RelayMoves.places {others : Nat → Nat} (h : RelayMoves sh r sh' r')
    (hr : r.Consistent) (hs : sh.Places fun x => others x + r.sockets x) :
    sh'.Places fun x => others x + r'.sockets x := by
  have quiet : (∀ x, r'.sockets x = r.sockets x) → sh'.closed = sh.closed →
      sh'.dialed = sh.dialed → sh'.Places fun x => others x + r'.sockets x := by
    intro hsockets hclosed hdialed x
    simpa only [hsockets, hclosed, hdialed] using hs x
  cases h with
  | stays => exact hs
  | touches client now => exact quiet (fun x => by simp [sockets]) rfl rfl
  | goes hfrom hto =>
    exact quiet (fun x => by rw [sockets_goto, sockets, hfrom, hto]) rfl rfl
  | dials h =>
    refine hs.dialSocket fun x => ?_
    rw [sockets_goto, sockets, h]
    simp only [Admission.socket, Option.some.injEq, reduceCtorEq, if_false]
    omega
  | locks hmu h =>
    exact quiet (fun x => by rw [sockets_goto, sockets, h]; rfl) rfl rfl
  | rejects hmu h =>
    exact quiet (fun x => by rw [sockets_goto, sockets, h]; rfl) rfl rfl
  | reserves h => exact quiet (fun x => by rw [sockets_goto, sockets, h]; rfl) rfl rfl
  | inserts now h =>
    refine quiet (fun x => ?_) rfl rfl
    have habsent := hr.absent _ (by rw [h]; rfl)
    simp only [sockets, insertFlow, h, flowsWith, GoMap.countBy_insert habsent, Admission.socket,
      beq_iff_eq, Option.some.injEq, reduceCtorEq, if_false]
    omega
  | discards h =>
    refine hs.closeSocket fun x => ?_
    rw [sockets_goto, sockets, h]
    simp only [Admission.socket, Option.some.injEq, reduceCtorEq, if_false]
    omega
  | sweeps => exact quiet (fun x => rfl) rfl rfl
  | reaps hmu h =>
    refine UdpShared.Places.closeSocket hs fun x => ?_
    have hx := flowsWith_erase h x
    show others x + r.sockets x = others x + (flowsWith x (r.flows.erase _) +
      (if r.admission.socket = some x then 1 else 0) + flowsWith x r.closing) + _
    rw [sockets]
    omega
  | closes => exact quiet (fun x => rfl) rfl rfl
  | drains => exact quiet (fun x => rfl) rfl rfl
  | drained hmu =>
    refine quiet (fun x => ?_) rfl rfl
    simp only [sockets, UdpRelay.setMu, (hr.draining ∅ hmu).2, flowsWith, GoMap.countBy_empty]
    omega
  | shuts h =>
    refine hs.closeSocket fun x => ?_
    have hx := flowsWith_erase h x
    simp only [sockets]
    omega

namespace UdpRelays

variable {ι : Type} [Fintype ι] {s t : UdpRelays ι}

/-- No relay's `mu` is held; the budget's lock is free between any two steps. -/
def Unlocked (s : UdpRelays ι) : Prop := ∀ i, (s.relays i).mu.isFree = true

instance decidableUnlocked (s : UdpRelays ι) : Decidable s.Unlocked :=
  inferInstanceAs (Decidable (∀ i, (s.relays i).mu.isFree = true))

def flowsOf (s : UdpRelays ι) (a : Addr) : Nat :=
  ∑ i, flowsFrom (fun src => src == a) (s.relays i).flows

/-- Every counter is that of the flow tables, and within its cap. -/
structure Conserved (s : UdpRelays ι) : Prop where
  total : s.shared.budget.total = ∑ i, GoMap.size (s.relays i).flows
  bySource : GoMap.Counts s.shared.budget.bySource s.flowsOf
  perSource : ∀ i, GoMap.Counts (s.relays i).perSource fun a =>
    flowsFrom (fun src => src == a) (s.relays i).flows
  total_le : s.shared.budget.total ≤ s.shared.budget.maxTotal
  bySource_le : ∀ a, GoMap.count s.shared.budget.bySource a ≤ s.shared.budget.maxPerSource
  size_le : ∀ i, GoMap.size (s.relays i).flows ≤ maxUDPFlows
  perSource_le : ∀ i a, GoMap.count (s.relays i).perSource a ≤ (s.relays i).perSourceCap

def inTables (s : UdpRelays ι) (x : Nat) : Nat := ∑ i, flowsWith x (s.relays i).flows

def inAdmissions (s : UdpRelays ι) (x : Nat) : Nat :=
  ∑ i, if (s.relays i).admission.socket = some x then 1 else 0

def inCloses (s : UdpRelays ι) (x : Nat) : Nat := ∑ i, flowsWith x (s.relays i).closing

/-- The budget accounts for what the relays owe, and each socket has one place. -/
structure Inv (s : UdpRelays ι) : Prop where
  consistent : ∀ i, (s.relays i).Consistent
  accounts : s.shared.budget.Accounts fun p => ∑ i, (s.relays i).owed p
  places : s.shared.Places fun x => ∑ i, (s.relays i).sockets x

lemma Starts.inv (h : s.Starts) : s.Inv := by
  obtain ⟨⟨maxTotal, maxPerSource, htotal, hshared⟩, hrelays⟩ := h
  have hnew : ∀ i, (s.relays i).Consistent ∧ (∀ p, (s.relays i).owed p = 0) ∧
      ∀ x, (s.relays i).sockets x = 0 := by
    intro i
    obtain ⟨idleTimeout, perSourceCap, hcap, hi⟩ := hrelays i
    rw [hi]
    exact ⟨⟨GoMap.counts_empty, Nat.zero_le _, fun _ => hcap, nofun, nofun, nofun, fun _ => rfl,
      nofun⟩, fun _ => rfl, fun _ => rfl⟩
  refine ⟨fun i => (hnew i).1, ?_, fun x => ?_⟩
  · simp only [fun i => (hnew i).2.1, Finset.sum_const_zero, hshared]
    exact UdpBudget.accounts_newUDPBudget htotal maxPerSource
  · simp [fun i => (hnew i).2.2, hshared]

lemma Inv.owed_eq (hs : s.Inv) {i : ι} (hfree : (s.relays i).mu.isFree = true)
    (p : Addr → Bool) : (s.relays i).owed p = flowsFrom p (s.relays i).flows := by
  have hmu : (s.relays i).mu ≠ .dispatcher := by
    intro hmu
    rw [hmu] at hfree
    cases hfree
  have hslots := Admission.slots_eq_zero ((hs.consistent i).holding_eq_none hmu) p
  rw [UdpRelay.owed, hslots, UdpRelay.counted_of_isFree hfree, Nat.add_zero]

lemma Inv.conserved (hs : s.Inv) (hfree : s.Unlocked) : s.Conserved := by
  have haccounts := hs.accounts
  simp only [fun i p => hs.owed_eq (hfree i) p] at haccounts
  refine ⟨?_, haccounts.bySource, fun i => ?_, haccounts.total_le, haccounts.bySource_le,
    fun i => (hs.consistent i).size_le, fun i => (hs.consistent i).perSource_le⟩
  · simpa only [flowsFrom, GoMap.countBy_true] using haccounts.total
  · have := (hs.consistent i).perSource
    rwa [UdpRelay.counted_of_isFree (hfree i)] at this

variable [DecidableEq ι]

/-- A step of one relay moves sockets and budget together. -/
lemma Inv.step {a : ι × RelayLabel} (hs : s.Inv) (h : s.step a = some t) : t.Inv := by
  obtain ⟨⟨sh, r⟩, hstep, rfl⟩ := Option.map_eq_some_iff.mp h
  have hmoves : RelayMoves s.shared (s.relays a.1) sh r := .of_step hstep
  have hr := hs.consistent a.1
  have haccounts := hs.accounts
  have hplaces := hs.places
  simp only [fun p => sum_eq_erase_add (fun r : UdpRelay => r.owed p) s.relays a.1] at haccounts
  simp only [fun x => sum_eq_erase_add (fun r : UdpRelay => r.sockets x) s.relays a.1] at hplaces
  refine ⟨fun i => ?_, ?_, ?_⟩
  · by_cases hi : i = a.1
    · subst hi
      simpa using hmoves.consistent hr
    · simpa [hi] using hs.consistent i
  · simp only [fun p => sum_update (fun r : UdpRelay => r.owed p) s.relays a.1 r]
    exact hmoves.accounts hr haccounts
  · simp only [fun x => sum_update (fun r : UdpRelay => r.sockets x) s.relays a.1 r]
    exact hmoves.places hr hplaces

lemma inv_reach (h : (udpMachine ι).Reach Machine.always s) : s.Inv :=
  h.invariant (I := Inv) (fun _ => Starts.inv) fun _ _ _ hs _ hstep => hs.step hstep

end UdpRelays

/-- While no lock is held the budget counts the flows in the tables; and every socket ever dialed is
in one place: a table, an admission, a `Close`, or closed. -/
theorem udp_budget_conserved {ι : Type} [Fintype ι] [DecidableEq ι] {s : UdpRelays ι}
    (h : (udpMachine ι).Reach Machine.always s) :
    (s.Unlocked → s.Conserved) ∧ ∀ x < s.shared.dialed,
        s.inTables x + s.inAdmissions x + s.inCloses x + s.shared.closed.count x = 1 := by
  have hs := UdpRelays.inv_reach h
  refine ⟨hs.conserved, fun x hx => ?_⟩
  have hplaces := hs.places x
  rw [if_pos hx] at hplaces
  simpa only [UdpRelays.inTables, UdpRelays.inAdmissions, UdpRelays.inCloses,
    UdpRelay.sockets, Finset.sum_add_distrib] using hplaces

def twoRelays : UdpRelays (Fin 2) :=
  ⟨⟨newUDPBudget 3 1, 0, []⟩, fun _ => newUDPRelay 10 2⟩

def udpClient (host : BitVec 32) : AddrPort := ⟨.v4 host, 5000⟩

def admitLabels (client : AddrPort) (now : Int) : List RelayLabel :=
  [.lookup client now, .peek, .dial .opened, .relock, .reserve, .insert now]

def oneSourceTwice : List (Fin 2 × RelayLabel) :=
  [(0, .lookup (udpClient 1) 0), (1, .lookup (udpClient 1) 0), (0, .peek), (1, .peek),
    (0, .dial .opened), (1, .dial .opened), (0, .relock), (1, .relock), (0, .reserve),
    (1, .reserve), (0, .insert 0), (1, .closeRejected)]

def sweepAndClose : List (Fin 2 × RelayLabel) :=
  [(0, .sweepLock 12), (1, .closeLock), (0, .sweepVisit (udpClient 3)),
    (1, .drainVisit (udpClient 2)), (0, .sweepVisit (udpClient 1)), (1, .closeUnlock),
    (0, .sweepUnlock)]

def sharedRun : List (Fin 2 × RelayLabel) :=
  oneSourceTwice ++ [(1, .lookup (udpClient 2) 1), (1, .peek), (1, .dial .failed)] ++
    (admitLabels (udpClient 2) 2).map (Prod.mk 1) ++
    (admitLabels (udpClient 3) 8).map (Prod.mk 0) ++ sweepAndClose

theorem udp_budget_conserved_sharedRun :
    ∃ s, (udpMachine (Fin 2)).run twoRelays sharedRun = some s ∧ s.Unlocked ∧ s.Conserved ∧
      s.shared.budget.total = 1 ∧ s.shared.dialed = 4 ∧ s.shared.closed = [0, 1] ∧
      s.inTables 3 = 1 ∧
      s.inTables 2 + s.inAdmissions 2 + s.inCloses 2 + s.shared.closed.count 2 = 1 := by
  refine Machine.exists_run_of (P := fun s => s.Unlocked ∧ s.shared.budget.total = 1 ∧
    s.shared.dialed = 4 ∧ s.shared.closed = [0, 1] ∧ s.inTables 3 = 1)
    ⟨⟨3, 1, by decide, rfl⟩, fun _ => ⟨10, 2, by decide, rfl⟩⟩ (Machine.meets_always _ _)
    (by decide) ?_
  rintro s hreach ⟨hfree, htotal, hdialed, hclosed, htable⟩
  obtain ⟨hconserved, hplaces⟩ := udp_budget_conserved hreach
  exact ⟨hfree, hconserved hfree, htotal, hdialed, hclosed, htable,
    hplaces 2 (by rw [hdialed]; decide)⟩

/-! ## The limits of a proxy -/

lemma RelayMoves.caps (h : RelayMoves sh r sh' r') : sh'.budget.maxTotal = sh.budget.maxTotal ∧
      sh'.budget.maxPerSource = sh.budget.maxPerSource := by
  cases h with
  | reserves h hb =>
    unfold UdpBudget.reserve at hb
    split at hb <;> cases hb
    exact ⟨rfl, rfl⟩
  | _ => exact ⟨rfl, rfl⟩

namespace UdpRelays

variable {ι : Type} [Fintype ι] {s : UdpRelays ι}

/-- The upstream sockets that are not closed. -/
def openSockets (s : UdpRelays ι) : Finset Nat :=
  (Finset.range s.shared.dialed).filter (· ∉ s.shared.closed)

lemma Inv.card_openSockets_le (hs : s.Inv) :
    s.openSockets.card ≤ ∑ i, (GoMap.size (s.relays i).flows + 1 +
      GoMap.size (s.relays i).closing) := by
  have hone : ∀ x ∈ s.openSockets, ∑ i, (s.relays i).sockets x = 1 := by
    intro x hx
    obtain ⟨hlt, hopen⟩ := Finset.mem_filter.mp hx
    have hplace := hs.places x
    rwa [if_pos (Finset.mem_range.mp hlt), List.count_eq_zero_of_not_mem hopen] at hplace
  have hrelay : ∀ i, ∑ x ∈ Finset.range s.shared.dialed, (s.relays i).sockets x ≤
      GoMap.size (s.relays i).flows + 1 + GoMap.size (s.relays i).closing := by
    intro i
    simp only [UdpRelay.sockets, Finset.sum_add_distrib]
    refine Nat.add_le_add (Nat.add_le_add (GoMap.sum_countBy_le UdpFlow.upstream _ _) ?_)
      (GoMap.sum_countBy_le UdpFlow.upstream _ _)
    cases (s.relays i).admission.socket with
    | none => simp
    | some y =>
      simp only [Option.some.injEq, Finset.sum_ite_eq]
      split <;> simp
  calc s.openSockets.card = ∑ x ∈ s.openSockets, ∑ i, (s.relays i).sockets x :=
        (Finset.card_eq_sum_ones _).trans (Finset.sum_congr rfl hone).symm
    _ ≤ ∑ x ∈ Finset.range s.shared.dialed, ∑ i, (s.relays i).sockets x :=
        Finset.sum_le_sum_of_subset (Finset.filter_subset _ _)
    _ = ∑ i, ∑ x ∈ Finset.range s.shared.dialed, (s.relays i).sockets x := Finset.sum_comm
    _ ≤ _ := Finset.sum_le_sum fun i _ => hrelay i

lemma proxy_reach [DecidableEq ι] {rlimitCur maxFilesPerProc : Option UInt64} {opts : List Int}
    {idleTimeout : Int} (h : (proxyUdpMachine ι rlimitCur maxFilesPerProc opts idleTimeout).Reach
      Machine.always s) :
    s.Inv ∧ s.shared.budget.maxTotal = flowLimit rlimitCur maxFilesPerProc opts ∧
      s.shared.budget.maxPerSource =
        udpPerSourceGlobalCap (flowLimit rlimitCur maxFilesPerProc opts) := by
  refine h.invariant (I := fun s => s.Inv ∧ s.shared.budget.maxTotal = _ ∧
    s.shared.budget.maxPerSource = _) ?_ ?_
  · rintro _ rfl
    refine ⟨Starts.inv ⟨⟨_, _, flowLimit_nonneg rlimitCur maxFilesPerProc opts,
      congrArg (UdpShared.mk · 0 []) (newProxyBudget_eq ..)⟩,
      fun _ => ⟨idleTimeout, maxUDPFlowsPerSource, by decide, rfl⟩⟩, ?_⟩
    simp only [newProxyRelays, newProxyBudget_eq, newUDPBudget, udpPerSourceGlobalCap]
    refine ⟨trivial, if_neg ?_⟩
    split <;> omega
  · rintro s a t ⟨hs, htotal, hsource⟩ - hstep
    obtain ⟨u, hu, rfl⟩ := Option.map_eq_some_iff.mp hstep
    have hcaps := (RelayMoves.of_step hu).caps
    exact ⟨hs.step hstep, hcaps.1.trans htotal, hcaps.2.trans hsource⟩

end UdpRelays

/-- With the limits of `New`, a source has no more flows than its cap and the sockets open are
within the limit, but for the one each relay may be dialing and those a `Close` has yet to close. -/
theorem udp_sockets_within_limits {ι : Type} [Fintype ι] [DecidableEq ι]
    (rlimitCur maxFilesPerProc : Option UInt64) (opts : List Int) (idleTimeout : Int)
    {s : UdpRelays ι} (h : (proxyUdpMachine ι rlimitCur maxFilesPerProc opts idleTimeout).Reach
      Machine.always s) (hfree : s.Unlocked) :
    (∀ a, (s.flowsOf a : Int) ≤ udpPerSourceGlobalCap (flowLimit rlimitCur maxFilesPerProc opts)) ∧
    (s.openSockets.card : Int) ≤ flowLimit rlimitCur maxFilesPerProc opts + Fintype.card ι +
      ∑ i, GoMap.size (s.relays i).closing := by
  obtain ⟨hs, htotal, hsource⟩ := UdpRelays.proxy_reach h
  have hconserved := hs.conserved hfree
  constructor
  · intro a
    rw [← hsource, ← hconserved.bySource.count_eq]
    exact hconserved.bySource_le a
  · have hopen := hs.card_openSockets_le
    have hlive := hconserved.total ▸ hconserved.total_le
    rw [htotal] at hlive
    rw [Finset.sum_add_distrib, Finset.sum_add_distrib, ← Finset.card_eq_sum_ones,
      Finset.card_univ] at hopen
    omega

theorem udp_sockets_within_limits_two :
    ∃ s, (proxyUdpMachine (Fin 2) none none [0, 3] 10).run (newProxyRelays none none [0, 3] 10)
        ((admitLabels (udpClient 1) 2).map (Prod.mk 1)) = some s ∧ s.openSockets = {0} ∧
      (s.openSockets.card : Int) ≤ 3 + 2 + ∑ i, GoMap.size (s.relays i).closing := by
  refine Machine.exists_run_of (P := fun s => s.Unlocked ∧ s.openSockets = {0}) rfl
    (Machine.meets_always _ _) (by decide) ?_
  rintro s hreach ⟨hfree, hopen⟩
  exact ⟨hopen, (udp_sockets_within_limits none none [0, 3] 10 hreach hfree).2⟩

end DarwinNet.Proxy
