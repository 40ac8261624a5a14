import DarwinNet.Proxy.UdpConserved

/-!
The readers of the UDP relays (`udprelay.go`: `readUpstream`, `dispatch`). A flow's reader is
a goroutine of its own that ends at the first error, of a `Read` on the flow's upstream socket
or of a write to the VIP socket, and takes nothing out of the flow table. Whether a call on a
socket fails is a choice of the environment, while the socket is open too.

A reader that ends at an error of an open socket leaves its flow behind, and every further
datagram of the client keeps it from being swept (`flow_without_reader`). Where calls fail only
on closed sockets, every flow in a table has its reader (`flows_have_readers`): a flow leaves its
table before its socket is closed, and the table is emptied before the VIP socket is.
-/

namespace DarwinNet.Proxy

open Lib Netip

/-! ## Readers -/

inductive ReaderPc
  | reading
  | writing
  | stamping
  | failed
  | returned
  deriving DecidableEq, Repr

def ReaderPc.running : ReaderPc → Bool
  | reading | writing | stamping => true
  | failed | returned => false

structure Reader (ι : Type) where
  relay : ι
  client : AddrPort
  pc : ReaderPc

structure UdpReaders (ι : Type) where
  node : UdpRelays ι
  readers : Nat → Option (Reader ι)
  vipClosed : ι → Bool

/-- The steps of the relays, their readers and `Close`. `ok` is what the environment answers
to a call on a socket. -/
inductive ReaderLabel (ι : Type)
  | relay (i : ι) (l : RelayLabel)
  /-- The dispatcher forwards a datagram; it logs an error and goes on. -/
  | forward (i : ι) (ok : Bool)
  | read (up : Nat) (ok : Bool)
  | write (up : Nat) (ok : Bool)
  | stamp (up : Nat) (now : Int)
  | return_ (up : Nat)
  | closeConn (i : ι)

/-- The replies of `UdpRelay` are the stamps of the readers here. -/
def RelayLabel.isReply : RelayLabel → Bool
  | .reply _ _ => true
  | _ => false

def RelayMu.isCloser : RelayMu → Bool
  | .closer _ => true
  | _ => false

namespace UdpReaders

variable {ι : Type} [DecidableEq ι]

/-- The end of `upstreamFor` starts the flow's reader. -/
def startReader (s : UdpReaders ι) (i : ι) : RelayLabel → Nat → Option (Reader ι)
  | .insert _ =>
    match (s.node.relays i).admission with
    | .reserved client up => Function.update s.readers up (some ⟨i, client, .reading⟩)
    | _ => s.readers
  | _ => s.readers

def setPc (s : UdpReaders ι) (up : Nat) (rd : Reader ι) (pc : ReaderPc) : UdpReaders ι :=
  { s with readers := Function.update s.readers up (some { rd with pc }) }

/-- `touch` through the reader's flow, which the table may no longer have. -/
def stampFlow (s : UdpReaders ι) (up : Nat) (rd : Reader ι) (now : Int) : UdpRelays ι :=
  let r := s.node.relays rd.relay
  match r.flows.lookup rd.client with
  | none => s.node
  | some fl =>
    if fl.upstream = up then
      ⟨s.node.shared, Function.update s.node.relays rd.relay
        { r with flows := touch r.flows rd.client now }⟩
    else s.node

def readerStep (s : UdpReaders ι) (up : Nat) (f : Reader ι → Option (UdpReaders ι)) :
    Option (UdpReaders ι) :=
  (s.readers up).bind f

def step (s : UdpReaders ι) : ReaderLabel ι → Option (UdpReaders ι)
  | .relay i l =>
    if l.isReply then none
    else (s.node.step (i, l)).map fun node => { s with node, readers := s.startReader i l }
  | .forward _ _ => some s
  | .read up ok => s.readerStep up fun rd =>
    match rd.pc, ok with
    | .reading, true =>
      if up ∈ s.node.shared.closed then none else some (s.setPc up rd .writing)
    | .reading, false => some (s.setPc up rd .failed)
    | _, _ => none
  | .write up ok => s.readerStep up fun rd =>
    match rd.pc, ok with
    | .writing, true => if s.vipClosed rd.relay then none else some (s.setPc up rd .stamping)
    | .writing, false => some (s.setPc up rd .failed)
    | _, _ => none
  | .stamp up now => s.readerStep up fun rd =>
    match rd.pc with
    | .stamping => some { s.setPc up rd .reading with node := s.stampFlow up rd now }
    | _ => none
  | .return_ up => s.readerStep up fun rd =>
    match rd.pc with
    | .failed => some (s.setPc up rd .returned)
    | _ => none
  | .closeConn i =>
    if (s.node.relays i).closed && !(s.node.relays i).mu.isCloser then
      some { s with vipClosed := Function.update s.vipClosed i true }
    else none

def Settled (s : UdpReaders ι) : Prop := ∀ up rd, s.readers up = some rd → rd.pc ≠ .failed

end UdpReaders

def readerMachine (ι : Type) [DecidableEq ι] : Machine (UdpReaders ι) (ReaderLabel ι) where
  init s := s.node.Starts ∧ (∀ up, s.readers up = none) ∧ ∀ i, s.vipClosed i = false
  step := UdpReaders.step

/-- A call fails only on a socket that has been closed. -/
def FailsOnClosed {ι : Type} (s : UdpReaders ι) : ReaderLabel ι → Prop
  | .read up false => up ∈ s.node.shared.closed
  | .write up false => ∀ rd ∈ s.readers up, s.vipClosed rd.relay = true
  | _ => True

instance decidableFailsOnClosed {ι : Type} (s : UdpReaders ι) (l : ReaderLabel ι) :
    Decidable (FailsOnClosed s l) :=
  match l with
  | .read up false => inferInstanceAs (Decidable (up ∈ s.node.shared.closed))
  | .write up false =>
    inferInstanceAs (Decidable (∀ rd ∈ s.readers up, s.vipClosed rd.relay = true))
  | .read _ true | .write _ true | .relay _ _ | .forward _ _ | .stamp _ _ | .return_ _
  | .closeConn _ => isTrue trivial

/-! ## What a step of a relay does to its table -/

section

variable {sh sh' : UdpShared} {r r' : UdpRelay} {client : AddrPort} {l : RelayLabel}

lemma lookup_touch {flows : GoMap AddrPort UdpFlow} {k : AddrPort} {now : Int} {fl : UdpFlow}
    (h : (touch flows client now).lookup k = some fl) :
    ∃ fl₀, flows.lookup k = some fl₀ ∧ fl.upstream = fl₀.upstream := by
  unfold touch at h
  split at h
  · rename_i fl₀ hfl₀
    rw [GoMap.lookup_insert_ite] at h
    split at h
    · rename_i hk
      cases h
      exact ⟨fl₀, hk ▸ hfl₀, rfl⟩
    · exact ⟨fl, h, rfl⟩
  · exact ⟨fl, h, rfl⟩

lemma RelayMoves.flow_origin (h : RelayMoves sh r sh' r') {k : AddrPort} {fl : UdpFlow}
    (hfl : r'.flows.lookup k = some fl) :
    (∃ fl₀, r.flows.lookup k = some fl₀ ∧ fl.upstream = fl₀.upstream) ∨
      r.admission = .reserved k fl.upstream ∧ ∃ now, r' = r.insertFlow k fl.upstream now := by
  cases h with
  | touches => exact .inl (lookup_touch hfl)
  | inserts now hadm =>
    simp only [UdpRelay.insertFlow, GoMap.lookup_insert_ite] at hfl
    split at hfl
    · rename_i hk
      subst hk
      cases hfl
      exact .inr ⟨hadm, now, rfl⟩
    · exact .inl ⟨fl, hfl, rfl⟩
  | reaps =>
    simp only [reapFlow, releaseFlowLocked, UdpRelay.setMu, GoMap.lookup_erase_ite] at hfl
    split_ifs at hfl
    exact .inl ⟨fl, hfl, rfl⟩
  | drained => cases hfl
  | _ => exact .inl ⟨fl, hfl, rfl⟩

/-- Of a relay that `Close` has been through, nothing is left and nothing is admitted. -/
structure UdpRelay.Shut (r : UdpRelay) : Prop where
  admits : r.admission.holding ≠ none → r.closed = false
  empty : r.closed = true → r.mu.isCloser = false → r.flows = ∅

lemma open_of_locks {up : Nat} (hmu : r.mu = .free) (hadm : r.admission = .admitting client up)
    (h : relayStep sh r l = some (sh', (r.setMu .dispatcher).goto (.locked client up))) :
    r.closed = false := by
  cases l with
  | relock =>
    cases hclosed : r.closed with
    | false => rfl
    | true => simp [relayStep, hmu, hadm, hclosed, UdpRelay.goto, UdpRelay.setMu] at h
  | closeLock =>
    cases hclosed : r.closed with
    | false => rfl
    | true =>
      simp only [relayStep, hmu, hclosed, if_true, Option.some.injEq, Prod.mk.injEq] at h
      exact absurd (congrArg UdpRelay.admission h.2) (by simp [hadm, UdpRelay.goto])
  | closeUpstream k =>
    simp only [relayStep] at h
    split at h
    · simp only [Option.some.injEq, Prod.mk.injEq] at h
      exact absurd (congrArg UdpRelay.admission h.2) (by simp [hadm, UdpRelay.goto])
    · cases h
  | reply client now =>
    simp only [relayStep, Option.some.injEq, Prod.mk.injEq] at h
    exact absurd (congrArg UdpRelay.admission h.2) (by simp [hadm, UdpRelay.goto])
  | _ => simp [relayStep, hmu, hadm, UdpRelay.goto, UdpRelay.setMu] at h

lemma UdpRelay.Shut.keep (hs : r.Shut) (hclosed : r'.closed = r.closed)
    (hadm : r'.admission.holding ≠ none → r.admission.holding ≠ none)
    (hflows : r.closed = true → r'.mu.isCloser = false → r'.flows = ∅) : r'.Shut where
  admits ha := by
    rw [hclosed]
    exact hs.admits (hadm ha)
  empty hc := hflows (hclosed ▸ hc)

lemma shut_step (hr : r.Consistent) (hs : r.Shut) (h : relayStep sh r l = some (sh', r')) :
    r'.Shut := by
  have hholding : r.mu ≠ .dispatcher → r.admission.holding = none := hr.holding_eq_none
  have hempty : r.closed = true → r.mu.isCloser = false → r.flows = ∅ := hs.empty
  have hmoves : RelayMoves sh r sh' r' := .of_step h
  cases hmoves with
  | stays => exact hs
  | touches client now =>
    refine hs.keep rfl id fun hc hm => ?_
    change touch r.flows client now = ∅
    rw [hempty hc hm]
    rfl
  | goes _ hto =>
    exact hs.keep rfl (fun ha => absurd (Admission.holding_eq_none_of_socket hto) ha) hempty
  | dials => exact hs.keep rfl (fun ha => absurd rfl ha) hempty
  | locks hmu hadm _ =>
    have hopen := open_of_locks hmu hadm h
    exact ⟨fun _ => hopen, fun hc => absurd (hopen.symm.trans hc) Bool.false_ne_true⟩
  | rejects hmu _ =>
    refine hs.keep rfl (fun ha => absurd rfl ha) fun hc _ => ?_
    rcases hmu with hmu | ⟨client, hadm⟩
    · exact hempty hc (by rw [hmu]; rfl)
    · have hopen := hs.admits (by simp [hadm, Admission.holding])
      exact absurd (hopen.symm.trans hc) Bool.false_ne_true
  | reserves hadm _ => exact hs.keep rfl (fun _ => by simp [hadm, Admission.holding]) hempty
  | inserts now hadm =>
    have hopen := hs.admits (by simp [hadm, Admission.holding])
    exact hs.keep rfl (fun ha => absurd rfl ha)
      fun hc => absurd (hopen.symm.trans hc) Bool.false_ne_true
  | discards => exact hs.keep rfl (fun ha => absurd rfl ha) hempty
  | sweeps hfrom _ =>
    refine hs.keep rfl id fun hc _ => ?_
    rcases hfrom with hmu | ⟨e, rest, hmu⟩
    · exact hempty hc (by rw [hmu]; rfl)
    · exact hempty hc (by rw [hmu]; rfl)
  | reaps hmu hfl =>
    refine hs.keep rfl id fun hc _ => ?_
    rw [hempty hc (by rw [hmu]; rfl)] at hfl
    cases hfl
  | closes hmu _ =>
    have hnone := hholding (by rw [hmu]; simp)
    exact ⟨fun ha => absurd hnone ha, fun _ hm => by cases hm⟩
  | drains => exact hs.keep rfl id fun _ hm => by cases hm
  | drained => exact hs.keep rfl id fun _ _ => rfl
  | shuts => exact ⟨hs.admits, hs.empty⟩

lemma closed_step (h : RelayMoves sh r sh' r') (hclosed : r.closed = true)
    (hmu : r.mu.isCloser = false) : r'.closed = true ∧ r'.mu.isCloser = false := by
  cases h with
  | rejects => exact ⟨hclosed, rfl⟩
  | locks => exact ⟨hclosed, rfl⟩
  | inserts => exact ⟨hclosed, rfl⟩
  | sweeps _ hto =>
    rcases hto with rfl | ⟨e, rest, rfl⟩
    · exact ⟨hclosed, rfl⟩
    · exact ⟨hclosed, rfl⟩
  | reaps => exact ⟨hclosed, rfl⟩
  | closes _ hopen => exact absurd (hopen.symm.trans hclosed) Bool.false_ne_true
  | drains hcloser =>
    rw [hcloser] at hmu
    cases hmu
  | drained => exact ⟨hclosed, rfl⟩
  | _ => exact ⟨hclosed, hmu⟩

lemma insert_of_step {up : Nat} {now : Int} (hr : r.Consistent)
    (hadm : r.admission = .reserved client up)
    (h : relayStep sh r l = some (sh', r.insertFlow client up now)) : ∃ now, l = .insert now := by
  have hmu : r.mu = .dispatcher := hr.locked client (by rw [hadm]; rfl)
  have hidle : r.admission ≠ (r.insertFlow client up now).admission := by
    simp [hadm, UdpRelay.insertFlow]
  cases l with
  | insert now => exact ⟨now, rfl⟩
  | reply client now =>
    simp only [relayStep, Option.some.injEq, Prod.mk.injEq] at h
    exact absurd (congrArg UdpRelay.admission h.2) hidle
  | closeUpstream k =>
    simp only [relayStep] at h
    split at h
    · simp only [Option.some.injEq, Prod.mk.injEq] at h
      exact absurd (congrArg UdpRelay.admission h.2) hidle
    · cases h
  | _ => simp [relayStep, hmu, hadm] at h

end

/-! ## Sockets of flows -/

namespace UdpRelays

variable {ι : Type} [Fintype ι] [DecidableEq ι] {s : UdpRelays ι} {i j : ι} {k : AddrPort}
  {fl : UdpFlow}

lemma Inv.flow_socket (hs : s.Inv) (h : (s.relays i).flows.lookup k = some fl) :
    s.shared.closed.count fl.upstream = 0 ∧ s.inAdmissions fl.upstream = 0 := by
  have hplaces : ∑ i, (s.relays i).sockets fl.upstream + s.shared.closed.count fl.upstream =
      if fl.upstream < s.shared.dialed then 1 else 0 := hs.places fl.upstream
  have htable : 1 ≤ s.inTables fl.upstream := by
    have hone := flowsWith_erase h fl.upstream
    rw [if_pos rfl] at hone
    rw [inTables, sum_eq_erase_add (fun r : UdpRelay => flowsWith fl.upstream r.flows) s.relays i]
    omega
  have hsum : ∑ i, (s.relays i).sockets fl.upstream = s.inTables fl.upstream +
      s.inAdmissions fl.upstream + s.inCloses fl.upstream := by
    simp only [UdpRelay.sockets, inTables, inAdmissions, inCloses, Finset.sum_add_distrib]
  rw [hsum] at hplaces
  split at hplaces <;> omega

lemma Inv.socket_open (hs : s.Inv) (h : (s.relays i).flows.lookup k = some fl) :
    fl.upstream ∉ s.shared.closed :=
  List.count_eq_zero.mp (hs.flow_socket h).1

lemma Inv.socket_ne (hs : s.Inv) (h : (s.relays i).flows.lookup k = some fl) (j : ι) :
    (s.relays j).admission.socket ≠ some fl.upstream := by
  intro hadm
  have hzero := (hs.flow_socket h).2
  rw [inAdmissions, sum_eq_erase_add
    (fun r : UdpRelay => if r.admission.socket = some fl.upstream then 1 else 0) s.relays j,
    if_pos hadm] at hzero
  cases hzero

end UdpRelays

/-! ## Every flow is served -/

/-- Every flow has a running reader, and a closed listener belongs to a closed relay. -/
structure Serving {ι : Type} [Fintype ι] (s : UdpReaders ι) : Prop where
  inv : s.node.Inv
  shut : ∀ i, (s.node.relays i).Shut
  vip : ∀ i, s.vipClosed i = true →
    (s.node.relays i).closed = true ∧ (s.node.relays i).mu.isCloser = false
  running : ∀ i k fl, (s.node.relays i).flows.lookup k = some fl →
    ∃ rd, s.readers fl.upstream = some rd ∧ rd.relay = i ∧ rd.pc.running = true

section

variable {ι : Type} [Fintype ι] [DecidableEq ι] {s t : UdpReaders ι}

omit [Fintype ι] [DecidableEq ι] in
lemma UdpReaders.startReader_of_ne {i : ι} {x : Nat} (l : RelayLabel)
    (h : (s.node.relays i).admission.socket ≠ some x) : s.startReader i l x = s.readers x := by
  cases l with
  | insert now =>
    cases hadm : (s.node.relays i).admission with
    | reserved client up =>
      rw [hadm] at h
      have hne : x ≠ up := fun he => h (congrArg some he.symm)
      simp only [startReader, hadm, Function.update_of_ne hne]
    | _ => simp only [startReader, hadm]
  | _ => rfl

lemma Serving.relay (h : Serving s) {i : ι} {l : RelayLabel} {node : UdpRelays ι}
    (hstep : s.node.step (i, l) = some node) :
    Serving { s with node, readers := s.startReader i l } := by
  have hinv := h.inv.step hstep
  obtain ⟨⟨sh, r⟩, hrelay, rfl⟩ := Option.map_eq_some_iff.mp hstep
  have hmoves : RelayMoves s.node.shared (s.node.relays i) sh r := .of_step hrelay
  have hcons := h.inv.consistent i
  have hkept : ∀ {j k fl}, (s.node.relays j).flows.lookup k = some fl →
      s.startReader i l fl.upstream = s.readers fl.upstream :=
    fun hfl => UdpReaders.startReader_of_ne l (h.inv.socket_ne hfl i)
  refine ⟨hinv, fun j => ?_, fun j hj => ?_, fun j k fl hfl => ?_⟩
  · dsimp only
    rw [Function.update_apply]
    split
    · exact shut_step hcons (h.shut i) hrelay
    · exact h.shut j
  · dsimp only
    rw [Function.update_apply]
    obtain ⟨hclosed, hmu⟩ := h.vip j hj
    split
    · rename_i hji
      subst hji
      exact closed_step hmoves hclosed hmu
    · exact ⟨hclosed, hmu⟩
  · dsimp only at hfl ⊢
    rw [Function.update_apply] at hfl
    split at hfl
    swap
    · rw [hkept hfl]
      exact h.running j k fl hfl
    rename_i hji
    subst hji
    rcases hmoves.flow_origin hfl with ⟨fl₀, hfl₀, hup⟩ | ⟨hadm, now, rfl⟩
    · rw [hup, hkept hfl₀]
      exact h.running j k fl₀ hfl₀
    · obtain ⟨now', rfl⟩ := insert_of_step hcons hadm hrelay
      refine ⟨⟨j, k, .reading⟩, ?_, rfl, rfl⟩
      simp only [UdpReaders.startReader, hadm, Function.update_self]

omit [DecidableEq ι] in
lemma Serving.setPc (h : Serving s) {up : Nat} {rd : Reader ι} {pc : ReaderPc}
    (hrd : s.readers up = some rd) (hpc : pc.running = true ∨
      ∀ k fl, (s.node.relays rd.relay).flows.lookup k = some fl → fl.upstream ≠ up) :
    Serving (s.setPc up rd pc) := by
  refine ⟨h.inv, h.shut, h.vip, fun i k fl hfl => ?_⟩
  obtain ⟨rd', hrd', hrelay, hrun⟩ := h.running i k fl hfl
  simp only [UdpReaders.setPc, Function.update_apply]
  split
  · rename_i hup
    rw [hup, hrd] at hrd'
    cases hrd'
    rcases hpc with hpc | hnone
    · exact ⟨_, rfl, hrelay, hpc⟩
    · exact absurd hup (hnone k fl (hrelay ▸ hfl))
  · exact ⟨rd', hrd', hrelay, hrun⟩

lemma Serving.stampFlow (h : Serving s) (up : Nat) (rd : Reader ι) (now : Int) :
    Serving { s with node := s.stampFlow up rd now } := by
  unfold UdpReaders.stampFlow
  dsimp only
  split
  · exact h
  · split
    · exact h.relay (i := rd.relay) (l := .reply rd.client now) rfl
    · exact h

/-- No step takes the reader from a flow. -/
lemma Serving.step (h : Serving s) {l : ReaderLabel ι} (hok : FailsOnClosed s l)
    (hstep : s.step l = some t) : Serving t := by
  cases l with
  | relay i l =>
    simp only [UdpReaders.step] at hstep
    split_ifs at hstep
    obtain ⟨node, hnode, rfl⟩ := Option.map_eq_some_iff.mp hstep
    exact h.relay hnode
  | forward i ok =>
    cases hstep
    exact h
  | read up ok =>
    obtain ⟨rd, hrd, hstep⟩ := Option.bind_eq_some_iff.mp hstep
    split at hstep
    · split_ifs at hstep
      cases hstep
      exact h.setPc hrd (.inl rfl)
    · cases hstep
      refine h.setPc hrd (.inr fun k fl hfl hup => ?_)
      exact h.inv.socket_open hfl (hup ▸ hok)
    · cases hstep
  | write up ok =>
    obtain ⟨rd, hrd, hstep⟩ := Option.bind_eq_some_iff.mp hstep
    split at hstep
    · split_ifs at hstep
      cases hstep
      exact h.setPc hrd (.inl rfl)
    · cases hstep
      refine h.setPc hrd (.inr fun k fl hfl => ?_)
      -- the VIP socket is closed, so the table has been emptied
      obtain ⟨hclosed, hmu⟩ := h.vip rd.relay (hok rd hrd)
      rw [(h.shut rd.relay).empty hclosed hmu] at hfl
      cases hfl
    · cases hstep
  | stamp up now =>
    obtain ⟨rd, hrd, hstep⟩ := Option.bind_eq_some_iff.mp hstep
    split at hstep
    · cases hstep
      exact (h.stampFlow up rd now).setPc hrd (.inl rfl)
    · cases hstep
  | return_ up =>
    obtain ⟨rd, hrd, hstep⟩ := Option.bind_eq_some_iff.mp hstep
    split at hstep
    · rename_i hfailed
      cases hstep
      refine h.setPc hrd (.inr fun k fl hfl hup => ?_)
      obtain ⟨rd', hrd', -, hrun⟩ := h.running rd.relay k fl hfl
      rw [hup, hrd] at hrd'
      cases hrd'
      rw [hfailed] at hrun
      cases hrun
    · cases hstep
  | closeConn i =>
    simp only [UdpReaders.step] at hstep
    split_ifs at hstep with hguard
    cases hstep
    simp only [Bool.and_eq_true, Bool.not_eq_true'] at hguard
    refine ⟨h.inv, h.shut, fun j hj => ?_, h.running⟩
    dsimp only at hj ⊢
    rw [Function.update_apply] at hj
    split at hj
    · rename_i hji
      exact hji ▸ hguard
    · exact h.vip j hj

/-- A flow in a table has a running reader, where calls fail on closed sockets only. -/
theorem flows_have_readers (h : (readerMachine ι).Reach FailsOnClosed s) {i : ι} {k : AddrPort}
    {fl : UdpFlow} (hfl : (s.node.relays i).flows.lookup k = some fl) :
    ∃ rd, s.readers fl.upstream = some rd ∧ rd.relay = i ∧ rd.pc.running = true := by
  have hserving : Serving s := by
    refine Machine.Reach.invariant (I := Serving) ?_ ?_ h
    · rintro s ⟨hstarts, -, hvip⟩
      refine ⟨UdpRelays.Starts.inv hstarts, fun i => ?_, fun i hi => ?_, fun i k fl hfl => ?_⟩
      · obtain ⟨idleTimeout, perSourceCap, -, hi⟩ := hstarts.2 i
        rw [hi]
        exact ⟨fun ha => absurd rfl ha, fun _ _ => rfl⟩
      · rw [hvip i] at hi
        cases hi
      · obtain ⟨idleTimeout, perSourceCap, -, hi⟩ := hstarts.2 i
        rw [hi] at hfl
        cases hfl
    · intro s l t hs hok hstep
      exact hs.step hok hstep
  exact hserving.running i k fl hfl

end

/-! ## An error of an open socket -/

def oneRelay : UdpReaders (Fin 1) :=
  ⟨⟨⟨newUDPBudget 3 1, 0, []⟩, fun _ => newUDPRelay 10 2⟩, fun _ => none, fun _ => false⟩

lemma init_oneRelay : (readerMachine (Fin 1)).init oneRelay :=
  ⟨⟨⟨3, 1, by decide, rfl⟩, fun _ => ⟨10, 2, by decide, rfl⟩⟩, fun _ => rfl, fun _ => rfl⟩

def relayLabels (ls : List RelayLabel) : List (ReaderLabel (Fin 1)) := ls.map (.relay 0)

/-- A flow is admitted, its backend refuses the first datagram, which the reader's `Read`
reports, and the client sends on; a sweep after the idle timeout finds the flow fresh. -/
def refusedOnce : List (ReaderLabel (Fin 1)) :=
  relayLabels (admitLabels (udpClient 1) 0) ++ [.forward 0 true, .read 0 false, .return_ 0] ++
    relayLabels [.lookup (udpClient 1) 9, .sweepLock 12, .sweepVisit (udpClient 1), .sweepUnlock]

/-- A reader that fails on an open socket returns, and its flow stays in the table. -/
theorem flow_without_reader :
    ∃ s : UdpReaders (Fin 1), (readerMachine (Fin 1)).Reach Machine.always s ∧ s.Settled ∧
      ∃ fl, (s.node.relays 0).flows.lookup (udpClient 1) = some fl ∧
        fl.upstream ∉ s.node.shared.closed ∧
        ∃ rd, s.readers fl.upstream = some rd ∧ rd.pc = .returned := by
  obtain ⟨s, hs, hsettled, hflow⟩ :
      ∃ s, (readerMachine (Fin 1)).run oneRelay refusedOnce = some s ∧ s.Settled ∧
        ∃ fl, (s.node.relays 0).flows.lookup (udpClient 1) = some fl ∧
          fl.upstream ∉ s.node.shared.closed ∧
          ∃ rd, s.readers fl.upstream = some rd ∧ rd.pc = .returned := by
    refine ⟨_, rfl, fun up rd hrd hfailed => ?_, _, rfl, List.not_mem_nil, _, rfl, rfl⟩
    rcases up with _ | up
    · cases hrd
      cases hfailed
    · cases hrd
  exact ⟨s, .of_run refusedOnce init_oneRelay (Machine.meets_always _ _) hs, hsettled, hflow⟩

def servedAndSwept : List (ReaderLabel (Fin 1)) :=
  relayLabels (admitLabels (udpClient 1) 0) ++ [.read 0 true, .write 0 true, .stamp 0 1] ++
    relayLabels (admitLabels (udpClient 2) 9) ++
    relayLabels [.sweepLock 12, .sweepVisit (udpClient 1), .sweepVisit (udpClient 2),
      .sweepUnlock] ++ [.read 0 false, .return_ 0]

theorem flows_have_readers_servedAndSwept :
    ∃ s, (readerMachine (Fin 1)).run oneRelay servedAndSwept = some s ∧
      (s.node.relays 0).flows.lookup (udpClient 1) = none ∧
      ∃ fl, (s.node.relays 0).flows.lookup (udpClient 2) = some fl ∧
        ∃ rd, s.readers fl.upstream = some rd ∧ rd.relay = 0 ∧ rd.pc.running = true := by
  obtain ⟨s, hs, hswept, fl, hfl⟩ :
      ∃ s, (readerMachine (Fin 1)).run oneRelay servedAndSwept = some s ∧
        (s.node.relays 0).flows.lookup (udpClient 1) = none ∧
        ∃ fl, (s.node.relays 0).flows.lookup (udpClient 2) = some fl :=
    ⟨_, rfl, rfl, _, rfl⟩
  have hmeets : (readerMachine (Fin 1)).Meets FailsOnClosed oneRelay servedAndSwept := by
    decide +kernel
  exact ⟨s, hs, hswept, fl, hfl,
    flows_have_readers (.of_run servedAndSwept init_oneRelay hmeets hs) hfl⟩

end DarwinNet.Proxy
