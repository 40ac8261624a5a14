import DarwinNet.Proxy.UdpBudget
import DarwinNet.Lib.Machine

/-!
The UDP relays of a node and the budget they share (`udprelay.go`: `upstreamFor`,
`sweepExpired`, `releaseFlowLocked`, `Close`). A relay has one dispatcher, which
admits flows, a sweeper, which reaps idle ones, and callers of `Close`; they meet at
the relay's lock `mu`, and all relays meet at the lock of the budget, which a step
takes at most once.

The dispatcher looks the client up under the lock, gives the lock back to peek at
the budget and to dial, and decides under a second lock; the tables may be swept or
closed in between. `RelayMoves` lists what a step can do (`RelayMoves.of_step`).
-/

namespace DarwinNet.Proxy

open Lib Netip

/-- A flow. `upstream` numbers the sockets in the order of their dials. -/
structure UdpFlow where
  upstream : Nat
  client : AddrPort
  srcIP : Addr
  lastActivity : Int
  deriving DecidableEq

inductive Admission
  | idle
  | peeking (client : AddrPort)
  | dialing (client : AddrPort)
  | admitting (client : AddrPort) (up : Nat)
  /-- Holds `mu`; the table has room and the budget is asked next. -/
  | locked (client : AddrPort) (up : Nat)
  /-- Holds `mu` and a slot of the budget. -/
  | reserved (client : AddrPort) (up : Nat)
  /-- Refused under the second lock; the socket is closed next. -/
  | rejecting (up : Nat)
  deriving DecidableEq

/-- Who holds a relay's `mu`. The sweeper and `Close` have the part of the table
their loop has not visited. -/
inductive RelayMu
  | free
  | dispatcher
  | sweeper (elapsed : Int) (rest : List AddrPort)
  | closer (rest : GoMap AddrPort UdpFlow)

def RelayMu.isFree : RelayMu → Bool
  | free => true
  | _ => false

/-- A relay. `closing` are the flows whose sockets an unlocked `Close` has still to
close. -/
structure UdpRelay where
  idleTimeout : Int
  perSourceCap : Int
  closed : Bool
  flows : GoMap AddrPort UdpFlow
  perSource : GoMap Addr Int
  mu : RelayMu
  admission : Admission
  closing : GoMap AddrPort UdpFlow

def newUDPRelay (idleTimeout perSourceCap : Int) : UdpRelay :=
  ⟨idleTimeout, perSourceCap, false, ∅, ∅, .free, .idle, ∅⟩

/-- What the relays share. `dialed` is the number of upstream sockets opened so far,
`closed` are those closed again. -/
structure UdpShared where
  budget : UdpBudget
  dialed : Nat
  closed : List Nat

/-- How the unlocked part of `upstreamFor` ends: `Pick` finds no backend, the policy
denies it, or the dial fails or succeeds. -/
inductive DialResult
  | noBackend
  | denied
  | failed
  | opened
  deriving DecidableEq

/-- A step of a relay, with what the environment decides: the datagram, the clock,
the outcome of a dial, and the order of the loops over a map. -/
inductive RelayLabel
  | lookup (client : AddrPort) (now : Int)
  | peek
  | dial (result : DialResult)
  | relock
  | reserve
  | insert (now : Int)
  | closeRejected
  | reply (client : AddrPort) (now : Int)
  | sweepLock (elapsed : Int)
  | sweepVisit (k : AddrPort)
  | sweepUnlock
  | closeLock
  | drainVisit (k : AddrPort)
  | closeUnlock
  | closeUpstream (k : AddrPort)

def flowKey (client : AddrPort) : AddrPort := ⟨client.addr.unmap, client.port⟩

def touch (flows : GoMap AddrPort UdpFlow) (client : AddrPort) (now : Int) :
    GoMap AddrPort UdpFlow :=
  match flows.lookup client with
  | some fl => flows.insert client ⟨fl.upstream, fl.client, fl.srcIP, now⟩
  | none => flows

def UdpShared.dialSocket (sh : UdpShared) : UdpShared := { sh with dialed := sh.dialed + 1 }

def UdpShared.closeSocket (sh : UdpShared) (up : Nat) : UdpShared :=
  { sh with closed := up :: sh.closed }

def UdpShared.setBudget (sh : UdpShared) (b : UdpBudget) : UdpShared := { sh with budget := b }

namespace UdpRelay

def goto (r : UdpRelay) (a : Admission) : UdpRelay := { r with admission := a }

def setMu (r : UdpRelay) (m : RelayMu) : UdpRelay := { r with mu := m }

def full (r : UdpRelay) (srcIP : Addr) : Bool :=
  GoMap.size r.flows ≥ maxUDPFlows || GoMap.count r.perSource srcIP ≥ r.perSourceCap

def lookup (r : UdpRelay) (client : AddrPort) (now : Int) : UdpRelay :=
  match r.flows.lookup client with
  | some _ => { r with flows := touch r.flows client now }
  | none =>
    if r.closed then r
    else if r.full client.addr then r
    else r.goto (.peeking client)

/-- The end of `upstreamFor`: the flow is recorded and `mu` is given back. -/
def insertFlow (r : UdpRelay) (client : AddrPort) (up : Nat) (now : Int) : UdpRelay :=
  { r with
    flows := r.flows.insert client ⟨up, client, client.addr, now⟩
    perSource := GoMap.incr r.perSource client.addr
    mu := .free
    admission := .idle }

end UdpRelay

/-- Un-count a flow that leaves the table, here and in the budget. -/
def releaseFlowLocked (sh : UdpShared) (r : UdpRelay) (fl : UdpFlow) : UdpShared × UdpRelay :=
  (sh.setBudget (sh.budget.release fl.srcIP),
    { r with perSource := GoMap.decr r.perSource fl.srcIP })

def reapFlow (sh : UdpShared) (r : UdpRelay) (k : AddrPort) (fl : UdpFlow) :
    UdpShared × UdpRelay :=
  releaseFlowLocked (sh.closeSocket fl.upstream) { r with flows := r.flows.erase k } fl

def relayStep (sh : UdpShared) (r : UdpRelay) : RelayLabel → Option (UdpShared × UdpRelay)
  | .lookup client now =>
    match r.mu, r.admission with
    | .free, .idle => some (sh, r.lookup (flowKey client) now)
    | _, _ => none
  | .peek =>
    match r.admission with
    | .peeking client =>
      match sh.budget.peekAtCap client.addr with
      | (true, _) => some (sh, r.goto .idle)
      | (false, _) => some (sh, r.goto (.dialing client))
    | _ => none
  | .dial result =>
    match r.admission with
    | .dialing client =>
      match result with
      | .opened => some (sh.dialSocket, r.goto (.admitting client sh.dialed))
      | _ => some (sh, r.goto .idle)
    | _ => none
  | .relock =>
    match r.mu, r.admission with
    | .free, .admitting client up =>
      if r.closed then some (sh, r.goto (.rejecting up))
      else if r.full client.addr then some (sh, r.goto (.rejecting up))
      else some (sh, (r.setMu .dispatcher).goto (.locked client up))
    | _, _ => none
  | .reserve =>
    match r.admission with
    | .locked client up =>
      match sh.budget.reserve client.addr with
      | ((true, _), b) => some (sh.setBudget b, r.goto (.reserved client up))
      | ((false, _), b) => some (sh.setBudget b, (r.setMu .free).goto (.rejecting up))
    | _ => none
  | .insert now =>
    match r.admission with
    | .reserved client up => some (sh, r.insertFlow client up now)
    | _ => none
  | .closeRejected =>
    match r.admission with
    | .rejecting up => some (sh.closeSocket up, r.goto .idle)
    | _ => none
  | .reply client now => some (sh, { r with flows := touch r.flows client now })
  | .sweepLock elapsed =>
    match r.mu with
    | .free => some (sh, r.setMu (.sweeper elapsed r.flows.keys))
    | _ => none
  | .sweepVisit k =>
    match r.mu with
    | .sweeper elapsed rest =>
      if k ∈ rest then
        match r.flows.lookup k with
        | some fl =>
          if elapsed - fl.lastActivity ≥ r.idleTimeout then
            some (reapFlow sh (r.setMu (.sweeper elapsed (rest.erase k))) k fl)
          else some (sh, r.setMu (.sweeper elapsed (rest.erase k)))
        | none => some (sh, r.setMu (.sweeper elapsed (rest.erase k)))
      else none
    | _ => none
  | .sweepUnlock =>
    match r.mu with
    | .sweeper _ [] => some (sh, r.setMu .free)
    | _ => none
  | .closeLock =>
    match r.mu with
    | .free =>
      if r.closed then some (sh, r)
      else some (sh, { r.setMu (.closer r.flows) with closed := true })
    | _ => none
  | .drainVisit k =>
    match r.mu with
    | .closer rest =>
      match rest.lookup k with
      | some fl => some (releaseFlowLocked sh (r.setMu (.closer (rest.erase k))) fl)
      | none => none
    | _ => none
  | .closeUnlock =>
    match r.mu with
    | .closer rest =>
      if GoMap.size rest = 0 then
        some (sh, { r.setMu .free with flows := ∅, closing := r.flows })
      else none
    | _ => none
  | .closeUpstream k =>
    match r.closing.lookup k with
    | some fl => some (sh.closeSocket fl.upstream, { r with closing := r.closing.erase k })
    | none => none

structure UdpRelays (ι : Type) where
  shared : UdpShared
  relays : ι → UdpRelay

section Machine

variable {ι : Type} [DecidableEq ι]

def UdpRelays.step (s : UdpRelays ι) (a : ι × RelayLabel) : Option (UdpRelays ι) :=
  (relayStep s.shared (s.relays a.1) a.2).map fun t =>
    ⟨t.1, Function.update s.relays a.1 t.2⟩

def UdpRelays.Starts (s : UdpRelays ι) : Prop :=
  (∃ maxTotal maxPerSource, 0 ≤ maxTotal ∧ s.shared = ⟨newUDPBudget maxTotal maxPerSource, 0, []⟩) ∧
    ∀ i, ∃ idleTimeout perSourceCap, 0 ≤ perSourceCap ∧
      s.relays i = newUDPRelay idleTimeout perSourceCap

/-- The relays right after `New`. -/
def newProxyRelays (rlimitCur maxFilesPerProc : Option UInt64) (opts : List Int)
    (idleTimeout : Int) : UdpRelays ι :=
  ⟨⟨newProxyBudget rlimitCur maxFilesPerProc opts, 0, []⟩,
    fun _ => newUDPRelay idleTimeout maxUDPFlowsPerSource⟩

def udpMachine (ι : Type) [DecidableEq ι] : Machine (UdpRelays ι) (ι × RelayLabel) :=
  ⟨UdpRelays.Starts, UdpRelays.step⟩

def proxyUdpMachine (ι : Type) [DecidableEq ι] (rlimitCur maxFilesPerProc : Option UInt64)
    (opts : List Int) (idleTimeout : Int) : Machine (UdpRelays ι) (ι × RelayLabel) :=
  ⟨(· = newProxyRelays rlimitCur maxFilesPerProc opts idleTimeout), UdpRelays.step⟩

end Machine

/-! ## What a step does -/

namespace Admission

def client : Admission → Option AddrPort
  | peeking c | dialing c | admitting c _ | locked c _ | reserved c _ => some c
  | idle | rejecting _ => none

def socket : Admission → Option Nat
  | admitting _ up | locked _ up | reserved _ up | rejecting up => some up
  | _ => none

end Admission

inductive RelayMoves (sh : UdpShared) (r : UdpRelay) : UdpShared → UdpRelay → Prop
  | stays : RelayMoves sh r sh r
  | touches (client : AddrPort) (now : Int) :
      RelayMoves sh r sh { r with flows := touch r.flows client now }
  /-- The dispatcher goes on, or drops the datagram, without a socket. -/
  | goes {a : Admission} (hfrom : r.admission.socket = none) (hto : a.socket = none)
      (habsent : ∀ c, a.client = some c → r.admission.client = some c ∨ r.flows.lookup c = none) :
      RelayMoves sh r sh (r.goto a)
  | dials {client : AddrPort} (h : r.admission = .dialing client) :
      RelayMoves sh r sh.dialSocket (r.goto (.admitting client sh.dialed))
  | locks {client : AddrPort} {up : Nat} (hmu : r.mu = .free)
      (h : r.admission = .admitting client up) (hroom : r.full client.addr = false) :
      RelayMoves sh r sh ((r.setMu .dispatcher).goto (.locked client up))
  /-- Refused by the table, whose `mu` is free, or by the budget. -/
  | rejects {up : Nat} (hmu : r.mu = .free ∨ ∃ client, r.admission = .locked client up)
      (h : r.admission.socket = some up) :
      RelayMoves sh r sh ((r.setMu .free).goto (.rejecting up))
  | reserves {client : AddrPort} {up : Nat} {b : UdpBudget} {reason : UdpRejectReason}
      (h : r.admission = .locked client up)
      (hb : sh.budget.reserve client.addr = ((true, reason), b)) :
      RelayMoves sh r (sh.setBudget b) (r.goto (.reserved client up))
  | inserts {client : AddrPort} {up : Nat} (now : Int) (h : r.admission = .reserved client up) :
      RelayMoves sh r sh (r.insertFlow client up now)
  | discards {up : Nat} (h : r.admission = .rejecting up) :
      RelayMoves sh r (sh.closeSocket up) (r.goto .idle)
  /-- The sweeper takes `mu`, passes over a flow, or gives `mu` back. -/
  | sweeps {m : RelayMu} (hfrom : r.mu = .free ∨ ∃ e rest, r.mu = .sweeper e rest)
      (hto : m = .free ∨ ∃ e rest, m = .sweeper e rest) : RelayMoves sh r sh (r.setMu m)
  | reaps {e : Int} {rest rest' : List AddrPort} {k : AddrPort} {fl : UdpFlow}
      (hmu : r.mu = .sweeper e rest) (h : r.flows.lookup k = some fl) :
      RelayMoves sh r (reapFlow sh (r.setMu (.sweeper e rest')) k fl).1
        (reapFlow sh (r.setMu (.sweeper e rest')) k fl).2
  | closes (hmu : r.mu = .free) (h : r.closed = false) :
      RelayMoves sh r sh { r.setMu (.closer r.flows) with closed := true }
  | drains {rest : GoMap AddrPort UdpFlow} {k : AddrPort} {fl : UdpFlow}
      (hmu : r.mu = .closer rest) (h : rest.lookup k = some fl) :
      RelayMoves sh r (releaseFlowLocked sh (r.setMu (.closer (rest.erase k))) fl).1
        (releaseFlowLocked sh (r.setMu (.closer (rest.erase k))) fl).2
  | drained (hmu : r.mu = .closer ∅) :
      RelayMoves sh r sh { r.setMu .free with flows := ∅, closing := r.flows }
  | shuts {k : AddrPort} {fl : UdpFlow} (h : r.closing.lookup k = some fl) :
      RelayMoves sh r (sh.closeSocket fl.upstream) { r with closing := r.closing.erase k }

variable {sh sh' : UdpShared} {r r' : UdpRelay}

lemma RelayMoves.of_lookup (client : AddrPort) (now : Int) (h : r.admission = .idle) :
    RelayMoves sh r sh (r.lookup client now) := by
  unfold UdpRelay.lookup
  split
  · exact .touches client now
  rename_i habsent
  split
  · exact .stays
  · split
    · exact .stays
    · refine .goes (by rw [h]; rfl) rfl fun c hc => ?_
      cases hc
      exact .inr habsent

lemma RelayMoves.of_sweepVisit {e : Int} {rest : List AddrPort} {k : AddrPort}
    (hmu : r.mu = .sweeper e rest)
    (h : relayStep sh r (.sweepVisit k) = some (sh', r')) : RelayMoves sh r sh' r' := by
  simp only [relayStep, hmu] at h
  split_ifs at h
  split at h
  · rename_i fl hfl
    split at h
    · cases h
      exact .reaps hmu hfl
    · cases h
      exact .sweeps (.inr ⟨e, rest, hmu⟩) (.inr ⟨e, _, rfl⟩)
  · cases h
    exact .sweeps (.inr ⟨e, rest, hmu⟩) (.inr ⟨e, _, rfl⟩)

lemma RelayMoves.of_relock {client : AddrPort} {up : Nat} (hmu : r.mu = .free)
    (h : r.admission = .admitting client up) : RelayMoves sh r sh (r.goto (.rejecting up)) := by
  have hrej : r.goto (.rejecting up) = (r.setMu .free).goto (.rejecting up) := by
    simp [UdpRelay.goto, UdpRelay.setMu, hmu]
  rw [hrej]
  exact .rejects (.inl hmu) (by rw [h]; rfl)

/-- What one step of a relay can do. -/
lemma RelayMoves.of_step {a : RelayLabel} (h : relayStep sh r a = some (sh', r')) :
    RelayMoves sh r sh' r' := by
  cases a
  case reply client now =>
    cases h
    exact .touches client now
  case sweepVisit k =>
    cases hmu : r.mu with
    | sweeper e rest => exact .of_sweepVisit hmu h
    | _ => simp [relayStep, hmu] at h
  all_goals simp only [relayStep] at h; (repeat' split at h) <;> cases h
  next hidle => exact .of_lookup _ _ hidle
  next hc _ _ _ => exact .goes (by rw [hc]; rfl) rfl (by simp [Admission.client])
  next hc _ _ _ => exact .goes (by rw [hc]; rfl) rfl fun c h => .inl (by rw [hc]; exact h)
  next hc _ => exact .dials hc
  next hc _ _ => exact .goes (by rw [hc]; rfl) rfl (by simp [Admission.client])
  next hmu hc _ => exact .of_relock hmu hc
  next hmu hc _ _ => exact .of_relock hmu hc
  next hmu hc _ hroom => exact .locks hmu hc (by simpa using hroom)
  next hc _ _ _ hb => exact .reserves hc hb
  next client _ hc _ _ _ hb =>
    rw [UdpBudget.reserve_eq_false hb]
    exact .rejects (.inr ⟨client, hc⟩) (by rw [hc]; rfl)
  next hc => exact .inserts _ hc
  next hc => exact .discards hc
  next hmu => exact .sweeps (.inl hmu) (.inr ⟨_, _, rfl⟩)
  next hmu => exact .sweeps (.inr ⟨_, _, hmu⟩) (.inl rfl)
  next => exact .stays
  next hmu hopen => exact .closes hmu (by simpa using hopen)
  next hmu _ _ hfl => exact .drains hmu hfl
  next hmu hrest =>
    rw [GoMap.size_eq_zero.mp hrest] at hmu
    exact .drained hmu
  next hfl => exact .shuts hfl

end DarwinNet.Proxy
