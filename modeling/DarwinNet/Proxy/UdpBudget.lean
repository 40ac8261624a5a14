import DarwinNet.Netip.Addr
import DarwinNet.Lib.Tally

/-!
The admission budget that all UDP relays of a proxy share (`udprelay.go`:
`udpBudget`; `proxy.go`: `UDPFlowBudgetFor`, `WithUDPFlowBudget`, `New`). It bounds
the live flows of the node and, for each source address, those of that source over
all virtual IPs.

`Accounts b f` says that the budget's counters are those of a population of flows
within both caps: `f p` is the number of flows whose source has `p`. A successful
`reserve` adds one flow to the population, a `release` takes one away.
-/

namespace DarwinNet.Proxy

open Lib Netip

def maxUDPFlows : Nat := 8192

def maxUDPFlowsPerSource : Int := maxUDPFlows / 4

inductive UdpRejectReason
  | none
  | globalFull
  | perSourceGlobal
  deriving DecidableEq, Repr

structure UdpBudget where
  total : Int
  maxTotal : Int
  bySource : GoMap Addr Int
  maxPerSource : Int

/-- The share of one source is at least one flow. -/
def newUDPBudget (maxTotal maxPerSource : Int) : UdpBudget :=
  ⟨0, maxTotal, ∅, if maxPerSource < 1 then 1 else maxPerSource⟩

def udpPerSourceGlobalCap (maxTotal : Int) : Int :=
  let c := maxTotal.tdiv 4
  if c < 1 then 1 else c

namespace UdpBudget

def refusal (b : UdpBudget) (srcIP : Addr) : UdpRejectReason :=
  if b.total ≥ b.maxTotal then .globalFull
  else if GoMap.count b.bySource srcIP ≥ b.maxPerSource then .perSourceGlobal
  else .none

def reserve (b : UdpBudget) (srcIP : Addr) : (Bool × UdpRejectReason) × UdpBudget :=
  match b.refusal srcIP with
  | .none =>
    ((true, .none), { b with total := b.total + 1, bySource := GoMap.incr b.bySource srcIP })
  | reason => ((false, reason), b)

def peekAtCap (b : UdpBudget) (srcIP : Addr) : Bool × UdpRejectReason :=
  match b.refusal srcIP with
  | .none => (false, .none)
  | reason => (true, reason)

def release (b : UdpBudget) (srcIP : Addr) : UdpBudget :=
  { b with total := b.total - 1, bySource := GoMap.decr b.bySource srcIP }

/-- The counters are those of a population with `f p` flows whose source has `p`,
and within the caps. -/
structure Accounts (b : UdpBudget) (f : (Addr → Bool) → Nat) : Prop where
  total : b.total = f fun _ => true
  bySource : GoMap.Counts b.bySource fun a => f fun src => src == a
  total_le : b.total ≤ b.maxTotal
  bySource_le : ∀ a, GoMap.count b.bySource a ≤ b.maxPerSource

variable {b : UdpBudget} {src : Addr} {f g : (Addr → Bool) → Nat} {b' : UdpBudget}
  {reason : UdpRejectReason}

/-- A flow is admitted under both limits only. -/
lemma refusal_eq_none_iff :
    b.refusal src = .none ↔ b.total < b.maxTotal ∧ GoMap.count b.bySource src < b.maxPerSource := by
  unfold refusal
  by_cases ht : b.total ≥ b.maxTotal
  · simp [ht]
  · by_cases hs : GoMap.count b.bySource src ≥ b.maxPerSource
    · simp [ht, hs]
    · simp [ht, hs, not_le.mp ht, not_le.mp hs]

lemma reserve_eq_true (h : b.reserve src = ((true, reason), b')) :
    b.total < b.maxTotal ∧ GoMap.count b.bySource src < b.maxPerSource ∧
      b' = { b with total := b.total + 1, bySource := GoMap.incr b.bySource src } := by
  unfold reserve at h
  cases hr : b.refusal src with
  | none =>
    rw [hr] at h
    cases h
    obtain ⟨ht, hs⟩ := refusal_eq_none_iff.mp hr
    exact ⟨ht, hs, rfl⟩
  | globalFull => simp [hr] at h
  | perSourceGlobal => simp [hr] at h

lemma reserve_eq_false (h : b.reserve src = ((false, reason), b')) : b' = b := by
  unfold reserve at h
  cases hr : b.refusal src with
  | none => simp [hr] at h
  | globalFull => simp [hr] at h; exact h.2.symm
  | perSourceGlobal => simp [hr] at h; exact h.2.symm

lemma Accounts.reserve (hb : b.Accounts f) (h : b.reserve src = ((true, reason), b'))
    (hg : ∀ p, g p = f p + if p src then 1 else 0) : b'.Accounts g := by
  obtain ⟨ht, hs, rfl⟩ := reserve_eq_true h
  have hcounts : GoMap.Counts (GoMap.incr b.bySource src) fun a => g fun s => s == a :=
    hb.bySource.incr fun a => by simp [hg]
  refine ⟨?_, hcounts, Int.add_one_le_of_lt ht, fun a => ?_⟩
  · simp [hb.total, hg]
  have ha := hb.bySource_le a
  rw [hb.bySource.count_eq] at ha hs
  rw [hcounts.count_eq, hg]
  by_cases hsrc : src = a
  · subst hsrc
    simpa using Int.add_one_le_of_lt hs
  · simpa [hsrc] using ha

lemma Accounts.release (hb : b.Accounts f) (hg : ∀ p, f p = g p + if p src then 1 else 0) :
    (b.release src).Accounts g := by
  have hcounts : GoMap.Counts (GoMap.decr b.bySource src) fun a => g fun s => s == a :=
    hb.bySource.decr fun a => by simp [hg]
  have htotal : b.total = g (fun _ => true) + 1 := by simpa [hg] using hb.total
  refine ⟨?_, hcounts, ?_, fun a => ?_⟩
  · show b.total - 1 = _
    omega
  · show b.total - 1 ≤ b.maxTotal
    have := hb.total_le
    omega
  · have ha := hb.bySource_le a
    rw [hb.bySource.count_eq, hg] at ha
    show GoMap.count (GoMap.decr b.bySource src) a ≤ b.maxPerSource
    rw [hcounts.count_eq]
    push_cast at ha
    split at ha <;> omega

lemma accounts_newUDPBudget {maxTotal : Int} (h : 0 ≤ maxTotal) (maxPerSource : Int) :
    (newUDPBudget maxTotal maxPerSource).Accounts fun _ => 0 := by
  refine ⟨rfl, GoMap.counts_empty, h, fun a => ?_⟩
  show (0 : Int) ≤ if maxPerSource < 1 then 1 else maxPerSource
  split <;> omega

end UdpBudget

/-! ## The budget of a proxy -/

/-- `UDPFlowBudgetFor`: half the usable descriptors, and at least one full table.
`maxFilesPerProc` is zero where it is unknown. -/
def udpFlowBudgetFor (rlimitCur maxFilesPerProc : UInt64) : Int :=
  let usable := if maxFilesPerProc ≠ 0 then min rlimitCur maxFilesPerProc else rlimitCur
  max (maxUDPFlows : Int) (usable.toInt64.toInt.tdiv 2)

/-- The two limits as the system calls return them, `none` for an error. -/
def defaultUDPFlowBudget (rlimitCur maxFilesPerProc : Option UInt64) : Int :=
  match rlimitCur with
  | none => maxUDPFlows
  | some cur => udpFlowBudgetFor cur (maxFilesPerProc.getD 0)

def withUDPFlowBudget (b : UdpBudget) (max : Int) : UdpBudget :=
  if max > 0 then newUDPBudget max (udpPerSourceGlobalCap max) else b

/-- The budget that `New` leaves in the proxy, its options applied in order. -/
def newProxyBudget (rlimitCur maxFilesPerProc : Option UInt64) (opts : List Int) : UdpBudget :=
  let maxTotal := defaultUDPFlowBudget rlimitCur maxFilesPerProc
  opts.foldl withUDPFlowBudget (newUDPBudget maxTotal (udpPerSourceGlobalCap maxTotal))

lemma defaultUDPFlowBudget_nonneg (rlimitCur maxFilesPerProc : Option UInt64) :
    0 ≤ defaultUDPFlowBudget rlimitCur maxFilesPerProc := by
  cases rlimitCur with
  | none => exact Int.natCast_nonneg maxUDPFlows
  | some cur => exact le_max_of_le_left (by decide)

/-- The last positive option counts, else the default. -/
def flowLimit (rlimitCur maxFilesPerProc : Option UInt64) (opts : List Int) : Int :=
  (opts.filter (0 < ·)).getLastD (defaultUDPFlowBudget rlimitCur maxFilesPerProc)

lemma flowLimit_nonneg (rlimitCur maxFilesPerProc : Option UInt64) (opts : List Int) :
    0 ≤ flowLimit rlimitCur maxFilesPerProc opts := by
  rw [flowLimit, List.getLastD_eq_getLast?]
  cases h : (opts.filter (0 < ·)).getLast? with
  | none => exact defaultUDPFlowBudget_nonneg rlimitCur maxFilesPerProc
  | some t => exact (by simpa using List.of_mem_filter (List.mem_of_getLast? h) : 0 < t).le

lemma newProxyBudget_eq (rlimitCur maxFilesPerProc : Option UInt64) (opts : List Int) :
    newProxyBudget rlimitCur maxFilesPerProc opts =
      newUDPBudget (flowLimit rlimitCur maxFilesPerProc opts)
        (udpPerSourceGlobalCap (flowLimit rlimitCur maxFilesPerProc opts)) := by
  unfold newProxyBudget flowLimit
  generalize defaultUDPFlowBudget rlimitCur maxFilesPerProc = t
  induction opts generalizing t with
  | nil => rfl
  | cons max opts ih =>
    rw [List.foldl_cons, withUDPFlowBudget]
    by_cases hmax : 0 < max
    · rw [if_pos hmax, List.filter_cons_of_pos (by simpa), List.getLastD_cons]
      exact ih max
    · rw [if_neg hmax, List.filter_cons_of_neg (by simpa using hmax)]
      exact ih t

end DarwinNet.Proxy
