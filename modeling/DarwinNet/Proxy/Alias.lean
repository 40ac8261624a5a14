import DarwinNet.Proxy.Translate
import DarwinNet.Lib.Machine

/-!
The lo0 aliases under the listeners (`alias.go`, and `openListener` and
`listener.Close` of `proxy.go`). Every worker ensures the alias of its ClusterIP
before it binds and removes it when an open fails or its listener closes. The
manager tracks which addresses it aliased, but not for how many ports.

So a port's `Remove` takes the address from under the other ports of the same
ClusterIP (`alias_removed_under_listener`). Where the port that removes an alias
is its only user (`SoleUser`), a bound listener always has its address on lo0
(`alias_outlives_listeners`).
-/

namespace DarwinNet.Proxy

open Lib Netip Api

/-! ## The alias manager -/

/-- How an `ifconfig` invocation ends. It may be killed after it took effect. -/
inductive CmdOutcome
  | done
  | failed
  | failedAfterEffect
  deriving DecidableEq, Repr

structure Lo0 where
  aliased : Finset Addr
  addrs : Finset Addr

namespace Lo0

def ensure (m : Lo0) (ip : Addr) (cmd : CmdOutcome) : Lo0 × Bool :=
  if ip ∈ m.aliased then (m, true)
  else match cmd with
    | .done => (⟨insert ip m.aliased, insert ip m.addrs⟩, true)
    | .failed => (m, false)
    | .failedAfterEffect => (⟨m.aliased, insert ip m.addrs⟩, false)

/-- `Remove`, with whether it returned nil. An address the manager does not track
is removed on a best-effort basis. -/
def remove (m : Lo0) (ip : Addr) (cmd : CmdOutcome) : Lo0 × Bool :=
  if ip ∉ m.aliased then
    match cmd with
    | .failed => (m, true)
    | _ => (⟨m.aliased, m.addrs.erase ip⟩, true)
  else match cmd with
    | .done => (⟨m.aliased.erase ip, m.addrs.erase ip⟩, true)
    | .failed => (m, false)
    | .failedAfterEffect => (⟨m.aliased, m.addrs.erase ip⟩, false)

lemma mem_ensure {m : Lo0} {ip a : Addr} (cmd : CmdOutcome) (h : a ∈ m.addrs) :
    a ∈ (m.ensure ip cmd).1.addrs := by
  unfold ensure
  split_ifs
  · exact h
  · cases cmd <;> simp [h]

lemma mem_remove {m : Lo0} {ip a : Addr} (cmd : CmdOutcome) (hne : a ≠ ip) (h : a ∈ m.addrs) :
    a ∈ (m.remove ip cmd).1.addrs := by
  unfold remove
  split_ifs <;> cases cmd <;> simp [h, hne]

end Lo0

/-! ## Workers and their listeners -/

inductive ListenerPC
  | closed
  | ensured
  | bound
  | opened
  | failing
  | closing
  deriving DecidableEq, Repr

/-- The port uses the alias: its worker is past `Ensure` and not on its way out. -/
def ListenerPC.uses : ListenerPC → Bool
  | .ensured | .bound | .opened => true
  | .closed | .failing | .closing => false

def ListenerPC.isBound : ListenerPC → Bool
  | .bound | .opened => true
  | _ => false

structure Listeners where
  lo0 : Lo0
  ports : GoMap PortKey ListenerPC

inductive ListenerLabel
  | ensure (key : PortKey) (cmd : CmdOutcome)
  | bind (key : PortKey) (ok : Bool)
  | nodePort (key : PortKey) (ok : Bool)
  | cleanup (key : PortKey) (cmd : CmdOutcome)
  | close (key : PortKey)
  | removeAlias (key : PortKey) (cmd : CmdOutcome)

namespace Listeners

def pc (s : Listeners) (key : PortKey) : ListenerPC := (s.ports.lookup key).getD .closed

def goto (s : Listeners) (key : PortKey) (pc : ListenerPC) (lo0 : Lo0) : Listeners :=
  ⟨lo0, s.ports.insert key pc⟩

/-- The address of a key; a port whose ClusterIP does not parse is never opened. -/
def aliasIP (key : PortKey) : Option Addr := parseAddr key.clusterIP

def remove (s : Listeners) (key : PortKey) (cmd : CmdOutcome) : Option Listeners :=
  (aliasIP key).map fun ip => s.goto key .closed (s.lo0.remove ip cmd).1

/-- A socket can only be bound to an address that is on the interface. Only a TCP
port has NodePort listeners to fail on. -/
def step (s : Listeners) : ListenerLabel → Option Listeners
  | .ensure key cmd =>
    match s.pc key, aliasIP key with
    | .closed, some ip =>
      match s.lo0.ensure ip cmd with
      | (lo0, true) => some (s.goto key .ensured lo0)
      | (lo0, false) => some { s with lo0 }
    | _, _ => none
  | .bind key ok =>
    match s.pc key, aliasIP key with
    | .ensured, some ip =>
      if ok then (if ip ∈ s.lo0.addrs then some (s.goto key .bound s.lo0) else none)
      else some (s.goto key .failing s.lo0)
    | _, _ => none
  | .nodePort key ok =>
    match s.pc key with
    | .bound =>
      if ok then some (s.goto key .opened s.lo0)
      else if key.protocol = .UDP then none
      else some (s.goto key .failing s.lo0)
    | _ => none
  | .cleanup key cmd =>
    match s.pc key with
    | .failing => s.remove key cmd
    | _ => none
  | .close key =>
    match s.pc key with
    | .opened => some (s.goto key .closing s.lo0)
    | _ => none
  | .removeAlias key cmd =>
    match s.pc key with
    | .closing => s.remove key cmd
    | _ => none

end Listeners

def listenerMachine : Machine Listeners ListenerLabel where
  init s := s = ⟨⟨∅, ∅⟩, ∅⟩
  step s l := s.step l

/-- No other port uses the alias. -/
def OnlyUser (s : Listeners) (key : PortKey) : Prop :=
  ∀ e ∈ s.ports.entries, e.1 ≠ key → Listeners.aliasIP e.1 = Listeners.aliasIP key →
    e.2.uses = false

/-- The condition: a port that removes the alias, because its open failed or its
listener closed, is the only user of it. -/
def SoleUser (s : Listeners) : ListenerLabel → Prop
  | .cleanup key _ => OnlyUser s key
  | .removeAlias key _ => OnlyUser s key
  | _ => True

/-- Every bound port has its alias. -/
def AliasInv (s : Listeners) : Prop :=
  ∀ key ip, Listeners.aliasIP key = some ip → (s.pc key).isBound = true → ip ∈ s.lo0.addrs

section

variable {s : Listeners} {key k : PortKey}

lemma Listeners.pc_goto (pc : ListenerPC) (lo0 : Lo0) :
    (s.goto key pc lo0).pc k = if k = key then pc else s.pc k := by
  rw [Listeners.pc, Listeners.goto, GoMap.lookup_insert_ite]
  split_ifs <;> rfl

lemma ListenerPC.uses_of_isBound {pc : ListenerPC} (h : pc.isBound = true) : pc.uses = true := by
  cases pc <;> simp_all [isBound, uses]

lemma AliasInv.goto (h : AliasInv s) {pc : ListenerPC} {lo0 : Lo0}
    (hlo0 : ∀ ip, ip ∈ s.lo0.addrs → ip ∈ lo0.addrs)
    (hpc : pc.isBound = true → ∀ ip, Listeners.aliasIP key = some ip → ip ∈ lo0.addrs) :
    AliasInv (s.goto key pc lo0) := by
  intro k ip hip hbound
  rw [Listeners.pc_goto] at hbound
  split_ifs at hbound with hk
  · exact hpc hbound ip (hk ▸ hip)
  · exact hlo0 ip (h k ip hip hbound)

lemma aliasInv_remove (h : AliasInv s) (honly : OnlyUser s key) {cmd : CmdOutcome}
    {s' : Listeners} (hst : s.remove key cmd = some s') : AliasInv s' := by
  obtain ⟨ip, hip, rfl⟩ := Option.map_eq_some_iff.mp hst
  intro k a ha hbound
  rw [Listeners.pc_goto] at hbound
  split_ifs at hbound with hk
  · exact nomatch hbound
  refine Lo0.mem_remove cmd ?_ (h k a ha hbound)
  -- a bound port of the same address would be another user
  rintro rfl
  cases hl : s.ports.lookup k with
  | none =>
    rw [Listeners.pc, hl] at hbound
    exact nomatch hbound
  | some pc =>
    rw [Listeners.pc, hl] at hbound
    have hidle := honly ⟨k, pc⟩ (GoMap.mem_entries_of_lookup hl) hk (ha.trans hip.symm)
    exact Bool.false_ne_true (hidle.symm.trans (ListenerPC.uses_of_isBound hbound))

/-- A removal by the only user takes the alias of no bound port. -/
lemma aliasInv_step (h : AliasInv s) {l : ListenerLabel} {s' : Listeners} (hok : SoleUser s l)
    (hst : s.step l = some s') : AliasInv s' := by
  cases l <;> simp only [Listeners.step] at hst <;> split at hst <;> try cases hst
  next key cmd _ _ ip _ _ =>
    have hmem : ∀ a, a ∈ s.lo0.addrs → a ∈ (s.lo0.ensure ip cmd).1.addrs :=
      fun a => Lo0.mem_ensure cmd
    split at hst <;> rename_i heq <;> rw [heq] at hmem <;> cases hst
    · exact h.goto hmem fun hb => nomatch hb
    · exact fun k a ha hbound => hmem a (h k a ha hbound)
  next ip _ hip =>
    split_ifs at hst with _ hmem <;> cases hst
    · refine h.goto (fun _ => id) fun _ a ha => ?_
      rw [hip] at ha
      cases ha
      exact hmem
    · exact h.goto (fun _ => id) fun hb => nomatch hb
  next key _ _ hpc =>
    split_ifs at hst <;> cases hst
    · exact h.goto (fun _ => id) fun _ a ha => h key a ha (by rw [hpc]; rfl)
    · exact h.goto (fun _ => id) fun hb => nomatch hb
  next => exact aliasInv_remove h hok hst
  next => exact h.goto (fun _ => id) fun hb => nomatch hb
  next => exact aliasInv_remove h hok hst

end

/-- A bound listener has its address on lo0, where a port removes the alias as its sole user. -/
theorem alias_outlives_listeners {s : Listeners} (h : listenerMachine.Reach SoleUser s)
    {key : PortKey} {ip : Addr} (hip : Listeners.aliasIP key = some ip)
    (hopen : s.pc key = .opened) : ip ∈ s.lo0.addrs := by
  have hinv : AliasInv s := by
    refine Machine.Reach.invariant (I := AliasInv) ?_ ?_ h
    · rintro _ rfl k a _ hbound
      exact nomatch hbound
    · intro s l s' hs hok hst
      exact aliasInv_step hs hok hst
  exact hinv key ip hip (by rw [hopen]; rfl)

instance (s : Listeners) (l : ListenerLabel) : Decidable (SoleUser s l) :=
  match l with
  | .cleanup key _ | .removeAlias key _ => inferInstanceAs (Decidable (∀ e ∈ s.ports.entries,
      e.1 ≠ key → Listeners.aliasIP e.1 = Listeners.aliasIP key → e.2.uses = false))
  | .ensure _ _ | .bind _ _ | .nodePort _ _ | .close _ => isTrue trivial

def openRun (key : PortKey) : List ListenerLabel :=
  [.ensure key .done, .bind key true, .nodePort key true]

def httpPort : PortKey := ⟨"10.43.0.10", 80, .TCP⟩

def httpsPort : PortKey := ⟨"10.43.0.10", 443, .TCP⟩

def retryRun : List ListenerLabel :=
  [.ensure httpPort .done, .bind httpPort true, .nodePort httpPort false,
      .cleanup httpPort .done] ++
    openRun httpPort ++ openRun httpsPort

theorem alias_outlives_listeners_retryRun :
    ∃ s, listenerMachine.run ⟨⟨∅, ∅⟩, ∅⟩ retryRun = some s ∧ s.pc httpsPort = .opened ∧
      .v4 0x0a2b000a#32 ∈ s.lo0.addrs := by
  exact Machine.exists_run_of (P := fun s => s.pc httpsPort = .opened) rfl (by decide) (by decide)
    fun s hreach hopen => ⟨hopen, alias_outlives_listeners hreach (by decide) hopen⟩

/-- One port of a ClusterIP takes the alias from another: as it closes, and as it fails to open. -/
theorem alias_removed_under_listener :
    (∃ s, listenerMachine.Reach Machine.always s ∧ listenerMachine.run ⟨⟨∅, ∅⟩, ∅⟩
        (openRun httpPort ++ openRun httpsPort ++
          [.close httpPort, .removeAlias httpPort .done]) = some s ∧
      s.pc httpsPort = .opened ∧ s.pc httpPort = .closed ∧ s.ports.keys ⊆ [httpPort, httpsPort] ∧
      .v4 0x0a2b000a#32 ∉ s.lo0.addrs) ∧
    ∃ s, listenerMachine.Reach Machine.always s ∧ listenerMachine.run ⟨⟨∅, ∅⟩, ∅⟩
        (openRun httpsPort ++ [.ensure httpPort .done, .bind httpPort true,
          .nodePort httpPort false, .cleanup httpPort .done]) = some s ∧
      s.pc httpsPort = .opened ∧ s.pc httpPort = .closed ∧ s.ports.keys ⊆ [httpPort, httpsPort] ∧
      .v4 0x0a2b000a#32 ∉ s.lo0.addrs :=
  ⟨Machine.Reach.exists_run_eq rfl (Machine.meets_always _ _) (by decide),
    Machine.Reach.exists_run_eq rfl (Machine.meets_always _ _) (by decide)⟩

end DarwinNet.Proxy
