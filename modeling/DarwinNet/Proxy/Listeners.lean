import DarwinNet.Proxy.NodePortSwap
import DarwinNet.Proxy.Workers

/-!
The listener a worker keeps for its port (`proxy.go`: `runWorker`, `openListener`,
`listener.Close`). The worker opens a listener for the port of an event if it has none, and
retries a failed open on a timer; its NodePort group is one of the set all workers share
(`nodeportset.go`), so their operations and the address swaps go on meanwhile. What the alias,
the binds and the timer do is the label's choice.

An event that finds a listener open leaves it as it is, so a NodePort that is changed, added or
removed then is not followed (`listener_keeps_old_nodePort`). Where such an event has the
NodePort of the one before it, the listener serves the NodePort of the last event
(`listener_matches_desired`).
-/

namespace DarwinNet.Proxy

open Lib Netip Api

/-! ## The listener -/

/-- An open listener: the alias it holds, its ClusterIP socket, a datagram relay or a stream
listener, and its NodePort group. -/
structure PortListener where
  aliasIP : Addr
  clusterAP : AddrPort
  udp : Bool
  nodePorts : Option Nat
  deriving DecidableEq, Repr

structure OpenEnv where
  ensure : Option String
  listen : Option String
  refuse : Nat → Option String

inductive OpenError
  | parse (clusterIP : String)
  | ensure (ip : Addr) (err : String)
  | listen (ap : AddrPort) (err : String)
  | nodePort (err : String)
  deriving DecidableEq, Repr

/-- `none` while a pending swap holds the lock `nodePortSet.open` needs. -/
def openListener (np : NodePortSet) (key : PortKey) (port : ServicePort) (env : OpenEnv) :
    Option (NodePortSet × Except OpenError PortListener) :=
  match parseAddr key.clusterIP with
  | none => some (np, .error (.parse key.clusterIP))
  | some ip =>
    match env.ensure with
    | some err => some (np, .error (.ensure ip err))
    | none =>
      let clusterAP : AddrPort := ⟨ip, UInt16.ofInt port.port⟩
      match env.listen with
      | some err => some (np, .error (.listen clusterAP err))
      | none =>
        if key.protocol = .UDP then some (np, .ok ⟨ip, clusterAP, true, none⟩)
        else if port.nodePort = 0 then some (np, .ok ⟨ip, clusterAP, false, none⟩)
        else if np.pending = none then
          match np.openGroup env.refuse port.nodePort with
          | (np, .error err) => some (np, .error (.nodePort err))
          | (np, .ok g) => some (np, .ok ⟨ip, clusterAP, false, some g⟩)
        else none

inductive LoopEvent
  | barrier
  | port (p : ServicePort)
  | delete
  deriving DecidableEq, Repr

def LoopEvent.note (last : Option ServicePort) : LoopEvent → Option ServicePort
  | .barrier => last
  | .port p => some p
  | .delete => none

def LoopEvent.desired : LoopEvent → Option ServicePort
  | .port p => some p
  | _ => none

/-- A port event goes to the worker of its port's key. -/
def LoopEvent.routed (key : PortKey) : LoopEvent → Bool
  | .port p => decide (⟨key.clusterIP, p.port, defaultProto p.protocol⟩ = key)
  | _ => true

/-- `openRetryInitial` and `openRetryMax`, in milliseconds. -/
def openRetryInitial : Nat := 250

def openRetryMax : Nat := 30000

/-- A worker's channel and the variables of its loop, with the set of NodePort groups. `sent`
is the port of the last event sent to the worker, `taken` of the last one it took. -/
structure PortLoop where
  np : NodePortSet
  ch : List LoopEvent
  ln : Option PortListener
  pending : Option ServicePort
  backoff : Nat
  armed : Bool
  exited : Bool
  sent : Option ServicePort
  taken : Option ServicePort

inductive LoopLabel
  | send (ev : LoopEvent)
  | take (env : OpenEnv)
  | retry (env : OpenEnv)
  | stop
  | elsewhere (l : NodePortLabel)

def NodePortLabel.closes : NodePortLabel → Option Nat
  | .closeGroup g => some g
  | _ => none

namespace PortLoop

def group (s : PortLoop) : Option Nat := s.ln.bind fun l => l.nodePorts

def openPort (s : PortLoop) (key : PortKey) (port : ServicePort) (env : OpenEnv) :
    Option PortLoop :=
  match openListener s.np key port env with
  | none => none
  | some (np, .error _) =>
    some { s with
      np, pending := some port, armed := true, backoff := min (2 * s.backoff) openRetryMax }
  | some (np, .ok l) =>
    some { s with np, ln := some l, pending := none, backoff := openRetryInitial }

/-- The worker returns; `listener.Close` takes the set's lock if there is a group. -/
def exit (s : PortLoop) : Option PortLoop :=
  match s.group with
  | none => some { s with ln := none, pending := none, armed := false, exited := true }
  | some g =>
    if s.np.pending = none then
      some { s with
        np := s.np.closeGroup g, ln := none, pending := none, armed := false, exited := true }
    else none

def handle (s : PortLoop) (key : PortKey) (env : OpenEnv) : LoopEvent → Option PortLoop
  | .barrier => some s
  | .delete => s.exit
  | .port p =>
    match s.ln with
    | some _ => some s
    | none => s.openPort key p env

/-- A worker that has taken the event, before it handles it. -/
def took (s : PortLoop) (ev : LoopEvent) (ch : List LoopEvent) : PortLoop :=
  { s with ch, taken := ev.note s.taken }

/-- Only events for the worker's key are sent to it, and only the worker closes the group of
its listener. -/
def step (key : PortKey) (s : PortLoop) : LoopLabel → Option PortLoop
  | .send ev =>
    if s.ch.length < workerBuffer ∧ ev.routed key then
      some { s with ch := s.ch ++ [ev], sent := ev.note s.sent }
    else none
  | .take env =>
    match s.exited, s.ch with
    | false, ev :: ch => (s.took ev ch).handle key env ev
    | _, _ => none
  | .retry env =>
    if s.exited = false ∧ s.armed = true then
      match s.ln, s.pending with
      | none, some p => { s with armed := false }.openPort key p env
      | _, _ => some { s with armed := false }
    else none
  | .stop => if s.exited then none else s.exit
  | .elsewhere l =>
    if l.closes.isSome ∧ l.closes = s.group then none
    else (nodePortStep s.np l).map fun np => { s with np }

end PortLoop

def startLoop (np : NodePortSet) : PortLoop :=
  ⟨np, [], none, none, openRetryInitial, false, false, none, none⟩

def loopMachine (key : PortKey) : Machine PortLoop LoopLabel where
  init s := ∃ addrs ls np, NodePortSet.nodePortMachine.run (newNodePortSet addrs) ls = some np ∧
    s = startLoop np
  step := PortLoop.step key

/-- The listener serves the NodePort of the port: its group is open, is for that NodePort and
listens on it at every address of the set, and nowhere else. There is no group for UDP or
without a NodePort. -/
def ServesNodePort (key : PortKey) (np : NodePortSet) (port : ServicePort) (l : PortListener) :
    Prop :=
  if key.protocol = .UDP ∨ port.nodePort = 0 then l.nodePorts = none
  else ∃ g grp, l.nodePorts = some g ∧ np.groups.lookup g = some grp ∧ grp.port = port.nodePort ∧
    ∀ addr, (grp.lns.lookup addr).isSome ↔ addr ∈ bindAddrs np.addrs port.nodePort

/-! ## What a group listens on -/

namespace NodePortSet

variable {s s' : NodePortSet} {g : Nat} {grp : NodePortGroup}

/-- A group that is not open yet has no number; an open one listens on its NodePort at every
address of the set, and after a pending swap it will at every address of the new set. -/
structure Listening (s : NodePortSet) : Prop where
  next : ∀ g, s.nextGroup ≤ g → s.groups.lookup g = none
  bound : ∀ g grp, s.groups.lookup g = some grp →
    ∀ addr, (grp.lns.lookup addr).isSome ↔ addr ∈ bindAddrs s.addrs grp.port
  swap : ∀ id sw, s.pending = some (id, sw) → ∀ g grp, s.groups.lookup g = some grp →
    ∃ lns, sw.added.lookup g = some lns ∧
      ∀ addr, (lns.lookup addr).isSome ↔ addr ∈ grp.missing sw.addrs

/-- The group is still there, on its port. -/
def KeepsGroup (s s' : NodePortSet) (g : Nat) : Prop :=
  ∀ grp, s.groups.lookup g = some grp → ∃ grp', s'.groups.lookup g = some grp' ∧
    grp'.port = grp.port

lemma listening_newNodePortSet (addrs : List Addr) : (newNodePortSet addrs).Listening where
  next _ _ := rfl
  bound g grp hgrp := by cases hgrp
  swap id sw hsw := by cases hsw

lemma Listening.of_groups (h : s.Listening) (hnext : s'.nextGroup = s.nextGroup)
    (hgroups : s'.groups = s.groups) (haddrs : s'.addrs = s.addrs)
    (hpending : s'.pending = s.pending ∨ s'.pending = none) : s'.Listening where
  next g hg := by
    rw [hgroups]
    exact h.next g (hnext ▸ hg)
  bound g grp hgrp := by
    rw [haddrs]
    exact h.bound g grp (hgroups ▸ hgrp)
  swap id sw hsw g grp hgrp := by
    rcases hpending with hp | hp
    · exact h.swap id sw (hp ▸ hsw) g grp (hgroups ▸ hgrp)
    · rw [hp] at hsw
      cases hsw

lemma keepsGroup_of_groups (hgroups : s'.groups = s.groups) (g : Nat) : KeepsGroup s s' g :=
  fun grp hgrp => ⟨grp, hgroups ▸ hgrp, rfl⟩

lemma openGroup_ok {refuse : Nat → Option String} {nodePort : Int}
    (hopen : s.openGroup refuse nodePort = (s', .ok g)) :
    g = s.nextGroup ∧ s'.nextGroup = s.nextGroup + 1 ∧ s'.addrs = s.addrs ∧
      s'.pending = s.pending ∧ ∃ lns, s'.groups = s.groups.insert g ⟨nodePort, lns⟩ ∧
        ∀ addr, (lns.lookup addr).isSome ↔ addr ∈ bindAddrs s.addrs nodePort := by
  unfold openGroup at hopen
  split at hopen
  · cases hopen
  · rename_i k lns hbind
    cases hopen
    exact ⟨rfl, rfl, rfl, rfl, lns, rfl, bindAll_keys hbind⟩

lemma openGroup_error {refuse : Nat → Option String} {nodePort : Int} {err : String}
    (hopen : s.openGroup refuse nodePort = (s', .error err)) :
    s'.nextGroup = s.nextGroup ∧ s'.groups = s.groups ∧ s'.addrs = s.addrs ∧
      s'.pending = s.pending := by
  unfold openGroup at hopen
  split at hopen
  · cases hopen
    exact ⟨rfl, rfl, rfl, rfl⟩
  · cases hopen

lemma Listening.openGroup (h : s.Listening) (hp : s.pending = none)
    (refuse : Nat → Option String) (nodePort : Int) : (s.openGroup refuse nodePort).1.Listening ∧
      ∀ g, KeepsGroup s (s.openGroup refuse nodePort).1 g := by
  cases hopen : s.openGroup refuse nodePort with
  | mk s' r =>
    cases r with
    | error err =>
      obtain ⟨hnext, hgroups, haddrs, hpend⟩ := openGroup_error hopen
      exact ⟨h.of_groups hnext hgroups haddrs (.inl hpend), keepsGroup_of_groups hgroups⟩
    | ok g =>
      obtain ⟨rfl, hnext, haddrs, hpend, lns, hgroups, hkeys⟩ := openGroup_ok hopen
      refine ⟨⟨fun g hg => ?_, fun g grp hgrp => ?_, fun id sw hsw => ?_⟩, fun g grp hgrp => ?_⟩
      · rw [hnext] at hg
        rw [hgroups, GoMap.lookup_insert_ite, if_neg (by omega)]
        exact h.next g (by omega)
      · rw [hgroups, GoMap.lookup_insert_ite] at hgrp
        rw [haddrs]
        split at hgrp
        · cases hgrp
          exact hkeys
        · exact h.bound g grp hgrp
      · rw [hpend, hp] at hsw
        cases hsw
      · have hne : g ≠ s.nextGroup := by
          rintro rfl
          rw [h.next _ le_rfl] at hgrp
          cases hgrp
        exact ⟨grp, by rw [hgroups, GoMap.lookup_insert_ite, if_neg hne]; exact hgrp, rfl⟩

lemma Listening.closeGroup (h : s.Listening) (hp : s.pending = none) (g : Nat) :
    (s.closeGroup g).Listening ∧ ∀ g', g' ≠ g → KeepsGroup s (s.closeGroup g) g' := by
  unfold NodePortSet.closeGroup
  split
  · exact ⟨h, fun g' _ => keepsGroup_of_groups rfl g'⟩
  refine ⟨⟨fun g' hg' => ?_, fun g' grp' hgrp' => ?_, fun id sw hsw => ?_⟩,
    fun g' hne grp' hgrp' => ?_⟩
  · rw [GoMap.lookup_erase_ite, h.next g' hg', ite_self]
  · rw [GoMap.lookup_erase_ite] at hgrp'
    split at hgrp'
    · cases hgrp'
    · exact h.bound g' grp' hgrp'
  · simp only [hp] at hsw
    cases hsw
  · exact ⟨grp', by rw [GoMap.lookup_erase_ite, if_neg hne]; exact hgrp', rfl⟩

lemma Listening.prepare (h : s.Listening) {order : List Nat}
    (horder : order.Perm s.groups.keys) (refuse : Nat → Option String) (addrs : List Addr) :
    (s.prepareNodePortAddresses refuse order addrs).1.Listening ∧
      ∀ g, KeepsGroup s (s.prepareNodePortAddresses refuse order addrs).1 g := by
  unfold prepareNodePortAddresses
  split
  · exact ⟨h.of_groups rfl rfl rfl (.inl rfl), keepsGroup_of_groups rfl⟩
  rename_i k added hrun
  refine ⟨⟨h.next, h.bound, fun id sw hsw => ?_⟩, keepsGroup_of_groups rfl⟩
  cases hsw
  exact prepareLoop_swap horder hrun

lemma Listening.commit (h : s.Listening) {id : Nat} {sw : NodePortSwap}
    (hp : s.pending = some (id, sw)) :
    (s.commit sw).Listening ∧ ∀ g, KeepsGroup s (s.commit sw) g := by
  refine ⟨⟨fun g hg => ?_, fun g grp hgrp addr => ?_, fun id sw hsw => ?_⟩, fun g grp hgrp => ?_⟩
  · simp only [NodePortSet.commit, GoMap.lookup_mapValues]
    rw [h.next g hg, Option.map_none]
  · simp only [NodePortSet.commit, GoMap.lookup_mapValues, Option.map_eq_some_iff] at hgrp
    obtain ⟨grp₀, hgrp₀, rfl⟩ := hgrp
    obtain ⟨lns, hlns, hkeys⟩ := h.swap id sw hp g grp₀ hgrp₀
    rw [lookup_commitGroup hlns hkeys]
    -- an address of the new set is one the group has or one it was missing
    have hkey := hkeys addr
    simp only [NodePortGroup.missing, List.mem_filter, decide_eq_true_eq] at hkey
    simp only [NodePortSet.commit, NodePortSwap.commitGroup]
    split
    · rename_i hin
      cases hl : grp₀.lns.lookup addr with
      | none => simpa [hl, hin] using hkey
      | some l => simpa using hin
    · rename_i hout
      simpa using hout
  · cases hsw
  · refine ⟨sw.commitGroup g grp, ?_, rfl⟩
    simp [NodePortSet.commit, GoMap.lookup_mapValues, hgrp]

lemma Listening.step (h : s.Listening) {l : NodePortLabel} (hst : nodePortStep s l = some s') :
    s'.Listening ∧ ∀ g, l.closes ≠ some g → KeepsGroup s s' g := by
  cases l with
  | openGroup refuse nodePort =>
    simp only [nodePortStep, Option.ite_none_right_eq_some, Option.some.injEq] at hst
    obtain ⟨hp, rfl⟩ := hst
    obtain ⟨hl, hk⟩ := h.openGroup hp refuse nodePort
    exact ⟨hl, fun g _ => hk g⟩
  | closeGroup g =>
    simp only [nodePortStep, Option.ite_none_right_eq_some, Option.some.injEq] at hst
    obtain ⟨hp, rfl⟩ := hst
    obtain ⟨hl, hk⟩ := h.closeGroup hp g
    exact ⟨hl, fun g' hne => hk g' fun heq => hne (heq ▸ rfl)⟩
  | prepare refuse order addrs =>
    simp only [nodePortStep, Option.ite_none_right_eq_some, Option.some.injEq] at hst
    obtain ⟨⟨-, horder⟩, rfl⟩ := hst
    obtain ⟨hl, hk⟩ := h.prepare horder refuse addrs
    exact ⟨hl, fun g _ => hk g⟩
  | finish id keep =>
    simp only [nodePortStep, Option.ite_none_right_eq_some, Option.some.injEq] at hst
    obtain ⟨-, rfl⟩ := hst
    unfold finish
    split
    · exact ⟨h, fun g _ => keepsGroup_of_groups rfl g⟩
    rename_i sw hp
    split
    · cases keep with
      | false => exact ⟨h.of_groups rfl rfl rfl (.inr rfl), fun g _ => keepsGroup_of_groups rfl g⟩
      | true =>
        obtain ⟨hl, hk⟩ := h.commit hp
        exact ⟨hl, fun g _ => hk g⟩
    · exact ⟨h, fun g _ => keepsGroup_of_groups rfl g⟩

lemma Listening.run (h : s.Listening) {ls : List NodePortLabel}
    (hrun : nodePortMachine.run s ls = some s') : s'.Listening := by
  induction ls generalizing s with
  | nil =>
    cases hrun
    exact h
  | cons l ls ih =>
    obtain ⟨t, ht, hrun'⟩ := Option.bind_eq_some_iff.mp hrun
    exact ih (h.step ht).1 hrun'

end NodePortSet

variable {key : PortKey} {np np' : NodePortSet} {port : ServicePort} {env : OpenEnv}
  {l : PortListener}

lemma openListener_listening (h : np.Listening) {r : Except OpenError PortListener}
    (hopen : openListener np key port env = some (np', r)) : np'.Listening := by
  unfold openListener at hopen
  split at hopen
  · cases hopen
    exact h
  split at hopen
  · cases hopen
    exact h
  dsimp only at hopen
  split at hopen
  · cases hopen
    exact h
  split_ifs at hopen with hudp hzero hp
  · cases hopen
    exact h
  · cases hopen
    exact h
  · have hgroup := (h.openGroup hp env.refuse port.nodePort).1
    split at hopen <;> rename_i heq <;> cases hopen <;> rw [heq] at hgroup <;> exact hgroup

lemma openListener_serves (hopen : openListener np key port env = some (np', .ok l)) :
    ServesNodePort key np' port l := by
  unfold openListener at hopen
  split at hopen
  · cases hopen
  split at hopen
  · cases hopen
  dsimp only at hopen
  split at hopen
  · cases hopen
  unfold ServesNodePort
  split_ifs at hopen with hudp hzero hp
  · cases hopen
    rw [if_pos (.inl hudp)]
  · cases hopen
    rw [if_pos (.inr hzero)]
  · split at hopen
    · cases hopen
    rename_i np₁ g heq
    cases hopen
    obtain ⟨rfl, -, haddrs, -, lns, hgroups, hkeys⟩ := NodePortSet.openGroup_ok heq
    rw [if_neg (by simp [hudp, hzero])]
    refine ⟨_, ⟨port.nodePort, lns⟩, rfl, ?_, rfl, ?_⟩
    · rw [hgroups, GoMap.lookup_insert_ite, if_pos rfl]
    · rw [haddrs]
      exact hkeys

lemma ServesNodePort.step (h : ServesNodePort key np port l) (hlist : np.Listening)
    {a : NodePortLabel} (hclose : ¬ (a.closes.isSome ∧ a.closes = l.nodePorts))
    (hst : nodePortStep np a = some np') : ServesNodePort key np' port l := by
  obtain ⟨hlist', hkeep⟩ := hlist.step hst
  unfold ServesNodePort at h ⊢
  split
  · rename_i hnone
    rwa [if_pos hnone] at h
  rename_i hsome
  rw [if_neg hsome] at h
  obtain ⟨g, grp, hg, hgrp, hport, -⟩ := h
  have hne : a.closes ≠ some g := by
    intro heq
    exact hclose ⟨by rw [heq]; rfl, heq.trans hg.symm⟩
  obtain ⟨grp', hgrp', hport'⟩ := hkeep g hne grp hgrp
  refine ⟨g, grp', hg, hgrp', hport'.trans hport, ?_⟩
  rw [← hport, ← hport']
  exact hlist'.bound g grp' hgrp'

lemma ServesNodePort.of_nodePort {port' : ServicePort} (h : ServesNodePort key np port l)
    (hsame : key.protocol = .UDP ∨ port'.nodePort = port.nodePort) :
    ServesNodePort key np port' l := by
  unfold ServesNodePort at h ⊢
  rcases hsame with hudp | hsame
  · rw [if_pos (.inl hudp)] at h ⊢
    exact h
  · rw [hsame]
    exact h

/-- An event the worker takes while its listener is open has the NodePort of the one before. -/
def KeepsNodePort (key : PortKey) (s : PortLoop) : LoopLabel → Prop
  | .take _ => ∀ p ∈ s.ch.head?.bind LoopEvent.desired, s.ln.isSome →
      key.protocol = .UDP ∨ s.taken.map (fun q => q.nodePort) = some p.nodePort
  | _ => True

instance decidableKeepsNodePort (key : PortKey) (s : PortLoop) (a : LoopLabel) :
    Decidable (KeepsNodePort key s a) :=
  match a with
  | .take _ => inferInstanceAs (Decidable (∀ p ∈ s.ch.head?.bind LoopEvent.desired, s.ln.isSome →
      key.protocol = .UDP ∨ s.taken.map (fun q => q.nodePort) = some p.nodePort))
  | .send _ | .retry _ | .stop | .elsewhere _ => isTrue trivial

/-- The listener serves the event taken last, and the channel holds what was sent since. -/
structure LoopInv (key : PortKey) (s : PortLoop) : Prop where
  np : s.np.Listening
  sent : s.sent = s.ch.foldl LoopEvent.note s.taken
  pending : ∀ p, s.pending = some p → s.taken = some p ∧ s.ln = none
  serves : ∀ l, s.ln = some l → ∃ p, s.taken = some p ∧ ServesNodePort key s.np p l

variable {s t : PortLoop}

lemma LoopInv.closed (h : s.np.Listening) (hsent : s.sent = s.ch.foldl LoopEvent.note s.taken)
    (hln : s.ln = none) (hpending : s.pending = none) : LoopInv key s where
  np := h
  sent := hsent
  pending p hp := by
    rw [hpending] at hp
    cases hp
  serves l hl := by
    rw [hln] at hl
    cases hl

lemma LoopInv.openPort (h : s.np.Listening) (hsent : s.sent = s.ch.foldl LoopEvent.note s.taken)
    (hln : s.ln = none) (htaken : s.taken = some port) (hst : s.openPort key port env = some t) :
    LoopInv key t := by
  unfold PortLoop.openPort at hst
  split at hst
  · cases hst
  · rename_i np err hopen
    cases hst
    refine ⟨openListener_listening h hopen, hsent, fun p hp => ?_, fun l hl => ?_⟩
    · cases hp
      exact ⟨htaken, hln⟩
    · simp only [hln] at hl
      cases hl
  · rename_i np l hopen
    cases hst
    refine ⟨openListener_listening h hopen, hsent, fun p hp => ?_, fun l' hl => ?_⟩
    · cases hp
    · cases hl
      exact ⟨port, htaken, openListener_serves hopen⟩

lemma LoopInv.exit (h : s.np.Listening) (hsent : s.sent = s.ch.foldl LoopEvent.note s.taken)
    (hst : s.exit = some t) : LoopInv key t := by
  unfold PortLoop.exit at hst
  split at hst
  · cases hst
    exact .closed h hsent rfl rfl
  rename_i g hg
  simp only [Option.ite_none_right_eq_some, Option.some.injEq] at hst
  obtain ⟨hp, rfl⟩ := hst
  exact .closed (h.closeGroup hp g).1 hsent rfl rfl

lemma LoopInv.take (h : LoopInv key s) {ev : LoopEvent} {ch : List LoopEvent}
    (hch : s.ch = ev :: ch) (hok : KeepsNodePort key s (.take env))
    (hst : (s.took ev ch).handle key env ev = some t) : LoopInv key t := by
  have hsent : s.sent = ch.foldl LoopEvent.note (ev.note s.taken) := by
    rw [h.sent, hch, List.foldl_cons]
  cases ev with
  | barrier =>
    cases hst
    exact ⟨h.np, hsent, h.pending, h.serves⟩
  | delete => exact .exit (s := s.took .delete ch) h.np hsent hst
  | port p =>
    simp only [PortLoop.handle] at hst
    split at hst
    · rename_i l hl
      have hl' : s.ln = some l := hl
      cases hst
      refine ⟨h.np, hsent, fun q hq => ?_, fun l₁ hl₁ => ⟨p, rfl, ?_⟩⟩
      · have hnone := (h.pending q hq).2
        rw [hl'] at hnone
        cases hnone
      · obtain ⟨q, hq, hserves⟩ := h.serves l₁ hl₁
        refine hserves.of_nodePort ?_
        have hkeep := hok p (by rw [hch]; rfl) (by rw [hl']; rfl)
        rw [hq] at hkeep
        exact hkeep.imp_right fun heq => (Option.some.inj heq).symm
    · rename_i hln
      exact .openPort (s := s.took (.port p) ch) h.np hsent hln rfl hst

/-- An event that keeps the NodePort, or any other step, keeps `LoopInv`. -/
lemma LoopInv.step (h : LoopInv key s) {a : LoopLabel} (hok : KeepsNodePort key s a)
    (hst : s.step key a = some t) : LoopInv key t := by
  cases a with
  | send ev =>
    simp only [PortLoop.step, Option.ite_none_right_eq_some, Option.some.injEq] at hst
    obtain ⟨-, rfl⟩ := hst
    refine ⟨h.np, ?_, h.pending, h.serves⟩
    rw [List.foldl_append, ← h.sent]
    rfl
  | take env =>
    simp only [PortLoop.step] at hst
    split at hst
    · rename_i ev ch hexited hch
      exact h.take hch hok hst
    · cases hst
  | retry env =>
    simp only [PortLoop.step, Option.ite_none_right_eq_some] at hst
    obtain ⟨-, hst⟩ := hst
    split at hst
    · rename_i p hln hp
      exact .openPort (s := { s with armed := false }) h.np h.sent hln (h.pending p hp).1 hst
    · cases hst
      exact ⟨h.np, h.sent, h.pending, h.serves⟩
  | stop =>
    simp only [PortLoop.step, Option.ite_none_left_eq_some] at hst
    exact .exit h.np h.sent hst.2
  | elsewhere a =>
    simp only [PortLoop.step, Option.ite_none_left_eq_some, Option.map_eq_some_iff] at hst
    obtain ⟨hclose, np, hnp, rfl⟩ := hst
    refine ⟨(h.np.step hnp).1, h.sent, h.pending, fun l hl => ?_⟩
    obtain ⟨p, hp, hserves⟩ := h.serves l hl
    have hgroup : s.group = l.nodePorts := by
      have hl' : s.ln = some l := hl
      rw [PortLoop.group, hl', Option.bind_some]
    exact ⟨p, hp, hserves.step h.np (hgroup ▸ hclose) hnp⟩

lemma loopInv_init (h : (loopMachine key).init s) : LoopInv key s := by
  obtain ⟨addrs, ls, np, hrun, rfl⟩ := h
  exact .closed ((NodePortSet.listening_newNodePortSet addrs).run hrun) rfl rfl rfl

/-- An open listener serves the NodePort of the last event, where no event changes that of an open
TCP listener. -/
theorem listener_matches_desired (h : (loopMachine key).Reach (KeepsNodePort key) s)
    (hdrained : s.ch = []) (hln : s.ln = some l) :
    ∃ p, s.sent = some p ∧ ServesNodePort key s.np p l := by
  have hinv : LoopInv key s :=
    Machine.Reach.invariant (fun _ => loopInv_init) (fun _ _ _ hs hok hst => hs.step hok hst) h
  obtain ⟨p, hp, hserves⟩ := hinv.serves l hln
  refine ⟨p, ?_, hserves⟩
  rw [hinv.sent, hdrained, List.foldl_nil, hp]

/-! ## Two runs of a web Service's worker -/

def webKey : PortKey := ⟨"10.43.0.10", 80, .TCP⟩

def webPort (nodePort : Int) : ServicePort := ⟨"http", 80, 8080, .TCP, nodePort⟩

def opens : OpenEnv := ⟨none, none, fun _ => none⟩

lemma init_startLoop (key : PortKey) (addrs : List Addr) :
    (loopMachine key).init (startLoop (newNodePortSet addrs)) :=
  ⟨addrs, [], _, rfl, rfl⟩

def changedNodePort : List LoopLabel :=
  [.send (.port (webPort 30080)), .take opens, .send (.port (webPort 30090)), .take opens]

/-- A changed NodePort does not reach the open listener. -/
theorem listener_keeps_old_nodePort :
    ∃ s l p, (loopMachine webKey).Reach Machine.always s ∧ s.ch = [] ∧ s.pending = none ∧
      s.ln = some l ∧ s.sent = some p ∧ ¬ ServesNodePort webKey s.np p l := by
  obtain ⟨s, l, hs, hch, hpending, hln, hsent, hgroup⟩ :
      ∃ s l, (loopMachine webKey).run (startLoop (newNodePortSet [])) changedNodePort = some s ∧
        s.ch = [] ∧ s.pending = none ∧ s.ln = some l ∧ s.sent = some (webPort 30090) ∧
        ∃ grp, l.nodePorts = some 0 ∧ s.np.groups.lookup 0 = some grp ∧ grp.port = 30080 :=
    ⟨_, _, rfl, rfl, rfl, rfl, rfl, _, rfl, rfl, rfl⟩
  refine ⟨s, l, _, .of_run changedNodePort (init_startLoop webKey []) (Machine.meets_always _ _) hs,
    hch, hpending, hln, hsent, fun hserves => ?_⟩
  obtain ⟨grp, hg, hgrp, hport⟩ := hgroup
  rw [ServesNodePort, if_neg (by decide)] at hserves
  obtain ⟨g', grp', hg', hgrp', hport', -⟩ := hserves
  rw [hg] at hg'
  cases hg'
  rw [hgrp] at hgrp'
  cases hgrp'
  rw [hport] at hport'
  cases hport'

/-- The first open fails at the NodePort's bind and is retried; a swap of the address set and an
update of the endpoints follow. -/
def retriedNodePort : List LoopLabel :=
  [.send (.port (webPort 30080)), .take ⟨none, none, fun _ => some "address already in use"⟩,
    .retry opens, .elsewhere (.prepare (fun _ => none) [0] [.v4 0xc0a80002#32]),
    .elsewhere (.finish 0 true), .send (.port (webPort 30080)), .take opens]

theorem listener_matches_desired_retried :
    ∃ s l p, (loopMachine webKey).run (startLoop (newNodePortSet [])) retriedNodePort = some s ∧
      s.ln = some l ∧ l.nodePorts = some 0 ∧ s.np.addrs = [.v4 0xc0a80002#32] ∧
      s.sent = some p ∧ p.nodePort = 30080 ∧ ServesNodePort webKey s.np p l := by
  obtain ⟨s, l, hs, hch, hln, hgroup, haddrs, hsent⟩ :
      ∃ s l, (loopMachine webKey).run (startLoop (newNodePortSet [])) retriedNodePort = some s ∧
        s.ch = [] ∧ s.ln = some l ∧ l.nodePorts = some 0 ∧ s.np.addrs = [.v4 0xc0a80002#32] ∧
        s.sent = some (webPort 30080) :=
    ⟨_, _, rfl, rfl, rfl, rfl, rfl, rfl⟩
  have hmeets : (loopMachine webKey).Meets (KeepsNodePort webKey)
      (startLoop (newNodePortSet [])) retriedNodePort := by
    decide +kernel
  obtain ⟨p, hp, hserves⟩ := listener_matches_desired
    (.of_run retriedNodePort (init_startLoop webKey []) hmeets hs) hch hln
  rw [hsent] at hp
  cases hp
  exact ⟨s, l, _, hs, hln, hgroup, haddrs, hsent, rfl, hserves⟩

end DarwinNet.Proxy
