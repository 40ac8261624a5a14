import DarwinNet.Netip.Text
import DarwinNet.Lib.GoMap
import DarwinNet.Lib.Machine

/-!
The NodePort address set (`nodeportset.go`): the groups of listeners open on it
and the two-step swap of the set under all of them.

A listener is a number; the sockets record for each open one its address and the
group whose `serve` runs on it. Whether a bind succeeds is the environment's
choice: `refuse n` is the error of the bind that would open listener `n`. A
prepared swap holds the set's lock until it is finished. The order in which a
prepare visits the groups is part of its label.

A series of binds that fails leaves open what was open before (`bindAll_error`,
`prepareLoop_error`).
-/

namespace DarwinNet.Proxy

open Lib Netip

/-! ## Bind addresses -/

def joinHostPort (host port : String) : String :=
  if ':' ∈ host.toList then "[" ++ host ++ "]:" ++ port else host ++ ":" ++ port

/-- Where a NodePort listens: the wildcard on the empty set, or every address. -/
def bindAddrs (addrs : List Addr) (nodePort : Int) : List String :=
  if addrs = [] then [joinHostPort "" (toString nodePort)]
  else addrs.map fun a => joinHostPort a.string (toString nodePort)

example : bindAddrs [] 30080 = [":30080"] := by decide
example : bindAddrs [.v4 0x7f000001#32, .v6 1#128 ""] 30080 =
    ["127.0.0.1:30080", "[::1]:30080"] := by
  decide

lemma joinHostPort_inj {a b : Addr} {port : String}
    (h : joinHostPort a.string port = joinHostPort b.string port) : a = b := by
  -- without the port, a bracketed text still has a colon in it
  have hbracket : ∀ x y : Addr, ':' ∈ x.string.toList → ':' ∉ y.string.toList →
      "[" ++ x.string ++ "]:" ++ port ≠ y.string ++ ":" ++ port := by
    intro x y hx hy hxy
    have hlist := congrArg String.toList hxy
    simp only [String.toList_append] at hlist
    have hcut : (['['] ++ x.string.toList ++ [']']) ++ [':'] = y.string.toList ++ [':'] := by
      simpa using List.append_cancel_right hlist
    have hhost := List.append_cancel_right hcut
    exact hy (hhost ▸ by simp [hx])
  simp only [joinHostPort] at h
  split at h <;> split at h
  · refine Addr.string_inj (String.toList_injective ?_)
    simpa using congrArg String.toList h
  · exact absurd h (hbracket a b ‹_› ‹_›)
  · exact absurd h.symm (hbracket b a ‹_› ‹_›)
  · refine Addr.string_inj (String.toList_injective ?_)
    simpa using congrArg String.toList h

lemma bindAddrs_nodup {addrs : List Addr} (h : addrs.Nodup) (nodePort : Int) :
    (bindAddrs addrs nodePort).Nodup := by
  unfold bindAddrs
  split
  · simp
  · exact h.map fun a b => joinHostPort_inj

structure Listener where
  addr : String
  group : Nat
  deriving DecidableEq, Repr

structure Sockets where
  next : Nat
  opened : GoMap Nat Listener

def Sockets.listen (k : Sockets) (refuse : Nat → Option String) (group : Nat) (addr : String) :
    Except String (Nat × Sockets) :=
  match refuse k.next with
  | some err => .error err
  | none => .ok (k.next, ⟨k.next + 1, k.opened.insert k.next ⟨addr, group⟩⟩)

def Sockets.close (k : Sockets) (ls : List Nat) : Sockets :=
  { k with opened := GoMap.eraseAll k.opened ls }

def listenersOf (lns : GoMap String Nat) : List Nat := lns.entries.map fun e => e.2

def closeListeners (k : Sockets) (lns : GoMap String Nat) : Sockets := k.close (listenersOf lns)

def bindAllLoop (refuse : Nat → Option String) (group : Nat) :
    Sockets → GoMap String Nat → List String → Sockets × Except String (GoMap String Nat)
  | k, out, [] => (k, .ok out)
  | k, out, addr :: want =>
    match k.listen refuse group addr with
    | .error err => (closeListeners k out, .error ("listen nodePort " ++ addr ++ ": " ++ err))
    | .ok (l, k') => bindAllLoop refuse group k' (out.insert addr l) want

def bindAll (refuse : Nat → Option String) (group : Nat) (k : Sockets) (want : List String) :
    Sockets × Except String (GoMap String Nat) :=
  bindAllLoop refuse group k ∅ want

structure NodePortGroup where
  port : Int
  lns : GoMap String Nat

/-- A prepared change: the new set and, per group, the listeners opened for it. -/
structure NodePortSwap where
  addrs : List Addr
  added : GoMap Nat (GoMap String Nat)

structure NodePortSet where
  addrs : List Addr
  groups : GoMap Nat NodePortGroup
  socks : Sockets
  nextGroup : Nat
  pending : Option (Nat × NodePortSwap)
  nextSwap : Nat

def newNodePortSet (addrs : List Addr) : NodePortSet := ⟨addrs, ∅, ⟨0, ∅⟩, 0, none, 0⟩

/-- `open`: the new group, or the error of the bind that failed. -/
def NodePortSet.openGroup (s : NodePortSet) (refuse : Nat → Option String) (nodePort : Int) :
    NodePortSet × Except String Nat :=
  match bindAll refuse s.nextGroup s.socks (bindAddrs s.addrs nodePort) with
  | (k, .error err) => ({ s with socks := k }, .error err)
  | (k, .ok lns) =>
    ({ s with
      socks := k
      groups := s.groups.insert s.nextGroup ⟨nodePort, lns⟩
      nextGroup := s.nextGroup + 1 }, .ok s.nextGroup)

/-- `close` of a group; one that is closed already has no listeners left. -/
def NodePortSet.closeGroup (s : NodePortSet) (g : Nat) : NodePortSet :=
  match s.groups.lookup g with
  | none => s
  | some grp => { s with socks := closeListeners s.socks grp.lns, groups := s.groups.erase g }

def NodePortGroup.missing (grp : NodePortGroup) (want : List Addr) : List String :=
  (bindAddrs want grp.port).filter fun addr => grp.lns.lookup addr = none

/-- The loop of `PrepareNodePortAddresses` over the groups. -/
def prepareLoop (refuse : Nat → Option String) (groups : GoMap Nat NodePortGroup)
    (want : List Addr) : Sockets → GoMap Nat (GoMap String Nat) → List Nat →
    Sockets × Except String (GoMap Nat (GoMap String Nat))
  | k, added, [] => (k, .ok added)
  | k, added, g :: gs =>
    match groups.lookup g with
    | none => prepareLoop refuse groups want k added gs
    | some grp =>
      match bindAll refuse g k (grp.missing want) with
      | (k', .error err) =>
        (k'.close (added.entries.flatMap fun e => listenersOf e.2), .error err)
      | (k', .ok lns) => prepareLoop refuse groups want k' (added.insert g lns) gs

def wantOf (addrs : List Addr) : List Addr := (addrs.filter Addr.isValid).map Addr.unmap

def NodePortSet.prepareNodePortAddresses (s : NodePortSet) (refuse : Nat → Option String)
    (order : List Nat) (addrs : List Addr) : NodePortSet × Except String Nat :=
  match prepareLoop refuse s.groups (wantOf addrs) s.socks ∅ order with
  | (k, .error err) => ({ s with socks := k }, .error err)
  | (k, .ok added) =>
    ({ s with
      socks := k
      pending := some (s.nextSwap, ⟨wantOf addrs, added⟩)
      nextSwap := s.nextSwap + 1 }, .ok s.nextSwap)

def outside (want : List String) (lns : GoMap String Nat) : List (Σ _ : String, Nat) :=
  lns.entries.filter fun e => e.1 ∉ want

/-- A group after the commit: the addresses outside the new set go, the prepared
listeners come. -/
def NodePortSwap.commitGroup (sw : NodePortSwap) (g : Nat) (grp : NodePortGroup) :
    NodePortGroup :=
  { grp with
    lns := GoMap.copyFrom
      (GoMap.eraseAll grp.lns ((outside (bindAddrs sw.addrs grp.port) grp.lns).map fun e => e.1))
      ((sw.added.lookup g).getD ∅) }

def NodePortSet.commit (s : NodePortSet) (sw : NodePortSwap) : NodePortSet :=
  { s with
    addrs := sw.addrs
    groups := GoMap.mapValues sw.commitGroup s.groups
    socks := s.socks.close (s.groups.entries.flatMap fun e =>
      (outside (bindAddrs sw.addrs e.2.port) e.2.lns).map fun e' => e'.2)
    pending := none }

def NodePortSet.abort (s : NodePortSet) (sw : NodePortSwap) : NodePortSet :=
  { s with
    socks := s.socks.close (sw.added.entries.flatMap fun e => listenersOf e.2)
    pending := none }

def errNodePortSwapDone : String := "nodeport address swap already finished"

/-- `finish`, at most once for a swap. -/
def NodePortSet.finish (s : NodePortSet) (id : Nat) (keep : Bool) :
    NodePortSet × Except String Unit :=
  match s.pending with
  | none => (s, .error errNodePortSwapDone)
  | some (id', sw) =>
    if id' = id then (if keep then s.commit sw else s.abort sw, .ok ())
    else (s, .error errNodePortSwapDone)

inductive NodePortLabel
  | openGroup (refuse : Nat → Option String) (nodePort : Int)
  | closeGroup (g : Nat)
  | prepare (refuse : Nat → Option String) (order : List Nat) (addrs : List Addr)
  | finish (id : Nat) (keep : Bool)

/-- Every operation but `finish` takes the lock, so it waits for a pending swap. -/
def nodePortStep (s : NodePortSet) : NodePortLabel → Option NodePortSet
  | .openGroup refuse nodePort =>
    if s.pending = none then some (s.openGroup refuse nodePort).1 else none
  | .closeGroup g => if s.pending = none then some (s.closeGroup g) else none
  | .prepare refuse order addrs =>
    if s.pending = none ∧ order.Perm s.groups.keys then
      some (s.prepareNodePortAddresses refuse order addrs).1
    else none
  | .finish id keep => if id < s.nextSwap then some (s.finish id keep).1 else none

/-! ## What a series of binds opens -/

/-- No listener has a number yet to be given out. -/
def Sockets.Fresh (k : Sockets) : Prop := ∀ l, k.next ≤ l → k.opened.lookup l = none

variable {l : Nat}

lemma Sockets.Fresh.lt {k : Sockets} (h : k.Fresh) {x : Listener}
    (hx : k.opened.lookup l = some x) : l < k.next := by
  by_contra hge
  rw [h l (by omega)] at hx
  cases hx

/-- From `k₀` to `k` exactly the listeners `own group addr` were opened. -/
structure Opened (k₀ k : Sockets) (own : Nat → String → Option Nat) : Prop where
  le : k₀.next ≤ k.next
  fresh : k.Fresh
  old : ∀ l < k₀.next, k.opened.lookup l = k₀.opened.lookup l
  mine : ∀ g addr l, own g addr = some l → k₀.next ≤ l ∧ k.opened.lookup l = some ⟨addr, g⟩
  new : ∀ l x, k₀.next ≤ l → k.opened.lookup l = some x → own x.group x.addr = some l

/-- The same listeners are open. -/
structure SameOpen (k₀ k : Sockets) : Prop where
  le : k₀.next ≤ k.next
  opened : ∀ l, k.opened.lookup l = k₀.opened.lookup l

lemma SameOpen.fresh {k₀ k : Sockets} (h : SameOpen k₀ k) (h₀ : k₀.Fresh) : k.Fresh :=
  fun l hl => (h.opened l).trans (h₀ l (h.le.trans hl))

lemma Sockets.lookup_close (k : Sockets) (ls : List Nat) (l : Nat) :
    (k.close ls).opened.lookup l = if l ∈ ls then none else k.opened.lookup l :=
  GoMap.lookup_eraseAll _ _ _

lemma mem_listenersOf {lns : GoMap String Nat} :
    l ∈ listenersOf lns ↔ ∃ addr, lns.lookup addr = some l := by
  simp only [listenersOf, List.mem_map]
  constructor
  · rintro ⟨e, he, rfl⟩
    exact ⟨e.1, GoMap.lookup_of_mem_entries he⟩
  · rintro ⟨addr, h⟩
    exact ⟨⟨addr, l⟩, GoMap.mem_entries_of_lookup h, rfl⟩

variable {k₀ k k' : Sockets} {own : Nat → String → Option Nat} {refuse : Nat → Option String}
  {g : Nat} {out lns : GoMap String Nat} {want : List String} {err : String}

def onlyFor (g : Nat) (lns : GoMap String Nat) : Nat → String → Option Nat :=
  fun g' addr => if g' = g then lns.lookup addr else none

lemma onlyFor_empty (g g' : Nat) (addr : String) : onlyFor g ∅ g' addr = none := by
  simp [onlyFor]

lemma Opened.start (h : k.Fresh) (hown : ∀ g addr, own g addr = none) : Opened k k own where
  le := le_rfl
  fresh := h
  old _ _ := rfl
  mine g addr l hl := by
    rw [hown g addr] at hl
    cases hl
  new l x hl hx := by
    rw [h l hl] at hx
    cases hx

lemma Opened.undo (h : Opened k₀ k own) (h₀ : k₀.Fresh) {ls : List Nat}
    (hls : ∀ l, l ∈ ls ↔ ∃ g addr, own g addr = some l) : SameOpen k₀ (k.close ls) := by
  refine ⟨h.le, fun l => ?_⟩
  rw [Sockets.lookup_close]
  split
  · rename_i hl
    obtain ⟨g, addr, hown⟩ := (hls l).mp hl
    exact (h₀ l (h.mine g addr l hown).1).symm
  · rename_i hl
    by_cases hlt : l < k₀.next
    · exact h.old l hlt
    rw [h₀ l (by omega)]
    cases hx : k.opened.lookup l with
    | none => rfl
    | some x => exact absurd ((hls l).mpr ⟨_, _, h.new l x (by omega) hx⟩) hl

lemma Opened.of_same (h : Opened k₀ k own) (hs : SameOpen k k') : Opened k₀ k' own where
  le := h.le.trans hs.le
  fresh := hs.fresh h.fresh
  old l hl := (hs.opened l).trans (h.old l hl)
  mine g addr l hown := by
    rw [hs.opened]
    exact h.mine g addr l hown
  new l x hl hx := h.new l x hl ((hs.opened l).symm.trans hx)

lemma Opened.listen (h : Opened k₀ k (onlyFor g out)) {addr : String}
    (hnone : out.lookup addr = none) (hl : k.listen refuse g addr = .ok (l, k')) :
    Opened k₀ k' (onlyFor g (out.insert addr l)) := by
  have hl' : l = k.next ∧ k' = ⟨k.next + 1, k.opened.insert k.next ⟨addr, g⟩⟩ := by
    unfold Sockets.listen at hl
    split at hl
    · cases hl
    · cases hl
      exact ⟨rfl, rfl⟩
  obtain ⟨rfl, rfl⟩ := hl'
  have hle := h.le
  refine ⟨by simp only; omega, fun l hl => ?_, fun l hl => ?_, fun g' a l hown => ?_,
    fun l x hl hx => ?_⟩
  · simp only at hl
    rw [GoMap.lookup_insert_ite, if_neg (by omega)]
    exact h.fresh l (by omega)
  · rw [GoMap.lookup_insert_ite, if_neg (by omega)]
    exact h.old l hl
  · simp only [onlyFor, GoMap.lookup_insert_ite] at hown
    split at hown
    · rename_i hg
      subst hg
      split at hown
      · rename_i ha
        cases hown
        subst ha
        exact ⟨hle, by simp⟩
      · have hm := h.mine g' a l (by simpa [onlyFor] using hown)
        exact ⟨hm.1, by
          rw [GoMap.lookup_insert_ite, if_neg (h.fresh.lt hm.2).ne]
          exact hm.2⟩
    · cases hown
  · rw [GoMap.lookup_insert_ite] at hx
    split at hx
    · rename_i heq
      cases hx
      simp [onlyFor, heq]
    · have hm := h.new l x hl hx
      simp only [onlyFor] at hm
      split_ifs at hm with hg
      have hne : x.addr ≠ addr := by
        rintro rfl
        rw [hnone] at hm
        cases hm
      simp [onlyFor, hg, hne, hm]

lemma bindAllLoop_keys (hrun : bindAllLoop refuse g k out want = (k', .ok lns)) (addr : String) :
    (lns.lookup addr).isSome ↔ (out.lookup addr).isSome ∨ addr ∈ want := by
  induction want generalizing k out with
  | nil =>
    simp only [bindAllLoop, Prod.mk.injEq, Except.ok.injEq] at hrun
    obtain ⟨-, rfl⟩ := hrun
    simp
  | cons a want ih =>
    simp only [bindAllLoop] at hrun
    cases hl : k.listen refuse g a with
    | error e => simp [hl] at hrun
    | ok r =>
      obtain ⟨l, k₁⟩ := r
      rw [hl] at hrun
      rw [ih hrun, GoMap.lookup_insert_ite, List.mem_cons]
      by_cases haddr : addr = a <;> simp [haddr]

lemma bindAllLoop_ok (h : Opened k₀ k (onlyFor g out)) (hnodup : want.Nodup)
    (hnew : ∀ addr ∈ want, out.lookup addr = none)
    (hrun : bindAllLoop refuse g k out want = (k', .ok lns)) : Opened k₀ k' (onlyFor g lns) := by
  induction want generalizing k out with
  | nil =>
    simp only [bindAllLoop, Prod.mk.injEq, Except.ok.injEq] at hrun
    obtain ⟨rfl, rfl⟩ := hrun
    exact h
  | cons a want ih =>
    simp only [bindAllLoop] at hrun
    cases hl : k.listen refuse g a with
    | error e => simp [hl] at hrun
    | ok r =>
      obtain ⟨l, k₁⟩ := r
      rw [hl] at hrun
      have hnodup' := List.nodup_cons.mp hnodup
      refine ih (h.listen (hnew a List.mem_cons_self) hl) hnodup'.2 (fun b hb => ?_) hrun
      have hne : b ≠ a := by
        rintro rfl
        exact hnodup'.1 hb
      rw [GoMap.lookup_insert_ite, if_neg hne]
      exact hnew b (List.mem_cons_of_mem a hb)

lemma bindAllLoop_error (h₀ : k₀.Fresh) (h : Opened k₀ k (onlyFor g out)) (hnodup : want.Nodup)
    (hnew : ∀ addr ∈ want, out.lookup addr = none)
    (hrun : bindAllLoop refuse g k out want = (k', .error err)) : SameOpen k₀ k' := by
  induction want generalizing k out with
  | nil => simp [bindAllLoop] at hrun
  | cons a want ih =>
    simp only [bindAllLoop] at hrun
    cases hl : k.listen refuse g a with
    | error e =>
      rw [hl] at hrun
      cases hrun
      refine h.undo h₀ fun l => mem_listenersOf.trans ⟨?_, ?_⟩
      · rintro ⟨addr, ha⟩
        exact ⟨g, addr, by simpa [onlyFor] using ha⟩
      rintro ⟨g', addr, hown⟩
      simp only [onlyFor] at hown
      split_ifs at hown
      exact ⟨addr, hown⟩
    | ok r =>
      obtain ⟨l, k₁⟩ := r
      rw [hl] at hrun
      have hnodup' := List.nodup_cons.mp hnodup
      refine ih (h.listen (hnew a List.mem_cons_self) hl) hnodup'.2 (fun b hb => ?_) hrun
      have hne : b ≠ a := by
        rintro rfl
        exact hnodup'.1 hb
      rw [GoMap.lookup_insert_ite, if_neg hne]
      exact hnew b (List.mem_cons_of_mem a hb)

lemma bindAll_keys (hrun : bindAll refuse g k want = (k', .ok lns)) (addr : String) :
    (lns.lookup addr).isSome ↔ addr ∈ want := by
  simpa using bindAllLoop_keys hrun addr

lemma bindAll_ok (h : k.Fresh) (hnodup : want.Nodup)
    (hrun : bindAll refuse g k want = (k', .ok lns)) : Opened k k' (onlyFor g lns) :=
  bindAllLoop_ok (.start h (onlyFor_empty g)) hnodup (fun _ _ => rfl) hrun

lemma bindAll_error (h : k.Fresh) (hnodup : want.Nodup)
    (hrun : bindAll refuse g k want = (k', .error err)) : SameOpen k k' :=
  bindAllLoop_error h (.start h (onlyFor_empty g)) hnodup (fun _ _ => rfl) hrun

/-! ## What a prepare opens -/

variable {added added' : GoMap Nat (GoMap String Nat)} {groups : GoMap Nat NodePortGroup}
  {addrs : List Addr} {gs : List Nat}

def ownIn (added : GoMap Nat (GoMap String Nat)) : Nat → String → Option Nat :=
  fun g addr => (added.lookup g).bind fun lns => lns.lookup addr

lemma ownIn_insert (g g' : Nat) (addr : String) : ownIn (added.insert g lns) g' addr =
      if g' = g then lns.lookup addr else ownIn added g' addr := by
  rw [ownIn, GoMap.lookup_insert_ite]
  split <;> rfl

lemma mem_flatMap_listenersOf : l ∈ added.entries.flatMap (fun e => listenersOf e.2) ↔
      ∃ g addr, ownIn added g addr = some l := by
  simp only [List.mem_flatMap, mem_listenersOf]
  constructor
  · rintro ⟨e, he, addr, ha⟩
    exact ⟨e.1, addr, by rw [ownIn, GoMap.lookup_of_mem_entries he]; exact ha⟩
  · rintro ⟨g, addr, hown⟩
    obtain ⟨lns, hlns, ha⟩ := Option.bind_eq_some_iff.mp hown
    exact ⟨⟨g, lns⟩, GoMap.mem_entries_of_lookup hlns, addr, ha⟩

lemma Opened.group (h : Opened k₀ k (ownIn added)) (hg : added.lookup g = none)
    (h' : Opened k k' (onlyFor g lns)) : Opened k₀ k' (ownIn (added.insert g lns)) := by
  have hle := h.le
  have hle' := h'.le
  refine ⟨hle.trans hle', h'.fresh, fun l hl => ?_, fun g' addr l hown => ?_, fun l x hl hx => ?_⟩
  · rw [h'.old l (by omega), h.old l hl]
  · rw [ownIn_insert] at hown
    split at hown
    · rename_i heq
      have hm := h'.mine g' addr l (by simpa [onlyFor, heq] using hown)
      exact ⟨hle.trans hm.1, hm.2⟩
    · have hm := h.mine g' addr l hown
      exact ⟨hm.1, (h'.old l (h.fresh.lt hm.2)).trans hm.2⟩
  · rw [ownIn_insert]
    by_cases hlt : l < k.next
    · have hn := h.new l x hl ((h'.old l hlt).symm.trans hx)
      have hne : x.group ≠ g := by
        rintro rfl
        simp [ownIn, hg] at hn
      rw [if_neg hne]
      exact hn
    · have hn := h'.new l x (by omega) hx
      simp only [onlyFor] at hn
      split_ifs at hn with heq
      rw [if_pos heq]
      exact hn

lemma NodePortGroup.missing_nodup (grp : NodePortGroup) (h : addrs.Nodup) :
    (grp.missing addrs).Nodup :=
  (bindAddrs_nodup h grp.port).filter _

lemma prepareLoop_keys
    (hadded : ∀ g lns grp, added.lookup g = some lns → groups.lookup g = some grp →
      ∀ addr, (lns.lookup addr).isSome ↔ addr ∈ grp.missing addrs)
    (hrun : prepareLoop refuse groups addrs k added gs = (k', .ok added')) :
    ∀ g grp, g ∈ gs ∨ (added.lookup g).isSome → groups.lookup g = some grp →
      ∃ lns, added'.lookup g = some lns ∧
        ∀ addr, (lns.lookup addr).isSome ↔ addr ∈ grp.missing addrs := by
  induction gs generalizing k added with
  | nil =>
    simp only [prepareLoop, Prod.mk.injEq, Except.ok.injEq] at hrun
    obtain ⟨-, rfl⟩ := hrun
    intro g grp hg hgrp
    obtain ⟨lns, hlns⟩ := Option.isSome_iff_exists.mp (by simpa using hg)
    exact ⟨lns, hlns, hadded g lns grp hlns hgrp⟩
  | cons g gs ih =>
    simp only [prepareLoop] at hrun
    intro g' grp' hg' hgrp'
    split at hrun
    · rename_i hnone
      have hne : g' ≠ g := by
        rintro rfl
        rw [hnone] at hgrp'
        cases hgrp'
      exact ih hadded hrun g' grp' (by simpa [hne] using hg') hgrp'
    · rename_i grp hgrp
      split at hrun
      · cases hrun
      rename_i k₁ lns hbind
      refine ih ?_ hrun g' grp' ?_ hgrp'
      · intro g₁ lns₁ grp₁ hlns₁ hgrp₁
        rw [GoMap.lookup_insert_ite] at hlns₁
        split at hlns₁
        · rename_i heq
          subst heq
          rw [hgrp] at hgrp₁
          cases hlns₁
          cases hgrp₁
          exact bindAll_keys hbind
        · exact hadded g₁ lns₁ grp₁ hlns₁ hgrp₁
      · rw [GoMap.lookup_insert_ite]
        by_cases hg : g' = g
        · simp [hg]
        · simpa [hg] using hg'

lemma prepareLoop_ok (h : Opened k₀ k (ownIn added)) (haddrs : addrs.Nodup) (hgs : gs.Nodup)
    (hnew : ∀ g ∈ gs, added.lookup g = none)
    (hrun : prepareLoop refuse groups addrs k added gs = (k', .ok added')) :
    Opened k₀ k' (ownIn added') ∧
      ∀ g, groups.lookup g = none → added'.lookup g = added.lookup g := by
  induction gs generalizing k added with
  | nil =>
    simp only [prepareLoop, Prod.mk.injEq, Except.ok.injEq] at hrun
    obtain ⟨rfl, rfl⟩ := hrun
    exact ⟨h, fun _ _ => rfl⟩
  | cons g gs ih =>
    obtain ⟨hnotin, hgs'⟩ := List.nodup_cons.mp hgs
    simp only [prepareLoop] at hrun
    split at hrun
    · exact ih h hgs' (fun g' hg' => hnew g' (List.mem_cons_of_mem g hg')) hrun
    rename_i grp hgrp
    split at hrun
    · cases hrun
    · rename_i k₁ lns hbind
      have hopen₁ := bindAll_ok h.fresh (grp.missing_nodup haddrs) hbind
      have hnew' : ∀ g' ∈ gs, (added.insert g lns).lookup g' = none := by
        intro g' hg'
        have hne : g' ≠ g := by
          rintro rfl
          exact hnotin hg'
        rw [GoMap.lookup_insert_ite, if_neg hne]
        exact hnew g' (List.mem_cons_of_mem g hg')
      obtain ⟨hopen, hsame⟩ := ih (h.group (hnew g List.mem_cons_self) hopen₁) hgs' hnew' hrun
      refine ⟨hopen, fun g' hg' => ?_⟩
      have hne : g' ≠ g := by
        rintro rfl
        simp [hgrp] at hg'
      rw [hsame g' hg', GoMap.lookup_insert_ite, if_neg hne]

lemma prepareLoop_error (h₀ : k₀.Fresh) (h : Opened k₀ k (ownIn added)) (haddrs : addrs.Nodup)
    (hgs : gs.Nodup) (hnew : ∀ g ∈ gs, added.lookup g = none)
    (hrun : prepareLoop refuse groups addrs k added gs = (k', .error err)) : SameOpen k₀ k' := by
  induction gs generalizing k added with
  | nil => simp [prepareLoop] at hrun
  | cons g gs ih =>
    obtain ⟨hnotin, hgs'⟩ := List.nodup_cons.mp hgs
    simp only [prepareLoop] at hrun
    split at hrun
    · exact ih h hgs' (fun g' hg' => hnew g' (List.mem_cons_of_mem g hg')) hrun
    rename_i grp hgrp
    split at hrun
    · rename_i k₁ err' hbind
      cases hrun
      have hsame := bindAll_error h.fresh (grp.missing_nodup haddrs) hbind
      exact (h.of_same hsame).undo h₀ fun l => mem_flatMap_listenersOf
    · rename_i k₁ lns hbind
      have hopen₁ := bindAll_ok h.fresh (grp.missing_nodup haddrs) hbind
      refine ih (h.group (hnew g List.mem_cons_self) hopen₁) hgs' (fun g' hg' => ?_) hrun
      have hne : g' ≠ g := by
        rintro rfl
        exact hnotin hg'
      rw [GoMap.lookup_insert_ite, if_neg hne]
      exact hnew g' (List.mem_cons_of_mem g hg')

end DarwinNet.Proxy
