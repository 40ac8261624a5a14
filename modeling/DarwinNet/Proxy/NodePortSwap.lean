import DarwinNet.Proxy.NodePortSet

/-!
Atomicity of the NodePort address swap. `Inv` says where every open listener is:
in the map of its group, or with the swap that is pending. Each operation keeps
it; `nodePort_swap_atomic` collects what follows for opens, prepares, commits and
aborts in every run.
-/

namespace DarwinNet.Proxy.NodePortSet

open Lib Netip

variable {k : Sockets} {refuse : Nat → Option String} {g : Nat} {lns : GoMap String Nat}
  {addrs : List Addr}

/-! ## Where every open listener is -/

variable {s s' : NodePortSet} {sw : NodePortSwap} {addr : String} {l : Nat} {grp : NodePortGroup}

/-- A prepared swap: each group has its missing addresses, and nothing else has any. -/
structure SwapReady (s : NodePortSet) (sw : NodePortSwap) : Prop where
  nodup : sw.addrs.Nodup
  some : ∀ g grp, s.groups.lookup g = some grp → ∃ lns, sw.added.lookup g = some lns ∧
    ∀ addr, (lns.lookup addr).isSome ↔ addr ∈ grp.missing sw.addrs
  none : ∀ g, s.groups.lookup g = none → sw.added.lookup g = none
  mine : ∀ g addr l, ownIn sw.added g addr = .some l → s.socks.opened.lookup l = .some ⟨addr, g⟩

/-- The groups and the open listeners match, and a pending swap has the rest of its set open. -/
structure Inv (s : NodePortSet) : Prop where
  fresh : s.socks.Fresh
  next : ∀ g, s.nextGroup ≤ g → s.groups.lookup g = none
  nodup : s.addrs.Nodup
  bound : ∀ g grp, s.groups.lookup g = some grp →
    ∀ addr, (grp.lns.lookup addr).isSome ↔ addr ∈ bindAddrs s.addrs grp.port
  mine : ∀ g grp addr l, s.groups.lookup g = some grp → grp.lns.lookup addr = some l →
    s.socks.opened.lookup l = some ⟨addr, g⟩
  held : ∀ l x, s.socks.opened.lookup l = some x →
    (∃ grp, s.groups.lookup x.group = some grp ∧ grp.lns.lookup x.addr = some l) ∨
      ∃ id sw, s.pending = some (id, sw) ∧ ownIn sw.added x.group x.addr = some l
  swap : ∀ id sw, s.pending = some (id, sw) → SwapReady s sw

/-- The same addresses, groups and listeners. -/
structure Unchanged (s s' : NodePortSet) : Prop where
  addrs : s'.addrs = s.addrs
  groups : s'.groups = s.groups
  opened : ∀ l, s'.socks.opened.lookup l = s.socks.opened.lookup l

lemma inv_newNodePortSet (h : addrs.Nodup) : Inv (newNodePortSet addrs) where
  fresh _ _ := rfl
  next _ _ := rfl
  nodup := h
  bound g grp hgrp := by simp [newNodePortSet] at hgrp
  mine g grp addr l hgrp := by simp [newNodePortSet] at hgrp
  held l x hx := by simp [newNodePortSet] at hx
  swap id sw hsw := by simp [newNodePortSet] at hsw

lemma Inv.of_same (h : Inv s) (hs : SameOpen s.socks k) : Inv { s with socks := k } where
  fresh := hs.fresh h.fresh
  next := h.next
  nodup := h.nodup
  bound := h.bound
  mine g grp addr l hgrp hl := by
    rw [hs.opened]
    exact h.mine g grp addr l hgrp hl
  held l x hx := h.held l x ((hs.opened l).symm.trans hx)
  swap id sw hsw := by
    have hr := h.swap id sw hsw
    refine ⟨hr.nodup, hr.some, hr.none, fun g addr l hown => ?_⟩
    rw [hs.opened]
    exact hr.mine g addr l hown

lemma Inv.openGroup_ok (h : Inv s) (hp : s.pending = none) {nodePort : Int}
    (hopen : Opened s.socks k (onlyFor s.nextGroup lns))
    (hkeys : ∀ addr, (lns.lookup addr).isSome ↔ addr ∈ bindAddrs s.addrs nodePort) : Inv { s with
      socks := k
      groups := s.groups.insert s.nextGroup ⟨nodePort, lns⟩
      nextGroup := s.nextGroup + 1 } where
  fresh := hopen.fresh
  next g hg := by
    simp only at hg
    rw [GoMap.lookup_insert_ite, if_neg (by omega)]
    exact h.next g (by omega)
  nodup := h.nodup
  bound g grp hgrp := by
    rw [GoMap.lookup_insert_ite] at hgrp
    split at hgrp
    · cases hgrp
      exact hkeys
    · exact h.bound g grp hgrp
  mine g grp addr l hgrp hl := by
    rw [GoMap.lookup_insert_ite] at hgrp
    split at hgrp
    · rename_i hg
      cases hgrp
      exact (hopen.mine g addr l (by simpa [onlyFor, hg] using hl)).2
    · have hm := h.mine g grp addr l hgrp hl
      exact (hopen.old l (h.fresh.lt hm)).trans hm
  held l x hx := by
    left
    by_cases hlt : l < s.socks.next
    · rcases h.held l x ((hopen.old l hlt).symm.trans hx) with ⟨grp, hgrp, hl⟩ | ⟨id, sw, hsw, -⟩
      · have hne : x.group ≠ s.nextGroup := by
          intro heq
          rw [h.next _ heq.ge] at hgrp
          cases hgrp
        exact ⟨grp, by rw [GoMap.lookup_insert_ite, if_neg hne]; exact hgrp, hl⟩
      · rw [hp] at hsw
        cases hsw
    · have hn := hopen.new l x (by omega) hx
      simp only [onlyFor] at hn
      split_ifs at hn with hg
      exact ⟨⟨nodePort, lns⟩, by rw [GoMap.lookup_insert_ite, if_pos hg], hn⟩
  swap id sw hsw := by
    simp only [hp] at hsw
    cases hsw

lemma Inv.closeGroup (h : Inv s) (hp : s.pending = none) (g : Nat) : Inv (s.closeGroup g) := by
  unfold NodePortSet.closeGroup
  split
  · exact h
  rename_i grp hgrp
  have hclosed : ∀ l, l ∈ listenersOf grp.lns →
      ∃ addr, s.socks.opened.lookup l = some ⟨addr, g⟩ := by
    intro l hl
    obtain ⟨addr, ha⟩ := mem_listenersOf.mp hl
    exact ⟨addr, h.mine g grp addr l hgrp ha⟩
  refine ⟨fun l hl => ?_, fun g' hg' => ?_, h.nodup, fun g' grp' hgrp' => ?_,
    fun g' grp' addr l hgrp' hl => ?_, fun l x hx => ?_, fun id sw hsw => ?_⟩
  · simp only [closeListeners, Sockets.lookup_close]
    rw [h.fresh l hl, ite_self]
  · simp only [GoMap.lookup_erase_ite]
    rw [h.next g' hg', ite_self]
  · rw [GoMap.lookup_erase_ite] at hgrp'
    split at hgrp'
    · cases hgrp'
    · exact h.bound g' grp' hgrp'
  · rw [GoMap.lookup_erase_ite] at hgrp'
    split at hgrp'
    · cases hgrp'
    · rename_i hne
      have hm := h.mine g' grp' addr l hgrp' hl
      have hopen : l ∉ listenersOf grp.lns := by
        intro hmem
        obtain ⟨addr', ha'⟩ := hclosed l hmem
        rw [hm] at ha'
        cases ha'
        exact hne rfl
      simp only [closeListeners, Sockets.lookup_close, if_neg hopen]
      exact hm
  · simp only [closeListeners, Sockets.lookup_close] at hx
    split_ifs at hx with hopen
    rcases h.held l x hx with ⟨grp', hgrp', hl⟩ | hpend
    · have hne : x.group ≠ g := by
        rintro rfl
        rw [hgrp] at hgrp'
        cases hgrp'
        exact hopen (mem_listenersOf.mpr ⟨x.addr, hl⟩)
      exact .inl ⟨grp', by rw [GoMap.lookup_erase_ite, if_neg hne]; exact hgrp', hl⟩
    · exact .inr hpend
  · simp only [hp] at hsw
    cases hsw

lemma Inv.prepare_ok (h : Inv s) (hp : s.pending = none)
    (hopen : Opened s.socks k (ownIn sw.added)) (hnodup : sw.addrs.Nodup)
    (hsome : ∀ g grp, s.groups.lookup g = some grp → ∃ lns, sw.added.lookup g = some lns ∧
      ∀ addr, (lns.lookup addr).isSome ↔ addr ∈ grp.missing sw.addrs)
    (hnone : ∀ g, s.groups.lookup g = none → sw.added.lookup g = none) (id : Nat) :
    Inv { s with socks := k, pending := some (id, sw), nextSwap := id + 1 } where
  fresh := hopen.fresh
  next := h.next
  nodup := h.nodup
  bound := h.bound
  mine g grp addr l hgrp hl := by
    have hm := h.mine g grp addr l hgrp hl
    exact (hopen.old l (h.fresh.lt hm)).trans hm
  held l x hx := by
    by_cases hlt : l < s.socks.next
    · rcases h.held l x ((hopen.old l hlt).symm.trans hx) with hg | ⟨id, sw, hsw, -⟩
      · exact .inl hg
      · rw [hp] at hsw
        cases hsw
    · exact .inr ⟨id, sw, rfl, hopen.new l x (by omega) hx⟩
  swap id' sw' hsw := by
    cases hsw
    exact ⟨hnodup, hsome, hnone, fun g addr l hown => (hopen.mine g addr l hown).2⟩

lemma Inv.abort (h : Inv s) {id : Nat} (hp : s.pending = some (id, sw)) : Inv (s.abort sw) := by
  have hready := h.swap id sw hp
  -- a prepared listener is on an address its group does not have
  have hkeep : ∀ g grp addr l, s.groups.lookup g = some grp → grp.lns.lookup addr = some l →
      l ∉ sw.added.entries.flatMap fun e => listenersOf e.2 := by
    intro g grp addr l hgrp hl hmem
    obtain ⟨g', addr', hown⟩ := mem_flatMap_listenersOf.mp hmem
    have heq := (hready.mine g' addr' l hown).symm.trans (h.mine g grp addr l hgrp hl)
    cases heq
    obtain ⟨lns, hlns, hkeys⟩ := hready.some g grp hgrp
    rw [ownIn, hlns, Option.bind_some] at hown
    have hmiss := (hkeys addr).mp (by rw [hown]; rfl)
    simp [NodePortGroup.missing, hl] at hmiss
  refine ⟨fun l hl => ?_, h.next, h.nodup, h.bound, fun g grp addr l hgrp hl => ?_,
    fun l x hx => ?_, fun id sw hsw => ?_⟩
  · simp only [NodePortSet.abort, Sockets.lookup_close]
    rw [h.fresh l hl, ite_self]
  · simp only [NodePortSet.abort, Sockets.lookup_close, if_neg (hkeep g grp addr l hgrp hl)]
    exact h.mine g grp addr l hgrp hl
  · simp only [NodePortSet.abort, Sockets.lookup_close] at hx
    split_ifs at hx with hopen
    rcases h.held l x hx with hg | ⟨id', sw', hsw', hown⟩
    · exact .inl hg
    · rw [hp] at hsw'
      cases hsw'
      exact absurd (mem_flatMap_listenersOf.mpr ⟨_, _, hown⟩) hopen
  · cases hsw

/-! ### The commit -/

lemma mem_outside_keys {want : List String} :
    addr ∈ (outside want lns).map (fun e => e.1) ↔ (lns.lookup addr).isSome ∧ addr ∉ want := by
  simp only [outside, List.mem_map, List.mem_filter, decide_eq_true_eq]
  constructor
  · rintro ⟨e, ⟨he, hout⟩, rfl⟩
    exact ⟨by rw [GoMap.lookup_of_mem_entries he]; rfl, hout⟩
  · rintro ⟨hsome, hout⟩
    obtain ⟨l, hl⟩ := Option.isSome_iff_exists.mp hsome
    exact ⟨⟨addr, l⟩, ⟨GoMap.mem_entries_of_lookup hl, hout⟩, rfl⟩

def commitClosed (s : NodePortSet) (sw : NodePortSwap) : List Nat :=
  s.groups.entries.flatMap fun e =>
    (outside (bindAddrs sw.addrs e.2.port) e.2.lns).map fun e' => e'.2

lemma mem_commitClosed : l ∈ commitClosed s sw ↔
    ∃ g grp addr, s.groups.lookup g = some grp ∧ grp.lns.lookup addr = some l ∧
      addr ∉ bindAddrs sw.addrs grp.port := by
  simp only [commitClosed, outside, List.mem_flatMap, List.mem_map, List.mem_filter,
    decide_eq_true_eq]
  constructor
  · rintro ⟨e, he, e', ⟨he', hout⟩, rfl⟩
    exact ⟨e.1, e.2, e'.1, GoMap.lookup_of_mem_entries he, GoMap.lookup_of_mem_entries he', hout⟩
  · rintro ⟨g, grp, addr, hgrp, hl, hout⟩
    exact ⟨⟨g, grp⟩, GoMap.mem_entries_of_lookup hgrp, ⟨addr, l⟩,
      ⟨GoMap.mem_entries_of_lookup hl, hout⟩, rfl⟩

lemma lookup_commitGroup (hlns : sw.added.lookup g = some lns)
    (hkeys : ∀ addr, (lns.lookup addr).isSome ↔ addr ∈ grp.missing sw.addrs) (addr : String) :
    (sw.commitGroup g grp).lns.lookup addr =
      if addr ∈ bindAddrs sw.addrs grp.port then (grp.lns.lookup addr).or (lns.lookup addr)
      else none := by
  simp only [NodePortSwap.commitGroup, GoMap.lookup_copyFrom, GoMap.lookup_eraseAll,
    mem_outside_keys, hlns, Option.getD_some]
  have hkey := hkeys addr
  simp only [NodePortGroup.missing, List.mem_filter, decide_eq_true_eq] at hkey
  by_cases hin : addr ∈ bindAddrs sw.addrs grp.port
  · cases hg : grp.lns.lookup addr with
    | none => simp [hin]
    | some l =>
      have hnone : lns.lookup addr = none := by simpa [hin, hg] using hkey
      simp [hin, hnone]
  · have hnone : lns.lookup addr = none := by simpa [hin] using hkey
    cases hg : grp.lns.lookup addr <;> simp [hin, hnone]

lemma exists_of_lookup_commit (h : SwapReady s sw) {grp' : NodePortGroup}
    (hgrp' : (s.commit sw).groups.lookup g = some grp') :
    ∃ grp lns, s.groups.lookup g = some grp ∧ sw.added.lookup g = some lns ∧
      (∀ addr, (lns.lookup addr).isSome ↔ addr ∈ grp.missing sw.addrs) ∧
      grp' = sw.commitGroup g grp := by
  simp only [NodePortSet.commit, GoMap.lookup_mapValues, Option.map_eq_some_iff] at hgrp'
  obtain ⟨grp, hgrp, rfl⟩ := hgrp'
  obtain ⟨lns, hlns, hkeys⟩ := h.some g grp hgrp
  exact ⟨grp, lns, hgrp, hlns, hkeys, rfl⟩

lemma lookup_commit_opened (s : NodePortSet) (sw : NodePortSwap) (l : Nat) :
    (s.commit sw).socks.opened.lookup l =
      if l ∈ commitClosed s sw then none else s.socks.opened.lookup l :=
  Sockets.lookup_close _ _ _

lemma Inv.notMem_commitClosed (h : Inv s) (hgrp : s.groups.lookup g = some grp)
    (hl : s.socks.opened.lookup l = some ⟨addr, g⟩) (hin : addr ∈ bindAddrs sw.addrs grp.port) :
    l ∉ commitClosed s sw := by
  intro hmem
  obtain ⟨g', grp', addr', hgrp', hl', hout⟩ := mem_commitClosed.mp hmem
  have heq := hl.symm.trans (h.mine g' grp' addr' l hgrp' hl')
  cases heq
  rw [hgrp] at hgrp'
  cases hgrp'
  exact hout hin

lemma Inv.commit (h : Inv s) {id : Nat} (hp : s.pending = some (id, sw)) : Inv (s.commit sw) := by
  have hready := h.swap id sw hp
  refine ⟨fun l hl => ?_, fun g hg => ?_, hready.nodup, fun g grp' hgrp' addr => ?_,
    fun g grp' addr l hgrp' hl => ?_, fun l x hx => ?_, fun id sw hsw => ?_⟩
  · rw [lookup_commit_opened, h.fresh l hl, ite_self]
  · simp only [NodePortSet.commit, GoMap.lookup_mapValues]
    rw [h.next g hg, Option.map_none]
  · obtain ⟨grp, lns, hgrp, hlns, hkeys, rfl⟩ := exists_of_lookup_commit hready hgrp'
    rw [lookup_commitGroup hlns hkeys]
    simp only [NodePortSet.commit, NodePortSwap.commitGroup]
    split
    · rename_i hin
      have hkey := hkeys addr
      simp only [NodePortGroup.missing, List.mem_filter, decide_eq_true_eq] at hkey
      cases hg : grp.lns.lookup addr <;> simp [hin, hkey, hg]
    · simp [*]
  · obtain ⟨grp, lns, hgrp, hlns, hkeys, rfl⟩ := exists_of_lookup_commit hready hgrp'
    rw [lookup_commitGroup hlns hkeys] at hl
    split_ifs at hl with hin
    have hm : s.socks.opened.lookup l = some ⟨addr, g⟩ := by
      rcases Option.or_eq_some_iff.mp hl with hl | ⟨-, hl⟩
      · exact h.mine g grp addr l hgrp hl
      · exact hready.mine g addr l (by rw [ownIn, hlns]; exact hl)
    rw [lookup_commit_opened, if_neg (h.notMem_commitClosed hgrp hm hin)]
    exact hm
  · rw [lookup_commit_opened] at hx
    split_ifs at hx with hopen
    left
    rcases h.held l x hx with ⟨grp, hgrp, hl⟩ | ⟨id', sw', hsw', hown⟩
    · obtain ⟨lns, hlns, hkeys⟩ := hready.some _ _ hgrp
      have hin : x.addr ∈ bindAddrs sw.addrs grp.port := by
        by_contra hout
        exact hopen (mem_commitClosed.mpr ⟨_, grp, _, hgrp, hl, hout⟩)
      refine ⟨sw.commitGroup x.group grp, ?_, ?_⟩
      · simp [NodePortSet.commit, GoMap.lookup_mapValues, hgrp]
      · rw [lookup_commitGroup hlns hkeys, if_pos hin, hl, Option.some_or]
    · rw [hp] at hsw'
      cases hsw'
      obtain ⟨lns, hlns, hl⟩ := Option.bind_eq_some_iff.mp hown
      cases hgrp : s.groups.lookup x.group with
      | none =>
        rw [hready.none _ hgrp] at hlns
        cases hlns
      | some grp =>
        obtain ⟨lns', hlns', hkeys⟩ := hready.some _ _ hgrp
        rw [hlns] at hlns'
        cases hlns'
        have hmiss := (hkeys x.addr).mp (by rw [hl]; rfl)
        simp only [NodePortGroup.missing, List.mem_filter, decide_eq_true_eq] at hmiss
        refine ⟨sw.commitGroup x.group grp, ?_, ?_⟩
        · simp [NodePortSet.commit, GoMap.lookup_mapValues, hgrp]
        · rw [lookup_commitGroup hlns hkeys, if_pos hmiss.1, hmiss.2, Option.none_or, hl]
  · cases hsw

variable {order : List Nat} {nodePort : Int} {id : Nat}

/-- An open keeps `Inv`, and changes nothing if it fails. -/
lemma Inv.openGroup_cases (h : Inv s) (hp : s.pending = none) :
    Inv (s.openGroup refuse nodePort).1 ∧ ∀ err, (s.openGroup refuse nodePort).2 = .error err →
        Unchanged s (s.openGroup refuse nodePort).1 := by
  unfold openGroup
  have hnodup := bindAddrs_nodup h.nodup nodePort
  split
  · rename_i k err hbind
    have hsame := bindAll_error h.fresh hnodup hbind
    exact ⟨h.of_same hsame, fun _ _ => ⟨rfl, rfl, hsame.opened⟩⟩
  · rename_i k lns hbind
    have hopen := bindAll_ok h.fresh hnodup hbind
    refine ⟨h.openGroup_ok hp hopen (bindAll_keys hbind), fun err herr => ?_⟩
    cases herr

lemma prepareLoop_swap {k' : Sockets} {added : GoMap Nat (GoMap String Nat)}
    (horder : order.Perm s.groups.keys)
    (hrun : prepareLoop refuse s.groups addrs k ∅ order = (k', .ok added)) (g : Nat)
    (grp : NodePortGroup) (hgrp : s.groups.lookup g = some grp) : ∃ lns, added.lookup g = some lns ∧
      ∀ addr, (lns.lookup addr).isSome ↔ addr ∈ grp.missing addrs := by
  have hmem : g ∈ order := horder.mem_iff.mpr (GoMap.mem_keys_iff.mpr ⟨grp, hgrp⟩)
  exact prepareLoop_keys (fun _ _ _ hlns => by cases hlns) hrun g grp (.inl hmem) hgrp

/-- A prepare ends with every socket of its own closed, or with the swap pending. -/
lemma Inv.prepare_cases (h : Inv s) (horder : order.Perm s.groups.keys)
    (hwant : (wantOf addrs).Nodup) (refuse : Nat → Option String) :
    (∃ k err, s.prepareNodePortAddresses refuse order addrs = ({ s with socks := k }, .error err) ∧
      SameOpen s.socks k) ∨
    ∃ k added, s.prepareNodePortAddresses refuse order addrs = ({ s with
          socks := k
          pending := some (s.nextSwap, ⟨wantOf addrs, added⟩)
          nextSwap := s.nextSwap + 1 }, .ok s.nextSwap) ∧
      Opened s.socks k (ownIn added) ∧
      (∀ g grp, s.groups.lookup g = some grp → ∃ lns, added.lookup g = some lns ∧
        ∀ addr, (lns.lookup addr).isSome ↔ addr ∈ grp.missing (wantOf addrs)) ∧
      ∀ g, s.groups.lookup g = none → added.lookup g = none := by
  have hnodup : order.Nodup := horder.nodup_iff.mpr (AList.keys_nodup _)
  unfold prepareNodePortAddresses
  split
  · rename_i k err hrun
    exact .inl ⟨k, err, rfl, prepareLoop_error h.fresh (.start h.fresh fun _ _ => rfl) hwant hnodup
      (fun _ _ => rfl) hrun⟩
  · rename_i k added hrun
    obtain ⟨hopen, hsame⟩ :=
      prepareLoop_ok (.start h.fresh fun _ _ => rfl) hwant hnodup (fun _ _ => rfl) hrun
    exact .inr ⟨k, added, rfl, hopen, prepareLoop_swap horder hrun, hsame⟩

/-- The open listeners of group `g` are those of `want`, one each. -/
structure Serves (s : NodePortSet) (g : Nat) (want : List String) : Prop where
  one : ∀ addr ∈ want, ∃! l, s.socks.opened.lookup l = some ⟨addr, g⟩
  only : ∀ l addr, s.socks.opened.lookup l = some ⟨addr, g⟩ → addr ∈ want

lemma Inv.serves (h : Inv s) (hp : s.pending = none) (hgrp : s.groups.lookup g = some grp) :
    s.Serves g (bindAddrs s.addrs grp.port) := by
  have hlns : ∀ l addr, s.socks.opened.lookup l = some ⟨addr, g⟩ →
      grp.lns.lookup addr = some l := by
    intro l addr hl
    rcases h.held l _ hl with ⟨grp', hgrp', hl'⟩ | ⟨id, sw, hsw, -⟩
    · rw [hgrp] at hgrp'
      cases hgrp'
      exact hl'
    · rw [hp] at hsw
      cases hsw
  refine ⟨fun addr haddr => ?_, fun l addr hl => ?_⟩
  · obtain ⟨l, hl⟩ := Option.isSome_iff_exists.mp ((h.bound g grp hgrp addr).mpr haddr)
    refine ⟨l, h.mine g grp addr l hgrp hl, fun l' hl' => ?_⟩
    have heq := (hlns l' addr hl').symm.trans hl
    cases heq
    rfl
  · exact (h.bound g grp hgrp addr).mp (by rw [hlns l addr hl]; rfl)

lemma Inv.registered (h : Inv s) {x : Listener} (hx : s.socks.opened.lookup l = some x) :
    (s.groups.lookup x.group).isSome := by
  rcases h.held l x hx with ⟨grp, hgrp, -⟩ | ⟨id, sw, hsw, hown⟩
  · rw [hgrp]
    rfl
  · cases hg : s.groups.lookup x.group with
    | some grp => rfl
    | none => simp [ownIn, (h.swap id sw hsw).none _ hg] at hown

lemma finish_pending (sw : NodePortSwap) (hp : s.pending = some (id, sw)) (keep : Bool) :
    s.finish id keep = (if keep then s.commit sw else s.abort sw, .ok ()) := by
  simp [NodePortSet.finish, hp]

lemma Inv.finish (h : Inv s) (id : Nat) (keep : Bool) : Inv (s.finish id keep).1 := by
  unfold NodePortSet.finish
  split
  · exact h
  rename_i id' sw hp
  split
  · cases keep
    · exact h.abort hp
    · exact h.commit hp
  · exact h

/-- No address is prepared twice. -/
def Distinct (_ : NodePortSet) : NodePortLabel → Prop
  | .prepare _ _ addrs => (wantOf addrs).Nodup
  | _ => True

instance decidableDistinct (s : NodePortSet) : DecidablePred (Distinct s)
  | .prepare _ _ addrs => inferInstanceAs (Decidable (wantOf addrs).Nodup)
  | .openGroup _ _ => isTrue trivial
  | .closeGroup _ => isTrue trivial
  | .finish _ _ => isTrue trivial

def nodePortMachine : Machine NodePortSet NodePortLabel where
  init s := ∃ addrs : List Addr, addrs.Nodup ∧ s = newNodePortSet addrs
  step := nodePortStep

/-- Opens, closes, prepares and commits keep groups and listeners matched. -/
lemma inv_step {a : NodePortLabel} (h : Inv s) (hok : Distinct s a)
    (hs : nodePortStep s a = some s') : Inv s' := by
  cases a <;> simp only [nodePortStep] at hs <;> split_ifs at hs with hp <;> cases hs
  next => exact (h.openGroup_cases hp).1
  next g => exact h.closeGroup hp g
  next refuse order addrs =>
    rcases h.prepare_cases hp.2 hok refuse with
      ⟨k, err, heq, hsame⟩ | ⟨k, added, heq, hopen, hsome, hnone⟩
    · rw [heq]
      exact h.of_same hsame
    · rw [heq]
      exact @Inv.prepare_ok _ _ ⟨wantOf addrs, added⟩ h hp.1 hopen hok hsome hnone _
  next id keep => exact h.finish id keep

lemma inv_of_reach (h : nodePortMachine.Reach Distinct s) : Inv s := by
  refine h.invariant (I := Inv) ?_ fun s a s' hi hok hs => inv_step hi hok hs
  rintro s ⟨addrs, hnodup, rfl⟩
  exact inv_newNodePortSet hnodup

/-- A listener whose address stays survives the commit. -/
lemma Inv.commit_keeps (h : Inv s) (hgrp : s.groups.lookup g = some grp)
    (hl : s.socks.opened.lookup l = some ⟨addr, g⟩) (hin : addr ∈ bindAddrs sw.addrs grp.port) :
    (s.commit sw).socks.opened.lookup l = some ⟨addr, g⟩ := by
  rw [lookup_commit_opened, if_neg (h.notMem_commitClosed hgrp hl hin)]
  exact hl

/-- A group serves the committed addresses and no others, until a swap is committed; an open or a
prepare that fails, and a prepare that is aborted, change nothing; a commit keeps the listeners of
the addresses that stay. -/
theorem nodePort_swap_atomic (s : NodePortSet) (h : nodePortMachine.Reach Distinct s) :
    -- without a pending swap each group is open on the committed set, one listener an address
    (s.pending = none → ∀ g grp, s.groups.lookup g = some grp →
      s.Serves g (bindAddrs s.addrs grp.port)) ∧
    -- a failed open
    (s.pending = none → ∀ refuse nodePort err, (s.openGroup refuse nodePort).2 = .error err →
      Unchanged s (s.openGroup refuse nodePort).1) ∧
    -- a failed prepare, and a prepare that is aborted
    (s.pending = none → ∀ refuse order addrs s' r, order.Perm s.groups.keys →
      (wantOf addrs).Nodup → s.prepareNodePortAddresses refuse order addrs = (s', r) →
      (∀ err, r = .error err → Unchanged s s') ∧
      ∀ id, r = .ok id → (∃ added, s'.pending = some (id, ⟨wantOf addrs, added⟩)) ∧
        s'.groups = s.groups ∧ s'.addrs = s.addrs ∧
        (∀ l x, s.socks.opened.lookup l = some x → s'.socks.opened.lookup l = some x) ∧
        (s'.finish id false).2 = .ok () ∧ Unchanged s (s'.finish id false).1) ∧
    -- a commit
    (∀ id sw, s.pending = some (id, sw) → (s.finish id true).2 = .ok () ∧
      (s.finish id true).1.addrs = sw.addrs ∧
      (s.finish id true).1.pending = none ∧
      (∀ g, ((s.finish id true).1.groups.lookup g).map NodePortGroup.port =
        (s.groups.lookup g).map NodePortGroup.port) ∧
      (∀ g grp, s.groups.lookup g = some grp →
        (s.finish id true).1.Serves g (bindAddrs sw.addrs grp.port)) ∧
      ∀ l g grp addr, s.groups.lookup g = some grp → s.socks.opened.lookup l = some ⟨addr, g⟩ →
        addr ∈ bindAddrs s.addrs grp.port → addr ∈ bindAddrs sw.addrs grp.port →
        (s.finish id true).1.socks.opened.lookup l = some ⟨addr, g⟩) ∧
    -- every open listener belongs to a registered group
    ∀ l x, s.socks.opened.lookup l = some x → (s.groups.lookup x.group).isSome := by
  have hinv := inv_of_reach h
  refine ⟨fun hp g grp hgrp => hinv.serves hp hgrp,
    fun hp refuse nodePort err => (hinv.openGroup_cases hp).2 err,
    fun hp refuse order addrs s' r horder hwant hprep => ?_, fun id sw hp => ?_,
    fun l x hx => hinv.registered hx⟩
  · rcases hinv.prepare_cases horder hwant refuse with
      ⟨k, err, heq, hsame⟩ | ⟨k, added, heq, hopen, -, -⟩
    · rw [hprep] at heq
      cases heq
      exact ⟨fun _ _ => ⟨rfl, rfl, hsame.opened⟩, by simp⟩
    · rw [hprep] at heq
      cases heq
      refine ⟨by simp, fun id hid => ?_⟩
      cases hid
      rw [finish_pending ⟨wantOf addrs, added⟩ rfl]
      have hback := hopen.undo hinv.fresh fun l => mem_flatMap_listenersOf
      refine ⟨⟨added, rfl⟩, rfl, rfl, fun l x hx => ?_, rfl, ⟨rfl, rfl, hback.opened⟩⟩
      exact (hopen.old l (hinv.fresh.lt hx)).trans hx
  · rw [finish_pending sw hp]
    have hcommit := hinv.commit hp
    have hmap : ∀ g, (s.commit sw).groups.lookup g = (s.groups.lookup g).map (sw.commitGroup g) :=
      fun g => GoMap.lookup_mapValues _ _ _
    refine ⟨rfl, rfl, rfl, fun g => ?_, fun g grp hgrp => ?_, fun l g grp addr hgrp hl _ hin => ?_⟩
    · rw [if_pos rfl, hmap, Option.map_map]
      rfl
    · have hgrp' : (s.commit sw).groups.lookup g = some (sw.commitGroup g grp) := by
        rw [hmap, hgrp, Option.map_some]
      have hserves := hcommit.serves rfl hgrp'
      exact hserves
    · exact hinv.commit_keeps hgrp hl hin

theorem nodePort_swap_pending : ∃ s, nodePortMachine.Reach Distinct s ∧
    s.pending.isSome ∧ s.addrs = [.v4 0x7f000001#32] ∧
    s.socks.opened.lookup 0 = some ⟨"127.0.0.1:30080", 0⟩ ∧
    s.socks.opened.lookup 1 = some ⟨"10.0.0.1:30080", 0⟩ ∧
    ∀ l x, s.socks.opened.lookup l = some x → (s.groups.lookup x.group).isSome := by
  let labels : List NodePortLabel :=
    [.openGroup (fun _ => none) 30080,
      .prepare (fun _ => none) [0] [.v4 0x7f000001#32, .v4 0x0a000001#32]]
  let start := newNodePortSet [.v4 0x7f000001#32]
  obtain ⟨s, hreach, hpending, haddrs, hfirst, hsecond⟩ : ∃ s, nodePortMachine.Reach Distinct s ∧
      s.pending.isSome ∧ s.addrs = [.v4 0x7f000001#32] ∧
      s.socks.opened.lookup 0 = some ⟨"127.0.0.1:30080", 0⟩ ∧
      s.socks.opened.lookup 1 = some ⟨"10.0.0.1:30080", 0⟩ :=
    Machine.Reach.exists_run (s := start) labels ⟨_, by decide, rfl⟩ (by decide) (by decide)
  exact ⟨s, hreach, hpending, haddrs, hfirst, hsecond, (nodePort_swap_atomic s hreach).2.2.2.2⟩

end DarwinNet.Proxy.NodePortSet
