import DarwinNet.Netd.Applier
import DarwinNet.Mesh.Cryptokey

/-!
The mesh half of the root executor (`applier.go`): `SetNodePodCIDR`, `ConfigureMesh`
and `RemoveMesh`, with what each does to lo0.

The mesh device puts the node's mesh-egress address, `.1` of the node's /24, on lo0 and
takes it off again; no pod address is ever `.1` (`ne_meshEgressIP`), so the mesh leaves
the pod addresses on lo0 alone (`SamePods`).
-/

namespace DarwinNet.Netd

open Lib Netip Podnet
open Mesh (IsNodeRange isNodeCIDR)

/-- `podnet.MeshEgressIP`; `podnet.MeshLinkIP` fails on the same prefixes. -/
def meshEgressIP (nodeCIDR : Prefix) : Option Addr :=
  if !nodeCIDR.isValid || !nodeCIDR.ip.is4 || nodeCIDR.bits != nodeCIDRBits then none
  else some nodeCIDR.masked.ip.next

structure MeshOutcomes where
  addrs : Option String := none
  iface : String := "utun4"
  up : Option String := none
  /-- A failing `Up` got as far as the lo0 alias of the mesh-egress address. -/
  upAliased : Bool := false
  apply : Option String := none
  /-- The addresses whose utun command fails. -/
  utunFailed : Finset Addr := ∅
  down : Option String := none
  unaliased : Bool := true
  list : Option String := none
  /-- The addresses whose blackhole cannot be cleared. -/
  clearFailed : Finset Addr := ∅

inductive MeshError
  | derive (cidr : Prefix)
  | meshUp (old : Prefix)
  | noAddress (cidr : Prefix)
  | up (err : String)
  | apply (err : String)
  | reconcile (failed : Finset Addr) (read : Option String)
  | down (err : String)

/-- The device goes: its utun with every alias on it, and the mesh-egress alias. -/
def unplumbMesh (k : Kernel) (o : MeshOutcomes) (cidr : Prefix) : Kernel :=
  match meshEgressIP cidr with
  | none => k
  | some ip => { k with lo0 := if o.unaliased then k.lo0.erase ip else k.lo0, utun := ∅ }

def plumbMesh (k : Kernel) (cidr : Prefix) : Kernel :=
  match meshEgressIP cidr with
  | none => k
  | some ip => { k with lo0 := insert ip k.lo0 }

namespace DarwinApplier

variable (a : DarwinApplier) (o : MeshOutcomes)

def sweepBlackholes (k : Kernel) (o : MeshOutcomes) (cidr : Prefix) : Kernel :=
  match o.list with
  | some _ => k
  | none => { k with blackholes :=
      k.blackholes.filter fun ip => ¬ cidr.contains ip ∨ ip ∈ o.clearFailed }

def setNodePodCIDR (cidr : Prefix) : DarwinApplier × Option MeshError :=
  if (meshEgressIP cidr).isNone then (a, some (.derive cidr))
  else if a.meshUp then (a, some (.meshUp a.nodePodCIDR))
  else
    let k := if a.dev.isSome then unplumbMesh a.kernel o a.nodePodCIDR else a.kernel
    let a' := { a with dev := none, nodePodCIDR := cidr, kernel := k }
    if a.nodePodCIDR = cidr then (a', none)
    else
      ({ a' with
          pods := none
          aliased := a.aliased.eraseAll (a.aliased.keys.filter (isPodAddress a.nodePodCIDR ·))
          kernel := sweepBlackholes k o a.nodePodCIDR }, none)

def seedPods : LocalPods :=
  match o.addrs with
  | some _ => none
  | none => some (a.kernel.lo0.filter (fun ip => isPodAddress a.nodePodCIDR ip) ∪
      ((a.aliased.entries.filter fun e =>
        e.2 = .live ∧ isPodAddress a.nodePodCIDR e.1).map Sigma.fst).toFinset)

def reconcileUTUNAliases : DarwinApplier × Option MeshError :=
  match a.meshUTUN, o.addrs with
  | none, _ => (a, none)
  | some _, some err => (a, some (.reconcile ∅ (some err)))
  | some _, none =>
    let stale := a.kernel.utun.filter fun ip =>
      isPodAddress a.nodePodCIDR ip ∧ ip ∉ a.kernel.lo0
    let missing := a.kernel.lo0.filter fun ip =>
      isPodAddress a.nodePodCIDR ip ∧ ip ∉ a.kernel.utun
    let failed := (stale ∪ missing) ∩ o.utunFailed
    ({ a with kernel := { a.kernel with
        utun := (a.kernel.utun \ (stale \ failed)) ∪ (missing \ failed) } },
      if failed = ∅ then none else some (.reconcile failed none))

/-- `Up` unless the mesh is up, on the device built for the current identity. -/
def bringUp : DarwinApplier × Option MeshError :=
  if a.meshUp then (a, none)
  else match o.up with
    | some err =>
      ({ a with kernel := if o.upAliased then plumbMesh a.kernel a.nodePodCIDR else a.kernel },
        some (.up err))
    | none =>
      ({ a with dev := some o.iface, meshUp := true,
                kernel := plumbMesh a.kernel a.nodePodCIDR }, none)

/-- `ConfigureMesh`; of the plan's `Apply` only the error is kept. -/
def configureMesh : DarwinApplier × Option MeshError :=
  let a := { a with pods := a.seedPods o }
  if a.dev.isNone && (meshEgressIP a.nodePodCIDR).isNone then
    (a, some (.noAddress a.nodePodCIDR))
  else
    let a := if a.dev.isNone then { a with dev := some "" } else a
    match a.bringUp o with
    | (a, some err) => (a, some err)
    | (a, none) =>
      match a.reconcileUTUNAliases o with
      | (a, err) => (a, match o.apply with
          | some applyErr => some (.apply applyErr)
          | none => err)

def removeMesh : DarwinApplier × Option MeshError :=
  if a.dev.isNone || !a.meshUp then (a, none)
  else
    let k := unplumbMesh a.kernel o a.nodePodCIDR
    match o.down with
    | some err => ({ a with kernel := k }, some (.down err))
    | none => ({ a with kernel := k, meshUp := false }, none)

/-- The `ifconfig lo0 alias` of an `EnsureAlias` runs and succeeds. -/
def plumbs (o : Outcomes) (ip : Addr) : Bool :=
  (!isPodAddress a.nodePodCIDR ip || o.clear.isNone) && o.lo0Alias.isNone

end DarwinApplier

/-! ## Pod addresses -/

variable {cidr cidr' : Prefix} {ip : Addr}

lemma isPodAddress_spec (h : isPodAddress cidr ip = true) :
    cidr.masked.contains ip.unmap = true ∧ 2 ≤ (as4 ip.unmap).toNat % 256 := by
  unfold isPodAddress at h
  split at h
  · cases h
  split at h
  · cases h
  · rename_i hcontains
    simp only [Bool.and_eq_true, decide_eq_true_eq] at h
    simp only [Bool.or_eq_true, Bool.not_eq_true', not_or, Bool.not_eq_false] at hcontains
    exact ⟨hcontains.2, h.1⟩

lemma meshEgressIP_eq_some (h : meshEgressIP cidr = some ip) :
    ∃ a, cidr = Prefix.v4 a 24 ∧ ip = host (maskBits 24 a) 1 := by
  unfold meshEgressIP at h
  split_ifs at h with hform
  simp only [Bool.or_eq_true, Bool.not_eq_true', bne_iff_ne, ne_eq, not_or, not_not,
    Bool.not_eq_false] at hform
  obtain ⟨⟨hvalid, h4⟩, hbits⟩ := hform
  obtain ⟨addr, bits⟩ := cidr
  cases addr with
  | zero => cases h4
  | v6 a zone => cases h4
  | v4 a =>
    simp only [Prefix.isValid, decide_eq_true_eq, Prefix.bits, nodeCIDRBits] at hvalid hbits
    obtain rfl : bits = 25 := by omega
    have hmask : (Prefix.mk (.v4 a) 25).masked = Prefix.v4 (maskBits 24 a) 24 :=
      Prefix.masked_v4 (a := a) (b := 24) (by omega)
    have hzero : (Prefix.v4 (maskBits 24 a) 24).ip = host (maskBits 24 a) 0 := by
      simp [host, Prefix.v4]
    rw [hmask, hzero, host_next (isBase_maskBits a) (by omega)] at h
    exact ⟨a, rfl, (Option.some.inj h).symm⟩

lemma ne_meshEgressIP {ip' : Addr} (h : isPodAddress cidr ip = true)
    (h' : meshEgressIP cidr' = some ip') : ip ≠ ip' := by
  rintro rfl
  obtain ⟨a, -, rfl⟩ := meshEgressIP_eq_some h'
  have hb := isBase_maskBits a
  have hlast := (isPodAddress_spec h).2
  have hhost : (as4 (host (maskBits 24 a) 1).unmap).toNat = (maskBits 24 a).toNat + 1 :=
    toNat_host hb (by omega)
  unfold IsBase at hb
  omega

lemma eq_of_isPodAddress (hc : IsNodeRange cidr) (hc' : IsNodeRange cidr') {x : BitVec 32}
    (h : isPodAddress cidr (.v4 x) = true) (h' : cidr'.contains (.v4 x) = true) : cidr = cidr' := by
  have hcontains := (isPodAddress_spec h).1
  rw [hc.masked_eq] at hcontains
  exact hc.eq_of_contains hc' hcontains h'

/-! ## What the operations do to the pod addresses on lo0 -/

/-- The pod aliases are as they were. -/
structure SamePods (a a' : DarwinApplier) : Prop where
  nodePodCIDR : a'.nodePodCIDR = a.nodePodCIDR
  aliased : a'.aliased = a.aliased
  lo0 : ∀ cidr ip, isPodAddress cidr ip = true → (ip ∈ a'.kernel.lo0 ↔ ip ∈ a.kernel.lo0)

lemma mem_lo0_plumbMesh (k : Kernel) (cidr : Prefix) (h : isPodAddress cidr' ip = true) :
    ip ∈ (plumbMesh k cidr).lo0 ↔ ip ∈ k.lo0 := by
  unfold plumbMesh
  split
  · rfl
  · rename_i mesh hmesh
    simp [ne_meshEgressIP h hmesh]

lemma mem_lo0_unplumbMesh (k : Kernel) (o : MeshOutcomes) (cidr : Prefix)
    (h : isPodAddress cidr' ip = true) : ip ∈ (unplumbMesh k o cidr).lo0 ↔ ip ∈ k.lo0 := by
  unfold unplumbMesh
  split
  · rfl
  · rename_i mesh hmesh
    split <;> simp [ne_meshEgressIP h hmesh]

namespace DarwinApplier

variable (a : DarwinApplier) (o : MeshOutcomes)

lemma bringUp_samePods : SamePods a (a.bringUp o).1 := by
  unfold bringUp
  split
  · exact ⟨rfl, rfl, fun _ _ _ => Iff.rfl⟩
  split
  · refine ⟨rfl, rfl, fun cidr ip h => ?_⟩
    simp only
    split
    · exact mem_lo0_plumbMesh _ _ h
    · rfl
  · exact ⟨rfl, rfl, fun cidr ip h => mem_lo0_plumbMesh _ _ h⟩

lemma reconcile_samePods : SamePods a (a.reconcileUTUNAliases o).1 := by
  unfold reconcileUTUNAliases
  split <;> exact ⟨rfl, rfl, fun _ _ _ => Iff.rfl⟩

lemma SamePods.trans {a b c : DarwinApplier} (h : SamePods a b) (h' : SamePods b c) :
    SamePods a c :=
  ⟨h'.1.trans h.1, h'.2.trans h.2, fun cidr ip hip => (h'.3 cidr ip hip).trans (h.3 cidr ip hip)⟩

lemma configureMesh_samePods : SamePods a (a.configureMesh o).1 := by
  have hdev : SamePods a (if a.dev.isNone then
      { a with pods := a.seedPods o, dev := some "" } else { a with pods := a.seedPods o }) := by
    split <;> exact ⟨rfl, rfl, fun _ _ _ => Iff.rfl⟩
  unfold configureMesh
  simp only
  split
  · exact ⟨rfl, rfl, fun _ _ _ => Iff.rfl⟩
  generalize (if a.dev.isNone then
    { a with pods := a.seedPods o, dev := some "" } else { a with pods := a.seedPods o }) =
      b at hdev ⊢
  have hup := bringUp_samePods b o
  split
  · rename_i c err hbring
    rw [hbring] at hup
    exact SamePods.trans hdev hup
  · rename_i c hbring
    rw [hbring] at hup
    exact SamePods.trans hdev (SamePods.trans hup (reconcile_samePods c o))

lemma removeMesh_samePods : SamePods a (a.removeMesh o).1 := by
  unfold removeMesh
  split
  · exact ⟨rfl, rfl, fun _ _ _ => Iff.rfl⟩
  · simp only
    split <;> exact ⟨rfl, rfl, fun cidr ip h => mem_lo0_unplumbMesh _ _ _ h⟩

/-- A refused identity changes nothing; an adopted one is a node range and moves no pod alias. -/
lemma setNodePodCIDR_spec (cidr : Prefix) :
    ((a.setNodePodCIDR o cidr).2 ≠ none → (a.setNodePodCIDR o cidr).1 = a) ∧
    ((a.setNodePodCIDR o cidr).2 = none →
      (a.setNodePodCIDR o cidr).1.nodePodCIDR = cidr ∧ isNodeCIDR cidr = true ∧
      ∀ cidr' ip, isPodAddress cidr' ip = true →
        (ip ∈ (a.setNodePodCIDR o cidr).1.kernel.lo0 ↔ ip ∈ a.kernel.lo0)) := by
  unfold setNodePodCIDR
  split
  · simp
  rename_i hmesh
  split
  · simp
  · have hk : ∀ cidr' ip, isPodAddress cidr' ip = true →
        (ip ∈ (if a.dev.isSome then unplumbMesh a.kernel o a.nodePodCIDR
          else a.kernel).lo0 ↔ ip ∈ a.kernel.lo0) := by
      intro cidr' ip h
      split
      · exact mem_lo0_unplumbMesh _ _ _ h
      · rfl
    have hnode : isNodeCIDR cidr = true := by
      cases hip : meshEgressIP cidr with
      | none => simp [hip] at hmesh
      | some ip =>
        obtain ⟨x, rfl, -⟩ := meshEgressIP_eq_some hip
        rfl
    simp only
    split
    · exact ⟨by simp, fun _ => ⟨rfl, hnode, hk⟩⟩
    · refine ⟨by simp, fun _ => ⟨rfl, hnode, fun cidr' ip h => ?_⟩⟩
      unfold sweepBlackholes
      split
      · exact hk cidr' ip h
      · exact hk cidr' ip h

variable {a}

/-- An `EnsureAlias` puts its address on lo0 and tracks it, or fails and leaves both alone;
after the alias only the utun command can fail. -/
lemma ensureAlias_spec (a : DarwinApplier) (o : Outcomes) (ip : Addr) :
    (a.plumbs o ip = true → (a.ensureAlias o ip).1.kernel.lo0 = insert ip a.kernel.lo0 ∧
      (a.ensureAlias o ip).1.aliased = a.aliased.insert ip .live ∧
      (o.utunAlias = none → (a.ensureAlias o ip).2 = none)) ∧
    (a.plumbs o ip = false → (a.ensureAlias o ip).1.kernel.lo0 = a.kernel.lo0 ∧
      (a.ensureAlias o ip).1.aliased = a.aliased ∧ (a.ensureAlias o ip).2 ≠ none) := by
  unfold ensureAlias plumbs
  by_cases hpod : isPodAddress a.nodePodCIDR ip = true
  · simp only [hpod, if_true, clearPod, Bool.not_true, Bool.false_or]
    split
    · rename_i k err hclear
      obtain ⟨hc, rfl⟩ := Kernel.clear_failed hclear
      exact ⟨fun h => by simp [hc] at h, fun _ => ⟨rfl, rfl, Option.some_ne_none _⟩⟩
    · rename_i k hclear
      obtain ⟨hc, rfl⟩ := Kernel.clear_done hclear
      split
      · rename_i k' err halias
        obtain ⟨ha, rfl⟩ := Kernel.aliasLo0_failed halias
        exact ⟨fun h => by simp [ha] at h, fun _ => ⟨rfl, rfl, Option.some_ne_none _⟩⟩
      · rename_i k' halias
        obtain ⟨ha, rfl⟩ := Kernel.aliasLo0_done halias
        obtain ⟨hal, hlo0, -, herr⟩ := ensureUTUN_frame { a with
          kernel := ⟨insert ip a.kernel.lo0, a.kernel.utun, a.kernel.blackholes.erase ip⟩
          aliased := a.aliased.insert ip .live
          pods := a.pods.add ip } o ip
        refine ⟨fun _ => ⟨hlo0, hal, fun hutun => ?_⟩, fun h => by simp [hc, ha] at h⟩
        by_contra hne
        exact (herr hne).2 hutun
  · rw [Bool.not_eq_true] at hpod
    simp only [hpod, clearPod, Bool.not_false, Bool.true_or, Bool.true_and,
      Bool.false_eq_true, if_false]
    split
    · rename_i k' err halias
      obtain ⟨ha, rfl⟩ := Kernel.aliasLo0_failed halias
      exact ⟨fun h => by simp [ha] at h, fun _ => ⟨rfl, rfl, Option.some_ne_none _⟩⟩
    · rename_i k' halias
      obtain ⟨ha, rfl⟩ := Kernel.aliasLo0_done halias
      exact ⟨fun _ => ⟨rfl, rfl, fun _ => rfl⟩, fun h => by simp [ha] at h⟩

lemma removeAlias_frame (a : DarwinApplier) (o : Outcomes) (ip : Addr) :
    (a.removeAlias o ip).1.kernel.lo0 ⊆ a.kernel.lo0 ∧
      ∀ x, x ≠ ip → (a.removeAlias o ip).1.aliased.lookup x = a.aliased.lookup x := by
  by_cases hpod : isPodAddress a.nodePodCIDR ip = true
  · cases removeAlias_effect (o := o) hpod with
    | unchanged hal hlo0 hb herr =>
      rw [hal, hlo0]
      exact ⟨subset_rfl, fun _ _ => rfl⟩
    | pending hal hlo0 hb herr =>
      rw [hal]
      refine ⟨?_, fun x hx => by rw [GoMap.lookup_insert_ite, if_neg hx]⟩
      rcases hlo0 with hlo0 | hlo0
      · rw [hlo0]
      · rw [hlo0]
        exact Finset.erase_subset _ _
    | blackholed hal hlo0 hb herr =>
      rw [hal, hlo0]
      exact ⟨Finset.erase_subset _ _, fun x hx => by rw [GoMap.lookup_erase_ite, if_neg hx]⟩
  · have hutun : a.removeUTUN o ip = a := by simp [removeUTUN, hpod]
    have hlo0 : (a.removeLo0 o ip).1.kernel.lo0 ⊆ a.kernel.lo0 ∧
        (a.removeLo0 o ip).1.aliased = a.aliased ∧
        (a.removeLo0 o ip).1.nodePodCIDR = a.nodePodCIDR := by
      unfold removeLo0
      split
      · exact ⟨subset_rfl, rfl, rfl⟩
      split
      rename_i k err hunalias
      rcases Kernel.unaliasLo0_cases hunalias with ⟨-, rfl⟩ | ⟨-, rfl⟩
      · exact ⟨subset_rfl, rfl, rfl⟩
      · exact ⟨Finset.erase_subset _ _, rfl, rfl⟩
    unfold removeAlias
    rw [hutun]
    generalize a.removeLo0 o ip = r at hlo0 ⊢
    obtain ⟨hsub, hal, hcidr⟩ := hlo0
    have hnot : isPodAddress r.1.nodePodCIDR ip = false := by simpa [hcidr] using hpod
    simp only [blackhole, hnot, Bool.not_false, if_true]
    exact ⟨hsub, fun x hx => by rw [GoMap.lookup_erase_ite, if_neg hx, hal]⟩

end DarwinApplier

end DarwinNet.Netd
