import DarwinNet.Netd.MeshKey
import DarwinNet.Podnet.Carve
import DarwinNet.Podnet.Network
import DarwinNet.Proxy.Table

/-!
The addresses of a cluster and the source of a dial (`meshegress.go` of both packages). Each node
has a /24 of the cluster range: `.1` is the source of its dials over the mesh, `.255` is on its
utun, and the pods have the others.

No pod has an address of another node or of its mesh. A dial is bound to `.1` exactly if its pod
is on another node, and the two ends of such a dial are in the ranges of their own nodes only, so
the mesh admits the dial and its replies (`pod_egress`).
-/

namespace DarwinNet.Proxy

open Lib Netip Podnet
open Netd (meshEgressIP meshLinkIP)

structure EgressScope where
  src : Addr
  clusterCIDR : Prefix

/-- The zero `Addr` leaves the source to the kernel. -/
def EgressScope.sourceFor (s : EgressScope) (loc : Locality) (dst : Addr) : Addr :=
  if !s.src.isValid || !s.clusterCIDR.isValid then .zero
  else if loc ≠ .localityRemote then .zero
  else if !s.clusterCIDR.contains dst.unmap then .zero
  else s.src

/-- A pod is remote unless it is in the node's own range. -/
lemma sourceFor_classify {cfg : TableConfig} {src ip : Addr} (hpod : cfg.podCIDR.isValid = true)
    (hcluster : cfg.clusterCIDR.isValid = true) (hsrc : src.isValid = true) (hip : ip.unmap = ip)
    (hin : cfg.clusterCIDR.contains ip = true)
    (hnode : cfg.clusterCIDR.contains cfg.nodeAddr.unmap = true →
      cfg.podCIDR.contains cfg.nodeAddr.unmap = true) :
    (EgressScope.mk src cfg.clusterCIDR).sourceFor (cfg.classify ip) ip =
      if cfg.podCIDR.contains ip then .zero else src := by
  by_cases hlocal : cfg.podCIDR.contains ip = true
  · simp [EgressScope.sourceFor, TableConfig.classify, hpod, hip, hlocal]
  · have hother : ¬ ip = cfg.nodeAddr.unmap := by
      intro heq
      rw [← heq] at hnode
      exact hlocal (hnode hin)
    simp [EgressScope.sourceFor, TableConfig.classify, hpod, hcluster, hsrc, hip, hin, hlocal,
      hother]

section

variable {base base' : BitVec 32} {i j : Nat} {ip : Addr}

lemma contains_host (hb : IsBase base) (hi : i < 256) :
    (Prefix.v4 base 24).contains (host base i) = true :=
  (contains_iff_host hb).mpr ⟨i, hi, rfl⟩

lemma host_inj (hb : IsBase base) (hb' : IsBase base') (hi : i < 256) (hj : j < 256)
    (h : host base i = host base' j) : i = j := by
  have hnat := congrArg BitVec.toNat (Addr.v4.inj h)
  rw [toNat_host hb hi, toNat_host hb' hj] at hnat
  unfold IsBase at hb hb'
  omega

lemma meshEgressIP_v4 (hb : IsBase base) :
    meshEgressIP (Prefix.v4 base 24) = some (host base 1) := by
  have hzero : Addr.v4 base = host base 0 := by simp [host]
  have hnext : (Prefix.v4 base 24).masked.ip.next = host base 1 := by
    rw [Prefix.masked_v4 (by omega), maskBits_of_isBase hb, ← host_next hb (by omega), ← hzero]
    rfl
  rw [← hnext]
  rfl

lemma meshLinkIP_v4 (hb : IsBase base) : meshLinkIP (Prefix.v4 base 24) = some (host base 255) := by
  have hand : base &&& 255#32 = 0#32 := by
    apply BitVec.eq_of_toNat_eq
    rw [BitVec.toNat_and]
    exact (Nat.and_two_pow_sub_one_eq_mod base.toNat 8).trans hb
  have hlink : Netd.broadcastInSlash24 (Prefix.v4 base 24).masked.ip = host base 255 := by
    rw [Prefix.masked_v4 (by omega), maskBits_of_isBase hb]
    exact congrArg Addr.v4 (BitVec.add_eq_or_of_and_eq_zero _ _ hand).symm
  rw [← hlink]
  rfl

lemma usable_of_reach {σ : Type} {M : AliasManager σ} {s : PodNetState σ}
    (h : (podNetMachine M).Reach Machine.always s) (hcidr : s.net.alloc.cidr = Prefix.v4 base 24)
    (hip : ip ∈ s.net.alloc.allocated) : Usable base ip := by
  obtain ⟨base', hs⟩ := Network.consistent_of_reach h
  cases hs.shaped.cidr.symm.trans hcidr
  exact hs.usable ip hip

lemma isBase_carve {a : BitVec 32} {b : Nat} (hb : b ≤ 24) (hi : i < 2 ^ (24 - b)) :
    IsBase (carve a b i) :=
  masked_carve (a := a) hb hi ▸ isBase_maskBits _

lemma contains_iff_index {a : BitVec 32} {b : Nat} (hb : b ≤ 24) (hi : i < 2 ^ (24 - b))
    (hip : (Prefix.v4 (carve a b i) 24).contains ip = true) {k : Int} {ck : Prefix}
    (hk : nodeCIDR (Prefix.v4 a b) k = .ok ck) : ck.contains ip = true ↔ k = i := by
  obtain ⟨k, rfl, hlt, rfl⟩ := (nodeCIDR_v4 hb).mp hk
  constructor
  · intro hip'
    by_contra hne
    exact carve_disjoint hb hlt hi (by omega) ip ⟨hip', hip⟩
  · intro heq
    rwa [Int.ofNat.inj heq]

end

/-- A dial of a pod's address is given the mesh source of the dialing node exactly if the pod is on
another node, and each end of it is in the range of its own node only. -/
theorem pod_egress {σ : Type} {M : AliasManager σ} {a : BitVec 32} {b : Nat} (hb : b ≤ 24)
    {i j : Int} {ci cj : Prefix} (hi : nodeCIDR (Prefix.v4 a b) i = .ok ci)
    (hj : nodeCIDR (Prefix.v4 a b) j = .ok cj) {s : PodNetState σ}
    (hs : (podNetMachine M).Reach Machine.always s) (hcidr : s.net.alloc.cidr = cj) {ip : Addr}
    (hip : ip ∈ s.net.alloc.allocated) :
    meshLinkIP ci ≠ some ip ∧ ∃ src, meshEgressIP ci = some src ∧ src ≠ ip ∧
      -- each end is in the range of its node only
      (∀ k ck, nodeCIDR (Prefix.v4 a b) k = .ok ck →
        (ck.contains src = true ↔ k = i) ∧ (ck.contains ip = true ↔ k = j)) ∧
      (∀ t, (podNetMachine M).Reach Machine.always t → t.net.alloc.cidr = ci →
        ip ∈ t.net.alloc.allocated → i = j) ∧
      -- the address of the dialing node is outside the cluster range, or in its own
      ∀ cfg : TableConfig, cfg.podCIDR = ci → cfg.clusterCIDR = Prefix.v4 a b →
        (cfg.clusterCIDR.contains cfg.nodeAddr.unmap = true →
          ci.contains cfg.nodeAddr.unmap = true) →
        (EgressScope.mk src cfg.clusterCIDR).sourceFor (cfg.classify ip) ip =
          if i = j then .zero else src := by
  obtain ⟨n, rfl, hn, rfl⟩ := (nodeCIDR_v4 hb).mp hi
  obtain ⟨m, rfl, hm, rfl⟩ := (nodeCIDR_v4 hb).mp hj
  have hbn := isBase_carve (a := a) hb hn
  have hbm := isBase_carve (a := a) hb hm
  obtain ⟨o, hlow, hhigh, rfl⟩ := usable_of_reach hs hcidr hip
  have hin := contains_host hbm (i := o) (by omega)
  refine ⟨?_, host (carve a b n) 1, meshEgressIP_v4 hbn, ?_, fun k ck hk =>
    ⟨contains_iff_index hb hn (contains_host hbn (by omega)) hk, contains_iff_index hb hm hin hk⟩,
    ?_, ?_⟩
  · rw [meshLinkIP_v4 hbn]
    intro heq
    have := host_inj hbn hbm (by omega) (by omega) (Option.some.inj heq)
    omega
  · intro heq
    have := host_inj hbn hbm (by omega) (by omega) heq
    omega
  · intro t ht hci hip'
    obtain ⟨o', -, hhigh', heq⟩ := usable_of_reach ht hci hip'
    refine (contains_iff_index hb hm hin hi).mp ?_
    rw [heq]
    exact contains_host hbn (by omega)
  · intro cfg hpod hcluster hnode
    have hinside := (inside_iff hb).mpr (carve_inside (a := a) hb hm) _ hin
    rw [← hpod] at hnode
    rw [sourceFor_classify (by simp [hpod, Prefix.v4, Prefix.isValid])
      (by simp [hcluster, Prefix.v4, Prefix.isValid]) rfl rfl (hcluster ▸ hinside) hnode, hpod]
    exact if_congr (contains_iff_index hb hm hin hi) rfl rfl

/-- 100.64.0.0/24 with a LAN address, in 100.64.0.0/10. -/
def firstNode : TableConfig :=
  ⟨Prefix.v4 0x64400000 24, .v4 0xc0a80105, Prefix.v4 0x64400000 10, 8192, 65536⟩

theorem pod_egress_remote : ∃ s : PodNetState Bool,
    (podNetMachine failsOnce).Reach Machine.always s ∧
    Addr.v4 0x64400102 ∈ s.net.alloc.allocated ∧
    (EgressScope.mk (.v4 0x64400001) firstNode.clusterCIDR).sourceFor
      (firstNode.classify (.v4 0x64400102)) (.v4 0x64400102) = .v4 0x64400001 := by
  let start : PodNetState Bool :=
    ⟨⟨⟨Prefix.v4 0x64400100 24, .v4 0x64400101, .v4 0x64400102, .v4 0x644001fe, .v4 0x64400102,
      ∅⟩, ∅, ∅⟩, true⟩
  obtain ⟨s, hs, hcidr, hip⟩ : ∃ s, (podNetMachine failsOnce).Reach Machine.always s ∧
      s.net.alloc.cidr = Prefix.v4 0x64400100 24 ∧
      Addr.v4 0x64400102 ∈ s.net.alloc.allocated :=
    Machine.Reach.exists_run (s := start) [.setup "web"] ⟨0x64400100, rfl⟩
      (Machine.meets_always _ _) (by decide)
  obtain ⟨-, src, hsrc, -, -, -, hdial⟩ := pod_egress (a := 0x64400000) (b := 10) (by decide)
    (show nodeCIDR _ 0 = .ok firstNode.podCIDR by decide) (show nodeCIDR _ 1 = _ by decide)
    hs hcidr hip
  cases hsrc
  exact ⟨s, hs, hip, hdial firstNode rfl rfl (by decide)⟩

end DarwinNet.Proxy
