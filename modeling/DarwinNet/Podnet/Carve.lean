import DarwinNet.Netd.Server
import Mathlib.Tactic.Ring

/-!
The /24 of a node out of the cluster range (`allocator.go`: `NodeCIDR`, `NodeIndex`). The
carve adds `index * 256` to the base of the cluster range; since a range of length `b` is a
multiple of `2 ^ (32 - b)`, no sum leaves 32 bits (`toNat_carve`). `nodeCIDR_nodeIndex_inverse`
collects what follows: which indices have a /24, where it lies, and that the index is read
back from it.
-/

namespace DarwinNet.Podnet

open Lib Netip Netd

def nodeCIDR (clusterCIDR : Prefix) (index : Int) : Except PodNetError Prefix :=
  if !clusterCIDR.isValid then .error (Sentinel.outOfRange.errorf "invalid cluster CIDR")
  else
    let clusterCIDR := clusterCIDR.masked
    if clusterCIDR.ip.is6 then
      .error (Sentinel.outOfRange.errorf "only IPv4 cluster CIDRs are supported")
    else if clusterCIDR.bits > nodeCIDRBits then
      .error (Sentinel.outOfRange.errorf ("cluster CIDR /" ++ toString clusterCIDR.bits ++
        " is smaller than a node /" ++ toString nodeCIDRBits))
    else if index < 0 then
      .error (Sentinel.outOfRange.errorf ("negative node index " ++ toString index))
    else
      let maxNodes : Nat := 1 <<< (nodeCIDRBits - clusterCIDR.bits)
      if (maxNodes : Int) ≤ index then
        .error (Sentinel.outOfRange.errorf ("node index " ++ toString index ++ " exceeds " ++
          toString maxNodes ++ " /" ++ toString nodeCIDRBits ++ " blocks in " ++
          clusterCIDR.string))
      else
        -- `uint32` arithmetic: the conversion and the sum may wrap
        let v := as4 clusterCIDR.ip + BitVec.ofInt 32 index <<< (32 - nodeCIDRBits)
        .ok (Prefix.prefixFrom (.v4 v) nodeCIDRBits)

example : nodeCIDR (Prefix.v4 0x64400000#32 10) 1 = .ok (Prefix.v4 0x64400100#32 24) := by decide

/-- The base of the /24 with index `i`. -/
def carve (a : BitVec 32) (b i : Nat) : BitVec 32 := maskBits b a + BitVec.ofNat 32 i <<< 8

section

variable {a x y v : BitVec 32} {b i j : Nat} {p : Prefix}

lemma two_pow_sub (hb : b ≤ 24) : 2 ^ (32 - b) = 2 ^ (24 - b) * 256 := by
  have hexp : 32 - b = 24 - b + 8 := by omega
  rw [hexp, Nat.pow_add]

lemma block_le (hb : b ≤ 24) : a.toNat / 2 ^ (32 - b) * 2 ^ (32 - b) + 2 ^ (32 - b) ≤ 2 ^ 32 := by
  have hsplit : 2 ^ 32 = 2 ^ b * 2 ^ (32 - b) := by rw [← Nat.pow_add]; congr 1; omega
  have hdiv : a.toNat / 2 ^ (32 - b) < 2 ^ b := by
    apply Nat.div_lt_of_lt_mul
    rw [Nat.mul_comm, ← hsplit]
    exact a.isLt
  calc a.toNat / 2 ^ (32 - b) * 2 ^ (32 - b) + 2 ^ (32 - b)
      = (a.toNat / 2 ^ (32 - b) + 1) * 2 ^ (32 - b) := by rw [Nat.add_mul, Nat.one_mul]
    _ ≤ 2 ^ b * 2 ^ (32 - b) := Nat.mul_le_mul_right _ hdiv
    _ = 2 ^ 32 := hsplit.symm

lemma carve_lt (hb : b ≤ 24) (hi : i < 2 ^ (24 - b)) :
    (maskBits b a).toNat + i * 256 + 256 ≤ 2 ^ 32 := by
  have hle := block_le (a := a) hb
  have hpow := two_pow_sub hb
  rw [toNat_maskBits]
  omega

lemma toNat_carve (hb : b ≤ 24) (hi : i < 2 ^ (24 - b)) :
    (carve a b i).toNat = (maskBits b a).toNat + i * 256 := by
  have hlt := carve_lt (a := a) hb hi
  simp only [carve, BitVec.toNat_add, BitVec.toNat_shiftLeft, BitVec.toNat_ofNat, Nat.shiftLeft_eq]
  omega

lemma contains_v4_iff_div :
    (Prefix.v4 x b).contains (.v4 y) = true ↔ x.toNat / 2 ^ (32 - b) = y.toNat / 2 ^ (32 - b) := by
  rw [Prefix.contains_v4_iff, ← BitVec.toNat_inj, BitVec.toNat_ushiftRight,
    BitVec.toNat_ushiftRight, Nat.shiftRight_eq_div_pow, Nat.shiftRight_eq_div_pow]

lemma exists_of_contains {ip : Addr} (h : (Prefix.v4 x b).contains ip = true) :
    ∃ y, ip = .v4 y := by
  cases ip with
  | v4 y => exact ⟨y, rfl⟩
  | zero => simp [Prefix.contains, Prefix.v4, Prefix.isValid] at h
  | v6 y zone => simp [Prefix.contains, Prefix.v4, Prefix.isValid] at h

/-- A /24 lies in the cluster range exactly if its upper bits do. -/
lemma inside_iff (hb : b ≤ 24) :
    (∀ ip, (Prefix.v4 v 24).contains ip = true → (Prefix.v4 a b).contains ip = true) ↔
      a.toNat / 2 ^ (32 - b) = v.toNat / 2 ^ (32 - b) := by
  constructor
  · intro h
    exact contains_v4_iff_div.mp (h (.v4 v) (contains_v4_iff_div.mpr rfl))
  intro h ip hip
  obtain ⟨y, rfl⟩ := exists_of_contains hip
  have hy : v.toNat / 256 = y.toNat / 256 := contains_v4_iff_div.mp hip
  rw [contains_v4_iff_div, h, two_pow_sub hb, Nat.mul_comm, ← Nat.div_div_eq_div_mul,
    ← Nat.div_div_eq_div_mul, hy]

/-! ## The two functions -/

lemma nodeCIDR_v4 (hb : b ≤ 24) {i : Int} : nodeCIDR (Prefix.v4 a b) i = .ok p ↔
      ∃ n : Nat, i = n ∧ n < 2 ^ (24 - b) ∧ p = Prefix.v4 (carve a b n) 24 := by
  have hmasked : (Prefix.v4 a b).masked = Prefix.v4 (maskBits b a) b := Prefix.masked_v4 (by omega)
  have hbits : (Prefix.v4 (maskBits b a) b).bits = b := rfl
  have hmax : 1 <<< (24 - b) = 2 ^ (24 - b) := by rw [Nat.shiftLeft_eq, Nat.one_mul]
  have hvalid : (Prefix.v4 a b).isValid = true := by simp [Prefix.v4, Prefix.isValid]
  have hfour : (Prefix.v4 (maskBits b a) b).ip.is6 = false := rfl
  have hnode : nodeCIDRBits = 24 := rfl
  simp only [nodeCIDR, hvalid, hmasked, hfour, hbits, hnode, hmax, Bool.not_true,
    Bool.false_eq_true, if_false, if_neg (Nat.not_lt.mpr hb)]
  split
  · simp only [reduceCtorEq, false_iff]
    rintro ⟨n, rfl, -⟩
    omega
  · rename_i hpos
    obtain ⟨n, rfl⟩ := Int.eq_ofNat_of_zero_le (Int.not_lt.mp hpos)
    split
    · rename_i hbig
      simp only [reduceCtorEq, false_iff]
      rintro ⟨m, hm, hlt, -⟩
      omega
    · rename_i hsmall
      have hcarve : Prefix.prefixFrom (.v4 (as4 (Prefix.v4 (maskBits b a) b).ip +
          BitVec.ofInt 32 n <<< (32 - 24))) 24 = Prefix.v4 (carve a b n) 24 := by
        rw [BitVec.ofInt_natCast]
        rfl
      rw [hcarve]
      constructor
      · intro h
        cases h
        exact ⟨n, rfl, by omega, rfl⟩
      · rintro ⟨m, hm, -, rfl⟩
        rw [show n = m by omega]

lemma eq_v4_of_masked (hvalid : p.isValid = true) (hfour : p.masked.ip.is4 = true)
    (hbits : p.masked.bits = 24) : ∃ v, p = Prefix.v4 v 24 := by
  obtain ⟨ip, n⟩ := p
  cases n with
  | zero => cases hvalid
  | succ n =>
    cases ip with
    | zero => cases hfour
    | v4 v =>
      by_cases hn : n ≤ 32
      · have hmasked : (Prefix.mk (.v4 v) (n + 1)).masked = Prefix.v4 (maskBits n v) n :=
          Prefix.masked_v4 hn
        rw [hmasked] at hbits
        exact ⟨v, by rw [← show n = 24 from hbits]; rfl⟩
      · simp [Prefix.masked, Prefix.isValid, Prefix.bits, Prefix.ofAddr, hn, Prefix.zero,
          Addr.is4] at hfour
    | v6 v zone =>
      by_cases hn : n ≤ 128
      · simp [Prefix.masked, Prefix.isValid, Prefix.bits, Prefix.ofAddr, hn, Prefix.prefixFrom,
          Addr.withoutZone, Addr.is4] at hfour
      · simp [Prefix.masked, Prefix.isValid, Prefix.bits, Prefix.ofAddr, hn, Prefix.zero,
          Addr.is4] at hfour

lemma eq_v4_of_nodeIndex {cluster : Prefix} {n : Nat} (h : nodeIndex cluster p = some n) :
    ∃ v, p = Prefix.v4 v 24 := by
  unfold nodeIndex at h
  split_ifs at h with hvalid
  dsimp only at h
  split at h
  · cases h
  rename_i hfour
  split at h
  · cases h
  · rename_i hbits
    simp only [Bool.or_eq_true, Bool.not_eq_true', not_or, Bool.not_eq_false] at hvalid hfour
    exact eq_v4_of_masked hvalid.2 hfour.2 (not_not.mp hbits)

lemma contains_maskBits (hb : b ≤ 24) :
    (Prefix.v4 (maskBits b a) b).contains (.v4 (maskBits 24 v)) = true ↔
      a.toNat / 2 ^ (32 - b) = v.toNat / 2 ^ (32 - b) := by
  have hbase : (maskBits b a).toNat / 2 ^ (32 - b) = a.toNat / 2 ^ (32 - b) := by
    rw [toNat_maskBits, Nat.mul_div_cancel _ (Nat.two_pow_pos _)]
  have hnode : (maskBits 24 v).toNat / 2 ^ (32 - b) = v.toNat / 2 ^ (32 - b) := by
    rw [two_pow_sub hb, Nat.mul_comm, ← Nat.div_div_eq_div_mul, ← Nat.div_div_eq_div_mul,
      toNat_maskBits]
    congr 1
    omega
  rw [contains_v4_iff_div, hbase, hnode]

lemma nodeIndex_v4 (hb : b ≤ 24) : nodeIndex (Prefix.v4 a b) (Prefix.v4 v 24) =
      if a.toNat / 2 ^ (32 - b) = v.toNat / 2 ^ (32 - b) then
        some ((maskBits 24 v - maskBits b a) >>> 8).toNat
      else none := by
  have hcluster : (Prefix.v4 a b).masked = Prefix.v4 (maskBits b a) b := Prefix.masked_v4 (by omega)
  have hnode : (Prefix.v4 v 24).masked = Prefix.v4 (maskBits 24 v) 24 := Prefix.masked_v4 (by omega)
  have hvalid : (Prefix.v4 a b).isValid = true := by simp [Prefix.v4, Prefix.isValid]
  have hshort : ¬ (Prefix.v4 (maskBits b a) b).bits > nodeCIDRBits := Nat.not_lt.mpr hb
  unfold nodeIndex
  simp only [hcluster, hnode, hvalid]
  have hnodeValid : (Prefix.v4 v 24).isValid = true := rfl
  have hfour : (Prefix.v4 (maskBits b a) b).ip.is4 = true := rfl
  have hnodeFour : (Prefix.v4 (maskBits 24 v) 24).ip.is4 = true := rfl
  have hbits : ¬ (Prefix.v4 (maskBits 24 v) 24).bits ≠ nodeCIDRBits := not_not.mpr rfl
  simp only [hnodeValid, hfour, hnodeFour, Bool.not_true, Bool.or_self, Bool.false_eq_true,
    if_false, if_neg hbits]
  simp only [hshort, decide_false, Bool.false_or]
  by_cases hin : a.toNat / 2 ^ (32 - b) = v.toNat / 2 ^ (32 - b)
  · have hcontains := (contains_maskBits (v := v) hb).mpr hin
    rw [if_pos hin, if_neg (by simpa [Prefix.v4] using hcontains)]
    rfl
  · have hcontains := mt (contains_maskBits (v := v) hb).mp hin
    rw [if_neg hin, if_pos (by simpa [Prefix.v4] using hcontains)]

/-! ## The inverse -/

lemma masked_carve (hb : b ≤ 24) (hi : i < 2 ^ (24 - b)) :
    maskBits 24 (carve a b i) = carve a b i := by
  apply BitVec.eq_of_toNat_eq
  rw [toNat_maskBits, toNat_carve hb hi, toNat_maskBits, two_pow_sub hb]
  have hdvd : 256 ∣ a.toNat / (2 ^ (24 - b) * 256) * (2 ^ (24 - b) * 256) + i * 256 :=
    ⟨a.toNat / (2 ^ (24 - b) * 256) * 2 ^ (24 - b) + i, by ring⟩
  exact Nat.div_mul_cancel hdvd

lemma carve_inside (hb : b ≤ 24) (hi : i < 2 ^ (24 - b)) :
    a.toNat / 2 ^ (32 - b) = (carve a b i).toNat / 2 ^ (32 - b) := by
  have hpow := two_pow_sub hb
  have hsmall : i * 256 < 2 ^ (32 - b) := by omega
  rw [toNat_carve hb hi, toNat_maskBits, Nat.mul_comm (a.toNat / 2 ^ (32 - b)),
    Nat.mul_add_div (Nat.two_pow_pos _), Nat.div_eq_of_lt hsmall, Nat.add_zero]

lemma nodeIndex_carve (hb : b ≤ 24) (hi : i < 2 ^ (24 - b)) :
    nodeIndex (Prefix.v4 a b) (Prefix.v4 (carve a b i) 24) = some i := by
  have hlt := carve_lt (a := a) hb hi
  have hnat := toNat_carve (a := a) hb hi
  rw [nodeIndex_v4 hb, if_pos (carve_inside hb hi), masked_carve hb hi, BitVec.toNat_ushiftRight,
    BitVec.toNat_sub, hnat, Nat.shiftRight_eq_div_pow]
  congr 1
  omega

lemma carve_nodeIndex (hb : b ≤ 24) (hin : a.toNat / 2 ^ (32 - b) = v.toNat / 2 ^ (32 - b)) :
    ((maskBits 24 v - maskBits b a) >>> 8).toNat < 2 ^ (24 - b) ∧
      carve a b ((maskBits 24 v - maskBits b a) >>> 8).toNat = maskBits 24 v := by
  have hpow := two_pow_sub hb
  have hv := v.isLt
  have hbase : (maskBits b a).toNat = v.toNat / 2 ^ (32 - b) * 2 ^ (32 - b) := by
    rw [toNat_maskBits, hin]
  have hnode : (maskBits 24 v).toNat = v.toNat / 256 * 256 := toNat_maskBits v
  have hdiv : v.toNat / 2 ^ (32 - b) = v.toNat / 256 / 2 ^ (24 - b) := by
    rw [hpow, Nat.mul_comm, Nat.div_div_eq_div_mul]
  -- in /24s: the base of the range is a multiple of its size, and the index is the remainder
  have hmod := Nat.div_add_mod (v.toNat / 256) (2 ^ (24 - b))
  have hlt := Nat.mod_lt (v.toNat / 256) (Nat.two_pow_pos (24 - b))
  have hbase' : (maskBits b a).toNat = 2 ^ (24 - b) * (v.toNat / 256 / 2 ^ (24 - b)) * 256 := by
    rw [hbase, hdiv, hpow]
    ring
  have hindex : ((maskBits 24 v - maskBits b a) >>> 8).toNat = v.toNat / 256 % 2 ^ (24 - b) := by
    rw [BitVec.toNat_ushiftRight, BitVec.toNat_sub, Nat.shiftRight_eq_div_pow, hnode, hbase']
    omega
  rw [hindex]
  refine ⟨hlt, BitVec.eq_of_toNat_eq ?_⟩
  rw [toNat_carve hb hlt, hnode, hbase']
  omega

lemma carve_disjoint (hb : b ≤ 24) (hi : i < 2 ^ (24 - b)) (hj : j < 2 ^ (24 - b)) (hne : i ≠ j)
    (ip : Addr) : ¬ ((Prefix.v4 (carve a b i) 24).contains ip = true ∧
      (Prefix.v4 (carve a b j) 24).contains ip = true) := by
  rintro ⟨hp, hq⟩
  obtain ⟨y, rfl⟩ := exists_of_contains hp
  have hpi : (carve a b i).toNat / 256 = y.toNat / 256 := contains_v4_iff_div.mp hp
  have hqj : (carve a b j).toNat / 256 = y.toNat / 256 := contains_v4_iff_div.mp hq
  rw [toNat_carve hb hi] at hpi
  rw [toNat_carve hb hj] at hqj
  omega

/-- The carve gives one /24 of the cluster range to each index below its number of /24s, disjoint
from the others, and `nodeIndex` reads exactly these back. -/
theorem nodeCIDR_nodeIndex_inverse (a : BitVec 32) (b : Nat) (hb : b ≤ 24) :
    (∀ i : Int, (∃ p, nodeCIDR (Prefix.v4 a b) i = .ok p) ↔ 0 ≤ i ∧ i < 2 ^ (24 - b)) ∧
    (∀ (i : Int) (p : Prefix), nodeCIDR (Prefix.v4 a b) i = .ok p →
      (∃ v : BitVec 32, p = Prefix.v4 v 24 ∧
        (v.toNat : Int) = (as4 (Prefix.v4 a b).masked.ip).toNat + i * 256) ∧
      p.masked = p ∧
      (∀ ip, p.contains ip = true → (Prefix.v4 a b).contains ip = true) ∧
      (nodeIndex (Prefix.v4 a b) p).map Int.ofNat = some i) ∧
    (∀ (i j : Int) (p q : Prefix), i ≠ j → nodeCIDR (Prefix.v4 a b) i = .ok p →
      nodeCIDR (Prefix.v4 a b) j = .ok q →
      ∀ ip, ¬ (p.contains ip = true ∧ q.contains ip = true)) ∧
    (∀ p : Prefix, (nodeIndex (Prefix.v4 a b) p).isSome ↔ (∃ v, p = Prefix.v4 v 24) ∧
        ∀ ip, p.contains ip = true → (Prefix.v4 a b).contains ip = true) ∧
    (∀ (p : Prefix) (n : Nat), nodeIndex (Prefix.v4 a b) p = some n →
      nodeCIDR (Prefix.v4 a b) n = .ok p.masked) := by
  refine ⟨?_, ?_, ?_, ?_, ?_⟩
  · intro i
    constructor
    · rintro ⟨p, hp⟩
      obtain ⟨n, rfl, hlt, -⟩ := (nodeCIDR_v4 hb).mp hp
      exact ⟨Int.natCast_nonneg n, by exact_mod_cast hlt⟩
    · rintro ⟨h0, hlt⟩
      obtain ⟨n, rfl⟩ := Int.eq_ofNat_of_zero_le h0
      exact ⟨_, (nodeCIDR_v4 hb).mpr ⟨n, rfl, by exact_mod_cast hlt, rfl⟩⟩
  · intro i p hp
    obtain ⟨n, rfl, hlt, rfl⟩ := (nodeCIDR_v4 hb).mp hp
    refine ⟨⟨_, rfl, ?_⟩, ?_, (inside_iff hb).mpr (carve_inside hb hlt), ?_⟩
    · rw [toNat_carve hb hlt, Prefix.masked_v4 (by omega)]
      push_cast
      rfl
    · rw [Prefix.masked_v4 (by omega), masked_carve hb hlt]
    · rw [nodeIndex_carve hb hlt]
      rfl
  · intro i j p q hne hp hq
    obtain ⟨n, rfl, hn, rfl⟩ := (nodeCIDR_v4 hb).mp hp
    obtain ⟨m, rfl, hm, rfl⟩ := (nodeCIDR_v4 hb).mp hq
    exact carve_disjoint hb hn hm (by omega)
  · intro p
    constructor
    · intro h
      obtain ⟨n, hn⟩ := Option.isSome_iff_exists.mp h
      obtain ⟨v, rfl⟩ := eq_v4_of_nodeIndex hn
      refine ⟨⟨v, rfl⟩, (inside_iff hb).mpr ?_⟩
      by_contra hout
      rw [nodeIndex_v4 hb, if_neg hout] at hn
      cases hn
    · rintro ⟨⟨v, rfl⟩, hin⟩
      rw [nodeIndex_v4 hb, if_pos ((inside_iff hb).mp hin)]
      rfl
  · intro p n hn
    obtain ⟨v, rfl⟩ := eq_v4_of_nodeIndex hn
    rw [nodeIndex_v4 hb] at hn
    split_ifs at hn with hin
    cases hn
    obtain ⟨hlt, hcarve⟩ := carve_nodeIndex hb hin
    refine (nodeCIDR_v4 hb).mpr ⟨_, rfl, hlt, ?_⟩
    rw [Prefix.masked_v4 (by omega), hcarve]

theorem nodeCIDR_nodeIndex_inverse_ranges :
    (∃ p, nodeCIDR (Prefix.v4 0x64400000#32 10) 16383 = .ok p) ∧
      ¬ (∃ p, nodeCIDR (Prefix.v4 0x64400709#32 24) 1 = .ok p) :=
  ⟨((nodeCIDR_nodeIndex_inverse _ 10 (by decide)).1 16383).mpr (by decide),
    fun h => absurd (((nodeCIDR_nodeIndex_inverse _ 24 (by decide)).1 1).mp h) (by decide)⟩

end

end DarwinNet.Podnet
