import DarwinNet.Lib.Scan
import DarwinNet.Netip.Prefix

/-!
The pod address pool of one node (`allocator.go`): a cursor that goes round the
usable host addresses of a /24, with the network address, the mesh egress address
`.1` and the broadcast address left out.

`host base i` is the address `.i` of the /24 at `base`. A `Shaped` allocator hands out
a usable address that is free, and fails exactly when all 253 are taken, wherever the
cursor is (`allocate_spec`).
-/

namespace DarwinNet.Podnet

open Lib Netip

inductive Sentinel
  | poolExhausted
  | notAllocated
  | outOfRange
  | emptyPodID
  | backendMismatch
  | ipInUse
  deriving DecidableEq, Repr

def Sentinel.text : Sentinel → String
  | .poolExhausted => "podnet: pod IP pool exhausted"
  | .notAllocated => "podnet: address not allocated"
  | .outOfRange => "podnet: address not in node CIDR"
  | .emptyPodID => "podnet: empty pod id"
  | .backendMismatch => "podnet: pod already set up under a different backend"
  | .ipInUse => "podnet: ip already in use"

structure PodNetError where
  text : String
  is : Option Sentinel
  deriving DecidableEq, Repr

def Sentinel.error (s : Sentinel) : PodNetError := ⟨s.text, some s⟩

def Sentinel.errorf (s : Sentinel) (detail : String) : PodNetError :=
  ⟨s.text ++ ": " ++ detail, some s⟩

def PodNetError.wrap (err : PodNetError) (context : String) : PodNetError :=
  { err with text := context ++ ": " ++ err.text }

/-! ## The pool -/

def nodeCIDRBits : Nat := 24

structure Allocator where
  cidr : Prefix
  meshEgress : Addr
  first : Addr
  last : Addr
  next : Addr
  allocated : Finset Addr

def withLastOctet (a : BitVec 32) (o : Nat) : BitVec 32 :=
  BitVec.ofNat 32 (a.toNat / 256 * 256 + o)

/-- `As4`, for the IPv4 addresses the pool works on. -/
def as4 : Addr → BitVec 32
  | .v4 a => a
  | .v6 a _ => a.setWidth 32
  | .zero => 0

def lastHostInSlash24 (network : Addr) : Addr := .v4 (withLastOctet (as4 network) 254)

def newAllocator (nodeCIDR : Prefix) : Except PodNetError Allocator :=
  if !nodeCIDR.isValid then .error (Sentinel.outOfRange.errorf "invalid node CIDR")
  else if nodeCIDR.ip.is6 then .error (Sentinel.outOfRange.errorf "node CIDR must be IPv4")
  else if nodeCIDR.bits ≠ nodeCIDRBits then
    .error (Sentinel.outOfRange.errorf ("node CIDR must be a /" ++ toString nodeCIDRBits ++
      ", got /" ++ toString nodeCIDR.bits))
  else
    let cidr := nodeCIDR.masked
    let network := cidr.ip
    let meshEgress := network.next
    let first := meshEgress.next
    .ok ⟨cidr, meshEgress, first, lastHostInSlash24 network, first, ∅⟩

namespace Allocator

def usableCount (a : Allocator) : Nat := (as4 a.last - as4 a.first).toNat + 1

def wrap (a : Allocator) (c : Addr) : Addr :=
  if !c.isValid || c.compare a.last == .gt then a.first else c

/-- The loop of `Allocate`: the free address it finds. -/
def allocateLoop (a : Allocator) : Nat → Addr → Option Addr
  | 0, _ => none
  | n + 1, candidate =>
    let candidate := a.wrap candidate
    if candidate ∉ a.allocated then some candidate else a.allocateLoop n candidate.next

def allocate (a : Allocator) : Allocator × Except PodNetError Addr :=
  match a.allocateLoop a.usableCount a.next with
  | none => (a, .error Sentinel.poolExhausted.error)
  | some ip => ({ a with allocated := insert ip a.allocated, next := ip.next }, .ok ip)

def inHostRange (a : Allocator) (ip : Addr) : Bool :=
  if !ip.is4 || !a.cidr.contains ip then false
  else ip.compare a.first != .lt && ip.compare a.last != .gt

/-- Reserve a chosen address; `true` if it is held already. -/
def allocateSpecific (a : Allocator) (ip : Addr) : Allocator × Except PodNetError Bool :=
  if !a.inHostRange ip then
    (a, .error (Sentinel.outOfRange.errorf (ip.string ++ " not a host in " ++ a.cidr.string)))
  else if ip ∈ a.allocated then (a, .ok true)
  else ({ a with allocated := insert ip a.allocated }, .ok false)

def release (a : Allocator) (ip : Addr) : Allocator × Except PodNetError Unit :=
  if ip ∉ a.allocated then (a, .error (Sentinel.notAllocated.errorf ip.string))
  else ({ a with allocated := a.allocated.erase ip }, .ok ())

/-- The addresses `for ip := c; ip.Compare(last) <= 0; ip = ip.Next()` visits. -/
def walk (a : Allocator) : Nat → Addr → List Addr
  | 0, _ => []
  | n + 1, ip => if ip.compare a.last == .gt then [] else ip :: a.walk n ip.next

def hosts (a : Allocator) : List Addr := a.walk (a.usableCount + 1) a.first

end Allocator

/-! ## The addresses of a /24 -/

def host (base : BitVec 32) (i : Nat) : Addr := .v4 (base + BitVec.ofNat 32 i)

def IsBase (base : BitVec 32) : Prop := base.toNat % 256 = 0

variable {base : BitVec 32} {i j : Nat}

lemma isBase_maskBits (a : BitVec 32) : IsBase (maskBits 24 a) := by
  have h : (maskBits 24 a).toNat = a.toNat / 256 * 256 := by
    have hlt := a.isLt
    simp only [maskBits, BitVec.toNat_shiftLeft, BitVec.toNat_ushiftRight, Nat.shiftLeft_eq,
      Nat.shiftRight_eq_div_pow]
    omega
  rw [IsBase, h]
  omega

lemma maskBits_of_isBase (hb : IsBase base) : maskBits 24 base = base := by
  apply BitVec.eq_of_toNat_eq
  have hlt := base.isLt
  unfold IsBase at hb
  simp only [maskBits, BitVec.toNat_shiftLeft, BitVec.toNat_ushiftRight, Nat.shiftLeft_eq,
    Nat.shiftRight_eq_div_pow]
  omega

lemma toNat_host (hb : IsBase base) (hi : i < 256) :
    (base + BitVec.ofNat 32 i).toNat = base.toNat + i := by
  have hlt := base.isLt
  unfold IsBase at hb
  simp only [BitVec.toNat_add, BitVec.toNat_ofNat]
  omega

lemma host_next (hb : IsBase base) (hi : i < 255) : (host base i).next = host base (i + 1) := by
  have hsum : base + BitVec.ofNat 32 i + 1 = base + BitVec.ofNat 32 (i + 1) := by
    apply BitVec.eq_of_toNat_eq
    have hone : (1 : BitVec 32).toNat = 1 := rfl
    rw [BitVec.toNat_add, toNat_host hb (by omega), toNat_host hb (by omega), hone]
    have hlt := base.isLt
    unfold IsBase at hb
    omega
  have hne : base + BitVec.ofNat 32 (i + 1) ≠ 0 := by
    intro h
    have hnat : (base + BitVec.ofNat 32 (i + 1)).toNat = 0 := congrArg BitVec.toNat h
    rw [toNat_host hb (by omega)] at hnat
    omega
  simp only [host, Addr.next, hsum, if_neg hne]

lemma host_compare (hb : IsBase base) (hi : i < 256) (hj : j < 256) :
    (host base i).compare (host base j) = compare i j := by
  simp only [host, Addr.compare, toNat_host hb hi, toNat_host hb hj]
  simp only [Nat.compare_eq_ite_lt, Nat.add_lt_add_iff_left]

lemma withLastOctet_base (hb : IsBase base) (i : Nat) :
    withLastOctet base i = base + BitVec.ofNat 32 i := by
  unfold IsBase at hb
  have hdiv : base.toNat / 256 * 256 = base.toNat := by omega
  rw [withLastOctet, hdiv, BitVec.ofNat_add, BitVec.ofNat_toNat, BitVec.setWidth_eq]

lemma ushiftRight_host (hb : IsBase base) (hi : i < 256) :
    (base + BitVec.ofNat 32 i) >>> 8 = base >>> 8 := by
  apply BitVec.eq_of_toNat_eq
  simp only [BitVec.toNat_ushiftRight, Nat.shiftRight_eq_div_pow, toNat_host hb hi]
  unfold IsBase at hb
  omega

lemma contains_iff_host (hb : IsBase base) {a : BitVec 32} :
    (Prefix.v4 base 24).contains (.v4 a) = true ↔ ∃ i < 256, Addr.v4 a = host base i := by
  rw [Prefix.contains_v4_iff]
  constructor
  · intro h
    have hnat := congrArg BitVec.toNat h
    simp only [BitVec.toNat_ushiftRight, Nat.shiftRight_eq_div_pow] at hnat
    refine ⟨a.toNat % 256, by omega, ?_⟩
    rw [host, Addr.v4.injEq]
    apply BitVec.eq_of_toNat_eq
    rw [toNat_host hb (by omega)]
    unfold IsBase at hb
    omega
  · rintro ⟨i, hi, ha⟩
    cases ha
    exact (ushiftRight_host hb hi).symm

/-! ## The pool of a /24 -/

/-- One of `.2` to `.254`. -/
def Usable (base : BitVec 32) (ip : Addr) : Prop := ∃ i, 2 ≤ i ∧ i ≤ 254 ∧ ip = host base i

/-- The pool of the /24 at `base`, with its cursor at or right after a usable address. -/
structure Allocator.Shaped (a : Allocator) (base : BitVec 32) : Prop where
  isBase : IsBase base
  cidr : a.cidr = Prefix.v4 base 24
  first : a.first = host base 2
  last : a.last = host base 254
  next : ∃ i, 2 ≤ i ∧ i ≤ 255 ∧ a.next = host base i

lemma newAllocator_v4 (a : BitVec 32) :
    ∃ alloc, newAllocator (Prefix.v4 a 24) = .ok alloc ∧ alloc.Shaped (maskBits 24 a) ∧
      alloc.allocated = ∅ := by
  have hb := isBase_maskBits a
  have hzero : host (maskBits 24 a) 0 = .v4 (maskBits 24 a) := by simp [host]
  have hfirst : (Addr.v4 (maskBits 24 a)).next.next = host (maskBits 24 a) 2 := by
    rw [← hzero, host_next hb (by omega), host_next hb (by omega)]
  have hlast : lastHostInSlash24 (.v4 (maskBits 24 a)) = host (maskBits 24 a) 254 := by
    rw [lastHostInSlash24, as4, withLastOctet_base hb]
    rfl
  have hmasked : (Prefix.v4 a 24).masked = Prefix.v4 (maskBits 24 a) 24 :=
    Prefix.masked_v4 (by omega)
  refine ⟨⟨Prefix.v4 (maskBits 24 a) 24, (Addr.v4 (maskBits 24 a)).next,
    host (maskBits 24 a) 2, host (maskBits 24 a) 254, host (maskBits 24 a) 2, ∅⟩, ?_,
    ⟨hb, rfl, rfl, rfl, 2, by omega, by omega, rfl⟩, rfl⟩
  have hip : (Prefix.v4 (maskBits 24 a) 24).ip = .v4 (maskBits 24 a) := rfl
  simp only [newAllocator, hmasked, hip, hfirst, hlast]
  rfl

namespace Allocator

variable {a : Allocator}

lemma Shaped.usableCount (h : a.Shaped base) : a.usableCount = 253 := by
  have hsub : (base + BitVec.ofNat 32 254 - (base + BitVec.ofNat 32 2)).toNat = 252 := by
    rw [BitVec.toNat_sub, toNat_host h.isBase (by omega), toNat_host h.isBase (by omega)]
    have hlt := base.isLt
    have hb := h.isBase
    unfold IsBase at hb
    omega
  simp only [Allocator.usableCount, h.first, h.last, host, as4, hsub]

lemma Shaped.wrap (h : a.Shaped base) {k : Nat} (hk : k ≤ 253) :
    a.wrap (host base (k + 2)) = host base (k % 253 + 2) := by
  have hvalid : (host base (k + 2)).isValid = true := rfl
  simp only [Allocator.wrap, hvalid, h.last, host_compare h.isBase (show k + 2 < 256 by omega)
    (show 254 < 256 by omega), h.first]
  by_cases hlast : k = 253
  · subst hlast
    rfl
  have hle : ¬ compare (k + 2) 254 = .gt := by
    rw [Nat.compare_eq_gt]
    omega
  rw [Nat.mod_eq_of_lt (show k < 253 by omega)]
  simp [hle]

lemma allocateLoop_eq_scan (n : Nat) (c : Addr) :
    a.allocateLoop n c = scan (fun c => a.wrap c.next) (fun c => c ∈ a.allocated) n (a.wrap c) := by
  induction n generalizing c with
  | zero => rfl
  | succ n ih =>
    rw [allocateLoop, scan, ih]
    by_cases hc : a.wrap c ∈ a.allocated <;> simp [hc]

lemma Shaped.iterate (h : a.Shaped base) (i : Nat) {k : Nat} (hk : k < 253) :
    (fun c => a.wrap c.next)^[i] (host base (k + 2)) =
      host base ((fun j => (j + 1) % 253)^[i] k + 2) := by
  induction i with
  | zero => rfl
  | succ i ih =>
    have hlt : (fun j => (j + 1) % 253)^[i] k < 253 := by
      rw [iterate_succ_mod k i hk]
      exact Nat.mod_lt _ (by omega)
    rw [Function.iterate_succ_apply', ih, Function.iterate_succ_apply',
      host_next h.isBase (by omega)]
    exact h.wrap hlt

/-- An allocation fails only if every usable address is taken, and returns one that was not. -/
lemma Shaped.allocate_spec (h : a.Shaped base) : (∀ ip, Usable base ip → ip ∈ a.allocated) ∧
        a.allocate = (a, .error Sentinel.poolExhausted.error) ∨
      ∃ ip, Usable base ip ∧ ip ∉ a.allocated ∧ a.allocate =
          ({ a with allocated := insert ip a.allocated, next := ip.next }, .ok ip) := by
  obtain ⟨c, hc2, hc, hnext⟩ := h.next
  have hstart : a.wrap a.next = host base ((c - 2) % 253 + 2) := by
    rw [hnext, ← h.wrap (show c - 2 ≤ 253 by omega), Nat.sub_add_cancel hc2]
  have hk : (c - 2) % 253 < 253 := Nat.mod_lt _ (by omega)
  have hloop := allocateLoop_eq_scan (a := a) 253 a.next
  rw [hstart] at hloop
  rw [allocate, h.usableCount]
  cases hscan : a.allocateLoop 253 a.next with
  | none =>
    refine .inl ⟨?_, rfl⟩
    rintro ip ⟨i, hi2, hi, rfl⟩
    obtain ⟨j, hj, hpos⟩ := exists_iterate_succ_mod hk (show i - 2 < 253 by omega)
    have htaken := scan_eq_none_iff.mp (hloop.symm.trans hscan) j hj
    rw [h.iterate j hk, hpos, Nat.sub_add_cancel hi2] at htaken
    simpa using htaken
  | some ip =>
    obtain ⟨hfree, j, -, rfl⟩ := scan_eq_some (hloop.symm.trans hscan)
    rw [h.iterate j hk] at hfree ⊢
    refine .inr ⟨_, ⟨_, by omega, ?_, rfl⟩, by simpa using hfree, rfl⟩
    have hlt := Nat.mod_lt ((c - 2) % 253 + j) (show 253 > 0 by omega)
    rw [iterate_succ_mod _ j hk]
    omega

lemma Shaped.inHostRange_iff (h : a.Shaped base) (ip : Addr) :
    a.inHostRange ip = true ↔ Usable base ip := by
  unfold inHostRange
  rw [h.cidr, h.first, h.last]
  constructor
  · intro hr
    split_ifs at hr with hguard
    simp only [Bool.or_eq_true, Bool.not_eq_eq_eq_not, Bool.not_true, not_or,
      Bool.not_eq_false] at hguard
    cases ip with
    | zero => exact absurd hguard.1 (by decide)
    | v6 b zone => exact absurd hguard.1 (by simp [Addr.is4])
    | v4 b =>
      obtain ⟨i, hi, hip⟩ := (contains_iff_host h.isBase).mp hguard.2
      rw [hip, host_compare h.isBase hi (by omega), host_compare h.isBase hi (by omega)] at hr
      simp only [Bool.and_eq_true, bne_iff_ne, ne_eq, Nat.compare_eq_lt, Nat.compare_eq_gt]
        at hr
      exact ⟨i, by omega, by omega, hip⟩
  · rintro ⟨i, hi2, hi, rfl⟩
    have hin : (Prefix.v4 base 24).contains (host base i) = true :=
      (contains_iff_host h.isBase).mpr ⟨i, by omega, rfl⟩
    have h4 : (host base i).is4 = true := rfl
    rw [hin, h4, host_compare h.isBase (by omega) (by omega),
      host_compare h.isBase (by omega) (by omega)]
    simp only [Bool.not_true, Bool.or_self, Bool.false_eq_true, if_false, Bool.and_eq_true,
      bne_iff_ne, ne_eq, Nat.compare_eq_lt, Nat.compare_eq_gt]
    omega

lemma Shaped.walk (h : a.Shaped base) (n : Nat) (hi : i ≤ 255) (hn : 255 - i ≤ n) :
    a.walk n (host base i) = (List.range' i (255 - i)).map (host base) := by
  induction n generalizing i with
  | zero =>
    have hlast : 255 - i = 0 := by omega
    rw [hlast]
    rfl
  | succ n ih =>
    rw [Allocator.walk, h.last, host_compare h.isBase (by omega) (by omega)]
    by_cases hlast : i = 255
    · subst hlast
      rfl
    have hle : ¬ compare i 254 = .gt := by
      rw [Nat.compare_eq_gt]
      omega
    have hcount : 255 - i = (255 - (i + 1)) + 1 := by omega
    rw [host_next h.isBase (by omega), ih (by omega) (by omega), hcount, List.range'_succ]
    simp [hle]

lemma Shaped.mem_hosts (h : a.Shaped base) (ip : Addr) : ip ∈ a.hosts ↔ Usable base ip := by
  rw [hosts, h.usableCount, h.first, h.walk 254 (by omega) (by omega)]
  simp only [List.mem_map, List.mem_range'_1, Usable]
  constructor
  · rintro ⟨i, hi, rfl⟩
    exact ⟨i, hi.1, by omega, rfl⟩
  · rintro ⟨i, hi2, hi, rfl⟩
    exact ⟨i, ⟨hi2, by omega⟩, rfl⟩

end Allocator

end DarwinNet.Podnet
