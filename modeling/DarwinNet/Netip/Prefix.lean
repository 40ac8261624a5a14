import DarwinNet.Netip.Addr

/-!
More of `net/netip`: the successor of an address, and prefixes with their
masks, overlaps and textual form. A `Prefix` of the program is always built by
`PrefixFrom`, `ParsePrefix` or `Masked`; `Prefix.v4` is the form the node ranges
have.

An IPv4 prefix contains the addresses with its leading bits (`contains_v4_iff`),
and two masked ones of one length overlap only when they are equal
(`overlaps_v4_iff`).
-/

namespace DarwinNet.Netip

namespace Addr

def is4 : Addr → Bool
  | v4 _ => true
  | _ => false

def is6 : Addr → Bool
  | v6 _ _ => true
  | _ => false

def withoutZone : Addr → Addr
  | v6 a _ => v6 a ""
  | a => a

/-- `Addr.Next`: the zero `Addr` after the last address of a family. -/
def next : Addr → Addr
  | zero => zero
  | v4 a => if a + 1 = 0 then zero else v4 (a + 1)
  | v6 a zone => if a + 1 = 0 then zero else v6 (a + 1) zone

end Addr

/-- The leading `b` bits of `a`, the others cleared. -/
def maskBits {w : Nat} (b : Nat) (a : BitVec w) : BitVec w := (a >>> (w - b)) <<< (w - b)

lemma toNat_maskBits {w b : Nat} (a : BitVec w) :
    (maskBits b a).toNat = a.toNat / 2 ^ (w - b) * 2 ^ (w - b) := by
  have hle : a.toNat / 2 ^ (w - b) * 2 ^ (w - b) ≤ a.toNat := Nat.div_mul_le_self _ _
  rw [maskBits, BitVec.toNat_shiftLeft, BitVec.toNat_ushiftRight, Nat.shiftLeft_eq,
    Nat.shiftRight_eq_div_pow, Nat.mod_eq_of_lt (lt_of_le_of_lt hle a.isLt)]

namespace Prefix

def prefixFrom (ip : Addr) (bits : Nat) : Prefix :=
  ⟨ip.withoutZone, if ip.isValid && decide (bits ≤ ip.bitLen) then bits + 1 else 0⟩

/-- `Addr.Prefix`: the prefix of `ip` of the given length, `none` for a length the
family does not have. -/
def ofAddr (ip : Addr) (bits : Nat) : Option Prefix :=
  match ip with
  | .zero => some zero
  | .v4 a => if bits ≤ 32 then some (prefixFrom (.v4 (maskBits bits a)) bits) else none
  | .v6 a zone => if bits ≤ 128 then some (prefixFrom (.v6 (maskBits bits a) zone) bits) else none

def masked (p : Prefix) : Prefix :=
  if p.isValid then (ofAddr p.ip p.bits).getD zero else zero

def overlaps (p o : Prefix) : Bool :=
  if !p.isValid || !o.isValid then false
  else if p = o then true
  else if p.ip.is4 ≠ o.ip.is4 then false
  else
    let minBits := min p.bits o.bits
    if minBits = 0 then true
    else match ofAddr p.ip minBits, ofAddr o.ip minBits with
      | some p', some o' => p'.ip = o'.ip
      | _, _ => false

def string (p : Prefix) : String :=
  if p.isValid then p.ip.string ++ "/" ++ toString p.bits else "invalid Prefix"

def parseBits (s : List Char) : Option Nat :=
  if s = [] ∨ ¬ s.all (fun c => '0' ≤ c ∧ c ≤ '9') then none
  else if 1 < s.length ∧ s.head? = some '0' then none
  else some (ofDigits 10 (s.map fun c => c.toNat - '0'.toNat))

end Prefix

/-- `netip.ParsePrefix`: an address without zone, the last slash, a length the
family has. -/
def parsePrefix (s : String) : Option Prefix :=
  let r := s.toList.reverse
  match r.dropWhile (· ≠ '/') with
  | [] => none
  | _ :: host =>
    match parseAddr (String.ofList host.reverse) with
    | none => none
    | some ip =>
      if ip.hasZone then none
      else match Prefix.parseBits (r.takeWhile (· ≠ '/')).reverse with
        | none => none
        | some bits => if bits ≤ ip.bitLen then some (Prefix.prefixFrom ip bits) else none

example : parsePrefix "100.64.1.0/24" = some ⟨.v4 0x64400100#32, 25⟩ := by decide
example : parsePrefix "100.64.1.0/024" = none := by decide
example : (Prefix.mk (.v4 0x64400107#32) 25).masked.string = "100.64.1.0/24" := by decide

/-! ## IPv4 prefixes -/

namespace Prefix

def v4 (base : BitVec 32) (b : Nat) : Prefix := ⟨.v4 base, b + 1⟩

variable {a x y : BitVec 32} {b : Nat}

lemma ofAddr_v4 (hb : b ≤ 32) : ofAddr (.v4 a) b = some (v4 (maskBits b a) b) := by
  simp [ofAddr, hb, v4, prefixFrom, Addr.withoutZone, Addr.isValid, Addr.bitLen]

lemma masked_v4 (hb : b ≤ 32) : masked (v4 a b) = v4 (maskBits b a) b := by
  have h := ofAddr_v4 (a := a) hb
  simpa [masked, v4, isValid, bits] using congrArg (·.getD zero) h

lemma contains_v4_iff : (v4 x b).contains (.v4 y) = true ↔ x >>> (32 - b) = y >>> (32 - b) := by
  simp only [contains, v4, isValid, bits, Addr.hasZone, Nat.add_sub_cancel]
  rw [BitVec.ushiftRight_xor_distrib]
  simp

end Prefix

lemma maskBits_maskBits {w b : Nat} (a : BitVec w) : maskBits b (maskBits b a) = maskBits b a := by
  ext i hi
  simp only [maskBits, BitVec.getElem_shiftLeft]
  by_cases h : i < w - b
  · simp [h]
  · have hw : w - b + (i - (w - b)) = i := by omega
    simp [h, hw, hi]

namespace Prefix

variable {x y : BitVec 32} {b : Nat}

lemma masked_masked (p : Prefix) : p.masked.masked = p.masked := by
  by_cases hvalid : p.isValid = true
  · cases hip : p.ip with
    | zero => simp [masked, hip, ofAddr, zero, isValid]
    | v4 a =>
      by_cases hb : p.bits ≤ 32
      · have hmask : p.masked = v4 (maskBits p.bits a) p.bits := by
          rw [masked, if_pos hvalid, hip, ofAddr_v4 hb]
          rfl
        rw [hmask, masked_v4 hb, maskBits_maskBits]
      · simp [masked, hip, ofAddr, hb, zero, isValid]
    | v6 a zone =>
      by_cases hb : p.bits ≤ 128
      · have hmask : p.masked = ⟨.v6 (maskBits p.bits a) "", p.bits + 1⟩ := by
          simp [masked, hvalid, hip, ofAddr, hb, prefixFrom, Addr.withoutZone, Addr.isValid,
            Addr.bitLen]
        rw [hmask]
        simp [masked, isValid, bits, ofAddr, prefixFrom, Addr.withoutZone, Addr.isValid,
          Addr.bitLen, maskBits_maskBits] at hb ⊢
        simp [hb]
      · simp [masked, hip, ofAddr, hb, zero, isValid]
  · have hzero : p.masked = zero := by rw [masked, if_neg hvalid]
    rw [hzero]
    rfl

/-- Masked prefixes of one length overlap only if they are equal. -/
lemma overlaps_v4_iff (hb : b ≤ 32) (hx : maskBits b x = x) (hy : maskBits b y = y) :
    (v4 x b).overlaps (v4 y b) = true ↔ x = y := by
  constructor
  · intro h
    by_contra hne
    have hpne : v4 x b ≠ v4 y b := by simpa [v4] using hne
    by_cases hzero : b = 0
    · subst hzero
      simp [maskBits] at hx hy
      exact hne (hx ▸ hy ▸ rfl)
    · have hcut : ofAddr (v4 x b).ip b = some (v4 x b) ∧ ofAddr (v4 y b).ip b = some (v4 y b) :=
        ⟨(ofAddr_v4 hb).trans (by rw [hx]), (ofAddr_v4 hb).trans (by rw [hy])⟩
      have hbits : ∀ z : BitVec 32, (v4 z b).bits = b := fun _ => rfl
      simp only [overlaps, if_neg hpne, hbits, min_self, hcut] at h
      simp [v4, isValid, Addr.is4, hzero, hne] at h
  · rintro rfl
    simp [overlaps, v4, isValid]

end Prefix

end DarwinNet.Netip
