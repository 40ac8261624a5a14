import DarwinNet.Lib.CText
import DarwinNet.Lib.Distinct
import DarwinNet.Lib.GoMap
import DarwinNet.Lib.Lines
import DarwinNet.Netip.Parse

/-!
The environment of the bind discipline, from its encoder (`env.go`) to the shim that reads it
(`getaddrinfo_shim.c`): the pod address, the cluster scope and the interconnect scope.

A text is the list of its characters, one for each byte. The texts the shim keeps for its trace
are left out.

A list of networks that the encoder writes is the table the shim reads
(`k3smParseCidrs_join`), and an entry of the table matches the addresses of its network
(`matches_entry_iff`).
-/

namespace DarwinNet.Podnet

open Lib Netip

/-! ## Encoding -/

def envPodIP : String := "K3SM_POD_IP"

def envClusterCIDRs : String := "K3SM_CLUSTER_CIDRS"

def envInterconnectIP : String := "K3SM_INTERCONNECT_IP"

def envInterconnectCIDRs : String := "K3SM_INTERCONNECT_CIDRS"

def maxClusterCIDRs : Nat := 8

def interconnectRange : Prefix := Prefix.v4 0xa9fe0000 16

def isUnspecified : Addr → Bool
  | .v4 a => a == 0#32
  | .v6 a zone => a == 0#128 && zone == ""
  | .zero => false

/-- The addresses both encoders accept, unmapped. -/
def encodable (ip : Addr) : Bool := ip.isValid && ip.is4 && !isUnspecified ip

/-- `netip.PrefixFrom(p.Addr().Unmap(), p.Bits())`. -/
def unmapPrefix (p : Prefix) : Prefix := Prefix.prefixFrom p.ip.unmap p.bits

def join (sep : Char) (ss : List String) : String :=
  String.ofList ([sep].intercalate (ss.map String.toList))

def bindDisciplineEnv (podIP : Addr) : Option (GoMap String String) :=
  let ip := podIP.unmap
  if !encodable ip then none
  else some (AList.insert envPodIP ip.string ∅)

/-- The body of the loop of `BindDisciplineEnvWithCIDRs`; what was seen is what is in `out`. -/
def clusterStep (out : List String) (p : Prefix) : List String :=
  if !p.isValid then out
  else
    let p := unmapPrefix p
    if !p.isValid || !p.ip.is4 || decide (p.bits < 1) then out
    else appendNew out p.masked.string

def bindDisciplineEnvWithCIDRs (podIP : Addr) (cidrs : List Prefix) :
    Option (GoMap String String) :=
  match bindDisciplineEnv podIP with
  | none => none
  | some env =>
    let out := cidrs.foldl clusterStep []
    if out.length = 0 ∨ maxClusterCIDRs < out.length then some env
    else some (env.insert envClusterCIDRs (join ',' out))

def lastAddr (p : Prefix) : Addr :=
  match p.masked.ip with
  | .v4 a => .v4 (a ||| (BitVec.allOnes 32 >>> p.bits))
  | a => a

/-- The state of the loop of `InterconnectEnv`; `out` is `seen` in text. -/
structure IcScan where
  seen : List Prefix
  inScope : Bool
  edge : Bool

def IcScan.step (ip : Addr) (st : IcScan) (p : Prefix) : IcScan :=
  if !p.isValid then st
  else
    let p := unmapPrefix p
    if !p.isValid || !p.ip.is4 then st
    else
      let p := p.masked
      if decide (p.bits < interconnectRange.bits) || !interconnectRange.contains p.ip then st
      else if p ∈ st.seen then st
      else
        { seen := st.seen ++ [p]
          inScope := st.inScope || p.contains ip
          edge := st.edge ||
            (p.contains ip && decide (p.bits ≤ 30) && (ip == p.ip || ip == lastAddr p)) }

def interconnectEnv (ip : Addr) (cidrs : List Prefix) : Option (GoMap String String) :=
  let ip := ip.unmap
  if !encodable ip then none
  else
    let st := cidrs.foldl (IcScan.step ip) ⟨[], false, false⟩
    if decide (st.seen.length = 0) || decide (maxClusterCIDRs < st.seen.length) ||
        !st.inScope || st.edge then none
    else some ((AList.insert envInterconnectIP ip.string ∅).insert envInterconnectCIDRs
      (join ',' (st.seen.map Prefix.string)))

/-! ## The shim -/

/-- `k3sm_cidr_t` without its text. -/
structure Cidr where
  net : BitVec 32
  mask : BitVec 32
  deriving DecidableEq, Repr

def Cidr.matches (c : Cidr) (a : BitVec 32) : Bool := a &&& c.mask == c.net

def cidrMask (bits : Nat) : BitVec 32 :=
  if bits = 32 then 0xffffffff#32 else ~~~((1#32 <<< (32 - bits)) - 1#32)

/-- One token of `k3sm_parse_cidrs`. A length too long for `strtoul` is above 32 all the same. -/
def k3smParseToken (tok : List Char) : Option Cidr :=
  if tok.length = 0 ∨ 24 ≤ tok.length then none
  else match cut '/' tok with
    | none => none
    | some (address, bitsText) =>
      if address = [] then none
      else match parseIPv4 address with
        | some (.v4 addr) =>
          if bitsText = [] ∨ ¬ bitsText.all isDigit then none
          else
            let bits := digitsValue bitsText
            if bits < 1 ∨ 32 < bits then none
            else some ⟨addr &&& cidrMask bits, cidrMask bits⟩
        | _ => none

def k3smParseTokens (count : Nat) : List (List Char) → Option (List Cidr)
  | [] => some []
  | tok :: toks =>
    match k3smParseToken tok with
    | none => none
    | some c =>
      if maxClusterCIDRs ≤ count then none else (k3smParseTokens (count + 1) toks).map (c :: ·)

/-- `k3sm_parse_cidrs`: `none` for -1. The buffer has `8 * (16 + 4) + 8` bytes. -/
def k3smParseCidrs (spec : List Char) : Option (List Cidr) :=
  if spec.length = 0 ∨ 168 ≤ spec.length then none else k3smParseTokens 0 (spec.splitOn ',')

def k3smAddrIn (tab : List Cidr) (a : BitVec 32) : Bool := tab.any (·.matches a)

/-- `getenv` for a variable that must not be empty. -/
def getenv (env : GoMap String String) (name : String) : Option (List Char) :=
  match env.lookup name with
  | none => none
  | some v => if v.toList = [] then none else some v.toList

def interconnectMask : BitVec 32 := ~~~((1#32 <<< (32 - 16)) - 1#32)

/-- An entry of the interconnect table that reaches off the link. -/
def Cidr.offLink (c : Cidr) : Bool :=
  c.mask &&& interconnectMask != interconnectMask || c.net &&& interconnectMask != 0xa9fe0000#32

/-- An entry whose network or broadcast address is `a`. -/
def Cidr.edge (c : Cidr) (a : BitVec 32) : Bool :=
  c.matches a && c.mask != 0xffffffff#32 && c.mask != 0xfffffffe#32 &&
    (a == c.net || a == (c.net ||| ~~~c.mask))

/-- `k3sm_interconnect_cfg_init`: the address and the table, `none` where the scope is off. -/
def k3smInterconnectCfgInit (env : GoMap String String) : Option (BitVec 32 × List Cidr) :=
  match getenv env envInterconnectIP, getenv env envInterconnectCIDRs with
  | some ip, some cidrs =>
    match parseIPv4 ip with
    | some (.v4 icip) =>
      match k3smParseCidrs cidrs with
      | none => none
      | some tab =>
        if tab.any Cidr.offLink then none
        else if !k3smAddrIn tab icip then none
        else if tab.any (·.edge icip) then none
        else some (icip, tab)
    | _ => none
  | _, _ => none

/-- What `k3sm_bind_cfg_init` leaves: `none` is a shim that passes everything through. -/
structure BindCfg where
  podip : Option (BitVec 32)
  cidrs : List Cidr
  interconnect : Option (BitVec 32 × List Cidr)

def k3smBindCfgInit (env : GoMap String String) : BindCfg :=
  match getenv env envPodIP with
  | none => ⟨none, [], none⟩
  | some ip =>
    match parseIPv4 ip with
    | some (.v4 podip) =>
      { podip := some podip
        cidrs := ((getenv env envClusterCIDRs).bind k3smParseCidrs).getD []
        interconnect := k3smInterconnectCfgInit env }
    | _ => ⟨none, [], none⟩

/-! ## Networks -/

/-- An IPv4 network: a base with its host bits cleared. -/
@[ext]
structure Net where
  base : BitVec 32
  bits : Nat
  le : bits ≤ 32
  masked : maskBits bits base = base
  deriving DecidableEq

namespace Net

def ofAddr (a : BitVec 32) (bits : Nat) (h : bits ≤ 32) : Net :=
  ⟨maskBits bits a, bits, h, maskBits_maskBits a⟩

def toPrefix (net : Net) : Prefix := Prefix.v4 net.base net.bits

def text (net : Net) : String := net.toPrefix.string

/-- The network contains the address. -/
def Contains (net : Net) (a : BitVec 32) : Prop := net.toPrefix.contains (.v4 a) = true

instance instDecidableContains (net : Net) (a : BitVec 32) : Decidable (net.Contains a) :=
  inferInstanceAs (Decidable (_ = true))

def last (net : Net) : BitVec 32 := net.base ||| (BitVec.allOnes 32 >>> net.bits)

def entry (net : Net) : Cidr := ⟨net.base, cidrMask net.bits⟩

variable {net : Net} {nets : List Net}

lemma toPrefix_injective : Function.Injective toPrefix := by
  intro x y h
  simp only [toPrefix, Prefix.v4, Prefix.mk.injEq, Addr.v4.injEq] at h
  exact Net.ext h.1 (by omega)

lemma text_injective : Function.Injective text :=
  fun _ _ h => toPrefix_injective (Prefix.string_inj rfl rfl h)

lemma toList_text (net : Net) :
    net.text.toList = (string4 net.base).toList ++ '/' :: Nat.toDigits 10 net.bits :=
  toList_string_v4 net.base net.bits

/-! ### Masks -/

lemma cidrMask_eq {n : Nat} (hpos : 1 ≤ n) (hle : n ≤ 32) :
    cidrMask n = BitVec.allOnes 32 <<< (32 - n) := by
  have hall : ∀ n < 33, 1 ≤ n → cidrMask n = BitVec.allOnes 32 <<< (32 - n) := by decide
  exact hall n (by omega) hpos

lemma and_cidrMask {n : Nat} (hpos : 1 ≤ n) (hle : n ≤ 32) (a : BitVec 32) :
    a &&& cidrMask n = maskBits n a := by
  rw [cidrMask_eq hpos hle, maskBits]
  ext i hi
  simp only [BitVec.getElem_and, BitVec.getElem_shiftLeft, BitVec.getElem_allOnes]
  by_cases h : i < 32 - n
  · simp [h]
  · have hw : 32 - n + (i - (32 - n)) = i := by omega
    simp [h, hw, hi]

lemma contains_iff (a : BitVec 32) : net.Contains a ↔ maskBits net.bits a = net.base := by
  rw [Contains, toPrefix, Prefix.contains_v4_iff]
  constructor
  · intro h
    rw [maskBits, ← h]
    exact net.masked
  · intro h
    refine BitVec.eq_of_toNat_eq ?_
    rw [← h, BitVec.toNat_ushiftRight, BitVec.toNat_ushiftRight, toNat_maskBits,
      Nat.shiftRight_eq_div_pow, Nat.shiftRight_eq_div_pow,
      Nat.mul_div_cancel _ (Nat.two_pow_pos _)]

/-- The entry of a network matches its addresses. -/
lemma matches_entry_iff (hpos : 1 ≤ net.bits) (a : BitVec 32) :
    net.entry.matches a = true ↔ net.Contains a := by
  rw [contains_iff, Cidr.matches, beq_iff_eq, entry, and_cidrMask hpos net.le]

/-! ### Texts -/

lemma toDigits_bits : ∀ n < 33, digitsValue (Nat.toDigits 10 n) = n ∧
    Nat.toDigits 10 n ≠ [] ∧ (Nat.toDigits 10 n).all isDigit ∧ (Nat.toDigits 10 n).length ≤ 2 := by
  decide

lemma length_text_le (net : Net) : net.text.toList.length ≤ 18 := by
  have haddr := length_string4_le net.base
  obtain ⟨-, -, -, hbits⟩ := toDigits_bits net.bits (Nat.lt_succ_of_le net.le)
  rw [toList_text, List.length_append, List.length_cons]
  omega

lemma comma_notMem_text (net : Net) : ',' ∉ net.text.toList := by
  intro h
  rcases mem_string_v4 h with h | h | ⟨d, hd, h⟩
  · cases h
  · cases h
  · have hdigit : ∀ d < 10, ',' ≠ d.digitChar := by decide
    exact hdigit d hd h

lemma k3smParseToken_text (hpos : 1 ≤ net.bits) :
    k3smParseToken net.text.toList = some net.entry := by
  have hlen := length_text_le net
  have hslash : '/' ∉ (string4 net.base).toList := notMem_string4 (by simp)
  obtain ⟨hvalue, hne, hdigits, -⟩ := toDigits_bits net.bits (Nat.lt_succ_of_le net.le)
  have haddr : (string4 net.base).toList ≠ [] := by
    intro h
    have hdot := dot_mem_string4 net.base
    rw [h] at hdot
    cases hdot
  have hshape : ¬ (net.text.toList.length = 0 ∨ 24 ≤ net.text.toList.length) := by
    rw [toList_text] at hlen ⊢
    simp only [List.length_append, List.length_cons] at hlen ⊢
    omega
  have hrange : ¬ (net.bits < 1 ∨ 32 < net.bits) := by
    have := net.le
    omega
  rw [k3smParseToken, if_neg hshape, toList_text, cut_append hslash]
  simp only [if_neg haddr, parseIPv4_string4, hne, hdigits, not_true_eq_false, or_self, if_false,
    hvalue, if_neg hrange, and_cidrMask hpos net.le, net.masked, entry]

lemma k3smParseTokens_texts (hpos : ∀ net ∈ nets, 1 ≤ net.bits) {count : Nat}
    (h : count + nets.length ≤ maxClusterCIDRs) :
    k3smParseTokens count (nets.map fun net => net.text.toList) = some (nets.map entry) := by
  induction nets generalizing count with
  | nil => rfl
  | cons net nets ih =>
    rw [List.length_cons] at h
    have hroom : ¬ maxClusterCIDRs ≤ count := by omega
    rw [List.map_cons, k3smParseTokens, k3smParseToken_text (hpos net List.mem_cons_self)]
    simp only [if_neg hroom, List.map_cons]
    rw [ih (fun net' h' => hpos net' (List.mem_cons_of_mem net h')) (by omega), Option.map_some]

lemma k3smParseCidrs_join (hne : nets ≠ []) (hpos : ∀ net ∈ nets, 1 ≤ net.bits)
    (h : nets.length ≤ maxClusterCIDRs) : (join ',' (nets.map text)).toList ≠ [] ∧
      k3smParseCidrs (join ',' (nets.map text)).toList = some (nets.map entry) := by
  have htoList : (join ',' (nets.map text)).toList =
      [','].intercalate (nets.map fun net => net.text.toList) := by
    rw [join, String.toList_ofList, List.map_map]
    rfl
  have hsplit : ([','].intercalate (nets.map fun net => net.text.toList)).splitOn ',' =
      nets.map fun net => net.text.toList := by
    refine List.splitOn_intercalate ',' ?_ (by simpa using hne)
    intro w hw
    obtain ⟨net, -, rfl⟩ := List.mem_map.mp hw
    exact comma_notMem_text net
  have hlong : ([','].intercalate (nets.map fun net => net.text.toList)).length ≤
      nets.length * 19 := by
    have hwords : ∀ w ∈ nets.map fun net => net.text.toList, w.length ≤ 18 := by
      intro w hw
      obtain ⟨net, -, rfl⟩ := List.mem_map.mp hw
      exact length_text_le net
    have hjoin := length_intercalate_le ',' hwords
    rwa [List.length_map] at hjoin
  have hnonempty : [','].intercalate (nets.map fun net => net.text.toList) ≠ [] := by
    intro hnil
    rw [hnil] at hsplit
    obtain ⟨net, nets, rfl⟩ := List.exists_cons_of_ne_nil hne
    have hfirst : net.text.toList = [] := (List.cons.inj hsplit).1.symm
    rw [toList_text] at hfirst
    simp at hfirst
  have hfits : ¬ (([','].intercalate (nets.map fun net => net.text.toList)).length = 0 ∨
      168 ≤ ([','].intercalate (nets.map fun net => net.text.toList)).length) := by
    rw [List.length_eq_zero_iff, not_or]
    refine ⟨hnonempty, ?_⟩
    rw [maxClusterCIDRs] at h
    omega
  rw [htoList]
  refine ⟨hnonempty, ?_⟩
  rw [k3smParseCidrs, if_neg hfits, hsplit]
  exact k3smParseTokens_texts hpos (by omega)

lemma k3smAddrIn_entries (hpos : ∀ net ∈ nets, 1 ≤ net.bits) (a : BitVec 32) :
    k3smAddrIn (nets.map entry) a = true ↔ ∃ net ∈ nets, net.Contains a := by
  rw [k3smAddrIn, List.any_map, List.any_eq_true]
  refine exists_congr fun net => and_congr_right fun hnet => ?_
  exact matches_entry_iff (hpos net hnet) a

end Net

end DarwinNet.Podnet
