import DarwinNet.Podnet.BindEnv

/-!
What the two scopes are for, and what the shim makes of them. A listed prefix names an IPv4
network, in plain form or in 4-in-6 form with 96 more bits (`network?`). The encoders unmap the
address of a prefix and keep its length, which no IPv4 prefix has then, so a 4-in-6 prefix is
skipped as an invalid one: what reaches the shim are the networks of the plain prefixes
(`clusterAccepts_iff`, `interconnectEnv_eq_none_iff`, `interconnectCfgInit_of_env`).
-/

namespace DarwinNet.Podnet

open Lib Netip

/-! ## Scopes -/

variable {p : Prefix} {a : BitVec 32} {cidrs : List Prefix} {env : GoMap String String}
  {podIP : Addr}

lemma mappedBits_le (h : 96 ≤ p.bits ∧ p.bits ≤ 128) : p.bits - 96 ≤ 32 := by
  omega

/-- The IPv4 network a prefix names: a plain one, or a 4-in-6 prefix of length `96 + n`. -/
def network? (p : Prefix) : Option Net :=
  if p.isValid then
    match p.ip with
    | .zero => none
    | .v4 a => if h : p.bits ≤ 32 then some (Net.ofAddr a p.bits h) else none
    | .v6 a zone =>
      if h : (Addr.v6 a zone).is4In6 ∧ 96 ≤ p.bits ∧ p.bits ≤ 128 then
        some (Net.ofAddr (a.setWidth 32) (p.bits - 96) (mappedBits_le h.2))
      else none
  else none

def plainNetwork? (p : Prefix) : Option Net := if p.ip.is4 then network? p else none

def Net.onLink (net : Net) : Bool :=
  decide (16 ≤ net.bits) && interconnectRange.contains (.v4 net.base)

def clusterNets (nets : List Net) : Finset Net := (nets.filter fun net => 1 ≤ net.bits).toFinset

/-- The destinations of the cluster scope: none where there are too many networks. -/
def clusterScope (nets : List Net) : Set (BitVec 32) :=
  {d | (clusterNets nets).card ≤ maxClusterCIDRs ∧ ∃ net ∈ clusterNets nets, net.Contains d}

def linkNets (nets : List Net) : Finset Net := (nets.filter Net.onLink).toFinset

def linkScope (nets : List Net) : Set (BitVec 32) := {d | ∃ net ∈ linkNets nets, net.Contains d}

/-- The network or broadcast address, where there is one. -/
def Net.Edge (net : Net) (a : BitVec 32) : Prop :=
  net.Contains a ∧ net.bits ≤ 30 ∧ (a = net.base ∨ a = net.last)

/-- There is no interconnect scope for `ip`: it is empty, over the cap, does not contain the
address, or contains it as a network or broadcast address. -/
def LinkRefused (ip : Addr) (nets : List Net) : Prop :=
  linkNets nets = ∅ ∨ maxClusterCIDRs < (linkNets nets).card ∨
    (¬ ∃ a, ip.unmap = .v4 a ∧ a ∈ linkScope nets) ∨
    ∃ a, ip.unmap = .v4 a ∧ ∃ net ∈ linkNets nets, net.Edge a

/-! ## What the encoders keep -/

lemma unmapPrefix_v4 {n : Nat} (h : n ≤ 32) : unmapPrefix (Prefix.v4 a n) = Prefix.v4 a n := by
  have hbits : (Prefix.v4 a n).bits = n := rfl
  have hip : (Prefix.v4 a n).ip = .v4 a := rfl
  rw [unmapPrefix, hip, hbits]
  simp [Addr.unmap, Prefix.prefixFrom, Addr.withoutZone, Addr.isValid, Addr.bitLen, h, Prefix.v4]

lemma listed_cases (h : (network? p).isSome) :
    (∃ a n, ∃ hn : n ≤ 32, p = Prefix.v4 a n ∧ plainNetwork? p = some (Net.ofAddr a n hn)) ∨
      plainNetwork? p = none ∧ (unmapPrefix p).isValid = false := by
  rw [network?] at h
  split at h
  · rename_i hvalid
    split at h
    · cases h
    · rename_i a hip
      split at h
      · rename_i hbits
        refine .inl ⟨a, p.bits, hbits, ?_, ?_⟩
        · obtain ⟨ip, k⟩ := p
          simp only [Prefix.isValid, decide_eq_true_eq] at hvalid
          simp only at hip
          simp only [Prefix.v4, Prefix.bits, hip, Prefix.mk.injEq, true_and]
          omega
        · rw [plainNetwork?, network?, if_pos hvalid, hip]
          simp only [Addr.is4, if_true, dif_pos hbits]
      · cases h
    · rename_i a zone hip
      split at h
      · rename_i hmapped
        refine .inr ⟨by simp [plainNetwork?, hip, Addr.is4], ?_⟩
        have hlong : ¬ p.bits ≤ 32 := by omega
        simp [unmapPrefix, Prefix.prefixFrom, hip, Addr.unmap, hmapped.1, Prefix.isValid,
          Addr.bitLen, hlong]
      · cases h
  · cases h

lemma masked_v4_eq {n : Nat} (h : n ≤ 32) :
    (Prefix.v4 a n).masked = (Net.ofAddr a n h).toPrefix := Prefix.masked_v4 h

lemma foldl_listed {σ : Type} {step : σ → Prefix → σ} {add : σ → Net → σ} {keep : Net → Bool}
    (h : ∀ p ∈ cidrs, ∀ s, step s p = ((plainNetwork? p).toList.filter keep).foldl add s) (s : σ) :
    cidrs.foldl step s = ((cidrs.filterMap plainNetwork?).filter keep).foldl add s := by
  induction cidrs generalizing s with
  | nil => rfl
  | cons p cidrs ih =>
    have hcons : (p :: cidrs).filterMap plainNetwork? =
        (plainNetwork? p).toList ++ cidrs.filterMap plainNetwork? := by
      cases hp : plainNetwork? p with
      | none => rw [List.filterMap_cons_none hp, Option.toList_none, List.nil_append]
      | some net =>
        rw [List.filterMap_cons_some hp, Option.toList_some, List.singleton_append]
    rw [List.foldl_cons, h p List.mem_cons_self, hcons, List.filter_append, List.foldl_append]
    exact ih (fun q hq => h q (List.mem_cons_of_mem p hq)) _

lemma clusterStep_eq (h : (network? p).isSome) (out : List String) :
    clusterStep out p = ((plainNetwork? p).toList.filter fun net => 1 ≤ net.bits).foldl
      (fun out net => appendNew out net.text) out := by
  rcases listed_cases h with ⟨a, n, hn, rfl, hplain⟩ | ⟨hplain, hinvalid⟩
  · have hvalid : (Prefix.v4 a n).isValid = true := rfl
    have hbits : (Prefix.v4 a n).bits = n := rfl
    have hnet : (Net.ofAddr a n hn).bits = n := rfl
    rw [hplain, clusterStep]
    simp only [hvalid, Bool.not_true, Bool.false_eq_true, if_false, unmapPrefix_v4 hn, hbits,
      masked_v4_eq hn, Option.toList_some, List.filter_singleton, hnet]
    by_cases hpos : 1 ≤ n
    · have hzero : ¬ n < 1 := by omega
      simp [hpos, hzero, Prefix.v4, Addr.is4, Net.text]
    · have hzero : n < 1 := by omega
      simp [hpos, hzero]
  · simp [hplain, clusterStep, hinvalid]

def clusterList (nets : List Net) : List Net := distinct (nets.filter fun net => 1 ≤ net.bits)

lemma foldl_clusterStep (h : ∀ p ∈ cidrs, (network? p).isSome) :
    cidrs.foldl clusterStep [] = (clusterList (cidrs.filterMap plainNetwork?)).map Net.text := by
  rw [foldl_listed fun p hp out => clusterStep_eq (h p hp) out, clusterList,
    map_distinct Net.text_injective, List.foldl_map]

lemma mem_clusterList {nets : List Net} {net : Net} :
    net ∈ clusterList nets ↔ net ∈ clusterNets nets :=
  mem_distinct.trans List.mem_toFinset.symm

lemma length_clusterList (nets : List Net) :
    (clusterList nets).length = (clusterNets nets).card := length_distinct _

lemma bits_of_mem_clusterNets {nets : List Net} {net : Net} (h : net ∈ clusterNets nets) :
    1 ≤ net.bits := by
  rw [clusterNets, List.mem_toFinset, List.mem_filter] at h
  exact of_decide_eq_true h.2

/-! ## The cluster scope -/

def clusterAccepts (env : Option (GoMap String String)) (d : BitVec 32) : Bool :=
  k3smAddrIn (k3smBindCfgInit (env.getD ∅)).cidrs d

/-- An address the shim can have: a specified IPv4 address, also in 4-in-6 form. -/
def Encodable (ip : Addr) : Prop := ∃ a, ip.unmap = .v4 a ∧ a ≠ 0#32

lemma encodable_iff (ip : Addr) : encodable ip.unmap = true ↔ Encodable ip := by
  rw [encodable, Encodable]
  cases ip.unmap with
  | zero => simp [Addr.isValid]
  | v4 a => simp [Addr.isValid, Addr.is4, isUnspecified]
  | v6 a zone => simp [Addr.is4]

lemma encodable_eq_false {ip : Addr} (h : ¬ Encodable ip) : encodable ip.unmap = false := by
  rw [← Bool.not_eq_true, encodable_iff]
  exact h

lemma getenv_of_lookup {name v : String} (h : env.lookup name = some v) (hne : v.toList ≠ []) :
    getenv env name = some v.toList := by
  simp only [getenv, h, if_neg hne]

lemma getenv_of_lookup_none {name : String} (h : env.lookup name = none) :
    getenv env name = none := by
  simp only [getenv, h]

lemma string4_toList_ne (a : BitVec 32) : (string4 a).toList ≠ [] := by
  intro h
  have hdot := dot_mem_string4 a
  rw [h] at hdot
  cases hdot

lemma cidrs_of_podIP (h : env.lookup envPodIP = some (string4 a)) :
    (k3smBindCfgInit env).cidrs = ((getenv env envClusterCIDRs).bind k3smParseCidrs).getD [] := by
  simp only [k3smBindCfgInit, getenv_of_lookup h (string4_toList_ne a), parseIPv4_string4]

/-- The cluster scope of the shim is that of the plain prefixes. -/
lemma clusterAccepts_iff (hpod : Encodable podIP) (h : ∀ p ∈ cidrs, (network? p).isSome)
    (d : BitVec 32) : clusterAccepts (bindDisciplineEnvWithCIDRs podIP cidrs) d = true ↔
      d ∈ clusterScope (cidrs.filterMap plainNetwork?) := by
  obtain ⟨a, hip, -⟩ := id hpod
  have hbase : bindDisciplineEnv podIP = some (AList.insert envPodIP (string4 a) ∅) := by
    have henc := (encodable_iff podIP).mpr hpod
    rw [hip] at henc
    simp only [bindDisciplineEnv, hip, henc, Bool.not_true, Bool.false_eq_true, if_false,
      Addr.string]
  let nets := clusterList (cidrs.filterMap plainNetwork?)
  have hpos : ∀ net ∈ nets, 1 ≤ net.bits := fun net hnet =>
    bits_of_mem_clusterNets (mem_clusterList.mp hnet)
  have hout := foldl_clusterStep h
  have hmem : d ∈ clusterScope (cidrs.filterMap plainNetwork?) ↔
      nets.length ≤ maxClusterCIDRs ∧ ∃ net ∈ nets, net.Contains d := by
    rw [length_clusterList]
    simp only [clusterScope, Set.mem_ofPred_eq, nets, mem_clusterList]
  rw [hmem, clusterAccepts, bindDisciplineEnvWithCIDRs, hbase]
  simp only [hout, List.length_map]
  split
  · rename_i hnone
    have hlookup : (AList.insert envPodIP (string4 a) (∅ : GoMap String String)).lookup
        envClusterCIDRs = none := by
      rw [AList.lookup_insert_ne (by decide), AList.lookup_empty]
    rw [Option.getD_some, cidrs_of_podIP (AList.lookup_insert _), getenv_of_lookup_none hlookup]
    refine iff_of_false (by simp [k3smAddrIn]) ?_
    rintro ⟨hle, net, hnet, -⟩
    rcases hnone with hempty | hover
    · rw [List.length_eq_zero_iff] at hempty
      change net ∈ clusterList _ at hnet
      rw [hempty] at hnet
      cases hnet
    · exact absurd hle (Nat.not_le.mpr hover)
  · rename_i hsome
    rw [not_or] at hsome
    have hne : nets ≠ [] := fun hnil => hsome.1 (List.length_eq_zero_iff.mpr hnil)
    obtain ⟨hnonempty, hparse⟩ := Net.k3smParseCidrs_join hne hpos (Nat.not_lt.mp hsome.2)
    have hpodLookup : ((AList.insert envPodIP (string4 a) (∅ : GoMap String String)).insert
        envClusterCIDRs (join ',' (nets.map Net.text))).lookup envPodIP = some (string4 a) := by
      rw [AList.lookup_insert_ne (by decide), AList.lookup_insert]
    rw [Option.getD_some, cidrs_of_podIP hpodLookup,
      getenv_of_lookup (AList.lookup_insert _) hnonempty, Option.bind_some, hparse,
      Option.getD_some, Net.k3smAddrIn_entries hpos]
    exact ⟨fun hd => ⟨Nat.not_lt.mp hsome.2, hd⟩, fun hd => hd.2⟩

lemma clusterAccepts_of_not_encodable (hpod : ¬ Encodable podIP) (cidrs : List Prefix)
    (d : BitVec 32) : clusterAccepts (bindDisciplineEnvWithCIDRs podIP cidrs) d = false := by
  have hnone : bindDisciplineEnvWithCIDRs podIP cidrs = none := by
    simp only [bindDisciplineEnvWithCIDRs, bindDisciplineEnv, encodable_eq_false hpod,
      Bool.not_false, if_true]
  rw [hnone]
  rfl

/-! ## The interconnect scope -/

section Interconnect

variable {net : Net} {a : BitVec 32} {ip : Addr} {nets : List Net} {cidrs : List Prefix}

lemma Net.lastAddr_toPrefix (net : Net) : lastAddr net.toPrefix = .v4 net.last := by
  have hmasked : net.toPrefix.masked = net.toPrefix := by
    rw [toPrefix, Prefix.masked_v4 net.le, net.masked]
  rw [lastAddr, hmasked]
  rfl

def edgeOf (ip : Addr) (net : Net) : Bool :=
  net.toPrefix.contains ip && decide (net.bits ≤ 30) &&
    (ip == .v4 net.base || ip == .v4 net.last)

lemma edgeOf_iff : edgeOf (.v4 a) net = true ↔ net.Edge a := by
  simp only [edgeOf, Net.Edge, Net.Contains, Bool.and_eq_true, decide_eq_true_eq, Bool.or_eq_true,
    beq_iff_eq, Addr.v4.injEq, and_assoc]

def IcScan.of (ip : Addr) (nets : List Net) : IcScan :=
  ⟨nets.map Net.toPrefix, nets.any fun net => net.toPrefix.contains ip, nets.any (edgeOf ip)⟩

lemma onLink_check (net : Net) : (decide (net.toPrefix.bits < interconnectRange.bits) ||
      !interconnectRange.contains net.toPrefix.ip) = !net.onLink := by
  have hbits : decide (net.toPrefix.bits < interconnectRange.bits) = !decide (16 ≤ net.bits) := by
    rw [← decide_not]
    exact decide_eq_decide.mpr Nat.not_le.symm
  rw [hbits, Net.onLink, Bool.not_and]
  rfl

lemma IcScan.step_v4 (ip : Addr) (st : IcScan) {n : Nat} (hn : n ≤ 32) :
    st.step ip (Prefix.v4 a n) =
      if (Net.ofAddr a n hn).onLink = false ∨ (Net.ofAddr a n hn).toPrefix ∈ st.seen then st
      else
        { seen := st.seen ++ [(Net.ofAddr a n hn).toPrefix]
          inScope := st.inScope || (Net.ofAddr a n hn).toPrefix.contains ip
          edge := st.edge || edgeOf ip (Net.ofAddr a n hn) } := by
  have hvalid : (Prefix.v4 a n).isValid = true := rfl
  have his4 : (Prefix.v4 a n).ip.is4 = true := rfl
  simp only [IcScan.step, hvalid, Bool.not_true, Bool.false_eq_true, if_false, unmapPrefix_v4 hn,
    his4, Bool.or_self, masked_v4_eq hn, onLink_check, Bool.not_eq_true', ite_or]
  rw [Net.lastAddr_toPrefix]
  rfl

lemma IcScan.step_of {p : Prefix} (h : (network? p).isSome) (nets : List Net) :
    (IcScan.of ip nets).step ip p =
      IcScan.of ip (((plainNetwork? p).toList.filter Net.onLink).foldl appendNew nets) := by
  rcases listed_cases h with ⟨a, n, hn, rfl, hplain⟩ | ⟨hplain, hinvalid⟩
  · rw [hplain, IcScan.step_v4 ip _ hn, Option.toList_some, List.filter_singleton]
    have hseen : (Net.ofAddr a n hn).toPrefix ∈ (IcScan.of ip nets).seen ↔
        Net.ofAddr a n hn ∈ nets := List.mem_map_of_injective Net.toPrefix_injective
    cases hon : (Net.ofAddr a n hn).onLink with
    | false => simp
    | true =>
      simp only [Bool.true_eq_false, false_or, hseen, cond_true, List.foldl_cons, List.foldl_nil,
        appendNew]
      split
      · rfl
      · simp only [IcScan.of, List.map_append, List.any_append, List.map_cons, List.map_nil,
          List.any_cons, List.any_nil, Bool.or_false]
  · simp [hplain, IcScan.step, hinvalid]

def linkList (nets : List Net) : List Net := distinct (nets.filter Net.onLink)

lemma mem_linkList : net ∈ linkList nets ↔ net ∈ linkNets nets :=
  mem_distinct.trans List.mem_toFinset.symm

lemma length_linkList (nets : List Net) : (linkList nets).length = (linkNets nets).card :=
  length_distinct _

lemma onLink_of_mem_linkNets (h : net ∈ linkNets nets) : net.onLink = true := by
  rw [linkNets, List.mem_toFinset, List.mem_filter] at h
  exact h.2

lemma foldl_icScan (ip : Addr) (h : ∀ p ∈ cidrs, (network? p).isSome) :
    cidrs.foldl (IcScan.step ip) ⟨[], false, false⟩ =
      IcScan.of ip (linkList (cidrs.filterMap plainNetwork?)) := by
  have hfold : ∀ nets, cidrs.foldl (IcScan.step ip) (IcScan.of ip nets) =
      IcScan.of ip (cidrs.foldl (fun nets p =>
        ((plainNetwork? p).toList.filter Net.onLink).foldl appendNew nets) nets) := by
    induction cidrs with
    | nil => exact fun _ => rfl
    | cons p cidrs ih =>
      intro nets
      rw [List.foldl_cons, IcScan.step_of (h p List.mem_cons_self), List.foldl_cons]
      exact ih (fun q hq => h q (List.mem_cons_of_mem p hq)) _
  rw [linkList, distinct, ← foldl_listed fun p _ nets => rfl]
  exact hfold []

lemma linkScope_onLink (h : a ∈ linkScope nets) : interconnectRange.contains (.v4 a) = true := by
  obtain ⟨net, hnet, hcontains⟩ := h
  obtain ⟨hbits, hbase⟩ := Bool.and_eq_true_iff.mp (onLink_of_mem_linkNets hnet)
  have hle : 16 ≤ net.bits := of_decide_eq_true hbits
  have hsplit : ∀ x : BitVec 32, x >>> 16 = (x >>> (32 - net.bits)) >>> (net.bits - 16) := by
    intro x
    have := net.le
    rw [← BitVec.shiftRight_add, show 32 - net.bits + (net.bits - 16) = 16 by omega]
  have hshift : net.base >>> (32 - net.bits) = a >>> (32 - net.bits) :=
    Prefix.contains_v4_iff.mp hcontains
  rw [interconnectRange, Prefix.contains_v4_iff] at hbase ⊢
  rw [hbase, hsplit net.base, hsplit a, hshift]

def refuses (ip : Addr) (nets : List Net) : Bool :=
  decide (nets.length = 0) || decide (maxClusterCIDRs < nets.length) ||
    !(nets.any fun net => net.toPrefix.contains ip) || nets.any (edgeOf ip)

lemma interconnectEnv_of_encodable (hip : ip.unmap = .v4 a) (ha : a ≠ 0#32)
    (h : ∀ p ∈ cidrs, (network? p).isSome) : interconnectEnv ip cidrs =
      if refuses (.v4 a) (linkList (cidrs.filterMap plainNetwork?)) then none
      else some ((AList.insert envInterconnectIP (string4 a) ∅).insert envInterconnectCIDRs
        (join ',' ((linkList (cidrs.filterMap plainNetwork?)).map Net.text))) := by
  have henc := (encodable_iff ip).mpr ⟨a, hip, ha⟩
  rw [hip] at henc
  simp only [interconnectEnv, hip, henc, Bool.not_true, Bool.false_eq_true, if_false,
    foldl_icScan _ h, IcScan.of, List.length_map, List.map_map, Addr.string]
  rfl

lemma refuses_iff (hip : ip.unmap = .v4 a) (nets : List Net) :
    refuses (.v4 a) (linkList nets) = true ↔ LinkRefused ip nets := by
  have hempty : (linkList nets).length = 0 ↔ linkNets nets = ∅ := by
    rw [length_linkList, Finset.card_eq_zero]
  have hscope : (linkList nets).any (fun net => net.toPrefix.contains (.v4 a)) = true ↔
      ∃ b, ip.unmap = .v4 b ∧ b ∈ linkScope nets := by
    simp only [List.any_eq_true, mem_linkList, hip, Addr.v4.injEq, exists_eq_left']
    rfl
  have hedge : (linkList nets).any (edgeOf (.v4 a)) = true ↔
      ∃ b, ip.unmap = .v4 b ∧ ∃ net ∈ linkNets nets, net.Edge b := by
    simp only [List.any_eq_true, mem_linkList, hip, Addr.v4.injEq, exists_eq_left', edgeOf_iff]
  rw [refuses, LinkRefused, Bool.or_eq_true, Bool.or_eq_true, Bool.or_eq_true, decide_eq_true_eq,
    decide_eq_true_eq, Bool.not_eq_true', ← Bool.not_eq_true, hempty, length_linkList, hscope,
    hedge, or_assoc, or_assoc]

/-- The interconnect scope is refused on the plain prefixes alone. -/
lemma interconnectEnv_eq_none_iff (h : ∀ p ∈ cidrs, (network? p).isSome) :
    interconnectEnv ip cidrs = none ↔ LinkRefused ip (cidrs.filterMap plainNetwork?) := by
  by_cases henc : Encodable ip
  · obtain ⟨a, hip, ha⟩ := henc
    rw [interconnectEnv_of_encodable hip ha h, ← refuses_iff hip]
    split
    · rename_i hrefuses
      exact iff_of_true rfl hrefuses
    · rename_i hrefuses
      exact iff_of_false (by simp) hrefuses
  · have hnone : interconnectEnv ip cidrs = none := by
      simp only [interconnectEnv, encodable_eq_false henc, Bool.not_false, if_true]
    refine iff_of_true hnone (.inr (.inr (.inl ?_)))
    rintro ⟨a, hip, hscope⟩
    -- an address that is not encodable is 0.0.0.0, which is off the link
    have hzero : a = 0#32 := by
      by_contra hne
      exact henc ⟨a, hip, hne⟩
    have hon := linkScope_onLink hscope
    rw [hzero] at hon
    revert hon
    decide

lemma entry_offLink (h : net.onLink = true) : net.entry.offLink = false := by
  obtain ⟨hbits, hbase⟩ := Bool.and_eq_true_iff.mp h
  have hle : 16 ≤ net.bits := of_decide_eq_true hbits
  have hmask : ∀ n < 33, 16 ≤ n → cidrMask n &&& interconnectMask = interconnectMask := by decide
  have hbase16 : net.base &&& interconnectMask = 0xa9fe0000#32 := by
    have hcidr : interconnectMask = cidrMask 16 := by decide
    rw [interconnectRange, Prefix.contains_v4_iff] at hbase
    rw [hcidr, Net.and_cidrMask (by omega) (by omega), maskBits, ← hbase]
    decide
  have hmask16 := hmask net.bits (Nat.lt_succ_of_le net.le) hle
  simp only [Cidr.offLink, Net.entry, hmask16, hbase16, bne_self_eq_false, Bool.or_self]

lemma entry_edge (hpos : 1 ≤ net.bits) (h : ¬ net.Edge a) : net.entry.edge a = false := by
  have hshort : ∀ n < 33, 1 ≤ n → cidrMask n ≠ 0xffffffff#32 → cidrMask n ≠ 0xfffffffe#32 →
      n ≤ 30 := by decide
  have hlast : ∀ n < 33, 1 ≤ n → ~~~cidrMask n = BitVec.allOnes 32 >>> n := by decide
  rw [← Bool.not_eq_true]
  intro hedge
  simp only [Cidr.edge, Bool.and_eq_true, bne_iff_ne, Bool.or_eq_true, beq_iff_eq] at hedge
  obtain ⟨⟨⟨hmatch, hfull⟩, hpair⟩, haddr⟩ := hedge
  have hlt : net.bits < 33 := Nat.lt_succ_of_le net.le
  refine h ⟨(Net.matches_entry_iff hpos a).mp hmatch, hshort _ hlt hpos hfull hpair, ?_⟩
  rw [Net.last, ← hlast _ hlt hpos]
  exact haddr

lemma interconnectCfgInit_of_nets (hne : nets ≠ []) (hon : ∀ net ∈ nets, net.onLink = true)
    (hcap : nets.length ≤ maxClusterCIDRs) (hin : ∃ net ∈ nets, net.Contains a)
    (hedge : ∀ net ∈ nets, ¬ net.Edge a) :
    k3smInterconnectCfgInit ((AList.insert envInterconnectIP (string4 a) ∅).insert
      envInterconnectCIDRs (join ',' (nets.map Net.text))) = some (a, nets.map Net.entry) ∧
      ∀ d, k3smAddrIn (nets.map Net.entry) d = true ↔ ∃ net ∈ nets, net.Contains d := by
  have hpos : ∀ net ∈ nets, 1 ≤ net.bits := by
    intro net hnet
    have hbits := of_decide_eq_true (Bool.and_eq_true_iff.mp (hon net hnet)).1
    omega
  obtain ⟨hnonempty, hparse⟩ := Net.k3smParseCidrs_join hne hpos hcap
  have hip : getenv ((AList.insert envInterconnectIP (string4 a) (∅ : GoMap String String)).insert
      envInterconnectCIDRs (join ',' (nets.map Net.text))) envInterconnectIP =
        some (string4 a).toList := by
    refine getenv_of_lookup ?_ (string4_toList_ne a)
    rw [AList.lookup_insert_ne (by decide), AList.lookup_insert]
  have hcidrs : getenv ((AList.insert envInterconnectIP (string4 a)
      (∅ : GoMap String String)).insert envInterconnectCIDRs (join ',' (nets.map Net.text)))
        envInterconnectCIDRs = some (join ',' (nets.map Net.text)).toList :=
    getenv_of_lookup (AList.lookup_insert _) hnonempty
  have hoff : (nets.map Net.entry).any Cidr.offLink = false := by
    rw [List.any_map, List.any_eq_false]
    intro net hnet
    simp [entry_offLink (hon net hnet)]
  have haddr : k3smAddrIn (nets.map Net.entry) a = true :=
    (Net.k3smAddrIn_entries hpos a).mpr hin
  have hedges : (nets.map Net.entry).any (·.edge a) = false := by
    rw [List.any_map, List.any_eq_false]
    intro net hnet
    simp [entry_edge (hpos net hnet) (hedge net hnet)]
  refine ⟨?_, Net.k3smAddrIn_entries hpos⟩
  rw [k3smInterconnectCfgInit, hip, hcidrs]
  simp only [parseIPv4_string4, hparse, hoff, haddr, hedges, Bool.not_true, Bool.false_eq_true,
    if_false]

lemma interconnectCfgInit_of_env {env : GoMap String String}
    (h : ∀ p ∈ cidrs, (network? p).isSome) (henv : interconnectEnv ip cidrs = some env) :
    ∃ a tab, ip.unmap = .v4 a ∧ k3smInterconnectCfgInit env = some (a, tab) ∧
      ∀ d, k3smAddrIn tab d = true ↔ d ∈ linkScope (cidrs.filterMap plainNetwork?) := by
  have hkept : ¬ LinkRefused ip (cidrs.filterMap plainNetwork?) := by
    rw [← interconnectEnv_eq_none_iff h, henv]
    exact Option.some_ne_none env
  obtain ⟨hne, hcap, hscope, hedge⟩ := by simpa only [LinkRefused, not_or] using hkept
  obtain ⟨a, hip, hin⟩ := not_not.mp hscope
  have ha : a ≠ 0#32 := by
    rintro rfl
    exact absurd (linkScope_onLink hin) (by decide)
  have hnets : linkList (cidrs.filterMap plainNetwork?) ≠ [] := by
    intro hnil
    refine hne (Finset.card_eq_zero.mp ?_)
    rw [← length_linkList, hnil, List.length_nil]
  have hon : ∀ net ∈ linkList (cidrs.filterMap plainNetwork?), net.onLink = true :=
    fun net hnet => onLink_of_mem_linkNets (mem_linkList.mp hnet)
  have hmem : ∀ d, (∃ net ∈ linkList (cidrs.filterMap plainNetwork?), net.Contains d) ↔
      d ∈ linkScope (cidrs.filterMap plainNetwork?) := by
    intro d
    simp only [mem_linkList]
    rfl
  obtain ⟨hinit, htab⟩ := interconnectCfgInit_of_nets hnets hon
    (by rw [length_linkList]; exact Nat.not_lt.mp hcap) ((hmem a).mpr hin)
    fun net hnet hbad => hedge ⟨a, hip, net, mem_linkList.mp hnet, hbad⟩
  have hrefuses : refuses (.v4 a) (linkList (cidrs.filterMap plainNetwork?)) = false := by
    rw [← Bool.not_eq_true, refuses_iff hip]
    exact hkept
  rw [interconnectEnv_of_encodable hip ha h, hrefuses] at henv
  cases henv
  exact ⟨a, _, hip, hinit, fun d => (htab d).trans (hmem d)⟩

end Interconnect

/-! ## The round trip -/

/-- The shim accepts the destinations of the listed networks and no others. -/
def ClusterRoundTrip (podIP : Addr) (cidrs : List Prefix) : Prop :=
  ∀ d, clusterAccepts (bindDisciplineEnvWithCIDRs podIP cidrs) d = true ↔
    d ∈ clusterScope (cidrs.filterMap network?)

/-- An environment turns the scope of the listed networks on, and there is none exactly where
that scope is to be refused. -/
def InterconnectRoundTrip (ip : Addr) (cidrs : List Prefix) : Prop :=
  (∀ env, interconnectEnv ip cidrs = some env → ∃ a tab, ip.unmap = .v4 a ∧
    k3smInterconnectCfgInit env = some (a, tab) ∧
    ∀ d, k3smAddrIn tab d = true ↔ d ∈ linkScope (cidrs.filterMap network?)) ∧
  (interconnectEnv ip cidrs = none ↔ LinkRefused ip (cidrs.filterMap network?))

/-- The 4-in-6 prefixes of the list add nothing: each scope is that of the plain prefixes alone.
A pod address that cannot be encoded has an empty cluster scope. -/
structure ScopesPlain (podIP ip : Addr) (cidrs : List Prefix) : Prop where
  cluster : Encodable podIP → clusterScope (cidrs.filterMap network?) =
    clusterScope (cidrs.filterMap plainNetwork?)
  noPod : ¬ Encodable podIP → clusterScope (cidrs.filterMap network?) = ∅
  refused : LinkRefused ip (cidrs.filterMap network?) ↔
    LinkRefused ip (cidrs.filterMap plainNetwork?)
  link : ¬ LinkRefused ip (cidrs.filterMap plainNetwork?) →
    linkScope (cidrs.filterMap network?) = linkScope (cidrs.filterMap plainNetwork?)

/-- The shim accepts the listed networks, in both scopes, exactly if the 4-in-6 prefixes of the list
add nothing to either. -/
theorem shim_scope_round_trip (podIP ip : Addr) (cidrs : List Prefix)
    (h : ∀ p ∈ cidrs, (network? p).isSome) :
    ClusterRoundTrip podIP cidrs ∧ InterconnectRoundTrip ip cidrs ↔ ScopesPlain podIP ip cidrs := by
  constructor
  · rintro ⟨hcluster, henv, hnone⟩
    refine ⟨?_, ?_, ?_, ?_⟩
    · intro hpod
      ext d
      rw [← hcluster d, clusterAccepts_iff hpod h d]
    · intro hpod
      refine Set.eq_empty_of_forall_notMem fun d hd => ?_
      have haccepts := (hcluster d).mpr hd
      rw [clusterAccepts_of_not_encodable hpod] at haccepts
      cases haccepts
    · rw [← hnone, interconnectEnv_eq_none_iff h]
    · intro hkept
      obtain ⟨env, hsome⟩ := Option.ne_none_iff_exists'.mp
        (mt (interconnectEnv_eq_none_iff h).mp hkept)
      obtain ⟨a, tab, -, hinit, htab⟩ := henv env hsome
      obtain ⟨a', tab', -, hinit', htab'⟩ := interconnectCfgInit_of_env h hsome
      cases hinit.symm.trans hinit'
      ext d
      rw [← htab d, htab' d]
  · intro hplain
    refine ⟨?_, ?_, ?_⟩
    · intro d
      by_cases hpod : Encodable podIP
      · rw [hplain.cluster hpod, clusterAccepts_iff hpod h d]
      · rw [hplain.noPod hpod, clusterAccepts_of_not_encodable hpod]
        simp
    · intro env hsome
      have hkept : ¬ LinkRefused ip (cidrs.filterMap plainNetwork?) := by
        rw [← interconnectEnv_eq_none_iff h, hsome]
        exact Option.some_ne_none env
      rw [hplain.link hkept]
      exact interconnectCfgInit_of_env h hsome
    · rw [hplain.refused, interconnectEnv_eq_none_iff h]

lemma scopesPlain_of_is4 (hpod : Encodable podIP) (h : ∀ p ∈ cidrs, p.ip.is4 = true) (ip : Addr) :
    ScopesPlain podIP ip cidrs := by
  have hsame : cidrs.filterMap plainNetwork? = cidrs.filterMap network? := by
    refine List.filterMap_congr fun p hp => ?_
    rw [plainNetwork?, if_pos (h p hp)]
  refine ⟨?_, fun hnot => absurd hpod hnot, ?_, ?_⟩
  · intro _
    rw [hsame]
  · rw [hsame]
  · intro _
    rw [hsame]

def clusterList4 : List Prefix :=
  [Prefix.v4 0x0a2a0001 16, Prefix.v4 0x0a2b0000 16, Prefix.v4 0xa9fe0000 24]

theorem shim_scope_round_trip_cluster :
    (∀ p ∈ clusterList4, (network? p).isSome) ∧ ClusterRoundTrip (.v4 0x0a2a0005) clusterList4 ∧
      InterconnectRoundTrip (.v4 0xa9fe0009) clusterList4 := by
  have hlisted : ∀ p ∈ clusterList4, (network? p).isSome := by decide
  refine ⟨hlisted, (shim_scope_round_trip (.v4 0x0a2a0005) (.v4 0xa9fe0009) clusterList4
    hlisted).mpr ?_⟩
  exact scopesPlain_of_is4 ⟨_, rfl, by decide⟩ (by decide) _

def mappedList : List Prefix :=
  [⟨.v6 0xffff0a2a0000#128 "", 113⟩, ⟨.v6 0xffffa9fe0000#128 "", 121⟩]

/-- Networks listed as 4-in-6 prefixes reach neither scope. -/
theorem mapped_prefixes_skipped : (∀ p ∈ mappedList, (network? p).isSome) ∧
      (0x0a2a0107#32 ∈ clusterScope (mappedList.filterMap network?) ∧
        clusterAccepts (bindDisciplineEnvWithCIDRs (.v4 0x0a2a0005) mappedList) 0x0a2a0107 =
          false) ∧
      ¬ LinkRefused (.v4 0xa9fe0009) (mappedList.filterMap network?) ∧
        interconnectEnv (.v4 0xa9fe0009) mappedList = none := by
  refine ⟨by decide, ⟨⟨by decide +kernel, Net.ofAddr 0x0a2a0000 16 (by decide), by decide +kernel,
    by decide +kernel⟩, by decide +kernel⟩, ?_, ?_⟩
  · rw [← refuses_iff (a := 0xa9fe0009) rfl]
    decide +kernel
  · exact Option.isNone_iff_eq_none.mp (by decide +kernel)

end DarwinNet.Podnet
