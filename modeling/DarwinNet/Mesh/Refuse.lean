import DarwinNet.Lib.Bytes
import DarwinNet.Netip.Prefix

/-!
SYN refusal (`refuse.go`: `refuseSYN`, `tcpReset` and their checksums). A read outside a byte
string, which is a panic, is `none`.

`refuseSYN` reads nothing outside the packet (`refuseSYN_spec`), and what it accepts is long
enough for every read of `tcpReset`. `refused_syn_reset` says that the reset is then an IPv4
packet without options whose TCP segment acknowledges all of the SYN, that both checksums verify
to zero, and that no node refuses the reset.
-/

namespace DarwinNet.Mesh

open Lib.Bytes Netip

def tcpFIN : UInt8 := 0x01

def tcpSYN : UInt8 := 0x02

def tcpRST : UInt8 := 0x04

def tcpACK : UInt8 := 0x10

def uintBE (n : Nat) (b : List UInt8) : Option Nat := (slice b 0 n).map be

/-! ## The checks -/

/-- The checks on the bytes of a packet: an unfragmented TCP SYN in whole. -/
def plainSYN (pkt : List UInt8) : Option Bool :=
  if pkt.length < 20 then some false
  else do
    let version : UInt8 ← pkt[0]?
    let protocol ← pkt[9]?
    if version >>> 4 ≠ 4 ∨ protocol ≠ 6 then some false
    else
      let ihl := (version &&& (0x0f : UInt8)).toNat * 4
      let total ← uintBE 2 (← slice pkt 2 4)
      if ihl < 20 ∨ total > pkt.length ∨ total < ihl + 20 then some false
      else
        let fragment ← uintBE 2 (← slice pkt 6 8)
        if fragment &&& 0x3fff ≠ 0 then some false
        else
          let tcp ← slice pkt ihl total
          let offset ← tcp[12]?
          let flags ← tcp[13]?
          let doff := (offset >>> 4).toNat * 4
          some (decide (¬ (doff < 20 ∨ doff > tcp.length ∨
            flags &&& (tcpSYN ||| tcpACK ||| tcpRST ||| tcpFIN) ≠ tcpSYN)))

def addrFrom4 (b : List UInt8) : Addr := .v4 (BitVec.ofNat 32 (be b))

def refuseSYN (pkt : List UInt8) (node : Prefix) : Option (Addr → Bool) → Option Bool
  | none => some false
  | some allocated =>
    if !node.isValid || !node.ip.is4 || node.bits != 24 then some false
    else do
      if !(← plainSYN pkt) then some false
      else
        let src ← slice pkt 12 16
        let dst ← slice pkt 16 20
        let last ← dst[3]?
        if node.contains (addrFrom4 src) || !node.contains (addrFrom4 dst) then some false
        else if last < 2 ∨ last > 254 then some false
        else some (!allocated (addrFrom4 dst))

/-- `onesSum`: the words are added to a 32-bit sum. -/
def onesSum : List UInt8 → UInt32 → UInt32
  | x :: y :: b, acc => onesSum b (acc + UInt32.ofNat (be [x, y]))
  | [x], acc => acc + UInt32.ofNat x.toNat <<< 8
  | [], acc => acc

lemma toNat_and_16 (a : UInt32) : (a &&& (0xffff : UInt32)).toNat = a.toNat % 65536 := by
  rw [UInt32.toNat_and]
  exact Nat.and_two_pow_sub_one_eq_mod a.toNat 16

lemma toNat_shift_16 (a : UInt32) : (a >>> 16).toNat = a.toNat / 65536 := by
  rw [UInt32.toNat_shiftRight]
  exact Nat.shiftRight_eq_div_pow a.toNat 16

lemma toNat_carry (a : UInt32) :
    ((a &&& (0xffff : UInt32)) + (a >>> 16)).toNat = a.toNat % 65536 + a.toNat / 65536 := by
  have ha := a.toNat_lt
  rw [UInt32.toNat_add, toNat_and_16, toNat_shift_16]
  omega

def addCarries (acc : UInt32) : UInt32 :=
  if acc >>> 16 ≠ 0 then addCarries ((acc &&& (0xffff : UInt32)) + (acc >>> 16)) else acc
termination_by acc.toNat
decreasing_by
  rename_i hcarry
  have hpos : acc.toNat / 65536 ≠ 0 := by
    rw [← toNat_shift_16]
    exact fun h => hcarry (UInt32.toNat_inj.mp h)
  rw [toNat_carry]
  omega

def inetChecksum (b : List UInt8) (acc : UInt32) : UInt16 :=
  ~~~ (addCarries (onesSum b acc)).toUInt16

/-- The reset with these addresses, ports and acknowledgement number, written into a buffer of
zeros as `tcpReset` writes it. -/
def resetPacket (src dst sport dport : List UInt8) (ack : Nat) : List UInt8 :=
  let r := List.replicate 40 0
  let r := put r 0 [0x45]
  let r := put r 2 (bytesBE 2 40)
  let r := put r 6 [0x40]
  let r := put r 8 [64]
  let r := put r 9 [6]
  let r := put r 12 src
  let r := put r 16 dst
  let r := put r 10 (bytesBE 2 (inetChecksum (r.take 20) 0).toNat)
  let r := put r 20 sport
  let r := put r 22 dport
  let r := put r 28 (bytesBE 4 ack)
  let r := put r 32 [(5 : UInt8) <<< 4]
  let r := put r 33 [tcpRST ||| tcpACK]
  let pseudo := List.replicate 12 0
  let pseudo := put pseudo 0 (field r 12 8)
  let pseudo := put pseudo 9 [6]
  let pseudo := put pseudo 10 (bytesBE 2 (r.drop 20).length)
  put r 36 (bytesBE 2 (inetChecksum (r.drop 20) (onesSum pseudo 0)).toNat)

/-- `tcpReset`. The length of the segment is an `int` made a `uint32`. -/
def tcpReset (syn : List UInt8) : Option (List UInt8) := do
  let version ← syn[0]?
  let ihl := (version &&& (0x0f : UInt8)).toNat * 4
  let total ← uintBE 2 (← slice syn 2 4)
  let tcp ← slice syn ihl total
  let offset ← tcp[12]?
  let segLen := (((total : Int) - ihl - (offset >>> 4).toNat * 4) % 2 ^ 32).toNat + 1
  let src ← slice syn 12 16
  let dst ← slice syn 16 20
  let sport ← slice tcp 0 2
  let dport ← slice tcp 2 4
  let seq ← uintBE 4 (← slice tcp 4 8)
  some (resetPacket dst src dport sport ((seq + segLen) % 2 ^ 32))

/-! ## Reading packets -/

def headerLen (pkt : List UInt8) : Nat := (pkt.getD 0 0 &&& (0x0f : UInt8)).toNat * 4

def totalLen (pkt : List UInt8) : Nat := be (field pkt 2 2)

def tcpField (pkt : List UInt8) (i n : Nat) : List UInt8 := field pkt (headerLen pkt + i) n

def dataOffset (pkt : List UInt8) : Nat := (pkt.getD (headerLen pkt + 12) 0 >>> 4).toNat * 4

def tcpFlags (pkt : List UInt8) : UInt8 := pkt.getD (headerLen pkt + 13) 0

def payloadLen (pkt : List UInt8) : Nat := totalLen pkt - headerLen pkt - dataOffset pkt

/-- The pseudo-header of the TCP checksum: both addresses, the protocol and the length of the
segment. -/
def pseudoHeader (pkt : List UInt8) : List UInt8 :=
  field pkt 12 8 ++ [0, 6] ++ bytesBE 2 (totalLen pkt - headerLen pkt)

/-- `r` is the reset that answers the SYN `pkt`. -/
structure Resets (pkt r : List UInt8) : Prop where
  length : r.length = 40
  version : r.getD 0 0 = 0x45
  total : totalLen r = 40
  unfragmented : be (field r 6 2) &&& 0x3fff = 0
  protocol : r.getD 9 0 = 6
  source : field r 12 4 = field pkt 16 4
  destination : field r 16 4 = field pkt 12 4
  sourcePort : tcpField r 0 2 = tcpField pkt 2 2
  destinationPort : tcpField r 2 2 = tcpField pkt 0 2
  sequence : be (tcpField r 4 4) = 0
  acknowledgement : be (tcpField r 8 4) = (be (tcpField pkt 4 4) + 1 + payloadLen pkt) % 2 ^ 32
  noOptions : dataOffset r = 20
  flags : tcpFlags r = tcpRST ||| tcpACK
  /-- The words of a header with a right checksum add up to all ones, carries added back. -/
  headerChecksum : fold16 (wordSum (field r 0 20)) = 65535
  tcpChecksum : fold16 (wordSum (pseudoHeader r) + wordSum (field r 20 20)) = 65535

/-! ## Checksums -/

lemma toNat_onesSum (b : List UInt8) (acc : UInt32) :
    (onesSum b acc).toNat = (acc.toNat + wordSum b) % 2 ^ 32 := by
  induction b, acc using onesSum.induct with
  | case1 x y b acc ih =>
    rw [onesSum, ih, UInt32.toNat_add, UInt32.toNat_ofNat', wordSum]
    omega
  | case2 x acc =>
    have hx := x.toNat_lt
    have hshift : (UInt32.ofNat x.toNat <<< 8).toNat = x.toNat * 256 := by
      rw [UInt32.toNat_shiftLeft, UInt32.toNat_ofNat',
        Nat.mod_eq_of_lt (show x.toNat < 2 ^ 32 by omega)]
      show x.toNat <<< 8 % 2 ^ 32 = _
      rw [Nat.shiftLeft_eq]
      omega
    rw [onesSum, UInt32.toNat_add, hshift, wordSum]
  | case3 acc =>
    have hacc := acc.toNat_lt
    rw [onesSum, wordSum]
    omega

lemma toNat_addCarries (acc : UInt32) : (addCarries acc).toNat = fold16 acc.toNat := by
  induction acc using addCarries.induct with
  | case1 acc hcarry ih =>
    have hpos : acc.toNat / 65536 ≠ 0 := by
      rw [← toNat_shift_16]
      exact fun h => hcarry (UInt32.toNat_inj.mp h)
    rw [addCarries, if_pos hcarry, ih, toNat_carry, fold16.eq_def acc.toNat, if_neg hpos]
  | case2 acc hcarry =>
    have hzero : acc.toNat / 65536 = 0 := by
      rw [← toNat_shift_16, not_not.mp hcarry]
      rfl
    rw [addCarries, if_neg hcarry, fold16, if_pos hzero]

lemma toNat_inetChecksum {b : List UInt8} {acc : UInt32}
    (h : acc.toNat + b.length * 65535 < 2 ^ 32) :
    (inetChecksum b acc).toNat = 65535 - fold16 (acc.toNat + wordSum b) := by
  have hsum := wordSum_le b
  have hfold := (fold16_eq (acc.toNat + wordSum b)).1
  rw [inetChecksum, UInt16.toNat_not, UInt32.toNat_toUInt16, toNat_addCarries, toNat_onesSum,
    Nat.mod_eq_of_lt (by omega : acc.toNat + wordSum b < 2 ^ 32), Nat.mod_eq_of_lt hfold]
  rfl

/-- What `inetChecksum` computes over a zero word, written in its place, verifies. -/
lemma inetChecksum_verifies {a b : List UInt8} {acc : UInt32} (heven : a.length % 2 = 0)
    (hlong : acc.toNat + (a.length + 2 + b.length) * 65535 < 2 ^ 32) :
    fold16 (acc.toNat +
      wordSum (a ++ bytesBE 2 (inetChecksum (a ++ [0, 0] ++ b) acc).toNat ++ b)) = 65535 := by
  have hlt : (inetChecksum (a ++ [0, 0] ++ b) acc).toNat < 65536 := UInt16.toNat_lt _
  have hbound : acc.toNat + (a ++ [0, 0] ++ b).length * 65535 < 2 ^ 32 := by
    rw [List.length_append, List.length_append]
    exact hlong
  rw [wordSum_put heven hlt, toNat_inetChecksum hbound, ← Nat.add_assoc, fold16_complement]

/-! ## The packet written -/

def ipHeader (src dst : List UInt8) (checksum : Nat) : List UInt8 :=
  [0x45, 0, 0, 40, 0, 0, 0x40, 0, 64, 6] ++ bytesBE 2 checksum ++ (src ++ dst)

def rstSegment (sport dport : List UInt8) (ack checksum : Nat) : List UInt8 :=
  sport ++ dport ++ [0, 0, 0, 0] ++ bytesBE 4 ack ++ [0x50, 0x14, 0, 0] ++ bytesBE 2 checksum ++
    [0, 0]

section

variable {src dst sport dport : List UInt8}

lemma exists_pair {b : List UInt8} (h : b.length = 2) : ∃ x y, b = [x, y] :=
  List.length_eq_two.mp h

lemma exists_four {b : List UInt8} (h : b.length = 4) : ∃ x y z w, b = [x, y, z, w] := by
  match b, h with
  | [x, y, z, w], _ => exact ⟨x, y, z, w, rfl⟩

lemma resetPacket_eq (hsrc : src.length = 4) (hdst : dst.length = 4) (hsport : sport.length = 2)
    (hdport : dport.length = 2) (ack : Nat) : resetPacket src dst sport dport ack =
      ipHeader src dst (inetChecksum (ipHeader src dst 0) 0).toNat ++
      rstSegment sport dport ack (inetChecksum (rstSegment sport dport ack 0)
        (onesSum (src ++ dst ++ [0, 6, 0, 20]) 0)).toNat := by
  obtain ⟨a, b, c, d, rfl⟩ := exists_four hsrc
  obtain ⟨e, f, g, h, rfl⟩ := exists_four hdst
  obtain ⟨p, q, rfl⟩ := exists_pair hsport
  obtain ⟨s, t, rfl⟩ := exists_pair hdport
  have hoffset : (5 : UInt8) <<< 4 = 0x50 := by decide
  have hflags : tcpRST ||| tcpACK = 0x14 := by decide
  simp [resetPacket, put, field, ipHeader, rstSegment, bytesBE, hoffset, hflags]

lemma ipHeader_verifies (hsrc : src.length = 4) (hdst : dst.length = 4) :
    fold16 (wordSum (ipHeader src dst (inetChecksum (ipHeader src dst 0) 0).toNat)) = 65535 := by
  rw [← Nat.zero_add (wordSum _)]
  refine @inetChecksum_verifies _ _ 0 (by decide) ?_
  rw [List.length_append, hsrc, hdst]
  decide

lemma rstSegment_verifies (hsport : sport.length = 2) (hdport : dport.length = 2) (ack : Nat)
    {pseudo : List UInt8} (hpseudo : pseudo.length = 12) :
    fold16 (wordSum pseudo + wordSum (rstSegment sport dport ack
      (inetChecksum (rstSegment sport dport ack 0) (onesSum pseudo 0)).toNat)) = 65535 := by
  have hlen : (sport ++ dport ++ [0, 0, 0, 0] ++ bytesBE 4 ack ++ [0x50, 0x14, 0, 0]).length =
      16 := by
    simp [hsport, hdport, length_bytesBE]
  have hle := wordSum_le pseudo
  have hsum : (onesSum pseudo 0).toNat = wordSum pseudo := by
    rw [toNat_onesSum, UInt32.toNat_zero, Nat.zero_add]
    exact Nat.mod_eq_of_lt (by omega)
  rw [← hsum]
  refine inetChecksum_verifies (by rw [hlen]) ?_
  rw [hsum, hlen, List.length_cons, List.length_cons, List.length_nil]
  omega

lemma headerLen_ipHeader (checksum : Nat) (b : List UInt8) :
    headerLen (ipHeader src dst checksum ++ b) = 20 := by
  show ((0x45 : UInt8) &&& 0x0f).toNat * 4 = 20
  decide

lemma totalLen_ipHeader (checksum : Nat) (b : List UInt8) :
    totalLen (ipHeader src dst checksum ++ b) = 40 := by
  show be [0, 40] = 40
  decide

lemma resets_resetPacket (pkt : List UInt8) (hsrc : (field pkt 16 4).length = 4)
    (hdst : (field pkt 12 4).length = 4) (hsport : (tcpField pkt 2 2).length = 2)
    (hdport : (tcpField pkt 0 2).length = 2) :
    Resets pkt (resetPacket (field pkt 16 4) (field pkt 12 4) (tcpField pkt 2 2)
      (tcpField pkt 0 2) ((be (tcpField pkt 4 4) + 1 + payloadLen pkt) % 2 ^ 32)) := by
  have hheader := ipHeader_verifies hsrc hdst
  have hpseudo : (field pkt 16 4 ++ field pkt 12 4 ++ [0, 6, 0, 20]).length = 12 := by
    simp [hsrc, hdst]
  have hsegment := rstSegment_verifies hsport hdport
    ((be (tcpField pkt 4 4) + 1 + payloadLen pkt) % 2 ^ 32) hpseudo
  rw [resetPacket_eq hsrc hdst hsport hdport]
  generalize (inetChecksum (ipHeader (field pkt 16 4) (field pkt 12 4) 0) 0).toNat = c₁
    at hheader ⊢
  generalize (inetChecksum (rstSegment (tcpField pkt 2 2) (tcpField pkt 0 2)
    ((be (tcpField pkt 4 4) + 1 + payloadLen pkt) % 2 ^ 32) 0)
    (onesSum (field pkt 16 4 ++ field pkt 12 4 ++ [0, 6, 0, 20]) 0)).toNat = c₂ at hsegment ⊢
  obtain ⟨a, b, c, d, hs⟩ := exists_four hsrc
  obtain ⟨e, f, g, h, hd⟩ := exists_four hdst
  obtain ⟨p, q, hp⟩ := exists_pair hsport
  obtain ⟨s, t, ht⟩ := exists_pair hdport
  rw [hs, hd, hp, ht] at hsegment ⊢
  rw [hs, hd] at hheader
  generalize hr : ipHeader [a, b, c, d] [e, f, g, h] c₁ ++ rstSegment [p, q] [s, t]
    ((be (tcpField pkt 4 4) + 1 + payloadLen pkt) % 2 ^ 32) c₂ = r
  have hheaderLen : headerLen r = 20 := hr ▸ headerLen_ipHeader c₁ _
  have htotalLen : totalLen r = 40 := hr ▸ totalLen_ipHeader c₁ _
  have htcp : ∀ i n, tcpField r i n = field r (20 + i) n := by
    intro i n
    rw [tcpField, hheaderLen]
  subst hr
  exact {
    length := rfl
    version := rfl
    total := htotalLen
    unfragmented := show be [0x40, 0] &&& 0x3fff = 0 by decide
    protocol := rfl
    source := hs.symm
    destination := hd.symm
    sourcePort := by
      rw [htcp, hp]
      rfl
    destinationPort := by
      rw [htcp, ht]
      rfl
    sequence := by
      rw [htcp]
      show be [0, 0, 0, 0] = 0
      decide
    acknowledgement := by
      rw [htcp]
      exact (be_bytesBE 4 _).trans (Nat.mod_mod _ _)
    noOptions := by
      rw [dataOffset, hheaderLen]
      show ((0x50 : UInt8) >>> 4).toNat * 4 = 20
      decide
    flags := by
      rw [tcpFlags, hheaderLen]
      show 0x14 = tcpRST ||| tcpACK
      decide
    headerChecksum := hheader
    tcpChecksum := by
      rw [pseudoHeader, htotalLen, hheaderLen]
      exact hsegment }

end

/-! ## The packet read -/

/-- What `refuseSYN` checks of the bytes of a packet. -/
structure PlainSYN (pkt : List UInt8) : Prop where
  header : 20 ≤ pkt.length
  version : pkt.getD 0 0 >>> 4 = 4
  protocol : pkt.getD 9 0 = 6
  headerLen : 20 ≤ headerLen pkt
  total : totalLen pkt ≤ pkt.length
  room : Mesh.headerLen pkt + 20 ≤ totalLen pkt
  unfragmented : be (field pkt 6 2) &&& 0x3fff = 0
  offset : 20 ≤ dataOffset pkt
  fits : dataOffset pkt ≤ totalLen pkt - Mesh.headerLen pkt
  flags : tcpFlags pkt &&& (tcpSYN ||| tcpACK ||| tcpRST ||| tcpFIN) = tcpSYN

section

variable {pkt : List UInt8}

lemma getElem?_getD {i : Nat} (h : i < pkt.length) : pkt[i]? = some (pkt.getD i 0) := by
  rw [List.getD_eq_getElem?_getD, List.getElem?_eq_getElem h, Option.getD_some]

lemma uintBE_field (pkt : List UInt8) {i n : Nat} (h : i + n ≤ pkt.length) :
    uintBE n (field pkt i n) = some (be (field pkt i n)) := by
  have hlen := length_field h
  have hslice : slice (field pkt i n) 0 n = some (field pkt i n) := by
    rw [slice, if_pos ⟨Nat.zero_le n, hlen.ge⟩, List.drop_zero, Nat.sub_zero,
      List.take_of_length_le hlen.le]
  rw [uintBE, hslice, Option.map_some]

lemma slice_segment (htotal : totalLen pkt ≤ pkt.length)
    (hroom : headerLen pkt + 20 ≤ totalLen pkt) : slice pkt (headerLen pkt) (totalLen pkt) =
      some (field pkt (headerLen pkt) (totalLen pkt - headerLen pkt)) := by
  have hslice := slice_eq (b := pkt) (i := headerLen pkt) (n := totalLen pkt - headerLen pkt)
    (by omega)
  rwa [Nat.add_sub_cancel' (by omega)] at hslice

/-- The check never reads outside the packet, and accepts plain SYNs exactly. -/
lemma plainSYN_spec (pkt : List UInt8) :
    ∃ plain, plainSYN pkt = some plain ∧ (plain = true ↔ PlainSYN pkt) := by
  unfold plainSYN
  split
  · rename_i hshort
    exact ⟨false, rfl, by simp, fun h => absurd h.header (by omega)⟩
  rename_i hlong
  push Not at hlong
  have hfrag := uintBE_field pkt (i := 6) (n := 2) (by omega)
  have hlen := uintBE_field pkt (i := 2) (n := 2) (by omega)
  rw [getElem?_getD (by omega : 0 < pkt.length), getElem?_getD (by omega : 9 < pkt.length),
    slice_eq (i := 2) (n := 2) (by omega), slice_eq (i := 6) (n := 2) (by omega)]
  have hihl : (pkt.getD 0 0 &&& (0x0f : UInt8)).toNat * 4 = headerLen pkt := rfl
  have htotal : be (field pkt 2 2) = totalLen pkt := rfl
  simp only [Option.bind_eq_bind, Option.bind_some, hfrag, hlen, hihl, htotal]
  split
  · rename_i hproto
    refine ⟨false, rfl, by simp, fun h => ?_⟩
    rcases hproto with hversion | hprotocol
    · exact absurd h.version hversion
    · exact absurd h.protocol hprotocol
  · rename_i hproto
    push Not at hproto
    split
    · rename_i hlens
      refine ⟨false, rfl, by simp, fun h => ?_⟩
      have := h.headerLen
      have := h.total
      have := h.room
      omega
    · rename_i hlens
      push Not at hlens
      obtain ⟨hheader, hfit, hroom⟩ := hlens
      split
      · rename_i hfragment
        exact ⟨false, rfl, by simp, fun h => absurd h.unfragmented hfragment⟩
      · rename_i hfragment
        have hsegment := length_field (b := pkt) (i := headerLen pkt)
          (n := totalLen pkt - headerLen pkt) (by omega)
        have hoffset : (field pkt (headerLen pkt) (totalLen pkt - headerLen pkt))[12]? =
            some (pkt.getD (headerLen pkt + 12) 0) := by
          rw [getElem?_field (by omega), getElem?_getD (by omega)]
        have hflags : (field pkt (headerLen pkt) (totalLen pkt - headerLen pkt))[13]? =
            some (tcpFlags pkt) := by
          rw [getElem?_field (by omega), getElem?_getD (by omega), tcpFlags]
        have hdoff : (pkt.getD (headerLen pkt + 12) 0 >>> 4).toNat * 4 = dataOffset pkt := rfl
        rw [slice_segment hfit hroom, Option.bind_some, hoffset, hflags, Option.bind_some,
          Option.bind_some, hdoff, hsegment]
        refine ⟨_, rfl, ?_⟩
        rw [decide_eq_true_eq]
        push Not
        constructor
        · rintro ⟨h20, hle, hsyn⟩
          exact ⟨hlong, hproto.1, hproto.2, hheader, hfit, hroom, not_not.mp hfragment, h20,
            hle, hsyn⟩
        · intro h
          exact ⟨h.offset, h.fits, h.flags⟩

/-- `refuseSYN` reads nothing outside the packet, and refuses plain SYNs only. -/
lemma refuseSYN_spec (pkt : List UInt8) (node : Prefix) (allocated : Option (Addr → Bool)) :
    ∃ refused, refuseSYN pkt node allocated = some refused ∧ (refused = true → PlainSYN pkt) := by
  cases allocated with
  | none => exact ⟨false, rfl, by simp⟩
  | some allocated =>
    rw [refuseSYN]
    split
    · exact ⟨false, rfl, by simp⟩
    obtain ⟨plain, hplain, hiff⟩ := plainSYN_spec pkt
    rw [hplain]
    simp only [Option.bind_eq_bind, Option.bind_some]
    cases plain with
    | false => exact ⟨false, rfl, by simp⟩
    | true =>
      have hsyn := hiff.mp rfl
      have hlong := hsyn.header
      have hlast : (field pkt 16 4)[3]? = some (pkt.getD 19 0) := by
        rw [getElem?_field (by omega), getElem?_getD (by omega)]
      rw [slice_eq (i := 12) (n := 4) (by omega), slice_eq (i := 16) (n := 4) (by omega)]
      simp only [Bool.not_true, Bool.false_eq_true, if_false, Option.bind_some, hlast]
      split
      · exact ⟨false, rfl, by simp⟩
      · split
        · exact ⟨false, rfl, by simp⟩
        · exact ⟨_, rfl, fun _ => hsyn⟩

lemma tcpReset_eq (h : PlainSYN pkt) :
    tcpReset pkt = some (resetPacket (field pkt 16 4) (field pkt 12 4) (tcpField pkt 2 2)
      (tcpField pkt 0 2) ((be (tcpField pkt 4 4) + 1 + payloadLen pkt) % 2 ^ 32)) := by
  obtain ⟨hlong, -, -, hheader, hfit, hroom, -, h20, hle, -⟩ := h
  have hlen := uintBE_field pkt (i := 2) (n := 2) (by omega)
  have hseq := uintBE_field pkt (i := headerLen pkt + 4) (n := 4) (by omega)
  have hihl : (pkt.getD 0 0 &&& (0x0f : UInt8)).toNat * 4 = headerLen pkt := rfl
  have htotal : be (field pkt 2 2) = totalLen pkt := rfl
  have hsegment := length_field (b := pkt) (i := headerLen pkt)
    (n := totalLen pkt - headerLen pkt) (by omega)
  have hoffset : (field pkt (headerLen pkt) (totalLen pkt - headerLen pkt))[12]? =
      some (pkt.getD (headerLen pkt + 12) 0) := by
    rw [getElem?_field (by omega), getElem?_getD (by omega)]
  have hdoff : ((pkt.getD (headerLen pkt + 12) 0 >>> 4).toNat : Int) * 4 = dataOffset pkt := rfl
  have hpart : ∀ i n, i + n ≤ 20 →
      slice (field pkt (headerLen pkt) (totalLen pkt - headerLen pkt)) i (i + n) =
        some (tcpField pkt i n) := by
    intro i n hin
    rw [slice_eq (by omega), field_field (by omega), tcpField]
  have hpayload : (((totalLen pkt : Int) - headerLen pkt - dataOffset pkt) % 2 ^ 32).toNat =
      payloadLen pkt := by
    have hbytes := be_lt (field pkt 2 2)
    rw [length_field (by omega), htotal] at hbytes
    rw [payloadLen]
    omega
  unfold tcpReset
  rw [getElem?_getD (by omega : 0 < pkt.length), slice_eq (i := 2) (n := 2) (by omega),
    slice_eq (i := 12) (n := 4) (by omega), slice_eq (i := 16) (n := 4) (by omega)]
  simp only [Option.bind_eq_bind, Option.bind_some, hlen, hihl, htotal, slice_segment hfit hroom,
    hoffset, hpart 0 2 (by decide), hpart 2 2 (by decide), hpart 4 4 (by decide), hdoff, hpayload]
  rw [tcpField, hseq, Option.bind_some, Nat.add_assoc _ 1, Nat.add_comm 1]

/-- A refused SYN is answered: `tcpReset` returns a packet that resets it, with checksums that
verify, and that no node refuses in turn. -/
theorem refused_syn_reset (pkt : List UInt8) (node : Prefix) (allocated : Option (Addr → Bool))
    (h : refuseSYN pkt node allocated = some true) : ∃ r, tcpReset pkt = some r ∧ Resets pkt r ∧
      ∀ node' allocated', refuseSYN r node' allocated' = some false := by
  obtain ⟨refused, hrefused, himp⟩ := refuseSYN_spec pkt node allocated
  have hsyn : PlainSYN pkt := himp (Option.some.inj (hrefused.symm.trans h))
  have hheader := hsyn.headerLen
  have hfit := hsyn.total
  have hroom := hsyn.room
  have hresets := resets_resetPacket pkt (length_field (by omega))
    (length_field (by omega)) (length_field (by omega)) (length_field (by omega))
  refine ⟨_, tcpReset_eq hsyn, hresets, fun node' allocated' => ?_⟩
  obtain ⟨refused', hrefused', himp'⟩ := refuseSYN_spec _ node' allocated'
  rw [hrefused']
  cases refused' with
  | false => rfl
  | true =>
    -- a reset has the flags RST and ACK, so it is no SYN
    have hflags := (himp' rfl).flags
    rw [hresets.flags] at hflags
    revert hflags
    decide

end

def dialedSYN : List UInt8 :=
  [0x45, 0, 0, 44, 0, 0, 0x40, 0, 64, 6, 0, 0, 100, 64, 2, 5, 100, 64, 1, 9,
    0x9c, 0x40, 0x1f, 0x90, 0xff, 0xff, 0xff, 0xfe, 0, 0, 0, 0, 0x50, 0x02, 0xff, 0xff, 0, 0, 0, 0,
    1, 2, 3, 4]

theorem refused_syn_reset_dialed :
    refuseSYN dialedSYN (Prefix.v4 0x64400100#32 24) (some fun _ => false) = some true ∧
    ∃ r, tcpReset dialedSYN = some r ∧ Resets dialedSYN r ∧ be (tcpField r 8 4) = 3 := by
  have hrefused : refuseSYN dialedSYN (Prefix.v4 0x64400100#32 24) (some fun _ => false) =
      some true := by
    decide
  obtain ⟨r, hr, hresets, -⟩ := refused_syn_reset _ _ _ hrefused
  have hack : (be (tcpField dialedSYN 4 4) + 1 + payloadLen dialedSYN) % 2 ^ 32 = 3 := by decide
  exact ⟨hrefused, r, hr, hresets, hresets.acknowledgement.trans hack⟩

end DarwinNet.Mesh
