import DarwinNet.Lib.GoMap
import DarwinNet.Lib.Lines
import DarwinNet.Mesh.Keys
import Mathlib.Data.List.DropRight

/-!
Handshake times in the two modes (`handshake.go`, `handleMeshPeerStats` of `server.go`,
`MeshPeerStats` of `client.go`). In process the map is what `parseHandshakes` reads from
wireguard's text. In helper mode the daemon reads the same text, and the map crosses the socket
with its keys in base64 and its times as one 64-bit count of nanoseconds.

The text of the device is a list of characters, one for each byte; a Go map that is ranged over
is a list of its entries in any order.
-/

namespace DarwinNet.Mesh

open Lib

/-! ## Times -/

/-- `time.Time` in UTC: the Unix second and the nanosecond in it. -/
@[ext]
structure Time where
  sec : Int
  nsec : Int
  deriving DecidableEq, Repr

def nanosPerSecond : Int := 1000000000

def Time.nanos (t : Time) : Int := t.sec * nanosPerSecond + t.nsec

/-- `Time.UnixNano`: the sum is taken in `int64`. -/
def Time.unixNano (t : Time) : Int := t.nanos.bmod (2 ^ 64)

/-- `time.Unix`: a count of nanoseconds outside one second is carried. -/
def timeUnix (sec nsec : Int) : Time := ⟨sec + nsec / nanosPerSecond, nsec % nanosPerSecond⟩

lemma timeUnix_of_lt {nsec : Int} (hnonneg : 0 ≤ nsec) (hlt : nsec < nanosPerSecond)
    (sec : Int) : timeUnix sec nsec = ⟨sec, nsec⟩ := by
  rw [timeUnix, Int.ediv_eq_zero_of_lt hnonneg hlt, Int.emod_eq_of_lt hnonneg hlt, Int.add_zero]

lemma nanos_timeUnix (n : Int) : (timeUnix 0 n).nanos = n := by
  simp only [timeUnix, Time.nanos, nanosPerSecond]
  omega

/-! ## Reading wireguard's text -/

def maxUAPIGetBytes : Nat := 2 ^ 20

def defaultMaxPerConn : Nat := 253

def maxParsedPeers : Nat := defaultMaxPerConn

def parseDigits (l : List Char) : Option Nat :=
  if l ≠ [] ∧ l.all Char.isDigit then
    some (Netip.ofDigits 10 (l.map fun c => c.toNat - '0'.toNat))
  else none

/-- `strconv.ParseInt(v, 10, 64)`; `none` is an error, of the text or of the range. -/
def parseInt64 : List Char → Option Int
  | '-' :: l => (parseDigits l).bind fun n => if n ≤ 2 ^ 63 then some (-(n : Int)) else none
  | '+' :: l => (parseDigits l).bind fun n => if n < 2 ^ 63 then some (n : Int) else none
  | l => (parseDigits l).bind fun n => if n < 2 ^ 63 then some (n : Int) else none

structure Scan where
  out : GoMap (List Char) Time
  skipped : Nat
  key : List Char
  opened : Bool
  bad : Bool
  sec : Int
  nsec : Int

namespace Scan

def init : Scan := ⟨∅, 0, [], false, false, 0, 0⟩

/-- `flush`: the peer being read is kept or dropped, and none is open. -/
def flush (s : Scan) : Scan :=
  if s.opened = false then { init with out := s.out, skipped := s.skipped }
  else if s.bad then { init with out := s.out, skipped := s.skipped + 1 }
  else if s.sec = 0 ∧ s.nsec = 0 then { init with out := s.out, skipped := s.skipped }
  else if maxParsedPeers ≤ GoMap.size s.out then
    { init with out := s.out, skipped := s.skipped + 1 }
  else { init with out := s.out.insert s.key (timeUnix s.sec s.nsec), skipped := s.skipped }

def openPeer (s : Scan) (v : List Char) : Scan :=
  match decodeHex v with
  | none => { s with opened := true, bad := true }
  | some raw =>
    if raw.length ≠ wgKeyBytes then { s with opened := true, bad := true }
    else { s with opened := true, key := v.map Char.toLower }

/-- A number a line gives; after an error the peer is bad and its numbers are not read again. -/
def readNumber (v : List Char) (ok : Int → Bool) : Bool × Int :=
  match parseInt64 v with
  | none => (true, 0)
  | some n => (!ok n, n)

def line (s : Scan) (line : List Char) : Scan :=
  match cut '=' (line.rdropWhile fun c => c = '\r' ∨ c = '\n') with
  | none => s
  | some (k, v) =>
    if k = "public_key".toList then s.flush.openPeer v
    else if k = "last_handshake_time_sec".toList then
      let (bad, n) := readNumber v fun n => 0 ≤ n
      { s with bad := s.bad || bad, sec := n }
    else if k = "last_handshake_time_nsec".toList then
      let (bad, n) := readNumber v fun n => 0 ≤ n ∧ n < nanosPerSecond
      { s with bad := s.bad || bad, nsec := n }
    else s

end Scan

def parseHandshakes (uapi : List Char) : Except String (GoMap (List Char) Time × Nat) :=
  if maxUAPIGetBytes < uapi.length then
    .error ("wireguard UAPI get response is " ++ toString uapi.length ++
      " bytes, more than the " ++ toString maxUAPIGetBytes ++ " allowed")
  else
    let s := ((scanLines uapi).foldl Scan.line Scan.init).flush
    .ok (s.out, s.skipped)

/-! ## The two modes -/

/-- `WGDevice.PeerHandshakes`; the device is up and `ipcGet` is what wireguard answers. -/
def wgPeerHandshakes (ipcGet : Except String (List Char)) :
    Except String (GoMap (List Char) Time) :=
  match ipcGet with
  | .error err => .error ("read wireguard peers: " ++ err)
  | .ok uapi => (parseHandshakes uapi).map Prod.fst

structure MeshPeerStat where
  pubKey : String
  lastHandshakeUnixNano : Int
  deriving DecidableEq, Repr

/-- The body of the loop of `handleMeshPeerStats`. -/
def meshPeerStat? (e : Σ _ : List Char, Time) : Option MeshPeerStat :=
  match decodeHex e.1 with
  | none => none
  | some raw =>
    if e.2.unixNano ≤ 0 then none else some ⟨encodeBase64 raw, e.2.unixNano⟩

/-- `handleMeshPeerStats`; `seen` is the device's map as it is ranged over. -/
def handleMeshPeerStats (seen : Except String (List (Σ _ : List Char, Time))) :
    Except String (List MeshPeerStat) :=
  match seen with
  | .error err => .error ("meshPeerStats: " ++ err)
  | .ok seen =>
    let stats := seen.filterMap meshPeerStat?
    .ok ((stats.insertionSort fun a b => a.pubKey ≤ b.pubKey).take defaultMaxPerConn)

def clientMeshPeerStats (reply : Except String (List MeshPeerStat)) :
    Except String (List MeshPeerStat) :=
  match reply with
  | .error err => .error ("netd MeshPeerStats rejected: " ++ err)
  | .ok stats =>
    if defaultMaxPerConn < stats.length then
      .error ("netd MeshPeerStats: reply lists " ++ toString stats.length ++
        " peers, more than the " ++ toString defaultMaxPerConn ++ " allowed")
    else .ok (stats.filter fun st => st.pubKey ≠ "" ∧ 0 < st.lastHandshakeUnixNano)

/-- The body of the loop of `netdDevice.PeerHandshakes`. -/
def handshakeWrite? (st : MeshPeerStat) : Option (List Char × Time) :=
  match decodeBase64 st.pubKey with
  | none => none
  | some raw =>
    if raw.length ≠ wgKeyBytes then none
    else some (hexDigits raw, timeUnix 0 st.lastHandshakeUnixNano)

def netdPeerHandshakes (stats : Except String (List MeshPeerStat)) :
    Except String (GoMap (List Char) Time) :=
  match stats with
  | .error err => .error err
  | .ok stats => .ok (GoMap.insertAll ∅ (stats.filterMap handshakeWrite?))

def helperHandshakes (seen : Except String (List (Σ _ : List Char, Time))) :
    Except String (GoMap (List Char) Time) :=
  netdPeerHandshakes (clientMeshPeerStats (handleMeshPeerStats seen))

/-! ## What is read -/

/-- A key of the map: the digits of the bytes of a wireguard key. -/
def IsKeyText (k : List Char) : Prop :=
  ∃ raw : List Nat, raw.length = wgKeyBytes ∧ (∀ b ∈ raw, b < 256) ∧ k = hexDigits raw

/-- A peer as `parseHandshakes` reports it: after the epoch, its nanoseconds within a second. -/
structure Reported (k : List Char) (t : Time) : Prop where
  key : IsKeyText k
  sec : 0 ≤ t.sec
  nsec : 0 ≤ t.nsec ∧ t.nsec < nanosPerSecond
  after : 0 < t.nanos

/-- What the scanner has stored so far was reported, and the block it reads is within bounds. -/
structure Scan.Valid (s : Scan) : Prop where
  size : GoMap.size s.out ≤ maxParsedPeers
  out : ∀ k t, s.out.lookup k = some t → Reported k t
  key : s.opened = true → s.bad = false → IsKeyText s.key
  sec : s.bad = false → 0 ≤ s.sec
  nsec : s.bad = false → 0 ≤ s.nsec ∧ s.nsec < nanosPerSecond

namespace Scan

variable {s : Scan}

lemma valid_init : init.Valid where
  size := Nat.zero_le _
  out := by
    intro k t h
    cases h
  key := by
    intro h
    cases h
  sec := fun _ => Int.le_refl 0
  nsec := fun _ => ⟨Int.le_refl 0, by decide⟩

lemma valid_closed {out : GoMap (List Char) Time} (skipped : Nat)
    (hsize : GoMap.size out ≤ maxParsedPeers) (hout : ∀ k t, out.lookup k = some t → Reported k t) :
    ({ init with out := out, skipped := skipped } : Scan).Valid :=
  { valid_init with size := hsize, out := hout }

lemma size_insert_le (m : GoMap (List Char) Time) (k : List Char) (t : Time) :
    GoMap.size (m.insert k t) ≤ GoMap.size m + 1 := by
  have hentries : GoMap.size (m.insert k t) = GoMap.size (m.erase k) + 1 := rfl
  have herase := GoMap.size_erase_le m k
  omega

lemma Valid.flush (h : s.Valid) : s.flush.Valid := by
  rw [Scan.flush]
  split
  · exact valid_closed _ h.size h.out
  split
  · exact valid_closed _ h.size h.out
  split
  · exact valid_closed _ h.size h.out
  split
  · exact valid_closed _ h.size h.out
  rename_i hopened hbad hzero hroom
  have hgood : s.bad = false := by simpa using hbad
  have hopen : s.opened = true := by simpa using hopened
  have hsec := h.sec hgood
  obtain ⟨hnsec, hlt⟩ := h.nsec hgood
  refine valid_closed _ ?_ ?_
  · have := size_insert_le s.out s.key (timeUnix s.sec s.nsec)
    omega
  intro k t hk
  rw [GoMap.lookup_insert_ite] at hk
  split at hk
  · rename_i heq
    cases hk
    rw [heq, timeUnix_of_lt hnsec hlt]
    refine ⟨h.key hopen hgood, hsec, ⟨hnsec, hlt⟩, ?_⟩
    -- a peer with both numbers zero was left out above
    simp only [Time.nanos, nanosPerSecond]
    omega
  · exact h.out k t hk

lemma Valid.openPeer (h : s.Valid) (v : List Char) : (s.openPeer v).Valid := by
  rw [Scan.openPeer]
  split
  · exact { h with key := by simp, sec := by simp, nsec := by simp }
  rename_i raw hraw
  split
  · exact { h with key := by simp, sec := by simp, nsec := by simp }
  · rename_i hlen
    refine { h with key := fun _ _ => ⟨raw, not_not.mp hlen, decodeHex_lt hraw, ?_⟩ }
    exact (hexDigits_decodeHex hraw).symm

lemma readNumber_good {v : List Char} {ok : Int → Bool} (h : (readNumber v ok).1 = false) :
    ok (readNumber v ok).2 = true := by
  rw [readNumber] at h ⊢
  split at h
  · cases h
  · simpa using h

lemma Valid.line (h : s.Valid) (l : List Char) : (s.line l).Valid := by
  rw [Scan.line]
  split
  · exact h
  rename_i k v _
  split
  · exact h.flush.openPeer v
  split
  · refine { h with key := ?_, sec := ?_, nsec := ?_ }
    · intro hopen hbad
      exact h.key hopen (Bool.or_eq_false_iff.mp hbad).1
    · intro hbad
      simpa using readNumber_good (Bool.or_eq_false_iff.mp hbad).2
    · intro hbad
      exact h.nsec (Bool.or_eq_false_iff.mp hbad).1
  split
  · refine { h with key := ?_, sec := ?_, nsec := ?_ }
    · intro hopen hbad
      exact h.key hopen (Bool.or_eq_false_iff.mp hbad).1
    · intro hbad
      exact h.sec (Bool.or_eq_false_iff.mp hbad).1
    · intro hbad
      simpa using readNumber_good (Bool.or_eq_false_iff.mp hbad).2
  · exact h

lemma Valid.lines (h : s.Valid) (ls : List (List Char)) : (ls.foldl Scan.line s).Valid := by
  induction ls generalizing s with
  | nil => exact h
  | cons l ls ih => exact ih (h.line l)

end Scan

lemma parseHandshakes_ok {uapi : List Char} (h : uapi.length ≤ maxUAPIGetBytes) :
    ∃ m skipped, parseHandshakes uapi = .ok (m, skipped) ∧ GoMap.size m ≤ maxParsedPeers ∧
      ∀ k t, m.lookup k = some t → Reported k t := by
  have hvalid := (Scan.valid_init.lines (scanLines uapi)).flush
  exact ⟨_, _, if_neg (Nat.not_lt.mpr h), hvalid.size, hvalid.out⟩

/-! ## What the helper path makes of it -/

section Helper

variable {m : GoMap (List Char) Time} {seen : List (Σ _ : List Char, Time)}

lemma entries_of_stats (hkeys : ∀ e ∈ seen, IsKeyText e.1) :
    (seen.filterMap meshPeerStat?).filterMap handshakeWrite? =
      (seen.filter fun e => 0 < e.2.unixNano).map fun e => (e.1, timeUnix 0 e.2.unixNano) := by
  induction seen with
  | nil => rfl
  | cons e seen ih =>
    obtain ⟨raw, hlen, hbytes, hkey⟩ := hkeys e List.mem_cons_self
    have hrest := ih fun e' he' => hkeys e' (List.mem_cons_of_mem e he')
    have hdecode : decodeHex e.1 = some raw := by rw [hkey, decodeHex_hexDigits hbytes]
    by_cases hpos : 0 < e.2.unixNano
    · have hstat : meshPeerStat? e = some ⟨encodeBase64 raw, e.2.unixNano⟩ := by
        simp only [meshPeerStat?, hdecode, if_neg (Int.not_le.mpr hpos)]
      have hentry : handshakeWrite? ⟨encodeBase64 raw, e.2.unixNano⟩ =
          some (e.1, timeUnix 0 e.2.unixNano) := by
        simp only [handshakeWrite?, decodeBase64_encodeBase64 hbytes, hlen, ne_eq,
          not_true_eq_false, if_false, hkey]
      rw [List.filterMap_cons_some hstat, List.filterMap_cons_some hentry, hrest,
        List.filter_cons_of_pos (by simpa using hpos), List.map_cons]
    · have hstat : meshPeerStat? e = none := by
        simp only [meshPeerStat?, hdecode, if_pos (Int.not_lt.mp hpos)]
      rw [List.filterMap_cons_none hstat, hrest, List.filter_cons_of_neg (by simpa using hpos)]

lemma pubKey_of_stat {e : Σ _ : List Char, Time} {st : MeshPeerStat} (hk : IsKeyText e.1)
    (h : meshPeerStat? e = some st) : st.pubKey ≠ "" ∧ 0 < st.lastHandshakeUnixNano := by
  obtain ⟨raw, hlen, hbytes, hkey⟩ := hk
  rw [meshPeerStat?, hkey, decodeHex_hexDigits hbytes] at h
  dsimp only at h
  split_ifs at h with hpos
  cases h
  refine ⟨?_, Int.not_le.mp hpos⟩
  intro hempty
  -- the empty text decodes to no bytes
  have hdecode := decodeBase64_encodeBase64 hbytes
  rw [show encodeBase64 raw = "" from hempty] at hdecode
  cases hdecode
  cases hlen

lemma helperHandshakes_eq (hsize : seen.length ≤ defaultMaxPerConn)
    (hkeys : ∀ e ∈ seen, IsKeyText e.1) :
    ∃ writes, helperHandshakes (.ok seen) = .ok (GoMap.insertAll ∅ writes) ∧
      writes.Perm ((seen.filter fun e => 0 < e.2.unixNano).map
        fun e => (e.1, timeUnix 0 e.2.unixNano)) := by
  let sorted := (seen.filterMap meshPeerStat?).insertionSort fun a b => a.pubKey ≤ b.pubKey
  have hsorted : sorted.Perm (seen.filterMap meshPeerStat?) := List.perm_insertionSort _ _
  have hlen : sorted.length ≤ defaultMaxPerConn := by
    rw [hsorted.length_eq]
    exact (List.length_filterMap_le _ _).trans hsize
  have hreply : handleMeshPeerStats (.ok seen) = .ok sorted :=
    congrArg Except.ok (List.take_of_length_le hlen)
  have hkept : sorted.filter (fun st => st.pubKey ≠ "" ∧ 0 < st.lastHandshakeUnixNano) =
      sorted := by
    rw [List.filter_eq_self]
    intro st hst
    obtain ⟨e, he, hstat⟩ := List.mem_filterMap.mp (hsorted.mem_iff.mp hst)
    exact decide_eq_true (pubKey_of_stat (hkeys e he) hstat)
  have hclient : clientMeshPeerStats (.ok sorted) = .ok sorted := by
    rw [clientMeshPeerStats]
    simp only [if_neg (Nat.not_lt.mpr hlen), hkept]
  refine ⟨sorted.filterMap handshakeWrite?, ?_, ?_⟩
  · rw [helperHandshakes, hreply, hclient, netdPeerHandshakes]
  · rw [← entries_of_stats hkeys]
    exact hsorted.filterMap _

lemma lookup_helperHandshakes (hsize : GoMap.size m ≤ maxParsedPeers)
    (hkeys : ∀ k t, m.lookup k = some t → IsKeyText k) (hperm : seen.Perm m.entries) :
    ∃ m', helperHandshakes (.ok seen) = .ok m' ∧ ∀ k t', m'.lookup k = some t' ↔
        ∃ t, m.lookup k = some t ∧ 0 < t.unixNano ∧ t' = timeUnix 0 t.unixNano := by
  have hsize' : seen.length ≤ defaultMaxPerConn := by
    rw [hperm.length_eq]
    exact hsize
  have hkeys' : ∀ e ∈ seen, IsKeyText e.1 := by
    intro e he
    exact hkeys e.1 e.2 (GoMap.lookup_of_mem_entries (hperm.mem_iff.mp he))
  obtain ⟨writes, hmap, hwrites⟩ := helperHandshakes_eq hsize' hkeys'
  have hnodup : (writes.map Prod.fst).Nodup := by
    rw [(hwrites.map Prod.fst).nodup_iff, List.map_map]
    have hkeysNodup : (seen.map Sigma.fst).Nodup := (hperm.map Sigma.fst).nodup_iff.mpr m.nodupKeys
    exact hkeysNodup.sublist (List.filter_sublist.map Sigma.fst)
  refine ⟨_, hmap, fun k t' => ?_⟩
  rw [GoMap.lookup_insertAll, AList.lookup_empty, Option.or_none,
    GoMap.lastWrite_eq_some_iff hnodup, hwrites.mem_iff, List.mem_map]
  constructor
  · rintro ⟨e, he, heq⟩
    obtain ⟨hmem, hpos⟩ := List.mem_filter.mp he
    cases heq
    exact ⟨e.2, GoMap.lookup_of_mem_entries (hperm.mem_iff.mp hmem), of_decide_eq_true hpos, rfl⟩
  · rintro ⟨t, ht, hpos, rfl⟩
    have hmem : (⟨k, t⟩ : Σ _ : List Char, Time) ∈ seen :=
      hperm.mem_iff.mpr (GoMap.mem_entries_of_lookup ht)
    exact ⟨⟨k, t⟩, List.mem_filter.mpr ⟨hmem, decide_eq_true hpos⟩, rfl⟩

/-- A time survives its count of nanoseconds while that fits in 63 bits. -/
lemma timeUnix_unixNano_iff {k : List Char} {t : Time} (h : Reported k t) :
    0 < t.unixNano ∧ t = timeUnix 0 t.unixNano ↔ t.nanos < 2 ^ 63 := by
  constructor
  · rintro ⟨-, heq⟩
    have hnanos : t.nanos = t.unixNano := by
      conv_lhs => rw [heq]
      exact nanos_timeUnix _
    have hwrap : t.unixNano < (2 ^ 64 + 1) / 2 := Int.bmod_lt (by decide)
    omega
  · intro hlt
    have hafter := h.after
    have hcount : t.unixNano = t.nanos := by
      rw [Time.unixNano, Int.bmod_eq_of_le (by omega) (by omega)]
    refine ⟨by omega, ?_⟩
    obtain ⟨hnonneg, hsecond⟩ := h.nsec
    rw [hcount]
    ext
    · simp only [timeUnix, Time.nanos, nanosPerSecond] at *
      omega
    · simp only [timeUnix, Time.nanos, nanosPerSecond] at *
      omega

end Helper

/-- Both modes read the same map exactly where every time the device reports fits a 64-bit count
of nanoseconds, which the last one does on 11 April 2262. A later time is another time on the
helper path, or none. -/
theorem handshakes_same_in_both_modes (uapi : List Char) (hlen : uapi.length ≤ maxUAPIGetBytes) :
    ∃ m, wgPeerHandshakes (.ok uapi) = .ok m ∧ ∀ seen, seen.Perm m.entries →
      ∃ m', helperHandshakes (.ok seen) = .ok m' ∧
        ((∀ k, m'.lookup k = m.lookup k) ↔ ∀ k t, m.lookup k = some t → t.nanos < 2 ^ 63) := by
  obtain ⟨m, skipped, hparse, hsize, hreported⟩ := parseHandshakes_ok hlen
  refine ⟨m, by rw [wgPeerHandshakes, hparse]; rfl, fun seen hperm => ?_⟩
  obtain ⟨m', hm', hlookup⟩ :=
    lookup_helperHandshakes hsize (fun k t h => (hreported k t h).key) hperm
  refine ⟨m', hm', ?_, ?_⟩
  · intro hsame k t ht
    obtain ⟨t₀, ht₀, hpos, heq⟩ := (hlookup k t).mp ((hsame k).trans ht)
    cases ht.symm.trans ht₀
    exact (timeUnix_unixNano_iff (hreported k t ht)).mp ⟨hpos, heq⟩
  · intro hfits k
    refine Option.ext fun t' => ?_
    rw [hlookup]
    constructor
    · rintro ⟨t, ht, -, rfl⟩
      obtain ⟨-, heq⟩ := (timeUnix_unixNano_iff (hreported k t ht)).mpr (hfits k t ht)
      rw [← heq]
      exact ht
    · intro ht
      obtain ⟨hpos, heq⟩ := (timeUnix_unixNano_iff (hreported k t' ht)).mpr (hfits k t' ht)
      exact ⟨t', ht, hpos, heq⟩

def onePeerText (sec : String) : List Char :=
  unlines ["public_key=4242424242424242424242424242424242424242424242424242424242424242".toList,
    "last_handshake_time_sec=".toList ++ sec.toList, "last_handshake_time_nsec=7".toList]

def onePeerKey : List Char := hexDigits (List.replicate 32 0x42)

lemma ok_of_entries {r : Except String (GoMap (List Char) Time)}
    {e : List (Σ _ : List Char, Time)} (h : r.toOption.map AList.entries = some e) :
    ∃ m, r = .ok m ∧ m.entries = e := by
  cases r with
  | error err => cases h
  | ok m => exact ⟨m, rfl, Option.some.inj h⟩

theorem handshakes_same_in_both_modes_today : (onePeerText "1700000000").length ≤ maxUAPIGetBytes ∧
      ∃ m, wgPeerHandshakes (.ok (onePeerText "1700000000")) = .ok m ∧
        m.entries = [⟨onePeerKey, ⟨1700000000, 7⟩⟩] ∧
        ∃ m', helperHandshakes (.ok m.entries) = .ok m' ∧ ∀ k, m'.lookup k = m.lookup k := by
  have hlen : (onePeerText "1700000000").length ≤ maxUAPIGetBytes := by decide +kernel
  obtain ⟨m, hm, hboth⟩ := handshakes_same_in_both_modes _ hlen
  obtain ⟨m₀, hm₀, hentries⟩ :=
    ok_of_entries (r := wgPeerHandshakes (.ok (onePeerText "1700000000")))
      (e := [⟨onePeerKey, ⟨1700000000, 7⟩⟩]) (by decide +kernel)
  cases hm.symm.trans hm₀
  obtain ⟨m', hm', hiff⟩ := hboth m.entries (List.Perm.refl _)
  refine ⟨hlen, m, hm, hentries, m', hm', hiff.mpr fun k t ht => ?_⟩
  have hmem := GoMap.mem_entries_of_lookup ht
  rw [hentries, List.mem_singleton] at hmem
  cases hmem
  decide

/-- A peer whose handshake is reported past the last 64-bit nanosecond is read in process and
missing on the helper path. -/
theorem late_handshake_dropped : (onePeerText "9223372037").length ≤ maxUAPIGetBytes ∧
      ∃ m, wgPeerHandshakes (.ok (onePeerText "9223372037")) = .ok m ∧
        m.entries = [⟨onePeerKey, ⟨9223372037, 7⟩⟩] ∧
        helperHandshakes (.ok m.entries) = .ok ∅ := by
  obtain ⟨m, hm, hentries⟩ :=
    ok_of_entries (r := wgPeerHandshakes (.ok (onePeerText "9223372037")))
      (e := [⟨onePeerKey, ⟨9223372037, 7⟩⟩]) (by decide +kernel)
  obtain ⟨m', hm', hempty⟩ :=
    ok_of_entries (r := helperHandshakes (.ok [⟨onePeerKey, ⟨9223372037, 7⟩⟩]))
      (e := []) (by decide +kernel)
  refine ⟨by decide +kernel, m, hm, hentries, ?_⟩
  rw [hentries, hm', AList.ext (t := ∅) hempty]

end DarwinNet.Mesh
