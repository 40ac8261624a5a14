import Mathlib.Data.BitVec
import Mathlib.Data.Prod.Lex
import Mathlib.Data.String.Basic

/-!
The part of the standard library's `net/netip` the program uses: addresses,
address-port pairs and prefixes, their textual forms and their order. An
address is the zero `Addr` (invalid), an IPv4 address, or an IPv6 address with
an optional zone (the empty string is no zone).

`parseAddr` follows the scanner of `ParseAddr` character by character, with
`none` for every error; `Addr.string` follows `Addr.String`.
-/

namespace DarwinNet.Netip

inductive Addr
  | zero
  | v4 (a : BitVec 32)
  | v6 (a : BitVec 128) (zone : String)
  deriving DecidableEq, Repr

namespace Addr

def isValid : Addr → Bool
  | zero => false
  | _ => true

def bitLen : Addr → Nat
  | zero => 0
  | v4 _ => 32
  | v6 _ _ => 128

def hasZone : Addr → Bool
  | v6 _ zone => zone != ""
  | _ => false

def is4In6 : Addr → Bool
  | v6 a _ => a >>> 32 == 0xffff#128
  | _ => false

/-- The IPv4 address of an IPv4-mapped one (its zone is dropped), any other
address unchanged. -/
def unmap : Addr → Addr
  | v6 a zone => if is4In6 (v6 a zone) then v4 (a.setWidth 32) else v6 a zone
  | a => a

def isLoopback (a : Addr) : Bool :=
  match a.unmap with
  | v4 b => b >>> 24 == 127#32
  | v6 b _ => b == 1#128
  | zero => false

def compare (a b : Addr) : Ordering :=
  match a, b with
  | v4 x, v4 y => Ord.compare x.toNat y.toNat
  | v6 x z, v6 y w => (Ord.compare x.toNat y.toNat).then (Ord.compare z w)
  | a, b => Ord.compare a.bitLen b.bitLen

def less (a b : Addr) : Bool := a.compare b == .lt

/-- What `compare` orders by: the width, the number, the zone. -/
def rank : Addr → Nat ×ₗ Nat ×ₗ String
  | zero => toLex (0, toLex (0, ""))
  | v4 a => toLex (32, toLex (a.toNat, ""))
  | v6 a zone => toLex (128, toLex (a.toNat, zone))

/-- `Less` is the order of ranks. -/
lemma less_iff (a b : Addr) : a.less b = true ↔ a.rank < b.rank := by
  have hzone : ∀ z w : String, Ord.compare z w = .lt ↔ z < w := fun _ _ => compare_lt_iff_lt
  cases a <;> cases b <;> simp [less, compare, rank, bitLen, Prod.Lex.toLex_lt_toLex,
    Ordering.then_eq_lt, compare_lt_iff_lt, hzone]

lemma rank_injective : Function.Injective rank := by
  intro a b h
  cases a <;> cases b <;> simp_all [rank, BitVec.toNat_inj]

end Addr

/-- The loop of `parseIPv4Fields`: `val` and `digLen` belong to the octet being
read, `fields` are the finished octets. -/
def parseIPv4Loop (val digLen : Nat) (fields : List Nat) : List Char → Option (List Nat)
  | [] => if fields.length < 3 then none else some (fields ++ [val])
  | c :: cs =>
    if '0' ≤ c ∧ c ≤ '9' then
      if digLen = 1 ∧ val = 0 then none  -- an octet with a leading zero
      else if val * 10 + (c.toNat - '0'.toNat) > 255 then none
      else parseIPv4Loop (val * 10 + (c.toNat - '0'.toNat)) (digLen + 1) fields cs
    else if c = '.' then
      -- an empty octet, a trailing dot, a fifth octet
      if digLen = 0 ∨ cs = [] ∨ fields.length = 3 then none
      else parseIPv4Loop 0 0 (fields ++ [val]) cs
    else none

def parseIPv4Fields (s : List Char) : Option (List Nat) := parseIPv4Loop 0 0 [] s

def ofDigits (b : Nat) (l : List Nat) : Nat := l.foldl (fun n d => n * b + d) 0

def parseIPv4 (s : List Char) : Option Addr :=
  (parseIPv4Fields s).map fun f => .v4 (BitVec.ofNat 32 (ofDigits 256 f))

def hexDigit? (c : Char) : Option Nat :=
  if '0' ≤ c ∧ c ≤ '9' then some (c.toNat - '0'.toNat)
  else if 'a' ≤ c ∧ c ≤ 'f' then some (c.toNat - 'a'.toNat + 10)
  else if 'A' ≤ c ∧ c ≤ 'F' then some (c.toNat - 'A'.toNat + 10)
  else none

/-- One hexadecimal group: its value, its number of digits and the rest; `none`
for a fifth digit. -/
def parseHex (acc off : Nat) : List Char → Option (Nat × Nat × List Char)
  | [] => some (acc, off, [])
  | c :: cs =>
    match hexDigit? c with
    | none => some (acc, off, c :: cs)
    | some d => if off > 3 then none else parseHex (acc * 16 + d) (off + 1) cs

/-- The group loop of `parseIPv6`, for at most `n` further groups; `ellipsis` is
the number of groups before the `::`. -/
def parseIPv6Loop (groups : List Nat) (ellipsis : Option Nat) :
    Nat → List Char → Option (List Nat × Option Nat × List Char)
  | 0, s => some (groups, ellipsis, s)
  | n + 1, s =>
    match parseHex 0 0 s with
    | none => none
    | some (_, 0, _) => none  -- a field without a digit
    | some (_, _ + 1, '.' :: _) =>
      -- a trailing embedded IPv4 address takes the place of two groups
      if ellipsis = none ∧ groups.length ≠ 6 then none
      else if groups.length + 2 > 8 then none
      else (parseIPv4Fields s).map fun f =>
        (groups ++ [ofDigits 256 (f.take 2), ofDigits 256 (f.drop 2)], ellipsis, [])
    | some (acc, _ + 1, []) => some (groups ++ [acc], ellipsis, [])
    | some (_, _ + 1, [':']) => none
    | some (acc, _ + 1, ':' :: ':' :: s') =>
      if ellipsis ≠ none then none
      else if s' = [] then some (groups ++ [acc], some (groups.length + 1), [])
      else parseIPv6Loop (groups ++ [acc]) (some (groups.length + 1)) n s'
    | some (acc, _ + 1, ':' :: s') => parseIPv6Loop (groups ++ [acc]) ellipsis n s'
    | some (_, _ + 1, _ :: _) => none

def parseIPv6Groups (s : List Char) : Option (List Nat) :=
  let parsed := match s with
    | [':', ':'] => some ([], some 0, [])
    | ':' :: ':' :: s' => parseIPv6Loop [] (some 0) 8 s'
    | s => parseIPv6Loop [] none 8 s
  match parsed with
  | some (groups, some e, []) =>
    if groups.length < 8 then
      some (groups.take e ++ List.replicate (8 - groups.length) 0 ++ groups.drop e)
    else none  -- the `::` must stand for at least one group
  | some (groups, none, []) => if groups.length < 8 then none else some groups
  | _ => none

def parseIPv6 (s : List Char) : Option Addr :=
  let zone := s.dropWhile (· ≠ '%')
  if zone = ['%'] then none
  else (parseIPv6Groups (s.takeWhile (· ≠ '%'))).map fun g =>
    .v6 (BitVec.ofNat 128 (ofDigits 65536 g)) (String.ofList (zone.drop 1))

/-- `netip.ParseAddr`: the first of `.`, `:` and `%` decides the family. -/
def parseAddr (s : String) : Option Addr :=
  match s.toList.find? fun c => c = '.' ∨ c = ':' ∨ c = '%' with
  | some '.' => parseIPv4 s.toList
  | some ':' => parseIPv6 s.toList
  | _ => none

example : parseAddr "10.43.0.1" = some (.v4 0x0a2b0001#32) := by decide
example : parseAddr "10.43.00.1" = none := by decide
example : parseAddr "::ffff:1.2.3.4" = some (.v6 0xffff01020304#128 "") := by decide
example : parseAddr "fe80::1%lo0" =
    some (.v6 0xfe800000000000000000000000000001#128 "lo0") := by decide

def string4 (a : BitVec 32) : String :=
  ".".intercalate ((List.range 4).map fun i => toString ((a >>> (8 * (3 - i))).toNat % 256))

def hexString (n : Nat) : String := String.ofList (Nat.toDigits 16 n)

def groups6 (a : BitVec 128) : List Nat :=
  (List.range 8).map fun i => (a >>> (16 * (7 - i))).toNat % 65536

/-- The leftmost longest run of at least two zero groups, as start and length. -/
def zeroRun (g : List Nat) : Option (Nat × Nat) :=
  (List.range g.length).foldl (fun best i =>
    let l := ((g.drop i).takeWhile (· = 0)).length
    if 2 ≤ l ∧ (best.map Prod.snd).getD 0 < l then some (i, l) else best) none

def string6 (a : BitVec 128) : String :=
  let hex := (groups6 a).map hexString
  match zeroRun (groups6 a) with
  | none => ":".intercalate hex
  | some (i, l) => ":".intercalate (hex.take i) ++ "::" ++ ":".intercalate (hex.drop (i + l))

def Addr.string : Addr → String
  | .zero => "invalid IP"
  | .v4 a => string4 a
  | .v6 a zone =>
    (if (Addr.v6 a zone).is4In6 then "::ffff:" ++ string4 (a.setWidth 32) else string6 a) ++
      (if zone = "" then "" else "%" ++ zone)

instance instLinearOrderPort : LinearOrder UInt16 where
  le_refl := UInt16.le_refl
  le_trans _ _ _ := UInt16.le_trans
  le_antisymm _ _ := UInt16.le_antisymm
  le_total := UInt16.le_total
  lt_iff_le_not_ge a b := by simp only [UInt16.lt_iff_toNat_lt, UInt16.le_iff_toNat_le]; omega
  toDecidableLE := inferInstance

structure AddrPort where
  addr : Addr
  port : UInt16
  deriving DecidableEq, Repr

/-- `AddrPort.String`; an IPv6 address stands in brackets. -/
def AddrPort.string (ap : AddrPort) : String :=
  match ap.addr with
  | .zero => "invalid AddrPort"
  | .v4 a => string4 a ++ ":" ++ toString ap.port.toNat
  | .v6 a zone => "[" ++ (Addr.v6 a zone).string ++ "]:" ++ toString ap.port.toNat

example : AddrPort.string ⟨.v4 0x64400002#32, 8080⟩ = "100.64.0.2:8080" := by decide
example : (Addr.v6 0xfe800000000000000000000000000001#128 "lo0").string = "fe80::1%lo0" := by
  decide

/-! ## Prefixes -/

/-- `netip.Prefix`: an address without zone and one more than the prefix
length; the zero value is invalid. -/
structure Prefix where
  ip : Addr
  bitsPlusOne : Nat
  deriving DecidableEq, Repr

namespace Prefix

def zero : Prefix := ⟨.zero, 0⟩

def isValid (p : Prefix) : Bool := 0 < p.bitsPlusOne

def bits (p : Prefix) : Nat := p.bitsPlusOne - 1

/-- `Prefix.Contains`: same family, no zone, and the leading `bits` agree. -/
def contains (p : Prefix) (a : Addr) : Bool :=
  if !p.isValid || a.hasZone then false
  else match p.ip, a with
    | .v4 x, .v4 y => (x ^^^ y) >>> (32 - p.bits) == 0#32
    | .v6 x _, .v6 y _ => (x ^^^ y) >>> (128 - p.bits) == 0#128
    | _, _ => false

end Prefix

example : Prefix.contains ⟨.v4 0xc0a84000#32, 25⟩ (.v4 0xc0a84005#32) = true := by decide

end DarwinNet.Netip
