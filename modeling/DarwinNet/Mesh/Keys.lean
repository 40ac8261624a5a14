import DarwinNet.Mesh.Plan

/-!
The texts of wireguard keys on the helper path: hexadecimal in the plan and in wireguard's own
texts, base64 on the wire. Both decoders undo their encoders (`decodeHex_hexDigits`,
`decodeBase64_encodeBase64`), so a key sent through `hexToBase64` is read back by `wgKeyHex` as
the same key (`wgKeyHex_hexToBase64`).
-/

namespace DarwinNet.Mesh

/-! ## Hexadecimal -/

def hexTable : List (Char × Nat) :=
  "0123456789abcdef".toList.zipIdx ++ "ABCDEF".toList.zipIdx 10

def hexValue? (c : Char) : Option Nat := hexTable.lookup c

def decodeHex : List Char → Option (List Nat)
  | [] => some []
  | [_] => none
  | a :: b :: rest => do
    let a ← hexValue? a
    let b ← hexValue? b
    let bytes ← decodeHex rest
    some ((a * 16 + b) :: bytes)

lemma hexValue?_digitChar : ∀ n < 16, hexValue? n.digitChar = some n := by decide

lemma hexValue?_some {c : Char} {n : Nat} (h : hexValue? c = some n) :
    n < 16 ∧ n.digitChar = c.toLower := by
  have htable : ∀ e ∈ hexTable, e.2 < 16 ∧ e.2.digitChar = e.1.toLower := by decide
  obtain ⟨before, after, heq, -⟩ := List.lookup_eq_some_iff.mp h
  exact htable (c, n) (by rw [heq]; simp)

lemma hexDigits_cons (b : Nat) (bytes : List Nat) :
    hexDigits (b :: bytes) = (b / 16 % 16).digitChar :: (b % 16).digitChar :: hexDigits bytes :=
  rfl

variable {raw bytes : List Nat} {digits : List Char}

lemma decodeHex_cons {a b : Char} {rest : List Char} (h : decodeHex (a :: b :: rest) = some raw) :
    ∃ x y bytes, hexValue? a = some x ∧ hexValue? b = some y ∧ decodeHex rest = some bytes ∧
      raw = (x * 16 + y) :: bytes := by
  simp only [decodeHex, Option.bind_eq_bind, Option.bind_eq_some_iff, Option.some.injEq] at h
  obtain ⟨x, hx, y, hy, bytes, hbytes, rfl⟩ := h
  exact ⟨x, y, bytes, hx, hy, hbytes, rfl⟩

lemma decodeHex_hexDigits (hbytes : ∀ b ∈ bytes, b < 256) :
    decodeHex (hexDigits bytes) = some bytes := by
  induction bytes with
  | nil => rfl
  | cons b bytes ih =>
    have hb : b < 256 := hbytes b List.mem_cons_self
    have hhigh : hexValue? (b / 16 % 16).digitChar = some (b / 16) := by
      rw [Nat.mod_eq_of_lt (by omega)]
      exact hexValue?_digitChar _ (by omega)
    have hlow : hexValue? (b % 16).digitChar = some (b % 16) :=
      hexValue?_digitChar _ (Nat.mod_lt _ (by omega))
    have hrest : decodeHex (hexDigits bytes) = some bytes :=
      ih fun b' hb' => hbytes b' (List.mem_cons_of_mem b hb')
    have hsplit : b / 16 * 16 + b % 16 = b := by omega
    simp only [hexDigits_cons, decodeHex, hhigh, hlow, hrest, Option.bind_eq_bind,
      Option.bind_some, hsplit]

lemma decodeHex_lt (h : decodeHex digits = some raw) : ∀ b ∈ raw, b < 256 := by
  induction digits using decodeHex.induct generalizing raw with
  | case1 =>
    cases h
    intro b hb
    cases hb
  | case2 => cases h
  | case3 a b rest ih =>
    obtain ⟨x, y, bytes, hx, hy, hbytes, rfl⟩ := decodeHex_cons h
    have hx16 := (hexValue?_some hx).1
    have hy16 := (hexValue?_some hy).1
    intro byte hbyte
    rcases List.mem_cons.mp hbyte with rfl | hbyte
    · omega
    · exact ih hbytes byte hbyte

lemma hexDigits_decodeHex (h : decodeHex digits = some raw) :
    hexDigits raw = digits.map Char.toLower := by
  induction digits using decodeHex.induct generalizing raw with
  | case1 =>
    cases h
    rfl
  | case2 => cases h
  | case3 a b rest ih =>
    obtain ⟨x, y, bytes, hx, hy, hbytes, rfl⟩ := decodeHex_cons h
    obtain ⟨hx16, hxc⟩ := hexValue?_some hx
    obtain ⟨hy16, hyc⟩ := hexValue?_some hy
    have hhigh : (x * 16 + y) / 16 % 16 = x := by omega
    have hlow : (x * 16 + y) % 16 = y := by omega
    rw [hexDigits_cons, hhigh, hlow, hxc, hyc, ih hbytes, List.map_cons, List.map_cons]

/-! ## Base64 -/

def base64Char (n : Nat) : Char :=
  "ABCDEFGHIJKLMNOPQRSTUVWXYZabcdefghijklmnopqrstuvwxyz0123456789+/".toList.getD n '='

/-- Quanta of three bytes, the last one padded where it is short. -/
def encodeQuanta : List Nat → List Char
  | [] => []
  | [a] => [base64Char (a / 4), base64Char (a % 4 * 16), '=', '=']
  | [a, b] => [base64Char (a / 4), base64Char (a % 4 * 16 + b / 16), base64Char (b % 16 * 4), '=']
  | a :: b :: c :: rest =>
    [base64Char (a / 4), base64Char (a % 4 * 16 + b / 16), base64Char (b % 16 * 4 + c / 64),
      base64Char (c % 64)] ++ encodeQuanta rest

def encodeBase64 (bytes : List Nat) : String := String.ofList (encodeQuanta bytes)

lemma base64Value?_base64Char : ∀ n < 64, base64Value? (base64Char n) = some n := by
  decide +kernel

lemma base64Char_ne : ∀ n < 64,
    base64Char n ≠ '=' ∧ base64Char n ≠ '\n' ∧ base64Char n ≠ '\r' := by decide +kernel

lemma encodeQuanta_ne (hbytes : ∀ b ∈ bytes, b < 256) :
    ∀ c ∈ encodeQuanta bytes, c ≠ '\n' ∧ c ≠ '\r' := by
  induction bytes using encodeQuanta.induct with
  | case1 =>
    intro c hc
    cases hc
  | case2 a =>
    have ha : a < 256 := hbytes a (by simp)
    simp only [encodeQuanta, List.forall_mem_cons, List.not_mem_nil, false_implies, implies_true,
      and_true]
    exact ⟨(base64Char_ne _ (by omega)).2, (base64Char_ne _ (by omega)).2, by decide, by decide⟩
  | case3 a b =>
    have ha : a < 256 := hbytes a (by simp)
    have hb : b < 256 := hbytes b (by simp)
    simp only [encodeQuanta, List.forall_mem_cons, List.not_mem_nil, false_implies, implies_true,
      and_true]
    exact ⟨(base64Char_ne _ (by omega)).2, (base64Char_ne _ (by omega)).2,
      (base64Char_ne _ (by omega)).2, by decide⟩
  | case4 a b c rest ih =>
    have ha : a < 256 := hbytes a (by simp)
    have hb : b < 256 := hbytes b (by simp)
    have hc : c < 256 := hbytes c (by simp)
    simp only [encodeQuanta, List.cons_append, List.nil_append, List.forall_mem_cons]
    exact ⟨(base64Char_ne _ (by omega)).2, (base64Char_ne _ (by omega)).2,
      (base64Char_ne _ (by omega)).2, (base64Char_ne _ (by omega)).2,
      ih fun b' hb' => hbytes b' (by simp [hb'])⟩

lemma decodeQuanta_encodeQuanta (hbytes : ∀ b ∈ bytes, b < 256) :
    decodeQuanta (encodeQuanta bytes) = some bytes := by
  induction bytes using encodeQuanta.induct with
  | case1 => rfl
  | case2 a =>
    have ha : a < 256 := hbytes a (by simp)
    have hfirst : a / 4 * 4 + a % 4 * 16 / 16 = a := by omega
    rw [encodeQuanta, decodeQuanta, base64Value?_base64Char _ (by omega),
      base64Value?_base64Char _ (by omega)]
    simp only [Option.bind_eq_bind, Option.bind_some, hfirst]
  | case3 a b =>
    have ha : a < 256 := hbytes a (by simp)
    have hb : b < 256 := hbytes b (by simp)
    have hfirst : a / 4 * 4 + (a % 4 * 16 + b / 16) / 16 = a := by omega
    have hsecond : (a % 4 * 16 + b / 16) % 16 * 16 + b % 16 * 4 / 4 = b := by omega
    rw [encodeQuanta, decodeQuanta, base64Value?_base64Char _ (by omega),
      base64Value?_base64Char _ (by omega), base64Value?_base64Char _ (by omega)]
    · simp only [Option.bind_eq_bind, Option.bind_some, hfirst, hsecond]
    · exact (base64Char_ne _ (by omega)).1
  | case4 a b c rest ih =>
    have ha : a < 256 := hbytes a (by simp)
    have hb : b < 256 := hbytes b (by simp)
    have hc : c < 256 := hbytes c (by simp)
    have hfirst : a / 4 * 4 + (a % 4 * 16 + b / 16) / 16 = a := by omega
    have hsecond : (a % 4 * 16 + b / 16) % 16 * 16 + (b % 16 * 4 + c / 64) / 4 = b := by omega
    have hthird : (b % 16 * 4 + c / 64) % 4 * 64 + c % 64 = c := by omega
    have hrest : decodeQuanta (encodeQuanta rest) = some rest :=
      ih fun b' hb' => hbytes b' (by simp [hb'])
    have hd : base64Char (c % 64) ≠ '=' := (base64Char_ne _ (by omega)).1
    rw [encodeQuanta, List.cons_append, List.cons_append, List.cons_append, List.cons_append,
      List.nil_append, decodeQuanta, base64Value?_base64Char _ (by omega),
      base64Value?_base64Char _ (by omega), base64Value?_base64Char _ (by omega),
      base64Value?_base64Char _ (by omega), hrest]
    · simp only [Option.bind_eq_bind, Option.bind_some, hfirst, hsecond, hthird]
      rfl
    · intro _ heq
      exact absurd heq hd
    · intro heq
      exact absurd heq hd

lemma decodeBase64_encodeBase64 (hbytes : ∀ b ∈ bytes, b < 256) :
    decodeBase64 (encodeBase64 bytes) = some bytes := by
  have hfilter : (encodeQuanta bytes).filter (fun c => c ≠ '\n' ∧ c ≠ '\r') =
      encodeQuanta bytes := by
    rw [List.filter_eq_self]
    intro c hc
    exact decide_eq_true (encodeQuanta_ne hbytes c hc)
  rw [decodeBase64, encodeBase64, String.toList_ofList, hfilter]
  exact decodeQuanta_encodeQuanta hbytes

/-! ## Keys -/

def hexToBase64 (hexKey : List Char) : Option String := (decodeHex hexKey).map encodeBase64

lemma length_decodeHex (h : decodeHex digits = some raw) : 2 * raw.length = digits.length := by
  rw [← length_hexDigits, hexDigits_decodeHex h, List.length_map]

lemma decodeHex_isSome {n : Nat} (hlen : digits.length = 2 * n)
    (hhex : ∀ c ∈ digits, c ∈ "0123456789abcdef".toList) : ∃ raw, decodeHex digits = some raw := by
  have hvalue : ∀ c ∈ "0123456789abcdef".toList, (hexValue? c).isSome :=
    List.all_eq_true.mp (by decide)
  induction digits using decodeHex.induct generalizing n with
  | case1 => exact ⟨[], rfl⟩
  | case2 a =>
    rw [List.length_singleton] at hlen
    omega
  | case3 a b rest ih =>
    obtain ⟨x, hx⟩ := Option.isSome_iff_exists.mp (hvalue a (hhex a (by simp)))
    obtain ⟨y, hy⟩ := Option.isSome_iff_exists.mp (hvalue b (hhex b (by simp)))
    have hrest : rest.length = 2 * (n - 1) := by
      rw [List.length_cons, List.length_cons] at hlen
      omega
    obtain ⟨raw, hraw⟩ := ih hrest fun c hc => hhex c (by simp [hc])
    refine ⟨(x * 16 + y) :: raw, ?_⟩
    simp only [decodeHex, hx, hy, hraw, Option.bind_eq_bind, Option.bind_some]

lemma WgKey.decodeHex_digits (key : WgKey) :
    ∃ raw, decodeHex key.digits = some raw ∧ raw.length = wgKeyBytes ∧
      hexDigits raw = key.digits := by
  have hlower : "0123456789abcdef".toList.all (fun c => c.toLower == c) = true := by decide
  obtain ⟨raw, hraw⟩ := decodeHex_isSome key.length_eq key.isHex
  have hlen := length_decodeHex hraw
  rw [key.length_eq] at hlen
  have hmap : key.digits.map Char.toLower = key.digits := by
    rw [List.map_congr_left fun c hc =>
      beq_iff_eq.mp (List.all_eq_true.mp hlower c (key.isHex c hc)), List.map_id']
  exact ⟨raw, hraw, by omega, (hexDigits_decodeHex hraw).trans hmap⟩

lemma wgKeyHex_hexToBase64 (key : WgKey) :
    ∃ b64, hexToBase64 key.digits = some b64 ∧ wgKeyHex b64 = some key := by
  obtain ⟨raw, hraw, hlen, hdigits⟩ := key.decodeHex_digits
  refine ⟨encodeBase64 raw, by rw [hexToBase64, hraw, Option.map_some], ?_⟩
  simp only [wgKeyHex, decodeBase64_encodeBase64 (decodeHex_lt hraw), hlen, dif_pos, hdigits]

end DarwinNet.Mesh
