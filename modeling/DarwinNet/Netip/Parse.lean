import DarwinNet.Netip.Text

/-!
What is written is read back: an IPv4 address (`parseAddr_string4`) and an IPv4 prefix
(`parsePrefix_string`). An IPv4 address is read from its own text only
(`toList_of_parseIPv4`).
-/

namespace DarwinNet.Netip

lemma digitChar_digit : ∀ d < 10, ('0' ≤ d.digitChar ∧ d.digitChar ≤ '9') ∧
    d.digitChar.toNat - '0'.toNat = d := by decide

lemma parseIPv4Loop_toDigits (n : Nat) (hn : n ≤ 255) (fields : List Nat) (rest : List Char) :
    parseIPv4Loop 0 0 fields (Nat.toDigits 10 n ++ rest) =
      parseIPv4Loop n (Nat.toDigits 10 n).length fields rest := by
  induction n using Nat.strongRecOn generalizing rest with
  | ind n ih =>
    rw [Nat.toDigits_eq_if (by decide)]
    split
    · rename_i hlt
      obtain ⟨hrange, hval⟩ := digitChar_digit n hlt
      simp only [List.singleton_append, parseIPv4Loop, hrange, and_self, if_true, hval]
      rw [if_neg (by simp), if_neg (by omega)]
      simp
    · rename_i hge
      obtain ⟨hrange, hval⟩ := digitChar_digit (n % 10) (by omega)
      rw [List.append_assoc, ih (n / 10) (by omega) (by omega)]
      simp only [List.singleton_append, parseIPv4Loop, hrange, and_self, if_true, hval]
      rw [if_neg (by omega), if_neg (by omega)]
      have hn10 : n / 10 * 10 + n % 10 = n := by omega
      simp [hn10]

lemma toList_string4 (a : BitVec 32) : (string4 a).toList =
    Nat.toDigits 10 (a.toNat / 2 ^ 24 % 256) ++ '.' :: (Nat.toDigits 10 (a.toNat / 2 ^ 16 % 256) ++
      '.' :: (Nat.toDigits 10 (a.toNat / 2 ^ 8 % 256) ++
        '.' :: Nat.toDigits 10 (a.toNat % 256))) := by
  have hdot : ".".toList = ['.'] := rfl
  have hrange : List.range 4 = [0, 1, 2, 3] := rfl
  simp [string4, hrange, String.intercalate_cons_cons, String.toList_append, hdot,
    BitVec.toNat_ushiftRight, Nat.shiftRight_eq_div_pow, Nat.toList_repr]

lemma toList_string_v4 (a : BitVec 32) (b : Nat) : (Prefix.v4 a b).string.toList =
    (string4 a).toList ++ '/' :: Nat.toDigits 10 b := by
  simp [Prefix.string, Prefix.v4, Prefix.isValid, Prefix.bits, Addr.string, Nat.toList_repr]

variable {a : BitVec 32} {c : Char} {len : Nat}

lemma mem_string4 (h : c ∈ (string4 a).toList) : c = '.' ∨ ∃ d < 10, c = d.digitChar := by
  have hdigits : ∀ {n}, c ∈ Nat.toDigits 10 n → ∃ d < 10, c = d.digitChar :=
    fun hn => mem_toDigits (by decide) hn
  rw [toList_string4] at h
  simp only [List.mem_append, List.mem_cons] at h
  rcases h with h | h | h | h | h | h | h
  · exact .inr (hdigits h)
  · exact .inl h
  · exact .inr (hdigits h)
  · exact .inl h
  · exact .inr (hdigits h)
  · exact .inl h
  · exact .inr (hdigits h)

lemma length_string4_le (a : BitVec 32) : (string4 a).toList.length ≤ 15 := by
  have hoctet : ∀ n < 256, (Nat.toDigits 10 n).length ≤ 3 := by decide +kernel
  have h1 := hoctet (a.toNat / 2 ^ 24 % 256) (Nat.mod_lt _ (by decide))
  have h2 := hoctet (a.toNat / 2 ^ 16 % 256) (Nat.mod_lt _ (by decide))
  have h3 := hoctet (a.toNat / 2 ^ 8 % 256) (Nat.mod_lt _ (by decide))
  have h4 := hoctet (a.toNat % 256) (Nat.mod_lt _ (by decide))
  rw [toList_string4]
  simp only [List.length_append, List.length_cons]
  omega

lemma mem_string_v4 {b : Nat} (h : c ∈ (Prefix.v4 a b).string.toList) :
    c = '.' ∨ c = '/' ∨ ∃ d < 10, c = d.digitChar := by
  rw [toList_string_v4, List.mem_append, List.mem_cons] at h
  rcases h with h | h | h
  · rcases mem_string4 h with h | h
    · exact .inl h
    · exact .inr (.inr h)
  · exact .inr (.inl h)
  · exact .inr (.inr (mem_toDigits (by decide) h))

lemma parseIPv4Loop_dot {n : Nat} {fields : List Nat} {rest : List Char} (hlen : len ≠ 0)
    (hrest : rest ≠ []) (hfields : fields.length < 3) :
    parseIPv4Loop n len fields ('.' :: rest) = parseIPv4Loop 0 0 (fields ++ [n]) rest := by
  have hdigit : ¬ ('0' ≤ '.' ∧ '.' ≤ '9') := by decide
  have hok : ¬ (len = 0 ∨ rest = [] ∨ fields.length = 3) := by
    simp only [hlen, hrest, false_or]
    omega
  rw [parseIPv4Loop, if_neg hdigit, if_pos rfl, if_neg hok]

lemma parseIPv4_string4 (a : BitVec 32) : parseIPv4 (string4 a).toList = some (.v4 a) := by
  have hpos : ∀ n, (Nat.toDigits 10 n).length ≠ 0 := by
    intro n
    have := Nat.length_toDigits_pos (b := 10) (n := n)
    omega
  have hne : ∀ n (rest : List Char), Nat.toDigits 10 n ++ rest ≠ [] := by
    intro n rest h
    have hlen := congrArg List.length h
    have := hpos n
    simp only [List.length_append, List.length_nil] at hlen
    omega
  have hlast : Nat.toDigits 10 (a.toNat % 256) = Nat.toDigits 10 (a.toNat % 256) ++ [] := by simp
  rw [toList_string4, parseIPv4, parseIPv4Fields, hlast,
    parseIPv4Loop_toDigits _ (by omega), parseIPv4Loop_dot (hpos _) (hne _ _) (by simp),
    parseIPv4Loop_toDigits _ (by omega), parseIPv4Loop_dot (hpos _) (hne _ _) (by simp),
    parseIPv4Loop_toDigits _ (by omega), parseIPv4Loop_dot (hpos _) (hne _ _) (by simp),
    parseIPv4Loop_toDigits _ (by omega)]
  have hvalue : ofDigits 256 [a.toNat / 2 ^ 24 % 256, a.toNat / 2 ^ 16 % 256,
      a.toNat / 2 ^ 8 % 256, a.toNat % 256] = a.toNat := by
    have := a.isLt
    simp only [ofDigits, List.foldl_cons, List.foldl_nil]
    omega
  simp only [parseIPv4Loop, List.nil_append, List.cons_append, List.length_cons, List.length_nil,
    Nat.reduceAdd, Nat.lt_irrefl, if_false, Option.map_some, hvalue, BitVec.ofNat_toNat,
    BitVec.setWidth_eq]

lemma find_separator_string4 (a : BitVec 32) :
    (string4 a).toList.find? (fun c => c = '.' ∨ c = ':' ∨ c = '%') = some '.' := by
  have hnot : ∀ c ∈ Nat.toDigits 10 (a.toNat / 2 ^ 24 % 256),
      ¬ (decide (c = '.' ∨ c = ':' ∨ c = '%') = true) := by
    intro c hc hsep
    have hmem : c ∈ [':', '.', '%', '/', '\n'] := by
      rcases of_decide_eq_true hsep with rfl | rfl | rfl <;> simp
    exact notMem_toDigits (by decide) (by decide) hmem hc
  rw [toList_string4, List.find?_append, List.find?_eq_none.mpr hnot]
  simp

lemma parseAddr_string4 (a : BitVec 32) : parseAddr (string4 a) = some (.v4 a) := by
  rw [parseAddr, find_separator_string4]
  exact parseIPv4_string4 a

lemma parseBits_toDigits : ∀ b < 33, Prefix.parseBits (Nat.toDigits 10 b) = some b := by decide

lemma parsePrefix_string {b : Nat} (hb : b ≤ 32) :
    parsePrefix (Prefix.v4 a b).string = some (Prefix.v4 a b) := by
  have hslash : ∀ c ∈ (Nat.toDigits 10 b).reverse, decide (c ≠ '/') = true := by
    intro c hc
    refine decide_eq_true ?_
    rintro rfl
    exact notMem_toDigits (by decide) (by decide) (by simp) (List.mem_reverse.mp hc)
  have hrev : (Prefix.v4 a b).string.toList.reverse =
      (Nat.toDigits 10 b).reverse ++ '/' :: (string4 a).toList.reverse := by
    simp [toList_string_v4]
  have hdrop : ((Nat.toDigits 10 b).reverse ++ '/' :: (string4 a).toList.reverse).dropWhile
      (· ≠ '/') = '/' :: (string4 a).toList.reverse := by
    rw [List.dropWhile_append_of_pos hslash]
    simp
  have htake : ((Nat.toDigits 10 b).reverse ++ '/' :: (string4 a).toList.reverse).takeWhile
      (· ≠ '/') = (Nat.toDigits 10 b).reverse := by
    rw [List.takeWhile_append_of_pos hslash]
    simp
  unfold parsePrefix
  rw [hrev]
  simp only [hdrop, htake, List.reverse_reverse, String.ofList_toList, parseAddr_string4,
    Addr.hasZone, Bool.false_eq_true, if_false, parseBits_toDigits b (by omega), Addr.bitLen, hb,
    if_true]
  simp [Prefix.prefixFrom, Prefix.v4, Addr.withoutZone, Addr.isValid, Addr.bitLen, hb]

/-! ## One text for an IPv4 address -/

lemma digitChar_of_digit (h : '0' ≤ c ∧ c ≤ '9') :
    c.toNat - '0'.toNat < 10 ∧ c = (c.toNat - '0'.toNat).digitChar := by
  have hall : ∀ n < 58, 48 ≤ n → Char.ofNat n = (n - 48).digitChar := by decide
  have hlow : 48 ≤ c.toNat := h.1
  have hhigh : c.toNat ≤ 57 := h.2
  have hchar := hall c.toNat (by omega) hlow
  rw [Char.ofNat_toNat] at hchar
  exact ⟨by simp only [Char.reduceToNat]; omega, hchar⟩

/-- The digits of the octet being read, of which there are `len`. -/
structure OctetRead (val len : Nat) (text : List Char) : Prop where
  length : text.length = len
  value : len = 0 ∧ val = 0 ∨ text = Nat.toDigits 10 val

lemma OctetRead.start : OctetRead 0 0 [] := ⟨rfl, .inl ⟨rfl, rfl⟩⟩

lemma OctetRead.digit {val : Nat} {text : List Char} (h : OctetRead val len text)
    (hc : '0' ≤ c ∧ c ≤ '9') (hlead : ¬ (len = 1 ∧ val = 0)) :
    OctetRead (val * 10 + (c.toNat - '0'.toNat)) (len + 1) (text ++ [c]) := by
  obtain ⟨hlt, hchar⟩ := digitChar_of_digit hc
  generalize c.toNat - '0'.toNat = d at hlt hchar ⊢
  refine ⟨by simp [h.length], .inr ?_⟩
  rcases h.value with ⟨hlen, rfl⟩ | htext
  · have hnil : text = [] := List.length_eq_zero_iff.mp (h.length.trans hlen)
    rw [hnil, Nat.toDigits_eq_if (by decide), if_pos (by omega), hchar]
    simp
  · -- a zero would stand alone
    have hval : val ≠ 0 := by
      rintro rfl
      refine hlead ⟨?_, rfl⟩
      rw [← h.length, htext]
      rfl
    rw [Nat.toDigits_eq_if (n := val * 10 + d) (by decide), if_neg (by omega), htext, hchar]
    have hdiv : (val * 10 + d) / 10 = val := by omega
    have hmod : (val * 10 + d) % 10 = d := by omega
    rw [hdiv, hmod]

lemma parseIPv4Loop_text {val : Nat} {fields out : List Nat} {text s : List Char}
    (h : parseIPv4Loop val len fields s = some out) (hread : OctetRead val len text)
    (hval : val ≤ 255) (hend : len ≠ 0 ∨ s ≠ []) (hfields : fields.length ≤ 3) :
    ∃ octets, out = fields ++ octets ∧ octets ≠ [] ∧ out.length = 4 ∧ (∀ n ∈ octets, n ≤ 255) ∧
      text ++ s = ['.'].intercalate (octets.map (Nat.toDigits 10)) := by
  induction s generalizing val len fields text with
  | nil =>
    rw [parseIPv4Loop] at h
    split at h
    · cases h
    cases h
    rcases hread.value with ⟨hlen, -⟩ | htext
    · exact absurd hlen (by simpa using hend)
    · exact ⟨[val], rfl, by simp, by simp; omega, by simpa using hval, by simp [htext]⟩
  | cons c cs ih =>
    rw [parseIPv4Loop] at h
    split at h
    · next hc =>
      split at h
      · cases h
      next hlead =>
      split at h
      · cases h
      next hle =>
      obtain ⟨octets, hout, hne, hlen, hall, htext⟩ :=
        ih h (hread.digit hc hlead) (by omega) (.inl (by omega)) hfields
      exact ⟨octets, hout, hne, hlen, hall, by simpa using htext⟩
    · split at h
      · next hdot =>
        subst hdot
        split at h
        · cases h
        next hok =>
        simp only [not_or] at hok
        obtain ⟨hlen, hcs, hthree⟩ := hok
        obtain ⟨octets, hout, hne, hfour, hall, htext⟩ :=
          ih h .start (by omega) (.inr hcs) (by simp; omega)
        rcases hread.value with ⟨hzero, -⟩ | hdigits
        · exact absurd hzero hlen
        refine ⟨val :: octets, by simp [hout], by simp, hfour, ?_, ?_⟩
        · simpa using ⟨hval, hall⟩
        · rw [List.map_cons, List.intercalate_cons_of_ne_nil (by simpa using hne), ← htext,
            ← hdigits]
          simp
      · cases h

lemma toList_of_parseIPv4 {s : List Char} (h : parseIPv4 s = some (.v4 a)) :
    s = (string4 a).toList := by
  obtain ⟨out, hout, ha⟩ := Option.map_eq_some_iff.mp h
  have hne : s ≠ [] := by
    rintro rfl
    cases hout
  obtain ⟨octets, rfl, -, hlen, hall, htext⟩ :=
    parseIPv4Loop_text hout .start (by omega) (.inr hne) (by simp)
  rw [List.nil_append] at htext
  obtain ⟨o₁, o₂, o₃, o₄, rfl⟩ : ∃ o₁ o₂ o₃ o₄, out = [o₁, o₂, o₃, o₄] := by
    rcases out with _ | ⟨o₁, _ | ⟨o₂, _ | ⟨o₃, _ | ⟨o₄, _ | ⟨o₅, rest⟩⟩⟩⟩⟩
    case cons.cons.cons.cons.nil => exact ⟨o₁, o₂, o₃, o₄, rfl⟩
    all_goals simp at hlen
  simp only [List.mem_cons, List.not_mem_nil, or_false, forall_eq_or_imp, forall_eq] at hall
  have hvalue : a.toNat = ((o₁ * 256 + o₂) * 256 + o₃) * 256 + o₄ := by
    rw [← Addr.v4.inj ha, BitVec.toNat_ofNat]
    simp only [ofDigits, List.foldl_cons, List.foldl_nil]
    omega
  have h₁ : a.toNat / 2 ^ 24 % 256 = o₁ := by omega
  have h₂ : a.toNat / 2 ^ 16 % 256 = o₂ := by omega
  have h₃ : a.toNat / 2 ^ 8 % 256 = o₃ := by omega
  have h₄ : a.toNat % 256 = o₄ := by omega
  rw [htext, toList_string4, h₁, h₂, h₃, h₄]
  simp [List.intercalate_cons_cons]

lemma eq_string4_of_parseAddr {s : String} (h : parseAddr s = some (.v4 a)) :
    s.toList = (string4 a).toList := by
  unfold parseAddr at h
  split at h
  · exact toList_of_parseIPv4 h
  · unfold parseIPv6 at h
    simp only at h
    split_ifs at h
    obtain ⟨g, -, hg⟩ := Option.map_eq_some_iff.mp h
    cases hg
  · cases h

end DarwinNet.Netip
