import DarwinNet.Netip.Prefix
import Mathlib.Data.List.TakeWhile

/-!
The textual form of an address determines it (`Addr.string_inj`), and so does
the textual form of a valid prefix (`Prefix.string_inj`). The program uses these
texts as map keys and compares configuration texts, so two different addresses
must never share one.

An IPv6 text is read back through its fields between colons: the empty fields
mark the compressed run of zero groups, and the number of the others says how
many groups it stands for (`expand_fields6`).
-/

namespace DarwinNet.Netip

lemma digitChar_inj : ∀ m < 16, ∀ n < 16, m.digitChar = n.digitChar → m = n := by decide

lemma toDigits_inj {b : Nat} (hb : 1 < b) (hb' : b ≤ 16) (m n : Nat)
    (h : Nat.toDigits b m = Nat.toDigits b n) : m = n := by
  induction m using Nat.strongRecOn generalizing n with
  | ind m ih =>
    rw [Nat.toDigits_eq_if hb, Nat.toDigits_eq_if (n := n) hb] at h
    split at h <;> split at h
    · exact digitChar_inj m (by omega) n (by omega) (by simpa using h)
    · have hlen := congrArg List.length h
      have hpos := Nat.length_toDigits_pos (b := b) (n := n / b)
      simp only [List.length_cons, List.length_nil, List.length_append] at hlen
      omega
    · have hlen := congrArg List.length h
      have hpos := Nat.length_toDigits_pos (b := b) (n := m / b)
      simp only [List.length_cons, List.length_nil, List.length_append] at hlen
      omega
    · obtain ⟨hq, hr⟩ := List.append_inj' h rfl
      have hq' := ih (m / b) (Nat.div_lt_self (by omega) hb) (n / b) hq
      have hmb := Nat.mod_lt m (show 0 < b by omega)
      have hnb := Nat.mod_lt n (show 0 < b by omega)
      have hr' := digitChar_inj (m % b) (by omega) (n % b) (by omega) (by simpa using hr)
      rw [← Nat.div_add_mod m b, ← Nat.div_add_mod n b, hq', hr']

variable {b a : BitVec 128} {n : Nat} {c : Char} {l : List String}

lemma mem_toDigits {b : Nat} (hb : 1 < b) (h : c ∈ Nat.toDigits b n) :
    ∃ d < b, c = d.digitChar := by
  induction n using Nat.strongRecOn with
  | ind n ih =>
    rw [Nat.toDigits_eq_if hb] at h
    split at h
    · rename_i hn
      exact ⟨n, hn, by simpa using h⟩
    rename_i hn
    rcases List.mem_append.mp h with h | h
    · exact ih (n / b) (Nat.div_lt_self (by omega) hb) h
    · exact ⟨n % b, Nat.mod_lt n (by omega), by simpa using h⟩

lemma notMem_toDigits {b : Nat} (hb : 1 < b) (hb' : b ≤ 16)
    (hc : c ∈ [':', '.', '%', '/', '\n']) : c ∉ Nat.toDigits b n := by
  intro h
  obtain ⟨d, hd, rfl⟩ := mem_toDigits hb h
  have hall : ∀ d < 16, d.digitChar ∉ [':', '.', '%', '/', '\n'] := by decide
  exact hall d (by omega) hc

lemma toString_inj {m : Nat} (h : toString m = toString n) : m = n := by
  have h' : (toString m).toList = (toString n).toList := by rw [h]
  simp only [Nat.toString_eq_repr, Nat.toList_repr] at h'
  exact toDigits_inj (by decide) (by decide) m n h'

lemma hexString_inj {m : Nat} (h : hexString m = hexString n) : m = n := by
  have h' : (hexString m).toList = (hexString n).toList := by rw [h]
  simp only [hexString, String.toList_ofList] at h'
  exact toDigits_inj (by decide) (by decide) m n h'

lemma hexString_ne_empty (n : Nat) : hexString n ≠ "" := by
  intro h
  have h' : (hexString n).toList = [] := by rw [h]; rfl
  simp [hexString] at h'

lemma intercalate_inj (c : Char) {m : List String} (hl : l ≠ []) (hm : m ≠ [])
    (sl : ∀ f ∈ l, c ∉ f.toList) (sm : ∀ f ∈ m, c ∉ f.toList)
    (h : (String.singleton c).intercalate l = (String.singleton c).intercalate m) : l = m := by
  have h' : ([c].intercalate (l.map String.toList)).splitOn c =
      ([c].intercalate (m.map String.toList)).splitOn c := by
    have := congrArg String.toList h
    simp only [String.toList_intercalate, String.toList_singleton] at this
    rw [this]
  rw [List.splitOn_intercalate c (by simpa using sl) (by simpa using hl),
    List.splitOn_intercalate c (by simpa using sm) (by simpa using hm)] at h'
  exact List.map_injective_iff.mpr (fun _ _ => String.toList_injective) h'

lemma mem_toList_intercalate {s : Char} (h : c ∈ ((String.singleton s).intercalate l).toList) :
    c = s ∨ ∃ f ∈ l, c ∈ f.toList := by
  induction l with
  | nil => simp at h
  | cons f l ih =>
    by_cases hl : l = []
    · subst hl
      exact .inr ⟨f, List.mem_cons_self, by simpa using h⟩
    rw [String.intercalate_cons_of_ne_nil hl] at h
    simp only [String.toList_append, String.toList_singleton, List.mem_append,
      List.mem_singleton] at h
    rcases h with (h | h) | h
    · exact .inr ⟨f, List.mem_cons_self, h⟩
    · exact .inl h
    · exact (ih h).imp id fun ⟨g, hg, hc⟩ => ⟨g, List.mem_cons_of_mem f hg, hc⟩

lemma sep_mem_intercalate (hl : 1 < l.length) :
    c ∈ ((String.singleton c).intercalate l).toList := by
  match l, hl with
  | f :: g :: l, _ =>
    rw [String.intercalate_cons_of_ne_nil (by simp)]
    simp

/-! ## IPv4 -/

def octets4 (a : BitVec 32) : List Nat :=
  (List.range 4).map fun i => (a >>> (8 * (3 - i))).toNat % 256

lemma string4_eq (a : BitVec 32) :
    string4 a = (String.singleton '.').intercalate ((octets4 a).map toString) := by
  simp only [string4, octets4, List.map_map]
  rfl

lemma eq_of_chunks {w x y : Nat} (hx : x < (2 ^ w) ^ n) (hy : y < (2 ^ w) ^ n)
    (h : ∀ i < n, x / (2 ^ w) ^ i % 2 ^ w = y / (2 ^ w) ^ i % 2 ^ w) : x = y := by
  induction n generalizing x y with
  | zero =>
    rw [pow_zero, Nat.lt_one_iff] at hx hy
    rw [hx, hy]
  | succ n ih =>
    have hpos : 0 < 2 ^ w := Nat.two_pow_pos w
    have hlow : x % 2 ^ w = y % 2 ^ w := by simpa using h 0 (Nat.succ_pos n)
    have hhigh : x / 2 ^ w = y / 2 ^ w := by
      refine ih ?_ ?_ fun i hi => ?_
      · exact Nat.div_lt_of_lt_mul (by rwa [pow_succ, mul_comm] at hx)
      · exact Nat.div_lt_of_lt_mul (by rwa [pow_succ, mul_comm] at hy)
      · have hi' := h (i + 1) (Nat.succ_lt_succ hi)
        rwa [pow_succ, mul_comm, ← Nat.div_div_eq_div_mul, ← Nat.div_div_eq_div_mul] at hi'
    rw [← Nat.div_add_mod x (2 ^ w), hhigh, hlow, Nat.div_add_mod]

lemma octets4_inj {a b : BitVec 32} (h : octets4 a = octets4 b) : a = b := by
  refine BitVec.eq_of_toNat_eq (eq_of_chunks (w := 8) (n := 4) a.isLt b.isLt fun i hi => ?_)
  have hoctet := List.map_inj_left.mp h (3 - i) (List.mem_range.mpr (by omega))
  have hshift : 3 - (3 - i) = i := by omega
  simpa [hshift, Nat.shiftRight_eq_div_pow, pow_mul] using hoctet

lemma notMem_toString (hc : c ∈ [':', '.', '%', '/', '\n']) : c ∉ (toString n).toList := by
  rw [Nat.toString_eq_repr, Nat.toList_repr]
  exact notMem_toDigits (by decide) (by decide) hc

lemma string4_inj {a b : BitVec 32} (h : string4 a = string4 b) : a = b := by
  rw [string4_eq, string4_eq] at h
  have hsep : ∀ x : BitVec 32, ∀ f ∈ (octets4 x).map toString, '.' ∉ f.toList := by
    intro x f hf
    obtain ⟨n, -, rfl⟩ := List.mem_map.mp hf
    exact notMem_toString (by simp)
  have hmap := intercalate_inj '.' (by simp [octets4]) (by simp [octets4]) (hsep a) (hsep b) h
  exact octets4_inj (List.map_injective_iff.mpr (fun _ _ => toString_inj) hmap)

lemma notMem_string4 {a : BitVec 32} (hc : c ∈ [':', '%', '/', '\n']) : c ∉ (string4 a).toList := by
  rw [string4_eq]
  intro h
  rcases mem_toList_intercalate h with rfl | ⟨f, hf, hcf⟩
  · simp at hc
  · obtain ⟨n, -, rfl⟩ := List.mem_map.mp hf
    have hsub : [':', '%', '/', '\n'] ⊆ [':', '.', '%', '/', '\n'] := by decide
    exact notMem_toString (hsub hc) hcf

lemma dot_mem_string4 (a : BitVec 32) : '.' ∈ (string4 a).toList := by
  rw [string4_eq]
  exact sep_mem_intercalate (by simp [octets4])

/-! ## IPv6 -/

lemma zeroRun_spec {g : List Nat} {i l : Nat} (h : zeroRun g = some (i, l)) :
    i < g.length ∧ l = ((g.drop i).takeWhile (· = 0)).length := by
  have hinv : ∀ best, (best = zeroRun g) → ∀ i l, best = some (i, l) →
      i < g.length ∧ l = ((g.drop i).takeWhile (· = 0)).length := by
    rintro best rfl
    refine List.foldlRecOn (motive := fun best => ∀ i l, best = some (i, l) →
      i < g.length ∧ l = ((g.drop i).takeWhile (· = 0)).length) _ _ ?_ ?_
    · intro i l hnone
      cases hnone
    intro best ih j hj i l hbest
    simp only at hbest
    split at hbest
    · cases hbest
      exact ⟨List.mem_range.mp hj, rfl⟩
    · exact ih i l hbest
  exact hinv _ rfl i l h

lemma zeroRun_split {g : List Nat} {i l : Nat} (h : zeroRun g = some (i, l)) :
    g = g.take i ++ List.replicate l 0 ++ g.drop (i + l) := by
  obtain ⟨-, hl⟩ := zeroRun_spec h
  have hzero : (g.drop i).takeWhile (· = 0) = List.replicate l 0 := by
    rw [List.eq_replicate_iff]
    exact ⟨hl.symm, fun x hx => by simpa using List.mem_takeWhile_imp hx⟩
  have hdrop : (g.drop i).dropWhile (· = 0) = g.drop (i + l) := by
    rw [← List.drop_drop]
    conv_rhs => rw [← List.takeWhile_append_dropWhile (p := (· = 0)) (l := g.drop i), hl]
    rw [List.drop_left]
  rw [← hzero, ← hdrop, List.append_assoc, List.takeWhile_append_dropWhile, List.take_append_drop]

/-- The fields of an IPv6 text between its colons; two adjacent colons leave an
empty one, and so does a colon at an end. -/
def fields6 (a : BitVec 128) : List String :=
  let hex := (groups6 a).map hexString
  match zeroRun (groups6 a) with
  | none => hex
  | some (i, l) =>
    (if i = 0 then [""] else hex.take i) ++ "" ::
      (if hex.drop (i + l) = [] then [""] else hex.drop (i + l))

lemma length_groups6 (a : BitVec 128) : (groups6 a).length = 8 := by
  simp [groups6]

lemma string6_eq (a : BitVec 128) : string6 a = (String.singleton ':').intercalate (fields6 a) := by
  unfold string6 fields6
  cases zeroRun (groups6 a) with
  | none => rfl
  | some r =>
    obtain ⟨i, l⟩ := r
    have hne : (groups6 a).map hexString ≠ [] := by
      simp [← List.length_eq_zero_iff, length_groups6]
    generalize (groups6 a).map hexString = hex at hne ⊢
    simp only
    have hleft : (String.singleton ':').intercalate (if i = 0 then [""] else hex.take i) =
        ":".intercalate (hex.take i) := by
      by_cases hi : i = 0 <;> simp [hi]
    have hright : (String.singleton ':').intercalate
        (if hex.drop (i + l) = [] then [""] else hex.drop (i + l)) =
        ":".intercalate (hex.drop (i + l)) := by
      by_cases hd : hex.drop (i + l) = [] <;> simp [hd]
    have hl : (if i = 0 then [""] else hex.take i) ≠ [] := by
      by_cases hi : i = 0 <;> simp [hi, hne]
    have hr : (if hex.drop (i + l) = [] then [""] else hex.drop (i + l)) ≠ [] := by
      by_cases hd : hex.drop (i + l) = [] <;> simp [hd]
    rw [String.intercalate_append_of_ne_nil hl (by simp), String.intercalate_cons_of_ne_nil hr,
      hleft, hright]
    simp [String.append_assoc, ← String.toList_inj]

def filled (f : String) : Bool := f ≠ ""

def expand (f : List String) : List String :=
  f.takeWhile filled ++ List.replicate (8 - (f.filter filled).length) "0" ++
    (f.dropWhile filled).filter filled

lemma expand_of_filled {f : List String} (hf : ∀ x ∈ f, filled x) (h8 : f.length = 8) :
    expand f = f := by
  simp [expand, List.filter_eq_self.mpr hf, List.takeWhile_eq_self_iff.mpr hf,
    List.dropWhile_eq_nil_iff.mpr hf, h8]

lemma expand_append {r : List String} (hl : ∀ x ∈ l, filled x) (hr : ∀ x ∈ r, filled x) :
    expand ((if l = [] then [""] else l) ++ "" :: (if r = [] then [""] else r)) =
      l ++ List.replicate (8 - (l.length + r.length)) "0" ++ r := by
  have hempty : filled "" = false := rfl
  have hfr : (if r = [] then [""] else r).filter filled = r := by
    by_cases h : r = []
    · simp [h, hempty]
    · rw [if_neg h]
      exact List.filter_eq_self.mpr hr
  by_cases h : l = []
  · subst h
    simp [expand, hfr, hempty]
  rw [if_neg h]
  have htl := List.takeWhile_eq_self_iff.mpr hl
  have hdl := List.dropWhile_eq_nil_iff.mpr hl
  simp [expand, List.filter_eq_self.mpr hl, hfr, hempty, List.takeWhile_append,
    List.dropWhile_append, htl, hdl]

lemma expand_fields6 (a : BitVec 128) : expand (fields6 a) = (groups6 a).map hexString := by
  have hfilled : ∀ g : List Nat, ∀ x ∈ g.map hexString, filled x := by
    intro g x hx
    obtain ⟨n, -, rfl⟩ := List.mem_map.mp hx
    simpa [filled] using hexString_ne_empty n
  unfold fields6
  cases h : zeroRun (groups6 a) with
  | none => exact expand_of_filled (hfilled _) (by simp [length_groups6])
  | some r =>
    obtain ⟨i, l⟩ := r
    have hi := (zeroRun_spec h).1
    have hsplit := zeroRun_split h
    rw [length_groups6] at hi
    have hzero : i = 0 ↔ ((groups6 a).map hexString).take i = [] := by
      rw [List.take_eq_nil_iff, or_iff_left]
      simp [← List.length_eq_zero_iff, length_groups6]
    simp only [hzero]
    rw [← List.map_take, ← List.map_drop, expand_append (hfilled _) (hfilled _)]
    have hlen : l = 8 - (((groups6 a).take i).length + ((groups6 a).drop (i + l)).length) := by
      have := congrArg List.length hsplit
      simp only [List.length_append, List.length_replicate, length_groups6] at this
      omega
    rw [List.length_map, List.length_map, ← hlen]
    conv_rhs => rw [hsplit]
    simp [hexString]

lemma groups6_inj (h : groups6 a = groups6 b) : a = b := by
  refine BitVec.eq_of_toNat_eq (eq_of_chunks (w := 16) (n := 8) a.isLt b.isLt fun i hi => ?_)
  have hgroup := List.map_inj_left.mp h (7 - i) (List.mem_range.mpr (by omega))
  have hshift : 7 - (7 - i) = i := by omega
  simpa [hshift, Nat.shiftRight_eq_div_pow, pow_mul] using hgroup

lemma mem_fields6 {f : String} (h : f ∈ fields6 a) : f = "" ∨ ∃ n, f = hexString n := by
  have hhex : ∀ {l : List Nat}, f ∈ l.map hexString → ∃ n, f = hexString n := by
    intro l hf
    obtain ⟨n, -, rfl⟩ := List.mem_map.mp hf
    exact ⟨n, rfl⟩
  unfold fields6 at h
  cases hz : zeroRun (groups6 a) with
  | none =>
    rw [hz] at h
    exact .inr (hhex h)
  | some r =>
    obtain ⟨i, l⟩ := r
    rw [hz] at h
    simp only [← List.map_take, ← List.map_drop, List.mem_append, List.mem_cons] at h
    rcases h with h | h | h
    · split at h
      · exact .inl (by simpa using h)
      · exact .inr (hhex h)
    · exact .inl h
    · split at h
      · exact .inl (by simpa using h)
      · exact .inr (hhex h)

lemma notMem_fields6 {f : String} (hf : f ∈ fields6 a) (hc : c ∈ [':', '.', '%', '/', '\n']) :
    c ∉ f.toList := by
  rcases mem_fields6 hf with rfl | ⟨n, rfl⟩
  · simp
  · rw [hexString, String.toList_ofList]
    exact notMem_toDigits (by decide) (by decide) hc

lemma length_fields6 (a : BitVec 128) : 1 < (fields6 a).length := by
  unfold fields6
  cases zeroRun (groups6 a) with
  | none => simp [length_groups6]
  | some r =>
    obtain ⟨i, l⟩ := r
    simp only [List.length_append, List.length_cons]
    have hright : ∀ d : List String, 0 < (if d = [] then [""] else d).length := by
      intro d
      by_cases hd : d = [] <;> simp [hd, List.length_pos_iff]
    have := hright (((groups6 a).map hexString).drop (i + l))
    omega

lemma string6_inj (h : string6 a = string6 b) : a = b := by
  rw [string6_eq, string6_eq] at h
  have hne : ∀ x : BitVec 128, fields6 x ≠ [] := by
    intro x hx
    simpa [hx] using length_fields6 x
  have hfields := intercalate_inj ':' (hne a) (hne b) (fun f hf => notMem_fields6 hf (by simp))
    (fun f hf => notMem_fields6 hf (by simp)) h
  have hmap := expand_fields6 a
  rw [hfields, expand_fields6 b] at hmap
  exact groups6_inj (List.map_injective_iff.mpr (fun _ _ => hexString_inj) hmap.symm)

lemma notMem_string6 (hc : c ∈ ['.', '%', '/', '\n']) : c ∉ (string6 a).toList := by
  rw [string6_eq]
  intro h
  rcases mem_toList_intercalate h with rfl | ⟨f, hf, hcf⟩
  · simp at hc
  · have hsub : ['.', '%', '/', '\n'] ⊆ [':', '.', '%', '/', '\n'] := by decide
    exact notMem_fields6 hf (hsub hc) hcf

lemma colon_mem_string6 (a : BitVec 128) : ':' ∈ (string6 a).toList := by
  rw [string6_eq]
  exact sep_mem_intercalate (length_fields6 a)

/-! ## Addresses -/

lemma append_cons_inj {l l' t t' : List Char} (hl : c ∉ l) (hl' : c ∉ l')
    (h : l ++ c :: t = l' ++ c :: t') : l = l' ∧ t = t' := by
  induction l generalizing l' with
  | nil =>
    cases l' with
    | nil => simpa using h
    | cons d l' =>
      simp only [List.nil_append, List.cons_append, List.cons.injEq] at h
      exact absurd (h.1 ▸ List.mem_cons_self) hl'
  | cons d l ih =>
    cases l' with
    | nil =>
      simp only [List.nil_append, List.cons_append, List.cons.injEq] at h
      exact absurd (h.1 ▸ List.mem_cons_self) hl
    | cons e l' =>
      simp only [List.cons_append, List.cons.injEq] at h
      simp only [List.mem_cons, not_or] at hl hl'
      obtain ⟨rfl, rfl⟩ := ih hl.2 hl'.2 h.2
      exact ⟨by rw [h.1], rfl⟩

def base6 (a : BitVec 128) : String :=
  if (Addr.v6 a "").is4In6 then "::ffff:" ++ string4 (a.setWidth 32) else string6 a

lemma string_v6 (a : BitVec 128) (zone : String) :
    (Addr.v6 a zone).string = base6 a ++ if zone = "" then "" else "%" ++ zone := rfl

lemma notMem_base6 (hc : c ∈ ['%', '/', '\n']) : c ∉ (base6 a).toList := by
  unfold base6
  split
  · simp only [String.toList_append, List.mem_append, not_or]
    have h4 : ['%', '/', '\n'] ⊆ [':', '%', '/', '\n'] := by decide
    refine ⟨?_, notMem_string4 (h4 hc)⟩
    simp only [List.mem_cons, List.not_mem_nil, or_false] at hc
    rcases hc with rfl | rfl | rfl <;> decide
  · have h6 : ['%', '/', '\n'] ⊆ ['.', '%', '/', '\n'] := by decide
    exact notMem_string6 (h6 hc)

lemma colon_mem_base6 (a : BitVec 128) : ':' ∈ (base6 a).toList := by
  unfold base6
  split
  · simp
  · exact colon_mem_string6 a

lemma base6_inj (h : base6 a = base6 b) : a = b := by
  have hmixed : ∀ x y : BitVec 128, "::ffff:" ++ string4 (x.setWidth 32) ≠ string6 y := by
    intro x y hxy
    have hdot : '.' ∈ (string6 y).toList := by
      rw [← hxy, String.toList_append]
      exact List.mem_append_right _ (dot_mem_string4 _)
    exact notMem_string6 (by simp) hdot
  unfold base6 at h
  split at h <;> split at h
  · rename_i ha hb
    have hlow := string4_inj ((String.append_right_inj _).mp h)
    have hhigh := congrArg BitVec.toNat
      ((beq_iff_eq.mp ha : a >>> 32 = 0xffff#128).trans (beq_iff_eq.mp hb).symm)
    have hlow' := congrArg BitVec.toNat hlow
    simp only [BitVec.toNat_ushiftRight, Nat.shiftRight_eq_div_pow, BitVec.toNat_setWidth]
      at hhigh hlow'
    apply BitVec.eq_of_toNat_eq
    omega
  · exact absurd h (hmixed _ _)
  · exact absurd h.symm (hmixed _ _)
  · exact string6_inj h

lemma zone_inj {z w : String} (h : (Addr.v6 a z).string = (Addr.v6 b w).string) :
    base6 a = base6 b ∧ z = w := by
  have hpct : ∀ x : BitVec 128, '%' ∉ (base6 x).toList := fun x => notMem_base6 (by simp)
  have hlist := congrArg String.toList h
  rw [string_v6, string_v6, String.toList_append, String.toList_append] at hlist
  by_cases hz : z = "" <;> by_cases hw : w = ""
  · subst hz hw
    simp only [if_true, String.toList_empty, List.append_nil] at hlist
    exact ⟨String.toList_injective hlist, rfl⟩
  · subst hz
    simp only [if_true, if_neg hw, String.toList_empty, List.append_nil] at hlist
    exact absurd (hlist ▸ by simp) (hpct a)
  · subst hw
    simp only [if_true, if_neg hz, String.toList_empty, List.append_nil] at hlist
    exact absurd (hlist ▸ by simp) (hpct b)
  · simp only [if_neg hz, if_neg hw, String.toList_append] at hlist
    obtain ⟨hbase, hzone⟩ := append_cons_inj (hpct a) (hpct b) hlist
    exact ⟨String.toList_injective hbase, String.toList_injective hzone⟩

lemma colon_mem_string {a : Addr} : ':' ∈ a.string.toList ↔ a.is6 := by
  cases a with
  | zero => decide
  | v4 x =>
    have h : ':' ∉ (Addr.v4 x).string.toList := notMem_string4 (by simp)
    exact iff_of_false h (by simp [Addr.is6])
  | v6 x zone =>
    rw [string_v6, String.toList_append]
    exact iff_of_true (List.mem_append_left _ (colon_mem_base6 x)) rfl

lemma Addr.string_inj {a b : Addr} (h : a.string = b.string) : a = b := by
  have hcolon : (':' ∈ a.string.toList) = (':' ∈ b.string.toList) := by rw [h]
  rw [colon_mem_string, colon_mem_string] at hcolon
  have hdot : ∀ x : BitVec 32, (Addr.v4 x).string ≠ Addr.zero.string := by
    intro x hx
    have hmem := dot_mem_string4 x
    rw [show string4 x = "invalid IP" from hx] at hmem
    revert hmem
    decide
  cases a with
  | zero =>
    cases b with
    | zero => rfl
    | v4 y => exact absurd h.symm (hdot y)
    | v6 y zone => simp [Addr.is6] at hcolon
  | v4 x =>
    cases b with
    | zero => exact absurd h (hdot x)
    | v4 y => rw [string4_inj h]
    | v6 y zone => simp [Addr.is6] at hcolon
  | v6 x zone =>
    cases b with
    | zero => simp [Addr.is6] at hcolon
    | v4 y => simp [Addr.is6] at hcolon
    | v6 y zone' =>
      obtain ⟨hbase, rfl⟩ := zone_inj h
      rw [base6_inj hbase]

lemma Prefix.newline_notMem_string {p : Prefix} (h : p.ip.hasZone = false) :
    '\n' ∉ p.string.toList := by
  have haddr : '\n' ∉ p.ip.string.toList := by
    cases hip : p.ip with
    | zero => decide
    | v4 a => exact notMem_string4 (by simp)
    | v6 a zone =>
      have hzone : zone = "" := by simpa [hip, Addr.hasZone] using h
      simpa [string_v6, hzone] using notMem_base6 (a := a) (c := '\n') (by simp)
  unfold Prefix.string
  split
  · simp only [String.toList_append, List.mem_append, not_or]
    exact ⟨⟨haddr, by decide⟩, notMem_toString (by simp)⟩
  · decide

lemma Prefix.string_inj {p q : Prefix} (hp : p.isValid) (hq : q.isValid)
    (h : p.string = q.string) : p = q := by
  have hslash : ∀ n : Nat, '/' ∉ (toString n).toList.reverse := by
    intro n
    rw [List.mem_reverse]
    exact notMem_toString (by simp)
  have hrev := congrArg (fun s => s.toList.reverse) h
  simp only [Prefix.string, hp, hq, if_true, String.toList_append, List.reverse_append] at hrev
  -- read from the right, the first slash ends the length
  obtain ⟨hbits, haddr⟩ := append_cons_inj (hslash p.bits) (hslash q.bits) hrev
  have hb := toString_inj (String.toList_injective (List.reverse_injective hbits))
  have ha := Addr.string_inj (String.toList_injective (List.reverse_injective haddr))
  obtain ⟨ip, n⟩ := p
  obtain ⟨iq, m⟩ := q
  simp only [Prefix.isValid, decide_eq_true_eq, Prefix.bits] at hp hq hb
  simp only at ha
  rw [ha, show n = m by omega]

end DarwinNet.Netip
