import Mathlib.Data.List.Basic
import Mathlib.Tactic.Ring

/-!
Byte strings as network code reads and writes them: slices that are checked against the
length, numbers in network order, writes into a buffer, and the sums of 16-bit words in one's
complement that the Internet checksum is made of.

* `be_bytesBE`: a number written to `k` bytes is read back modulo `256 ^ k`;
* `fold16_eq`: a positive sum folds to the representative of its class modulo `65535` in
  `1, …, 65535`;
* `fold16_complement`: a sum and the complement of its fold add up to all ones.
-/

namespace DarwinNet.Lib.Bytes

/-- `b[i:j]`; `none` if that is not inside `b`. -/
def slice (b : List UInt8) (i j : Nat) : Option (List UInt8) :=
  if i ≤ j ∧ j ≤ b.length then some ((b.drop i).take (j - i)) else none

def field (b : List UInt8) (i n : Nat) : List UInt8 := (b.drop i).take n

def put (b : List UInt8) (i : Nat) (bs : List UInt8) : List UInt8 :=
  b.take i ++ bs ++ b.drop (i + bs.length)

variable {b : List UInt8} {i n : Nat}

lemma slice_eq (h : i + n ≤ b.length) : slice b i (i + n) = some (field b i n) := by
  rw [slice, if_pos ⟨Nat.le_add_right i n, h⟩, field, Nat.add_sub_cancel_left]

lemma length_field (h : i + n ≤ b.length) : (field b i n).length = n := by
  rw [field, List.length_take, List.length_drop]
  omega

lemma field_field {j m : Nat} (h : j + m ≤ n) : field (field b i n) j m = field b (i + j) m := by
  rw [field, field, field, List.drop_take, List.take_take, List.drop_drop]
  congr 1
  omega

lemma getElem?_field {j : Nat} (h : j < n) : (field b i n)[j]? = b[i + j]? := by
  rw [field, List.getElem?_take_of_lt h, List.getElem?_drop]

/-! ## Numbers in network order -/

def be (b : List UInt8) : Nat := b.foldl (fun n x => n * 256 + x.toNat) 0

def bytesBE : Nat → Nat → List UInt8
  | 0, _ => []
  | k + 1, n => UInt8.ofNat (n / 256 ^ k) :: bytesBE k n

lemma length_bytesBE (k n : Nat) : (bytesBE k n).length = k := by
  induction k with
  | zero => rfl
  | succ k ih => rw [bytesBE, List.length_cons, ih]

lemma be_from (b : List UInt8) (n : Nat) :
    b.foldl (fun n x => n * 256 + x.toNat) n = n * 256 ^ b.length + be b := by
  induction b generalizing n with
  | nil => simp [be]
  | cons x b ih =>
    rw [be, List.foldl_cons, List.foldl_cons, ih, ih (0 * 256 + x.toNat), List.length_cons]
    ring

lemma be_cons (x : UInt8) (b : List UInt8) : be (x :: b) = x.toNat * 256 ^ b.length + be b := by
  rw [be, List.foldl_cons, be_from]
  ring

lemma be_lt (b : List UInt8) : be b < 256 ^ b.length := by
  induction b with
  | nil => simp [be]
  | cons x b ih =>
    have hx : x.toNat + 1 ≤ 256 := x.toNat_lt
    have hmul := Nat.mul_le_mul_right (256 ^ b.length) hx
    rw [be_cons, List.length_cons, Nat.pow_succ, Nat.mul_comm (256 ^ b.length)]
    rw [Nat.add_mul, Nat.one_mul] at hmul
    omega

lemma be_bytesBE (k n : Nat) : be (bytesBE k n) = n % 256 ^ k := by
  induction k with
  | zero => simp [bytesBE, be, Nat.mod_one]
  | succ k ih =>
    have hsucc : n % 256 ^ (k + 1) = n % 256 ^ k + 256 ^ k * (n / 256 ^ k % 256) :=
      Nat.mod_pow_succ
    rw [bytesBE, be_cons, ih, length_bytesBE, UInt8.toNat_ofNat', hsucc, Nat.mul_comm (256 ^ k)]
    exact Nat.add_comm _ _

/-! ## Sums of words -/

/-- The sum of the 16-bit words; a last single byte is the high half of one. -/
def wordSum : List UInt8 → Nat
  | x :: y :: b => be [x, y] + wordSum b
  | [x] => x.toNat * 256
  | [] => 0

lemma be_pair (x y : UInt8) : be [x, y] = x.toNat * 256 + y.toNat := by
  simp [be]

lemma wordSum_le (b : List UInt8) : wordSum b ≤ b.length * 65535 := by
  induction b using wordSum.induct with
  | case1 x y b ih =>
    have hx := x.toNat_lt
    have hy := y.toNat_lt
    rw [wordSum, be_pair, List.length_cons, List.length_cons]
    omega
  | case2 x =>
    have hx := x.toNat_lt
    rw [wordSum, List.length_singleton]
    omega
  | case3 => exact Nat.le_refl 0

lemma wordSum_append (a b : List UInt8) (h : a.length % 2 = 0) :
    wordSum (a ++ b) = wordSum a + wordSum b := by
  induction a using wordSum.induct with
  | case1 x y a ih =>
    have ha : a.length % 2 = 0 := by
      rw [List.length_cons, List.length_cons] at h
      omega
    rw [List.cons_append, List.cons_append, wordSum, wordSum, ih ha, Nat.add_assoc]
  | case2 x => simp at h
  | case3 => simp [wordSum]

lemma wordSum_put {a : List UInt8} (h : a.length % 2 = 0) (hn : n < 65536) :
    wordSum (a ++ bytesBE 2 n ++ b) = wordSum (a ++ [0, 0] ++ b) + n := by
  have hnum : wordSum (bytesBE 2 n) = n := by
    have hbe := be_bytesBE 2 n
    rw [Nat.mod_eq_of_lt (by omega)] at hbe
    simpa [wordSum, bytesBE] using hbe
  have hzero : wordSum [0, 0] = 0 := by decide
  rw [wordSum_append _ b (by simp [length_bytesBE, h]), wordSum_append a _ h,
    wordSum_append _ b (by simp [h]), wordSum_append a _ h, hnum, hzero]
  omega

/-- Add the carries back until the sum has 16 bits. -/
def fold16 (n : Nat) : Nat := if n / 65536 = 0 then n else fold16 (n % 65536 + n / 65536)
termination_by n
decreasing_by omega

lemma fold16_eq (n : Nat) :
    fold16 n < 65536 ∧ fold16 n % 65535 = n % 65535 ∧ (0 < n → 0 < fold16 n) := by
  induction n using fold16.induct with
  | case1 n h =>
    rw [fold16, if_pos h]
    exact ⟨by omega, rfl, id⟩
  | case2 n h ih =>
    rw [fold16, if_neg h]
    obtain ⟨hlt, hmod, hpos⟩ := ih
    refine ⟨hlt, by omega, fun _ => hpos (by omega)⟩

lemma fold16_complement (n : Nat) : fold16 (n + (65535 - fold16 n)) = 65535 := by
  obtain ⟨hlt, hmod, -⟩ := fold16_eq n
  obtain ⟨hlt', hmod', hpos'⟩ := fold16_eq (n + (65535 - fold16 n))
  -- the sum is positive and a multiple of 65535
  have hsum : 0 < n + (65535 - fold16 n) := by
    rcases Nat.eq_zero_or_pos n with rfl | hn
    · have hzero : fold16 0 = 0 := by
        rw [fold16]
        rfl
      omega
    · omega
  have hpos := hpos' hsum
  omega

end DarwinNet.Lib.Bytes
