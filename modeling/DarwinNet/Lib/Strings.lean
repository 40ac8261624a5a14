import Mathlib.Data.List.TakeWhile

/-!
White space around a text, as `strings.TrimSpace` removes it (`trimSpace`). A text without
white space inside is what is left of it with any around it (`trimSpace_append`).
-/

namespace DarwinNet.Lib

def isSpace (c : Char) : Bool :=
  c.toNat ∈ [0x09, 0x0a, 0x0b, 0x0c, 0x0d, 0x20, 0x85, 0xa0, 0x1680, 0x2028, 0x2029, 0x202f,
    0x205f, 0x3000] || (0x2000 ≤ c.toNat && c.toNat ≤ 0x200a)

def trimSpace (s : List Char) : List Char :=
  ((s.dropWhile isSpace).reverse.dropWhile isSpace).reverse

lemma dropWhile_isSpace {s : List Char} (h : ∀ c ∈ s, isSpace c = false) :
    s.dropWhile isSpace = s := by
  cases s with
  | nil => rfl
  | cons c s => rw [List.dropWhile_cons_of_neg (by simp [h c (by simp)])]

lemma trimSpace_append {s t : List Char} (hs : ∀ c ∈ s, isSpace c = false)
    (ht : ∀ c ∈ t, isSpace c = true) : trimSpace (s ++ t) = s := by
  have htrim : (t.reverse ++ s.reverse).dropWhile isSpace = s.reverse := by
    rw [List.dropWhile_append_of_pos (by simpa using ht)]
    exact dropWhile_isSpace (by simpa using hs)
  unfold trimSpace
  cases s with
  | nil =>
    have hnil : t.dropWhile isSpace = [] := List.dropWhile_eq_nil_iff.mpr ht
    simp [hnil]
  | cons c s =>
    rw [List.cons_append, List.dropWhile_cons_of_neg (by simp [hs c (by simp)]),
      ← List.cons_append, List.reverse_append, htrim, List.reverse_reverse]

end DarwinNet.Lib
