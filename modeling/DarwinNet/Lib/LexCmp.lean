import Mathlib.Data.List.Lex
import Mathlib.Data.Prod.Lex
import Mathlib.Data.Sum.Order

/-!
Three-way comparison in a linear order, and that of pairs, lists and sums in their lexicographic
orders: the comparison of the first parts, and where they are equal that of the rest; the left
summands before the right ones.
-/

namespace DarwinNet.Lib

variable {α β : Type} [LinearOrder α] [LinearOrder β] {a b : α}

def sign (a b : α) : Ordering := cmp a b

lemma sign_eq_lt : sign a b = .lt ↔ a < b := cmp_eq_lt_iff a b

lemma sign_eq_gt : sign a b = .gt ↔ b < a := cmp_eq_gt_iff a b

lemma sign_eq_eq : sign a b = .eq ↔ a = b := cmp_eq_eq_iff a b

lemma sign_self (a : α) : sign a a = .eq := cmp_self_eq_eq a

lemma sign_congr {c d : β} (hlt : a < b ↔ c < d) (hgt : b < a ↔ d < c) : sign a b = sign c d := by
  rcases lt_trichotomy c d with h | rfl | h
  · rw [sign_eq_lt.mpr h, sign_eq_lt.mpr (hlt.mpr h)]
  · rw [sign_self, sign_eq_eq]
    exact le_antisymm (not_lt.mp fun h => lt_irrefl _ (hgt.mp h))
      (not_lt.mp fun h => lt_irrefl _ (hlt.mp h))
  · rw [sign_eq_gt.mpr h, sign_eq_gt.mpr (hgt.mpr h)]

lemma ite_eq_sign [Decidable (a < b)] [Decidable (b < a)] :
    (if a < b then .lt else if b < a then .gt else .eq) = sign a b := by
  split
  · next h => exact (sign_eq_lt.mpr h).symm
  next hlt =>
  split
  · next h => exact (sign_eq_gt.mpr h).symm
  · next hgt => exact (sign_eq_eq.mpr (le_antisymm (not_lt.mp hgt) (not_lt.mp hlt))).symm

lemma sign_inl (a b : α) : sign (Sum.inlₗ a : α ⊕ₗ β) (Sum.inlₗ b) = sign a b :=
  sign_congr Sum.Lex.inl_lt_inl_iff Sum.Lex.inl_lt_inl_iff

lemma sign_inr (a b : β) : sign (Sum.inrₗ a : α ⊕ₗ β) (Sum.inrₗ b) = sign a b :=
  sign_congr Sum.Lex.inr_lt_inr_iff Sum.Lex.inr_lt_inr_iff

lemma sign_inl_inr (a : α) (b : β) : sign (Sum.inlₗ a : α ⊕ₗ β) (Sum.inrₗ b) = .lt :=
  sign_eq_lt.mpr (Sum.Lex.inl_lt_inr a b)

lemma sign_inr_inl (a : β) (b : α) : sign (Sum.inrₗ a : α ⊕ₗ β) (Sum.inlₗ b) = .gt :=
  sign_eq_gt.mpr (Sum.Lex.inl_lt_inr b a)

lemma sign_coe (a b : α) : sign (a : WithTop α) (b : WithTop α) = sign a b :=
  sign_congr WithTop.coe_lt_coe WithTop.coe_lt_coe

lemma sign_prod (a c : α) (b d : β) :
    sign (toLex (a, b)) (toLex (c, d)) = (sign a c).then (sign b d) := by
  rcases lt_trichotomy a c with h | rfl | h
  · rw [sign_eq_lt.mpr h]
    exact sign_eq_lt.mpr (Prod.Lex.toLex_lt_toLex.mpr (.inl h))
  · rw [sign_self, Ordering.eq_then]
    refine sign_congr ?_ ?_ <;> simp [Prod.Lex.toLex_lt_toLex]
  · rw [sign_eq_gt.mpr h]
    exact sign_eq_gt.mpr (Prod.Lex.toLex_lt_toLex.mpr (.inl h))

lemma sign_cons (a b : α) (l m : List α) : sign (a :: l) (b :: m) = (sign a b).then (sign l m) := by
  rcases lt_trichotomy a b with h | rfl | h
  · rw [sign_eq_lt.mpr h]
    exact sign_eq_lt.mpr (List.cons_lt_cons_iff.mpr (.inl h))
  · rw [sign_self, Ordering.eq_then]
    refine sign_congr ?_ ?_ <;> rw [List.cons_lt_cons_iff] <;> simp
  · rw [sign_eq_gt.mpr h]
    exact sign_eq_gt.mpr (List.cons_lt_cons_iff.mpr (.inl h))

end DarwinNet.Lib
