import Mathlib.Logic.Basic

/-!
Loops that accumulate. A property of the accumulator that each turn keeps, or
establishes from the element it visits, holds after the loop iff it held before or
some element establishes it.
-/

namespace DarwinNet.Lib

universe u v

variable {σ : Type u} {α : Type v} {Q : σ → Prop} {P : α → Prop}

/-- A property that one turn adds exactly where `P` holds is there after some turn had it. -/
lemma foldl_iff {f : σ → α → σ} (l : List α) (hturn : ∀ s, ∀ x ∈ l, Q (f s x) ↔ Q s ∨ P x)
    (s : σ) : Q (l.foldl f s) ↔ Q s ∨ ∃ x ∈ l, P x := by
  induction l generalizing s with
  | nil => simp
  | cons x l ih =>
    rw [List.foldl_cons, ih (fun s y hy => hturn s y (List.mem_cons_of_mem x hy)),
      hturn s x List.mem_cons_self, or_assoc]
    simp

lemma foldl_if_iff {f : σ → α → σ} {c : α → Prop} [DecidablePred c] (l : List α)
    (hturn : ∀ s, ∀ x ∈ l, Q (f s x) ↔ Q s ∨ P x) (s : σ) :
    Q (l.foldl (fun s x => if c x then f s x else s) s) ↔ Q s ∨ ∃ x ∈ l, c x ∧ P x := by
  refine foldl_iff (Q := Q) l (fun s x hx => ?_) s
  by_cases hc : c x
  · simp [hc, hturn s x hx]
  · simp [hc]

end DarwinNet.Lib
