import Mathlib.Logic.Function.Iterate

/-!
Bounded search along the iterates of a function: `scan next taken n c` is the
first of `c`, `next c`, … that is not taken, among `n` of them.

`scan_eq_none_iff` and `scan_eq_some` are its specification; over a ring of `n`
positions `n` iterates reach every position from any start
(`exists_iterate_succ_mod`).
-/

namespace DarwinNet.Lib

variable {α : Type} {next : α → α} {taken : α → Bool} {n : Nat}

def scan (next : α → α) (taken : α → Bool) : Nat → α → Option α
  | 0, _ => none
  | n + 1, c => if taken c then scan next taken n (next c) else some c

/-- A scan fails exactly if every candidate is taken. -/
lemma scan_eq_none_iff {c : α} :
    scan next taken n c = none ↔ ∀ i < n, taken (next^[i] c) = true := by
  induction n generalizing c with
  | zero => simp [scan]
  | succ n ih =>
    rw [scan]
    constructor
    · intro h i hi
      split at h
      · rename_i hc
        cases i with
        | zero => exact hc
        | succ i => exact ih.mp h i (by omega)
      · cases h
    · intro h
      have hc : taken c = true := h 0 (by omega)
      rw [if_pos hc, ih]
      exact fun i hi => h (i + 1) (by omega)

lemma scan_eq_some {c x : α} (h : scan next taken n c = some x) :
    taken x = false ∧ ∃ i < n, x = next^[i] c := by
  induction n generalizing c with
  | zero => cases h
  | succ n ih =>
    rw [scan] at h
    split at h
    · obtain ⟨hx, i, hi, rfl⟩ := ih h
      exact ⟨hx, i + 1, by omega, rfl⟩
    · rename_i hc
      cases h
      exact ⟨by simpa using hc, 0, by omega, rfl⟩

lemma iterate_succ_mod (c i : Nat) (hc : c < n) : (fun j => (j + 1) % n)^[i] c = (c + i) % n := by
  induction i with
  | zero => exact (Nat.mod_eq_of_lt hc).symm
  | succ i ih => rw [Function.iterate_succ_apply', ih, Nat.mod_add_mod, Nat.add_assoc]

lemma exists_iterate_succ_mod {c j : Nat} (hc : c < n) (hj : j < n) :
    ∃ i < n, (fun k => (k + 1) % n)^[i] c = j := by
  by_cases h : c ≤ j
  · exact ⟨j - c, by omega, by rw [iterate_succ_mod c _ hc, Nat.add_sub_cancel' h,
      Nat.mod_eq_of_lt hj]⟩
  · refine ⟨n + j - c, by omega, ?_⟩
    have hsum : c + (n + j - c) = j + n := by omega
    rw [iterate_succ_mod c _ hc, hsum, Nat.add_mod_right, Nat.mod_eq_of_lt hj]

end DarwinNet.Lib
