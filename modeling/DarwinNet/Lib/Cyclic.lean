import Mathlib.Data.Int.CardIntervalMod
import Mathlib.Data.List.Chain

/-!
Taking turns. `turns d l c n` are the `n` members of `l` that come up when a counter starts
at `c` and picks the member at its value modulo the length of `l`. In a list without
repetitions every member comes up `n / l.length` times or once more
(`count_turns_bounds`), whatever the counter starts at, so no two of them are more than one
turn apart (`count_turns_le`). In an ordered list this is so for no other reason
(`fair_turns_iff`): two neighbours that are the same come up one after the other.
-/

namespace DarwinNet.Lib

variable {α : Type}

/-- The members of `l` at the counter values from `c` on; `d` for an empty list. -/
def turns (d : α) (l : List α) (c : Nat) : Nat → List α
  | 0 => []
  | n + 1 => l.getD (c % l.length) d :: turns d l (c + 1) n

lemma map_turns {β : Type} (f : α → β) (d : α) (l : List α) (c n : Nat) :
    (turns d l c n).map f = turns (f d) (l.map f) c n := by
  induction n generalizing c with
  | zero => rfl
  | succ n ih =>
    have hget : f (l.getD (c % l.length) d) = (l.map f).getD (c % l.length) (f d) := by
      simp [List.getD_eq_getElem?_getD, List.getElem?_map, Option.getD_map]
    rw [turns, turns, List.map_cons, ih, hget, List.length_map]

lemma exists_neighbours_eq {l : List α} {R : α → α → Prop} [IsTrans α R] [Std.Antisymm R]
    (hl : l.Pairwise R) (hdup : ¬ l.Nodup) : ∃ i, ∃ h : i + 1 < l.length, l[i] = l[i + 1] := by
  by_contra hno
  push Not at hno
  have htrans : IsTrans α fun a b => R a b ∧ a ≠ b := by
    refine ⟨fun a b c hab hbc => ⟨IsTrans.trans _ _ _ hab.1 hbc.1, ?_⟩⟩
    rintro rfl
    exact hab.2 (antisymm hab.1 hbc.1)
  have hchain : l.IsChain fun a b => R a b ∧ a ≠ b := by
    refine List.isChain_iff_getElem.mpr fun i hi => ⟨?_, hno i hi⟩
    exact List.pairwise_iff_getElem.mp hl i (i + 1) (by omega) hi (by omega)
  exact hdup ((List.isChain_iff_pairwise.mp hchain).imp fun h => h.2)

variable [DecidableEq α] {l : List α}

lemma count_turns (hl : l.Nodup) (d : α) {k : Nat} (hk : k < l.length) (c n : Nat) :
    (turns d l c n).count l[k] = Nat.count (fun i => c + i ≡ k [MOD l.length]) n := by
  induction n generalizing c with
  | zero => rfl
  | succ n ih =>
    have hlt : c % l.length < l.length := Nat.mod_lt _ (by omega)
    have hfirst : (l.getD (c % l.length) d == l[k]) = decide (c + 0 ≡ k [MOD l.length]) := by
      rw [List.getD_eq_getElem?_getD, List.getElem?_eq_getElem hlt, Option.getD_some]
      rw [Bool.eq_iff_iff, beq_iff_eq, decide_eq_true_eq, hl.getElem_inj_iff]
      rw [Nat.ModEq, Nat.mod_eq_of_lt hk, Nat.add_zero]
    have hrest : ∀ i, (c + 1 + i ≡ k [MOD l.length]) = (c + (i + 1) ≡ k [MOD l.length]) := by
      intro i
      rw [Nat.add_assoc, Nat.add_comm 1 i]
    rw [turns, List.count_cons, hfirst, ih, Nat.count_succ']
    simp only [hrest, decide_eq_true_eq]

lemma count_turns_bounds (hl : l.Nodup) (d : α) {a : α} (ha : a ∈ l) (c n : Nat) :
    n / l.length ≤ (turns d l c n).count a ∧ (turns d l c n).count a ≤ n / l.length + 1 := by
  obtain ⟨k, hk, rfl⟩ := List.getElem_of_mem ha
  have hpos : 0 < l.length := by omega
  -- the counter's start shifts the place that is hit
  have hshift : ∀ i, c + i ≡ k [MOD l.length] ↔ i ≡ k + (l.length - 1) * c [MOD l.length] := by
    intro i
    have hzero : c + (k + (l.length - 1) * c) ≡ k [MOD l.length] := by
      have hsum : c + (k + (l.length - 1) * c) = k + l.length * c := by
        obtain ⟨m, hm⟩ : ∃ m, l.length = m + 1 := ⟨l.length - 1, by omega⟩
        rw [hm, Nat.add_sub_cancel, Nat.succ_mul]
        omega
      rw [hsum, Nat.ModEq, Nat.add_mul_mod_self_left]
    constructor
    · intro h
      exact Nat.ModEq.add_left_cancel' c (h.trans hzero.symm)
    · intro h
      exact (h.add_left c).trans hzero
  rw [count_turns hl d hk]
  simp only [hshift]
  rw [Nat.count_modEq_card n hpos]
  split <;> omega

lemma count_turns_le (hl : l.Nodup) (d : α) {a b : α} (ha : a ∈ l) (hb : b ∈ l) (c n : Nat) :
    (turns d l c n).count a ≤ (turns d l c n).count b + 1 := by
  have hbound := count_turns_bounds hl d ha c n
  have hbound' := count_turns_bounds hl d hb c n
  omega

/-- Every stretch of an ordered list's turns is fair exactly if no member repeats, or there is
only one. The counter may be bounded, above the length of the list. -/
lemma fair_turns_iff {R : α → α → Prop} [IsTrans α R] [Std.Antisymm R] (hl : l.Pairwise R) (d : α)
    {bound : Nat} (hbound : l.length ≤ bound) :
    (∀ c n, c + n ≤ bound → ∀ a ∈ l, ∀ b ∈ l,
      (turns d l c n).count a ≤ (turns d l c n).count b + 1) ↔
      l.Nodup ∨ ∀ a ∈ l, ∀ b ∈ l, a = b := by
  constructor
  · intro hfair
    by_contra hnot
    push Not at hnot
    obtain ⟨hdup, a, ha, b, hb, hab⟩ := hnot
    obtain ⟨i, hi, heq⟩ := exists_neighbours_eq hl hdup
    have hturns : turns d l i 2 = [l[i], l[i]] := by
      have hi' : i < l.length := by omega
      simp [turns, Nat.mod_eq_of_lt, hi, hi', List.getD_eq_getElem?_getD, ← heq]
    -- a member that the two turns pass over
    obtain ⟨other, hother, hne⟩ : ∃ other ∈ l, l[i] ≠ other := by
      by_cases h : l[i] = a
      · exact ⟨b, hb, h ▸ hab⟩
      · exact ⟨a, ha, h⟩
    have hcount := hfair i 2 (by omega) l[i] (List.getElem_mem _) other hother
    rw [hturns] at hcount
    simp [hne] at hcount
  · rintro (hnodup | hone) c n - a ha b hb
    · exact count_turns_le hnodup d ha hb c n
    · rw [hone a ha b hb]
      exact Nat.le_succ _

end DarwinNet.Lib
