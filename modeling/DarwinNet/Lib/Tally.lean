import DarwinNet.Lib.GoMap
import Mathlib.Algebra.BigOperators.Group.Finset.Piecewise
import Mathlib.Algebra.Order.BigOperators.Group.Finset
import Mathlib.Data.Fintype.Basic

/-!
Maps that count. `incr` and `decr` are the two writes of a counter map whose
entries are pruned at zero; `Counts m f` says that `m` holds exactly the counts
`f`, with an entry for `k` iff `f k` is not zero.

* `Counts.incr`, `Counts.decr`: one more, one fewer occurrence of a key;
* `countBy_insert`, `countBy_erase`: the number of values with a property after a
  write;
* `sum_update`: a sum over a family of which one member changes.
-/

namespace DarwinNet.Lib

section Sums

variable {ι : Type} [Fintype ι] [DecidableEq ι] {α : Type}

lemma sum_eq_erase_add (f : α → Nat) (g : ι → α) (i : ι) :
    ∑ j, f (g j) = ∑ j ∈ Finset.univ.erase i, f (g j) + f (g i) :=
  (Finset.sum_erase_add _ _ (Finset.mem_univ i)).symm

lemma sum_update (f : α → Nat) (g : ι → α) (i : ι) (x : α) :
    ∑ j, f (Function.update g i x j) = ∑ j ∈ Finset.univ.erase i, f (g j) + f x := by
  rw [sum_eq_erase_add f (Function.update g i x) i, Function.update_self]
  congr 1
  refine Finset.sum_congr rfl fun j hj => ?_
  rw [Function.update_of_ne (Finset.ne_of_mem_erase hj)]

end Sums

namespace GoMap

variable {K V : Type} {m : GoMap K V} {p : V → Bool}

def countBy (p : V → Bool) (m : GoMap K V) : Nat := sumBy (fun v => if p v then 1 else 0) m

lemma countBy_true (m : GoMap K V) : countBy (fun _ => true) m = size m := by
  rw [size_eq_sumBy]
  rfl

@[simp] lemma countBy_empty : countBy p (∅ : GoMap K V) = 0 := rfl

lemma sum_countBy_le (f : V → Nat) (n : Nat) (m : GoMap K V) :
    ∑ x ∈ Finset.range n, countBy (fun v => f v == x) m ≤ size m := by
  unfold countBy sumBy size
  induction m.entries with
  | nil => simp
  | cons e es ih =>
    have hone : (∑ x ∈ Finset.range n, if f e.2 == x then 1 else 0) ≤ 1 := by
      simp only [beq_iff_eq, Finset.sum_ite_eq]
      split <;> simp
    simp only [List.map_cons, List.sum_cons, Finset.sum_add_distrib, List.length_cons] at ih ⊢
    omega

variable [DecidableEq K] {k : K} {v : V}

lemma countBy_erase (h : m.lookup k = some v) :
    countBy p (m.erase k) + (if p v then 1 else 0) = countBy p m := by
  have := sumBy_erase (fun v => if p v then 1 else 0) m k
  simp only [valueAt, h, Option.map_some, Option.getD_some] at this
  exact this

lemma countBy_insert (h : m.lookup k = none) :
    countBy p (m.insert k v) = countBy p m + (if p v then 1 else 0) := by
  have := sumBy_insert (fun v => if p v then 1 else 0) m k v
  simp only [valueAt, h, Option.map_none, Option.getD_none, Nat.add_zero] at this
  exact this

lemma countBy_insert_same {w : V} (h : m.lookup k = some w) (hp : p v = p w) :
    countBy p (m.insert k v) = countBy p m := by
  have := sumBy_insert (fun v => if p v then 1 else 0) m k v
  simp only [valueAt, h, Option.map_some, Option.getD_some, hp] at this
  exact Nat.add_right_cancel this

/-! ## Counter maps -/

def count (m : GoMap K Int) (k : K) : Int := (m.lookup k).getD 0

def incr (m : GoMap K Int) (k : K) : GoMap K Int := m.insert k (count m k + 1)

/-- `m[k]--`, and the entry is deleted if that leaves nothing. -/
def decr (m : GoMap K Int) (k : K) : GoMap K Int :=
  let m' := m.insert k (count m k - 1)
  if count m' k ≤ 0 then m'.erase k else m'

/-- The map holds the counts `f`, and no entry for what does not occur. -/
def Counts (m : GoMap K Int) (f : K → Nat) : Prop :=
  ∀ k, m.lookup k = if f k = 0 then none else some (f k : Int)

variable {m : GoMap K Int} {f g : K → Nat}

lemma counts_empty : Counts (∅ : GoMap K Int) fun _ => 0 := fun _ => rfl

lemma Counts.count_eq (h : Counts m f) (k : K) : count m k = f k := by
  by_cases h0 : f k = 0
  · simp [count, h k, h0]
  · simp [count, h k, h0]

lemma Counts.incr (h : Counts m f) (hg : ∀ j, g j = f j + if k = j then 1 else 0) :
    Counts (incr m k) g := by
  intro j
  rw [GoMap.incr, lookup_insert_ite, h.count_eq, hg j]
  by_cases hj : j = k
  · subst hj
    simp
  · simp [hj, Ne.symm hj, h j]

lemma Counts.decr (h : Counts m f) (hg : ∀ j, f j = g j + if k = j then 1 else 0) :
    Counts (decr m k) g := by
  have hk : (f k : Int) = g k + 1 := by
    rw [hg k, if_pos rfl]
    rfl
  have hval : count m k - 1 = g k := by
    rw [h.count_eq, hk]
    omega
  have hne : ∀ j, j ≠ k → f j = g j := fun j hj => by rw [hg j, if_neg (Ne.symm hj), Nat.add_zero]
  have hcount : count (m.insert k (g k : Int)) k = g k := by simp [count]
  intro j
  simp only [GoMap.decr, hval, hcount]
  by_cases hj : j = k
  · subst hj
    by_cases h0 : g j = 0
    · simp [h0]
    · rw [if_neg (by omega), if_neg h0, AList.lookup_insert]
  · split
    · simp [hj, h j, hne j hj]
    · simp [hj, h j, hne j hj]

end GoMap

end DarwinNet.Lib
