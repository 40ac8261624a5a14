import Mathlib.Data.List.Sort

/-!
Sets kept as sorted lists without duplicates, as the standard library's `slices`
package builds and searches them: sort, drop equal neighbours, binary search.

* `normalize_eq_iff`: two lists normalise to the same list iff they have the
  same elements;
* `binarySearch_found`: in a sorted list the search finds exactly the elements;
* `mem_setMinus`: filtering by failed searches is set difference.
-/

namespace DarwinNet.Lib.SortedSet

variable {α : Type} [LinearOrder α]

/-- `slices.Compact`: equal neighbours become one. -/
def compact : List α → List α
  | [] => []
  | [a] => [a]
  | a :: b :: l => if a = b then compact (b :: l) else a :: compact (b :: l)

def normalize (l : List α) : List α := compact (l.insertionSort (· ≤ ·))

lemma mem_compact (l : List α) (x : α) : x ∈ compact l ↔ x ∈ l := by
  induction l using compact.induct with
  | case1 => rfl
  | case2 a => rfl
  | case3 b l ih => simp [compact, ih]
  | case4 a b l hab ih => simp [compact, hab, ih]

lemma compact_strict (l : List α) (h : l.Pairwise (· ≤ ·)) : (compact l).Pairwise (· < ·) := by
  induction l using compact.induct with
  | case1 => exact .nil
  | case2 a => simp [compact]
  | case3 b l ih =>
    simp only [compact, if_true]
    exact ih h.of_cons
  | case4 a b l hab ih =>
    simp only [compact, if_neg hab]
    refine List.pairwise_cons.mpr ⟨fun x hx => ?_, ih h.of_cons⟩
    rw [mem_compact] at hx
    have hb : a ≤ b := List.rel_of_pairwise_cons h List.mem_cons_self
    rcases List.mem_cons.mp hx with rfl | hx
    · exact lt_of_le_of_ne hb hab
    · exact lt_of_lt_of_le (lt_of_le_of_ne hb hab) (List.rel_of_pairwise_cons h.of_cons hx)

lemma normalize_strict (l : List α) : (normalize l).Pairwise (· < ·) :=
  compact_strict _ (List.pairwise_insertionSort _ l)

lemma mem_normalize (l : List α) (x : α) : x ∈ normalize l ↔ x ∈ l := by
  rw [normalize, mem_compact, List.mem_insertionSort]

/-- Normal forms are equal exactly for equal sets. -/
lemma normalize_eq_iff (a b : List α) : normalize a = normalize b ↔ ∀ x, x ∈ a ↔ x ∈ b := by
  constructor
  · intro h x
    rw [← mem_normalize a, ← mem_normalize b, h]
  · intro h
    refine (normalize_strict a).eq_of_mem_iff (normalize_strict b) fun x => ?_
    rw [mem_normalize, mem_normalize, h]

/-! ## Binary search -/

/-- The loop of `slices.BinarySearch` on the window from `i` to `j`, for at most
`n` rounds. -/
def searchLoop (l : List α) (x : α) : Nat → Nat → Nat → Nat
  | 0, i, _ => i
  | n + 1, i, j =>
    if i < j then
      let h := (i + j) / 2
      if l[h]?.any (· < x) then searchLoop l x n (h + 1) j else searchLoop l x n i h
    else i

/-- The position where `x` stands or would stand, and whether it is there. -/
def binarySearch (l : List α) (x : α) : Nat × Bool :=
  let i := searchLoop l x l.length 0 l.length
  (i, l[i]? = some x)

lemma getElem?_mono {l : List α} (hs : l.Pairwise (· ≤ ·)) {a b : Nat} {u w : α}
    (hab : a ≤ b) (hu : l[a]? = some u) (hw : l[b]? = some w) : u ≤ w := by
  obtain ⟨ha, rfl⟩ := List.getElem?_eq_some_iff.mp hu
  obtain ⟨hb, rfl⟩ := List.getElem?_eq_some_iff.mp hw
  rcases Nat.lt_or_eq_of_le hab with hab | rfl
  · exact List.pairwise_iff_getElem.mp hs a b ha hb hab
  · exact le_rfl

/-- The window closes on the boundary between the elements below `x` and the
others; `n` rounds are enough for a window of at most `n`. -/
lemma searchLoop_spec (l : List α) (x : α) (hs : l.Pairwise (· ≤ ·)) (n i j : Nat)
    (hn : j - i ≤ n) (hij : i ≤ j) (hj : j ≤ l.length)
    (hlow : ∀ k y, k < i → l[k]? = some y → y < x) (hhigh : ∀ k y, j ≤ k → l[k]? = some y → x ≤ y) :
    (∀ k y, k < searchLoop l x n i j → l[k]? = some y → y < x) ∧
      ∀ k y, searchLoop l x n i j ≤ k → l[k]? = some y → x ≤ y := by
  induction n generalizing i j with
  | zero =>
    have : i = j := by omega
    subst this
    exact ⟨hlow, hhigh⟩
  | succ n ih =>
    unfold searchLoop
    split
    · rename_i hlt
      have hh : (i + j) / 2 < l.length := by omega
      have hget : l[(i + j) / 2]? = some l[(i + j) / 2] := List.getElem?_eq_getElem hh
      simp only [hget, Option.any_some, decide_eq_true_eq]
      split
      · rename_i hy
        refine ih _ _ (by omega) (by omega) hj (fun k y hk hky => ?_) hhigh
        exact lt_of_le_of_lt (getElem?_mono hs (Nat.le_of_lt_succ hk) hky hget) hy
      · rename_i hy
        refine ih _ _ (by omega) (by omega) (by omega) hlow fun k y hk hky => ?_
        exact le_trans (not_lt.mp hy) (getElem?_mono hs hk hget hky)
    · have : i = j := by omega
      subst this
      exact ⟨hlow, hhigh⟩

lemma binarySearch_found (l : List α) (x : α) (hs : l.Pairwise (· ≤ ·)) :
    (binarySearch l x).2 = true ↔ x ∈ l := by
  obtain ⟨hlow, hhigh⟩ := searchLoop_spec l x hs l.length 0 l.length (by omega) (by omega) le_rfl
    (fun k y hk _ => absurd hk (Nat.not_lt_zero k)) (fun k y hk hky => by
      have := (List.getElem?_eq_some_iff.mp hky).1
      omega)
  simp only [binarySearch, decide_eq_true_eq]
  constructor
  · exact fun h => List.mem_of_getElem? h
  intro hx
  obtain ⟨k, hk⟩ := List.mem_iff_getElem?.mp hx
  -- the boundary lies at or before `k`, and what stands there is at least and at most `x`
  have hle : searchLoop l x l.length 0 l.length ≤ k := by
    by_contra hlt
    exact lt_irrefl x (hlow k x (not_le.mp hlt) hk)
  have hk' := (List.getElem?_eq_some_iff.mp hk).1
  have hget := List.getElem?_eq_getElem (Nat.lt_of_le_of_lt hle hk')
  rw [hget]
  congr 1
  exact le_antisymm (getElem?_mono hs hle hget hk) (hhigh _ _ le_rfl hget)

def setMinus (a b : List α) : List α := a.filter fun x => !(binarySearch b x).2

lemma mem_setMinus (a b : List α) (hb : b.Pairwise (· ≤ ·)) (x : α) :
    x ∈ setMinus a b ↔ x ∈ a ∧ x ∉ b := by
  rw [setMinus, List.mem_filter, ← binarySearch_found b x hb]
  simp

end DarwinNet.Lib.SortedSet
