import Mathlib.Data.List.AList
import Mathlib.Algebra.GroupWithZero.Nat
import Mathlib.Algebra.BigOperators.Group.List.Basic

/-!
Finite maps as the language's built-in `map` behaves: at most one value a key,
a miss on an absent key, deletion of an absent key without effect. They are
Mathlib's association lists; this module adds what counting arguments need.

* `size_insert`, `size_erase`: the number of entries after a write;
* `sumBy_insert`, `sumBy_erase`: a sum over the values changes by the new value
  minus the replaced one;
* `lookup_insertAll`: after a list of writes a key holds its last write;
* `lookup_eraseAll`, `lookup_mapValues`, `lookup_copyFrom`: loops over a whole map;
* `mem_getD_appendTo`: what a map of lists holds after an append.
-/

namespace DarwinNet.Lib

abbrev GoMap (K V : Type) := AList fun _ : K => V

namespace GoMap

variable {K V : Type}

def size (m : GoMap K V) : Nat := m.entries.length

def sumBy (f : V → Nat) (m : GoMap K V) : Nat := (m.entries.map fun e => f e.2).sum

lemma size_eq_sumBy (m : GoMap K V) : size m = sumBy (fun _ => 1) m := by
  simp [size, sumBy]

lemma size_eq_zero {m : GoMap K V} : size m = 0 ↔ m = ∅ := by
  constructor
  · intro h
    exact AList.ext (List.length_eq_zero_iff.mp h)
  · rintro rfl
    rfl

variable [DecidableEq K]

def valueAt (f : V → Nat) (m : GoMap K V) (k : K) : Nat := ((m.lookup k).map f).getD 0

lemma lookup_insert_ite (m : GoMap K V) (k k' : K) (v : V) :
    (m.insert k v).lookup k' = if k' = k then some v else m.lookup k' := by
  by_cases h : k' = k
  · subst h; simp
  · simp [h]

lemma lookup_erase_ite (m : GoMap K V) (k k' : K) :
    (m.erase k).lookup k' = if k' = k then none else m.lookup k' := by
  by_cases h : k' = k
  · subst h; simp
  · simp [h]

lemma mem_entries_of_lookup {m : GoMap K V} {k : K} {v : V} (h : m.lookup k = some v) :
    (⟨k, v⟩ : Σ _ : K, V) ∈ m.entries :=
  AList.mem_lookup_iff.mp h

lemma lookup_of_mem_entries {m : GoMap K V} {e : Σ _ : K, V} (h : e ∈ m.entries) :
    m.lookup e.1 = some e.2 :=
  AList.mem_lookup_iff.mpr h

lemma lookup_pairs (m : GoMap K V) (k : K) :
    (m.entries.map fun e => (e.1, e.2)).lookup k = m.lookup k := by
  show _ = m.entries.dlookup k
  induction m.entries with
  | nil => rfl
  | cons e l ih =>
    obtain ⟨k', v⟩ := e
    rw [List.map_cons, List.lookup_cons]
    by_cases h : k = k'
    · subst h
      simp
    · have hbeq : (k == k') = false := by simpa using h
      rw [hbeq, ih, List.dlookup_cons_ne l ⟨k', v⟩ h]

lemma mem_keys_iff {m : GoMap K V} {k : K} : k ∈ m.keys ↔ ∃ v, m.lookup k = some v := by
  rw [← AList.mem_keys, ← AList.lookup_isSome, Option.isSome_iff_exists]

lemma entries_erase (m : GoMap K V) (k : K) : (m.erase k).entries = m.entries.kerase k := rfl

lemma entries_perm {m : GoMap K V} {k : K} {v : V} (h : m.lookup k = some v) :
    m.entries.Perm (⟨k, v⟩ :: (m.erase k).entries) := by
  have hk : k ∈ m.entries.keys :=
    AList.mem_keys.mp (AList.lookup_isSome.mp (by rw [h]; rfl))
  obtain ⟨b, l₁, l₂, -, hl, he⟩ := List.exists_of_kerase hk
  have hb : m.lookup k = some b :=
    lookup_of_mem_entries (e := ⟨k, b⟩) (by rw [hl]; simp)
  rw [h] at hb
  cases hb
  have hk' : (m.erase k).entries = l₁ ++ l₂ := he
  rw [hk', hl]
  exact List.perm_middle

lemma erase_of_lookup_none {m : GoMap K V} {k : K} (h : m.lookup k = none) : m.erase k = m :=
  AList.ext (List.kerase_of_notMem_keys (AList.lookup_eq_none.mp h))

lemma sumBy_erase (f : V → Nat) (m : GoMap K V) (k : K) :
    sumBy f (m.erase k) + valueAt f m k = sumBy f m := by
  cases h : m.lookup k with
  | none => simp [erase_of_lookup_none h, valueAt, h]
  | some v =>
    have hp := ((entries_perm h).map fun e => f e.2).sum_eq
    simp only [List.map_cons, List.sum_cons] at hp
    simp only [sumBy, valueAt, h, Option.map_some, Option.getD_some]
    omega

lemma sumBy_insert (f : V → Nat) (m : GoMap K V) (k : K) (v : V) :
    sumBy f (m.insert k v) + valueAt f m k = sumBy f m + f v := by
  have he := sumBy_erase f m k
  have hi : sumBy f (m.insert k v) = f v + sumBy f (m.erase k) := by
    simp [sumBy, AList.entries_insert, entries_erase]
  omega

lemma size_erase {m : GoMap K V} {k : K} {v : V} (h : m.lookup k = some v) :
    size (m.erase k) + 1 = size m := by
  have := sumBy_erase (fun _ => 1) m k
  simp only [valueAt, h, Option.map_some, Option.getD_some] at this
  simpa only [size_eq_sumBy] using this

lemma size_insert {m : GoMap K V} {k : K} (h : m.lookup k = none) (v : V) :
    size (m.insert k v) = size m + 1 := by
  have := sumBy_insert (fun _ => 1) m k v
  simp only [valueAt, h, Option.map_none, Option.getD_none, Nat.add_zero] at this
  simpa only [size_eq_sumBy] using this

lemma size_erase_le (m : GoMap K V) (k : K) : size (m.erase k) ≤ size m := by
  have := sumBy_erase (fun _ => 1) m k
  simp only [size_eq_sumBy]
  omega

/-! ## Lists of writes -/

def insertAll (m : GoMap K V) (l : List (K × V)) : GoMap K V :=
  l.foldl (fun m e => m.insert e.1 e.2) m

/-- The last value a list of writes gives to `k`. -/
def lastWrite (k : K) : List (K × V) → Option V
  | [] => none
  | e :: l => (lastWrite k l).or (if e.1 = k then some e.2 else none)

lemma lookup_insertAll (m : GoMap K V) (l : List (K × V)) (k : K) :
    (insertAll m l).lookup k = (lastWrite k l).or (m.lookup k) := by
  induction l generalizing m with
  | nil => simp [insertAll, lastWrite]
  | cons e l ih =>
    have hc : insertAll m (e :: l) = insertAll (m.insert e.1 e.2) l := rfl
    rw [hc, ih, lookup_insert_ite, lastWrite, Option.or_assoc]
    by_cases h : k = e.1
    · simp [h]
    · simp [h, Ne.symm h]

lemma lastWrite_append (k : K) (l l' : List (K × V)) :
    lastWrite k (l ++ l') = (lastWrite k l').or (lastWrite k l) := by
  induction l with
  | nil => simp [lastWrite]
  | cons e l ih => simp [lastWrite, ih, Option.or_assoc]

lemma lastWrite_eq_none {k : K} {l : List (K × V)} : lastWrite k l = none ↔ ∀ e ∈ l, e.1 ≠ k := by
  induction l with
  | nil => simp [lastWrite]
  | cons e l ih => simp [lastWrite, ih, and_comm]

lemma lastWrite_eq_none_iff {k : K} {l : List (K × V)} :
    lastWrite k l = none ↔ k ∉ l.map Prod.fst := by
  rw [lastWrite_eq_none, List.mem_map]
  constructor
  · rintro h ⟨e, he, rfl⟩
    exact h e he rfl
  · rintro h e he rfl
    exact h ⟨e, he, rfl⟩

lemma mem_of_lastWrite {k : K} {v : V} {l : List (K × V)} (h : lastWrite k l = some v) :
    (k, v) ∈ l := by
  induction l with
  | nil => simp [lastWrite] at h
  | cons e l ih =>
    simp only [lastWrite] at h
    cases hl : lastWrite k l with
    | some w =>
      rw [hl, Option.some_or] at h
      exact List.mem_cons_of_mem _ (ih (hl.trans h))
    | none =>
      rw [hl, Option.none_or] at h
      split_ifs at h with he
      cases h
      subst he
      exact List.mem_cons_self

/-- With distinct keys every write is the last. -/
lemma lastWrite_eq_some_iff {k : K} {v : V} {l : List (K × V)} (h : (l.map Prod.fst).Nodup) :
    lastWrite k l = some v ↔ (k, v) ∈ l := by
  refine ⟨mem_of_lastWrite, fun hmem => ?_⟩
  cases hl : lastWrite k l with
  | none => exact absurd rfl (lastWrite_eq_none.mp hl _ hmem)
  | some w =>
    have := List.inj_on_of_nodup_map h (mem_of_lastWrite hl) hmem rfl
    rw [(Prod.mk.inj this).2]

lemma lastWrite_const (k : K) (v : V) (ks : List K) :
    lastWrite k (ks.map fun k' => (k', v)) = if k ∈ ks then some v else none := by
  induction ks with
  | nil => rfl
  | cons k' ks ih =>
    simp only [List.map_cons, lastWrite, ih, List.mem_cons]
    by_cases hks : k ∈ ks
    · simp [hks]
    by_cases hk : k = k'
    · subst hk
      simp [hks]
    · simp [hks, hk, Ne.symm hk]

lemma lastWrite_map {α : Type} (key : α → K) (f : α → V) (k : K) (l : List α) :
    lastWrite k (l.map fun a => (key a, f a)) =
      (lastWrite k (l.map fun a => (key a, a))).map f := by
  induction l with
  | nil => rfl
  | cons a l ih =>
    simp only [List.map_cons, lastWrite, ih]
    cases lastWrite k (l.map fun a => (key a, a)) with
    | some b => rfl
    | none => by_cases h : key a = k <;> simp [h]

lemma lastWrite_flatMap {α : Type} {k : K} {f : α → List (K × V)} {l : List α} {a : α}
    (ha : a ∈ l) (honly : ∀ b ∈ l, b ≠ a → lastWrite k (f b) = none) :
    lastWrite k (l.flatMap f) = lastWrite k (f a) := by
  induction l with
  | nil => cases ha
  | cons b l ih =>
    rw [List.flatMap_cons, lastWrite_append]
    by_cases hl : a ∈ l
    · rw [ih hl fun c hc => honly c (List.mem_cons_of_mem b hc)]
      by_cases hb : b = a
      · rw [hb, Option.or_self]
      · rw [honly b List.mem_cons_self hb, Option.or_none]
    · have hab : a = b := (List.mem_cons.mp ha).resolve_right hl
      have hrest : lastWrite k (l.flatMap f) = none := by
        rw [lastWrite_eq_none]
        intro e he
        obtain ⟨c, hc, hce⟩ := List.mem_flatMap.mp he
        have hca : c ≠ a := fun h => hl (h ▸ hc)
        exact lastWrite_eq_none.mp (honly c (List.mem_cons_of_mem b hc) hca) e hce
      rw [hrest, Option.none_or, hab]

/-! ## Many deletions, and a change of every value -/

def eraseAll (m : GoMap K V) (ks : List K) : GoMap K V := ks.foldl (fun m k => m.erase k) m

lemma lookup_eraseAll (m : GoMap K V) (ks : List K) (k : K) :
    (eraseAll m ks).lookup k = if k ∈ ks then none else m.lookup k := by
  induction ks generalizing m with
  | nil => simp [eraseAll]
  | cons k' ks ih =>
    have hc : eraseAll m (k' :: ks) = eraseAll (m.erase k') ks := rfl
    rw [hc, ih, lookup_erase_ite]
    by_cases hks : k ∈ ks
    · simp [hks]
    · by_cases hk : k = k' <;> simp [hks, hk]

lemma lastWrite_entries {W : Type} (f : K → V → W) (m : GoMap K V) (k : K) :
    lastWrite k (m.entries.map fun e => (e.1, f e.1 e.2)) = (m.lookup k).map (f k) := by
  have hkeys : ((m.entries.map fun e => (e.1, f e.1 e.2)).map Prod.fst).Nodup := by
    rw [List.map_map]
    exact m.nodupKeys
  cases h : m.lookup k with
  | none =>
    rw [Option.map_none, lastWrite_eq_none]
    rintro e he rfl
    obtain ⟨e', he', rfl⟩ := List.mem_map.mp he
    rw [lookup_of_mem_entries he'] at h
    cases h
  | some v =>
    exact (lastWrite_eq_some_iff hkeys).mpr
      (List.mem_map.mpr ⟨⟨k, v⟩, mem_entries_of_lookup h, rfl⟩)

def mapValues (f : K → V → V) (m : GoMap K V) : GoMap K V :=
  insertAll m (m.entries.map fun e => (e.1, f e.1 e.2))

lemma lookup_mapValues (f : K → V → V) (m : GoMap K V) (k : K) :
    (mapValues f m).lookup k = (m.lookup k).map (f k) := by
  rw [mapValues, lookup_insertAll, lastWrite_entries]
  cases m.lookup k <;> rfl

def copyFrom (m l : GoMap K V) : GoMap K V := insertAll m (l.entries.map fun e => (e.1, e.2))

lemma lookup_copyFrom (m l : GoMap K V) (k : K) :
    (copyFrom m l).lookup k = (l.lookup k).or (m.lookup k) := by
  rw [copyFrom, lookup_insertAll, lastWrite_entries fun _ v => v]
  simp

/-! ## Maps of lists -/

def appendTo (m : GoMap K (List V)) (k : K) (vs : List V) : GoMap K (List V) :=
  m.insert k ((m.lookup k).getD [] ++ vs)

variable {m : GoMap K (List V)} {k k' : K} {v : V} {vs : List V}

lemma mem_getD_appendTo :
    v ∈ ((appendTo m k vs).lookup k').getD [] ↔ v ∈ (m.lookup k').getD [] ∨ k = k' ∧ v ∈ vs := by
  rw [appendTo, lookup_insert_ite]
  by_cases hk : k' = k
  · subst hk
    simp
  · simp [hk, Ne.symm hk]

lemma isSome_lookup_appendTo :
    ((appendTo m k vs).lookup k').isSome = true ↔ (m.lookup k').isSome = true ∨ k = k' := by
  rw [appendTo, lookup_insert_ite]
  by_cases hk : k' = k
  · simp [hk]
  · simp [hk, Ne.symm hk]

end GoMap

end DarwinNet.Lib
