import Mathlib.Data.Finset.Card

/-!
Lists built by appending what is new, as a loop with a set of seen values does: `distinct` has
the members of what it reads, each once and in order. Taking the distinct entries and reading a
value from each commute where no value is read from two entries (`filterMap_distinct`).
-/

namespace DarwinNet.Lib

variable {α β : Type} {l out : List α} {x : α}

/-- `f` reads no value from two of the entries. -/
def ReadsOnce (f : α → Option β) (l : List α) : Prop :=
  ∀ a ∈ l, ∀ b ∈ l, ∀ y, f a = some y → f b = some y → a = b

lemma readsOnce_of_nodup {f : α → Option β} (h : (l.filterMap f).Nodup) : ReadsOnce f l := by
  induction l with
  | nil => exact fun a ha => by cases ha
  | cons c l ih =>
    cases hf : f c with
    | none =>
      rw [List.filterMap_cons_none hf] at h
      intro a ha b hb y hay hby
      have hne : ∀ x ∈ c :: l, f x = some y → x ∈ l := by
        intro x hx hxy
        rcases List.mem_cons.mp hx with rfl | hx
        · cases hf.symm.trans hxy
        · exact hx
      exact ih h a (hne a ha hay) b (hne b hb hby) y hay hby
    | some z =>
      rw [List.filterMap_cons_some hf, List.nodup_cons] at h
      have hfresh : ∀ a ∈ l, f a ≠ some z :=
        fun a ha haz => h.1 (List.mem_filterMap.mpr ⟨a, ha, haz⟩)
      intro a ha b hb y hay hby
      rcases List.mem_cons.mp ha with hac | ha'
      · rcases List.mem_cons.mp hb with hbc | hb'
        · rw [hac, hbc]
        · cases hf.symm.trans (hac ▸ hay)
          exact absurd hby (hfresh b hb')
      · rcases List.mem_cons.mp hb with hbc | hb'
        · cases hf.symm.trans (hbc ▸ hby)
          exact absurd hay (hfresh a ha')
        · exact ih h.2 a ha' b hb' y hay hby

variable [DecidableEq α] [DecidableEq β]

def appendNew (out : List α) (a : α) : List α := if a ∈ out then out else out ++ [a]

lemma mem_foldl_appendNew : x ∈ l.foldl appendNew out ↔ x ∈ out ∨ x ∈ l := by
  induction l generalizing out with
  | nil => simp
  | cons a l ih =>
    rw [List.foldl_cons, ih, appendNew]
    split
    · rename_i ha
      grind
    · grind

lemma nodup_foldl_appendNew (h : out.Nodup) (l : List α) : (l.foldl appendNew out).Nodup := by
  induction l generalizing out with
  | nil => exact h
  | cons a l ih =>
    rw [List.foldl_cons]
    refine ih ?_
    rw [appendNew]
    split
    · exact h
    · rename_i hnew
      exact h.append (List.nodup_singleton a) (by simpa using hnew)

lemma foldl_appendNew_pre (out l : List α) : out <+: l.foldl appendNew out := by
  induction l generalizing out with
  | nil => exact List.prefix_rfl
  | cons a l ih =>
    refine List.IsPrefix.trans ?_ (ih _)
    rw [appendNew]
    split
    · exact List.prefix_rfl
    · exact List.prefix_append _ _

lemma map_foldl_appendNew {f : α → β} (hf : Function.Injective f) (out l : List α) :
    (l.foldl appendNew out).map f = (l.map f).foldl appendNew (out.map f) := by
  induction l generalizing out with
  | nil => rfl
  | cons a l ih =>
    have hstep : (appendNew out a).map f = appendNew (out.map f) (f a) := by
      simp only [appendNew, List.mem_map_of_injective hf]
      split
      · rfl
      · rw [List.map_append, List.map_singleton]
    rw [List.foldl_cons, ih, hstep, List.map_cons, List.foldl_cons]

def distinct (l : List α) : List α := l.foldl appendNew []

lemma mem_distinct : x ∈ distinct l ↔ x ∈ l := by
  rw [distinct, mem_foldl_appendNew]
  simp

lemma nodup_distinct (l : List α) : (distinct l).Nodup :=
  nodup_foldl_appendNew List.nodup_nil l

lemma length_distinct (l : List α) : (distinct l).length = l.toFinset.card := by
  have hset : (distinct l).toFinset = l.toFinset := by
    ext x
    rw [List.mem_toFinset, List.mem_toFinset, mem_distinct]
  rw [← hset, List.toFinset_card_of_nodup (nodup_distinct l)]

lemma map_distinct {f : α → β} (hf : Function.Injective f) (l : List α) :
    (distinct l).map f = (l.map f).foldl appendNew [] :=
  map_foldl_appendNew hf [] l

/-! ## Reading the values of a list -/

lemma filterMap_foldl_appendNew {f : α → Option β} (out l : List α) (h : ReadsOnce f (out ++ l)) :
    (l.foldl appendNew out).filterMap f = (l.filterMap f).foldl appendNew (out.filterMap f) := by
  induction l generalizing out with
  | nil => rfl
  | cons a l ih =>
    have hout : ReadsOnce f (appendNew out a ++ l) := by
      intro x hx y hy
      have hmem : ∀ z ∈ appendNew out a ++ l, z ∈ out ++ a :: l := by
        intro z hz
        rw [appendNew] at hz
        split at hz <;> grind
      exact h x (hmem x hx) y (hmem y hy)
    rw [List.foldl_cons, ih _ hout, appendNew]
    cases hf : f a with
    | none =>
      rw [List.filterMap_cons_none hf]
      split
      · rfl
      · rw [List.filterMap_append, List.filterMap_cons_none hf, List.filterMap_nil, List.append_nil]
    | some y =>
      -- the value is read before exactly if the entry itself came before
      have hmem : y ∈ out.filterMap f ↔ a ∈ out := by
        rw [List.mem_filterMap]
        constructor
        · rintro ⟨b, hb, hby⟩
          have hab := h a (by simp) b (by simp [hb]) y hf hby
          rwa [hab]
        · exact fun ha => ⟨a, ha, hf⟩
      rw [List.filterMap_cons_some hf, List.foldl_cons, appendNew]
      simp only [hmem]
      split
      · rfl
      · rw [List.filterMap_append, List.filterMap_cons_some hf, List.filterMap_nil]

lemma filterMap_distinct {f : α → Option β} (h : ReadsOnce f l) :
    (distinct l).filterMap f = distinct (l.filterMap f) :=
  filterMap_foldl_appendNew [] l h

end DarwinNet.Lib
