import Mathlib.Data.List.TakeWhile

/-!
Texts of lines. `unlines` writes a newline after every line and `scanLines` reads the
lines of a text, as a scanner does that ends a line at each newline; `cut` splits a line
at the first separator and `cutSuffix` takes an ending off. What was written is read back when
no line contains a newline (`scanLines_unlines`) and no key the separator (`cut_append`).
-/

namespace DarwinNet.Lib

def unlines (ls : List (List Char)) : List Char := ls.flatMap (· ++ ['\n'])

/-- The lines of a text; an empty rest after the last newline is no line. -/
def scanLines (s : List Char) : List (List Char) :=
  if (s.splitOn '\n').getLast? = some [] then (s.splitOn '\n').dropLast else s.splitOn '\n'

def cut (sep : Char) (s : List Char) : Option (List Char × List Char) :=
  match s.dropWhile (· ≠ sep) with
  | [] => none
  | _ :: value => some (s.takeWhile (· ≠ sep), value)

lemma unlines_eq_intercalate (ls : List (List Char)) :
    unlines ls = ['\n'].intercalate (ls ++ [[]]) := by
  induction ls with
  | nil => rfl
  | cons l ls ih =>
    have hcons : unlines (l :: ls) = l ++ ['\n'] ++ unlines ls := rfl
    rw [hcons, ih, List.cons_append, List.intercalate_cons_of_ne_nil (by simp)]

lemma scanLines_unlines {ls : List (List Char)} (h : ∀ l ∈ ls, '\n' ∉ l) :
    scanLines (unlines ls) = ls := by
  have hsplit : (unlines ls).splitOn '\n' = ls ++ [[]] := by
    rw [unlines_eq_intercalate]
    refine List.splitOn_intercalate '\n' ?_ (by simp)
    intro l hl
    rcases List.mem_append.mp hl with hl | hl
    · exact h l hl
    · simp [List.mem_singleton.mp hl]
  rw [scanLines, hsplit]
  simp

lemma unlines_inj {ls ms : List (List Char)} (hl : ∀ l ∈ ls, '\n' ∉ l) (hm : ∀ l ∈ ms, '\n' ∉ l)
    (h : unlines ls = unlines ms) : ls = ms := by
  rw [← scanLines_unlines hl, h, scanLines_unlines hm]

variable {sep : Char} {s : List Char}

lemma cut_append {key : List Char} (h : sep ∉ key) (value : List Char) :
    cut sep (key ++ sep :: value) = some (key, value) := by
  have hne : ∀ c ∈ key, decide (c ≠ sep) = true := by
    intro c hc
    exact decide_eq_true fun heq => h (heq ▸ hc)
  rw [cut, List.dropWhile_append_of_pos hne, List.takeWhile_append_of_pos hne]
  simp

lemma eq_of_cut {key value : List Char} (h : cut sep s = some (key, value)) :
    s = key ++ sep :: value ∧ sep ∉ key := by
  unfold cut at h
  split at h
  · cases h
  next c rest hdrop =>
  cases h
  have hsep : c = sep := by
    have hhead := List.head?_dropWhile_not (fun c => decide (c ≠ sep)) s
    rw [hdrop] at hhead
    simpa using hhead
  refine ⟨?_, ?_⟩
  · rw [← hsep, ← hdrop, hsep]
    exact List.takeWhile_append_dropWhile.symm
  · intro hmem
    simpa using List.mem_takeWhile_imp hmem

lemma cut_eq_none : cut sep s = none ↔ sep ∉ s := by
  have hnil : s.dropWhile (· ≠ sep) = [] ↔ sep ∉ s := by
    rw [List.dropWhile_eq_nil_iff]
    constructor
    · intro h hmem
      simpa using h sep hmem
    · intro h c hc
      exact decide_eq_true fun heq => h (heq ▸ hc)
  rw [← hnil]
  unfold cut
  split
  · next h => exact iff_of_true rfl h
  next h =>
  refine iff_of_false (by simp) ?_
  intro hempty
  cases h.symm.trans hempty

def cutSuffix (s suffix : List Char) : Option (List Char) :=
  if suffix.isSuffixOf s then some (s.take (s.length - suffix.length)) else none

lemma cutSuffix_eq_some {suffix rest : List Char} :
    cutSuffix s suffix = some rest ↔ s = rest ++ suffix := by
  unfold cutSuffix
  constructor
  · intro h
    split_ifs at h
    next hsuffix =>
    obtain ⟨pre, rfl⟩ := List.isSuffixOf_iff_suffix.mp hsuffix
    cases h
    simp
  · rintro rfl
    rw [if_pos (List.isSuffixOf_iff_suffix.mpr (List.suffix_append _ _))]
    simp

end DarwinNet.Lib
