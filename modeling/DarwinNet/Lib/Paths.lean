import Mathlib.Data.List.Basic

/-!
Slash-separated paths. `components` splits a path and `joinPath` puts it together;
`cleanPath` and `pathDir` are `path.Clean` and `path.Dir`, and `joinComponent` adds one
component to a cleaned path, as `filepath.Join` does.

A relative path that is its own cleaned form and has no dot component has only proper
components (`isProper_of_clean`); joining those to a directory only ever descends
(`foldl_joinComponent`).
-/

namespace DarwinNet.Lib

def components (p : List Char) : List (List Char) := p.splitOn '/'

def joinPath (cs : List (List Char)) : List Char := ['/'].intercalate cs

/-- One component of a path under `path.Clean`; `out` holds the ones kept, last first. -/
def cleanStep (rooted : Bool) (out : List (List Char)) (c : List Char) : List (List Char) :=
  if c = [] ∨ c = ['.'] then out
  else if c = ['.', '.'] then
    match out with
    | [] => if rooted then [] else [c]
    | last :: rest => if last = ['.', '.'] then c :: last :: rest else rest
  else c :: out

def cleanPath (p : List Char) : List Char :=
  let rooted := p.head? = some '/'
  let out := (components p).foldl (cleanStep rooted) []
  let q := (if rooted then ['/'] else []) ++ joinPath out.reverse
  if q = [] then ['.'] else q

def pathDir (p : List Char) : List Char :=
  cleanPath (joinPath ((components p).dropLast ++ [[]]))

/-- `filepath.Join` of a cleaned path, as its components, and one component. -/
def joinComponent (p : List (List Char)) (c : List Char) : List (List Char) :=
  if c = [] ∨ c = ['.'] then p
  else if c = ['.', '.'] then p.dropLast
  else p ++ [c]

/-- A component that names an entry of its directory. -/
structure IsProper (c : List Char) : Prop where
  nonempty : c ≠ []
  not_dot : c ≠ ['.']
  not_dots : c ≠ ['.', '.']
  no_slash : '/' ∉ c

variable {p : List Char} {cs : List (List Char)}

lemma not_mem_of_mem_components {c : List Char} (h : c ∈ components p) : '/' ∉ c := by
  induction p generalizing c with
  | nil =>
    have hc : c = [] := by simpa [components] using h
    simp [hc]
  | cons x p ih =>
    rw [components, List.splitOn_cons_eq_if_modifyHead] at h
    by_cases hx : (x == '/') = true
    · rw [if_pos hx, List.mem_cons] at h
      rcases h with rfl | h
      · simp
      · exact ih h
    · rw [if_neg hx] at h
      cases hp : p.splitOn '/' with
      | nil => exact absurd hp (List.splitOn_ne_nil _ _)
      | cons first rest =>
        rw [hp, List.modifyHead_cons, List.mem_cons] at h
        have hmem : ∀ d, d ∈ first :: rest → '/' ∉ d := by
          intro d hd
          exact ih (by rwa [components, hp])
        rcases h with rfl | h
        · have hne : ('/' : Char) ≠ x := by
            rintro rfl
            exact hx (by simp)
          simp [hne, hmem first (by simp)]
        · exact hmem c (by simp [h])

lemma components_joinPath (h : ∀ c ∈ cs, '/' ∉ c) (hne : cs ≠ []) : components (joinPath cs) = cs :=
  List.splitOn_intercalate '/' h hne

lemma components_ne_nil (p : List Char) : components p ≠ [] := List.splitOn_ne_nil _ _

lemma components_append_slash (h : '/' ∉ p) (q : List Char) :
    components (p ++ '/' :: q) = p :: components q :=
  List.splitOn_append_cons_self_of_not_mem h q

lemma length_components (p : List Char) : (components p).length = p.count '/' + 1 := by
  induction p with
  | nil => simp [components]
  | cons x p ih =>
    rw [components, List.splitOn_cons_eq_if_modifyHead]
    by_cases hx : (x == '/') = true
    · simpa [components, hx, List.count_cons] using ih
    · simpa [components, hx, List.count_cons] using ih

lemma foldl_cleanStep (rooted : Bool) (h : ∀ c ∈ cs, c ≠ ['.'] ∧ c ≠ ['.', '.'])
    (out : List (List Char)) :
    cs.foldl (cleanStep rooted) out = (cs.filter (· ≠ [])).reverse ++ out := by
  induction cs generalizing out with
  | nil => rfl
  | cons c cs ih =>
    have hc := h c (by simp)
    rw [List.foldl_cons, ih fun d hd => h d (by simp [hd])]
    by_cases hnil : c = []
    · simp [cleanStep, hnil]
    · simp [cleanStep, hnil, hc.1, hc.2]

lemma cleanPath_of_no_dots (hroot : p.head? ≠ some '/')
    (hdots : ∀ c ∈ components p, c ≠ ['.'] ∧ c ≠ ['.', '.']) :
    cleanPath p = if joinPath ((components p).filter (· ≠ [])) = [] then ['.']
      else joinPath ((components p).filter (· ≠ [])) := by
  simp only [cleanPath, foldl_cleanStep _ hdots, hroot, decide_false, List.append_nil,
    List.reverse_reverse, List.nil_append, if_false]

lemma joinPath_eq_nil (h : ∀ c ∈ cs, c ≠ []) (hj : joinPath cs = []) : cs = [] := by
  cases cs with
  | nil => rfl
  | cons c cs =>
    exfalso
    cases cs with
    | nil => exact h c (by simp) (by simpa [joinPath] using hj)
    | cons d ds =>
      rw [joinPath, List.intercalate_cons_cons] at hj
      simp at hj

lemma isProper_of_clean (hroot : p.head? ≠ some '/') (hclean : cleanPath p = p)
    (hdots : ∀ c ∈ components p, c ≠ ['.'] ∧ c ≠ ['.', '.']) : ∀ c ∈ components p, IsProper c := by
  have hslash : ∀ c ∈ (components p).filter (· ≠ []), '/' ∉ c := by
    intro c hc
    exact not_mem_of_mem_components (List.mem_filter.mp hc).1
  have hfilter : (components p).filter (· ≠ []) = components p := by
    rw [cleanPath_of_no_dots hroot hdots] at hclean
    split at hclean
    · -- the path `.` has a dot component
      exact absurd rfl (hdots ['.'] (by rw [← hclean]; decide)).1
    next hne =>
    have hcs : (components p).filter (· ≠ []) ≠ [] := by
      intro hnil
      exact hne (by rw [hnil]; rfl)
    rw [← components_joinPath hslash hcs, hclean]
  intro c hc
  have hne : c ≠ [] := by
    rw [← hfilter] at hc
    simpa using (List.mem_filter.mp hc).2
  exact ⟨hne, (hdots c hc).1, (hdots c hc).2, not_mem_of_mem_components hc⟩

lemma pathDir_of_isProper (h : ∀ c ∈ components p, IsProper c) :
    pathDir p = if (components p).dropLast = [] then ['.']
      else joinPath (components p).dropLast := by
  have hdir : ∀ c ∈ (components p).dropLast, IsProper c :=
    fun c hc => h c (List.dropLast_subset _ hc)
  have hcomp : components (joinPath ((components p).dropLast ++ [[]])) =
      (components p).dropLast ++ [[]] := by
    refine components_joinPath ?_ (by simp)
    intro c hc
    rcases List.mem_append.mp hc with hc | hc
    · exact (hdir c hc).no_slash
    · simp [List.mem_singleton.mp hc]
  have hfilter : ((components p).dropLast ++ [[]]).filter (· ≠ []) = (components p).dropLast := by
    rw [List.filter_append, List.filter_eq_self.mpr fun c hc => by simp [(hdir c hc).nonempty]]
    simp
  have hroot : (joinPath ((components p).dropLast ++ [[]])).head? ≠ some '/' := by
    cases hcs : (components p).dropLast with
    | nil => simp [joinPath]
    | cons c cs =>
      have hc := hdir c (by simp [hcs])
      rw [joinPath, List.cons_append, List.intercalate_cons_of_ne_nil (by simp)]
      cases c with
      | nil => exact absurd rfl hc.nonempty
      | cons x c =>
        intro hhead
        have hx : x = '/' := by simpa using hhead
        exact hc.no_slash (by simp [hx])
  rw [pathDir, cleanPath_of_no_dots hroot, hcomp, hfilter]
  · by_cases hnil : (components p).dropLast = []
    · simp [hnil, joinPath]
    · rw [if_neg hnil, if_neg]
      intro hj
      exact hnil (joinPath_eq_nil (fun c hc => (hdir c hc).nonempty) hj)
  · intro c hc
    rw [hcomp] at hc
    rcases List.mem_append.mp hc with hc | hc
    · exact ⟨(hdir c hc).not_dot, (hdir c hc).not_dots⟩
    · simp [List.mem_singleton.mp hc]

lemma joinComponent_of_isProper (p : List (List Char)) {c : List Char} (h : IsProper c) :
    joinComponent p c = p ++ [c] := by
  simp [joinComponent, h.nonempty, h.not_dot, h.not_dots]

lemma foldl_joinComponent (h : ∀ c ∈ cs, IsProper c) (p : List (List Char)) :
    cs.foldl joinComponent p = p ++ cs := by
  induction cs generalizing p with
  | nil => simp
  | cons c cs ih =>
    rw [List.foldl_cons, joinComponent_of_isProper p (h c (by simp)),
      ih fun d hd => h d (by simp [hd])]
    simp

end DarwinNet.Lib
