import Mathlib.Data.List.Induction
import Mathlib.Data.List.Lex
import Mathlib.Data.List.Sort
import DarwinNet.Lib.GoMap

/-!
File systems as finite maps from paths, lists of names below the root, to what the path
names. A `FileTree` keeps the parent of every entry a directory (`isDir_above`). `place`
creates one new entry: exclusively, as `mkdir` and an `open` with `O_CREAT|O_EXCL` do, and
only in an existing directory. A parent that is a link is an error of its own,
`throughLink`, so that a program can be shown never to ask for it. `walk` lists what is below
a directory, in the order of a walk that reads each directory sorted; it misses nothing
(`mem_walk`).
-/

namespace DarwinNet.Lib

inductive Node (α : Type)
  | dir
  | file (content : α)
  | link
  deriving DecidableEq, Repr

inductive FsError
  | exist
  | notExist
  | notDir
  /-- The parent is a symbolic link, which the system would follow. -/
  | throughLink
  | other
  deriving DecidableEq, Repr

structure FileTree (N α : Type) [DecidableEq N] where
  nodes : GoMap (List N) (Node α)
  root : nodes.lookup [] = none
  closed : ∀ p n, nodes.lookup p = some n → p.dropLast ≠ [] → nodes.lookup p.dropLast = some .dir

namespace FileTree

variable {N α : Type} [DecidableEq N] {t : FileTree N α} {p : List N}

def lookup (t : FileTree N α) (p : List N) : Option (Node α) := t.nodes.lookup p

/-- The path names a directory; the root does. -/
def IsDir (t : FileTree N α) (p : List N) : Prop := p = [] ∨ t.lookup p = some .dir

instance instDecidableIsDir [DecidableEq α] (t : FileTree N α) (p : List N) :
    Decidable (t.IsDir p) :=
  inferInstanceAs (Decidable (_ ∨ _))

/-- What stands in the way of a new entry in the directory `p`. -/
def obstacle (t : FileTree N α) (p : List N) : Option FsError :=
  if p = [] then none
  else match t.lookup p with
    | some .dir => none
    | some (.file _) => some .notDir
    | some .link => some .throughLink
    | none => some .notExist

lemma obstacle_eq_none : t.obstacle p = none ↔ t.IsDir p := by
  unfold obstacle IsDir
  by_cases hp : p = []
  · simp [hp]
  · cases hl : t.lookup p with
    | none => simp [hp]
    | some n => cases n <;> simp [hp]

lemma closed_insert (t : FileTree N α) (hdir : t.obstacle p.dropLast = none)
    (hnew : t.lookup p = none) (n : Node α) :
    ∀ q m, (t.nodes.insert p n).lookup q = some m → q.dropLast ≠ [] →
      (t.nodes.insert p n).lookup q.dropLast = some .dir := by
  intro q m hq hne
  have hold : t.nodes.lookup q.dropLast = some .dir := by
    rw [GoMap.lookup_insert_ite] at hq
    by_cases hqp : q = p
    · subst hqp
      exact (obstacle_eq_none.mp hdir).resolve_left hne
    · rw [if_neg hqp] at hq
      exact t.closed q m hq hne
  rw [GoMap.lookup_insert_ite, if_neg]
  · exact hold
  · intro heq
    rw [heq] at hold
    cases hnew.symm.trans hold

/-- A new entry at `p`, which must not exist, in a directory, which must. -/
def place (t : FileTree N α) (p : List N) (n : Node α) : Except FsError (FileTree N α) :=
  if hroot : p = [] then .error .exist
  else match hdir : t.obstacle p.dropLast with
    | some e => .error e
    | none =>
      if hnew : (t.lookup p).isSome then .error .exist
      else .ok
        { nodes := t.nodes.insert p n
          root := by
            rw [GoMap.lookup_insert_ite, if_neg (Ne.symm hroot)]
            exact t.root
          closed := t.closed_insert hdir (by simpa using hnew) n }

/-- `u` is `t` with a new node at `p`, below a directory. -/
structure Placed (t : FileTree N α) (p : List N) (n : Node α) (u : FileTree N α) : Prop where
  ne_root : p ≠ []
  parent : t.IsDir p.dropLast
  fresh : t.lookup p = none
  lookup : ∀ q, u.lookup q = if q = p then some n else t.lookup q

lemma placed_of_place {u : FileTree N α} {n : Node α} (h : t.place p n = .ok u) :
    Placed t p n u := by
  unfold place at h
  split at h
  · cases h
  next hroot =>
  split at h
  · cases h
  · next hdir =>
    split at h
    · cases h
    · next hnew =>
      cases h
      refine ⟨hroot, obstacle_eq_none.mp hdir, by simpa using hnew, ?_⟩
      intro q
      exact GoMap.lookup_insert_ite _ _ _ _

lemma exists_link_of_place {n : Node α} (h : t.place p n = .error .throughLink) :
    t.lookup p.dropLast = some .link := by
  unfold place at h
  split at h
  · cases h
  split at h
  · next e hdir =>
    cases h
    unfold obstacle at hdir
    split at hdir
    · cases hdir
    · split at hdir <;> first | assumption | cases hdir
  · split at h <;> cases h

lemma isDir_above (t : FileTree N α) {q : List N} (hqp : q <+: p) (hne : q ≠ p)
    (h : t.lookup p ≠ none) : t.IsDir q := by
  induction p using List.reverseRecOn with
  | nil => exact absurd (List.prefix_nil.mp hqp) hne
  | append_singleton p a ih =>
    obtain ⟨n, hn⟩ := Option.ne_none_iff_exists'.mp h
    have hparent : t.IsDir p := by
      by_cases hp : p = []
      · exact .inl hp
      · refine .inr ?_
        have hdir := t.closed _ n hn (by simpa using hp)
        rwa [List.dropLast_concat] at hdir
    rcases List.prefix_concat_iff.mp hqp with rfl | hq
    · exact absurd rfl hne
    by_cases hqp' : q = p
    · exact hqp' ▸ hparent
    · rcases hparent with hp | hp
      · exact absurd (List.prefix_nil.mp (hp ▸ hq)) (fun hnil => hqp' (hnil.trans hp.symm))
      · exact ih hq hqp' (by simp [hp])

/-- The paths, from `p` on, of all entries below `p`. A directory stands before what it
holds, and names of one directory are in order. -/
def walk [LinearOrder N] (t : FileTree N α) (p : List N) : List (List N) :=
  ((t.nodes.keys.filter fun q => p <+: q ∧ q ≠ p).map (·.drop p.length)).insertionSort (· ≤ ·)

lemma mem_walk [LinearOrder N] {rel : List N} :
    rel ∈ t.walk p ↔ rel ≠ [] ∧ t.lookup (p ++ rel) ≠ none := by
  have hkey : ∀ q, q ∈ t.nodes.keys ↔ t.lookup q ≠ none := by
    intro q
    rw [GoMap.mem_keys_iff, Option.ne_none_iff_exists']
    rfl
  rw [walk, List.mem_insertionSort, List.mem_map]
  constructor
  · rintro ⟨q, hq, rfl⟩
    obtain ⟨hmem, hbelow⟩ := List.mem_filter.mp hq
    obtain ⟨⟨rest, rfl⟩, hne⟩ := of_decide_eq_true hbelow
    rw [List.drop_left]
    refine ⟨?_, (hkey _).mp hmem⟩
    rintro rfl
    exact hne (List.append_nil p)
  · rintro ⟨hne, hl⟩
    refine ⟨p ++ rel, List.mem_filter.mpr ⟨(hkey _).mpr hl, ?_⟩, List.drop_left⟩
    exact decide_eq_true ⟨List.prefix_append p rel, by simpa using hne⟩

end FileTree

end DarwinNet.Lib
