import Mathlib.Algebra.GroupWithZero.Nat
import Mathlib.Data.Char
import DarwinNet.Lib.CText
import DarwinNet.Lib.LexCmp
import DarwinNet.Lib.Lines

/-!
The order of releases (`update.go`): `parseRelease` reads a version, `compareReleases` orders two
of them, and `checkNotDowngrade` refuses one below the installed.

The order semantic versioning gives is `precedence`, a key into a linear order. The code agrees
with it but for all-digit identifiers of 2^64 and more, which it takes for text
(`releases_ordered_by_precedence`).
-/

namespace DarwinNet.Netd

open Lib

def isPreChar (c : Char) : Bool :=
  isDigit c || ('A' ≤ c && c ≤ 'Z') || ('a' ≤ c && c ≤ 'z') || c = '-'

/-- `0|[1-9]\d*`. -/
def isCoreField (s : List Char) : Bool :=
  s = ['0'] || (s ≠ [] && s.all isDigit && s.head? ≠ some '0')

/-- `[0-9A-Za-z-]+`. -/
def isPreIdent (s : List Char) : Bool := s ≠ [] && s.all isPreChar

/-- `[0-9A-Za-z.-]+`. -/
def isBuild (s : List Char) : Bool := s ≠ [] && s.all fun c => isPreChar c || c = '.'

structure Submatch where
  major : List Char
  minor : List Char
  patch : List Char
  pre : Option (List Char)
  deriving DecidableEq

def splitAtFirst (sep : Char) (s : List Char) : List Char × Option (List Char) :=
  match cut sep s with
  | some (key, value) => (key, some value)
  | none => (s, none)

def dropV : List Char → List Char
  | 'v' :: s => s
  | s => s

/-- `releaseSemver.FindStringSubmatch`. No number has a `-` or `+` and no prerelease a `+`, so
the first of each ends what is before it. -/
def findStringSubmatch (s : List Char) : Option Submatch :=
  let (version, build) := splitAtFirst '+' (dropV s)
  let (core, pre) := splitAtFirst '-' version
  match core.splitOn '.' with
  | [major, minor, patch] =>
    if isCoreField major && isCoreField minor && isCoreField patch &&
        pre.all (fun p => (p.splitOn '.').all isPreIdent) && build.all isBuild then
      some ⟨major, minor, patch, pre⟩
    else none
  | _ => none

/-- `pseudoPrerelease.MatchString`: the last identifier is fourteen digits, a dash and twelve
hexadecimal digits. -/
def isPseudoPrerelease (pre : List Char) : Bool :=
  ((pre.splitOn '.').getLast?).any fun id =>
    id.length = 27 && (id.take 14).all isDigit && id[14]? = some '-' &&
      (id.drop 15).all fun c => isDigit c || ('a' ≤ c && c ≤ 'f')

def parseUint64 (s : List Char) : Option Nat :=
  if s ≠ [] && s.all isDigit && digitsValue s < 2 ^ 64 then some (digitsValue s) else none

structure ReleaseVersion where
  core : Nat × Nat × Nat
  pre : List (List Char)
  deriving DecidableEq

def parseRelease (s : List Char) : Option ReleaseVersion :=
  match findStringSubmatch s with
  | none => none
  | some m =>
    match parseUint64 m.major, parseUint64 m.minor, parseUint64 m.patch with
    | some major, some minor, some patch =>
      match m.pre with
      | none => some ⟨(major, minor, patch), []⟩
      | some pre =>
        if isPseudoPrerelease pre then none else some ⟨(major, minor, patch), pre.splitOn '.'⟩
    | _, _, _ => none

/-- `comparePreIdent`, -1, 0 and 1 as an `Ordering`. -/
def comparePreIdent (a b : List Char) : Ordering :=
  match parseUint64 a, parseUint64 b with
  | some na, some nb => if na < nb then .lt else if nb < na then .gt else .eq
  | some _, none => .lt
  | none, some _ => .gt
  | none, none => if a < b then .lt else if b < a then .gt else .eq

/-- The loop over the identifiers both lists have, and the lengths after it. -/
def compareIdents : List (List Char) → List (List Char) → Ordering
  | [], [] => .eq
  | [], _ :: _ => .lt
  | _ :: _, [] => .gt
  | a :: as, b :: bs =>
    match comparePreIdent a b with
    | .eq => compareIdents as bs
    | c => c

def comparePrerelease (a b : List (List Char)) : Ordering :=
  match a, b with
  | [], [] => .eq
  | [], _ => .gt
  | _, [] => .lt
  | a, b => compareIdents a b

/-- One round of the loop over the core, before what comes after it. -/
def compareField (m n : Nat) (rest : Ordering) : Ordering :=
  if m ≠ n then if m < n then .lt else .gt else rest

def compareVersions (a b : ReleaseVersion) : Ordering :=
  compareField a.core.1 b.core.1
    (compareField a.core.2.1 b.core.2.1
      (compareField a.core.2.2 b.core.2.2 (comparePrerelease a.pre b.pre)))

def compareReleases (a b : List Char) : Option Ordering :=
  match parseRelease a, parseRelease b with
  | some va, some vb => some (compareVersions va vb)
  | _, _ => none

inductive DowngradeError
  | installedVersion
  | unordered (version installed : List Char)
  | below (version installed : List Char)
  deriving DecidableEq

def checkNotDowngrade (installedVersion : Option (List Char)) (version : List Char) :
    Except DowngradeError (List Char) :=
  match installedVersion with
  | none => .error .installedVersion
  | some installed =>
    match compareReleases version installed with
    | none => .error (.unordered version installed)
    | some .lt => .error (.below version installed)
    | some _ => .ok installed

def optional (sep : Char) (s : Option (List Char)) : List Char := s.elim [] (sep :: ·)

/-- `releaseSemver` matches the text, with these groups and build metadata. -/
structure SemverMatch (s : List Char) (m : Submatch) (build : Option (List Char)) : Prop where
  text : ∃ v, (v = [] ∨ v = ['v']) ∧ s = v ++ (m.major ++ '.' :: (m.minor ++ '.' :: (m.patch ++
    (optional '-' m.pre ++ optional '+' build))))
  core : isCoreField m.major = true ∧ isCoreField m.minor = true ∧ isCoreField m.patch = true
  pre : ∀ p, m.pre = some p → ∀ id ∈ p.splitOn '.', isPreIdent id = true
  build : ∀ b, build = some b → isBuild b = true

variable {s x y : List Char} {d : Char} {o : Ordering}

lemma splitAtFirst_eq {sep : Char} {key : List Char} {value : Option (List Char)} :
    splitAtFirst sep s = (key, value) ↔ s = key ++ optional sep value ∧ sep ∉ key := by
  constructor
  · intro h
    unfold splitAtFirst at h
    split at h
    · next hcut =>
      cases h
      exact eq_of_cut hcut
    · next hcut =>
      cases h
      exact ⟨by simp [optional], cut_eq_none.mp hcut⟩
  · rintro ⟨rfl, hsep⟩
    cases value with
    | none =>
      have hcut : cut sep (key ++ optional sep none) = none := by
        rw [cut_eq_none]
        simpa [optional] using hsep
      rw [splitAtFirst, hcut]
      simp [optional]
    | some value =>
      have hcut : cut sep (key ++ optional sep (some value)) = some (key, value) :=
        cut_append hsep value
      rw [splitAtFirst, hcut]

lemma isDigit_ne {c : Char} (h : isDigit c = true) (hd : isDigit d = false) : c ≠ d := by
  rintro rfl
  cases h.symm.trans hd

lemma isPreChar_ne {c : Char} (h : isPreChar c = true) (hd : isPreChar d = false) : c ≠ d := by
  rintro rfl
  cases h.symm.trans hd

lemma isCoreField_digits (h : isCoreField s = true) : s ≠ [] ∧ s.all isDigit = true := by
  simp only [isCoreField, Bool.or_eq_true, Bool.and_eq_true, decide_eq_true_eq] at h
  rcases h with rfl | ⟨⟨hne, hall⟩, -⟩
  · decide
  · exact ⟨hne, hall⟩

lemma notMem_of_isCoreField (h : isCoreField s = true) (hd : isDigit d = false) : d ∉ s := by
  intro hmem
  exact isDigit_ne (List.all_eq_true.mp (isCoreField_digits h).2 d hmem) hd rfl

lemma dropV_eq {body : List Char} (h : ∃ v, (v = [] ∨ v = ['v']) ∧ s = v ++ body)
    (hbody : body.head? ≠ some 'v') : dropV s = body := by
  obtain ⟨v, hv, rfl⟩ := h
  rcases hv with rfl | rfl
  · show dropV body = body
    unfold dropV
    split
    · exact absurd rfl hbody
    · rfl
  · rfl

lemma splitOn_core {z : List Char} (hx : '.' ∉ x) (hy : '.' ∉ y) (hz : '.' ∉ z) :
    (x ++ '.' :: (y ++ '.' :: z)).splitOn '.' = [x, y, z] := by
  have hjoin : ['.'].intercalate [x, y, z] = x ++ '.' :: (y ++ '.' :: z) := by
    simp [List.intercalate_cons_cons]
  rw [← hjoin]
  refine List.splitOn_intercalate '.' ?_ (by simp)
  simp [hx, hy, hz]

lemma eq_of_splitOn_core {z : List Char} (h : s.splitOn '.' = [x, y, z]) :
    s = x ++ '.' :: (y ++ '.' :: z) := by
  have hjoin := @List.intercalate_splitOn _ s _ _ '.'
  rw [h] at hjoin
  rw [← hjoin]
  simp [List.intercalate_cons_cons]

lemma plus_notMem_optional {pre : Option (List Char)}
    (h : ∀ p, pre = some p → ∀ id ∈ p.splitOn '.', isPreIdent id = true) :
    '+' ∉ optional '-' pre := by
  cases pre with
  | none => exact List.not_mem_nil
  | some p =>
    intro hmem
    rcases List.mem_cons.mp hmem with heq | hp
    · cases heq
    rw [← @List.intercalate_splitOn _ p _ _ '.'] at hp
    rcases mem_intercalate hp with heq | ⟨id, hid, hchar⟩
    · cases heq
    · have hident := h p rfl id hid
      simp only [isPreIdent, Bool.and_eq_true] at hident
      exact isPreChar_ne (List.all_eq_true.mp hident.2 _ hchar) (by decide) rfl

lemma exists_dropV (s : List Char) : ∃ v, (v = [] ∨ v = ['v']) ∧ s = v ++ dropV s := by
  unfold dropV
  split
  · exact ⟨['v'], .inr rfl, rfl⟩
  · exact ⟨[], .inl rfl, rfl⟩

lemma findStringSubmatch_eq_some {m : Submatch} :
    findStringSubmatch s = some m ↔ ∃ build, SemverMatch s m build := by
  constructor
  · intro h
    obtain ⟨v, hv, htext⟩ := exists_dropV s
    obtain ⟨version, build, hplus⟩ : ∃ version build,
        splitAtFirst '+' (dropV s) = (version, build) := ⟨_, _, rfl⟩
    obtain ⟨core, pre, hdash⟩ : ∃ core pre, splitAtFirst '-' version = (core, pre) := ⟨_, _, rfl⟩
    simp only [findStringSubmatch, hplus, hdash] at h
    split at h
    · next major minor patch hsplit =>
      split at h
      · next hok =>
        cases h
        simp only [Bool.and_eq_true] at hok
        obtain ⟨⟨⟨⟨hmajor, hminor⟩, hpatch⟩, hpre⟩, hbuild⟩ := hok
        refine ⟨build, ⟨v, hv, ?_⟩, ⟨hmajor, hminor, hpatch⟩, ?_, ?_⟩
        · rw [htext, (splitAtFirst_eq.mp hplus).1, (splitAtFirst_eq.mp hdash).1,
            eq_of_splitOn_core hsplit]
          simp
        · rintro p rfl id hid
          exact List.all_eq_true.mp hpre id hid
        · rintro b rfl
          exact hbuild
      · cases h
    · cases h
  · rintro ⟨build, ⟨v, hv, htext⟩, ⟨hmajor, hminor, hpatch⟩, hpre, hbuild⟩
    have hdrop : dropV s = m.major ++ '.' :: (m.minor ++ '.' :: (m.patch ++
        (optional '-' m.pre ++ optional '+' build))) := by
      refine dropV_eq ⟨v, hv, htext⟩ ?_
      obtain ⟨hne, hall⟩ := isCoreField_digits hmajor
      obtain ⟨c, rest, hcons⟩ := List.exists_cons_of_ne_nil hne
      rw [hcons] at hall ⊢
      have hdigit : isDigit c = true := List.all_eq_true.mp hall c (by simp)
      simpa using isDigit_ne hdigit (by decide)
    have hplus : splitAtFirst '+' (dropV s) = (m.major ++ '.' :: (m.minor ++ '.' :: (m.patch ++
        optional '-' m.pre)), build) := by
      rw [splitAtFirst_eq, hdrop]
      refine ⟨by simp, ?_⟩
      simp [notMem_of_isCoreField hmajor, notMem_of_isCoreField hminor,
        notMem_of_isCoreField hpatch, isDigit, plus_notMem_optional hpre]
    have hdash : splitAtFirst '-' (m.major ++ '.' :: (m.minor ++ '.' :: (m.patch ++
        optional '-' m.pre))) = (m.major ++ '.' :: (m.minor ++ '.' :: m.patch), m.pre) := by
      rw [splitAtFirst_eq]
      refine ⟨by simp, ?_⟩
      simp [notMem_of_isCoreField hmajor, notMem_of_isCoreField hminor,
        notMem_of_isCoreField hpatch, isDigit]
    have hsplit := splitOn_core (notMem_of_isCoreField hmajor (d := '.') rfl)
      (notMem_of_isCoreField hminor (d := '.') rfl) (notMem_of_isCoreField hpatch (d := '.') rfl)
    have hpreAll : m.pre.all (fun p => (p.splitOn '.').all isPreIdent) = true := by
      cases hp : m.pre with
      | none => rfl
      | some p => exact List.all_eq_true.mpr (hpre p hp)
    have hbuildAll : build.all isBuild = true := by
      cases hb : build with
      | none => rfl
      | some b => exact hbuild b hb
    simp only [findStringSubmatch, hplus, hdash, hsplit, hmajor, hminor, hpatch, hpreAll,
      hbuildAll, Bool.and_self, if_true]

/-! ## Precedence -/

/-- All-digit identifiers are integers, below all others, which are in ASCII order. -/
def identKey (s : List Char) : Nat ⊕ₗ List Char :=
  if s.all isDigit then Sum.inlₗ (digitsValue s) else Sum.inrₗ s

/-- A release is above its prereleases, and those are ordered identifier by identifier, a shorter
list first. -/
def preKey (key : List Char → Nat ⊕ₗ List Char) (pre : List (List Char)) :
    WithTop (List (Nat ⊕ₗ List Char)) :=
  if pre = [] then ⊤ else ↑(pre.map key)

def precedenceBy (key : List Char → Nat ⊕ₗ List Char) (v : ReleaseVersion) :
    Nat ×ₗ Nat ×ₗ Nat ×ₗ WithTop (List (Nat ⊕ₗ List Char)) :=
  toLex (v.core.1, toLex (v.core.2.1, toLex (v.core.2.2, preKey key v.pre)))

def precedence (v : ReleaseVersion) : Nat ×ₗ Nat ×ₗ Nat ×ₗ WithTop (List (Nat ⊕ₗ List Char)) :=
  precedenceBy identKey v

/-- The order of semantic versioning. -/
def AtMost (u v : ReleaseVersion) : Prop := precedence u ≤ precedence v

/-! ## The order of the code -/

/-- What the code orders identifiers by: those that fit 64 bits are integers. -/
def codeKey (s : List Char) : Nat ⊕ₗ List Char :=
  match parseUint64 s with
  | some n => Sum.inlₗ n
  | none => Sum.inrₗ s

lemma comparePreIdent_eq (a b : List Char) :
    comparePreIdent a b = sign (codeKey a) (codeKey b) := by
  unfold comparePreIdent codeKey
  cases parseUint64 a <;> cases parseUint64 b
  · rw [sign_inr, ← ite_eq_sign]
  · exact (sign_inr_inl _ _).symm
  · exact (sign_inl_inr _ _).symm
  · rw [sign_inl, ← ite_eq_sign]

lemma compareIdents_eq (a b : List (List Char)) :
    compareIdents a b = sign (a.map codeKey) (b.map codeKey) := by
  induction a generalizing b with
  | nil =>
    cases b with
    | nil => exact (sign_self _).symm
    | cons y ys => exact (sign_eq_lt.mpr (List.nil_lt_cons _ _)).symm
  | cons x xs ih =>
    cases b with
    | nil => exact (sign_eq_gt.mpr (List.nil_lt_cons _ _)).symm
    | cons y ys =>
      rw [compareIdents, comparePreIdent_eq, List.map_cons, List.map_cons, sign_cons, ih]
      cases sign (codeKey x) (codeKey y) <;> rfl

lemma compareField_eq (m n : Nat) (rest : Ordering) :
    compareField m n rest = (sign m n).then rest := by
  unfold compareField
  split
  · next hne =>
    split
    · next hlt => rw [sign_eq_lt.mpr hlt, Ordering.lt_then]
    · next hge => rw [sign_eq_gt.mpr (by omega), Ordering.gt_then]
  · next heq => rw [sign_eq_eq.mpr (by simpa using heq), Ordering.eq_then]

lemma sign_preKey_cons (key : List Char → Nat ⊕ₗ List Char) (x y : List Char)
    (xs ys : List (List Char)) : sign (preKey key (x :: xs)) (preKey key (y :: ys)) =
      sign ((x :: xs).map key) ((y :: ys).map key) := by
  rw [preKey, preKey, if_neg (by simp), if_neg (by simp), sign_coe]

lemma comparePrerelease_eq (a b : List (List Char)) :
    comparePrerelease a b = sign (preKey codeKey a) (preKey codeKey b) := by
  cases a with
  | nil =>
    cases b with
    | nil => exact (sign_self _).symm
    | cons y ys => exact (sign_eq_gt.mpr (WithTop.coe_lt_top _)).symm
  | cons x xs =>
    cases b with
    | nil => exact (sign_eq_lt.mpr (WithTop.coe_lt_top _)).symm
    | cons y ys =>
      rw [sign_preKey_cons, ← compareIdents_eq]
      rfl

lemma sign_precedenceBy (key : List Char → Nat ⊕ₗ List Char) (a b : ReleaseVersion) :
    sign (precedenceBy key a) (precedenceBy key b) =
      (sign a.core.1 b.core.1).then ((sign a.core.2.1 b.core.2.1).then
        ((sign a.core.2.2 b.core.2.2).then (sign (preKey key a.pre) (preKey key b.pre)))) := by
  rw [precedenceBy, precedenceBy, sign_prod, sign_prod, sign_prod]

lemma compareVersions_eq (a b : ReleaseVersion) :
    compareVersions a b = sign (precedenceBy codeKey a) (precedenceBy codeKey b) := by
  rw [compareVersions, compareField_eq, compareField_eq, compareField_eq, comparePrerelease_eq,
    sign_precedenceBy]

/-! ## Where the orders agree -/

def isBig (s : List Char) : Bool := s.all isDigit && 2 ^ 64 ≤ digitsValue s

/-- At the first two identifiers the code tells apart, a big one is not misplaced: two of them
stand in the text as by their values (if these are equal, as the rest of the lists stands), and
an identifier that is no number is after a big one. -/
def BigIdentsAgree : List (List Char) → List (List Char) → Prop
  | x :: xs, y :: ys =>
    if comparePreIdent x y = .eq then BigIdentsAgree xs ys
    else
      (isBig x = true → isBig y = true → sign x y =
        (sign (digitsValue x) (digitsValue y)).then (sign (xs.map identKey) (ys.map identKey))) ∧
      (isBig x = true → y.all isDigit = false → x < y) ∧
      (x.all isDigit = false → isBig y = true → y < x)
  | _, _ => True

lemma keys_of_big (h : isBig s = true) :
    codeKey s = Sum.inrₗ s ∧ identKey s = Sum.inlₗ (digitsValue s) ∧
      s.all isDigit = true ∧ 2 ^ 64 ≤ digitsValue s := by
  simp only [isBig, Bool.and_eq_true, decide_eq_true_eq] at h
  have hparse : parseUint64 s = none := if_neg (by simpa [h.1] using fun _ => h.2)
  exact ⟨by rw [codeKey, hparse], if_pos h.1, h⟩

lemma keys_of_small (hne : s ≠ []) (hbig : isBig s = false) (hall : s.all isDigit = true) :
    codeKey s = Sum.inlₗ (digitsValue s) ∧
      identKey s = Sum.inlₗ (digitsValue s) ∧ digitsValue s < 2 ^ 64 := by
  have hlt : digitsValue s < 2 ^ 64 := by simpa [isBig, hall] using hbig
  have hparse : parseUint64 s = some (digitsValue s) := if_pos (by simpa [hne, hall] using hlt)
  exact ⟨by rw [codeKey, hparse], if_pos hall, hlt⟩

lemma keys_of_text (h : s.all isDigit = false) :
    codeKey s = Sum.inrₗ s ∧ identKey s = Sum.inrₗ s := by
  have hparse : parseUint64 s = none := if_neg (by simp [h])
  exact ⟨by rw [codeKey, hparse], if_neg (by simp [h])⟩

lemma keys_of_not_big (hne : s ≠ []) (h : isBig s = false) : codeKey s = identKey s := by
  cases hall : s.all isDigit with
  | true =>
    obtain ⟨hcode, hident, -⟩ := keys_of_small hne h hall
    rw [hcode, hident]
  | false =>
    obtain ⟨hcode, hident⟩ := keys_of_text hall
    rw [hcode, hident]

lemma then_of_ne (h : o ≠ .eq) (rest : Ordering) : o.then rest = o := by
  cases o with
  | eq => exact absurd rfl h
  | lt => rfl
  | gt => rfl

lemma agree_at {xs ys : List (List Char)} (hx : x ≠ []) (hy : y ≠ [])
    (hne : sign (codeKey x) (codeKey y) ≠ .eq) : sign (codeKey x) (codeKey y) =
        (sign (identKey x) (identKey y)).then (sign (xs.map identKey) (ys.map identKey)) ↔
      (isBig x = true → isBig y = true → sign x y =
        (sign (digitsValue x) (digitsValue y)).then (sign (xs.map identKey) (ys.map identKey))) ∧
      (isBig x = true → y.all isDigit = false → x < y) ∧
      (x.all isDigit = false → isBig y = true → y < x) := by
  cases hbx : isBig x with
  | true =>
    obtain ⟨hcx, hix, hdx, hgex⟩ := keys_of_big hbx
    cases hby : isBig y with
    | true =>
      obtain ⟨hcy, hiy, hdy, -⟩ := keys_of_big hby
      rw [hcx, hcy, hix, hiy, sign_inr, sign_inl]
      simp [hdx, hdy]
    | false =>
      cases hdy : y.all isDigit with
      | true =>
        obtain ⟨hcy, hiy, hlty⟩ := keys_of_small hy hby hdy
        have hgt : sign (digitsValue x) (digitsValue y) = .gt := sign_eq_gt.mpr (by omega)
        rw [hcx, hcy, hix, hiy, sign_inr_inl, sign_inl, hgt]
        simp
      | false =>
        obtain ⟨hcy, hiy⟩ := keys_of_text hdy
        rw [hcx, hcy, hix, hiy, sign_inr, sign_inl_inr, Ordering.lt_then, sign_eq_lt]
        simp
  | false =>
    cases hby : isBig y with
    | true =>
      obtain ⟨hcy, hiy, -, hgey⟩ := keys_of_big hby
      cases hdx : x.all isDigit with
      | true =>
        obtain ⟨hcx, hix, hltx⟩ := keys_of_small hx hbx hdx
        have hlt : sign (digitsValue x) (digitsValue y) = .lt := sign_eq_lt.mpr (by omega)
        rw [hcx, hcy, hix, hiy, sign_inl_inr, sign_inl, hlt]
        simp
      | false =>
        obtain ⟨hcx, hix⟩ := keys_of_text hdx
        rw [hcx, hcy, hix, hiy, sign_inr, sign_inr_inl, Ordering.gt_then, sign_eq_gt]
        simp
    | false =>
      -- the keys are the same, and they differ
      rw [keys_of_not_big hx hbx, keys_of_not_big hy hby] at hne ⊢
      rw [then_of_ne hne]
      simp

lemma identKey_of_parse {n : Nat} (h : parseUint64 s = some n) : identKey s = Sum.inlₗ n := by
  unfold parseUint64 at h
  split_ifs at h
  next hok =>
  cases h
  simp only [Bool.and_eq_true] at hok
  exact if_pos hok.1.2

lemma identKey_eq_of_codeKey_eq (h : codeKey x = codeKey y) : identKey x = identKey y := by
  unfold codeKey at h
  cases hx : parseUint64 x with
  | none =>
    cases hy : parseUint64 y with
    | none =>
      rw [hx, hy] at h
      rw [Sum.inr.inj (toLex.injective h)]
    | some n =>
      rw [hx, hy] at h
      cases toLex.injective h
  | some m =>
    cases hy : parseUint64 y with
    | none =>
      rw [hx, hy] at h
      cases toLex.injective h
    | some n =>
      rw [hx, hy] at h
      rw [identKey_of_parse hx, identKey_of_parse hy]
      exact h

lemma sign_idents {a b : List (List Char)} (ha : ∀ x ∈ a, x ≠ []) (hb : ∀ y ∈ b, y ≠ []) :
    sign (a.map codeKey) (b.map codeKey) = sign (a.map identKey) (b.map identKey) ↔
      BigIdentsAgree a b := by
  induction a generalizing b with
  | nil =>
    cases b with
    | nil => simp [BigIdentsAgree, sign_self]
    | cons y ys =>
      refine iff_of_true ?_ trivial
      exact (sign_eq_lt.mpr (List.nil_lt_cons _ _)).trans
        (sign_eq_lt.mpr (List.nil_lt_cons _ _)).symm
  | cons x xs ih =>
    cases b with
    | nil =>
      refine iff_of_true ?_ trivial
      exact (sign_eq_gt.mpr (List.nil_lt_cons _ _)).trans
        (sign_eq_gt.mpr (List.nil_lt_cons _ _)).symm
    | cons y ys =>
      have hx := ha x (by simp)
      have hy := hb y (by simp)
      rw [List.map_cons, List.map_cons, List.map_cons, List.map_cons, sign_cons, sign_cons,
        BigIdentsAgree, comparePreIdent_eq]
      split
      · next heq =>
        have hkey := identKey_eq_of_codeKey_eq (sign_eq_eq.mp heq)
        rw [heq, hkey, sign_self, Ordering.eq_then, Ordering.eq_then]
        exact ih (fun z hz => ha z (by simp [hz])) fun z hz => hb z (by simp [hz])
      · next hne =>
        rw [then_of_ne hne]
        exact agree_at hx hy hne

lemma parseRelease_pre {v : ReleaseVersion} (h : parseRelease s = some v) :
    ∀ id ∈ v.pre, id ≠ [] := by
  unfold parseRelease at h
  split at h
  · cases h
  next m hm =>
  obtain ⟨build, hmatch⟩ := findStringSubmatch_eq_some.mp hm
  split at h
  · split at h
    · cases h
      simp
    next pre hpre =>
    split at h
    · cases h
    · cases h
      intro id hid
      have hident := hmatch.pre pre hpre id hid
      simp only [isPreIdent, Bool.and_eq_true, decide_eq_true_eq] at hident
      exact hident.1
  · cases h

lemma sign_preKeys {a b : List (List Char)} (ha : ∀ x ∈ a, x ≠ []) (hb : ∀ y ∈ b, y ≠ []) :
    sign (preKey codeKey a) (preKey codeKey b) = sign (preKey identKey a) (preKey identKey b) ↔
      BigIdentsAgree a b := by
  cases a with
  | nil =>
    refine iff_of_true ?_ (by cases b <;> trivial)
    cases b with
    | nil => exact (sign_self _).trans (sign_self _).symm
    | cons y ys =>
      exact (sign_eq_gt.mpr (WithTop.coe_lt_top _)).trans
        (sign_eq_gt.mpr (WithTop.coe_lt_top _)).symm
  | cons x xs =>
    cases b with
    | nil =>
      refine iff_of_true ?_ trivial
      exact (sign_eq_lt.mpr (WithTop.coe_lt_top _)).trans
        (sign_eq_lt.mpr (WithTop.coe_lt_top _)).symm
    | cons y ys =>
      rw [sign_preKey_cons, sign_preKey_cons]
      exact sign_idents ha hb

lemma then_congr_iff {r r' : Ordering} : o.then r = o.then r' ↔ (o = .eq → r = r') := by
  cases o <;> simp

/-- The order is right up to identifiers past 64 bits. -/
lemma compareVersions_iff {a b : ReleaseVersion} (ha : ∀ x ∈ a.pre, x ≠ [])
    (hb : ∀ y ∈ b.pre, y ≠ []) : compareVersions a b = sign (precedence a) (precedence b) ↔
      (a.core = b.core → BigIdentsAgree a.pre b.pre) := by
  rw [compareVersions_eq, precedence, precedence, sign_precedenceBy, sign_precedenceBy,
    then_congr_iff, then_congr_iff, then_congr_iff, sign_preKeys ha hb, sign_eq_eq, sign_eq_eq,
    sign_eq_eq]
  constructor
  · intro h heq
    exact h (congrArg (·.1) heq) (congrArg (·.2.1) heq) (congrArg (·.2.2) heq)
  · intro h h1 h2 h3
    exact h (Prod.ext h1 (Prod.ext h2 h3))

lemma checkNotDowngrade_ok {version installed : List Char}
    (h : compareReleases version installed = some o) :
    checkNotDowngrade (some installed) version = .ok installed ↔ o ≠ .lt := by
  unfold checkNotDowngrade
  simp only [h]
  cases o <;> simp

/-- `compareReleases` and the downgrade check follow the order of semantic versioning exactly if,
under equal cores, the numeric identifiers past 64 bits compare as their texts do. -/
theorem releases_ordered_by_precedence (version installed : List Char) (u v : ReleaseVersion)
    (hu : parseRelease version = some u) (hv : parseRelease installed = some v) :
    ((∀ w, AtMost w w) ∧ (∀ w w' w'', AtMost w w' → AtMost w' w'' → AtMost w w'') ∧
      ∀ w w', AtMost w w' ∨ AtMost w' w) ∧
    ((compareReleases version installed = some (sign (precedence u) (precedence v)) ∧
        (checkNotDowngrade (some installed) version = .ok installed ↔
          ¬ precedence u < precedence v)) ↔
      (u.core = v.core → BigIdentsAgree u.pre v.pre)) := by
  refine ⟨⟨fun w => le_refl _, fun w w' w'' => le_trans, fun w w' => le_total _ _⟩, ?_⟩
  have hcompare : compareReleases version installed = some (compareVersions u v) := by
    rw [compareReleases, hu, hv]
  rw [← compareVersions_iff (parseRelease_pre hu) (parseRelease_pre hv), hcompare,
    Option.some.injEq]
  constructor
  · exact fun h => h.1
  · intro h
    refine ⟨h, ?_⟩
    rw [checkNotDowngrade_ok hcompare, h, ne_eq, sign_eq_lt]

theorem candidates_ordered : compareReleases "v1.4.0-rc.2".toList "v1.4.0-rc.10".toList =
      some (sign (precedence ⟨(1, 4, 0), ["rc".toList, "2".toList]⟩)
        (precedence ⟨(1, 4, 0), ["rc".toList, "10".toList]⟩)) ∧
    compareReleases "v1.4.0-rc.2".toList "v1.4.0-rc.10".toList = some .lt := by
  have h := (releases_ordered_by_precedence "v1.4.0-rc.2".toList "v1.4.0-rc.10".toList
    ⟨(1, 4, 0), ["rc".toList, "2".toList]⟩ ⟨(1, 4, 0), ["rc".toList, "10".toList]⟩
    (by decide +kernel) (by decide +kernel)).2.mpr ?_
  · exact ⟨h.1, by decide +kernel⟩
  intro _
  have hrc : comparePreIdent "rc".toList "rc".toList = .eq := by decide +kernel
  have hnum : comparePreIdent "2".toList "10".toList = .lt := by decide +kernel
  have hsmall : isBig "2".toList = false ∧ isBig "10".toList = false := by decide +kernel
  rw [BigIdentsAgree, if_pos hrc, BigIdentsAgree, if_neg (by rw [hnum]; decide), hsmall.1, hsmall.2]
  simp

/-- The number of twenty digits is above that of twenty-one as a text, so it replaces it. -/
theorem big_identifier_downgrade : parseRelease "v1.0.0-99999999999999999999".toList =
      some ⟨(1, 0, 0), ["99999999999999999999".toList]⟩ ∧
    parseRelease "v1.0.0-100000000000000000000".toList =
      some ⟨(1, 0, 0), ["100000000000000000000".toList]⟩ ∧
    precedence ⟨(1, 0, 0), ["99999999999999999999".toList]⟩ <
      precedence ⟨(1, 0, 0), ["100000000000000000000".toList]⟩ ∧
    compareReleases "v1.0.0-99999999999999999999".toList "v1.0.0-100000000000000000000".toList =
      some .gt ∧
    checkNotDowngrade (some "v1.0.0-100000000000000000000".toList)
      "v1.0.0-99999999999999999999".toList = .ok "v1.0.0-100000000000000000000".toList := by
  refine ⟨by decide +kernel, by decide +kernel, sign_eq_lt.mp ?_, by decide +kernel,
    by decide +kernel⟩
  decide +kernel

end DarwinNet.Netd
