import Mathlib.Data.Char
import DarwinNet.Lib.Lines
import DarwinNet.Lib.SortedSet
import DarwinNet.Netd.Extract

/-!
The code-signing check of an update (`codesign.go`, and its use in `update.go`): the staged
tree is walked, every Mach-O of it and the installed k3sm are inspected, and the signatures
are compared. What the inspector says of a path is a parameter.

An update that passes leaves only validly signed Mach-Os and version markers in the staged
tree, the required files among the Mach-Os, all of one team; the team is the installed one
where there is one, and is not empty where the payload requires a team
(`verifyUpdate_tree_signed`).
-/

namespace DarwinNet.Netd

open Lib Lib.SortedSet

/-! ## Signatures -/

structure CodeSignature where
  valid : Bool
  teamID : List Char
  developerID : Bool
  deriving DecidableEq

def validTeamID (id : List Char) : Bool :=
  id.length = 10 && id.all fun c => ('A' ≤ c && c ≤ 'Z') || ('0' ≤ c && c ≤ '9')

/-- `codeSignature.team`: the Developer ID team, or nothing. -/
def CodeSignature.team (sig : CodeSignature) : List Char :=
  if sig.valid && sig.developerID && validTeamID sig.teamID then sig.teamID else []

/-- `codeInspector`: what `Inspect` reports of a path; `none` when the tool fails. -/
abbrev CodeInspector := FsPath → Option CodeSignature

inductive SigningError
  | list (rel : List Char)
  | notRegular (rel : List Char)
  | notMachO (rel : List Char)
  | noMachO (name : List Char)
  | inspect (path : FsPath)
  | installedInvalid
  | invalid (rel : List Char)
  | otherTeam (rel : List Char)
  | mixed
  | teamRequired (rel : List Char)
  deriving DecidableEq

/-! ## The staged tree -/

def machOMagics : List Nat :=
  [0xfeedface, 0xcefaedfe, 0xfeedfacf, 0xcffaedfe, 0xcafebabe, 0xbebafeca, 0xcafebabf, 0xbfbafeca]

def isMachO : List UInt8 → Bool
  | a :: b :: c :: d :: _ =>
    a.toNat * 2 ^ 24 + b.toNat * 2 ^ 16 + c.toNat * 2 ^ 8 + d.toNat ∈ machOMagics
  | _ => false

def versionMarkerSuffix : List Char := ".version".toList

def maxVersionMarkerBytes : Nat := 4 * 2 ^ 10

def isVersionMarker (rel : List Char) (bytes : List UInt8) : Bool :=
  match cut '/' rel with
  | none => false
  | some (dir, name) =>
    if dir ≠ updatePayloadDir || name.contains '/' || !versionMarkerSuffix.isSuffixOf name ||
        name.length = versionMarkerSuffix.length then false
    else bytes.length < maxVersionMarkerBytes &&
      bytes.all fun c => c = 0x0a || (0x20 ≤ c && c ≤ 0x7e)

structure StagedSet where
  members : Nat
  machOs : List (List Char)
  markers : List (List Char)

/-- The paths, relative to the staging directory, at which the walk or a read fails. -/
structure WalkFaults where
  walk : FsPath → Bool
  read : FsPath → Bool

def WalkFaults.none : WalkFaults := ⟨fun _ => false, fun _ => false⟩

def StagedSet.visit (faults : WalkFaults) (fs : FileTree (List Char) StagedFile) (dst : FsPath)
    (set : StagedSet) (rel : FsPath) : Except SigningError StagedSet :=
  if faults.walk rel then .error (.list (joinPath rel))
  else match fs.lookup (dst ++ rel) with
    | none => .error (.list (joinPath rel))
    | some .dir => .ok set
    | some .link => .error (.notRegular (joinPath rel))
    | some (.file f) =>
      if faults.read rel then .error (.list (joinPath rel))
      else if isMachO f.bytes then
        .ok { set with members := set.members + 1, machOs := set.machOs ++ [joinPath rel] }
      else if isVersionMarker (joinPath rel) f.bytes then
        .ok { set with members := set.members + 1, markers := set.markers ++ [joinPath rel] }
      else .error (.notMachO (joinPath rel))

/-- `filepath.WalkDir` with the function of `stagedSigningSet`, on the entries still ahead. -/
def StagedSet.visitAll (faults : WalkFaults) (fs : FileTree (List Char) StagedFile)
    (dst : FsPath) (set : StagedSet) : List FsPath → Except SigningError StagedSet
  | [] => .ok set
  | rel :: rels =>
    match set.visit faults fs dst rel with
    | .ok set => set.visitAll faults fs dst rels
    | .error e => .error e

def stagedSigningSet (faults : WalkFaults) (fs : FileTree (List Char) StagedFile)
    (dst : FsPath) : Except SigningError StagedSet :=
  match StagedSet.visitAll faults fs dst ⟨0, [], []⟩ (fs.walk dst) with
  | .error e => .error e
  | .ok set =>
    let machOs := set.machOs.insertionSort (· ≤ ·)
    match updateSetFiles.find? fun m => !(binarySearch machOs m).2 with
    | some m => .error (.noMachO m)
    | none => .ok { set with machOs := machOs, markers := set.markers.insertionSort (· ≤ ·) }

/-! ## Inspection and policy -/

/-- The path of a staged file: `filepath.Join(dir, filepath.FromSlash(rel))`. -/
def stagedPath (dst : FsPath) (rel : List Char) : FsPath :=
  (components rel).foldl joinComponent dst

def inspectMachOs (inspect : CodeInspector) (dst : FsPath)
    (tree : GoMap (List Char) CodeSignature) :
    List (List Char) → Except SigningError (GoMap (List Char) CodeSignature)
  | [] => .ok tree
  | rel :: rels =>
    match inspect (stagedPath dst rel) with
    | none => .error (.inspect (stagedPath dst rel))
    | some sig => inspectMachOs inspect dst (tree.insert rel sig) rels

def inspectStagedTree (inspect : CodeInspector) (dst : FsPath) (set : StagedSet)
    (installedPath : FsPath) :
    Except SigningError (CodeSignature × GoMap (List Char) CodeSignature) :=
  match inspect installedPath with
  | none => .error (.inspect installedPath)
  | some installed => (inspectMachOs inspect dst ∅ set.machOs).map fun tree => (installed, tree)

/-- The loop of `checkCodeSigning`; `teams` maps a team to the first file carrying it. -/
def checkMembers (installed : CodeSignature) (tree : GoMap (List Char) CodeSignature)
    (teams : GoMap (List Char) (List Char)) :
    List (List Char) → Except SigningError (GoMap (List Char) (List Char))
  | [] => .ok teams
  | rel :: rels =>
    let sig := (tree.lookup rel).getD ⟨false, [], false⟩
    if !sig.valid then .error (.invalid rel)
    else if installed.team ≠ [] ∧ sig.team ≠ installed.team then .error (.otherTeam rel)
    else
      let teams := if (teams.lookup sig.team).isSome then teams else teams.insert sig.team rel
      checkMembers installed tree teams rels

def checkCodeSigning (installed : CodeSignature) (tree : GoMap (List Char) CodeSignature)
    (requireTeam : Bool) : Except SigningError Unit :=
  if !installed.valid then .error .installedInvalid
  else match checkMembers installed tree ∅ (tree.keys.insertionSort (· ≤ ·)) with
    | .error e => .error e
    | .ok teams =>
      if 1 < teams.size then .error .mixed
      else match teams.lookup [] with
        | some rel => if requireTeam then .error (.teamRequired rel) else .ok ()
        | none => .ok ()

inductive UpdateError
  | extract (e : ExtractError)
  | signing (e : SigningError)
  /-- The installed k3sm could not be resolved. -/
  | installed
  deriving DecidableEq

/-- The verification part of the update handler: extraction, then the signing checks. The
staged tree is what the extraction left when all of it passed. -/
def verifyUpdate (d : StagingDir) (a : Archive) (faults : WalkFaults) (inspect : CodeInspector)
    (installedPath : Option FsPath) (requireTeam : Bool) : Except UpdateError Extraction :=
  match extractUpdateArchive d a with
  | (_, some e) => .error (.extract e)
  | (x, none) =>
    match stagedSigningSet faults x.fs d.dst with
    | .error e => .error (.signing e)
    | .ok set =>
      match installedPath with
      | none => .error .installed
      | some path =>
        match inspectStagedTree inspect d.dst set path with
        | .error e => .error (.signing e)
        | .ok (installed, tree) =>
          match checkCodeSigning installed tree requireTeam with
          | .error e => .error (.signing e)
          | .ok () => .ok x

/-! ## What the walk has seen -/

inductive Visited (fs : FileTree (List Char) StagedFile) (dst : FsPath) (set : StagedSet)
    (rel : FsPath) : Prop
  | dir (h : fs.lookup (dst ++ rel) = some .dir)
  | machO (f : StagedFile) (h : fs.lookup (dst ++ rel) = some (.file f))
      (hm : isMachO f.bytes = true) (hset : joinPath rel ∈ set.machOs)
  | marker (f : StagedFile) (h : fs.lookup (dst ++ rel) = some (.file f))
      (hm : isMachO f.bytes = false) (hv : isVersionMarker (joinPath rel) f.bytes = true)

variable {fs : FileTree (List Char) StagedFile} {dst : FsPath} {set : StagedSet}
  {faults : WalkFaults}

lemma Visited.mono {set' : StagedSet} {rel : FsPath} (h : Visited fs dst set rel)
    (hsub : ∀ m ∈ set.machOs, m ∈ set'.machOs) : Visited fs dst set' rel := by
  cases h with
  | dir h => exact .dir h
  | machO f h hm hset => exact .machO f h hm (hsub _ hset)
  | marker f h hm hv => exact .marker f h hm hv

lemma StagedSet.visit_ok {set' : StagedSet} {rel : FsPath}
    (h : set.visit faults fs dst rel = .ok set') :
    Visited fs dst set' rel ∧ (∀ m ∈ set.machOs, m ∈ set'.machOs) ∧
      ∀ m ∈ set'.machOs, m ∈ set.machOs ∨ m = joinPath rel ∧
        ∃ f, fs.lookup (dst ++ rel) = some (.file f) ∧ isMachO f.bytes = true := by
  unfold StagedSet.visit at h
  (repeat' split at h) <;> cases h
  next hl => exact ⟨.dir hl, fun _ hm => hm, fun _ hm => .inl hm⟩
  next f hl _ hmach =>
    refine ⟨.machO f hl hmach (by simp), fun m hm => by simp [hm], ?_⟩
    intro m hm
    rcases List.mem_append.mp hm with hm | hm
    · exact .inl hm
    · exact .inr ⟨List.mem_singleton.mp hm, f, hl, hmach⟩
  next f hl _ hmach hmark =>
    exact ⟨.marker f hl (by simpa using hmach) hmark, fun _ hm => hm, fun _ hm => .inl hm⟩

lemma StagedSet.visitAll_ok {rels : List FsPath} : ∀ {set set' : StagedSet},
    set.visitAll faults fs dst rels = .ok set' →
      (∀ rel ∈ rels, Visited fs dst set' rel) ∧ (∀ m ∈ set.machOs, m ∈ set'.machOs) ∧
        ∀ m ∈ set'.machOs, m ∈ set.machOs ∨ ∃ rel ∈ rels, m = joinPath rel ∧
          ∃ f, fs.lookup (dst ++ rel) = some (.file f) ∧ isMachO f.bytes = true := by
  induction rels with
  | nil =>
    intro set set' h
    cases h
    exact ⟨by simp, fun _ hm => hm, fun _ hm => .inl hm⟩
  | cons rel rels ih =>
    intro set set' h
    unfold StagedSet.visitAll at h
    split at h
    · next mid hmid =>
      obtain ⟨hvis, hsub, horigin⟩ := StagedSet.visit_ok hmid
      obtain ⟨hall, hsub', horigin'⟩ := ih h
      refine ⟨?_, fun m hm => hsub' m (hsub m hm), ?_⟩
      · intro r hr
        rcases List.mem_cons.mp hr with rfl | hr
        · exact hvis.mono hsub'
        · exact hall r hr
      · intro m hm
        rcases horigin' m hm with hmid | ⟨r, hr, hfile⟩
        · rcases horigin m hmid with hold | ⟨heq, hfile⟩
          · exact .inl hold
          · exact .inr ⟨rel, by simp, heq, hfile⟩
        · exact .inr ⟨r, by simp [hr], hfile⟩
    · cases h

structure SignedSet (fs : FileTree (List Char) StagedFile) (dst : FsPath) (set : StagedSet) :
    Prop where
  visited : ∀ rel, rel ≠ [] → fs.lookup (dst ++ rel) ≠ none → Visited fs dst set rel
  machO : ∀ m ∈ set.machOs, ∃ rel, rel ≠ [] ∧ m = joinPath rel ∧
    ∃ f, fs.lookup (dst ++ rel) = some (.file f) ∧ isMachO f.bytes = true
  required : ∀ m ∈ updateSetFiles, m ∈ set.machOs

lemma signedSet_of_stagedSigningSet
        (h : stagedSigningSet faults fs dst = .ok set) : SignedSet fs dst set := by
  unfold stagedSigningSet at h
  split at h
  · cases h
  next walked hwalked =>
  obtain ⟨hall, -, horigin⟩ := StagedSet.visitAll_ok hwalked
  simp only at h
  split at h
  · cases h
  next hfind =>
  cases h
  have hmem : ∀ m, m ∈ walked.machOs.insertionSort (· ≤ ·) ↔ m ∈ walked.machOs :=
    fun m => List.mem_insertionSort _
  refine ⟨?_, ?_, ?_⟩
  · intro rel hne hl
    exact (hall rel (FileTree.mem_walk.mpr ⟨hne, hl⟩)).mono fun m hm => (hmem m).mpr hm
  · intro m hm
    rcases horigin m ((hmem m).mp hm) with hnil | ⟨rel, hrel, heq, hfile⟩
    · cases hnil
    · exact ⟨rel, (FileTree.mem_walk.mp hrel).1, heq, hfile⟩
  · intro m hm
    have hfound : (binarySearch (walked.machOs.insertionSort (· ≤ ·)) m).2 = true := by
      simpa using List.find?_eq_none.mp hfind m hm
    exact (binarySearch_found _ _ (List.pairwise_insertionSort _ _)).mp hfound

/-! ## What the policy has seen -/

lemma inspectMachOs_ok {inspect : CodeInspector} {rels : List (List Char)} :
    ∀ {tree tree' : GoMap (List Char) CodeSignature},
    inspectMachOs inspect dst tree rels = .ok tree' →
      (∀ rel sig, tree.lookup rel = some sig → inspect (stagedPath dst rel) = some sig) →
      (∀ rel sig, tree'.lookup rel = some sig → inspect (stagedPath dst rel) = some sig) ∧
        ∀ rel, rel ∈ rels ∨ tree.lookup rel ≠ none → tree'.lookup rel ≠ none := by
  induction rels with
  | nil =>
    intro tree tree' h hold
    cases h
    exact ⟨hold, fun rel hrel => hrel.resolve_left (by simp)⟩
  | cons first rels ih =>
    intro tree tree' h hold
    unfold inspectMachOs at h
    split at h
    · cases h
    next sig hsig =>
    have hnew : ∀ rel s, (tree.insert first sig).lookup rel = some s →
        inspect (stagedPath dst rel) = some s := by
      intro rel s hl
      rw [GoMap.lookup_insert_ite] at hl
      split at hl
      · next heq =>
        rw [heq, hsig, hl]
      · exact hold rel s hl
    obtain ⟨hall, hkeys⟩ := ih h hnew
    refine ⟨hall, ?_⟩
    intro rel hrel
    apply hkeys
    rw [GoMap.lookup_insert_ite]
    rcases hrel with hrel | hrel
    · rcases List.mem_cons.mp hrel with rfl | hrel
      · exact .inr (by simp)
      · exact .inl hrel
    · refine .inr ?_
      split
      · simp
      · exact hrel

lemma checkMembers_ok {installed : CodeSignature} {tree : GoMap (List Char) CodeSignature}
    {rels : List (List Char)} : ∀ {teams teams' : GoMap (List Char) (List Char)},
    checkMembers installed tree teams rels = .ok teams' →
      (∀ rel ∈ rels, ∀ sig, tree.lookup rel = some sig → sig.valid = true ∧
        (installed.team ≠ [] → sig.team = installed.team) ∧ teams'.lookup sig.team ≠ none) ∧
      ∀ team, teams.lookup team ≠ none → teams'.lookup team ≠ none := by
  induction rels with
  | nil =>
    intro teams teams' h
    cases h
    exact ⟨by simp, fun _ h => h⟩
  | cons first rels ih =>
    intro teams teams' h
    simp only [checkMembers] at h
    split at h
    · cases h
    next hvalid =>
    split at h
    · cases h
    next hteam =>
    obtain ⟨hall, hkeep⟩ := ih h
    have hkept : ∀ team, teams.lookup team ≠ none → teams'.lookup team ≠ none := by
      intro team ht
      apply hkeep
      split
      · exact ht
      rw [GoMap.lookup_insert_ite]
      split
      · simp
      · exact ht
    refine ⟨?_, hkept⟩
    intro rel hrel sig hsig
    rcases List.mem_cons.mp hrel with rfl | hrel
    · rw [hsig, Option.getD_some] at hvalid hteam hkeep
      refine ⟨by simpa using hvalid, ?_, ?_⟩
      · intro hne
        exact not_not.mp fun hdiff => hteam ⟨hne, hdiff⟩
      apply hkeep
      split
      · next hsome =>
        intro hnone
        simp [hnone] at hsome
      · simp
    · exact hall rel hrel sig hsig

lemma eq_of_size_le_one {V : Type} {m : GoMap (List Char) V} (h : m.size ≤ 1) {a b : List Char}
    (ha : m.lookup a ≠ none) (hb : m.lookup b ≠ none) : a = b := by
  obtain ⟨v, hv⟩ := Option.ne_none_iff_exists'.mp ha
  obtain ⟨w, hw⟩ := Option.ne_none_iff_exists'.mp hb
  have hva := GoMap.mem_entries_of_lookup hv
  have hwb := GoMap.mem_entries_of_lookup hw
  rw [GoMap.size] at h
  generalize m.entries = es at h hva hwb
  cases es with
  | nil => cases hva
  | cons e es =>
    cases es with
    | nil =>
      have heq := (List.mem_singleton.mp hva).trans (List.mem_singleton.mp hwb).symm
      exact congrArg Sigma.fst heq
    | cons e' es =>
      simp only [List.length_cons] at h
      omega

lemma checkCodeSigning_ok {installed : CodeSignature} {tree : GoMap (List Char) CodeSignature}
    {requireTeam : Bool} (h : checkCodeSigning installed tree requireTeam = .ok ()) :
    installed.valid = true ∧ (∀ rel sig, tree.lookup rel = some sig → sig.valid = true) ∧
      ∀ rel sig, tree.lookup rel = some sig →
        (∀ rel' sig', tree.lookup rel' = some sig' → sig'.team = sig.team) ∧
        (installed.team ≠ [] → sig.team = installed.team) ∧
        (requireTeam = true → sig.team ≠ []) := by
  unfold checkCodeSigning at h
  split at h
  · cases h
  next hvalid =>
  split at h
  · cases h
  next teams hteams =>
  obtain ⟨hall, -⟩ := checkMembers_ok hteams
  have hmem : ∀ {rel sig}, tree.lookup rel = some sig → rel ∈ tree.keys.insertionSort (· ≤ ·) := by
    intro rel sig hl
    rw [List.mem_insertionSort]
    exact GoMap.mem_keys_iff.mpr ⟨sig, hl⟩
  split at h
  · cases h
  next hsize =>
  refine ⟨by simpa using hvalid, fun rel sig hl => (hall rel (hmem hl) sig hl).1, ?_⟩
  intro rel sig hl
  obtain ⟨-, hsame, hkey⟩ := hall rel (hmem hl) sig hl
  refine ⟨?_, hsame, ?_⟩
  · intro rel' sig' hl'
    exact eq_of_size_le_one (Nat.not_lt.mp hsize) (hall rel' (hmem hl') sig' hl').2.2 hkey
  rintro rfl hnil
  split at h
  · cases h
  · next hnone => exact (hnil ▸ hkey) hnone

/-! ## The verified update -/

structure Verified (d : StagingDir) (inspect : CodeInspector) (installedPath : Option FsPath)
    (requireTeam : Bool) (x : Extraction) (path : FsPath) (installed : CodeSignature)
    (set : StagedSet) (tree : GoMap (List Char) CodeSignature) : Prop where
  confined : Confined d x
  resolved : installedPath = some path
  inspected : inspect path = some installed
  signedSet : SignedSet x.fs d.dst set
  machOs : inspectMachOs inspect d.dst ∅ set.machOs = .ok tree
  policy : checkCodeSigning installed tree requireTeam = .ok ()

lemma verified_of_verifyUpdate {d : StagingDir} {a : Archive} {inspect : CodeInspector}
    {installedPath : Option FsPath} {requireTeam : Bool} {x : Extraction}
    (h : verifyUpdate d a faults inspect installedPath requireTeam = .ok x) :
    ∃ path installed set tree,
      Verified d inspect installedPath requireTeam x path installed set tree := by
  unfold verifyUpdate at h
  (repeat' split at h) <;> cases h
  next set _ path _ installed tree htree _ hpolicy hextract hset =>
  have hconfined := (extractUpdateArchive_outcome d a).confined
  rw [hextract] at hconfined
  unfold inspectStagedTree at htree
  split at htree
  · cases htree
  next sig hsig =>
  cases hmach : inspectMachOs inspect d.dst ∅ set.machOs with
  | error e =>
    rw [hmach] at htree
    cases htree
  | ok t =>
    rw [hmach] at htree
    cases htree
    exact ⟨path, installed, set, tree, hconfined, rfl, hsig,
      signedSet_of_stagedSigningSet hset, hmach, hpolicy⟩

section Accepted

variable {d : StagingDir} {inspect : CodeInspector} {installedPath : Option FsPath}
  {requireTeam : Bool} {x : Extraction} {path : FsPath} {installed : CodeSignature}
  {set : StagedSet} {tree : GoMap (List Char) CodeSignature}

lemma Verified.stagedPath (v : Verified d inspect installedPath requireTeam x path installed
    set tree) {rel : FsPath} (hrel : rel ≠ []) (hl : x.fs.lookup (d.dst ++ rel) ≠ none) :
    Netd.stagedPath d.dst (joinPath rel) = d.dst ++ rel := by
  have hproper := v.confined.isProper hrel hl
  rw [Netd.stagedPath, components_joinPath (fun c hc => (hproper c hc).no_slash) hrel]
  exact foldl_joinComponent hproper _

lemma Verified.exists_sig (v : Verified d inspect installedPath requireTeam x path installed
    set tree) {rel : FsPath} {f : StagedFile} (hrel : rel ≠ [])
    (hl : x.fs.lookup (d.dst ++ rel) = some (.file f)) (hm : isMachO f.bytes = true) :
    ∃ sig, tree.lookup (joinPath rel) = some sig ∧ inspect (d.dst ++ rel) = some sig := by
  obtain ⟨hinspected, hkeys⟩ := inspectMachOs_ok v.machOs (by simp)
  have hne : x.fs.lookup (d.dst ++ rel) ≠ none := by simp [hl]
  have hset : joinPath rel ∈ set.machOs := by
    cases v.signedSet.visited rel hrel hne with
    | dir h => cases h.symm.trans hl
    | machO _ _ _ hset => exact hset
    | marker g h hnot =>
      cases h.symm.trans hl
      cases hnot.symm.trans hm
  obtain ⟨sig, hsig⟩ := Option.ne_none_iff_exists'.mp (hkeys _ (.inl hset))
  refine ⟨sig, hsig, ?_⟩
  rw [← v.stagedPath hrel hne]
  exact hinspected _ _ hsig

lemma Verified.required (v : Verified d inspect installedPath requireTeam x path installed
    set tree) {m : List Char} (hm : m ∈ updateSetFiles) :
    ∃ f, x.fs.lookup (d.dst ++ [m]) = some (.file f) ∧ isMachO f.bytes = true := by
  obtain ⟨rel, hrel, hjoin, f, hl, hmach⟩ := v.signedSet.machO m (v.signedSet.required m hm)
  have hproper := v.confined.isProper hrel (by simp [hl])
  have hcomp := components_joinPath (fun c hc => (hproper c hc).no_slash) hrel
  rw [← hjoin, components_of_mem_updateSetFiles hm] at hcomp
  exact ⟨f, hcomp ▸ hl, hmach⟩

end Accepted

/-- An update that passes holds only validly signed Mach-Os and version markers, the required files
among them, all of one team: that of the installed k3sm, if it has one. -/
theorem verifyUpdate_tree_signed {d : StagingDir} {a : Archive} {faults : WalkFaults}
    {inspect : CodeInspector} {installedPath : Option FsPath} {requireTeam : Bool} {x : Extraction}
    (h : verifyUpdate d a faults inspect installedPath requireTeam = .ok x) :
    ∃ path installed, installedPath = some path ∧ inspect path = some installed ∧
      installed.valid = true ∧
      (∀ rel n, rel ≠ [] → x.fs.lookup (d.dst ++ rel) = some n → n ≠ .dir → ∃ f, n = .file f ∧
        ((isMachO f.bytes = true ∧ ∃ sig, inspect (d.dst ++ rel) = some sig ∧ sig.valid = true) ∨
          isVersionMarker (joinPath rel) f.bytes = true)) ∧
      (∀ m ∈ updateSetFiles, ∃ f, x.fs.lookup (d.dst ++ [m]) = some (.file f) ∧
        isMachO f.bytes = true ∧ ∃ sig, inspect (d.dst ++ [m]) = some sig ∧ sig.valid = true) ∧
      ∃ team, (∀ rel f, rel ≠ [] → x.fs.lookup (d.dst ++ rel) = some (.file f) →
          isMachO f.bytes = true → ∃ sig, inspect (d.dst ++ rel) = some sig ∧ sig.team = team) ∧
        (installed.team ≠ [] → team = installed.team) ∧ (requireTeam = true → team ≠ []) := by
  obtain ⟨path, installed, set, tree, v⟩ := verified_of_verifyUpdate h
  obtain ⟨hvalid, hall, hteam⟩ := checkCodeSigning_ok v.policy
  -- one required file names the team the others have to carry
  obtain ⟨f₀, hf₀, hm₀⟩ := v.required (m := "k3sm".toList) (by decide)
  obtain ⟨sig₀, hsig₀, -⟩ := v.exists_sig (by simp) hf₀ hm₀
  obtain ⟨hsame, hinstalled, hrequire⟩ := hteam _ _ hsig₀
  refine ⟨path, installed, v.resolved, v.inspected, hvalid, ?_, ?_,
    sig₀.team, ?_, hinstalled, hrequire⟩
  · intro rel n hrel hl hn
    cases v.signedSet.visited rel hrel (by simp [hl]) with
    | dir hdir =>
      cases hl.symm.trans hdir
      exact absurd rfl hn
    | machO f hf hm _ =>
      cases hl.symm.trans hf
      obtain ⟨sig, hsig, hinspect⟩ := v.exists_sig hrel hf hm
      exact ⟨f, rfl, .inl ⟨hm, sig, hinspect, hall _ _ hsig⟩⟩
    | marker f hf _ hv =>
      cases hl.symm.trans hf
      exact ⟨f, rfl, .inr hv⟩
  · intro m hm
    obtain ⟨f, hf, hmach⟩ := v.required hm
    obtain ⟨sig, hsig, hinspect⟩ := v.exists_sig (by simp) hf hmach
    exact ⟨f, hf, hmach, sig, hinspect, hall _ _ hsig⟩
  · intro rel f hrel hf hm
    obtain ⟨sig, hsig, hinspect⟩ := v.exists_sig hrel hf hm
    exact ⟨sig, hinspect, hsame _ _ hsig⟩

/-! A release of five signed binaries, the payload directory, a signed component and its
version marker. -/

def emptyStaging : StagingDir where
  fs := { nodes := ∅, root := AList.lookup_empty _, closed := fun _ _ h => by cases h }
  dst := []
  isDir := .inl rfl
  empty := fun _ _ _ => AList.lookup_empty _

def releaseEntry (name : List Char) (typeflag : Char) (data : List UInt8) : TarEntry :=
  ⟨name, typeflag, 0o755, data.length, data, false, .none⟩

def releaseArchive : Archive where
  gzip := true
  entries :=
    updateSetFiles.map (releaseEntry · '0' [0xcf, 0xfa, 0xed, 0xfe, 0x07]) ++
      [releaseEntry "./cp-payload/".toList '5' [],
        releaseEntry "cp-payload/etcd".toList '0' [0xca, 0xfe, 0xba, 0xbe],
        releaseEntry "cp-payload/etcd.version".toList '0' [0x33, 0x2e, 0x35, 0x0a],
        releaseEntry "LICENSE".toList '0' [0x20]]
  readFails := false

def teamSignature : CodeSignature := ⟨true, "ABCDE12345".toList, true⟩

theorem verifyUpdate_tree_signed_release :
    ∃ x team, verifyUpdate emptyStaging releaseArchive .none (fun _ => some teamSignature)
        (some ["k3sm".toList]) true = .ok x ∧
      x.fs.lookup [updatePayloadDir, "etcd.version".toList] ≠ none ∧ team ≠ [] ∧
      ∀ rel f, rel ≠ [] → x.fs.lookup rel = some (.file f) → isMachO f.bytes = true →
        teamSignature.team = team := by
  have hrun : (verifyUpdate emptyStaging releaseArchive .none (fun _ => some teamSignature)
      (some ["k3sm".toList]) true).toOption.map (fun x => decide
        (x.fs.lookup [updatePayloadDir, "etcd.version".toList] ≠ none)) = some true := by
    decide +kernel
  obtain ⟨x, hx, hfact⟩ := Option.map_eq_some_iff.mp hrun
  have hok : verifyUpdate emptyStaging releaseArchive .none (fun _ => some teamSignature)
      (some ["k3sm".toList]) true = .ok x := by
    cases hv : verifyUpdate emptyStaging releaseArchive .none (fun _ => some teamSignature)
        (some ["k3sm".toList]) true with
    | error e =>
      rw [hv] at hx
      cases hx
    | ok y =>
      rw [hv] at hx
      exact congrArg Except.ok (Option.some.inj hx)
  obtain ⟨path, installed, -, -, -, -, -, team, hall, -, hteam⟩ := verifyUpdate_tree_signed hok
  refine ⟨x, team, hok, of_decide_eq_true hfact, hteam rfl, ?_⟩
  intro rel f hrel hl hm
  obtain ⟨sig, hsig, heq⟩ := hall rel f hrel hl hm
  cases hsig
  exact heq

end DarwinNet.Netd
