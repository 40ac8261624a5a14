import DarwinNet.Lib.Paths
import DarwinNet.Lib.FileTree

/-!
Unpacking a release archive (`extract.go`). The archive is a sequence of tar entries with
arbitrary names, type flags, modes, sizes and contents; every call to the system and every
read may fail. The files go below the staging directory, an existing empty one (`StagingDir`).

Whatever the archive holds and wherever the extraction stops, it has created only files of
the build set and the payload tree below the staging directory, each once, in directories
that are not links, within the caps on bytes and entries; and when it succeeds, every file
of the build set is there with the whole content of its entry
(`extractUpdateArchive_confined`).
-/

namespace DarwinNet.Netd

open Lib

/-! ## The archive -/

/-- A path of the file system as its components below the root. -/
abbrev FsPath := List (List Char)

def updatePayloadDir : List Char := "cp-payload".toList

def updateSetFiles : List (List Char) :=
  ["k3sm".toList, "k3sm-execshim".toList, "k3sm-vmhost".toList,
    "libk3sm_getaddrinfo_shim.dylib".toList, "libk3sm_pathrebase_shim.dylib".toList]

def updateSkippedFiles : List (List Char) :=
  ["LICENSE".toList, "NOTICE".toList, "k3sm-netd".toList, "PAYLOAD-SHA256".toList,
    "UPSTREAM-DIGESTS".toList]

def maxUpdateArchiveDepth : Nat := 16

def maxUpdateSetBytes : Int := 2 * 2 ^ 30

def maxUpdateArchiveMembers : Nat := 4096

/-- Which of the system calls made for one entry fail for a reason of their own. -/
structure OsFaults where
  mkdir : FsPath → Bool
  lstat : FsPath → Bool
  openFile : Bool
  writeAfter : Option Nat
  chmod : Bool
  close : Bool

def OsFaults.none : OsFaults := ⟨fun _ => false, fun _ => false, false, .none, false, false⟩

/-- A `tar.Header` with what reading its member yields. The characters of the name are
its bytes. -/
structure TarEntry where
  name : List Char
  typeflag : Char
  mode : BitVec 64
  size : Int
  data : List UInt8
  /-- The member ends in a read error, not at its end. -/
  readFails : Bool
  os : OsFaults

def typeLink : Char := '1'
def typeDir : Char := '5'
def typeXGlobalHeader : Char := 'g'

structure FileMode where
  dir : Bool
  symlink : Bool
  namedPipe : Bool
  socket : Bool
  device : Bool
  charDevice : Bool
  perm : BitVec 32

def FileMode.isRegular (m : FileMode) : Bool :=
  !(m.dir || m.symlink || m.namedPipe || m.socket || m.device || m.charDevice)

/-- `hdr.FileInfo().Mode()`: the mode is cut to the 32 bits of an `fs.FileMode`, and the type bits
come from it and from the type flag. -/
def TarEntry.fileMode (h : TarEntry) : FileMode :=
  let mode := h.mode.setWidth 32
  let m := mode &&& ~~~0o7777#32
  { dir := m = 0o040000#32 || h.typeflag = typeDir
    symlink := m = 0o120000#32 || h.typeflag = '2'
    namedPipe := m = 0o010000#32 || h.typeflag = '6'
    socket := m = 0o140000#32
    device := m = 0o060000#32 || m = 0o020000#32 || h.typeflag = '3' || h.typeflag = '4'
    charDevice := m = 0o020000#32 || h.typeflag = '3'
    perm := mode &&& 0o777#32 }

/-- The unpacked stream: whether it is gzip, its entries, and whether it ends in an error. -/
structure Archive where
  gzip : Bool
  entries : List TarEntry
  readFails : Bool

/-! ## The extraction -/

inductive ExtractError
  | notGzip
  | read
  | tooManyEntries
  | badName (name : List Char)
  | link (name : List Char)
  | directory (name : List Char)
  | notRegular (name : List Char)
  | tooLarge
  | notInSet (name : List Char)
  | twice (name : List Char)
  | missing (name : List Char)
  | create (path : FsPath) (e : FsError)
  | inspect (path : FsPath)
  | notDirectory (path : FsPath)
  | truncated (name : List Char)
  | write (path : FsPath)
  deriving DecidableEq

structure StagedFile where
  bytes : List UInt8
  perm : BitVec 32
  deriving DecidableEq

structure Creation where
  path : FsPath
  dir : Bool

structure Extraction where
  fs : FileTree (List Char) StagedFile
  seen : List (List Char)
  total : Int
  entries : Nat
  created : List Creation
  written : Nat
  /-- A file or directory was to be created through a link. -/
  throughLink : Bool

def trimLeading (lead s : List Char) : List Char :=
  if lead.isPrefixOf s then s.drop lead.length else s

def trimTrailing (trail s : List Char) : List Char :=
  if trail.isSuffixOf s then s.take (s.length - trail.length) else s

def inPayloadTree (name : List Char) (dir : Bool) : Bool :=
  if name = updatePayloadDir then dir
  else
    let root := updatePayloadDir ++ ['/']
    root.isPrefixOf name && (name.drop root.length).count '/' < maxUpdateArchiveDepth

/-- What `archiveMemberName` refuses: anything but a clean relative path. -/
def badMemberName (name : List Char) : Bool :=
  name = [] || name.head? = some '/' || name.any (fun c => c = '\x00' || c = '\\') ||
    cleanPath name ≠ name || (components name).any fun c => c = ['.', '.'] || c = ['.']

def archiveMemberName (h : TarEntry) : Option (List Char) :=
  let name := trimLeading "./".toList h.name
  let name := if h.typeflag = typeDir then trimTrailing ['/'] name else name
  if badMemberName name then none else some name

def Extraction.mkdirOwn (os : OsFaults) (s : Extraction) (p : FsPath) :
    Extraction × Option ExtractError :=
  if os.mkdir p then (s, some (.create p .other))
  else match s.fs.place p .dir with
    | .ok fs => ({ s with fs := fs, created := ⟨p, true⟩ :: s.created }, none)
    | .error .exist =>
      if os.lstat p then (s, some (.inspect p))
      else if s.fs.IsDir p then (s, none)
      else (s, some (.notDirectory p))
    | .error e => ({ s with throughLink := s.throughLink || e = .throughLink }, some (.create p e))

/-- `mkdirAllOwn` from the directory `cur` on. -/
def Extraction.mkdirAllOwn (os : OsFaults) (s : Extraction) (cur : FsPath) :
    List (List Char) → Extraction × Option ExtractError
  | [] => (s, none)
  | c :: cs =>
    match s.mkdirOwn os (joinComponent cur c) with
    | (s, none) => s.mkdirAllOwn os (joinComponent cur c) cs
    | (s, some e) => (s, some e)

/-- What `io.Copy` of the first `size` bytes writes, and whether it fails. -/
def TarEntry.copy (h : TarEntry) : List UInt8 × Bool :=
  let wanted := h.data.take h.size.toNat
  let out := match h.os.writeAfter with
    | some n => wanted.take n
    | none => wanted
  (out, out.length < wanted.length || (h.readFails && wanted.length < h.size.toNat))

/-- The file `writeArchiveMember` leaves, and the error it returns for it. -/
def TarEntry.stage (h : TarEntry) (p : FsPath) (name : List Char) (perm : BitVec 32) :
    StagedFile × Option ExtractError :=
  let out := h.copy.1
  if h.copy.2 then (⟨out, 0o600⟩, some (.write p))
  else if (out.length : Int) ≠ h.size then (⟨out, 0o600⟩, some (.truncated name))
  else if h.os.chmod then (⟨out, 0o600⟩, some (.write p))
  else (⟨out, (perm &&& 0o755) ||| 0o600⟩, if h.os.close then some (.write p) else none)

/-- `writeArchiveMember` once the directory of the member exists. -/
def Extraction.createMember (s : Extraction) (h : TarEntry) (p : FsPath) (name : List Char)
    (perm : BitVec 32) : Extraction × Option ExtractError :=
  if h.os.openFile then (s, some (.create p .other))
  else
    let (file, err) := h.stage p name perm
    match s.fs.place p (.file file) with
    | .error e =>
      ({ s with throughLink := s.throughLink || e = .throughLink }, some (.create p e))
    | .ok fs =>
      ({ s with fs := fs, created := ⟨p, false⟩ :: s.created,
                written := s.written + file.bytes.length }, err)

def Extraction.writeArchiveMember (s : Extraction) (h : TarEntry) (dst : FsPath)
    (name : List Char) (perm : BitVec 32) : Extraction × Option ExtractError :=
  let dir := pathDir name
  let made := if dir = ['.'] then (s, none) else s.mkdirAllOwn h.os dst (components dir)
  match made with
  | (s, some e) => (s, some e)
  | (s, none) => s.createMember h ((components name).foldl joinComponent dst) name perm

/-- A regular file of the archive in the loop of `extractUpdateArchive`. -/
def Extraction.extractFile (dst : FsPath) (s : Extraction) (h : TarEntry) (name : List Char) :
    Extraction × Option ExtractError :=
  if h.size < 0 || maxUpdateSetBytes - s.total < h.size then (s, some .tooLarge)
  else
    let s := { s with total := s.total + h.size }
    if name ∈ updateSkippedFiles then (s, if h.readFails then some .read else none)
    else if name ∉ updateSetFiles && !inPayloadTree name false then (s, some (.notInSet name))
    else if name ∈ s.seen then (s, some (.twice name))
    else
      ({ s with seen := name :: s.seen } : Extraction).writeArchiveMember h dst name
        h.fileMode.perm

def Extraction.extractEntry (dst : FsPath) (s : Extraction) (h : TarEntry) :
    Extraction × Option ExtractError :=
  if h.typeflag = typeXGlobalHeader then (s, none)
  else match archiveMemberName h with
    | none => (s, some (.badName h.name))
    | some name =>
      let mode := h.fileMode
      if h.typeflag = typeLink || mode.symlink then (s, some (.link name))
      else if mode.dir then
        if inPayloadTree name true then s.mkdirAllOwn h.os dst (components name)
        else (s, some (.directory name))
      else if !mode.isRegular then (s, some (.notRegular name))
      else s.extractFile dst h name

/-- The loop of `extractUpdateArchive` and the check for the required files after it. -/
def Extraction.extractLoop (dst : FsPath) (readFails : Bool) (s : Extraction) :
    List TarEntry → Extraction × Option ExtractError
  | [] =>
    if readFails then (s, some .read)
    else (s, (updateSetFiles.find? (· ∉ s.seen)).map .missing)
  | h :: hs =>
    if maxUpdateArchiveMembers ≤ s.entries then (s, some .tooManyEntries)
    else match ({ s with entries := s.entries + 1 } : Extraction).extractEntry dst h with
      | (s, none) => s.extractLoop dst readFails hs
      | (s, some e) => (s, some e)

/-- A file system and the empty directory of it an archive is unpacked into. -/
structure StagingDir where
  fs : FileTree (List Char) StagedFile
  dst : FsPath
  isDir : fs.IsDir dst
  empty : ∀ p, dst <+: p → p ≠ dst → fs.lookup p = none

def Extraction.init (d : StagingDir) : Extraction := ⟨d.fs, [], 0, 0, [], 0, false⟩

def extractUpdateArchive (d : StagingDir) (a : Archive) : Extraction × Option ExtractError :=
  if a.gzip then (Extraction.init d).extractLoop d.dst a.readFails a.entries
  else (.init d, some .notGzip)

/-- What may be created below the staging directory: a file of the build set, or the payload
directory and, within the depth bound, files and directories below it. -/
def InBuildSet (rel : FsPath) (dir : Bool) : Prop :=
  (dir = false ∧ ∃ m ∈ updateSetFiles, rel = [m]) ∨
    ∃ below, rel = updatePayloadDir :: below ∧ below.length ≤ maxUpdateArchiveDepth ∧
      (below = [] → dir = true)

variable {h : TarEntry} {name : List Char} {dir : Bool} {rel p : FsPath} {d : StagingDir}
  {s t : Extraction}

lemma isProper_of_archiveMemberName (hn : archiveMemberName h = some name) :
    ∀ c ∈ components name, IsProper c := by
  simp only [archiveMemberName] at hn
  generalize (if h.typeflag = typeDir then _ else _) = trimmed at hn
  split_ifs at hn
  next hgood =>
  cases hn
  simp only [badMemberName, Bool.or_eq_true, decide_eq_true_eq, List.any_eq_true, not_or,
    not_exists, not_and, ne_eq, Decidable.not_not] at hgood
  obtain ⟨⟨⟨⟨-, hroot⟩, -⟩, hclean⟩, hdots⟩ := hgood
  refine isProper_of_clean hroot hclean ?_
  intro c hc
  exact ⟨(hdots c hc).2, (hdots c hc).1⟩

lemma inBuildSet_of_inPayloadTree (h : inPayloadTree name dir = true) :
    InBuildSet (components name) dir := by
  have hslash : '/' ∉ updatePayloadDir := by decide
  unfold inPayloadTree at h
  split at h
  · next hname =>
    refine .inr ⟨[], ?_, Nat.zero_le _, fun _ => h⟩
    rw [hname]
    exact List.splitOn_eq_singleton hslash
  · simp only [Bool.and_eq_true, decide_eq_true_eq, List.isPrefixOf_iff_prefix] at h
    obtain ⟨⟨rest, hrest⟩, hcount⟩ := h
    rw [← hrest, List.drop_left] at hcount
    refine .inr ⟨components rest, ?_, ?_, fun hnil => absurd hnil (components_ne_nil rest)⟩
    · rw [← hrest, List.append_assoc, List.singleton_append]
      exact components_append_slash hslash rest
    · rw [length_components]
      exact hcount

lemma components_of_mem_updateSetFiles {m : List Char} (h : m ∈ updateSetFiles) :
    components m = [m] := by
  refine List.splitOn_eq_singleton ?_
  revert m
  decide

lemma inBuildSet_member (h : name ∈ updateSetFiles ∨ inPayloadTree name false = true) :
    InBuildSet (components name) false := by
  rcases h with h | h
  · exact .inl ⟨rfl, name, h, components_of_mem_updateSetFiles h⟩
  · exact inBuildSet_of_inPayloadTree h

lemma InBuildSet.of_take {cs : FsPath} (h : InBuildSet (cs ++ rel) dir) (hcs : cs ≠ [])
    (hproper : rel ≠ [] ∨ dir = true) : InBuildSet cs true := by
  rcases h with ⟨hdir, m, -, hm⟩ | ⟨below, hb, hlen, -⟩
  · exfalso
    cases cs with
    | nil => exact hcs rfl
    | cons c cs =>
      simp only [List.cons_append, List.cons.injEq, List.append_eq_nil_iff] at hm
      rcases hproper with hrel | hd
      · exact hrel hm.2.2
      · rw [hdir] at hd
        cases hd
  · cases cs with
    | nil => exact absurd rfl hcs
    | cons c cs =>
      simp only [List.cons_append, List.cons.injEq] at hb
      refine .inr ⟨cs, by rw [hb.1], ?_, fun _ => rfl⟩
      rw [← hb.2, List.length_append] at hlen
      omega

/-! ## Confinement -/

/-- What has been created, whatever part of the archive was processed. -/
structure Confined (d : StagingDir) (s : Extraction) : Prop where
  created : ∀ e ∈ s.created, ∃ rel, e.path = d.dst ++ rel ∧ rel ≠ [] ∧
    (∀ c ∈ rel, IsProper c) ∧ InBuildSet rel e.dir
  once : (s.created.map (·.path)).Nodup
  present : ∀ e ∈ s.created, ∃ n, s.fs.lookup e.path = some n ∧ n ≠ .link
  frame : ∀ p, p ∉ s.created.map (·.path) → s.fs.lookup p = d.fs.lookup p
  noLink : s.throughLink = false

lemma Confined.init (d : StagingDir) : Confined d (.init d) where
  created := by simp [Extraction.init]
  once := by simp [Extraction.init]
  present := by simp [Extraction.init]
  frame := by simp [Extraction.init]
  noLink := rfl

lemma Confined.congr (h : Confined d s) (hfs : t.fs = s.fs) (hcreated : t.created = s.created)
    (hlink : t.throughLink = s.throughLink) : Confined d t where
  created := by rw [hcreated]; exact h.created
  once := by rw [hcreated]; exact h.once
  present := by rw [hcreated, hfs]; exact h.present
  frame := by rw [hcreated, hfs]; exact h.frame
  noLink := by rw [hlink]; exact h.noLink

lemma Confined.ne_link (h : Confined d s) (hp : d.dst <+: p) : s.fs.lookup p ≠ some .link := by
  intro hl
  by_cases hmem : p ∈ s.created.map (·.path)
  · obtain ⟨e, he, rfl⟩ := List.mem_map.mp hmem
    obtain ⟨n, hn, hne⟩ := h.present e he
    rw [hn] at hl
    exact hne (Option.some.inj hl)
  · rw [h.frame p hmem] at hl
    by_cases hdst : p = d.dst
    · subst hdst
      rcases d.isDir with hroot | hdir
      · have hnone := d.fs.root
        rw [hroot] at hl
        cases hnone.symm.trans hl
      · cases hdir.symm.trans hl
    · cases (d.empty p hp hdst).symm.trans hl

lemma Confined.isProper (h : Confined d s) (hrel : rel ≠ [])
    (hl : s.fs.lookup (d.dst ++ rel) ≠ none) : ∀ c ∈ rel, IsProper c := by
  by_cases hmem : d.dst ++ rel ∈ s.created.map (·.path)
  · obtain ⟨e, he, hpath⟩ := List.mem_map.mp hmem
    obtain ⟨rel', heq, -, hproper, -⟩ := h.created e he
    rw [heq] at hpath
    rwa [← List.append_cancel_left hpath]
  · rw [h.frame _ hmem] at hl
    exact absurd (d.empty _ (List.prefix_append _ _) (by simpa using hrel)) hl

lemma Confined.place_ne_throughLink (h : Confined d s) (hrel : rel ≠ []) (n : Node StagedFile) :
    s.fs.place (d.dst ++ rel) n ≠ .error .throughLink := by
  intro hp
  refine h.ne_link ?_ (FileTree.exists_link_of_place hp)
  rw [List.dropLast_append_of_ne_nil hrel]
  exact List.prefix_append _ _

lemma Confined.place (h : Confined d s) {n : Node StagedFile} (hrel : rel ≠ [])
    (hproper : ∀ c ∈ rel, IsProper c) (hset : InBuildSet rel dir) (hn : n ≠ .link)
    (hplaced : FileTree.Placed s.fs (d.dst ++ rel) n t.fs)
    (hcreated : t.created = ⟨d.dst ++ rel, dir⟩ :: s.created)
    (hlink : t.throughLink = s.throughLink) : Confined d t where
  created := by
    intro e he
    rw [hcreated, List.mem_cons] at he
    rcases he with rfl | he
    · exact ⟨rel, rfl, hrel, hproper, hset⟩
    · exact h.created e he
  once := by
    rw [hcreated, List.map_cons, List.nodup_cons]
    refine ⟨?_, h.once⟩
    intro hmem
    obtain ⟨e, he, hpath⟩ := List.mem_map.mp hmem
    obtain ⟨m, hm, -⟩ := h.present e he
    rw [hpath] at hm
    cases hplaced.fresh.symm.trans hm
  present := by
    intro e he
    rw [hcreated, List.mem_cons] at he
    rw [hplaced.lookup]
    rcases he with rfl | he
    · exact ⟨n, if_pos rfl, hn⟩
    · split
      · exact ⟨n, rfl, hn⟩
      · exact h.present e he
  frame := by
    intro p hp
    rw [hcreated, List.map_cons, List.mem_cons, not_or] at hp
    rw [hplaced.lookup, if_neg hp.1]
    exact h.frame p hp.2
  noLink := by rw [hlink]; exact h.noLink

/-- What making directories leaves of the state: the counters, and every entry there was. -/
structure Grows (s t : Extraction) : Prop where
  lookup : ∀ p n, s.fs.lookup p = some n → t.fs.lookup p = some n
  seen : t.seen = s.seen
  total : t.total = s.total
  entries : t.entries = s.entries
  written : t.written = s.written

lemma Grows.refl (s : Extraction) : Grows s s := ⟨fun _ _ h => h, rfl, rfl, rfl, rfl⟩

lemma Grows.trans {u : Extraction} (h : Grows s t) (h' : Grows t u) : Grows s u where
  lookup p n hp := h'.lookup p n (h.lookup p n hp)
  seen := h'.seen.trans h.seen
  total := h'.total.trans h.total
  entries := h'.entries.trans h.entries
  written := h'.written.trans h.written

lemma lookup_of_placed {t u : FileTree (List Char) StagedFile} {n : Node StagedFile}
    (h : FileTree.Placed t p n u) (q : FsPath) (m : Node StagedFile) (hq : t.lookup q = some m) :
    u.lookup q = some m := by
  rw [h.lookup, if_neg]
  · exact hq
  · rintro rfl
    cases h.fresh.symm.trans hq

lemma Confined.mkdirOwn (h : Confined d s) (os : OsFaults) (rel : FsPath) (hrel : rel ≠ [])
    (hproper : ∀ c ∈ rel, IsProper c) (hset : InBuildSet rel true) :
    Confined d (s.mkdirOwn os (d.dst ++ rel)).1 ∧ Grows s (s.mkdirOwn os (d.dst ++ rel)).1 := by
  unfold Extraction.mkdirOwn
  split
  · exact ⟨h, .refl s⟩
  split
  · next fs hp =>
    have hplaced := FileTree.placed_of_place hp
    exact ⟨h.place hrel hproper hset (by simp) hplaced rfl rfl,
      ⟨lookup_of_placed hplaced, rfl, rfl, rfl, rfl⟩⟩
  · split
    · exact ⟨h, .refl s⟩
    · split <;> exact ⟨h, .refl s⟩
  · next e _ hp =>
    have hne : e ≠ .throughLink := by
      rintro rfl
      exact h.place_ne_throughLink hrel _ hp
    exact ⟨h.congr rfl rfl (by simp [hne]), ⟨fun _ _ hl => hl, rfl, rfl, rfl, rfl⟩⟩

lemma Confined.mkdirAllOwn (os : OsFaults) {cs : FsPath} :
    ∀ {s : Extraction} (done : FsPath), Confined d s → (∀ c ∈ done ++ cs, IsProper c) →
      (cs ≠ [] → InBuildSet (done ++ cs) true) →
      Confined d (s.mkdirAllOwn os (d.dst ++ done) cs).1 ∧
        Grows s (s.mkdirAllOwn os (d.dst ++ done) cs).1 := by
  induction cs with
  | nil =>
    intro s done h _ _
    exact ⟨h, .refl s⟩
  | cons c cs ih =>
    intro s done h hproper hset
    have hc : IsProper c := hproper c (by simp)
    have hcur : joinComponent (d.dst ++ done) c = d.dst ++ (done ++ [c]) := by
      rw [joinComponent_of_isProper _ hc, List.append_assoc]
    have hall : done ++ c :: cs = (done ++ [c]) ++ cs := by simp
    rw [hall] at hproper
    have hset' : InBuildSet ((done ++ [c]) ++ cs) true := hall ▸ hset (by simp)
    have hone := h.mkdirOwn os (done ++ [c]) (by simp)
      (fun c hc => hproper c (List.mem_append_left _ hc))
      (hset'.of_take (by simp) (.inr rfl))
    rw [Extraction.mkdirAllOwn, hcur]
    split
    · next t heq =>
      rw [heq] at hone
      have hrest := ih _ hone.1 hproper fun _ => hset'
      exact ⟨hrest.1, hone.2.trans hrest.2⟩
    · next t e heq =>
      rw [heq] at hone
      exact hone

lemma TarEntry.length_copy_le (h : TarEntry) : h.copy.1.length ≤ h.size.toNat := by
  unfold TarEntry.copy
  cases h.os.writeAfter with
  | none => exact List.length_take_le _ _
  | some n => exact (List.length_take_le' _ _).trans (List.length_take_le _ _)

lemma TarEntry.stage_bytes (h : TarEntry) (p : FsPath) (name : List Char) (perm : BitVec 32) :
    (h.stage p name perm).1.bytes = h.copy.1 := by
  simp only [TarEntry.stage]
  split
  · rfl
  · split
    · rfl
    · split <;> rfl

lemma TarEntry.copy_of_stage {perm : BitVec 32} (hok : (h.stage p name perm).2 = none) :
    h.copy.1 = h.data.take h.size.toNat ∧ (h.copy.1.length : Int) = h.size := by
  simp only [TarEntry.stage] at hok
  split at hok
  · cases hok
  next hcopy =>
  split at hok
  · cases hok
  · next hlen =>
    refine ⟨?_, not_not.mp hlen⟩
    simp only [TarEntry.copy, Bool.or_eq_true, decide_eq_true_eq, not_or] at hcopy ⊢
    cases hw : h.os.writeAfter with
    | none => rfl
    | some n =>
      rw [hw] at hcopy
      have hkept : (h.data.take h.size.toNat).length ≤
          ((h.data.take h.size.toNat).take n).length := Nat.not_lt.mp hcopy.1
      exact List.take_of_length_le (hkept.trans (List.length_take_le _ _))

/-- The staged file of the member has its bytes, all of them. -/
def Holds (s : Extraction) (dst : FsPath) (h : TarEntry) (name : List Char) : Prop :=
  ∃ f, s.fs.lookup (dst ++ components name) = some (.file f) ∧
    f.bytes = h.data.take h.size.toNat ∧ (f.bytes.length : Int) = h.size

/-- One member was written: nothing is replaced, and at most `size` bytes are added. -/
structure Wrote (s t : Extraction) (size : Nat) : Prop where
  lookup : ∀ p n, s.fs.lookup p = some n → t.fs.lookup p = some n
  seen : t.seen = s.seen
  total : t.total = s.total
  entries : t.entries = s.entries
  written : t.written ≤ s.written + size

lemma Grows.wrote (h : Grows s t) (size : Nat) : Wrote s t size :=
  ⟨h.lookup, h.seen, h.total, h.entries, by rw [h.written]; omega⟩

lemma Grows.wrote_trans {u : Extraction} {size : Nat} (h : Grows s t) (h' : Wrote t u size) :
    Wrote s u size where
  lookup p n hp := h'.lookup p n (h.lookup p n hp)
  seen := h'.seen.trans h.seen
  total := h'.total.trans h.total
  entries := h'.entries.trans h.entries
  written := h.written ▸ h'.written

lemma Confined.createMember (hs : Confined d s) (h : TarEntry) (perm : BitVec 32)
    (hproper : ∀ c ∈ components name, IsProper c) (hset : InBuildSet (components name) false) :
    let r := s.createMember h (d.dst ++ components name) name perm
    Confined d r.1 ∧ Wrote s r.1 h.size.toNat ∧ (r.2 = none → Holds r.1 d.dst h name) := by
  intro r
  have hsame : Wrote s s h.size.toNat := (Grows.refl s).wrote _
  have hne := components_ne_nil name
  simp only [r, Extraction.createMember]
  split
  · exact ⟨hs, hsame, by intro hok; cases hok⟩
  split
  · next e hp =>
    have hnl : e ≠ .throughLink := by
      rintro rfl
      exact hs.place_ne_throughLink hne _ hp
    exact ⟨hs.congr rfl rfl (by simp [hnl]),
      ⟨fun _ _ hl => hl, rfl, rfl, rfl, Nat.le_add_right _ _⟩, by intro hok; cases hok⟩
  · next fs hp =>
    have hplaced := FileTree.placed_of_place hp
    refine ⟨hs.place hne hproper hset (by simp) hplaced rfl rfl,
      ⟨lookup_of_placed hplaced, rfl, rfl, rfl, ?_⟩, ?_⟩
    · rw [TarEntry.stage_bytes]
      exact Nat.add_le_add_left h.length_copy_le _
    · intro hok
      obtain ⟨hbytes, hlen⟩ := TarEntry.copy_of_stage hok
      refine ⟨_, (hplaced.lookup _).trans (if_pos rfl), ?_⟩
      rw [TarEntry.stage_bytes]
      exact ⟨hbytes, hlen⟩

lemma Confined.writeArchiveMember (hs : Confined d s) (h : TarEntry) (perm : BitVec 32)
    (hproper : ∀ c ∈ components name, IsProper c) (hset : InBuildSet (components name) false) :
    let r := s.writeArchiveMember h d.dst name perm
    Confined d r.1 ∧ Wrote s r.1 h.size.toNat ∧ (r.2 = none → Holds r.1 d.dst h name) := by
  intro r
  have hdirs : ∀ c ∈ (components name).dropLast, IsProper c :=
    fun c hc => hproper c (List.dropLast_subset _ hc)
  have hmade : ∀ made, made = (if pathDir name = ['.'] then (s, none)
      else s.mkdirAllOwn h.os d.dst (components (pathDir name))) →
      Confined d made.1 ∧ Grows s made.1 := by
    rintro made rfl
    split
    · exact ⟨hs, .refl s⟩
    next hdir =>
    rw [pathDir_of_isProper hproper] at hdir ⊢
    split at hdir
    · exact absurd rfl hdir
    · next hne =>
      rw [if_neg hne, components_joinPath (fun c hc => (hdirs c hc).no_slash) hne]
      have hsplit := List.dropLast_concat_getLast (components_ne_nil name)
      have hall := Confined.mkdirAllOwn h.os [] hs hdirs fun _ =>
        (hsplit.symm ▸ hset).of_take hne (.inl (by simp))
      rwa [List.append_nil] at hall
  simp only [r, Extraction.writeArchiveMember]
  split
  · next t e heq =>
    have ht := hmade _ heq.symm
    exact ⟨ht.1, ht.2.wrote _, by intro hok; cases hok⟩
  · next t heq =>
    have ht := hmade _ heq.symm
    rw [foldl_joinComponent hproper]
    have hcreate := ht.1.createMember h perm hproper hset
    exact ⟨hcreate.1, ht.2.wrote_trans hcreate.2.1, hcreate.2.2⟩

/-! ## The whole archive -/

structure Extracted (d : StagingDir) (s : Extraction) (h : TarEntry)
    (r : Extraction × Option ExtractError) : Prop where
  confined : Confined d r.1
  written : (r.1.written : Int) ≤ r.1.total
  total : r.1.total ≤ maxUpdateSetBytes
  entries : r.1.entries = s.entries
  lookup : ∀ p n, s.fs.lookup p = some n → r.1.fs.lookup p = some n
  seen : r.2 = none → ∀ m ∈ r.1.seen,
    m ∈ s.seen ∨ (archiveMemberName h = some m ∧ Holds r.1 d.dst h m)

/-- Bytes written within the bytes counted, and those within the cap. -/
def InBudget (s : Extraction) : Prop := (s.written : Int) ≤ s.total ∧ s.total ≤ maxUpdateSetBytes

lemma Extracted.of_grows (err : Option ExtractError) (hb : InBudget s) (hc : Confined d t)
    (hg : Grows s t) : Extracted d s h (t, err) where
  confined := hc
  written := by rw [hg.written, hg.total]; exact hb.1
  total := by rw [hg.total]; exact hb.2
  entries := hg.entries
  lookup := hg.lookup
  seen _ m hm := .inl (hg.seen ▸ hm)

lemma Extracted.same (err : Option ExtractError) (hb : InBudget s) (hc : Confined d s) :
    Extracted d s h (s, err) :=
  .of_grows err hb hc (.refl s)

lemma Extracted.counted (err : Option ExtractError) (hb : InBudget s) (hc : Confined d s)
    (hsize : 0 ≤ h.size) (hcap : h.size ≤ maxUpdateSetBytes - s.total) :
    Extracted d s h ({ s with total := s.total + h.size }, err) where
  confined := hc.congr rfl rfl rfl
  written := by
    have := hb.1
    show (s.written : Int) ≤ s.total + h.size
    omega
  total := by
    show s.total + h.size ≤ maxUpdateSetBytes
    omega
  entries := rfl
  lookup _ _ hl := hl
  seen _ _ hm := .inl hm

lemma Confined.extractFile (hc : Confined d s) (hb : InBudget s)
    (hname : archiveMemberName h = some name) : Extracted d s h (s.extractFile d.dst h name) := by
  simp only [Extraction.extractFile]
  split
  · exact .same _ hb hc
  next hsize =>
  simp only [Bool.or_eq_true, decide_eq_true_eq, not_or, Int.not_lt] at hsize
  split
  · exact .counted _ hb hc hsize.1 hsize.2
  split
  · exact .counted _ hb hc hsize.1 hsize.2
  next hset =>
  split
  · exact .counted _ hb hc hsize.1 hsize.2
  have hin : name ∈ updateSetFiles ∨ inPayloadTree name false = true := by
    by_cases hmem : name ∈ updateSetFiles
    · exact .inl hmem
    · simpa [hmem] using hset
  obtain ⟨hconf, hwrote, hholds⟩ := Confined.writeArchiveMember
    (s := { s with total := s.total + h.size, seen := name :: s.seen })
    (hc.congr rfl rfl rfl) h h.fileMode.perm (isProper_of_archiveMemberName hname)
    (inBuildSet_member hin)
  exact
    { confined := hconf
      written := by
        have hbytes := hwrote.written
        have hbudget := hb.1
        rw [hwrote.total]
        simp only at hbytes ⊢
        omega
      total := by
        rw [hwrote.total]
        simp only
        omega
      entries := hwrote.entries
      lookup := hwrote.lookup
      seen := by
        intro hok m hm
        rw [hwrote.seen, List.mem_cons] at hm
        rcases hm with rfl | hm
        · exact .inr ⟨hname, hholds hok⟩
        · exact .inl hm }

lemma Confined.extractEntry (hc : Confined d s) (hb : InBudget s) (h : TarEntry) :
    Extracted d s h (s.extractEntry d.dst h) := by
  simp only [Extraction.extractEntry]
  split
  · exact .same _ hb hc
  split
  · exact .same _ hb hc
  next name hname =>
  split
  · exact .same _ hb hc
  split
  · split
    · next htree =>
      have hmade := Confined.mkdirAllOwn h.os [] hc
        (isProper_of_archiveMemberName hname) fun _ => inBuildSet_of_inPayloadTree htree
      rw [List.append_nil] at hmade
      exact .of_grows _ hb hmade.1 hmade.2
    · exact .same _ hb hc
  split
  · exact .same _ hb hc
  · exact hc.extractFile hb hname

/-- Every name seen so far is that of an entry whose file is there in full. -/
def SeenHeld (d : StagingDir) (s : Extraction) (hs : List TarEntry) : Prop :=
  ∀ m ∈ s.seen, ∃ h ∈ hs, archiveMemberName h = some m ∧ Holds s d.dst h m

lemma Extracted.seenHeld {hs : List TarEntry} (hx : Extracted d s h (t, none))
    (hheld : SeenHeld d s hs) : SeenHeld d t (h :: hs) := by
  intro m hm
  rcases hx.seen rfl m hm with hold | ⟨hname, hnew⟩
  · obtain ⟨h', hh', hname, f, hf, hbytes⟩ := hheld m hold
    exact ⟨h', by simp [hh'], hname, f, hx.lookup _ _ hf, hbytes⟩
  · exact ⟨h, by simp, hname, hnew⟩

structure Outcome (d : StagingDir) (hs : List TarEntry)
    (r : Extraction × Option ExtractError) : Prop where
  confined : Confined d r.1
  written : (r.1.written : Int) ≤ maxUpdateSetBytes
  entries : r.1.entries ≤ maxUpdateArchiveMembers
  complete : r.2 = none → ∀ m ∈ updateSetFiles,
    ∃ h ∈ hs, archiveMemberName h = some m ∧ Holds r.1 d.dst h m

lemma Outcome.failed {hs : List TarEntry} (e : ExtractError) (hc : Confined d s) (hb : InBudget s)
    (hn : s.entries ≤ maxUpdateArchiveMembers) : Outcome d hs (s, some e) :=
  ⟨hc, Int.le_trans hb.1 hb.2, hn, by intro hok; cases hok⟩

lemma Outcome.of_loop (readFails : Bool) (hs : List TarEntry) :
    ∀ {s : Extraction} (done : List TarEntry), Confined d s → InBudget s →
      s.entries ≤ maxUpdateArchiveMembers → SeenHeld d s done →
      Outcome d (hs.reverse ++ done) (s.extractLoop d.dst readFails hs) := by
  induction hs with
  | nil =>
    intro s done hc hb hn hheld
    unfold Extraction.extractLoop
    split
    · exact .failed _ hc hb hn
    refine ⟨hc, Int.le_trans hb.1 hb.2, hn, ?_⟩
    intro hok m hm
    rw [Option.map_eq_none_iff, List.find?_eq_none] at hok
    exact hheld m (by simpa using hok m hm)
  | cons h hs ih =>
    intro s done hc hb hn hheld
    unfold Extraction.extractLoop
    split
    · exact .failed _ hc hb hn
    next hlt =>
    have hx := Confined.extractEntry (s := { s with entries := s.entries + 1 })
      (hc.congr rfl rfl rfl) hb h
    have hn' : s.entries + 1 ≤ maxUpdateArchiveMembers := by omega
    split
    · next t heq =>
      rw [heq] at hx
      have hrest := ih _ hx.confined ⟨hx.written, hx.total⟩ (hx.entries ▸ hn')
        (hx.seenHeld (s := { s with entries := s.entries + 1 }) hheld)
      simpa using hrest
    · next t e heq =>
      rw [heq] at hx
      exact .failed e hx.confined ⟨hx.written, hx.total⟩ (hx.entries ▸ hn')

/-- All that is known of an extraction, however it ends. -/
lemma extractUpdateArchive_outcome (d : StagingDir) (a : Archive) :
    Outcome d a.entries.reverse (extractUpdateArchive d a) := by
  have hbudget : InBudget (Extraction.init d) := by
    refine ⟨Int.le_refl 0, ?_⟩
    show 0 ≤ maxUpdateSetBytes
    decide
  unfold extractUpdateArchive
  split
  · have hloop := Outcome.of_loop a.readFails a.entries [] (Confined.init d) hbudget
      (Nat.zero_le _) (by simp [SeenHeld, Extraction.init])
    rwa [List.append_nil] at hloop
  · exact .failed _ (.init d) hbudget (Nat.zero_le _)

/-- Whatever the archive holds and wherever the extraction stops, it has created files of the build
set only, below the staging directory, each once, through no link and within the caps; if it
succeeds the build set is complete. -/
theorem extractUpdateArchive_confined (d : StagingDir) (a : Archive) :
    let r := extractUpdateArchive d a
    (∀ e ∈ r.1.created, ∃ rel, e.path = d.dst ++ rel ∧ rel ≠ [] ∧ (∀ c ∈ rel, IsProper c) ∧
      InBuildSet rel e.dir) ∧
    (r.1.created.map (·.path)).Nodup ∧
    (∀ p, p ∉ r.1.created.map (·.path) → r.1.fs.lookup p = d.fs.lookup p) ∧
    r.1.throughLink = false ∧
    (∀ e ∈ r.1.created, ∀ q, q <+: e.path → q ≠ e.path → r.1.fs.IsDir q) ∧
    (r.1.written : Int) ≤ maxUpdateSetBytes ∧
    r.1.entries ≤ maxUpdateArchiveMembers ∧
    (r.2 = none → ∀ m ∈ updateSetFiles, ∃ h ∈ a.entries, archiveMemberName h = some m ∧
      ∃ f, r.1.fs.lookup (d.dst ++ [m]) = some (.file f) ∧
        f.bytes = h.data.take h.size.toNat ∧ (f.bytes.length : Int) = h.size) := by
  intro r
  have ho := extractUpdateArchive_outcome d a
  refine ⟨ho.confined.created, ho.confined.once, ho.confined.frame, ho.confined.noLink, ?_,
    ho.written, ho.entries, ?_⟩
  · intro e he q hq hne
    obtain ⟨n, hn, -⟩ := ho.confined.present e he
    exact FileTree.isDir_above _ hq hne (by rw [hn]; simp)
  · intro hok m hm
    obtain ⟨h, hh, hname, hholds⟩ := ho.complete hok m hm
    rw [Holds, components_of_mem_updateSetFiles hm] at hholds
    exact ⟨h, List.mem_reverse.mp hh, hname, hholds⟩

end DarwinNet.Netd
