import DarwinNet.Lib.GoMap
import DarwinNet.Lib.Lines
import DarwinNet.Mesh.Plan
import DarwinNet.Netip.Text

/-!
The wireguard configuration protocol (UAPI) as the mesh uses it: the statements a peer
update is made of, their text, and what a wireguard device makes of a text.

wireguard-go is not part of the repository. `Wireguard` is what the results need of it:
its readers of keys, keepalives and prefixes read nothing else than what was printed.
The meaning of the statements is `execStmt`: `public_key` selects a peer and makes it if
it is new, `replace_peers` and `remove` delete, an `allowed_ip` moves to the peer that
claimed it last.

A device that holds the peers the applier remembers holds the plan's after the update
(`UpdateSpec`), and keeps the endpoint of every peer that has no endpoint statement.
-/

namespace DarwinNet.Mesh

open Lib Netip

/-! ## Statements and their text -/

inductive StmtKey
  | replacePeers
  | publicKey
  | remove
  | endpoint
  | keepalive
  | replaceAllowedIPs
  | allowedIP
  deriving DecidableEq

namespace StmtKey

def text : StmtKey → String
  | replacePeers => "replace_peers"
  | publicKey => "public_key"
  | remove => "remove"
  | endpoint => "endpoint"
  | keepalive => "persistent_keepalive_interval"
  | replaceAllowedIPs => "replace_allowed_ips"
  | allowedIP => "allowed_ip"

def read (s : List Char) : Option StmtKey :=
  [replacePeers, publicKey, remove, endpoint, keepalive, replaceAllowedIPs, allowedIP].find?
    fun k => k.text.toList = s

lemma read_text (k : StmtKey) : read k.text.toList = some k := by cases k <;> decide

lemma text_plain (k : StmtKey) : '=' ∉ k.text.toList ∧ '\n' ∉ k.text.toList := by
  cases k <;> decide

end StmtKey

inductive Stmt
  | replacePeers
  | publicKey (k : WgKey)
  | remove
  | endpoint (e : String)
  | keepalive (n : Int)
  | replaceAllowedIPs
  | allowedIP (p : Prefix)
  deriving DecidableEq

namespace Stmt

def key : Stmt → StmtKey
  | replacePeers => .replacePeers
  | publicKey _ => .publicKey
  | remove => .remove
  | endpoint _ => .endpoint
  | keepalive _ => .keepalive
  | replaceAllowedIPs => .replaceAllowedIPs
  | allowedIP _ => .allowedIP

def flag : List Char := ['t', 'r', 'u', 'e']

def value : Stmt → List Char
  | replacePeers | remove | replaceAllowedIPs => flag
  | publicKey k => k.digits
  | endpoint e => e.toList
  | keepalive n => (toString n).toList
  | allowedIP p => p.string.toList

def line (s : Stmt) : List Char := s.key.text.toList ++ '=' :: s.value

end Stmt

def uapiText (stmts : List Stmt) : List Char := unlines (stmts.map Stmt.line)

structure DevPeer (E : Type) where
  endpoint : Option E
  allowedIPs : Finset Prefix
  keepalive : Int
  deriving DecidableEq

abbrev Device (E : Type) := GoMap WgKey (DevPeer E)

/-- What the results need of wireguard-go: its readers, and that each reads only what
was printed. A prefix that prints as invalid is refused. -/
structure Wireguard (E : Type) where
  parseKey : List Char → Option WgKey
  parseEndpoint : String → Option E
  parseKeepalive : List Char → Option Int
  parseAllowedIP : List Char → Option Prefix
  key_sound : ∀ k k', parseKey k.digits = some k' → k' = k
  keepalive_sound : ∀ (n m : Int), parseKeepalive (toString n).toList = some m → m = n
  allowedIP_sound : ∀ p q, parseAllowedIP p.string.toList = some q → p.isValid = true ∧ q = p

/-- Whom the next statement is about: the device, a peer, or a peer already removed. -/
inductive Cursor
  | device
  | peer (k : WgKey)
  | dummy
  deriving DecidableEq

section Device

variable {E : Type} (W : Wireguard E)

def readStmt (line : List Char) : Option Stmt :=
  match cut '=' line with
  | none => none
  | some (key, value) =>
    let isTrue := fun s => if value = Stmt.flag then some s else none
    match StmtKey.read key with
    | some .replacePeers => isTrue .replacePeers
    | some .publicKey => (W.parseKey value).map .publicKey
    | some .remove => isTrue .remove
    | some .endpoint => some (.endpoint (String.ofList value))
    | some .keepalive => (W.parseKeepalive value).map .keepalive
    | some .replaceAllowedIPs => isTrue .replaceAllowedIPs
    | some .allowedIP => (W.parseAllowedIP value).map .allowedIP
    | none => none

def alter (d : Device E) (k : WgKey) (f : DevPeer E → DevPeer E) : Device E :=
  match d.lookup k with
  | some p => d.insert k (f p)
  | none => d

def DevPeer.drop (l : List Prefix) (p : DevPeer E) : DevPeer E :=
  { p with allowedIPs := p.allowedIPs \ l.toFinset }

def DevPeer.claim (l : List Prefix) (p : DevPeer E) : DevPeer E :=
  { p with allowedIPs := p.allowedIPs ∪ l.toFinset }

def execPeer (d : Device E) (k : WgKey) : Stmt → Option (Device E × Cursor)
  | .remove => some (d.erase k, .dummy)
  | .endpoint e =>
    (W.parseEndpoint e).map fun ep => (alter d k fun p => { p with endpoint := some ep }, .peer k)
  | .keepalive n => some (alter d k fun p => { p with keepalive := n }, .peer k)
  | .replaceAllowedIPs => some (alter d k fun p => { p with allowedIPs := ∅ }, .peer k)
  | .allowedIP a => some (alter (d.mapValues fun _ p => p.drop [a]) k (·.claim [a]), .peer k)
  | .replacePeers | .publicKey _ => none

def execStmt : Device E × Cursor → Stmt → Option (Device E × Cursor)
  | (d, _), .publicKey k =>
    some (if (d.lookup k).isNone then d.insert k ⟨none, ∅, 0⟩ else d, .peer k)
  | (_, .device), .replacePeers => some (∅, .device)
  | (_, .device), _ => none
  | (d, .peer k), s => execPeer W d k s
  | (_, .dummy), .replacePeers => none
  | (d, .dummy), _ => some (d, .dummy)

/-- The loop over the lines of a text; an empty line ends it. -/
def ipcLoop : Device E × Cursor → List (List Char) → Option (Device E × Cursor)
  | st, [] => some st
  | st, line :: lines =>
    if line = [] then some st
    else match readStmt W line with
      | none => none
      | some s =>
        match execStmt W st s with
        | none => none
        | some st' => ipcLoop st' lines

/-- `IpcSet`, when it does not fail; `none` for a text the device refuses. -/
def ipcSet (d : Device E) (text : List Char) : Option (Device E) :=
  (ipcLoop W (d, .device) (scanLines text)).map Prod.fst

def execAll : Device E × Cursor → List Stmt → Option (Device E × Cursor)
  | st, [] => some st
  | st, s :: ss =>
    match execStmt W st s with
    | none => none
    | some st' => execAll st' ss

end Device

/-! ## The peer update -/

abbrev AppliedEndpoints := GoMap WgKey String

/-- The peer is new, or its endpoint differs from the one last programmed. -/
def endpointDue (prev : AppliedEndpoints) (pc : PeerConfig) : Bool :=
  pc.endpoint ≠ "" &&
    match prev.lookup pc.publicKeyHex with
    | none => true
    | some last => last ≠ pc.endpoint

def peerBody (prev : AppliedEndpoints) (pc : PeerConfig) : List Stmt :=
  (if endpointDue prev pc then [.endpoint pc.endpoint] else []) ++
    .keepalive pc.keepaliveSeconds :: .replaceAllowedIPs :: pc.allowedIPs.map .allowedIP

def Plan.gone (p : Plan) (prev : AppliedEndpoints) : List WgKey :=
  (prev.keys.filter fun k => k ∉ p.peers.map PeerConfig.publicKeyHex).insertionSort
    fun a b => String.ofList a.digits ≤ String.ofList b.digits

def Plan.updateStmts (p : Plan) (prev : AppliedEndpoints) : List Stmt :=
  (if prev.size = 0 then [.replacePeers]
    else (p.gone prev).flatMap fun k => [.publicKey k, .remove]) ++
  p.peers.flatMap fun pc => .publicKey pc.publicKeyHex :: peerBody prev pc

def Plan.endpoints (p : Plan) : AppliedEndpoints :=
  GoMap.insertAll ∅ (p.peers.map fun pc => (pc.publicKeyHex, pc.endpoint))

/-- `UAPIUpdate`: the text and the new memory. -/
def Plan.uapiUpdate (p : Plan) (prev : AppliedEndpoints) : List Char × AppliedEndpoints :=
  (uapiText (p.updateStmts prev), p.endpoints)

/-! ## Reading a text back -/

def Stmt.OneLine : Stmt → Prop
  | .endpoint e => '\n' ∉ e.toList
  | .allowedIP p => p.ip.hasZone = false
  | _ => True

lemma newline_notMem_int (n : Int) : '\n' ∉ (toString n).toList := by
  cases n with
  | ofNat m => exact notMem_toString (n := m) (by simp)
  | negSucc m =>
    have htext : toString (Int.negSucc m) = "-" ++ toString (m + 1) := rfl
    rw [htext, String.toList_append, List.mem_append, not_or]
    exact ⟨by decide, notMem_toString (by simp)⟩

lemma WgKey.newline_notMem (k : WgKey) : '\n' ∉ k.digits := by
  intro h
  have hhex := k.isHex _ h
  revert hhex
  decide

lemma Stmt.OneLine.newline_notMem {s : Stmt} (h : s.OneLine) : '\n' ∉ s.line := by
  have hvalue : '\n' ∉ s.value := by
    cases s with
    | replacePeers => decide
    | publicKey k => exact k.newline_notMem
    | remove => decide
    | endpoint e => exact h
    | keepalive n => exact newline_notMem_int n
    | replaceAllowedIPs => decide
    | allowedIP p => exact Prefix.newline_notMem_string h
  simp [Stmt.line, s.key.text_plain.2, hvalue]

section Reading

variable {E : Type} {W : Wireguard E}

lemma readStmt_line {s s' : Stmt} (h : readStmt W s.line = some s') :
    s' = s ∧ ∀ p, s = .allowedIP p → p.isValid = true := by
  rw [readStmt, Stmt.line, cut_append s.key.text_plain.1] at h
  simp only [StmtKey.read_text] at h
  cases s with
  | replacePeers | remove | replaceAllowedIPs =>
    simp only [Stmt.key, Stmt.value, if_true, Option.some.injEq] at h
    exact ⟨h.symm, by simp⟩
  | publicKey k =>
    obtain ⟨k', hk, rfl⟩ := Option.map_eq_some_iff.mp h
    exact ⟨by rw [W.key_sound k k' hk], by simp⟩
  | endpoint e =>
    simp only [Stmt.key, Stmt.value, String.ofList_toList, Option.some.injEq] at h
    exact ⟨h.symm, by simp⟩
  | keepalive n =>
    obtain ⟨m, hm, rfl⟩ := Option.map_eq_some_iff.mp h
    exact ⟨by rw [W.keepalive_sound n m hm], by simp⟩
  | allowedIP p =>
    obtain ⟨q, hq, rfl⟩ := Option.map_eq_some_iff.mp h
    obtain ⟨hvalid, rfl⟩ := W.allowedIP_sound p q hq
    exact ⟨rfl, by rintro _ ⟨⟩; exact hvalid⟩

structure Executed (W : Wireguard E) (st st' : Device E × Cursor) (stmts : List Stmt) :
    Prop where
  exec : execAll W st stmts = some st'
  read : ∀ s ∈ stmts, (readStmt W s.line).isSome
  valid : ∀ p, .allowedIP p ∈ stmts → p.isValid = true

lemma executed_of_ipcLoop {stmts : List Stmt} {st st' : Device E × Cursor}
    (h : ipcLoop W st (stmts.map Stmt.line) = some st') : Executed W st st' stmts := by
  induction stmts generalizing st with
  | nil => exact ⟨h, by simp, by simp⟩
  | cons s stmts ih =>
    have hline : s.line ≠ [] := by simp [Stmt.line]
    rw [List.map_cons, ipcLoop, if_neg hline] at h
    split at h
    · cases h
    rename_i s' hs'
    obtain ⟨rfl, hvalid⟩ := readStmt_line hs'
    split at h
    · cases h
    · rename_i st₁ hst₁
      have hrest := ih h
      refine ⟨?_, ?_, ?_⟩
      · rw [execAll, hst₁]
        exact hrest.exec
      · intro t ht
        rcases List.mem_cons.mp ht with rfl | ht
        · rw [hs']
          rfl
        · exact hrest.read t ht
      · intro p hp
        rcases List.mem_cons.mp hp with heq | hp
        · exact hvalid p heq.symm
        · exact hrest.valid p hp

lemma executed_of_ipcSet {stmts : List Stmt} (hone : ∀ s ∈ stmts, s.OneLine) {d d' : Device E}
    (h : ipcSet W d (uapiText stmts) = some d') : ∃ c, Executed W (d, .device) (d', c) stmts := by
  obtain ⟨⟨d₁, c⟩, hloop, rfl⟩ := Option.map_eq_some_iff.mp h
  rw [uapiText, scanLines_unlines] at hloop
  · exact ⟨c, executed_of_ipcLoop hloop⟩
  · intro l hl
    obtain ⟨s, hs, rfl⟩ := List.mem_map.mp hl
    exact (hone s hs).newline_notMem

lemma stmts_eq_of_text {ss ts : List Stmt} (hss : ∀ s ∈ ss, s.OneLine) (hts : ∀ s ∈ ts, s.OneLine)
    (hread : ∀ s ∈ ss, (readStmt W s.line).isSome) (h : uapiText ss = uapiText ts) : ss = ts := by
  have hlines : ss.map Stmt.line = ts.map Stmt.line := by
    refine unlines_inj ?_ ?_ h
    · intro l hl
      obtain ⟨s, hs, rfl⟩ := List.mem_map.mp hl
      exact (hss s hs).newline_notMem
    · intro l hl
      obtain ⟨s, hs, rfl⟩ := List.mem_map.mp hl
      exact (hts s hs).newline_notMem
  clear hss hts h
  induction ss generalizing ts with
  | nil => simpa using hlines.symm
  | cons s ss ih =>
    cases ts with
    | nil => simp at hlines
    | cons t ts =>
      simp only [List.map_cons, List.cons.injEq] at hlines
      obtain ⟨u, hu⟩ := Option.isSome_iff_exists.mp (hread s List.mem_cons_self)
      have hut : readStmt W t.line = some u := hlines.1 ▸ hu
      rw [← (readStmt_line hu).1, ← (readStmt_line hut).1,
        ih (fun s hs => hread s (List.mem_cons_of_mem _ hs)) hlines.2]

end Reading

/-! ## What an update does to the device -/

section Update

variable {E : Type} {W : Wireguard E} {d d' : Device E} {c c' : Cursor} {prev : AppliedEndpoints}

lemma lookup_alter (d : Device E) (k : WgKey) (f : DevPeer E → DevPeer E) (k' : WgKey) :
    (alter d k f).lookup k' = if k' = k then (d.lookup k).map f else d.lookup k' := by
  unfold alter
  split
  · rename_i p hp
    rw [GoMap.lookup_insert_ite, hp, Option.map_some]
  rename_i hp
  by_cases hk : k' = k
  · rw [if_pos hk, hk, hp, Option.map_none]
  · rw [if_neg hk]

lemma execAll_append (st : Device E × Cursor) (ss ts : List Stmt) :
    execAll W st (ss ++ ts) = (execAll W st ss).bind fun st' => execAll W st' ts := by
  induction ss generalizing st with
  | nil => rfl
  | cons s ss ih =>
    simp only [List.cons_append, execAll]
    cases execStmt W st s with
    | none => rfl
    | some st' => exact ih st'

lemma execAll_allowed (d : Device E) (k : WgKey) (l : List Prefix) :
    ∃ d', execAll W (d, .peer k) (l.map .allowedIP) = some (d', .peer k) ∧ ∀ k', d'.lookup k' =
        if k' = k then (d.lookup k).map (·.claim l) else (d.lookup k').map (·.drop l) := by
  induction l generalizing d with
  | nil =>
    refine ⟨d, rfl, fun k' => ?_⟩
    by_cases hk : k' = k
    · subst hk
      simp [DevPeer.claim]
    · simp [hk, DevPeer.drop]
  | cons a l ih =>
    obtain ⟨d', hexec, hlook⟩ := ih (alter (d.mapValues fun _ p => p.drop [a]) k (·.claim [a]))
    refine ⟨d', hexec, fun k' => ?_⟩
    rw [hlook, lookup_alter, lookup_alter, GoMap.lookup_mapValues, GoMap.lookup_mapValues,
      if_pos rfl]
    by_cases hk : k' = k
    · rw [if_pos hk, if_pos hk, Option.map_map, Option.map_map]
      refine congrArg (fun f => (d.lookup k).map f) (funext fun p => ?_)
      have hset : p.allowedIPs \ {a} ∪ ({a} ∪ l.toFinset) = p.allowedIPs ∪ insert a l.toFinset := by
        ext x
        by_cases hx : x = a <;> simp [hx]
      simpa [DevPeer.claim, DevPeer.drop, Finset.union_assoc] using hset
    · rw [if_neg hk, if_neg hk, if_neg hk, Option.map_map]
      refine congrArg (fun f => (d.lookup k').map f) (funext fun p => ?_)
      have hset : (p.allowedIPs \ {a}) \ l.toFinset = p.allowedIPs \ insert a l.toFinset := by
        ext x
        simp only [Finset.mem_sdiff, Finset.mem_singleton, Finset.mem_insert, not_or, and_assoc]
      simpa [DevPeer.drop] using hset

lemma execAll_tail {k : WgKey} {p : DevPeer E} (hp : d.lookup k = some p) (n : Int)
    (l : List Prefix)
    (h : execAll W (d, .peer k) (.keepalive n :: .replaceAllowedIPs :: l.map .allowedIP) =
      some (d', c')) : ∀ k', d'.lookup k' =
      if k' = k then some ⟨p.endpoint, l.toFinset, n⟩ else (d.lookup k').map (·.drop l) := by
  obtain ⟨d₁, hexec, hlook⟩ := execAll_allowed (W := W)
    (alter (alter d k fun p => { p with keepalive := n }) k fun p => { p with allowedIPs := ∅ })
    k l
  have hrun := hexec.symm.trans h
  cases hrun
  intro k'
  by_cases hk : k' = k
  · subst hk
    rw [hlook, if_pos rfl, if_pos rfl, lookup_alter, if_pos rfl, lookup_alter, if_pos rfl, hp]
    simp [DevPeer.claim]
  · rw [hlook, if_neg hk, if_neg hk, lookup_alter, if_neg hk, lookup_alter, if_neg hk]

/-- The statements of one peer: the peer is as the plan has it, and keeps its endpoint
without an endpoint statement; its prefixes are taken from the others. -/
lemma execAll_peer {pc : PeerConfig}
    (h : execAll W (d, c) (.publicKey pc.publicKeyHex :: peerBody prev pc) = some (d', c')) :
    (∃ p', d'.lookup pc.publicKeyHex = some p' ∧ p'.allowedIPs = pc.allowedIPs.toFinset ∧
      p'.keepalive = pc.keepaliveSeconds ∧ (endpointDue prev pc = false →
        ∀ p, d.lookup pc.publicKeyHex = some p → p'.endpoint = p.endpoint)) ∧
    ∀ k, k ≠ pc.publicKeyHex → d'.lookup k = (d.lookup k).map (·.drop pc.allowedIPs) := by
  obtain ⟨d₁, p₁, hd₁, hkeep, hother, hrun⟩ : ∃ d₁ p₁, d₁.lookup pc.publicKeyHex = some p₁ ∧
      (∀ p, d.lookup pc.publicKeyHex = some p → p₁ = p) ∧
      (∀ k, k ≠ pc.publicKeyHex → d₁.lookup k = d.lookup k) ∧
      execAll W (d₁, .peer pc.publicKeyHex) (peerBody prev pc) = some (d', c') := by
    cases hd : d.lookup pc.publicKeyHex with
    | some p =>
      refine ⟨d, p, hd, by rintro q ⟨⟩; rfl, fun k _ => rfl, ?_⟩
      simpa [execAll, execStmt, hd] using h
    | none =>
      refine ⟨d.insert pc.publicKeyHex ⟨none, ∅, 0⟩, ⟨none, ∅, 0⟩, ?_, ?_, ?_, ?_⟩
      · rw [GoMap.lookup_insert_ite, if_pos rfl]
      · rintro p ⟨⟩
      · intro k hk
        rw [GoMap.lookup_insert_ite, if_neg hk]
      · simpa [execAll, execStmt, hd] using h
  by_cases hdue : endpointDue prev pc = true
  · rw [peerBody, if_pos hdue, List.singleton_append, execAll] at hrun
    cases hep : W.parseEndpoint pc.endpoint with
    | none => simp [execStmt, execPeer, hep] at hrun
    | some ep =>
      simp only [execStmt, execPeer, hep, Option.map_some] at hrun
      have htail := execAll_tail (p := { p₁ with endpoint := some ep })
        (by rw [lookup_alter, if_pos rfl, hd₁, Option.map_some]) _ _ hrun
      refine ⟨⟨_, by rw [htail, if_pos rfl], rfl, rfl, by simp [hdue]⟩, ?_⟩
      intro k hk
      rw [htail, if_neg hk, lookup_alter, if_neg hk, hother k hk]
  · rw [peerBody, if_neg hdue, List.nil_append] at hrun
    have htail := execAll_tail hd₁ _ _ hrun
    refine ⟨⟨_, by rw [htail, if_pos rfl], rfl, rfl, ?_⟩, ?_⟩
    · intro _ p hp
      rw [hkeep p hp]
    · intro k hk
      rw [htail, if_neg hk, hother k hk]

/-- The device holds the peers of the plan: the same keys, with their `AllowedIPs` and
keepalives. -/
structure Holds (d : Device E) (plan : Plan) : Prop where
  peers : ∀ pc ∈ plan.peers, ∃ p, d.lookup pc.publicKeyHex = some p ∧
    p.allowedIPs = pc.allowedIPs.toFinset ∧ p.keepalive = pc.keepaliveSeconds
  keys : ∀ k, (d.lookup k).isSome → k ∈ plan.peers.map PeerConfig.publicKeyHex

/-- Peers that an `IpcSet` does not confuse: distinct keys, no allowed IP in common. -/
structure Separate (peers : List PeerConfig) : Prop where
  keys : (peers.map PeerConfig.publicKeyHex).Nodup
  disjoint : peers.Pairwise fun p q => ∀ a ∈ p.allowedIPs, a ∉ q.allowedIPs

lemma drop_eq_self {l : List Prefix} {p : DevPeer E} (h : ∀ a ∈ p.allowedIPs, a ∉ l) :
    p.drop l = p := by
  have hset : p.allowedIPs \ l.toFinset = p.allowedIPs := by
    rw [Finset.sdiff_eq_self_iff_disjoint, Finset.disjoint_left]
    intro a ha hl
    exact h a ha (List.mem_toFinset.mp hl)
  rw [DevPeer.drop, hset]

lemma drop_drop (l m : List Prefix) (p : DevPeer E) : (p.drop l).drop m = p.drop (l ++ m) := by
  simp [DevPeer.drop, sdiff_sdiff_left]

lemma execAll_peers {peers : List PeerConfig} (hsep : Separate peers)
    (h : execAll W (d, c) (peers.flatMap fun pc => .publicKey pc.publicKeyHex :: peerBody prev pc) =
      some (d', c')) : (∀ pc ∈ peers, ∃ p', d'.lookup pc.publicKeyHex = some p' ∧
      p'.allowedIPs = pc.allowedIPs.toFinset ∧ p'.keepalive = pc.keepaliveSeconds ∧
      (endpointDue prev pc = false →
        ∀ p, d.lookup pc.publicKeyHex = some p → p'.endpoint = p.endpoint)) ∧
    ∀ k, k ∉ peers.map PeerConfig.publicKeyHex →
      d'.lookup k = (d.lookup k).map (·.drop (peers.flatMap PeerConfig.allowedIPs)) := by
  induction peers generalizing d c with
  | nil =>
    cases h
    refine ⟨by simp, fun k _ => ?_⟩
    simp [DevPeer.drop]
  | cons pc peers ih =>
    have hkeys := List.nodup_cons.mp hsep.keys
    have hdisj := List.pairwise_cons.mp hsep.disjoint
    rw [List.flatMap_cons, execAll_append] at h
    obtain ⟨⟨d₁, c₁⟩, hfirst, hrest⟩ := Option.bind_eq_some_iff.mp h
    obtain ⟨⟨p₁, hp₁, hallowed, halive, hend⟩, hother⟩ := execAll_peer hfirst
    obtain ⟨hpeers, hout⟩ := ih ⟨hkeys.2, hdisj.2⟩ hrest
    refine ⟨?_, ?_⟩
    · intro qc hqc
      rcases List.mem_cons.mp hqc with rfl | hqc
      · -- No later peer claims one of its prefixes.
        have hdrop : p₁.drop (peers.flatMap PeerConfig.allowedIPs) = p₁ := by
          refine drop_eq_self fun a ha hl => ?_
          obtain ⟨rc, hrc, har⟩ := List.mem_flatMap.mp hl
          rw [hallowed, List.mem_toFinset] at ha
          exact hdisj.1 rc hrc a ha har
        refine ⟨p₁, ?_, hallowed, halive, hend⟩
        rw [hout _ hkeys.1, hp₁, Option.map_some, hdrop]
      · obtain ⟨p', hp', hallowed', halive', hend'⟩ := hpeers qc hqc
        refine ⟨p', hp', hallowed', halive', fun hdue p hp => ?_⟩
        have hne : qc.publicKeyHex ≠ pc.publicKeyHex := fun heq =>
          hkeys.1 (heq ▸ List.mem_map.mpr ⟨qc, hqc, rfl⟩)
        rw [hend' hdue (p.drop pc.allowedIPs) (by rw [hother _ hne, hp, Option.map_some])]
        rfl
    · intro k hk
      rw [List.map_cons, List.mem_cons, not_or] at hk
      rw [hout k hk.2, hother k hk.1, Option.map_map]
      refine congrArg (fun f => (d.lookup k).map f) (funext fun p => ?_)
      exact drop_drop _ _ p

lemma execAll_gone (d : Device E) (c : Cursor) (ks : List WgKey) :
    ∃ d' c', execAll W (d, c) (ks.flatMap fun k => [.publicKey k, .remove]) = some (d', c') ∧
      ∀ k, d'.lookup k = if k ∈ ks then none else d.lookup k := by
  induction ks generalizing d c with
  | nil => exact ⟨d, c, rfl, by simp⟩
  | cons k ks ih =>
    obtain ⟨d', c', hexec, hlook⟩ := ih
      ((if (d.lookup k).isNone then d.insert k ⟨none, ∅, 0⟩ else d).erase k) .dummy
    refine ⟨d', c', hexec, fun k' => ?_⟩
    rw [hlook, GoMap.lookup_erase_ite]
    by_cases hks : k' ∈ ks
    · simp [hks]
    by_cases hk : k' = k
    · simp [hk]
    · have hmem : k' ∉ k :: ks := by simp [hks, hk]
      rw [if_neg hks, if_neg hk, if_neg hmem]
      split
      · rw [GoMap.lookup_insert_ite, if_neg hk]
      · rfl

lemma mem_gone {plan : Plan} {k : WgKey} :
    k ∈ plan.gone prev ↔ (prev.lookup k).isSome ∧ k ∉ plan.peers.map PeerConfig.publicKeyHex := by
  rw [Plan.gone, List.mem_insertionSort, List.mem_filter, AList.mem_keys.symm.trans
    AList.lookup_isSome.symm, decide_eq_true_eq]

/-- **The update.** With the remembered peers on the device, the plan's peers are on it
afterwards, and a peer without an endpoint statement keeps its endpoint. -/
lemma updateStmts_spec {plan : Plan} (hsep : Separate plan.peers)
    (hprev : prev.size ≠ 0 → ∀ k, (d.lookup k).isSome → (prev.lookup k).isSome)
    (h : execAll W (d, .device) (plan.updateStmts prev) = some (d', c')) :
    Holds d' plan ∧ (prev.size ≠ 0 → ∀ pc ∈ plan.peers, endpointDue prev pc = false →
      ∀ p p', d.lookup pc.publicKeyHex = some p → d'.lookup pc.publicKeyHex = some p' →
        p'.endpoint = p.endpoint) := by
  -- The device when the peers' statements start: only keys of the plan are left.
  obtain ⟨d₀, c₀, hrun, hsub, hkeep⟩ : ∃ d₀ c₀, execAll W (d₀, c₀)
        (plan.peers.flatMap fun pc => .publicKey pc.publicKeyHex :: peerBody prev pc) =
          some (d', c') ∧
      (∀ k, (d₀.lookup k).isSome → k ∈ plan.peers.map PeerConfig.publicKeyHex) ∧
      (prev.size ≠ 0 → ∀ pc ∈ plan.peers,
        d₀.lookup pc.publicKeyHex = d.lookup pc.publicKeyHex) := by
    by_cases hsize : prev.size = 0
    · refine ⟨∅, .device, ?_, by simp, fun hne => absurd hsize hne⟩
      simpa [Plan.updateStmts, hsize, execAll, execStmt] using h
    obtain ⟨d₀, c₀, hgone, hlook⟩ := execAll_gone (W := W) d .device (plan.gone prev)
    rw [Plan.updateStmts, if_neg hsize, execAll_append, hgone, Option.bind_some] at h
    refine ⟨d₀, c₀, h, fun k hk => ?_, fun _ pc hpc => ?_⟩
    · rw [hlook] at hk
      by_contra hout
      by_cases hd : (d.lookup k).isSome
      · simp [mem_gone.mpr ⟨hprev hsize k hd, hout⟩] at hk
      · split at hk <;> simp_all
    · rw [hlook, if_neg]
      exact fun hmem => (mem_gone.mp hmem).2 (List.mem_map.mpr ⟨pc, hpc, rfl⟩)
  obtain ⟨hpeers, hout⟩ := execAll_peers hsep hrun
  refine ⟨⟨fun pc hpc => ?_, fun k hk => ?_⟩, fun hsize pc hpc hdue p p' hp hp' => ?_⟩
  · obtain ⟨p', hp', hallowed, halive, -⟩ := hpeers pc hpc
    exact ⟨p', hp', hallowed, halive⟩
  · by_contra hnot
    rw [hout k hnot, Option.isSome_map] at hk
    exact hnot (hsub k hk)
  · obtain ⟨q, hq, -, -, hend⟩ := hpeers pc hpc
    cases hq.symm.trans hp'
    exact hend hdue p ((hkeep hsize pc hpc).trans hp)

end Update

end DarwinNet.Mesh
