import DarwinNet.Lib.Machine
import DarwinNet.Mesh.Uapi

/-!
The applier of the mesh device (`device_wireguard.go`): `Apply` writes the peer update
that leads from the endpoints it remembers to the plan, unless its text is the one last
written; `Up`, `Down` and a failed `IpcSet` drop that memory.

A peer's endpoint follows the peer (`roam`), and a failed `IpcSet` leaves anything behind. The
route reconcile of `Apply` is only its error here.

`apply_converges`: in every run of plans with distinct keys and disjoint `AllowedIPs`, an
`Apply` without error leaves the plan's peers on the device, and no `Apply` moves the
endpoint of a peer the device keeps unless the plan's endpoint moved. For a skipped write
this rests on the text, which names every peer with its `AllowedIPs` and keepalive
(`peerCores_eq`).
-/

namespace DarwinNet.Mesh

open Lib Netip

variable {E : Type} {d : Device E} {plan : Plan} {k : WgKey}

/-! ## The applier -/

structure WGDevice (E : Type) where
  dev : Option (Device E)
  applied : AppliedEndpoints
  lastUAPI : List Char
  deriving DecidableEq

inductive ApplyError
  | notUp
  | ipcSet
  | routes (err : String)
  deriving DecidableEq

/-- How the calls of an `Apply` end: `IpcSet` may fail and leave any device behind, the
route reconcile may fail. -/
structure ApplyOutcome (E : Type) where
  ipcFailure : Option (Device E)
  routes : Option String

namespace WGDevice

def up (wg : WGDevice E) (err : Option String) : WGDevice E :=
  if wg.dev.isSome then wg
  else match err with
    | some _ => wg
    | none => ⟨some ∅, ∅, []⟩

def down (_ : WGDevice E) : WGDevice E := ⟨none, ∅, []⟩

/-- `Apply`; `none` where the device refuses a text that should be accepted. -/
def apply (W : Wireguard E) (wg : WGDevice E) (plan : Plan) (o : ApplyOutcome E) :
    Option (WGDevice E × Option ApplyError) :=
  match wg.dev with
  | none => some (wg, some .notUp)
  | some dev =>
    let (uapi, next) := plan.uapiUpdate wg.applied
    if uapi ≠ wg.lastUAPI then
      match o.ipcFailure with
      | some dev' => some (⟨some dev', ∅, []⟩, some .ipcSet)
      | none =>
        match ipcSet W dev uapi with
        | none => none
        | some dev' => some (⟨some dev', next, uapi⟩, o.routes.map .routes)
    else some (⟨some dev, next, wg.lastUAPI⟩, o.routes.map .routes)

end WGDevice

/-- The applier, with the plan of the last peer step that succeeded since the last `Up` or
failed `IpcSet`. -/
structure MeshState (E : Type) where
  wg : WGDevice E
  last : Option Plan

inductive MeshLabel (E : Type)
  | up (err : Option String)
  | down
  | apply (plan : Plan) (o : ApplyOutcome E)
  | roam (k : WgKey) (e : E)

def lastAfter (last : Option Plan) (plan : Plan) : Option ApplyError → Option Plan
  | some .notUp => last
  | some .ipcSet => none
  | some (.routes _) | none => some plan

def meshStep (W : Wireguard E) (s : MeshState E) : MeshLabel E → Option (MeshState E)
  | .up err => some ⟨s.wg.up err, if s.wg.dev.isSome ∨ err.isSome then s.last else none⟩
  | .down => some ⟨s.wg.down, none⟩
  | .apply plan o =>
    match s.wg.apply W plan o with
    | none => none
    | some (wg, err) => some ⟨wg, lastAfter s.last plan err⟩
  | .roam k e =>
    match s.wg.dev with
    | none => none
    | some dev =>
      some ⟨{ s.wg with dev := some (alter dev k fun p => { p with endpoint := some e }) }, s.last⟩

def meshMachine (W : Wireguard E) : Machine (MeshState E) (MeshLabel E) where
  init s := s = ⟨⟨none, ∅, []⟩, none⟩
  step := meshStep W

/-- Distinct keys, disjoint `AllowedIPs`, endpoints of one line. A prefix of `netip` has
no zone. -/
structure PlanOk (plan : Plan) : Prop where
  keys : (plan.peers.map PeerConfig.publicKeyHex).Nodup
  disjoint : plan.peers.Pairwise fun p q =>
    ∀ a ∈ p.allowedIPs, ∀ b ∈ q.allowedIPs, a.overlaps b = false
  endpoints : ∀ pc ∈ plan.peers, '\n' ∉ pc.endpoint.toList
  zoneless : ∀ pc ∈ plan.peers, ∀ a ∈ pc.allowedIPs, a.ip.hasZone = false

/-- Only plans with distinct keys and disjoint `AllowedIPs` are applied. -/
def PlansOk (_ : MeshState E) : MeshLabel E → Prop
  | .apply plan _ => PlanOk plan
  | _ => True

/-! ## Statements name the peers -/

/-- The statements before the first `public_key`, and those after each. -/
def blocks : List Stmt → List Stmt × List (WgKey × List Stmt)
  | [] => ([], [])
  | .publicKey k :: ss => ([], (k, (blocks ss).1) :: (blocks ss).2)
  | s :: ss => (s :: (blocks ss).1, (blocks ss).2)

def Stmt.isPublicKey : Stmt → Bool
  | .publicKey _ => true
  | _ => false

lemma blocks_append {body : List Stmt} (h : ∀ s ∈ body, s.isPublicKey = false) (ss : List Stmt) :
    blocks (body ++ ss) = (body ++ (blocks ss).1, (blocks ss).2) := by
  induction body with
  | nil => rfl
  | cons s body ih =>
    have hs := h s List.mem_cons_self
    have hbody := ih fun t ht => h t (List.mem_cons_of_mem _ ht)
    cases s with
    | publicKey k => cases hs
    | _ => simp only [List.cons_append, blocks, hbody]

lemma blocks_flatMap {α : Type} (key : α → WgKey) (body : α → List Stmt)
    (h : ∀ x, ∀ s ∈ body x, s.isPublicKey = false) (l : List α) {ss : List Stmt}
    (hss : (blocks ss).1 = []) : blocks (l.flatMap (fun x => .publicKey (key x) :: body x) ++ ss) =
      ([], l.map (fun x => (key x, body x)) ++ (blocks ss).2) := by
  induction l with
  | nil => exact Prod.ext hss rfl
  | cons x l ih =>
    rw [List.flatMap_cons, List.append_assoc, List.cons_append, blocks, blocks_append (h x), ih]
    simp

lemma isPublicKey_peerBody (prev : AppliedEndpoints) (pc : PeerConfig) :
    ∀ s ∈ peerBody prev pc, s.isPublicKey = false := by
  intro s hs
  simp only [peerBody, List.mem_append, List.mem_cons, List.mem_map] at hs
  rcases hs with hs | rfl | rfl | ⟨a, -, rfl⟩
  · split at hs
    · rw [List.mem_singleton.mp hs]
      rfl
    · cases hs
  · rfl
  · rfl
  · rfl

def Plan.peerBlocks (p : Plan) (prev : AppliedEndpoints) : List (WgKey × List Stmt) :=
  p.peers.map fun pc => (pc.publicKeyHex, peerBody prev pc)

lemma blocks_updateStmts (p : Plan) (prev : AppliedEndpoints) :
    blocks (p.updateStmts prev) = if prev.size = 0 then ([.replacePeers], p.peerBlocks prev)
      else ([], (p.gone prev).map (fun k => (k, [.remove])) ++ p.peerBlocks prev) := by
  have hpeers : blocks (p.peers.flatMap fun pc => .publicKey pc.publicKeyHex :: peerBody prev pc) =
      ([], p.peerBlocks prev) := by
    have hnil : (blocks []).1 = [] := rfl
    simpa [blocks, Plan.peerBlocks] using
      blocks_flatMap PeerConfig.publicKeyHex (peerBody prev) (isPublicKey_peerBody prev)
        p.peers hnil
  unfold Plan.updateStmts
  split
  · rw [blocks_append (by simp [Stmt.isPublicKey]), hpeers]
    simp
  · have hgone := blocks_flatMap (fun k => k) (fun _ => [.remove]) (by simp [Stmt.isPublicKey])
      (p.gone prev) (congrArg Prod.fst hpeers)
    rw [hgone, hpeers]

def PeerConfig.core (pc : PeerConfig) : WgKey × List Prefix × List Int :=
  (pc.publicKeyHex, pc.allowedIPs, [pc.keepaliveSeconds])

def blockCore (b : WgKey × List Stmt) : WgKey × List Prefix × List Int :=
  (b.1, b.2.filterMap fun | .allowedIP a => some a | _ => none,
    b.2.filterMap fun | .keepalive n => some n | _ => none)

lemma blockCore_peer (prev : AppliedEndpoints) (pc : PeerConfig) :
    blockCore (pc.publicKeyHex, peerBody prev pc) = pc.core := by
  unfold blockCore peerBody PeerConfig.core
  split <;> simp [List.filterMap_map]

lemma map_blockCore (p : Plan) (prev : AppliedEndpoints) :
    (p.peerBlocks prev).map blockCore = p.peers.map PeerConfig.core := by
  simp [Plan.peerBlocks, Function.comp_def, blockCore_peer]

lemma peerBody_ne_remove (prev : AppliedEndpoints) (pc : PeerConfig) :
    peerBody prev pc ≠ [.remove] := by
  unfold peerBody
  split <;> simp

lemma filter_updateBlocks (p : Plan) (prev : AppliedEndpoints) (ks : List WgKey) :
    (ks.map (fun k => (k, [Stmt.remove])) ++ p.peerBlocks prev).filter (fun b => b.2 ≠ [.remove]) =
      p.peerBlocks prev := by
  rw [List.filter_append, List.filter_eq_nil_iff.mpr (by simp), List.nil_append,
    List.filter_eq_self]
  intro b hb
  obtain ⟨pc, -, rfl⟩ := List.mem_map.mp hb
  simpa using peerBody_ne_remove prev pc

lemma peerCores_eq {p q : Plan} {prev prev' : AppliedEndpoints}
    (h : p.updateStmts prev = q.updateStmts prev') :
    p.peers.map PeerConfig.core = q.peers.map PeerConfig.core := by
  have hblocks := congrArg blocks h
  rw [blocks_updateStmts, blocks_updateStmts] at hblocks
  have hpeers : p.peerBlocks prev = q.peerBlocks prev' := by
    split at hblocks <;> split at hblocks
    · exact (Prod.mk.inj hblocks).2
    · exact absurd (Prod.mk.inj hblocks).1 (by simp)
    · exact absurd (Prod.mk.inj hblocks).1 (by simp)
    · rw [← filter_updateBlocks p prev (p.gone prev), (Prod.mk.inj hblocks).2, filter_updateBlocks]
  rw [← map_blockCore p prev, hpeers, map_blockCore]

lemma Holds.of_cores {p q : Plan} (h : Holds d p)
    (hcore : p.peers.map PeerConfig.core = q.peers.map PeerConfig.core) : Holds d q := by
  have hkeys : p.peers.map PeerConfig.publicKeyHex = q.peers.map PeerConfig.publicKeyHex := by
    have := congrArg (List.map Prod.fst) hcore
    simpa [Function.comp_def, PeerConfig.core] using this
  refine ⟨fun qc hqc => ?_, fun k hk => hkeys ▸ h.keys k hk⟩
  have hmem : qc.core ∈ p.peers.map PeerConfig.core :=
    hcore ▸ List.mem_map.mpr ⟨qc, hqc, rfl⟩
  obtain ⟨pc, hpc, heq⟩ := List.mem_map.mp hmem
  simp only [PeerConfig.core, Prod.mk.injEq, List.cons.injEq, and_true] at heq
  obtain ⟨x, hx, hallowed, halive⟩ := h.peers pc hpc
  exact ⟨x, heq.1 ▸ hx, heq.2.1 ▸ hallowed, heq.2.2 ▸ halive⟩

lemma Holds.roam (h : Holds d plan) (k : WgKey) (e : E) :
    Holds (alter d k fun p => { p with endpoint := some e }) plan := by
  refine ⟨fun pc hpc => ?_, fun k' hk' => h.keys k' ?_⟩
  · obtain ⟨p, hp, hallowed, halive⟩ := h.peers pc hpc
    by_cases hk : pc.publicKeyHex = k
    · refine ⟨{ p with endpoint := some e }, ?_, hallowed, halive⟩
      rw [lookup_alter, if_pos hk, ← hk, hp, Option.map_some]
    · exact ⟨p, by rw [lookup_alter, if_neg hk, hp], hallowed, halive⟩
  · rw [lookup_alter] at hk'
    split at hk'
    · rename_i hk
      rwa [Option.isSome_map, ← hk] at hk'
    · exact hk'

lemma lookup_endpoints (plan : Plan) (k : WgKey) : plan.endpoints.lookup k =
      GoMap.lastWrite k (plan.peers.map fun pc => (pc.publicKeyHex, pc.endpoint)) := by
  rw [Plan.endpoints, GoMap.lookup_insertAll]
  simp

lemma isSome_lookup_endpoints (h : k ∈ plan.peers.map PeerConfig.publicKeyHex) :
    (plan.endpoints.lookup k).isSome := by
  rw [lookup_endpoints, Option.isSome_iff_ne_none, ne_eq, GoMap.lastWrite_eq_none_iff, not_not]
  simpa [Function.comp_def] using h

lemma PlanOk.lookup_endpoints (h : PlanOk plan) {pc : PeerConfig} (hpc : pc ∈ plan.peers) :
    plan.endpoints.lookup pc.publicKeyHex = some pc.endpoint := by
  rw [Mesh.lookup_endpoints, GoMap.lastWrite_eq_some_iff]
  · exact List.mem_map.mpr ⟨pc, hpc, rfl⟩
  · simpa [Function.comp_def] using h.keys

lemma size_endpoints_ne_zero (h : Holds d plan) (hk : (d.lookup k).isSome) :
    plan.endpoints.size ≠ 0 := by
  intro hsize
  have hsome := isSome_lookup_endpoints (h.keys k hk)
  rw [GoMap.size_eq_zero.mp hsize] at hsome
  simp at hsome

lemma PlanOk.oneLine (h : PlanOk plan) (prev : AppliedEndpoints) :
    ∀ s ∈ plan.updateStmts prev, s.OneLine := by
  intro s hs
  rcases List.mem_append.mp hs with hs | hs
  · split at hs
    · rw [List.mem_singleton.mp hs]
      trivial
    · obtain ⟨k, -, hk⟩ := List.mem_flatMap.mp hs
      rcases List.mem_pair.mp hk with rfl | rfl <;> trivial
  · obtain ⟨pc, hpc, hs⟩ := List.mem_flatMap.mp hs
    simp only [peerBody, List.mem_cons, List.mem_append, List.mem_map] at hs
    rcases hs with rfl | hs | rfl | rfl | ⟨a, ha, rfl⟩
    · trivial
    · split at hs
      · rw [List.mem_singleton.mp hs]
        exact h.endpoints pc hpc
      · cases hs
    · trivial
    · trivial
    · exact h.zoneless pc hpc a ha

lemma PlanOk.separate (h : PlanOk plan) {prev : AppliedEndpoints}
    (hvalid : ∀ p, .allowedIP p ∈ plan.updateStmts prev → p.isValid = true) :
    Separate plan.peers := by
  refine ⟨h.keys, h.disjoint.imp_of_mem ?_⟩
  intro p q hp _ hdisj a ha hq
  have hover := hdisj a ha a hq
  have ha' : a.isValid = true := by
    refine hvalid a (List.mem_append_right _ (List.mem_flatMap.mpr ⟨p, hp, ?_⟩))
    simp [peerBody, ha]
  simp [Prefix.overlaps, ha'] at hover

lemma uapiText_ne_nil (plan : Plan) : uapiText (plan.updateStmts ∅) ≠ [] := by
  simp [uapiText, Plan.updateStmts, GoMap.size_eq_zero.mpr, unlines]

/-- The text last written: the device read it, and its statements name the peers of
`plan`. -/
def Written (W : Wireguard E) (plan : Plan) (text : List Char) : Prop :=
  ∃ p prev, PlanOk p ∧ text = uapiText (p.updateStmts prev) ∧
    (∀ s ∈ p.updateStmts prev, (readStmt W s.line).isSome) ∧
    p.peers.map PeerConfig.core = plan.peers.map PeerConfig.core

/-- What the applier remembers is the last plan that succeeded, and the device holds it. -/
structure Inv (W : Wireguard E) (s : MeshState E) : Prop where
  fresh : s.last = none → s.wg.applied = ∅ ∧ s.wg.lastUAPI = []
  held : ∀ plan, s.last = some plan → ∃ dev, s.wg.dev = some dev ∧ Holds dev plan
  applied : ∀ plan, s.last = some plan → s.wg.applied = plan.endpoints
  written : ∀ plan, s.last = some plan → Written W plan s.wg.lastUAPI

lemma Inv.of_fresh {W : Wireguard E} {dev : Option (Device E)} : Inv W ⟨⟨dev, ∅, []⟩, none⟩ :=
  ⟨fun _ => ⟨rfl, rfl⟩, by simp, by simp, by simp⟩

inductive ApplyCase (W : Wireguard E) (wg : WGDevice E) (plan : Plan) :
    WGDevice E → Option ApplyError → Prop
  | notUp : wg.dev = none → ApplyCase W wg plan wg (some .notUp)
  | failed (dev dev' : Device E) : wg.dev = some dev →
      ApplyCase W wg plan ⟨some dev', ∅, []⟩ (some .ipcSet)
  | written (dev dev' : Device E) (err : Option String) : wg.dev = some dev →
      ipcSet W dev (uapiText (plan.updateStmts wg.applied)) = some dev' →
      ApplyCase W wg plan
        ⟨some dev', plan.endpoints, uapiText (plan.updateStmts wg.applied)⟩ (err.map .routes)
  | skipped (dev : Device E) (err : Option String) : wg.dev = some dev →
      uapiText (plan.updateStmts wg.applied) = wg.lastUAPI →
      ApplyCase W wg plan ⟨some dev, plan.endpoints, wg.lastUAPI⟩ (err.map .routes)

/-- The ways an `Apply` can end. -/
lemma apply_cases {W : Wireguard E} {wg wg' : WGDevice E} {o : ApplyOutcome E}
    {err : Option ApplyError} (h : wg.apply W plan o = some (wg', err)) :
    ApplyCase W wg plan wg' err := by
  unfold WGDevice.apply at h
  split at h
  · rename_i hdev
    cases h
    exact .notUp hdev
  · rename_i dev hdev
    have hupdate : plan.uapiUpdate wg.applied =
        (uapiText (plan.updateStmts wg.applied), plan.endpoints) := rfl
    rw [hupdate] at h
    dsimp only at h
    by_cases htext : uapiText (plan.updateStmts wg.applied) = wg.lastUAPI
    · rw [if_neg (not_not.mpr htext)] at h
      cases h
      exact .skipped dev o.routes hdev htext
    · rw [if_pos htext] at h
      split at h
      · cases h
        exact .failed dev _ hdev
      split at h
      · cases h
      · rename_i dev' hset
        cases h
        exact .written dev dev' o.routes hdev hset

lemma lastAfter_routes (last : Option Plan) (plan : Plan) (err : Option String) :
    lastAfter last plan (err.map .routes) = some plan := by
  cases err <;> rfl

variable {W : Wireguard E} {s t : MeshState E}

lemma Inv.write (hs : Inv W s) (hplan : PlanOk plan) {dev dev' : Device E}
    (hdev : s.wg.dev = some dev)
    (hset : ipcSet W dev (uapiText (plan.updateStmts s.wg.applied)) = some dev') :
    Holds dev' plan ∧ Written W plan (uapiText (plan.updateStmts s.wg.applied)) ∧
    (s.wg.applied.size ≠ 0 → ∀ pc ∈ plan.peers, endpointDue s.wg.applied pc = false →
      ∀ p p', dev.lookup pc.publicKeyHex = some p → dev'.lookup pc.publicKeyHex = some p' →
        p'.endpoint = p.endpoint) := by
  obtain ⟨c, hexec⟩ := executed_of_ipcSet (hplan.oneLine _) hset
  have hprev : s.wg.applied.size ≠ 0 →
      ∀ k, (dev.lookup k).isSome → (s.wg.applied.lookup k).isSome := by
    intro hsize k hk
    cases hlast : s.last with
    | none =>
      rw [(hs.fresh hlast).1] at hsize
      exact absurd (GoMap.size_eq_zero.mpr rfl) hsize
    | some last =>
      obtain ⟨dev₁, hdev₁, hholds⟩ := hs.held last hlast
      cases hdev.symm.trans hdev₁
      rw [hs.applied last hlast]
      exact isSome_lookup_endpoints (hholds.keys k hk)
  obtain ⟨hholds, hkeep⟩ := updateStmts_spec (hplan.separate hexec.valid) hprev hexec.exec
  exact ⟨hholds, ⟨plan, _, hplan, rfl, hexec.read, rfl⟩, hkeep⟩

lemma Inv.skip (hs : Inv W s) (hplan : PlanOk plan) {dev : Device E} (hdev : s.wg.dev = some dev)
    (htext : uapiText (plan.updateStmts s.wg.applied) = s.wg.lastUAPI) :
    Holds dev plan ∧ Written W plan s.wg.lastUAPI := by
  cases hlast : s.last with
  | none =>
    obtain ⟨happlied, huapi⟩ := hs.fresh hlast
    rw [happlied, huapi] at htext
    exact absurd htext (uapiText_ne_nil plan)
  | some last =>
    obtain ⟨p, prev, hp, htext', hread, hcore⟩ := hs.written last hlast
    obtain ⟨dev₁, hdev₁, hholds⟩ := hs.held last hlast
    cases hdev.symm.trans hdev₁
    have hstmts := stmts_eq_of_text (hp.oneLine prev) (hplan.oneLine s.wg.applied) hread
      (htext'.symm.trans htext.symm)
    have hsame := peerCores_eq hstmts
    exact ⟨hholds.of_cores (hcore.symm.trans hsame), p, prev, hp, htext', hread, hsame⟩

lemma Inv.step {a : MeshLabel E} (hs : Inv W s) (hok : PlansOk s a)
    (h : meshStep W s a = some t) : Inv W t := by
  cases a with
  | up err =>
    cases h
    by_cases hdev : s.wg.dev.isSome = true
    · simpa [WGDevice.up, hdev] using hs
    · cases err with
      | some err => simpa [WGDevice.up, hdev] using hs
      | none => simpa [WGDevice.up, hdev] using Inv.of_fresh
  | down =>
    cases h
    exact .of_fresh
  | roam k e =>
    simp only [meshStep] at h
    split at h
    · cases h
    rename_i dev hdev
    cases h
    refine ⟨hs.fresh, fun plan hplan => ?_, hs.applied, hs.written⟩
    obtain ⟨dev₁, hdev₁, hholds⟩ := hs.held plan hplan
    cases hdev.symm.trans hdev₁
    exact ⟨_, rfl, hholds.roam k e⟩
  | apply plan o =>
    simp only [meshStep] at h
    split at h
    · cases h
    rename_i wg err happly
    cases h
    cases apply_cases happly with
    | notUp hdev => exact hs
    | failed dev dev' hdev => exact .of_fresh
    | written dev dev' err hdev hset =>
      obtain ⟨hholds, hwritten, -⟩ := hs.write hok hdev hset
      rw [lastAfter_routes]
      exact ⟨by simp, by rintro _ ⟨⟩; exact ⟨dev', rfl, hholds⟩, by rintro _ ⟨⟩; rfl,
        by rintro _ ⟨⟩; exact hwritten⟩
    | skipped dev err hdev htext =>
      obtain ⟨hholds, hwritten⟩ := hs.skip hok hdev htext
      rw [lastAfter_routes]
      exact ⟨by simp, by rintro _ ⟨⟩; exact ⟨dev, rfl, hholds⟩, by rintro _ ⟨⟩; rfl,
        by rintro _ ⟨⟩; exact hwritten⟩

/-- The applier remembers right in every run of such plans. -/
lemma inv_of_reach (h : (meshMachine W).Reach PlansOk s) : Inv W s := by
  refine Machine.Reach.invariant ?_ (fun s a t hs hok hst => hs.step hok hst) h
  rintro _ rfl
  exact .of_fresh

lemma Inv.endpoint_moved (hs : Inv W s) (hplan : PlanOk plan) {dev dev' : Device E}
    (hdev : s.wg.dev = some dev)
    (hset : ipcSet W dev (uapiText (plan.updateStmts s.wg.applied)) = some dev') {p p' : DevPeer E}
    (hp : dev.lookup k = some p) (hp' : dev'.lookup k = some p')
    (hmoved : p'.endpoint ≠ p.endpoint) : s.last = none ∨ ∃ last, s.last = some last ∧
      plan.endpoints.lookup k ≠ last.endpoints.lookup k := by
  cases hlast : s.last with
  | none => exact .inl rfl
  | some last =>
    obtain ⟨hholds, -, hkeep⟩ := hs.write hplan hdev hset
    obtain ⟨dev₁, hdev₁, hbefore⟩ := hs.held last hlast
    cases hdev.symm.trans hdev₁
    have happlied := hs.applied last hlast
    obtain ⟨pc, hpc, rfl⟩ := List.mem_map.mp (hholds.keys k (by rw [hp']; rfl))
    have hsize : s.wg.applied.size ≠ 0 := by
      rw [happlied]
      exact size_endpoints_ne_zero hbefore (k := pc.publicKeyHex) (by rw [hp]; rfl)
    have hdue : endpointDue s.wg.applied pc = true := by
      by_contra hnot
      exact hmoved (hkeep hsize pc hpc (by simpa using hnot) p p' hp hp')
    refine .inr ⟨last, rfl, fun heq => ?_⟩
    rw [hplan.lookup_endpoints hpc, ← happlied] at heq
    simp [endpointDue, ← heq] at hdue

/-- An `Apply` that succeeds leaves the peers of its plan on the device, and no `Apply` moves the
endpoint of a peer the device keeps unless the plan's has moved, or an `IpcSet` failed. -/
theorem apply_converges (W : Wireguard E) (s : MeshState E) (hs : (meshMachine W).Reach PlansOk s)
    (plan : Plan) (hplan : PlanOk plan) (o : ApplyOutcome E) (wg : WGDevice E)
    (err : Option ApplyError) (h : s.wg.apply W plan o = some (wg, err)) :
    (err = none → ∃ dev, wg.dev = some dev ∧ Holds dev plan) ∧
    ∀ dev dev' k p p', s.wg.dev = some dev → wg.dev = some dev' → dev.lookup k = some p →
      dev'.lookup k = some p' → p'.endpoint ≠ p.endpoint →
        err = some .ipcSet ∨ s.last = none ∨ ∃ last, s.last = some last ∧
          plan.endpoints.lookup k ≠ last.endpoints.lookup k := by
  have hinv := inv_of_reach hs
  cases apply_cases h with
  | notUp hdev =>
    refine ⟨by simp, ?_⟩
    intro dev dev' k p p' hd _ _ _ _
    rw [hdev] at hd
    cases hd
  | failed dev dev' hdev => exact ⟨by simp, fun _ _ _ _ _ _ _ _ _ _ => .inl rfl⟩
  | written dev dev' err hdev hset =>
    refine ⟨fun _ => ⟨dev', rfl, (hinv.write hplan hdev hset).1⟩, ?_⟩
    intro dev₁ dev₂ k p p' hd₁ hd₂ hp hp' hmoved
    cases hdev.symm.trans hd₁
    cases hd₂
    exact .inr (hinv.endpoint_moved hplan hdev hset hp hp' hmoved)
  | skipped dev err hdev htext =>
    refine ⟨fun _ => ⟨dev, rfl, (hinv.skip hplan hdev htext).1⟩, ?_⟩
    intro dev₁ dev₂ k p p' hd₁ hd₂ hp hp' hmoved
    cases hdev.symm.trans hd₁
    cases hd₂
    cases hp.symm.trans hp'
    exact absurd rfl hmoved

/-! ### A quiet resync -/

def parseHexKey (s : List Char) : Option WgKey :=
  if h : s.length = 2 * wgKeyBytes ∧ (s.all fun c => c ∈ "0123456789abcdef".toList) = true then
    some ⟨s, h.1, fun c hc => of_decide_eq_true (List.all_eq_true.mp h.2 c hc)⟩
  else none

lemma isValid_of_string_eq {p q : Prefix} (hq : q.isValid = true) (h : q.string = p.string) :
    p.isValid = true := by
  by_contra hp
  have hslash : '/' ∈ p.string.toList := by
    rw [← h, Prefix.string, if_pos hq]
    simp
  rw [Prefix.string, if_neg hp] at hslash
  revert hslash
  decide

lemma eq_of_toString_eq_25 {n : Int} (h : (toString n).toList = "25".toList) : n = 25 := by
  cases n with
  | ofNat m =>
    have hm : toString m = toString 25 := String.toList_injective h
    rw [toString_inj hm]
    rfl
  | negSucc m =>
    have htext : toString (Int.negSucc m) = "-" ++ toString (m + 1) := rfl
    rw [htext, String.toList_append] at h
    have hhead := congrArg List.head? h
    revert hhead
    simp

/-- A device that reads every key, the keepalive 25 and the prefixes of a list. -/
def tableWireguard (known : List Prefix) : Wireguard String where
  parseKey := parseHexKey
  parseEndpoint := some
  parseKeepalive := fun s => if s = "25".toList then some 25 else none
  parseAllowedIP := fun s => known.find? fun q => q.isValid ∧ q.string.toList = s
  key_sound := by
    intro k k' h
    unfold parseHexKey at h
    split_ifs at h
    cases h
    rfl
  keepalive_sound := by
    intro n m h
    split_ifs at h with htext
    cases h
    exact (eq_of_toString_eq_25 htext).symm
  allowedIP_sound := by
    intro p q h
    have hq := List.find?_some h
    simp only [decide_eq_true_eq] at hq
    have htext := String.toList_injective hq.2
    have hp := isValid_of_string_eq hq.1 htext
    exact ⟨hp, Prefix.string_inj hq.1 hp htext⟩

lemma isHex_replicate (c : Char) (h : c ∈ List.replicate 64 'a') :
    c ∈ "0123456789abcdef".toList := by
  rw [List.eq_of_mem_replicate h]
  decide

def onlyKey : WgKey := ⟨List.replicate 64 'a', List.length_replicate, isHex_replicate⟩

def onlyPeer : Plan where
  peers := [⟨"b", onlyKey, "192.0.2.1:51820", [Prefix.v4 0x64400100 24], 25⟩]
  routes := [Prefix.v4 0x64400100 24]
  skipped := []

lemma planOk_onlyPeer : PlanOk onlyPeer where
  keys := by decide
  disjoint := by simp [onlyPeer]
  endpoints := by decide
  zoneless := by decide

theorem apply_converges_resync :
    ∃ s wg, (meshMachine (tableWireguard [Prefix.v4 0x64400100 24])).Reach PlansOk s ∧
      s.wg.apply (tableWireguard [Prefix.v4 0x64400100 24]) onlyPeer ⟨none, none⟩ =
        some (wg, none) ∧
      wg.lastUAPI = s.wg.lastUAPI ∧ ∃ dev, wg.dev = some dev ∧ Holds dev onlyPeer := by
  have hrun : (((meshMachine (tableWireguard [Prefix.v4 0x64400100 24])).run
      ⟨⟨none, ∅, []⟩, none⟩
      [.up none, .apply onlyPeer ⟨none, none⟩, .apply onlyPeer ⟨none, none⟩,
        .roam onlyKey "198.51.100.7:4500"]).bind fun s =>
      (s.wg.apply (tableWireguard [Prefix.v4 0x64400100 24]) onlyPeer ⟨none, none⟩).map fun r =>
        (r.2, decide (r.1.lastUAPI = s.wg.lastUAPI))) = some (none, true) := by
    decide +kernel
  obtain ⟨s, hs, hrest⟩ := Option.bind_eq_some_iff.mp hrun
  obtain ⟨⟨wg, err⟩, happly, hfact⟩ := Option.map_eq_some_iff.mp hrest
  obtain ⟨rfl, hlast⟩ := Prod.mk.inj hfact
  have hreach : (meshMachine (tableWireguard [Prefix.v4 0x64400100 24])).Reach PlansOk s := by
    refine Machine.Reach.of_run _ rfl ?_ hs
    exact ⟨trivial, fun _ _ => ⟨planOk_onlyPeer, fun _ _ => ⟨planOk_onlyPeer, fun _ _ =>
      ⟨trivial, fun _ _ => trivial⟩⟩⟩⟩
  exact ⟨s, wg, hreach, happly, of_decide_eq_true hlast,
    (apply_converges _ s hreach onlyPeer planOk_onlyPeer _ wg none happly).1 rfl⟩

end DarwinNet.Mesh
