import DarwinNet.Mesh.Keys
import DarwinNet.Netd.Steps
import DarwinNet.Netip.Parse

/-!
The plan of the agent in helper mode (`device_netd.go`). `netdDevice.Apply` sends the peers of
the plan as typed arguments; the daemon makes specs of them (`meshSpecs`), builds the plan anew
(`validatePlan`) and hands that to the executor.

An argument carries neither the keepalive of its peer nor a rule for a peer that is no per-node
/24, which `BuildPlan` admits and `ValidatePlan` refuses. `helper_applies_agent_plan` says that
these two are all that is lost.
-/

namespace DarwinNet.Netd

open Lib Netip Mesh

/-! ## Sending a plan -/

/-- The body of the loop of `netdDevice.Apply`; `none` for a key that is not hexadecimal. -/
def meshPeerArg (pc : PeerConfig) : Option MeshPeerArg :=
  (hexToBase64 pc.publicKeyHex.digits).map fun pub =>
    ⟨pub, pc.endpoint, pc.allowedIPs.map Prefix.string⟩

/-- `netdDevice.Apply` and `Client.ConfigureMesh`: the request that is sent. -/
def applyRequest (self : Prefix) (plan : Plan) : Option ConfigureMeshArgs :=
  (plan.peers.mapM meshPeerArg).map fun peers =>
    ⟨if self.isValid then self.string else "", peers⟩

/-- `handleConfigureMesh` on connection `c` up to the plan, for an identity already in force. -/
def meshRequest (c : Nat) (args : ConfigureMeshArgs) : List Label :=
  [.configureMesh c args, .adoptCheck c, .validate c]

def programmed (pc : PeerConfig) : WgKey × String × List Prefix × Int :=
  (pc.publicKeyHex, pc.endpoint, pc.allowedIPs, pc.keepaliveSeconds)

/-- Two plans program the same peers and routes; the names of the nodes may differ. -/
def SameMesh (plan plan' : Plan) : Prop :=
  plan'.peers.map programmed = plan.peers.map programmed ∧ plan'.routes = plan.routes

/-! ## `netv1` on the other side -/

/-- `d` is what the daemon makes of a peer whose spec is `spec` and whose pod CIDR is a /24. -/
structure Resent (N : Netv1) (spec d : MeshPeerSpec) : Prop where
  podCIDR : ∃ p, podPrefix spec = some p ∧ isNodeCIDR p = true ∧ d.podCIDR = p.string ∧
    d.nodeName = p.string ∧ d.allowedIPs ≠ [] ∧ ∀ s ∈ d.allowedIPs, s = p.string
  publicKey : wgKeyHex d.publicKey = wgKeyHex spec.publicKey
  endpoint : d.endpoint = selectEndpoint spec
  endpoints : d.endpoints = []
  schemaVersion : d.schemaVersion = N.meshPeerSchemaVersion
  keepalive : d.persistentKeepaliveSeconds = 0 ∨
    d.persistentKeepaliveSeconds = N.defaultPersistentKeepaliveSeconds

/-- What is assumed of `netv1`: `WithDefaults` fills in an unset keepalive and no field that is
set, and `Validate` accepts a peer it has accepted in the daemon's form too. -/
structure Rereads (N : Netv1) : Prop where
  fills : ∀ spec, spec.schemaVersion = N.meshPeerSchemaVersion →
    N.withDefaults spec = spec ∨ spec.persistentKeepaliveSeconds = 0 ∧ N.withDefaults spec =
      { spec with persistentKeepaliveSeconds := N.defaultPersistentKeepaliveSeconds }
  validates : ∀ spec d, N.validate spec = none → Resent N spec d → N.validate d = none

section Peer

variable {N : Netv1} {self : Prefix} {raw spec : MeshPeerSpec} {pc : PeerConfig} {c : Prefix}

/-- What a spec and its peer have passed. -/
structure Checked (N : Netv1) (spec : MeshPeerSpec) (pc : PeerConfig) : Prop where
  valid : N.validate spec = none
  version : spec.schemaVersion = N.meshPeerSchemaVersion
  endpoint : pc.endpoint = selectEndpoint spec
  keepalive : pc.keepaliveSeconds = if spec.persistentKeepaliveSeconds = 0 then
    N.defaultPersistentKeepaliveSeconds else spec.persistentKeepaliveSeconds

lemma checked_verdict (h : verdict N self raw = .peer spec pc) : Checked N spec pc := by
  simp only [verdict] at h
  (repeat' split at h) <;> cases h
  next hvalid hversion _ _ _ _ _ _ _ _ hconfig =>
  refine ⟨hvalid, not_not.mp hversion, rfl, ?_⟩
  simp only [peerConfigFromSpec] at hconfig
  split at hconfig
  · cases hconfig
  split at hconfig <;> cases hconfig
  rfl

lemma verdict_eq_peer (self : Prefix) (hvalid : N.validate (readSpec N raw) = none)
    (hversion : (readSpec N raw).schemaVersion = N.meshPeerSchemaVersion)
    (hpod : parsePrefix (readSpec N raw).podCIDR = some c) (hne : equalCIDR c.masked self = false)
    (hmatch : allowedIPsMatchCIDR (readSpec N raw) = none)
    (hconfig : peerConfigFromSpec N (readSpec N raw) = .ok pc) : verdict N self raw =
      .peer (readSpec N raw) { pc with endpoint := selectEndpoint (readSpec N raw) } := by
  simp only [verdict, hvalid, hversion, ne_eq, not_true_eq_false, if_false, hpod, hne,
    Bool.false_eq_true, hmatch, hconfig]

def sentKey (pc : PeerConfig) : String := (hexToBase64 pc.publicKeyHex.digits).getD ""

/-- The key of a peer crosses the socket. -/
lemma sentKey_spec (pc : PeerConfig) : hexToBase64 pc.publicKeyHex.digits = some (sentKey pc) ∧
      wgKeyHex (sentKey pc) = some pc.publicKeyHex := by
  obtain ⟨b64, hsend, hread⟩ := wgKeyHex_hexToBase64 pc.publicKeyHex
  rw [sentKey, hsend, Option.getD_some]
  exact ⟨rfl, hread⟩

def daemonSpec (N : Netv1) (pc : PeerConfig) : MeshPeerSpec where
  nodeName := match parsePrefix pc.podRange.string with
    | some p => p.masked.string
    | none => pc.podRange.string
  publicKey := sentKey pc
  podCIDR := pc.podRange.string
  allowedIPs := pc.allowedIPs.map Prefix.string
  endpoint := pc.endpoint
  endpoints := []
  schemaVersion := N.meshPeerSchemaVersion
  persistentKeepaliveSeconds := 0

lemma readSpec_daemonSpec (hN : Rereads N) (pc : PeerConfig) :
    ∃ k, (k = 0 ∨ k = N.defaultPersistentKeepaliveSeconds) ∧
      readSpec N (daemonSpec N pc) = { daemonSpec N pc with persistentKeepaliveSeconds := k } := by
  rw [readSpec]
  rcases hN.fills (daemonSpec N pc) rfl with hfill | ⟨-, hfill⟩
  · rw [hfill]
    exact ⟨0, .inl rfl, rfl⟩
  · rw [hfill]
    exact ⟨_, .inr rfl, rfl⟩

lemma parsePrefix_nodeRange (h : IsNodeRange c) : parsePrefix c.string = some c := by
  obtain ⟨base, -, rfl⟩ := h
  exact parsePrefix_string (by decide)

lemma matchLoop_of_eq (hc : IsNodeRange c) {l : List String} (h : ∀ s ∈ l, s = c.string) :
    matchLoop c l = none := by
  induction l with
  | nil => rfl
  | cons s l ih =>
    have hs : parsePrefix s = some c := by
      rw [h s List.mem_cons_self]
      exact parsePrefix_nodeRange hc
    rw [matchLoop, hs]
    simp only [hc.masked_eq, ne_eq, not_true_eq_false, if_false]
    exact ih fun s' hs' => h s' (List.mem_cons_of_mem s hs')

def daemonPeer (N : Netv1) (pc : PeerConfig) : PeerConfig :=
  { pc with
    nodeName := pc.podRange.string
    keepaliveSeconds := N.defaultPersistentKeepaliveSeconds }

/-- The spec is carried over whole: its keepalive is the default one and its pod CIDR a /24. -/
def Carried (N : Netv1) (spec : MeshPeerSpec) : Prop :=
  (spec.persistentKeepaliveSeconds = 0 ∨
    spec.persistentKeepaliveSeconds = N.defaultPersistentKeepaliveSeconds) ∧
  ∃ p, podPrefix spec = some p ∧ isNodeCIDR p = true

lemma podRange_of_peerOf (h : PeerOf self spec pc) :
    podPrefix spec = some pc.podRange ∧ pc.podRange ∈ pc.allowedIPs ∧
      (∀ a ∈ pc.allowedIPs, a = pc.podRange) ∧ equalCIDR pc.podRange self = false := by
  obtain ⟨c, hc, hall, hne⟩ := h.allowed
  obtain ⟨a, rest, hcons⟩ := List.exists_cons_of_ne_nil h.nonempty
  have ha : a ∈ pc.allowedIPs := by simp [hcons]
  have hrange : pc.podRange = c := by
    rw [PeerConfig.podRange, hcons, List.headD_cons]
    exact hall a ha
  rw [hrange]
  exact ⟨hc, hall a ha ▸ ha, hall, hne⟩

lemma keepalive_default {k d : Int} (h : k = 0 ∨ k = d) : (if k = 0 then d else k) = d := by
  rcases h with rfl | rfl
  · exact if_pos rfl
  · exact ite_self _

lemma verdict_daemonSpec (hN : Rereads N) (hpeer : PeerOf self spec pc)
    (hchecked : Checked N spec pc) (hnode : isNodeCIDR pc.podRange = true) :
    verdict N self (daemonSpec N pc) = .peer (readSpec N (daemonSpec N pc)) (daemonPeer N pc) := by
  obtain ⟨hpod, hmem, hall, hne⟩ := podRange_of_peerOf hpeer
  have hrange : IsNodeRange pc.podRange := by
    obtain ⟨p, -, hp⟩ := Option.map_eq_some_iff.mp hpod
    rw [← hp] at hnode ⊢
    exact isNodeRange_masked hnode
  have hparse := parsePrefix_nodeRange hrange
  obtain ⟨k, hk, hread⟩ := readSpec_daemonSpec hN pc
  have hname : (daemonSpec N pc).nodeName = pc.podRange.string := by
    simp only [daemonSpec, hparse, hrange.masked_eq]
  have hstrings : ∀ s ∈ (daemonSpec N pc).allowedIPs, s = pc.podRange.string := by
    intro s hs
    obtain ⟨a, ha, rfl⟩ := List.mem_map.mp hs
    rw [hall a ha]
  have hnonempty : (daemonSpec N pc).allowedIPs ≠ [] := by
    intro hnil
    exact hpeer.nonempty (List.map_eq_nil_iff.mp hnil)
  have hmatch : allowedIPsMatchCIDR (readSpec N (daemonSpec N pc)) = none := by
    rw [hread, allowedIPsMatchCIDR]
    simp only [daemonSpec, hparse] at hnonempty hstrings ⊢
    rw [if_neg hnonempty, hrange.masked_eq]
    exact matchLoop_of_eq hrange hstrings
  have hallowed : parseAllowed (daemonSpec N pc).allowedIPs = .ok pc.allowedIPs := by
    rw [matchLoop_none (matchLoop_of_eq hrange hstrings), daemonSpec, List.map_map]
    have hsame : pc.allowedIPs.map ((fun _ => pc.podRange) ∘ Prefix.string) =
        pc.allowedIPs.map id := List.map_congr_left fun a ha => (hall a ha).symm
    rw [hsame, List.map_id]
  have hresent : Resent N spec (readSpec N (daemonSpec N pc)) := by
    rw [hread]
    refine ⟨⟨pc.podRange, hpod, hnode, rfl, hname, hnonempty, hstrings⟩, ?_,
      hchecked.endpoint, rfl, rfl, hk⟩
    exact (sentKey_spec pc).2.trans hpeer.key.symm
  have hconfig : peerConfigFromSpec N (readSpec N (daemonSpec N pc)) = .ok (daemonPeer N pc) := by
    rw [hread, peerConfigFromSpec]
    simp only [(show (daemonSpec N pc).publicKey = sentKey pc from rfl), (sentKey_spec pc).2,
      hallowed, keepalive_default hk, hname]
    rfl
  have hverdict := verdict_eq_peer self (hN.validates spec _ hchecked.valid hresent)
    hresent.schemaVersion (by rw [hread]; exact hparse) (by rw [hrange.masked_eq]; exact hne)
    hmatch hconfig
  rw [hverdict, hread]
  rfl

end Peer

section Plan

variable {N : Netv1} {self : Prefix} {specs : List MeshPeerSpec} {plan : Plan} {spec : MeshPeerSpec}
  {pc : PeerConfig}

lemma included_map {α : Type} {f : α → MeshPeerSpec} {g : α → MeshPeerSpec × PeerConfig}
    {l : List α} (h : ∀ x ∈ l, verdict N self (f x) = .peer (g x).1 (g x).2) :
    included N self (l.map f) = l.map g ∧ skippedPeers N self (l.map f) = [] := by
  induction l with
  | nil => exact ⟨rfl, rfl⟩
  | cons x l ih =>
    have hx := h x List.mem_cons_self
    obtain ⟨hinc, hskip⟩ := ih fun y hy => h y (List.mem_cons_of_mem x hy)
    rw [included] at hinc
    rw [skippedPeers] at hskip
    simp only [included, skippedPeers, List.map_cons, List.filterMap_cons, hx, hinc, hskip,
      and_self]

lemma routeLoop_congr {xs ys : List MeshPeerSpec} (h : xs.map podPrefix = ys.map podPrefix)
    (out : List Prefix) : routeLoop self out xs = routeLoop self out ys := by
  induction xs generalizing ys out with
  | nil =>
    rw [List.map_nil, eq_comm, List.map_eq_nil_iff] at h
    rw [h]
  | cons x xs ih =>
    obtain ⟨y, ys, rfl, hxy, hrest⟩ := List.map_eq_cons_iff.mp h.symm
    have hrest' : xs.map podPrefix = ys.map podPrefix := hrest.symm
    simp only [podPrefix] at hxy
    cases hx : parsePrefix x.podCIDR with
    | none =>
      rw [hx, Option.map_none, Option.map_eq_none_iff] at hxy
      simp only [routeLoop, hx, hxy, ih hrest']
    | some p =>
      rw [hx, Option.map_some, Option.map_eq_some_iff] at hxy
      obtain ⟨q, hy, hqp⟩ := hxy
      simp only [routeLoop, hx, hy, hqp, ih hrest']

lemma length_routeLoop_le (self : Prefix) (out : List Prefix) (ps : List MeshPeerSpec) :
    (routeLoop self out ps).length ≤ out.length + ps.length := by
  induction ps generalizing out with
  | nil => simp [routeLoop]
  | cons p ps ih =>
    have hstay := ih out
    simp only [routeLoop, List.length_cons]
    split
    · omega
    split
    · omega
    split
    · omega
    split
    · omega
    rename_i c _ _ _ _
    have hadd := ih (out ++ [c.masked])
    rw [List.length_append, List.length_singleton] at hadd
    omega

structure Built (N : Netv1) (own : Prefix) (specs : List MeshPeerSpec) (plan : Plan) :
    Prop where
  self_node : isNodeCIDR own.masked = true
  peers : plan.peers = (included N own.masked specs).map Prod.snd
  routes : plan.routes = (routeLoop own.masked []
    ((included N own.masked specs).map Prod.fst)).insertionSort fun a b => b.ip.less a.ip = false
  skipped : plan.skipped = skippedPeers N own.masked specs

/-- Which plans `BuildPlan` returns. -/
lemma buildPlan_ok_iff : buildPlan N self specs = .ok plan ↔ Built N self specs plan := by
  constructor
  · intro h
    simp only [buildPlan, routeSet, Prefix.masked_masked] at h
    split_ifs at h with hself
    cases h
    exact ⟨by simpa using hself, rfl, rfl, rfl⟩
  · rintro ⟨hself, hpeers, hroutes, hskipped⟩
    simp only [buildPlan, routeSet, Prefix.masked_masked, hself, Bool.not_true,
      Bool.false_eq_true, if_false]
    cases plan
    simp only at hpeers hroutes hskipped
    rw [hpeers, hroutes, hskipped]

lemma verdict_of_mem_included (h : (spec, pc) ∈ included N self specs) :
    ∃ raw ∈ specs, spec = readSpec N raw ∧ PeerOf self spec pc ∧ Checked N spec pc := by
  obtain ⟨raw, hraw, hverdict⟩ := List.mem_filterMap.mp h
  split at hverdict
  · rename_i hv
    cases hverdict
    obtain ⟨hpeer, heq⟩ := peerOf_verdict hv
    exact ⟨raw, hraw, heq, hpeer, checked_verdict hv⟩
  · cases hverdict

lemma Built.exists_spec (h : Built N self specs plan) (hpc : pc ∈ plan.peers) :
    ∃ spec, (spec, pc) ∈ included N self.masked specs ∧
      PeerOf self.masked spec pc ∧ Checked N spec pc := by
  rw [h.peers] at hpc
  obtain ⟨⟨spec, pc⟩, hmem, rfl⟩ := List.mem_map.mp hpc
  obtain ⟨-, -, -, hpeer, hchecked⟩ := verdict_of_mem_included hmem
  exact ⟨spec, hmem, hpeer, hchecked⟩

lemma keepalive_of_daemonSpecs (hN : Rereads N) {peers : List PeerConfig}
    (h : pc ∈ (included N self (peers.map (daemonSpec N))).map Prod.snd) :
    pc.keepaliveSeconds = N.defaultPersistentKeepaliveSeconds := by
  obtain ⟨⟨spec, pc⟩, hmem, rfl⟩ := List.mem_map.mp h
  obtain ⟨raw, hraw, hspec, -, hchecked⟩ := verdict_of_mem_included hmem
  obtain ⟨sent, -, rfl⟩ := List.mem_map.mp hraw
  obtain ⟨k, hk, hread⟩ := readSpec_daemonSpec hN sent
  rw [hchecked.keepalive, hspec, hread]
  exact keepalive_default hk

lemma podPrefix_daemonSpec (hN : Rereads N) (h : IsNodeRange pc.podRange) :
    podPrefix (readSpec N (daemonSpec N pc)) = some pc.podRange := by
  obtain ⟨k, -, hread⟩ := readSpec_daemonSpec hN pc
  rw [hread, podPrefix]
  simp only [daemonSpec, parsePrefix_nodeRange h, Option.map_some, h.masked_eq]

lemma validatePlan_of_built (h : Built N self specs plan) (hskipped : plan.skipped = [])
    (hnode : ∀ pc ∈ plan.peers, ∀ a ∈ pc.allowedIPs, isNodeCIDR a = true) :
    validatePlan N self specs = .ok plan := by
  have hper : notPerNode plan = none := by
    rw [notPerNode, List.find?_eq_none]
    intro e he
    obtain ⟨pc, hpc, hmem⟩ := List.mem_flatMap.mp he
    obtain ⟨a, ha, rfl⟩ := List.mem_map.mp hmem
    simp [hnode pc hpc a ha]
  simp only [validatePlan, buildPlan_ok_iff.mpr h, hskipped, hper]

lemma nodeRange_of_carried (hpeer : PeerOf self spec pc) (h : Carried N spec) :
    isNodeCIDR pc.podRange = true ∧ IsNodeRange pc.podRange := by
  obtain ⟨-, p, hp, hnode⟩ := h
  obtain ⟨hpod, -⟩ := podRange_of_peerOf hpeer
  cases hp.symm.trans hpod
  obtain ⟨q, -, hq⟩ := Option.map_eq_some_iff.mp hp
  rw [← hq] at hnode ⊢
  exact ⟨hnode, isNodeRange_masked hnode⟩

lemma keepalive_of_carried (hchecked : Checked N spec pc) (h : Carried N spec) :
    pc.keepaliveSeconds = N.defaultPersistentKeepaliveSeconds := by
  rw [hchecked.keepalive]
  exact keepalive_default h.1

lemma validatePlan_daemonSpecs (hN : Rereads N) (hbuilt : Built N self specs plan)
    (h : ∀ e ∈ included N self.masked specs, Carried N e.1) :
    validatePlan N self (plan.peers.map (daemonSpec N)) =
      .ok ⟨plan.peers.map (daemonPeer N), plan.routes, []⟩ := by
  have hpeer : ∀ pc ∈ plan.peers, isNodeCIDR pc.podRange = true ∧
      (∀ a ∈ pc.allowedIPs, a = pc.podRange) ∧
      verdict N self.masked (daemonSpec N pc) =
        .peer (readSpec N (daemonSpec N pc)) (daemonPeer N pc) := by
    intro pc hpc
    obtain ⟨spec, hmem, hpeer, hchecked⟩ := hbuilt.exists_spec hpc
    obtain ⟨hnode, -⟩ := nodeRange_of_carried hpeer (h _ hmem)
    exact ⟨hnode, (podRange_of_peerOf hpeer).2.2.1, verdict_daemonSpec hN hpeer hchecked hnode⟩
  obtain ⟨hinc, hskip⟩ := included_map (g := fun pc => (readSpec N (daemonSpec N pc),
    daemonPeer N pc)) fun pc hpc => (hpeer pc hpc).2.2
  have hroutes : routeLoop self.masked [] ((included N self.masked specs).map Prod.fst) =
      routeLoop self.masked [] (plan.peers.map fun pc => readSpec N (daemonSpec N pc)) := by
    refine routeLoop_congr ?_ []
    rw [hbuilt.peers, List.map_map, List.map_map, List.map_map]
    refine List.map_congr_left fun e he => ?_
    obtain ⟨-, -, -, hpeerOf, -⟩ := verdict_of_mem_included he
    obtain ⟨-, hrange⟩ := nodeRange_of_carried hpeerOf (h e he)
    exact (podRange_of_peerOf hpeerOf).1.trans (podPrefix_daemonSpec hN hrange).symm
  refine validatePlan_of_built ⟨hbuilt.self_node, ?_, ?_, hskip.symm⟩ rfl ?_
  · rw [hinc, List.map_map]
    rfl
  · rw [hinc, List.map_map, hbuilt.routes, hroutes]
    rfl
  · intro pc hpc a ha
    obtain ⟨sent, hsent, rfl⟩ := List.mem_map.mp hpc
    obtain ⟨hnode, hall, -⟩ := hpeer sent hsent
    rw [hall a ha]
    exact hnode

lemma sameMesh_iff_carried (hN : Rereads N) (hbuilt : Built N self specs plan) :
    (∃ plan', validatePlan N self (plan.peers.map (daemonSpec N)) = .ok plan' ∧
      SameMesh plan plan') ↔ ∀ e ∈ included N self.masked specs, Carried N e.1 := by
  constructor
  · rintro ⟨plan', hplan', hpeers, -⟩ ⟨spec, pc⟩ hmem
    obtain ⟨-, -, -, hpeer, hchecked⟩ := verdict_of_mem_included hmem
    obtain ⟨hpod, hmemRange, -⟩ := podRange_of_peerOf hpeer
    have hacc := accepted_of_validatePlan hplan'
    -- the peer of the daemon's plan that is programmed as this one is
    have hpc : programmed pc ∈ plan'.peers.map programmed := by
      rw [hpeers, hbuilt.peers]
      exact List.mem_map.mpr ⟨pc, List.mem_map.mpr ⟨_, hmem, rfl⟩, rfl⟩
    obtain ⟨pc', hpc', heq⟩ := List.mem_map.mp hpc
    simp only [programmed, Prod.mk.injEq] at heq
    obtain ⟨-, -, hallowed, hkeep⟩ := heq
    have hdefault : pc'.keepaliveSeconds = N.defaultPersistentKeepaliveSeconds :=
      keepalive_of_daemonSpecs hN (hacc.peers ▸ hpc')
    refine ⟨?_, pc.podRange, hpod, hacc.per_node pc' hpc' _ (hallowed ▸ hmemRange)⟩
    have hkeepalive := hchecked.keepalive
    rw [← hkeep, hdefault] at hkeepalive
    split at hkeepalive
    · rename_i hzero
      exact .inl hzero
    · exact .inr hkeepalive.symm
  · intro h
    refine ⟨_, validatePlan_daemonSpecs hN hbuilt h, ?_, rfl⟩
    rw [List.map_map]
    refine List.map_congr_left fun pc hpc => ?_
    obtain ⟨spec, hmem, -, hchecked⟩ := hbuilt.exists_spec hpc
    have hkeep := keepalive_of_carried hchecked (h _ hmem)
    simp only [Function.comp_apply, programmed, daemonPeer, hkeep]

end Plan

section Request

variable {cfg : Config} {s : Server} {c : Nat}

lemma mapM_some {α β : Type} {f : α → Option β} {g : α → β} {l : List α}
    (h : ∀ x ∈ l, f x = some (g x)) : l.mapM f = some (l.map g) := by
  induction l with
  | nil => rfl
  | cons x l ih =>
    rw [List.mapM_cons, h x List.mem_cons_self, ih fun y hy => h y (List.mem_cons_of_mem x hy)]
    rfl

lemma applyRequest_eq (cfg : Config) (self : Prefix) (plan : Plan) :
    ∃ args, applyRequest self plan = some args ∧
      args.nodePodCIDR = (if self.isValid then self.string else "") ∧
      ((∀ pc ∈ plan.peers, pc.allowedIPs ≠ []) →
        meshSpecs cfg args.peers = some (plan.peers.map (daemonSpec cfg.netv1))) := by
  have hsent : plan.peers.mapM meshPeerArg = some (plan.peers.map fun pc =>
      ⟨sentKey pc, pc.endpoint, pc.allowedIPs.map Prefix.string⟩) := by
    refine mapM_some fun pc _ => ?_
    rw [meshPeerArg, (sentKey_spec pc).1, Option.map_some]
  refine ⟨_, by rw [applyRequest, hsent, Option.map_some], rfl, fun hne => ?_⟩
  rw [meshSpecs, List.mapM_map]
  refine mapM_some fun pc hpc => ?_
  obtain ⟨a, rest, hcons⟩ := List.exists_cons_of_ne_nil (hne pc hpc)
  cases hparse : parsePrefix a.string <;>
    simp only [Function.comp_apply, daemonSpec, PeerConfig.podRange, hcons, List.map_cons,
      List.headD_cons, hparse]

lemma stage_validate (args : ConfigureMeshArgs) {specs : List MeshPeerSpec} {plan : Plan}
    (hspecs : meshSpecs cfg args.peers = some specs) :
    (validate cfg s c args).stage c = .planned plan ↔
      validatePlan cfg.netv1 s.nodePodCIDR specs = .ok plan ∧
        (∀ r ∈ plan.routes, cfg.clusterAggregate.contains r.ip = true) ∧
        plan.routes.length ≤ cfg.maxPerConn := by
  have hidle : (s.goto c .idle).stage c ≠ .planned plan := by
    rw [Server.stage_goto, if_pos rfl]
    exact Stage.noConfusion
  simp only [validate, hspecs]
  cases hvalid : validatePlan cfg.netv1 s.nodePodCIDR specs with
  | error err => simp
  | ok built =>
    simp only [Except.ok.injEq]
    split
    · rename_i hout
      refine iff_of_false hidle ?_
      rintro ⟨rfl, hin, -⟩
      obtain ⟨r, hr, hnot⟩ := List.any_eq_true.mp hout
      simp [hin r hr] at hnot
    · rename_i hin
      have hall : ∀ r ∈ built.routes, cfg.clusterAggregate.contains r.ip = true := by
        simpa using hin
      rw [Conn.setMeshRoutes]
      split
      · rename_i hover
        split_ifs at hover with hlt
        refine iff_of_false hidle ?_
        rintro ⟨rfl, -, hle⟩
        omega
      · rename_i conn hconn
        split_ifs at hconn with hle
        rw [Server.stage_setConn, if_pos rfl, Stage.planned.injEq]
        exact ⟨fun h => ⟨h, h ▸ hall, h ▸ Nat.not_lt.mp hle⟩, fun h => h.1⟩

lemma run_meshRequest {args : ConfigureMeshArgs} (hresolver : cfg.meshKeyResolver = true)
    (hidle : s.stage c = .idle) (hlocks : s.icMu = none ∧ s.mu = none)
    (hnode : IsNodeRange s.nodePodCIDR)
    (hself : withinAggregate s.nodePodCIDR cfg.clusterAggregate = true)
    (hargs : args.nodePodCIDR = s.nodePodCIDR.string) : ∃ s', s'.nodePodCIDR = s.nodePodCIDR ∧
      (netdMachine cfg).run s (meshRequest c args) = some (validate cfg s' c args) := by
  have hparse := parsePrefix_nodeRange hnode
  have hempty : s.nodePodCIDR.string ≠ "" := by
    intro h
    rw [h] at hparse
    cases hparse
  have hstart : startConfigureMesh cfg args = .adopting s.nodePodCIDR args := by
    simp only [startConfigureMesh, hresolver, Bool.not_true, Bool.false_eq_true, if_false,
      hargs, if_neg hempty, hparse, hnode.masked_eq, hself, if_true]
  let s₁ := s.goto c (.adopting s.nodePodCIDR args)
  let s₂ := { s₁ with identityConfirmed := true }.goto c (.adopted args)
  have hconfigure : step cfg s (.configureMesh c args) = some s₁ := by
    rw [step, if_pos hidle, hstart]
  have hstage₁ : s₁.stage c = .adopting s.nodePodCIDR args := by
    rw [Server.stage_goto, if_pos rfl]
  have hadopt : step cfg s₁ (.adoptCheck c) = some s₂ := by
    have hlocks₁ : s₁.icMu = none ∧ s₁.mu = none := hlocks
    have hidentity : s₁.nodePodCIDR = s.nodePodCIDR := rfl
    simp only [step, hstage₁]
    rw [if_pos hlocks₁, adoptCheck, if_pos hidentity]
  have hstage₂ : s₂.stage c = .adopted args := by
    rw [Server.stage_goto, if_pos rfl]
  have hvalidate : step cfg s₂ (.validate c) = some (validate cfg s₂ c args) := by
    have hmu : s₂.mu = none := hlocks.2
    simp only [step, hstage₂]
    rw [if_pos hmu]
  refine ⟨s₂, rfl, ?_⟩
  change (step cfg s (.configureMesh c args)).bind _ = _
  rw [hconfigure]
  change (step cfg s₁ (.adoptCheck c)).bind _ = _
  rw [hadopt]
  change (step cfg s₂ (.validate c)).bind _ = _
  rw [hvalidate]
  rfl

lemma routes_of_built {specs : List MeshPeerSpec} {plan : Plan} {own : Prefix}
    (hbuilt : Built cfg.netv1 own specs plan)
    (hpods : ∀ raw ∈ specs, ∀ p, podPrefix (readSpec cfg.netv1 raw) = some p →
      withinAggregate p cfg.clusterAggregate = true) (hcap : specs.length < cfg.maxPerConn) :
    (∀ r ∈ plan.routes, cfg.clusterAggregate.contains r.ip = true) ∧
      plan.routes.length ≤ cfg.maxPerConn := by
  constructor
  · intro r hr
    rw [hbuilt.routes, List.mem_insertionSort, mem_routeLoop] at hr
    rcases hr with hnil | ⟨spec, hspec, hpod, -⟩
    · cases hnil
    obtain ⟨⟨spec, pc⟩, hmem, rfl⟩ := List.mem_map.mp hspec
    obtain ⟨raw, hraw, heq, -⟩ := verdict_of_mem_included hmem
    have hwithin := hpods raw hraw r (heq ▸ hpod)
    rw [withinAggregate, Bool.and_eq_true] at hwithin
    exact hwithin.1
  · have hloop := length_routeLoop_le own.masked []
      ((included cfg.netv1 own.masked specs).map Prod.fst)
    have hinc : (included cfg.netv1 own.masked specs).length ≤ specs.length :=
      List.length_filterMap_le _ _
    rw [hbuilt.routes, List.length_insertionSort]
    rw [List.length_map] at hloop
    simp only [List.length_nil] at hloop
    omega

end Request

/-- The daemon builds the plan of the agent from the arguments of the agent's request exactly if
every peer of it is one that arguments carry. -/
theorem helper_applies_agent_plan (cfg : Config) (s : Server) (c : Nat) (specs : List MeshPeerSpec)
    (plan : Plan) (hN : Rereads cfg.netv1) (hresolver : cfg.meshKeyResolver = true)
    (hidle : s.stage c = .idle) (hlocks : s.icMu = none ∧ s.mu = none)
    (hmasked : s.nodePodCIDR.masked = s.nodePodCIDR)
    (hself : withinAggregate s.nodePodCIDR cfg.clusterAggregate = true)
    (hpods : ∀ raw ∈ specs, ∀ p, podPrefix (readSpec cfg.netv1 raw) = some p →
      withinAggregate p cfg.clusterAggregate = true) (hcap : specs.length < cfg.maxPerConn)
    (hplan : buildPlan cfg.netv1 s.nodePodCIDR specs = .ok plan) :
    ∃ args t, applyRequest s.nodePodCIDR plan = some args ∧
      (netdMachine cfg).run s (meshRequest c args) = some t ∧
      ((∃ plan', t.stage c = .planned plan' ∧ SameMesh plan plan') ↔
        ∀ e ∈ included cfg.netv1 s.nodePodCIDR specs, Carried cfg.netv1 e.1) := by
  have hbuilt := buildPlan_ok_iff.mp hplan
  have hnode : IsNodeRange s.nodePodCIDR := hmasked ▸ isNodeRange_masked hbuilt.self_node
  have hvalid : s.nodePodCIDR.isValid = true := by
    obtain ⟨base, -, heq⟩ := hnode
    rw [heq]
    rfl
  obtain ⟨args, hargs, hcidr, hsent⟩ := applyRequest_eq cfg s.nodePodCIDR plan
  rw [if_pos hvalid] at hcidr
  have hspecs := hsent fun pc hpc => by
    obtain ⟨spec, -, hpeer, -⟩ := hbuilt.exists_spec hpc
    exact hpeer.nonempty
  obtain ⟨s', hidentity, hrun⟩ := run_meshRequest hresolver hidle hlocks hnode hself hcidr
  refine ⟨args, _, hargs, hrun, ?_⟩
  have hiff := sameMesh_iff_carried hN hbuilt
  rw [hmasked] at hiff
  rw [← hiff]
  refine exists_congr fun plan' => and_congr_left fun hsame => ?_
  rw [stage_validate args hspecs, hidentity, hsame.2]
  exact and_iff_left (routes_of_built hbuilt hpods hcap)

def helperRun (specs : List MeshPeerSpec) : Option (Plan × Server) :=
  match buildPlan labConfig.netv1 labServer.nodePodCIDR specs with
  | .error _ => none
  | .ok plan => (applyRequest labServer.nodePodCIDR plan).bind fun args =>
    ((netdMachine labConfig).run labServer (meshRequest 1 args)).map fun t => (plan, t)

lemma helperRun_some {specs : List MeshPeerSpec} {plan : Plan} {t : Server}
    (h : helperRun specs = some (plan, t)) :
    buildPlan labConfig.netv1 labServer.nodePodCIDR specs = .ok plan ∧
      ∃ args, applyRequest labServer.nodePodCIDR plan = some args ∧
        (netdMachine labConfig).run labServer (meshRequest 1 args) = some t := by
  rw [helperRun] at h
  split at h
  · cases h
  rename_i built hbuilt
  obtain ⟨args, hargs, hrun⟩ := Option.bind_eq_some_iff.mp h
  obtain ⟨t', ht, heq⟩ := Option.map_eq_some_iff.mp hrun
  cases heq
  exact ⟨hbuilt, args, hargs, ht⟩

lemma rereads_readableNetv1 : Rereads readableNetv1 where
  fills := fun _ _ => .inl rfl
  validates := by
    intro spec d hspec hd
    have hread : Readable spec := by
      by_contra hnot
      simp [readableNetv1, hnot] at hspec
    obtain ⟨p, hpod, hnode, hcidr, -, -, hall⟩ := hd.podCIDR
    obtain ⟨q, -, hq⟩ := Option.map_eq_some_iff.mp hpod
    have hparse : parsePrefix p.string = some p := by
      rw [← hq] at hnode ⊢
      exact parsePrefix_nodeRange (isNodeRange_masked hnode)
    have hd : Readable d := by
      refine ⟨?_, ?_, ?_⟩
      · rw [hd.publicKey]
        exact hread.1
      · rw [hcidr, hparse]
        rfl
      · intro text htext
        rw [hall text htext, hparse]
        rfl
    simp only [readableNetv1, if_pos hd]

theorem helper_applies_agent_plan_pair :
    ∃ plan args t plan', buildPlan labConfig.netv1 labServer.nodePodCIDR
        [nodeSpec "a" keyA "10.42.0.0/24", nodeSpec "b" keyB "10.42.1.0/24"] = .ok plan ∧
      plan.peers.length = 1 ∧ applyRequest labServer.nodePodCIDR plan = some args ∧
      (netdMachine labConfig).run labServer (meshRequest 1 args) = some t ∧
      t.stage 1 = .planned plan' ∧ SameMesh plan plan' := by
  have hrun : (helperRun [nodeSpec "a" keyA "10.42.0.0/24",
      nodeSpec "b" keyB "10.42.1.0/24"]).map (fun r => r.1.peers.length) = some 1 := by
    decide +kernel
  obtain ⟨⟨plan, t⟩, hrun, hlength⟩ := Option.map_eq_some_iff.mp hrun
  obtain ⟨hplan, -⟩ := helperRun_some hrun
  have hpods : ∀ raw ∈ [nodeSpec "a" keyA "10.42.0.0/24", nodeSpec "b" keyB "10.42.1.0/24"],
      ∃ p, podPrefix (readSpec labConfig.netv1 raw) = some p ∧
        withinAggregate p labConfig.clusterAggregate = true := by
    simp only [List.forall_mem_cons, List.not_mem_nil, false_implies, implies_true, and_true]
    exact ⟨⟨Prefix.v4 0x0a2a0000 24, by decide +kernel, by decide⟩,
      ⟨Prefix.v4 0x0a2a0100 24, by decide +kernel, by decide⟩⟩
  have hincluded : (included labConfig.netv1 labServer.nodePodCIDR
      [nodeSpec "a" keyA "10.42.0.0/24", nodeSpec "b" keyB "10.42.1.0/24"]).map Prod.fst =
      [nodeSpec "b" keyB "10.42.1.0/24"] := by decide +kernel
  obtain ⟨args, t, hargs, hmesh, hiff⟩ := helper_applies_agent_plan labConfig labServer 1 _ plan
    rereads_readableNetv1 rfl rfl ⟨rfl, rfl⟩ (by decide) (by decide)
    (by
      intro raw hraw p hp
      obtain ⟨q, hq, hwithin⟩ := hpods raw hraw
      cases hp.symm.trans hq
      exact hwithin)
    (by decide) hplan
  obtain ⟨plan', hstage, hsame⟩ := hiff.mpr fun e he => by
    have hspec : e.1 ∈ [nodeSpec "b" keyB "10.42.1.0/24"] :=
      hincluded ▸ List.mem_map.mpr ⟨e, he, rfl⟩
    rw [List.mem_singleton.mp hspec]
    exact ⟨.inl rfl, Prefix.v4 0x0a2a0100 24, by decide +kernel, by decide⟩
  exact ⟨plan, args, t, plan', hplan, hlength, hargs, hmesh, hstage, hsame⟩

def heldPlan? : Stage → Option Plan
  | .planned plan => some plan
  | _ => none

lemma stage_of_heldPlan? {st : Stage} {plan : Plan} (h : heldPlan? st = some plan) :
    st = .planned plan := by
  cases st with
  | planned plan' => rw [Option.some.inj h]
  | _ => cases h

/-- One peer with a /23 makes the daemon refuse the plan of both peers, and a keepalive of 15
seconds becomes the default on the way. -/
theorem helper_loses_agent_plan : (∃ plan args t, buildPlan labConfig.netv1 labServer.nodePodCIDR
        [nodeSpec "b" keyA "10.42.1.0/24", nodeSpec "c" keyB "10.42.2.0/23"] = .ok plan ∧
      plan.peers.length = 2 ∧ plan.skipped = [] ∧
      applyRequest labServer.nodePodCIDR plan = some args ∧
      (netdMachine labConfig).run labServer (meshRequest 1 args) = some t ∧
      t.stage 1 = .idle) ∧
    ∃ plan args t plan', buildPlan labConfig.netv1 labServer.nodePodCIDR
        [{ nodeSpec "b" keyA "10.42.1.0/24" with persistentKeepaliveSeconds := 15 }] = .ok plan ∧
      plan.peers.map PeerConfig.keepaliveSeconds = [15] ∧
      applyRequest labServer.nodePodCIDR plan = some args ∧
      (netdMachine labConfig).run labServer (meshRequest 1 args) = some t ∧
      t.stage 1 = .planned plan' ∧ plan'.peers.map PeerConfig.keepaliveSeconds = [25] := by
  have hrefused : (helperRun [nodeSpec "b" keyA "10.42.1.0/24",
      nodeSpec "c" keyB "10.42.2.0/23"]).map
        (fun r => (r.1.peers.length, r.1.skipped, r.2.stage 1)) = some (2, [], .idle) := by
    decide +kernel
  have hkeepalive : (helperRun
      [{ nodeSpec "b" keyA "10.42.1.0/24" with persistentKeepaliveSeconds := 15 }]).map
        (fun r => (r.1.peers.map PeerConfig.keepaliveSeconds,
          (heldPlan? (r.2.stage 1)).map fun plan' =>
            plan'.peers.map PeerConfig.keepaliveSeconds)) = some ([15], some [25]) := by
    decide +kernel
  constructor
  · obtain ⟨⟨plan, t⟩, hrun, hfact⟩ := Option.map_eq_some_iff.mp hrefused
    obtain ⟨hplan, args, hargs, hmesh⟩ := helperRun_some hrun
    simp only [Prod.mk.injEq] at hfact
    exact ⟨plan, args, t, hplan, hfact.1, hfact.2.1, hargs, hmesh, hfact.2.2⟩
  · obtain ⟨⟨plan, t⟩, hrun, hfact⟩ := Option.map_eq_some_iff.mp hkeepalive
    obtain ⟨hplan, args, hargs, hmesh⟩ := helperRun_some hrun
    simp only [Prod.mk.injEq] at hfact
    obtain ⟨hagent, hdaemon⟩ := hfact
    obtain ⟨plan', hheld, hkeepalives⟩ := Option.map_eq_some_iff.mp hdaemon
    exact ⟨plan, args, t, plan', hplan, hagent, hargs, hmesh, stage_of_heldPlan? hheld, hkeepalives⟩

end DarwinNet.Netd
