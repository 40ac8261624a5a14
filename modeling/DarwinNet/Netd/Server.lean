import DarwinNet.Lib.Machine
import DarwinNet.Netd.Executor

/-!
The netd daemon (`server.go`, `interconnect.go`): its handlers on any number of
connections, interleaved between the sections of its two locks and its executor calls.

`Stage` says how far the request of a connection is. `s.mu` is held across a step only by an
adoption of a node pod CIDR, which also holds `s.icMu`: it decides, has the executor
re-pointed and writes the identity in three steps. An interconnect verb holds `s.icMu` from
its lock to its end. Responses and the persisted files are left out: nothing reads those back
while the daemon runs.
-/

namespace DarwinNet.Netd

open Lib Netip Podnet
open Mesh (Netv1 MeshPeerSpec Plan validatePlan isNodeCIDR)

/-! ## Configuration and requests -/

/-- What the daemon takes from `netv1alpha1`, which is not part of the repository. -/
structure InterconnectApi where
  slotAddress : Nat → Int → Option Addr
  maxSlot : Int
  maxNodeIndex : Nat
  cidrBits : Nat

/-- The configuration the handlers read; an absent service CIDR is the zero prefix. -/
structure Config where
  netv1 : Netv1
  interconnect : InterconnectApi
  clusterAggregate : Prefix
  serviceCIDR : Prefix
  maxPerConn : Nat
  meshKeyResolver : Bool

structure MeshPeerArg where
  pubKey : String
  endpoint : String
  allowedIPs : List String
  deriving DecidableEq

/-- `ConfigureMeshArgs` without the key reference and the port. -/
structure ConfigureMeshArgs where
  nodePodCIDR : String
  peers : List MeshPeerArg
  deriving DecidableEq

inductive IcVerb
  | ensure
  | remove
  deriving DecidableEq

inductive Stage
  | idle
  /-- `EnsureAlias`: policy passed; aliased by the executor. -/
  | ensuring (ip : Addr)
  | ensured (ip : Addr)
  /-- `RemoveAlias`: policy passed; removed by the executor. -/
  | removing (ip : Addr)
  | removed (ip : Addr)
  /-- `ConfigureMesh`: the adoption, the plan, the key, the executor. -/
  | adopting (want : Prefix) (args : ConfigureMeshArgs)
  | adoptChecked (want : Prefix) (args : ConfigureMeshArgs)
  | adoptSet (want : Prefix) (args : ConfigureMeshArgs)
  | adopted (args : ConfigureMeshArgs)
  | planned (plan : Plan)
  | keyed (plan : Plan)
  | configured (routes : Nat)
  | meshRemoved
  /-- An interconnect verb: target derived, `s.icMu` taken, outcome known, done. -/
  | icTarget (verb : IcVerb) (slot : Int) (addr : Addr)
  | icHeld (verb : IcVerb) (slot : Int) (addr : Addr)
  | icCommit (verb : IcVerb) (slot : Int) (addr : Addr)
  | icDone
  deriving DecidableEq

/-- `connState`, with the stage of the request being served. -/
structure Conn where
  stage : Stage
  aliases : Finset Addr
  routes : Nat

def Conn.new : Conn := ⟨.idle, ∅, 0⟩

/-- `addAlias`: `none` at the cap. -/
def Conn.addAlias (conn : Conn) (max : Nat) (ip : Addr) : Option Conn :=
  if ip ∈ conn.aliases then some conn
  else if max ≤ conn.aliases.card then none
  else some { conn with aliases := insert ip conn.aliases }

def Conn.removeAlias (conn : Conn) (ip : Addr) : Conn :=
  { conn with aliases := conn.aliases.erase ip }

def Conn.setMeshRoutes (conn : Conn) (max n : Nat) : Option Conn :=
  if max < n then none else some { conn with routes := n }

/-! ## The daemon -/

structure Server where
  nodePodCIDR : Prefix
  identityConfirmed : Bool
  aliases : Finset Addr
  icOwned : GoMap Int Addr
  meshRoutes : Nat
  meshUp : Bool
  icMu : Option Nat
  mu : Option Nat
  conns : GoMap Nat Conn
  priv : DarwinApplier
  /-- The addresses this daemon has put on lo0 since it started. -/
  plumbed : Finset Addr

namespace Server

def conn (s : Server) (c : Nat) : Conn := (s.conns.lookup c).getD .new

def stage (s : Server) (c : Nat) : Stage := (s.conn c).stage

def setConn (s : Server) (c : Nat) (conn : Conn) : Server :=
  { s with conns := s.conns.insert c conn }

def goto (s : Server) (c : Nat) (st : Stage) : Server := s.setConn c { s.conn c with stage := st }

def anyStage (s : Server) (p : Stage → Bool) : Bool := s.conns.entries.any fun e => p e.2.stage

def livePodAliases (s : Server) : Nat :=
  (s.aliases.filter fun ip => s.nodePodCIDR.contains ip).card

end Server

/-! ## Policy -/

def isMulticast (ip : Addr) : Bool :=
  match ip.unmap with
  | .v4 a => a >>> 28 == 0xe#32
  | .v6 a _ => a >>> 120 == 0xff#128
  | .zero => false

def isUnspecified : Addr → Bool
  | .v4 a => a == 0#32
  | .v6 a zone => a == 0#128 && zone == ""
  | .zero => false

def validateAliasIP (cfg : Config) (node : Prefix) (ip : Addr) : Bool :=
  if !ip.is4 then false
  else if isMulticast ip || isUnspecified ip then false
  else if cfg.clusterAggregate.contains ip && node.contains ip then true
  else cfg.serviceCIDR.isValid && cfg.serviceCIDR.contains ip

def withinAggregate (cidr aggregate : Prefix) : Bool :=
  aggregate.contains cidr.ip && decide (aggregate.bits ≤ cidr.bits)

/-- `meshSpecs`: `none` for a peer without `AllowedIPs`. -/
def meshSpecs (cfg : Config) (peers : List MeshPeerArg) : Option (List MeshPeerSpec) :=
  peers.mapM fun p =>
    match p.allowedIPs with
    | [] => none
    | podCIDR :: _ =>
      let name := match parsePrefix podCIDR with
        | some pc => pc.masked.string
        | none => podCIDR
      some { nodeName := name, publicKey := p.pubKey, podCIDR := podCIDR
             allowedIPs := p.allowedIPs, endpoint := p.endpoint, endpoints := []
             schemaVersion := cfg.netv1.meshPeerSchemaVersion, persistentKeepaliveSeconds := 0 }

def nodeIndex (clusterCIDR nodeCIDR : Prefix) : Option Nat :=
  if !clusterCIDR.isValid || !nodeCIDR.isValid then none
  else
    let clusterCIDR := clusterCIDR.masked
    let nodeCIDR := nodeCIDR.masked
    if !clusterCIDR.ip.is4 || !nodeCIDR.ip.is4 then none
    else if nodeCIDR.bits ≠ nodeCIDRBits then none
    else if clusterCIDR.bits > nodeCIDRBits || !clusterCIDR.contains nodeCIDR.ip then none
    else some ((as4 nodeCIDR.ip - as4 clusterCIDR.ip) >>> (32 - nodeCIDRBits)).toNat

def interconnectAddress (cfg : Config) (node : Prefix) (slot : Int) : Option Addr :=
  (nodeIndex cfg.clusterAggregate node).bind fun idx => cfg.interconnect.slotAddress idx slot

def interconnectTarget (cfg : Config) (s : Server) (slot : Int) : Option Addr :=
  if slot < 0 ∨ cfg.interconnect.maxSlot < slot then none
  else if !s.identityConfirmed then none
  else match nodeIndex cfg.clusterAggregate s.nodePodCIDR with
    | none => none
    | some idx =>
      if cfg.interconnect.maxNodeIndex < idx then none
      else cfg.interconnect.slotAddress idx slot

lemma interconnectAddress_of_target {cfg : Config} {s : Server} {slot : Int} {addr : Addr}
    (h : interconnectTarget cfg s slot = some addr) :
    interconnectAddress cfg s.nodePodCIDR slot = some addr := by
  unfold interconnectTarget at h
  (repeat' split at h) <;> try cases h
  next hidx _ => rw [interconnectAddress, hidx, Option.bind_some, h]

/-! ## Interconnect verbs -/

inductive BridgeRead
  | addrs (present : List (Addr × Int))
  | noBridge
  | unreadable

structure IcOutcomes where
  read : BridgeRead := .addrs []
  remove : Option String := none
  add : Option String := none
  reread : BridgeRead := .addrs []

def interconnectBits (cfg : Config) (slot : Int) : Int :=
  if slot = 0 then cfg.interconnect.cidrBits else 32

/-- The calls of `handleEnsureInterconnectAlias` under `s.icMu`; true if the slot is owned
then. -/
def ensureInterconnect (cfg : Config) (o : IcOutcomes) (slot : Int) (addr : Addr) : Bool :=
  match o.read with
  | .noBridge | .unreadable => false
  | .addrs present =>
    match present.lookup addr with
    | none => o.add.isNone
    | some have_ =>
      if slot = 0 ∧ have_ ≠ interconnectBits cfg slot then o.remove.isNone && o.add.isNone
      else true

def bridgeHas (r : BridgeRead) (addr : Addr) : Option Bool :=
  match r with
  | .addrs present => some (present.lookup addr).isSome
  | .noBridge => some false
  | .unreadable => none

/-- The calls of `handleRemoveInterconnectAlias` under `s.icMu`; true if ownership is
dropped. -/
def removeInterconnect (s : Server) (o : IcOutcomes) (slot : Int) (addr : Addr) : Bool :=
  if s.icOwned.lookup slot ≠ some addr then false
  else if slot = 0 ∧ s.icOwned.keys.any (fun slot => slot ≠ 0) then false
  else match bridgeHas o.read addr with
    | none => false
    | some false => true
    | some true =>
      match o.remove with
      | none => true
      | some _ =>
        match bridgeHas o.reread addr with
        | some false => true
        | _ => false

inductive Label
  | ensureAlias (c : Nat) (ip : String)
  | ensureExec (c : Nat) (o : Outcomes)
  | trackAlias (c : Nat)
  | removeAlias (c : Nat) (ip : String)
  | removeExec (c : Nat) (o : Outcomes)
  | untrackAlias (c : Nat)
  | configureMesh (c : Nat) (args : ConfigureMeshArgs)
  | adoptCheck (c : Nat)
  | adoptExec (c : Nat) (o : MeshOutcomes)
  | adoptWrite (c : Nat)
  | validate (c : Nat)
  | resolveKey (c : Nat) (err : Option String)
  | configureExec (c : Nat) (o : MeshOutcomes)
  | trackMesh (c : Nat)
  | removeMesh (c : Nat) (o : MeshOutcomes)
  | untrackMesh (c : Nat)
  | icRequest (c : Nat) (verb : IcVerb) (slot : Int)
  | icLock (c : Nat)
  | icExec (c : Nat) (o : IcOutcomes)
  | icCommit (c : Nat)
  | icUnlock (c : Nat)

section Handlers

variable (cfg : Config) (s : Server) (c : Nat)

/-- `handleConfigureMesh` up to the locks of the adoption: the stage it goes on in. -/
def startConfigureMesh (args : ConfigureMeshArgs) : Stage :=
  if !cfg.meshKeyResolver then .idle
  else if args.nodePodCIDR = "" then .adopted args
  else match parsePrefix args.nodePodCIDR with
    | none => .idle
    | some want =>
      if withinAggregate want.masked cfg.clusterAggregate then .adopting want.masked args
      else .idle

/-- `adoptNodePodCIDR` under its locks, up to the executor call. -/
def adoptCheck (want : Prefix) (args : ConfigureMeshArgs) : Server :=
  if s.nodePodCIDR = want then { s with identityConfirmed := true }.goto c (.adopted args)
  else if 0 < s.livePodAliases ∨ 0 < s.meshRoutes ∨ s.meshUp ∨ 0 < s.icOwned.size then
    s.goto c .idle
  else { s with icMu := some c, mu := some c }.goto c (.adoptChecked want args)

/-- The executor call of the adoption; a refusal releases the locks. -/
def adoptExec (o : MeshOutcomes) (want : Prefix) (args : ConfigureMeshArgs) : Server :=
  match s.priv.setNodePodCIDR o want with
  | (priv, some _) => { s with priv := priv, icMu := none, mu := none }.goto c .idle
  | (priv, none) => { s with priv := priv }.goto c (.adoptSet want args)

def adoptWrite (want : Prefix) (args : ConfigureMeshArgs) : Server :=
  { s with nodePodCIDR := want, identityConfirmed := true, icMu := none, mu := none }.goto c
    (.adopted args)

def validate (args : ConfigureMeshArgs) : Server :=
  match meshSpecs cfg args.peers with
  | none => s.goto c .idle
  | some specs =>
    match validatePlan cfg.netv1 s.nodePodCIDR specs with
    | .error _ => s.goto c .idle
    | .ok plan =>
      if plan.routes.any fun r => !cfg.clusterAggregate.contains r.ip then s.goto c .idle
      else match (s.conn c).setMeshRoutes cfg.maxPerConn plan.routes.length with
        | none => s.goto c .idle
        | some conn => s.setConn c { conn with stage := .planned plan }

def ensureExec (o : Outcomes) (ip : Addr) : Server :=
  let s' := { s with
    priv := (s.priv.ensureAlias o ip).1
    plumbed := if s.priv.plumbs o ip then insert ip s.plumbed else s.plumbed }
  match (s.priv.ensureAlias o ip).2 with
  | some _ => s'.setConn c { (s.conn c).removeAlias ip with stage := .idle }
  | none => s'.goto c (.ensured ip)

def removeExec (o : Outcomes) (ip : Addr) : Server :=
  let s' := { s with priv := (s.priv.removeAlias o ip).1 }
  match (s.priv.removeAlias o ip).2 with
  | some _ => s'.goto c .idle
  | none => s'.setConn c { (s.conn c).removeAlias ip with stage := .removed ip }

def icResult (o : IcOutcomes) (verb : IcVerb) (slot : Int) (addr : Addr) : Bool :=
  match verb with
  | .ensure => ensureInterconnect cfg o slot addr
  | .remove => removeInterconnect s o slot addr

end Handlers

/-- A step: `none` where the label does not fit the stage or a lock is not free. -/
def step (cfg : Config) (s : Server) : Label → Option Server
  | .ensureAlias c text =>
    if s.stage c = .idle ∧ s.mu = none then
      match parseAddr text with
      | none => some s
      | some ip =>
        if !validateAliasIP cfg s.nodePodCIDR ip then some s
        else match (s.conn c).addAlias cfg.maxPerConn ip with
          | none => some s
          | some conn => some (s.setConn c { conn with stage := .ensuring ip })
    else none
  | .ensureExec c o =>
    match s.stage c with
    | .ensuring ip => some (ensureExec s c o ip)
    | _ => none
  | .trackAlias c =>
    match s.stage c with
    | .ensured ip =>
      if s.mu = none then some ({ s with aliases := insert ip s.aliases }.goto c .idle) else none
    | _ => none
  | .removeAlias c text =>
    if s.stage c = .idle ∧ s.mu = none then
      match parseAddr text with
      | none => some s
      | some ip =>
        if !validateAliasIP cfg s.nodePodCIDR ip then some s
        else some (s.goto c (.removing ip))
    else none
  | .removeExec c o =>
    match s.stage c with
    | .removing ip => some (removeExec s c o ip)
    | _ => none
  | .untrackAlias c =>
    match s.stage c with
    | .removed ip =>
      if s.mu = none then some ({ s with aliases := s.aliases.erase ip }.goto c .idle) else none
    | _ => none
  | .configureMesh c args =>
    if s.stage c = .idle then some (s.goto c (startConfigureMesh cfg args)) else none
  | .adoptCheck c =>
    match s.stage c with
    | .adopting want args =>
      if s.icMu = none ∧ s.mu = none then some (adoptCheck s c want args) else none
    | _ => none
  | .adoptExec c o =>
    match s.stage c with
    | .adoptChecked want args => some (adoptExec s c o want args)
    | _ => none
  | .adoptWrite c =>
    match s.stage c with
    | .adoptSet want args => some (adoptWrite s c want args)
    | _ => none
  | .validate c =>
    match s.stage c with
    | .adopted args => if s.mu = none then some (validate cfg s c args) else none
    | _ => none
  | .resolveKey c err =>
    match s.stage c with
    | .planned plan => some (s.goto c (if err.isSome then .idle else .keyed plan))
    | _ => none
  | .configureExec c o =>
    match s.stage c with
    | .keyed plan =>
      match s.priv.configureMesh o with
      | (priv, some _) => some ({ s with priv := priv }.goto c .idle)
      | (priv, none) => some ({ s with priv := priv }.goto c (.configured plan.routes.length))
    | _ => none
  | .trackMesh c =>
    match s.stage c with
    | .configured n =>
      if s.mu = none then some ({ s with meshUp := true, meshRoutes := n }.goto c .idle) else none
    | _ => none
  | .removeMesh c o =>
    if s.stage c = .idle then
      match s.priv.removeMesh o with
      | (priv, some _) => some ({ s with priv := priv }.goto c .idle)
      | (priv, none) => some ({ s with priv := priv }.goto c .meshRemoved)
    else none
  | .untrackMesh c =>
    match s.stage c with
    | .meshRemoved =>
      if s.mu = none then some ({ s with meshUp := false, meshRoutes := 0 }.goto c .idle) else none
    | _ => none
  | .icRequest c verb slot =>
    if s.stage c = .idle ∧ s.mu = none then
      match interconnectTarget cfg s slot with
      | none => some s
      | some addr => some (s.goto c (.icTarget verb slot addr))
    else none
  | .icLock c =>
    match s.stage c with
    | .icTarget verb slot addr =>
      if s.icMu = none then some ({ s with icMu := some c }.goto c (.icHeld verb slot addr))
      else none
    | _ => none
  | .icExec c o =>
    match s.stage c with
    | .icHeld verb slot addr =>
      if s.mu = none then
        some (s.goto c (if icResult cfg s o verb slot addr then .icCommit verb slot addr
          else .icDone))
      else none
    | _ => none
  | .icCommit c =>
    match s.stage c with
    | .icCommit .ensure slot addr =>
      if s.mu = none then some ({ s with icOwned := s.icOwned.insert slot addr }.goto c .icDone)
      else none
    | .icCommit .remove slot _ =>
      if s.mu = none then some ({ s with icOwned := s.icOwned.erase slot }.goto c .icDone)
      else none
    | _ => none
  | .icUnlock c =>
    match s.stage c with
    | .icDone => some ({ s with icMu := none }.goto c .idle)
    | _ => none

/-- The daemon right after `NewServer`: no connection, nothing recorded but the restored
interconnect entries, which are those of the identity; the executor has that identity. -/
structure Started (cfg : Config) (s : Server) : Prop where
  conns : s.conns = ∅
  aliases : s.aliases = ∅
  plumbed : s.plumbed = ∅
  mesh : s.meshUp = false ∧ s.meshRoutes = 0
  locks : s.icMu = none ∧ s.mu = none
  masked : s.nodePodCIDR.masked = s.nodePodCIDR
  priv : s.priv.nodePodCIDR = s.nodePodCIDR ∧ s.priv.aliased = ∅ ∧ s.priv.dev = none ∧
    s.priv.meshUp = false
  icOwned : ∀ slot addr, s.icOwned.lookup slot = some addr →
    interconnectAddress cfg s.nodePodCIDR slot = some addr

def netdMachine (cfg : Config) : Machine Server Label where
  init := Started cfg
  step := step cfg

end DarwinNet.Netd
