import DarwinNet.Netip.Prefix

/-!
The mesh plan (`plan.go`): from the specs of the mesh peers to the wireguard peer
set and the kernel routes.

`netv1` is not part of the repository: what the plan uses of it, the defaulting and
validation of a spec and the schema version, is the parameter `Netv1`.
-/

namespace DarwinNet.Mesh

open Netip

/-! ## Keys -/

def base64Value? (c : Char) : Option Nat :=
  if 'A' ≤ c ∧ c ≤ 'Z' then some (c.toNat - 'A'.toNat)
  else if 'a' ≤ c ∧ c ≤ 'z' then some (c.toNat - 'a'.toNat + 26)
  else if '0' ≤ c ∧ c ≤ '9' then some (c.toNat - '0'.toNat + 52)
  else if c = '+' then some 62
  else if c = '/' then some 63
  else none

/-- Quanta of four characters, the last one possibly padded. -/
def decodeQuanta : List Char → Option (List Nat)
  | [] => some []
  | [a, b, '=', '='] => do
    let a ← base64Value? a
    let b ← base64Value? b
    some [a * 4 + b / 16]
  | [a, b, c, '='] => do
    let a ← base64Value? a
    let b ← base64Value? b
    let c ← base64Value? c
    some [a * 4 + b / 16, b % 16 * 16 + c / 4]
  | a :: b :: c :: d :: rest => do
    let a ← base64Value? a
    let b ← base64Value? b
    let c ← base64Value? c
    let d ← base64Value? d
    let bytes ← decodeQuanta rest
    some ([a * 4 + b / 16, b % 16 * 16 + c / 4, c % 4 * 64 + d] ++ bytes)
  | _ => none

/-- `base64.StdEncoding.DecodeString`; line breaks are ignored. -/
def decodeBase64 (s : String) : Option (List Nat) :=
  decodeQuanta (s.toList.filter fun c => c ≠ '\n' ∧ c ≠ '\r')

def hexDigits (bytes : List Nat) : List Char :=
  bytes.flatMap fun b => [(b / 16 % 16).digitChar, (b % 16).digitChar]

def wgKeyBytes : Nat := 32

/-- A wireguard key in hexadecimal: 64 lower-case digits. -/
structure WgKey where
  digits : List Char
  length_eq : digits.length = 2 * wgKeyBytes
  isHex : ∀ c ∈ digits, c ∈ "0123456789abcdef".toList
  deriving DecidableEq

lemma mem_hexDigits {bytes : List Nat} {c : Char} (h : c ∈ hexDigits bytes) :
    c ∈ "0123456789abcdef".toList := by
  have hdigit : ∀ n < 16, n.digitChar ∈ "0123456789abcdef".toList := by decide
  obtain ⟨b, -, hc⟩ := List.mem_flatMap.mp h
  rcases List.mem_pair.mp hc with rfl | rfl
  · exact hdigit _ (Nat.mod_lt _ (by omega))
  · exact hdigit _ (Nat.mod_lt _ (by omega))

lemma length_hexDigits (bytes : List Nat) : (hexDigits bytes).length = 2 * bytes.length := by
  induction bytes with
  | nil => rfl
  | cons b bytes ih =>
    have hcons : hexDigits (b :: bytes) =
        (b / 16 % 16).digitChar :: (b % 16).digitChar :: hexDigits bytes := rfl
    rw [hcons, List.length_cons, List.length_cons, ih, List.length_cons]
    omega

def wgKeyHex (b64 : String) : Option WgKey :=
  match decodeBase64 b64 with
  | none => none
  | some raw =>
    if h : raw.length = wgKeyBytes then
      some ⟨hexDigits raw, by rw [length_hexDigits, h], fun _ hc => mem_hexDigits hc⟩
    else none

/-! ## Specs and plans -/

def nodeCIDRBits : Nat := 24

/-- `EndpointCandidate.Link`; `other` is a kind this reader does not know. -/
inductive EndpointLink
  | underlay
  | direct
  | other (link : String)
  deriving DecidableEq, Repr

structure EndpointCandidate where
  address : String
  link : EndpointLink
  deriving DecidableEq, Repr

structure MeshPeerSpec where
  nodeName : String
  publicKey : String
  podCIDR : String
  allowedIPs : List String
  endpoint : String
  endpoints : List EndpointCandidate
  schemaVersion : Int
  persistentKeepaliveSeconds : Int
  deriving DecidableEq, Repr

/-- What the plan takes from `netv1`; `validate` is the error of a spec, if any. -/
structure Netv1 where
  withDefaults : MeshPeerSpec → MeshPeerSpec
  validate : MeshPeerSpec → Option String
  meshPeerSchemaVersion : Int
  defaultPersistentKeepaliveSeconds : Int

structure PeerConfig where
  nodeName : String
  publicKeyHex : WgKey
  endpoint : String
  allowedIPs : List Prefix
  keepaliveSeconds : Int
  deriving DecidableEq

inductive SkipReason
  | invalid (err : String)
  | schemaVersion (got want : Int)
  | podCIDR (text : String)
  | noAllowedIPs (want : Prefix)
  | allowedIP (text : String)
  | allowedIPMismatch (got want : Prefix)
  | publicKey
  deriving DecidableEq

structure PeerSkip where
  nodeName : String
  podCIDR : String
  reason : SkipReason
  deriving DecidableEq

structure Plan where
  peers : List PeerConfig
  routes : List Prefix
  skipped : List PeerSkip
  deriving DecidableEq

inductive PlanError
  | selfCIDR (got : Prefix)
  | peerConfig (skip : PeerSkip)
  | notPerNode (nodeName : String) (allowed : Prefix)
  deriving DecidableEq

/-! ## Building a plan -/

def equalCIDR (a b : Prefix) : Bool := a.masked = b.masked

def isNodeCIDR (p : Prefix) : Bool := p.ip.is4 && p.bits == nodeCIDRBits

/-- The loop of `RouteSet`; what was seen is what is in `out`. -/
def routeLoop (self : Prefix) : List Prefix → List MeshPeerSpec → List Prefix
  | out, [] => out
  | out, p :: ps =>
    match parsePrefix p.podCIDR with
    | none => routeLoop self out ps
    | some c =>
      if !isNodeCIDR c.masked then routeLoop self out ps
      else if c.masked.overlaps self then routeLoop self out ps
      else if c.masked ∈ out then routeLoop self out ps
      else routeLoop self (out ++ [c.masked]) ps

def routeSet (self : Prefix) (peers : List MeshPeerSpec) : Except PlanError (List Prefix) :=
  if !isNodeCIDR self.masked then .error (.selfCIDR self.masked)
  else .ok ((routeLoop self.masked [] peers).insertionSort fun a b => b.ip.less a.ip = false)

def matchLoop (pc : Prefix) : List String → Option SkipReason
  | [] => none
  | s :: ss =>
    match parsePrefix s with
    | none => some (.allowedIP s)
    | some a => if a.masked ≠ pc then some (.allowedIPMismatch a.masked pc) else matchLoop pc ss

def allowedIPsMatchCIDR (spec : MeshPeerSpec) : Option SkipReason :=
  match parsePrefix spec.podCIDR with
  | none => some (.podCIDR spec.podCIDR)
  | some pc =>
    if spec.allowedIPs = [] then some (.noAllowedIPs pc.masked)
    else matchLoop pc.masked spec.allowedIPs

def parseAllowed : List String → Except SkipReason (List Prefix)
  | [] => .ok []
  | s :: ss =>
    match parsePrefix s with
    | none => .error (.allowedIP s)
    | some a =>
      match parseAllowed ss with
      | .error err => .error err
      | .ok allowed => .ok (a.masked :: allowed)

def peerConfigFromSpec (N : Netv1) (spec : MeshPeerSpec) : Except SkipReason PeerConfig :=
  match wgKeyHex spec.publicKey with
  | none => .error .publicKey
  | some key =>
    match parseAllowed spec.allowedIPs with
    | .error err => .error err
    | .ok allowed =>
      .ok ⟨spec.nodeName, key, spec.endpoint, allowed,
        if spec.persistentKeepaliveSeconds = 0 then N.defaultPersistentKeepaliveSeconds
        else spec.persistentKeepaliveSeconds⟩

/-- Candidates with an unknown link are dropped. -/
def knownCandidates (spec : MeshPeerSpec) : MeshPeerSpec :=
  { spec with endpoints := spec.endpoints.filter fun c => c.link = .underlay ∨ c.link = .direct }

def selectEndpoint (spec : MeshPeerSpec) : String :=
  match spec.endpoints.find? fun c => c.link = .underlay with
  | some c => c.address
  | none => spec.endpoint

inductive PeerVerdict
  | own
  | skip (s : PeerSkip)
  | peer (spec : MeshPeerSpec) (pc : PeerConfig)

section Build

variable (N : Netv1)

def readSpec (raw : MeshPeerSpec) : MeshPeerSpec := knownCandidates (N.withDefaults raw)

/-- The body of the loop of `BuildPlan`. -/
def verdict (self : Prefix) (raw : MeshPeerSpec) : PeerVerdict :=
  let spec := readSpec N raw
  let skip := fun reason => PeerVerdict.skip ⟨spec.nodeName, spec.podCIDR, reason⟩
  match N.validate spec with
  | some err => skip (.invalid err)
  | none =>
    if spec.schemaVersion ≠ N.meshPeerSchemaVersion then
      skip (.schemaVersion spec.schemaVersion N.meshPeerSchemaVersion)
    else match parsePrefix spec.podCIDR with
      | none => skip (.podCIDR spec.podCIDR)
      | some peerCIDR =>
        if equalCIDR peerCIDR.masked self then .own
        else match allowedIPsMatchCIDR spec with
          | some reason => skip reason
          | none =>
            match peerConfigFromSpec N spec with
            | .error reason => skip reason
            | .ok pc => .peer spec { pc with endpoint := selectEndpoint spec }

def included (self : Prefix) (peers : List MeshPeerSpec) : List (MeshPeerSpec × PeerConfig) :=
  peers.filterMap fun raw =>
    match verdict N self raw with
    | .peer spec pc => some (spec, pc)
    | _ => none

def skippedPeers (self : Prefix) (peers : List MeshPeerSpec) : List PeerSkip :=
  peers.filterMap fun raw =>
    match verdict N self raw with
    | .skip s => some s
    | _ => none

def buildPlan (self : Prefix) (peers : List MeshPeerSpec) : Except PlanError Plan :=
  if !isNodeCIDR self.masked then .error (.selfCIDR self.masked)
  else
    let inc := included N self.masked peers
    match routeSet self.masked (inc.map Prod.fst) with
    | .error err => .error err
    | .ok routes => .ok ⟨inc.map Prod.snd, routes, skippedPeers N self.masked peers⟩

/-- The first `AllowedIPs` entry that is not an IPv4 /24, with its peer. -/
def notPerNode (plan : Plan) : Option (String × Prefix) :=
  (plan.peers.flatMap fun pc => pc.allowedIPs.map fun a => (pc.nodeName, a)).find?
    fun e => !isNodeCIDR e.2

def validatePlan (self : Prefix) (peers : List MeshPeerSpec) : Except PlanError Plan :=
  match buildPlan N self peers with
  | .error err => .error err
  | .ok plan =>
    match plan.skipped with
    | s :: _ => .error (.peerConfig s)
    | [] =>
      match notPerNode plan with
      | some (nodeName, a) => .error (.notPerNode nodeName a)
      | none => .ok plan

end Build

end DarwinNet.Mesh
