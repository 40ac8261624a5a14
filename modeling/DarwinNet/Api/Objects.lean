import DarwinNet.Lib.GoMap
import DarwinNet.Netip.Addr

/-!
The API objects the Service proxy reads, with the fields it reads. Names are
as the API server admits them: an object has a non-empty name, and neither a
namespace nor a name holds a slash, so the pair `ObjectKey` carries what the
program's string `namespace/name` does.

`Netv1` stands for the shared module of contract types, which is not part of
the repository: its validation and defaulting are parameters of the model.
-/

namespace DarwinNet.Api

open Lib

@[ext]
structure ObjectKey where
  ns : String
  name : String
  deriving DecidableEq, Repr

inductive IntOrString
  | int (v : Int)
  | string (s : String)
  deriving DecidableEq, Repr

/-- `strconv.Atoi` with its error dropped: 0 where the text is no number. -/
def atoi (s : String) : Int :=
  let digits (l : List Char) : Int :=
    if l ≠ [] ∧ l.all Char.isDigit then
      (Netip.ofDigits 10 (l.map fun c => c.toNat - '0'.toNat) : Nat) else 0
  match s.toList with
  | '-' :: l => - digits l
  | '+' :: l => digits l
  | l => digits l

def IntOrString.intValue : IntOrString → Int
  | .int v => v
  | .string s => atoi s

def toInt32 (v : Int) : Int := v.bmod (2 ^ 32)

/-! ## Services -/

/-- `corev1.Protocol`, converted unchanged to `netv1.Protocol`. -/
inductive Protocol
  | unset
  | TCP
  | UDP
  | SCTP
  deriving DecidableEq, Repr

def Protocol.string : Protocol → String
  | .unset => ""
  | .TCP => "TCP"
  | .UDP => "UDP"
  | .SCTP => "SCTP"

inductive ServiceType
  | clusterIP
  | nodePort
  | loadBalancer
  | externalName
  deriving DecidableEq, Repr

inductive ServiceAffinity
  | none
  | clientIP
  deriving DecidableEq, Repr

structure ClientIPConfig where
  timeoutSeconds : Option Int
  deriving DecidableEq, Repr

structure SessionAffinityConfig where
  clientIP : Option ClientIPConfig
  deriving DecidableEq, Repr

inductive ServiceInternalTrafficPolicy
  | clusterPolicy
  | localPolicy
  deriving DecidableEq, Repr

inductive ServiceExternalTrafficPolicy
  | unset
  | clusterPolicy
  | localPolicy
  deriving DecidableEq, Repr

structure ServicePortSpec where
  name : String
  port : Int
  targetPort : IntOrString
  protocol : Protocol
  nodePort : Int
  deriving DecidableEq, Repr

structure ServiceSpec where
  type : ServiceType
  clusterIP : String
  ports : List ServicePortSpec
  sessionAffinity : ServiceAffinity
  sessionAffinityConfig : Option SessionAffinityConfig
  internalTrafficPolicy : Option ServiceInternalTrafficPolicy
  externalTrafficPolicy : ServiceExternalTrafficPolicy
  deriving DecidableEq, Repr

structure Service where
  key : ObjectKey
  named : key.name ≠ ""
  resourceVersion : String
  spec : ServiceSpec
  deriving DecidableEq, Repr

/-- A ClusterIP Service with TCP ports of these numbers, each named after its
number, and every other field at its default. -/
def ServiceSpec.tcp (clusterIP : String) (ports : List Int) : ServiceSpec where
  type := .clusterIP
  clusterIP
  ports := ports.map fun n => ⟨toString n, n, .int 0, .TCP, 0⟩
  sessionAffinity := .none
  sessionAffinityConfig := none
  internalTrafficPolicy := none
  externalTrafficPolicy := .unset

/-! ## EndpointSlices -/

def labelServiceName : String := "kubernetes.io/service-name"

inductive AddressType
  | ipv4
  | ipv6
  | fqdn
  deriving DecidableEq, Repr

structure EndpointPort where
  name : Option String
  port : Option Int
  deriving DecidableEq, Repr

/-- `discoveryv1.Endpoint`. -/
structure SliceEndpoint where
  addresses : List String
  ready : Option Bool
  deriving DecidableEq, Repr

structure EndpointSlice where
  key : ObjectKey
  resourceVersion : String
  labels : GoMap String String
  addressType : AddressType
  ports : List EndpointPort
  endpoints : List SliceEndpoint
  deriving DecidableEq

/-- `sl.Labels[discoveryv1.LabelServiceName]`, empty when absent. -/
def EndpointSlice.serviceName (sl : EndpointSlice) : String :=
  (sl.labels.lookup labelServiceName).getD ""

def EndpointSlice.owner (sl : EndpointSlice) : ObjectKey := ⟨sl.key.ns, sl.serviceName⟩

/-- One ready endpoint for a named port of the Service `owner`. -/
def EndpointSlice.single (key owner : ObjectKey) (portName : String) (port : Int)
    (addr : String) : EndpointSlice where
  key
  resourceVersion := ""
  labels := (∅ : GoMap String String).insert labelServiceName owner.name
  addressType := .ipv4
  ports := [⟨some portName, some port⟩]
  endpoints := [⟨[addr], some true⟩]

/-! ## Contract types -/

structure ServicePort where
  name : String
  port : Int
  targetPort : Int
  protocol : Protocol
  nodePort : Int
  deriving DecidableEq, Repr

structure ServiceVIP where
  ns : String
  name : String
  clusterIP : String
  ports : List ServicePort
  deriving DecidableEq, Repr

structure Endpoint where
  ip : String
  port : Int
  ready : Bool
  deriving DecidableEq, Repr

/-- The functions of the contract module the proxy calls: `Protocol.Valid`,
`ServiceVIP.WithDefaults` and whether `Endpoint.Validate` returns nil. -/
structure Netv1 where
  valid : Protocol → Bool
  withDefaults : ServiceVIP → ServiceVIP
  validate : Endpoint → Bool

/-- What the proxy relies on in the contract module: the empty protocol is not a
valid one, and defaulting fills unset fields only, so a VIP keeps its address
and each of its ports keeps its name, its number, its protocol if it has one,
and its node port. -/
structure Netv1.Lawful (api : Netv1) : Prop where
  valid_set : ∀ p, api.valid p = true → p ≠ .unset
  clusterIP : ∀ v, (api.withDefaults v).clusterIP = v.clusterIP
  ports : ∀ v, List.Forall₂ (fun p q => q.name = p.name ∧ q.port = p.port ∧
    (p.protocol ≠ .unset → q.protocol = p.protocol) ∧ q.nodePort = p.nodePort)
    v.ports (api.withDefaults v).ports

/-- The contract module as its callers describe it: TCP and UDP are proxied, an
unset protocol defaults to TCP, an endpoint needs an address and a port in
range. -/
def Netv1.standard : Netv1 where
  valid p := p = .TCP ∨ p = .UDP
  withDefaults v := { v with ports := v.ports.map fun p =>
    if p.protocol = .unset then { p with protocol := .TCP } else p }
  validate ep := ep.ip ≠ "" ∧ 1 ≤ ep.port ∧ ep.port ≤ 65535

lemma Netv1.standard_lawful : Netv1.standard.Lawful where
  valid_set p h := by rintro rfl; simp [standard] at h
  clusterIP v := rfl
  ports v := by
    rw [standard, List.forall₂_map_right_iff, List.forall₂_same]
    intro p _
    by_cases hp : p.protocol = .unset
    · simp [hp]
    · simp [hp]

end DarwinNet.Api
