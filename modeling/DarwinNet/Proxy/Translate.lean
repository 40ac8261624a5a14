import DarwinNet.Api.Objects

/-!
Translation of Services and EndpointSlices to what the proxy serves
(`translate.go`): `serviceToVIP` decides whether and how a Service is served,
`endpointsForPort` finds a Service port's endpoints in the slices.

The routing-table keys of a Service are `servedKeys`; with a lawful contract
module they are also the keys its deletion names (`deletedKeys_eq`), and they
all carry the Service's own ClusterIP (`clusterIP_of_mem_servedKeys`).
-/

namespace DarwinNet.Proxy

open Api

inductive TrafficPolicy
  | trafficCluster
  | trafficLocal
  deriving DecidableEq, Repr

def TrafficPolicy.string : TrafficPolicy → String
  | .trafficCluster => "Cluster"
  | .trafficLocal => "Local"

inductive AffinityMode
  | affinityNone
  | affinityClientIP
  deriving DecidableEq, Repr

structure AffinityConfig where
  mode : AffinityMode
  timeout : Int
  deriving DecidableEq, Repr

def second : Int := 1000000000

def affinityDefaultTimeout : Int := 3 * 3600 * second

structure PortKey where
  clusterIP : String
  port : Int
  protocol : Protocol
  deriving DecidableEq, Repr

def defaultProto (p : Protocol) : Protocol := if p = .unset then .TCP else p

/-- The timeout falls back to the default unless every step of the nested
configuration is present and the value is positive. -/
def sessionAffinity (spec : ServiceSpec) : AffinityConfig :=
  if spec.sessionAffinity ≠ .clientIP then ⟨.affinityNone, 0⟩
  else
    let secs := do
      let c ← spec.sessionAffinityConfig
      let ip ← c.clientIP
      ip.timeoutSeconds
    match secs with
    | some s => ⟨.affinityClientIP, if s > 0 then s * second else affinityDefaultTimeout⟩
    | none => ⟨.affinityClientIP, affinityDefaultTimeout⟩

def internalPolicy (p : Option ServiceInternalTrafficPolicy) : TrafficPolicy :=
  if p = some .localPolicy then .trafficLocal else .trafficCluster

structure ServedVIP where
  vip : ServiceVIP
  policy : TrafficPolicy
  affinity : AffinityConfig
  externalLocalUnhonored : Bool
  deriving DecidableEq, Repr

section

variable (api : Netv1) {svc : Service} {v : ServedVIP}

/-- The ports of a Service the proxy serves: an unset protocol is TCP, a port
whose protocol is not valid is skipped. -/
def vipPorts (spec : ServiceSpec) : List ServicePort :=
  spec.ports.filterMap fun p =>
    let proto := if p.protocol = .unset then .TCP else p.protocol
    if api.valid proto then
      some ⟨p.name, p.port, toInt32 p.targetPort.intValue, proto, p.nodePort⟩
    else none

/-- `none` for a Service the proxy does not serve: ExternalName, headless, or
without a port it can serve. -/
def serviceToVIP (svc : Service) : Option ServedVIP :=
  if svc.spec.type = .externalName then none
  else if svc.spec.clusterIP = "" ∨ svc.spec.clusterIP = "None" then none
  else if svc.spec.ports = [] then none
  else
    let out : ServiceVIP := ⟨svc.key.ns, svc.key.name, svc.spec.clusterIP, vipPorts api svc.spec⟩
    if out.ports = [] then none
    else
      let hasNodePort := out.ports.any fun p => p.nodePort ≠ 0
      some
        { vip := api.withDefaults out
          policy := internalPolicy svc.spec.internalTrafficPolicy
          affinity := sessionAffinity svc.spec
          externalLocalUnhonored :=
            hasNodePort && svc.spec.externalTrafficPolicy = .localPolicy }

def reconcileKey (vip : ServiceVIP) (p : ServicePort) : PortKey :=
  ⟨vip.clusterIP, p.port, defaultProto p.protocol⟩

/-- The key under which a port of the VIP is deleted: no protocol default. -/
def deleteKey (vip : ServiceVIP) (p : ServicePort) : PortKey :=
  ⟨vip.clusterIP, p.port, p.protocol⟩

def servedKeys (svc : Service) : List PortKey :=
  match serviceToVIP api svc with
  | none => []
  | some v => v.vip.ports.map (reconcileKey v.vip)

def deletedKeys (svc : Service) : List PortKey :=
  match serviceToVIP api svc with
  | none => []
  | some v => v.vip.ports.map (deleteKey v.vip)

lemma serviceToVIP_some (h : serviceToVIP api svc = some v) :
    v.vip = api.withDefaults ⟨svc.key.ns, svc.key.name, svc.spec.clusterIP,
      vipPorts api svc.spec⟩ := by
  unfold serviceToVIP at h
  split at h
  · cases h
  split at h
  · cases h
  split at h
  · cases h
  simp only at h
  split at h
  · cases h
  cases h
  rfl

lemma vipPorts_protocol (hapi : api.Lawful) {spec : ServiceSpec} {p : ServicePort}
    (hp : p ∈ vipPorts api spec) : p.protocol ≠ .unset := by
  simp only [vipPorts, List.mem_filterMap, Option.ite_none_right_eq_some, Option.some.injEq] at hp
  obtain ⟨q, -, hv, rfl⟩ := hp
  exact hapi.valid_set _ hv

lemma served_protocol (hapi : api.Lawful) (h : serviceToVIP api svc = some v) {p : ServicePort}
    (hp : p ∈ v.vip.ports) : p.protocol ≠ .unset := by
  rw [serviceToVIP_some api h] at hp
  obtain ⟨i, hi, rfl⟩ := List.mem_iff_getElem.mp hp
  have hf := hapi.ports ⟨svc.key.ns, svc.key.name, svc.spec.clusterIP, vipPorts api svc.spec⟩
  rw [List.forall₂_iff_get] at hf
  obtain ⟨hlen, hget⟩ := hf
  have hi' : i < (vipPorts api svc.spec).length := by rw [hlen]; exact hi
  have hset := vipPorts_protocol api hapi (List.getElem_mem hi')
  have hkeep := (hget i hi' hi).2.2.1 hset
  simp only [List.get_eq_getElem] at hkeep
  rw [hkeep]
  exact hset

lemma served_clusterIP (hapi : api.Lawful) (h : serviceToVIP api svc = some v) :
    v.vip.clusterIP = svc.spec.clusterIP := by
  rw [serviceToVIP_some api h, hapi.clusterIP]

lemma deletedKeys_eq (hapi : api.Lawful) (svc : Service) :
    deletedKeys api svc = servedKeys api svc := by
  unfold deletedKeys servedKeys
  cases h : serviceToVIP api svc with
  | none => rfl
  | some v =>
    refine List.map_congr_left fun p hp => ?_
    simp [deleteKey, reconcileKey, defaultProto, served_protocol api hapi h hp]

lemma clusterIP_of_mem_servedKeys (hapi : api.Lawful) {k : PortKey}
    (hk : k ∈ servedKeys api svc) : k.clusterIP = svc.spec.clusterIP := by
  unfold servedKeys at hk
  cases h : serviceToVIP api svc with
  | none => simp [h] at hk
  | some v =>
    simp only [h, List.mem_map] at hk
    obtain ⟨p, -, rfl⟩ := hk
    exact served_clusterIP api hapi h

end

/-! ## Endpoints of a port -/

/-- The backend port for `portName` in a slice's ports: the first port of that
name decides, and it must carry a number. -/
def matchSlicePort : List EndpointPort → String → Option Int
  | [], _ => none
  | p :: ports, portName =>
    if p.name.getD "" ≠ portName then matchSlicePort ports portName else p.port

/-- The endpoints of one slice for the named port; only IPv4 slices count, and
an endpoint whose readiness is unset is not ready. -/
def sliceEndpoints (portName : String) (sl : EndpointSlice) : List Endpoint :=
  if sl.addressType ≠ .ipv4 then []
  else match matchSlicePort sl.ports portName with
    | none => []
    | some port => sl.endpoints.flatMap fun ep =>
        ep.addresses.map fun addr => ⟨addr, port, ep.ready = some true⟩

def endpointsForPort (slices : List EndpointSlice) (portName : String) : List Endpoint :=
  slices.flatMap (sliceEndpoints portName)

end DarwinNet.Proxy
