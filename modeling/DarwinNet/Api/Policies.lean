import DarwinNet.Api.Objects

/-!
NetworkPolicies and the objects they are resolved against, with the fields the
policy watcher reads. `LabelSelectorAsSelector` belongs to the API machinery and
not to the repository: a parameter of the model stands for it.
-/

namespace DarwinNet.Api

open Lib

abbrev Labels := GoMap String String

structure LabelSelectorRequirement where
  key : String
  operator : String
  values : List String
  deriving DecidableEq, Repr

structure LabelSelector where
  matchLabels : Labels
  matchExpressions : List LabelSelectorRequirement
  deriving DecidableEq

/-- `metav1.LabelSelectorAsSelector`: `Selector.Matches`, or `none` for the error. -/
abbrev AsSelector := LabelSelector → Option (Labels → Bool)

/-- `corev1.Pod`, with `Status.PodIPs` and `Status.PodIP`. -/
structure Pod where
  key : ObjectKey
  labels : Labels
  podIPs : List String
  podIP : String
  deriving DecidableEq

structure Namespace where
  name : String
  labels : Labels
  deriving DecidableEq

inductive PolicyType
  | ingress
  | egress
  deriving DecidableEq, Repr

structure IPBlock where
  cidr : String
  deriving DecidableEq, Repr

structure NetworkPolicyPeer where
  podSelector : Option LabelSelector
  namespaceSelector : Option LabelSelector
  ipBlock : Option IPBlock
  deriving DecidableEq

structure NetworkPolicyPort where
  port : Option IntOrString
  endPort : Option Int
  deriving DecidableEq, Repr

structure NetworkPolicyIngressRule where
  ports : List NetworkPolicyPort
  from_ : List NetworkPolicyPeer
  deriving DecidableEq

structure NetworkPolicy where
  key : ObjectKey
  podSelector : LabelSelector
  ingress : List NetworkPolicyIngressRule
  policyTypes : List PolicyType
  deriving DecidableEq

/-- What the three informer stores list, each object once. -/
structure PolicyStores where
  pods : List Pod
  namespaces : List Namespace
  policies : List NetworkPolicy
  pods_nodup : (pods.map (·.key)).Nodup
  namespaces_nodup : (namespaces.map (·.name)).Nodup
  policies_nodup : (policies.map (·.key)).Nodup

/-- The same objects in another order. -/
structure PolicyStores.Reorders (st st' : PolicyStores) : Prop where
  pods : st.pods.Perm st'.pods
  namespaces : st.namespaces.Perm st'.namespaces
  policies : st.policies.Perm st'.policies

lemma PolicyStores.Reorders.symm {st st' : PolicyStores} (h : st.Reorders st') : st'.Reorders st :=
  ⟨h.pods.symm, h.namespaces.symm, h.policies.symm⟩

/-! ## The cluster behind the stores -/

inductive PodPhase
  | pending
  | running
  | succeeded
  | failed
  | unknown
  deriving DecidableEq, Repr

/-- A pod as the API server holds it: `Spec.NodeName` is what a field selector reads,
`Status.Phase` what no consumer of the pod reads. -/
structure ClusterPod extends Pod where
  nodeName : String
  phase : PodPhase
  deriving DecidableEq

def ClusterPod.Finished (p : ClusterPod) : Prop := p.phase = .succeeded ∨ p.phase = .failed

structure ClusterObjects where
  pods : List ClusterPod
  namespaces : List Namespace
  policies : List NetworkPolicy
  pods_nodup : (pods.map (·.key)).Nodup
  namespaces_nodup : (namespaces.map (·.name)).Nodup
  policies_nodup : (policies.map (·.key)).Nodup

/-! ## The API machinery as its documentation describes it -/

def LabelSelectorRequirement.parse (r : LabelSelectorRequirement) : Option (Labels → Bool) :=
  match r.operator with
  | "In" => if r.values = [] then none else some fun ls => (ls.lookup r.key).any (· ∈ r.values)
  | "NotIn" =>
    if r.values = [] then none else some fun ls => (ls.lookup r.key).all (· ∉ r.values)
  | "Exists" => if r.values ≠ [] then none else some fun ls => (ls.lookup r.key).isSome
  | "DoesNotExist" => if r.values ≠ [] then none else some fun ls => (ls.lookup r.key).isNone
  | _ => none

/-- All labels and all expressions have to match; an expression that is not well
formed is an error. -/
def AsSelector.standard : AsSelector := fun s =>
  (s.matchExpressions.mapM LabelSelectorRequirement.parse).map fun reqs ls =>
    (s.matchLabels.entries.all fun e => ls.lookup e.1 = some e.2) && reqs.all fun req => req ls

end DarwinNet.Api
