import DarwinNet.Proxy.Policy

/-!
Whose pods the policy table knows. A worker's Pods informer lists only the pods of its own
node (`WithPodNodeScope`), and every informer lists finished pods beside the running ones.

* `nodeScope_only_widens`: a flow that the table of all pods allows is allowed by the table of
  one node's pods, where the node's addresses are its own and no pod is in the vmnet segment;
* `finished_pod_denies`: a finished pod that a policy selects still denies flows to the pod
  that has its address now; `FinishedDenies` says which flows.
-/

namespace DarwinNet.Proxy

open Lib Netip Api

/-- The pods the watcher's informer lists: those bound to `podNodeName`, all of them for the
empty name. -/
def watchedPods (podNodeName : String) (pods : List ClusterPod) : List ClusterPod :=
  if podNodeName = "" then pods else pods.filter (·.nodeName = podNodeName)

lemma watchedPods_sublist (podNodeName : String) (pods : List ClusterPod) :
    (watchedPods podNodeName pods).Sublist pods := by
  unfold watchedPods
  split
  · exact .refl pods
  · exact List.filter_sublist

/-- The stores of a watcher built with `WithPodNodeScope`: its pods are narrowed, namespaces
and policies stay cluster-wide. -/
def withPodNodeScope (podNodeName : String) (c : ClusterObjects) : PolicyStores where
  pods := (watchedPods podNodeName c.pods).map (·.toPod)
  namespaces := c.namespaces
  policies := c.policies
  pods_nodup := by
    rw [List.map_map]
    exact c.pods_nodup.sublist ((watchedPods_sublist podNodeName c.pods).map _)
  namespaces_nodup := c.namespaces_nodup
  policies_nodup := c.policies_nodup

def clusterWide (c : ClusterObjects) : PolicyStores := withPodNodeScope "" c

lemma mem_withPodNodeScope {node : String} (hnode : node ≠ "") {c : ClusterObjects} {pod : Pod} :
    pod ∈ (withPodNodeScope node c).pods ↔ ∃ p ∈ c.pods, p.nodeName = node ∧ p.toPod = pod := by
  simp only [withPodNodeScope, watchedPods, if_neg hnode, List.mem_map, List.mem_filter,
    decide_eq_true_eq, and_assoc]

lemma mem_clusterWide {c : ClusterObjects} {pod : Pod} :
    pod ∈ (clusterWide c).pods ↔ ∃ p ∈ c.pods, p.toPod = pod := by
  simp only [clusterWide, withPodNodeScope, watchedPods, if_true, List.mem_map]

/-! ## One node's pods -/

section

variable {asSelector : AsSelector} {t : PolicyTable} {c : ClusterObjects} {node : String}
  {src backend : Addr} {port : UInt16}

/-- No pod of the node shares an address with a pod of another. -/
def OwnAddresses (c : ClusterObjects) (node : String) : Prop :=
  ∀ p ∈ c.pods, ∀ q ∈ c.pods, p.nodeName = node → q.nodeName ≠ node →
    ∀ a, HasIP p.toPod a → ¬HasIP q.toPod a

def OutsideSegment (c : ClusterObjects) (vmnet : Prefix) : Prop :=
  ∀ p ∈ c.pods, ∀ a, HasIP p.toPod a → vmnet.contains a = false

lemma OwnAddresses.mem_scope (h : OwnAddresses c node) (hnode : node ≠ "") {a : Addr} {p q : Pod}
    (hp : p ∈ (withPodNodeScope node c).pods) (hpa : HasIP p a) (hq : q ∈ (clusterWide c).pods)
    (hqa : HasIP q a) : q ∈ (withPodNodeScope node c).pods := by
  obtain ⟨p', hp', hpn, rfl⟩ := (mem_withPodNodeScope hnode).mp hp
  obtain ⟨q', hq', rfl⟩ := mem_clusterWide.mp hq
  by_cases hqn : q'.nodeName = node
  · exact (mem_withPodNodeScope hnode).mpr ⟨q', hq', hqn, rfl⟩
  · exact absurd hqa (h p' hp' q' hq' hpn hqn a hpa)

lemma mem_clusterWide_of_scope (hnode : node ≠ "") {pod : Pod}
    (h : pod ∈ (withPodNodeScope node c).pods) : pod ∈ (clusterWide c).pods := by
  obtain ⟨p, hp, -, hpod⟩ := (mem_withPodNodeScope hnode).mp h
  exact mem_clusterWide.mpr ⟨p, hp, hpod⟩

lemma AdmitsSource.scope (hown : OwnAddresses c node) (hnode : node ≠ "")
    (hout : OutsideSegment c t.vmnet)
    (hattr : (∃ pod ∈ (withPodNodeScope node c).pods, HasIP pod src) ∨
      t.vmnet.isValid = true ∧ t.vmnet.contains src = true)
    {pol : NetworkPolicy} {rule : NetworkPolicyIngressRule}
    (h : AdmitsSource asSelector (clusterWide c) pol rule src) :
    AdmitsSource asSelector (withPodNodeScope node c) pol rule src := by
  rcases h with hany | hwide | ⟨peer, hpeer, pod, hpod, hmatch, hip⟩
  · exact .inl hany
  · exact .inr (.inl hwide)
  refine .inr (.inr ⟨peer, hpeer, pod, ?_, hmatch, hip⟩)
  rcases hattr with ⟨q, hq, hqsrc⟩ | ⟨-, hseg⟩
  · exact hown.mem_scope hnode hq hqsrc hpod hip
  · obtain ⟨p, hp, rfl⟩ := mem_clusterWide.mp hpod
    rw [hout p hp src hip] at hseg
    cases hseg

lemma Denies.of_scope (hown : OwnAddresses c node) (hnode : node ≠ "")
    (hout : OutsideSegment c t.vmnet)
    (h : Denies asSelector t (withPodNodeScope node c) src backend port) :
    Denies asSelector t (clusterWide c) src backend port where
  not_loopback := h.not_loopback
  not_exempt := h.not_exempt
  selected := by
    obtain ⟨pod, hpod, hip, hsel⟩ := h.selected
    exact ⟨pod, mem_clusterWide_of_scope hnode hpod, hip, hsel⟩
  no_rule pod hpod hip pol hpol hsel rule hrule hadm := by
    obtain ⟨local_, hlocal, hlocalip, -⟩ := h.selected
    exact h.no_rule pod (hown.mem_scope hnode hlocal hlocalip hpod hip) hip pol hpol hsel rule
      hrule ⟨hadm.1.scope hown hnode hout h.attributed, hadm.2⟩
  attributed := h.attributed.imp_left fun ⟨pod, hpod, hip⟩ =>
    ⟨pod, mem_clusterWide_of_scope hnode hpod, hip⟩

end

/-- The table of one node's pods allows what the table of all pods allows. -/
theorem nodeScope_only_widens (asSelector : AsSelector) (t : PolicyTable) (c : ClusterObjects)
    (node : String) (hown : OwnAddresses c node) (hout : OutsideSegment c t.vmnet)
    (src backend : Addr) (port : UInt16)
    (h : PolicyTable.allow (some (recompute asSelector t (clusterWide c))) src backend port =
      true) :
    PolicyTable.allow (some (recompute asSelector t (withPodNodeScope node c))) src backend
      port = true := by
  by_cases hnode : node = ""
  · rwa [hnode]
  refine Bool.eq_true_of_not_eq_false fun hdeny => ?_
  have hdenies := Denies.of_scope hown hnode hout (allow_recompute_eq_false.mp hdeny)
  rw [allow_recompute_eq_false.mpr hdenies] at h
  cases h

def twoNodes : ClusterObjects where
  pods := [⟨samplePod "server" "10.42.0.5", "mac1", .running⟩,
    ⟨samplePod "guest" "10.42.0.7", "mac1", .running⟩,
    ⟨samplePod "admin" "10.42.1.6", "mac2", .running⟩]
  namespaces := []
  policies := [samplePolicy]
  pods_nodup := by
    have hkeys : [(⟨"default", "server"⟩ : ObjectKey), ⟨"default", "guest"⟩,
        ⟨"default", "admin"⟩].Nodup := by decide
    exact hkeys
  namespaces_nodup := List.nodup_nil
  policies_nodup := List.nodup_singleton _

theorem nodeScope_only_widens_twoNodes :
    PolicyTable.allow (some (recompute .standard (newPolicyTableVMNet .zero [])
        (clusterWide twoNodes))) (.v4 0x0a2a0106#32) (.v4 0x0a2a0005#32) 8080 = true ∧
      PolicyTable.allow (some (recompute .standard (newPolicyTableVMNet .zero [])
        (withPodNodeScope "mac1" twoNodes))) (.v4 0x0a2a0106#32) (.v4 0x0a2a0005#32) 8080 =
          true := by
  have hallow : PolicyTable.allow (some (recompute .standard (newPolicyTableVMNet .zero [])
      (clusterWide twoNodes))) (.v4 0x0a2a0106#32) (.v4 0x0a2a0005#32) 8080 = true := by
    decide +kernel
  have hips : ∀ p ∈ twoNodes.pods, ∀ q ∈ twoNodes.pods, p.nodeName = "mac1" →
      q.nodeName ≠ "mac1" → ∀ a ∈ podIPsOf p.toPod, a ∉ podIPsOf q.toPod := by
    decide +kernel
  have hown : OwnAddresses twoNodes "mac1" := by
    intro p hp q hq hpn hqn a hpa hqa
    exact hips p hp q hq hpn hqn a (mem_podIPsOf.mpr hpa) (mem_podIPsOf.mpr hqa)
  exact ⟨hallow, nodeScope_only_widens .standard _ twoNodes "mac1" hown (fun _ _ _ _ => rfl) _ _ _
    hallow⟩

/-! ## Finished pods -/

/-- No two pods that are not finished share an address. -/
def UnfinishedDistinct (c : ClusterObjects) : Prop :=
  ∀ p ∈ c.pods, ∀ q ∈ c.pods, ¬p.Finished → ¬q.Finished →
    ∀ a, HasIP p.toPod a → HasIP q.toPod a → p = q

/-- What the policies say of the finished pods that list the backend's address denies the flow:
one of them is selected, none of the policies that select one admits the flow, and the source is
neither exempt nor without attribution. -/
structure FinishedDenies (asSelector : AsSelector) (t : PolicyTable) (c : ClusterObjects)
    (src backend : Addr) (port : UInt16) : Prop where
  not_loopback : src.unmap.isLoopback = false
  not_exempt : src.unmap ∉ t.alwaysAllow
  selected : ∃ q ∈ c.pods, q.Finished ∧ HasIP q.toPod backend.unmap ∧
    ∃ pol ∈ c.policies, SelectsPod asSelector pol q.toPod
  no_rule : ∀ q ∈ c.pods, q.Finished → HasIP q.toPod backend.unmap →
    ∀ pol ∈ c.policies, SelectsPod asSelector pol q.toPod → ∀ rule ∈ pol.ingress,
      ¬ (AdmitsSource asSelector (clusterWide c) pol rule src.unmap ∧ AdmitsPort rule port)
  attributed : (∃ q ∈ c.pods, HasIP q.toPod src.unmap) ∨
    t.vmnet.isValid = true ∧ t.vmnet.contains src.unmap = true

/-- A running pod that no policy selects is reached, except by the flows that finished pods with
its address deny. -/
theorem unselected_backend_allowed (asSelector : AsSelector) (t : PolicyTable)
    (c : ClusterObjects) (hdistinct : UnfinishedDistinct c) {backend : Addr} {p : ClusterPod}
    (hp : p ∈ c.pods) (hrunning : ¬p.Finished) (hip : HasIP p.toPod backend.unmap)
    (hunselected : ∀ pol ∈ c.policies, ¬SelectsPod asSelector pol p.toPod) (src : Addr)
    (port : UInt16) :
    PolicyTable.allow (some (recompute asSelector t (clusterWide c))) src backend port = true ↔
      ¬ FinishedDenies asSelector t c src backend port := by
  -- a selected pod with the backend's address is not `p`, so it has finished
  have hfinished : ∀ q ∈ c.pods, HasIP q.toPod backend.unmap →
      ∀ pol ∈ c.policies, SelectsPod asSelector pol q.toPod → q.Finished := by
    intro q hq hqip pol hpol hsel
    by_contra hqf
    cases hdistinct p hp q hq hrunning hqf _ hip hqip
    exact hunselected pol hpol hsel
  rw [← Bool.not_eq_false, allow_recompute_eq_false, not_iff_not]
  constructor
  · rintro ⟨hloop, hexempt, ⟨pod, hpod, hpodip, pol, hpol, hsel⟩, hrule, hattr⟩
    obtain ⟨q, hq, rfl⟩ := mem_clusterWide.mp hpod
    refine ⟨hloop, hexempt, ⟨q, hq, hfinished q hq hpodip pol hpol hsel, hpodip, pol, hpol, hsel⟩,
      fun q hq _ hqip => hrule q.toPod (mem_clusterWide.mpr ⟨q, hq, rfl⟩) hqip, ?_⟩
    refine hattr.imp_left fun ⟨pod, hpod, hpodsrc⟩ => ?_
    obtain ⟨q, hq, rfl⟩ := mem_clusterWide.mp hpod
    exact ⟨q, hq, hpodsrc⟩
  · rintro ⟨hloop, hexempt, ⟨q, hq, -, hqip, hpol⟩, hrule, hattr⟩
    refine ⟨hloop, hexempt, ⟨q.toPod, mem_clusterWide.mpr ⟨q, hq, rfl⟩, hqip, hpol⟩, ?_,
      hattr.imp_left fun ⟨q, hq, hqsrc⟩ => ⟨q.toPod, mem_clusterWide.mpr ⟨q, hq, rfl⟩, hqsrc⟩⟩
    intro pod hpod hpodip pol hpol hsel
    obtain ⟨q, hq, rfl⟩ := mem_clusterWide.mp hpod
    exact hrule q hq (hfinished q hq hpodip pol hpol hsel) hpodip pol hpol hsel

/-- A job that has finished, a policy that isolates it, and two pods that run; `web` has the
address 10.42.0.5. -/
def jobAndWeb (jobIP : String) : ClusterObjects where
  pods := [⟨samplePod "job" jobIP, "mac1", .succeeded⟩,
    ⟨samplePod "web" "10.42.0.5", "mac1", .running⟩,
    ⟨samplePod "guest" "10.42.0.7", "mac1", .running⟩]
  namespaces := []
  policies := [⟨⟨"default", "isolate"⟩, appSelector "job", [], []⟩]
  pods_nodup := by
    have hkeys : [(⟨"default", "job"⟩ : ObjectKey), ⟨"default", "web"⟩,
        ⟨"default", "guest"⟩].Nodup := by decide
    exact hkeys
  namespaces_nodup := List.nodup_nil
  policies_nodup := List.nodup_singleton _

lemma unfinishedDistinct_jobAndWeb (jobIP : String) : UnfinishedDistinct (jobAndWeb jobIP) := by
  have hips : ∀ a ∈ podIPsOf (samplePod "web" "10.42.0.5"),
      a ∉ podIPsOf (samplePod "guest" "10.42.0.7") := by decide +kernel
  intro p hp q hq hpf hqf a hpa hqa
  simp only [jobAndWeb, List.mem_cons, List.not_mem_nil, or_false] at hp hq
  rcases hp with rfl | rfl | rfl <;> rcases hq with rfl | rfl | rfl
  any_goals exact absurd (.inl rfl) hpf
  any_goals exact absurd (.inl rfl) hqf
  any_goals rfl
  · exact absurd (mem_podIPsOf.mpr hqa) (hips a (mem_podIPsOf.mpr hpa))
  · exact absurd (mem_podIPsOf.mpr hpa) (hips a (mem_podIPsOf.mpr hqa))

lemma web_unselected (jobIP : String) : ∀ pol ∈ (jobAndWeb jobIP).policies,
    ¬SelectsPod .standard pol (samplePod "web" "10.42.0.5") := by
  rintro pol hpol ⟨-, -, sel, hsel, hmatch⟩
  cases List.mem_singleton.mp hpol
  cases hsel
  exact absurd hmatch (by decide)

/-- The policy of a finished pod applies to the pod that has its address now. -/
theorem finished_pod_denies : UnfinishedDistinct (jobAndWeb "10.42.0.5") ∧
      (∃ p ∈ (jobAndWeb "10.42.0.5").pods, ¬p.Finished ∧ HasIP p.toPod (.v4 0x0a2a0005#32) ∧
        ∀ pol ∈ (jobAndWeb "10.42.0.5").policies, ¬SelectsPod .standard pol p.toPod) ∧
      PolicyTable.allow (some (recompute .standard (newPolicyTableVMNet .zero [])
        (clusterWide (jobAndWeb "10.42.0.5")))) (.v4 0x0a2a0007#32) (.v4 0x0a2a0005#32) 80 =
          false := by
  refine ⟨unfinishedDistinct_jobAndWeb _,
    ⟨⟨samplePod "web" "10.42.0.5", "mac1", .running⟩, .tail _ (.head _), ?_, ?_,
      web_unselected _⟩, by decide +kernel⟩
  · rintro (h | h) <;> cases h
  · exact mem_podIPsOf.mp (by decide +kernel)

theorem unselected_backend_allowed_web :
    PolicyTable.allow (some (recompute .standard (newPolicyTableVMNet .zero [])
      (clusterWide (jobAndWeb "10.42.0.9")))) (.v4 0x0a2a0007#32) (.v4 0x0a2a0005#32) 80 =
        true := by
  have hnot : (.v4 0x0a2a0005#32 : Addr) ∉ podIPsOf (samplePod "job" "10.42.0.9") := by
    decide +kernel
  refine (unselected_backend_allowed .standard _ _ (unfinishedDistinct_jobAndWeb _)
    (.tail _ (.head _)) ?_ (mem_podIPsOf.mp (by decide +kernel)) (web_unselected _) _ _).mpr ?_
  · rintro (h | h) <;> cases h
  rintro ⟨-, -, ⟨q, hq, hqf, hqip, -⟩, -, -⟩
  simp only [jobAndWeb, List.mem_cons, List.not_mem_nil, or_false] at hq
  rcases hq with rfl | rfl | rfl
  · exact absurd (mem_podIPsOf.mpr hqip) hnot
  · rcases hqf with h | h <;> cases h
  · rcases hqf with h | h <;> cases h

end DarwinNet.Proxy
