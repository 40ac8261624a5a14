import DarwinNet.Lib.Distinct
import DarwinNet.Dns.Expand

/-!
The search list of a ClusterFirst pod (`merge.go`): the cluster's domains, then the pod's, cut
at `MaxSearchDomains`.

`MergeDNSConfig` drops repeated entries before it trims them, so two spellings of one domain
that differ in the white space around them both stay and each takes a slot
(`padded_search_repeated`). Without such entries the list is the distinct valid domains in
order (`search_merge_law`).
-/

namespace DarwinNet.Dns

open Lib

/-- `MergeDNSConfig`, with the number of domains dropped by the cap. -/
def mergeDNSConfig (base : DNSConfig) (searches : List Text) (ndots : Int) : DNSConfig × Nat :=
  if base.policy ≠ .clusterFirst then (base, 0)
  else
    let merged := base.searchDomains ++ searches
    let sanitized := sanitizeSearch (dedupe [] merged)
    ({ base with
        searchDomains := capSearch sanitized
        ndots := if 0 < ndots then ndots else base.ndots },
      sanitized.length - maxSearchDomains)

def validSearch? (s : Text) : Option Text :=
  if trimSpace s ≠ [] && hasOnlyRFC1123Chars (trimSpace s) then some (trimSpace s) else none

lemma sanitizeSearch_eq (searches : List Text) :
    sanitizeSearch searches = searches.filterMap validSearch? := rfl

/-- The distinct valid domains of the entries, each where it comes first. -/
def validDomains (searches : List Text) : List Text := distinct (searches.filterMap validSearch?)

/-- What the merge is for: the first domains of the distinct ones, the cluster's before the
pod's, with the number of those left over. -/
structure MergeLaw (cluster pod : List Text) (merged : List Text) (dropped : Nat) : Prop where
  first : merged = (validDomains (cluster ++ pod)).take maxSearchDomains
  rest : dropped = (validDomains (cluster ++ pod)).length - maxSearchDomains
  nodup : merged.Nodup
  cluster : ∀ d ∈ (validDomains cluster).take maxSearchDomains, d ∈ merged

/-- No two entries are spellings of one valid domain. -/
def OneSpelling (searches : List Text) : Prop :=
  ∀ s ∈ searches, ∀ t ∈ searches, (validSearch? s).isSome → trimSpace s = trimSpace t → s = t

/-! ## The three passes -/

lemma foldl_appendNew_dedupe (seen out : List Text) (h : ∀ s, s ∈ seen ↔ s ∈ out)
    (l : List Text) : l.foldl appendNew out = out ++ dedupe seen l := by
  induction l generalizing seen out with
  | nil => simp [dedupe]
  | cons s l ih =>
    rw [List.foldl_cons, dedupe_cons, appendNew]
    simp only [h s]
    split
    · exact ih seen out h
    · rw [ih (s :: seen)]
      · simp
      · intro t
        simp [h t, or_comm]

lemma dedupe_eq_distinct (l : List Text) : dedupe [] l = distinct l := by
  rw [distinct, foldl_appendNew_dedupe [] [] (by simp) l, List.nil_append]

lemma validSearch?_eq_some {s d : Text} (h : validSearch? s = some d) : d = trimSpace s := by
  unfold validSearch? at h
  split_ifs at h
  exact (Option.some.inj h).symm

lemma oneSpelling_iff (searches : List Text) :
    OneSpelling searches ↔ ReadsOnce validSearch? searches := by
  constructor
  · intro h s hs t ht d hsd htd
    refine h s hs t ht (by simp [hsd]) ?_
    rw [← validSearch?_eq_some hsd, validSearch?_eq_some htd]
  · intro h s hs t ht hvalid heq
    obtain ⟨d, hd⟩ := Option.isSome_iff_exists.mp hvalid
    refine h s hs t ht d hd ?_
    rw [← hd]
    unfold validSearch?
    rw [heq]

lemma toFinset_passes (l : List Text) :
    ((distinct l).filterMap validSearch?).toFinset = (validDomains l).toFinset := by
  ext d
  simp only [List.mem_toFinset, validDomains, mem_distinct, List.mem_filterMap]

lemma nodup_of_card {l : List Text} (h : l.toFinset.card = l.length) : l.Nodup :=
  Multiset.coe_nodup.mp (Multiset.toFinset_card_eq_card_iff_nodup.mp h)

/-- The law leaves no room for a repeated domain: it would be returned twice, or counted
among those dropped. -/
lemma nodup_of_law {cluster pod : List Text}
    (h : MergeLaw cluster pod (capSearch ((distinct (cluster ++ pod)).filterMap validSearch?))
      (((distinct (cluster ++ pod)).filterMap validSearch?).length - maxSearchDomains)) :
    ((distinct (cluster ++ pod)).filterMap validSearch?).Nodup := by
  obtain ⟨-, hrest, hnodup, -⟩ := h
  have hset := toFinset_passes (cluster ++ pod)
  have hdist : (validDomains (cluster ++ pod)).Nodup := nodup_distinct _
  generalize (distinct (cluster ++ pod)).filterMap validSearch? = passes at *
  generalize validDomains (cluster ++ pod) = domains at *
  by_cases hlen : passes.length ≤ maxSearchDomains
  · rwa [capSearch, List.take_of_length_le hlen] at hnodup
  · refine nodup_of_card ?_
    rw [hset, List.toFinset_card_of_nodup hdist]
    omega

lemma mem_take_of_cluster {cluster pod : List Text} {d : Text}
    (h : d ∈ (validDomains cluster).take maxSearchDomains) :
    d ∈ (validDomains (cluster ++ pod)).take maxSearchDomains := by
  have hpre : validDomains cluster <+: validDomains (cluster ++ pod) := by
    rw [validDomains, validDomains, List.filterMap_append, distinct, distinct, List.foldl_append]
    exact foldl_appendNew_pre _ _
  exact (List.IsPrefix.take hpre _).subset h

/-- The merged list is the distinct valid domains in order, cut at the limit, exactly if no domain
is listed in two spellings. -/
theorem search_merge_law (base : DNSConfig) (searches : List Text) (ndots : Int)
    (hpolicy : base.policy = .clusterFirst) :
    MergeLaw base.searchDomains searches (mergeDNSConfig base searches ndots).1.searchDomains
        (mergeDNSConfig base searches ndots).2 ↔
      OneSpelling (base.searchDomains ++ searches) := by
  have hmerge : (mergeDNSConfig base searches ndots).1.searchDomains =
        capSearch ((distinct (base.searchDomains ++ searches)).filterMap validSearch?) ∧
      (mergeDNSConfig base searches ndots).2 =
        ((distinct (base.searchDomains ++ searches)).filterMap validSearch?).length -
          maxSearchDomains := by
    rw [mergeDNSConfig, if_neg (by simp [hpolicy])]
    simp only [sanitizeSearch_eq, dedupe_eq_distinct, and_self]
  rw [hmerge.1, hmerge.2, oneSpelling_iff]
  constructor
  · intro hlaw s hs t ht
    have honce := readsOnce_of_nodup (nodup_of_law hlaw)
    exact honce s (mem_distinct.mpr hs) t (mem_distinct.mpr ht)
  · intro honce
    rw [filterMap_distinct honce, capSearch]
    exact ⟨rfl, rfl, (nodup_distinct _).sublist (List.take_sublist _ _),
      fun d hd => mem_take_of_cluster hd⟩

theorem search_merge_law_pod : podConfig.policy = .clusterFirst ∧
    MergeLaw podConfig.searchDomains ["corp.example ".toList, "svc.cluster.local".toList]
      (mergeDNSConfig podConfig ["corp.example ".toList, "svc.cluster.local".toList]
        0).1.searchDomains
      (mergeDNSConfig podConfig ["corp.example ".toList, "svc.cluster.local".toList] 0).2 := by
  refine ⟨rfl, (search_merge_law podConfig _ 0 rfl).mpr ?_⟩
  unfold OneSpelling
  decide +kernel

def twoSearches : DNSConfig :=
  clusterConfig ["svc.cluster.local".toList, "cluster.local".toList] 5

def paddedSearches : List Text :=
  [" cluster.local".toList, "a".toList, "b".toList, "c".toList, "d".toList, "e".toList, "f".toList]

/-- A domain is kept in two spellings, and another is dropped for it. -/
theorem padded_search_repeated : (mergeDNSConfig twoSearches paddedSearches 0).1.searchDomains =
      ["svc.cluster.local".toList, "cluster.local".toList, "cluster.local".toList, "a".toList,
        "b".toList, "c".toList, "d".toList, "e".toList] ∧
    (mergeDNSConfig twoSearches paddedSearches 0).2 = 1 ∧
    twoSearches.policy = .clusterFirst ∧
    ¬ MergeLaw twoSearches.searchDomains paddedSearches
      (mergeDNSConfig twoSearches paddedSearches 0).1.searchDomains
      (mergeDNSConfig twoSearches paddedSearches 0).2 := by
  have hlist : (mergeDNSConfig twoSearches paddedSearches 0).1.searchDomains =
      ["svc.cluster.local".toList, "cluster.local".toList, "cluster.local".toList, "a".toList,
        "b".toList, "c".toList, "d".toList, "e".toList] := by
    decide +kernel
  refine ⟨hlist, by decide +kernel, rfl, ?_⟩
  intro hlaw
  have hnodup := hlaw.nodup
  rw [hlist] at hnodup
  exact absurd hnodup (by decide +kernel)

end DarwinNet.Dns
