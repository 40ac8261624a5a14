import DarwinNet.Dns.Config

/-!
The names tried for a query name: `candidateNames` of the Go resolver (`expand.go`) and
`k3sm_candidates` of the shim, which works from the configuration it read out of the
environment.

The encoder raises a negative `NDots` to the default and caps it at fifteen, and
`candidateNames` does neither (`candidates_differ_out_of_range`);
`candidateNames_eq_k3smCandidates` says when that matters.
-/

namespace DarwinNet.Dns

open Lib

/-! ## The two expansions -/

/-- `dedupe`, after the names in `seen`. -/
def dedupe (seen : List Text) : List Text → List Text
  | [] => []
  | s :: ss => if seen.contains s then dedupe seen ss else s :: dedupe (s :: seen) ss

def searchSuffixes (cfg : DNSConfig) : List Text :=
  ((normalizeSearch cfg.searchDomains).map stripDot).filter (· ≠ [])

def candidateNames (api : NetV1) (cfg : DNSConfig) (name : Text) : List Text :=
  let cfg := api.withDefaults cfg
  let name := trimSpace name
  if name = [] then []
  else if name.getLast? = some '.' then [stripDot name]
  else
    let searched := (searchSuffixes cfg).map fun d => name ++ '.' :: d
    dedupe [] (if cfg.ndots ≤ name.count '.' then name :: searched else searched ++ [name])

def k3smCountDots (name : Text) : Nat := (stripDot name).count '.'

/-- `k3sm_candidates`: the stored names, each with whether it is too long to be asked. -/
def k3smCandidates (c : ShimConfig) (name : Text) (max : Nat) : List (Text × Bool) :=
  if name.getLast? = some '.' then
    [(bounded k3smMaxName name.dropLast, decide (k3smDNSMaxNameLen < name.length - 1))].take max
  else
    let bare := (bounded k3smMaxName name, decide (k3smDNSMaxNameLen < name.length))
    let searched := c.search.map fun d => (bounded k3smMaxName (name ++ '.' :: d),
      decide (k3smDNSMaxNameLen < name.length + 1 + d.length))
    (if c.ndots ≤ k3smCountDots name then bare :: searched else searched ++ [bare]).take max

/-! ## Agreement -/

lemma dedupe_cons (seen : List Text) (s : Text) (ss : List Text) :
    dedupe seen (s :: ss) = if s ∈ seen then dedupe seen ss else s :: dedupe (s :: seen) ss := by
  simp only [dedupe, List.contains_iff_mem]

lemma mem_dedupe {s : Text} {l : List Text} (seen : List Text) :
    s ∈ dedupe seen l ↔ s ∈ l ∧ s ∉ seen := by
  induction l generalizing seen with
  | nil => simp [dedupe]
  | cons t l ih =>
    rw [dedupe_cons]
    split
    · next ht =>
      rw [ih, List.mem_cons]
      constructor
      · exact fun h => ⟨.inr h.1, h.2⟩
      · rintro ⟨rfl | h, hs⟩
        · exact absurd ht hs
        · exact ⟨h, hs⟩
    · next ht =>
      rw [List.mem_cons, ih, List.mem_cons, List.mem_cons]
      by_cases hst : s = t
      · subst hst
        simp [ht]
      · simp [hst]

lemma stripDot_of_last {s : Text} (h : s.getLast? ≠ some '.') : stripDot s = s := if_neg h

lemma length_stripDot (s : Text) :
    (stripDot s).length ≤ s.length ∧ s.length ≤ (stripDot s).length + 1 := by
  unfold stripDot
  split
  · rw [List.length_dropLast]
    omega
  · omega

lemma length_searchSuffixes_le (cfg : DNSConfig) : (searchSuffixes cfg).length ≤ 8 := by
  refine (List.length_filter_le _ _).trans ?_
  rw [List.length_map]
  exact length_normalizeSearch_le _

/-- The two sides compare a number of dots alike, but for a negative `NDots` and few dots, and for
one above fifteen that the number does not reach. -/
lemma ndots_agree_iff (ndots : Int) (dots : Nat) :
    ((if ndots = 0 then defaultNDots else ndots) ≤ dots ↔ envNDots ndots ≤ dots) ↔
      ¬ (ndots < 0 ∧ dots < 5 ∨ 15 ≤ dots ∧ dots < ndots) := by
  simp only [envNDots, defaultNDots, maxNDots]
  split <;> split <;> split <;> omega

/-- The name comes first in one order and last in the other, which shows unless it is alone. -/
lemma dedupe_order_iff {name : Text} {searched : List Text} (h : name ∉ searched) {p q : Prop}
    [Decidable p] [Decidable q] :
    dedupe [] (if p then name :: searched else searched ++ [name]) =
      dedupe [] (if q then name :: searched else searched ++ [name]) ↔ searched = [] ∨ (p ↔ q) := by
  cases searched with
  | nil => simp
  | cons s searched =>
    have hne : s ≠ name := by
      rintro rfl
      exact h List.mem_cons_self
    by_cases hp : p <;> by_cases hq : q <;> simp [hp, hq, dedupe, hne, hne.symm]

lemma map_fst_k3smCandidates {c : ShimConfig} {name : Text} {max : Nat}
    (hlast : name.getLast? ≠ some '.') (hmax : c.search.length < max)
    (hname : name.length ≤ 253) (hsearch : ∀ d ∈ c.search, name.length + 1 + d.length ≤ 253) :
    (k3smCandidates c name max).map Prod.fst =
      if c.ndots ≤ name.count '.' then name :: c.search.map fun d => name ++ '.' :: d
      else (c.search.map fun d => name ++ '.' :: d) ++ [name] := by
  have hbare : bounded k3smMaxName name = name := by
    refine bounded_eq ?_
    show _ < 256
    omega
  have hsearched : (c.search.map fun d => (bounded k3smMaxName (name ++ '.' :: d),
      decide (k3smDNSMaxNameLen < name.length + 1 + d.length))).map Prod.fst =
      c.search.map fun d => name ++ '.' :: d := by
    rw [List.map_map]
    refine List.map_congr_left ?_
    intro d hd
    have hd' := hsearch d hd
    refine bounded_eq ?_
    rw [List.length_append, List.length_cons]
    show _ < 256
    omega
  rw [k3smCandidates, if_neg hlast, k3smCountDots, stripDot_of_last hlast]
  simp only
  split
  · rw [List.take_of_length_le (by simp; omega), List.map_cons, hbare, hsearched]
  · rw [List.take_of_length_le (by simp; omega), List.map_append, hsearched]
    simp [hbare]

lemma candidateNames_of_rooted {api : NetV1} {cfg : DNSConfig} {name : Text} (hne : name ≠ [])
    (htrim : trimSpace name = name) (hlast : name.getLast? = some '.') :
    candidateNames api cfg name = [stripDot name] := by
  simp only [candidateNames, htrim, if_neg hne, if_pos hlast]

lemma candidateNames_of_searched {api : NetV1} (hapi : api.DefaultsNDots) {cfg : DNSConfig}
    {name : Text} (hne : name ≠ []) (htrim : trimSpace name = name)
    (hlast : name.getLast? ≠ some '.') :
    candidateNames api cfg name = dedupe []
      (if (if cfg.ndots = 0 then defaultNDots else cfg.ndots) ≤ name.count '.'
        then name :: (searchSuffixes cfg).map (name ++ '.' :: ·)
        else (searchSuffixes cfg).map (name ++ '.' :: ·) ++ [name]) := by
  simp only [candidateNames, htrim, if_neg hne, if_neg hlast, hapi cfg]
  rfl

/-- Both orders hold the same names, so a bound on the candidates reaches each of them. -/
lemma length_of_candidates {p : Prop} [Decidable p] {name : Text} {suffixes : List Text} {n : Nat}
    (h : ∀ c ∈ dedupe [] (if p then name :: suffixes.map (name ++ '.' :: ·)
      else suffixes.map (name ++ '.' :: ·) ++ [name]), c.length ≤ n) :
    name.length ≤ n ∧ ∀ d ∈ suffixes, name.length + 1 + d.length ≤ n := by
  have hordered : ∀ s, s = name ∨ s ∈ suffixes.map (name ++ '.' :: ·) → s.length ≤ n := by
    intro s hs
    refine h s ?_
    rw [mem_dedupe]
    refine ⟨?_, by simp⟩
    by_cases hfirst : p
    · rw [if_pos hfirst]
      exact List.mem_cons.mpr hs
    · rw [if_neg hfirst]
      exact List.mem_append.mpr (hs.symm.imp_right List.mem_singleton.mpr)
  refine ⟨hordered name (.inl rfl), fun d hd => ?_⟩
  have hlen := hordered _ (.inr (List.mem_map.mpr ⟨d, hd, rfl⟩))
  rw [List.length_append, List.length_cons] at hlen
  omega

/-- For a name whose candidates all fit the shim's buffers: the shim's list without later
duplicates is Go's, unless the name is searched and the two sides compare its dots differently. -/
theorem candidateNames_eq_k3smCandidates {api : NetV1} (hapi : api.DefaultsNDots)
    {cfg : DNSConfig} {env : Env} {dropped : List Text}
    (henv : configToEnvChecked api cfg = .ok (env, dropped))
    {name : Text} (hne : name ≠ []) (htrim : trimSpace name = name) (hnul : '\x00' ∉ name)
    (hlen : ∀ c ∈ candidateNames api cfg name, c.length ≤ k3smDNSMaxNameLen) :
    candidateNames api cfg name = dedupe [] ((k3smCandidates (k3smLoadCfg env) (cString name)
        (k3smMaxSearch + 1)).map Prod.fst) ↔
      name.getLast? = some '.' ∨ searchSuffixes cfg = [] ∨
        ¬ (cfg.ndots < 0 ∧ name.count '.' < 5 ∨
          15 ≤ name.count '.' ∧ name.count '.' < cfg.ndots) := by
  rw [cString_eq hnul]
  by_cases hlast : name.getLast? = some '.'
  · have hstrip : stripDot name = name.dropLast := if_pos hlast
    rw [candidateNames_of_rooted hne htrim hlast, hstrip] at hlen ⊢
    have hfits := hlen name.dropLast (by simp)
    have hstored : bounded k3smMaxName name.dropLast = name.dropLast :=
      bounded_eq (Nat.lt_of_le_of_lt hfits (by decide))
    rw [k3smCandidates, if_pos hlast]
    simp [dedupe, hstored, hlast]
  · rw [candidateNames_of_searched hapi hne htrim hlast] at hlen ⊢
    obtain ⟨hname, hsuffix⟩ := length_of_candidates hlen
    have hsearch : (k3smLoadCfg env).search = searchSuffixes cfg := by
      refine search_k3smLoadCfg henv ?_
      intro d hd
      have hbound := (length_stripDot d).2
      by_cases hnil : stripDot d = []
      · rw [hnil, List.length_nil] at hbound
        omega
      · have := hsuffix (stripDot d)
          (List.mem_filter.mpr ⟨List.mem_map.mpr ⟨d, hd, rfl⟩, by simp [hnil]⟩)
        change _ ≤ 253 at this
        omega
    have hcount : (k3smLoadCfg env).search.length < k3smMaxSearch + 1 := by
      rw [hsearch]
      exact Nat.lt_succ_of_le (length_searchSuffixes_le cfg)
    have hfresh : name ∉ (searchSuffixes cfg).map (name ++ '.' :: ·) := by
      intro hmem
      obtain ⟨d, -, heq⟩ := List.mem_map.mp hmem
      simpa using congrArg List.length heq
    rw [map_fst_k3smCandidates hlast hcount hname (hsearch ▸ hsuffix), hsearch,
      ndots_k3smLoadCfg henv, dedupe_order_iff hfresh, ndots_agree_iff, List.map_eq_nil_iff]
    simp [hlast]

def anyConfig : NetV1 where
  withDefaults := fun cfg =>
    { cfg with ndots := if cfg.ndots = 0 then defaultNDots else cfg.ndots }
  validate := fun _ => true
  servers := fun cfg => [cfg.clusterDNSIP]

def clusterConfig (search : List Text) (ndots : Int) : DNSConfig :=
  ⟨.clusterFirst, "10.43.0.10".toList, "cluster.local".toList, [], search, ndots⟩

/-- Below zero only the shim starts with the search list; above fifteen only the resolver does. -/
theorem candidates_differ_out_of_range :
    (∃ env, configToEnvChecked anyConfig (clusterConfig ["svc".toList] (-1)) = .ok (env, []) ∧
      candidateNames anyConfig (clusterConfig ["svc".toList] (-1)) "web".toList =
        ["web".toList, "web.svc".toList] ∧
      (k3smCandidates (k3smLoadCfg env) (cString "web".toList) 9).map Prod.fst =
        ["web.svc".toList, "web".toList]) ∧
    ∃ env, configToEnvChecked anyConfig (clusterConfig ["svc".toList] 16) = .ok (env, []) ∧
      candidateNames anyConfig (clusterConfig ["svc".toList] 16)
          "a.b.c.d.e.f.g.h.i.j.k.l.m.n.o.p".toList =
        ["a.b.c.d.e.f.g.h.i.j.k.l.m.n.o.p.svc".toList, "a.b.c.d.e.f.g.h.i.j.k.l.m.n.o.p".toList] ∧
      (k3smCandidates (k3smLoadCfg env) (cString "a.b.c.d.e.f.g.h.i.j.k.l.m.n.o.p".toList)
          9).map Prod.fst =
        ["a.b.c.d.e.f.g.h.i.j.k.l.m.n.o.p".toList,
          "a.b.c.d.e.f.g.h.i.j.k.l.m.n.o.p.svc".toList] := by
  refine ⟨⟨_, rfl, ?_, ?_⟩, ⟨_, rfl, ?_, ?_⟩⟩
  all_goals decide +kernel

def podConfig : DNSConfig :=
  clusterConfig ["default.svc.cluster.local".toList, "svc.cluster.local".toList,
    "cluster.local.".toList] 0

theorem candidateNames_eq_k3smCandidates_pod :
    ∃ env, configToEnvChecked anyConfig podConfig = .ok (env, []) ∧
      candidateNames anyConfig podConfig "web".toList =
        dedupe [] ((k3smCandidates (k3smLoadCfg env) (cString "web".toList)
          (k3smMaxSearch + 1)).map Prod.fst) := by
  obtain ⟨env, henv⟩ : ∃ env, configToEnvChecked anyConfig podConfig = .ok (env, []) := ⟨_, rfl⟩
  refine ⟨env, henv, (candidateNames_eq_k3smCandidates (fun _ => rfl) henv ?_ ?_ ?_ ?_).mpr
    (.inr (.inr ?_))⟩
  all_goals decide +kernel

end DarwinNet.Dns
