import DarwinNet.Netd.Steps

/-!
The node identity and the pod aliases of the daemon (`handleEnsureAlias`,
`handleRemoveAlias`, `adoptNodePodCIDR`).

The guard of an adoption counts the recorded aliases, and an alias is recorded only after
the executor has put it on lo0. An adoption in between moves the identity under a live pod
alias (`adopt_under_live_alias`). `adopt_without_live_alias`: it does not if no `EnsureAlias`
is on its way during an adoption, overtakes the bookkeeping of a `RemoveAlias` of its address
or fails after its lo0 alias.
-/

namespace DarwinNet.Netd

open Lib Netip Podnet
open Mesh (IsNodeRange isNodeRange_masked isNodeCIDR)

/-! ## Pod addresses of the aggregate -/

variable {ip : Addr}

lemma contains_of_isPodAddress {cidr : Prefix} (hmasked : cidr.masked = cidr) (h4 : ip.is4 = true)
    (h : isPodAddress cidr ip = true) : cidr.contains ip = true := by
  have hcontains := (isPodAddress_spec h).1
  rw [hmasked] at hcontains
  cases ip with
  | v4 x => exact hcontains
  | zero => cases h4
  | v6 x zone => cases h4

lemma aggregate_contains {cidr aggregate : Prefix} (hc : IsNodeRange cidr)
    (hwithin : withinAggregate cidr aggregate = true) {x : BitVec 32}
    (h : cidr.contains (.v4 x) = true) : aggregate.contains (.v4 x) = true := by
  obtain ⟨base, -, rfl⟩ := hc
  simp only [withinAggregate, Bool.and_eq_true, decide_eq_true_eq] at hwithin
  obtain ⟨hcontains, hbits⟩ := hwithin
  obtain ⟨addr, n⟩ := aggregate
  cases n with
  | zero => simp [Prefix.contains, Prefix.isValid] at hcontains
  | succ n =>
    cases addr with
    | zero => simp [Prefix.contains, Prefix.v4, Prefix.isValid] at hcontains
    | v6 y zone => simp [Prefix.contains, Prefix.v4, Prefix.isValid] at hcontains
    | v4 y =>
      have hn : n ≤ 24 := by simpa [Prefix.bits, Prefix.v4] using hbits
      have hshift : 32 - n = 8 + (24 - n) := by omega
      have hy : y >>> (32 - n) = base >>> (32 - n) := Prefix.contains_v4_iff.mp hcontains
      have hx : base >>> 8 = x >>> 8 := Prefix.contains_v4_iff.mp h
      refine Prefix.contains_v4_iff.mpr (hy.trans ?_)
      rw [hshift, BitVec.shiftRight_add, BitVec.shiftRight_add, hx]

lemma livePodAliases_eq_zero {s : Server} (h : s.livePodAliases = 0) (hip : ip ∈ s.aliases) :
    s.nodePodCIDR.contains ip = false := by
  rw [Server.livePodAliases, Finset.card_eq_zero, Finset.filter_eq_empty_iff] at h
  simpa using h hip

lemma is4_of_validateAliasIP {cfg : Config} {node : Prefix}
    (h : validateAliasIP cfg node ip = true) : ip.is4 = true := by
  unfold validateAliasIP at h
  split at h
  · cases h
  · rename_i h4
    simpa using h4

/-! ## The runs that keep identity and aliases apart -/

namespace Stage

def ensures : Stage → Bool
  | .ensuring _ | .ensured _ => true
  | _ => false

/-- Neither `EnsureAlias`, nor a `RemoveAlias` past the executor, nor an adoption under its
locks. -/
def neutral : Stage → Bool
  | .ensuring _ | .ensured _ | .removed _ | .adoptChecked .. | .adoptSet .. => false
  | _ => true

lemma neutral_spec {st : Stage} (h : st.neutral = true) :
    st.ensures = false ∧ st.holdsMu = false := by
  cases st <;> first | exact ⟨rfl, rfl⟩ | cases h

end Stage

def Stage.ensuring? : Stage → Option Addr
  | .ensuring ip => some ip
  | _ => none

def Label.ensureExec? : Label → Option (Nat × Outcomes)
  | .ensureExec c o => some (c, o)
  | _ => none

/-- The condition on an executor `EnsureAlias`: its utun command does not fail, no
`RemoveAlias` of the address is between executor and bookkeeping, and an address of the
cluster aggregate is in the node pod CIDR, an IPv4 /24. -/
def EnsureOk (cfg : Config) (s : Server) (a : Label) : Prop :=
  ∀ e ∈ a.ensureExec?, e.2.utunAlias = none ∧ ∀ ip ∈ (s.stage e.1).ensuring?,
    s.anyStage (fun st => decide (st = .removed ip)) = false ∧
    (cfg.clusterAggregate.contains ip = true →
      s.nodePodCIDR.contains ip = true ∧ isNodeCIDR s.nodePodCIDR = true)

instance decidableEnsureOk (cfg : Config) (s : Server) (a : Label) :
    Decidable (EnsureOk cfg s a) :=
  inferInstanceAs (Decidable (∀ e ∈ a.ensureExec?, _))

/-- No adoption falls into an `EnsureAlias`, and each of these is `EnsureOk`. -/
def Careful (cfg : Config) (s : Server) (a : Label) : Prop :=
  Quiet Stage.ensures s a ∧ EnsureOk cfg s a

instance decidableCareful (cfg : Config) (s : Server) (a : Label) :
    Decidable (Careful cfg s a) :=
  inferInstanceAs (Decidable (_ ∧ _))

/-- A request put the address on lo0, and it is there. -/
def Live (s : Server) (ip : Addr) : Prop := ip ∈ s.plumbed ∧ ip ∈ s.priv.kernel.lo0

/-- Every live pod alias is on record, or about to be, and is the node's own. -/
structure Guarded (cfg : Config) (s : Server) : Prop where
  is4 : ∀ ip ∈ s.plumbed, ip.is4 = true
  ensuring : ∀ c ip, s.stage c = .ensuring ip → ip.is4 = true
  /-- A live pod alias is recorded or about to be. -/
  tracked : ∀ ip, Live s ip → isPodAddress s.nodePodCIDR ip = true →
    ip ∈ s.aliases ∨ ∃ c, s.stage c = .ensured ip
  /-- A live alias is a pod address of no other node. -/
  own : ∀ ip cidr, Live s ip → IsNodeRange cidr →
    withinAggregate cidr cfg.clusterAggregate = true → isPodAddress cidr ip = true →
    cidr = s.nodePodCIDR
  aliased : ∀ ip, Live s ip → isPodAddress s.nodePodCIDR ip = true → s.priv.aliased.lookup ip ≠ none
  removed : ∀ c ip, s.stage c = .removed ip → Live s ip → isPodAddress s.nodePodCIDR ip = false
  checked : ∀ c want args, s.stage c = .adoptChecked want args → s.livePodAliases = 0
  moved : ∀ c want, (s.stage c).moved? = some want → (∀ c', (s.stage c').ensures = false) ∧
    ∀ ip, Live s ip → isPodAddress s.nodePodCIDR ip = false

namespace Guarded

variable {cfg : Config} {s s' t : Server} {a : Label} {c : Nat} {x : Conn} {ip : Addr}
  {want : Prefix} {args : ConfigureMeshArgs}

lemma stage_cases (hconns : s'.conns = s.conns) (c' : Nat) :
    c' ≠ c ∧ (s'.setConn c x).stage c' = s.stage c' ∨
      c' = c ∧ (s'.setConn c x).stage c' = x.stage := by
  by_cases hc : c' = c
  · exact .inr ⟨hc, hc ▸ Base.stage_self⟩
  · exact .inl ⟨hc, Base.stage_other hconns c' hc⟩

lemma tracked_elsewhere (hs : Guarded cfg s) (hconns : s'.conns = s.conns)
    (hold : ∀ ip, s.stage c ≠ .ensured ip) (hip : Live s ip)
    (hpod : isPodAddress s.nodePodCIDR ip = true) :
    ip ∈ s.aliases ∨ ∃ c', (s'.setConn c x).stage c' = .ensured ip := by
  refine (hs.tracked ip hip hpod).imp_right ?_
  rintro ⟨c', hc'⟩
  have hne : c' ≠ c := by
    rintro rfl
    exact hold ip hc'
  exact ⟨c', (Base.stage_other hconns c' hne).trans hc'⟩

lemma checked_elsewhere (hs : Guarded cfg s) {c' : Nat} (hnode : s'.nodePodCIDR = s.nodePodCIDR)
    (haliases : s'.aliases = s.aliases) (h : s.stage c' = .adoptChecked want args) :
    (s'.setConn c x).livePodAliases = 0 := by
  have hzero := hs.checked c' want args h
  rw [Server.livePodAliases] at hzero ⊢
  rwa [show (s'.setConn c x).nodePodCIDR = s.nodePodCIDR from hnode,
    show (s'.setConn c x).aliases = s.aliases from haliases]

lemma moved_of (hs : Guarded cfg s) (hconns : s'.conns = s.conns)
    (hnode : s'.nodePodCIDR = s.nodePodCIDR)
    (hlive : ∀ ip, isPodAddress s.nodePodCIDR ip = true → Live (s'.setConn c x) ip → Live s ip)
    (hmoved : x.stage.moved? = none)
    (hnew : x.stage.ensures = true → (s.stage c).ensures = true ∨ s.mu = none) (hb : Base cfg s)
    {c' : Nat} (h : ((s'.setConn c x).stage c').moved? = some want) :
    (∀ c', ((s'.setConn c x).stage c').ensures = false) ∧ ∀ ip, Live (s'.setConn c x) ip →
        isPodAddress (s'.setConn c x).nodePodCIDR ip = false := by
  have hold := (Server.stage_back Stage.moved? hconns (by simp [hmoved]) h).2
  obtain ⟨hens, hpods⟩ := hs.moved c' want hold
  constructor
  · intro c''
    rcases stage_cases hconns c'' with ⟨-, hc⟩ | ⟨-, hc⟩
    · rw [hc]
      exact hens c''
    rw [hc, ← Bool.not_eq_true]
    intro hx
    rcases hnew hx with hin | hfree
    · cases (hens c).symm.trans hin
    · cases (hb.not_moved hfree c').symm.trans hold
  · intro ip hip
    rw [← Bool.not_eq_true]
    intro hpod
    have hpod' : isPodAddress s.nodePodCIDR ip = true := by
      rw [← hnode]
      exact hpod
    cases (hpods ip (hlive ip hpod' hip)).symm.trans hpod'

lemma setConn (hb : Base cfg s) (hs : Guarded cfg s) (hconns : s'.conns = s.conns)
    (hnode : s'.nodePodCIDR = s.nodePodCIDR) (haliases : s'.aliases = s.aliases)
    (hplumbed : s'.plumbed = s.plumbed) (haliased : s'.priv.aliased = s.priv.aliased)
    (hlo0 : ∀ cidr ip, isPodAddress cidr ip = true →
      (ip ∈ s'.priv.kernel.lo0 ↔ ip ∈ s.priv.kernel.lo0))
    (hold : ∀ ip, s.stage c ≠ .ensured ip) (hens : ∀ ip, x.stage = .ensuring ip → ip.is4 = true)
    (hfree : x.stage.ensures = true → s.mu = none) (hremoved : ∀ ip, x.stage ≠ .removed ip)
    (hlock : x.stage.holdsMu = false) : Guarded cfg (s'.setConn c x) := by
  have hlive : ∀ cidr ip, isPodAddress cidr ip = true → Live (s'.setConn c x) ip → Live s ip := by
    intro cidr ip hpod h
    exact ⟨hplumbed ▸ h.1, (hlo0 cidr ip hpod).mp h.2⟩
  have hnode' : (s'.setConn c x).nodePodCIDR = s.nodePodCIDR := hnode
  refine ⟨?_, ?_, ?_, ?_, ?_, ?_, ?_, ?_⟩
  · intro ip hip
    exact hs.is4 ip (hplumbed ▸ hip)
  · intro c' ip h
    rcases stage_cases hconns c' with ⟨-, hc⟩ | ⟨-, hc⟩
    · exact hs.ensuring c' ip (hc ▸ h)
    · exact hens ip (hc ▸ h)
  · intro ip hip hpod
    rw [hnode'] at hpod
    rcases hs.tracked_elsewhere hconns hold (hlive _ ip hpod hip) hpod with hin | hc
    · exact .inl (haliases ▸ hin)
    · exact .inr hc
  · intro ip cidr hip hrange hwithin hpod
    rw [hnode']
    exact hs.own ip cidr (hlive cidr ip hpod hip) hrange hwithin hpod
  · intro ip hip hpod
    rw [hnode'] at hpod
    have hlook := hs.aliased ip (hlive _ ip hpod hip) hpod
    rwa [← haliased] at hlook
  · intro c' ip h hip
    rw [hnode', ← Bool.not_eq_true]
    intro hpod
    have hold := (Server.stage_back id hconns (hremoved ip) h).2
    cases (hs.removed c' ip hold (hlive _ ip hpod hip)).symm.trans hpod
  · intro c' want args h
    refine hs.checked_elsewhere hnode haliases (Server.stage_back id hconns ?_ h).2
    rintro hx
    rw [show x.stage = _ from hx] at hlock
    cases hlock
  · intro c' want h
    exact hs.moved_of hconns hnode (hlive _) (Stage.moved_of_not_holdsMu hlock)
      (fun hx => .inr (hfree hx)) hb h

lemma plain (hb : Base cfg s) (hs : Guarded cfg s) (hconns : s'.conns = s.conns)
    (hnode : s'.nodePodCIDR = s.nodePodCIDR) (haliases : s'.aliases = s.aliases)
    (hplumbed : s'.plumbed = s.plumbed) (hpods : SamePods s.priv s'.priv)
    (hold : ∀ ip, s.stage c ≠ .ensured ip) (hnew : x.stage.neutral = true) :
    Guarded cfg (s'.setConn c x) := by
  obtain ⟨hens, hlock⟩ := Stage.neutral_spec hnew
  refine setConn hb hs hconns hnode haliases hplumbed hpods.aliased hpods.lo0 hold ?_ ?_ ?_ hlock
  · intro ip h
    rw [h] at hnew
    cases hnew
  · intro h
    cases hens.symm.trans h
  · intro ip h
    rw [h] at hnew
    cases hnew

lemma own_of_range (hb : Base cfg s) {cidr : Prefix} (h4 : ip.is4 = true)
    (hrange : cfg.clusterAggregate.contains ip = true →
      s.nodePodCIDR.contains ip = true ∧ isNodeCIDR s.nodePodCIDR = true)
    (hcidr : IsNodeRange cidr) (hwithin : withinAggregate cidr cfg.clusterAggregate = true)
    (hpod : isPodAddress cidr ip = true) : cidr = s.nodePodCIDR := by
  have hin := contains_of_isPodAddress hcidr.masked_eq h4 hpod
  cases ip with
  | zero => cases h4
  | v6 b zone => cases h4
  | v4 b =>
    obtain ⟨hown, hnodeCIDR⟩ := hrange (aggregate_contains hcidr hwithin hin)
    rw [← hb.masked] at hnodeCIDR
    have hown' := isNodeRange_masked hnodeCIDR
    rw [hb.masked] at hown'
    exact eq_of_isPodAddress hcidr hown' hpod hown

lemma ensured (hs : Guarded cfg s) {o : Outcomes} (hb : Base cfg s) (hconns : s'.conns = s.conns)
    (hnode : s'.nodePodCIDR = s.nodePodCIDR) (haliases : s'.aliases = s.aliases)
    (hplumbed : s'.plumbed = insert ip s.plumbed)
    (hlo0 : s'.priv.kernel.lo0 = insert ip s.priv.kernel.lo0)
    (haliased : s'.priv.aliased = s.priv.aliased.insert ip .live) (hc : s.stage c = .ensuring ip)
    (hx : x.stage = .ensured ip) (hok : EnsureOk cfg s (.ensureExec c o)) :
    Guarded cfg (s'.setConn c x) := by
  obtain ⟨hremoved, hrange⟩ := (hok (c, o) rfl).2 ip (by rw [hc]; rfl)
  have h4 := hs.ensuring c ip hc
  have hnode' : (s'.setConn c x).nodePodCIDR = s.nodePodCIDR := hnode
  have hself : (s'.setConn c x).stage c = .ensured ip := Base.stage_self.trans hx
  have hold : ∀ y, s.stage c ≠ .ensured y := fun y h => by cases hc.symm.trans h
  have hlive : ∀ y, y ≠ ip → Live (s'.setConn c x) y → Live s y := by
    rintro y hne ⟨hy, hy'⟩
    have h1 : y ∈ insert ip s.plumbed := hplumbed ▸ hy
    have h2 : y ∈ insert ip s.priv.kernel.lo0 := hlo0 ▸ hy'
    exact ⟨Finset.mem_of_mem_insert_of_ne h1 hne, Finset.mem_of_mem_insert_of_ne h2 hne⟩
  -- an adoption that has moved the executor found no `EnsureAlias` on its way
  have hstill : ∀ c', (s.stage c').moved? = none := by
    intro c'
    cases hm : (s.stage c').moved? with
    | none => rfl
    | some want =>
      have hens := (hs.moved c' want hm).1 c
      rw [hc] at hens
      cases hens
  refine ⟨?_, ?_, ?_, ?_, ?_, ?_, ?_, ?_⟩
  · intro y hy
    have hy' : y ∈ insert ip s.plumbed := hplumbed ▸ hy
    rcases Finset.mem_insert.mp hy' with rfl | hy'
    · exact h4
    · exact hs.is4 y hy'
  · intro c' y h
    exact hs.ensuring c' y (Server.stage_back id hconns (by simp [hx]) h).2
  · intro y hy hpod
    rw [hnode'] at hpod
    by_cases heq : y = ip
    · exact .inr ⟨c, heq ▸ hself⟩
    · rcases hs.tracked_elsewhere hconns hold (hlive y heq hy) hpod with hin | hc'
      · exact .inl (haliases ▸ hin)
      · exact .inr hc'
  · intro y cidr hy hcidr hwithin hpod
    rw [hnode']
    by_cases heq : y = ip
    · exact own_of_range hb h4 hrange hcidr hwithin (heq ▸ hpod)
    · exact hs.own y cidr (hlive y heq hy) hcidr hwithin hpod
  · intro y hy hpod
    rw [hnode'] at hpod
    have hlook : (s'.setConn c x).priv.aliased = s.priv.aliased.insert ip .live := haliased
    rw [hlook, GoMap.lookup_insert_ite]
    split
    · exact Option.some_ne_none _
    · rename_i hne
      exact hs.aliased y (hlive y hne hy) hpod
  · intro c' y h hy
    rw [hnode']
    have h : s.stage c' = _ := (Server.stage_back id hconns (by simp [hx]) h).2
    have hne : y ≠ ip := by
      rintro rfl
      have hnot := Server.stage_of_anyStage rfl hremoved c'
      simp [h] at hnot
    exact hs.removed c' y h (hlive y hne hy)
  · intro c' want args h
    exact hs.checked_elsewhere hnode haliases (Server.stage_back id hconns (by simp [hx]) h).2
  · intro c' want h
    have hold := (Server.stage_back Stage.moved? hconns (by rw [hx]; simp [Stage.moved?]) h).2
    cases (hstill c').symm.trans hold

lemma recorded (hb : Base cfg s) (hs : Guarded cfg s) {aliases : Finset Addr} (hmu : s.mu = none)
    (htracked : ∀ ip, Live s ip → isPodAddress s.nodePodCIDR ip = true →
      ip ∈ aliases ∨ ∃ c', c' ≠ c ∧ s.stage c' = .ensured ip) :
    Guarded cfg ({ s with aliases := aliases }.goto c .idle) := by
  refine ⟨hs.is4, ?_, ?_, hs.own, hs.aliased, ?_, ?_, ?_⟩
  · intro c' ip h
    exact hs.ensuring c' ip (Server.stage_back id rfl (by simp) h).2
  · intro ip hip hpod
    rcases htracked ip hip hpod with hin | ⟨c', hne, hc'⟩
    · exact .inl hin
    · refine .inr ⟨c', ?_⟩
      rw [Server.stage_goto, if_neg hne]
      exact hc'
  · intro c' ip h
    exact hs.removed c' ip (Server.stage_back id rfl (by simp) h).2
  · intro c' want args h
    have hout := hb.mu.outside hmu c'
    rw [show s.stage c' = _ from (Server.stage_back id rfl (by simp) h).2] at hout
    cases hout
  · intro c' want h
    have hold := (Server.stage_back Stage.moved? rfl (fun h => by cases h) h).2
    cases (hb.not_moved hmu c').symm.trans hold

lemma kept_of_removeAlias (hb : Base cfg s) (hs : Guarded cfg s) {o : Outcomes}
    (hlo0 : ip ∈ (s.priv.removeAlias o ip).1.kernel.lo0) (hplumbed : ip ∈ s.plumbed)
    (hpod : isPodAddress s.nodePodCIDR ip = true) :
    (s.priv.removeAlias o ip).1.aliased.lookup ip ≠ none ∧ (s.priv.removeAlias o ip).2 ≠ none := by
  have hlive : Live s ip := ⟨hplumbed, (s.priv.removeAlias_frame o ip).1 hlo0⟩
  have hsynced : s.priv.nodePodCIDR = s.nodePodCIDR := by
    refine hb.synced fun c => ?_
    cases hm : (s.stage c).moved? with
    | none => rfl
    | some want => cases ((hs.moved c want hm).2 ip hlive).symm.trans hpod
  have hlook := hs.aliased ip hlive hpod
  rw [← hsynced] at hpod
  cases DarwinApplier.removeAlias_effect (o := o) hpod with
  | unchanged hal _ _ herr =>
    rw [hal]
    exact ⟨hlook, fun hnone => hlook (herr hnone)⟩
  | pending hal _ _ herr =>
    rw [hal, GoMap.lookup_insert_ite, if_pos rfl]
    exact ⟨Option.some_ne_none _, herr⟩
  | blackholed _ hgone _ _ =>
    rw [hgone] at hlo0
    exact absurd hlo0 (Finset.notMem_erase ip _)

lemma removeExec (hb : Base cfg s) (hs : Guarded cfg s) {o : Outcomes}
    (hc : s.stage c = .removing ip) (hx : x.stage = .idle ∧ (s.priv.removeAlias o ip).2 ≠ none ∨
      x.stage = .removed ip ∧ (s.priv.removeAlias o ip).2 = none) :
    Guarded cfg ({ s with priv := (s.priv.removeAlias o ip).1 }.setConn c x) := by
  obtain ⟨hsub, hother⟩ := s.priv.removeAlias_frame o ip
  have hlive : ∀ y, Live ({ s with priv := (s.priv.removeAlias o ip).1 }.setConn c x) y →
      Live s y := fun y hy => ⟨hy.1, hsub hy.2⟩
  have hold : ∀ y, s.stage c ≠ .ensured y := fun y h => by cases hc.symm.trans h
  have hx' : x.stage = .idle ∨ x.stage = .removed ip := hx.imp And.left And.left
  refine ⟨hs.is4, ?_, ?_, ?_, ?_, ?_, ?_, ?_⟩
  · intro c' y h
    exact hs.ensuring c' y (Server.stage_back id rfl (by rcases hx' with hx | hx <;> simp [hx]) h).2
  · intro y hy hpod
    exact hs.tracked_elsewhere rfl hold (hlive y hy) hpod
  · intro y cidr hy
    exact hs.own y cidr (hlive y hy)
  · intro y hy hpod
    by_cases heq : y = ip
    · subst heq
      exact (kept_of_removeAlias hb hs hy.2 hy.1 hpod).1
    · have hlook := hs.aliased y (hlive y hy) hpod
      rwa [← hother y heq] at hlook
  · intro c' y h hy
    rcases stage_cases rfl c' with ⟨-, hc'⟩ | ⟨-, hc'⟩
    · exact hs.removed c' y (hc' ▸ h) (hlive y hy)
    rw [← Bool.not_eq_true]
    intro hpod
    rcases hx with ⟨hx, -⟩ | ⟨hx, herr⟩
    · cases (hc'.trans hx).symm.trans h
    · cases (hc'.trans hx).symm.trans h
      exact (kept_of_removeAlias hb hs hy.2 hy.1 hpod).2 herr
  · intro c' want args h
    exact hs.checked c' want args
      (Server.stage_back id rfl (by rcases hx' with hx | hx <;> simp [hx]) h).2
  · intro c' want h
    refine hs.moved_of rfl rfl (fun y _ hy => hlive y hy) ?_ ?_ hb h
    · rcases hx' with hx' | hx' <;> rw [hx'] <;> rfl
    · intro hens
      rcases hx' with hx' | hx' <;> rw [hx'] at hens <;> cases hens

lemma adoptChecked (hb : Base cfg s) (hs : Guarded cfg s) (hmu : s.mu = none)
    (hc : s.stage c = .adopting want args) (hzero : s.livePodAliases = 0) :
    Guarded cfg ({ s with icMu := some c, mu := some c }.goto c (.adoptChecked want args)) := by
  refine ⟨hs.is4, ?_, ?_, hs.own, hs.aliased, ?_, fun _ _ _ _ => hzero, ?_⟩
  · intro c' ip h
    exact hs.ensuring c' ip (Server.stage_back id rfl (by simp) h).2
  · intro ip hip hpod
    exact hs.tracked_elsewhere rfl (fun y h => by cases hc.symm.trans h) hip hpod
  · intro c' ip h
    exact hs.removed c' ip (Server.stage_back id rfl (by simp) h).2
  · intro c' p h
    have hold := (Server.stage_back Stage.moved? rfl (fun h => by cases h) h).2
    cases (hb.not_moved hmu c').symm.trans hold

lemma adoptSet (hb : Base cfg s) (hs : Guarded cfg s) {o : MeshOutcomes}
    (hc : s.stage c = .adoptChecked want args) (hset : (s.priv.setNodePodCIDR o want).2 = none)
    (hquiet : Quiet Stage.ensures s (.adoptExec c o)) :
    Guarded cfg ({ s with priv := (s.priv.setNodePodCIDR o want).1 }.goto c
      (.adoptSet want args)) := by
  obtain ⟨-, -, hlo0⟩ := (s.priv.setNodePodCIDR_spec o want).2 hset
  have hens := hquiet.stage hc hset rfl
  have hlive : ∀ cidr ip, isPodAddress cidr ip = true →
      Live ({ s with priv := (s.priv.setNodePodCIDR o want).1 }.goto c (.adoptSet want args)) ip →
      Live s ip := fun cidr ip hpod h => ⟨h.1, (hlo0 cidr ip hpod).mp h.2⟩
  have hnone : ∀ ip, Live ({ s with priv := (s.priv.setNodePodCIDR o want).1 }.goto c
      (.adoptSet want args)) ip → isPodAddress s.nodePodCIDR ip = false := by
    intro ip h
    rw [← Bool.not_eq_true]
    intro hpod
    have hip := hlive _ ip hpod h
    rcases hs.tracked ip hip hpod with hin | ⟨c', hc'⟩
    · have hout := livePodAliases_eq_zero (hs.checked c want args hc) hin
      have hin' := contains_of_isPodAddress hb.masked (hs.is4 ip hip.1) hpod
      cases hout.symm.trans hin'
    · have hnot := hens c'
      rw [hc'] at hnot
      cases hnot
  have hens' : ∀ c', (({ s with priv := (s.priv.setNodePodCIDR o want).1 }.goto c
      (.adoptSet want args)).stage c').ensures = false := by
    intro c'
    rw [Server.stage_goto]
    split
    · rfl
    · exact hens c'
  refine ⟨hs.is4, ?_, ?_, ?_, ?_, fun _ ip _ hip => hnone ip hip, ?_, fun _ _ _ => ⟨hens', hnone⟩⟩
  · intro c' ip h
    have hnot := hens' c'
    rw [h] at hnot
    cases hnot
  · intro ip hip hpod
    cases (hnone ip hip).symm.trans hpod
  · intro ip cidr hip hcidr hwithin hpod
    exact hs.own ip cidr (hlive cidr ip hpod hip) hcidr hwithin hpod
  · intro ip hip hpod
    cases (hnone ip hip).symm.trans hpod
  · intro c' p args' h
    exact hs.checked c' p args' (Server.stage_back id rfl (by simp) h).2

lemma adoptWrite (hb : Base cfg s) (hs : Guarded cfg s) (hc : s.stage c = .adoptSet want args) :
    Guarded cfg ({ s with nodePodCIDR := want, identityConfirmed := true, icMu := none
                          mu := none }.goto c (.adopted args)) := by
  have hholds : (s.stage c).holdsMu = true := by
    rw [hc]
    rfl
  have hmoved : (s.stage c).moved? = some want := by
    rw [hc]
    rfl
  have hwant := hb.want c want (by rw [hc]; rfl)
  have hrange : IsNodeRange want := by
    have hnode := (hb.moved c want hmoved).2
    rw [← hwant.1] at hnode ⊢
    exact isNodeRange_masked hnode
  obtain ⟨hens, hpods⟩ := hs.moved c want hmoved
  -- no live alias is a pod address of any node
  have hnone : ∀ ip cidr, Live s ip → IsNodeRange cidr →
      withinAggregate cidr cfg.clusterAggregate = true → isPodAddress cidr ip = false := by
    intro ip cidr hip hcidr hwithin
    rw [← Bool.not_eq_true]
    intro hpod
    rw [hs.own ip cidr hip hcidr hwithin hpod] at hpod
    cases (hpods ip hip).symm.trans hpod
  have hself : ∀ ip, Live s ip → isPodAddress want ip = false :=
    fun ip hip => hnone ip want hip hrange hwant.2
  refine ⟨hs.is4, ?_, ?_, ?_, ?_, fun _ ip _ hip => hself ip hip, ?_, ?_⟩
  · intro c' ip h
    exact hs.ensuring c' ip (Server.stage_back id rfl (by simp) h).2
  · intro ip hip hpod
    cases (hself ip hip).symm.trans hpod
  · intro ip cidr hip hcidr hwithin hpod
    cases (hnone ip cidr hip hcidr hwithin).symm.trans hpod
  · intro ip hip hpod
    cases (hself ip hip).symm.trans hpod
  · intro c' p args' h
    obtain ⟨hne, hold⟩ := Server.stage_back id rfl (by simp) h
    refine absurd (hb.mu.unique ?_ hholds) hne
    rw [show s.stage c' = _ from hold]
    rfl
  · intro c' p h
    obtain ⟨hne, hold⟩ := Server.stage_back Stage.moved? rfl (fun h => by cases h) h
    cases (hb.not_moved_of_ne hholds hne).symm.trans hold

lemma step (hb : Base cfg s) (hs : Guarded cfg s) (hok : Careful cfg s a)
    (h : StepCase cfg s a t) : Guarded cfg t := by
  have hsame : SamePods s.priv s.priv := ⟨rfl, rfl, fun _ _ _ => Iff.rfl⟩
  cases h with
  | refused a => exact hs
  | ensureAlias c text ip x hmu hc hvalid hx =>
    refine setConn hb hs rfl rfl rfl rfl rfl hsame.lo0 ?_ ?_ (fun _ => hmu) ?_ (by rw [hx]; rfl)
    · intro y h
      cases hc.symm.trans h
    · intro y h
      cases hx.symm.trans h
      exact is4_of_validateAliasIP hvalid
    · intro y h
      cases hx.symm.trans h
  | ensureExec c o ip x hc hx =>
    cases hplumbs : s.priv.plumbs o ip with
    | true =>
      obtain ⟨hlo0, haliased, herr⟩ := (s.priv.ensureAlias_spec o ip).1 hplumbs
      rcases hx with ⟨-, hne⟩ | ⟨hx, -⟩
      · exact absurd (herr (hok.2 (c, o) rfl).1) hne
      · exact ensured hs hb rfl rfl rfl rfl hlo0 haliased hc hx hok.2
    | false =>
      obtain ⟨hlo0, haliased, herr⟩ := (s.priv.ensureAlias_spec o ip).2 hplumbs
      rcases hx with ⟨hx, -⟩ | ⟨-, hnone⟩
      · have hpods : SamePods s.priv (s.priv.ensureAlias o ip).1 :=
          ⟨(s.priv.ensureAlias_sameMesh o ip).nodePodCIDR, haliased, fun _ _ _ => by rw [hlo0]⟩
        refine plain hb hs rfl rfl rfl rfl hpods ?_ (by rw [hx]; rfl)
        intro y h
        cases hc.symm.trans h
      · exact absurd hnone herr
  | trackAlias c ip hmu hc =>
    refine recorded hb hs hmu ?_
    intro y hy hpod
    rcases hs.tracked y hy hpod with hin | ⟨c', hc'⟩
    · exact .inl (Finset.mem_insert_of_mem hin)
    by_cases heq : c' = c
    · rw [heq, hc] at hc'
      cases hc'
      exact .inl (Finset.mem_insert_self _ _)
    · exact .inr ⟨c', heq, hc'⟩
  | removeExec c o ip x hc hx => exact removeExec hb hs hc hx
  | untrackAlias c ip hmu hc =>
    refine recorded hb hs hmu ?_
    intro y hy hpod
    rcases hs.tracked y hy hpod with hin | ⟨c', hc'⟩
    · refine .inl (Finset.mem_erase.mpr ⟨?_, hin⟩)
      rintro rfl
      cases (hs.removed c y hc hy).symm.trans hpod
    · refine .inr ⟨c', ?_, hc'⟩
      rintro rfl
      cases hc.symm.trans hc'
  | removeAlias c text ip hmu hc | confirm c args hc | adoptRefused c want args hc
  | adoptFailed c o want args hc | trackMesh c n hmu hc | untrackMesh c hmu hc
  | icRequest c verb slot addr hmu hc | icLock c verb slot addr hic hc
  | icOwn c slot addr hmu hc | icDrop c slot addr hmu hc | icUnlock c hc =>
    exact plain hb hs rfl rfl rfl rfl hsame (fun y h => by cases hc.symm.trans h) rfl
  | configureMesh c args st hc hst =>
    rcases hst with rfl | rfl | ⟨want, rfl, -⟩ <;>
      exact plain hb hs rfl rfl rfl rfl hsame (fun y h => by cases hc.symm.trans h) rfl
  | adoptChecked c want args hic hmu hc hne hlive howned => exact adoptChecked hb hs hmu hc hlive
  | adoptSet c o want args hc hset => exact adoptSet hb hs hc hset hok.1
  | adoptWrite c want args hc => exact adoptWrite hb hs hc
  | validate c args x hmu hc hx =>
    have hnew : x.stage.neutral = true := by
      rcases hx with hx | ⟨specs, plan, hx, -⟩ <;> rw [hx] <;> rfl
    exact plain hb hs rfl rfl rfl rfl hsame (fun y h => by cases hc.symm.trans h) hnew
  | resolveKey c err plan st hc hst | icExec c o verb slot addr st hc hst =>
    rcases hst with rfl | rfl <;>
      exact plain hb hs rfl rfl rfl rfl hsame (fun y h => by cases hc.symm.trans h) rfl
  | configureExec c o plan st hc hst =>
    have hpods := s.priv.configureMesh_samePods o
    rcases hst with rfl | ⟨n, rfl⟩ <;>
      exact plain hb hs rfl rfl rfl rfl hpods (fun y h => by cases hc.symm.trans h) rfl
  | removeMesh c o st hc hst =>
    have hpods := s.priv.removeMesh_samePods o
    rcases hst with rfl | rfl <;>
      exact plain hb hs rfl rfl rfl rfl hpods (fun y h => by cases hc.symm.trans h) rfl

lemma init (h : Started cfg s) : Guarded cfg s := by
  have hdead : ∀ ip, ¬ Live s ip := by
    intro ip hip
    have hmem := hip.1
    rw [h.plumbed] at hmem
    exact absurd hmem (Finset.notMem_empty ip)
  refine ⟨?_, ?_, fun ip hip => absurd hip (hdead ip), fun ip _ hip => absurd hip (hdead ip),
    fun ip hip => absurd hip (hdead ip), fun _ ip _ hip => absurd hip (hdead ip), ?_, ?_⟩
  · intro ip hip
    rw [h.plumbed] at hip
    exact absurd hip (Finset.notMem_empty ip)
  · intro c ip hc
    cases (h.stage c).symm.trans hc
  · intro c want args hc
    cases (h.stage c).symm.trans hc
  · intro c want hc
    rw [h.stage c] at hc
    cases hc

end Guarded

lemma StepCase.adoptWrite_of_ne {cfg : Config} {s t : Server} {a : Label} (h : StepCase cfg s a t)
    (hne : t.nodePodCIDR ≠ s.nodePodCIDR) : t.priv = s.priv ∧ t.plumbed = s.plumbed ∧
      ∃ c want, (s.stage c).moved? = some want ∧ t.nodePodCIDR = want := by
  cases h with
  | adoptWrite c want args hc => exact ⟨rfl, rfl, c, want, by rw [hc]; rfl, rfl⟩
  | _ => exact absurd rfl hne

/-- A step that moves the identity leaves no plumbed pod address of the old one on lo0, where no
adoption falls into an `EnsureAlias` and every `EnsureAlias` is `EnsureOk`. -/
theorem adopt_without_live_alias {cfg : Config} {s t : Server} {a : Label}
    (h : (netdMachine cfg).Reach (Careful cfg) s) (hstep : (netdMachine cfg).step s a = some t)
    (hmoves : t.nodePodCIDR ≠ s.nodePodCIDR) {ip : Addr} (hip : ip ∈ t.plumbed)
    (hpod : isPodAddress s.nodePodCIDR ip = true) : ip ∉ t.priv.kernel.lo0 := by
  have hinv : Base cfg s ∧ Guarded cfg s := Base.under h .init .step
  obtain ⟨hpriv, hplumbed, c, want, hmoved, -⟩ := (step_cases hstep).adoptWrite_of_ne hmoves
  rw [hplumbed] at hip
  rw [hpriv]
  intro hlo0
  cases ((hinv.2.moved c want hmoved).2 ip ⟨hip, hlo0⟩).symm.trans hpod

def labPod : Addr := .v4 0x0a2a0005

/-- An adoption inside an `EnsureAlias` moves the identity away under a live pod alias. -/
theorem adopt_under_live_alias : ∃ s t, (netdMachine labConfig).Reach Machine.always s ∧
    (netdMachine labConfig).step s (.adoptWrite 1) = some t ∧ t.nodePodCIDR ≠ s.nodePodCIDR ∧
    labPod ∈ t.plumbed ∧ isPodAddress s.nodePodCIDR labPod = true ∧ labPod ∈ t.priv.kernel.lo0 :=
  Machine.Reach.exists_step
    ([.ensureAlias 0 "10.42.0.5", .ensureExec 0 {}] ++ (adoptSteps 1).dropLast)
    started_labServer (Machine.meets_always _ _) (by decide +kernel)

theorem adopt_without_live_alias_removed : ∃ s t,
    (netdMachine labConfig).Reach (Careful labConfig) s ∧
    (netdMachine labConfig).step s (.adoptWrite 1) = some t ∧ labPod ∈ t.plumbed ∧
      isPodAddress s.nodePodCIDR labPod = true ∧ labPod ∉ t.priv.kernel.lo0 := by
  obtain ⟨s, t, hreach, ht, hmoves, hplumbed, hpod⟩ :
      ∃ s t, (netdMachine labConfig).Reach (Careful labConfig) s ∧
        (netdMachine labConfig).step s (.adoptWrite 1) = some t ∧
        t.nodePodCIDR ≠ s.nodePodCIDR ∧ labPod ∈ t.plumbed ∧
        isPodAddress s.nodePodCIDR labPod = true :=
    Machine.Reach.exists_step ([.ensureAlias 0 "10.42.0.5", .ensureExec 0 {}, .trackAlias 0,
      .removeAlias 0 "10.42.0.5", .removeExec 0 {}, .untrackAlias 0] ++ (adoptSteps 1).dropLast)
      started_labServer (by decide +kernel) (by decide +kernel)
  exact ⟨s, t, hreach, ht, hplumbed, hpod, adopt_without_live_alias hreach ht hmoves hplumbed hpod⟩

end DarwinNet.Netd
