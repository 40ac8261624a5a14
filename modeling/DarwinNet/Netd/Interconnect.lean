import DarwinNet.Netd.Steps

/-!
Interconnect ownership and the node identity (`interconnect.go`, `adoptNodePodCIDR`).

`interconnectTarget` derives the address before the verb takes `s.icMu`. An adoption can
run in between, and the verb then records an address of the old identity
(`interconnect_owned_stale`). Without such an adoption every owned entry is derived from
the identity in force (`interconnect_owned_current`).
-/

namespace DarwinNet.Netd

open Lib Netip

namespace Stage

def awaitsIcMu : Stage → Bool
  | .icTarget .ensure _ _ => true
  | _ => false

def ensureTarget? : Stage → Option (Int × Addr)
  | .icTarget .ensure slot addr | .icHeld .ensure slot addr | .icCommit .ensure slot addr =>
    some (slot, addr)
  | _ => none

lemma awaits_or_holds {st : Stage} {e : Int × Addr} (h : st.ensureTarget? = some e) :
    st.awaitsIcMu = true ∨ st.holdsIcMu = true := by
  unfold ensureTarget? at h
  split at h
  · exact .inl rfl
  · exact .inr rfl
  · exact .inr rfl
  · cases h

end Stage

/-- Owned entries and pending ones are of the identity in force; there are none while it
moves. -/
structure Derived (cfg : Config) (s : Server) : Prop where
  owned : ∀ slot addr, s.icOwned.lookup slot = some addr →
    interconnectAddress cfg s.nodePodCIDR slot = some addr
  target : ∀ c slot addr, (s.stage c).ensureTarget? = some (slot, addr) →
    interconnectAddress cfg s.nodePodCIDR slot = some addr
  checked : ∀ c, (s.stage c).holdsMu = true → ∀ slot, s.icOwned.lookup slot = none
  moved : ∀ c p, (s.stage c).moved? = some p → ∀ c', (s.stage c').ensureTarget? = none

namespace Derived

variable {cfg : Config} {s s' t : Server} {a : Label} {c : Nat} {want : Prefix}
  {args : ConfigureMeshArgs}

lemma setConn (hb : Base cfg s) (hs : Derived cfg s) {x : Conn} (hconns : s'.conns = s.conns)
    (hnode : s'.nodePodCIDR = s.nodePodCIDR)
    (howned : ∀ slot addr, s'.icOwned.lookup slot = some addr → s.icOwned.lookup slot = some addr ∨
        s.mu = none ∧ interconnectAddress cfg s.nodePodCIDR slot = some addr)
    (hmu : x.stage.holdsMu = false)
    (htarget : ∀ slot addr, x.stage.ensureTarget? = some (slot, addr) →
      (s.stage c).ensureTarget? = some (slot, addr) ∨
        s.mu = none ∧ interconnectAddress cfg s.nodePodCIDR slot = some addr) :
    Derived cfg (s'.setConn c x) := by
  have hother := Base.stage_other (c := c) (x := x) hconns
  have hself : (s'.setConn c x).stage c = x.stage := Base.stage_self
  have hholds : ∀ c', ((s'.setConn c x).stage c').holdsMu = true →
      c' ≠ c ∧ (s.stage c').holdsMu = true :=
    fun c' h => Server.stage_back Stage.holdsMu hconns (by simp [hmu]) h
  have hnode' : (s'.setConn c x).nodePodCIDR = s.nodePodCIDR := hnode
  refine ⟨?_, ?_, ?_, ?_⟩
  · intro slot addr h
    rw [hnode']
    rcases howned slot addr h with h | ⟨-, h⟩
    · exact hs.owned slot addr h
    · exact h
  · intro c' slot addr h
    rw [hnode']
    by_cases hc : c' = c
    · rw [hc, hself] at h
      rcases htarget slot addr h with h | ⟨-, h⟩
      · exact hs.target c slot addr h
      · exact h
    · rw [hother c' hc] at h
      exact hs.target c' slot addr h
  · intro c' h slot
    cases hl : (s'.setConn c x).icOwned.lookup slot with
    | none => rfl
    | some addr =>
      have hc' := (hholds c' h).2
      rcases howned slot addr hl with hold | ⟨hfree, -⟩
      · cases (hs.checked c' hc' slot).symm.trans hold
      · cases (hb.mu.outside hfree c').symm.trans hc'
  · intro c' p h c''
    obtain ⟨hne, hc'⟩ := hholds c' (Stage.holdsMu_of_moved h)
    rw [hother c' hne] at h
    by_cases hc : c'' = c
    · rw [hc, hself]
      cases ht : x.stage.ensureTarget? with
      | none => rfl
      | some e =>
        rcases htarget e.1 e.2 ht with hold | ⟨hfree, -⟩
        · cases (hs.moved c' p h c).symm.trans hold
        · cases (hb.mu.outside hfree c').symm.trans hc'
    · rw [hother c'' hc]
      exact hs.moved c' p h c''

lemma plain (hb : Base cfg s) (hs : Derived cfg s) {x : Conn} (hconns : s'.conns = s.conns)
    (hnode : s'.nodePodCIDR = s.nodePodCIDR) (howned : s'.icOwned = s.icOwned)
    (hmu : x.stage.holdsMu = false)
    (htarget : x.stage.ensureTarget? = none ∨ x.stage.ensureTarget? = (s.stage c).ensureTarget?) :
    Derived cfg (s'.setConn c x) := by
  refine setConn hb hs hconns hnode ?_ hmu ?_
  · intro slot addr h
    rw [howned] at h
    exact .inl h
  · intro slot addr h
    rcases htarget with hnone | hsame
    · rw [hnone] at h
      cases h
    · rw [hsame] at h
      exact .inl h

lemma adoptChecked (hs : Derived cfg s) (hsize : s.icOwned.size = 0)
    (hfree : ∀ c, (s.stage c).moved? = none) :
    Derived cfg ({ s with icMu := some c, mu := some c }.goto c (.adoptChecked want args)) := by
  have hempty : ∀ slot, s.icOwned.lookup slot = none := by
    intro slot
    rw [GoMap.size_eq_zero.mp hsize]
    rfl
  refine ⟨hs.owned, ?_, fun _ _ => hempty, ?_⟩
  · intro c' slot addr h
    exact hs.target c' slot addr
      (Server.stage_back Stage.ensureTarget? rfl (fun h => by cases h) h).2
  · intro c' p h
    have hold := (Server.stage_back Stage.moved? rfl (fun h => by cases h) h).2
    cases (hfree c').symm.trans hold

lemma adoptSet (hb : Base cfg s) (hs : Derived cfg s) {o : MeshOutcomes}
    (hc : s.stage c = .adoptChecked want args) (hset : (s.priv.setNodePodCIDR o want).2 = none)
    (hquiet : Quiet Stage.awaitsIcMu s (.adoptExec c o)) :
    Derived cfg ({ s with priv := (s.priv.setNodePodCIDR o want).1 }.goto c
      (.adoptSet want args)) := by
  have hholds : (s.stage c).holdsIcMu = true := by
    rw [hc]
    rfl
  -- a verb past its lock would hold the lock of the adoption
  have hnone : ∀ c', (s.stage c').ensureTarget? = none := by
    intro c'
    cases ht : (s.stage c').ensureTarget? with
    | none => rfl
    | some e =>
      rcases Stage.awaits_or_holds ht with hawaits | hin
      · cases (hquiet.stage hc hset rfl c').symm.trans hawaits
      · rw [hb.icMu.unique hin hholds, hc] at ht
        cases ht
  have hnone' : ∀ c', (({ s with priv := (s.priv.setNodePodCIDR o want).1 }.goto c
      (.adoptSet want args)).stage c').ensureTarget? = none := by
    intro c'
    rw [Server.stage_goto]
    split
    · rfl
    · exact hnone c'
  refine ⟨hs.owned, ?_, fun _ _ => hs.checked c (by rw [hc]; rfl), fun _ _ _ => hnone'⟩
  intro c' slot addr h
  cases (hnone' c').symm.trans h

lemma adoptWrite (hs : Derived cfg s) (hc : s.stage c = .adoptSet want args) :
    Derived cfg ({ s with nodePodCIDR := want, identityConfirmed := true, icMu := none
                          mu := none }.goto c (.adopted args)) := by
  have hempty := hs.checked c (by rw [hc]; rfl)
  have hnone := hs.moved c want (by rw [hc]; rfl)
  refine ⟨?_, ?_, fun _ _ => hempty, ?_⟩
  · intro slot addr h
    cases (hempty slot).symm.trans h
  · intro c' slot addr h
    have hold := (Server.stage_back Stage.ensureTarget? rfl (fun h => by cases h) h).2
    cases (hnone c').symm.trans hold
  · intro c' p h c''
    rw [Server.stage_goto]
    split
    · rfl
    · exact hnone c''

lemma step (hb : Base cfg s) (hs : Derived cfg s) (hok : Quiet Stage.awaitsIcMu s a)
    (h : StepCase cfg s a t) : Derived cfg t := by
  cases h with
  | refused a => exact hs
  | ensureAlias c text ip x hmu hc hvalid hx =>
    exact plain hb hs rfl rfl rfl (by rw [hx]; rfl) (.inl (by rw [hx]; rfl))
  | ensureExec c o ip x hc hx | removeExec c o ip x hc hx =>
    rcases hx with ⟨hx, -⟩ | ⟨hx, -⟩ <;>
      exact plain hb hs rfl rfl rfl (by rw [hx]; rfl) (.inl (by rw [hx]; rfl))
  | validate c args x hmu hc hx =>
    rcases hx with hx | ⟨specs, plan, hx, -⟩ <;>
      exact plain hb hs rfl rfl rfl (by rw [hx]; rfl) (.inl (by rw [hx]; rfl))
  | trackAlias | untrackAlias | removeAlias | confirm | adoptRefused | adoptFailed | trackMesh
  | untrackMesh | icUnlock => exact plain hb hs rfl rfl rfl rfl (.inl rfl)
  | configureMesh c args st hc hst =>
    rcases hst with rfl | rfl | ⟨want, rfl, -⟩ <;> exact plain hb hs rfl rfl rfl rfl (.inl rfl)
  | resolveKey c err plan st hc hst | removeMesh c o st hc hst =>
    rcases hst with rfl | rfl <;> exact plain hb hs rfl rfl rfl rfl (.inl rfl)
  | configureExec c o plan st hc hst =>
    rcases hst with rfl | ⟨n, rfl⟩ <;> exact plain hb hs rfl rfl rfl rfl (.inl rfl)
  | adoptChecked c want args hic hmu hc hne hlive howned =>
    exact adoptChecked hs howned (hb.not_moved hmu)
  | adoptSet c o want args hc hset => exact adoptSet hb hs hc hset hok
  | adoptWrite c want args hc => exact adoptWrite hs hc
  | icRequest c verb slot addr hmu hc htarget =>
    refine setConn hb hs rfl rfl (fun _ _ h => .inl h) rfl ?_
    intro slot' addr' h
    cases verb with
    | ensure =>
      cases h
      exact .inr ⟨hmu, interconnectAddress_of_target htarget⟩
    | remove => cases h
  | icLock c verb slot addr hic hc =>
    refine plain hb hs rfl rfl rfl rfl (.inr ?_)
    rw [hc]
    cases verb <;> rfl
  | icExec c o verb slot addr st hc hst =>
    rcases hst with rfl | rfl
    · refine plain hb hs rfl rfl rfl rfl (.inr ?_)
      rw [hc]
      cases verb <;> rfl
    · exact plain hb hs rfl rfl rfl rfl (.inl rfl)
  | icOwn c slot addr hmu hc =>
    refine setConn hb hs rfl rfl ?_ rfl (fun _ _ h => by cases h)
    intro slot' addr' h
    rw [GoMap.lookup_insert_ite] at h
    split at h
    · rename_i heq
      cases h
      rw [heq]
      exact .inr ⟨hmu, hs.target c slot addr (by rw [hc]; rfl)⟩
    · exact .inl h
  | icDrop c slot addr hmu hc =>
    refine setConn hb hs rfl rfl ?_ rfl (fun _ _ h => by cases h)
    intro slot' addr' h
    rw [GoMap.lookup_erase_ite] at h
    split_ifs at h
    exact .inl h

lemma init (h : Started cfg s) : Derived cfg s := by
  refine ⟨h.icOwned, ?_, ?_, ?_⟩
  · intro c slot addr ht
    rw [h.stage c] at ht
    cases ht
  · intro c hc
    rw [h.stage c] at hc
    cases hc
  · intro c p hc
    rw [h.stage c] at hc
    cases hc

end Derived

/-- Every interconnect address on record is the one its slot has under the identity in force, where
no adoption comes between its derivation and its record. -/
theorem interconnect_owned_current {cfg : Config} {s : Server}
    (h : (netdMachine cfg).Reach (Quiet Stage.awaitsIcMu) s) (slot : Int) (addr : Addr)
    (hown : s.icOwned.lookup slot = some addr) :
    interconnectAddress cfg s.nodePodCIDR slot = some addr :=
  (Base.under h Derived.init Derived.step).2.owned slot addr hown

def ensureSteps (c : Nat) : List Label := [.icLock c, .icExec c {}, .icCommit c, .icUnlock c]

def reownSteps : List Label :=
  .icRequest 0 .ensure 1 :: ensureSteps 0 ++ .icRequest 0 .remove 1 :: ensureSteps 0 ++
    adoptSteps 1 ++ .icRequest 0 .ensure 1 :: ensureSteps 0

def staleSteps : List Label := .icRequest 0 .ensure 1 :: adoptSteps 1 ++ ensureSteps 0

/-- An address derived before an adoption is recorded after it. -/
theorem interconnect_owned_stale : ∃ s, (netdMachine labConfig).Reach Machine.always s ∧
    s.icMu = none ∧ s.icOwned.lookup 1 = some (.v4 0xa9fe0001) ∧
      interconnectAddress labConfig s.nodePodCIDR 1 = some (.v4 0xa9fe0009) :=
  Machine.Reach.exists_run staleSteps started_labServer (Machine.meets_always _ _)
    (by decide +kernel)

theorem interconnect_owned_current_reown : ∃ s,
    (netdMachine labConfig).Reach (Quiet Stage.awaitsIcMu) s ∧
      s.icOwned.lookup 1 = some (.v4 0xa9fe0009) ∧
      interconnectAddress labConfig s.nodePodCIDR 1 = some (.v4 0xa9fe0009) := by
  obtain ⟨s, hreach, hown⟩ : ∃ s, (netdMachine labConfig).Reach (Quiet Stage.awaitsIcMu) s ∧
      s.icOwned.lookup 1 = some (.v4 0xa9fe0009) :=
    Machine.Reach.exists_run reownSteps started_labServer (by decide +kernel) (by decide +kernel)
  exact ⟨s, hreach, hown, interconnect_owned_current hreach 1 _ hown⟩

end DarwinNet.Netd
