import DarwinNet.Netd.Identity

/-!
The per-connection alias cap (`server.go`, `connState`): how many lo0 aliases one connection
drives at a time.

The addresses a connection drives are recorded beside the daemon's state (`drivenMachine`): those
its `EnsureAlias` put on lo0, until they leave lo0 or the connection removes them. `addAlias`
counts before the executor call and a failed call is rolled back, also if the address is on lo0
by then or has been before. In a run without such a rollback the connection's count covers what
it drives (`alias_cap_bounds_driven`).
-/

namespace DarwinNet.Netd

open Lib Netip Podnet

/-! ## What a connection drives -/

/-- What a step of connection `c` adds to the driven addresses and takes from them. -/
def drive (c : Nat) (s : Server) (driven : Finset Addr) : Label → Finset Addr
  | .ensureExec c' o =>
    match s.stage c' with
    | .ensuring ip => if c' = c ∧ s.priv.plumbs o ip = true then insert ip driven else driven
    | _ => driven
  | .removeExec c' o =>
    match s.stage c' with
    | .removing ip =>
      if c' = c ∧ (s.priv.removeAlias o ip).2 = none then driven.erase ip else driven
    | _ => driven
  | _ => driven

/-- The daemon with the addresses that are on lo0 because of connection `c` and that it has not
removed. -/
def drivenMachine (cfg : Config) (c : Nat) : Machine (Server × Finset Addr) Label where
  init s := Started cfg s.1 ∧ s.2 = ∅
  step s a := (step cfg s.1 a).map fun t =>
    (t, (drive c s.1 s.2 a).filter fun ip => ip ∈ t.priv.kernel.lo0)

/-- No `EnsureAlias` of the connection fails in the executor with its address on lo0 because of
the connection: neither after the lo0 alias, nor as a second one of an address it drives. -/
def NoLiveRollback (c : Nat) (s : Server × Finset Addr) (a : Label) : Prop :=
  ∀ e ∈ a.ensureExec?, e.1 = c → ∀ ip ∈ (s.1.stage c).ensuring?,
    (s.1.priv.ensureAlias e.2 ip).2 ≠ none → s.1.priv.plumbs e.2 ip = false ∧ ip ∉ s.2

instance decidableNoLiveRollback (c : Nat) (s : Server × Finset Addr) (a : Label) :
    Decidable (NoLiveRollback c s a) :=
  inferInstanceAs (Decidable (∀ e ∈ a.ensureExec?, _))

/-! ## Steps of one connection -/

lemma Server.aliases_goto (s : Server) (c c' : Nat) (st : Stage) :
    ((s.goto c' st).conn c).aliases = (s.conn c).aliases := by
  rw [Server.goto, Server.conn_setConn]
  split
  · next h => rw [h]
  · rfl

inductive ConnStep (cfg : Config) (c : Nat) (s : Server) : Label → Server → Prop
  | asked (text : String) (ip : Addr) (conn : Conn) :
      (s.conn c).addAlias cfg.maxPerConn ip = some conn →
      ConnStep cfg c s (.ensureAlias c text) (s.setConn c { conn with stage := .ensuring ip })
  | ensured (o : Outcomes) (ip : Addr) : s.stage c = .ensuring ip →
      ConnStep cfg c s (.ensureExec c o) (ensureExec s c o ip)
  | removed (o : Outcomes) (ip : Addr) : s.stage c = .removing ip →
      ConnStep cfg c s (.removeExec c o) (removeExec s c o ip)
  | other (a : Label) (t : Server) : (t.conn c).aliases = (s.conn c).aliases →
      (∀ ip, t.stage c = .ensuring ip → s.stage c = .ensuring ip) →
      (∀ driven, drive c s driven a = driven) → ConnStep cfg c s a t

variable {cfg : Config} {c : Nat} {s t : Server} {a : Label}

lemma validate_aliases (c' : Nat) (args : ConfigureMeshArgs) :
    ((validate cfg s c' args).conn c).aliases = (s.conn c).aliases := by
  unfold validate
  split
  · exact s.aliases_goto c c' _
  split
  · exact s.aliases_goto c c' _
  · split
    · exact s.aliases_goto c c' _
    · split
      · exact s.aliases_goto c c' _
      · next conn hset =>
        have hsame : conn.aliases = (s.conn c').aliases := by
          unfold Conn.setMeshRoutes at hset
          split_ifs at hset
          cases hset
          rfl
        rw [Server.conn_setConn]
        split
        · next hc => rw [hc, ← hsame]
        · rfl

def touches (c : Nat) : Label → Bool
  | .ensureAlias c' _ => c' = c
  | .ensureExec c' _ => c' = c
  | .removeExec c' _ => c' = c
  | _ => false

lemma aliases_of_step (h : step cfg s a = some t) (ha : touches c a = false) :
    (t.conn c).aliases = (s.conn c).aliases := by
  cases step_cases h with
  | refused => rfl
  | ensureAlias c' text ip x =>
    have hne : c ≠ c' := fun heq => by simp [touches, heq] at ha
    rw [Server.conn_setConn, if_neg hne]
  | ensureExec c' o ip x =>
    have hne : c ≠ c' := fun heq => by simp [touches, heq] at ha
    rw [Server.conn_setConn, if_neg hne]
    rfl
  | removeExec c' o ip x =>
    have hne : c ≠ c' := fun heq => by simp [touches, heq] at ha
    rw [Server.conn_setConn, if_neg hne]
    rfl
  | validate c' args x hmu hstage hx =>
    simp only [step, hstage, hmu, if_true, Option.some.injEq] at h
    rw [← h]
    exact validate_aliases c' args
  | _ => exact Server.aliases_goto _ _ _ _

lemma ensuring_of_setConn {c' : Nat} {x : Conn} {ip : Addr} (hx : c = c' → x.stage ≠ .ensuring ip)
    (h : (s.setConn c' x).stage c = .ensuring ip) : s.stage c = .ensuring ip := by
  rw [Server.stage_setConn] at h
  split at h
  · next hc => exact absurd h (hx hc)
  · exact h

lemma ensuring_of_step (h : step cfg s a = some t) (ha : touches c a = false) (ip : Addr)
    (hstage : t.stage c = .ensuring ip) : s.stage c = .ensuring ip := by
  cases step_cases h with
  | refused => exact hstage
  | ensureAlias c' text ip' x =>
    exact ensuring_of_setConn (fun heq => by simp [touches, heq] at ha) hstage
  | ensureExec c' o ip' x =>
    exact ensuring_of_setConn (fun heq => by simp [touches, heq] at ha) hstage
  | removeExec c' o ip' x =>
    exact ensuring_of_setConn (fun heq => by simp [touches, heq] at ha) hstage
  | configureMesh c' args st hidle hst =>
    refine ensuring_of_setConn (fun _ => ?_) hstage
    rcases hst with rfl | rfl | ⟨want, rfl, -⟩ <;> simp
  | validate c' args x hmu hs hx =>
    refine ensuring_of_setConn (fun _ => ?_) hstage
    rcases hx with hx | ⟨specs, plan, hx, -⟩ <;> simp [hx]
  | resolveKey c' err plan st hs hst =>
    refine ensuring_of_setConn (fun _ => ?_) hstage
    rcases hst with rfl | rfl <;> simp
  | configureExec c' o plan st hs hst =>
    refine ensuring_of_setConn (fun _ => ?_) hstage
    rcases hst with rfl | ⟨n, rfl⟩ <;> simp
  | removeMesh c' o st hs hst =>
    refine ensuring_of_setConn (fun _ => ?_) hstage
    rcases hst with rfl | rfl <;> simp
  | icExec c' o verb slot addr st hs hst =>
    refine ensuring_of_setConn (fun _ => ?_) hstage
    rcases hst with rfl | rfl <;> simp
  | _ => exact ensuring_of_setConn (fun _ => by simp) hstage

lemma drive_of_not_touches (ha : touches c a = false) (driven : Finset Addr) :
    drive c s driven a = driven := by
  cases a with
  | ensureExec c' o =>
    have hne : c' ≠ c := by simpa [touches] using ha
    simp only [drive]
    split
    · exact if_neg fun h => hne h.1
    · rfl
  | removeExec c' o =>
    have hne : c' ≠ c := by simpa [touches] using ha
    simp only [drive]
    split
    · exact if_neg fun h => hne h.1
    · rfl
  | _ => rfl

/-- What one step can do to a connection. -/
lemma connStep_of_step (h : step cfg s a = some t) : ConnStep cfg c s a t := by
  by_cases ha : touches c a = false
  · exact .other a t (aliases_of_step h ha) (ensuring_of_step h ha) (drive_of_not_touches ha)
  cases a with
  | ensureAlias c' text =>
    have hc : c' = c := by simpa [touches] using ha
    subst hc
    have hrefused : ConnStep cfg c' s (.ensureAlias c' text) s :=
      .other _ _ rfl (fun _ h => h) fun _ => rfl
    simp only [step] at h
    (repeat' split at h) <;> cases h
    · exact hrefused
    · exact hrefused
    · exact hrefused
    · next conn hadd => exact .asked text _ conn hadd
  | ensureExec c' o | removeExec c' o =>
    have hc : c' = c := by simpa [touches] using ha
    subst hc
    simp only [step] at h
    split at h <;> cases h
    next ip hstage => constructor; exact hstage
  | _ => exact absurd rfl ha

/-- The connection has recorded at most the cap, all it drives and what it is ensuring. -/
structure CountCovers (cfg : Config) (c : Nat) (s : Server × Finset Addr) : Prop where
  cap : (s.1.conn c).aliases.card ≤ cfg.maxPerConn
  driven : s.2 ⊆ (s.1.conn c).aliases
  ensuring : ∀ ip, s.1.stage c = .ensuring ip → ip ∈ (s.1.conn c).aliases

/-- An address that is admitted is counted, and the count stays under the cap. -/
lemma addAlias_spec {x x' : Conn} {max : Nat} {ip : Addr} (h : x.addAlias max ip = some x')
    (hcap : x.aliases.card ≤ max) :
    ip ∈ x'.aliases ∧ x.aliases ⊆ x'.aliases ∧ x'.aliases.card ≤ max := by
  unfold Conn.addAlias at h
  split at h
  · next hmem =>
    cases h
    exact ⟨hmem, subset_rfl, hcap⟩
  · next hnew =>
    split_ifs at h
    next hroom =>
    cases h
    refine ⟨Finset.mem_insert_self _ _, Finset.subset_insert _ _, ?_⟩
    rw [Finset.card_insert_of_notMem hnew]
    omega

lemma conn_ensureExec (o : Outcomes) (ip : Addr) : ((ensureExec s c o ip).conn c).aliases =
        (if (s.priv.ensureAlias o ip).2 = none then (s.conn c).aliases
          else (s.conn c).aliases.erase ip) ∧
      ∀ ip', (ensureExec s c o ip).stage c ≠ .ensuring ip' := by
  unfold ensureExec
  simp only
  split
  · next err herr => simp [Conn.removeAlias, herr]
  next herr =>
  refine ⟨(Server.aliases_goto _ c c _).trans ?_, by simp⟩
  rw [if_pos herr]
  rfl

lemma conn_removeExec (o : Outcomes) (ip : Addr) : ((removeExec s c o ip).conn c).aliases =
        (if (s.priv.removeAlias o ip).2 = none then (s.conn c).aliases.erase ip
          else (s.conn c).aliases) ∧
      ∀ ip', (removeExec s c o ip).stage c ≠ .ensuring ip' := by
  unfold removeExec
  simp only
  split
  · next err herr =>
    refine ⟨(Server.aliases_goto _ c c _).trans ?_, by simp⟩
    rw [if_neg (by simp [herr])]
    rfl
  · next herr => simp [Conn.removeAlias, herr]

/-- A step keeps the driven aliases within the count. -/
lemma countCovers_step {s t : Server × Finset Addr} (h : CountCovers cfg c s)
    (hok : NoLiveRollback c s a) (hstep : (drivenMachine cfg c).step s a = some t) :
    CountCovers cfg c t := by
  obtain ⟨s, driven⟩ := s
  obtain ⟨t', hstep', rfl⟩ := Option.map_eq_some_iff.mp hstep
  obtain ⟨hcap, hdriven, hensuring⟩ := h
  have hfilter : (drive c s driven a).filter (fun ip => ip ∈ t'.priv.kernel.lo0) ⊆
      drive c s driven a := Finset.filter_subset _ _
  cases connStep_of_step (c := c) hstep' with
  | asked text ip conn hadd =>
    obtain ⟨hip, hsub, hcap'⟩ := addAlias_spec hadd hcap
    refine ⟨by simpa using hcap', ?_, ?_⟩
    · exact hfilter.trans (hdriven.trans (by simpa using hsub))
    intro ip' hstage
    have heq : ip = ip' := by simpa using hstage
    subst heq
    simpa using hip
  | ensured o ip hstage =>
    have hip := hensuring ip hstage
    obtain ⟨haliases, hnone⟩ := conn_ensureExec (s := s) (c := c) o ip
    have hdrive : drive c s driven (.ensureExec c o) =
        if s.priv.plumbs o ip = true then insert ip driven else driven := by
      simp only [drive, hstage, true_and]
    refine ⟨?_, ?_, fun ip' h => absurd h (hnone ip')⟩
    · rw [haliases]
      split
      · exact hcap
      · exact (Finset.card_le_card (Finset.erase_subset _ _)).trans hcap
    · refine hfilter.trans ?_
      rw [haliases, hdrive]
      by_cases herr : (s.priv.ensureAlias o ip).2 = none
      · rw [if_pos herr]
        split
        · exact Finset.insert_subset hip hdriven
        · exact hdriven
      · -- the call failed: the address is not driven, before or after
        obtain ⟨hplumbs, hnot⟩ := hok (c, o) rfl rfl ip (by simp [hstage, Stage.ensuring?]) herr
        rw [if_neg herr, hplumbs, if_neg (by simp)]
        exact Finset.subset_erase.mpr ⟨hdriven, hnot⟩
  | removed o ip hstage =>
    obtain ⟨haliases, hnone⟩ := conn_removeExec (s := s) (c := c) o ip
    have hdrive : drive c s driven (.removeExec c o) =
        if (s.priv.removeAlias o ip).2 = none then driven.erase ip else driven := by
      simp only [drive, hstage, true_and]
    refine ⟨?_, ?_, fun ip' h => absurd h (hnone ip')⟩
    · rw [haliases]
      split
      · exact (Finset.card_le_card (Finset.erase_subset _ _)).trans hcap
      · exact hcap
    · refine hfilter.trans ?_
      rw [haliases, hdrive]
      split
      · exact Finset.erase_subset_erase ip hdriven
      · exact hdriven
  | other _ _ haliases hstages hdrive =>
    refine ⟨by rw [haliases]; exact hcap, ?_, ?_⟩
    · rw [haliases]
      exact hfilter.trans ((hdrive driven).trans_subset hdriven)
    · intro ip hstage
      rw [haliases]
      exact hensuring ip (hstages ip hstage)

/-- A connection drives no more aliases than its cap, where no rollback takes a live one off its
count. -/
theorem alias_cap_bounds_driven (cfg : Config) (c : Nat) (s : Server) (driven : Finset Addr)
    (h : (drivenMachine cfg c).Reach (NoLiveRollback c) (s, driven)) :
    driven.card ≤ cfg.maxPerConn := by
  have hcovers : CountCovers cfg c (s, driven) := by
    refine h.invariant ?_ ?_
    · rintro ⟨s, driven⟩ ⟨hstarted, rfl⟩
      have hconns : s.conns = ∅ := hstarted.conns
      have hconn : s.conn c = .new := by simp [Server.conn, hconns]
      refine ⟨by simp [hconn, Conn.new], by simp, ?_⟩
      intro ip hstage
      simp [Server.stage, hconn, Conn.new] at hstage
    · intro s a t hs hok hstep
      exact countCovers_step hs hok hstep
  exact (Finset.card_le_card hcovers.driven).trans hcovers.cap

/-! ## A cap of one -/

def oneAliasConfig : Config := { labConfig with maxPerConn := 1 }

lemma started_oneAlias : (drivenMachine oneAliasConfig 0).init (labServer, ∅) := by
  refine ⟨⟨rfl, rfl, rfl, ⟨rfl, rfl⟩, ⟨rfl, rfl⟩, by decide, ⟨rfl, rfl, rfl, rfl⟩, ?_⟩, rfl⟩
  intro slot addr h
  cases h

def swapSteps : List Label :=
  [.ensureAlias 0 "10.42.0.5", .ensureExec 0 {}, .trackAlias 0, .removeAlias 0 "10.42.0.5",
    .removeExec 0 {}, .untrackAlias 0, .ensureAlias 0 "10.42.0.6", .ensureExec 0 {}]

theorem swapped_alias_within_cap : ∃ s : Server × Finset Addr,
    (drivenMachine oneAliasConfig 0).Reach (NoLiveRollback 0) s ∧
      s.2 = {.v4 0x0a2a0006#32} ∧ s.2.card ≤ oneAliasConfig.maxPerConn := by
  obtain ⟨s, hreach, hdriven⟩ : ∃ s : Server × Finset Addr,
      (drivenMachine oneAliasConfig 0).Reach (NoLiveRollback 0) s ∧ s.2 = {.v4 0x0a2a0006#32} :=
    Machine.Reach.exists_run swapSteps started_oneAlias (by decide +kernel) (by decide +kernel)
  exact ⟨s, hreach, hdriven, alias_cap_bounds_driven oneAliasConfig 0 s.1 s.2 hreach⟩

def rolledBackSteps : List Label :=
  [.ensureAlias 0 "10.42.0.5", .ensureExec 0 {}, .trackAlias 0, .ensureAlias 0 "10.42.0.5",
    .ensureExec 0 { lo0Alias := some "ifconfig: interrupted" }, .ensureAlias 0 "10.42.0.6",
    .ensureExec 0 {}]

/-- A repeated ensure fails, and its rollback takes the live alias off the count. -/
theorem two_aliases_above_cap : ∃ s : Server × Finset Addr,
    (drivenMachine oneAliasConfig 0).Reach Machine.always s ∧
      s.2 = {.v4 0x0a2a0005#32, .v4 0x0a2a0006#32} ∧ oneAliasConfig.maxPerConn < s.2.card :=
  Machine.Reach.exists_run rolledBackSteps started_oneAlias (Machine.meets_always _ _)
    (by decide +kernel)

end DarwinNet.Netd
