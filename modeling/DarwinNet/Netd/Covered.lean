import DarwinNet.Lib.Machine
import DarwinNet.Netd.Applier

/-!
Departed pod addresses stay off the mesh: an address that was once aliased on lo0
is aliased there, holds a blackhole route, or is tracked until its blackhole is
installed.

A `Plumber` is an alias manager with its operations, `Lawful` if they have the
effects proved for each of the two. The addresses ever seen on lo0 are a ghost.

An ensure clears the blackhole before it adds the alias and does not put it back
if the alias fails (`covered_lost_on_failed_alias`). Where no ensure does that, every
address stays covered (`podAddress_covered`).
-/

namespace DarwinNet.Netd

open Lib Netip Podnet

/-- An alias manager; `env` are the changes others make to it. -/
structure Plumber (μ β : Type) where
  nodeCIDR : μ → Prefix
  aliased : μ → GoMap Addr AliasState
  kernel : μ → Kernel
  ensure : μ → Outcomes → Addr → μ × Option String
  remove : μ → Outcomes → Addr → μ × Option String
  env : μ → β → μ

def lo0Plumber : Plumber Lo0AliasManager Empty where
  nodeCIDR m := m.nodeCIDR
  aliased m := m.aliased
  kernel m := m.kernel
  ensure m := m.ensure
  remove m := m.remove
  env m _ := m

/-- The mesh comes up or goes, with any aliases on its utun. -/
structure MeshChange where
  dev : Option String
  meshUp : Bool
  utun : Finset Addr

def applierPlumber : Plumber DarwinApplier MeshChange where
  nodeCIDR a := a.nodePodCIDR
  aliased a := a.aliased
  kernel a := a.kernel
  ensure a := a.ensureAlias
  remove a := a.removeAlias
  env a c := { a with dev := c.dev, meshUp := c.meshUp, kernel := { a.kernel with utun := c.utun } }

section Runs

variable {μ β : Type} (P : Plumber μ β)

structure Watched (μ : Type) where
  manager : μ
  ever : Finset Addr

inductive AliasLabel (β : Type)
  | ensure (ip : Addr) (o : Outcomes)
  | remove (ip : Addr) (o : Outcomes)
  | env (c : β)

/-- Aliased, blackholed, or owed a blackhole. -/
def Covered (m : μ) (ip : Addr) : Prop :=
  ip ∈ (P.kernel m).lo0 ∨ ip ∈ (P.kernel m).blackholes ∨
    (P.aliased m).lookup ip = some .blackholePending

instance decidableCovered (m : μ) (ip : Addr) : Decidable (Covered P m ip) :=
  inferInstanceAs (Decidable (_ ∨ _ ∨ _))

def Watched.after (s : Watched μ) (m : μ) : Watched μ := ⟨m, s.ever ∪ (P.kernel m).lo0⟩

def podAddr (m : μ) (ip : Addr) : Bool := ip.is4 && isPodAddress (P.nodeCIDR m) ip

def aliasStep (s : Watched μ) : AliasLabel β → Option (Watched μ)
  | .ensure ip o =>
    if podAddr P s.manager ip then some (s.after P (P.ensure s.manager o ip).1) else none
  | .remove ip o =>
    if podAddr P s.manager ip then some (s.after P (P.remove s.manager o ip).1) else none
  | .env c => some (s.after P (P.env s.manager c))

/-- Runs of a manager that starts with nothing tracked, on any host whose once
aliased addresses are covered. -/
def aliasMachine : Machine (Watched μ) (AliasLabel β) where
  init s := P.aliased s.manager = ∅ ∧ (P.kernel s.manager).lo0 ⊆ s.ever ∧
    ∀ ip ∈ s.ever, Covered P s.manager ip
  step := aliasStep P

/-- The step is no ensure that clears a blackhole and then fails to alias an
address nothing else covers. -/
def KeepsBlackhole (s : Watched μ) : AliasLabel β → Prop
  | .ensure ip o => ¬ (o.clear = none ∧ o.lo0Alias ≠ none ∧
      ip ∈ (P.kernel s.manager).blackholes ∧ ip ∉ (P.kernel s.manager).lo0 ∧
      (P.aliased s.manager).lookup ip ≠ some .blackholePending)
  | _ => True

instance decidableKeepsBlackhole (s : Watched μ) :
    ∀ a : AliasLabel β, Decidable (KeepsBlackhole P s a)
  | .ensure _ _ => inferInstanceAs (Decidable (¬ _))
  | .remove _ _ => isTrue trivial
  | .env _ => isTrue trivial

/-- The alias calls of a manager have the effects that both managers share. -/
structure Plumber.Lawful : Prop where
  ensure : ∀ m o ip, isPodAddress (P.nodeCIDR m) ip = true →
    ∃ late, EnsureEffect ip o late (P.aliased m) (P.aliased (P.ensure m o ip).1) (P.kernel m)
      (P.kernel (P.ensure m o ip).1) (P.ensure m o ip).2
  remove : ∀ m o ip, isPodAddress (P.nodeCIDR m) ip = true →
    RemoveEffect ip (P.aliased m) (P.aliased (P.remove m o ip).1) (P.kernel m)
      (P.kernel (P.remove m o ip).1) (P.remove m o ip).2
  env : ∀ m c, P.aliased (P.env m c) = P.aliased m ∧ (P.kernel (P.env m c)).lo0 = (P.kernel m).lo0 ∧
    (P.kernel (P.env m c)).blackholes = (P.kernel m).blackholes

end Runs

lemma lo0Plumber_lawful : lo0Plumber.Lawful where
  ensure _ _ _ hpod := ⟨_, Lo0AliasManager.ensure_effect hpod⟩
  remove _ _ _ hpod := Lo0AliasManager.remove_effect hpod
  env _ _ := ⟨rfl, rfl, rfl⟩

lemma applierPlumber_lawful : applierPlumber.Lawful where
  ensure _ _ _ hpod := ⟨_, DarwinApplier.ensureAlias_effect hpod⟩
  remove _ _ _ hpod := DarwinApplier.removeAlias_effect hpod
  env _ _ := ⟨rfl, rfl, rfl⟩

/-! ## Coverage -/

section Coverage

variable {ip x : Addr} {o : Outcomes} {al al' : GoMap Addr AliasState} {k k' : Kernel}
  {err : Option String} {late : Prop}

/-- Traffic for `ip` stays on the node, or a retry is due. -/
def CoveredBy (al : GoMap Addr AliasState) (k : Kernel) (ip : Addr) : Prop :=
  ip ∈ k.lo0 ∨ ip ∈ k.blackholes ∨ al.lookup ip = some .blackholePending

lemma covered_of_ensure (he : EnsureEffect ip o late al al' k k' err)
    (hok : ¬ (o.clear = none ∧ o.lo0Alias ≠ none ∧ ip ∈ k.blackholes ∧ ip ∉ k.lo0 ∧
      al.lookup ip ≠ some .blackholePending)) (hx : CoveredBy al k x) : CoveredBy al' k' x := by
  unfold CoveredBy at hx ⊢
  cases he with
  | unchanged hal hlo0 hb _ =>
    rw [hal, hlo0, hb]
    exact hx
  | cleared hal hlo0 hb hclear halias _ =>
    rw [hal, hlo0, hb, Finset.mem_erase]
    by_cases hxip : x = ip
    · subst hxip
      rcases hx with hx | hx | hx
      · exact .inl hx
      · by_contra hnot
        simp only [not_or] at hnot
        exact hok ⟨hclear, halias, hx, hnot.1, hnot.2.2⟩
      · exact .inr (.inr hx)
    · simpa [hxip] using hx
  | aliased hal hlo0 hb _ =>
    rw [hal, hlo0, hb, Finset.mem_insert, Finset.mem_erase, GoMap.lookup_insert_ite]
    by_cases hxip : x = ip
    · exact .inl (.inl hxip)
    · simpa [hxip] using hx

lemma covered_of_remove (he : RemoveEffect ip al al' k k' err) (hx : CoveredBy al k x) :
    CoveredBy al' k' x := by
  unfold CoveredBy at hx ⊢
  cases he with
  | unchanged hal hlo0 hb _ =>
    rw [hal, hlo0, hb]
    exact hx
  | pending hal hlo0 hb _ =>
    rw [hal, hb, GoMap.lookup_insert_ite]
    by_cases hxip : x = ip
    · exact .inr (.inr (if_pos hxip))
    · have hkeep : x ∈ k'.lo0 ↔ x ∈ k.lo0 := by
        rcases hlo0 with h | h <;> simp [h, hxip]
      simpa [hxip, hkeep] using hx
  | blackholed hal hlo0 hb _ =>
    rw [hal, hlo0, hb, Finset.mem_insert, Finset.mem_erase, GoMap.lookup_erase_ite]
    by_cases hxip : x = ip
    · exact .inr (.inl (.inl hxip))
    · simpa [hxip] using hx

end Coverage

variable {μ β : Type} {P : Plumber μ β}

lemma covered_step (hP : P.Lawful) {s t : Watched μ} {a : AliasLabel β}
    (hs : ∀ ip ∈ s.ever, Covered P s.manager ip) (hok : KeepsBlackhole P s a)
    (hst : aliasStep P s a = some t) : ∀ ip ∈ t.ever, Covered P t.manager ip := by
  -- what lo0 carries is covered, so only the older addresses need an argument
  have hafter : ∀ m, (∀ ip, Covered P s.manager ip → Covered P m ip) →
      ∀ ip ∈ (s.after P m).ever, Covered P (s.after P m).manager ip := by
    intro m hm ip hip
    rcases Finset.mem_union.mp hip with hold | hlo0
    · exact hm ip (hs ip hold)
    · exact .inl hlo0
  cases a with
  | ensure ip o =>
    simp only [aliasStep] at hst
    split_ifs at hst with hpod
    cases hst
    obtain ⟨late, heffect⟩ := hP.ensure s.manager o ip (Bool.and_eq_true_iff.mp hpod).2
    exact hafter _ fun x hx => covered_of_ensure heffect hok hx
  | remove ip o =>
    simp only [aliasStep] at hst
    split_ifs at hst with hpod
    cases hst
    have heffect := hP.remove s.manager o ip (Bool.and_eq_true_iff.mp hpod).2
    exact hafter _ fun x hx => covered_of_remove heffect hx
  | env c =>
    cases hst
    obtain ⟨hal, hlo0, hb⟩ := hP.env s.manager c
    refine hafter _ fun x hx => ?_
    unfold Covered at hx ⊢
    rw [hal, hlo0, hb]
    exact hx

/-- The argument for one manager, used at both. -/
lemma covered_of_reach (hP : P.Lawful) {s : Watched μ}
    (h : (aliasMachine P).Reach (KeepsBlackhole P) s) : ∀ ip ∈ s.ever, Covered P s.manager ip := by
  refine h.invariant (I := fun s => ∀ ip ∈ s.ever, Covered P s.manager ip) ?_ ?_
  · intro s hinit
    exact hinit.2.2
  · intro s a t hs hok hst
    exact covered_step hP hs hok hst

/-- An address that was ever aliased on lo0 is aliased, blackholed or tracked, under either alias
manager, where no ensure loses a blackhole to a failed alias. -/
theorem podAddress_covered (s : Watched Lo0AliasManager) (t : Watched DarwinApplier)
    (hs : (aliasMachine lo0Plumber).Reach (KeepsBlackhole lo0Plumber) s)
    (ht : (aliasMachine applierPlumber).Reach (KeepsBlackhole applierPlumber) t) :
    (∀ ip ∈ s.ever, Covered lo0Plumber s.manager ip) ∧
      ∀ ip ∈ t.ever, Covered applierPlumber t.manager ip :=
  ⟨covered_of_reach lo0Plumber_lawful hs, covered_of_reach applierPlumber_lawful ht⟩

/-! ## The failed alias -/

def idleManager : Watched Lo0AliasManager := ⟨⟨Prefix.v4 0x64400100#32 24, ∅, ⟨∅, ∅, ∅⟩⟩, ∅⟩

def idleApplier : Watched DarwinApplier :=
  ⟨⟨Prefix.v4 0x64400100#32 24, none, false, ∅, none, ⟨∅, ∅, ∅⟩⟩, ∅⟩

lemma idleManager_init : (aliasMachine lo0Plumber).init idleManager :=
  ⟨rfl, Finset.Subset.refl _, by simp [idleManager]⟩

lemma idleApplier_init : (aliasMachine applierPlumber).init idleApplier :=
  ⟨rfl, Finset.Subset.refl _, by simp [idleApplier]⟩

def failedReturn (β : Type) : List (AliasLabel β) :=
  [.ensure (.v4 0x64400102#32) {}, .remove (.v4 0x64400102#32) {},
    .ensure (.v4 0x64400102#32) { lo0Alias := some "exit status 1" }]

/-- An ensure clears the blackhole and fails to alias the address, under either manager. -/
theorem covered_lost_on_failed_alias : (∃ s, (aliasMachine lo0Plumber).Reach Machine.always s ∧
      ∃ ip ∈ s.ever, ¬ Covered lo0Plumber s.manager ip) ∧
    ∃ s, (aliasMachine applierPlumber).Reach Machine.always s ∧
      ∃ ip ∈ s.ever, ¬ Covered applierPlumber s.manager ip := by
  have hlost : ∃ s, (aliasMachine lo0Plumber).Reach Machine.always s ∧
      .v4 0x64400102#32 ∈ s.ever ∧ ¬ Covered lo0Plumber s.manager (.v4 0x64400102#32) :=
    Machine.Reach.exists_run (failedReturn Empty) idleManager_init (Machine.meets_always _ _)
      (by decide)
  have hlost' : ∃ s, (aliasMachine applierPlumber).Reach Machine.always s ∧
      .v4 0x64400102#32 ∈ s.ever ∧ ¬ Covered applierPlumber s.manager (.v4 0x64400102#32) :=
    Machine.Reach.exists_run (failedReturn MeshChange) idleApplier_init (Machine.meets_always _ _)
      (by decide)
  obtain ⟨s, hs, hfact⟩ := hlost
  obtain ⟨t, ht, hfact'⟩ := hlost'
  exact ⟨⟨s, hs, _, hfact⟩, t, ht, _, hfact'⟩

theorem podAddress_covered_after_remove : ∃ s t,
    (aliasMachine lo0Plumber).Reach (KeepsBlackhole lo0Plumber) s ∧
    (aliasMachine applierPlumber).Reach (KeepsBlackhole applierPlumber) t ∧
    .v4 0x64400102#32 ∉ s.manager.kernel.lo0 ∧ Covered lo0Plumber s.manager (.v4 0x64400102#32) ∧
    .v4 0x64400102#32 ∉ t.manager.kernel.lo0 ∧
    Covered applierPlumber t.manager (.v4 0x64400102#32) := by
  obtain ⟨s, hreach, hever, hgone⟩ :
      ∃ s, (aliasMachine lo0Plumber).Reach (KeepsBlackhole lo0Plumber) s ∧
        .v4 0x64400102#32 ∈ s.ever ∧ .v4 0x64400102#32 ∉ s.manager.kernel.lo0 :=
    Machine.Reach.exists_run ((failedReturn Empty).take 2) idleManager_init (by decide) (by decide)
  obtain ⟨t, hreach', hever', hgone'⟩ :
      ∃ t, (aliasMachine applierPlumber).Reach (KeepsBlackhole applierPlumber) t ∧
        .v4 0x64400102#32 ∈ t.ever ∧ .v4 0x64400102#32 ∉ t.manager.kernel.lo0 :=
    Machine.Reach.exists_run ((failedReturn MeshChange).take 2) idleApplier_init (by decide)
      (by decide)
  obtain ⟨hcov, hcov'⟩ := podAddress_covered s t hreach hreach'
  exact ⟨s, t, hreach, hreach', hgone, hcov _ hever, hgone', hcov' _ hever'⟩

end DarwinNet.Netd
