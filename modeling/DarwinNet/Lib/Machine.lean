import Mathlib.Logic.Relation

/-!
Machines with a partial step function on states. A label carries every choice
the scheduler makes, so a list of labels determines at most one run.

* `Reach ok`: the states of the runs all of whose steps meet `ok`, a condition
  on the state before the step and on the label;
* `Reach.invariant`: what holds initially and is kept by every step that meets
  `ok` holds in every such state;
* `Reach.of_run`: an executed list of labels is a run.
-/

namespace DarwinNet.Lib

universe u v

structure Machine (σ : Type u) (α : Type v) where
  init : σ → Prop
  step : σ → α → Option σ

namespace Machine

variable {σ : Type u} {α : Type v} (M : Machine σ α)

/-- Execute the labels in order; `none` as soon as one is not enabled. -/
def run : σ → List α → Option σ
  | s, [] => some s
  | s, a :: as => (M.step s a).bind fun t => run t as

/-- Every step of the run meets the condition. -/
def Meets (ok : σ → α → Prop) : σ → List α → Prop
  | _, [] => True
  | s, a :: as => ok s a ∧ ∀ t ∈ M.step s a, Meets ok t as

instance decidableMeets (ok : σ → α → Prop) [∀ s a, Decidable (ok s a)] :
    ∀ s as, Decidable (M.Meets ok s as)
  | _, [] => isTrue trivial
  | s, a :: as =>
    match h : M.step s a with
    | none =>
      if ha : ok s a then isTrue ⟨ha, by simp [h]⟩ else isFalse fun hm => ha hm.1
    | some t =>
      have := decidableMeets ok t as
      if ha : ok s a ∧ M.Meets ok t as then
        isTrue ⟨ha.1, by simpa [h] using ha.2⟩
      else isFalse fun hm => ha ⟨hm.1, hm.2 t h⟩

inductive Reach (ok : σ → α → Prop) : σ → Prop
  | init {s : σ} : M.init s → Reach ok s
  | step {s t : σ} (a : α) : Reach ok s → ok s a → M.step s a = some t → Reach ok t

def always : σ → α → Prop := fun _ _ => True

variable {M} {ok : σ → α → Prop} {s : σ}

/-- What holds at the start and is kept by every step taken holds of every reachable state. -/
lemma Reach.invariant {I : σ → Prop} (hinit : ∀ s, M.init s → I s)
    (hstep : ∀ s a t, I s → ok s a → M.step s a = some t → I t) (h : M.Reach ok s) : I s := by
  induction h with
  | init hs => exact hinit _ hs
  | step a _ ha hst ih => exact hstep _ a _ ih ha hst

lemma Reach.mono {ok' : σ → α → Prop} (hok : ∀ s a, ok s a → ok' s a) (h : M.Reach ok s) :
    M.Reach ok' s := by
  induction h with
  | init hs => exact .init hs
  | step a _ ha hst ih => exact .step a ih (hok _ _ ha) hst

lemma Reach.run_of {t : σ} (as : List α) (h : M.Reach ok s) (hok : M.Meets ok s as)
    (hrun : M.run s as = some t) : M.Reach ok t := by
  induction as generalizing s with
  | nil =>
    cases hrun
    exact h
  | cons a as ih =>
    cases hs : M.step s a with
    | none => simp [run, hs] at hrun
    | some u =>
      simp only [run, hs, Option.bind_some] at hrun
      exact ih (.step a h hok.1 hs) (hok.2 u hs) hrun

/-- A run whose steps meet the condition ends in a reachable state. -/
lemma Reach.of_run {t : σ} (as : List α) (hs : M.init s) (hok : M.Meets ok s as)
    (hrun : M.run s as = some t) : M.Reach ok t :=
  .run_of as (.init hs) hok hrun

section Executed

variable {ok : σ → α → Prop} {P : σ → Prop} [DecidablePred P] {s : σ}

lemma exists_run {as : List α} (h : ((M.run s as).any fun t => decide (P t)) = true) :
    ∃ t, M.run s as = some t ∧ P t := by
  obtain ⟨t, ht, hfact⟩ := (Option.any_eq_true _ _).mp h
  exact ⟨t, ht, of_decide_eq_true hfact⟩

lemma Reach.exists_run_eq {as : List α} (hs : M.init s) (hok : M.Meets ok s as)
    (h : ((M.run s as).any fun t => decide (P t)) = true) :
    ∃ t, M.Reach ok t ∧ M.run s as = some t ∧ P t := by
  obtain ⟨t, ht, hfact⟩ := Machine.exists_run h
  exact ⟨t, .of_run as hs hok ht, ht, hfact⟩

/-- A decided run is a reachable state with the property. -/
lemma Reach.exists_run (as : List α) (hs : M.init s) (hok : M.Meets ok s as)
    (h : ((M.run s as).any fun t => decide (P t)) = true) : ∃ t, M.Reach ok t ∧ P t := by
  obtain ⟨t, hreach, -, hfact⟩ := Reach.exists_run_eq hs hok h
  exact ⟨t, hreach, hfact⟩

lemma exists_run_of {Q : σ → Prop} {as : List α} (hs : M.init s) (hok : M.Meets ok s as)
    (h : ((M.run s as).any fun t => decide (P t)) = true)
    (hQ : ∀ t, M.Reach ok t → P t → Q t) : ∃ t, M.run s as = some t ∧ Q t := by
  obtain ⟨t, hreach, ht, hfact⟩ := Reach.exists_run_eq hs hok h
  exact ⟨t, ht, hQ t hreach hfact⟩

lemma Reach.exists_run_of {Q : σ → Prop} {as : List α} (hs : M.init s) (hok : M.Meets ok s as)
    (h : ((M.run s as).any fun t => decide (P t)) = true) (hQ : ∀ t, P t → Q t) :
    ∃ t, M.Reach ok t ∧ M.run s as = some t ∧ Q t := by
  obtain ⟨t, hreach, ht, hfact⟩ := Reach.exists_run_eq hs hok h
  exact ⟨t, hreach, ht, hQ t hfact⟩

lemma Reach.exists_step {Q : σ → σ → Prop} [∀ s t, Decidable (Q s t)] (as : List α) {a : α}
    (hs : M.init s) (hok : M.Meets ok s as)
    (h : ((M.run s as).any fun t => (M.step t a).any fun u => decide (Q t u)) = true) :
    ∃ t u, M.Reach ok t ∧ M.step t a = some u ∧ Q t u := by
  obtain ⟨t, ht, hstep⟩ := (Option.any_eq_true _ _).mp h
  obtain ⟨u, hu, hfact⟩ := (Option.any_eq_true _ _).mp hstep
  exact ⟨t, u, .of_run as hs hok ht, hu, of_decide_eq_true hfact⟩

end Executed

lemma meets_always (s : σ) (as : List α) : M.Meets always s as := by
  induction as generalizing s with
  | nil => trivial
  | cons a as ih => exact ⟨trivial, fun t _ => ih t⟩

end Machine

end DarwinNet.Lib
