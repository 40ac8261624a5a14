import Mathlib.Logic.Basic

/-!
Mutexes over several lock sections. The mutex is the thread that holds it, and `inside`
says at which places of a thread's code it is held; `Owns` is that the two agree.
-/

namespace DarwinNet.Lib

variable {ι π : Type} {inside : π → Bool} {m : Option ι} {place place' : ι → π} {c : ι}

/-- The holder is the one thread at a place inside. -/
def Owns (inside : π → Bool) (m : Option ι) (place : ι → π) : Prop :=
  ∀ c, m = some c ↔ inside (place c) = true

/-- What becomes of the mutex as thread `c` goes from place `p` to `p'`. -/
inductive Handed (inside : π → Bool) (m m' : Option ι) (c : ι) (p p' : π) : Prop
  | kept : m' = m → inside p' = inside p → Handed inside m m' c p p'
  | taken : m = none → m' = some c → inside p' = true → Handed inside m m' c p p'
  | released : inside p = true → m' = none → inside p' = false → Handed inside m m' c p p'

namespace Owns

lemma outside (h : Owns inside m place) (hm : m = none) (c : ι) : inside (place c) = false := by
  rw [← Bool.not_eq_true, ← h c, hm]
  exact Option.some_ne_none c ∘ Eq.symm

lemma unique (h : Owns inside m place) {c' : ι} (hc : inside (place c) = true)
    (hc' : inside (place c') = true) : c = c' := by
  rw [← h] at hc hc'
  exact Option.some.inj (hc.symm.trans hc')

lemma hand {m' : Option ι} (h : Owns inside m place) (hother : ∀ c', c' ≠ c → place' c' = place c')
    (hc : Handed inside m m' c (place c) (place' c)) : Owns inside m' place' := by
  intro c'
  by_cases heq : c' = c
  · subst heq
    cases hc with
    | kept hm hin =>
      rw [hm, hin]
      exact h c'
    | taken _ hm hin | released _ hm hin => simp [hm, hin]
  · rw [hother c' heq]
    cases hc with
    | kept hm =>
      rw [hm]
      exact h c'
    | taken hfree hm => simp [hm, h.outside hfree c', Ne.symm heq]
    | released hin hm =>
      have hnot : inside (place c') ≠ true := fun hin' => heq (h.unique hin' hin)
      simp [hm, hnot]

end Owns

end DarwinNet.Lib
