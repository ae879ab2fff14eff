import Mathlib.Logic.Relation

/-!
# Loops

A loop is given by its turn: `none` says that it is left, `some` is the state after the turn.
-/

namespace Agm.Lib

variable {σ : Type} {turn : σ → Option σ} {s t : σ}

/-- The states of the loop from `s` on. -/
def Visits (turn : σ → Option σ) : σ → σ → Prop := Relation.ReflTransGen fun s t => turn s = some t

/-- The loop is left. -/
def Ends (turn : σ → Option σ) (s : σ) : Prop := ∃ t, Visits turn s t ∧ turn t = none

theorem Visits.refl (s : σ) : Visits turn s s := Relation.ReflTransGen.refl

theorem Visits.head {u : σ} (h : turn s = some t) (hv : Visits turn t u) : Visits turn s u :=
  Relation.ReflTransGen.head h hv

/-- Where the loop turns, it goes on from the next state. -/
theorem Visits.eq_or_of_turn {u : σ} (h : turn s = some t) (hv : Visits turn s u) : u = s ∨ Visits turn t u := by
  rcases Relation.ReflTransGen.cases_head hv with rfl | ⟨t', ht', hv'⟩
  · exact .inl rfl
  · obtain rfl := Option.some.inj (h.symm.trans ht')
    exact .inr hv'

/-- Where the loop is left, there is no other state. -/
theorem Visits.eq_of_none {u : σ} (h : turn s = none) (hv : Visits turn s u) : u = s := by
  rcases Relation.ReflTransGen.cases_head hv with rfl | ⟨t', ht', -⟩
  · rfl
  · rw [h] at ht'
    cases ht'

/-- Whatever the loop comes to, it comes to the last state from there. -/
theorem Visits.to_last {u : σ} (hv : Visits turn s t) (hu : Visits turn s u) (hn : turn u = none) : Visits turn t u := by
  induction hv using Relation.ReflTransGen.head_induction_on with
  | refl => exact hu
  | head hst _ ih =>
    rcases hu.eq_or_of_turn hst with rfl | hu
    · rw [hn] at hst
      cases hst
    · exact ih hu

theorem Ends.of_none (h : turn s = none) : Ends turn s := ⟨s, .refl s, h⟩

theorem Ends.of_turn (h : turn s = some t) (he : Ends turn t) : Ends turn s := by
  obtain ⟨u, hu, hn⟩ := he
  exact ⟨u, hu.head h, hn⟩

/-- **Induction on the turns that are left.** -/
theorem Ends.induction {motive : σ → Prop} (h : Ends turn s) (last : ∀ s, turn s = none → motive s)
    (next : ∀ s t, turn s = some t → motive t → motive s) : motive s := by
  obtain ⟨u, hu, hn⟩ := h
  induction hu using Relation.ReflTransGen.head_induction_on with
  | refl => exact last u hn
  | head hst _ ih => exact next _ _ hst ih

end Agm.Lib
