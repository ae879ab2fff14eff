import Mathlib.Logic.Relation

/-!
# Runs of a system of operations

A system is given by an execution function: an operation either brings down the process (`none`) or ends with a
result and a new state.  `Runs exec guard` relates two states joined by finitely many operations, each of which
met `guard` in the state it was called in; `Runs.invariant` is the only induction on runs the development makes.
-/

namespace Agm.Lib

variable {σ op ρ : Type}

/-- One operation of the system, called in a state where it meets the guard. -/
def GuardedStep (exec : op → σ → Option (ρ × σ)) (guard : σ → op → Prop) (s t : σ) : Prop :=
  ∃ o r, guard s o ∧ exec o s = some (r, t)

/-- Finitely many operations, one after the other. -/
def Runs (exec : op → σ → Option (ρ × σ)) (guard : σ → op → Prop) : σ → σ → Prop :=
  Relation.ReflTransGen (GuardedStep exec guard)

variable {exec : op → σ → Option (ρ × σ)} {guard guard' : σ → op → Prop} {s t u : σ}

theorem Runs.refl (s : σ) : Runs exec guard s s := Relation.ReflTransGen.refl

theorem Runs.tail (h : Runs exec guard s t) {o : op} {r : ρ} (hg : guard t o) (he : exec o t = some (r, u)) :
    Runs exec guard s u := Relation.ReflTransGen.tail h ⟨o, r, hg, he⟩

/-- **The invariant rule.**  What holds at the start and is kept by every guarded operation holds after every run. -/
theorem Runs.invariant {I : σ → Prop} (h : Runs exec guard s t) (h0 : I s)
    (step : ∀ s o r t, I s → guard s o → exec o s = some (r, t) → I t) : I t := by
  induction h with
  | refl => exact h0
  | tail _ hstep ih =>
    obtain ⟨o, r, hg, he⟩ := hstep
    exact step _ o r _ ih hg he

section

variable (exec guard) [∀ s o, Decidable (guard s o)]

/-- Execute a list of operations in order, each of which has to meet the guard. -/
def execAll : List op → σ → Option σ
  | [], s => some s
  | o :: os, s => if guard s o then (exec o s).bind fun p => execAll os p.2 else none

theorem Runs.of_execAll {os : List op} (h : execAll exec guard os s = some t) : Runs exec guard s t := by
  induction os generalizing s with
  | nil =>
    obtain rfl : s = t := Option.some.inj h
    exact Runs.refl s
  | cons o os ih =>
    rw [execAll] at h
    split at h
    · obtain ⟨p, hp, h⟩ := Option.bind_eq_some_iff.1 h
      exact Relation.ReflTransGen.head ⟨o, p.1, ‹_›, hp⟩ (ih h)
    · cases h

/-- Where the operations meet another guard too, they lead to the same state. -/
theorem execAll_of_isSome (guard' : σ → op → Prop) [∀ s o, Decidable (guard' s o)] {os : List op}
    (h : execAll exec guard os s = some t) (h' : (execAll exec guard' os s).isSome) :
    execAll exec guard' os s = some t := by
  induction os generalizing s with
  | nil => exact h
  | cons o os ih =>
    rw [execAll] at h h' ⊢
    split at h
    · obtain ⟨p, hp, h⟩ := Option.bind_eq_some_iff.1 h
      split at h'
      · rw [if_pos ‹_›, hp]
        rw [hp] at h'
        exact ih h h'
      · cases h'
    · cases h

/-- The invariant rule, for an invariant that also speaks of the operations that were called. -/
theorem execAll_invariant {I : List op → σ → Prop} {os : List op} (h : execAll exec guard os s = some t) (h0 : I [] s)
    (step : ∀ past s o r t, I past s → guard s o → exec o s = some (r, t) → I (past ++ [o]) t) : I os t := by
  have key : ∀ (os past : List op) (s : σ), execAll exec guard os s = some t → I past s → I (past ++ os) t := by
    intro os
    induction os with
    | nil =>
      intro past s h hI
      obtain rfl : s = t := Option.some.inj h
      rwa [List.append_nil]
    | cons o os ih =>
      intro past s h hI
      rw [execAll] at h
      split at h
      · obtain ⟨p, hp, h⟩ := Option.bind_eq_some_iff.1 h
        have := ih (past ++ [o]) p.2 h (step past s o p.1 p.2 hI ‹_› hp)
        rwa [List.append_assoc] at this
      · cases h
  exact key os [] s h h0

/-- What is seen after the operations of a list is seen after some run. -/
theorem Runs.exists_of_execAll {β : Type} (os : List op) (s : σ) (f : σ → β) {b : β}
    (h : (execAll exec guard os s).map f = some b) : ∃ t, Runs exec guard s t ∧ f t = b := by
  obtain ⟨t, ht, hb⟩ := Option.map_eq_some_iff.1 h
  exact ⟨t, Runs.of_execAll exec guard ht, hb⟩

end

end Agm.Lib
