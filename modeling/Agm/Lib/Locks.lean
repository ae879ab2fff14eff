import Mathlib.Logic.Relation
import Mathlib.Order.Basic

/-!
# Threads that wait for each other's locks

Which locks a thread holds and which one it wants are all that a deadlock is about.  It is ruled out, state by state, by an
order of the locks that every thread keeps to.
-/

namespace Agm.Lib

variable {thread lock : Type}

/-- A thread wants a lock that another one, or it itself, holds. -/
def WaitsFor (holds : thread → lock → Prop) (wants : thread → Option lock) (i j : thread) : Prop :=
  ∃ l, wants i = some l ∧ holds j l

/-- A cycle of threads, each of which waits for the next. -/
def Deadlock (holds : thread → lock → Prop) (wants : thread → Option lock) : Prop :=
  ∃ i, Relation.TransGen (WaitsFor holds wants) i i

variable {holds : thread → lock → Prop} {wants : thread → Option lock} {rank : Type} [Preorder rank]

/-- Along a chain of threads that keep to the order, the last one holds a lock that is no lower than what the first one
wants. -/
theorem exists_holds_of_chain {rk : lock → rank} (h : ∀ i l l', wants i = some l → holds i l' → rk l' < rk l)
    {i j : thread} (hij : Relation.TransGen (WaitsFor holds wants) i j) {l : lock} (hl : wants i = some l) :
    ∃ l', holds j l' ∧ rk l ≤ rk l' := by
  induction hij with
  | single hwait =>
    obtain ⟨l', hl', hholds⟩ := hwait
    rw [hl] at hl'
    cases hl'
    exact ⟨l, hholds, le_rfl⟩
  | tail _ hwait ih =>
    obtain ⟨l', hholds, hle⟩ := ih
    obtain ⟨l'', hwants, hnext⟩ := hwait
    exact ⟨l'', hnext, hle.trans (h _ _ _ hwants hholds).le⟩

/-- Threads that only want what is above all they hold are in no deadlock. -/
theorem not_deadlock_of_rank (rk : lock → rank) (h : ∀ i l l', wants i = some l → holds i l' → rk l' < rk l) :
    ¬ Deadlock holds wants := by
  rintro ⟨i, hcycle⟩
  have hwants : ∃ l, wants i = some l := by
    obtain ⟨j, ⟨l, hl, -⟩, -⟩ := Relation.TransGen.head'_iff.1 hcycle
    exact ⟨l, hl⟩
  obtain ⟨l, hl⟩ := hwants
  obtain ⟨l', hholds, hle⟩ := exists_holds_of_chain h hcycle hl
  exact absurd (hle.trans_lt (h i l l' hl hholds)) (lt_irrefl _)

end Agm.Lib
