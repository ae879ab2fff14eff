import Mathlib.Algebra.Order.BigOperators.Group.List
import Mathlib.Algebra.Order.Ring.Int

/-!
# Lists with a place for everybody

A list of which one place is written at a time, and what a step at one place does to what is read off the whole list.
-/

namespace Agm.Lib

variable {α β : Type} {l : List α} {i : Nat} {a b x : α}

/-- A place that looks the same as before. -/
theorem map_set_of_eq {f : α → β} (ha : l[i]? = some a) (h : f b = f a) : (l.set i b).map f = l.map f := by
  rw [List.map_set, h]
  refine List.ext_getElem? fun j => ?_
  rw [List.getElem?_set]
  split
  · next hij =>
    subst hij
    rw [List.getElem?_map, ha]
    have hlt : i < (l.map f).length := by
      rw [List.length_map]
      exact (List.getElem?_eq_some_iff.1 ha).1
    rw [if_pos hlt]
    rfl
  · rfl

theorem sum_map_set (f : α → Nat) (b : α) (ha : l[i]? = some a) :
    ((l.set i b).map f).sum + f a = (l.map f).sum + f b := by
  induction l generalizing i with
  | nil => simp at ha
  | cons y l ih =>
    cases i with
    | zero =>
      obtain rfl : y = a := by simpa using ha
      simp only [List.set_cons_zero, List.map_cons, List.sum_cons]
      omega
    | succ i =>
      have := ih (i := i) (by simpa using ha)
      simp only [List.set_cons_succ, List.map_cons, List.sum_cons]
      omega

/-- A place that counts for nothing afterwards. -/
theorem sum_map_set_le (f : α → Nat) (l : List α) (i : Nat) (h : f b = 0) :
    ((l.set i b).map f).sum ≤ (l.map f).sum := by
  cases ha : l[i]? with
  | none => rw [List.set_eq_of_length_le (List.getElem?_eq_none_iff.1 ha)]
  | some a =>
    have hsum := sum_map_set f b ha
    omega

theorem eq_or_mem_of_mem_set (h : x ∈ l.set i b) : x = b ∨ x ∈ l := (List.mem_or_eq_of_mem_set h).symm

/-- What was at another place is still there. -/
theorem mem_set_of_ne (ha : l[i]? = some a) (hx : x ∈ l) (hne : x ≠ a) : x ∈ l.set i b := by
  obtain ⟨j, hj⟩ := List.mem_iff_getElem?.1 hx
  refine List.mem_iff_getElem?.2 ⟨j, ?_⟩
  have hij : i ≠ j := by
    rintro rfl
    exact hne (Option.some.inj (hj.symm.trans ha))
  rw [List.getElem?_set_ne hij, hj]

theorem mem_set_self_of_getElem? (ha : l[i]? = some a) : b ∈ l.set i b :=
  List.mem_set (List.getElem?_eq_some_iff.1 ha).1 b

end Agm.Lib
