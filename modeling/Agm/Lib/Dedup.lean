import Mathlib.Data.List.Basic

/-!
# Repeated keys in an array

Taking the elements whose key was there before out of an array, in place: three nested loops, of which the innermost
moves the rest of the array down by one.  An array is a cell for every index, and only the first `count` cells count.
-/

namespace Agm.Lib

variable {α κ : Type}

/-! ## Arrays -/

/-- The first `n` cells. -/
def cells (a : Nat → α) (n : Nat) : List α := (List.range n).map a

/-- Put `xs` into the cells from `off` on. -/
def copyTo (a : Nat → α) (off : Nat) (xs : List α) : Nat → α := fun i =>
  if off ≤ i then (xs[i - off]?).getD (a i) else a i

@[simp] theorem length_cells (a : Nat → α) (n : Nat) : (cells a n).length = n := by simp [cells]

/-- What is put behind the first cells comes after them. -/
theorem cells_copyTo (a : Nat → α) (off : Nat) (xs : List α) :
    cells (copyTo a off xs) (off + xs.length) = cells a off ++ xs := by
  apply List.ext_getElem
  · simp
  · intro i h₁ h₂
    by_cases hi : off ≤ i
    · have hlt : i - off < xs.length := by
        rw [length_cells] at h₁
        omega
      simp [cells, copyTo, hi, List.getElem_append_right, hlt]
    · simp [cells, copyTo, hi, List.getElem_append_left, Nat.not_le.1 hi]

/-- The cell behind a prefix. -/
theorem eq_of_cells_eq_append {a : Nat → α} {count : Nat} {pre suf : List α} {x : α}
    (h : cells a count = pre ++ x :: suf) : a pre.length = x := by
  have hlen : pre.length < count := by
    have := congrArg List.length h
    rw [length_cells] at this
    simp only [List.length_append, List.length_cons] at this
    omega
  have hget : (cells a count)[pre.length]? = some x := by rw [h]; simp
  simpa [cells, hlen] using hget

/-! ## Taking out one element -/

/-- `for (k = j; k < count - 1; k++) a[k] = a[k + 1];` -/
def shiftDown (a : Nat → α) (k count : Nat) : Nat → α :=
  if k + 1 < count then shiftDown (fun i => if i = k then a (k + 1) else a i) (k + 1) count else a
termination_by count - k

theorem shiftDown_apply (a : Nat → α) (k count i : Nat) :
    shiftDown a k count i = if k ≤ i ∧ i + 1 < count then a (i + 1) else a i := by
  induction hn : count - k generalizing a k with
  | zero =>
    rw [shiftDown, if_neg (by omega), if_neg (by omega)]
  | succ n ih =>
    rw [shiftDown]
    by_cases hk : k + 1 < count
    · rw [if_pos hk, ih _ _ (by omega)]
      split_ifs <;> first | rfl | omega | (congr 1; omega)
    · rw [if_neg hk, if_neg (by omega)]

theorem cells_shiftDown {a : Nat → α} {count : Nat} {pre suf : List α} {x : α} (h : cells a count = pre ++ x :: suf) :
    cells (shiftDown a pre.length count) (count - 1) = pre ++ suf := by
  have hlen := congrArg List.length h
  simp only [length_cells, List.length_append, List.length_cons] at hlen
  apply List.ext_getElem
  · simp only [length_cells, List.length_append]
    omega
  · intro i h₁ h₂
    have hget (j : Nat) (hj : j < count) : (pre ++ x :: suf)[j]? = some (a j) := by
      rw [← h]
      simp [cells, hj]
    have hlt := h₁
    rw [length_cells] at hlt
    apply Option.some.inj
    rw [← List.getElem?_eq_getElem h₁, ← List.getElem?_eq_getElem h₂]
    by_cases hi : pre.length ≤ i
    · rw [List.getElem?_append_right hi]
      have hnext := hget (i + 1) (by omega)
      rw [List.getElem?_append_right (by omega), Nat.succ_sub hi, List.getElem?_cons_succ] at hnext
      rw [hnext]
      simp [cells, shiftDown_apply, hi, hlt]
      omega
    · have hsame := hget i (by omega)
      rw [List.getElem?_append_left (by omega)] at hsame ⊢
      rw [hsame]
      simp [cells, shiftDown_apply, hi, hlt]

/-! ## Taking out all the repeated keys -/

section

variable [DecidableEq κ] (key : α → κ)

/-- The middle loop, with `j` at its start: every later element with the key of the one at `i` is taken out. -/
def dropRepeats (i : Nat) (a : Nat → α) (j count : Nat) : (Nat → α) × Nat :=
  if j < count then
    if key (a i) = key (a j) then dropRepeats i (shiftDown a j count) j (count - 1)
    else dropRepeats i a (j + 1) count
  else (a, count)
termination_by count - j

theorem dropRepeats_le (i : Nat) (a : Nat → α) (j count : Nat) : (dropRepeats key i a j count).2 ≤ count := by
  induction hn : count - j generalizing a j count with
  | zero =>
    have hstop : dropRepeats key i a j count = (a, count) := by rw [dropRepeats, if_neg (by omega)]
    exact Nat.le_of_eq (congrArg Prod.snd hstop)
  | succ n ih =>
    rw [dropRepeats, if_pos (by omega)]
    split
    · exact Nat.le_trans (ih (shiftDown a j count) j (count - 1) (by omega)) (Nat.sub_le _ _)
    · exact ih a (j + 1) count (by omega)

/-- The outer loop, with `i` at its start. -/
def removeRepeats (a : Nat → α) (i count : Nat) : (Nat → α) × Nat :=
  if i < count then
    removeRepeats (dropRepeats key i a (i + 1) count).1 (i + 1) (dropRepeats key i a (i + 1) count).2
  else (a, count)
termination_by count - i
decreasing_by
  have := dropRepeats_le key i a (i + 1) count
  omega

/-- Every element whose key was there before is left out, in the list or in `seen`. -/
def keepFirst : List κ → List α → List α
  | _, [] => []
  | seen, x :: xs => if key x ∈ seen then keepFirst (key x :: seen) xs else x :: keepFirst (key x :: seen) xs

variable {key}

theorem keepFirst_congr {seen seen' : List κ} (h : ∀ k, k ∈ seen ↔ k ∈ seen') (xs : List α) :
    keepFirst key seen xs = keepFirst key seen' xs := by
  induction xs generalizing seen seen' with
  | nil => rfl
  | cons x xs ih =>
    have hcons : ∀ k, k ∈ key x :: seen ↔ k ∈ key x :: seen' := by simp [h]
    rw [keepFirst, keepFirst, ih hcons, if_congr (h (key x)) rfl rfl]

/-- Elements whose key was seen can be left out before. -/
theorem keepFirst_filter (seen : List κ) (k : κ) (xs : List α) :
    keepFirst key (k :: seen) xs = keepFirst key seen (xs.filter fun y => k ≠ key y) := by
  induction xs generalizing seen with
  | nil => rfl
  | cons x xs ih =>
    have hswap : keepFirst key (key x :: k :: seen) xs = keepFirst key (k :: key x :: seen) xs :=
      keepFirst_congr (by simp [or_left_comm]) xs
    rw [keepFirst, hswap, ih]
    by_cases hk : k = key x
    · rw [if_pos (by simp [hk]), List.filter_cons_of_neg (by simp [hk]), ← ih]
      exact ((keepFirst_congr (by simp [hk]) xs).trans (ih seen))
    · have hmem : key x ∈ k :: seen ↔ key x ∈ seen := by simp [Ne.symm hk]
      rw [List.filter_cons_of_pos (by simp [hk]), keepFirst, if_congr hmem rfl rfl]

theorem keepFirst_cons (x : α) (xs : List α) :
    keepFirst key [] (x :: xs) = x :: keepFirst key [] (xs.filter fun y => key x ≠ key y) := by
  rw [keepFirst, if_neg List.not_mem_nil, keepFirst_filter]

variable (key) in
/-- What the middle loop leaves. -/
theorem cells_dropRepeats {i count : Nat} {a : Nat → α} (pre suf : List α) (hi : i < pre.length)
    (h : cells a count = pre ++ suf) :
    cells (dropRepeats key i a pre.length count).1 (dropRepeats key i a pre.length count).2 =
      pre ++ suf.filter fun y => key (a i) ≠ key y := by
  induction suf generalizing a count pre with
  | nil =>
    have hlen : count = pre.length := by simpa using congrArg List.length h
    rw [dropRepeats, if_neg (by omega)]
    simpa using h
  | cons x suf ih =>
    have hlen := congrArg List.length h
    simp only [length_cells, List.length_append, List.length_cons] at hlen
    have hx : a pre.length = x := eq_of_cells_eq_append h
    rw [dropRepeats, if_pos (by omega), hx]
    by_cases hk : key (a i) = key x
    · have hsame : shiftDown a pre.length count i = a i := by rw [shiftDown_apply, if_neg (by omega)]
      rw [if_pos hk, List.filter_cons_of_neg (by simp [hk]), ih pre hi (cells_shiftDown h), hsame]
    · have hnext := ih (pre ++ [x]) (by simp; omega) (by simpa using h)
      rw [List.length_append, List.length_singleton] at hnext
      rw [if_neg hk, List.filter_cons_of_pos (by simp [hk]), hnext, List.append_assoc, List.singleton_append]

variable (key) in
/-- **What the three loops leave**: the first element with each key, in order. -/
theorem cells_removeRepeats {count : Nat} {a : Nat → α} (pre suf : List α) (h : cells a count = pre ++ suf) :
    cells (removeRepeats key a pre.length count).1 (removeRepeats key a pre.length count).2 =
      pre ++ keepFirst key [] suf := by
  induction hn : suf.length using Nat.strongRecOn generalizing a count pre suf with
  | ind n ih =>
    have hlen := congrArg List.length h
    rw [length_cells, List.length_append] at hlen
    cases suf with
    | nil =>
      rw [List.length_nil, Nat.add_zero] at hlen
      rw [removeRepeats, if_neg (by omega)]
      simpa [keepFirst] using h
    | cons x suf =>
      rw [List.length_cons] at hlen hn
      have hx : a pre.length = x := eq_of_cells_eq_append h
      have hdrop := cells_dropRepeats key (pre ++ [x]) suf (i := pre.length) (by simp) (by simpa using h)
      rw [List.length_append, List.length_singleton, hx] at hdrop
      have hlt : (suf.filter fun y => key x ≠ key y).length < n := by
        have := List.length_filter_le (fun y => decide (key x ≠ key y)) suf
        omega
      have hrest := ih _ hlt _ _ hdrop rfl
      rw [List.length_append, List.length_singleton] at hrest
      rw [removeRepeats, if_pos (by omega), hrest, keepFirst_cons, List.append_assoc, List.singleton_append]

end

end Agm.Lib
