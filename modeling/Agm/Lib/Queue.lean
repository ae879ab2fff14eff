import Mathlib.Data.List.Basic
import Mathlib.Data.List.Perm.Basic

/-!
# One queue for several readers

A reader takes the first element that is its own out of a queue it shares with others.
-/

namespace Agm.Lib

variable {α : Type} {p q : α → Bool}

/-- The reader's own elements lose their first. -/
theorem filter_eraseP_self (l : List α) : (l.eraseP p).filter p = (l.filter p).tail := by
  induction l with
  | nil => rfl
  | cons a l ih =>
    by_cases h : p a
    · simp [h]
    · simp [h, ih]

/-- Those of the others stay. -/
theorem filter_eraseP_of_disjoint (h : ∀ a, p a → q a = false) (l : List α) : (l.eraseP p).filter q = l.filter q := by
  induction l with
  | nil => rfl
  | cons a l ih =>
    by_cases ha : p a
    · simp [ha, h a ha]
    · simp [ha, List.filter_cons, ih]

/-- In a list with just one element of the kind, in any order, that is found and taken out. -/
theorem find?_eraseP_of_perm {a : α} {l rest : List α} (h : l.Perm (a :: rest)) (ha : p a = true)
    (hrest : ∀ b ∈ rest, p b = false) : l.find? p = some a ∧ (l.eraseP p).Perm rest := by
  have honly : ∀ b ∈ l, p b = true → b = a := by
    intro b hb hpb
    rcases List.mem_cons.1 (h.mem_iff.1 hb) with hba | hb
    · exact hba
    · rw [hrest b hb] at hpb
      cases hpb
  have hmem : a ∈ l := h.mem_iff.2 (List.mem_cons_self ..)
  obtain ⟨b, l₁, l₂, -, hpb, hl, herase⟩ := List.exists_of_eraseP hmem ha
  have hba : b = a := honly b (by rw [hl]; exact List.mem_append_right _ (List.mem_cons_self ..)) hpb
  constructor
  · obtain ⟨c, hc⟩ : ∃ c, l.find? p = some c := Option.isSome_iff_exists.1 (List.find?_isSome.2 ⟨a, hmem, ha⟩)
    rw [hc, honly c (List.mem_of_find?_eq_some hc) (List.find?_some hc)]
  · rw [herase]
    rw [hl, hba] at h
    exact (List.perm_cons a).1 (List.perm_middle.symm.trans h)

/-- Where a key is used once, the elements with it are one. -/
theorem filter_key_of_nodup {κ : Type} [DecidableEq κ] {key : α → κ} {l : List α} (h : (l.map key).Nodup) {a : α}
    (ha : a ∈ l) : l.filter (fun b => key b = key a) = [a] := by
  induction l with
  | nil => cases ha
  | cons b l ih =>
    rw [List.map_cons, List.nodup_cons] at h
    rcases List.mem_cons.1 ha with rfl | ha
    · rw [List.filter_cons_of_pos (by simp), List.filter_eq_nil_iff.2]
      intro c hc hkey
      exact h.1 (List.mem_map.2 ⟨c, hc, of_decide_eq_true hkey⟩)
    · rw [List.filter_cons_of_neg, ih h.2 ha]
      intro hkey
      exact h.1 (List.mem_map.2 ⟨a, ha, (of_decide_eq_true hkey).symm⟩)

/-- Where all of a kind have one key, and a key is used once, none of the kind is left. -/
theorem not_of_mem_eraseP {κ : Type} {key : α → κ} {l : List α} (h : (l.map key).Nodup)
    (hp : ∀ a ∈ l, ∀ b ∈ l, p a = true → p b = true → key a = key b) {b : α} (hb : b ∈ l.eraseP p) : p b = false := by
  by_contra hpb
  have hpb : p b = true := by simpa using hpb
  have hmem : b ∈ l := List.mem_of_mem_eraseP hb
  obtain ⟨a, l₁, l₂, -, hpa, hl, herase⟩ := List.exists_of_eraseP hmem hpb
  have hkey : key a = key b := hp a (by rw [hl]; exact List.mem_append_right _ (List.mem_cons_self ..)) b hmem hpa hpb
  rw [herase] at hb
  rw [hl, (List.perm_middle.map key).nodup_iff, List.map_cons, List.nodup_cons] at h
  exact h.1 (List.mem_map.2 ⟨b, hb, hkey.symm⟩)

/-- An element at a place, and those at the others. -/
theorem cons_eraseIdx_perm {l : List α} {i : Nat} {a : α} (h : l[i]? = some a) : (a :: l.eraseIdx i).Perm l := by
  obtain ⟨hi, rfl⟩ := List.getElem?_eq_some_iff.1 h
  exact List.getElem_cons_eraseIdx_perm hi

end Agm.Lib
