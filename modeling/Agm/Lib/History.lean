import Mathlib.Data.List.Induction

/-!
# What every entry of a history owes to the entries before it
-/

namespace Agm.Lib

variable {α : Type} {ok ok' : List α → α → Prop} {l : List α} {a : α}

/-- Every entry is right, given what came before it. -/
def EachAfter (ok : List α → α → Prop) (l : List α) : Prop :=
  ∀ past a rest, l = past ++ a :: rest → ok past a

theorem eachAfter_nil : EachAfter ok [] := by
  intro past a rest h
  simp at h

/-- A history that grows at its end. -/
theorem eachAfter_concat : EachAfter ok (l ++ [a]) ↔ EachAfter ok l ∧ ok l a := by
  constructor
  · intro h
    refine ⟨?_, h l a [] rfl⟩
    rintro past b rest rfl
    exact h past b (rest ++ [a]) (by simp)
  · rintro ⟨hl, ha⟩ past b rest heq
    rcases List.eq_nil_or_concat rest with rfl | ⟨rest, c, rfl⟩
    · obtain ⟨rfl, hb⟩ := List.append_inj' heq rfl
      obtain rfl := List.singleton_inj.1 hb
      exact ha
    · have heq' : l ++ [a] = (past ++ b :: rest) ++ [c] := by simpa using heq
      exact hl past b rest (List.append_inj' heq' rfl).1

/-- A run in which an operation keeps the history right exactly when it fits. -/
theorem right_run_iff {σ ω : Type} (inv good : σ → Prop) {step : σ → ω → σ} {init : σ} {fits : σ → ω → Prop}
    (hinv : inv init) (hgood : good init)
    (hstep : ∀ s o, inv s → inv (step s o) ∧ (good (step s o) ↔ good s ∧ fits s o)) (ops : List ω) :
    good (ops.foldl step init) ↔ EachAfter (fun past o => fits (past.foldl step init) o) ops := by
  have key : inv (ops.foldl step init) ∧
      (good (ops.foldl step init) ↔ EachAfter (fun past o => fits (past.foldl step init) o) ops) := by
    induction ops using List.reverseRecOn with
    | nil => exact ⟨hinv, iff_of_true hgood eachAfter_nil⟩
    | append_singleton ops o ih =>
      obtain ⟨hinv', hiff⟩ := ih
      obtain ⟨hnext, hone⟩ := hstep _ o hinv'
      rw [List.foldl_append, List.foldl_cons, List.foldl_nil, hone, hiff, eachAfter_concat]
      exact ⟨hnext, Iff.rfl⟩
  exact key.2

theorem eachAfter_iff_get : EachAfter ok l ↔ ∀ i : Fin l.length, ok (l.take i) (l.get i) := by
  constructor
  · intro h i
    refine h _ _ (l.drop (i + 1)) ?_
    rw [List.get_eq_getElem, List.getElem_cons_drop, List.take_append_drop]
  · rintro h past b rest rfl
    have := h ⟨past.length, by simp⟩
    simpa using this

instance [∀ past a, Decidable (ok past a)] : Decidable (EachAfter ok l) := decidable_of_iff' _ eachAfter_iff_get

end Agm.Lib
