import Mathlib.Data.List.Forall2
import Mathlib.Data.List.Nodup
import Mathlib.Algebra.Order.BigOperators.Group.List
import Mathlib.Algebra.BigOperators.Group.List.Basic
import Mathlib.Order.Defs.Unbundled
import Mathlib.Tactic.Ring

/-!
# A pool of objects found by id, and sums over it

The service keeps its sessions in a list that only grows, each found by its id.  `Pool α` is such a list with the
objects beside it; that no id occurs twice is a field, so a sum over the pool changes by exactly one term when one
object is replaced (`Pool.total_put`).
-/

namespace Agm.Lib

/-- Objects found by id.  `objs` is meaningful at the ids of the pool. -/
structure Pool (α : Type) where
  ids : List Nat
  objs : Nat → α
  nodup : ids.Nodup

namespace Pool

variable {α : Type}

/-- Replace the object stored under `i`. -/
def put (p : Pool α) (i : Nat) (a : α) : Pool α :=
  { p with objs := fun j => if j = i then a else p.objs j }

/-- Add `a` under a new id `i` at the tail of the pool; an id that is there already keeps its object. -/
def getOrCreate (p : Pool α) (i : Nat) (a : α) : Pool α :=
  if h : i ∈ p.ids then p
  else
    { ids := p.ids ++ [i]
      objs := fun j => if j = i then a else p.objs j
      nodup := by
        rw [List.nodup_append]
        refine ⟨p.nodup, List.nodup_singleton i, ?_⟩
        intro x hx y hy hxy
        rw [List.mem_singleton] at hy
        exact h (hy ▸ hxy ▸ hx) }

/-- The sum of `f` over the objects of the pool. -/
def total (p : Pool α) (f : α → Int) : Int := (p.ids.map fun i => f (p.objs i)).sum

@[simp] theorem put_ids (p : Pool α) (i : Nat) (a : α) : (p.put i a).ids = p.ids := rfl

@[simp] theorem put_objs_self (p : Pool α) (i : Nat) (a : α) : (p.put i a).objs i = a := by simp [put]

theorem put_objs_of_ne (p : Pool α) {i j : Nat} (a : α) (h : j ≠ i) : (p.put i a).objs j = p.objs j := by
  simp [put, h]

theorem mem_getOrCreate (p : Pool α) (i : Nat) (a : α) : i ∈ (p.getOrCreate i a).ids := by
  unfold getOrCreate
  split
  · assumption
  · simp

theorem mem_getOrCreate_of_mem (p : Pool α) (i : Nat) (a : α) {j : Nat} (h : j ∈ p.ids) :
    j ∈ (p.getOrCreate i a).ids := by
  unfold getOrCreate
  split
  · exact h
  · exact List.mem_append_left _ h

theorem getOrCreate_objs_of_mem (p : Pool α) (i : Nat) (a : α) {j : Nat} (h : j ∈ p.ids) :
    (p.getOrCreate i a).objs j = p.objs j := by
  unfold getOrCreate
  split
  · rfl
  · rename_i hi
    have : j ≠ i := fun e => hi (e ▸ h)
    simp [this]

/-- Every object of the pool was there before, or is the new one. -/
theorem getOrCreate_objs (p : Pool α) (i : Nat) (a : α) {j : Nat} (h : j ∈ (p.getOrCreate i a).ids) :
    (j ∈ p.ids ∧ (p.getOrCreate i a).objs j = p.objs j) ∨
      (j = i ∧ i ∉ p.ids ∧ (p.getOrCreate i a).objs j = a) := by
  by_cases hj : j ∈ p.ids
  · exact .inl ⟨hj, getOrCreate_objs_of_mem p i a hj⟩
  · right
    by_cases hi : i ∈ p.ids
    · rw [getOrCreate, dif_pos hi] at h
      exact absurd h hj
    · rw [getOrCreate, dif_neg hi] at h
      have hji : j = i := by
        rcases List.mem_append.1 h with h | h
        · exact absurd h hj
        · exact List.mem_singleton.1 h
      refine ⟨hji, hi, ?_⟩
      rw [getOrCreate, dif_neg hi]
      simp [hji]

theorem sum_map_update {l : List Nat} (hl : l.Nodup) {i : Nat} (hi : i ∈ l) {f g : Nat → Int}
    (h : ∀ j ∈ l, j ≠ i → g j = f j) : (l.map g).sum = (l.map f).sum + (g i - f i) := by
  induction l with
  | nil => exact absurd hi List.not_mem_nil
  | cons x l ih =>
    obtain ⟨hx, hl⟩ := List.nodup_cons.1 hl
    rw [List.map_cons, List.map_cons, List.sum_cons, List.sum_cons]
    rcases List.mem_cons.1 hi with rfl | hi
    · have : l.map g = l.map f := List.map_congr_left fun j hj =>
        h j (List.mem_cons_of_mem _ hj) fun e => hx (e ▸ hj)
      rw [this]
      ring
    · have hxi : x ≠ i := fun e => hx (e ▸ hi)
      rw [ih hl hi fun j hj => h j (List.mem_cons_of_mem _ hj), h x List.mem_cons_self hxi]
      ring

/-- **Replacing one object changes a sum by one term.** -/
theorem total_put (p : Pool α) {i : Nat} (hi : i ∈ p.ids) (a : α) (f : α → Int) :
    (p.put i a).total f = p.total f + (f a - f (p.objs i)) := by
  unfold total
  rw [put_ids, sum_map_update (f := fun j => f (p.objs j)) p.nodup hi]
  · simp
  · intro j _ hj
    simp [put, hj]

/-- Creating an object that counts for nothing changes no sum. -/
theorem total_getOrCreate (p : Pool α) (i : Nat) {a : α} {f : α → Int} (ha : f a = 0) :
    (p.getOrCreate i a).total f = p.total f := by
  unfold getOrCreate
  split
  · rfl
  · rename_i hi
    simp only [total, List.map_append, List.map_cons, List.map_nil, List.sum_append, List.sum_cons,
      List.sum_nil, if_true, ha, add_zero]
    congr 1
    refine List.map_congr_left fun j hj => ?_
    have : j ≠ i := fun e => hi (e ▸ hj)
    simp [this]

/-- One object counts for at most the whole, when nothing counts negatively. -/
theorem le_total (p : Pool α) {i : Nat} (hi : i ∈ p.ids) {f : α → Int} (hf : ∀ a, 0 ≤ f a) :
    f (p.objs i) ≤ p.total f :=
  List.single_le_sum (by intro x hx; obtain ⟨j, _, rfl⟩ := List.mem_map.1 hx; exact hf _) _
    (List.mem_map.2 ⟨i, hi, rfl⟩)

/-- What all but one object count for is monotone in what is counted. -/
theorem total_sub_mono (p : Pool α) {i : Nat} (hi : i ∈ p.ids) {f g : α → Int} (h : ∀ a, f a ≤ g a) :
    p.total f - f (p.objs i) ≤ p.total g - g (p.objs i) := by
  have key := p.le_total hi (f := fun a => g a - f a) fun a => by
    have := h a
    omega
  have hsum : p.total g = p.total f + p.total fun a => g a - f a := by
    unfold total
    rw [← List.sum_map_add]
    congr 1
    refine List.map_congr_left fun j _ => ?_
    ring
  omega

/-! ## Growing -/

/-- `p'` has the objects of `p`, and perhaps some that were created since. -/
def Grows (create : Nat → α) (p p' : Pool α) : Prop :=
  ∃ js : List Nat, p' = js.foldl (fun p j => p.getOrCreate j (create j)) p

section

variable {create : Nat → α} {p p' : Pool α}

instance : IsPreorder (Pool α) (Grows create) where
  refl _ := ⟨[], rfl⟩
  trans := by
    rintro _ _ _ ⟨js, rfl⟩ ⟨js', rfl⟩
    exact ⟨js ++ js', by rw [List.foldl_append]⟩

theorem grows_getOrCreate (p : Pool α) (j : Nat) : Grows create p (p.getOrCreate j (create j)) := ⟨[j], rfl⟩

theorem Grows.mem (h : Grows create p p') {i : Nat} (hi : i ∈ p.ids) : i ∈ p'.ids := by
  obtain ⟨js, rfl⟩ := h
  induction js generalizing p with
  | nil => exact hi
  | cons j js ih => exact ih (mem_getOrCreate_of_mem p j _ hi)

theorem Grows.objs (h : Grows create p p') {i : Nat} (hi : i ∈ p.ids) : p'.objs i = p.objs i := by
  obtain ⟨js, rfl⟩ := h
  induction js generalizing p with
  | nil => rfl
  | cons j js ih =>
    rw [List.foldl_cons, ih (mem_getOrCreate_of_mem p j _ hi), getOrCreate_objs_of_mem p j _ hi]

/-- An object of the grown pool was there before, or is as it was created. -/
theorem Grows.cases (h : Grows create p p') {i : Nat} (hi : i ∈ p'.ids) :
    (i ∈ p.ids ∧ p'.objs i = p.objs i) ∨ (i ∉ p.ids ∧ p'.objs i = create i) := by
  obtain ⟨js, rfl⟩ := h
  induction js generalizing p with
  | nil => exact .inl ⟨hi, rfl⟩
  | cons j js ih =>
    rw [List.foldl_cons] at hi ⊢
    rcases ih hi with ⟨hm, he⟩ | ⟨hm, he⟩
    · rcases getOrCreate_objs p j (create j) hm with ⟨hm', he'⟩ | ⟨hj, hm', he'⟩
      · exact .inl ⟨hm', he.trans he'⟩
      · exact .inr ⟨hj ▸ hm', (he.trans he').trans (by rw [hj])⟩
    · exact .inr ⟨fun hm' => hm (mem_getOrCreate_of_mem p j _ hm'), he⟩

theorem Grows.total (h : Grows create p p') {f : α → Int} (hf : ∀ j, f (create j) = 0) :
    p'.total f = p.total f := by
  obtain ⟨js, rfl⟩ := h
  induction js generalizing p with
  | nil => rfl
  | cons j js ih => rw [List.foldl_cons, ih, total_getOrCreate p j (hf j)]

/-- The sum over a pool that has grown and had one of its objects replaced. -/
theorem Grows.total_put (h : Grows create p p') {i : Nat} (hi : i ∈ p.ids) {f : α → Int}
    (hf : ∀ j, f (create j) = 0) (a : α) : (p'.put i a).total f = p.total f + (f a - f (p.objs i)) := by
  rw [Pool.total_put p' (h.mem hi) a f, h.total hf, h.objs hi]

end

end Pool

/-- Replacing the node at a place of a list. -/
theorem exists_set_eq {α : Type} (l : List α) (i : Nat) (d : α) (hi : i < l.length) :
    ∃ done todo, l = done ++ l.getD i d :: todo ∧ ∀ b, l.set i b = done ++ b :: todo := by
  refine ⟨l.take i, l.drop (i + 1), ?_, fun b => List.set_eq_take_append_cons_drop .. |>.trans (if_pos hi)⟩
  rw [List.getD_eq_getElem?_getD, List.getElem?_eq_getElem hi, Option.getD_some, List.getElem_cons_drop,
    List.take_append_drop]

theorem forall₂_set {α : Type} {S : α → α → Prop} (hS : ∀ x, S x x) {l : List α} {i : Nat} {d b : α}
    (hi : i < l.length) (h : S (l.getD i d) b) : List.Forall₂ S l (l.set i b) := by
  obtain ⟨done, todo, hl, hset⟩ := exists_set_eq l i d hi
  rw [hset]
  nth_rewrite 1 [hl]
  have hrefl (l : List α) : List.Forall₂ S l l := List.forall₂_same.2 fun x _ => hS x
  exact List.rel_append (hrefl done) (.cons h (hrefl todo))

theorem exists_mem_of_forall₂ {α : Type} {S : α → α → Prop} {l l' : List α} (h : List.Forall₂ S l l') {b : α}
    (hb : b ∈ l') : ∃ a ∈ l, S a b := by
  obtain ⟨i, hi, rfl⟩ := List.getElem_of_mem hb
  obtain ⟨hlen, hget⟩ := List.forall₂_iff_get.1 h
  have hi' : i < l.length := hlen ▸ hi
  exact ⟨_, List.getElem_mem hi', hget i hi' hi⟩

/-- Two relations between lists, one after the other. -/
theorem forall₂_comp {α : Type} {S S' T : α → α → Prop} {l₁ l₂ l₃ : List α} (h : List.Forall₂ S l₁ l₂)
    (h' : List.Forall₂ S' l₂ l₃) (hT : ∀ a b d, S a b → S' b d → T a d) : List.Forall₂ T l₁ l₃ := by
  induction h generalizing l₃ with
  | nil =>
    cases h'
    exact .nil
  | cons hab _ ih =>
    cases h' with
    | cons hbd h' => exact .cons (hT _ _ _ hab hbd) (ih h')

end Agm.Lib
