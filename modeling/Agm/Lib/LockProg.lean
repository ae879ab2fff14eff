import Mathlib.Data.Fintype.Basic
import Mathlib.Data.Fintype.Lattice
import Mathlib.Logic.Function.Basic
import Agm.Lib.Locks
import Agm.Lib.Runs

/-!
# What a function does to locks

A function is seen as the locks it takes and gives back: its branches, its loops and the objects it picks are choices.
`LockProg.Typed rank held p held'` says that `p`, called with the locks `held`, gives back only locks it holds, takes only
locks above all it holds, and ends with `held'`.  Threads whose functions are typed run forever without a deadlock, and as
long as one of them is not done one of them can go on.
-/

namespace Agm.Lib

variable {lock : Type}

inductive LockProg (lock : Type)
  | skip
  | acq (l : lock)
  | rel (l : lock)
  | seq (p q : LockProg lock)
  | alt (p q : LockProg lock)
  | star (p : LockProg lock)
  | any (f : Nat → LockProg lock)

namespace LockProg

/-- Done or not. -/
def opt (p : LockProg lock) : LockProg lock := alt skip p

/-- Under a lock. -/
def under (l : lock) (p : LockProg lock) : LockProg lock := (acq l).seq (p.seq (rel l))

variable (rank : lock → Nat)

/-- Called with the locks `held`, the newest first, the program keeps to the order and leaves the second list. -/
inductive Typed : List lock → LockProg lock → List lock → Prop
  | skip (held) : Typed held skip held
  | acq {held} {l : lock} (h : ∀ l' ∈ held, rank l' < rank l) : Typed held (acq l) (l :: held)
  | rel (l : lock) (held) : Typed (l :: held) (rel l) held
  | seq {held held₁ held₂ p q} (hp : Typed held p held₁) (hq : Typed held₁ q held₂) : Typed held (seq p q) held₂
  | alt {held held' p q} (hp : Typed held p held') (hq : Typed held q held') : Typed held (alt p q) held'
  | star {held p} (hp : Typed held p held) : Typed held (star p) held
  | any {held held' f} (hf : ∀ n, Typed held (f n) held') : Typed held (any f) held'

/-- The program leaves the locks as they are, and keeps to the order wherever only locks up to `bound` are held. -/
def Above (bound : Nat) (p : LockProg lock) : Prop :=
  ∀ held, (∀ l ∈ held, rank l < bound) → Typed rank held p held

/-- Called with `l` held above all others, the program keeps to the order and gives `l` back. -/
def Ends (l : lock) (p : LockProg lock) : Prop :=
  ∀ held, (∀ l' ∈ held, rank l' < rank l) → Typed rank (l :: held) p held

variable {rank} {bound bound' : Nat} {p q : LockProg lock}

namespace Above

theorem mono (h : Above rank bound p) (hle : bound' ≤ bound) : Above rank bound' p := fun held hheld =>
  h held fun l hl => (hheld l hl).trans_le hle

theorem skip : Above rank bound (skip : LockProg lock) := fun held _ => Typed.skip held

theorem seq (hp : Above rank bound p) (hq : Above rank bound q) : Above rank bound (seq p q) := fun held h =>
  Typed.seq (hp held h) (hq held h)

theorem alt (hp : Above rank bound p) (hq : Above rank bound q) : Above rank bound (alt p q) := fun held h =>
  Typed.alt (hp held h) (hq held h)

theorem star (hp : Above rank bound p) : Above rank bound (star p) := fun held h => Typed.star (hp held h)

theorem any {f : Nat → LockProg lock} (hf : ∀ n, Above rank bound (f n)) : Above rank bound (any f) := fun held h =>
  Typed.any fun n => hf n held h

theorem opt (hp : Above rank bound p) : Above rank bound (opt p) := alt skip hp

/-- What runs under a lock gives it back in the end. -/
theorem acq_seq {l : lock} (hle : bound ≤ rank l) (hp : Ends rank l p) : Above rank bound (.seq (.acq l) p) :=
  fun held h => by
    have hlt : ∀ l' ∈ held, rank l' < rank l := fun l' hl' => (h l' hl').trans_le hle
    exact Typed.seq (Typed.acq hlt) (hp held hlt)

/-- A program under a lock is one with the lock held. -/
theorem typed_cons {l : lock} {held : List lock} (h : ∀ l' ∈ held, rank l' < rank l) (hp : Above rank (rank l + 1) p) :
    Typed rank (l :: held) p (l :: held) := hp (l :: held) fun l' hl' => by
  rcases List.mem_cons.1 hl' with rfl | hl'
  · exact Nat.lt_succ_self _
  · exact (h l' hl').trans (Nat.lt_succ_self _)

end Above

namespace Ends

variable {l : lock}

theorem rel : Ends rank l (rel l) := fun held _ => Typed.rel l held

theorem alt (hp : Ends rank l p) (hq : Ends rank l q) : Ends rank l (alt p q) := fun held h =>
  Typed.alt (hp held h) (hq held h)

/-- Before it is given back. -/
theorem seq (hp : Above rank (rank l + 1) p) (hq : Ends rank l q) : Ends rank l (seq p q) := fun held h =>
  Typed.seq (hp.typed_cons h) (hq held h)

/-- After it was given back. -/
theorem seq_above (hp : Ends rank l p) (hq : Above rank (rank l) q) : Ends rank l (.seq p q) := fun held h =>
  Typed.seq (hp held h) (hq held h)

end Ends

theorem Above.under {l : lock} (hle : bound ≤ rank l) (hp : Above rank (rank l + 1) p) :
    Above rank bound (under l p) := Above.acq_seq hle (Ends.seq hp Ends.rel)

end LockProg

/-! ## Threads -/

/-- The locks a thread holds, the newest first, and what it still has to do. -/
structure LockThread (lock : Type) where
  held : List lock := []
  todo : List (LockProg lock)

namespace LockThread

/-- The lock a thread takes next. -/
def wants (t : LockThread lock) : Option lock :=
  match t.todo with
  | .acq l :: _ => some l
  | _ => none

/-- The lock a thread gives back next. -/
def returns (t : LockThread lock) : Option lock :=
  match t.todo with
  | .rel l :: _ => some l
  | _ => none

/-- A thread goes on; `choice` says where, if there is a choice.  A lock that is not held is given back without effect. -/
def next [DecidableEq lock] (choice : Nat) (t : LockThread lock) : Option (LockThread lock) :=
  match t.todo with
  | [] => none
  | .skip :: k => some { t with todo := k }
  | .acq l :: k => some ⟨l :: t.held, k⟩
  | .rel l :: k => some ⟨t.held.erase l, k⟩
  | .seq p q :: k => some { t with todo := p :: q :: k }
  | .alt p q :: k => some { t with todo := (if choice = 0 then p else q) :: k }
  | .star p :: k => some { t with todo := if choice = 0 then k else p :: .star p :: k }
  | .any f :: k => some { t with todo := f choice :: k }

/-- All that is left to do is typed, one after the other, and leaves no lock behind. -/
inductive TypedRest (rank : lock → Nat) : List lock → List (LockProg lock) → Prop
  | nil : TypedRest rank [] []
  | cons {held held' p k} (hp : LockProg.Typed rank held p held') (hk : TypedRest rank held' k) :
      TypedRest rank held (p :: k)

variable {rank : lock → Nat}

def Typed (rank : lock → Nat) (t : LockThread lock) : Prop := TypedRest rank t.held t.todo

theorem Typed.of_above {ps : List (LockProg lock)} (h : ∀ p ∈ ps, LockProg.Above rank 0 p) :
    Typed rank (⟨[], ps⟩ : LockThread lock) := by
  induction ps with
  | nil => exact .nil
  | cons p ps ih =>
    exact .cons (h p List.mem_cons_self [] fun _ hl => absurd hl List.not_mem_nil)
      (ih fun q hq => h q (List.mem_cons_of_mem p hq))

variable {t t' : LockThread lock}

theorem Typed.held_of_todo (h : t.Typed rank) (ht : t.todo = []) : t.held = [] := by
  obtain ⟨held, todo⟩ := t
  obtain rfl : todo = [] := ht
  have h : TypedRest rank held [] := h
  cases h with
  | nil => rfl

theorem returns_eq_some {l : lock} : t.returns = some l ↔ ∃ k, t.todo = .rel l :: k := by
  unfold returns
  split
  · next l' k ht =>
    rw [ht]
    exact ⟨fun h => ⟨k, by rw [Option.some.inj h]⟩, fun ⟨k', h⟩ => by
      rw [LockProg.rel.inj (List.cons.inj h).1]⟩
  · next hne => exact ⟨fun h => absurd h (Option.some_ne_none l).symm, fun ⟨k, h⟩ => absurd h (hne l k)⟩

theorem wants_eq_some {l : lock} : t.wants = some l ↔ ∃ k, t.todo = .acq l :: k := by
  unfold wants
  split
  · next l' k ht =>
    rw [ht]
    exact ⟨fun h => ⟨k, by rw [Option.some.inj h]⟩, fun ⟨k', h⟩ => by
      rw [LockProg.acq.inj (List.cons.inj h).1]⟩
  · next hne => exact ⟨fun h => absurd h (Option.some_ne_none l).symm, fun ⟨k, h⟩ => absurd h (hne l k)⟩

/-- What a typed thread wants is above all it holds. -/
theorem Typed.rank_lt (h : t.Typed rank) {l l' : lock} (hl : t.wants = some l) (hl' : l' ∈ t.held) :
    rank l' < rank l := by
  obtain ⟨k, ht⟩ := wants_eq_some.1 hl
  obtain ⟨held, todo⟩ := t
  obtain rfl : todo = .acq l :: k := ht
  have h : TypedRest rank held (.acq l :: k) := h
  cases h with
  | cons hp hk =>
    cases hp with
    | acq hlt => exact hlt l' hl'

/-- A typed thread gives back the lock it took last. -/
theorem Typed.returns_mem (h : t.Typed rank) {l : lock} (hl : t.returns = some l) : l ∈ t.held := by
  obtain ⟨k, ht⟩ := returns_eq_some.1 hl
  obtain ⟨held, todo⟩ := t
  obtain rfl : todo = .rel l :: k := ht
  have h : TypedRest rank held (.rel l :: k) := h
  cases h with
  | cons hp hk =>
    cases hp with
    | rel => exact List.mem_cons_self

/-- **A step keeps a thread typed.** -/
theorem Typed.next [DecidableEq lock] {choice : Nat} (h : t.Typed rank) (hn : t.next choice = some t') :
    t'.Typed rank := by
  obtain ⟨held, todo⟩ := t
  unfold Typed at h
  dsimp only at h
  cases h with
  | nil => cases hn
  | @cons _ held' p k hp hk =>
    cases hp with
    | skip =>
      obtain rfl := Option.some.inj hn
      exact hk
    | acq hlt =>
      obtain rfl := Option.some.inj hn
      exact hk
    | rel l =>
      obtain rfl := Option.some.inj hn
      show TypedRest rank ((l :: held').erase l) k
      rw [List.erase_cons_head]
      exact hk
    | seq hp hq =>
      obtain rfl := Option.some.inj hn
      exact .cons hp (.cons hq hk)
    | alt hp hq =>
      obtain rfl := Option.some.inj hn
      refine .cons ?_ hk
      split
      · exact hp
      · exact hq
    | star hp =>
      obtain rfl := Option.some.inj hn
      show TypedRest rank held _
      split
      · exact hk
      · exact .cons hp (.cons (.star hp) hk)
    | any hf =>
      obtain rfl := Option.some.inj hn
      exact .cons (hf choice) hk

/-- A step takes at most the lock that was wanted. -/
theorem held_next [DecidableEq lock] {choice : Nat} (hn : t.next choice = some t') {l : lock} (hl : l ∈ t'.held) :
    l ∈ t.held ∨ t.wants = some l := by
  unfold LockThread.next at hn
  unfold wants
  cases ht : t.todo with
  | nil =>
    rw [ht] at hn
    cases hn
  | cons p k =>
    rw [ht] at hn
    cases p with
    | acq l' =>
      obtain rfl := Option.some.inj hn
      rcases List.mem_cons.1 hl with rfl | hl
      · exact .inr rfl
      · exact .inl hl
    | rel l' =>
      obtain rfl := Option.some.inj hn
      exact .inl (List.mem_of_mem_erase hl)
    | _ =>
      obtain rfl := Option.some.inj hn
      exact .inl hl

end LockThread

/-! ## Threads side by side -/

section

variable {ι : Type} [Fintype ι] [DecidableEq ι] [DecidableEq lock]

/-- Nobody holds the lock. -/
def LockFree (ts : ι → LockThread lock) (l : lock) : Prop := ∀ j, l ∉ (ts j).held

instance (ts : ι → LockThread lock) (l : lock) : Decidable (LockFree ts l) :=
  inferInstanceAs (Decidable (∀ j, l ∉ (ts j).held))

/-- One thread goes on; a lock can only be taken while nobody holds it. -/
def execLocks (o : ι × Nat) (ts : ι → LockThread lock) : Option (Unit × (ι → LockThread lock)) :=
  if (ts o.1).wants.all fun l => LockFree ts l then
    ((ts o.1).next o.2).map fun t => ((), Function.update ts o.1 t)
  else none

/-- Every thread is typed, and no lock is held by two of them. -/
structure LocksRight (rank : lock → Nat) (ts : ι → LockThread lock) : Prop where
  typed : ∀ i, (ts i).Typed rank
  apart : ∀ i j l, l ∈ (ts i).held → l ∈ (ts j).held → i = j

variable {rank : lock → Nat} {ts ts' : ι → LockThread lock}

theorem LocksRight.step {o : ι × Nat} {r : Unit} (h : LocksRight rank ts) (he : execLocks o ts = some (r, ts')) :
    LocksRight rank ts' := by
  obtain ⟨i, choice⟩ := o
  obtain ⟨hfree, he⟩ := Option.ite_none_right_eq_some.1 he
  obtain ⟨t, hn, he⟩ := Option.map_eq_some_iff.1 he
  obtain ⟨-, rfl⟩ := Prod.mk.inj he
  -- a lock that the thread has now is held by no other
  have hnew {l : lock} (hl : l ∈ t.held) {j : ι} (hj : l ∈ (ts j).held) : i = j := by
    rcases LockThread.held_next hn hl with hold | hwants
    · exact h.apart i j l hold hj
    · rw [hwants] at hfree
      exact absurd hj (of_decide_eq_true hfree j)
  refine ⟨fun j => ?_, fun j k l hj hk => ?_⟩
  · by_cases hji : j = i
    · subst hji
      rw [Function.update_self]
      exact (h.typed j).next hn
    · rw [Function.update_of_ne hji]
      exact h.typed j
  · by_cases hji : j = i <;> by_cases hki : k = i
    · rw [hji, hki]
    · subst hji
      rw [Function.update_self] at hj
      rw [Function.update_of_ne hki] at hk
      exact hnew hj hk
    · subst hki
      rw [Function.update_self] at hk
      rw [Function.update_of_ne hji] at hj
      exact (hnew hk hj).symm
    · rw [Function.update_of_ne hji] at hj
      rw [Function.update_of_ne hki] at hk
      exact h.apart j k l hj hk

theorem LocksRight.run (h : LocksRight rank ts) (hr : Runs execLocks (fun _ _ => True) ts ts') : LocksRight rank ts' :=
  hr.invariant h fun _ _ _ _ h _ he => h.step he

omit [Fintype ι] [DecidableEq ι] [DecidableEq lock] in
theorem locksRight_of_above {calls : ι → List (LockProg lock)} (h : ∀ i, ∀ p ∈ calls i, LockProg.Above rank 0 p) :
    LocksRight rank fun i => ⟨[], calls i⟩ :=
  ⟨fun i => LockThread.Typed.of_above (h i), fun _ _ _ hl => absurd hl List.not_mem_nil⟩

omit [Fintype ι] [DecidableEq ι] [DecidableEq lock] in
/-- Nobody waits in a circle. -/
theorem LocksRight.not_deadlock (h : LocksRight rank ts) :
    ¬ Deadlock (fun i l => l ∈ (ts i).held) fun i => (ts i).wants :=
  not_deadlock_of_rank rank fun i _ _ hl hl' => (h.typed i).rank_lt hl hl'

omit [DecidableEq ι] [DecidableEq lock] in
/-- **Somebody can go on.**  Of the threads that are not done, the one that wants the highest lock is not kept waiting. -/
theorem LocksRight.exists_free (h : LocksRight rank ts) {i : ι} (hi : (ts i).todo ≠ []) :
    ∃ j, (ts j).todo ≠ [] ∧ ∀ l, (ts j).wants = some l → LockFree ts l := by
  by_contra hno
  have hwait : ∀ j, (ts j).todo ≠ [] → ∃ l, (ts j).wants = some l ∧ ¬ LockFree ts l := by
    intro j hj
    by_contra hl
    exact hno ⟨j, hj, fun l hw => by_contra fun hf => hl ⟨l, hw, hf⟩⟩
  -- the rank of what a thread waits for
  let height (j : ι) : Nat := ((ts j).wants.map rank).getD 0
  obtain ⟨j, hj, hmax⟩ := Finset.exists_max_image (Finset.univ.filter fun j => (ts j).todo ≠ []) height
    ⟨i, Finset.mem_filter.2 ⟨Finset.mem_univ i, hi⟩⟩
  obtain ⟨l, hl, hbusy⟩ := hwait j (Finset.mem_filter.1 hj).2
  obtain ⟨k, hk⟩ := not_forall.1 hbusy
  have hk : l ∈ (ts k).held := not_not.1 hk
  have hunfinished : (ts k).todo ≠ [] := fun hdone => by
    rw [(h.typed k).held_of_todo hdone] at hk
    exact absurd hk List.not_mem_nil
  obtain ⟨l', hl', -⟩ := hwait k hunfinished
  have hle := hmax k (Finset.mem_filter.2 ⟨Finset.mem_univ k, hunfinished⟩)
  have hlt := (h.typed k).rank_lt hl' hk
  have hhj : height j = rank l := by simp only [height, hl, Option.map_some, Option.getD_some]
  have hhk : height k = rank l' := by simp only [height, hl', Option.map_some, Option.getD_some]
  omega

end

end Agm.Lib
