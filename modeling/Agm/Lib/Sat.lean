import Mathlib.Data.List.Forall2
import Mathlib.Order.Defs.Unbundled

/-!
# A small program logic for state programs

The C code modelled in this development is sequential: a function reads and writes a state and hands back a
value, most of the time a return code, unless it uses a pointer that is not valid and the process ends there.  Such
a function is a `Prog σ α`, and this module has the rules the proofs about it use:

* `Sat m s Q` — run from `s`, the program `m` only ends in a value and a state satisfying `Q`;
* `Within R m` — whatever the start, `m` moves the state along the preorder `R` only (the frame condition);
* `zoom` — a program on a part of the state, run inside the whole;
* `Total m` — the process survives `m`; `Returns m s Q` and `Keeps I m` — it does where the invariant holds;
* `forEach`, `mapEach` — the two shapes of a walk over an intrusive list: the body may replace the node it is
  at, and the first one leaves the list at the first non-zero return code.
-/

namespace Agm.Lib

/-- A program on the state `σ`; `none` is a process that is no more. -/
abbrev Prog (σ α : Type) := StateT σ Option α

variable {σ τ α β γ : Type}

/-- The process ends here. -/
def crash : Prog σ α := fun _ => none

/-! ## Running a program -/

/-- Run from `s`, the program `m` only ends in a value and a state satisfying `Q`. -/
def Sat (m : Prog σ α) (s : σ) (Q : α → σ → Prop) : Prop := ∀ a t, m s = some (a, t) → Q a t

theorem Sat.mono {m : Prog σ α} {s : σ} {Q Q' : α → σ → Prop} (h : Sat m s Q) (hQ : ∀ a t, Q a t → Q' a t) :
    Sat m s Q' := fun a t he => hQ a t (h a t he)

theorem Sat.and {m : Prog σ α} {s : σ} {Q Q' : α → σ → Prop} (h : Sat m s Q) (h' : Sat m s Q') :
    Sat m s (fun a t => Q a t ∧ Q' a t) := fun a t he => ⟨h a t he, h' a t he⟩

/-- What is seen at the end of one run satisfies what every run satisfies. -/
theorem Sat.exists_of_map {m : Prog σ α} {s : σ} {Q : α → σ → Prop} (h : Sat m s Q) (f : α → σ → β) {b : β}
    (hm : (m s).map (fun p => f p.1 p.2) = some b) : ∃ a t, Q a t ∧ f a t = b := by
  obtain ⟨p, hp, hb⟩ := Option.map_eq_some_iff.1 hm
  exact ⟨p.1, p.2, h p.1 p.2 hp, hb⟩

@[simp] theorem sat_crash (s : σ) (Q : α → σ → Prop) : Sat crash s Q ↔ True :=
  ⟨fun _ => trivial, fun _ _ _ he => nomatch he⟩

@[simp] theorem sat_pure (a : α) (s : σ) (Q : α → σ → Prop) : Sat (pure a) s Q ↔ Q a s := by
  refine ⟨fun h => h a s rfl, fun h b t he => ?_⟩
  obtain ⟨rfl, rfl⟩ : a = b ∧ s = t := Prod.mk.inj (Option.some.inj he)
  exact h

@[simp] theorem sat_bind (m : Prog σ α) (f : α → Prog σ β) (s : σ) (Q : β → σ → Prop) :
    Sat (m >>= f) s Q ↔ Sat m s (fun a t => Sat (f a) t Q) := by
  constructor
  · intro h a t he b u hb
    refine h b u ?_
    show (m s).bind _ = _
    rw [he]
    exact hb
  · intro h b u hb
    have hb : (m s).bind (fun p => f p.1 p.2) = some (b, u) := hb
    cases he : m s with
    | none => rw [he] at hb; cases hb
    | some p =>
      rw [he] at hb
      exact h p.1 p.2 he b u hb

@[simp] theorem sat_map (m : Prog σ α) (f : α → β) (s : σ) (Q : β → σ → Prop) :
    Sat (f <$> m) s Q ↔ Sat m s (fun a t => Q (f a) t) := by
  rw [← bind_pure_comp, sat_bind]
  simp

@[simp] theorem sat_get (s : σ) (Q : σ → σ → Prop) : Sat (get : Prog σ σ) s Q ↔ Q s s := sat_pure s s Q

@[simp] theorem sat_modify (f : σ → σ) (s : σ) (Q : PUnit → σ → Prop) :
    Sat (modify f : Prog σ PUnit) s Q ↔ Q ⟨⟩ (f s) := by
  refine ⟨fun h => h _ _ rfl, fun h b t he => ?_⟩
  obtain ⟨_, rfl⟩ : _ ∧ f s = t := Prod.mk.inj (Option.some.inj he)
  exact h

theorem sat_ite {c : Prop} [Decidable c] (m m' : Prog σ α) (s : σ) (Q : α → σ → Prop) :
    Sat (if c then m else m') s Q ↔ (c → Sat m s Q) ∧ (¬ c → Sat m' s Q) := by
  by_cases h : c <;> simp [h]

theorem Sat.bind {m : Prog σ α} {f : α → Prog σ β} {s : σ} {Q : α → σ → Prop} {Q' : β → σ → Prop}
    (h : Sat m s Q) (hf : ∀ a t, Q a t → Sat (f a) t Q') : Sat (m >>= f) s Q' :=
  (sat_bind m f s Q').2 (h.mono hf)

/-- The program ends, and reports an error. -/
def fails (m : Prog σ Int) (s : σ) : Bool := (m s).any (·.1 ≠ 0)

theorem sat_fails (m : Prog σ Int) (s : σ) : Sat m s fun r _ => fails m s = decide (r ≠ 0) := by
  intro r t h
  rw [fails, h]
  rfl

/-- A step that is only taken under a condition; where it is not taken the return code is `0`. -/
def onlyIf (c : Prop) [Decidable c] (m : Prog σ Int) : Prog σ Int := if c then m else pure 0

theorem sat_onlyIf {c : Prop} [Decidable c] (m : Prog σ Int) (s : σ) (Q : Int → σ → Prop) :
    Sat (onlyIf c m) s Q ↔ (c → Sat m s Q) ∧ (¬ c → Q 0 s) := by
  rw [onlyIf, sat_ite, sat_pure]

/-! ## Frame conditions -/

/-- Whatever the start, `m` moves the state along `R` only. -/
def Within (R : σ → σ → Prop) (m : Prog σ α) : Prop := ∀ s, Sat m s (fun _ t => R s t)

theorem Within.mono {R R' : σ → σ → Prop} {m : Prog σ α} (h : Within R m) (hR : ∀ s t, R s t → R' s t) :
    Within R' m := fun s => (h s).mono fun _ t => hR s t

/-- The preorder of an invariant. -/
def Inv (I : σ → Prop) (s t : σ) : Prop := I s → I t

instance {I : σ → Prop} : IsPreorder σ (Inv I) where
  refl _ := id
  trans _ _ _ h h' := h' ∘ h

theorem within_inv {I : σ → Prop} {m : Prog σ α} :
    Within (Inv I) m ↔ ∀ s, I s → Sat m s fun _ t => I t :=
  ⟨fun h s hs a t ht => h s a t ht hs, fun h s a t ht hs => h s hs a t ht⟩

section

variable {R : σ → σ → Prop}

theorem within_crash : Within R (crash : Prog σ α) := fun _ => (sat_crash _ _).2 trivial

theorem within_modify {f : σ → σ} (h : ∀ s, R s (f s)) : Within R (modify f : Prog σ PUnit) :=
  fun s => (sat_modify _ _ _).2 (h s)

theorem within_ite {c : Prop} [Decidable c] {m m' : Prog σ α} (h : Within R m) (h' : Within R m') :
    Within R (if c then m else m') := by
  by_cases hc : c
  · simpa [hc] using h
  · simpa [hc] using h'

variable [IsPreorder σ R]

theorem within_pure (a : α) : Within R (pure a : Prog σ α) := fun s => (sat_pure _ _ _).2 (refl_of R s)

theorem within_onlyIf {c : Prop} [Decidable c] {m : Prog σ Int} (h : Within R m) : Within R (onlyIf c m) :=
  within_ite h (within_pure _)

theorem within_get : Within R (get : Prog σ σ) := fun s => (sat_get _ _).2 (refl_of R s)

theorem within_bind {m : Prog σ α} {f : α → Prog σ γ} (h : Within R m) (hf : ∀ a, Within R (f a)) :
    Within R (m >>= f) :=
  fun s => (h s).bind fun a t ht => (hf a t).mono fun _ _ hu => trans_of R ht hu

end

/-! ## A program on a part of the state -/

/-- Run `m` on the part of the state that `g` reads and `p` writes back. -/
def zoom (g : σ → τ) (p : τ → σ → σ) (m : Prog τ α) : Prog σ α := fun s =>
  (m (g s)).map fun q => (q.1, p q.2 s)

@[simp] theorem sat_zoom (g : σ → τ) (p : τ → σ → σ) (m : Prog τ α) (s : σ) (Q : α → σ → Prop) :
    Sat (zoom g p m) s Q ↔ Sat m (g s) (fun a t => Q a (p t s)) := by
  constructor
  · intro h a t he
    refine h a (p t s) ?_
    rw [zoom, he]
    rfl
  · intro h a u he
    rw [zoom, Option.map_eq_some_iff] at he
    obtain ⟨q, hq, he⟩ := he
    obtain ⟨rfl, rfl⟩ := Prod.mk.inj he
    exact h q.1 q.2 hq

/-- What a program does to a part of the state, seen from the whole. -/
theorem Within.zoom {g : σ → τ} {p : τ → σ → σ} {m : Prog τ α} {R : τ → τ → Prop} {R' : σ → σ → Prop}
    (h : Within R m) (hR : ∀ s t, R (g s) t → R' s (p t s)) : Within R' (zoom g p m) :=
  fun s => (sat_zoom g p m s _).2 ((h (g s)).mono fun _ t ht => hR s t ht)

/-! ## Walks over a list -/

/-- Walk over a list whose nodes the body may replace; the walk ends at the first non-zero return code, and the
nodes it has not come to stay as they are. -/
def forEach (body : α → Prog σ (Int × α)) : List α → Prog σ (Int × List α)
  | [] => pure (0, [])
  | x :: xs => do
    let p ← body x
    if p.1 ≠ 0 then pure (p.1, p.2 :: xs)
    else do
      let q ← forEach body xs
      pure (q.1, p.2 :: q.2)

/-- Walk over the whole list, replacing every node; every turn may also set the return code. -/
def mapEach (body : Int → α → Prog σ (Int × α)) : Int → List α → Prog σ (Int × List α)
  | ret, [] => pure (ret, [])
  | ret, x :: xs => do
    let p ← body ret x
    let q ← mapEach body p.1 xs
    pure (q.1, p.2 :: q.2)

/-- **The rule for `forEach`.**  What is true of the state and the *current* list, part of it already replaced,
and is kept by the body at every node, is true at the end. -/
theorem forEach_inv {body : α → Prog σ (Int × α)} {J : σ → List α → Prop}
    (step : ∀ done x todo s, J s (done ++ x :: todo) → Sat (body x) s (fun p t => J t (done ++ p.2 :: todo)))
    {xs : List α} {s : σ} (h : J s xs) : Sat (forEach body xs) s (fun p t => J t p.2) := by
  have key : ∀ (todo done : List α) (s : σ), J s (done ++ todo) →
      Sat (forEach body todo) s (fun p t => J t (done ++ p.2)) := by
    intro todo
    induction todo with
    | nil => intro done s h; exact (sat_pure _ _ _).2 h
    | cons x todo ih =>
      intro done s h
      refine Sat.bind (step done x todo s h) fun p t ht => ?_
      rw [sat_ite]
      refine ⟨fun _ => (sat_pure _ _ _).2 ht, fun _ => ?_⟩
      have := ih (done ++ [p.2]) t (by simpa using ht)
      refine Sat.bind this fun q u hu => (sat_pure _ _ _).2 ?_
      simpa using hu
  exact key xs [] s h

/-- The rule for `mapEach`. -/
theorem mapEach_inv {body : Int → α → Prog σ (Int × α)} {J : σ → List α → Prop}
    (step : ∀ done x todo ret s, J s (done ++ x :: todo) →
      Sat (body ret x) s (fun p t => J t (done ++ p.2 :: todo)))
    {xs : List α} {ret : Int} {s : σ} (h : J s xs) : Sat (mapEach body ret xs) s (fun p t => J t p.2) := by
  have key : ∀ (todo done : List α) (ret : Int) (s : σ), J s (done ++ todo) →
      Sat (mapEach body ret todo) s (fun p t => J t (done ++ p.2)) := by
    intro todo
    induction todo with
    | nil => intro done ret s h; exact (sat_pure _ _ _).2 h
    | cons x todo ih =>
      intro done ret s h
      refine Sat.bind (step done x todo ret s h) fun p t ht => ?_
      have := ih (done ++ [p.2]) p.1 t (by simpa using ht)
      refine Sat.bind this fun q u hu => (sat_pure _ _ _).2 ?_
      simpa using hu
  exact key xs [] ret s h

/-- What a walk does to each node: `S` as far as it came, `G` everywhere if it ran to its end.  `I` is what the turns
keep of the state. -/
theorem forEach_rel {body : α → Prog σ (Int × α)} {I : σ → Prop} {S G : α → α → Prop} (hS : ∀ x, S x x)
    (step : ∀ x s, I s → Sat (body x) s fun p t => I t ∧ S x p.2 ∧ (p.1 = 0 → G x p.2)) (xs : List α) {s : σ}
    (h : I s) :
    Sat (forEach body xs) s fun p t => I t ∧ List.Forall₂ S xs p.2 ∧ (p.1 = 0 → List.Forall₂ G xs p.2) := by
  induction xs generalizing s with
  | nil => exact (sat_pure _ _ _).2 ⟨h, .nil, fun _ => .nil⟩
  | cons x xs ih =>
    refine Sat.bind (step x s h) fun p t hp => ?_
    obtain ⟨ht, hSx, hGx⟩ := hp
    rw [sat_ite, sat_pure]
    refine ⟨fun hne => ⟨ht, .cons hSx (List.forall₂_same.2 fun x _ => hS x), fun h0 => absurd h0 hne⟩, fun h0 => ?_⟩
    refine Sat.bind (ih ht) fun q u hq => (sat_pure _ _ _).2 ⟨hq.1, .cons hSx hq.2.1, fun hq0 => ?_⟩
    exact .cons (hGx (Decidable.not_not.1 h0)) (hq.2.2 hq0)

/-- A walk whose turns all succeed. -/
theorem forEach_ok {body : α → Prog σ (Int × α)} {I : σ → Prop} {G : α → Prop}
    (step : ∀ x s, I s → G x → Sat (body x) s fun p t => I t ∧ G p.2 ∧ p.1 = 0) {xs : List α} {s : σ} (h : I s)
    (hG : ∀ x ∈ xs, G x) : Sat (forEach body xs) s fun p t => I t ∧ (∀ x ∈ p.2, G x) ∧ p.1 = 0 := by
  induction xs generalizing s with
  | nil => exact (sat_pure _ _ _).2 ⟨h, hG, rfl⟩
  | cons x xs ih =>
    refine Sat.bind (step x s h (hG x List.mem_cons_self)) fun p t hp => ?_
    obtain ⟨ht, hGp, hp0⟩ := hp
    rw [if_neg (fun hne => hne hp0)]
    refine Sat.bind (ih ht fun y hy => hG y (List.mem_cons_of_mem _ hy)) fun q u hq => (sat_pure _ _ _).2 ?_
    refine ⟨hq.1, fun y hy => ?_, hq.2.2⟩
    rcases List.mem_cons.1 hy with rfl | hy
    · exact hGp
    · exact hq.2.1 y hy

theorem mapEach_rel {body : Int → α → Prog σ (Int × α)} {I : σ → Prop} {S : α → α → Prop}
    (step : ∀ ret x s, I s → Sat (body ret x) s fun p t => I t ∧ S x p.2) (xs : List α) {ret : Int} {s : σ}
    (h : I s) : Sat (mapEach body ret xs) s fun p t => I t ∧ List.Forall₂ S xs p.2 := by
  induction xs generalizing s ret with
  | nil => exact (sat_pure _ _ _).2 ⟨h, .nil⟩
  | cons x xs ih =>
    refine Sat.bind (step ret x s h) fun p t hp => ?_
    exact Sat.bind (ih hp.1) fun q u hq => (sat_pure _ _ _).2 ⟨hq.1, .cons hp.2 hq.2⟩

section

variable {R : σ → σ → Prop} [IsPreorder σ R]

theorem within_forEach {body : α → Prog σ (Int × α)} (h : ∀ x, Within R (body x)) (xs : List α) :
    Within R (forEach body xs) := by
  induction xs with
  | nil => exact within_pure _
  | cons x xs ih =>
    exact within_bind (h x) fun p => within_ite (within_pure _) (within_bind ih fun q => within_pure _)

theorem within_mapEach {body : Int → α → Prog σ (Int × α)} (h : ∀ ret x, Within R (body ret x)) (ret : Int)
    (xs : List α) : Within R (mapEach body ret xs) := by
  induction xs generalizing ret with
  | nil => exact within_pure _
  | cons x xs ih => exact within_bind (h ret x) fun p => within_bind (ih p.1) fun q => within_pure _

end

/-! ## Programs that end -/

/-- The process survives `m`, whatever the start. -/
def Total (m : Prog σ α) : Prop := ∀ s, (m s).isSome

theorem Total.exists {m : Prog σ α} (h : Total m) (s : σ) : ∃ a t, m s = some (a, t) := by
  obtain ⟨p, hp⟩ := Option.isSome_iff_exists.1 (h s)
  exact ⟨p.1, p.2, hp⟩

theorem total_pure (a : α) : Total (pure a : Prog σ α) := fun _ => rfl

theorem total_get : Total (get : Prog σ σ) := fun _ => rfl

theorem total_modify (f : σ → σ) : Total (modify f : Prog σ PUnit) := fun _ => rfl

theorem bind_apply {m : Prog σ α} {f : α → Prog σ β} {s t : σ} {a : α} (h : m s = some (a, t)) :
    (m >>= f) s = f a t := by
  show (m s).bind (fun p => f p.1 p.2) = _
  rw [h]
  rfl

theorem bind_apply_none {m : Prog σ α} {f : α → Prog σ β} {s : σ} (h : m s = none) : (m >>= f) s = none := by
  show (m s).bind (fun p => f p.1 p.2) = none
  rw [h]
  rfl

theorem total_bind {m : Prog σ α} {f : α → Prog σ β} (h : Total m) (hf : ∀ a, Total (f a)) : Total (m >>= f) := by
  intro s
  obtain ⟨a, t, he⟩ := h.exists s
  rw [bind_apply he]
  exact hf a t

theorem total_ite {c : Prop} [Decidable c] {m m' : Prog σ α} (h : Total m) (h' : Total m') :
    Total (if c then m else m') := by
  by_cases hc : c
  · simpa [hc] using h
  · simpa [hc] using h'

theorem Total.zoom {g : σ → τ} {p : τ → σ → σ} {m : Prog τ α} (h : Total m) : Total (zoom g p m) := by
  intro s
  rw [Lib.zoom, Option.isSome_map]
  exact h (g s)

theorem total_forEach {body : α → Prog σ (Int × α)} (h : ∀ x, Total (body x)) (xs : List α) :
    Total (forEach body xs) := by
  induction xs with
  | nil => exact total_pure _
  | cons x xs ih => exact total_bind (h x) fun p => total_ite (total_pure _) (total_bind ih fun q => total_pure _)

theorem total_mapEach {body : Int → α → Prog σ (Int × α)} (h : ∀ ret x, Total (body ret x)) (ret : Int)
    (xs : List α) : Total (mapEach body ret xs) := by
  induction xs generalizing ret with
  | nil => exact total_pure _
  | cons x xs ih => exact total_bind (h ret x) fun p => total_bind (ih p.1) fun q => total_pure _

/-- The process survives `m` from `s`, which ends in a value and a state satisfying `Q`. -/
def Returns (m : Prog σ α) (s : σ) (Q : α → σ → Prop) : Prop := (m s).isSome ∧ Sat m s Q

theorem Total.returns {m : Prog σ α} {s : σ} {Q : α → σ → Prop} (h : Total m) (hQ : Sat m s Q) : Returns m s Q :=
  ⟨h s, hQ⟩

theorem returns_pure {a : α} {s : σ} {Q : α → σ → Prop} (h : Q a s) : Returns (pure a : Prog σ α) s Q :=
  (total_pure a).returns ((sat_pure a s Q).2 h)

theorem Returns.mono {m : Prog σ α} {s : σ} {Q Q' : α → σ → Prop} (h : Returns m s Q) (hQ : ∀ a t, Q a t → Q' a t) :
    Returns m s Q' := ⟨h.1, h.2.mono hQ⟩

theorem Returns.isSome_bind {m : Prog σ α} {f : α → Prog σ β} {s : σ} {Q : α → σ → Prop} (h : Returns m s Q)
    (hf : ∀ a t, Q a t → (f a t).isSome) : ((m >>= f) s).isSome := by
  obtain ⟨p, hp⟩ := Option.isSome_iff_exists.1 h.1
  rw [bind_apply hp]
  exact hf p.1 p.2 (h.2 p.1 p.2 hp)

theorem Returns.bind {m : Prog σ α} {f : α → Prog σ β} {s : σ} {Q : α → σ → Prop} {Q' : β → σ → Prop}
    (h : Returns m s Q) (hf : ∀ a t, Q a t → Returns (f a) t Q') : Returns (m >>= f) s Q' :=
  ⟨h.isSome_bind fun a t ha => (hf a t ha).1, Sat.bind h.2 fun a t ha => (hf a t ha).2⟩

theorem returns_ite {c : Prop} [Decidable c] {m m' : Prog σ α} {s : σ} {Q : α → σ → Prop} (h : c → Returns m s Q)
    (h' : ¬ c → Returns m' s Q) : Returns (if c then m else m') s Q := by
  by_cases hc : c
  · rw [if_pos hc]
    exact h hc
  · rw [if_neg hc]
    exact h' hc

/-- The rule for `forEach`, where the walk also comes to its end. -/
theorem returns_forEach {body : α → Prog σ (Int × α)} {J : σ → List α → Prop}
    (step : ∀ done x todo s, J s (done ++ x :: todo) → Returns (body x) s fun p t => J t (done ++ p.2 :: todo))
    {xs : List α} {s : σ} (h : J s xs) : Returns (forEach body xs) s fun p t => J t p.2 := by
  refine ⟨?_, forEach_inv (fun done x todo s hs => (step done x todo s hs).2) h⟩
  have key : ∀ (todo done : List α) (s : σ), J s (done ++ todo) → (forEach body todo s).isSome := by
    intro todo
    induction todo with
    | nil => exact fun _ _ _ => rfl
    | cons x todo ih =>
      intro done s h
      have hx := step done x todo s h
      obtain ⟨p, hp⟩ := Option.isSome_iff_exists.1 hx.1
      rw [forEach, bind_apply hp]
      by_cases hr : p.1.1 ≠ 0
      · rw [if_pos hr]
        rfl
      · rw [if_neg hr]
        have hrest := ih (done ++ [p.1.2]) p.2 (by simpa using hx.2 p.1 p.2 hp)
        obtain ⟨q, hq⟩ := Option.isSome_iff_exists.1 hrest
        rw [bind_apply hq]
        rfl
  exact key xs [] s h

/-- The process survives `m` where `I` holds, and `I` still holds then. -/
def Keeps (I : σ → Prop) (m : Prog σ α) : Prop := ∀ s, I s → Returns m s fun _ t => I t

section

variable {I : σ → Prop}

theorem Total.keeps {m : Prog σ α} (h : Total m) (hI : Within (Inv I) m) : Keeps I m := fun s hs =>
  h.returns (within_inv.1 hI s hs)

theorem keeps_pure (a : α) : Keeps I (pure a : Prog σ α) := fun _ hs => returns_pure hs

theorem keeps_get : Keeps I (get : Prog σ σ) := total_get.keeps within_get

theorem keeps_bind {m : Prog σ α} {f : α → Prog σ β} (h : Keeps I m) (hf : ∀ a, Keeps I (f a)) : Keeps I (m >>= f) :=
  fun s hs => (h s hs).bind fun a t ht => hf a t ht

theorem keeps_ite {c : Prop} [Decidable c] {m m' : Prog σ α} (h : Keeps I m) (h' : Keeps I m') :
    Keeps I (if c then m else m') := fun s hs => returns_ite (fun _ => h s hs) fun _ => h' s hs

theorem keeps_onlyIf {c : Prop} [Decidable c] {m : Prog σ Int} (h : Keeps I m) : Keeps I (onlyIf c m) :=
  keeps_ite h (keeps_pure 0)

end

end Agm.Lib
