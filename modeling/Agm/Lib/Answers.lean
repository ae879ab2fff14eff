import Agm.Lib.Sat

/-!
# Programs that call the outside world

Each call to the outside world is answered from a queue of its kind; an exhausted queue answers `0`.  Which calls a
program makes depends on its state, and mostly it leaves at the first one that is refused.  `Asks` says of such a
program that it succeeds exactly if the calls of a list are accepted, which is a condition on the state before the run
and on the answers that wait.
-/

namespace Agm.Lib

variable {κ σ α β : Type} [DecidableEq κ]

/-! ## Queues of answers -/

/-- The answers that wait after one more call. -/
def popAnswer (env : κ → List Int) (k : κ) : κ → List Int :=
  fun k' => if k' = k then (env k').tail else env k'

/-- The answers that wait after the calls `ks`. -/
def popAnswers (env : κ → List Int) (ks : List κ) : κ → List Int := ks.foldl popAnswer env

/-- The calls `ks`, one after the other, are all answered with `0`. -/
def acceptsAll : (κ → List Int) → List κ → Bool
  | _, [] => true
  | env, k :: ks => (env k).headD 0 = 0 && acceptsAll (popAnswer env k) ks

/-- What a walk leaves: each turn leaves something for the next one to see. -/
def walkEnd {π : Type} (next : α → π → π) : List α → π → π
  | [], p => p
  | x :: xs, p => walkEnd next xs (next x p)

theorem popAnswers_append (env : κ → List Int) (ks ls : List κ) :
    popAnswers env (ks ++ ls) = popAnswers (popAnswers env ks) ls := List.foldl_append

theorem acceptsAll_append (env : κ → List Int) (ks ls : List κ) :
    acceptsAll env (ks ++ ls) = (acceptsAll env ks && acceptsAll (popAnswers env ks) ls) := by
  induction ks generalizing env with
  | nil => rfl
  | cons k ks ih =>
    simp only [List.cons_append, acceptsAll, ih, Bool.and_assoc]
    rfl

/-! ## Programs that make a list of calls -/

/-- From `s`, the program `m` succeeds exactly if the calls `ks` are accepted; it has then made these, and `Q` holds.
The answers that wait are those of `q`. -/
def Asks (q : σ → κ → List Int) (m : Prog σ α) (ok : α → Prop) (s : σ) (ks : List κ) (Q : α → σ → Prop) : Prop :=
  Sat m s fun x t => (ok x ↔ acceptsAll (q s) ks) ∧ (ok x → q t = popAnswers (q s) ks ∧ Q x t)

section

variable {q : σ → κ → List Int} {m : Prog σ α} {ok : α → Prop} {ok' : β → Prop} {s : σ} {ks ls : List κ}

theorem Asks.mono {Q Q' : α → σ → Prop} (h : Asks q m ok s ks Q) (hQ : ∀ x t, ok x → Q x t → Q' x t) :
    Asks q m ok s ks Q' := Sat.mono h fun x t h => ⟨h.1, fun hx => ⟨(h.2 hx).1, hQ x t hx (h.2 hx).2⟩⟩

theorem asks_pure {x : α} {Q : α → σ → Prop} (hx : ok x) (h : Q x s) : Asks q (pure x) ok s [] Q :=
  (sat_pure _ _ _).2 ⟨⟨fun _ => rfl, fun _ => hx⟩, fun _ => ⟨rfl, h⟩⟩

theorem Asks.bind {f : α → Prog σ β} {Q : α → σ → Prop} {Q' : β → σ → Prop} (h : Asks q m ok s ks Q)
    (hno : ∀ x t, ¬ ok x → Sat (f x) t fun y _ => ¬ ok' y) (hf : ∀ x t, ok x → Q x t → Asks q (f x) ok' t ls Q') :
    Asks q (m >>= f) ok' s (ks ++ ls) Q' := by
  refine Sat.bind h fun x t h₁ => ?_
  by_cases hx : ok x
  · obtain ⟨hans, hQ⟩ := h₁.2 hx
    refine Sat.mono (hf x t hx hQ) fun y u h₂ => ?_
    rw [hans] at h₂
    rw [acceptsAll_append, popAnswers_append, h₁.1.1 hx, Bool.true_and]
    exact h₂
  · refine (hno x t hx).mono fun y u hy => ⟨⟨fun h => absurd h hy, fun hacc => ?_⟩, fun h => absurd h hy⟩
    rw [acceptsAll_append, Bool.and_eq_true] at hacc
    exact absurd (h₁.1.2 hacc.1) hx

/-- The code goes on where the return code is `0`, and hands back any other. -/
theorem Asks.andThen {m k : Prog σ Int} {Q Q' : Int → σ → Prop} (h : Asks q m (· = 0) s ks Q)
    (hk : ∀ r t, Q r t → Asks q k (· = 0) t ls Q') :
    Asks q (do let ret ← m; if ret ≠ 0 then pure ret else k) (· = 0) s (ks ++ ls) Q' := by
  refine h.bind (fun r t hr => ?_) fun r t hr hQ => ?_
  · rw [if_pos hr, sat_pure]
    exact hr
  · rw [if_neg (fun h => h hr)]
    exact hk r t hQ

/-- A walk whose turns make the calls `calls x`, and replace `x` by `f x`. -/
theorem asks_forEach {π : Type} {body : α → Prog σ (Int × α)} {calls : α → List κ} {f : α → α} {next : α → π → π}
    {I : π → σ → Prop}
    (step : ∀ x p s, I p s → Asks q (body x) (·.1 = 0) s (calls x) fun r t => r.2 = f x ∧ I (next x p) t)
    (xs : List α) {p : π} (hs : I p s) :
    Asks q (forEach body xs) (·.1 = 0) s (xs.flatMap calls) fun r t => r.2 = xs.map f ∧ I (walkEnd next xs p) t := by
  induction xs generalizing s p with
  | nil => exact asks_pure rfl ⟨rfl, hs⟩
  | cons x xs ih =>
    rw [List.flatMap_cons]
    refine (step x p s hs).bind (fun p t hp => ?_) fun p t hp h₁ => ?_
    · rw [if_pos hp, sat_pure]
      exact hp
    · rw [if_neg (fun h => h hp)]
      rw [← List.append_nil (xs.flatMap calls)]
      refine (ih h₁.2).bind (fun r u hr => (sat_pure _ _ _).2 hr) fun r u hr h₂ => asks_pure hr ⟨?_, h₂.2⟩
      rw [h₁.1, h₂.1, List.map_cons]

end

/-! ## Programs that succeed if their calls are accepted -/

/-- If the calls of the plan are accepted, `m` succeeds from `s`; it has then made these, and `Q` holds.  Without a
plan nothing is promised. -/
def Passes (q : σ → κ → List Int) (m : Prog σ α) (ok : α → Prop) (s : σ) (plan : Option (List κ))
    (Q : α → σ → Prop) : Prop :=
  ∀ ks, plan = some ks → acceptsAll (q s) ks → Sat m s fun x t => ok x ∧ q t = popAnswers (q s) ks ∧ Q x t

/-- One plan after the other. -/
def planThen (plan plan' : Option (List κ)) : Option (List κ) := plan.bind fun ks => plan'.map (ks ++ ·)

omit [DecidableEq κ] in
theorem planThen_eq_some {plan plan' : Option (List κ)} {ks : List κ} :
    planThen plan plan' = some ks ↔ ∃ ls, plan = some ls ∧ ∃ ls', plan' = some ls' ∧ ls ++ ls' = ks := by
  simp [planThen, Option.bind_eq_some_iff, Option.map_eq_some_iff]

omit [DecidableEq κ] in
theorem planThen_nil (plan : Option (List κ)) : planThen plan (some []) = plan := by
  cases plan with
  | none => rfl
  | some ks => exact congrArg some (List.append_nil ks)

/-- The plan of a walk: the calls of a turn, and what it leaves for the next turn to see. -/
def walkPlan {π : Type} (calls : α → π → Option (List κ)) (next : α → π → π) : List α → π → Option (List κ)
  | [], _ => some []
  | x :: xs, p => planThen (calls x p) (walkPlan calls next xs (next x p))

omit [DecidableEq κ] in
/-- A walk over other elements that make the same calls. -/
theorem walkPlan_map {π : Type} {calls : α → π → Option (List κ)} {next : α → π → π} {f : α → α}
    (hc : ∀ x, calls (f x) = calls x) (hn : ∀ x, next (f x) = next x) (xs : List α) (p : π) :
    walkPlan calls next (xs.map f) p = walkPlan calls next xs p := by
  induction xs generalizing p with
  | nil => rfl
  | cons x xs ih => rw [List.map_cons, walkPlan, walkPlan, hc, hn, ih]

section

variable {q : σ → κ → List Int} {m : Prog σ α} {ok : α → Prop} {ok' : β → Prop} {s : σ} {plan plan' : Option (List κ)}

theorem Asks.passes {ks : List κ} {Q : α → σ → Prop} (h : Asks q m ok s ks Q) : Passes q m ok s (some ks) Q := by
  intro ks' hks hacc
  obtain rfl := Option.some.inj hks
  exact Sat.mono h fun x t h => ⟨h.1.2 hacc, h.2 (h.1.2 hacc)⟩

theorem Passes.mono {Q Q' : α → σ → Prop} (h : Passes q m ok s plan Q) (hQ : ∀ x t, ok x → Q x t → Q' x t) :
    Passes q m ok s plan Q' :=
  fun ks hks hacc => (h ks hks hacc).mono fun x t h => ⟨h.1, h.2.1, hQ x t h.1 h.2.2⟩

theorem passes_pure {x : α} {Q : α → σ → Prop} (hx : ok x) (h : Q x s) : Passes q (pure x) ok s (some []) Q :=
  (asks_pure hx h).passes

theorem Passes.bind {f : α → Prog σ β} {Q : α → σ → Prop} {Q' : β → σ → Prop} (h : Passes q m ok s plan Q)
    (hf : ∀ x t, ok x → Q x t → Passes q (f x) ok' t plan' Q') :
    Passes q (m >>= f) ok' s (planThen plan plan') Q' := by
  intro ks hks hacc
  obtain ⟨ls, hls, ls', hls', rfl⟩ := planThen_eq_some.1 hks
  rw [acceptsAll_append, Bool.and_eq_true] at hacc
  refine Sat.bind (h ls hls hacc.1) fun x t h₁ => ?_
  obtain ⟨hx, hans, hQ⟩ := h₁
  rw [← hans] at hacc
  refine (hf x t hx hQ ls' hls' hacc.2).mono fun y u h₂ => ?_
  rw [popAnswers_append, ← hans]
  exact h₂

theorem passes_get {f : σ → Prog σ β} {Q : β → σ → Prop} (h : Passes q (f s) ok' s plan Q) :
    Passes q (get >>= f) ok' s plan Q :=
  fun ks hks hacc => (sat_bind _ _ _ _).2 ((sat_get _ _).2 (h ks hks hacc))

/-- A walk whose turns follow the plan, and replace `x` by `f x`. -/
theorem passes_forEach {π : Type} {body : α → Prog σ (Int × α)} {calls : α → π → Option (List κ)} {f : α → α}
    {next : α → π → π} {I : π → σ → Prop} {xs : List α}
    (step : ∀ x ∈ xs, ∀ p s, I p s → Passes q (body x) (·.1 = 0) s (calls x p) fun r t => r.2 = f x ∧ I (next x p) t)
    {p : π} (hs : I p s) : Passes q (forEach body xs) (·.1 = 0) s (walkPlan calls next xs p) fun r t =>
      r.2 = xs.map f ∧ I (walkEnd next xs p) t := by
  induction xs generalizing s p with
  | nil => exact passes_pure rfl ⟨rfl, hs⟩
  | cons x xs ih =>
    refine (step x List.mem_cons_self p s hs).bind fun r t hr h₁ => ?_
    rw [if_neg (fun h => h hr)]
    intro ks hks hacc
    have hrest := ih (fun y hy => step y (List.mem_cons_of_mem x hy)) h₁.2 ks hks hacc
    refine Sat.bind hrest fun r' u h₂ => (sat_pure _ _ _).2 ⟨h₂.1, h₂.2.1, ?_, h₂.2.2.2⟩
    rw [h₁.1, h₂.2.2.1, List.map_cons]

end

end Agm.Lib
