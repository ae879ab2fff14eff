import Agm.Service.OpenCalls
import Agm.Service.TraceFrame

/-!
# What an open leaves behind

`session_obj_open` connects the first back end that is `AIF_OPEN`, then the others, then sets up the echo reference and
the loopback, and takes everything down again when one of these fails.  This module says in which states it leaves the
back ends, the graph object and the session, for every failure of a call on the way.
-/

namespace Agm.Service

open Agm.Lib

/-! ## The states of the back ends -/

namespace Aif

/-- A back end that waited for the open is connected. -/
def connected (a : Aif) : Aif := if a.state = .open then { a with state := .opened } else a

/-- The unwind puts a connected back end back to `AIF_OPEN`. -/
def released (a : Aif) : Aif := if a.state = .opened then { a with state := .open } else a

/-- The open has left the back end alone so far, or has connected it. -/
def Partly (a b : Aif) : Prop := b.base = a.base ∨ b.base = a.connected.base

/-- The two are the same but for cached parameters. -/
def Same (a b : Aif) : Prop := b.base = a.base

/-- A back end that was not connected before is as it was. -/
def Restored (a b : Aif) : Prop := a.state ≠ .opened → b.base = a.base

theorem connected_base {a b : Aif} (h : b.base = a.base) : b.connected.base = a.connected.base := by
  have hs := state_of_base h
  unfold connected
  rw [hs]
  split
  · exact congrArg (fun x : Aif => { x with state := .opened }) h
  · exact h

theorem connected_connected (a : Aif) : a.connected.connected = a.connected := by
  unfold connected
  split
  · rfl
  · rfl

theorem Partly.connected {a b : Aif} (h : Partly a b) : b.connected.base = a.connected.base := by
  rcases h with h | h
  · exact connected_base h
  · rw [connected_base h, connected_connected]

theorem Partly.trans {a b d : Aif} (h : Partly a b) (h' : Partly b d) : Partly a d := by
  rcases h' with h' | h'
  · rcases h with h | h
    · exact .inl (h'.trans h)
    · exact .inr (h'.trans h)
  · exact .inr (h'.trans h.connected)

/-- The unwind restores what was not connected before. -/
theorem Partly.released {a b : Aif} (h : Partly a b) (ha : a.state ≠ .opened) : b.released.base = a.base := by
  rcases h with h | h
  · have hs := state_of_base h
    rw [Aif.released, if_neg (hs ▸ ha)]
    exact h
  · unfold Aif.connected at h
    split at h
    · rename_i ho
      have hs := state_of_base h
      rw [Aif.released, if_pos hs]
      have := congrArg (fun x : Aif => { x with state := .open }) h
      have hb : Aif.base { b with state := .open } = Aif.base { a with state := .open } := this
      rw [hb, ← ho]
    · have hs := state_of_base h
      rw [Aif.released, if_neg (hs ▸ ha)]
      exact h

theorem released_released (a : Aif) : a.released.released = a.released := by
  unfold Aif.released
  split
  · rfl
  · rfl

end Aif

/-! ## The walks -/

/-- Everything of a session but its graph object, its cached parameters and its back ends. -/
def SessionObj.outer (s : SessionObj) : SessionObj := { s with graph := none, params := none, aifPool := [] }

/-- What a walk over the back ends may change. -/
structure Ctx.WalkStep (c c' : Ctx) : Prop where
  sess : c'.sess.outer = c.sess.outer
  hw : c.hw.Later c'.hw

instance : IsPreorder Ctx Ctx.WalkStep where
  refl c := ⟨rfl, refl_of Hw.Later c.hw⟩
  trans _ _ _ h h' := ⟨h'.sess.trans h.sess, trans_of Hw.Later h.hw h'.hw⟩

theorem Ctx.AifStep.walkStep {c c' : Ctx} (h : c.AifStep c') : c.WalkStep c' :=
  ⟨by have := congrArg SessionObj.outer h.sess; exact this, h.hw⟩

theorem Ctx.EdgeStep.walkStep {c c' : Ctx} (h : c.EdgeStep c') : c.WalkStep c' :=
  ⟨by have := congrArg SessionObj.outer h.sess; exact this, h.hw.later⟩

theorem Ctx.WalkStep.state {c c' : Ctx} (h : c.WalkStep c') : c'.sess.state = c.sess.state := by
  have := congrArg SessionObj.state h.sess
  exact this

section

variable {I : Ctx → Prop} (hset : ∀ c l, I c → I { c with sess := { c.sess with aifPool := l } })

include hset

theorem sat_forEachAif_rel {body : Aif → M (Int × Aif)} {S G : Aif → Aif → Prop} (hS : ∀ a, S a a)
    (step : ∀ a c, I c → Sat (body a) c fun p c' => I c' ∧ S a p.2 ∧ (p.1 = 0 → G a p.2)) {c : Ctx} (h : I c) :
    Sat (forEachAif body) c fun r c' => I c' ∧ List.Forall₂ S c.sess.aifPool c'.sess.aifPool ∧
      (r = 0 → List.Forall₂ G c.sess.aifPool c'.sess.aifPool) := by
  unfold forEachAif
  rw [sat_bind, sat_get]
  refine Sat.bind (forEach_rel hS step c.sess.aifPool h) fun p c₁ h₁ => ?_
  rw [sat_bind, sat_modSess, sat_pure]
  exact ⟨hset c₁ p.2 h₁.1, h₁.2⟩

theorem sat_mapEachAif_rel {body : Int → Aif → M (Int × Aif)} {S : Aif → Aif → Prop}
    (step : ∀ ret a c, I c → Sat (body ret a) c fun p c' => I c' ∧ S a p.2) {ret : Int} {c : Ctx} (h : I c) :
    Sat (mapEachAif body ret) c fun _ c' => I c' ∧ List.Forall₂ S c.sess.aifPool c'.sess.aifPool := by
  unfold mapEachAif
  rw [sat_bind, sat_get]
  refine Sat.bind (mapEach_rel step c.sess.aifPool h) fun p c₁ h₁ => ?_
  rw [sat_bind, sat_modSess, sat_pure]
  exact ⟨hset c₁ p.2 h₁.1, h₁.2⟩

end

theorem sat_connectToOpened (a : Aif) (n : Nat) (c : Ctx) (ho : a.state = .open) :
    Sat (connectToOpened a n) c fun p _ =>
      Aif.Partly a p.2 ∧ (p.1 = 0 → p.2.base = a.connected.base) ∧ (p.1 ≠ 0 → Aif.Same a p.2) := by
  refine Sat.bind (sat_sessionConnectAif a n c) fun p c₁ h₁ => ?_
  obtain ⟨-, hbase, -⟩ := h₁
  rw [sat_ite, sat_pure, sat_pure]
  refine ⟨fun hp => ⟨.inl hbase, fun h0 => absurd h0 hp, fun _ => hbase⟩, fun _ => ?_⟩
  have hcon : ({ p.2 with state := .opened } : Aif).base = a.connected.base := by
    rw [Aif.connected, if_pos ho]
    exact congrArg (fun x : Aif => { x with state := .opened }) hbase
  exact ⟨.inr hcon, fun _ => hcon, fun h => absurd rfl h⟩

/-- The graph object after a connect: `connectToOpened` sets a state and nothing else. -/
theorem sat_connectToOpened_face {a : Aif} {n : Nat} {c : Ctx} {Q : Int → Option (Handle × GraphState) → Prop}
    (h : Sat (sessionConnectAif a n) c fun p c' => Q p.1 c'.face) :
    Sat (connectToOpened a n) c fun p c' => Q p.1 c'.face := by
  refine Sat.bind h fun p c₁ h₁ => ?_
  rw [sat_ite, sat_pure, sat_pure]
  refine ⟨fun _ => h₁, fun hp => ?_⟩
  rw [Decidable.not_not.1 hp] at h₁
  exact h₁

theorem sat_disconnectOpened (ret : Int) (a : Aif) (c : Ctx) :
    Sat (disconnectOpened ret a) c fun p c' => c.AifStep c' ∧ c'.face = c.face ∧ p.2 = a.released := by
  unfold disconnectOpened
  rw [sat_ite, sat_pure]
  refine ⟨fun ho => ?_, fun ho => ⟨refl_of Ctx.AifStep c, rfl, by rw [Aif.released, if_neg ho]⟩⟩
  refine Sat.bind (sat_sessionDisconnectAif a 1 c) fun r c₁ h₁ => (sat_pure _ _ _).2 ⟨h₁.1, h₁.2.1, ?_⟩
  rw [Aif.released, if_pos ho]

theorem never_replace {state : AifState} {done todo : List Aif} {a b : Aif}
    (h : ∀ x ∈ done ++ a :: todo, x.state ≠ state) (hb : b.state ≠ state) :
    ∀ x ∈ done ++ b :: todo, x.state ≠ state := by
  intro x hx
  rcases List.mem_append.1 hx with hx | hx
  · exact h x (List.mem_append_left _ hx)
  · rcases List.mem_cons.1 hx with rfl | hx
    · exact hb
    · exact h x (List.mem_append_right _ (List.mem_cons_of_mem _ hx))

/-- An open brings back ends to `AIF_OPEN` and `AIF_OPENED` only. -/
theorem openTurns_never {state : AifState} (h₁ : state ≠ .open) (h₂ : state ≠ .opened) :
    OpenTurns fun _ l => ∀ a ∈ l, a.state ≠ state where
  sess _ _ _ h _ _ := h
  call _ _ _ h _ _ := h
  pool _ _ _ h _ := h
  connect done a todo n c h _ ho := by
    refine (sat_connectToOpened a n c ho).mono fun p _ h' => never_replace h ?_
    have hbase := h'.1
    unfold Aif.Partly Aif.connected at hbase
    rw [if_pos ho] at hbase
    rcases hbase with hb | hb
    · rw [Aif.state_of_base hb]
      exact h a (by simp)
    · rw [Aif.state_of_base hb]
      exact h₂.symm
  disconnect done a todo ret c h _ := by
    refine (sat_disconnectOpened ret a c).mono fun p _ h' => never_replace h ?_
    rw [h'.2.2, Aif.released]
    split
    · exact h₁.symm
    · exact h a (by simp)

/-- **`session_close` on a session that is not closed.**  With devices, no back end holds its device afterwards. -/
theorem sat_sessionClose_aifs {c : Ctx} (hc : c.sess.state ≠ .closed) : Sat sessionClose c fun _ c' =>
    (c.sess.hasDevices → ∀ a ∈ c'.sess.aifPool, ¬ a.isOpened) ∧
      (¬ c.sess.hasDevices → c'.sess.aifPool = c.sess.aifPool) := by
  unfold sessionClose
  rw [sat_bind, sat_get, if_neg hc]
  refine Sat.bind (within_onlyIf (fun c => (sat_graphStop c).mono fun _ _ h => h.1) c) fun _ c₁ s₁ => ?_
  refine Sat.bind (sat_graphClose c₁) fun ret c₂ h₂ => ?_
  have hl : c₂.sess.aifPool = c.sess.aifPool := h₂.1.aifPool.trans s₁.aifPool
  rw [sat_bind, sat_modSess]
  have hwalk (c₃ : Ctx) : Sat (mapEachAif closeAif ret) c₃ fun _ c' => ∀ a ∈ c'.sess.aifPool, ¬ a.isOpened := by
    refine (sat_mapEachAif_rel (I := fun _ => True) (S := fun _ b => ¬ b.isOpened) (fun _ _ h => h)
      (fun ret a c₄ _ => ?_) (c := c₃) trivial).mono fun _ c₅ h₅ a ha => ?_
    · refine (sat_closeAif ret a c₄).mono fun p c₅ h₅ => ⟨trivial, ?_⟩
      obtain ⟨-, -, ⟨-, hp, -⟩ | ⟨hno, hp, -⟩⟩ := h₅
      · rw [hp]
        simp [Aif.isOpened, AifState.rank]
      · rw [hp]
        exact hno
    · obtain ⟨b, -, hb⟩ := exists_mem_of_forall₂ h₅.2 ha
      exact hb
  have hdone : Sat (onlyIf c.sess.hasDevices (mapEachAif closeAif ret))
      { c₂ with sess := { c₂.sess with ecRefState := false, loopbackState := false } } fun _ c' =>
      (c.sess.hasDevices → ∀ a ∈ c'.sess.aifPool, ¬ a.isOpened) ∧
        (¬ c.sess.hasDevices → c'.sess.aifPool = c.sess.aifPool) := by
    rw [sat_onlyIf]
    refine ⟨fun hd => (hwalk _).mono fun _ _ h => ⟨fun _ => h, fun hno => absurd hd hno⟩, fun hd => ?_⟩
    exact ⟨fun h => absurd h hd, fun _ => hl⟩
  refine Sat.bind hdone fun ret' c₃ h₃ => ?_
  rw [sat_bind, sat_modSess, sat_pure]
  exact h₃

/-! ## The two loops of the open -/

theorem sat_sessionOpenWithFirstDevice {c : Ctx} (hcl : c.sess.state = .closed) :
    Sat sessionOpenWithFirstDevice c fun r c' => c.WalkStep c' ∧
      List.Forall₂ Aif.Partly c.sess.aifPool c'.sess.aifPool ∧
      (r = 0 → c'.face.isSome ∧ (c'.face = c.face ∨ ∃ h, c'.face = some (h, .opened))) ∧
      (r ≠ 0 → (c'.face = none ∨ c'.face = c.face) ∧ List.Forall₂ Aif.Same c.sess.aifPool c'.sess.aifPool) := by
  unfold sessionOpenWithFirstDevice
  rw [sat_bind, sat_get]
  have hpartly (a : Aif) : Aif.Partly a a := .inl rfl
  have hsame (a : Aif) : Aif.Same a a := rfl
  cases hf : c.sess.aifPool.findIdx? (fun a => a.state = .open) with
  | none =>
    refine (sat_pure _ _ _).2 ⟨refl_of Ctx.WalkStep c, List.forall₂_same.2 fun a _ => hpartly a, fun h => ?_, fun _ => ?_⟩
    · exact absurd h (by decide)
    · exact ⟨.inr rfl, List.forall₂_same.2 fun a _ => hsame a⟩
  | some i =>
    obtain ⟨hi, ho, -⟩ := List.findIdx?_eq_some_iff_getElem.1 hf
    have ho : (c.sess.aifAt i).state = .open := by
      rw [SessionObj.aifAt, List.getD_eq_getElem?_getD, List.getElem?_eq_getElem hi, Option.getD_some]
      exact of_decide_eq_true ho
    have hface := sat_connectToOpened_face (Q := fun r f =>
      (r = 0 → f.isSome ∧ (f = c.face ∨ ∃ h, f = some (h, .opened))) ∧ (r ≠ 0 → f = none ∨ f = c.face))
      ((sat_sessionConnectAif_face (c.sess.aifAt i) 0 c).mono fun p c' h => by rwa [if_pos rfl, if_pos hcl] at h)
    refine Sat.bind (((sat_connectToOpened _ 0 c ho).and hface).and (aifStep_connectToOpened _ 0 c)) fun p c₁ h₁ => ?_
    obtain ⟨⟨⟨hp, -, hs⟩, hok, hno⟩, s₁⟩ := h₁
    rw [sat_bind, sat_modSess, sat_pure]
    have hlist : (c₁.sess.setAif i p.2).aifPool = c.sess.aifPool.set i p.2 := by
      rw [SessionObj.setAif, s₁.aifPool]
    refine ⟨⟨s₁.walkStep.sess, s₁.hw⟩, ?_, hok, fun hne => ⟨hno hne, ?_⟩⟩
    · rw [hlist]
      exact forall₂_set hpartly hi hp
    · rw [hlist]
      exact forall₂_set hsame hi (hs hne)

/-- The walk that connects the remaining back ends. -/
theorem sat_connectReminders (c : Ctx) :
    Sat (forEachAif connectReminder) c fun r c' => (c.WalkStep c' ∧ c'.face = c.face) ∧
      List.Forall₂ Aif.Partly c.sess.aifPool c'.sess.aifPool ∧
      (r = 0 → List.Forall₂ (fun a b => b.base = a.connected.base) c.sess.aifPool c'.sess.aifPool) := by
  refine sat_forEachAif_rel (I := fun c' => c.WalkStep c' ∧ c'.face = c.face) (fun c' l h => ⟨⟨h.1.sess, h.1.hw⟩, h.2⟩)
    (fun a => .inl rfl) (fun a c₁ h₁ => ?_) ⟨refl_of Ctx.WalkStep c, rfl⟩
  unfold connectReminder
  rw [sat_ite, sat_pure]
  constructor
  · intro ho
    have hface := sat_connectToOpened_face (Q := fun _ f => f = c₁.face)
      ((sat_sessionConnectAif_face a 1 c₁).mono fun p c' h => by rwa [if_neg Nat.one_ne_zero] at h)
    refine (((sat_connectToOpened a 1 c₁ ho).and hface).and (aifStep_connectToOpened a 1 c₁)).mono fun p c₂ h₂ => ?_
    obtain ⟨⟨⟨hp, hok, -⟩, hf⟩, s₂⟩ := h₂
    exact ⟨⟨trans_of Ctx.WalkStep h₁.1 s₂.walkStep, hf.trans h₁.2⟩, hp, hok⟩
  · intro ho
    exact ⟨h₁, .inl rfl, fun _ => by rw [Aif.connected, if_neg ho]⟩

/-- The walk that takes the connected back ends down again. -/
theorem sat_disconnectAll (ret : Int) (c : Ctx) :
    Sat (mapEachAif disconnectOpened ret) c fun _ c' => (c.WalkStep c' ∧ c'.face = c.face) ∧
      List.Forall₂ (fun a b => b = a.released) c.sess.aifPool c'.sess.aifPool := by
  refine sat_mapEachAif_rel (I := fun c' => c.WalkStep c' ∧ c'.face = c.face) (fun c' l h => ⟨⟨h.1.sess, h.1.hw⟩, h.2⟩)
    (fun ret a c₁ h₁ => ?_) ⟨refl_of Ctx.WalkStep c, rfl⟩
  refine (sat_disconnectOpened ret a c₁).mono fun p c₂ h₂ => ?_
  exact ⟨⟨trans_of Ctx.WalkStep h₁.1 h₂.1.walkStep, h₂.2.1.trans h₁.2⟩, h₂.2.2⟩

/-! ## The answer of `gsl_close`

The unwind of `session_connect_reminder_devices` ends with `graph_close`, whose answer is what the function hands back.
No call before it is a `gsl_close`. -/

/-- The answers `gsl_close` is going to give are the same. -/
def Hw.SameCloses (hw hw' : Hw) : Prop := hw'.env .gslClose = hw.env .gslClose

instance : IsPreorder Hw Hw.SameCloses where
  refl _ := rfl
  trans _ _ _ h h' := Eq.trans h' h

theorem Hw.sameCloses_called (hw : Hw) {k : Call} (h : k.kind ≠ .gslClose) : hw.SameCloses (hw.called k) := by
  unfold SameCloses called
  exact if_neg h.symm

theorem traceFrame_sameCloses : TraceFrame Hw.SameCloses where
  ask hw k hk := hw.sameCloses_called (by cases k <;> simp_all [Call.kind, Call.isPlain])
  pcm hw k hk := hw.sameCloses_called (by cases k <;> simp_all [Call.kind, Call.isPcm])
  set hw hw' he _ := congrFun he _

theorem closes_sessionOpenWithFirstDevice {c : Ctx} (hcl : c.sess.state = .closed) :
    Sat sessionOpenWithFirstDevice c fun r c' => r = 0 → c.hw.SameCloses c'.hw := by
  unfold sessionOpenWithFirstDevice
  rw [sat_bind, sat_get]
  cases c.sess.aifPool.findIdx? (fun a => a.state = .open) with
  | none => exact (sat_pure _ _ _).2 fun h => absurd h (by decide)
  | some i =>
    have hcon : Sat (connectToOpened (c.sess.aifAt i) 0) c fun p c' => p.1 = 0 → c.hw.SameCloses c'.hw := by
      refine Sat.bind (traceFrame_sameCloses.sessionConnectAif_first_ok (c.sess.aifAt i) hcl fun hw h gkv => ?_)
        fun p c₁ h₁ => ?_
      · exact hw.sameCloses_called (by simp [Call.kind])
      · rw [sat_ite, sat_pure, sat_pure]
        exact ⟨fun hp h0 => absurd h0 hp, fun hp _ => h₁ (Decidable.not_not.1 hp)⟩
    refine Sat.bind hcon fun p c₁ h₁ => ?_
    rw [sat_bind, sat_modSess, sat_pure]
    exact h₁

theorem closes_connectReminder (a : Aif) : Within (Ctx.OnHw Hw.SameCloses) (connectReminder a) := by
  refine within_ite (within_bind ?_ fun _ => within_ite (within_pure _) (within_pure _)) (within_pure _)
  exact traceFrame_sameCloses.sessionConnectAif_of_ne a Nat.one_ne_zero
    (fun hw h gkv => hw.sameCloses_called (by simp [Call.kind]))
    fun hw h gkv => hw.sameCloses_called (by simp [Call.kind])

theorem closes_disconnectOpened (ret : Int) (a : Aif) :
    Within (Ctx.OnHw Hw.SameCloses) (disconnectOpened ret a) :=
  within_ite (within_bind (traceFrame_sameCloses.sessionDisconnectAif a 1
    fun hw h gkv => hw.sameCloses_called (by simp [Call.kind])) fun _ => within_pure _) (within_pure _)

/-- `graph_close` answers what `gsl_close` does. -/
theorem sat_graphClose_ret (c : Ctx) : Sat graphClose c fun r _ =>
    c.face.isSome → (r = 0 ↔ (c.hw.env .gslClose).headD 0 = 0) := by
  have h : Sat (withGraph fun g => onHw (askGsl (.gslClose g.handle))) c fun r _ =>
      c.face.isSome → (r = 0 ↔ (c.hw.env .gslClose).headD 0 = 0) := by
    refine sat_withGraph c (fun hg h => ?_) fun g hg => ?_
    · rw [Ctx.face, hg] at h
      cases h
    · rw [sat_onHw, sat_askGsl]
      exact fun _ => arErrGetLnxErrCode_eq_zero_iff _
  refine Sat.bind h fun r c₁ h₁ => ?_
  rw [sat_bind, sat_modSess, sat_pure]
  exact h₁

/-- **`session_connect_reminder_devices`.**  If every remaining back end could be connected, all of them are; if not,
all are taken down, the graph is closed, and the return code is that of `gsl_close`. -/
theorem sat_sessionConnectReminderDevices (c : Ctx) :
    Sat sessionConnectReminderDevices c fun r c' => c.WalkStep c' ∧
      if fails (forEachAif connectReminder) c then
        c'.face = none ∧ (c.face.isSome → (r = 0 ↔ (c.hw.env .gslClose).headD 0 = 0)) ∧
        List.Forall₂ (fun a b => ∃ m, Aif.Partly a m ∧ b = m.released) c.sess.aifPool c'.sess.aifPool
      else
        r = 0 ∧ c'.face = c.face ∧
        List.Forall₂ (fun a b => b.base = a.connected.base) c.sess.aifPool c'.sess.aifPool := by
  refine Sat.bind (((sat_connectReminders c).and (sat_fails _ c)).and
    (within_forEachAif (fun c _ => refl_of Hw.SameCloses c.hw) closes_connectReminder c)) fun r c₁ h₁ => ?_
  obtain ⟨⟨⟨⟨s₁, hf₁⟩, hp₁, hok⟩, hfails⟩, hcloses⟩ := h₁
  rw [sat_ite, sat_pure]
  constructor
  · intro hr
    have hfail : fails (forEachAif connectReminder) c := hfails.trans (decide_eq_true hr)
    simp only [if_pos hfail]
    refine Sat.bind ((sat_disconnectAll r c₁).and (within_mapEachAif (fun c _ => refl_of Hw.SameCloses c.hw) closes_disconnectOpened r c₁)) fun _ c₂ h₂ => ?_
    obtain ⟨⟨⟨s₂, hf₂⟩, hrel⟩, hcloses₂⟩ := h₂
    refine ((sat_graphClose c₂).and (sat_graphClose_ret c₂)).mono fun r c₃ h₃ => ?_
    obtain ⟨⟨s₃, hnone, -⟩, hret⟩ := h₃
    have s₁₂ := trans_of Ctx.WalkStep s₁ s₂
    refine ⟨trans_of Ctx.WalkStep s₁₂ s₃.aifStep.walkStep, by rw [Ctx.face, hnone]; rfl, fun hsome => ?_, ?_⟩
    · rw [hf₂, hf₁] at hret
      rw [hret hsome, show c₂.hw.env .gslClose = c.hw.env .gslClose from Eq.trans hcloses₂ hcloses]
    · rw [s₃.aifPool]
      exact forall₂_comp hp₁ hrel fun a b d h h' => ⟨b, h, h'⟩
  · intro hr
    have hr : r = 0 := Decidable.not_not.1 hr
    have hfail : ¬ fails (forEachAif connectReminder) c := by
      rw [hfails, hr]
      decide
    simp only [if_neg hfail]
    exact ⟨s₁, trivial, hf₁, hok hr⟩

/-! ## Echo reference and loopback -/

/-- The graph object, the back ends and the state of the session are as they were. -/
structure Ctx.EdgesSet (c c' : Ctx) : Prop where
  aifPool : c'.sess.aifPool = c.sess.aifPool
  state : c'.sess.state = c.sess.state
  face : c'.face = c.face
  hw : c.hw.Quiet c'.hw

instance : IsPreorder Ctx Ctx.EdgesSet where
  refl c := ⟨rfl, rfl, rfl, refl_of Hw.Quiet c.hw⟩
  trans _ _ _ h h' :=
    ⟨h'.aifPool.trans h.aifPool, h'.state.trans h.state, h'.face.trans h.face, trans_of Hw.Quiet h.hw h'.hw⟩

theorem Ctx.EdgeStep.edgesSet {c c' : Ctx} (h : c.EdgeStep c') : c.EdgesSet c' :=
  ⟨by have := congrArg SessionObj.aifPool h.sess; exact this,
    by have := congrArg SessionObj.state h.sess; exact this, h.face, h.hw⟩

theorem sat_graphAdd_none {c : Ctx} (h : c.sess.graph = none) (md : Metadata) (o : Owner) (dev : Option DevId) :
    Sat (graphAdd md o dev) c fun r _ => r ≠ 0 := by
  refine sat_withGraph c (fun _ => by decide) fun g hg => ?_
  rw [h] at hg
  cases hg

theorem sat_sessionSetEcRef_none {c : Ctx} (h : c.sess.graph = none) (aifId : Nat) :
    Sat (sessionSetEcRef aifId true) c fun r _ => r ≠ 0 := by
  unfold sessionSetEcRef
  rw [sat_bind, sat_get]
  cases hd : deviceGetObj aifId c.hw with
  | error e =>
    unfold deviceGetObj at hd
    split at hd
    · cases hd
    · obtain rfl : -EINVAL = e := Except.error.inj hd
      exact (sat_pure _ _ _).2 (by decide)
  | ok d =>
    cases sessionGetMergedMetadataWithoutAif c.sess c.hw with
    | none => exact (sat_pure _ _ _).2 (show -ENOMEM ≠ 0 by decide)
    | some captureMetadata =>
      cases hm : metadataMerge c.hw.build [some captureMetadata, some (c.hw.devs d).metadata] with
      | none => simp only [hm]; exact (sat_pure _ _ _).2 (show -ENOMEM ≠ 0 by decide)
      | some merged =>
        simp only [hm]
        exact sat_graphAdd_none h _ _ _

theorem sat_sessionSetLoopback_none {c : Ctx} (h : c.sess.graph = none) (pbId : SessId) :
    Sat (sessionSetLoopback pbId true) c fun r _ => r ≠ 0 := by
  unfold sessionSetLoopback
  refine Sat.bind (edge_sessionObjGet pbId c) fun _ c₁ h₁ => ?_
  have hg : c₁.sess.graph = none := by
    have hf := h₁.face
    rw [Ctx.face, Ctx.face, h] at hf
    exact Option.map_eq_none_iff.1 hf
  rw [sat_bind, sat_get]
  cases sessionGetMergedMetadata c₁.sess c₁.hw with
  | none => exact (sat_pure _ _ _).2 (show -ENOMEM ≠ 0 by decide)
  | some captureMetadata =>
    cases sessionGetMergedMetadata (c₁.peer pbId) c₁.hw with
    | none =>
      refine Sat.bind (edge_freeMergedMetadata c₁.sess c₁) fun _ _ _ => ?_
      exact (sat_pure _ _ _).2 (show -ENOMEM ≠ 0 by decide)
    | some playbackMetadata =>
      have hset : Sat (setLoopbackEdge (metadataMerge c₁.hw.build [some captureMetadata, some playbackMetadata]) pbId
          true) c₁ fun r _ => r ≠ 0 := by
        cases metadataMerge c₁.hw.build [some captureMetadata, some playbackMetadata] with
        | none => exact (sat_pure _ _ _).2 (show -ENOMEM ≠ 0 by decide)
        | some merged => exact sat_graphAdd_none hg _ _ _
      refine Sat.bind hset fun r c₂ hr => ?_
      refine Sat.bind (edge_freeMergedMetadata c₁.sess c₂) fun _ c₃ _ => ?_
      refine Sat.bind (edge_freeMergedMetadata (c₁.peer pbId) c₃) fun _ _ _ => ?_
      exact (sat_pure _ _ _).2 hr

theorem sat_openLoopback (c : Ctx) : Sat openLoopback c fun e c' => c.EdgesSet c' ∧
    ((e = (.done, 0) ∧ (c.face = none → ¬ c.sess.loopbackState)) ∨
      (e.1 = .unwind ∧ e.2 ≠ 0 ∧ c.sess.loopbackState)) := by
  unfold openLoopback
  rw [sat_bind, sat_get, sat_ite, sat_pure]
  refine ⟨fun hl => ?_, fun hl => ⟨refl_of Ctx.EdgesSet c, .inl ⟨rfl, fun _ => hl⟩⟩⟩
  have hnone : Sat (sessionSetLoopback c.sess.loopbackSessId true) c fun r _ => c.face = none → r ≠ 0 := by
    intro r c' h hf
    exact sat_sessionSetLoopback_none (Option.map_eq_none_iff.1 hf) _ r c' h
  refine Sat.bind ((edge_sessionSetLoopback _ true c).and hnone) fun r c₁ h₁ => ?_
  rw [sat_ite, sat_pure, sat_bind, sat_modSess, sat_pure]
  obtain ⟨s₁, hr⟩ := h₁
  have hs := s₁.edgesSet
  refine ⟨fun hne => ⟨⟨hs.aifPool, hs.state, hs.face, hs.hw⟩, .inr ⟨rfl, hne, hl⟩⟩, fun h0 => ⟨hs, .inl ⟨rfl, fun hf => ?_⟩⟩⟩
  exact absurd (Decidable.not_not.1 h0) (hr hf)

theorem sat_openEcRef (c : Ctx) : Sat openEcRef c fun e c' => c.EdgesSet c' ∧
    ((e = (.done, 0) ∧ (c.face = none → ¬ c.sess.ecRefState ∧ ¬ c.sess.loopbackState)) ∨
      (e.1 = .unwind ∧ e.2 ≠ 0 ∧ (c.sess.ecRefState ∨ c.sess.loopbackState))) := by
  unfold openEcRef
  rw [sat_bind, sat_get, sat_ite]
  constructor
  · intro he
    have hnone : Sat (sessionSetEcRef c.sess.ecRefAifId true) c fun r _ => c.face = none → r ≠ 0 := by
      intro r c' h hf
      exact sat_sessionSetEcRef_none (Option.map_eq_none_iff.1 hf) _ r c' h
    refine Sat.bind ((edge_sessionSetEcRef _ true c).and hnone) fun r c₁ h₁ => ?_
    obtain ⟨s₁, hr⟩ := h₁
    have hs := s₁.edgesSet
    rw [sat_ite, sat_bind, sat_modSess, sat_pure]
    refine ⟨fun hne => ⟨⟨hs.aifPool, hs.state, hs.face, hs.hw⟩, .inr ⟨rfl, hne, .inl he⟩⟩, fun h0 => ?_⟩
    refine (sat_openLoopback c₁).mono fun e c₂ h₂ => ⟨trans_of Ctx.EdgesSet hs h₂.1, ?_⟩
    rcases h₂.2 with h | h
    · exact .inl ⟨h.1, fun hf => absurd (Decidable.not_not.1 h0) (hr hf)⟩
    · exact .inr ⟨h.1, h.2.1, .inl he⟩
  · intro he
    refine (sat_openLoopback c).mono fun e c₂ h₂ => ⟨h₂.1, ?_⟩
    rcases h₂.2 with h | h
    · exact .inl ⟨h.1, fun hf => ⟨he, h.2 hf⟩⟩
    · exact .inr ⟨h.1, h.2.1, .inr h.2.2⟩

/-! ## The whole function -/

/-- The open reports success although a back end could not be connected: `session_connect_reminder_devices` returns
what `gsl_close` answers, and neither an echo reference nor a loopback stumbles over the missing graph. -/
def losesError (mode : SessMode) (c : Ctx) : Bool :=
  restFails mode c && (c.hw.env .gslClose).headD 0 = 0 && ! c.sess.ecRefState && ! c.sess.loopbackState

/-- The steps of `session_obj_open` up to its labels, in a mode with devices. -/
theorem sat_sessionOpenBody_devices {mode : SessMode} (hm : mode.hasDevices) {c : Ctx} (hcl : c.sess.state = .closed) :
    Sat (sessionOpenBody mode) c fun e c' => c'.sess.state = .closed ∧
      ((e = (.done, 0) ∧ ¬ restFails mode c ∧ c'.face.isSome ∧ (c'.face = c.face ∨ ∃ h, c'.face = some (h, .opened)) ∧
          List.Forall₂ (fun a b => b.base = a.connected.base) c.sess.aifPool c'.sess.aifPool) ∨
        (e = (.done, 0) ∧ losesError mode c ∧ c'.face = none ∧
          List.Forall₂ (fun a b => ∃ m, Aif.Partly a m ∧ b = m.released) c.sess.aifPool c'.sess.aifPool) ∨
        (e.1 = .done ∧ e.2 ≠ 0 ∧ ¬ losesError mode c ∧ (c'.face = none ∨ c'.face = c.face) ∧
          List.Forall₂ Aif.Restored c.sess.aifPool c'.sess.aifPool) ∨
        (e.1 = .unwind ∧ e.2 ≠ 0 ∧ ¬ losesError mode c ∧ List.Forall₂
          (fun a b => Aif.Partly a b ∨ ∃ m, Aif.Partly a m ∧ b = m.released) c.sess.aifPool c'.sess.aifPool)) := by
  unfold sessionOpenBody
  rw [sat_bind, sat_modSess, if_pos hm]
  refine Sat.bind (((sat_sessionOpenWithFirstDevice (c := c.inMode mode) hcl).and
    (closes_sessionOpenWithFirstDevice (c := c.inMode mode) hcl)).and (restFails_eq mode c)) fun r c₁ h₁ => ?_
  obtain ⟨⟨⟨s₁, hp₁, hok₁, hno₁⟩, hcloses⟩, hrest⟩ := h₁
  have hst₁ : c₁.sess.state = .closed := s₁.state.trans hcl
  have hflags : c₁.sess.ecRefState = c.sess.ecRefState ∧ c₁.sess.loopbackState = c.sess.loopbackState := by
    have h₁ := congrArg SessionObj.ecRefState s₁.sess
    have h₂ := congrArg SessionObj.loopbackState s₁.sess
    exact ⟨h₁, h₂⟩
  rw [sat_ite, sat_pure]
  constructor
  · -- the first back end could not be connected
    intro hr
    refine ⟨hst₁, .inr (.inr (.inl ⟨rfl, hr, ?_, (hno₁ hr).1, ?_⟩))⟩
    · simp [losesError, hrest, hr]
    · exact List.Forall₂.imp (S := Aif.Restored) (fun _ _ h _ => h) (hno₁ hr).2
  intro hr
  obtain ⟨hsome, hface⟩ := hok₁ (Decidable.not_not.1 hr)
  have hcloses := hcloses (Decidable.not_not.1 hr)
  have hrest : restFails mode c = fails (forEachAif connectReminder) c₁ := by
    rw [hrest, Decidable.not_not.1 hr]
    simp
  refine Sat.bind (sat_sessionConnectReminderDevices c₁) fun r c₂ h₂ => ?_
  obtain ⟨s₂, h₂⟩ := h₂
  have hst₂ : c₂.sess.state = .closed := s₂.state.trans hst₁
  have hflags₂ : c₂.sess.ecRefState = c.sess.ecRefState ∧ c₂.sess.loopbackState = c.sess.loopbackState := by
    have h₁ := congrArg SessionObj.ecRefState s₂.sess
    have h₂ := congrArg SessionObj.loopbackState s₂.sess
    exact ⟨Eq.trans h₁ hflags.1, Eq.trans h₂ hflags.2⟩
  rw [sat_ite, sat_pure]
  by_cases hfail : fails (forEachAif connectReminder) c₁
  · -- a remaining back end could not be connected: everything has been taken down
    rw [if_pos hfail] at h₂
    obtain ⟨hnone, hret, hrel⟩ := h₂
    have hret := hret hsome
    have hlose : losesError mode c = (decide (r = 0) && ! c.sess.ecRefState && ! c.sess.loopbackState) := by
      rw [losesError, hrest, hfail, ← show c₁.hw.env .gslClose = c.hw.env .gslClose from hcloses]
      simp [hret]
    have hrel₂ : List.Forall₂ (fun a b => ∃ m, Aif.Partly a m ∧ b = m.released) c.sess.aifPool c₂.sess.aifPool :=
      forall₂_comp hp₁ hrel fun a b d h h' => by
        obtain ⟨m, hm, rfl⟩ := h'
        exact ⟨m, h.trans hm, rfl⟩
    refine ⟨fun hr => ⟨hst₂, .inr (.inr (.inl ⟨rfl, hr, ?_, .inl hnone, ?_⟩))⟩, fun hr => ?_⟩
    · simp [hlose, hr]
    · refine hrel₂.imp fun a b h ha => ?_
      obtain ⟨m, hm, rfl⟩ := h
      exact hm.released ha
    · refine (sat_openEcRef c₂).mono fun e c₃ h₃ => ⟨h₃.1.state.trans hst₂, ?_⟩
      obtain ⟨s₃, ⟨he, hflag⟩ | ⟨he, hne, hflag⟩⟩ := h₃
      · rw [hflags₂.1, hflags₂.2] at hflag
        refine .inr (.inl ⟨he, ?_, s₃.face.trans hnone, by rw [s₃.aifPool]; exact hrel₂⟩)
        simpa [hlose, Decidable.not_not.1 hr] using hflag hnone
      · rw [hflags₂.1, hflags₂.2] at hflag
        refine .inr (.inr (.inr ⟨he, hne, ?_, ?_⟩))
        · rw [hlose]
          rcases hflag with h | h <;> simp [h]
        · rw [s₃.aifPool]
          exact hrel₂.imp fun _ _ h => .inr h
  · rw [if_neg hfail] at h₂
    obtain ⟨h0, hface₂, hcon⟩ := h₂
    have hnl : ¬ losesError mode c := by simp [losesError, hrest, hfail]
    have hcon : List.Forall₂ (fun a b => b.base = a.connected.base) c.sess.aifPool c₂.sess.aifPool :=
      forall₂_comp hp₁ hcon fun a b d h h' => h'.trans h.connected
    refine ⟨fun hr => absurd h0 hr, fun _ => ?_⟩
    refine (sat_openEcRef c₂).mono fun e c₃ h₃ => ⟨h₃.1.state.trans hst₂, ?_⟩
    obtain ⟨s₃, ⟨he, -⟩ | ⟨he, hne, -⟩⟩ := h₃
    · have hf : c₃.face = c₁.face := s₃.face.trans hface₂
      refine .inl ⟨he, by rw [hrest]; exact hfail, hf ▸ hsome, hf ▸ hface, ?_⟩
      rw [s₃.aifPool]
      exact hcon
    · refine .inr (.inr (.inr ⟨he, hne, hnl, ?_⟩))
      rw [s₃.aifPool]
      exact hcon.imp fun _ _ h => .inl (.inr h)

/-- **`session_obj_open`, in a mode with devices.**  It connects every back end that waited for it; or it fails, and
leaves the back ends as they were; or it loses the error, and reports success for a session without a graph. -/
theorem sat_sessionObjOpen_devices {mode : SessMode} (hm : mode.hasDevices) {c : Ctx} (hcl : c.sess.state = .closed) :
    Sat (sessionObjOpen mode) c fun r c' =>
      (r = 0 ∧ c'.sess.state = .opened ∧ ¬ restFails mode c ∧ c'.face.isSome ∧
          (c'.face = c.face ∨ ∃ h, c'.face = some (h, .opened)) ∧
          List.Forall₂ (fun a b => b.base = a.connected.base) c.sess.aifPool c'.sess.aifPool) ∨
        (r = 0 ∧ c'.sess.state = .opened ∧ losesError mode c ∧ c'.face = none ∧
          List.Forall₂ Aif.Restored c.sess.aifPool c'.sess.aifPool) ∨
        (r ≠ 0 ∧ c'.sess.state = .closed ∧ ¬ losesError mode c ∧ (c'.face = none ∨ c'.face = c.face) ∧
          List.Forall₂ Aif.Restored c.sess.aifPool c'.sess.aifPool) := by
  have hrestored {a b : Aif} (h : ∃ m, Aif.Partly a m ∧ b = m.released) : Aif.Restored a b := by
    intro ha
    obtain ⟨m, hm, rfl⟩ := h
    exact hm.released ha
  unfold sessionObjOpen
  rw [sat_bind, sat_get, if_neg (fun h => h hcl)]
  refine Sat.bind (sat_sessionOpenBody_devices hm hcl) fun e c₁ h₁ => ?_
  obtain ⟨hst, h₁⟩ := h₁
  obtain ⟨l, r⟩ := e
  cases l with
  | done =>
    dsimp only
    rw [sat_ite, sat_pure, sat_bind, sat_modSess, sat_pure]
    rcases h₁ with ⟨he, h₁⟩ | ⟨he, hl, hf, ha⟩ | ⟨-, hne, hl, hf, ha⟩ | ⟨he, -⟩
    · obtain rfl : r = 0 := (Prod.mk.inj he).2
      exact ⟨fun h => absurd rfl h, fun _ => .inl ⟨rfl, rfl, h₁⟩⟩
    · obtain rfl : r = 0 := (Prod.mk.inj he).2
      exact ⟨fun h => absurd rfl h, fun _ => .inr (.inl ⟨rfl, rfl, hl, hf, ha.imp fun _ _ => hrestored⟩)⟩
    · exact ⟨fun _ => .inr (.inr ⟨hne, hst, hl, hf, ha⟩), fun h => absurd (Decidable.not_not.1 h) hne⟩
    · cases he
  | unwind =>
    obtain ⟨hne, hl, ha⟩ : r ≠ 0 ∧ ¬ losesError mode c ∧ List.Forall₂
        (fun a b => Aif.Partly a b ∨ ∃ m, Aif.Partly a m ∧ b = m.released) c.sess.aifPool c₁.sess.aifPool := by
      rcases h₁ with ⟨he, -⟩ | ⟨he, -⟩ | ⟨he, -⟩ | ⟨-, h⟩
      · cases he
      · cases he
      · cases he
      · exact h
    refine Sat.bind (sat_disconnectAll 0 c₁) fun _ c₂ h₂ => ?_
    obtain ⟨⟨s₂, -⟩, hrel⟩ := h₂
    refine Sat.bind (sat_graphClose c₂) fun _ c₃ h₃ => ?_
    obtain ⟨s₃, hnone, -⟩ := h₃
    refine (sat_pure _ _ _).2 (.inr (.inr ⟨hne, s₃.state.trans (s₂.state.trans hst), hl, .inl ?_, ?_⟩))
    · rw [Ctx.face, hnone]
      rfl
    · rw [s₃.aifPool]
      refine forall₂_comp ha hrel fun a b d h h' hs => ?_
      rw [h']
      rcases h with h | ⟨m, h, rfl⟩
      · exact h.released hs
      · rw [Aif.released_released]
        exact h.released hs

theorem sat_sessionOpenWithoutDevice (c : Ctx) :
    Sat sessionOpenWithoutDevice c fun r c' => c.AifStep c' ∧
      (r = 0 → c'.face.isSome ∧ (c'.face = c.face ∨ ∃ h, c'.face = some (h, .opened))) ∧
      (r ≠ 0 → c'.face = none ∨ c'.face = c.face) := by
  have hclose {c₁ : Ctx} (s₁ : c.AifStep c₁) {r : Int} (hr : r ≠ 0) :
      Sat (graphClose >>= fun _ => pure r) c₁ fun r c' => c.AifStep c' ∧
        (r = 0 → c'.face.isSome ∧ (c'.face = c.face ∨ ∃ h, c'.face = some (h, .opened))) ∧
        (r ≠ 0 → c'.face = none ∨ c'.face = c.face) := by
    refine Sat.bind (sat_graphClose c₁) fun _ c₂ h₂ => (sat_pure _ _ _).2 ?_
    refine ⟨trans_of Ctx.AifStep s₁ h₂.1.aifStep, fun h0 => absurd h0 hr, fun _ => .inl ?_⟩
    rw [Ctx.face, h₂.2.1]
    rfl
  unfold sessionOpenWithoutDevice
  rw [sat_bind, sat_get]
  refine Sat.bind (sat_graphOpen c _ none) fun r c₁ h₁ => ?_
  have hface : c₁.face = c.face ∨ ∃ h, c₁.face = some (h, .opened) := by
    rcases h₁.2 with h | ⟨-, g, hg, hgs, -⟩
    · exact .inl (congrArg (Option.map GraphObj.face) h)
    · exact .inr ⟨g.handle, by rw [Ctx.face, hg, ← hgs]; rfl⟩
  rw [sat_ite, sat_pure]
  constructor
  · intro hr
    refine ⟨h₁.1.aifStep, fun h0 => absurd h0 hr, fun _ => .inr ?_⟩
    rcases h₁.2 with h | h
    · exact congrArg (Option.map GraphObj.face) h
    · exact absurd h.1 hr
  intro _
  have hreg : Sat graphRegisterCb c₁ fun r c' => c₁ = c' ∧ (r = 0 → c'.face.isSome) := by
    refine sat_withGraph c₁ (fun _ => ⟨rfl, fun h => absurd h (by decide)⟩) fun g hg => ?_
    rw [sat_pure, Ctx.face, hg]
    exact ⟨rfl, fun _ => rfl⟩
  refine Sat.bind hreg fun r c₂ h₂ => ?_
  obtain ⟨rfl, hsome⟩ := h₂
  rw [sat_ite]
  refine ⟨hclose h₁.1.aifStep, fun hr => ?_⟩
  have hsome := hsome (Decidable.not_not.1 hr)
  cases c.sess.params with
  | none => exact (sat_pure _ _ _).2 ⟨h₁.1.aifStep, fun _ => ⟨hsome, hface⟩, fun h => absurd rfl h⟩
  | some p =>
    refine Sat.bind (callFrame_graphCall.graphSetConfig p c₁) fun r c₂ h₂ => ?_
    have s₂ := trans_of Ctx.AifStep h₁.1.aifStep h₂.toGraphStep.aifStep
    have hf₂ : c₂.face = c₁.face := h₂.graph
    rw [sat_ite]
    refine ⟨hclose s₂, fun _ => ?_⟩
    rw [sat_bind, sat_modSess, sat_pure]
    refine ⟨⟨s₂.pool, s₂.sess, s₂.hw⟩, fun _ => ?_, fun h => absurd rfl h⟩
    show c₂.face.isSome ∧ (c₂.face = c.face ∨ ∃ h, c₂.face = some (h, .opened))
    rw [hf₂]
    exact ⟨hsome, hface⟩

/-- **`session_obj_open`, in a mode without devices.** -/
theorem sat_sessionObjOpen_bare {mode : SessMode} (hm : ¬ mode.hasDevices) {c : Ctx} (hcl : c.sess.state = .closed) :
    Sat (sessionObjOpen mode) c fun r c' =>
      (r = 0 ∧ c'.sess.state = .opened ∧ c'.face.isSome ∧ (c'.face = c.face ∨ ∃ h, c'.face = some (h, .opened)) ∧
          c'.sess.aifPool = c.sess.aifPool) ∨
        (r ≠ 0 ∧ c'.sess.state = .closed ∧ (c'.face = none ∨ c'.face = c.face) ∧
          List.Forall₂ Aif.Restored c.sess.aifPool c'.sess.aifPool) := by
  have hrefl (l : List Aif) : List.Forall₂ Aif.Restored l l := List.forall₂_same.2 fun _ _ _ => rfl
  have hbody : Sat (sessionOpenBody mode) c fun e c' => c'.sess.state = .closed ∧
      c'.sess.aifPool = c.sess.aifPool ∧
      ((e = (.done, 0) ∧ c'.face.isSome ∧ (c'.face = c.face ∨ ∃ h, c'.face = some (h, .opened))) ∨
        (e.1 = .done ∧ e.2 ≠ 0 ∧ (c'.face = none ∨ c'.face = c.face)) ∨ (e.1 = .unwind ∧ e.2 ≠ 0)) := by
    unfold sessionOpenBody
    rw [sat_bind, sat_modSess, if_neg hm]
    refine Sat.bind (sat_sessionOpenWithoutDevice (c.inMode mode)) fun r c₁ h₁ => ?_
    obtain ⟨s₁, hok, hno⟩ := h₁
    have hst : c₁.sess.state = .closed := s₁.state.trans hcl
    have hpool : c₁.sess.aifPool = c.sess.aifPool := s₁.aifPool
    rw [sat_ite, sat_pure]
    refine ⟨fun hr => ⟨hst, hpool, .inr (.inl ⟨rfl, hr, hno hr⟩)⟩, fun hr => ?_⟩
    have hok := hok (Decidable.not_not.1 hr)
    refine (sat_openLoopback c₁).mono fun e c₂ h₂ => ?_
    obtain ⟨s₂, h₂⟩ := h₂
    refine ⟨s₂.state.trans hst, s₂.aifPool.trans hpool, ?_⟩
    rcases h₂ with h | h
    · rw [s₂.face]
      exact .inl ⟨h.1, hok⟩
    · exact .inr (.inr ⟨h.1, h.2.1⟩)
  unfold sessionObjOpen
  rw [sat_bind, sat_get, if_neg (fun h => h hcl)]
  refine Sat.bind hbody fun e c₁ h₁ => ?_
  obtain ⟨hst, hpool, h₁⟩ := h₁
  obtain ⟨l, r⟩ := e
  cases l with
  | done =>
    dsimp only
    rw [sat_ite, sat_pure, sat_bind, sat_modSess, sat_pure]
    rcases h₁ with ⟨he, hf⟩ | ⟨-, hne, hf⟩ | ⟨he, -⟩
    · obtain rfl : r = 0 := (Prod.mk.inj he).2
      exact ⟨fun h => absurd rfl h, fun _ => .inl ⟨rfl, rfl, hf.1, hf.2, hpool⟩⟩
    · refine ⟨fun _ => .inr ⟨hne, hst, hf, ?_⟩, fun h => absurd (Decidable.not_not.1 h) hne⟩
      rw [hpool]
      exact hrefl _
    · cases he
  | unwind =>
    have hne : r ≠ 0 := by
      rcases h₁ with ⟨he, -⟩ | ⟨he, -⟩ | ⟨-, h⟩
      · cases he
      · cases he
      · exact h
    refine Sat.bind (sat_disconnectAll 0 c₁) fun _ c₂ h₂ => ?_
    obtain ⟨⟨s₂, -⟩, hrel⟩ := h₂
    refine Sat.bind (sat_graphClose c₂) fun _ c₃ h₃ => ?_
    obtain ⟨s₃, hnone, -⟩ := h₃
    refine (sat_pure _ _ _).2 (.inr ⟨hne, s₃.state.trans (s₂.state.trans hst), .inl ?_, ?_⟩)
    · rw [Ctx.face, hnone]
      rfl
    · rw [s₃.aifPool, ← hpool]
      refine List.Forall₂.imp (S := Aif.Restored) (fun a b h hs => ?_) hrel
      rw [h, Aif.released, if_neg hs]

end Agm.Service
