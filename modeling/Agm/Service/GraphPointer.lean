import Agm.Service.ClosedSession

/-!
# The graph pointer of a session

A session that is not closed has a graph object, and a closed one has none: every function of `graph.c` answers
`-EINVAL` for a `NULL` pointer, but `session_obj_set_config` follows the pointer of a started session without a look.
The pointer is cleared in four places and the state is written in five others; this module follows both.
-/

namespace Agm.Service

open Agm.Lib

/-- The session is closed if and only if it has no graph object. -/
def SessionObj.Matched (s : SessionObj) : Prop := s.state = .closed ↔ s.graph = none

theorem Ctx.face_eq_none {c : Ctx} : c.face = none ↔ c.sess.graph = none := Option.map_eq_none_iff

theorem Ctx.matched_of_open {c : Ctx} (hs : c.sess.state ≠ .closed) (hg : c.face.isSome) : c.sess.Matched :=
  ⟨fun h => absurd h hs, fun h => by rw [Ctx.face, h] at hg; cases hg⟩

theorem Ctx.matched_of_closed {c : Ctx} (hs : c.sess.state = .closed) (hg : c.face = none) : c.sess.Matched :=
  ⟨fun _ => Ctx.face_eq_none.1 hg, fun _ => hs⟩

theorem Ctx.isSome_of_matched {c : Ctx} (h : c.sess.Matched) (hs : c.sess.state ≠ .closed) : c.face.isSome := by
  cases hf : c.face with
  | none => exact absurd (h.2 (Ctx.face_eq_none.1 hf)) hs
  | some p => rfl

/-! ## Preparing and starting -/

/-- There is a graph object if and only if there was one. -/
def Ctx.Keeps (c c' : Ctx) : Prop := c'.face.isSome = c.face.isSome

instance : IsPreorder Ctx Ctx.Keeps where
  refl _ := rfl
  trans _ _ _ h h' := Eq.trans h' h

theorem Ctx.keeps_of_face {c c' : Ctx} (h : c'.face = c.face) : c.Keeps c' := congrArg Option.isSome h

theorem Ctx.keeps_of_inState {c c' : Ctx} {state : GraphState} (h : c.InState state c') : c.Keeps c' := by
  have hf : c'.face = c.sess.graph.map fun g => (g.handle, state) := h
  unfold Ctx.Keeps
  rw [hf, Ctx.face, Option.isSome_map, Option.isSome_map]

theorem keeps_graphPrepare : Within Ctx.Keeps graphPrepare := fun c => (sat_graphPrepare c).mono fun _ _ h => by
  rcases h.2 with h | h
  · exact Ctx.keeps_of_inState h.2.2
  · exact Ctx.keeps_of_face h.2

theorem keeps_modSess {f : SessionObj → SessionObj} (h : ∀ s, (f s).graph = s.graph) : Within Ctx.Keeps (modSess f) :=
  within_modify fun c => Ctx.keeps_of_face (congrArg (Option.map GraphObj.face) (h c.sess))

theorem stages_keeps : Stages Ctx.Keeps := by
  refine Stages.of_turns (fun c c' _ h => Ctx.keeps_of_face (by rw [Ctx.face, h]; rfl)) (fun _ _ => rfl)
    (fun _ _ h => Ctx.keeps_of_face h.graph) (fun _ _ h => Ctx.keeps_of_face h.face) keeps_graphPrepare
    (fun c => (sat_graphStart c).mono fun _ _ h => ?_) (fun c => (sat_graphStop c).mono fun _ _ h => ?_) ?_
  · rcases h.2 with h | h
    · exact Ctx.keeps_of_inState h.2.2
    · exact Ctx.keeps_of_face h.2
  · exact Ctx.keeps_of_inState h.2
  · exact within_bind keeps_graphPrepare fun _ => within_ite (within_pure _) <|
      within_bind (keeps_modSess fun _ => rfl) fun _ => within_pure _

/-- Without a graph object nothing happens to the state of the session. -/
def Ctx.Stuck (c c' : Ctx) : Prop := c.face = none → c'.face = none ∧ c'.sess.state = c.sess.state

instance : IsPreorder Ctx Ctx.Stuck where
  refl _ h := ⟨h, rfl⟩
  trans _ _ _ h h' hf := ⟨(h' (h hf).1).1, (h' (h hf).1).2.trans (h hf).2⟩

theorem sat_withGraph_none {f : GraphObj → M Int} {c : Ctx} (h : c.face = none) :
    Sat (withGraph f) c fun r c' => r = -EINVAL ∧ c' = c := by
  refine sat_withGraph c (fun _ => ⟨rfl, rfl⟩) fun g hg => ?_
  rw [Ctx.face_eq_none.1 h] at hg
  cases hg

theorem stuck_withGraph (f : GraphObj → M Int) : Within Ctx.Stuck (withGraph f) := by
  intro c r c' h hf
  obtain ⟨-, rfl⟩ := sat_withGraph_none hf r c' h
  exact ⟨hf, rfl⟩

theorem stages_stuck : Stages Ctx.Stuck := by
  refine Stages.of_turns (fun c c' _ h hf => by rw [Ctx.face, h]; exact ⟨hf, rfl⟩) (fun _ _ hf => ⟨hf, rfl⟩)
    (fun _ _ h hf => ⟨h.graph.trans hf, h.state⟩) (fun _ _ h hf => ⟨h.face.trans hf, ?_⟩) (stuck_withGraph _)
    (stuck_withGraph _) (stuck_withGraph _) ?_
  · have := congrArg SessionObj.state h.sess
    exact this
  · intro c r c' h hf
    have hprep : Sat sessionPrepareGraph c fun _ c' => c' = c := by
      refine Sat.bind (sat_withGraph_none hf) fun r c₁ h₁ => ?_
      obtain ⟨rfl, rfl⟩ := h₁
      rw [if_pos (by decide), sat_pure]
    obtain rfl := hprep r c' h
    exact ⟨hf, rfl⟩

/-- The build and the direction for which `session_start` never looks at the graph. -/
def skipsGraphStart (c : Ctx) : Bool :=
  c.hw.build.devPrepareFirst && c.sess.streamConfig.dir ≠ RX && c.sess.streamConfig.dir ≠ TX

/-- Without a graph object `session_start` reports an error, if it looks at the graph at all. -/
theorem sat_sessionStartDevices_none {c : Ctx} (hf : c.face = none) (hg : ¬ skipsGraphStart c) :
    Sat sessionStartDevices c fun e _ => e.1 = .done → e.2 ≠ 0 := by
  have hstart {c : Ctx} (p : Prop) [Decidable p] (hf : c.face = none) : Sat (onlyIf p graphStart) c fun r c' =>
      c'.face = none ∧ (p → r ≠ 0) := by
    rw [sat_onlyIf]
    refine ⟨fun _ => (sat_withGraph_none hf).mono fun r c' h => ?_, fun hp => ⟨hf, fun h => absurd h hp⟩⟩
    obtain ⟨rfl, rfl⟩ := h
    exact ⟨hf, fun _ => by decide⟩
  unfold sessionStartDevices
  rw [sat_bind, sat_get]
  refine Sat.bind (hstart _ hf) fun r c₁ h₁ => ?_
  rw [sat_ite, sat_pure]
  refine ⟨fun hr _ => hr, fun hr => ?_⟩
  have hTX : ¬ (c.hw.build.devPrepareFirst ∧ c.sess.streamConfig.dir = TX) :=
    fun h => h₁.2 h (Decidable.not_not.1 hr)
  refine Sat.bind (stages_stuck.slimbus c₁) fun r c₂ h₂ => ?_
  rw [sat_ite, sat_pure]
  refine ⟨fun _ => (nomatch ·), fun _ => ?_⟩
  refine Sat.bind (hstart _ (h₂ h₁.1).1) fun r c₃ h₃ => ?_
  rw [sat_ite, sat_pure]
  refine ⟨fun _ => (nomatch ·), fun hr => ?_⟩
  have hfirst : c.hw.build.devPrepareFirst := Decidable.not_not.1 fun h => h₃.2 h (Decidable.not_not.1 hr)
  refine Sat.bind (stages_stuck.other c₃) fun r c₄ h₄ => ?_
  rw [sat_ite, sat_pure]
  refine ⟨fun _ => (nomatch ·), fun _ => ?_⟩
  refine Sat.bind (hstart _ (h₄ h₃.1).1) fun r c₅ h₅ => ?_
  rw [sat_ite, sat_pure]
  refine ⟨fun _ => (nomatch ·), fun hr => ?_⟩
  have hRX : c.sess.streamConfig.dir ≠ RX := fun h => h₅.2 ⟨hfirst, h⟩ (Decidable.not_not.1 hr)
  have hTX : c.sess.streamConfig.dir ≠ TX := fun h => hTX ⟨hfirst, h⟩
  exact absurd (by simp [skipsGraphStart, hfirst, hRX, hTX]) hg

/-- What a start must not meet: a closed session that has a back end left, if the graph is not going to be looked at. -/
def startsClosed (c : Ctx) : Bool :=
  c.sess.state = .closed && c.sess.hasDevices && c.sess.countWithState .opened false ≠ 0 && skipsGraphStart c

theorem sat_sessionStart_none {c : Ctx} (hf : c.face = none) (hc : c.sess.state = .closed) (hg : ¬ startsClosed c) :
    Sat sessionStart c fun _ c' => c'.face = none ∧ c'.sess.state = .closed := by
  have hbody : Sat sessionStartBody c fun e _ => e.1 = .done → e.2 ≠ 0 := by
    unfold sessionStartBody
    rw [sat_bind, sat_get, sat_ite]
    constructor
    · intro hd
      rw [sat_ite, sat_pure]
      refine ⟨fun _ _ => show -EINVAL ≠ 0 by decide, fun hcount => ?_⟩
      have hchecks : Sat (onlyIf (c.sess.streamConfig.dir = TX) sessionStartChecks) c fun _ c' => c.EdgeStep c' :=
        within_onlyIf edge_sessionStartChecks c
      refine Sat.bind hchecks fun r c₁ s₁ => ?_
      rw [sat_ite, sat_pure]
      refine ⟨fun hr _ => hr, fun _ => sat_sessionStartDevices_none (s₁.face.trans hf) ?_⟩
      have hcfg := congrArg SessionObj.streamConfig s₁.sess
      have hcfg : c₁.sess.streamConfig = c.sess.streamConfig := hcfg
      have hb : c₁.hw.build = c.hw.build := show c₁.hw.still.build = c.hw.still.build by rw [s₁.hw.still]
      rw [startsClosed, hc, hd] at hg
      simpa [skipsGraphStart, hcfg, hb, hcount] using hg
    · intro _
      refine Sat.bind (sat_withGraph_none hf) fun r c₁ h₁ => ?_
      rw [h₁.1, if_pos (by decide), sat_pure]
      exact fun h => nomatch h
  unfold sessionStart
  refine Sat.bind (hbody.and (stages_stuck.sessionStartBody c)) fun e c₁ h₁ => ?_
  obtain ⟨hne, h₁⟩ := h₁
  obtain ⟨hf₁, hs₁⟩ := h₁ hf
  have hstop {c₂ : Ctx} (hf₂ : c₂.face = none) (hs₂ : c₂.sess.state = .closed) :
      Sat (startDeviceStop >>= fun _ => pure e.2) c₂ fun _ c' => c'.face = none ∧ c'.sess.state = .closed := by
    refine Sat.bind (stages_stuck.startDeviceStop c₂) fun _ c₃ h₃ => (sat_pure _ _ _).2 ?_
    exact ⟨(h₃ hf₂).1, (h₃ hf₂).2.trans hs₂⟩
  cases he : e.1 with
  | done =>
    rw [if_pos (hne he), sat_pure]
    exact ⟨hf₁, hs₁.trans hc⟩
  | unwind =>
    refine Sat.bind (stages_stuck.graphStop c₁) fun _ c₂ h₂ => ?_
    exact hstop (h₂ hf₁).1 ((h₂ hf₁).2.trans (hs₁.trans hc))
  | deviceStop => exact hstop hf₁ (hs₁.trans hc)

/-! ## The operations -/

theorem matched_sessionPrepare {c : Ctx} (h : c.sess.Matched) : Sat sessionPrepare c fun _ c' => c'.sess.Matched := by
  by_cases hc : c.sess.state = .closed
  · have hf := Ctx.face_eq_none.2 (h.1 hc)
    refine (stages_stuck.sessionPrepare c).mono fun _ c' h' => ?_
    exact Ctx.matched_of_closed ((h' hf).2.trans hc) (h' hf).1
  · refine ((stages_keeps.sessionPrepare c).and (within_inv.1 turns_notClosed.sessionPrepare c hc)).mono
      fun _ c' h' => ?_
    exact Ctx.matched_of_open h'.2 (h'.1.trans (Ctx.isSome_of_matched h hc))

theorem matched_sessionStart {c : Ctx} (h : c.sess.Matched) (hg : ¬ startsClosed c) :
    Sat sessionStart c fun _ c' => c'.sess.Matched := by
  by_cases hc : c.sess.state = .closed
  · refine (sat_sessionStart_none (Ctx.face_eq_none.2 (h.1 hc)) hc hg).mono fun _ c' h' => ?_
    exact Ctx.matched_of_closed h'.2 h'.1
  · refine ((stages_keeps.sessionStart (keeps_modSess fun _ => rfl) c).and
      (within_inv.1 turns_notClosed.sessionStart c hc)).mono fun _ c' h' => ?_
    exact Ctx.matched_of_open h'.2 (h'.1.trans (Ctx.isSome_of_matched h hc))

theorem matched_sessionStop {c : Ctx} (h : c.sess.Matched) : Sat sessionStop c fun _ c' => c'.sess.Matched := by
  by_cases hc : c.sess.state = .closed
  · unfold sessionStop
    rw [sat_bind, sat_get, if_pos (by rw [hc]; decide), sat_pure]
    exact h
  · refine ((stages_keeps.sessionStop (keeps_modSess fun _ => rfl) c).and
      (within_inv.1 turns_notClosed.sessionStop c hc)).mono fun _ c' h' => ?_
    exact Ctx.matched_of_open h'.2 (h'.1.trans (Ctx.isSome_of_matched h hc))

/-- A close of a session that is not closed clears the pointer. -/
theorem sat_sessionClose_face {c : Ctx} (hc : c.sess.state ≠ .closed) :
    Sat sessionClose c fun _ c' => c'.sess.state = .closed ∧ c'.face = none := by
  have hface (c₁ : Ctx) (ret : Int) : Sat (mapEachAif closeAif ret) c₁ fun _ c' => c'.face = c₁.face := by
    refine (sat_mapEachAif_rel (I := fun c' => c'.face = c₁.face) (S := fun _ _ => True) (fun _ _ h => h)
      (fun ret a c₂ h₂ => ?_) (c := c₁) rfl).mono fun _ _ h => h.1
    refine (sat_closeAif ret a c₂).mono fun _ c₃ h₃ => ⟨?_, trivial⟩
    rw [Ctx.face, h₃.2.1]
    exact h₂
  unfold sessionClose
  rw [sat_bind, sat_get, if_neg hc]
  refine Sat.bind (within_onlyIf stages_keeps.graphStop c) fun _ c₁ _ => ?_
  refine Sat.bind (sat_graphClose c₁) fun ret c₂ h₂ => ?_
  rw [sat_bind, sat_modSess]
  have hnone : Sat (onlyIf c.sess.hasDevices (mapEachAif closeAif ret))
      { c₂ with sess := { c₂.sess with ecRefState := false, loopbackState := false } } fun _ c' => c'.face = none := by
    have hf : Ctx.face { c₂ with sess := { c₂.sess with ecRefState := false, loopbackState := false } } = none :=
      Ctx.face_eq_none.2 h₂.2.1
    rw [sat_onlyIf]
    exact ⟨fun _ => (hface _ ret).mono fun _ _ h => h.trans hf, fun _ => hf⟩
  refine Sat.bind hnone fun _ c₃ h₃ => ?_
  rw [sat_bind, sat_modSess, sat_pure]
  exact ⟨rfl, h₃⟩

theorem sat_sessionClose_closed {c : Ctx} (hc : c.sess.state = .closed) :
    Sat sessionClose c fun _ c' => c' = c := by
  unfold sessionClose
  rw [sat_bind, sat_get, if_pos hc, sat_pure]

theorem matched_sessionClose {c : Ctx} (h : c.sess.Matched) : Sat sessionClose c fun _ c' => c'.sess.Matched := by
  by_cases hc : c.sess.state = .closed
  · refine (sat_sessionClose_closed hc).mono fun _ c' h' => ?_
    rw [h']
    exact h
  · exact (sat_sessionClose_face hc).mono fun _ c' h' => Ctx.matched_of_closed h'.1 h'.2

theorem matched_sessionObjOpen {mode : SessMode} {c : Ctx} (h : c.sess.Matched)
    (hg : ¬ (c.sess.state = .closed ∧ mode.hasDevices ∧ losesError mode c)) :
    Sat (sessionObjOpen mode) c fun _ c' => c'.sess.Matched := by
  by_cases hc : c.sess.state = .closed
  · have hf := Ctx.face_eq_none.2 (h.1 hc)
    by_cases hm : mode.hasDevices
    · refine (sat_sessionObjOpen_devices hm hc).mono fun r c' h' => ?_
      rcases h' with ⟨-, hst, -, hsome, -⟩ | ⟨-, -, hl, -⟩ | ⟨-, hst, -, hface, -⟩
      · exact Ctx.matched_of_open (by rw [hst]; decide) hsome
      · exact absurd ⟨hc, hm, hl⟩ hg
      · exact Ctx.matched_of_closed hst (hface.elim id fun h => h.trans hf)
    · refine (sat_sessionObjOpen_bare hm hc).mono fun r c' h' => ?_
      rcases h' with ⟨-, hst, hsome, -⟩ | ⟨-, hst, hface, -⟩
      · exact Ctx.matched_of_open (by rw [hst]; decide) hsome
      · exact Ctx.matched_of_closed hst (hface.elim id fun h => h.trans hf)
  · unfold sessionObjOpen
    rw [sat_bind, sat_get, if_pos hc, sat_pure]
    exact h

/-- A connect on a session that is not closed and has no connected back end leaves through `graph_cleanup`, which
closes the whole graph. -/
def closesGraph (i : Nat) (c : Ctx) : Bool :=
  c.sess.state ≠ .closed && c.sess.countWithState .opened false = 0 && connectCleansUp (c.sess.aifAt i) 0 c

/-- The connect itself leaves the graph object. -/
theorem sat_connectAt_face {i : Nat} {c : Ctx} (hc : c.sess.state ≠ .closed) (hg : ¬ closesGraph i c) :
    Sat (connectAt i (c.sess.countWithState .opened false)) c fun _ c' => c'.face = c.face := by
  unfold connectAt
  rw [sat_bind, sat_get]
  have hface := sat_connectToOpened_face (Q := fun _ f => f = c.face)
    ((sat_sessionConnectAif_face (c.sess.aifAt i) (c.sess.countWithState .opened false) c).mono fun p c' h => by
      split at h
      · rename_i h0
        have hno : ¬ connectCleansUp (c.sess.aifAt i) 0 c := fun hup => hg (by simp [closesGraph, hc, h0, hup])
        rw [h0, if_neg hno] at h
        exact h
      · exact h)
  refine Sat.bind hface fun p c₁ h₁ => ?_
  rw [sat_bind, sat_modSess, sat_pure]
  exact h₁

theorem keeps_hotConnect {i : Nat} {c : Ctx} (hc : c.sess.state ≠ .closed) (hg : ¬ closesGraph i c) :
    Sat (hotConnect i (c.sess.countWithState .opened false)) c fun _ c' => c.Keeps c' := by
  refine stages_keeps.hotConnect (keeps_modSess fun _ => rfl) (keeps_modSess fun _ => rfl) (fun a n c₁ => ?_)
    ((sat_connectAt_face hc hg).mono fun _ _ h => Ctx.keeps_of_face h) hc
  exact (sat_sessionDisconnectAif a n c₁).mono fun _ _ h => Ctx.keeps_of_face h.2.1

/-- A connect on a closed session only says that the back end is wanted. -/
theorem sat_hotConnect_closed {i n : Nat} {c : Ctx} (hc : c.sess.state = .closed) :
    Sat (hotConnect i n) c fun _ c' => c' = { c with sess := c.sess.setAifState i .open } := by
  have hbody : Sat (hotConnectBody i n) c fun e c' =>
      e.1 = .done ∧ c' = { c with sess := c.sess.setAifState i .open } := by
    unfold hotConnectBody
    rw [sat_bind, sat_get, if_pos hc, sat_bind, sat_modSess, sat_pure]
    exact ⟨rfl, rfl⟩
  refine Sat.bind hbody fun e c₁ h₁ => ?_
  rw [h₁.1]
  exact (sat_pure _ _ _).2 h₁.2

theorem matched_hotConnect {i : Nat} {c : Ctx} (h : c.sess.Matched) (hg : ¬ closesGraph i c) :
    Sat (hotConnect i (c.sess.countWithState .opened false)) c fun _ c' => c'.sess.Matched := by
  by_cases hc : c.sess.state = .closed
  · refine (sat_hotConnect_closed hc).mono fun _ c' h' => ?_
    rw [h']
    exact h
  · refine ((keeps_hotConnect hc hg).and (notClosed_hotConnect hc)).mono fun _ c' h' => ?_
    exact Ctx.matched_of_open h'.2 (h'.1.trans (Ctx.isSome_of_matched h hc))

/-- A disconnect changes neither the state of the session nor the pointer. -/
theorem sat_hotDisconnect_face (i n : Nat) (c : Ctx) :
    Sat (hotDisconnect i n) c fun _ c' => c'.sess.state = c.sess.state ∧ c'.face = c.face := by
  unfold hotDisconnect
  rw [sat_bind, sat_modSess, sat_bind, sat_get]
  refine Sat.bind (Q := fun _ c' => c'.sess.state = c.sess.state ∧ c'.face = c.face) ?_ fun r c₁ h₁ => ?_
  · rw [sat_onlyIf]
    exact ⟨fun _ => (sat_sessionDisconnectAif _ n _).mono fun _ c' h' => ⟨h'.1.state, h'.2.1⟩, fun _ => ⟨rfl, rfl⟩⟩
  · rw [sat_ite, sat_pure, sat_bind, sat_modSess, sat_pure]
    exact ⟨fun _ => h₁, fun _ => h₁⟩

theorem SessionObj.Matched.of_face {c c' : Ctx} (h : c.sess.Matched) (hs : c'.sess.state = c.sess.state)
    (hf : c'.face = c.face) : c'.sess.Matched := by
  unfold SessionObj.Matched
  rw [hs, ← Ctx.face_eq_none, hf, Ctx.face_eq_none]
  exact h

/-- The operations after which the state of a session and its graph pointer may not match. -/
def losesGraph (c : Ctx) : Op → Bool
  | .sessAifConnect aifId true =>
    match aifObjGet aifId c with
    | some (.ok i, c₁) => closesGraph i c₁
    | _ => false
  | .open mode => c.sess.state = .closed && mode.hasDevices && losesError mode c
  | .start => startsClosed c
  | _ => false

theorem matched_sessionObjSessAifConnect {aifId : Nat} {aifState : Bool} {c : Ctx} (h : c.sess.Matched)
    (hg : ¬ losesGraph c (.sessAifConnect aifId aifState)) :
    Sat (sessionObjSessAifConnect aifId aifState) c fun _ c' => c'.sess.Matched := by
  have hget : Sat (aifObjGet aifId) c fun r c' => aifObjGet aifId c = some (r, c') := fun _ _ h => h
  refine Sat.bind (((sets_aifObjGet aifId) c).and hget) fun r c₁ h₁ => ?_
  obtain ⟨s₁, heq⟩ := h₁
  have hm : c₁.sess.Matched := h.of_face s₁.state s₁.face
  cases r with
  | error e => exact (sat_pure _ _ _).2 hm
  | ok i =>
    rw [sat_bind, sat_get, sat_ite, sat_pure]
    refine ⟨fun _ => hm, fun _ => ?_⟩
    cases aifState with
    | true =>
      refine matched_hotConnect hm ?_
      rw [losesGraph, heq] at hg
      exact hg
    | false => exact (sat_hotDisconnect_face _ _ _).mono fun _ c' h' => hm.of_face h'.1 h'.2

theorem matched_run {op : Op} {c : Ctx} (h : c.sess.Matched) (hg : ¬ losesGraph c op) :
    Sat op.run c fun _ c' => c'.sess.Matched := by
  have hsets (hop : op.onlySets) : Sat op.run c fun _ c' => c'.sess.Matched :=
    (sets_run hop c).mono fun _ c' s => h.of_face s.state s.face
  cases op with
  | sessAifConnect aifId aifState => exact matched_sessionObjSessAifConnect h hg
  | «open» mode =>
    refine matched_sessionObjOpen h fun ⟨hc, hm, hl⟩ => hg ?_
    simp [losesGraph, hc, hm, hl]
  | prepare => exact matched_sessionPrepare h
  | start => exact matched_sessionStart h hg
  | stop => exact matched_sessionStop h
  | close => exact matched_sessionClose h
  | _ => exact hsets rfl

/-- **Closed if and only if there is no graph.**  In every state of every run of operations, whatever GSL and ALSA
answer, a session is closed exactly if its graph pointer is `NULL` — as long as no connect closes the graph of an open
session, no open loses its error, and no start finds a closed session with a back end left. -/
theorem closed_iff_graph_none {w₀ w : World} (h₀ : w₀.Fresh)
    (h : Runs exec (fun w o => ¬ losesGraph ((w.enter o).lock o.1) o.2) w₀ w) {s : SessId} (hs : s ∈ w.pool.ids) :
    (w.pool.objs s).state = .closed ↔ (w.pool.objs s).graph = none := by
  have key : w.Each SessionObj.Matched := by
    refine h.invariant (fun s hs => ⟨fun _ => h₀.graph s hs, fun _ => h₀.closed s hs⟩) fun w o r w' hw hg he => ?_
    exact hw.step (fun _ => ⟨fun _ => rfl, fun _ => rfl⟩) he fun hφ => matched_run hφ hg
  exact key s hs

/-- An open, a start and a failed open on another session. -/
theorem closed_iff_graph_none_after_open :
    ∃ w, Runs exec (fun w o => ¬ losesGraph ((w.enter o).lock o.1) o.2) (World.boot fun _ => []) w ∧
      1 ∈ w.pool.ids ∧ (w.pool.objs 1).state = .started ∧
      ((w.pool.objs 1).state = .closed ↔ (w.pool.objs 1).graph = none) := by
  obtain ⟨w, h, hseen⟩ := Runs.exists_of_execAll exec (fun w o => ¬ losesGraph ((w.enter o).lock o.1) o.2)
    [(1, .sessAifConnect 0 true), (1, .open .default), (1, .setConfig { dir := RX } .invalid), (1, .prepare),
      (1, .start), (2, .open .default)] (World.boot fun _ => [])
    (fun w => (decide (1 ∈ w.pool.ids), (w.pool.objs 1).state)) (b := (true, .started)) (by decide +kernel)
  have hs := of_decide_eq_true (Prod.mk.inj hseen).1
  exact ⟨w, h, hs, (Prod.mk.inj hseen).2, closed_iff_graph_none (World.fresh_boot _) h hs⟩

/-- The only back end of an open session is disconnected, parameters are cached for it, and it is connected again:
GSL refuses the parameters, and the clean-up closes the graph of the open session. -/
theorem opened_and_graph_none_after_connect :
    (World.boot fun k => if k = .setCustomConfig then [1] else []).Fresh ∧
      ∃ w, Runs exec (fun _ o => o.2.isLifecycle ∨ o.2 = .setSessAifParams 0 [7])
        (World.boot fun k => if k = .setCustomConfig then [1] else []) w ∧
      1 ∈ w.pool.ids ∧ (w.pool.objs 1).state = .opened ∧ (w.pool.objs 1).graph = none := by
  refine ⟨World.fresh_boot _, ?_⟩
  obtain ⟨w, h, hseen⟩ := Runs.exists_of_execAll exec (fun _ o => o.2.isLifecycle ∨ o.2 = .setSessAifParams 0 [7])
    [(1, .sessAifConnect 0 true), (1, .open .default), (1, .sessAifConnect 0 false), (1, .setSessAifParams 0 [7]),
      (1, .sessAifConnect 0 true)] (World.boot fun k => if k = .setCustomConfig then [1] else [])
    (fun w => (decide (1 ∈ w.pool.ids), (w.pool.objs 1).state, (w.pool.objs 1).graph))
    (b := (true, .opened, none)) (by decide +kernel)
  have hseen : decide (1 ∈ w.pool.ids) = true ∧ (w.pool.objs 1).state = .opened ∧ (w.pool.objs 1).graph = none := by
    simpa using hseen
  exact ⟨w, h, of_decide_eq_true hseen.1, hseen.2⟩

end Agm.Service
