import Agm.Service.OpenSpec

/-!
# Which back ends are started

`session_start` starts the devices of its back ends one by one, before and after the graph, and stops all of them again
if one of them fails; an operation that connects a back end runs it over the whole session.  This module says what that
leaves: a back end is only started in a started session that has devices.
-/

namespace Agm.Service

open Agm.Lib

def Aif.isStarted (a : Aif) : Bool := a.state = .started

theorem Aif.isOpened_of_isStarted {a : Aif} (h : a.isStarted) : a.isOpened := by
  simp [Aif.isOpened, of_decide_eq_true h, AifState.rank]

/-! ## Which back ends are started -/

/-- A back end is only started in a started session that has devices. -/
def SessionObj.StartedOk (s : SessionObj) : Prop := ∀ a ∈ s.aifPool, a.isStarted → s.state = .started ∧ s.hasDevices

/-- The same back ends are started, and the configuration is the same. -/
structure Ctx.SameStarted (c c' : Ctx) : Prop where
  streamConfig : c'.sess.streamConfig = c.sess.streamConfig
  started : c'.sess.aifPool.map Aif.isStarted = c.sess.aifPool.map Aif.isStarted

instance : IsPreorder Ctx Ctx.SameStarted where
  refl _ := ⟨rfl, rfl⟩
  trans _ _ _ h h' := ⟨h'.streamConfig.trans h.streamConfig, h'.started.trans h.started⟩

theorem exists_isStarted_of_map {l l' : List Aif} (h : l'.map Aif.isStarted = l.map Aif.isStarted)
    (hs : ∃ b ∈ l', b.isStarted) : ∃ a ∈ l, a.isStarted := by
  obtain ⟨b, hb, hbs⟩ := hs
  have hmem : true ∈ l'.map Aif.isStarted := List.mem_map.2 ⟨b, hb, hbs⟩
  rw [h] at hmem
  obtain ⟨a, ha, has⟩ := List.mem_map.1 hmem
  exact ⟨a, ha, has⟩

theorem map_isStarted_of_forall₂ {l l' : List Aif} (h : List.Forall₂ (fun a b => b.isStarted = a.isStarted) l l') :
    l'.map Aif.isStarted = l.map Aif.isStarted := by
  induction h with
  | nil => rfl
  | cons h _ ih => rw [List.map_cons, List.map_cons, h, ih]

/-- A walk that neither starts nor stops a back end. -/
theorem sameStarted_forEachAif {body : Aif → M (Int × Aif)}
    (h : ∀ a c, Sat (body a) c fun p c' => c.AifStep c' ∧ p.2.isStarted = a.isStarted) :
    Within Ctx.SameStarted (forEachAif body) := by
  intro c
  refine (sat_forEachAif_rel (I := fun c' => c'.sess.streamConfig = c.sess.streamConfig)
    (S := fun a b => b.isStarted = a.isStarted) (G := fun _ _ => True) (fun _ _ h => h) (fun _ => rfl)
    (fun a c₁ h₁ => ?_) (c := c) rfl).mono fun _ c' h' => ⟨h'.1, map_isStarted_of_forall₂ h'.2.1⟩
  exact (h a c₁).mono fun p c₂ h₂ => ⟨h₂.1.streamConfig.trans h₁, h₂.2, fun _ => trivial⟩

theorem Ctx.GraphStep.sameStarted {c c' : Ctx} (h : c.GraphStep c') : c.SameStarted c' :=
  ⟨h.aifStep.streamConfig, by rw [h.aifPool]⟩

theorem prepareStages_sameStarted : PrepareStages Ctx.SameStarted where
  graphPrepare c := (sat_graphPrepare c).mono fun _ _ h => h.1.sameStarted
  params := sameStarted_forEachAif fun a c => by
    refine Sat.bind (core_sessionApplyAifDeviceParams a.devObj c) fun r c₁ h₁ => (sat_pure _ _ _).2 ?_
    exact ⟨h₁.toAifStep, rfl⟩
  prepare := sameStarted_forEachAif fun a c => by
    refine (sat_prepareAif a c).mono fun p c' h => ⟨h.1, ?_⟩
    obtain ⟨-, -, ⟨rfl, hst, -⟩ | ⟨ha, -⟩⟩ := h
    · rcases hst with hst | hst <;> simp [Aif.isStarted, hst]
    · rw [ha]
  prepareGraph := by
    refine within_bind (fun c => (sat_graphPrepare c).mono fun _ _ h => h.1.sameStarted) fun _ =>
      within_ite (within_pure _) (within_bind (within_modify fun c => ?_) fun _ => within_pure _)
    exact ⟨rfl, rfl⟩

/-- A started session stays started when it is prepared. -/
theorem sat_sessionPrepare_state {c : Ctx} (hs : c.sess.state = .started) :
    Sat sessionPrepare c fun _ c' => c'.sess.state = .started := by
  have hwalk {body : Aif → M (Int × Aif)} (h : ∀ a, Within Ctx.AifStep (body a)) {c : Ctx}
      (hs : c.sess.state = .started) : Sat (forEachAif body) c fun _ c' => c'.sess.state = .started := by
    refine (sat_forEachAif_rel (I := fun c' => c'.sess.state = .started) (S := fun _ _ => True) (G := fun _ _ => True)
      (fun _ _ h => h) (fun _ => trivial) (fun a c₁ h₁ => ?_) hs).mono fun _ _ h => h.1
    exact (h a c₁).mono fun p c₂ h₂ => ⟨h₂.state.trans h₁, trivial, fun _ => trivial⟩
  have hparams (a : Aif) : Within Ctx.AifStep (do
      let ret ← sessionApplyAifDeviceParams a.devObj
      pure (ret, a)) :=
    within_bind ((core_sessionApplyAifDeviceParams a.devObj).mono fun _ _ h => h.toAifStep) fun _ => within_pure _
  have hprep (a : Aif) : Within Ctx.AifStep (prepareAif a) := fun c => (sat_prepareAif a c).mono fun _ _ h => h.1
  have hnot : ¬ c.sess.state ≠ .started := fun h => h hs
  unfold sessionPrepare
  rw [sat_bind, sat_get, sat_ite]
  refine ⟨fun _ => ?_, fun _ => by rw [if_neg hnot, sat_pure]; exact hs⟩
  rw [sat_ite, sat_pure]
  refine ⟨fun _ => hs, fun _ => Sat.bind (hwalk hparams hs) fun r c₁ h₁ => ?_⟩
  rw [sat_ite, sat_pure]
  refine ⟨fun _ => h₁, fun _ => ?_⟩
  rw [sat_ite, if_neg hnot, sat_pure]
  refine ⟨fun _ => ?_, fun _ => h₁⟩
  rw [onlyIf, if_neg (fun h => hnot h.2), sat_bind, sat_pure, if_neg (fun h => h rfl)]
  refine Sat.bind (hwalk hprep h₁) fun r c₂ h₂ => ?_
  rw [sat_ite, sat_pure, sat_ite, sat_pure]
  exact ⟨fun _ => h₂, fun _ => ⟨fun h => absurd h.2 hnot, fun _ => h₂⟩⟩

theorem startedOk_of_sameStarted {c c' : Ctx} (h : c.sess.StartedOk) (s : c.SameStarted c')
    (hs : c.sess.state = .started → c'.sess.state = .started) : c'.sess.StartedOk := by
  intro b hb hbs
  obtain ⟨a, ha, has⟩ := exists_isStarted_of_map s.started ⟨b, hb, hbs⟩
  obtain ⟨hst, hd⟩ := h a ha has
  refine ⟨hs hst, ?_⟩
  rw [SessionObj.hasDevices, s.streamConfig]
  exact hd

theorem startedOk_sessionPrepare {c : Ctx} (h : c.sess.StartedOk) :
    Sat sessionPrepare c fun _ c' => c'.sess.StartedOk := by
  intro r c' he
  refine startedOk_of_sameStarted h (prepareStages_sameStarted.sessionPrepare c r c' he) fun hs => ?_
  exact sat_sessionPrepare_state hs r c' he

/-! ### Starting and stopping -/

/-- Where `session_start` gives up without a label, or has no devices, the back ends are as they were. -/
theorem sat_sessionStartBody_started (c : Ctx) : Sat sessionStartBody c fun e c' => c.WalkStep c' ∧
    ((¬ c.sess.hasDevices ∨ (e.1 = .done ∧ e.2 ≠ 0)) → c'.sess.aifPool = c.sess.aifPool) ∧
    (e.1 ≠ .done → e.2 ≠ 0) := by
  have hwalk {body : Aif → M (Int × Aif)} (h : ∀ a, Within Ctx.AifStep (body a)) (c : Ctx) :
      Sat (forEachAif body) c fun _ c' => c.WalkStep c' := by
    refine (sat_forEachAif_rel (I := fun c' => c.WalkStep c') (S := fun _ _ => True) (G := fun _ _ => True)
      (fun _ _ h => ⟨h.sess, h.hw⟩) (fun _ => trivial) (fun a c₁ h₁ => ?_) (refl_of Ctx.WalkStep c)).mono
      fun _ _ h => h.1
    exact (h a c₁).mono fun p c₂ h₂ => ⟨trans_of Ctx.WalkStep h₁ h₂.walkStep, trivial, fun _ => trivial⟩
  have hboth (a : Aif) : Within Ctx.AifStep (prepareStartAif a) :=
    within_bind (fun c => (sat_prepareAif a c).mono fun _ _ h => h.1) fun p =>
      within_ite (within_pure _) fun c => (sat_startAif p.2 c).mono fun _ _ h => h.1
  have hslim (a : Aif) : Within Ctx.AifStep (startSlimbus a) :=
    within_bind within_get fun _ => within_ite (hboth a) (within_pure _)
  have hother (a : Aif) : Within Ctx.AifStep (startOther a) :=
    within_bind within_get fun _ => within_ite (within_pure _) <|
      within_ite (fun c => (sat_startAif a c).mono fun _ _ h => h.1) (hboth a)
  have hgraph : Within Ctx.GraphStep graphStart := fun c => (sat_graphStart c).mono fun _ _ h => h.1
  unfold sessionStartBody
  rw [sat_bind, sat_get, sat_ite]
  refine ⟨fun hd => ?_, fun _ => ?_⟩
  · rw [sat_ite, sat_pure]
    refine ⟨fun _ => ⟨refl_of Ctx.WalkStep c, fun _ => rfl, fun h => absurd rfl h⟩, fun _ => ?_⟩
    refine Sat.bind (within_onlyIf edge_sessionStartChecks c) fun r c₁ s₁ => ?_
    have hl₁ : c₁.sess.aifPool = c.sess.aifPool := s₁.edgesSet.aifPool
    rw [sat_ite, sat_pure]
    refine ⟨fun _ => ⟨s₁.walkStep, fun _ => hl₁, fun h => absurd rfl h⟩, fun _ => ?_⟩
    unfold sessionStartDevices
    rw [sat_bind, sat_get]
    refine Sat.bind (within_onlyIf hgraph c₁) fun r c₂ s₂ => ?_
    have w₂ := trans_of Ctx.WalkStep s₁.walkStep s₂.aifStep.walkStep
    rw [sat_ite, sat_pure]
    refine ⟨fun _ => ⟨w₂, fun _ => s₂.aifPool.trans hl₁, fun h => absurd rfl h⟩, fun _ => ?_⟩
    -- from here on a failure leaves through one of the labels
    have hexit {l : StartLabel} {r : Int} {c' : Ctx} (w : c.WalkStep c') (hl : l = .done ↔ r = 0) :
        c.WalkStep c' ∧ ((¬ c.sess.hasDevices ∨ (l = .done ∧ r ≠ 0)) → c'.sess.aifPool = c.sess.aifPool) ∧
          (l ≠ .done → r ≠ 0) := by
      refine ⟨w, ?_, fun h h0 => h (hl.2 h0)⟩
      rintro (h | h)
      · exact absurd hd h
      · exact absurd (hl.1 h.1) h.2
    refine Sat.bind (hwalk hslim c₂) fun r c₃ s₃ => ?_
    have w₃ := trans_of Ctx.WalkStep w₂ s₃
    rw [sat_ite, sat_pure]
    refine ⟨fun hr => hexit w₃ (iff_of_false (nomatch ·) hr), fun _ => ?_⟩
    refine Sat.bind (within_onlyIf hgraph c₃) fun r c₄ s₄ => ?_
    have w₄ := trans_of Ctx.WalkStep w₃ s₄.aifStep.walkStep
    rw [sat_ite, sat_pure]
    refine ⟨fun hr => hexit w₄ (iff_of_false (nomatch ·) hr), fun _ => ?_⟩
    refine Sat.bind (hwalk hother c₄) fun r c₅ s₅ => ?_
    have w₅ := trans_of Ctx.WalkStep w₄ s₅
    rw [sat_ite, sat_pure]
    refine ⟨fun hr => hexit w₅ (iff_of_false (nomatch ·) hr), fun _ => ?_⟩
    refine Sat.bind (within_onlyIf hgraph c₅) fun r c₆ s₆ => ?_
    have w₆ := trans_of Ctx.WalkStep w₅ s₆.aifStep.walkStep
    rw [sat_ite, sat_pure, sat_pure]
    exact ⟨fun hr => hexit w₆ (iff_of_false (nomatch ·) hr), fun _ => hexit w₆ (iff_of_true rfl rfl)⟩
  · refine Sat.bind (hgraph c) fun r c₁ s₁ => ?_
    rw [sat_ite, sat_pure, sat_pure]
    exact ⟨fun hr => ⟨s₁.aifStep.walkStep, fun _ => s₁.aifPool, fun _ => hr⟩,
      fun _ => ⟨s₁.aifStep.walkStep, fun _ => s₁.aifPool, fun h => absurd rfl h⟩⟩

/-- A loop that stops the started devices leaves no back end started. -/
theorem sat_stopAll_started {state : AifState} (hs : state ≠ .started) (ret : Int) (c : Ctx) :
    Sat (mapEachAif (stopAif state) ret) c fun _ c' => c.WalkStep c' ∧ ∀ a ∈ c'.sess.aifPool, ¬ a.isStarted := by
  refine (sat_mapEachAif_rel (I := fun c' => c.WalkStep c') (S := fun _ b => ¬ b.isStarted)
    (fun _ _ h => ⟨h.sess, h.hw⟩) (fun ret a c₁ h₁ => ?_) (refl_of Ctx.WalkStep c)).mono fun _ c₂ h₂ => ?_
  · refine (sat_stopAif state ret a c₁).mono fun p c₂ h₂ => ?_
    obtain ⟨s₂, -, h₂⟩ := h₂
    refine ⟨trans_of Ctx.WalkStep h₁ s₂.walkStep, ?_⟩
    rcases h₂ with ⟨-, hp, -⟩ | ⟨hne, hp, -⟩
    · rw [hp]
      simpa [Aif.isStarted] using hs
    · rw [hp]
      simpa [Aif.isStarted] using hne
  · refine ⟨h₂.1, fun b hb => ?_⟩
    obtain ⟨a, -, hab⟩ := exists_mem_of_forall₂ h₂.2 hb
    exact hab

theorem Ctx.WalkStep.streamConfig {c c' : Ctx} (h : c.WalkStep c') : c'.sess.streamConfig = c.sess.streamConfig := by
  have := congrArg SessionObj.streamConfig h.sess
  exact this

/-- **Which back ends `session_start` leaves started.**  When it fails, either none of them is, or it has not come to
the devices. -/
theorem sat_sessionStart_started (c : Ctx) : Sat sessionStart c fun r c' =>
    c'.sess.streamConfig = c.sess.streamConfig ∧ (¬ c.sess.hasDevices → c'.sess.aifPool = c.sess.aifPool) ∧
      (r = 0 → c'.sess.state = .started) ∧
      (r ≠ 0 → c'.sess.state = c.sess.state ∧
        (c'.sess.aifPool = c.sess.aifPool ∨ ∀ a ∈ c'.sess.aifPool, ¬ a.isStarted)) := by
  refine Sat.bind (sat_sessionStartBody_started c) fun e c₁ h₁ => ?_
  obtain ⟨s₁, hpool, hret⟩ := h₁
  have hstop {c₂ : Ctx} (s₂ : c₁.GraphStep c₂) (hne : e.2 ≠ 0) :
      Sat (startDeviceStop >>= fun _ => pure e.2) c₂ fun r c' =>
        c'.sess.streamConfig = c.sess.streamConfig ∧ (¬ c.sess.hasDevices → c'.sess.aifPool = c.sess.aifPool) ∧
          (r = 0 → c'.sess.state = .started) ∧
          (r ≠ 0 → c'.sess.state = c.sess.state ∧
            (c'.sess.aifPool = c.sess.aifPool ∨ ∀ a ∈ c'.sess.aifPool, ¬ a.isStarted)) := by
    have w₂ := trans_of Ctx.WalkStep s₁ s₂.aifStep.walkStep
    have hdev₂ : c₂.sess.hasDevices = c.sess.hasDevices := by rw [SessionObj.hasDevices, w₂.streamConfig]; rfl
    have hall : Sat startDeviceStop c₂ fun _ c' => c₂.WalkStep c' ∧
        ((c.sess.hasDevices ∧ ∀ a ∈ c'.sess.aifPool, ¬ a.isStarted) ∨
          (¬ c.sess.hasDevices ∧ c'.sess.aifPool = c.sess.aifPool)) := by
      unfold startDeviceStop
      rw [sat_bind, sat_get, hdev₂, sat_ite, sat_pure]
      refine ⟨fun hd => Sat.bind (sat_stopAll_started (by decide) 0 c₂) fun _ c₃ h₃ => ?_, fun hd => ?_⟩
      · exact (sat_pure _ _ _).2 ⟨h₃.1, .inl ⟨hd, h₃.2⟩⟩
      · exact ⟨refl_of Ctx.WalkStep c₂, .inr ⟨hd, s₂.aifPool.trans (hpool (.inl hd))⟩⟩
    refine Sat.bind hall fun _ c₃ h₃ => (sat_pure _ _ _).2 ?_
    have w₃ := trans_of Ctx.WalkStep w₂ h₃.1
    rcases h₃.2 with ⟨hd, hno⟩ | ⟨hd, hl⟩
    · exact ⟨w₃.streamConfig, fun h => absurd hd h, fun h => absurd h hne, fun _ => ⟨w₃.state, .inr hno⟩⟩
    · exact ⟨w₃.streamConfig, fun _ => hl, fun h => absurd h hne, fun _ => ⟨w₃.state, .inl hl⟩⟩
  cases he : e.1 with
  | done =>
    rw [sat_ite, sat_pure, sat_bind, sat_modSess, sat_pure]
    refine ⟨fun hr => ?_, fun _ => ⟨s₁.streamConfig, fun hd => hpool (.inl hd), fun _ => rfl, fun h => absurd rfl h⟩⟩
    exact ⟨s₁.streamConfig, fun hd => hpool (.inl hd), fun h => absurd h hr,
      fun _ => ⟨s₁.state, .inl (hpool (.inr ⟨he, hr⟩))⟩⟩
  | unwind =>
    refine Sat.bind (sat_graphStop c₁) fun _ c₂ h₂ => ?_
    exact hstop h₂.1 (hret (by rw [he]; decide))
  | deviceStop => exact hstop (refl_of Ctx.GraphStep c₁) (hret (by rw [he]; decide))

theorem startedOk_sessionStart {c : Ctx} (h : c.sess.StartedOk) : Sat sessionStart c fun _ c' => c'.sess.StartedOk := by
  refine (sat_sessionStart_started c).mono fun r c' h' => ?_
  obtain ⟨hcfg, hbare, hok, hno⟩ := h'
  have hdev : c'.sess.hasDevices = c.sess.hasDevices := by rw [SessionObj.hasDevices, hcfg]; rfl
  intro a ha has
  by_cases hr : r = 0
  · refine ⟨hok hr, Decidable.not_not.1 fun hd => ?_⟩
    rw [hdev] at hd
    rw [hbare hd] at ha
    exact hd (h a ha has).2
  · obtain ⟨hst, hl | hnone⟩ := hno hr
    · rw [hl] at ha
      rw [hst, hdev]
      exact h a ha has
    · exact absurd has (hnone a ha)

theorem startedOk_sessionStop {c : Ctx} (h : c.sess.StartedOk) : Sat sessionStop c fun _ c' => c'.sess.StartedOk := by
  have hgraph : Within Ctx.GraphStep (graphStop none) := fun c => (sat_graphStop c).mono fun _ _ h => h.1
  unfold sessionStop
  rw [sat_bind, sat_get, sat_ite, sat_pure]
  refine ⟨fun _ => h, fun _ => ?_⟩
  rw [sat_ite]
  constructor
  · intro _
    refine Sat.bind (within_onlyIf hgraph c) fun r c₁ s₁ => ?_
    rw [sat_ite, sat_pure]
    refine ⟨fun _ => startedOk_of_sameStarted h s₁.sameStarted fun hs => s₁.state.trans hs, fun _ => ?_⟩
    refine Sat.bind (sat_stopAll_started (by decide) 0 c₁) fun r c₂ h₂ => ?_
    refine Sat.bind (within_onlyIf hgraph c₂) fun r c₃ s₃ => ?_
    rw [sat_bind, sat_modSess, sat_pure]
    intro a ha has
    have ha : a ∈ c₃.sess.aifPool := ha
    rw [s₃.aifPool] at ha
    exact absurd has (h₂.2 a ha)
  · intro hd
    refine Sat.bind (hgraph c) fun r c₁ s₁ => ?_
    rw [sat_bind, sat_modSess, sat_pure]
    intro a ha has
    have ha : a ∈ c₁.sess.aifPool := ha
    rw [s₁.aifPool] at ha
    exact absurd (h a ha has).2 hd

theorem startedOk_setAif {s : SessionObj} (h : s.StartedOk) (i : Nat) {b : Aif} (hb : ¬ b.isStarted) :
    (s.setAif i b).StartedOk := by
  intro a ha has
  rcases List.mem_or_eq_of_mem_set ha with ha | rfl
  · exact h a ha has
  · exact absurd has hb

theorem startedOk_of_aifStep {c c' : Ctx} (h : c.sess.StartedOk) (s : c.AifStep c') : c'.sess.StartedOk :=
  startedOk_of_sameStarted h ⟨s.streamConfig, by rw [s.aifPool]⟩ fun hs => s.state.trans hs

/-- Connecting a back end does not start it. -/
theorem startedOk_connectAt {i n : Nat} {c : Ctx} (h : c.sess.StartedOk) (ha : ¬ (c.sess.aifAt i).isStarted) :
    Sat (connectAt i n) c fun _ c' => c'.sess.StartedOk := by
  unfold connectAt
  rw [sat_bind, sat_get]
  have hcon : Sat (connectToOpened (c.sess.aifAt i) n) c fun p _ => ¬ p.2.isStarted := by
    refine Sat.bind (sat_sessionConnectAif _ n c) fun p c₁ h₁ => ?_
    rw [sat_ite, sat_pure, sat_pure]
    refine ⟨fun _ => ?_, fun _ => by simp [Aif.isStarted]⟩
    rw [Aif.isStarted, Aif.state_of_base h₁.2.1]
    exact ha
  refine Sat.bind (hcon.and (aifStep_connectToOpened _ n c)) fun p c₁ h₁ => ?_
  rw [sat_bind, sat_modSess, sat_pure]
  exact startedOk_setAif (startedOk_of_aifStep h h₁.2) i h₁.1

theorem startedOk_hotConnectBody {i n : Nat} {c : Ctx} (h : c.sess.StartedOk) (ha : ¬ (c.sess.aifAt i).isStarted) :
    Sat (hotConnectBody i n) c fun _ c' => c'.sess.StartedOk := by
  unfold hotConnectBody
  rw [sat_bind, sat_get, sat_ite, sat_bind, sat_modSess, sat_pure]
  refine ⟨fun _ => startedOk_setAif h i (by simp [Aif.isStarted]), fun _ => ?_⟩
  refine Sat.bind (startedOk_connectAt h ha) fun r c₁ h₁ => ?_
  rw [sat_ite, sat_pure, sat_ite, sat_pure]
  refine ⟨fun _ => h₁, fun _ => ⟨fun _ => h₁, fun _ => ?_⟩⟩
  refine Sat.bind (startedOk_sessionPrepare h₁) fun r c₂ h₂ => ?_
  rw [sat_ite, sat_pure, sat_ite, sat_pure]
  refine ⟨fun _ => h₂, fun _ => ⟨fun _ => ?_, fun _ => h₂⟩⟩
  refine Sat.bind (startedOk_sessionStart h₂) fun r c₃ h₃ => ?_
  rw [sat_ite, sat_pure, sat_pure]
  exact ⟨fun _ => h₃, fun _ => h₃⟩

theorem startedOk_sessionObjSessAifConnect (aifId : Nat) (aifState : Bool) {c : Ctx} (h : c.sess.StartedOk) :
    Sat (sessionObjSessAifConnect aifId aifState) c fun _ c' => c'.sess.StartedOk := by
  have hclose (s : SessionObj) (i : Nat) (h : s.StartedOk) : (s.setAifState i .close).StartedOk :=
    startedOk_setAif h i (by simp [Aif.isStarted])
  refine Sat.bind (sat_aifObjGet aifId c) fun r c₁ h₁ => ?_
  cases r with
  | error e =>
    obtain ⟨-, rfl⟩ := h₁
    exact (sat_pure _ _ _).2 h
  | ok i =>
    have hok : c₁.sess.StartedOk := by
      rcases h₁.2 with ⟨rfl, -⟩ | ⟨-, -, rfl⟩
      · exact h
      · intro a ha has
        rcases List.mem_append.1 ha with ha | ha
        · exact h a ha has
        · rw [List.mem_singleton.1 ha] at has
          cases has
    rw [sat_bind, sat_get, sat_ite, sat_pure, sat_ite]
    refine ⟨fun _ => hok, fun hrank => ⟨fun hs => ?_, fun _ => ?_⟩⟩
    · have ha : ¬ (c₁.sess.aifAt i).isStarted := by
        intro has
        refine hrank (.inl ⟨hs, ?_⟩)
        rw [of_decide_eq_true has]
        decide
      refine Sat.bind (startedOk_hotConnectBody hok ha) fun e c₂ h₂ => ?_
      cases e.1 with
      | done => exact (sat_pure _ _ _).2 h₂
      | unwind =>
        simp only [sat_bind, sat_modSess, sat_get]
        refine (sat_sessionDisconnectAif _ _ _).mono fun _ c₃ h₃ => (sat_pure _ _ _).2 ?_
        exact startedOk_of_aifStep (hclose _ i h₂) h₃.1
    · unfold hotDisconnect
      rw [sat_bind, sat_modSess, sat_bind, sat_get]
      refine Sat.bind (within_onlyIf (fun c => (sat_sessionDisconnectAif _ _ c).mono fun _ _ h => h.1) _)
        fun r c₂ s₂ => ?_
      have h₂ := startedOk_of_aifStep (hclose _ i hok) s₂
      rw [sat_ite, sat_pure, sat_bind, sat_modSess, sat_pure]
      exact ⟨fun _ => h₂, fun _ => startedOk_setAif h₂ i (by simp [Aif.isStarted])⟩

theorem startedOk_sessionObjOpen (mode : SessMode) {c : Ctx} (h : c.sess.StartedOk) :
    Sat (sessionObjOpen mode) c fun _ c' => c'.sess.StartedOk := by
  by_cases hcl : c.sess.state = .closed
  · have hnone : ∀ a ∈ c.sess.aifPool, a.state ≠ .started := by
      intro a ha has
      have := (h a ha (decide_eq_true has)).1
      rw [hcl] at this
      cases this
    have hnever : OpenTurns fun _ l => ∀ a ∈ l, a.state ≠ .started := openTurns_never (nomatch ·) (nomatch ·)
    exact (within_inv.1 (hnever.sessionObjOpen mode) c hnone).mono fun _ c' h' a ha has => absurd (of_decide_eq_true has) (h' a ha)
  · unfold sessionObjOpen
    rw [sat_bind, sat_get, if_pos hcl, sat_pure]
    exact h

/-- After a close no back end is started. -/
theorem sat_sessionClose_started {c : Ctx} (h : c.sess.StartedOk) (hc : c.sess.state ≠ .closed) :
    Sat sessionClose c fun _ c' => ∀ a ∈ c'.sess.aifPool, ¬ a.isStarted := by
  refine (sat_sessionClose_aifs hc).mono fun _ c' h' a ha has => ?_
  by_cases hd : c.sess.hasDevices
  · exact h'.1 hd a ha (Aif.isOpened_of_isStarted has)
  · rw [h'.2 hd] at ha
    exact hd (h a ha has).2

theorem startedOk_sessionClose {c : Ctx} (h : c.sess.StartedOk) : Sat sessionClose c fun _ c' => c'.sess.StartedOk := by
  by_cases hc : c.sess.state = .closed
  · unfold sessionClose
    rw [sat_bind, sat_get, if_pos hc, sat_pure]
    exact h
  · exact (sat_sessionClose_started h hc).mono fun _ c' h' a ha has => absurd has (h' a ha)

theorem startedOk_run {op : Op} (hop : op.isLifecycle) {c : Ctx} (h : c.sess.StartedOk) :
    Sat op.run c fun _ c' => c'.sess.StartedOk := by
  cases op with
  | sessAifConnect aifId aifState => exact startedOk_sessionObjSessAifConnect aifId aifState h
  | «open» mode => exact startedOk_sessionObjOpen mode h
  | prepare => exact startedOk_sessionPrepare h
  | start => exact startedOk_sessionStart h
  | stop => exact startedOk_sessionStop h
  | close => exact startedOk_sessionClose h
  | _ => cases hop

end Agm.Service
