import Agm.Service.GraphPointer

/-!
# The session and its graph object, step by step

A session and its graph object go through the same states, but different functions write the two: `session_prepare`
leaves early where `graph_prepare` does not, a stop with metadata leaves the state of the graph object, and a back end
that is connected to a running session is prepared and started by the functions for the whole session.  While no call
fails the two machines stay together, whatever the modules answer when they are configured.
-/

namespace Agm.Service

open Agm.Lib

/-- The state of the graph object that goes with a state of the session. -/
def graphStateOf : SessionState → Option GraphState
  | .closed => none
  | .opened => some .opened
  | .prepared => some .prepared
  | .started => some .started
  | .stopped => some .stopped

/-! ## Calls that do not fail -/

/-- No call to GSL or ALSA is going to fail.  The configuration of a module may. -/
def Hw.NoFail (hw : Hw) : Prop := ∀ k, k ≠ .configure → ∀ ret ∈ hw.env k, ret = 0

theorem Hw.NoFail.later {hw hw' : Hw} (h : hw.NoFail) (hl : hw.Later hw') : hw'.NoFail :=
  fun k hk ret hret => h k hk ret ((hl.env k).subset hret)

theorem Hw.NoFail.answer {hw : Hw} (h : hw.NoFail) {k : Call} (hk : k.kind ≠ .configure) : hw.answer k = 0 := by
  unfold Hw.answer
  cases he : hw.env k.kind with
  | nil => rfl
  | cons ret rets => exact h k.kind hk ret (by rw [he]; exact List.mem_cons_self)

section

variable {c : Ctx}

theorem Ctx.exists_graph (h : c.face.isSome) : ∃ g, c.sess.graph = some g := by
  rw [Ctx.face, Option.isSome_map] at h
  exact Option.isSome_iff_exists.1 h

/-- A function that only makes one call on the graph object. -/
theorem sat_withGraph_call {k : GraphObj → Call} (hk : ∀ g, (k g).kind ≠ .configure) (hc : c.hw.NoFail)
    (hg : c.face.isSome) : Sat (withGraph fun g => onHw (askGsl (k g))) c fun r _ => r = 0 := by
  refine sat_withGraph c (fun h => ?_) fun g _ => ?_
  · rw [Ctx.face, h] at hg
    cases hg
  · rw [sat_onHw, sat_askGsl, hc.answer (hk g)]
    rfl

theorem sat_graphStart_ok (hc : c.hw.NoFail) (hg : c.face.isSome) :
    Sat graphStart c fun r c' => r = 0 ∧ c.GraphStep c' ∧ c.InState .started c' := by
  have hret : Sat graphStart c fun r _ => r = 0 := by
    refine sat_withGraph c (fun h => ?_) fun g _ => ?_
    · rw [Ctx.face, h] at hg
      cases hg
    · rw [sat_bind, sat_onHw, sat_askGsl, hc.answer (by simp [Call.kind]), arErrGetLnxErrCode_zero,
        if_neg (fun h => h rfl), sat_bind, sat_modGraph, sat_pure]
  refine (hret.and (sat_graphStart c)).mono fun r c' h => ?_
  obtain ⟨rfl, s, h | h⟩ := h
  · exact ⟨rfl, s, h.2.2⟩
  · exact absurd rfl h.1

theorem sat_graphStop_ok (hc : c.hw.NoFail) (hg : c.face.isSome) :
    Sat (graphStop none) c fun r c' => r = 0 ∧ c.GraphStep c' ∧ c.InState .stopped c' := by
  have hret : Sat (graphStop none) c fun r _ => r = 0 := by
    refine sat_withGraph c (fun h => ?_) fun g _ => ?_
    · rw [Ctx.face, h] at hg
      cases hg
    · rw [sat_ite, sat_pure, sat_bind, sat_onHw, sat_askGsl, hc.answer (by simp [Call.kind])]
      refine ⟨fun _ => rfl, fun _ => ?_⟩
      rw [sat_bind, sat_modGraph, sat_pure]
      rfl
  exact (hret.and (sat_graphStop c)).mono fun _ _ h => ⟨h.1, h.2.1, h.2.2⟩

/-- The parameters cached for a back end are set. -/
theorem sat_sessionApplyCached_ok (merged : Metadata) (a : Aif) (hc : c.hw.NoFail) (hg : c.face.isSome) :
    Sat (sessionApplyCached merged a) c fun p _ => p.1 = 0 := by
  have hset {c : Ctx} (p : Payload) (hc : c.hw.NoFail) (hg : c.face.isSome) :
      Sat (graphSetConfig p) c fun r _ => r = 0 := sat_withGraph_call (fun _ => by simp [Call.kind]) hc hg
  have hstep {c c' : Ctx} (s : c.CoreCall c') (hc : c.hw.NoFail) (hg : c.face.isSome) :
      c'.hw.NoFail ∧ c'.face.isSome := by
    refine ⟨hc.later s.hw, ?_⟩
    have hf : c'.face = c.face := s.graph
    rw [hf]
    exact hg
  have hparams : Sat sessionApplyParams c fun r _ => r = 0 := by
    unfold sessionApplyParams
    rw [sat_bind, sat_get]
    cases c.sess.params with
    | none => exact (sat_pure _ _ _).2 rfl
    | some p =>
      rw [sat_ite, sat_pure]
      refine ⟨fun _ => Sat.bind (hset p hc hg) fun r c₁ hr => ?_, fun _ => rfl⟩
      rw [sat_bind, sat_modSess, sat_pure]
      exact hr
  refine Sat.bind ((core_sessionApplyParams c).and hparams) fun r c₁ h₁ => ?_
  obtain ⟨hc₁, hg₁⟩ := hstep h₁.1 hc hg
  rw [if_neg (fun h => h h₁.2)]
  have haif : Sat (sessionApplyAifParams a) c₁ fun p _ => p.1 = 0 := by
    unfold sessionApplyAifParams
    cases a.params with
    | none => exact (sat_pure _ _ _).2 rfl
    | some p =>
      refine Sat.bind (hset p hc₁ hg₁) fun r c₂ hr => ?_
      rw [if_neg (fun h => h hr), sat_pure]
  refine Sat.bind ((sat_sessionApplyAifParams a c₁).and haif) fun p c₂ h₂ => ?_
  obtain ⟨hc₂, hg₂⟩ := hstep h₂.1.1 hc₁ hg₁
  rw [if_neg (fun h => h h₂.2)]
  have hdev : Sat (sessionApplyAifDeviceParams a.devObj) c₂ fun r _ => r = 0 := by
    unfold sessionApplyAifDeviceParams
    rw [sat_bind, sat_get]
    cases (c₂.hw.devs a.devObj).params with
    | none => exact (sat_pure _ _ _).2 rfl
    | some q =>
      rw [sat_ite, sat_pure]
      refine ⟨fun _ => rfl, fun _ => Sat.bind (hset q hc₂ hg₂) fun r c₃ hr => ?_⟩
      rw [sat_bind, sat_onHw, sat_modify, sat_pure]
      exact hr
  refine Sat.bind ((core_sessionApplyAifDeviceParams a.devObj c₂).and hdev) fun r c₃ h₃ => ?_
  obtain ⟨hc₃, hg₃⟩ := hstep h₃.1 hc₂ hg₂
  rw [if_neg (fun h => h h₃.2)]
  unfold sessionApplyAifTagParams
  cases p.2.tagConfig with
  | none => exact (sat_pure _ _ _).2 rfl
  | some cfg =>
    refine Sat.bind (sat_withGraph_call (fun _ => by simp [Call.kind]) hc₃ hg₃) fun r c₄ hr => ?_
    exact (sat_pure _ _ _).2 hr

/-- While no call fails, a connect on an open session does not come to `graph_cleanup`. -/
theorem not_connectCleansUp (a : Aif) (n : Nat) (hs : c.sess.state ≠ .closed) (hc : c.hw.NoFail)
    (hg : c.face.isSome) : ¬ connectCleansUp a n c := by
  have hbody : Sat (sessionConnectBody a n) c fun e _ => e.label = .done ∨ e.label = .closeDevice := by
    unfold sessionConnectBody
    rw [sat_bind, sat_get]
    cases mergedMetadata a c with
    | none => exact (sat_pure _ _ _).2 (.inl rfl)
    | some merged =>
      refine Sat.bind (sat_onHw_later (sat_deviceOpen a.devObj c.hw)) fun r c₁ h₁ => ?_
      obtain ⟨s₁, hsess, -⟩ := h₁
      have hf₁ : c₁.face = c.face := by rw [Ctx.face, hsess, Ctx.face]
      rw [sat_ite, sat_pure]
      refine ⟨fun _ => .inl rfl, fun _ => ?_⟩
      refine Sat.bind (sat_sessionConnectGraph merged a n c₁) fun p c₂ h₂ => ?_
      obtain ⟨s₂, -, h₂⟩ := h₂
      rw [if_neg (fun h => hs (s₁.state.symm.trans h.2))] at h₂
      have hf₂ : c₂.face = c.face := Eq.trans h₂.2 hf₁
      rw [sat_ite, sat_pure]
      refine ⟨fun _ => .inr h₂.1, fun _ => ?_⟩
      refine Sat.bind (sat_sessionApplyCached_ok merged a (hc.later (trans_of Hw.Later s₁.hw s₂.hw.later))
        (hf₂ ▸ hg)) fun q c₃ hq => ?_
      rw [if_neg (fun h => h hq), sat_pure]
      exact .inl rfl
  obtain ⟨e, c', h⟩ := (total_sessionConnectBody a n).exists c
  rw [connectCleansUp_of h]
  rcases hbody _ _ h with h | h <;> simp [h]

end

/-! ## The invariant -/

/-- The two machines are together, no call is going to fail, and no back end is left half way between prepared and
started. -/
structure Ctx.Sim (c : Ctx) : Prop where
  noFail : c.hw.NoFail
  first : c.hw.build.devPrepareFirst = false
  graph : c.face.map Prod.snd = graphStateOf c.sess.state
  aifs : ∀ a ∈ c.sess.aifPool, a.state ≠ .prepared

theorem Hw.Later.build {hw hw' : Hw} (h : hw.Later hw') : hw'.build = hw.build := by
  have := congrArg Hw.build h.fixed
  exact this

theorem Ctx.Sim.step {c c' : Ctx} (h : c.Sim) (hl : c.hw.Later c'.hw)
    (hg : c'.face.map Prod.snd = graphStateOf c'.sess.state) (ha : ∀ a ∈ c'.sess.aifPool, a.state ≠ .prepared) :
    c'.Sim :=
  ⟨h.noFail.later hl, hl.build ▸ h.first, hg, ha⟩

theorem Ctx.Sim.same {c c' : Ctx} (h : c.Sim) (hl : c.hw.Later c'.hw) (hf : c'.face = c.face)
    (hs : c'.sess.state = c.sess.state) (ha : ∀ a ∈ c'.sess.aifPool, a.state ≠ .prepared) : c'.Sim :=
  h.step hl (by rw [hf, hs, h.graph]) ha

theorem Ctx.Sim.isSome {c : Ctx} (h : c.Sim) (hs : c.sess.state ≠ .closed) : c.face.isSome := by
  have hg := h.graph
  cases hf : c.face with
  | some p => rfl
  | none =>
    rw [hf] at hg
    cases hst : c.sess.state <;> rw [hst] at hg hs
    · exact absurd rfl hs
    all_goals cases hg

theorem Ctx.Sim.face_none {c : Ctx} (h : c.Sim) (hs : c.sess.state = .closed) : c.face = none := by
  have hg := h.graph
  rw [hs] at hg
  exact Option.map_eq_none_iff.1 hg

theorem Ctx.InState.snd {c c' : Ctx} {state : GraphState} (h : c.InState state c') (hg : c.face.isSome) :
    c'.face.map Prod.snd = some state := by
  have hf : c'.face = c.sess.graph.map fun g => (g.handle, state) := h
  obtain ⟨g, hg⟩ := Ctx.exists_graph hg
  rw [hf, hg]
  rfl

theorem Ctx.InState.none {c c' : Ctx} {state : GraphState} (h : c.InState state c') (hg : c.face = none) :
    c'.face = none := by
  have hf : c'.face = c.sess.graph.map fun g => (g.handle, state) := h
  rw [hf, Ctx.face_eq_none.1 hg]
  rfl

/-! ## Preparing -/

/-- `session_prepare`, in a build where it leaves the devices to `session_start`. -/
theorem sim_sessionPrepare {c : Ctx} (h : c.Sim) : Sat sessionPrepare c fun _ c' => c'.Sim := by
  have hgraph {c₁ : Ctx} (h₁ : c₁.Sim) : Sat sessionPrepareGraph c₁ fun _ c' => c'.Sim := by
    refine Sat.bind (sat_graphPrepare c₁) fun r c₂ h₂ => ?_
    obtain ⟨s₂, h₂⟩ := h₂
    have ha : ∀ a ∈ c₂.sess.aifPool, a.state ≠ .prepared := by
      rw [s₂.aifPool]
      exact h₁.aifs
    rw [sat_ite, sat_pure, sat_bind, sat_modSess, sat_pure]
    rcases h₂ with ⟨rfl, hsome, hin⟩ | ⟨hr, hface⟩
    · refine ⟨fun hr => absurd rfl hr, fun _ => h₁.step s₂.hw.later ?_ ha⟩
      exact hin.snd (by rw [Ctx.face, Option.isSome_map]; exact hsome)
    · exact ⟨fun _ => h₁.same s₂.hw.later hface s₂.state ha, fun h0 => absurd (Decidable.not_not.1 h0) hr⟩
  have hparams : Sat (forEachAif fun a => do
      let ret ← sessionApplyAifDeviceParams a.devObj
      pure (ret, a)) c fun _ c' => c'.Sim := by
    refine (sat_forEachAif_rel (I := fun c' => c.WalkStep c' ∧ c'.face = c.face) (S := Eq) (G := Eq)
      (fun _ _ h => ⟨⟨h.1.sess, h.1.hw⟩, h.2⟩) (fun _ => rfl) (fun a c₁ h₁ => ?_)
      ⟨refl_of Ctx.WalkStep c, rfl⟩).mono fun _ c₂ h₂ => ?_
    · refine Sat.bind (core_sessionApplyAifDeviceParams a.devObj c₁) fun r c₂ s₂ => (sat_pure _ _ _).2 ?_
      exact ⟨⟨trans_of Ctx.WalkStep h₁.1 s₂.walkStep, Eq.trans s₂.graph h₁.2⟩, rfl, fun _ => rfl⟩
    · refine h.same h₂.1.1.hw h₂.1.2 h₂.1.1.state ?_
      have heq : c.sess.aifPool = c₂.sess.aifPool := by
        have hrel := h₂.2.1
        rwa [List.forall₂_eq_eq_eq] at hrel
      rw [← heq]
      exact h.aifs
  unfold sessionPrepare
  rw [sat_bind, sat_get, sat_ite]
  refine ⟨fun _ => ?_, fun _ => ?_⟩
  · rw [sat_ite, sat_pure]
    refine ⟨fun _ => h, fun _ => Sat.bind hparams fun r c₁ h₁ => ?_⟩
    rw [sat_ite, sat_pure]
    refine ⟨fun _ => h₁, fun _ => ?_⟩
    rw [if_neg (by rw [h.first]; exact Bool.false_ne_true), sat_ite, sat_pure]
    exact ⟨fun _ => hgraph h₁, fun _ => h₁⟩
  · rw [sat_ite, sat_pure]
    exact ⟨fun _ => hgraph h, fun _ => h⟩

/-! ## Starting and stopping -/

/-- A back end that is not prepared comes out of `device_prepare` and `device_start` started. -/
theorem sat_prepareStartAif_ok {a : Aif} {c : Ctx} (hc : c.hw.NoFail) (ha : a.state ≠ .prepared) :
    Sat (prepareStartAif a) c fun p c' => c.AifStep c' ∧ c'.sess = c.sess ∧ p.2.state ≠ .prepared ∧ p.1 = 0 := by
  have hprep : Sat (prepareAif a) c fun p _ => p.1 = 0 := by
    unfold prepareAif
    rw [sat_ite, sat_pure]
    refine ⟨fun _ => ?_, fun _ => rfl⟩
    have hdev : Sat (devicePrepare a.devObj) c.hw fun r _ => r = 0 := by
      unfold devicePrepare
      simp only [sat_bind, sat_get, sat_ite, sat_modify, sat_pure, sat_ask, sat_crash]
      refine ⟨fun _ => trivial, fun _ => ⟨fun _ => trivial, fun _ => ⟨fun hne => ?_, fun _ => trivial⟩⟩⟩
      exact absurd (hc.answer (by simp [Call.kind])) hne
    refine Sat.bind ((sat_onHw _ _ fun r _ => r = 0).2 hdev) fun r c₁ hr => ?_
    rw [if_neg (fun h => h hr), sat_pure]
  refine Sat.bind ((sat_prepareAif a c).and hprep) fun p c₁ h₁ => ?_
  obtain ⟨⟨s₁, hs₁, h₁⟩, hp⟩ := h₁
  rw [if_neg (fun h => h hp)]
  rcases h₁ with ⟨rfl, -, hopen, hcore⟩ | ⟨ha₁, hno, -⟩
  · -- the PCM was prepared a moment ago, so it can be started
    have hready : ¬ (c₁.hw.devs (c₁.hw.pcmObj a.devObj)).state.rank < DevState.prepared.rank := by
      have hd := congrArg (fun hw : Hw => (hw.devs (hw.pcmObj a.devObj)).state) hcore
      have hd : (c₁.hw.devs (c₁.hw.pcmObj a.devObj)).state = _ := hd
      rw [hd, Hw.pcmObj_of_fixed (Hw.fixed_prepared a.devObj c.hw.core)]
      exact Nat.not_lt.2 (Hw.prepared_ready hopen)
    refine (sat_startAif { a with state := .prepared } c₁).mono fun q c₂ h₂ => ?_
    obtain ⟨s₂, hs₂, h₂⟩ := h₂
    refine ⟨trans_of Ctx.AifStep s₁ s₂, hs₂.trans hs₁, ?_⟩
    rcases h₂ with ⟨rfl, -⟩ | ⟨-, h0, hrank, -⟩
    · exact ⟨by simp, rfl⟩
    · have hq0 : q.1 = 0 := Decidable.not_not.1 fun hne => hready (hrank hne)
      exact absurd (.inr (.inl rfl)) (h0 hq0)
  · have hno := hno hp
    have hst : ¬ (a.state = .opened ∨ a.state = .prepared ∨ a.state = .stopped) := by
      rintro (h | h | h)
      · exact hno (.inl h)
      · exact ha h
      · exact hno (.inr h)
    unfold startAif
    rw [ha₁, if_neg hst, sat_pure]
    exact ⟨s₁, hs₁, ha, rfl⟩

/-- A walk over back ends none of which is left prepared. -/
theorem sat_forEachAif_started {body : Aif → M (Int × Aif)} {c : Ctx} (hc : c.hw.NoFail)
    (hb : c.hw.build.devPrepareFirst = false) (ha : ∀ a ∈ c.sess.aifPool, a.state ≠ .prepared)
    (step : ∀ a c, c.hw.NoFail → c.hw.build.devPrepareFirst = false → a.state ≠ .prepared →
      Sat (body a) c fun p c' => c.AifStep c' ∧ c'.sess = c.sess ∧ p.2.state ≠ .prepared ∧ p.1 = 0) :
    Sat (forEachAif body) c fun r c' => c.WalkStep c' ∧ c'.face = c.face ∧
      (∀ a ∈ c'.sess.aifPool, a.state ≠ .prepared) ∧ r = 0 := by
  unfold forEachAif
  rw [sat_bind, sat_get]
  refine Sat.bind (forEach_ok (I := fun c' => c.WalkStep c' ∧ c'.face = c.face) (G := fun a => a.state ≠ .prepared)
    (fun a c₁ h₁ ha => ?_) ⟨refl_of Ctx.WalkStep c, rfl⟩ ha) fun p c₁ h₁ => ?_
  · refine (step a c₁ (hc.later h₁.1.hw) (h₁.1.hw.build ▸ hb) ha).mono fun p c₂ h₂ => ?_
    refine ⟨⟨trans_of Ctx.WalkStep h₁.1 h₂.1.walkStep, ?_⟩, h₂.2.2⟩
    rw [Ctx.face, h₂.2.1]
    exact h₁.2
  · rw [sat_bind, sat_modSess, sat_pure]
    exact ⟨⟨h₁.1.1.sess, h₁.1.1.hw⟩, h₁.1.2, h₁.2⟩

/-- What `session_start` comes to before its labels: everything is started, or the graph object is as it was. -/
def StartExit (c : Ctx) (e : StartLabel × Int) (c' : Ctx) : Prop :=
  c.WalkStep c' ∧ (∀ a ∈ c'.sess.aifPool, a.state ≠ .prepared) ∧
    ((e = (.done, 0) ∧ c'.face.map Prod.snd = some .started) ∨
      (e.2 ≠ 0 ∧ c'.face = c.face ∧ (e.1 = .unwind → c.face = none)))

theorem sat_sessionStartDevices_sim {c : Ctx} (h : c.Sim) : Sat sessionStartDevices c (StartExit c) := by
  have hslim (a : Aif) (c : Ctx) (hc : c.hw.NoFail) (_ : c.hw.build.devPrepareFirst = false)
      (ha : a.state ≠ .prepared) : Sat (startSlimbus a) c fun p c' =>
        c.AifStep c' ∧ c'.sess = c.sess ∧ p.2.state ≠ .prepared ∧ p.1 = 0 := by
    unfold startSlimbus
    rw [sat_bind, sat_get, sat_ite, sat_pure]
    exact ⟨fun _ => sat_prepareStartAif_ok hc ha, fun _ => ⟨refl_of Ctx.AifStep c, rfl, ha, rfl⟩⟩
  have hother (a : Aif) (c : Ctx) (hc : c.hw.NoFail) (hb : c.hw.build.devPrepareFirst = false)
      (ha : a.state ≠ .prepared) : Sat (startOther a) c fun p c' =>
        c.AifStep c' ∧ c'.sess = c.sess ∧ p.2.state ≠ .prepared ∧ p.1 = 0 := by
    unfold startOther
    rw [sat_bind, sat_get, sat_ite, sat_pure, if_neg (by rw [hb]; exact Bool.false_ne_true)]
    exact ⟨fun _ => ⟨refl_of Ctx.AifStep c, rfl, ha, rfl⟩, fun _ => sat_prepareStartAif_ok hc ha⟩
  unfold sessionStartDevices
  rw [sat_bind, sat_get, h.first]
  have hskip (p : Prop) [Decidable p] (c : Ctx) :
      Sat (onlyIf (false = true ∧ p) graphStart) c fun r c' => r = 0 ∧ c' = c := by
    rw [sat_onlyIf]
    exact ⟨fun h => absurd h.1 Bool.false_ne_true, fun _ => ⟨rfl, rfl⟩⟩
  refine Sat.bind (hskip _ c) fun r c₀ h₀ => ?_
  obtain ⟨rfl, rfl⟩ := h₀
  rw [if_neg (fun h => h rfl)]
  refine Sat.bind (sat_forEachAif_started h.noFail h.first h.aifs hslim) fun r c₁ h₁ => ?_
  obtain ⟨s₁, hf₁, ha₁, rfl⟩ := h₁
  rw [if_neg (fun h => h rfl)]
  have h₁ : c₁.Sim := h.same s₁.hw hf₁ s₁.state ha₁
  rw [onlyIf, if_pos Bool.false_ne_true]
  cases hf : c₁.face with
  | none =>
    refine Sat.bind (sat_withGraph_none hf) fun r c₂ h₂ => ?_
    obtain ⟨rfl, rfl⟩ := h₂
    rw [if_pos (by decide), sat_pure]
    exact ⟨s₁, ha₁, .inr ⟨by decide, hf₁, fun h => StartLabel.noConfusion h⟩⟩
  | some f =>
    have hsome : c₁.face.isSome := by rw [hf]; rfl
    refine Sat.bind (sat_graphStart_ok h₁.noFail hsome) fun r c₂ h₂ => ?_
    obtain ⟨rfl, s₂, hin⟩ := h₂
    rw [if_neg (fun h => h rfl)]
    refine Sat.bind (sat_forEachAif_started (h₁.noFail.later s₂.hw.later) (s₂.hw.later.build ▸ h₁.first)
      (s₂.aifPool ▸ ha₁) hother) fun r c₃ h₃ => ?_
    obtain ⟨s₃, hf₃, ha₃, rfl⟩ := h₃
    rw [if_neg (fun h => h rfl)]
    refine Sat.bind (hskip _ c₃) fun r c₄ h₄ => ?_
    obtain ⟨rfl, rfl⟩ := h₄
    rw [if_neg (fun h => h rfl), sat_pure]
    refine ⟨trans_of Ctx.WalkStep (trans_of Ctx.WalkStep s₁ s₂.aifStep.walkStep) s₃, ha₃, .inl ⟨rfl, ?_⟩⟩
    rw [hf₃]
    exact hin.snd hsome

theorem sat_sessionStartBody_sim {c : Ctx} (h : c.Sim) : Sat sessionStartBody c (StartExit c) := by
  unfold sessionStartBody
  rw [sat_bind, sat_get, sat_ite]
  constructor
  · intro _
    rw [sat_ite, sat_pure]
    refine ⟨fun _ => ⟨refl_of Ctx.WalkStep c, h.aifs, .inr ⟨by decide, rfl, fun h => StartLabel.noConfusion h⟩⟩,
      fun _ => ?_⟩
    refine Sat.bind (within_onlyIf edge_sessionStartChecks c) fun r c₁ s₁ => ?_
    have hw₁ : c.WalkStep c₁ := s₁.walkStep
    have hl : c₁.sess.aifPool = c.sess.aifPool := s₁.edgesSet.aifPool
    have ha₁ : ∀ a ∈ c₁.sess.aifPool, a.state ≠ .prepared := by
      rw [hl]
      exact h.aifs
    rw [sat_ite, sat_pure]
    refine ⟨fun hr => ⟨hw₁, ha₁, .inr ⟨hr, s₁.face, fun h => StartLabel.noConfusion h⟩⟩, fun _ => ?_⟩
    refine (sat_sessionStartDevices_sim (h.same hw₁.hw s₁.face hw₁.state ha₁)).mono fun e c₂ h₂ => ?_
    obtain ⟨s₂, ha₂, h₂⟩ := h₂
    refine ⟨trans_of Ctx.WalkStep hw₁ s₂, ha₂, ?_⟩
    rw [← s₁.face]
    exact h₂
  · intro _
    cases hf : c.face with
    | none =>
      refine Sat.bind (sat_withGraph_none hf) fun r c₁ h₁ => ?_
      obtain ⟨rfl, rfl⟩ := h₁
      rw [if_pos (by decide), sat_pure]
      exact ⟨refl_of Ctx.WalkStep c₁, h.aifs, .inr ⟨by decide, rfl, fun _ => hf⟩⟩
    | some f =>
      have hsome : c.face.isSome := by rw [hf]; rfl
      refine Sat.bind (sat_graphStart_ok h.noFail hsome) fun r c₁ h₁ => ?_
      obtain ⟨rfl, s₁, hin⟩ := h₁
      rw [if_neg (fun h => h rfl), sat_pure]
      refine ⟨s₁.aifStep.walkStep, ?_, .inl ⟨rfl, hin.snd hsome⟩⟩
      rw [s₁.aifPool]
      exact h.aifs

/-- A loop that stops the started devices leaves the graph object, and no back end prepared. -/
theorem sat_stopAll {state : AifState} (hs : state ≠ .prepared) (ret : Int) {c : Ctx}
    (ha : ∀ a ∈ c.sess.aifPool, a.state ≠ .prepared) :
    Sat (mapEachAif (stopAif state) ret) c fun _ c' => c.WalkStep c' ∧ c'.face = c.face ∧
      ∀ a ∈ c'.sess.aifPool, a.state ≠ .prepared := by
  refine (sat_mapEachAif_rel (I := fun c' => c.WalkStep c' ∧ c'.face = c.face)
    (S := fun a b => a.state ≠ .prepared → b.state ≠ .prepared) (fun _ _ h => ⟨⟨h.1.sess, h.1.hw⟩, h.2⟩)
    (fun ret a c₁ h₁ => ?_) ⟨refl_of Ctx.WalkStep c, rfl⟩).mono fun _ c₂ h₂ => ?_
  · refine (sat_stopAif state ret a c₁).mono fun p c₂ h₂ => ?_
    obtain ⟨s₂, hs₂, h₂⟩ := h₂
    refine ⟨⟨trans_of Ctx.WalkStep h₁.1 s₂.walkStep, ?_⟩, fun ha => ?_⟩
    · rw [Ctx.face, hs₂]
      exact h₁.2
    · rcases h₂ with ⟨-, hp, -⟩ | ⟨-, hp, -⟩
      · rw [hp]
        exact hs
      · rw [hp]
        exact ha
  · refine ⟨h₂.1.1, h₂.1.2, fun b hb => ?_⟩
    obtain ⟨a, ha', hab⟩ := exists_mem_of_forall₂ h₂.2 hb
    exact hab (ha a ha')

theorem sim_sessionStart {c : Ctx} (h : c.Sim) : Sat sessionStart c fun _ c' => c'.Sim := by
  have hstop {c₁ : Ctx} (h₁ : c₁.Sim) (r : Int) : Sat (startDeviceStop >>= fun _ => pure r) c₁ fun _ c' => c'.Sim := by
    have hall : Sat startDeviceStop c₁ fun _ c' => c'.Sim := by
      unfold startDeviceStop
      rw [sat_bind, sat_get, sat_ite, sat_pure]
      refine ⟨fun _ => Sat.bind (sat_stopAll (by decide) 0 h₁.aifs) fun _ c₂ h₂ => (sat_pure _ _ _).2 ?_, fun _ => h₁⟩
      exact h₁.same h₂.1.hw h₂.2.1 h₂.1.state h₂.2.2
    exact Sat.bind hall fun _ c₂ h₂ => (sat_pure _ _ _).2 h₂
  refine Sat.bind (sat_sessionStartBody_sim h) fun e c₁ h₁ => ?_
  obtain ⟨s₁, ha₁, h₁⟩ := h₁
  rcases h₁ with ⟨rfl, hg⟩ | ⟨hne, hf, hun⟩
  · rw [if_neg (fun h => h rfl), sat_bind, sat_modSess, sat_pure]
    exact h.step s₁.hw hg ha₁
  have h₁ : c₁.Sim := h.same s₁.hw hf s₁.state ha₁
  cases he : e.1 with
  | done =>
    rw [if_pos hne, sat_pure]
    exact h₁
  | unwind =>
    -- only a session without a graph object comes here, and to stop it changes nothing
    have hnone : c₁.face = none := hf.trans (hun he)
    refine Sat.bind (sat_graphStop c₁) fun _ c₂ h₂ => ?_
    refine hstop (h₁.same h₂.1.hw.later ?_ h₂.1.state ?_) e.2
    · rw [h₂.2.none hnone, hnone]
    · rw [h₂.1.aifPool]
      exact ha₁
  | deviceStop => exact hstop h₁ e.2

theorem sim_sessionStop {c : Ctx} (h : c.Sim)
    (hd : c.sess.streamConfig.dir = RX ∨ c.sess.streamConfig.dir = TX) : Sat sessionStop c fun _ c' => c'.Sim := by
  have hstop {c₁ : Ctx} (h₁ : c₁.hw.NoFail) (hsome : c₁.face.isSome) : Sat (graphStop none) c₁ fun r c' =>
      r = 0 ∧ c₁.WalkStep c' ∧ c'.sess.aifPool = c₁.sess.aifPool ∧ c'.face.map Prod.snd = some .stopped := by
    refine (sat_graphStop_ok h₁ hsome).mono fun r c₂ h₂ => ?_
    exact ⟨h₂.1, h₂.2.1.aifStep.walkStep, h₂.2.1.aifPool, h₂.2.2.snd hsome⟩
  unfold sessionStop
  rw [sat_bind, sat_get, sat_ite, sat_pure]
  refine ⟨fun _ => h, fun hs => ?_⟩
  have hsome : c.face.isSome := h.isSome (by rw [Decidable.not_not.1 hs]; decide)
  rw [sat_ite]
  constructor
  · intro _
    have hRX : Sat (onlyIf (c.sess.streamConfig.dir = RX) (graphStop none)) c fun r c' => r = 0 ∧ c.WalkStep c' ∧
        c'.sess.aifPool = c.sess.aifPool ∧ c'.face.isSome ∧
        (c.sess.streamConfig.dir = RX → c'.face.map Prod.snd = some .stopped) := by
      rw [sat_onlyIf]
      refine ⟨fun _ => (hstop h.noFail hsome).mono fun r c' h' => ?_, fun hne => ?_⟩
      · refine ⟨h'.1, h'.2.1, h'.2.2.1, ?_, fun _ => h'.2.2.2⟩
        have := congrArg Option.isSome h'.2.2.2
        rwa [Option.isSome_map] at this
      · exact ⟨rfl, refl_of Ctx.WalkStep c, rfl, hsome, fun h => absurd h hne⟩
    refine Sat.bind hRX fun r c₁ h₁ => ?_
    obtain ⟨rfl, s₁, hl₁, hsome₁, hg₁⟩ := h₁
    rw [if_neg (fun h => h rfl)]
    refine Sat.bind (sat_stopAll (by decide) 0 (hl₁ ▸ h.aifs)) fun r c₂ h₂ => ?_
    obtain ⟨s₂, hf₂, ha₂⟩ := h₂
    have hTX : Sat (onlyIf (c.sess.streamConfig.dir = TX) (graphStop none)) c₂ fun _ c' => c₂.WalkStep c' ∧
        c'.sess.aifPool = c₂.sess.aifPool ∧ c'.face.map Prod.snd = some .stopped := by
      rw [sat_onlyIf]
      refine ⟨fun _ => ?_, fun hne => ⟨refl_of Ctx.WalkStep c₂, rfl, ?_⟩⟩
      · have hc₂ : c₂.hw.NoFail := h.noFail.later (trans_of Hw.Later s₁.hw s₂.hw)
        exact (hstop hc₂ (hf₂ ▸ hsome₁)).mono fun _ _ h' => h'.2
      · rw [hf₂]
        exact hg₁ (hd.resolve_right hne)
    refine Sat.bind hTX fun r c₃ h₃ => ?_
    obtain ⟨s₃, hl₃, hg₃⟩ := h₃
    rw [sat_bind, sat_modSess, sat_pure]
    exact h.step (trans_of Hw.Later (trans_of Hw.Later s₁.hw s₂.hw) s₃.hw) hg₃ (hl₃ ▸ ha₂)
  · intro _
    refine Sat.bind (hstop h.noFail hsome) fun r c₁ h₁ => ?_
    obtain ⟨-, s₁, hl₁, hg₁⟩ := h₁
    rw [sat_bind, sat_modSess, sat_pure]
    exact h.step s₁.hw hg₁ (hl₁ ▸ h.aifs)

/-! ## Closing and opening -/

theorem sim_sessionClose {c : Ctx} (h : c.Sim) : Sat sessionClose c fun _ c' => c'.Sim := by
  have hwalk (c₁ : Ctx) (ret : Int) (ha : ∀ a ∈ c₁.sess.aifPool, a.state ≠ .prepared) :
      Sat (mapEachAif closeAif ret) c₁ fun _ c' => c'.face = c₁.face ∧
        ∀ a ∈ c'.sess.aifPool, a.state ≠ .prepared := by
    refine (sat_mapEachAif_rel (I := fun c' => c'.face = c₁.face)
      (S := fun a b => a.state ≠ .prepared → b.state ≠ .prepared) (fun _ _ h => h) (fun ret a c₂ h₂ => ?_)
      (c := c₁) rfl).mono fun _ c₂ h₂ => ⟨h₂.1, fun b hb => ?_⟩
    · refine (sat_closeAif ret a c₂).mono fun p c₃ h₃ => ?_
      obtain ⟨-, hs₃, h₃⟩ := h₃
      refine ⟨by rw [Ctx.face, hs₃]; exact h₂, fun ha => ?_⟩
      rcases h₃ with ⟨-, hp, -⟩ | ⟨-, hp, -⟩
      · rw [hp]
        exact fun h => AifState.noConfusion h
      · rw [hp]
        exact ha
    · obtain ⟨a, ha', hab⟩ := exists_mem_of_forall₂ h₂.2 hb
      exact hab (ha a ha')
  have hclose : Sat sessionClose c fun _ c' => c.sess.state ≠ .closed → c'.face = none ∧ c'.sess.state = .closed ∧
      ∀ a ∈ c'.sess.aifPool, a.state ≠ .prepared := by
    unfold sessionClose
    rw [sat_bind, sat_get, sat_ite, sat_pure]
    refine ⟨fun hc hne => absurd hc hne, fun _ => ?_⟩
    refine Sat.bind (within_onlyIf (fun c => (sat_graphStop c).mono fun _ _ h => h.1) c) fun _ c₁ s₁ => ?_
    refine Sat.bind (sat_graphClose c₁) fun ret c₂ h₂ => ?_
    rw [sat_bind, sat_modSess]
    have hl : c₂.sess.aifPool = c.sess.aifPool := h₂.1.aifPool.trans s₁.aifPool
    have ha₂ : ∀ a ∈ c₂.sess.aifPool, a.state ≠ .prepared := by
      rw [hl]
      exact h.aifs
    have hnone : Sat (onlyIf c.sess.hasDevices (mapEachAif closeAif ret))
        { c₂ with sess := { c₂.sess with ecRefState := false, loopbackState := false } } fun _ c' =>
        c'.face = none ∧ ∀ a ∈ c'.sess.aifPool, a.state ≠ .prepared := by
      have hf : Ctx.face { c₂ with sess := { c₂.sess with ecRefState := false, loopbackState := false } } = none :=
        Ctx.face_eq_none.2 h₂.2.1
      rw [sat_onlyIf]
      refine ⟨fun _ => (hwalk _ ret ?_).mono fun _ _ h => ⟨h.1.trans hf, h.2⟩, fun _ => ⟨hf, ha₂⟩⟩
      exact ha₂
    refine Sat.bind hnone fun _ c₃ h₃ => ?_
    rw [sat_bind, sat_modSess, sat_pure]
    exact fun _ => ⟨h₃.1, rfl, h₃.2⟩
  by_cases hc : c.sess.state = .closed
  · unfold sessionClose
    rw [sat_bind, sat_get, if_pos hc, sat_pure]
    exact h
  · refine (hclose.and (grows_sessionClose c)).mono fun _ c' h' => ?_
    obtain ⟨hf, hs, ha⟩ := h'.1 hc
    exact h.step h'.2.hw (by rw [hf, hs]; rfl) ha

theorem sim_sessionObjOpen {mode : SessMode} {c : Ctx} (h : c.Sim)
    (hg : ¬ (c.sess.state = .closed ∧ mode.hasDevices ∧ losesError mode c)) :
    Sat (sessionObjOpen mode) c fun _ c' => c'.Sim := by
  by_cases hc : c.sess.state = .closed
  · have hf := h.face_none hc
    have hok {c' : Ctx} (hst : c'.sess.state = .opened) (hsome : c'.face.isSome)
        (hface : c'.face = c.face ∨ ∃ k, c'.face = some (k, .opened)) :
        c'.face.map Prod.snd = graphStateOf c'.sess.state := by
      rw [hst]
      rcases hface with hface | ⟨k, hface⟩
      · rw [hface, hf] at hsome
        cases hsome
      · rw [hface]
        rfl
    have hno {c' : Ctx} (hst : c'.sess.state = .closed) (hface : c'.face = none ∨ c'.face = c.face) :
        c'.face.map Prod.snd = graphStateOf c'.sess.state := by
      rw [hst, hface.elim id fun h => h.trans hf]
      rfl
    have hgraph : Sat (sessionObjOpen mode) c fun _ c' => c'.face.map Prod.snd = graphStateOf c'.sess.state := by
      by_cases hm : mode.hasDevices
      · refine (sat_sessionObjOpen_devices hm hc).mono fun r c' h' => ?_
        rcases h' with ⟨-, hst, -, hsome, hface, -⟩ | ⟨-, -, hl, -⟩ | ⟨-, hst, -, hface, -⟩
        · exact hok hst hsome hface
        · exact absurd ⟨hc, hm, hl⟩ hg
        · exact hno hst hface
      · refine (sat_sessionObjOpen_bare hm hc).mono fun r c' h' => ?_
        rcases h' with ⟨-, hst, hsome, hface, -⟩ | ⟨-, hst, hface, -⟩
        · exact hok hst hsome hface
        · exact hno hst hface
    refine ((hgraph.and (within_inv.1 ((openTurns_never (by decide) (by decide)).sessionObjOpen mode) c h.aifs)).and
      (grows_run (.open mode) c)).mono fun _ c' h' => ?_
    exact h.step h'.2.hw h'.1.1 h'.1.2
  · unfold sessionObjOpen
    rw [sat_bind, sat_get, if_pos hc, sat_pure]
    exact h

/-! ## Connecting and disconnecting -/

theorem Ctx.Sim.setAif {c : Ctx} (h : c.Sim) (i : Nat) {b : Aif} (hb : b.state ≠ .prepared) :
    Ctx.Sim { c with sess := c.sess.setAif i b } := by
  refine h.same (refl_of Hw.Later c.hw) rfl rfl fun a ha => ?_
  rcases List.mem_or_eq_of_mem_set ha with ha | rfl
  · exact h.aifs a ha
  · exact hb

theorem Ctx.Sim.aifAt {c : Ctx} (h : c.Sim) (i : Nat) : (c.sess.aifAt i).state ≠ .prepared :=
  (forall_mem_iff_getD (p := fun a => a.state ≠ .prepared) (by decide)).1 h.aifs i

theorem sim_connectAt {i : Nat} {c : Ctx} (h : c.Sim) (hs : c.sess.state ≠ .closed) (n : Nat) :
    Sat (connectAt i n) c fun _ c' => c'.Sim ∧ c'.sess.state = c.sess.state := by
  have hface := sat_connectToOpened_face (Q := fun _ f => f = c.face)
    ((sat_sessionConnectAif_face (c.sess.aifAt i) n c).mono fun p c' h' => by
      split at h'
      · rw [if_neg (not_connectCleansUp _ _ hs h.noFail (h.isSome hs))] at h'
        exact h'
      · exact h')
  have hstate : Sat (connectToOpened (c.sess.aifAt i) n) c fun p _ => p.2.state ≠ .prepared := by
    refine Sat.bind (sat_sessionConnectAif _ n c) fun p c₁ h₁ => ?_
    rw [sat_ite, sat_pure, sat_pure]
    refine ⟨fun _ => ?_, fun _ h => AifState.noConfusion h⟩
    rw [Aif.state_of_base h₁.2.1]
    exact h.aifAt i
  unfold connectAt
  rw [sat_bind, sat_get]
  refine Sat.bind ((hface.and hstate).and (aifStep_connectToOpened _ n c)) fun p c₁ h₁ => ?_
  obtain ⟨⟨hf₁, hp⟩, s₁⟩ := h₁
  rw [sat_bind, sat_modSess, sat_pure]
  have h₁ : c₁.Sim := h.same s₁.hw hf₁ s₁.state (by rw [s₁.aifPool]; exact h.aifs)
  exact ⟨h₁.setAif i hp, s₁.state⟩

theorem sim_sessionDisconnectAif (a : Aif) (n : Nat) {c : Ctx} (h : c.Sim) :
    Sat (sessionDisconnectAif a n) c fun _ c' => c'.Sim := by
  refine (sat_sessionDisconnectAif a n c).mono fun _ c' h' => ?_
  refine h.same h'.1.hw h'.2.1 h'.1.state ?_
  rw [h'.1.aifPool]
  exact h.aifs

theorem sim_hotConnect {i n : Nat} {c : Ctx} (h : c.Sim) : Sat (hotConnect i n) c fun _ c' => c'.Sim := by
  have hbody : Sat (hotConnectBody i n) c fun _ c' => c'.Sim := by
    unfold hotConnectBody
    rw [sat_bind, sat_get, sat_ite]
    constructor
    · intro _
      rw [sat_bind, sat_modSess, sat_pure]
      exact h.setAif i fun h => AifState.noConfusion h
    intro hs
    refine Sat.bind (sim_connectAt h hs n) fun r c₁ h₁ => ?_
    rw [sat_ite, sat_pure]
    refine ⟨fun _ => h₁.1, fun _ => ?_⟩
    rw [sat_ite, sat_pure]
    refine ⟨fun _ => h₁.1, fun _ => Sat.bind (sim_sessionPrepare h₁.1) fun r c₂ h₂ => ?_⟩
    rw [sat_ite, sat_pure]
    refine ⟨fun _ => h₂, fun _ => ?_⟩
    rw [sat_ite, sat_pure]
    refine ⟨fun _ => Sat.bind (sim_sessionStart h₂) fun r c₃ h₃ => ?_, fun _ => h₂⟩
    rw [sat_ite, sat_pure, sat_pure]
    exact ⟨fun _ => h₃, fun _ => h₃⟩
  refine Sat.bind hbody fun e c₁ h₁ => ?_
  cases e.1 with
  | done => exact (sat_pure _ _ _).2 h₁
  | unwind =>
    simp only [sat_bind, sat_modSess, sat_get]
    have hclose := h₁.setAif i (b := { c₁.sess.aifAt i with state := .close }) fun h => AifState.noConfusion h
    refine (sim_sessionDisconnectAif _ _ hclose).mono fun _ c₂ h₂ => ?_
    exact (sat_pure _ _ _).2 h₂

theorem sim_hotDisconnect {i n : Nat} {c : Ctx} (h : c.Sim) : Sat (hotDisconnect i n) c fun _ c' => c'.Sim := by
  have hclose := h.setAif i (b := { c.sess.aifAt i with state := .close }) fun h => AifState.noConfusion h
  unfold hotDisconnect
  rw [sat_bind, sat_modSess, sat_bind, sat_get]
  refine Sat.bind (Q := fun _ c' => c'.Sim) ?_ fun r c₁ h₁ => ?_
  · rw [sat_onlyIf]
    exact ⟨fun _ => sim_sessionDisconnectAif _ n hclose, fun _ => hclose⟩
  · rw [sat_ite, sat_pure, sat_bind, sat_modSess, sat_pure]
    exact ⟨fun _ => h₁, fun _ => h₁.setAif i fun h => AifState.noConfusion h⟩

theorem Ctx.Sim.sets {c c' : Ctx} (h : c.Sim) (s : c.Sets c') : c'.Sim := by
  refine h.same s.hw.later s.face s.state ?_
  refine (forall_mem_iff_getD (p := fun a => a.state ≠ .prepared) (by decide)).2 fun i => ?_
  have hi : (c'.sess.aifPool.getD i default).state = _ := s.aifs i
  rw [hi]
  exact h.aifAt i

theorem sim_sessionObjSessAifConnect (aifId : Nat) (aifState : Bool) {c : Ctx} (h : c.Sim) :
    Sat (sessionObjSessAifConnect aifId aifState) c fun _ c' => c'.Sim := by
  refine Sat.bind (sets_aifObjGet aifId c) fun r c₁ s₁ => ?_
  have h₁ := h.sets s₁
  cases r with
  | error e => exact (sat_pure _ _ _).2 h₁
  | ok i =>
    rw [sat_bind, sat_get, sat_ite, sat_pure, sat_ite]
    exact ⟨fun _ => h₁, fun _ => ⟨fun _ => sim_hotConnect h₁, fun _ => sim_hotDisconnect h₁⟩⟩

/-! ## The service -/

/-- The direction a start and a stop find is `RX` or `TX`, and no open loses its error. -/
def inStep (c : Ctx) : Op → Bool
  | .start | .stop => c.sess.streamConfig.dir = RX || c.sess.streamConfig.dir = TX
  | .open mode => ! (c.sess.state = .closed && mode.hasDevices && losesError mode c)
  | _ => true

theorem sim_run {op : Op} {c : Ctx} (h : c.Sim) (hg : inStep c op) : Sat op.run c fun _ c' => c'.Sim := by
  have hsets (hop : op.onlySets) : Sat op.run c fun _ c' => c'.Sim := (sets_run hop c).mono fun _ _ s => h.sets s
  cases op with
  | sessAifConnect aifId aifState => exact sim_sessionObjSessAifConnect aifId aifState h
  | «open» mode =>
    refine sim_sessionObjOpen h fun ⟨hc, hm, hl⟩ => ?_
    simp [inStep, hc, hm, hl] at hg
  | prepare => exact sim_sessionPrepare h
  | start => exact sim_sessionStart h
  | stop => exact sim_sessionStop h (by simpa [inStep] using hg)
  | close => exact sim_sessionClose h
  | _ => exact hsets rfl

/-- What the runs keep: of every session, and of what the sessions share. -/
structure World.Sim (w : World) : Prop where
  noFail : w.hw.NoFail
  first : w.hw.build.devPrepareFirst = false
  each : w.Each fun s => s.graph.map (·.state) = graphStateOf s.state ∧ ∀ a ∈ s.aifPool, a.state ≠ .prepared

theorem Ctx.face_map_snd (c : Ctx) : c.face.map Prod.snd = c.sess.graph.map (·.state) := by
  rw [Ctx.face, Option.map_map]
  rfl

theorem World.enter_hw (w : World) (o : SessId × Op) : (w.enter o).hw = w.hw := by
  unfold World.enter
  split
  · rfl
  · rfl

/-- Of what the sessions share an operation only uses up answers. -/
theorem later_of_exec {o : SessId × Op} {w w' : World} {r : Int} (h : exec o w = some (r, w')) :
    w.hw.Later w'.hw := by
  refine exec_inv (I := fun w' => w.hw.Later w'.hw) h (refl_of Hw.Later w.hw) (refl_of Hw.Later w.hw) fun _ hl => ?_
  exact (grows_run o.2 _).mono fun _ c hc => trans_of Hw.Later hl hc.hw

theorem sim_step {o : SessId × Op} {w w' : World} {r : Int} (h : exec o w = some (r, w')) (hw : w.Sim)
    (hg : inStep ((w.enter o).lock o.1) o.2) : w'.Sim := by
  have hl := later_of_exec h
  refine ⟨hw.noFail.later hl, hl.build ▸ hw.first, ?_⟩
  refine hw.each.step (fun _ => ⟨rfl, fun _ ha => absurd ha List.not_mem_nil⟩) h fun hs => ?_
  have hsim : ((w.enter o).lock o.1).Sim := by
    refine ⟨?_, ?_, (Ctx.face_map_snd _).trans hs.1, hs.2⟩
    · show (w.enter o).hw.NoFail
      rw [w.enter_hw]
      exact hw.noFail
    · show (w.enter o).hw.build.devPrepareFirst = false
      rw [w.enter_hw]
      exact hw.first
  exact (sim_run hsim hg).mono fun _ c hc => ⟨(Ctx.face_map_snd c).symm.trans hc.graph, hc.aifs⟩

/-- **The graph object follows the session.**  In every state of every run of operations in which no call to GSL or
ALSA fails, in a build that leaves the devices to `session_start`, a session that is closed has no graph object, and
otherwise its graph object is in the state that goes with its own — as long as a start and a stop find the direction
`RX` or `TX`, and no open loses its error.  The mode of the session plays no part in this. -/
theorem graph_follows_session {w₀ w : World} (h₀ : w₀.Fresh) (hf : w₀.hw.NoFail)
    (hb : w₀.hw.build.devPrepareFirst = false)
    (h : Runs exec (fun w o => inStep ((w.enter o).lock o.1) o.2) w₀ w) {s : SessId} (hs : s ∈ w.pool.ids) :
    (w.pool.objs s).graph.map (·.state) = graphStateOf (w.pool.objs s).state := by
  have hstart : w₀.Sim := by
    refine ⟨hf, hb, fun s hs => ⟨?_, fun a ha hp => h₀.aifs s hs a ha (by simp [Aif.isOpened, hp, AifState.rank])⟩⟩
    rw [h₀.graph s hs, h₀.closed s hs]
    rfl
  have key : w.Sim := h.invariant hstart fun _ _ _ _ hw hg he => sim_step he hw hg
  exact (key.each s hs).1

/-- A back end is connected to a running session, one is disconnected, and the session is stopped. -/
theorem graph_follows_session_after_stop :
    ∃ w, Runs exec (fun w o => inStep ((w.enter o).lock o.1) o.2) (World.boot fun _ => []) w ∧ 1 ∈ w.pool.ids ∧
      (w.pool.objs 1).state = .stopped ∧ (w.pool.objs 1).graph.map (·.state) = graphStateOf .stopped := by
  obtain ⟨w, h, hseen⟩ := Runs.exists_of_execAll exec (fun w o => inStep ((w.enter o).lock o.1) o.2)
    [(1, .sessAifConnect 0 true), (1, .open .default), (1, .setConfig { dir := RX } .invalid), (1, .prepare),
      (1, .start), (1, .sessAifConnect 1 true), (1, .sessAifConnect 0 false), (1, .stop)] (World.boot fun _ => [])
    (fun w => (decide (1 ∈ w.pool.ids), (w.pool.objs 1).state)) (b := (true, .stopped)) (by decide +kernel)
  have hs := of_decide_eq_true (Prod.mk.inj hseen).1
  have hst := (Prod.mk.inj hseen).2
  have hg := graph_follows_session (World.fresh_boot _) (fun _ _ _ hr => absurd hr List.not_mem_nil) rfl h hs
  rw [hst] at hg
  exact ⟨w, h, hs, hst, hg⟩

/-- The operations of a session in a mode with devices whose mode stays the one it was opened in. -/
def keepsMode (c : Ctx) : Op → Bool
  | .sessAifConnect _ _ | .prepare | .pause | .resume | .flush | .close => true
  | .start | .stop => c.sess.streamConfig.dir = RX || c.sess.streamConfig.dir = TX
  | .open mode => mode.hasDevices
  | .setConfig cfg _ => cfg.sessMode.hasDevices && (c.sess.state = .closed || cfg.sessMode = c.sess.streamConfig.sessMode)
  | _ => false

/-- A service in which nothing is open, with one session and two back ends; the metadata of the second one, with that
of its device, is one pair too long to be merged. -/
def World.crowded : World where
  pool := ⟨[1], fun s => { sessionObjCreate s with aifPool :=
    [{ aifId := 0, devObj := 0 }, { aifId := 1, devObj := 1, sessAifMeta := { gkv := [⟨48, 0⟩] } }] },
    List.nodup_singleton 1⟩
  hw := { (World.boot fun _ => []).hw with
    devs := fun _ => { metadata := { gkv := (List.range 48).map fun k => ⟨k, 0⟩ } } }

/-- Both back ends are connected and the session is opened: the open loses the error, and the open session has no graph
object, although no call failed. -/
theorem opened_without_graph_of_crowded :
    World.crowded.Fresh ∧ World.crowded.hw.NoFail ∧ World.crowded.hw.build.devPrepareFirst = false ∧
      ∃ w, Runs exec (fun w o => keepsMode ((w.enter o).lock o.1) o.2) World.crowded w ∧ 1 ∈ w.pool.ids ∧
        (w.pool.objs 1).state = .opened ∧ (w.pool.objs 1).graph = none := by
  have hfresh : World.crowded.Fresh := by
    refine ⟨fun _ _ => rfl, fun _ _ => rfl, fun s _ a ha => ?_, fun _ => rfl⟩
    have hall : ∀ a ∈ (World.crowded.pool.objs 1).aifPool, ¬ a.isOpened := by decide
    exact hall a ha
  refine ⟨hfresh, fun _ _ _ hr => absurd hr List.not_mem_nil, rfl, ?_⟩
  obtain ⟨w, h, hseen⟩ := Runs.exists_of_execAll exec (fun w o => keepsMode ((w.enter o).lock o.1) o.2)
    [(1, .sessAifConnect 0 true), (1, .sessAifConnect 1 true), (1, .open .default)] World.crowded
    (fun w => (decide (1 ∈ w.pool.ids), (w.pool.objs 1).state, (w.pool.objs 1).graph)) (b := (true, .opened, none))
    (by decide +kernel)
  have hseen : decide (1 ∈ w.pool.ids) = true ∧ (w.pool.objs 1).state = .opened ∧ (w.pool.objs 1).graph = none := by
    simpa using hseen
  exact ⟨w, h, of_decide_eq_true hseen.1, hseen.2⟩

end Agm.Service
