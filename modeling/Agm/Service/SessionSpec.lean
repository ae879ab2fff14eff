import Agm.Service.ConnectCalls

/-!
# What one back end's turn does

The specifications of the functions that work on one back end: connecting, disconnecting, preparing, starting,
stopping and closing it.  Each says what the function does to the device counts, as one of the effects of `Hw`, and
what it leaves of the session (`Ctx.AifStep`) and of the graph object.
-/

namespace Agm.Service

open Agm.Lib

/-! ## The relations -/

/-- A back end without its cached parameters. -/
def Aif.base (a : Aif) : Aif := { a with params := none, tagConfig := none }

/-- A session without its graph object and its cached parameters. -/
def SessionObj.base (s : SessionObj) : SessionObj := { s with graph := none, params := none }

namespace Ctx

/-- What a turn on one back end may change: the graph object, cached parameters and the devices. -/
structure AifStep (c c' : Ctx) : Prop where
  pool : c'.pool = c.pool
  sess : c'.sess.base = c.sess.base
  hw : c.hw.Later c'.hw

/-- Neither the counts nor the state of the graph object have changed. -/
structure CoreCall (c c' : Ctx) : Prop extends AifStep c c' where
  graph : c'.sess.graph.map GraphObj.face = c.sess.graph.map GraphObj.face
  core : c'.hw.core = c.hw.core

instance : IsPreorder Ctx AifStep where
  refl c := ⟨rfl, rfl, refl_of Hw.Later c.hw⟩
  trans _ _ _ h h' := ⟨h'.pool.trans h.pool, h'.sess.trans h.sess, trans_of Hw.Later h.hw h'.hw⟩

instance : IsPreorder Ctx CoreCall where
  refl c := ⟨refl_of AifStep c, rfl, rfl⟩
  trans _ _ _ h h' :=
    ⟨trans_of AifStep h.toAifStep h'.toAifStep, h'.graph.trans h.graph, h'.core.trans h.core⟩

theorem GraphStep.aifStep {c c' : Ctx} (h : c.GraphStep c') : c.AifStep c' :=
  ⟨h.pool, by
    have := congrArg SessionObj.base h.sess
    exact this, h.hw.later⟩

theorem GraphCall.coreCall {c c' : Ctx} (h : c.GraphCall c') : c.CoreCall c' :=
  ⟨h.aifStep, h.graph, h.hw.core⟩

namespace AifStep

variable {c c' : Ctx} (h : c.AifStep c')

include h

theorem state : c'.sess.state = c.sess.state := by
  have := congrArg SessionObj.state h.sess
  exact this

theorem aifPool : c'.sess.aifPool = c.sess.aifPool := by
  have := congrArg SessionObj.aifPool h.sess
  exact this

theorem streamConfig : c'.sess.streamConfig = c.sess.streamConfig := by
  have := congrArg SessionObj.streamConfig h.sess
  exact this

theorem sessMeta : c'.sess.sessMeta = c.sess.sessMeta := by
  have := congrArg SessionObj.sessMeta h.sess
  exact this

theorem mergedMetadata (a : Aif) : Service.mergedMetadata a c' = Service.mergedMetadata a c := by
  have hb : c'.hw.fixed.build = c.hw.fixed.build := by rw [h.hw.fixed]
  have hd : (c'.hw.fixed.devs a.devObj).metadata = (c.hw.fixed.devs a.devObj).metadata := by rw [h.hw.fixed]
  have hb : c'.hw.build = c.hw.build := hb
  have hd : (c'.hw.devs a.devObj).metadata = (c.hw.devs a.devObj).metadata := hd
  unfold Service.mergedMetadata
  rw [hb, hd, h.sessMeta]

end AifStep

end Ctx

/-- What a device call may do, seen from the session. -/
theorem sat_onHw_later {α : Type} {m : Prog Hw α} {c : Ctx} {Q : α → Hw → Prop}
    (h : Sat m c.hw fun r hw' => c.hw.Later hw' ∧ Q r hw') :
    Sat (onHw m) c fun r c' => c.AifStep c' ∧ c'.sess = c.sess ∧ Q r c'.hw :=
  (sat_onHw m c _).2 (h.mono fun _ _ h => ⟨⟨rfl, rfl, h.1⟩, rfl, h.2⟩)

/-! ## Cached parameters -/

theorem core_sessionApplyAifDeviceParams (d : DevId) : Within Ctx.CoreCall (sessionApplyAifDeviceParams d) := by
  refine within_bind within_get fun c => ?_
  cases (c.hw.devs d).params with
  | none => exact within_pure _
  | some p =>
    refine within_ite (within_pure _) (within_bind ((callFrame_graphCall.graphSetConfig p).mono fun _ _ h => h.coreCall) fun _ =>
      within_bind (fun c => ?_) fun _ => within_pure _)
    rw [sat_onHw, sat_modify]
    refine ⟨⟨rfl, rfl, Hw.fixed_setDev rfl, fun _ => List.suffix_refl _, List.suffix_refl _, Nat.le_refl _⟩, rfl, ?_⟩
    show (c.hw.setDev d _).core = c.hw.core
    simp only [Hw.core, Hw.setDev, Hw.mk.injEq, true_and, and_true]
    funext d'
    by_cases h : d' = d <;> simp [h]

theorem core_sessionApplyParams : Within Ctx.CoreCall sessionApplyParams := by
  refine within_bind within_get fun c => ?_
  cases c.sess.params with
  | none => exact within_pure _
  | some p =>
    refine within_ite (within_bind ((callFrame_graphCall.graphSetConfig p).mono fun _ _ h => h.coreCall) fun _ =>
      within_bind (within_modify fun c => ?_) fun _ => within_pure _) (within_pure _)
    exact ⟨⟨rfl, rfl, refl_of Hw.Later c.hw⟩, rfl, rfl⟩

theorem sat_sessionApplyAifParams (a : Aif) (c : Ctx) :
    Sat (sessionApplyAifParams a) c fun p c' => c.CoreCall c' ∧ p.2.base = a.base := by
  unfold sessionApplyAifParams
  cases a.params with
  | none => exact (sat_pure _ _ _).2 ⟨refl_of Ctx.CoreCall c, rfl⟩
  | some p =>
    refine Sat.bind (callFrame_graphCall.graphSetConfig p c) fun r c₁ h₁ => ?_
    rw [sat_ite, sat_pure, sat_pure]
    exact ⟨fun _ => ⟨h₁.coreCall, rfl⟩, fun _ => ⟨h₁.coreCall, rfl⟩⟩

theorem sat_sessionApplyAifTagParams (merged : Metadata) (a : Aif) (c : Ctx) :
    Sat (sessionApplyAifTagParams merged a) c fun p c' => c.CoreCall c' ∧ p.2.base = a.base := by
  unfold sessionApplyAifTagParams
  cases a.tagConfig with
  | none => exact (sat_pure _ _ _).2 ⟨refl_of Ctx.CoreCall c, rfl⟩
  | some cfg =>
    refine Sat.bind (callFrame_graphCall.graphSetConfigWithTag merged.gkv cfg c) fun r c₁ h₁ => ?_
    exact (sat_pure _ _ _).2 ⟨h₁.coreCall, rfl⟩

/-- Steps 2.c to 2.f of `session_connect_aif` only set parameters. -/
theorem sat_sessionApplyCached (merged : Metadata) (a : Aif) (c : Ctx) :
    Sat (sessionApplyCached merged a) c fun p c' => c.CoreCall c' ∧ p.2.base = a.base := by
  refine Sat.bind (core_sessionApplyParams c) fun r c₁ h₁ => ?_
  rw [sat_ite, sat_pure]
  refine ⟨fun _ => ⟨h₁, rfl⟩, fun _ => ?_⟩
  refine Sat.bind (sat_sessionApplyAifParams a c₁) fun p c₂ h₂ => ?_
  have h₁₂ := trans_of Ctx.CoreCall h₁ h₂.1
  rw [sat_ite, sat_pure]
  refine ⟨fun _ => ⟨h₁₂, h₂.2⟩, fun _ => ?_⟩
  refine Sat.bind (core_sessionApplyAifDeviceParams a.devObj c₂) fun r c₃ h₃ => ?_
  have h₁₃ := trans_of Ctx.CoreCall h₁₂ h₃
  rw [sat_ite, sat_pure]
  refine ⟨fun _ => ⟨h₁₃, h₂.2⟩, fun _ => ?_⟩
  exact (sat_sessionApplyAifTagParams merged p.2 c₃).mono fun q c₄ h₄ =>
    ⟨trans_of Ctx.CoreCall h₁₃ h₄.1, h₄.2.trans h₂.2⟩

/-! ## Connecting -/

/-- Step 2.b: what it does to the graph object. -/
theorem sat_sessionConnectGraph (merged : Metadata) (a : Aif) (n : Nat) (c : Ctx) :
    Sat (sessionConnectGraph merged a n) c fun p c' => c.GraphStep c' ∧
      (p.1 = .closeDevice ∨ p.1 = .graphCleanup merged) ∧
      if n = 0 ∧ c.sess.state = .closed then
        (p.2 = 0 → c'.sess.graph.isSome) ∧
        (c'.sess.graph = c.sess.graph ∨
          (∃ g, c'.sess.graph = some g ∧ g.state = .opened ∧ g.handle = c.hw.nextHandle)) ∧
        (p.1 = .closeDevice → p.2 ≠ 0 ∧ c'.sess.graph = c.sess.graph)
      else p.1 = .closeDevice ∧ c'.sess.graph.map GraphObj.face = c.sess.graph.map GraphObj.face := by
  unfold sessionConnectGraph
  rw [sat_bind, sat_get, sat_ite]
  constructor
  · intro hn
    rw [sat_ite]
    constructor
    · intro hc
      simp only [hn, hc, and_self, if_true]
      refine Sat.bind (sat_graphOpen c merged (some a.devObj)) fun r c₁ h₁ => ?_
      rw [sat_ite, sat_pure]
      constructor
      · intro hr
        have hg : c₁.sess.graph = c.sess.graph := by
          rcases h₁.2 with h | h
          · exact h
          · exact absurd h.1 hr
        exact ⟨h₁.1, .inl rfl, fun h0 => absurd h0 hr, .inl hg, fun _ => ⟨hr, hg⟩⟩
      · intro _
        have hreg : Sat graphRegisterCb c₁ fun r c' => c₁ = c' ∧ (r = 0 → c'.sess.graph.isSome) := by
          refine sat_withGraph c₁ (fun _ => ⟨rfl, fun h => absurd h (by decide)⟩) fun g hg => ?_
          rw [sat_pure, hg]
          exact ⟨rfl, fun _ => rfl⟩
        refine Sat.bind hreg fun r c₂ h₂ => ?_
        obtain ⟨rfl, h₂⟩ := h₂
        rw [sat_pure]
        refine ⟨h₁.1, .inr rfl, h₂, ?_, fun h => nomatch h⟩
        rcases h₁.2 with h | h
        · exact .inl h
        · exact .inr h.2
    · intro hc
      have hnc : ¬ (n = 0 ∧ c.sess.state = .closed) := fun h => hc h.2
      simp only [if_neg hnc]
      refine Sat.bind (call_graphChange merged (some a.devObj) c) fun r c₁ h₁ => ?_
      exact (sat_pure _ _ _).2 ⟨h₁.toGraphStep, .inl rfl, rfl, h₁.graph⟩
  · intro hn
    have hnc : ¬ (n = 0 ∧ c.sess.state = .closed) := fun h => hn h.1
    simp only [if_neg hnc]
    refine Sat.bind (call_graphAdd merged _ (some a.devObj) c) fun r c₁ h₁ => ?_
    exact (sat_pure _ _ _).2 ⟨h₁.toGraphStep, .inl rfl, rfl, h₁.graph⟩

/-- **The body of `session_connect_aif`.**  It takes one reference to the device unless it fails before that, and it
reports success only at the label `done`. -/
theorem sat_sessionConnectBody (a : Aif) (n : Nat) (c : Ctx) :
    Sat (sessionConnectBody a n) c fun e c' => c.AifStep c' ∧ e.aif.base = a.base ∧
      ((e.label = .done ∧ e.ret = 0 ∧ (mergedMetadata a c).isSome ∧ c'.hw.core = c.hw.core.opened a.devObj) ∨
        (e.label = .done ∧ e.ret ≠ 0 ∧ c'.hw.core = c.hw.core) ∨
        (e.label ≠ .done ∧ e.ret ≠ 0 ∧ c'.hw.core = c.hw.core.opened a.devObj)) := by
  unfold sessionConnectBody
  rw [sat_bind, sat_get]
  cases hm : mergedMetadata a c with
  | none => exact (sat_pure _ _ _).2 ⟨refl_of Ctx.AifStep c, rfl, .inr (.inl ⟨rfl, show -ENOMEM ≠ 0 by decide, rfl⟩)⟩
  | some merged =>
    refine Sat.bind (sat_onHw_later (sat_deviceOpen a.devObj c.hw)) fun r c₁ h₁ => ?_
    obtain ⟨s₁, -, h₁⟩ := h₁
    rw [sat_ite, sat_pure]
    constructor
    · intro hr
      rcases h₁ with h | h
      · exact absurd h.1 hr
      · exact ⟨s₁, rfl, .inr (.inl ⟨rfl, hr, h.2⟩)⟩
    · intro hr
      have hcore : c₁.hw.core = c.hw.core.opened a.devObj := by
        rcases h₁ with h | h
        · exact h.2
        · exact absurd h.1 hr
      refine Sat.bind (sat_sessionConnectGraph merged a n c₁) fun p c₂ h₂ => ?_
      have s₂ := trans_of Ctx.AifStep s₁ h₂.1.aifStep
      have hcore₂ := h₂.1.hw.core.trans hcore
      have hlabel : p.1 ≠ .done := by
        rcases h₂.2.1 with h | h <;> simp [h]
      rw [sat_ite, sat_pure]
      refine ⟨fun hp => ⟨s₂, rfl, .inr (.inr ⟨hlabel, hp, hcore₂⟩)⟩, fun _ => ?_⟩
      refine Sat.bind (sat_sessionApplyCached merged a c₂) fun q c₃ h₃ => ?_
      have s₃ := trans_of Ctx.AifStep s₂ h₃.1.toAifStep
      have hcore₃ := h₃.1.core.trans hcore₂
      rw [sat_ite, sat_pure, sat_pure]
      exact ⟨fun hq => ⟨s₃, h₃.2, .inr (.inr ⟨by simp, hq, hcore₃⟩)⟩,
        fun _ => ⟨s₃, h₃.2, .inl ⟨rfl, rfl, rfl, hcore₃⟩⟩⟩

theorem sat_closeDevice (a : Aif) (c : Ctx) :
    Sat (closeDevice a) c fun a' c' => c.AifStep c' ∧ c'.sess = c.sess ∧ a'.base = a.base ∧
      c'.hw.core = c.hw.core.closed a.devObj := by
  refine Sat.bind (sat_onHw_later (sat_deviceClose a.devObj c.hw)) fun r c₁ h₁ => ?_
  exact (sat_pure _ _ _).2 ⟨h₁.1, h₁.2.1, rfl, h₁.2.2⟩

theorem step_graphCleanup (merged : Metadata) (a : Aif) (n : Nat) : Within Ctx.GraphStep (graphCleanup merged a n) :=
  within_ite (fun c => (sat_graphClose c).mono fun _ _ h => h.1) (step_of_call (call_graphRemove _ _))

/-- **`session_connect_aif`.**  A success takes one reference to the device; a failure takes none, or gives back the
one it took. -/
theorem sat_sessionConnectAif (a : Aif) (n : Nat) (c : Ctx) :
    Sat (sessionConnectAif a n) c fun p c' => c.AifStep c' ∧ p.2.base = a.base ∧
      ((p.1 = 0 ∧ (mergedMetadata a c).isSome ∧ c'.hw.core = c.hw.core.opened a.devObj) ∨
        (p.1 ≠ 0 ∧ (c'.hw.core = c.hw.core ∨ c'.hw.core = (c.hw.core.opened a.devObj).closed a.devObj))) := by
  unfold sessionConnectAif
  refine Sat.bind (sat_sessionConnectBody a n c) fun e c₁ h₁ => ?_
  obtain ⟨s₁, hbase, h₁⟩ := h₁
  have hdev : e.aif.devObj = a.devObj := by
    have := congrArg Aif.devObj hbase
    exact this
  have hclose (c₂ : Ctx) (s₂ : c₁.GraphStep c₂) (hne : e.label ≠ .done) :
      Sat (closeDevice e.aif >>= fun a => pure (e.ret, a)) c₂ fun p c' => c.AifStep c' ∧ p.2.base = a.base ∧
        ((p.1 = 0 ∧ (mergedMetadata a c).isSome ∧ c'.hw.core = c.hw.core.opened a.devObj) ∨
          (p.1 ≠ 0 ∧ (c'.hw.core = c.hw.core ∨ c'.hw.core = (c.hw.core.opened a.devObj).closed a.devObj))) := by
    refine Sat.bind (sat_closeDevice e.aif c₂) fun a' c₃ h₃ => ?_
    obtain ⟨s₃, -, hb, hcore⟩ := h₃
    obtain ⟨hret, hopen⟩ : e.ret ≠ 0 ∧ c₁.hw.core = c.hw.core.opened a.devObj := by
      rcases h₁ with h | h | h
      · exact absurd h.1 hne
      · exact absurd h.1 hne
      · exact h.2
    rw [sat_pure]
    refine ⟨trans_of Ctx.AifStep (trans_of Ctx.AifStep s₁ s₂.aifStep) s₃, hb.trans hbase, .inr ⟨hret, .inr ?_⟩⟩
    rw [hcore, s₂.hw.core, hopen, hdev]
  cases hl : e.label with
  | done =>
    refine (sat_pure _ _ _).2 ⟨s₁, hbase, ?_⟩
    rcases h₁ with h | h | h
    · exact .inl h.2
    · exact .inr ⟨h.2.1, .inl h.2.2⟩
    · exact absurd hl h.1
  | graphCleanup merged =>
    refine Sat.bind (step_graphCleanup merged e.aif n c₁) fun _ c₂ s₂ => ?_
    exact hclose c₂ s₂ (by simp [hl])
  | closeDevice => exact hclose c₁ (refl_of Ctx.GraphStep c₁) (by simp [hl])

/-- The handle and the state of the graph object of the locked session. -/
def Ctx.face (c : Ctx) : Option (Handle × GraphState) := c.sess.graph.map GraphObj.face

theorem sat_sessionConnectBody_face (a : Aif) (n : Nat) (c : Ctx) :
    Sat (sessionConnectBody a n) c fun e c' =>
      if n = 0 ∧ c.sess.state = .closed then
        (c'.face = c.face ∨ ∃ h, c'.face = some (h, .opened)) ∧
        (e.label = .done → e.ret = 0 → c'.face.isSome) ∧
        (e.label = .done → e.ret ≠ 0 → c'.face = c.face) ∧ (e.label = .closeDevice → c'.face = c.face)
      else c'.face = c.face := by
  unfold sessionConnectBody
  rw [sat_bind, sat_get]
  cases mergedMetadata a c with
  | none =>
    rw [sat_pure]
    split
    · exact ⟨.inl rfl, fun _ h0 => absurd h0 (show -ENOMEM ≠ 0 by decide), fun _ _ => rfl, fun _ => rfl⟩
    · rfl
  | some merged =>
    refine Sat.bind (sat_onHw_later (sat_deviceOpen a.devObj c.hw)) fun r c₁ h₁ => ?_
    have hst : c₁.sess.state = c.sess.state := h₁.1.state
    have hf₁ : c₁.face = c.face := by rw [Ctx.face, h₁.2.1, Ctx.face]
    rw [sat_ite, sat_pure]
    constructor
    · intro hr
      split
      · exact ⟨.inl hf₁, fun _ h0 => absurd h0 hr, fun _ _ => hf₁, fun _ => hf₁⟩
      · exact hf₁
    · intro _
      refine Sat.bind (sat_sessionConnectGraph merged a n c₁) fun p c₂ h₂ => ?_
      obtain ⟨-, hlabel, h₂⟩ := h₂
      have happly : Sat (sessionApplyCached merged a >>= fun q =>
          (if q.1 ≠ 0 then pure ⟨.graphCleanup merged, q.1, q.2⟩ else pure ⟨.done, 0, q.2⟩ : M ConnectExit))
          c₂ fun e c' =>
          c'.face = c₂.face ∧ (e.label = .done → e.ret = 0) ∧ e.label ≠ .closeDevice := by
        refine Sat.bind (sat_sessionApplyCached merged a c₂) fun q c₃ h₃ => ?_
        rw [sat_ite, sat_pure, sat_pure]
        exact ⟨fun _ => ⟨h₃.1.graph, (nomatch ·), by simp⟩, fun _ => ⟨h₃.1.graph, fun _ => rfl, by simp⟩⟩
      rw [hst] at h₂
      rw [sat_ite, sat_pure]
      by_cases hcl : n = 0 ∧ c.sess.state = .closed
      · simp only [if_pos hcl] at h₂ ⊢
        have hface : c₂.face = c.face ∨ ∃ h, c₂.face = some (h, .opened) := by
          rcases h₂.2.1 with h | ⟨g, hg, hgs, -⟩
          · exact .inl ((congrArg (Option.map GraphObj.face) h).trans hf₁)
          · exact .inr ⟨g.handle, by rw [Ctx.face, hg, ← hgs]; rfl⟩
        refine ⟨fun hp => ⟨hface, fun h => ?_, fun h => ?_, fun h => ?_⟩, fun hp => ?_⟩
        · rcases hlabel with hl | hl <;> exact absurd (hl.symm.trans h) (by simp)
        · rcases hlabel with hl | hl <;> exact absurd (hl.symm.trans h) (by simp)
        · exact (congrArg (Option.map GraphObj.face) (h₂.2.2 h).2).trans hf₁
        · have hsome : c₂.face.isSome := by
            rw [Ctx.face, Option.isSome_map]
            exact h₂.1 (Decidable.not_not.1 hp)
          refine happly.mono fun e c₃ h₃ => ?_
          rw [h₃.1]
          exact ⟨hface, fun _ _ => hsome, fun h h0 => absurd (h₃.2.1 h) h0, fun h => absurd h h₃.2.2⟩
      · simp only [if_neg hcl] at h₂ ⊢
        have hf₂ : c₂.face = c.face := h₂.2.trans hf₁
        exact ⟨fun _ => hf₂, fun _ => happly.mono fun e c₃ h₃ => h₃.1.trans hf₂⟩

/-- **The graph object after `session_connect_aif`.**  A first connect on a closed session makes one; the clean-up
after a connect that counted no open device drops it; everything else leaves it. -/
theorem sat_sessionConnectAif_face (a : Aif) (n : Nat) (c : Ctx) :
    Sat (sessionConnectAif a n) c fun p c' =>
      if n = 0 then
        if c.sess.state = .closed then
          (p.1 = 0 → c'.face.isSome ∧ (c'.face = c.face ∨ ∃ h, c'.face = some (h, .opened))) ∧
          (p.1 ≠ 0 → c'.face = none ∨ c'.face = c.face)
        else c'.face = if connectCleansUp a n c then none else c.face
      else c'.face = c.face := by
  unfold sessionConnectAif
  have hbody : Sat (sessionConnectBody a n) c fun e c' => sessionConnectBody a n c = some (e, c') :=
    fun _ _ h => h
  refine Sat.bind (((sat_sessionConnectBody_face a n c).and (sat_sessionConnectBody a n c)).and hbody)
    fun e c₁ h₁ => ?_
  obtain ⟨⟨hface, -, -, hret⟩, heq⟩ := h₁
  have hclose (c₂ : Ctx) : Sat (closeDevice e.aif >>= fun a => pure (e.ret, a)) c₂ fun p c' =>
      p.1 = e.ret ∧ c'.face = c₂.face := by
    refine Sat.bind (sat_closeDevice e.aif c₂) fun a' c₃ h₃ => ?_
    rw [sat_pure, Ctx.face, h₃.2.1]
    exact ⟨rfl, rfl⟩
  have hup := connectCleansUp_of heq
  cases hl : e.label with
  | done =>
    rw [hl] at hup
    rw [sat_pure]
    by_cases hn : n = 0
    · by_cases hc : c.sess.state = .closed
      · simp only [hn, hc, and_self, if_true] at hface ⊢
        exact ⟨fun h => ⟨hface.2.1 hl h, hface.1⟩, fun h => .inr (hface.2.2.1 hl h)⟩
      · rw [if_neg (fun h => hc h.2)] at hface
        rw [if_pos hn, if_neg hc, hup]
        exact hface
    · rw [if_neg (fun h => hn h.1)] at hface
      rw [if_neg hn]
      exact hface
  | graphCleanup merged =>
    rw [hl] at hup
    have hne : e.ret ≠ 0 := by
      rcases hret with h | h | h
      · rw [hl] at h; exact nomatch h.1
      · rw [hl] at h; exact nomatch h.1
      · exact h.2.1
    by_cases hn : n = 0
    · simp only [hn, graphCleanup, if_true]
      refine Sat.bind (sat_graphClose c₁) fun _ c₂ h₂ => ?_
      have hnone : c₂.face = none := by rw [Ctx.face, h₂.2.1]; rfl
      refine (hclose c₂).mono fun p c₃ h₃ => ?_
      rw [h₃.1, h₃.2, hnone]
      split
      · exact ⟨fun h => absurd h hne, fun _ => .inl rfl⟩
      · rw [← hn, hup, if_pos rfl]
    · rw [if_neg (fun h => hn h.1)] at hface
      simp only [if_neg hn, graphCleanup]
      refine Sat.bind (call_graphRemove merged _ c₁) fun _ c₂ h₂ => ?_
      refine (hclose c₂).mono fun p c₃ h₃ => ?_
      exact h₃.2.trans (h₂.graph.trans hface)
  | closeDevice =>
    rw [hl] at hup
    have hne : e.ret ≠ 0 := by
      rcases hret with h | h | h
      · rw [hl] at h; exact nomatch h.1
      · rw [hl] at h; exact nomatch h.1
      · exact h.2.1
    refine (hclose c₁).mono fun p c₂ h₂ => ?_
    rw [h₂.1, h₂.2]
    by_cases hn : n = 0
    · by_cases hc : c.sess.state = .closed
      · simp only [hn, hc, and_self, if_true] at hface ⊢
        exact ⟨fun h => absurd h hne, fun _ => .inr (hface.2.2.2 hl)⟩
      · rw [if_neg (fun h => hc h.2)] at hface
        rw [if_pos hn, if_neg hc, hup]
        exact hface
    · rw [if_neg (fun h => hn h.1)] at hface
      rw [if_neg hn]
      exact hface

/-! ## Disconnecting -/

theorem sat_disconnectDevice (a : Aif) (c : Ctx) :
    Sat (disconnectDevice a) c fun _ c' => c.AifStep c' ∧ c'.sess = c.sess ∧
      c'.hw.core = (if c.sess.state = .started then c.hw.core.stopped a.devObj else c.hw.core).closed a.devObj := by
  unfold disconnectDevice
  rw [sat_bind, sat_get, sat_ite]
  constructor
  · intro hs
    simp only [hs, if_true]
    refine Sat.bind (sat_onHw_later (sat_deviceStop a.devObj c.hw)) fun _ c₁ h₁ => ?_
    refine (sat_onHw_later (sat_deviceClose a.devObj c₁.hw)).mono fun _ c₂ h₂ => ?_
    refine ⟨trans_of Ctx.AifStep h₁.1 h₂.1, h₂.2.1.trans h₁.2.1, ?_⟩
    rw [h₂.2.2, h₁.2.2]
  · intro hs
    simp only [if_neg hs]
    exact sat_onHw_later (sat_deviceClose a.devObj c.hw)

/-- **`session_disconnect_aif`.**  It stops the device if the session is started, and gives a reference back; it does
neither if the metadata cannot be merged. -/
theorem sat_sessionDisconnectAif (a : Aif) (n : Nat) (c : Ctx) :
    Sat (sessionDisconnectAif a n) c fun r c' => c.AifStep c' ∧
      c'.face = c.face ∧
      (((mergedMetadata a c).isNone ∧ r ≠ 0 ∧ c'.hw.core = c.hw.core) ∨
        ((mergedMetadata a c).isSome ∧ c'.hw.core =
          (if c.sess.state = .started then c.hw.core.stopped a.devObj else c.hw.core).closed a.devObj)) := by
  unfold sessionDisconnectAif
  rw [sat_bind, sat_get]
  have hdev (c₁ : Ctx) (s₁ : c.GraphCall c₁) : Sat (disconnectDevice a) c₁ fun _ c' => c.AifStep c' ∧
      c'.face = c.face ∧ c'.hw.core =
        (if c.sess.state = .started then c.hw.core.stopped a.devObj else c.hw.core).closed a.devObj := by
    refine (sat_disconnectDevice a c₁).mono fun _ c₂ h₂ => ?_
    refine ⟨trans_of Ctx.AifStep s₁.aifStep h₂.1, ?_, ?_⟩
    · rw [Ctx.face, h₂.2.1]
      exact s₁.graph
    · rw [h₂.2.2, s₁.toGraphStep.state, s₁.hw.core]
  cases hm : mergedMetadata a c with
  | none => exact (sat_pure _ _ _).2 ⟨refl_of Ctx.AifStep c, rfl, .inl ⟨rfl, by decide, rfl⟩⟩
  | some merged =>
    rw [sat_ite]
    constructor
    · intro _
      have hsub : (metadataMerge c.hw.build [some a.sessAifMeta, some (c.hw.devs a.devObj).metadata]).isSome := by
        refine metadataMerge_isSome_of_cons (m := some c.sess.sessMeta) ?_
        show (mergedMetadata a c).isSome
        rw [hm]
        rfl
      cases hs : metadataMerge c.hw.build [some a.sessAifMeta, some (c.hw.devs a.devObj).metadata] with
      | none => rw [hs] at hsub; cases hsub
      | some sessAif =>
        refine Sat.bind (callFrame_graphCall.graphStop _ c) fun _ c₁ s₁ => ?_
        exact (hdev c₁ s₁).mono fun _ c₂ h₂ => ⟨h₂.1, h₂.2.1, .inr ⟨rfl, h₂.2.2⟩⟩
    · intro _
      refine Sat.bind (call_graphRemove merged _ c) fun _ c₁ s₁ => ?_
      exact (hdev c₁ s₁).mono fun _ c₂ h₂ => ⟨h₂.1, h₂.2.1, .inr ⟨rfl, h₂.2.2⟩⟩

/-! ## Preparing, starting, stopping and closing -/

theorem sat_prepareAif (a : Aif) (c : Ctx) :
    Sat (prepareAif a) c fun p c' => c.AifStep c' ∧ c'.sess = c.sess ∧
      ((p = (0, { a with state := .prepared }) ∧ (a.state = .opened ∨ a.state = .stopped) ∧
          c.hw.nOpen (c.hw.pcmObj a.devObj) ≠ 0 ∧ c'.hw.core = c.hw.core.prepared a.devObj) ∨
        (p.2 = a ∧ (p.1 = 0 → ¬ (a.state = .opened ∨ a.state = .stopped)) ∧ c'.hw.core = c.hw.core)) := by
  unfold prepareAif
  rw [sat_ite]
  constructor
  · intro hs
    refine Sat.bind (sat_onHw_later (sat_devicePrepare a.devObj c.hw)) fun r c₁ h₁ => ?_
    obtain ⟨s₁, hsess, h₁⟩ := h₁
    rw [sat_ite, sat_pure, sat_pure]
    refine ⟨fun hr => ⟨s₁, hsess, .inr ⟨rfl, fun h0 => absurd h0 hr, ?_⟩⟩, fun hr => ⟨s₁, hsess, .inl ⟨rfl, hs, ?_⟩⟩⟩
    · rcases h₁ with h | h
      · exact absurd h.1 hr
      · exact h.2
    · rcases h₁ with h | h
      · exact h.2
      · exact absurd h.1 hr
  · intro hs
    exact (sat_pure _ _ _).2 ⟨refl_of Ctx.AifStep c, rfl, .inr ⟨rfl, fun _ => hs, rfl⟩⟩

theorem sat_startAif (a : Aif) (c : Ctx) :
    Sat (startAif a) c fun p c' => c.AifStep c' ∧ c'.sess = c.sess ∧
      ((p = (0, { a with state := .started }) ∧ (a.state = .opened ∨ a.state = .prepared ∨ a.state = .stopped) ∧
          ¬ (c.hw.devs (c.hw.pcmObj a.devObj)).state.rank < DevState.prepared.rank ∧
          c'.hw.core = c.hw.core.started a.devObj) ∨
        (p.2 = a ∧ (p.1 = 0 → ¬ (a.state = .opened ∨ a.state = .prepared ∨ a.state = .stopped)) ∧
          (p.1 ≠ 0 → (c.hw.devs (c.hw.pcmObj a.devObj)).state.rank < DevState.prepared.rank) ∧
          c'.hw.core = c.hw.core)) := by
  unfold startAif
  rw [sat_ite]
  constructor
  · intro hs
    refine Sat.bind (sat_onHw_later (sat_deviceStart a.devObj c.hw)) fun r c₁ h₁ => ?_
    obtain ⟨s₁, hsess, h₁⟩ := h₁
    rw [sat_ite, sat_pure, sat_pure]
    refine ⟨fun hr => ?_, fun hr => ?_⟩
    · rcases h₁ with h | h
      · exact absurd h.1 hr
      · exact ⟨s₁, hsess, .inr ⟨rfl, fun h0 => absurd h0 hr, fun _ => h.2.1, h.2.2⟩⟩
    · rcases h₁ with h | h
      · exact ⟨s₁, hsess, .inl ⟨rfl, hs, h.2⟩⟩
      · exact absurd h.1 hr
  · intro hs
    exact (sat_pure _ _ _).2 ⟨refl_of Ctx.AifStep c, rfl, .inr ⟨rfl, fun _ => hs, fun h => absurd rfl h, rfl⟩⟩

theorem sat_stopAif (state : AifState) (ret : Int) (a : Aif) (c : Ctx) :
    Sat (stopAif state ret a) c fun p c' => c.AifStep c' ∧ c'.sess = c.sess ∧
      ((a.state = .started ∧ p.2 = { a with state := state } ∧ c'.hw.core = c.hw.core.stopped a.devObj) ∨
        (a.state ≠ .started ∧ p = (ret, a) ∧ c'.hw.core = c.hw.core)) := by
  unfold stopAif
  rw [sat_ite]
  constructor
  · intro hs
    refine Sat.bind (sat_onHw_later (sat_deviceStop a.devObj c.hw)) fun r c₁ h₁ => ?_
    exact (sat_pure _ _ _).2 ⟨h₁.1, h₁.2.1, .inl ⟨hs, rfl, h₁.2.2⟩⟩
  · intro hs
    exact (sat_pure _ _ _).2 ⟨refl_of Ctx.AifStep c, rfl, .inr ⟨hs, rfl, rfl⟩⟩

theorem sat_closeAif (ret : Int) (a : Aif) (c : Ctx) :
    Sat (closeAif ret a) c fun p c' => c.AifStep c' ∧ c'.sess = c.sess ∧
      ((a.isOpened ∧ p.2 = { a with state := .closed, tagConfig := none } ∧
          c'.hw.core = c.hw.core.closed a.devObj) ∨
        (¬ a.isOpened ∧ p = (ret, { a with tagConfig := none }) ∧ c'.hw.core = c.hw.core)) := by
  unfold closeAif
  rw [sat_ite]
  constructor
  · intro hs
    refine Sat.bind (sat_onHw_later (sat_deviceClose a.devObj c.hw)) fun r c₁ h₁ => ?_
    exact (sat_pure _ _ _).2 ⟨h₁.1, h₁.2.1, .inl ⟨hs, rfl, h₁.2.2⟩⟩
  · intro hs
    exact (sat_pure _ _ _).2 ⟨refl_of Ctx.AifStep c, rfl, .inr ⟨hs, rfl, rfl⟩⟩

/-! ## Loopback and echo reference -/

/-- A call on the graph object was made, and perhaps a session was created for the other side of a loopback. -/
structure Ctx.EdgeStep (c c' : Ctx) : Prop where
  pool : c.pool.Grows sessionObjCreate c'.pool
  sess : { c'.sess with graph := none } = { c.sess with graph := none }
  hw : c.hw.Quiet c'.hw
  face : c'.face = c.face

instance : IsPreorder Ctx Ctx.EdgeStep where
  refl c := ⟨refl_of _ c.pool, rfl, refl_of Hw.Quiet c.hw, rfl⟩
  trans _ _ _ h h' :=
    ⟨trans_of _ h.pool h'.pool, h'.sess.trans h.sess, trans_of Hw.Quiet h.hw h'.hw, h'.face.trans h.face⟩

theorem Ctx.EdgeStep.aifPool {c c' : Ctx} (h : c.EdgeStep c') : c'.sess.aifPool = c.sess.aifPool := by
  have := congrArg SessionObj.aifPool h.sess
  exact this

theorem Ctx.EdgeStep.streamConfig {c c' : Ctx} (h : c.EdgeStep c') : c'.sess.streamConfig = c.sess.streamConfig := by
  have := congrArg SessionObj.streamConfig h.sess
  exact this

theorem edge_of_call {α : Type} {m : M α} (h : Within Ctx.GraphCall m) : Within Ctx.EdgeStep m :=
  h.mono fun _ _ h => ⟨by rw [h.pool]; exact refl_of _ _, h.sess, h.hw, h.graph⟩

theorem edge_sessionObjGet (id : SessId) : Within Ctx.EdgeStep (sessionObjGet id) :=
  within_modify fun c => ⟨Pool.grows_getOrCreate c.pool id, rfl, refl_of Hw.Quiet c.hw, rfl⟩

theorem edge_setLoopbackEdge (merged : Option Metadata) (pbId : SessId) (enable : Bool) :
    Within Ctx.EdgeStep (setLoopbackEdge merged pbId enable) := by
  cases merged with
  | none => exact within_pure _
  | some merged => exact edge_of_call (within_ite (call_graphAdd _ _ _) (call_graphRemove _ _))

theorem edge_freeMergedMetadata (s : SessionObj) : Within Ctx.EdgeStep (freeMergedMetadata s) :=
  within_ite within_crash (within_pure _)

theorem edge_sessionSetLoopback (pbId : SessId) (enable : Bool) :
    Within Ctx.EdgeStep (sessionSetLoopback pbId enable) := by
  refine within_bind (edge_sessionObjGet pbId) fun _ => within_bind within_get fun c => ?_
  cases sessionGetMergedMetadata c.sess c.hw with
  | none => exact within_pure _
  | some captureMetadata =>
    cases sessionGetMergedMetadata (c.peer pbId) c.hw with
    | none => exact within_bind (edge_freeMergedMetadata _) fun _ => within_pure _
    | some playbackMetadata =>
      exact within_bind (edge_setLoopbackEdge _ _ _) fun _ => within_bind (edge_freeMergedMetadata _) fun _ =>
        within_bind (edge_freeMergedMetadata _) fun _ => within_pure _

theorem edge_sessionSetEcRef (aifId : Nat) (enable : Bool) : Within Ctx.EdgeStep (sessionSetEcRef aifId enable) := by
  refine within_bind within_get fun c => ?_
  cases deviceGetObj aifId c.hw with
  | error e => exact within_pure _
  | ok d =>
    cases sessionGetMergedMetadataWithoutAif c.sess c.hw with
    | none => exact within_pure _
    | some captureMetadata =>
      cases hm : metadataMerge c.hw.build [some captureMetadata, some (c.hw.devs d).metadata] with
      | none => simp only [hm]; exact within_pure _
      | some merged =>
        simp only [hm]
        exact edge_of_call (within_ite (call_graphAdd _ _ _) (call_graphRemove _ _))

theorem edge_sessionStartChecks : Within Ctx.EdgeStep sessionStartChecks := by
  refine within_bind ?_ fun _ => within_ite (within_pure _) ?_
  · refine within_bind within_get fun c => within_ite ?_ (within_pure _)
    exact within_bind (edge_sessionObjGet _) fun _ => within_bind within_get fun _ =>
      within_ite (within_pure _) (within_pure _)
  · refine within_bind within_get fun c => within_ite ?_ (within_pure _)
    cases deviceGetObj c.sess.ecRefAifId c.hw with
    | error e => exact within_pure _
    | ok d => exact within_ite (within_pure _) (within_pure _)

/-! ## Walks over the back ends of the session -/

section

variable {J : Ctx → List Aif → Prop}
  (hset : ∀ c l, J c l → J { c with sess := { c.sess with aifPool := l } } l)

include hset

/-- The rule for `forEachAif`: the invariant is about everything but the list in the session, and about the list of
the walk. -/
theorem sat_forEachAif {body : Aif → M (Int × Aif)}
    (step : ∀ done a todo c, J c (done ++ a :: todo) → Sat (body a) c fun p c' => J c' (done ++ p.2 :: todo))
    {c : Ctx} (h : J c c.sess.aifPool) : Sat (forEachAif body) c fun _ c' => J c' c'.sess.aifPool := by
  unfold forEachAif
  rw [sat_bind, sat_get]
  refine Sat.bind (forEach_inv step h) fun p c₁ h₁ => ?_
  rw [sat_bind, sat_modSess, sat_pure]
  exact hset c₁ p.2 h₁

/-- The rule for `mapEachAif`. -/
theorem sat_mapEachAif {body : Int → Aif → M (Int × Aif)}
    (step : ∀ done a todo ret c, J c (done ++ a :: todo) →
      Sat (body ret a) c fun p c' => J c' (done ++ p.2 :: todo))
    {ret : Int} {c : Ctx} (h : J c c.sess.aifPool) : Sat (mapEachAif body ret) c fun _ c' => J c' c'.sess.aifPool := by
  unfold mapEachAif
  rw [sat_bind, sat_get]
  refine Sat.bind (mapEach_inv step h) fun p c₁ h₁ => ?_
  rw [sat_bind, sat_modSess, sat_pure]
  exact hset c₁ p.2 h₁

end

section

variable {R : Ctx → Ctx → Prop} [IsPreorder Ctx R]
  (hset : ∀ c l, R c { c with sess := { c.sess with aifPool := l } })

include hset

theorem within_forEachAif {body : Aif → M (Int × Aif)} (h : ∀ a, Within R (body a)) : Within R (forEachAif body) :=
  within_bind within_get fun _ => within_bind (within_forEach h _) fun _ =>
    within_bind (within_modify fun c => hset c _) fun _ => within_pure _

theorem within_mapEachAif {body : Int → Aif → M (Int × Aif)} (h : ∀ ret a, Within R (body ret a)) (ret : Int) :
    Within R (mapEachAif body ret) :=
  within_bind within_get fun _ => within_bind (within_mapEach h _ _) fun _ =>
    within_bind (within_modify fun c => hset c _) fun _ => within_pure _

end

end Agm.Service
