import Agm.Service.Graph

/-!
# What the graph layer leaves alone

No function of `graph.c` touches the devices, the pool or the session outside its graph object (`Ctx.GraphStep`), and
all but the five that open, prepare, start, stop and close the graph also leave the handle and the state of the graph
object as they are (`Ctx.GraphCall`).  What the five do to the state of the object is said at the end.
-/

namespace Agm.Service

open Agm.Lib

/-! ## The relations -/

namespace Hw

/-- The state without the outside world. -/
def still (hw : Hw) : Hw := { hw with env := fun _ => [], trace := [], nextHandle := 0, starts := [] }

/-- Only calls were made. -/
structure Quiet (hw hw' : Hw) : Prop where
  still : hw'.still = hw.still
  env : ∀ k, hw'.env k <:+ hw.env k
  trace : hw.trace <:+ hw'.trace
  nextHandle : hw.nextHandle ≤ hw'.nextHandle

instance : IsPreorder Hw Quiet where
  refl _ := ⟨rfl, fun _ => List.suffix_refl _, List.suffix_refl _, Nat.le_refl _⟩
  trans _ _ _ h h' :=
    ⟨h'.still.trans h.still, fun k => (h'.env k).trans (h.env k), h.trace.trans h'.trace,
      Nat.le_trans h.nextHandle h'.nextHandle⟩

theorem Quiet.devs {hw hw' : Hw} (h : hw.Quiet hw') : hw'.devs = hw.devs :=
  show hw'.still.devs = hw.still.devs by rw [h.still]

theorem Quiet.core {hw hw' : Hw} (h : hw.Quiet hw') : hw'.core = hw.core :=
  show hw'.still.core = hw.still.core by rw [h.still]

theorem Quiet.later {hw hw' : Hw} (h : hw.Quiet hw') : hw.Later hw' :=
  ⟨fixed_of_core h.core, h.env, h.trace, h.nextHandle⟩

theorem quiet_called (hw : Hw) (c : Call) : hw.Quiet (hw.called c) :=
  ⟨rfl, (hw.later_called c).env, (hw.later_called c).trace, Nat.le_refl _⟩

end Hw

/-- The handle and the state of a graph object. -/
def GraphObj.face (g : GraphObj) : Handle × GraphState := (g.handle, g.state)

theorem GraphObj.face_configuring (m : ModuleInfo) (g : GraphObj) : (g.configuring m).face = g.face := by simp [face]

namespace Ctx

/-- The graph object of the session may have changed, and calls were made. -/
structure GraphStep (c c' : Ctx) : Prop where
  pool : c'.pool = c.pool
  sess : { c'.sess with graph := none } = { c.sess with graph := none }
  hw : c.hw.Quiet c'.hw

/-- The graph object has the handle and the state it had. -/
structure GraphCall (c c' : Ctx) : Prop extends GraphStep c c' where
  graph : c'.sess.graph.map GraphObj.face = c.sess.graph.map GraphObj.face

instance : IsPreorder Ctx GraphStep where
  refl c := ⟨rfl, rfl, refl_of Hw.Quiet c.hw⟩
  trans _ _ _ h h' := ⟨h'.pool.trans h.pool, h'.sess.trans h.sess, trans_of Hw.Quiet h.hw h'.hw⟩

instance : IsPreorder Ctx GraphCall where
  refl c := ⟨refl_of GraphStep c, rfl⟩
  trans _ _ _ h h' := ⟨trans_of GraphStep h.toGraphStep h'.toGraphStep, h'.graph.trans h.graph⟩

theorem GraphStep.aifPool {c c' : Ctx} (h : c.GraphStep c') : c'.sess.aifPool = c.sess.aifPool := by
  have := congrArg SessionObj.aifPool h.sess
  exact this

theorem GraphStep.state {c c' : Ctx} (h : c.GraphStep c') : c'.sess.state = c.sess.state := by
  have := congrArg SessionObj.state h.sess
  exact this

end Ctx

section

variable {R : Ctx → Ctx → Prop} [IsPreorder Ctx R]

theorem within_withGraph {f : GraphObj → M Int} (h : ∀ g, Within R (f g)) : Within R (withGraph f) := by
  refine within_bind within_get fun c => ?_
  cases c.sess.graph with
  | none => exact within_pure _
  | some g => exact h g

end

/-! ## Frames

A relation between states that plain calls and changes of the module list stay within; whole functions stay within it
too, those that make a call that is not plain if that call does. -/

/-- A call to ALSA. -/
def Call.isPcm : Call → Bool
  | .pcmOpen _ | .pcmPrepare _ | .pcmStop _ | .pcmClose _ => true
  | _ => false

/-- A call to GSL that does not change which graphs it holds. -/
def Call.isPlain : Call → Bool
  | .gslOpen _ _ | .gslClose _ | .addGraph _ _ _ | .changeGraph _ _ | .removeGraph _ _ _ => false
  | k => ! k.isPcm

/-- The state after a call. -/
def Ctx.called (c : Ctx) (k : Call) : Ctx := { c with hw := c.hw.called k }

structure CallFrame (R : Ctx → Ctx → Prop) : Prop where
  ask : ∀ c k, k.isPlain → R c (c.called k)
  modGraph : ∀ c f, (∀ g : GraphObj, (f g).face = g.face) →
    R c { c with sess := { c.sess with graph := c.sess.graph.map f } }

section

variable {R : Ctx → Ctx → Prop}

theorem within_onHw_ask {k : Call} (h : ∀ c : Ctx, R c (c.called k)) : Within R (onHw (ask k)) := fun c => by
  rw [sat_onHw, sat_ask]
  exact h c

theorem within_onHw_askGsl {k : Call} (h : ∀ c : Ctx, R c (c.called k)) : Within R (onHw (askGsl k)) := fun c => by
  rw [sat_onHw, sat_askGsl]
  exact h c

namespace CallFrame

variable (hR : CallFrame R)

include hR

theorem mono {R' : Ctx → Ctx → Prop} (h : ∀ c c', R c c' → R' c c') : CallFrame R' where
  ask c k hk := h _ _ (hR.ask c k hk)
  modGraph c f hf := h _ _ (hR.modGraph c f hf)

theorem within_modGraph {f : GraphObj → GraphObj} (h : ∀ g, (f g).face = g.face) : Within R (Service.modGraph f) :=
  within_modify fun c => hR.modGraph c f h

theorem within_ask (k : Call) (hk : k.isPlain) : Within R (onHw (Service.ask k)) :=
  within_onHw_ask fun c => hR.ask c k hk

theorem within_askGsl (k : Call) (hk : k.isPlain) : Within R (onHw (askGsl k)) :=
  within_onHw_askGsl fun c => hR.ask c k hk

variable [IsPreorder Ctx R]

theorem getTagsWithModuleInfo (gkv : Gkv) : Within R (getTagsWithModuleInfo gkv) :=
  within_bind (hR.within_askGsl _ rfl) fun _ => within_ite (hR.within_askGsl _ rfl) (within_pure _)

omit hR in
theorem graphRegisterCb : Within R graphRegisterCb := within_withGraph fun _ => within_pure _

theorem configureModule (h : Handle) (m : ModuleInfo) : Within R (configureModule h m) :=
  within_bind (hR.within_modGraph (GraphObj.face_configuring m)) fun _ => within_bind (hR.within_ask _ rfl) fun _ =>
    within_ite (within_pure _) (within_pure _)

theorem prepareModule (h : Handle) (cfg : SessionConfig) (m : ModuleInfo) : Within R (prepareModule h cfg m) :=
  within_bind within_get fun _ =>
    within_ite (within_pure _) <| within_ite (within_pure _) <| within_ite (within_pure _) <|
      within_ite (within_ite (within_pure _) (hR.configureModule h m)) (within_pure _)

theorem setBufferParams (h : Handle) (cfg : SessionConfig) : Within R (setBufferParams h cfg) :=
  within_ite (within_bind (hR.within_askGsl _ rfl) fun _ => within_ite (within_pure _) (hR.within_askGsl _ rfl))
    (within_ite (hR.within_askGsl _ rfl) (hR.within_askGsl _ rfl))

theorem configureBufferParams (g : GraphObj) : Within R (configureBufferParams g) :=
  within_bind within_get fun _ => within_ite (within_pure _) <|
    within_bind (hR.setBufferParams _ _) fun _ => within_ite (within_pure _) <|
      within_bind (hR.within_modGraph fun _ => rfl) fun _ => within_pure _

theorem graphStop (md : Metadata) : Within R (graphStop (some md)) :=
  within_withGraph fun _ =>
    within_ite (within_bind (hR.within_ask _ rfl) fun _ => hR.within_askGsl _ rfl) (hR.within_askGsl _ rfl)

theorem addModule (h : Handle) (m : ModuleInfo) : Within R (addModule h m) :=
  within_bind within_get fun _ =>
    within_ite (within_pure _) <| within_ite (within_pure _) <| within_ite (hR.configureModule h m) (within_pure _)

theorem graphAddHwEp (md : Metadata) (dev : Option DevId) : Within R (graphAddHwEp md dev) := by
  cases dev with
  | none => exact within_pure _
  | some d =>
    exact within_bind within_get fun _ => within_bind (hR.within_askGsl _ rfl) fun _ =>
      within_ite (within_pure _) (within_bind (hR.within_modGraph fun _ => rfl) fun _ => within_pure _)

theorem graphAddModules (g : GraphObj) (md : Metadata) (dev : Option DevId) : Within R (graphAddModules g md dev) :=
  within_bind (hR.graphAddHwEp md dev) fun _ => within_ite (within_pure _) <|
    within_ite
      (within_bind within_get fun _ => within_bind (within_forEach (hR.addModule _) _) fun _ =>
        within_bind (hR.within_modGraph fun _ => rfl) fun _ => within_pure _)
      (within_pure _)

theorem graphAdd (md : Metadata) (o : Owner) (dev : Option DevId)
    (h : ∀ (c : Ctx) g, R c (c.called (.addGraph g o md.gkv))) : Within R (graphAdd md o dev) :=
  within_withGraph fun g => within_ite (within_pure _) <|
    within_bind (within_onHw_askGsl fun c => h c _) fun _ => within_ite (within_pure _) (hR.graphAddModules g md dev)

theorem changeModule (h : Handle) (m : ModuleInfo) : Within R (changeModule h m) := by
  refine within_bind within_get fun _ => ?_
  cases m.devObj with
  | none => exact within_pure _
  | some d => exact within_ite (hR.configureModule h m) (within_pure _)

theorem graphChangeModules (md : Metadata) (dev : Option DevId) : Within R (graphChangeModules md dev) := by
  cases dev with
  | none => exact within_pure _
  | some d =>
    exact within_bind within_get fun _ => within_bind (hR.within_askGsl _ rfl) fun _ =>
      within_ite (within_pure _) (within_bind (hR.within_modGraph fun _ => rfl) fun _ => within_pure _)

theorem graphChange (md : Metadata) (dev : Option DevId)
    (h : ∀ (c : Ctx) g, R c (c.called (.changeGraph g md.gkv))) : Within R (graphChange md dev) :=
  within_withGraph fun _ => within_bind (hR.graphChangeModules md dev) fun _ =>
    within_ite (within_pure _) <| within_bind (within_onHw_askGsl fun c => h c _) fun _ => within_ite (within_pure _) <|
      within_bind within_get fun _ => within_bind (within_forEach (hR.changeModule _) _) fun _ =>
        within_bind (hR.within_modGraph fun _ => rfl) fun _ => within_pure _

omit hR in
theorem graphRemove (md : Metadata) (o : Owner) (h : ∀ (c : Ctx) g, R c (c.called (.removeGraph g o md.gkv))) :
    Within R (graphRemove md o) :=
  within_withGraph fun _ => within_onHw_askGsl fun c => h c _

theorem graphSetConfig (payload : Payload) : Within R (graphSetConfig payload) :=
  within_withGraph fun _ => hR.within_askGsl _ rfl

theorem graphSetConfigWithTag (gkv : Gkv) (cfg : TagConfig) : Within R (graphSetConfigWithTag gkv cfg) :=
  within_withGraph fun _ => hR.within_askGsl _ rfl

theorem graphPauseResume (pause : Bool) : Within R (graphPauseResume pause) := by
  refine within_withGraph fun g => ?_
  cases g.taggedModList.find? (fun m => m.tag = .pause) with
  | none => exact within_pure _
  | some m => exact hR.within_askGsl _ rfl

theorem graphFlush : Within R graphFlush := within_withGraph fun _ => hR.within_askGsl _ rfl

theorem graphSuspend : Within R graphSuspend := within_withGraph fun _ => hR.within_askGsl _ rfl

theorem mediaConfigLoop (h : Handle) (ret : Int) (ms : List ModuleInfo) : Within R (mediaConfigLoop h ret ms) := by
  induction ms generalizing ret with
  | nil => exact within_pure _
  | cons m ms ih => exact within_ite (within_bind (hR.within_ask _ rfl) fun r => ih r) (ih ret)

theorem graphSetMediaConfigDatapath (g : GraphObj) : Within R (graphSetMediaConfigDatapath g) :=
  within_bind within_get fun _ => within_ite (hR.mediaConfigLoop _ _ _) (within_pure _)

end CallFrame

end

/-! ## The functions that leave the state of the graph object -/

theorem Ctx.call_called (c : Ctx) (k : Call) : c.GraphCall (c.called k) :=
  ⟨⟨rfl, rfl, c.hw.quiet_called k⟩, rfl⟩

theorem callFrame_graphCall : CallFrame Ctx.GraphCall where
  ask c k _ := c.call_called k
  modGraph c f h := ⟨⟨rfl, rfl, refl_of Hw.Quiet c.hw⟩, by
    show (c.sess.graph.map f).map GraphObj.face = _
    rw [Option.map_map]
    exact congrArg (c.sess.graph.map ·) (funext h)⟩

theorem call_askGsl (k : Call) : Within Ctx.GraphCall (onHw (askGsl k)) := within_onHw_askGsl fun c => c.call_called k

theorem call_graphAdd (md : Metadata) (o : Owner) (dev : Option DevId) : Within Ctx.GraphCall (graphAdd md o dev) :=
  callFrame_graphCall.graphAdd md o dev fun c _ => c.call_called _

theorem call_graphChange (md : Metadata) (dev : Option DevId) : Within Ctx.GraphCall (graphChange md dev) :=
  callFrame_graphCall.graphChange md dev fun c _ => c.call_called _

theorem call_graphRemove (md : Metadata) (o : Owner) : Within Ctx.GraphCall (graphRemove md o) :=
  CallFrame.graphRemove md o fun c _ => c.call_called _

theorem step_of_call {α : Type} {m : M α} (h : Within Ctx.GraphCall m) : Within Ctx.GraphStep m :=
  h.mono fun _ _ hc => hc.toGraphStep

/-! ## The functions that set it -/

section

variable (c : Ctx)

/-- The graph object has the handle it had, and is in `state`. -/
def Ctx.InState (state : GraphState) (c c' : Ctx) : Prop :=
  c'.sess.graph.map GraphObj.face = c.sess.graph.map fun g => (g.handle, state)

theorem inState_modGraph {f : GraphObj → GraphObj} {state : GraphState} {c c₁ : Ctx}
    (h : c₁.sess.graph.map GraphObj.face = c.sess.graph.map GraphObj.face)
    (hf : ∀ g, (f g).face = (g.handle, state)) :
    c.InState state { c₁ with sess := { c₁.sess with graph := c₁.sess.graph.map f } } := by
  unfold Ctx.InState
  rw [Option.map_map, show GraphObj.face ∘ f = fun g => (g.face.1, state) from funext hf]
  have := congrArg (Option.map fun p : Handle × GraphState => (p.1, state)) h
  rw [Option.map_map, Option.map_map] at this
  exact this

theorem sat_withGraph {f : GraphObj → M Int} {Q : Int → Ctx → Prop} (h0 : c.sess.graph = none → Q (-EINVAL) c)
    (h : ∀ g, c.sess.graph = some g → Sat (f g) c Q) : Sat (withGraph f) c Q := by
  unfold withGraph
  rw [sat_bind, sat_get]
  cases hg : c.sess.graph with
  | none => exact (sat_pure _ _ _).2 (h0 hg)
  | some g => exact h g hg

theorem sat_graphPrepare : Sat graphPrepare c fun r c' => c.GraphStep c' ∧
    ((r = 0 ∧ c.sess.graph.isSome ∧ c.InState .prepared c') ∨
      (r ≠ 0 ∧ c'.sess.graph.map GraphObj.face = c.sess.graph.map GraphObj.face)) := by
  refine sat_withGraph c (fun _ => ⟨refl_of Ctx.GraphStep c, .inr ⟨by decide, rfl⟩⟩) fun g hg => ?_
  rw [sat_bind, sat_get, sat_ite, sat_pure]
  refine ⟨fun hs => ⟨refl_of Ctx.GraphStep c, .inl ⟨rfl, by rw [hg]; rfl, ?_⟩⟩, fun _ => ?_⟩
  · simp [Ctx.InState, hg, GraphObj.face, hs]
  refine Sat.bind (within_forEach (callFrame_graphCall.prepareModule _ _) _ c) fun p c₁ h₁ => ?_
  refine Sat.bind (callFrame_graphCall.within_modGraph (f := fun g => { g with taggedModList := p.2 }) (fun _ => rfl) c₁) fun _ c₂ h₂ => ?_
  have h₂ := trans_of Ctx.GraphCall h₁ h₂
  rw [sat_ite, sat_pure]
  refine ⟨fun hp => ⟨h₂.toGraphStep, .inr ⟨hp, h₂.graph⟩⟩, fun _ => ?_⟩
  refine Sat.bind (within_onlyIf (callFrame_graphCall.configureBufferParams g) c₂) fun r c₃ h₃ => ?_
  have h₃ := trans_of Ctx.GraphCall h₂ h₃
  rw [sat_ite, sat_pure]
  refine ⟨fun hr => ⟨h₃.toGraphStep, .inr ⟨hr, h₃.graph⟩⟩, fun _ => ?_⟩
  refine Sat.bind (call_askGsl _ c₃) fun r c₄ h₄ => ?_
  have h₄ := trans_of Ctx.GraphCall h₃ h₄
  rw [sat_ite, sat_pure]
  refine ⟨fun hr => ⟨h₄.toGraphStep, .inr ⟨hr, h₄.graph⟩⟩, fun _ => ?_⟩
  rw [sat_bind, sat_modGraph, sat_pure]
  refine ⟨⟨h₄.pool, h₄.sess, h₄.hw⟩, .inl ⟨rfl, by rw [hg]; rfl, ?_⟩⟩
  exact inState_modGraph h₄.graph fun _ => rfl

theorem sat_graphStart : Sat graphStart c fun r c' => c.GraphStep c' ∧
    ((r = 0 ∧ c.sess.graph.isSome ∧ c.InState .started c') ∨
      (r ≠ 0 ∧ c'.sess.graph.map GraphObj.face = c.sess.graph.map GraphObj.face)) := by
  refine sat_withGraph c (fun _ => ⟨refl_of Ctx.GraphStep c, .inr ⟨by decide, rfl⟩⟩) fun g hg => ?_
  refine Sat.bind (call_askGsl _ c) fun r c₁ h₁ => ?_
  rw [sat_ite, sat_pure]
  refine ⟨fun hr => ⟨h₁.toGraphStep, .inr ⟨hr, h₁.graph⟩⟩, fun _ => ?_⟩
  rw [sat_bind, sat_modGraph, sat_pure]
  refine ⟨⟨h₁.pool, h₁.sess, h₁.hw⟩, .inl ⟨rfl, by rw [hg]; rfl, ?_⟩⟩
  exact inState_modGraph h₁.graph fun _ => rfl

theorem sat_graphStop : Sat (graphStop none) c fun _ c' => c.GraphStep c' ∧ c.InState .stopped c' := by
  refine sat_withGraph c (fun hg => ⟨refl_of Ctx.GraphStep c, by simp [Ctx.InState, hg]⟩) fun g hg => ?_
  rw [sat_ite, sat_pure]
  refine ⟨fun hs => ⟨refl_of Ctx.GraphStep c, by simp [Ctx.InState, hg, GraphObj.face, hs]⟩, fun _ => ?_⟩
  refine Sat.bind (call_askGsl _ c) fun r c₁ h₁ => ?_
  rw [sat_bind, sat_modGraph, sat_pure]
  exact ⟨⟨h₁.pool, h₁.sess, h₁.hw⟩, inState_modGraph h₁.graph fun _ => rfl⟩

theorem sat_graphClose : Sat graphClose c fun r c' => c.GraphStep c' ∧ c'.sess.graph = none ∧
    (c.sess.graph = none → r = -EINVAL) := by
  have hclose : Sat (withGraph fun g => onHw (askGsl (.gslClose g.handle))) c fun r c' =>
      c.GraphCall c' ∧ (c.sess.graph = none → r = -EINVAL) := by
    refine sat_withGraph c (fun _ => ⟨refl_of Ctx.GraphCall c, fun _ => rfl⟩) fun g hg => ?_
    refine (call_askGsl _ c).mono fun _ _ h => ⟨h, fun h0 => ?_⟩
    rw [hg] at h0
    exact absurd h0 (by simp)
  refine Sat.bind hclose fun r c₁ h₁ => ?_
  rw [sat_bind, sat_modSess, sat_pure]
  exact ⟨⟨h₁.1.pool, h₁.1.sess, h₁.1.hw⟩, rfl, h₁.2⟩

/-- The graph object of a `graph_open` that succeeded: a fresh one, or none at all. -/
theorem sat_graphOpen (md : Metadata) (dev : Option DevId) :
    Sat (graphOpen md dev) c fun r c' => c.GraphStep c' ∧
      (c'.sess.graph = c.sess.graph ∨
        (r = 0 ∧ ∃ g, c'.sess.graph = some g ∧ g.state = .opened ∧ g.handle = c.hw.nextHandle)) := by
  have hgsl (c₀ : Ctx) (mods : List ModuleInfo) :
      Sat (graphOpenGsl md mods) c₀ fun r c' => c₀.GraphStep c' ∧
        (c'.sess.graph = c₀.sess.graph ∨
          (r = 0 ∧ ∃ g, c'.sess.graph = some g ∧ g.state = .opened ∧ g.handle = c₀.hw.nextHandle)) := by
    unfold graphOpenGsl
    simp only [sat_bind, sat_get, sat_onHw, sat_askGsl, sat_ask, sat_ite, sat_pure, sat_modify, sat_modSess]
    have q₀ (k : Call) := c₀.hw.quiet_called k
    have q₁ {hw : Hw} (hq : c₀.hw.Quiet hw) (k : Call) :
        c₀.hw.Quiet ({ hw with nextHandle := c₀.hw.nextHandle + 1 }.called k) := by
      have hk := Hw.quiet_called { hw with nextHandle := c₀.hw.nextHandle + 1 } k
      exact ⟨hk.still.trans hq.still, fun i => (hk.env i).trans (hq.env i), hq.trace.trans hk.trace,
        Nat.le_trans (Nat.le_succ _) hk.nextHandle⟩
    refine ⟨fun _ => ⟨⟨rfl, rfl, q₀ _⟩, .inl trivial⟩, fun _ => ⟨fun _ => ?_, fun _ => ?_⟩⟩
    · exact ⟨⟨rfl, rfl, trans_of Hw.Quiet (q₁ (q₀ _) _) (Hw.quiet_called _ _)⟩, .inl trivial⟩
    · exact ⟨⟨rfl, rfl, q₁ (q₀ _) _⟩, .inr ⟨trivial, _, rfl, rfl, rfl⟩⟩
  unfold graphOpen
  rw [sat_bind, sat_get, sat_ite]
  refine ⟨fun _ => hgsl c [], fun _ => ?_⟩
  have htags : Sat (getTagsWithModuleInfo md.gkv) c fun _ c' =>
      c.GraphStep c' ∧ c'.sess.graph = c.sess.graph ∧ c'.hw.nextHandle = c.hw.nextHandle := by
    unfold getTagsWithModuleInfo
    simp only [sat_bind, sat_onHw, sat_askGsl, sat_ite, sat_pure]
    refine ⟨fun _ => ⟨⟨rfl, rfl, ?_⟩, trivial, rfl⟩, fun _ => ⟨⟨rfl, rfl, c.hw.quiet_called _⟩, trivial, rfl⟩⟩
    exact trans_of Hw.Quiet (c.hw.quiet_called _) (Hw.quiet_called _ _)
  refine Sat.bind htags fun r c₁ h₁ => ?_
  rw [sat_ite, sat_pure]
  refine ⟨fun _ => ⟨h₁.1, .inl h₁.2.1⟩, fun _ => ?_⟩
  cases collectModules md.gkv dev (c.hw.acdb.tagTable md.gkv) with
  | none => exact (sat_pure _ _ _).2 ⟨h₁.1, .inl h₁.2.1⟩
  | some mods =>
    refine (hgsl c₁ mods).mono fun r c' h => ⟨trans_of Ctx.GraphStep h₁.1 h.1, ?_⟩
    rw [← h₁.2.1, ← h₁.2.2]
    exact h.2

end

end Agm.Service
