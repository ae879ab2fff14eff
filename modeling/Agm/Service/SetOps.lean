import Agm.Service.Walks

/-!
# The operations that only set something

Configuration, metadata, parameters, loopback and echo reference, and the flow control of the stream: none of these
changes the state of the session, of its graph object or of one of its back ends, and none of them touches a device.
-/

namespace Agm.Service

open Agm.Lib

/-- The states are as they were; a back end that was not there is closed. -/
structure Ctx.Sets (c c' : Ctx) : Prop where
  state : c'.sess.state = c.sess.state
  face : c'.face = c.face
  aifs : ∀ i, (c'.sess.aifAt i).state = (c.sess.aifAt i).state
  hw : c.hw.Quiet c'.hw

instance : IsPreorder Ctx Ctx.Sets where
  refl c := ⟨rfl, rfl, fun _ => rfl, refl_of Hw.Quiet c.hw⟩
  trans _ _ _ h h' :=
    ⟨h'.state.trans h.state, h'.face.trans h.face, fun i => (h'.aifs i).trans (h.aifs i), trans_of Hw.Quiet h.hw h'.hw⟩

/-! ## The steps -/

theorem sets_of_edgeStep {α : Type} {m : M α} (h : Within Ctx.EdgeStep m) : Within Ctx.Sets m :=
  h.mono fun c c' h => by
    have hs := congrArg SessionObj.state h.sess
    have hl := congrArg SessionObj.aifPool h.sess
    have hl : c'.sess.aifPool = c.sess.aifPool := hl
    exact ⟨hs, h.face, fun i => by rw [SessionObj.aifAt, SessionObj.aifAt, hl], h.hw⟩

/-- A part of the session is written that has nothing to do with the states. -/
theorem sets_modSess {f : SessionObj → SessionObj}
    (h : ∀ s, (f s).state = s.state ∧ (f s).graph = s.graph ∧ (f s).aifPool = s.aifPool) :
    Within Ctx.Sets (modSess f) := by
  refine within_modify fun c => ?_
  obtain ⟨hs, hg, hl⟩ := h c.sess
  refine ⟨hs, congrArg (Option.map GraphObj.face) hg, fun i => ?_, refl_of Hw.Quiet c.hw⟩
  show ((f c.sess).aifPool.getD i default).state = _
  rw [hl]
  rfl

theorem setFrame_sets : SetFrame Ctx.Sets where
  toCallFrame := callFrame_graphCall.mono fun _ _ h =>
    ⟨h.state, h.graph, fun i => by rw [SessionObj.aifAt, SessionObj.aifAt, h.aifPool], h.hw⟩
  write c s h := ⟨h.state, congrArg (Option.map GraphObj.face) h.graph, h.aifs, refl_of Hw.Quiet c.hw⟩

theorem sets_aifObjGet (aifId : Nat) : Within Ctx.Sets (aifObjGet aifId) := setFrame_sets.aifObjGet aifId

/-! ## The operations -/

/-- **The operations that only set something leave every state as it is.** -/
theorem sets_run {op : Op} (h : op.onlySets) : Within Ctx.Sets op.run := by
  by_cases he : op.setsEdge
  · exact within_setsEdge (fun _ h => sets_modSess h) (fun _ _ => sets_of_edgeStep (edge_sessionSetLoopback _ _))
      (fun _ _ => sets_of_edgeStep (edge_sessionSetEcRef _ _)) he
  · exact setFrame_sets.run h he

end Agm.Service
