import Agm.Service.Edges

/-!
# What leaves the edges alone

Only `session_obj_set_ec_ref`, `session_obj_set_loopback` and the last steps of `session_obj_open` touch an edge.  The
other functions keep all edges, and the ids and flags of the session; its graph object keeps its handle, is cleared, or
is a new one with a handle that was never given out.
-/

namespace Agm.Service

open Agm.Lib

/-! ## What keeps the edges -/

section

open Hw (EdgesKept)

theorem kept_modSess (f : SessionObj → SessionObj) : Within (Ctx.OnHw EdgesKept) (modSess f) :=
  HwFrame.within_modSess f

theorem kept_sessionDisconnectAif (a : Aif) (n : Nat) : Within (Ctx.OnHw EdgesKept) (sessionDisconnectAif a n) :=
  traceFrame_edgesKept.sessionDisconnectAif a n fun hw _ _ => hw.edgesKept_called (by simp [Call.isEdge, Owner.isEdge])

theorem kept_sessionConnectAif (a : Aif) (n : Nat) : Within (Ctx.OnHw EdgesKept) (sessionConnectAif a n) := by
  have hgraph (merged : Metadata) : Within (Ctx.OnHw EdgesKept) (sessionConnectGraph merged a n) := by
    have hreg : Within (Ctx.OnHw EdgesKept) graphRegisterCb := CallFrame.graphRegisterCb
    refine within_bind within_get fun c => within_ite (within_ite ?_ ?_) ?_
    · exact within_bind (hwFrame_edgesKept.graphOpen _ _ rfl rfl) fun _ => within_ite (within_pure _) <|
        within_bind hreg fun _ => within_pure _
    · exact within_bind (hwFrame_edgesKept.graphChange _ _ rfl) fun _ => within_pure _
    · refine within_bind (traceFrame_edgesKept.callFrame.graphAdd _ _ _ fun c h => ?_) fun _ => within_pure _
      exact c.hw.edgesKept_called (by simp [Call.isEdge, Owner.isEdge])
  have hbody : Within (Ctx.OnHw EdgesKept) (sessionConnectBody a n) := by
    refine within_bind within_get fun c => ?_
    cases mergedMetadata a c with
    | none => exact within_pure _
    | some merged =>
      exact within_bind (TraceFrame.onHw (traceFrame_edgesKept.deviceOpen _)) fun _ => within_ite (within_pure _) <|
        within_bind (hgraph merged) fun _ => within_ite (within_pure _) <|
          within_bind (traceFrame_edgesKept.sessionApplyCached merged a) fun _ =>
            within_ite (within_pure _) (within_pure _)
  have hclose (a : Aif) : Within (Ctx.OnHw EdgesKept) (closeDevice a) := traceFrame_edgesKept.closeDevice a
  refine within_bind hbody fun e => ?_
  cases e.label with
  | done => exact within_pure _
  | graphCleanup merged =>
    refine within_bind (within_ite (hwFrame_edgesKept.graphClose rfl) ?_) fun _ =>
      within_bind (hclose _) fun _ => within_pure _
    exact CallFrame.graphRemove _ _ fun c h => c.hw.edgesKept_called (by simp [Call.isEdge, Owner.isEdge])
  | closeDevice => exact within_bind (hclose _) fun _ => within_pure _

theorem kept_connectToOpened (a : Aif) (n : Nat) : Within (Ctx.OnHw EdgesKept) (connectToOpened a n) :=
  within_bind (kept_sessionConnectAif a n) fun _ => within_ite (within_pure _) (within_pure _)

theorem kept_set (c : Ctx) (l : List Aif) : Ctx.OnHw EdgesKept c { c with sess := { c.sess with aifPool := l } } :=
  refl_of EdgesKept c.hw

theorem stages_kept : Stages (Ctx.OnHw EdgesKept) := by
  have hprep (a : Aif) : Within (Ctx.OnHw EdgesKept) (prepareAif a) :=
    within_ite (within_bind (TraceFrame.onHw (traceFrame_edgesKept.devicePrepare _)) fun _ =>
      within_ite (within_pure _) (within_pure _)) (within_pure _)
  have hstart (a : Aif) : Within (Ctx.OnHw EdgesKept) (startAif a) :=
    within_ite (within_bind (TraceFrame.onHw (traceFrame_edgesKept.deviceStart _)) fun _ =>
      within_ite (within_pure _) (within_pure _)) (within_pure _)
  have hboth (a : Aif) : Within (Ctx.OnHw EdgesKept) (prepareStartAif a) :=
    within_bind (hprep a) fun p => within_ite (within_pure _) (hstart p.2)
  refine ⟨⟨hwFrame_edgesKept.graphPrepare, ?_, within_forEachAif kept_set hprep, ?_⟩, hwFrame_edgesKept.graphStart,
    hwFrame_edgesKept.graphStop none, HwFrame.sessionStartChecks, ?_, ?_, fun state _ => ?_⟩
  · exact within_forEachAif kept_set fun a =>
      within_bind (traceFrame_edgesKept.sessionApplyAifDeviceParams _) fun _ => within_pure _
  · exact within_bind hwFrame_edgesKept.graphPrepare fun _ => within_ite (within_pure _) <|
      within_bind (kept_modSess _) fun _ => within_pure _
  · exact within_forEachAif kept_set fun a => within_bind within_get fun _ => within_ite (hboth a) (within_pure _)
  · exact within_forEachAif kept_set fun a => within_bind within_get fun _ =>
      within_ite (within_pure _) (within_ite (hstart a) (hboth a))
  · exact within_mapEachAif kept_set (fun ret a => within_ite
      (within_bind (TraceFrame.onHw (traceFrame_edgesKept.deviceStop _)) fun _ => within_pure _) (within_pure _)) 0

theorem kept_sessionClose : Within (Ctx.OnHw EdgesKept) sessionClose := by
  have hclose (ret : Int) (a : Aif) : Within (Ctx.OnHw EdgesKept) (closeAif ret a) :=
    within_ite (within_bind (TraceFrame.onHw (traceFrame_edgesKept.deviceClose _)) fun _ => within_pure _)
      (within_pure _)
  refine within_bind within_get fun c => within_ite (within_pure _) ?_
  refine within_bind (within_onlyIf (hwFrame_edgesKept.graphStop none)) fun _ =>
    within_bind (hwFrame_edgesKept.graphClose rfl) fun ret => ?_
  exact within_bind (kept_modSess _) fun _ =>
    within_bind (within_onlyIf (within_mapEachAif kept_set hclose ret)) fun _ =>
      within_bind (kept_modSess _) fun _ => within_pure _

theorem kept_sessionObjSessAifConnect (aifId : Nat) (aifState : Bool) :
    Within (Ctx.OnHw EdgesKept) (sessionObjSessAifConnect aifId aifState) := by
  have hcon (i n : Nat) : Within (Ctx.OnHw EdgesKept) (connectAt i n) :=
    within_bind within_get fun _ => within_bind (kept_connectToOpened _ _) fun _ =>
      within_bind (kept_modSess _) fun _ => within_pure _
  have hrest (c : Ctx) : Within (Ctx.OnHw EdgesKept) (do
      let ret ← sessionPrepare
      if ret ≠ 0 then pure (OpLabel.unwind, ret)
      else if c.sess.state = .started then do
        let ret ← sessionStart
        if ret ≠ 0 then pure (.unwind, ret) else pure (.done, 0)
      else pure (.done, 0)) :=
    within_bind stages_kept.sessionPrepare fun _ => within_ite (within_pure _) <| within_ite
      (within_bind (stages_kept.sessionStart (kept_modSess _)) fun _ => within_ite (within_pure _) (within_pure _))
      (within_pure _)
  refine within_bind (HwFrame.aifObjGet aifId) fun r => ?_
  cases r with
  | error e => exact within_pure _
  | ok i =>
    refine within_bind within_get fun c => within_ite (within_pure _) (within_ite ?_ ?_)
    · refine within_bind ?_ fun e => ?_
      · refine within_bind within_get fun c => within_ite (within_bind (kept_modSess _) fun _ => within_pure _) ?_
        exact within_bind (hcon _ _) fun _ => within_ite (within_pure _) <| within_ite (within_pure _) (hrest c)
      · cases e.1 with
        | done => exact within_pure _
        | unwind =>
          exact within_bind (kept_modSess _) fun _ => within_bind within_get fun _ =>
            within_bind (kept_sessionDisconnectAif _ _) fun _ => within_pure _
    · exact within_bind (kept_modSess _) fun _ => within_bind within_get fun _ =>
        within_bind (within_onlyIf (kept_sessionDisconnectAif _ _)) fun _ => within_ite (within_pure _) <|
          within_bind (kept_modSess _) fun _ => within_pure _

end

/-! ## What keeps the graph -/

theorem SessionObj.wantedEdges_of_kept {s s' : SessionObj} (h : s'.keptEdges = s.keptEdges) :
    s'.wantedEdges = s.wantedEdges := by
  have hwanted (s : SessionObj) : s.wantedEdges =
      keptEdge .ecRef s.keptEdges.1.1 s.keptEdges.1.2 ∪ keptEdge .loopback s.keptEdges.2.1 s.keptEdges.2.2 := rfl
  rw [hwanted, hwanted, h]

/-- The session asks for the same edges, and has the graph it had. -/
structure Ctx.SameHandle (c c' : Ctx) : Prop where
  kept : c'.sess.keptEdges = c.sess.keptEdges
  next : c.hw.nextHandle ≤ c'.hw.nextHandle
  handle : c'.handle = c.handle

/-- The session asks for the same edges, and has the graph it had, or none, or one with a handle that is new. -/
structure Ctx.NewHandle (c c' : Ctx) : Prop where
  kept : c'.sess.keptEdges = c.sess.keptEdges
  next : c.hw.nextHandle ≤ c'.hw.nextHandle
  handle : c'.handle = c.handle ∨ ∀ h, c'.handle = some h → c.hw.nextHandle ≤ h ∧ h < c'.hw.nextHandle

instance : IsPreorder Ctx Ctx.SameHandle where
  refl _ := ⟨rfl, Nat.le_refl _, rfl⟩
  trans _ _ _ h h' := ⟨h'.kept.trans h.kept, Nat.le_trans h.next h'.next, h'.handle.trans h.handle⟩

instance : IsPreorder Ctx Ctx.NewHandle where
  refl _ := ⟨rfl, Nat.le_refl _, .inl rfl⟩
  trans _ _ _ h h' := by
    refine ⟨h'.kept.trans h.kept, Nat.le_trans h.next h'.next, ?_⟩
    rcases h'.handle with he | hnew
    · rw [he]
      exact h.handle.imp_right fun hnew g hg => ⟨(hnew g hg).1, Nat.lt_of_lt_of_le (hnew g hg).2 h'.next⟩
    · exact .inr fun g hg => ⟨Nat.le_trans h.next (hnew g hg).1, (hnew g hg).2⟩

theorem Ctx.SameHandle.newHandle {c c' : Ctx} (h : c.SameHandle c') : c.NewHandle c' := ⟨h.kept, h.next, .inl h.handle⟩

theorem Ctx.AifStep.kept {c c' : Ctx} (h : c.AifStep c') : c'.sess.keptEdges = c.sess.keptEdges := by
  have := congrArg SessionObj.keptEdges h.sess
  exact this

theorem Ctx.AifStep.sameHandle {c c' : Ctx} (h : c.AifStep c') (hf : c'.face = c.face) : c.SameHandle c' :=
  ⟨h.kept, h.hw.nextHandle, Ctx.handle_of_face hf⟩

theorem Ctx.AifStep.sameHandle_of_sess {c c' : Ctx} (h : c.AifStep c') (hs : c'.sess = c.sess) : c.SameHandle c' :=
  h.sameHandle (by rw [face, face, hs])

theorem Ctx.EdgeStep.sameHandle {c c' : Ctx} (h : c.EdgeStep c') : c.SameHandle c' := by
  have hkept := congrArg SessionObj.keptEdges h.sess
  exact ⟨hkept, h.hw.nextHandle, Ctx.handle_of_face h.face⟩

theorem Ctx.GraphStep.newHandle {c c' : Ctx} (h : c.GraphStep c')
    (hh : c'.handle = c.handle ∨ ∀ h, c'.handle = some h → c.hw.nextHandle ≤ h ∧ h < c'.hw.nextHandle) : c.NewHandle c' :=
  ⟨h.aifStep.kept, h.hw.nextHandle, hh⟩

theorem same_of_call {α : Type} {m : M α} (h : Within Ctx.GraphCall m) : Within Ctx.SameHandle m :=
  h.mono fun _ _ h => h.toGraphStep.aifStep.sameHandle h.graph

theorem same_modSess {f : SessionObj → SessionObj}
    (h : ∀ s, (f s).keptEdges = s.keptEdges ∧ (f s).graph = s.graph) : Within Ctx.SameHandle (modSess f) :=
  within_modify fun c => ⟨(h c.sess).1, Nat.le_refl _, congrArg (Option.map GraphObj.handle) (h c.sess).2⟩

theorem same_set (c : Ctx) (l : List Aif) : c.SameHandle { c with sess := { c.sess with aifPool := l } } :=
  ⟨rfl, Nat.le_refl _, rfl⟩

theorem new_of_same {α : Type} {m : M α} (h : Within Ctx.SameHandle m) : Within Ctx.NewHandle m :=
  h.mono fun _ _ h => h.newHandle

theorem new_graphClose : Within Ctx.NewHandle graphClose := fun c => (sat_graphClose c).mono fun _ c' h => by
  refine h.1.newHandle (.inr fun g hg => ?_)
  rw [Ctx.handle, SessionObj.handle, h.2.1] at hg
  cases hg

theorem new_graphOpen (md : Metadata) (dev : Option DevId) : Within Ctx.NewHandle (graphOpen md dev) := by
  have hgsl (mods : List ModuleInfo) : Within Ctx.NewHandle (graphOpenGsl md mods) := by
    intro c
    unfold graphOpenGsl
    simp only [sat_bind, sat_get, sat_onHw, sat_askGsl, sat_ask, sat_ite, sat_pure, sat_modify, sat_modSess]
    refine ⟨fun _ => ⟨rfl, Nat.le_refl _, .inl rfl⟩, fun _ => ⟨fun _ => ?_, fun _ => ?_⟩⟩
    · exact ⟨rfl, Nat.le_succ _, .inl rfl⟩
    · refine ⟨rfl, Nat.le_succ _, .inr fun h hh => ?_⟩
      obtain rfl : c.hw.nextHandle = h := Option.some.inj hh
      exact ⟨Nat.le_refl _, Nat.lt_succ_self _⟩
  refine within_bind within_get fun c => within_ite (hgsl []) ?_
  refine within_bind (new_of_same (same_of_call (callFrame_graphCall.getTagsWithModuleInfo _))) fun _ =>
    within_ite (within_pure _) ?_
  cases collectModules md.gkv dev (c.hw.acdb.tagTable md.gkv) with
  | none => exact within_pure _
  | some mods => exact hgsl mods

theorem new_sessionConnectAif (a : Aif) (n : Nat) : Within Ctx.NewHandle (sessionConnectAif a n) := by
  have hopen : Within Ctx.SameHandle (onHw (deviceOpen a.devObj)) := fun c =>
    (sat_onHw_later (sat_deviceOpen a.devObj c.hw)).mono fun _ _ h => h.1.sameHandle_of_sess h.2.1
  have happly (merged : Metadata) : Within Ctx.SameHandle (sessionApplyCached merged a) := fun c =>
    (sat_sessionApplyCached merged a c).mono fun _ _ h => h.1.toAifStep.sameHandle h.1.graph
  have hgraph (merged : Metadata) : Within Ctx.NewHandle (sessionConnectGraph merged a n) := by
    refine within_bind within_get fun c => within_ite (within_ite ?_ ?_) ?_
    · exact within_bind (new_graphOpen _ _) fun _ => within_ite (within_pure _) <|
        within_bind (new_of_same (same_of_call CallFrame.graphRegisterCb)) fun _ => within_pure _
    · exact within_bind (new_of_same (same_of_call (call_graphChange _ _))) fun _ => within_pure _
    · exact within_bind (new_of_same (same_of_call (call_graphAdd _ _ _))) fun _ => within_pure _
  have hbody : Within Ctx.NewHandle (sessionConnectBody a n) := by
    refine within_bind within_get fun c => ?_
    cases mergedMetadata a c with
    | none => exact within_pure _
    | some merged =>
      exact within_bind (new_of_same hopen) fun _ => within_ite (within_pure _) <|
        within_bind (hgraph merged) fun _ => within_ite (within_pure _) <|
          within_bind (new_of_same (happly merged)) fun _ => within_ite (within_pure _) (within_pure _)
  have hclose (a : Aif) : Within Ctx.NewHandle (closeDevice a) := fun c =>
    (sat_closeDevice a c).mono fun _ _ h => (h.1.sameHandle_of_sess h.2.1).newHandle
  refine within_bind hbody fun e => ?_
  cases e.label with
  | done => exact within_pure _
  | graphCleanup merged =>
    refine within_bind (within_ite new_graphClose ?_) fun _ => within_bind (hclose _) fun _ => within_pure _
    exact new_of_same (same_of_call (call_graphRemove _ _))
  | closeDevice => exact within_bind (hclose _) fun _ => within_pure _

/-! ## Opening -/

/-- No edge is touched, and the graph of the session is the one it was, or none, or a new one. -/
def Ctx.Plain (c c' : Ctx) : Prop := c.NewHandle c' ∧ c.hw.EdgesKept c'.hw

instance : IsPreorder Ctx Ctx.Plain where
  refl c := ⟨refl_of Ctx.NewHandle c, refl_of Hw.EdgesKept c.hw⟩
  trans _ _ _ h h' := ⟨trans_of Ctx.NewHandle h.1 h'.1, trans_of Hw.EdgesKept h.2 h'.2⟩

theorem plain {α : Type} {m : M α} (h : Within Ctx.NewHandle m) (hk : Within (Ctx.OnHw Hw.EdgesKept) m) :
    Within Ctx.Plain m := fun c => (h c).and (hk c)

theorem plain_modSess {f : SessionObj → SessionObj}
    (h : ∀ s, (f s).keptEdges = s.keptEdges ∧ (f s).graph = s.graph) : Within Ctx.Plain (modSess f) :=
  plain (new_of_same (same_modSess h)) (kept_modSess f)

theorem plain_set (c : Ctx) (l : List Aif) : c.Plain { c with sess := { c.sess with aifPool := l } } :=
  ⟨(same_set c l).newHandle, refl_of Hw.EdgesKept c.hw⟩

theorem plain_graphClose : Within Ctx.Plain graphClose := plain new_graphClose (hwFrame_edgesKept.graphClose rfl)

theorem plain_connectToOpened (a : Aif) (n : Nat) : Within Ctx.Plain (connectToOpened a n) :=
  plain (within_bind (new_sessionConnectAif a n) fun _ => within_ite (within_pure _) (within_pure _))
    (kept_connectToOpened a n)

theorem same_sessionDisconnectAif (a : Aif) (n : Nat) : Within Ctx.SameHandle (sessionDisconnectAif a n) := fun c =>
  (sat_sessionDisconnectAif a n c).mono fun _ _ h => h.1.sameHandle h.2.1

theorem plain_disconnectOpened (ret : Int) (a : Aif) : Within Ctx.Plain (disconnectOpened ret a) :=
  within_ite (within_bind (plain (new_of_same (same_sessionDisconnectAif a 1)) (kept_sessionDisconnectAif a 1)) fun _ =>
    within_pure _) (within_pure _)

theorem plain_sessionOpenWithFirstDevice : Within Ctx.Plain sessionOpenWithFirstDevice := by
  refine within_bind within_get fun c => ?_
  cases c.sess.aifPool.findIdx? (fun a => a.state = .open) with
  | none => exact within_pure _
  | some i =>
    exact within_bind (plain_connectToOpened _ 0) fun _ =>
      within_bind (plain_modSess fun _ => ⟨rfl, rfl⟩) fun _ => within_pure _

theorem plain_sessionConnectReminderDevices : Within Ctx.Plain sessionConnectReminderDevices := by
  have hturn (a : Aif) : Within Ctx.Plain (connectReminder a) := within_ite (plain_connectToOpened a 1) (within_pure _)
  refine within_bind (within_forEachAif plain_set hturn) fun ret => within_ite ?_ (within_pure _)
  exact within_bind (within_mapEachAif plain_set plain_disconnectOpened ret) fun _ => plain_graphClose

theorem plain_sessionOpenWithoutDevice : Within Ctx.Plain sessionOpenWithoutDevice := by
  have hcall {m : M Int} (h : Within Ctx.GraphCall m) (hk : Within (Ctx.OnHw Hw.EdgesKept) m) : Within Ctx.Plain m :=
    plain (new_of_same (same_of_call h)) hk
  have hopen (md : Metadata) : Within Ctx.Plain (graphOpen md none) :=
    plain (new_graphOpen md none) (hwFrame_edgesKept.graphOpen _ _ rfl rfl)
  refine within_bind within_get fun c => within_bind (hopen _) fun _ => within_ite (within_pure _) ?_
  refine within_bind (hcall CallFrame.graphRegisterCb CallFrame.graphRegisterCb) fun _ => within_ite ?_ ?_
  · exact within_bind plain_graphClose fun _ => within_pure _
  · cases c.sess.params with
    | none => exact within_pure _
    | some p =>
      refine within_bind (hcall (callFrame_graphCall.graphSetConfig p)
        (traceFrame_edgesKept.callFrame.graphSetConfig p)) fun _ => within_ite ?_ ?_
      · exact within_bind plain_graphClose fun _ => within_pure _
      · exact within_bind (plain_modSess fun _ => ⟨rfl, rfl⟩) fun _ => within_pure _

end Agm.Service
