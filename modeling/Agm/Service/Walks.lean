import Agm.Service.SessionSpec
import Agm.Service.Ops

/-!
# Invariants of the session functions from invariants of the turns

An invariant of the counts speaks of the devices and of the list of back ends.  `Frame J` says what such an invariant
does not look at; `Turns J` adds what it has to satisfy at each turn of the walks of `session_prepare`,
`session_start` and `session_stop`, and `OpenTurns J` at each turn of the walks of `session_obj_open`.  That the whole
functions keep the invariant is derived once, here.
-/

namespace Agm.Service

open Agm.Lib

/-- The invariant, at the list of the locked session. -/
def AtPool (J : Ctx → List Aif → Prop) (c : Ctx) : Prop := J c c.sess.aifPool

structure Frame (J : Ctx → List Aif → Prop) : Prop where
  /-- of the session the invariant sees its metadata, and perhaps that it is closed -/
  sess : ∀ c s l, J c l → s.sessMeta = c.sess.sessMeta → (s.state = .closed → c.sess.state = .closed) →
    J { c with sess := s } l
  /-- calls and parameters do not matter -/
  call : ∀ c c' l, J c l → c.AifStep c' → c'.hw.core = c.hw.core → J c' l
  pool : ∀ c p l, J c l → c.pool.Grows sessionObjCreate p → J { c with pool := p } l

structure Turns (J : Ctx → List Aif → Prop) : Prop extends Frame J where
  prepare : ∀ done a todo c, J c (done ++ a :: todo) → Sat (prepareAif a) c fun p c' => J c' (done ++ p.2 :: todo)
  start : ∀ done a todo c, J c (done ++ a :: todo) → Sat (startAif a) c fun p c' => J c' (done ++ p.2 :: todo)
  stop : ∀ done a todo state ret c, J c (done ++ a :: todo) → state = .opened ∨ state = .stopped →
    Sat (stopAif state ret a) c fun p c' => J c' (done ++ p.2 :: todo)

namespace Frame

variable {J : Ctx → List Aif → Prop} (hJ : Frame J)

include hJ

theorem set (c : Ctx) (l : List Aif) (h : J c l) : J { c with sess := { c.sess with aifPool := l } } l :=
  hJ.sess c _ l h rfl id

theorem graphStep {α : Type} {m : M α} (h : Within Ctx.GraphStep m) : Within (Inv (AtPool J)) m :=
  h.mono fun c c' s hc => by
    have := hJ.call c c' _ hc s.aifStep s.hw.core
    rwa [← s.aifPool] at this

theorem coreCall {α : Type} {m : M α} (h : Within Ctx.CoreCall m) : Within (Inv (AtPool J)) m :=
  h.mono fun c c' s hc => by
    have := hJ.call c c' _ hc s.toAifStep s.core
    rwa [← s.aifPool] at this

/-- Writing a part of the session that the invariant does not see. -/
theorem modSess {f : SessionObj → SessionObj} (hp : ∀ s, (f s).aifPool = s.aifPool)
    (hm : ∀ s, (f s).sessMeta = s.sessMeta) (hs : ∀ s, (f s).state = .closed → s.state = .closed) :
    Within (Inv (AtPool J)) (modSess f) :=
  within_modify fun c hc => by
    have := hJ.sess c (f c.sess) _ hc (hm _) (hs _)
    rwa [← hp] at this

theorem edgeStep {α : Type} {m : M α} (h : Within Ctx.EdgeStep m) : Within (Inv (AtPool J)) m :=
  h.mono fun c c' s hc => by
    have hq : Ctx.AifStep { c with pool := c'.pool } c' :=
      ⟨rfl, by
        have := congrArg SessionObj.base s.sess
        exact this, s.hw.later⟩
    have := hJ.call _ c' _ (hJ.pool c c'.pool _ hc s.pool) hq s.hw.core
    rwa [← hq.aifPool] at this

theorem forEachAif {body : Aif → M (Int × Aif)}
    (step : ∀ done a todo c, J c (done ++ a :: todo) → Sat (body a) c fun p c' => J c' (done ++ p.2 :: todo)) :
    Within (Inv (AtPool J)) (forEachAif body) :=
  within_inv.2 fun _ hc => sat_forEachAif hJ.set step hc

theorem mapEachAif {body : Int → Aif → M (Int × Aif)}
    (step : ∀ done a todo ret c, J c (done ++ a :: todo) →
      Sat (body ret a) c fun p c' => J c' (done ++ p.2 :: todo)) (ret : Int) :
    Within (Inv (AtPool J)) (mapEachAif body ret) :=
  within_inv.2 fun _ hc => sat_mapEachAif hJ.set step hc

theorem graphPrepare : Within (Inv (AtPool J)) graphPrepare :=
  hJ.graphStep fun c => (sat_graphPrepare c).mono fun _ _ h => h.1

theorem graphStart : Within (Inv (AtPool J)) graphStart :=
  hJ.graphStep fun c => (sat_graphStart c).mono fun _ _ h => h.1

theorem graphStop : Within (Inv (AtPool J)) (graphStop none) :=
  hJ.graphStep fun c => (sat_graphStop c).mono fun _ _ h => h.1

theorem graphClose : Within (Inv (AtPool J)) graphClose :=
  hJ.graphStep fun c => (sat_graphClose c).mono fun _ _ h => h.1

theorem sessionStartChecks : Within (Inv (AtPool J)) sessionStartChecks := hJ.edgeStep edge_sessionStartChecks

/-- The invariant at the list of the session, seen from one back end. -/
theorem split {c : Ctx} {i : Nat} (hi : i < c.sess.aifPool.length) (h : AtPool J c) :
    ∃ done todo, J c (done ++ c.sess.aifAt i :: todo) ∧ (∀ b, c.sess.aifPool.set i b = done ++ b :: todo) ∧
      ∀ b c', c.AifStep c' → J c' (done ++ b :: todo) → AtPool J { c' with sess := c'.sess.setAif i b } := by
  obtain ⟨done, todo, hl, hset⟩ := exists_set_eq c.sess.aifPool i default hi
  refine ⟨done, todo, ?_, hset, fun b c' s hb => ?_⟩
  · rw [SessionObj.aifAt, ← hl]
    exact h
  · have heq : (c'.sess.setAif i b).aifPool = done ++ b :: todo := by
      show c'.sess.aifPool.set i b = _
      rw [s.aifPool, hset]
    have key := hJ.sess c' (c'.sess.setAif i b) _ hb rfl id
    rw [← heq] at key
    exact key

end Frame

/-! ## Preparing, starting and stopping

`session_prepare`, `session_start` and `session_stop` are put together from a few stages; what every stage stays
within, they stay within. -/

structure PrepareStages (R : Ctx → Ctx → Prop) : Prop where
  graphPrepare : Within R graphPrepare
  params : Within R (forEachAif fun a => do
    let ret ← sessionApplyAifDeviceParams a.devObj
    pure (ret, a))
  prepare : Within R (forEachAif prepareAif)
  prepareGraph : Within R sessionPrepareGraph

structure Stages (R : Ctx → Ctx → Prop) : Prop extends PrepareStages R where
  graphStart : Within R graphStart
  graphStop : Within R (graphStop none)
  checks : Within R sessionStartChecks
  slimbus : Within R (forEachAif startSlimbus)
  other : Within R (forEachAif startOther)
  stop : ∀ state, state = .opened ∨ state = .stopped → Within R (mapEachAif (stopAif state) 0)

theorem PrepareStages.sessionPrepare {R : Ctx → Ctx → Prop} [IsPreorder Ctx R] (hR : PrepareStages R) :
    Within R sessionPrepare := by
  refine within_bind within_get fun c => within_ite (within_ite (within_pure _) ?_) ?_
  · refine within_bind hR.params fun _ => within_ite (within_pure _) (within_ite ?_ ?_)
    · refine within_bind (within_onlyIf hR.graphPrepare) fun _ => within_ite (within_pure _) ?_
      refine within_bind hR.prepare fun _ => within_ite (within_pure _) ?_
      exact within_ite hR.prepareGraph (within_pure _)
    · exact within_ite hR.prepareGraph (within_pure _)
  · exact within_ite hR.prepareGraph (within_pure _)

theorem within_sessionStartBody {R : Ctx → Ctx → Prop} [IsPreorder Ctx R] (hstart : Within R graphStart)
    (hchecks : Within R sessionStartChecks) (hslimbus : Within R (forEachAif startSlimbus))
    (hother : Within R (forEachAif startOther)) : Within R sessionStartBody := by
  refine within_bind within_get fun c => within_ite (within_ite (within_pure _) ?_) ?_
  · refine within_bind (within_onlyIf hchecks) fun _ => within_ite (within_pure _) ?_
    refine within_bind within_get fun c => ?_
    refine within_bind (within_onlyIf hstart) fun _ => within_ite (within_pure _) ?_
    refine within_bind hslimbus fun _ => within_ite (within_pure _) ?_
    refine within_bind (within_onlyIf hstart) fun _ => within_ite (within_pure _) ?_
    refine within_bind hother fun _ => within_ite (within_pure _) ?_
    exact within_bind (within_onlyIf hstart) fun _ => within_ite (within_pure _) (within_pure _)
  · exact within_bind hstart fun _ => within_ite (within_pure _) (within_pure _)

namespace Stages

variable {R : Ctx → Ctx → Prop} [IsPreorder Ctx R] (hR : Stages R)

include hR

theorem sessionStartBody : Within R sessionStartBody :=
  within_sessionStartBody hR.graphStart hR.checks hR.slimbus hR.other

theorem startDeviceStop : Within R startDeviceStop :=
  within_bind within_get fun _ => within_ite
    (within_bind (hR.stop .opened (.inl rfl)) fun _ => within_pure _) (within_pure _)

theorem sessionStart (hstate : Within R (modSess fun s => { s with state := .started })) : Within R sessionStart := by
  refine within_bind hR.sessionStartBody fun e => ?_
  cases e.1 with
  | done =>
    exact within_ite (within_pure _) <| within_bind hstate fun _ => within_pure _
  | unwind => exact within_bind hR.graphStop fun _ => within_bind hR.startDeviceStop fun _ => within_pure _
  | deviceStop => exact within_bind hR.startDeviceStop fun _ => within_pure _

theorem sessionStop (hstate : Within R (modSess fun s => { s with state := .stopped })) : Within R sessionStop := by
  refine within_bind within_get fun c => within_ite (within_pure _) (within_ite ?_ ?_)
  · refine within_bind (within_onlyIf hR.graphStop) fun _ => within_ite (within_pure _) ?_
    exact within_bind (hR.stop .stopped (.inr rfl)) fun _ => within_bind (within_onlyIf hR.graphStop) fun _ =>
      within_bind hstate fun _ => within_pure _
  · exact within_bind hR.graphStop fun _ => within_bind hstate fun _ => within_pure _

/-- A connect on a session that is not closed: the connect itself, the prepare and the start, and the unwind. -/
theorem hotConnect (hstate : Within R (modSess fun s => { s with state := .started })) {i n : Nat} {c : Ctx}
    (hset : Within R (modSess (·.setAifState i .close))) (hdisc : ∀ a n, Within R (sessionDisconnectAif a n))
    (hcon : Sat (connectAt i n) c fun _ c' => R c c') (hc : c.sess.state ≠ .closed) :
    Sat (Service.hotConnect i n) c fun _ c' => R c c' := by
  have hrest : Within R (do
      let ret ← Service.sessionPrepare
      if ret ≠ 0 then pure (OpLabel.unwind, ret)
      else if c.sess.state = .started then do
        let ret ← Service.sessionStart
        if ret ≠ 0 then pure (.unwind, ret) else pure (.done, 0)
      else pure (.done, 0)) :=
    within_bind hR.sessionPrepare fun _ => within_ite (within_pure _) <| within_ite
      (within_bind (hR.sessionStart hstate) fun _ => within_ite (within_pure _) (within_pure _)) (within_pure _)
  have hbody : Sat (hotConnectBody i n) c fun _ c' => R c c' := by
    unfold hotConnectBody
    rw [sat_bind, sat_get, if_neg hc]
    refine Sat.bind hcon fun r c₁ h₁ => ?_
    have hend := within_ite (c := r ≠ 0) (within_pure (R := R) (OpLabel.done, r)) <|
      within_ite (c := c.sess.state = .opened) (within_pure (R := R) (OpLabel.done, 0)) hrest
    exact (hend c₁).mono fun _ _ h => trans_of R h₁ h
  refine Sat.bind hbody fun e c₁ h₁ => ?_
  cases e.1 with
  | done => exact (sat_pure _ _ _).2 h₁
  | unwind =>
    have hend : Within R (modSess (·.setAifState i .close) >>= fun _ => get >>= fun c =>
        sessionDisconnectAif (c.sess.aifAt i) (n + 1) >>= fun _ => pure e.2) :=
      within_bind hset fun _ => within_bind within_get fun _ => within_bind (hdisc _ _) fun _ => within_pure _
    exact (hend c₁).mono fun _ _ h => trans_of R h₁ h

end Stages

/-- The walks, for a relation that looks neither at the devices nor at the back ends. -/
theorem Stages.of_turns {R : Ctx → Ctx → Prop} [IsPreorder Ctx R]
    (turn : ∀ c c' : Ctx, c.AifStep c' → c'.sess = c.sess → R c c')
    (set : ∀ c l, R c { c with sess := { c.sess with aifPool := l } })
    (core : ∀ c c' : Ctx, c.CoreCall c' → R c c') (edge : ∀ c c' : Ctx, c.EdgeStep c' → R c c')
    (hgprep : Within R Service.graphPrepare) (hgstart : Within R Service.graphStart)
    (hgstop : Within R (Service.graphStop none)) (hpg : Within R sessionPrepareGraph) : Stages R := by
  have hprep (a : Aif) : Within R (prepareAif a) := fun c => (sat_prepareAif a c).mono fun _ _ h => turn _ _ h.1 h.2.1
  have hstart (a : Aif) : Within R (startAif a) := fun c => (sat_startAif a c).mono fun _ _ h => turn _ _ h.1 h.2.1
  have hboth (a : Aif) : Within R (prepareStartAif a) :=
    within_bind (hprep a) fun p => within_ite (within_pure _) (hstart p.2)
  refine ⟨⟨hgprep, ?_, within_forEachAif set hprep, hpg⟩, hgstart, hgstop, edge_sessionStartChecks.mono edge, ?_, ?_,
    fun state _ => ?_⟩
  · refine within_forEachAif set fun a => ?_
    exact within_bind ((core_sessionApplyAifDeviceParams a.devObj).mono core) fun _ => within_pure _
  · exact within_forEachAif set fun a => within_bind within_get fun _ => within_ite (hboth a) (within_pure _)
  · exact within_forEachAif set fun a => within_bind within_get fun _ =>
      within_ite (within_pure _) (within_ite (hstart a) (hboth a))
  · refine within_mapEachAif set (fun ret a c => ?_) 0
    exact (sat_stopAif state ret a c).mono fun _ _ h => turn _ _ h.1 h.2.1

namespace Turns

variable {J : Ctx → List Aif → Prop} (hJ : Turns J)

include hJ

theorem prepareStartAif (done : List Aif) (a : Aif) (todo : List Aif) (c : Ctx) (h : J c (done ++ a :: todo)) :
    Sat (prepareStartAif a) c fun p c' => J c' (done ++ p.2 :: todo) := by
  refine Sat.bind (hJ.prepare done a todo c h) fun p c₁ h₁ => ?_
  rw [sat_ite, sat_pure]
  exact ⟨fun _ => h₁, fun _ => hJ.start done p.2 todo c₁ h₁⟩

theorem startSlimbus (done : List Aif) (a : Aif) (todo : List Aif) (c : Ctx) (h : J c (done ++ a :: todo)) :
    Sat (startSlimbus a) c fun p c' => J c' (done ++ p.2 :: todo) := by
  unfold Service.startSlimbus
  rw [sat_bind, sat_get, sat_ite, sat_pure]
  exact ⟨fun _ => hJ.prepareStartAif done a todo c h, fun _ => h⟩

theorem startOther (done : List Aif) (a : Aif) (todo : List Aif) (c : Ctx) (h : J c (done ++ a :: todo)) :
    Sat (startOther a) c fun p c' => J c' (done ++ p.2 :: todo) := by
  unfold Service.startOther
  rw [sat_bind, sat_get, sat_ite, sat_pure, sat_ite]
  exact ⟨fun _ => h, fun _ => ⟨fun _ => hJ.start done a todo c h, fun _ => hJ.prepareStartAif done a todo c h⟩⟩

theorem setState {state : SessionState} (hs : state ≠ .closed) :
    Within (Inv (AtPool J)) (Service.modSess fun s => { s with state := state }) :=
  hJ.modSess (fun _ => rfl) (fun _ => rfl) fun _ h => absurd h hs

theorem stages : Stages (Inv (AtPool J)) where
  graphPrepare := hJ.graphPrepare
  graphStart := hJ.graphStart
  graphStop := hJ.graphStop
  checks := hJ.sessionStartChecks
  params := by
    refine hJ.forEachAif fun done a todo c h => ?_
    refine Sat.bind (core_sessionApplyAifDeviceParams a.devObj c) fun r c₁ h₁ => ?_
    exact (sat_pure _ _ _).2 (hJ.call c c₁ _ h h₁.toAifStep h₁.core)
  prepare := hJ.forEachAif hJ.prepare
  slimbus := hJ.forEachAif hJ.startSlimbus
  other := hJ.forEachAif hJ.startOther
  stop state hs := hJ.mapEachAif (fun done a todo ret c h => hJ.stop done a todo state ret c h hs) 0
  prepareGraph :=
    within_bind hJ.graphPrepare fun _ => within_ite (within_pure _) <|
      within_bind (hJ.setState (nomatch ·)) fun _ => within_pure _

theorem sessionPrepare : Within (Inv (AtPool J)) sessionPrepare := hJ.stages.sessionPrepare

theorem sessionStart : Within (Inv (AtPool J)) sessionStart := hJ.stages.sessionStart (hJ.setState (nomatch ·))

theorem sessionStop : Within (Inv (AtPool J)) sessionStop := hJ.stages.sessionStop (hJ.setState (nomatch ·))

end Turns

/-! ## Opening -/

/-- The invariant, of a session that is closed. -/
def AtClosed (J : Ctx → List Aif → Prop) (c : Ctx) (l : List Aif) : Prop := J c l ∧ c.sess.state = .closed

structure OpenTurns (J : Ctx → List Aif → Prop) : Prop extends Frame J where
  connect : ∀ done a todo n c, J c (done ++ a :: todo) → c.sess.state = .closed → a.state = .open →
    Sat (connectToOpened a n) c fun p c' => J c' (done ++ p.2 :: todo)
  disconnect : ∀ done a todo ret c, J c (done ++ a :: todo) → c.sess.state = .closed →
    Sat (disconnectOpened ret a) c fun p c' => J c' (done ++ p.2 :: todo)

theorem aifStep_connectToOpened (a : Aif) (n : Nat) : Within Ctx.AifStep (connectToOpened a n) :=
  fun c => Sat.bind (sat_sessionConnectAif a n c) fun p c₁ h₁ => by
    rw [sat_ite, sat_pure, sat_pure]
    exact ⟨fun _ => h₁.1, fun _ => h₁.1⟩

theorem aifStep_disconnectOpened (ret : Int) (a : Aif) : Within Ctx.AifStep (disconnectOpened ret a) :=
  within_ite (within_bind (fun c => (sat_sessionDisconnectAif a 1 c).mono fun _ _ h => h.1) fun _ => within_pure _)
    (within_pure _)

namespace OpenTurns

variable {J : Ctx → List Aif → Prop} (hJ : OpenTurns J)

include hJ

theorem set (c : Ctx) (l : List Aif) (h : AtClosed J c l) :
    AtClosed J { c with sess := { c.sess with aifPool := l } } l :=
  ⟨hJ.toFrame.set c l h.1, h.2⟩

theorem graphStep {α : Type} {m : M α} (h : Within Ctx.GraphStep m) : Within (Inv (AtPool (AtClosed J))) m :=
  fun c a t ht hc => ⟨hJ.toFrame.graphStep h c a t ht hc.1, (h c a t ht).state.trans hc.2⟩

theorem edgeStep {α : Type} {m : M α} (h : Within Ctx.EdgeStep m) : Within (Inv (AtPool (AtClosed J))) m := by
  intro c a t ht hc
  have hs := congrArg SessionObj.state (h c a t ht).sess
  exact ⟨hJ.toFrame.edgeStep h c a t ht hc.1, Eq.trans hs hc.2⟩

theorem modSess {f : SessionObj → SessionObj} (hp : ∀ s, (f s).aifPool = s.aifPool)
    (hm : ∀ s, (f s).sessMeta = s.sessMeta) (hs : ∀ s, (f s).state = s.state) :
    Within (Inv (AtPool (AtClosed J))) (modSess f) :=
  within_modify fun c hc => by
    have := hJ.sess c (f c.sess) _ hc.1 (hm _) fun h => (hs c.sess).symm.trans h
    rw [← hp] at this
    exact ⟨this, (hs _).trans hc.2⟩

theorem graphClose : Within (Inv (AtPool (AtClosed J))) graphClose :=
  hJ.graphStep fun c => (sat_graphClose c).mono fun _ _ h => h.1

/-- Connecting the back end at a place of the list. -/
theorem connectAt {i n : Nat} {c : Ctx} (hi : i < c.sess.aifPool.length) (ho : (c.sess.aifAt i).state = .open)
    (h : AtPool (AtClosed J) c) :
    Sat (connectToOpened (c.sess.aifAt i) n) c fun p c' =>
      AtPool (AtClosed J) { c' with sess := c'.sess.setAif i p.2 } := by
  obtain ⟨done, todo, hl, hset⟩ := exists_set_eq c.sess.aifPool i default hi
  have hJc : J c (done ++ c.sess.aifAt i :: todo) := by
    rw [SessionObj.aifAt, ← hl]
    exact h.1
  refine ((hJ.connect done _ todo n c hJc h.2 ho).and (aifStep_connectToOpened _ n c)).mono fun p c' h' => ?_
  obtain ⟨h₁, h₂⟩ := h'
  have hst : c'.sess.state = .closed := h₂.state.trans h.2
  have key := hJ.set c' _ ⟨h₁, hst⟩
  have heq : (c'.sess.setAif i p.2).aifPool = done ++ p.2 :: todo := by
    show c'.sess.aifPool.set i p.2 = _
    rw [h₂.aifPool, hset]
  show AtClosed J { c' with sess := c'.sess.setAif i p.2 } (c'.sess.setAif i p.2).aifPool
  rw [heq, SessionObj.setAif, h₂.aifPool, hset]
  exact key

theorem sessionOpenWithFirstDevice : Within (Inv (AtPool (AtClosed J))) sessionOpenWithFirstDevice := by
  refine within_inv.2 fun c hc => ?_
  unfold Service.sessionOpenWithFirstDevice
  rw [sat_bind, sat_get]
  cases hf : c.sess.aifPool.findIdx? (fun a => a.state = .open) with
  | none => exact (sat_pure _ _ _).2 hc
  | some i =>
    obtain ⟨hi, ho, -⟩ := List.findIdx?_eq_some_iff_getElem.1 hf
    have ho : (c.sess.aifAt i).state = .open := by
      rw [SessionObj.aifAt, List.getD_eq_getElem?_getD, List.getElem?_eq_getElem hi, Option.getD_some]
      exact of_decide_eq_true ho
    refine Sat.bind (hJ.connectAt hi ho hc) fun p c' h' => ?_
    rw [sat_bind, sat_modSess, sat_pure]
    exact h'

theorem sessionConnectReminderDevices : Within (Inv (AtPool (AtClosed J))) sessionConnectReminderDevices := by
  have hconn : Within (Inv (AtPool (AtClosed J))) (forEachAif connectReminder) := by
    refine within_inv.2 fun c hc => sat_forEachAif hJ.set (fun done a todo c h => ?_) hc
    unfold connectReminder
    rw [sat_ite, sat_pure]
    refine ⟨fun ho => ?_, fun _ => h⟩
    exact ((hJ.connect done a todo 1 c h.1 h.2 ho).and (aifStep_connectToOpened a 1 c)).mono fun p c' h' =>
      ⟨h'.1, h'.2.state.trans h.2⟩
  have hdisc (ret : Int) : Within (Inv (AtPool (AtClosed J))) (mapEachAif disconnectOpened ret) := by
    refine within_inv.2 fun c hc => sat_mapEachAif hJ.set (fun done a todo ret c h => ?_) hc
    exact ((hJ.disconnect done a todo ret c h.1 h.2).and (aifStep_disconnectOpened ret a c)).mono fun p c' h' =>
      ⟨h'.1, h'.2.state.trans h.2⟩
  exact within_bind hconn fun r => within_ite (within_bind (hdisc r) fun _ => hJ.graphClose) (within_pure _)

theorem sessionOpenWithoutDevice : Within (Inv (AtPool (AtClosed J))) sessionOpenWithoutDevice := by
  refine within_bind within_get fun c => within_bind
    (hJ.graphStep fun c => (sat_graphOpen c _ _).mono fun _ _ h => h.1) fun _ => within_ite (within_pure _) ?_
  refine within_bind (hJ.graphStep (step_of_call CallFrame.graphRegisterCb)) fun _ => within_ite ?_ ?_
  · exact within_bind hJ.graphClose fun _ => within_pure _
  · cases c.sess.params with
    | none => exact within_pure _
    | some p =>
      refine within_bind (hJ.graphStep (step_of_call (callFrame_graphCall.graphSetConfig p))) fun _ => within_ite ?_ ?_
      · exact within_bind hJ.graphClose fun _ => within_pure _
      · exact within_bind (hJ.modSess (fun _ => rfl) (fun _ => rfl) fun _ => rfl) fun _ => within_pure _

theorem openLoopback : Within (Inv (AtPool (AtClosed J))) openLoopback :=
  within_bind within_get fun _ => within_ite
    (within_bind (hJ.edgeStep (edge_sessionSetLoopback _ _)) fun _ => within_ite
      (within_bind (hJ.modSess (fun _ => rfl) (fun _ => rfl) fun _ => rfl) fun _ => within_pure _) (within_pure _))
    (within_pure _)

theorem openEcRef : Within (Inv (AtPool (AtClosed J))) openEcRef :=
  within_bind within_get fun _ => within_ite
    (within_bind (hJ.edgeStep (edge_sessionSetEcRef _ _)) fun _ => within_ite
      (within_bind (hJ.modSess (fun _ => rfl) (fun _ => rfl) fun _ => rfl) fun _ => within_pure _) hJ.openLoopback)
    hJ.openLoopback

theorem sessionOpenBody (mode : SessMode) : Within (Inv (AtPool (AtClosed J))) (sessionOpenBody mode) := by
  refine within_bind (hJ.modSess (fun _ => rfl) (fun _ => rfl) fun _ => rfl) fun _ => within_ite ?_ ?_
  · exact within_bind hJ.sessionOpenWithFirstDevice fun _ => within_ite (within_pure _) <|
      within_bind hJ.sessionConnectReminderDevices fun _ => within_ite (within_pure _) hJ.openEcRef
  · exact within_bind hJ.sessionOpenWithoutDevice fun _ => within_ite (within_pure _) hJ.openLoopback

theorem sessionObjOpen (mode : SessMode) : Within (Inv (AtPool J)) (sessionObjOpen mode) := by
  refine within_inv.2 fun c hJc => ?_
  unfold Service.sessionObjOpen
  rw [sat_bind, sat_get, sat_ite, sat_pure]
  refine ⟨fun _ => hJc, fun hc => ?_⟩
  have hcl : AtPool (AtClosed J) c := ⟨hJc, Decidable.not_not.1 hc⟩
  refine Sat.bind (within_inv.1 (hJ.sessionOpenBody mode) c hcl) fun e c₁ h₁ => ?_
  cases e.1 with
  | done =>
    rw [sat_ite, sat_pure, sat_bind, sat_modSess, sat_pure]
    exact ⟨fun _ => h₁.1, fun _ => hJ.sess c₁ _ _ h₁.1 rfl fun h => nomatch h⟩
  | unwind =>
    have hdisc : Sat (mapEachAif disconnectOpened 0) c₁ fun _ c₂ => AtPool (AtClosed J) c₂ := by
      refine sat_mapEachAif hJ.set (fun done a todo ret c h => ?_) h₁
      exact ((hJ.disconnect done a todo ret c h.1 h.2).and (aifStep_disconnectOpened ret a c)).mono fun p c' h' =>
        ⟨h'.1, h'.2.state.trans h.2⟩
    refine Sat.bind hdisc fun _ c₂ h₂ => ?_
    refine Sat.bind (within_inv.1 hJ.graphClose c₂ h₂) fun _ c₃ h₃ => ?_
    exact (sat_pure _ _ _).2 h₃.1

end OpenTurns

/-! ## One back end of the list -/

theorem SessionObj.aifAt_setAif (s : SessionObj) {i : Nat} (hi : i < s.aifPool.length) (a : Aif) :
    (s.setAif i a).aifAt i = a := by
  simp [SessionObj.aifAt, SessionObj.setAif, hi]

theorem SessionObj.aifAt_setAif_of_ne (s : SessionObj) {i j : Nat} (h : i ≠ j) (a : Aif) :
    (s.setAif i a).aifAt j = s.aifAt j := by
  simp [SessionObj.aifAt, SessionObj.setAif, h]

theorem SessionObj.aifAt_mem (s : SessionObj) {i : Nat} (hi : i < s.aifPool.length) : s.aifAt i ∈ s.aifPool := by
  rw [SessionObj.aifAt, List.getD_eq_getElem?_getD, List.getElem?_eq_getElem hi, Option.getD_some]
  exact List.getElem_mem hi

/-- `aif_obj_get` finds the back end, or appends a closed one. -/
theorem sat_aifObjGet (aifId : Nat) (c : Ctx) :
    Sat (aifObjGet aifId) c fun r c' =>
      match r with
      | .error e => e = -ENOMEM ∧ c' = c
      | .ok i => i < c'.sess.aifPool.length ∧
        ((c' = c ∧ c.sess.aifPool.findIdx? (fun a => a.aifId = aifId) = some i) ∨
          (c.sess.aifPool.findIdx? (fun a => a.aifId = aifId) = none ∧ i = c.sess.aifPool.length ∧
            c' = { c with sess :=
              { c.sess with aifPool := c.sess.aifPool ++ [{ aifId := aifId, devObj := aifId }] } })) := by
  unfold aifObjGet
  rw [sat_bind, sat_get]
  cases hf : c.sess.aifPool.findIdx? (fun a => a.aifId = aifId) with
  | some i =>
    obtain ⟨hi, -⟩ := List.findIdx?_eq_some_iff_getElem.1 hf
    exact (sat_pure _ _ _).2 ⟨hi, .inl ⟨rfl, rfl⟩⟩
  | none =>
    unfold deviceGetObj
    by_cases h : aifId < c.hw.numAudioIntfs
    · simp only [h, if_true, sat_bind, sat_modSess, sat_pure, List.length_append, List.length_singleton]
      exact ⟨Nat.lt_succ_self _, .inr ⟨trivial, trivial, trivial⟩⟩
    · simp only [h, if_false, sat_pure]
      exact ⟨trivial, trivial⟩

/-! ## What the back ends hold -/

/-- What no operation changes of a back end. -/
def Aif.fixed (a : Aif) : Aif := { a with state := .closed, params := none, tagConfig := none }

theorem Aif.fixed_of_base {a b : Aif} (h : b.base = a.base) : b.fixed = a.fixed := by
  have := congrArg Aif.fixed h
  exact this

theorem Aif.state_of_base {a b : Aif} (h : b.base = a.base) : b.state = a.state := by
  have := congrArg Aif.state h
  exact this

theorem Aif.isOpened_of_base {a b : Aif} (h : b.base = a.base) : b.isOpened = a.isOpened := by
  rw [Aif.isOpened, Aif.isOpened, Aif.state_of_base h]

/-- What a back end is, and whether it holds its device. -/
def Aif.holding (a : Aif) : Aif × Bool := (a.fixed, a.isOpened)

theorem isOpened_prepared {a : Aif} (h : a.state = .opened ∨ a.state = .stopped) :
    ({ a with state := .prepared } : Aif).isOpened = a.isOpened := by
  rcases h with h | h <;> simp [Aif.isOpened, h, AifState.rank]

theorem isOpened_started {a : Aif} (h : a.state = .opened ∨ a.state = .prepared ∨ a.state = .stopped) :
    ({ a with state := .started } : Aif).isOpened = a.isOpened := by
  rcases h with h | h | h <;> simp [Aif.isOpened, h, AifState.rank]

theorem isOpened_stopped {a : Aif} {state : AifState} (h : a.state = .started)
    (hs : state = .opened ∨ state = .stopped) : ({ a with state := state } : Aif).isOpened = a.isOpened := by
  rcases hs with rfl | rfl <;> simp [Aif.isOpened, h, AifState.rank]

/-- Preparing, starting and stopping neither take a device nor give one up. -/
theorem turns_holding (L : List (Aif × Bool)) : Turns fun _ l => l.map Aif.holding = L where
  sess _ _ _ h _ _ := h
  call _ _ _ h _ _ := h
  pool _ _ _ h _ := h
  prepare done a todo c h := by
    refine (sat_prepareAif a c).mono fun p c' h' => ?_
    rw [← h]
    obtain ⟨-, -, ⟨rfl, hst, -⟩ | ⟨ha, -⟩⟩ := h'
    · have : Aif.holding { a with state := .prepared } = a.holding := Prod.ext rfl (isOpened_prepared hst)
      simp only [List.map_append, List.map_cons, this]
    · rw [ha]
  start done a todo c h := by
    refine (sat_startAif a c).mono fun p c' h' => ?_
    rw [← h]
    obtain ⟨-, -, ⟨rfl, hst, -⟩ | ⟨ha, -⟩⟩ := h'
    · have : Aif.holding { a with state := .started } = a.holding := Prod.ext rfl (isOpened_started hst)
      simp only [List.map_append, List.map_cons, this]
    · rw [ha]
  stop done a todo state ret c h hstate := by
    refine (sat_stopAif state ret a c).mono fun p c' h' => ?_
    rw [← h]
    obtain ⟨-, -, ⟨hst, ha, -⟩ | ⟨-, ha, -⟩⟩ := h'
    · have : Aif.holding { a with state := state } = a.holding := Prod.ext rfl (isOpened_stopped hst hstate)
      simp only [List.map_append, List.map_cons, ha, this]
    · rw [ha]

/-- Equal holdings: the lists have the same back ends at the same places. -/
theorem aifAt_of_holding {s s' : SessionObj} (h : s'.aifPool.map Aif.holding = s.aifPool.map Aif.holding) (i : Nat) :
    s'.aifPool.length = s.aifPool.length ∧ (s'.aifAt i).holding = (s.aifAt i).holding := by
  refine ⟨by simpa using congrArg List.length h, ?_⟩
  have key := congrArg (fun l : List (Aif × Bool) => l.getD i (Aif.holding default)) h
  have hmap (l : List Aif) : (l.map Aif.holding).getD i (Aif.holding default) = Aif.holding (l.getD i default) := by
    simp only [List.getD_eq_getElem?_getD, List.getElem?_map]
    cases l[i]? <;> rfl
  simp only [hmap] at key
  exact key

/-! ## The other sessions -/

/-- No session object but the locked one was changed; some may have been created.  Of the devices, what is fixed was
not. -/
structure Ctx.Grows (c c' : Ctx) : Prop where
  pool : c.pool.Grows sessionObjCreate c'.pool
  hw : c.hw.Later c'.hw

instance : IsPreorder Ctx Ctx.Grows where
  refl c := ⟨refl_of (Pool.Grows sessionObjCreate) c.pool, refl_of Hw.Later c.hw⟩
  trans _ _ _ h h' := ⟨trans_of (Pool.Grows sessionObjCreate) h.pool h'.pool, trans_of Hw.Later h.hw h'.hw⟩

theorem Ctx.AifStep.grows {c c' : Ctx} (h : c.AifStep c') : c.Grows c' :=
  ⟨by rw [h.pool]; exact refl_of _ _, h.hw⟩

theorem grows_of_aifStep {α : Type} {m : M α} (h : Within Ctx.AifStep m) : Within Ctx.Grows m :=
  h.mono fun _ _ h => h.grows

theorem grows_of_graphStep {α : Type} {m : M α} (h : Within Ctx.GraphStep m) : Within Ctx.Grows m :=
  h.mono fun _ _ h => h.aifStep.grows

theorem grows_of_edgeStep {α : Type} {m : M α} (h : Within Ctx.EdgeStep m) : Within Ctx.Grows m :=
  h.mono fun _ _ h => ⟨h.pool, h.hw.later⟩

theorem grows_modSess (f : SessionObj → SessionObj) : Within Ctx.Grows (modSess f) :=
  within_modify fun c => ⟨refl_of _ c.pool, refl_of Hw.Later c.hw⟩

theorem turns_grows (c₀ : Ctx) : Turns fun c _ => c₀.Grows c where
  sess _ _ _ h _ _ := ⟨h.pool, h.hw⟩
  call _ _ _ h s _ := trans_of Ctx.Grows h s.grows
  pool _ _ _ h hp := ⟨trans_of _ h.pool hp, h.hw⟩
  prepare _ a _ c h := (sat_prepareAif a c).mono fun _ _ h' => trans_of Ctx.Grows h h'.1.grows
  start _ a _ c h := (sat_startAif a c).mono fun _ _ h' => trans_of Ctx.Grows h h'.1.grows
  stop _ a _ state ret c h _ := (sat_stopAif state ret a c).mono fun _ _ h' => trans_of Ctx.Grows h h'.1.grows

theorem openTurns_grows (c₀ : Ctx) : OpenTurns fun c _ => c₀.Grows c where
  toFrame := (turns_grows c₀).toFrame
  connect _ a _ n c h _ _ := (aifStep_connectToOpened a n c).mono fun _ _ h' => trans_of Ctx.Grows h h'.grows
  disconnect _ a _ ret c h _ := (aifStep_disconnectOpened ret a c).mono fun _ _ h' => trans_of Ctx.Grows h h'.grows

theorem grows_of_inv {m : M Int} (h : ∀ c₀, Within (Inv (AtPool fun c _ => Ctx.Grows c₀ c)) m) : Within Ctx.Grows m :=
  fun c => within_inv.1 (h c) c (refl_of Ctx.Grows c)

theorem grows_aifObjGet (aifId : Nat) : Within Ctx.Grows (aifObjGet aifId) := by
  intro c
  refine (sat_aifObjGet aifId c).mono fun r c' h => ?_
  cases r with
  | error e =>
    rw [h.2]
    exact refl_of Ctx.Grows c
  | ok i =>
    rcases h.2 with ⟨rfl, -⟩ | ⟨-, -, rfl⟩
    · exact refl_of Ctx.Grows c'
    · exact ⟨refl_of _ c.pool, refl_of Hw.Later c.hw⟩

theorem grows_sessionObjSessAifConnect (aifId : Nat) (aifState : Bool) :
    Within Ctx.Grows (sessionObjSessAifConnect aifId aifState) := by
  have hprep : Within Ctx.Grows sessionPrepare := grows_of_inv fun c₀ => (turns_grows c₀).sessionPrepare
  have hstart : Within Ctx.Grows sessionStart := grows_of_inv fun c₀ => (turns_grows c₀).sessionStart
  have hdisc (a : Aif) (n : Nat) : Within Ctx.Grows (sessionDisconnectAif a n) :=
    grows_of_aifStep fun c => (sat_sessionDisconnectAif a n c).mono fun _ _ h => h.1
  have hcon (i n : Nat) : Within Ctx.Grows (connectAt i n) :=
    within_bind within_get fun _ => within_bind (grows_of_aifStep (aifStep_connectToOpened _ _)) fun _ =>
      within_bind (grows_modSess _) fun _ => within_pure _
  refine within_bind (grows_aifObjGet aifId) fun r => ?_
  cases r with
  | error e => exact within_pure _
  | ok i =>
    refine within_bind within_get fun c => within_ite (within_pure _) (within_ite ?_ ?_)
    · refine within_bind ?_ fun e => ?_
      · refine within_bind within_get fun c => within_ite
          (within_bind (grows_modSess _) fun _ => within_pure _) (within_bind (hcon _ _) fun _ => ?_)
        exact within_ite (within_pure _) <| within_ite (within_pure _) <| within_bind hprep fun _ =>
          within_ite (within_pure _) <| within_ite
            (within_bind hstart fun _ => within_ite (within_pure _) (within_pure _)) (within_pure _)
      · cases e.1 with
        | done => exact within_pure _
        | unwind =>
          exact within_bind (grows_modSess _) fun _ => within_bind within_get fun _ =>
            within_bind (hdisc _ _) fun _ => within_pure _
    · exact within_bind (grows_modSess _) fun _ => within_bind within_get fun _ =>
        within_bind (within_onlyIf (hdisc _ _)) fun _ => within_ite (within_pure _) <|
          within_bind (grows_modSess _) fun _ => within_pure _

theorem grows_sessionClose : Within Ctx.Grows sessionClose := by
  have hset (c : Ctx) (l : List Aif) : c.Grows { c with sess := { c.sess with aifPool := l } } :=
    ⟨refl_of _ c.pool, refl_of Hw.Later c.hw⟩
  have hclose (ret : Int) (a : Aif) : Within Ctx.Grows (closeAif ret a) :=
    grows_of_aifStep fun c => (sat_closeAif ret a c).mono fun _ _ h => h.1
  refine within_bind within_get fun c => within_ite (within_pure _) ?_
  refine within_bind (within_onlyIf (grows_of_graphStep fun c => (sat_graphStop c).mono fun _ _ h => h.1)) fun _ => ?_
  refine within_bind (grows_of_graphStep fun c => (sat_graphClose c).mono fun _ _ h => h.1) fun ret => ?_
  exact within_bind (grows_modSess _) fun _ => within_bind (within_onlyIf (within_mapEachAif hset hclose ret)) fun _ =>
    within_bind (grows_modSess _) fun _ => within_pure _

/-! ## The operations that only set something -/

/-- Configuration, metadata, parameters, loopback and echo reference, and the flow control of the stream. -/
def Op.onlySets : Op → Bool
  | .sessAifConnect _ _ | .open _ | .prepare | .start | .stop | .close => false
  | _ => true

/-- The operations that set an edge. -/
def Op.setsEdge : Op → Bool
  | .setLoopback _ _ | .setEcRef _ _ => true
  | _ => false

/-- The kept edges of a session: the ids, and the flags beside them. -/
def SessionObj.keptEdges (s : SessionObj) : (Nat × Bool) × (Nat × Bool) :=
  ((s.ecRefAifId, s.ecRefState), (s.loopbackSessId, s.loopbackState))

/-- What was written is part neither of a state nor of what is kept of the edges. -/
structure SessionObj.SetsPart (s s' : SessionObj) : Prop where
  state : s'.state = s.state
  graph : s'.graph = s.graph
  kept : s'.keptEdges = s.keptEdges
  aifs : ∀ i, (s'.aifAt i).state = (s.aifAt i).state

/-- A back end is written, but not its state. -/
theorem SessionObj.setsPart_setAif {s : SessionObj} {i : Nat} {a : Aif} (h : a.state = (s.aifAt i).state) :
    s.SetsPart (s.setAif i a) := by
  refine ⟨rfl, rfl, rfl, fun j => ?_⟩
  by_cases hij : i = j
  · subst hij
    by_cases hi : i < s.aifPool.length
    · rw [SessionObj.aifAt_setAif _ hi, h]
    · have hset : s.aifPool.set i a = s.aifPool := List.set_eq_of_length_le (Nat.not_lt.1 hi)
      rw [SessionObj.setAif, hset]
  · rw [SessionObj.aifAt_setAif_of_ne _ hij]

/-- A back end that was not there is closed. -/
theorem SessionObj.setsPart_append {s : SessionObj} {a : Aif} (h : a.state = .closed) :
    s.SetsPart { s with aifPool := s.aifPool ++ [a] } := by
  refine ⟨rfl, rfl, rfl, fun j => ?_⟩
  simp only [SessionObj.aifAt, List.getD_eq_getElem?_getD]
  rcases Nat.lt_trichotomy j s.aifPool.length with hj | rfl | hj
  · rw [List.getElem?_append_left hj]
  · simp [h]
    rfl
  · rw [List.getElem?_eq_none (by simp; omega), List.getElem?_eq_none (Nat.le_of_lt hj)]

/-- A relation that these operations stay within, those that set an edge apart. -/
structure SetFrame (R : Ctx → Ctx → Prop) : Prop extends CallFrame R where
  write : ∀ (c : Ctx) s, c.sess.SetsPart s → R c { c with sess := s }

namespace SetFrame

variable {R : Ctx → Ctx → Prop} [IsPreorder Ctx R] (hR : SetFrame R)

include hR

omit [IsPreorder Ctx R] in
theorem modSess {f : SessionObj → SessionObj} (h : ∀ s : SessionObj, s.SetsPart (f s)) : Within R (modSess f) :=
  within_modify fun c => hR.write c _ (h c.sess)

omit [IsPreorder Ctx R] in
theorem setAif {i : Nat} {f : SessionObj → Aif} (h : ∀ s, (f s).state = (s.aifAt i).state) :
    Within R (Service.modSess fun s => s.setAif i (f s)) := hR.modSess fun s => SessionObj.setsPart_setAif (h s)

theorem aifObjGet (aifId : Nat) : Within R (aifObjGet aifId) := by
  intro c
  refine (sat_aifObjGet aifId c).mono fun r c' h => ?_
  cases r with
  | error e =>
    rw [h.2]
    exact refl_of R c
  | ok i =>
    rcases h.2 with ⟨rfl, -⟩ | ⟨-, -, rfl⟩
    · exact refl_of R c'
    · exact hR.write c _ (SessionObj.setsPart_append rfl)

theorem onAif {aifId : Nat} {k : Nat → M Int} (h : ∀ i, Within R (k i)) :
    Within R (Service.aifObjGet aifId >>= fun r => match r with | .error ret => pure ret | .ok i => k i) := by
  refine within_bind (hR.aifObjGet aifId) fun r => ?_
  cases r with
  | error e => exact within_pure _
  | ok i => exact h i

theorem setConfig (cfg : SessionConfig) (format : MediaFormat) : Within R (sessionObjSetConfig cfg format) := by
  refine within_bind (hR.modSess fun _ => ⟨rfl, rfl, rfl, fun _ => rfl⟩) fun _ => within_ite (within_pure _) ?_
  refine within_bind (hR.modSess fun _ => ⟨rfl, rfl, rfl, fun _ => rfl⟩) fun _ => ?_
  refine within_bind within_get fun c => within_ite ?_ (within_pure _)
  cases c.sess.graph with
  | none => exact within_crash
  | some g => exact hR.graphSetMediaConfigDatapath g

theorem setSessParams (payload : Payload) : Within R (sessionObjSetSessParams payload) := by
  refine within_bind (hR.modSess fun _ => ⟨rfl, rfl, rfl, fun _ => rfl⟩) fun _ => ?_
  refine within_bind within_get fun c => within_ite ?_ (within_pure _)
  exact within_bind (hR.graphSetConfig payload) fun _ =>
    within_bind (hR.modSess fun _ => ⟨rfl, rfl, rfl, fun _ => rfl⟩) fun _ => within_pure _

theorem setSessAifParams (aifId : Nat) (payload : Payload) : Within R (sessionObjSetSessAifParams aifId payload) := by
  refine hR.onAif fun i => within_bind (hR.setAif fun _ => rfl) fun _ => within_bind within_get fun c => ?_
  exact within_ite (within_bind (hR.graphSetConfig payload) fun _ =>
    within_bind (hR.setAif fun _ => rfl) fun _ => within_pure _) (within_pure _)

theorem setSessAifParamsWithTag (aifId : Option Nat) (cfg : TagConfig) :
    Within R (sessionObjSetSessAifParamsWithTag aifId cfg) := by
  cases aifId with
  | none => exact within_bind within_get fun _ => within_ite (within_pure _) (hR.graphSetConfigWithTag _ _)
  | some aifId =>
    refine hR.onAif fun i => within_bind within_get fun c => within_ite ?_ (within_ite (within_pure _) ?_)
    · exact within_bind (hR.setAif fun _ => rfl) fun _ => within_pure _
    · cases mergedMetadata (c.sess.aifAt i) c with
      | none => exact within_pure _
      | some merged => exact hR.graphSetConfigWithTag _ _

/-- The operations that set no edge. -/
theorem run {op : Op} (h : op.onlySets) (he : ¬ op.setsEdge) : Within R op.run := by
  cases op with
  | setConfig cfg format => exact hR.setConfig cfg format
  | setNonTunnelModeConfig cfg format =>
    exact within_bind (hR.modSess fun _ => ⟨rfl, rfl, rfl, fun _ => rfl⟩) fun _ => within_pure _
  | pause => exact within_bind within_get fun _ => within_ite (within_pure _) (hR.graphPauseResume true)
  | resume => exact hR.graphPauseResume false
  | flush => exact hR.graphFlush
  | suspend => exact hR.graphSuspend
  | setSessParams payload => exact hR.setSessParams payload
  | setSessAifParams aifId payload => exact hR.setSessAifParams aifId payload
  | setSessAifParamsWithTag aifId cfg => exact hR.setSessAifParamsWithTag aifId cfg
  | setLoopback pbId state => exact absurd rfl he
  | setEcRef aifId state => exact absurd rfl he
  | setSessMetadata ret md =>
    exact within_bind (hR.modSess fun _ => ⟨rfl, rfl, rfl, fun _ => rfl⟩) fun _ => within_pure _
  | setSessAifMetadata aifId ret md =>
    exact hR.onAif fun i => within_bind (hR.setAif fun _ => rfl) fun _ => within_pure _
  | _ => cases h

end SetFrame

/-- The operations that set an edge, for a relation that does not look at what is kept of the edges. -/
theorem within_setsEdge {R : Ctx → Ctx → Prop} [IsPreorder Ctx R]
    (hwrite : ∀ f : SessionObj → SessionObj, (∀ s, (f s).state = s.state ∧ (f s).graph = s.graph ∧
      (f s).aifPool = s.aifPool) → Within R (modSess f))
    (hloopback : ∀ pbId enable, Within R (sessionSetLoopback pbId enable))
    (hecRef : ∀ aifId enable, Within R (sessionSetEcRef aifId enable)) {op : Op} (he : op.setsEdge) :
    Within R op.run := by
  cases op with
  | setLoopback pbId state =>
    refine within_bind within_get fun c => within_ite (within_pure _) ?_
    exact within_bind (within_onlyIf (hloopback _ _)) fun _ =>
      within_ite (within_pure _) (within_bind (hwrite _ fun _ => ⟨rfl, rfl, rfl⟩) fun _ => within_pure _)
  | setEcRef aifId state =>
    refine within_bind within_get fun c => within_ite (within_pure _) ?_
    exact within_bind (within_onlyIf (hecRef _ _)) fun _ =>
      within_ite (within_pure _) (within_bind (hwrite _ fun _ => ⟨rfl, rfl, rfl⟩) fun _ => within_pure _)
  | _ => cases he

theorem setFrame_grows : SetFrame Ctx.Grows where
  toCallFrame := callFrame_graphCall.mono fun _ _ h => h.aifStep.grows
  write c _ _ := ⟨refl_of _ c.pool, refl_of Hw.Later c.hw⟩

/-- **No operation changes another session.** -/
theorem grows_run (op : Op) : Within Ctx.Grows op.run := by
  have hsets (hop : op.onlySets) : Within Ctx.Grows op.run := by
    by_cases he : op.setsEdge
    · exact within_setsEdge (fun _ _ => grows_modSess _) (fun _ _ => grows_of_edgeStep (edge_sessionSetLoopback _ _))
        (fun _ _ => grows_of_edgeStep (edge_sessionSetEcRef _ _)) he
    · exact setFrame_grows.run hop he
  cases op with
  | sessAifConnect aifId aifState => exact grows_sessionObjSessAifConnect aifId aifState
  | «open» mode => exact grows_of_inv fun c₀ => (openTurns_grows c₀).sessionObjOpen mode
  | prepare => exact grows_of_inv fun c₀ => (turns_grows c₀).sessionPrepare
  | start => exact grows_of_inv fun c₀ => (turns_grows c₀).sessionStart
  | stop => exact grows_of_inv fun c₀ => (turns_grows c₀).sessionStop
  | close => exact grows_sessionClose
  | _ => exact hsets rfl

/-- Every session of the pool satisfies `φ`. -/
def World.Each (φ : SessionObj → Prop) (w : World) : Prop := ∀ s ∈ w.pool.ids, φ (w.pool.objs s)

theorem World.grows_enter (w : World) (o : SessId × Op) : w.pool.Grows sessionObjCreate (w.enter o).pool := by
  unfold World.enter
  split
  · exact refl_of _ _
  · exact Pool.grows_getOrCreate _ _

namespace World.Each

variable {φ : SessionObj → Prop} {w : World} (hw : w.Each φ) (hnew : ∀ s, φ (sessionObjCreate s))

include hw hnew

/-- What is created satisfies it too. -/
theorem grow {p : Pool SessionObj} (hp : w.pool.Grows sessionObjCreate p) : ∀ s ∈ p.ids, φ (p.objs s) := by
  intro s hs
  rcases hp.cases hs with ⟨hm, he⟩ | ⟨-, he⟩
  · rw [he]
    exact hw s hm
  · rw [he]
    exact hnew s

/-- The rule for an invariant of the single session: a new one satisfies it, and the function of the operation keeps
it. -/
theorem step {o : SessId × Op} {w' : World} {r : Int} (h : exec o w = some (r, w'))
    (hrun : φ ((w.enter o).pool.objs o.1) → Sat o.2.run ((w.enter o).lock o.1) fun _ c => φ c.sess) : w'.Each φ := by
  refine exec_inv (I := fun w => w.Each φ) h hw (hw.grow hnew (Pool.grows_getOrCreate _ _)) fun hs hw₀ => ?_
  refine ((hrun (hw₀ o.1 hs)).and (grows_run o.2 _)).mono fun _ c hc => ?_
  obtain ⟨hφ, hg⟩ := hc
  intro s hs
  show φ ((c.pool.put o.1 c.sess).objs s)
  by_cases hso : s = o.1
  · rw [hso, Pool.put_objs_self]
    exact hφ
  · rw [Pool.put_objs_of_ne _ _ hso]
    exact hw.grow hnew (trans_of _ (w.grows_enter o) hg.pool) s hs

end World.Each

end Agm.Service
