import Agm.Service.MetadataCopy
import Agm.Service.OpenCount
import Agm.Service.OpenResult
import Agm.Service.RestartCalls

/-!
# Preparing a device that nobody has open

`device_prepare` hands the PCM of its device to ALSA, and where nobody has the device open there is none.  A client can
bring the service there: `session_disconnect_aif` closes the device of a back end that was never connected, and a device
that another session counts on is gone.  An operation on a session whose back ends do not wait on such a device comes
back.
-/

namespace Agm.Service

open Agm.Lib

/-- A back end of the list waits to be prepared, and nobody has its PCM open. -/
def Hw.waitsClosed (hw : Hw) (l : List Aif) : Bool := l.any fun a => a.toPrepare ∧ hw.nOpen (hw.pcmObj a.devObj) = 0

/-- The operation prepares the back ends of its session, and one of them waits on a PCM that nobody has open. -/
def Op.preparesClosed (c : Ctx) : Op → Bool
  | .prepare | .start => c.sess.hasDevices && c.hw.waitsClosed c.sess.aifPool
  | .sessAifConnect _ true => c.sess.state ∉ [SessionState.closed, .opened] && c.sess.hasDevices &&
      c.hw.waitsClosed c.sess.aifPool
  | _ => false

/-- Nobody waits on a closed PCM. -/
def WaitsOpen (c : Ctx) (l : List Aif) : Prop := ∀ a ∈ l, a.toPrepare → c.hw.nOpen (c.hw.pcmObj a.devObj) ≠ 0

theorem waitsOpen_iff (c : Ctx) (l : List Aif) : WaitsOpen c l ↔ ¬ c.hw.waitsClosed l := by
  simp [WaitsOpen, Hw.waitsClosed]

theorem WaitsOpen.replace {c c' : Ctx} {done todo : List Aif} {a b : Aif} (h : WaitsOpen c (done ++ a :: todo))
    (hn : ∀ o, c'.hw.nOpen o = c.hw.nOpen o) (hp : c'.hw.pcmObj = c.hw.pcmObj) (hb : b.toPrepare → b = a) :
    WaitsOpen c' (done ++ b :: todo) := by
  intro x hx hw
  rw [hn, hp]
  rcases List.mem_append.1 hx with hx | hx
  · exact h x (List.mem_append_left _ hx) hw
  rcases List.mem_cons.1 hx with rfl | hx
  · rw [hb hw]
    rw [hb hw] at hw
    exact h a (List.mem_append_right _ List.mem_cons_self) hw
  · exact h x (List.mem_append_right _ (List.mem_cons_of_mem a hx)) hw

theorem pcmObj_of_core {hw hw' : Hw} (h : hw'.core = hw.core) : hw'.pcmObj = hw.pcmObj :=
  Hw.pcmObj_of_fixed (Hw.fixed_of_core h)

theorem frame_waitsOpen : Frame WaitsOpen where
  sess _ _ _ h _ _ := h
  pool _ _ _ h _ := h
  call c c' l h _ hcore a ha hw := by
    rw [nOpen_of_core hcore, pcmObj_of_core hcore]
    exact h a ha hw

section

variable {done todo : List Aif} {a : Aif} {c : Ctx} (h : WaitsOpen c (done ++ a :: todo))

include h

/-- A device that is open can be prepared. -/
theorem returns_prepareAif : Returns (prepareAif a) c fun p c' => WaitsOpen c' (done ++ p.2 :: todo) := by
  refine ⟨?_, (sat_prepareAif a c).mono fun p c' hp => ?_⟩
  · unfold prepareAif
    by_cases hs : a.state = .opened ∨ a.state = .stopped
    · rw [if_pos hs]
      have hopen := h a (List.mem_append_right _ List.mem_cons_self) (decide_eq_true hs)
      have hdev : (devicePrepare a.devObj c.hw).isSome := by
        unfold devicePrepare
        rw [bind_apply (show (get : Prog Hw Hw) c.hw = some (c.hw, c.hw) from rfl)]
        by_cases hn : (c.hw.devs (c.hw.pcmObj a.devObj)).refcnt.nPrepare ≠ 0
        · rw [if_pos hn]
          rfl
        · have hopen : ¬ (c.hw.devs (c.hw.pcmObj a.devObj)).refcnt.nOpen = 0 := hopen
          rw [if_neg hn, if_neg hopen]
          exact total_bind (total_ask _) (fun _ => total_ite (total_pure _) <| total_bind (total_modify _) fun _ =>
            total_pure _) c.hw
      have hon : (onHw (devicePrepare a.devObj) c).isSome := by
        rw [onHw, zoom, Option.isSome_map]
        exact hdev
      obtain ⟨p, hp⟩ := Option.isSome_iff_exists.1 hon
      rw [bind_apply hp]
      exact total_ite (total_pure _) (total_pure _) p.2
    · rw [if_neg hs]
      rfl
  · obtain ⟨-, -, ⟨rfl, -, -, hcore⟩ | ⟨hp, -, hcore⟩⟩ := hp
    · have hback := hcore.trans (Hw.core_prepared a.devObj c.hw).symm
      refine h.replace (fun o => ?_) ?_ fun hw => absurd hw (by simp [Aif.toPrepare])
      · rw [nOpen_of_core hback, Hw.nOpen_prepared]
      · rw [pcmObj_of_core hback, Hw.pcmObj_of_fixed (Hw.fixed_prepared _ _)]
    · exact h.replace (nOpen_of_core hcore) (pcmObj_of_core hcore) fun _ => hp

theorem returns_startAif : Returns (startAif a) c fun p c' => WaitsOpen c' (done ++ p.2 :: todo) := by
  have htotal : Total (startAif a) :=
    total_ite (total_bind (total_onHw (total_bind total_get fun _ => total_ite (total_pure _) <|
      total_bind (total_modify _) fun _ => total_pure _)) fun _ => total_ite (total_pure _) (total_pure _)) (total_pure _)
  refine htotal.returns ((sat_startAif a c).mono fun p c' hp => ?_)
  obtain ⟨-, -, ⟨rfl, -, -, hcore⟩ | ⟨hp, -, -, hcore⟩⟩ := hp
  · have hback := hcore.trans (Hw.core_started a.devObj c.hw).symm
    refine h.replace (fun o => ?_) ?_ fun hw => absurd hw (by simp [Aif.toPrepare])
    · rw [nOpen_of_core hback, Hw.nOpen_started]
    · rw [pcmObj_of_core hback, Hw.pcmObj_of_fixed (Hw.fixed_started _ _)]
  · exact h.replace (nOpen_of_core hcore) (pcmObj_of_core hcore) fun _ => hp

theorem returns_prepareStartAif :
    Returns (prepareStartAif a) c fun p c' => WaitsOpen c' (done ++ p.2 :: todo) :=
  (returns_prepareAif h).bind fun _ _ hp => returns_ite (fun _ => returns_pure hp) fun _ => returns_startAif hp

end

/-- A walk whose turns come back comes back. -/
theorem keeps_forEachAif {J : Ctx → List Aif → Prop} (hJ : Frame J) {body : Aif → M (Int × Aif)}
    (step : ∀ done a todo c, J c (done ++ a :: todo) → Returns (body a) c fun p c' => J c' (done ++ p.2 :: todo)) :
    Keeps (AtPool J) (forEachAif body) := by
  intro c h
  have hwalk := returns_forEach step h
  refine ⟨?_, within_inv.1 (hJ.forEachAif fun done a todo c hc => (step done a todo c hc).2) c h⟩
  obtain ⟨p, hp⟩ := Option.isSome_iff_exists.1 hwalk.1
  unfold forEachAif
  rw [bind_apply (show (get : M Ctx) c = some (c, c) from rfl), bind_apply hp]
  rfl

/-! ## The operations that prepare -/

theorem total_graphPrepare : Total graphPrepare := by
  refine total_withGraph fun g => total_bind total_get fun c => total_ite (total_pure _) ?_
  refine total_bind (total_forEach (fun m => ?_) _) fun _ => total_bind (total_modify _) fun _ =>
    total_ite (total_pure _) ?_
  · refine total_bind total_get fun c => total_ite (total_pure _) <| total_ite (total_pure _) <|
      total_ite (total_pure _) <| total_ite (total_ite (total_pure _) (total_configureModule _ _)) (total_pure _)
  · have hset (cfg : SessionConfig) : Total (setBufferParams g.handle cfg) :=
      total_ite (total_bind (total_onHw (total_askGsl _)) fun _ => total_ite (total_pure _) (total_onHw (total_askGsl _)))
        (total_ite (total_onHw (total_askGsl _)) (total_onHw (total_askGsl _)))
    have hbuf : Total (configureBufferParams g) := total_bind total_get fun c => total_ite (total_pure _) <|
      total_bind (hset _) fun _ => total_ite (total_pure _) <| total_bind (total_modify _) fun _ => total_pure _
    exact total_bind (total_ite hbuf (total_pure _)) fun _ => total_ite (total_pure _) <|
      total_bind (total_onHw (total_askGsl _)) fun _ => total_ite (total_pure _) <| total_bind (total_modify _) fun _ =>
        total_pure _

theorem total_graphStart : Total graphStart :=
  total_withGraph fun _ => total_bind (total_onHw (total_askGsl _)) fun _ => total_ite (total_pure _) <|
    total_bind (total_modify _) fun _ => total_pure _

theorem total_sessionApplyAifDeviceParams (d : DevId) : Total (sessionApplyAifDeviceParams d) := by
  refine total_bind total_get fun c => ?_
  cases (c.hw.devs d).params with
  | none => exact total_pure _
  | some p =>
    refine total_ite (total_pure _) <| total_bind (total_withGraph fun _ => total_onHw (total_askGsl _)) fun _ =>
      total_bind (total_onHw (total_modify _)) fun _ => total_pure _

theorem waitsOpen_graphPrepare : Keeps (AtPool WaitsOpen) graphPrepare :=
  total_graphPrepare.keeps frame_waitsOpen.graphPrepare

theorem waitsOpen_graphStart : Keeps (AtPool WaitsOpen) graphStart := total_graphStart.keeps frame_waitsOpen.graphStart

theorem waitsOpen_sessionPrepareGraph : Keeps (AtPool WaitsOpen) sessionPrepareGraph :=
  keeps_bind waitsOpen_graphPrepare fun _ => keeps_ite (keeps_pure _) <|
    keeps_bind ((total_modify _).keeps (within_modify fun _ h => h)) fun _ => keeps_pure _

theorem waitsOpen_sessionPrepare : Keeps (AtPool WaitsOpen) sessionPrepare := by
  have hparams : Keeps (AtPool WaitsOpen) (forEachAif fun a => do
      let ret ← sessionApplyAifDeviceParams a.devObj
      pure (ret, a)) := by
    refine keeps_forEachAif frame_waitsOpen fun done a todo c h => ?_
    refine ((total_sessionApplyAifDeviceParams a.devObj).returns
      (core_sessionApplyAifDeviceParams a.devObj c)).bind fun r c₁ h₁ => returns_pure ?_
    exact frame_waitsOpen.call c c₁ _ h h₁.toAifStep h₁.core
  have hprep : Keeps (AtPool WaitsOpen) (forEachAif prepareAif) :=
    keeps_forEachAif frame_waitsOpen fun _ _ _ _ h => returns_prepareAif h
  refine keeps_bind keeps_get fun c => keeps_ite (keeps_ite (keeps_pure _) ?_) ?_
  · refine keeps_bind hparams fun _ => keeps_ite (keeps_pure _) (keeps_ite ?_ ?_)
    · refine keeps_bind (keeps_onlyIf waitsOpen_graphPrepare) fun _ => keeps_ite (keeps_pure _) ?_
      refine keeps_bind hprep fun _ => keeps_ite (keeps_pure _) ?_
      exact keeps_ite waitsOpen_sessionPrepareGraph (keeps_pure _)
    · exact keeps_ite waitsOpen_sessionPrepareGraph (keeps_pure _)
  · exact keeps_ite waitsOpen_sessionPrepareGraph (keeps_pure _)

theorem total_sessionStartChecks : Total sessionStartChecks := by
  have hec : Total startEcRefCheck := by
    refine total_bind total_get fun c => total_ite ?_ (total_pure _)
    cases deviceGetObj c.sess.ecRefAifId c.hw with
    | error e => exact total_pure _
    | ok d => exact total_ite (total_pure _) (total_pure _)
  refine total_bind (total_bind total_get fun c => total_ite ?_ (total_pure _)) fun _ =>
    total_ite (total_pure _) hec
  exact total_bind (total_modify _) fun _ => total_bind total_get fun _ => total_ite (total_pure _) (total_pure _)

theorem waitsOpen_sessionStartBody : Keeps (AtPool WaitsOpen) sessionStartBody := by
  have hslimbus : Keeps (AtPool WaitsOpen) (forEachAif startSlimbus) := by
    refine keeps_forEachAif frame_waitsOpen fun done a todo c h => ?_
    refine (keeps_get (I := fun c => WaitsOpen c (done ++ a :: todo)) c h).bind fun _ _ h₁ => ?_
    exact returns_ite (fun _ => returns_prepareStartAif h₁) fun _ => returns_pure h₁
  have hother : Keeps (AtPool WaitsOpen) (forEachAif startOther) := by
    refine keeps_forEachAif frame_waitsOpen fun done a todo c h => ?_
    refine (keeps_get (I := fun c => WaitsOpen c (done ++ a :: todo)) c h).bind fun _ _ h₁ => ?_
    refine returns_ite (fun _ => returns_pure h₁) fun _ => ?_
    exact returns_ite (fun _ => returns_startAif h₁) fun _ => returns_prepareStartAif h₁
  have hchecks : Keeps (AtPool WaitsOpen) sessionStartChecks :=
    total_sessionStartChecks.keeps frame_waitsOpen.sessionStartChecks
  have hstart (p : Prop) [Decidable p] : Keeps (AtPool WaitsOpen) (onlyIf p graphStart) :=
    keeps_onlyIf waitsOpen_graphStart
  refine keeps_bind keeps_get fun c => keeps_ite (keeps_ite (keeps_pure _) ?_) ?_
  · refine keeps_bind (keeps_onlyIf hchecks) fun _ => keeps_ite (keeps_pure _) ?_
    refine keeps_bind keeps_get fun c => ?_
    refine keeps_bind (hstart _) fun _ => keeps_ite (keeps_pure _) ?_
    refine keeps_bind hslimbus fun _ => keeps_ite (keeps_pure _) ?_
    refine keeps_bind (hstart _) fun _ => keeps_ite (keeps_pure _) ?_
    refine keeps_bind hother fun _ => keeps_ite (keeps_pure _) ?_
    exact keeps_bind (hstart _) fun _ => keeps_ite (keeps_pure _) (keeps_pure _)
  · exact keeps_bind waitsOpen_graphStart fun _ => keeps_ite (keeps_pure _) (keeps_pure _)

theorem total_graphStop : Total (graphStop none) :=
  total_withGraph fun _ => total_ite (total_pure _) <| total_bind (total_onHw (total_askGsl _)) fun _ =>
    total_bind (total_modify _) fun _ => total_pure _

theorem total_startDeviceStop : Total startDeviceStop := by
  refine total_bind total_get fun c => total_ite ?_ (total_pure _)
  refine total_bind (total_bind total_get fun c => total_bind (total_mapEach (fun ret a => ?_) _ _) fun _ =>
    total_bind (total_modify _) fun _ => total_pure _) fun _ => total_pure _
  exact total_ite (total_bind (total_onHw (total_deviceStop _)) fun _ => total_pure _) (total_pure _)

/-! ## Sessions with and without devices -/

/-- If the session has devices, none of its back ends waits on a closed PCM. -/
def Ctx.CanPrepare (c : Ctx) : Prop := c.sess.hasDevices → AtPool WaitsOpen c

theorem returns_sessionPrepare {c : Ctx} (h : c.CanPrepare) : Returns sessionPrepare c fun _ c' => c'.CanPrepare := by
  by_cases hd : c.sess.hasDevices
  · exact (waitsOpen_sessionPrepare c (h hd)).mono fun _ _ h' _ => h'
  have hgraph : Returns sessionPrepareGraph c fun _ c' => c'.CanPrepare := by
    have htotal : Total sessionPrepareGraph :=
      total_bind total_graphPrepare fun _ => total_ite (total_pure _) <| total_bind (total_modify _) fun _ => total_pure _
    refine htotal.returns (Sat.bind (sat_graphPrepare c) fun r c₁ h₁ => ?_)
    have hno : ¬ c₁.sess.hasDevices := by
      rw [SessionObj.hasDevices, h₁.1.aifStep.streamConfig]
      exact hd
    rw [sat_ite, sat_pure, sat_bind, sat_modSess, sat_pure]
    exact ⟨fun _ h => absurd h hno, fun _ h => absurd h hno⟩
  have hif : Returns (if c.sess.state ≠ .started then sessionPrepareGraph else pure 0) c fun _ c' => c'.CanPrepare :=
    returns_ite (fun _ => hgraph) fun _ => returns_pure h
  unfold sessionPrepare
  refine ⟨?_, ?_⟩
  · rw [bind_apply (show (get : M Ctx) c = some (c, c) from rfl), if_neg hd]
    exact hif.1
  · rw [sat_bind, sat_get, if_neg hd]
    exact hif.2

theorem isSome_sessionStart {c : Ctx} (h : c.CanPrepare) : (sessionStart c).isSome := by
  have hbody : (sessionStartBody c).isSome := by
    by_cases hd : c.sess.hasDevices
    · exact (waitsOpen_sessionStartBody c (h hd)).1
    · unfold sessionStartBody
      rw [bind_apply (show (get : M Ctx) c = some (c, c) from rfl), if_neg hd]
      exact total_bind total_graphStart (fun _ => total_ite (total_pure _) (total_pure _)) c
  obtain ⟨p, hp⟩ := Option.isSome_iff_exists.1 hbody
  unfold sessionStart
  rw [bind_apply hp]
  cases p.1.1 with
  | done => exact total_ite (total_pure _) (total_bind (total_modify _) fun _ => total_pure _) p.2
  | unwind => exact total_bind total_graphStop (fun _ => total_bind total_startDeviceStop fun _ => total_pure _) p.2
  | deviceStop => exact total_bind total_startDeviceStop (fun _ => total_pure _) p.2

/-- The back end that a connect has opened sits on a PCM that is open. -/
theorem sat_connectAt_canPrepare {i n : Nat} {c : Ctx} (h : c.CanPrepare) :
    Sat (connectAt i n) c fun r c' => r = 0 → c'.CanPrepare := by
  unfold connectAt connectToOpened
  rw [sat_bind, sat_get, sat_bind, sat_bind]
  refine (sat_sessionConnectAif (c.sess.aifAt i) n c).mono fun p c₁ h₁ => ?_
  obtain ⟨hstep, hbase, h₁⟩ := h₁
  rw [sat_ite, sat_pure, sat_pure, sat_bind, sat_modSess, sat_pure, sat_bind, sat_modSess, sat_pure]
  refine ⟨fun hne h0 => absurd h0 hne, fun h0 _ hd b hb hw => ?_⟩
  have hdev : p.2.devObj = (c.sess.aifAt i).devObj := by
    have := congrArg Aif.devObj hbase
    exact this
  have hcore : c₁.hw.core = (c.hw.opened (c.sess.aifAt i).devObj).core := by
    rcases h₁ with ⟨-, -, hcore⟩ | ⟨hne, -⟩
    · exact hcore.trans (Hw.core_opened _ _).symm
    · exact absurd hne h0
  have hn (o : DevId) := (nOpen_of_core hcore o).trans (Hw.nOpen_opened o)
  have hp : c₁.hw.pcmObj = c.hw.pcmObj := (pcmObj_of_core hcore).trans (Hw.pcmObj_of_fixed (Hw.fixed_opened _ _))
  have hnonneg := c.hw.nOpen_nonneg (c.hw.pcmObj b.devObj)
  show c₁.hw.nOpen (c₁.hw.pcmObj b.devObj) ≠ 0
  rw [hn, hp]
  rcases List.mem_or_eq_of_mem_set hb with hb | rfl
  · have hd : c.sess.hasDevices := by
      rw [SessionObj.hasDevices, ← hstep.streamConfig]
      exact hd
    rw [hstep.aifPool] at hb
    have := h hd b hb hw
    split <;> omega
  · rw [hdev] at hnonneg ⊢
    rw [if_pos rfl]
    omega

theorem isSome_hotConnect {i n : Nat} {c : Ctx}
    (h : c.sess.state ∉ [SessionState.closed, .opened] → c.CanPrepare) : (hotConnect i n c).isSome := by
  have hbody : (hotConnectBody i n c).isSome := by
    have htotal : Total (connectAt i n) := total_bind total_get fun _ => total_bind (total_connectToOpened _ _) fun _ =>
      total_bind (total_modify _) fun _ => total_pure _
    unfold hotConnectBody
    rw [bind_apply (show (get : M Ctx) c = some (c, c) from rfl)]
    by_cases hcl : c.sess.state = .closed
    · rw [if_pos hcl]
      rfl
    rw [if_neg hcl]
    by_cases ho : c.sess.state = .opened
    · rw [if_pos ho]
      exact total_bind htotal (fun _ => total_ite (total_pure _) (total_pure _)) c
    rw [if_neg ho]
    have hcon := sat_connectAt_canPrepare (i := i) (n := n) (h (by simp [hcl, ho]))
    refine (htotal.returns hcon).isSome_bind fun r c₁ h₁ => ?_
    by_cases hr : r ≠ 0
    · rw [if_pos hr]
      rfl
    rw [if_neg hr]
    refine (returns_sessionPrepare (h₁ (not_not.1 hr))).isSome_bind fun r c₂ h₂ => ?_
    split
    · rfl
    split
    · have hstart : Returns sessionStart c₂ fun _ _ => True := ⟨isSome_sessionStart h₂, fun _ _ _ => trivial⟩
      exact hstart.isSome_bind fun r c₃ _ => total_ite (total_pure _) (total_pure _) c₃
    · rfl
  obtain ⟨p, hp⟩ := Option.isSome_iff_exists.1 hbody
  unfold hotConnect
  rw [bind_apply hp]
  cases p.1.1 with
  | done => rfl
  | unwind =>
    exact total_bind (total_modify _) (fun _ => total_bind total_get fun _ =>
      total_bind (total_sessionDisconnectAif _ _) fun _ => total_pure _) p.2

theorem total_hotDisconnect (i n : Nat) : Total (hotDisconnect i n) :=
  total_bind (total_modify _) fun _ => total_bind total_get fun _ =>
    total_bind (total_ite (total_sessionDisconnectAif _ _) (total_pure _)) fun _ => total_ite (total_pure _) <|
      total_bind (total_modify _) fun _ => total_pure _

/-- The operation prepares the back ends of its session. -/
def Op.mayPrepare : Op → Bool
  | .prepare | .start | .sessAifConnect _ _ => true
  | _ => false

/-- An operation that does not prepare a device which nobody has open comes back. -/
theorem isSome_run {op : Op} (hop : op.mayPrepare) {c : Ctx} (h : ¬ op.preparesClosed c) : (op.run c).isSome := by
  have hcan {c : Ctx} (h : ¬ (c.sess.hasDevices && c.hw.waitsClosed c.sess.aifPool)) : c.CanPrepare := fun hd =>
    (waitsOpen_iff c _).2 fun hw => h (by rw [hd, hw]; rfl)
  cases op with
  | prepare => exact (returns_sessionPrepare (hcan h)).1
  | start => exact isSome_sessionStart (hcan h)
  | sessAifConnect aifId state =>
    have hget := (total_aifObjGet aifId).returns (sat_aifObjGet aifId c)
    refine hget.isSome_bind fun r c₁ h₁ => ?_
    cases r with
    | error e => rfl
    | ok i =>
      -- a back end that was just made is closed and does not wait
      have hsame : c₁.sess.state = c.sess.state ∧ c₁.sess.hasDevices = c.sess.hasDevices ∧
          c₁.hw.waitsClosed c₁.sess.aifPool = c.hw.waitsClosed c.sess.aifPool := by
        obtain ⟨-, ⟨rfl, -⟩ | ⟨-, -, rfl⟩⟩ := h₁
        · exact ⟨rfl, rfl, rfl⟩
        · simp [Hw.waitsClosed, SessionObj.hasDevices, Aif.toPrepare]
      obtain ⟨hst, hd, hw⟩ := hsame
      dsimp only
      rw [bind_apply (show (get : M Ctx) c₁ = some (c₁, c₁) from rfl)]
      split
      · rfl
      cases state with
      | false => exact total_hotDisconnect i _ c₁
      | true =>
        refine isSome_hotConnect fun hopen => hcan ?_
        rw [hd, hw]
        rw [hst] at hopen
        simpa [Op.preparesClosed, hopen] using h
  | _ => cases hop

end Agm.Service
