import Agm.Service.HwFrame

/-!
# What every operation stays within

A relation that looks at the graph of the session and at the calls alike is kept by an operation if the functions of
`graph.c` and `device.c` keep it.  `OpFrame R` asks this of each of them once; for `graph_open` only where the session
has no graph yet, which is the only place it is called from.
-/

namespace Agm.Service

open Agm.Lib

structure OpFrame (R : Ctx → Ctx → Prop) : Prop where
  graphOpen : ∀ md dev c, c.sess.graph = none → Sat (graphOpen md dev) c fun _ c' => R c c'
  graphClose : Within R graphClose
  graphPrepare : Within R graphPrepare
  graphStart : Within R graphStart
  graphStop : ∀ md, Within R (graphStop md)
  graphAdd : ∀ md o dev, Within R (graphAdd md o dev)
  graphChange : ∀ md dev, Within R (graphChange md dev)
  graphRemove : ∀ md o, Within R (graphRemove md o)
  graphSetConfig : ∀ payload, Within R (graphSetConfig payload)
  graphSetConfigWithTag : ∀ gkv cfg, Within R (graphSetConfigWithTag gkv cfg)
  graphPauseResume : ∀ pause, Within R (graphPauseResume pause)
  graphFlush : Within R graphFlush
  graphSuspend : Within R graphSuspend
  mediaConfig : ∀ c g, c.sess.graph = some g → Sat (graphSetMediaConfigDatapath g) c fun _ c' => R c c'
  deviceOpen : ∀ d, Within R (onHw (deviceOpen d))
  devicePrepare : ∀ d, Within R (onHw (devicePrepare d))
  deviceStart : ∀ d, Within R (onHw (deviceStart d))
  deviceStop : ∀ d, Within R (onHw (deviceStop d))
  deviceClose : ∀ d, Within R (onHw (deviceClose d))
  params : ∀ d, Within R (onHw (modify fun hw => hw.setDev d { hw.devs d with params := none }))
  modSess : ∀ f : SessionObj → SessionObj, (∀ s, (f s).graph = s.graph) → Within R (modSess f)
  sessionObjGet : ∀ id, Within R (sessionObjGet id)

namespace OpFrame

variable {R : Ctx → Ctx → Prop} [IsPreorder Ctx R] (hR : OpFrame R)

/-- What a function keeps that is called on the way. -/
theorem sat_of_within {α : Type} {m : M α} {c c₁ : Ctx} (hm : Within R m) (h₁ : R c c₁) :
    Sat m c₁ fun _ c' => R c c' := (hm c₁).mono fun _ _ h₂ => trans_of R h₁ h₂

include hR

omit [IsPreorder Ctx R] in
theorem set (c : Ctx) (l : List Aif) : R c { c with sess := { c.sess with aifPool := l } } :=
  (sat_modSess _ _ _).1 (hR.modSess (fun s => { s with aifPool := l }) (fun _ => rfl) c)

omit [IsPreorder Ctx R] in
theorem setState (state : SessionState) : Within R (Service.modSess fun s => { s with state := state }) :=
  hR.modSess _ fun _ => rfl

/-! ## Cached parameters -/

theorem sessionApplyParams : Within R sessionApplyParams := by
  refine within_bind within_get fun c => ?_
  cases c.sess.params with
  | none => exact within_pure _
  | some p =>
    exact within_ite (within_bind (hR.graphSetConfig p) fun _ =>
      within_bind (hR.modSess _ fun _ => rfl) fun _ => within_pure _) (within_pure _)

theorem sessionApplyAifParams (a : Aif) : Within R (sessionApplyAifParams a) := by
  unfold Service.sessionApplyAifParams
  cases a.params with
  | none => exact within_pure _
  | some p => exact within_bind (hR.graphSetConfig p) fun _ => within_ite (within_pure _) (within_pure _)

theorem sessionApplyAifDeviceParams (d : DevId) : Within R (sessionApplyAifDeviceParams d) := by
  refine within_bind within_get fun c => ?_
  cases (c.hw.devs d).params with
  | none => exact within_pure _
  | some p =>
    exact within_ite (within_pure _) <| within_bind (hR.graphSetConfig p) fun _ =>
      within_bind (hR.params d) fun _ => within_pure _

theorem sessionApplyAifTagParams (merged : Metadata) (a : Aif) : Within R (sessionApplyAifTagParams merged a) := by
  unfold Service.sessionApplyAifTagParams
  cases a.tagConfig with
  | none => exact within_pure _
  | some cfg => exact within_bind (hR.graphSetConfigWithTag _ _) fun _ => within_pure _

theorem sessionApplyCached (merged : Metadata) (a : Aif) : Within R (sessionApplyCached merged a) :=
  within_bind hR.sessionApplyParams fun _ => within_ite (within_pure _) <|
    within_bind (hR.sessionApplyAifParams a) fun p => within_ite (within_pure _) <|
      within_bind (hR.sessionApplyAifDeviceParams _) fun _ => within_ite (within_pure _) <|
        hR.sessionApplyAifTagParams merged p.2

/-! ## Connecting and disconnecting -/

theorem closeDevice (a : Aif) : Within R (closeDevice a) :=
  within_bind (hR.deviceClose _) fun _ => within_pure _

theorem disconnectDevice (a : Aif) : Within R (disconnectDevice a) :=
  within_bind within_get fun _ => within_ite
    (within_bind (hR.deviceStop _) fun _ => hR.deviceClose _) (hR.deviceClose _)

theorem sessionDisconnectAif (a : Aif) (n : Nat) : Within R (sessionDisconnectAif a n) := by
  refine within_bind within_get fun c => ?_
  cases mergedMetadata a c with
  | none => exact within_pure _
  | some merged =>
    refine within_ite ?_ (within_bind (hR.graphRemove _ _) fun _ => hR.disconnectDevice a)
    cases metadataMerge c.hw.build [some a.sessAifMeta, some (c.hw.devs a.devObj).metadata] with
    | none => exact within_pure _
    | some sessAif => exact within_bind (hR.graphStop _) fun _ => hR.disconnectDevice a

omit hR in
theorem graphRegisterCb : Within R graphRegisterCb := within_withGraph fun _ => within_pure _

/-- The graph is opened only by the first connect of a closed session. -/
theorem sessionConnectGraph (merged : Metadata) (a : Aif) {n : Nat} {c : Ctx}
    (h : n = 0 → c.sess.state = .closed → c.sess.graph = none) :
    Sat (sessionConnectGraph merged a n) c fun _ c' => R c c' := by
  unfold Service.sessionConnectGraph
  rw [sat_bind, sat_get, sat_ite]
  refine ⟨fun hn => ?_, fun _ => within_bind (hR.graphAdd _ _ _) (fun _ => within_pure _) c⟩
  rw [sat_ite]
  refine ⟨fun hs => ?_, fun _ => within_bind (hR.graphChange _ _) (fun _ => within_pure _) c⟩
  refine Sat.bind (hR.graphOpen _ _ c (h hn hs)) fun r c₁ h₁ => ?_
  have hrest : Within R (if r ≠ 0 then pure (ConnectLabel.closeDevice, r) else do
      let ret ← Service.graphRegisterCb
      pure (.graphCleanup merged, ret) : M (ConnectLabel × Int)) :=
    within_ite (within_pure _) (within_bind graphRegisterCb fun _ => within_pure _)
  exact sat_of_within hrest h₁

theorem sessionConnectAif (a : Aif) {n : Nat} {c : Ctx} (h : n = 0 → c.sess.state = .closed → c.sess.graph = none) :
    Sat (sessionConnectAif a n) c fun _ c' => R c c' := by
  have hbody : Sat (sessionConnectBody a n) c fun _ c' => R c c' := by
    unfold sessionConnectBody
    rw [sat_bind, sat_get]
    cases mergedMetadata a c with
    | none => exact (sat_pure _ _ _).2 (refl_of R c)
    | some merged =>
      -- the device is opened first, which does not touch the session
      have hdev := (hR.deviceOpen a.devObj c).and (sat_onHw_later (sat_deviceOpen a.devObj c.hw))
      refine Sat.bind hdev fun r c₁ h₁ => ?_
      obtain ⟨h₁, -, hsess, -⟩ := h₁
      rw [sat_ite, sat_pure]
      refine ⟨fun _ => h₁, fun _ => ?_⟩
      refine Sat.bind (hR.sessionConnectGraph merged a (n := n) (c := c₁) (by rw [hsess]; exact h)) fun p c₂ h₂ => ?_
      rw [sat_ite, sat_pure]
      refine ⟨fun _ => trans_of R h₁ h₂, fun _ => ?_⟩
      have hrest : Within R (do
          let q ← Service.sessionApplyCached merged a
          if q.1 ≠ 0 then pure ⟨.graphCleanup merged, q.1, q.2⟩ else pure ⟨.done, 0, q.2⟩ : M ConnectExit) :=
        within_bind (hR.sessionApplyCached merged a) fun _ => within_ite (within_pure _) (within_pure _)
      exact sat_of_within hrest (trans_of R h₁ h₂)
  refine Sat.bind hbody fun e c₁ h₁ => ?_
  have hend {m : M (Int × Aif)} (hm : Within R m) : Sat m c₁ fun _ c' => R c c' :=
    sat_of_within hm h₁
  cases e.label with
  | done => exact hend (within_pure _)
  | graphCleanup merged =>
    exact hend (within_bind (within_ite hR.graphClose (hR.graphRemove _ _)) fun _ =>
      within_bind (hR.closeDevice _) fun _ => within_pure _)
  | closeDevice => exact hend (within_bind (hR.closeDevice _) fun _ => within_pure _)

theorem connectToOpened (a : Aif) {n : Nat} {c : Ctx} (h : n = 0 → c.sess.state = .closed → c.sess.graph = none) :
    Sat (connectToOpened a n) c fun _ c' => R c c' := by
  refine Sat.bind (hR.sessionConnectAif a h) fun p c₁ h₁ => ?_
  rw [sat_ite, sat_pure, sat_pure]
  exact ⟨fun _ => h₁, fun _ => h₁⟩

/-! ## Preparing, starting and stopping -/

theorem prepareAif (a : Aif) : Within R (prepareAif a) :=
  within_ite (within_bind (hR.devicePrepare _) fun _ => within_ite (within_pure _) (within_pure _)) (within_pure _)

theorem startAif (a : Aif) : Within R (startAif a) :=
  within_ite (within_bind (hR.deviceStart _) fun _ => within_ite (within_pure _) (within_pure _)) (within_pure _)

theorem prepareStartAif (a : Aif) : Within R (prepareStartAif a) :=
  within_bind (hR.prepareAif a) fun p => within_ite (within_pure _) (hR.startAif p.2)

theorem sessionStartChecks : Within R sessionStartChecks := by
  have hloop : Within R startLoopbackCheck :=
    within_bind within_get fun _ => within_ite
      (within_bind (hR.sessionObjGet _) fun _ => within_bind within_get fun _ =>
        within_ite (within_pure _) (within_pure _)) (within_pure _)
  have hec : Within R startEcRefCheck := by
    refine within_bind within_get fun c => within_ite ?_ (within_pure _)
    cases deviceGetObj c.sess.ecRefAifId c.hw with
    | error e => exact within_pure _
    | ok d => exact within_ite (within_pure _) (within_pure _)
  exact within_bind hloop fun _ => within_ite (within_pure _) hec

theorem stages : Stages R where
  graphPrepare := hR.graphPrepare
  params := within_forEachAif hR.set fun _ =>
    within_bind (hR.sessionApplyAifDeviceParams _) fun _ => within_pure _
  prepare := within_forEachAif hR.set hR.prepareAif
  prepareGraph :=
    within_bind hR.graphPrepare fun _ => within_ite (within_pure _) <|
      within_bind (hR.setState _) fun _ => within_pure _
  graphStart := hR.graphStart
  graphStop := hR.graphStop none
  checks := hR.sessionStartChecks
  slimbus := within_forEachAif hR.set fun a =>
    within_bind within_get fun _ => within_ite (hR.prepareStartAif a) (within_pure _)
  other := within_forEachAif hR.set fun a =>
    within_bind within_get fun _ => within_ite (within_pure _) (within_ite (hR.startAif a) (hR.prepareStartAif a))
  stop _ _ := within_mapEachAif hR.set (fun _ _ => within_ite
    (within_bind (hR.deviceStop _) fun _ => within_pure _) (within_pure _)) 0

theorem sessionClose : Within R sessionClose := by
  have hclose (ret : Int) (a : Aif) : Within R (closeAif ret a) :=
    within_ite (within_bind (hR.deviceClose _) fun _ => within_pure _) (within_pure _)
  refine within_bind within_get fun c => within_ite (within_pure _) ?_
  refine within_bind (within_onlyIf (hR.graphStop none)) fun _ => within_bind hR.graphClose fun ret => ?_
  exact within_bind (hR.modSess _ fun _ => rfl) fun _ =>
    within_bind (within_onlyIf (within_mapEachAif hR.set hclose ret)) fun _ =>
      within_bind (hR.setState _) fun _ => within_pure _

/-! ## Loopback and echo reference -/

theorem sessionSetLoopback (pbId : SessId) (enable : Bool) : Within R (sessionSetLoopback pbId enable) := by
  have hfree (s : SessionObj) : Within R (freeMergedMetadata s) := within_ite within_crash (within_pure _)
  have hedge (merged : Option Metadata) : Within R (setLoopbackEdge merged pbId enable) := by
    cases merged with
    | none => exact within_pure _
    | some merged => exact within_ite (hR.graphAdd _ _ _) (hR.graphRemove _ _)
  refine within_bind (hR.sessionObjGet pbId) fun _ => within_bind within_get fun c => ?_
  cases sessionGetMergedMetadata c.sess c.hw with
  | none => exact within_pure _
  | some captureMetadata =>
    cases sessionGetMergedMetadata (c.peer pbId) c.hw with
    | none => exact within_bind (hfree _) fun _ => within_pure _
    | some playbackMetadata =>
      exact within_bind (hedge _) fun _ => within_bind (hfree _) fun _ => within_bind (hfree _) fun _ => within_pure _

theorem sessionSetEcRef (aifId : Nat) (enable : Bool) : Within R (sessionSetEcRef aifId enable) := by
  refine within_bind within_get fun c => ?_
  cases deviceGetObj aifId c.hw with
  | error e => exact within_pure _
  | ok d =>
    dsimp only
    cases sessionGetMergedMetadataWithoutAif c.sess c.hw with
    | none => exact within_pure _
    | some captureMetadata =>
      dsimp only
      cases metadataMerge c.hw.build [some captureMetadata, some (c.hw.devs d).metadata] with
      | none => exact within_pure _
      | some merged => exact within_ite (hR.graphAdd _ _ _) (hR.graphRemove _ _)

/-! ## Opening -/

theorem disconnectOpened (ret : Int) (a : Aif) : Within R (disconnectOpened ret a) :=
  within_ite (within_bind (hR.sessionDisconnectAif a 1) fun _ => within_pure _) (within_pure _)

theorem sessionOpenWithFirstDevice {c : Ctx} (h : c.sess.graph = none) :
    Sat sessionOpenWithFirstDevice c fun _ c' => R c c' := by
  unfold Service.sessionOpenWithFirstDevice
  rw [sat_bind, sat_get]
  cases c.sess.aifPool.findIdx? (fun a => a.state = .open) with
  | none => exact (sat_pure _ _ _).2 (refl_of R c)
  | some i =>
    refine Sat.bind (hR.connectToOpened _ fun _ _ => h) fun p c₁ h₁ => ?_
    have hset : Within R (Service.modSess (·.setAif i p.2) >>= fun _ => pure p.1) :=
      within_bind (hR.modSess _ fun _ => rfl) fun _ => within_pure _
    exact sat_of_within hset h₁

theorem sessionConnectReminderDevices : Within R sessionConnectReminderDevices := by
  have hturn (a : Aif) : Within R (connectReminder a) :=
    within_ite (fun _ => hR.connectToOpened a fun h => absurd h (by decide)) (within_pure _)
  refine within_bind (within_forEachAif hR.set hturn) fun ret => within_ite ?_ (within_pure _)
  exact within_bind (within_mapEachAif hR.set hR.disconnectOpened ret) fun _ => hR.graphClose

theorem sessionOpenWithoutDevice {c : Ctx} (h : c.sess.graph = none) :
    Sat sessionOpenWithoutDevice c fun _ c' => R c c' := by
  unfold Service.sessionOpenWithoutDevice
  rw [sat_bind, sat_get]
  refine Sat.bind (hR.graphOpen _ _ c h) fun r c₁ h₁ => ?_
  rw [sat_ite, sat_pure]
  refine ⟨fun _ => h₁, fun _ => ?_⟩
  refine sat_of_within ?_ h₁
  refine within_bind graphRegisterCb fun _ => within_ite (within_bind hR.graphClose fun _ => within_pure _) ?_
  cases c.sess.params with
  | none => exact within_pure _
  | some p =>
    exact within_bind (hR.graphSetConfig p) fun _ => within_ite
      (within_bind hR.graphClose fun _ => within_pure _)
      (within_bind (hR.modSess _ fun _ => rfl) fun _ => within_pure _)

theorem openLoopback : Within R openLoopback :=
  within_bind within_get fun _ => within_ite
    (within_bind (hR.sessionSetLoopback _ _) fun _ => within_ite
      (within_bind (hR.modSess _ fun _ => rfl) fun _ => within_pure _) (within_pure _)) (within_pure _)

theorem openEcRef : Within R openEcRef :=
  within_bind within_get fun _ => within_ite
    (within_bind (hR.sessionSetEcRef _ _) fun _ => within_ite
      (within_bind (hR.modSess _ fun _ => rfl) fun _ => within_pure _) hR.openLoopback) hR.openLoopback

theorem sessionOpenBody (mode : SessMode) {c : Ctx} (h : c.sess.graph = none) :
    Sat (sessionOpenBody mode) c fun _ c' => R c c' := by
  unfold Service.sessionOpenBody
  have hmode := hR.modSess (fun s => { s with streamConfig := { s.streamConfig with sessMode := mode } })
    (fun _ => rfl) c
  have hkept : Sat (Service.modSess fun s => { s with streamConfig := { s.streamConfig with sessMode := mode } }) c
      fun _ c' => c'.sess.graph = none := (sat_modSess _ _ _).2 h
  refine Sat.bind (hmode.and hkept) fun _ c₁ h₁ => ?_
  obtain ⟨h₁, hgraph⟩ := h₁
  rw [sat_ite]
  refine ⟨fun _ => ?_, fun _ => ?_⟩
  · refine Sat.bind (hR.sessionOpenWithFirstDevice hgraph) fun r c₂ h₂ => ?_
    have hrest : Within R (if r ≠ 0 then pure (OpLabel.done, r) else do
        let ret ← Service.sessionConnectReminderDevices
        if ret ≠ 0 then pure (.done, ret) else Service.openEcRef : M (OpLabel × Int)) :=
      within_ite (within_pure _) <| within_bind hR.sessionConnectReminderDevices fun _ =>
        within_ite (within_pure _) hR.openEcRef
    exact sat_of_within hrest (trans_of R h₁ h₂)
  · refine Sat.bind (hR.sessionOpenWithoutDevice hgraph) fun r c₂ h₂ => ?_
    have hrest : Within R (if r ≠ 0 then pure (OpLabel.done, r) else Service.openLoopback : M (OpLabel × Int)) :=
      within_ite (within_pure _) hR.openLoopback
    exact sat_of_within hrest (trans_of R h₁ h₂)

theorem sessionObjOpen (mode : SessMode) {c : Ctx} (h : c.sess.state = .closed → c.sess.graph = none) :
    Sat (sessionObjOpen mode) c fun _ c' => R c c' := by
  unfold Service.sessionObjOpen
  rw [sat_bind, sat_get, sat_ite, sat_pure]
  refine ⟨fun _ => refl_of R c, fun hs => ?_⟩
  refine Sat.bind (hR.sessionOpenBody mode (h (Decidable.not_not.1 hs))) fun e c₁ h₁ => ?_
  have hend {m : M Int} (hm : Within R m) : Sat m c₁ fun _ c' => R c c' :=
    sat_of_within hm h₁
  cases e.1 with
  | done => exact hend (within_ite (within_pure _) (within_bind (hR.setState _) fun _ => within_pure _))
  | unwind =>
    exact hend (within_bind (within_mapEachAif hR.set hR.disconnectOpened 0) fun _ =>
      within_bind hR.graphClose fun _ => within_pure _)

/-! ## The operations -/

theorem aifObjGet (aifId : Nat) : Within R (aifObjGet aifId) := by
  refine within_bind within_get fun c => ?_
  cases c.sess.aifPool.findIdx? (fun a => a.aifId = aifId) with
  | some i => exact within_pure _
  | none =>
    dsimp only
    cases deviceGetObj aifId c.hw with
    | error e => exact within_pure _
    | ok d => exact within_bind (hR.modSess _ fun _ => rfl) fun _ => within_pure _

theorem onAif {aifId : Nat} {k : Nat → M Int} (h : ∀ i, Within R (k i)) :
    Within R (Service.aifObjGet aifId >>= fun r => match r with | .error ret => pure ret | .ok i => k i) := by
  refine within_bind (hR.aifObjGet aifId) fun r => ?_
  cases r with
  | error e => exact within_pure _
  | ok i => exact h i

theorem hotConnect (i n : Nat) : Within R (hotConnect i n) := by
  intro c
  by_cases hc : c.sess.state = .closed
  · have hbody : Sat (hotConnectBody i n) c fun e c' => e.1 = .done ∧ R c c' := by
      unfold hotConnectBody
      rw [sat_bind, sat_get, if_pos hc]
      exact Sat.bind (hR.modSess (·.setAifState i .open) (fun _ => rfl) c) fun _ c₁ h₁ => (sat_pure _ _ _).2 ⟨rfl, h₁⟩
    refine Sat.bind hbody fun e c₁ h₁ => ?_
    rw [h₁.1]
    exact (sat_pure _ _ _).2 h₁.2
  · have hcon : Sat (connectAt i n) c fun _ c' => R c c' := by
      unfold connectAt
      rw [sat_bind, sat_get]
      refine Sat.bind (hR.connectToOpened (c.sess.aifAt i) (n := n) fun _ hs => absurd hs hc) fun p c₁ h₁ => ?_
      have hset : Within R (Service.modSess (·.setAif i p.2) >>= fun _ => pure p.1) :=
        within_bind (hR.modSess _ fun _ => rfl) fun _ => within_pure _
      exact sat_of_within hset h₁
    exact hR.stages.hotConnect (hR.setState _) (hR.modSess _ fun _ => rfl) hR.sessionDisconnectAif hcon hc

theorem hotDisconnect (i n : Nat) : Within R (hotDisconnect i n) :=
  within_bind (hR.modSess _ fun _ => rfl) fun _ => within_bind within_get fun _ =>
    within_bind (within_onlyIf (hR.sessionDisconnectAif _ _)) fun _ => within_ite (within_pure _) <|
      within_bind (hR.modSess _ fun _ => rfl) fun _ => within_pure _

theorem setConfig (cfg : SessionConfig) (format : MediaFormat) : Within R (sessionObjSetConfig cfg format) := by
  refine within_bind (hR.modSess _ fun _ => rfl) fun _ => within_ite (within_pure _) ?_
  refine within_bind (hR.modSess _ fun _ => rfl) fun _ => fun c => ?_
  rw [sat_bind, sat_get, sat_ite, sat_pure]
  refine ⟨fun _ => ?_, fun _ => refl_of R c⟩
  cases hg : c.sess.graph with
  | none => exact (sat_crash _ _).2 trivial
  | some g => exact hR.mediaConfig c g hg

theorem setSessAifParamsWithTag (aifId : Option Nat) (cfg : TagConfig) :
    Within R (sessionObjSetSessAifParamsWithTag aifId cfg) := by
  cases aifId with
  | none => exact within_bind within_get fun _ => within_ite (within_pure _) (hR.graphSetConfigWithTag _ _)
  | some aifId =>
    refine hR.onAif fun i => within_bind within_get fun c => within_ite ?_ (within_ite (within_pure _) ?_)
    · exact within_bind (hR.modSess _ fun _ => rfl) fun _ => within_pure _
    · cases mergedMetadata (c.sess.aifAt i) c with
      | none => exact within_pure _
      | some merged => exact hR.graphSetConfigWithTag _ _

/-- Every operation but the opening of a session. -/
theorem runOther (op : Op) (h : ∀ mode, op ≠ .open mode) : Within R op.run := by
  cases op with
  | sessAifConnect aifId aifState =>
    exact hR.onAif fun i => within_bind within_get fun c => within_ite (within_pure _) <|
      within_ite (hR.hotConnect i _) (hR.hotDisconnect i _)
  | «open» mode => exact absurd rfl (h mode)
  | setConfig cfg format => exact hR.setConfig cfg format
  | setNonTunnelModeConfig cfg format => exact within_bind (hR.modSess _ fun _ => rfl) fun _ => within_pure _
  | prepare => exact hR.stages.sessionPrepare
  | start => exact hR.stages.sessionStart (hR.setState _)
  | stop => exact hR.stages.sessionStop (hR.setState _)
  | close => exact hR.sessionClose
  | pause => exact within_bind within_get fun _ => within_ite (within_pure _) (hR.graphPauseResume true)
  | resume => exact hR.graphPauseResume false
  | flush => exact hR.graphFlush
  | suspend => exact hR.graphSuspend
  | setSessParams payload =>
    exact within_bind (hR.modSess _ fun _ => rfl) fun _ => within_bind within_get fun c =>
      within_ite (within_bind (hR.graphSetConfig payload) fun _ =>
        within_bind (hR.modSess _ fun _ => rfl) fun _ => within_pure _) (within_pure _)
  | setSessAifParams aifId payload =>
    exact hR.onAif fun i => within_bind (hR.modSess _ fun _ => rfl) fun _ => within_bind within_get fun c =>
      within_ite (within_bind (hR.graphSetConfig payload) fun _ =>
        within_bind (hR.modSess _ fun _ => rfl) fun _ => within_pure _) (within_pure _)
  | setSessAifParamsWithTag aifId cfg => exact hR.setSessAifParamsWithTag aifId cfg
  | setLoopback pbId state =>
    exact within_bind within_get fun c => within_ite (within_pure _) <|
      within_bind (within_onlyIf (hR.sessionSetLoopback _ _)) fun _ =>
        within_ite (within_pure _) (within_bind (hR.modSess _ fun _ => rfl) fun _ => within_pure _)
  | setEcRef aifId state =>
    exact within_bind within_get fun c => within_ite (within_pure _) <|
      within_bind (within_onlyIf (hR.sessionSetEcRef _ _)) fun _ =>
        within_ite (within_pure _) (within_bind (hR.modSess _ fun _ => rfl) fun _ => within_pure _)
  | setSessMetadata ret md => exact within_bind (hR.modSess _ fun _ => rfl) fun _ => within_pure _
  | setSessAifMetadata aifId ret md =>
    exact hR.onAif fun i => within_bind (hR.modSess _ fun _ => rfl) fun _ => within_pure _

/-- **Every operation**, on a session that has no graph while it is closed. -/
theorem run (op : Op) {c : Ctx} (h : c.sess.state = .closed → c.sess.graph = none) :
    Sat op.run c fun _ c' => R c c' := by
  by_cases hop : ∃ mode, op = .open mode
  · obtain ⟨mode, rfl⟩ := hop
    exact hR.sessionObjOpen mode h
  · exact hR.runOther op (fun mode he => hop ⟨mode, he⟩) c

end OpFrame

/-- A relation that does not look at the sessions. -/
theorem SysFrame.opFrame {R : Hw → Hw → Prop} [IsPreorder Hw R] (hR : SysFrame R)
    (hstart : ∀ d, Within R (deviceStart d)) (hstop : ∀ d, Within R (deviceStop d)) : OpFrame (Ctx.OnHw R) where
  graphOpen md dev c _ := hR.graphOpen md dev rfl rfl c
  graphClose := hR.graphClose rfl
  graphPrepare := hR.graphPrepare
  graphStart := hR.graphStart
  graphStop := hR.graphStop
  graphAdd md o dev := hR.graphAdd md o dev rfl
  graphChange md dev := hR.graphChange md dev rfl
  graphRemove md o := hR.graphRemove md o rfl
  graphSetConfig payload := hR.graphSetConfig payload rfl
  graphSetConfigWithTag gkv cfg := hR.graphSetConfigWithTag gkv cfg rfl
  graphPauseResume pause := hR.graphPauseResume pause rfl
  graphFlush := hR.graphFlush
  graphSuspend := hR.graphSuspend
  mediaConfig c g _ := hR.graphSetMediaConfigDatapath g c
  deviceOpen d := TraceFrame.onHw (hR.deviceOpen d)
  devicePrepare d := TraceFrame.onHw (hR.devicePrepare d)
  deviceStart d := TraceFrame.onHw (hstart d)
  deviceStop d := TraceFrame.onHw (hstop d)
  deviceClose d := TraceFrame.onHw (hR.deviceClose d)
  params d := TraceFrame.onHw (within_modify fun hw => hR.params hw d)
  modSess f _ := HwFrame.within_modSess f
  sessionObjGet id := HwFrame.sessionObjGet id

end Agm.Service
