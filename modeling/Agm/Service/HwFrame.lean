import Agm.Service.TraceFrame
import Agm.Service.Walks

/-!
# What the operations do behind the sessions

A result about the devices, or about the calls that were made, does not look at the session.  `HwFrame P R` is a
relation between states of `Hw` that the GSL calls of the kinds in `P` stay within; the functions of the graph layer
then stay within it.  `SysFrame R` asks the same of `device_open`, `device_prepare` and `device_close`; with
`device_stop` it gives every operation that starts no device.
-/

namespace Agm.Service

open Agm.Lib

/-- The kinds of calls that change neither the graphs GSL holds nor parameters, and are not made to ALSA. -/
def Kind.isNeutral : Kind → Bool
  | .pcmOpen | .pcmPrepare | .pcmStop | .pcmClose | .gslOpen | .gslClose | .addGraph | .changeGraph | .removeGraph
  | .setCustomConfig | .setConfig => false
  | _ => true

structure HwFrame (P : Kind → Bool) (R : Hw → Hw → Prop) : Prop where
  neutral : ∀ hw k, k.kind.isNeutral → R hw (hw.called k)
  ask : ∀ hw k, P k.kind → R hw (hw.called k)
  handle : ∀ hw n, R hw { hw with nextHandle := n }

namespace HwFrame

variable {P : Kind → Bool} {R : Hw → Hw → Prop} [IsPreorder Hw R] (hR : HwFrame P R)

include hR

omit [IsPreorder Hw R] in
theorem within_ask (k : Call) (hk : k.kind.isNeutral ∨ P k.kind) : Within (Ctx.OnHw R) (onHw (Service.ask k)) :=
  within_onHw_ask fun c => hk.elim (hR.neutral c.hw k) (hR.ask c.hw k)

omit [IsPreorder Hw R] in
theorem within_askGsl (k : Call) (hk : k.kind.isNeutral ∨ P k.kind) : Within (Ctx.OnHw R) (onHw (askGsl k)) :=
  within_onHw_askGsl fun c => hk.elim (hR.neutral c.hw k) (hR.ask c.hw k)

omit hR in
theorem within_modSess (f : SessionObj → SessionObj) : Within (Ctx.OnHw R) (modSess f) :=
  within_modify fun c => refl_of R c.hw

omit hR in
theorem within_modGraph (f : GraphObj → GraphObj) : Within (Ctx.OnHw R) (modGraph f) :=
  within_modify fun c => refl_of R c.hw

/-! ## The graph layer -/

theorem getTagsWithModuleInfo (gkv : Gkv) : Within (Ctx.OnHw R) (getTagsWithModuleInfo gkv) :=
  within_bind (hR.within_askGsl _ (.inl rfl)) fun _ => within_ite (hR.within_askGsl _ (.inl rfl)) (within_pure _)

theorem graphOpen (md : Metadata) (dev : Option DevId) (ho : P .gslOpen) (hc : P .gslClose) :
    Within (Ctx.OnHw R) (graphOpen md dev) := by
  have hgsl (mods : List ModuleInfo) : Within (Ctx.OnHw R) (graphOpenGsl md mods) := by
    refine within_bind within_get fun c => within_bind (hR.within_askGsl _ (.inr ho)) fun _ =>
      within_ite (within_pure _) ?_
    have hset : Within (Ctx.OnHw R) (onHw (modify fun hw => { hw with nextHandle := c.hw.nextHandle + 1 })) :=
      TraceFrame.onHw (within_modify fun hw => hR.handle hw _)
    refine within_bind hset fun _ => within_bind (hR.within_askGsl _ (.inl rfl)) fun _ => within_ite ?_ ?_
    · exact within_bind (hR.within_ask _ (.inr hc)) fun _ => within_pure _
    · exact within_bind (within_modSess _) fun _ => within_pure _
  refine within_bind within_get fun c => within_ite (hgsl []) ?_
  refine within_bind (hR.getTagsWithModuleInfo _) fun _ => within_ite (within_pure _) ?_
  cases collectModules md.gkv dev (c.hw.acdb.tagTable md.gkv) with
  | none => exact within_pure _
  | some mods => exact hgsl mods

theorem graphClose (hc : P .gslClose) : Within (Ctx.OnHw R) graphClose :=
  within_bind (within_withGraph fun _ => hR.within_askGsl _ (.inr hc)) fun _ =>
    within_bind (within_modSess _) fun _ => within_pure _

theorem configureModule (h : Handle) (m : ModuleInfo) : Within (Ctx.OnHw R) (configureModule h m) :=
  within_bind (within_modGraph _) fun _ => within_bind (hR.within_ask _ (.inl rfl)) fun _ =>
    within_ite (within_pure _) (within_pure _)

theorem graphPrepare : Within (Ctx.OnHw R) graphPrepare := by
  have hmod (h : Handle) (cfg : SessionConfig) (m : ModuleInfo) : Within (Ctx.OnHw R) (prepareModule h cfg m) :=
    within_bind within_get fun _ =>
      within_ite (within_pure _) <| within_ite (within_pure _) <| within_ite (within_pure _) <|
        within_ite (within_ite (within_pure _) (hR.configureModule h m)) (within_pure _)
  have hbuf (h : Handle) (cfg : SessionConfig) : Within (Ctx.OnHw R) (setBufferParams h cfg) :=
    within_ite
      (within_bind (hR.within_askGsl _ (.inl rfl)) fun _ =>
        within_ite (within_pure _) (hR.within_askGsl _ (.inl rfl)))
      (within_ite (hR.within_askGsl _ (.inl rfl)) (hR.within_askGsl _ (.inl rfl)))
  have hparams (g : GraphObj) : Within (Ctx.OnHw R) (configureBufferParams g) :=
    within_bind within_get fun _ => within_ite (within_pure _) <|
      within_bind (hbuf _ _) fun _ => within_ite (within_pure _) <|
        within_bind (within_modGraph _) fun _ => within_pure _
  refine within_withGraph fun g => within_bind within_get fun c => within_ite (within_pure _) ?_
  refine within_bind (within_forEach (hmod _ _) _) fun p => within_bind (within_modGraph _) fun _ => ?_
  refine within_ite (within_pure _) (within_bind (within_onlyIf (hparams g)) fun _ => within_ite (within_pure _) ?_)
  exact within_bind (hR.within_askGsl _ (.inl rfl)) fun _ => within_ite (within_pure _) <|
    within_bind (within_modGraph _) fun _ => within_pure _

theorem graphStart : Within (Ctx.OnHw R) graphStart :=
  within_withGraph fun _ => within_bind (hR.within_askGsl _ (.inl rfl)) fun _ => within_ite (within_pure _) <|
    within_bind (within_modGraph _) fun _ => within_pure _

theorem graphStop (md : Option Metadata) : Within (Ctx.OnHw R) (graphStop md) := by
  refine within_withGraph fun g => ?_
  cases md with
  | some md =>
    exact within_ite (within_bind (hR.within_ask _ (.inl rfl)) fun _ => hR.within_askGsl _ (.inl rfl))
      (hR.within_askGsl _ (.inl rfl))
  | none =>
    exact within_ite (within_pure _) <| within_bind (hR.within_askGsl _ (.inl rfl)) fun _ =>
      within_bind (within_modGraph _) fun _ => within_pure _

theorem graphAdd (md : Metadata) (o : Owner) (dev : Option DevId) (ha : P .addGraph) :
    Within (Ctx.OnHw R) (graphAdd md o dev) := by
  have hep : Within (Ctx.OnHw R) (graphAddHwEp md dev) := by
    cases dev with
    | none => exact within_pure _
    | some d =>
      exact within_bind within_get fun _ => within_bind (hR.within_askGsl _ (.inl rfl)) fun _ =>
        within_ite (within_pure _) (within_bind (within_modGraph _) fun _ => within_pure _)
  have hmod (h : Handle) (m : ModuleInfo) : Within (Ctx.OnHw R) (addModule h m) :=
    within_bind within_get fun _ => within_ite (within_pure _) <| within_ite (within_pure _) <|
      within_ite (hR.configureModule h m) (within_pure _)
  refine within_withGraph fun g => within_ite (within_pure _) <|
    within_bind (hR.within_askGsl _ (.inr ha)) fun _ => within_ite (within_pure _) ?_
  refine within_bind hep fun _ => within_ite (within_pure _) (within_ite ?_ (within_pure _))
  exact within_bind within_get fun _ => within_bind (within_forEach (hmod _) _) fun _ =>
    within_bind (within_modGraph _) fun _ => within_pure _

theorem graphChange (md : Metadata) (dev : Option DevId) (hc : P .changeGraph) :
    Within (Ctx.OnHw R) (graphChange md dev) := by
  have hmods : Within (Ctx.OnHw R) (graphChangeModules md dev) := by
    cases dev with
    | none => exact within_pure _
    | some d =>
      exact within_bind within_get fun _ => within_bind (hR.within_askGsl _ (.inl rfl)) fun _ =>
        within_ite (within_pure _) (within_bind (within_modGraph _) fun _ => within_pure _)
  have hmod (h : Handle) (m : ModuleInfo) : Within (Ctx.OnHw R) (changeModule h m) := by
    refine within_bind within_get fun _ => ?_
    cases m.devObj with
    | none => exact within_pure _
    | some d => exact within_ite (hR.configureModule h m) (within_pure _)
  refine within_withGraph fun g => within_bind hmods fun _ => within_ite (within_pure _) ?_
  exact within_bind (hR.within_askGsl _ (.inr hc)) fun _ => within_ite (within_pure _) <|
    within_bind within_get fun _ => within_bind (within_forEach (hmod _) _) fun _ =>
      within_bind (within_modGraph _) fun _ => within_pure _

theorem graphRemove (md : Metadata) (o : Owner) (hr : P .removeGraph) : Within (Ctx.OnHw R) (graphRemove md o) :=
  within_withGraph fun _ => hR.within_askGsl _ (.inr hr)

theorem graphSetConfig (payload : Payload) (hs : P .setCustomConfig) : Within (Ctx.OnHw R) (graphSetConfig payload) :=
  within_withGraph fun _ => hR.within_askGsl _ (.inr hs)

theorem graphSetConfigWithTag (gkv : Gkv) (cfg : TagConfig) (hs : P .setConfig) :
    Within (Ctx.OnHw R) (graphSetConfigWithTag gkv cfg) :=
  within_withGraph fun _ => hR.within_askGsl _ (.inr hs)

theorem graphPauseResume (pause : Bool) (hs : P .setCustomConfig) : Within (Ctx.OnHw R) (graphPauseResume pause) := by
  refine within_withGraph fun g => ?_
  cases g.taggedModList.find? (fun m => m.tag = .pause) with
  | none => exact within_pure _
  | some m => exact hR.within_askGsl _ (.inr hs)

theorem graphFlush : Within (Ctx.OnHw R) graphFlush := within_withGraph fun _ => hR.within_askGsl _ (.inl rfl)

theorem graphSuspend : Within (Ctx.OnHw R) graphSuspend := within_withGraph fun _ => hR.within_askGsl _ (.inl rfl)

theorem graphSetMediaConfigDatapath (g : GraphObj) : Within (Ctx.OnHw R) (graphSetMediaConfigDatapath g) := by
  have hloop (h : Handle) (ms : List ModuleInfo) (ret : Int) : Within (Ctx.OnHw R) (mediaConfigLoop h ret ms) := by
    induction ms generalizing ret with
    | nil => exact within_pure _
    | cons m ms ih => exact within_ite (within_bind (hR.within_ask _ (.inl rfl)) fun r => ih r) (ih ret)
  exact within_bind within_get fun _ => within_ite (hloop _ _ _) (within_pure _)

/-! ## The session layer, as far as it touches no device -/

omit hR in
theorem sessionObjGet (id : SessId) : Within (Ctx.OnHw R) (sessionObjGet id) :=
  within_modify fun c => refl_of R c.hw

omit hR in
theorem aifObjGet (aifId : Nat) : Within (Ctx.OnHw R) (aifObjGet aifId) := by
  refine within_bind within_get fun c => ?_
  cases c.sess.aifPool.findIdx? (fun a => a.aifId = aifId) with
  | some i => exact within_pure _
  | none =>
    cases deviceGetObj aifId c.hw with
    | error e => exact within_pure _
    | ok d => exact within_bind (within_modSess _) fun _ => within_pure _

theorem sessionSetLoopback (pbId : SessId) (enable : Bool) (ha : P .addGraph) (hr : P .removeGraph) :
    Within (Ctx.OnHw R) (sessionSetLoopback pbId enable) := by
  have hfree (s : SessionObj) : Within (Ctx.OnHw R) (freeMergedMetadata s) := within_ite within_crash (within_pure _)
  have hedge (merged : Option Metadata) : Within (Ctx.OnHw R) (setLoopbackEdge merged pbId enable) := by
    cases merged with
    | none => exact within_pure _
    | some merged => exact within_ite (hR.graphAdd _ _ _ ha) (hR.graphRemove _ _ hr)
  refine within_bind (sessionObjGet pbId) fun _ => within_bind within_get fun c => ?_
  cases sessionGetMergedMetadata c.sess c.hw with
  | none => exact within_pure _
  | some captureMetadata =>
    cases sessionGetMergedMetadata (c.peer pbId) c.hw with
    | none => exact within_bind (hfree _) fun _ => within_pure _
    | some playbackMetadata =>
      exact within_bind (hedge _) fun _ => within_bind (hfree _) fun _ => within_bind (hfree _) fun _ => within_pure _

theorem sessionSetEcRef (aifId : Nat) (enable : Bool) (ha : P .addGraph) (hr : P .removeGraph) :
    Within (Ctx.OnHw R) (sessionSetEcRef aifId enable) := by
  refine within_bind within_get fun c => ?_
  cases deviceGetObj aifId c.hw with
  | error e => exact within_pure _
  | ok d =>
    cases sessionGetMergedMetadataWithoutAif c.sess c.hw with
    | none => exact within_pure _
    | some captureMetadata =>
      cases hm : metadataMerge c.hw.build [some captureMetadata, some (c.hw.devs d).metadata] with
      | none => simp only [hm]; exact within_pure _
      | some merged =>
        simp only [hm]
        exact within_ite (hR.graphAdd _ _ _ ha) (hR.graphRemove _ _ hr)

omit hR in
theorem sessionStartChecks : Within (Ctx.OnHw R) sessionStartChecks := by
  refine within_bind ?_ fun _ => within_ite (within_pure _) ?_
  · refine within_bind within_get fun c => within_ite ?_ (within_pure _)
    exact within_bind (sessionObjGet _) fun _ => within_bind within_get fun _ =>
      within_ite (within_pure _) (within_pure _)
  · refine within_bind within_get fun c => within_ite ?_ (within_pure _)
    cases deviceGetObj c.sess.ecRefAifId c.hw with
    | error e => exact within_pure _
    | ok d => exact within_ite (within_pure _) (within_pure _)

end HwFrame

/-! ## Whole operations -/

/-- Calls to GSL. -/
def Kind.isGsl : Kind → Bool
  | .pcmOpen | .pcmPrepare | .pcmStop | .pcmClose => false
  | _ => true

structure SysFrame (R : Hw → Hw → Prop) : Prop extends HwFrame Kind.isGsl R where
  deviceOpen : ∀ d, Within R (deviceOpen d)
  devicePrepare : ∀ d, Within R (devicePrepare d)
  deviceClose : ∀ d, Within R (deviceClose d)
  params : ∀ hw d, R hw (hw.setDev d { hw.devs d with params := none })

theorem SysFrame.mono {R R' : Hw → Hw → Prop} (h : SysFrame R) (hR : ∀ hw hw', R hw hw' → R' hw hw') : SysFrame R' where
  neutral hw k hk := hR _ _ (h.neutral hw k hk)
  ask hw k hk := hR _ _ (h.ask hw k hk)
  handle hw n := hR _ _ (h.handle hw n)
  deviceOpen d := (h.deviceOpen d).mono hR
  devicePrepare d := (h.devicePrepare d).mono hR
  deviceClose d := (h.deviceClose d).mono hR
  params hw d := hR _ _ (h.params hw d)

namespace SysFrame

variable {R : Hw → Hw → Prop} [IsPreorder Hw R] (hR : SysFrame R)

open HwFrame (within_modSess aifObjGet sessionStartChecks)

include hR

theorem sessionApplyAifDeviceParams (d : DevId) : Within (Ctx.OnHw R) (sessionApplyAifDeviceParams d) := by
  refine within_bind within_get fun c => ?_
  cases (c.hw.devs d).params with
  | none => exact within_pure _
  | some p =>
    refine within_ite (within_pure _) (within_bind (hR.graphSetConfig p rfl) fun _ => ?_)
    exact within_bind (TraceFrame.onHw (within_modify fun hw => hR.params hw d)) fun _ => within_pure _

theorem sessionApplyCached (merged : Metadata) (a : Aif) : Within (Ctx.OnHw R) (sessionApplyCached merged a) := by
  have hsess : Within (Ctx.OnHw R) sessionApplyParams := by
    refine within_bind within_get fun c => ?_
    cases c.sess.params with
    | none => exact within_pure _
    | some p =>
      exact within_ite (within_bind (hR.graphSetConfig p rfl) fun _ => within_bind (within_modSess _) fun _ =>
        within_pure _) (within_pure _)
  have haif : Within (Ctx.OnHw R) (sessionApplyAifParams a) := by
    unfold sessionApplyAifParams
    cases a.params with
    | none => exact within_pure _
    | some p => exact within_bind (hR.graphSetConfig p rfl) fun _ => within_ite (within_pure _) (within_pure _)
  have htag (b : Aif) : Within (Ctx.OnHw R) (sessionApplyAifTagParams merged b) := by
    unfold sessionApplyAifTagParams
    cases b.tagConfig with
    | none => exact within_pure _
    | some cfg => exact within_bind (hR.graphSetConfigWithTag _ _ rfl) fun _ => within_pure _
  exact within_bind hsess fun _ => within_ite (within_pure _) <| within_bind haif fun p =>
    within_ite (within_pure _) <| within_bind (hR.sessionApplyAifDeviceParams _) fun _ =>
      within_ite (within_pure _) (htag p.2)

theorem sessionConnectAif (a : Aif) (n : Nat) : Within (Ctx.OnHw R) (sessionConnectAif a n) := by
  have hclose (a : Aif) : Within (Ctx.OnHw R) (closeDevice a) :=
    within_bind (TraceFrame.onHw (hR.deviceClose _)) fun _ => within_pure _
  have hgraph (merged : Metadata) : Within (Ctx.OnHw R) (sessionConnectGraph merged a n) := by
    have hreg : Within (Ctx.OnHw R) graphRegisterCb := within_withGraph fun _ => within_pure _
    refine within_bind within_get fun c => within_ite (within_ite ?_ ?_) ?_
    · exact within_bind (hR.graphOpen _ _ rfl rfl) fun _ => within_ite (within_pure _) <|
        within_bind hreg fun _ => within_pure _
    · exact within_bind (hR.graphChange _ _ rfl) fun _ => within_pure _
    · exact within_bind (hR.graphAdd _ _ _ rfl) fun _ => within_pure _
  have hbody : Within (Ctx.OnHw R) (sessionConnectBody a n) := by
    refine within_bind within_get fun c => ?_
    cases mergedMetadata a c with
    | none => exact within_pure _
    | some merged =>
      exact within_bind (TraceFrame.onHw (hR.deviceOpen _)) fun _ => within_ite (within_pure _) <|
        within_bind (hgraph merged) fun _ => within_ite (within_pure _) <|
          within_bind (hR.sessionApplyCached merged a) fun _ => within_ite (within_pure _) (within_pure _)
  refine within_bind hbody fun e => ?_
  cases e.label with
  | done => exact within_pure _
  | graphCleanup merged =>
    refine within_bind ?_ fun _ => within_bind (hclose _) fun _ => within_pure _
    exact within_ite (hR.graphClose rfl) (hR.graphRemove _ _ rfl)
  | closeDevice => exact within_bind (hclose _) fun _ => within_pure _

theorem connectToOpened (a : Aif) (n : Nat) : Within (Ctx.OnHw R) (connectToOpened a n) :=
  within_bind (hR.sessionConnectAif a n) fun _ => within_ite (within_pure _) (within_pure _)

theorem connectAt (i n : Nat) : Within (Ctx.OnHw R) (connectAt i n) :=
  within_bind within_get fun _ => within_bind (hR.connectToOpened _ _) fun _ =>
    within_bind (within_modSess _) fun _ => within_pure _

omit hR in
/-- The walks write the list of the session only. -/
theorem set (c : Ctx) (l : List Aif) :
    Ctx.OnHw R c { c with sess := { c.sess with aifPool := l } } := refl_of R c.hw

theorem prepareAif (a : Aif) : Within (Ctx.OnHw R) (prepareAif a) :=
  within_ite (within_bind (TraceFrame.onHw (hR.devicePrepare _)) fun _ => within_ite (within_pure _) (within_pure _))
    (within_pure _)

theorem sessionPrepareGraph : Within (Ctx.OnHw R) sessionPrepareGraph :=
  within_bind hR.graphPrepare fun _ => within_ite (within_pure _) <|
    within_bind (within_modSess _) fun _ => within_pure _

theorem prepareStages : PrepareStages (Ctx.OnHw R) where
  graphPrepare := hR.graphPrepare
  params := within_forEachAif SysFrame.set fun _ =>
    within_bind (hR.sessionApplyAifDeviceParams _) fun _ => within_pure _
  prepare := within_forEachAif SysFrame.set hR.prepareAif
  prepareGraph := hR.sessionPrepareGraph

theorem sessionClose : Within (Ctx.OnHw R) sessionClose := by
  have hclose (ret : Int) (a : Aif) : Within (Ctx.OnHw R) (closeAif ret a) :=
    within_ite (within_bind (TraceFrame.onHw (hR.deviceClose _)) fun _ => within_pure _) (within_pure _)
  refine within_bind within_get fun c => within_ite (within_pure _) ?_
  refine within_bind (within_onlyIf (hR.graphStop none)) fun _ => within_bind (hR.graphClose rfl) fun ret => ?_
  exact within_bind (within_modSess _) fun _ =>
    within_bind (within_onlyIf (within_mapEachAif SysFrame.set hclose ret)) fun _ =>
      within_bind (within_modSess _) fun _ => within_pure _

/-! The functions that stop a device. -/

section

variable (hstop : ∀ d, Within R (deviceStop d))

include hstop

theorem sessionDisconnectAif (a : Aif) (n : Nat) : Within (Ctx.OnHw R) (sessionDisconnectAif a n) := by
  have hdev : Within (Ctx.OnHw R) (disconnectDevice a) :=
    within_bind within_get fun _ => within_ite
      (within_bind (TraceFrame.onHw (hstop _)) fun _ => TraceFrame.onHw (hR.deviceClose _))
      (TraceFrame.onHw (hR.deviceClose _))
  refine within_bind within_get fun c => ?_
  cases mergedMetadata a c with
  | none => exact within_pure _
  | some merged =>
    refine within_ite ?_ ?_
    · cases metadataMerge c.hw.build [some a.sessAifMeta, some (c.hw.devs a.devObj).metadata] with
      | none => exact within_pure _
      | some sessAif => exact within_bind (hR.graphStop _) fun _ => hdev
    · exact within_bind (hR.graphRemove _ _ rfl) fun _ => hdev

theorem disconnectOpened (ret : Int) (a : Aif) : Within (Ctx.OnHw R) (disconnectOpened ret a) :=
  within_ite (within_bind (hR.sessionDisconnectAif hstop a 1) fun _ => within_pure _) (within_pure _)

theorem sessionObjOpen (mode : SessMode) : Within (Ctx.OnHw R) (sessionObjOpen mode) := by
  have hloop : Within (Ctx.OnHw R) openLoopback :=
    within_bind within_get fun _ => within_ite
      (within_bind (hR.sessionSetLoopback _ _ rfl rfl) fun _ => within_ite
        (within_bind (within_modSess _) fun _ => within_pure _) (within_pure _)) (within_pure _)
  have hec : Within (Ctx.OnHw R) openEcRef :=
    within_bind within_get fun _ => within_ite
      (within_bind (hR.sessionSetEcRef _ _ rfl rfl) fun _ => within_ite
        (within_bind (within_modSess _) fun _ => within_pure _) hloop) hloop
  have hfirst : Within (Ctx.OnHw R) sessionOpenWithFirstDevice := by
    refine within_bind within_get fun c => ?_
    cases c.sess.aifPool.findIdx? (fun a => a.state = .open) with
    | none => exact within_pure _
    | some i => exact within_bind (hR.connectToOpened _ _) fun _ => within_bind (within_modSess _) fun _ => within_pure _
  have hrest : Within (Ctx.OnHw R) sessionConnectReminderDevices := by
    refine within_bind (within_forEachAif SysFrame.set fun a => ?_) fun _ => within_ite ?_ (within_pure _)
    · exact within_ite (hR.connectToOpened a 1) (within_pure _)
    · exact within_bind (within_mapEachAif SysFrame.set (hR.disconnectOpened hstop) _) fun _ => hR.graphClose rfl
  have hbare : Within (Ctx.OnHw R) sessionOpenWithoutDevice := by
    have hreg : Within (Ctx.OnHw R) graphRegisterCb := within_withGraph fun _ => within_pure _
    refine within_bind within_get fun c => within_bind (hR.graphOpen _ _ rfl rfl) fun _ => within_ite (within_pure _) ?_
    refine within_bind hreg fun _ => within_ite (within_bind (hR.graphClose rfl) fun _ => within_pure _) ?_
    cases c.sess.params with
    | none => exact within_pure _
    | some p =>
      exact within_bind (hR.graphSetConfig p rfl) fun _ => within_ite
        (within_bind (hR.graphClose rfl) fun _ => within_pure _)
        (within_bind (within_modSess _) fun _ => within_pure _)
  refine within_bind within_get fun c => within_ite (within_pure _) (within_bind ?_ fun e => ?_)
  · refine within_bind (within_modSess _) fun _ => within_ite ?_ ?_
    · exact within_bind hfirst fun _ => within_ite (within_pure _) <| within_bind hrest fun _ =>
        within_ite (within_pure _) hec
    · exact within_bind hbare fun _ => within_ite (within_pure _) hloop
  · cases e.1 with
    | done => exact within_ite (within_pure _) (within_bind (within_modSess _) fun _ => within_pure _)
    | unwind =>
      exact within_bind (within_mapEachAif SysFrame.set (hR.disconnectOpened hstop) _) fun _ =>
        within_bind (hR.graphClose rfl) fun _ => within_pure _

omit hR in
theorem stopAll (state : AifState) : Within (Ctx.OnHw R) (mapEachAif (stopAif state) 0) :=
  within_mapEachAif SysFrame.set (fun _ _ => within_ite
    (within_bind (TraceFrame.onHw (hstop _)) fun _ => within_pure _) (within_pure _)) 0

theorem sessionStop : Within (Ctx.OnHw R) sessionStop := by
  refine within_bind within_get fun c => within_ite (within_pure _) (within_ite ?_ ?_)
  · refine within_bind (within_onlyIf (hR.graphStop none)) fun _ => within_ite (within_pure _) ?_
    exact within_bind (stopAll hstop _) fun _ => within_bind (within_onlyIf (hR.graphStop none)) fun _ =>
      within_bind (within_modSess _) fun _ => within_pure _
  · exact within_bind (hR.graphStop none) fun _ => within_bind (within_modSess _) fun _ => within_pure _

/-- What `session_start` does at its labels. -/
theorem sessionStart {c : Ctx} {Q : Ctx → Prop} (hQ : ∀ c c' : Ctx, Q c → R c.hw c'.hw → Q c')
    (hbody : Sat sessionStartBody c fun _ c' => Q c') : Sat sessionStart c fun _ c' => Q c' := by
  have hend : Within (Ctx.OnHw R) startDeviceStop :=
    within_bind within_get fun _ => within_ite (within_bind (stopAll hstop _) fun _ => within_pure _) (within_pure _)
  refine Sat.bind hbody fun e c₁ h₁ => ?_
  have key {m : M Int} (hm : Within (Ctx.OnHw R) m) : Sat m c₁ fun _ c' => Q c' := (hm c₁).mono fun _ c' h => hQ c₁ c' h₁ h
  cases e.1 with
  | done => exact key (within_ite (within_pure _) (within_bind (within_modSess _) fun _ => within_pure _))
  | unwind => exact key (within_bind (hR.graphStop none) fun _ => within_bind hend fun _ => within_pure _)
  | deviceStop => exact key (within_bind hend fun _ => within_pure _)

omit hstop in
theorem setFrame : SetFrame (Ctx.OnHw R) where
  ask c k hk := by
    have hkind : k.kind.isNeutral ∨ k.kind.isGsl := by cases k <;> simp_all [Call.isPlain, Call.isPcm, Call.kind, Kind.isNeutral, Kind.isGsl]
    exact hkind.elim (hR.neutral c.hw k) (hR.ask c.hw k)
  modGraph c _ _ := refl_of R c.hw
  write c _ _ := refl_of R c.hw

/-- Every operation that starts no device. -/
theorem run {op : Op} (hop : op ≠ .start) (hcon : ∀ aifId, op ≠ .sessAifConnect aifId true) :
    Within (Ctx.OnHw R) op.run := by
  have hsets (hop : op.onlySets) : Within (Ctx.OnHw R) op.run := by
    by_cases he : op.setsEdge
    · exact within_setsEdge (fun _ _ => within_modSess _) (fun _ _ => hR.sessionSetLoopback _ _ rfl rfl)
        (fun _ _ => hR.sessionSetEcRef _ _ rfl rfl) he
    · exact hR.setFrame.run hop he
  cases op with
  | sessAifConnect aifId aifState =>
    cases aifState with
    | true => exact absurd rfl (hcon aifId)
    | false =>
      refine hR.setFrame.onAif fun i => within_bind within_get fun c => within_ite (within_pure _) ?_
      rw [if_neg (by decide)]
      exact within_bind (within_modSess _) fun _ => within_bind within_get fun _ =>
        within_bind (within_onlyIf (hR.sessionDisconnectAif hstop _ _)) fun _ => within_ite (within_pure _) <|
          within_bind (within_modSess _) fun _ => within_pure _
  | «open» mode => exact hR.sessionObjOpen hstop mode
  | prepare => exact hR.prepareStages.sessionPrepare
  | start => exact absurd rfl hop
  | stop => exact hR.sessionStop hstop
  | close => exact hR.sessionClose
  | _ => exact hsets rfl

end

end SysFrame

end Agm.Service
