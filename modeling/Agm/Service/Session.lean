import Agm.Service.Graph

/-!
# The session layer

The static functions of `session_obj.c`, on the locked session.  Where a function of the source leaves its body
through one of several labels, the body is a definition of its own that says through which label it leaves, and the
function is that body followed by what stands at the label.

The nodes of `aif_pool` are walked with `forEach` (left at the first error) and `mapEach` (never left); the session
itself is written back when the walk is over, since no function called from a walk reads the list.
-/

namespace Agm.Service

open Agm.Lib

/-! ## Back ends and metadata -/

/-- `aif_obj_get`: the place of the back end in the list, where it is created if it is not there. -/
def aifObjGet (aifId : Nat) : M (Except Int Nat) := do
  let c ← get
  match c.sess.aifPool.findIdx? (fun a => a.aifId = aifId) with
  | some i => pure (.ok i)
  | none =>
    match deviceGetObj aifId c.hw with
    | .error _ => pure (.error (-ENOMEM))
    | .ok d => do
      modSess fun s => { s with aifPool := s.aifPool ++ [{ aifId := aifId, devObj := d }] }
      pure (.ok c.sess.aifPool.length)

/-- `session_obj_get` for a session other than the locked one: it is created if it is not there. -/
def sessionObjGet (id : SessId) : M Unit :=
  modify fun c => { c with pool := c.pool.getOrCreate id (sessionObjCreate id) }

/-- The loop of `session_get_merged_metadata` and `session_get_merged_metadata_without_aif`. -/
def mergeAifs (b : Build) (parts : Aif → List (Option Metadata)) : Option Metadata → List Aif → Option Metadata
  | temp, [] => temp
  | temp, a :: as =>
    if a.state = .closed then mergeAifs b parts temp as
    else mergeAifs b parts (metadataMerge b (temp :: parts a)) as

/-- `session_get_merged_metadata`.  In `NON_TUNNEL` mode the result is the session's own metadata, not a copy. -/
def sessionGetMergedMetadata (s : SessionObj) (hw : Hw) : Option Metadata :=
  if s.streamConfig.sessMode ≠ .nonTunnel then
    mergeAifs hw.build (fun a => [some s.sessMeta, some a.sessAifMeta, some (hw.devs a.devObj).metadata]) none
      s.aifPool
  else some s.sessMeta

/-- `session_get_merged_metadata_without_aif`. -/
def sessionGetMergedMetadataWithoutAif (s : SessionObj) (hw : Hw) : Option Metadata :=
  mergeAifs hw.build (fun a => [some s.sessMeta, some a.sessAifMeta]) none s.aifPool

/-- The merge of the session, the session with the back end, and the device. -/
def mergedMetadata (a : Aif) (c : Ctx) : Option Metadata :=
  metadataMerge c.hw.build [some c.sess.sessMeta, some a.sessAifMeta, some (c.hw.devs a.devObj).metadata]

/-! ## Loopback and echo reference -/

/-- The metadata that `session_get_merged_metadata` handed out is freed.  What is not a copy lies inside a session
object, and to free it ends the process. -/
def freeMergedMetadata (s : SessionObj) : M Unit :=
  if s.streamConfig.sessMode = .nonTunnel then crash else pure ()

/-- The edge between the two sides of a loopback. -/
def setLoopbackEdge (merged : Option Metadata) (pbId : SessId) (enable : Bool) : M Int :=
  match merged with
  | none => pure (-ENOMEM)
  | some merged => if enable then graphAdd merged (.loopback pbId) none else graphRemove merged (.loopback pbId)

/-- `session_set_loopback`. -/
def sessionSetLoopback (pbId : SessId) (enable : Bool) : M Int := do
  sessionObjGet pbId
  let c ← get
  match sessionGetMergedMetadata c.sess c.hw with
  | none => pure (-ENOMEM)
  | some captureMetadata =>
    match sessionGetMergedMetadata (c.peer pbId) c.hw with
    | none => do
      freeMergedMetadata c.sess
      pure (-ENOMEM)
    | some playbackMetadata => do
      let ret ← setLoopbackEdge (metadataMerge c.hw.build [some captureMetadata, some playbackMetadata]) pbId enable
      freeMergedMetadata c.sess
      freeMergedMetadata (c.peer pbId)
      pure ret

/-- `session_set_ec_ref`. -/
def sessionSetEcRef (aifId : Nat) (enable : Bool) : M Int := do
  let c ← get
  match deviceGetObj aifId c.hw with
  | .error e => pure e
  | .ok d =>
    match sessionGetMergedMetadataWithoutAif c.sess c.hw with
    | none => pure (-ENOMEM)
    | some captureMetadata =>
      match metadataMerge c.hw.build [some captureMetadata, some (c.hw.devs d).metadata] with
      | none => pure (-ENOMEM)
      | some merged =>
        if enable then graphAdd merged (.ecRef aifId) none else graphRemove merged (.ecRef aifId)

/-! ## Disconnecting a back end -/

/-- The device part of `session_disconnect_aif`. -/
def disconnectDevice (a : Aif) : M Int := do
  let c ← get
  if c.sess.state = .started then do
    let _ ← onHw (deviceStop a.devObj)
    onHw (deviceClose a.devObj)
  else onHw (deviceClose a.devObj)

/-- `session_disconnect_aif`. -/
def sessionDisconnectAif (a : Aif) (openedCount : Nat) : M Int := do
  let c ← get
  match mergedMetadata a c with
  | none => pure (-ENOMEM)
  | some merged =>
    if openedCount = 1 then
      match metadataMerge c.hw.build [some a.sessAifMeta, some (c.hw.devs a.devObj).metadata] with
      | none => pure (-ENOMEM)
      | some sessAif => do
        let _ ← graphStop (some { merged with propId := sessAif.propId, props := sessAif.props })
        disconnectDevice a
    else do
      let _ ← graphRemove merged (.aif a.aifId)
      disconnectDevice a

/-! ## Connecting a back end -/

/-- `session_apply_aif_tag_params`. -/
def sessionApplyAifTagParams (merged : Metadata) (a : Aif) : M (Int × Aif) :=
  match a.tagConfig with
  | none => pure (0, a)
  | some cfg => do
    let ret ← graphSetConfigWithTag merged.gkv cfg
    pure (ret, { a with tagConfig := none })

/-- `session_apply_aif_device_params`. -/
def sessionApplyAifDeviceParams (d : DevId) : M Int := do
  let c ← get
  match (c.hw.devs d).params with
  | none => pure 0
  | some p =>
    if deviceGetState d c.hw = .closed then pure 0
    else do
      let ret ← graphSetConfig p
      onHw (modify fun hw => hw.setDev d { hw.devs d with params := none })
      pure ret

/-- The labels at which `session_connect_aif` ends. -/
inductive ConnectLabel
  | done | graphCleanup (merged : Metadata) | closeDevice
  deriving DecidableEq, Repr

/-- What the body of `session_connect_aif` ends with: the label, the return code, and the back end. -/
structure ConnectExit where
  label : ConnectLabel
  ret : Int
  aif : Aif

/-- Step 2.b of `session_connect_aif`: the GSL graph.  The label is the one for a failure. -/
def sessionConnectGraph (merged : Metadata) (a : Aif) (openedCount : Nat) : M (ConnectLabel × Int) := do
  let c ← get
  if openedCount = 0 then
    if c.sess.state = .closed then do
      let ret ← graphOpen merged (some a.devObj)
      if ret ≠ 0 then pure (.closeDevice, ret)
      else do
        let ret ← graphRegisterCb
        pure (.graphCleanup merged, ret)
    else do
      let ret ← graphChange merged (some a.devObj)
      pure (.closeDevice, ret)
  else do
    let ret ← graphAdd merged (.aif a.aifId) (some a.devObj)
    pure (.closeDevice, ret)

/-- Step 2.c of `session_connect_aif`: the parameters cached for the stream, only while the session is closed. -/
def sessionApplyParams : M Int := do
  let c ← get
  match c.sess.params with
  | none => pure 0
  | some p =>
    if c.sess.state = .closed then do
      let ret ← graphSetConfig p
      modSess fun s => { s with params := none }
      pure ret
    else pure 0

/-- Step 2.d of `session_connect_aif`: the parameters cached for the stream on this device. -/
def sessionApplyAifParams (a : Aif) : M (Int × Aif) :=
  match a.params with
  | none => pure (0, a)
  | some p => do
    let ret ← graphSetConfig p
    if ret ≠ 0 then pure (ret, a) else pure (0, { a with params := none })

/-- Steps 2.c to 2.f of `session_connect_aif`. -/
def sessionApplyCached (merged : Metadata) (a : Aif) : M (Int × Aif) := do
  let ret ← sessionApplyParams
  if ret ≠ 0 then pure (ret, a)
  else do
    let p ← sessionApplyAifParams a
    if p.1 ≠ 0 then pure p
    else do
      let ret ← sessionApplyAifDeviceParams a.devObj
      if ret ≠ 0 then pure (ret, p.2) else sessionApplyAifTagParams merged p.2

/-- `session_connect_aif` up to its labels. -/
def sessionConnectBody (a : Aif) (openedCount : Nat) : M ConnectExit := do
  let c ← get
  match mergedMetadata a c with
  | none => pure ⟨.done, -ENOMEM, a⟩
  | some merged => do
    let ret ← onHw (deviceOpen a.devObj)
    if ret ≠ 0 then pure ⟨.done, ret, a⟩
    else do
      let p ← sessionConnectGraph merged a openedCount
      if p.2 ≠ 0 then pure ⟨p.1, p.2, a⟩
      else do
        let q ← sessionApplyCached merged a
        if q.1 ≠ 0 then pure ⟨.graphCleanup merged, q.1, q.2⟩ else pure ⟨.done, 0, q.2⟩

/-- The label `graph_cleanup`. -/
def graphCleanup (merged : Metadata) (a : Aif) (openedCount : Nat) : M Int :=
  if openedCount = 0 then graphClose else graphRemove merged (.aif a.aifId)

/-- The label `close_device`. -/
def closeDevice (a : Aif) : M Aif := do
  let _ ← onHw (deviceClose a.devObj)
  pure { a with params := none }

/-- `session_connect_aif`. -/
def sessionConnectAif (a : Aif) (openedCount : Nat) : M (Int × Aif) := do
  let e ← sessionConnectBody a openedCount
  match e.label with
  | .done => pure (e.ret, e.aif)
  | .graphCleanup merged => do
    let _ ← graphCleanup merged e.aif openedCount
    let a ← closeDevice e.aif
    pure (e.ret, a)
  | .closeDevice => do
    let a ← closeDevice e.aif
    pure (e.ret, a)

/-! ## Opening -/

/-- Walk over the back ends of the session, up to the first error. -/
def forEachAif (body : Aif → M (Int × Aif)) : M Int := do
  let c ← get
  let p ← forEach body c.sess.aifPool
  modSess fun s => { s with aifPool := p.2 }
  pure p.1

/-- Walk over all the back ends of the session. -/
def mapEachAif (body : Int → Aif → M (Int × Aif)) (ret : Int) : M Int := do
  let c ← get
  let p ← mapEach body ret c.sess.aifPool
  modSess fun s => { s with aifPool := p.2 }
  pure p.1

/-- A back end that is connected becomes `AIF_OPENED`. -/
def connectToOpened (a : Aif) (openedCount : Nat) : M (Int × Aif) := do
  let p ← sessionConnectAif a openedCount
  if p.1 ≠ 0 then pure p else pure (0, { p.2 with state := .opened })

/-- `session_open_with_first_device`. -/
def sessionOpenWithFirstDevice : M Int := do
  let c ← get
  match c.sess.aifPool.findIdx? (fun a => a.state = .open) with
  | none => pure (-EPIPE)
  | some i => do
    let p ← connectToOpened (c.sess.aifAt i) 0
    modSess (·.setAif i p.2)
    pure p.1

/-- One turn of the loop of `session_connect_reminder_devices`.  The loop counts the open devices from `1` up, and
`session_connect_aif` asks of the count only whether it is `0`. -/
def connectReminder (a : Aif) : M (Int × Aif) :=
  if a.state = .open then connectToOpened a 1 else pure (0, a)

/-- One turn of the unwind loops of `session_connect_reminder_devices` and `session_obj_open`. -/
def disconnectOpened (ret : Int) (a : Aif) : M (Int × Aif) :=
  if a.state = .opened then do
    let r ← sessionDisconnectAif a 1
    pure (r, { a with state := .open })
  else pure (ret, a)

/-- `session_connect_reminder_devices`.  After the unwind `ret` is what `graph_close` answered. -/
def sessionConnectReminderDevices : M Int := do
  let ret ← forEachAif connectReminder
  if ret ≠ 0 then do
    let _ ← mapEachAif disconnectOpened ret
    graphClose
  else pure 0

/-- `session_open_without_device`.  It is only called on a closed session. -/
def sessionOpenWithoutDevice : M Int := do
  let c ← get
  let ret ← graphOpen c.sess.sessMeta none
  if ret ≠ 0 then pure ret
  else do
    let ret ← graphRegisterCb
    if ret ≠ 0 then do
      let _ ← graphClose
      pure ret
    else
      match c.sess.params with
      | none => pure 0
      | some p => do
        let ret ← graphSetConfig p
        if ret ≠ 0 then do
          let _ ← graphClose
          pure ret
        else do
          modSess fun s => { s with params := none }
          pure 0

/-! ## Preparing and starting -/

/-- A back end that is not prepared yet is prepared. -/
def prepareAif (a : Aif) : M (Int × Aif) :=
  if a.state = .opened ∨ a.state = .stopped then do
    let ret ← onHw (devicePrepare a.devObj)
    if ret ≠ 0 then pure (ret, a) else pure (0, { a with state := .prepared })
  else pure (0, a)

/-- A back end that is not started yet is started. -/
def startAif (a : Aif) : M (Int × Aif) :=
  if a.state = .opened ∨ a.state = .prepared ∨ a.state = .stopped then do
    let ret ← onHw (deviceStart a.devObj)
    if ret ≠ 0 then pure (ret, a) else pure (0, { a with state := .started })
  else pure (0, a)

def prepareStartAif (a : Aif) : M (Int × Aif) := do
  let p ← prepareAif a
  if p.1 ≠ 0 then pure p else startAif p.2

/-- `graph_prepare`, and the session state that goes with it. -/
def sessionPrepareGraph : M Int := do
  let ret ← graphPrepare
  if ret ≠ 0 then pure ret
  else do
    modSess fun s => { s with state := .prepared }
    pure 0

/-- `session_prepare`. -/
def sessionPrepare : M Int := do
  let c ← get
  let dir := c.sess.streamConfig.dir
  if c.sess.hasDevices then
    if c.sess.countWithState .opened false = 0 then pure (-EINVAL)
    else do
      let ret ← forEachAif fun a => do
        let ret ← sessionApplyAifDeviceParams a.devObj
        pure (ret, a)
      if ret ≠ 0 then pure ret
      else if c.hw.build.devPrepareFirst then do
        let ret ← onlyIf (dir = TX ∧ c.sess.state ≠ .started) graphPrepare
        if ret ≠ 0 then pure ret
        else do
          let ret ← forEachAif prepareAif
          if ret ≠ 0 then pure ret
          else if dir = RX ∧ c.sess.state ≠ .started then sessionPrepareGraph
          else pure 0
      else if c.sess.state ≠ .started then sessionPrepareGraph
      else pure 0
  else if c.sess.state ≠ .started then sessionPrepareGraph
  else pure 0

/-- What `session_start` asks of the other side of a loopback. -/
def startLoopbackCheck : M Int := do
  let c ← get
  if c.sess.loopbackState then do
    sessionObjGet c.sess.loopbackSessId
    let c ← get
    if (c.peer c.sess.loopbackSessId).state ≠ .started then pure (-EINVAL) else pure 0
  else pure 0

/-- What `session_start` asks of the device of an echo reference. -/
def startEcRefCheck : M Int := do
  let c ← get
  if c.sess.ecRefState then
    match deviceGetObj c.sess.ecRefAifId c.hw with
    | .error e => pure e
    | .ok d => if deviceGetState d c.hw ≠ .started then pure (-EINVAL) else pure 0
  else pure 0

/-- The checks `session_start` makes for a capture session. -/
def sessionStartChecks : M Int := do
  let ret ← startLoopbackCheck
  if ret ≠ 0 then pure ret else startEcRefCheck

/-- One turn of the first device loop of `session_start`: slimbus ports are started before the graph. -/
def startSlimbus (a : Aif) : M (Int × Aif) := do
  let c ← get
  if (c.hw.devs a.devObj).intf = SLIMBUS then prepareStartAif a else pure (0, a)

/-- One turn of the second device loop of `session_start`. -/
def startOther (a : Aif) : M (Int × Aif) := do
  let c ← get
  if (c.hw.devs a.devObj).intf = SLIMBUS then pure (0, a)
  else if c.hw.build.devPrepareFirst then startAif a
  else prepareStartAif a

/-- The labels at which `session_start` ends. -/
inductive StartLabel
  | done | unwind | deviceStop
  deriving DecidableEq, Repr

/-- `session_start` up to its labels, for a session with devices and past the checks. -/
def sessionStartDevices : M (StartLabel × Int) := do
  let c ← get
  let dir := c.sess.streamConfig.dir
  let first := c.hw.build.devPrepareFirst
  let ret ← onlyIf (first ∧ dir = TX) graphStart
  if ret ≠ 0 then pure (.done, ret)
  else do
    let ret ← forEachAif startSlimbus
    if ret ≠ 0 then pure (.deviceStop, ret)
    else do
      let ret ← onlyIf (¬ first) graphStart
      if ret ≠ 0 then pure (.deviceStop, ret)
      else do
        let ret ← forEachAif startOther
        if ret ≠ 0 then pure (.unwind, ret)
        else do
          let ret ← onlyIf (first ∧ dir = RX) graphStart
          if ret ≠ 0 then pure (.deviceStop, ret) else pure (.done, 0)

/-- `session_start` up to its labels. -/
def sessionStartBody : M (StartLabel × Int) := do
  let c ← get
  if c.sess.hasDevices then
    if c.sess.countWithState .opened false = 0 then pure (.done, -EINVAL)
    else do
      let ret ← onlyIf (c.sess.streamConfig.dir = TX) sessionStartChecks
      if ret ≠ 0 then pure (.done, ret) else sessionStartDevices
  else do
    let ret ← graphStart
    if ret ≠ 0 then pure (.unwind, ret) else pure (.done, 0)

/-- One turn of a loop that stops the started devices, and leaves their back ends in `state`. -/
def stopAif (state : AifState) (ret : Int) (a : Aif) : M (Int × Aif) :=
  if a.state = .started then do
    let r ← onHw (deviceStop a.devObj)
    pure (r, { a with state := state })
  else pure (ret, a)

/-- The label `device_stop` of `session_start`. -/
def startDeviceStop : M Unit := do
  let c ← get
  if c.sess.hasDevices then do
    let _ ← mapEachAif (stopAif .opened) 0
    pure ()
  else pure ()

/-- `session_start`. -/
def sessionStart : M Int := do
  let e ← sessionStartBody
  match e.1 with
  | .done =>
    if e.2 ≠ 0 then pure e.2
    else do
      modSess fun s => { s with state := .started }
      pure 0
  | .unwind => do
    let _ ← graphStop none
    startDeviceStop
    pure e.2
  | .deviceStop => do
    startDeviceStop
    pure e.2

/-! ## Stopping and closing -/

/-- `session_stop`. -/
def sessionStop : M Int := do
  let c ← get
  let dir := c.sess.streamConfig.dir
  if c.sess.state ≠ .started then pure (-EINVAL)
  else if c.sess.hasDevices then do
    let ret ← onlyIf (dir = RX) (graphStop none)
    if ret ≠ 0 then pure ret
    else do
      let ret ← mapEachAif (stopAif .stopped) 0
      let ret' ← onlyIf (dir = TX) (graphStop none)
      modSess fun s => { s with state := .stopped }
      pure (if dir = TX then ret' else ret)
  else do
    let ret ← graphStop none
    modSess fun s => { s with state := .stopped }
    pure ret

/-- One turn of the loop of `session_close`. -/
def closeAif (ret : Int) (a : Aif) : M (Int × Aif) :=
  if a.isOpened then do
    let r ← onHw (deviceClose a.devObj)
    pure (r, { a with state := .closed, tagConfig := none })
  else pure (ret, { a with tagConfig := none })

/-- `session_close`. -/
def sessionClose : M Int := do
  let c ← get
  if c.sess.state = .closed then pure (-EALREADY)
  else do
    let _ ← onlyIf (c.sess.state = .started) (graphStop none)
    let ret ← graphClose
    modSess fun s => { s with ecRefState := false, loopbackState := false }
    let ret' ← onlyIf c.sess.hasDevices (mapEachAif closeAif ret)
    modSess fun s => { s with state := .closed }
    pure (if c.sess.hasDevices then ret' else ret)

end Agm.Service
