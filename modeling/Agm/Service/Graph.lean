import Agm.Service.Objects

/-!
# The graph layer

`graph.c`, on the graph object of the locked session.  Every function here answers `-EINVAL` when there is no graph
object, as the source does for a `NULL` pointer.

The configuration callback of a module is a call of kind `configure` (`graph_module.c` is not looked into here).
GSL's tables are read from `Hw.acdb`.
-/

namespace Agm.Service

open Agm.Lib

/-! ## Module tables -/

/-- The tags of `stream_module_list`, in the order of the table. -/
def streamModuleTags : List Tag :=
  [.streamPcmEncoder, .streamPcmDecoder, .streamPlaceholderEncoder, .streamPlaceholderDecoder, .streamPcmConverter,
    .streamInputMediaFormat, .pause, .streamSpr, .gapless, .rdShmemEndpoint]

/-- The tags of `hw_ep_module`. -/
def hwEpModuleTags : List Tag := [.deviceHwEndpointRx, .deviceHwEndpointTx]

/-- Every entry of the two tables but the pause module has a configuration callback. -/
def Tag.hasConfigure (t : Tag) : Bool := t ≠ .pause

def Tag.isHwEp (t : Tag) : Bool := t = .deviceHwEndpointRx || t = .deviceHwEndpointTx

/-- The hardware-endpoint tag of a device, by its direction. -/
def hwEpTag (o : DeviceObj) : Tag := if o.dir = AUDIO_OUTPUT then .deviceHwEndpointRx else .deviceHwEndpointTx

/-- `module_entry[0]` of a table entry.  An entry with no module has none of its own: the read runs into the entry
that follows it, whose first two words are its tag and its number of modules (the tag is not a module id, and is
left at `0`), and into zeroes past the last one. -/
def firstModule (e : TagEntry) (rest : List TagEntry) : Nat × Nat :=
  e.modules.headD (0, (rest.headD ⟨.other 0, []⟩).modules.length)

/-- The loop of `graph_open` over the tag table.  A matching tag with more than one module ends it (`none`). -/
def collectModules (gkv : Gkv) (dev : Option DevId) : List TagEntry → Option (List ModuleInfo)
  | [] => some []
  | e :: rest =>
    if e.tagId ∈ streamModuleTags then
      if e.modules.length > 1 then none
      else (collectModules gkv dev rest).map
        ({ tag := e.tagId, mid := (firstModule e rest).1, miid := (firstModule e rest).2 } :: ·)
    else if dev.isSome ∧ e.tagId ∈ hwEpModuleTags then
      if e.modules.length > 1 then none
      else (collectModules gkv dev rest).map
        ({ tag := e.tagId, mid := (firstModule e rest).1, miid := (firstModule e rest).2, devObj := dev,
            gkv := some gkv } :: ·)
    else collectModules gkv dev rest

/-! ## Opening and closing -/

/-- `get_tags_with_module_info`: a second call, with the size the first one asked for, if the table did not fit. -/
def getTagsWithModuleInfo (gkv : Gkv) : M Int := do
  let ret ← onHw (askGsl (.getTags gkv))
  if ret = -ENODATA then onHw (askGsl (.getTags gkv)) else pure ret

/-- `graph_open` from the label `no_config` on. -/
def graphOpenGsl (md : Metadata) (mods : List ModuleInfo) : M Int := do
  let c ← get
  let h := c.hw.nextHandle
  let ret ← onHw (askGsl (.gslOpen h md.gkv))
  if ret ≠ 0 then pure ret
  else do
    onHw (modify fun hw => { hw with nextHandle := h + 1 })
    let ret ← onHw (askGsl (.registerEventCb h))
    if ret ≠ 0 then do
      let _ ← onHw (ask (.gslClose h))
      pure ret
    else do
      modSess fun s => { s with graph := some { state := .opened, handle := h, taggedModList := mods } }
      pure 0

/-- `graph_open`.  Where a matching tag has more than one module the source leaves through `free_graph_obj` with
`ret` still `0`: no graph object is stored and no error is reported. -/
def graphOpen (md : Metadata) (dev : Option DevId) : M Int := do
  let c ← get
  if c.sess.streamConfig.sessMode = .noConfig then graphOpenGsl md []
  else do
    let ret ← getTagsWithModuleInfo md.gkv
    if ret ≠ 0 then pure ret
    else
      match collectModules md.gkv dev (c.hw.acdb.tagTable md.gkv) with
      | none => pure 0
      | some mods => graphOpenGsl md mods

/-- Run `f` on the handle of the graph object; `-EINVAL` if there is none. -/
def withGraph (f : GraphObj → M Int) : M Int := do
  let c ← get
  match c.sess.graph with
  | none => pure (-EINVAL)
  | some g => f g

/-- `graph_close`.  The object is freed; every caller clears the pointer right after. -/
def graphClose : M Int := do
  let ret ← withGraph fun g => onHw (askGsl (.gslClose g.handle))
  modSess fun s => { s with graph := none }
  pure ret

/-- `graph_register_cb`. -/
def graphRegisterCb : M Int := withGraph fun _ => pure 0

/-! ## Configuration of modules -/

/-- `configure_spr` stores the instance id of its module before it calls GSL; no other callback writes to the graph
object. -/
def GraphObj.configuring (m : ModuleInfo) (g : GraphObj) : GraphObj :=
  if m.tag = .streamSpr then { g with sprMiid := m.miid } else g

namespace GraphObj

variable (m : ModuleInfo) (g : GraphObj)

@[simp] theorem handle_configuring : (g.configuring m).handle = g.handle := by unfold configuring; split <;> rfl

@[simp] theorem state_configuring : (g.configuring m).state = g.state := by unfold configuring; split <;> rfl

@[simp] theorem taggedModList_configuring : (g.configuring m).taggedModList = g.taggedModList := by
  unfold configuring; split <;> rfl

end GraphObj

/-- Call the configuration callback of a module and set its flag. -/
def configureModule (h : Handle) (m : ModuleInfo) : M (Int × ModuleInfo) := do
  modGraph (·.configuring m)
  let ret ← onHw (ask (.configure h m.tag m.miid))
  if ret ≠ 0 then pure (ret, m) else pure (0, { m with isConfigured := true })

/-- The hardware endpoint belongs to a device that is started, so it is taken as configured. -/
def hwEpStarted (m : ModuleInfo) (hw : Hw) : Bool :=
  m.tag.isHwEp && match m.devObj with
    | some d => deviceGetStartRefcnt d hw > 0
    | none => false

/-- One turn of the module loop of `graph_prepare`. -/
def prepareModule (h : Handle) (cfg : SessionConfig) (m : ModuleInfo) : M (Int × ModuleInfo) := do
  let c ← get
  if m.isConfigured ∧ ¬ m.tag.isHwEp then pure (0, m)
  else if ¬ m.isConfigured ∧ m.tag = .streamInputMediaFormat ∧ cfg.sessMode = .noHost then pure (-EINVAL, m)
  else if ¬ m.isConfigured ∧
      ((m.tag = .streamPcmDecoder ∧ cfg.dir = TX) ∨ (m.tag = .streamPcmEncoder ∧ cfg.dir = RX)) then
    pure (-EINVAL, m)
  else if m.tag.hasConfigure then
    if hwEpStarted m c.hw then pure (0, { m with isConfigured := true }) else configureModule h m
  else pure (0, m)

/-- The GSL calls of `configure_buffer_params`. -/
def setBufferParams (h : Handle) (cfg : SessionConfig) : M Int :=
  if cfg.sessMode = .nonTunnel ∧ cfg.dir = RX + TX then do
    let ret ← onHw (askGsl (.readParams h))
    if ret ≠ 0 then pure ret else onHw (askGsl (.writeParams h))
  else if cfg.dir = RX then onHw (askGsl (.writeParams h))
  else onHw (askGsl (.readParams h))

/-- `configure_buffer_params`. -/
def configureBufferParams (g : GraphObj) : M Int := do
  let c ← get
  if g.isConfigBufParamsDone then pure 0
  else do
    let ret ← setBufferParams g.handle c.sess.streamConfig
    if ret ≠ 0 then pure ret
    else do
      modGraph fun g => { g with isConfigBufParamsDone := true }
      pure 0

/-- `graph_prepare`. -/
def graphPrepare : M Int := withGraph fun g => do
  let c ← get
  let cfg := c.sess.streamConfig
  if g.state = .prepared then pure 0
  else do
    let p ← forEach (prepareModule g.handle cfg) g.taggedModList
    modGraph fun g => { g with taggedModList := p.2 }
    if p.1 ≠ 0 then pure p.1
    else do
      let ret ← onlyIf (cfg.sessMode ≠ .noHost ∧ cfg.sessMode ≠ .noConfig) (configureBufferParams g)
      if ret ≠ 0 then pure ret
      else do
        let ret ← onHw (askGsl (.prepare g.handle))
        if ret ≠ 0 then pure ret
        else do
          modGraph fun g => { g with state := .prepared }
          pure 0

/-! ## Starting and stopping -/

/-- `graph_start`. -/
def graphStart : M Int := withGraph fun g => do
  let ret ← onHw (askGsl (.start g.handle))
  if ret ≠ 0 then pure ret
  else do
    modGraph fun g => { g with state := .started }
    pure 0

/-- `graph_stop`.  With metadata only the sub-graphs with its properties are stopped and closed, and the state of
the graph object stays; the test against `CLOSED`, which is `0`, never holds. -/
def graphStop (md : Option Metadata) : M Int := withGraph fun g => do
  match md with
  | some md => do
    if g.state = .started then do
      let _ ← onHw (ask (.stop g.handle))
      onHw (askGsl (.closeWithProps g.handle md.gkv))
    else onHw (askGsl (.closeWithProps g.handle md.gkv))
  | none => do
    if g.state = .stopped then pure 0
    else do
      let ret ← onHw (askGsl (.stop g.handle))
      modGraph fun g => { g with state := .stopped }
      pure ret

/-! ## Changing the graph -/

/-- The list is searched for the instance id; the entry found has its flag cleared, otherwise the new one is
appended. -/
def addHwEp (new : ModuleInfo) : List ModuleInfo → List ModuleInfo
  | [] => [new]
  | m :: ms => if m.miid = new.miid then { m with isConfigured := false } :: ms else m :: addHwEp new ms

/-- The hardware-endpoint entry `graph_add` and `graph_change` make for a device. -/
def hwEpModule (md : Metadata) (d : DevId) (hw : Hw) : ModuleInfo :=
  let tag := hwEpTag (hw.devs d)
  let mod := hw.acdb.taggedModule md.gkv tag
  { tag := tag, mid := mod.1, miid := mod.2, devObj := some d, gkv := some md.gkv }

/-- One turn of the module loop of `graph_add`. -/
def addModule (h : Handle) (m : ModuleInfo) : M (Int × ModuleInfo) := do
  let c ← get
  if m.isConfigured ∧ m.tag ≠ .streamSpr then pure (0, m)
  else if hwEpStarted m c.hw then pure (0, { m with isConfigured := true })
  else if m.tag.hasConfigure then configureModule h m
  else pure (0, m)

/-- `graph_add`, after `GSL_CMD_ADD_GRAPH`: the endpoint of the device joins the module list. -/
def graphAddHwEp (md : Metadata) (dev : Option DevId) : M Int :=
  match dev with
  | none => pure 0
  | some d => do
    let c ← get
    let ret ← onHw (askGsl (.taggedModuleInfo md.gkv (hwEpTag (c.hw.devs d))))
    if ret ≠ 0 then pure ret
    else do
      modGraph fun g => { g with taggedModList := addHwEp (hwEpModule md d c.hw) g.taggedModList }
      pure 0

/-- `graph_add`, after `GSL_CMD_ADD_GRAPH`: the endpoint, and the modules that are not configured. -/
def graphAddModules (g : GraphObj) (md : Metadata) (dev : Option DevId) : M Int := do
  let ret ← graphAddHwEp md dev
  if ret ≠ 0 then pure ret
  else if g.state = .started ∨ g.state = .prepared then do
    let c ← get
    let p ← forEach (addModule g.handle) ((c.sess.graph.map (·.taggedModList)).getD [])
    modGraph fun g => { g with taggedModList := p.2 }
    pure p.1
  else pure 0

/-- `graph_add`. -/
def graphAdd (md : Metadata) (owner : Owner) (dev : Option DevId) : M Int := withGraph fun g => do
  if g.state = .closed then pure (-EINVAL)
  else do
    let ret ← onHw (askGsl (.addGraph g.handle owner md.gkv))
    if ret ≠ 0 then pure ret else graphAddModules g md dev

/-- One turn of the module loop of `graph_change`. -/
def changeModule (h : Handle) (m : ModuleInfo) : M (Int × ModuleInfo) := do
  let c ← get
  match m.devObj with
  | none => pure (0, m)
  | some d =>
    if m.tag.hasConfigure ∧ ¬ m.isConfigured ∧ deviceGetStartRefcnt d c.hw = 0 then configureModule h m
    else pure (0, m)

/-- `graph_change`, up to `GSL_CMD_CHANGE_GRAPH`: the endpoints of other devices leave the list. -/
def graphChangeModules (md : Metadata) (dev : Option DevId) : M Int :=
  match dev with
  | none => pure 0
  | some d => do
    let c ← get
    let ret ← onHw (askGsl (.taggedModuleInfo md.gkv (hwEpTag (c.hw.devs d))))
    if ret ≠ 0 then pure ret
    else do
      let new := hwEpModule md d c.hw
      modGraph fun g => { g with taggedModList :=
        if new.miid ∈ g.taggedModList.map (·.miid) then
          (addHwEp new g.taggedModList).filter fun m => ! (m.tag.isHwEp && m.miid != new.miid)
        else g.taggedModList.filter (fun m => ! (m.tag.isHwEp && m.miid != new.miid)) ++ [new] }
      pure 0

/-- `graph_change`. -/
def graphChange (md : Metadata) (dev : Option DevId) : M Int := withGraph fun g => do
  let ret ← graphChangeModules md dev
  if ret ≠ 0 then pure ret
  else do
    let ret ← onHw (askGsl (.changeGraph g.handle md.gkv))
    if ret ≠ 0 then pure ret
    else do
      let c ← get
      let p ← forEach (changeModule g.handle) ((c.sess.graph.map (·.taggedModList)).getD [])
      modGraph fun g => { g with taggedModList := p.2 }
      pure p.1

/-- `graph_remove`. -/
def graphRemove (md : Metadata) (owner : Owner) : M Int := withGraph fun g =>
  onHw (askGsl (.removeGraph g.handle owner md.gkv))

/-! ## Parameters and flow control -/

/-- `graph_set_config`. -/
def graphSetConfig (payload : Payload) : M Int := withGraph fun g =>
  onHw (askGsl (.setCustomConfig g.handle payload))

/-- `graph_set_config_with_tag`. -/
def graphSetConfigWithTag (gkv : Gkv) (cfg : TagConfig) : M Int := withGraph fun g =>
  onHw (askGsl (.setConfig g.handle gkv cfg))

/-- `PARAM_ID_SOFT_PAUSE_START` and `PARAM_ID_SOFT_PAUSE_RESUME`. -/
def softPauseParam (pause : Bool) : Nat := if pause then 0x800102e else 0x800102f

/-- `graph_pause_resume`.  The payload is one parameter header: instance id, parameter id, size and error code. -/
def graphPauseResume (pause : Bool) : M Int := withGraph fun g =>
  match g.taggedModList.find? (fun m => m.tag = .pause) with
  | none => pure 0
  | some m => onHw (askGsl (.setCustomConfig g.handle [m.miid, softPauseParam pause, 0, 0]))

/-- `graph_flush`. -/
def graphFlush : M Int := withGraph fun g => onHw (askGsl (.flush g.handle))

/-- `graph_suspend`. -/
def graphSuspend : M Int := withGraph fun g => onHw (askGsl (.suspend g.handle))

/-- `is_media_config_needed_on_datapath`. -/
def isMediaConfigNeededOnDatapath (f : MediaFormat) : Bool :=
  f ∈ [MediaFormat.mp3, .aac, .flac, .alac, .ape, .wmastd, .wmapro]

/-- The loop of `graph_set_media_config_datapath`: a failure does not end it, the last code is the result. -/
def mediaConfigLoop (h : Handle) : Int → List ModuleInfo → M Int
  | ret, [] => pure ret
  | ret, m :: ms =>
    if m.tag = .streamInputMediaFormat then do
      let r ← onHw (ask (.configure h m.tag m.miid))
      mediaConfigLoop h r ms
    else mediaConfigLoop h ret ms

/-- `graph_set_media_config_datapath`, on an object that is there: the source reads it without a check. -/
def graphSetMediaConfigDatapath (g : GraphObj) : M Int := do
  let c ← get
  if isMediaConfigNeededOnDatapath c.sess.outFormat then mediaConfigLoop g.handle 0 g.taggedModList else pure 0

end Agm.Service
