import Agm.Lib.Layout

/-!
# The calls of the AGM API

What a client asks and what the service answers, each call with all its arguments.  A pointer that is only read stands
for what it points at; a result that the service leaves in memory of the caller is part of the answer.  `size_t` has 64
bits.

The two binders carry these calls between processes: a remote call should reach the service with the arguments of the
client and bring back what the service answers.
-/

namespace Agm.Ipc

open Agm.Lib

/-! ## The structures -/

/-- `struct agm_media_config`. -/
structure MediaConfig where
  rate : UInt32
  channels : UInt32
  format : UInt32
  dataFormat : UInt32

/-- `struct agm_group_media_config`. -/
structure GroupMediaConfig where
  config : MediaConfig
  slotMask : UInt32

/-- `struct agm_buffer_config`. -/
structure BufferConfig where
  count : UInt32
  size : UInt64
  maxMetadataSize : UInt64

/-- `struct agm_session_config`: its 56 bytes are copied as they are. -/
abbrev SessionConfig := List.Vector UInt8 56

/-- `struct agm_key_value`. -/
structure KeyValue where
  key : UInt32
  value : UInt32
  deriving DecidableEq

/-- `struct agm_tag_config`. -/
structure TagConfig where
  tag : UInt32
  numTkvs : UInt32
  kv : List.Vector KeyValue numTkvs.toNat

/-- `struct agm_cal_config`. -/
structure CalConfig where
  numCkvs : UInt32
  kv : List.Vector KeyValue numCkvs.toNat

/-- `struct agm_event_reg_cfg`. -/
structure EventRegCfg where
  moduleInstanceId : UInt32
  eventId : UInt32
  payloadSize : UInt32
  isRegister : UInt8
  payload : List.Vector UInt8 payloadSize.toNat

/-- `struct aif_info`. -/
structure AifInfo where
  aifName : List.Vector UInt8 32
  dir : UInt32

/-- `struct agm_buf_info`.  A descriptor stands for the open file. -/
structure BufInfo where
  dataFd : UInt32
  dataSize : UInt32
  posFd : UInt32
  posSize : UInt32

/-! ## How the binders copy them -/

def MediaConfig.layout : Layout MediaConfig :=
  ((Layout.u32.pair .u32).pair (Layout.u32.pair .u32)).iso (fun x => ⟨x.1.1, x.1.2, x.2.1, x.2.2⟩)
    (fun c => ((c.rate, c.channels), (c.format, c.dataFormat))) fun _ => rfl

/-- The count is followed by four bytes of padding. -/
def BufferConfig.layout : Layout BufferConfig :=
  ((Layout.u32.padded 4).pair (Layout.u64.pair .u64)).iso (fun x => ⟨x.1, x.2.1, x.2.2⟩)
    (fun c => (c.count, (c.size, c.maxMetadataSize))) fun _ => rfl

def KeyValue.layout : Layout KeyValue :=
  (Layout.u32.pair .u32).iso (fun x => ⟨x.1, x.2⟩) (fun p => (p.key, p.value)) fun _ => rfl

def AifInfo.layout : Layout AifInfo :=
  ((Layout.raw 32).pair .u32).iso (fun x => ⟨x.1, x.2⟩) (fun a => (a.aifName, a.dir)) fun _ => rfl

theorem MediaConfig.size_layout : MediaConfig.layout.size = 16 := rfl

theorem BufferConfig.size_layout : BufferConfig.layout.size = 24 := rfl

theorem KeyValue.size_layout : KeyValue.layout.size = 8 := rfl

theorem AifInfo.size_layout : AifInfo.layout.size = 36 := rfl

/-! ## The calls -/

/-- The calls that have only the handle of a session. -/
inductive HandleCall
  | close | prepare | start | stop | pause | resume | suspend | flush | eos
  deriving DecidableEq

/-- What metadata is for. -/
inductive MetadataOf
  | aif (aifId : UInt32)
  | session (sessionId : UInt32)
  | sessionAif (sessionId aifId : UInt32)

/-- What parameters are for. -/
inductive ParamsOf
  | aif (aifId : UInt32)
  | session (sessionId : UInt32)
  | sessionAif (sessionId aifId : UInt32)
  | tagToAcdb (sessionId aifId : UInt32)
  | acdbTunnel

/-- `agm_session_aif_connect`, `agm_session_set_loopback` and `agm_session_set_ec_ref`. -/
inductive LinkCall
  | aifConnect | loopback | ecRef
  deriving DecidableEq

/-- `struct agm_buff`.  A buffer or the metadata may be missing. -/
structure AgmBuff where
  timestamp : UInt64
  flags : UInt32
  size : UInt32
  addr : Option (List.Vector UInt8 size.toNat)
  metadataSize : UInt32
  metadata : Option (List.Vector UInt8 metadataSize.toNat)
  allocHandle : UInt32
  allocSize : UInt32
  offset : UInt32

/-- `struct agm_dump_info`. -/
structure DumpInfo where
  signal : UInt32
  pid : UInt32
  uid : UInt32

/-- A call with its arguments.  A buffer the service fills is given by its length; where it may be missing, `true` says
that it is there. -/
inductive ApiCall
  | init
  | deinit
  | dump (info : DumpInfo)
  | aifSetMediaConfig (aifId : UInt32) (cfg : MediaConfig)
  | aifGroupSetMediaConfig (groupId : UInt32) (cfg : GroupMediaConfig)
  | setMetadata (of : MetadataOf) (size : UInt32) (metadata : List.Vector UInt8 size.toNat)
  | setParams (of : ParamsOf) (size : UInt64) (payload : List.Vector UInt8 size.toNat)
  | sessionGetParams (sessionId : UInt32) (size : UInt64) (payload : List.Vector UInt8 size.toNat)
  | sessionAifGetTagModuleInfo (sessionId aifId : UInt32) (payload : Bool) (size : UInt64)
  | sessionAifSetCal (sessionId aifId : UInt32) (cfg : CalConfig)
  | setParamsWithTag (sessionId aifId : UInt32) (cfg : TagConfig)
  | sessionRegisterForEvents (sessionId : UInt32) (cfg : EventRegCfg)
  | sessionRegisterCb (sessionId : UInt32) (cb : UInt64) (event : UInt32) (clientData : UInt64)
  | sessionOpen (sessionId mode : UInt32)
  | sessionSetConfig (handle : UInt64) (session : SessionConfig) (media : MediaConfig) (buffer : BufferConfig)
  | sessionSetNonTunnelModeConfig (handle : UInt64) (session : SessionConfig) (inMedia outMedia : MediaConfig)
      (inBuffer outBuffer : BufferConfig)
  | onHandle (f : HandleCall) (handle : UInt64)
  | sessionidFlush (sessionId : UInt32)
  | link (f : LinkCall) (first second : UInt32) (state : Bool)
  | sessionRead (handle count : UInt64)
  | sessionWrite (handle count : UInt64) (buff : List.Vector UInt8 count.toNat)
  | sessionReadWithMetadata (handle : UInt64) (buf : AgmBuff) (capturedSize : UInt32)
  | sessionWriteWithMetadata (handle : UInt64) (buf : AgmBuff) (consumedSize : UInt64)
  | sessionWriteDatapathParams (sessionId : UInt32) (buf : AgmBuff)
  | getHwProcessedBuffCnt (handle : UInt64) (dir : UInt32)
  | getAifInfoList (list : Bool) (num : UInt64)
  | getGroupAifInfoList (list : Bool) (num : UInt64)
  | getSessionTime (handle timestamp : UInt64)
  | getBufferTimestamp (sessionId : UInt32)
  | sessionGetBufInfo (sessionId flag : UInt32)
  | setGaplessSessionMetadata (handle : UInt64) (type silence : UInt32)

/-- As much as there is of a buffer. -/
def given (present : Bool) (num : UInt64) : Nat := if present then num.toNat else 0

/-- What the service answers to a call: its return value, the memory it has filled, and the sizes it has updated. -/
@[reducible] def ApiCall.Answer : ApiCall → Type
  | .sessionGetParams _ size _ => Int32 × List.Vector UInt8 size.toNat
  | .sessionAifGetTagModuleInfo _ _ payload size => Int32 × List.Vector UInt8 (given payload size) × UInt64
  | .sessionOpen _ _ | .sessionWrite _ _ _ | .sessionWriteWithMetadata _ _ _ | .getSessionTime _ _
  | .getBufferTimestamp _ => Int32 × UInt64
  | .sessionRead _ count => Int32 × List.Vector UInt8 count.toNat × UInt64
  | .getAifInfoList list num | .getGroupAifInfoList list num =>
    Int32 × List.Vector AifInfo (given list num) × UInt64
  | .sessionReadWithMetadata _ _ _ => Int32 × AgmBuff × UInt32
  | .sessionGetBufInfo _ _ => Int32 × BufInfo
  | .getHwProcessedBuffCnt _ _ => UInt64
  | _ => Int32

/-- What the caller has after a call: the return value, what has arrived in its memory, and the sizes. -/
@[reducible] def ApiCall.Seen : ApiCall → Type
  | .sessionAifGetTagModuleInfo _ _ _ _ | .sessionRead _ _ => Int32 × Bytes × UInt64
  | .getAifInfoList _ _ | .getGroupAifInfoList _ _ => Int32 × List AifInfo × UInt64
  | .sessionGetParams _ _ _ => Int32 × Bytes
  | .sessionGetBufInfo _ _ => Int32 × Option (UInt32 × UInt32) × Option (UInt32 × UInt32)
  | c => c.Answer

def DATA_BUF : UInt32 := 1
def POS_BUF : UInt32 := 2

/-- What the caller has if it calls the service itself. -/
def ApiCall.see : (c : ApiCall) → c.Answer → c.Seen
  | .sessionAifGetTagModuleInfo _ _ _ _, (ret, payload, size) => (ret, payload.toList.take size.toNat, size)
  | .sessionRead _ _, (ret, buff, count) => (ret, buff.toList.take count.toNat, count)
  | .sessionGetParams _ _ _, (ret, payload) => (ret, payload.toList)
  | .getAifInfoList _ _, (ret, list, num) | .getGroupAifInfoList _ _, (ret, list, num) =>
    (ret, list.toList.take num.toNat, num)
  | .sessionGetBufInfo _ flag, (ret, info) =>
    (ret, if flag &&& DATA_BUF ≠ 0 then some (info.dataFd, info.dataSize) else none,
      if flag &&& POS_BUF ≠ 0 then some (info.posFd, info.posSize) else none)
  | .init, a | .deinit, a | .dump _, a | .aifSetMediaConfig _ _, a | .aifGroupSetMediaConfig _ _, a
  | .setMetadata _ _ _, a | .setParams _ _ _, a | .sessionAifSetCal _ _ _, a
  | .setParamsWithTag _ _ _, a | .sessionRegisterForEvents _ _, a | .sessionRegisterCb _ _ _ _, a
  | .sessionOpen _ _, a | .sessionSetConfig _ _ _ _, a | .sessionSetNonTunnelModeConfig _ _ _ _ _ _, a
  | .onHandle _ _, a | .sessionidFlush _, a | .link _ _ _ _, a | .sessionWrite _ _ _, a
  | .sessionReadWithMetadata _ _ _, a | .sessionWriteWithMetadata _ _ _, a | .sessionWriteDatapathParams _ _, a
  | .getHwProcessedBuffCnt _ _, a | .getSessionTime _ _, a | .getBufferTimestamp _, a
  | .setGaplessSessionMetadata _ _ _, a => a

/-- The part of it that counts: a call that has failed leaves no data. -/
def ApiCall.outputs : (c : ApiCall) → c.Seen → c.Seen
  | .sessionAifGetTagModuleInfo _ _ _ _, (ret, payload, size) => (ret, if ret = 0 then payload else [], size)
  | .sessionRead _ _, (ret, buff, count) => (ret, if ret = 0 then buff else [], count)
  | .sessionGetParams _ _ _, (ret, payload) => (ret, if ret = 0 then payload else [])
  | .getAifInfoList _ _, (ret, list, num) | .getGroupAifInfoList _ _, (ret, list, num) =>
    (ret, if ret = 0 then list else [], num)
  | .sessionGetBufInfo _ _, (ret, data, pos) => if ret = 0 then (ret, data, pos) else (ret, none, none)
  | _, s => s

end Agm.Ipc
