import Agm.Ipc.SwParcel

/-!
# The messages of the HwBinder

What the functions of `agm_client_wrapper.cpp` send, what the handlers of `agm_server_wrapper.cpp` make of it, and what
comes back.  A vector is a list, and the transport delivers it as it is; a handler that reads past the end of one, or of
memory of its own, has no result.  A field that nobody has written holds what was in its memory (`Junk`).  The service
lives, and allocations succeed.

Callbacks are left to `OwnCallbacks`, shared memory to `SharedMem`, and the list of clients to `Server`.
-/

namespace Agm.Ipc

open Agm.Lib

def Ret.EINVAL : Int32 := 22
def Ret.ENOMEM : Int32 := 12

/-- `MAX_KVPAIR` of the server. -/
def MAX_KVPAIR : Nat := 48

/-! ## Memory that was not written -/

/-- The numbers of a `struct agm_buff`, or of an `AgmBuff`, that was not initialised. -/
structure Unset where
  timestamp : UInt64
  flags : UInt32
  size : UInt32
  metadataSize : UInt32
  allocHandle : UInt32
  allocSize : UInt32
  offset : UInt32

structure Junk where
  /-- in the `AgmBufferConfig` of the client -/
  maxMetadataSize : UInt32
  /-- in the `AgmBuff` of the client -/
  sent : Unset
  /-- in the `AgmBuff` of the server -/
  answered : Unset
  /-- in the `struct agm_buff` of the server -/
  stack : Unset
  /-- in a vector that was made longer -/
  byte : Nat → UInt8

/-- A vector of bytes nobody has written. -/
def Junk.vec (j : Junk) (n : Nat) : List.Vector UInt8 n := List.Vector.ofFn fun i => j.byte i

/-! ## Structures -/

/-- `AgmBufferConfig`: the sizes have 32 bits here. -/
structure HwBufferConfig where
  count : UInt32
  size : UInt32
  maxMetadataSize : UInt32

/-- `AgmTagConfig`. -/
structure HwTagConfig where
  tag : UInt32
  numTkvs : UInt32
  kv : List KeyValue

/-- `AgmCalConfig`. -/
structure HwCalConfig where
  numCkvs : UInt32
  kv : List KeyValue

/-- `AgmEventRegCfg`. -/
structure HwEventRegCfg where
  moduleInstanceId : UInt32
  eventId : UInt32
  payloadSize : UInt32
  isRegister : UInt8
  payload : Bytes

/-- `AgmBuff`.  The handle of the allocation is the data of its `native_handle`: the descriptor, and the number it had
in the client. -/
structure HwBuff where
  timestamp : UInt64
  flags : UInt32
  size : UInt32
  buffer : Bytes
  metadataSize : UInt32
  metadata : Bytes
  allocHandle : List UInt32
  allocSize : UInt32
  offset : UInt32

/-- `AifInfo`: the name is a string. -/
structure HwAifInfo where
  aifName : Bytes
  dir : UInt32

/-- The methods of `IAGM`, with their arguments. -/
inductive HwRequest
  | dump (info : List DumpInfo)
  | aifSetMediaConfig (aifId : UInt32) (cfg : List MediaConfig)
  | aifGroupSetMediaConfig (groupId : UInt32) (cfg : List GroupMediaConfig)
  | setMetadata (of : MetadataOf) (size : UInt32) (metadata : Bytes)
  | setParams (of : ParamsOf) (payload : Bytes) (size : UInt32)
  | sessionGetParams (sessionId size : UInt32) (buff : Bytes)
  | sessionAifGetTagModuleInfo (sessionId aifId size : UInt32)
  | sessionAifSetCal (sessionId aifId : UInt32) (cfg : List HwCalConfig)
  | setParamsWithTag (sessionId aifId : UInt32) (cfg : List HwTagConfig)
  | sessionRegisterForEvents (sessionId : UInt32) (cfg : List HwEventRegCfg)
  | sessionOpen (sessionId mode : UInt32)
  | sessionSetConfig (handle : UInt64) (session : List SessionConfig) (media : List MediaConfig)
      (buffer : List HwBufferConfig)
  | sessionSetNonTunnelModeConfig (handle : UInt64) (session : List SessionConfig) (inMedia outMedia : List MediaConfig)
      (inBuffer outBuffer : List HwBufferConfig)
  | onHandle (f : HandleCall) (handle : UInt64)
  | sessionidFlush (sessionId : UInt32)
  | link (f : LinkCall) (first second : UInt32) (state : Bool)
  | sessionRead (handle : UInt64) (count : UInt32)
  | sessionWrite (handle : UInt64) (buff : Bytes) (count : UInt32)
  | sessionReadWithMetadata (handle : UInt64) (buff : List HwBuff) (capturedSize : UInt32)
  | sessionWriteWithMetadata (handle : UInt64) (buff : List HwBuff) (consumedSize : UInt64)
  | sessionWriteDatapathParams (sessionId : UInt32) (buff : List HwBuff)
  | getHwProcessedBuffCnt (handle : UInt64) (dir : UInt32)
  | getAifInfoList (num : UInt32)
  | getGroupAifInfoList (num : UInt32)
  | getSessionTime (handle : UInt64)
  | getBufferTimestamp (sessionId : UInt32)
  | sessionGetBufInfo (sessionId flag : UInt32)
  | setGaplessSessionMetadata (handle : UInt64) (type silence : UInt32)

/-- What a method generates. -/
inductive HwReply
  | ret (ret : Int32)
  | handle (ret : Int32) (handle : UInt64)
  | count (ret : Int32) (count : UInt32)
  | payload (ret : Int32) (payload : Bytes)
  | sized (ret : Int32) (payload : Bytes) (size : UInt32)
  | list (ret : Int32) (list : List HwAifInfo) (num : UInt32)
  | time (ret : Int32) (timestamp : UInt64)
  | bufInfo (ret : Int32) (data pos : Option (UInt32 × UInt32))
  | buff (ret : Int32) (buff : HwBuff) (capturedSize : UInt32)

/-! ## The client -/

/-- A number an `int` can count up to. -/
def countedByInt (n : UInt32) : Bool := n.toNat < 2 ^ 31

def BufferConfig.toHw (maxMetadataSize : UInt32) (b : BufferConfig) : HwBufferConfig :=
  ⟨b.count, b.size.toUInt32, maxMetadataSize⟩

/-- The buffer of a write, with `metadata_size` left unset where there is no metadata. -/
def AgmBuff.toHw (j : Junk) (b : AgmBuff) : HwBuff where
  timestamp := b.timestamp
  flags := b.flags
  size := b.size
  buffer := (b.addr.getD (j.vec b.size.toNat)).toList
  metadataSize := if 0 < b.metadataSize ∧ b.metadata.isSome then b.metadataSize else j.sent.metadataSize
  metadata := if 0 < b.metadataSize then (b.metadata.map (·.toList)).getD [] else []
  allocHandle := [b.allocHandle, b.allocHandle]
  allocSize := b.allocSize
  offset := b.offset

/-- What the function of the client sends; `none` where it sends nothing, or does not survive a vector that is too
long. -/
def hwSend (j : Junk) : ApiCall → Option HwRequest
  -- these stay in the client, and a callback becomes one of the server
  | .init | .deinit | .sessionRegisterCb _ _ _ _ => none
  | .dump info => some (.dump [info])
  | .aifSetMediaConfig aifId cfg => some (.aifSetMediaConfig aifId [cfg])
  | .aifGroupSetMediaConfig groupId cfg => some (.aifGroupSetMediaConfig groupId [cfg])
  | .setMetadata of size metadata => some (.setMetadata of size metadata.toList)
  | .setParams of size payload => some (.setParams of (payload.toList.take size.toUInt32.toNat) size.toUInt32)
  | .sessionGetParams sessionId size payload =>
    if size.toNat < 2 ^ 32 then some (.sessionGetParams sessionId size.toUInt32 payload.toList) else none
  | .sessionAifGetTagModuleInfo sessionId aifId _ size =>
    some (.sessionAifGetTagModuleInfo sessionId aifId size.toUInt32)
  | .sessionAifSetCal sessionId aifId cfg =>
    if countedByInt cfg.numCkvs then some (.sessionAifSetCal sessionId aifId [⟨cfg.numCkvs, cfg.kv.toList⟩]) else none
  | .setParamsWithTag sessionId aifId cfg =>
    if countedByInt cfg.numTkvs then some (.setParamsWithTag sessionId aifId [⟨cfg.tag, cfg.numTkvs, cfg.kv.toList⟩])
    else none
  | .sessionRegisterForEvents sessionId cfg =>
    if countedByInt cfg.payloadSize then
      some (.sessionRegisterForEvents sessionId
        [⟨cfg.moduleInstanceId, cfg.eventId, cfg.payloadSize, cfg.isRegister, cfg.payload.toList⟩])
    else none
  | .sessionOpen sessionId mode => some (.sessionOpen sessionId mode)
  | .sessionSetConfig handle session media buffer =>
    some (.sessionSetConfig handle [session] [media] [buffer.toHw j.maxMetadataSize])
  | .sessionSetNonTunnelModeConfig handle session inMedia outMedia inBuffer outBuffer =>
    some (.sessionSetNonTunnelModeConfig handle [session] [inMedia] [outMedia]
      [inBuffer.toHw inBuffer.maxMetadataSize.toUInt32] [outBuffer.toHw outBuffer.maxMetadataSize.toUInt32])
  | .onHandle f handle => some (.onHandle f handle)
  | .sessionidFlush sessionId => some (.sessionidFlush sessionId)
  | .link f first second state => some (.link f first second state)
  | .sessionRead handle count => if handle = 0 then none else some (.sessionRead handle count.toUInt32)
  | .sessionWrite handle count buff =>
    if handle = 0 then none
    else if count.toNat < 2 ^ 32 then some (.sessionWrite handle buff.toList count.toUInt32)
    else none
  | .sessionReadWithMetadata handle buf capturedSize =>
    if handle = 0 then none
    else
      some (.sessionReadWithMetadata handle
        [{ timestamp := j.sent.timestamp, flags := j.sent.flags, size := buf.size, buffer := [],
           metadataSize := buf.metadataSize, metadata := [], allocHandle := [buf.allocHandle, buf.allocHandle],
           allocSize := buf.allocSize, offset := buf.offset }]
        capturedSize)
  | .sessionWriteWithMetadata handle buf consumedSize =>
    some (.sessionWriteWithMetadata handle [buf.toHw j] consumedSize)
  | .sessionWriteDatapathParams sessionId buf =>
    if buf.size ≠ 0 ∧ buf.addr.isSome then
      some (.sessionWriteDatapathParams sessionId
        [{ buf.toHw j with
           metadataSize := j.sent.metadataSize, metadata := [], allocHandle := [], allocSize := j.sent.allocSize,
           offset := j.sent.offset }])
    else none
  | .getHwProcessedBuffCnt handle dir => some (.getHwProcessedBuffCnt handle dir)
  | .getAifInfoList _ num => some (.getAifInfoList num.toUInt32)
  | .getGroupAifInfoList _ num => some (.getGroupAifInfoList num.toUInt32)
  | .getSessionTime handle _ => some (.getSessionTime handle)
  | .getBufferTimestamp sessionId => some (.getBufferTimestamp sessionId)
  | .sessionGetBufInfo sessionId flag => some (.sessionGetBufInfo sessionId flag)
  | .setGaplessSessionMetadata handle type silence => some (.setGaplessSessionMetadata handle type silence)

/-! ## The handlers -/

/-- How far a handler comes: it refuses the request, or calls the service. -/
inductive Handled
  | refused (ret : Int32)
  | call (c : ApiCall)

/-- The first `n` elements, if there are so many. -/
def firstOf {α : Type} (n : Nat) (l : List α) : Option (List.Vector α n) :=
  if h : n ≤ l.length then some ⟨l.take n, List.length_take_of_le h⟩ else none

/-- `NUM_GKV` reads a word of the metadata. -/
def MetadataOf.readsNumGkv : MetadataOf → Bool
  | .aif _ => false
  | .session _ | .sessionAif _ _ => true

/-- Copy `size` bytes out of a vector that was found to be long enough, and call the service. -/
def handleSized (size : Nat) (bs : Bytes) (call : List.Vector UInt8 size → ApiCall) : Option Handled :=
  if bs.length < size then some (.refused (-Ret.EINVAL)) else (firstOf size bs).map (.call ∘ call)

def handleKv (num : UInt32) (kv : List KeyValue) (call : List.Vector KeyValue num.toNat → ApiCall) : Option Handled :=
  if MAX_KVPAIR < num.toNat then some (.refused (-Ret.ENOMEM)) else (firstOf num.toNat kv).map (.call ∘ call)

/-- The buffer of the handler of a write.  `metadata_size` is left unset where there is none. -/
def HwBuff.toWrite (j : Junk) (b : HwBuff) : Option AgmBuff := do
  let addr ← firstOf b.size.toNat b.buffer
  let metadata ← firstOf b.metadataSize.toNat b.metadata
  let fd ← b.allocHandle.head?
  let _ ← b.allocHandle[1]?
  if b.metadataSize = 0 then
    return { b with addr := some addr, metadataSize := j.stack.metadataSize, metadata := none, allocHandle := fd }
  else return { b with addr := some addr, metadata := some metadata, allocHandle := fd }

/-- The buffer of the handler of a read. -/
def HwBuff.toRead (b : HwBuff) : Option AgmBuff := do
  let fd ← b.allocHandle.head?
  let _ ← b.allocHandle[1]?
  return { timestamp := 0, flags := 0, size := b.size, addr := some (List.Vector.replicate _ 0),
           metadataSize := b.metadataSize, metadata := some (List.Vector.replicate _ 0), allocHandle := fd,
           allocSize := b.allocSize, offset := b.offset }

/-- `max_metadata_size` is read by one of the two handlers only. -/
def HwBufferConfig.toApi (b : HwBufferConfig) (maxMetadataSize : UInt32) : BufferConfig :=
  ⟨b.count, b.size.toUInt64, maxMetadataSize.toUInt64⟩

def hwHandle (j : Junk) : HwRequest → Option Handled
  | .dump info => info.head?.map (.call ∘ .dump)
  | .aifSetMediaConfig aifId cfg => cfg.head?.map (.call ∘ .aifSetMediaConfig aifId)
  | .aifGroupSetMediaConfig groupId cfg => cfg.head?.map (.call ∘ .aifGroupSetMediaConfig groupId)
  | .setMetadata of size metadata =>
    if of.readsNumGkv ∧ size.toNat ≤ metadata.length ∧ size.toNat < 4 then none
    else handleSized size.toNat metadata (.setMetadata of size)
  | .setParams of payload size => handleSized size.toUInt64.toNat payload (.setParams of size.toUInt64)
  | .sessionGetParams sessionId size buff =>
    handleSized size.toUInt64.toNat buff (.sessionGetParams sessionId size.toUInt64)
  | .sessionAifGetTagModuleInfo sessionId aifId size =>
    some (.call (.sessionAifGetTagModuleInfo sessionId aifId (size ≠ 0) size.toUInt64))
  | .sessionAifSetCal sessionId aifId cfg => do
    let c ← cfg.head?
    handleKv c.numCkvs c.kv fun kv => .sessionAifSetCal sessionId aifId ⟨c.numCkvs, kv⟩
  | .setParamsWithTag sessionId aifId cfg => do
    let c ← cfg.head?
    handleKv c.numTkvs c.kv fun kv => .setParamsWithTag sessionId aifId ⟨c.tag, c.numTkvs, kv⟩
  | .sessionRegisterForEvents sessionId cfg =>
    match cfg with
    | [c] =>
      if c.payload.length ≠ c.payloadSize.toNat then some (.refused (-Ret.EINVAL))
      else if countedByInt c.payloadSize then
        (firstOf c.payloadSize.toNat c.payload).map fun payload =>
          .call (.sessionRegisterForEvents sessionId
            ⟨c.moduleInstanceId, c.eventId, c.payloadSize, c.isRegister, payload⟩)
      else none
    | _ => some (.refused (-Ret.EINVAL))
  | .sessionOpen sessionId mode => some (.call (.sessionOpen sessionId mode))
  | .sessionSetConfig handle session media buffer => do
    let session ← session.head?
    let media ← media.head?
    let buffer ← buffer.head?
    return .call (.sessionSetConfig handle session media (buffer.toApi 0))
  | .sessionSetNonTunnelModeConfig handle session inMedia outMedia inBuffer outBuffer => do
    let session ← session.head?
    let inMedia ← inMedia.head?
    let outMedia ← outMedia.head?
    let inBuffer ← inBuffer.head?
    let outBuffer ← outBuffer.head?
    return .call (.sessionSetNonTunnelModeConfig handle session inMedia outMedia
      (inBuffer.toApi inBuffer.maxMetadataSize) (outBuffer.toApi outBuffer.maxMetadataSize))
  | .onHandle f handle => some (.call (.onHandle f handle))
  | .sessionidFlush sessionId => some (.call (.sessionidFlush sessionId))
  | .link f first second state => some (.call (.link f first second state))
  | .sessionRead handle count => some (.call (.sessionRead handle count.toUInt64))
  | .sessionWrite handle buff count => handleSized count.toUInt64.toNat buff (.sessionWrite handle count.toUInt64)
  | .sessionReadWithMetadata handle buff capturedSize => do
    let b ← buff.head?
    return .call (.sessionReadWithMetadata handle (← b.toRead) capturedSize)
  | .sessionWriteWithMetadata handle buff consumedSize => do
    let b ← buff.head?
    if b.metadata.length < b.metadataSize.toNat then return .refused (-Ret.EINVAL)
    else return .call (.sessionWriteWithMetadata handle (← b.toWrite j) consumedSize)
  | .sessionWriteDatapathParams sessionId buff =>
    match buff with
    | [b] =>
      if b.size.toNat ≠ b.buffer.length ∨ b.size = 0 then some (.refused (-Ret.EINVAL))
      else
        (firstOf b.size.toNat b.buffer).map fun addr =>
          .call (.sessionWriteDatapathParams sessionId
            { timestamp := b.timestamp, flags := b.flags, size := b.size, addr := some addr,
              metadataSize := j.stack.metadataSize, metadata := none, allocHandle := j.stack.allocHandle,
              allocSize := j.stack.allocSize, offset := j.stack.offset })
    | _ => some (.refused (-Ret.EINVAL))
  | .getHwProcessedBuffCnt handle dir => some (.call (.getHwProcessedBuffCnt handle dir))
  | .getAifInfoList num => some (.call (.getAifInfoList (num ≠ 0) num.toUInt64))
  | .getGroupAifInfoList num => some (.call (.getGroupAifInfoList (num ≠ 0) num.toUInt64))
  | .getSessionTime handle => some (.call (.getSessionTime handle 0))
  | .getBufferTimestamp sessionId => some (.call (.getBufferTimestamp sessionId))
  | .sessionGetBufInfo sessionId flag => some (.call (.sessionGetBufInfo sessionId flag))
  | .setGaplessSessionMetadata handle type silence => some (.call (.setGaplessSessionMetadata handle type silence))

/-! ## The replies -/

/-- A name becomes a string: it ends at its first zero, which has to be there. -/
def AifInfo.toHw (a : AifInfo) : Option HwAifInfo :=
  if 0 ∈ a.aifName.toList then some ⟨a.aifName.toList.takeWhile (· ≠ 0), a.dir⟩ else none

/-- The `AgmBuff` a read answers with.  Its flags are never set, and `metadata_size` only with metadata. -/
def AgmBuff.toAnswer (j : Junk) (b : AgmBuff) : Option HwBuff := do
  let addr ← b.addr
  let metadata ← b.metadata
  return { timestamp := b.timestamp, flags := j.answered.flags, size := b.size, buffer := addr.toList,
           metadataSize := if b.metadataSize = 0 then j.answered.metadataSize else b.metadataSize,
           metadata := metadata.toList, allocHandle := [], allocSize := j.answered.allocSize,
           offset := j.answered.offset }

/-- The `AgmBuff` of a read that was not filled. -/
def Junk.buff (j : Junk) : HwBuff where
  timestamp := j.answered.timestamp
  flags := j.answered.flags
  size := j.answered.size
  buffer := []
  metadataSize := j.answered.metadataSize
  metadata := []
  allocHandle := []
  allocSize := j.answered.allocSize
  offset := j.answered.offset

/-- The list of a handler, which answers zero whatever the service said.  There is a list if the number is not zero. -/
def listReply (list : Bool) (num : UInt64) (infos : List AifInfo) (num' : UInt64) : Option HwReply :=
  if list then
    if countedByInt num.toUInt32 then (infos.mapM AifInfo.toHw).map fun l => .list 0 l num'.toUInt32 else none
  else some (.list 0 [] num'.toUInt32)

/-- What the handler answers, given the call it has made and what the service has answered. -/
def hwReply (j : Junk) : (c : ApiCall) → c.Answer → Option HwReply
  | .sessionAifGetTagModuleInfo _ _ payload _, (ret, buff, size') =>
    if 2 ^ 32 ≤ size'.toNat then none
    else if payload then (firstOf size'.toNat buff.toList).map fun v => .sized ret v.toList size'.toUInt32
    else some (.sized ret (j.vec size'.toNat).toList size'.toUInt32)
  | .sessionGetParams _ size _, (ret, payload) =>
    some (.payload ret (if ret = 0 then payload.toList else (j.vec size.toNat).toList))
  | .sessionOpen _ _, (ret, handle) => some (.handle ret handle)
  | .sessionRead _ _, (ret, buff, count') => some (.sized ret buff.toList count'.toUInt32)
  | .sessionWrite _ _ _, (ret, count') | .sessionWriteWithMetadata _ _ _, (ret, count') =>
    some (.count ret count'.toUInt32)
  | .sessionReadWithMetadata _ buf _, (ret, b, captured) =>
    if ret ≤ 0 then some (.buff ret j.buff captured)
    -- the handler has as much memory as the client asked for
    else if buf.size < b.size ∨ buf.metadataSize < b.metadataSize then none
    else (b.toAnswer j).map fun out => .buff ret out captured
  | .getAifInfoList list num, (_, infos, num') | .getGroupAifInfoList list num, (_, infos, num') =>
    listReply list num infos.toList num'
  | .getSessionTime _ _, (ret, timestamp) | .getBufferTimestamp _, (ret, timestamp) => some (.time ret timestamp)
  | .sessionGetBufInfo _ flag, (ret, info) =>
    if ret = 0 then
      some (.bufInfo ret (if flag &&& DATA_BUF ≠ 0 then some (info.dataFd, info.dataSize) else none)
        (if flag &&& POS_BUF ≠ 0 then some (info.posFd, info.posSize) else none))
    else some (.bufInfo ret none none)
  | .getHwProcessedBuffCnt _ _, count => some (.ret count.toUInt32.toInt32)
  | .init, ret | .deinit, ret | .dump _, ret | .aifSetMediaConfig _ _, ret | .aifGroupSetMediaConfig _ _, ret
  | .setMetadata _ _ _, ret | .setParams _ _ _, ret | .sessionAifSetCal _ _ _, ret | .setParamsWithTag _ _ _, ret
  | .sessionRegisterForEvents _ _, ret | .sessionRegisterCb _ _ _ _, ret | .sessionSetConfig _ _ _ _, ret
  | .sessionSetNonTunnelModeConfig _ _ _ _ _ _, ret | .onHandle _ _, ret | .sessionidFlush _, ret
  | .link _ _ _ _, ret | .sessionWriteDatapathParams _ _, ret | .setGaplessSessionMetadata _ _ _, ret =>
    some (.ret ret)

/-! ## The client, when the reply is there -/

/-- `strlcpy` into a name; what is behind its end stays as it was. -/
def HwAifInfo.store (a : HwAifInfo) : AifInfo := ⟨Layout.firstBytes 32 (a.aifName.take 31 ++ [0]), a.dir⟩

/-- The first bytes are overwritten. -/
def overwrite {n : Nat} (v : List.Vector UInt8 n) (bs : Bytes) : List.Vector UInt8 n :=
  Layout.firstBytes n (bs ++ v.toList.drop bs.length)

/-- The buffer of a read, filled with as many bytes as it has. -/
def AgmBuff.readAddr (buf : AgmBuff) (bs : Bytes) : Option (Option (List.Vector UInt8 buf.size.toNat)) :=
  if buf.addr.isSome then (firstOf buf.size.toNat bs).map some else some none

/-- The metadata of a read, filled with as many bytes as have come. -/
def AgmBuff.readMetadata (buf : AgmBuff) (size : UInt32) (bs : Bytes) :
    Option (Option (List.Vector UInt8 buf.metadataSize.toNat)) :=
  if 0 < buf.metadataSize ∧ buf.metadata.isSome then
    if size ≤ buf.metadataSize then (firstOf size.toNat bs).map fun v => buf.metadata.map (overwrite · v.toList) else none
  else some buf.metadata

/-- The callback of a read that has succeeded. -/
def readReceive (buf : AgmBuff) (ret : Int32) (b : HwBuff) (captured : UInt32) : Option (Int32 × AgmBuff × UInt32) := do
  let addr ← buf.readAddr b.buffer
  if buf.size < b.size then return (-Ret.ENOMEM, { buf with flags := b.flags, addr := addr }, captured)
  else
    let metadata ← buf.readMetadata b.metadataSize b.metadata
    return (ret, { buf with timestamp := b.timestamp, flags := b.flags, addr := addr, metadata := metadata }, captured)

/-- The callback of a list. -/
def listReceive (list : Bool) (num : UInt64) (ret : Int32) (l : List HwAifInfo) (num' : UInt32) :
    Option (Int32 × List AifInfo × UInt64) :=
  if ret = -Ret.ENOMEM then some (ret, [], num)
  else if list then
    if num'.toNat ≤ num.toNat ∧ countedByInt num' then
      (firstOf num'.toNat l).map fun v => (ret, v.toList.map HwAifInfo.store, num'.toUInt64)
    else none
  else some (ret, [], num'.toUInt64)

/-- What the function of the client leaves with its caller. -/
def hwReceive : (c : ApiCall) → HwReply → Option c.Seen
  | .sessionAifGetTagModuleInfo _ _ payload size, .sized ret bs size' =>
    if ret = -Ret.ENOMEM then some (ret, [], size)
    else if payload then
      if size'.toNat ≤ size.toNat then (firstOf size'.toNat bs).map fun v => (ret, v.toList, size'.toUInt64)
      else none
    else some (ret, [], size'.toUInt64)
  | .sessionGetParams _ size _, .payload ret bs =>
    if ret = 0 then (firstOf size.toNat bs).map fun v => (ret, v.toList) else some (ret, [])
  | .sessionOpen _ _, .handle ret handle => some (ret, handle)
  | .sessionRead _ count, .sized ret bs cnt =>
    if ret = -Ret.ENOMEM then some (ret, [], count)
    else (firstOf count.toNat bs).map fun v => (ret, v.toList.take cnt.toNat, cnt.toUInt64)
  | .sessionWrite _ count _, .count ret cnt | .sessionWriteWithMetadata _ _ count, .count ret cnt =>
    some (ret, if ret = -Ret.ENOMEM then count else cnt.toUInt64)
  | .sessionReadWithMetadata _ buf capturedSize, .buff ret b captured =>
    if 0 < ret then readReceive buf ret b captured else some (ret, buf, capturedSize)
  | .getAifInfoList list num, .list ret l num' | .getGroupAifInfoList list num, .list ret l num' =>
    listReceive list num ret l num'
  -- the return value is lost
  | .getSessionTime _ _, .time _ timestamp => some (-Ret.EINVAL, timestamp)
  | .getBufferTimestamp _, .time ret timestamp => some (ret, timestamp)
  | .sessionGetBufInfo _ flag, .bufInfo ret data _ =>
    -- the descriptor of the positions is not duplicated, and is closed with the message
    if ret = 0 then some (ret, if flag &&& DATA_BUF ≠ 0 then data else none, none) else some (ret, none, none)
  | .getHwProcessedBuffCnt _ _, .ret ret => some (signExtend ret.toUInt32)
  | .dump _, .ret ret | .aifSetMediaConfig _ _, .ret ret | .aifGroupSetMediaConfig _ _, .ret ret
  | .setMetadata _ _ _, .ret ret | .setParams _ _ _, .ret ret | .sessionAifSetCal _ _ _, .ret ret
  | .setParamsWithTag _ _ _, .ret ret | .sessionRegisterForEvents _ _, .ret ret
  | .sessionSetConfig _ _ _ _, .ret ret | .sessionSetNonTunnelModeConfig _ _ _ _ _ _, .ret ret
  | .onHandle _ _, .ret ret | .sessionidFlush _, .ret ret | .link _ _ _ _, .ret ret
  | .sessionWriteDatapathParams _ _, .ret ret | .setGaplessSessionMetadata _ _ _, .ret ret => some ret
  | _, _ => none

end Agm.Ipc
