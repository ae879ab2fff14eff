import Agm.Ipc.Api

/-!
# The messages of the SwBinder

`ipc_proxy_server.cpp`: `BpAgmService` writes the arguments of a call into a parcel, `BnAgmService::onTransact` reads
them back, calls the service, and writes a reply that `BpAgmService` reads.  A parcel is a first-in-first-out of typed
fields.  Two transactions carry nothing but a binder, the registration of a client and its end; that of a callback has a
binder besides its arguments.

Memory is always there.  `SET_GAPLESS_SESSION_METADATA` is left out: its case in `onTransact` names variables that are
declared nowhere.
-/

namespace Agm.Ipc

open Agm.Lib

/-! ## Parcels -/

/-- A field.  A signed number has the bits of an unsigned one, and a `bool` is padded with zeros to a word. -/
inductive Field
  | word (v : UInt32)
  | dword (v : UInt64)
  | blob (bs : Bytes)
  | fileDescriptor (fd : UInt32)
  | binder (b : Nat)

abbrev Parcel := List Field

/-- Reading from a parcel.  There is no result if the next field is not of the type that is read. -/
abbrev Reader := StateT Parcel Option

def readUint32 : Reader UInt32 := fun p => match p with
  | .word v :: rest => some (v, rest)
  | _ => none

def readInt32 : Reader Int32 := UInt32.toInt32 <$> readUint32

def readInt64 : Reader UInt64 := fun p => match p with
  | .dword v :: rest => some (v, rest)
  | _ => none

/-- `readBlob` with the copy out of the blob: the blob must have the length that is read. -/
def readBlob (len : Nat) : Reader (List.Vector UInt8 len) := fun p => match p with
  | .blob bs :: rest => if h : bs.length = len then some (⟨bs, h⟩, rest) else none
  | _ => none

def readFileDescriptor : Reader UInt32 := fun p => match p with
  | .fileDescriptor fd :: rest => some (fd, rest)
  | _ => none

def readStrongBinder : Reader Nat := fun p => match p with
  | .binder b :: rest => some (b, rest)
  | _ => none

/-- A word that is read with `readInt32` and stored in a `size_t`. -/
def signExtend (v : UInt32) : UInt64 := ⟨v.toBitVec.signExtend 64⟩

/-- A number that fits into 32 bits with its sign. -/
def Signed32 (x : UInt64) : Prop := x.toNat < 2 ^ 31 ∨ 2 ^ 64 - 2 ^ 31 ≤ x.toNat

instance (x : UInt64) : Decidable (Signed32 x) := by unfold Signed32; infer_instance

/-! ## The transactions -/

/-- The transaction codes. -/
inductive SwCode
  | «open» | regClient | unregClient | setMediaConfig | init | audioIntfSetMeta | sessionSetMeta
  | sessionAudioIntfSetMeta | sessionSetConfig | close | prepare | start | stop | pause | resume | connect | read
  | write | loopback | getBuffCnt | getAifList | regEvent | regCb | getTagModuleInfo | sessionAifSetParams
  | sessionSetParams | setParamsWithTag | setEcref | setCalibration | eos | getSessionTime | getParams | bufTstamp
  | aifSetParams | getBufInfo
  deriving DecidableEq

/-- What `BpAgmService` may send. -/
inductive SwSend
  | client (register : Bool) (binder : Nat)
  | registerCb (sessionId : UInt32) (cb : UInt64) (event : UInt32) (clientData : UInt64) (binder : Nat)
  | call (c : ApiCall)

/-- The registration of a client has no reply. -/
@[reducible] def SwSend.Answer : SwSend → Type
  | .client _ _ => Unit
  | .registerCb _ _ _ _ _ => Int32
  | .call c => c.Answer

@[reducible] def SwSend.Seen : SwSend → Type
  | .client _ _ => Unit
  | .registerCb _ _ _ _ _ => Int32
  | .call c => c.Seen

/-- The code of a call that has only a handle. -/
def HandleCall.code : HandleCall → Option SwCode
  | .close => some .close
  | .prepare => some .prepare
  | .start => some .start
  | .stop => some .stop
  | .pause => some .pause
  | .resume => some .resume
  | .eos => some .eos
  | .suspend | .flush => none

def LinkCall.code : LinkCall → SwCode
  | .aifConnect => .connect
  | .loopback => .loopback
  | .ecRef => .setEcref

def ofBool (b : Bool) : Field := .word (if b then 1 else 0)

/-- Of an address that is sent only `NULL` matters. -/
def ofPointer (present : Bool) : Field := .dword (if present then 1 else 0)

/-- The bytes of key values.  Their number of bytes is computed in 32 bits. -/
def kvBlob (num : UInt32) (kv : List.Vector KeyValue num.toNat) : Field :=
  .blob ((KeyValue.layout.encodeAll kv.toList).take (8 * num).toNat)

/-! ## The proxy sends -/

/-- What the functions of `BpAgmService` send; `none` if there is no such function or it returns `-EINVAL` at once. -/
def bpSend : SwSend → Option (SwCode × Parcel)
  | .client register b => some (if register then .regClient else .unregClient, [.binder b])
  | .registerCb sessionId cb event clientData b =>
    some (.regCb, [.word sessionId, .dword cb, .word event, .dword clientData, .binder b])
  | .call .init => some (.init, [])
  | .call (.aifSetMediaConfig aifId cfg) =>
    some (.setMediaConfig, [.word aifId, .word 16, .blob (MediaConfig.layout.encode cfg)])
  | .call (.sessionSetConfig handle session media buffer) =>
    some (.sessionSetConfig, [.dword handle, .word 56, .blob session.toList, .word 16,
      .blob (MediaConfig.layout.encode media), .word 24, .blob (BufferConfig.layout.encode buffer)])
  | .call (.link f first second state) => some (f.code, [.word first, .word second, ofBool state])
  | .call (.setMetadata (.aif aifId) size metadata) =>
    some (.audioIntfSetMeta, [.word aifId, .word size, .blob metadata.toList])
  | .call (.setMetadata (.session sessionId) size metadata) =>
    some (.sessionSetMeta, [.word sessionId, .word size, .blob metadata.toList])
  | .call (.setMetadata (.sessionAif sessionId aifId) size metadata) =>
    some (.sessionAudioIntfSetMeta, [.word sessionId, .word aifId, .word size, .blob metadata.toList])
  | .call (.sessionOpen sessionId mode) => some (.open, [.word sessionId, .word mode])
  | .call (.onHandle f handle) => f.code.map fun code => (code, [.dword handle])
  | .call (.getHwProcessedBuffCnt handle dir) => some (.getBuffCnt, [.dword handle, .word dir])
  | .call (.sessionRead handle count) => some (.read, [.dword handle, .word count.toUInt32])
  | .call (.sessionWrite handle count buff) =>
    some (.write, [.dword handle, .word count.toUInt32, .blob buff.toList])
  | .call (.getAifInfoList list num) =>
    -- an `int` holds the count, and a list goes with a count that is not zero
    if list = decide (num.toUInt32 ≠ 0) then some (.getAifList, [.word num.toUInt32, ofPointer list]) else none
  | .call (.sessionRegisterForEvents sessionId cfg) =>
    some (.regEvent, [.word sessionId, .word cfg.moduleInstanceId, .word cfg.eventId, .word cfg.payloadSize,
      .word cfg.isRegister.toUInt32, .word cfg.payloadSize, .blob cfg.payload.toList])
  | .call (.sessionAifGetTagModuleInfo sessionId aifId payload size) =>
    if payload ∧ size.toUInt32 = 0 then none
    else some (.getTagModuleInfo, [ofPointer payload, .word size.toUInt32, .word sessionId, .word aifId])
  | .call (.setParams (.sessionAif sessionId aifId) size payload) =>
    some (.sessionAifSetParams, [.word sessionId, .word aifId, .word size.toUInt32, .blob payload.toList])
  | .call (.setParams (.aif aifId) size payload) =>
    some (.aifSetParams, [.word aifId, .word size.toUInt32, .blob payload.toList])
  | .call (.setParams (.session sessionId) size payload) =>
    some (.sessionSetParams, [.word sessionId, .word size.toUInt32, .blob payload.toList])
  | .call (.setParamsWithTag sessionId aifId cfg) =>
    some (.setParamsWithTag, [.word sessionId, .word aifId, .word cfg.tag, .word cfg.numTkvs,
      kvBlob cfg.numTkvs cfg.kv])
  | .call (.getSessionTime handle timestamp) => some (.getSessionTime, [.dword handle, .dword timestamp])
  | .call (.sessionAifSetCal sessionId aifId cfg) =>
    some (.setCalibration, [.word sessionId, .word aifId, .word cfg.numCkvs, kvBlob cfg.numCkvs cfg.kv])
  | .call (.sessionGetParams sessionId size payload) =>
    some (.getParams, [.word sessionId, .word size.toUInt32, .blob payload.toList])
  | .call (.getBufferTimestamp sessionId) => some (.bufTstamp, [.word sessionId])
  | .call (.sessionGetBufInfo sessionId flag) => some (.getBufInfo, [.word sessionId, .word flag])
  | .call _ => none

/-! ## The stub reads -/

/-- The key values of a blob, in memory that was zero and has room for all of them. -/
def readKv (num : UInt32) : Reader (List.Vector KeyValue num.toNat) := do
  let blob ← readBlob (8 * num).toNat
  return ⟨KeyValue.layout.decodeAll num.toNat blob.toList, KeyValue.layout.length_decodeAll _ _⟩

/-- The key values of a calibration.  The memory has room for the bytes of the blob, whose number was computed in 32
bits; there is no result where the service, which is told `num`, would read past its end. -/
def readCkv (num : UInt32) : Reader (List.Vector KeyValue num.toNat) := do
  let kv ← readKv num
  if num.toNat < 2 ^ 29 then return kv else failure

/-- The arguments of a call that has only a handle. -/
def readHandle (f : HandleCall) : Reader SwSend := do return .call (.onHandle f (← readInt64))

/-- The arguments of a call that links two ids; the state is read as a number. -/
def readLink (f : LinkCall) : Reader SwSend := do
  let first ← readUint32
  let second ← readUint32
  let state ← readUint32
  return .call (.link f first second (state ≠ 0))

/-- A length, as a `size_t`, and so many bytes. -/
def readCounted : Reader (Σ count : UInt64, List.Vector UInt8 count.toNat) := do
  let count := (← readUint32).toUInt64
  return ⟨count, ← readBlob count.toNat⟩

def readPayload (of : ParamsOf) : Reader SwSend := do
  let ⟨count, payload⟩ ← readCounted
  return .call (.setParams of count payload)

def readMetadata (of : MetadataOf) : Reader SwSend := do
  let count ← readUint32
  return .call (.setMetadata of count (← readBlob count.toNat))

/-- What `onTransact` reads for a transaction. -/
def onTransact : SwCode → Reader SwSend
  | .regClient => do return .client true (← readStrongBinder)
  | .unregClient => do return .client false (← readStrongBinder)
  | .open => do
    let sessionId ← readUint32
    return .call (.sessionOpen sessionId (← readUint32))
  | .sessionSetMeta => do readMetadata (.session (← readUint32))
  | .sessionAudioIntfSetMeta => do
    let sessionId ← readUint32
    readMetadata (.sessionAif sessionId (← readUint32))
  | .init => return .call .init
  | .getBuffCnt => do
    let handle ← readInt64
    return .call (.getHwProcessedBuffCnt handle (← readUint32))
  | .audioIntfSetMeta => do readMetadata (.aif (← readUint32))
  | .loopback => readLink .loopback
  | .close => readHandle .close
  | .prepare => readHandle .prepare
  | .start => readHandle .start
  | .stop => readHandle .stop
  | .pause => readHandle .pause
  | .resume => readHandle .resume
  | .connect => readLink .aifConnect
  | .setMediaConfig => do
    let aifId ← readUint32
    let size ← readUint32
    let blob ← readBlob size.toNat
    return .call (.aifSetMediaConfig aifId (MediaConfig.layout.decode blob.toList))
  | .sessionSetConfig => do
    let handle ← readInt64
    let size₁ ← readUint32
    let session ← readBlob size₁.toNat
    let size₂ ← readUint32
    let media ← readBlob size₂.toNat
    let size₃ ← readUint32
    let buffer ← readBlob size₃.toNat
    return .call (.sessionSetConfig handle ((Layout.raw 56).decode session.toList)
      (MediaConfig.layout.decode media.toList) (BufferConfig.layout.decode buffer.toList))
  | .read => do
    let handle ← readInt64
    return .call (.sessionRead handle (← readUint32).toUInt64)
  | .write => do
    let handle ← readInt64
    let ⟨count, buff⟩ ← readCounted
    return .call (.sessionWrite handle count buff)
  | .getAifList => do
    let count := (← readUint32).toUInt64
    if count = 0 then
      let list ← readInt64
      return .call (.getAifInfoList (list ≠ 0) count)
    else
      -- the address of the caller's list stays in the parcel
      return .call (.getAifInfoList true count)
  | .regEvent => do
    let sessionId ← readUint32
    let moduleInstanceId ← readUint32
    let eventId ← readUint32
    let payloadSize ← readUint32
    let isRegister := (← readUint32).toUInt8
    let blobSize ← readUint32
    let blob ← readBlob blobSize.toNat
    return .call (.sessionRegisterForEvents sessionId
      ⟨moduleInstanceId, eventId, payloadSize, isRegister, (Layout.raw payloadSize.toNat).decode blob.toList⟩)
  | .regCb => do
    let sessionId ← readUint32
    let cb ← readInt64
    let event ← readUint32
    let clientData ← readInt64
    return .registerCb sessionId cb event clientData (← readStrongBinder)
  | .getTagModuleInfo => do
    let payload ← readInt64
    let count := (← readUint32).toUInt64
    let sessionId ← readUint32
    return .call (.sessionAifGetTagModuleInfo sessionId (← readUint32) (payload ≠ 0) count)
  | .sessionAifSetParams => do
    let sessionId ← readUint32
    readPayload (.sessionAif sessionId (← readUint32))
  | .aifSetParams => do readPayload (.aif (← readUint32))
  | .sessionSetParams => do readPayload (.session (← readUint32))
  | .setParamsWithTag => do
    let sessionId ← readUint32
    let aifId ← readUint32
    let tag ← readUint32
    let num ← readUint32
    return .call (.setParamsWithTag sessionId aifId ⟨tag, num, ← readKv num⟩)
  | .setEcref => readLink .ecRef
  | .setCalibration => do
    let sessionId ← readUint32
    let aifId ← readUint32
    let num ← readUint32
    return .call (.sessionAifSetCal sessionId aifId ⟨num, ← readCkv num⟩)
  | .eos => readHandle .eos
  | .getSessionTime => do
    let handle ← readInt64
    return .call (.getSessionTime handle (← readInt64))
  | .getParams => do
    let sessionId ← readUint32
    let ⟨count, payload⟩ ← readCounted
    return .call (.sessionGetParams sessionId count payload)
  | .bufTstamp => do return .call (.getBufferTimestamp (← readUint32))
  | .getBufInfo => do
    let sessionId ← readUint32
    return .call (.sessionGetBufInfo sessionId (← readUint32))

/-! ## The stub answers -/

def ofRet (ret : Int32) : Field := .word ret.toUInt32

/-- A reply that copies the first `len` bytes of a buffer into a blob; `none` if there are not so many. -/
def ofBuffer (buff : Bytes) (len : Nat) (reply : Field → Parcel) : Option Parcel :=
  if len ≤ buff.length then some (reply (.blob (buff.take len))) else none

/-- The reply to a call. -/
def callReply : (c : ApiCall) → c.Answer → Option Parcel
  | .sessionOpen _ _, (ret, handle) => some [.dword handle, ofRet ret]
  | .getHwProcessedBuffCnt _ _, count => some [.word count.toUInt32]
  | .sessionRead _ _, (ret, buff, count) =>
    if ret ≠ 0 then some [ofRet ret]
    else ofBuffer buff.toList count.toNat fun blob => [ofRet ret, .word count.toUInt32, blob]
  | .sessionWrite _ _ _, (ret, count) => some [.word count.toUInt32, ofRet ret]
  | .getAifInfoList _ num, (ret, list, count) =>
    if num = 0 then some [.word count.toUInt32, ofRet ret]
    else
      -- the number of bytes is an `int`, and that of the blob a `size_t`
      ofBuffer (AifInfo.layout.encodeAll list.toList) (signExtend (count * 36).toUInt32).toNat
        fun blob => [blob, ofRet ret]
  | .sessionAifGetTagModuleInfo _ _ payload size, (ret, buff, count) =>
    if payload = false then some [.word count.toUInt32, ofRet ret]
    else if size = 0 then some []
    else ofBuffer buff.toList count.toNat fun blob => [blob, ofRet ret]
  | .getSessionTime _ _, (ret, timestamp) | .getBufferTimestamp _, (ret, timestamp) =>
    some [.dword timestamp, ofRet ret]
  | .sessionGetParams _ _ _, (ret, payload) => some [.blob payload.toList, ofRet ret]
  | .sessionGetBufInfo _ flag, (ret, info) =>
    some ((if flag &&& DATA_BUF ≠ 0 then [.fileDescriptor info.dataFd, .word info.dataSize] else []) ++
      (if flag &&& POS_BUF ≠ 0 then [.fileDescriptor info.posFd, .word info.posSize] else []) ++ [ofRet ret])
  | .init, ret | .aifSetMediaConfig _ _, ret | .setMetadata _ _ _, ret | .setParams _ _ _, ret
  | .sessionAifSetCal _ _ _, ret | .setParamsWithTag _ _ _, ret | .sessionRegisterForEvents _ _, ret
  | .sessionSetConfig _ _ _ _, ret | .onHandle _ _, ret | .link _ _ _ _, ret => some [ofRet ret]
  | _, _ => none

/-- The reply of `onTransact`. -/
def bnReply : (r : SwSend) → r.Answer → Option Parcel
  | .client _ _, _ => some []
  | .registerCb _ _ _ _ _, ret => some [ofRet ret]
  | .call c, a => callReply c a

/-! ## The proxy returns -/

/-- What the functions of `BpAgmService` read from a reply and hand to the caller. -/
def callReceive : (c : ApiCall) → Reader c.Seen
  | .sessionOpen _ _ => do
    let handle ← readInt64
    return (← readInt32, handle)
  | .getHwProcessedBuffCnt _ _ => do return signExtend (← readUint32)
  | .sessionRead _ count => do
    let ret ← readInt32
    if ret ≠ 0 then return (ret, [], count)
    else
      let count := (← readUint32).toUInt64
      return (ret, (← readBlob count.toNat).toList, count)
  | .sessionWrite _ _ _ => do
    let count := (← readUint32).toUInt64
    return (← readInt32, count)
  | .getAifInfoList list num => do
    if list = false then
      let num := signExtend (← readUint32)
      return (← readInt32, [], num)
    else
      let blob ← readBlob (36 * num.toUInt32).toNat
      return (← readInt32, AifInfo.layout.decodeAll num.toUInt32.toNat blob.toList, num)
  | .sessionAifGetTagModuleInfo _ _ payload size => do
    if payload = false then
      let size := signExtend (← readUint32)
      return (← readInt32, [], size)
    else
      -- an `int` holds the size
      let blob ← readBlob (signExtend size.toUInt32).toNat
      return (← readInt32, blob.toList, size)
  | .getSessionTime _ _ | .getBufferTimestamp _ => do
    let timestamp ← readInt64
    return (← readInt32, timestamp)
  | .sessionGetParams _ size _ => do
    let blob ← readBlob size.toNat
    return (← readInt32, blob.toList)
  | .sessionGetBufInfo _ flag => do
    let data ← if flag &&& DATA_BUF ≠ 0 then do
        let fd ← readFileDescriptor
        pure (some (fd, ← readUint32))
      else pure none
    let pos ← if flag &&& POS_BUF ≠ 0 then do
        let fd ← readFileDescriptor
        pure (some (fd, ← readUint32))
      else pure none
    return (← readInt32, data, pos)
  | .init | .aifSetMediaConfig _ _ | .setMetadata _ _ _ | .setParams _ _ _ | .sessionAifSetCal _ _ _
  | .setParamsWithTag _ _ _ | .sessionRegisterForEvents _ _ | .sessionSetConfig _ _ _ _ | .onHandle _ _
  | .link _ _ _ _ => readInt32
  | _ => failure

def bpReceive : (r : SwSend) → Reader r.Seen
  | .client _ _ => pure ()
  | .registerCb _ _ _ _ _ => readInt32
  | .call c => callReceive c

/-! ## What a transaction should do -/

def SwSend.see : (r : SwSend) → r.Answer → r.Seen
  | .client _ _, _ => ()
  | .registerCb _ _ _ _ _, ret => ret
  | .call c, a => c.see a

def SwSend.outputs : (r : SwSend) → r.Seen → r.Seen
  | .client _ _, s => s
  | .registerCb _ _ _ _ _, s => s
  | .call c, s => c.outputs s

/-- The stub reads all of what the proxy has written, with the same values, and the proxy reads all of the reply and
hands over what the service answers. -/
def SwSend.Carried (r : SwSend) (a : r.Answer) (m : SwCode × Parcel) : Prop :=
  onTransact m.1 m.2 = some (r, []) ∧
    ∃ reply s, bnReply r a = some reply ∧ bpReceive r reply = some (s, []) ∧ r.outputs s = r.outputs (r.see a)

/-- Key values past what a 32-bit number of bytes can hold. -/
def pastBlob (num : UInt32) (kv : List.Vector KeyValue num.toNat) : List KeyValue := kv.toList.drop (num.toNat % 2 ^ 29)

/-- What the messages have room for. -/
def SwSend.Fits : (r : SwSend) → r.Answer → Prop
  | .call (.setParams _ size _), _ | .call (.sessionGetParams _ size _), _ => size.toNat < 2 ^ 32
  | .call (.sessionRead _ count), (ret, _, count') =>
    count.toNat < 2 ^ 32 ∧ if ret = 0 then count'.toNat ≤ count.toNat else count' = count
  | .call (.sessionWrite _ count _), (_, count') => count.toNat < 2 ^ 32 ∧ count'.toNat < 2 ^ 32
  | .call (.getAifInfoList false num), (_, _, num') => num = 0 ∧ Signed32 num'
  | .call (.getAifInfoList true _), _ => False
  | .call (.sessionAifGetTagModuleInfo _ _ false size), (_, _, size') => size.toNat < 2 ^ 32 ∧ Signed32 size'
  | .call (.sessionAifGetTagModuleInfo _ _ true size), (_, _, size') => size.toNat < 2 ^ 31 ∧ size' = size
  | .call (.sessionAifSetCal _ _ cfg), _ => cfg.numCkvs.toNat < 2 ^ 29
  | .call (.setParamsWithTag _ _ cfg), _ => ∀ p ∈ pastBlob cfg.numTkvs cfg.kv, p = ⟨0, 0⟩
  | .call (.getHwProcessedBuffCnt _ _), count => Signed32 count
  | _, _ => True

/-! ## Reading what was written -/

section

variable {α β : Type} {p q : Parcel} {a : α}

@[simp] theorem Reader.bind_apply (m : Reader α) (f : α → Reader β) (p : Parcel) :
    (m >>= f) p = (m p).bind fun r => f r.1 r.2 := rfl

@[simp] theorem Reader.pure_apply (a : α) (p : Parcel) : (pure a : Reader α) p = some (a, p) := rfl

@[simp] theorem Reader.map_apply (f : α → β) (m : Reader α) (p : Parcel) :
    (f <$> m) p = (m p).map fun r => (f r.1, r.2) := by
  show (m p).bind (fun r => some (f r.1, r.2)) = _
  exact Option.map_eq_bind.symm

@[simp] theorem readUint32_word (v : UInt32) (p : Parcel) : readUint32 (.word v :: p) = some (v, p) := rfl

@[simp] theorem readInt64_dword (v : UInt64) (p : Parcel) : readInt64 (.dword v :: p) = some (v, p) := rfl

@[simp] theorem readInt32_ofRet (ret : Int32) (p : Parcel) : readInt32 (ofRet ret :: p) = some (ret, p) := rfl

@[simp] theorem readFileDescriptor_fileDescriptor (fd : UInt32) (p : Parcel) :
    readFileDescriptor (.fileDescriptor fd :: p) = some (fd, p) := rfl

@[simp] theorem readStrongBinder_binder (b : Nat) (p : Parcel) :
    readStrongBinder (.binder b :: p) = some (b, p) := rfl

/-- A blob of the length that is read. -/
theorem readBlob_of_length {len : Nat} {bs : Bytes} (h : bs.length = len) (p : Parcel) :
    readBlob len (.blob bs :: p) = some (⟨bs, h⟩, p) := by
  rw [readBlob, dif_pos h]

/-- A blob of another length. -/
theorem readBlob_of_length_ne {len : Nat} {bs : Bytes} (h : bs.length ≠ len) (p : Parcel) :
    readBlob len (.blob bs :: p) = none := by
  rw [readBlob, dif_neg h]

@[simp] theorem readBlob_toList {n : Nat} (v : List.Vector UInt8 n) (p : Parcel) :
    readBlob n (.blob v.toList :: p) = some (v, p) := readBlob_of_length v.2 p

end

/-! ### Numbers that change their width -/

theorem toUInt64_toUInt32_eq_iff (x : UInt64) : x.toUInt32.toUInt64 = x ↔ x.toNat < 2 ^ 32 := by
  rw [← UInt64.toNat_inj, UInt32.toNat_toUInt64, UInt64.toNat_toUInt32]
  omega

theorem toNat_signExtend (v : UInt32) :
    (signExtend v).toNat = if v.toNat < 2 ^ 31 then v.toNat else v.toNat + (2 ^ 64 - 2 ^ 32) := by
  have hv := v.toNat_lt
  have hmsb : v.toBitVec.msb = decide (2 ^ 31 ≤ v.toNat) := BitVec.msb_eq_decide _
  show (v.toBitVec.signExtend 64).toNat = _
  rw [BitVec.toNat_signExtend, hmsb, BitVec.toNat_setWidth, UInt32.toNat_toBitVec, Nat.mod_eq_of_lt (by omega)]
  by_cases h : 2 ^ 31 ≤ v.toNat
  · rw [decide_eq_true h, if_pos rfl, if_neg (by omega)]
  · rw [decide_eq_false h, if_neg (by decide), if_pos (by omega), Nat.add_zero]

theorem signExtend_toUInt32_eq_iff (x : UInt64) : signExtend x.toUInt32 = x ↔ Signed32 x := by
  have hx := x.toNat_lt
  rw [← UInt64.toNat_inj, toNat_signExtend, UInt64.toNat_toUInt32, Signed32]
  split <;> omega

end Agm.Ipc
