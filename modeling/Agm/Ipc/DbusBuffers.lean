import Agm.Ipc.Api
import Agm.Lib.Bytes

/-!
# The buffers of the D-Bus server

What the handlers of `agm_server_wrapper_dbus.cpp` copy once the signature of a request is right: from the array they
have received into a block of their own, and from there into the reply.  Blocks are given by their lengths, the service
by its answer, and allocations succeed.  The handlers pass the address of a `uint32_t` for a `size_t *`, so `size_t` has
32 bits.
-/

namespace Agm.Ipc.Dbus

open Agm.Lib

/-- A computed size counts modulo this. -/
def SIZE_MOD : Nat := 2 ^ 32

/-- D-Bus does not let an array have more bytes. -/
def MAX_ARRAY : Nat := 2 ^ 26

abbrev ByteArr := { bytes : List UInt8 // bytes.length ≤ MAX_ARRAY }

/-- An array of pairs, each of eight bytes. -/
abbrev PairArr := { kv : List KeyValue // 8 * kv.length ≤ MAX_ARRAY }

/-- The requests whose handlers neither take nor give an array, and hand no size to the service; that of
`getAifInfoListSize` is `0`. -/
inductive Plain
  | audioIntfSetMediaConfig | sessionSetLoopback | getAifInfoListSize | sessionRegisterCb | sessionDeregisterCb
  | sessionSetEcRef | sessionAudioInfConnect | getBufferTimestamp | sessionOpen | sessionClose | sessionPrepare
  | sessionStart | sessionStop | sessionPause | sessionResume | sessionEos | getSessionTime | getHwProcessedBuffCnt
  deriving DecidableEq, Repr

/-- A request whose signature is right. -/
inductive Request
  | audioIntfSetMetadata (aifId size : UInt32) (metadata : ByteArr)
  | sessionAudioInfSetMetadata (sessionId aifId size : UInt32) (metadata : ByteArr)
  | sessionSetMetadata (sessionId size : UInt32) (metadata : ByteArr)
  | setParamsWithTag (sessionId aifId tag numTkvs : UInt32) (kv : PairArr)
  | getAifInfoList (numAifInfo : UInt32)
  | sessionSetParams (sessionId size : UInt32) (payload : ByteArr)
  | sessionRegisterForEvents (sessionId moduleInstanceId eventId payloadSize : UInt32) (isRegister : UInt8)
      (payload : ByteArr)
  | sessionAifGetTagModuleInfoSize (sessionId aifId size : UInt32)
  | sessionAifGetTagModuleInfo (sessionId aifId size : UInt32)
  | sessionAifSetParams (sessionId aifId size : UInt32) (payload : ByteArr)
  | sessionAifSetCal (sessionId aifId numCkv : UInt32) (kv : ByteArr)
  | sessionGetParams (sessionId size : UInt32) (payload : ByteArr)
  | sessionRead (bufSize : UInt32)
  | sessionWrite (bufSize : UInt32) (buf : ByteArr)
  | sessionSetConfig (media : MediaConfig) (count size : UInt32) (config : ByteArr)
  | plain (p : Plain)

/-- The answer of the service: what it returns, the size or count it leaves, and what it puts into a list of back
ends. -/
structure Answer where
  ret : Int32
  count : UInt32
  list : Mem

/-- A copy of `len` bytes.  `src` bytes are left where it reads, and `dst` where it writes. -/
structure Copy where
  src : Nat
  dst : Nat
  len : Nat
  deriving DecidableEq, Repr

def Copy.Inside (c : Copy) : Prop := c.len ≤ c.src ∧ c.len ≤ c.dst

/-- What a handler does.  A buffer that it hands to the service has a length, and one that it declares; of the requests
without an array there is nothing but the call. -/
inductive Act
  | copy (c : Copy)
  | call (length declared : Nat)
  | plainCall
  | error (text : String)
  | reply
  deriving DecidableEq, Repr

/-- The end of a handler: an error with this text if the service has failed, else `es` and the reply. -/
def finish (a : Answer) (text : String) (es : List Act) : List Act :=
  if a.ret ≠ 0 then [.error text] else es ++ [.reply]

/-! ## The handlers -/

section

variable (a : Answer)

/-- A handler with a declared size: a block as long as the array, the array copied into it, and the call. -/
def copied (size : UInt32) (array : ByteArr) (text : String) (es : List Act) : List Act :=
  let n := array.1.length
  [.copy ⟨n, n, n⟩, .call n size.toNat] ++ finish a text es

def ipcAgmAudioIntfSetMetadata (size : UInt32) (metadata : ByteArr) : List Act :=
  copied a size metadata "agm_aif_set_metadata failed." []

def ipcAgmSessionAudioInfSetMetadata (size : UInt32) (metadata : ByteArr) : List Act :=
  copied a size metadata "agm_session_aif_set_metadata failed." []

def ipcAgmSessionSetMetadata (size : UInt32) (metadata : ByteArr) : List Act :=
  copied a size metadata "agm_session_set_metadata failed." []

def ipcAgmSessionSetParams (size : UInt32) (payload : ByteArr) : List Act :=
  copied a size payload "agm_session_set_params failed." []

def ipcAgmSessionAifSetParams (size : UInt32) (payload : ByteArr) : List Act :=
  copied a size payload "agm_session_aif_set_params failed." []

/-- The payload goes back with the size that was declared. -/
def ipcAgmSessionGetParams (size : UInt32) (payload : ByteArr) : List Act :=
  copied a size payload "agm_session_get_params failed." [.copy ⟨payload.1.length, size.toNat, size.toNat⟩]

def ipcAgmSessionWrite (bufSize : UInt32) (buf : ByteArr) : List Act :=
  copied a bufSize buf "agm_session_write failed." []

/-- The first 13 bytes of `struct agm_event_reg_cfg`, which has 16, are before the payload. -/
def ipcAgmSessionRegisterForEvents (payloadSize : UInt32) (payload : ByteArr) : List Act :=
  let n := payload.1.length
  let block := (16 + payloadSize.toNat) % SIZE_MOD
  [.copy ⟨13, block, 13⟩, .copy ⟨n, block - 13, n⟩, .call (block - 13) payloadSize.toNat] ++
    finish a "agm_session_register_for_events failed." []

/-- As many bytes are copied as `num_ckv` pairs have, whatever the length of the array. -/
def ipcAgmSessionAifSetCal (numCkv : UInt32) (kv : ByteArr) : List Act :=
  let len := numCkv.toNat * 8 % SIZE_MOD
  let block := (4 + len) % SIZE_MOD
  [.copy ⟨4, block, 4⟩, .copy ⟨kv.1.length, block - 4, len⟩, .call (block - 4) (numCkv.toNat * 8)] ++
    finish a "agm_session_aif_set_cal failed." []

/-- The loop ends with the array or with `num_tkvs`. -/
def ipcAgmSetParamsWithTag (numTkvs : UInt32) (kv : PairArr) : List Act :=
  let block := (8 + numTkvs.toNat * 8) % SIZE_MOD
  .copy ⟨8, block, 8⟩ ::
    (List.range (min kv.1.length numTkvs.toNat)).map (fun i => .copy ⟨8, block - (8 + 8 * i), 8⟩) ++
    [.call (block - 8) (numTkvs.toNat * 8)] ++ finish a "agm_set_params_with_tag failed." []

/-- The bytes of the string at `start`, its end included; without an end there is one more than there are bytes. -/
def stringLength (m : Mem) (start stop : Nat) : Nat := (m.bytes start (stop - start)).findIdx (· = 0) + 1

/-- An entry of `struct aif_info` has 36 bytes, the name first. -/
def ipcAgmGetAifInfoList (numAifInfo : UInt32) : List Act :=
  let block := 36 * numAifInfo.toNat
  .call block block :: finish a "ipc_agm_get_aif_info_list failed"
    ((List.range a.count.toNat).flatMap fun i =>
      [.copy ⟨block - (36 * i + 32), 4, 4⟩,
        .copy ⟨block - 36 * i, stringLength a.list (36 * i) block, stringLength a.list (36 * i) block⟩])

/-- A block of the size asked for, which the service fills; the reply has as many bytes as it then says. -/
def filled (size : UInt32) (text : String) : List Act :=
  .call size.toNat size.toNat :: finish a text [.copy ⟨size.toNat, a.count.toNat, a.count.toNat⟩]

/-- The size of the request goes to the service with no block at all. -/
def ipcAgmSessionAifGetTagModuleInfoSize (size : UInt32) : List Act :=
  .call 0 size.toNat :: finish a "agm_session_aif_get_tag_module_info failed." []

def ipcAgmSessionAifGetTagModuleInfo (size : UInt32) : List Act :=
  filled a size "agm_session_aif_get_tag_module_info failed."

def ipcAgmSessionRead (bufSize : UInt32) : List Act := filled a bufSize "agm_session_read failed."

/-- `sizeof(struct agm_session_config)` -/
def SESSION_CONFIG : Nat := 56

/-- The array is copied over a variable on the stack. -/
def ipcAgmSessionSetConfig (config : ByteArr) : List Act :=
  let n := config.1.length
  [.copy ⟨n, SESSION_CONFIG, n⟩, .call SESSION_CONFIG SESSION_CONFIG] ++ finish a "agm_session_set_config failed." []

def Request.handle : Request → List Act
  | .audioIntfSetMetadata _ size metadata => ipcAgmAudioIntfSetMetadata a size metadata
  | .sessionAudioInfSetMetadata _ _ size metadata => ipcAgmSessionAudioInfSetMetadata a size metadata
  | .sessionSetMetadata _ size metadata => ipcAgmSessionSetMetadata a size metadata
  | .setParamsWithTag _ _ _ numTkvs kv => ipcAgmSetParamsWithTag a numTkvs kv
  | .getAifInfoList numAifInfo => ipcAgmGetAifInfoList a numAifInfo
  | .sessionSetParams _ size payload => ipcAgmSessionSetParams a size payload
  | .sessionRegisterForEvents _ _ _ payloadSize _ payload => ipcAgmSessionRegisterForEvents a payloadSize payload
  | .sessionAifGetTagModuleInfoSize _ _ size => ipcAgmSessionAifGetTagModuleInfoSize a size
  | .sessionAifGetTagModuleInfo _ _ size => ipcAgmSessionAifGetTagModuleInfo a size
  | .sessionAifSetParams _ _ size payload => ipcAgmSessionAifSetParams a size payload
  | .sessionAifSetCal _ _ numCkv kv => ipcAgmSessionAifSetCal a numCkv kv
  | .sessionGetParams _ size payload => ipcAgmSessionGetParams a size payload
  | .sessionRead bufSize => ipcAgmSessionRead a bufSize
  | .sessionWrite bufSize buf => ipcAgmSessionWrite a bufSize buf
  | .sessionSetConfig _ _ _ config => ipcAgmSessionSetConfig a config
  | .plain _ => [.plainCall]

end

/-! ## What should hold of them -/

/-- Copies stay inside both blocks, and the service gets at least as much as it is told. -/
def Act.Inside : Act → Prop
  | .copy c => c.Inside
  | .call length declared => declared ≤ length
  | _ => True

def Act.IsCall : Act → Prop
  | .call _ _ | .plainCall => True
  | _ => False

/-- The declared size or count is not that of the array. -/
def Request.Mismatched : Request → Prop
  | .audioIntfSetMetadata _ size array | .sessionAudioInfSetMetadata _ _ size array
  | .sessionSetMetadata _ size array | .sessionSetParams _ size array | .sessionAifSetParams _ _ size array
  | .sessionGetParams _ size array | .sessionWrite size array | .sessionRegisterForEvents _ _ _ size _ array =>
    array.1.length ≠ size.toNat
  | .sessionAifSetCal _ _ numCkv kv => kv.1.length ≠ 8 * numCkv.toNat
  | .setParamsWithTag _ _ _ numTkvs kv => kv.1.length ≠ numTkvs.toNat
  | _ => False

/-- Everything a handler does is inside its blocks, and a request that does not match its array does not get to the
service. -/
def Safe (r : Request) (es : List Act) : Prop := (∀ e ∈ es, e.Inside) ∧ (r.Mismatched → ∀ e ∈ es, ¬ e.IsCall)

/-- What the arrays and the answers have to keep to, as the handlers do not check them. -/
def Request.Kept (a : Answer) : Request → Prop
  | .sessionAifGetTagModuleInfoSize _ _ size => size = 0
  | .sessionAifGetTagModuleInfo _ _ size | .sessionRead size => a.ret = 0 → a.count ≤ size
  | .getAifInfoList num => a.ret = 0 → a.count ≤ num ∧
      ∀ i < a.count.toNat, 0 ∈ a.list.bytes (36 * i) (36 * num.toNat - 36 * i)
  | .sessionSetConfig _ _ _ config => config.1.length ≤ SESSION_CONFIG
  | r => ¬ r.Mismatched

/-- The events of a list one by one. -/
theorem forall_inside_cons (e : Act) (es : List Act) :
    (∀ x ∈ e :: es, x.Inside) ↔ e.Inside ∧ ∀ x ∈ es, x.Inside := List.forall_mem_cons

theorem inside_copy (src dst len : Nat) : (Act.copy ⟨src, dst, len⟩).Inside ↔ len ≤ src ∧ len ≤ dst := Iff.rfl

theorem inside_call (length declared : Nat) : (Act.call length declared).Inside ↔ declared ≤ length := Iff.rfl

theorem inside_finish (a : Answer) (text : String) (es : List Act) :
    (∀ e ∈ finish a text es, e.Inside) ↔ (a.ret = 0 → ∀ e ∈ es, e.Inside) := by
  unfold finish
  by_cases h : a.ret = 0
  · rw [if_neg (not_not.2 h), List.forall_mem_append, List.forall_mem_singleton]
    exact ⟨fun hes _ => hes.1, fun hes => ⟨hes h, trivial⟩⟩
  · rw [if_pos h, List.forall_mem_singleton]
    exact ⟨fun _ h' => absurd h' h, fun _ => trivial⟩

/-- The handlers with a declared size: it has to be that of the array. -/
theorem inside_copied (a : Answer) (size : UInt32) (array : ByteArr) (text : String) (es : List Act) :
    (∀ e ∈ copied a size array text es, e.Inside) ↔
      size.toNat ≤ array.1.length ∧ (a.ret = 0 → ∀ e ∈ es, e.Inside) := by
  simp only [copied, List.cons_append, List.nil_append, forall_inside_cons, inside_copy, inside_call, inside_finish]
  simp

theorem isCall_of_copied (a : Answer) (size : UInt32) (array : ByteArr) (text : String) (es : List Act) :
    ∃ e ∈ copied a size array text es, e.IsCall :=
  ⟨.call array.1.length size.toNat, by simp [copied], trivial⟩

/-- Every handler calls the service. -/
theorem isCall_of_handle (a : Answer) (r : Request) : ∃ e ∈ r.handle a, e.IsCall := by
  cases r with
  | plain p => exact ⟨_, List.mem_singleton_self _, trivial⟩
  | audioIntfSetMetadata _ size array => exact isCall_of_copied a size array _ _
  | sessionAudioInfSetMetadata _ _ size array => exact isCall_of_copied a size array _ _
  | sessionSetMetadata _ size array => exact isCall_of_copied a size array _ _
  | sessionSetParams _ size array => exact isCall_of_copied a size array _ _
  | sessionAifSetParams _ _ size array => exact isCall_of_copied a size array _ _
  | sessionGetParams _ size array => exact isCall_of_copied a size array _ _
  | sessionWrite size array => exact isCall_of_copied a size array _ _
  | setParamsWithTag _ _ _ num kv =>
    refine ⟨.call ((8 + num.toNat * 8) % SIZE_MOD - 8) (num.toNat * 8), ?_, trivial⟩
    simp [Request.handle, ipcAgmSetParamsWithTag]
  | getAifInfoList num => exact ⟨_, List.mem_cons_self, trivial⟩
  | sessionRegisterForEvents _ _ _ size _ array =>
    refine ⟨.call ((16 + size.toNat) % SIZE_MOD - 13) size.toNat, ?_, trivial⟩
    simp [Request.handle, ipcAgmSessionRegisterForEvents]
  | sessionAifGetTagModuleInfoSize _ _ size => exact ⟨_, List.mem_cons_self, trivial⟩
  | sessionAifGetTagModuleInfo _ _ size => exact ⟨_, List.mem_cons_self, trivial⟩
  | sessionAifSetCal _ _ num kv =>
    refine ⟨.call ((4 + num.toNat * 8 % SIZE_MOD) % SIZE_MOD - 4) (num.toNat * 8), ?_, trivial⟩
    simp [Request.handle, ipcAgmSessionAifSetCal]
  | sessionRead size => exact ⟨_, List.mem_cons_self, trivial⟩
  | sessionSetConfig _ _ _ config =>
    refine ⟨.call SESSION_CONFIG SESSION_CONFIG, ?_, trivial⟩
    simp [Request.handle, ipcAgmSessionSetConfig]

/-- So a request is safe only if it matches its array. -/
theorem safe_iff (a : Answer) (r : Request) :
    Safe r (r.handle a) ↔ ¬ r.Mismatched ∧ ∀ e ∈ r.handle a, e.Inside := by
  obtain ⟨e, hmem, hcall⟩ := isCall_of_handle a r
  constructor
  · rintro ⟨hinside, hrejected⟩
    exact ⟨fun h => hrejected h e hmem hcall, hinside⟩
  · rintro ⟨hmatched, hinside⟩
    exact ⟨hinside, fun h => absurd h hmatched⟩

theorem inside_filled (a : Answer) (size : UInt32) (text : String) :
    (∀ e ∈ filled a size text, e.Inside) ↔ (a.ret = 0 → a.count ≤ size) := by
  simp only [filled, forall_inside_cons, inside_copy, inside_call, inside_finish, UInt32.le_iff_toNat_le]
  simp

/-- The service must not be told of a block. -/
theorem inside_getTagModuleInfoSize (a : Answer) (size : UInt32) :
    (∀ e ∈ ipcAgmSessionAifGetTagModuleInfoSize a size, e.Inside) ↔ size = 0 := by
  rw [ipcAgmSessionAifGetTagModuleInfoSize, forall_inside_cons, inside_call, inside_finish, Nat.le_zero]
  refine (and_iff_left fun _ => List.forall_mem_nil _).trans ?_
  show size.toNat = (0 : UInt32).toNat ↔ size = 0
  exact UInt32.toNat_inj

theorem stringLength_le_iff (m : Mem) (start stop : Nat) :
    stringLength m start stop ≤ stop - start ↔ 0 ∈ m.bytes start (stop - start) := by
  have hfind : (m.bytes start (stop - start)).findIdx (· = 0) < stop - start ↔ 0 ∈ m.bytes start (stop - start) := by
    have hlen : (m.bytes start (stop - start)).length = stop - start := Mem.length_bytes m start _
    have := @List.findIdx_lt_length _ (fun x => decide (x = 0)) (m.bytes start (stop - start))
    rw [hlen] at this
    rw [this]
    simp
  exact Nat.succ_le_iff.trans hfind

theorem inside_getAifInfoList (a : Answer) (num : UInt32) : (∀ e ∈ ipcAgmGetAifInfoList a num, e.Inside) ↔
    (a.ret = 0 → a.count ≤ num ∧
      ∀ i < a.count.toNat, 0 ∈ a.list.bytes (36 * i) (36 * num.toNat - 36 * i)) := by
  have hentry (i : Nat) : (∀ e ∈ [Act.copy ⟨36 * num.toNat - (36 * i + 32), 4, 4⟩,
        .copy ⟨36 * num.toNat - 36 * i, stringLength a.list (36 * i) (36 * num.toNat),
          stringLength a.list (36 * i) (36 * num.toNat)⟩], e.Inside) ↔
      i < num.toNat ∧ 0 ∈ a.list.bytes (36 * i) (36 * num.toNat - 36 * i) := by
    rw [forall_inside_cons, List.forall_mem_singleton, inside_copy, inside_copy, stringLength_le_iff]
    refine and_congr ?_ (and_iff_left (Nat.le_refl _))
    omega
  rw [ipcAgmGetAifInfoList, forall_inside_cons, inside_call, inside_finish, List.forall_mem_flatMap]
  simp only [List.mem_range, hentry, Nat.le_refl, true_and, UInt32.le_iff_toNat_le]
  refine forall_congr' fun _ => ⟨fun h => ⟨?_, fun i hi => (h i hi).2⟩, fun h i hi => ⟨by omega, h.2 i hi⟩⟩
  by_contra hlt
  have := (h num.toNat (by omega)).1
  omega

/-- With as many pairs as declared the block does not wrap around. -/
theorem inside_setParamsWithTag (a : Answer) {num : UInt32} {kv : PairArr} (h : kv.1.length = num.toNat) :
    ∀ e ∈ ipcAgmSetParamsWithTag a num kv, e.Inside := by
  have hlen : 8 * kv.1.length ≤ 2 ^ 26 := kv.2
  have hblock : (8 + num.toNat * 8) % SIZE_MOD = 8 + num.toNat * 8 := Nat.mod_eq_of_lt (by unfold SIZE_MOD; omega)
  rw [ipcAgmSetParamsWithTag, hblock, h, Nat.min_self, List.cons_append, List.cons_append, forall_inside_cons,
    List.forall_mem_append, List.forall_mem_append, List.forall_mem_singleton, inside_finish, List.forall_mem_map,
    inside_copy, inside_call]
  refine ⟨by omega, ⟨fun i hi => ?_, by omega⟩, fun _ => List.forall_mem_nil _⟩
  rw [List.mem_range] at hi
  rw [inside_copy]
  omega

theorem inside_setCal (a : Answer) {num : UInt32} {kv : ByteArr} (h : kv.1.length = 8 * num.toNat) :
    ∀ e ∈ ipcAgmSessionAifSetCal a num kv, e.Inside := by
  have hlen : kv.1.length ≤ 2 ^ 26 := kv.2
  have hpairs : num.toNat * 8 % SIZE_MOD = num.toNat * 8 := Nat.mod_eq_of_lt (by unfold SIZE_MOD; omega)
  have hblock : (4 + num.toNat * 8) % SIZE_MOD = 4 + num.toNat * 8 := Nat.mod_eq_of_lt (by unfold SIZE_MOD; omega)
  simp only [ipcAgmSessionAifSetCal, hpairs, hblock, List.cons_append, List.nil_append, forall_inside_cons, inside_copy,
    inside_call, inside_finish]
  exact ⟨by omega, by omega, by omega, fun _ => List.forall_mem_nil _⟩

theorem inside_registerForEvents (a : Answer) {size : UInt32} {payload : ByteArr}
    (h : payload.1.length = size.toNat) : ∀ e ∈ ipcAgmSessionRegisterForEvents a size payload, e.Inside := by
  have hlen : payload.1.length ≤ 2 ^ 26 := payload.2
  have hblock : (16 + size.toNat) % SIZE_MOD = 16 + size.toNat := Nat.mod_eq_of_lt (by unfold SIZE_MOD; omega)
  simp only [ipcAgmSessionRegisterForEvents, hblock, List.cons_append, List.nil_append, forall_inside_cons, inside_copy,
    inside_call, inside_finish]
  exact ⟨by omega, by omega, by omega, fun _ => List.forall_mem_nil _⟩

theorem inside_copied_of_eq (a : Answer) {size : UInt32} {array : ByteArr} (h : array.1.length = size.toNat)
    (text : String) {es : List Act} (hes : ∀ e ∈ es, e.Inside) : ∀ e ∈ copied a size array text es, e.Inside :=
  (inside_copied a size array text es).2 ⟨h.ge, fun _ => hes⟩

/-- **The buffers of the D-Bus server.**  A request is handled inside its blocks, or turned away if it does not match
its array, exactly if it keeps to what the handlers do not check. -/
theorem dbus_buffers_safe_iff (a : Answer) (r : Request) : Safe r (r.handle a) ↔ r.Kept a := by
  have hmatched (hinside : ¬ r.Mismatched → ∀ e ∈ r.handle a, e.Inside) :
      ¬ r.Mismatched ∧ (∀ e ∈ r.handle a, e.Inside) ↔ ¬ r.Mismatched :=
    ⟨fun h => h.1, fun h => ⟨h, hinside h⟩⟩
  rw [safe_iff]
  cases r with
  | audioIntfSetMetadata _ size array =>
    exact hmatched fun h => inside_copied_of_eq a (not_not.1 h) _ (List.forall_mem_nil _)
  | sessionAudioInfSetMetadata _ _ size array =>
    exact hmatched fun h => inside_copied_of_eq a (not_not.1 h) _ (List.forall_mem_nil _)
  | sessionSetMetadata _ size array =>
    exact hmatched fun h => inside_copied_of_eq a (not_not.1 h) _ (List.forall_mem_nil _)
  | sessionSetParams _ size array =>
    exact hmatched fun h => inside_copied_of_eq a (not_not.1 h) _ (List.forall_mem_nil _)
  | sessionAifSetParams _ _ size array =>
    exact hmatched fun h => inside_copied_of_eq a (not_not.1 h) _ (List.forall_mem_nil _)
  | sessionWrite size array =>
    exact hmatched fun h => inside_copied_of_eq a (not_not.1 h) _ (List.forall_mem_nil _)
  | sessionGetParams _ size array =>
    refine hmatched fun h => inside_copied_of_eq a (not_not.1 h) _ ?_
    rw [List.forall_mem_singleton, inside_copy]
    exact ⟨(not_not.1 h).ge, Nat.le_refl _⟩
  | setParamsWithTag _ _ _ num kv => exact hmatched fun h => inside_setParamsWithTag a (not_not.1 h)
  | sessionRegisterForEvents _ _ _ size _ array => exact hmatched fun h => inside_registerForEvents a (not_not.1 h)
  | sessionAifSetCal _ _ num kv => exact hmatched fun h => inside_setCal a (not_not.1 h)
  | sessionAifGetTagModuleInfoSize _ _ size => exact (and_iff_right not_false).trans (inside_getTagModuleInfoSize a size)
  | sessionAifGetTagModuleInfo _ _ size => exact (and_iff_right not_false).trans (inside_filled a size _)
  | sessionRead size => exact (and_iff_right not_false).trans (inside_filled a size _)
  | getAifInfoList num => exact (and_iff_right not_false).trans (inside_getAifInfoList a num)
  | sessionSetConfig _ _ _ config =>
    refine (and_iff_right not_false).trans ?_
    simp only [Request.handle, ipcAgmSessionSetConfig, List.cons_append, List.nil_append, forall_inside_cons,
      inside_copy, inside_call, inside_finish, Request.Kept]
    simp
  | plain p => exact hmatched fun _ => List.forall_mem_singleton.2 trivial

/-- A write of eight bytes that declares sixteen, and a list of back ends for none: the service tells how many there
are, and as many entries are read. -/
theorem dbus_buffers_unsafe :
    ¬ Safe (.sessionWrite 16 ⟨List.replicate 8 0, by decide⟩)
        ((Request.sessionWrite 16 ⟨List.replicate 8 0, by decide⟩).handle ⟨0, 16, fun _ => 0⟩) ∧
      ¬ Safe (.getAifInfoList 0) ((Request.getAifInfoList 0).handle ⟨0, 3, fun _ => 0⟩) := by
  refine ⟨fun h => ?_, fun h => ?_⟩
  · exact h.2 (show 8 ≠ 16 by decide) (.call 8 16) (by decide) trivial
  · have := h.1 (.copy ⟨0, 4, 4⟩) (by decide)
    exact absurd this.1 (by decide)

end Agm.Ipc.Dbus
