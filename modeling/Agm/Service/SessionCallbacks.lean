import Agm.Ipc.SwCallbacks
import Agm.Lib.Words
import Agm.Service.Errno

/-!
# The callbacks of a session

Clients register callbacks for a session, each for an event type and with client data of its own, and deregister them by
these two.  What GSL raises for the graph of a session is copied by `gsl_callback_func`, and `graph_event_cb` hands the
copy to the callbacks that it is for.
-/

namespace Agm.Service.Callbacks

open Agm.Lib Agm.Ipc

/-! ## Registering -/

/-- `struct session_cb`.  No `NULL` gets into the list. -/
structure SessionCb where
  cb : Nat
  evtType : Nat
  clientData : Nat
  cb_ne : cb ≠ 0
  deriving DecidableEq, Repr

/-- The loop of a deregistration, which goes on behind what it takes out. -/
def removeCbs (evtType clientData : Nat) : List SessionCb → List SessionCb
  | [] => []
  | sessCb :: rest =>
    if sessCb.evtType = evtType ∧ sessCb.clientData = clientData then removeCbs evtType clientData rest
    else sessCb :: removeCbs evtType clientData rest

/-- `session_obj_register_cb`; `granted` is the answer to its allocation. -/
def sessionObjRegisterCb (granted : Bool) (cb evtType clientData : Nat) (pool : List SessionCb) :
    Int × List SessionCb :=
  if h : cb ≠ 0 then
    if ¬ granted then (-ENOMEM, pool)
    else (0, pool ++ [⟨cb, evtType, clientData, h⟩])
  else (0, removeCbs evtType clientData pool)

/-! ## Events -/

/-- `struct agm_event_cb_params`, with the payload behind it. -/
structure EventParams where
  sourceModuleId : Nat
  eventId : Nat
  payload : List UInt8
  deriving DecidableEq, Repr

/-- Where `struct gsl_event_read_write_done_payload`, which GSL declares, has its two status words. -/
structure RwDoneLayout where
  status : Nat
  mdStatus : Nat
  apart : status + 4 ≤ mdStatus ∨ mdStatus + 4 ≤ status
  deriving DecidableEq, Repr

/-- The end of what is read and written of the structure. -/
def RwDoneLayout.last (l : RwDoneLayout) : Nat := max l.status l.mdStatus + 4

def AGM_DATA_EXTERN_MEM : Nat := 4

/-- What `ar_err_get_lnx_err_code` returns, put back into a `uint32_t`. -/
def lnxStatus (status : Nat) : Nat := (arErrGetLnxErrCode status % 2 ^ 32).toNat

/-- The payload as memory. -/
def payloadMem (payload : List UInt8) : Mem := fun i => payload.getD i 0

/-- A call of a callback. -/
structure CbCall where
  cb : Nat
  sessId : SessId
  params : EventParams
  clientData : Nat
  deriving DecidableEq, Repr

/-- The filter of `graph_event_cb`. -/
def EventParams.isFor (ev : EventParams) (evtType : Nat) : Bool :=
  (SessionEvent.graph ev.sourceModuleId ev.eventId ev.payload).isFor evtType

def EventParams.isRwDone (ev : EventParams) : Bool :=
  ev.eventId = AGM_EVENT_READ_DONE || ev.eventId = AGM_EVENT_WRITE_DONE

/-- The walk of `graph_event_cb` over `cb_pool`. -/
def graphEventCb (s : SessId) (ev : EventParams) : List SessionCb → List CbCall
  | [] => []
  | sessCb :: rest =>
    if ev.isFor sessCb.evtType then ⟨sessCb.cb, s, ev, sessCb.clientData⟩ :: graphEventCb s ev rest
    else graphEventCb s ev rest

section

variable (l : RwDoneLayout)

/-- The two status words are translated, one after the other. -/
def translateStatus (payload : List UInt8) : List UInt8 :=
  let m := payloadMem payload
  let m := m.store l.mdStatus (le32 (lnxStatus (m.word l.mdStatus)))
  let m := m.store l.status (le32 (lnxStatus (m.word l.status)))
  m.bytes 0 payload.length

/-- `gsl_callback_func` for the graph of a session, whose callback `graph_event_cb` is; `granted` is the answer to its
allocation.  A payload that the status words do not fit is written behind, which is `none`. -/
def gslCallbackFunc (granted : Bool) (dataMode : Nat) (s : SessId) (ev : EventParams) (pool : List SessionCb) :
    Option (List CbCall) :=
  if ¬ granted then some []
  else if dataMode = AGM_DATA_EXTERN_MEM ∧ ev.payload.length > 0 ∧ ev.isRwDone then
    if ev.payload.length < l.last then none
    else some (graphEventCb s { ev with payload := translateStatus l ev.payload } pool)
  else some (graphEventCb s ev pool)

end

/-! ## Runs -/

/-- What clients and GSL do; an event comes with the data mode that its session has. -/
inductive SessOp
  | registerCb (s : SessId) (granted : Bool) (cb evtType clientData : Nat)
  | event (s : SessId) (granted : Bool) (dataMode : Nat) (ev : EventParams)
  deriving DecidableEq, Repr

/-- What has happened: a request, or an event with the calls that it led to. -/
inductive SessEntry
  | registerCb (s : SessId) (granted : Bool) (cb evtType clientData : Nat)
  | event (s : SessId) (granted : Bool) (dataMode : Nat) (ev : EventParams) (calls : Option (List CbCall))
  deriving DecidableEq, Repr

/-- The callbacks of each session, and what has happened. -/
structure Sessions where
  cbPool : SessId → List SessionCb := fun _ => []
  log : List SessEntry := []

def sessExec (l : RwDoneLayout) (v : Sessions) : SessOp → Sessions
  | .registerCb s granted cb evtType clientData =>
    { cbPool := Function.update v.cbPool s (sessionObjRegisterCb granted cb evtType clientData (v.cbPool s)).2
      log := v.log ++ [.registerCb s granted cb evtType clientData] }
  | .event s granted dataMode ev =>
    { v with log := v.log ++ [.event s granted dataMode ev (gslCallbackFunc l granted dataMode s ev (v.cbPool s))] }

def sessRun (l : RwDoneLayout) (ops : List SessOp) : Sessions := ops.foldl (sessExec l) {}

/-! ## What it should come to -/

/-- A request of a session that was granted. -/
inductive Req
  | register (sessCb : SessionCb)
  | deregister (evtType clientData : Nat)
  deriving DecidableEq, Repr

def SessEntry.req (s : SessId) : SessEntry → Option Req
  | .registerCb s' granted cb evtType clientData =>
    if s' ≠ s then none
    else if h : cb ≠ 0 then if granted then some (.register ⟨cb, evtType, clientData, h⟩) else none
    else some (.deregister evtType clientData)
  | .event _ _ _ _ _ => none

/-- The registrations that no later deregistration is for, in the order they were made. -/
def present : List Req → List SessionCb
  | [] => []
  | .deregister _ _ :: rest => present rest
  | .register sessCb :: rest =>
    if .deregister sessCb.evtType sessCb.clientData ∈ rest then present rest else sessCb :: present rest

/-- The registrations of a session, going by what has happened. -/
def registrations (s : SessId) (log : List SessEntry) : List SessionCb := present (log.filterMap (SessEntry.req s))

/-- The event type that an event is of. -/
def EventParams.evtType? (ev : EventParams) : Option Nat :=
  if ev.sourceModuleId = GSL_EVENT_SRC_MODULE_ID_GSL then
    if ev.eventId ∈ [AGM_EVENT_EOS_RENDERED, AGM_EVENT_READ_DONE, AGM_EVENT_WRITE_DONE] then some AGM_EVENT_DATA_PATH
    else none
  else some AGM_EVENT_MODULE

/-- One call for each registration for the type of the event, in order, and no other. -/
def callsFor (past : List SessEntry) (s : SessId) (ev given : EventParams) : List CbCall :=
  ((registrations s past).filter fun sessCb => ev.evtType? = some sessCb.evtType).map fun sessCb =>
    ⟨sessCb.cb, s, given, sessCb.clientData⟩

/-- The payload but for the status words. -/
structure SameButStatus (l : RwDoneLayout) (payload payload' : List UInt8) : Prop where
  length : payload'.length = payload.length
  rest (i : Nat) (hs : i < l.status ∨ l.status + 4 ≤ i) (hm : i < l.mdStatus ∨ l.mdStatus + 4 ≤ i) :
    payload'[i]? = payload[i]?

/-- The payload but for the status words, which are those of Linux. -/
structure Translated (l : RwDoneLayout) (payload payload' : List UInt8) : Prop extends
    SameButStatus l payload payload' where
  status : (payloadMem payload').word l.status = lnxStatus ((payloadMem payload).word l.status)
  mdStatus : (payloadMem payload').word l.mdStatus = lnxStatus ((payloadMem payload).word l.mdStatus)

/-- A read or a write is done whose buffer is the client's, and there is something to say about it. -/
def EventParams.OfClientBuffer (ev : EventParams) (dataMode : Nat) : Prop :=
  dataMode = AGM_DATA_EXTERN_MEM ∧ ev.payload ≠ [] ∧ ev.isRwDone

/-- What the callbacks are given of an event.  Nothing is said about the status words of one with such an id that comes
from a module. -/
structure EventParams.GivenAs (l : RwDoneLayout) (dataMode : Nat) (ev given : EventParams) : Prop where
  sourceModuleId : given.sourceModuleId = ev.sourceModuleId
  eventId : given.eventId = ev.eventId
  ofClientBuffer (h : ev.OfClientBuffer dataMode) : SameButStatus l ev.payload given.payload
  ofGsl (h : ev.OfClientBuffer dataMode) (hsrc : ev.sourceModuleId = GSL_EVENT_SRC_MODULE_ID_GSL) :
    Translated l ev.payload given.payload
  other (h : ¬ ev.OfClientBuffer dataMode) : given.payload = ev.payload

/-- The payload has the whole structure, where it should be one. -/
def EventParams.HasRoom (l : RwDoneLayout) (dataMode : Nat) (ev : EventParams) : Prop :=
  ev.OfClientBuffer dataMode → l.last ≤ ev.payload.length

/-- An event leads to these calls, or to none where there is no memory for the copy. -/
def SessEntry.Right (l : RwDoneLayout) (past : List SessEntry) : SessEntry → Prop
  | .registerCb _ _ _ _ _ => True
  | .event s granted dataMode ev calls => (granted → ev.HasRoom l dataMode →
      ∃ given, ev.GivenAs l dataMode given ∧ calls = some (callsFor past s ev given)) ∧
    (¬ granted → calls = some [])

/-- It leads to calls with the event as it is. -/
def SessEntry.Unchanged (past : List SessEntry) : SessEntry → Prop
  | .registerCb _ _ _ _ _ => True
  | .event s granted _ ev calls => granted → calls = some (callsFor past s ev ev)

instance (past : List SessEntry) (entry : SessEntry) : Decidable (entry.Unchanged past) := by
  unfold SessEntry.Unchanged
  split <;> infer_instance

/-! ## Requests -/

section

variable {e d : Nat} {sessCb : SessionCb} {reqs : List Req}

theorem removeCbs_eq (pool : List SessionCb) :
    removeCbs e d pool = pool.filter fun sessCb => ¬ (sessCb.evtType = e ∧ sessCb.clientData = d) := by
  induction pool with
  | nil => rfl
  | cons sessCb rest ih =>
    rw [removeCbs, ih]
    by_cases h : sessCb.evtType = e ∧ sessCb.clientData = d
    · rw [if_pos h, List.filter_cons_of_neg (by simpa using h)]
    · rw [if_neg h, List.filter_cons_of_pos (by rw [decide_eq_true_eq]; exact h)]

/-- The list in the service goes along with the one of the types and client data alone. -/
theorem sessionObjRegisterCb_keys (cb : Nat) (pool : List SessionCb) :
    (sessionObjRegisterCb true cb e d pool).2.map (fun sessCb => (sessCb.evtType, sessCb.clientData)) =
      Ipc.sessionObjRegisterCb (cb ≠ 0) e d (pool.map fun sessCb => (sessCb.evtType, sessCb.clientData)) := by
  unfold sessionObjRegisterCb Ipc.sessionObjRegisterCb
  by_cases h : cb ≠ 0
  · simp [h]
  · rw [dif_neg h, removeCbs_eq, List.filter_map]
    simp [h, Function.comp_def]

theorem present_concat_register : present (reqs ++ [.register sessCb]) = present reqs ++ [sessCb] := by
  induction reqs with
  | nil => rfl
  | cons r rest ih =>
    cases r with
    | deregister e d => exact ih
    | register sessCb' =>
      have hmem : Req.deregister sessCb'.evtType sessCb'.clientData ∈ rest ++ [.register sessCb] ↔
          Req.deregister sessCb'.evtType sessCb'.clientData ∈ rest := by
        simp
      rw [List.cons_append, present, present, ih]
      by_cases h : Req.deregister sessCb'.evtType sessCb'.clientData ∈ rest
      · rw [if_pos (hmem.2 h), if_pos h]
      · rw [if_neg (mt hmem.1 h), if_neg h]
        rfl

theorem present_concat_deregister : present (reqs ++ [.deregister e d]) =
    (present reqs).filter fun sessCb => ¬ (sessCb.evtType = e ∧ sessCb.clientData = d) := by
  induction reqs with
  | nil => rfl
  | cons r rest ih =>
    cases r with
    | deregister e' d' => exact ih
    | register sessCb =>
      have hmem : Req.deregister sessCb.evtType sessCb.clientData ∈ rest ++ [.deregister e d] ↔
          Req.deregister sessCb.evtType sessCb.clientData ∈ rest ∨ sessCb.evtType = e ∧ sessCb.clientData = d := by
        simp
      rw [List.cons_append, present, present, ih]
      by_cases h : Req.deregister sessCb.evtType sessCb.clientData ∈ rest
      · rw [if_pos (hmem.2 (.inl h)), if_pos h]
      · rw [if_neg h]
        by_cases hkey : sessCb.evtType = e ∧ sessCb.clientData = d
        · rw [if_pos (hmem.2 (.inr hkey)), List.filter_cons_of_neg (by simpa using hkey)]
        · rw [if_neg (mt hmem.1 (not_or.2 ⟨h, hkey⟩)), List.filter_cons_of_pos (by rw [decide_eq_true_eq]; exact hkey)]

end

/-! ## Events -/

section

variable {l : RwDoneLayout} {s : SessId} {ev : EventParams}

/-- The filter asks for the type of the event. -/
theorem EventParams.isFor_iff {evtType : Nat} : ev.isFor evtType ↔ ev.evtType? = some evtType := by
  unfold EventParams.isFor SessionEvent.isFor EventParams.evtType?
  by_cases hsrc : ev.sourceModuleId = GSL_EVENT_SRC_MODULE_ID_GSL
  · by_cases hid : ev.eventId ∈ [AGM_EVENT_EOS_RENDERED, AGM_EVENT_READ_DONE, AGM_EVENT_WRITE_DONE]
    · rw [if_pos hsrc, if_pos hid]
      have hid' : ev.eventId = AGM_EVENT_EOS_RENDERED ∨ ev.eventId = AGM_EVENT_READ_DONE ∨
          ev.eventId = AGM_EVENT_WRITE_DONE := by simpa using hid
      simp [hsrc, hid', or_assoc]
      exact eq_comm
    · rw [if_pos hsrc, if_neg hid]
      have hid' : ¬ (ev.eventId = AGM_EVENT_EOS_RENDERED ∨ ev.eventId = AGM_EVENT_READ_DONE ∨
          ev.eventId = AGM_EVENT_WRITE_DONE) := by simpa using hid
      simp [hsrc, hid', or_assoc]
  · rw [if_neg hsrc]
    simp [hsrc]
    exact eq_comm

theorem graphEventCb_eq (given : EventParams) (pool : List SessionCb) : graphEventCb s given pool =
    (pool.filter fun sessCb => given.evtType? = some sessCb.evtType).map fun sessCb =>
      ⟨sessCb.cb, s, given, sessCb.clientData⟩ := by
  induction pool with
  | nil => rfl
  | cons sessCb rest ih =>
    rw [graphEventCb, ih]
    by_cases h : given.isFor sessCb.evtType
    · rw [if_pos h, List.filter_cons, if_pos (by simpa using EventParams.isFor_iff.1 h), List.map_cons]
    · rw [if_neg h, List.filter_cons, if_neg (by simpa using mt EventParams.isFor_iff.2 h)]

theorem lnxStatus_lt (status : Nat) : lnxStatus status < 2 ^ 32 := by
  unfold lnxStatus
  omega

/-! ### The status words -/

theorem word_store_le32_self (m : Mem) {a n : Nat} (hn : n < 2 ^ 32) : (m.store a (le32 n)).word a = n :=
  (m.word_store_le32 a n [] []).trans (Nat.mod_eq_of_lt hn)

theorem getElem?_bytes (m : Mem) {i n : Nat} (hi : i < n) : (m.bytes 0 n)[i]? = some (m i) := by
  unfold Mem.bytes
  rw [List.getElem?_map, List.getElem?_range hi, Option.map_some, Nat.zero_add]

theorem payloadMem_bytes (m : Mem) {i n : Nat} (hi : i < n) : payloadMem (m.bytes 0 n) i = m i := by
  unfold payloadMem
  rw [List.getD_eq_getElem?_getD, getElem?_bytes m hi, Option.getD_some]

theorem word_payloadMem_bytes (m : Mem) {a n : Nat} (ha : a + 4 ≤ n) : (payloadMem (m.bytes 0 n)).word a = m.word a := by
  unfold Mem.word
  rw [payloadMem_bytes m (by omega), payloadMem_bytes m (by omega), payloadMem_bytes m (by omega),
    payloadMem_bytes m (by omega)]

theorem translated_translateStatus {payload : List UInt8} (h : l.last ≤ payload.length) :
    Translated l payload (translateStatus l payload) := by
  have hapart := l.apart
  have hlast : l.status + 4 ≤ payload.length ∧ l.mdStatus + 4 ≤ payload.length := by
    unfold RwDoneLayout.last at h
    omega
  set m := payloadMem payload with hm
  set m₁ := m.store l.mdStatus (le32 (lnxStatus (m.word l.mdStatus))) with hm₁
  set m₂ := m₁.store l.status (le32 (lnxStatus (m₁.word l.status))) with hm₂
  have htranslate : translateStatus l payload = m₂.bytes 0 payload.length := rfl
  have hstatus : m₁.word l.status = m.word l.status := Mem.word_store_of_apart _ (by simpa using hapart)
  rw [htranslate]
  refine ⟨⟨by simp, ?_⟩, ?_, ?_⟩
  · intro i hs hmd
    have hi : m₂ i = m i := by
      rw [hm₂, Mem.store_of_apart _ (by simpa using hs), hm₁, Mem.store_of_apart _ (by simpa using hmd)]
    by_cases hlt : i < payload.length
    · rw [getElem?_bytes _ hlt, hi, hm, payloadMem, List.getD_eq_getElem?_getD, List.getElem?_eq_getElem hlt,
        Option.getD_some]
    · rw [List.getElem?_eq_none (by simpa using hlt), List.getElem?_eq_none (by simpa using hlt)]
  · rw [word_payloadMem_bytes _ hlast.1, hm₂, word_store_le32_self _ (lnxStatus_lt _), hstatus]
  · rw [word_payloadMem_bytes _ hlast.2, hm₂, Mem.word_store_of_apart _ (by simpa using hapart.symm), hm₁,
      word_store_le32_self _ (lnxStatus_lt _)]

/-! ### What the callbacks are given -/

/-- **One event.** -/
theorem gslCallbackFunc_right {dataMode : Nat} (hev : ev.HasRoom l dataMode) (pool : List SessionCb) :
    ∃ given, ev.GivenAs l dataMode given ∧ gslCallbackFunc l true dataMode s ev pool =
      some ((pool.filter fun sessCb => ev.evtType? = some sessCb.evtType).map fun sessCb =>
        ⟨sessCb.cb, s, given, sessCb.clientData⟩) := by
  unfold gslCallbackFunc
  rw [if_neg (by decide)]
  by_cases hown : ev.OfClientBuffer dataMode
  · have hroom := hev hown
    have hbranch : dataMode = AGM_DATA_EXTERN_MEM ∧ ev.payload.length > 0 ∧ ev.isRwDone :=
      ⟨hown.1, List.length_pos_of_ne_nil hown.2.1, hown.2.2⟩
    rw [if_pos hbranch, if_neg (not_lt.2 hroom), graphEventCb_eq]
    exact ⟨{ ev with payload := translateStatus l ev.payload },
      ⟨rfl, rfl, fun _ => (translated_translateStatus hroom).toSameButStatus, fun _ _ => translated_translateStatus hroom,
        fun h => absurd hown h⟩, rfl⟩
  · have hbranch : ¬ (dataMode = AGM_DATA_EXTERN_MEM ∧ ev.payload.length > 0 ∧ ev.isRwDone) := by
      rintro ⟨hmode, hlen, hdone⟩
      exact hown ⟨hmode, List.ne_nil_of_length_pos hlen, hdone⟩
    rw [if_neg hbranch, graphEventCb_eq]
    exact ⟨ev, ⟨rfl, rfl, fun h => absurd h hown, fun h => absurd h hown, fun _ => rfl⟩, rfl⟩

end

/-! ## Runs -/

section

variable {l : RwDoneLayout} {log : List SessEntry} {v : Sessions}

theorem registrations_concat (s : SessId) (entry : SessEntry) : registrations s (log ++ [entry]) =
    match entry.req s with
    | none => registrations s log
    | some (.register sessCb) => registrations s log ++ [sessCb]
    | some (.deregister e d) =>
      (registrations s log).filter fun sessCb => ¬ (sessCb.evtType = e ∧ sessCb.clientData = d) := by
  unfold registrations
  rw [List.filterMap_append]
  cases h : entry.req s with
  | none => simp [h]
  | some r =>
    rw [List.filterMap_cons_some h, List.filterMap_nil]
    cases r with
    | register sessCb => exact present_concat_register
    | deregister e d => exact present_concat_deregister

/-- The lists are what was registered, and every event has been right. -/
structure Sessions.Good (l : RwDoneLayout) (v : Sessions) : Prop where
  pool (s : SessId) : v.cbPool s = registrations s v.log
  right : EachAfter (SessEntry.Right l) v.log

/-- A request of one session. -/
theorem Sessions.Good.registerCb (h : v.Good l) (s : SessId) (granted : Bool) (cb e d : Nat) :
    (sessExec l v (.registerCb s granted cb e d)).Good l := by
  refine ⟨fun s' => ?_, eachAfter_concat.2 ⟨h.right, trivial⟩⟩
  show Function.update v.cbPool s _ s' = registrations s' (v.log ++ [_])
  rw [registrations_concat, ← h.pool]
  unfold SessEntry.req
  dsimp only
  by_cases hs : s = s'
  · subst hs
    rw [Function.update_self]
    unfold sessionObjRegisterCb
    by_cases hcb : cb ≠ 0
    · cases granted with
      | true => simp [hcb]
      | false => simp [hcb]
    · rw [dif_neg hcb, removeCbs_eq]
      simp [hcb]
  · rw [Function.update_of_ne (Ne.symm hs)]
    simp [hs]

/-- **One step.** -/
theorem Sessions.Good.step (h : v.Good l) (op : SessOp) : (sessExec l v op).Good l := by
  cases op with
  | registerCb s granted cb e d => exact h.registerCb s granted cb e d
  | event s granted dataMode ev =>
    refine ⟨fun s' => ?_, eachAfter_concat.2 ⟨h.right, ?_, ?_⟩⟩
    · show v.cbPool s' = registrations s' (v.log ++ [_])
      rw [registrations_concat, h.pool]
      rfl
    · rintro rfl hev
      unfold callsFor
      rw [← h.pool]
      exact gslCallbackFunc_right hev (v.cbPool s)
    · intro hno
      unfold gslCallbackFunc
      rw [if_pos hno]

theorem good_sessRun (l : RwDoneLayout) (ops : List SessOp) : (sessRun l ops).Good l := by
  have hstart : Sessions.Good l {} := ⟨fun _ => rfl, eachAfter_nil⟩
  induction ops using List.reverseRecOn with
  | nil => exact hstart
  | append_singleton ops op ih =>
    rw [sessRun, List.foldl_concat]
    exact ih.step op

end

/-- **The callbacks.**  In every run, an event with memory for its copy leads to one call for each callback that is
registered at that time for the type of the event, in the order of the registrations, and to no other; and a
deregistration takes out what has its event type and client data, and leaves the rest as it is. -/
theorem sessionCallbacks_right (l : RwDoneLayout) (ops : List SessOp) :
    EachAfter (SessEntry.Right l) (sessRun l ops).log ∧
    (∀ s, (sessRun l ops).cbPool s = registrations s (sessRun l ops).log) ∧
    ∀ s granted e d, (sessRun l (ops ++ [.registerCb s granted 0 e d])).cbPool =
      Function.update (sessRun l ops).cbPool s (((sessRun l ops).cbPool s).filter fun sessCb =>
        ¬ (sessCb.evtType = e ∧ sessCb.clientData = d)) := by
  refine ⟨(good_sessRun l ops).right, (good_sessRun l ops).pool, fun s granted e d => ?_⟩
  have hremove : (sessionObjRegisterCb granted 0 e d ((sessRun l ops).cbPool s)).2 =
      ((sessRun l ops).cbPool s).filter fun sessCb => ¬ (sessCb.evtType = e ∧ sessCb.clientData = d) := by
    rw [← removeCbs_eq]
    rfl
  rw [← hremove, sessRun, List.foldl_concat]
  rfl

/-- The words as in `struct agm_event_read_write_done_payload`. -/
def rwDoneLayout : RwDoneLayout := ⟨4, 8, .inl (by decide)⟩

/-- In the mode of client buffers a failed write is not reported as GSL has it: its status 18 comes as `-ENOMEM`. -/
theorem sessionCallbacks_changed :
    let ev : EventParams := ⟨GSL_EVENT_SRC_MODULE_ID_GSL, AGM_EVENT_WRITE_DONE, [7, 0, 0, 0, 18, 0, 0, 0, 0, 0, 0, 0]⟩
    let ops : List SessOp :=
      [.registerCb 1 true 5 AGM_EVENT_DATA_PATH 9, .event 1 true AGM_DATA_EXTERN_MEM ev]
    ev.HasRoom rwDoneLayout AGM_DATA_EXTERN_MEM ∧
      ¬ EachAfter SessEntry.Unchanged (sessRun rwDoneLayout ops).log := by
  exact ⟨fun _ => by decide, by decide +kernel⟩

end Agm.Service.Callbacks
