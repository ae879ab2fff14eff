import Mathlib.Data.List.Induction
import Mathlib.Data.List.Perm.Basic
import Agm.Lib.History
import Agm.Service.Objects

/-!
# Callbacks of the SwBinder clients

The server of `ipc_proxy_server.cpp` hands every client's callback to the service as its own `ipc_cb`, with the client data
of the client, and looks for the client in a list of its own when the service calls back.
-/

namespace Agm.Ipc

open Agm.Lib Agm.Service

/-! ## The server -/

/-- A request `REG_CB`.  The proxy makes a new binder for every request; the process it leads to stands for it. -/
structure RegCb where
  client : Nat
  sessionId : SessId
  /-- the function of the client, which can be `NULL` -/
  cbFunc : Option Nat
  event : Nat
  clientData : Nat
  deriving DecidableEq, Repr

/-- `clbk_data`. -/
structure ClbkData where
  sessionId : SessId
  cbBinder : Nat
  cbFunc : Option Nat
  clientData : Nat
  deriving DecidableEq, Repr

def AGM_EVENT_DATA_PATH : Nat := 1
def AGM_EVENT_MODULE : Nat := 2

def AGM_EVENT_EOS_RENDERED : Nat := 0x0
def AGM_EVENT_READ_DONE : Nat := 0x1
def AGM_EVENT_WRITE_DONE : Nat := 0x2

def GSL_EVENT_SRC_MODULE_ID_GSL : Nat := 0x2001

/-- `struct agm_event_cb_params`, as GSL calls back with it, or as `session_obj_flush` makes it up. -/
inductive SessionEvent
  | graph (sourceModuleId eventId : Nat) (payload : List UInt8)
  | flush
  deriving DecidableEq, Repr

/-- The filter of `graph_event_cb`; a flush calls all callbacks. -/
def SessionEvent.isFor (evtType : Nat) : SessionEvent → Bool
  | .graph src id _ =>
    (evtType = AGM_EVENT_DATA_PATH && src = GSL_EVENT_SRC_MODULE_ID_GSL &&
      (id = AGM_EVENT_EOS_RENDERED || id = AGM_EVENT_READ_DONE || id = AGM_EVENT_WRITE_DONE)) ||
    (evtType = AGM_EVENT_MODULE && src ≠ GSL_EVENT_SRC_MODULE_ID_GSL)
  | .flush => true

/-- A call of `event_cb` through a binder. -/
structure Forward where
  cbBinder : Nat
  sessionId : SessId
  event : SessionEvent
  clientData : Nat
  cbFunc : Option Nat
  deriving DecidableEq, Repr

/-- What clients and sessions do. -/
inductive SwOp
  | regCb (r : RegCb)
  | event (s : SessId) (ev : SessionEvent)
  deriving DecidableEq, Repr

/-- What has happened: a request, or an event with the calls it led to. -/
inductive SwEvent
  | regCb (r : RegCb)
  | event (s : SessId) (ev : SessionEvent) (forwards : List Forward)
  deriving DecidableEq, Repr

/-- The list of the server, and the callbacks of each session, all of which are `ipc_cb`: their event types and client
data. -/
structure SwServer where
  clbkDataList : List ClbkData := []
  cbPool : SessId → List (Nat × Nat) := fun _ => []
  log : List SwEvent := []

/-- `session_obj_register_cb`, which a `NULL` callback makes a deregistration. -/
def sessionObjRegisterCb (cb : Bool) (evtType clientData : Nat) (pool : List (Nat × Nat)) : List (Nat × Nat) :=
  if cb then pool ++ [(evtType, clientData)] else pool.filter fun sessCb => sessCb ≠ (evtType, clientData)

/-- `REG_CB` in `onTransact`: whatever the client's callback is, the service is given `ipc_cb`. -/
def SwServer.regCb (v : SwServer) (r : RegCb) : SwServer where
  clbkDataList := v.clbkDataList ++ [⟨r.sessionId, r.client, r.cbFunc, r.clientData⟩]
  cbPool := Function.update v.cbPool r.sessionId (sessionObjRegisterCb true r.event r.clientData (v.cbPool r.sessionId))
  log := v.log ++ [.regCb r]

/-- `ipc_cb`.  A loop without a match ends on the last entry. -/
def ipcCb (list : List ClbkData) (s : SessId) (ev : SessionEvent) (clientData : Nat) : Option Forward :=
  ((list.find? fun handle => handle.sessionId = s && handle.clientData = clientData).or list.getLast?).map fun handle =>
    ⟨handle.cbBinder, s, ev, handle.clientData, handle.cbFunc⟩

/-- The walk over `cb_pool`. -/
def SwServer.event (v : SwServer) (s : SessId) (ev : SessionEvent) : SwServer :=
  { v with log := v.log ++ [.event s ev
      (((v.cbPool s).filter fun sessCb => ev.isFor sessCb.1).filterMap fun sessCb =>
        ipcCb v.clbkDataList s ev sessCb.2)] }

def swExec (v : SwServer) : SwOp → SwServer
  | .regCb r => v.regCb r
  | .event s ev => v.event s ev

def swRun (ops : List SwOp) : SwServer := ops.foldl swExec {}

/-! ## What is registered -/

/-- The requests so far. -/
def regCbs (log : List SwEvent) : List RegCb :=
  log.filterMap fun
    | .regCb r => some r
    | .event _ _ _ => none

/-- The same client, session, event type and client data. -/
def RegCb.Same (r r' : RegCb) : Prop :=
  r.client = r'.client ∧ r.sessionId = r'.sessionId ∧ r.event = r'.event ∧ r.clientData = r'.clientData

instance (r r' : RegCb) : Decidable (r.Same r') := instDecidableAnd

/-- A registration is added, a deregistration takes away those of its client. -/
def RegCb.onLive (live : List RegCb) (r : RegCb) : List RegCb :=
  if r.cbFunc = none then live.filter fun r' => ¬ r'.Same r else live ++ [r]

/-- The registrations made and not yet deregistered. -/
def liveCbs (reqs : List RegCb) : List RegCb := reqs.foldl RegCb.onLive []

/-- The registration is for the event. -/
def RegCb.wants (s : SessId) (ev : SessionEvent) (r : RegCb) : Bool := r.sessionId = s && ev.isFor r.event

/-- The call that a registration is to lead to. -/
def RegCb.forward (s : SessId) (ev : SessionEvent) (r : RegCb) : Forward := ⟨r.client, s, ev, r.clientData, r.cbFunc⟩

/-- An event leads to one call for each registration that is live, through its client's binder, and to no other. -/
def SwEvent.Right (past : List SwEvent) : SwEvent → Prop
  | .regCb _ => True
  | .event s ev forwards =>
    forwards.Perm (((liveCbs (regCbs past)).filter (RegCb.wants s ev)).map (RegCb.forward s ev))

/-- The first request with the session and client data of a request. -/
def RegCb.first (reqs : List RegCb) (r : RegCb) : Option RegCb :=
  reqs.find? fun r' => r'.sessionId = r.sessionId && r'.clientData = r.clientData

/-- Every request so far that is for the event is a registration, and the first request with its session and client data
comes from the same client with the same function. -/
def SwOp.Unshared (past : List SwEvent) : SwOp → Prop
  | .regCb _ => True
  | .event s ev => ∀ r ∈ regCbs past, r.wants s ev → r.cbFunc ≠ none ∧
      ∃ r' ∈ RegCb.first (regCbs past) r, r'.client = r.client ∧ r'.cbFunc = r.cbFunc

instance (past : List SwEvent) (e : SwEvent) : Decidable (e.Right past) := by
  unfold SwEvent.Right
  split <;> infer_instance

instance (past : List SwEvent) (op : SwOp) : Decidable (op.Unshared past) := by
  unfold SwOp.Unshared
  split <;> infer_instance

section

variable {log : List SwEvent} {reqs : List RegCb} {r : RegCb} {s : SessId} {ev : SessionEvent}

@[simp] theorem regCbs_concat_regCb : regCbs (log ++ [.regCb r]) = regCbs log ++ [r] := by
  simp [regCbs]

@[simp] theorem regCbs_concat_event {forwards : List Forward} :
    regCbs (log ++ [.event s ev forwards]) = regCbs log := by
  simp [regCbs]

@[simp] theorem liveCbs_concat : liveCbs (reqs ++ [r]) = RegCb.onLive (liveCbs reqs) r := List.foldl_concat _ _ _ _

theorem liveCbs_sublist (reqs : List RegCb) : (liveCbs reqs).Sublist reqs := by
  induction reqs using List.reverseRecOn with
  | nil => exact List.Sublist.refl _
  | append_singleton reqs r ih =>
    rw [liveCbs_concat]
    unfold RegCb.onLive
    split
    · exact (List.filter_sublist.trans ih).trans (List.sublist_append_left _ _)
    · exact ih.append_right [r]

theorem cbFunc_of_mem_liveCbs (h : r ∈ liveCbs reqs) : r.cbFunc ≠ none := by
  induction reqs using List.reverseRecOn with
  | nil => exact nomatch h
  | append_singleton reqs q ih =>
    rw [liveCbs_concat] at h
    unfold RegCb.onLive at h
    split at h
    · exact ih (List.mem_of_mem_filter h)
    · next hq =>
      rcases List.mem_append.1 h with h | h
      · exact ih h
      · rw [List.mem_singleton.1 h]
        exact hq

/-- Deregistrations that are not for the event take away nothing that is. -/
theorem filter_liveCbs (h : ∀ r ∈ reqs, r.wants s ev → r.cbFunc ≠ none) :
    (liveCbs reqs).filter (RegCb.wants s ev) = reqs.filter (RegCb.wants s ev) := by
  induction reqs using List.reverseRecOn with
  | nil => rfl
  | append_singleton reqs q ih =>
    have ih := ih fun r hr => h r (List.mem_append_left _ hr)
    rw [liveCbs_concat, List.filter_append, ← ih]
    unfold RegCb.onLive
    split
    · next hq =>
      have hnot : ¬ q.wants s ev := fun hw => h q (List.mem_append_right _ (List.mem_singleton_self q)) hw hq
      have hnil : [q].filter (RegCb.wants s ev) = [] := by simpa using hnot
      rw [hnil, List.append_nil, List.filter_filter]
      refine List.filter_congr fun r _ => ?_
      -- one that is for the event is of another session or event type
      by_cases hr : r.wants s ev
      · have hne : ¬ r.Same q := by
          rintro ⟨-, hs, hev, -⟩
          unfold RegCb.wants at hr hnot
          rw [hs, hev] at hr
          exact hnot hr
        simp [hr, hne]
      · simp [hr]
    · rw [List.filter_append]

/-! ## What an event leads to -/

/-- The entry of a request. -/
def RegCb.entry (r : RegCb) : ClbkData := ⟨r.sessionId, r.client, r.cbFunc, r.clientData⟩

/-- The server has an entry, and the session a callback, for every request. -/
structure SwServer.Keeps (v : SwServer) : Prop where
  entries : v.clbkDataList = (regCbs v.log).map RegCb.entry
  cbs : ∀ s, v.cbPool s = ((regCbs v.log).filter fun r => r.sessionId = s).map fun r => (r.event, r.clientData)

theorem RegCb.exists_first (h : r ∈ reqs) : ∃ r', RegCb.first reqs r = some r' :=
  Option.isSome_iff_exists.1 (List.find?_isSome.2 ⟨r, h, by simp⟩)

theorem RegCb.first_spec {r' : RegCb} (h : RegCb.first reqs r = some r') :
    r'.sessionId = r.sessionId ∧ r'.clientData = r.clientData := by
  have := List.find?_some h
  simpa using this

/-- `ipc_cb` finds the first request with the client data. -/
theorem ipcCb_eq (h : r ∈ reqs) : ipcCb (reqs.map RegCb.entry) r.sessionId ev r.clientData =
    (RegCb.first reqs r).map (RegCb.forward r.sessionId ev) := by
  obtain ⟨r', hr'⟩ := RegCb.exists_first h
  have hfind : (reqs.map RegCb.entry).find?
      (fun handle => handle.sessionId = r.sessionId && handle.clientData = r.clientData) = some r'.entry := by
    rw [List.find?_map]
    exact congrArg (Option.map RegCb.entry) hr'
  unfold ipcCb
  rw [hfind, hr']
  rfl

/-- The calls of an event: for each request that is for it, through the first one with its client data. -/
theorem SwServer.Keeps.forwards {v : SwServer} (h : v.Keeps) (s : SessId) (ev : SessionEvent) :
    (((v.cbPool s).filter fun sessCb => ev.isFor sessCb.1).filterMap fun sessCb => ipcCb v.clbkDataList s ev sessCb.2) =
      ((regCbs v.log).filter (RegCb.wants s ev)).filterMap fun r =>
        (RegCb.first (regCbs v.log) r).map (RegCb.forward s ev) := by
  rw [h.cbs, h.entries, List.filter_map, List.filterMap_map, List.filter_filter]
  have hwants : (fun r : RegCb => ((fun sessCb : Nat × Nat => ev.isFor sessCb.1) ∘ fun r => (r.event, r.clientData)) r &&
      decide (r.sessionId = s)) = RegCb.wants s ev := by
    funext r
    exact Bool.and_comm _ _
  rw [hwants]
  refine List.filterMap_congr fun r hr => ?_
  obtain ⟨hmem, hr⟩ := List.mem_filter.1 hr
  have hs : r.sessionId = s := by
    unfold RegCb.wants at hr
    simp only [Bool.and_eq_true, decide_eq_true_eq] at hr
    exact hr.1
  subst hs
  exact ipcCb_eq hmem

/-- Each of the requests leads to one call. -/
theorem filterMap_first (s : SessId) (ev : SessionEvent) {l : List RegCb} (hl : ∀ r ∈ l, r ∈ reqs) :
    (l.filterMap fun r => (RegCb.first reqs r).map (RegCb.forward s ev)) =
      l.map fun r => ((RegCb.first reqs r).getD r).forward s ev := by
  rw [← List.filterMap_eq_map]
  refine List.filterMap_congr fun r hr => ?_
  obtain ⟨r', hr'⟩ := RegCb.exists_first (hl r hr)
  rw [Function.comp_apply, hr']
  rfl

/-- **One event.** -/
theorem forwards_perm_iff (reqs : List RegCb) (s : SessId) (ev : SessionEvent) :
    ((reqs.filter (RegCb.wants s ev)).filterMap fun r => (RegCb.first reqs r).map (RegCb.forward s ev)).Perm
        (((liveCbs reqs).filter (RegCb.wants s ev)).map (RegCb.forward s ev)) ↔
      ∀ r ∈ reqs, r.wants s ev → r.cbFunc ≠ none ∧
        ∃ r' ∈ RegCb.first reqs r, r'.client = r.client ∧ r'.cbFunc = r.cbFunc := by
  rw [filterMap_first s ev fun r hr => List.mem_of_mem_filter hr]
  constructor
  · intro hperm
    -- there is a call for every request, so none of them has been taken away
    have hlive : (liveCbs reqs).filter (RegCb.wants s ev) = reqs.filter (RegCb.wants s ev) := by
      refine ((liveCbs_sublist reqs).filter _).eq_of_length ?_
      have hcount := hperm.length_eq
      rw [List.length_map, List.length_map] at hcount
      exact hcount.symm
    intro r hr hw
    have hmem : r ∈ (liveCbs reqs).filter (RegCb.wants s ev) := by
      rw [hlive]
      exact List.mem_filter.2 ⟨hr, hw⟩
    refine ⟨cbFunc_of_mem_liveCbs (List.mem_of_mem_filter hmem), ?_⟩
    -- the call that is due for `r` is one for a request with the same client data
    obtain ⟨q, hq, heq⟩ := List.mem_map.1 (hperm.mem_iff.2 (List.mem_map_of_mem hmem))
    obtain ⟨hqmem, hqw⟩ := List.mem_filter.1 hq
    obtain ⟨r', hr'⟩ := RegCb.exists_first hqmem
    rw [hr'] at heq
    obtain ⟨hclient, -, -, hdata, hfunc⟩ := Forward.mk.inj heq
    have hsame : RegCb.first reqs q = RegCb.first reqs r := by
      unfold RegCb.wants at hw hqw
      simp only [Bool.and_eq_true, decide_eq_true_eq] at hw hqw
      have hdata' : q.clientData = r.clientData := (RegCb.first_spec hr').2.symm.trans hdata
      unfold RegCb.first
      rw [hqw.1, hw.1, hdata']
    exact ⟨r', hsame.symm.trans hr', hclient, hfunc⟩
  · intro h
    rw [filter_liveCbs fun r hr hw => (h r hr hw).1]
    refine List.Perm.of_eq (List.map_congr_left fun r hr => ?_)
    obtain ⟨hmem, hw⟩ := List.mem_filter.1 hr
    obtain ⟨-, r', hr', hclient, hfunc⟩ := h r hmem hw
    have hdata := (RegCb.first_spec hr').2
    rw [hr']
    show RegCb.forward s ev r' = RegCb.forward s ev r
    unfold RegCb.forward
    rw [hclient, hfunc, hdata]

/-! ## Every run -/

theorem SwServer.Keeps.regCb {v : SwServer} (h : v.Keeps) (r : RegCb) : (v.regCb r).Keeps := by
  refine ⟨?_, ?_⟩
  · show v.clbkDataList ++ [r.entry] = (regCbs (v.log ++ [.regCb r])).map RegCb.entry
    rw [regCbs_concat_regCb, List.map_append, h.entries]
    rfl
  · intro s
    show Function.update v.cbPool r.sessionId _ s = ((regCbs (v.log ++ [.regCb r])).filter _).map _
    rw [regCbs_concat_regCb, List.filter_append, List.map_append, ← h.cbs, Function.update_apply]
    by_cases hs : s = r.sessionId
    · subst hs
      simp [sessionObjRegisterCb]
    · simp [hs, Ne.symm hs]

theorem swExec_step {v : SwServer} (h : v.Keeps) (op : SwOp) : (swExec v op).Keeps ∧
    (EachAfter SwEvent.Right (swExec v op).log ↔ EachAfter SwEvent.Right v.log ∧ op.Unshared v.log) := by
  cases op with
  | regCb r => exact ⟨h.regCb r, eachAfter_concat⟩
  | event s ev =>
    refine ⟨⟨?_, fun s' => ?_⟩, ?_⟩
    · show v.clbkDataList = (regCbs (v.log ++ [_])).map RegCb.entry
      rw [regCbs_concat_event, h.entries]
    · show v.cbPool s' = ((regCbs (v.log ++ [_])).filter _).map _
      rw [regCbs_concat_event, h.cbs]
    · refine eachAfter_concat.trans (and_congr_right fun _ => ?_)
      show List.Perm _ _ ↔ _
      rw [h.forwards]
      exact forwards_perm_iff (regCbs v.log) s ev

end

/-- **Events and registrations.**  Every event of a run leads to the calls it is to lead to as long as, for every event, no
deregistration was ever requested that is for it, and no client data of it was first seen with another client or
function. -/
theorem sw_events_right_iff (ops : List SwOp) : EachAfter SwEvent.Right (swRun ops).log ↔
    EachAfter (fun past op => op.Unshared (swRun past).log) ops := by
  exact right_run_iff SwServer.Keeps (fun v => EachAfter SwEvent.Right v.log) ⟨rfl, fun _ => rfl⟩ eachAfter_nil
    (fun _ op h => swExec_step h op) ops

def writeDone : SessionEvent := .graph GSL_EVENT_SRC_MODULE_ID_GSL AGM_EVENT_WRITE_DONE []

/-- The clients 1 and 2 register for session 5 with the client data 7, and an event goes to the client 1 twice.  The
client 3 registers for session 6, takes its callback back, and an event is still passed on to it, twice. -/
theorem sw_events_misdirected : (∃ log,
      (swRun [.regCb ⟨1, 5, some 11, 1, 7⟩, .regCb ⟨2, 5, some 22, 1, 7⟩, .event 5 writeDone]).log = log ∧
      log.drop 2 = [.event 5 writeDone [⟨1, 5, writeDone, 7, some 11⟩, ⟨1, 5, writeDone, 7, some 11⟩]] ∧
      ¬ EachAfter SwEvent.Right log) ∧
    ∃ log, (swRun [.regCb ⟨3, 6, some 33, 1, 9⟩, .regCb ⟨3, 6, none, 1, 9⟩, .event 6 writeDone]).log = log ∧
      log.drop 2 = [.event 6 writeDone [⟨3, 6, writeDone, 9, some 33⟩, ⟨3, 6, writeDone, 9, some 33⟩]] ∧
      ¬ EachAfter SwEvent.Right log := by
  refine ⟨⟨_, rfl, ?_, ?_⟩, ⟨_, rfl, ?_, ?_⟩⟩
  all_goals decide +kernel

end Agm.Ipc
