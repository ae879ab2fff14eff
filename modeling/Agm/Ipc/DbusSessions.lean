import Mathlib.Logic.Function.Basic
import Agm.Lib.CString
import Agm.Lib.Sat

/-!
# The sessions of the D-Bus server

The table of `agm_server_wrapper_dbus.cpp` with the data of each session, and the registry of interfaces in
`agm-dbus-utils.cpp`, which hands that data to the handlers of the session.  Memory is modelled with what is alive in it:
the process ends where something is used or released that is not.

`agm_free_session` is read as releasing what it is called with.  Memory does not run out, and a new object path can be
registered.
-/

namespace Agm.Ipc.Dbus

open Agm.Lib

/-- `agm_callback_data` -/
structure CallbackData where
  sessionId : UInt32
  eventType : UInt32
  clientData : UInt64
  deriving DecidableEq, Repr

/-- `agm_session_data`; the list of callbacks may have been freed. -/
structure SessionData where
  sessionId : UInt32
  handle : UInt64 := 0
  objPath : CString
  callbacks : Option (List CallbackData) := some []
  deriving DecidableEq, Repr

/-- `agm_dbus_object`, with the address of its session interface. -/
structure Object where
  interface : Option Nat
  deriving DecidableEq, Repr

/-- `agm_dbus_interface` -/
structure Interface where
  userdata : Nat
  deriving DecidableEq, Repr

structure Server where
  /-- `mdata->sessions` -/
  sessions : UInt32 → Option Nat := fun _ => none
  /-- `conn->objects` -/
  objects : CString → Option Nat := fun _ => none
  /-- what is alive -/
  data : Nat → Option SessionData := fun _ => none
  object : Nat → Option Object := fun _ => none
  iface : Nat → Option Interface := fun _ => none
  /-- the filters for `Disconnected`, each with its place in the list of the connection -/
  filters : List (Nat × Nat) := []
  next : Nat := 0

/-- What a request gets: a reply, an error, or nothing if there is no handler. -/
inductive Reply
  | reply
  | error (text : String)
  | unhandled
  deriving DecidableEq, Repr

/-! ## Object paths -/

/-- `%d` of an unsigned number. -/
def percentD (n : UInt32) : CString :=
  if n.toNat < 2 ^ 31 then CString.decimal n.toNat else '-' :: CString.decimal (2 ^ 32 - n.toNat)

/-- The path that `get_session_data` prints; the room for it is that of the unsigned number. -/
def sessionPath (s : UInt32) : CString :=
  let base := "/org/qti/agm".toList ++ "/session_".toList
  CString.bounded (base.length + (CString.decimal s.toNat).length + 1) (base ++ percentD s)

/-! ## Memory -/

def readData (e : Nat) : Prog Server SessionData := do
  match (← get).data e with
  | some d => pure d
  | none => crash

def writeData (e : Nat) (d : SessionData) : Prog Server Unit := do
  let _ ← readData e
  modify fun v => { v with data := Function.update v.data e (some d) }

/-- `free` of the data of a session. -/
def freeData (e : Nat) : Prog Server Unit := do
  let _ ← readData e
  modify fun v => { v with data := Function.update v.data e none }

def newAddr : Prog Server Nat := do
  let v ← get
  set { v with next := v.next + 1 }
  pure v.next

/-- A walk over the callbacks of a session. -/
def readCallbacks (e : Nat) : Prog Server (List CallbackData) := do
  match (← readData e).callbacks with
  | some cbs => pure cbs
  | none => crash

/-! ## The registry -/

def newInterface (userdata : Nat) : Prog Server Nat := do
  let i ← newAddr
  modify fun v => { v with iface := Function.update v.iface i (some ⟨userdata⟩) }
  pure i

/-- `agm_dbus_add_interface`; an interface that is there stays as it is. -/
def agmDbusAddInterface (path : CString) (userdata : Nat) : Prog Server Unit := do
  match (← get).objects path with
  | none => do
    let i ← newInterface userdata
    let o ← newAddr
    modify fun v => { v with object := Function.update v.object o (some ⟨some i⟩),
                             objects := Function.update v.objects path (some o) }
  | some o =>
    match (← get).object o with
    | none => crash
    | some object =>
      match object.interface with
      | some _ => pure ()
      | none => do
        let i ← newInterface userdata
        modify fun v => { v with object := Function.update v.object o (some ⟨some i⟩) }

/-- `agm_dbus_remove_interface`.  `g_hash_table_remove` releases the interface and returns `TRUE`, which is taken for
its address: its tables are emptied and it is freed again, and so is the object.  The process does not get past that. -/
def agmDbusRemoveInterface (path : CString) : Prog Server Int := do
  match (← get).objects path with
  | none => pure (-1)
  | some o =>
    match (← get).object o with
    | none => crash
    | some object =>
      match object.interface with
      | none => pure (-1)
      | some _ => crash

/-! ## The table -/

/-- `agm_free_session` -/
def agmFreeSession (e : Nat) : Prog Server Unit := do
  let d ← readData e
  let _ ← agmDbusRemoveInterface d.objPath
  freeData e

/-- `g_hash_table_remove` on the table of sessions, which frees what it finds. -/
def removeSession (s : UInt32) : Prog Server Unit := do
  match (← get).sessions s with
  | none => pure ()
  | some e => do
    modify fun v => { v with sessions := Function.update v.sessions s none }
    agmFreeSession e

/-- `get_session_data` -/
def getSessionData (s : UInt32) : Prog Server Nat := do
  match (← get).sessions s with
  | some e => pure e
  | none => do
    let e ← newAddr
    modify fun v => { v with data := Function.update v.data e (some { sessionId := s, objPath := sessionPath s }) }
    agmDbusAddInterface (sessionPath s) e
    modify fun v => { v with sessions := Function.update v.sessions s (some e) }
    pure e

/-! ## The handlers -/

/-- `dbus_connection_remove_filter`: the last one with this data goes. -/
def removeFilter (e : Nat) : Prog Server Unit :=
  modify fun v => { v with filters := (v.filters.reverse.eraseP fun f => f.2 = e).reverse }

/-- `ipc_agm_session_open`; the service gives a handle, or it fails. -/
def ipcAgmSessionOpen (s : UInt32) (answer : Option UInt64) : Prog Server Reply := do
  let e ← getSessionData s
  match answer with
  | none => do
    agmFreeSession e
    pure (.error "agm_session_open failed.")
  | some handle => do
    writeData e { ← readData e with handle }
    let place ← newAddr
    modify fun v => { v with filters := v.filters ++ [(place, e)] }
    pure .reply

/-- `ipc_agm_session_close`, for the data of the interface. -/
def ipcAgmSessionClose (e : Nat) (ok : Bool) : Prog Server Reply := do
  removeFilter e
  let d ← readData e
  if ¬ ok then pure (.error "agm_session_close failed.")
  else do
    let _ ← readCallbacks e
    writeData e { d with callbacks := none }
    let r ← agmDbusRemoveInterface d.objPath
    if r ≠ 0 then pure (.error "agm_session_close failed. Failed to remove interface.")
    else do
      removeSession d.sessionId
      pure .reply

/-- `ipc_agm_session_register_cb` -/
def ipcAgmSessionRegisterCb (s eventType : UInt32) (clientData : UInt64) (ok : Bool) : Prog Server Reply := do
  let e ← getSessionData s
  if ¬ ok then do
    agmFreeSession e
    pure (.error "agm_session_register_cb failed.")
  else do
    let d ← readData e
    let cbs ← readCallbacks e
    writeData e { d with callbacks := some (⟨s, eventType, clientData⟩ :: cbs) }
    pure .reply

/-- `ipc_agm_session_deregister_cb`.  `g_list_find` looks for the address of the data it has just allocated, which is
not in the list. -/
def ipcAgmSessionDeregisterCb (s _eventType : UInt32) (_clientData : UInt64) (ok : Bool) : Prog Server Reply := do
  let e ← getSessionData s
  if ¬ ok then do
    agmFreeSession e
    pure (.error "Failed to de-register callback. agm_session_register_cb failed.")
  else do
    let _ ← readCallbacks e
    pure .reply

/-- `disconnection_filter_cb`.  What the service answers is only logged. -/
def disconnectionFilterCb (e : Nat) : Prog Server Unit := do
  let d ← readData e
  let _ ← readCallbacks e
  writeData e { d with callbacks := none }
  removeFilter e
  let _ ← agmDbusRemoveInterface d.objPath
  removeSession d.sessionId

/-- The filters there are when the signal comes, if they still are when it is their turn. -/
def runFilters : List (Nat × Nat) → Prog Server Unit
  | [] => pure ()
  | f :: fs => do
    if f ∈ (← get).filters then disconnectionFilterCb f.2
    runFilters fs

/-- The data that the session interface of a path hands to the handlers. -/
def Server.userdataAt (v : Server) (path : CString) : Option Nat := do
  let o ← v.objects path
  let object ← v.object o
  let i ← object.interface
  let f ← v.iface i
  pure f.userdata

/-- Requests with the answer of the service, and the end of the connection. -/
inductive Event
  | sessionOpen (s : UInt32) (answer : Option UInt64)
  | sessionClose (s : UInt32) (ok : Bool)
  | sessionRegisterCb (s eventType : UInt32) (clientData : UInt64) (ok : Bool)
  | sessionDeregisterCb (s eventType : UInt32) (clientData : UInt64) (ok : Bool)
  | disconnected
  deriving DecidableEq, Repr

/-- A close is sent to the object path of its session. -/
def Event.run : Event → Prog Server Reply
  | .sessionOpen s answer => ipcAgmSessionOpen s answer
  | .sessionClose s ok => do
    match (← get).userdataAt (sessionPath s) with
    | none => pure .unhandled
    | some e => ipcAgmSessionClose e ok
  | .sessionRegisterCb s eventType clientData ok => ipcAgmSessionRegisterCb s eventType clientData ok
  | .sessionDeregisterCb s eventType clientData ok => ipcAgmSessionDeregisterCb s eventType clientData ok
  | .disconnected => do
    runFilters (← get).filters
    pure .unhandled

/-! ## What should hold -/

/-- The table and the registry agree, and what can be reached from them is alive. -/
structure Server.Right (v : Server) : Prop where
  table : ∀ s e, v.sessions s = some e ↔
    v.userdataAt (sessionPath s) = some e ∧ ∃ d, v.data e = some d ∧ d.sessionId = s
  owned : ∀ path e, v.userdataAt path = some e → ∃ d, v.data e = some d ∧ path = sessionPath d.sessionId
  objects : ∀ path o, v.objects path = some o → ∃ e, v.userdataAt path = some e

/-- The session that a request is about. -/
def Event.session : Event → Option UInt32
  | .sessionOpen s _ | .sessionClose s _ | .sessionRegisterCb s _ _ _ | .sessionDeregisterCb s _ _ _ => some s
  | .disconnected => none

/-- A request that has failed leaves the table, the interfaces and the data of the other sessions. -/
def Untouched (ev : Event) (v v' : Server) : Prop :=
  v'.sessions = v.sessions ∧ v'.objects = v.objects ∧ v'.userdataAt = v.userdataAt ∧
    ∀ e d, v.data e = some d → some d.sessionId ≠ ev.session → v'.data e = some d

def Reply.Failed (r : Reply) : Prop := r ≠ .reply

/-- The server survives the events one by one, is right after each, and a failure changes nothing. -/
def Server.StaysRight : Server → List Event → Prop
  | _, [] => True
  | v, ev :: evs => ∃ r v', ev.run v = some (r, v') ∧ v'.Right ∧ (r.Failed → Untouched ev v v') ∧ v'.StaysRight evs

/-- No other session has the path. -/
def Server.PathFree (v : Server) (s : UInt32) : Prop := v.sessions s = none → v.objects (sessionPath s) = none

/-- Nothing has to be taken out of the registry, and no path is there twice. -/
def Event.Spared (v : Server) : Event → Prop
  | .sessionOpen s answer => answer.isSome ∧ v.PathFree s
  | .sessionRegisterCb s _ _ ok | .sessionDeregisterCb s _ _ ok => ok ∧ v.PathFree s
  | .sessionClose s ok => ok → v.objects (sessionPath s) = none
  | .disconnected => v.filters = []

/-- Every event finds the server like this. -/
def Server.AllSpared : Server → List Event → Prop
  | _, [] => True
  | v, ev :: evs => ev.Spared v ∧ ∀ r v', ev.run v = some (r, v') → v'.AllSpared evs

/-! ## Running the handlers -/

theorem run_bind {α β : Type} (m : Prog Server α) (f : α → Prog Server β) (v : Server) :
    (m >>= f) v = (m v).bind fun p => f p.1 p.2 := rfl

theorem run_pure {α : Type} (a : α) (v : Server) : (pure a : Prog Server α) v = some (a, v) := rfl

theorem run_get (v : Server) : (get : Prog Server Server) v = some (v, v) := rfl

theorem run_modify (f : Server → Server) (v : Server) : (modify f : Prog Server PUnit) v = some (⟨⟩, f v) := rfl

theorem run_readData {v : Server} {e : Nat} {d : SessionData} (h : v.data e = some d) :
    readData e v = some (d, v) := by
  simp only [readData, run_bind, run_get, Option.bind_some, h, run_pure]

theorem run_writeData {v : Server} {e : Nat} {d : SessionData} (h : v.data e = some d) (d' : SessionData) :
    writeData e d' v = some (⟨⟩, { v with data := Function.update v.data e (some d') }) := by
  simp only [writeData, run_bind, run_readData h, Option.bind_some, run_modify]

theorem run_newAddr (v : Server) : newAddr v = some (v.next, { v with next := v.next + 1 }) := rfl

theorem run_readCallbacks {v : Server} {e : Nat} {d : SessionData} {cbs : List CallbackData} (h : v.data e = some d)
    (hcbs : d.callbacks = some cbs) : readCallbacks e v = some (cbs, v) := by
  simp only [readCallbacks, run_bind, run_readData h, Option.bind_some, hcbs, run_pure]

/-- The process ends when an interface is removed. -/
theorem run_agmDbusRemoveInterface {v : Server} {path : CString} {e : Nat} (h : v.userdataAt path = some e) :
    agmDbusRemoveInterface path v = none := by
  unfold Server.userdataAt at h
  simp only [Option.bind_eq_bind, Option.bind_eq_some_iff] at h
  obtain ⟨o, ho, object, hobject, i, hi, -⟩ := h
  simp only [agmDbusRemoveInterface, run_bind, run_get, Option.bind_some, ho, hobject, hi]
  rfl

theorem run_agmFreeSession {v : Server} {e x : Nat} {d : SessionData} (h : v.data e = some d)
    (hpath : v.userdataAt d.objPath = some x) : agmFreeSession e v = none := by
  simp only [agmFreeSession, run_bind, run_readData h, Option.bind_some, run_agmDbusRemoveInterface hpath,
    Option.bind_none]

theorem run_agmDbusAddInterface_of_none {v : Server} {path : CString} (h : v.objects path = none) (e : Nat) :
    agmDbusAddInterface path e v = some (⟨⟩, { v with
      iface := Function.update v.iface v.next (some ⟨e⟩)
      object := Function.update v.object (v.next + 1) (some ⟨some v.next⟩)
      objects := Function.update v.objects path (some (v.next + 1))
      next := v.next + 2 }) := by
  simp only [agmDbusAddInterface, newInterface, run_bind, run_get, Option.bind_some, h, run_newAddr, run_modify, run_pure]

theorem run_agmDbusAddInterface_of_some {v : Server} {path : CString} {x : Nat} (h : v.userdataAt path = some x)
    (e : Nat) : agmDbusAddInterface path e v = some (⟨⟩, v) := by
  unfold Server.userdataAt at h
  simp only [Option.bind_eq_bind, Option.bind_eq_some_iff] at h
  obtain ⟨o, ho, object, hobject, i, hi, -⟩ := h
  simp only [agmDbusAddInterface, run_bind, run_get, Option.bind_some, ho, hobject, hi, run_pure]

/-! ## The invariant -/

/-- Besides, the data of a session is as it was made, nothing is where the next allocation will be, and filters are for
sessions in the table. -/
structure Server.Good (v : Server) : Prop where
  right : v.Right
  made : ∀ e d, v.data e = some d → d.objPath = sessionPath d.sessionId ∧ ∃ cbs, d.callbacks = some cbs
  fresh : ∀ a, v.next ≤ a → v.data a = none ∧ v.object a = none ∧ v.iface a = none
  filters : ∀ f ∈ v.filters, ∃ s, v.sessions s = some f.2

/-- The data of a new session, before it is anywhere. -/
def Server.allocated (v : Server) (s : UInt32) : Server :=
  { v with
    data := Function.update v.data v.next (some { sessionId := s, objPath := sessionPath s })
    next := v.next + 1 }

/-- The server with a new session. -/
def Server.added (v : Server) (s : UInt32) : Server :=
  { v with
    sessions := Function.update v.sessions s (some v.next)
    data := Function.update v.data v.next (some { sessionId := s, objPath := sessionPath s })
    iface := Function.update v.iface (v.next + 1) (some ⟨v.next⟩)
    object := Function.update v.object (v.next + 2) (some ⟨some (v.next + 1)⟩)
    objects := Function.update v.objects (sessionPath s) (some (v.next + 2))
    next := v.next + 3 }

/-- The server with a new session whose path is that of another one. -/
def Server.clashed (v : Server) (s : UInt32) : Server :=
  { v with
    sessions := Function.update v.sessions s (some v.next)
    data := Function.update v.data v.next (some { sessionId := s, objPath := sessionPath s })
    next := v.next + 1 }

theorem run_getSessionData_of_some {v : Server} {s : UInt32} {e : Nat} (h : v.sessions s = some e) :
    getSessionData s v = some (e, v) := by
  simp only [getSessionData, run_bind, run_get, Option.bind_some, h, run_pure]

theorem run_getSessionData_of_none {v : Server} {s : UInt32} (h : v.sessions s = none)
    (hpath : v.objects (sessionPath s) = none) : getSessionData s v = some (v.next, v.added s) := by
  have hadd := run_agmDbusAddInterface_of_none (v := v.allocated s) hpath v.next
  simp only [getSessionData, run_bind, run_get, Option.bind_some, h, run_newAddr, run_modify]
  exact congrArg (Option.bind · _) hadd

theorem run_getSessionData_of_clash {v : Server} {s : UInt32} {x : Nat} (h : v.sessions s = none)
    (hpath : v.userdataAt (sessionPath s) = some x) : getSessionData s v = some (v.next, v.clashed s) := by
  have hadd := run_agmDbusAddInterface_of_some (v := v.allocated s) hpath v.next
  simp only [getSessionData, run_bind, run_get, Option.bind_some, h, run_newAddr, run_modify]
  exact congrArg (Option.bind · _) hadd

theorem userdataAt_eq_none {v : Server} {path : CString} (h : v.objects path = none) : v.userdataAt path = none := by
  rw [Server.userdataAt, h]
  rfl

section

variable {v : Server} (hv : v.Good)
include hv

theorem Server.Good.ne_next_of_data {e : Nat} {d : SessionData} (h : v.data e = some d) : e ≠ v.next := by
  rintro rfl
  exact absurd h (by simp [(hv.fresh v.next (Nat.le_refl _)).1])

theorem Server.Good.userdataAt_added {s : UInt32} :
    (v.added s).userdataAt = Function.update v.userdataAt (sessionPath s) (some v.next) := by
  funext path
  by_cases hpath : path = sessionPath s
  · subst hpath
    simp [Server.userdataAt, Server.added]
  rw [Function.update_of_ne hpath]
  have hobjects : (v.added s).objects path = v.objects path := Function.update_of_ne hpath _ _
  cases ho : v.objects path with
  | none => rw [userdataAt_eq_none ho, Server.userdataAt, hobjects, ho, Option.bind_eq_bind, Option.bind_none]
  | some o =>
    -- an object and an interface that are there are not where the new ones are
    obtain ⟨x, hx⟩ := hv.right.objects path o ho
    rw [hx]
    simp only [Server.userdataAt, Option.bind_eq_bind, Option.bind_eq_some_iff, ho, Option.some.injEq,
      exists_eq_left'] at hx
    obtain ⟨object, hobject, i, hi, f, hf, hx⟩ := hx
    have hne : o ≠ v.next + 2 := by
      rintro rfl
      simp [(hv.fresh (v.next + 2) (by omega)).2.1] at hobject
    have hne' : i ≠ v.next + 1 := by
      rintro rfl
      simp [(hv.fresh (v.next + 1) (by omega)).2.2] at hf
    have hobject' : (v.added s).object o = some object := (Function.update_of_ne hne _ _).trans hobject
    have hf' : (v.added s).iface i = some f := (Function.update_of_ne hne' _ _).trans hf
    simp only [Server.userdataAt, hobjects, ho, hobject', hi, hf', hx, Option.bind_eq_bind, Option.bind_some]

/-- A new session with a path of its own. -/
theorem Server.Good.added {s : UInt32} (h : v.sessions s = none) (hpath : v.objects (sessionPath s) = none) :
    (v.added s).Good := by
  have huser := hv.userdataAt_added (s := s)
  have hnone := userdataAt_eq_none hpath
  have hself : (v.added s).sessions s = some v.next := Function.update_self _ _ _
  have hother {s' : UInt32} (hs : s' ≠ s) : (v.added s).sessions s' = v.sessions s' := Function.update_of_ne hs _ _
  have hnew : (v.added s).data v.next = some { sessionId := s, objPath := sessionPath s } := Function.update_self _ _ _
  have hold {e : Nat} (he : e ≠ v.next) : (v.added s).data e = v.data e := Function.update_of_ne he _ _
  refine ⟨⟨fun s' e => ?_, fun path e he => ?_, fun path o ho => ?_⟩, fun e d hd => ?_, fun a ha => ?_, fun f hf => ?_⟩
  · rw [huser]
    by_cases hs : s' = s
    · subst hs
      rw [hself, Function.update_self]
      refine ⟨?_, fun h => h.1⟩
      rintro ⟨⟩
      exact ⟨rfl, _, hnew, rfl⟩
    · rw [hother hs]
      by_cases hp : sessionPath s' = sessionPath s
      · rw [hp, Function.update_self]
        constructor
        · intro hs'
          have := ((hv.right.table s' e).1 hs').1
          rw [hp, hnone] at this
          cases this
        · rintro ⟨⟨⟩, d, hd, rfl⟩
          rw [hnew] at hd
          cases hd
          exact absurd rfl hs
      · rw [Function.update_of_ne hp, hv.right.table]
        refine and_congr_right fun he => ?_
        obtain ⟨d, hd, -⟩ := hv.right.owned _ _ he
        rw [hold (hv.ne_next_of_data hd)]
  · rw [huser] at he
    by_cases hp : path = sessionPath s
    · subst hp
      rw [Function.update_self] at he
      cases he
      exact ⟨_, hnew, rfl⟩
    · rw [Function.update_of_ne hp] at he
      obtain ⟨d, hd, hpath⟩ := hv.right.owned path e he
      exact ⟨d, by rw [hold (hv.ne_next_of_data hd), hd], hpath⟩
  · rw [huser]
    by_cases hp : path = sessionPath s
    · exact ⟨v.next, by rw [hp, Function.update_self]⟩
    · rw [Function.update_of_ne hp]
      exact hv.right.objects path o ((Function.update_of_ne hp _ _).symm.trans ho)
  · by_cases he : e = v.next
    · subst he
      rw [hnew] at hd
      cases hd
      exact ⟨rfl, [], rfl⟩
    · exact hv.made e d (by rw [← hold he, hd])
  · have hle : v.next + 3 ≤ a := ha
    obtain ⟨hd, ho, hi⟩ := hv.fresh a (by omega)
    refine ⟨?_, ?_, ?_⟩
    · rw [hold (by omega), hd]
    · exact (Function.update_of_ne (by omega) _ _).trans ho
    · exact (Function.update_of_ne (by omega) _ _).trans hi
  · obtain ⟨s', hs'⟩ := hv.filters f hf
    refine ⟨s', ?_⟩
    rw [hother ?_, hs']
    rintro rfl
    rw [h] at hs'
    cases hs'

/-- The data of a session changes, but not whose it is. -/
theorem Server.Good.write {e : Nat} {d : SessionData} {cbs : List CallbackData} (h : v.data e = some d)
    (d' : SessionData) (hid : d'.sessionId = d.sessionId) (hpath : d'.objPath = d.objPath) (hcbs : d'.callbacks = some cbs) :
    Server.Good { v with data := Function.update v.data e (some d') } := by
  have hids (a : Nat) (p : SessionData → Prop) (hp : p d' ↔ p d) :
      (∃ x, Function.update v.data e (some d') a = some x ∧ p x) ↔ ∃ x, v.data a = some x ∧ p x := by
    by_cases ha : a = e
    · subst ha
      simp [h, hp]
    · rw [Function.update_of_ne ha]
  refine ⟨⟨fun s' a => ?_, fun path a ha => ?_, hv.right.objects⟩, fun a x hx => ?_, fun a ha => ?_, hv.filters⟩
  · exact (hv.right.table s' a).trans (and_congr_right fun _ => (hids a (fun x => x.sessionId = s') (by rw [hid])).symm)
  · exact (hids a (fun x => path = sessionPath x.sessionId) (by rw [hid])).2 (hv.right.owned path a ha)
  · by_cases hae : a = e
    · subst hae
      have hx : Function.update v.data a (some d') a = some x := hx
      rw [Function.update_self] at hx
      cases hx
      exact ⟨by rw [hpath, hid, (hv.made a d h).1], cbs, hcbs⟩
    · exact hv.made a x ((Function.update_of_ne hae _ _).symm.trans hx)
  · obtain ⟨hd, ho, hi⟩ := hv.fresh a ha
    refine ⟨(Function.update_of_ne ?_ _ _).trans hd, ho, hi⟩
    rintro rfl
    rw [h] at hd
    cases hd

theorem Server.Good.addFilter {s : UInt32} {e : Nat} (h : v.sessions s = some e) :
    Server.Good { v with next := v.next + 1, filters := v.filters ++ [(v.next, e)] } := by
  refine ⟨⟨hv.right.table, hv.right.owned, hv.right.objects⟩, hv.made, fun a ha => hv.fresh a (Nat.le_of_succ_le ha),
    fun f hf => ?_⟩
  rcases List.mem_append.1 hf with hf | hf
  · exact hv.filters f hf
  · obtain rfl := List.mem_singleton.1 hf
    exact ⟨s, h⟩

end

/-! ## The steps -/

/-- `get_session_data` in a good state: it survives, the data is as it should be, and the server stays good unless
another session has the path. -/
theorem run_getSessionData {v : Server} (hv : v.Good) (s : UInt32) :
    ∃ e v' d cbs x, getSessionData s v = some (e, v') ∧ v'.sessions s = some e ∧ v'.data e = some d ∧
      d.sessionId = s ∧ d.callbacks = some cbs ∧ v'.userdataAt d.objPath = some x ∧ d.objPath = sessionPath s ∧
      (v.PathFree s → v'.Good) ∧ (¬ v.PathFree s → x ≠ e) := by
  cases hs : v.sessions s with
  | some e =>
    obtain ⟨hx, d, hd, hid⟩ := (hv.right.table s e).1 hs
    obtain ⟨hpath, cbs, hcbs⟩ := hv.made e d hd
    rw [hid] at hpath
    refine ⟨e, v, d, cbs, e, run_getSessionData_of_some hs, hs, hd, hid, hcbs, hpath ▸ hx, hpath, fun _ => hv, ?_⟩
    intro hfree
    exact absurd (fun h => absurd (hs.symm.trans h) (Option.some_ne_none e)) hfree
  | none =>
    cases ho : v.objects (sessionPath s) with
    | none =>
      refine ⟨v.next, v.added s, _, [], v.next, run_getSessionData_of_none hs ho, Function.update_self _ _ _,
        Function.update_self _ _ _, rfl, rfl, ?_, rfl, fun _ => hv.added hs ho, fun hfree => absurd (fun _ => ho) hfree⟩
      rw [hv.userdataAt_added]
      exact Function.update_self _ _ _
    | some o =>
      obtain ⟨x, hx⟩ := hv.right.objects _ o ho
      refine ⟨v.next, v.clashed s, _, [], x, run_getSessionData_of_clash hs hx, Function.update_self _ _ _,
        Function.update_self _ _ _, rfl, rfl, hx, rfl, fun hfree => ?_, fun _ => ?_⟩
      · exact absurd ((hfree hs).symm.trans ho) (Option.some_ne_none o).symm
      · obtain ⟨d, hd, -⟩ := hv.right.owned _ x hx
        exact hv.ne_next_of_data hd

/-- Two sessions with one path. -/
theorem not_right_of_clash {v : Server} {s : UInt32} {e x : Nat} (hs : v.sessions s = some e)
    (hx : v.userdataAt (sessionPath s) = some x) (hne : x ≠ e) : ¬ v.Right := fun hv => by
  have := ((hv.table s e).1 hs).1
  rw [hx] at this
  exact hne (Option.some.inj this)

/-- What is to be shown of each step: it is right exactly if it is spared, and then the server stays good. -/
def Settled (v : Server) (ev : Event) : Prop :=
  (ev.Spared v → ∃ r v', ev.run v = some (r, v') ∧ v'.Good ∧ (r.Failed → Untouched ev v v')) ∧
    (¬ ev.Spared v → ∀ r v', ev.run v = some (r, v') → ¬ v'.Right)

/-- A request that gets the data of its session and goes on with it only if the service has not failed. -/
theorem settled_of_getSessionData {v : Server} (hv : v.Good) {ev : Event} {s : UInt32} {p : Prop} [Decidable p]
    {t : String} {k : Nat → Prog Server Reply} (hspared : ev.Spared v ↔ p ∧ v.PathFree s)
    (hrun : ev.run = getSessionData s >>= fun e =>
      if p then k e else (do agmFreeSession e; pure (.error t)))
    (hk : ∀ e v' d cbs, v'.sessions s = some e → v'.data e = some d → d.callbacks = some cbs →
      ∃ v'', k e v' = some (.reply, v'') ∧ v''.sessions = v'.sessions ∧ v''.userdataAt = v'.userdataAt ∧
        (v'.Good → v''.Good)) : Settled v ev := by
  obtain ⟨e, v', d, cbs, x, hget, hs, hd, -, hcbs, hx, hpath, hfree, hclash⟩ := run_getSessionData hv s
  have hev : ev.run v = (if p then k e else (do agmFreeSession e; pure (.error t))) v' := by
    rw [hrun]
    exact bind_apply hget
  constructor
  · intro h
    obtain ⟨hok, hpf⟩ := hspared.1 h
    obtain ⟨v'', hrun', -, -, hgood⟩ := hk e v' d cbs hs hd hcbs
    exact ⟨.reply, v'', by rw [hev, if_pos hok, hrun'], hgood (hfree hpf), fun hfailed => absurd rfl hfailed⟩
  · intro h r w hw hright
    rw [hev] at hw
    by_cases hok : p
    · obtain ⟨v'', hrun', hsess, huser, -⟩ := hk e v' d cbs hs hd hcbs
      rw [if_pos hok, hrun'] at hw
      cases hw
      have hpf : ¬ v.PathFree s := fun hpf => h (hspared.2 ⟨hok, hpf⟩)
      exact not_right_of_clash (by rw [hsess, hs]) (by rw [huser, ← hpath, hx]) (hclash hpf) hright
    · rw [if_neg hok, run_bind, run_agmFreeSession hd hx] at hw
      cases hw

theorem settled_open {v : Server} (hv : v.Good) (s : UInt32) (answer : Option UInt64) :
    Settled v (.sessionOpen s answer) := by
  refine settled_of_getSessionData hv (s := s) (p := answer.isSome) (t := "agm_session_open failed.")
    (k := fun e => do
      writeData e { ← readData e with handle := answer.getD 0 }
      let place ← newAddr
      modify fun v => { v with filters := v.filters ++ [(place, e)] }
      pure .reply) Iff.rfl ?_ fun e v' d cbs hs hd hcbs => ?_
  · cases answer <;> rfl
  · simp only [run_bind, run_readData hd, Option.bind_some, run_writeData hd, run_newAddr, run_modify, run_pure]
    exact ⟨_, rfl, rfl, rfl, fun hgood =>
      (hgood.write hd { d with handle := answer.getD 0 } rfl rfl hcbs).addFilter hs⟩

theorem settled_registerCb {v : Server} (hv : v.Good) (s eventType : UInt32) (clientData : UInt64) (ok : Bool) :
    Settled v (.sessionRegisterCb s eventType clientData ok) := by
  refine settled_of_getSessionData hv (s := s) (p := ok) (t := "agm_session_register_cb failed.")
    (k := fun e => do
      let d ← readData e
      let cbs ← readCallbacks e
      writeData e { d with callbacks := some (⟨s, eventType, clientData⟩ :: cbs) }
      pure .reply) Iff.rfl ?_ fun e v' d cbs hs hd hcbs => ?_
  · cases ok <;> rfl
  · simp only [run_bind, run_readData hd, Option.bind_some, run_readCallbacks hd hcbs, run_writeData hd, run_pure]
    exact ⟨_, rfl, rfl, rfl, fun hgood => hgood.write hd _ rfl rfl rfl⟩

theorem settled_deregisterCb {v : Server} (hv : v.Good) (s eventType : UInt32) (clientData : UInt64) (ok : Bool) :
    Settled v (.sessionDeregisterCb s eventType clientData ok) := by
  refine settled_of_getSessionData hv (s := s) (p := ok)
    (t := "Failed to de-register callback. agm_session_register_cb failed.")
    (k := fun e => do
      let _ ← readCallbacks e
      pure .reply) Iff.rfl ?_ fun e v' d cbs hs hd hcbs => ?_
  · cases ok <;> rfl
  · simp only [run_bind, run_readCallbacks hd hcbs, Option.bind_some, run_pure]
    exact ⟨_, rfl, rfl, rfl, fun hgood => hgood⟩

/-- A filter goes from the list. -/
theorem Server.Good.removeFilter {v : Server} (hv : v.Good) (e : Nat) :
    Server.Good { v with filters := (v.filters.reverse.eraseP fun f => f.2 = e).reverse } := by
  refine ⟨⟨hv.right.table, hv.right.owned, hv.right.objects⟩, hv.made, hv.fresh, fun f hf => hv.filters f ?_⟩
  exact List.mem_reverse.1 (List.mem_of_mem_eraseP (List.mem_reverse.1 hf))

theorem run_removeFilter (e : Nat) (v : Server) : removeFilter e v =
    some (⟨⟩, { v with filters := (v.filters.reverse.eraseP fun f => f.2 = e).reverse }) := rfl

theorem settled_close {v : Server} (hv : v.Good) (s : UInt32) (ok : Bool) : Settled v (.sessionClose s ok) := by
  cases ho : v.objects (sessionPath s) with
  | none =>
    have hrun : (Event.sessionClose s ok).run v = some (.unhandled, v) := by
      simp only [Event.run, run_bind, run_get, Option.bind_some, userdataAt_eq_none ho, run_pure]
    exact ⟨fun _ => ⟨_, v, hrun, hv, fun _ => ⟨rfl, rfl, rfl, fun _ _ h _ => h⟩⟩, fun h => absurd (fun _ => ho) h⟩
  | some o =>
    obtain ⟨e, he⟩ := hv.right.objects _ o ho
    obtain ⟨d, hd, hpath⟩ := hv.right.owned _ e he
    obtain ⟨hmade, cbs, hcbs⟩ := hv.made e d hd
    have hrun : (Event.sessionClose s ok).run v = ipcAgmSessionClose e ok v := by
      simp only [Event.run, run_bind, run_get, Option.bind_some, he]
    -- without its filter the server has the same data and interfaces
    let v₁ : Server := { v with filters := (v.filters.reverse.eraseP fun f => f.2 = e).reverse }
    have hd₁ : v₁.data e = some d := hd
    cases ok with
    | false =>
      have hclose : ipcAgmSessionClose e false v = some (.error "agm_session_close failed.", v₁) := by
        simp only [ipcAgmSessionClose, run_bind, run_removeFilter, Option.bind_some]
        rw [run_readData hd₁]
        rfl
      exact ⟨fun _ => ⟨_, _, hrun.trans hclose, hv.removeFilter e, fun _ => ⟨rfl, rfl, rfl, fun _ _ h _ => h⟩⟩,
        fun h => absurd (fun h' => (nomatch h')) h⟩
    | true =>
      let v₂ : Server := { v₁ with data := Function.update v.data e (some { d with callbacks := none }) }
      have hpath₂ : v₂.userdataAt d.objPath = some e := by rw [hmade, ← hpath]; exact he
      have hclose : ipcAgmSessionClose e true v = none := by
        simp only [ipcAgmSessionClose, run_bind, run_removeFilter, Option.bind_some]
        rw [run_readData hd₁]
        simp only [Option.bind_some, not_true_eq_false, if_false, run_bind]
        rw [run_readCallbacks hd₁ hcbs, Option.bind_some, run_writeData hd₁, Option.bind_some]
        exact congrArg (Option.bind · _) (run_agmDbusRemoveInterface hpath₂)
      refine ⟨fun h => absurd ((h rfl).symm.trans ho) (Option.some_ne_none o).symm, fun _ r w hw => ?_⟩
      rw [hrun, hclose] at hw
      cases hw

theorem settled_disconnected {v : Server} (hv : v.Good) : Settled v .disconnected := by
  have hrun : Event.disconnected.run v = (runFilters v.filters v).bind fun p => some (.unhandled, p.2) := rfl
  cases hf : v.filters with
  | nil =>
    rw [hf] at hrun
    exact ⟨fun _ => ⟨_, v, hrun, hv, fun _ => ⟨rfl, rfl, rfl, fun _ _ h _ => h⟩⟩, fun h => absurd hf h⟩
  | cons f fs =>
    have hmem : f ∈ v.filters := hf ▸ List.mem_cons_self
    obtain ⟨s, hs⟩ := hv.filters f hmem
    obtain ⟨he, d, hd, hid⟩ := (hv.right.table s f.2).1 hs
    obtain ⟨hmade, cbs, hcbs⟩ := hv.made f.2 d hd
    -- the first filter takes its interface out
    let v₁ : Server := { v with data := Function.update v.data f.2 (some { d with callbacks := none }) }
    let v₂ : Server := { v₁ with filters := (v.filters.reverse.eraseP fun g => g.2 = f.2).reverse }
    have hpath₂ : v₂.userdataAt d.objPath = some f.2 := by rw [hmade, hid]; exact he
    have hfirst : disconnectionFilterCb f.2 v = none := by
      simp only [disconnectionFilterCb, run_bind, run_readData hd, Option.bind_some, run_readCallbacks hd hcbs,
        run_writeData hd, run_removeFilter]
      exact congrArg (Option.bind · _) (run_agmDbusRemoveInterface hpath₂)
    have hnone : runFilters (f :: fs) v = none := by
      simp only [runFilters, run_bind, run_get, Option.bind_some, if_pos hmem, hfirst, Option.bind_none]
    rw [hf, hnone] at hrun
    exact ⟨fun h => absurd (hf.symm.trans h) (List.cons_ne_nil f fs), fun _ r w hw => (nomatch hrun.symm.trans hw)⟩

theorem settled {v : Server} (hv : v.Good) (ev : Event) : Settled v ev := by
  cases ev with
  | sessionOpen s answer => exact settled_open hv s answer
  | sessionClose s ok => exact settled_close hv s ok
  | sessionRegisterCb s eventType clientData ok => exact settled_registerCb hv s eventType clientData ok
  | sessionDeregisterCb s eventType clientData ok => exact settled_deregisterCb hv s eventType clientData ok
  | disconnected => exact settled_disconnected hv

/-! ## Runs -/

theorem good_start : Server.Good {} where
  right := {
    table := fun _ _ => ⟨fun h => (nomatch h), fun h => (nomatch h.1)⟩
    owned := fun _ _ h => (nomatch h)
    objects := fun _ _ h => (nomatch h) }
  made := fun _ _ h => (nomatch h)
  fresh := fun _ _ => ⟨rfl, rfl, rfl⟩
  filters := fun _ h => absurd h List.not_mem_nil

theorem staysRight_iff {v : Server} (hv : v.Good) (evs : List Event) : v.StaysRight evs ↔ v.AllSpared evs := by
  induction evs generalizing v with
  | nil => exact Iff.rfl
  | cons ev evs ih =>
    obtain ⟨hspared, hnot⟩ := settled hv ev
    constructor
    · rintro ⟨r, v', hrun, hright, -, hrest⟩
      have hev : ev.Spared v := by
        by_contra h
        exact hnot h r v' hrun hright
      obtain ⟨r₁, v₁, hrun₁, hgood, -⟩ := hspared hev
      refine ⟨hev, fun r₂ v₂ hrun₂ => ?_⟩
      cases hrun₂.symm.trans hrun
      cases hrun₁.symm.trans hrun
      exact (ih hgood).1 hrest
    · rintro ⟨hev, hrest⟩
      obtain ⟨r, v', hrun, hgood, hfailed⟩ := hspared hev
      exact ⟨r, v', hrun, hgood.right, hfailed, (ih hgood).2 (hrest r v' hrun)⟩

/-- Two sessions with one path cannot both be open. -/
theorem not_staysRight_of_path_eq {s s' : UInt32} (hpath : sessionPath s' = sessionPath s) (hne : s' ≠ s)
    (handle handle' : UInt64) :
    ¬ Server.StaysRight {} [.sessionOpen s (some handle), .sessionOpen s' (some handle')] := by
  rw [staysRight_iff good_start]
  rintro ⟨-, h⟩
  have hfree := (h _ _ rfl).1.2 (Function.update_of_ne hne _ _)
  have hsome : Function.update (fun _ => none) (sessionPath s) (some 2) (sessionPath s') = none := hfree
  rw [hpath, Function.update_self] at hsome
  cases hsome

/-- **The sessions of the D-Bus server.**  Table and registry agree in every state of a run, everything in them is alive
and released at most once, and what fails changes nothing, exactly if no event of the run takes an interface out of the
registry or adds a session whose path another one has. -/
theorem dbus_sessions_right_iff (evs : List Event) : Server.StaysRight {} evs ↔ Server.AllSpared {} evs :=
  staysRight_iff good_start evs

/-- There is room for `-214748364` only. -/
theorem sessionPath_eq : sessionPath 2147483649 = sessionPath 2147483648 := by
  have h₁ : CString.decimal (2147483648 : UInt32).toNat = "2147483648".toList := by decide +kernel
  have h₂ : CString.decimal (2147483649 : UInt32).toNat = "2147483649".toList := by decide +kernel
  have h₃ : CString.decimal (2 ^ 32 - (2147483648 : UInt32).toNat) = "2147483648".toList := by decide +kernel
  have h₄ : CString.decimal (2 ^ 32 - (2147483649 : UInt32).toNat) = "2147483647".toList := by decide +kernel
  unfold sessionPath percentD
  rw [if_neg (by decide), if_neg (by decide), h₁, h₂, h₃, h₄]
  decide

/-- A session that is opened and closed, and two sessions with one path. -/
theorem dbus_sessions_wrong :
    ¬ Server.StaysRight {} [.sessionOpen 5 (some 1), .sessionClose 5 true] ∧
      ¬ Server.StaysRight {} [.sessionOpen 2147483648 (some 1), .sessionOpen 2147483649 (some 2)] := by
  refine ⟨fun h => ?_, fun h => ?_⟩
  · obtain ⟨-, h⟩ := (staysRight_iff good_start _).1 h
    exact absurd ((h _ _ rfl).1 rfl) (by decide +kernel)
  · exact not_staysRight_of_path_eq sessionPath_eq (by decide) 1 2 h

end Agm.Ipc.Dbus
