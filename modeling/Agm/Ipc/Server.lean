import Agm.Service.Ops

/-!
# The HwBinder server

`agm_server_wrapper.cpp`: what the server keeps of its clients, and what its requests ask of the service.  A request first
changes the lists of its client, with `client_list_lock` held, and then calls the service, so requests of several threads
come in between.  The service's functions hold the lock of their session and are one step.

`client_list` holds a list of sessions for each client.  Only those of one process are looked at together, so they are kept
in one list here, each with its process; those of a process stand in the order of its own list.
-/

namespace Agm.Ipc

open Agm.Lib Agm.Service

/-! ## What is kept of the clients -/

/-- `agm_client_session_handle`.  A handle is the address of a session object, which is never freed while the service runs,
so its session stands for it; no handle is zero. -/
structure ClientSession where
  pid : Nat
  sessionId : SessId
  handle : Option SessId := none
  aifIdList : List Nat := []
  deriving DecidableEq, Repr

/-- The entry of a process for a session. -/
def ClientSession.is (pid : Nat) (s : SessId) (e : ClientSession) : Bool := e.pid = pid && e.sessionId = s

/-- `get_session_handle_l`: it is created if there is none. -/
def getSessionHandle (pid : Nat) (s : SessId) (l : List ClientSession) : List ClientSession :=
  if l.any (ClientSession.is pid s) then l else l ++ [{ pid := pid, sessionId := s }]

/-- Change the entry of a process for a session. -/
def onSession (pid : Nat) (s : SessId) (f : ClientSession → ClientSession) (l : List ClientSession) : List ClientSession :=
  (getSessionHandle pid s l).map fun e => if e.is pid s then f e else e

/-- `add_session_aif_to_list_l`. -/
def addSessionAifToList (pid : Nat) (s : SessId) (aifId : Nat) : List ClientSession → List ClientSession :=
  onSession pid s fun e => if aifId ∈ e.aifIdList then e else { e with aifIdList := e.aifIdList ++ [aifId] }

/-- `remove_session_aif_from_list_l`. -/
def removeSessionAifFromList (pid : Nat) (s : SessId) (aifId : Nat) : List ClientSession → List ClientSession :=
  onSession pid s fun e => { e with aifIdList := e.aifIdList.erase aifId }

/-- `add_session_handle_to_list_l`. -/
def addSessionHandleToList (pid : Nat) (s : SessId) : List ClientSession → List ClientSession :=
  onSession pid s fun e => { e with handle := some s }

/-- The walk of `ipc_agm_session_close`: the caller's first entry with the handle goes. -/
def removeHandle (pid : Nat) (hndl : Option SessId) (l : List ClientSession) : List ClientSession :=
  l.eraseP fun e => e.pid = pid && e.handle = hndl

/-- An entry of `clbk_data_list` with its `SrvrClbk`; `addr` tells the latter from all others there ever were. -/
structure SrvrClbk where
  addr : Nat
  pid : Nat
  sessionId : SessId
  event : Nat
  clntData : Nat
  deriving DecidableEq, Repr

/-! ## The service -/

/-- The service, with the callbacks of each session: event types and client data. -/
structure Backend where
  world : World
  cbPool : SessId → List (Nat × Nat)

/-- What the server asks of the service. -/
inductive Call
  | op (s : SessId) (op : Op)
  | register (s : SessId) (event addr : Nat)
  | unregister (s : SessId) (event addr : Nat)
  deriving DecidableEq, Repr

def Call.session : Call → SessId
  | .op s _ => s
  | .register s _ _ => s
  | .unregister s _ _ => s

/-- `session_obj_register_cb` on the callbacks of the session. -/
def Backend.onCbs (b : Backend) (s : SessId) (f : List (Nat × Nat) → List (Nat × Nat)) : Backend where
  world := b.world.get s
  cbPool x := if x = s then f (b.cbPool s) else b.cbPool x

/-- A call of the service, with its result. -/
def Backend.call (b : Backend) : Call → Option (Int × Backend)
  | .op s op => (exec (s, op) b.world).map fun p => (p.1, { b with world := p.2 })
  | .register s event addr => some (0, b.onCbs s (· ++ [(event, addr)]))
  | .unregister s event addr => some (0, b.onCbs s (List.filter fun cb => cb ≠ (event, addr)))

/-! ## Requests -/

/-- The requests.  Of the metadata the server looks at `NUM_GKV` only; what `metadata_copy` makes of them is an argument,
as in `Op`.  `other` are the requests that go to the service as they are. -/
inductive IpcRequest
  | sessionSetMetadata (s : SessId) (numGkv : Nat) (ret : Int) (md : Metadata)
  | sessionAifSetMetadata (s : SessId) (aifId numGkv : Nat) (ret : Int) (md : Metadata)
  | sessionAifConnect (s : SessId) (aifId : Nat) (state : Bool)
  | sessionOpen (s : SessId) (mode : SessMode)
  | sessionClose (hndl : Option SessId)
  | sessionRegisterCallback (s : SessId) (event : Nat) (ipcClientData : Bool) (clntData : Nat)
  | other (s : SessId) (op : Op)
  deriving DecidableEq, Repr

/-- The request puts the session into the caller's list. -/
def IpcRequest.names (s : SessId) : IpcRequest → Bool
  | .sessionSetMetadata s' numGkv _ _ => s' = s && numGkv ≠ 0
  | .sessionAifSetMetadata s' _ numGkv _ _ => s' = s && numGkv ≠ 0
  | .sessionAifConnect s' _ _ => s' = s
  | .sessionOpen s' _ => s' = s
  | _ => false

/-- What a request has still to do after its walk over the lists.  A deregistration calls the service and then takes its
entry out of the list; it makes the stores of `list_remove` without `clbk_data_list_lock`, so others come in between. -/
inductive Pending
  | call (c : Call)
  | open (s : SessId) (mode : SessMode)
  | deregister (clbk : SrvrClbk)
  | listRemove (clbk : SrvrClbk)
  | removing (clbk : SrvrClbk)
  deriving DecidableEq, Repr

/-! ## The death of a client -/

/-- Where `serviceDied` is: at the callbacks, between two sessions, in a session without the lock of the list, and in a
session with it. -/
inductive Phase
  | callbacks | between
  | closing (s : SessId) | clearing (s : SessId)
  deriving DecidableEq, Repr

/-- The clean-up after a client, with the calls it makes next. -/
structure Cleanup where
  pid : Nat
  phase : Phase := .callbacks
  calls : List Call
  deriving DecidableEq, Repr

/-- The session whose entry is locked. -/
def Cleanup.locked (cl : Cleanup) : Option SessId :=
  match cl.phase with
  | .closing s | .clearing s => some s
  | _ => none

/-- What is cleared of a session.  A client without a handle has its back ends disconnected. -/
def ClientSession.clearing (e : ClientSession) (hadHandle : Bool) : List Call :=
  (e.aifIdList.flatMap fun aifId =>
    .op e.sessionId (.setSessAifParams aifId []) ::
      ((if hadHandle then [] else [.op e.sessionId (.sessAifConnect aifId false)]) ++
        [.op e.sessionId (.setSessAifMetadata aifId 0 {})])) ++
    [.op e.sessionId (.setSessMetadata 0 {}), .op e.sessionId (.setSessParams [])]

/-! ## The server -/

structure Server where
  sessions : List ClientSession := []
  clbkDataList : List SrvrClbk := []
  /-- `client_list_lock` is held by a clean-up -/
  listLock : Bool := false
  service : Backend
  inFlight : List (Nat × Pending) := []
  cleanups : List Cleanup := []
  /-- what was requested so far, and by whom -/
  requested : List (Nat × IpcRequest) := []
  /-- the callbacks that clients have registered so far -/
  registered : List SrvrClbk := []

/-- The walk of a request over the lists; `none` while it waits for a lock. -/
def Server.walk (pid : Nat) (v : Server) : IpcRequest → Option (Server × Option Pending)
  | .sessionSetMetadata s numGkv ret md =>
    if v.listLock then none
    else some ({ v with sessions := if numGkv ≠ 0 then getSessionHandle pid s v.sessions else v.sessions },
      some (.call (.op s (.setSessMetadata ret md))))
  | .sessionAifSetMetadata s aifId numGkv ret md =>
    if v.listLock then none
    else some ({ v with sessions := if numGkv ≠ 0 then addSessionAifToList pid s aifId v.sessions else v.sessions },
      some (.call (.op s (.setSessAifMetadata aifId ret md))))
  | .sessionAifConnect s aifId state =>
    if v.listLock then none
    else some ({ v with sessions := if state then addSessionAifToList pid s aifId v.sessions
                                    else removeSessionAifFromList pid s aifId v.sessions },
      some (.call (.op s (.sessAifConnect aifId state))))
  | .sessionOpen s mode =>
    if v.listLock then none
    else some ({ v with sessions := getSessionHandle pid s v.sessions }, some (.open s mode))
  | .sessionClose hndl =>
    -- the entries of the caller are locked in turn, and that of a clean-up is the first
    if v.listLock ∨ v.cleanups.any (fun cl => cl.pid = pid && cl.locked.isSome) then none
    else some ({ v with sessions := removeHandle pid hndl v.sessions }, hndl.map fun s => .call (.op s .close))
  | .sessionRegisterCallback s event ipcClientData clntData =>
    if ipcClientData then
      let clbk : SrvrClbk := ⟨v.registered.length, pid, s, event, clntData⟩
      some ({ v with clbkDataList := v.clbkDataList ++ [clbk], registered := v.registered ++ [clbk] },
        some (.call (.register s event clbk.addr)))
    else
      -- the callback may be another client's
      some (v, (v.clbkDataList.find? fun k => k.sessionId = s && k.event = event && k.clntData = clntData).map .deregister)
  | .other s op => some (v, some (.call (.op s op)))

/-- A request comes in. -/
def Server.begin (pid : Nat) (req : IpcRequest) (v : Server) : Option Server :=
  (v.walk pid req).map fun p =>
    { p.1 with inFlight := p.1.inFlight ++ (p.2.map fun pending => (pid, pending)).toList,
               requested := p.1.requested ++ [(pid, req)] }

/-- The rest of a request. -/
def Server.finish (pid : Nat) (v : Server) : Pending → Option Server
  | .call c => (v.service.call c).map fun p => { v with service := p.2 }
  | .open s mode =>
    -- the entry is locked; one that a clean-up has freed meanwhile is created again
    if v.cleanups.any (fun cl => cl.pid = pid && cl.locked = some s) then none
    else (v.service.call (.op s (.open mode))).map fun (r : Int × Backend) =>
      { v with service := r.2, sessions := if r.1 = 0 then addSessionHandleToList pid s v.sessions else v.sessions }
  | .deregister clbk => (v.service.call (.unregister clbk.sessionId clbk.event clbk.addr)).map fun p =>
      { v with service := p.2, inFlight := v.inFlight ++ [(pid, .listRemove clbk)] }
  | .listRemove clbk => some { v with inFlight := v.inFlight ++ [(pid, .removing clbk)] }
  -- the entry is gone with the last store
  | .removing clbk => some { v with clbkDataList := v.clbkDataList.erase clbk }

/-- `serviceDied` begins; its client has no other clean-up. -/
def Server.die (pid : Nat) (v : Server) : Option Server :=
  if v.cleanups.any (fun cl => cl.pid = pid) then none
  else
    let calls := (v.clbkDataList.filter fun k => k.pid = pid).map fun k => Call.unregister k.sessionId k.event k.addr
    some { v with clbkDataList := v.clbkDataList.filter fun k => k.pid ≠ pid,
                  cleanups := v.cleanups ++ [{ pid := pid, calls := calls }] }

/-- The clean-up of a client goes on. -/
def Server.withCleanup (v : Server) (pid : Nat) (cl : Cleanup) : Server :=
  { v with cleanups := v.cleanups.map fun cl' => if cl'.pid = pid then cl else cl' }

/-- The next step of `serviceDied` between two calls of the service. -/
def Server.cleanLists (pid : Nat) (cl : Cleanup) (v : Server) : Option Server :=
  match cl.phase with
  | .callbacks => if v.listLock then none else some { v.withCleanup pid { cl with phase := .between } with listLock := true }
  | .between =>
    match v.sessions.find? fun e => e.pid = pid with
    | none => some { v with cleanups := v.cleanups.filter fun cl' => cl'.pid ≠ pid, listLock := false }
    | some e =>
      match e.handle with
      | some h => some { v.withCleanup pid { cl with phase := .closing e.sessionId, calls := [.op h .close] } with
                         listLock := false }
      | none => some (v.withCleanup pid { cl with phase := .clearing e.sessionId, calls := e.clearing false })
  | .closing s =>
    if v.listLock then none
    else (v.sessions.find? fun e => e.is pid s).map fun e =>
      { v.withCleanup pid { cl with phase := .clearing s, calls := e.clearing true } with
        listLock := true, sessions := onSession pid s (fun e => { e with handle := none }) v.sessions }
  | .clearing s => some { v.withCleanup pid { cl with phase := .between } with
                          sessions := v.sessions.eraseP fun e => e.is pid s }

/-- The next step of `serviceDied`. -/
def Server.clean (pid : Nat) (v : Server) : Option Server :=
  (v.cleanups.find? fun cl => cl.pid = pid).bind fun cl =>
    match cl.calls with
    | c :: cs => (v.service.call c).map fun p => { v.withCleanup pid { cl with calls := cs } with service := p.2 }
    | [] => v.cleanLists pid cl

/-- What happens next in the server: a request comes in or goes on, a client dies, or a clean-up goes on. -/
inductive Event
  | begin (pid : Nat) (req : IpcRequest)
  | finish (i : Nat)
  | die (pid : Nat)
  | clean (pid : Nat)
  deriving DecidableEq, Repr

def serverExec (ev : Event) (v : Server) : Option (Unit × Server) :=
  (match ev with
    | .begin pid req => v.begin pid req
    | .finish i => v.inFlight[i]?.bind fun p => Server.finish p.1 { v with inFlight := v.inFlight.eraseIdx i } p.2
    | .die pid => v.die pid
    | .clean pid => v.clean pid).map fun v => ((), v)

/-- A server that has just come up. -/
def Server.boot (env : Kind → List Int) : Server := { service := ⟨World.boot env, fun _ => []⟩ }

end Agm.Ipc
