import Agm.Lib.Locks
import Agm.Lib.Runs
import Agm.Lib.Slots
import Agm.Ipc.Server
import Agm.Ipc.SwCallbacks

/-!
# The locks of the HwBinder server and of the sessions

The server holds `client_list_lock` while it locks the entries of a client one by one, and a clean-up keeps it in its calls
of the service but for the close of a session.  The service calls back with `cb_pool_lock` held, a flush with the session
lock too, and the callback takes `client_list_lock`.

A thread is at a point between two operations on locks.  The locks of the session pool, of devices and of graphs are left
out: none of the locks here is waited for while one of them is held.
-/

namespace Agm.Ipc

open Agm.Lib Agm.Service

/-- The lock of an entry of a client is told by its process and session, those of a session by the session. -/
inductive SrvLock
  | clientList
  | handle (pid : Nat) (s : SessId)
  | clbkDataList
  | session (s : SessId)
  | cbPool (s : SessId)
  deriving DecidableEq, Repr

/-- The other handlers that take `client_list_lock`, with what they do under it. -/
inductive ListRequest
  | setMetadata (s : SessId) (hasKeys : Bool)
  | aifSetMetadata (s : SessId) (aifId : Nat) (hasKeys : Bool)
  | aifConnect (s : SessId) (aifId : Nat) (state : Bool)
  | addFd (s : SessId)
  | registerCallback
  deriving DecidableEq, Repr

/-- The session of the call of the service that follows. -/
def ListRequest.session : ListRequest → Option SessId
  | .setMetadata s _ => some s
  | .aifSetMetadata s _ _ => some s
  | .aifConnect s _ _ => some s
  | .addFd s => some s
  | .registerCallback => none

/-- An entry that a clean-up is at, and the one that it goes to next. -/
structure Visit where
  pid : Nat
  s : SessId
  next : Option SessId
  deriving DecidableEq, Repr

/-- A walk over the callbacks of a session, of a flush or of the callback of GSL. -/
structure ClbkWalk where
  s : SessId
  event : SessionEvent
  rest : List SrvrClbk
  deriving DecidableEq, Repr

/-- How far a thread has come. -/
inductive SrvPoint
  | open (pid : Nat) (s : SessId) | openListed (pid : Nat) (s : SessId) | openEntry (pid : Nat) (s : SessId)
  | openSession (pid : Nat) (s : SessId) | openHeld (pid : Nat) (s : SessId) | openLeave (pid : Nat) (s : SessId) (ret : Int)
  | close (pid : Nat) (hndl : Option SessId) | closeWalk (pid : Nat) (hndl next : Option SessId)
  | closeEntry (pid : Nat) (hndl : Option SessId) (s : SessId) | closeHeld (pid : Nat) (hndl : Option SessId) (s : SessId)
  | died (pid : Nat) | diedClbks (pid : Nat) (rest : List SrvrClbk)
  | diedPool (pid : Nat) (k : SrvrClbk) (rest : List SrvrClbk) | diedPoolHeld (pid : Nat) (k : SrvrClbk) (rest : List SrvrClbk)
  | diedList (pid : Nat) | diedWalk (pid : Nat) (next : Option SessId) | diedEntry (v : Visit) | diedHeld (v : Visit)
  | diedClose (v : Visit) (hndl : SessId) | diedClosing (v : Visit) (hndl : SessId) | diedRelock (v : Visit)
  | diedClear (v : Visit) (locked : Bool) (calls : Nat) | diedCall (v : Visit) (locked : Bool) (calls : Nat)
  | diedCalling (v : Visit) (locked : Bool) (calls : Nat)
  | event (s : SessId) (src id : Nat) (payload : List UInt8) | walk (w : ClbkWalk) | cb (w : ClbkWalk) (k : SrvrClbk)
  | cbListed (w : ClbkWalk) (k : SrvrClbk) | cbFd (w : ClbkWalk) | cbFdListed (w : ClbkWalk)
  | flush (s : SessId) | flushGraph (s : SessId) | flushPool (s : SessId) | flushLeave (s : SessId)
  | register (k : SrvrClbk) | registerListed (k : SrvrClbk) | registerPool (k : SrvrClbk) | registerHeld (k : SrvrClbk)
  | deregister (s : SessId) (event clntData : Nat) | deregisterListed (s : SessId) (event clntData : Nat)
  | deregisterPool (k : SrvrClbk) | deregisterHeld (k : SrvrClbk)
  | note (pid : Nat) (r : ListRequest) | noted (pid : Nat) (r : ListRequest)
  | call (s : SessId) | calling (s : SessId)
  | returned
  deriving DecidableEq, Repr

/-- The locks that a walk runs under. -/
def ClbkWalk.under (w : ClbkWalk) : List SrvLock :=
  if w.event = .flush then [.cbPool w.s, .session w.s] else [.cbPool w.s]

def Visit.lock (v : Visit) : SrvLock := .handle v.pid v.s

/-- The locks a thread holds. -/
def SrvPoint.holds : SrvPoint → List SrvLock
  | .openListed _ _ | .closeWalk _ _ _ | .closeEntry _ _ _ | .diedWalk _ _ | .diedEntry _ | .noted _ _ => [.clientList]
  | .openSession pid s | .openLeave pid s _ => [.handle pid s]
  | .openHeld pid s => [.session s, .handle pid s]
  | .closeHeld pid _ s => [.handle pid s, .clientList]
  | .diedClbks _ _ | .diedPool _ _ _ | .registerListed _ | .deregisterListed _ _ _ => [.clbkDataList]
  | .diedPoolHeld _ k _ => [.cbPool k.sessionId, .clbkDataList]
  | .diedHeld v => [v.lock, .clientList]
  | .diedClose v _ | .diedRelock v => [v.lock]
  | .diedClosing v hndl => [.session hndl, v.lock]
  | .diedClear v locked _ | .diedCall v locked _ => if locked then [v.lock, .clientList] else [.clientList]
  | .diedCalling v locked _ => .session v.s :: if locked then [v.lock, .clientList] else [.clientList]
  | .walk w | .cb w _ | .cbFd w => w.under
  | .cbListed w _ | .cbFdListed w => .clientList :: w.under
  | .flushGraph s | .flushPool s | .flushLeave s | .calling s => [.session s]
  | .registerHeld k | .deregisterHeld k => [.cbPool k.sessionId]
  | _ => []

/-- The lock a thread takes next. -/
def SrvPoint.wants : SrvPoint → Option SrvLock
  | .open _ _ | .close _ _ | .diedList _ | .diedRelock _ | .cb _ _ | .cbFd _ | .note _ _ => some .clientList
  | .openEntry pid s | .closeEntry pid _ s => some (.handle pid s)
  | .diedEntry v => some v.lock
  | .openSession _ s | .diedClose _ s | .flush s | .call s => some (.session s)
  | .diedCall v _ _ => some (.session v.s)
  | .died _ | .register _ | .deregister _ _ _ => some .clbkDataList
  | .diedPool _ k _ | .registerPool k | .deregisterPool k => some (.cbPool k.sessionId)
  | .event s _ _ _ | .flushPool s => some (.cbPool s)
  | _ => none

/-- The lists of the server, the callbacks of the sessions, and the threads. -/
structure SrvProcess where
  sessions : List ClientSession := []
  /-- the clients with a `clbk_binder` -/
  binders : List Nat := []
  clbkDataList : List SrvrClbk := []
  cbPool : List SrvrClbk := []
  threads : List SrvPoint := []
  deriving DecidableEq, Repr

/-! ## Steps -/

/-- The first entry of a client. -/
def firstEntry (pid : Nat) (l : List ClientSession) : Option SessId :=
  (l.find? fun e => e.pid = pid).map ClientSession.sessionId

/-- The entry of a client behind that for a session. -/
def nextEntry (pid : Nat) (s : SessId) (l : List ClientSession) : Option SessId :=
  firstEntry pid ((l.dropWhile fun e => ! e.is pid s).drop 1)

/-- `ipc_agm_session_open`; `ret` is what the service returns. -/
def nextOpen (ret : Int) (p : SrvProcess) : SrvPoint → Option (SrvPoint × SrvProcess)
  | .open pid s => some (.openListed pid s, p)
  | .openListed pid s => some (.openEntry pid s, { p with sessions := getSessionHandle pid s p.sessions })
  | .openEntry pid s => if p.sessions.any (ClientSession.is pid s) then some (.openSession pid s, p) else none
  | .openSession pid s => some (.openHeld pid s, p)
  | .openHeld pid s => some (.openLeave pid s ret, p)
  | .openLeave pid s ret =>
    some (.returned, if ret = 0 then { p with sessions := addSessionHandleToList pid s p.sessions } else p)
  | _ => none

/-- `ipc_agm_session_close`. -/
def nextClose (p : SrvProcess) : SrvPoint → Option (SrvPoint × SrvProcess)
  | .close pid hndl => some (.closeWalk pid hndl (firstEntry pid p.sessions), p)
  | .closeWalk pid hndl (some s) => some (.closeEntry pid hndl s, p)
  | .closeWalk _ hndl none => some (hndl.elim .returned .call, p)
  | .closeEntry pid hndl s => some (.closeHeld pid hndl s, p)
  | .closeHeld pid hndl s =>
    if p.sessions.any fun e => e.is pid s && e.handle = hndl then
      some (.closeWalk pid hndl none, { p with sessions := p.sessions.eraseP (ClientSession.is pid s) })
    else some (.closeWalk pid hndl (nextEntry pid s p.sessions), p)
  | _ => none

/-- `serviceDied`.  An entry that another thread has freed brings down the process. -/
def nextDied (p : SrvProcess) : SrvPoint → Option (SrvPoint × SrvProcess)
  | .died pid => some (.diedClbks pid (p.clbkDataList.filter fun k => k.pid = pid), p)
  | .diedClbks pid [] => some (.diedList pid, p)
  | .diedClbks pid (k :: rest) => some (.diedPool pid k rest, p)
  | .diedPool pid k rest => some (.diedPoolHeld pid k rest, p)
  | .diedPoolHeld pid k rest =>
    some (.diedClbks pid rest, { p with cbPool := p.cbPool.filter (· ≠ k), clbkDataList := p.clbkDataList.erase k })
  | .diedList pid => some (.diedWalk pid (firstEntry pid p.sessions), p)
  | .diedWalk pid none => some (.returned, { p with binders := p.binders.filter (· ≠ pid) })
  | .diedWalk pid (some s) =>
    if p.sessions.any (ClientSession.is pid s) then some (.diedEntry ⟨pid, s, nextEntry pid s p.sessions⟩, p) else none
  | .diedEntry v => some (.diedHeld v, p)
  | .diedHeld v => (p.sessions.find? (ClientSession.is v.pid v.s)).map fun e =>
      (match e.handle with
        | some hndl => .diedClose v hndl
        | none => .diedClear v true (3 * e.aifIdList.length), p)
  | .diedClose v hndl => some (.diedClosing v hndl, p)
  | .diedClosing v _ => some (.diedRelock v, p)
  | .diedRelock v => (p.sessions.find? (ClientSession.is v.pid v.s)).map fun e =>
      (.diedClear v true (2 * e.aifIdList.length), p)
  | .diedClear v locked (n + 1) => some (.diedCall v locked n, p)
  | .diedClear v true 0 =>
    -- the session's own metadata and parameters are cleared without the lock of the entry
    some (.diedClear v false 2, { p with sessions := onSession v.pid v.s (fun e => { e with handle := none }) p.sessions })
  | .diedClear v false 0 =>
    some (.diedWalk v.pid v.next, { p with sessions := p.sessions.eraseP (ClientSession.is v.pid v.s) })
  | .diedCall v locked n => some (.diedCalling v locked n, p)
  | .diedCalling v locked n => some (.diedClear v locked n, p)
  | _ => none

/-- The event has a buffer whose descriptor is looked for. -/
def SessionEvent.hasBuffer : SessionEvent → Bool
  | .graph _ id payload => payload ≠ [] && (id = AGM_EVENT_READ_DONE || id = AGM_EVENT_WRITE_DONE)
  | .flush => false

/-- `graph_event_cb`, the walk over `cb_pool`, and `ipc_callback`. -/
def nextEvent (p : SrvProcess) : SrvPoint → Option (SrvPoint × SrvProcess)
  | .event s src id payload =>
    let ev := SessionEvent.graph src id payload
    some (.walk ⟨s, ev, p.cbPool.filter fun k => k.sessionId = s && ev.isFor k.event⟩, p)
  | .walk w =>
    match w.rest with
    | [] => some (if w.event = .flush then .flushLeave w.s else .returned, p)
    | k :: rest => some (.cb { w with rest := rest } k, p)
  | .cb w k => some (.cbListed w k, p)
  | .cbListed w k => some (if p.binders.contains k.pid && w.event.hasBuffer then .cbFd w else .walk w, p)
  | .cbFd w => some (.cbFdListed w, p)
  | .cbFdListed w => some (.walk w, p)
  | _ => none

/-- `session_obj_flush`; `ret` is what `graph_flush` returns. -/
def nextFlushed (ret : Int) (p : SrvProcess) : SrvPoint → Option (SrvPoint × SrvProcess)
  | .flush s => some (.flushGraph s, p)
  | .flushGraph s => some (if ret ≠ 0 then .flushLeave s else .flushPool s, p)
  | .flushPool s => some (.walk ⟨s, .flush, p.cbPool.filter fun k => k.sessionId = s⟩, p)
  | .flushLeave _ => some (.returned, p)
  | _ => none

/-- `ipc_agm_session_register_callback`. -/
def nextRegister (p : SrvProcess) : SrvPoint → Option (SrvPoint × SrvProcess)
  | .register k => some (.registerListed k, p)
  | .registerListed k => some (.registerPool k, { p with clbkDataList := p.clbkDataList ++ [k] })
  | .registerPool k => some (.registerHeld k, p)
  | .registerHeld k => some (.returned, { p with cbPool := p.cbPool ++ [k] })
  | .deregister s event clntData => some (.deregisterListed s event clntData, p)
  | .deregisterListed s event clntData =>
    some (((p.clbkDataList.find? fun k => k.sessionId = s && k.event = event && k.clntData = clntData).elim
      .returned .deregisterPool), p)
  | .deregisterPool k => some (.deregisterHeld k, p)
  | .deregisterHeld k => some (.returned, { p with cbPool := p.cbPool.filter (· ≠ k), clbkDataList := p.clbkDataList.erase k })
  | _ => none

def ListRequest.apply (pid : Nat) (p : SrvProcess) : ListRequest → SrvProcess
  | .setMetadata s hasKeys => if hasKeys then { p with sessions := getSessionHandle pid s p.sessions } else p
  | .aifSetMetadata s aifId hasKeys => if hasKeys then { p with sessions := addSessionAifToList pid s aifId p.sessions } else p
  | .aifConnect s aifId state =>
    if state then { p with sessions := addSessionAifToList pid s aifId p.sessions }
    else { p with sessions := removeSessionAifFromList pid s aifId p.sessions }
  | .addFd _ => p
  | .registerCallback => { p with binders := if p.binders.contains pid then p.binders else p.binders ++ [pid] }

/-- The other handlers. -/
def nextRequest (p : SrvProcess) : SrvPoint → Option (SrvPoint × SrvProcess)
  | .note pid r => some (.noted pid r, p)
  | .noted pid r => some (r.session.elim .returned .call, r.apply pid p)
  | .call s => some (.calling s, p)
  | .calling _ => some (.returned, p)
  | _ => none

/-- The next point of a thread; `ret` is what the service or the graph answers. -/
def nextSrvPoint (ret : Int) (p : SrvProcess) (pt : SrvPoint) : Option (SrvPoint × SrvProcess) :=
  (nextOpen ret p pt).or <| (nextClose p pt).or <| (nextDied p pt).or <| (nextEvent p pt).or <| (nextFlushed ret p pt).or <|
    (nextRegister p pt).or <| nextRequest p pt

/-- A lock that a thread wants is free. -/
def SrvProcess.grants (p : SrvProcess) (pt : SrvPoint) : Bool :=
  match pt.wants with
  | some l => p.threads.all fun pt' => ! pt'.holds.contains l
  | none => true

/-- What can happen: a thread begins, or takes a step. -/
inductive SrvOp
  | open (pid : Nat) (s : SessId)
  | close (pid : Nat) (hndl : Option SessId)
  | die (pid : Nat)
  | event (s : SessId) (src id : Nat) (payload : List UInt8)
  | flush (s : SessId)
  | register (k : SrvrClbk)
  | deregister (s : SessId) (event clntData : Nat)
  | note (pid : Nat) (r : ListRequest)
  | call (s : SessId)
  | step (i : Nat) (ret : Int)
  deriving DecidableEq, Repr

def SrvProcess.start (p : SrvProcess) (pt : SrvPoint) : SrvProcess := { p with threads := p.threads ++ [pt] }

def SrvProcess.step (p : SrvProcess) (i : Nat) (ret : Int) : Option SrvProcess :=
  (p.threads[i]?).bind fun pt =>
    if p.grants pt then (nextSrvPoint ret p pt).map fun q => { q.2 with threads := q.2.threads.set i q.1 } else none

/-- One step of the process. -/
def srvExec (op : SrvOp) (p : SrvProcess) : Option (Unit × SrvProcess) :=
  (match op with
    | .open pid s => some (p.start (.open pid s))
    | .close pid hndl => some (p.start (.close pid hndl))
    | .die pid => some (p.start (.died pid))
    | .event s src id payload => some (p.start (.event s src id payload))
    | .flush s => some (p.start (.flush s))
    | .register k => some (p.start (.register k))
    | .deregister s event clntData => some (p.start (.deregister s event clntData))
    | .note pid r => some (p.start (.note pid r))
    | .call s => some (p.start (.call s))
    | .step i ret => p.step i ret).map fun p => ((), p)

/-- A cycle of threads of which each waits for a lock of the next. -/
def SrvProcess.Deadlocked (p : SrvProcess) : Prop :=
  Deadlock (fun i l => ∃ pt, p.threads[i]? = some pt ∧ l ∈ pt.holds) (fun i : Nat => (p.threads[i]?).bind SrvPoint.wants)

/-! ## Waiting with the list locked -/

/-- The lock that a thread waits for with `client_list_lock` held. -/
def SrvPoint.asks (pt : SrvPoint) : Option SrvLock := if .clientList ∈ pt.holds then pt.wants else none

/-- A flush that has the session lock, up to its callbacks. -/
def SrvPoint.flushes (s : SessId) : SrvPoint → Bool
  | .flushGraph s' | .flushPool s' => s' = s
  | .walk w | .cb w _ | .cbListed w _ | .cbFd w | .cbFdListed w => w.event = .flush && w.s = s
  | _ => false

/-- A clean-up that keeps the lock of an entry while it has dropped `client_list_lock` to close the session. -/
def SrvPoint.keeps (pid : Nat) (s : SessId) : SrvPoint → Bool
  | .diedClose v _ | .diedClosing v _ | .diedRelock v => v.pid = pid && v.s = s
  | _ => false

/-- Whoever waits for the lock waits for `client_list_lock` in the end. -/
def SrvPoint.blocks (pt : SrvPoint) : SrvLock → Bool
  | .handle pid s => pt.flushes s || pt.keeps pid s
  | .session s => pt.flushes s
  | _ => false

/-- The lock that a thread with `client_list_lock` asks for in its next step. -/
def SrvPoint.goesFor : SrvPoint → Option SrvLock
  | .closeWalk pid _ (some s) | .diedWalk pid (some s) => some (.handle pid s)
  | .diedClear v _ (_ + 1) => some (.session v.s)
  | _ => none

/-- A flush that goes for the session lock. -/
def SrvPoint.willBlock : SrvPoint → SrvLock → Bool
  | .flush s => (SrvPoint.flushGraph s).blocks
  | _ => fun _ => false

/-- A close or a clean-up does not ask for a lock with `client_list_lock` held that a flush or another clean-up blocks, and a
flush does not take the session lock while one of them waits for a lock that it will block. -/
def srvGuard (p : SrvProcess) : SrvOp → Prop
  | .step i _ => ∀ pt ∈ p.threads[i]?, (∀ l ∈ pt.goesFor, ∀ pt' ∈ p.threads, pt'.blocks l = false) ∧
      ∀ pt' ∈ p.threads, ∀ l ∈ pt'.asks, pt.willBlock l = false
  | _ => True

instance (p : SrvProcess) (op : SrvOp) : Decidable (srvGuard p op) := by
  unfold srvGuard
  split <;> infer_instance

/-- One thread at most has `client_list_lock`, and what it waits for is not blocked. -/
structure SrvProcess.Apart (p : SrvProcess) : Prop where
  alone : ∀ (i j : Nat) (pt pt' : SrvPoint), p.threads[i]? = some pt → p.threads[j]? = some pt' →
    .clientList ∈ pt.holds → .clientList ∈ pt'.holds → i = j
  unblocked : ∀ pt ∈ p.threads, ∀ l ∈ pt.asks, ∀ pt' ∈ p.threads, pt'.blocks l = false

/-! ## The order -/

/-- The lock is one of the session, or one of an entry for it. -/
def SrvLock.isOf (s : SessId) : SrvLock → Bool
  | .handle _ s' | .session s' => s' = s
  | _ => false

/-- The order of the locks while a thread waits for `asked` with `client_list_lock` held: what it waits for, and the session
lock behind it, come after `client_list_lock`, the others before it. -/
def SrvLock.rank (asked : Option SrvLock) : SrvLock → Nat
  | .clbkDataList => 0
  | .handle pid s => if asked = some (.handle pid s) then 5 else 1
  | .session s => if asked.any (·.isOf s) then 6 else 2
  | .cbPool _ => 3
  | .clientList => 4

section

variable {asked : Option SrvLock} {pid : Nat} {s : SessId}

@[simp] theorem SrvLock.rank_clbkDataList : SrvLock.clbkDataList.rank asked = 0 := rfl

@[simp] theorem SrvLock.rank_cbPool : (SrvLock.cbPool s).rank asked = 3 := rfl

@[simp] theorem SrvLock.rank_clientList : SrvLock.clientList.rank asked = 4 := rfl

theorem SrvLock.two_le_rank_session : 2 ≤ (SrvLock.session s).rank asked := by
  show 2 ≤ if _ then 6 else 2
  split <;> decide

theorem SrvLock.rank_handle_lt_session : (SrvLock.handle pid s).rank asked < (SrvLock.session s).rank asked := by
  unfold SrvLock.rank
  dsimp only
  by_cases h : asked = some (.handle pid s)
  · rw [if_pos h, h]
    simp [SrvLock.isOf]
  · rw [if_neg h]
    split <;> omega

theorem SrvLock.rank_handle_lt_of_ne (h : asked ≠ some (.handle pid s)) : (SrvLock.handle pid s).rank asked = 1 := if_neg h

theorem SrvLock.rank_session_of_not (h : ∀ l ∈ asked, l.isOf s = false) : (SrvLock.session s).rank asked = 2 := by
  refine if_neg ?_
  cases asked with
  | none => exact Bool.false_ne_true
  | some l => exact Bool.eq_false_iff.1 (h l rfl)

theorem SrvLock.rank_asked {l : SrvLock} (h : asked = some l) (hl : (∃ pid s, l = .handle pid s) ∨ ∃ s, l = .session s) :
    4 < l.rank asked := by
  subst h
  rcases hl with ⟨pid, s, rfl⟩ | ⟨s, rfl⟩
  · show 4 < if _ then 5 else 1
    rw [if_pos rfl]
    decide
  · show 4 < if _ then 6 else 2
    rw [if_pos (by simp [SrvLock.isOf])]
    decide

/-- A flush that has the session lock blocks what is of the session. -/
theorem SrvPoint.not_isOf_of_flushes {pt : SrvPoint} (h : pt.flushes s = true) {l : SrvLock} (hl : pt.blocks l = false) :
    l.isOf s = false := by
  by_contra hof
  cases l with
  | handle pid s' =>
    obtain rfl : s' = s := of_decide_eq_true (Bool.not_eq_false _ ▸ hof)
    rw [SrvPoint.blocks, h] at hl
    cases hl
  | session s' =>
    obtain rfl : s' = s := of_decide_eq_true (Bool.not_eq_false _ ▸ hof)
    rw [SrvPoint.blocks, h] at hl
    cases hl
  | clientList | clbkDataList | cbPool => exact hof rfl

theorem SrvPoint.ne_of_keeps {pt : SrvPoint} (h : pt.keeps pid s = true) (hb : ∀ l ∈ asked, pt.blocks l = false) :
    asked ≠ some (.handle pid s) := by
  rintro rfl
  have := hb _ rfl
  rw [SrvPoint.blocks, h, Bool.or_true] at this
  cases this

/-- What a walk holds comes before `client_list_lock`. -/
theorem ClbkWalk.rank_lt {w : ClbkWalk} (hw : w.event = .flush → ∀ l ∈ asked, l.isOf w.s = false) {l : SrvLock}
    (hl : l ∈ w.under) : l.rank asked < 4 := by
  unfold ClbkWalk.under at hl
  split at hl
  · next hflush =>
    rcases List.mem_cons.1 hl with rfl | hl
    · simp
    · rw [List.mem_singleton.1 hl, SrvLock.rank_session_of_not (hw hflush)]
      decide
  · rw [List.mem_singleton.1 hl]
    simp

/-- A thread keeps to the order, if it is not the one that blocks what is asked for. -/
theorem SrvPoint.rank_lt {pt : SrvPoint} (hasks : ∀ l ∈ pt.asks, asked = some l) (hb : ∀ l ∈ asked, pt.blocks l = false)
    {l l' : SrvLock} (hl : pt.wants = some l) (hl' : l' ∈ pt.holds) : l'.rank asked < l.rank asked := by
  have hwalk (w : ClbkWalk) (hw : w.event = .flush → pt.flushes w.s = true) (hl' : l' ∈ w.under) : l'.rank asked < 4 :=
    ClbkWalk.rank_lt (fun hflush l hl => pt.not_isOf_of_flushes (hw hflush) (hb l hl)) hl'
  cases pt <;> simp only [SrvPoint.wants, Option.some.injEq, reduceCtorEq] at hl <;> subst hl <;>
    simp only [SrvPoint.holds, List.mem_cons, List.not_mem_nil, or_false] at hl'
  case openSession pid s =>
    subst hl'
    exact SrvLock.rank_handle_lt_session
  case closeEntry pid hndl s =>
    subst hl'
    exact SrvLock.rank_asked (hasks _ rfl) (Or.inl ⟨pid, s, rfl⟩)
  case diedEntry v =>
    subst hl'
    exact SrvLock.rank_asked (hasks _ rfl) (Or.inl ⟨v.pid, v.s, rfl⟩)
  case diedPool pid k rest =>
    subst hl'
    simp
  case diedClose v hndl =>
    subst hl'
    have hkeeps : (SrvPoint.diedClose v hndl).keeps v.pid v.s = true := by simp [SrvPoint.keeps]
    have hne : asked ≠ some v.lock := SrvPoint.ne_of_keeps hkeeps hb
    rw [Visit.lock, SrvLock.rank_handle_lt_of_ne hne]
    exact SrvLock.two_le_rank_session
  case diedRelock v =>
    subst hl'
    have hkeeps : (SrvPoint.diedRelock v).keeps v.pid v.s = true := by simp [SrvPoint.keeps]
    have hne : asked ≠ some v.lock := SrvPoint.ne_of_keeps hkeeps hb
    rw [Visit.lock, SrvLock.rank_handle_lt_of_ne hne]
    simp
  case diedCall v locked calls =>
    have hlist : SrvLock.clientList ∈ (SrvPoint.diedCall v locked calls).holds := by
      cases locked <;> simp [SrvPoint.holds]
    have hasked : asked = some (.session v.s) := hasks _ (by rw [SrvPoint.asks, if_pos hlist]; rfl)
    have hrank := SrvLock.rank_asked hasked (Or.inr ⟨v.s, rfl⟩)
    have hle : l'.rank asked ≤ 4 := by
      cases locked with
      | false => rw [List.mem_singleton.1 hl', SrvLock.rank_clientList]
      | true =>
        rcases List.mem_cons.1 hl' with rfl | hl'
        · rw [Visit.lock, SrvLock.rank_handle_lt_of_ne (by rw [hasked]; simp)]
          decide
        · rw [List.mem_singleton.1 hl', SrvLock.rank_clientList]
    omega
  case cb w k => exact hwalk w (fun hflush => by simp [SrvPoint.flushes, hflush]) hl'
  case cbFd w => exact hwalk w (fun hflush => by simp [SrvPoint.flushes, hflush]) hl'
  case flushPool s =>
    subst hl'
    have hflush : (SrvPoint.flushPool s).flushes s = true := by simp [SrvPoint.flushes]
    have hof : ∀ l ∈ asked, l.isOf s = false := fun l hl => SrvPoint.not_isOf_of_flushes hflush (hb l hl)
    rw [SrvLock.rank_session_of_not hof]
    simp

end

/-- A lock is asked for with `client_list_lock` held. -/
theorem SrvPoint.clientList_of_asks {pt : SrvPoint} {l : SrvLock} (h : pt.asks = some l) : .clientList ∈ pt.holds := by
  unfold SrvPoint.asks at h
  split at h
  · assumption
  · cases h

/-- Threads that are apart keep to an order. -/
theorem SrvProcess.Apart.not_deadlocked {p : SrvProcess} (h : p.Apart) : ¬ p.Deadlocked := by
  -- what is asked for with `client_list_lock` held
  obtain ⟨asked, hasked, hof⟩ : ∃ asked : Option SrvLock,
      (∀ (i : Nat) (pt : SrvPoint) l, p.threads[i]? = some pt → pt.asks = some l → asked = some l) ∧
      ∀ l ∈ asked, ∃ pt ∈ p.threads, pt.asks = some l := by
    by_cases hex : ∃ (i : Nat) (pt : SrvPoint) (l : SrvLock), p.threads[i]? = some pt ∧ pt.asks = some l
    · obtain ⟨i, pt, l, hi, hl⟩ := hex
      refine ⟨some l, fun j pt' l' hj hl' => ?_, fun l' hl' => ?_⟩
      · obtain rfl := h.alone i j pt pt' hi hj (SrvPoint.clientList_of_asks hl) (SrvPoint.clientList_of_asks hl')
        rw [hi] at hj
        cases hj
        rw [← hl, hl']
      · obtain rfl := Option.some.inj hl'
        exact ⟨pt, List.mem_of_getElem? hi, hl⟩
    · refine ⟨none, fun i pt l hi hl => absurd ⟨i, pt, l, hi, hl⟩ hex, fun l hl => nomatch hl⟩
  refine not_deadlock_of_rank (SrvLock.rank asked) fun i l l' hl hl' => ?_
  obtain ⟨pt, hpt, hwants⟩ := Option.bind_eq_some_iff.1 hl
  obtain ⟨pt', hpt', hholds⟩ := hl'
  rw [hpt] at hpt'
  cases hpt'
  refine SrvPoint.rank_lt (fun l hl => hasked i pt l hpt hl) (fun l hl => ?_) hwants hholds
  obtain ⟨pt'', hpt'', hasks⟩ := hof l hl
  exact h.unblocked pt'' hpt'' l hasks pt (List.mem_of_getElem? hpt)

/-! ## Runs -/

/-- What the next point of a thread can be, as far as `client_list_lock` goes. -/
structure SrvPoint.Follows (pt pt' : SrvPoint) : Prop where
  listed : .clientList ∈ pt'.holds → .clientList ∈ pt.holds ∨ pt.wants = some .clientList
  asks : ∀ l, pt'.asks = some l → pt.goesFor = some l
  flushes : ∀ s, pt'.flushes s = true → pt.flushes s = true ∨ pt = .flush s
  keeps : ∀ pid s, pt'.keeps pid s = true → pt.keeps pid s = true ∨ .clientList ∈ pt.holds

section

variable {ret : Int} {p p' : SrvProcess} {pt pt' : SrvPoint}

/-- A point without `client_list_lock` that is none of a flush or a clean-up. -/
theorem SrvPoint.Follows.of_plain (hlist : .clientList ∉ pt'.holds) (hflush : ∀ s, pt'.flushes s = false)
    (hkeep : ∀ pid s, pt'.keeps pid s = false) : pt.Follows pt' where
  listed h := absurd h hlist
  asks l h := by
    rw [SrvPoint.asks, if_neg hlist] at h
    cases h
  flushes s h := by
    rw [hflush] at h
    cases h
  keeps pid s h := by
    rw [hkeep] at h
    cases h

theorem nextOpen_follows (h : nextOpen ret p pt = some (pt', p')) : p'.threads = p.threads ∧ pt.Follows pt' := by
  unfold nextOpen at h
  split at h
  case h_3 =>
    obtain ⟨-, h⟩ := Option.ite_none_right_eq_some.1 h
    obtain ⟨rfl, rfl⟩ := Prod.mk.inj (Option.some.inj h)
    exact ⟨rfl, .of_plain (by simp [SrvPoint.holds]) (fun _ => rfl) fun _ _ => rfl⟩
  case h_7 => cases h
  all_goals obtain ⟨rfl, rfl⟩ := Prod.mk.inj (Option.some.inj h)
  case h_1 =>
    refine ⟨rfl, ?_⟩
    constructor <;> simp [SrvPoint.holds, SrvPoint.wants, SrvPoint.asks, SrvPoint.flushes, SrvPoint.keeps, SrvPoint.goesFor]
  case h_6 =>
    refine ⟨?_, .of_plain (by simp [SrvPoint.holds]) (fun _ => rfl) fun _ _ => rfl⟩
    split <;> rfl
  all_goals exact ⟨rfl, .of_plain (by simp [SrvPoint.holds]) (fun _ => rfl) fun _ _ => rfl⟩

theorem nextClose_follows (h : nextClose p pt = some (pt', p')) : p'.threads = p.threads ∧ pt.Follows pt' := by
  unfold nextClose at h
  split at h
  case h_3 pid hndl =>
    obtain ⟨rfl, rfl⟩ := Prod.mk.inj (Option.some.inj h)
    cases hndl <;> exact ⟨rfl, .of_plain (by simp [SrvPoint.holds]) (fun _ => rfl) fun _ _ => rfl⟩
  case h_5 =>
    split at h
    all_goals
      obtain ⟨rfl, rfl⟩ := Prod.mk.inj (Option.some.inj h)
      refine ⟨rfl, ?_⟩
      constructor <;> simp [SrvPoint.holds, SrvPoint.wants, SrvPoint.asks, SrvPoint.flushes, SrvPoint.keeps]
  case h_6 => cases h
  all_goals
    obtain ⟨rfl, rfl⟩ := Prod.mk.inj (Option.some.inj h)
    refine ⟨rfl, ?_⟩
    constructor <;> simp [SrvPoint.holds, SrvPoint.wants, SrvPoint.asks, SrvPoint.flushes, SrvPoint.keeps, SrvPoint.goesFor]

theorem nextDied_follows (h : nextDied p pt = some (pt', p')) : p'.threads = p.threads ∧ pt.Follows pt' := by
  unfold nextDied at h
  split at h
  case h_8 =>
    obtain ⟨-, h⟩ := Option.ite_none_right_eq_some.1 h
    obtain ⟨rfl, rfl⟩ := Prod.mk.inj (Option.some.inj h)
    refine ⟨rfl, ?_⟩
    constructor <;> simp [SrvPoint.holds, SrvPoint.wants, SrvPoint.asks, SrvPoint.flushes, SrvPoint.keeps, SrvPoint.goesFor,
      Visit.lock]
  case h_10 v =>
    -- the list lock is dropped if there is a session to close
    obtain ⟨e, -, h⟩ := Option.map_eq_some_iff.1 h
    obtain ⟨rfl, rfl⟩ := Prod.mk.inj h
    refine ⟨rfl, ?_⟩
    cases e.handle
    all_goals
      constructor <;> simp [SrvPoint.holds, SrvPoint.wants, SrvPoint.asks, SrvPoint.flushes, SrvPoint.keeps, Visit.lock]
  case h_13 v =>
    obtain ⟨e, -, h⟩ := Option.map_eq_some_iff.1 h
    obtain ⟨rfl, rfl⟩ := Prod.mk.inj h
    refine ⟨rfl, ?_⟩
    constructor <;> simp [SrvPoint.holds, SrvPoint.wants, SrvPoint.asks, SrvPoint.flushes, SrvPoint.keeps]
  case h_19 => cases h
  case h_14 v locked n | h_17 v locked n | h_18 v locked n =>
    obtain ⟨rfl, rfl⟩ := Prod.mk.inj (Option.some.inj h)
    refine ⟨rfl, ?_⟩
    cases locked
    all_goals
      constructor <;> simp [SrvPoint.holds, SrvPoint.wants, SrvPoint.asks, SrvPoint.flushes, SrvPoint.keeps,
        SrvPoint.goesFor, Visit.lock]
  all_goals
    obtain ⟨rfl, rfl⟩ := Prod.mk.inj (Option.some.inj h)
    refine ⟨rfl, ?_⟩
    constructor <;> simp [SrvPoint.holds, SrvPoint.wants, SrvPoint.asks, SrvPoint.flushes, SrvPoint.keeps, Visit.lock]

theorem ClbkWalk.clientList_not_mem (w : ClbkWalk) : .clientList ∉ w.under := by
  unfold ClbkWalk.under
  split <;> simp

theorem nextEvent_follows (h : nextEvent p pt = some (pt', p')) : p'.threads = p.threads ∧ pt.Follows pt' := by
  unfold nextEvent at h
  split at h
  case h_1 s src id payload =>
    obtain ⟨rfl, rfl⟩ := Prod.mk.inj (Option.some.inj h)
    exact ⟨rfl, .of_plain (ClbkWalk.clientList_not_mem _) (fun _ => rfl) fun _ _ => rfl⟩
  case h_2 w =>
    split at h
    · obtain ⟨rfl, rfl⟩ := Prod.mk.inj (Option.some.inj h)
      refine ⟨rfl, .of_plain ?_ ?_ ?_⟩
      all_goals split <;> simp [SrvPoint.holds, SrvPoint.flushes, SrvPoint.keeps]
    · obtain ⟨rfl, rfl⟩ := Prod.mk.inj (Option.some.inj h)
      have hlist : .clientList ∉ w.under := w.clientList_not_mem
      refine ⟨rfl, ?_⟩
      constructor <;> simp_all [SrvPoint.holds, SrvPoint.wants, SrvPoint.asks, SrvPoint.flushes, SrvPoint.keeps,
        SrvPoint.goesFor, ClbkWalk.under]
  case h_4 w k =>
    obtain ⟨rfl, rfl⟩ := Prod.mk.inj (Option.some.inj h)
    have hlist : .clientList ∉ w.under := w.clientList_not_mem
    refine ⟨rfl, ?_⟩
    split
    all_goals
      constructor <;> simp [SrvPoint.holds, SrvPoint.asks, SrvPoint.flushes, SrvPoint.keeps, hlist]
  case h_7 => cases h
  all_goals
    obtain ⟨rfl, rfl⟩ := Prod.mk.inj (Option.some.inj h)
    refine ⟨rfl, ?_⟩
    constructor <;> simp [SrvPoint.holds, SrvPoint.wants, SrvPoint.asks, SrvPoint.flushes, SrvPoint.keeps,
      ClbkWalk.clientList_not_mem]

theorem nextFlushed_follows (h : nextFlushed ret p pt = some (pt', p')) : p'.threads = p.threads ∧ pt.Follows pt' := by
  unfold nextFlushed at h
  split at h
  case h_2 s =>
    obtain ⟨rfl, rfl⟩ := Prod.mk.inj (Option.some.inj h)
    refine ⟨rfl, ?_⟩
    split
    all_goals
      constructor <;> simp [SrvPoint.holds, SrvPoint.asks, SrvPoint.flushes, SrvPoint.keeps]
  case h_5 => cases h
  all_goals
    obtain ⟨rfl, rfl⟩ := Prod.mk.inj (Option.some.inj h)
    refine ⟨rfl, ?_⟩
    constructor <;> simp [SrvPoint.holds, SrvPoint.asks, SrvPoint.flushes, SrvPoint.keeps, ClbkWalk.under]

theorem nextRegister_follows (h : nextRegister p pt = some (pt', p')) : p'.threads = p.threads ∧ pt.Follows pt' := by
  unfold nextRegister at h
  split at h
  case h_6 s event clntData =>
    obtain ⟨rfl, rfl⟩ := Prod.mk.inj (Option.some.inj h)
    refine ⟨rfl, ?_⟩
    cases p.clbkDataList.find? _
    all_goals exact .of_plain (by simp [SrvPoint.holds]) (fun _ => rfl) fun _ _ => rfl
  case h_9 => cases h
  all_goals
    obtain ⟨rfl, rfl⟩ := Prod.mk.inj (Option.some.inj h)
    exact ⟨rfl, .of_plain (by simp [SrvPoint.holds]) (fun _ => rfl) fun _ _ => rfl⟩

theorem ListRequest.threads_apply (pid : Nat) (p : SrvProcess) (r : ListRequest) : (r.apply pid p).threads = p.threads := by
  unfold ListRequest.apply
  split
  all_goals first | rfl | (split <;> rfl)

theorem nextRequest_follows (h : nextRequest p pt = some (pt', p')) : p'.threads = p.threads ∧ pt.Follows pt' := by
  unfold nextRequest at h
  split at h
  case h_1 =>
    obtain ⟨rfl, rfl⟩ := Prod.mk.inj (Option.some.inj h)
    refine ⟨rfl, ?_⟩
    constructor <;> simp [SrvPoint.holds, SrvPoint.wants, SrvPoint.asks, SrvPoint.flushes, SrvPoint.keeps]
  case h_2 pid r =>
    obtain ⟨rfl, rfl⟩ := Prod.mk.inj (Option.some.inj h)
    refine ⟨r.threads_apply pid p, ?_⟩
    cases r.session
    all_goals exact .of_plain (by simp [SrvPoint.holds]) (fun _ => rfl) fun _ _ => rfl
  case h_5 => cases h
  all_goals
    obtain ⟨rfl, rfl⟩ := Prod.mk.inj (Option.some.inj h)
    exact ⟨rfl, .of_plain (by simp [SrvPoint.holds]) (fun _ => rfl) fun _ _ => rfl⟩

theorem nextSrvPoint_follows (h : nextSrvPoint ret p pt = some (pt', p')) : p'.threads = p.threads ∧ pt.Follows pt' := by
  simp only [nextSrvPoint, Option.or_eq_some_iff] at h
  rcases h with h | ⟨-, h | ⟨-, h | ⟨-, h | ⟨-, h | ⟨-, h | ⟨-, h⟩⟩⟩⟩⟩⟩
  · exact nextOpen_follows h
  · exact nextClose_follows h
  · exact nextDied_follows h
  · exact nextEvent_follows h
  · exact nextFlushed_follows h
  · exact nextRegister_follows h
  · exact nextRequest_follows h

/-- A thread that waits with `client_list_lock` held blocks nothing. -/
theorem SrvPoint.blocks_of_asks {l : SrvLock} (h : pt.asks = some l) (l' : SrvLock) : pt.blocks l' = false := by
  have hquiet : (∀ s, pt.flushes s = false) ∧ ∀ pid s, pt.keeps pid s = false := by
    unfold SrvPoint.asks at h
    split at h
    · cases pt <;> simp_all [SrvPoint.holds, SrvPoint.wants, SrvPoint.flushes, SrvPoint.keeps, ClbkWalk.clientList_not_mem,
        Visit.lock]
    · cases h
  cases l' <;> simp [SrvPoint.blocks, hquiet.1, hquiet.2]

/-- What a thread comes to block. -/
theorem SrvPoint.Follows.blocks (h : pt.Follows pt') {l : SrvLock} (hl : pt'.blocks l = true) :
    pt.blocks l = true ∨ .clientList ∈ pt.holds ∨ pt.willBlock l = true := by
  have hflush (s : SessId) (hs : pt'.flushes s = true) : pt.flushes s = true ∨ pt = .flush s := h.flushes s hs
  cases l with
  | handle pid s =>
    rcases Bool.or_eq_true _ _ ▸ (show (pt'.flushes s || pt'.keeps pid s) = true from hl) with hs | hk
    · rcases hflush s hs with hs | rfl
      · exact Or.inl (by simp [SrvPoint.blocks, hs])
      · exact Or.inr (Or.inr (by simp [SrvPoint.willBlock, SrvPoint.blocks, SrvPoint.flushes]))
    · rcases h.keeps pid s hk with hk | hlist
      · exact Or.inl (by simp [SrvPoint.blocks, hk])
      · exact Or.inr (Or.inl hlist)
  | session s =>
    rcases hflush s hl with hs | rfl
    · exact Or.inl hs
    · exact Or.inr (Or.inr (by simp [SrvPoint.willBlock, SrvPoint.blocks, SrvPoint.flushes]))
  | clientList | clbkDataList | cbPool => cases hl

theorem SrvProcess.Apart.start (h : p.Apart) (hlist : .clientList ∉ pt.holds) (hb : ∀ l, pt.blocks l = false) :
    (p.start pt).Apart := by
  have hold {i : Nat} {pt' : SrvPoint} (hi : (p.threads ++ [pt])[i]? = some pt') (hne : pt' ≠ pt) :
      p.threads[i]? = some pt' := by
    rcases Nat.lt_or_ge i p.threads.length with hlt | hge
    · rwa [List.getElem?_append_left hlt] at hi
    · rw [List.getElem?_append_right hge] at hi
      have := List.mem_of_getElem? hi
      exact absurd (List.mem_singleton.1 this) hne
  refine ⟨?_, ?_⟩
  · intro i j pt₁ pt₂ hi hj h₁ h₂
    exact h.alone i j pt₁ pt₂ (hold hi fun heq => hlist (heq ▸ h₁)) (hold hj fun heq => hlist (heq ▸ h₂)) h₁ h₂
  · intro pt₁ hpt₁ l hl pt₂ hpt₂
    rcases List.mem_append.1 hpt₁ with hpt₁ | hpt₁
    · rcases List.mem_append.1 hpt₂ with hpt₂ | hpt₂
      · exact h.unblocked pt₁ hpt₁ l hl pt₂ hpt₂
      · rw [List.mem_singleton.1 hpt₂]
        exact hb l
    · rw [List.mem_singleton.1 hpt₁] at hl
      rw [SrvPoint.asks, if_neg hlist] at hl
      cases hl

/-- One thread takes a step. -/
theorem SrvProcess.Apart.step (h : p.Apart) {i : Nat} (hg : srvGuard p (.step i ret)) (hs : p.step i ret = some p') :
    p'.Apart := by
  obtain ⟨pt, hpt, hs⟩ := Option.bind_eq_some_iff.1 hs
  obtain ⟨hgrants, hs⟩ := Option.ite_none_right_eq_some.1 hs
  obtain ⟨⟨pt', q⟩, hnext, rfl⟩ := Option.map_eq_some_iff.1 hs
  obtain ⟨hthreads, hfollows⟩ := nextSrvPoint_follows hnext
  obtain ⟨hgoes, hwill⟩ := hg pt hpt
  have hi : i < p.threads.length := (List.getElem?_eq_some_iff.1 hpt).1
  have hat (j : Nat) : (q.threads.set i pt')[j]? = if i = j then some pt' else p.threads[j]? := by
    rw [hthreads, List.getElem?_set]
    simp [hi]
  -- no other thread has `client_list_lock` once this one has it
  have hother (j : Nat) (pt₂ : SrvPoint) (hne : i ≠ j) (hj : p.threads[j]? = some pt₂) (hlist : .clientList ∈ pt'.holds) :
      .clientList ∉ pt₂.holds := by
    intro hmem
    rcases hfollows.listed hlist with hheld | hwants
    · exact hne (h.alone i j pt pt₂ hpt hj hheld hmem)
    · rw [SrvProcess.grants, hwants] at hgrants
      have := List.all_eq_true.1 hgrants pt₂ (List.mem_of_getElem? hj)
      simp [hmem] at this
  refine ⟨?_, ?_⟩
  · intro j k pt₁ pt₂ hj hk h₁ h₂
    have hj : (q.threads.set i pt')[j]? = some pt₁ := hj
    have hk : (q.threads.set i pt')[k]? = some pt₂ := hk
    rw [hat] at hj hk
    split at hj
    · next hij =>
      obtain rfl := Option.some.inj hj
      split at hk
      · next hik => exact hij.symm.trans hik
      · next hik => exact absurd h₂ (hother k pt₂ hik hk h₁)
    · next hij =>
      split at hk
      · next hik =>
        obtain rfl := Option.some.inj hk
        exact absurd h₁ (hother j pt₁ hij hj h₂)
      · exact h.alone j k pt₁ pt₂ hj hk h₁ h₂
  · intro pt₁ hpt₁ l hl pt₂ hpt₂
    obtain ⟨j, hj⟩ := List.mem_iff_getElem?.1 (show pt₁ ∈ q.threads.set i pt' from hpt₁)
    obtain ⟨k, hk⟩ := List.mem_iff_getElem?.1 (show pt₂ ∈ q.threads.set i pt' from hpt₂)
    rw [hat] at hj hk
    split at hj
    · obtain rfl := Option.some.inj hj
      split at hk
      · obtain rfl := Option.some.inj hk
        exact SrvPoint.blocks_of_asks hl l
      · exact hgoes l (hfollows.asks l hl) pt₂ (List.mem_of_getElem? hk)
    · next hij =>
      split at hk
      · obtain rfl := Option.some.inj hk
        -- what the thread blocks from now on is not waited for
        refine Bool.eq_false_iff.2 fun hb => ?_
        rcases hfollows.blocks hb with hb | hlist | hb
        · exact absurd hb (Bool.eq_false_iff.1 (h.unblocked pt₁ (List.mem_of_getElem? hj) l hl pt (List.mem_of_getElem? hpt)))
        · exact hij (h.alone i j pt pt₁ hpt hj hlist (SrvPoint.clientList_of_asks hl))
        · exact absurd hb (Bool.eq_false_iff.1 (hwill pt₁ (List.mem_of_getElem? hj) l hl))
      · exact h.unblocked pt₁ (List.mem_of_getElem? hj) l hl pt₂ (List.mem_of_getElem? hk)

theorem SrvProcess.Apart.exec (h : p.Apart) {op : SrvOp} {r : Unit} (hg : srvGuard p op) (he : srvExec op p = some (r, p')) :
    p'.Apart := by
  obtain ⟨q, hstep, hq⟩ := Option.map_eq_some_iff.1 he
  obtain ⟨-, rfl⟩ := Prod.mk.inj hq
  cases op with
  | step i ret => exact h.step hg hstep
  | _ =>
    obtain rfl := Option.some.inj hstep
    refine h.start (by simp [SrvPoint.holds]) fun l => ?_
    cases l <;> rfl

/-- **No deadlock.**  Where no close and no clean-up waits, with `client_list_lock` held, for what a flush or another clean-up
blocks, no cycle of threads waits for each other's locks. -/
theorem server_not_deadlocked (h0 : p.threads = []) (h : Runs srvExec srvGuard p p') : ¬ p'.Deadlocked := by
  have hstart : p.Apart := by
    refine ⟨fun i j pt pt' hi => ?_, fun pt hpt => ?_⟩
    · rw [h0] at hi
      cases hi
    · rw [h0] at hpt
      cases hpt
  have hapart : p'.Apart := h.invariant hstart fun _ _ _ _ hp hg he => hp.exec hg he
  exact hapart.not_deadlocked

end

/-- A clean-up of the client 7 has locked its entry again after the close, and an event of session 1 waits for the list. -/
theorem server_not_deadlocked_event : ∃ t, Runs srvExec srvGuard {} t ∧
    t.threads = [.returned, .returned, .diedCall ⟨7, 2, none⟩ false 1, .cb ⟨1, .graph 3 0 [], []⟩ ⟨0, 8, 1, 2, 5⟩] ∧
    ¬ t.Deadlocked := by
  obtain ⟨t, hr, ht⟩ := Runs.exists_of_execAll srvExec srvGuard
    [.register ⟨0, 8, 1, 2, 5⟩, .step 0 0, .step 0 0, .step 0 0, .step 0 0, .open 7 2, .step 1 0, .step 1 0, .step 1 0,
      .step 1 0, .step 1 0, .step 1 0, .die 7, .step 2 0, .step 2 0, .step 2 0, .step 2 0, .step 2 0, .step 2 0, .step 2 0,
      .step 2 0, .step 2 0, .event 1 3 0 [], .step 3 0, .step 3 0, .step 2 0, .step 2 0]
    {} SrvProcess.threads
    (b := [.returned, .returned, .diedCall ⟨7, 2, none⟩ false 1, .cb ⟨1, .graph 3 0 [], []⟩ ⟨0, 8, 1, 2, 5⟩])
    (by decide +kernel)
  exact ⟨t, hr, ht, server_not_deadlocked rfl hr⟩

/-- A clean-up of the client 7 has closed its session and waits for `client_list_lock`, which a close of the same client
holds; the close waits for the lock of the entry, which the clean-up has kept.  And, without a death: a close waits for the
entry that an open has locked, the open for the session lock of a flush, and the callback of the flush for
`client_list_lock`. -/
theorem server_deadlocks :
    (∃ t, Runs srvExec (fun _ _ => True) {} t ∧
      t.threads = [.returned, .diedRelock ⟨7, 1, none⟩, .closeEntry 7 (some 1) 1] ∧ t.Deadlocked) ∧
    ∃ t, Runs srvExec (fun _ _ => True) {} t ∧
      t.threads = [.returned, .returned, .openSession 7 1, .cb ⟨1, .flush, []⟩ ⟨0, 7, 1, 1, 5⟩, .closeEntry 7 (some 1) 1] ∧
      t.Deadlocked := by
  constructor
  · obtain ⟨t, hr, ht⟩ := Runs.exists_of_execAll srvExec (fun _ _ => True)
      [.open 7 1, .step 0 0, .step 0 0, .step 0 0, .step 0 0, .step 0 0, .step 0 0, .die 7, .step 1 0, .step 1 0, .step 1 0,
        .step 1 0, .step 1 0, .step 1 0, .close 7 (some 1), .step 2 0, .step 2 0, .step 1 0, .step 1 0] {} SrvProcess.threads
      (b := [.returned, .diedRelock ⟨7, 1, none⟩, .closeEntry 7 (some 1) 1]) (by decide +kernel)
    refine ⟨t, hr, ht, 1, .tail (.single (b := 2) ⟨.clientList, ?_, ?_⟩) ⟨.handle 7 1, ?_, ?_⟩⟩
    · rw [ht]
      rfl
    · rw [ht]
      exact ⟨_, rfl, by decide⟩
    · rw [ht]
      rfl
    · rw [ht]
      exact ⟨_, rfl, by decide⟩
  · obtain ⟨t, hr, ht⟩ := Runs.exists_of_execAll srvExec (fun _ _ => True)
      [.register ⟨0, 7, 1, 1, 5⟩, .step 0 0, .step 0 0, .step 0 0, .step 0 0, .open 7 1, .step 1 0, .step 1 0, .step 1 0,
        .step 1 0, .step 1 0, .step 1 0, .open 7 1, .step 2 0, .step 2 0, .step 2 0, .flush 1, .step 3 0, .step 3 0,
        .step 3 0, .step 3 0, .close 7 (some 1), .step 4 0, .step 4 0] {} SrvProcess.threads
      (b := [.returned, .returned, .openSession 7 1, .cb ⟨1, .flush, []⟩ ⟨0, 7, 1, 1, 5⟩, .closeEntry 7 (some 1) 1])
      (by decide +kernel)
    refine ⟨t, hr, ht, 4, .tail (.tail (.single (b := 2) ⟨.handle 7 1, ?_, ?_⟩) (b := 2) (c := 3) ⟨.session 1, ?_, ?_⟩)
      ⟨.clientList, ?_, ?_⟩⟩
    · rw [ht]
      rfl
    · rw [ht]
      exact ⟨_, rfl, by decide⟩
    · rw [ht]
      rfl
    · rw [ht]
      exact ⟨_, rfl, by decide⟩
    · rw [ht]
      rfl
    · rw [ht]
      exact ⟨_, rfl, by decide⟩

end Agm.Ipc
