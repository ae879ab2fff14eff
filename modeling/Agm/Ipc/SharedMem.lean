import Mathlib.Logic.Function.Iterate
import Agm.Lib.Queue
import Agm.Lib.Runs
import Agm.Service.Objects

/-!
# Descriptors of shared memory

`ipc_agm_session_write_with_metadata` and `ipc_agm_session_read_with_metadata` record the client's descriptor beside the
duplicate that the service gets, and `ipc_callback` looks the former up by the latter when the buffer is done.  The two
requests are alike here.  The record is made before the service is called, since the buffer may be done before the call
returns; where the call fails the record stays.

One client is modelled: `ipc_callback` looks at its own list only.
-/

namespace Agm.Ipc

open Agm.Lib Agm.Service

/-- `agm_client_session_handle`, with its descriptors: those of the client and their duplicates. -/
structure FdSession where
  sessionId : SessId
  handle : Option SessId := none
  sharedMemFdList : List (Int × Int) := []
  deriving DecidableEq, Repr

/-- A buffer and the request it is of. -/
structure RwBuffer where
  request : Nat
  session : SessId
  inputFd : Int
  dupFd : Int
  deriving DecidableEq, Repr

def RwBuffer.fds (b : RwBuffer) : Int × Int := (b.inputFd, b.dupFd)

/-- The server and the service, as the requests of one client see them. -/
structure FdServer where
  /-- `agm_client_hndl_list` -/
  sessions : List FdSession := []
  /-- the client has a `clbk_binder` -/
  bound : Bool := false
  /-- the session of each callback for the data path -/
  callbacks : List SessId := []
  /-- the sessions that are not closed -/
  opened : List SessId := []
  /-- requests between the record and the call of the service -/
  inProgress : List RwBuffer := []
  /-- sessions between the walk of a close and the call of the service -/
  closing : List SessId := []
  /-- the buffers that GSL has -/
  accepted : List RwBuffer := []
  /-- the requests so far, the buffers that are done, and for each report its request and the descriptor -/
  requests : Nat := 0
  completed : List RwBuffer := []
  reported : List (Nat × Int) := []
  deriving DecidableEq, Repr

/-- `add_fd_to_list`. -/
def addFdToList (s : SessId) (fds : Int × Int) (l : List FdSession) : List FdSession :=
  l.map fun e => if e.handle = some s then { e with sharedMemFdList := e.sharedMemFdList ++ [fds] } else e

/-- What `ipc_callback` finds for a duplicate: the walk goes over all entries for the session. -/
def findFd (s : SessId) (dupFd : Int) (l : List FdSession) : Int :=
  ((((l.filter fun e => e.sessionId = s).filterMap fun e =>
    e.sharedMemFdList.find? fun fds => fds.2 = dupFd).getLast?).map Prod.fst).getD (-1)

/-- What the walk of `ipc_callback` takes out of the lists. -/
def eraseFd (s : SessId) (dupFd : Int) (l : List FdSession) : List FdSession :=
  l.map fun e => if e.sessionId = s then { e with sharedMemFdList := e.sharedMemFdList.eraseP fun fds => fds.2 = dupFd }
    else e

/-- `ipc_callback` for a buffer that is done. -/
def ipcCallback (b : RwBuffer) (v : FdServer) : FdServer :=
  if v.bound then { v with sessions := eraseFd b.session b.dupFd v.sessions,
                           reported := v.reported ++ [(b.request, findFd b.session b.dupFd v.sessions)] }
  else v

/-- `ipc_agm_session_open`, which the service grants for a closed session if all goes well. -/
def FdServer.open (v : FdServer) (s : SessId) (ok : Bool) : FdServer :=
  let l : List FdSession :=
    if v.sessions.any (fun e => e.sessionId = s) then v.sessions else v.sessions ++ [{ sessionId := s }]
  if ok ∧ s ∉ v.opened then
    { v with sessions := l.map fun e => if e.sessionId = s then { e with handle := some s } else e,
             opened := v.opened ++ [s] }
  else { v with sessions := l }

/-- A write or a read with metadata up to the call of the service: the descriptor of the client and what `dup` returns. -/
def FdServer.request (v : FdServer) (s : SessId) (inputFd dupFd : Int) : FdServer :=
  { v with sessions := addFdToList s (inputFd, dupFd) v.sessions,
           inProgress := v.inProgress ++ [⟨v.requests, s, inputFd, dupFd⟩], requests := v.requests + 1 }

/-- `session_obj_write_with_metadata` and `session_obj_read_with_metadata`; `ok` is whether GSL takes the buffer. -/
def FdServer.call (v : FdServer) (b : RwBuffer) (ok : Bool) : FdServer :=
  if ok ∧ b.session ∈ v.opened then { v with accepted := v.accepted ++ [b] } else v

/-- The walk of `ipc_agm_session_close`. -/
def FdServer.close (v : FdServer) (s : SessId) : FdServer :=
  { v with sessions := v.sessions.eraseP fun e => e.handle = some s, closing := v.closing ++ [s] }

/-- The service closes the session, and GSL gives up its buffers. -/
def FdServer.closed (v : FdServer) (s : SessId) : FdServer :=
  { v with opened := v.opened.filter fun x => x ≠ s, accepted := v.accepted.filter fun b => b.session ≠ s }

/-- `graph_event_cb` for a buffer that is done: every callback for the data path is called. -/
def FdServer.done (v : FdServer) (b : RwBuffer) : FdServer :=
  (ipcCallback b)^[v.callbacks.count b.session] { v with completed := v.completed ++ [b] }

inductive FdEvent
  | registerBinder
  | registerCallback (s : SessId)
  | deregisterCallback (s : SessId)
  | open (s : SessId) (ok : Bool)
  /-- a write or a read: the descriptor of the client and what `dup` returns -/
  | request (s : SessId) (inputFd dupFd : Int)
  /-- the call of the service, and whether GSL takes the buffer -/
  | call (i : Nat) (ok : Bool)
  | close (s : SessId)
  | closed (i : Nat)
  /-- `READ_DONE` or `WRITE_DONE` -/
  | done (i : Nat)
  deriving DecidableEq, Repr

def fdExec (ev : FdEvent) (v : FdServer) : Option (Unit × FdServer) :=
  (match ev with
    | .registerBinder => some { v with bound := true }
    | .registerCallback s => some { v with callbacks := v.callbacks ++ [s] }
    | .deregisterCallback s => some { v with callbacks := v.callbacks.erase s }
    | .open s ok => some (v.open s ok)
    | .request s inputFd dupFd => some (v.request s inputFd dupFd)
    | .call i ok => v.inProgress[i]?.map fun b => { v with inProgress := v.inProgress.eraseIdx i }.call b ok
    | .close s => some (v.close s)
    | .closed i => v.closing[i]?.map fun s => { v with closing := v.closing.eraseIdx i }.closed s
    | .done i => v.accepted[i]?.map fun b => { v with accepted := v.accepted.eraseIdx i }.done b).map fun v => ((), v)

/-! ## Descriptors of the buffers in hand -/

/-- The buffers of requests that are going on, and those that GSL has. -/
def FdServer.inHand (v : FdServer) : List RwBuffer := v.inProgress ++ v.accepted

/-- The list of a session has the descriptors of its buffers in hand, and every buffer that is done was reported once, with
the descriptor of its request. -/
structure FdServer.Right (v : FdServer) : Prop where
  held : ∀ e ∈ v.sessions, e.sharedMemFdList.Perm ((v.inHand.filter fun b => e.handle = some b.session).map RwBuffer.fds)
  reported : v.reported = v.completed.map fun b => (b.request, b.inputFd)

/-- What is assumed of the client and of `dup`: requests and closes are of sessions that the client has open, and a new
descriptor is not that of a buffer in hand. -/
def fdAssumed (v : FdServer) (ev : FdEvent) : Prop :=
  match ev with
  | .request s _ dupFd => (∃ e ∈ v.sessions, e.handle = some s) ∧ ∀ b ∈ v.inHand, b.dupFd ≠ dupFd
  | .close s => ∃ e ∈ v.sessions, e.handle = some s
  | _ => True

/-- Besides that, GSL takes the buffers, a session is closed while none of its requests is going on, and a buffer is done
while its session is not being closed, and has one callback of a client that has a binder. -/
def fdGuard (v : FdServer) (ev : FdEvent) : Prop :=
  fdAssumed v ev ∧
  match ev with
  | .call _ ok => ok = true
  | .close s => ∀ b ∈ v.inProgress, b.session ≠ s
  | .done i => ∀ b ∈ v.accepted[i]?, v.bound = true ∧ v.callbacks.count b.session = 1 ∧ b.session ∉ v.closing
  | _ => True

instance (v : FdServer) (ev : FdEvent) : Decidable (fdAssumed v ev) := by
  unfold fdAssumed
  split <;> infer_instance

instance (v : FdServer) (ev : FdEvent) : Decidable (fdGuard v ev) := by
  unfold fdGuard
  refine @instDecidableAnd _ _ inferInstance ?_
  split <;> infer_instance

/-! ## The invariant -/

/-- The lists are right; and what has a handle is open and not being closed, buffers in hand are of such sessions, or of
one that is being closed, and their duplicates differ. -/
structure FdServer.Ok (v : FdServer) : Prop where
  keys : (v.sessions.map FdSession.sessionId).Nodup
  handles : ∀ e ∈ v.sessions, ∀ s ∈ e.handle, s = e.sessionId ∧ s ∈ v.opened ∧ s ∉ v.closing
  held : ∀ e ∈ v.sessions, e.sharedMemFdList.Perm ((v.inHand.filter fun b => e.handle = some b.session).map RwBuffer.fds)
  asked : ∀ b ∈ v.inProgress, ∃ e ∈ v.sessions, e.handle = some b.session
  given : ∀ b ∈ v.accepted, (∃ e ∈ v.sessions, e.handle = some b.session) ∨ b.session ∈ v.closing
  closing : v.closing.Nodup
  closingOpen : ∀ s ∈ v.closing, s ∈ v.opened
  dups : (v.inHand.map RwBuffer.dupFd).Nodup
  reported : v.reported = v.completed.map fun b => (b.request, b.inputFd)

section

variable {v : FdServer}

theorem perm_fds {l l' : List RwBuffer} (h : l.Perm l') (p : RwBuffer → Bool) :
    ((l.filter p).map RwBuffer.fds).Perm ((l'.filter p).map RwBuffer.fds) := (h.filter p).map _

/-- A session without a handle has no descriptors. -/
theorem FdServer.Ok.list_nil (h : v.Ok) {e : FdSession} (he : e ∈ v.sessions) (hnone : e.handle = none) :
    e.sharedMemFdList = [] := by
  have hperm := h.held e he
  rw [hnone, List.filter_eq_nil_iff.2 fun b _ => by simp] at hperm
  exact hperm.eq_nil

/-- A session that the service has closed has no buffers in hand. -/
theorem FdServer.Ok.not_inHand (h : v.Ok) {s : SessId} (hs : s ∉ v.opened) : ∀ b ∈ v.inHand, b.session ≠ s := by
  rintro b hb rfl
  have hhandle : ¬ ∃ e ∈ v.sessions, e.handle = some b.session := fun ⟨e, he, hh⟩ => hs (h.handles e he _ hh).2.1
  rcases List.mem_append.1 hb with hb | hb
  · exact hhandle (h.asked b hb)
  · rcases h.given b hb with hex | hclosing
    · exact hhandle hex
    · exact hs (h.closingOpen _ hclosing)

theorem FdServer.Ok.entry (h : v.Ok) (s : SessId) : FdServer.Ok { v with
    sessions := if v.sessions.any (fun e => e.sessionId = s) then v.sessions else v.sessions ++ [{ sessionId := s }] } := by
  split
  · exact h
  · next hnot =>
    have hmem : ∀ e ∈ v.sessions ++ [{ sessionId := s }], e ∈ v.sessions ∨ e = { sessionId := s } := fun e he =>
      (List.mem_append.1 he).imp_right List.mem_singleton.1
    refine { h with keys := ?_, handles := ?_, held := ?_, asked := ?_, given := ?_ }
    · rw [List.map_append, List.nodup_append]
      refine ⟨h.keys, List.nodup_singleton _, ?_⟩
      rintro x hx y hy rfl
      obtain ⟨e, he, rfl⟩ := List.mem_map.1 hx
      refine hnot (List.any_eq_true.2 ⟨e, he, ?_⟩)
      simpa using hy
    · intro e he
      rcases hmem e he with he | rfl
      · exact h.handles e he
      · exact fun x hx => (nomatch hx)
    · intro e he
      rcases hmem e he with he | rfl
      · exact h.held e he
      · rw [List.filter_eq_nil_iff.2 fun b _ => by simp]
        exact List.Perm.refl []
    · intro b hb
      obtain ⟨e, he, hh⟩ := h.asked b hb
      exact ⟨e, List.mem_append_left _ he, hh⟩
    · intro b hb
      rcases h.given b hb with ⟨e, he, hh⟩ | hclosing
      · exact .inl ⟨e, List.mem_append_left _ he, hh⟩
      · exact .inr hclosing

/-- Entries that are written keep their sessions. -/
theorem nodup_sessionId_ite {p : FdSession → Prop} [DecidablePred p] {f : FdSession → FdSession} {l : List FdSession}
    (hf : ∀ e, (f e).sessionId = e.sessionId) (hl : (l.map FdSession.sessionId).Nodup) :
    ((l.map fun e => if p e then f e else e).map FdSession.sessionId).Nodup := by
  have hids : (l.map fun e => if p e then f e else e).map FdSession.sessionId = l.map FdSession.sessionId := by
    rw [List.map_map]
    refine List.map_congr_left fun e _ => ?_
    show (ite _ _ _ : FdSession).sessionId = _
    split
    · exact hf e
    · rfl
  rw [hids]
  exact hl

theorem exists_handle_ite {p : FdSession → Prop} [DecidablePred p] {f : FdSession → FdSession} {l : List FdSession}
    {x : SessId} (hf : ∀ e, (f e).handle = e.handle) (h : ∃ e ∈ l, e.handle = some x) :
    ∃ e ∈ l.map (fun e => if p e then f e else e), e.handle = some x := by
  obtain ⟨e, he, hx⟩ := h
  refine ⟨_, List.mem_map_of_mem he, ?_⟩
  split
  · exact (hf e).trans hx
  · exact hx

theorem FdServer.Ok.open (h : v.Ok) (s : SessId) (ok : Bool) : (v.open s ok).Ok := by
  have hentry := h.entry s
  unfold FdServer.open
  dsimp only
  split
  · next hopen =>
    revert hentry
    generalize (if v.sessions.any (fun e => e.sessionId = s) then v.sessions else v.sessions ++ [{ sessionId := s }]) = l
    intro hentry
    have hnone : ∀ e ∈ l, e.sessionId = s → e.handle = none := by
      intro e he hs
      by_contra hne
      obtain ⟨x, hx⟩ := Option.ne_none_iff_exists'.1 hne
      obtain ⟨hxs, hxo, -⟩ := hentry.handles e he x hx
      exact hopen.2 (by rw [← hs, ← hxs]; exact hxo)
    have hkeep : ∀ b : RwBuffer, (∃ e ∈ l, e.handle = some b.session) →
        ∃ e ∈ l.map (fun e => if e.sessionId = s then { e with handle := some s } else e), e.handle = some b.session := by
      rintro b ⟨e, he, hh⟩
      refine ⟨_, List.mem_map_of_mem he, ?_⟩
      split
      · next hs =>
        rw [hnone e he hs] at hh
        cases hh
      · exact hh
    refine { hentry with keys := ?_, handles := ?_, held := ?_, asked := ?_, given := ?_, closingOpen := ?_ }
    · exact nodup_sessionId_ite (fun _ => rfl) hentry.keys
    · intro e' he'
      obtain ⟨e, he, rfl⟩ := List.mem_map.1 he'
      split
      · next hs =>
        intro x hx
        obtain rfl := Option.some.inj hx
        refine ⟨hs.symm, List.mem_append_right _ (List.mem_singleton_self _), fun hclosing => ?_⟩
        exact hopen.2 (h.closingOpen s hclosing)
      · intro x hx
        obtain ⟨hxs, hxo, hxc⟩ := hentry.handles e he x hx
        exact ⟨hxs, List.mem_append_left _ hxo, hxc⟩
    · intro e' he'
      obtain ⟨e, he, rfl⟩ := List.mem_map.1 he'
      split
      · next hs =>
        have hnil : e.sharedMemFdList = [] := hentry.list_nil he (hnone e he hs)
        have hhand : ∀ b ∈ v.inHand, b.session ≠ s := h.not_inHand hopen.2
        show e.sharedMemFdList.Perm ((v.inHand.filter fun b => some s = some b.session).map RwBuffer.fds)
        rw [hnil, List.filter_eq_nil_iff.2 fun b hb => by simpa using (hhand b hb).symm]
        exact List.Perm.refl []
      · exact hentry.held e he
    · exact fun b hb => hkeep b (hentry.asked b hb)
    · exact fun b hb => (hentry.given b hb).imp_left (hkeep b)
    · exact fun x hx => List.mem_append_left _ (h.closingOpen x hx)
  · exact hentry

theorem FdServer.Ok.request (h : v.Ok) {s : SessId} {inputFd dupFd : Int} (hopen : ∃ e ∈ v.sessions, e.handle = some s)
    (hnew : ∀ b ∈ v.inHand, b.dupFd ≠ dupFd) : (v.request s inputFd dupFd).Ok := by
  have hhand : (v.request s inputFd dupFd).inHand.Perm (⟨v.requests, s, inputFd, dupFd⟩ :: v.inHand) := by
    show (v.inProgress ++ [_] ++ v.accepted).Perm _
    rw [List.append_assoc]
    exact List.perm_middle
  have hmem : ∀ e' ∈ (v.request s inputFd dupFd).sessions, ∃ e ∈ v.sessions, e'.sessionId = e.sessionId ∧
      e'.handle = e.handle ∧
      e'.sharedMemFdList = if e.handle = some s then e.sharedMemFdList ++ [(inputFd, dupFd)] else e.sharedMemFdList := by
    intro e' he'
    obtain ⟨e, he, rfl⟩ := List.mem_map.1 he'
    refine ⟨e, he, ?_⟩
    split <;> exact ⟨rfl, rfl, rfl⟩
  have hkeep : ∀ x, (∃ e ∈ v.sessions, e.handle = some x) → ∃ e ∈ (v.request s inputFd dupFd).sessions, e.handle = some x :=
    fun _ => exists_handle_ite fun _ => rfl
  refine { h with keys := ?_, handles := ?_, held := ?_, asked := ?_, given := ?_, dups := ?_ }
  · exact nodup_sessionId_ite (fun _ => rfl) h.keys
  · intro e' he' x hx
    obtain ⟨e, he, hid, hhandle, -⟩ := hmem e' he'
    rw [hid]
    rw [hhandle] at hx
    exact h.handles e he x hx
  · intro e' he'
    obtain ⟨e, he, -, hhandle, hlist⟩ := hmem e' he'
    refine List.Perm.trans ?_ (perm_fds hhand _).symm
    rw [hlist, hhandle]
    split
    · next hs =>
      rw [List.filter_cons_of_pos (by simpa using hs)]
      exact (List.perm_append_singleton _ _).trans ((h.held e he).cons _)
    · next hs =>
      rw [List.filter_cons_of_neg (by simpa using hs)]
      exact h.held e he
  · intro b hb
    rcases List.mem_append.1 hb with hb | hb
    · exact hkeep _ (h.asked b hb)
    · rw [List.mem_singleton.1 hb]
      exact hkeep s hopen
  · exact fun b hb => (h.given b hb).imp_left (hkeep _)
  · rw [(hhand.map RwBuffer.dupFd).nodup_iff, List.map_cons, List.nodup_cons]
    refine ⟨fun hin => ?_, h.dups⟩
    obtain ⟨b, hb, hdup⟩ := List.mem_map.1 hin
    exact hnew b hb hdup

theorem FdServer.Ok.call (h : v.Ok) {i : Nat} {b : RwBuffer} (hb : v.inProgress[i]? = some b) :
    (FdServer.call { v with inProgress := v.inProgress.eraseIdx i } b true).Ok := by
  have hperm := cons_eraseIdx_perm hb
  have hex : ∃ e ∈ v.sessions, e.handle = some b.session := h.asked b (List.mem_of_getElem? hb)
  obtain ⟨e, he, hh⟩ := hex
  have hopen : b.session ∈ v.opened := (h.handles e he _ hh).2.1
  rw [FdServer.call, if_pos ⟨rfl, hopen⟩]
  have hhand : (v.inProgress.eraseIdx i ++ (v.accepted ++ [b])).Perm v.inHand := by
    have hlast : (v.inProgress.eraseIdx i ++ (v.accepted ++ [b])).Perm (b :: (v.inProgress.eraseIdx i ++ v.accepted)) := by
      rw [← List.append_assoc]
      exact List.perm_append_singleton _ _
    exact hlast.trans (hperm.append_right v.accepted)
  refine { h with held := ?_, asked := ?_, given := ?_, dups := ?_ }
  · exact fun e he => (h.held e he).trans (perm_fds hhand _).symm
  · exact fun b' hb' => h.asked b' (List.mem_of_mem_eraseIdx hb')
  · intro b' hb'
    rcases List.mem_append.1 hb' with hb' | hb'
    · exact h.given b' hb'
    · rw [List.mem_singleton.1 hb']
      exact .inl ⟨e, he, hh⟩
  · exact (hhand.map RwBuffer.dupFd).nodup_iff.2 h.dups

theorem FdServer.Ok.close (h : v.Ok) {s : SessId} (hopen : ∃ e ∈ v.sessions, e.handle = some s)
    (hquiet : ∀ b ∈ v.inProgress, b.session ≠ s) : (v.close s).Ok := by
  have hgone : ∀ e ∈ v.sessions.eraseP (fun e => e.handle = some s), e.handle ≠ some s := by
    intro e he
    have hnot := not_of_mem_eraseP h.keys (fun a ha b hb hpa hpb => ?_) he
    · simpa using hnot
    · have hsa := (h.handles a ha s (of_decide_eq_true hpa)).1
      have hsb := (h.handles b hb s (of_decide_eq_true hpb)).1
      rw [← hsa, ← hsb]
  have hkeep : ∀ x ≠ s, (∃ e ∈ v.sessions, e.handle = some x) →
      ∃ e ∈ v.sessions.eraseP (fun e => e.handle = some s), e.handle = some x := by
    rintro x hne ⟨e, he, hh⟩
    refine ⟨e, (List.mem_eraseP_of_neg ?_).2 he, hh⟩
    rw [hh]
    simpa using hne
  have hs : s ∈ v.opened ∧ s ∉ v.closing := by
    obtain ⟨e, he, hh⟩ := hopen
    exact (h.handles e he s hh).2
  refine { h with keys := ?_, handles := ?_, held := ?_, asked := ?_, given := ?_, closing := ?_, closingOpen := ?_ }
  · exact h.keys.sublist (List.eraseP_sublist.map _)
  · intro e he x hx
    obtain ⟨hxs, hxo, hxc⟩ := h.handles e (List.mem_of_mem_eraseP he) x hx
    refine ⟨hxs, hxo, fun hin => ?_⟩
    rcases List.mem_append.1 hin with hin | hin
    · exact hxc hin
    · rw [List.mem_singleton.1 hin] at hx
      exact hgone e he hx
  · exact fun e he => h.held e (List.mem_of_mem_eraseP he)
  · exact fun b hb => hkeep _ (hquiet b hb) (h.asked b hb)
  · intro b hb
    by_cases hbs : b.session = s
    · exact .inr (List.mem_append_right _ (List.mem_singleton.2 hbs))
    · exact (h.given b hb).imp (hkeep _ hbs) (List.mem_append_left _)
  · rw [FdServer.close, (List.perm_append_singleton s v.closing).nodup_iff, List.nodup_cons]
    exact ⟨hs.2, h.closing⟩
  · intro x hx
    rcases List.mem_append.1 hx with hx | hx
    · exact h.closingOpen x hx
    · rw [List.mem_singleton.1 hx]
      exact hs.1

theorem FdServer.Ok.closed (h : v.Ok) {i : Nat} {s : SessId} (hs : v.closing[i]? = some s) :
    (FdServer.closed { v with closing := v.closing.eraseIdx i } s).Ok := by
  have hperm := cons_eraseIdx_perm hs
  have hmem : s ∈ v.closing := List.mem_of_getElem? hs
  have hnot : s ∉ v.closing.eraseIdx i := (List.nodup_cons.1 (hperm.nodup_iff.2 h.closing)).1
  have hother : ∀ e ∈ v.sessions, ∀ x ∈ e.handle, x ≠ s := by
    rintro e he x hx rfl
    exact (h.handles e he x hx).2.2 hmem
  refine { h with handles := ?_, held := ?_, given := ?_, closing := ?_, closingOpen := ?_, dups := ?_ }
  · intro e he x hx
    obtain ⟨hxs, hxo, hxc⟩ := h.handles e he x hx
    refine ⟨hxs, List.mem_filter.2 ⟨hxo, by simpa using hother e he x hx⟩, fun hin => ?_⟩
    exact hxc (List.mem_of_mem_eraseIdx hin)
  · intro e he
    have hsame : ((v.accepted.filter fun b => b.session ≠ s).filter fun b => e.handle = some b.session) =
        v.accepted.filter fun b => e.handle = some b.session := by
      rw [List.filter_filter]
      refine List.filter_congr fun b _ => ?_
      by_cases hb : e.handle = some b.session
      · simp [hb, hother e he b.session hb]
      · simp [hb]
    show e.sharedMemFdList.Perm (((v.inProgress ++ v.accepted.filter fun b => b.session ≠ s).filter fun b =>
      e.handle = some b.session).map RwBuffer.fds)
    rw [List.filter_append, hsame, ← List.filter_append]
    exact h.held e he
  · intro b hb
    obtain ⟨hb, hne⟩ := List.mem_filter.1 hb
    refine (h.given b hb).imp_right fun hclosing => ?_
    rcases List.mem_cons.1 (hperm.mem_iff.2 hclosing) with heq | hin
    · simp [heq] at hne
    · exact hin
  · exact h.closing.sublist (List.eraseIdx_sublist ..)
  · intro x hx
    refine List.mem_filter.2 ⟨h.closingOpen x (List.mem_of_mem_eraseIdx hx), ?_⟩
    have hne : x ≠ s := by
      rintro rfl
      exact hnot hx
    simpa using hne
  · exact h.dups.sublist ((List.Sublist.append_left List.filter_sublist _).map _)

/-- The entry of a session has the descriptors of the buffer that is done, and no others with that duplicate. -/
theorem FdServer.Ok.find (h : v.Ok) {b : RwBuffer} {rest : List RwBuffer} (hhand : (b :: rest).Perm v.inHand) {e : FdSession}
    (he : e ∈ v.sessions) (hh : e.handle = some b.session) :
    e.sharedMemFdList.find? (fun fds => fds.2 = b.dupFd) = some b.fds ∧
    (e.sharedMemFdList.eraseP fun fds => fds.2 = b.dupFd).Perm
      ((rest.filter fun c => e.handle = some c.session).map RwBuffer.fds) := by
  have hperm := (h.held e he).trans (perm_fds hhand _).symm
  rw [List.filter_cons_of_pos (by simpa using hh), List.map_cons] at hperm
  refine find?_eraseP_of_perm hperm (by simp [RwBuffer.fds]) fun fds hfds => ?_
  obtain ⟨c, hc, rfl⟩ := List.mem_map.1 hfds
  have hnodup := (hhand.map RwBuffer.dupFd).nodup_iff.2 h.dups
  rw [List.map_cons, List.nodup_cons] at hnodup
  refine decide_eq_false fun heq => hnodup.1 ?_
  exact List.mem_map.2 ⟨c, List.mem_of_mem_filter hc, heq⟩

theorem FdServer.Ok.done (h : v.Ok) {i : Nat} {b : RwBuffer} (hb : v.accepted[i]? = some b) (hbound : v.bound = true)
    (hone : v.callbacks.count b.session = 1) (hquiet : b.session ∉ v.closing) :
    (FdServer.done { v with accepted := v.accepted.eraseIdx i } b).Ok := by
  have hhand : (b :: (v.inProgress ++ v.accepted.eraseIdx i)).Perm v.inHand :=
    List.perm_middle.symm.trans ((cons_eraseIdx_perm hb).append_left v.inProgress)
  obtain ⟨e, he, hh⟩ : ∃ e ∈ v.sessions, e.handle = some b.session :=
    (h.given b (List.mem_of_getElem? hb)).resolve_right hquiet
  have hid : b.session = e.sessionId := (h.handles e he _ hh).1
  have hfind : findFd b.session b.dupFd v.sessions = b.inputFd := by
    rw [findFd, hid, filter_key_of_nodup h.keys he]
    simp only [List.filterMap_cons, (h.find hhand he hh).1, List.filterMap_nil, List.getLast?_singleton, Option.map_some,
      Option.getD_some]
    rfl
  have hmem : ∀ e' ∈ eraseFd b.session b.dupFd v.sessions, ∃ e ∈ v.sessions, e'.sessionId = e.sessionId ∧
      e'.handle = e.handle ∧ e'.sharedMemFdList = if e.sessionId = b.session then
        e.sharedMemFdList.eraseP (fun fds => fds.2 = b.dupFd) else e.sharedMemFdList := by
    intro e' he'
    obtain ⟨e, he, rfl⟩ := List.mem_map.1 he'
    refine ⟨e, he, ?_⟩
    split <;> exact ⟨rfl, rfl, rfl⟩
  have hkeep : ∀ x, (∃ e ∈ v.sessions, e.handle = some x) →
      ∃ e ∈ eraseFd b.session b.dupFd v.sessions, e.handle = some x :=
    fun _ => exists_handle_ite fun _ => rfl
  have hdone : FdServer.done { v with accepted := v.accepted.eraseIdx i } b =
      { v with accepted := v.accepted.eraseIdx i, completed := v.completed ++ [b],
               sessions := eraseFd b.session b.dupFd v.sessions, reported := v.reported ++ [(b.request, b.inputFd)] } := by
    rw [FdServer.done, hone, Function.iterate_one, ipcCallback, if_pos hbound, hfind]
  rw [hdone]
  refine { h with keys := ?_, handles := ?_, held := ?_, asked := ?_, given := ?_, dups := ?_, reported := ?_ }
  · exact nodup_sessionId_ite (fun _ => rfl) h.keys
  · intro e' he' x hx
    obtain ⟨e, he, hid, hhandle, -⟩ := hmem e' he'
    rw [hid]
    rw [hhandle] at hx
    exact h.handles e he x hx
  · intro e' he'
    obtain ⟨e, he, -, hhandle, hlist⟩ := hmem e' he'
    rw [hlist, hhandle]
    show List.Perm _ (((v.inProgress ++ v.accepted.eraseIdx i).filter fun c => e.handle = some c.session).map RwBuffer.fds)
    cases hx : e.handle with
    | none =>
      rw [h.list_nil he hx, List.filter_eq_nil_iff.2 fun c _ => by simp]
      split <;> exact List.Perm.refl []
    | some x =>
      obtain ⟨hxs, -, -⟩ := h.handles e he x hx
      by_cases hs : e.sessionId = b.session
      · have hx' : e.handle = some b.session := by rw [hx, hxs, hs]
        rw [if_pos hs, ← hx]
        exact (h.find hhand he hx').2
      · have hperm := (h.held e he).trans (perm_fds hhand _).symm
        rw [List.filter_cons_of_neg (by rw [hx, hxs]; simpa using hs)] at hperm
        rw [if_neg hs, ← hx]
        exact hperm
  · exact fun c hc => hkeep _ (h.asked c hc)
  · exact fun c hc => (h.given c (List.mem_of_mem_eraseIdx hc)).imp_left (hkeep _)
  · have hnodup := (hhand.map RwBuffer.dupFd).nodup_iff.2 h.dups
    exact (List.nodup_cons.1 hnodup).2
  · show v.reported ++ [(b.request, b.inputFd)] = (v.completed ++ [b]).map fun b => (b.request, b.inputFd)
    rw [List.map_append, h.reported]
    rfl

end

/-- **Descriptors find their way back.**  In every run under the guard the list of a session has the descriptors of its
buffers in hand, and every buffer that is done was reported once, with the descriptor of its request. -/
theorem fds_right {v : FdServer} (hr : Runs fdExec fdGuard {} v) : v.Right := by
  have hok : v.Ok := by
    have hstart : FdServer.Ok {} := by
      refine ⟨List.nodup_nil, ?_, ?_, ?_, ?_, List.nodup_nil, ?_, List.nodup_nil, rfl⟩
      all_goals exact fun x hx => (nomatch hx)
    refine hr.invariant hstart fun v ev r w hv hg he => ?_
    obtain ⟨w', hw, heq⟩ := Option.map_eq_some_iff.1 he
    obtain ⟨-, rfl⟩ := Prod.mk.inj heq
    obtain ⟨hassumed, hg⟩ := hg
    cases ev with
    | registerBinder =>
      obtain rfl := Option.some.inj hw
      exact { hv with }
    | registerCallback s =>
      obtain rfl := Option.some.inj hw
      exact { hv with }
    | deregisterCallback s =>
      obtain rfl := Option.some.inj hw
      exact { hv with }
    | «open» s ok =>
      obtain rfl := Option.some.inj hw
      exact hv.open s ok
    | request s inputFd dupFd =>
      obtain rfl := Option.some.inj hw
      exact hv.request hassumed.1 hassumed.2
    | call i ok =>
      obtain ⟨b, hb, rfl⟩ := Option.map_eq_some_iff.1 hw
      obtain rfl : ok = true := hg
      exact hv.call hb
    | close s =>
      obtain rfl := Option.some.inj hw
      exact hv.close hassumed hg
    | closed i =>
      obtain ⟨s, hs, rfl⟩ := Option.map_eq_some_iff.1 hw
      exact hv.closed hs
    | done i =>
      obtain ⟨b, hb, rfl⟩ := Option.map_eq_some_iff.1 hw
      obtain ⟨hbound, hone, hquiet⟩ := hg b hb
      exact hv.done hb hbound hone hquiet
  exact ⟨hok.held, hok.reported⟩

/-- Two sessions, with buffers that are done out of order; one is closed with a buffer in hand. -/
theorem fds_right_two : ∃ v, Runs fdExec fdGuard {} v ∧ v.sessions = [⟨1, some 1, [(10, 50)]⟩] ∧
    v.reported = [(1, 11), (2, 12)] ∧ v.Right := by
  obtain ⟨v, hr, hv⟩ := Runs.exists_of_execAll fdExec fdGuard
    [.registerBinder, .open 1 true, .open 2 true, .registerCallback 1, .registerCallback 2, .request 1 10 50,
      .request 2 11 51, .call 1 true, .done 0, .call 0 true, .request 1 12 51, .call 0 true, .request 2 13 52, .call 0 true,
      .done 1, .close 2, .closed 0] {} (fun v => (v.sessions, v.reported))
    (b := ([⟨1, some 1, [(10, 50)]⟩], [(1, 11), (2, 12)])) (by decide +kernel)
  exact ⟨v, hr, congrArg Prod.fst hv, congrArg Prod.snd hv, fds_right hr⟩

/-- A request that GSL refuses leaves its descriptors behind. -/
theorem failed_request_leaves_fds : ∃ v, Runs fdExec fdAssumed {} v ∧ v.inHand = [] ∧
    v.sessions = [⟨1, some 1, [(10, 50)]⟩] ∧ ¬ v.Right := by
  obtain ⟨v, hr, hv⟩ := Runs.exists_of_execAll fdExec fdAssumed
    [.registerBinder, .open 1 true, .registerCallback 1, .request 1 10 50, .call 0 false] {}
    (fun v => (v.inHand, v.sessions)) (b := ([], [⟨1, some 1, [(10, 50)]⟩])) (by decide +kernel)
  obtain ⟨hhand, hsessions⟩ := Prod.mk.inj hv
  refine ⟨v, hr, hhand, hsessions, fun hright => ?_⟩
  have hheld := hright.held ⟨1, some 1, [(10, 50)]⟩ (by rw [hsessions]; exact List.mem_singleton_self _)
  rw [hhand] at hheld
  exact absurd hheld.length_eq (by decide)

end Agm.Ipc
