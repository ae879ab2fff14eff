import Agm.Ipc.Server
import Agm.Service.OpenSpec

/-!
# The death of a client

`serviceDied` clears every session in the list of the client that died, whether it has a handle for it or not: sessions have
no owner, and any client may name any session.  It closes the session where there is a handle, it disconnects and clears
the back ends in `aif_id_list`, and it clears what is kept for the session as a whole.  The rest it leaves alone, but for
the callbacks that the client itself has registered.
-/

namespace Agm.Ipc

open Agm.Lib Agm.Service

/-! ## What a call of the service leaves alone -/

/-- An operation on one session leaves the others as they are. -/
theorem exec_frame {o : SessId × Op} {w w' : World} {r : Int} (h : exec o w = some (r, w')) {x : SessId}
    (hx : x ∈ w.pool.ids) (hne : x ≠ o.1) : x ∈ w'.pool.ids ∧ w'.pool.objs x = w.pool.objs x := by
  refine exec_inv (I := fun w' => x ∈ w'.pool.ids ∧ w'.pool.objs x = w.pool.objs x) h ⟨hx, rfl⟩ ?_ ?_
  · have hgrows : w.pool.Grows sessionObjCreate (w.get o.1).pool := Pool.grows_getOrCreate w.pool o.1
    exact ⟨hgrows.mem hx, hgrows.objs hx⟩
  · rintro - ⟨hmem, hobj⟩
    refine (grows_run o.2 _).mono fun _ c hc => ?_
    have hpool : (w.enter o).pool.Grows sessionObjCreate c.pool := hc.pool
    refine ⟨hpool.mem hmem, ?_⟩
    show (c.pool.put o.1 c.sess).objs x = _
    rw [Pool.put_objs_of_ne _ _ hne, hpool.objs hmem, hobj]

/-- A call on one session leaves the others, and their callbacks, as they are. -/
theorem Backend.call_frame {b b' : Backend} {c : Call} {r : Int} (h : b.call c = some (r, b')) {x : SessId}
    (hx : x ∈ b.world.pool.ids) (hne : x ≠ c.session) :
    b'.world.pool.objs x = b.world.pool.objs x ∧ b'.cbPool x = b.cbPool x := by
  have hget : ∀ s, (b.world.get s).pool.objs x = b.world.pool.objs x :=
    fun s => Pool.getOrCreate_objs_of_mem b.world.pool s (sessionObjCreate s) hx
  cases c with
  | op s op =>
    obtain ⟨p, hp, he⟩ := Option.map_eq_some_iff.1 h
    obtain ⟨-, rfl⟩ := Prod.mk.inj he
    exact ⟨(exec_frame hp hx hne).2, rfl⟩
  | register s event addr =>
    obtain ⟨-, rfl⟩ := Prod.mk.inj (Option.some.inj h)
    exact ⟨hget s, if_neg hne⟩
  | unregister s event addr =>
    obtain ⟨-, rfl⟩ := Prod.mk.inj (Option.some.inj h)
    exact ⟨hget s, if_neg hne⟩

/-! ## What a clean-up calls for a session in its list -/

/-- What an operation keeps of its own session, and a session that is found does not disturb. -/
theorem exec_own {R : SessionObj → SessionObj → Prop} (hrefl : ∀ s, R s s) {x : SessId} {op : Op} {w w' : World} {r : Int}
    (h : exec (x, op) w = some (r, w')) (hx : x ∈ w.pool.ids) (hrun : Within (fun c c' => R c.sess c'.sess) op.run) :
    R (w.pool.objs x) (w'.pool.objs x) := by
  have hget : (w.get x).pool.objs x = w.pool.objs x := Pool.getOrCreate_objs_of_mem w.pool x (sessionObjCreate x) hx
  refine exec_inv (I := fun w' => R (w.pool.objs x) (w'.pool.objs x)) h (hrefl _) ?_ fun _ _ => ?_
  · show R _ ((w.get x).pool.objs x)
    rw [hget]
    exact hrefl _
  · refine (hrun _).mono fun _ c hc => ?_
    have henter : ((w.enter (x, op)).lock x).sess = w.pool.objs x := by
      show (w.enter (x, op)).pool.objs x = _
      unfold World.enter
      split
      · rfl
      · exact hget
    have hrel : R (w.pool.objs x) c.sess := henter ▸ hc
    show R _ ((c.pool.put x c.sess).objs x)
    rwa [Pool.put_objs_self]

/-- The back ends of a session but for these. -/
def aifsBut (s : SessionObj) (ids : List Nat) : List Aif := s.aifPool.filter fun a => a.aifId ∉ ids

/-- A back end but for whether it is connected, and for what waits for that. -/
def aifSettings (a : Aif) : Aif := { a with state := .closed, tagConfig := none }

/-- The state of the session, and what it has of other back ends, are as they were. -/
def ClearsOnly (ids : List Nat) (s s' : SessionObj) : Prop := s'.state = s.state ∧ aifsBut s' ids = aifsBut s ids

/-- The session is closed, and its settings are as they were. -/
def ClosesOnly (s s' : SessionObj) : Prop := s'.aifPool.map aifSettings = s.aifPool.map aifSettings

instance (ids : List Nat) : IsPreorder Ctx fun c c' => ClearsOnly ids c.sess c'.sess where
  refl _ := ⟨rfl, rfl⟩
  trans _ _ _ h h' := ⟨h'.1.trans h.1, h'.2.trans h.2⟩

instance : IsPreorder Ctx fun c c' => ClosesOnly c.sess c'.sess where
  refl _ := rfl
  trans _ _ _ h h' := h'.trans h

section

variable {ids : List Nat}

theorem ClearsOnly.setAif {s : SessionObj} {i : Nat} (hi : i < s.aifPool.length) (hid : (s.aifAt i).aifId ∈ ids) {a : Aif}
    (ha : a.aifId ∈ ids) : ClearsOnly ids s (s.setAif i a) := by
  obtain ⟨done, todo, hl, hset⟩ := exists_set_eq s.aifPool i default hi
  refine ⟨rfl, ?_⟩
  show (s.aifPool.set i a).filter _ = s.aifPool.filter _
  conv_rhs => rw [hl]
  rw [hset, List.filter_append, List.filter_append, List.filter_cons_of_neg (by simpa using ha),
    List.filter_cons_of_neg (by simpa [SessionObj.aifAt] using hid)]

/-- A function that changes the back end with an id of the list. -/
theorem clears_onAif {aifId : Nat} (hid : aifId ∈ ids) {k : Nat → M Int} (hk : ∀ i c, i < c.sess.aifPool.length →
      (c.sess.aifAt i).aifId = aifId → Sat (k i) c fun _ c' => ClearsOnly ids c.sess c'.sess) :
    Within (fun c c' => ClearsOnly ids c.sess c'.sess) (aifObjGet aifId >>= fun r => match r with
      | .error ret => pure ret
      | .ok i => k i) := by
  intro c
  refine Sat.bind (sat_aifObjGet aifId c) fun r c₁ h₁ => ?_
  cases r with
  | error e =>
    rw [sat_pure, h₁.2]
    exact ⟨rfl, rfl⟩
  | ok i =>
    obtain ⟨hi, ⟨rfl, hfind⟩ | ⟨-, rfl, rfl⟩⟩ := h₁
    · refine hk i c₁ hi ?_
      obtain ⟨_, hp, -⟩ := List.findIdx?_eq_some_iff_getElem.1 hfind
      rw [SessionObj.aifAt, List.getD_eq_getElem?_getD, List.getElem?_eq_getElem hi]
      exact of_decide_eq_true hp
    · refine (hk _ _ hi ?_).mono fun _ c' hc => ⟨hc.1, hc.2.trans ?_⟩
      · simp [SessionObj.aifAt]
      · simp [aifsBut, List.filter_append, hid]

theorem clears_setSessAifParams {aifId : Nat} (hid : aifId ∈ ids) :
    Within (fun c c' => ClearsOnly ids c.sess c'.sess) (sessionObjSetSessAifParams aifId []) := by
  refine clears_onAif hid fun i c hi hat => ?_
  rw [sat_bind, sat_modSess, sat_bind, sat_get, if_neg (fun h => h.1 rfl), sat_pure]
  exact .setAif hi (hat ▸ hid) (hat ▸ hid)

theorem clears_setSessAifMetadata {aifId : Nat} (hid : aifId ∈ ids) (ret : Int) (md : Metadata) :
    Within (fun c c' => ClearsOnly ids c.sess c'.sess) (sessionObjSetSessAifMetadata aifId ret md) := by
  refine clears_onAif hid fun i c hi hat => ?_
  rw [sat_bind, sat_modSess, sat_pure]
  exact .setAif hi (hat ▸ hid) (hat ▸ hid)

theorem clears_hotDisconnect {aifId i n : Nat} (hid : aifId ∈ ids) {c : Ctx} (hi : i < c.sess.aifPool.length)
    (hat : (c.sess.aifAt i).aifId = aifId) : Sat (hotDisconnect i n) c fun _ c' => ClearsOnly ids c.sess c'.sess := by
  unfold hotDisconnect
  rw [sat_bind, sat_modSess, sat_bind, sat_get]
  set c₁ : Ctx := { c with sess := c.sess.setAifState i .close } with hc₁
  have h₁ : ClearsOnly ids c.sess c₁.sess := .setAif hi (hat ▸ hid) (hat ▸ hid)
  have hat₁ : (c₁.sess.aifAt i).aifId = aifId := by
    rw [hc₁]
    simp [SessionObj.setAifState, SessionObj.setAif, SessionObj.aifAt, hi] at hat ⊢
    exact hat
  have hi₁ : i < c₁.sess.aifPool.length := by simpa [hc₁, SessionObj.setAifState, SessionObj.setAif] using hi
  have hstep : Sat (onlyIf (c₁.sess.state ≠ .closed) (sessionDisconnectAif (c₁.sess.aifAt i) n)) c₁
      fun _ c' => c₁.AifStep c' :=
    (sat_onlyIf _ _ _).2 ⟨fun _ => (sat_sessionDisconnectAif _ n c₁).mono fun _ _ h => h.1, fun _ => refl_of Ctx.AifStep c₁⟩
  refine Sat.bind hstep fun r c₂ h₂ => ?_
  have h₁₂ : ClearsOnly ids c.sess c₂.sess := ⟨h₂.state.trans h₁.1, by rw [aifsBut, h₂.aifPool]; exact h₁.2⟩
  rw [sat_ite, sat_pure, sat_bind, sat_modSess, sat_pure]
  refine ⟨fun _ => h₁₂, fun _ => ?_⟩
  have h₂₃ : ClearsOnly ids c₂.sess (c₂.sess.setAifState i .closed) := by
    have hat₂ : (c₂.sess.aifAt i).aifId = aifId := by rwa [SessionObj.aifAt, h₂.aifPool]
    exact .setAif (by rwa [h₂.aifPool]) (hat₂ ▸ hid) (hat₂ ▸ hid)
  exact ⟨h₂₃.1.trans h₁₂.1, h₂₃.2.trans h₁₂.2⟩

theorem clears_sessAifConnect {aifId : Nat} (hid : aifId ∈ ids) :
    Within (fun c c' => ClearsOnly ids c.sess c'.sess) (sessionObjSessAifConnect aifId false) := by
  refine clears_onAif hid fun i c hi hat => ?_
  rw [sat_bind, sat_get]
  dsimp only
  rw [sat_ite, sat_pure]
  exact ⟨fun _ => ⟨rfl, rfl⟩, fun _ => clears_hotDisconnect hid hi hat⟩

/-- What is cleared of a session: back ends in the list of the client, and what is kept for the session as a whole. -/
theorem clears_run {e : ClientSession} {hadHandle : Bool} {s : SessId} {op : Op} (h : .op s op ∈ e.clearing hadHandle) :
    Within (fun c c' => ClearsOnly e.aifIdList c.sess c'.sess) op.run := by
  have hmod {f : SessionObj → SessionObj} (hf : ∀ s, (f s).state = s.state ∧ (f s).aifPool = s.aifPool) :
      Within (fun c c' => ClearsOnly e.aifIdList c.sess c'.sess) (modSess f) :=
    within_modify fun c => ⟨(hf c.sess).1, by rw [aifsBut, (hf c.sess).2]; rfl⟩
  unfold ClientSession.clearing at h
  rcases List.mem_append.1 h with h | h
  · obtain ⟨aifId, hid, h⟩ := List.mem_flatMap.1 h
    have hop : op = .setSessAifParams aifId [] ∨ op = .sessAifConnect aifId false ∨ op = .setSessAifMetadata aifId 0 {} := by
      cases hadHandle <;> simp at h <;> grind
    rcases hop with rfl | rfl | rfl
    · exact clears_setSessAifParams hid
    · exact clears_sessAifConnect hid
    · exact clears_setSessAifMetadata hid 0 {}
  · have hop : op = .setSessMetadata 0 {} ∨ op = .setSessParams [] := by
      simp at h
      grind
    rcases hop with rfl | rfl
    · exact within_bind (hmod fun _ => ⟨rfl, rfl⟩) fun _ => within_pure _
    · refine within_bind (hmod fun _ => ⟨rfl, rfl⟩) fun _ => within_bind within_get fun c => ?_
      rw [if_neg fun h => h.1 rfl]
      exact within_pure _

end

/-- `session_close` closes. -/
theorem closes_sessionClose : Within (fun c c' => ClosesOnly c.sess c'.sess) sessionClose := by
  have hgraph {α : Type} {m : M α} (h : Within Ctx.GraphStep m) : Within (fun c c' => ClosesOnly c.sess c'.sess) m :=
    h.mono fun c c' hc => by rw [ClosesOnly, hc.aifStep.aifPool]
  have hmod {f : SessionObj → SessionObj} (hf : ∀ s, (f s).aifPool = s.aifPool) :
      Within (fun c c' => ClosesOnly c.sess c'.sess) (modSess f) :=
    within_modify fun c => by rw [ClosesOnly, hf]
  have hall (ret : Int) : Within (fun c c' => ClosesOnly c.sess c'.sess) (mapEachAif closeAif ret) := by
    intro c
    refine (sat_mapEachAif_rel (I := fun _ => True) (S := fun a b => aifSettings b = aifSettings a) (fun _ _ h => h) ?_
      trivial).mono fun _ c' h => ?_
    · intro ret a c _
      refine (sat_closeAif ret a c).mono fun p c' h => ⟨trivial, ?_⟩
      rcases h.2.2 with ⟨-, hp, -⟩ | ⟨-, hp, -⟩
      · rw [hp]
        rfl
      · rw [hp]
        rfl
    · have hmap := List.forall₂_map_left_iff.2 (List.forall₂_map_right_iff.2 h.2.flip)
      rwa [List.forall₂_eq_eq_eq] at hmap
  refine within_bind within_get fun c => within_ite (within_pure _) ?_
  refine within_bind (within_onlyIf (hgraph fun c => (sat_graphStop c).mono fun _ _ h => h.1)) fun _ => ?_
  refine within_bind (hgraph fun c => (sat_graphClose c).mono fun _ _ h => h.1) fun _ => ?_
  refine within_bind (hmod fun _ => rfl) fun _ => within_bind (within_onlyIf (hall _)) fun _ => ?_
  exact within_bind (hmod fun _ => rfl) fun _ => within_pure _

/-! ## The lists of the clients -/

section

variable {pid q : Nat} {s x : SessId} {f : ClientSession → ClientSession} {l : List ClientSession}

theorem mem_getSessionHandle {e : ClientSession} (h : e ∈ getSessionHandle pid s l) :
    e ∈ l ∨ e = { pid := pid, sessionId := s } := by
  unfold getSessionHandle at h
  split at h
  · exact .inl h
  · exact (List.mem_append.1 h).imp_right List.mem_singleton.1

theorem forall_onSession {P : ClientSession → Prop} (h : ∀ e ∈ l, P e) (hnew : P { pid := pid, sessionId := s })
    (hf : ∀ e, e.is pid s → P e → P (f e)) : ∀ e ∈ onSession pid s f l, P e := by
  have hget : ∀ e ∈ getSessionHandle pid s l, P e := by
    intro e he
    rcases mem_getSessionHandle he with he | rfl
    · exact h e he
    · exact hnew
  intro e' he'
  obtain ⟨e, he, rfl⟩ := List.mem_map.1 he'
  split
  · next his => exact hf e his (hget e he)
  · exact hget e he

/-- An entry stays, or is the one that is changed. -/
theorem exists_onSession (pid : Nat) (s : SessId) (f : ClientSession → ClientSession) {e : ClientSession} (he : e ∈ l) :
    ∃ e' ∈ onSession pid s f l, e' = e ∨ e.is pid s ∧ e' = f e := by
  have hmem : e ∈ getSessionHandle pid s l := by
    unfold getSessionHandle
    split
    · exact he
    · exact List.mem_append_left _ he
  refine ⟨_, List.mem_map_of_mem hmem, ?_⟩
  split
  · next his => exact .inr ⟨his, rfl⟩
  · exact .inl rfl

/-- An entry of another process stays. -/
theorem mem_eraseP_of_pid (pid : Nat) {p : ClientSession → Bool} (hp : ∀ e, p e → e.pid = pid) {e : ClientSession} (he : e ∈ l)
    (hne : e.pid ≠ pid) : e ∈ l.eraseP p :=
  (List.mem_eraseP_of_neg fun hpe => hne (hp e hpe)).2 he

theorem ClientSession.is_iff {e : ClientSession} : e.is pid s ↔ e.pid = pid ∧ e.sessionId = s := by
  simp [ClientSession.is]

end

/-! ## The invariant -/

/-- An entry is for a session that its client has named, and its handle is one for that session. -/
def Server.EntryOk (v : Server) (e : ClientSession) : Prop :=
  (∀ h ∈ e.handle, h = e.sessionId) ∧ ∃ req, (e.pid, req) ∈ v.requested ∧ req.names e.sessionId

/-- A clean-up unregisters the callbacks of its client; then it closes a session for which its client has a handle, or
clears what is in the list of its client. -/
def Server.CleanupOk (v : Server) (cl : Cleanup) : Prop :=
  match cl.phase with
  | .callbacks => ∀ c ∈ cl.calls, ∃ k ∈ v.registered, k.pid = cl.pid ∧ c = .unregister k.sessionId k.event k.addr
  | .between => cl.calls = []
  | .closing s => ∃ e ∈ v.sessions, e.is cl.pid s ∧ ∀ c ∈ cl.calls, c = .op s .close ∧ e.handle.isSome
  | .clearing s => ∃ e ∈ v.sessions, e.is cl.pid s ∧ ∀ c ∈ cl.calls, ∃ hadHandle, c ∈ e.clearing hadHandle

/-- The clean-up holds `client_list_lock`. -/
def Cleanup.holdsList (cl : Cleanup) : Bool :=
  match cl.phase with
  | .between | .clearing _ => true
  | _ => false

structure Server.Ok (v : Server) : Prop where
  entries : ∀ e ∈ v.sessions, v.EntryOk e
  opens : ∀ pid s mode, (pid, .open s mode) ∈ v.inFlight → (pid, .sessionOpen s mode) ∈ v.requested
  clbks : ∀ k ∈ v.clbkDataList, k ∈ v.registered
  cleanups : ∀ cl ∈ v.cleanups, v.CleanupOk cl
  locked : ∀ cl ∈ v.cleanups, cl.holdsList → v.listLock
  one : ∀ cl ∈ v.cleanups, ∀ cl' ∈ v.cleanups, cl.holdsList → cl'.holdsList → cl.pid = cl'.pid

/-- The entries that a clean-up works on stay, with their handles, and with the back ends if it holds the lock. -/
def Server.Keeps (v w : Server) (cl : Cleanup) : Prop :=
  ∀ s ∈ cl.locked, ∀ e ∈ v.sessions, e.is cl.pid s →
    ∃ e' ∈ w.sessions, e'.is cl.pid s ∧ e'.handle = e.handle ∧ (cl.holdsList → e'.aifIdList = e.aifIdList)

theorem Server.Keeps.of_mem {v w : Server} {cl : Cleanup} (h : ∀ e ∈ v.sessions, e.pid = cl.pid → e ∈ w.sessions) :
    v.Keeps w cl := fun _ _ e he his => ⟨e, h e he (ClientSession.is_iff.1 his).1, his, rfl, fun _ => rfl⟩

/-- A clean-up does not notice what happens elsewhere. -/
theorem Server.CleanupOk.mono {v w : Server} {cl : Cleanup} (h : v.CleanupOk cl) (hkept : v.Keeps w cl)
    (hreg : ∀ k ∈ v.registered, k ∈ w.registered) : w.CleanupOk cl := by
  unfold Server.CleanupOk at h ⊢
  unfold Server.Keeps Cleanup.locked Cleanup.holdsList at hkept
  cases hphase : cl.phase with
  | callbacks =>
    rw [hphase] at h
    intro c hc
    obtain ⟨k, hk, hpid, heq⟩ := h c hc
    exact ⟨k, hreg k hk, hpid, heq⟩
  | between =>
    rw [hphase] at h
    exact h
  | closing s =>
    rw [hphase] at h hkept
    obtain ⟨e, he, his, hcalls⟩ := h
    obtain ⟨e', he', his', hhandle, -⟩ := hkept s rfl e he his
    exact ⟨e', he', his', by rwa [hhandle]⟩
  | clearing s =>
    rw [hphase] at h hkept
    obtain ⟨e, he, his, hcalls⟩ := h
    obtain ⟨e', he', his', -, haifs⟩ := hkept s rfl e he his
    refine ⟨e', he', his', ?_⟩
    have hsess : e'.sessionId = e.sessionId :=
      (ClientSession.is_iff.1 his').2.trans (ClientSession.is_iff.1 his).2.symm
    unfold ClientSession.clearing
    rw [hsess, haifs rfl]
    exact hcalls

theorem Server.EntryOk.mono {v w : Server} {e : ClientSession} (h : v.EntryOk e)
    (hreq : ∀ r ∈ v.requested, r ∈ w.requested) : w.EntryOk e :=
  ⟨h.1, h.2.imp fun _ hr => ⟨hreq _ hr.1, hr.2⟩⟩

/-! ## Requests -/

section

variable {v w : Server} {pid : Nat}

/-- What a walk does to the entries: nothing; one entry is created or changed, which the request names; or the first with a
handle goes, while no clean-up works on an entry of the caller.  Entries change only while no clean-up holds the lock. -/
inductive Walk (v : Server) (pid : Nat) (req : IpcRequest) (l : List ClientSession) : Prop
  | same (h : l = v.sessions)
  | one (s : SessId) (f : ClientSession → ClientSession) (hfree : ¬ v.listLock) (hnames : req.names s)
      (hf : ∀ e, (f e).pid = e.pid ∧ (f e).sessionId = e.sessionId ∧ (f e).handle = e.handle)
      (h : l = onSession pid s f v.sessions)
  | gone (hndl : Option SessId) (hfree : ∀ cl ∈ v.cleanups, cl.pid = pid → cl.locked = none)
      (h : l = removeHandle pid hndl v.sessions)

theorem getSessionHandle_eq (pid : Nat) (s : SessId) (l : List ClientSession) :
    getSessionHandle pid s l = onSession pid s id l := by
  simp [onSession]

/-- What is kept besides the entries. -/
structure Walked (v : Server) (req : IpcRequest) (p : Server × Option Pending) : Prop where
  listLock : p.1.listLock = v.listLock
  inFlight : p.1.inFlight = v.inFlight
  requested : p.1.requested = v.requested
  cleanups : p.1.cleanups = v.cleanups
  registered : ∀ k ∈ v.registered, k ∈ p.1.registered
  clbks : ∀ k ∈ p.1.clbkDataList, k ∈ v.clbkDataList ∨ k ∈ p.1.registered
  opens : ∀ s mode, p.2 = some (.open s mode) → req = .sessionOpen s mode

/-- The inversion lemma for the walks. -/
theorem walk_cases {req : IpcRequest} {p : Server × Option Pending} (h : v.walk pid req = some p) :
    Walk v pid req p.1.sessions ∧ Walked v req p := by
  have hlists : ∀ (l : List ClientSession) (pending : Option Pending),
      (∀ s mode, pending = some (.open s mode) → req = .sessionOpen s mode) →
      Walked v req ({ v with sessions := l }, pending) := fun l pending hopen =>
    ⟨rfl, rfl, rfl, rfl, fun _ hk => hk, fun _ hk => .inl hk, hopen⟩
  cases req with
  | sessionSetMetadata s numGkv ret md =>
    obtain ⟨hfree, h⟩ := Option.ite_none_left_eq_some.1 h
    obtain rfl := Option.some.inj h
    refine ⟨?_, hlists _ _ fun s mode h => (nomatch h)⟩
    show Walk v pid _ (if numGkv ≠ 0 then getSessionHandle pid s v.sessions else v.sessions)
    split
    · next hne =>
      refine .one s id hfree ?_ (fun e => ⟨rfl, rfl, rfl⟩) (getSessionHandle_eq ..)
      simp [IpcRequest.names, hne]
    · exact .same rfl
  | sessionAifSetMetadata s aifId numGkv ret md =>
    obtain ⟨hfree, h⟩ := Option.ite_none_left_eq_some.1 h
    obtain rfl := Option.some.inj h
    refine ⟨?_, hlists _ _ fun s mode h => (nomatch h)⟩
    show Walk v pid _ (if numGkv ≠ 0 then addSessionAifToList pid s aifId v.sessions else v.sessions)
    split
    · next hne =>
      refine .one s (fun e => if aifId ∈ e.aifIdList then e else { e with aifIdList := e.aifIdList ++ [aifId] })
        hfree ?_ (fun e => ?_) rfl
      · simp [IpcRequest.names, hne]
      · split <;> exact ⟨rfl, rfl, rfl⟩
    · exact .same rfl
  | sessionAifConnect s aifId state =>
    obtain ⟨hfree, h⟩ := Option.ite_none_left_eq_some.1 h
    obtain rfl := Option.some.inj h
    refine ⟨?_, hlists _ _ fun s mode h => (nomatch h)⟩
    show Walk v pid _ (if state then addSessionAifToList pid s aifId v.sessions
      else removeSessionAifFromList pid s aifId v.sessions)
    split
    · refine .one s (fun e => if aifId ∈ e.aifIdList then e else { e with aifIdList := e.aifIdList ++ [aifId] })
        hfree (by simp [IpcRequest.names]) (fun e => ?_) rfl
      split <;> exact ⟨rfl, rfl, rfl⟩
    · exact .one s (fun e => { e with aifIdList := e.aifIdList.erase aifId }) hfree (by simp [IpcRequest.names])
        (fun e => ⟨rfl, rfl, rfl⟩) rfl
  | sessionOpen s mode =>
    obtain ⟨hfree, h⟩ := Option.ite_none_left_eq_some.1 h
    obtain rfl := Option.some.inj h
    refine ⟨.one s id hfree (by simp [IpcRequest.names]) (fun e => ⟨rfl, rfl, rfl⟩) (getSessionHandle_eq ..), hlists _ _ ?_⟩
    intro s' mode' h
    cases h
    rfl
  | sessionClose hndl =>
    obtain ⟨hfree, h⟩ := Option.ite_none_left_eq_some.1 h
    obtain rfl := Option.some.inj h
    refine ⟨.gone hndl ?_ rfl, hlists _ _ fun s mode h => ?_⟩
    · intro cl hcl hpid
      by_contra hlocked
      refine hfree (.inr (List.any_eq_true.2 ⟨cl, hcl, ?_⟩))
      simpa [hpid] using Option.isSome_iff_ne_none.2 hlocked
    · cases hndl <;> cases h
  | sessionRegisterCallback s event ipcClientData clntData =>
    cases ipcClientData with
    | true =>
      obtain rfl := Option.some.inj h
      refine ⟨.same rfl, rfl, rfl, rfl, rfl, fun k hk => List.mem_append_left _ hk, fun k hk => ?_, fun s mode h => (nomatch h)⟩
      exact (List.mem_append.1 hk).imp_right (List.mem_append_right _)
    | false =>
      obtain rfl := Option.some.inj h
      refine ⟨.same rfl, rfl, rfl, rfl, rfl, fun _ hk => hk, fun _ hk => .inl hk, fun s mode h => ?_⟩
      obtain ⟨k, -, hk⟩ := Option.map_eq_some_iff.1 h
      cases hk
  | other s op =>
    obtain rfl := Option.some.inj h
    exact ⟨.same rfl, hlists _ _ fun s mode h => (nomatch h)⟩

/-- An entry that is created, or changed but for its process and session. -/
theorem Server.Ok.onSession (h : v.Ok) (pid : Nat) {s : SessId} (f : ClientSession → ClientSession) {req : IpcRequest}
    (hnames : req.names s) (hw : ∀ r ∈ v.requested, r ∈ w.requested) (hreq : (pid, req) ∈ w.requested)
    (hf : ∀ e, (f e).pid = e.pid ∧ (f e).sessionId = e.sessionId)
    (hhandle : ∀ e, (∀ h ∈ e.handle, h = s) → ∀ h ∈ (f e).handle, h = s) :
    ∀ e ∈ Ipc.onSession pid s f v.sessions, w.EntryOk e := by
  refine forall_onSession (fun e he => (h.entries e he).mono hw) ⟨fun h hh => (nomatch hh), req, hreq, hnames⟩ ?_
  intro e his hok
  obtain ⟨hpid, hsess⟩ := hf e
  have hs : e.sessionId = s := (ClientSession.is_iff.1 his).2
  refine ⟨?_, ?_⟩
  · rw [hsess, hs]
    exact hhandle e (by rw [← hs]; exact hok.1)
  · rw [hpid, hsess]
    exact hok.2

/-- No clean-up holds the lock. -/
theorem Server.Ok.free (h : v.Ok) (hlock : ¬ v.listLock) : ∀ cl ∈ v.cleanups, ¬ cl.holdsList :=
  fun cl hcl hholds => hlock (h.locked cl hcl hholds)

/-- The rule for what does not touch the clean-ups. -/
theorem Server.Ok.of_lists (h : v.Ok) (hentries : ∀ e ∈ w.sessions, w.EntryOk e)
    (hopens : ∀ pid s mode, (pid, .open s mode) ∈ w.inFlight → (pid, .sessionOpen s mode) ∈ w.requested)
    (hclbks : ∀ k ∈ w.clbkDataList, k ∈ w.registered) (hkeeps : ∀ cl ∈ v.cleanups, v.Keeps w cl)
    (hreg : ∀ k ∈ v.registered, k ∈ w.registered) (hcl : w.cleanups = v.cleanups) (hlock : w.listLock = v.listLock) :
    w.Ok := by
  refine ⟨hentries, hopens, hclbks, fun cl hmem => ?_, ?_, ?_⟩
  · rw [hcl] at hmem
    exact (h.cleanups cl hmem).mono (hkeeps cl hmem) hreg
  · rw [hcl, hlock]
    exact h.locked
  · rw [hcl]
    exact h.one

/-- A request comes in. -/
theorem Server.Ok.begin (h : v.Ok) {req : IpcRequest} (hb : v.begin pid req = some w) : w.Ok := by
  obtain ⟨p, hwalk, hw⟩ := Option.map_eq_some_iff.1 hb
  obtain ⟨hsessions, hwalked⟩ := walk_cases hwalk
  have hwreq : w.requested = v.requested ++ [(pid, req)] := by rw [← hw, ← hwalked.requested]
  have hwflight : w.inFlight = v.inFlight ++ (p.2.map fun pending => (pid, pending)).toList := by
    rw [← hw, ← hwalked.inFlight]
  have hwl : w.sessions = p.1.sessions := by rw [← hw]
  have hwcl : w.cleanups = v.cleanups := by rw [← hw, ← hwalked.cleanups]
  have hwlock : w.listLock = v.listLock := by rw [← hw, ← hwalked.listLock]
  have hwreg : ∀ k ∈ v.registered, k ∈ w.registered := by rw [← hw]; exact hwalked.registered
  have hreq : ∀ r ∈ v.requested, r ∈ w.requested := by
    rw [hwreq]
    exact fun r hr => List.mem_append_left _ hr
  have hlast : (pid, req) ∈ w.requested := by
    rw [hwreq]
    exact List.mem_append_right _ (List.mem_singleton_self _)
  have hopens : ∀ q s mode, (q, .open s mode) ∈ w.inFlight → (q, .sessionOpen s mode) ∈ w.requested := by
    intro q s mode hmem
    rw [hwflight] at hmem
    rcases List.mem_append.1 hmem with hmem | hmem
    · exact hreq _ (h.opens q s mode hmem)
    · obtain ⟨pending, hpending, heq⟩ := Option.map_eq_some_iff.1 (Option.mem_toList.1 hmem)
      obtain ⟨rfl, rfl⟩ := Prod.mk.inj heq
      rw [← hwalked.opens s mode hpending]
      exact hlast
  have hclbks : ∀ k ∈ w.clbkDataList, k ∈ w.registered := by
    intro k hk
    rw [← hw] at hk
    rcases hwalked.clbks k hk with hk | hk
    · exact hwreg k (h.clbks k hk)
    · rw [← hw]
      exact hk
  cases hsessions with
  | same hl =>
    rw [← hwl] at hl
    refine h.of_lists (fun e he => ?_) hopens hclbks (fun cl _ => .of_mem fun e he _ => ?_) hwreg hwcl hwlock
    · rw [hl] at he
      exact (h.entries e he).mono hreq
    · rw [hl]
      exact he
  | one s f hfree hnames hf hl =>
    rw [← hwl] at hl
    have hentries := h.onSession pid f hnames hreq hlast (fun e => ⟨(hf e).1, (hf e).2.1⟩)
      (fun e hh => by rw [(hf e).2.2]; exact hh)
    refine h.of_lists (fun e he => ?_) hopens hclbks (fun cl hcl x _ e he his => ?_) hwreg hwcl hwlock
    · rw [hl] at he
      exact hentries e he
    · rw [hl]
      obtain ⟨e', he', rfl | ⟨-, rfl⟩⟩ := exists_onSession pid s f he
      · exact ⟨e', he', his, rfl, fun _ => rfl⟩
      · obtain ⟨hpid, hsess, hhandle⟩ := hf e
        refine ⟨f e, he', ?_, hhandle, fun hholds => absurd hholds (h.free hfree cl hcl)⟩
        rw [ClientSession.is, hpid, hsess]
        exact his
  | gone hndl hfree hl =>
    rw [← hwl] at hl
    refine h.of_lists (fun e he => ?_) hopens hclbks (fun cl hcl x hx e he his => ?_) hwreg hwcl hwlock
    · rw [hl] at he
      exact (h.entries e (List.mem_of_mem_eraseP he)).mono hreq
    · rw [hl]
      refine ⟨e, mem_eraseP_of_pid pid (fun e he => ?_) he fun hpid => ?_, his, rfl, fun _ => rfl⟩
      · simp at he
        exact he.1
      · rw [hfree cl hcl ((ClientSession.is_iff.1 his).1.symm.trans hpid)] at hx
        cases hx

/-- A request goes on. -/
theorem Server.Ok.finish (h : v.Ok) {i : Nat} {p : Nat × Pending} (hp : v.inFlight[i]? = some p)
    (hf : Server.finish p.1 { v with inFlight := v.inFlight.eraseIdx i } p.2 = some w) : w.Ok := by
  have hmem : p ∈ v.inFlight := List.mem_of_getElem? hp
  have hopens : ∀ q s mode, (q, Pending.open s mode) ∈ v.inFlight.eraseIdx i → (q, .sessionOpen s mode) ∈ v.requested :=
    fun q s mode hin => h.opens q s mode (List.mem_of_mem_eraseIdx hin)
  have hin {next : List (Nat × Pending)} (hnext : ∀ p ∈ next, ∀ s mode, p.2 ≠ .open s mode) (q : Nat) (s : SessId)
      (mode : SessMode) (hin : (q, Pending.open s mode) ∈ v.inFlight.eraseIdx i ++ next) : (q, .sessionOpen s mode) ∈ v.requested :=
    (List.mem_append.1 hin).elim (hopens q s mode) fun hin => absurd rfl (hnext _ hin s mode)
  have hkeeps {w : Server} (hl : w.sessions = v.sessions) : ∀ cl ∈ v.cleanups, v.Keeps w cl :=
    fun cl _ => .of_mem fun e he _ => hl ▸ he
  obtain ⟨q, pending⟩ := p
  cases pending with
  | call c =>
    obtain ⟨r, -, rfl⟩ := Option.map_eq_some_iff.1 hf
    exact h.of_lists h.entries hopens h.clbks (hkeeps rfl) (fun _ hk => hk) rfl rfl
  | deregister clbk =>
    obtain rfl := Option.some.inj hf
    refine h.of_lists h.entries (hin fun p hp s mode heq => ?_) h.clbks (hkeeps rfl) (fun _ hk => hk) rfl rfl
    rw [List.mem_singleton.1 hp] at heq
    cases heq
  | listRemove clbk =>
    obtain rfl := Option.some.inj hf
    refine h.of_lists h.entries (hin fun p hp s mode heq => ?_) h.clbks (hkeeps rfl) (fun _ hk => hk) rfl rfl
    rw [List.mem_singleton.1 hp] at heq
    cases heq
  | removing clbk =>
    obtain rfl := Option.some.inj hf
    exact h.of_lists h.entries hopens (fun k hk => h.clbks k (List.mem_of_mem_erase hk)) (hkeeps rfl) (fun _ hk => hk) rfl rfl
  | «open» s mode =>
    obtain ⟨hfree, hf⟩ := Option.ite_none_left_eq_some.1 hf
    obtain ⟨r, -, rfl⟩ := Option.map_eq_some_iff.1 hf
    by_cases hr : r.1 = 0
    · simp only [if_pos hr]
      have hentries := h.onSession (w := v) q (fun e => { e with handle := some s })
        (show (IpcRequest.sessionOpen s mode).names s by simp [IpcRequest.names]) (fun _ hr => hr) (h.opens q s mode hmem)
        (fun e => ⟨rfl, rfl⟩) (fun e _ h hh => (Option.some.inj hh).symm)
      refine h.of_lists hentries hopens h.clbks (fun cl hcl x hx e he his => ?_) (fun _ hk => hk) rfl rfl
      obtain ⟨e', he', rfl | ⟨hopened, -⟩⟩ := exists_onSession q s (fun e => { e with handle := some s }) he
      · exact ⟨e', he', his, rfl, fun _ => rfl⟩
      · -- the entry is locked, so the request waits
        obtain ⟨hpid, hs⟩ := ClientSession.is_iff.1 his
        obtain ⟨hq, hs'⟩ := ClientSession.is_iff.1 hopened
        refine absurd (List.any_eq_true.2 ⟨cl, hcl, ?_⟩) hfree
        simp [← hpid, hq, ← hs', hs, Option.mem_def.1 hx]
    · simp only [if_neg hr]
      exact h.of_lists h.entries hopens h.clbks (hkeeps rfl) (fun _ hk => hk) rfl rfl

/-- A client dies. -/
theorem Server.Ok.die (h : v.Ok) (hd : v.die pid = some w) : w.Ok := by
  obtain ⟨-, hd⟩ := Option.ite_none_left_eq_some.1 hd
  obtain rfl := Option.some.inj hd
  have hcases {cl : Cleanup} {new : Cleanup} (hcl : cl ∈ v.cleanups ++ [new]) : cl ∈ v.cleanups ∨ cl = new :=
    (List.mem_append.1 hcl).imp_right List.mem_singleton.1
  refine ⟨h.entries, h.opens, fun k hk => h.clbks k (List.mem_of_mem_filter hk), fun cl hcl => ?_, fun cl hcl hholds => ?_,
    fun cl hcl cl' hcl' hholds hholds' => ?_⟩
  · rcases hcases hcl with hcl | rfl
    · exact (h.cleanups cl hcl).mono (.of_mem fun e he _ => he) fun _ hk => hk
    · intro c hc
      obtain ⟨k, hk, rfl⟩ := List.mem_map.1 hc
      obtain ⟨hk, hpid⟩ := List.mem_filter.1 hk
      exact ⟨k, h.clbks k hk, of_decide_eq_true hpid, rfl⟩
  · rcases hcases hcl with hcl | rfl
    · exact h.locked cl hcl hholds
    · cases hholds
  · rcases hcases hcl with hcl | rfl <;> rcases hcases hcl' with hcl' | rfl
    · exact h.one cl hcl cl' hcl' hholds hholds'
    · cases hholds'
    · cases hholds
    · rfl

/-! ## Clean-ups -/

/-- A clean-up moves on: its new state is right, and what the others work on stays.  It may take or drop the lock of the
list only if no other holds it. -/
theorem Server.Ok.of_cleanup (h : v.Ok) {cl' : Cleanup} (hentries : ∀ e ∈ w.sessions, v.EntryOk e)
    (hsame : w.inFlight = v.inFlight ∧ w.requested = v.requested ∧ w.clbkDataList = v.clbkDataList ∧
      w.registered = v.registered)
    (hcl : ∀ cl ∈ w.cleanups, cl = cl' ∨ cl ∈ v.cleanups ∧ cl.pid ≠ pid) (hok : w.CleanupOk cl')
    (hothers : ∀ e ∈ v.sessions, e.pid ≠ pid → e ∈ w.sessions) (hheld : cl'.holdsList → w.listLock)
    (hfree : cl'.holdsList ∨ w.listLock ≠ v.listLock → ∀ cl ∈ v.cleanups, cl.pid ≠ pid → ¬ cl.holdsList) : w.Ok := by
  obtain ⟨hflight, hreq, hclbk, hreg⟩ := hsame
  refine ⟨fun e he => (hentries e he).mono fun r hr => by rwa [hreq], ?_, ?_, fun cl hmem => ?_, fun cl hmem hholds => ?_,
    fun cl hmem cl₁ hmem₁ hholds hholds₁ => ?_⟩
  · rw [hflight, hreq]
    exact h.opens
  · rw [hclbk, hreg]
    exact h.clbks
  · rcases hcl cl hmem with rfl | ⟨hmem, hne⟩
    · exact hok
    · refine (h.cleanups cl hmem).mono (.of_mem fun e he hpid => hothers e he (hpid ▸ hne)) fun k hk => ?_
      rwa [hreg]
  · rcases hcl cl hmem with rfl | ⟨hmem, hne⟩
    · exact hheld hholds
    · by_cases hlock : w.listLock = v.listLock
      · rw [hlock]
        exact h.locked cl hmem hholds
      · exact absurd hholds (hfree (.inr hlock) cl hmem hne)
  · rcases hcl cl hmem with rfl | ⟨hmem, hne⟩ <;> rcases hcl cl₁ hmem₁ with rfl | ⟨hmem₁, hne₁⟩
    · rfl
    · exact absurd hholds₁ (hfree (.inl hholds) cl₁ hmem₁ hne₁)
    · exact absurd hholds (hfree (.inl hholds₁) cl hmem hne)
    · exact h.one cl hmem cl₁ hmem₁ hholds hholds₁

/-- The others do not hold the lock that a clean-up holds. -/
theorem Server.Ok.others_free (h : v.Ok) {cl : Cleanup} (hcl : cl ∈ v.cleanups) (hpid : cl.pid = pid)
    (hholds : cl.holdsList) : ∀ cl' ∈ v.cleanups, cl'.pid ≠ pid → ¬ cl'.holdsList :=
  fun cl' hcl' hne hholds' => hne ((h.one cl' hcl' cl hcl hholds' hholds).trans hpid)

theorem mem_withCleanup {cl cl' : Cleanup} (h : cl ∈ (v.withCleanup pid cl').cleanups) :
    cl = cl' ∨ cl ∈ v.cleanups ∧ cl.pid ≠ pid := by
  obtain ⟨c, hc, rfl⟩ := List.mem_map.1 h
  split
  · exact .inl rfl
  · next hne => exact .inr ⟨hc, hne⟩

/-- A clean-up goes on between two calls. -/
theorem Server.Ok.cleanLists (h : v.Ok) {cl : Cleanup} (hcl : cl ∈ v.cleanups) (hpid : cl.pid = pid) (hnil : cl.calls = [])
    (hc : v.cleanLists pid cl = some w) : w.Ok := by
  have hok := h.cleanups cl hcl
  have hsame : ∀ e ∈ v.sessions, e.pid ≠ pid → e ∈ v.sessions := fun _ he _ => he
  unfold Server.cleanLists at hc
  unfold Server.CleanupOk at hok
  cases hphase : cl.phase with
  | callbacks =>
    rw [hphase] at hc
    obtain ⟨hlock, hc⟩ := Option.ite_none_left_eq_some.1 hc
    obtain rfl := Option.some.inj hc
    exact h.of_cleanup h.entries ⟨rfl, rfl, rfl, rfl⟩ (fun cl hcl => mem_withCleanup hcl) hnil hsame (fun _ => rfl)
      fun _ cl' hcl' _ => h.free hlock cl' hcl'
  | between =>
    have hfree := h.others_free hcl hpid (by rw [Cleanup.holdsList, hphase])
    rw [hphase] at hc
    dsimp only at hc
    split at hc
    · obtain rfl := Option.some.inj hc
      have hrest {cl' : Cleanup} (hcl' : cl' ∈ v.cleanups.filter fun cl' => cl'.pid ≠ pid) :
          cl' ∈ v.cleanups ∧ ¬ cl'.holdsList := by
        obtain ⟨hcl', hne⟩ := List.mem_filter.1 hcl'
        exact ⟨hcl', hfree cl' hcl' (of_decide_eq_true hne)⟩
      refine ⟨h.entries, h.opens, h.clbks, fun cl' hcl' => ?_, fun cl' hcl' hholds => absurd hholds (hrest hcl').2,
        fun cl' hcl' _ _ hholds => absurd hholds (hrest hcl').2⟩
      exact (h.cleanups cl' (hrest hcl').1).mono (.of_mem fun e he _ => he) fun _ hk => hk
    · next e hfind =>
      have he := List.mem_of_find?_eq_some hfind
      have his : e.is cl.pid e.sessionId := by
        have := List.find?_some hfind
        rw [hpid]
        exact ClientSession.is_iff.2 ⟨of_decide_eq_true this, rfl⟩
      split at hc
      · next hd hhandle =>
        obtain rfl := Option.some.inj hc
        refine h.of_cleanup h.entries ⟨rfl, rfl, rfl, rfl⟩ (fun cl hcl => mem_withCleanup hcl)
          ⟨e, he, his, fun c hc => ⟨?_, ?_⟩⟩ hsame (fun hholds => by cases hholds) fun _ => hfree
        · have hsess : hd = e.sessionId := (h.entries e he).1 hd hhandle
          rw [List.mem_singleton.1 hc, hsess]
        · rw [hhandle]
          rfl
      · obtain rfl := Option.some.inj hc
        refine h.of_cleanup h.entries ⟨rfl, rfl, rfl, rfl⟩ (fun cl hcl => mem_withCleanup hcl)
          ⟨e, he, his, fun c hc => ⟨false, hc⟩⟩ hsame (fun _ => h.locked cl hcl (by rw [Cleanup.holdsList, hphase])) fun _ => hfree
  | closing s =>
    rw [hphase] at hc hok
    obtain ⟨hlock, hc⟩ := Option.ite_none_left_eq_some.1 hc
    obtain ⟨e, hfind, rfl⟩ := Option.map_eq_some_iff.1 hc
    have he := List.mem_of_find?_eq_some hfind
    have his : e.is pid s := List.find?_some hfind
    obtain ⟨hepid, hesess⟩ := ClientSession.is_iff.1 his
    obtain ⟨req, hreq, hnames⟩ := (h.entries e he).2
    rw [hepid] at hreq
    rw [hesess] at hnames
    have hentries := h.onSession (w := v) pid (fun e => { e with handle := none }) hnames
      (fun _ hr => hr) hreq (fun e => ⟨rfl, rfl⟩) (fun e _ h hh => (nomatch hh))
    refine h.of_cleanup hentries ⟨rfl, rfl, rfl, rfl⟩ (fun cl hcl => mem_withCleanup hcl) ?_ (fun e' he' hne => ?_)
      (fun _ => rfl) fun _ cl' hcl' _ => h.free hlock cl' hcl'
    · obtain ⟨e', he', heq⟩ := exists_onSession pid s (fun e => { e with handle := none }) he
      have hlike : e'.pid = e.pid ∧ e'.sessionId = e.sessionId ∧ e'.aifIdList = e.aifIdList := by
        rcases heq with rfl | ⟨-, rfl⟩
        · exact ⟨rfl, rfl, rfl⟩
        · exact ⟨rfl, rfl, rfl⟩
      refine ⟨e', he', ClientSession.is_iff.2 ⟨?_, ?_⟩, fun c hc => ⟨true, ?_⟩⟩
      · rw [hlike.1, hepid, hpid]
      · rw [hlike.2.1, hesess]
      · unfold ClientSession.clearing
        rw [hlike.2.1, hlike.2.2]
        exact hc
    · obtain ⟨e'', he'', rfl | ⟨his', -⟩⟩ := exists_onSession pid s (fun e => { e with handle := none }) he'
      · exact he''
      · exact absurd (ClientSession.is_iff.1 his').1 hne
  | clearing s =>
    have hholds : cl.holdsList := by rw [Cleanup.holdsList, hphase]
    rw [hphase] at hc
    obtain rfl := Option.some.inj hc
    refine h.of_cleanup (fun e he => h.entries e (List.mem_of_mem_eraseP he)) ⟨rfl, rfl, rfl, rfl⟩
      (fun cl hcl => mem_withCleanup hcl) hnil (fun e he hne => ?_) (fun _ => h.locked cl hcl hholds)
      fun _ => h.others_free hcl hpid hholds
    exact mem_eraseP_of_pid pid (fun e he => (ClientSession.is_iff.1 he).1) he hne

/-- A clean-up goes on. -/
theorem Server.Ok.clean (h : v.Ok) (hc : v.clean pid = some w) : w.Ok := by
  obtain ⟨cl, hfind, hc⟩ := Option.bind_eq_some_iff.1 hc
  have hcl := List.mem_of_find?_eq_some hfind
  have hpid : cl.pid = pid := by simpa using List.find?_some hfind
  have hok := h.cleanups cl hcl
  split at hc
  · next c cs hcalls =>
    obtain ⟨r, -, rfl⟩ := Option.map_eq_some_iff.1 hc
    have hrest : ∀ c ∈ cs, c ∈ cl.calls := by
      rw [hcalls]
      exact fun c hc => List.mem_cons_of_mem _ hc
    refine h.of_cleanup h.entries ⟨rfl, rfl, rfl, rfl⟩ (fun cl hcl => mem_withCleanup hcl) ?_ (fun _ he _ => he)
      (fun hholds => h.locked cl hcl hholds) fun hholds => ?_
    · unfold Server.CleanupOk at hok ⊢
      cases hphase : cl.phase with
      | callbacks =>
        simp only [hphase] at hok ⊢
        exact fun c hc => hok c (hrest c hc)
      | between =>
        simp only [hphase] at hok
        rw [hcalls] at hok
        cases hok
      | closing s =>
        simp only [hphase] at hok ⊢
        obtain ⟨e, he, his, hok⟩ := hok
        exact ⟨e, he, his, fun c hc => hok c (hrest c hc)⟩
      | clearing s =>
        simp only [hphase] at hok ⊢
        obtain ⟨e, he, his, hok⟩ := hok
        exact ⟨e, he, his, fun c hc => hok c (hrest c hc)⟩
    · exact h.others_free hcl hpid (hholds.resolve_right fun hne => hne rfl)
  · next hnil => exact h.cleanLists hcl hpid hnil hc

/-- The run lemma. -/
theorem Server.Ok.run {env : Kind → List Int} (hr : Runs serverExec (fun _ _ => True) (Server.boot env) v) : v.Ok := by
  have hboot : (Server.boot env).Ok :=
    ⟨fun e he => (nomatch he), fun _ _ _ hp => (nomatch hp), fun k hk => (nomatch hk), fun cl hcl => (nomatch hcl),
      fun cl hcl => (nomatch hcl), fun cl hcl => (nomatch hcl)⟩
  refine hr.invariant hboot fun v ev r w hv _ he => ?_
  obtain ⟨w', hw, heq⟩ := Option.map_eq_some_iff.1 he
  obtain ⟨-, rfl⟩ := Prod.mk.inj heq
  cases ev with
  | begin pid req => exact hv.begin hw
  | finish i =>
    obtain ⟨p, hp, hf⟩ := Option.bind_eq_some_iff.1 hw
    exact hv.finish hp hf
  | die pid => exact hv.die hw
  | clean pid => exact hv.clean hw

/-! ## What a clean-up leaves alone -/

/-- The session is open, and another client has a handle for it. -/
def Server.OpenThroughOther (v : Server) (pid : Nat) (x : SessId) : Prop :=
  x ∈ v.service.world.pool.ids ∧ (v.service.world.pool.objs x).state ≠ .closed ∧
  ∃ e ∈ v.sessions, e.pid ≠ pid ∧ e.sessionId = x ∧ e.handle = some x

instance (v : Server) (pid : Nat) (x : SessId) : Decidable (v.OpenThroughOther pid x) :=
  inferInstanceAs (Decidable (_ ∧ _ ∧ _))

/-- The client has a handle for the session. -/
def Server.HasHandle (v : Server) (pid : Nat) (x : SessId) : Prop := ∃ e ∈ v.sessions, e.is pid x ∧ e.handle.isSome

instance (v : Server) (pid : Nat) (x : SessId) : Decidable (v.HasHandle pid x) := List.decidableBEx _ _

/-- `aif_id_list` of the client for the session. -/
def Server.aifIds (v : Server) (pid : Nat) (x : SessId) : List Nat :=
  (v.sessions.filter (ClientSession.is pid x)).flatMap ClientSession.aifIdList

/-- The callbacks of a session, without those that a client has registered. -/
def Server.cbsOfOthers (v : Server) (pid : Nat) (x : SessId) : List (Nat × Nat) :=
  (v.service.cbPool x).filter fun cb => ! v.registered.any fun k => k.pid = pid && k.event = cb.1 && k.addr = cb.2

/-- What a step of the clean-up after a client leaves of a session. -/
structure Server.Spares (v w : Server) (pid : Nat) (x : SessId) : Prop where
  unnamed : (∀ e ∈ v.sessions, ¬ e.is pid x) → w.service.world.pool.objs x = v.service.world.pool.objs x
  state : ¬ v.HasHandle pid x → (w.service.world.pool.objs x).state = (v.service.world.pool.objs x).state
  aifs : ¬ v.HasHandle pid x →
    aifsBut (w.service.world.pool.objs x) (v.aifIds pid x) = aifsBut (v.service.world.pool.objs x) (v.aifIds pid x)
  settings : (aifsBut (w.service.world.pool.objs x) (v.aifIds pid x)).map aifSettings =
    (aifsBut (v.service.world.pool.objs x) (v.aifIds pid x)).map aifSettings
  callbacks : w.cbsOfOthers pid x = v.cbsOfOthers pid x

/-- The calls of a clean-up: it closes a session for which its client has a handle, or clears what is in the list of its
client. -/
def Server.Cleans (v : Server) (pid : Nat) (s : SessId) (op : Op) : Prop :=
  ∃ e ∈ v.sessions, e.is pid s ∧ (op = .close ∧ e.handle.isSome ∨ ∃ hadHandle, .op s op ∈ e.clearing hadHandle)

/-- What is cleared is of the session of the entry. -/
theorem clearing_session (e : ClientSession) (hadHandle : Bool) : ∀ c ∈ e.clearing hadHandle, ∃ op, c = .op e.sessionId op := by
  intro c hc
  unfold ClientSession.clearing at hc
  rcases List.mem_append.1 hc with hc | hc
  · obtain ⟨aifId, -, hc⟩ := List.mem_flatMap.1 hc
    cases hadHandle <;> simp at hc <;> grind
  · simp at hc
    grind

/-- A step of a clean-up makes at most one call: one for a session in the list of its client, or one that takes back a
callback of its client. -/
theorem clean_cases (h : v.Ok) (hc : v.clean pid = some w) : w.registered = v.registered ∧ (w.service = v.service ∨
    ∃ c r, v.service.call c = some (r, w.service) ∧ ((∃ s op, c = .op s op ∧ v.Cleans pid s op) ∨
      ∃ k ∈ v.registered, k.pid = pid ∧ c = .unregister k.sessionId k.event k.addr)) := by
  obtain ⟨cl, hfind, hc⟩ := Option.bind_eq_some_iff.1 hc
  have hcl := List.mem_of_find?_eq_some hfind
  have hpid : cl.pid = pid := by simpa using List.find?_some hfind
  have hok := h.cleanups cl hcl
  split at hc
  · next c cs hcalls =>
    obtain ⟨r, hcall, rfl⟩ := Option.map_eq_some_iff.1 hc
    refine ⟨rfl, .inr ⟨c, r.1, hcall, ?_⟩⟩
    have hmem : c ∈ cl.calls := by
      rw [hcalls]
      exact List.mem_cons_self ..
    unfold Server.CleanupOk at hok
    rw [hpid] at hok
    split at hok
    · exact .inr (hok c hmem)
    · rw [hcalls] at hok
      cases hok
    · obtain ⟨e, he, his, hok⟩ := hok
      obtain ⟨hclose, hhandle⟩ := hok c hmem
      exact .inl ⟨_, .close, hclose, e, he, his, .inl ⟨rfl, hhandle⟩⟩
    · obtain ⟨e, he, his, hok⟩ := hok
      obtain ⟨hadHandle, hc⟩ := hok c hmem
      obtain ⟨op, rfl⟩ := clearing_session e hadHandle c hc
      rw [(ClientSession.is_iff.1 his).2] at hc ⊢
      exact .inl ⟨_, op, rfl, e, he, his, .inr ⟨hadHandle, hc⟩⟩
  · unfold Server.cleanLists at hc
    split at hc
    · obtain ⟨-, hc⟩ := Option.ite_none_left_eq_some.1 hc
      obtain rfl := Option.some.inj hc
      exact ⟨rfl, .inl rfl⟩
    · split at hc
      · obtain rfl := Option.some.inj hc
        exact ⟨rfl, .inl rfl⟩
      · split at hc
        · obtain rfl := Option.some.inj hc
          exact ⟨rfl, .inl rfl⟩
        · obtain rfl := Option.some.inj hc
          exact ⟨rfl, .inl rfl⟩
    · obtain ⟨-, hc⟩ := Option.ite_none_left_eq_some.1 hc
      obtain ⟨e, -, rfl⟩ := Option.map_eq_some_iff.1 hc
      exact ⟨rfl, .inl rfl⟩
    · obtain rfl := Option.some.inj hc
      exact ⟨rfl, .inl rfl⟩

/-- What leaves the session as it is spares it. -/
theorem Server.Spares.of_same {x : SessId} (hobj : w.service.world.pool.objs x = v.service.world.pool.objs x)
    (hcbs : w.cbsOfOthers pid x = v.cbsOfOthers pid x) : v.Spares w pid x :=
  ⟨fun _ => hobj, fun _ => by rw [hobj], fun _ => by rw [hobj], by rw [hobj], hcbs⟩

theorem aifsBut_of_subset {ids ids' : List Nat} {s s' : SessionObj} (h : aifsBut s' ids = aifsBut s ids) (hsub : ids ⊆ ids') :
    aifsBut s' ids' = aifsBut s ids' := by
  have hfilter (s : SessionObj) : aifsBut s ids' = (aifsBut s ids).filter fun a => a.aifId ∉ ids' := by
    unfold aifsBut
    rw [List.filter_filter]
    refine List.filter_congr fun a _ => ?_
    by_cases ha : a.aifId ∈ ids'
    · simp [ha]
    · have hnot : a.aifId ∉ ids := fun h => ha (hsub h)
      simp [ha, hnot]
  rw [hfilter, hfilter, h]

/-- A call of a clean-up for a session spares what it should. -/
theorem spares_of_cleans {s x : SessId} {op : Op} {r : Int} (hop : v.Cleans pid s op)
    (hcall : v.service.call (.op s op) = some (r, w.service)) (hx : x ∈ v.service.world.pool.ids)
    (hcbs : w.cbsOfOthers pid x = v.cbsOfOthers pid x) : v.Spares w pid x := by
  by_cases hxs : x = s
  · subst hxs
    obtain ⟨e, he, his, hop⟩ := hop
    obtain ⟨p, hexec, hp⟩ := Option.map_eq_some_iff.1 hcall
    have hw : w.service.world = p.2 := by rw [← (Prod.mk.inj hp).2]
    rcases hop with ⟨rfl, hhandle⟩ | ⟨hadHandle, hc⟩
    · -- the session is closed through the client's handle
      have hclosed := exec_own (R := ClosesOnly) (fun _ => rfl) hexec hx closes_sessionClose
      refine ⟨fun hnot => absurd his (hnot e he), fun hnot => absurd ⟨e, he, his, hhandle⟩ hnot,
        fun hnot => absurd ⟨e, he, his, hhandle⟩ hnot, ?_, hcbs⟩
      have hmap (s : SessionObj) : (aifsBut s (v.aifIds pid x)).map aifSettings =
          (s.aifPool.map aifSettings).filter fun a => a.aifId ∉ v.aifIds pid x := by
        rw [List.filter_map]
        rfl
      rw [hmap, hmap, hw, hclosed]
    · have hcleared := exec_own (R := ClearsOnly e.aifIdList) (fun _ => ⟨rfl, rfl⟩) hexec hx (clears_run hc)
      have hsub : e.aifIdList ⊆ v.aifIds pid x := fun a ha =>
        List.mem_flatMap.2 ⟨e, List.mem_filter.2 ⟨he, his⟩, ha⟩
      have haifs := aifsBut_of_subset hcleared.2 hsub
      rw [← hw] at hcleared haifs
      exact ⟨fun hnot => absurd his (hnot e he), fun _ => hcleared.1, fun _ => haifs, by rw [haifs], hcbs⟩
  · exact .of_same (Backend.call_frame hcall hx hxs).1 hcbs

/-- **What a death spares.**  In every run every step of a clean-up spares a session that is open through another client's
handle: if the session is not in the list of the client that died, as a whole; its state, if the client has no handle for
it; the back ends that are not in the client's list, which are at most disconnected, and that only if the client has a
handle; and the callbacks that others have registered.  Every session in a client's list is one that the client has
named. -/
theorem death_spares {env : Kind → List Int} (hr : Runs serverExec (fun _ _ => True) (Server.boot env) v) :
    (∀ pid w x, v.clean pid = some w → v.OpenThroughOther pid x → v.Spares w pid x) ∧
    ∀ e ∈ v.sessions, ∃ req, (e.pid, req) ∈ v.requested ∧ req.names e.sessionId := by
  have hok := Server.Ok.run hr
  refine ⟨fun pid w x hc hopen => ?_, fun e he => (hok.entries e he).2⟩
  obtain ⟨hreg, hservice | ⟨c, r, hcall, ⟨s, op, rfl, hop⟩ | ⟨k, hk, hkpid, rfl⟩⟩⟩ := clean_cases hok hc
  · refine .of_same (by rw [hservice]) ?_
    unfold Server.cbsOfOthers
    rw [hservice, hreg]
  · refine spares_of_cleans hop hcall hopen.1 ?_
    obtain ⟨p, -, hp⟩ := Option.map_eq_some_iff.1 hcall
    unfold Server.cbsOfOthers
    rw [hreg, ← (Prod.mk.inj hp).2]
  · -- a callback of the client itself
    obtain ⟨-, hb⟩ := Prod.mk.inj (Option.some.inj hcall)
    refine .of_same ?_ ?_
    · rw [← hb]
      exact Pool.getOrCreate_objs_of_mem v.service.world.pool k.sessionId (sessionObjCreate k.sessionId) hopen.1
    · unfold Server.cbsOfOthers
      rw [hreg, ← hb]
      show (if x = k.sessionId then _ else _ : List (Nat × Nat)).filter _ = _
      split
      · next hx =>
        subst hx
        rw [List.filter_filter]
        refine List.filter_congr fun cb _ => ?_
        by_cases hcb : cb = (k.event, k.addr)
        · have hany : v.registered.any (fun k => k.pid = pid && k.event = cb.1 && k.addr = cb.2) = true :=
            List.any_eq_true.2 ⟨k, hk, by simp [hkpid, hcb]⟩
          simp [hany]
        · simp [hcb]
      · rfl

end

/-- The client 2 has opened session 1 with a back end, and the client 7, which has set the metadata of the session, dies:
those are cleared, but the session stays open with its back end. -/
theorem death_spares_one : ∃ v w, Runs serverExec (fun _ _ => True) (Server.boot fun _ => []) v ∧ v.clean 7 = some w ∧
    v.OpenThroughOther 7 1 ∧ (v.service.world.pool.objs 1).sessMeta = { gkv := [⟨1, 2⟩] } ∧
    (w.service.world.pool.objs 1).sessMeta = {} ∧ (w.service.world.pool.objs 1).state = .opened ∧
    (w.service.world.pool.objs 1).aifPool = (v.service.world.pool.objs 1).aifPool := by
  obtain ⟨v, hr, hv⟩ := Runs.exists_of_execAll serverExec (fun _ _ => True)
    [.begin 2 (.sessionAifConnect 1 0 true), .finish 0, .begin 2 (.sessionOpen 1 .default), .finish 0,
      .begin 7 (.sessionSetMetadata 1 1 0 { gkv := [⟨1, 2⟩] }), .finish 0, .die 7, .clean 7, .clean 7]
    (Server.boot fun _ => [])
    (fun v => (decide (v.OpenThroughOther 7 1 ∧ ¬ v.HasHandle 7 1), v.aifIds 7 1, (v.service.world.pool.objs 1).sessMeta,
      (v.service.world.pool.objs 1).state, (v.clean 7).map fun w => (w.service.world.pool.objs 1).sessMeta))
    (b := (true, [], { gkv := [⟨1, 2⟩] }, .opened, some {})) (by decide +kernel)
  obtain ⟨hopen, hrest⟩ := Prod.mk.inj hv
  obtain ⟨haifs, hrest⟩ := Prod.mk.inj hrest
  obtain ⟨hmeta, hrest⟩ := Prod.mk.inj hrest
  obtain ⟨hstate, hclean⟩ := Prod.mk.inj hrest
  obtain ⟨hopen, hnot⟩ := of_decide_eq_true hopen
  obtain ⟨w, hc, hw⟩ := Option.map_eq_some_iff.1 hclean
  have hspares := (death_spares hr).1 7 w 1 hc hopen
  refine ⟨v, w, hr, hc, hopen, hmeta, hw, (hspares.state hnot).trans hstate, ?_⟩
  have hkept := hspares.aifs hnot
  rw [haifs] at hkept
  simpa [aifsBut] using hkept

/-- The client 2 has session 1 open, and the client 7 dies.  If it has set the metadata of the session, these are cleared;
if it has set those of a back end of the session, the back end is disconnected; and if it had opened the session before,
and only the client 2 closed it, the session is closed. -/
theorem death_clears_other :
    (∃ v w, Runs serverExec (fun _ _ => True) (Server.boot fun _ => []) v ∧ v.clean 7 = some w ∧ v.OpenThroughOther 7 1 ∧
      ¬ v.HasHandle 7 1 ∧ v.aifIds 7 1 = [] ∧
      (w.service.world.pool.objs 1).sessMeta ≠ (v.service.world.pool.objs 1).sessMeta) ∧
    (∃ v w, Runs serverExec (fun _ _ => True) (Server.boot fun _ => []) v ∧ v.clean 7 = some w ∧ v.OpenThroughOther 7 1 ∧
      ¬ v.HasHandle 7 1 ∧ v.aifIds 7 1 = [0] ∧
      (w.service.world.pool.objs 1).aifPool.map Aif.state ≠ (v.service.world.pool.objs 1).aifPool.map Aif.state) ∧
    ∃ v w, Runs serverExec (fun _ _ => True) (Server.boot fun _ => []) v ∧ v.clean 7 = some w ∧ v.OpenThroughOther 7 1 ∧
      (w.service.world.pool.objs 1).state ≠ (v.service.world.pool.objs 1).state := by
  refine ⟨?_, ?_, ?_⟩
  · obtain ⟨v, hr, hv⟩ := Runs.exists_of_execAll serverExec (fun _ _ => True)
      [.begin 2 (.sessionOpen 1 .nonTunnel), .finish 0, .begin 7 (.sessionSetMetadata 1 1 0 { gkv := [⟨1, 2⟩] }), .finish 0,
        .die 7, .clean 7, .clean 7] (Server.boot fun _ => [])
      (fun v => (decide (v.OpenThroughOther 7 1 ∧ ¬ v.HasHandle 7 1), v.aifIds 7 1, (v.service.world.pool.objs 1).sessMeta,
        (v.clean 7).map fun w => (w.service.world.pool.objs 1).sessMeta))
      (b := (true, [], { gkv := [⟨1, 2⟩] }, some {})) (by decide +kernel)
    obtain ⟨hopen, hrest⟩ := Prod.mk.inj hv
    obtain ⟨haifs, hrest⟩ := Prod.mk.inj hrest
    obtain ⟨hmeta, hclean⟩ := Prod.mk.inj hrest
    obtain ⟨w, hc, hw⟩ := Option.map_eq_some_iff.1 hclean
    obtain ⟨hopen, hnot⟩ := of_decide_eq_true hopen
    refine ⟨v, w, hr, hc, hopen, hnot, haifs, ?_⟩
    rw [hw, hmeta]
    decide
  · obtain ⟨v, hr, hv⟩ := Runs.exists_of_execAll serverExec (fun _ _ => True)
      [.begin 2 (.sessionAifConnect 1 0 true), .finish 0, .begin 2 (.sessionOpen 1 .default), .finish 0,
        .begin 7 (.sessionAifSetMetadata 1 0 1 0 { gkv := [⟨1, 2⟩] }), .finish 0, .die 7, .clean 7, .clean 7, .clean 7]
      (Server.boot fun _ => [])
      (fun v => (decide (v.OpenThroughOther 7 1 ∧ ¬ v.HasHandle 7 1), v.aifIds 7 1,
        (v.service.world.pool.objs 1).aifPool.map Aif.state,
        (v.clean 7).map fun w => (w.service.world.pool.objs 1).aifPool.map Aif.state))
      (b := (true, [0], [.opened], some [.closed])) (by decide +kernel)
    obtain ⟨hopen, hrest⟩ := Prod.mk.inj hv
    obtain ⟨haifs, hrest⟩ := Prod.mk.inj hrest
    obtain ⟨hstates, hclean⟩ := Prod.mk.inj hrest
    obtain ⟨w, hc, hw⟩ := Option.map_eq_some_iff.1 hclean
    obtain ⟨hopen, hnot⟩ := of_decide_eq_true hopen
    refine ⟨v, w, hr, hc, hopen, hnot, haifs, ?_⟩
    rw [hw, hstates]
    decide
  · obtain ⟨v, hr, hv⟩ := Runs.exists_of_execAll serverExec (fun _ _ => True)
      [.begin 7 (.sessionOpen 1 .nonTunnel), .finish 0, .begin 2 (.sessionClose (some 1)), .finish 0,
        .begin 2 (.sessionOpen 1 .nonTunnel), .finish 0, .die 7, .clean 7, .clean 7] (Server.boot fun _ => [])
      (fun v => (decide (v.OpenThroughOther 7 1), (v.service.world.pool.objs 1).state,
        (v.clean 7).map fun w => (w.service.world.pool.objs 1).state))
      (b := (true, .opened, some .closed)) (by decide +kernel)
    obtain ⟨hopen, hrest⟩ := Prod.mk.inj hv
    obtain ⟨hstate, hclean⟩ := Prod.mk.inj hrest
    obtain ⟨w, hc, hw⟩ := Option.map_eq_some_iff.1 hclean
    refine ⟨v, w, hr, hc, of_decide_eq_true hopen, ?_⟩
    rw [hw, hstate]
    decide

end Agm.Ipc
