import Mathlib.Data.Finset.Basic
import Mathlib.Data.List.Flatten
import Mathlib.Data.List.Nodup
import Mathlib.Data.List.Pairwise
import Agm.Service.GraphPointer

/-!
# The SwBinder clients

`agm_death_notifier.cpp`: the server keeps an entry for every registration of a client, and the handles of the sessions that
the client has open, so that they are closed when the client dies.  Handles go into the first entry of the process that
calls; a death is told by the binder, and an unregistration is for the process.
-/

namespace Agm.Ipc

open Agm.Lib Agm.Service

/-! ## Open sessions -/

/-- The session is open. -/
def isOpen (w : World) (s : SessId) : Prop := s ∈ w.pool.ids ∧ (w.pool.objs s).state ≠ .closed

instance (w : World) (s : SessId) : Decidable (isOpen w s) := instDecidableAnd

section

variable {w w' : World} {s x : SessId} {r : Int}

theorem isOpen_get : isOpen (w.get s) x ↔ isOpen w x := by
  have hgrows : w.pool.Grows sessionObjCreate (w.get s).pool := Pool.grows_getOrCreate w.pool s
  constructor
  · rintro ⟨hmem, hstate⟩
    rcases hgrows.cases hmem with ⟨hx, hobj⟩ | ⟨-, hobj⟩
    · rw [hobj] at hstate
      exact ⟨hx, hstate⟩
    · rw [hobj] at hstate
      exact absurd rfl hstate
  · rintro ⟨hmem, hstate⟩
    exact ⟨hgrows.mem hmem, by rwa [hgrows.objs hmem]⟩

/-- What a function of a session makes of the sessions. -/
theorem isOpen_unlock {c : Ctx} (hs : s ∈ w.pool.ids) (hc : (w.lock s).Grows c) :
    isOpen (World.unlock s c) x ↔ if x = s then c.sess.state ≠ .closed else isOpen w x := by
  have hpool : w.pool.Grows sessionObjCreate c.pool := hc.pool
  split
  · next hx =>
    subst hx
    show x ∈ c.pool.ids ∧ ((c.pool.put x c.sess).objs x).state ≠ .closed ↔ _
    rw [Pool.put_objs_self]
    exact and_iff_right (hpool.mem hs)
  · next hx =>
    show x ∈ c.pool.ids ∧ ((c.pool.put s c.sess).objs x).state ≠ .closed ↔ _
    rw [Pool.put_objs_of_ne _ _ hx]
    constructor
    · rintro ⟨hmem, hstate⟩
      rcases hpool.cases hmem with ⟨hmem, hobj⟩ | ⟨-, hobj⟩
      · rw [hobj] at hstate
        exact ⟨hmem, hstate⟩
      · rw [hobj] at hstate
        exact absurd rfl hstate
    · rintro ⟨hmem, hstate⟩
      exact ⟨hpool.mem hmem, by rwa [hpool.objs hmem]⟩

/-- A successful open opens a closed session; another one opens and closes nothing. -/
theorem isOpen_open {mode : SessMode} (h : exec (s, .open mode) w = some (r, w')) :
    (r = 0 → ¬ isOpen w s) ∧ ∀ x, isOpen w' x ↔ isOpen w x ∨ r = 0 ∧ x = s := by
  have hmem : s ∈ (w.get s).pool.ids := Pool.mem_getOrCreate _ _ _
  obtain ⟨p, hp, he⟩ := Option.map_eq_some_iff.1 (show (w.get s).locked s (Op.open mode).run = some (r, w') from h)
  obtain ⟨rfl, rfl⟩ := Prod.mk.inj he
  have hgrows : ((w.get s).lock s).Grows p.2 := grows_run (.open mode) ((w.get s).lock s) p.1 p.2 hp
  have hnot : isOpen w s ↔ ((w.get s).pool.objs s).state ≠ .closed := by
    rw [← isOpen_get (s := s)]
    exact and_iff_right hmem
  have key : (p.1 = 0 → ((w.get s).pool.objs s).state = .closed) ∧
      (p.2.sess.state ≠ .closed ↔ ((w.get s).pool.objs s).state ≠ .closed ∨ p.1 = 0) := by
    by_cases hc : ((w.get s).lock s).sess.state = .closed
    · have hstate : (p.1 = 0 ∧ p.2.sess.state = .opened) ∨ (p.1 ≠ 0 ∧ p.2.sess.state = .closed) := by
        by_cases hm : mode.hasDevices
        · rcases sat_sessionObjOpen_devices hm hc p.1 p.2 hp with h | h | h
          · exact Or.inl ⟨h.1, h.2.1⟩
          · exact Or.inl ⟨h.1, h.2.1⟩
          · exact Or.inr ⟨h.1, h.2.1⟩
        · rcases sat_sessionObjOpen_bare hm hc p.1 p.2 hp with h | h
          · exact Or.inl ⟨h.1, h.2.1⟩
          · exact Or.inr ⟨h.1, h.2.1⟩
      refine ⟨fun _ => hc, ?_⟩
      rcases hstate with ⟨hr, hst⟩ | ⟨hr, hst⟩
      · exact iff_of_true (by rw [hst]; decide) (Or.inr hr)
      · exact iff_of_false (fun hne => hne hst) (not_or.2 ⟨fun hne => hne hc, hr⟩)
    · have hp' : p = (-EALREADY, (w.get s).lock s) := by
        have : Sat (sessionObjOpen mode) ((w.get s).lock s) fun r c => (r, c) = (-EALREADY, (w.get s).lock s) := by
          unfold sessionObjOpen
          rw [sat_bind, sat_get, if_pos hc, sat_pure]
        exact this p.1 p.2 hp
      rw [hp']
      exact ⟨fun hr => absurd (show -EALREADY = 0 from hr) (by decide), iff_of_true hc (Or.inl hc)⟩
  refine ⟨fun hr hopen => hnot.1 hopen (key.1 hr), fun x => ?_⟩
  rw [isOpen_unlock hmem hgrows, isOpen_get]
  split
  · next hx =>
    subst hx
    rw [hnot, key.2]
    simp
  · next hx => simp [hx]

/-- A close closes its session, and no other. -/
theorem isOpen_close (h : exec (s, .close) w = some (r, w')) (x : SessId) : isOpen w' x ↔ isOpen w x ∧ x ≠ s := by
  have h : (if s ∈ w.pool.ids then w.locked s Op.close.run else some (-EINVAL, w)) = some (r, w') := h
  split at h
  · next hmem =>
    obtain ⟨p, hp, he⟩ := Option.map_eq_some_iff.1 h
    obtain ⟨rfl, rfl⟩ := Prod.mk.inj he
    have hgrows : (w.lock s).Grows p.2 := grows_run .close (w.lock s) p.1 p.2 hp
    have hclosed : p.2.sess.state = .closed := by
      by_cases hc : (w.lock s).sess.state = .closed
      · rw [sat_sessionClose_closed hc p.1 p.2 hp]
        exact hc
      · exact (sat_sessionClose_face hc p.1 p.2 hp).1
    rw [isOpen_unlock hmem hgrows]
    split
    · next hx =>
      subst hx
      exact iff_of_false (fun hne => hne hclosed) fun hopen => hopen.2 rfl
    · next hx => exact (and_iff_left hx).symm
  · next hmem =>
    obtain ⟨-, rfl⟩ := Prod.mk.inj (Option.some.inj h)
    refine (and_iff_left_of_imp ?_).symm
    rintro ⟨hx, -⟩ rfl
    exact hmem hx

end

/-! ## The server -/

/-- A binder a client has sent, told apart from all others by its process and a number. -/
structure Binder where
  process : Nat
  id : Nat
  deriving DecidableEq, Repr

/-- `client_info`.  A handle is the address of a session object, so its session stands for it. -/
structure ClientInfo where
  binder : Binder
  pid : Nat
  handles : List SessId := []
  deriving DecidableEq, Repr

/-- The server: `g_client_list`, and whether it has been initialised.  `owned` is no part of the code: the sessions that
registered clients have opened, each with its client, until this client has closed them, unregisters or dies. -/
structure SwClients where
  listInit : Bool := false
  clientList : List ClientInfo := []
  service : World
  owned : Finset (Nat × SessId) := ∅

/-- What clients do.  A session that does not exist stands for a handle that is none. -/
inductive SwRequest
  | regClient (pid id : Nat)
  | unregClient (pid : Nat)
  | «open» (pid : Nat) (s : SessId) (mode : SessMode)
  | close (pid : Nat) (s : SessId)
  | die (pid : Nat)
  deriving DecidableEq, Repr

/-- Change the entry that `get_client_handle_from_list` finds. -/
def onClientHandle (pid : Nat) (f : ClientInfo → ClientInfo) : List ClientInfo → List ClientInfo
  | [] => []
  | i :: l => if i.pid = pid then f i :: l else i :: onClientHandle pid f l

/-- `agm_add_session_obj_handle`. -/
def addSessionObjHandle (pid : Nat) (s : SessId) : List ClientInfo → List ClientInfo :=
  onClientHandle pid fun i => { i with handles := i.handles ++ [s] }

/-- `agm_remove_session_obj_handle`. -/
def removeSessionObjHandle (pid : Nat) (s : SessId) : List ClientInfo → List ClientInfo :=
  onClientHandle pid fun i => { i with handles := i.handles.erase s }

/-- The process has registered. -/
def SwClients.Registered (v : SwClients) (pid : Nat) : Prop := ∃ i ∈ v.clientList, i.pid = pid

instance (v : SwClients) (pid : Nat) : Decidable (v.Registered pid) := by
  unfold SwClients.Registered
  infer_instance

/-- `agm_register_client`. -/
def SwClients.registerClient (v : SwClients) (pid id : Nat) : SwClients :=
  { v with listInit := true, clientList := v.clientList ++ [{ binder := ⟨pid, id⟩, pid := pid }] }

/-- `agm_unregister_client`, which walks the list. -/
def SwClients.unregisterClient (v : SwClients) (pid : Nat) : Option SwClients :=
  if v.listInit then
    some { v with clientList := v.clientList.filter (·.pid ≠ pid), owned := v.owned.filter (·.1 ≠ pid) }
  else none

/-- `OPEN`.  The handle is zero unless the session has been opened. -/
def SwClients.open (v : SwClients) (pid : Nat) (s : SessId) (mode : SessMode) : Option (Int × SwClients) :=
  (exec (s, .open mode) v.service).bind fun p =>
    if p.1 ≠ 0 then some (p.1, { v with service := p.2 })
    else if v.listInit then
      some (p.1, { v with
        clientList := addSessionObjHandle pid s v.clientList
        service := p.2
        owned := if v.Registered pid then insert (pid, s) v.owned else v.owned })
    else none

/-- `CLOSE`. -/
def SwClients.close (v : SwClients) (pid : Nat) (s : SessId) : Option (Int × SwClients) :=
  (exec (s, .close) v.service).bind fun p =>
    if v.listInit then
      some (p.1, { v with
        clientList := removeSessionObjHandle pid s v.clientList
        service := p.2
        owned := v.owned.erase (pid, s) })
    else none

/-- The sessions are closed one after the other, whatever comes of it. -/
def closeAll (l : List SessId) (w : World) : Option World := l.foldlM (fun w s => (exec (s, .close) w).map Prod.snd) w

/-- `client_death_notifier::binderDied`. -/
def SwClients.binderDied (v : SwClients) (who : Binder) : Option SwClients :=
  (closeAll ((v.clientList.filter (·.binder = who)).flatMap ClientInfo.handles) v.service).map fun w =>
    { v with clientList := v.clientList.filter (·.binder ≠ who), service := w }

/-- A client dies: each of the binders it was registered with tells so. -/
def SwClients.die (v : SwClients) (pid : Nat) : Option SwClients :=
  (((v.clientList.filter (·.pid = pid)).map ClientInfo.binder).foldlM SwClients.binderDied v).map fun w =>
    { w with owned := w.owned.filter (·.1 ≠ pid) }

/-- One step of the server. -/
def clientsExec : SwRequest → SwClients → Option (Int × SwClients)
  | .regClient pid id, v => some (0, v.registerClient pid id)
  | .unregClient pid, v => (v.unregisterClient pid).map fun w => (0, w)
  | .open pid s mode, v => v.open pid s mode
  | .close pid s, v => v.close pid s
  | .die pid, v => (v.die pid).map fun w => (0, w)

/-- The server has started. -/
def SwClients.start (w : World) : SwClients := { service := w }

/-! ## What is recorded -/

/-- The handles that are recorded are the sessions of the clients, each once, and these are the open ones. -/
structure SwClients.HandlesRight (v : SwClients) : Prop where
  recorded : ∀ pid s, (∃ i ∈ v.clientList, i.pid = pid ∧ s ∈ i.handles) ↔ (pid, s) ∈ v.owned
  once : (v.clientList.flatMap ClientInfo.handles).Nodup
  opened : ∀ s, isOpen v.service s ↔ ∃ pid, (pid, s) ∈ v.owned

/-- With this the client is gone. -/
def SwRequest.Leaves (pid : Nat) (o : SwRequest) : Prop := o = .unregClient pid ∨ o = .die pid

/-- Exactly the sessions of the client have been closed. -/
def SwClients.ClosesOwn (v w : SwClients) (pid : Nat) : Prop :=
  ∀ s, isOpen w.service s ↔ isOpen v.service s ∧ (pid, s) ∉ v.owned

/-- Who opens a session has registered, who closes an open one has opened it, and who unregisters has closed its own. -/
def ownSessions (v : SwClients) : SwRequest → Prop
  | .regClient _ _ => True
  | .unregClient pid => ∀ p ∈ v.owned, p.1 ≠ pid
  | .open pid _ _ => v.Registered pid
  | .close pid s => isOpen v.service s → (pid, s) ∈ v.owned
  | .die _ => True

instance (v : SwClients) (o : SwRequest) : Decidable (ownSessions v o) := by
  unfold ownSessions
  split <;> infer_instance

/-- Besides what is recorded: all handles of a process are in its first entry. -/
structure SwClients.ClientsOk (v : SwClients) : Prop where
  binders : ∀ i ∈ v.clientList, i.binder.process = i.pid
  first : v.clientList.Pairwise fun i j => i.pid = j.pid → j.handles = []
  right : v.HandlesRight

section

variable {v w : SwClients} {pid : Nat} {s x : SessId} {l : List ClientInfo}

/-- No session has two owners. -/
theorem SwClients.HandlesRight.sole (h : v.HandlesRight) {p q : Nat} (hp : (p, s) ∈ v.owned) (hq : (q, s) ∈ v.owned) :
    p = q := by
  obtain ⟨i, hi, rfl, hsi⟩ := (h.recorded p s).2 hp
  obtain ⟨j, hj, rfl, hsj⟩ := (h.recorded q s).2 hq
  by_contra hne
  have : Std.Symm (Function.onFun List.Disjoint ClientInfo.handles) := ⟨fun _ _ hab => List.Disjoint.symm hab⟩
  have hdisjoint := (List.nodup_flatMap.1 h.once).2.forall hi hj fun heq => hne (congrArg ClientInfo.pid heq)
  exact hdisjoint hsi hsj

/-- A process that has registered has a first entry. -/
theorem onClientHandle_split (h : ∃ i ∈ l, i.pid = pid) : ∃ a i b, l = a ++ i :: b ∧ i.pid = pid ∧ (∀ j ∈ a, j.pid ≠ pid) ∧
    ∀ f, onClientHandle pid f l = a ++ f i :: b := by
  induction l with
  | nil => simp at h
  | cons i l ih =>
    by_cases hi : i.pid = pid
    · exact ⟨[], i, l, rfl, hi, fun j hj => absurd hj List.not_mem_nil, fun f => by rw [onClientHandle, if_pos hi]; rfl⟩
    · obtain ⟨j, hj, hpid⟩ := h
      have hjl : j ∈ l := (List.mem_cons.1 hj).resolve_left fun heq => hi (heq ▸ hpid)
      obtain ⟨a, k, b, rfl, hk, ha, hf⟩ := ih ⟨j, hjl, hpid⟩
      refine ⟨i :: a, k, b, rfl, hk, ?_, fun f => ?_⟩
      · intro j hj
        rcases List.mem_cons.1 hj with rfl | hj
        · exact hi
        · exact ha j hj
      · rw [onClientHandle, if_neg hi, hf]
        rfl

theorem onClientHandle_of_not (h : ¬ ∃ i ∈ l, i.pid = pid) (f : ClientInfo → ClientInfo) : onClientHandle pid f l = l := by
  induction l with
  | nil => rfl
  | cons i l ih =>
    rw [onClientHandle, if_neg fun hi => h ⟨i, List.mem_cons_self, hi⟩,
      ih fun ⟨j, hj, hpid⟩ => h ⟨j, List.mem_cons_of_mem i hj, hpid⟩]

/-- Where an entry stands in the list. -/
theorem exists_mem_middle {a b : List ClientInfo} {i : ClientInfo} {P : ClientInfo → Prop} :
    (∃ j ∈ a ++ i :: b, P j) ↔ (∃ j ∈ a, P j) ∨ P i ∨ ∃ j ∈ b, P j := by
  simp only [List.mem_append, List.mem_cons, or_and_right, exists_or, exists_eq_left]

/-- The handles of one entry change, the first of its process. -/
theorem ClientInfo.first_set {a b : List ClientInfo} {i : ClientInfo} (ha : ∀ j ∈ a, j.pid ≠ i.pid) (hs : List SessId)
    (h : (a ++ i :: b).Pairwise fun i j => i.pid = j.pid → j.handles = []) :
    (a ++ { i with handles := hs } :: b).Pairwise fun i j => i.pid = j.pid → j.handles = [] := by
  obtain ⟨hpa, hpb, hab⟩ := List.pairwise_append.1 h
  obtain ⟨hib, hpb⟩ := List.pairwise_cons.1 hpb
  refine List.pairwise_append.2 ⟨hpa, List.pairwise_cons.2 ⟨hib, hpb⟩, ?_⟩
  intro j hj k hk
  rcases List.mem_cons.1 hk with rfl | hk
  · exact fun heq => absurd heq (ha j hj)
  · exact hab j hj k (List.mem_cons_of_mem i hk)

theorem ClientInfo.binders_set {a b : List ClientInfo} {i : ClientInfo} (hs : List SessId)
    (h : ∀ j ∈ a ++ i :: b, j.binder.process = j.pid) : ∀ j ∈ a ++ { i with handles := hs } :: b, j.binder.process = j.pid := by
  intro j hj
  rcases List.mem_append.1 hj with hj | hj
  · exact h j (List.mem_append_left _ hj)
  · rcases List.mem_cons.1 hj with rfl | hj
    · exact h i (List.mem_append_right _ List.mem_cons_self)
    · exact h j (List.mem_append_right _ (List.mem_cons_of_mem i hj))

/-! ## Requests -/

theorem SwClients.ClientsOk.registerClient (h : v.ClientsOk) (pid id : Nat) : (v.registerClient pid id).ClientsOk := by
  refine ⟨?_, ?_, ?_, ?_, h.right.opened⟩
  · intro i hi
    rcases List.mem_append.1 hi with hi | hi
    · exact h.binders i hi
    · rw [List.mem_singleton.1 hi]
  · refine List.pairwise_append.2 ⟨h.first, List.pairwise_singleton _ _, ?_⟩
    intro i _ j hj _
    rw [List.mem_singleton.1 hj]
  · intro q x
    refine Iff.trans ?_ (h.right.recorded q x)
    constructor
    · rintro ⟨i, hi, hpid, hx⟩
      rcases List.mem_append.1 hi with hi | hi
      · exact ⟨i, hi, hpid, hx⟩
      · rw [List.mem_singleton.1 hi] at hx
        exact absurd hx List.not_mem_nil
    · rintro ⟨i, hi, hx⟩
      exact ⟨i, List.mem_append_left _ hi, hx⟩
  · show (List.flatMap _ (_ ++ [_])).Nodup
    rw [List.flatMap_append, List.flatMap_singleton, List.append_nil]
    exact h.right.once

/-- A session that is not recorded is opened. -/
theorem SwClients.ClientsOk.add (h : v.ClientsOk) (hreg : v.Registered pid) (hs : ∀ q, (q, s) ∉ v.owned) {service : World}
    (hopen : ∀ x, isOpen service x ↔ isOpen v.service x ∨ x = s) :
    SwClients.ClientsOk { v with clientList := addSessionObjHandle pid s v.clientList, service := service,
                                 owned := insert (pid, s) v.owned } := by
  obtain ⟨a, i, b, hl, rfl, ha, hf⟩ := onClientHandle_split hreg
  have hlist : addSessionObjHandle i.pid s v.clientList = a ++ { i with handles := i.handles ++ [s] } :: b := hf _
  have hbinders := h.binders
  have hfirst := h.first
  have hright := h.right
  rw [hl] at hbinders hfirst
  rw [hlist]
  refine ⟨ClientInfo.binders_set _ hbinders, ClientInfo.first_set ha _ hfirst, ?_, ?_, ?_⟩
  · intro q x
    have hold := hright.recorded q x
    rw [hl, exists_mem_middle] at hold
    dsimp only
    rw [exists_mem_middle, Finset.mem_insert, ← hold, Prod.mk.injEq, List.mem_append, List.mem_singleton]
    constructor
    · rintro (hx | ⟨hq, hx | hx⟩ | hx)
      · exact Or.inr (Or.inl hx)
      · exact Or.inr (Or.inr (Or.inl ⟨hq, hx⟩))
      · exact Or.inl ⟨hq.symm, hx⟩
      · exact Or.inr (Or.inr (Or.inr hx))
    · rintro (⟨hq, hx⟩ | hx | ⟨hq, hx⟩ | hx)
      · exact Or.inr (Or.inl ⟨hq.symm, Or.inr hx⟩)
      · exact Or.inl hx
      · exact Or.inr (Or.inl ⟨hq, Or.inl hx⟩)
      · exact Or.inr (Or.inr hx)
  · have hnodup := hright.once
    have hfresh : s ∉ v.clientList.flatMap ClientInfo.handles := by
      intro hmem
      obtain ⟨j, hj, hx⟩ := List.mem_flatMap.1 hmem
      exact hs j.pid ((hright.recorded j.pid s).1 ⟨j, hj, rfl, hx⟩)
    have hperm : ((a ++ { i with handles := i.handles ++ [s] } :: b).flatMap ClientInfo.handles).Perm
        (s :: v.clientList.flatMap ClientInfo.handles) := by
      have hmiddle : ((a.flatMap ClientInfo.handles ++ i.handles) ++ s :: b.flatMap ClientInfo.handles).Perm
          (s :: ((a.flatMap ClientInfo.handles ++ i.handles) ++ b.flatMap ClientInfo.handles)) := List.perm_middle
      simpa [hl] using hmiddle
    exact hperm.nodup_iff.2 (List.nodup_cons.2 ⟨hfresh, hnodup⟩)
  · intro x
    dsimp only
    rw [hopen, hright.opened]
    simp only [Finset.mem_insert, Prod.mk.injEq, exists_or, exists_eq_left, or_comm]

/-- A session is closed by the client that has opened it, if it is open. -/
theorem SwClients.ClientsOk.remove (h : v.ClientsOk) (hs : isOpen v.service s → (pid, s) ∈ v.owned) {service : World}
    (hclose : ∀ x, isOpen service x ↔ isOpen v.service x ∧ x ≠ s) :
    SwClients.ClientsOk { v with clientList := removeSessionObjHandle pid s v.clientList, service := service,
                                 owned := v.owned.erase (pid, s) } := by
  have hright := h.right
  have hopened : ∀ x, isOpen service x ↔ ∃ q, (q, x) ∈ v.owned.erase (pid, s) := by
    intro x
    rw [hclose, hright.opened]
    constructor
    · rintro ⟨⟨q, hq⟩, hx⟩
      exact ⟨q, Finset.mem_erase.2 ⟨fun heq => hx (Prod.mk.inj heq).2, hq⟩⟩
    · rintro ⟨q, hq⟩
      obtain ⟨hne, hmem⟩ := Finset.mem_erase.1 hq
      refine ⟨⟨q, hmem⟩, ?_⟩
      rintro rfl
      exact hne (by rw [hright.sole hmem (hs ((hright.opened x).2 ⟨q, hmem⟩))])
  by_cases hreg : v.Registered pid
  · obtain ⟨a, i, b, hl, rfl, ha, hf⟩ := onClientHandle_split hreg
    have hlist : removeSessionObjHandle i.pid s v.clientList = a ++ { i with handles := i.handles.erase s } :: b := hf _
    have hbinders := h.binders
    have hfirst := h.first
    have honce := hright.once
    rw [hl] at hbinders hfirst honce
    rw [hlist]
    refine ⟨ClientInfo.binders_set _ hbinders, ClientInfo.first_set ha _ hfirst, ?_, ?_, hopened⟩
    · have hnodup : i.handles.Nodup := (List.nodup_flatMap.1 honce).1 i (List.mem_append_right _ List.mem_cons_self)
      have hlater : ∀ j ∈ b, i.pid = j.pid → j.handles = [] :=
        (List.pairwise_cons.1 (List.pairwise_append.1 hfirst).2.1).1
      intro q x
      have hold := hright.recorded q x
      rw [hl, exists_mem_middle] at hold
      dsimp only
      rw [exists_mem_middle, Finset.mem_erase, ← hold, hnodup.mem_erase_iff]
      -- the other entries of the process have no handles
      constructor
      · rintro (⟨j, hj, hq, hx⟩ | ⟨hq, hne, hx⟩ | ⟨j, hj, hq, hx⟩)
        · exact ⟨fun heq => ha j hj (hq.trans (Prod.mk.inj heq).1), Or.inl ⟨j, hj, hq, hx⟩⟩
        · exact ⟨fun heq => hne (Prod.mk.inj heq).2, Or.inr (Or.inl ⟨hq, hx⟩)⟩
        · refine ⟨fun heq => ?_, Or.inr (Or.inr ⟨j, hj, hq, hx⟩)⟩
          rw [hlater j hj (hq.trans (Prod.mk.inj heq).1).symm] at hx
          exact List.not_mem_nil hx
      · rintro ⟨hne, hx | ⟨hq, hx⟩ | hx⟩
        · exact Or.inl hx
        · exact Or.inr (Or.inl ⟨hq, fun heq => hne (by rw [hq, heq]), hx⟩)
        · exact Or.inr (Or.inr hx)
    · refine honce.sublist ?_
      dsimp only
      rw [List.flatMap_append, List.flatMap_append, List.flatMap_cons, List.flatMap_cons]
      exact (List.Sublist.refl _).append (List.erase_sublist.append (List.Sublist.refl _))
  · have hnot : (pid, s) ∉ v.owned := by
      intro hmem
      obtain ⟨i, hi, hpid, -⟩ := (hright.recorded pid s).2 hmem
      exact hreg ⟨i, hi, hpid⟩
    have hlist : removeSessionObjHandle pid s v.clientList = v.clientList := onClientHandle_of_not hreg _
    rw [hlist]
    rw [Finset.erase_eq_of_notMem hnot] at hopened ⊢
    exact ⟨h.binders, h.first, hright.recorded, hright.once, hopened⟩

/-- The entries of a client go, and its sessions are closed. -/
theorem SwClients.ClientsOk.leave (h : v.ClientsOk) (hlist : w.clientList = v.clientList.filter (·.pid ≠ pid))
    (howned : w.owned = v.owned.filter (·.1 ≠ pid)) (hclose : v.ClosesOwn w pid) : w.ClientsOk := by
  have hsub : w.clientList.Sublist v.clientList := hlist ▸ List.filter_sublist
  refine ⟨fun i hi => h.binders i (hsub.subset hi), h.first.sublist hsub, ?_, ?_, ?_⟩
  · intro q x
    rw [hlist, howned, Finset.mem_filter, ← h.right.recorded q x]
    constructor
    · rintro ⟨i, hi, rfl, hx⟩
      obtain ⟨hi, hne⟩ := List.mem_filter.1 hi
      exact ⟨⟨i, hi, rfl, hx⟩, of_decide_eq_true hne⟩
    · rintro ⟨⟨i, hi, rfl, hx⟩, hne⟩
      exact ⟨i, List.mem_filter.2 ⟨hi, decide_eq_true hne⟩, rfl, hx⟩
  · exact h.right.once.sublist (hsub.flatMap _)
  · intro x
    rw [hclose, h.right.opened, howned]
    constructor
    · rintro ⟨⟨q, hq⟩, hne⟩
      exact ⟨q, Finset.mem_filter.2 ⟨hq, fun heq => hne (heq ▸ hq)⟩⟩
    · rintro ⟨q, hq⟩
      obtain ⟨hq, hne⟩ := Finset.mem_filter.1 hq
      exact ⟨⟨q, hq⟩, fun hpid => hne (h.right.sole hq hpid)⟩

/-! ## Deaths -/

theorem closeAll_spec {l : List SessId} {service service' : World} (h : closeAll l service = some service') (x : SessId) :
    isOpen service' x ↔ isOpen service x ∧ x ∉ l := by
  induction l generalizing service with
  | nil =>
    obtain rfl : service = service' := Option.some.inj h
    simp
  | cons s l ih =>
    obtain ⟨mid, hmid, hl⟩ := Option.bind_eq_some_iff.1 (show Option.bind _ _ = _ from h)
    obtain ⟨p, hp, rfl⟩ := Option.map_eq_some_iff.1 hmid
    rw [ih hl, isOpen_close hp, List.mem_cons, not_or, and_assoc]

/-- A session is recorded for one of the binders. -/
def SwClients.RecordedFor (v : SwClients) (bs : List Binder) (s : SessId) : Prop :=
  ∃ i ∈ v.clientList, i.binder ∈ bs ∧ s ∈ i.handles

theorem binderDied_spec {b : Binder} (h : v.binderDied b = some w) :
    w.clientList = v.clientList.filter (·.binder ≠ b) ∧ w.owned = v.owned ∧
      ∀ x, isOpen w.service x ↔ isOpen v.service x ∧ ¬ v.RecordedFor [b] x := by
  obtain ⟨service, hservice, rfl⟩ := Option.map_eq_some_iff.1 h
  refine ⟨rfl, rfl, fun x => ?_⟩
  rw [closeAll_spec hservice]
  refine and_congr_right fun _ => not_congr ?_
  simp only [List.mem_flatMap, List.mem_filter, decide_eq_true_eq, SwClients.RecordedFor, List.mem_singleton, and_assoc]

/-- What the deaths of several binders come to. -/
theorem binderDied_all {bs : List Binder} (h : bs.foldlM SwClients.binderDied v = some w) :
    w.clientList = v.clientList.filter (·.binder ∉ bs) ∧ w.owned = v.owned ∧
      ∀ x, isOpen w.service x ↔ isOpen v.service x ∧ ¬ v.RecordedFor bs x := by
  induction bs generalizing v with
  | nil =>
    obtain rfl : v = w := Option.some.inj h
    simp [SwClients.RecordedFor]
  | cons b bs ih =>
    obtain ⟨u, hu, hbs⟩ := Option.bind_eq_some_iff.1 (show Option.bind _ _ = _ from h)
    obtain ⟨hulist, huowned, huopen⟩ := binderDied_spec hu
    obtain ⟨hlist, howned, hopen⟩ := ih hbs
    refine ⟨?_, howned.trans huowned, fun x => ?_⟩
    · rw [hlist, hulist, List.filter_filter]
      refine List.filter_congr fun i _ => ?_
      simp [Bool.and_comm]
    · rw [hopen, huopen, and_assoc, ← not_or]
      refine and_congr_right fun _ => not_congr ?_
      rw [SwClients.RecordedFor, SwClients.RecordedFor, SwClients.RecordedFor, hulist]
      constructor
      · rintro (⟨i, hi, hb, hx⟩ | ⟨i, hi, hb, hx⟩)
        · exact ⟨i, hi, List.mem_cons.2 (Or.inl (List.mem_singleton.1 hb)), hx⟩
        · exact ⟨i, (List.mem_filter.1 hi).1, List.mem_cons_of_mem b hb, hx⟩
      · rintro ⟨i, hi, hb, hx⟩
        by_cases hib : i.binder = b
        · exact Or.inl ⟨i, hi, List.mem_singleton.2 hib, hx⟩
        · exact Or.inr ⟨i, List.mem_filter.2 ⟨hi, decide_eq_true hib⟩, (List.mem_cons.1 hb).resolve_left hib, hx⟩

theorem SwClients.ClientsOk.die (h : v.ClientsOk) (hw : v.die pid = some w) :
    w.clientList = v.clientList.filter (·.pid ≠ pid) ∧ w.owned = v.owned.filter (·.1 ≠ pid) ∧ v.ClosesOwn w pid := by
  obtain ⟨u, hu, rfl⟩ := Option.map_eq_some_iff.1 hw
  obtain ⟨hlist, howned, hopen⟩ := binderDied_all hu
  -- a binder is one of the process if its entry is
  have hof : ∀ i ∈ v.clientList, i.binder ∈ (v.clientList.filter (·.pid = pid)).map ClientInfo.binder ↔ i.pid = pid := by
    intro i hi
    constructor
    · intro hmem
      obtain ⟨j, hj, heq⟩ := List.mem_map.1 hmem
      obtain ⟨hj, hpid⟩ := List.mem_filter.1 hj
      rw [← h.binders i hi, ← heq, h.binders j hj]
      exact of_decide_eq_true hpid
    · intro hpid
      exact List.mem_map_of_mem (List.mem_filter.2 ⟨hi, decide_eq_true hpid⟩)
  refine ⟨?_, by rw [← howned], fun x => ?_⟩
  · show u.clientList = _
    rw [hlist]
    exact List.filter_congr fun i hi => decide_eq_decide.2 (not_congr (hof i hi))
  · show isOpen u.service x ↔ _
    rw [hopen, ← h.right.recorded]
    refine and_congr_right fun _ => not_congr ?_
    constructor
    · rintro ⟨i, hi, hb, hx⟩
      exact ⟨i, hi, (hof i hi).1 hb, hx⟩
    · rintro ⟨i, hi, hpid, hx⟩
      exact ⟨i, hi, (hof i hi).2 hpid, hx⟩

/-- A client leaves. -/
theorem SwClients.ClientsOk.leaves (h : v.ClientsOk) {o : SwRequest} {r : Int} (ho : o.Leaves pid) (hg : ownSessions v o)
    (he : clientsExec o v = some (r, w)) : w.ClientsOk ∧ v.ClosesOwn w pid := by
  rcases ho with rfl | rfl
  · obtain ⟨u, hu, heq⟩ := Option.map_eq_some_iff.1 he
    obtain ⟨-, rfl⟩ := Prod.mk.inj heq
    obtain ⟨-, hu⟩ := Option.ite_none_right_eq_some.1 hu
    obtain rfl := Option.some.inj hu
    have hclose : v.ClosesOwn _ pid := fun x => (and_iff_left fun hmem => hg _ hmem rfl).symm
    exact ⟨h.leave rfl rfl hclose, hclose⟩
  · obtain ⟨u, hu, heq⟩ := Option.map_eq_some_iff.1 he
    obtain ⟨-, rfl⟩ := Prod.mk.inj heq
    obtain ⟨hlist, howned, hclose⟩ := h.die hu
    exact ⟨h.leave hlist howned hclose, hclose⟩

theorem SwClients.ClientsOk.step (h : v.ClientsOk) {o : SwRequest} {r : Int} (hg : ownSessions v o)
    (he : clientsExec o v = some (r, w)) : w.ClientsOk := by
  cases o with
  | regClient pid id =>
    obtain ⟨-, rfl⟩ := Prod.mk.inj (Option.some.inj he)
    exact h.registerClient pid id
  | unregClient pid => exact (h.leaves (Or.inl rfl) hg he).1
  | «open» pid s mode =>
    obtain ⟨p, hp, he⟩ := Option.bind_eq_some_iff.1 he
    obtain ⟨hclosed, hopen⟩ := isOpen_open hp
    split at he
    · next hr =>
      obtain ⟨-, rfl⟩ := Prod.mk.inj (Option.some.inj he)
      have hsame : ∀ x, isOpen p.2 x ↔ isOpen v.service x := by
        intro x
        rw [hopen]
        exact or_iff_left fun hx => hr hx.1
      exact ⟨h.binders, h.first, h.right.recorded, h.right.once, fun x => (hsame x).trans (h.right.opened x)⟩
    · next hr =>
      have hr := not_not.1 hr
      obtain ⟨-, he⟩ := Option.ite_none_right_eq_some.1 he
      obtain ⟨-, rfl⟩ := Prod.mk.inj (Option.some.inj he)
      rw [if_pos (show v.Registered pid from hg)]
      refine h.add hg (fun q hq => hclosed hr ((h.right.opened s).2 ⟨q, hq⟩)) fun x => ?_
      rw [hopen]
      exact or_congr_right (and_iff_right hr)
  | close pid s =>
    obtain ⟨p, hp, he⟩ := Option.bind_eq_some_iff.1 he
    obtain ⟨-, he⟩ := Option.ite_none_right_eq_some.1 he
    obtain ⟨-, rfl⟩ := Prod.mk.inj (Option.some.inj he)
    exact h.remove hg (isOpen_close hp)
  | die pid => exact (h.leaves (Or.inr rfl) hg he).1

/-- **The sessions of the clients.**  Where clients register first, close only what they have opened and unregister with
nothing open, the handles recorded are the sessions of the clients, these are the open ones, and who leaves closes its own
only. -/
theorem sw_clients_right {service : World} (h0 : service.Fresh) (h : Runs clientsExec ownSessions (SwClients.start service) v) :
    v.HandlesRight ∧ ∀ o pid r w, o.Leaves pid → ownSessions v o → clientsExec o v = some (r, w) → v.ClosesOwn w pid := by
  have hstart : (SwClients.start service).ClientsOk := by
    refine ⟨fun i hi => absurd hi List.not_mem_nil, List.Pairwise.nil, ?_, List.nodup_nil, ?_⟩
    · intro q x
      simp [SwClients.start]
    · intro x
      refine iff_of_false ?_ ?_
      · rintro ⟨hx, hstate⟩
        exact hstate (h0.closed x hx)
      · rintro ⟨q, hq⟩
        exact absurd hq (Finset.notMem_empty _)
  have hok : v.ClientsOk := h.invariant hstart fun _ _ _ _ hv hg he => hv.step hg he
  exact ⟨hok.right, fun o pid r w ho hg he => (hok.leaves ho hg he).2⟩

end

/-- Two clients, one registered twice, each with a session of its own: the death of the first closes its session only. -/
theorem sw_clients_right_two : ∃ v w, Runs clientsExec ownSessions (SwClients.start (World.boot fun _ => [])) v ∧
    v.clientList = [⟨⟨1, 0⟩, 1, [5]⟩, ⟨⟨2, 0⟩, 2, [6]⟩, ⟨⟨1, 1⟩, 1, []⟩] ∧ clientsExec (.die 1) v = some (0, w) ∧
    v.HandlesRight ∧ v.ClosesOwn w 1 := by
  obtain ⟨v, hr, hv⟩ := Runs.exists_of_execAll clientsExec ownSessions
    [.regClient 1 0, .regClient 2 0, .regClient 1 1, .open 1 5 .nonTunnel, .open 2 7 .nonTunnel, .close 2 7,
      .open 2 6 .nonTunnel] (SwClients.start (World.boot fun _ => []))
    (fun v => (v.clientList, (v.die 1).isSome))
    (b := ([⟨⟨1, 0⟩, 1, [5]⟩, ⟨⟨2, 0⟩, 2, [6]⟩, ⟨⟨1, 1⟩, 1, []⟩], true)) (by decide +kernel)
  obtain ⟨hlist, hdie⟩ := Prod.mk.inj hv
  obtain ⟨w, hw⟩ := Option.isSome_iff_exists.1 hdie
  have he : clientsExec (.die 1) v = some (0, w) := by
    show (v.die 1).map _ = _
    rw [hw]
    rfl
  obtain ⟨hright, hcloses⟩ := sw_clients_right (World.fresh_boot _) hr
  exact ⟨v, w, hr, hlist, he, hright, hcloses _ 1 0 w (Or.inr rfl) trivial he⟩

/-- A client opens a session and unregisters: the session is open and nobody's.  And a client closes the session of another
and opens it again: both have its handle, and when the first dies the session of the second is closed. -/
theorem sw_clients_wrong :
    (∃ v, Runs clientsExec (fun _ _ => True) (SwClients.start (World.boot fun _ => [])) v ∧
      v.clientList = [] ∧ v.owned = ∅ ∧ isOpen v.service 5 ∧ ¬ v.HandlesRight) ∧
    ∃ v w, Runs clientsExec (fun _ _ => True) (SwClients.start (World.boot fun _ => [])) v ∧
      v.clientList = [⟨⟨1, 0⟩, 1, [5]⟩, ⟨⟨2, 0⟩, 2, [5]⟩] ∧ clientsExec (.die 1) v = some (0, w) ∧ isOpen v.service 5 ∧
      w.clientList = [⟨⟨2, 0⟩, 2, [5]⟩] ∧ ¬ isOpen w.service 5 ∧ ¬ v.HandlesRight ∧ ¬ w.HandlesRight := by
  constructor
  · obtain ⟨v, hr, hv⟩ := Runs.exists_of_execAll clientsExec (fun _ _ => True)
      [.regClient 1 0, .open 1 5 .nonTunnel, .unregClient 1] (SwClients.start (World.boot fun _ => []))
      (fun v => (v.clientList, v.owned, decide (isOpen v.service 5))) (b := ([], ∅, true)) (by decide +kernel)
    obtain ⟨hlist, hv⟩ := Prod.mk.inj hv
    obtain ⟨howned, hopen⟩ := Prod.mk.inj hv
    have hopen := of_decide_eq_true hopen
    refine ⟨v, hr, hlist, howned, hopen, fun hright => ?_⟩
    obtain ⟨pid, hpid⟩ := (hright.opened 5).1 hopen
    rw [howned] at hpid
    exact Finset.notMem_empty _ hpid
  · obtain ⟨v, hr, hv⟩ := Runs.exists_of_execAll clientsExec (fun _ _ => True)
      [.regClient 1 0, .regClient 2 0, .open 1 5 .nonTunnel, .close 2 5, .open 2 5 .nonTunnel]
      (SwClients.start (World.boot fun _ => []))
      (fun v => (v.clientList, decide (isOpen v.service 5),
        (v.die 1).map fun w : SwClients => (w.clientList, decide (¬ isOpen w.service 5 ∧ (2, 5) ∈ w.owned))))
      (b := ([⟨⟨1, 0⟩, 1, [5]⟩, ⟨⟨2, 0⟩, 2, [5]⟩], true, some ([(⟨⟨2, 0⟩, 2, [5]⟩ : ClientInfo)], true))) (by decide +kernel)
    obtain ⟨hlist, hv⟩ := Prod.mk.inj hv
    obtain ⟨hopen, hv⟩ := Prod.mk.inj hv
    obtain ⟨w, hw, heq⟩ := Option.map_eq_some_iff.1 hv
    obtain ⟨hwlist, heq⟩ := Prod.mk.inj heq
    obtain ⟨hwopen, hwowned⟩ := of_decide_eq_true heq
    refine ⟨v, w, hr, hlist, ?_, of_decide_eq_true hopen, hwlist, hwopen, fun hright => ?_, fun hright => ?_⟩
    · show (v.die 1).map _ = _
      rw [hw]
      rfl
    · have honce := hright.once
      rw [hlist] at honce
      exact absurd honce (by decide)
    · exact hwopen ((hright.opened 5).2 ⟨2, hwowned⟩)

end Agm.Ipc
