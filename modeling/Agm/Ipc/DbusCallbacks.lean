import Agm.Ipc.DbusSessions
import Agm.Ipc.SwCallbacks

/-!
# Callbacks of the D-Bus clients

The server of `agm_server_wrapper_dbus.cpp` registers its own `agmevent_cb` with the service, and for each call of it
sends a signal with the object path of the session.  A client of `agm_client_wrapper_dbus.cpp` has one subscription for
each of its callbacks, by the object path alone.

Requests are granted, and a signal reaches every subscription for its path whose process runs a main loop: that is, one
with a thread in `signal_threadloop`, which only a registration for a session that is new to the client starts.
-/

namespace Agm.Ipc.Dbus

open Agm.Lib

/-- A callback that a client registers. -/
structure Registration where
  client : Nat
  sessionId : UInt32
  evtType : Nat
  clientData : UInt64
  cb : Nat
  deriving DecidableEq, Repr

/-- `agm_callback_data` of the client, with `sub_id_callback_event`. -/
structure Subscription where
  reg : Registration
  subId : Nat
  deriving DecidableEq, Repr

/-- `agm_client_session_data`: what a client keeps of a session, which may have a thread in `signal_threadloop`. -/
structure AgmClientSessionData where
  client : Nat
  sessionId : UInt32
  threadLoop : Bool
  deriving DecidableEq, Repr

/-- The service, the clients, and what these have asked for. -/
structure Callbacks where
  /-- the callbacks of each session, with their event types; all have the data of the session in the server -/
  cbPool : UInt32 → List (Nat × Nat) := fun _ => []
  sessions : List AgmClientSessionData := []
  subs : List Subscription := []
  nextSub : Nat := 1
  registered : List Registration := []

/-- The client has looked the session up before. -/
def Callbacks.Knows (v : Callbacks) (client : Nat) (s : UInt32) : Prop :=
  ∃ d ∈ v.sessions, d.client = client ∧ d.sessionId = s

/-- A thread of the client is in a main loop.  All loops and all subscriptions of a process are for its default context. -/
def Callbacks.Loops (v : Callbacks) (client : Nat) : Prop := ∃ d ∈ v.sessions, d.client = client ∧ d.threadLoop

instance (v : Callbacks) (client : Nat) (s : UInt32) : Decidable (v.Knows client s) := by
  unfold Callbacks.Knows
  infer_instance

instance (v : Callbacks) (client : Nat) : Decidable (v.Loops client) := by
  unfold Callbacks.Loops
  infer_instance

/-- The session of a client, made if it is not there; only `agm_session_register_cb` gives it a thread. -/
def Callbacks.lookup (v : Callbacks) (client : Nat) (s : UInt32) (threadLoop : Bool) : List AgmClientSessionData :=
  if v.Knows client s then v.sessions else ⟨client, s, threadLoop⟩ :: v.sessions

/-- `agm_session_open` of the client. -/
def Callbacks.open (v : Callbacks) (client : Nat) (s : UInt32) : Callbacks :=
  { v with sessions := v.lookup client s false }

/-- `agm_session_register_cb` of the client, and its request to the server. -/
def Callbacks.register (v : Callbacks) (r : Registration) : Callbacks where
  sessions := v.lookup r.client r.sessionId true
  cbPool := Function.update v.cbPool r.sessionId
    (sessionObjRegisterCb true r.evtType r.sessionId.toNat (v.cbPool r.sessionId))
  subs := ⟨r, v.nextSub⟩ :: v.subs
  nextSub := v.nextSub + 1
  registered := r :: v.registered

/-- A deregistration: who asks, for which of its callbacks, and what happens to be in the memory of the
`agm_callback_data` that is made for it. -/
structure Deregistration where
  client : Nat
  sessionId : UInt32
  evtType : Nat
  clientData : UInt64
  junkType : Nat
  junkSub : Nat
  deriving DecidableEq, Repr

/-- The callback is one of those that the client wants to be rid of. -/
def Deregistration.Matches (q : Deregistration) (r : Registration) : Prop :=
  r.client = q.client ∧ r.sessionId = q.sessionId ∧ r.evtType = q.evtType ∧ r.clientData = q.clientData

/-- What `subscribe_callback_event` compares: the event type and the subscription have not been set. -/
def Deregistration.Hits (q : Deregistration) (b : Subscription) : Prop :=
  b.reg.client = q.client ∧ b.reg.sessionId = q.sessionId ∧ b.reg.evtType = q.junkType ∧ b.subId = q.junkSub

instance (q : Deregistration) (r : Registration) : Decidable (q.Matches r) := instDecidableAnd

instance (q : Deregistration) (b : Subscription) : Decidable (q.Hits b) := instDecidableAnd

/-- `agm_session_deregister_cb`; subscriptions have numbers of their own, so the walk ends on the only one it can
hit. -/
def Callbacks.deregister (v : Callbacks) (q : Deregistration) : Callbacks where
  sessions := v.lookup q.client q.sessionId false
  cbPool := Function.update v.cbPool q.sessionId
    (sessionObjRegisterCb false q.evtType q.sessionId.toNat (v.cbPool q.sessionId))
  subs := v.subs.filter fun b => ¬ q.Hits b
  nextSub := v.nextSub
  registered := v.registered.filter fun r => ¬ q.Matches r

/-- The clients' calls for an event: `graph_event_cb` calls `agmevent_cb` once for each callback that it passes, and each
signal goes to every subscription for the path whose process is in a main loop. -/
def Callbacks.deliver (v : Callbacks) (s : UInt32) (ev : SessionEvent) : List (Registration × SessionEvent) :=
  ((v.cbPool s).filter fun sessCb => ev.isFor sessCb.1).flatMap fun _ =>
    (v.subs.filter fun b => sessionPath b.reg.sessionId = sessionPath s ∧ v.Loops b.reg.client).map fun b => (b.reg, ev)

/-- Every callback registered for the session and the event is called once with it, and no other. -/
def Callbacks.Right (v : Callbacks) : Prop :=
  ∀ s ev, (v.deliver s ev).Perm
    ((v.registered.filter fun r => r.sessionId = s && ev.isFor r.evtType).map fun r => (r, ev))

inductive CbOp
  | open (client : Nat) (s : UInt32)
  | register (r : Registration)
  | deregister (q : Deregistration)
  deriving DecidableEq, Repr

def Callbacks.exec (v : Callbacks) : CbOp → Callbacks
  | .open client s => v.open client s
  | .register r => v.register r
  | .deregister q => v.deregister q

/-- A callback is registered only where no subscription is left for the path, by a client that is in a main loop or will
be, as the session is new to it; and what is deregistered for a session and event type is the caller's own callback, with
nothing else hit. -/
def CbOp.Alone (v : Callbacks) : CbOp → Prop
  | .open _ _ => True
  | .register r => (∀ b ∈ v.subs, sessionPath b.reg.sessionId ≠ sessionPath r.sessionId) ∧
      (v.Knows r.client r.sessionId → v.Loops r.client)
  | .deregister q =>
    (∀ r ∈ v.registered, r.sessionId = q.sessionId → r.evtType = q.evtType → q.Matches r) ∧
      ∀ b ∈ v.subs, q.Hits b → q.Matches b.reg

instance (v : Callbacks) (op : CbOp) : Decidable (op.Alone v) := by
  unfold CbOp.Alone
  split <;> infer_instance

/-- Every request finds the callbacks like this. -/
def Callbacks.AllAlone : Callbacks → List CbOp → Prop
  | _, [] => True
  | v, op :: ops => op.Alone v ∧ (v.exec op).AllAlone ops

/-! ## One callback for each path -/

structure Callbacks.Good (v : Callbacks) : Prop where
  registered : v.registered.Sublist (v.subs.map Subscription.reg)
  apart : v.subs.Pairwise fun b b' => sessionPath b.reg.sessionId ≠ sessionPath b'.reg.sessionId
  cbPool : ∀ s, v.cbPool s =
    ((v.registered.filter fun r => r.sessionId = s).map fun r => (r.evtType, s.toNat)).reverse
  loops : ∀ b ∈ v.subs, v.Loops b.reg.client

/-! ## Main loops -/

theorem subset_lookup (v : Callbacks) (client : Nat) (s : UInt32) (threadLoop : Bool) :
    v.sessions ⊆ v.lookup client s threadLoop := by
  unfold Callbacks.lookup
  split
  · exact List.Subset.refl _
  · exact List.subset_cons_self _ _

/-- A client that is in a main loop stays in it. -/
theorem Callbacks.Loops.mono {v v' : Callbacks} {client : Nat} (h : v.Loops client) (hv : v.sessions ⊆ v'.sessions) :
    v'.Loops client := by
  obtain ⟨d, hd, hloop⟩ := h
  exact ⟨d, hv hd, hloop⟩

theorem loops_register {v : Callbacks} {r : Registration} (h : v.Knows r.client r.sessionId → v.Loops r.client) :
    (v.register r).Loops r.client := by
  by_cases hknows : v.Knows r.client r.sessionId
  · exact (h hknows).mono (subset_lookup v _ _ _)
  · refine ⟨⟨r.client, r.sessionId, true⟩, ?_, rfl, rfl⟩
    simp [Callbacks.register, Callbacks.lookup, hknows]

/-! ## The requests -/

theorem good_open {v : Callbacks} (hv : v.Good) (client : Nat) (s : UInt32) : (v.open client s).Good where
  registered := hv.registered
  apart := hv.apart
  cbPool := hv.cbPool
  loops := fun b hb => (hv.loops b hb).mono (subset_lookup v _ _ _)

theorem good_register {v : Callbacks} (hv : v.Good) {r : Registration} (h : (CbOp.register r).Alone v) :
    (v.register r).Good where
  registered := hv.registered.cons_cons r
  apart := List.pairwise_cons.2 ⟨fun b hb => (h.1 b hb).symm, hv.apart⟩
  cbPool := fun s => by
    unfold Callbacks.register
    by_cases hs : s = r.sessionId
    · subst hs
      simp [sessionObjRegisterCb, hv.cbPool]
    · simp [Function.update_of_ne hs, hv.cbPool, Ne.symm hs]
  loops := fun b hb => by
    rcases List.mem_cons.1 hb with rfl | hb
    · exact loops_register h.2
    · exact (hv.loops b hb).mono (subset_lookup v _ _ _)

theorem good_deregister {v : Callbacks} (hv : v.Good) {q : Deregistration} (h : (CbOp.deregister q).Alone v) :
    (v.deregister q).Good where
  registered := by
    have hsame : v.subs.filter (fun b => ¬ q.Matches b.reg) =
        (v.subs.filter fun b => ¬ q.Hits b).filter fun b => ¬ q.Matches b.reg := by
      rw [List.filter_filter]
      refine List.filter_congr fun b hb => ?_
      by_cases hhit : q.Hits b
      · simp [hhit, h.2 b hb hhit]
      · simp [hhit]
    have hsub := hv.registered.filter fun r => ¬ q.Matches r
    rw [List.filter_map] at hsub
    refine hsub.trans (List.Sublist.map _ ?_)
    exact hsame ▸ List.filter_sublist
  apart := hv.apart.filter _
  cbPool := fun s => by
    show Function.update v.cbPool q.sessionId _ s =
      (((v.registered.filter fun r => ¬ q.Matches r).filter fun r => r.sessionId = s).map _).reverse
    rw [List.filter_filter]
    by_cases hs : s = q.sessionId
    · subst hs
      rw [Function.update_self, sessionObjRegisterCb, if_neg (by decide), hv.cbPool, List.filter_reverse, List.filter_map,
        List.filter_filter]
      congr 2
      refine List.filter_congr fun r hr => ?_
      -- what has the event type is the caller's
      by_cases hid : r.sessionId = q.sessionId
      · have hiff : q.Matches r ↔ r.evtType = q.evtType := ⟨fun hm => hm.2.2.1, fun ht => h.1 r hr hid ht⟩
        simp [hid, hiff]
      · simp [hid]
    · rw [Function.update_of_ne hs, hv.cbPool]
      congr 2
      refine List.filter_congr fun r _ => ?_
      by_cases hid : r.sessionId = s
      · have hnot : ¬ q.Matches r := fun hm => hs (hid.symm.trans hm.2.1)
        simp [hid, hnot]
      · simp [hid]
  loops := fun b hb => (hv.loops b (List.mem_filter.1 hb).1).mono (subset_lookup v _ _ _)

/-- A list in which no two elements are allowed. -/
theorem eq_singleton_of_mem {α : Type} {l : List α} {a : α} (h : l.Pairwise fun _ _ => False) (ha : a ∈ l) :
    l = [a] := by
  cases l with
  | nil => cases ha
  | cons x xs =>
    cases xs with
    | nil => rw [List.mem_singleton.1 ha]
    | cons y ys => exact absurd List.mem_cons_self ((List.pairwise_cons.1 h).1 y)

/-- With one callback for each path every event is delivered right. -/
theorem right_of_good {v : Callbacks} (hv : v.Good) : v.Right := by
  intro s ev
  have hreg : v.registered.Pairwise fun r r' => sessionPath r.sessionId ≠ sessionPath r'.sessionId :=
    List.Pairwise.sublist hv.registered (List.pairwise_map.2 hv.apart)
  have hapart : (v.registered.filter fun r => r.sessionId = s).Pairwise fun _ _ => False := by
    refine (hreg.filter _).imp_of_mem fun hr hr' hne => hne ?_
    rw [of_decide_eq_true (List.mem_filter.1 hr).2, of_decide_eq_true (List.mem_filter.1 hr').2]
  have hsubs : (v.subs.filter fun b => sessionPath b.reg.sessionId = sessionPath s).Pairwise fun _ _ => False := by
    refine (hv.apart.filter _).imp_of_mem fun hb hb' hne => hne ?_
    rw [of_decide_eq_true (List.mem_filter.1 hb).2, of_decide_eq_true (List.mem_filter.1 hb').2]
  have hfilter : (v.registered.filter fun r => r.sessionId = s && ev.isFor r.evtType) =
      (v.registered.filter fun r => r.sessionId = s).filter fun r => ev.isFor r.evtType := by
    rw [List.filter_filter]
    exact List.filter_congr fun r _ => Bool.and_comm _ _
  have hloops : (v.subs.filter fun b => sessionPath b.reg.sessionId = sessionPath s ∧ v.Loops b.reg.client) =
      v.subs.filter fun b => sessionPath b.reg.sessionId = sessionPath s :=
    List.filter_congr fun b hb => by simp [hv.loops b hb]
  unfold Callbacks.deliver
  rw [hloops, hfilter, hv.cbPool]
  -- at most one callback of the session is registered, and it has the only subscription
  rcases List.eq_nil_or_concat (v.registered.filter fun r => r.sessionId = s) with hnil | ⟨rs, r, hr⟩
  · rw [hnil]
    exact List.Perm.refl _
  · have hmem : r ∈ v.registered.filter fun r => r.sessionId = s := by
      rw [hr, List.concat_eq_append]
      exact List.mem_concat_self
    rw [eq_singleton_of_mem hapart hmem]
    obtain ⟨hmem, hid⟩ := List.mem_filter.1 hmem
    obtain ⟨b, hb, rfl⟩ := List.mem_map.1 (hv.registered.subset hmem)
    have hat : b ∈ v.subs.filter fun c => sessionPath c.reg.sessionId = sessionPath s :=
      List.mem_filter.2 ⟨hb, decide_eq_true (congrArg sessionPath (of_decide_eq_true hid))⟩
    rw [eq_singleton_of_mem hsubs hat]
    cases hev : ev.isFor b.reg.evtType <;> simp [hev]

/-! ## Runs -/

theorem good_exec {v : Callbacks} (hv : v.Good) {op : CbOp} (h : op.Alone v) : (v.exec op).Good := by
  cases op with
  | «open» client s => exact good_open hv client s
  | register r => exact good_register hv h
  | deregister q => exact good_deregister hv h

theorem good_foldl {v : Callbacks} (hv : v.Good) (ops : List CbOp) (h : v.AllAlone ops) :
    (ops.foldl Callbacks.exec v).Good := by
  induction ops generalizing v with
  | nil => exact hv
  | cons op ops ih => exact ih (good_exec hv h.1) h.2

/-- **The callbacks of the D-Bus clients.**  Where there is one callback for each path, and deregistrations are for the
caller's own, an event at any time is delivered once to each callback that is registered for it, and to no other. -/
theorem dbus_callbacks_right (ops : List CbOp) (h : Callbacks.AllAlone {} ops) :
    (ops.foldl Callbacks.exec {}).Right :=
  right_of_good (good_foldl ⟨List.Sublist.refl _, List.Pairwise.nil, fun _ => rfl, fun _ hb => absurd hb List.not_mem_nil⟩
    ops h)

/-- Two clients, each with a session of its own; one deregisters, and the other one opens a second session and then asks
for its events, which its first thread takes. -/
theorem dbus_callbacks_right_three : (List.foldl Callbacks.exec {}
    [.register ⟨1, 5, 1, 10, 100⟩, .register ⟨2, 6, 1, 20, 200⟩, .deregister ⟨1, 5, 1, 10, 0, 0⟩, .open 2 7,
      .register ⟨2, 7, 2, 30, 300⟩]).Right :=
  dbus_callbacks_right _
    ⟨by decide +kernel, by decide +kernel, by decide +kernel, by decide +kernel, by decide +kernel, trivial⟩

/-- Two clients with a callback for one session: each is called twice.  If one deregisters, the other is not called at
all.  A client that asks for the only callback of its session after a request to deregister, or after it opened the
session, is not called either. -/
theorem dbus_callbacks_wrong :
    ¬ (List.foldl Callbacks.exec {} [.register ⟨1, 5, 1, 10, 100⟩, .register ⟨2, 5, 1, 20, 200⟩]).Right ∧
      ¬ (List.foldl Callbacks.exec {} [.register ⟨1, 5, 1, 10, 100⟩, .register ⟨2, 5, 1, 20, 200⟩,
        .deregister ⟨1, 5, 1, 10, 0, 0⟩]).Right ∧
      ¬ (List.foldl Callbacks.exec {} [.deregister ⟨1, 5, 1, 10, 0, 0⟩, .register ⟨1, 5, 1, 10, 100⟩]).Right ∧
      ¬ (List.foldl Callbacks.exec {} [.open 1 5, .register ⟨1, 5, 1, 10, 100⟩]).Right :=
  ⟨fun h => absurd (h 5 .flush).length_eq (by decide +kernel), fun h => absurd (h 5 .flush).length_eq (by decide +kernel),
    fun h => absurd (h 5 .flush).length_eq (by decide +kernel), fun h => absurd (h 5 .flush).length_eq (by decide +kernel)⟩

end Agm.Ipc.Dbus
