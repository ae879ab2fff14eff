import Agm.Lib.Queue
import Agm.Ipc.Server

/-!
# Callbacks of one's own

The server keeps the callbacks of all clients in one list.  A client that takes one back names it by the session, the event
type and the client data, all of its own choosing, and the server takes the first entry of the list that has them.
-/

namespace Agm.Ipc

open Agm.Lib Agm.Service

/-! ## What a client is owed -/

/-- The callback is one that a client has registered for a session, an event type and client data. -/
def SrvrClbk.is (pid : Nat) (s : SessId) (event clntData : Nat) (k : SrvrClbk) : Bool :=
  k.pid = pid && k.sessionId = s && k.event = event && k.clntData = clntData

/-- Its client takes back a callback. -/
def deregistration (s : SessId) (event clntData : Nat) : IpcRequest :=
  .sessionRegisterCallback s event false clntData

/-- The session has the callback, or is about to have it. -/
def Server.Serves (v : Server) (k : SrvrClbk) : Prop :=
  (k.event, k.addr) ∈ v.service.cbPool k.sessionId ∨
    (k.pid, .call (.register k.sessionId k.event k.addr)) ∈ v.inFlight

/-- The callback that a deregistration is about. -/
def Pending.taken : Pending → Option SrvrClbk
  | .deregister clbk | .listRemove clbk | .removing clbk => some clbk
  | _ => none

/-- The callback is about to be taken back. -/
def Server.Taken (v : Server) (k : SrvrClbk) : Prop := ∃ p ∈ v.inFlight, p.2.taken = some k

instance (v : Server) (k : SrvrClbk) : Decidable (v.Taken k) := List.decidableBEx _ _

/-- The callbacks in the list that nobody takes back. -/
def Server.kept (v : Server) : List SrvrClbk := v.clbkDataList.filter fun k => ¬ v.Taken k

/-- Of the callbacks that a client has registered no more are lost than the client itself has asked to take back, with the
same session, event type and client data; a callback in the list is one of the session; and what is about to be taken back
is the client's own. -/
structure Server.KeepsCallbacks (v : Server) : Prop where
  listed : ∀ pid s event clntData, v.registered.countP (SrvrClbk.is pid s event clntData) ≤
    v.kept.countP (SrvrClbk.is pid s event clntData) + v.requested.count (pid, deregistration s event clntData)
  served : ∀ k ∈ v.kept, v.Serves k
  owned : ∀ p ∈ v.inFlight, ∀ k ∈ p.2.taken, k.pid = p.1

/-- The entry that a deregistration finds. -/
def Server.found (v : Server) (s : SessId) (event clntData : Nat) : Option SrvrClbk :=
  v.clbkDataList.find? fun k => k.sessionId = s && k.event = event && k.clntData = clntData

/-- A request on the callback is still going on. -/
def Server.Busy (v : Server) (k : SrvrClbk) : Prop :=
  v.Taken k ∨ (k.pid, .call (.register k.sessionId k.event k.addr)) ∈ v.inFlight

instance (v : Server) (k : SrvrClbk) : Decidable (v.Busy k) := instDecidableOr

def Pending.startsRemoval : Pending → Bool
  | .listRemove _ => true
  | _ => false

def Pending.isRemoving : Pending → Bool
  | .removing _ => true
  | _ => false

/-- A `list_remove` is between its stores. -/
def Server.Removing (v : Server) : Prop := ∃ p ∈ v.inFlight, p.2.isRemoving

instance (v : Server) : Decidable v.Removing := List.decidableBEx _ _

/-- Requests, but no deaths. -/
def requestsOnly (_ : Server) : Event → Prop
  | .die _ => False
  | _ => True

/-- The first entry with the client data is the caller's, and no request on it is going on; and nobody comes to the list
while a `list_remove` goes on. -/
def ownFirst (v : Server) : Event → Prop
  | .die _ => False
  | .begin pid (.sessionRegisterCallback s event ipcClientData clntData) =>
    ¬ v.Removing ∧ (ipcClientData = false → ∀ k ∈ v.found s event clntData, k.pid = pid ∧ ¬ v.Busy k)
  | .finish i => ∀ p ∈ v.inFlight[i]?, p.2.startsRemoval → ¬ v.Removing
  | _ => True

instance (v : Server) (ev : Event) : Decidable (requestsOnly v ev) := by
  unfold requestsOnly
  split <;> infer_instance

instance (v : Server) (ev : Event) : Decidable (ownFirst v ev) := by
  unfold ownFirst
  split <;> infer_instance

/-! ## The invariant -/

/-- Besides what a client is owed: callbacks are told apart by their addresses, and only listed ones are taken back. -/
structure Server.CallbacksOk (v : Server) : Prop where
  placed : ∀ (i : Nat) (k : SrvrClbk), v.registered[i]? = some k → k.addr = i
  clbks : ∀ k ∈ v.clbkDataList, k ∈ v.registered
  nodup : v.clbkDataList.Nodup
  quiet : v.cleanups = []
  calls : ∀ pid s event addr, (pid, .call (.unregister s event addr)) ∉ v.inFlight
  counted : ∀ pid s event clntData, v.registered.countP (SrvrClbk.is pid s event clntData) ≤
    v.kept.countP (SrvrClbk.is pid s event clntData) + v.requested.count (pid, deregistration s event clntData)
  served : ∀ k ∈ v.kept, v.Serves k
  owned : ∀ p ∈ v.inFlight, ∀ k ∈ p.2.taken, k.pid = p.1 ∧ k ∈ v.registered

section

variable {v w : Server} {pid : Nat}

theorem Server.CallbacksOk.keeps (h : v.CallbacksOk) : v.KeepsCallbacks :=
  ⟨h.counted, h.served, fun p hp k hk => (h.owned p hp k hk).1⟩

theorem Server.CallbacksOk.eq_of_addr (h : v.CallbacksOk) {k k' : SrvrClbk} (hk : k ∈ v.registered)
    (hk' : k' ∈ v.registered) (heq : k.addr = k'.addr) : k = k' := by
  obtain ⟨i, hi⟩ := List.mem_iff_getElem?.1 hk
  obtain ⟨j, hj⟩ := List.mem_iff_getElem?.1 hk'
  have hij : i = j := by rw [← h.placed i k hi, ← h.placed j k' hj, heq]
  rw [hij] at hi
  exact Option.some.inj (hi.symm.trans hj)

theorem Server.mem_kept {k : SrvrClbk} : k ∈ v.kept ↔ k ∈ v.clbkDataList ∧ ¬ v.Taken k := by
  rw [Server.kept, List.mem_filter, decide_eq_true_eq]

/-- A callback that is taken back was registered. -/
theorem Server.CallbacksOk.registered_of_taken (h : v.CallbacksOk) {k : SrvrClbk} (hk : v.Taken k) : k ∈ v.registered := by
  obtain ⟨p, hp, htaken⟩ := hk
  exact (h.owned p hp k htaken).2

/-- The same is listed and taken back. -/
theorem Server.kept_congr (hlist : w.clbkDataList = v.clbkDataList) (htaken : ∀ k, w.Taken k ↔ v.Taken k) : w.kept = v.kept := by
  unfold Server.kept
  rw [hlist]
  exact List.filter_congr fun k _ => decide_eq_decide.2 (not_congr (htaken k))

/-- Requests that take nothing back come in. -/
theorem Server.taken_append {l extra : List (Nat × Pending)} (hw : w.inFlight = l ++ extra) (hl : v.inFlight = l)
    (hextra : ∀ p ∈ extra, p.2.taken = none) (k : SrvrClbk) : w.Taken k ↔ v.Taken k := by
  unfold Server.Taken
  rw [hw, hl]
  constructor
  · rintro ⟨p, hp, htaken⟩
    rcases List.mem_append.1 hp with hp | hp
    · exact ⟨p, hp, htaken⟩
    · rw [hextra p hp] at htaken
      cases htaken
  · rintro ⟨p, hp, htaken⟩
    exact ⟨p, List.mem_append_left _ hp, htaken⟩

/-- What a request that is not about callbacks leaves to do. -/
def Pending.Other : Pending → Prop
  | .call (.op _ _) => True
  | .open _ _ => True
  | _ => False

/-- A request that is not about callbacks changes the lists of the sessions only. -/
theorem walk_other {req : IpcRequest} {p : Server × Option Pending} (h : v.walk pid req = some p)
    (hreq : ∀ s event b d, req ≠ .sessionRegisterCallback s event b d) :
    (∃ l, p.1 = { v with sessions := l }) ∧ ∀ q ∈ p.2, q.Other := by
  have hpending (l : List ClientSession) (q : Pending) (hq : q.Other) (hp : some ({ v with sessions := l }, some q) = some p) :
      (∃ l, p.1 = { v with sessions := l }) ∧ ∀ q ∈ p.2, q.Other := by
    obtain rfl := Option.some.inj hp
    refine ⟨⟨l, rfl⟩, ?_⟩
    rintro q' hq'
    obtain rfl := Option.some.inj hq'
    exact hq
  cases req with
  | sessionSetMetadata s numGkv ret md => exact hpending _ (.call (.op s _)) trivial (Option.ite_none_left_eq_some.1 h).2
  | sessionAifSetMetadata s aifId numGkv ret md => exact hpending _ (.call (.op s _)) trivial (Option.ite_none_left_eq_some.1 h).2
  | sessionAifConnect s aifId state => exact hpending _ (.call (.op s _)) trivial (Option.ite_none_left_eq_some.1 h).2
  | sessionOpen s mode => exact hpending _ (.open s mode) trivial (Option.ite_none_left_eq_some.1 h).2
  | sessionClose hndl =>
    obtain ⟨-, h⟩ := Option.ite_none_left_eq_some.1 h
    obtain rfl := Option.some.inj h
    refine ⟨⟨_, rfl⟩, ?_⟩
    intro q hq
    obtain ⟨s, -, rfl⟩ := Option.map_eq_some_iff.1 hq
    trivial
  | sessionRegisterCallback s event b d => exact absurd rfl (hreq s event b d)
  | other s op => exact hpending v.sessions (.call (.op s op)) trivial h

theorem Pending.Other.taken {q : Pending} (h : q.Other) : q.taken = none := by
  cases q with
  | call c => rfl
  | «open» s mode => rfl
  | deregister k => exact h.elim
  | listRemove k => exact h.elim
  | removing k => exact h.elim

theorem Server.Serves.mono {k : SrvrClbk} (h : v.Serves k) (hpool : ∀ s cb, cb ∈ v.service.cbPool s → cb ∈ w.service.cbPool s)
    (hflight : ∀ p ∈ v.inFlight, p ∈ w.inFlight) : w.Serves k := h.imp (hpool _ _) (hflight _)

/-! ## Requests that come in -/

/-- A request that leaves the callbacks alone comes in. -/
theorem Server.CallbacksOk.begin_other (h : v.CallbacksOk) (l : List ClientSession) {extra : List (Nat × Pending)}
    (hextra : ∀ p ∈ extra, p.2.Other) (r : Nat × IpcRequest) :
    Server.CallbacksOk { v with sessions := l, inFlight := v.inFlight ++ extra, requested := v.requested ++ [r] } := by
  have hnew {p : Nat × Pending} (hp : p ∈ v.inFlight ++ extra) (hnot : ¬ p.2.Other) : p ∈ v.inFlight :=
    (List.mem_append.1 hp).resolve_right fun hp => hnot (hextra p hp)
  have hkept : Server.kept { v with sessions := l, inFlight := v.inFlight ++ extra, requested := v.requested ++ [r] } = v.kept :=
    Server.kept_congr rfl (Server.taken_append rfl rfl fun p hp => (hextra p hp).taken)
  refine ⟨h.placed, h.clbks, h.nodup, h.quiet, ?_, ?_, ?_, ?_⟩
  · intro pid s event addr hp
    exact h.calls pid s event addr (hnew hp fun hother => hother)
  · intro pid s event clntData
    have hold := h.counted pid s event clntData
    rw [hkept]
    dsimp only
    rw [List.count_append]
    omega
  · intro k hk
    rw [hkept] at hk
    exact (h.served k hk).mono (fun _ _ hcb => hcb) fun p hp => List.mem_append_left _ hp
  · intro p hp k hk
    refine h.owned p (hnew hp fun hother => ?_) k hk
    rw [hother.taken] at hk
    cases hk

/-- A client registers a callback. -/
theorem Server.CallbacksOk.begin_register (h : v.CallbacksOk) (clbk : SrvrClbk) (haddr : clbk.addr = v.registered.length)
    (r : Nat × IpcRequest) :
    Server.CallbacksOk { v with
      clbkDataList := v.clbkDataList ++ [clbk], registered := v.registered ++ [clbk],
      inFlight := v.inFlight ++ [(clbk.pid, .call (.register clbk.sessionId clbk.event clbk.addr))],
      requested := v.requested ++ [r] } := by
  have hfresh : clbk ∉ v.registered := by
    intro hmem
    obtain ⟨i, hi⟩ := List.mem_iff_getElem?.1 hmem
    have hlt := (List.getElem?_eq_some_iff.1 hi).1
    have := h.placed i clbk hi
    omega
  have hnew {p : Nat × Pending} (hp : p ∈ v.inFlight ++ [(clbk.pid, Pending.call (.register clbk.sessionId clbk.event clbk.addr))])
      (hne : ∀ s event addr, p.2 ≠ .call (.register s event addr)) : p ∈ v.inFlight := by
    refine (List.mem_append.1 hp).resolve_right fun hp => ?_
    rw [List.mem_singleton.1 hp] at hne
    exact hne _ _ _ rfl
  set w : Server := { v with
    clbkDataList := v.clbkDataList ++ [clbk], registered := v.registered ++ [clbk],
    inFlight := v.inFlight ++ [(clbk.pid, .call (.register clbk.sessionId clbk.event clbk.addr))],
    requested := v.requested ++ [r] } with hw
  have htaken : ∀ k, w.Taken k ↔ v.Taken k := by
    refine Server.taken_append rfl rfl fun p hp => ?_
    rw [List.mem_singleton.1 hp]
    rfl
  have hkept : w.kept = v.kept ++ [clbk] := by
    have hnot : ¬ v.Taken clbk := fun hk => hfresh (h.registered_of_taken hk)
    have hall : w.kept = (v.clbkDataList ++ [clbk]).filter fun k => ¬ v.Taken k :=
      List.filter_congr fun k _ => decide_eq_decide.2 (not_congr (htaken k))
    rw [hall, List.filter_append]
    exact congrArg (v.kept ++ ·) (List.filter_eq_self.2 fun k hk => by rw [List.mem_singleton.1 hk]; exact decide_eq_true hnot)
  refine ⟨?_, ?_, ?_, h.quiet, ?_, ?_, ?_, ?_⟩
  · intro i k hk
    rcases Nat.lt_trichotomy i v.registered.length with hlt | rfl | hgt
    · exact h.placed i k ((List.getElem?_append_left hlt).symm.trans hk)
    · obtain rfl := Option.some.inj (List.getElem?_concat_length.symm.trans hk)
      exact haddr
    · have := (List.getElem?_eq_some_iff.1 hk).1
      rw [hw, List.length_append, List.length_singleton] at this
      omega
  · intro k hk
    exact (List.mem_append.1 hk).elim (fun hk => List.mem_append_left _ (h.clbks k hk)) (List.mem_append_right _)
  · refine List.nodup_append.2 ⟨h.nodup, List.nodup_singleton _, ?_⟩
    rintro k hk k' hk' rfl
    rw [List.mem_singleton.1 hk'] at hk
    exact hfresh (h.clbks clbk hk)
  · intro pid s event addr hp
    exact h.calls pid s event addr (hnew hp fun _ _ _ heq => Call.noConfusion (Pending.call.inj heq))
  · intro pid s event clntData
    have hold := h.counted pid s event clntData
    rw [hkept]
    simp only [hw, List.countP_append, List.count_append]
    omega
  · intro k hk
    rw [hkept] at hk
    rcases List.mem_append.1 hk with hk | hk
    · exact (h.served k hk).mono (fun _ _ hcb => hcb) fun p hp => List.mem_append_left _ hp
    · rw [List.mem_singleton.1 hk]
      exact Or.inr (List.mem_append_right _ (List.mem_singleton_self _))
  · intro p hp k hk
    refine (h.owned p (hnew hp fun s event addr heq => ?_) k hk).imp_right (List.mem_append_left _)
    rw [heq] at hk
    cases hk

/-- A client takes a callback back; what is found is its own. -/
theorem Server.CallbacksOk.begin_deregister (h : v.CallbacksOk) {s : SessId} {event clntData : Nat}
    (hown : ∀ k ∈ v.found s event clntData, k.pid = pid) :
    Server.CallbacksOk { v with
      inFlight := v.inFlight ++ ((v.found s event clntData).map fun k => (pid, Pending.deregister k)).toList,
      requested := v.requested ++ [(pid, deregistration s event clntData)] } := by
  cases hfound : v.found s event clntData with
  | none =>
    have hnone : ∀ p ∈ ([] : List (Nat × Pending)), p.2.Other := fun p hp => absurd hp List.not_mem_nil
    exact h.begin_other v.sessions hnone (pid, deregistration s event clntData)
  | some k =>
    have hkpid : k.pid = pid := hown k hfound
    have hkey : k.sessionId = s ∧ k.event = event ∧ k.clntData = clntData := by
      have := List.find?_some hfound
      simpa [and_assoc] using this
    have hnew {p : Nat × Pending} (hp : p ∈ v.inFlight ++ [(pid, Pending.deregister k)])
        (hne : p ≠ (pid, .deregister k)) : p ∈ v.inFlight :=
      (List.mem_append.1 hp).resolve_right fun hp => hne (List.mem_singleton.1 hp)
    show Server.CallbacksOk { v with
      inFlight := v.inFlight ++ [(pid, Pending.deregister k)],
      requested := v.requested ++ [(pid, deregistration s event clntData)] }
    set w : Server := { v with
      inFlight := v.inFlight ++ [(pid, Pending.deregister k)],
      requested := v.requested ++ [(pid, deregistration s event clntData)] } with hw
    have htaken : ∀ k', w.Taken k' ↔ v.Taken k' ∨ k' = k := by
      intro k'
      constructor
      · rintro ⟨p, hp, hk'⟩
        rcases List.mem_append.1 hp with hp | hp
        · exact Or.inl ⟨p, hp, hk'⟩
        · rw [List.mem_singleton.1 hp] at hk'
          exact Or.inr (Option.some.inj hk').symm
      · rintro (⟨p, hp, hk'⟩ | rfl)
        · exact ⟨p, List.mem_append_left _ hp, hk'⟩
        · exact ⟨_, List.mem_append_right _ (List.mem_singleton_self _), rfl⟩
    have hkept : w.kept = v.kept.filter (· != k) := by
      unfold Server.kept
      rw [List.filter_filter]
      refine List.filter_congr fun k' _ => ?_
      by_cases hk' : k' = k <;> simp [htaken, hk']
    refine ⟨h.placed, h.clbks, h.nodup, h.quiet, ?_, ?_, ?_, ?_⟩
    · intro q s' event' addr hp
      exact h.calls q s' event' addr (hnew hp fun heq => Pending.noConfusion (Prod.mk.inj heq).2)
    · intro q s' event' clntData'
      have hold := h.counted q s' event' clntData'
      -- what is taken back has been asked for
      have hone : v.kept.countP (SrvrClbk.is q s' event' clntData') ≤
          w.kept.countP (SrvrClbk.is q s' event' clntData') +
            [(pid, deregistration s event clntData)].count (q, deregistration s' event' clntData') := by
        have hnodup : v.kept.Nodup := h.nodup.filter _
        rw [hkept, ← hnodup.erase_eq_filter]
        by_cases hmem : k ∈ v.kept
        · rw [(List.perm_cons_erase hmem).countP_eq, List.countP_cons, add_le_add_iff_left]
          split
          · next hk =>
            have hq : pid = q ∧ s = s' ∧ event = event' ∧ clntData = clntData' := by
              have : ((k.pid = q ∧ k.sessionId = s') ∧ k.event = event') ∧ k.clntData = clntData' := by
                simpa [SrvrClbk.is] using hk
              obtain ⟨⟨⟨hpid', hs'⟩, hevent'⟩, hdata'⟩ := this
              obtain ⟨hs, hevent, hdata⟩ := hkey
              exact ⟨hkpid ▸ hpid', hs ▸ hs', hevent ▸ hevent', hdata ▸ hdata'⟩
            obtain ⟨rfl, rfl, rfl, rfl⟩ := hq
            rw [List.count_singleton_self]
          · exact Nat.zero_le _
        · rw [List.erase_of_not_mem hmem]
          exact Nat.le_add_right _ _
      have hcount : w.requested.count (q, deregistration s' event' clntData') =
          v.requested.count (q, deregistration s' event' clntData') + _ := List.count_append
      rw [hcount]
      exact hold.trans (by omega)
    · intro k' hk'
      rw [hkept] at hk'
      exact (h.served k' (List.mem_of_mem_filter hk')).mono (fun _ _ hcb => hcb) fun p hp => List.mem_append_left _ hp
    · intro p hp k' hk'
      by_cases heq : p = (pid, Pending.deregister k)
      · rw [heq] at hk' ⊢
        obtain rfl := Option.some.inj hk'
        exact ⟨hkpid, h.clbks k (List.mem_of_find?_eq_some hfound)⟩
      · exact h.owned p (hnew hp heq) k' hk'

theorem Server.CallbacksOk.begin (h : v.CallbacksOk) {req : IpcRequest} (hg : ownFirst v (.begin pid req))
    (hb : v.begin pid req = some w) : w.CallbacksOk := by
  obtain ⟨p, hwalk, rfl⟩ := Option.map_eq_some_iff.1 hb
  by_cases hreq : ∃ s event b d, req = .sessionRegisterCallback s event b d
  · obtain ⟨s, event, b, d, rfl⟩ := hreq
    cases b with
    | true =>
      obtain rfl := Option.some.inj hwalk
      exact h.begin_register ⟨v.registered.length, pid, s, event, d⟩ rfl _
    | false =>
      obtain rfl := Option.some.inj hwalk
      have hown : ∀ k ∈ v.found s event d, k.pid = pid := fun k hk => (hg.2 rfl k hk).1
      have hbegun := h.begin_deregister hown
      rw [show ((v.found s event d).map fun k => (pid, Pending.deregister k)) =
        ((v.found s event d).map Pending.deregister).map fun pending => (pid, pending) from
          (Option.map_map _ _ _).symm] at hbegun
      exact hbegun
  · obtain ⟨⟨l, hl⟩, hother⟩ := walk_other hwalk fun s event b d heq => hreq ⟨s, event, b, d, heq⟩
    rw [hl]
    refine h.begin_other l ?_ (pid, req)
    intro q hq
    obtain ⟨pending, hpending, rfl⟩ := Option.map_eq_some_iff.1 (Option.mem_toList.1 hq)
    exact hother pending hpending

/-! ## Requests that go on -/

section

variable {i : Nat} {p : Nat × Pending}

/-- What a call of the service leaves of the callbacks, if it takes none back. -/
theorem Backend.call_keeps_cbs {b b' : Backend} {c : Call} {r : Int} (h : b.call c = some (r, b'))
    (hc : ∀ s event addr, c ≠ .unregister s event addr) {s : SessId} {cb : Nat × Nat} (hcb : cb ∈ b.cbPool s) :
    cb ∈ b'.cbPool s := by
  cases c with
  | op s' op =>
    obtain ⟨q, -, heq⟩ := Option.map_eq_some_iff.1 h
    obtain ⟨-, rfl⟩ := Prod.mk.inj heq
    exact hcb
  | register s' event addr =>
    obtain ⟨-, rfl⟩ := Prod.mk.inj (Option.some.inj h)
    show cb ∈ if s = s' then b.cbPool s' ++ [(event, addr)] else b.cbPool s
    split
    · next hs =>
      rw [hs] at hcb
      exact List.mem_append_left _ hcb
    · exact hcb
  | unregister s' event addr => exact absurd rfl (hc s' event addr)

/-- A request goes on, or is done, and the same callbacks are kept. -/
theorem Server.CallbacksOk.finish_kept (h : v.CallbacksOk) (hsame : w.registered = v.registered ∧ w.requested = v.requested ∧
      w.cleanups = v.cleanups) (hclbks : w.clbkDataList.Sublist v.clbkDataList) (hkept : w.kept = v.kept)
    (hflight : ∀ q ∈ w.inFlight, q ∈ v.inFlight ∨ (∀ c, q.2 ≠ .call c) ∧ ∀ k ∈ q.2.taken, k.pid = q.1 ∧ k ∈ v.registered)
    (hserved : ∀ k ∈ v.kept, w.Serves k) : w.CallbacksOk := by
  obtain ⟨hreg, hreq, hcleanups⟩ := hsame
  refine ⟨?_, ?_, h.nodup.sublist hclbks, hcleanups.trans h.quiet, ?_, ?_, ?_, ?_⟩
  · rw [hreg]
    exact h.placed
  · rw [hreg]
    exact fun k hk => h.clbks k (hclbks.subset hk)
  · intro q s event addr hq
    rcases hflight _ hq with hq | ⟨hcall, -⟩
    · exact h.calls q s event addr hq
    · exact hcall _ rfl
  · rw [hreg, hreq, hkept]
    exact h.counted
  · rw [hkept]
    exact hserved
  · intro q hq k hk
    rw [hreg]
    rcases hflight q hq with hq | ⟨-, howned⟩
    · exact h.owned q hq k hk
    · exact howned k hk

/-- What is in flight besides the request that goes on. -/
theorem mem_inFlight (hp : v.inFlight[i]? = some p) {q : Nat × Pending} :
    q ∈ v.inFlight ↔ q = p ∨ q ∈ v.inFlight.eraseIdx i := by
  rw [← (cons_eraseIdx_perm hp).mem_iff, List.mem_cons]

/-- What is taken back is taken back still, by the next step of the request. -/
theorem taken_next (hp : v.inFlight[i]? = some p) (next : List (Nat × Pending))
    (hw : w.inFlight = v.inFlight.eraseIdx i ++ next)
    (hnext : ∀ k, (∃ q ∈ next, q.2.taken = some k) ↔ p.2.taken = some k) (k : SrvrClbk) : w.Taken k ↔ v.Taken k := by
  have hold : v.Taken k ↔ p.2.taken = some k ∨ ∃ q ∈ v.inFlight.eraseIdx i, q.2.taken = some k := by
    simp only [Server.Taken, mem_inFlight hp, or_and_right, exists_or, exists_eq_left]
  rw [hold, ← hnext]
  simp only [Server.Taken, hw, List.mem_append, or_and_right, exists_or]
  exact or_comm

/-- A request that takes nothing back goes on. -/
theorem Server.CallbacksOk.finish_other (h : v.CallbacksOk) (hp : v.inFlight[i]? = some p) (hother : p.2.taken = none)
    (l : List ClientSession) {b : Backend}
    (hkeeps : ∀ s cb, cb ∈ v.service.cbPool s → cb ∈ b.cbPool s)
    (hserved : ∀ k : SrvrClbk, p = (k.pid, .call (.register k.sessionId k.event k.addr)) → (k.event, k.addr) ∈ b.cbPool k.sessionId) :
    Server.CallbacksOk { v with sessions := l, inFlight := v.inFlight.eraseIdx i, service := b } := by
  refine h.finish_kept ⟨rfl, rfl, rfl⟩ (List.Sublist.refl _) (Server.kept_congr rfl ?_)
    (fun q hq => .inl (List.mem_of_mem_eraseIdx hq)) fun k hk => ?_
  · refine taken_next hp [] (List.append_nil _).symm fun k => ?_
    simp [hother]
  · rcases h.served k hk with hcb | hmem
    · exact Or.inl (hkeeps _ _ hcb)
    · exact ((mem_inFlight hp).1 hmem).imp (fun heq => hserved k heq.symm) id

/-- A request in flight other than the one that goes on. -/
theorem mem_next (hp : v.inFlight[i]? = some p) {q : Nat × Pending} (hq : q ∈ v.inFlight) (hne : q ≠ p)
    (next : List (Nat × Pending)) : q ∈ v.inFlight.eraseIdx i ++ next :=
  List.mem_append_left _ (((mem_inFlight hp).1 hq).resolve_left hne)

/-- The next step of a request that takes a callback back. -/
theorem Server.CallbacksOk.finish_next (h : v.CallbacksOk) {step next : Pending} {clbk : SrvrClbk}
    (hp : v.inFlight[i]? = some (pid, step)) (hstep : step.taken = some clbk) (hnext : next.taken = some clbk) {b : Backend}
    (hkeeps : ∀ k ∈ v.clbkDataList, k ≠ clbk → (k.event, k.addr) ∈ v.service.cbPool k.sessionId →
      (k.event, k.addr) ∈ b.cbPool k.sessionId) :
    Server.CallbacksOk { v with inFlight := v.inFlight.eraseIdx i ++ [(pid, next)], service := b } := by
  have hmem := List.mem_of_getElem? hp
  refine h.finish_kept ⟨rfl, rfl, rfl⟩ (List.Sublist.refl _) (Server.kept_congr rfl ?_) (fun q hq => ?_) fun k hk => ?_
  · refine taken_next hp [(pid, next)] rfl fun k => ?_
    simp [hstep, hnext]
  · refine (List.mem_append.1 hq).imp List.mem_of_mem_eraseIdx fun hq => ?_
    rw [List.mem_singleton.1 hq]
    refine ⟨fun c hc => ?_, fun k hk => ?_⟩
    · have hcall : next = .call c := hc
      rw [hcall] at hnext
      cases hnext
    · exact h.owned _ hmem k (hstep.trans (hnext.symm.trans hk))
  · obtain ⟨hlist, hnot⟩ := Server.mem_kept.1 hk
    refine (h.served k hk).imp (hkeeps k hlist ?_) fun hflight => mem_next hp hflight ?_ _
    · rintro rfl
      exact hnot ⟨_, hmem, hstep⟩
    · intro heq
      rw [← (Prod.mk.inj heq).2] at hstep
      cases hstep

/-- The session loses no callback but the one that is taken back. -/
theorem Server.CallbacksOk.mem_unregister (h : v.CallbacksOk) {clbk : SrvrClbk} (hclbk : clbk ∈ v.registered) {k : SrvrClbk}
    (hk : k ∈ v.clbkDataList) (hne : k ≠ clbk) (hcb : (k.event, k.addr) ∈ v.service.cbPool k.sessionId) :
    (k.event, k.addr) ∈
      (v.service.onCbs clbk.sessionId (List.filter fun cb => cb ≠ (clbk.event, clbk.addr))).cbPool k.sessionId := by
  show _ ∈ if k.sessionId = clbk.sessionId then _ else v.service.cbPool k.sessionId
  split
  · next hs =>
    rw [hs] at hcb
    refine List.mem_filter.2 ⟨hcb, decide_eq_true ?_⟩
    -- the address of a callback is its own
    intro heq
    exact hne (h.eq_of_addr (h.clbks k hk) hclbk (Prod.mk.inj heq).2)
  · exact hcb

/-- The last step of a deregistration: its callback is out of the list. -/
theorem Server.CallbacksOk.finish_removing (h : v.CallbacksOk) {clbk : SrvrClbk}
    (hp : v.inFlight[i]? = some (pid, .removing clbk)) :
    Server.CallbacksOk { v with inFlight := v.inFlight.eraseIdx i, clbkDataList := v.clbkDataList.erase clbk } := by
  refine h.finish_kept ⟨rfl, rfl, rfl⟩ List.erase_sublist ?_ (fun q hq => .inl (List.mem_of_mem_eraseIdx hq)) fun k hk => ?_
  · have hclbk : v.Taken clbk := ⟨_, List.mem_of_getElem? hp, rfl⟩
    set w : Server := { v with inFlight := v.inFlight.eraseIdx i, clbkDataList := v.clbkDataList.erase clbk }
    have hothers : ∀ k, k ≠ clbk → (w.Taken k ↔ v.Taken k) := by
      intro k hne
      simp [w, Server.Taken, mem_inFlight hp, or_and_right, exists_or, Pending.taken, hne.symm]
    show (v.clbkDataList.erase clbk).filter _ = _
    rw [h.nodup.erase_eq_filter, List.filter_filter]
    refine List.filter_congr fun k _ => ?_
    by_cases hk : k = clbk
    · simp [hk, hclbk]
    · simp [hk, hothers k hk]
  · refine (h.served k hk).imp_right fun hflight => ?_
    refine ((mem_inFlight hp).1 hflight).resolve_left fun heq => ?_
    cases (Prod.mk.inj heq).2

theorem Server.CallbacksOk.finish (h : v.CallbacksOk) (hp : v.inFlight[i]? = some p)
    (hf : Server.finish p.1 { v with inFlight := v.inFlight.eraseIdx i } p.2 = some w) : w.CallbacksOk := by
  obtain ⟨q, pending⟩ := p
  have hmem := List.mem_of_getElem? hp
  cases pending with
  | call c =>
    obtain ⟨r, hcall, rfl⟩ := Option.map_eq_some_iff.1 hf
    have hc : ∀ s event addr, c ≠ .unregister s event addr := by
      rintro s event addr rfl
      exact h.calls q s event addr hmem
    refine h.finish_other hp rfl v.sessions (fun s cb hcb => Backend.call_keeps_cbs hcall hc hcb) ?_
    intro k heq
    obtain ⟨-, heq⟩ := Prod.mk.inj heq
    obtain rfl := Pending.call.inj heq
    obtain ⟨-, hr⟩ := Prod.mk.inj (Option.some.inj hcall)
    rw [← hr]
    show _ ∈ if k.sessionId = k.sessionId then _ else _
    rw [if_pos rfl]
    exact List.mem_append_right _ (List.mem_singleton_self _)
  | «open» s mode =>
    obtain ⟨-, hf⟩ := Option.ite_none_left_eq_some.1 hf
    obtain ⟨r, hcall, rfl⟩ := Option.map_eq_some_iff.1 hf
    exact h.finish_other hp rfl _
      (fun s cb hcb => Backend.call_keeps_cbs hcall (fun _ _ _ heq => Call.noConfusion heq) hcb)
      fun k heq => Pending.noConfusion (Prod.mk.inj heq).2
  | deregister clbk =>
    obtain rfl := Option.some.inj hf
    exact h.finish_next hp rfl rfl fun k hk hne hcb => h.mem_unregister (h.owned _ hmem clbk rfl).2 hk hne hcb
  | listRemove clbk =>
    obtain rfl := Option.some.inj hf
    exact h.finish_next hp rfl rfl fun k hk hne hcb => hcb
  | removing clbk =>
    obtain rfl := Option.some.inj hf
    exact h.finish_removing hp

end

end

end Agm.Ipc
