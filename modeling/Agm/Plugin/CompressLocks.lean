import Agm.Lib.Locks
import Agm.Lib.Runs
import Agm.Lib.Slots

/-!
# The locks of the compress plugin and of its session

With the plugin and the service in one process, a drain calls the service with `eos_lock` or `early_eos_lock` held, and
the service calls the plugin back with the session lock and `cb_pool_lock` held.  Both orders are safe on their own; a
flush that meets a drain on its way into the service mixes them.

A thread is at a point between two operations on locks.  The pool lock, the graph lock, `drain_lock` and `poll_lock` are
left out: nothing is locked, and nobody waits, while one of them is held.  A wait for a condition can end at any time, so
the signals do not matter here.
-/

namespace Agm.Plugin

open Agm.Lib

/-- The session lock, and those of `struct session_obj` and `struct agm_compress_priv` that are taken under it. -/
inductive Mutex
  | session | cbPool | plugin | eos | earlyEos
  deriving DecidableEq, Repr

inductive EventType
  | dataPath | module
  deriving DecidableEq, Repr

/-- The events that `agm_compress_event_cb` tells apart. -/
inductive EventId
  | writeDone | readDone | eosRendered | earlyEos | other
  deriving DecidableEq, Repr

/-- What GSL calls back with: the event, and whether its source module is GSL itself. -/
structure GslEvent where
  fromGsl : Bool
  id : EventId
  deriving DecidableEq, Repr

/-- `struct session_cb`: what it was registered for, and whether it is `agm_compress_event_cb`. -/
structure SessionCb where
  evtType : EventType
  isCompress : Bool
  deriving DecidableEq, Repr

/-- The filter of `graph_event_cb`. -/
def SessionCb.takes (cb : SessionCb) (ev : GslEvent) : Bool :=
  match cb.evtType with
  | .dataPath => ev.fromGsl && (ev.id = .eosRendered || ev.id = .readDone || ev.id = .writeDone)
  | .module => ! ev.fromGsl

/-- A walk over `cb_pool`, of a flush or of the callback of GSL: the event, and the callbacks that are still to be
called. -/
structure CbWalk where
  flush : Bool
  event : EventId
  rest : List SessionCb
  deriving DecidableEq, Repr

/-- How far a thread has come. -/
inductive Point
  | drain | drainSession | drainGraph | drainSent (ret : Int) | drainWait | drainWoken | drainLeave
  | partialDrain | partialSession | partialGraph | partialSent (ret : Int) | partialWait | partialWoken | partialLeave
  | stop | stopEos | stopEarly | stopEarlyHeld | stopSession | stopGraph
  | flush | flushGraph | flushPool | flushLeave
  | event (ev : GslEvent)
  | walk (w : CbWalk) | cb (w : CbWalk) | cbHeld (w : CbWalk) | cbEos (w : CbWalk) | cbEosHeld (w : CbWalk)
  | cbEarly (w : CbWalk) | cbEarlyHeld (w : CbWalk) | cbLeave (w : CbWalk)
  | returned
  deriving DecidableEq, Repr

/-- The locks that a walk runs under. -/
def CbWalk.under (w : CbWalk) : List Mutex := if w.flush then [.cbPool, .session] else [.cbPool]

/-- The locks a thread holds. -/
def Point.holds : Point → List Mutex
  | .drainSession | .drainSent _ | .drainLeave | .stopEos => [.eos]
  | .drainGraph => [.session, .eos]
  | .partialSession | .partialSent _ | .partialLeave | .stopEarlyHeld => [.earlyEos]
  | .partialGraph => [.session, .earlyEos]
  | .stopGraph | .flushGraph | .flushPool | .flushLeave => [.session]
  | .walk w | .cb w => w.under
  | .cbHeld w | .cbEos w | .cbEarly w | .cbLeave w => .plugin :: w.under
  | .cbEosHeld w => .eos :: .plugin :: w.under
  | .cbEarlyHeld w => .earlyEos :: .plugin :: w.under
  | _ => []

/-- The lock a thread takes next. -/
def Point.wants : Point → Option Mutex
  | .drain | .drainWoken | .stop | .cbEos _ => some .eos
  | .partialDrain | .partialWoken | .stopEarly | .cbEarly _ => some .earlyEos
  | .drainSession | .partialSession | .stopSession | .flush => some .session
  | .flushPool | .event _ => some .cbPool
  | .cb _ => some .plugin
  | _ => none

/-- The flags of the plugin, the callbacks of the session, and the threads. -/
structure Process where
  eos : Bool := false
  eosReceived : Bool := false
  earlyEos : Bool := false
  cbPool : List SessionCb
  threads : List Point := []
  deriving DecidableEq, Repr

/-! ## Steps -/

/-- `agm_compress_drain` with `session_obj_eos`. -/
def nextDrain (ret : Int) (p : Process) : Point → Option (Point × Process)
  | .drain => if p.eosReceived then some (.drainLeave, p) else some (.drainSession, { p with eos := true })
  | .drainSession => some (.drainGraph, p)
  | .drainGraph => some (.drainSent ret, p)
  | .drainSent ret => some (if ret ≠ 0 then .returned else .drainWait, p)
  | .drainWoken => some (.drainLeave, p)
  | .drainLeave => some (.returned, { p with eosReceived := false })
  | _ => none

/-- `agm_compress_partial_drain` with `session_obj_eos`. -/
def nextPartialDrain (ret : Int) (p : Process) : Point → Option (Point × Process)
  | .partialDrain => some (.partialSession, { p with earlyEos := true })
  | .partialSession => some (.partialGraph, p)
  | .partialGraph => some (.partialSent ret, p)
  | .partialSent ret => some (if ret ≠ 0 then .returned else .partialWait, p)
  | .partialWoken => some (.partialLeave, p)
  | .partialLeave => some (.returned, p)
  | _ => none

/-- `agm_compress_stop` with `session_obj_stop`. -/
def nextStop (p : Process) : Point → Option (Point × Process)
  | .stop => some (.stopEos, { p with eos := false, eosReceived := true })
  | .stopEos => some (.stopEarly, p)
  | .stopEarly => some (.stopEarlyHeld, { p with earlyEos := false })
  | .stopEarlyHeld => some (.stopSession, p)
  | .stopSession => some (.stopGraph, p)
  | .stopGraph => some (.returned, p)
  | _ => none

/-- `session_obj_flush`; it goes on to the callbacks if `graph_flush` succeeds and there is memory. -/
def nextFlush (ret : Int) (p : Process) : Point → Option (Point × Process)
  | .flush => some (.flushGraph, p)
  | .flushGraph => some (if ret ≠ 0 then .flushLeave else .flushPool, p)
  | .flushPool => some (.walk ⟨true, .earlyEos, p.cbPool⟩, p)
  | .flushLeave => some (.returned, p)
  | _ => none

/-- `graph_event_cb`, the walk over `cb_pool`, and `agm_compress_event_cb`. -/
def nextCallback (p : Process) : Point → Option (Point × Process)
  | .event ev => some (.walk ⟨false, ev.id, p.cbPool.filter (·.takes ev)⟩, p)
  | .walk w =>
    match w.rest with
    | [] => some (if w.flush then .flushLeave else .returned, p)
    | cb :: rest => some (if cb.isCompress then .cb { w with rest := rest } else .walk { w with rest := rest }, p)
  | .cb w => some (.cbHeld w, p)
  | .cbHeld w =>
    match w.event with
    | .eosRendered => some (.cbEos w, p)
    | .earlyEos => some (.cbEarly w, p)
    | _ => some (.cbLeave w, p)
  | .cbEos w => some (.cbEosHeld w, if p.eos then { p with eos := false } else { p with eosReceived := true })
  | .cbEosHeld w => some (.cbLeave w, p)
  | .cbEarly w => some (.cbEarlyHeld w, { p with earlyEos := false })
  | .cbEarlyHeld w => some (.cbLeave w, p)
  | .cbLeave w => some (.walk w, p)
  | _ => none

/-- The next point of a thread; `ret` is what the graph answers. -/
def nextPoint (ret : Int) (p : Process) (pt : Point) : Option (Point × Process) :=
  match pt with
  | .drain | .drainSession | .drainGraph | .drainSent _ | .drainWoken | .drainLeave => nextDrain ret p pt
  | .partialDrain | .partialSession | .partialGraph | .partialSent _ | .partialWoken | .partialLeave =>
    nextPartialDrain ret p pt
  | .stop | .stopEos | .stopEarly | .stopEarlyHeld | .stopSession | .stopGraph => nextStop p pt
  | .flush | .flushGraph | .flushPool | .flushLeave => nextFlush ret p pt
  | .drainWait | .partialWait | .returned => none
  | _ => nextCallback p pt

/-- A lock that a thread wants is free. -/
def Process.grants (p : Process) (pt : Point) : Bool :=
  match pt.wants with
  | some l => p.threads.all fun pt' => ! pt'.holds.contains l
  | none => true

/-- What can happen: a thread begins, takes a step, or its wait for a condition ends. -/
inductive LockOp
  | callDrain | callPartialDrain | callStop | callFlush | callback (ev : GslEvent)
  | step (i : Nat) (ret : Int)
  | wake (i : Nat)
  deriving DecidableEq, Repr

def Process.start (p : Process) (pt : Point) : Process := { p with threads := p.threads ++ [pt] }

def Process.step (p : Process) (i : Nat) (ret : Int) : Option Process :=
  (p.threads[i]?).bind fun pt =>
    if p.grants pt then (nextPoint ret p pt).map fun q => { q.2 with threads := q.2.threads.set i q.1 } else none

def Process.wake (p : Process) (i : Nat) : Option Process :=
  match p.threads[i]? with
  | some .drainWait => some { p with threads := p.threads.set i .drainWoken }
  | some .partialWait => some { p with threads := p.threads.set i .partialWoken }
  | _ => none

/-- One step of the process. -/
def lockExec (op : LockOp) (p : Process) : Option (Unit × Process) :=
  (match op with
    | .callDrain => some (p.start .drain)
    | .callPartialDrain => some (p.start .partialDrain)
    | .callStop => some (p.start .stop)
    | .callFlush => some (p.start .flush)
    | .callback ev => some (p.start (.event ev))
    | .step i ret => p.step i ret
    | .wake i => p.wake i).map fun p => ((), p)

/-- A cycle of threads of which each waits for a lock of the next. -/
def Process.Deadlocked (p : Process) : Prop :=
  Deadlock (fun i l => ∃ pt, p.threads[i]? = some pt ∧ l ∈ pt.holds) (fun i : Nat => (p.threads[i]?).bind Point.wants)

/-! ## The two orders -/

/-- A flush that has the session lock, also while it is in a callback. -/
def Point.flushing : Point → Bool
  | .flushGraph | .flushPool | .flushLeave => true
  | .walk w | .cb w | .cbHeld w | .cbEos w | .cbEosHeld w | .cbEarly w | .cbEarlyHeld w | .cbLeave w => w.flush
  | _ => false

/-- A drain that has its lock and is on its way into the service. -/
def Point.entering : Point → Bool
  | .drainSession | .partialSession => true
  | _ => false

/-- A drain does not take its lock under a flush that has the session lock, and a flush does not take the session lock
while a drain is on its way to it. -/
def lockGuard (p : Process) : LockOp → Prop
  | .step i _ =>
    match p.threads[i]? with
    | some .flush => ∀ pt ∈ p.threads, pt.entering = false
    | some .drain => p.eosReceived = false → ∀ pt ∈ p.threads, pt.flushing = false
    | some .partialDrain => ∀ pt ∈ p.threads, pt.flushing = false
    | _ => True
  | _ => True

instance (p : Process) (op : LockOp) : Decidable (lockGuard p op) := by
  unfold lockGuard
  split
  · split <;> infer_instance
  · infer_instance

/-- Flushes and drains on their way into the service do not meet. -/
def Process.Apart (p : Process) : Prop :=
  (∀ pt ∈ p.threads, pt.flushing = false) ∨ ∀ pt ∈ p.threads, pt.entering = false

/-- Without flushes: the callback's locks, those of the drains, the session. -/
def Mutex.rankDrains : Mutex → Nat
  | .cbPool => 0
  | .plugin => 1
  | .eos | .earlyEos => 2
  | .session => 3

/-- Without drains on their way: the session, the callback's locks, those of the drains. -/
def Mutex.rankFlush : Mutex → Nat
  | .session => 0
  | .cbPool => 1
  | .plugin => 2
  | .eos | .earlyEos => 3

theorem CbWalk.mem_under {w : CbWalk} {l : Mutex} (h : l ∈ w.under) : l = .cbPool ∨ l = .session ∧ w.flush = true := by
  unfold CbWalk.under at h
  split at h
  · next hf =>
    rcases List.mem_cons.1 h with rfl | h
    · exact .inl rfl
    · exact .inr ⟨List.mem_singleton.1 h, hf⟩
  · exact .inl (List.mem_singleton.1 h)

theorem Point.rankDrains_lt {pt : Point} (hpt : pt.flushing = false) {l l' : Mutex} (hl : pt.wants = some l)
    (hl' : l' ∈ pt.holds) : l'.rankDrains < l.rankDrains := by
  cases pt <;> simp only [Point.wants, Option.some.injEq, reduceCtorEq] at hl <;> subst hl <;>
    simp only [Point.holds, List.mem_cons, List.not_mem_nil, or_false] at hl'
  case flushPool => cases hpt
  case drainSession | partialSession =>
    subst hl'
    decide
  case cb w =>
    rcases w.mem_under hl' with rfl | ⟨-, hf⟩
    · decide
    · exact absurd hf (Bool.eq_false_iff.1 hpt)
  case cbEos w | cbEarly w =>
    rcases hl' with rfl | hl'
    · decide
    · rcases w.mem_under hl' with rfl | ⟨-, hf⟩
      · decide
      · exact absurd hf (Bool.eq_false_iff.1 hpt)

theorem Point.rankFlush_lt {pt : Point} (hpt : pt.entering = false) {l l' : Mutex} (hl : pt.wants = some l)
    (hl' : l' ∈ pt.holds) : l'.rankFlush < l.rankFlush := by
  cases pt <;> simp only [Point.wants, Option.some.injEq, reduceCtorEq] at hl <;> subst hl <;>
    simp only [Point.holds, List.mem_cons, List.not_mem_nil, or_false] at hl'
  case drainSession | partialSession => cases hpt
  case flushPool =>
    subst hl'
    decide
  case cb w =>
    rcases w.mem_under hl' with rfl | ⟨rfl, -⟩ <;> decide
  case cbEos w | cbEarly w =>
    rcases hl' with rfl | hl'
    · decide
    · rcases w.mem_under hl' with rfl | ⟨rfl, -⟩ <;> decide

/-- A state in which flushes and drains are apart has an order that all threads keep to. -/
theorem Process.Apart.not_deadlocked {p : Process} (h : p.Apart) : ¬ p.Deadlocked := by
  rcases h with h | h
  · refine not_deadlock_of_rank Mutex.rankDrains fun i l l' hl hl' => ?_
    obtain ⟨pt, hpt, hwants⟩ := Option.bind_eq_some_iff.1 hl
    obtain ⟨pt', hpt', hholds⟩ := hl'
    rw [hpt] at hpt'
    cases hpt'
    exact Point.rankDrains_lt (h pt (List.mem_of_getElem? hpt)) hwants hholds
  · refine not_deadlock_of_rank Mutex.rankFlush fun i l l' hl hl' => ?_
    obtain ⟨pt, hpt, hwants⟩ := Option.bind_eq_some_iff.1 hl
    obtain ⟨pt', hpt', hholds⟩ := hl'
    rw [hpt] at hpt'
    cases hpt'
    exact Point.rankFlush_lt (h pt (List.mem_of_getElem? hpt)) hwants hholds

/-! ## Runs -/

/-- What the next point of a thread can be, as far as the two orders go. -/
theorem nextPoint_spec {ret : Int} {p p' : Process} {pt pt' : Point} (h : nextPoint ret p pt = some (pt', p')) :
    p'.threads = p.threads ∧ (pt'.flushing = true → pt.flushing = true ∨ pt = .flush ∧ pt' = .flushGraph) ∧
    (pt'.entering = true → (pt = .drain ∧ p.eosReceived = false ∨ pt = .partialDrain) ∧ pt'.flushing = false) := by
  cases pt <;> simp only [nextPoint, nextDrain, nextPartialDrain, nextStop, nextFlush, nextCallback] at h <;>
    grind [Point.flushing, Point.entering]

/-- One thread is at a new point. -/
theorem Process.Apart.set {p p' : Process} {i : Nat} {pt' : Point} (h : p.Apart)
    (hthreads : p'.threads = p.threads.set i pt')
    (hflush : pt'.flushing = true → (∃ pt ∈ p.threads, pt.flushing = true) ∨
      (∀ pt ∈ p.threads, pt.entering = false) ∧ pt'.entering = false)
    (henter : pt'.entering = true → (∀ pt ∈ p.threads, pt.flushing = false) ∧ pt'.flushing = false) : p'.Apart := by
  have hset : ∀ {f : Point → Bool}, (∀ pt ∈ p.threads, f pt = false) → f pt' = false →
      ∀ pt ∈ p'.threads, f pt = false := by
    intro f hold hnew pt hpt
    rw [hthreads] at hpt
    rcases eq_or_mem_of_mem_set hpt with rfl | hpt
    · exact hnew
    · exact hold pt hpt
  rcases h with h | h
  · cases hf : pt'.flushing with
    | false => exact .inl (hset h hf)
    | true =>
      rcases hflush hf with ⟨pt, hpt, hpf⟩ | ⟨hall, hpe⟩
      · rw [h pt hpt] at hpf
        cases hpf
      · exact .inr (hset hall hpe)
  · cases he : pt'.entering with
    | false => exact .inr (hset h he)
    | true =>
      obtain ⟨hall, hpf⟩ := henter he
      exact .inl (hset hall hpf)

theorem Process.Apart.start {p : Process} (h : p.Apart) {pt : Point} (hf : pt.flushing = false)
    (he : pt.entering = false) : (p.start pt).Apart := by
  have happend : ∀ {f : Point → Bool}, (∀ pt ∈ p.threads, f pt = false) → f pt = false →
      ∀ pt' ∈ (p.start pt).threads, f pt' = false := by
    intro f hold hnew pt' hpt'
    rcases List.mem_append.1 hpt' with hpt' | hpt'
    · exact hold pt' hpt'
    · rw [List.mem_singleton.1 hpt']
      exact hnew
  rcases h with h | h
  · exact .inl (happend h hf)
  · exact .inr (happend h he)

/-- The step lemma. -/
theorem Process.Apart.exec {p p' : Process} {op : LockOp} {r : Unit} (h : p.Apart) (hg : lockGuard p op)
    (he : lockExec op p = some (r, p')) : p'.Apart := by
  obtain ⟨q, he, hq⟩ := Option.map_eq_some_iff.1 he
  cases hq
  cases op with
  | callDrain | callPartialDrain | callStop | callFlush | callback =>
    rw [← Option.some.inj he]
    exact h.start rfl rfl
  | step i ret =>
    obtain ⟨pt, hpt, he⟩ := Option.bind_eq_some_iff.1 he
    split at he
    · obtain ⟨q, hnext, rfl⟩ := Option.map_eq_some_iff.1 he
      obtain ⟨hthreads, hflush, henter⟩ := nextPoint_spec hnext
      refine h.set (by rw [← hthreads]) (fun hf => ?_) (fun hent => ?_)
      · rcases hflush hf with hpf | ⟨rfl, hpt'⟩
        · exact .inl ⟨pt, List.mem_of_getElem? hpt, hpf⟩
        · simp only [lockGuard, hpt] at hg
          exact .inr ⟨hg, by rw [hpt']; rfl⟩
      · obtain ⟨⟨rfl, hflag⟩ | rfl, hpf⟩ := henter hent
        · simp only [lockGuard, hpt] at hg
          exact ⟨hg hflag, hpf⟩
        · simp only [lockGuard, hpt] at hg
          exact ⟨hg, hpf⟩
    · cases he
  | wake i =>
    simp only [Process.wake] at he
    split at he <;> cases he
    · exact h.set rfl (fun h => (nomatch h)) (fun h => (nomatch h))
    · exact h.set rfl (fun h => (nomatch h)) (fun h => (nomatch h))

/-- **No deadlock.**  In every run in which no flush has the session lock while a drain with its own lock is on its way
to it, no cycle of threads waits for each other's locks. -/
theorem compress_not_deadlocked {p t : Process} (h0 : p.threads = []) (h : Runs lockExec lockGuard p t) :
    ¬ t.Deadlocked := by
  have hapart : t.Apart := by
    refine h.invariant (.inl ?_) (fun _ _ _ _ hp hg he => hp.exec hg he)
    rw [h0]
    exact fun pt hpt => (nomatch hpt)
  exact hapart.not_deadlocked

/-- The two registrations of the plugin. -/
def compressCbs : List SessionCb := [⟨.dataPath, true⟩, ⟨.module, true⟩]

/-- A partial drain waits, and a flush comes to take `early_eos_lock` with all the other locks of the callback held. -/
theorem compress_not_deadlocked_flush : ∃ t, Runs lockExec lockGuard { cbPool := compressCbs } t ∧
    t.threads = [.partialWait, .cbEarly ⟨true, .earlyEos, [⟨.module, true⟩]⟩] ∧ ¬ t.Deadlocked := by
  obtain ⟨t, hr, ht⟩ := Runs.exists_of_execAll lockExec lockGuard
    [.callPartialDrain, .step 0 0, .step 0 0, .step 0 0, .step 0 0, .callFlush, .step 1 0, .step 1 0, .step 1 0, .step 1 0,
      .step 1 0, .step 1 0] { cbPool := compressCbs } Process.threads
    (b := [.partialWait, .cbEarly ⟨true, .earlyEos, [⟨.module, true⟩]⟩]) (by decide +kernel)
  exact ⟨t, hr, ht, compress_not_deadlocked rfl hr⟩

/-- A partial drain has taken `early_eos_lock` and goes for the session lock, which a flush has; the flush calls the
plugin back to unblock it, and waits for `early_eos_lock`. -/
theorem flush_deadlocks_partialDrain : ∃ t, Runs lockExec (fun _ _ => True) { cbPool := compressCbs } t ∧
    t.Deadlocked := by
  obtain ⟨t, hr, ht⟩ := Runs.exists_of_execAll lockExec (fun _ _ => True)
    [.callPartialDrain, .step 0 0, .callFlush, .step 1 0, .step 1 0, .step 1 0, .step 1 0, .step 1 0, .step 1 0]
    { cbPool := compressCbs } Process.threads
    (b := [.partialSession, .cbEarly ⟨true, .earlyEos, [⟨.module, true⟩]⟩]) (by decide +kernel)
  refine ⟨t, hr, 0, .tail (.single (b := 1) ⟨.session, ?_, ?_⟩) ⟨.earlyEos, ?_, ?_⟩⟩
  · rw [ht]
    rfl
  · rw [ht]
    exact ⟨_, rfl, by decide⟩
  · rw [ht]
    rfl
  · rw [ht]
    exact ⟨_, rfl, by decide⟩

end Agm.Plugin
