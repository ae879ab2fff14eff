import Agm.Lib.Runs
import Agm.Lib.Slots
import Agm.Service.Errno

/-!
# The compress plugin

The calls of clients and the callbacks of the service run at the same time, so the plugin is a system of steps.  A step
is a critical section, a call to the service, or a statement outside any lock that another thread can see; a thread that
holds a lock from one step to the next keeps out those that need it.  Where `lock` is held to change `bytes_avail` the
load and the store are steps of their own, since a stop writes to it without the lock.  The list of calls has a place for
every call that was ever made, with the point it has come to.

Besides the fields of `struct agm_compress_priv` the state has what the service and the DSP behind it do: the fragments
that are written and not done, the EOS markers that are issued and not rendered, and the callbacks that have left the
plugin's lock and have still to signal the poll.  The session is open, so its handle is not zero; nothing sets
`start_drain`, so `drain_cond` is never signalled.
-/

namespace Agm.Plugin

open Agm.Lib Agm.Service

/-! ## Threads -/

/-- An EOS that was issued: how many writes came before it, and whether it is of a partial drain. -/
structure Marker where
  after : Nat
  isPartial : Bool
  deriving DecidableEq, Repr

/-- What ends the wait of a drain, or makes it return at once. -/
inductive Cause
  | rendered (m : Marker) | stopped | spurious
  deriving DecidableEq, Repr

/-- How far a call has come.  A call that has returned stays where it returned.  `since` is the number of writes that
came before a drain. -/
inductive Pc
  | write (count : Nat) | writePrepare (count : Nat) | writeData (count : Nat)
  | wrote (size : Nat) | taking (size : Nat) (avail : Int) | taken (size : Nat) | writeNoSpace | writeRet (ret : Int)
  | stop | stopEarly | stopPoll | stopSession | stopReset | stopRet (ret : Int)
  | poll | pollWait | pollRet
  | drain | drainEos (since : Nat) | drainWait (since : Nat) | drainWoken (since : Nat) (cause : Cause)
  | drainRet (since : Nat) (cause : Cause) | drainErr (ret : Int)
  | partialDrain | partialEos | partialWait | partialWoken | partialRet (ret : Int)
  deriving DecidableEq, Repr

/-- How far the callback has come that has `lock` for an `AGM_EVENT_WRITE_DONE`: it has loaded `bytes_avail`, or stored
the sum. -/
inductive WriteDone
  | idle | loaded (avail : Int) | stored
  deriving DecidableEq, Repr

/-- `struct agm_compress_priv`, the calls, and what is behind the service. -/
structure Compress where
  /-- `buffer_config.size` -/
  frag : Nat
  /-- `total_buf_size` -/
  total : Nat
  prepared : Bool := false
  /-- an `int64_t` -/
  bytesAvail : Int
  bytesCopied : Nat := 0
  eos : Bool := false
  earlyEos : Bool := false
  eosReceived : Bool := false
  calls : List Pc := []
  writeDone : WriteDone := .idle
  /-- fragments written and not done -/
  inflight : Nat := 0
  /-- fragments that a stop has dropped, until it has reset the counter -/
  dropped : Nat := 0
  /-- callbacks that have still to signal the poll -/
  signalling : Nat := 0
  /-- writes the service has accepted -/
  writes : Nat := 0
  /-- EOS markers that are not rendered yet, the oldest first -/
  pending : List Marker := []
  /-- the most writes that came before a marker that is rendered -/
  rendered : Option Nat := none
  /-- the writes that came before the last stop -/
  lastStop : Option Nat := none
  /-- the markers that were rendered while no drain waited and no stop had set `eos_received`, since it was last
  cleared -/
  lateEos : List Marker := []
  deriving DecidableEq, Repr

/-- An `int64_t`. -/
def wrap64 (x : Int) : Int := Int.bmod x (2 ^ 64)

/-- `agm_compress_set_params`, on a plugin that was just opened. -/
def agmCompressSetParams (fragmentSize fragments : Nat) : Compress :=
  { frag := fragmentSize, total := fragmentSize * fragments, bytesAvail := wrap64 (fragmentSize * fragments : Nat) }

/-- The fragments that `size` bytes take. -/
def fragments (frag size : Nat) : Nat := if size % frag ≠ 0 then size / frag + 1 else size / frag

/-- What the world answers in a step: the code and the size a call to the service comes back with, and the place of the
thread that a signal wakes. -/
structure Answer where
  ret : Int := 0
  size : Nat := 0
  wake : Nat := 0
  deriving DecidableEq, Repr

/-- `pthread_cond_signal`: if threads wait, one of them goes on. -/
def signal (wakes : Pc → Option Pc) (i : Nat) (calls : List Pc) : Option (List Pc) :=
  if calls.any fun pc => (wakes pc).isSome then (calls[i]?).bind fun pc => (wakes pc).map (calls.set i) else some calls

/-- A thread that waits for `eos_cond`. -/
def wakeDrain (cause : Cause) : Pc → Option Pc
  | .drainWait since => some (.drainWoken since cause)
  | _ => none

/-- A thread that waits for `early_eos_cond`. -/
def wakePartial : Pc → Option Pc
  | .partialWait => some .partialWoken
  | _ => none

/-- A thread that waits for `poll_cond`. -/
def wakePoll : Pc → Option Pc
  | .pollWait => some .pollRet
  | _ => none

/-- The call holds `lock`. -/
def Pc.locks : Pc → Bool
  | .taking _ _ | .taken _ => true
  | _ => false

/-- `lock` is free. -/
def Compress.lockFree (c : Compress) : Bool := c.writeDone = .idle && ! c.calls.any Pc.locks

/-- `eos_lock` is free: no drain is between taking it and its wait. -/
def Compress.eosLockFree (c : Compress) : Bool := ! c.calls.any fun pc => match pc with | .drainEos _ => true | _ => false

/-- `early_eos_lock` is free. -/
def Compress.earlyEosLockFree (c : Compress) : Bool := ! c.calls.any fun pc => pc = .partialEos

/-! ## Signals -/

/-- A signal changes nothing that the thread it wakes shows. -/
theorem map_signal {β : Type} {f : Pc → β} {wakes : Pc → Option Pc} (hf : ∀ pc pc', wakes pc = some pc' → f pc' = f pc)
    {i : Nat} {calls calls' : List Pc} (h : signal wakes i calls = some calls') : calls'.map f = calls.map f := by
  unfold signal at h
  split at h
  · obtain ⟨pc, hpc, h⟩ := Option.bind_eq_some_iff.1 h
    obtain ⟨pc', hw, rfl⟩ := Option.map_eq_some_iff.1 h
    exact map_set_of_eq hpc (hf pc pc' hw)
  · rw [Option.some.inj h]

/-- A signal wakes at most one thread and leaves the others where they are. -/
theorem mem_signal {wakes : Pc → Option Pc} {i : Nat} {calls calls' : List Pc} (h : signal wakes i calls = some calls')
    {pc : Pc} (hpc : pc ∈ calls') : pc ∈ calls ∨ ∃ pc0 ∈ calls, wakes pc0 = some pc := by
  unfold signal at h
  split at h
  · obtain ⟨pc0, hpc0, h⟩ := Option.bind_eq_some_iff.1 h
    obtain ⟨pc', hw, rfl⟩ := Option.map_eq_some_iff.1 h
    rcases eq_or_mem_of_mem_set hpc with rfl | hpc
    · exact .inr ⟨pc0, List.mem_of_getElem? hpc0, hw⟩
    · exact .inl hpc
  · rw [← Option.some.inj h] at hpc
    exact .inl hpc

theorem sum_map_signal_le {wakes : Pc → Option Pc} (f : Pc → Nat) (hf : ∀ pc pc', wakes pc = some pc' → f pc' ≤ f pc)
    {i : Nat} {calls calls' : List Pc} (h : signal wakes i calls = some calls') :
    (calls'.map f).sum ≤ (calls.map f).sum := by
  unfold signal at h
  split at h
  · obtain ⟨pc, hpc, h⟩ := Option.bind_eq_some_iff.1 h
    obtain ⟨pc', hw, rfl⟩ := Option.map_eq_some_iff.1 h
    have hsum := sum_map_set f pc' hpc
    have hle := hf pc pc' hw
    omega
  · rw [Option.some.inj h]

/-- If one thread at most counts, and those that a signal wakes do, none of them waits after the signal. -/
theorem signal_eq_zero {wakes : Pc → Option Pc} (f : Pc → Nat)
    (hf : ∀ pc pc', wakes pc = some pc' → f pc = 1 ∧ f pc' = 0) {i : Nat} {calls calls' : List Pc}
    (hone : (calls.map f).sum ≤ 1) (h : signal wakes i calls = some calls') {pc pc' : Pc} (hw : wakes pc = some pc') :
    pc ∉ calls' := by
  intro hmem
  unfold signal at h
  split at h
  · obtain ⟨pc0, hpc0, h⟩ := Option.bind_eq_some_iff.1 h
    obtain ⟨pc0', hw0, rfl⟩ := Option.map_eq_some_iff.1 h
    have hsum := sum_map_set f pc0' hpc0
    rw [(hf _ _ hw0).1, (hf _ _ hw0).2] at hsum
    have hle : f pc ≤ ((calls.set i pc0').map f).sum :=
      List.single_le_sum (fun _ _ => Nat.zero_le _) _ (List.mem_map_of_mem hmem)
    rw [(hf _ _ hw).1] at hle
    omega
  · next hany =>
    rw [← Option.some.inj h] at hmem
    refine hany (List.any_eq_true.2 ⟨pc, hmem, ?_⟩)
    rw [hw]
    rfl

/-! ## The steps of a call -/

/-- `agm_compress_write`. -/
def stepWrite (ans : Answer) (c : Compress) : Pc → Option (Pc × Compress)
  | .write count =>
    let c := { c with eosReceived := false, lateEos := [] }
    if count > c.total then some (.writeRet (-EINVAL), c)
    else if c.prepared then some (.writeData count, c) else some (.writePrepare count, c)
  | .writePrepare count =>
    if ans.ret ≠ 0 then some (.writeRet ans.ret, c) else some (.writeData count, { c with prepared := true })
  | .writeData count =>
    if ans.ret ≠ 0 then some (.writeRet ans.ret, c)
    -- the service takes at most what it is given, and at most the space it has
    else if ans.size ≤ count ∧ ans.size + c.frag * c.inflight ≤ c.total then
      some (.wrote ans.size, { c with inflight := c.inflight + fragments c.frag ans.size, writes := c.writes + 1 })
    else none
  | .wrote size => if c.lockFree then some (.taking size c.bytesAvail, c) else none
  | .taking size avail =>
    some (.taken size, { c with bytesAvail := wrap64 (avail - (fragments c.frag size * c.frag : Nat)) })
  | .taken size =>
    if c.bytesAvail < 0 then some (.writeNoSpace, c)
    else some (.writeRet size, { c with bytesCopied := c.bytesCopied + size })
  | _ => none

/-- `agm_compress_stop`. -/
def stepStop (ans : Answer) (c : Compress) : Pc → Option (Pc × Compress)
  | .stop =>
    if c.eosLockFree then
      (if c.eos then signal (wakeDrain .stopped) ans.wake c.calls else some c.calls).map fun calls =>
        (.stopEarly, { c with calls := calls, eos := false, eosReceived := true, lateEos := [],
                              lastStop := some c.writes })
    else none
  | .stopEarly =>
    if c.earlyEosLockFree then
      (if c.earlyEos then signal wakePartial ans.wake c.calls else some c.calls).map fun calls =>
        (.stopPoll, { c with calls := calls, earlyEos := false })
    else none
  | .stopPoll => (signal wakePoll ans.wake c.calls).map fun calls => (.stopSession, { c with calls := calls })
  | .stopSession =>
    if ans.ret ≠ 0 then some (.stopRet ans.ret, c)
    -- no fragment written before is reported done after this
    else some (.stopReset, { c with dropped := c.dropped + c.inflight, inflight := 0 })
  | .stopReset => some (.stopRet 0, { c with bytesAvail := wrap64 c.total, bytesCopied := 0, dropped := 0 })
  | _ => none

/-- `agm_compress_poll` with an infinite timeout. -/
def stepPoll (c : Compress) : Pc → Option (Pc × Compress)
  | .poll => some (.pollWait, c)
  | _ => none

/-- `agm_compress_drain`. -/
def stepDrain (ans : Answer) (c : Compress) : Pc → Option (Pc × Compress)
  | .drain =>
    if c.eosLockFree then
      if c.eosReceived then
        some (.drainRet c.writes (match c.lateEos with | m :: _ => .rendered m | [] => .stopped),
          { c with eosReceived := false, lateEos := [] })
      else some (.drainEos c.writes, { c with eos := true })
    else none
  | .drainEos since =>
    if ans.ret ≠ 0 then some (.drainErr ans.ret, c)
    else some (.drainWait since, { c with pending := c.pending ++ [⟨c.writes, false⟩] })
  | .drainWoken since cause =>
    if c.eosLockFree then some (.drainRet since cause, { c with eosReceived := false, lateEos := [] }) else none
  | _ => none

/-- `agm_compress_partial_drain`. -/
def stepPartialDrain (ans : Answer) (c : Compress) : Pc → Option (Pc × Compress)
  | .partialDrain => if c.earlyEosLockFree then some (.partialEos, { c with earlyEos := true }) else none
  | .partialEos =>
    if ans.ret ≠ 0 then some (.partialRet ans.ret, c)
    else some (.partialWait, { c with pending := c.pending ++ [⟨c.writes, true⟩] })
  | .partialWoken => if c.earlyEosLockFree then some (.partialRet 0, c) else none
  | _ => none

/-- The next step of a call. -/
def stepCall (ans : Answer) (c : Compress) (pc : Pc) : Option (Pc × Compress) :=
  match pc with
  | .write _ | .writePrepare _ | .writeData _ | .wrote _ | .taking _ _ | .taken _ => stepWrite ans c pc
  | .stop | .stopEarly | .stopPoll | .stopSession | .stopReset => stepStop ans c pc
  | .poll => stepPoll c pc
  | .drain | .drainEos _ | .drainWoken _ _ => stepDrain ans c pc
  | .partialDrain | .partialEos | .partialWoken => stepPartialDrain ans c pc
  | _ => none

/-! ## The callback -/

/-- `agm_compress_event_cb` for `AGM_EVENT_WRITE_DONE`: it takes the lock and loads the counter. -/
def eventWriteDone (c : Compress) : Option Compress :=
  if c.inflight ≠ 0 ∧ c.lockFree then some { c with inflight := c.inflight - 1, writeDone := .loaded c.bytesAvail }
  else none

/-- It stores the sum, and then looks at the counter again and drops the lock.  The comparison is of unsigned numbers, and
a counter beyond the buffer leaves without the signal. -/
def eventWriteDoneNext (c : Compress) : Option Compress :=
  match c.writeDone with
  | .idle => none
  | .loaded avail => some { c with bytesAvail := wrap64 (avail + c.frag), writeDone := .stored }
  | .stored =>
    if c.bytesAvail % 2 ^ 64 > c.total then some { c with writeDone := .idle }
    else some { c with writeDone := .idle, signalling := c.signalling + 1 }

/-- The same for `AGM_EVENT_EOS_RENDERED`, up to the end of its lock; the markers are rendered in order. -/
def eventEosRendered (wake : Nat) (c : Compress) : Option Compress :=
  match c.pending with
  | [] => none
  | m :: pending =>
    if c.lockFree ∧ c.eosLockFree then
      let c := { c with pending := pending, rendered := some (max m.after (c.rendered.getD 0)),
                        signalling := c.signalling + 1 }
      if c.eos then (signal (wakeDrain (.rendered m)) wake c.calls).map fun calls =>
        { c with calls := calls, eos := false }
      else some { c with eosReceived := true,
                         lateEos := if c.eosReceived ∧ c.lateEos = [] then [] else c.lateEos ++ [m] }
    else none

/-- The same for `AGM_EVENT_EARLY_EOS`. -/
def eventEarlyEos (wake : Nat) (c : Compress) : Option Compress :=
  if c.lockFree ∧ c.earlyEosLockFree then
    let c := { c with signalling := c.signalling + 1 }
    if c.earlyEos then (signal wakePartial wake c.calls).map fun calls => { c with calls := calls, earlyEos := false }
    else some c
  else none

/-- The end of the callback: the poll is signalled. -/
def eventSignalPoll (wake : Nat) (c : Compress) : Option Compress :=
  if c.signalling = 0 then none
  else (signal wakePoll wake c.calls).map fun calls => { c with calls := calls, signalling := c.signalling - 1 }

/-- A wait that ends though nobody has signalled. -/
def wakeSpurious : Pc → Option Pc
  | .drainWait since => some (.drainWoken since .spurious)
  | .partialWait => some .partialWoken
  | .pollWait => some .pollRet
  | _ => none

/-! ## The system -/

/-- What can happen: a call is made, a call takes its next step, the service calls back, a wait ends for no reason. -/
inductive CompressOp
  | callWrite (count : Nat) | callStop | callPoll | callDrain | callPartialDrain
  | step (i : Nat) (ans : Answer)
  | writeDone | writeDoneNext | eosRendered (wake : Nat) | earlyEos (wake : Nat) | signalPoll (wake : Nat)
  | spurious (i : Nat)
  deriving DecidableEq, Repr

def Compress.enter (c : Compress) (pc : Pc) : Compress := { c with calls := c.calls ++ [pc] }

def Compress.step (c : Compress) (i : Nat) (ans : Answer) : Option Compress :=
  (c.calls[i]?).bind fun pc => (stepCall ans c pc).map fun p => { p.2 with calls := p.2.calls.set i p.1 }

/-- One step of the system. -/
def compressExec (op : CompressOp) (c : Compress) : Option (Unit × Compress) :=
  (match op with
    | .callWrite count => some (c.enter (.write count))
    | .callStop => some (c.enter .stop)
    | .callPoll => some (c.enter .poll)
    | .callDrain => some (c.enter .drain)
    | .callPartialDrain => some (c.enter .partialDrain)
    | .step i ans => c.step i ans
    | .writeDone => eventWriteDone c
    | .writeDoneNext => eventWriteDoneNext c
    | .eosRendered wake => eventEosRendered wake c
    | .earlyEos wake => eventEarlyEos wake c
    | .signalPoll wake => eventSignalPoll wake c
    | .spurious i => (c.calls[i]?).bind fun pc => (wakeSpurious pc).map fun pc' =>
        { c with calls := c.calls.set i pc' }).map fun c => ((), c)

end Agm.Plugin
