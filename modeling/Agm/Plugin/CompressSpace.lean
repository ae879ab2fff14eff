import Agm.Lib.Slots
import Agm.Plugin.Compress

/-!
# The space of the compress buffer

`bytes_avail` is taken from by the writes, after the service has accepted the data, given back to by the callbacks, and
reset by a stop, outside the lock under which the others load it and store it.  It is right whenever no write is between
the service and its store, as long as no write meets a stop that is between its own last two steps, and no callback is
between its load and its store when the stop resets the counter.
-/

namespace Agm.Plugin

open Agm.Lib Agm.Service

/-! ## What a call has to do with the space -/

/-- What a call still has to do to the counter. -/
inductive Share
  | owes (n : Nat) | takes (n : Nat) (avail : Int) | checks | resets | refused | none
  deriving DecidableEq, Repr

def Pc.share (frag : Nat) : Pc → Share
  | .wrote size => .owes (fragments frag size)
  | .taking size avail => .takes (fragments frag size) avail
  | .taken _ => .checks
  | .stopReset => .resets
  | .writeNoSpace => .refused
  | _ => .none

def Share.owed : Share → Nat
  | .owes n | .takes n _ => n
  | _ => 0

/-- Whether the call holds the lock. -/
def Share.held : Share → Nat
  | .takes _ _ | .checks => 1
  | _ => 0

def WriteDone.held : WriteDone → Nat
  | .idle => 0
  | _ => 1

def Compress.shares (c : Compress) : List Share := c.calls.map (Pc.share c.frag)

/-- The fragments that were written and are not subtracted yet. -/
def Compress.owed (c : Compress) : Nat := (c.shares.map Share.owed).sum

/-- How many have the lock. -/
def Compress.held (c : Compress) : Nat := (c.shares.map Share.held).sum + c.writeDone.held

/-- The fragments that a callback is about to add, between its load and its store. -/
def WriteDone.adding : WriteDone → Nat
  | .loaded _ => 1
  | _ => 0

/-- The fragments that are written and not done: the service still has them, a stop has dropped them and not yet reset the
counter, or a callback is about to add them to it. -/
def Compress.notDone (c : Compress) : Nat := c.inflight + c.dropped + c.writeDone.adding

/-- Nothing changes for the space. -/
structure Compress.SameSpace (c c' : Compress) : Prop where
  frag : c'.frag = c.frag
  total : c'.total = c.total
  avail : c'.bytesAvail = c.bytesAvail
  inflight : c'.inflight = c.inflight
  dropped : c'.dropped = c.dropped
  writeDone : c'.writeDone = c.writeDone
  shares : c'.shares = c.shares

theorem share_wakeDrain {frag : Nat} {cause : Cause} (pc pc' : Pc) (h : wakeDrain cause pc = some pc') :
    pc'.share frag = pc.share frag := by
  cases pc <;> simp [wakeDrain] at h
  subst h
  rfl

theorem share_wakePartial {frag : Nat} (pc pc' : Pc) (h : wakePartial pc = some pc') : pc'.share frag = pc.share frag := by
  cases pc <;> simp [wakePartial] at h
  subst h
  rfl

theorem share_wakePoll {frag : Nat} (pc pc' : Pc) (h : wakePoll pc = some pc') : pc'.share frag = pc.share frag := by
  cases pc <;> simp [wakePoll] at h
  subst h
  rfl

theorem share_wakeSpurious {frag : Nat} (pc pc' : Pc) (h : wakeSpurious pc = some pc') :
    pc'.share frag = pc.share frag := by
  cases pc <;> simp [wakeSpurious] at h <;> subst h <;> rfl

/-- A call moves on without touching the space, and perhaps wakes others. -/
theorem sameSpace_set {c c' : Compress} {i : Nat} {pc pc' : Pc} (hpc : c.calls[i]? = some pc)
    (hfrag : c'.frag = c.frag) (htotal : c'.total = c.total) (havail : c'.bytesAvail = c.bytesAvail)
    (hin : c'.inflight = c.inflight) (hdrop : c'.dropped = c.dropped) (hdone : c'.writeDone = c.writeDone)
    (hcalls : c'.calls.map (Pc.share c.frag) = c.calls.map (Pc.share c.frag))
    (hshare : pc'.share c.frag = pc.share c.frag) : c.SameSpace { c' with calls := c'.calls.set i pc' } := by
  refine ⟨hfrag, htotal, havail, hin, hdrop, hdone, ?_⟩
  show (c'.calls.set i pc').map (Pc.share c'.frag) = c.calls.map (Pc.share c.frag)
  rw [hfrag, List.map_set, hcalls, ← List.map_set]
  exact map_set_of_eq hpc hshare

/-! ## What a step does to the space -/

/-- Everything a step can do to the space. -/
inductive Compress.SpaceMove (c c' : Compress) : CompressOp → Prop
  | same {op : CompressOp} (h : c.SameSpace c') : c.SpaceMove c' op
  | enter {op : CompressOp} {pc : Pc} (hpc : pc.share c.frag = .none) (h : c' = c.enter pc) : c.SpaceMove c' op
  | data {i : Nat} {ans : Answer} {count : Nat} (hpc : c.calls[i]? = some (.writeData count)) (hret : ans.ret = 0)
      (hfit : ans.size + c.frag * c.inflight ≤ c.total)
      (h : c' = { c with inflight := c.inflight + fragments c.frag ans.size, writes := c.writes + 1,
                         calls := c.calls.set i (.wrote ans.size) }) : c.SpaceMove c' (.step i ans)
  | loads {i : Nat} {ans : Answer} {size : Nat} (hpc : c.calls[i]? = some (.wrote size)) (hfree : c.lockFree = true)
      (h : c' = { c with calls := c.calls.set i (.taking size c.bytesAvail) }) : c.SpaceMove c' (.step i ans)
  | take {i : Nat} {ans : Answer} {size : Nat} {avail : Int} (hpc : c.calls[i]? = some (.taking size avail))
      (h : c' = { c with bytesAvail := wrap64 (avail - (fragments c.frag size * c.frag : Nat)),
                         calls := c.calls.set i (.taken size) }) : c.SpaceMove c' (.step i ans)
  | checks {i : Nat} {ans : Answer} {size : Nat} (copied : Nat) (hpc : c.calls[i]? = some (.taken size))
      (h : c' = { c with bytesCopied := copied,
                         calls := c.calls.set i (if c.bytesAvail < 0 then .writeNoSpace else .writeRet size) }) :
      c.SpaceMove c' (.step i ans)
  | halt {i : Nat} {ans : Answer} (hpc : c.calls[i]? = some .stopSession)
      (h : c' = { c with dropped := c.dropped + c.inflight, inflight := 0, calls := c.calls.set i .stopReset }) :
      c.SpaceMove c' (.step i ans)
  | reset {i : Nat} {ans : Answer} (hpc : c.calls[i]? = some .stopReset)
      (h : c' = { c with bytesAvail := wrap64 c.total, bytesCopied := 0, dropped := 0,
                         calls := c.calls.set i (.stopRet 0) }) : c.SpaceMove c' (.step i ans)
  | done (hin : c.inflight ≠ 0) (hfree : c.lockFree = true)
      (h : c' = { c with inflight := c.inflight - 1, writeDone := .loaded c.bytesAvail }) : c.SpaceMove c' .writeDone
  | adds {avail : Int} (hdone : c.writeDone = .loaded avail)
      (h : c' = { c with bytesAvail := wrap64 (avail + c.frag), writeDone := .stored }) : c.SpaceMove c' .writeDoneNext
  | leaves {n : Nat} (hdone : c.writeDone = .stored) (h : c' = { c with writeDone := .idle, signalling := n }) :
      c.SpaceMove c' .writeDoneNext

theorem spaceMove_stepWrite {c c1 : Compress} {i : Nat} {ans : Answer} {pc pc' : Pc} (hpc : c.calls[i]? = some pc)
    (h : stepWrite ans c pc = some (pc', c1)) : c.SpaceMove { c1 with calls := c1.calls.set i pc' } (.step i ans) := by
  cases pc with
  | write count =>
    simp only [stepWrite] at h
    split at h
    · cases h
      exact .same (sameSpace_set hpc rfl rfl rfl rfl rfl rfl rfl rfl)
    · split at h <;> cases h
      · exact .same (sameSpace_set hpc rfl rfl rfl rfl rfl rfl rfl rfl)
      · exact .same (sameSpace_set hpc rfl rfl rfl rfl rfl rfl rfl rfl)
  | writePrepare count =>
    simp only [stepWrite] at h
    split at h <;> cases h
    · exact .same (sameSpace_set hpc rfl rfl rfl rfl rfl rfl rfl rfl)
    · exact .same (sameSpace_set hpc rfl rfl rfl rfl rfl rfl rfl rfl)
  | writeData count =>
    simp only [stepWrite] at h
    split at h
    · cases h
      exact .same (sameSpace_set hpc rfl rfl rfl rfl rfl rfl rfl rfl)
    · split at h
      · cases h
        exact .data hpc (not_not.1 ‹_›) (And.right ‹_›) rfl
      · cases h
  | wrote size =>
    simp only [stepWrite] at h
    split at h
    · next hfree =>
      cases h
      exact .loads hpc hfree rfl
    · cases h
  | taking size avail =>
    simp only [stepWrite, Option.some.injEq, Prod.mk.injEq] at h
    obtain ⟨rfl, rfl⟩ := h
    exact .take hpc (by dsimp only)
  | taken size =>
    simp only [stepWrite] at h
    split at h
    · next hneg =>
      cases h
      refine .checks c.bytesCopied hpc ?_
      rw [if_pos hneg]
    · next hneg =>
      cases h
      refine .checks (c.bytesCopied + size) hpc ?_
      rw [if_neg hneg]
  | _ => cases h

theorem spaceMove_stepStop {c c1 : Compress} {i : Nat} {ans : Answer} {pc pc' : Pc} (hpc : c.calls[i]? = some pc)
    (h : stepStop ans c pc = some (pc', c1)) : c.SpaceMove { c1 with calls := c1.calls.set i pc' } (.step i ans) := by
  cases pc with
  | stop =>
    simp only [stepStop] at h
    split at h
    · obtain ⟨calls, hs, h⟩ := Option.map_eq_some_iff.1 h
      cases h
      refine .same (sameSpace_set hpc rfl rfl rfl rfl rfl rfl ?_ rfl)
      split at hs
      · exact map_signal share_wakeDrain hs
      · rw [Option.some.inj hs]
    · cases h
  | stopEarly =>
    simp only [stepStop] at h
    split at h
    · obtain ⟨calls, hs, h⟩ := Option.map_eq_some_iff.1 h
      cases h
      refine .same (sameSpace_set hpc rfl rfl rfl rfl rfl rfl ?_ rfl)
      split at hs
      · exact map_signal share_wakePartial hs
      · rw [Option.some.inj hs]
    · cases h
  | stopPoll =>
    obtain ⟨calls, hs, h⟩ := Option.map_eq_some_iff.1 h
    cases h
    exact .same (sameSpace_set hpc rfl rfl rfl rfl rfl rfl (map_signal share_wakePoll hs) rfl)
  | stopSession =>
    simp only [stepStop] at h
    split at h <;> cases h
    · exact .same (sameSpace_set hpc rfl rfl rfl rfl rfl rfl rfl rfl)
    · exact .halt hpc rfl
  | stopReset =>
    simp only [stepStop, Option.some.injEq, Prod.mk.injEq] at h
    obtain ⟨rfl, rfl⟩ := h
    exact .reset hpc (by dsimp only)
  | _ => cases h

theorem spaceMove_stepDrain {c c1 : Compress} {i : Nat} {ans : Answer} {pc pc' : Pc} (hpc : c.calls[i]? = some pc)
    (h : stepDrain ans c pc = some (pc', c1)) : c.SpaceMove { c1 with calls := c1.calls.set i pc' } (.step i ans) := by
  cases pc with
  | drain =>
    simp only [stepDrain] at h
    split at h
    · split at h <;> cases h
      · exact .same (sameSpace_set hpc rfl rfl rfl rfl rfl rfl rfl rfl)
      · exact .same (sameSpace_set hpc rfl rfl rfl rfl rfl rfl rfl rfl)
    · cases h
  | drainEos since =>
    simp only [stepDrain] at h
    split at h <;> cases h
    · exact .same (sameSpace_set hpc rfl rfl rfl rfl rfl rfl rfl rfl)
    · exact .same (sameSpace_set hpc rfl rfl rfl rfl rfl rfl rfl rfl)
  | drainWoken since cause =>
    simp only [stepDrain] at h
    split at h <;> cases h
    exact .same (sameSpace_set hpc rfl rfl rfl rfl rfl rfl rfl rfl)
  | _ => cases h

theorem spaceMove_stepPartialDrain {c c1 : Compress} {i : Nat} {ans : Answer} {pc pc' : Pc}
    (hpc : c.calls[i]? = some pc) (h : stepPartialDrain ans c pc = some (pc', c1)) :
    c.SpaceMove { c1 with calls := c1.calls.set i pc' } (.step i ans) := by
  cases pc with
  | partialDrain =>
    simp only [stepPartialDrain] at h
    split at h <;> cases h
    exact .same (sameSpace_set hpc rfl rfl rfl rfl rfl rfl rfl rfl)
  | partialEos =>
    simp only [stepPartialDrain] at h
    split at h <;> cases h
    · exact .same (sameSpace_set hpc rfl rfl rfl rfl rfl rfl rfl rfl)
    · exact .same (sameSpace_set hpc rfl rfl rfl rfl rfl rfl rfl rfl)
  | partialWoken =>
    simp only [stepPartialDrain] at h
    split at h <;> cases h
    exact .same (sameSpace_set hpc rfl rfl rfl rfl rfl rfl rfl rfl)
  | _ => cases h

theorem spaceMove_stepCall {c c1 : Compress} {i : Nat} {ans : Answer} {pc pc' : Pc} (hpc : c.calls[i]? = some pc)
    (h : stepCall ans c pc = some (pc', c1)) : c.SpaceMove { c1 with calls := c1.calls.set i pc' } (.step i ans) := by
  cases pc with
  | write | writePrepare | writeData | wrote | taking | taken => exact spaceMove_stepWrite hpc h
  | stop | stopEarly | stopPoll | stopSession | stopReset => exact spaceMove_stepStop hpc h
  | poll =>
    cases h
    exact .same (sameSpace_set hpc rfl rfl rfl rfl rfl rfl rfl rfl)
  | drain | drainEos | drainWoken => exact spaceMove_stepDrain hpc h
  | partialDrain | partialEos | partialWoken => exact spaceMove_stepPartialDrain hpc h
  | _ => cases h

/-- The calls that a callback wakes are all it changes of the space. -/
theorem sameSpace_calls {c : Compress} {calls : List Pc}
    (h : calls.map (Pc.share c.frag) = c.calls.map (Pc.share c.frag)) {c' : Compress} (hfrag : c'.frag = c.frag)
    (htotal : c'.total = c.total) (havail : c'.bytesAvail = c.bytesAvail) (hin : c'.inflight = c.inflight)
    (hdrop : c'.dropped = c.dropped) (hdone : c'.writeDone = c.writeDone) (hcalls : c'.calls = calls) :
    c.SameSpace c' := by
  refine ⟨hfrag, htotal, havail, hin, hdrop, hdone, ?_⟩
  rw [Compress.shares, hfrag, hcalls]
  exact h

theorem spaceMove_eosRendered {c c' : Compress} {wake : Nat} (h : eventEosRendered wake c = some c') :
    c.SpaceMove c' (.eosRendered wake) := by
  unfold eventEosRendered at h
  split at h
  · cases h
  · split at h
    · simp only at h
      split at h
      · obtain ⟨calls, hs, rfl⟩ := Option.map_eq_some_iff.1 h
        exact .same (sameSpace_calls (map_signal share_wakeDrain hs) rfl rfl rfl rfl rfl rfl rfl)
      · rw [← Option.some.inj h]
        exact .same (sameSpace_calls rfl rfl rfl rfl rfl rfl rfl rfl)
    · cases h

theorem spaceMove_earlyEos {c c' : Compress} {wake : Nat} (h : eventEarlyEos wake c = some c') :
    c.SpaceMove c' (.earlyEos wake) := by
  unfold eventEarlyEos at h
  split at h
  · simp only at h
    split at h
    · obtain ⟨calls, hs, rfl⟩ := Option.map_eq_some_iff.1 h
      exact .same (sameSpace_calls (map_signal share_wakePartial hs) rfl rfl rfl rfl rfl rfl rfl)
    · rw [← Option.some.inj h]
      exact .same (sameSpace_calls rfl rfl rfl rfl rfl rfl rfl rfl)
  · cases h

theorem spaceMove_writeDone {c c' : Compress} (h : eventWriteDone c = some c') : c.SpaceMove c' .writeDone := by
  unfold eventWriteDone at h
  split at h
  · next hcan => exact .done hcan.1 hcan.2 (Option.some.inj h).symm
  · cases h

theorem spaceMove_writeDoneNext {c c' : Compress} (h : eventWriteDoneNext c = some c') : c.SpaceMove c' .writeDoneNext := by
  unfold eventWriteDoneNext at h
  split at h
  · cases h
  · next hdone => exact .adds hdone (Option.some.inj h).symm
  · next hdone =>
    split at h
    · exact .leaves (n := c.signalling) hdone (Option.some.inj h).symm
    · exact .leaves (n := c.signalling + 1) hdone (Option.some.inj h).symm

/-- The step lemma: whatever happens, the space changes as `SpaceMove` says. -/
theorem spaceMove_of_exec {c c' : Compress} {op : CompressOp} {r : Unit} (h : compressExec op c = some (r, c')) :
    c.SpaceMove c' op := by
  obtain ⟨c1, h, hc⟩ := Option.map_eq_some_iff.1 h
  cases hc
  cases op with
  | callWrite | callStop | callPoll | callDrain | callPartialDrain => 
    rw [← Option.some.inj h]
    exact .enter rfl rfl
  | step i ans =>
    obtain ⟨pc, hpc, h⟩ := Option.bind_eq_some_iff.1 h
    obtain ⟨p, hp, rfl⟩ := Option.map_eq_some_iff.1 h
    exact spaceMove_stepCall hpc hp
  | writeDone => exact spaceMove_writeDone h
  | writeDoneNext => exact spaceMove_writeDoneNext h
  | eosRendered wake => exact spaceMove_eosRendered h
  | earlyEos wake => exact spaceMove_earlyEos h
  | signalPoll wake =>
    simp only [eventSignalPoll] at h
    split at h
    · cases h
    · obtain ⟨calls, hs, rfl⟩ := Option.map_eq_some_iff.1 h
      exact .same (sameSpace_calls (map_signal share_wakePoll hs) rfl rfl rfl rfl rfl rfl rfl)
  | spurious i =>
    obtain ⟨pc, hpc, h⟩ := Option.bind_eq_some_iff.1 h
    obtain ⟨pc', hw, rfl⟩ := Option.map_eq_some_iff.1 h
    exact .same (sameSpace_calls (map_set_of_eq hpc (share_wakeSpurious pc pc' hw)) rfl rfl rfl rfl rfl rfl rfl)

/-! ## The invariant -/

/-- A write is between `agm_session_write` and its decrement. -/
def Compress.writing (c : Compress) : Bool :=
  c.calls.any fun pc => match pc with | .wrote _ | .taking _ _ => true | _ => false

/-- The space is accounted for. -/
structure Compress.Space (c : Compress) : Prop where
  pos : 0 < c.frag
  dvd : c.frag ∣ c.total
  used : c.frag * (c.inflight + c.dropped) ≤ c.total
  bound : c.total + c.frag * c.owed < 2 ^ 63
  avail : c.bytesAvail = (c.total : Int) - (c.frag * c.notDone : Nat) + (c.frag * c.owed : Nat)
  nonneg : 0 ≤ c.bytesAvail
  resets : .resets ∈ c.shares → c.inflight = 0
  drops : .resets ∉ c.shares → c.dropped = 0
  refused : .refused ∉ c.shares
  held : c.held ≤ 1
  takes : ∀ n avail, .takes n avail ∈ c.shares → avail = c.bytesAvail
  adds : ∀ avail, c.writeDone = .loaded avail → avail = c.bytesAvail

/-- What the counter should be: while no write is between the service and its decrement it is the buffer less the
fragments that are written and not done, a multiple of the fragment size between nothing and the buffer; and no write has
been told that there is no space. -/
def Compress.Accounted (c : Compress) : Prop :=
  .writeNoSpace ∉ c.calls ∧ (c.writing = false →
    c.bytesAvail = (c.total : Int) - (c.frag * c.notDone : Nat) ∧
    (c.frag : Int) ∣ c.bytesAvail ∧ 0 ≤ c.bytesAvail ∧ c.bytesAvail ≤ c.total)

/-- No write is accepted while a stop has still to reset the counter; when the stop does so no write has still to
subtract, and no callback is between its load and its store; and what is written and not subtracted fits into the
counter. -/
def spaceGuard (c : Compress) : CompressOp → Prop
  | .step i ans =>
    match c.calls[i]? with
    | some (.writeData _) => ans.ret = 0 →
      .stopReset ∉ c.calls ∧ c.total + c.frag * (c.owed + fragments c.frag ans.size) < 2 ^ 63
    | some .stopReset => c.writing = false ∧ c.writeDone.adding = 0
    | _ => True
  | _ => True

instance (c : Compress) (op : CompressOp) : Decidable (spaceGuard c op) := by
  -- case splits that leave no equation in the instance, which `decide` has to run
  delta spaceGuard
  rcases op with ⟨⟩
  case step i ans =>
    dsimp only
    generalize c.calls[i]? = o
    rcases o with _ | pc
    · infer_instance
    · rcases pc with ⟨⟩ <;> infer_instance
  all_goals infer_instance

theorem resets_mem_shares {c : Compress} : .resets ∈ c.shares ↔ .stopReset ∈ c.calls := by
  refine List.mem_map.trans ⟨?_, fun h => ⟨.stopReset, h, rfl⟩⟩
  rintro ⟨pc, hpc, h⟩
  cases pc <;> first | exact hpc | cases h

theorem refused_mem_shares {c : Compress} : .refused ∈ c.shares ↔ .writeNoSpace ∈ c.calls := by
  refine List.mem_map.trans ⟨?_, fun h => ⟨.writeNoSpace, h, rfl⟩⟩
  rintro ⟨pc, hpc, h⟩
  cases pc <;> first | exact hpc | cases h

theorem owed_eq_zero {c : Compress} (h : c.writing = false) : c.owed = 0 := by
  refine List.sum_eq_zero fun n hn => ?_
  obtain ⟨share, hshare, rfl⟩ := List.mem_map.1 hn
  obtain ⟨pc, hpc, rfl⟩ := List.mem_map.1 hshare
  have := List.any_eq_false.1 h pc hpc
  cases pc <;> first | rfl | exact absurd rfl this

theorem wrap64_of_lt {x : Int} (h0 : 0 ≤ x) (h : x < 2 ^ 63) : wrap64 x = x := by
  unfold wrap64
  rw [Int.bmod_def]
  omega

/-- What fits into the space takes no more fragments than there are. -/
theorem fragments_mul_le {frag size n total : Nat} (hdvd : frag ∣ total)
    (h : size + frag * n ≤ total) : frag * (n + fragments frag size) ≤ total := by
  obtain ⟨k, rfl⟩ := hdvd
  have hdiv := Nat.div_add_mod size frag
  unfold fragments
  split
  · next hmod =>
    have hlt : size / frag + n < k := by
      refine Nat.lt_of_mul_lt_mul_left (a := frag) ?_
      rw [Nat.mul_add]
      omega
    exact Nat.mul_le_mul_left frag (by omega)
  · next hmod =>
    rw [Nat.mul_add]
    omega

theorem Compress.SameSpace.space {c c' : Compress} (h : c.SameSpace c') (hs : c.Space) : c'.Space := by
  have howed : c'.owed = c.owed := by rw [Compress.owed, Compress.owed, h.shares]
  have hheld : c'.held = c.held := by rw [Compress.held, Compress.held, h.shares, h.writeDone]
  have hnot : c'.notDone = c.notDone := by
    rw [Compress.notDone, Compress.notDone, h.inflight, h.dropped, h.writeDone]
  obtain ⟨hpos, hdvd, hused, hbound, havail, hnonneg, hresets, hdrops, hrefused, hone, htakes, hadds⟩ := hs
  constructor
  · rwa [h.frag]
  · rwa [h.frag, h.total]
  · rwa [h.frag, h.total, h.inflight, h.dropped]
  · rwa [h.frag, h.total, howed]
  · rwa [h.frag, h.total, hnot, h.avail, howed]
  · rwa [h.avail]
  · rwa [h.shares, h.inflight]
  · rwa [h.shares, h.dropped]
  · rwa [h.shares]
  · rwa [hheld]
  · rwa [h.shares, h.avail]
  · rwa [h.writeDone, h.avail]

theorem Compress.Space.enter {c : Compress} (hs : c.Space) {pc : Pc} (hpc : pc.share c.frag = .none) :
    (c.enter pc).Space := by
  have hshares : (c.enter pc).shares = c.shares ++ [.none] := by
    rw [← hpc]
    exact List.map_append
  have howed : (c.enter pc).owed = c.owed := by
    rw [Compress.owed, hshares, List.map_append, List.sum_append]
    rfl
  have hheld : (c.enter pc).held = c.held := by
    rw [Compress.held, hshares, List.map_append, List.sum_append]
    rfl
  have hmem : ∀ share : Share, share ≠ .none → (share ∈ (c.enter pc).shares ↔ share ∈ c.shares) := by
    intro share hne
    rw [hshares, List.mem_append, List.mem_singleton, or_iff_left hne]
  refine ⟨hs.pos, hs.dvd, hs.used, ?_, ?_, hs.nonneg, ?_, ?_, ?_, ?_, fun n avail => ?_, hs.adds⟩
  · rw [howed]
    exact hs.bound
  · rw [howed]
    exact hs.avail
  · rw [hmem .resets (fun h => (nomatch h))]
    exact hs.resets
  · rw [hmem .resets (fun h => (nomatch h))]
    exact hs.drops
  · rw [hmem .refused (fun h => (nomatch h))]
    exact hs.refused
  · rw [hheld]
    exact hs.held
  · rw [hmem (.takes n avail) (fun h => (nomatch h))]
    exact hs.takes n avail

section

variable {c : Compress} {i : Nat} {pc pc' : Pc}

theorem shares_set (calls : List Pc) : (calls.set i pc').map (Pc.share c.frag) =
    (calls.map (Pc.share c.frag)).set i (pc'.share c.frag) := List.map_set

theorem shares_getElem? (hpc : c.calls[i]? = some pc) : c.shares[i]? = some (pc.share c.frag) := by
  rw [Compress.shares, List.getElem?_map, hpc]
  rfl

/-- What is owed when one call moves on. -/
theorem owed_set {c' : Compress} {q : Pc} (hpc : c.calls[i]? = some pc)
    (hshares : c'.shares = c.shares.set i (q.share c.frag)) :
    c'.owed + (pc.share c.frag).owed = c.owed + (q.share c.frag).owed := by
  rw [Compress.owed, hshares]
  exact sum_map_set Share.owed (q.share c.frag) (shares_getElem? hpc)

/-- Who has the lock when one call moves on. -/
theorem held_set {c' : Compress} {q : Pc} (hpc : c.calls[i]? = some pc)
    (hshares : c'.shares = c.shares.set i (q.share c.frag)) (hdone : c'.writeDone = c.writeDone) :
    c'.held + (pc.share c.frag).held = c.held + (q.share c.frag).held := by
  have hsum := sum_map_set Share.held (q.share c.frag) (shares_getElem? hpc)
  rw [Compress.held, Compress.held, hshares, hdone]
  omega

theorem held_eq_zero (h : c.lockFree = true) : c.held = 0 := by
  obtain ⟨hidle, hcalls⟩ : c.writeDone = .idle ∧ ∀ pc ∈ c.calls, pc.locks = false := by
    simpa [Compress.lockFree] using h
  have hzero : (c.shares.map Share.held).sum = 0 := by
    refine List.sum_eq_zero fun n hn => ?_
    obtain ⟨share, hshare, rfl⟩ := List.mem_map.1 hn
    obtain ⟨pc, hpc, rfl⟩ := List.mem_map.1 hshare
    have := hcalls pc hpc
    cases pc <;> first | rfl | cases this
  rw [Compress.held, hzero, hidle]
  rfl

/-- A call that has the lock is counted. -/
theorem held_le {share : Share} (h : share ∈ c.shares) : share.held + c.writeDone.held ≤ c.held :=
  Nat.add_le_add_right (List.single_le_sum (fun _ _ => Nat.zero_le _) _ (List.mem_map_of_mem h)) _

/-- While a call has the lock no callback has loaded the counter. -/
theorem Compress.Space.idle_of_held (hs : c.Space) {share : Share} (h : share ∈ c.shares) (hheld : share.held = 1) :
    c.writeDone = .idle := by
  have hle := (held_le h).trans hs.held
  cases hdone : c.writeDone with
  | idle => rfl
  | loaded avail =>
    rw [hdone, hheld] at hle
    exact absurd hle (by simp [WriteDone.held])
  | stored =>
    rw [hdone, hheld] at hle
    exact absurd hle (by simp [WriteDone.held])

/-- While a callback has the lock no write has loaded the counter. -/
theorem Compress.Space.takes_not_mem (hs : c.Space) (hdone : c.writeDone ≠ .idle) (n : Nat) (avail : Int) :
    .takes n avail ∉ c.shares := fun h => hdone (hs.idle_of_held h rfl)

theorem notDone_of_idle (h : c.writeDone = .idle) : c.notDone = c.inflight + c.dropped := by
  rw [Compress.notDone, h]
  rfl

/-- The service accepts a write. -/
theorem Compress.Space.data {c' : Compress} {ans : Answer} {count : Nat} (hs : c.Space)
    (hpc : c.calls[i]? = some (.writeData count)) (hfit : ans.size + c.frag * c.inflight ≤ c.total)
    (hstop : .stopReset ∉ c.calls) (hbound : c.total + c.frag * (c.owed + fragments c.frag ans.size) < 2 ^ 63)
    (h : c' = { c with inflight := c.inflight + fragments c.frag ans.size, writes := c.writes + 1,
                       calls := c.calls.set i (.wrote ans.size) }) : c'.Space := by
  have hshares : c'.shares = c.shares.set i (.owes (fragments c.frag ans.size)) := by
    rw [h]
    exact shares_set c.calls
  have howed : c'.owed = c.owed + fragments c.frag ans.size := owed_set (q := .wrote ans.size) hpc hshares
  have hheld : c'.held = c.held := held_set (q := .wrote ans.size) hpc hshares (by rw [h])
  have hnot : .resets ∉ c.shares := fun hmem => hstop (resets_mem_shares.1 hmem)
  have hdrop := hs.drops hnot
  have hmem : ∀ share ∈ c'.shares, share = .owes (fragments c.frag ans.size) ∨ share ∈ c.shares := by
    rw [hshares]
    exact fun share => eq_or_mem_of_mem_set
  have hnotDone : c'.notDone = c.notDone + fragments c.frag ans.size := by
    rw [h]
    simp only [Compress.notDone]
    omega
  have hle := fragments_mul_le hs.dvd hfit
  have havail := hs.avail
  subst h
  refine ⟨hs.pos, hs.dvd, ?_, ?_, ?_, hs.nonneg, ?_, fun _ => hdrop, ?_, ?_, ?_, hs.adds⟩
  · simp only [hdrop, Nat.add_zero]
    exact hle
  · rw [howed]
    exact hbound
  · rw [howed, hnotDone]
    simp only [Nat.mul_add] at havail ⊢
    omega
  · intro hr
    rcases hmem _ hr with h | h
    · cases h
    · exact absurd h hnot
  · intro hr
    rcases hmem _ hr with h | h
    · cases h
    · exact hs.refused h
  · rw [hheld]
    exact hs.held
  · intro n avail hr
    rcases hmem _ hr with h | h
    · cases h
    · exact hs.takes n avail h

/-- A call moves on with the lock taken or dropped, and the counter as it was. -/
theorem Compress.Space.lock {c' : Compress} {q : Pc} (copied : Nat) (hs : c.Space) (hpc : c.calls[i]? = some pc)
    (howes : (q.share c.frag).owed = (pc.share c.frag).owed) (hresets : pc ≠ .stopReset) (hresets' : q ≠ .stopReset)
    (hrefused : q ≠ .writeNoSpace) (hheld : c.held + (q.share c.frag).held ≤ 1 + (pc.share c.frag).held)
    (htakes : ∀ n avail, q.share c.frag = .takes n avail → avail = c.bytesAvail)
    (h : c' = { c with bytesCopied := copied, calls := c.calls.set i q }) : c'.Space := by
  have hshares : c'.shares = c.shares.set i (q.share c.frag) := by
    rw [h]
    exact shares_set c.calls
  have howed : c'.owed = c.owed := Nat.add_right_cancel ((owed_set hpc hshares).trans (by rw [howes]))
  have hone : c'.held + (pc.share c.frag).held = c.held + (q.share c.frag).held := held_set hpc hshares (by rw [h])
  have hmem : ∀ share ∈ c'.shares, share = q.share c.frag ∨ share ∈ c.shares := by
    rw [hshares]
    exact fun share => eq_or_mem_of_mem_set
  have hcalls : c'.calls = c.calls.set i q := by rw [h]
  have hreset : .stopReset ∈ c'.calls ↔ .stopReset ∈ c.calls := by
    rw [hcalls]
    exact ⟨fun hm => (eq_or_mem_of_mem_set hm).resolve_left hresets'.symm, fun hm => mem_set_of_ne hpc hm hresets.symm⟩
  subst h
  refine ⟨hs.pos, hs.dvd, hs.used, ?_, ?_, hs.nonneg, ?_, ?_, ?_, ?_, ?_, hs.adds⟩
  · rw [howed]
    exact hs.bound
  · rw [howed]
    exact hs.avail
  · rw [resets_mem_shares, hreset, ← resets_mem_shares]
    exact hs.resets
  · rw [resets_mem_shares, hreset, ← resets_mem_shares]
    exact hs.drops
  · rw [refused_mem_shares, hcalls]
    exact fun hm => (eq_or_mem_of_mem_set hm).elim hrefused.symm fun hm => hs.refused (refused_mem_shares.2 hm)
  · omega
  · intro n avail hr
    rcases hmem _ hr with h | h
    · exact htakes n avail h.symm
    · exact hs.takes n avail h

/-- A write subtracts what it has written: there is space for it. -/
theorem Compress.Space.take {c' : Compress} {size : Nat} {avail : Int} (hs : c.Space)
    (hpc : c.calls[i]? = some (.taking size avail))
    (h : c' = { c with bytesAvail := wrap64 (avail - (fragments c.frag size * c.frag : Nat)),
                       calls := c.calls.set i (.taken size) }) : c'.Space := by
  have hin : .takes (fragments c.frag size) avail ∈ c.shares := List.mem_of_getElem? (shares_getElem? hpc)
  have hidle := hs.idle_of_held hin rfl
  have hnotDone := notDone_of_idle hidle
  rw [hs.takes _ _ hin] at h
  have hshares : c'.shares = c.shares.set i .checks := by
    rw [h]
    exact shares_set c.calls
  have howed : c'.owed + fragments c.frag size = c.owed := owed_set (q := .taken size) hpc hshares
  have hheld : c'.held + 1 = c.held + 1 := held_set (q := .taken size) hpc hshares (by rw [h])
  replace hheld := Nat.add_right_cancel hheld
  have hmem : ∀ share ∈ c'.shares, share = .checks ∨ share ∈ c.shares := by
    rw [hshares]
    exact fun share => eq_or_mem_of_mem_set
  have hmul : c.frag * c'.owed + fragments c.frag size * c.frag = c.frag * c.owed := by
    rw [← howed, Nat.mul_add, Nat.mul_comm (fragments c.frag size)]
  have hkeep : .resets ∈ c.shares → .resets ∈ c'.shares := by
    rw [hshares]
    exact fun hr => mem_set_of_ne (shares_getElem? hpc) hr (fun h => (nomatch h))
  -- nobody else has loaded the counter
  have hother : ∀ n b, .takes n b ∉ c'.shares := by
    intro n b hmem'
    have hchecks : .checks ∈ c'.shares := by
      rw [hshares]
      exact mem_set_self_of_getElem? (shares_getElem? hpc)
    obtain ⟨done, todo, hsplit⟩ := List.append_of_mem hmem'
    have hsum : (c'.shares.map Share.held).sum ≤ 1 := by
      have := hheld.le.trans hs.held
      rw [Compress.held] at this
      omega
    rw [hsplit] at hsum hchecks
    simp only [List.map_append, List.map_cons, List.sum_append, List.sum_cons, Share.held] at hsum
    rcases List.mem_append.1 hchecks with hin' | hin'
    · have : Share.held .checks ≤ (done.map Share.held).sum :=
        List.single_le_sum (fun _ _ => Nat.zero_le _) _ (List.mem_map_of_mem hin')
      simp only [Share.held] at this
      omega
    · rcases List.mem_cons.1 hin' with hin' | hin'
      · cases hin'
      · have : Share.held .checks ≤ (todo.map Share.held).sum :=
          List.single_le_sum (fun _ _ => Nat.zero_le _) _ (List.mem_map_of_mem hin')
        simp only [Share.held] at this
        omega
  have hbound := hs.bound
  have hav := hs.avail
  have hused := hs.used
  rw [hnotDone] at hav
  have hwrap : wrap64 (c.bytesAvail - (fragments c.frag size * c.frag : Nat)) =
      c.bytesAvail - (fragments c.frag size * c.frag : Nat) := wrap64_of_lt (by omega) (by omega)
  rw [hwrap] at h
  have hnot' : c'.notDone = c.inflight + c.dropped := by
    rw [h]
    exact notDone_of_idle hidle
  have htotal : c'.total + c.frag * c'.owed < 2 ^ 63 := by
    have : c'.total = c.total := by rw [h]
    omega
  have havail' : c'.bytesAvail = (c.total : Int) - (c.frag * c'.notDone : Nat) + (c.frag * c'.owed : Nat) := by
    have : c'.bytesAvail = c.bytesAvail - (fragments c.frag size * c.frag : Nat) := by rw [h]
    rw [hnot']
    omega
  have hnonneg : 0 ≤ c'.bytesAvail := by
    rw [havail', hnot']
    omega
  subst h
  refine ⟨hs.pos, hs.dvd, hs.used, htotal, havail', hnonneg, ?_, ?_, ?_, ?_, fun n b hr => absurd hr (hother n b), ?_⟩
  · intro hr
    rcases hmem _ hr with h | h
    · cases h
    · exact hs.resets h
  · exact fun hr => hs.drops fun h => hr (hkeep h)
  · intro hr
    rcases hmem _ hr with h | h
    · cases h
    · exact hs.refused h
  · rw [hheld]
    exact hs.held
  · intro b hb
    exact absurd (hidle.symm.trans hb) (fun h => (nomatch h))

/-- The service has stopped the session. -/
theorem Compress.Space.halt {c' : Compress} (hs : c.Space) (hpc : c.calls[i]? = some .stopSession)
    (h : c' = { c with dropped := c.dropped + c.inflight, inflight := 0, calls := c.calls.set i .stopReset }) :
    c'.Space := by
  have hshares : c'.shares = c.shares.set i .resets := by
    rw [h]
    exact shares_set c.calls
  have howed : c'.owed = c.owed := owed_set (q := .stopReset) hpc hshares
  have hheld : c'.held = c.held := held_set (q := .stopReset) hpc hshares (by rw [h])
  have hmem : ∀ share ∈ c'.shares, share = .resets ∨ share ∈ c.shares := by
    rw [hshares]
    exact fun share => eq_or_mem_of_mem_set
  have hreset : .resets ∈ c'.shares := by
    rw [hshares]
    exact mem_set_self_of_getElem? (shares_getElem? hpc)
  have hsum : 0 + (c.dropped + c.inflight) = c.inflight + c.dropped := by omega
  have hnotDone : c'.notDone = c.notDone := by
    rw [h]
    simp only [Compress.notDone]
    omega
  subst h
  refine ⟨hs.pos, hs.dvd, ?_, ?_, ?_, hs.nonneg, fun _ => rfl, fun hr => absurd hreset hr, ?_, ?_, ?_, hs.adds⟩
  · simp only [hsum]
    exact hs.used
  · rw [howed]
    exact hs.bound
  · rw [howed, hnotDone]
    exact hs.avail
  · intro hr
    rcases hmem _ hr with h | h
    · cases h
    · exact hs.refused h
  · rw [hheld]
    exact hs.held
  · intro n avail hr
    rcases hmem _ hr with h | h
    · cases h
    · exact hs.takes n avail h

theorem takes_not_mem_of_writing (h : c.writing = false) (n : Nat) (avail : Int) : .takes n avail ∉ c.shares := by
  intro hmem
  obtain ⟨pc, hpc, hshare⟩ := List.mem_map.1 hmem
  have := List.any_eq_false.1 h pc hpc
  cases pc <;> simp [Pc.share] at hshare this

/-- A stop resets the counter. -/
theorem Compress.Space.reset {c' : Compress} (hs : c.Space) (hpc : c.calls[i]? = some .stopReset)
    (hwriting : c.writing = false) (hadding : c.writeDone.adding = 0)
    (h : c' = { c with bytesAvail := wrap64 c.total, bytesCopied := 0, dropped := 0,
                       calls := c.calls.set i (.stopRet 0) }) : c'.Space := by
  have hshares : c'.shares = c.shares.set i .none := by
    rw [h]
    exact shares_set c.calls
  have howed : c'.owed = c.owed := owed_set (q := .stopRet 0) hpc hshares
  have hheld : c'.held = c.held := held_set (q := .stopRet 0) hpc hshares (by rw [h])
  rw [owed_eq_zero hwriting] at howed
  have hmem : ∀ share ∈ c'.shares, share = .none ∨ share ∈ c.shares := by
    rw [hshares]
    exact fun share => eq_or_mem_of_mem_set
  have hin : c.inflight = 0 := hs.resets (resets_mem_shares.2 (List.mem_of_getElem? hpc))
  have hnotDone : c'.notDone = 0 := by
    rw [h]
    show c.inflight + 0 + c.writeDone.adding = 0
    rw [hin, hadding]
  have hbound := hs.bound
  have htotal : wrap64 c.total = c.total := wrap64_of_lt (by omega) (by omega)
  rw [htotal] at h
  have havail : c'.bytesAvail = (c.total : Int) - (c.frag * c'.notDone : Nat) + (c.frag * c'.owed : Nat) := by
    have hnew : c'.bytesAvail = c.total := by rw [h]
    rw [howed, hnotDone, hnew, Nat.mul_zero, Nat.cast_zero, Int.sub_zero, Int.add_zero]
  subst h
  refine ⟨hs.pos, hs.dvd, ?_, ?_, havail, Int.natCast_nonneg _, fun _ => hin, fun _ => rfl, ?_, ?_, ?_, ?_⟩
  · simp only [hin, Nat.add_zero, Nat.mul_zero, Nat.zero_le]
  · rw [howed]
    dsimp only
    omega
  · intro hr
    rcases hmem _ hr with h | h
    · cases h
    · exact hs.refused h
  · rw [hheld]
    exact hs.held
  · intro n avail hr
    rcases hmem _ hr with h | h
    · cases h
    · exact absurd h (takes_not_mem_of_writing hwriting n avail)
  · intro avail hdone
    have hloaded : c.writeDone = .loaded avail := hdone
    rw [hloaded] at hadding
    cases hadding

/-- A callback for a fragment has loaded the counter. -/
theorem Compress.Space.done {c' : Compress} (hs : c.Space) (hin : c.inflight ≠ 0) (hfree : c.lockFree = true)
    (h : c' = { c with inflight := c.inflight - 1, writeDone := .loaded c.bytesAvail }) : c'.Space := by
  have hzero := held_eq_zero hfree
  have hidle : c.writeDone = .idle := by
    rw [Compress.held] at hzero
    cases hdone : c.writeDone with
    | idle => rfl
    | loaded avail => simp [hdone, WriteDone.held] at hzero
    | stored => simp [hdone, WriteDone.held] at hzero
  have hnotDone : c'.notDone = c.notDone := by
    rw [h, notDone_of_idle hidle]
    show c.inflight - 1 + c.dropped + 1 = _
    omega
  have hheld : c'.held ≤ 1 := by
    rw [Compress.held, hidle] at hzero
    rw [h]
    show (c.shares.map Share.held).sum + 1 ≤ 1
    simp only [WriteDone.held] at hzero
    omega
  have hused : c.frag * (c.inflight - 1 + c.dropped) ≤ c.total :=
    (Nat.mul_le_mul_left _ (by omega)).trans hs.used
  subst h
  refine ⟨hs.pos, hs.dvd, hused, hs.bound, ?_, hs.nonneg, fun hr => absurd (hs.resets hr) hin, hs.drops, hs.refused,
    hheld, hs.takes, fun avail hdone => (WriteDone.loaded.inj hdone).symm⟩
  rw [hnotDone]
  exact hs.avail

/-- The callback adds the fragment. -/
theorem Compress.Space.addsFragment {c' : Compress} {avail : Int} (hs : c.Space) (hdone : c.writeDone = .loaded avail)
    (h : c' = { c with bytesAvail := wrap64 (avail + c.frag), writeDone := .stored }) : c'.Space := by
  rw [hs.adds avail hdone] at h
  have hnotDone : c.notDone = c.inflight + c.dropped + 1 := by
    rw [Compress.notDone, hdone]
    rfl
  have hnot' : c'.notDone = c.inflight + c.dropped := by
    rw [h]
    rfl
  have hmul : c.frag * c.notDone = c.frag * (c.inflight + c.dropped) + c.frag := by
    rw [hnotDone, Nat.mul_succ]
  have hbound := hs.bound
  have hav := hs.avail
  have hnonneg := hs.nonneg
  have hwrap : wrap64 (c.bytesAvail + c.frag) = c.bytesAvail + c.frag := wrap64_of_lt (by omega) (by omega)
  rw [hwrap] at h
  have havail : c'.bytesAvail = (c.total : Int) - (c.frag * c'.notDone : Nat) + (c.frag * c.owed : Nat) := by
    have : c'.bytesAvail = c.bytesAvail + c.frag := by rw [h]
    rw [hnot']
    omega
  have hheld : c'.held = c.held := by
    rw [h, Compress.held, Compress.held, hdone]
    rfl
  subst h
  refine ⟨hs.pos, hs.dvd, hs.used, hs.bound, havail, ?_, hs.resets, hs.drops, hs.refused, ?_, ?_,
    fun avail hd => (nomatch hd)⟩
  · dsimp only
    omega
  · rw [hheld]
    exact hs.held
  · exact fun n b hr => absurd hr (hs.takes_not_mem (by rw [hdone]; exact fun h => (nomatch h)) n b)

/-- The callback drops the lock. -/
theorem Compress.Space.leaves {c' : Compress} {n : Nat} (hs : c.Space) (hdone : c.writeDone = .stored)
    (h : c' = { c with writeDone := .idle, signalling := n }) : c'.Space := by
  have hnotDone : c'.notDone = c.notDone := by
    rw [h, Compress.notDone, Compress.notDone, hdone]
    rfl
  have hheld : c'.held ≤ c.held := by
    rw [h]
    exact Nat.add_le_add_left (Nat.zero_le _) _
  subst h
  refine ⟨hs.pos, hs.dvd, hs.used, hs.bound, ?_, hs.nonneg, hs.resets, hs.drops, hs.refused, hheld.trans hs.held, hs.takes,
    fun avail hd => (nomatch hd)⟩
  rw [hnotDone]
  exact hs.avail

end

/-- The step lemma of the invariant. -/
theorem Compress.Space.step {c c' : Compress} {op : CompressOp} (hs : c.Space) (hg : spaceGuard c op)
    (h : c.SpaceMove c' op) : c'.Space := by
  cases h with
  | same h => exact h.space hs
  | enter hpc h =>
    subst h
    exact hs.enter hpc
  | data hpc hret hfit h =>
    simp only [spaceGuard, hpc] at hg
    obtain ⟨hstop, hbound⟩ := hg hret
    exact hs.data hpc hfit hstop hbound h
  | loads hpc hfree h =>
    refine hs.lock (q := .taking _ _) c.bytesCopied hpc rfl (fun h => (nomatch h)) (fun h => (nomatch h))
      (fun h => (nomatch h)) ?_ (fun n avail h => ?_) h
    · rw [held_eq_zero hfree]
      exact Nat.le_refl _
    · exact (Share.takes.inj h).2.symm
  | take hpc h => exact hs.take hpc h
  | checks copied hpc h =>
    rw [if_neg (not_lt.2 hs.nonneg)] at h
    exact hs.lock (q := .writeRet _) copied hpc rfl (fun h => (nomatch h)) (fun h => (nomatch h))
      (fun h => (nomatch h)) (Nat.add_le_add hs.held (Nat.zero_le _)) (fun n avail h => (nomatch h)) h
  | halt hpc h => exact hs.halt hpc h
  | reset hpc h =>
    simp only [spaceGuard, hpc] at hg
    exact hs.reset hpc hg.1 hg.2 h
  | done hin hfree h => exact hs.done hin hfree h
  | adds hdone h => exact hs.addsFragment hdone h
  | leaves hdone h => exact hs.leaves hdone h

theorem space_agmCompressSetParams {fragmentSize fragments : Nat} (hpos : 0 < fragmentSize)
    (hlt : fragmentSize * fragments < 2 ^ 63) : (agmCompressSetParams fragmentSize fragments).Space := by
  have howed : (agmCompressSetParams fragmentSize fragments).owed = 0 := rfl
  have hwrap : wrap64 ((fragmentSize * fragments : Nat) : Int) = (fragmentSize * fragments : Nat) :=
    wrap64_of_lt (by omega) (by omega)
  refine ⟨hpos, Nat.dvd_mul_right .., Nat.zero_le _, ?_, ?_, ?_, fun _ => rfl, fun _ => rfl, fun h => (nomatch h),
    Nat.zero_le _, fun n avail h => (nomatch h), fun avail h => (nomatch h)⟩
  · rw [howed, Nat.mul_zero]
    exact hlt
  · have hnotDone : (agmCompressSetParams fragmentSize fragments).notDone = 0 := rfl
    rw [howed, hnotDone]
    simp only [agmCompressSetParams, hwrap, Nat.mul_zero, Nat.cast_zero, Int.sub_zero, Int.add_zero]
  · rw [agmCompressSetParams, hwrap]
    exact Int.natCast_nonneg _

end Agm.Plugin
