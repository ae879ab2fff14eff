import Agm.Plugin.CompressSpace

/-!
# The poll of the compress plugin

`agm_compress_poll` waits for `poll_cond` without looking at `bytes_avail` first, and the callbacks signal it without
the lock that the counter is under.  So a poll is left alone with room in the buffer when it is called with nothing in
flight, when the last signal comes between its call and its wait, when a signal wakes another, or when the last
completion finds the counter beyond the buffer and leaves before its signal.
-/

namespace Agm.Plugin

open Agm.Lib Agm.Service

/-! ## The polls under way -/

/-- A poll is under way: it has been called, or it waits. -/
def Pc.polls : Pc → Nat
  | .poll | .pollWait => 1
  | _ => 0

def pollsIn (calls : List Pc) : Nat := (calls.map Pc.polls).sum

def Compress.Polled (c : Compress) : Prop := .poll ∈ c.calls ∨ .pollWait ∈ c.calls

instance (c : Compress) : Decidable c.Polled := inferInstanceAs (Decidable (_ ∨ _))

theorem pollsIn_ne_zero {c : Compress} : pollsIn c.calls ≠ 0 ↔ c.Polled := by
  constructor
  · intro hne
    by_contra hnot
    refine hne (List.sum_eq_zero fun n hn => ?_)
    obtain ⟨pc, hpc, rfl⟩ := List.mem_map.1 hn
    cases pc with
    | poll => exact absurd (.inl hpc) hnot
    | pollWait => exact absurd (.inr hpc) hnot
    | _ => rfl
  · intro h hzero
    obtain ⟨pc, hpc, hone⟩ : ∃ pc ∈ c.calls, pc.polls = 1 := h.elim (fun h => ⟨_, h, rfl⟩) fun h => ⟨_, h, rfl⟩
    have hle : pc.polls ≤ pollsIn c.calls := List.single_le_sum (fun _ _ => Nat.zero_le _) _ (List.mem_map_of_mem hpc)
    omega

/-- A signal for others. -/
theorem pollsIn_signal {wakes : Pc → Option Pc} (hf : ∀ pc pc', wakes pc = some pc' → pc'.polls = pc.polls) {i : Nat}
    {calls calls' : List Pc} (h : signal wakes i calls = some calls') : pollsIn calls' = pollsIn calls := by
  rw [pollsIn, pollsIn, map_signal hf h]

/-- A signal for the poll wakes one that waits, if one does. -/
theorem pollsIn_signal_wakePoll {i : Nat} {calls calls' : List Pc} (h : signal wakePoll i calls = some calls') :
    pollsIn calls' ≤ pollsIn calls ∧ (.pollWait ∈ calls → pollsIn calls' + 1 = pollsIn calls) := by
  unfold signal at h
  split at h
  · obtain ⟨pc, hpc, h⟩ := Option.bind_eq_some_iff.1 h
    obtain ⟨pc', hw, rfl⟩ := Option.map_eq_some_iff.1 h
    have hsum := sum_map_set Pc.polls pc' hpc
    cases pc <;> simp [wakePoll] at hw
    subst hw
    simp only [Pc.polls, Nat.add_zero] at hsum
    exact ⟨Nat.le.intro hsum, fun _ => hsum⟩
  · next hany =>
    cases h
    exact ⟨le_rfl, fun hm => absurd (List.any_eq_true.2 ⟨_, hm, rfl⟩) hany⟩

theorem polls_wakeDrain {cause : Cause} (pc pc' : Pc) (h : wakeDrain cause pc = some pc') : pc'.polls = pc.polls := by
  cases pc <;> simp [wakeDrain] at h
  subst h
  rfl

theorem polls_wakePartial (pc pc' : Pc) (h : wakePartial pc = some pc') : pc'.polls = pc.polls := by
  cases pc <;> simp [wakePartial] at h
  subst h
  rfl

theorem stepWrite_quiet {ans : Answer} {c c' : Compress} {pc pc' : Pc} (h : stepWrite ans c pc = some (pc', c')) :
    c'.calls = c.calls ∧ c'.signalling = c.signalling ∧ pc.polls = 0 ∧ pc'.polls = 0 := by
  cases pc <;> simp only [stepWrite] at h <;> grind [Pc.polls]

theorem stepDrain_quiet {ans : Answer} {c c' : Compress} {pc pc' : Pc} (h : stepDrain ans c pc = some (pc', c')) :
    c'.calls = c.calls ∧ c'.signalling = c.signalling ∧ pc.polls = 0 ∧ pc'.polls = 0 := by
  cases pc <;> simp only [stepDrain] at h <;> grind [Pc.polls]

theorem stepPartialDrain_quiet {ans : Answer} {c c' : Compress} {pc pc' : Pc}
    (h : stepPartialDrain ans c pc = some (pc', c')) :
    c'.calls = c.calls ∧ c'.signalling = c.signalling ∧ pc.polls = 0 ∧ pc'.polls = 0 := by
  cases pc <;> simp only [stepPartialDrain] at h <;> grind [Pc.polls]

theorem stepStop_quiet {ans : Answer} {c c' : Compress} {pc pc' : Pc} (h : stepStop ans c pc = some (pc', c')) :
    pollsIn c'.calls ≤ pollsIn c.calls ∧ c'.signalling = c.signalling ∧ pc.polls = 0 ∧ pc'.polls = 0 := by
  cases pc with
  | stop =>
    simp only [stepStop] at h
    split at h
    · obtain ⟨calls, hs, h⟩ := Option.map_eq_some_iff.1 h
      cases h
      refine ⟨?_, rfl, rfl, rfl⟩
      split at hs
      · exact (pollsIn_signal polls_wakeDrain hs).le
      · rw [Option.some.inj hs]
    · cases h
  | stopEarly =>
    simp only [stepStop] at h
    split at h
    · obtain ⟨calls, hs, h⟩ := Option.map_eq_some_iff.1 h
      cases h
      refine ⟨?_, rfl, rfl, rfl⟩
      split at hs
      · exact (pollsIn_signal polls_wakePartial hs).le
      · rw [Option.some.inj hs]
    · cases h
  | stopPoll =>
    obtain ⟨calls, hs, h⟩ := Option.map_eq_some_iff.1 h
    cases h
    refine ⟨?_, rfl, rfl, rfl⟩
    exact (pollsIn_signal_wakePoll hs).1
  | stopSession =>
    simp only [stepStop] at h
    split at h <;> cases h
    · exact ⟨le_rfl, rfl, rfl, rfl⟩
    · exact ⟨le_rfl, rfl, rfl, rfl⟩
  | stopReset =>
    cases h
    exact ⟨le_rfl, rfl, rfl, rfl⟩
  | _ => cases h

/-- Everything a step can do to the polls under way and to the signals they wait for. -/
inductive Compress.PollMove (c c' : Compress) : CompressOp → Prop
  | quiet {op : CompressOp} (hop : op ≠ .callPoll) (hpolls : pollsIn c'.calls ≤ pollsIn c.calls)
      (hsig : c.signalling ≤ c'.signalling) : c.PollMove c' op
  | begins (h : c' = c.enter .poll) : c.PollMove c' .callPoll
  | signal {wake : Nat} (hpolls : pollsIn c'.calls ≤ pollsIn c.calls)
      (hwait : .pollWait ∈ c.calls → pollsIn c'.calls + 1 = pollsIn c.calls)
      (hsig : c'.signalling + 1 = c.signalling) : c.PollMove c' (.signalPoll wake)

/-- A call that comes to a point which is none of a poll. -/
theorem pollsIn_set_le {calls : List Pc} (i : Nat) {pc : Pc} (h : pc.polls = 0) :
    pollsIn (calls.set i pc) ≤ pollsIn calls := sum_map_set_le Pc.polls calls i h

theorem pollMove_stepCall {c c1 : Compress} {i : Nat} {ans : Answer} {pc pc' : Pc} (hpc : c.calls[i]? = some pc)
    (h : stepCall ans c pc = some (pc', c1)) : c.PollMove { c1 with calls := c1.calls.set i pc' } (.step i ans) := by
  have quiet : c1.calls = c.calls ∧ c1.signalling = c.signalling ∧ pc.polls = 0 ∧ pc'.polls = 0 →
      c.PollMove { c1 with calls := c1.calls.set i pc' } (.step i ans) := by
    rintro ⟨hcalls, hsig, -, hpolls⟩
    refine .quiet (fun h => (nomatch h)) ?_ hsig.ge
    show pollsIn (c1.calls.set i pc') ≤ pollsIn c.calls
    rw [hcalls]
    exact pollsIn_set_le i hpolls
  cases pc with
  | write | writePrepare | writeData | wrote | taking | taken =>
    simp only [stepCall] at h
    exact quiet (stepWrite_quiet h)
  | stop | stopEarly | stopPoll | stopSession | stopReset =>
    simp only [stepCall] at h
    obtain ⟨hcalls, hsig, -, hpolls⟩ := stepStop_quiet h
    exact .quiet (fun h => (nomatch h)) ((pollsIn_set_le i hpolls).trans hcalls) hsig.ge
  | poll =>
    cases h
    have hsum : pollsIn (c.calls.set i .pollWait) + 1 = pollsIn c.calls + 1 := sum_map_set Pc.polls .pollWait hpc
    exact .quiet (fun h => (nomatch h)) (Nat.add_right_cancel hsum).le le_rfl
  | drain | drainEos | drainWoken =>
    simp only [stepCall] at h
    exact quiet (stepDrain_quiet h)
  | partialDrain | partialEos | partialWoken =>
    simp only [stepCall] at h
    exact quiet (stepPartialDrain_quiet h)
  | _ => cases h

theorem pollMove_of_exec {c c' : Compress} {op : CompressOp} {r : Unit} (h : compressExec op c = some (r, c')) :
    c.PollMove c' op := by
  obtain ⟨c1, h, hc⟩ := Option.map_eq_some_iff.1 h
  cases hc
  cases op with
  | callPoll =>
    rw [← Option.some.inj h]
    exact .begins rfl
  | callWrite | callStop | callDrain | callPartialDrain =>
    rw [← Option.some.inj h]
    refine .quiet (by simp) ?_ le_rfl
    show pollsIn (c.calls ++ [_]) ≤ pollsIn c.calls
    simp [pollsIn, Pc.polls]
  | step i ans =>
    obtain ⟨pc, hpc, h⟩ := Option.bind_eq_some_iff.1 h
    obtain ⟨p, hp, rfl⟩ := Option.map_eq_some_iff.1 h
    exact pollMove_stepCall hpc hp
  | writeDone =>
    simp only [eventWriteDone] at h
    split at h
    · rw [← Option.some.inj h]
      exact .quiet (by simp) le_rfl le_rfl
    · cases h
  | writeDoneNext =>
    simp only [eventWriteDoneNext] at h
    split at h
    · cases h
    · rw [← Option.some.inj h]
      exact .quiet (by simp) le_rfl le_rfl
    · split at h
      · rw [← Option.some.inj h]
        exact .quiet (by simp) le_rfl le_rfl
      · rw [← Option.some.inj h]
        exact .quiet (by simp) le_rfl (Nat.le_succ _)
  | eosRendered wake =>
    simp only [eventEosRendered] at h
    split at h
    · cases h
    · split at h
      · split at h
        · obtain ⟨calls, hs, rfl⟩ := Option.map_eq_some_iff.1 h
          exact .quiet (by simp) (pollsIn_signal polls_wakeDrain hs).le (Nat.le_succ _)
        · rw [← Option.some.inj h]
          exact .quiet (by simp) le_rfl (Nat.le_succ _)
      · cases h
  | earlyEos wake =>
    simp only [eventEarlyEos] at h
    split at h
    · split at h
      · obtain ⟨calls, hs, rfl⟩ := Option.map_eq_some_iff.1 h
        exact .quiet (by simp) (pollsIn_signal polls_wakePartial hs).le (Nat.le_succ _)
      · rw [← Option.some.inj h]
        exact .quiet (by simp) le_rfl (Nat.le_succ _)
    · cases h
  | signalPoll wake =>
    simp only [eventSignalPoll] at h
    split at h
    · cases h
    · next hsig =>
      obtain ⟨calls, hs, rfl⟩ := Option.map_eq_some_iff.1 h
      have hpolls := pollsIn_signal_wakePoll hs
      exact .signal hpolls.1 hpolls.2 (Nat.succ_pred_eq_of_ne_zero hsig)
  | spurious i =>
    obtain ⟨pc, hpc, h⟩ := Option.bind_eq_some_iff.1 h
    obtain ⟨pc', hw, rfl⟩ := Option.map_eq_some_iff.1 h
    refine .quiet (by simp) (pollsIn_set_le i ?_) le_rfl
    cases pc <;> simp [wakeSpurious] at hw <;> subst hw <;> rfl

/-! ## The invariant -/

/-- An event is in flight: a fragment is still to be done, a callback is in the middle of `bytes_avail`, or one has still
to signal. -/
def Compress.InFlight (c : Compress) : Prop := 0 < c.inflight ∨ c.writeDone ≠ .idle ∨ 0 < c.signalling

instance (c : Compress) : Decidable c.InFlight := inferInstanceAs (Decidable (_ ∨ _))

/-- At most one poll is under way, and not in vain. -/
structure Compress.Watched (c : Compress) : Prop where
  space : c.Space
  one : pollsIn c.calls ≤ 1
  expects : c.Polled → c.bytesAvail < c.frag ∨ c.InFlight

/-- One poll is called at a time, with less than a fragment of room or an event in flight.  What comes between the call
of the poll and its wait is not the last signal, unless there is no room for a fragment yet.  The last event in flight is
not a completion that finds the counter beyond the buffer; and no stop takes away what a poll waits for. -/
def pollGuard (c : Compress) (op : CompressOp) : Prop :=
  spaceGuard c op ∧
  match op with
  | .callPoll => ¬ c.Polled ∧ (c.bytesAvail < c.frag ∨ c.InFlight)
  | .signalPoll _ =>
    .poll ∈ c.calls → c.bytesAvail < c.frag ∨ 0 < c.inflight ∨ c.writeDone ≠ .idle ∨ 1 < c.signalling
  | .writeDoneNext => c.writeDone = .stored → c.Polled → c.bytesAvail ≤ c.total ∨ 0 < c.inflight ∨ 0 < c.signalling
  | .step i _ =>
    match c.calls[i]? with
    | some .stopSession => c.Polled → c.bytesAvail < c.frag ∨ c.writeDone ≠ .idle ∨ 0 < c.signalling
    | some .stopReset => c.Polled → c.writeDone ≠ .idle ∨ 0 < c.signalling
    | _ => True
  | _ => True

instance (c : Compress) (op : CompressOp) : Decidable (pollGuard c op) := by
  delta pollGuard
  refine @instDecidableAnd _ _ inferInstance ?_
  rcases op with ⟨⟩
  case step i ans =>
    dsimp only
    generalize c.calls[i]? = o
    rcases o with _ | pc
    · infer_instance
    · rcases pc with ⟨⟩ <;> infer_instance
  all_goals infer_instance

/-- A write that subtracts leaves no more than there was. -/
theorem bytesAvail_take_le {c c' : Compress} {i : Nat} {size : Nat} {avail : Int} (hs : c.Space) (hs' : c'.Space)
    (hpc : c.calls[i]? = some (.taking size avail))
    (h : c' = { c with bytesAvail := wrap64 (avail - (fragments c.frag size * c.frag : Nat)),
                       calls := c.calls.set i (.taken size) }) : c'.bytesAvail ≤ c.bytesAvail := by
  have hshares : c'.shares = c.shares.set i .checks := by
    rw [h]
    exact shares_set c.calls
  have howed : c'.owed + fragments c.frag size = c.owed := owed_set (q := .taken size) hpc hshares
  have hle : c.frag * c'.owed ≤ c.frag * c.owed := Nat.mul_le_mul_left c.frag (Nat.le.intro howed)
  have havail := hs.avail
  have havail' := hs'.avail
  have hfrag : c'.frag = c.frag := by rw [h]
  have htotal : c'.total = c.total := by rw [h]
  have hnotDone : c'.notDone = c.notDone := by
    rw [h]
    rfl
  rw [hfrag, htotal, hnotDone] at havail'
  omega

/-- A completion that leaves without its signal is not the last event. -/
theorem inFlight_leaves {c c' : Compress} (hs : c.Space) (hdone : c.writeDone = .stored)
    (hg : c.bytesAvail ≤ c.total ∨ 0 < c.inflight ∨ 0 < c.signalling) (h : eventWriteDoneNext c = some c') :
    c'.InFlight := by
  have hnonneg := hs.nonneg
  have havail := hs.avail
  have hbound := hs.bound
  simp only [eventWriteDoneNext, hdone] at h
  split at h
  · next hmore =>
    rw [← Option.some.inj h]
    rcases hg with hroom | hflight | hsig
    · rw [Int.emod_eq_of_lt hnonneg (by omega)] at hmore
      omega
    · exact .inl hflight
    · exact .inr (.inr hsig)
  · rw [← Option.some.inj h]
    exact .inr (.inr (Nat.succ_pos _))

/-- What a poll under way waits for is still there after a step that sends no signal. -/
theorem Compress.Watched.expects_quiet {c c' : Compress} {op : CompressOp} {r : Unit} (hw : c.Watched)
    (hg : pollGuard c op) (he : compressExec op c = some (r, c')) (hs' : c'.Space) (hop : op ≠ .callPoll)
    (hsig : c.signalling ≤ c'.signalling) (hpolled : c.Polled) : c'.bytesAvail < c'.frag ∨ c'.InFlight := by
  have hexp := hw.expects hpolled
  -- nothing is taken away of what there was
  have keep : c'.frag = c.frag → c'.bytesAvail ≤ c.bytesAvail → c.inflight ≤ c'.inflight →
      c'.writeDone = c.writeDone → c'.bytesAvail < c'.frag ∨ c'.InFlight := by
    intro hfrag havail hin hdone
    rcases hexp with h | h | h | h
    · exact .inl (by omega)
    · exact .inr (.inl (by omega))
    · exact .inr (.inr (.inl (hdone ▸ h)))
    · exact .inr (.inr (.inr (by omega)))
  cases spaceMove_of_exec he with
  | same h => exact keep h.frag h.avail.le h.inflight.ge h.writeDone
  | enter hpc h =>
    subst h
    exact keep rfl le_rfl le_rfl rfl
  | data hpc hret hfit h =>
    subst h
    exact keep rfl le_rfl (Nat.le_add_right ..) rfl
  | loads hpc hfree h =>
    subst h
    exact keep rfl le_rfl le_rfl rfl
  | take hpc h =>
    have hle := bytesAvail_take_le hw.space hs' hpc h
    subst h
    exact keep rfl hle le_rfl rfl
  | checks copied hpc h =>
    subst h
    exact keep rfl le_rfl le_rfl rfl
  | halt hpc h =>
    have hstop := hg.2
    simp only [hpc] at hstop
    subst h
    rcases hstop hpolled with h | h | h
    · exact .inl h
    · exact .inr (.inr (.inl h))
    · exact .inr (.inr (.inr h))
  | reset hpc h =>
    have hstop := hg.2
    simp only [hpc] at hstop
    subst h
    exact .inr (.inr (hstop hpolled))
  | done hin hfree h =>
    subst h
    exact .inr (.inr (.inl fun h => (nomatch h)))
  | adds hdone h =>
    subst h
    exact .inr (.inr (.inl fun h => (nomatch h)))
  | leaves hdone _ =>
    obtain ⟨c1, he, hc⟩ := Option.map_eq_some_iff.1 he
    cases hc
    exact .inr (inFlight_leaves hw.space hdone (hg.2 hdone hpolled) he)

/-- The step lemma of the invariant. -/
theorem Compress.Watched.step {c c' : Compress} {op : CompressOp} {r : Unit} (hw : c.Watched) (hg : pollGuard c op)
    (h : compressExec op c = some (r, c')) : c'.Watched := by
  have hmove := spaceMove_of_exec h
  have hspace := hw.space.step hg.1 hmove
  cases pollMove_of_exec h with
  | quiet hop hpolls hsig =>
    refine ⟨hspace, hpolls.trans hw.one, fun hpolled => ?_⟩
    have hne := pollsIn_ne_zero.2 hpolled
    exact hw.expects_quiet hg h hspace hop hsig (pollsIn_ne_zero.1 (by omega))
  | begins hc =>
    obtain ⟨hnot, hexp⟩ := hg.2
    have hzero : pollsIn c.calls = 0 := not_not.1 fun hne => hnot (pollsIn_ne_zero.1 hne)
    refine ⟨hspace, ?_, fun _ => ?_⟩
    · subst hc
      have hsum : pollsIn (c.calls ++ [.poll]) = pollsIn c.calls + 1 := by simp [pollsIn, Pc.polls]
      exact (hsum.trans (by omega)).le
    · subst hc
      exact hexp
  | signal hpolls hwait hsig =>
    have hone := hw.one
    refine ⟨hspace, hpolls.trans hone, fun hpolled => ?_⟩
    have hne := pollsIn_ne_zero.2 hpolled
    -- the poll is not the one that was woken, so it has still to wait
    have hpoll : .poll ∈ c.calls := (pollsIn_ne_zero.1 (by omega)).resolve_right fun hm => by
      have := hwait hm
      omega
    obtain ⟨c1, h, hc⟩ := Option.map_eq_some_iff.1 h
    cases hc
    simp only [eventSignalPoll] at h
    split at h
    · cases h
    · obtain ⟨calls, -, rfl⟩ := Option.map_eq_some_iff.1 h
      rcases hg.2 hpoll with h | h | h | h
      · exact .inl h
      · exact .inr (.inl h)
      · exact .inr (.inr (.inl h))
      · exact .inr (.inr (.inr (by omega)))

end Agm.Plugin
