import Agm.Plugin.Compress

/-!
# The drains of the compress plugin

Two flags stand for all the EOS markers that are under way, so a drain takes the next `EOS_RENDERED` for its own.  It is
its own, or of a marker that is as good, if no marker of a partial drain and none from before the last write is still to
be rendered when the drain issues its EOS.  A drain that finds `eos_received` set does not wait at all: it is right to
return if no such marker was rendered since the flag was cleared, and if the stops do not set it under a write.
-/

namespace Agm.Plugin

open Agm.Lib Agm.Service

/-! ## The drains under way -/

/-- A drain is under way: it holds `eos_lock` or waits. -/
def Pc.inDrain : Pc → Nat
  | .drainEos _ | .drainWait _ => 1
  | _ => 0

def drainsIn (calls : List Pc) : Nat := (calls.map Pc.inDrain).sum

/-- The points of a drain, from the time it has looked at the flag to its return. -/
def Pc.ofDrain : Pc → Bool
  | .drainEos _ | .drainWait _ | .drainWoken _ _ | .drainRet _ _ => true
  | _ => false

/-- A write has cleared `eos_received`, and the service has not accepted it yet. -/
def Pc.accepting : Pc → Bool
  | .writePrepare _ | .writeData _ => true
  | _ => false

theorem inDrain_eq_zero {pc : Pc} (h : pc.ofDrain = false) : pc.inDrain = 0 := by
  cases pc <;> first | rfl | cases h

/-- What a drain may return 0 for: an EOS that was issued after the last write is rendered, or a stop came after the last
write, and it was not the EOS of a partial drain that ended the wait. -/
def Compress.Completed (c : Compress) (since : Nat) (cause : Cause) : Prop :=
  ((∃ n, c.rendered = some n ∧ since ≤ n) ∨ ∃ n, c.lastStop = some n ∧ since ≤ n) ∧
  match cause with
  | .rendered m => m.isPartial = false
  | _ => True

/-- Every drain that has returned 0 was right to do so. -/
def Compress.DrainsRight (c : Compress) : Prop := ∀ since cause, .drainRet since cause ∈ c.calls → c.Completed since cause

/-- What a drain relies on.  When it looks at `eos_received`, no marker of a partial drain, and none from before the last
write, was rendered while no drain waited, since the flag was last cleared or a stop has set it; one drain waits at a
time; the EOS that are still to be rendered when it issues its own are as good as that; a stop sets the flag only while
no write is between clearing it and its acceptance; and no wait ends for no reason. -/
def drainGuard (c : Compress) : CompressOp → Prop
  | .step i ans =>
    match c.calls[i]? with
    | some .drain => (∀ m ∈ c.lateEos, m.isPartial = false ∧ c.writes ≤ m.after) ∧
      (c.eosReceived = false → ∀ pc ∈ c.calls, pc.inDrain = 0)
    | some (.drainEos since) => ans.ret = 0 → ∀ m ∈ c.pending, m.isPartial = false ∧ since ≤ m.after
    | some .stop => ∀ pc ∈ c.calls, pc.accepting = false
    | _ => True
  | .spurious i =>
    match c.calls[i]? with
    | some (.drainWait _) => False
    | _ => True
  | _ => True

instance (c : Compress) (op : CompressOp) : Decidable (drainGuard c op) := by
  unfold drainGuard
  split
  · split <;> infer_instance
  · split <;> infer_instance
  · infer_instance

/-! ## What a step does to the drains -/

/-- Nothing happens to the drains, but for markers that are issued and writes that are accepted. -/
structure Compress.SameDrains (c c' : Compress) : Prop where
  eos : c'.eos = c.eos
  writes : c.writes ≤ c'.writes
  pending : ∃ ms, c'.pending = c.pending ++ ms
  rendered : c'.rendered = c.rendered
  lastStop : c'.lastStop = c.lastStop
  late : ∀ m ∈ c'.lateEos, m ∈ c.lateEos
  stopped : c'.eosReceived = true → c'.lateEos = [] → c.eosReceived = true ∧ c.lateEos = [] ∧
    ((∀ pc ∈ c.calls, pc.accepting = false) → c'.writes = c.writes ∧ ∀ pc ∈ c'.calls, pc.accepting = false)
  mem : ∀ pc ∈ c'.calls, pc.ofDrain → pc ∈ c.calls
  count : drainsIn c'.calls ≤ drainsIn c.calls

/-- Everything a step can do to the drains. -/
inductive Compress.DrainMove (c c' : Compress) : CompressOp → Prop
  | same {op : CompressOp} (h : c.SameDrains c') : c.DrainMove c' op
  | found {i : Nat} {ans : Answer} (hpc : c.calls[i]? = some .drain) (hflag : c.eosReceived = true)
      (h : c' = { c with eosReceived := false, lateEos := [], calls := c.calls.set i (.drainRet c.writes
                    (match c.lateEos with | m :: _ => .rendered m | [] => .stopped)) }) : c.DrainMove c' (.step i ans)
  | begins {i : Nat} {ans : Answer} (hpc : c.calls[i]? = some .drain) (hflag : c.eosReceived = false)
      (h : c' = { c with eos := true, calls := c.calls.set i (.drainEos c.writes) }) : c.DrainMove c' (.step i ans)
  | issues {i : Nat} {ans : Answer} {since : Nat} (hpc : c.calls[i]? = some (.drainEos since)) (hret : ans.ret = 0)
      (h : c' = { c with pending := c.pending ++ [⟨c.writes, false⟩], calls := c.calls.set i (.drainWait since) }) :
      c.DrainMove c' (.step i ans)
  | returns {i : Nat} {ans : Answer} {since : Nat} {cause : Cause} (hpc : c.calls[i]? = some (.drainWoken since cause))
      (h : c' = { c with eosReceived := false, lateEos := [], calls := c.calls.set i (.drainRet since cause) }) :
      c.DrainMove c' (.step i ans)
  | stops {i : Nat} {ans : Answer} {calls : List Pc} (hpc : c.calls[i]? = some .stop) (hfree : c.eosLockFree = true)
      (hcalls : (if c.eos then signal (wakeDrain .stopped) ans.wake c.calls else some c.calls) = some calls)
      (h : c' = { c with calls := calls.set i .stopEarly, eos := false, eosReceived := true, lateEos := [],
                         lastStop := some c.writes }) : c.DrainMove c' (.step i ans)
  | renders {wake : Nat} {m : Marker} {ms : List Marker} (hpending : c.pending = m :: ms) (hfree : c.eosLockFree = true)
      (h : c'.pending = ms ∧ c'.rendered = some (max m.after (c.rendered.getD 0)) ∧ c'.writes = c.writes ∧
        c'.lastStop = c.lastStop ∧ c'.eos = false ∧ (∀ m' ∈ c'.lateEos, m' ∈ c.lateEos ∨ m' = m) ∧
        (c'.eosReceived = true → c'.lateEos = [] → c.eosReceived = true ∧ c.lateEos = []) ∧
        (if c.eos then signal (wakeDrain (.rendered m)) wake c.calls else some c.calls) = some c'.calls) :
      c.DrainMove c' (.eosRendered wake)
  | awakes {i since : Nat} (hpc : c.calls[i]? = some (.drainWait since)) : c.DrainMove c' (.spurious i)

theorem append_nil_exists (ms : List Marker) : ∃ ms', ms = ms ++ ms' := ⟨[], (List.append_nil ms).symm⟩

/-- A call moves on to a point that is none of a drain, and no write is about it. -/
theorem sameDrains_set {c c1 : Compress} (i : Nat) {pc' : Pc} (heos : c1.eos = c.eos) (hwrites : c1.writes = c.writes)
    (hpending : ∃ ms, c1.pending = c.pending ++ ms) (hrendered : c1.rendered = c.rendered)
    (hstop : c1.lastStop = c.lastStop) (hlate : c1.lateEos = c.lateEos) (hflag : c1.eosReceived = c.eosReceived)
    (hmem : ∀ pc ∈ c1.calls, pc.ofDrain ∨ pc.accepting → pc ∈ c.calls) (hcount : drainsIn c1.calls ≤ drainsIn c.calls)
    (hpc' : pc'.ofDrain = false) (haccepting : pc'.accepting = false) :
    c.SameDrains { c1 with calls := c1.calls.set i pc' } := by
  refine ⟨heos, hwrites.ge, hpending, hrendered, hstop, fun m hm => hlate ▸ hm, fun hrec hnil => ?_, ?_, ?_⟩
  · refine ⟨hflag ▸ hrec, hlate ▸ hnil, fun hno => ⟨hwrites, fun pc hpc => ?_⟩⟩
    rcases eq_or_mem_of_mem_set hpc with rfl | hpc
    · exact haccepting
    · by_contra hacc
      rw [Bool.not_eq_false] at hacc
      rw [hno pc (hmem pc hpc (.inr hacc))] at hacc
      cases hacc
  · intro pc hpc hof
    rcases eq_or_mem_of_mem_set hpc with rfl | hpc
    · rw [hpc'] at hof
      cases hof
    · exact hmem pc hpc (.inl hof)
  · exact (sum_map_set_le Pc.inDrain c1.calls i (inDrain_eq_zero hpc')).trans hcount

/-- The same where the calls stay, but for the one that moves on. -/
theorem sameDrains_move {c c1 : Compress} (i : Nat) {pc' : Pc} (heos : c1.eos = c.eos) (hwrites : c1.writes = c.writes)
    (hpending : ∃ ms, c1.pending = c.pending ++ ms) (hrendered : c1.rendered = c.rendered)
    (hstop : c1.lastStop = c.lastStop) (hlate : c1.lateEos = c.lateEos) (hflag : c1.eosReceived = c.eosReceived)
    (hcalls : c1.calls = c.calls) (hpc' : pc'.ofDrain = false) (haccepting : pc'.accepting = false) :
    c.SameDrains { c1 with calls := c1.calls.set i pc' } := by
  refine sameDrains_set i heos hwrites hpending hrendered hstop hlate hflag ?_ ?_ hpc' haccepting
  · rw [hcalls]
    exact fun pc hpc _ => hpc
  · rw [hcalls]

/-- Others are woken, and no marker or write comes. -/
theorem sameDrains_calls {c c' : Compress} (heos : c'.eos = c.eos) (hwrites : c'.writes = c.writes)
    (hpending : c'.pending = c.pending) (hrendered : c'.rendered = c.rendered) (hstop : c'.lastStop = c.lastStop)
    (hlate : c'.lateEos = c.lateEos) (hflag : c'.eosReceived = c.eosReceived)
    (hmem : ∀ pc ∈ c'.calls, pc.ofDrain ∨ pc.accepting → pc ∈ c.calls)
    (hcount : drainsIn c'.calls ≤ drainsIn c.calls) : c.SameDrains c' := by
  refine ⟨heos, hwrites.ge, hpending ▸ append_nil_exists _, hrendered, hstop, fun m hm => hlate ▸ hm, fun hrec hnil => ?_,
    fun pc hpc hof => hmem pc hpc (.inl hof), hcount⟩
  refine ⟨hflag ▸ hrec, hlate ▸ hnil, fun hno => ⟨hwrites, fun pc hpc => ?_⟩⟩
  by_contra hacc
  rw [Bool.not_eq_false] at hacc
  rw [hno pc (hmem pc hpc (.inr hacc))] at hacc
  cases hacc

/-- A signal for others than the drains. -/
theorem drains_signal {wakes : Pc → Option Pc} {i : Nat} {calls calls' : List Pc}
    (hf : ∀ pc pc', wakes pc = some pc' →
      pc.inDrain = 0 ∧ (pc'.ofDrain = false ∧ pc'.accepting = false) ∧ pc'.inDrain = 0)
    (h : signal wakes i calls = some calls') :
    (∀ pc ∈ calls', pc.ofDrain ∨ pc.accepting → pc ∈ calls) ∧ drainsIn calls' ≤ drainsIn calls := by
  constructor
  · intro pc hpc hof
    rcases mem_signal h hpc with hpc | ⟨pc0, -, hw⟩
    · exact hpc
    · rw [(hf _ _ hw).2.1.1, (hf _ _ hw).2.1.2] at hof
      exact hof.elim (fun h => (nomatch h)) (fun h => (nomatch h))
  · rw [drainsIn, drainsIn, map_signal (fun pc pc' hw => (hf pc pc' hw).2.2.trans (hf pc pc' hw).1.symm) h]

theorem wakePartial_notDrain (pc pc' : Pc) (h : wakePartial pc = some pc') :
    pc.inDrain = 0 ∧ (pc'.ofDrain = false ∧ pc'.accepting = false) ∧ pc'.inDrain = 0 := by
  cases pc <;> simp [wakePartial] at h
  subst h
  exact ⟨rfl, ⟨rfl, rfl⟩, rfl⟩

theorem wakePoll_notDrain (pc pc' : Pc) (h : wakePoll pc = some pc') :
    pc.inDrain = 0 ∧ (pc'.ofDrain = false ∧ pc'.accepting = false) ∧ pc'.inDrain = 0 := by
  cases pc <;> simp [wakePoll] at h
  subst h
  exact ⟨rfl, ⟨rfl, rfl⟩, rfl⟩

theorem drainMove_stepWrite {c c1 : Compress} {i : Nat} {ans : Answer} {pc pc' : Pc} (hpc : c.calls[i]? = some pc)
    (h : stepWrite ans c pc = some (pc', c1)) : c.DrainMove { c1 with calls := c1.calls.set i pc' } (.step i ans) := by
  have hkeep : c1.eos = c.eos ∧ c.writes ≤ c1.writes ∧ c1.pending = c.pending ∧ c1.rendered = c.rendered ∧
      c1.lastStop = c.lastStop ∧ c1.calls = c.calls ∧ pc'.ofDrain = false := by
    cases pc <;> simp only [stepWrite] at h <;> grind [Pc.ofDrain]
  -- a write either clears the flag, or is under way and then accepted, or has been accepted before
  have hlate : (∀ m ∈ c1.lateEos, m ∈ c.lateEos) ∧ (c1.eosReceived = true → c1.lateEos = [] →
      c.eosReceived = true ∧ c.lateEos = [] ∧ (pc.accepting = false → c1.writes = c.writes ∧ pc'.accepting = false)) := by
    cases pc <;> simp only [stepWrite] at h <;> grind [Pc.accepting]
  obtain ⟨heos, hwrites, hpending, hrendered, hstop, hcalls, hpc'⟩ := hkeep
  refine .same ⟨heos, hwrites, hpending ▸ append_nil_exists _, hrendered, hstop, hlate.1, fun hrec hnil => ?_, ?_, ?_⟩
  · obtain ⟨hrec, hnil, hnext⟩ := hlate.2 hrec hnil
    refine ⟨hrec, hnil, fun hno => ?_⟩
    obtain ⟨heq, haccepting⟩ := hnext (hno pc (List.mem_of_getElem? hpc))
    refine ⟨heq, fun pc0 hpc0 => ?_⟩
    rcases eq_or_mem_of_mem_set hpc0 with rfl | hpc0
    · exact haccepting
    · exact hno pc0 (hcalls ▸ hpc0)
  · intro pc0 hpc0 hof
    rcases eq_or_mem_of_mem_set hpc0 with rfl | hpc0
    · rw [hpc'] at hof
      cases hof
    · exact hcalls ▸ hpc0
  · rw [hcalls]
    exact sum_map_set_le Pc.inDrain c.calls i (inDrain_eq_zero hpc')

theorem drainMove_stepStop {c c1 : Compress} {i : Nat} {ans : Answer} {pc pc' : Pc} (hpc : c.calls[i]? = some pc)
    (h : stepStop ans c pc = some (pc', c1)) : c.DrainMove { c1 with calls := c1.calls.set i pc' } (.step i ans) := by
  cases pc with
  | stop =>
    simp only [stepStop] at h
    split at h
    · next hfree =>
      obtain ⟨calls, hs, h⟩ := Option.map_eq_some_iff.1 h
      cases h
      exact .stops hpc hfree hs rfl
    · cases h
  | stopEarly =>
    simp only [stepStop] at h
    split at h
    · obtain ⟨calls, hs, h⟩ := Option.map_eq_some_iff.1 h
      cases h
      have hdrains : (∀ pc ∈ calls, pc.ofDrain ∨ pc.accepting → pc ∈ c.calls) ∧ drainsIn calls ≤ drainsIn c.calls := by
        split at hs
        · exact drains_signal wakePartial_notDrain hs
        · rw [← Option.some.inj hs]
          exact ⟨fun pc hpc _ => hpc, le_rfl⟩
      exact .same (sameDrains_set i rfl rfl (append_nil_exists _) rfl rfl rfl rfl hdrains.1 hdrains.2 rfl rfl)
    · cases h
  | stopPoll =>
    obtain ⟨calls, hs, h⟩ := Option.map_eq_some_iff.1 h
    cases h
    have hdrains := drains_signal wakePoll_notDrain hs
    exact .same (sameDrains_set i rfl rfl (append_nil_exists _) rfl rfl rfl rfl hdrains.1 hdrains.2 rfl rfl)
  | stopSession =>
    simp only [stepStop] at h
    split at h <;> cases h
    · exact .same (sameDrains_move i rfl rfl (append_nil_exists _) rfl rfl rfl rfl rfl rfl rfl)
    · exact .same (sameDrains_move i rfl rfl (append_nil_exists _) rfl rfl rfl rfl rfl rfl rfl)
  | stopReset =>
    cases h
    exact .same (sameDrains_move i rfl rfl (append_nil_exists _) rfl rfl rfl rfl rfl rfl rfl)
  | _ => cases h

theorem drainMove_stepDrain {c c1 : Compress} {i : Nat} {ans : Answer} {pc pc' : Pc} (hpc : c.calls[i]? = some pc)
    (h : stepDrain ans c pc = some (pc', c1)) : c.DrainMove { c1 with calls := c1.calls.set i pc' } (.step i ans) := by
  cases pc with
  | drain =>
    simp only [stepDrain] at h
    split at h
    · split at h
      · next hflag =>
        cases h
        exact .found hpc hflag rfl
      · next hflag =>
        cases h
        exact .begins hpc (Bool.eq_false_iff.2 hflag) rfl
    · cases h
  | drainEos since =>
    simp only [stepDrain] at h
    split at h
    · cases h
      exact .same (sameDrains_move i rfl rfl (append_nil_exists _) rfl rfl rfl rfl rfl rfl rfl)
    · next hret =>
      cases h
      exact .issues hpc (not_not.1 hret) rfl
  | drainWoken since cause =>
    simp only [stepDrain] at h
    split at h <;> cases h
    exact .returns hpc rfl
  | _ => cases h

theorem drainMove_stepPartialDrain {c c1 : Compress} {i : Nat} {ans : Answer} {pc pc' : Pc}
    (h : stepPartialDrain ans c pc = some (pc', c1)) :
    c.DrainMove { c1 with calls := c1.calls.set i pc' } (.step i ans) := by
  cases pc with
  | partialDrain =>
    simp only [stepPartialDrain] at h
    split at h <;> cases h
    exact .same (sameDrains_move i rfl rfl (append_nil_exists _) rfl rfl rfl rfl rfl rfl rfl)
  | partialEos =>
    simp only [stepPartialDrain] at h
    split at h <;> cases h
    · exact .same (sameDrains_move i rfl rfl (append_nil_exists _) rfl rfl rfl rfl rfl rfl rfl)
    · exact .same (sameDrains_move i rfl rfl ⟨_, rfl⟩ rfl rfl rfl rfl rfl rfl rfl)
  | partialWoken =>
    simp only [stepPartialDrain] at h
    split at h <;> cases h
    exact .same (sameDrains_move i rfl rfl (append_nil_exists _) rfl rfl rfl rfl rfl rfl rfl)
  | _ => cases h

theorem drainMove_stepCall {c c1 : Compress} {i : Nat} {ans : Answer} {pc pc' : Pc} (hpc : c.calls[i]? = some pc)
    (h : stepCall ans c pc = some (pc', c1)) : c.DrainMove { c1 with calls := c1.calls.set i pc' } (.step i ans) := by
  cases pc with
  | write | writePrepare | writeData | wrote | taking | taken =>
    simp only [stepCall] at h
    exact drainMove_stepWrite hpc h
  | stop | stopEarly | stopPoll | stopSession | stopReset => exact drainMove_stepStop hpc h
  | poll =>
    cases h
    exact .same (sameDrains_move i rfl rfl (append_nil_exists _) rfl rfl rfl rfl rfl rfl rfl)
  | drain | drainEos | drainWoken => exact drainMove_stepDrain hpc h
  | partialDrain | partialEos | partialWoken =>
    simp only [stepCall] at h
    exact drainMove_stepPartialDrain h
  | _ => cases h

theorem drainMove_eosRendered {c c' : Compress} {wake : Nat} (h : eventEosRendered wake c = some c') :
    c.DrainMove c' (.eosRendered wake) := by
  unfold eventEosRendered at h
  split at h
  · cases h
  · next m ms hpending =>
    split at h
    · next hfree =>
      simp only at h
      split at h
      · next heos =>
        obtain ⟨calls, hs, rfl⟩ := Option.map_eq_some_iff.1 h
        refine .renders hpending hfree.2 ⟨rfl, rfl, rfl, rfl, rfl, fun m' hm' => .inl hm', fun hr hn => ⟨hr, hn⟩, ?_⟩
        rw [if_pos heos]
        exact hs
      · next heos =>
        rw [← Option.some.inj h]
        refine .renders hpending hfree.2 ⟨rfl, rfl, rfl, rfl, Bool.eq_false_iff.2 heos, ?_, ?_, ?_⟩
        · dsimp only
          split
          · exact fun m' hm' => absurd hm' List.not_mem_nil
          · exact fun m' hm' => (List.mem_append.1 hm').imp id List.mem_singleton.1
        · dsimp only
          split
          · next hstop => exact fun _ _ => hstop
          · exact fun _ hn => absurd hn (List.append_ne_nil_of_right_ne_nil _ (List.cons_ne_nil _ _))
        · rw [if_neg heos]
    · cases h

/-- The step lemma: whatever happens, the drains move as `DrainMove` says. -/
theorem drainMove_of_exec {c c' : Compress} {op : CompressOp} {r : Unit} (h : compressExec op c = some (r, c')) :
    c.DrainMove c' op := by
  obtain ⟨c1, h, hc⟩ := Option.map_eq_some_iff.1 h
  cases hc
  cases op with
  | callWrite | callStop | callPoll | callDrain | callPartialDrain =>
    rw [← Option.some.inj h]
    refine .same ⟨rfl, le_rfl, append_nil_exists _, rfl, rfl, fun _ hm => hm, fun hr hn => ⟨hr, hn, fun hno => ⟨rfl, ?_⟩⟩,
      ?_, ?_⟩
    · intro pc hpc
      rcases List.mem_append.1 hpc with hpc | hpc
      · exact hno pc hpc
      · rw [List.mem_singleton.1 hpc]
        rfl
    · intro pc hpc hof
      rcases List.mem_append.1 hpc with hpc | hpc
      · exact hpc
      · rw [List.mem_singleton.1 hpc] at hof
        cases hof
    · show drainsIn (c.calls ++ [_]) ≤ drainsIn c.calls
      simp [drainsIn, Pc.inDrain]
  | step i ans =>
    obtain ⟨pc, hpc, h⟩ := Option.bind_eq_some_iff.1 h
    obtain ⟨p, hp, rfl⟩ := Option.map_eq_some_iff.1 h
    exact drainMove_stepCall hpc hp
  | writeDone =>
    simp only [eventWriteDone] at h
    split at h <;> cases h
    exact .same (sameDrains_calls rfl rfl rfl rfl rfl rfl rfl (fun _ hpc _ => hpc) le_rfl)
  | writeDoneNext =>
    simp only [eventWriteDoneNext] at h
    split at h
    · cases h
    · cases h
      exact .same (sameDrains_calls rfl rfl rfl rfl rfl rfl rfl (fun _ hpc _ => hpc) le_rfl)
    · split at h <;> cases h
      · exact .same (sameDrains_calls rfl rfl rfl rfl rfl rfl rfl (fun _ hpc _ => hpc) le_rfl)
      · exact .same (sameDrains_calls rfl rfl rfl rfl rfl rfl rfl (fun _ hpc _ => hpc) le_rfl)
  | eosRendered wake => exact drainMove_eosRendered h
  | earlyEos wake =>
    simp only [eventEarlyEos] at h
    split at h
    · split at h
      · obtain ⟨calls, hs, rfl⟩ := Option.map_eq_some_iff.1 h
        obtain ⟨hmem, hcount⟩ := drains_signal wakePartial_notDrain hs
        exact .same (sameDrains_calls rfl rfl rfl rfl rfl rfl rfl hmem hcount)
      · rw [← Option.some.inj h]
        exact .same (sameDrains_calls rfl rfl rfl rfl rfl rfl rfl (fun _ hpc _ => hpc) le_rfl)
    · cases h
  | signalPoll wake =>
    simp only [eventSignalPoll] at h
    split at h
    · cases h
    · obtain ⟨calls, hs, rfl⟩ := Option.map_eq_some_iff.1 h
      obtain ⟨hmem, hcount⟩ := drains_signal wakePoll_notDrain hs
      exact .same (sameDrains_calls rfl rfl rfl rfl rfl rfl rfl hmem hcount)
  | spurious i =>
    obtain ⟨pc, hpc, h⟩ := Option.bind_eq_some_iff.1 h
    obtain ⟨pc', hw, rfl⟩ := Option.map_eq_some_iff.1 h
    cases pc <;> simp [wakeSpurious] at hw
    · subst hw
      exact .same (sameDrains_move i rfl rfl (append_nil_exists _) rfl rfl rfl rfl rfl rfl rfl)
    · exact .awakes hpc
    · subst hw
      exact .same (sameDrains_move i rfl rfl (append_nil_exists _) rfl rfl rfl rfl rfl rfl rfl)

/-! ## The invariant -/

/-- Whoever waits for `eos_cond` is woken by a marker that is good for it, and whoever was woken was woken for good. -/
structure Compress.Drains (c : Compress) : Prop where
  stop_le : ∀ n, c.lastStop = some n → n ≤ c.writes
  late : ∀ m ∈ c.lateEos, ∃ n, c.rendered = some n ∧ m.after ≤ n
  stopped : c.eosReceived = true → c.lateEos = [] →
    c.lastStop = some c.writes ∧ ∀ pc ∈ c.calls, pc.accepting = false
  one : drainsIn c.calls ≤ 1
  eos : ∀ since, .drainEos since ∈ c.calls → c.eos = true ∧ since ≤ c.writes
  wait : ∀ since, .drainWait since ∈ c.calls → c.eos = true ∧ since ≤ c.writes ∧
    ∃ m ms, c.pending = m :: ms ∧ m.isPartial = false ∧ since ≤ m.after
  woken : ∀ since cause, .drainWoken since cause ∈ c.calls → c.Completed since cause
  ret : ∀ since cause, .drainRet since cause ∈ c.calls → c.Completed since cause

/-- What is completed stays so. -/
theorem Compress.Completed.mono {c c' : Compress} {since : Nat} {cause : Cause} (h : c.Completed since cause)
    (hrendered : ∀ n, c.rendered = some n → ∃ n', c'.rendered = some n' ∧ n ≤ n')
    (hstop : ∀ n, c.lastStop = some n → ∃ n', c'.lastStop = some n' ∧ n ≤ n') : c'.Completed since cause := by
  refine ⟨?_, h.2⟩
  rcases h.1 with ⟨n, hn, hle⟩ | ⟨n, hn, hle⟩
  · obtain ⟨n', hn', hle'⟩ := hrendered n hn
    exact .inl ⟨n', hn', hle.trans hle'⟩
  · obtain ⟨n', hn', hle'⟩ := hstop n hn
    exact .inr ⟨n', hn', hle.trans hle'⟩

theorem Compress.SameDrains.drains {c c' : Compress} (h : c.SameDrains c') (hd : c.Drains) : c'.Drains := by
  have hcompleted : ∀ {since cause}, c.Completed since cause → c'.Completed since cause := fun hc =>
    hc.mono (fun n hn => ⟨n, h.rendered ▸ hn, le_rfl⟩) (fun n hn => ⟨n, h.lastStop ▸ hn, le_rfl⟩)
  refine ⟨?_, ?_, ?_, h.count.trans hd.one, ?_, ?_, ?_, ?_⟩
  · intro n hn
    rw [h.lastStop] at hn
    exact (hd.stop_le n hn).trans h.writes
  · intro m hm
    rw [h.rendered]
    exact hd.late m (h.late m hm)
  · intro hrec hnil
    obtain ⟨hrec, hnil, hnext⟩ := h.stopped hrec hnil
    obtain ⟨hstop, hno⟩ := hd.stopped hrec hnil
    obtain ⟨hwrites, hno'⟩ := hnext hno
    rw [h.lastStop, hwrites]
    exact ⟨hstop, hno'⟩
  · intro since hmem
    obtain ⟨heos, hle⟩ := hd.eos since (h.mem _ hmem rfl)
    exact ⟨h.eos ▸ heos, hle.trans h.writes⟩
  · intro since hmem
    obtain ⟨heos, hle, m, ms, hpending, hpartial, hafter⟩ := hd.wait since (h.mem _ hmem rfl)
    obtain ⟨ms', hms'⟩ := h.pending
    refine ⟨h.eos ▸ heos, hle.trans h.writes, m, ms ++ ms', ?_, hpartial, hafter⟩
    rw [hms', hpending]
    rfl
  · exact fun since cause hmem => hcompleted (hd.woken since cause (h.mem _ hmem rfl))
  · exact fun since cause hmem => hcompleted (hd.ret since cause (h.mem _ hmem rfl))

section

variable {c c' : Compress} {i : Nat}

/-- The calls of a state in which one call has moved on, with nothing else of the drains changed. -/
theorem Compress.Drains.set {pc' : Pc} (hd : c.Drains)
    (hcalls : c'.calls = c.calls.set i pc') (hpending : ∃ ms, c'.pending = c.pending ++ ms)
    (hwrites : c'.writes = c.writes) (hrendered : c'.rendered = c.rendered) (hstop : c'.lastStop = c.lastStop)
    (hflag : c'.eosReceived = c.eosReceived ∧ c'.lateEos = c.lateEos ∨ c'.eosReceived = false ∧ c'.lateEos = [])
    (haccepting : pc'.accepting = false) (hone : drainsIn c'.calls ≤ 1)
    (heos : c.eos = true → c'.eos = true)
    (hneweos : ∀ since, pc' = .drainEos since → c'.eos = true ∧ since ≤ c.writes)
    (hnewwait : ∀ since, pc' = .drainWait since → c'.eos = true ∧ since ≤ c.writes ∧
      ∃ m ms, c'.pending = m :: ms ∧ m.isPartial = false ∧ since ≤ m.after)
    (hnewret : ∀ since cause, pc' = .drainRet since cause → c.Completed since cause)
    (hnewwoken : ∀ since cause, pc' ≠ .drainWoken since cause) : c'.Drains := by
  have hcompleted : ∀ {since cause}, c.Completed since cause → c'.Completed since cause := fun hc =>
    hc.mono (fun n hn => ⟨n, hrendered ▸ hn, le_rfl⟩) (fun n hn => ⟨n, hstop ▸ hn, le_rfl⟩)
  have hmem : ∀ pc0 ∈ c'.calls, pc0 = pc' ∨ pc0 ∈ c.calls := by
    rw [hcalls]
    exact fun pc0 => eq_or_mem_of_mem_set
  refine ⟨?_, ?_, ?_, hone, ?_, ?_, ?_, ?_⟩
  · rw [hstop, hwrites]
    exact hd.stop_le
  · rcases hflag with ⟨-, hlate⟩ | ⟨-, hlate⟩
    · rw [hlate, hrendered]
      exact hd.late
    · rw [hlate]
      exact fun m hm => absurd hm List.not_mem_nil
  · intro hrec hnil
    rcases hflag with ⟨hflag, hlate⟩ | ⟨hflag, -⟩
    · rw [hstop, hwrites]
      obtain ⟨hstop, hno⟩ := hd.stopped (hflag ▸ hrec) (hlate ▸ hnil)
      refine ⟨hstop, fun pc hpc => ?_⟩
      rcases hmem pc hpc with rfl | hpc
      · exact haccepting
      · exact hno pc hpc
    · rw [hflag] at hrec
      cases hrec
  · intro since hm
    rw [hwrites]
    rcases hmem _ hm with h | h
    · exact hneweos since h.symm
    · exact ⟨heos (hd.eos since h).1, (hd.eos since h).2⟩
  · intro since hm
    rw [hwrites]
    rcases hmem _ hm with h | h
    · exact hnewwait since h.symm
    · obtain ⟨he, hle, m, ms, hms, hpartial, hafter⟩ := hd.wait since h
      obtain ⟨ms', hms'⟩ := hpending
      refine ⟨heos he, hle, m, ms ++ ms', ?_, hpartial, hafter⟩
      rw [hms', hms]
      rfl
  · intro since cause hm
    rcases hmem _ hm with h | h
    · exact absurd h.symm (hnewwoken since cause)
    · exact hcompleted (hd.woken since cause h)
  · intro since cause hm
    rcases hmem _ hm with h | h
    · exact hcompleted (hnewret since cause h.symm)
    · exact hcompleted (hd.ret since cause h)

theorem drainEos_not_mem (hfree : c.eosLockFree = true) (since : Nat) : .drainEos since ∉ c.calls := by
  intro hmem
  simp only [Compress.eosLockFree, Bool.not_eq_true'] at hfree
  exact List.any_eq_false.1 hfree _ hmem rfl

theorem wakeDrain_counts {cause : Cause} (pc pc' : Pc) (h : wakeDrain cause pc = some pc') :
    pc.inDrain = 1 ∧ pc'.inDrain = 0 := by
  cases pc <;> simp [wakeDrain] at h
  subst h
  exact ⟨rfl, rfl⟩

/-- The calls after `eos_cond` is signalled, if `eos` says that a drain waits: the one drain there was is woken. -/
structure DrainEnds (calls calls' : List Pc) (cause : Cause) : Prop where
  eos : ∀ since, .drainEos since ∉ calls'
  wait : ∀ since, .drainWait since ∉ calls'
  one : drainsIn calls' ≤ 1
  woken : ∀ since cause', .drainWoken since cause' ∈ calls' →
    .drainWoken since cause' ∈ calls ∨ cause' = cause ∧ .drainWait since ∈ calls
  ret : ∀ since cause', .drainRet since cause' ∈ calls' → .drainRet since cause' ∈ calls
  accepting : ∀ pc ∈ calls', pc.accepting = true → pc ∈ calls

theorem Compress.Drains.ends {calls : List Pc} {cause : Cause} {wake : Nat} (hd : c.Drains)
    (hfree : c.eosLockFree = true)
    (hcalls : (if c.eos then signal (wakeDrain cause) wake c.calls else some c.calls) = some calls) :
    DrainEnds c.calls calls cause := by
  split at hcalls
  · have hmem : ∀ pc ∈ calls, pc ∈ c.calls ∨ ∃ since, pc = .drainWoken since cause ∧ .drainWait since ∈ c.calls := by
      intro pc hpc
      rcases mem_signal hcalls hpc with h | ⟨pc0, hpc0, hw⟩
      · exact .inl h
      · cases pc0 <;> simp [wakeDrain] at hw
        exact .inr ⟨_, hw.symm, hpc0⟩
    refine ⟨?_, ?_, ?_, ?_, ?_, ?_⟩
    · intro since hm
      rcases hmem _ hm with h | ⟨_, h, -⟩
      · exact drainEos_not_mem hfree since h
      · cases h
    · exact fun since => signal_eq_zero Pc.inDrain wakeDrain_counts hd.one hcalls rfl
    · refine le_trans (sum_map_signal_le Pc.inDrain (fun pc pc' hw => ?_) hcalls) hd.one
      rw [(wakeDrain_counts pc pc' hw).2]
      exact Nat.zero_le _
    · intro since cause' hm
      rcases hmem _ hm with h | ⟨_, h, hwait⟩
      · exact .inl h
      · cases h
        exact .inr ⟨rfl, hwait⟩
    · intro since cause' hm
      rcases hmem _ hm with h | ⟨_, h, -⟩
      · exact h
      · cases h
    · intro pc hpc hacc
      rcases hmem _ hpc with h | ⟨_, rfl, -⟩
      · exact h
      · cases hacc
  · next heos =>
    rw [← Option.some.inj hcalls]
    -- a drain that waits has set the flag
    exact ⟨drainEos_not_mem hfree, fun since hm => heos (hd.wait since hm).1, hd.one, fun _ _ => .inl, fun _ _ h => h,
      fun _ h _ => h⟩

/-- A stop has signalled the drain. -/
theorem Compress.Drains.stops {ans : Answer} {calls : List Pc} (hd : c.Drains) (hfree : c.eosLockFree = true)
    (hno : ∀ pc ∈ c.calls, pc.accepting = false)
    (hcalls : (if c.eos then signal (wakeDrain .stopped) ans.wake c.calls else some c.calls) = some calls)
    (h : c' = { c with calls := calls.set i .stopEarly, eos := false, eosReceived := true, lateEos := [],
                       lastStop := some c.writes }) : c'.Drains := by
  have hends := hd.ends hfree hcalls
  have hcompleted : ∀ {since cause}, c.Completed since cause → c'.Completed since cause := by
    subst h
    exact fun hc => hc.mono (fun n hn => ⟨n, hn, le_rfl⟩) (fun n hn => ⟨_, rfl, hd.stop_le n hn⟩)
  have hmem : ∀ pc ∈ c'.calls, pc = .stopEarly ∨ pc ∈ calls := by
    rw [h]
    exact fun pc => eq_or_mem_of_mem_set
  have hnot : ∀ {pc}, pc ≠ .stopEarly → pc ∉ calls → pc ∉ c'.calls := fun hne hout hm =>
    (hmem _ hm).elim hne hout
  have hin : ∀ {pc}, pc ≠ .stopEarly → pc ∈ c'.calls → pc ∈ calls := fun hne hm =>
    (hmem _ hm).resolve_left hne
  refine ⟨?_, ?_, fun _ _ => ⟨?_, fun pc hpc => ?_⟩, ?_, fun since hm => ?_, fun since hm => ?_, fun since cause hm => ?_,
    fun since cause hm => ?_⟩
  · subst h
    rintro n ⟨⟩
    exact le_rfl
  · subst h
    rintro m ⟨⟩
  · rw [h]
  · rcases hmem pc hpc with rfl | hpc
    · rfl
    · by_contra hacc
      rw [Bool.not_eq_false] at hacc
      rw [hno pc (hends.accepting pc hpc hacc)] at hacc
      cases hacc
  · refine le_trans ?_ hends.one
    subst h
    exact sum_map_set_le Pc.inDrain calls i rfl
  · exact absurd hm (hnot (fun h => (nomatch h)) (hends.eos since))
  · exact absurd hm (hnot (fun h => (nomatch h)) (hends.wait since))
  · rcases hends.woken since cause (hin (fun h => (nomatch h)) hm) with hold | ⟨rfl, hwait⟩
    · exact hcompleted (hd.woken since cause hold)
    · refine ⟨.inr ⟨c.writes, ?_, (hd.wait since hwait).2.1⟩, trivial⟩
      rw [h]
  · exact hcompleted (hd.ret since cause (hends.ret since cause (hin (fun h => (nomatch h)) hm)))

/-- The next marker is rendered. -/
theorem Compress.Drains.renders {wake : Nat} {m : Marker} {ms : List Marker} (hd : c.Drains)
    (hpending : c.pending = m :: ms) (hfree : c.eosLockFree = true)
    (hrendered : c'.rendered = some (max m.after (c.rendered.getD 0))) (hwrites : c'.writes = c.writes)
    (hstop : c'.lastStop = c.lastStop) (hlate : ∀ m' ∈ c'.lateEos, m' ∈ c.lateEos ∨ m' = m)
    (hstopped : c'.eosReceived = true → c'.lateEos = [] → c.eosReceived = true ∧ c.lateEos = [])
    (hcalls : (if c.eos then signal (wakeDrain (.rendered m)) wake c.calls else some c.calls) = some c'.calls) :
    c'.Drains := by
  have hends := hd.ends hfree hcalls
  have hgrows : ∀ n, c.rendered = some n → ∃ n', c'.rendered = some n' ∧ n ≤ n' := by
    intro n hn
    refine ⟨_, hrendered, ?_⟩
    rw [hn]
    exact le_max_right ..
  have hcompleted : ∀ {since cause}, c.Completed since cause → c'.Completed since cause := fun hc =>
    hc.mono hgrows (fun n hn => ⟨n, hstop ▸ hn, le_rfl⟩)
  refine ⟨?_, ?_, fun hrec hnil => ?_, hends.one, fun since hm => absurd hm (hends.eos since),
    fun since hm => absurd hm (hends.wait since), fun since cause hm => ?_,
    fun since cause hm => hcompleted (hd.ret since cause (hends.ret since cause hm))⟩
  · rw [hstop, hwrites]
    exact hd.stop_le
  · intro m' hm'
    rcases hlate m' hm' with hm' | rfl
    · obtain ⟨n, hn, hle⟩ := hd.late m' hm'
      obtain ⟨n', hn', hle'⟩ := hgrows n hn
      exact ⟨n', hn', hle.trans hle'⟩
    · exact ⟨_, hrendered, le_max_left ..⟩
  · obtain ⟨hrec, hnil⟩ := hstopped hrec hnil
    obtain ⟨hstopped, hno⟩ := hd.stopped hrec hnil
    rw [hstop, hwrites]
    refine ⟨hstopped, fun pc hpc => ?_⟩
    by_contra hacc
    rw [Bool.not_eq_false] at hacc
    rw [hno pc (hends.accepting pc hpc hacc)] at hacc
    cases hacc
  · rcases hends.woken since cause hm with hold | ⟨rfl, hwait⟩
    · exact hcompleted (hd.woken since cause hold)
    · obtain ⟨-, -, m', ms', hpending', hpartial, hafter⟩ := hd.wait since hwait
      rw [hpending] at hpending'
      cases hpending'
      exact ⟨.inl ⟨_, hrendered, hafter.trans (le_max_left ..)⟩, hpartial⟩

/-- The step lemma of the invariant. -/
theorem Compress.Drains.step {op : CompressOp} (hd : c.Drains) (hg : drainGuard c op) (h : c.DrainMove c' op) :
    c'.Drains := by
  cases h with
  | same h => exact h.drains hd
  | found hpc hflag h =>
    simp only [drainGuard, hpc] at hg
    subst h
    refine hd.set rfl (append_nil_exists _) rfl rfl rfl (.inr ⟨rfl, rfl⟩) rfl ?_ (fun h => h) (fun _ h => (nomatch h))
      (fun _ h => (nomatch h)) ?_ (fun _ _ h => (nomatch h))
    · exact (sum_map_set_le Pc.inDrain c.calls _ rfl).trans hd.one
    · rintro since cause ⟨⟩
      cases hlate : c.lateEos with
      | nil => exact ⟨.inr ⟨c.writes, (hd.stopped hflag hlate).1, le_rfl⟩, trivial⟩
      | cons m ms =>
        have hm : m ∈ c.lateEos := hlate ▸ List.mem_cons_self ..
        obtain ⟨n, hn, hle⟩ := hd.late m hm
        exact ⟨.inl ⟨n, hn, (hg.1 m hm).2.trans hle⟩, (hg.1 m hm).1⟩
  | @begins i ans hpc hflag h =>
    simp only [drainGuard, hpc] at hg
    subst h
    have hzero : drainsIn c.calls = 0 := by
      refine List.sum_eq_zero fun n hn => ?_
      obtain ⟨pc, hpc, rfl⟩ := List.mem_map.1 hn
      exact hg.2 hflag pc hpc
    refine hd.set rfl (append_nil_exists _) rfl rfl rfl (.inl ⟨rfl, rfl⟩) rfl ?_ (fun _ => rfl) ?_ (fun _ h => (nomatch h))
      (fun _ _ h => (nomatch h)) (fun _ _ h => (nomatch h))
    · have hsum : drainsIn (c.calls.set i (.drainEos c.writes)) + 0 = drainsIn c.calls + 1 :=
        sum_map_set Pc.inDrain (.drainEos c.writes) hpc
      exact hsum.le.trans (by omega)
    · rintro since ⟨⟩
      exact ⟨rfl, le_rfl⟩
  | @issues i ans since hpc hret h =>
    simp only [drainGuard, hpc] at hg
    obtain ⟨heos, hle⟩ := hd.eos _ (List.mem_of_getElem? hpc)
    subst h
    refine hd.set rfl ⟨_, rfl⟩ rfl rfl rfl (.inl ⟨rfl, rfl⟩) rfl ?_ (fun h => h) (fun _ h => (nomatch h)) ?_
      (fun _ _ h => (nomatch h)) (fun _ _ h => (nomatch h))
    · have hsum : drainsIn (c.calls.set i (.drainWait since)) + 1 = drainsIn c.calls + 1 :=
        sum_map_set Pc.inDrain (.drainWait since) hpc
      exact (Nat.add_right_cancel hsum).le.trans hd.one
    · rintro _ ⟨⟩
      refine ⟨heos, hle, ?_⟩
      -- the next marker to be rendered is its own, or one that was there and is good for it
      cases hpending : c.pending with
      | nil => exact ⟨_, [], rfl, rfl, hle⟩
      | cons m ms => exact ⟨m, _, rfl, hg hret m (hpending ▸ List.mem_cons_self ..)⟩
  | returns hpc h =>
    have hwoken := hd.woken _ _ (List.mem_of_getElem? hpc)
    subst h
    refine hd.set rfl (append_nil_exists _) rfl rfl rfl (.inr ⟨rfl, rfl⟩) rfl ?_ (fun h => h) (fun _ h => (nomatch h))
      (fun _ h => (nomatch h)) ?_ (fun _ _ h => (nomatch h))
    · exact (sum_map_set_le Pc.inDrain c.calls _ rfl).trans hd.one
    · rintro since cause ⟨⟩
      exact hwoken
  | stops hpc hfree hcalls h =>
    simp only [drainGuard, hpc] at hg
    exact hd.stops hfree hg hcalls h
  | renders hpending hfree h =>
    obtain ⟨-, hrendered, hwrites, hstop, -, hlate, hstopped, hcalls⟩ := h
    exact hd.renders hpending hfree hrendered hwrites hstop hlate hstopped hcalls
  | awakes hpc =>
    simp only [drainGuard, hpc] at hg

end

/-- **Drains return for their own EOS.**  In every run whose steps meet `drainGuard` every drain that has returned 0 has
done so after an EOS from after the last write was rendered, or after a stop, and never for the EOS of a partial
drain. -/
theorem drains_right {fragmentSize fragments : Nat} {t : Compress}
    (h : Runs compressExec drainGuard (agmCompressSetParams fragmentSize fragments) t) : t.DrainsRight := by
  have hd : t.Drains := by
    refine h.invariant ⟨fun _ h => (nomatch h), fun _ h => (nomatch h), fun h => (nomatch h), Nat.zero_le _, fun _ h => (nomatch h),
      fun _ h => (nomatch h), fun _ _ h => (nomatch h), fun _ _ h => (nomatch h)⟩ ?_
    exact fun c op r c' hd hg he => hd.step hg (drainMove_of_exec he)
  exact hd.ret

/-- A write, a drain, and its EOS. -/
theorem drains_right_plain : ∃ t, Runs compressExec drainGuard (agmCompressSetParams 4 2) t ∧
    t.calls = [.writeRet 4, .drainRet 1 (.rendered ⟨1, false⟩)] ∧ t.DrainsRight := by
  obtain ⟨t, hr, ht⟩ := Runs.exists_of_execAll compressExec drainGuard
    [.callWrite 4, .step 0 {}, .step 0 {}, .step 0 { size := 4 }, .step 0 {}, .step 0 {}, .step 0 {}, .callDrain, .step 1 {}, .step 1 {},
      .eosRendered 1, .step 1 {}] (agmCompressSetParams 4 2) Compress.calls
    (b := [.writeRet 4, .drainRet 1 (.rendered ⟨1, false⟩)]) (by decide +kernel)
  exact ⟨t, hr, ht, drains_right hr⟩

/-- A track ends with a partial drain, which returns with the early EOS; the next track is written and drained, and only
then is the EOS of the first rendered: the drain returns with nothing of the second track rendered. -/
theorem drain_ended_by_partial : ∃ t, Runs compressExec (fun _ _ => True) (agmCompressSetParams 4 2) t ∧
    .drainRet 2 (.rendered ⟨1, true⟩) ∈ t.calls ∧ (t.rendered, t.lastStop) = (some 1, none) ∧ ¬ t.DrainsRight := by
  obtain ⟨t, hr, ht⟩ := Runs.exists_of_execAll compressExec (fun _ _ => True)
    [.callWrite 4, .step 0 {}, .step 0 {}, .step 0 { size := 4 }, .step 0 {}, .step 0 {}, .step 0 {}, .callPartialDrain,
      .step 1 {}, .step 1 {}, .earlyEos 1, .step 1 {}, .callWrite 4, .step 2 {}, .step 2 { size := 4 }, .step 2 {},
      .step 2 {}, .step 2 {}, .callDrain, .step 3 {}, .step 3 {}, .eosRendered 3, .step 3 {}] (agmCompressSetParams 4 2)
    (fun t => decide (.drainRet 2 (.rendered ⟨1, true⟩) ∈ t.calls ∧ (t.rendered, t.lastStop) = (some 1, none)))
    (b := true) (by decide +kernel)
  obtain ⟨hmem, hseen⟩ := of_decide_eq_true ht
  exact ⟨t, hr, hmem, hseen, fun h => absurd (h _ _ hmem).2 (by decide)⟩

end Agm.Plugin
