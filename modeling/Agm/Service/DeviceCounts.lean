import Agm.Lib.History
import Agm.Lib.Runs
import Agm.Service.Device

/-!
# The counts of a PCM device

The five calls of `device.c` on bare counts, with nothing known about them: what `Device` builds into its objects is
derived here from the code, over every sequence of calls.  At the end of the module the calls of `Device` are compared
with these.
-/

namespace Agm.Service

open Agm.Lib

/-! ## One object -/

/-- The counts and the state of `struct device_obj`. -/
structure PcmCounts where
  refcnt : Refcount := {}
  state : DevState := .closed
  deriving DecidableEq, Repr

/-- What is called on the PCM. -/
inductive PcmCall
  | open | prepare | stop | close
  deriving DecidableEq, Repr

inductive DevFun
  | open | prepare | start | stop | close
  deriving DecidableEq, Repr

/-- What a function does under the lock of its object: its return code, the object, the call it makes, and what it does
to the counts of the group. -/
structure DevEffect where
  ret : Int
  obj : PcmCounts
  call : Option PcmCall := none
  group : Refcount → Refcount := id

namespace PcmCounts

variable (answer : Int) (obj : PcmCounts)

/-- `device_open`; the PCM is opened and ready if the answer is zero. -/
def deviceOpen : DevEffect :=
  if obj.refcnt.nOpen ≠ 0 then { ret := 0, obj := { obj with refcnt := obj.refcnt.incOpen }, group := .incOpen }
  else if answer ≠ 0 then { ret := - EIO, obj := obj, call := some .open }
  else { ret := 0, obj := ⟨obj.refcnt.incOpen, .opened⟩, call := some .open, group := .incOpen }

/-- `device_prepare`. -/
def devicePrepare : DevEffect :=
  if obj.refcnt.nPrepare ≠ 0 then
    { ret := 0, obj := { obj with refcnt := obj.refcnt.incPrepare }, group := .incPrepare }
  else if answer ≠ 0 then { ret := answer, obj := obj, call := some .prepare }
  else { ret := 0, obj := ⟨obj.refcnt.incPrepare, .prepared⟩, call := some .prepare }

/-- `device_start`. -/
def deviceStart : DevEffect :=
  if obj.state.rank < DevState.prepared.rank then { ret := -1, obj := obj }
  else if obj.refcnt.nStart ≠ 0 then
    { ret := 0, obj := { obj with refcnt := obj.refcnt.incStart }, group := .incStart }
  else { ret := 0, obj := ⟨obj.refcnt.incStart, .started⟩, group := .incStart }

/-- `device_stop`. -/
def deviceStop : DevEffect :=
  if obj.refcnt.nStart = 0 then { ret := 0, obj := obj }
  else if obj.refcnt.nStart - 1 = 0 then
    { ret := answer, obj := ⟨obj.refcnt.decStart, .stopped⟩, call := some .stop, group := .decStart }
  else { ret := 0, obj := { obj with refcnt := obj.refcnt.decStart }, group := .decStart }

/-- `device_close`. -/
def deviceClose : DevEffect :=
  if obj.refcnt.nOpen = 0 then { ret := 0, obj := obj }
  else if obj.refcnt.nOpen - 1 = 0 then
    { ret := answer, obj := ⟨obj.refcnt.decOpen, .closed⟩, call := some .close, group := .decOpen }
  else { ret := 0, obj := { obj with refcnt := obj.refcnt.decOpen }, group := .decOpen }

def effect : DevFun → DevEffect
  | .open => obj.deviceOpen answer
  | .prepare => obj.devicePrepare answer
  | .start => obj.deviceStart
  | .stop => obj.deviceStop answer
  | .close => obj.deviceClose answer

/-- The counts agree with each other and with the state. -/
structure Right : Prop where
  nonneg : 0 ≤ obj.refcnt.nOpen ∧ 0 ≤ obj.refcnt.nPrepare ∧ 0 ≤ obj.refcnt.nStart
  closed : obj.refcnt.nOpen = 0 ↔ obj.state = .closed
  idle : obj.refcnt.nOpen = 0 → obj.refcnt.nPrepare = 0 ∧ obj.refcnt.nStart = 0
  started : 0 < obj.refcnt.nStart ↔ obj.state = .started
  prepared : 0 < obj.refcnt.nPrepare ↔ obj.state = .prepared ∨ obj.state = .started ∨ obj.state = .stopped

end PcmCounts

/-! ## All the objects -/

/-- A call on a PCM, and what it returned. -/
structure PcmEvent where
  dev : DevId
  call : PcmCall
  ret : Int
  deriving DecidableEq, Repr

structure Devices where
  parentDev : DevId → Option DevId
  groupData : DevId → Option GrpId
  objs : DevId → PcmCounts
  grps : GrpId → Refcount
  calls : List PcmEvent

namespace Devices

/-- Nothing has been called. -/
def boot (parentDev : DevId → Option DevId) (groupData : DevId → Option GrpId) : Devices :=
  ⟨parentDev, groupData, fun _ => {}, fun _ => {}, []⟩

/-- `device_get_pcm_obj`. -/
def pcmObj (s : Devices) (d : DevId) : DevId := (s.parentDev d).getD d

/-- A function is called on an object, and the PCM answers. -/
structure Op where
  f : DevFun
  dev : Option DevId
  answer : Int := 0

/-- Put the effect of a function on the object `o` into the state. -/
def put (s : Devices) (o : DevId) (answer : Int) (e : DevEffect) : Devices :=
  { s with
    objs := fun d => if d = o then e.obj else s.objs d
    grps := fun g => if s.groupData o = some g then e.group (s.grps g) else s.grps g
    calls := s.calls ++ (e.call.toList.map fun c => ⟨o, c, answer⟩) }

def exec (op : Op) (s : Devices) : Option (Int × Devices) :=
  match op.dev with
  | none => some (-EINVAL, s)
  | some d =>
    let e := (s.objs (s.pcmObj d)).effect op.answer op.f
    some (e.ret, s.put (s.pcmObj d) op.answer e)

/-- A device is prepared only while somebody has it open. -/
def PreparesOpen (s : Devices) (op : Op) : Prop :=
  op.f = .prepare → ∀ d, op.dev = some d → 0 < (s.objs (s.pcmObj d)).refcnt.nOpen

end Devices

/-- Whether the PCM is open after a call, given whether it was before. -/
def PcmEvent.after (isOpen : Bool) (e : PcmEvent) : Bool :=
  match e.call with
  | .open => isOpen || e.ret = 0
  | .close => false
  | .prepare | .stop => isOpen

/-- Whether the PCM of `o` is open after these calls. -/
def pcmIsOpen (o : DevId) (calls : List PcmEvent) : Bool := (calls.filter (·.dev = o)).foldl PcmEvent.after false

/-- `pcm_open` is called on a PCM that is not open, `pcm_close` on one that is. -/
def PcmEvent.InTurn (past : List PcmEvent) (e : PcmEvent) : Prop :=
  (e.call = .open → pcmIsOpen e.dev past = false) ∧ (e.call = .close → pcmIsOpen e.dev past = true)

/-- The state of the devices that a sequence of calls should keep. -/
structure Devices.Right (s : Devices) : Prop where
  counts (o : DevId) : (s.objs o).Right
  inTurn : EachAfter PcmEvent.InTurn s.calls
  isOpen (o : DevId) : pcmIsOpen o s.calls = true ↔ (s.objs o).refcnt.nOpen ≠ 0

/-! ## What one call does -/

theorem DevState.prepared_le_rank_iff {st : DevState} :
    DevState.prepared.rank ≤ st.rank ↔ st = .prepared ∨ st = .started ∨ st = .stopped := by
  cases st <;> decide

namespace PcmCounts

variable {answer : Int} {obj : PcmCounts}

theorem Right.boot : Right {} := by
  refine ⟨by decide, by decide, by decide, by decide, by decide⟩

theorem Right.deviceOpen (h : obj.Right) : (obj.deviceOpen answer).obj.Right := by
  obtain ⟨⟨hn, hp, hs⟩, closed, idle, started, prepared⟩ := h
  unfold PcmCounts.deviceOpen
  split
  · rename_i h0
    refine ⟨⟨?_, hp, hs⟩, ?_, ?_, started, prepared⟩ <;> simp only [Refcount.incOpen]
    · omega
    · exact iff_of_false (by omega) fun hc => h0 (closed.2 hc)
    · intro hc
      omega
  · rename_i h0
    obtain ⟨hp0, hs0⟩ := idle (not_not.1 h0)
    split
    · exact ⟨⟨hn, hp, hs⟩, closed, idle, started, prepared⟩
    · refine ⟨⟨?_, hp, hs⟩, ?_, ?_, ?_, ?_⟩ <;> simp [Refcount.incOpen] <;> omega

theorem Right.devicePrepare (h : obj.Right) (hopen : 0 < obj.refcnt.nOpen) : (obj.devicePrepare answer).obj.Right := by
  obtain ⟨⟨hn, hp, hs⟩, closed, idle, started, prepared⟩ := h
  unfold PcmCounts.devicePrepare
  split
  · rename_i h0
    refine ⟨⟨hn, ?_, hs⟩, closed, ?_, started, ?_⟩ <;> simp only [Refcount.incPrepare]
    · omega
    · intro hc
      omega
    · exact iff_of_true (by omega) (prepared.1 (by omega))
  · rename_i h0
    split
    · exact ⟨⟨hn, hp, hs⟩, closed, idle, started, prepared⟩
    · -- nothing that is not prepared is started
      have hs0 : obj.refcnt.nStart = 0 := by
        by_contra hs0
        have hstate := started.1 (by omega)
        have := prepared.2 (.inr (.inl hstate))
        omega
      refine ⟨⟨hn, ?_, hs⟩, ?_, ?_, ?_, ?_⟩ <;> simp [Refcount.incPrepare] <;> omega

theorem Right.deviceStart (h : obj.Right) : obj.deviceStart.obj.Right := by
  obtain ⟨⟨hn, hp, hs⟩, closed, idle, started, prepared⟩ := h
  unfold PcmCounts.deviceStart
  split
  · exact ⟨⟨hn, hp, hs⟩, closed, idle, started, prepared⟩
  · rename_i hready
    have hopen : obj.state ≠ .closed := fun hc => hready (by rw [hc]; decide)
    have hprepared : 0 < obj.refcnt.nPrepare := prepared.2 (DevState.prepared_le_rank_iff.1 (Nat.not_lt.1 hready))
    have hopen' : obj.refcnt.nOpen ≠ 0 := fun h0 => hopen (closed.1 h0)
    split
    · rename_i h0
      refine ⟨⟨hn, hp, ?_⟩, closed, ?_, ?_, prepared⟩ <;> simp only [Refcount.incStart]
      · omega
      · exact fun hc => absurd hc hopen'
      · exact iff_of_true (by omega) (started.1 (by omega))
    · refine ⟨⟨hn, hp, ?_⟩, ?_, ?_, ?_, ?_⟩ <;> simp [Refcount.incStart] <;> omega

theorem Right.deviceStop (h : obj.Right) : (obj.deviceStop answer).obj.Right := by
  obtain ⟨⟨hn, hp, hs⟩, closed, idle, started, prepared⟩ := h
  unfold PcmCounts.deviceStop
  split
  · exact ⟨⟨hn, hp, hs⟩, closed, idle, started, prepared⟩
  · rename_i h0
    have hstate := started.1 (by omega)
    have hprepared := prepared.2 (.inr (.inl hstate))
    have hopen : obj.refcnt.nOpen ≠ 0 := fun hc => by
      rw [closed.1 hc] at hstate
      cases hstate
    split
    · refine ⟨⟨hn, hp, ?_⟩, ?_, ?_, ?_, ?_⟩ <;> simp [Refcount.decStart] <;> omega
    · refine ⟨⟨hn, hp, ?_⟩, closed, ?_, ?_, prepared⟩ <;> simp only [Refcount.decStart]
      · omega
      · exact fun hc => absurd hc hopen
      · exact iff_of_true (by omega) hstate

theorem Right.deviceClose (h : obj.Right) : (obj.deviceClose answer).obj.Right := by
  obtain ⟨⟨hn, hp, hs⟩, closed, idle, started, prepared⟩ := h
  unfold PcmCounts.deviceClose
  split
  · exact ⟨⟨hn, hp, hs⟩, closed, idle, started, prepared⟩
  · rename_i h0
    split
    · rename_i hlast
      refine ⟨?_, ?_, ?_, ?_, ?_⟩ <;> simp [Refcount.decOpen, hlast]
    · rename_i hlast
      have hopen : obj.state ≠ .closed := fun hc => h0 (closed.2 hc)
      simp only [Refcount.decOpen, if_neg hlast]
      refine ⟨⟨?_, hp, hs⟩, iff_of_false hlast hopen, fun hc => absurd hc hlast, started, prepared⟩
      simp only
      omega

theorem Right.effect (h : obj.Right) {f : DevFun} (hf : f = .prepare → 0 < obj.refcnt.nOpen) :
    (obj.effect answer f).obj.Right := by
  cases f with
  | «open» => exact h.deviceOpen
  | prepare => exact h.devicePrepare (hf rfl)
  | start => exact h.deviceStart
  | stop => exact h.deviceStop
  | close => exact h.deviceClose

/-- The PCM is opened only for the first user. -/
theorem nOpen_of_call_open {f : DevFun} (h : (obj.effect answer f).call = some .open) : obj.refcnt.nOpen = 0 := by
  cases f <;> simp only [effect, deviceOpen, devicePrepare, deviceStart, deviceStop, deviceClose] at h <;>
    split_ifs at h <;> simp_all

variable (answer) in
/-- The PCM is closed exactly when the last user is gone. -/
theorem call_close_iff (h : 0 ≤ obj.refcnt.nOpen) {f : DevFun} : (obj.effect answer f).call = some .close ↔
    obj.refcnt.nOpen ≠ 0 ∧ (obj.effect answer f).obj.refcnt.nOpen = 0 := by
  cases f <;> simp only [effect, deviceOpen, devicePrepare, deviceStart, deviceStop, deviceClose] <;> split_ifs <;>
    simp_all [Refcount.incOpen, Refcount.incPrepare, Refcount.incStart, Refcount.decStart, Refcount.decOpen]
  omega

variable (answer) in
/-- The PCM is open as long as there are users. -/
theorem isOpen_effect (h : 0 ≤ obj.refcnt.nOpen) {isOpen : Bool} (hopen : isOpen = true ↔ obj.refcnt.nOpen ≠ 0)
    (d : DevId) (f : DevFun) :
    (match (obj.effect answer f).call with
      | none => isOpen
      | some c => PcmEvent.after isOpen ⟨d, c, answer⟩) = true ↔ (obj.effect answer f).obj.refcnt.nOpen ≠ 0 := by
  cases f <;> simp only [effect, deviceOpen, devicePrepare, deviceStart, deviceStop, deviceClose] <;> split_ifs <;>
    simp_all [PcmEvent.after, Refcount.incOpen, Refcount.incPrepare, Refcount.incStart, Refcount.decStart,
      Refcount.decOpen]
  omega

end PcmCounts

/-! ## Every sequence of calls -/

section

variable {s t : Devices}

theorem pcmIsOpen_concat (o : DevId) (calls : List PcmEvent) (e : PcmEvent) :
    pcmIsOpen o (calls ++ [e]) = if e.dev = o then e.after (pcmIsOpen o calls) else pcmIsOpen o calls := by
  unfold pcmIsOpen
  by_cases h : e.dev = o <;> simp [List.filter_append, h]

/-- An event of another device leaves a PCM open or closed. -/
theorem Devices.put_calls (o : DevId) (answer : Int) (e : DevEffect) : (s.put o answer e).calls =
    match e.call with
    | none => s.calls
    | some c => s.calls ++ [⟨o, c, answer⟩] := by
  unfold Devices.put
  cases e.call <;> simp

theorem Devices.Right.boot (parentDev : DevId → Option DevId) (groupData : DevId → Option GrpId) :
    (Devices.boot parentDev groupData).Right :=
  ⟨fun _ => .boot, eachAfter_nil, fun _ => by simp [Devices.boot, pcmIsOpen]⟩

theorem Devices.Right.put (h : s.Right) (o : DevId) {answer : Int} {f : DevFun}
    (hf : f = .prepare → 0 < (s.objs o).refcnt.nOpen) :
    (s.put o answer ((s.objs o).effect answer f)).Right := by
  have hright := h.counts o
  have hisOpen := PcmCounts.isOpen_effect answer hright.nonneg.1 (h.isOpen o) o f
  have hcalls := s.put_calls o answer ((s.objs o).effect answer f)
  refine ⟨fun d => ?_, ?_, fun d => ?_⟩
  · by_cases hd : d = o
    · simpa [Devices.put, hd] using hright.effect hf
    · simpa [Devices.put, hd] using h.counts d
  · rw [hcalls]
    split
    · exact h.inTurn
    · rename_i c hc
      refine eachAfter_concat.2 ⟨h.inTurn, fun hcopen => ?_, fun hcclose => ?_⟩
      · obtain rfl : c = .open := hcopen
        have := PcmCounts.nOpen_of_call_open hc
        rw [Bool.eq_false_iff]
        exact fun ht => (h.isOpen o).1 ht this
      · obtain rfl : c = .close := hcclose
        exact (h.isOpen o).2 ((PcmCounts.call_close_iff _ hright.nonneg.1).1 hc).1
  · rw [hcalls]
    by_cases hd : d = o
    · subst hd
      have hobj : ((s.put d answer ((s.objs d).effect answer f)).objs d) = ((s.objs d).effect answer f).obj := by
        simp [Devices.put]
      rw [hobj, ← hisOpen]
      split <;> simp [pcmIsOpen_concat]
    · have hobj : ((s.put o answer ((s.objs o).effect answer f)).objs d) = s.objs d := by
        simp [Devices.put, hd]
      rw [hobj, ← h.isOpen d]
      split <;> simp [pcmIsOpen_concat, Ne.symm hd]

theorem Devices.right_of_runs {parentDev : DevId → Option DevId} {groupData : DevId → Option GrpId}
    (h : Runs Devices.exec Devices.PreparesOpen (.boot parentDev groupData) s) : s.Right := by
  refine h.invariant (.boot parentDev groupData) ?_
  rintro s ⟨f, _ | d, answer⟩ r t hs hg he
  · cases he
    exact hs
  · cases he
    exact hs.put _ fun hf => hg hf d rfl

/-- `pcm_close` is called on a device exactly when its last user is gone. -/
theorem Devices.Right.close_iff (h : s.Right) {op : Devices.Op} {r : Int} (he : Devices.exec op s = some (r, t))
    (o : DevId) : (∃ ret, t.calls = s.calls ++ [⟨o, .close, ret⟩]) ↔
      (s.objs o).refcnt.nOpen ≠ 0 ∧ (t.objs o).refcnt.nOpen = 0 := by
  obtain ⟨f, _ | d, answer⟩ := op
  · cases he
    simp
  · cases he
    rw [s.put_calls]
    by_cases hd : o = s.pcmObj d
    · subst hd
      have hobj : ((s.put (s.pcmObj d) answer ((s.objs (s.pcmObj d)).effect answer f)).objs (s.pcmObj d)) =
          ((s.objs (s.pcmObj d)).effect answer f).obj := by
        simp [Devices.put]
      rw [hobj, ← PcmCounts.call_close_iff answer (h.counts _).nonneg.1]
      cases hc : ((s.objs (s.pcmObj d)).effect answer f).call <;> simp
    · have hobj : ((s.put (s.pcmObj d) answer ((s.objs (s.pcmObj d)).effect answer f)).objs o) = s.objs o := by
        simp [Devices.put, hd]
      rw [hobj]
      cases hc : ((s.objs (s.pcmObj d)).effect answer f).call <;> simp [Ne.symm hd]

/-- **The counts of PCM devices.**  After every sequence of calls that prepares only open devices, with every answer of
the PCMs, the counts and the state of every object agree, `pcm_open` and `pcm_close` have come in turn, and the next
call comes to `pcm_close` exactly when the open count drops to zero. -/
theorem device_counts_right {parentDev : DevId → Option DevId} {groupData : DevId → Option GrpId}
    (h : Runs Devices.exec Devices.PreparesOpen (.boot parentDev groupData) s) :
    s.Right ∧ ∀ op r t, s.PreparesOpen op → Devices.exec op s = some (r, t) → ∀ o,
      (∃ ret, t.calls = s.calls ++ [⟨o, .close, ret⟩]) ↔
        (s.objs o).refcnt.nOpen ≠ 0 ∧ (t.objs o).refcnt.nOpen = 0 :=
  ⟨Devices.right_of_runs h, fun _ _ _ _ he o => (Devices.right_of_runs h).close_iff he o⟩

instance (s : Devices) (op : Devices.Op) : Decidable (s.PreparesOpen op) :=
  decidable_of_iff (op.f = .prepare → ∀ d ∈ op.dev, 0 < (s.objs (s.pcmObj d)).refcnt.nOpen) Iff.rfl

/-- The device 1 is a virtual child of 0; both are opened, prepared, started, stopped and closed. -/
theorem device_counts_right_child :
    ∃ s, Runs Devices.exec Devices.PreparesOpen
        (.boot (fun d => if d = 1 then some 0 else none) fun _ => none) s ∧
      s.calls.map (fun e => (e.dev, e.call)) = [(0, .open), (0, .prepare), (0, .stop), (0, .close)] ∧ s.Right := by
  obtain ⟨s, h, hcalls⟩ := Runs.exists_of_execAll Devices.exec Devices.PreparesOpen
    [⟨.open, some 1, 0⟩, ⟨.open, some 0, 0⟩, ⟨.prepare, some 1, 0⟩, ⟨.prepare, some 0, 0⟩, ⟨.start, some 1, 0⟩,
      ⟨.start, some 0, 0⟩, ⟨.stop, some 0, 0⟩, ⟨.stop, some 1, 0⟩, ⟨.close, some 0, 0⟩, ⟨.close, some 1, 0⟩]
    (.boot (fun d => if d = 1 then some 0 else none) fun _ => none) (fun s => s.calls.map fun e => (e.dev, e.call))
    (b := [(0, .open), (0, .prepare), (0, .stop), (0, .close)]) (by decide +kernel)
  exact ⟨s, h, hcalls, (device_counts_right h).1⟩

end

/-! ## The device layer does the same -/

/-- A call of `device.c` on the PCM. -/
def Event.toPcm : Event → Option PcmEvent
  | ⟨.pcmOpen d, ret⟩ => some ⟨d, .open, ret⟩
  | ⟨.pcmPrepare d, ret⟩ => some ⟨d, .prepare, ret⟩
  | ⟨.pcmStop d, ret⟩ => some ⟨d, .stop, ret⟩
  | ⟨.pcmClose d, ret⟩ => some ⟨d, .close, ret⟩
  | _ => none

/-- The counts of all the devices. -/
def Hw.devices (hw : Hw) : Devices where
  parentDev d := (hw.devs d).parentDev
  groupData d := (hw.devs d).groupData
  objs d := ⟨(hw.devs d).refcnt, (hw.devs d).state⟩
  grps g := (hw.grps g).refcnt
  calls := hw.trace.reverse.filterMap Event.toPcm

def DevFun.run : DevFun → DevId → Prog Hw Int
  | .open => deviceOpen
  | .prepare => devicePrepare
  | .start => deviceStart
  | .stop => deviceStop
  | .close => deviceClose

/-- The call the function may make; `device_start` makes none. -/
def DevFun.call : DevFun → DevId → Call
  | .open => .pcmOpen
  | .prepare => .pcmPrepare
  | .start | .stop => .pcmStop
  | .close => .pcmClose

theorem Hw.devices_called (hw : Hw) (c : Call) : (hw.called c).devices =
    { hw.devices with calls := hw.devices.calls ++ (Event.toPcm ⟨c, hw.answer c⟩).toList } := by
  cases h : Event.toPcm ⟨c, hw.answer c⟩ <;> simp [Hw.devices, Hw.called, h]

/-- An object and its group are changed. -/
theorem Hw.devices_setDev (hw : Hw) (o : DevId) (x : DeviceObj) (g : Refcount → Refcount)
    (hx : x.fixed = (hw.devs o).fixed) (answer ret : Int) :
    ((hw.setDev o x).modGrp (hw.devs o).groupData (·.map g)).devices =
      hw.devices.put o answer ⟨ret, ⟨x.refcnt, x.state⟩, none, g⟩ := by
  have hparent : x.parentDev = (hw.devs o).parentDev := by
    show x.fixed.parentDev = (hw.devs o).fixed.parentDev
    rw [hx]
  have hgroup : x.groupData = (hw.devs o).groupData := by
    show x.fixed.groupData = (hw.devs o).fixed.groupData
    rw [hx]
  unfold Hw.devices Devices.put
  simp only [Devices.mk.injEq]
  refine ⟨?_, ?_, ?_, ?_, ?_⟩
  · funext d
    by_cases hd : d = o <;> simp [Hw.setDev, hd, hparent]
  · funext d
    by_cases hd : d = o <;> simp [Hw.setDev, hd, hgroup]
  · funext d
    by_cases hd : d = o <;> simp [Hw.setDev, hd]
  · funext i
    by_cases hi : (hw.devs o).groupData = some i <;> simp [Hw.modGrp, hi, DeviceGroup.map]
  · simp [Hw.modGrp, Hw.setDev]

/-- A call and a change of the object come to one effect. -/
theorem Hw.devices_put (hw : Hw) (o : DevId) (x : DeviceObj) (g : Refcount → Refcount)
    (hx : x.fixed = (hw.devs o).fixed) (c : Call) (pc : PcmCall)
    (hc : ∀ ret, Event.toPcm ⟨c, ret⟩ = some ⟨o, pc, ret⟩) (ret : Int) :
    (((hw.called c).setDev o x).modGrp (hw.devs o).groupData (·.map g)).devices =
      hw.devices.put o (hw.answer c) ⟨ret, ⟨x.refcnt, x.state⟩, some pc, g⟩ := by
  have h := Hw.devices_setDev (hw.called c) o x g hx (hw.answer c) ret
  rw [Hw.devices_called, hc] at h
  exact h.trans (by simp [Devices.put])

theorem Hw.devices_put_then_called (hw : Hw) (o : DevId) (x : DeviceObj) (g : Refcount → Refcount)
    (hx : x.fixed = (hw.devs o).fixed) (c : Call) (pc : PcmCall)
    (hc : ∀ ret, Event.toPcm ⟨c, ret⟩ = some ⟨o, pc, ret⟩) (ret : Int) :
    (((hw.setDev o x).modGrp (hw.devs o).groupData (·.map g)).called c).devices =
      hw.devices.put o (hw.answer c) ⟨ret, ⟨x.refcnt, x.state⟩, some pc, g⟩ := by
  rw [Hw.devices_called, hc, Hw.devices_setDev hw o x g hx (hw.answer c) ret]
  simp [Devices.put, Hw.answer, Hw.setDev, Hw.modGrp]

theorem Hw.modGrp_id (hw : Hw) (g : Option GrpId) : hw.modGrp g (·.map id) = hw := by
  have hgrps : (fun i => if g = some i then (hw.grps i).map id else hw.grps i) = hw.grps := by
    funext i
    split <;> rfl
  unfold Hw.modGrp
  rw [hgrps]

/-- An object that is put back. -/
theorem Devices.objs_put_self (v : Devices) (o : DevId) :
    (fun d => if d = o then v.objs o else v.objs d) = v.objs := by
  funext d
  split
  · rw [‹d = o›]
  · rfl

/-- A call that leaves the object as it is. -/
theorem Hw.devices_put_same (hw : Hw) (o : DevId) (ret : Int) {c : Call} {pc : PcmCall}
    (hc : ∀ ret, Event.toPcm ⟨c, ret⟩ = some ⟨o, pc, ret⟩) : (hw.called c).devices =
      hw.devices.put o (hw.answer c) { ret := ret, obj := hw.devices.objs o, call := some pc } := by
  rw [Hw.devices_called, hc]
  simp [Devices.put, hw.devices.objs_put_self o]

theorem Hw.devices_put_id (hw : Hw) (o : DevId) (answer ret : Int) :
    hw.devices = hw.devices.put o answer { ret := ret, obj := hw.devices.objs o } := by
  simp [Devices.put, hw.devices.objs_put_self o]

theorem Hw.exec_devices (hw : Hw) {hw' : Hw} (f : DevFun) (d : DevId) {e : DevEffect}
    (he : (hw.devices.objs (hw.pcmObj d)).effect (hw.answer (f.call (hw.pcmObj d))) f = e)
    (hput : hw'.devices = hw.devices.put (hw.pcmObj d) (hw.answer (f.call (hw.pcmObj d))) e) :
    Devices.exec ⟨f, some d, hw.answer (f.call (hw.pcmObj d))⟩ hw.devices = some (e.ret, hw'.devices) := by
  subst he
  rw [hput]
  rfl

/-- The calls of the device layer do to the counts what the functions here do. -/
theorem sat_devFun (f : DevFun) (d : DevId) (hw : Hw) : Sat (f.run d) hw fun r hw' =>
    Devices.exec ⟨f, some d, hw.answer (f.call (hw.pcmObj d))⟩ hw.devices = some (r, hw'.devices) := by
  cases f with
  | «open» =>
    simp only [DevFun.run, deviceOpen, sat_bind, sat_get, sat_ite, sat_modify, sat_pure, sat_ask]
    refine ⟨fun h => ?_, fun h => ⟨fun hr => ?_, fun hr => ?_⟩⟩
    · refine hw.exec_devices .open d (if_pos h) ?_
      refine (hw.devices_setDev _ (hw.devs (hw.pcmObj d)).takeOpen _ rfl (hw.answer (.pcmOpen (hw.pcmObj d))) 0).trans ?_
      simp only [DeviceObj.takeOpen, if_neg h]
      rfl
    · refine hw.exec_devices .open d ((if_neg h).trans (if_pos hr)) ?_
      exact hw.devices_put_same _ _ fun _ => rfl
    · refine hw.exec_devices .open d ((if_neg h).trans (if_neg hr)) ?_
      refine (hw.devices_put _ (hw.devs (hw.pcmObj d)).takeOpen _ rfl (.pcmOpen _) .open (fun _ => rfl) 0).trans ?_
      simp only [DeviceObj.takeOpen, if_pos (not_not.1 h)]
      rfl
  | prepare =>
    simp only [DevFun.run, devicePrepare, sat_bind, sat_get, sat_ite, sat_modify, sat_pure, sat_ask, sat_crash]
    refine ⟨fun h => ?_, fun h => ⟨fun _ => trivial, fun hopen => ⟨fun hr => ?_, fun hr => ?_⟩⟩⟩
    · refine hw.exec_devices .prepare d (if_pos h) ?_
      have hopen : (hw.devs (hw.pcmObj d)).refcnt.nOpen ≠ 0 := fun h0 => h ((hw.devs _).idle h0).1
      rw [Hw.prepared, if_pos h]
      refine (hw.devices_setDev _ _ _ (DeviceObj.takePrepare_fixed _) (hw.answer (.pcmPrepare (hw.pcmObj d))) 0).trans ?_
      simp only [DeviceObj.takePrepare, dif_neg hopen, if_neg h]
      rfl
    · refine hw.exec_devices .prepare d ((if_neg h).trans (if_pos hr)) ?_
      exact hw.devices_put_same _ _ fun _ => rfl
    · refine hw.exec_devices .prepare d ((if_neg h).trans (if_neg hr)) ?_
      -- the group is left alone
      show (ite ((hw.devs (hw.pcmObj d)).refcnt.nPrepare ≠ 0) _
        ((hw.called (.pcmPrepare (hw.pcmObj d))).setDev (hw.pcmObj d) (hw.devs (hw.pcmObj d)).takePrepare)).devices = _
      rw [if_neg h, ← Hw.modGrp_id (Hw.setDev _ _ _) (hw.devs (hw.pcmObj d)).groupData]
      refine (hw.devices_put _ _ _ (DeviceObj.takePrepare_fixed _) (.pcmPrepare _) .prepare (fun _ => rfl) 0).trans ?_
      simp only [DeviceObj.takePrepare, dif_neg hopen, if_pos (not_not.1 h)]
      rfl
  | start =>
    simp only [DevFun.run, deviceStart, sat_bind, sat_get, sat_ite, sat_modify, sat_pure]
    refine ⟨fun h => ?_, fun h => ?_⟩
    · refine hw.exec_devices .start d (if_pos h) ?_
      exact hw.devices_put_id _ _ _
    · have hput := hw.devices_setDev (hw.pcmObj d) _ .incStart (DeviceObj.takeStart_fixed _)
        (hw.answer (.pcmStop (hw.pcmObj d))) 0
      simp only [DeviceObj.takeStart, dif_neg h] at hput
      by_cases hs : (hw.devs (hw.pcmObj d)).refcnt.nStart ≠ 0
      · refine hw.exec_devices .start d ((if_neg h).trans (if_pos hs)) ?_
        show (hw.started d).devices = _
        refine Eq.trans ?_ (hput.trans ?_)
        · simp only [Hw.started, DeviceObj.takeStart, dif_neg h]
        · simp only [if_neg hs]
          rfl
      · refine hw.exec_devices .start d ((if_neg h).trans (if_neg hs)) ?_
        show (hw.started d).devices = _
        refine Eq.trans ?_ (hput.trans ?_)
        · simp only [Hw.started, DeviceObj.takeStart, dif_neg h]
        · simp only [if_pos (not_not.1 hs)]
          rfl
  | stop =>
    simp only [DevFun.run, deviceStop, sat_bind, sat_get, sat_ite, sat_modify, sat_pure, sat_ask]
    refine ⟨fun h => ?_, fun h => ⟨fun hlast => ?_, fun hlast => ?_⟩⟩
    · refine hw.exec_devices .stop d (if_pos h) ?_
      exact hw.devices_put_id _ _ _
    · rw [Hw.stopped, if_neg h]
      refine hw.exec_devices .stop d ((if_neg h).trans (if_pos hlast)) ?_
      refine (hw.devices_put_then_called _ _ _ (DeviceObj.dropStart_fixed _) (.pcmStop _) .stop (fun _ => rfl)
        (hw.answer (.pcmStop (hw.pcmObj d)))).trans ?_
      simp only [DeviceObj.dropStart, dif_neg h, if_pos hlast]
      rfl
    · rw [Hw.stopped, if_neg h]
      refine hw.exec_devices .stop d ((if_neg h).trans (if_neg hlast)) ?_
      refine (hw.devices_setDev _ _ _ (DeviceObj.dropStart_fixed _) (hw.answer (.pcmStop (hw.pcmObj d))) 0).trans ?_
      simp only [DeviceObj.dropStart, dif_neg h, if_neg hlast]
      rfl
  | close =>
    simp only [DevFun.run, deviceClose, sat_bind, sat_get, sat_ite, sat_modify, sat_pure, sat_ask]
    refine ⟨fun h => ?_, fun h => ⟨fun hlast => ?_, fun hlast => ?_⟩⟩
    · refine hw.exec_devices .close d (if_pos h) ?_
      exact hw.devices_put_id _ _ _
    · rw [Hw.closed, if_neg h]
      refine hw.exec_devices .close d ((if_neg h).trans (if_pos hlast)) ?_
      refine (hw.devices_put_then_called _ _ _ (DeviceObj.dropOpen_fixed _) (.pcmClose _) .close (fun _ => rfl)
        (hw.answer (.pcmClose (hw.pcmObj d)))).trans ?_
      simp only [DeviceObj.dropOpen, dif_neg h, if_pos hlast]
      rfl
    · rw [Hw.closed, if_neg h]
      refine hw.exec_devices .close d ((if_neg h).trans (if_neg hlast)) ?_
      refine (hw.devices_setDev _ _ _ (DeviceObj.dropOpen_fixed _) (hw.answer (.pcmClose (hw.pcmObj d))) 0).trans ?_
      simp only [DeviceObj.dropOpen, dif_neg h, if_neg hlast]
      rfl

end Agm.Service
