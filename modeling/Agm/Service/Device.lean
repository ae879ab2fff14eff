import Agm.Service.Platform

/-!
# The device layer

`device.c`: the five calls that count the users of a PCM device, on the object the device resolves to
(`device_get_pcm_obj`: a virtual device works on its parent), and on the group of that object.

What a successful call does to the counts is a function of the object (`DeviceObj.takeOpen` and the four after it)
and of the state (`Hw.opened` and the four after it); the calls themselves add the PCM call and the return code.
`device_prepare` leaves the group alone the first time, and `device_close` resets the other two counts of an object,
and of its group, when the open count of each drops to zero.
-/

namespace Agm.Service

open Agm.Lib

/-- `device_get_pcm_obj`. -/
def Hw.pcmObj (hw : Hw) (d : DevId) : DevId := (hw.devs d).parentDev.getD d

/-- `device_get_obj`. -/
def deviceGetObj (idx : Nat) (hw : Hw) : Except Int DevId :=
  if idx < hw.numAudioIntfs then .ok idx else .error (-EINVAL)

/-- `device_get_state`. -/
def deviceGetState (d : DevId) (hw : Hw) : DevState := (hw.devs (hw.pcmObj d)).state

/-- `device_get_start_refcnt`.  Unlike the other calls it reads the object it is given, not the one it resolves to. -/
def deviceGetStartRefcnt (d : DevId) (hw : Hw) : Int :=
  match (hw.devs d).groupData with
  | some g => (hw.grps g).refcnt.nStart
  | none => (hw.devs d).refcnt.nStart

/-! ## The counts -/

def Refcount.incOpen (r : Refcount) : Refcount := { r with nOpen := r.nOpen + 1 }
def Refcount.incPrepare (r : Refcount) : Refcount := { r with nPrepare := r.nPrepare + 1 }
def Refcount.incStart (r : Refcount) : Refcount := { r with nStart := r.nStart + 1 }
def Refcount.decStart (r : Refcount) : Refcount := { r with nStart := r.nStart - 1 }

/-- `if (--refcnt.open == 0)` the other two counts are reset. -/
def Refcount.decOpen (r : Refcount) : Refcount :=
  if r.nOpen - 1 = 0 then ⟨0, 0, 0⟩ else { r with nOpen := r.nOpen - 1 }

def DeviceGroup.map (f : Refcount → Refcount) (g : DeviceGroup) : DeviceGroup := { g with refcnt := f g.refcnt }

namespace DeviceObj

/-- A PCM that nobody has prepared is not started. -/
theorem nStart_of_nPrepare {o : DeviceObj} (h : o.refcnt.nPrepare = 0) : o.refcnt.nStart = 0 := by
  by_contra hs
  refine o.ready.2 ?_ h
  rw [o.running.1 hs]
  decide

/-- One more user; the first one opens the PCM. -/
def takeOpen (o : DeviceObj) : DeviceObj :=
  { o with
    refcnt := o.refcnt.incOpen
    state := if o.refcnt.nOpen = 0 then .opened else o.state
    nonneg := by
      obtain ⟨hn, hp, hs⟩ := o.nonneg
      exact ⟨by simp only [Refcount.incOpen]; omega, hp, hs⟩
    idle := by have := o.nonneg.1; simp only [Refcount.incOpen]; omega
    ready := by
      split
      · rename_i h0
        exact ⟨fun h => absurd (o.idle h0).1 h, fun h => absurd h (by decide)⟩
      · exact o.ready
    running := by
      split
      · rename_i h0
        exact ⟨fun h => absurd (o.idle h0).2.1 h, fun h => nomatch h⟩
      · exact o.running }

/-- One more prepare; the first one prepares the PCM.  A PCM that nobody has open is not prepared. -/
def takePrepare (o : DeviceObj) : DeviceObj :=
  if h : o.refcnt.nOpen = 0 then o
  else
    { o with
      refcnt := o.refcnt.incPrepare
      state := if o.refcnt.nPrepare = 0 then .prepared else o.state
      nonneg := by
        obtain ⟨hn, hp, hs⟩ := o.nonneg
        exact ⟨hn, by simp only [Refcount.incPrepare]; omega, hs⟩
      idle := fun h0 => absurd h0 h
      ready := by
        have hp := o.nonneg.2.1
        refine ⟨fun _ => ?_, fun _ => by simp only [Refcount.incPrepare]; omega⟩
        split
        · exact Nat.le_refl _
        · exact o.ready.1 ‹_›
      running := by
        split
        · exact ⟨fun h => absurd (nStart_of_nPrepare ‹_›) h, fun h => nomatch h⟩
        · exact o.running }

/-- One more start, of a PCM that is at least prepared. -/
def takeStart (o : DeviceObj) : DeviceObj :=
  if h : o.state.rank < DevState.prepared.rank then o
  else
    { o with
      refcnt := o.refcnt.incStart
      state := if o.refcnt.nStart = 0 then .started else o.state
      nonneg := by
        obtain ⟨hn, hp, hs⟩ := o.nonneg
        exact ⟨hn, hp, by simp only [Refcount.incStart]; omega⟩
      idle := by
        intro h0
        rw [(o.idle h0).2.2] at h
        exact absurd (by decide) h
      ready := by
        refine ⟨fun _ => ?_, fun _ => o.ready.2 (Nat.not_lt.1 h)⟩
        split
        · decide
        · exact Nat.not_lt.1 h
      running := by
        have hs := o.nonneg.2.2
        refine ⟨fun _ => ?_, fun _ => by simp only [Refcount.incStart]; omega⟩
        split
        · rfl
        · exact o.running.1 ‹_› }

/-- One start less; the last one stops the PCM. -/
def dropStart (o : DeviceObj) : DeviceObj :=
  if h : o.refcnt.nStart = 0 then o
  else
    { o with
      refcnt := o.refcnt.decStart
      state := if o.refcnt.nStart - 1 = 0 then .stopped else o.state
      nonneg := by
        obtain ⟨hn, hp, hs⟩ := o.nonneg
        exact ⟨hn, hp, by simp only [Refcount.decStart]; omega⟩
      idle := fun h0 => absurd (o.idle h0).2.1 h
      ready := by
        have hready : DevState.prepared.rank ≤ o.state.rank := by
          rw [o.running.1 h]
          decide
        refine ⟨fun _ => ?_, fun _ => o.ready.2 hready⟩
        split
        · decide
        · exact hready
      running := by
        split
        · rename_i h0
          exact ⟨fun hne => absurd h0 hne, fun h => nomatch h⟩
        · rename_i h0
          exact ⟨fun _ => o.running.1 h, fun _ => h0⟩ }

/-- One user less; the last one closes the PCM. -/
def dropOpen (o : DeviceObj) : DeviceObj :=
  if h : o.refcnt.nOpen = 0 then o
  else
    { o with
      refcnt := o.refcnt.decOpen
      state := if o.refcnt.nOpen - 1 = 0 then .closed else o.state
      nonneg := by
        obtain ⟨hn, hp, hs⟩ := o.nonneg
        unfold Refcount.decOpen
        split
        · decide
        · exact ⟨by show 0 ≤ o.refcnt.nOpen - 1; omega, hp, hs⟩
      idle := by
        unfold Refcount.decOpen
        split
        · simp
        · intro h0
          exact absurd h0 ‹_›
      ready := by
        unfold Refcount.decOpen
        split
        · exact ⟨fun h => absurd rfl h, fun h => absurd h (by decide)⟩
        · exact o.ready
      running := by
        unfold Refcount.decOpen
        split
        · exact ⟨fun h => absurd rfl h, fun h => nomatch h⟩
        · exact o.running }

end DeviceObj

namespace Hw

/-- The state after a successful `device_open`. -/
def opened (d : DevId) (hw : Hw) : Hw :=
  (hw.setDev (hw.pcmObj d) (hw.devs (hw.pcmObj d)).takeOpen).modGrp (hw.devs (hw.pcmObj d)).groupData
    (·.map Refcount.incOpen)

/-- The state after a successful `device_prepare`. -/
def prepared (d : DevId) (hw : Hw) : Hw :=
  if (hw.devs (hw.pcmObj d)).refcnt.nPrepare ≠ 0 then
    (hw.setDev (hw.pcmObj d) (hw.devs (hw.pcmObj d)).takePrepare).modGrp (hw.devs (hw.pcmObj d)).groupData
      (·.map Refcount.incPrepare)
  else hw.setDev (hw.pcmObj d) (hw.devs (hw.pcmObj d)).takePrepare

/-- The state after a successful `device_start`. -/
def started (d : DevId) (hw : Hw) : Hw :=
  (hw.setDev (hw.pcmObj d) (hw.devs (hw.pcmObj d)).takeStart).modGrp (hw.devs (hw.pcmObj d)).groupData
    (·.map Refcount.incStart)

/-- An entry of a PCM into `DEV_STARTED` is noted. -/
def noteStart (d : DevId) (hw : Hw) : Hw :=
  { hw with
    starts := if (hw.devs (hw.pcmObj d)).refcnt.nStart = 0 then (hw.pcmObj d, hw.trace) :: hw.starts else hw.starts }

/-- The state after a `device_stop`. -/
def stopped (d : DevId) (hw : Hw) : Hw :=
  if (hw.devs (hw.pcmObj d)).refcnt.nStart = 0 then hw
  else
    (hw.setDev (hw.pcmObj d) (hw.devs (hw.pcmObj d)).dropStart).modGrp (hw.devs (hw.pcmObj d)).groupData
      (·.map Refcount.decStart)

/-- The state after a `device_close`. -/
def closed (d : DevId) (hw : Hw) : Hw :=
  if (hw.devs (hw.pcmObj d)).refcnt.nOpen = 0 then hw
  else
    (hw.setDev (hw.pcmObj d) (hw.devs (hw.pcmObj d)).dropOpen).modGrp (hw.devs (hw.pcmObj d)).groupData
      (·.map Refcount.decOpen)

end Hw

/-! ## The calls -/

/-- `device_open`, of a device whose media configuration has channels; it divides by their number. -/
def deviceOpen (d : DevId) : Prog Hw Int := do
  let hw ← get
  if (hw.devs (hw.pcmObj d)).refcnt.nOpen ≠ 0 then do
    modify (Hw.opened d)
    pure 0
  else do
    let ret ← ask (.pcmOpen (hw.pcmObj d))
    if ret ≠ 0 then pure (- EIO)
    else do
      modify (Hw.opened d)
      pure 0

/-- `device_prepare`.  The PCM of an object that nobody has open was never opened, or was closed and freed. -/
def devicePrepare (d : DevId) : Prog Hw Int := do
  let hw ← get
  if (hw.devs (hw.pcmObj d)).refcnt.nPrepare ≠ 0 then do
    modify (Hw.prepared d)
    pure 0
  else if (hw.devs (hw.pcmObj d)).refcnt.nOpen = 0 then crash
  else do
    let ret ← ask (.pcmPrepare (hw.pcmObj d))
    if ret ≠ 0 then pure ret
    else do
      modify (Hw.prepared d)
      pure 0

/-- `device_start`. -/
def deviceStart (d : DevId) : Prog Hw Int := do
  let hw ← get
  if (hw.devs (hw.pcmObj d)).state.rank < DevState.prepared.rank then pure (-1)
  else do
    modify fun hw => (hw.noteStart d).started d
    pure 0

/-- `device_stop`. -/
def deviceStop (d : DevId) : Prog Hw Int := do
  let hw ← get
  if (hw.devs (hw.pcmObj d)).refcnt.nStart = 0 then pure 0
  else do
    modify (Hw.stopped d)
    if (hw.devs (hw.pcmObj d)).refcnt.nStart - 1 = 0 then ask (.pcmStop (hw.pcmObj d)) else pure 0

/-- `device_close`. -/
def deviceClose (d : DevId) : Prog Hw Int := do
  let hw ← get
  if (hw.devs (hw.pcmObj d)).refcnt.nOpen = 0 then pure 0
  else do
    modify (Hw.closed d)
    if (hw.devs (hw.pcmObj d)).refcnt.nOpen - 1 = 0 then ask (.pcmClose (hw.pcmObj d)) else pure 0

/-! ## What never changes, and what a call may use up -/

/-- What no operation changes of a device. -/
def DeviceObj.fixed (o : DeviceObj) : DeviceObj :=
  { intf := o.intf, dir := o.dir, metadata := o.metadata, parentDev := o.parentDev, groupData := o.groupData }

namespace Hw

/-- What no operation changes of the state. -/
def fixed (hw : Hw) : Hw :=
  { hw with
    devs := fun d => (hw.devs d).fixed, grps := fun _ => {}, env := fun _ => [], trace := [], nextHandle := 0
    starts := [] }

/-- The state without the outside world and the cached device parameters: the counts and what never changes. -/
def core (hw : Hw) : Hw :=
  { hw with
    devs := fun d => { hw.devs d with params := none }, env := fun _ => [], trace := [], nextHandle := 0, starts := [] }

/-- `hw'` may come after `hw`: answers were used up and calls were noted. -/
structure Later (hw hw' : Hw) : Prop where
  fixed : hw'.fixed = hw.fixed
  env : ∀ k, hw'.env k <:+ hw.env k
  trace : hw.trace <:+ hw'.trace
  nextHandle : hw.nextHandle ≤ hw'.nextHandle

instance : IsPreorder Hw Later where
  refl _ := ⟨rfl, fun _ => List.suffix_refl _, List.suffix_refl _, Nat.le_refl _⟩
  trans _ _ _ h h' :=
    ⟨h'.fixed.trans h.fixed, fun k => (h'.env k).trans (h.env k), h.trace.trans h'.trace,
      Nat.le_trans h.nextHandle h'.nextHandle⟩

theorem later_called (hw : Hw) (c : Call) : hw.Later (hw.called c) := by
  refine ⟨rfl, fun k => ?_, List.suffix_cons _ _, Nat.le_refl _⟩
  by_cases h : k = c.kind
  · simp [called, h, List.tail_suffix]
  · simp [called, h]

theorem pcmObj_of_fixed {hw hw' : Hw} (h : hw'.fixed = hw.fixed) : hw'.pcmObj = hw.pcmObj := by
  funext d
  have : (hw'.fixed.devs d).parentDev = (hw.fixed.devs d).parentDev := by rw [h]
  simp only [pcmObj]
  exact congrArg (·.getD d) this

@[simp] theorem core_pcmObj (hw : Hw) (d : DevId) : hw.core.pcmObj d = hw.pcmObj d := rfl

@[simp] theorem core_called (hw : Hw) (c : Call) : (hw.called c).core = hw.core := rfl

theorem fixed_of_core {hw hw' : Hw} (h : hw'.core = hw.core) : hw'.fixed = hw.fixed :=
  show hw'.core.fixed = hw.core.fixed from congrArg fixed h

end Hw

/-! ## The counts after a call -/

namespace Hw

def nOpen (hw : Hw) (o : DevId) : Int := (hw.devs o).refcnt.nOpen
def nStart (hw : Hw) (o : DevId) : Int := (hw.devs o).refcnt.nStart

theorem nOpen_nonneg (hw : Hw) (o : DevId) : 0 ≤ hw.nOpen o := (hw.devs o).nonneg.1

theorem nStart_of_nOpen {hw : Hw} {o : DevId} (h : hw.nOpen o = 0) : hw.nStart o = 0 := ((hw.devs o).idle h).2.1

@[simp] theorem core_nOpen (hw : Hw) : hw.core.nOpen = hw.nOpen := rfl
@[simp] theorem core_nStart (hw : Hw) : hw.core.nStart = hw.nStart := rfl

/-- Setting an object to one with the same fixed part changes nothing that is fixed. -/
theorem fixed_setDev {hw : Hw} {o : DevId} {dev : DeviceObj} (h : dev.fixed = (hw.devs o).fixed) :
    (hw.setDev o dev).fixed = hw.fixed := by
  simp only [fixed, setDev, Hw.mk.injEq, true_and, and_true]
  funext d
  by_cases hd : d = o
  · simp [hd, h]
  · simp [hd]

theorem fixed_modGrp (hw : Hw) (g : Option GrpId) (f : DeviceGroup → DeviceGroup) :
    (hw.modGrp g f).fixed = hw.fixed := rfl

theorem core_setDev (hw : Hw) (o : DevId) (dev : DeviceObj) :
    (hw.setDev o dev).core = hw.core.setDev o { dev with params := none } := by
  simp only [core, setDev, Hw.mk.injEq, true_and, and_true]
  funext d
  by_cases hd : d = o <;> simp [hd]

theorem core_modGrp (hw : Hw) (g : Option GrpId) (f : DeviceGroup → DeviceGroup) :
    (hw.modGrp g f).core = hw.core.modGrp g f := rfl

theorem setDev_nOpen (hw : Hw) (o o' : DevId) (dev : DeviceObj) :
    (hw.setDev o dev).nOpen o' = if o' = o then dev.refcnt.nOpen else hw.nOpen o' := by
  unfold nOpen setDev
  by_cases h : o' = o <;> simp [h]

theorem setDev_nStart (hw : Hw) (o o' : DevId) (dev : DeviceObj) :
    (hw.setDev o dev).nStart o' = if o' = o then dev.refcnt.nStart else hw.nStart o' := by
  unfold nStart setDev
  by_cases h : o' = o <;> simp [h]

@[simp] theorem modGrp_nOpen (hw : Hw) (g : Option GrpId) (f : DeviceGroup → DeviceGroup) :
    (hw.modGrp g f).nOpen = hw.nOpen := rfl

@[simp] theorem modGrp_nStart (hw : Hw) (g : Option GrpId) (f : DeviceGroup → DeviceGroup) :
    (hw.modGrp g f).nStart = hw.nStart := rfl

end Hw

/-! Each of the five effects keeps what is fixed, does not look at what the core leaves out, and moves the open and
the start count of the one object the device resolves to. -/

namespace DeviceObj

theorem takePrepare_fixed (o : DeviceObj) : o.takePrepare.fixed = o.fixed := by unfold takePrepare; split <;> rfl
theorem takeStart_fixed (o : DeviceObj) : o.takeStart.fixed = o.fixed := by unfold takeStart; split <;> rfl
theorem dropStart_fixed (o : DeviceObj) : o.dropStart.fixed = o.fixed := by unfold dropStart; split <;> rfl
theorem dropOpen_fixed (o : DeviceObj) : o.dropOpen.fixed = o.fixed := by unfold dropOpen; split <;> rfl

theorem takePrepare_params (o : DeviceObj) :
    { o.takePrepare with params := none } = takePrepare { o with params := none } := by
  unfold takePrepare
  by_cases h : o.refcnt.nOpen = 0 <;> simp [h]

theorem takeStart_params (o : DeviceObj) :
    { o.takeStart with params := none } = takeStart { o with params := none } := by
  unfold takeStart
  by_cases h : o.state.rank < DevState.prepared.rank <;> simp [h]

theorem dropStart_params (o : DeviceObj) :
    { o.dropStart with params := none } = dropStart { o with params := none } := by
  unfold dropStart
  by_cases h : o.refcnt.nStart = 0 <;> simp [h]

theorem dropOpen_params (o : DeviceObj) :
    { o.dropOpen with params := none } = dropOpen { o with params := none } := by
  unfold dropOpen
  by_cases h : o.refcnt.nOpen = 0 <;> simp [h]

theorem takePrepare_refcnt {o : DeviceObj} (h : o.refcnt.nOpen ≠ 0) :
    o.takePrepare.refcnt = o.refcnt.incPrepare := by rw [takePrepare, dif_neg h]

theorem takeStart_refcnt {o : DeviceObj} (h : ¬ o.state.rank < DevState.prepared.rank) :
    o.takeStart.refcnt = o.refcnt.incStart := by rw [takeStart, dif_neg h]

theorem dropStart_refcnt {o : DeviceObj} (h : o.refcnt.nStart ≠ 0) :
    o.dropStart.refcnt = o.refcnt.decStart := by rw [dropStart, dif_neg h]

theorem dropOpen_refcnt {o : DeviceObj} (h : o.refcnt.nOpen ≠ 0) :
    o.dropOpen.refcnt = o.refcnt.decOpen := by rw [dropOpen, dif_neg h]

theorem takePrepare_nOpen (o : DeviceObj) : o.takePrepare.refcnt.nOpen = o.refcnt.nOpen := by
  unfold takePrepare; split <;> rfl

theorem takePrepare_nStart (o : DeviceObj) : o.takePrepare.refcnt.nStart = o.refcnt.nStart := by
  unfold takePrepare; split <;> rfl

/-- A PCM that somebody has open is ready after a prepare. -/
theorem takePrepare_ready {o : DeviceObj} (h : o.refcnt.nOpen ≠ 0) :
    DevState.prepared.rank ≤ o.takePrepare.state.rank := by
  unfold takePrepare
  rw [dif_neg h]
  show _ ≤ (if o.refcnt.nPrepare = 0 then DevState.prepared else o.state).rank
  split
  · exact Nat.le_refl _
  · exact o.ready.1 ‹_›

theorem takeStart_nOpen (o : DeviceObj) : o.takeStart.refcnt.nOpen = o.refcnt.nOpen := by
  unfold takeStart; split <;> rfl

theorem takeStart_nStart {o : DeviceObj} (h : ¬ o.state.rank < DevState.prepared.rank) :
    o.takeStart.refcnt.nStart = o.refcnt.nStart + 1 := by
  unfold takeStart
  rw [dif_neg h]
  rfl

theorem dropStart_nOpen (o : DeviceObj) : o.dropStart.refcnt.nOpen = o.refcnt.nOpen := by
  unfold dropStart; split <;> rfl

theorem dropStart_nStart {o : DeviceObj} (h : o.refcnt.nStart ≠ 0) :
    o.dropStart.refcnt.nStart = o.refcnt.nStart - 1 := by
  unfold dropStart
  rw [dif_neg h]
  rfl

theorem dropOpen_nOpen {o : DeviceObj} (h : o.refcnt.nOpen ≠ 0) :
    o.dropOpen.refcnt.nOpen = o.refcnt.nOpen - 1 := by
  unfold dropOpen
  rw [dif_neg h]
  show o.refcnt.decOpen.nOpen = _
  unfold Refcount.decOpen
  split <;> simp_all

theorem dropOpen_nStart {o : DeviceObj} (h : o.refcnt.nOpen ≠ 0) :
    o.dropOpen.refcnt.nStart = if o.refcnt.nOpen = 1 then 0 else o.refcnt.nStart := by
  unfold dropOpen
  rw [dif_neg h]
  show o.refcnt.decOpen.nStart = _
  unfold Refcount.decOpen
  have : o.refcnt.nOpen - 1 = 0 ↔ o.refcnt.nOpen = 1 := by omega
  simp only [this]
  split <;> rfl

theorem takeOpen_nOpen_ne (o : DeviceObj) : o.takeOpen.refcnt.nOpen ≠ 0 := by
  have hn := o.nonneg.1
  show o.refcnt.nOpen + 1 ≠ 0
  omega

/-- One user more and one less. -/
theorem dropOpen_takeOpen (o : DeviceObj) : o.takeOpen.dropOpen = o := by
  have h0 : o.refcnt.nOpen + 1 ≠ 0 := o.takeOpen_nOpen_ne
  have hi := o.idle
  obtain ⟨_, _, _, _, _, _, ⟨k, p, s⟩, st, _, _, _, _⟩ := o
  simp only [takeOpen, dropOpen, Refcount.incOpen] at *
  rw [dif_neg h0]
  by_cases hk : k = 0
  · obtain ⟨rfl, rfl, rfl⟩ := hi hk
    simp [hk, Refcount.decOpen]
  · simp [hk, Refcount.decOpen]

end DeviceObj

namespace Hw

variable (d : DevId) (hw : Hw)

theorem fixed_opened : (hw.opened d).fixed = hw.fixed := by
  unfold opened
  rw [fixed_modGrp]
  exact fixed_setDev rfl

theorem fixed_prepared : (hw.prepared d).fixed = hw.fixed := by
  unfold prepared
  split
  · rw [fixed_modGrp, fixed_setDev (DeviceObj.takePrepare_fixed _)]
  · rw [fixed_setDev (DeviceObj.takePrepare_fixed _)]

theorem fixed_started : (hw.started d).fixed = hw.fixed := by
  unfold started
  rw [fixed_modGrp, fixed_setDev (DeviceObj.takeStart_fixed _)]

theorem fixed_stopped : (hw.stopped d).fixed = hw.fixed := by
  unfold stopped
  split
  · rfl
  · rw [fixed_modGrp, fixed_setDev (DeviceObj.dropStart_fixed _)]

theorem fixed_closed : (hw.closed d).fixed = hw.fixed := by
  unfold closed
  split
  · rfl
  · rw [fixed_modGrp, fixed_setDev (DeviceObj.dropOpen_fixed _)]

theorem later_opened : hw.Later (hw.opened d) :=
  ⟨fixed_opened d hw, fun _ => List.suffix_refl _, List.suffix_refl _, Nat.le_refl _⟩

theorem later_prepared : hw.Later (hw.prepared d) := by
  refine ⟨fixed_prepared d hw, ?_, ?_, ?_⟩ <;> unfold prepared <;> split
  · exact fun _ => List.suffix_refl _
  · exact fun _ => List.suffix_refl _
  · exact List.suffix_refl _
  · exact List.suffix_refl _
  · exact Nat.le_refl _
  · exact Nat.le_refl _

theorem later_started : hw.Later (hw.started d) :=
  ⟨fixed_started d hw, fun _ => List.suffix_refl _, List.suffix_refl _, Nat.le_refl _⟩

theorem later_stopped : hw.Later (hw.stopped d) := by
  refine ⟨fixed_stopped d hw, ?_, ?_, ?_⟩ <;> unfold stopped <;> split
  · exact fun _ => List.suffix_refl _
  · exact fun _ => List.suffix_refl _
  · exact List.suffix_refl _
  · exact List.suffix_refl _
  · exact Nat.le_refl _
  · exact Nat.le_refl _

/-- A `device_stop` uses up no answer, so what comes after a state comes after it. -/
theorem Later.after_stopped {hw hw' : Hw} (d : DevId) (h : hw.Later hw') : (hw.stopped d).Later hw' := by
  refine ⟨h.fixed.trans (fixed_stopped d hw).symm, ?_, ?_, ?_⟩ <;> unfold stopped <;> split
  · exact h.env
  · exact h.env
  · exact h.trace
  · exact h.trace
  · exact h.nextHandle
  · exact h.nextHandle

theorem later_closed : hw.Later (hw.closed d) := by
  refine ⟨fixed_closed d hw, ?_, ?_, ?_⟩ <;> unfold closed <;> split
  · exact fun _ => List.suffix_refl _
  · exact fun _ => List.suffix_refl _
  · exact List.suffix_refl _
  · exact List.suffix_refl _
  · exact Nat.le_refl _
  · exact Nat.le_refl _

theorem core_opened : (hw.opened d).core = hw.core.opened d := by
  unfold opened
  rw [core_modGrp, core_setDev]
  rfl

theorem core_prepared : (hw.prepared d).core = hw.core.prepared d := by
  unfold prepared
  rw [apply_ite core, core_modGrp, core_setDev, DeviceObj.takePrepare_params]
  rfl

theorem core_started : (hw.started d).core = hw.core.started d := by
  unfold started
  rw [core_modGrp, core_setDev, DeviceObj.takeStart_params]
  rfl

theorem core_stopped : (hw.stopped d).core = hw.core.stopped d := by
  unfold stopped
  rw [apply_ite core, core_modGrp, core_setDev, DeviceObj.dropStart_params]
  rfl

theorem core_closed : (hw.closed d).core = hw.core.closed d := by
  unfold closed
  rw [apply_ite core, core_modGrp, core_setDev, DeviceObj.dropOpen_params]
  rfl

variable {d hw} (o : DevId)

theorem nOpen_opened : (hw.opened d).nOpen o = hw.nOpen o + if o = hw.pcmObj d then 1 else 0 := by
  unfold opened
  rw [modGrp_nOpen, setDev_nOpen]
  by_cases h : o = hw.pcmObj d
  · simp only [h, if_true]
    rfl
  · simp [h]

theorem nOpen_prepared : (hw.prepared d).nOpen o = hw.nOpen o := by
  have key : (hw.setDev (hw.pcmObj d) (hw.devs (hw.pcmObj d)).takePrepare).nOpen o = hw.nOpen o := by
    rw [setDev_nOpen, DeviceObj.takePrepare_nOpen]
    by_cases h : o = hw.pcmObj d <;> simp [h, nOpen]
  unfold prepared
  split
  · rw [modGrp_nOpen, key]
  · exact key

theorem prepared_ready (h : hw.nOpen (hw.pcmObj d) ≠ 0) :
    DevState.prepared.rank ≤ ((hw.prepared d).devs (hw.pcmObj d)).state.rank := by
  have key : (hw.prepared d).devs (hw.pcmObj d) = (hw.devs (hw.pcmObj d)).takePrepare := by
    unfold prepared
    split
    · rw [modGrp_devs, setDev_devs_self]
    · rw [setDev_devs_self]
  rw [key]
  exact DeviceObj.takePrepare_ready h

theorem nOpen_started : (hw.started d).nOpen o = hw.nOpen o := by
  unfold started
  rw [modGrp_nOpen, setDev_nOpen, DeviceObj.takeStart_nOpen]
  by_cases h : o = hw.pcmObj d <;> simp [h, nOpen]

theorem nOpen_stopped : (hw.stopped d).nOpen o = hw.nOpen o := by
  unfold stopped
  split
  · rfl
  · rw [modGrp_nOpen, setDev_nOpen, DeviceObj.dropStart_nOpen]
    by_cases h : o = hw.pcmObj d <;> simp [h, nOpen]

theorem nOpen_closed :
    (hw.closed d).nOpen o = hw.nOpen o - if o = hw.pcmObj d ∧ hw.nOpen o ≠ 0 then 1 else 0 := by
  unfold closed
  split
  · rename_i h0
    have : ¬ (o = hw.pcmObj d ∧ hw.nOpen o ≠ 0) := fun ⟨h, hn⟩ => hn (h ▸ h0)
    rw [if_neg this, sub_zero]
  · rename_i h0
    rw [modGrp_nOpen, setDev_nOpen, DeviceObj.dropOpen_nOpen h0]
    by_cases h : o = hw.pcmObj d
    · simp [h, h0, nOpen]
    · simp [h]

theorem nStart_opened : (hw.opened d).nStart o = hw.nStart o := by
  unfold opened
  rw [modGrp_nStart, setDev_nStart]
  by_cases h : o = hw.pcmObj d
  · simp only [h, if_true]
    rfl
  · simp [h]

theorem nStart_prepared : (hw.prepared d).nStart o = hw.nStart o := by
  have key : (hw.setDev (hw.pcmObj d) (hw.devs (hw.pcmObj d)).takePrepare).nStart o = hw.nStart o := by
    rw [setDev_nStart, DeviceObj.takePrepare_nStart]
    by_cases h : o = hw.pcmObj d <;> simp [h, nStart]
  unfold prepared
  split
  · rw [modGrp_nStart, key]
  · exact key

theorem nStart_started (hd : ¬ (hw.devs (hw.pcmObj d)).state.rank < DevState.prepared.rank) :
    (hw.started d).nStart o = hw.nStart o + if o = hw.pcmObj d then 1 else 0 := by
  unfold started
  rw [modGrp_nStart, setDev_nStart, DeviceObj.takeStart_nStart hd]
  by_cases h : o = hw.pcmObj d <;> simp [h, nStart]

theorem nStart_stopped :
    (hw.stopped d).nStart o = hw.nStart o - if o = hw.pcmObj d ∧ hw.nStart o ≠ 0 then 1 else 0 := by
  unfold stopped
  split
  · rename_i h0
    have : ¬ (o = hw.pcmObj d ∧ hw.nStart o ≠ 0) := fun ⟨h, hn⟩ => hn (h ▸ h0)
    rw [if_neg this, sub_zero]
  · rename_i h0
    rw [modGrp_nStart, setDev_nStart, DeviceObj.dropStart_nStart h0]
    by_cases h : o = hw.pcmObj d
    · simp [h, h0, nStart]
    · simp [h]

theorem nStart_closed :
    (hw.closed d).nStart o = if o = hw.pcmObj d ∧ hw.nOpen o = 1 then 0 else hw.nStart o := by
  unfold closed
  split
  · rename_i h0
    have : ¬ (o = hw.pcmObj d ∧ hw.nOpen o = 1) := by
      rintro ⟨h, hn⟩
      rw [h, nOpen, h0] at hn
      omega
    rw [if_neg this]
  · rename_i h0
    rw [modGrp_nStart, setDev_nStart, DeviceObj.dropOpen_nStart h0]
    by_cases h : o = hw.pcmObj d
    · simp [h, nOpen, nStart]
    · simp [h]

theorem opened_devs : (hw.opened d).devs o = if o = hw.pcmObj d then (hw.devs o).takeOpen else hw.devs o := by
  unfold opened setDev
  by_cases h : o = hw.pcmObj d <;> simp [h]

theorem opened_grps (g : GrpId) : (hw.opened d).grps g =
    if (hw.devs (hw.pcmObj d)).groupData = some g then (hw.grps g).map Refcount.incOpen else hw.grps g := rfl

theorem closed_devs (h0 : hw.nOpen (hw.pcmObj d) ≠ 0) :
    (hw.closed d).devs o = if o = hw.pcmObj d then (hw.devs o).dropOpen else hw.devs o := by
  have h0 : (hw.devs (hw.pcmObj d)).refcnt.nOpen ≠ 0 := h0
  unfold closed setDev
  rw [if_neg h0]
  by_cases h : o = hw.pcmObj d <;> simp [h]

theorem closed_grps (h0 : hw.nOpen (hw.pcmObj d) ≠ 0) (g : GrpId) : (hw.closed d).grps g =
    if (hw.devs (hw.pcmObj d)).groupData = some g then (hw.grps g).map Refcount.decOpen else hw.grps g := by
  have h0 : (hw.devs (hw.pcmObj d)).refcnt.nOpen ≠ 0 := h0
  unfold closed
  rw [if_neg h0]
  rfl

/-- An object that was just opened is open. -/
theorem nOpen_opened_ne : (hw.opened d).nOpen ((hw.opened d).pcmObj d) ≠ 0 := by
  rw [pcmObj_of_fixed (fixed_opened d hw), nOpen, opened_devs, if_pos rfl]
  exact DeviceObj.takeOpen_nOpen_ne _

/-- **An open and a close cancel out.** -/
theorem devs_closed_opened : ((hw.opened d).closed d).devs = hw.devs := by
  funext o
  rw [closed_devs o nOpen_opened_ne, pcmObj_of_fixed (fixed_opened d hw), opened_devs]
  by_cases h : o = hw.pcmObj d
  · rw [if_pos h, if_pos h, DeviceObj.dropOpen_takeOpen]
  · rw [if_neg h, if_neg h]

end Hw

/-! ## The calls, by their effects -/

section

variable (d : DevId) (hw : Hw)

theorem sat_deviceOpen : Sat (deviceOpen d) hw fun r hw' => hw.Later hw' ∧
    ((r = 0 ∧ hw'.core = hw.core.opened d) ∨ (r ≠ 0 ∧ hw'.core = hw.core)) := by
  unfold deviceOpen
  simp only [sat_bind, sat_get, sat_ite, sat_modify, sat_pure, sat_ask]
  refine ⟨fun _ => ⟨hw.later_opened d, .inl ⟨trivial, Hw.core_opened d hw⟩⟩, fun _ => ⟨fun _ => ?_, fun _ => ?_⟩⟩
  · exact ⟨hw.later_called _, .inr ⟨by decide, rfl⟩⟩
  · refine ⟨trans_of Hw.Later (hw.later_called _) (Hw.later_opened d _), .inl ⟨trivial, ?_⟩⟩
    rw [Hw.core_opened, Hw.core_called]

theorem sat_devicePrepare : Sat (devicePrepare d) hw fun r hw' => hw.Later hw' ∧
    ((r = 0 ∧ hw.nOpen (hw.pcmObj d) ≠ 0 ∧ hw'.core = hw.core.prepared d) ∨ (r ≠ 0 ∧ hw'.core = hw.core)) := by
  unfold devicePrepare
  simp only [sat_bind, sat_get, sat_ite, sat_modify, sat_pure, sat_ask, sat_crash]
  refine ⟨fun h => ?_, fun _ => ⟨fun _ => trivial, fun h => ⟨fun hr => ?_, fun _ => ?_⟩⟩⟩
  · refine ⟨hw.later_prepared d, .inl ⟨trivial, fun h0 => ?_, Hw.core_prepared d hw⟩⟩
    exact h ((hw.devs (hw.pcmObj d)).idle h0).1
  · exact ⟨hw.later_called _, .inr ⟨hr, rfl⟩⟩
  · refine ⟨trans_of Hw.Later (hw.later_called _) (Hw.later_prepared d _), .inl ⟨trivial, h, ?_⟩⟩
    rw [Hw.core_prepared, Hw.core_called]

theorem sat_deviceStart : Sat (deviceStart d) hw fun r hw' => hw.Later hw' ∧
    ((r = 0 ∧ ¬ (hw.devs (hw.pcmObj d)).state.rank < DevState.prepared.rank ∧ hw'.core = hw.core.started d) ∨
      (r ≠ 0 ∧ (hw.devs (hw.pcmObj d)).state.rank < DevState.prepared.rank ∧ hw'.core = hw.core)) := by
  unfold deviceStart
  simp only [sat_bind, sat_get, sat_ite, sat_modify, sat_pure]
  refine ⟨fun h => ⟨refl_of Hw.Later hw, .inr ⟨by decide, h, trivial⟩⟩, fun h => ?_⟩
  have hnote : hw.Later (hw.noteStart d) := ⟨rfl, fun _ => List.suffix_refl _, List.suffix_refl _, Nat.le_refl _⟩
  exact ⟨trans_of Hw.Later hnote ((hw.noteStart d).later_started d),
    .inl ⟨trivial, h, Hw.core_started d (hw.noteStart d)⟩⟩

theorem sat_deviceStop : Sat (deviceStop d) hw fun _ hw' => hw.Later hw' ∧ hw'.core = hw.core.stopped d := by
  unfold deviceStop
  simp only [sat_bind, sat_get, sat_ite, sat_modify, sat_pure, sat_ask]
  refine ⟨fun h => ⟨refl_of Hw.Later hw, ?_⟩, fun h => ⟨fun _ => ?_, fun _ => ?_⟩⟩
  · rw [← Hw.core_stopped, Hw.stopped, if_pos h]
  · refine ⟨trans_of Hw.Later (hw.later_stopped d) (Hw.later_called _ _), ?_⟩
    rw [Hw.core_called, Hw.core_stopped]
  · exact ⟨hw.later_stopped d, Hw.core_stopped d hw⟩

theorem sat_deviceClose : Sat (deviceClose d) hw fun _ hw' => hw.Later hw' ∧ hw'.core = hw.core.closed d := by
  unfold deviceClose
  simp only [sat_bind, sat_get, sat_ite, sat_modify, sat_pure, sat_ask]
  refine ⟨fun h => ⟨refl_of Hw.Later hw, ?_⟩, fun h => ⟨fun _ => ?_, fun _ => ?_⟩⟩
  · rw [← Hw.core_closed, Hw.closed, if_pos h]
  · refine ⟨trans_of Hw.Later (hw.later_closed d) (Hw.later_called _ _), ?_⟩
    rw [Hw.core_called, Hw.core_closed]
  · exact ⟨hw.later_closed d, Hw.core_closed d hw⟩

end

end Agm.Service
