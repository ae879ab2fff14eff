import Agm.Lib.Sat
import Agm.Service.Errno
import Agm.Service.Metadata

/-!
# What the sessions share: devices, groups, and the calls that leave the service

`Hw` is everything behind a session: the device objects and their groups (`device.h`), the contents of the ACDB as
far as GSL answers questions about it, and the outside world.  The outside world is a queue of answers for each
kind of call; an exhausted queue answers `0`, so every pattern of failures of a finite run is some choice of queues.
Each call is also written into `trace`, newest first, with the answer it got.
-/

namespace Agm.Service

open Agm.Lib

abbrev DevId := Nat
abbrev GrpId := Nat
abbrev Handle := Nat
/-- A parameter blob. -/
abbrev Payload := List Nat

/-! ## Devices -/

/-- `struct refcount`. -/
structure Refcount where
  nOpen : Int := 0
  nPrepare : Int := 0
  nStart : Int := 0
  deriving DecidableEq, Repr, Inhabited

/-- `enum device_state`. -/
inductive DevState
  | closed | opened | prepared | started | stopped
  deriving DecidableEq, Repr, Inhabited

/-- The order of the enumeration. -/
def DevState.rank : DevState → Nat
  | .closed => 0 | .opened => 1 | .prepared => 2 | .started => 3 | .stopped => 4

def SLIMBUS : Nat := 4
def AUDIO_OUTPUT : Nat := 1

/-! What holds of an object that nobody has open, by name: every such object is built from these four. -/

theorem Refcount.nonneg_none : 0 ≤ (Refcount.mk 0 0 0).nOpen ∧ 0 ≤ (Refcount.mk 0 0 0).nPrepare ∧
    0 ≤ (Refcount.mk 0 0 0).nStart := by decide

theorem Refcount.idle_none : (Refcount.mk 0 0 0).nOpen = 0 →
    (Refcount.mk 0 0 0).nPrepare = 0 ∧ (Refcount.mk 0 0 0).nStart = 0 ∧ DevState.closed = .closed := by decide

theorem Refcount.ready_none : (Refcount.mk 0 0 0).nPrepare ≠ 0 ↔ DevState.prepared.rank ≤ DevState.closed.rank := by
  decide

theorem Refcount.running_none : (Refcount.mk 0 0 0).nStart ≠ 0 ↔ DevState.closed = .started := by decide

/-- `struct device_obj`.  The last four fields are what `device.c` keeps true of the counts and the state of one
object: a PCM that nobody has open is idle, one that somebody has prepared is ready to be started, and it runs as long
as somebody has it started. -/
structure DeviceObj where
  intf : Nat := 0
  dir : Nat := AUDIO_OUTPUT
  metadata : Metadata := {}
  params : Option Payload := none
  parentDev : Option DevId := none
  groupData : Option GrpId := none
  refcnt : Refcount := {}
  state : DevState := .closed
  nonneg : 0 ≤ refcnt.nOpen ∧ 0 ≤ refcnt.nPrepare ∧ 0 ≤ refcnt.nStart := by
    first | exact Refcount.nonneg_none | decide
  idle : refcnt.nOpen = 0 → refcnt.nPrepare = 0 ∧ refcnt.nStart = 0 ∧ state = .closed := by
    first | exact Refcount.idle_none | decide
  ready : refcnt.nPrepare ≠ 0 ↔ DevState.prepared.rank ≤ state.rank := by
    first | exact Refcount.ready_none | decide
  running : refcnt.nStart ≠ 0 ↔ state = .started := by
    first | exact Refcount.running_none | decide

instance : Inhabited DeviceObj := ⟨{}⟩

/-- `struct device_group_data`, the counts. -/
structure DeviceGroup where
  refcnt : Refcount := {}
  deriving DecidableEq, Repr, Inhabited

/-! ## Calls that leave the service -/

/-- Module tags.  `other` is any tag the service has no entry for. -/
inductive Tag
  | streamPcmEncoder | streamPcmDecoder | streamPlaceholderEncoder | streamPlaceholderDecoder
  | streamPcmConverter | streamInputMediaFormat | pause | streamSpr | gapless | rdShmemEndpoint
  | deviceHwEndpointRx | deviceHwEndpointTx
  | other (id : Nat)
  deriving DecidableEq, Repr, Inhabited

/-- `struct gsl_tag_module_info_entry`: a tag and the (module id, instance id) pairs listed under it. -/
structure TagEntry where
  tagId : Tag
  modules : List (Nat × Nat)
  deriving DecidableEq, Repr, Inhabited

/-- What GSL reads off the ACDB: the tag table of a graph, and the module behind one tag. -/
structure Acdb where
  tagTable : Gkv → List TagEntry
  taggedModule : Gkv → Tag → Nat × Nat

/-- On whose behalf a graph is added or removed: a back end, an echo-cancellation reference, a loopback. -/
inductive Owner
  | aif (aifId : Nat) | ecRef (aifId : Nat) | loopback (sessId : Nat)
  deriving DecidableEq, Repr, Inhabited

/-- `struct agm_tag_config`. -/
structure TagConfig where
  tag : Nat
  tkv : List KeyValue
  deriving DecidableEq, Repr, Inhabited

/-- The kinds of calls.  `configure` is the configuration callback of a module (`graph_module.c`), whose outcome
depends on media formats this layer does not look into. -/
inductive Kind
  | pcmOpen | pcmPrepare | pcmStop | pcmClose
  | getTags | gslOpen | registerEventCb | gslClose
  | prepare | start | stop | closeWithProps | flush | suspend
  | addGraph | changeGraph | removeGraph | readParams | writeParams
  | taggedModuleInfo | setCustomConfig | setConfig
  | configure
  deriving DecidableEq, Repr, Inhabited

/-- A call with the arguments the proofs look at. -/
inductive Call
  | pcmOpen (d : DevId) | pcmPrepare (d : DevId) | pcmStop (d : DevId) | pcmClose (d : DevId)
  | getTags (gkv : Gkv) | gslOpen (h : Handle) (gkv : Gkv) | registerEventCb (h : Handle) | gslClose (h : Handle)
  | prepare (h : Handle) | start (h : Handle) | stop (h : Handle) | closeWithProps (h : Handle) (gkv : Gkv)
  | flush (h : Handle) | suspend (h : Handle)
  | addGraph (h : Handle) (o : Owner) (gkv : Gkv) | changeGraph (h : Handle) (gkv : Gkv)
  | removeGraph (h : Handle) (o : Owner) (gkv : Gkv)
  | readParams (h : Handle) | writeParams (h : Handle)
  | taggedModuleInfo (gkv : Gkv) (tag : Tag)
  | setCustomConfig (h : Handle) (payload : Payload) | setConfig (h : Handle) (gkv : Gkv) (cfg : TagConfig)
  | configure (h : Handle) (tag : Tag) (miid : Nat)
  deriving DecidableEq, Repr, Inhabited

def Call.kind : Call → Kind
  | .pcmOpen _ => .pcmOpen | .pcmPrepare _ => .pcmPrepare | .pcmStop _ => .pcmStop | .pcmClose _ => .pcmClose
  | .getTags _ => .getTags | .gslOpen _ _ => .gslOpen | .registerEventCb _ => .registerEventCb
  | .gslClose _ => .gslClose | .prepare _ => .prepare | .start _ => .start | .stop _ => .stop
  | .closeWithProps _ _ => .closeWithProps | .flush _ => .flush | .suspend _ => .suspend
  | .addGraph _ _ _ => .addGraph | .changeGraph _ _ => .changeGraph | .removeGraph _ _ _ => .removeGraph
  | .readParams _ => .readParams | .writeParams _ => .writeParams
  | .taggedModuleInfo _ _ => .taggedModuleInfo | .setCustomConfig _ _ => .setCustomConfig
  | .setConfig _ _ _ => .setConfig | .configure _ _ _ => .configure

/-- A call that was made, with the answer it got. -/
structure Event where
  call : Call
  ret : Int
  deriving DecidableEq, Repr, Inhabited

/-! ## The state behind the sessions -/

structure Hw where
  build : Build := {}
  /-- `num_audio_intfs`, the length of the device list -/
  numAudioIntfs : Nat
  devs : DevId → DeviceObj
  grps : GrpId → DeviceGroup
  acdb : Acdb
  /-- the answers still to come, for each kind of call -/
  env : Kind → List Int
  /-- the calls made so far, newest first -/
  trace : List Event := []
  /-- the entries of PCMs into `DEV_STARTED`, newest first, each with the calls made before it -/
  starts : List (DevId × List Event) := []
  /-- the handle the next `gsl_open` hands out -/
  nextHandle : Handle := 0

namespace Hw

def setDev (hw : Hw) (o : DevId) (dev : DeviceObj) : Hw :=
  { hw with devs := fun d => if d = o then dev else hw.devs d }

def modGrp (hw : Hw) (g : Option GrpId) (f : DeviceGroup → DeviceGroup) : Hw :=
  { hw with grps := fun i => if g = some i then f (hw.grps i) else hw.grps i }

/-- The answer the next call gets. -/
def answer (hw : Hw) (c : Call) : Int := (hw.env c.kind).headD 0

/-- The state after a call: its answer is used up, and both are noted. -/
def called (hw : Hw) (c : Call) : Hw :=
  { hw with
    env := fun k => if k = c.kind then (hw.env k).tail else hw.env k
    trace := ⟨c, hw.answer c⟩ :: hw.trace }

@[simp] theorem setDev_devs_self (hw : Hw) (o : DevId) (dev : DeviceObj) : (hw.setDev o dev).devs o = dev := by
  simp [setDev]

theorem setDev_devs_of_ne (hw : Hw) {o d : DevId} (dev : DeviceObj) (h : d ≠ o) :
    (hw.setDev o dev).devs d = hw.devs d := by simp [setDev, h]

@[simp] theorem setDev_grps (hw : Hw) (o : DevId) (dev : DeviceObj) : (hw.setDev o dev).grps = hw.grps := rfl

@[simp] theorem modGrp_devs (hw : Hw) (g : Option GrpId) (f : DeviceGroup → DeviceGroup) :
    (hw.modGrp g f).devs = hw.devs := rfl

@[simp] theorem called_devs (hw : Hw) (c : Call) : (hw.called c).devs = hw.devs := rfl
@[simp] theorem called_grps (hw : Hw) (c : Call) : (hw.called c).grps = hw.grps := rfl

end Hw

/-- Make a call. -/
def ask (c : Call) : Prog Hw Int := do
  let hw ← get
  modify (·.called c)
  pure (hw.answer c)

/-- Make a GSL call and turn its code into a Linux one. -/
def askGsl (c : Call) : Prog Hw Int := do
  let ret ← ask c
  pure (arErrGetLnxErrCode ret)

@[simp] theorem sat_ask (c : Call) (hw : Hw) (Q : Int → Hw → Prop) :
    Sat (ask c) hw Q ↔ Q (hw.answer c) (hw.called c) := by simp [ask]

@[simp] theorem sat_askGsl (c : Call) (hw : Hw) (Q : Int → Hw → Prop) :
    Sat (askGsl c) hw Q ↔ Q (arErrGetLnxErrCode (hw.answer c)) (hw.called c) := by simp [askGsl]

end Agm.Service
