import Agm.Lib.Runs
import Agm.Service.Session

/-!
# The operations of the service

The `session_obj_*` functions of `session_obj.c`, and the service as a system of operations: `exec` finds the
session of an operation in the pool, runs the function with its lock held, and puts the session back.  The functions
that take a handle are only reached with a session of the pool (`session_obj_valid_check`); those that take an id
create the session.

Functions that neither change a session nor the devices (the data path, the getters) are left out.
-/

namespace Agm.Service

open Agm.Lib

/-! ## Connecting and disconnecting -/

def SessionObj.setAifState (s : SessionObj) (i : Nat) (state : AifState) : SessionObj :=
  s.setAif i { s.aifAt i with state := state }

/-- The labels at which `session_obj_sess_aif_connect` and `session_obj_open` end. -/
inductive OpLabel
  | done | unwind
  deriving DecidableEq, Repr

/-- `session_connect_aif` on the back end at place `i`, and the state that goes with its success. -/
def connectAt (i openedCount : Nat) : M Int := do
  let c ← get
  let p ← connectToOpened (c.sess.aifAt i) openedCount
  modSess (·.setAif i p.2)
  pure p.1

/-- `session_obj_sess_aif_connect` up to its labels, for a connect. -/
def hotConnectBody (i openedCount : Nat) : M (OpLabel × Int) := do
  let c ← get
  if c.sess.state = .closed then do
    modSess (·.setAifState i .open)
    pure (.done, 0)
  else do
    let ret ← connectAt i openedCount
    if ret ≠ 0 then pure (.done, ret)
    else if c.sess.state = .opened then pure (.done, 0)
    else do
      let ret ← sessionPrepare
      if ret ≠ 0 then pure (.unwind, ret)
      else if c.sess.state = .started then do
        let ret ← sessionStart
        if ret ≠ 0 then pure (.unwind, ret) else pure (.done, 0)
      else pure (.done, 0)

/-- The connect side of `session_obj_sess_aif_connect`. -/
def hotConnect (i openedCount : Nat) : M Int := do
  let e ← hotConnectBody i openedCount
  match e.1 with
  | .done => pure e.2
  | .unwind => do
    modSess (·.setAifState i .close)
    let c ← get
    let _ ← sessionDisconnectAif (c.sess.aifAt i) (openedCount + 1)
    pure e.2

/-- The disconnect side of `session_obj_sess_aif_connect`. -/
def hotDisconnect (i openedCount : Nat) : M Int := do
  modSess (·.setAifState i .close)
  let c ← get
  let ret ← onlyIf (c.sess.state ≠ .closed) (sessionDisconnectAif (c.sess.aifAt i) openedCount)
  if ret ≠ 0 then pure ret
  else do
    modSess (·.setAifState i .closed)
    pure 0

/-- `session_obj_sess_aif_connect`. -/
def sessionObjSessAifConnect (aifId : Nat) (aifState : Bool) : M Int := do
  let r ← aifObjGet aifId
  match r with
  | .error ret => pure ret
  | .ok i => do
    let c ← get
    let state := (c.sess.aifAt i).state
    if (aifState ∧ AifState.opened.rank < state.rank) ∨ (¬ aifState ∧ state.rank < AifState.open.rank) then
      pure (-EALREADY)
    else if aifState then hotConnect i (c.sess.countWithState .opened false)
    else hotDisconnect i (c.sess.countWithState .opened false)

/-! ## Opening -/

/-- The last step of `session_obj_open`. -/
def openLoopback : M (OpLabel × Int) := do
  let c ← get
  if c.sess.loopbackState then do
    let ret ← sessionSetLoopback c.sess.loopbackSessId true
    if ret ≠ 0 then do
      modSess fun s => { s with loopbackState := false, loopbackSessId := 0 }
      pure (.unwind, ret)
    else pure (.done, 0)
  else pure (.done, 0)

/-- The echo-reference step of `session_obj_open`. -/
def openEcRef : M (OpLabel × Int) := do
  let c ← get
  if c.sess.ecRefState then do
    let ret ← sessionSetEcRef c.sess.ecRefAifId true
    if ret ≠ 0 then do
      modSess fun s => { s with ecRefState := false, ecRefAifId := 0 }
      pure (.unwind, ret)
    else openLoopback
  else openLoopback

/-- `session_obj_open` up to its labels, on a closed session. -/
def sessionOpenBody (sessMode : SessMode) : M (OpLabel × Int) := do
  modSess fun s => { s with streamConfig := { s.streamConfig with sessMode := sessMode } }
  if sessMode.hasDevices then do
    let ret ← sessionOpenWithFirstDevice
    if ret ≠ 0 then pure (.done, ret)
    else do
      let ret ← sessionConnectReminderDevices
      if ret ≠ 0 then pure (.done, ret) else openEcRef
  else do
    let ret ← sessionOpenWithoutDevice
    if ret ≠ 0 then pure (.done, ret) else openLoopback

/-- `session_obj_open`. -/
def sessionObjOpen (sessMode : SessMode) : M Int := do
  let c ← get
  if c.sess.state ≠ .closed then pure (-EALREADY)
  else do
    let e ← sessionOpenBody sessMode
    match e.1 with
    | .done =>
      if e.2 ≠ 0 then pure e.2
      else do
        modSess fun s => { s with state := .opened }
        pure 0
    | .unwind => do
      let _ ← mapEachAif disconnectOpened 0
      let _ ← graphClose
      pure e.2

/-! ## Configuration and flow control -/

/-- `session_obj_set_config`.  The media configuration is looked at for its format only. -/
def sessionObjSetConfig (cfg : SessionConfig) (format : MediaFormat) : M Int := do
  modSess fun s => { s with streamConfig := cfg }
  if cfg.dir = TX then pure 0
  else do
    modSess fun s => { s with outFormat := format }
    let c ← get
    if c.sess.state = .started ∨ c.sess.state = .stopped then
      match c.sess.graph with
      | none => crash
      | some g => graphSetMediaConfigDatapath g
    else pure 0

/-- `session_obj_set_non_tunnel_mode_config`. -/
def sessionObjSetNonTunnelModeConfig (cfg : SessionConfig) (format : MediaFormat) : M Int := do
  modSess fun s => { s with streamConfig := cfg, outFormat := format }
  pure 0

/-- `session_obj_pause`. -/
def sessionObjPause : M Int := do
  let c ← get
  if c.sess.state ≠ .started then pure (-EINVAL) else graphPauseResume true

/-- `session_obj_set_sess_params`.  No payload, or one of size `0`, clears what was cached. -/
def sessionObjSetSessParams (payload : Payload) : M Int := do
  modSess fun s => { s with params := if payload = [] then none else some payload }
  let c ← get
  if payload ≠ [] ∧ c.sess.state ≠ .closed then do
    let ret ← graphSetConfig payload
    modSess fun s => { s with params := none }
    pure ret
  else pure 0

def SessionObj.setAifParams (s : SessionObj) (i : Nat) (params : Option Payload) : SessionObj :=
  s.setAif i { s.aifAt i with params := params }

/-- `session_obj_set_sess_aif_params`. -/
def sessionObjSetSessAifParams (aifId : Nat) (payload : Payload) : M Int := do
  let r ← aifObjGet aifId
  match r with
  | .error ret => pure ret
  | .ok i => do
    modSess (·.setAifParams i (if payload = [] then none else some payload))
    let c ← get
    if payload ≠ [] ∧ c.sess.state ≠ .closed ∧ (c.sess.aifAt i).isOpened then do
      let ret ← graphSetConfig payload
      modSess (·.setAifParams i none)
      pure ret
    else pure 0

/-- `session_obj_set_sess_aif_params_with_tag`; `none` is the id `UINT_MAX`, which names the session itself. -/
def sessionObjSetSessAifParamsWithTag (aifId : Option Nat) (cfg : TagConfig) : M Int := do
  match aifId with
  | none => do
    let c ← get
    if c.sess.state = .closed then pure (-EINVAL) else graphSetConfigWithTag c.sess.sessMeta.gkv cfg
  | some aifId => do
    let r ← aifObjGet aifId
    match r with
    | .error ret => pure ret
    | .ok i => do
      let c ← get
      if c.sess.state = .started ∧ ¬ (c.sess.aifAt i).isOpened then do
        modSess fun s => s.setAif i { s.aifAt i with tagConfig := some cfg }
        pure 0
      else if c.sess.state = .closed ∧ ¬ (c.sess.aifAt i).isOpened then pure (-EINVAL)
      else
        match mergedMetadata (c.sess.aifAt i) c with
        | none => pure (-ENOMEM)
        | some merged => graphSetConfigWithTag merged.gkv cfg

/-- `session_obj_set_loopback`. -/
def sessionObjSetLoopback (playbackSessId : SessId) (state : Bool) : M Int := do
  let c ← get
  if playbackSessId = c.sess.loopbackSessId ∧ state = c.sess.loopbackState then pure (-EALREADY)
  else do
    let ret ← onlyIf (c.sess.state ≠ .closed)
      (sessionSetLoopback (if state then playbackSessId else c.sess.loopbackSessId) state)
    if ret ≠ 0 then pure ret
    else do
      modSess fun s => { s with loopbackSessId := playbackSessId, loopbackState := state }
      pure 0

/-- `session_obj_set_ec_ref`. -/
def sessionObjSetEcRef (aifId : Nat) (state : Bool) : M Int := do
  let c ← get
  if aifId = c.sess.ecRefAifId ∧ state = c.sess.ecRefState then pure (-EALREADY)
  else do
    let ret ← onlyIf (c.sess.state ≠ .closed)
      (sessionSetEcRef (if state then aifId else c.sess.ecRefAifId) state)
    if ret ≠ 0 then pure ret
    else do
      modSess fun s => { s with ecRefAifId := aifId, ecRefState := state }
      pure 0

/-- `session_obj_set_sess_metadata`.  What `metadata_copy` makes of the client's bytes is an argument here. -/
def sessionObjSetSessMetadata (ret : Int) (md : Metadata) : M Int := do
  modSess fun s => { s with sessMeta := md }
  pure ret

/-- `session_obj_set_sess_aif_metadata`. -/
def sessionObjSetSessAifMetadata (aifId : Nat) (ret : Int) (md : Metadata) : M Int := do
  let r ← aifObjGet aifId
  match r with
  | .error e => pure e
  | .ok i => do
    modSess fun s => s.setAif i { s.aifAt i with sessAifMeta := md }
    pure ret

/-! ## The service -/

/-- The operations, by the session they are called on. -/
inductive Op
  | sessAifConnect (aifId : Nat) (aifState : Bool)
  | open (sessMode : SessMode)
  | setConfig (cfg : SessionConfig) (format : MediaFormat)
  | setNonTunnelModeConfig (cfg : SessionConfig) (format : MediaFormat)
  | prepare | start | stop | close | pause | resume | flush | suspend
  | setSessParams (payload : Payload)
  | setSessAifParams (aifId : Nat) (payload : Payload)
  | setSessAifParamsWithTag (aifId : Option Nat) (cfg : TagConfig)
  | setLoopback (playbackSessId : SessId) (state : Bool)
  | setEcRef (aifId : Nat) (state : Bool)
  | setSessMetadata (ret : Int) (md : Metadata)
  | setSessAifMetadata (aifId : Nat) (ret : Int) (md : Metadata)
  deriving DecidableEq, Repr

namespace Op

/-- The `session_obj_*` function of an operation. -/
def run : Op → M Int
  | .sessAifConnect aifId aifState => sessionObjSessAifConnect aifId aifState
  | .open sessMode => sessionObjOpen sessMode
  | .setConfig cfg format => sessionObjSetConfig cfg format
  | .setNonTunnelModeConfig cfg format => sessionObjSetNonTunnelModeConfig cfg format
  | .prepare => sessionPrepare
  | .start => sessionStart
  | .stop => sessionStop
  | .close => sessionClose
  | .pause => sessionObjPause
  | .resume => graphPauseResume false
  | .flush => graphFlush
  | .suspend => graphSuspend
  | .setSessParams payload => sessionObjSetSessParams payload
  | .setSessAifParams aifId payload => sessionObjSetSessAifParams aifId payload
  | .setSessAifParamsWithTag aifId cfg => sessionObjSetSessAifParamsWithTag aifId cfg
  | .setLoopback playbackSessId state => sessionObjSetLoopback playbackSessId state
  | .setEcRef aifId state => sessionObjSetEcRef aifId state
  | .setSessMetadata ret md => sessionObjSetSessMetadata ret md
  | .setSessAifMetadata aifId ret md => sessionObjSetSessAifMetadata aifId ret md

/-- The operation names its session by a handle, which `session_obj_open` gave out. -/
def takesHandle : Op → Bool
  | .setConfig _ _ | .setNonTunnelModeConfig _ _ | .prepare | .start | .stop | .close | .pause | .resume | .flush
  | .suspend => true
  | _ => false

end Op

/-- The whole service. -/
structure World where
  pool : Pool SessionObj
  hw : Hw

namespace World

/-- The session of the pool with its lock held. -/
def lock (w : World) (s : SessId) : Ctx := ⟨w.pool.objs s, w.pool, w.hw⟩

/-- The session is put back. -/
def unlock (s : SessId) (c : Ctx) : World := ⟨c.pool.put s c.sess, c.hw⟩

/-- Run a session function with the lock of its session held. -/
def locked (w : World) (s : SessId) (m : M Int) : Option (Int × World) :=
  (m (w.lock s)).map fun p => (p.1, unlock s p.2)

/-- `session_obj_get`. -/
def get (w : World) (s : SessId) : World := { w with pool := w.pool.getOrCreate s (sessionObjCreate s) }

end World

/-- One operation on a session; `none` if the process does not survive it. -/
def exec (o : SessId × Op) (w : World) : Option (Int × World) :=
  if o.2.takesHandle then
    if o.1 ∈ w.pool.ids then w.locked o.1 o.2.run else some (-EINVAL, w)
  else (w.get o.1).locked o.1 o.2.run

/-- The service as the function of an operation finds it. -/
def World.enter (w : World) (o : SessId × Op) : World := if o.2.takesHandle then w else w.get o.1

/-- The rule for one operation: what a new session does not disturb, and the function of the operation keeps, is kept. -/
theorem exec_inv {I : World → Prop} {o : SessId × Op} {w w' : World} {r : Int} (h : exec o w = some (r, w'))
    (hI : I w) (hget : I (w.get o.1))
    (hrun : o.1 ∈ (w.enter o).pool.ids → I (w.enter o) →
      Sat o.2.run ((w.enter o).lock o.1) fun _ c => I (World.unlock o.1 c)) : I w' := by
  have key {w₀ : World} (hrun : Sat o.2.run (w₀.lock o.1) fun _ c => I (World.unlock o.1 c))
      (h : w₀.locked o.1 o.2.run = some (r, w')) : I w' := by
    rw [World.locked, Option.map_eq_some_iff] at h
    obtain ⟨p, hp, he⟩ := h
    obtain ⟨-, rfl⟩ := Prod.mk.inj he
    exact hrun p.1 p.2 hp
  unfold exec at h
  unfold World.enter at hrun
  split at h
  · rename_i ht
    rw [if_pos ht] at hrun
    split at h
    · rename_i hm
      exact key (hrun hm hI) h
    · obtain ⟨-, rfl⟩ := Prod.mk.inj (Option.some.inj h)
      exact hI
  · rename_i ht
    rw [if_neg ht] at hrun
    exact key (hrun (Pool.mem_getOrCreate _ _ _) hget) h

/-- A service in which nothing is open: what the clients may have set beforehand is arbitrary. -/
structure World.Fresh (w : World) : Prop where
  closed : ∀ s ∈ w.pool.ids, (w.pool.objs s).state = .closed
  graph : ∀ s ∈ w.pool.ids, (w.pool.objs s).graph = none
  aifs : ∀ s ∈ w.pool.ids, ∀ a ∈ (w.pool.objs s).aifPool, ¬ a.isOpened
  devs : ∀ o, w.hw.nOpen o = 0

/-- A service that has just come up, with no session yet: four devices that nobody has open, and an ACDB without
tags. -/
def World.boot (env : Kind → List Int) : World where
  pool := ⟨[], sessionObjCreate, List.nodup_nil⟩
  hw := { numAudioIntfs := 4, devs := fun _ => {}, grps := fun _ => {}, acdb := ⟨fun _ => [], fun _ _ => (0, 0)⟩,
          env := env }

theorem World.fresh_boot (env : Kind → List Int) : (World.boot env).Fresh where
  closed _ h := absurd h List.not_mem_nil
  graph _ h := absurd h List.not_mem_nil
  aifs _ h := absurd h List.not_mem_nil
  devs _ := rfl

/-- The first session of such a service, with back ends that wait for an open. -/
def Ctx.waiting (aifIds : List Nat) (env : Kind → List Int) : Ctx :=
  { ((World.boot env).get 1).lock 1 with
    sess := { sessId := 1, aifPool := aifIds.map fun i => { aifId := i, devObj := i, state := .open } } }

/-- Connect and disconnect, open, prepare, start, stop and close. -/
def Op.isLifecycle : Op → Bool
  | .sessAifConnect _ _ | .open _ | .prepare | .start | .stop | .close => true
  | _ => false

end Agm.Service
