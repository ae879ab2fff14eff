import Mathlib.Data.List.Induction
import Agm.Lib.History
import Agm.Service.Objects

/-!
# The state that the ALSA plugin mirrors

The I/O plugin of alsa-lib (`agm_io_plugin.c`) keeps a state of its own beside the state of the session, by which
`agm_io_start` and `agm_io_transfer` tell whether there is anything left to do.  What the session itself is doing can be
read off the calls that were made of it.
-/

namespace Agm.Plugin

open Agm.Lib Agm.Service

/-! ## The plugin -/

inductive IoState
  | open
  | setup
  | prepared
  | running
  deriving DecidableEq, Repr

def IoState.val : IoState → Nat
  | .open => 1
  | .setup => 2
  | .prepared => 3
  | .running => 4

/-- `struct agm_media_config`, with the format as ALSA has it. -/
structure IoMediaConfig where
  rate : Nat := 0
  channels : Nat := 0
  format : Nat := 0
  deriving DecidableEq, Repr

/-- `struct agm_buffer_config`. -/
structure IoBufferConfig where
  count : Nat := 0
  size : Nat := 0
  deriving DecidableEq, Repr

/-- The fields of `struct agm_session_config` that the plugin writes. -/
structure IoSessionConfig where
  dir : Nat := 0
  sessMode : Int := 0
  startThreshold : Nat := 0
  stopThreshold : Nat := 0
  deriving DecidableEq, Repr

/-- A call of AGM, for the session of the plugin. -/
inductive AgmCall
  | setConfig (session : IoSessionConfig) (media : IoMediaConfig) (buffer : IoBufferConfig)
  | prepare
  | start
  | stop
  | write (count : Nat)
  | read (count : Nat)
  | pause
  | resume
  deriving DecidableEq, Repr

/-- What AGM returns, and what it leaves in the count of bytes. -/
abbrev AgmAnswers := AgmCall → Int × Nat

/-- The callbacks of `agm_io_callback` that make calls for a stream. -/
inductive IoCallback
  | hwParams
  | swParams
  | prepare
  | start
  | stop
  | transfer
  | pause
  deriving DecidableEq, Repr

/-- What has happened: a call of AGM and what it returned, or the return of a callback. -/
inductive IoEvent
  | call (c : AgmCall) (ret : Int)
  | returned (cb : IoCallback) (ret : Int)
  deriving DecidableEq, Repr

/-- `struct agmio_priv`, with its `snd_pcm_ioplug_t` and the properties of its node, and what has happened. -/
structure AgmioPriv where
  playback : Bool
  sessMode : Int
  handle : Nat
  state : IoState := .open
  mediaConfig : IoMediaConfig := {}
  bufferConfig : IoBufferConfig := {}
  sessionConfig : IoSessionConfig := {}
  periodSize : Nat := 0
  frameSize : Nat := 0
  hwPointer : Int := 0
  boundary : Nat := 0
  log : List IoEvent := []
  deriving DecidableEq, Repr

/-- What alsa-lib has negotiated when it calls `hw_params`; a period has frames. -/
structure HwParams where
  rate : Nat
  channels : Nat
  format : Nat
  physicalWidth : Nat
  bufferSize : Nat
  periodSize : Nat
  period_pos : 0 < periodSize
  deriving DecidableEq, Repr

structure SwParams where
  startThreshold : Nat
  stopThreshold : Nat
  boundary : Nat
  deriving DecidableEq, Repr

/-- A callback with its arguments. -/
inductive IoOp
  | hwParams (p : HwParams)
  | swParams (p : SwParams)
  | prepare
  | start
  | stop
  | transfer (size : Nat)
  | pause (enable : Bool)
  deriving DecidableEq, Repr

/-- `session_config->dir`. -/
def AgmioPriv.dir (pcm : AgmioPriv) : Nat := if pcm.playback then RX else TX

variable (agm : AgmAnswers) (pcm : AgmioPriv)

/-- A call of AGM. -/
def AgmioPriv.call (c : AgmCall) : Int × AgmioPriv :=
  ((agm c).1, { pcm with log := pcm.log ++ [.call c (agm c).1] })

/-- `agm_get_session_handle`. -/
def agmGetSessionHandle : Int := if pcm.handle = 0 then -EINVAL else 0

/-- The first half of `agm_io_start`. -/
def agmIoStartPrepare : Int × AgmioPriv :=
  if pcm.state.val < IoState.prepared.val then
    let p := pcm.call agm .prepare
    if p.1 ≠ 0 then p else (0, { p.2 with state := .prepared })
  else (0, pcm)

def agmIoStart : Int × AgmioPriv :=
  let ret := agmGetSessionHandle pcm
  if ret ≠ 0 then (ret, pcm)
  else
    let p := agmIoStartPrepare agm pcm
    if p.1 ≠ 0 then p
    else if p.2.state ≠ .running then
      let q := p.2.call agm .start
      if q.1 = 0 then (0, { q.2 with state := .running }) else q
    else p

def agmIoStop : Int × AgmioPriv :=
  let ret := agmGetSessionHandle pcm
  if ret ≠ 0 then (ret, pcm) else pcm.call agm .stop

/-- The second half of `agm_io_transfer`, where AGM has moved `count` bytes. -/
def agmIoMovePointer (ret : Int) (count : Nat) : Int × AgmioPriv :=
  let frames : Int := count / pcm.frameSize
  let r := if ret = 0 then (frames, pcm.hwPointer + frames) else (ret, pcm.hwPointer)
  (r.1, { pcm with hwPointer := if r.2 > pcm.boundary then r.2 - pcm.boundary else r.2 })

def agmIoTransfer (size : Nat) : Int × AgmioPriv :=
  let ret := agmGetSessionHandle pcm
  if ret ≠ 0 then (ret, pcm)
  else
    let p := if pcm.state ≠ .running then agmIoStart agm pcm else (0, pcm)
    if p.1 ≠ 0 then p
    else
      let count := size * pcm.frameSize
      let c := if pcm.playback then AgmCall.write count else AgmCall.read count
      let q := p.2.call agm c
      agmIoMovePointer q.2 q.1 (agm c).2

def agmIoPrepare : Int × AgmioPriv :=
  let ret := agmGetSessionHandle pcm
  if ret ≠ 0 then (ret, pcm) else pcm.call agm .prepare

/-- What `agm_io_hw_params` takes over from alsa-lib. -/
def AgmioPriv.configured (p : HwParams) : AgmioPriv :=
  let frameSize := p.physicalWidth * p.channels / 8
  { pcm with
    frameSize := frameSize
    mediaConfig := ⟨p.rate, p.channels, p.format⟩
    bufferConfig := ⟨p.bufferSize / p.periodSize, p.periodSize * frameSize⟩
    periodSize := p.periodSize
    hwPointer := 0
    sessionConfig := { pcm.sessionConfig with dir := pcm.dir, sessMode := pcm.sessMode } }

/-- `agm_session_set_config`, with the configuration of the plugin. -/
def AgmioPriv.setConfig : Int × AgmioPriv :=
  pcm.call agm (.setConfig pcm.sessionConfig pcm.mediaConfig pcm.bufferConfig)

/-- `agm_io_hw_params`; it does not look at what `agm_get_session_handle` says. -/
def agmIoHwParams (p : HwParams) : Int × AgmioPriv :=
  let q := (pcm.configured p).setConfig agm
  if q.1 = 0 then (0, { q.2 with state := .setup }) else q

def agmIoSwParams (p : SwParams) : Int × AgmioPriv :=
  let ret := agmGetSessionHandle pcm
  if ret ≠ 0 then (ret, pcm)
  else AgmioPriv.setConfig agm { pcm with
    boundary := p.boundary
    sessionConfig := ⟨pcm.dir, pcm.sessMode, p.startThreshold % 2 ^ 32, p.stopThreshold % 2 ^ 32⟩ }

def agmIoPause (enable : Bool) : Int × AgmioPriv :=
  let ret := agmGetSessionHandle pcm
  if ret ≠ 0 then (ret, pcm) else pcm.call agm (if enable then .pause else .resume)

/-- `agm_io_callback`. -/
def agmIoCallback : IoOp → IoCallback × (Int × AgmioPriv)
  | .hwParams p => (.hwParams, agmIoHwParams agm pcm p)
  | .swParams p => (.swParams, agmIoSwParams agm pcm p)
  | .prepare => (.prepare, agmIoPrepare agm pcm)
  | .start => (.start, agmIoStart agm pcm)
  | .stop => (.stop, agmIoStop agm pcm)
  | .transfer size => (.transfer, agmIoTransfer agm pcm size)
  | .pause enable => (.pause, agmIoPause agm pcm enable)

/-- A callback, and that it has returned. -/
def ioExec (op : IoOp) : AgmioPriv :=
  let r := agmIoCallback agm pcm op
  { r.2.2 with log := r.2.2.log ++ [.returned r.1 r.2.1] }

/-- Callbacks one after the other, with the answers that AGM gives during each. -/
def ioRun (pcm : AgmioPriv) (ops : List (IoOp × AgmAnswers)) : AgmioPriv :=
  ops.foldl (fun pcm op => ioExec op.2 pcm op.1) pcm

/-! ## What the session is doing -/

/-- The session is started by a successful `agm_session_start`, up to the next `agm_session_stop`. -/
def IoEvent.startedAfter (started : Bool) : IoEvent → Bool
  | .call .start ret => started || ret = 0
  | .call .stop _ => false
  | _ => started

def sessionStarted (log : List IoEvent) : Bool := log.foldl IoEvent.startedAfter false

/-- A successful start, up to the next successful `hw_params`. -/
def IoEvent.ranAfter (ran : Bool) : IoEvent → Bool
  | .call .start ret => ran || ret = 0
  | .returned .hwParams ret => ran && ret ≠ 0
  | _ => ran

/-- There has been a successful start since the last successful `hw_params`. -/
def hasRun (log : List IoEvent) : Bool := log.foldl IoEvent.ranAfter false

/-- `agm_io_start` returns 0 only if the session is started, and data is moved only while it is. -/
def IoEvent.Right (past : List IoEvent) : IoEvent → Prop
  | .returned .start ret => ret = 0 → sessionStarted past
  | .call (.write _) _ => sessionStarted past
  | .call (.read _) _ => sessionStarted past
  | _ => True

/-- The callbacks that rely on the session being started. -/
def IoOp.Plays : IoOp → Prop
  | .start => True
  | .transfer _ => True
  | _ => False

/-- A stop has come after a successful start, and no successful `hw_params` after that start. -/
def Stopped (log : List IoEvent) : Prop := hasRun log ∧ ¬ sessionStarted log

instance (past : List IoEvent) (e : IoEvent) : Decidable (e.Right past) := by
  unfold IoEvent.Right
  split <;> infer_instance

instance (op : IoOp) : Decidable op.Plays := by
  unfold IoOp.Plays
  split <;> infer_instance

instance (log : List IoEvent) : Decidable (Stopped log) := instDecidableAnd

section

variable {log : List IoEvent} {e : IoEvent}

@[simp] theorem sessionStarted_concat : sessionStarted (log ++ [e]) = e.startedAfter (sessionStarted log) :=
  List.foldl_concat _ _ _ _

@[simp] theorem hasRun_concat : hasRun (log ++ [e]) = e.ranAfter (hasRun log) := List.foldl_concat _ _ _ _

end

/-- The mirror shows `RUNNING` exactly while `hasRun`, and then there is a handle. -/
structure AgmioPriv.Mirrors (pcm : AgmioPriv) : Prop where
  running : pcm.state = .running ↔ hasRun pcm.log
  handle : pcm.state = .running → pcm.handle ≠ 0

/-- The calls that only change the log. -/
def AgmCall.Plain : AgmCall → Prop
  | .setConfig _ _ _ => True
  | .prepare => True
  | .stop => True
  | .pause => True
  | .resume => True
  | _ => False

section

variable {agm : AgmAnswers} {pcm : AgmioPriv}

theorem agmGetSessionHandle_ne : agmGetSessionHandle pcm ≠ 0 ↔ pcm.handle = 0 := by
  unfold agmGetSessionHandle
  split
  · next h => exact ⟨fun _ => h, fun _ => by decide⟩
  · next h => exact ⟨fun h0 => absurd rfl h0, fun h0 => absurd h0 h⟩

theorem AgmioPriv.Mirrors.call (h : pcm.Mirrors) {c : AgmCall} (hc : c ≠ .start) :
    (pcm.call agm c).2.Mirrors := by
  refine ⟨?_, h.handle⟩
  show pcm.state = .running ↔ hasRun (pcm.log ++ [.call c (agm c).1])
  rw [hasRun_concat, h.running]
  cases c <;> first | rfl | exact absurd rfl hc

theorem right_call_of_plain {c : AgmCall} (hc : c.Plain) :
    EachAfter IoEvent.Right (pcm.call agm c).2.log ↔ EachAfter IoEvent.Right pcm.log := by
  show EachAfter IoEvent.Right (pcm.log ++ [.call c (agm c).1]) ↔ _
  rw [eachAfter_concat, and_iff_left]
  cases c <;> trivial

theorem AgmCall.Plain.ne_start {c : AgmCall} (hc : c.Plain) : c ≠ .start := by
  rintro rfl
  exact hc

/-- What a callback does to the state, the handle and the log. -/
structure AgmioPriv.Does (pcm : AgmioPriv) (plays : Prop) (r : Int × AgmioPriv) : Prop where
  mirrors : r.2.Mirrors
  handle : r.2.handle = pcm.handle
  right : EachAfter IoEvent.Right r.2.log ↔ EachAfter IoEvent.Right pcm.log ∧ (plays → ¬ Stopped pcm.log)

theorem AgmioPriv.Mirrors.does_self (h : pcm.Mirrors) (ret : Int) : pcm.Does False (ret, pcm) :=
  ⟨h, rfl, by simp⟩

theorem AgmioPriv.Mirrors.does_call (h : pcm.Mirrors) {c : AgmCall} (hc : c.Plain) :
    pcm.Does False (pcm.call agm c) := by
  refine ⟨h.call hc.ne_start, rfl, ?_⟩
  rw [right_call_of_plain hc]
  simp

/-- A call that is made where there is a handle. -/
theorem AgmioPriv.Mirrors.does_handled (h : pcm.Mirrors) {c : AgmCall} (hc : c.Plain) :
    pcm.Does False (if agmGetSessionHandle pcm ≠ 0 then (agmGetSessionHandle pcm, pcm) else pcm.call agm c) := by
  split
  · exact h.does_self _
  · exact h.does_call hc

/-! ## Starting -/

/-- `agm_io_start`, where there is a handle. -/
structure AgmioPriv.Starts (pcm : AgmioPriv) (r : Int × AgmioPriv) : Prop where
  mirrors : r.2.Mirrors
  handle : r.2.handle = pcm.handle
  right : EachAfter IoEvent.Right r.2.log ↔ EachAfter IoEvent.Right pcm.log
  skipped : pcm.state = .running → r = (0, pcm)
  started : pcm.state ≠ .running → r.1 = 0 → sessionStarted r.2.log

theorem agmIoStartPrepare_spec (h : pcm.Mirrors) : (agmIoStartPrepare agm pcm).2.Mirrors ∧
    (agmIoStartPrepare agm pcm).2.handle = pcm.handle ∧
    (EachAfter IoEvent.Right (agmIoStartPrepare agm pcm).2.log ↔ EachAfter IoEvent.Right pcm.log) ∧
    (pcm.state = .running → agmIoStartPrepare agm pcm = (0, pcm)) ∧
    (pcm.state ≠ .running → (agmIoStartPrepare agm pcm).2.state ≠ .running) := by
  have hcall : (pcm.call agm .prepare).2.Mirrors := h.call (by decide)
  have hright : EachAfter IoEvent.Right (pcm.call agm .prepare).2.log ↔ EachAfter IoEvent.Right pcm.log :=
    right_call_of_plain trivial
  unfold agmIoStartPrepare
  split
  · next hlt =>
    have hne : pcm.state ≠ .running := by
      intro hrun
      rw [hrun] at hlt
      exact absurd hlt (by decide)
    dsimp only
    split
    · exact ⟨hcall, rfl, hright, fun hrun => absurd hrun hne, fun _ => hne⟩
    · refine ⟨⟨?_, fun hrun => nomatch hrun⟩, rfl, hright, fun hrun => absurd hrun hne, fun _ hrun => nomatch hrun⟩
      have hstate : (pcm.call agm .prepare).2.state ≠ .running := hne
      exact iff_of_false (fun hrun => nomatch hrun) (mt hcall.running.2 hstate)
  · exact ⟨h, rfl, Iff.rfl, fun _ => rfl, fun hne => hne⟩

theorem agmIoStart_spec (h : pcm.Mirrors) (hhandle : pcm.handle ≠ 0) : pcm.Starts (agmIoStart agm pcm) := by
  obtain ⟨hmirrors, hsame, hright, hskip, hne⟩ := @agmIoStartPrepare_spec agm pcm h
  unfold agmIoStart
  rw [if_neg (mt agmGetSessionHandle_ne.1 hhandle)]
  dsimp only
  split
  · next hret =>
    refine ⟨hmirrors, hsame, hright, ?_, fun _ h0 => absurd h0 hret⟩
    intro hrun
    exact absurd (congrArg Prod.fst (hskip hrun)) hret
  · split
    · next hstate =>
      have hnot : pcm.state ≠ .running := by
        intro hrun
        rw [hskip hrun] at hstate
        exact hstate hrun
      have hcalled : EachAfter IoEvent.Right ((agmIoStartPrepare agm pcm).2.call agm .start).2.log ↔
          EachAfter IoEvent.Right pcm.log := by
        rw [← hright]
        exact eachAfter_concat.trans (and_iff_left trivial)
      split
      · next h0 =>
        refine ⟨⟨?_, fun _ => ?_⟩, hsame, hcalled, fun hrun => absurd hrun hnot, fun _ _ => ?_⟩
        · refine iff_of_true rfl ?_
          show hasRun (_ ++ [IoEvent.call .start (agm .start).1])
          rw [hasRun_concat, show (agm .start).1 = 0 from h0]
          simp [IoEvent.ranAfter]
        · exact fun h0 => hhandle (hsame.symm.trans h0)
        · show sessionStarted (_ ++ [IoEvent.call .start (agm .start).1])
          rw [sessionStarted_concat, show (agm .start).1 = 0 from h0]
          simp [IoEvent.startedAfter]
      · next h0 =>
        refine ⟨⟨?_, hmirrors.handle⟩, hsame, hcalled, fun hrun => absurd hrun hnot, fun _ h0' => absurd h0' h0⟩
        have h0 : (agm .start).1 ≠ 0 := h0
        show (agmIoStartPrepare agm pcm).2.state = .running ↔ hasRun (_ ++ [IoEvent.call .start (agm .start).1])
        rw [hasRun_concat, hmirrors.running]
        simp [IoEvent.ranAfter, h0]
    · next hstate =>
      have hrun : pcm.state = .running := by
        by_contra hnot
        exact hstate (hne hnot)
      rw [hskip hrun]
      exact ⟨h, rfl, Iff.rfl, fun _ => rfl, fun hnot => absurd hrun hnot⟩

/-! ## Every callback -/

/-- With no successful start, nothing has been stopped. -/
theorem AgmioPriv.Mirrors.not_stopped (h : pcm.Mirrors) (hne : pcm.state ≠ .running) : ¬ Stopped pcm.log := by
  rintro ⟨hrun, -⟩
  exact hne (h.running.2 hrun)

theorem AgmioPriv.Mirrors.stopped_iff (h : pcm.Mirrors) (hrun : pcm.state = .running) :
    Stopped pcm.log ↔ ¬ sessionStarted pcm.log := and_iff_right (h.running.1 hrun)

/-- `agm_io_write` and `agm_io_read`, as far as the log goes. -/
theorem right_move {c : AgmCall} {count : Nat} (hc : c = .write count ∨ c = .read count) :
    EachAfter IoEvent.Right (pcm.call agm c).2.log ↔
      EachAfter IoEvent.Right pcm.log ∧ sessionStarted pcm.log := by
  show EachAfter IoEvent.Right (pcm.log ++ [.call c (agm c).1]) ↔ _
  rw [eachAfter_concat]
  rcases hc with rfl | rfl <;> rfl

theorem agmIoTransfer_spec (h : pcm.Mirrors) (size : Nat) : pcm.Does True (agmIoTransfer agm pcm size) := by
  unfold agmIoTransfer
  dsimp only
  split
  · next hret =>
    have hhandle : pcm.handle = 0 := agmGetSessionHandle_ne.1 hret
    have hnot := h.not_stopped fun hrun => h.handle hrun hhandle
    exact ⟨h, rfl, (and_iff_left fun _ => hnot).symm⟩
  · next hret =>
    have hhandle : pcm.handle ≠ 0 := mt agmGetSessionHandle_ne.2 hret
    generalize hp : (if pcm.state ≠ .running then agmIoStart agm pcm else (0, pcm)) = p
    generalize hc : (if pcm.playback then AgmCall.write (size * pcm.frameSize)
      else AgmCall.read (size * pcm.frameSize)) = c
    have hmove : c = .write (size * pcm.frameSize) ∨ c = .read (size * pcm.frameSize) := by
      rw [← hc]
      split
      · exact Or.inl rfl
      · exact Or.inr rfl
    have hcall (hm : p.2.Mirrors) : (p.2.call agm c).2.Mirrors := by
      apply hm.call
      rcases hmove with h | h <;> rw [h] <;> exact fun h => nomatch h
    split at hp
    · next hstate =>
      obtain ⟨hm, hsame, hright, -, hstarted⟩ := hp ▸ @agmIoStart_spec agm pcm h hhandle
      have hnot := h.not_stopped hstate
      split
      · exact ⟨hm, hsame, hright.trans (and_iff_left fun _ => hnot).symm⟩
      · next hp0 =>
        refine ⟨⟨(hcall hm).running, (hcall hm).handle⟩, hsame, ?_⟩
        refine (right_move hmove).trans ?_
        rw [hright]
        exact and_congr_right fun _ => iff_of_true (hstarted hstate (not_not.1 hp0)) fun _ => hnot
    · next hstate =>
      obtain rfl := hp
      have hrun : pcm.state = .running := not_not.1 hstate
      rw [if_neg (by simp)]
      refine ⟨⟨(hcall h).running, (hcall h).handle⟩, rfl, ?_⟩
      refine (right_move hmove).trans ?_
      rw [h.stopped_iff hrun]
      simp

/-- A callback that is neither `hw_params` nor `start` returns. -/
theorem AgmioPriv.Does.returned {plays : Prop} {r : Int × AgmioPriv} (h : pcm.Does plays r) {cb : IoCallback}
    (hhw : cb ≠ .hwParams) (hstart : cb ≠ .start) :
    pcm.Does plays (r.1, { r.2 with log := r.2.log ++ [.returned cb r.1] }) := by
  refine ⟨⟨?_, h.mirrors.handle⟩, h.handle, ?_⟩
  · refine h.mirrors.running.trans ?_
    show hasRun r.2.log ↔ hasRun (r.2.log ++ [.returned cb r.1])
    rw [hasRun_concat]
    cases cb <;> first | rfl | exact absurd rfl hhw
  · refine Iff.trans ?_ h.right
    refine eachAfter_concat.trans (and_iff_left ?_)
    cases cb <;> trivial

theorem ioExec_hwParams (h : pcm.Mirrors) (p : HwParams) :
    pcm.Does False (0, ioExec agm pcm (.hwParams p)) := by
  have hconf : (pcm.configured p).Mirrors := ⟨h.running, h.handle⟩
  have hcall : (pcm.configured p).Does False ((pcm.configured p).setConfig agm) := hconf.does_call trivial
  show pcm.Does False (0, { (agmIoHwParams agm pcm p).2 with
    log := (agmIoHwParams agm pcm p).2.log ++ [.returned .hwParams (agmIoHwParams agm pcm p).1] })
  unfold agmIoHwParams
  dsimp only
  split
  · refine ⟨⟨?_, fun hrun => nomatch hrun⟩, hcall.handle, ?_⟩
    · refine iff_of_false (fun hrun => nomatch hrun) ?_
      show ¬ hasRun (_ ++ [IoEvent.returned .hwParams 0])
      rw [hasRun_concat]
      simp [IoEvent.ranAfter]
    · exact (eachAfter_concat.trans (and_iff_left trivial)).trans hcall.right
  · next hret =>
    refine ⟨⟨?_, hcall.mirrors.handle⟩, hcall.handle, ?_⟩
    · refine hcall.mirrors.running.trans ?_
      show _ ↔ hasRun (_ ++ [IoEvent.returned .hwParams _])
      rw [hasRun_concat]
      simp [IoEvent.ranAfter, hret]
    · exact (eachAfter_concat.trans (and_iff_left trivial)).trans hcall.right

theorem agmIoStart_right (h : pcm.Mirrors) : (agmIoStart agm pcm).2.Mirrors ∧
    (agmIoStart agm pcm).2.handle = pcm.handle ∧
    (EachAfter IoEvent.Right (agmIoStart agm pcm).2.log ∧
        ((agmIoStart agm pcm).1 = 0 → sessionStarted (agmIoStart agm pcm).2.log) ↔
      EachAfter IoEvent.Right pcm.log ∧ ¬ Stopped pcm.log) := by
  by_cases hhandle : pcm.handle = 0
  · have hret : agmGetSessionHandle pcm ≠ 0 := agmGetSessionHandle_ne.2 hhandle
    have hnot := h.not_stopped fun hrun => h.handle hrun hhandle
    have hstart : agmIoStart agm pcm = (agmGetSessionHandle pcm, pcm) := if_pos hret
    rw [hstart]
    exact ⟨h, rfl, and_congr_right fun _ => iff_of_true (fun h0 => absurd h0 hret) hnot⟩
  · obtain ⟨hm, hsame, hright, hskip, hstarted⟩ := @agmIoStart_spec agm pcm h hhandle
    refine ⟨hm, hsame, ?_⟩
    rw [hright]
    refine and_congr_right fun _ => ?_
    by_cases hrun : pcm.state = .running
    · rw [h.stopped_iff hrun, hskip hrun]
      simp
    · exact iff_of_true (hstarted hrun) (h.not_stopped hrun)

theorem ioExec_start (h : pcm.Mirrors) : pcm.Does True (0, ioExec agm pcm .start) := by
  obtain ⟨hm, hsame, hright⟩ := @agmIoStart_right agm pcm h
  refine ⟨⟨?_, hm.handle⟩, hsame, ?_⟩
  · refine hm.running.trans ?_
    show _ ↔ hasRun (_ ++ [IoEvent.returned .start _])
    rw [hasRun_concat]
    rfl
  · rw [forall_const]
    exact eachAfter_concat.trans hright

/-- **One callback.**  The plugin goes wrong exactly if it relies on a session that has been stopped. -/
theorem ioExec_does (h : pcm.Mirrors) (op : IoOp) : pcm.Does op.Plays (0, ioExec agm pcm op) := by
  have hplain (cb : IoCallback) (r : Int × AgmioPriv) (hd : pcm.Does op.Plays r) (hhw : cb ≠ .hwParams)
      (hstart : cb ≠ .start) (hexec : agmIoCallback agm pcm op = (cb, r)) :
      pcm.Does op.Plays (0, ioExec agm pcm op) := by
    have hd := hd.returned hhw hstart
    unfold ioExec
    rw [hexec]
    exact ⟨hd.mirrors, hd.handle, hd.right⟩
  cases op with
  | hwParams p => exact ioExec_hwParams h p
  | start => exact ioExec_start h
  | transfer size => exact hplain .transfer _ (agmIoTransfer_spec h size) (by decide) (by decide) rfl
  | prepare => exact hplain .prepare _ (h.does_handled (c := .prepare) trivial) (by decide) (by decide) rfl
  | stop => exact hplain .stop _ (h.does_handled (c := .stop) trivial) (by decide) (by decide) rfl
  | swParams p =>
    refine hplain .swParams (agmIoSwParams agm pcm p) ?_ (by decide) (by decide) rfl
    unfold agmIoSwParams
    dsimp only
    split
    · exact h.does_self _
    · let pcm' : AgmioPriv := { pcm with
        boundary := p.boundary
        sessionConfig := ⟨pcm.dir, pcm.sessMode, p.startThreshold % 2 ^ 32, p.stopThreshold % 2 ^ 32⟩ }
      have hm : pcm'.Mirrors := ⟨h.running, h.handle⟩
      have hd : pcm'.Does False (pcm'.setConfig agm) := hm.does_call trivial
      exact ⟨hd.mirrors, hd.handle, hd.right⟩
  | pause enable =>
    refine hplain .pause _ (h.does_handled ?_) (by decide) (by decide) rfl
    cases enable <;> trivial

end

/-- **The mirror and the session.**  From the state after the open, the plugin is right for as long as no start and no
transfer comes between a stop of a session that has run and the next `hw_params`. -/
theorem io_callbacks_right_iff (pcm : AgmioPriv) (hstate : pcm.state = .open) (hlog : pcm.log = [])
    (ops : List (IoOp × AgmAnswers)) : EachAfter IoEvent.Right (ioRun pcm ops).log ↔
      EachAfter (fun past op => op.1.Plays → ¬ Stopped (ioRun pcm past).log) ops := by
  have hmirrors : pcm.Mirrors := by
    refine ⟨?_, fun hrun => nomatch hstate.symm.trans hrun⟩
    rw [hstate, hlog]
    decide
  have hright : EachAfter IoEvent.Right pcm.log := by
    rw [hlog]
    exact eachAfter_nil
  have hstep (s : AgmioPriv) (op : IoOp × AgmAnswers) (h : s.Mirrors) : (ioExec op.2 s op.1).Mirrors ∧
      (EachAfter IoEvent.Right (ioExec op.2 s op.1).log ↔
        EachAfter IoEvent.Right s.log ∧ (op.1.Plays → ¬ Stopped s.log)) := by
    have hd := @ioExec_does op.2 s h op.1
    exact ⟨hd.mirrors, hd.right⟩
  exact right_run_iff AgmioPriv.Mirrors (fun s => EachAfter IoEvent.Right s.log) hmirrors hright hstep ops

/-- A playback PCM, and an AGM of which every call succeeds. -/
def openedPcm : AgmioPriv := { playback := true, sessMode := 0, handle := 1 }

def granting : AgmAnswers := fun _ => (0, 0)

def stereo : HwParams := ⟨48000, 2, 2, 16, 960, 240, by decide⟩

/-- After another `hw_params` the session is started again. -/
theorem io_callbacks_right_restart : EachAfter IoEvent.Right (ioRun openedPcm
    ([.hwParams stereo, .start, .transfer 240, .stop, .hwParams stereo, .start, .transfer 240].map (·, granting))).log :=
  (io_callbacks_right_iff openedPcm rfl rfl _).2 (by decide +kernel)

/-- Stopped and prepared, the stream is started by ALSA once more: `agm_io_start` returns 0 with no call of AGM, and the
data are written to a stopped session. -/
theorem io_callbacks_stopped :
    let pcm := ioRun openedPcm
      ([.hwParams stereo, .prepare, .start, .stop, .prepare, .start, .transfer 240].map (·, granting))
    pcm.log.getLast? = some (.returned .transfer 0) ∧ IoEvent.call (.write 960) 0 ∈ pcm.log ∧
      ¬ sessionStarted pcm.log ∧ ¬ EachAfter IoEvent.Right pcm.log := by
  decide +kernel

end Agm.Plugin
