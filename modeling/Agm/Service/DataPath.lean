import Agm.Service.GslProtocol

/-!
# The data path

Reading and writing, the times and the buffers of a session: the `session_obj_*` functions that leave the session as it
is, and the functions of `graph.c` under them.  They share the graph with the operations of `Ops`, so a run is one of
both kinds.  What `gsl_read` and the others answer comes from a queue of its own, and every call is noted together with
the calls on devices and graphs that were made before it.
-/

namespace Agm.Service

open Agm.Lib

/-! ## Calls on the data path -/

/-- `SHMEM_ENDPOINT`, `RD_SHMEM_ENDPOINT` and `WR_SHMEM_ENDPOINT`. -/
inductive ShmemTag
  | shmem | rdShmem | wrShmem
  deriving DecidableEq, Repr

/-- `struct agm_buff`, which `struct gsl_buff` copies field by field.  Buffers are given by their addresses. -/
structure DataBuff where
  timestamp : UInt64 := 0
  flags : UInt32 := 0
  size : UInt32
  addr : UInt64
  metadataSize : UInt32 := 0
  metadata : UInt64 := 0
  allocHandle : UInt32 := 0
  allocSize : UInt32 := 0
  offset : UInt32 := 0
  deriving DecidableEq, Repr

/-- `struct agm_event_reg_cfg`. -/
structure EventReg where
  moduleInstanceId : UInt32
  eventId : UInt32
  isRegister : UInt8
  payload : List UInt8
  deriving DecidableEq, Repr

/-- `enum agm_gapless_silence_type`. -/
inductive SilenceType
  | initial | trailing
  deriving DecidableEq, Repr

/-- The four commands of `graph_get_buf_info`. -/
inductive BufInfoCmd
  | writeBuff | readBuff | writePosBuff | readPosBuff
  deriving DecidableEq, Repr

/-- A call on the data path; `h` is the graph it is made on. -/
inductive DataCall
  | write (h : Handle) (tag : ShmemTag) (buf : DataBuff)
  | read (h : Handle) (tag : ShmemTag) (buf : DataBuff)
  | eos (h : Handle)
  | sprTime (h : Handle) (miid : Nat)
  | bufInfo (h : Handle) (cmd : BufInfoCmd)
  | silence (h : Handle) (miid : Nat) (type : SilenceType) (samples : UInt32)
  | registerEvent (h : Handle) (cfg : EventReg)
  | getConfig (h : Handle) (payload : List UInt8)
  deriving DecidableEq, Repr

def DataCall.handle : DataCall → Handle
  | .write h _ _ | .read h _ _ | .eos h | .sprTime h _ | .bufInfo h _ | .silence h _ _ _ | .registerEvent h _
  | .getConfig h _ => h

/-- What GSL answers, and what it leaves in the memory it was given: a size, the timestamp of the buffer, the two halves
of a time, the file descriptor of a buffer with its size, a parameter. -/
structure DataAnswer where
  ret : Int := 0
  size : UInt32 := 0
  timestamp : UInt64 := 0
  time : UInt32 × UInt32 := (0, 0)
  fd : Option Int32 := none
  payload : List UInt8 := []
  deriving DecidableEq, Repr

/-- A call with its answer, and the calls on graphs and devices before it. -/
structure DataEvent where
  past : List Event
  call : DataCall
  answer : DataAnswer
  deriving DecidableEq, Repr

/-- What a function of the data path works on.  `stamps` is `buf_info.timestamp` of the graph objects. -/
structure DataCtx where
  ctx : Ctx
  stamps : Handle → UInt64
  answers : List DataAnswer
  log : List DataEvent

namespace DataCtx

/-- The answer the next call gets. -/
def answer (d : DataCtx) : DataAnswer := d.answers.headD {}

/-- The state after a call. -/
def called (d : DataCtx) (k : DataCall) : DataCtx :=
  { d with answers := d.answers.tail, log := ⟨d.ctx.hw.trace, k, d.answer⟩ :: d.log }

def stamp (d : DataCtx) (h : Handle) (time : UInt64) : DataCtx :=
  { d with stamps := fun x => if x = h then time else d.stamps x }

end DataCtx

abbrev DM := Prog DataCtx

/-- Run a function of the session or of its graph. -/
def onControl {α : Type} (m : M α) : DM α := zoom DataCtx.ctx (fun c d => { d with ctx := c }) m

def askData (k : DataCall) : DM DataAnswer := do
  let d ← get
  modify (·.called k)
  pure d.answer

/-- A function of `graph.c`, given the graph of the session, and what it answers to a `NULL` pointer. -/
def onGraph {α : Type} (missing : α) (f : GraphObj → DM α) : DM α := do
  let d ← get
  match d.ctx.sess.graph with
  | none => pure missing
  | some g => f g

/-! ## `graph.c` -/

/-- The endpoint `graph_write` writes to. -/
def SessionConfig.writeTag (cfg : SessionConfig) : ShmemTag :=
  if cfg.sessMode = .nonTunnel ∧ cfg.dir = RX + TX then .wrShmem else .shmem

/-- The endpoint `graph_read` reads from. -/
def SessionConfig.readTag (cfg : SessionConfig) : ShmemTag :=
  if cfg.sessMode = .nonTunnel ∧ cfg.dir = RX + TX then .rdShmem
  else if cfg.sessMode = .compress ∧ cfg.dir = TX then .rdShmem
  else .shmem

/-- `graph_write`: the code and `*size`, which a failed write leaves as it is. -/
def graphWrite (buffer : DataBuff) (size : UInt64) : DM (Int × UInt64) := onGraph (-EINVAL, size) fun g => do
  let d ← get
  let a ← askData (.write g.handle d.ctx.sess.streamConfig.writeTag buffer)
  if a.ret ≠ 0 then pure (arErrGetLnxErrCode a.ret, size) else pure (a.ret, a.size.toUInt64)

/-- `graph_read`: the code and `*size`, which is written whatever the code.  The size that GSL writes is read as an
`int`. -/
def graphRead (buffer : DataBuff) (size : UInt64) : DM (Int × UInt64) := onGraph (-EINVAL, size) fun g => do
  let d ← get
  let cfg := d.ctx.sess.streamConfig
  let a ← askData (.read g.handle cfg.readTag buffer)
  let ret := if a.ret ≠ 0 ∨ (a.size = 0 ∧ cfg.sessMode ≠ .nonTunnel) then arErrGetLnxErrCode a.ret else a.ret
  modify (·.stamp g.handle a.timestamp)
  pure (ret, a.size.toInt32.toInt64.toUInt64)

/-- `graph_eos`. -/
def graphEos : DM Int := onGraph (-EINVAL) fun g => do
  let a ← askData (.eos g.handle)
  pure (arErrGetLnxErrCode a.ret)

/-- `graph_get_session_time`: the code and what is written to `*tstamp`, if anything is. -/
def graphGetSessionTime : DM (Int × Option UInt64) := onGraph (-EINVAL, none) fun g => do
  if g.state ≠ .started then pure (0, none)
  else if g.sprMiid = 0 then pure (0, none)
  else do
    let a ← askData (.sprTime g.handle g.sprMiid)
    if a.ret ≠ 0 then pure (arErrGetLnxErrCode a.ret, none)
    else pure (a.ret, some (a.time.1.toUInt64 <<< 32 ||| a.time.2.toUInt64))

/-- `graph_get_buffer_timestamp`. -/
def graphGetBufferTimestamp : DM (Int × Option UInt64) := onGraph (-EINVAL, none) fun g => do
  let d ← get
  if g.state ≠ .started then pure (-EINVAL, none) else pure (0, some (d.stamps g.handle))

/-- `graph_register_for_events`.  The timestamp is cleared whether the registration succeeds or not. -/
def graphRegisterForEvents (cfg : EventReg) : DM Int := onGraph (-EINVAL) fun g => do
  let a ← askData (.registerEvent g.handle cfg)
  let ret := if a.ret ≠ 0 then arErrGetLnxErrCode a.ret else a.ret
  modify (·.stamp g.handle 0)
  pure ret

/-- `graph_get_hw_processed_buff_cnt`, which asks nobody. -/
def graphGetHwProcessedBuffCnt : DM Int := onGraph 0 fun _ => pure 2

/-- `struct agm_buf_info`, as far as it is written: file descriptor and size of the data and of the position buffer. -/
structure BufInfo where
  dataBuf : Option (Int32 × UInt32) := none
  posBuf : Option (Int32 × UInt32) := none
  deriving DecidableEq, Repr

/-- `graph_fill_buf_info`.  The code of GSL is handed on as it is. -/
def graphFillBufInfo (g : GraphObj) (cmd : BufInfoCmd) : DM (Int × Option (Int32 × UInt32)) := do
  let a ← askData (.bufInfo g.handle cmd)
  if a.ret ≠ 0 then pure (a.ret, none) else pure (a.ret, a.fd.map fun fd => (fd, a.size))

/-- The buffer of one flag; `ret` is the code so far. -/
def graphFillFlagged (flagged : Bool) (ret : Int) (g : GraphObj) (cmd : BufInfoCmd) :
    DM (Int × Option (Int32 × UInt32)) :=
  if flagged then graphFillBufInfo g cmd else pure (ret, none)

def DATA_BUF : UInt32 := 0x1
def POS_BUF : UInt32 := 0x2

/-- `graph_get_buf_info`.  `configured` says that the buffers of the session's direction have a count and a size; what
`configure_buffer_params` answers is not looked at. -/
def graphGetBufInfo (configured : Bool) (flag : UInt32) : DM (Int × BufInfo) := onGraph (-EINVAL, {}) fun g => do
  if ¬ configured then pure (-EINVAL, {})
  else do
    let _ ← onControl (configureBufferParams g)
    let d ← get
    let isRx := d.ctx.sess.streamConfig.dir = RX
    let p ← graphFillFlagged (flag &&& DATA_BUF ≠ 0) (-EINVAL) g (if isRx then .writeBuff else .readBuff)
    let q ← graphFillFlagged (flag &&& POS_BUF ≠ 0) p.1 g (if isRx then .writePosBuff else .readPosBuff)
    pure (q.1, { dataBuf := p.2, posBuf := q.2 })

/-- `graph_set_gapless_metadata`, the call it makes; `none` is a silence type that is neither of the two.  The code of GSL
is handed on as it is. -/
def graphSetGapless (type : Option SilenceType) (silence : UInt32) : DM Int := onGraph (-EINVAL) fun g => do
  let decoderMiid := ((g.taggedModList.find? fun m => m.tag = .streamPlaceholderDecoder).map ModuleInfo.miid).getD 0
  if decoderMiid = 0 then pure (-EINVAL)
  else match type with
    | none => pure 0
    | some type => do
      let a ← askData (.silence g.handle decoderMiid type silence)
      pure a.ret

/-- `graph_get_config`: the code and what is in the payload afterwards. -/
def graphGetConfig (payload : List UInt8) : DM (Int × List UInt8) := onGraph (-EINVAL, payload) fun g => do
  let a ← askData (.getConfig g.handle payload)
  pure (if a.ret ≠ 0 then arErrGetLnxErrCode a.ret else a.ret, a.payload)

/-! ## `session_obj.c` -/

/-- What a caller is answered: the code, a size, a time that was written, and what else was filled in. -/
structure DataReply where
  ret : Int := 0
  size : UInt64 := 0
  time : Option UInt64 := none
  bufInfo : BufInfo := {}
  payload : List UInt8 := []
  deriving DecidableEq, Repr

/-- The functions of the data path are refused in a session that is closed. -/
def unlessClosed (refused : DataReply) (m : DM DataReply) : DM DataReply := do
  let d ← get
  if d.ctx.sess.state = .closed then pure refused else m

/-- `session_obj_read`. -/
def sessionObjRead (buff count : UInt64) : DM DataReply :=
  unlessClosed { ret := -EINVAL, size := count } do
    let p ← graphRead { size := count.toUInt32, addr := buff } count
    pure { ret := p.1, size := p.2 }

/-- `session_obj_write`. -/
def sessionObjWrite (buff count : UInt64) : DM DataReply :=
  unlessClosed { ret := -EINVAL, size := count } do
    let p ← graphWrite { size := count.toUInt32, addr := buff } count
    pure { ret := p.1, size := p.2 }

/-- `session_obj_read_with_metadata`; `readSize` is what the variable of this name holds before it is written. -/
def sessionObjReadWithMetadata (buffer : DataBuff) (captured : UInt32) (readSize : UInt64) : DM DataReply :=
  unlessClosed { ret := -EINVAL, size := captured.toUInt64 } do
    let p ← graphRead buffer readSize
    pure { ret := p.1, size := p.2.toUInt32.toUInt64 }

/-- `session_obj_write_with_metadata`. -/
def sessionObjWriteWithMetadata (buffer : DataBuff) (consumed : UInt64) : DM DataReply :=
  unlessClosed { ret := -EINVAL, size := consumed } do
    let p ← graphWrite buffer consumed
    pure { ret := p.1, size := p.2 }

/-- `session_obj_hw_processed_buff_cnt`. -/
def sessionObjHwProcessedBuffCnt : DM DataReply :=
  unlessClosed { ret := -EINVAL } do
    let ret ← graphGetHwProcessedBuffCnt
    pure { ret := ret }

/-- `session_obj_eos`. -/
def sessionObjEos : DM DataReply :=
  unlessClosed { ret := -EINVAL } do
    let ret ← graphEos
    pure { ret := ret }

/-- `session_obj_get_timestamp`. -/
def sessionObjGetTimestamp : DM DataReply :=
  unlessClosed { ret := -EINVAL } do
    let p ← graphGetSessionTime
    pure { ret := p.1, time := p.2 }

/-- `session_obj_buffer_timestamp`, which asks for a session that is started. -/
def sessionObjBufferTimestamp : DM DataReply := do
  let d ← get
  if d.ctx.sess.state ≠ .started then pure { ret := -EINVAL }
  else do
    let p ← graphGetBufferTimestamp
    pure { ret := p.1, time := p.2 }

/-- `session_obj_get_sess_buf_info`. -/
def sessionObjGetSessBufInfo (configured : Bool) (flag : UInt32) : DM DataReply :=
  unlessClosed { ret := -EINVAL } do
    let p ← graphGetBufInfo configured flag
    pure { ret := p.1, bufInfo := p.2 }

/-- `session_obj_set_gapless_metadata`. -/
def sessionObjSetGaplessMetadata (type : Option SilenceType) (silence : UInt32) : DM DataReply :=
  unlessClosed { ret := -EINVAL } do
    let ret ← graphSetGapless type silence
    pure { ret := ret }

/-- `session_obj_register_for_events`. -/
def sessionObjRegisterForEvents (cfg : EventReg) : DM DataReply :=
  unlessClosed { ret := -EINVAL } do
    let ret ← graphRegisterForEvents cfg
    pure { ret := ret }

/-- `session_obj_get_sess_params`: the one function that a closed session answers with `0`. -/
def sessionObjGetSessParams (payload : List UInt8) : DM DataReply :=
  unlessClosed { payload := payload } do
    let p ← graphGetConfig payload
    pure { ret := p.1, payload := p.2 }

/-! ## The service -/

/-- The functions of the data path. -/
inductive DataOp
  | read (buff count : UInt64)
  | write (buff count : UInt64)
  | readWithMetadata (buffer : DataBuff) (captured : UInt32) (readSize : UInt64)
  | writeWithMetadata (buffer : DataBuff) (consumed : UInt64)
  | writeDatapathParams (buffer : DataBuff)
  | hwProcessedBuffCnt | eos | sessionTime | bufferTimestamp
  | getBufInfo (configured : Bool) (flag : UInt32)
  | setGaplessMetadata (type : Option SilenceType) (silence : UInt32)
  | registerForEvents (cfg : EventReg)
  | getParams (payload : List UInt8)
  deriving DecidableEq, Repr

namespace DataOp

def run : DataOp → DM DataReply
  | .read buff count => sessionObjRead buff count
  | .write buff count => sessionObjWrite buff count
  | .readWithMetadata buffer captured readSize => sessionObjReadWithMetadata buffer captured readSize
  | .writeWithMetadata buffer consumed => sessionObjWriteWithMetadata buffer consumed
  | .writeDatapathParams buffer => sessionObjWriteWithMetadata buffer 0
  | .hwProcessedBuffCnt => sessionObjHwProcessedBuffCnt
  | .eos => sessionObjEos
  | .sessionTime => sessionObjGetTimestamp
  | .bufferTimestamp => sessionObjBufferTimestamp
  | .getBufInfo configured flag => sessionObjGetSessBufInfo configured flag
  | .setGaplessMetadata type silence => sessionObjSetGaplessMetadata type silence
  | .registerForEvents cfg => sessionObjRegisterForEvents cfg
  | .getParams payload => sessionObjGetSessParams payload

/-- The answer to a handle that names no session: what the caller handed in is left as it is. -/
def refused : DataOp → DataReply
  | .read _ count | .write _ count => { ret := -EINVAL, size := count }
  | .readWithMetadata _ captured _ => { ret := -EINVAL, size := captured.toUInt64 }
  | .writeWithMetadata _ consumed => { ret := -EINVAL, size := consumed }
  | _ => { ret := -EINVAL }

/-- The function names its session by a handle. -/
def takesHandle : DataOp → Bool
  | .writeDatapathParams _ | .bufferTimestamp | .getBufInfo _ _ | .registerForEvents _ | .getParams _ => false
  | _ => true

end DataOp

/-- The service with the data path of its graphs. -/
structure DataWorld where
  world : World
  stamps : Handle → UInt64
  answers : List DataAnswer
  log : List DataEvent

namespace DataWorld

def lock (w : DataWorld) (s : SessId) : DataCtx := ⟨w.world.lock s, w.stamps, w.answers, w.log⟩

def unlock (s : SessId) (d : DataCtx) : DataWorld := ⟨World.unlock s d.ctx, d.stamps, d.answers, d.log⟩

def locked (w : DataWorld) (s : SessId) (m : DM DataReply) : Option (DataReply × DataWorld) :=
  (m (w.lock s)).map fun p => (p.1, unlock s p.2)

/-- `session_obj_get`. -/
def get (w : DataWorld) (s : SessId) : DataWorld := { w with world := w.world.get s }

end DataWorld

/-- An operation of `Ops`, or a function of the data path on a session. -/
inductive ServiceOp
  | control (o : SessId × Op)
  | data (s : SessId) (op : DataOp)
  deriving DecidableEq, Repr

def execData : ServiceOp → DataWorld → Option (DataReply × DataWorld)
  | .control o, w => (exec o w.world).map fun p => ({ ret := p.1 }, { w with world := p.2 })
  | .data s op, w =>
    if op.takesHandle then
      if s ∈ w.world.pool.ids then w.locked s op.run else some (op.refused, w)
    else (w.get s).locked s op.run

/-! ## What a function of the data path does -/

@[simp] theorem sat_onControl {α : Type} (m : M α) (d : DataCtx) (Q : α → DataCtx → Prop) :
    Sat (onControl m) d Q ↔ Sat m d.ctx (fun a c => Q a { d with ctx := c }) := sat_zoom _ _ _ _ _

@[simp] theorem sat_askData (k : DataCall) (d : DataCtx) (Q : DataAnswer → DataCtx → Prop) :
    Sat (askData k) d Q ↔ Q d.answer (d.called k) := by simp [askData]

theorem sat_onGraph {α : Type} {missing : α} {f : GraphObj → DM α} {d : DataCtx} {Q : α → DataCtx → Prop}
    (h0 : d.ctx.sess.graph = none → Q missing d) (h : ∀ g, d.ctx.sess.graph = some g → Sat (f g) d Q) :
    Sat (onGraph missing f) d Q := by
  unfold onGraph
  rw [sat_bind, sat_get]
  cases hg : d.ctx.sess.graph with
  | none => exact (sat_pure _ _ _).2 (h0 hg)
  | some g => exact h g hg

/-- The time a graph object keeps, read off the calls: that of the last buffer that was read, unless events were
registered after it. -/
def lastStamp (h : Handle) : List DataEvent → UInt64
  | [] => 0
  | e :: log => match e.call with
    | .read h' _ _ => if h' = h then e.answer.timestamp else lastStamp h log
    | .registerEvent h' _ => if h' = h then 0 else lastStamp h log
    | _ => lastStamp h log

/-- The call asks the module that keeps the time of the graph, which was configured before. -/
def DataEvent.AsksSpr (e : DataEvent) : Prop :=
  ∀ h miid, e.call = .sprTime h miid → miid ≠ 0 ∧ ∃ k ∈ e.past, k.call = .configure h .streamSpr miid

/-- The call was made on `own`, somewhere between `c` and `c'`. -/
structure DataEvent.Between (own : Option Handle) (c c' : Ctx) (e : DataEvent) : Prop where
  handle : own = some e.call.handle
  asksSpr : c.SprAsked own → e.AsksSpr
  past : ∃ at_, c.hw.Used own at_ ∧ e.past = at_.trace ∧ e.past <:+ c'.hw.trace

/-- Calls on `own` were made, and all is left as it is but for the buffers of the graph being configured. -/
structure DataCtx.Used (own : Option Handle) (d d' : DataCtx) : Prop where
  ctx : d.ctx.Used own d'.ctx
  call : d.ctx.GraphCall d'.ctx
  log : ∃ es, d'.log = es ++ d.log ∧ ∀ e ∈ es, e.Between own d.ctx d'.ctx
  stamps : (∀ h, d.stamps h = lastStamp h d.log) → ∀ h, d'.stamps h = lastStamp h d'.log

namespace DataCtx

variable {own : Option Handle} {d : DataCtx}

instance : IsPreorder DataCtx (Used own) where
  refl d := ⟨refl_of (Ctx.Used own) d.ctx, refl_of Ctx.GraphCall d.ctx,
    ⟨[], rfl, fun _ he => absurd he List.not_mem_nil⟩, id⟩
  trans d d₁ d₂ h h' := by
    obtain ⟨es, hlog, hes⟩ := h.log
    obtain ⟨es', hlog', hes'⟩ := h'.log
    refine ⟨trans_of (Ctx.Used own) h.ctx h'.ctx, trans_of Ctx.GraphCall h.call h'.call,
      ⟨es' ++ es, by rw [hlog', hlog, List.append_assoc], fun e he => ?_⟩, h'.stamps ∘ h.stamps⟩
    rcases List.mem_append.1 he with he | he
    · obtain ⟨hown, hspr, at_, hat, hpast, hsuffix⟩ := hes' e he
      exact ⟨hown, hspr ∘ h.ctx.spr, at_, trans_of (Hw.Used own) h.ctx.hw hat, hpast, hsuffix⟩
    · obtain ⟨hown, hspr, at_, hat, hpast, hsuffix⟩ := hes e he
      obtain ⟨ks, htrace, -⟩ := h'.ctx.hw.trace
      exact ⟨hown, hspr, at_, hat, hpast, hsuffix.trans ⟨ks, htrace.symm⟩⟩

/-- One call, with what it does to the times. -/
theorem used_called {k : DataCall} (hown : own = some k.handle)
    (hspr : d.ctx.SprAsked own → DataEvent.AsksSpr ⟨d.ctx.hw.trace, k, d.answer⟩) {stamps : Handle → UInt64}
    (hstamps : (∀ h, d.stamps h = lastStamp h d.log) →
      ∀ h, stamps h = lastStamp h (⟨d.ctx.hw.trace, k, d.answer⟩ :: d.log)) :
    d.Used own { d.called k with stamps := stamps } := by
  refine ⟨refl_of (Ctx.Used own) d.ctx, refl_of Ctx.GraphCall d.ctx,
    ⟨[⟨d.ctx.hw.trace, k, d.answer⟩], rfl, fun e he => ?_⟩, hstamps⟩
  rw [List.mem_singleton.1 he]
  exact ⟨hown, hspr, d.ctx.hw, refl_of (Hw.Used own) d.ctx.hw, rfl, List.suffix_rfl⟩

end DataCtx

/-- A call that is neither a read nor a registration nor a question for the time. -/
def DataCall.isPlain : DataCall → Bool
  | .read _ _ _ | .registerEvent _ _ | .sprTime _ _ => false
  | _ => true

section

variable {own : Option Handle}

theorem within_onGraph {α : Type} {R : DataCtx → DataCtx → Prop} [IsPreorder DataCtx R] {missing : α}
    {f : GraphObj → DM α} (h : ∀ g, Within R (f g)) : Within R (onGraph missing f) := fun d =>
  sat_onGraph (fun _ => refl_of R d) fun g _ => h g d

theorem used_askData {k : DataCall} (hown : own = some k.handle) (hk : k.isPlain) :
    Within (DataCtx.Used own) (askData k) := fun d => by
  refine (sat_askData k d _).2 (DataCtx.used_called hown (fun _ h miid he => ?_) fun hst h => ?_)
  · obtain rfl : k = .sprTime h miid := he
    cases hk
  · rw [hst h]
    cases k <;> first | rfl | cases hk

/-- A call that sets the time of its graph. -/
theorem used_askStamp {k : DataCall} {h : Handle} {v : DataAnswer → UInt64} {α : Type} {f : DataAnswer → α}
    (hown : own = some k.handle) (hk : ∀ h miid, k ≠ .sprTime h miid)
    (hlast : ∀ x past a log, lastStamp x (⟨past, k, a⟩ :: log) = if h = x then v a else lastStamp x log) :
    Within (DataCtx.Used own) (askData k >>= fun a =>
      modify (fun d => d.stamp h (v a)) >>= fun _ => pure (f a) : DM α) := fun d => by
  rw [sat_bind, sat_askData, sat_bind, sat_modify, sat_pure]
  refine DataCtx.used_called hown (fun _ h miid he => absurd he (hk h miid)) fun hst x => ?_
  rw [hlast, ← hst x]
  by_cases hx : h = x
  · rw [if_pos hx, if_pos hx.symm]
  · rw [if_neg hx, if_neg (Ne.symm hx)]
    rfl

theorem used_onControl {α : Type} {m : M α} (hm : Within (Ctx.Used own) m) (hc : Within Ctx.GraphCall m) :
    Within (DataCtx.Used own) (onControl m) := fun d => by
  rw [sat_onControl]
  exact ((hm d.ctx).and (hc d.ctx)).mono fun _ c h =>
    ⟨h.1, h.2, ⟨[], rfl, fun _ he => absurd he List.not_mem_nil⟩, id⟩

end

/-- The same of the graph of the session. -/
def DataCtx.UsesOwn (d d' : DataCtx) : Prop := d.Used d.ctx.handle d'

instance : IsPreorder DataCtx DataCtx.UsesOwn where
  refl d := refl_of (DataCtx.Used d.ctx.handle) d
  trans d _ _ h h' := trans_of (DataCtx.Used d.ctx.handle) h (h.ctx.handle ▸ h')

theorem own_onGraph {α : Type} {missing : α} {f : GraphObj → DM α}
    (hf : ∀ g, Within (DataCtx.Used (some g.handle)) (f g)) : Within DataCtx.UsesOwn (onGraph missing f) := fun d => by
  refine sat_onGraph (fun _ => refl_of DataCtx.UsesOwn d) fun g hg => ?_
  have hown : d.ctx.handle = some g.handle := congrArg (Option.map GraphObj.handle) hg
  exact (hf g d).mono fun _ d' hu => (show d.Used d.ctx.handle d' from hown.symm ▸ hu)

/-! ## The functions of `graph.c` -/

theorem own_graphWrite (buffer : DataBuff) (size : UInt64) : Within DataCtx.UsesOwn (graphWrite buffer size) :=
  own_onGraph fun _ => within_bind within_get fun _ => within_bind (used_askData rfl rfl) fun _ =>
    within_ite (within_pure _) (within_pure _)

theorem own_graphRead (buffer : DataBuff) (size : UInt64) : Within DataCtx.UsesOwn (graphRead buffer size) :=
  own_onGraph fun g => within_bind within_get fun _ =>
    used_askStamp (h := g.handle) (v := DataAnswer.timestamp) rfl (fun _ _ he => DataCall.noConfusion he)
      fun _ _ _ _ => rfl

theorem own_graphEos : Within DataCtx.UsesOwn graphEos :=
  own_onGraph fun _ => within_bind (used_askData rfl rfl) fun _ => within_pure _

theorem own_graphGetSessionTime : Within DataCtx.UsesOwn graphGetSessionTime := fun d => by
  refine sat_onGraph (fun _ => refl_of DataCtx.UsesOwn d) fun g hg => ?_
  rw [sat_ite, sat_pure, sat_ite, sat_pure]
  refine ⟨fun _ => refl_of DataCtx.UsesOwn d, fun _ => ⟨fun _ => refl_of DataCtx.UsesOwn d, fun hne => ?_⟩⟩
  have hown : d.ctx.handle = some g.handle := congrArg (Option.map GraphObj.handle) hg
  have hask : d.UsesOwn { d.called (.sprTime g.handle g.sprMiid) with stamps := d.stamps } := by
    refine DataCtx.used_called (k := .sprTime g.handle g.sprMiid) hown (fun hspr h miid he => ?_) fun hst => hst
    obtain ⟨rfl, rfl⟩ := DataCall.sprTime.inj he
    obtain ⟨x, hx, e, hmem, hcall⟩ := hspr g hg hne
    obtain rfl : g.handle = x := Option.some.inj (hown.symm.trans hx)
    exact ⟨hne, e, hmem, hcall⟩
  rw [sat_bind, sat_askData]
  exact ((within_ite (within_pure _) (within_pure _) : Within DataCtx.UsesOwn _) _).mono
    fun _ _ h => trans_of DataCtx.UsesOwn hask h

theorem own_graphGetBufferTimestamp : Within DataCtx.UsesOwn graphGetBufferTimestamp :=
  own_onGraph fun _ => within_bind within_get fun _ => within_ite (within_pure _) (within_pure _)

theorem own_graphRegisterForEvents (cfg : EventReg) : Within DataCtx.UsesOwn (graphRegisterForEvents cfg) :=
  own_onGraph fun g => used_askStamp (h := g.handle) (v := fun _ => 0) rfl (fun _ _ he => DataCall.noConfusion he)
    fun _ _ _ _ => rfl

theorem own_graphGetBufInfo (configured : Bool) (flag : UInt32) :
    Within DataCtx.UsesOwn (graphGetBufInfo configured flag) := by
  have hfill (flagged : Bool) (ret : Int) (g : GraphObj) (cmd : BufInfoCmd) :
      Within (DataCtx.Used (some g.handle)) (graphFillFlagged flagged ret g cmd) :=
    within_ite (within_bind (used_askData rfl rfl) fun _ => within_ite (within_pure _) (within_pure _)) (within_pure _)
  refine own_onGraph fun g => within_ite (within_pure _) ?_
  exact within_bind (used_onControl (used_configureBufferParams g) (callFrame_graphCall.configureBufferParams g)) fun _ =>
    within_bind within_get fun _ => within_bind (hfill _ _ g _) fun _ => within_bind (hfill _ _ g _) fun _ =>
      within_pure _

theorem own_graphSetGapless (type : Option SilenceType) (silence : UInt32) :
    Within DataCtx.UsesOwn (graphSetGapless type silence) := by
  refine own_onGraph fun g => within_ite (within_pure _) ?_
  cases type with
  | none => exact within_pure _
  | some type => exact within_bind (used_askData rfl rfl) fun _ => within_pure _

theorem own_graphGetConfig (payload : List UInt8) : Within DataCtx.UsesOwn (graphGetConfig payload) :=
  own_onGraph fun _ => within_bind (used_askData rfl rfl) fun _ => within_pure _

/-- Every function of the data path. -/
theorem own_dataRun (op : DataOp) : Within DataCtx.UsesOwn op.run := by
  have hsess {α : Type} {refused : DataReply} {m : DM α} {f : α → DataReply} (hm : Within DataCtx.UsesOwn m) :
      Within DataCtx.UsesOwn (unlessClosed refused (m >>= fun a => pure (f a))) :=
    within_bind within_get fun _ => within_ite (within_pure _) (within_bind hm fun _ => within_pure _)
  cases op with
  | read buff count => exact hsess (own_graphRead _ _)
  | write buff count => exact hsess (own_graphWrite _ _)
  | readWithMetadata buffer captured readSize => exact hsess (own_graphRead _ _)
  | writeWithMetadata buffer consumed => exact hsess (own_graphWrite _ _)
  | writeDatapathParams buffer => exact hsess (own_graphWrite _ _)
  | hwProcessedBuffCnt => exact hsess (within_onGraph fun _ => within_pure _)
  | eos => exact hsess own_graphEos
  | sessionTime => exact hsess own_graphGetSessionTime
  | bufferTimestamp =>
    exact within_bind within_get fun _ => within_ite (within_pure _) <|
      within_bind own_graphGetBufferTimestamp fun _ => within_pure _
  | getBufInfo configured flag => exact hsess (own_graphGetBufInfo _ _)
  | setGaplessMetadata type silence => exact hsess (own_graphSetGapless _ _)
  | registerForEvents cfg => exact hsess (own_graphRegisterForEvents _)
  | getParams payload => exact hsess (own_graphGetConfig _)

/-! ## Runs -/

/-- A service in which no graph was opened and nothing was read. -/
structure DataWorld.Fresh (w : DataWorld) : Prop where
  world : w.world.Fresh
  trace : w.world.hw.trace = []
  stamps : ∀ h, w.stamps h = 0
  log : w.log = []

/-- The call was made while GSL held the graph, and before the calls of `trace` that are new since. -/
structure DataEvent.InTurn (trace : List Event) (e : DataEvent) : Prop where
  held : (gslMonitor e.call.handle).after e.past = some .held
  past : e.past <:+ trace
  asksSpr : e.AsksSpr

structure DataWorld.InTurn (w : DataWorld) : Prop where
  world : w.world.InTurn
  log : ∀ e ∈ w.log, e.InTurn w.world.hw.trace
  stamps : ∀ h, w.stamps h = lastStamp h w.log

namespace DataWorld

variable {w w' : DataWorld}

/-- What the functions of one session do keeps every call in turn. -/
theorem InTurn.unlock (hw : w.InTurn) {s : SessId} (hs : s ∈ w.world.pool.ids) {d : DataCtx}
    (hu : (w.lock s).UsesOwn d) : (DataWorld.unlock s d).InTurn := by
  have hlock := hw.world.lock hs
  have hbare : d.ctx.sess.ClosedBare := by
    have hst : d.ctx.sess.state = (w.world.lock s).sess.state := (congrArg SessionObj.state hu.call.sess :)
    exact SessionObj.ClosedBare.of_face (c := w.world.lock s) (hw.world.bare s hs) hst hu.call.graph
  have hgrows : (w.world.lock s).Grows d.ctx := by
    refine ⟨?_, hu.call.hw.later⟩
    rw [hu.call.pool]
    exact refl_of (Pool.Grows sessionObjCreate) (w.world.lock s).pool
  refine ⟨hw.world.unlock hs (hlock.usesOwn hu.ctx) hbare hgrows, fun e he => ?_, hu.stamps hw.stamps⟩
  obtain ⟨es, hlog, hes⟩ := hu.log
  obtain ⟨ks, htrace, -⟩ := hu.ctx.hw.trace
  rw [show (DataWorld.unlock s d).log = es ++ w.log from hlog] at he
  rcases List.mem_append.1 he with he | he
  · obtain ⟨hown, hspr, at_, hat, hpast, hsuffix⟩ := hes e he
    refine ⟨?_, hsuffix, hspr (hw.world.spr s hs)⟩
    have hturn := hlock.hw.used (fun _ hx => .inr hx) hat
    obtain ⟨state, hafter, hheld, -⟩ := hturn e.call.handle
    rw [hpast, hafter, hheld.2 (.inr hown)]
  · obtain ⟨hheld, hpast, hspr⟩ := hw.log e he
    exact ⟨hheld, hpast.trans ⟨ks, htrace.symm⟩, hspr⟩

theorem InTurn.step {o : ServiceOp} {r : DataReply} (hw : w.InTurn) (h : execData o w = some (r, w')) : w'.InTurn := by
  have hlocked {w : DataWorld} {s : SessId} {m : DM DataReply} (hw : w.InTurn) (hs : s ∈ w.world.pool.ids)
      (hm : Within DataCtx.UsesOwn m) (h : w.locked s m = some (r, w')) : w'.InTurn := by
    obtain ⟨p, hp, he⟩ := Option.map_eq_some_iff.1 h
    obtain ⟨-, rfl⟩ := Prod.mk.inj he
    exact hw.unlock hs (hm _ p.1 p.2 hp)
  cases o with
  | control o =>
    obtain ⟨p, hp, he⟩ := Option.map_eq_some_iff.1 h
    obtain ⟨-, rfl⟩ := Prod.mk.inj he
    refine ⟨hw.world.step hp, fun e he => ?_, hw.stamps⟩
    obtain ⟨hheld, hpast, hspr⟩ := hw.log e he
    refine ⟨hheld, hpast.trans ?_, hspr⟩
    exact exec_inv (I := fun w' => w.world.hw.trace <:+ w'.hw.trace) hp List.suffix_rfl List.suffix_rfl fun _ hle =>
      (grows_run o.2 _).mono fun _ c hc => hle.trans hc.hw.trace
  | data s op =>
    have h : (if op.takesHandle then
        if s ∈ w.world.pool.ids then w.locked s op.run else some (op.refused, w)
      else (w.get s).locked s op.run) = some (r, w') := h
    split at h
    · split at h
      · next hs => exact hlocked hw hs (own_dataRun op) h
      · obtain ⟨-, rfl⟩ := Prod.mk.inj (Option.some.inj h)
        exact hw
    · refine hlocked (w := w.get s) ⟨?_, hw.log, hw.stamps⟩ (Pool.mem_getOrCreate _ _ _) (own_dataRun op) h
      exact hw.world.grow (Pool.grows_getOrCreate _ _)

theorem inTurn_of_fresh (h : w.Fresh) : w.InTurn := by
  refine ⟨World.inTurn_of_fresh h.world h.trace, fun e he => ?_, fun x => ?_⟩
  · rw [h.log] at he
    exact absurd he List.not_mem_nil
  · rw [h.stamps, h.log]
    rfl

theorem inTurn_run {w₀ : DataWorld} (h₀ : w₀.Fresh) (h : Runs execData (fun _ _ => True) w₀ w) : w.InTurn :=
  h.invariant (inTurn_of_fresh h₀) fun _ _ _ _ hw _ he => hw.step he

/-- A service that has just come up. -/
def boot (env : Kind → List Int) (answers : List DataAnswer) : DataWorld := ⟨World.boot env, fun _ => 0, answers, []⟩

theorem fresh_boot (env : Kind → List Int) (answers : List DataAnswer) : (boot env answers).Fresh :=
  ⟨World.fresh_boot env, rfl, fun _ => rfl, rfl⟩

end DataWorld

/-- **The data path stays on graphs that are held.**  However reads, writes and questions are mixed with the operations on
any sessions, and whatever GSL and ALSA answer, every call of the data path was made while GSL held its graph, and the
time of a session was only asked of a module that had been configured for it; the other calls stay in turn as well. -/
theorem data_path_in_turn {w₀ w : DataWorld} (h₀ : w₀.Fresh) (h : Runs execData (fun _ _ => True) w₀ w) :
    (∀ e ∈ w.log, e.past <:+ w.world.hw.trace ∧ (gslMonitor e.call.handle).after e.past = some .held ∧
      ∀ x miid, e.call = .sprTime x miid → miid ≠ 0 ∧ ∃ k ∈ e.past, k.call = .configure x .streamSpr miid) ∧
    ∀ x, ((gslMonitor x).after w.world.hw.trace).isSome ∧ ((gslMonitor x).after w.world.hw.trace = some .held ↔
      ∃ s ∈ w.world.pool.ids, (w.world.pool.objs s).graph.map GraphObj.handle = some x) := by
  have key := DataWorld.inTurn_run h₀ h
  refine ⟨fun e he => ?_, fun x => ?_⟩
  · obtain ⟨hheld, hpast, hspr⟩ := key.log e he
    exact ⟨hpast, hheld, hspr⟩
  · obtain ⟨s, hs, hheld, -⟩ := key.world.hw x
    refine ⟨Option.isSome_iff_exists.2 ⟨s, hs⟩, ?_⟩
    rw [hs, Option.some_inj, hheld]
    exact ⟨fun ⟨t, ht, _, hx⟩ => ⟨t, ht, hx⟩, fun ⟨t, ht, hx⟩ => ⟨t, ht, id, hx⟩⟩

/-- A session is read from, closed, and read from again. -/
theorem data_path_in_turn_closed : ∃ w, Runs execData (fun _ _ => True) (DataWorld.boot (fun _ => []) []) w ∧
    w.log.map DataEvent.call = [.read 0 .shmem { size := 8, addr := 4096 }] ∧
    ∀ e ∈ w.log, (gslMonitor e.call.handle).after e.past = some .held := by
  obtain ⟨w, h, hseen⟩ := Runs.exists_of_execAll execData (fun _ _ => True)
    [.control (1, .sessAifConnect 0 true), .control (1, .open .default), .data 1 (.read 4096 8), .control (1, .close),
      .data 1 (.read 4096 8)]
    (DataWorld.boot (fun _ => []) []) (fun w => w.log.map DataEvent.call)
    (b := [.read 0 .shmem { size := 8, addr := 4096 }]) (by decide +kernel)
  exact ⟨w, h, hseen, fun e he => ((data_path_in_turn (DataWorld.fresh_boot _ _) h).1 e he).2.1⟩

/-- The session as a function of the data path finds it. -/
def DataWorld.sessionOf (w : DataWorld) (s : SessId) : SessionObj := (w.get s).world.pool.objs s

/-- **The timestamp of a session is that of the last buffer that was read.**  After every run, a session that is started
and has a started graph is answered with the timestamp that GSL gave the last buffer read from this graph, or `0` if none
was since the graph was opened or events were registered; every other one is refused. -/
theorem buffer_timestamp_of_last_read {w₀ w w' : DataWorld} (h₀ : w₀.Fresh)
    (h : Runs execData (fun _ _ => True) w₀ w) {s : SessId} {r : DataReply}
    (hr : execData (.data s .bufferTimestamp) w = some (r, w')) :
    (∀ g, (w.sessionOf s).state = .started → (w.sessionOf s).graph = some g → g.state = .started →
      r = { time := some (lastStamp g.handle w.log) }) ∧
    ((w.sessionOf s).state ≠ .started ∨ (∀ g, (w.sessionOf s).graph = some g → g.state ≠ .started) →
      r = { ret := -EINVAL }) := by
  have hstamps := (DataWorld.inTurn_run h₀ h).stamps
  have hrun : (w.get s).locked s sessionObjBufferTimestamp = some (r, w') := hr
  obtain ⟨p, hp, he⟩ := Option.map_eq_some_iff.1 hrun
  obtain ⟨rfl, -⟩ := Prod.mk.inj he
  have hsat : Sat sessionObjBufferTimestamp ((w.get s).lock s) fun r _ =>
      (∀ g, (w.sessionOf s).state = .started → (w.sessionOf s).graph = some g → g.state = .started →
        r = { time := some (lastStamp g.handle w.log) }) ∧
      ((w.sessionOf s).state ≠ .started ∨ (∀ g, (w.sessionOf s).graph = some g → g.state ≠ .started) →
        r = { ret := -EINVAL }) := by
    unfold sessionObjBufferTimestamp
    rw [sat_bind, sat_get, sat_ite, sat_pure]
    refine ⟨fun hne => ⟨fun g hs => absurd hs hne, fun _ => rfl⟩, fun hs => ?_⟩
    have hs : (w.sessionOf s).state = .started := not_not.1 hs
    refine Sat.bind (sat_onGraph (fun hg => ?_) fun g hg => ?_) fun p _ hp => (sat_pure _ _ _).2 hp
    · exact ⟨fun g _ hg' => absurd (hg.symm.trans hg') (Option.some_ne_none g).symm, fun _ => rfl⟩
    · have hg : (w.sessionOf s).graph = some g := hg
      rw [sat_bind, sat_get, sat_ite, sat_pure, sat_pure]
      refine ⟨fun hne => ⟨fun g' _ hg' hst => ?_, fun _ => rfl⟩, fun hst => ⟨fun g' _ hg' _ => ?_, fun hno => ?_⟩⟩
      · obtain rfl := Option.some.inj (hg.symm.trans hg')
        exact absurd hst hne
      · obtain rfl := Option.some.inj (hg.symm.trans hg')
        rw [show ((w.get s).lock s).stamps g.handle = _ from hstamps g.handle]
      · exact (hno.elim (fun hne => hne hs) fun hne => hne g hg (not_not.1 hst)).elim
  exact hsat p.1 p.2 hp

/-- Of two buffers the second one counts; the session is asked by its id. -/
theorem buffer_timestamp_of_last_read_second : ∃ w w' r, Runs execData (fun _ _ => True)
      (DataWorld.boot (fun _ => []) [{ timestamp := 70 }, { timestamp := 77 }]) w ∧
    execData (.data 1 .bufferTimestamp) w = some (r, w') ∧ r.time = some 77 ∧
    ∃ g, (w.sessionOf 1).graph = some g ∧ r = { time := some (lastStamp g.handle w.log) } := by
  obtain ⟨w, h, hseen⟩ := Runs.exists_of_execAll execData (fun _ _ => True)
    [.control (1, .sessAifConnect 0 true), .control (1, .open .default), .control (1, .start), .data 1 (.read 4096 8),
      .data 1 (.read 8192 8)]
    (DataWorld.boot (fun _ => []) [{ timestamp := 70 }, { timestamp := 77 }])
    (fun w => ((execData (.data 1 .bufferTimestamp) w).map (·.1.time), (w.sessionOf 1).state,
      (w.sessionOf 1).graph.map GraphObj.state))
    (b := (some (some 77), .started, some .started)) (by decide +kernel)
  obtain ⟨htime, hstate, hgraph⟩ := by simpa only [Prod.mk.injEq] using hseen
  obtain ⟨p, hp, htime⟩ := Option.map_eq_some_iff.1 htime
  obtain ⟨g, hg, hstarted⟩ := Option.map_eq_some_iff.1 hgraph
  exact ⟨w, p.2, p.1, h, hp, htime, g, hg,
    (buffer_timestamp_of_last_read (DataWorld.fresh_boot _ _) h hp).1 g hstate hg hstarted⟩

end Agm.Service
