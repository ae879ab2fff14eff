import Agm.Lib.Blocks
import Agm.Service.LoopbackOpen

/-!
# The metadata blocks of the operations

`metadata_merge` allocates, and whoever merges releases: `metadata_free` and `free` stand at the end of
`session_get_merged_metadata`, `session_set_loopback`, `session_set_ec_ref`, `session_connect_aif`,
`session_disconnect_aif` and `session_obj_get_tag_with_module_info`.  In `NON_TUNNEL` mode `session_get_merged_metadata`
hands out a pointer to the metadata stored in the session instead, and `session_set_loopback` releases that as well.

Here these functions are written with their pointers.  A ledger beside the state logs the blocks, and the sessions whose
stored metadata was released; to release it also clears it.  The functions of `Session` know nothing of blocks and end
the process instead.  `Follows` relates the two levels.
-/

namespace Agm.Service

open Agm.Lib

/-! ## Pointers and the ledger -/

/-- A block that `metadata_merge` allocated. -/
structure Block where
  id : Nat
  md : Metadata
  deriving DecidableEq, Repr

/-- What `session_get_merged_metadata` hands out: a block, or a pointer into a session object. -/
inductive MetaPtr
  | block (b : Block) | stored (s : SessId)
  deriving DecidableEq, Repr

/-- The state of an operation, its blocks, and the sessions whose stored metadata it released. -/
structure Ledger where
  ctx : Ctx
  blocks : Blocks := {}
  released : List SessId := []

abbrev ML := Prog Ledger

/-- Run what neither merges metadata nor releases any. -/
def onCtx {α : Type} (m : M α) : ML α := zoom Ledger.ctx (fun c l => { l with ctx := c }) m

@[simp] theorem sat_onCtx {α : Type} (m : M α) (l : Ledger) (Q : α → Ledger → Prop) :
    Sat (onCtx m) l Q ↔ Sat m l.ctx (fun a c => Q a { l with ctx := c }) := sat_zoom _ _ _ _ _

/-- The metadata stored in a session is cleared. -/
def Ctx.clearMeta (c : Ctx) (s : SessId) : Ctx :=
  if s = c.sess.sessId then { c with sess := { c.sess with sessMeta := {} } }
  else { c with pool := c.pool.put s { c.pool.objs s with sessMeta := {} } }

/-- `metadata_merge`. -/
def metadataMergePtr (b : Build) (parts : List (Option Metadata)) : ML (Option Block) :=
  match metadataMerge b parts with
  | none => pure none
  | some md => do
    let l ← get
    modify fun l => { l with blocks := l.blocks.alloc }
    pure (some ⟨l.blocks.next, md⟩)

/-- `metadata_free` and `free`. -/
def Block.free (b : Block) : ML Unit := modify fun l => { l with blocks := l.blocks.free b.id }

/-- The same, of a pointer that may be `NULL`. -/
def freeBlock : Option Block → ML Unit
  | none => pure ()
  | some b => b.free

namespace MetaPtr

def deref (c : Ctx) : MetaPtr → Metadata
  | block b => b.md
  | stored s => (c.peer s).sessMeta

/-- The sessions whose metadata goes when the pointer is released. -/
def foreign : MetaPtr → List SessId
  | block _ => []
  | stored s => [s]

/-- The block that the pointer holds. -/
def held : MetaPtr → Multiset Nat
  | block b => {b.id}
  | stored _ => 0

/-- `metadata_free` and `free`. -/
def free : MetaPtr → ML Unit
  | block b => b.free
  | stored s => modify fun l => { l with ctx := l.ctx.clearMeta s, released := s :: l.released }

end MetaPtr

/-! ## Merging over the back ends -/

/-- The loop of `session_get_merged_metadata` and `session_get_merged_metadata_without_aif`; each round releases what the
one before has merged. -/
def mergeAifsPtr (b : Build) (parts : Aif → List (Option Metadata)) : Option Block → List Aif → ML (Option Block)
  | temp, [] => pure temp
  | temp, a :: as =>
    if a.state = .closed then mergeAifsPtr b parts temp as
    else do
      let merged ← metadataMergePtr b (temp.map Block.md :: parts a)
      freeBlock temp
      mergeAifsPtr b parts merged as

/-- `session_get_merged_metadata` of the session with id `id`. -/
def sessionGetMergedPtr (id : SessId) (s : SessionObj) (hw : Hw) : ML (Option MetaPtr) :=
  if s.streamConfig.sessMode ≠ .nonTunnel then do
    let merged ← mergeAifsPtr hw.build
      (fun a => [some s.sessMeta, some a.sessAifMeta, some (hw.devs a.devObj).metadata]) none s.aifPool
    pure (merged.map .block)
  else pure (some (.stored id))

/-- `session_get_merged_metadata_without_aif`. -/
def sessionGetMergedWithoutAifPtr (s : SessionObj) (hw : Hw) : ML (Option Block) :=
  mergeAifsPtr hw.build (fun a => [some s.sessMeta, some a.sessAifMeta]) none s.aifPool

/-! ## Edges -/

/-- `session_set_loopback`. -/
def sessionSetLoopbackPtr (pbId : SessId) (enable : Bool) : ML Int := do
  onCtx (sessionObjGet pbId)
  let c ← onCtx get
  let capture ← sessionGetMergedPtr c.sess.sessId c.sess c.hw
  match capture with
  | none => pure (-ENOMEM)
  | some capture => do
    let playback ← sessionGetMergedPtr pbId (c.peer pbId) c.hw
    match playback with
    | none => do
      capture.free
      pure (-ENOMEM)
    | some playback => do
      let merged ← metadataMergePtr c.hw.build [some (capture.deref c), some (playback.deref c)]
      let ret ← onCtx (setLoopbackEdge (merged.map Block.md) pbId enable)
      capture.free
      playback.free
      freeBlock merged
      pure ret

/-- `session_set_ec_ref`. -/
def sessionSetEcRefPtr (aifId : Nat) (enable : Bool) : ML Int := do
  let c ← onCtx get
  match deviceGetObj aifId c.hw with
  | .error e => pure e
  | .ok d => do
    let capture ← sessionGetMergedWithoutAifPtr c.sess c.hw
    match capture with
    | none => pure (-ENOMEM)
    | some capture => do
      let merged ← metadataMergePtr c.hw.build [some capture.md, some (c.hw.devs d).metadata]
      match merged with
      | none => do
        capture.free
        pure (-ENOMEM)
      | some merged => do
        let ret ← onCtx (if enable then graphAdd merged.md (.ecRef aifId) none else graphRemove merged.md (.ecRef aifId))
        capture.free
        merged.free
        pure ret

/-! ## Back ends -/

/-- `session_disconnect_aif`. -/
def sessionDisconnectAifPtr (a : Aif) (openedCount : Nat) : ML Int := do
  let c ← onCtx get
  let merged ← metadataMergePtr c.hw.build
    [some c.sess.sessMeta, some a.sessAifMeta, some (c.hw.devs a.devObj).metadata]
  match merged with
  | none => pure (-ENOMEM)
  | some merged =>
    if openedCount = 1 then do
      let sessAif ← metadataMergePtr c.hw.build [some a.sessAifMeta, some (c.hw.devs a.devObj).metadata]
      match sessAif with
      | none => do
        merged.free
        pure (-ENOMEM)
      | some sessAif => do
        let _ ← onCtx (graphStop (some { merged.md with propId := sessAif.md.propId, props := sessAif.md.props }))
        let ret ← onCtx (disconnectDevice a)
        sessAif.free
        merged.free
        pure ret
    else do
      let _ ← onCtx (graphRemove merged.md (.aif a.aifId))
      let ret ← onCtx (disconnectDevice a)
      merged.free
      pure ret

/-- `session_connect_aif` from its merge up to its labels. -/
def connectMergedBody (merged : Metadata) (a : Aif) (openedCount : Nat) : M ConnectExit := do
  let ret ← onHw (deviceOpen a.devObj)
  if ret ≠ 0 then pure ⟨.done, ret, a⟩
  else do
    let p ← sessionConnectGraph merged a openedCount
    if p.2 ≠ 0 then pure ⟨p.1, p.2, a⟩
    else do
      let q ← sessionApplyCached merged a
      if q.1 ≠ 0 then pure ⟨.graphCleanup merged, q.1, q.2⟩ else pure ⟨.done, 0, q.2⟩

/-- The labels of `session_connect_aif`, up to the release. -/
def connectLabels (openedCount : Nat) (e : ConnectExit) : M (Int × Aif) :=
  match e.label with
  | .done => pure (e.ret, e.aif)
  | .graphCleanup merged => do
    let _ ← graphCleanup merged e.aif openedCount
    let a ← closeDevice e.aif
    pure (e.ret, a)
  | .closeDevice => do
    let a ← closeDevice e.aif
    pure (e.ret, a)

/-- `session_connect_aif`. -/
def sessionConnectAifPtr (a : Aif) (openedCount : Nat) : ML (Int × Aif) := do
  let c ← onCtx get
  let merged ← metadataMergePtr c.hw.build
    [some c.sess.sessMeta, some a.sessAifMeta, some (c.hw.devs a.devObj).metadata]
  match merged with
  | none => pure (-ENOMEM, a)
  | some merged => do
    let e ← onCtx (connectMergedBody merged.md a openedCount)
    let p ← onCtx (connectLabels openedCount e)
    merged.free
    pure p

/-- A back end that is connected becomes `AIF_OPENED`. -/
def connectToOpenedPtr (a : Aif) (openedCount : Nat) : ML (Int × Aif) := do
  let p ← sessionConnectAifPtr a openedCount
  if p.1 ≠ 0 then pure p else pure (0, { p.2 with state := .opened })

/-- Walk over the back ends of the session, up to the first error. -/
def forEachAifPtr (body : Aif → ML (Int × Aif)) : ML Int := do
  let c ← onCtx get
  let p ← forEach body c.sess.aifPool
  onCtx (modSess fun s => { s with aifPool := p.2 })
  pure p.1

/-- Walk over all the back ends of the session. -/
def mapEachAifPtr (body : Int → Aif → ML (Int × Aif)) (ret : Int) : ML Int := do
  let c ← onCtx get
  let p ← mapEach body ret c.sess.aifPool
  onCtx (modSess fun s => { s with aifPool := p.2 })
  pure p.1

/-! ## Opening -/

/-- `session_open_with_first_device`. -/
def sessionOpenWithFirstDevicePtr : ML Int := do
  let c ← onCtx get
  match c.sess.aifPool.findIdx? (fun a => a.state = .open) with
  | none => pure (-EPIPE)
  | some i => do
    let p ← connectToOpenedPtr (c.sess.aifAt i) 0
    onCtx (modSess (·.setAif i p.2))
    pure p.1

/-- One turn of the loop of `session_connect_reminder_devices`. -/
def connectReminderPtr (a : Aif) : ML (Int × Aif) :=
  if a.state = .open then connectToOpenedPtr a 1 else pure (0, a)

/-- One turn of the unwind loops. -/
def disconnectOpenedPtr (ret : Int) (a : Aif) : ML (Int × Aif) :=
  if a.state = .opened then do
    let r ← sessionDisconnectAifPtr a 1
    pure (r, { a with state := .open })
  else pure (ret, a)

/-- `session_connect_reminder_devices`. -/
def sessionConnectReminderDevicesPtr : ML Int := do
  let ret ← forEachAifPtr connectReminderPtr
  if ret ≠ 0 then do
    let _ ← mapEachAifPtr disconnectOpenedPtr ret
    onCtx graphClose
  else pure 0

/-- The echo-reference step of `session_obj_open` alone. -/
def openEcRefOnlyPtr : ML (OpLabel × Int) := do
  let c ← onCtx get
  if c.sess.ecRefState then do
    let ret ← sessionSetEcRefPtr c.sess.ecRefAifId true
    if ret ≠ 0 then onCtx do
      modSess fun s => { s with ecRefState := false, ecRefAifId := 0 }
      pure (.unwind, ret)
    else pure (.done, 0)
  else pure (.done, 0)

/-- `session_obj_open` up to its last step, the loopback. -/
def openBeforeLoopbackPtr (sessMode : SessMode) : ML (OpLabel × Int) := do
  onCtx (modSess fun s => { s with streamConfig := { s.streamConfig with sessMode := sessMode } })
  if sessMode.hasDevices then do
    let ret ← sessionOpenWithFirstDevicePtr
    if ret ≠ 0 then pure (.done, ret)
    else do
      let ret ← sessionConnectReminderDevicesPtr
      if ret ≠ 0 then pure (.done, ret) else openEcRefOnlyPtr
  else do
    let ret ← onCtx sessionOpenWithoutDevice
    pure (.done, ret)

/-- The last step of `session_obj_open`. -/
def openLoopbackPtr : ML (OpLabel × Int) := do
  let c ← onCtx get
  if c.sess.loopbackState then do
    let ret ← sessionSetLoopbackPtr c.sess.loopbackSessId true
    if ret ≠ 0 then onCtx do
      modSess fun s => { s with loopbackState := false, loopbackSessId := 0 }
      pure (.unwind, ret)
    else pure (.done, 0)
  else pure (.done, 0)

/-- The labels of `session_obj_open`. -/
def openEndPtr (e : OpLabel × Int) : ML Int :=
  match e.1 with
  | .done =>
    if e.2 ≠ 0 then pure e.2
    else onCtx do
      modSess fun s => { s with state := .opened }
      pure 0
  | .unwind => do
    let _ ← mapEachAifPtr disconnectOpenedPtr 0
    let _ ← onCtx graphClose
    pure e.2

/-- `session_obj_open`. -/
def sessionObjOpenPtr (sessMode : SessMode) : ML Int := do
  let c ← onCtx get
  if c.sess.state ≠ .closed then pure (-EALREADY)
  else do
    let e ← openBeforeLoopbackPtr sessMode
    if e.2 ≠ 0 then openEndPtr e
    else do
      let e ← openLoopbackPtr
      openEndPtr e

/-! ## The other operations -/

/-- `session_connect_aif` on the back end at place `i`, and the state that goes with its success. -/
def connectAtPtr (i openedCount : Nat) : ML Int := do
  let c ← onCtx get
  let p ← connectToOpenedPtr (c.sess.aifAt i) openedCount
  onCtx (modSess (·.setAif i p.2))
  pure p.1

/-- `session_obj_sess_aif_connect` up to its labels, for a connect. -/
def hotConnectBodyPtr (i openedCount : Nat) : ML (OpLabel × Int) := do
  let c ← onCtx get
  if c.sess.state = .closed then do
    onCtx (modSess (·.setAifState i .open))
    pure (.done, 0)
  else do
    let ret ← connectAtPtr i openedCount
    if ret ≠ 0 then pure (.done, ret)
    else if c.sess.state = .opened then pure (.done, 0)
    else do
      let ret ← onCtx sessionPrepare
      if ret ≠ 0 then pure (.unwind, ret)
      else if c.sess.state = .started then do
        let ret ← onCtx sessionStart
        if ret ≠ 0 then pure (.unwind, ret) else pure (.done, 0)
      else pure (.done, 0)

/-- The connect side of `session_obj_sess_aif_connect`. -/
def hotConnectPtr (i openedCount : Nat) : ML Int := do
  let e ← hotConnectBodyPtr i openedCount
  match e.1 with
  | .done => pure e.2
  | .unwind => do
    onCtx (modSess (·.setAifState i .close))
    let c ← onCtx get
    let _ ← sessionDisconnectAifPtr (c.sess.aifAt i) (openedCount + 1)
    pure e.2

/-- The disconnect side of `session_obj_sess_aif_connect`. -/
def hotDisconnectPtr (i openedCount : Nat) : ML Int := do
  onCtx (modSess (·.setAifState i .close))
  let c ← onCtx get
  let ret ← onlyIf (c.sess.state ≠ .closed) (sessionDisconnectAifPtr (c.sess.aifAt i) openedCount)
  if ret ≠ 0 then pure ret
  else onCtx do
    modSess (·.setAifState i .closed)
    pure 0

/-- `session_obj_sess_aif_connect`. -/
def sessionObjSessAifConnectPtr (aifId : Nat) (aifState : Bool) : ML Int := do
  let r ← onCtx (aifObjGet aifId)
  match r with
  | .error ret => pure ret
  | .ok i => do
    let c ← onCtx get
    let state := (c.sess.aifAt i).state
    if (aifState ∧ AifState.opened.rank < state.rank) ∨ (¬ aifState ∧ state.rank < AifState.open.rank) then
      pure (-EALREADY)
    else if aifState then hotConnectPtr i (c.sess.countWithState .opened false)
    else hotDisconnectPtr i (c.sess.countWithState .opened false)

/-- `session_obj_set_loopback`. -/
def sessionObjSetLoopbackPtr (playbackSessId : SessId) (state : Bool) : ML Int := do
  let c ← onCtx get
  if playbackSessId = c.sess.loopbackSessId ∧ state = c.sess.loopbackState then pure (-EALREADY)
  else do
    let ret ← onlyIf (c.sess.state ≠ .closed)
      (sessionSetLoopbackPtr (if state then playbackSessId else c.sess.loopbackSessId) state)
    if ret ≠ 0 then pure ret
    else onCtx do
      modSess fun s => { s with loopbackSessId := playbackSessId, loopbackState := state }
      pure 0

/-- `session_obj_set_ec_ref`. -/
def sessionObjSetEcRefPtr (aifId : Nat) (state : Bool) : ML Int := do
  let c ← onCtx get
  if aifId = c.sess.ecRefAifId ∧ state = c.sess.ecRefState then pure (-EALREADY)
  else do
    let ret ← onlyIf (c.sess.state ≠ .closed)
      (sessionSetEcRefPtr (if state then aifId else c.sess.ecRefAifId) state)
    if ret ≠ 0 then pure ret
    else onCtx do
      modSess fun s => { s with ecRefAifId := aifId, ecRefState := state }
      pure 0

/-- `session_obj_get_tag_with_module_info`; `none` is the id `UINT_MAX`.  The table goes to the caller. -/
def sessionObjGetTagWithModuleInfo (aifId : Option Nat) : M Int := do
  let c ← get
  if c.sess.streamConfig.sessMode ≠ .nonTunnel then
    match aifId with
    | none => pure (-EINVAL)
    | some aifId => do
      let r ← aifObjGet aifId
      match r with
      | .error ret => pure ret
      | .ok i => do
        let c ← get
        match mergedMetadata (c.sess.aifAt i) c with
        | none => pure (-ENOMEM)
        | some merged => onHw (askGsl (.getTags merged.gkv))
  else
    match metadataMerge c.hw.build [some c.sess.sessMeta] with
    | none => pure (-ENOMEM)
    | some merged => onHw (askGsl (.getTags merged.gkv))

/-- The same, with its pointers. -/
def sessionObjGetTagWithModuleInfoPtr (aifId : Option Nat) : ML Int := do
  let c ← onCtx get
  if c.sess.streamConfig.sessMode ≠ .nonTunnel then
    match aifId with
    | none => pure (-EINVAL)
    | some aifId => do
      let r ← onCtx (aifObjGet aifId)
      match r with
      | .error ret => pure ret
      | .ok i => do
        let c ← onCtx get
        let a := c.sess.aifAt i
        let merged ← metadataMergePtr c.hw.build
          [some c.sess.sessMeta, some a.sessAifMeta, some (c.hw.devs a.devObj).metadata]
        match merged with
        | none => pure (-ENOMEM)
        | some merged => do
          let ret ← onCtx (onHw (askGsl (.getTags merged.md.gkv)))
          merged.free
          pure ret
  else do
    let merged ← metadataMergePtr c.hw.build [some c.sess.sessMeta]
    match merged with
    | none => pure (-ENOMEM)
    | some merged => do
      let ret ← onCtx (onHw (askGsl (.getTags merged.md.gkv)))
      merged.free
      pure ret

/-! ## The two levels -/

/-- The pointer program releases the blocks `held`, and all it allocates, once.  As long as nothing foreign is released
both programs end alike; where it is, the process would not have survived, and that may happen only if `lends` holds. -/
def Follows {α : Type} (lends : Prop) (held : Multiset Nat) (m' : ML α) (m : M α) : Prop :=
  ∀ (l : Ledger) (rest : Multiset Nat), l.blocks.Balanced (held + rest) → Sat m' l fun a t =>
    t.blocks.Balanced rest ∧
      ((t.released = l.released ∧ m l.ctx = some (a, t.ctx)) ∨
        (lends ∧ l.released.length < t.released.length ∧ m l.ctx = none))

section

variable {α β : Type} {lends : Prop} {held held' : Multiset Nat}

theorem Follows.of_eq {m' : ML α} {m : M α} (h : Follows lends held m' m) (he : held = held') :
    Follows lends held' m' m := he ▸ h

theorem follows_onCtx (m : M α) : Follows lends 0 (onCtx m) m := by
  intro l rest hb
  rw [zero_add] at hb
  rw [sat_onCtx]
  intro a c hm
  exact ⟨hb, .inl ⟨rfl, hm⟩⟩

theorem follows_pure (a : α) : Follows lends 0 (pure a) (pure a) := by
  intro l rest hb
  rw [zero_add] at hb
  rw [sat_pure]
  exact ⟨hb, .inl ⟨rfl, rfl⟩⟩

theorem Follows.seq {m' : ML α} {m : M α} {f' : α → ML β} {f : α → M β} (h : Follows lends held m' m)
    (hf : ∀ a, Follows lends held' (f' a) (f a)) : Follows lends (held + held') (m' >>= f') (m >>= f) := by
  intro l rest hb
  rw [add_assoc] at hb
  refine Sat.bind (h l _ hb) fun a t ht => (hf a t rest ht.1).mono fun b u hu => ⟨hu.1, ?_⟩
  rcases ht.2 with ⟨hrel, hm⟩ | ⟨hlends, hrel, hm⟩
  · rw [bind_apply hm, ← hrel]
    exact hu.2
  · right
    refine ⟨hlends, ?_, bind_apply_none hm⟩
    rcases hu.2 with ⟨hu, -⟩ | ⟨-, hu, -⟩
    · rw [hu]
      exact hrel
    · omega

theorem Follows.bind {m' : ML α} {m : M α} {f' : α → ML β} {f : α → M β} (h : Follows lends 0 m' m)
    (hf : ∀ a, Follows lends held (f' a) (f a)) : Follows lends held (m' >>= f') (m >>= f) :=
  (h.seq hf).of_eq (zero_add held)

/-- The end of a function, which only releases. -/
theorem Follows.then {m' : ML α} {m : M α} {f' : α → ML α} (h : Follows lends 0 m' m)
    (hf : ∀ a, Follows lends held (f' a) (pure a)) : Follows lends held (m' >>= f') m := by
  rw [← bind_pure m]
  exact h.bind hf

theorem Follows.ite {c : Prop} [Decidable c] {m₁' m₂' : ML α} {m₁ m₂ : M α} (h₁ : Follows lends held m₁' m₁)
    (h₂ : Follows lends held m₂' m₂) : Follows lends held (if c then m₁' else m₂') (if c then m₁ else m₂) := by
  by_cases hc : c
  · simpa [hc] using h₁
  · simpa [hc] using h₂

theorem Follows.onlyIf {c : Prop} [Decidable c] {m' : ML Int} {m : M Int} (h : Follows lends 0 m' m) :
    Follows lends 0 (onlyIf c m') (onlyIf c m) := Follows.ite h (follows_pure 0)

theorem Block.follows_free (b : Block) : Follows lends {b.id} b.free (pure ()) := by
  intro l rest hb
  unfold Block.free
  rw [sat_modify]
  exact ⟨hb.free, .inl ⟨rfl, rfl⟩⟩

/-- A block is released. -/
theorem Follows.free {m' : ML α} {m : M α} (b : Block) (h : Follows lends held m' m) :
    Follows lends ({b.id} + held) (b.free >>= fun _ => m') m := by
  rw [← pure_bind () fun _ => m]
  exact b.follows_free.seq fun _ => h

/-- The blocks a pointer that may be `NULL` holds. -/
def heldBlock : Option Block → Multiset Nat
  | none => 0
  | some b => {b.id}

theorem Follows.freeBlock {m' : ML α} {m : M α} (b : Option Block) (h : Follows lends held m' m) :
    Follows lends (heldBlock b + held) (freeBlock b >>= fun _ => m') m := by
  cases b with
  | none =>
    refine Follows.of_eq ?_ (zero_add held).symm
    exact h
  | some b => exact h.free b

/-- A merge: the block it allocates is held from there on. -/
theorem follows_merge {b : Build} {parts : List (Option Metadata)} {f' : Option Block → ML α} {m : M α}
    (h : ∀ p, metadataMerge b parts = p.map Block.md → Follows lends (heldBlock p + held) (f' p) m) :
    Follows lends held (metadataMergePtr b parts >>= f') m := by
  intro l rest hb
  unfold metadataMergePtr
  cases hm : metadataMerge b parts with
  | none =>
    have hnone := (h none hm).of_eq (zero_add held)
    exact hnone l rest hb
  | some md =>
    have hsome := h (some ⟨l.blocks.next, md⟩) hm
    rw [sat_bind, sat_bind, sat_get, sat_bind, sat_modify, sat_pure]
    refine hsome { l with blocks := l.blocks.alloc } rest ?_
    rw [heldBlock, add_assoc]
    exact hb.alloc

/-- The loop over the back ends: the last block is held from there on, the others were released. -/
theorem follows_mergeAifs {b : Build} {parts : Aif → List (Option Metadata)} {as : List Aif} {temp : Option Block}
    {f' : Option Block → ML α} {m : M α}
    (h : ∀ p, mergeAifs b parts (temp.map Block.md) as = p.map Block.md → Follows lends (heldBlock p + held) (f' p) m) :
    Follows lends (heldBlock temp + held) (mergeAifsPtr b parts temp as >>= f') m := by
  induction as generalizing temp with
  | nil => exact h temp rfl
  | cons a as ih =>
    unfold mergeAifsPtr
    unfold mergeAifs at h
    by_cases hc : a.state = .closed
    · rw [if_pos hc]
      rw [if_pos hc] at h
      exact ih h
    · rw [if_neg hc, bind_assoc]
      rw [if_neg hc] at h
      refine follows_merge fun p hp => ?_
      rw [bind_assoc]
      rw [hp] at h
      refine Follows.of_eq (Follows.freeBlock temp (ih h)) ?_
      ac_rfl

theorem follows_forEach {body' : Aif → ML (Int × Aif)} {body : Aif → M (Int × Aif)}
    (h : ∀ a, Follows lends 0 (body' a) (body a)) (l : List Aif) : Follows lends 0 (forEach body' l) (forEach body l) := by
  induction l with
  | nil => exact follows_pure _
  | cons a l ih => exact (h a).bind fun p => Follows.ite (follows_pure _) (ih.bind fun q => follows_pure _)

theorem follows_mapEach {body' : Int → Aif → ML (Int × Aif)} {body : Int → Aif → M (Int × Aif)}
    (h : ∀ ret a, Follows lends 0 (body' ret a) (body ret a)) (ret : Int) (l : List Aif) :
    Follows lends 0 (mapEach body' ret l) (mapEach body ret l) := by
  induction l generalizing ret with
  | nil => exact follows_pure _
  | cons a l ih => exact (h ret a).bind fun p => (ih p.1).bind fun q => follows_pure _

theorem follows_forEachAif {body' : Aif → ML (Int × Aif)} {body : Aif → M (Int × Aif)}
    (h : ∀ a, Follows lends 0 (body' a) (body a)) : Follows lends 0 (forEachAifPtr body') (forEachAif body) :=
  (follows_onCtx get).bind fun _ => (follows_forEach h _).bind fun _ => (follows_onCtx _).bind fun _ => follows_pure _

theorem follows_mapEachAif {body' : Int → Aif → ML (Int × Aif)} {body : Int → Aif → M (Int × Aif)}
    (h : ∀ ret a, Follows lends 0 (body' ret a) (body ret a)) (ret : Int) :
    Follows lends 0 (mapEachAifPtr body' ret) (mapEachAif body ret) :=
  (follows_onCtx get).bind fun _ => (follows_mapEach h ret _).bind fun _ => (follows_onCtx _).bind fun _ =>
    follows_pure _

end

/-! ## The functions -/

section

variable {α : Type} {lends : Prop} {held : Multiset Nat}

/-- The pointer is what `session_get_merged_metadata` hands out for the session: not a block in `NON_TUNNEL` mode. -/
def MetaPtr.Of (id : SessId) (s : SessionObj) : MetaPtr → Prop
  | .block _ => s.streamConfig.sessMode ≠ .nonTunnel
  | .stored id' => id' = id ∧ s.streamConfig.sessMode = .nonTunnel

theorem follows_sessionGetMerged {id : SessId} {c : Ctx} {s : SessionObj} (hs : c.peer id = s)
    {f' : Option MetaPtr → ML α} {m : M α}
    (hnone : sessionGetMergedMetadata s c.hw = none → Follows lends held (f' none) m)
    (hsome : ∀ p : MetaPtr, p.Of id s → sessionGetMergedMetadata s c.hw = some (p.deref c) →
      Follows lends (p.held + held) (f' (some p)) m) :
    Follows lends held (sessionGetMergedPtr id s c.hw >>= f') m := by
  unfold sessionGetMergedPtr
  unfold sessionGetMergedMetadata at hnone hsome
  by_cases hmode : s.streamConfig.sessMode ≠ .nonTunnel
  · rw [if_pos hmode] at hnone hsome ⊢
    rw [bind_assoc]
    refine Follows.of_eq (follows_mergeAifs fun p hp => ?_) (zero_add held)
    rw [pure_bind]
    cases p with
    | none => exact (hnone hp).of_eq (zero_add held).symm
    | some b => exact hsome (.block b) hmode hp
  · rw [if_neg hmode] at hnone hsome ⊢
    rw [pure_bind]
    refine (hsome (.stored id) ⟨rfl, not_not.1 hmode⟩ ?_).of_eq (zero_add held)
    rw [← hs]
    rfl

/-- To release what lies inside a session object ends the process. -/
theorem MetaPtr.follows_free {id : SessId} {s : SessionObj} {p : MetaPtr} (hp : p.Of id s) :
    Follows True p.held p.free (freeMergedMetadata s) := by
  cases p with
  | block b =>
    have hmode : ¬ s.streamConfig.sessMode = .nonTunnel := hp
    rw [freeMergedMetadata, if_neg hmode]
    exact b.follows_free
  | stored id' =>
    intro l rest hb
    rw [freeMergedMetadata, if_pos hp.2, MetaPtr.free, sat_modify]
    refine ⟨(zero_add rest) ▸ hb, .inr ⟨trivial, ?_, rfl⟩⟩
    simp

theorem Ctx.peer_self (c : Ctx) : c.peer c.sess.sessId = c.sess := if_pos rfl

theorem follows_sessionSetLoopback (pbId : SessId) (enable : Bool) :
    Follows True 0 (sessionSetLoopbackPtr pbId enable) (sessionSetLoopback pbId enable) := by
  refine (follows_onCtx _).bind fun _ => (follows_onCtx _).bind fun c => ?_
  refine follows_sessionGetMerged c.peer_self (fun hc => ?_) fun capture hcap hc => ?_
  · rw [hc]
    exact follows_pure _
  rw [hc]
  refine follows_sessionGetMerged (s := c.peer pbId) rfl (fun hp => ?_) fun playback hpb hp => ?_
  · rw [hp]
    exact (MetaPtr.follows_free hcap).seq fun _ => follows_pure _
  rw [hp]
  refine follows_merge fun merged hm => ?_
  dsimp only
  rw [hm]
  refine (follows_onCtx _).bind fun ret => ?_
  have hend : Follows True (heldBlock merged + 0) (freeBlock merged >>= fun _ => pure ret) (pure ret) :=
    Follows.freeBlock merged (follows_pure ret)
  refine Follows.of_eq ((MetaPtr.follows_free hcap).seq fun _ => (MetaPtr.follows_free hpb).seq fun _ => hend) ?_
  ac_rfl

theorem follows_sessionSetEcRef (aifId : Nat) (enable : Bool) :
    Follows lends 0 (sessionSetEcRefPtr aifId enable) (sessionSetEcRef aifId enable) := by
  refine (follows_onCtx _).bind fun c => ?_
  cases deviceGetObj aifId c.hw with
  | error e => exact follows_pure e
  | ok d =>
    dsimp only
    unfold sessionGetMergedWithoutAifPtr
    refine Follows.of_eq (follows_mergeAifs fun capture hc => ?_) (zero_add 0)
    have hc : sessionGetMergedMetadataWithoutAif c.sess c.hw = capture.map Block.md := hc
    rw [hc]
    cases capture with
    | none => exact follows_pure _
    | some capture =>
      refine follows_merge fun merged hm => ?_
      have hm : metadataMerge c.hw.build [some capture.md, some (c.hw.devs d).metadata] = merged.map Block.md := hm
      rw [Option.map_some]
      dsimp only
      rw [hm]
      cases merged with
      | none => exact ((follows_pure _).free capture).of_eq (by simp [heldBlock])
      | some merged =>
        refine (follows_onCtx _).then fun ret => ?_
        refine (((follows_pure ret).free merged).free capture).of_eq ?_
        simp only [heldBlock]
        ac_rfl

theorem follows_sessionDisconnectAif (a : Aif) (n : Nat) :
    Follows lends 0 (sessionDisconnectAifPtr a n) (sessionDisconnectAif a n) := by
  refine (follows_onCtx _).bind fun c => follows_merge fun merged hm => ?_
  have hm : mergedMetadata a c = merged.map Block.md := hm
  rw [hm]
  cases merged with
  | none => exact follows_pure _
  | some merged =>
    refine Follows.ite (follows_merge fun sessAif hs => ?_) ?_
    · rw [hs]
      cases sessAif with
      | none => exact ((follows_pure _).free merged).of_eq (by simp [heldBlock])
      | some sessAif =>
        refine (follows_onCtx _).bind fun _ => (follows_onCtx _).then fun ret => ?_
        exact ((follows_pure ret).free merged).free sessAif
    · exact (follows_onCtx _).bind fun _ => (follows_onCtx _).then fun ret => (follows_pure ret).free merged

theorem sessionConnectAif_eq (a : Aif) (n : Nat) : sessionConnectAif a n = (do
    let c ← get
    match mergedMetadata a c with
    | none => pure (-ENOMEM, a)
    | some merged => connectMergedBody merged a n >>= connectLabels n) := by
  unfold sessionConnectAif sessionConnectBody
  rw [bind_assoc]
  congr 1
  funext c
  cases mergedMetadata a c with
  | none => rfl
  | some merged => rfl

theorem follows_sessionConnectAif (a : Aif) (n : Nat) :
    Follows lends 0 (sessionConnectAifPtr a n) (sessionConnectAif a n) := by
  rw [sessionConnectAif_eq]
  refine (follows_onCtx _).bind fun c => follows_merge fun merged hm => ?_
  have hm : mergedMetadata a c = merged.map Block.md := hm
  rw [hm]
  cases merged with
  | none => exact follows_pure _
  | some merged => exact (follows_onCtx _).bind fun e => (follows_onCtx _).then fun p => (follows_pure p).free merged

theorem follows_connectToOpened (a : Aif) (n : Nat) : Follows lends 0 (connectToOpenedPtr a n) (connectToOpened a n) :=
  (follows_sessionConnectAif a n).bind fun _ => Follows.ite (follows_pure _) (follows_pure _)

/-! ## The open -/

theorem follows_sessionOpenWithFirstDevice :
    Follows lends 0 sessionOpenWithFirstDevicePtr sessionOpenWithFirstDevice := by
  refine (follows_onCtx _).bind fun c => ?_
  cases c.sess.aifPool.findIdx? (fun a => a.state = .open) with
  | none => exact follows_pure _
  | some i => exact (follows_connectToOpened _ 0).bind fun _ => (follows_onCtx _).bind fun _ => follows_pure _

theorem follows_disconnectOpened (ret : Int) (a : Aif) :
    Follows lends 0 (disconnectOpenedPtr ret a) (disconnectOpened ret a) :=
  Follows.ite ((follows_sessionDisconnectAif a 1).bind fun _ => follows_pure _) (follows_pure _)

theorem follows_sessionConnectReminderDevices :
    Follows lends 0 sessionConnectReminderDevicesPtr sessionConnectReminderDevices := by
  have hloop : Follows lends 0 (forEachAifPtr connectReminderPtr) (forEachAif connectReminder) :=
    follows_forEachAif fun a => Follows.ite (follows_connectToOpened a 1) (follows_pure _)
  refine hloop.bind fun ret => Follows.ite ?_ (follows_pure _)
  exact (follows_mapEachAif follows_disconnectOpened ret).bind fun _ => follows_onCtx _

theorem follows_openEcRefOnly : Follows lends 0 openEcRefOnlyPtr openEcRefOnly := by
  refine (follows_onCtx _).bind fun c => Follows.ite ?_ (follows_pure _)
  exact (follows_sessionSetEcRef _ _).bind fun ret => Follows.ite (follows_onCtx _) (follows_pure _)

theorem follows_openBeforeLoopback (mode : SessMode) :
    Follows lends 0 (openBeforeLoopbackPtr mode) (openBeforeLoopback mode) := by
  refine (follows_onCtx _).bind fun _ => Follows.ite ?_ ((follows_onCtx _).bind fun _ => follows_pure _)
  refine follows_sessionOpenWithFirstDevice.bind fun _ => Follows.ite (follows_pure _) ?_
  exact follows_sessionConnectReminderDevices.bind fun _ => Follows.ite (follows_pure _) follows_openEcRefOnly

theorem follows_openLoopback : Follows True 0 openLoopbackPtr openLoopback := by
  refine (follows_onCtx _).bind fun c => Follows.ite ?_ (follows_pure _)
  exact (follows_sessionSetLoopback _ _).bind fun ret => Follows.ite (follows_onCtx _) (follows_pure _)

theorem follows_openEnd (e : OpLabel × Int) : Follows lends 0 (openEndPtr e) (openEnd e) := by
  unfold openEndPtr openEnd
  cases e.1 with
  | done => exact Follows.ite (follows_pure _) (follows_onCtx _)
  | unwind =>
    exact (follows_mapEachAif follows_disconnectOpened 0).bind fun _ => (follows_onCtx _).bind fun _ => follows_pure _

theorem follows_sessionObjOpen (mode : SessMode) : Follows True 0 (sessionObjOpenPtr mode) (sessionObjOpen mode) := by
  rw [sessionObjOpen_eq]
  refine (follows_onCtx _).bind fun c => Follows.ite (follows_pure _) ?_
  refine (follows_openBeforeLoopback mode).bind fun e => Follows.ite (follows_openEnd e) ?_
  exact follows_openLoopback.bind follows_openEnd

/-! ## The other operations -/

theorem follows_connectAt (i n : Nat) : Follows lends 0 (connectAtPtr i n) (connectAt i n) :=
  (follows_onCtx _).bind fun _ => (follows_connectToOpened _ n).bind fun _ => (follows_onCtx _).bind fun _ =>
    follows_pure _

theorem follows_hotConnect (i n : Nat) : Follows lends 0 (hotConnectPtr i n) (hotConnect i n) := by
  have hbody : Follows lends 0 (hotConnectBodyPtr i n) (hotConnectBody i n) := by
    refine (follows_onCtx _).bind fun c => Follows.ite ((follows_onCtx _).bind fun _ => follows_pure _) ?_
    refine (follows_connectAt i n).bind fun _ => Follows.ite (follows_pure _) (Follows.ite (follows_pure _) ?_)
    refine (follows_onCtx _).bind fun _ => Follows.ite (follows_pure _) (Follows.ite ?_ (follows_pure _))
    exact (follows_onCtx _).bind fun _ => Follows.ite (follows_pure _) (follows_pure _)
  refine hbody.bind fun e => ?_
  cases e.1 with
  | done => exact follows_pure _
  | unwind =>
    exact (follows_onCtx _).bind fun _ => (follows_onCtx _).bind fun _ => (follows_sessionDisconnectAif _ _).bind fun _ =>
      follows_pure _

theorem follows_hotDisconnect (i n : Nat) : Follows lends 0 (hotDisconnectPtr i n) (hotDisconnect i n) := by
  refine (follows_onCtx _).bind fun _ => (follows_onCtx _).bind fun c => ?_
  exact (follows_sessionDisconnectAif _ _).onlyIf.bind fun _ => Follows.ite (follows_pure _) (follows_onCtx _)

theorem follows_sessionObjSessAifConnect (aifId : Nat) (aifState : Bool) :
    Follows lends 0 (sessionObjSessAifConnectPtr aifId aifState) (sessionObjSessAifConnect aifId aifState) := by
  refine (follows_onCtx _).bind fun r => ?_
  cases r with
  | error ret => exact follows_pure _
  | ok i =>
    refine (follows_onCtx _).bind fun c => Follows.ite (follows_pure _) ?_
    exact Follows.ite (follows_hotConnect _ _) (follows_hotDisconnect _ _)

theorem follows_sessionObjSetLoopback (playbackSessId : SessId) (state : Bool) :
    Follows True 0 (sessionObjSetLoopbackPtr playbackSessId state) (sessionObjSetLoopback playbackSessId state) := by
  refine (follows_onCtx _).bind fun c => Follows.ite (follows_pure _) ?_
  exact (follows_sessionSetLoopback _ _).onlyIf.bind fun _ => Follows.ite (follows_pure _) (follows_onCtx _)

theorem follows_sessionObjSetEcRef (aifId : Nat) (state : Bool) :
    Follows lends 0 (sessionObjSetEcRefPtr aifId state) (sessionObjSetEcRef aifId state) := by
  refine (follows_onCtx _).bind fun c => Follows.ite (follows_pure _) ?_
  exact (follows_sessionSetEcRef _ _).onlyIf.bind fun _ => Follows.ite (follows_pure _) (follows_onCtx _)

theorem follows_sessionObjGetTagWithModuleInfo (aifId : Option Nat) :
    Follows lends 0 (sessionObjGetTagWithModuleInfoPtr aifId) (sessionObjGetTagWithModuleInfo aifId) := by
  have hquery {m : M Int} (merged : Block) :
      Follows lends ({merged.id} + 0) (onCtx m >>= fun ret => merged.free >>= fun _ => pure ret) m :=
    ((follows_onCtx m).then fun ret => (follows_pure ret).free merged)
  refine (follows_onCtx _).bind fun c => Follows.ite ?_ (follows_merge fun merged hm => ?_)
  · cases aifId with
    | none => exact follows_pure _
    | some aifId =>
      refine (follows_onCtx _).bind fun r => ?_
      cases r with
      | error ret => exact follows_pure _
      | ok i =>
        refine (follows_onCtx _).bind fun c => follows_merge fun merged hm => ?_
        have hm : mergedMetadata (c.sess.aifAt i) c = merged.map Block.md := hm
        rw [hm]
        cases merged with
        | none => exact follows_pure _
        | some merged => exact hquery merged
  · rw [hm]
    cases merged with
    | none => exact follows_pure _
    | some merged => exact hquery merged

end

end Agm.Service
