import Agm.Service.MetaBlocks

/-!
# Who releases which metadata

The operations release the blocks that they allocated, each of them once.  `session_set_loopback` alone may release more:
where `session_get_merged_metadata` has handed it a pointer into a session object.  Stored metadata stays exactly if it is
handed none, and whether it comes to that can be told from the state before the operation and from the answers that wait.
-/

namespace Agm.Service

open Agm.Lib

/-! ## What `session_set_loopback` releases -/

/-- The session `session_set_loopback` finds under an id: it is created if it is not there. -/
def Ctx.found (c : Ctx) (id : SessId) : SessionObj :=
  Ctx.peer { c with pool := c.pool.getOrCreate id (sessionObjCreate id) } id

/-- `session_set_loopback` is handed a pointer into a session object: this session is in `NON_TUNNEL` mode, or the other
one is and this one has metadata to merge. -/
def Ctx.lendsMeta (c : Ctx) (pbId : SessId) : Prop :=
  c.sess.streamConfig.sessMode = .nonTunnel ∨
    ((sessionGetMergedMetadata c.sess c.hw).isSome ∧ (c.found pbId).streamConfig.sessMode = .nonTunnel)

theorem sat_mergePtr (b : Build) (parts : List (Option Metadata)) (l : Ledger) :
    Sat (metadataMergePtr b parts) l fun p t => t.released = l.released ∧ p.map Block.md = metadataMerge b parts := by
  unfold metadataMergePtr
  cases hm : metadataMerge b parts with
  | none => exact (sat_pure _ _ _).2 ⟨rfl, rfl⟩
  | some md =>
    rw [sat_bind, sat_get, sat_bind, sat_modify, sat_pure]
    exact ⟨rfl, rfl⟩

theorem sat_freeBlock (b : Option Block) (l : Ledger) : Sat (freeBlock b) l fun _ t => t.released = l.released := by
  cases b with
  | none => exact (sat_pure _ _ _).2 rfl
  | some b => exact (sat_modify _ _ _).2 rfl

theorem sat_free (p : MetaPtr) (l : Ledger) : Sat p.free l fun _ t => t.released = p.foreign ++ l.released := by
  cases p with
  | block b => exact (sat_modify _ _ _).2 rfl
  | stored s => exact (sat_modify _ _ _).2 rfl

theorem sat_mergeAifsPtr (b : Build) (parts : Aif → List (Option Metadata)) (as : List Aif) (temp : Option Block)
    (l : Ledger) : Sat (mergeAifsPtr b parts temp as) l fun p t =>
      t.released = l.released ∧ p.map Block.md = mergeAifs b parts (temp.map Block.md) as := by
  induction as generalizing temp l with
  | nil => exact (sat_pure _ _ _).2 ⟨rfl, rfl⟩
  | cons a as ih =>
    unfold mergeAifsPtr mergeAifs
    by_cases hc : a.state = .closed
    · rw [if_pos hc, if_pos hc]
      exact ih temp l
    · rw [if_neg hc, if_neg hc]
      refine Sat.bind (sat_mergePtr b _ l) fun merged t ht => Sat.bind (sat_freeBlock temp t) fun _ u hu => ?_
      rw [← ht.2]
      exact (ih merged u).mono fun p v hv => ⟨hv.1.trans (hu.trans ht.1), hv.2⟩

theorem MetaPtr.Of.foreign {id : SessId} {s : SessionObj} {p : MetaPtr} (h : p.Of id s) :
    p.foreign = [] ↔ s.streamConfig.sessMode ≠ .nonTunnel := by
  cases p with
  | block b => exact iff_of_true rfl h
  | stored id' => exact iff_of_false (by simp [MetaPtr.foreign]) fun hmode => hmode h.2

theorem sessionGetMergedMetadata_of_nonTunnel {s : SessionObj} {hw : Hw} (h : s.streamConfig.sessMode = .nonTunnel) :
    sessionGetMergedMetadata s hw = some s.sessMeta := by
  rw [sessionGetMergedMetadata, if_neg (not_not.2 h)]

/-- What `session_get_merged_metadata` hands out. -/
theorem sat_sessionGetMergedPtr (id : SessId) (s : SessionObj) (hw : Hw) (l : Ledger) :
    Sat (sessionGetMergedPtr id s hw) l fun p t => t.released = l.released ∧
      p.isSome = (sessionGetMergedMetadata s hw).isSome ∧ ∀ q, p = some q → q.Of id s := by
  unfold sessionGetMergedPtr
  by_cases hmode : s.streamConfig.sessMode ≠ .nonTunnel
  · rw [if_pos hmode, sessionGetMergedMetadata, if_pos hmode]
    refine Sat.bind (sat_mergeAifsPtr hw.build _ s.aifPool none l) fun merged t ht => (sat_pure _ _ _).2 ⟨ht.1, ?_, ?_⟩
    · have hsome := congrArg Option.isSome ht.2
      rw [Option.isSome_map] at hsome
      rw [Option.isSome_map]
      exact hsome
    · intro q hq
      obtain ⟨b, -, rfl⟩ := Option.map_eq_some_iff.1 hq
      exact hmode
  · have hmode := not_not.1 hmode
    rw [if_neg (not_not.2 hmode), sat_pure, sessionGetMergedMetadata_of_nonTunnel hmode]
    exact ⟨rfl, rfl, fun q hq => Option.some.inj hq ▸ ⟨rfl, hmode⟩⟩

/-- `session_set_loopback` releases stored metadata exactly if it is handed a pointer to it. -/
theorem released_sessionSetLoopback (pbId : SessId) (enable : Bool) (l : Ledger) :
    Sat (sessionSetLoopbackPtr pbId enable) l fun _ t => t.released = l.released ↔ ¬ l.ctx.lendsMeta pbId := by
  obtain ⟨c, blocks, rel⟩ := l
  unfold sessionSetLoopbackPtr
  rw [sat_bind, sat_onCtx, sessionObjGet, sat_modify, sat_bind, sat_onCtx, sat_get]
  generalize hc₁ : ({ c with pool := c.pool.getOrCreate pbId (sessionObjCreate pbId) } : Ctx) = c₁
  have hsess : c₁.sess = c.sess := by rw [← hc₁]
  have hhw : c₁.hw = c.hw := by rw [← hc₁]
  have hfound : c.found pbId = c₁.peer pbId := by rw [← hc₁]; rfl
  unfold Ctx.lendsMeta
  rw [hfound, ← hsess, ← hhw]
  refine Sat.bind (sat_sessionGetMergedPtr c₁.sess.sessId c₁.sess c₁.hw _) fun capture t ht => ?_
  obtain ⟨ht, hcap, hof⟩ := ht
  rw [← hcap]
  cases capture with
  | none =>
    refine (sat_pure _ _ _).2 (iff_of_true ht ?_)
    rintro (h | h)
    · rw [sessionGetMergedMetadata_of_nonTunnel h] at hcap
      cases hcap
    · cases h.1
  | some capture =>
    have hcapture := (hof capture rfl).foreign
    have hself (xs : List SessId) : xs ++ rel = rel ↔ xs = [] := by simp
    refine Sat.bind (sat_sessionGetMergedPtr pbId (c₁.peer pbId) c₁.hw t) fun playback u hu => ?_
    obtain ⟨hu, hpb, hof⟩ := hu
    cases playback with
    | none =>
      refine Sat.bind (sat_free capture _) fun _ v hv => (sat_pure _ _ _).2 ?_
      have hpeer : (c₁.peer pbId).streamConfig.sessMode ≠ .nonTunnel := by
        intro h
        rw [sessionGetMergedMetadata_of_nonTunnel h] at hpb
        cases hpb
      rw [hv, hu, ht, hself, hcapture]
      simp [hpeer]
    | some playback =>
      have hplayback := (hof playback rfl).foreign
      refine Sat.bind (sat_mergePtr _ _ _) fun merged v hv => ?_
      rw [sat_bind, sat_onCtx]
      intro ret c₂ _
      refine Sat.bind (sat_free capture _) fun _ w hw => Sat.bind (sat_free playback _) fun _ x hx => ?_
      refine Sat.bind (sat_freeBlock merged _) fun _ y hy => ?_
      rw [sat_pure, hy, hx, hw, hv.1, hu, ht, ← List.append_assoc, hself, List.append_eq_nil_iff, hcapture, hplayback]
      simp [and_comm]

/-! ## What an open releases -/

theorem Ctx.Opening.found {c c' : Ctx} (h : c.Opening c') (id : SessId) :
    (c'.found id).streamConfig = (c.found id).streamConfig := by
  have hid := congrArg SessionObj.sessId h.sess
  have hid : c'.sess.sessId = c.sess.sessId := hid
  have hcfg := congrArg SessionObj.streamConfig h.sess
  have hcfg : c'.sess.streamConfig = c.sess.streamConfig := hcfg
  have hpool : (c'.pool.getOrCreate id (sessionObjCreate id)).objs id =
      (c.pool.getOrCreate id (sessionObjCreate id)).objs id := by
    have h₁ : c.pool.Grows sessionObjCreate (c'.pool.getOrCreate id (sessionObjCreate id)) :=
      trans_of _ h.pool (Pool.grows_getOrCreate _ _)
    have h₂ : c.pool.Grows sessionObjCreate (c.pool.getOrCreate id (sessionObjCreate id)) :=
      Pool.grows_getOrCreate _ _
    rcases h₁.cases (Pool.mem_getOrCreate _ _ _) with ⟨hm, he⟩ | ⟨hm, he⟩
    · rcases h₂.cases (Pool.mem_getOrCreate _ _ _) with ⟨-, he'⟩ | ⟨hm', -⟩
      · rw [he, he']
      · exact absurd hm hm'
    · rcases h₂.cases (Pool.mem_getOrCreate _ _ _) with ⟨hm', -⟩ | ⟨-, he'⟩
      · exact absurd hm' hm
      · rw [he, he']
  unfold Ctx.found Ctx.peer
  dsimp only
  rw [hid, hpool]
  split
  · exact hcfg
  · rfl

theorem Ctx.Opening.lendsMeta {c c' : Ctx} (h : c.Opening c') (id : SessId) :
    c'.lendsMeta id ↔ c.lendsMeta id := by
  have hcfg := congrArg SessionObj.streamConfig h.sess
  have hcfg : c'.sess.streamConfig = c.sess.streamConfig := hcfg
  unfold Ctx.lendsMeta
  rw [hcfg, h.merged, h.found]

theorem Follows.released {α : Type} {m' : ML α} {m : M α} {l : Ledger} (h : Follows False 0 m' m)
    (hb : l.blocks.Balanced 0) : Sat m' l fun a t => t.blocks.Balanced 0 ∧ t.released = l.released ∧
      m l.ctx = some (a, t.ctx) :=
  (h l 0 (by rwa [zero_add])).mono fun _ _ ht => ⟨ht.1, ht.2.resolve_right fun h => h.1⟩

theorem released_openLoopback (l : Ledger) :
    Sat openLoopbackPtr l fun _ t => t.released = l.released ↔
      ¬ (l.ctx.sess.loopbackState ∧ l.ctx.lendsMeta l.ctx.sess.loopbackSessId) := by
  unfold openLoopbackPtr
  rw [sat_bind, sat_onCtx, sat_get, sat_ite, sat_pure]
  refine ⟨fun hs => ?_, fun hs => iff_of_true rfl fun h => hs h.1⟩
  refine Sat.bind (released_sessionSetLoopback _ _ l) fun ret t ht => ?_
  have ht' : t.released = l.released ↔
      ¬ (l.ctx.sess.loopbackState ∧ l.ctx.lendsMeta l.ctx.sess.loopbackSessId) := by
    rw [ht, and_iff_right hs]
  rw [sat_ite, sat_onCtx, sat_bind, sat_modSess, sat_pure, sat_pure]
  exact ⟨fun _ => ht', fun _ => ht'⟩

theorem released_sessionObjOpen (mode : SessMode) {l : Ledger} (hb : l.blocks.Balanced 0) :
    Sat (sessionObjOpenPtr mode) l fun _ t => t.released = l.released ↔
      ¬ (l.ctx.sess.state = .closed ∧ l.ctx.sess.loopbackState ∧ comesToLoopback mode l.ctx ∧
        (l.ctx.inMode mode).lendsMeta l.ctx.sess.loopbackSessId) := by
  unfold sessionObjOpenPtr
  rw [sat_bind, sat_onCtx, sat_get, sat_ite, sat_pure]
  refine ⟨fun hcl => iff_of_true rfl fun h => hcl h.1, fun hcl => ?_⟩
  have hcl : l.ctx.sess.state = .closed := not_not.1 hcl
  refine Sat.bind ((follows_openBeforeLoopback mode).released hb) fun e t ht => ?_
  obtain ⟨hbt, hrel, hrun⟩ := ht
  have hopening := opening_openBeforeLoopback mode hcl e t.ctx hrun
  have hcomes := openBeforeLoopback_asks mode hcl e t.ctx hrun
  rw [sat_ite]
  constructor
  · intro hne
    refine ((follows_openEnd e).released hbt).mono fun _ u hu => ?_
    exact iff_of_true (hu.2.1.trans hrel) fun h => hne (hcomes.2 h.2.2.1)
  · intro h0
    have h0 : e.2 = 0 := not_not.1 h0
    have hopening := hopening h0
    have hstate := congrArg SessionObj.loopbackState hopening.sess
    have hstate : t.ctx.sess.loopbackState = l.ctx.sess.loopbackState := hstate
    have hid := congrArg SessionObj.loopbackSessId hopening.sess
    have hid : t.ctx.sess.loopbackSessId = l.ctx.sess.loopbackSessId := hid
    refine Sat.bind ((released_openLoopback t).and (follows_openLoopback t 0 (by rwa [zero_add]))) fun e u hu => ?_
    obtain ⟨hu, hbu, -⟩ := hu
    refine ((follows_openEnd e).released hbu).mono fun _ v hv => ?_
    rw [hv.2.1, ← hrel, hu, hstate, hid, hopening.lendsMeta]
    simp [hcl, hcomes.1 h0]

/-! ## The operations -/

/-- The operations that work with metadata which clients stored before. -/
inductive MetaOp
  | setLoopback (playbackSessId : SessId) (state : Bool)
  | setEcRef (aifId : Nat) (state : Bool)
  | open (sessMode : SessMode)
  | sessAifConnect (aifId : Nat) (aifState : Bool)
  | getTagWithModuleInfo (aifId : Option Nat)
  deriving DecidableEq, Repr

namespace MetaOp

def run : MetaOp → M Int
  | setLoopback playbackSessId state => sessionObjSetLoopback playbackSessId state
  | setEcRef aifId state => sessionObjSetEcRef aifId state
  | .open sessMode => sessionObjOpen sessMode
  | sessAifConnect aifId aifState => sessionObjSessAifConnect aifId aifState
  | getTagWithModuleInfo aifId => sessionObjGetTagWithModuleInfo aifId

/-- The operation with its pointers. -/
def runPtr : MetaOp → ML Int
  | setLoopback playbackSessId state => sessionObjSetLoopbackPtr playbackSessId state
  | setEcRef aifId state => sessionObjSetEcRefPtr aifId state
  | .open sessMode => sessionObjOpenPtr sessMode
  | sessAifConnect aifId aifState => sessionObjSessAifConnectPtr aifId aifState
  | getTagWithModuleInfo aifId => sessionObjGetTagWithModuleInfoPtr aifId

/-- The operation comes to a loopback edge with a session that lends its stored metadata. -/
def lendsMeta (c : Ctx) : MetaOp → Prop
  | setLoopback playbackSessId state =>
    ¬ (playbackSessId = c.sess.loopbackSessId ∧ state = c.sess.loopbackState) ∧ c.sess.state ≠ .closed ∧
      c.lendsMeta (if state then playbackSessId else c.sess.loopbackSessId)
  | .open sessMode =>
    c.sess.state = .closed ∧ c.sess.loopbackState ∧ comesToLoopback sessMode c ∧
      (c.inMode sessMode).lendsMeta c.sess.loopbackSessId
  | _ => False

end MetaOp

theorem MetaOp.follows_run (op : MetaOp) : Follows True 0 op.runPtr op.run := by
  cases op with
  | setLoopback playbackSessId state => exact follows_sessionObjSetLoopback playbackSessId state
  | setEcRef aifId state => exact follows_sessionObjSetEcRef aifId state
  | «open» sessMode => exact follows_sessionObjOpen sessMode
  | sessAifConnect aifId aifState => exact follows_sessionObjSessAifConnect aifId aifState
  | getTagWithModuleInfo aifId => exact follows_sessionObjGetTagWithModuleInfo aifId

/-- What an operation releases that it did not allocate. -/
theorem MetaOp.released_run (op : MetaOp) {l : Ledger} (hb : l.blocks.Balanced 0) :
    Sat op.runPtr l fun _ t => t.released = l.released ↔ ¬ op.lendsMeta l.ctx := by
  have hnone {m' : ML Int} {m : M Int} (h : Follows False 0 m' m) :
      Sat m' l fun _ t => t.released = l.released ↔ ¬ False :=
    (h.released hb).mono fun _ _ ht => iff_of_true ht.2.1 id
  cases op with
  | setLoopback playbackSessId state =>
    unfold MetaOp.runPtr sessionObjSetLoopbackPtr MetaOp.lendsMeta
    dsimp only
    rw [sat_bind, sat_onCtx, sat_get, sat_ite, sat_pure]
    refine ⟨fun h => iff_of_true rfl fun h' => h'.1 h, fun h => ?_⟩
    have hset (pbId : SessId) : Sat (onlyIf (l.ctx.sess.state ≠ .closed) (sessionSetLoopbackPtr pbId state)) l
        fun _ t => t.released = l.released ↔ ¬ (l.ctx.sess.state ≠ .closed ∧ l.ctx.lendsMeta pbId) := by
      rw [sat_onlyIf]
      refine ⟨fun hs => ?_, fun hs => iff_of_true rfl fun h' => hs h'.1⟩
      exact (released_sessionSetLoopback pbId state l).mono fun _ t ht => by rw [ht, and_iff_right hs]
    refine Sat.bind (hset _) fun ret t ht => ?_
    rw [and_iff_right h, sat_ite, sat_pure, sat_onCtx, sat_bind, sat_modSess, sat_pure]
    exact ⟨fun _ => ht, fun _ => ht⟩
  | setEcRef aifId state => exact hnone (follows_sessionObjSetEcRef aifId state)
  | «open» sessMode => exact released_sessionObjOpen sessMode hb
  | sessAifConnect aifId aifState => exact hnone (follows_sessionObjSessAifConnect aifId aifState)
  | getTagWithModuleInfo aifId => exact hnone (follows_sessionObjGetTagWithModuleInfo aifId)

theorem sameMetadata_of_kept {m : M Int} (hg : Within Ctx.Grows m) (hk : Within Ctx.MetaKept m) (c : Ctx) :
    Sat m c fun _ c' => c.SameMetadata c' :=
  ((hg c).and (hk c)).mono fun _ _ h => .of_fixed h.1 h.2.sess h.2.aifs

/-- An operation on a back end of the session: `aif_obj_get`, and then what leaves the metadata. -/
theorem sameMetadata_aif {aifId : Nat} {k : Nat → M Int}
    (hg : Within Ctx.Grows (aifObjGet aifId >>= fun r => match r with | .error ret => pure ret | .ok i => k i))
    (hk : ∀ i, Within Ctx.MetaKept (k i)) (c : Ctx) :
    Sat (aifObjGet aifId >>= fun r => match r with | .error ret => pure ret | .ok i => k i) c
      fun _ c' => c.SameMetadata c' := by
  have hstored : Sat (aifObjGet aifId >>= fun r => match r with | .error ret => pure ret | .ok i => k i) c
      fun _ c' => c'.sess.sessMeta = c.sess.sessMeta ∧ ∀ id, c'.sess.storedAifMeta id = c.sess.storedAifMeta id := by
    refine Sat.bind (storedMeta_aifObjGet aifId c) fun r c₁ h₁ => ?_
    cases r with
    | error e => exact (sat_pure _ _ _).2 h₁
    | ok i =>
      refine (hk i c₁).mono fun _ c₂ h₂ => ⟨h₂.sess.trans h₁.1, fun id => ?_⟩
      exact (storedAifMeta_of_fixed h₂.aifs id).trans (h₁.2 id)
  refine (hstored.and (hg c)).mono fun _ c' h => ?_
  obtain ⟨⟨hm, hl⟩, hg⟩ := h
  exact ⟨hm, hl, fun _ hs => hg.pool.objs hs, hg.devs⟩

/-- As long as it goes well, the metadata stays. -/
theorem MetaOp.sameMetadata_run (op : MetaOp) (c : Ctx) : Sat op.run c fun _ c' => c.SameMetadata c' := by
  have hk (gkv : Gkv) : Within Ctx.MetaKept (onHw (askGsl (.getTags gkv))) :=
    metaKept_of_edgeStep (edge_of_call (call_askGsl _))
  have hg (gkv : Gkv) : Within Ctx.Grows (onHw (askGsl (.getTags gkv))) :=
    grows_of_edgeStep (edge_of_call (call_askGsl _))
  cases op with
  | setLoopback playbackSessId state =>
    refine sameMetadata_of_kept (grows_run (.setLoopback playbackSessId state)) ?_ c
    refine within_bind within_get fun _ => within_ite (within_pure _) ?_
    refine within_bind (within_onlyIf (metaKept_of_edgeStep (edge_sessionSetLoopback _ _))) fun _ => ?_
    exact within_ite (within_pure _) (within_bind (metaKept_modSess fun _ => ⟨rfl, rfl⟩) fun _ => within_pure _)
  | setEcRef aifId state =>
    refine sameMetadata_of_kept (grows_run (.setEcRef aifId state)) ?_ c
    refine within_bind within_get fun _ => within_ite (within_pure _) ?_
    refine within_bind (within_onlyIf (metaKept_of_edgeStep (edge_sessionSetEcRef _ _))) fun _ => ?_
    exact within_ite (within_pure _) (within_bind (metaKept_modSess fun _ => ⟨rfl, rfl⟩) fun _ => within_pure _)
  | «open» sessMode =>
    exact sameMetadata_of_kept (grows_run (.open sessMode)) (metaKept_sessionObjOpen sessMode) c
  | sessAifConnect aifId aifState =>
    refine sameMetadata_aif (grows_sessionObjSessAifConnect aifId aifState) (fun i => ?_) c
    refine within_bind within_get fun _ => within_ite (within_pure _) ?_
    exact within_ite (metaKept_hotConnect _ _) (metaKept_hotDisconnect _ _)
  | getTagWithModuleInfo aifId =>
    unfold MetaOp.run sessionObjGetTagWithModuleInfo
    dsimp only
    rw [sat_bind, sat_get, sat_ite]
    constructor
    · intro _
      cases aifId with
      | none => exact sameMetadata_of_kept (within_pure _) (within_pure _) c
      | some aifId =>
        refine sameMetadata_aif ?_ (fun i => ?_) c
        · refine within_bind (grows_aifObjGet aifId) fun r => ?_
          cases r with
          | error e => exact within_pure _
          | ok i =>
            refine within_bind within_get fun c => ?_
            cases mergedMetadata (c.sess.aifAt i) c with
            | none => exact within_pure _
            | some merged => exact hg _
        · refine within_bind within_get fun c => ?_
          cases mergedMetadata (c.sess.aifAt i) c with
          | none => exact within_pure _
          | some merged => exact hk _
    · intro _
      cases hm : metadataMerge c.hw.build [some c.sess.sessMeta] with
      | none => exact sameMetadata_of_kept (within_pure _) (within_pure _) c
      | some merged => exact sameMetadata_of_kept (hg _) (hk _) c

/-- **Stored metadata stays exactly if no loopback is handed a pointer to it.**  The operations leave the metadata of
every session, back end and device, and release only blocks that they allocated, none of them twice, unless they set up or
take down a loopback between sessions one of which is in `NON_TUNNEL` mode. -/
theorem metaOp_keeps_metadata (op : MetaOp) (c : Ctx) :
    Sat op.runPtr { ctx := c } fun _ t =>
      (t.released = [] ∧ t.blocks.OwnOnly ∧ c.SameMetadata t.ctx) ↔ ¬ op.lendsMeta c := by
  have hb : ({ ctx := c } : Ledger).blocks.Balanced 0 := Blocks.balanced_nil
  refine ((op.released_run hb).and (op.follows_run { ctx := c } 0 (by rwa [zero_add]))).mono fun r t h => ?_
  obtain ⟨hrel, hbt, hfollows⟩ := h
  refine ⟨fun h => hrel.1 h.1, fun h => ?_⟩
  have hnil : t.released = [] := hrel.2 h
  refine ⟨hnil, hbt.ownOnly, ?_⟩
  rcases hfollows with ⟨-, hrun⟩ | ⟨-, hlt, -⟩
  · exact op.sameMetadata_run c r t.ctx hrun
  · rw [hnil] at hlt
    cases hlt

/-- An open `NON_TUNNEL` session with a key. -/
def Ctx.nonTunnelOpened : Ctx :=
  { Ctx.waiting [] fun _ => [] with
    sess := { sessId := 1, state := .opened, streamConfig := { sessMode := .nonTunnel }, graph := some default,
              sessMeta := { gkv := [⟨1, 2⟩] } } }

/-- Its loopback is switched on: its stored metadata is released, and gone. -/
theorem setLoopback_releases_stored :
    ((MetaOp.setLoopback 2 true).runPtr { ctx := .nonTunnelOpened }).map
        (fun p => (p.2.released, Ctx.nonTunnelOpened.sess.sessMeta.gkv, p.2.ctx.sess.sessMeta.gkv)) =
      some ([1], [⟨1, 2⟩], []) ∧
    ¬ Sat (MetaOp.setLoopback 2 true).runPtr { ctx := .nonTunnelOpened }
      fun _ t => t.released = [] ∧ Ctx.nonTunnelOpened.SameMetadata t.ctx := by
  have hrun : ((MetaOp.setLoopback 2 true).runPtr { ctx := .nonTunnelOpened }).map
      (fun p => (p.2.released, Ctx.nonTunnelOpened.sess.sessMeta.gkv, p.2.ctx.sess.sessMeta.gkv)) =
      some ([1], [⟨1, 2⟩], []) := by decide +kernel
  refine ⟨hrun, fun h => ?_⟩
  obtain ⟨r, t, ⟨hnil, -⟩, ht⟩ := h.exists_of_map
    (fun _ t => (t.released, Ctx.nonTunnelOpened.sess.sessMeta.gkv, t.ctx.sess.sessMeta.gkv)) hrun
  have := congrArg Prod.fst ht
  rw [hnil] at this
  cases this

end Agm.Service
