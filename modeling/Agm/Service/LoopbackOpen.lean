import Agm.Service.Edges
import Agm.Service.KeptMetadata

/-!
# An open up to its loopback

The last step of `session_obj_open` sets up the loopback.  Whether an open comes there is a matter of the state before it
and of the answers that wait: `comesToLoopback` lists the calls, and `openBeforeLoopback_asks` says that these decide.
-/

namespace Agm.Service

open Agm.Lib

/-! ## The steps of an open -/

/-- The echo-reference step of `session_obj_open` alone. -/
def openEcRefOnly : M (OpLabel × Int) := do
  let c ← get
  if c.sess.ecRefState then do
    let ret ← sessionSetEcRef c.sess.ecRefAifId true
    if ret ≠ 0 then do
      modSess fun s => { s with ecRefState := false, ecRefAifId := 0 }
      pure (.unwind, ret)
    else pure (.done, 0)
  else pure (.done, 0)

/-- The steps of `session_obj_open` up to the loopback, in a mode with devices. -/
def openDevices : M (OpLabel × Int) := do
  let ret ← sessionOpenWithFirstDevice
  if ret ≠ 0 then pure (.done, ret)
  else do
    let ret ← sessionConnectReminderDevices
    if ret ≠ 0 then pure (.done, ret) else openEcRefOnly

/-- `session_obj_open` up to its last step, the loopback. -/
def openBeforeLoopback (sessMode : SessMode) : M (OpLabel × Int) := do
  modSess fun s => { s with streamConfig := { s.streamConfig with sessMode := sessMode } }
  if sessMode.hasDevices then openDevices
  else do
    let ret ← sessionOpenWithoutDevice
    pure (.done, ret)

/-- The labels of `session_obj_open`. -/
def openEnd (e : OpLabel × Int) : M Int :=
  match e.1 with
  | .done =>
    if e.2 ≠ 0 then pure e.2
    else do
      modSess fun s => { s with state := .opened }
      pure 0
  | .unwind => do
    let _ ← mapEachAif disconnectOpened 0
    let _ ← graphClose
    pure e.2

theorem openEcRef_eq : openEcRef = openEcRefOnly >>= fun e => if e.2 ≠ 0 then pure e else openLoopback := by
  unfold openEcRef openEcRefOnly
  rw [bind_assoc]
  congr 1
  funext c
  by_cases hec : c.sess.ecRefState
  · simp only [if_pos hec, bind_assoc]
    congr 1
    funext ret
    by_cases hr : ret ≠ 0
    · simp only [if_pos hr, bind_assoc, pure_bind]
    · simp only [if_neg hr, pure_bind, ne_eq, not_true, if_false]
  · simp only [if_neg hec, pure_bind, ne_eq, not_true, if_false]

theorem sessionOpenBody_eq (mode : SessMode) : sessionOpenBody mode =
    openBeforeLoopback mode >>= fun e => if e.2 ≠ 0 then pure e else openLoopback := by
  unfold sessionOpenBody openBeforeLoopback openDevices
  rw [bind_assoc, openEcRef_eq]
  congr 1
  funext _
  by_cases hdev : mode.hasDevices
  · simp only [if_pos hdev, bind_assoc]
    congr 1
    funext ret
    by_cases hr : ret ≠ 0
    · simp only [if_pos hr, pure_bind]
    · simp only [if_neg hr, bind_assoc]
      congr 1
      funext ret
      by_cases hr : ret ≠ 0
      · simp only [if_pos hr, pure_bind]
      · simp only [if_neg hr]
  · simp only [if_neg hdev, bind_assoc, pure_bind]

theorem sessionObjOpen_eq (mode : SessMode) : sessionObjOpen mode = (do
    let c ← get
    if c.sess.state ≠ .closed then pure (-EALREADY)
    else do
      let e ← openBeforeLoopback mode
      if e.2 ≠ 0 then openEnd e
      else do
        let e ← openLoopback
        openEnd e) := by
  unfold sessionObjOpen
  rw [sessionOpenBody_eq]
  congr 1
  funext c
  by_cases hc : c.sess.state ≠ .closed
  · rw [if_pos hc, if_pos hc]
  · rw [if_neg hc, if_neg hc, bind_assoc]
    congr 1
    funext e
    by_cases he : e.2 ≠ 0
    · rw [if_pos he, if_pos he, pure_bind]
      rfl
    · rw [if_neg he, if_neg he]
      rfl

/-! ## What these steps keep -/

/-- The steps of an open that came as far as the loopback. -/
structure Ctx.Opening (c c' : Ctx) : Prop extends WalkStep c c' where
  pool : c.pool.Grows sessionObjCreate c'.pool
  aifs : c'.sess.aifPool.map Aif.live = c.sess.aifPool.map Aif.live

instance : IsPreorder Ctx Ctx.Opening where
  refl c := ⟨refl_of Ctx.WalkStep c, refl_of _ c.pool, rfl⟩
  trans _ _ _ h h' :=
    ⟨trans_of Ctx.WalkStep h.toWalkStep h'.toWalkStep, trans_of _ h.pool h'.pool, h'.aifs.trans h.aifs⟩

/-- What the walks of the open keep, put together from what each of them keeps. -/
theorem Ctx.Opening.of_walk {m : M Int} {c : Ctx} (hcl : c.sess.state = .closed)
    (hwalk : Sat m c fun _ c' => c.WalkStep c')
    (h : ∀ J, OpenTurns J → Within (Inv (AtPool (AtClosed J))) m) : Sat m c fun _ c' => c.Opening c' := by
  have hturns : OpenTurns fun c' l => c'.sess.sessMeta = c.sess.sessMeta ∧ l.map Aif.live = c.sess.aifPool.map Aif.live :=
    openTurns_view id
  have hlive := within_inv.1 (h _ hturns) c ⟨⟨rfl, rfl⟩, hcl⟩
  have hgrows := within_inv.1 (h _ (openTurns_grows c)) c ⟨refl_of Ctx.Grows c, hcl⟩
  refine ((hwalk.and hlive).and hgrows).mono fun _ c' h' => ?_
  obtain ⟨⟨hw, hl⟩, hg⟩ := h'
  exact ⟨hw, hg.1.pool, hl.1.2⟩

theorem opening_sessionOpenWithFirstDevice {c : Ctx} (hcl : c.sess.state = .closed) :
    Sat sessionOpenWithFirstDevice c fun _ c' => c.Opening c' :=
  Ctx.Opening.of_walk hcl ((sat_sessionOpenWithFirstDevice hcl).mono fun _ _ h => h.1)
    fun _ hJ => hJ.sessionOpenWithFirstDevice

theorem opening_sessionConnectReminderDevices {c : Ctx} (hcl : c.sess.state = .closed) :
    Sat sessionConnectReminderDevices c fun _ c' => c.Opening c' :=
  Ctx.Opening.of_walk hcl ((sat_sessionConnectReminderDevices c).mono fun _ _ h => h.1)
    fun _ hJ => hJ.sessionConnectReminderDevices

theorem opening_openBeforeLoopback (mode : SessMode) {c : Ctx} (hcl : c.sess.state = .closed) :
    Sat (openBeforeLoopback mode) c fun e c' => e.2 = 0 → (c.inMode mode).Opening c' := by
  have hec (c : Ctx) : Sat openEcRefOnly c fun e c' => e.2 = 0 → c.Opening c' := by
    unfold openEcRefOnly
    rw [sat_bind, sat_get, sat_ite, sat_pure]
    refine ⟨fun _ => ?_, fun _ _ => refl_of Ctx.Opening c⟩
    refine Sat.bind (edge_sessionSetEcRef _ _ c) fun ret c₁ s₁ => ?_
    rw [sat_ite, sat_bind, sat_modSess, sat_pure, sat_pure]
    refine ⟨fun hr h0 => absurd h0 hr, fun _ _ => ⟨s₁.walkStep, s₁.pool, ?_⟩⟩
    have hl := congrArg SessionObj.aifPool s₁.sess
    exact congrArg (List.map Aif.live) hl
  unfold openBeforeLoopback
  rw [sat_bind, sat_modSess, sat_ite]
  constructor
  · intro _
    refine Sat.bind (@opening_sessionOpenWithFirstDevice (c.inMode mode) hcl) fun r c₁ h₁ => ?_
    rw [sat_ite, sat_pure]
    refine ⟨fun hr h0 => absurd h0 hr, fun _ => ?_⟩
    have hcl₁ : c₁.sess.state = .closed := h₁.toWalkStep.state.trans hcl
    refine Sat.bind (opening_sessionConnectReminderDevices hcl₁) fun r c₂ h₂ => ?_
    rw [sat_ite, sat_pure]
    refine ⟨fun hr h0 => absurd h0 hr, fun _ => ?_⟩
    exact (hec c₂).mono fun e c₃ h₃ h0 => trans_of Ctx.Opening (trans_of Ctx.Opening h₁ h₂) (h₃ h0)
  · intro _
    have hbare : Sat sessionOpenWithoutDevice (c.inMode mode) fun _ c' => (c.inMode mode).Opening c' :=
      Ctx.Opening.of_walk hcl ((sat_sessionOpenWithoutDevice _).mono fun _ _ h => h.1.walkStep)
        fun _ hJ => hJ.sessionOpenWithoutDevice
    exact Sat.bind hbare fun r c₁ h₁ => (sat_pure _ _ _).2 fun _ => h₁

theorem mergeAifs_of_live {b : Build} {parts : Aif → List (Option Metadata)}
    (hparts : ∀ {a a' : Aif}, a'.fixed = a.fixed → parts a' = parts a) {as as' : List Aif}
    (h : as'.map Aif.live = as.map Aif.live) (temp : Option Metadata) :
    mergeAifs b parts temp as' = mergeAifs b parts temp as := by
  induction as generalizing as' temp with
  | nil =>
    obtain rfl : as' = [] := List.map_eq_nil_iff.1 h
    rfl
  | cons a as ih =>
    cases as' with
    | nil => cases h
    | cons a' as' =>
      obtain ⟨ha, has⟩ := List.cons.inj h
      have hstate : a'.state = .closed ↔ a.state = .closed := by
        have := congrArg Prod.snd ha
        simpa [Aif.live] using this
      unfold mergeAifs
      rw [hparts (congrArg Prod.fst ha), ih has, ih has]
      by_cases hc : a.state = .closed
      · rw [if_pos hc, if_pos (hstate.2 hc)]
      · rw [if_neg hc, if_neg (fun h => hc (hstate.1 h))]

section

variable {c c' : Ctx} (h : c.Opening c')

include h

theorem Ctx.Opening.streamConfig : c'.sess.streamConfig = c.sess.streamConfig := by
  have := congrArg SessionObj.streamConfig h.sess
  exact this

theorem Ctx.Opening.sessMeta : c'.sess.sessMeta = c.sess.sessMeta := by
  have := congrArg SessionObj.sessMeta h.sess
  exact this

theorem Ctx.Opening.build : c'.hw.build = c.hw.build := by
  have := congrArg Hw.build h.hw.fixed
  exact this

theorem Ctx.Opening.device (d : DevId) : (c'.hw.devs d).metadata = (c.hw.devs d).metadata := by
  have : (c'.hw.fixed.devs d).metadata = (c.hw.fixed.devs d).metadata := by rw [h.hw.fixed]
  exact this

theorem Ctx.Opening.merged : sessionGetMergedMetadata c'.sess c'.hw = sessionGetMergedMetadata c.sess c.hw := by
  unfold sessionGetMergedMetadata
  simp only [h.streamConfig, h.sessMeta, h.build, h.device]
  rw [mergeAifs_of_live (fun {a a'} hf => ?_) h.aifs]
  have h₁ := congrArg Aif.sessAifMeta hf
  have h₂ := congrArg Aif.devObj hf
  have h₁ : a'.sessAifMeta = a.sessAifMeta := h₁
  have h₂ : a'.devObj = a.devObj := h₂
  rw [h₁, h₂]

end

/-! ## Which calls lead to the loopback -/

/-- The calls of `graph_add` without a device. -/
def graphAddBareCalls (hw : Hw) (g : GraphObj) : List Kind :=
  [.addGraph] ++ if g.configures then g.taggedModList.flatMap (addModuleCalls hw) else []

theorem asks_graphAdd_bare (md : Metadata) (o : Owner) {c : Ctx} {g : GraphObj} (hg : c.sess.graph = some g)
    (hs : g.state ≠ .closed) :
    Asks Ctx.answers (graphAdd md o none) (· = 0) c (graphAddBareCalls c.hw g) fun _ _ => True := by
  refine asks_withGraph hg ?_
  rw [if_neg hs]
  refine (asks_askGsl (by simp [Call.kind]) c).andThen fun _ c₁ h₁ => ?_
  have hg₁ : c₁.sess.graph = some g := by rw [h₁.1, hg]
  have hif : g.configures ↔ g.state = .started ∨ g.state = .prepared := decide_eq_true_iff
  unfold graphAddModules graphAddHwEp
  rw [pure_bind, if_neg (fun h => h rfl)]
  by_cases hst : g.state = .started ∨ g.state = .prepared
  · have hcalls : addModuleCalls c₁.hw = addModuleCalls c.hw := eq_of_still (fun _ => rfl) h₁.2
    rw [if_pos hst, if_pos (hif.2 hst), ← hcalls]
    exact (@asks_moduleLoop _ addModuleCalls addedModule (fun _ => rfl) (fun _ => rfl) (asks_addModule g.handle) c₁ g
      hg₁).mono fun _ _ _ _ => trivial
  · rw [if_neg hst, if_neg (mt hif.1 hst)]
    exact asks_pure rfl trivial

/-- The calls that add the edge to an echo reference; `none` where that fails without one that is refused. -/
def ecRefEdgeCalls (aifId : Nat) (c : Ctx) : Option (List Kind) :=
  (ecRefMetadata aifId c).bind fun _ => c.sess.graph.bind fun g =>
    if g.state = .closed then none else some (graphAddBareCalls c.hw g)

/-- The calls of the echo-reference step of an open. -/
def ecRefCalls (c : Ctx) : Option (List Kind) :=
  if c.sess.ecRefState then ecRefEdgeCalls c.sess.ecRefAifId c else some []

theorem sat_sessionSetEcRef_asks (aifId : Nat) (c : Ctx) :
    Sat (sessionSetEcRef aifId true) c fun r _ => r = 0 ↔ (ecRefEdgeCalls aifId c).any (acceptsAll c.answers) := by
  unfold ecRefEdgeCalls
  refine sat_sessionSetEcRef (fun hnone r hr => ?_) fun md hmd => ?_
  · rw [hnone]
    exact iff_of_false hr (by simp)
  · rw [hmd, Option.bind_some]
    show Sat (graphAdd md (.ecRef aifId) none) c _
    have hfail {graph : Option (List Kind)} (hg : graph = none) (h : Sat (graphAdd md (.ecRef aifId) none) c fun r _ => r ≠ 0) :
        Sat (graphAdd md (.ecRef aifId) none) c fun r _ => r = 0 ↔ graph.any (acceptsAll c.answers) :=
      h.mono fun r _ hr => iff_of_false hr (by simp [hg])
    cases hg : c.sess.graph with
    | none => exact hfail rfl (sat_withGraph c (fun _ => by decide) fun g hg' => by rw [hg] at hg'; cases hg')
    | some g =>
      rw [Option.bind_some]
      by_cases hcl : g.state = .closed
      · refine hfail (if_pos hcl) (sat_withGraph c (fun _ => by decide) fun g' hg' => ?_)
        obtain rfl : g = g' := Option.some.inj (hg.symm.trans hg')
        rw [if_pos hcl, sat_pure]
        decide
      · rw [if_neg hcl]
        exact Sat.mono (asks_graphAdd_bare md _ hg hcl) fun r _ h => h.1

theorem sat_openEcRefOnly_asks (c : Ctx) :
    Sat openEcRefOnly c fun e _ => e.2 = 0 ↔ (ecRefCalls c).any (acceptsAll c.answers) := by
  unfold openEcRefOnly ecRefCalls
  rw [sat_bind, sat_get, sat_ite, sat_pure]
  refine ⟨fun hec => ?_, fun hec => by rw [if_neg hec]; exact iff_of_true rfl rfl⟩
  rw [if_pos hec]
  refine Sat.bind (sat_sessionSetEcRef_asks c.sess.ecRefAifId c) fun r c₁ h₁ => ?_
  rw [sat_ite, sat_bind, sat_modSess, sat_pure, sat_pure]
  exact ⟨fun _ => h₁, fun hr => iff_of_true rfl (h₁.1 (Decidable.not_not.1 hr))⟩

/-- What the step reads is in the session, in which back ends are closed, and inside the service. -/
theorem Ctx.Alike.ecRefCalls {c c' : Ctx} (h : c.Alike c')
    (hl : c'.sess.aifPool.map Aif.live = c.sess.aifPool.map Aif.live) :
    Service.ecRefCalls c' = Service.ecRefCalls c := by
  have hlisted (c₀ : Ctx) : Service.ecRefCalls c₀ =
      Service.ecRefCalls ⟨{ c₀.sess.unlisted with aifPool := c₀.sess.aifPool }, c.pool, c₀.hw.still⟩ := rfl
  rw [hlisted c', hlisted c, h.sess, h.still]
  unfold Service.ecRefCalls ecRefEdgeCalls ecRefMetadata sessionGetMergedMetadataWithoutAif
  dsimp only
  rw [mergeAifs_of_live (fun {a a'} hf => ?_) hl]
  have h₁ := congrArg Aif.sessAifMeta hf
  have h₁ : a'.sessAifMeta = a.sessAifMeta := h₁
  rw [h₁]

theorem aifPool_connectAll (n : Nat) (l : List Aif) (c : Ctx) : (Ctx.connectAll n l c).sess.aifPool = c.sess.aifPool := by
  induction l generalizing n c with
  | nil => rfl
  | cons a l ih => exact ih 1 (c.connected a n)

/-- The connects of the remaining back ends, and their unwind. -/
theorem sat_sessionConnectReminderDevices_asks {c c₀ : Ctx} (h : c₀.Alike c) (hface : c.face.isSome) :
    Sat sessionConnectReminderDevices c fun r c' =>
      if (connectAllCalls 1 c.sess.openAifs c₀).any (acceptsAll c.answers) then
        r = 0 ∧ (Ctx.connectAll 1 c.sess.openAifs c₀).Alike c' ∧
          ∀ ks, connectAllCalls 1 c.sess.openAifs c₀ = some ks → c'.answers = popAnswers c.answers ks
      else c'.sess.graph = none ∧ (r = 0 ↔ (c.hw.env .gslClose).headD 0 = 0) := by
  have hfails := fails_connectReminders h
  by_cases hall : (connectAllCalls 1 c.sess.openAifs c₀).any (acceptsAll c.answers)
  · simp only [if_pos hall]
    unfold sessionConnectReminderDevices
    refine Sat.bind (sat_connectReminderLoop_asks h) fun r c₁ h₁ => ?_
    have h0 := h₁.1.2 hall
    rw [if_neg (fun hr => hr h0), sat_pure]
    exact ⟨rfl, h₁.2 h0⟩
  · simp only [if_neg hall]
    refine (sat_sessionConnectReminderDevices c).mono fun r c' h' => ?_
    obtain ⟨-, h'⟩ := h'
    rw [if_pos (by rw [hfails, Bool.eq_false_iff.2 hall]; rfl)] at h'
    exact ⟨Option.map_eq_none_iff.1 h'.1, h'.2.1 hface⟩

/-- A session without devices can be opened, by the state and the answers that wait. -/
def bareOpens (c : Ctx) : Bool :=
  (c.sess.streamConfig.sessMode = .noConfig || c.hw.acceptsTags) && (graphOpened c.sess.sessMeta none c).isSome &&
    acceptsAll c.answers
      (graphOpenCalls c.sess.sessMeta none c ++ if c.sess.params.isSome then [.setCustomConfig] else [])

theorem sat_sessionOpenWithoutDevice_asks (c : Ctx) : Sat sessionOpenWithoutDevice c fun r _ => r = 0 ↔ bareOpens c := by
  have hany {α : Type} {m : M α} {c : Ctx} : Sat m c fun _ _ => True := fun _ _ _ => trivial
  unfold sessionOpenWithoutDevice bareOpens
  simp only [acceptsAll_append, Bool.and_eq_true, Bool.or_eq_true, decide_eq_true_iff]
  rw [sat_bind, sat_get]
  refine Sat.bind (sat_graphOpen_asks c.sess.sessMeta none c) fun r c₁ h₁ => ?_
  rw [sat_ite, sat_pure]
  refine ⟨fun hr => iff_of_false hr fun h => hr (h₁.1.2 ⟨h.1.1, h.2.1⟩), fun hr => ?_⟩
  have hr := Decidable.not_not.1 hr
  obtain ⟨hans, hsess, -⟩ := h₁.2 hr
  obtain ⟨htags, hopen⟩ := h₁.1.1 hr
  unfold graphRegisterCb
  cases hg : graphOpened c.sess.sessMeta none c with
  | none =>
    have hg₁ : c₁.sess.graph = none := by rw [hsess, hg]
    have hreg : Sat (withGraph fun _ => pure 0) c₁ fun r _ => r ≠ 0 :=
      sat_withGraph c₁ (fun _ => by decide) fun g hg' => by rw [hg₁] at hg'; cases hg'
    refine Sat.bind hreg fun r c₂ hr => ?_
    rw [if_pos hr]
    exact Sat.bind hany fun _ _ _ => (sat_pure _ _ _).2 (iff_of_false hr (by simp))
  | some g =>
    have hg₁ : c₁.sess.graph = some g := by rw [hsess, hg]
    have hreg : Sat (withGraph fun _ => pure 0) c₁ fun r c' => r = 0 ∧ c' = c₁ := by
      unfold withGraph
      rw [sat_bind, sat_get, hg₁, sat_pure]
      exact ⟨rfl, rfl⟩
    refine Sat.bind hreg fun r c₂ h₂ => ?_
    obtain ⟨rfl, rfl⟩ := h₂
    rw [if_neg (fun h => h rfl)]
    cases c.sess.params with
    | none => exact (sat_pure _ _ _).2 (iff_of_true rfl ⟨⟨htags, rfl⟩, hopen, rfl⟩)
    | some p =>
      refine Sat.bind (asks_graphSetConfig p hg₁) fun r c₃ h₃ => ?_
      have hset : r = 0 ↔ acceptsAll (popAnswers c.answers (graphOpenCalls c.sess.sessMeta none c)) [.setCustomConfig] := by
        rw [← hans]
        exact h₃.1
      rw [sat_ite, sat_bind (modSess _), sat_modSess, sat_pure]
      refine ⟨fun hr => ?_, fun hr => iff_of_true rfl ⟨⟨htags, rfl⟩, hopen, hset.1 (Decidable.not_not.1 hr)⟩⟩
      exact Sat.bind hany fun _ _ _ => (sat_pure _ _ _).2 (iff_of_false hr fun h => hr (hset.2 h.2.2))

theorem any_planThen {plan plan' : Option (List Kind)} {env : Kind → List Int} :
    (planThen plan plan').any (acceptsAll env) ↔
      ∃ ks, plan = some ks ∧ acceptsAll env ks ∧ plan'.any (acceptsAll (popAnswers env ks)) := by
  cases plan with
  | none => simp [planThen]
  | some ks =>
    cases plan' with
    | none => simp [planThen]
    | some ls => simp [planThen, acceptsAll_append]

/-- The back ends can all be connected and the echo reference set up; or a back end after the first one cannot, the error
is lost to the `gsl_close` of the unwind, and there is no echo reference.  By the state and the answers that wait. -/
def devicesOpen (c : Ctx) : Bool :=
  match c.sess.openAifs with
  | [] => false
  | a :: rest => connects a 0 c &&
      if (connectAllCalls 0 (a :: rest) c).any (acceptsAll c.answers) then
        (planThen (connectAllCalls 0 (a :: rest) c) (ecRefCalls (Ctx.connectAll 0 (a :: rest) c))).any
          (acceptsAll c.answers)
      else (c.hw.env .gslClose).headD 0 = 0 && ! c.sess.ecRefState

theorem sat_openDevices_asks {c : Ctx} (hcl : c.sess.state = .closed) :
    Sat openDevices c fun e _ => e.2 = 0 ↔ devicesOpen c := by
  unfold openDevices devicesOpen
  cases hl : c.sess.openAifs with
  | nil =>
    refine Sat.bind (sat_sessionOpenWithFirstDevice_asks c) fun r c₁ h₁ => ?_
    rw [hl] at h₁
    rw [if_pos h₁, sat_pure]
    exact iff_of_false h₁ (by simp)
  | cons a rest =>
    dsimp only
    refine Sat.bind ((((sat_sessionOpenWithFirstDevice_asks c).and (closes_sessionOpenWithFirstDevice hcl)).and
      (sat_sessionOpenWithFirstDevice hcl)).and (opening_sessionOpenWithFirstDevice hcl)) fun r c₁ h₁ => ?_
    rw [hl] at h₁
    obtain ⟨⟨⟨⟨hr, h₁⟩, hcloses⟩, -, -, hok, -⟩, ho₁⟩ := h₁
    rw [sat_ite, sat_pure]
    refine ⟨fun hne => iff_of_false hne ?_, fun h0 => ?_⟩
    · have hno : connects a 0 c = false := Bool.eq_false_iff.2 fun h => hne (hr.2 h)
      simp [hno]
    have h0 := Decidable.not_not.1 h0
    obtain ⟨halike, hrest, hans⟩ := h₁ h0
    have hcon := hr.1 h0
    have hall := @connectAllCalls_rest a rest c c₁ hcon hans
    have hcl₁ : c₁.sess.state = .closed := ho₁.toWalkStep.state.trans hcl
    refine Sat.bind ((sat_sessionConnectReminderDevices_asks halike (hok h0).1).and
      (opening_sessionConnectReminderDevices hcl₁)) fun r₂ c₂ h₂ => ?_
    obtain ⟨h₂, ho₂⟩ := h₂
    have ho := trans_of Ctx.Opening ho₁ ho₂
    have hec : c₂.sess.ecRefState = c.sess.ecRefState := by
      have := congrArg SessionObj.ecRefState ho.sess
      exact this
    rw [hrest] at h₂
    by_cases hgot : (connectAllCalls 0 (a :: rest) c).any (acceptsAll c.answers)
    · rw [if_pos (hall.1 hgot)] at h₂
      obtain ⟨hr₂, halike₂, hpop⟩ := h₂
      rw [if_neg (fun h => h hr₂)]
      have hlive : c₂.sess.aifPool.map Aif.live = (Ctx.connectAll 0 (a :: rest) c).sess.aifPool.map Aif.live := by
        rw [aifPool_connectAll]
        exact ho.aifs
      have hcalls : ecRefCalls c₂ = ecRefCalls (Ctx.connectAll 0 (a :: rest) c) := halike₂.ecRefCalls hlive
      obtain ⟨ks, hks, hacc⟩ := (Option.any_eq_true _ _).1 hgot
      have hans₂ : c₂.answers = popAnswers c.answers ks := by
        obtain ⟨ls, hls, hks⟩ := Option.bind_eq_some_iff.1 hks
        obtain ⟨ls', hls', rfl⟩ := Option.map_eq_some_iff.1 hks
        rw [hpop ls' hls', hans ls hls, popAnswers_append]
      refine (sat_openEcRefOnly_asks c₂).mono fun e _ he => he.trans ?_
      rw [hcalls, hans₂, hcon, Bool.true_and, if_pos hgot, any_planThen]
      refine ⟨fun h => ⟨ks, hks, hacc, h⟩, fun h => ?_⟩
      obtain ⟨ks', hks', -, h⟩ := h
      obtain rfl := Option.some.inj (hks.symm.trans hks')
      exact h
    · rw [if_neg (mt hall.2 hgot)] at h₂
      obtain ⟨hnone, hr₂⟩ := h₂
      rw [show c₁.hw.env .gslClose = c.hw.env .gslClose from hcloses h0] at hr₂
      rw [hcon, Bool.true_and, if_neg hgot, Bool.and_eq_true, decide_eq_true_iff, ← hr₂]
      rw [sat_ite, sat_pure]
      refine ⟨fun hne => iff_of_false hne fun h => hne h.1, fun h0 => ?_⟩
      refine (sat_openEcRefOnly_asks c₂).mono fun e _ he => he.trans ?_
      unfold ecRefCalls ecRefEdgeCalls
      rw [hec, hnone]
      cases c.sess.ecRefState with
      | true => simp
      | false => simp [Decidable.not_not.1 h0, acceptsAll]

/-- The open comes as far as its loopback. -/
def comesToLoopback (mode : SessMode) (c : Ctx) : Bool :=
  if mode.hasDevices then devicesOpen (c.inMode mode) else bareOpens (c.inMode mode)

/-- **Where an open comes to.**  It comes to its loopback exactly if the state and the answers that wait say so. -/
theorem openBeforeLoopback_asks (mode : SessMode) {c : Ctx} (hcl : c.sess.state = .closed) :
    Sat (openBeforeLoopback mode) c fun e _ => e.2 = 0 ↔ comesToLoopback mode c := by
  unfold openBeforeLoopback comesToLoopback
  rw [sat_bind, sat_modSess]
  by_cases hdev : mode.hasDevices
  · rw [if_pos hdev, if_pos hdev]
    exact @sat_openDevices_asks (c.inMode mode) hcl
  · rw [if_neg hdev, if_neg hdev]
    refine Sat.bind (sat_sessionOpenWithoutDevice_asks (c.inMode mode)) fun r c₁ h₁ => ?_
    rw [sat_pure]
    exact h₁

end Agm.Service
