import Agm.Lib.Answers
import Agm.Service.GraphSpec
import Agm.Service.Session

/-!
# The calls of a connect

Which calls `session_connect_aif` makes, up to the first one that is refused, can be read off the state before it: the
count of the device, the modules of the graph and the cached parameters.  `connectCalls` lists their kinds, and the
connect comes to its end exactly if the answers that wait for these calls are all `0` (`sat_sessionConnectBody_asks`).
The one exception are the calls to `get_tags`, of which there are one or two, as the first answer says.
-/

namespace Agm.Service

open Agm.Lib

/-! ## Answers that wait -/

namespace Hw

/-- The next call of this kind is accepted. -/
def accepts (hw : Hw) (k : Kind) : Bool := (hw.env k).headD 0 = 0

/-- `gsl_get_tags_with_module_info` is answered, at the second try if need be. -/
def acceptsTags (hw : Hw) : Bool :=
  let ret := arErrGetLnxErrCode ((hw.env .getTags).headD 0)
  if ret = -ENODATA then (hw.env .getTags).tail.headD 0 = 0 else ret = 0

/-- The answers that wait for the calls other than `get_tags`. -/
def answers (hw : Hw) : Kind → List Int := fun k => if k = .getTags then [] else hw.env k

end Hw

/-- The answers that wait for the locked session. -/
abbrev Ctx.answers (c : Ctx) : Kind → List Int := c.hw.answers

theorem answer_eq_zero_iff (hw : Hw) (call : Call) : hw.answer call = 0 ↔ hw.accepts call.kind := by
  simp [Hw.answer, Hw.accepts]

theorem lnx_answer_ne_zero_iff (hw : Hw) (call : Call) :
    arErrGetLnxErrCode (hw.answer call) ≠ 0 ↔ ¬ hw.accepts call.kind := by
  rw [ne_eq, arErrGetLnxErrCode_eq_zero_iff, answer_eq_zero_iff]

theorem acceptsAll_singleton {hw : Hw} {k : Kind} (hk : k ≠ .getTags) : acceptsAll hw.answers [k] = hw.accepts k := by
  simp [acceptsAll, Hw.answers, Hw.accepts, if_neg hk]

theorem answers_called (hw : Hw) (call : Call) : (hw.called call).answers = popAnswers hw.answers [call.kind] := by
  funext k
  simp only [Hw.answers, Hw.called, popAnswers, List.foldl, popAnswer]
  by_cases hk : k = .getTags
  · simp [hk]
  · simp only [if_neg hk]

theorem answers_called_getTags (hw : Hw) (gkv : Gkv) : (hw.called (.getTags gkv)).answers = hw.answers := by
  funext k
  by_cases hk : k = .getTags
  · simp [Hw.answers, hk]
  · simp [Hw.answers, Hw.called, Call.kind, hk]

/-- What a function reads inside the service alone. -/
theorem eq_of_still {α : Type} {f : Hw → α} (hf : ∀ hw, f hw.still = f hw) {hw hw' : Hw} (h : hw'.still = hw.still) :
    f hw' = f hw := by rw [← hf hw', h, hf]

/-! ## Steps that make a list of calls -/

/-- Only the outside world has changed, and the session has become `s`. -/
def Ctx.Told (c : Ctx) (s : SessionObj) (c' : Ctx) : Prop := c'.sess = s ∧ c'.hw.still = c.hw.still

theorem asks_askGsl {call : Call} (hk : call.kind ≠ .getTags) (c : Ctx) :
    Asks Ctx.answers (onHw (askGsl call)) (· = 0) c [call.kind] fun _ => c.Told c.sess := by
  unfold Asks
  rw [sat_onHw, sat_askGsl, acceptsAll_singleton hk]
  refine ⟨?_, fun _ => ⟨answers_called c.hw call, rfl, rfl⟩⟩
  exact (arErrGetLnxErrCode_eq_zero_iff _).trans (answer_eq_zero_iff c.hw call)

theorem asks_withGraph {f : GraphObj → M Int} {g : GraphObj} (hg : c.sess.graph = some g)
    (h : Asks Ctx.answers (f g) (· = 0) c ks Q) : Asks Ctx.answers (withGraph f) (· = 0) c ks Q := by
  unfold Asks withGraph at *
  rw [sat_bind, sat_get, hg]
  exact h

/-! ## The device -/

/-- The calls of `device_open`. -/
def openCalls (d : DevId) (hw : Hw) : List Kind := if hw.nOpen (hw.pcmObj d) = 0 then [.pcmOpen] else []

theorem asks_deviceOpen (d : DevId) (c : Ctx) :
    Asks Ctx.answers (onHw (deviceOpen d)) (· = 0) c (openCalls d c.hw) fun _ c' =>
      c'.sess = c.sess ∧ c'.hw.still = (c.hw.opened d).still ∧ c'.hw.nextHandle = c.hw.nextHandle ∧
        c'.hw.acceptsTags = c.hw.acceptsTags := by
  unfold deviceOpen openCalls Hw.nOpen Asks
  rw [sat_onHw, sat_bind, sat_get, sat_ite]
  constructor
  · intro hn
    rw [sat_bind, sat_modify, sat_pure, if_neg hn]
    exact ⟨⟨fun _ => rfl, fun _ => rfl⟩, fun _ => ⟨rfl, rfl, rfl, rfl, rfl⟩⟩
  · intro hn
    rw [if_pos (Decidable.not_not.1 hn), sat_bind, sat_ask, sat_ite, sat_pure, sat_bind, sat_modify, sat_pure,
      acceptsAll_singleton (by decide)]
    have hans := answer_eq_zero_iff c.hw (.pcmOpen (c.hw.pcmObj d))
    refine ⟨fun hr => ⟨⟨fun h0 => absurd h0 (by decide), fun h => absurd (hans.2 h) hr⟩,
      fun h0 => absurd h0 (by decide)⟩, fun hr => ?_⟩
    refine ⟨⟨fun _ => hans.1 (Decidable.not_not.1 hr), fun _ => rfl⟩, fun _ => ⟨?_, rfl, rfl, rfl, rfl⟩⟩
    exact answers_called c.hw (.pcmOpen (c.hw.pcmObj d))

/-! ## The graph -/

/-- The call of one turn of the module loop of `graph_add`. -/
def addModuleCalls (hw : Hw) (m : ModuleInfo) : List Kind :=
  if m.isConfigured ∧ m.tag ≠ .streamSpr then []
  else if hwEpStarted m hw then []
  else if m.tag.hasConfigure then [.configure] else []

/-- The module after a turn of the module loop of `graph_add`. -/
def addedModule (hw : Hw) (m : ModuleInfo) : ModuleInfo :=
  if hwEpStarted m hw ∨ m.tag.hasConfigure then { m with isConfigured := true } else m

/-- The call of one turn of the module loop of `graph_change`. -/
def changeModuleCalls (hw : Hw) (m : ModuleInfo) : List Kind :=
  match m.devObj with
  | none => []
  | some d => if m.tag.hasConfigure ∧ ¬ m.isConfigured ∧ deviceGetStartRefcnt d hw = 0 then [.configure] else []

/-- The module after a turn of the module loop of `graph_change`. -/
def changedModule (hw : Hw) (m : ModuleInfo) : ModuleInfo :=
  match m.devObj with
  | none => m
  | some d =>
    if m.tag.hasConfigure ∧ ¬ m.isConfigured ∧ deviceGetStartRefcnt d hw = 0 then { m with isConfigured := true } else m

/-- The graph object after a turn of a module loop. -/
def GraphObj.turned (calls : ModuleInfo → List Kind) (m : ModuleInfo) (g : GraphObj) : GraphObj :=
  if calls m = [] then g else g.configuring m

/-- The graph object after a module loop that calls the modules back as `calls` says, and leaves them as `f` does. -/
def GraphObj.walked (calls : ModuleInfo → List Kind) (f : ModuleInfo → ModuleInfo) (g : GraphObj) : GraphObj :=
  { walkEnd (turned calls) g.taggedModList g with taggedModList := g.taggedModList.map f }

/-- The module list of `graph_change`: the endpoints of other devices leave it. -/
def changeHwEp (new : ModuleInfo) (ms : List ModuleInfo) : List ModuleInfo :=
  if new.miid ∈ ms.map (·.miid) then (addHwEp new ms).filter fun m => ! (m.tag.isHwEp && m.miid != new.miid)
  else ms.filter (fun m => ! (m.tag.isHwEp && m.miid != new.miid)) ++ [new]

/-- The modules are configured at once only on a graph that is prepared or started. -/
def GraphObj.configures (g : GraphObj) : Bool := g.state = .started ∨ g.state = .prepared

/-- The calls of `graph_add` for a back end. -/
def graphAddCalls (md : Metadata) (d : DevId) (hw : Hw) (g : GraphObj) : List Kind :=
  [.addGraph] ++ ([.taggedModuleInfo] ++
    if g.configures then (addHwEp (hwEpModule md d hw) g.taggedModList).flatMap (addModuleCalls hw) else [])

/-- The graph object after a `graph_add` for a back end. -/
def GraphObj.added (md : Metadata) (d : DevId) (hw : Hw) (g : GraphObj) : GraphObj :=
  if g.configures then
    { g with taggedModList := addHwEp (hwEpModule md d hw) g.taggedModList }.walked (addModuleCalls hw) (addedModule hw)
  else { g with taggedModList := addHwEp (hwEpModule md d hw) g.taggedModList }

/-- The calls of `graph_change`. -/
def graphChangeCalls (md : Metadata) (d : DevId) (hw : Hw) (g : GraphObj) : List Kind :=
  [.taggedModuleInfo] ++ ([.changeGraph] ++
    (changeHwEp (hwEpModule md d hw) g.taggedModList).flatMap (changeModuleCalls hw))

/-- The graph object after a `graph_change`. -/
def GraphObj.changed (md : Metadata) (d : DevId) (hw : Hw) (g : GraphObj) : GraphObj :=
  { g with taggedModList := changeHwEp (hwEpModule md d hw) g.taggedModList }.walked (changeModuleCalls hw)
    (changedModule hw)

/-- The modules `graph_open` finds; `none` where a tag of theirs has more than one. -/
def modulesFor (md : Metadata) (dev : Option DevId) (c : Ctx) : Option (List ModuleInfo) :=
  if c.sess.streamConfig.sessMode = .noConfig then some []
  else collectModules md.gkv dev (c.hw.acdb.tagTable md.gkv)

/-- The calls of `graph_open`, after those to `get_tags`. -/
def graphOpenCalls (md : Metadata) (dev : Option DevId) (c : Ctx) : List Kind :=
  match modulesFor md dev c with
  | none => []
  | some _ => [.gslOpen] ++ [.registerEventCb]

/-- The graph object after a `graph_open` that answered `0`. -/
def graphOpened (md : Metadata) (dev : Option DevId) (c : Ctx) : Option GraphObj :=
  match modulesFor md dev c with
  | none => c.sess.graph
  | some mods => some { state := .opened, handle := c.hw.nextHandle, taggedModList := mods }

theorem asks_configureModule (h : Handle) (m : ModuleInfo) (c : Ctx) :
    Asks Ctx.answers (configureModule h m) (·.1 = 0) c [.configure] fun p c' =>
      p.2 = { m with isConfigured := true } ∧ c.Told { c.sess with graph := c.sess.graph.map (·.configuring m) } c' := by
  unfold configureModule Asks
  rw [sat_bind, sat_modGraph, sat_bind, sat_onHw, sat_ask, sat_ite, sat_pure, sat_pure, acceptsAll_singleton (by decide)]
  have hans := answer_eq_zero_iff c.hw (.configure h m.tag m.miid)
  refine ⟨fun hr => ⟨hans, fun h0 => absurd h0 hr⟩, fun hr => ?_⟩
  refine ⟨⟨fun _ => hans.1 (Decidable.not_not.1 hr), fun _ => rfl⟩, fun _ => ⟨?_, rfl, rfl, rfl⟩⟩
  exact answers_called c.hw (.configure h m.tag m.miid)

section

variable {calls : ModuleInfo → List Kind} {m : ModuleInfo}

/-- A turn without a call. -/
theorem told_turned_of_nil (h : calls m = []) (c : Ctx) :
    c.Told { c.sess with graph := c.sess.graph.map (GraphObj.turned calls m) } c := by
  have hid : GraphObj.turned calls m = id := funext fun g => if_pos h
  rw [hid, Option.map_id]
  exact ⟨rfl, rfl⟩

theorem turned_of_ne (h : calls m ≠ []) : GraphObj.turned calls m = (·.configuring m) := funext fun _ => if_neg h

end

theorem asks_addModule (h : Handle) (m : ModuleInfo) (c : Ctx) :
    Asks Ctx.answers (addModule h m) (·.1 = 0) c (addModuleCalls c.hw m) fun p c' =>
      p.2 = addedModule c.hw m ∧
        c.Told { c.sess with graph := c.sess.graph.map (GraphObj.turned (addModuleCalls c.hw) m) } c' := by
  unfold addModule Asks
  rw [sat_bind, sat_get]
  by_cases h₁ : m.isConfigured ∧ m.tag ≠ .streamSpr
  · have hcalls : addModuleCalls c.hw m = [] := if_pos h₁
    rw [if_pos h₁, hcalls]
    refine asks_pure rfl ⟨?_, told_turned_of_nil hcalls c⟩
    unfold addedModule
    obtain ⟨_, _, _, _, _, _⟩ := m
    obtain rfl : _ = true := h₁.1
    split <;> rfl
  · rw [if_neg h₁]
    by_cases h₂ : hwEpStarted m c.hw
    · have hcalls : addModuleCalls c.hw m = [] := (if_neg h₁).trans (if_pos h₂)
      rw [if_pos h₂, hcalls]
      exact asks_pure rfl ⟨(if_pos (.inl h₂)).symm, told_turned_of_nil hcalls c⟩
    · rw [if_neg h₂]
      by_cases h₃ : m.tag.hasConfigure
      · have hcalls : addModuleCalls c.hw m = [.configure] := (if_neg h₁).trans ((if_neg h₂).trans (if_pos h₃))
        rw [if_pos h₃, hcalls, turned_of_ne (by rw [hcalls]; exact List.cons_ne_nil _ _), addedModule, if_pos (.inr h₃)]
        exact asks_configureModule h m c
      · have hcalls : addModuleCalls c.hw m = [] := (if_neg h₁).trans ((if_neg h₂).trans (if_neg h₃))
        rw [if_neg h₃, hcalls]
        exact asks_pure rfl ⟨(if_neg (not_or.2 ⟨h₂, h₃⟩)).symm, told_turned_of_nil hcalls c⟩

theorem asks_changeModule (h : Handle) (m : ModuleInfo) (c : Ctx) :
    Asks Ctx.answers (changeModule h m) (·.1 = 0) c (changeModuleCalls c.hw m) fun p c' =>
      p.2 = changedModule c.hw m ∧
        c.Told { c.sess with graph := c.sess.graph.map (GraphObj.turned (changeModuleCalls c.hw) m) } c' := by
  unfold changeModule Asks
  rw [sat_bind, sat_get]
  cases hd : m.devObj with
  | none =>
    have hcalls : changeModuleCalls c.hw m = [] := by simp [changeModuleCalls, hd]
    rw [hcalls]
    exact asks_pure rfl ⟨by simp [changedModule, hd], told_turned_of_nil hcalls c⟩
  | some d =>
    dsimp only
    by_cases h₁ : m.tag.hasConfigure ∧ ¬ m.isConfigured ∧ deviceGetStartRefcnt d c.hw = 0
    · have hcalls : changeModuleCalls c.hw m = [.configure] := by
        unfold changeModuleCalls
        rw [hd]
        exact if_pos h₁
      have hm : changedModule c.hw m = { m with isConfigured := true } := by
        unfold changedModule
        rw [hd]
        exact if_pos h₁
      rw [if_pos h₁, hcalls, hm, turned_of_ne (by rw [hcalls]; exact List.cons_ne_nil _ _)]
      exact asks_configureModule h m c
    · have hcalls : changeModuleCalls c.hw m = [] := by
        unfold changeModuleCalls
        rw [hd]
        exact if_neg h₁
      have hm : changedModule c.hw m = m := by
        unfold changedModule
        rw [hd]
        exact if_neg h₁
      rw [if_neg h₁, hcalls]
      exact asks_pure rfl ⟨hm.symm, told_turned_of_nil hcalls c⟩

/-- The module loop at the end of `graph_add` and `graph_change`. -/
theorem asks_moduleLoop {body : ModuleInfo → M (Int × ModuleInfo)} {calls : Hw → ModuleInfo → List Kind}
    {f : Hw → ModuleInfo → ModuleInfo} (hcalls : ∀ hw, calls hw.still = calls hw) (hf : ∀ hw, f hw.still = f hw)
    (step : ∀ m c, Asks Ctx.answers (body m) (·.1 = 0) c (calls c.hw m) fun p c' => p.2 = f c.hw m ∧
      c.Told { c.sess with graph := c.sess.graph.map (GraphObj.turned (calls c.hw) m) } c')
    {c : Ctx} {g : GraphObj} (hg : c.sess.graph = some g) :
    Asks Ctx.answers (do
      let c ← get
      let p ← forEach body ((c.sess.graph.map (·.taggedModList)).getD [])
      modGraph fun g => { g with taggedModList := p.2 }
      pure p.1) (· = 0) c (g.taggedModList.flatMap (calls c.hw)) fun _ =>
      c.Told { c.sess with graph := some (g.walked (calls c.hw) (f c.hw)) } := by
  -- the graph object is handed on from turn to turn
  have hbody (m : ModuleInfo) (g' : GraphObj) (c' : Ctx) (hc' : c.Told { c.sess with graph := some g' } c') :
      Asks Ctx.answers (body m) (·.1 = 0) c' (calls c.hw m) fun p c'' => p.2 = f c.hw m ∧
        c.Told { c.sess with graph := some (g'.turned (calls c.hw) m) } c'' := by
    have h := step m c'
    rw [← hcalls c'.hw, ← hf c'.hw, hc'.2, hcalls, hf] at h
    exact h.mono fun p c'' _ h => ⟨h.1, h.2.1.trans (by rw [hc'.1, Option.map_some]), h.2.2.trans hc'.2⟩
  have hstart : c.Told { c.sess with graph := some g } c := ⟨by rw [← hg], rfl⟩
  unfold Asks
  rw [sat_bind, sat_get, hg, Option.map_some, Option.getD_some]
  refine Sat.bind (asks_forEach hbody g.taggedModList hstart) fun p c₁ h₁ => ?_
  rw [sat_bind, sat_modGraph, sat_pure]
  refine ⟨h₁.1, fun h0 => ?_⟩
  obtain ⟨hans, hms, hsess, hstill⟩ := h₁.2 h0
  refine ⟨hans, ?_, hstill⟩
  simp only [hsess, hms, Option.map_some]
  rfl

/-- The query for the endpoint of a device, and the module list with it. -/
theorem asks_endpoint {md : Metadata} {d : DevId} {c : Ctx} {g : GraphObj} (hg : c.sess.graph = some g)
    (upd : Hw → List ModuleInfo → List ModuleInfo) :
    Asks Ctx.answers (do
      let c ← get
      let ret ← onHw (askGsl (.taggedModuleInfo md.gkv (hwEpTag (c.hw.devs d))))
      if ret ≠ 0 then pure ret
      else do
        modGraph fun g => { g with taggedModList := upd c.hw g.taggedModList }
        pure 0) (· = 0) c [.taggedModuleInfo] fun _ =>
      c.Told { c.sess with graph := some { g with taggedModList := upd c.hw g.taggedModList } } := by
  unfold Asks
  rw [sat_bind, sat_get]
  have hset (c₁ : Ctx) (h₁ : c.Told c.sess c₁) : Asks Ctx.answers (do
        modGraph fun g => { g with taggedModList := upd c.hw g.taggedModList }
        pure (0 : Int)) (· = 0) c₁ [] fun _ =>
      c.Told { c.sess with graph := some { g with taggedModList := upd c.hw g.taggedModList } } := by
    unfold Asks
    rw [sat_bind, sat_modGraph]
    refine asks_pure rfl ⟨?_, h₁.2⟩
    simp only [h₁.1, hg, Option.map_some]
  exact (asks_askGsl (by simp [Call.kind]) c).andThen fun _ c₁ h₁ => hset c₁ h₁

theorem asks_graphAdd (md : Metadata) (o : Owner) (d : DevId) {c : Ctx} {g : GraphObj} (hg : c.sess.graph = some g)
    (hs : g.state ≠ .closed) :
    Asks Ctx.answers (graphAdd md o (some d)) (· = 0) c (graphAddCalls md d c.hw g) fun _ =>
      c.Told { c.sess with graph := some (g.added md d c.hw) } := by
  refine asks_withGraph hg ?_
  rw [if_neg hs]
  refine (asks_askGsl (by simp [Call.kind]) c).andThen fun _ c₁ h₁ => ?_
  have hg₁ : c₁.sess.graph = some g := by rw [h₁.1, hg]
  refine (asks_endpoint hg₁ fun hw => addHwEp (hwEpModule md d hw)).andThen fun _ c₂ h₂ => ?_
  have hmod : hwEpModule md d c₁.hw = hwEpModule md d c.hw := eq_of_still (fun _ => rfl) h₁.2
  rw [hmod, h₁.1] at h₂
  have hstill := h₂.2.trans h₁.2
  have hif : g.configures ↔ g.state = .started ∨ g.state = .prepared := decide_eq_true_iff
  by_cases hst : g.state = .started ∨ g.state = .prepared
  · have hadded : g.added md d c.hw = { g with
        taggedModList := addHwEp (hwEpModule md d c.hw) g.taggedModList }.walked (addModuleCalls c.hw)
          (addedModule c.hw) := by
      rw [GraphObj.added, if_pos (hif.2 hst)]
    rw [if_pos hst, if_pos (hif.2 hst), hadded]
    have hloop := @asks_moduleLoop _ addModuleCalls addedModule (fun _ => rfl) (fun _ => rfl) (asks_addModule g.handle)
      c₂ { g with taggedModList := addHwEp (hwEpModule md d c.hw) g.taggedModList }
      (by rw [h₂.1])
    have hcalls : addModuleCalls c₂.hw = addModuleCalls c.hw := eq_of_still (fun _ => rfl) hstill
    have hset : addedModule c₂.hw = addedModule c.hw := eq_of_still (fun _ => rfl) hstill
    rw [hcalls, hset] at hloop
    refine hloop.mono fun _ c₃ _ h₃ => ⟨?_, h₃.2.trans hstill⟩
    rw [h₃.1, h₂.1]
  · have hadded : g.added md d c.hw = { g with taggedModList := addHwEp (hwEpModule md d c.hw) g.taggedModList } := by
      rw [GraphObj.added, if_neg (mt hif.1 hst)]
    rw [if_neg hst, if_neg (mt hif.1 hst), hadded]
    exact asks_pure rfl ⟨h₂.1, hstill⟩

theorem asks_graphChange (md : Metadata) (d : DevId) {c : Ctx} {g : GraphObj} (hg : c.sess.graph = some g) :
    Asks Ctx.answers (graphChange md (some d)) (· = 0) c (graphChangeCalls md d c.hw g) fun _ =>
      c.Told { c.sess with graph := some (g.changed md d c.hw) } := by
  refine asks_withGraph hg ?_
  refine (asks_endpoint hg fun hw => changeHwEp (hwEpModule md d hw)).andThen fun _ c₁ h₁ => ?_
  refine (asks_askGsl (by simp [Call.kind]) c₁).andThen fun _ c₂ h₂ => ?_
  have hstill := h₂.2.trans h₁.2
  have hsess := h₂.1.trans h₁.1
  have hloop := @asks_moduleLoop _ changeModuleCalls changedModule (fun _ => rfl) (fun _ => rfl) (asks_changeModule g.handle)
    c₂ { g with taggedModList := changeHwEp (hwEpModule md d c.hw) g.taggedModList }
    (by rw [hsess])
  have hcalls : changeModuleCalls c₂.hw = changeModuleCalls c.hw := eq_of_still (fun _ => rfl) hstill
  have hset : changedModule c₂.hw = changedModule c.hw := eq_of_still (fun _ => rfl) hstill
  rw [hcalls, hset] at hloop
  refine hloop.mono fun _ c₃ _ h₃ => ⟨?_, h₃.2.trans hstill⟩
  rw [h₃.1, hsess]
  rfl

/-! ## Opening the graph -/

theorem sat_getTags_answers (gkv : Gkv) (c : Ctx) :
    Sat (getTagsWithModuleInfo gkv) c fun r c' => (r = 0 ↔ c.hw.acceptsTags) ∧ c'.answers = c.answers ∧
      c.Told c.sess c' ∧ c'.hw.nextHandle = c.hw.nextHandle := by
  have hone := answers_called_getTags c.hw gkv
  unfold getTagsWithModuleInfo
  simp only [sat_bind, sat_onHw, sat_askGsl, sat_ite, sat_pure]
  refine ⟨fun hr => ⟨?_, (answers_called_getTags _ gkv).trans hone, ⟨rfl, rfl⟩, rfl⟩,
    fun hr => ⟨?_, hone, ⟨rfl, rfl⟩, rfl⟩⟩
  · have hr : arErrGetLnxErrCode ((c.hw.env .getTags).headD 0) = -ENODATA := hr
    unfold Hw.acceptsTags
    dsimp only
    rw [if_pos hr, decide_eq_true_iff, arErrGetLnxErrCode_eq_zero_iff]
    exact Iff.rfl
  · have hr : ¬ arErrGetLnxErrCode ((c.hw.env .getTags).headD 0) = -ENODATA := hr
    unfold Hw.acceptsTags
    dsimp only
    rw [if_neg hr, decide_eq_true_iff]
    exact Iff.rfl

theorem asks_graphOpenGsl (md : Metadata) (mods : List ModuleInfo) (c : Ctx) :
    Asks Ctx.answers (graphOpenGsl md mods) (· = 0) c ([.gslOpen] ++ ([.registerEventCb] ++ [])) fun _ =>
      c.Told { c.sess with graph := some { state := .opened, handle := c.hw.nextHandle, taggedModList := mods } } := by
  unfold graphOpenGsl Asks
  rw [sat_bind, sat_get]
  refine (asks_askGsl (by simp [Call.kind]) c).andThen fun _ c₁ h₁ => ?_
  unfold Asks
  rw [sat_bind, sat_onHw, sat_modify]
  -- the handle is used up
  have hreg : Call.kind (.registerEventCb c.hw.nextHandle) ≠ .getTags := by simp [Call.kind]
  refine (asks_askGsl hreg _).bind (fun r c₂ hr => ?_) fun r c₂ hr h₂ => ?_
  · rw [if_pos hr, sat_bind, sat_onHw, sat_ask, sat_pure]
    exact hr
  · rw [if_neg (fun h => h hr)]
    unfold Asks
    rw [sat_bind, sat_modSess]
    refine asks_pure rfl ⟨?_, h₂.2.trans h₁.2⟩
    have hsess : c₂.sess = c.sess := h₂.1.trans h₁.1
    simp only [hsess]

theorem sat_graphOpen_asks (md : Metadata) (dev : Option DevId) (c : Ctx) :
    Sat (graphOpen md dev) c fun r c' =>
      (r = 0 ↔ (c.sess.streamConfig.sessMode = .noConfig ∨ c.hw.acceptsTags) ∧
        acceptsAll c.answers (graphOpenCalls md dev c)) ∧
      (r = 0 → c'.answers = popAnswers c.answers (graphOpenCalls md dev c) ∧
        c.Told { c.sess with graph := graphOpened md dev c } c') := by
  unfold graphOpen graphOpenCalls graphOpened modulesFor
  rw [sat_bind, sat_get]
  by_cases hmode : c.sess.streamConfig.sessMode = .noConfig
  · simp only [if_pos hmode]
    refine Sat.mono (asks_graphOpenGsl md [] c) fun r c' h => ⟨?_, h.2⟩
    exact ⟨fun h0 => ⟨.inl hmode, h.1.1 h0⟩, fun h' => h.1.2 h'.2⟩
  simp only [if_neg hmode]
  refine Sat.bind (sat_getTags_answers md.gkv c) fun r c₁ h₁ => ?_
  obtain ⟨htags, hans, htold, hnext⟩ := h₁
  rw [sat_ite, sat_pure]
  constructor
  · intro hr
    exact ⟨⟨fun h0 => absurd h0 hr, fun h => htags.2 (h.1.resolve_left hmode)⟩, fun h0 => absurd h0 hr⟩
  intro hr
  have hr := htags.1 (Decidable.not_not.1 hr)
  cases collectModules md.gkv dev (c.hw.acdb.tagTable md.gkv) with
  | none =>
    exact (sat_pure _ _ _).2 ⟨⟨fun _ => ⟨.inr hr, rfl⟩, fun _ => rfl⟩, fun _ => ⟨hans, htold⟩⟩
  | some mods =>
    refine Sat.mono (asks_graphOpenGsl md mods c₁) fun r' c' h => ?_
    rw [hans] at h
    refine ⟨⟨fun h0 => ⟨.inr hr, h.1.1 h0⟩, fun h' => h.1.2 h'.2⟩, fun h0 => ?_⟩
    refine ⟨(h.2 h0).1, ?_, (h.2 h0).2.2.trans htold.2⟩
    rw [(h.2 h0).2.1, htold.1, hnext]

/-! ## Cached parameters -/

/-- The devices after `session_apply_aif_device_params`. -/
def Hw.paramsSent (d : DevId) (hw : Hw) : Hw :=
  if (hw.devs d).params.isSome ∧ deviceGetState d hw ≠ .closed then hw.setDev d { hw.devs d with params := none } else hw

theorem Hw.still_paramsSent (d : DevId) (hw : Hw) : (hw.paramsSent d).still = hw.still.paramsSent d := by
  have hif : hw.still.paramsSent d = if (hw.devs d).params.isSome ∧ deviceGetState d hw ≠ .closed then
      hw.still.setDev d { hw.devs d with params := none } else hw.still := rfl
  rw [hif, Hw.paramsSent]
  split <;> rfl

/-- The call of `session_apply_aif_device_params`. -/
def deviceParamsCalls (d : DevId) (hw : Hw) : List Kind :=
  if (hw.devs d).params.isSome ∧ deviceGetState d hw ≠ .closed then [.setCustomConfig] else []

/-- The session after step 2.c of `session_connect_aif`. -/
def SessionObj.paramsApplied (s : SessionObj) : SessionObj :=
  { s with params := if s.state = .closed then none else s.params }

/-- The calls of the steps 2.c to 2.f of `session_connect_aif`. -/
def cachedCalls (a : Aif) (c : Ctx) : List Kind :=
  (if c.sess.params.isSome ∧ c.sess.state = .closed then [.setCustomConfig] else []) ++
    ((if a.params.isSome then [.setCustomConfig] else []) ++
      (deviceParamsCalls a.devObj c.hw ++ if a.tagConfig.isSome then [.setConfig] else []))

theorem asks_graphSetConfig (p : Payload) {c : Ctx} {g : GraphObj} (hg : c.sess.graph = some g) :
    Asks Ctx.answers (graphSetConfig p) (· = 0) c [.setCustomConfig] fun _ => c.Told c.sess :=
  asks_withGraph hg (asks_askGsl (by simp [Call.kind]) c)

theorem asks_sessionApplyParams {c : Ctx} {g : GraphObj} (hg : c.sess.graph = some g) :
    Asks Ctx.answers sessionApplyParams (· = 0) c
      (if c.sess.params.isSome ∧ c.sess.state = .closed then [.setCustomConfig] else []) fun _ =>
      c.Told c.sess.paramsApplied := by
  unfold sessionApplyParams SessionObj.paramsApplied Asks
  rw [sat_bind, sat_get]
  cases hp : c.sess.params with
  | none =>
    simp only [Option.isSome_none, Bool.false_eq_true, false_and, if_false, ite_self]
    exact asks_pure rfl ⟨by rw [← hp], rfl⟩
  | some p =>
    simp only [Option.isSome_some, true_and]
    by_cases hcl : c.sess.state = .closed
    · simp only [if_pos hcl]
      refine Sat.bind (asks_graphSetConfig p hg) fun r c₁ h₁ => ?_
      rw [sat_bind, sat_modSess, sat_pure]
      exact ⟨h₁.1, fun h0 => ⟨(h₁.2 h0).1, congrArg (fun s : SessionObj => { s with params := none }) (h₁.2 h0).2.1,
        (h₁.2 h0).2.2⟩⟩
    · simp only [if_neg hcl]
      exact asks_pure rfl ⟨by rw [← hp], rfl⟩

theorem asks_sessionApplyAifParams (a : Aif) {c : Ctx} {g : GraphObj} (hg : c.sess.graph = some g) :
    Asks Ctx.answers (sessionApplyAifParams a) (·.1 = 0) c (if a.params.isSome then [.setCustomConfig] else [])
      fun p c' => p.2 = { a with params := none } ∧ c.Told c.sess c' := by
  unfold sessionApplyAifParams
  cases hp : a.params with
  | none => exact asks_pure rfl ⟨by rw [← hp], rfl, rfl⟩
  | some p =>
    refine Sat.bind (asks_graphSetConfig p hg) fun r c₁ h₁ => ?_
    rw [sat_ite, sat_pure, sat_pure]
    refine ⟨fun hr => ⟨h₁.1, fun h0 => absurd h0 hr⟩, fun hr => ?_⟩
    have hr := Decidable.not_not.1 hr
    exact ⟨⟨fun _ => h₁.1.1 hr, fun _ => rfl⟩, fun _ => ⟨(h₁.2 hr).1, rfl, (h₁.2 hr).2⟩⟩

theorem asks_sessionApplyAifDeviceParams (d : DevId) {c : Ctx} {g : GraphObj} (hg : c.sess.graph = some g) :
    Asks Ctx.answers (sessionApplyAifDeviceParams d) (· = 0) c (deviceParamsCalls d c.hw) fun _ c' =>
      c'.sess = c.sess ∧ c'.hw.still = (c.hw.paramsSent d).still := by
  unfold sessionApplyAifDeviceParams deviceParamsCalls Hw.paramsSent Asks
  rw [sat_bind, sat_get]
  cases hp : (c.hw.devs d).params with
  | none =>
    simp only [Option.isSome_none, Bool.false_eq_true, false_and, if_false]
    exact asks_pure rfl ⟨rfl, rfl⟩
  | some p =>
    simp only [Option.isSome_some, true_and, ne_eq]
    by_cases hcl : deviceGetState d c.hw = .closed
    · simp only [hcl, not_true_eq_false, if_false, if_true]
      exact asks_pure rfl ⟨rfl, rfl⟩
    · simp only [hcl, not_false_eq_true, if_true, if_false]
      refine Sat.bind (asks_graphSetConfig p hg) fun r c₁ h₁ => ?_
      rw [sat_bind, sat_onHw, sat_modify, sat_pure]
      refine ⟨h₁.1, fun h0 => ⟨(h₁.2 h0).1, (h₁.2 h0).2.1, ?_⟩⟩
      exact congrArg (fun hw : Hw => hw.setDev d { hw.devs d with params := none }) (h₁.2 h0).2.2

theorem asks_sessionApplyAifTagParams (merged : Metadata) (a : Aif) {c : Ctx} {g : GraphObj}
    (hg : c.sess.graph = some g) :
    Asks Ctx.answers (sessionApplyAifTagParams merged a) (·.1 = 0) c (if a.tagConfig.isSome then [.setConfig] else [])
      fun p c' => p.2 = { a with tagConfig := none } ∧ c.Told c.sess c' := by
  unfold sessionApplyAifTagParams
  cases hp : a.tagConfig with
  | none => exact asks_pure rfl ⟨by rw [← hp], rfl, rfl⟩
  | some cfg =>
    have hset : Asks Ctx.answers (graphSetConfigWithTag merged.gkv cfg) (· = 0) c [.setConfig] fun _ => c.Told c.sess :=
      asks_withGraph hg (asks_askGsl (by simp [Call.kind]) c)
    exact Sat.bind hset fun r c₁ h₁ => (sat_pure _ _ _).2 ⟨h₁.1, fun h0 => ⟨(h₁.2 h0).1, rfl, (h₁.2 h0).2⟩⟩

/-- The back end once its parameters were sent. -/
def Aif.sent (a : Aif) : Aif := { a with params := none, tagConfig := none }

/-- Steps 2.c to 2.f of `session_connect_aif`, with a graph to set the parameters on. -/
theorem asks_sessionApplyCached (merged : Metadata) (a : Aif) {c : Ctx} {g : GraphObj} (hg : c.sess.graph = some g) :
    Asks Ctx.answers (sessionApplyCached merged a) (·.1 = 0) c (cachedCalls a c) fun p c' =>
      p.2 = a.sent ∧ c'.sess = c.sess.paramsApplied ∧ c'.hw.still = (c.hw.paramsSent a.devObj).still := by
  unfold sessionApplyCached cachedCalls
  refine (asks_sessionApplyParams hg).bind (fun r c' hr => ?_) fun r c₁ hr h₁ => ?_
  · rw [if_pos hr, sat_pure]
    exact hr
  rw [if_neg (fun h => h hr)]
  have hg₁ : c₁.sess.graph = some g := by rw [h₁.1]; exact hg
  refine (asks_sessionApplyAifParams a hg₁).bind (fun p c' hp => ?_) fun p c₂ hp h₂ => ?_
  · rw [if_pos hp, sat_pure]
    exact hp
  rw [if_neg (fun h => h hp)]
  obtain ⟨haif, h₂⟩ := h₂
  have hg₂ : c₂.sess.graph = some g := by rw [h₂.1, hg₁]
  have hstill : c₂.hw.still = c.hw.still := h₂.2.trans h₁.2
  have hcalls : deviceParamsCalls a.devObj c₂.hw = deviceParamsCalls a.devObj c.hw :=
    eq_of_still (fun _ => rfl) hstill
  have hsent : (c₂.hw.paramsSent a.devObj).still = (c.hw.paramsSent a.devObj).still := by
    rw [Hw.still_paramsSent, hstill, ← Hw.still_paramsSent]
  have hdevp := asks_sessionApplyAifDeviceParams a.devObj hg₂
  rw [hcalls] at hdevp
  refine hdevp.bind (fun r c' hr => ?_) fun r c₃ hr h₃ => ?_
  · rw [if_pos hr, sat_pure]
    exact hr
  rw [if_neg (fun h => h hr), haif]
  have hg₃ : c₃.sess.graph = some g := by rw [h₃.1, hg₂]
  refine (asks_sessionApplyAifTagParams merged _ hg₃).mono fun q c₄ _ h₄ => ⟨h₄.1, ?_, ?_⟩
  · rw [h₄.2.1, h₃.1, h₂.1, h₁.1]
  · rw [h₄.2.2, h₃.2, hsent]

/-! ## The connect -/

/-- The state once the device of a back end has been opened. -/
def Ctx.withOpen (d : DevId) (c : Ctx) : Ctx := { c with hw := c.hw.opened d }

/-- The calls of step 2.b of `session_connect_aif`; `none` where it fails without one that is refused. -/
def connectGraphCalls (md : Metadata) (a : Aif) (n : Nat) (c : Ctx) : Option (List Kind) :=
  if n = 0 ∧ c.sess.state = .closed then some (graphOpenCalls md (some a.devObj) c)
  else match c.sess.graph with
    | none => none
    | some g =>
      if n = 0 then some (graphChangeCalls md a.devObj c.hw g)
      else if g.state = .closed then none else some (graphAddCalls md a.devObj c.hw g)

/-- The graph object after step 2.b. -/
def connectGraph (md : Metadata) (a : Aif) (n : Nat) (c : Ctx) : Option GraphObj :=
  if n = 0 ∧ c.sess.state = .closed then graphOpened md (some a.devObj) c
  else c.sess.graph.map fun g => if n = 0 then g.changed md a.devObj c.hw else g.added md a.devObj c.hw

/-- The table of tags is only read by a connect that opens the graph. -/
def tagsAnswered (n : Nat) (c : Ctx) : Bool :=
  ! (n = 0 && c.sess.state = .closed && c.sess.streamConfig.sessMode ≠ .noConfig) || c.hw.acceptsTags

/-- The calls of `session_connect_aif` for the device and for the graph; `none` where it fails without one that is
refused. -/
def deviceGraphCalls (a : Aif) (n : Nat) (c : Ctx) : Option (List Kind) :=
  match mergedMetadata a c with
  | none => none
  | some md => (connectGraphCalls md a n (c.withOpen a.devObj)).map (openCalls a.devObj c.hw ++ ·)

/-- The graph object that the cached parameters are for. -/
def connectedGraph (a : Aif) (n : Nat) (c : Ctx) : Option GraphObj :=
  match mergedMetadata a c with
  | none => none
  | some md => connectGraph md a n (c.withOpen a.devObj)

/-- The calls of `session_connect_aif`. -/
def connectCalls (a : Aif) (n : Nat) (c : Ctx) : Option (List Kind) :=
  if (connectedGraph a n c).isSome then
    (deviceGraphCalls a n c).map (· ++ cachedCalls a (c.withOpen a.devObj))
  else none

/-- The device and the graph of the back end are there, by the state and the answers that wait. -/
def reachesGraph (a : Aif) (n : Nat) (c : Ctx) : Bool :=
  tagsAnswered n c && (deviceGraphCalls a n c).any (acceptsAll c.answers)

/-- All the calls of `session_connect_aif` are accepted, by the state and the answers that wait. -/
def connects (a : Aif) (n : Nat) (c : Ctx) : Bool :=
  tagsAnswered n c && (connectCalls a n c).any (acceptsAll c.answers)

/-- `session_connect_aif` leaves through `graph_cleanup`: the device and the graph are there, and a set of cached
parameters is refused. -/
def connectCleansUp (a : Aif) (n : Nat) (c : Ctx) : Bool := reachesGraph a n c && ! connects a n c

/-- The state after a `session_connect_aif` that succeeded, but for the outside world. -/
def Ctx.connected (a : Aif) (n : Nat) (c : Ctx) : Ctx :=
  { c with
    sess := { c.sess with graph := connectedGraph a n c }.paramsApplied
    hw := (c.hw.opened a.devObj).paramsSent a.devObj }

/-- `c'` comes after a `session_connect_aif` that succeeded. -/
structure Ctx.ConnectsTo (a : Aif) (n : Nat) (c c' : Ctx) : Prop where
  answers : ∀ ks, connectCalls a n c = some ks → c'.answers = popAnswers c.answers ks
  sess : c'.sess = (c.connected a n).sess
  still : c'.hw.still = (c.connected a n).hw.still

/-- Step 2.b: the graph is there, and perhaps no object for it. -/
theorem sat_sessionConnectGraph_asks (md : Metadata) (a : Aif) (n : Nat) (c : Ctx) :
    Sat (sessionConnectGraph md a n) c fun p c' =>
      (p.2 = 0 ∨ p.1 = .graphCleanup md ↔
        tagsAnswered n c ∧ (connectGraphCalls md a n c).any (acceptsAll c.answers)) ∧
      (p.2 = 0 ∨ p.1 = .graphCleanup md → (p.2 = 0 ↔ (connectGraph md a n c).isSome) ∧
        (∀ ks, connectGraphCalls md a n c = some ks → c'.answers = popAnswers c.answers ks) ∧
        c.Told { c.sess with graph := connectGraph md a n c } c') := by
  unfold sessionConnectGraph
  rw [sat_bind, sat_get]
  by_cases hopen : n = 0 ∧ c.sess.state = .closed
  · simp only [if_pos hopen.1, if_pos hopen.2, if_pos hopen, connectGraphCalls, connectGraph, Option.any_some]
    refine Sat.bind (sat_graphOpen_asks md (some a.devObj) c) fun r c₁ h₁ => ?_
    have htags : tagsAnswered n c ↔ c.sess.streamConfig.sessMode = .noConfig ∨ c.hw.acceptsTags := by
      simp [tagsAnswered, hopen.1, hopen.2]
    rw [htags, ← h₁.1, sat_ite, sat_pure]
    constructor
    · intro hr
      have hno : ¬ (r = 0 ∨ ConnectLabel.closeDevice = .graphCleanup md) := by simp [hr]
      exact ⟨⟨fun h => absurd h hno, fun h => absurd h hr⟩, fun h => absurd h hno⟩
    · intro hr
      have hr := Decidable.not_not.1 hr
      obtain ⟨hans, hsess, hstill⟩ := h₁.2 hr
      have hreg : Sat graphRegisterCb c₁ fun r' c₂ => c₁ = c₂ ∧ (r' = 0 ↔ (graphOpened md (some a.devObj) c).isSome) := by
        have hg : c₁.sess.graph = graphOpened md (some a.devObj) c := by rw [hsess]
        unfold graphRegisterCb withGraph
        rw [sat_bind, sat_get, hg]
        cases graphOpened md (some a.devObj) c with
        | none => exact (sat_pure _ _ _).2 ⟨rfl, ⟨fun h => absurd h (by decide), fun h => absurd h (by simp)⟩⟩
        | some g => exact (sat_pure _ _ _).2 ⟨rfl, ⟨fun _ => rfl, fun _ => rfl⟩⟩
      refine Sat.bind hreg fun r' c₂ h₂ => ?_
      obtain ⟨rfl, hr'⟩ := h₂
      rw [sat_pure]
      refine ⟨⟨fun _ => hr, fun _ => .inr rfl⟩, fun _ => ⟨hr', fun ks hks => ?_, hsess, hstill⟩⟩
      rw [← Option.some.inj hks]
      exact hans
  · have htags : tagsAnswered n c := by
      simp only [tagsAnswered, Bool.or_eq_true, Bool.not_eq_true', Bool.and_eq_false_iff, decide_eq_false_iff_not]
      exact .inl (.inl (not_and_or.1 hopen))
    have hlabel (r : Int) : (r = 0 ∨ ConnectLabel.closeDevice = .graphCleanup md) ↔ r = 0 :=
      by simp
    -- either function is handed back with the label `close_device`
    have hback {m : M Int} {calls : Option (List Kind)} {graph : Option GraphObj}
        (h : Sat m c fun r c' => (r = 0 ↔ calls.any (acceptsAll c.answers)) ∧ (r = 0 → graph.isSome ∧
          (∀ ks, calls = some ks → c'.answers = popAnswers c.answers ks) ∧
          c.Told { c.sess with graph := graph } c')) :
        Sat (m >>= fun ret => pure (ConnectLabel.closeDevice, ret)) c fun p c' =>
          (p.2 = 0 ∨ p.1 = .graphCleanup md ↔ tagsAnswered n c ∧ calls.any (acceptsAll c.answers)) ∧
          (p.2 = 0 ∨ p.1 = .graphCleanup md → (p.2 = 0 ↔ graph.isSome) ∧
            (∀ ks, calls = some ks → c'.answers = popAnswers c.answers ks) ∧
            c.Told { c.sess with graph := graph } c') := by
      refine Sat.bind h fun r c₁ h₁ => (sat_pure _ _ _).2 ?_
      dsimp only
      rw [hlabel, ← h₁.1]
      exact ⟨⟨fun h0 => ⟨htags, h0⟩, fun h' => h'.2⟩,
        fun h0 => ⟨⟨fun _ => (h₁.2 h0).1, fun _ => h0⟩, (h₁.2 h0).2⟩⟩
    have hasks {m : M Int} {ks : List Kind} {g : GraphObj}
        (h : Asks Ctx.answers m (· = 0) c ks fun _ => c.Told { c.sess with graph := some g }) :
        Sat m c fun r c' => (r = 0 ↔ (some ks).any (acceptsAll c.answers)) ∧ (r = 0 → (some g).isSome ∧
          (∀ ks', some ks = some ks' → c'.answers = popAnswers c.answers ks') ∧
          c.Told { c.sess with graph := some g } c') :=
      Sat.mono h fun r c' h' => ⟨h'.1, fun h0 => ⟨rfl, fun ks' hks => Option.some.inj hks ▸ (h'.2 h0).1, (h'.2 h0).2⟩⟩
    have hfail {m : M Int} {graph : Option GraphObj} (h : Sat m c fun r _ => r ≠ 0) :
        Sat m c fun r c' => (r = 0 ↔ (none : Option (List Kind)).any (acceptsAll c.answers)) ∧
          (r = 0 → graph.isSome ∧ (∀ ks, none = some ks → c'.answers = popAnswers c.answers ks) ∧
            c.Told { c.sess with graph := graph } c') :=
      h.mono fun r c' hr => ⟨⟨fun h0 => absurd h0 hr, fun h => absurd h (by simp)⟩, fun h0 => absurd h0 hr⟩
    unfold connectGraphCalls connectGraph
    rw [if_neg hopen, if_neg hopen]
    by_cases hn : n = 0
    · rw [if_pos hn, if_neg (fun hcl => hopen ⟨hn, hcl⟩)]
      refine hback ?_
      cases hg : c.sess.graph with
      | none => exact hfail (sat_withGraph c (fun _ => by decide) fun g hg' => by rw [hg] at hg'; cases hg')
      | some g =>
        simp only [if_pos hn, Option.map_some]
        exact hasks (asks_graphChange md a.devObj hg)
    · rw [if_neg hn]
      refine hback ?_
      cases hg : c.sess.graph with
      | none => exact hfail (sat_withGraph c (fun _ => by decide) fun g hg' => by rw [hg] at hg'; cases hg')
      | some g =>
        simp only [if_neg hn, Option.map_some]
        by_cases hcl : g.state = .closed
        · rw [if_pos hcl]
          refine hfail (sat_withGraph c (fun _ => by decide) fun g' hg' => ?_)
          obtain rfl : g = g' := Option.some.inj (hg.symm.trans hg')
          rw [if_pos hcl, sat_pure]
          decide
        · rw [if_neg hcl]
          exact hasks (asks_graphAdd md _ a.devObj hg hcl)

theorem label_sessionConnectGraph (md : Metadata) (a : Aif) (n : Nat) (c : Ctx) :
    Sat (sessionConnectGraph md a n) c fun p _ => p.1 = .closeDevice ∨ p.1 = .graphCleanup md := by
  have hany {α : Type} {m : M α} {c : Ctx} : Sat m c fun _ _ => True := fun _ _ _ => trivial
  unfold sessionConnectGraph
  rw [sat_bind, sat_get, sat_ite, sat_ite]
  refine ⟨fun _ => ⟨fun _ => ?_, fun _ => ?_⟩, fun _ => ?_⟩
  · refine Sat.bind hany fun r c₁ _ => ?_
    rw [sat_ite, sat_pure]
    exact ⟨fun _ => .inl rfl, fun _ => Sat.bind hany fun r c₂ _ => (sat_pure _ _ _).2 (.inr rfl)⟩
  · exact Sat.bind hany fun r c₁ _ => (sat_pure _ _ _).2 (.inl rfl)
  · exact Sat.bind hany fun r c₁ _ => (sat_pure _ _ _).2 (.inl rfl)

/-! Which calls are made can be read off the session and what is inside the service. -/

/-- A session without its list of back ends. -/
def SessionObj.unlisted (s : SessionObj) : SessionObj := { s with aifPool := [] }

/-- The two differ in the outside world and in the list of back ends alone. -/
structure Ctx.Alike (c c' : Ctx) : Prop where
  sess : c'.sess.unlisted = c.sess.unlisted
  still : c'.hw.still = c.hw.still

section

variable {c c' : Ctx} (h : c.Alike c')

include h

theorem Ctx.Alike.withOpen (d : DevId) : (c.withOpen d).Alike (c'.withOpen d) :=
  ⟨h.sess, congrArg (Hw.opened d) h.still⟩

theorem Ctx.Alike.mergedMetadata (a : Aif) : Service.mergedMetadata a c' = Service.mergedMetadata a c := by
  have hread (c₀ : Ctx) : Service.mergedMetadata a c₀ =
      Service.mergedMetadata a ⟨c₀.sess.unlisted, c.pool, c₀.hw.still⟩ := rfl
  rw [hread c', hread c, h.sess, h.still]

theorem Ctx.Alike.connectGraphCalls (md : Metadata) (a : Aif) (n : Nat) :
    Service.connectGraphCalls md a n c' = Service.connectGraphCalls md a n c := by
  have hread (c₀ : Ctx) : Service.connectGraphCalls md a n c₀ =
      Service.connectGraphCalls md a n ⟨c₀.sess.unlisted, c.pool, c₀.hw.still⟩ := rfl
  rw [hread c', hread c, h.sess, h.still]

theorem Ctx.Alike.connectGraph (md : Metadata) (a : Aif) {n : Nat} (hn : n = 0 → c'.hw.nextHandle = c.hw.nextHandle) :
    Service.connectGraph md a n c' = Service.connectGraph md a n c := by
  by_cases h0 : n = 0
  · have hread (c₀ : Ctx) : Service.connectGraph md a n c₀ = Service.connectGraph md a n
        ⟨c₀.sess.unlisted, c.pool, { c₀.hw.still with nextHandle := c₀.hw.nextHandle }⟩ := rfl
    rw [hread c', hread c, h.sess, h.still, hn h0]
  · have hread (c₀ : Ctx) : Service.connectGraph md a n c₀ =
        c₀.sess.unlisted.graph.map fun g => g.added md a.devObj c₀.hw.still := by
      rw [Service.connectGraph, if_neg (fun h => h0 h.1)]
      simp only [if_neg h0]
      rfl
    rw [hread c', hread c, h.sess, h.still]

theorem Ctx.Alike.cachedCalls (a : Aif) : Service.cachedCalls a c' = Service.cachedCalls a c := by
  have hread (c₀ : Ctx) : Service.cachedCalls a c₀ =
      Service.cachedCalls a ⟨c₀.sess.unlisted, c.pool, c₀.hw.still⟩ := rfl
  rw [hread c', hread c, h.sess, h.still]

/-- With a device that is open already, the calls are the same. -/
theorem Ctx.Alike.connectCalls (a : Aif) {n : Nat} (hn : n ≠ 0) :
    Service.connectCalls a n c' = Service.connectCalls a n c := by
  have ho := h.withOpen a.devObj
  have hopen : openCalls a.devObj c'.hw = openCalls a.devObj c.hw := eq_of_still (fun _ => rfl) h.still
  have hgraph : connectedGraph a n c' = connectedGraph a n c := by
    unfold connectedGraph
    rw [h.mergedMetadata]
    cases Service.mergedMetadata a c with
    | none => rfl
    | some md => exact ho.connectGraph md a fun h0 => absurd h0 hn
  have hcalls : deviceGraphCalls a n c' = deviceGraphCalls a n c := by
    unfold deviceGraphCalls
    rw [h.mergedMetadata]
    cases Service.mergedMetadata a c with
    | none => rfl
    | some md => simp only [ho.connectGraphCalls, hopen]
  rw [Service.connectCalls, Service.connectCalls, hgraph, hcalls, ho.cachedCalls]

/-- A connect leaves the two alike. -/
theorem Ctx.Alike.connected (a : Aif) {n : Nat} (hn : n ≠ 0) : (c.connected a n).Alike (c'.connected a n) := by
  have hgraph : connectedGraph a n c' = connectedGraph a n c := by
    unfold connectedGraph
    rw [h.mergedMetadata]
    cases Service.mergedMetadata a c with
    | none => rfl
    | some md => exact (h.withOpen a.devObj).connectGraph md a fun h0 => absurd h0 hn
  refine ⟨?_, ?_⟩
  · have := congrArg (fun s : SessionObj => { s with graph := connectedGraph a n c }.paramsApplied) h.sess
    unfold Ctx.connected
    rw [hgraph]
    exact this
  · unfold Ctx.connected
    rw [Hw.still_paramsSent, Hw.still_paramsSent]
    exact congrArg (fun hw : Hw => (hw.opened a.devObj).paramsSent a.devObj) h.still

end

theorem reachesGraph_of_connects {a : Aif} {n : Nat} {c : Ctx} (h : connects a n c) : reachesGraph a n c := by
  unfold connects connectCalls at h
  unfold reachesGraph
  rw [Bool.and_eq_true] at h ⊢
  refine ⟨h.1, ?_⟩
  have hany := h.2
  split at hany
  · cases hk : deviceGraphCalls a n c with
    | none => rw [hk] at hany; exact hany
    | some ks =>
      rw [hk] at hany
      simp only [Option.map_some, Option.any_some, acceptsAll_append, Bool.and_eq_true] at hany
      exact hany.1
  · cases hany

/-- **The calls of `session_connect_aif`.**  It succeeds exactly if the calls that the state asks for are accepted, and
it leaves through `graph_cleanup` exactly if those for the device and the graph are, and a later one is not. -/
theorem sat_sessionConnectBody_asks (a : Aif) (n : Nat) (c : Ctx) :
    Sat (sessionConnectBody a n) c fun e c' => (e.ret = 0 ↔ connects a n c) ∧
      ((∃ md, e.label = .graphCleanup md) ↔ connectCleansUp a n c) ∧
      (e.ret = 0 → e.label = .done ∧ e.aif = a.sent ∧ c.ConnectsTo a n c') := by
  -- where the graph is not reached
  have hearly {e : ConnectExit} {c' : Ctx} (hl : ∀ md, e.label ≠ .graphCleanup md) (hr : e.ret ≠ 0)
      (h : ¬ reachesGraph a n c) : (e.ret = 0 ↔ connects a n c) ∧
      ((∃ md, e.label = .graphCleanup md) ↔ connectCleansUp a n c) ∧
      (e.ret = 0 → e.label = .done ∧ e.aif = a.sent ∧ c.ConnectsTo a n c') := by
    refine ⟨iff_of_false hr fun hc => h (reachesGraph_of_connects hc),
      iff_of_false (fun hmd => hl _ hmd.choose_spec) fun hup => ?_, fun h0 => absurd h0 hr⟩
    rw [connectCleansUp, Bool.and_eq_true] at hup
    exact absurd hup.1 h
  unfold sessionConnectBody
  rw [sat_bind, sat_get]
  cases hm : mergedMetadata a c with
  | none =>
    refine (sat_pure _ _ _).2 (hearly (by simp) (show -ENOMEM ≠ 0 by decide) ?_)
    simp [reachesGraph, deviceGraphCalls, hm]
  | some md =>
    refine Sat.bind (asks_deviceOpen a.devObj c) fun r c₁ h₁ => ?_
    obtain ⟨hr, h₁⟩ := h₁
    -- the calls up to the graph, once the device is open
    have hreach : reachesGraph a n c ↔ tagsAnswered n c ∧ acceptsAll c.answers (openCalls a.devObj c.hw) ∧
        (connectGraphCalls md a n (c.withOpen a.devObj)).any
          (acceptsAll (popAnswers c.answers (openCalls a.devObj c.hw))) := by
      have hd : deviceGraphCalls a n c =
          (connectGraphCalls md a n (c.withOpen a.devObj)).map (openCalls a.devObj c.hw ++ ·) := by
        rw [deviceGraphCalls, hm]
      rw [reachesGraph, hd, Bool.and_eq_true]
      cases connectGraphCalls md a n (c.withOpen a.devObj) with
      | none => simp
      | some ks => simp [acceptsAll_append]
    rw [sat_ite, sat_pure]
    constructor
    · intro hne
      refine hearly (by simp) hne fun h => ?_
      exact hne (hr.2 (hreach.1 h).2.1)
    intro h0
    have h0 := Decidable.not_not.1 h0
    obtain ⟨hans₁, hsess₁, hstill₁, hnext₁, htags₁⟩ := h₁ h0
    have halike : (c.withOpen a.devObj).Alike c₁ := ⟨congrArg SessionObj.unlisted hsess₁, hstill₁⟩
    have hcalls := halike.connectGraphCalls md a n
    have hgraph := halike.connectGraph md a (n := n) fun _ => hnext₁
    have htags : tagsAnswered n c₁ = tagsAnswered n c := by rw [tagsAnswered, hsess₁, htags₁, tagsAnswered]
    have hconnected : connectedGraph a n c = connectGraph md a n (c.withOpen a.devObj) := by rw [connectedGraph, hm]
    refine Sat.bind ((sat_sessionConnectGraph_asks md a n c₁).and (label_sessionConnectGraph md a n c₁)) fun p c₂ h₂ => ?_
    obtain ⟨⟨hgot, h₂⟩, hlabel⟩ := h₂
    rw [hcalls, htags, hans₁] at hgot
    have hgot : p.2 = 0 ∨ p.1 = .graphCleanup md ↔ reachesGraph a n c :=
      hgot.trans ⟨fun h => hreach.2 ⟨h.1, hr.1 h0, h.2⟩, fun h => ⟨(hreach.1 h).1, (hreach.1 h).2.2⟩⟩
    rw [sat_ite, sat_pure]
    constructor
    · intro hp
      rcases hlabel with hl | hl
      · refine hearly (by simp [hl]) hp fun h => ?_
        rcases hgot.2 h with h | h
        · exact hp h
        · rw [hl] at h
          cases h
      · -- the graph was opened, and there is no object for it
        have hno : ¬ connects a n c := by
          intro hc
          refine hp ((h₂ (.inr hl)).1.2 ?_)
          rw [hgraph, ← hconnected]
          unfold connects connectCalls at hc
          rw [Bool.and_eq_true] at hc
          by_contra hnone
          rw [if_neg hnone] at hc
          exact absurd hc.2 (by simp)
        refine ⟨⟨fun h => absurd h hp, fun h => absurd h hno⟩, ⟨fun _ => ?_, fun _ => ⟨md, hl⟩⟩, fun h => absurd h hp⟩
        simp [connectCleansUp, hgot.1 (.inr hl), hno]
    intro hp
    have hp := Decidable.not_not.1 hp
    obtain ⟨hsome, hans₂, hsess₂, hstill₂⟩ := h₂ (.inl hp)
    rw [hgraph] at hsome hsess₂
    obtain ⟨g, hg⟩ := Option.isSome_iff_exists.1 (hsome.1 hp)
    have hg₂ : c₂.sess.graph = some g := by rw [hsess₂, hg]
    have hcached : cachedCalls a c₂ = cachedCalls a (c.withOpen a.devObj) := by
      have hread (c₀ : Ctx) : cachedCalls a c₀ = cachedCalls a ⟨{ c₀.sess with graph := none }, c.pool, c₀.hw.still⟩ := rfl
      rw [hread c₂, hread (c.withOpen a.devObj), hsess₂, hsess₁, hstill₂, hstill₁]
      rfl
    have hreached := hreach.1 (hgot.1 (.inl hp))
    obtain ⟨ks, hks⟩ := Option.isSome_iff_exists.1 (Option.isSome_of_any hreached.2.2)
    have hall : connectCalls a n c =
        some ((openCalls a.devObj c.hw ++ ks) ++ cachedCalls a (c.withOpen a.devObj)) := by
      rw [connectCalls, hconnected, hg, if_pos (Option.isSome_some), deviceGraphCalls, hm]
      simp only [hks, Option.map_some]
    have hans₂ : c₂.answers = popAnswers c.answers (openCalls a.devObj c.hw ++ ks) := by
      rw [hans₂ ks (hcalls.trans hks), hans₁, popAnswers_append]
    have hcon : connects a n c ↔ acceptsAll c₂.answers (cachedCalls a c₂) := by
      rw [connects, hall, Option.any_some, acceptsAll_append, hans₂, hcached, Bool.and_eq_true, Bool.and_eq_true]
      refine ⟨fun h => h.2.2, fun h => ⟨hreached.1, ?_, h⟩⟩
      have h := hreached.2.2
      rw [hks, Option.any_some] at h
      rw [acceptsAll_append, Bool.and_eq_true]
      exact ⟨hreached.2.1, h⟩
    refine Sat.bind (asks_sessionApplyCached md a hg₂) fun q c₃ h₃ => ?_
    rw [sat_ite, sat_pure, sat_pure]
    refine ⟨fun hq => ?_, fun hq => ?_⟩
    · have hno : ¬ connects a n c := fun h => hq (h₃.1.2 (hcon.1 h))
      refine ⟨⟨fun h => absurd h hq, fun h => absurd h hno⟩, ⟨fun _ => ?_, fun _ => ⟨md, rfl⟩⟩, fun h => absurd h hq⟩
      simp [connectCleansUp, hgot.1 (.inl hp), hno]
    · have hq := Decidable.not_not.1 hq
      have hc := hcon.2 (h₃.1.1 hq)
      obtain ⟨hans₃, haif, hsess₃, hstill₃⟩ := h₃.2 hq
      have hlabel : (∃ md, (⟨.done, 0, q.2⟩ : ConnectExit).label = .graphCleanup md) ↔ connectCleansUp a n c := by
        simp [connectCleansUp, hc]
      refine ⟨⟨fun _ => hc, fun _ => rfl⟩, hlabel, fun _ => ⟨rfl, haif, fun ks' hks' => ?_, ?_, ?_⟩⟩
      · obtain rfl := Option.some.inj (hall.symm.trans hks')
        rw [hans₃, hans₂, hcached]
        exact (popAnswers_append _ _ _).symm
      · rw [hsess₃, hsess₂, hsess₁, Ctx.connected, hconnected]
      · rw [hstill₃, Hw.still_paramsSent, hstill₂, hstill₁, ← Hw.still_paramsSent]
        rfl

/-- What the label says of a connect. -/
theorem connectCleansUp_of {a : Aif} {n : Nat} {c c' : Ctx} {e : ConnectExit}
    (h : sessionConnectBody a n c = some (e, c')) :
    connectCleansUp a n c = match e.label with | .graphCleanup _ => true | _ => false := by
  have hup := (sat_sessionConnectBody_asks a n c e c' h).2.1
  cases hl : e.label with
  | graphCleanup md => exact hup.1 ⟨md, hl⟩
  | done => exact Bool.eq_false_iff.2 fun h => by obtain ⟨md, hmd⟩ := hup.2 h; rw [hl] at hmd; cases hmd
  | closeDevice => exact Bool.eq_false_iff.2 fun h => by obtain ⟨md, hmd⟩ := hup.2 h; rw [hl] at hmd; cases hmd

end Agm.Service
