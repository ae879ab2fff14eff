import Mathlib.Data.Finset.Basic
import Agm.Service.OpenCount
import Agm.Service.TraceFrame

/-!
# The graphs GSL holds, after a connect that failed

What GSL holds for a handle is read off the calls it has accepted.  `session_connect_aif` makes one call that gives GSL
a graph (`gsl_open`, `GSL_CMD_CHANGE_GRAPH` or `GSL_CMD_ADD_GRAPH`, by the state of the session and the number of
devices that are open already) and at most one that takes it back, and which of the two come to pass is known from the
answers that are waiting.
-/

namespace Agm.Service

open Agm.Lib

/-! ## What is held -/

/-- What GSL holds for the handle `h` once a call was answered; a call that is refused changes nothing. -/
def Event.holds (h : Handle) (e : Event) (S : Finset Gkv) : Finset Gkv :=
  if e.ret ≠ 0 then S
  else match e.call with
    | .gslOpen h' gkv => if h' = h then {gkv} else S
    | .changeGraph h' gkv => if h' = h then {gkv} else S
    | .addGraph h' _ gkv => if h' = h then insert gkv S else S
    | .removeGraph h' _ gkv => if h' = h then S.erase gkv else S
    | .gslClose h' => if h' = h then ∅ else S
    | _ => S

namespace Hw

/-- The graphs GSL holds for each handle. -/
def held (hw : Hw) (h : Handle) : Finset Gkv := hw.trace.foldr (Event.holds h) ∅

/-- GSL holds what it held, and the answers to the calls that take a graph back are still to come. -/
structure Keeps (hw hw' : Hw) : Prop where
  held : hw'.held = hw.held
  remove : hw'.env .removeGraph = hw.env .removeGraph
  close : hw'.env .gslClose = hw.env .gslClose

/-- The same, but for what GSL holds for `h`. -/
structure Takes (h : Handle) (S : Finset Gkv) (hw hw' : Hw) : Prop where
  held : hw'.held = Function.update hw.held h S
  remove : hw'.env .removeGraph = hw.env .removeGraph
  close : hw'.env .gslClose = hw.env .gslClose

instance : IsPreorder Hw Keeps where
  refl _ := ⟨rfl, rfl, rfl⟩
  trans _ _ _ h h' := ⟨h'.held.trans h.held, h'.remove.trans h.remove, h'.close.trans h.close⟩

theorem Keeps.takes {h : Handle} {S : Finset Gkv} {hw hw₁ hw₂ : Hw} (k : hw.Keeps hw₁) (t : hw₁.Takes h S hw₂) :
    hw.Takes h S hw₂ :=
  ⟨by rw [t.held, k.held], t.remove.trans k.remove, t.close.trans k.close⟩

theorem Takes.keeps {h : Handle} {S : Finset Gkv} {hw hw₁ hw₂ : Hw} (t : hw.Takes h S hw₁) (k : hw₁.Keeps hw₂) :
    hw.Takes h S hw₂ :=
  ⟨by rw [k.held, t.held], k.remove.trans t.remove, k.close.trans t.close⟩

theorem env_called_of_ne {hw : Hw} {call : Call} {k : Kind} (h : k ≠ call.kind) : (hw.called call).env k = hw.env k := by
  simp [Hw.called, h]

theorem held_called (hw : Hw) (call : Call) :
    (hw.called call).held = fun h => Event.holds h ⟨call, hw.answer call⟩ (hw.held h) := rfl

/-- A call that is refused gives nothing and takes nothing. -/
theorem held_called_of_refused {hw : Hw} {call : Call} (h : hw.answer call ≠ 0) : (hw.called call).held = hw.held := by
  rw [held_called]
  funext h'
  simp [Event.holds, h]

/-- Calls that are plain, and calls to ALSA, leave the graphs alone. -/
theorem keeps_called {hw : Hw} {call : Call} (h : call.isPlain ∨ call.isPcm) : hw.Keeps (hw.called call) := by
  have hheld (ret : Int) (h' : Handle) (S : Finset Gkv) : Event.holds h' ⟨call, ret⟩ S = S := by
    unfold Event.holds
    cases call <;> simp_all [Call.isPlain, Call.isPcm]
  refine ⟨?_, env_called_of_ne ?_, env_called_of_ne ?_⟩
  · rw [held_called]
    funext h'
    exact hheld _ _ _
  · cases call <;> simp_all [Call.isPlain, Call.isPcm, Call.kind]
  · cases call <;> simp_all [Call.isPlain, Call.isPcm, Call.kind]

theorem held_of_trace {hw hw' : Hw} (h : hw'.trace = hw.trace) : hw'.held = hw.held := by
  unfold held
  rw [h]

end Hw

theorem traceFrame_keeps : TraceFrame Hw.Keeps where
  ask _ _ hk := Hw.keeps_called (.inl hk)
  pcm _ _ hk := Hw.keeps_called (.inr hk)
  set _ _ henv htrace := ⟨Hw.held_of_trace htrace, by rw [henv], by rw [henv]⟩

/-! ## The graph call -/

namespace Hw

variable {hw : Hw} {h : Handle} {gkv : Gkv}

/-- A call on the graphs that is refused. -/
theorem keeps_called_of_refused {call : Call} (hr : call.kind ≠ .removeGraph) (hc : call.kind ≠ .gslClose)
    (h : ¬ hw.accepts call.kind) : hw.Keeps (hw.called call) :=
  ⟨held_called_of_refused (mt (answer_eq_zero_iff _ _).1 h), env_called_of_ne hr.symm, env_called_of_ne hc.symm⟩

/-- A call that is accepted, and what it does to the graphs of its handle. -/
theorem held_called_of_accepted {call : Call} {f : Finset Gkv → Finset Gkv}
    (hf : ∀ h' S, Event.holds h' ⟨call, 0⟩ S = if h = h' then f S else S) (hacc : hw.accepts call.kind) :
    (hw.called call).held = Function.update hw.held h (f (hw.held h)) := by
  rw [held_called, (answer_eq_zero_iff _ _).2 hacc]
  funext h'
  rw [hf]
  by_cases hh : h = h'
  · subst hh
    rw [if_pos rfl, Function.update_self]
  · rw [if_neg hh, Function.update_of_ne (Ne.symm hh)]

theorem takes_addGraph (o : Owner) (hacc : hw.accepts .addGraph) :
    hw.Takes h (insert gkv (hw.held h)) (hw.called (.addGraph h o gkv)) :=
  ⟨held_called_of_accepted (f := insert gkv) (fun _ _ => by simp [Event.holds]) hacc, env_called_of_ne (by simp [Call.kind]),
    env_called_of_ne (by simp [Call.kind])⟩

theorem takes_changeGraph (hacc : hw.accepts .changeGraph) : hw.Takes h {gkv} (hw.called (.changeGraph h gkv)) :=
  ⟨held_called_of_accepted (f := fun _ => {gkv}) (fun _ _ => by simp [Event.holds]) hacc,
    env_called_of_ne (by simp [Call.kind]), env_called_of_ne (by simp [Call.kind])⟩

theorem takes_gslOpen (hacc : hw.accepts .gslOpen) : hw.Takes h {gkv} (hw.called (.gslOpen h gkv)) :=
  ⟨held_called_of_accepted (f := fun _ => {gkv}) (fun _ _ => by simp [Event.holds]) hacc,
    env_called_of_ne (by simp [Call.kind]), env_called_of_ne (by simp [Call.kind])⟩

/-- What is left for the handle once GSL was asked to close it. -/
theorem held_gslClose : (hw.called (.gslClose h)).held =
    Function.update hw.held h (if hw.accepts .gslClose then ∅ else hw.held h) := by
  by_cases hacc : hw.accepts .gslClose
  · rw [if_pos hacc]
    exact held_called_of_accepted (f := fun _ => ∅) (fun _ _ => by simp [Event.holds]) hacc
  · rw [if_neg hacc, Function.update_eq_self]
    exact held_called_of_refused (mt (answer_eq_zero_iff _ _).1 hacc)

/-- What is left for the handle once GSL was asked to remove one graph. -/
theorem held_removeGraph (o : Owner) : (hw.called (.removeGraph h o gkv)).held =
    Function.update hw.held h (if hw.accepts .removeGraph then (hw.held h).erase gkv else hw.held h) := by
  by_cases hacc : hw.accepts .removeGraph
  · rw [if_pos hacc]
    exact held_called_of_accepted (f := fun S => S.erase gkv) (fun _ _ => by simp [Event.holds]) hacc
  · rw [if_neg hacc, Function.update_eq_self]
    exact held_called_of_refused (mt (answer_eq_zero_iff _ _).1 hacc)

end Hw

/-- The handle for which step 2.b of `session_connect_aif` gives GSL a graph, if it comes to that. -/
def graphTaken (md : Metadata) (a : Aif) (n : Nat) (c : Ctx) : Option Handle :=
  if n ≠ 0 then
    match c.sess.graph with
    | none => none
    | some g => if g.state ≠ .closed ∧ c.hw.accepts .addGraph then some g.handle else none
  else if c.sess.state ≠ .closed then
    match c.sess.graph with
    | none => none
    | some g => if c.hw.accepts .taggedModuleInfo ∧ c.hw.accepts .changeGraph then some g.handle else none
  else if (c.sess.streamConfig.sessMode = .noConfig ∨
      (c.hw.acceptsTags ∧ (collectModules md.gkv (some a.devObj) (c.hw.acdb.tagTable md.gkv)).isSome)) ∧
      c.hw.accepts .gslOpen then some c.hw.nextHandle
  else none

section

variable {c : Ctx}

/-- `graph_add`: the graph is given with the first call, and the rest leaves it there. -/
theorem held_graphAdd {md : Metadata} {o : Owner} {dev : Option DevId} {c : Ctx} {n : Nat} (hn : n ≠ 0) (a : Aif) :
    Sat (graphAdd md o dev) c fun r c' =>
      match graphTaken md a n c with
      | none => r ≠ 0 ∧ c.hw.Keeps c'.hw
      | some h => c.hw.Takes h (insert md.gkv (c.hw.held h)) c'.hw := by
  unfold graphAdd graphTaken
  refine sat_withGraph c (fun hg => ?_) fun g hg => ?_
  · rw [if_pos hn, hg]
    exact ⟨by decide, refl_of Hw.Keeps _⟩
  · simp only [if_pos hn, hg]
    rw [sat_ite, sat_pure]
    constructor
    · intro hcl
      rw [if_neg (fun h => h.1 hcl)]
      exact ⟨by decide, refl_of Hw.Keeps _⟩
    · intro hcl
      rw [sat_bind, sat_onHw, sat_askGsl, sat_ite, sat_pure, lnx_answer_ne_zero_iff]
      constructor
      · intro hr
        rw [if_neg (fun h => hr h.2)]
        exact ⟨hr, Hw.keeps_called_of_refused (by simp [Call.kind]) (by simp [Call.kind]) hr⟩
      · intro hr
        have hacc : c.hw.accepts .addGraph := Decidable.not_not.1 hr
        simp only [if_pos (show g.state ≠ .closed ∧ c.hw.accepts .addGraph from ⟨hcl, hacc⟩)]
        exact (traceFrame_keeps.callFrame.graphAddModules g md dev _).mono fun _ _ k => (Hw.takes_addGraph o hacc).keeps k

/-- `graph_change`: the new graph is the only one left. -/
theorem held_graphChange (md : Metadata) {a : Aif} (hs : c.sess.state ≠ .closed) :
    Sat (graphChange md (some a.devObj)) c fun r c' =>
      match graphTaken md a 0 c with
      | none => r ≠ 0 ∧ c.hw.Keeps c'.hw
      | some h => c.hw.Takes h {md.gkv} c'.hw := by
  have htaken : graphTaken md a 0 c = match c.sess.graph with
      | none => none
      | some g => if c.hw.accepts .taggedModuleInfo ∧ c.hw.accepts .changeGraph then some g.handle else none := by
    rw [graphTaken, if_neg (fun h => h rfl), if_pos hs]
  unfold graphChange
  rw [htaken]
  refine sat_withGraph c (fun hg => ?_) fun g hg => ?_
  · rw [hg]
    exact ⟨by decide, refl_of Hw.Keeps _⟩
  · simp only [hg]
    have hmods : Sat (graphChangeModules md (some a.devObj)) c fun r c' => c.hw.Keeps c'.hw ∧
        (r ≠ 0 ↔ ¬ c.hw.accepts .taggedModuleInfo) ∧ c'.hw.env .changeGraph = c.hw.env .changeGraph := by
      unfold graphChangeModules
      simp only [sat_bind, sat_get, sat_onHw, sat_askGsl, sat_ite, sat_pure, sat_modGraph, lnx_answer_ne_zero_iff]
      refine ⟨fun hr => ⟨Hw.keeps_called (.inl rfl), ?_, Hw.env_called_of_ne (by simp [Call.kind])⟩, fun hr =>
        ⟨Hw.keeps_called (.inl rfl), ?_, Hw.env_called_of_ne (by simp [Call.kind])⟩⟩
      · exact Iff.rfl
      · exact ⟨fun h => absurd rfl h, fun h => absurd h hr⟩
    refine Sat.bind hmods fun r c₁ h₁ => ?_
    obtain ⟨k₁, hr, henv⟩ := h₁
    rw [sat_ite, sat_pure, hr]
    constructor
    · intro ht
      rw [if_neg (fun h => ht h.1)]
      exact ⟨ht, k₁⟩
    · intro ht
      have hch : c₁.hw.accepts .changeGraph = c.hw.accepts .changeGraph := by rw [Hw.accepts, henv, Hw.accepts]
      rw [sat_bind, sat_onHw, sat_askGsl, sat_ite, sat_pure, lnx_answer_ne_zero_iff]
      constructor
      · intro hr
        rw [if_neg (fun h => hr (hch.trans h.2))]
        exact ⟨hr, trans_of Hw.Keeps k₁ (Hw.keeps_called_of_refused (by simp [Call.kind]) (by simp [Call.kind]) hr)⟩
      · intro hr
        have hacc : c₁.hw.accepts .changeGraph := Decidable.not_not.1 hr
        have hboth : c.hw.accepts .taggedModuleInfo ∧ c.hw.accepts .changeGraph :=
          ⟨Decidable.not_not.1 ht, hch.symm.trans hacc⟩
        simp only [if_pos hboth]
        have htook : c.hw.Takes g.handle {md.gkv} (c₁.hw.called (.changeGraph g.handle md.gkv)) :=
          k₁.takes (Hw.takes_changeGraph hacc)
        have hrest : Within (Ctx.OnHw Hw.Keeps) (do
            let c ← get
            let p ← forEach (changeModule g.handle) ((c.sess.graph.map (·.taggedModList)).getD [])
            modGraph fun g => { g with taggedModList := p.2 }
            pure p.1 : M Int) :=
          within_bind within_get fun _ =>
            within_bind (within_forEach (fun m => traceFrame_keeps.callFrame.changeModule _ m) _) fun _ =>
              within_bind (traceFrame_keeps.callFrame.within_modGraph fun _ => rfl) fun _ => within_pure _
        exact (hrest _).mono fun _ _ k => htook.keeps k

/-- `graph_open` from `no_config` on: a graph that was opened is closed again where the callback is refused. -/
theorem held_graphOpenGsl (md : Metadata) (mods : List ModuleInfo) (c : Ctx) :
    Sat (graphOpenGsl md mods) c fun r c' =>
      if c.hw.accepts .gslOpen then
        if r = 0 then c.hw.Takes c.hw.nextHandle {md.gkv} c'.hw ∧
          c'.sess.graph.map (·.handle) = some c.hw.nextHandle
        else c'.hw.held =
          Function.update c.hw.held c.hw.nextHandle (if c.hw.accepts .gslClose then ∅ else {md.gkv})
      else r ≠ 0 ∧ c.hw.Keeps c'.hw ∧ c'.sess = c.sess := by
  unfold graphOpenGsl
  simp only [sat_bind, sat_get, sat_onHw, sat_askGsl, sat_ask, sat_ite, sat_pure, sat_modify, sat_modSess]
  refine ⟨fun hr => ?_, fun hr => ?_⟩
  · have href : ¬ c.hw.accepts .gslOpen := (lnx_answer_ne_zero_iff _ _).1 hr
    rw [if_neg href]
    exact ⟨hr, Hw.keeps_called_of_refused (by simp [Call.kind]) (by simp [Call.kind]) href, trivial⟩
  · have hacc : c.hw.accepts .gslOpen := by
      by_contra h
      exact hr ((lnx_answer_ne_zero_iff _ (.gslOpen c.hw.nextHandle md.gkv)).2 h)
    let hw₁ := c.hw.called (.gslOpen c.hw.nextHandle md.gkv)
    let hw₂ : Hw := { hw₁ with nextHandle := c.hw.nextHandle + 1 }
    have htook : c.hw.Takes c.hw.nextHandle {md.gkv} (hw₂.called (.registerEventCb c.hw.nextHandle)) :=
      ((Hw.takes_gslOpen hacc).keeps (traceFrame_keeps.set hw₁ hw₂ rfl rfl)).keeps (Hw.keeps_called (.inl rfl))
    simp only [if_pos hacc]
    refine ⟨fun hcb => ?_, fun _ => ⟨htook, rfl⟩⟩
    rw [if_neg hcb]
    refine Hw.held_gslClose.trans ?_
    have hclose : Hw.accepts (hw₂.called (.registerEventCb c.hw.nextHandle)) .gslClose = c.hw.accepts .gslClose := by
      rw [Hw.accepts, htook.close, Hw.accepts]
    rw [hclose, htook.held, Function.update_self, Function.update_idem]

theorem sat_getTags (gkv : Gkv) (c : Ctx) :
    Sat (getTagsWithModuleInfo gkv) c fun r c' => c'.sess = c.sess ∧ (r = 0 ↔ c.hw.acceptsTags) ∧ c.hw.Keeps c'.hw ∧
      c'.hw.env .gslOpen = c.hw.env .gslOpen ∧ c'.hw.nextHandle = c.hw.nextHandle := by
  have hframe := traceFrame_keeps.callFrame.getTagsWithModuleInfo gkv c
  refine (hframe.and (sat_getTags_answers gkv c)).mono fun r c' h => ?_
  obtain ⟨hkeeps, htags, hans, htold, hnext⟩ := h
  exact ⟨htold.1, htags, hkeeps, congrFun hans .gslOpen, hnext⟩

/-- `graph_open`. -/
theorem held_graphOpen (md : Metadata) {a : Aif} (hs : c.sess.state = .closed) :
    Sat (graphOpen md (some a.devObj)) c fun r c' =>
      match graphTaken md a 0 c with
      | none => c.hw.Keeps c'.hw ∧ c'.sess = c.sess
      | some h =>
        if r = 0 then c.hw.Takes h {md.gkv} c'.hw ∧ c'.sess.graph.map (·.handle) = some h
        else c'.hw.held = Function.update c.hw.held h (if c.hw.accepts .gslClose then ∅ else {md.gkv}) := by
  unfold graphOpen
  rw [sat_bind, sat_get, sat_ite]
  refine ⟨fun hmode => ?_, fun hmode => ?_⟩
  · have htaken : graphTaken md a 0 c = if c.hw.accepts .gslOpen then some c.hw.nextHandle else none := by
      simp [graphTaken, hs, hmode]
    rw [htaken]
    refine (held_graphOpenGsl md [] c).mono fun r c' h => ?_
    by_cases hacc : c.hw.accepts .gslOpen
    · rw [if_pos hacc] at h ⊢
      exact h
    · rw [if_neg hacc] at h ⊢
      exact h.2
  · have htaken : graphTaken md a 0 c =
        if (c.hw.acceptsTags ∧ (collectModules md.gkv (some a.devObj) (c.hw.acdb.tagTable md.gkv)).isSome) ∧
          c.hw.accepts .gslOpen then some c.hw.nextHandle else none := by
      simp [graphTaken, hs, hmode]
    rw [htaken]
    refine Sat.bind (sat_getTags md.gkv c) fun r c₁ h₁ => ?_
    obtain ⟨hsess, hr, k₁, henv, hnext⟩ := h₁
    rw [sat_ite, sat_pure]
    refine ⟨fun hr' => ?_, fun hr' => ?_⟩
    · rw [if_neg (fun h => hr' (hr.2 h.1.1))]
      exact ⟨k₁, hsess⟩
    · have htags := hr.1 (Decidable.not_not.1 hr')
      have hopen : c₁.hw.accepts .gslOpen = c.hw.accepts .gslOpen := by rw [Hw.accepts, henv, Hw.accepts]
      have hclose : c₁.hw.accepts .gslClose = c.hw.accepts .gslClose := by rw [Hw.accepts, k₁.close, Hw.accepts]
      cases collectModules md.gkv (some a.devObj) (c.hw.acdb.tagTable md.gkv) with
      | none =>
        rw [sat_pure, if_neg (by simp)]
        exact ⟨k₁, hsess⟩
      | some mods =>
        refine (held_graphOpenGsl md mods c₁).mono fun r c' h => ?_
        rw [hopen, hnext, hclose, k₁.held, hsess] at h
        by_cases hacc : c.hw.accepts .gslOpen
        · rw [if_pos hacc] at h
          rw [if_pos ⟨⟨htags, rfl⟩, hacc⟩]
          by_cases hr0 : r = 0
          · simp only [if_pos hr0] at h ⊢
            exact ⟨k₁.takes h.1, h.2⟩
          · simp only [if_neg hr0] at h ⊢
            exact h
        · rw [if_neg hacc] at h
          rw [if_neg (fun h => hacc h.2)]
          exact ⟨trans_of Hw.Keeps k₁ h.2.1, h.2.2⟩

end

/-! ## Connecting a back end -/

/-- What GSL holds for a handle once it has accepted the graph call of a connect. -/
def graphsTaken (n : Nat) (gkv : Gkv) (S : Finset Gkv) : Finset Gkv := if n = 0 then {gkv} else insert gkv S

/-- What is left of it after the label `graph_cleanup`. -/
def graphsLeft (n : Nat) (gkv : Gkv) (hw : Hw) (S : Finset Gkv) : Finset Gkv :=
  if n = 0 then if hw.accepts .gslClose then ∅ else S
  else if hw.accepts .removeGraph then S.erase gkv else S

/-- The handle and the graph that `session_connect_aif` gives to GSL, if it comes to that. -/
def connectTakes (a : Aif) (n : Nat) (c : Ctx) : Option (Handle × Gkv) :=
  match mergedMetadata a c with
  | none => none
  | some md =>
    if (c.hw.devs (c.hw.pcmObj a.devObj)).refcnt.nOpen = 0 ∧ ¬ c.hw.accepts .pcmOpen then none
    else (graphTaken md a n c).map fun h => (h, md.gkv)

section

variable {c : Ctx} {a : Aif} {n : Nat} {md : Metadata}

/-- A graph that is added or changed is one of the session's own handle. -/
theorem handle_of_graphTaken {h : Handle} (hs : ¬ (n = 0 ∧ c.sess.state = .closed))
    (ht : graphTaken md a n c = some h) : c.sess.graph.map (·.handle) = some h := by
  unfold graphTaken at ht
  cases hg : c.sess.graph with
  | none =>
    rw [hg] at ht
    by_cases hn : n = 0
    · have hcl : c.sess.state ≠ .closed := fun h => hs ⟨hn, h⟩
      simp [hn, hcl] at ht
    · simp [hn] at ht
  | some g =>
    rw [hg] at ht
    by_cases hn : n = 0
    · have hcl : c.sess.state ≠ .closed := fun h => hs ⟨hn, h⟩
      simp only [hn, ne_eq, not_true_eq_false, if_false, hcl, not_false_eq_true, if_true] at ht
      split at ht
      · exact ht
      · cases ht
    · simp only [ne_eq, hn, not_false_eq_true, if_true] at ht
      split at ht
      · exact ht
      · cases ht

theorem map_handle_of_face {g g' : Option GraphObj} (h : g'.map GraphObj.face = g.map GraphObj.face) :
    g'.map (·.handle) = g.map (·.handle) := by
  have := congrArg (Option.map Prod.fst) h
  rwa [Option.map_map, Option.map_map] at this

/-- Step 2.b, on a session that has its graph. -/
theorem held_sessionConnectGraph_open (hs : ¬ (n = 0 ∧ c.sess.state = .closed)) :
    Sat (sessionConnectGraph md a n) c fun p c' => p.1 = .closeDevice ∧
      match graphTaken md a n c with
      | none => p.2 ≠ 0 ∧ c.hw.Keeps c'.hw
      | some h => c.hw.Takes h (graphsTaken n md.gkv (c.hw.held h)) c'.hw ∧ c'.sess.graph.map (·.handle) = some h := by
  unfold sessionConnectGraph
  rw [sat_bind, sat_get, sat_ite]
  constructor
  · intro hn
    subst hn
    have hcl : c.sess.state ≠ .closed := fun h => hs ⟨rfl, h⟩
    rw [if_neg hcl]
    refine Sat.bind ((held_graphChange md hcl).and (call_graphChange md _ c)) fun r c₁ h₁ => (sat_pure _ _ _).2 ?_
    refine ⟨rfl, ?_⟩
    cases ht : graphTaken md a 0 c with
    | none =>
      rw [ht] at h₁
      exact h₁.1
    | some h =>
      rw [ht] at h₁
      exact ⟨h₁.1, (map_handle_of_face h₁.2.graph).trans (handle_of_graphTaken hs ht)⟩
  · intro hn
    refine Sat.bind ((held_graphAdd hn a).and (call_graphAdd md _ _ c)) fun r c₁ h₁ => (sat_pure _ _ _).2 ?_
    refine ⟨rfl, ?_⟩
    cases ht : graphTaken md a n c with
    | none =>
      rw [ht] at h₁
      exact h₁.1
    | some h =>
      rw [ht] at h₁
      have hset : graphsTaken n md.gkv (c.hw.held h) = insert md.gkv (c.hw.held h) := if_neg hn
      show c.hw.Takes h (graphsTaken n md.gkv (c.hw.held h)) c₁.hw ∧ _
      rw [hset]
      exact ⟨h₁.1, (map_handle_of_face h₁.2.graph).trans (handle_of_graphTaken hs ht)⟩

/-- Step 2.b, on a closed session. -/
theorem held_sessionConnectGraph_closed (hs : c.sess.state = .closed) :
    Sat (sessionConnectGraph md a 0) c fun p c' =>
      match graphTaken md a 0 c with
      | none => c.hw.Keeps c'.hw ∧ c'.sess = c.sess
      | some h =>
        if p.2 = 0 then c.hw.Takes h {md.gkv} c'.hw ∧ c'.sess.graph.map (·.handle) = some h
        else p.1 = .closeDevice ∧ c'.hw.held = Function.update c.hw.held h (graphsLeft 0 md.gkv c.hw {md.gkv}) := by
  unfold sessionConnectGraph
  rw [sat_bind, sat_get, if_pos rfl, if_pos hs]
  refine Sat.bind (held_graphOpen md hs) fun r c₁ h₁ => ?_
  have hreg : Sat graphRegisterCb c₁ fun r c' => c' = c₁ ∧ (c₁.sess.graph.isSome → r = 0) := by
    refine sat_withGraph c₁ (fun hg => ⟨rfl, fun h => ?_⟩) fun g _ => (sat_pure _ _ _).2 ⟨rfl, fun _ => rfl⟩
    rw [hg] at h
    cases h
  rw [sat_ite, sat_pure]
  cases ht : graphTaken md a 0 c with
  | none =>
    rw [ht] at h₁
    refine ⟨fun _ => h₁, fun _ => Sat.bind hreg fun r₂ c₂ h₂ => (sat_pure _ _ _).2 ?_⟩
    rw [h₂.1]
    exact h₁
  | some h =>
    rw [ht] at h₁
    refine ⟨fun hr => ?_, fun hr => Sat.bind hreg fun r₂ c₂ h₂ => (sat_pure _ _ _).2 ?_⟩
    · simp only [if_neg hr] at h₁ ⊢
      exact ⟨trivial, h₁⟩
    · simp only [if_pos (Decidable.not_not.1 hr)] at h₁
      have hsome : c₁.sess.graph.isSome := by
        rw [← Option.isSome_map (f := (·.handle)), h₁.2]
        rfl
      simp only [h₂.1, if_pos (h₂.2 hsome)]
      exact h₁

/-- `device_open`, as far as the graph call can tell. -/
theorem sat_deviceOpen_env (d : DevId) (hw : Hw) :
    Sat (deviceOpen d) hw fun r hw' =>
      (r ≠ 0 ↔ (hw.devs (hw.pcmObj d)).refcnt.nOpen = 0 ∧ ¬ hw.accepts .pcmOpen) ∧
      (∀ k ≠ .pcmOpen, hw'.env k = hw.env k) ∧ hw'.acdb = hw.acdb ∧ hw'.nextHandle = hw.nextHandle := by
  unfold deviceOpen
  simp only [sat_bind, sat_get, sat_ite, sat_modify, sat_pure, sat_ask]
  refine ⟨fun ho => ⟨⟨fun h => absurd rfl h, fun h => absurd h.1 ho⟩, fun _ _ => rfl, rfl, rfl⟩, fun ho => ?_⟩
  have hacc := answer_eq_zero_iff hw (.pcmOpen (hw.pcmObj d))
  refine ⟨fun hr => ⟨⟨fun _ => ⟨Decidable.not_not.1 ho, mt hacc.2 hr⟩, fun _ => by decide⟩,
    fun k hk => Hw.env_called_of_ne hk, rfl, rfl⟩, fun hr => ⟨⟨fun h => absurd rfl h, fun h => ?_⟩,
    fun k hk => Hw.env_called_of_ne hk, rfl, rfl⟩⟩
  exact absurd (hacc.1 (Decidable.not_not.1 hr)) h.2

/-- The handle depends on the answers that `device_open` leaves alone. -/
theorem graphTaken_congr {c₁ : Ctx} (hsess : c₁.sess = c.sess) (henv : ∀ k ≠ .pcmOpen, c₁.hw.env k = c.hw.env k)
    (hacdb : c₁.hw.acdb = c.hw.acdb) (hnext : c₁.hw.nextHandle = c.hw.nextHandle) :
    graphTaken md a n c₁ = graphTaken md a n c := by
  have hacc (k : Kind) (hk : k ≠ .pcmOpen) : c₁.hw.accepts k = c.hw.accepts k := by
    rw [Hw.accepts, henv k hk, Hw.accepts]
  have htags : c₁.hw.acceptsTags = c.hw.acceptsTags := by
    rw [Hw.acceptsTags, henv .getTags (by simp), Hw.acceptsTags]
  simp [graphTaken, hsess, hacc, htags, hacdb, hnext]

/-- What the body of `session_connect_aif` has done to the graphs, label by label. -/
def BodyHeld (a : Aif) (n : Nat) (c : Ctx) (e : ConnectExit) (c' : Ctx) : Prop :=
  match connectTakes a n c with
  | none => c.hw.Keeps c'.hw ∧ (∀ md, e.label = .graphCleanup md →
      n = 0 ∧ c'.sess.graph.map (·.handle) = c.sess.graph.map (·.handle))
  | some (h, gkv) =>
    match e.label with
    | .done => e.ret = 0
    | .graphCleanup md => md.gkv = gkv ∧ c.hw.Takes h (graphsTaken n gkv (c.hw.held h)) c'.hw ∧
        c'.sess.graph.map (·.handle) = some h
    | .closeDevice => c'.hw.held = Function.update c.hw.held h
        (if n = 0 ∧ c.sess.state = .closed then graphsLeft n gkv c.hw (graphsTaken n gkv (c.hw.held h))
          else graphsTaken n gkv (c.hw.held h))

/-- Steps 2.c to 2.f leave the graphs and the handle. -/
theorem held_sessionApplyCached (md : Metadata) (a : Aif) (c : Ctx) :
    Sat (sessionApplyCached md a) c fun _ c' => c.hw.Keeps c'.hw ∧
      c'.sess.graph.map (·.handle) = c.sess.graph.map (·.handle) :=
  ((traceFrame_keeps.sessionApplyCached md a c).and (sat_sessionApplyCached md a c)).mono fun _ _ h =>
    ⟨h.1, map_handle_of_face h.2.1.graph⟩

theorem held_sessionConnectBody (a : Aif) (n : Nat) (c : Ctx) :
    Sat (sessionConnectBody a n) c (BodyHeld a n c) := by
  unfold sessionConnectBody BodyHeld connectTakes
  rw [sat_bind, sat_get]
  cases mergedMetadata a c with
  | none => exact (sat_pure _ _ _).2 ⟨refl_of Hw.Keeps _, fun _ h => by cases h⟩
  | some md =>
    have hdev : Sat (onHw (deviceOpen a.devObj)) c fun r c' => c'.sess = c.sess ∧ c.hw.Keeps c'.hw ∧
        (r ≠ 0 ↔ (c.hw.devs (c.hw.pcmObj a.devObj)).refcnt.nOpen = 0 ∧ ¬ c.hw.accepts .pcmOpen) ∧
        graphTaken md a n c' = graphTaken md a n c := by
      rw [sat_onHw]
      refine ((traceFrame_keeps.deviceOpen a.devObj c.hw).and (sat_deviceOpen_env a.devObj c.hw)).mono fun r hw' h => ?_
      exact ⟨rfl, h.1, h.2.1, graphTaken_congr rfl h.2.2.1 h.2.2.2.1 h.2.2.2.2⟩
    refine Sat.bind hdev fun r c₁ h₁ => ?_
    obtain ⟨hsess, k₁, hr, ht⟩ := h₁
    dsimp only
    rw [sat_ite, sat_pure]
    refine ⟨fun hr' => ?_, fun hr' => ?_⟩
    · rw [if_pos (hr.1 hr')]
      exact ⟨k₁, fun _ h => by cases h⟩
    · simp only [if_neg (mt hr.2 hr'), ← ht]
      have hclose : c₁.hw.accepts .gslClose = c.hw.accepts .gslClose := by rw [Hw.accepts, k₁.close, Hw.accepts]
      have hhandle : c₁.sess.graph.map (·.handle) = c.sess.graph.map (·.handle) := by rw [hsess]
      by_cases hs : n = 0 ∧ c.sess.state = .closed
      · obtain ⟨rfl, hs⟩ := hs
        have hs₁ : c₁.sess.state = .closed := by rw [hsess, hs]
        refine Sat.bind (held_sessionConnectGraph_closed hs₁) fun p c₂ h₂ => ?_
        rw [sat_ite, sat_pure]
        cases hg : graphTaken md a 0 c₁ with
        | none =>
          rw [hg] at h₂
          have k₂ := trans_of Hw.Keeps k₁ h₂.1
          have hh₂ : c₂.sess.graph.map (·.handle) = c.sess.graph.map (·.handle) := by rw [h₂.2, hhandle]
          refine ⟨fun _ => ⟨k₂, fun _ _ => ⟨rfl, hh₂⟩⟩, fun _ => ?_⟩
          refine Sat.bind (held_sessionApplyCached md a c₂) fun q c₃ h₃ => ?_
          rw [sat_ite, sat_pure, sat_pure]
          have k₃ := trans_of Hw.Keeps k₂ h₃.1
          exact ⟨fun _ => ⟨k₃, fun _ _ => ⟨rfl, h₃.2.trans hh₂⟩⟩, fun _ => ⟨k₃, fun _ h => by cases h⟩⟩
        | some h =>
          rw [hg] at h₂
          refine ⟨fun hp => ?_, fun hp => ?_⟩
          · simp only [if_neg hp] at h₂
            simp only [Option.map_some, h₂.1, hs, and_self, if_true, graphsTaken]
            rw [h₂.2, k₁.held, graphsLeft, hclose, graphsLeft, if_pos rfl, if_pos rfl]
          · simp only [if_pos (Decidable.not_not.1 hp)] at h₂
            refine Sat.bind (held_sessionApplyCached md a c₂) fun q c₃ h₃ => ?_
            rw [sat_ite, sat_pure, sat_pure]
            exact ⟨fun _ => ⟨rfl, k₁.takes (h₂.1.keeps h₃.1), h₃.2.trans h₂.2⟩, fun _ => rfl⟩
      · have hs₁ : ¬ (n = 0 ∧ c₁.sess.state = .closed) := by rwa [hsess]
        refine Sat.bind (held_sessionConnectGraph_open hs₁) fun p c₂ h₂ => ?_
        rw [sat_ite, sat_pure]
        cases hg : graphTaken md a n c₁ with
        | none =>
          rw [hg] at h₂
          refine ⟨fun _ => ⟨trans_of Hw.Keeps k₁ h₂.2.2, fun _ hl => ?_⟩, fun hp => absurd h₂.2.1 hp⟩
          cases h₂.1.symm.trans hl
        | some h =>
          rw [hg] at h₂
          have htook := k₁.takes h₂.2.1
          rw [k₁.held] at htook
          refine ⟨fun hp => ?_, fun hp => ?_⟩
          · simp only [Option.map_some, h₂.1, if_neg hs]
            exact htook.held
          · refine Sat.bind (held_sessionApplyCached md a c₂) fun q c₃ h₃ => ?_
            rw [sat_ite, sat_pure, sat_pure]
            exact ⟨fun _ => ⟨rfl, htook.keeps h₃.1, h₃.2.trans h₂.2.2⟩, fun _ => rfl⟩

/-- What GSL holds after a connect that failed. -/
def heldAfterFailure (a : Aif) (n : Nat) (c : Ctx) : Handle → Finset Gkv :=
  match connectTakes a n c with
  | none =>
    match c.sess.graph with
    | none => c.hw.held
    | some g =>
      if connectCleansUp a n c ∧ c.hw.accepts .gslClose then Function.update c.hw.held g.handle ∅ else c.hw.held
  | some (h, gkv) =>
    Function.update c.hw.held h
      (if connectCleansUp a n c ∨ (n = 0 ∧ c.sess.state = .closed) then
          graphsLeft n gkv c.hw (graphsTaken n gkv (c.hw.held h))
        else graphsTaken n gkv (c.hw.held h))

/-- The label `graph_cleanup`, where a graph was given to GSL. -/
theorem held_graphCleanup {a' : Aif} {c₁ : Ctx} {h : Handle} {S : Finset Gkv} (htook : c.hw.Takes h S c₁.hw)
    (hh : c₁.sess.graph.map (·.handle) = some h) :
    Sat (graphCleanup md a' n) c₁ fun _ c' =>
      c'.hw.held = Function.update c.hw.held h (graphsLeft n md.gkv c.hw S) := by
  obtain ⟨g, hg, rfl⟩ := Option.map_eq_some_iff.1 hh
  have hclose : c₁.hw.accepts .gslClose = c.hw.accepts .gslClose := by rw [Hw.accepts, htook.close, Hw.accepts]
  have hremove : c₁.hw.accepts .removeGraph = c.hw.accepts .removeGraph := by rw [Hw.accepts, htook.remove, Hw.accepts]
  unfold graphCleanup graphsLeft
  rw [sat_ite]
  refine ⟨fun hn => ?_, fun hn => ?_⟩
  · simp only [if_pos hn]
    unfold graphClose withGraph
    simp only [sat_bind, sat_get, hg, sat_onHw, sat_askGsl, sat_modSess, sat_pure]
    rw [Hw.held_gslClose, hclose, htook.held, Function.update_self, Function.update_idem]
  · simp only [if_neg hn]
    unfold graphRemove withGraph
    simp only [sat_bind, sat_get, hg, sat_onHw, sat_askGsl]
    rw [Hw.held_removeGraph, hremove, htook.held, Function.update_self, Function.update_idem]

/-- The label `graph_cleanup`, where GSL was given nothing: the object that is there is closed all the same. -/
theorem held_graphCleanup_keeps {a' : Aif} {c₁ : Ctx} (k : c.hw.Keeps c₁.hw)
    (hh : c₁.sess.graph.map (·.handle) = c.sess.graph.map (·.handle)) :
    Sat (graphCleanup md a' 0) c₁ fun _ c' => c'.hw.held =
      match c.sess.graph with
      | none => c.hw.held
      | some g => if c.hw.accepts .gslClose then Function.update c.hw.held g.handle ∅ else c.hw.held := by
  have hclose : c₁.hw.accepts .gslClose = c.hw.accepts .gslClose := by rw [Hw.accepts, k.close, Hw.accepts]
  unfold graphCleanup graphClose withGraph
  rw [if_pos rfl]
  cases hg : c.sess.graph with
  | none =>
    have hg₁ : c₁.sess.graph = none := by
      rw [hg] at hh
      exact Option.map_eq_none_iff.1 hh
    simp only [sat_bind, sat_get, hg₁, sat_modSess, sat_pure]
    exact k.held
  | some g =>
    rw [hg] at hh
    obtain ⟨g₁, hg₁, heq⟩ := Option.map_eq_some_iff.1 hh
    simp only [sat_bind, sat_get, hg₁, sat_onHw, sat_askGsl, sat_modSess, sat_pure]
    rw [Hw.held_gslClose, hclose, k.held, heq]
    split
    · rfl
    · rw [Function.update_eq_self]

theorem held_sessionConnectAif (a : Aif) (n : Nat) (c : Ctx) :
    Sat (sessionConnectAif a n) c fun p c' => p.1 ≠ 0 → c'.hw.held = heldAfterFailure a n c := by
  have hbody : Sat (sessionConnectBody a n) c fun e c' => sessionConnectBody a n c = some (e, c') :=
    fun _ _ h => h
  refine Sat.bind ((held_sessionConnectBody a n c).and hbody) fun e c₁ h₁ => ?_
  obtain ⟨hheld, heq⟩ := h₁
  have hup := connectCleansUp_of heq
  have hend {c₂ : Ctx} (h : c₂.hw.held = heldAfterFailure a n c) :
      Sat (closeDevice e.aif >>= fun a => pure (e.ret, a)) c₂ fun p c' =>
        p.1 ≠ 0 → c'.hw.held = heldAfterFailure a n c := by
    refine Sat.bind (traceFrame_keeps.closeDevice e.aif c₂) fun _ c₃ k₃ => (sat_pure _ _ _).2 fun _ => ?_
    exact k₃.held.trans h
  unfold BodyHeld at hheld
  cases hl : e.label with
  | done =>
    rw [hl] at hheld hup
    refine (sat_pure _ _ _).2 fun hne => ?_
    cases ht : connectTakes a n c with
    | none =>
      rw [ht] at hheld
      have hsame : heldAfterFailure a n c = c.hw.held := by
        unfold heldAfterFailure
        rw [ht, hup]
        cases c.sess.graph <;> simp
      exact hheld.1.held.trans hsame.symm
    | some t =>
      rw [ht] at hheld
      exact absurd hheld hne
  | closeDevice =>
    rw [hl] at hheld hup
    refine hend ?_
    unfold heldAfterFailure
    cases ht : connectTakes a n c with
    | none =>
      rw [ht] at hheld
      rw [hup]
      refine hheld.1.held.trans ?_
      cases c.sess.graph <;> simp
    | some t =>
      rw [ht] at hheld
      simp only [hup, Bool.false_eq_true, false_or]
      exact hheld
  | graphCleanup md =>
    rw [hl] at hheld hup
    cases ht : connectTakes a n c with
    | none =>
      rw [ht] at hheld
      obtain ⟨rfl, hh⟩ := hheld.2 md rfl
      refine Sat.bind (held_graphCleanup_keeps hheld.1 hh) fun _ c₂ h₂ => hend ?_
      unfold heldAfterFailure
      rw [h₂, ht, hup]
      simp
    | some t =>
      rw [ht] at hheld
      obtain ⟨hgkv, htook, hh⟩ := hheld
      refine Sat.bind (held_graphCleanup htook hh) fun _ c₂ h₂ => hend ?_
      unfold heldAfterFailure
      rw [h₂, ht, hup, hgkv]
      simp

end

/-! ## When nothing is left behind -/

/-- The state before a connect is one in which a failure leaves GSL with what it held: the graph call is not reached
or refused; or the graph that is added was there before and stays, or was not and is taken away again; or the graph
that replaces all others is the only one there was; or the handle had no graph and is closed again. -/
def Restores (a : Aif) (n : Nat) (c : Ctx) : Prop :=
  match connectTakes a n c with
  | none => connectCleansUp a n c → c.hw.accepts .gslClose → ∀ g, c.sess.graph = some g → c.hw.held g.handle = ∅
  | some (h, gkv) =>
    if n ≠ 0 then
      if connectCleansUp a n c ∧ c.hw.accepts .removeGraph then gkv ∉ c.hw.held h else gkv ∈ c.hw.held h
    else if (connectCleansUp a n c ∨ c.sess.state = .closed) ∧ c.hw.accepts .gslClose then c.hw.held h = ∅
    else c.hw.held h = {gkv}

theorem update_held_eq_iff {hw : Hw} {h : Handle} {S : Finset Gkv} :
    Function.update hw.held h S = hw.held ↔ hw.held h = S := by
  rw [Function.update_eq_self_iff, eq_comm]

theorem heldAfterFailure_eq_iff (a : Aif) (n : Nat) (c : Ctx) :
    heldAfterFailure a n c = c.hw.held ↔ Restores a n c := by
  unfold heldAfterFailure Restores
  cases connectTakes a n c with
  | none =>
    cases c.sess.graph with
    | none => simp
    | some g =>
      dsimp only
      by_cases hup : connectCleansUp a n c ∧ c.hw.accepts .gslClose
      · rw [if_pos hup, update_held_eq_iff]
        exact ⟨fun h _ _ g' hg => Option.some.inj hg ▸ h, fun h => h hup.1 hup.2 g rfl⟩
      · simp only [if_neg hup, true_iff]
        exact fun h h' => absurd ⟨h, h'⟩ hup
  | some t =>
    obtain ⟨h, gkv⟩ := t
    dsimp only
    rw [update_held_eq_iff]
    by_cases hn : n = 0
    · -- the graph is the only one, until the handle is closed
      subst hn
      simp only [graphsTaken, graphsLeft, if_true, ne_eq, not_true_eq_false, if_false, true_and]
      by_cases hup : connectCleansUp a 0 c ∨ c.sess.state = .closed
      · rw [if_pos hup]
        by_cases hcl : c.hw.accepts .gslClose
        · rw [if_pos hcl, if_pos ⟨hup, hcl⟩]
        · rw [if_neg hcl, if_neg (fun h => hcl h.2)]
      · rw [if_neg hup, if_neg (fun h => hup h.1)]
    · -- the graph joins the others, until it is removed
      have hnc : ¬ (n = 0 ∧ c.sess.state = .closed) := fun h => hn h.1
      rw [graphsTaken, if_neg hn, graphsLeft, if_neg hn, if_pos hn]
      simp only [hnc, or_false]
      by_cases hup : connectCleansUp a n c
      · rw [if_pos hup]
        by_cases hrm : c.hw.accepts .removeGraph
        · rw [if_pos hrm, if_pos ⟨hup, hrm⟩, Finset.erase_insert_eq_erase, eq_comm, Finset.erase_eq_self]
        · rw [if_neg hrm, if_neg (fun h => hrm h.2), eq_comm, Finset.insert_eq_self]
      · rw [if_neg hup, if_neg (fun h => hup h.1), eq_comm, Finset.insert_eq_self]

/-- **A connect that fails.**  For every session state, back end, count of open devices and pattern of answers, when
`session_connect_aif` reports an error the open counts of all devices are what they were, and the graphs GSL holds are
what they were if and only if the state before the call is one of those `Restores` describes. -/
theorem failed_connect_restores_iff {a : Aif} {n : Nat} {c c' : Ctx} {p : Int × Aif}
    (h : sessionConnectAif a n c = some (p, c')) (hp : p.1 ≠ 0) :
    ((∀ h, c'.hw.held h = c.hw.held h) ∧ ∀ o, c'.hw.nOpen o = c.hw.nOpen o) ↔ Restores a n c := by
  have hopen : ∀ o, c'.hw.nOpen o = c.hw.nOpen o := by
    rcases (sat_sessionConnectAif a n c p c' h).2.2 with h | h
    · exact absurd h.1 hp
    · exact nOpen_of_failed_connect h.2
  rw [← heldAfterFailure_eq_iff, ← held_sessionConnectAif a n c p c' h hp, funext_iff]
  exact ⟨fun h => h.1, fun h => ⟨h, hopen⟩⟩

/-- A back end with a graph of its own. -/
def Aif.second (params : Option Payload) : Aif :=
  { aifId := 1, devObj := 1, sessAifMeta := { gkv := [⟨1, 2⟩] }, params := params }

/-- A session is opened on its first device, and connected to the second. -/
def openThenConnect (params : Option Payload) (env : Kind → List Int) : Option ((Int × Ctx) × (Int × Aif) × Ctx) :=
  (sessionObjOpen .default (Ctx.waiting [0] env)).bind fun q =>
    (sessionConnectAif (.second params) 1 q.2).map fun p => (q, p)

theorem openThenConnect_eq_some {params : Option Payload} {env : Kind → List Int} {q : Int × Ctx}
    {p : (Int × Aif) × Ctx} (h : openThenConnect params env = some (q, p)) :
    sessionObjOpen .default (Ctx.waiting [0] env) = some q ∧ sessionConnectAif (.second params) 1 q.2 = some p := by
  obtain ⟨q', hq, h⟩ := Option.bind_eq_some_iff.1 h
  obtain ⟨p', hp, h⟩ := Option.map_eq_some_iff.1 h
  obtain ⟨rfl, rfl⟩ := Prod.mk.inj h
  exact ⟨hq, hp⟩

/-- The parameters of the second device are refused, and its graph is removed again. -/
theorem failed_connect_restores_of_params :
    ∃ q p, openThenConnect (some [7]) (fun k => if k = .setCustomConfig then [1] else []) = some (q, p) ∧
      q.1 = 0 ∧ p.1.1 ≠ 0 ∧ (∀ h, p.2.hw.held h = q.2.hw.held h) ∧ ∀ o, p.2.hw.nOpen o = q.2.hw.nOpen o := by
  have hrun : ((openThenConnect (some [7]) fun k => if k = .setCustomConfig then [1] else []).map fun r =>
      (r.1.1, decide (r.2.1.1 ≠ 0), decide (connectTakes (.second (some [7])) 1 r.1.2 = some ((0 : Nat), [⟨1, 2⟩])),
        connectCleansUp (.second (some [7])) 1 r.1.2, r.1.2.hw.accepts .removeGraph,
        decide ([⟨1, 2⟩] ∉ r.1.2.hw.held 0))) = some (0, true, true, true, true, true) := by
    decide +kernel
  obtain ⟨⟨q, p⟩, heq, hr⟩ := Option.map_eq_some_iff.1 hrun
  simp only [Prod.mk.injEq, decide_eq_true_iff] at hr
  obtain ⟨h0, hne, htakes, hup, hrm, hnot⟩ := hr
  have hrestores : Restores (.second (some [7])) 1 q.2 := by
    unfold Restores
    rw [htakes]
    dsimp only
    rw [if_pos (by decide), if_pos ⟨hup, hrm⟩]
    exact hnot
  obtain ⟨hheld, hopen⟩ := (failed_connect_restores_iff (openThenConnect_eq_some heq).2 hne).2 hrestores
  exact ⟨q, p, heq, h0, hne, hheld, hopen⟩

/-- The graph of the second device is added, its endpoint is not found, and the graph stays. -/
theorem failed_connect_leaves_graph :
    ∃ q p, openThenConnect none (fun k => if k = .taggedModuleInfo then [1] else []) = some (q, p) ∧
      q.1 = 0 ∧ sessionConnectAif (.second none) 1 q.2 = some p ∧ p.1.1 ≠ 0 ∧ p.2.hw.held 0 ≠ q.2.hw.held 0 := by
  have hrun : ((openThenConnect none fun k => if k = .taggedModuleInfo then [1] else []).map fun r =>
      (r.1.1, decide (r.2.1.1 ≠ 0), decide (r.2.2.hw.held 0 ≠ r.1.2.hw.held 0))) = some (0, true, true) := by
    decide +kernel
  obtain ⟨⟨q, p⟩, heq, hr⟩ := Option.map_eq_some_iff.1 hrun
  simp only [Prod.mk.injEq, decide_eq_true_iff] at hr
  exact ⟨q, p, heq, hr.1, (openThenConnect_eq_some heq).2, hr.2.1, hr.2.2⟩

end Agm.Service
