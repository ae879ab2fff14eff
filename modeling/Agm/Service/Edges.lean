import Mathlib.Data.Finset.Lattice.Lemmas
import Agm.Service.CachedParams
import Agm.Service.HeldGraphs

/-!
# Edges of echo references and loopbacks

`session_set_ec_ref` and `session_set_loopback` add a graph to the graph of the session, or remove one.  Which edges
are there is read off the calls GSL has accepted; a session asks for the edge it keeps the id of while the flag beside
the id is set.
-/

namespace Agm.Service

open Agm.Lib

/-! ## The edges of a graph -/

/-- A graph is added on behalf of an echo reference or a loopback. -/
def Owner.isEdge : Owner → Bool
  | .aif _ => false
  | .ecRef _ | .loopback _ => true

/-- What a call does to the edges of the handle `h`; a call that is refused changes nothing. -/
def Event.edges (h : Handle) (e : Event) (S : Finset Owner) : Finset Owner :=
  match e.call with
  | .addGraph h' o _ => if e.ret = 0 ∧ h' = h ∧ o.isEdge then insert o S else S
  | .removeGraph h' o _ => if e.ret = 0 ∧ h' = h ∧ o.isEdge then S.erase o else S
  | _ => S

/-- The edges that were added to the graph of a handle and not removed. -/
def edges (trace : List Event) (h : Handle) : Finset Owner := trace.foldr (Event.edges h) ∅

/-- No edge was asked to be removed but one that was there. -/
def RemovesAdded : List Event → Prop
  | [] => True
  | e :: past => (∀ h o gkv, e.call = .removeGraph h o gkv → o.isEdge → o ∈ edges past h) ∧ RemovesAdded past

/-- The call is about an edge. -/
def Call.isEdge : Call → Bool
  | .addGraph _ o _ | .removeGraph _ o _ => o.isEdge
  | _ => false

/-- The edges are the same, and none was asked to be removed that was not there. -/
structure Hw.EdgesKept (hw hw' : Hw) : Prop where
  edges : edges hw'.trace = edges hw.trace
  removes : RemovesAdded hw.trace → RemovesAdded hw'.trace

namespace Hw

instance : IsPreorder Hw EdgesKept where
  refl _ := ⟨rfl, id⟩
  trans _ _ _ h h' := ⟨h'.edges.trans h.edges, h'.removes ∘ h.removes⟩

theorem edges_called (hw : Hw) (k : Call) :
    Service.edges (hw.called k).trace = fun h => Event.edges h ⟨k, hw.answer k⟩ (Service.edges hw.trace h) := rfl

/-- A call that is not about an edge. -/
theorem edgesKept_called (hw : Hw) {k : Call} (h : ¬ k.isEdge) : hw.EdgesKept (hw.called k) := by
  refine ⟨?_, fun hr => ⟨fun h' o gkv hk ho => ?_, hr⟩⟩
  · rw [edges_called]
    funext h'
    cases k with
    | addGraph h₁ o gkv => exact if_neg fun ho => h ho.2.2
    | removeGraph h₁ o gkv => exact if_neg fun ho => h ho.2.2
    | _ => rfl
  · obtain rfl : k = .removeGraph h' o gkv := hk
    exact absurd ho h

theorem edgesKept_of_trace {hw hw' : Hw} (h : hw'.trace = hw.trace) : hw.EdgesKept hw' :=
  ⟨by rw [h], by rw [h]; exact id⟩

end Hw

theorem traceFrame_edgesKept : TraceFrame Hw.EdgesKept where
  ask hw k hk := hw.edgesKept_called (by cases k <;> simp_all [Call.isEdge, Call.isPlain])
  pcm hw k hk := hw.edgesKept_called (by cases k <;> simp_all [Call.isEdge, Call.isPcm])
  set _ _ _ ht := Hw.edgesKept_of_trace ht

/-- The kinds of calls that are never about an edge. -/
def Kind.noEdge (k : Kind) : Bool := k ≠ .addGraph && k ≠ .removeGraph

theorem hwFrame_edgesKept : HwFrame Kind.noEdge Hw.EdgesKept where
  neutral hw k hk := hw.edgesKept_called (by cases k <;> simp_all [Call.isEdge, Call.kind, Kind.isNeutral])
  ask hw k hk := hw.edgesKept_called (by cases k <;> simp_all [Call.isEdge, Call.kind, Kind.noEdge])
  handle _ _ := Hw.edgesKept_of_trace rfl

/-! ## The edges a session asks for -/

/-- The edge that is kept, of one kind. -/
def keptEdge (kind : Nat → Owner) (id : Nat) (state : Bool) : Finset Owner := if state then {kind id} else ∅

def SessionObj.wantedEdges (s : SessionObj) : Finset Owner :=
  keptEdge .ecRef s.ecRefAifId s.ecRefState ∪ keptEdge .loopback s.loopbackSessId s.loopbackState

def SessionObj.handle (s : SessionObj) : Option Handle := s.graph.map GraphObj.handle

def Ctx.handle (c : Ctx) : Option Handle := c.sess.handle

theorem Ctx.handle_of_face {c c' : Ctx} (h : c'.face = c.face) : c'.handle = c.handle := by
  have hmap (c : Ctx) : c.handle = c.face.map Prod.fst := by rw [handle, SessionObj.handle, face, Option.map_map]; rfl
  rw [hmap, hmap, h]

/-- The edges of a graph object, if there is one. -/
def edgesOf (trace : List Event) (h : Option Handle) : Finset Owner := h.elim ∅ (edges trace)

def Ctx.ownEdges (c : Ctx) : Finset Owner := edgesOf c.hw.trace c.handle

/-! ## One edge -/

/-- The module loop of `graph_add` passes over the module. -/
def addSkips (m : ModuleInfo) (hw : Hw) : Bool :=
  (m.isConfigured && m.tag ≠ .streamSpr) || hwEpStarted m hw || ! m.tag.hasConfigure

/-- One of the next answers to a configuration callback, as many as the module loop of `graph_add` asks for, is a
refusal. -/
def callbackRefused (hw : Hw) : List Int → List ModuleInfo → Bool
  | _, [] => false
  | rets, m :: ms =>
    if addSkips m hw then callbackRefused hw rets ms else rets.headD 0 ≠ 0 || callbackRefused hw rets.tail ms

/-- A `graph_add` whose graph GSL has accepted reports an error nevertheless. -/
def addRefused (c : Ctx) : Bool :=
  c.sess.graph.any fun g =>
    (g.state = .started || g.state = .prepared) && callbackRefused c.hw (c.hw.env .configure) g.taggedModList

/-- `graph_add` or `graph_remove`, without a device. -/
def setEdge (md : Metadata) (o : Owner) (enable : Bool) : M Int :=
  if enable then graphAdd md o none else graphRemove md o

/-- GSL accepts the graph of an edge, if it comes to that. -/
def addsEdge (md : Option Metadata) (c : Ctx) : Bool :=
  md.isSome && c.sess.graph.any (fun g => g.state ≠ .closed) && c.hw.accepts .addGraph

theorem addSkips_of_still {hw hw' : Hw} (h : hw'.still = hw.still) (m : ModuleInfo) :
    addSkips m hw' = addSkips m hw := by
  have hdevs := congrArg Hw.devs h
  have hgrps := congrArg Hw.grps h
  have hcount (d : DevId) : deviceGetStartRefcnt d hw' = deviceGetStartRefcnt d hw := by
    simp only [deviceGetStartRefcnt, show hw'.devs = hw.devs from hdevs, show hw'.grps = hw.grps from hgrps]
  simp only [addSkips, hwEpStarted, hcount]

theorem callbackRefused_of_still {hw hw' : Hw} (h : hw'.still = hw.still) (rets : List Int) (ms : List ModuleInfo) :
    callbackRefused hw' rets ms = callbackRefused hw rets ms := by
  induction ms generalizing rets with
  | nil => rfl
  | cons m ms ih => simp only [callbackRefused, addSkips_of_still h, ih]

/-- One turn of the module loop: a callback is made, or the module is passed over. -/
theorem sat_addModule (h : Handle) (m : ModuleInfo) (c : Ctx) :
    Sat (addModule h m) c fun p c' => c'.hw.still = c.hw.still ∧
      if addSkips m c.hw then p.1 = 0 ∧ c'.hw.env .configure = c.hw.env .configure
      else (p.1 ≠ 0 → (c.hw.env .configure).headD 0 ≠ 0) ∧ c'.hw.env .configure = (c.hw.env .configure).tail := by
  have hcall : Sat (configureModule h m) c fun p c' => c'.hw.still = c.hw.still ∧
      (p.1 ≠ 0 → (c.hw.env .configure).headD 0 ≠ 0) ∧ c'.hw.env .configure = (c.hw.env .configure).tail := by
    unfold configureModule
    rw [sat_bind, sat_modGraph, sat_bind, sat_onHw, sat_ask, sat_ite, sat_pure, sat_pure]
    exact ⟨fun hr => ⟨rfl, fun _ => hr, rfl⟩, fun _ => ⟨rfl, fun h0 => absurd rfl h0, rfl⟩⟩
  unfold addModule
  rw [sat_bind, sat_get, sat_ite, sat_pure, sat_ite, sat_pure, sat_ite, sat_pure]
  refine ⟨fun hm => ?_, fun hm => ⟨fun hs => ?_, fun hs => ⟨fun hc => ?_, fun hc => ?_⟩⟩⟩
  · rw [if_pos (by simp [addSkips, hm.1, hm.2])]
    exact ⟨rfl, rfl, rfl⟩
  · rw [if_pos (by simp [addSkips, hs])]
    exact ⟨rfl, rfl, rfl⟩
  · have hno : ¬ addSkips m c.hw := by simpa [addSkips, hs, hc] using hm
    simp only [if_neg hno]
    exact hcall
  · rw [if_pos (by simp [addSkips, hc])]
    exact ⟨rfl, rfl, rfl⟩

theorem sat_addModules (h : Handle) (ms : List ModuleInfo) (c : Ctx) :
    Sat (forEach (addModule h) ms) c fun p _ => p.1 ≠ 0 → callbackRefused c.hw (c.hw.env .configure) ms := by
  induction ms generalizing c with
  | nil => exact (sat_pure _ _ _).2 fun h => absurd rfl h
  | cons m ms ih =>
    refine Sat.bind (sat_addModule h m c) fun p c₁ h₁ => ?_
    obtain ⟨hstill, h₁⟩ := h₁
    have hrest : Sat (forEach (addModule h) ms) c₁ fun q _ =>
        q.1 ≠ 0 → callbackRefused c.hw (c₁.hw.env .configure) ms := by
      refine (ih c₁).mono fun q c₂ h₂ => ?_
      rwa [callbackRefused_of_still hstill] at h₂
    rw [sat_ite, sat_pure, callbackRefused]
    split at h₁
    · next hs =>
      rw [if_pos hs, ← h₁.2]
      exact ⟨fun hp => absurd h₁.1 hp, fun _ => Sat.bind hrest fun q c₂ h₂ => (sat_pure _ _ _).2 h₂⟩
    · next hs =>
      rw [if_neg hs, ← h₁.2]
      refine ⟨fun hp _ => ?_, fun _ => Sat.bind hrest fun q c₂ h₂ => (sat_pure _ _ _).2 fun hq => ?_⟩
      · rw [Bool.or_eq_true, decide_eq_true_iff]
        exact .inl (h₁.1 hp)
      · rw [Bool.or_eq_true]
        exact .inr (h₂ hq)

/-- The edges of the other graphs are the same, and none was asked to be removed that was not there. -/
structure Ctx.OwnOnly (c c' : Ctx) : Prop where
  others : ∀ h, c.handle ≠ some h → edges c'.hw.trace h = edges c.hw.trace h
  removes : RemovesAdded c.hw.trace → RemovesAdded c'.hw.trace

/-- GSL has accepted an edge; where `graph_add` reports an error all the same, the callbacks are to blame. -/
structure Ctx.EdgeAdded (o : Owner) (r : Int) (c c' : Ctx) : Prop where
  graph : c.sess.graph.any fun g => g.state ≠ .closed
  accepts : c.hw.accepts .addGraph
  edges : c'.ownEdges = insert o c.ownEdges
  refused : r ≠ 0 → addRefused c

theorem Hw.EdgesKept.ownOnly {c c' : Ctx} (h : c.hw.EdgesKept c'.hw) : c.OwnOnly c' :=
  ⟨fun h' _ => congrFun h.edges h', h.removes⟩

theorem Ctx.OwnOnly.kept {c c₁ c' : Ctx} (h : c.OwnOnly c₁) (k : c₁.hw.EdgesKept c'.hw) : c.OwnOnly c' :=
  ⟨fun h' hne => (congrFun k.edges h').trans (h.others h' hne), k.removes ∘ h.removes⟩

theorem Ctx.ownEdges_of_kept {c c' : Ctx} (h : c'.handle = c.handle) (k : c.hw.EdgesKept c'.hw) :
    c'.ownEdges = c.ownEdges := by
  unfold ownEdges edgesOf
  rw [h, k.edges]

theorem Ctx.ownEdges_of_graph {c : Ctx} {g : GraphObj} (h : c.sess.graph = some g) :
    c.ownEdges = edges c.hw.trace g.handle := by
  rw [ownEdges, handle, SessionObj.handle, h]
  rfl

/-- The call of `graph_add`. -/
theorem edges_addGraph {c : Ctx} {g : GraphObj} (hg : c.sess.graph = some g) {o : Owner} (ho : o.isEdge) (gkv : Gkv) :
    c.OwnOnly (c.called (.addGraph g.handle o gkv)) ∧ (c.called (.addGraph g.handle o gkv)).ownEdges =
      if c.hw.accepts .addGraph then insert o c.ownEdges else c.ownEdges := by
  refine ⟨⟨fun h hne => ?_, fun hr => ⟨fun _ _ _ hk => (nomatch hk), hr⟩⟩, ?_⟩
  · refine if_neg fun hh => hne ?_
    rw [Ctx.handle, SessionObj.handle, hg, ← hh.2.1]
    rfl
  · have hacc := answer_eq_zero_iff c.hw (.addGraph g.handle o gkv)
    rw [Ctx.ownEdges_of_graph (c := c.called _) hg, Ctx.ownEdges_of_graph hg]
    show (if _ then _ else _) = _
    simp only [hacc, Call.kind, ho, and_true]
    rfl

/-- The call of `graph_remove`. -/
theorem edges_removeGraph {c : Ctx} {g : GraphObj} (hg : c.sess.graph = some g) {o : Owner} (ho : o ∈ c.ownEdges)
    (he : o.isEdge) (gkv : Gkv) :
    c.OwnOnly (c.called (.removeGraph g.handle o gkv)) ∧ (c.called (.removeGraph g.handle o gkv)).ownEdges =
      if c.hw.accepts .removeGraph then c.ownEdges.erase o else c.ownEdges := by
  rw [Ctx.ownEdges_of_graph hg] at ho
  refine ⟨⟨fun h hne => ?_, fun hr => ⟨fun h' o' gkv' hk _ => ?_, hr⟩⟩, ?_⟩
  · refine if_neg fun hh => hne ?_
    rw [Ctx.handle, SessionObj.handle, hg, ← hh.2.1]
    rfl
  · cases hk
    exact ho
  · have hacc := answer_eq_zero_iff c.hw (.removeGraph g.handle o gkv)
    rw [Ctx.ownEdges_of_graph (c := c.called _) hg, Ctx.ownEdges_of_graph hg]
    show (if _ then _ else _) = _
    simp only [hacc, Call.kind, he, and_true]
    rfl

theorem addRefused_called (c : Ctx) {k : Call} (hk : k.kind ≠ .configure) :
    addRefused (c.called k) = addRefused c := by
  have henv : (c.hw.called k).env .configure = c.hw.env .configure := Hw.env_called_of_ne hk.symm
  simp only [addRefused, Ctx.called, henv, callbackRefused_of_still (c.hw.quiet_called k).still]

theorem sat_graphAddModules_none {g : GraphObj} (md : Metadata) {c : Ctx} (hg : c.sess.graph = some g) :
    Sat (graphAddModules g md none) c fun r _ => r ≠ 0 → addRefused c := by
  unfold graphAddModules
  rw [show graphAddHwEp md none = pure 0 from rfl, pure_bind, if_neg (fun h => h rfl), sat_ite, sat_pure]
  refine ⟨fun hs => ?_, fun _ h => absurd rfl h⟩
  rw [sat_bind, sat_get, hg]
  refine Sat.bind (sat_addModules g.handle g.taggedModList c) fun p c₁ h₁ => ?_
  rw [sat_bind, sat_modGraph, sat_pure]
  intro hr
  have hs : (g.state = .started || g.state = .prepared) = true := by simpa using hs
  rw [addRefused, hg, Option.any_some, hs, Bool.true_and]
  exact h₁ hr

theorem sat_graphAdd_edge (md : Metadata) {o : Owner} (ho : o.isEdge) (c : Ctx) :
    Sat (graphAdd md o none) c fun r c' => c.OwnOnly c' ∧
      ((r ≠ 0 ∧ c'.ownEdges = c.ownEdges) ∨ c.EdgeAdded o r c') := by
  unfold graphAdd
  refine sat_withGraph c (fun _ => ?_) fun g hg => ?_
  · exact ⟨(refl_of Hw.EdgesKept c.hw).ownOnly, .inl ⟨by decide, rfl⟩⟩
  rw [sat_ite, sat_pure]
  refine ⟨fun _ => ⟨(refl_of Hw.EdgesKept c.hw).ownOnly, .inl ⟨by decide, rfl⟩⟩, fun hs => ?_⟩
  obtain ⟨hown, hedges⟩ := edges_addGraph hg ho md.gkv
  rw [sat_bind, sat_onHw, sat_askGsl, sat_ite, sat_pure, lnx_answer_ne_zero_iff]
  constructor
  · intro hr
    rw [if_neg (show ¬ c.hw.accepts .addGraph from hr)] at hedges
    exact ⟨hown, .inl ⟨hr, hedges⟩⟩
  · intro hr
    have hacc : c.hw.accepts .addGraph := Decidable.not_not.1 hr
    rw [if_pos hacc] at hedges
    have hmods := (traceFrame_edgesKept.callFrame.graphAddModules g md none (c.called _)).and
      ((callFrame_graphCall.graphAddModules g md none (c.called _)).and
        (sat_graphAddModules_none md (c := c.called (.addGraph g.handle o md.gkv)) hg))
    refine hmods.mono fun r c₂ h₂ => ?_
    obtain ⟨k₂, s₂, hrefused⟩ := h₂
    refine ⟨hown.kept k₂, .inr ⟨by simpa [hg] using hs, hacc, ?_, fun h => ?_⟩⟩
    · rw [Ctx.ownEdges_of_kept (Ctx.handle_of_face s₂.graph) k₂]
      exact hedges
    · rw [← addRefused_called c (k := .addGraph g.handle o md.gkv) (by simp [Call.kind])]
      exact hrefused h

theorem sat_graphRemove_edge (md : Metadata) {o : Owner} (ho : o.isEdge) (c : Ctx)
    (hmem : c.sess.graph.isSome → o ∈ c.ownEdges) :
    Sat (graphRemove md o) c fun r c' => c.OwnOnly c' ∧
      c'.ownEdges = if r = 0 then c.ownEdges.erase o else c.ownEdges := by
  refine sat_withGraph c (fun _ => ?_) fun g hg => ?_
  · exact ⟨(refl_of Hw.EdgesKept c.hw).ownOnly, by rw [if_neg (by decide)]⟩
  obtain ⟨hown, hedges⟩ := edges_removeGraph hg (hmem (by rw [hg]; rfl)) ho md.gkv
  rw [sat_onHw, sat_askGsl]
  refine ⟨hown, hedges.trans ?_⟩
  have hacc := lnx_answer_ne_zero_iff c.hw (.removeGraph g.handle o md.gkv)
  by_cases hr : c.hw.accepts .removeGraph
  · rw [if_pos hr, if_pos (Decidable.not_not.1 fun h => hacc.1 h hr)]
  · rw [if_neg hr, if_neg (hacc.2 hr)]

/-! ## The kept edge -/

/-- The request for the edge of `id` goes wrong while the kept edge is that of `id₀`: a second edge is added, or one
that `graph_add` reports an error for, or one is removed that is not there. -/
def edgeGoesWrong (md : Option Metadata) (id₀ : Nat) (state₀ : Bool) (id : Nat) (state : Bool) (c : Ctx) : Bool :=
  if state then addsEdge md c && (if state₀ then id ≠ id₀ else addRefused c)
  else ! state₀ && id ≠ id₀ && md.isSome && c.sess.graph.isSome

theorem sat_setEdge {kind : Nat → Owner} (hkind : ∀ i, (kind i).isEdge) {S : Finset Owner} (hS : ∀ i, kind i ∉ S)
    {md : Metadata} {id₀ id : Nat} {state₀ state : Bool} {c : Ctx} (hown : c.ownEdges = keptEdge kind id₀ state₀ ∪ S)
    (hnew : ¬ (id = id₀ ∧ state = state₀)) (hok : ¬ edgeGoesWrong (some md) id₀ state₀ id state c) :
    Sat (setEdge md (kind (if state then id else id₀)) state) c fun r c' => c.OwnOnly c' ∧
      c'.ownEdges = if r = 0 then keptEdge kind id state ∪ S else keptEdge kind id₀ state₀ ∪ S := by
  cases state with
  | true =>
    refine (sat_graphAdd_edge md (hkind id) c).mono fun r c' h => ⟨h.1, ?_⟩
    rcases h.2 with ⟨hr, hsame⟩ | hadd
    · rw [if_neg hr, hsame, hown]
    · have hadds : addsEdge (some md) c := by
        rw [addsEdge, Option.isSome_some, Bool.true_and, Bool.and_eq_true]
        exact ⟨hadd.graph, hadd.accepts⟩
      simp only [edgeGoesWrong, if_true, hadds, Bool.true_and] at hok
      cases state₀ with
      | true => exact absurd ⟨by simpa using hok, rfl⟩ hnew
      | false =>
        have hr : r = 0 := by
          by_contra hr
          exact hok (hadd.refused hr)
        rw [if_pos hr, hadd.edges, hown]
        rw [show keptEdge kind id₀ false = ∅ from rfl, Finset.empty_union, Finset.insert_eq]
        rfl
  | false =>
    have hmem : c.sess.graph.isSome → kind id₀ ∈ c.ownEdges := by
      intro hg
      rw [hown]
      cases state₀ with
      | true => simp [keptEdge]
      | false =>
        have hne : id ≠ id₀ := fun h => hnew ⟨h, rfl⟩
        exact absurd (by simp [edgeGoesWrong, hne, hg]) hok
    refine (sat_graphRemove_edge md (hkind id₀) c hmem).mono fun r c' h => ⟨h.1, ?_⟩
    have herase : c.ownEdges.erase (kind id₀) = S := by
      rw [hown]
      cases state₀ with
      | true =>
        rw [keptEdge, if_pos rfl, ← Finset.insert_eq]
        exact Finset.erase_insert (hS id₀)
      | false =>
        rw [keptEdge, if_neg Bool.false_ne_true, Finset.empty_union]
        exact Finset.erase_eq_of_notMem (hS id₀)
    rw [h.2, herase, hown, show keptEdge kind id false = ∅ from rfl, Finset.empty_union]

/-- The metadata that `session_set_ec_ref` puts together. -/
def ecRefMetadata (aifId : Nat) (c : Ctx) : Option Metadata :=
  match deviceGetObj aifId c.hw, sessionGetMergedMetadataWithoutAif c.sess c.hw with
  | .ok d, some md => metadataMerge c.hw.build [some md, some (c.hw.devs d).metadata]
  | _, _ => none

/-- The metadata that `session_set_loopback` puts together. -/
def loopbackMetadata (pbId : SessId) (c : Ctx) : Option Metadata :=
  let c := { c with pool := c.pool.getOrCreate pbId (sessionObjCreate pbId) }
  match sessionGetMergedMetadata c.sess c.hw, sessionGetMergedMetadata (c.peer pbId) c.hw with
  | some md, some md' => metadataMerge c.hw.build [some md, some md']
  | _, _ => none

section

variable {c : Ctx} {Q : Int → Ctx → Prop} {enable : Bool}

theorem sat_sessionSetEcRef {aifId : Nat} (hnone : ecRefMetadata aifId c = none → ∀ r, r ≠ 0 → Q r c)
    (hsome : ∀ md, ecRefMetadata aifId c = some md → Sat (setEdge md (.ecRef aifId) enable) c Q) :
    Sat (sessionSetEcRef aifId enable) c Q := by
  unfold sessionSetEcRef
  rw [sat_bind, sat_get]
  unfold ecRefMetadata at hnone hsome
  cases hd : deviceGetObj aifId c.hw with
  | error e =>
    rw [hd] at hnone
    rw [deviceGetObj] at hd
    split at hd
    · cases hd
    · obtain rfl := Except.error.inj hd
      exact (sat_pure _ _ _).2 (hnone rfl _ (by decide))
  | ok d =>
    rw [hd] at hnone hsome
    cases hm : sessionGetMergedMetadataWithoutAif c.sess c.hw with
    | none =>
      rw [hm] at hnone
      exact (sat_pure _ _ _).2 (hnone rfl _ (show -ENOMEM ≠ 0 by decide))
    | some capture =>
      rw [hm] at hnone hsome
      cases hmd : metadataMerge c.hw.build [some capture, some (c.hw.devs d).metadata] with
      | none => simp only [hmd]; exact (sat_pure _ _ _).2 (hnone hmd _ (show -ENOMEM ≠ 0 by decide))
      | some md => simp only [hmd]; exact hsome md hmd

theorem sat_sessionSetLoopback {pbId : SessId}
    (hnone : ∀ p r, r ≠ 0 → Q r { c with pool := p })
    (hsome : ∀ p md, loopbackMetadata pbId c = some md →
      Sat (setEdge md (.loopback pbId) enable) { c with pool := p } Q) :
    Sat (sessionSetLoopback pbId enable) c Q := by
  unfold sessionSetLoopback sessionObjGet
  rw [sat_bind, sat_modify, sat_bind, sat_get]
  unfold loopbackMetadata at hsome
  have hfree (s : SessionObj) {c₁ : Ctx} {Q' : Ctx → Prop} (h : Q' c₁) : Sat (freeMergedMetadata s) c₁ fun _ => Q' := by
    unfold freeMergedMetadata
    rw [sat_ite, sat_pure]
    exact ⟨fun _ => (sat_crash _ _).2 trivial, fun _ => h⟩
  replace hnone := hnone (c.pool.getOrCreate pbId (sessionObjCreate pbId))
  replace hsome := hsome (c.pool.getOrCreate pbId (sessionObjCreate pbId))
  revert hnone hsome
  generalize ({ c with pool := c.pool.getOrCreate pbId (sessionObjCreate pbId) } : Ctx) = c₁
  intro hnone hsome
  dsimp only at hsome
  cases hc : sessionGetMergedMetadata c₁.sess c₁.hw with
  | none => exact (sat_pure _ _ _).2 (hnone _ (show -ENOMEM ≠ 0 by decide))
  | some capture =>
    cases hp : sessionGetMergedMetadata (c₁.peer pbId) c₁.hw with
    | none => exact Sat.bind (hfree _ (hnone _ (show -ENOMEM ≠ 0 by decide))) fun _ _ h => (sat_pure _ _ _).2 h
    | some playback =>
      rw [hc, hp] at hsome
      have hset : Sat (setLoopbackEdge (metadataMerge c₁.hw.build [some capture, some playback]) pbId enable) c₁ Q := by
        cases hm : metadataMerge c₁.hw.build [some capture, some playback] with
        | none => exact (sat_pure _ _ _).2 (hnone _ (show -ENOMEM ≠ 0 by decide))
        | some md => exact hsome md hm
      refine Sat.bind hset fun r c₂ h₂ => Sat.bind (hfree _ h₂) fun _ c₃ h₃ => ?_
      exact Sat.bind (hfree _ h₃) fun _ c₄ h₄ => (sat_pure _ _ _).2 h₄

end

section

variable {id₀ id : Nat} {state₀ state : Bool} {S : Finset Owner} {c : Ctx} (hnew : ¬ (id = id₀ ∧ state = state₀))

include hnew

theorem edge_ecRef (hS : ∀ i, .ecRef i ∉ S) (hown : c.ownEdges = keptEdge .ecRef id₀ state₀ ∪ S)
    (hok : ¬ edgeGoesWrong (ecRefMetadata (if state then id else id₀) c) id₀ state₀ id state c) :
    Sat (sessionSetEcRef (if state then id else id₀) state) c fun r c' => c.OwnOnly c' ∧
      c'.ownEdges = if r = 0 then keptEdge .ecRef id state ∪ S else keptEdge .ecRef id₀ state₀ ∪ S := by
  refine sat_sessionSetEcRef (fun _ r hr => ?_) fun md hmd => ?_
  · rw [if_neg hr]
    exact ⟨(refl_of Hw.EdgesKept c.hw).ownOnly, hown⟩
  · rw [hmd] at hok
    exact sat_setEdge (fun _ => rfl) hS hown hnew hok

theorem edge_loopback (hS : ∀ i, .loopback i ∉ S) (hown : c.ownEdges = keptEdge .loopback id₀ state₀ ∪ S)
    (hok : ¬ edgeGoesWrong (loopbackMetadata (if state then id else id₀) c) id₀ state₀ id state c) :
    Sat (sessionSetLoopback (if state then id else id₀) state) c fun r c' => c.OwnOnly c' ∧
      c'.ownEdges = if r = 0 then keptEdge .loopback id state ∪ S else keptEdge .loopback id₀ state₀ ∪ S := by
  refine sat_sessionSetLoopback (fun p r hr => ?_) fun p md hmd => ?_
  · rw [if_neg hr]
    exact ⟨⟨fun _ _ => rfl, fun h => h⟩, hown⟩
  · rw [hmd] at hok
    refine (sat_setEdge (c := { c with pool := p }) (fun _ => rfl) hS hown hnew hok).mono fun r c' h => ?_
    exact ⟨⟨h.1.others, h.1.removes⟩, h.2⟩

end

end Agm.Service
