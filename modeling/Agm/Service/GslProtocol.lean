import Agm.Lib.Monitor
import Agm.Service.Edges
import Agm.Service.OpFrame

/-!
# The calls on a graph come in turn

GSL gives out a handle with `gsl_open` and takes it back with `gsl_close`; every other call on it is made in between.
`gslMonitor h` reads this off the calls that name the handle `h`.  That it accepts the calls of the whole service rests
on two things: the functions of `graph.c` name no handle but that of the graph object of their session, and the graph
object is there exactly as long as GSL holds the handle.  What the object keeps as `spr_miid` is a module that was
configured on this handle (`Ctx.SprAsked`).
-/

namespace Agm.Service

open Agm.Lib

/-! ## The protocol -/

/-- The graph a call is made on; `gsl_open` names the one it asks for. -/
def Call.named : Call → Option Handle
  | .gslOpen h _ | .registerEventCb h | .gslClose h | .prepare h | .start h | .stop h | .closeWithProps h _
  | .flush h | .suspend h | .addGraph h _ _ | .changeGraph h _ | .removeGraph h _ _ | .readParams h | .writeParams h
  | .setCustomConfig h _ | .setConfig h _ _ | .configure h _ _ => some h
  | .pcmOpen _ | .pcmPrepare _ | .pcmStop _ | .pcmClose _ | .getTags _ | .taggedModuleInfo _ _ => none

inductive HandleState
  | unborn | held | closed
  deriving DecidableEq, Repr

/-- What a call on the graph does to it, if it comes in turn.  A `gsl_open` that fails gives nothing out, and a
`gsl_close` takes the handle back whatever its answer. -/
def HandleState.next (e : Event) : HandleState → Option HandleState
  | .unborn => match e.call with
    | .gslOpen _ _ => some (if e.ret = 0 then .held else .unborn)
    | _ => none
  | .held => match e.call with
    | .gslOpen _ _ => none
    | .gslClose _ => some .closed
    | _ => some .held
  | .closed => none

def gslMonitor (h : Handle) : Monitor Event HandleState where
  start := .unborn
  next s e := if e.call.named = some h then s.next e else some s

/-- The call neither opens nor closes a graph. -/
def Call.isUse : Call → Bool
  | .gslOpen _ _ | .gslClose _ => false
  | _ => true

/-- A use of the graph `own`, or a call on no graph at all. -/
structure Call.Uses (own : Option Handle) (k : Call) : Prop where
  named : ∀ h, k.named = some h → own = some h
  isUse : k.isUse

theorem Call.Uses.next {own : Option Handle} {e : Event} (hk : e.call.Uses own) {h : Handle} {s : HandleState}
    (hs : own = some h → s = .held) : (gslMonitor h).next s e = some s := by
  by_cases hn : e.call.named = some h
  · obtain rfl := hs (hk.named h hn)
    have huse := hk.isUse
    refine (if_pos hn).trans ?_
    unfold HandleState.next
    cases hc : e.call <;> rw [hc] at huse <;> first | rfl | exact Bool.noConfusion huse
  · exact if_neg hn

/-! ## The graphs that are held -/

namespace Hw

/-- Every call came in turn, and the handles of `S` are those that are held. -/
def InTurn (S : Handle → Prop) (hw : Hw) : Prop :=
  ∀ h, ∃ s, (gslMonitor h).after hw.trace = some s ∧ (s = .held ↔ S h) ∧ (hw.nextHandle ≤ h → s = .unborn)

/-- Calls were made, on no graph but `own`, and none that opens or closes it. -/
structure Used (own : Option Handle) (hw hw' : Hw) : Prop where
  next : hw'.nextHandle = hw.nextHandle
  trace : ∃ es, hw'.trace = es ++ hw.trace ∧ ∀ e ∈ es, e.call.Uses own

variable {own : Option Handle} {S T : Handle → Prop} {hw hw' : Hw}

instance : IsPreorder Hw (Used own) where
  refl hw := ⟨rfl, [], rfl, fun _ he => absurd he List.not_mem_nil⟩
  trans _ _ _ h h' := by
    obtain ⟨es, ht, hes⟩ := h.trace
    obtain ⟨es', ht', hes'⟩ := h'.trace
    refine ⟨h'.next.trans h.next, es' ++ es, by rw [ht', ht, List.append_assoc], fun e he => ?_⟩
    exact (List.mem_append.1 he).elim (hes' e) (hes e)

theorem used_called (hw : Hw) {k : Call} (hk : k.Uses own) : hw.Used own (hw.called k) :=
  ⟨rfl, [⟨k, hw.answer k⟩], rfl, fun e he => by rw [List.mem_singleton.1 he]; exact hk⟩

theorem used_of_trace (hn : hw'.nextHandle = hw.nextHandle) (ht : hw'.trace = hw.trace) : hw.Used own hw' :=
  ⟨hn, [], ht, fun _ he => absurd he List.not_mem_nil⟩

theorem InTurn.congr (h : hw.InTurn S) (hS : ∀ x, S x ↔ T x) : hw.InTurn T := by
  intro x
  obtain ⟨s, hs, hheld, hnew⟩ := h x
  exact ⟨s, hs, hheld.trans (hS x), hnew⟩

theorem InTurn.used (h : hw.InTurn S) (hown : ∀ h, own = some h → S h) (hu : hw.Used own hw') : hw'.InTurn S := by
  intro x
  obtain ⟨s, hs, hheld, hnew⟩ := h x
  obtain ⟨es, ht, hes⟩ := hu.trace
  refine ⟨s, ?_, hheld, fun hx => hnew (hu.next ▸ hx)⟩
  rw [ht]
  exact Monitor.after_append hs fun e he => (hes e he).next fun hx => hheld.2 (hown x hx)

theorem InTurn.lt (h : hw.InTurn S) {x : Handle} (hx : S x) : x < hw.nextHandle := by
  obtain ⟨s, -, hheld, hnew⟩ := h x
  by_contra hlt
  rw [hnew (Nat.not_lt.1 hlt)] at hheld
  exact absurd (hheld.2 hx) (by decide)

/-- A call on one graph leaves the others. -/
theorem after_called {k : Call} {x h : Handle} (hk : k.named = some h) (hx : x ≠ h) {s : HandleState}
    (hs : (gslMonitor x).after hw.trace = some s) : (gslMonitor x).after (hw.called k).trace = some s :=
  Monitor.after_cons_of_next hs (if_neg fun he => hx (Option.some.inj (he.symm.trans hk)))

theorem InTurn.open_refused (h : hw.InTurn S) (gkv : Gkv) (hr : hw.answer (.gslOpen hw.nextHandle gkv) ≠ 0) :
    (hw.called (.gslOpen hw.nextHandle gkv)).InTurn S := by
  intro x
  obtain ⟨s, hs, hheld, hnew⟩ := h x
  refine ⟨s, ?_, hheld, hnew⟩
  by_cases hx : x = hw.nextHandle
  · subst hx
    refine Monitor.after_cons_of_next hs ((if_pos rfl).trans ?_)
    rw [hnew (Nat.le_refl _)]
    exact congrArg some (if_neg hr)
  · exact after_called rfl hx hs

theorem InTurn.opened (h : hw.InTurn S) (gkv : Gkv) (hr : hw.answer (.gslOpen hw.nextHandle gkv) = 0) :
    InTurn (fun x => x = hw.nextHandle ∨ S x)
      { hw.called (.gslOpen hw.nextHandle gkv) with nextHandle := hw.nextHandle + 1 } := by
  intro x
  obtain ⟨s, hs, hheld, hnew⟩ := h x
  by_cases hx : x = hw.nextHandle
  · subst hx
    refine ⟨.held, ?_, iff_of_true rfl (.inl rfl), fun hle => absurd hle (Nat.not_succ_le_self _)⟩
    refine Monitor.after_cons_of_next hs ((if_pos rfl).trans ?_)
    rw [hnew (Nat.le_refl _)]
    exact congrArg some (if_pos hr)
  · refine ⟨s, after_called rfl hx hs, ?_, fun hle => hnew (Nat.le_of_succ_le hle)⟩
    rw [hheld]
    exact ⟨.inr, fun hm => hm.resolve_left hx⟩

theorem InTurn.closed (h : hw.InTurn S) {g : Handle} (hg : S g) :
    (hw.called (.gslClose g)).InTurn fun x => S x ∧ x ≠ g := by
  intro x
  obtain ⟨s, hs, hheld, hnew⟩ := h x
  by_cases hx : x = g
  · subst hx
    obtain rfl := hheld.2 hg
    refine ⟨.closed, Monitor.after_cons_of_next hs (if_pos rfl), iff_of_false (by decide) fun hm => hm.2 rfl, ?_⟩
    exact fun hle => absurd (h.lt hg) (Nat.not_lt.2 hle)
  · refine ⟨s, after_called rfl hx hs, ?_, hnew⟩
    rw [hheld]
    exact ⟨fun hm => ⟨hm, hx⟩, fun hm => hm.1⟩

end Hw

/-! ## What a function of `graph.c` calls -/

namespace Ctx

/-- The module that `spr_miid` names was configured on `own`. -/
def SprAsked (own : Option Handle) (c : Ctx) : Prop :=
  ∀ g, c.sess.graph = some g → g.sprMiid ≠ 0 →
    ∃ h, own = some h ∧ ∃ e ∈ c.hw.trace, e.call = .configure h .streamSpr g.sprMiid

/-- The session keeps its graph, and only calls on `own` were made. -/
structure Used (own : Option Handle) (c c' : Ctx) : Prop where
  handle : c'.handle = c.handle
  hw : c.hw.Used own c'.hw
  spr : c.SprAsked own → c'.SprAsked own

theorem SprAsked.later {own : Option Handle} {c c' : Ctx} (h : c.SprAsked own)
    (hg : c'.sess.graph.map GraphObj.sprMiid = c.sess.graph.map GraphObj.sprMiid) (ht : c.hw.trace <:+ c'.hw.trace) :
    c'.SprAsked own := by
  intro g' hg' hne
  obtain ⟨g, hgraph, he⟩ := Option.map_eq_some_iff.1 (hg.symm.trans (congrArg (Option.map GraphObj.sprMiid) hg'))
  obtain ⟨x, hx, e, hmem, hcall⟩ := h g hgraph (he ▸ hne)
  exact ⟨x, hx, e, ht.subset hmem, he ▸ hcall⟩

theorem used_of_hw {own : Option Handle} {c : Ctx} {hw : Hw} (h : c.hw.Used own hw) : c.Used own { c with hw := hw } := by
  obtain ⟨es, ht, -⟩ := h.trace
  exact ⟨rfl, h, fun hs => hs.later rfl ⟨es, ht.symm⟩⟩

/-- The session keeps its graph, and only calls on it were made. -/
def UsesOwn (c c' : Ctx) : Prop := c.Used c.handle c'

instance (own : Option Handle) : IsPreorder Ctx (Used own) where
  refl c := ⟨rfl, refl_of (Hw.Used own) c.hw, id⟩
  trans _ _ _ h h' := ⟨h'.handle.trans h.handle, trans_of (Hw.Used own) h.hw h'.hw, h'.spr ∘ h.spr⟩

instance : IsPreorder Ctx UsesOwn where
  refl c := refl_of (Used c.handle) c
  trans c _ _ h h' := trans_of (Used c.handle) h (h.handle ▸ h')

end Ctx

section

variable {h : Handle}

theorem used_ask {own : Option Handle} {k : Call} (hk : k.Uses own) : Within (Ctx.Used own) (onHw (ask k)) :=
  within_onHw_ask fun c => Ctx.used_of_hw (c.hw.used_called hk)

theorem used_askGsl {own : Option Handle} {k : Call} (hk : k.Uses own) : Within (Ctx.Used own) (onHw (askGsl k)) :=
  within_onHw_askGsl fun c => Ctx.used_of_hw (c.hw.used_called hk)

theorem used_modGraph {own : Option Handle} {f : GraphObj → GraphObj} (hf : ∀ g, (f g).handle = g.handle)
    (hs : ∀ g, (f g).sprMiid = g.sprMiid) : Within (Ctx.Used own) (modGraph f) := within_modify fun c => by
  have hmap {α : Type} {p : GraphObj → α} (hp : ∀ g, p (f g) = p g) :
      (c.sess.graph.map f).map p = c.sess.graph.map p := by
    rw [Option.map_map]
    exact congrArg (c.sess.graph.map ·) (funext hp)
  exact ⟨hmap hf, refl_of (Hw.Used own) c.hw, fun h => h.later (hmap hs) List.suffix_rfl⟩

/-- A call on no graph. -/
theorem uses_none {own : Option Handle} {k : Call} (hn : k.named = none) (hu : k.isUse) : k.Uses own :=
  ⟨fun _ he => absurd (hn.symm.trans he) (by simp), hu⟩

theorem used_getTags {own : Option Handle} (gkv : Gkv) : Within (Ctx.Used own) (getTagsWithModuleInfo gkv) :=
  within_bind (used_askGsl (uses_none rfl rfl)) fun _ =>
    within_ite (used_askGsl (uses_none rfl rfl)) (within_pure _)

theorem used_configureModule (m : ModuleInfo) : Within (Ctx.Used (some h)) (configureModule h m) :=
  fun c => by
    have hask : c.Used (some h) { c with
        sess := { c.sess with graph := c.sess.graph.map (·.configuring m) }
        hw := c.hw.called (.configure h m.tag m.miid) } := by
      have hcalled := Ctx.used_of_hw (c.hw.used_called (k := .configure h m.tag m.miid) ⟨fun _ he => he, rfl⟩)
      refine ⟨?_, hcalled.hw, fun hs g' hg' hne => ?_⟩
      · show (c.sess.graph.map (·.configuring m)).map GraphObj.handle = _
        rw [Option.map_map]
        exact congrArg (c.sess.graph.map ·) (funext fun g => g.handle_configuring m)
      · obtain ⟨g, hg, rfl⟩ := Option.map_eq_some_iff.1 hg'
        unfold GraphObj.configuring at hne ⊢
        split
        · next htag => exact ⟨h, rfl, _, List.mem_cons_self, by rw [htag]⟩
        · next htag =>
          rw [if_neg htag] at hne
          exact hcalled.spr hs g hg hne
    rw [configureModule, sat_bind, sat_modGraph, sat_bind, sat_onHw, sat_ask, sat_ite, sat_pure, sat_pure]
    exact ⟨fun _ => hask, fun _ => hask⟩

theorem used_prepareModule (cfg : SessionConfig) (m : ModuleInfo) :
    Within (Ctx.Used (some h)) (prepareModule h cfg m) :=
  within_bind within_get fun _ =>
    within_ite (within_pure _) <| within_ite (within_pure _) <| within_ite (within_pure _) <|
      within_ite (within_ite (within_pure _) (used_configureModule m)) (within_pure _)

theorem used_addModule (m : ModuleInfo) : Within (Ctx.Used (some h)) (addModule h m) :=
  within_bind within_get fun _ => within_ite (within_pure _) <| within_ite (within_pure _) <|
    within_ite (used_configureModule m) (within_pure _)

theorem used_changeModule (m : ModuleInfo) : Within (Ctx.Used (some h)) (changeModule h m) := by
  refine within_bind within_get fun _ => ?_
  cases m.devObj with
  | none => exact within_pure _
  | some d => exact within_ite (used_configureModule m) (within_pure _)

/-- A walk over the modules, whose list is stored afterwards. -/
theorem used_modules {body : ModuleInfo → M (Int × ModuleInfo)} (hbody : ∀ m, Within (Ctx.Used (some h)) (body m))
    (ms : List ModuleInfo) {k : Int × List ModuleInfo → M Int} (hk : ∀ p, Within (Ctx.Used (some h)) (k p)) :
    Within (Ctx.Used (some h)) (forEach body ms >>= fun p =>
      modGraph (fun g => { g with taggedModList := p.2 }) >>= fun _ => k p) :=
  within_bind (within_forEach hbody ms) fun p => within_bind (used_modGraph (fun _ => rfl) fun _ => rfl) fun _ => hk p

theorem used_setBufferParams (cfg : SessionConfig) : Within (Ctx.Used (some h)) (setBufferParams h cfg) := by
  have hread : Within (Ctx.Used (some h)) (onHw (askGsl (.readParams h))) := used_askGsl ⟨fun _ he => he, rfl⟩
  have hwrite : Within (Ctx.Used (some h)) (onHw (askGsl (.writeParams h))) := used_askGsl ⟨fun _ he => he, rfl⟩
  exact within_ite (within_bind hread fun _ => within_ite (within_pure _) hwrite) (within_ite hwrite hread)

theorem used_configureBufferParams (g : GraphObj) :
    Within (Ctx.Used (some g.handle)) (configureBufferParams g) :=
  within_bind within_get fun _ => within_ite (within_pure _) <|
    within_bind (used_setBufferParams _) fun _ => within_ite (within_pure _) <|
      within_bind (used_modGraph (fun _ => rfl) fun _ => rfl) fun _ => within_pure _

/-- The endpoint of a device is looked up and joins the module list. -/
theorem used_endpoint {own : Option Handle} {gkv : Gkv} {tag : Tag} {f : GraphObj → GraphObj}
    (hf : ∀ g, (f g).handle = g.handle) (hs : ∀ g, (f g).sprMiid = g.sprMiid) :
    Within (Ctx.Used own) (onHw (askGsl (.taggedModuleInfo gkv tag)) >>= fun ret =>
      if ret ≠ 0 then pure ret else modGraph f >>= fun _ => pure 0) :=
  within_bind (used_askGsl (uses_none rfl rfl)) fun _ =>
    within_ite (within_pure _) (within_bind (used_modGraph hf hs) fun _ => within_pure _)

theorem used_graphAddModules (g : GraphObj) (md : Metadata) (dev : Option DevId) :
    Within (Ctx.Used (some g.handle)) (graphAddModules g md dev) := by
  have hep : Within (Ctx.Used (some g.handle)) (graphAddHwEp md dev) := by
    cases dev with
    | none => exact within_pure _
    | some d => exact within_bind within_get fun _ => used_endpoint (fun _ => rfl) fun _ => rfl
  exact within_bind hep fun _ => within_ite (within_pure _) <| within_ite
    (within_bind within_get fun _ => used_modules used_addModule _ fun _ => within_pure _) (within_pure _)

theorem used_graphChangeModules {own : Option Handle} (md : Metadata) (dev : Option DevId) :
    Within (Ctx.Used own) (graphChangeModules md dev) := by
  cases dev with
  | none => exact within_pure _
  | some d => exact within_bind within_get fun _ => used_endpoint (fun _ => rfl) fun _ => rfl

theorem used_mediaConfigLoop (ret : Int) (ms : List ModuleInfo) :
    Within (Ctx.Used (some h)) (mediaConfigLoop h ret ms) := by
  induction ms generalizing ret with
  | nil => exact within_pure _
  | cons m ms ih => exact within_ite (within_bind (used_ask ⟨fun _ he => he, rfl⟩) fun r => ih r) (ih ret)

theorem own_withGraph {f : GraphObj → M Int} (hf : ∀ g, Within (Ctx.Used (some g.handle)) (f g)) :
    Within Ctx.UsesOwn (withGraph f) := fun c => by
  refine sat_withGraph c (fun _ => refl_of Ctx.UsesOwn c) fun g hg => ?_
  refine (hf g c).mono fun _ c' hu => ?_
  have hown : c.handle = some g.handle := congrArg (Option.map GraphObj.handle) hg
  exact (show c.Used c.handle c' from hown.symm ▸ hu)

end

theorem own_graphPrepare : Within Ctx.UsesOwn graphPrepare :=
  own_withGraph fun g => within_bind within_get fun _ => within_ite (within_pure _) <|
    used_modules (used_prepareModule _) _ fun _ => within_ite (within_pure _) <|
      within_bind (within_onlyIf (used_configureBufferParams g)) fun _ => within_ite (within_pure _) <|
        within_bind (used_askGsl ⟨fun _ he => he, rfl⟩) fun _ => within_ite (within_pure _) <|
          within_bind (used_modGraph (fun _ => rfl) fun _ => rfl) fun _ => within_pure _

theorem own_graphStart : Within Ctx.UsesOwn graphStart :=
  own_withGraph fun _ => within_bind (used_askGsl ⟨fun _ he => he, rfl⟩) fun _ => within_ite (within_pure _) <|
    within_bind (used_modGraph (fun _ => rfl) fun _ => rfl) fun _ => within_pure _

theorem own_graphStop (md : Option Metadata) : Within Ctx.UsesOwn (graphStop md) := by
  refine own_withGraph fun g => ?_
  cases md with
  | none =>
    exact within_ite (within_pure _) <| within_bind (used_askGsl ⟨fun _ he => he, rfl⟩) fun _ =>
      within_bind (used_modGraph (fun _ => rfl) fun _ => rfl) fun _ => within_pure _
  | some md =>
    have hclose : Within (Ctx.Used (some g.handle)) (onHw (askGsl (.closeWithProps g.handle md.gkv))) :=
      used_askGsl ⟨fun _ he => he, rfl⟩
    exact within_ite (within_bind (used_ask ⟨fun _ he => he, rfl⟩) fun _ => hclose) hclose

theorem own_graphAdd (md : Metadata) (o : Owner) (dev : Option DevId) : Within Ctx.UsesOwn (graphAdd md o dev) :=
  own_withGraph fun g => within_ite (within_pure _) <| within_bind (used_askGsl ⟨fun _ he => he, rfl⟩) fun _ =>
    within_ite (within_pure _) (used_graphAddModules g md dev)

theorem own_graphChange (md : Metadata) (dev : Option DevId) : Within Ctx.UsesOwn (graphChange md dev) :=
  own_withGraph fun _ => within_bind (used_graphChangeModules md dev) fun _ => within_ite (within_pure _) <|
    within_bind (used_askGsl ⟨fun _ he => he, rfl⟩) fun _ => within_ite (within_pure _) <|
      within_bind within_get fun _ => used_modules used_changeModule _ fun _ => within_pure _

/-- The functions that make one call on the graph. -/
theorem own_oneCall {k : GraphObj → Call} (hk : ∀ g, (k g).Uses (some g.handle)) :
    Within Ctx.UsesOwn (withGraph fun g => onHw (askGsl (k g))) := own_withGraph fun g => used_askGsl (hk g)

theorem own_graphPauseResume (pause : Bool) : Within Ctx.UsesOwn (graphPauseResume pause) := by
  refine own_withGraph fun g => ?_
  cases g.taggedModList.find? (fun m => m.tag = .pause) with
  | none => exact within_pure _
  | some m => exact used_askGsl ⟨fun _ he => he, rfl⟩

/-! ## What a device calls -/

theorem own_onHw {α : Type} {m : Prog Hw α} (hm : ∀ own, Within (Hw.Used own) m) : Within Ctx.UsesOwn (onHw m) := fun c => by
  rw [sat_onHw]
  exact (hm c.handle c.hw).mono fun _ _ hu => Ctx.used_of_hw hu

section

variable {own : Option Handle}

theorem used_modify {f : Hw → Hw} (hn : ∀ hw, (f hw).nextHandle = hw.nextHandle) (ht : ∀ hw, (f hw).trace = hw.trace) :
    Within (Hw.Used own) (modify f) := within_modify fun hw => Hw.used_of_trace (hn hw) (ht hw)

theorem used_pcm {k : Call} (hn : k.named = none) (hu : k.isUse) : Within (Hw.Used own) (ask k) := fun hw =>
  (sat_ask k hw _).2 (hw.used_called (uses_none hn hu))

theorem used_deviceOpen (d : DevId) : Within (Hw.Used own) (deviceOpen d) := by
  have hopened : Within (Hw.Used own) (modify (Hw.opened d)) := used_modify (fun _ => rfl) fun _ => rfl
  exact within_bind within_get fun _ => within_ite (within_bind hopened fun _ => within_pure _) <|
    within_bind (used_pcm rfl rfl) fun _ => within_ite (within_pure _) (within_bind hopened fun _ => within_pure _)

theorem used_devicePrepare (d : DevId) : Within (Hw.Used own) (devicePrepare d) := by
  have hprepared : Within (Hw.Used own) (modify (Hw.prepared d)) :=
    used_modify (fun hw => by unfold Hw.prepared; split <;> rfl) fun hw => by unfold Hw.prepared; split <;> rfl
  exact within_bind within_get fun _ => within_ite (within_bind hprepared fun _ => within_pure _) <|
    within_ite within_crash <| within_bind (used_pcm rfl rfl) fun _ =>
      within_ite (within_pure _) (within_bind hprepared fun _ => within_pure _)

theorem used_deviceStart (d : DevId) : Within (Hw.Used own) (deviceStart d) :=
  within_bind within_get fun _ => within_ite (within_pure _) <|
    within_bind (used_modify (f := fun hw => (hw.noteStart d).started d) (fun _ => rfl) fun _ => rfl) fun _ => within_pure _

theorem used_deviceStop (d : DevId) : Within (Hw.Used own) (deviceStop d) :=
  within_bind within_get fun _ => within_ite (within_pure _) <|
    within_bind (used_modify (fun hw => by unfold Hw.stopped; split <;> rfl) fun hw => by
      unfold Hw.stopped; split <;> rfl) fun _ => within_ite (used_pcm rfl rfl) (within_pure _)

theorem used_deviceClose (d : DevId) : Within (Hw.Used own) (deviceClose d) :=
  within_bind within_get fun _ => within_ite (within_pure _) <|
    within_bind (used_modify (fun hw => by unfold Hw.closed; split <;> rfl) fun hw => by
      unfold Hw.closed; split <;> rfl) fun _ => within_ite (used_pcm rfl rfl) (within_pure _)

end

/-! ## One operation -/

/-- Every call came in turn, and the graphs that are held are those of the other sessions and that of this one, which is
none of theirs. -/
structure Ctx.InTurn (others : Handle → Prop) (c : Ctx) : Prop where
  hw : c.hw.InTurn fun h => others h ∨ c.handle = some h
  apart : ∀ h, c.handle = some h → ¬ others h
  spr : c.SprAsked c.handle

namespace Ctx.InTurn

variable {others : Handle → Prop} {c : Ctx}

theorem usesOwn {c' : Ctx} (h : c.InTurn others) (hu : c.UsesOwn c') : c'.InTurn others := by
  refine ⟨?_, hu.handle ▸ h.apart, hu.handle ▸ hu.spr h.spr⟩
  rw [hu.handle]
  exact h.hw.used (fun _ he => .inr he) hu.hw

theorem of_none (hg : c.handle = none) (hw : c.hw.InTurn others) : c.InTurn others := by
  have hnot {x : Handle} : c.handle ≠ some x := by simp [hg]
  refine ⟨hw.congr fun x => ⟨.inl, fun h => h.resolve_right hnot⟩, fun x hx => absurd hx hnot, fun g hg' => ?_⟩
  exact absurd (congrArg (Option.map GraphObj.handle) hg') hnot

theorem hw_of_none (h : c.InTurn others) (hg : c.handle = none) : c.hw.InTurn others := by
  have hnot {x : Handle} : c.handle ≠ some x := by simp [hg]
  exact h.hw.congr fun x => ⟨fun h => h.resolve_right hnot, .inl⟩

theorem graphClose : Within (Inv (Ctx.InTurn others)) graphClose := within_inv.2 fun c hc => by
  have hclose : Sat (withGraph fun g => onHw (askGsl (.gslClose g.handle))) c fun _ c' => c'.hw.InTurn others := by
    refine sat_withGraph c (fun hg => hc.hw_of_none (congrArg (Option.map GraphObj.handle) hg)) fun g hg => ?_
    rw [sat_onHw, sat_askGsl]
    have hown : c.handle = some g.handle := congrArg (Option.map GraphObj.handle) hg
    refine (hc.hw.closed (.inr hown)).congr fun x => ⟨fun hx => hx.1.resolve_right fun he => ?_, fun hx => ⟨.inl hx, ?_⟩⟩
    · exact hx.2 (Option.some.inj (he.symm.trans hown))
    · rintro rfl
      exact hc.apart g.handle hown hx
  refine Sat.bind hclose fun _ c₁ h₁ => ?_
  rw [sat_bind, sat_modSess, sat_pure]
  exact of_none rfl h₁

theorem graphOpenGsl (md : Metadata) (mods : List ModuleInfo) (hg : c.handle = none) (hc : c.InTurn others) :
    Sat (graphOpenGsl md mods) c fun _ c' => c'.InTurn others := by
  have hw := hc.hw_of_none hg
  have hnew : ¬ others c.hw.nextHandle := fun hx => Nat.lt_irrefl _ (hw.lt hx)
  unfold Service.graphOpenGsl
  simp only [sat_bind, sat_get, sat_onHw, sat_askGsl, sat_ask, sat_ite, sat_pure, sat_modify, sat_modSess, ne_eq,
    arErrGetLnxErrCode_eq_zero_iff]
  refine ⟨fun hr => of_none hg (hw.open_refused _ hr), fun hr => ?_⟩
  -- from here on GSL holds the handle, but no session does yet
  have huses : Call.Uses (some c.hw.nextHandle) (.registerEventCb c.hw.nextHandle) := ⟨fun _ he => he, rfl⟩
  have hheld := (hw.opened md.gkv (not_not.1 hr)).used (fun _ he => .inl (Option.some.inj he).symm)
    (Hw.used_called _ huses)
  refine ⟨fun _ => of_none hg ((hheld.closed (.inl rfl)).congr fun x => ⟨fun hx => hx.1.resolve_left hx.2, ?_⟩),
    fun _ => ⟨hheld.congr fun x => ⟨?_, ?_⟩, fun x hx => Option.some.inj hx ▸ hnew, fun g hg' hne => ?_⟩⟩
  · intro hx
    refine ⟨.inr hx, ?_⟩
    rintro rfl
    exact hnew hx
  · exact fun hx => hx.elim (fun he => .inr (congrArg some he.symm)) .inl
  · exact fun hx => hx.elim .inr fun he => .inl (Option.some.inj he).symm
  · obtain rfl := Option.some.inj hg'
    exact absurd rfl hne

theorem graphOpen (md : Metadata) (dev : Option DevId) (hg : c.handle = none) (hc : c.InTurn others) :
    Sat (graphOpen md dev) c fun _ c' => c'.InTurn others := by
  unfold Service.graphOpen
  rw [sat_bind, sat_get, sat_ite]
  refine ⟨fun _ => graphOpenGsl md [] hg hc, fun _ => ?_⟩
  have htags : Within (Ctx.Used c.handle) (getTagsWithModuleInfo md.gkv) := used_getTags md.gkv
  refine Sat.bind (htags c) fun r c₁ h₁ => ?_
  have hc₁ := hc.usesOwn h₁
  rw [sat_ite, sat_pure]
  refine ⟨fun _ => hc₁, fun _ => ?_⟩
  cases collectModules md.gkv dev (c.hw.acdb.tagTable md.gkv) with
  | none => exact (sat_pure _ _ _).2 hc₁
  | some mods => exact graphOpenGsl md mods (h₁.handle.trans hg) hc₁

theorem within_own {α : Type} {m : M α} (h : Within Ctx.UsesOwn m) : Within (Inv (Ctx.InTurn others)) m :=
  h.mono fun _ _ hu hc => hc.usesOwn hu

theorem opFrame : OpFrame (Inv (Ctx.InTurn others)) where
  graphOpen md dev c hg r c' he hc := graphOpen md dev (congrArg (Option.map GraphObj.handle) hg) hc r c' he
  graphClose := graphClose
  graphPrepare := within_own own_graphPrepare
  graphStart := within_own own_graphStart
  graphStop md := within_own (own_graphStop md)
  graphAdd md o dev := within_own (own_graphAdd md o dev)
  graphChange md dev := within_own (own_graphChange md dev)
  graphRemove md o := within_own (own_oneCall fun _ => ⟨fun _ he => he, rfl⟩)
  graphSetConfig payload := within_own (own_oneCall fun _ => ⟨fun _ he => he, rfl⟩)
  graphSetConfigWithTag gkv cfg := within_own (own_oneCall fun _ => ⟨fun _ he => he, rfl⟩)
  graphPauseResume pause := within_own (own_graphPauseResume pause)
  graphFlush := within_own (own_oneCall fun _ => ⟨fun _ he => he, rfl⟩)
  graphSuspend := within_own (own_oneCall fun _ => ⟨fun _ he => he, rfl⟩)
  mediaConfig c g hg := by
    have hown : c.handle = some g.handle := congrArg (Option.map GraphObj.handle) hg
    have hloop : Within (Ctx.Used (some g.handle)) (graphSetMediaConfigDatapath g) :=
      within_bind within_get fun _ => within_ite (used_mediaConfigLoop _ _) (within_pure _)
    exact (hloop c).mono fun _ _ hu hc => hc.usesOwn (show Ctx.Used _ _ _ from hown.symm ▸ hu)
  deviceOpen d := within_own (own_onHw fun _ => used_deviceOpen d)
  devicePrepare d := within_own (own_onHw fun _ => used_devicePrepare d)
  deviceStart d := within_own (own_onHw fun _ => used_deviceStart d)
  deviceStop d := within_own (own_onHw fun _ => used_deviceStop d)
  deviceClose d := within_own (own_onHw fun _ => used_deviceClose d)
  params d := within_own (own_onHw fun _ => used_modify (fun _ => rfl) fun _ => rfl)
  modSess f hf := within_own <| within_modify fun c =>
    ⟨congrArg (Option.map GraphObj.handle) (hf c.sess), refl_of (Hw.Used c.handle) c.hw,
      fun h => h.later (congrArg (Option.map GraphObj.sprMiid) (hf c.sess)) List.suffix_rfl⟩
  sessionObjGet id := within_own <| within_modify fun c =>
    ⟨rfl, refl_of (Hw.Used c.handle) c.hw, fun h => h.later rfl List.suffix_rfl⟩

end Ctx.InTurn

/-! ## Closed sessions -/

/-- A closed session has no graph object.  The converse fails: a failed connect may close the graph of an open one. -/
def SessionObj.ClosedBare (s : SessionObj) : Prop := s.state = .closed → s.graph = none

theorem SessionObj.ClosedBare.of_face {c c' : Ctx} (h : c.sess.ClosedBare) (hs : c'.sess.state = c.sess.state)
    (hf : c'.face = c.face) : c'.sess.ClosedBare := fun hc =>
  Ctx.face_eq_none.1 (hf.trans (Ctx.face_eq_none.2 (h (hs.symm.trans hc))))

/-- Without a graph object there is none afterwards. -/
def Ctx.StaysBare (c c' : Ctx) : Prop := c.face = none → c'.face = none

instance : IsPreorder Ctx Ctx.StaysBare where
  refl _ := id
  trans _ _ _ h h' := h' ∘ h

theorem stages_staysBare : Stages Ctx.StaysBare := by
  have hstuck {α : Type} {m : M α} (h : Within Ctx.Stuck m) : Within Ctx.StaysBare m :=
    h.mono fun _ _ hs hf => (hs hf).1
  refine Stages.of_turns (fun c c' _ h hf => by rw [Ctx.face, h]; exact hf) (fun _ _ hf => hf)
    (fun _ _ h hf => h.graph.trans hf) (fun _ _ h hf => h.face.trans hf) (hstuck (stuck_withGraph _))
    (hstuck (stuck_withGraph _)) (hstuck (stuck_withGraph _)) (hstuck stages_stuck.prepareGraph)

/-- What leaves a session without a graph object as it is, and an open one open. -/
theorem closedBare_of {c : Ctx} (h : c.sess.ClosedBare) {m : M Int} (hb : Sat m c fun _ c' => c.StaysBare c')
    (ho : c.sess.state ≠ .closed → Sat m c fun _ c' => c'.sess.state ≠ .closed) :
    Sat m c fun _ c' => c'.sess.ClosedBare := by
  by_cases hc : c.sess.state = .closed
  · exact hb.mono fun _ c' hb _ => Ctx.face_eq_none.1 (hb (Ctx.face_eq_none.2 (h hc)))
  · exact (ho hc).mono fun _ c' ho hc' => absurd hc' ho

theorem closedBare_sessionObjOpen {mode : SessMode} {c : Ctx} (h : c.sess.ClosedBare) :
    Sat (sessionObjOpen mode) c fun _ c' => c'.sess.ClosedBare := by
  by_cases hc : c.sess.state = .closed
  · have hf := Ctx.face_eq_none.2 (h hc)
    have hfailed {c' : Ctx} (hface : c'.face = none ∨ c'.face = c.face) : c'.sess.ClosedBare :=
      fun _ => Ctx.face_eq_none.1 (hface.elim id fun he => he.trans hf)
    have hopened {c' : Ctx} (hst : c'.sess.state = .opened) : c'.sess.ClosedBare :=
      fun hc' => absurd (hst.symm.trans hc') (by decide)
    by_cases hm : mode.hasDevices
    · refine (sat_sessionObjOpen_devices hm hc).mono fun r c' h' => ?_
      rcases h' with ⟨-, hst, -⟩ | ⟨-, hst, -⟩ | ⟨-, -, -, hface, -⟩
      · exact hopened hst
      · exact hopened hst
      · exact hfailed hface
    · refine (sat_sessionObjOpen_bare hm hc).mono fun r c' h' => ?_
      rcases h' with ⟨-, hst, -⟩ | ⟨-, -, hface, -⟩
      · exact hopened hst
      · exact hfailed hface
  · unfold sessionObjOpen
    rw [sat_bind, sat_get, if_pos hc, sat_pure]
    exact h

theorem closedBare_sessionObjSessAifConnect {aifId : Nat} {aifState : Bool} {c : Ctx} (h : c.sess.ClosedBare) :
    Sat (sessionObjSessAifConnect aifId aifState) c fun _ c' => c'.sess.ClosedBare := by
  refine Sat.bind (sets_aifObjGet aifId c) fun r c₁ s₁ => ?_
  have hb : c₁.sess.ClosedBare := h.of_face s₁.state s₁.face
  cases r with
  | error e => exact (sat_pure _ _ _).2 hb
  | ok i =>
    rw [sat_bind, sat_get, sat_ite, sat_pure]
    refine ⟨fun _ => hb, fun _ => ?_⟩
    cases aifState with
    | false => exact (sat_hotDisconnect_face _ _ _).mono fun _ c' h' => hb.of_face h'.1 h'.2
    | true =>
      by_cases hc : c₁.sess.state = .closed
      · refine (sat_hotConnect_closed hc).mono fun _ c' h' => ?_
        rw [h']
        exact hb
      · exact (notClosed_hotConnect hc).mono fun _ c' ho hc' => absurd hc' ho

theorem closedBare_run (op : Op) {c : Ctx} (h : c.sess.ClosedBare) : Sat op.run c fun _ c' => c'.sess.ClosedBare := by
  have hsets (hop : op.onlySets) : Sat op.run c fun _ c' => c'.sess.ClosedBare :=
    (sets_run hop c).mono fun _ c' s => h.of_face s.state s.face
  have hset {state : SessionState} : Within Ctx.StaysBare (modSess fun s => { s with state := state }) :=
    within_modify fun _ hf => hf
  cases op with
  | sessAifConnect aifId aifState => exact closedBare_sessionObjSessAifConnect h
  | «open» mode => exact closedBare_sessionObjOpen h
  | prepare => exact closedBare_of h (stages_staysBare.sessionPrepare c) (within_inv.1 turns_notClosed.sessionPrepare c)
  | start => exact closedBare_of h (stages_staysBare.sessionStart hset c) (within_inv.1 turns_notClosed.sessionStart c)
  | stop => exact closedBare_of h (stages_staysBare.sessionStop hset c) (within_inv.1 turns_notClosed.sessionStop c)
  | close =>
    by_cases hc : c.sess.state = .closed
    · refine (sat_sessionClose_closed hc).mono fun _ c' h' => ?_
      rw [h']
      exact h
    · exact (sat_sessionClose_face hc).mono fun _ c' h' _ => Ctx.face_eq_none.1 h'.2
  | _ => exact hsets rfl

/-! ## Runs -/

/-- It is the graph of one of the sessions, other than those to `skip`. -/
def World.Owns (w : World) (skip : SessId → Prop) (h : Handle) : Prop :=
  ∃ s ∈ w.pool.ids, ¬ skip s ∧ (w.pool.objs s).handle = some h

structure World.InTurn (w : World) : Prop where
  bare : ∀ s ∈ w.pool.ids, (w.pool.objs s).ClosedBare
  apart : ∀ s ∈ w.pool.ids, ∀ t ∈ w.pool.ids, ∀ h,
    (w.pool.objs s).handle = some h → (w.pool.objs t).handle = some h → s = t
  hw : w.hw.InTurn (w.Owns fun _ => False)
  spr : ∀ s ∈ w.pool.ids, (w.lock s).SprAsked (w.pool.objs s).handle

namespace World

/-- The session that is locked, beside the others. -/
theorem InTurn.lock {w : World} (hw : w.InTurn) {s : SessId} (hs : s ∈ w.pool.ids) :
    (w.lock s).InTurn (w.Owns (· = s)) := by
  refine ⟨hw.hw.congr fun x => ⟨?_, ?_⟩, ?_, ?_⟩
  · rintro ⟨t, ht, -, hx⟩
    by_cases hts : t = s
    · exact .inr (hts ▸ hx)
    · exact .inl ⟨t, ht, hts, hx⟩
  · rintro (⟨t, ht, -, hx⟩ | hx)
    · exact ⟨t, ht, id, hx⟩
    · exact ⟨s, hs, id, hx⟩
  · rintro x hx ⟨t, ht, hts, hx'⟩
    exact hts (hw.apart t ht s hs x hx' hx)
  · exact hw.spr s hs

theorem owns_grow {w : World} {p : Pool SessionObj} (hp : w.pool.Grows sessionObjCreate p) (hw : Hw)
    (skip : SessId → Prop) (x : Handle) : Owns ⟨p, hw⟩ skip x ↔ w.Owns skip x := by
  constructor
  · rintro ⟨s, hs, hskip, hx⟩
    rcases hp.cases hs with ⟨hm, he⟩ | ⟨-, he⟩
    · exact ⟨s, hm, hskip, he ▸ hx⟩
    · rw [show (p.objs s).handle = none by rw [he]; rfl] at hx
      exact absurd hx (by simp)
  · rintro ⟨s, hs, hskip, hx⟩
    exact ⟨s, hp.mem hs, hskip, (hp.objs hs).symm ▸ hx⟩

/-- Sessions that were just created have no graph. -/
theorem InTurn.grow {w : World} (hw : w.InTurn) {p : Pool SessionObj} (hp : w.pool.Grows sessionObjCreate p) :
    InTurn ⟨p, w.hw⟩ := by
  have hold {s : SessId} (hs : s ∈ p.ids) {x : Handle} (hx : (p.objs s).handle = some x) :
      s ∈ w.pool.ids ∧ (w.pool.objs s).handle = some x := by
    rcases hp.cases hs with ⟨hm, he⟩ | ⟨-, he⟩
    · exact ⟨hm, he ▸ hx⟩
    · rw [show (p.objs s).handle = none by rw [he]; rfl] at hx
      exact absurd hx (by simp)
  refine ⟨fun s hs => ?_, fun s hs t ht x hx hx' => ?_, hw.hw.congr fun x => (owns_grow hp w.hw _ x).symm,
    fun s hs g hg => ?_⟩
  · show (p.objs s).ClosedBare
    rcases hp.cases hs with ⟨hm, he⟩ | ⟨-, he⟩
    · exact he ▸ hw.bare s hm
    · rw [he]
      exact fun _ => rfl
  · exact hw.apart s (hold hs hx).1 t (hold ht hx').1 x (hold hs hx).2 (hold ht hx').2
  · have hmem := (hold hs (congrArg (Option.map GraphObj.handle) hg)).1
    have hsame : p.objs s = w.pool.objs s := hp.objs hmem
    show g.sprMiid ≠ 0 → ∃ h, (p.objs s).handle = some h ∧ _
    rw [hsame]
    exact hw.spr s hmem g ((congrArg SessionObj.graph hsame).symm.trans hg)

theorem InTurn.unlock {w : World} (hw : w.InTurn) {s : SessId} (hs : s ∈ w.pool.ids) {c : Ctx}
    (hc : c.InTurn (w.Owns (· = s))) (hb : c.sess.ClosedBare) (hg : (w.lock s).Grows c) :
    (World.unlock s c).InTurn := by
  have hgrown : InTurn ⟨c.pool, w.hw⟩ := hw.grow hg.pool
  have hmem : s ∈ c.pool.ids := hg.pool.mem hs
  have hobjs (t : SessId) : (World.unlock s c).pool.objs t = if t = s then c.sess else c.pool.objs t := rfl
  -- the graph the session has now is none of the others
  have hself {t : SessId} (ht : t ∈ c.pool.ids) (hts : t ≠ s) {x : Handle} (hx : (c.pool.objs t).handle = some x) :
      c.handle ≠ some x := fun hown =>
    hc.apart x hown ((owns_grow hg.pool w.hw _ x).1 ⟨t, ht, hts, hx⟩)
  refine ⟨fun t ht => ?_, fun t ht u hu x hx hx' => ?_, hc.hw.congr fun x => ?_, fun t ht g hgr hne => ?_⟩
  · rw [hobjs]
    split
    · exact hb
    · exact hgrown.bare t ht
  · rw [hobjs] at hx hx'
    split at hx
    · next hts =>
      split at hx'
      · next hus => rw [hts, hus]
      · next hus => exact absurd hx (hself hu hus hx')
    · next hts =>
      split at hx'
      · exact absurd hx' (hself ht hts hx)
      · exact hgrown.apart t ht u hu x hx hx'
  · rw [← owns_grow hg.pool w.hw]
    constructor
    · rintro (⟨t, ht, hts, hx⟩ | hx)
      · refine ⟨t, ht, id, ?_⟩
        rw [hobjs, if_neg hts]
        exact hx
      · refine ⟨s, hmem, id, ?_⟩
        rw [hobjs, if_pos rfl]
        exact hx
    · rintro ⟨t, ht, -, hx⟩
      rw [hobjs] at hx
      split at hx
      · exact .inr hx
      · next hts => exact .inl ⟨t, ht, hts, hx⟩
  · change ((World.unlock s c).pool.objs t).graph = some g at hgr
    rw [hobjs] at hgr ⊢
    split at hgr
    · next hts => rw [if_pos hts]; exact hc.spr g hgr hne
    · next hts =>
      rw [if_neg hts]
      obtain ⟨x, hx, e, he, hcall⟩ := hgrown.spr t ht g hgr hne
      exact ⟨x, hx, e, hg.hw.trace.subset he, hcall⟩

theorem InTurn.step {w w' : World} {o : SessId × Op} {r : Int} (hw : w.InTurn) (h : exec o w = some (r, w')) :
    w'.InTurn := by
  refine exec_inv h hw (hw.grow (Pool.grows_getOrCreate _ _)) fun hs hw₀ => ?_
  have hbare : ((w.enter o).lock o.1).sess.ClosedBare := hw₀.bare o.1 hs
  have hframe : OpFrame (Inv (Ctx.InTurn ((w.enter o).Owns (· = o.1)))) := Ctx.InTurn.opFrame
  have hturn := hframe.run o.2 hbare
  refine ((hturn.and (closedBare_run o.2 hbare)).and (grows_run o.2 _)).mono fun _ c hc => ?_
  exact hw₀.unlock hs (hc.1.1 (hw₀.lock hs)) hc.1.2 hc.2

theorem inTurn_of_fresh {w : World} (h : w.Fresh) (ht : w.hw.trace = []) : w.InTurn := by
  have hnone {s : SessId} (hs : s ∈ w.pool.ids) {x : Handle} : (w.pool.objs s).handle ≠ some x := by
    rw [SessionObj.handle, h.graph s hs]
    simp
  refine ⟨fun s hs _ => h.graph s hs, fun s hs _ _ x hx _ => absurd hx (hnone hs), fun x => ⟨.unborn, ?_, ?_⟩,
    fun s hs g hg => absurd (congrArg (Option.map GraphObj.handle) hg) (hnone hs)⟩
  · rw [ht]
    rfl
  · refine ⟨iff_of_false (by decide) ?_, fun _ => rfl⟩
    rintro ⟨s, hs, -, hx⟩
    exact hnone hs hx

end World

/-- **Every call on a graph comes in turn.**  In every run of operations on any sessions, whatever GSL and ALSA answer,
each handle is opened once, used only between its `gsl_open` and its `gsl_close`, and closed once at most; the handles
that GSL still holds are exactly those of the graph objects of the sessions, no two sessions share one, and a closed
session has none. -/
theorem gsl_calls_in_turn {w₀ w : World} (h₀ : w₀.Fresh) (ht : w₀.hw.trace = [])
    (h : Runs exec (fun _ _ => True) w₀ w) :
    (∀ x, ((gslMonitor x).after w.hw.trace).isSome ∧ ((gslMonitor x).after w.hw.trace = some .held ↔
      ∃ s ∈ w.pool.ids, (w.pool.objs s).graph.map GraphObj.handle = some x)) ∧
    (∀ s ∈ w.pool.ids, ∀ t ∈ w.pool.ids, ∀ g g', (w.pool.objs s).graph = some g → (w.pool.objs t).graph = some g' →
      g.handle = g'.handle → s = t) ∧
    ∀ s ∈ w.pool.ids, (w.pool.objs s).state = .closed → (w.pool.objs s).graph = none := by
  have key : w.InTurn := h.invariant (World.inTurn_of_fresh h₀ ht) fun w o r w' hw _ he => hw.step he
  refine ⟨fun x => ?_, fun s hs t ht g g' hg hg' he => ?_, key.bare⟩
  · obtain ⟨s, hs, hheld, -⟩ := key.hw x
    refine ⟨Option.isSome_iff_exists.2 ⟨s, hs⟩, ?_⟩
    rw [hs, Option.some_inj, hheld]
    exact ⟨fun ⟨t, ht, _, hx⟩ => ⟨t, ht, hx⟩, fun ⟨t, ht, hx⟩ => ⟨t, ht, id, hx⟩⟩
  · refine key.apart s hs t ht g.handle (congrArg (Option.map GraphObj.handle) hg) ?_
    rw [he]
    exact congrArg (Option.map GraphObj.handle) hg'

/-- Two sessions on one device; the first is closed again, and the second one fails to start. -/
theorem gsl_calls_in_turn_two_sessions :
    ∃ w, Runs exec (fun _ _ => True) (World.boot fun k => if k = .start then [0, 1] else []) w ∧
      (gslMonitor 0).after w.hw.trace = some .closed ∧ (gslMonitor 1).after w.hw.trace = some .held ∧
      (gslMonitor 2).after w.hw.trace = some .unborn ∧ w.pool.ids = [1, 2] ∧
      ∃ s ∈ w.pool.ids, (w.pool.objs s).graph.map GraphObj.handle = some 1 := by
  obtain ⟨w, h, hseen⟩ := Runs.exists_of_execAll exec (fun _ _ => True)
    [(1, .sessAifConnect 0 true), (1, .open .default), (1, .setConfig { dir := RX } .invalid), (1, .prepare),
      (1, .start), (2, .sessAifConnect 0 true), (2, .open .default), (2, .start), (1, .stop), (1, .close)]
    (World.boot fun k => if k = .start then [0, 1] else [])
    (fun w => ((gslMonitor 0).after w.hw.trace, (gslMonitor 1).after w.hw.trace, (gslMonitor 2).after w.hw.trace,
      w.pool.ids)) (b := (some .closed, some .held, some .unborn, [1, 2])) (by decide +kernel)
  obtain ⟨h0, h1, h2, hids⟩ := by simpa only [Prod.mk.injEq] using hseen
  exact ⟨w, h, h0, h1, h2, hids, ((gsl_calls_in_turn (World.fresh_boot _) rfl h).1 1).2.1 h1⟩

end Agm.Service
