import Agm.Lib.Runs
import Agm.Service.GraphSpec

/-!
# The hardware endpoints of a graph object

`tagged_mod_list` has an entry for each stream module of the graph and one for the hardware endpoint of each device.
An endpoint is found by its instance id; `graph_add` appends it if it is not there, `graph_change` drops all others, and
`graph_remove` drops none.  What the entries are is read off the list with the `is_configured` flags left out: no other
function of `graph.c` changes that.
-/

namespace Agm.Service

open Agm.Lib

/-! ## The list without its flags -/

def ModuleInfo.ident (m : ModuleInfo) : ModuleInfo := { m with isConfigured := false }

/-- The entries of the graph object; none if there is no graph object. -/
def Ctx.modules (c : Ctx) : List ModuleInfo :=
  ((c.sess.graph.map (·.taggedModList)).getD []).map ModuleInfo.ident

/-- The entry joins the list, unless its instance id is there. -/
def joinEp (new : ModuleInfo) (l : List ModuleInfo) : List ModuleInfo :=
  if new.miid ∈ l.map (·.miid) then l else l ++ [new]

/-- The entry joins the list, and all endpoints with other instance ids leave it. -/
def switchEp (new : ModuleInfo) (l : List ModuleInfo) : List ModuleInfo :=
  let kept := l.filter fun m => ! (m.tag.isHwEp && m.miid != new.miid)
  if new.miid ∈ l.map (·.miid) then kept else kept ++ [new]

theorem map_miid_ident (l : List ModuleInfo) : (l.map ModuleInfo.ident).map (·.miid) = l.map (·.miid) := by
  simp [ModuleInfo.ident]

theorem ident_addHwEp (new : ModuleInfo) (l : List ModuleInfo) :
    (addHwEp new l).map ModuleInfo.ident = joinEp new.ident (l.map ModuleInfo.ident) := by
  unfold joinEp
  rw [map_miid_ident]
  induction l with
  | nil => rfl
  | cons m ms ih =>
    rw [addHwEp]
    by_cases hm : m.miid = new.miid
    · have : new.ident.miid ∈ (m :: ms).map (·.miid) := List.mem_cons.2 (.inl hm.symm)
      rw [if_pos hm, if_pos this]
      simp [ModuleInfo.ident]
    · have hne : new.ident.miid ≠ m.miid := fun h => hm h.symm
      rw [if_neg hm, List.map_cons, ih]
      by_cases hmem : new.ident.miid ∈ ms.map (·.miid) <;> simp [hmem, hne]

theorem ident_filter_keep (i : Nat) (l : List ModuleInfo) :
    (l.filter fun m => ! (m.tag.isHwEp && m.miid != i)).map ModuleInfo.ident =
      (l.map ModuleInfo.ident).filter fun m => ! (m.tag.isHwEp && m.miid != i) := by
  rw [List.filter_map]
  rfl

theorem ident_graphChange (new : ModuleInfo) (l : List ModuleInfo) :
    (if new.miid ∈ l.map (·.miid) then
        (addHwEp new l).filter fun m => ! (m.tag.isHwEp && m.miid != new.miid)
      else l.filter (fun m => ! (m.tag.isHwEp && m.miid != new.miid)) ++ [new]).map ModuleInfo.ident =
      switchEp new.ident (l.map ModuleInfo.ident) := by
  unfold switchEp
  rw [map_miid_ident]
  by_cases h : new.miid ∈ l.map (·.miid)
  · have h' : new.ident.miid ∈ l.map (·.miid) := h
    have h'' : new.ident.miid ∈ (l.map ModuleInfo.ident).map (·.miid) := by rwa [map_miid_ident]
    rw [if_pos h, if_pos h', ident_filter_keep, ident_addHwEp, joinEp, if_pos h'']
    rfl
  · have h' : new.ident.miid ∉ l.map (·.miid) := h
    rw [if_neg h, if_neg h', List.map_append, ident_filter_keep]
    rfl

/-! ## The functions of `graph.c` -/

section

variable {c : Ctx}

theorem Ctx.modules_modGraph {f : GraphObj → GraphObj} {l : List ModuleInfo → List ModuleInfo}
    (hf : ∀ g, ((f g).taggedModList).map ModuleInfo.ident = l (g.taggedModList.map ModuleInfo.ident))
    (h : c.sess.graph.isSome) :
    Ctx.modules { c with sess := { c.sess with graph := c.sess.graph.map f } } = l c.modules := by
  obtain ⟨g, hg⟩ := Option.isSome_iff_exists.1 h
  simp [Ctx.modules, hg, hf]

/-- The graph object is the same. -/
def Ctx.SameGraph (c c' : Ctx) : Prop := c'.sess.graph = c.sess.graph

instance : IsPreorder Ctx Ctx.SameGraph where
  refl _ := rfl
  trans _ _ _ h h' := Eq.trans h' h

theorem sameGraph_onHw {α : Type} (m : Prog Hw α) : Within Ctx.SameGraph (onHw m) := fun c =>
  (sat_onHw m c _).2 fun _ _ _ => rfl

/-- The graph object has the list it had. -/
def Ctx.SameList (c c' : Ctx) : Prop :=
  c'.sess.graph.map GraphObj.taggedModList = c.sess.graph.map GraphObj.taggedModList

instance : IsPreorder Ctx Ctx.SameList where
  refl _ := rfl
  trans _ _ _ h h' := Eq.trans h' h

theorem Ctx.SameGraph.sameList {c' : Ctx} (h : c.SameGraph c') : c.SameList c' :=
  congrArg (Option.map GraphObj.taggedModList) h

theorem Ctx.SameList.isSome {c' : Ctx} (h : c.SameList c') : c'.sess.graph.isSome = c.sess.graph.isSome := by
  rw [← Option.isSome_map, h, Option.isSome_map]

theorem Ctx.SameList.modules {c' : Ctx} (h : c.SameList c') : c'.modules = c.modules := by
  unfold Ctx.modules
  rw [h]

/-- A turn over the list that leaves it, and may set the flag of its entry. -/
def KeepsIdent (body : ModuleInfo → M (Int × ModuleInfo)) : Prop :=
  ∀ m c, Sat (body m) c fun p c' => c.SameList c' ∧ p.2.ident = m.ident

theorem keepsIdent_configureModule (h : Handle) : KeepsIdent (configureModule h) := by
  intro m c
  have hnote : Within Ctx.SameList (modGraph (·.configuring m)) := within_modify fun c => by
    show (c.sess.graph.map (·.configuring m)).map GraphObj.taggedModList = _
    rw [Option.map_map]
    exact congrArg (c.sess.graph.map ·) (funext fun g => g.taggedModList_configuring m)
  refine Sat.bind (hnote c) fun _ c₁ h₁ => Sat.bind (sameGraph_onHw _ c₁) fun r c₂ h₂ => ?_
  have h₂ : c.SameList c₂ := trans_of Ctx.SameList h₁ h₂.sameList
  rw [sat_ite, sat_pure, sat_pure]
  exact ⟨fun _ => ⟨h₂, rfl⟩, fun _ => ⟨h₂, rfl⟩⟩

theorem keepsIdent_prepareModule (h : Handle) (cfg : SessionConfig) : KeepsIdent (prepareModule h cfg) := by
  intro m c
  unfold prepareModule
  rw [sat_bind, sat_get]
  split_ifs
  · exact (sat_pure _ _ _).2 ⟨rfl, rfl⟩
  · exact (sat_pure _ _ _).2 ⟨rfl, rfl⟩
  · exact (sat_pure _ _ _).2 ⟨rfl, rfl⟩
  · exact (sat_pure _ _ _).2 ⟨rfl, rfl⟩
  · exact keepsIdent_configureModule h m c
  · exact (sat_pure _ _ _).2 ⟨rfl, rfl⟩

theorem keepsIdent_addModule (h : Handle) : KeepsIdent (addModule h) := by
  intro m c
  unfold addModule
  rw [sat_bind, sat_get]
  split_ifs
  · exact (sat_pure _ _ _).2 ⟨rfl, rfl⟩
  · exact (sat_pure _ _ _).2 ⟨rfl, rfl⟩
  · exact keepsIdent_configureModule h m c
  · exact (sat_pure _ _ _).2 ⟨rfl, rfl⟩

theorem keepsIdent_changeModule (h : Handle) : KeepsIdent (changeModule h) := by
  intro m c
  unfold changeModule
  rw [sat_bind, sat_get]
  cases m.devObj with
  | none => exact (sat_pure _ _ _).2 ⟨rfl, rfl⟩
  | some d =>
    show Sat (if _ then _ else _) c _
    split_ifs
    · exact keepsIdent_configureModule h m c
    · exact (sat_pure _ _ _).2 ⟨rfl, rfl⟩

theorem ident_forEach {body : ModuleInfo → M (Int × ModuleInfo)} (hbody : KeepsIdent body) (l : List ModuleInfo)
    (c : Ctx) : Sat (forEach body l) c fun p c' =>
      c.SameList c' ∧ p.2.map ModuleInfo.ident = l.map ModuleInfo.ident := by
  have hrel := forEach_rel (I := fun c' => c.SameList c') (S := fun m m' => m'.ident = m.ident) (G := fun _ _ => True)
    (fun _ => rfl) (fun m c₁ h₁ => (hbody m c₁).mono fun p c₂ h₂ =>
      ⟨trans_of Ctx.SameList h₁ h₂.1, h₂.2, fun _ => trivial⟩) l (s := c) rfl
  refine hrel.mono fun p c' h => ⟨h.1, ?_⟩
  have hlist : ∀ {l l' : List ModuleInfo}, List.Forall₂ (fun m m' => m'.ident = m.ident) l l' →
      l'.map ModuleInfo.ident = l.map ModuleInfo.ident := by
    intro l l' hl
    induction hl with
    | nil => rfl
    | cons hm _ ih => rw [List.map_cons, List.map_cons, hm, ih]
  exact hlist h.2.1

/-- The list is walked and put back. -/
theorem modules_walk {body : ModuleInfo → M (Int × ModuleInfo)} (hbody : KeepsIdent body) {l : List ModuleInfo}
    (hl : l.map ModuleInfo.ident = c.modules) (hg : c.sess.graph.isSome) :
    Sat (forEach body l >>= fun p => modGraph (fun g => { g with taggedModList := p.2 }) >>= fun _ => pure p.1) c
      fun _ c' => c'.modules = c.modules ∧ c'.sess.graph.isSome := by
  refine Sat.bind (ident_forEach hbody l c) fun p c₁ h₁ => ?_
  have hg₁ : c₁.sess.graph.isSome := by rw [h₁.1.isSome]; exact hg
  rw [sat_bind, sat_modGraph, sat_pure]
  refine ⟨?_, by rw [Option.isSome_map]; exact hg₁⟩
  rw [Ctx.modules_modGraph (l := fun _ => p.2.map ModuleInfo.ident) (fun _ => rfl) hg₁, h₁.2, hl]

theorem modules_modGraph_same {f : GraphObj → GraphObj} (hf : ∀ g, (f g).taggedModList = g.taggedModList) (c : Ctx) :
    Ctx.modules { c with sess := { c.sess with graph := c.sess.graph.map f } } = c.modules := by
  cases hg : c.sess.graph with
  | none => simp [Ctx.modules, hg]
  | some g => simp [Ctx.modules, hg, hf]

/-- The list stays, but for flags. -/
def Ctx.SameModules (c c' : Ctx) : Prop := c'.modules = c.modules

instance : IsPreorder Ctx Ctx.SameModules where
  refl _ := rfl
  trans _ _ _ h h' := Eq.trans h' h

theorem sameModules_onHw {α : Type} (m : Prog Hw α) : Within Ctx.SameModules (onHw m) :=
  (sameGraph_onHw m).mono fun _ _ h => h.sameList.modules

theorem sameModules_modGraph {f : GraphObj → GraphObj} (hf : ∀ g, (f g).taggedModList = g.taggedModList) :
    Within Ctx.SameModules (modGraph f) := fun c => (sat_modGraph f c _).2 (modules_modGraph_same hf c)

theorem Ctx.modules_of_graph {g : GraphObj} (h : c.sess.graph = some g) :
    c.modules = g.taggedModList.map ModuleInfo.ident := by
  simp [Ctx.modules, h]

theorem sameModules_graphPrepare : Within Ctx.SameModules graphPrepare := by
  have hbuf (g : GraphObj) : Within Ctx.SameModules (configureBufferParams g) :=
    within_bind within_get fun c => within_ite (within_pure _) <| within_bind
      (within_ite (within_bind (sameModules_onHw _) fun _ => within_ite (within_pure _) (sameModules_onHw _))
        (within_ite (sameModules_onHw _) (sameModules_onHw _))) fun _ =>
      within_ite (within_pure _) <| within_bind (sameModules_modGraph fun _ => rfl) fun _ => within_pure _
  intro c
  refine sat_withGraph c (fun _ => rfl) fun g hg => ?_
  rw [sat_bind, sat_get, sat_ite, sat_pure]
  refine ⟨fun _ => rfl, fun _ => Sat.bind (ident_forEach (keepsIdent_prepareModule _ _) g.taggedModList c)
    fun p c₁ h₁ => ?_⟩
  have hg₁ : c₁.sess.graph.isSome := by rw [h₁.1.isSome, hg]; rfl
  rw [sat_bind, sat_modGraph]
  have hlist : Ctx.modules { c₁ with sess := { c₁.sess with graph := c₁.sess.graph.map fun g =>
      { g with taggedModList := p.2 } } } = c.modules := by
    rw [Ctx.modules_modGraph (l := fun _ => p.2.map ModuleInfo.ident) (fun _ => rfl) hg₁, h₁.2, Ctx.modules_of_graph hg]
  have hrest : Within Ctx.SameModules (if p.1 ≠ 0 then pure p.1 else do
      let ret ← onlyIf (c.sess.streamConfig.sessMode ≠ .noHost ∧ c.sess.streamConfig.sessMode ≠ .noConfig)
        (configureBufferParams g)
      if ret ≠ 0 then pure ret
      else do
        let ret ← onHw (askGsl (.prepare g.handle))
        if ret ≠ 0 then pure ret
        else do
          modGraph fun g => { g with state := .prepared }
          pure 0) :=
    within_ite (within_pure _) <| within_bind (within_onlyIf (hbuf g)) fun _ => within_ite (within_pure _) <|
      within_bind (sameModules_onHw _) fun _ => within_ite (within_pure _) <|
        within_bind (sameModules_modGraph fun _ => rfl) fun _ => within_pure _
  exact (hrest _).mono fun _ _ h => Eq.trans h hlist

theorem sameModules_graphStart : Within Ctx.SameModules graphStart :=
  within_withGraph fun _ => within_bind (sameModules_onHw _) fun _ => within_ite (within_pure _) <|
    within_bind (sameModules_modGraph fun _ => rfl) fun _ => within_pure _

theorem sameModules_graphStop (md : Option Metadata) : Within Ctx.SameModules (graphStop md) := by
  refine within_withGraph fun g => ?_
  cases md with
  | some md =>
    exact within_ite (within_bind (sameModules_onHw _) fun _ => sameModules_onHw _) (sameModules_onHw _)
  | none =>
    exact within_ite (within_pure _) <| within_bind (sameModules_onHw _) fun _ =>
      within_bind (sameModules_modGraph fun _ => rfl) fun _ => within_pure _

theorem sameModules_graphRemove (md : Metadata) (o : Owner) : Within Ctx.SameModules (graphRemove md o) :=
  within_withGraph fun _ => sameModules_onHw _

/-- A call to GSL leaves the graph object and what is read off the ACDB. -/
theorem sat_onHw_askGsl_graph (k : Call) (c : Ctx) : Sat (onHw (askGsl k)) c fun _ c' =>
    c'.sess = c.sess ∧ ∀ md d, hwEpModule md d c'.hw = hwEpModule md d c.hw := by
  rw [sat_onHw, sat_askGsl]
  exact ⟨rfl, fun _ _ => rfl⟩

theorem modules_graphAddHwEp {md : Metadata} {dev : Option DevId} (hg : c.sess.graph.isSome) :
    Sat (graphAddHwEp md dev) c fun _ c' => c'.sess.graph.isSome ∧ (c'.modules = c.modules ∨
      ∃ d, dev = some d ∧ c'.modules = joinEp (hwEpModule md d c.hw) c.modules) := by
  cases dev with
  | none => exact (sat_pure _ _ _).2 ⟨hg, .inl rfl⟩
  | some d =>
    show Sat (_ >>= _) c _
    rw [sat_bind, sat_get]
    refine Sat.bind (sat_onHw_askGsl_graph _ c) fun r c₁ h₁ => ?_
    have hg₁ : c₁.sess.graph.isSome := by rw [h₁.1]; exact hg
    have hl₁ : c₁.modules = c.modules := by simp only [Ctx.modules, h₁.1]
    rw [sat_ite, sat_pure, sat_bind, sat_modGraph, sat_pure]
    refine ⟨fun _ => ⟨hg₁, .inl hl₁⟩, fun _ => ⟨by rw [Option.isSome_map]; exact hg₁, .inr ⟨d, rfl, ?_⟩⟩⟩
    rw [Ctx.modules_modGraph (l := joinEp (hwEpModule md d c.hw).ident) (fun g => ident_addHwEp _ _) hg₁, hl₁]
    rfl

/-- `graph_add`. -/
theorem modules_graphAdd (md : Metadata) (o : Owner) (dev : Option DevId) (c : Ctx) :
    Sat (graphAdd md o dev) c fun _ c' => c'.modules = c.modules ∨
      ∃ d, dev = some d ∧ c'.modules = joinEp (hwEpModule md d c.hw) c.modules := by
  refine sat_withGraph c (fun _ => .inl rfl) fun g hg => ?_
  rw [sat_ite, sat_pure]
  refine ⟨fun _ => .inl rfl, fun _ => Sat.bind (sat_onHw_askGsl_graph _ c) fun r c₁ h₁ => ?_⟩
  have hg₁ : c₁.sess.graph.isSome := by rw [h₁.1, hg]; rfl
  have hl₁ : c₁.modules = c.modules := by simp only [Ctx.modules, h₁.1]
  rw [sat_ite, sat_pure]
  refine ⟨fun _ => .inl hl₁, fun _ => ?_⟩
  unfold graphAddModules
  refine Sat.bind (modules_graphAddHwEp hg₁) fun r c₂ h₂ => ?_
  obtain ⟨hg₂, hl₂⟩ := h₂
  have hl₂ : c₂.modules = c.modules ∨ ∃ d, dev = some d ∧ c₂.modules = joinEp (hwEpModule md d c.hw) c.modules := by
    simp only [hl₁, h₁.2] at hl₂
    exact hl₂
  rw [sat_ite, sat_pure, sat_ite, sat_pure]
  refine ⟨fun _ => hl₂, fun _ => ⟨fun _ => ?_, fun _ => hl₂⟩⟩
  rw [sat_bind, sat_get]
  refine (modules_walk (keepsIdent_addModule g.handle) rfl hg₂).mono fun _ c₃ h₃ => ?_
  rw [h₃.1]
  exact hl₂

theorem modules_graphChangeModules {md : Metadata} {dev : Option DevId} (hg : c.sess.graph.isSome) :
    Sat (graphChangeModules md dev) c fun r c' => c'.sess.graph.isSome ∧
      ((c'.modules = c.modules ∧ ∀ d, dev = some d → r ≠ 0) ∨
        ∃ d, dev = some d ∧ c'.modules = switchEp (hwEpModule md d c.hw) c.modules) := by
  cases dev with
  | none => exact (sat_pure _ _ _).2 ⟨hg, .inl ⟨rfl, fun _ h => nomatch h⟩⟩
  | some d =>
    show Sat (_ >>= _) c _
    rw [sat_bind, sat_get]
    refine Sat.bind (sat_onHw_askGsl_graph _ c) fun r c₁ h₁ => ?_
    have hg₁ : c₁.sess.graph.isSome := by rw [h₁.1]; exact hg
    have hl₁ : c₁.modules = c.modules := by simp only [Ctx.modules, h₁.1]
    rw [sat_ite, sat_pure, sat_bind, sat_modGraph, sat_pure]
    refine ⟨fun hr => ⟨hg₁, .inl ⟨hl₁, fun _ _ => hr⟩⟩, fun _ => ⟨by rw [Option.isSome_map]; exact hg₁, .inr ⟨d, rfl, ?_⟩⟩⟩
    rw [Ctx.modules_modGraph (l := switchEp (hwEpModule md d c.hw).ident) (fun g => ident_graphChange _ _) hg₁, hl₁]
    rfl

/-- `graph_change`. -/
theorem modules_graphChange (md : Metadata) (dev : Option DevId) (c : Ctx) :
    Sat (graphChange md dev) c fun r c' => (c'.modules = c.modules ∧ ∀ d, dev = some d → r ≠ 0) ∨
      ∃ d, dev = some d ∧ c'.modules = switchEp (hwEpModule md d c.hw) c.modules := by
  refine sat_withGraph c (fun _ => .inl ⟨rfl, fun _ _ => by decide⟩) fun g hg => ?_
  refine Sat.bind (modules_graphChangeModules (by rw [hg]; rfl)) fun r c₁ h₁ => ?_
  obtain ⟨hg₁, hl₁⟩ := h₁
  rw [sat_ite, sat_pure]
  refine ⟨fun _ => hl₁, fun hr => ?_⟩
  -- from here on the list stays
  have hl₁ : (c₁.modules = c.modules ∧ ∀ d, dev ≠ some d) ∨
      ∃ d, dev = some d ∧ c₁.modules = switchEp (hwEpModule md d c.hw) c.modules :=
    hl₁.imp_left fun h => ⟨h.1, fun d hd => h.2 d hd (not_not.1 hr)⟩
  have hend {r : Int} {c' : Ctx} (h : c'.modules = c₁.modules) :
      (c'.modules = c.modules ∧ ∀ d, dev = some d → r ≠ 0) ∨
        ∃ d, dev = some d ∧ c'.modules = switchEp (hwEpModule md d c.hw) c.modules := by
    rw [h]
    exact hl₁.imp_left fun h => ⟨h.1, fun d hd => absurd hd (h.2 d)⟩
  refine Sat.bind (sameGraph_onHw _ c₁) fun r c₂ h₂ => ?_
  have hg₂ : c₂.sess.graph.isSome := by rw [h₂]; exact hg₁
  rw [sat_ite, sat_pure]
  refine ⟨fun _ => hend h₂.sameList.modules, fun _ => ?_⟩
  rw [sat_bind, sat_get]
  exact (modules_walk (keepsIdent_changeModule g.handle) rfl hg₂).mono fun _ c₃ h₃ => hend (h₃.1.trans h₂.sameList.modules)

end

/-! ## The invariant -/

def hwEps (l : List ModuleInfo) : List ModuleInfo := l.filter (·.tag.isHwEp)

def streamModules (l : List ModuleInfo) : List ModuleInfo := l.filter (! ·.tag.isHwEp)

/-- The stream modules are `streams`, and each endpoint has the tag and the instance id of the device it is bound to;
no instance id occurs twice among them. -/
structure Endpoints (tagOf : DevId → Tag) (ep : DevId → Nat) (known : DevId → Prop) (streams l : List ModuleInfo) :
    Prop where
  streams : streamModules l = streams
  bound : ∀ m ∈ hwEps l, ∃ d, m.devObj = some d ∧ known d ∧ m.tag = tagOf d ∧ m.miid = ep d
  distinct : ((hwEps l).map (·.miid)).Nodup

section

variable {tagOf : DevId → Tag} {ep : DevId → Nat} {known : DevId → Prop} {streams l : List ModuleInfo}
  {new : ModuleInfo} {d : DevId}

/-- The entry of a device. -/
structure ModuleInfo.IsFor (tagOf : DevId → Tag) (ep : DevId → Nat) (d : DevId) (m : ModuleInfo) : Prop where
  isHwEp : m.tag.isHwEp
  devObj : m.devObj = some d
  tag : m.tag = tagOf d
  miid : m.miid = ep d

theorem hwEps_append (l l' : List ModuleInfo) : hwEps (l ++ l') = hwEps l ++ hwEps l' := List.filter_append ..

theorem streamModules_append (l l' : List ModuleInfo) :
    streamModules (l ++ l') = streamModules l ++ streamModules l' := List.filter_append ..

theorem hwEps_keep (i : Nat) (l : List ModuleInfo) :
    hwEps (l.filter fun m => ! (m.tag.isHwEp && m.miid != i)) = (hwEps l).filter fun m => m.miid = i := by
  unfold hwEps
  rw [List.filter_filter, List.filter_filter]
  refine List.filter_congr fun m _ => ?_
  cases m.tag.isHwEp <;> by_cases h : m.miid = i <;> simp [h]

theorem streamModules_keep (i : Nat) (l : List ModuleInfo) :
    streamModules (l.filter fun m => ! (m.tag.isHwEp && m.miid != i)) = streamModules l := by
  unfold streamModules
  rw [List.filter_filter]
  refine List.filter_congr fun m _ => ?_
  cases m.tag.isHwEp <;> simp

theorem Endpoints.append (h : Endpoints tagOf ep known streams l) (hnew : new.IsFor tagOf ep d) (hd : known d)
    (hfresh : new.miid ∉ (hwEps l).map (·.miid)) : Endpoints tagOf ep known streams (l ++ [new]) := by
  have heps : hwEps [new] = [new] := by simp [hwEps, hnew.isHwEp]
  have hstreams : streamModules [new] = [] := by simp [streamModules, hnew.isHwEp]
  refine ⟨?_, ?_, ?_⟩
  · rw [streamModules_append, hstreams, List.append_nil]
    exact h.streams
  · intro m hm
    rw [hwEps_append, heps, List.mem_append, List.mem_singleton] at hm
    rcases hm with hm | rfl
    · exact h.bound m hm
    · exact ⟨d, hnew.devObj, hd, hnew.tag, hnew.miid⟩
  · rw [hwEps_append, heps, List.map_append, List.nodup_append]
    refine ⟨h.distinct, List.nodup_singleton _, ?_⟩
    intro i hi j hj hij
    rw [List.map_singleton, List.mem_singleton] at hj
    exact hfresh (hj ▸ hij ▸ hi)

theorem Endpoints.keep (h : Endpoints tagOf ep known streams l) (i : Nat) :
    Endpoints tagOf ep known streams (l.filter fun m => ! (m.tag.isHwEp && m.miid != i)) := by
  refine ⟨(streamModules_keep i l).trans h.streams, ?_, ?_⟩
  · intro m hm
    rw [hwEps_keep] at hm
    exact h.bound m (List.mem_of_mem_filter hm)
  · rw [hwEps_keep]
    exact h.distinct.sublist (List.filter_sublist.map _)

theorem miid_of_hwEps {i : Nat} (hi : i ∈ (hwEps l).map (·.miid)) : i ∈ l.map (·.miid) := by
  obtain ⟨m, hm, rfl⟩ := List.mem_map.1 hi
  exact List.mem_map.2 ⟨m, List.mem_of_mem_filter hm, rfl⟩

theorem Endpoints.join (h : Endpoints tagOf ep known streams l) (hnew : new.IsFor tagOf ep d) (hd : known d) :
    Endpoints tagOf ep known streams (joinEp new l) := by
  unfold joinEp
  split
  · exact h
  · rename_i hfresh
    exact h.append hnew hd fun hi => hfresh (miid_of_hwEps hi)

theorem Endpoints.switch (h : Endpoints tagOf ep known streams l) (hnew : new.IsFor tagOf ep d) (hd : known d) :
    Endpoints tagOf ep known streams (switchEp new l) := by
  unfold switchEp
  dsimp only
  split
  · exact h.keep _
  · rename_i hfresh
    refine (h.keep _).append hnew hd fun hi => hfresh (miid_of_hwEps ?_)
    rw [hwEps_keep] at hi
    exact (List.filter_sublist.map _).subset hi

/-- A list without duplicates under `f` whose elements are all the same under `f`. -/
theorem eq_singleton_of_nodup {α β : Type} {f : α → β} {l : List α} {i : β} (hl : (l.map f).Nodup)
    (hi : ∀ x ∈ l, f x = i) {x : α} (hx : x ∈ l) : l = [x] := by
  match l, hl, hi, hx with
  | [y], _, _, hx => rw [List.mem_singleton.1 hx]
  | y :: z :: _, hl, hi, _ =>
    have hyz : f y = f z := by rw [hi y (by simp), hi z (by simp)]
    simp [hyz] at hl

/-- **A switch leaves one endpoint, that of its device**, if no other entry has the instance id of the device. -/
theorem Endpoints.switch_unique (h : Endpoints tagOf ep known streams l) (hnew : new.IsFor tagOf ep d) (hd : known d)
    (hown : ∀ d', known d' → tagOf d' = tagOf d → ep d' = ep d → d' = d)
    (hid : ∀ m ∈ l, m.miid = new.miid → m.tag = new.tag) :
    ∃ m, hwEps (switchEp new l) = [m] ∧ m.IsFor tagOf ep d := by
  unfold switchEp
  dsimp only
  split
  · rename_i hpresent
    obtain ⟨m, hm, hmi⟩ := List.mem_map.1 hpresent
    have htag : m.tag = new.tag := hid m hm hmi
    have hep : m ∈ hwEps l := List.mem_filter.2 ⟨hm, by rw [htag]; exact hnew.isHwEp⟩
    have hone : hwEps (l.filter fun m => ! (m.tag.isHwEp && m.miid != new.miid)) = [m] := by
      rw [hwEps_keep]
      refine eq_singleton_of_nodup (i := new.miid) (h.distinct.sublist (List.filter_sublist.map _)) ?_ ?_
      · intro m' hm'
        simpa using (List.mem_filter.1 hm').2
      · exact List.mem_filter.2 ⟨hep, by simpa using hmi⟩
    obtain ⟨d', hdev, hknown, htag', hmi'⟩ := h.bound m hep
    obtain rfl : d' = d := by
      refine hown d' hknown ?_ ?_
      · rw [← htag', htag, hnew.tag]
      · rw [← hmi', hmi, hnew.miid]
    exact ⟨m, hone, ⟨by rw [htag]; exact hnew.isHwEp, hdev, htag', hmi'⟩⟩
  · rename_i hfresh
    refine ⟨new, ?_, hnew⟩
    have hnone : (hwEps l).filter (fun m => m.miid = new.miid) = [] := by
      refine List.filter_eq_nil_iff.2 fun m hm hmi => hfresh ?_
      exact List.mem_map.2 ⟨m, List.mem_of_mem_filter hm, by simpa using hmi⟩
    rw [hwEps_append, hwEps_keep, hnone]
    simp [hwEps, hnew.isHwEp]

end

/-! ## Opening -/

theorem not_isHwEp_of_stream {t : Tag} (h : t ∈ streamModuleTags) : ¬ t.isHwEp := by
  revert h
  cases t <;> simp [streamModuleTags, Tag.isHwEp]

section

variable {gkv : Gkv} {d : DevId} {mods : List ModuleInfo}

/-- The entries come from the table, in its order. -/
theorem collectModules_sublist {dev : Option DevId} {table : List TagEntry}
    (h : collectModules gkv dev table = some mods) : (mods.map (·.tag)).Sublist (table.map (·.tagId)) := by
  induction table generalizing mods with
  | nil =>
    obtain rfl : [] = mods := Option.some.inj h
    exact .slnil
  | cons e table ih =>
    rw [collectModules] at h
    split_ifs at h
    · obtain ⟨ms, hms, rfl⟩ := Option.map_eq_some_iff.1 h
      exact (ih hms).cons_cons _
    · obtain ⟨ms, hms, rfl⟩ := Option.map_eq_some_iff.1 h
      exact (ih hms).cons_cons _
    · exact (ih h).cons _

theorem firstModule_of_singleton {e : TagEntry} {p : Nat × Nat} (h : e.modules = [p]) (rest : List TagEntry) :
    firstModule e rest = p := by
  simp [firstModule, h]

/-- An endpoint entry has the instance id under its tag, and is bound to the device of the call. -/
theorem collectModules_hwEp {table : List TagEntry} (hne : ∀ e ∈ table, e.modules ≠ [])
    (h : collectModules gkv (some d) table = some mods) {m : ModuleInfo} (hm : m ∈ mods) (hep : m.tag.isHwEp) :
    m.devObj = some d ∧ ∃ e ∈ table, e.tagId = m.tag ∧ ∃ p, e.modules = [p] ∧ m.miid = p.2 := by
  induction table generalizing mods with
  | nil =>
    obtain rfl : [] = mods := Option.some.inj h
    cases hm
  | cons e table ih =>
    have hne' : ∀ e ∈ table, e.modules ≠ [] := fun e he => hne e (List.mem_cons_of_mem _ he)
    have hlater {ms : List ModuleInfo} (hms : collectModules gkv (some d) table = some ms) (hm : m ∈ ms) :
        m.devObj = some d ∧ ∃ e' ∈ e :: table, e'.tagId = m.tag ∧ ∃ p, e'.modules = [p] ∧ m.miid = p.2 := by
      obtain ⟨hdev, e', he', hrest⟩ := ih hne' hms hm
      exact ⟨hdev, e', List.mem_cons_of_mem _ he', hrest⟩
    rw [collectModules] at h
    split_ifs at h with hstream hmany hdev hmany'
    · obtain ⟨ms, hms, rfl⟩ := Option.map_eq_some_iff.1 h
      rcases List.mem_cons.1 hm with rfl | hm
      · exact absurd hep (not_isHwEp_of_stream hstream)
      · exact hlater hms hm
    · obtain ⟨ms, hms, rfl⟩ := Option.map_eq_some_iff.1 h
      rcases List.mem_cons.1 hm with rfl | hm
      · obtain ⟨p, hp⟩ : ∃ p, e.modules = [p] := by
          have := hne e List.mem_cons_self
          match hmod : e.modules, this, hmany' with
          | [p], _, _ => exact ⟨p, rfl⟩
          | _ :: _ :: _, _, hmany' => simp at hmany'
        exact ⟨rfl, e, List.mem_cons_self, rfl, p, hp, by rw [firstModule_of_singleton hp]⟩
      · exact hlater hms hm
    · exact hlater h hm

theorem modules_graphOpen {md : Metadata} {dev : Option DevId} {c : Ctx} (hg : c.sess.graph = none) :
    Sat (graphOpen md dev) c fun _ c' => c'.modules = [] ∨
      ∃ mods, collectModules md.gkv dev (c.hw.acdb.tagTable md.gkv) = some mods ∧
        c'.modules = mods.map ModuleInfo.ident := by
  have hnone {c' : Ctx} (h : c'.sess.graph = none) : c'.modules = [] := by simp [Ctx.modules, h]
  have hopen (mods : List ModuleInfo) {c : Ctx} (hg : c.sess.graph = none) : Sat (graphOpenGsl md mods) c fun _ c' =>
      c'.modules = [] ∨ c'.modules = mods.map ModuleInfo.ident := by
    unfold graphOpenGsl
    simp only [sat_bind, sat_get, sat_onHw, sat_askGsl, sat_ask, sat_ite, sat_pure, sat_modify, sat_modSess]
    exact ⟨fun _ => .inl (hnone hg), fun _ => ⟨fun _ => .inl (hnone hg), fun _ => .inr rfl⟩⟩
  unfold graphOpen
  rw [sat_bind, sat_get, sat_ite]
  refine ⟨fun _ => (hopen [] hg).mono fun _ c' h => .inl (h.elim id id), fun _ => ?_⟩
  have htags : Within Ctx.SameGraph (getTagsWithModuleInfo md.gkv) :=
    within_bind (sameGraph_onHw _) fun _ => within_ite (sameGraph_onHw _) (within_pure _)
  refine Sat.bind (htags c) fun r c₁ h₁ => ?_
  have hg₁ : c₁.sess.graph = none := h₁.trans hg
  rw [sat_ite, sat_pure]
  refine ⟨fun _ => .inl (hnone hg₁), fun _ => ?_⟩
  cases hc : collectModules md.gkv dev (c.hw.acdb.tagTable md.gkv) with
  | none => exact (sat_pure _ _ _).2 (.inl (hnone hg₁))
  | some mods => exact (hopen mods hg₁).mono fun _ c' h => h.imp_right fun h => ⟨mods, rfl, h⟩

end

/-! ## Runs of calls on a graph -/

/-- What GSL promises, for the devices that key vectors contain (`on`): an endpoint has an instance id of its own among
those of its direction, the same for every key vector; the tag table lists each tag once, with its modules. -/
structure Hw.OwnEndpoints (hw : Hw) (ep : DevId → Nat) (on : Gkv → DevId → Prop) : Prop where
  own : ∀ gkv gkv' d d', on gkv d → on gkv' d' → hwEpTag (hw.devs d) = hwEpTag (hw.devs d') → ep d = ep d' → d = d'
  module : ∀ gkv d, on gkv d → (hw.acdb.taggedModule gkv (hwEpTag (hw.devs d))).2 = ep d
  table : ∀ gkv d, on gkv d → ∀ e ∈ hw.acdb.tagTable gkv, e.tagId = hwEpTag (hw.devs d) →
    ∀ p, e.modules = [p] → p.2 = ep d
  tags : ∀ gkv, ((hw.acdb.tagTable gkv).map (·.tagId)).Nodup
  modules : ∀ gkv, ∀ e ∈ hw.acdb.tagTable gkv, e.modules ≠ []

/-- The calls on the graph object. -/
inductive GraphOp
  | add (md : Metadata) (owner : Owner) (dev : Option DevId)
  | change (md : Metadata) (dev : Option DevId)
  | remove (md : Metadata) (owner : Owner)
  | prepare | start | stop (md : Option Metadata)
  deriving DecidableEq, Repr

namespace GraphOp

def run : GraphOp → M Int
  | .add md owner dev => graphAdd md owner dev
  | .change md dev => graphChange md dev
  | .remove md owner => graphRemove md owner
  | .prepare => graphPrepare
  | .start => graphStart
  | .stop md => graphStop md

/-- The device a call brings, with its key vector. -/
def device : GraphOp → Option (Metadata × DevId)
  | .add md _ (some d) | .change md (some d) => some (md, d)
  | _ => none

end GraphOp

/-- What may have happened since the last call on the graph object: anything but to the object itself, the ACDB and the
directions of the devices. -/
structure Ctx.Meanwhile (c c₁ : Ctx) : Prop where
  graph : c₁.sess.graph = c.sess.graph
  acdb : c₁.hw.acdb = c.hw.acdb
  dir : ∀ d, (c₁.hw.devs d).dir = (c.hw.devs d).dir

/-- A call, with what it finds. -/
def graphExec (o : GraphOp × Ctx) (_ : Ctx) : Option (Int × Ctx) := o.1.run o.2

/-- The graph of the key vector also has an endpoint of the direction that the device does not have. -/
def opensBothWays (md : Metadata) (d : DevId) (hw : Hw) : Bool :=
  (hw.acdb.tagTable md.gkv).any fun e => e.tagId.isHwEp && e.tagId ≠ hwEpTag (hw.devs d)

/-- An entry that is not an endpoint of the direction of the device has the instance id GSL gives for the device. -/
def sharesId (op : GraphOp) (c : Ctx) : Bool :=
  match op.device with
  | none => false
  | some (md, d) =>
    c.modules.any fun m => m.miid = (hwEpModule md d c.hw).miid && m.tag ≠ hwEpTag (c.hw.devs d)

section

variable {ep : DevId → Nat} {on : Gkv → DevId → Prop} {hw : Hw} {md : Metadata} {d : DevId} {c c₁ : Ctx}
  {streams : List ModuleInfo}

theorem hwEpTag_of_dir {o o' : DeviceObj} (h : o'.dir = o.dir) : hwEpTag o' = hwEpTag o := by
  unfold hwEpTag
  rw [h]

theorem isHwEp_hwEpTag (o : DeviceObj) : (hwEpTag o).isHwEp := by
  unfold hwEpTag
  split <;> rfl

/-- The graph object has the endpoints of `hw`, whose ACDB and directions are still the same. -/
structure Ctx.Lists (hw : Hw) (ep : DevId → Nat) (on : Gkv → DevId → Prop) (streams : List ModuleInfo) (c : Ctx) :
    Prop where
  endpoints : Endpoints (fun d => hwEpTag (hw.devs d)) ep (fun d => ∃ gkv, on gkv d) streams c.modules
  acdb : c.hw.acdb = hw.acdb
  dir : ∀ d, (c.hw.devs d).dir = (hw.devs d).dir

theorem Ctx.Lists.meanwhile (h : c.Lists hw ep on streams) (hm : c.Meanwhile c₁) : c₁.Lists hw ep on streams where
  endpoints := by
    have : c₁.modules = c.modules := (Ctx.SameGraph.sameList hm.graph).modules
    rw [this]
    exact h.endpoints
  acdb := hm.acdb.trans h.acdb
  dir d := (hm.dir d).trans (h.dir d)

theorem Ctx.Lists.tag (h : c.Lists hw ep on streams) (d : DevId) : hwEpTag (c.hw.devs d) = hwEpTag (hw.devs d) :=
  hwEpTag_of_dir (h.dir d)

/-- The entry that `graph_add` and `graph_change` make. -/
theorem Ctx.Lists.isFor (h : c.Lists hw ep on streams) (hgsl : hw.OwnEndpoints ep on) (hon : on md.gkv d) :
    (hwEpModule md d c.hw).IsFor (fun d => hwEpTag (hw.devs d)) ep d where
  isHwEp := isHwEp_hwEpTag _
  devObj := rfl
  tag := h.tag d
  miid := by
    show (c.hw.acdb.taggedModule md.gkv (hwEpTag (c.hw.devs d))).2 = ep d
    rw [h.acdb, h.tag d]
    exact hgsl.module _ _ hon

theorem step_graphOp (op : GraphOp) : Within Ctx.GraphStep op.run := by
  intro c
  cases op with
  | add md owner dev => exact step_of_call (call_graphAdd md owner dev) c
  | change md dev => exact step_of_call (call_graphChange md dev) c
  | remove md owner => exact step_of_call (call_graphRemove md owner) c
  | prepare => exact (sat_graphPrepare c).mono fun _ _ h => h.1
  | start => exact (sat_graphStart c).mono fun _ _ h => h.1
  | stop md =>
    cases md with
    | none => exact (sat_graphStop c).mono fun _ _ h => h.1
    | some md => exact step_of_call (callFrame_graphCall.graphStop md) c

/-- A call on the graph object leaves the ACDB and the devices. -/
theorem Ctx.Lists.step {c' : Ctx} (h : c.Lists hw ep on streams) (hs : c.GraphStep c')
    (he : Endpoints (fun d => hwEpTag (hw.devs d)) ep (fun d => ∃ gkv, on gkv d) streams c'.modules) :
    c'.Lists hw ep on streams where
  endpoints := he
  acdb := by
    have : c'.hw.still.acdb = c.hw.still.acdb := by rw [hs.hw.still]
    exact Eq.trans this h.acdb
  dir d := by
    rw [hs.hw.devs]
    exact h.dir d

theorem lists_run {op : GraphOp} (h : c.Lists hw ep on streams) (hgsl : hw.OwnEndpoints ep on)
    (hon : ∀ md d, op.device = some (md, d) → on md.gkv d) : Sat op.run c fun _ c' => c'.Lists hw ep on streams := by
  have hsame {m : M Int} (hm : Within Ctx.SameModules m) : Sat m c fun _ c' =>
      Endpoints (fun d => hwEpTag (hw.devs d)) ep (fun d => ∃ gkv, on gkv d) streams c'.modules := by
    refine (hm c).mono fun _ c' h' => ?_
    have h' : c'.modules = c.modules := h'
    rw [h']
    exact h.endpoints
  have hlist : Sat op.run c fun _ c' =>
      Endpoints (fun d => hwEpTag (hw.devs d)) ep (fun d => ∃ gkv, on gkv d) streams c'.modules := by
    cases op with
    | add md owner dev =>
      refine (modules_graphAdd md owner dev c).mono fun _ c' h' => ?_
      rcases h' with h' | ⟨d, rfl, h'⟩
      · rw [h']
        exact h.endpoints
      · rw [h']
        exact h.endpoints.join (h.isFor hgsl (hon md d rfl)) ⟨_, hon md d rfl⟩
    | change md dev =>
      refine (modules_graphChange md dev c).mono fun _ c' h' => ?_
      rcases h' with ⟨h', -⟩ | ⟨d, rfl, h'⟩
      · rw [h']
        exact h.endpoints
      · rw [h']
        exact h.endpoints.switch (h.isFor hgsl (hon md d rfl)) ⟨_, hon md d rfl⟩
    | remove md owner => exact hsame (sameModules_graphRemove md owner)
    | prepare => exact hsame sameModules_graphPrepare
    | start => exact hsame sameModules_graphStart
    | stop md => exact hsame (sameModules_graphStop md)
  exact (hlist.and (step_graphOp op c)).mono fun _ c' h' => h.step h'.2 h'.1

theorem endpoints_collectModules {mods : List ModuleInfo} (hgsl : hw.OwnEndpoints ep on) (hon : on md.gkv d)
    (hone : ¬ opensBothWays md d hw) (h : collectModules md.gkv (some d) (hw.acdb.tagTable md.gkv) = some mods) :
    Endpoints (fun d => hwEpTag (hw.devs d)) ep (fun d => ∃ gkv, on gkv d) (streamModules (mods.map ModuleInfo.ident))
      (mods.map ModuleInfo.ident) := by
  have hbound : ∀ m ∈ hwEps (mods.map ModuleInfo.ident),
      m.devObj = some d ∧ m.tag = hwEpTag (hw.devs d) ∧ m.miid = ep d := by
    intro m hm
    obtain ⟨hm, hep⟩ := List.mem_filter.1 hm
    obtain ⟨m₀, hm₀, rfl⟩ := List.mem_map.1 hm
    obtain ⟨hdev, e, he, htag, p, hp, hmi⟩ := collectModules_hwEp (hgsl.modules md.gkv) h hm₀ hep
    have hway : e.tagId = hwEpTag (hw.devs d) := by
      by_contra hne
      refine hone (List.any_eq_true.2 ⟨e, he, ?_⟩)
      have : e.tagId.isHwEp := by rw [htag]; exact hep
      simp [this, hne]
    exact ⟨hdev, htag.symm.trans hway, hmi.trans (hgsl.table _ _ hon e he hway p hp)⟩
  refine ⟨rfl, fun m hm => ⟨d, (hbound m hm).1, ⟨_, hon⟩, (hbound m hm).2⟩, ?_⟩
  -- the table lists the tag of the device once, so there is at most one endpoint
  have htags : ((hwEps (mods.map ModuleInfo.ident)).map (·.tag)).Nodup := by
    refine (hgsl.tags md.gkv).sublist (List.Sublist.trans (List.filter_sublist.map _) ?_)
    have : (mods.map ModuleInfo.ident).map (·.tag) = mods.map (·.tag) := by simp [ModuleInfo.ident]
    rw [this]
    exact collectModules_sublist h
  cases hl : hwEps (mods.map ModuleInfo.ident) with
  | nil => exact List.nodup_nil
  | cons m ms =>
    have hm : m ∈ hwEps (mods.map ModuleInfo.ident) := by simp [hl]
    have := eq_singleton_of_nodup htags (fun m hm => (hbound m hm).2.1) hm
    rw [← hl, this]
    exact List.nodup_singleton _

theorem lists_graphOpen (hg : c.sess.graph = none) (hgsl : c.hw.OwnEndpoints ep on) (hon : on md.gkv d)
    (hone : ¬ opensBothWays md d c.hw) :
    Sat (graphOpen md (some d)) c fun _ c' => c'.Lists c.hw ep on (streamModules c'.modules) := by
  refine ((modules_graphOpen hg).and (sat_graphOpen c md (some d))).mono fun _ c' h' => ?_
  obtain ⟨hl, hs, -⟩ := h'
  have hacdb : c'.hw.still.acdb = c.hw.still.acdb := by rw [hs.hw.still]
  refine ⟨?_, hacdb, fun d => by rw [hs.hw.devs]⟩
  rcases hl with hl | ⟨mods, hmods, hl⟩
  · rw [hl]
    exact ⟨rfl, fun m hm => absurd hm List.not_mem_nil, List.nodup_nil⟩
  · rw [hl]
    exact endpoints_collectModules hgsl hon hone hmods

end

/-- **The endpoints of a graph object.**  After an open with a device and any calls on the graph object, the endpoint
entries have different instance ids, and each is bound to the device whose endpoint it is; a `graph_change` to a device
that succeeds leaves one endpoint, that of the device, and the stream modules of the open — as long as the open does not
meet an endpoint of the other direction, and no other entry has the instance id of a device that is brought. -/
theorem hwEp_entries {ep : DevId → Nat} {on : Gkv → DevId → Prop} {c₀ c₁ c : Ctx} {md : Metadata} {d : DevId}
    (hgsl : c₀.hw.OwnEndpoints ep on) (hon : on md.gkv d) (hg : c₀.sess.graph = none)
    (hone : ¬ opensBothWays md d c₀.hw) (hopen : graphOpen md (some d) c₀ = some (0, c₁))
    (hrun : Runs graphExec (fun c o => c.Meanwhile o.2 ∧ (∀ md d, o.1.device = some (md, d) → on md.gkv d) ∧
      ¬ sharesId o.1 o.2) c₁ c) :
    ((hwEps c.modules).map (·.miid)).Nodup ∧
    (∀ m ∈ hwEps c.modules, ∃ d, m.devObj = some d ∧ m.tag = hwEpTag (c₀.hw.devs d) ∧ m.miid = ep d) ∧
    ∀ md' d' c₂ c₃, c.Meanwhile c₂ → on md'.gkv d' → ¬ sharesId (.change md' (some d')) c₂ →
      graphChange md' (some d') c₂ = some (0, c₃) →
      (∃ m, hwEps c₃.modules = [m] ∧ m.devObj = some d' ∧ m.miid = ep d') ∧
        streamModules c₃.modules = streamModules c₁.modules := by
  have h₁ : c₁.Lists c₀.hw ep on (streamModules c₁.modules) := lists_graphOpen hg hgsl hon hone _ _ hopen
  have h : c.Lists c₀.hw ep on (streamModules c₁.modules) := by
    refine hrun.invariant h₁ fun c o r c' hc hguard he => ?_
    obtain ⟨hm, hon, -⟩ := hguard
    exact lists_run (hc.meanwhile hm) hgsl hon r c' he
  refine ⟨h.endpoints.distinct, fun m hm => ?_, fun md' d' c₂ c₃ hm hon' hid he => ?_⟩
  · obtain ⟨d, hdev, -, hrest⟩ := h.endpoints.bound m hm
    exact ⟨d, hdev, hrest⟩
  · have h₂ := h.meanwhile hm
    have hfor := h₂.isFor hgsl hon'
    have hlist := modules_graphChange md' (some d') c₂ 0 c₃ he
    have hlist : c₃.modules = switchEp (hwEpModule md' d' c₂.hw) c₂.modules := by
      rcases hlist with ⟨-, hr⟩ | ⟨d'', hd, hlist⟩
      · exact absurd rfl (hr d' rfl)
      · obtain rfl := Option.some.inj hd
        exact hlist
    rw [hlist]
    refine ⟨?_, (h₂.endpoints.switch hfor ⟨_, hon'⟩).streams⟩
    obtain ⟨m, hone', hfor'⟩ := h₂.endpoints.switch_unique hfor ⟨_, hon'⟩
      (fun d'' ⟨gkv, hd⟩ htag hep => hgsl.own gkv _ d'' d' hd hon' htag hep) (fun m hm hmi => by
        by_contra hne
        refine hid (List.any_eq_true.2 ⟨m, hm, ?_⟩)
        have hne : m.tag ≠ hwEpTag (c₂.hw.devs d') := hne
        simp [hmi, hne])
    exact ⟨m, hone', hfor'.devObj, hfor'.miid⟩

/-! An ACDB for both directions: a device is brought by a pair with key `1`, the even ones play and the odd ones
capture, and the endpoint of the device `d` has the instance id `100 + d`. -/

def broughtDevices (rx : Bool) (gkv : Gkv) : List DevId :=
  (gkv.filter fun kv => kv.key = 1 && decide (kv.value % 2 = 0) == rx).map (·.value)

def hwEpEntries (tag : Tag) (ds : List DevId) : List TagEntry :=
  if ds = [] then [] else [⟨tag, ds.map fun d => (8, 100 + d)⟩]

def twoWayAcdb : Acdb where
  tagTable gkv := ⟨.streamPcmDecoder, [(7, 50)]⟩ :: (hwEpEntries .deviceHwEndpointRx (broughtDevices true gkv) ++
    hwEpEntries .deviceHwEndpointTx (broughtDevices false gkv))
  taggedModule gkv tag := (8, 100 + (broughtDevices (tag = .deviceHwEndpointRx) gkv).headD 0)

def Hw.twoWay : Hw where
  numAudioIntfs := 4
  devs d := { dir := if d % 2 = 0 then AUDIO_OUTPUT else 2 }
  grps _ := {}
  acdb := twoWayAcdb
  env _ := []

/-- The key vector has the device, and no other of its direction. -/
def hasDevice (gkv : Gkv) (d : DevId) : Prop := broughtDevices (d % 2 = 0) gkv = [d]

theorem hwEpTag_twoWay (d : DevId) :
    hwEpTag (Hw.twoWay.devs d) = if d % 2 = 0 then .deviceHwEndpointRx else .deviceHwEndpointTx := by
  by_cases h : d % 2 = 0 <;> simp [hwEpTag, Hw.twoWay, h, AUDIO_OUTPUT]

theorem Hw.ownEndpoints_twoWay : Hw.twoWay.OwnEndpoints (fun d => 100 + d) hasDevice where
  own _ _ _ _ _ _ _ h := Nat.add_left_cancel h
  module gkv d h := by
    rw [hwEpTag_twoWay]
    show 100 + (broughtDevices _ gkv).headD 0 = 100 + d
    unfold hasDevice at h
    by_cases hd : d % 2 = 0 <;> simp [hd] at h ⊢ <;> simp [h]
  table gkv d h e he htag p hp := by
    rw [hwEpTag_twoWay] at htag
    unfold hasDevice at h
    simp only [Hw.twoWay, twoWayAcdb, List.mem_cons, List.mem_append, hwEpEntries] at he
    rcases he with rfl | he | he
    · split at htag <;> cases htag
    · by_cases hd : d % 2 = 0
      · simp [hd] at h
        simp [h] at he
        simp [he] at hp
        rw [← hp]
      · split at he <;> simp at he
        rw [he, if_neg hd] at htag
        cases htag
    · by_cases hd : d % 2 = 0
      · split at he <;> simp at he
        rw [he, if_pos hd] at htag
        cases htag
      · simp [hd] at h
        simp [h] at he
        simp [he] at hp
        rw [← hp]
  tags gkv := by
    simp only [Hw.twoWay, twoWayAcdb, hwEpEntries]
    split <;> split <;> simp
  modules gkv e he := by
    simp only [Hw.twoWay, twoWayAcdb, List.mem_cons, List.mem_append, hwEpEntries] at he
    rcases he with rfl | he | he
    · simp
    · split at he <;> simp at he
      rename_i hne
      simp [he, hne]
    · split at he <;> simp at he
      rename_i hne
      simp [he, hne]

def Ctx.twoWay : Ctx := ⟨sessionObjCreate 1, ⟨[], sessionObjCreate, List.nodup_nil⟩, Hw.twoWay⟩

def bringing (ds : List DevId) : Metadata := { gkv := ds.map fun d => ⟨1, d⟩ }

theorem Ctx.Meanwhile.refl (c : Ctx) : c.Meanwhile c := ⟨rfl, rfl, fun _ => rfl⟩

/-- Device `0` is joined by device `2`, and the graph is changed to device `2`. -/
theorem hwEp_entries_of_two :
    ∃ c₁ c₂ c₃, graphOpen (bringing [0]) (some 0) Ctx.twoWay = some (0, c₁) ∧
      graphAdd (bringing [2]) (.aif 2) (some 2) c₁ = some (0, c₂) ∧ (hwEps c₂.modules).length = 2 ∧
      ((hwEps c₂.modules).map (·.miid)).Nodup ∧
      (∀ m ∈ hwEps c₂.modules, ∃ d, m.devObj = some d ∧ m.tag = hwEpTag (Ctx.twoWay.hw.devs d) ∧ m.miid = 100 + d) ∧
      graphChange (bringing [2]) (some 2) c₂ = some (0, c₃) ∧
      (∃ m, hwEps c₃.modules = [m] ∧ m.devObj = some 2 ∧ m.miid = 100 + 2) ∧
        streamModules c₃.modules = streamModules c₁.modules := by
  have hrun : ((graphOpen (bringing [0]) (some 0) Ctx.twoWay).bind fun p =>
      (graphAdd (bringing [2]) (.aif 2) (some 2) p.2).bind fun q =>
        (graphChange (bringing [2]) (some 2) q.2).map fun r =>
          (p.1, q.1, r.1, (hwEps q.2.modules).length, sharesId (.add (bringing [2]) (.aif 2) (some 2)) p.2,
            sharesId (.change (bringing [2]) (some 2)) q.2)) = some (0, 0, 0, 2, false, false) := by decide +kernel
  obtain ⟨p, hp, hrun⟩ := Option.bind_eq_some_iff.1 hrun
  obtain ⟨q, hq, hrun⟩ := Option.bind_eq_some_iff.1 hrun
  obtain ⟨r, hr, hrun⟩ := Option.map_eq_some_iff.1 hrun
  simp only [Prod.mk.injEq] at hrun
  obtain ⟨hp0, hq0, hr0, hlen, hadd, hchange⟩ := hrun
  have hp : graphOpen (bringing [0]) (some 0) Ctx.twoWay = some (0, p.2) := by rw [hp, ← hp0]
  have hq : graphAdd (bringing [2]) (.aif 2) (some 2) p.2 = some (0, q.2) := by rw [hq, ← hq0]
  have hr : graphChange (bringing [2]) (some 2) q.2 = some (0, r.2) := by rw [hr, ← hr0]
  have hon : hasDevice (bringing [2]).gkv 2 := rfl
  have hdev : ∀ md d, (GraphOp.add (bringing [2]) (.aif 2) (some 2)).device = some (md, d) → hasDevice md.gkv d := by
    intro md d h
    obtain ⟨rfl, rfl⟩ := Prod.mk.inj (Option.some.inj h)
    exact hon
  obtain ⟨hdistinct, hbound, hswitch⟩ := hwEp_entries Hw.ownEndpoints_twoWay (d := 0) rfl rfl (by decide +kernel) hp
    ((Runs.refl p.2).tail (o := (GraphOp.add (bringing [2]) (.aif 2) (some 2), p.2))
      ⟨.refl p.2, hdev, by rw [hadd]; exact Bool.false_ne_true⟩ hq)
  exact ⟨p.2, q.2, r.2, hp, hq, hlen, hdistinct, hbound, hr,
    hswitch (bringing [2]) 2 q.2 r.2 (.refl q.2) hon (by rw [hchange]; exact Bool.false_ne_true) hr⟩

/-- A key vector brings device `0` and device `1`, and the endpoints of both are bound to device `0`; after a change to
device `1` the only endpoint is bound to device `0`. -/
theorem hwEp_bound_to_other :
    Ctx.twoWay.hw.OwnEndpoints (fun d => 100 + d) hasDevice ∧ hasDevice (bringing [0, 1]).gkv 0 ∧
      hasDevice (bringing [1]).gkv 1 ∧ ∃ c₁ c₂, graphOpen (bringing [0, 1]) (some 0) Ctx.twoWay = some (0, c₁) ∧
        graphChange (bringing [1]) (some 1) c₁ = some (0, c₂) ∧ (hwEps c₂.modules).map (·.devObj) = [some 0] := by
  have hrun : (((graphOpen (bringing [0, 1]) (some 0) Ctx.twoWay).bind fun p =>
      (graphChange (bringing [1]) (some 1) p.2).map fun q =>
        (p.1, q.1, decide ((hwEps q.2.modules).map (·.devObj) = [some 0]))) = some (0, 0, true)) := by decide +kernel
  obtain ⟨p, hp, hrun⟩ := Option.bind_eq_some_iff.1 hrun
  obtain ⟨q, hq, hrun⟩ := Option.map_eq_some_iff.1 hrun
  simp only [Prod.mk.injEq, decide_eq_true_eq] at hrun
  refine ⟨Hw.ownEndpoints_twoWay, rfl, rfl, p.2, q.2, ?_, ?_, hrun.2.2⟩
  · rw [hp, ← hrun.1]
  · rw [hq, ← hrun.2.1]

end Agm.Service
