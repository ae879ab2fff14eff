import Mathlib.Data.List.Forall2
import Agm.Service.HeldGraphs
import Agm.Service.OpenResult

/-!
# What `graph_open` has opened

A return code of zero sends the callers on to the graph object.  Between the two lies the tag table of GSL: the loop over
it has an exit that frees the object without an error, and takes the module of an entry without asking whether there is
one.
-/

namespace Agm.Service

open Agm.Lib

/-! ## The list that the table asks for -/

/-- The entry is for a module of the stream, or for an endpoint where there is a device. -/
def TagEntry.isFor (dev : Option DevId) (e : TagEntry) : Bool :=
  decide (e.tagId ∈ streamModuleTags) || (dev.isSome && decide (e.tagId ∈ hwEpModuleTags))

/-- The entries of the table that `graph_open` is to make a module of. -/
def wanted (dev : Option DevId) (table : List TagEntry) : List TagEntry := table.filter (TagEntry.isFor dev)

/-- The module has the tag of the entry, and is its first one. -/
structure TagEntry.IsListedAs (e : TagEntry) (m : ModuleInfo) : Prop where
  tag : m.tag = e.tagId
  first : e.modules.head? = some (m.mid, m.miid)

section

variable {gkv : Gkv} {dev : Option DevId} {table : List TagEntry} {mods : List ModuleInfo} {e : TagEntry}

/-- The entry that the loop makes of a wanted one. -/
def TagEntry.listed (gkv : Gkv) (dev : Option DevId) (e : TagEntry) (rest : List TagEntry) : ModuleInfo :=
  let m := { tag := e.tagId, mid := (firstModule e rest).1, miid := (firstModule e rest).2 }
  if e.tagId ∈ streamModuleTags then m else { m with devObj := dev, gkv := some gkv }

theorem collectModules_cons_of_not (h : ¬ e.isFor dev = true) :
    collectModules gkv dev (e :: table) = collectModules gkv dev table := by
  simp only [TagEntry.isFor, Bool.or_eq_true, decide_eq_true_eq, Bool.and_eq_true, not_or] at h
  rw [collectModules, if_neg h.1, if_neg h.2]

theorem collectModules_cons_of_many (h : e.isFor dev = true) (hmany : e.modules.length > 1) :
    collectModules gkv dev (e :: table) = none := by
  simp only [TagEntry.isFor, Bool.or_eq_true, decide_eq_true_eq, Bool.and_eq_true] at h
  rw [collectModules, if_pos hmany, if_pos hmany]
  by_cases hstream : e.tagId ∈ streamModuleTags
  · rw [if_pos hstream]
  · rw [if_neg hstream, if_pos (h.resolve_left hstream)]

theorem collectModules_cons_of_one (h : e.isFor dev = true) (hone : ¬ e.modules.length > 1) :
    collectModules gkv dev (e :: table) = (collectModules gkv dev table).map (e.listed gkv dev table :: ·) := by
  simp only [TagEntry.isFor, Bool.or_eq_true, decide_eq_true_eq, Bool.and_eq_true] at h
  rw [collectModules, if_neg hone, if_neg hone]
  unfold TagEntry.listed
  by_cases hstream : e.tagId ∈ streamModuleTags
  · rw [if_pos hstream, if_pos hstream]
  · rw [if_neg hstream, if_pos (h.resolve_left hstream), if_neg hstream]

/-- The loop is left early exactly at a wanted entry with more than one module. -/
theorem collectModules_eq_none_iff :
    collectModules gkv dev table = none ↔ ∃ e ∈ wanted dev table, e.modules.length > 1 := by
  induction table with
  | nil => simp [collectModules, wanted]
  | cons e table ih =>
    unfold wanted at ih ⊢
    by_cases hfor : e.isFor dev = true
    · rw [List.filter_cons_of_pos hfor, List.exists_mem_cons_iff]
      by_cases hmany : e.modules.length > 1
      · exact iff_of_true (collectModules_cons_of_many hfor hmany) (.inl hmany)
      · rw [collectModules_cons_of_one hfor hmany, Option.map_eq_none_iff, ih, or_iff_right hmany]
    · rw [List.filter_cons_of_neg hfor, collectModules_cons_of_not hfor, ih]

/-- The module that an entry is listed as is its own if it has one. -/
theorem isListedAs_listed_iff : e.IsListedAs (e.listed gkv dev table) ↔ e.modules ≠ [] := by
  have htag : (e.listed gkv dev table).tag = e.tagId := by
    unfold TagEntry.listed
    split <;> rfl
  have hids : ((e.listed gkv dev table).mid, (e.listed gkv dev table).miid) = firstModule e table := by
    unfold TagEntry.listed
    split <;> rfl
  constructor
  · intro h hnil
    have hfirst := h.first
    rw [hnil] at hfirst
    cases hfirst
  · intro h
    obtain ⟨p, ps, hmod⟩ := List.exists_cons_of_ne_nil h
    refine ⟨htag, ?_⟩
    rw [hids, firstModule, hmod]
    rfl

/-- **The list is the one that the table asks for exactly if no wanted entry is without a module.**  The induction is on
the table. -/
theorem forall₂_isListedAs_iff (h : collectModules gkv dev table = some mods) :
    List.Forall₂ TagEntry.IsListedAs (wanted dev table) mods ↔ ∀ e ∈ wanted dev table, e.modules ≠ [] := by
  induction table generalizing mods with
  | nil =>
    obtain rfl : [] = mods := Option.some.inj h
    simp [wanted]
  | cons e table ih =>
    unfold wanted at ih ⊢
    by_cases hfor : e.isFor dev = true
    · rw [List.filter_cons_of_pos hfor, List.forall_mem_cons]
      by_cases hmany : e.modules.length > 1
      · rw [collectModules_cons_of_many hfor hmany] at h
        cases h
      · rw [collectModules_cons_of_one hfor hmany] at h
        obtain ⟨ms, hms, rfl⟩ := Option.map_eq_some_iff.1 h
        rw [List.forall₂_cons, isListedAs_listed_iff, ih hms]
    · rw [collectModules_cons_of_not hfor] at h
      rw [List.filter_cons_of_neg hfor, ih h]

end

/-! ## Opening -/

/-- The session before the call: the pointer that `graph_open` stores the object in is `NULL`. -/
def Ctx.unopened (c : Ctx) : Ctx := { c with sess := { c.sess with graph := none } }

/-- The table that `graph_open` goes by; without a configuration it asks for none. -/
def Ctx.openTable (c : Ctx) (md : Metadata) : List TagEntry :=
  if c.sess.streamConfig.sessMode = .noConfig then [] else c.hw.acdb.tagTable md.gkv

/-- GSL gives the session a handle and takes its callback. -/
def Hw.acceptsOpen (hw : Hw) : Bool := hw.accepts .gslOpen && hw.accepts .registerEventCb

/-- What the pointer holds after the call is an open graph object: GSL holds its graph under the handle, and its list is
the one that the table asks for. -/
def OpenedRight (md : Metadata) (dev : Option DevId) (c c' : Ctx) : Prop :=
  ∃ g, c'.sess.graph = some g ∧ g.state = .opened ∧ c'.hw.held g.handle = {md.gkv} ∧
    List.Forall₂ TagEntry.IsListedAs (wanted dev (c.openTable md)) g.taggedModList

/-- `graph_open` returns, and returns 0 if and only if it has stored such an object. -/
def OpensRight (md : Metadata) (dev : Option DevId) (c : Ctx) : Prop :=
  ∃ r c', graphOpen md dev c.unopened = some (r, c') ∧ (r = 0 ↔ OpenedRight md dev c c')

/-- **When `graph_open` does what its return code says.**  There is no table or GSL does not give it; or no wanted entry has
more than one module, and each has one unless GSL refuses the graph. -/
def OpenKeepsWord (md : Metadata) (dev : Option DevId) (c : Ctx) : Prop :=
  c.sess.streamConfig.sessMode = .noConfig ∨ c.hw.acceptsTags = false ∨
    (∀ e ∈ wanted dev (c.hw.acdb.tagTable md.gkv), e.modules.length ≤ 1) ∧
      (c.hw.acceptsOpen = true → ∀ e ∈ wanted dev (c.hw.acdb.tagTable md.gkv), e.modules ≠ [])

section

variable {c c' : Ctx} {md : Metadata} {dev : Option DevId} {mods : List ModuleInfo}

theorem not_openedRight (h : c'.sess.graph = none) : ¬ OpenedRight md dev c c' := by
  rintro ⟨g, hg, -⟩
  rw [h] at hg
  cases hg

/-- From `no_config` on the object is stored exactly where 0 is returned. -/
theorem sat_graphOpenGsl (md : Metadata) (mods : List ModuleInfo) (hg : c.sess.graph = none) :
    Sat (graphOpenGsl md mods) c fun r c' =>
      if c.hw.acceptsOpen then r = 0 ∧ ∃ g, c'.sess.graph = some g ∧ g.state = .opened ∧
        c'.hw.held g.handle = {md.gkv} ∧ g.taggedModList = mods
      else r ≠ 0 ∧ c'.sess.graph = none := by
  have hstored : Sat (graphOpenGsl md mods) c fun r c' =>
      (r = 0 ↔ c.hw.acceptsOpen = true) ∧
        c'.sess.graph = if r = 0 then some { state := .opened, handle := c.hw.nextHandle, taggedModList := mods } else none := by
    unfold graphOpenGsl
    simp only [sat_bind, sat_get, sat_onHw, sat_askGsl, sat_ask, sat_ite, sat_pure, sat_modify, sat_modSess]
    have henv : (c.hw.called (.gslOpen c.hw.nextHandle md.gkv)).env .registerEventCb = c.hw.env .registerEventCb :=
      Hw.env_called_of_ne fun h => Kind.noConfusion h
    refine ⟨fun hr => ?_, fun hr => ⟨fun hcb => ?_, fun hcb => ?_⟩⟩
    · have href := (lnx_answer_ne_zero_iff c.hw (.gslOpen c.hw.nextHandle md.gkv)).1 hr
      refine ⟨iff_of_false hr fun h => href ?_, by rw [if_neg hr]; exact hg⟩
      exact (Bool.and_eq_true_iff.1 h).1
    · have href := (lnx_answer_ne_zero_iff _ (.registerEventCb c.hw.nextHandle)).1 hcb
      refine ⟨iff_of_false hcb fun h => href ?_, by rw [if_neg hcb]; exact hg⟩
      have hacc := (Bool.and_eq_true_iff.1 h).2
      rw [Hw.accepts] at hacc ⊢
      exact (congrArg (fun l : List Int => decide (l.headD 0 = 0)) henv).trans hacc
    · have hopen : c.hw.accepts .gslOpen = true := by
        by_contra h
        exact hr ((lnx_answer_ne_zero_iff _ (.gslOpen c.hw.nextHandle md.gkv)).2 h)
      have hreg : c.hw.accepts .registerEventCb = true := by
        by_contra h
        refine hcb ((lnx_answer_ne_zero_iff _ (.registerEventCb c.hw.nextHandle)).2 fun h' => h ?_)
        rw [Hw.accepts] at h' ⊢
        exact (congrArg (fun l : List Int => decide (l.headD 0 = 0)) henv.symm).trans h'
      exact ⟨iff_of_true trivial (Bool.and_eq_true_iff.2 ⟨hopen, hreg⟩), rfl⟩
  refine (hstored.and (held_graphOpenGsl md mods c)).mono fun r c' h => ?_
  obtain ⟨⟨hiff, hgraph⟩, hheld⟩ := h
  split
  · next hacc =>
    have h0 : r = 0 := hiff.2 hacc
    rw [if_pos h0] at hgraph
    rw [if_pos (Bool.and_eq_true_iff.1 hacc).1, if_pos h0] at hheld
    refine ⟨h0, _, hgraph, rfl, ?_, rfl⟩
    rw [hheld.1.held, Function.update_self]
  · next hacc =>
    have hne : r ≠ 0 := fun h => hacc (hiff.1 h)
    rw [if_neg hne] at hgraph
    exact ⟨hne, hgraph⟩

/-- The call is over: 0 is returned, and rightly so, exactly if `P`. -/
theorem opensRight_iff_of_sat {P : Prop}
    (h : Sat (graphOpen md dev) c.unopened fun r c' => (r = 0 ↔ OpenedRight md dev c c') ↔ P) :
    OpensRight md dev c ↔ P := by
  obtain ⟨r, c', hrun⟩ := (total_graphOpen md dev).exists c.unopened
  refine Iff.trans ⟨?_, fun hr => ⟨r, c', hrun, hr⟩⟩ (h r c' hrun)
  rintro ⟨r₁, c₁, hrun₁, hr⟩
  obtain ⟨rfl, rfl⟩ := Prod.mk.inj (Option.some.inj (hrun.symm.trans hrun₁))
  exact hr

/-- The answers that `get_tags_with_module_info` uses up are its own. -/
theorem sat_getTags_open (gkv : Gkv) (c : Ctx) : Sat (getTagsWithModuleInfo gkv) c fun r c' =>
    c'.sess = c.sess ∧ (r = 0 ↔ c.hw.acceptsTags) ∧ c'.hw.acceptsOpen = c.hw.acceptsOpen := by
  have henv : Sat (getTagsWithModuleInfo gkv) c fun _ c' => c'.hw.acceptsOpen = c.hw.acceptsOpen := by
    have hcall (hw : Hw) : (hw.called (.getTags gkv)).acceptsOpen = hw.acceptsOpen := by
      unfold Hw.acceptsOpen Hw.accepts
      rw [Hw.env_called_of_ne (by simp [Call.kind]), Hw.env_called_of_ne (by simp [Call.kind])]
    unfold getTagsWithModuleInfo
    simp only [sat_bind, sat_onHw, sat_askGsl, sat_ite, sat_pure]
    exact ⟨fun _ => (hcall _).trans (hcall _), fun _ => hcall _⟩
  exact ((sat_getTags gkv c).and henv).mono fun r c' h => ⟨h.1.1, h.1.2.1, h.2⟩

/-- What `graph_open` makes of the table that it has got. -/
theorem sat_graphOpen_collected {c₁ : Ctx} (hmode : ¬ c.sess.streamConfig.sessMode = .noConfig)
    (hnone : c₁.sess.graph = none) (hopen : c₁.hw.acceptsOpen = c.hw.acceptsOpen) :
    Sat (match collectModules md.gkv dev (c.hw.acdb.tagTable md.gkv) with
      | none => pure 0
      | some mods => graphOpenGsl md mods) c₁ fun r c' =>
      (r = 0 ↔ OpenedRight md dev c c') ↔
        (∀ e ∈ wanted dev (c.hw.acdb.tagTable md.gkv), e.modules.length ≤ 1) ∧
          (c.hw.acceptsOpen = true → ∀ e ∈ wanted dev (c.hw.acdb.tagTable md.gkv), e.modules ≠ []) := by
  have htable : c.openTable md = c.hw.acdb.tagTable md.gkv := if_neg hmode
  cases hmods : collectModules md.gkv dev (c.hw.acdb.tagTable md.gkv) with
  | none =>
    -- the exit that frees the object and leaves `ret` at 0
    obtain ⟨e, he, hmany⟩ := collectModules_eq_none_iff.1 hmods
    refine (sat_pure _ _ _).2 (iff_of_false (fun h => not_openedRight hnone (h.1 rfl)) fun h => ?_)
    have := h.1 e he
    omega
  | some mods =>
    have hone : ∀ e ∈ wanted dev (c.hw.acdb.tagTable md.gkv), e.modules.length ≤ 1 := by
      intro e he
      by_contra hmany
      have hexit : collectModules md.gkv dev (c.hw.acdb.tagTable md.gkv) = none :=
        collectModules_eq_none_iff.2 ⟨e, he, Nat.lt_of_not_le hmany⟩
      rw [hmods] at hexit
      cases hexit
    rw [and_iff_right hone, ← forall₂_isListedAs_iff hmods, ← htable]
    refine (sat_graphOpenGsl md mods hnone).mono fun r c' h => ?_
    rw [hopen] at h
    split at h
    · next hacc =>
      obtain ⟨h0, g, hg, hstate, hheld, rfl⟩ := h
      rw [imp_iff_right hacc, iff_true_left h0]
      constructor
      · rintro ⟨g', hg', -, -, hlist⟩
        obtain rfl : g = g' := Option.some.inj (hg.symm.trans hg')
        exact hlist
      · exact fun hlist => ⟨g, hg, hstate, hheld, hlist⟩
    · next hacc =>
      exact iff_of_true (iff_of_false h.1 (not_openedRight h.2)) fun h' => absurd h' hacc

/-- **`graph_open` returns 0 if and only if it has stored an open graph object with the modules of the table, exactly under
the condition.**  For every key vector, session, device, table and pattern of answers. -/
theorem opensRight_iff (md : Metadata) (dev : Option DevId) (c : Ctx) :
    OpensRight md dev c ↔ OpenKeepsWord md dev c := by
  refine opensRight_iff_of_sat ?_
  unfold graphOpen OpenKeepsWord
  rw [sat_bind, sat_get, sat_ite]
  refine ⟨fun hmode => ?_, fun hmode => ?_⟩
  · have hmode : c.sess.streamConfig.sessMode = .noConfig := hmode
    have htable : wanted dev (c.openTable md) = [] := by
      rw [Ctx.openTable, if_pos hmode]
      rfl
    refine (sat_graphOpenGsl (c := c.unopened) md [] rfl).mono fun r c' h => iff_of_true ?_ (.inl hmode)
    split at h
    · obtain ⟨h0, g, hg, hstate, hheld, hmods⟩ := h
      refine iff_of_true h0 ⟨g, hg, hstate, hheld, ?_⟩
      rw [htable, hmods]
      exact .nil
    · exact iff_of_false h.1 (not_openedRight h.2)
  have hmode : ¬ c.sess.streamConfig.sessMode = .noConfig := hmode
  refine Sat.bind (sat_getTags_open md.gkv c.unopened) fun r c₁ h₁ => ?_
  obtain ⟨hsess, htags, hopen⟩ := h₁
  have hnone : c₁.sess.graph = none := by rw [hsess]; rfl
  rw [sat_ite, sat_pure]
  refine ⟨fun hr => iff_of_true (iff_of_false hr (not_openedRight hnone)) ?_, fun hr => ?_⟩
  · have hrefused : ¬ c.hw.acceptsTags = true := fun h => hr (htags.2 h)
    exact .inr (.inl (Bool.eq_false_iff.2 hrefused))
  have hacc : c.hw.acceptsTags = true := htags.1 (Decidable.not_not.1 hr)
  rw [or_iff_right hmode, or_iff_right (by rw [hacc]; exact Bool.noConfusion)]
  exact sat_graphOpen_collected hmode hnone hopen

end

/-- A session whose table has one entry. -/
def Ctx.withEntry (e : TagEntry) : Ctx where
  sess := { sessId := 1 }
  pool := ⟨[], sessionObjCreate, List.nodup_nil⟩
  hw := { numAudioIntfs := 0, devs := fun _ => {}, grps := fun _ => {}, env := fun _ => [],
          acdb := ⟨fun _ => [e], fun _ _ => (0, 0)⟩ }

/-- Two decoders under one tag: 0 is returned and no object stored.  And none: the list has one with the instance id 0. -/
theorem opensRight_fails :
    (∃ c', graphOpen {} none (Ctx.withEntry ⟨.streamPcmDecoder, [(7, 50), (7, 51)]⟩) = some (0, c') ∧
      c'.sess.graph = none) ∧
    ¬ OpensRight {} none (Ctx.withEntry ⟨.streamPcmDecoder, [(7, 50), (7, 51)]⟩) ∧
    ¬ OpensRight {} none (Ctx.withEntry ⟨.streamPcmDecoder, []⟩) := by
  refine ⟨⟨_, rfl, rfl⟩, ?_, ?_⟩
  · rintro ⟨r, c', hrun, hr⟩
    obtain ⟨rfl, rfl⟩ := Prod.mk.inj (Option.some.inj hrun)
    exact not_openedRight rfl (hr.1 rfl)
  · rintro ⟨r, c', hrun, hr⟩
    obtain ⟨rfl, rfl⟩ := Prod.mk.inj (Option.some.inj hrun)
    obtain ⟨g, -, -, -, hlist⟩ := hr.1 rfl
    obtain ⟨m, -, hm, -⟩ := List.forall₂_cons_left_iff.1 hlist
    exact absurd hm.first (by simp)

end Agm.Service
