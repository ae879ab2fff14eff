import Agm.Service.EdgeFrame
import Agm.Service.GraphPointer

/-!
# The edges and their flags

In every state that is not closed the edges of a session's graph are those its flags ask for, and no edge is asked to be
removed but one that was added.  An operation touches the edges of its own session only: handles are given out once, so
that no two sessions have the same, and the edges of a handle that was not given out yet are none.
-/

namespace Agm.Service

open Agm.Lib

/-! ## What an operation leaves alone -/

/-- The edges of the other graphs are the same, none was asked to be removed that was not there, and a graph that is new
has a new handle. -/
structure Ctx.Tidy (c c' : Ctx) : Prop where
  next : c.hw.nextHandle ≤ c'.hw.nextHandle
  handle : c'.handle = c.handle ∨ ∀ h, c'.handle = some h → c.hw.nextHandle ≤ h ∧ h < c'.hw.nextHandle
  others : ∀ h, c.handle ≠ some h → h < c.hw.nextHandle ∨ c'.hw.nextHandle ≤ h →
    edges c'.hw.trace h = edges c.hw.trace h
  removes : RemovesAdded c.hw.trace → RemovesAdded c'.hw.trace

instance : IsPreorder Ctx Ctx.Tidy where
  refl _ := ⟨Nat.le_refl _, .inl rfl, fun _ _ _ => rfl, id⟩
  trans c c₁ c₂ h h' := by
    refine ⟨Nat.le_trans h.next h'.next, ?_, fun g hg hold => ?_, h'.removes ∘ h.removes⟩
    · rcases h'.handle with he | hnew
      · rw [he]
        exact h.handle.imp_right fun hnew g hg => ⟨(hnew g hg).1, Nat.lt_of_lt_of_le (hnew g hg).2 h'.next⟩
      · exact .inr fun g hg => ⟨Nat.le_trans h.next (hnew g hg).1, (hnew g hg).2⟩
    · have hold₁ : g < c₁.hw.nextHandle ∨ c₂.hw.nextHandle ≤ g := hold.imp_left fun h₁ => Nat.lt_of_lt_of_le h₁ h.next
      have hg₁ : c₁.handle ≠ some g := by
        intro hg'
        rcases h.handle with he | hnew
        · exact hg (he ▸ hg')
        · obtain ⟨hle, hlt⟩ := hnew g hg'
          rcases hold with hlo | hhi
          · exact Nat.lt_irrefl _ (Nat.lt_of_lt_of_le hlo hle)
          · exact Nat.lt_irrefl _ (Nat.lt_of_lt_of_le hlt (Nat.le_trans h'.next hhi))
      have hold₀ : g < c.hw.nextHandle ∨ c₁.hw.nextHandle ≤ g := hold.imp_right (Nat.le_trans h'.next)
      exact (h'.others g hg₁ hold₁).trans (h.others g hg hold₀)

theorem Ctx.Plain.tidy {c c' : Ctx} (h : c.Plain c') : c.Tidy c' :=
  ⟨h.1.next, h.1.handle, fun g _ _ => congrFun h.2.edges g, h.2.removes⟩

theorem Ctx.OwnOnly.tidy {c c' : Ctx} (h : c.OwnOnly c') (hs : c.SameHandle c') : c.Tidy c' :=
  ⟨hs.next, .inl hs.handle, fun g hg _ => h.others g hg, h.removes⟩

theorem tidy_of_plain {α : Type} {m : M α} (h : Within Ctx.Plain m) : Within Ctx.Tidy m := h.mono fun _ _ h => h.tidy

/-! ## Opening -/

/-- A graph that is new has no edges. -/
theorem Ctx.Plain.ownEdges_eq_empty {c c' : Ctx} (h : c.Plain c') (hown : c.ownEdges = ∅)
    (hfresh : ∀ h, c.hw.nextHandle ≤ h → edges c.hw.trace h = ∅) : c'.ownEdges = ∅ := by
  rcases h.1.handle with he | hnew
  · rw [ownEdges_of_kept he h.2, hown]
  · rw [ownEdges, edgesOf, h.2.edges]
    cases hh : c'.handle with
    | none => rfl
    | some g => exact hfresh g (hnew g hh).1

theorem sat_addEcRef (aifId : Nat) (c : Ctx) : Sat (sessionSetEcRef aifId true) c fun r c' =>
    c.OwnOnly c' ∧ (r = 0 → c'.ownEdges = insert (.ecRef aifId) c.ownEdges) := by
  refine sat_sessionSetEcRef (fun _ r hr => ⟨(refl_of Hw.EdgesKept c.hw).ownOnly, fun h0 => absurd h0 hr⟩) fun md _ => ?_
  refine (sat_graphAdd_edge md rfl c).mono fun r c' h => ⟨h.1, fun h0 => ?_⟩
  rcases h.2 with h | h
  · exact absurd h0 h.1
  · exact h.edges

theorem sat_addLoopback (pbId : SessId) (c : Ctx) : Sat (sessionSetLoopback pbId true) c fun r c' =>
    c.OwnOnly c' ∧ (r = 0 → c'.ownEdges = insert (.loopback pbId) c.ownEdges) := by
  refine sat_sessionSetLoopback (fun p r hr => ⟨⟨fun _ _ => rfl, id⟩, fun h0 => absurd h0 hr⟩) fun p md _ => ?_
  refine (sat_graphAdd_edge md rfl { c with pool := p }).mono fun r c' h => ⟨⟨h.1.others, h.1.removes⟩, fun h0 => ?_⟩
  rcases h.2 with h | h
  · exact absurd h0 h.1
  · exact h.edges

theorem edges_openLoopback (c : Ctx) : Sat openLoopback c fun e c' => c.Tidy c' ∧ (e.1 = .unwind → e.2 ≠ 0) ∧
    (e.1 = .done → e.2 = 0 → c'.sess.wantedEdges = c.sess.wantedEdges ∧
      c'.ownEdges = keptEdge .loopback c.sess.loopbackSessId c.sess.loopbackState ∪ c.ownEdges) := by
  unfold openLoopback
  rw [sat_bind, sat_get, sat_ite, sat_pure]
  constructor
  · intro hl
    refine Sat.bind ((edge_sessionSetLoopback _ true c).and (sat_addLoopback _ c)) fun r c₁ h₁ => ?_
    obtain ⟨s₁, hown, hadd⟩ := h₁
    have t₁ := hown.tidy s₁.sameHandle
    rw [sat_ite, sat_pure, sat_bind, sat_modSess, sat_pure]
    refine ⟨fun hr => ⟨?_, fun _ => hr, fun h => nomatch h⟩, fun hr => ⟨t₁, fun h => (nomatch h), fun _ _ => ?_⟩⟩
    · exact ⟨t₁.next, t₁.handle, t₁.others, t₁.removes⟩
    · refine ⟨SessionObj.wantedEdges_of_kept s₁.sameHandle.kept, ?_⟩
      rw [hadd (Decidable.not_not.1 hr), keptEdge, if_pos hl, Finset.insert_eq]
  · intro hl
    refine ⟨refl_of Ctx.Tidy c, fun h => (nomatch h), fun _ _ => ⟨rfl, ?_⟩⟩
    rw [keptEdge, if_neg hl, Finset.empty_union]

theorem edges_openEcRef (c : Ctx) : Sat openEcRef c fun e c' => c.Tidy c' ∧ (e.1 = .unwind → e.2 ≠ 0) ∧
    (e.1 = .done → e.2 = 0 → c'.sess.wantedEdges = c.sess.wantedEdges ∧
      c'.ownEdges = c.sess.wantedEdges ∪ c.ownEdges) := by
  unfold openEcRef
  rw [sat_bind, sat_get, sat_ite]
  constructor
  · intro he
    refine Sat.bind ((edge_sessionSetEcRef _ true c).and (sat_addEcRef _ c)) fun r c₁ h₁ => ?_
    obtain ⟨s₁, hown, hadd⟩ := h₁
    have t₁ := hown.tidy s₁.sameHandle
    rw [sat_ite, sat_bind, sat_modSess, sat_pure]
    refine ⟨fun hr => ⟨?_, fun _ => hr, fun h => nomatch h⟩, fun hr => ?_⟩
    · exact ⟨t₁.next, t₁.handle, t₁.others, t₁.removes⟩
    · refine (edges_openLoopback c₁).mono fun e c₂ h₂ => ⟨trans_of Ctx.Tidy t₁ h₂.1, h₂.2.1, fun hd h0 => ?_⟩
      obtain ⟨hw, hedges⟩ := h₂.2.2 hd h0
      obtain ⟨-, hloop⟩ := Prod.mk.inj s₁.sameHandle.kept
      obtain ⟨hid, hstate⟩ := Prod.mk.inj hloop
      have hkept : keptEdge .ecRef c.sess.ecRefAifId c.sess.ecRefState = {.ecRef c.sess.ecRefAifId} := if_pos he
      refine ⟨hw.trans (SessionObj.wantedEdges_of_kept s₁.sameHandle.kept), ?_⟩
      rw [hedges, hid, hstate, hadd (Decidable.not_not.1 hr), SessionObj.wantedEdges, hkept, Finset.insert_eq,
        ← Finset.union_assoc, Finset.union_comm (keptEdge _ _ _)]
  · intro he
    refine (edges_openLoopback c).mono fun e c₂ h₂ => ⟨h₂.1, h₂.2.1, fun hd h0 => ?_⟩
    obtain ⟨hw, hedges⟩ := h₂.2.2 hd h0
    have hkept : keptEdge .ecRef c.sess.ecRefAifId c.sess.ecRefState = ∅ := if_neg he
    refine ⟨hw, ?_⟩
    rw [hedges, SessionObj.wantedEdges, hkept, Finset.empty_union]

/-- **The edges of a session that is opened.**  They are the ones its flags ask for; in a mode without devices the echo
reference is passed over. -/
theorem edges_sessionObjOpen {mode : SessMode} {c : Ctx} (hc : c.sess.state = .closed) (hg : c.ownEdges = ∅)
    (hfresh : ∀ h, c.hw.nextHandle ≤ h → edges c.hw.trace h = ∅) (hec : mode.hasDevices ∨ ¬ c.sess.ecRefState) :
    Sat (sessionObjOpen mode) c fun r c' => c.Tidy c' ∧ (r = 0 → c'.ownEdges = c'.sess.wantedEdges) := by
  have hbody : Sat (sessionOpenBody mode) c fun e c' => c.Tidy c' ∧ (e.1 = .unwind → e.2 ≠ 0) ∧
      (e.1 = .done → e.2 = 0 → c'.ownEdges = c'.sess.wantedEdges) := by
    unfold sessionOpenBody
    rw [sat_bind, sat_modSess, sat_ite]
    have p₀ : c.Plain (c.inMode mode) := ⟨⟨rfl, Nat.le_refl _, .inl rfl⟩, refl_of Hw.EdgesKept c.hw⟩
    constructor
    · intro hm
      refine Sat.bind (plain_sessionOpenWithFirstDevice (c.inMode mode)) fun r c₁ p₁ => ?_
      replace p₁ := trans_of Ctx.Plain p₀ p₁
      rw [sat_ite, sat_pure]
      refine ⟨fun hr => ⟨p₁.tidy, fun h => (nomatch h), fun _ h0 => absurd h0 hr⟩, fun _ => ?_⟩
      refine Sat.bind (plain_sessionConnectReminderDevices c₁) fun r c₂ p₂ => ?_
      replace p₂ := trans_of Ctx.Plain p₁ p₂
      rw [sat_ite, sat_pure]
      refine ⟨fun hr => ⟨p₂.tidy, fun h => (nomatch h), fun _ h0 => absurd h0 hr⟩, fun _ => ?_⟩
      refine (edges_openEcRef c₂).mono fun e c₃ h₃ => ⟨trans_of Ctx.Tidy p₂.tidy h₃.1, h₃.2.1, fun hd h0 => ?_⟩
      obtain ⟨hw, hedges⟩ := h₃.2.2 hd h0
      rw [hedges, p₂.ownEdges_eq_empty hg hfresh, Finset.union_empty, hw]
    · intro hm
      refine Sat.bind (plain_sessionOpenWithoutDevice (c.inMode mode)) fun r c₁ p₁ => ?_
      replace p₁ := trans_of Ctx.Plain p₀ p₁
      rw [sat_ite, sat_pure]
      refine ⟨fun hr => ⟨p₁.tidy, fun h => (nomatch h), fun _ h0 => absurd h0 hr⟩, fun _ => ?_⟩
      refine (edges_openLoopback c₁).mono fun e c₂ h₂ => ⟨trans_of Ctx.Tidy p₁.tidy h₂.1, h₂.2.1, fun hd h0 => ?_⟩
      obtain ⟨hw, hedges⟩ := h₂.2.2 hd h0
      obtain ⟨hec₁, -⟩ := Prod.mk.inj p₁.1.kept
      obtain ⟨-, hstate⟩ := Prod.mk.inj hec₁
      have hnone : keptEdge .ecRef c₁.sess.ecRefAifId c₁.sess.ecRefState = ∅ :=
        if_neg (by rw [hstate]; exact hec.resolve_left hm)
      rw [hedges, p₁.ownEdges_eq_empty hg hfresh, Finset.union_empty, hw, SessionObj.wantedEdges, hnone,
        Finset.empty_union]
  unfold sessionObjOpen
  rw [sat_bind, sat_get, if_neg (fun h => h hc)]
  refine Sat.bind hbody fun e c₁ h₁ => ?_
  obtain ⟨t₁, hne, hown⟩ := h₁
  obtain ⟨l, r⟩ := e
  cases l with
  | done =>
    dsimp only
    rw [sat_ite, sat_pure, sat_bind, sat_modSess, sat_pure]
    refine ⟨fun hr => ⟨t₁, fun h0 => absurd h0 hr⟩, fun hr => ⟨?_, fun _ => ?_⟩⟩
    · exact ⟨t₁.next, t₁.handle, t₁.others, t₁.removes⟩
    · exact hown rfl (Decidable.not_not.1 hr)
  | unwind =>
    have hend : Within Ctx.Tidy (mapEachAif disconnectOpened 0 >>= fun _ => graphClose >>= fun _ => pure r) :=
      within_bind (tidy_of_plain (within_mapEachAif plain_set plain_disconnectOpened 0)) fun _ =>
        within_bind (tidy_of_plain plain_graphClose) fun _ => within_pure _
    have hret : Sat (mapEachAif disconnectOpened 0 >>= fun _ => graphClose >>= fun _ => pure r) c₁ fun r' _ => r' = r := by
      simp only [sat_bind, sat_pure]
      exact fun _ _ _ _ _ _ => trivial
    refine ((hend c₁).and hret).mono fun r' c₂ h₂ => ⟨trans_of Ctx.Tidy t₁ h₂.1, fun h0 => ?_⟩
    exact absurd (h₂.2.symm.trans h0) (hne rfl)

/-! ## The operations -/

/-- The operations after which the edges of a session may not be those its flags ask for. -/
def losesEdge (c : Ctx) : Op → Bool
  | .setEcRef aifId state => c.sess.state ≠ .closed &&
    edgeGoesWrong (ecRefMetadata (if state then aifId else c.sess.ecRefAifId) c) c.sess.ecRefAifId c.sess.ecRefState
      aifId state c
  | .setLoopback pbId state => c.sess.state ≠ .closed &&
    edgeGoesWrong (loopbackMetadata (if state then pbId else c.sess.loopbackSessId) c) c.sess.loopbackSessId
      c.sess.loopbackState pbId state c
  | .open mode => c.sess.state = .closed && ! mode.hasDevices && c.sess.ecRefState
  | .sessAifConnect aifId aifState => losesGraph c (.sessAifConnect aifId aifState) && c.sess.wantedEdges ≠ ∅
  | .start => startsClosed c && c.sess.wantedEdges ≠ ∅
  | _ => false

/-- A session that is closed has no graph; one that is not has the edges its flags ask for. -/
structure SessionObj.EdgesRight (s : SessionObj) (trace : List Event) : Prop where
  closed : s.state = .closed → s.graph = none
  edges : s.state ≠ .closed → edgesOf trace s.handle = s.wantedEdges

/-- A closed session has no graph, hence no edges. -/
theorem SessionObj.EdgesRight.handle {s : SessionObj} {trace : List Event} (h : s.EdgesRight trace)
    (hc : s.state = .closed) : s.handle = none := by
  rw [SessionObj.handle, h.closed hc]
  rfl

/-- The operation touches no edge but its session's own, and these are right. -/
def Ctx.StaysRight (c c' : Ctx) : Prop := c.Tidy c' ∧ c'.sess.EdgesRight c'.hw.trace

theorem ecRef_notMem_keptEdge (i id : Nat) (state : Bool) : .ecRef i ∉ keptEdge .loopback id state := by
  unfold keptEdge
  split <;> simp

theorem loopback_notMem_keptEdge (i id : Nat) (state : Bool) : .loopback i ∉ keptEdge .ecRef id state := by
  unfold keptEdge
  split <;> simp

section

variable {c : Ctx} (h : c.sess.EdgesRight c.hw.trace)

include h

theorem edges_sessionObjSetEcRef {aifId : Nat} {state : Bool} (hg : ¬ losesEdge c (.setEcRef aifId state)) :
    Sat (sessionObjSetEcRef aifId state) c fun _ c' => c.StaysRight c' := by
  unfold sessionObjSetEcRef
  rw [sat_bind, sat_get, sat_ite, sat_pure]
  refine ⟨fun _ => ⟨refl_of Ctx.Tidy c, h⟩, fun hnew => ?_⟩
  by_cases hc : c.sess.state = .closed
  · -- only the flag is set
    rw [onlyIf, if_neg (Decidable.not_not.2 hc), pure_bind, if_neg (fun h => h rfl), sat_bind, sat_modSess, sat_pure]
    exact ⟨⟨Nat.le_refl _, .inl rfl, fun _ _ _ => rfl, id⟩, fun hc => h.closed hc, fun hne => absurd hc hne⟩
  · have hok : ¬ edgeGoesWrong (ecRefMetadata (if state then aifId else c.sess.ecRefAifId) c) c.sess.ecRefAifId
        c.sess.ecRefState aifId state c := by simpa [losesEdge, hc] using hg
    have hedge := edge_ecRef hnew (ecRef_notMem_keptEdge · _ _) (h.edges hc) hok
    rw [onlyIf, if_pos hc]
    refine Sat.bind ((edge_sessionSetEcRef _ state c).and hedge) fun r c₁ h₁ => ?_
    obtain ⟨s₁, hown, hedges⟩ := h₁
    have hst := congrArg SessionObj.state s₁.sess
    have hst : c₁.sess.state = c.sess.state := hst
    have t₁ := hown.tidy s₁.sameHandle
    rw [sat_ite, sat_pure, sat_bind, sat_modSess, sat_pure]
    refine ⟨fun hr => ⟨t₁, fun hc₁ => absurd (hst.symm.trans hc₁) hc, fun _ => ?_⟩, fun hr =>
      ⟨⟨t₁.next, t₁.handle, t₁.others, t₁.removes⟩, fun hc₁ => absurd (hst.symm.trans hc₁) hc, fun _ => ?_⟩⟩
    · rw [if_neg hr] at hedges
      exact hedges.trans (SessionObj.wantedEdges_of_kept s₁.sameHandle.kept).symm
    · rw [if_pos (Decidable.not_not.1 hr)] at hedges
      obtain ⟨-, hloop⟩ := Prod.mk.inj s₁.sameHandle.kept
      obtain ⟨hid, hstate⟩ := Prod.mk.inj hloop
      refine hedges.trans ?_
      rw [← hid, ← hstate]
      rfl

theorem edges_sessionObjSetLoopback {pbId : SessId} {state : Bool} (hg : ¬ losesEdge c (.setLoopback pbId state)) :
    Sat (sessionObjSetLoopback pbId state) c fun _ c' => c.StaysRight c' := by
  unfold sessionObjSetLoopback
  rw [sat_bind, sat_get, sat_ite, sat_pure]
  refine ⟨fun _ => ⟨refl_of Ctx.Tidy c, h⟩, fun hnew => ?_⟩
  by_cases hc : c.sess.state = .closed
  · -- only the flag is set
    rw [onlyIf, if_neg (Decidable.not_not.2 hc), pure_bind, if_neg (fun h => h rfl), sat_bind, sat_modSess, sat_pure]
    exact ⟨⟨Nat.le_refl _, .inl rfl, fun _ _ _ => rfl, id⟩, fun hc => h.closed hc, fun hne => absurd hc hne⟩
  · have hok : ¬ edgeGoesWrong (loopbackMetadata (if state then pbId else c.sess.loopbackSessId) c) c.sess.loopbackSessId
        c.sess.loopbackState pbId state c := by simpa [losesEdge, hc] using hg
    have hedge := edge_loopback hnew (loopback_notMem_keptEdge · _ _)
      ((h.edges hc).trans (Finset.union_comm _ _)) hok
    rw [onlyIf, if_pos hc]
    refine Sat.bind ((edge_sessionSetLoopback _ state c).and hedge) fun r c₁ h₁ => ?_
    obtain ⟨s₁, hown, hedges⟩ := h₁
    have hst := congrArg SessionObj.state s₁.sess
    have hst : c₁.sess.state = c.sess.state := hst
    have t₁ := hown.tidy s₁.sameHandle
    rw [sat_ite, sat_pure, sat_bind, sat_modSess, sat_pure]
    refine ⟨fun hr => ⟨t₁, fun hc₁ => absurd (hst.symm.trans hc₁) hc, fun _ => ?_⟩, fun hr =>
      ⟨⟨t₁.next, t₁.handle, t₁.others, t₁.removes⟩, fun hc₁ => absurd (hst.symm.trans hc₁) hc, fun _ => ?_⟩⟩
    · rw [if_neg hr] at hedges
      refine (hedges.trans (Finset.union_comm _ _)).trans ?_
      exact (SessionObj.wantedEdges_of_kept s₁.sameHandle.kept).symm
    · rw [if_pos (Decidable.not_not.1 hr)] at hedges
      obtain ⟨hec, -⟩ := Prod.mk.inj s₁.sameHandle.kept
      obtain ⟨hid, hstate⟩ := Prod.mk.inj hec
      refine (hedges.trans (Finset.union_comm _ _)).trans ?_
      rw [← hid, ← hstate]
      rfl

theorem edges_open {mode : SessMode} (hfresh : ∀ h, c.hw.nextHandle ≤ h → edges c.hw.trace h = ∅)
    (hg : ¬ losesEdge c (.open mode)) : Sat (sessionObjOpen mode) c fun _ c' => c.StaysRight c' := by
  by_cases hc : c.sess.state = .closed
  · have hnone := h.handle hc
    have hown : c.ownEdges = ∅ := by
      rw [Ctx.ownEdges, Ctx.handle, hnone]
      rfl
    have hec : mode.hasDevices ∨ ¬ c.sess.ecRefState := by
      by_contra hno
      obtain ⟨hm, he⟩ := not_or.1 hno
      exact hg (by simpa [losesEdge, hc, hm] using Decidable.not_not.1 he)
    have hface : Sat (sessionObjOpen mode) c fun r c' =>
        (r = 0 ∧ c'.sess.state = .opened) ∨ (c'.sess.state = .closed ∧ (c'.face = none ∨ c'.face = c.face)) := by
      by_cases hm : mode.hasDevices
      · refine (sat_sessionObjOpen_devices hm hc).mono fun r c' h' => ?_
        rcases h' with ⟨h0, hst, -⟩ | ⟨h0, hst, -⟩ | ⟨-, hst, -, hf, -⟩
        · exact .inl ⟨h0, hst⟩
        · exact .inl ⟨h0, hst⟩
        · exact .inr ⟨hst, hf⟩
      · refine (sat_sessionObjOpen_bare hm hc).mono fun r c' h' => ?_
        rcases h' with ⟨h0, hst, -⟩ | ⟨-, hst, hf, -⟩
        · exact .inl ⟨h0, hst⟩
        · exact .inr ⟨hst, hf⟩
    refine ((edges_sessionObjOpen hc hown hfresh hec).and hface).mono fun r c' h' => ⟨h'.1.1, ?_⟩
    rcases h'.2 with ⟨h0, hst⟩ | ⟨hst, hf⟩
    · exact ⟨fun hc' => SessionState.noConfusion (hst.symm.trans hc'), fun _ => h'.1.2 h0⟩
    · refine ⟨fun _ => Ctx.face_eq_none.1 ?_, fun hne => absurd hst hne⟩
      exact hf.elim id fun hf => hf.trans (Ctx.face_eq_none.2 (h.closed hc))
  · unfold sessionObjOpen
    rw [sat_bind, sat_get, if_pos hc, sat_pure]
    exact ⟨refl_of Ctx.Tidy c, h⟩

theorem edges_sessionClose : Sat sessionClose c fun _ c' => c.StaysRight c' := by
  by_cases hc : c.sess.state = .closed
  · refine (sat_sessionClose_closed hc).mono fun _ c' h' => ?_
    rw [h']
    exact ⟨refl_of Ctx.Tidy c, h⟩
  · refine ((sat_sessionClose_face hc).and ((kept_sessionClose c).and (grows_sessionClose c))).mono fun _ c' h' => ?_
    obtain ⟨⟨hst, hf⟩, hk, hgr⟩ := h'
    have hnone : c'.handle = none := by rw [Ctx.handle, SessionObj.handle, Ctx.face_eq_none.1 hf]; rfl
    refine ⟨⟨hgr.hw.nextHandle, .inr fun g hg => ?_, fun g _ _ => congrFun hk.edges g, hk.removes⟩, ?_⟩
    · rw [hnone] at hg
      cases hg
    · exact ⟨fun _ => Ctx.face_eq_none.1 hf, fun hne => absurd hst hne⟩

end

/-! The operations that are about no edge. -/

theorem Ctx.GraphStep.sameHandle_of_inState {c c' : Ctx} {state : GraphState} (h : c.GraphStep c')
    (hs : c.InState state c') : c.SameHandle c' := by
  refine ⟨h.aifStep.kept, h.hw.nextHandle, ?_⟩
  have hmap := congrArg (Option.map Prod.fst) hs
  rw [Option.map_map, Option.map_map] at hmap
  exact hmap

theorem same_graphPrepare : Within Ctx.SameHandle graphPrepare := fun c => (sat_graphPrepare c).mono fun _ _ h => by
  rcases h.2 with hr | hr
  · exact h.1.sameHandle_of_inState hr.2.2
  · exact h.1.aifStep.sameHandle hr.2

/-- What every step that keeps the handle stays within, preparing and starting stay within. -/
theorem stages_of_same {R : Ctx → Ctx → Prop} [IsPreorder Ctx R] (hR : ∀ c c' : Ctx, c.SameHandle c' → R c c') :
    Stages R := by
  have hpg : Within Ctx.SameHandle sessionPrepareGraph :=
    within_bind same_graphPrepare fun _ => within_ite (within_pure _) <|
      within_bind (same_modSess fun _ => ⟨rfl, rfl⟩) fun _ => within_pure _
  refine Stages.of_turns (fun c c' h hs => hR _ _ (h.sameHandle_of_sess hs)) (fun c l => hR _ _ (same_set c l))
    (fun _ _ h => hR _ _ (h.toAifStep.sameHandle h.graph)) (fun _ _ h => hR _ _ h.sameHandle)
    (same_graphPrepare.mono hR) (fun c => (sat_graphStart c).mono fun _ _ h => hR _ _ ?_)
    (fun c => (sat_graphStop c).mono fun _ _ h => hR _ _ (h.1.sameHandle_of_inState h.2)) (hpg.mono hR)
  rcases h.2 with hr | hr
  · exact h.1.sameHandle_of_inState hr.2.2
  · exact h.1.aifStep.sameHandle hr.2

theorem stages_same : Stages Ctx.SameHandle := stages_of_same fun _ _ h => h

theorem stages_new : Stages Ctx.NewHandle := stages_of_same fun _ _ h => h.newHandle

/-- The operations that are about no edge, but may be about the graph. -/
def Op.isStage : Op → Bool
  | .sessAifConnect _ _ | .prepare | .start | .stop => true
  | _ => false

theorem same_aifObjGet (aifId : Nat) : Within Ctx.SameHandle (aifObjGet aifId) := by
  refine within_bind within_get fun c => ?_
  cases c.sess.aifPool.findIdx? (fun a => a.aifId = aifId) with
  | some i => exact within_pure _
  | none =>
    cases deviceGetObj aifId c.hw with
    | error e => exact within_pure _
    | ok d => exact within_bind (same_modSess fun _ => ⟨rfl, rfl⟩) fun _ => within_pure _

theorem same_hotDisconnect (i n : Nat) : Within Ctx.SameHandle (hotDisconnect i n) :=
  within_bind (same_modSess fun _ => ⟨rfl, rfl⟩) fun _ => within_bind within_get fun _ =>
    within_bind (within_onlyIf (same_sessionDisconnectAif _ _)) fun _ => within_ite (within_pure _) <|
      within_bind (same_modSess fun _ => ⟨rfl, rfl⟩) fun _ => within_pure _

theorem new_connectAt (i n : Nat) : Within Ctx.NewHandle (connectAt i n) :=
  within_bind within_get fun _ =>
    within_bind (within_bind (new_sessionConnectAif _ n) fun _ => within_ite (within_pure _) (within_pure _)) fun _ =>
      within_bind (new_of_same (same_modSess fun _ => ⟨rfl, rfl⟩)) fun _ => within_pure _

theorem new_hotConnect (i n : Nat) : Within Ctx.NewHandle (hotConnect i n) := by
  intro c
  by_cases hc : c.sess.state = .closed
  · refine (sat_hotConnect_closed hc).mono fun _ c' h => ?_
    rw [h]
    exact ⟨rfl, Nat.le_refl _, .inl rfl⟩
  · exact stages_new.hotConnect (new_of_same (same_modSess fun _ => ⟨rfl, rfl⟩))
      (new_of_same (same_modSess fun _ => ⟨rfl, rfl⟩)) (fun a n => new_of_same (same_sessionDisconnectAif a n))
      (new_connectAt i n c) hc

theorem same_hotConnect {i : Nat} {c : Ctx} (hg : ¬ closesGraph i c) :
    Sat (hotConnect i (c.sess.countWithState .opened false)) c fun _ c' => c.SameHandle c' := by
  by_cases hc : c.sess.state = .closed
  · refine (sat_hotConnect_closed hc).mono fun _ c' h => ?_
    rw [h]
    exact ⟨rfl, Nat.le_refl _, rfl⟩
  · refine stages_same.hotConnect (same_modSess fun _ => ⟨rfl, rfl⟩) (same_modSess fun _ => ⟨rfl, rfl⟩)
      same_sessionDisconnectAif (((new_connectAt i _ c).and (sat_connectAt_face hc hg)).mono fun _ c' h => ?_) hc
    exact ⟨h.1.kept, h.1.next, Ctx.handle_of_face h.2⟩

theorem new_stage {op : Op} (h : op.isStage) : Within Ctx.NewHandle op.run := by
  cases op with
  | sessAifConnect aifId aifState =>
    refine within_bind (new_of_same (same_aifObjGet aifId)) fun r => ?_
    cases r with
    | error e => exact within_pure _
    | ok i =>
      exact within_bind within_get fun _ => within_ite (within_pure _) <|
        within_ite (new_hotConnect _ _) (new_of_same (same_hotDisconnect _ _))
  | prepare => exact stages_new.sessionPrepare
  | start => exact stages_new.sessionStart (new_of_same (same_modSess fun _ => ⟨rfl, rfl⟩))
  | stop => exact stages_new.sessionStop (new_of_same (same_modSess fun _ => ⟨rfl, rfl⟩))
  | _ => cases h

theorem same_stage {op : Op} (h : op.isStage) {c : Ctx} (hg : (∃ a b, op = .sessAifConnect a b) → ¬ losesGraph c op) :
    Sat op.run c fun _ c' => c.SameHandle c' := by
  cases op with
  | sessAifConnect aifId aifState =>
    have hget : Sat (aifObjGet aifId) c fun r c' => aifObjGet aifId c = some (r, c') := fun _ _ h => h
    refine Sat.bind (((same_aifObjGet aifId) c).and hget) fun r c₁ h₁ => ?_
    obtain ⟨s₁, heq⟩ := h₁
    cases r with
    | error e => exact (sat_pure _ _ _).2 s₁
    | ok i =>
      rw [sat_bind, sat_get, sat_ite, sat_pure]
      refine ⟨fun _ => s₁, fun _ => ?_⟩
      cases aifState with
      | true =>
        refine (same_hotConnect ?_).mono fun _ _ h => trans_of Ctx.SameHandle s₁ h
        have hg := hg ⟨_, _, rfl⟩
        rw [losesGraph, heq] at hg
        exact hg
      | false => exact (same_hotDisconnect _ _ c₁).mono fun _ _ h => trans_of Ctx.SameHandle s₁ h
  | prepare => exact stages_same.sessionPrepare c
  | start => exact stages_same.sessionStart (same_modSess fun _ => ⟨rfl, rfl⟩) c
  | stop => exact stages_same.sessionStop (same_modSess fun _ => ⟨rfl, rfl⟩) c
  | _ => cases h

theorem kept_stage {op : Op} (h : op.isStage) : Within (Ctx.OnHw Hw.EdgesKept) op.run := by
  cases op with
  | sessAifConnect aifId aifState => exact kept_sessionObjSessAifConnect aifId aifState
  | prepare => exact stages_kept.sessionPrepare
  | start => exact stages_kept.sessionStart (kept_modSess _)
  | stop => exact stages_kept.sessionStop (kept_modSess _)
  | _ => cases h

theorem notClosed_stage {op : Op} (h : op.isStage) {c : Ctx} (hc : c.sess.state ≠ .closed) :
    Sat op.run c fun _ c' => c'.sess.state ≠ .closed := by
  cases op with
  | sessAifConnect aifId aifState =>
    refine Sat.bind (sets_aifObjGet aifId c) fun r c₁ s₁ => ?_
    have hc₁ : c₁.sess.state ≠ .closed := s₁.state ▸ hc
    cases r with
    | error e => exact (sat_pure _ _ _).2 hc₁
    | ok i =>
      rw [sat_bind, sat_get, sat_ite, sat_pure, sat_ite]
      exact ⟨fun _ => hc₁, fun _ => ⟨fun _ => notClosed_hotConnect hc₁,
        fun _ => (sat_hotDisconnect_face _ _ c₁).mono fun _ _ h => h.1 ▸ hc₁⟩⟩
  | prepare => exact within_inv.1 turns_notClosed.sessionPrepare c hc
  | start => exact within_inv.1 turns_notClosed.sessionStart c hc
  | stop => exact within_inv.1 turns_notClosed.sessionStop c hc
  | _ => cases h

/-- A connect on a closed session closes no graph. -/
theorem not_losesGraph_of_closed {c : Ctx} (hc : c.sess.state = .closed) {aifId : Nat} {aifState : Bool} :
    ¬ losesGraph c (.sessAifConnect aifId aifState) := by
  cases aifState with
  | false => exact Bool.false_ne_true
  | true =>
    rw [losesGraph]
    split
    · next i c₁ heq =>
      have hc₁ : c₁.sess.state = .closed := ((sets_aifObjGet aifId c) _ _ heq).state.trans hc
      simp [closesGraph, hc₁]
    · exact Bool.false_ne_true

section

variable {c : Ctx} (h : c.sess.EdgesRight c.hw.trace)

include h

theorem edges_stage {op : Op} (hop : op.isStage) (hfresh : ∀ h, c.hw.nextHandle ≤ h → edges c.hw.trace h = ∅)
    (hg : ¬ losesEdge c op) : Sat op.run c fun _ c' => c.StaysRight c' := by
  have hclosed : Sat op.run c fun _ c' => c'.sess.state = .closed → c'.sess.graph = none := by
    by_cases hc : c.sess.state = .closed
    · refine (same_stage hop ?_).mono fun _ c' h' _ => ?_
      · rintro ⟨a, b, rfl⟩
        exact not_losesGraph_of_closed hc
      · exact Option.map_eq_none_iff.1 (h'.handle.trans (h.handle hc))
    · exact (notClosed_stage hop hc).mono fun _ c' h' hc' => absurd hc' h'
  have hplain : Sat op.run c fun _ c' => c.Plain c' := plain (new_stage hop) (kept_stage hop) c
  have hedges : Sat op.run c fun _ c' => c'.sess.state ≠ .closed → c'.ownEdges = c'.sess.wantedEdges := by
    by_cases hnone : c.sess.wantedEdges = ∅
    · -- there is no edge that could be lost
      have hempty : c.ownEdges = ∅ := by
        by_cases hc : c.sess.state = .closed
        · rw [Ctx.ownEdges, Ctx.handle, h.handle hc]
          rfl
        · exact (h.edges hc).trans hnone
      refine hplain.mono fun _ c' p _ => ?_
      rw [p.ownEdges_eq_empty hempty hfresh, SessionObj.wantedEdges_of_kept p.1.kept, hnone]
    · have hl : ¬ losesGraph c op := by
        intro hl
        refine hg ?_
        cases op with
        | sessAifConnect aifId aifState => simp [losesEdge, hl, hnone]
        | start =>
          have hl : startsClosed c = true := hl
          simp [losesEdge, hl, hnone]
        | prepare => cases hl
        | stop => cases hl
        | _ => cases hop
      have hsame := same_stage hop (c := c) fun _ => hl
      by_cases hc : c.sess.state = .closed
      · -- a closed session stays closed
        have hmatched : c.sess.Matched := ⟨h.closed, fun _ => hc⟩
        refine (hsame.and (matched_run hmatched hl)).mono fun _ c' h' hne => absurd ?_ hne
        exact h'.2.2 (Option.map_eq_none_iff.1 (h'.1.handle.trans (h.handle hc)))
      · refine (hsame.and (kept_stage hop c)).mono fun _ c' h' _ => ?_
        rw [Ctx.ownEdges_of_kept h'.1.handle h'.2, SessionObj.wantedEdges_of_kept h'.1.kept]
        exact h.edges hc
  exact (hplain.and (hclosed.and hedges)).mono fun _ c' h' => ⟨h'.1.tidy, h'.2.1, h'.2.2⟩

end

/-- Neither the edges nor what the session keeps of them have changed. -/
def Ctx.EdgesKept (c c' : Ctx) : Prop := c'.sess.keptEdges = c.sess.keptEdges ∧ c.hw.EdgesKept c'.hw

instance : IsPreorder Ctx Ctx.EdgesKept where
  refl c := ⟨rfl, refl_of Hw.EdgesKept c.hw⟩
  trans _ _ _ h h' := ⟨h'.1.trans h.1, trans_of Hw.EdgesKept h.2 h'.2⟩

theorem setFrame_edgesKept : SetFrame Ctx.EdgesKept where
  ask c k hk := ⟨rfl, traceFrame_edgesKept.ask c.hw k hk⟩
  modGraph c _ _ := ⟨rfl, refl_of Hw.EdgesKept c.hw⟩
  write c _ h := ⟨h.kept, refl_of Hw.EdgesKept c.hw⟩

/-- **One operation.** -/
theorem edges_run {c : Ctx} (h : c.sess.EdgesRight c.hw.trace) {op : Op}
    (hfresh : ∀ h, c.hw.nextHandle ≤ h → edges c.hw.trace h = ∅) (hg : ¬ losesEdge c op) :
    Sat op.run c fun _ c' => c.StaysRight c' := by
  have hsets (hop : op.onlySets) (he : ¬ op.setsEdge) : Sat op.run c fun _ c' => c.StaysRight c' := by
    refine ((sets_run hop c).and (setFrame_edgesKept.run hop he c)).mono fun _ c' h' => ?_
    obtain ⟨s, hkept, hedges⟩ := h'
    have hsame : c.SameHandle c' := ⟨hkept, s.hw.nextHandle, Ctx.handle_of_face s.face⟩
    refine ⟨Ctx.Plain.tidy ⟨hsame.newHandle, hedges⟩, fun hc => ?_, fun hc => ?_⟩
    · exact Option.map_eq_none_iff.1 (hsame.handle.trans (h.handle (s.state ▸ hc)))
    · refine (Ctx.ownEdges_of_kept hsame.handle hedges).trans ?_
      rw [SessionObj.wantedEdges_of_kept hkept]
      exact h.edges fun hc' => hc (s.state.trans hc')
  cases op with
  | sessAifConnect aifId aifState => exact edges_stage h rfl hfresh hg
  | prepare => exact edges_stage h rfl hfresh hg
  | start => exact edges_stage h rfl hfresh hg
  | stop => exact edges_stage h rfl hfresh hg
  | close => exact edges_sessionClose h
  | setLoopback pbId state => exact edges_sessionObjSetLoopback h hg
  | setEcRef aifId state => exact edges_sessionObjSetEcRef h hg
  | «open» mode => exact edges_open h hfresh hg
  | _ => exact hsets rfl Bool.false_ne_true

end Agm.Service
