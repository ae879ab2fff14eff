import Agm.Service.SessionSpec

/-!
# What is left of the outside world

Some results are about the calls that were made and the answers that are still to come, and about nothing else.  A
relation of that kind is a `TraceFrame` if the calls that leave GSL's graphs alone stay within it; then so does every
function of the session layer, with a hypothesis for each call it makes that is not plain.
-/

namespace Agm.Service

open Agm.Lib

/-- A relation between states that plain calls stay within, and that looks at the calls and the answers only. -/
structure TraceFrame (R : Hw → Hw → Prop) : Prop where
  ask : ∀ hw k, k.isPlain → R hw (hw.called k)
  pcm : ∀ hw k, k.isPcm → R hw (hw.called k)
  set : ∀ hw hw' : Hw, hw'.env = hw.env → hw'.trace = hw.trace → R hw hw'

/-- The relation, seen from a session operation. -/
def Ctx.OnHw (R : Hw → Hw → Prop) (c c' : Ctx) : Prop := R c.hw c'.hw

section

variable {R : Hw → Hw → Prop} [IsPreorder Hw R]

instance : IsPreorder Ctx (Ctx.OnHw R) where
  refl c := refl_of R c.hw
  trans _ _ _ h h' := trans_of R h h'

namespace TraceFrame

variable (hR : TraceFrame R)

include hR

theorem callFrame : CallFrame (Ctx.OnHw R) where
  ask c k hk := hR.ask c.hw k hk
  modGraph c _ _ := refl_of R c.hw

omit [IsPreorder Hw R] hR in
theorem onHw {α : Type} {m : Prog Hw α} (h : Within R m) : Within (Ctx.OnHw R) (onHw m) := h.zoom fun _ _ h => h

omit [IsPreorder Hw R] in
theorem within_pcm (k : Call) (hk : k.isPcm) : Within R (Service.ask k) := fun hw =>
  (sat_ask k hw _).2 (hR.pcm hw k hk)

omit [IsPreorder Hw R] in
theorem modSess (f : SessionObj → SessionObj) : Within (Ctx.OnHw R) (modSess f) :=
  within_modify fun c => hR.set c.hw c.hw rfl rfl

/-! ## Devices -/

theorem deviceOpen (d : DevId) : Within R (deviceOpen d) := by
  have hopened : Within R (modify (Hw.opened d)) := within_modify fun hw => hR.set _ _ rfl rfl
  refine within_bind within_get fun hw => within_ite (within_bind hopened fun _ => within_pure _) ?_
  exact within_bind (hR.within_pcm _ rfl) fun _ =>
    within_ite (within_pure _) (within_bind hopened fun _ => within_pure _)

theorem devicePrepare (d : DevId) : Within R (devicePrepare d) := by
  have hprepared : Within R (modify (Hw.prepared d)) := by
    refine within_modify fun hw => ?_
    unfold Hw.prepared
    split
    · exact hR.set _ _ rfl rfl
    · exact hR.set _ _ rfl rfl
  refine within_bind within_get fun hw => within_ite (within_bind hprepared fun _ => within_pure _) ?_
  exact within_ite within_crash <| within_bind (hR.within_pcm _ rfl) fun _ =>
    within_ite (within_pure _) (within_bind hprepared fun _ => within_pure _)

theorem deviceStart (d : DevId) : Within R (deviceStart d) :=
  within_bind within_get fun _ => within_ite (within_pure _) <|
    within_bind (within_modify fun hw => hR.set hw ((hw.noteStart d).started d) rfl rfl) fun _ => within_pure _

theorem deviceStop (d : DevId) : Within R (deviceStop d) := by
  have hstopped : Within R (modify (Hw.stopped d)) := by
    refine within_modify fun hw => ?_
    unfold Hw.stopped
    split
    · exact refl_of R hw
    · exact hR.set _ _ rfl rfl
  exact within_bind within_get fun hw => within_ite (within_pure _) <|
    within_bind hstopped fun _ => within_ite (hR.within_pcm _ rfl) (within_pure _)

theorem deviceClose (d : DevId) : Within R (deviceClose d) := by
  have hclosed : Within R (modify (Hw.closed d)) := by
    refine within_modify fun hw => ?_
    unfold Hw.closed
    split
    · exact refl_of R hw
    · exact hR.set _ _ rfl rfl
  exact within_bind within_get fun hw => within_ite (within_pure _) <|
    within_bind hclosed fun _ => within_ite (hR.within_pcm _ rfl) (within_pure _)

/-! ## Connecting and disconnecting -/

theorem sessionApplyParams : Within (Ctx.OnHw R) sessionApplyParams := by
  refine within_bind within_get fun c => ?_
  cases c.sess.params with
  | none => exact within_pure _
  | some p =>
    exact within_ite (within_bind (hR.callFrame.graphSetConfig p) fun _ =>
      within_bind (hR.modSess _) fun _ => within_pure _) (within_pure _)

theorem sessionApplyAifParams (a : Aif) : Within (Ctx.OnHw R) (sessionApplyAifParams a) := by
  unfold Service.sessionApplyAifParams
  cases a.params with
  | none => exact within_pure _
  | some p =>
    exact within_bind (hR.callFrame.graphSetConfig p) fun _ => within_ite (within_pure _) (within_pure _)

theorem sessionApplyAifDeviceParams (d : DevId) : Within (Ctx.OnHw R) (sessionApplyAifDeviceParams d) := by
  refine within_bind within_get fun c => ?_
  cases (c.hw.devs d).params with
  | none => exact within_pure _
  | some p =>
    refine within_ite (within_pure _) (within_bind (hR.callFrame.graphSetConfig p) fun _ => ?_)
    exact within_bind (TraceFrame.onHw (within_modify fun hw => hR.set _ _ rfl rfl)) fun _ => within_pure _

theorem sessionApplyAifTagParams (merged : Metadata) (a : Aif) :
    Within (Ctx.OnHw R) (sessionApplyAifTagParams merged a) := by
  unfold Service.sessionApplyAifTagParams
  cases a.tagConfig with
  | none => exact within_pure _
  | some cfg => exact within_bind (hR.callFrame.graphSetConfigWithTag _ _) fun _ => within_pure _

theorem sessionApplyCached (merged : Metadata) (a : Aif) : Within (Ctx.OnHw R) (sessionApplyCached merged a) :=
  within_bind hR.sessionApplyParams fun _ => within_ite (within_pure _) <|
    within_bind (hR.sessionApplyAifParams a) fun p => within_ite (within_pure _) <|
      within_bind (hR.sessionApplyAifDeviceParams _) fun _ => within_ite (within_pure _) <|
        hR.sessionApplyAifTagParams merged p.2

theorem closeDevice (a : Aif) : Within (Ctx.OnHw R) (closeDevice a) :=
  within_bind (TraceFrame.onHw (hR.deviceClose _)) fun _ => within_pure _

theorem disconnectDevice (a : Aif) : Within (Ctx.OnHw R) (disconnectDevice a) :=
  within_bind within_get fun _ => within_ite
    (within_bind (TraceFrame.onHw (hR.deviceStop _)) fun _ => TraceFrame.onHw (hR.deviceClose _))
    (TraceFrame.onHw (hR.deviceClose _))

theorem sessionDisconnectAif (a : Aif) (n : Nat)
    (hrem : ∀ hw h gkv, R hw (hw.called (.removeGraph h (.aif a.aifId) gkv))) :
    Within (Ctx.OnHw R) (sessionDisconnectAif a n) := by
  refine within_bind within_get fun c => ?_
  cases mergedMetadata a c with
  | none => exact within_pure _
  | some merged =>
    refine within_ite ?_ ?_
    · cases metadataMerge c.hw.build [some a.sessAifMeta, some (c.hw.devs a.devObj).metadata] with
      | none => exact within_pure _
      | some sessAif =>
        exact within_bind (hR.callFrame.graphStop _) fun _ => hR.disconnectDevice a
    · exact within_bind (CallFrame.graphRemove _ _ fun c h => hrem c.hw h _) fun _ => hR.disconnectDevice a

/-- A connect that counted an open device adds a graph, and perhaps removes it. -/
theorem sessionConnectAif_of_ne (a : Aif) {n : Nat} (hn : n ≠ 0)
    (hadd : ∀ hw h gkv, R hw (hw.called (.addGraph h (.aif a.aifId) gkv)))
    (hrem : ∀ hw h gkv, R hw (hw.called (.removeGraph h (.aif a.aifId) gkv))) :
    Within (Ctx.OnHw R) (sessionConnectAif a n) := by
  have hgraph (merged : Metadata) : Within (Ctx.OnHw R) (sessionConnectGraph merged a n) := by
    refine within_bind within_get fun c => ?_
    rw [if_neg hn]
    exact within_bind (hR.callFrame.graphAdd _ _ _ fun c h => hadd c.hw h _) fun _ => within_pure _
  have hbody : ∀ c, Sat (sessionConnectBody a n) c fun e c' => Ctx.OnHw R c c' ∧ e.aif.aifId = a.aifId := by
    intro c
    have hframe : Within (Ctx.OnHw R) (sessionConnectBody a n) := by
      refine within_bind within_get fun c => ?_
      cases mergedMetadata a c with
      | none => exact within_pure _
      | some merged =>
        exact within_bind (TraceFrame.onHw (hR.deviceOpen _)) fun _ => within_ite (within_pure _) <|
          within_bind (hgraph merged) fun _ => within_ite (within_pure _) <|
            within_bind (hR.sessionApplyCached merged a) fun _ => within_ite (within_pure _) (within_pure _)
    refine ((hframe c).and (sat_sessionConnectBody a n c)).mono fun e c' h => ⟨h.1, ?_⟩
    have := congrArg Aif.aifId h.2.2.1
    exact this
  intro c
  refine Sat.bind (hbody c) fun e c₁ h₁ => ?_
  obtain ⟨h₁, hid⟩ := h₁
  cases e.label with
  | done => exact (sat_pure _ _ _).2 h₁
  | graphCleanup merged =>
    have hrm : Within (Ctx.OnHw R) (graphCleanup merged e.aif n) := by
      unfold graphCleanup
      rw [if_neg hn, hid]
      exact CallFrame.graphRemove _ _ fun c h => hrem c.hw h _
    exact (within_bind hrm fun _ => within_bind (hR.closeDevice e.aif) fun _ => within_pure _) c₁ |>.mono
      fun _ _ h => trans_of R h₁ h
  | closeDevice =>
    exact (within_bind (hR.closeDevice e.aif) fun _ => within_pure _) c₁ |>.mono fun _ _ h => trans_of R h₁ h

/-- A `graph_open` that reports success opens at most one graph. -/
theorem graphOpen_ok (md : Metadata) (dev : Option DevId)
    (hopen : ∀ hw h gkv, R hw (hw.called (.gslOpen h gkv))) (c : Ctx) :
    Sat (graphOpen md dev) c fun r c' => r = 0 → Ctx.OnHw R c c' := by
  have hgsl (mods : List ModuleInfo) (c : Ctx) :
      Sat (graphOpenGsl md mods) c fun r c' => r = 0 → Ctx.OnHw R c c' := by
    unfold graphOpenGsl
    simp only [sat_bind, sat_get, sat_onHw, sat_askGsl, sat_ask, sat_ite, sat_pure, sat_modify, sat_modSess]
    refine ⟨fun hr h0 => absurd h0 hr, fun _ => ⟨fun hr h0 => absurd h0 hr, fun _ _ => ?_⟩⟩
    let hw₁ := c.hw.called (.gslOpen c.hw.nextHandle md.gkv)
    let hw₂ : Hw := { hw₁ with nextHandle := c.hw.nextHandle + 1 }
    have h₂ : R c.hw hw₂ := trans_of R (hopen c.hw _ _) (hR.set hw₁ hw₂ rfl rfl)
    exact trans_of R h₂ (hR.ask hw₂ (.registerEventCb c.hw.nextHandle) rfl)
  unfold graphOpen
  rw [sat_bind, sat_get, sat_ite]
  refine ⟨fun _ => hgsl [] c, fun _ => ?_⟩
  refine Sat.bind (hR.callFrame.getTagsWithModuleInfo md.gkv c) fun r c₁ h₁ => ?_
  rw [sat_ite, sat_pure]
  refine ⟨fun hr h0 => absurd h0 hr, fun _ => ?_⟩
  cases collectModules md.gkv dev (c.hw.acdb.tagTable md.gkv) with
  | none => exact (sat_pure _ _ _).2 fun _ => h₁
  | some mods => exact (hgsl mods c₁).mono fun r c' h h0 => trans_of R h₁ (h h0)

/-- A first connect on a closed session that succeeds opens at most one graph. -/
theorem sessionConnectAif_first_ok (a : Aif) {c : Ctx} (hc : c.sess.state = .closed)
    (hopen : ∀ hw h gkv, R hw (hw.called (.gslOpen h gkv))) :
    Sat (sessionConnectAif a 0) c fun p c' => p.1 = 0 → Ctx.OnHw R c c' := by
  have hbody : Sat (sessionConnectBody a 0) c fun e c' => e.label = .done → e.ret = 0 → Ctx.OnHw R c c' := by
    unfold sessionConnectBody
    rw [sat_bind, sat_get]
    cases mergedMetadata a c with
    | none => exact (sat_pure _ _ _).2 fun _ h0 => absurd h0 (show -ENOMEM ≠ 0 by decide)
    | some merged =>
      have hdev := (TraceFrame.onHw (hR.deviceOpen a.devObj) c).and
        (sat_onHw_later (sat_deviceOpen a.devObj c.hw))
      refine Sat.bind hdev fun r c₁ h₁ => ?_
      obtain ⟨h₁, s₁, -⟩ := h₁
      rw [sat_ite, sat_pure]
      refine ⟨fun hr _ h0 => absurd h0 hr, fun _ => ?_⟩
      have hgraph : Sat (sessionConnectGraph merged a 0) c₁ fun p c' => p.2 = 0 → Ctx.OnHw R c₁ c' := by
        unfold sessionConnectGraph
        rw [sat_bind, sat_get, if_pos rfl, if_pos (s₁.state.trans hc)]
        refine Sat.bind (hR.graphOpen_ok merged _ hopen c₁) fun r c₂ h₂ => ?_
        rw [sat_ite, sat_pure]
        refine ⟨fun hr h0 => absurd h0 hr, fun hr => ?_⟩
        have hreg : Within (Ctx.OnHw R) graphRegisterCb := CallFrame.graphRegisterCb
        refine Sat.bind (hreg c₂) fun _ c₃ h₃ => (sat_pure _ _ _).2 fun _ => ?_
        exact trans_of (Ctx.OnHw R) (h₂ (Decidable.not_not.1 hr)) h₃
      refine Sat.bind hgraph fun p c₂ h₂ => ?_
      rw [sat_ite, sat_pure]
      refine ⟨fun hp _ h0 => absurd h0 hp, fun hp => ?_⟩
      refine Sat.bind (hR.sessionApplyCached merged a c₂) fun q c₃ h₃ => ?_
      rw [sat_ite, sat_pure, sat_pure]
      refine ⟨fun _ => (nomatch ·), fun _ _ _ => ?_⟩
      exact trans_of (Ctx.OnHw R) (trans_of (Ctx.OnHw R) h₁ (h₂ (Decidable.not_not.1 hp))) h₃
  unfold sessionConnectAif
  refine Sat.bind (hbody.and (sat_sessionConnectBody a 0 c)) fun e c₁ h₁ => ?_
  obtain ⟨h₁, -, -, h₂⟩ := h₁
  have hend {m : M (Int × Aif)} {c₂ : Ctx} (hne : e.label ≠ .done) (hm : Sat m c₂ fun p _ => p.1 = e.ret) :
      Sat m c₂ fun p c' => p.1 = 0 → Ctx.OnHw R c c' := by
    refine hm.mono fun p _ hp h0 => absurd (hp.symm.trans h0) ?_
    rcases h₂ with h | h | h
    · exact absurd h.1 hne
    · exact absurd h.1 hne
    · exact h.2.1
  cases hl : e.label with
  | done => exact (sat_pure _ _ _).2 (h₁ hl)
  | graphCleanup merged =>
    refine hend (by simp [hl]) ?_
    simp only [sat_bind, sat_pure]
    exact fun _ _ _ _ _ _ => trivial
  | closeDevice =>
    refine hend (by simp [hl]) ?_
    simp only [sat_bind, sat_pure]
    exact fun _ _ _ => trivial

end TraceFrame

end

end Agm.Service
