import Agm.Service.HwFrame
import Agm.Service.OpenSpec

/-!
# Invariants of what is cached for GSL

Clients hand parameters to sessions that are not open yet; they are cached in the session and its back ends, and handed
to GSL when a back end is connected.  An invariant about them looks at the cached parameters and at the calls that
carried some.  `CacheTurns J` says what such an invariant has to satisfy; that the session functions keep it is derived
once, here.
-/

namespace Agm.Service

open Agm.Lib

/-! ## What is handed to GSL -/

/-- What a client wants GSL to have: parameters, or a configuration under a tag. -/
inductive Item
  | payload (p : Payload) | tag (cfg : TagConfig)
  deriving DecidableEq, Repr

def Call.item : Call → Option Item
  | .setCustomConfig _ p => some (.payload p)
  | .setConfig _ _ cfg => some (.tag cfg)
  | _ => none

/-- How often GSL was handed `x`. -/
def handed (x : Item) (trace : List Event) : Nat := trace.countP fun e => e.call.item = some x

@[simp] theorem handed_cons (x : Item) (e : Event) (es : List Event) :
    handed x (e :: es) = handed x es + if e.call.item = some x then 1 else 0 := by
  simp [handed, List.countP_cons]

/-- Nothing was handed over, and no cached parameters of a device were touched. -/
structure Hw.HandsNone (hw hw' : Hw) : Prop where
  handed : ∀ x, handed x hw'.trace = handed x hw.trace
  params : ∀ d, (hw'.devs d).params = (hw.devs d).params

instance : IsPreorder Hw Hw.HandsNone where
  refl _ := ⟨fun _ => rfl, fun _ => rfl⟩
  trans _ _ _ h h' := ⟨fun x => (h'.handed x).trans (h.handed x), fun d => (h'.params d).trans (h.params d)⟩

theorem Hw.handsNone_called (hw : Hw) {k : Call} (hk : k.item = none) : hw.HandsNone (hw.called k) := by
  refine ⟨fun x => ?_, fun _ => rfl⟩
  show handed x (⟨k, _⟩ :: hw.trace) = _
  rw [handed_cons, hk]
  rfl

/-- One object is written, with the parameters it had. -/
theorem Hw.handsNone_of_devs {hw hw' : Hw} (ht : hw'.trace = hw.trace)
    (hd : ∀ d, (hw'.devs d).params = (hw.devs d).params) : hw.HandsNone hw' :=
  ⟨fun x => by rw [ht], hd⟩

theorem Hw.params_of_fixed_params {hw : Hw} {o : DevId} {dev : DeviceObj} (h : dev.params = (hw.devs o).params)
    (d : DevId) : ((hw.setDev o dev).devs d).params = (hw.devs d).params := by
  by_cases hd : d = o
  · rw [hd, Hw.setDev_devs_self, h]
  · rw [Hw.setDev_devs_of_ne _ _ hd]

theorem DeviceObj.params_takePrepare (o : DeviceObj) : o.takePrepare.params = o.params := by
  unfold takePrepare; split <;> rfl
theorem DeviceObj.params_takeStart (o : DeviceObj) : o.takeStart.params = o.params := by
  unfold takeStart; split <;> rfl
theorem DeviceObj.params_dropStart (o : DeviceObj) : o.dropStart.params = o.params := by
  unfold dropStart; split <;> rfl
theorem DeviceObj.params_dropOpen (o : DeviceObj) : o.dropOpen.params = o.params := by
  unfold dropOpen; split <;> rfl

section

variable (d : DevId)

theorem handsNone_ask {k : Call} (hk : k.item = none) : Within Hw.HandsNone (ask k) :=
  fun hw => (sat_ask k hw _).2 (hw.handsNone_called hk)

theorem handsNone_deviceOpen : Within Hw.HandsNone (deviceOpen d) := by
  have hopened : Within Hw.HandsNone (modify (Hw.opened d)) :=
    within_modify fun hw => Hw.handsNone_of_devs rfl (Hw.params_of_fixed_params rfl)
  exact within_bind within_get fun hw => within_ite (within_bind hopened fun _ => within_pure _) <|
    within_bind (handsNone_ask rfl) fun _ => within_ite (within_pure _) (within_bind hopened fun _ => within_pure _)

theorem handsNone_devicePrepare : Within Hw.HandsNone (devicePrepare d) := by
  have hprepared : Within Hw.HandsNone (modify (Hw.prepared d)) := by
    refine within_modify fun hw => ?_
    unfold Hw.prepared
    split <;> exact Hw.handsNone_of_devs rfl (Hw.params_of_fixed_params (DeviceObj.params_takePrepare _))
  exact within_bind within_get fun hw => within_ite (within_bind hprepared fun _ => within_pure _) <|
    within_ite within_crash <| within_bind (handsNone_ask rfl) fun _ => within_ite (within_pure _) <|
      within_bind hprepared fun _ => within_pure _

theorem handsNone_deviceStart : Within Hw.HandsNone (deviceStart d) := by
  have hstarted : Within Hw.HandsNone (modify fun hw => (hw.noteStart d).started d) :=
    within_modify fun hw => Hw.handsNone_of_devs rfl (Hw.params_of_fixed_params (DeviceObj.params_takeStart _))
  exact within_bind within_get fun hw => within_ite (within_pure _) (within_bind hstarted fun _ => within_pure _)

theorem handsNone_deviceStop : Within Hw.HandsNone (deviceStop d) := by
  have hstopped : Within Hw.HandsNone (modify (Hw.stopped d)) := by
    refine within_modify fun hw => ?_
    unfold Hw.stopped
    split
    · exact refl_of Hw.HandsNone hw
    · exact Hw.handsNone_of_devs rfl (Hw.params_of_fixed_params (DeviceObj.params_dropStart _))
  exact within_bind within_get fun hw => within_ite (within_pure _) <|
    within_bind hstopped fun _ => within_ite (handsNone_ask rfl) (within_pure _)

theorem handsNone_deviceClose : Within Hw.HandsNone (deviceClose d) := by
  have hclosed : Within Hw.HandsNone (modify (Hw.closed d)) := by
    refine within_modify fun hw => ?_
    unfold Hw.closed
    split
    · exact refl_of Hw.HandsNone hw
    · exact Hw.handsNone_of_devs rfl (Hw.params_of_fixed_params (DeviceObj.params_dropOpen _))
  exact within_bind within_get fun hw => within_ite (within_pure _) <|
    within_bind hclosed fun _ => within_ite (handsNone_ask rfl) (within_pure _)

end

/-- The calls that carry nothing. -/
def Kind.carriesNone (k : Kind) : Bool := k ≠ .setCustomConfig && k ≠ .setConfig

theorem Call.item_of_carriesNone {k : Call} (h : k.kind.carriesNone) : k.item = none := by
  cases k <;> first | rfl | cases h

theorem hwFrame_handsNone : HwFrame Kind.carriesNone Hw.HandsNone where
  neutral hw k hk := hw.handsNone_called (Call.item_of_carriesNone (by revert hk; cases k.kind <;> decide))
  ask hw k hk := hw.handsNone_called (Call.item_of_carriesNone hk)
  handle _ _ := ⟨fun _ => rfl, fun _ => rfl⟩

/-! ## Steps that leave the cache -/

structure Ctx.CacheStep (c c' : Ctx) : Prop where
  params : c'.sess.params = c.sess.params
  aifPool : c'.sess.aifPool = c.sess.aifPool
  hw : c.hw.HandsNone c'.hw

instance : IsPreorder Ctx Ctx.CacheStep where
  refl c := ⟨rfl, rfl, refl_of Hw.HandsNone c.hw⟩
  trans _ _ _ h h' :=
    ⟨h'.params.trans h.params, h'.aifPool.trans h.aifPool, trans_of Hw.HandsNone h.hw h'.hw⟩

theorem cacheStep_of_edge {α : Type} {m : M α} (h : Within (Ctx.OnHw Hw.HandsNone) m) (hs : Within Ctx.EdgeStep m) :
    Within Ctx.CacheStep m := fun c => ((h c).and (hs c)).mono fun _ c' h' => by
  have hp := congrArg SessionObj.params h'.2.sess
  exact ⟨hp, h'.2.aifPool, h'.1⟩

theorem cacheStep_of_graph {α : Type} {m : M α} (h : Within (Ctx.OnHw Hw.HandsNone) m) (hs : Within Ctx.GraphStep m) :
    Within Ctx.CacheStep m := fun c => ((h c).and (hs c)).mono fun _ c' h' => by
  have hp := congrArg SessionObj.params h'.2.sess
  exact ⟨hp, h'.2.aifPool, h'.1⟩

theorem cacheStep_onHw {α : Type} {m : Prog Hw α} (h : Within Hw.HandsNone m) : Within Ctx.CacheStep (onHw m) :=
  fun c => (sat_onHw m c _).2 ((h c.hw).mono fun _ _ h => ⟨rfl, rfl, h⟩)

theorem cacheStep_modSess {f : SessionObj → SessionObj}
    (h : ∀ s, (f s).params = s.params ∧ (f s).aifPool = s.aifPool) : Within Ctx.CacheStep (modSess f) :=
  within_modify fun c => ⟨(h c.sess).1, (h c.sess).2, refl_of Hw.HandsNone c.hw⟩

theorem cacheStep_graphPrepare : Within Ctx.CacheStep graphPrepare :=
  cacheStep_of_graph hwFrame_handsNone.graphPrepare fun c => (sat_graphPrepare c).mono fun _ _ h => h.1

theorem cacheStep_graphStart : Within Ctx.CacheStep graphStart :=
  cacheStep_of_graph hwFrame_handsNone.graphStart fun c => (sat_graphStart c).mono fun _ _ h => h.1

theorem cacheStep_graphStop : Within Ctx.CacheStep (graphStop none) :=
  cacheStep_of_graph (hwFrame_handsNone.graphStop none) fun c => (sat_graphStop c).mono fun _ _ h => h.1

theorem cacheStep_graphClose : Within Ctx.CacheStep graphClose :=
  cacheStep_of_graph (hwFrame_handsNone.graphClose rfl) fun c => (sat_graphClose c).mono fun _ _ h => h.1

theorem cacheStep_graphOpen (md : Metadata) (dev : Option DevId) : Within Ctx.CacheStep (graphOpen md dev) :=
  cacheStep_of_graph (hwFrame_handsNone.graphOpen md dev rfl rfl) fun c => (sat_graphOpen c md dev).mono fun _ _ h => h.1

theorem cacheStep_graphRegisterCb : Within Ctx.CacheStep graphRegisterCb := within_withGraph fun _ => within_pure _

theorem cacheStep_graphRemove (md : Metadata) (o : Owner) : Within Ctx.CacheStep (graphRemove md o) :=
  cacheStep_of_edge (hwFrame_handsNone.graphRemove md o rfl) (edge_of_call (call_graphRemove md o))

theorem cacheStep_graphAdd (md : Metadata) (o : Owner) (dev : Option DevId) :
    Within Ctx.CacheStep (graphAdd md o dev) :=
  cacheStep_of_edge (hwFrame_handsNone.graphAdd md o dev rfl) (edge_of_call (call_graphAdd md o dev))

theorem cacheStep_graphChange (md : Metadata) (dev : Option DevId) : Within Ctx.CacheStep (graphChange md dev) :=
  cacheStep_of_edge (hwFrame_handsNone.graphChange md dev rfl) (edge_of_call (call_graphChange md dev))

theorem cacheStep_sessionStartChecks : Within Ctx.CacheStep sessionStartChecks :=
  cacheStep_of_edge HwFrame.sessionStartChecks edge_sessionStartChecks

theorem cacheStep_sessionSetLoopback (pbId : SessId) (enable : Bool) :
    Within Ctx.CacheStep (sessionSetLoopback pbId enable) :=
  cacheStep_of_edge (hwFrame_handsNone.sessionSetLoopback pbId enable rfl rfl) (edge_sessionSetLoopback pbId enable)

theorem cacheStep_sessionSetEcRef (aifId : Nat) (enable : Bool) :
    Within Ctx.CacheStep (sessionSetEcRef aifId enable) :=
  cacheStep_of_edge (hwFrame_handsNone.sessionSetEcRef aifId enable rfl rfl) (edge_sessionSetEcRef aifId enable)

theorem cacheStep_sessionDisconnectAif (a : Aif) (n : Nat) : Within Ctx.CacheStep (sessionDisconnectAif a n) := by
  have hdev : Within Ctx.CacheStep (disconnectDevice a) :=
    within_bind within_get fun _ => within_ite
      (within_bind (cacheStep_onHw (handsNone_deviceStop _)) fun _ => cacheStep_onHw (handsNone_deviceClose _))
      (cacheStep_onHw (handsNone_deviceClose _))
  refine within_bind within_get fun c => ?_
  cases mergedMetadata a c with
  | none => exact within_pure _
  | some merged =>
    refine within_ite ?_ (within_bind (cacheStep_graphRemove _ _) fun _ => hdev)
    cases metadataMerge c.hw.build [some a.sessAifMeta, some (c.hw.devs a.devObj).metadata] with
    | none => exact within_pure _
    | some sessAif =>
      refine within_bind (cacheStep_of_edge (hwFrame_handsNone.graphStop _) (edge_of_call ?_)) fun _ => hdev
      exact callFrame_graphCall.graphStop _

/-! ## Whole functions -/

/-- `b` is `a` in another state, perhaps without its cached configuration, and holds its device only if `a` does. -/
structure Aif.Settles (a b : Aif) : Prop where
  params : b.params = a.params
  tagConfig : b.tagConfig = a.tagConfig ∨ b.tagConfig = none
  opened : b.isOpened → a.isOpened

/-- The operations that neither open a session nor have parameters of their own. -/
def Op.leavesCache : Op → Bool
  | .open _ | .pause | .resume | .setSessParams _ | .setSessAifParams _ _ | .setSessAifParamsWithTag _ _ => false
  | _ => true

structure CacheTurns (J : Ctx → List Aif → Prop) : Prop where
  quiet : ∀ c c' l, J c l → c'.sess.params = c.sess.params → c.hw.HandsNone c'.hw → J c' l
  settle : ∀ done a b todo c, J c (done ++ a :: todo) → a.Settles b → J c (done ++ b :: todo)
  append : ∀ aifId d c l, J c l → J c (l ++ [{ aifId := aifId, devObj := d }])
  params : ∀ d c l, J c l → Sat (sessionApplyAifDeviceParams d) c fun _ c' => J c' l
  connect : ∀ done a todo n c, J c (done ++ a :: todo) →
    Sat (connectToOpened a n) c fun p c' => J c' (done ++ p.2 :: todo)

namespace CacheTurns

variable {J : Ctx → List Aif → Prop} (hJ : CacheTurns J)

include hJ

theorem step {α : Type} {m : M α} (h : Within Ctx.CacheStep m) : Within (Inv (AtPool J)) m :=
  h.mono fun c c' s hc => by
    have := hJ.quiet c c' _ hc s.params s.hw
    rwa [← s.aifPool] at this

theorem step_modSess {f : SessionObj → SessionObj} (h : ∀ s, (f s).params = s.params ∧ (f s).aifPool = s.aifPool) :
    Within (Inv (AtPool J)) (modSess f) := hJ.step (cacheStep_modSess h)

theorem set (c : Ctx) (l : List Aif) (h : J c l) : J { c with sess := { c.sess with aifPool := l } } l :=
  hJ.quiet c _ l h rfl (refl_of Hw.HandsNone c.hw)

theorem forEachAif {body : Aif → M (Int × Aif)}
    (step : ∀ done a todo c, J c (done ++ a :: todo) → Sat (body a) c fun p c' => J c' (done ++ p.2 :: todo)) :
    Within (Inv (AtPool J)) (forEachAif body) :=
  within_inv.2 fun _ hc => sat_forEachAif hJ.set step hc

theorem mapEachAif {body : Int → Aif → M (Int × Aif)}
    (step : ∀ done a todo ret c, J c (done ++ a :: todo) →
      Sat (body ret a) c fun p c' => J c' (done ++ p.2 :: todo)) (ret : Int) :
    Within (Inv (AtPool J)) (mapEachAif body ret) :=
  within_inv.2 fun _ hc => sat_mapEachAif hJ.set step hc

/-- A turn that leaves the cache and settles its back end. -/
theorem turn {m : M (Int × Aif)} {a : Aif} (hm : Within Ctx.CacheStep m)
    (ha : ∀ c, Sat m c fun p _ => a.Settles p.2) (done todo : List Aif) (c : Ctx) (h : J c (done ++ a :: todo)) :
    Sat m c fun p c' => J c' (done ++ p.2 :: todo) :=
  ((hm c).and (ha c)).mono fun p c' h' =>
    hJ.settle done a p.2 todo c' (hJ.quiet c c' _ h h'.1.params h'.1.hw) h'.2

omit hJ in
theorem settles_refl (a : Aif) : a.Settles a := ⟨rfl, .inl rfl, id⟩

theorem prepareAif (done : List Aif) (a : Aif) (todo : List Aif) (c : Ctx) (h : J c (done ++ a :: todo)) :
    Sat (prepareAif a) c fun p c' => J c' (done ++ p.2 :: todo) := by
  refine hJ.turn ?_ (fun c => (sat_prepareAif a c).mono fun p c' h' => ?_) done todo c h
  · exact within_ite (within_bind (cacheStep_onHw (handsNone_devicePrepare _)) fun _ =>
      within_ite (within_pure _) (within_pure _)) (within_pure _)
  · obtain ⟨-, -, ⟨rfl, hst, -⟩ | ⟨ha, -⟩⟩ := h'
    · exact ⟨rfl, .inl rfl, fun hb => isOpened_prepared hst ▸ hb⟩
    · rw [ha]
      exact settles_refl a

theorem startAif (done : List Aif) (a : Aif) (todo : List Aif) (c : Ctx) (h : J c (done ++ a :: todo)) :
    Sat (startAif a) c fun p c' => J c' (done ++ p.2 :: todo) := by
  refine hJ.turn ?_ (fun c => (sat_startAif a c).mono fun p c' h' => ?_) done todo c h
  · exact within_ite (within_bind (cacheStep_onHw (handsNone_deviceStart _)) fun _ =>
      within_ite (within_pure _) (within_pure _)) (within_pure _)
  · obtain ⟨-, -, ⟨rfl, hst, -⟩ | ⟨ha, -⟩⟩ := h'
    · exact ⟨rfl, .inl rfl, fun hb => isOpened_started hst ▸ hb⟩
    · rw [ha]
      exact settles_refl a

theorem prepareStartAif (done : List Aif) (a : Aif) (todo : List Aif) (c : Ctx) (h : J c (done ++ a :: todo)) :
    Sat (prepareStartAif a) c fun p c' => J c' (done ++ p.2 :: todo) := by
  refine Sat.bind (hJ.prepareAif done a todo c h) fun p c₁ h₁ => ?_
  rw [sat_ite, sat_pure]
  exact ⟨fun _ => h₁, fun _ => hJ.startAif done p.2 todo c₁ h₁⟩

theorem stages : Stages (Inv (AtPool J)) where
  graphPrepare := hJ.step cacheStep_graphPrepare
  params := by
    refine hJ.forEachAif fun done a todo c h => ?_
    exact Sat.bind (hJ.params a.devObj c _ h) fun r c₁ h₁ => (sat_pure _ _ _).2 h₁
  prepare := hJ.forEachAif hJ.prepareAif
  prepareGraph :=
    within_bind (hJ.step cacheStep_graphPrepare) fun _ => within_ite (within_pure _) <|
      within_bind (hJ.step_modSess fun _ => ⟨rfl, rfl⟩) fun _ => within_pure _
  graphStart := hJ.step cacheStep_graphStart
  graphStop := hJ.step cacheStep_graphStop
  checks := hJ.step cacheStep_sessionStartChecks
  slimbus := by
    refine hJ.forEachAif fun done a todo c h => ?_
    unfold startSlimbus
    rw [sat_bind, sat_get, sat_ite, sat_pure]
    exact ⟨fun _ => hJ.prepareStartAif done a todo c h, fun _ => h⟩
  other := by
    refine hJ.forEachAif fun done a todo c h => ?_
    unfold startOther
    rw [sat_bind, sat_get, sat_ite, sat_pure, sat_ite]
    exact ⟨fun _ => h, fun _ => ⟨fun _ => hJ.startAif done a todo c h, fun _ => hJ.prepareStartAif done a todo c h⟩⟩
  stop state hs := by
    refine hJ.mapEachAif (fun done a todo ret c h => ?_) 0
    refine hJ.turn ?_ (fun c => (sat_stopAif state ret a c).mono fun p c' h' => ?_) done todo c h
    · exact within_ite (within_bind (cacheStep_onHw (handsNone_deviceStop _)) fun _ => within_pure _) (within_pure _)
    · obtain ⟨-, -, ⟨hst, ha, -⟩ | ⟨-, ha, -⟩⟩ := h'
      · rw [ha]
        exact ⟨rfl, .inl rfl, fun hb => isOpened_stopped hst hs ▸ hb⟩
      · rw [ha]
        exact settles_refl a

theorem sessionPrepare : Within (Inv (AtPool J)) sessionPrepare := hJ.stages.sessionPrepare

theorem sessionStart : Within (Inv (AtPool J)) sessionStart := hJ.stages.sessionStart (hJ.step_modSess fun _ => ⟨rfl, rfl⟩)

theorem sessionStop : Within (Inv (AtPool J)) sessionStop := hJ.stages.sessionStop (hJ.step_modSess fun _ => ⟨rfl, rfl⟩)

theorem sessionClose : Within (Inv (AtPool J)) sessionClose := by
  have hclose (ret : Int) : Within (Inv (AtPool J)) (Service.mapEachAif closeAif ret) := by
    refine hJ.mapEachAif (fun done a todo ret c h => ?_) ret
    refine hJ.turn ?_ (fun c => (sat_closeAif ret a c).mono fun p c' h' => ?_) done todo c h
    · exact within_ite (within_bind (cacheStep_onHw (handsNone_deviceClose _)) fun _ => within_pure _) (within_pure _)
    · obtain ⟨-, -, ⟨-, ha, -⟩ | ⟨-, ha, -⟩⟩ := h'
      · rw [ha]
        exact ⟨rfl, .inr rfl, fun hb => nomatch hb⟩
      · rw [ha]
        exact ⟨rfl, .inr rfl, id⟩
  refine within_bind within_get fun c => within_ite (within_pure _) ?_
  refine within_bind (within_onlyIf (hJ.step cacheStep_graphStop)) fun _ => ?_
  refine within_bind (hJ.step cacheStep_graphClose) fun ret => within_bind (hJ.step_modSess fun _ => ⟨rfl, rfl⟩) fun _ => ?_
  exact within_bind (within_onlyIf (hclose ret)) fun _ => within_bind (hJ.step_modSess fun _ => ⟨rfl, rfl⟩) fun _ => within_pure _

/-! Connecting and disconnecting. -/

theorem setAif {c : Ctx} {i : Nat} {b : Aif} (h : AtPool J c) (hb : (c.sess.aifAt i).Settles b) :
    AtPool J { c with sess := c.sess.setAif i b } := by
  by_cases hi : i < c.sess.aifPool.length
  · obtain ⟨done, todo, hl, hset⟩ := exists_set_eq c.sess.aifPool i default hi
    have hc : J c (done ++ c.sess.aifAt i :: todo) := by
      rw [SessionObj.aifAt, ← hl]
      exact h
    show J _ (c.sess.aifPool.set i b)
    rw [hset]
    exact hJ.quiet c _ _ (hJ.settle done _ b todo c hc hb) rfl (refl_of Hw.HandsNone c.hw)
  · show J _ (c.sess.aifPool.set i b)
    rw [List.set_eq_of_length_le (Nat.not_lt.1 hi)]
    exact hJ.quiet c _ _ h rfl (refl_of Hw.HandsNone c.hw)

theorem setAifState (i : Nat) {state : AifState} (hs : state.rank < AifState.opened.rank) :
    Within (Inv (AtPool J)) (modSess (·.setAifState i state)) :=
  within_modify fun _ h => hJ.setAif h ⟨rfl, .inl rfl, fun ho => absurd (of_decide_eq_true ho) (Nat.not_le.2 hs)⟩

/-- The back end at a place of the list is connected, and written back. -/
theorem connectBack {i n : Nat} {c : Ctx} (hi : i < c.sess.aifPool.length) (h : AtPool J c) :
    Sat (connectToOpened (c.sess.aifAt i) n) c fun p c' => AtPool J { c' with sess := c'.sess.setAif i p.2 } := by
  obtain ⟨done, todo, hl, hset⟩ := exists_set_eq c.sess.aifPool i default hi
  have hc : J c (done ++ c.sess.aifAt i :: todo) := by
    rw [SessionObj.aifAt, ← hl]
    exact h
  refine ((hJ.connect done _ todo n c hc).and (aifStep_connectToOpened _ n c)).mono fun p c' h' => ?_
  show J _ (c'.sess.aifPool.set i p.2)
  rw [h'.2.aifPool, hset]
  exact hJ.quiet c' _ _ h'.1 rfl (refl_of Hw.HandsNone c'.hw)

theorem hotConnect {i n : Nat} {c : Ctx} (hi : i < c.sess.aifPool.length) (h : AtPool J c) :
    Sat (hotConnect i n) c fun _ c' => AtPool J c' := by
  have hcon : Sat (connectAt i n) c fun _ c' => AtPool J c' := by
    unfold connectAt
    rw [sat_bind, sat_get]
    refine Sat.bind (hJ.connectBack hi h) fun p c₁ h₁ => ?_
    rw [sat_bind, sat_modSess, sat_pure]
    exact h₁
  have hbody : Sat (hotConnectBody i n) c fun _ c' => AtPool J c' := by
    unfold hotConnectBody
    rw [sat_bind, sat_get, sat_ite]
    refine ⟨fun _ => ?_, fun _ => Sat.bind hcon fun r c₁ h₁ => ?_⟩
    · exact within_inv.1 (within_bind (hJ.setAifState i (by decide)) fun _ => within_pure _) c h
    · refine within_inv.1 (within_ite (within_pure _) (within_ite (within_pure _) ?_)) c₁ h₁
      refine within_bind hJ.sessionPrepare fun _ => within_ite (within_pure _) (within_ite ?_ (within_pure _))
      exact within_bind hJ.sessionStart fun _ => within_ite (within_pure _) (within_pure _)
  refine Sat.bind hbody fun e c₁ h₁ => ?_
  cases e.1 with
  | done => exact (sat_pure _ _ _).2 h₁
  | unwind =>
    refine within_inv.1 (within_bind (hJ.setAifState i (by decide)) fun _ => within_bind within_get fun c => ?_) c₁ h₁
    exact within_bind (hJ.step (cacheStep_sessionDisconnectAif _ _)) fun _ => within_pure _

theorem hotDisconnect (i n : Nat) : Within (Inv (AtPool J)) (hotDisconnect i n) := by
  refine within_bind (hJ.setAifState i (by decide)) fun _ => within_bind within_get fun c => ?_
  refine within_bind (within_onlyIf (hJ.step (cacheStep_sessionDisconnectAif _ _))) fun _ => within_ite (within_pure _) ?_
  exact within_bind (hJ.setAifState i (by decide)) fun _ => within_pure _

/-- An operation on a back end of the session, which may have to be created. -/
theorem aifObjGet {aifId : Nat} {c : Ctx} (h : AtPool J c) : Sat (aifObjGet aifId) c fun r c' =>
    AtPool J c' ∧ c'.sess.state = c.sess.state ∧ ∀ i, r = .ok i → i < c'.sess.aifPool.length := by
  refine (sat_aifObjGet aifId c).mono fun r c' h' => ?_
  cases r with
  | error e =>
    rw [h'.2]
    exact ⟨h, rfl, fun i hi => nomatch hi⟩
  | ok i =>
    have hlt : ∀ j, (Except.ok i : Except Int Nat) = .ok j → j < c'.sess.aifPool.length := by
      intro j hj
      obtain rfl := Except.ok.inj hj
      exact h'.1
    rcases h'.2 with ⟨rfl, -⟩ | ⟨-, -, rfl⟩
    · exact ⟨h, rfl, hlt⟩
    · refine ⟨?_, rfl, hlt⟩
      exact hJ.quiet c _ _ (hJ.append aifId aifId c _ h) rfl (refl_of Hw.HandsNone c.hw)

theorem sessionObjSessAifConnect (aifId : Nat) (aifState : Bool) :
    Within (Inv (AtPool J)) (sessionObjSessAifConnect aifId aifState) := by
  refine within_inv.2 fun c h => Sat.bind (hJ.aifObjGet h) fun r c₁ h₁ => ?_
  cases r with
  | error e => exact (sat_pure _ _ _).2 h₁.1
  | ok i =>
    rw [sat_bind, sat_get, sat_ite, sat_pure, sat_ite]
    refine ⟨fun _ => h₁.1, fun _ => ⟨fun _ => hJ.hotConnect (h₁.2.2 i rfl) h₁.1, fun _ => ?_⟩⟩
    exact within_inv.1 (hJ.hotDisconnect _ _) c₁ h₁.1

/-! Opening. -/

theorem sessionOpenWithFirstDevice : Within (Inv (AtPool J)) sessionOpenWithFirstDevice := by
  refine within_inv.2 fun c h => ?_
  unfold Service.sessionOpenWithFirstDevice
  rw [sat_bind, sat_get]
  cases hf : c.sess.aifPool.findIdx? (fun a => a.state = .open) with
  | none => exact (sat_pure _ _ _).2 h
  | some i =>
    obtain ⟨hi, -⟩ := List.findIdx?_eq_some_iff_getElem.1 hf
    refine Sat.bind (hJ.connectBack hi h) fun p c₁ h₁ => ?_
    rw [sat_bind, sat_modSess, sat_pure]
    exact h₁

theorem disconnectAll (ret : Int) : Within (Inv (AtPool J)) (Service.mapEachAif disconnectOpened ret) := by
  refine hJ.mapEachAif (fun done a todo ret c h => ?_) ret
  refine hJ.turn ?_ (fun c => ?_) done todo c h
  · exact within_ite (within_bind (cacheStep_sessionDisconnectAif a 1) fun _ => within_pure _) (within_pure _)
  · unfold disconnectOpened
    rw [sat_ite, sat_pure, sat_bind]
    refine ⟨fun _ _ _ _ => (sat_pure _ _ _).2 ⟨rfl, .inl rfl, fun hb => nomatch hb⟩, fun _ => settles_refl a⟩

theorem sessionConnectReminderDevices : Within (Inv (AtPool J)) sessionConnectReminderDevices := by
  refine within_bind (hJ.forEachAif fun done a todo c h => ?_) fun _ => within_ite ?_ (within_pure _)
  · unfold connectReminder
    rw [sat_ite, sat_pure]
    exact ⟨fun _ => hJ.connect done a todo 1 c h, fun _ => h⟩
  · exact within_bind (hJ.disconnectAll _) fun _ => hJ.step cacheStep_graphClose

theorem openLoopback : Within (Inv (AtPool J)) openLoopback :=
  within_bind within_get fun _ => within_ite
    (within_bind (hJ.step (cacheStep_sessionSetLoopback _ _)) fun _ => within_ite
      (within_bind (hJ.step_modSess fun _ => ⟨rfl, rfl⟩) fun _ => within_pure _) (within_pure _)) (within_pure _)

theorem openEcRef : Within (Inv (AtPool J)) openEcRef :=
  within_bind within_get fun _ => within_ite
    (within_bind (hJ.step (cacheStep_sessionSetEcRef _ _)) fun _ => within_ite
      (within_bind (hJ.step_modSess fun _ => ⟨rfl, rfl⟩) fun _ => within_pure _) hJ.openLoopback) hJ.openLoopback

/-- `session_obj_open` after its body. -/
theorem openEnd (e : OpLabel × Int) : Within (Inv (AtPool J))
    (match e.1 with
    | .done =>
      if e.2 ≠ 0 then pure e.2
      else do
        modSess fun s => { s with state := .opened }
        pure 0
    | .unwind => do
      let _ ← Service.mapEachAif disconnectOpened 0
      let _ ← graphClose
      pure e.2) := by
  cases e.1 with
  | done => exact within_ite (within_pure _) (within_bind (hJ.step_modSess fun _ => ⟨rfl, rfl⟩) fun _ => within_pure _)
  | unwind =>
    exact within_bind (hJ.disconnectAll 0) fun _ => within_bind (hJ.step cacheStep_graphClose) fun _ => within_pure _

theorem sessionObjOpen {mode : SessMode} {c : Ctx} (h : AtPool J c)
    (hbare : ¬ mode.hasDevices → c.sess.state = .closed →
      Sat sessionOpenWithoutDevice (c.inMode mode) fun _ c' => AtPool J c') :
    Sat (sessionObjOpen mode) c fun _ c' => AtPool J c' := by
  have hmode : AtPool J (c.inMode mode) := hJ.quiet c _ _ h rfl (refl_of Hw.HandsNone c.hw)
  unfold Service.sessionObjOpen
  rw [sat_bind, sat_get, sat_ite, sat_pure]
  refine ⟨fun _ => h, fun hcl => Sat.bind (Q := fun _ c' => AtPool J c') ?_ fun e c₁ h₁ => ?_⟩
  · unfold sessionOpenBody
    rw [sat_bind, sat_modSess, sat_ite]
    refine ⟨fun _ => ?_, fun hm => ?_⟩
    · refine within_inv.1 (within_bind hJ.sessionOpenWithFirstDevice fun _ => within_ite (within_pure _) ?_) _ hmode
      exact within_bind hJ.sessionConnectReminderDevices fun _ => within_ite (within_pure _) hJ.openEcRef
    · refine Sat.bind (hbare hm (not_not.1 hcl)) fun r c₁ h₁ => ?_
      exact within_inv.1 (within_ite (within_pure _) hJ.openLoopback) c₁ h₁
  · exact within_inv.1 (hJ.openEnd e) c₁ h₁

theorem run {op : Op} (hop : op.leavesCache) : Within (Inv (AtPool J)) op.run := by
  cases op with
  | sessAifConnect aifId aifState => exact hJ.sessionObjSessAifConnect aifId aifState
  | setConfig cfg format =>
    refine within_bind (hJ.step_modSess fun _ => ⟨rfl, rfl⟩) fun _ => within_ite (within_pure _) ?_
    refine within_bind (hJ.step_modSess fun _ => ⟨rfl, rfl⟩) fun _ => within_bind within_get fun c => within_ite ?_ (within_pure _)
    cases c.sess.graph with
    | none => exact within_crash
    | some g =>
      exact hJ.step (cacheStep_of_edge (hwFrame_handsNone.graphSetMediaConfigDatapath g)
        (edge_of_call (callFrame_graphCall.graphSetMediaConfigDatapath g)))
  | setNonTunnelModeConfig cfg format => exact within_bind (hJ.step_modSess fun _ => ⟨rfl, rfl⟩) fun _ => within_pure _
  | prepare => exact hJ.sessionPrepare
  | start => exact hJ.sessionStart
  | stop => exact hJ.sessionStop
  | close => exact hJ.sessionClose
  | flush =>
    exact hJ.step (cacheStep_of_edge hwFrame_handsNone.graphFlush (edge_of_call callFrame_graphCall.graphFlush))
  | suspend =>
    exact hJ.step (cacheStep_of_edge hwFrame_handsNone.graphSuspend (edge_of_call callFrame_graphCall.graphSuspend))
  | setLoopback pbId state =>
    refine within_bind within_get fun c => within_ite (within_pure _) ?_
    exact within_bind (within_onlyIf (hJ.step (cacheStep_sessionSetLoopback _ _))) fun _ =>
      within_ite (within_pure _) (within_bind (hJ.step_modSess fun _ => ⟨rfl, rfl⟩) fun _ => within_pure _)
  | setEcRef aifId state =>
    refine within_bind within_get fun c => within_ite (within_pure _) ?_
    exact within_bind (within_onlyIf (hJ.step (cacheStep_sessionSetEcRef _ _))) fun _ =>
      within_ite (within_pure _) (within_bind (hJ.step_modSess fun _ => ⟨rfl, rfl⟩) fun _ => within_pure _)
  | setSessMetadata ret md => exact within_bind (hJ.step_modSess fun _ => ⟨rfl, rfl⟩) fun _ => within_pure _
  | setSessAifMetadata aifId ret md =>
    refine within_inv.2 fun c h => Sat.bind (hJ.aifObjGet h) fun r c₁ h₁ => ?_
    cases r with
    | error e => exact (sat_pure _ _ _).2 h₁.1
    | ok i =>
      rw [sat_bind, sat_modSess, sat_pure]
      exact hJ.setAif h₁.1 ⟨rfl, .inl rfl, id⟩
  | _ => cases hop

end CacheTurns

end Agm.Service
