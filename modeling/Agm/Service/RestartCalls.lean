import Agm.Service.OpenCalls
import Agm.Service.StartedAifs

/-!
# The calls of a restart

A back end that is connected to a started session is prepared and started with the whole session.  What
`session_prepare` and `session_start` call for is again a matter of the state before them: of the parameters that wait
in the devices, of which PCM are prepared, and of which back ends there are.  `restartHead` lists the calls up to the
device loops of `session_start`, `restartTail` those from there on.
-/

namespace Agm.Service

open Agm.Lib

/-! ## Which PCM are prepared -/

/-- The PCM is prepared. -/
def Hw.isReady (hw : Hw) (o : DevId) : Bool := (hw.devs o).refcnt.nPrepare ≠ 0

theorem Hw.isReady_iff (hw : Hw) (o : DevId) :
    hw.isReady o ↔ ¬ (hw.devs o).state.rank < DevState.prepared.rank := by
  rw [isReady, decide_eq_true_iff, (hw.devs o).ready, Nat.not_lt]

theorem Hw.isReady_of_core {hw hw' : Hw} (h : hw'.core = hw.core) : hw'.isReady = hw.isReady := by
  have := congrArg Hw.isReady h
  exact this

theorem Hw.isReady_setDev (hw : Hw) (o : DevId) (dev : DeviceObj) :
    (hw.setDev o dev).isReady = Function.update hw.isReady o (dev.refcnt.nPrepare ≠ 0) := by
  funext o'
  by_cases h : o' = o
  · rw [h, Function.update_self, isReady, setDev_devs_self]
  · rw [Function.update_of_ne h, isReady, setDev_devs_of_ne _ _ h, isReady]

theorem Hw.isReady_prepared {d : DevId} {hw : Hw} (h : hw.nOpen (hw.pcmObj d) ≠ 0) :
    (hw.prepared d).isReady = Function.update hw.isReady (hw.pcmObj d) true := by
  have hdev : (hw.prepared d).isReady =
      (hw.setDev (hw.pcmObj d) (hw.devs (hw.pcmObj d)).takePrepare).isReady := by
    unfold prepared
    split <;> rfl
  have hone : (hw.devs (hw.pcmObj d)).takePrepare.refcnt.nPrepare ≠ 0 := by
    have := (hw.devs (hw.pcmObj d)).nonneg.2.1
    rw [DeviceObj.takePrepare_refcnt h, Refcount.incPrepare]
    dsimp only
    omega
  rw [hdev, isReady_setDev, decide_eq_true hone]

theorem Hw.isReady_started (d : DevId) (hw : Hw) : (hw.started d).isReady = hw.isReady := by
  have hdev : (hw.started d).isReady =
      (hw.setDev (hw.pcmObj d) (hw.devs (hw.pcmObj d)).takeStart).isReady := rfl
  have hsame : (hw.devs (hw.pcmObj d)).takeStart.refcnt.nPrepare = (hw.devs (hw.pcmObj d)).refcnt.nPrepare := by
    unfold DeviceObj.takeStart
    split <;> rfl
  rw [hdev, isReady_setDev, hsame]
  exact Function.update_eq_self _ _

theorem Hw.answers_prepared (d : DevId) (hw : Hw) : (hw.prepared d).answers = hw.answers := by
  unfold prepared
  split <;> rfl

/-! ## One back end -/

/-- The back end is prepared before it is started. -/
def Aif.toPrepare (a : Aif) : Bool := a.state = .opened ∨ a.state = .stopped

/-- The back end after its turn in `session_prepare`. -/
def Aif.withPrepare (a : Aif) : Aif := if a.toPrepare then { a with state := .prepared } else a

/-- The back end after its turn in `session_start`. -/
def Aif.withStart (a : Aif) : Aif := if a.toPrepare ∨ a.state = .prepared then { a with state := .started } else a

/-- Which PCM are prepared after the turn of the back end. -/
def Aif.readies (hw : Hw) (a : Aif) (ready : DevId → Bool) : DevId → Bool :=
  if a.toPrepare then Function.update ready (hw.pcmObj a.devObj) true else ready

/-- The calls that prepare a back end. -/
def prepareTurn (hw : Hw) (a : Aif) (ready : DevId → Bool) : Option (List Kind) :=
  some (if a.toPrepare ∧ ¬ ready (hw.pcmObj a.devObj) then [.pcmPrepare] else [])

/-- The calls that prepare and start a back end; `none` where its PCM is not prepared any more. -/
def startTurn (hw : Hw) (a : Aif) (ready : DevId → Bool) : Option (List Kind) :=
  if a.state = .prepared ∧ ¬ ready (hw.pcmObj a.devObj) then none else prepareTurn hw a ready

/-- What the devices are, and which PCM are prepared. -/
structure Ctx.ReadyAs (hw : Hw) (ready : DevId → Bool) (c : Ctx) : Prop where
  fixed : c.hw.fixed = hw.fixed
  ready : c.hw.isReady = ready

section

variable {hw : Hw} {ready : DevId → Bool} {c : Ctx}

theorem Ctx.ReadyAs.pcmObj (h : c.ReadyAs hw ready) (d : DevId) : c.hw.pcmObj d = hw.pcmObj d := by
  rw [Hw.pcmObj_of_fixed h.fixed]

theorem passes_devicePrepare (d : DevId) (h : c.ReadyAs hw ready) :
    Passes Ctx.answers (onHw (devicePrepare d)) (· = 0) c
      (some (if ready (hw.pcmObj d) then [] else [.pcmPrepare])) fun _ c' =>
      c'.sess = c.sess ∧ c'.ReadyAs hw (Function.update ready (hw.pcmObj d) true) := by
  intro ks hks hacc
  obtain rfl := Option.some.inj hks
  have hready : ready (hw.pcmObj d) = decide ((c.hw.devs (c.hw.pcmObj d)).refcnt.nPrepare ≠ 0) := by
    rw [← h.ready, h.pcmObj, Hw.isReady]
  have hcalls : Sat (onHw (devicePrepare d)) c fun r c' => r = 0 ∧
      c'.answers = popAnswers c.answers (if ready (hw.pcmObj d) then [] else [.pcmPrepare]) := by
    unfold devicePrepare
    simp only [sat_onHw, sat_bind, sat_get, sat_ite, sat_modify, sat_pure, sat_ask, sat_crash]
    rw [hready] at hacc ⊢
    refine ⟨fun hn => ⟨trivial, ?_⟩, fun hn => ⟨fun _ => trivial, fun _ => ?_⟩⟩
    · rw [decide_eq_true hn, if_pos rfl]
      exact Hw.answers_prepared d c.hw
    · rw [decide_eq_false hn, if_neg (by simp)] at hacc ⊢
      have hans : c.hw.answer (.pcmPrepare (c.hw.pcmObj d)) = 0 := by
        rw [answer_eq_zero_iff, ← acceptsAll_singleton (by simp [Call.kind])]
        exact hacc
      refine ⟨fun hr => absurd hans hr, fun _ => ⟨trivial, ?_⟩⟩
      exact (Hw.answers_prepared d _).trans (answers_called c.hw _)
  have hlater := sat_onHw_later (sat_devicePrepare d c.hw)
  refine (hcalls.and hlater).mono fun r c' h' => ?_
  obtain ⟨⟨hr, hans⟩, -, hsess, h'⟩ := h'
  obtain ⟨-, hopen, hcore⟩ | ⟨hne, -⟩ := h'
  · have hback := hcore.trans (Hw.core_prepared d c.hw).symm
    refine ⟨hr, hans, hsess, (Hw.fixed_of_core hback).trans ?_, ?_⟩
    · rw [Hw.fixed_prepared, h.fixed]
    · rw [Hw.isReady_of_core hback, Hw.isReady_prepared hopen, h.ready, h.pcmObj]
  · exact absurd hr hne

theorem passes_prepareAif (a : Aif) (h : c.ReadyAs hw ready) :
    Passes Ctx.answers (prepareAif a) (·.1 = 0) c (prepareTurn hw a ready) fun p c' =>
      p.2 = a.withPrepare ∧ c'.sess = c.sess ∧ c'.ReadyAs hw (a.readies hw ready) := by
  unfold prepareAif prepareTurn Aif.withPrepare Aif.readies
  have hto : a.toPrepare ↔ a.state = .opened ∨ a.state = .stopped := decide_eq_true_iff
  by_cases hp : a.state = .opened ∨ a.state = .stopped
  · simp only [if_pos hp, hto.2 hp, true_and, if_true]
    have hplan : (if ¬ ready (hw.pcmObj a.devObj) = true then [Kind.pcmPrepare] else []) =
        if ready (hw.pcmObj a.devObj) = true then [] else [Kind.pcmPrepare] := ite_not _ _ _
    rw [hplan]
    intro ks hks hacc
    refine Sat.bind (passes_devicePrepare a.devObj h ks hks hacc) fun r c₁ h₁ => ?_
    rw [if_neg (fun hr => hr h₁.1), sat_pure]
    exact ⟨rfl, h₁.2.1, rfl, h₁.2.2⟩
  · have hno : ¬ a.toPrepare := fun h => hp (hto.1 h)
    simp only [if_neg hp, hno, false_and, Bool.false_eq_true, if_false]
    exact passes_pure rfl ⟨rfl, rfl, h⟩

theorem passes_startAif (a : Aif) (h : c.ReadyAs hw ready) (ha : a.toPrepare → ready (hw.pcmObj a.devObj)) :
    Passes Ctx.answers (startAif a) (·.1 = 0) c
      (if a.state = .prepared ∧ ¬ ready (hw.pcmObj a.devObj) then none else some []) fun p c' =>
      p.2 = a.withStart ∧ c'.sess = c.sess ∧ c'.ReadyAs hw ready := by
  intro ks hks hacc
  split at hks
  · cases hks
  rename_i hgood
  obtain rfl := Option.some.inj hks
  have hto : a.toPrepare ↔ a.state = .opened ∨ a.state = .stopped := decide_eq_true_iff
  unfold startAif Aif.withStart
  by_cases hs : a.state = .opened ∨ a.state = .prepared ∨ a.state = .stopped
  · have hif : a.toPrepare = true ∨ a.state = .prepared := by
      rcases hs with hs | hs | hs
      · exact .inl (hto.2 (.inl hs))
      · exact .inr hs
      · exact .inl (hto.2 (.inr hs))
    rw [if_pos hs, if_pos hif]
    have hready : ready (hw.pcmObj a.devObj) := by
      rcases hif with hp | hp
      · exact ha hp
      · by_contra hno
        exact hgood ⟨hp, hno⟩
    have hrank : ¬ (c.hw.devs (c.hw.pcmObj a.devObj)).state.rank < DevState.prepared.rank := by
      rw [← Hw.isReady_iff, h.ready, h.pcmObj]
      exact hready
    unfold deviceStart
    simp only [sat_bind, sat_onHw, sat_get, if_neg hrank, sat_modify, sat_pure]
    rw [if_neg (fun h => h rfl), sat_pure]
    refine ⟨rfl, rfl, rfl, rfl, ?_, ?_⟩
    · exact (Hw.fixed_started _ _).trans h.fixed
    · exact (Hw.isReady_started _ _).trans h.ready
  · have hif : ¬ (a.toPrepare = true ∨ a.state = .prepared) := by
      rw [hto]
      tauto
    rw [if_neg hs, if_neg hif, sat_pure]
    exact ⟨rfl, rfl, rfl, rfl, h⟩

theorem passes_prepareStartAif (a : Aif) (h : c.ReadyAs hw ready) :
    Passes Ctx.answers (prepareStartAif a) (·.1 = 0) c (startTurn hw a ready) fun p c' =>
      p.2 = a.withStart ∧ c'.sess = c.sess ∧ c'.ReadyAs hw (a.readies hw ready) := by
  have hturn : startTurn hw a ready = planThen (prepareTurn hw a ready)
        (if a.withPrepare.state = .prepared ∧ ¬ a.readies hw ready (hw.pcmObj a.withPrepare.devObj) then none
          else some []) ∧ a.withPrepare.withStart = a.withStart ∧ ¬ a.withPrepare.toPrepare := by
    unfold startTurn prepareTurn Aif.withPrepare Aif.readies planThen
    by_cases hp : a.toPrepare
    · have hne : a.state ≠ .prepared := by
        intro hs
        simp [Aif.toPrepare, hs] at hp
      simp only [hp, if_true, hne, false_and, if_false, true_and, Function.update_self, not_true_eq_false, and_false]
      refine ⟨by simp, by simp [Aif.withStart, hp], by simp [Aif.toPrepare]⟩
    · have hp : a.toPrepare = false := Bool.eq_false_iff.2 hp
      simp [hp]
  obtain ⟨hplan, hstart, hno⟩ := hturn
  rw [hplan]
  refine (passes_prepareAif a h).bind fun p c₁ hp h₁ => ?_
  obtain ⟨haif, hsess, hready⟩ := h₁
  rw [if_neg (fun hne => hne hp), haif]
  refine (passes_startAif a.withPrepare hready fun h => absurd h hno).mono fun r c₂ _ h₂ => ?_
  exact ⟨h₂.1.trans hstart, h₂.2.1.trans hsess, h₂.2.2⟩

end

/-! ## The walks -/

/-- A walk over the back ends of the session. -/
theorem passes_forEachAif {π : Type} {body : Aif → M (Int × Aif)} {calls : Aif → π → Option (List Kind)}
    {f : Aif → Aif} {next : Aif → π → π} {I : π → Ctx → Prop}
    (hI : ∀ p c l, I p c → I p { c with sess := { c.sess with aifPool := l } }) {c : Ctx}
    (step : ∀ a ∈ c.sess.aifPool, ∀ p c', I p c' →
      Passes Ctx.answers (body a) (·.1 = 0) c' (calls a p) fun r c'' => r.2 = f a ∧ I (next a p) c'')
    {p : π} (h : I p c) :
    Passes Ctx.answers (forEachAif body) (· = 0) c (walkPlan calls next c.sess.aifPool p) fun _ c' =>
      c'.sess.aifPool = c.sess.aifPool.map f ∧ I (walkEnd next c.sess.aifPool p) c' := by
  intro ks hks hacc
  unfold forEachAif
  rw [sat_bind, sat_get]
  refine Sat.bind (passes_forEach step h ks hks hacc) fun r c₁ h₁ => ?_
  rw [sat_bind, sat_modSess, sat_pure]
  exact ⟨h₁.1, h₁.2.1, h₁.2.2.1, hI _ _ _ h₁.2.2.2⟩

/-- The calls that send the parameters of the devices. -/
def paramsPlan (l : List Aif) (hw : Hw) : Option (List Kind) :=
  walkPlan (fun a hw => some (deviceParamsCalls a.devObj hw)) (fun a hw => hw.paramsSent a.devObj) l hw

/-- The calls that prepare the back ends. -/
def preparePlan (hw : Hw) (l : List Aif) (ready : DevId → Bool) : Option (List Kind) :=
  walkPlan (prepareTurn hw) (Aif.readies hw) l ready

/-- The back end sits on a slimbus port. -/
def Aif.onSlimbus (hw : Hw) (a : Aif) : Bool := (hw.devs a.devObj).intf = SLIMBUS

/-- The calls that prepare and start the back ends on slimbus ports, or the other ones. -/
def startPlan (hw : Hw) (slim : Bool) (l : List Aif) (ready : DevId → Bool) : Option (List Kind) :=
  walkPlan (fun a ready => if a.onSlimbus hw = slim then startTurn hw a ready else some [])
    (fun a ready => if a.onSlimbus hw = slim then a.readies hw ready else ready) l ready

/-- Which PCM are prepared after this walk. -/
def startEnd (hw : Hw) (slim : Bool) (l : List Aif) (ready : DevId → Bool) : DevId → Bool :=
  walkEnd (fun a ready => if a.onSlimbus hw = slim then a.readies hw ready else ready) l ready

theorem Aif.onSlimbus_of_fixed {hw hw' : Hw} (h : hw'.fixed = hw.fixed) (a : Aif) :
    a.onSlimbus hw' = a.onSlimbus hw := by
  have := congrArg (fun hw : Hw => a.onSlimbus hw) h
  exact this

section

variable {hw : Hw} {ready : DevId → Bool} {c : Ctx}

/-- With the graph there, the loop over the cached parameters of the devices. -/
theorem passes_paramsLoop {g : GraphObj} (hg : c.sess.graph = some g) :
    Passes Ctx.answers (forEachAif fun a => do
      let ret ← sessionApplyAifDeviceParams a.devObj
      pure (ret, a)) (· = 0) c (paramsPlan c.sess.aifPool c.hw) fun _ c' =>
      c'.sess = c.sess ∧ c'.hw.core = c.hw.core := by
  refine Passes.mono (@passes_forEachAif Hw _ (fun a hw => some (deviceParamsCalls a.devObj hw)) id
    (fun a hw => hw.paramsSent a.devObj)
    (fun hw c' => c'.sess.unlisted = c.sess.unlisted ∧ c'.hw.still = hw.still ∧ c'.hw.core = c.hw.core)
    (fun _ _ _ h => h) c ?_ c.hw ⟨rfl, rfl, rfl⟩) fun _ c' _ h => ⟨?_, h.2.2.2⟩
  rotate_left
  · have hl : c'.sess.aifPool = c.sess.aifPool := h.1.trans (List.map_id _)
    have hback (s : SessionObj) : s = { s.unlisted with aifPool := s.aifPool } := rfl
    rw [hback c'.sess, hback c.sess, hl, h.2.1]
  · intro a _ hw₁ c₁ h₁
    have hg₁ : c₁.sess.graph = some g := by
      have := congrArg SessionObj.graph h₁.1
      exact Eq.trans this hg
    have hcalls : deviceParamsCalls a.devObj hw₁ = deviceParamsCalls a.devObj c₁.hw :=
      eq_of_still (fun _ => rfl) h₁.2.1.symm
    rw [hcalls]
    intro ks hks hacc
    have hone := (asks_sessionApplyAifDeviceParams a.devObj hg₁).passes ks hks hacc
    refine Sat.bind (hone.and (core_sessionApplyAifDeviceParams a.devObj c₁)) fun r c₂ h₂ => (sat_pure _ _ _).2 ?_
    obtain ⟨⟨hr, hans, hsess, hstill⟩, hcore⟩ := h₂
    refine ⟨hr, hans, rfl, ?_, ?_, hcore.core.trans h₁.2.2⟩
    · rw [hsess, h₁.1]
    · rw [hstill, Hw.still_paramsSent, h₁.2.1, Hw.still_paramsSent]

theorem passes_prepareLoop (h : c.ReadyAs hw ready) :
    Passes Ctx.answers (forEachAif prepareAif) (· = 0) c (preparePlan hw c.sess.aifPool ready) fun _ c' =>
      c'.sess = { c.sess with aifPool := c.sess.aifPool.map Aif.withPrepare } ∧
        c'.ReadyAs hw (walkEnd (Aif.readies hw) c.sess.aifPool ready) := by
  have hwalk (step : _) := @passes_forEachAif (DevId → Bool) prepareAif (prepareTurn hw) Aif.withPrepare
    (Aif.readies hw) (fun ready c' => c'.sess.unlisted = c.sess.unlisted ∧ c'.ReadyAs hw ready)
    (fun _ _ _ h => ⟨h.1, h.2.fixed, h.2.ready⟩) c step ready ⟨rfl, h⟩
  refine (hwalk fun a _ ready c₁ h₁ => ?_).mono fun _ c' _ h => ⟨?_, h.2.2⟩
  · exact (passes_prepareAif a h₁.2).mono fun p c₂ _ h₂ => ⟨h₂.1, by rw [h₂.2.1, h₁.1], h₂.2.2⟩
  · have hback (s : SessionObj) : s = { s.unlisted with aifPool := s.aifPool } := rfl
    rw [hback c'.sess, h.1, h.2.1]
    rfl

/-- The two device loops of `session_start`; with `dev_prepare_first` all the back ends are prepared before. -/
theorem passes_startLoop (slim : Bool) {body : Aif → M (Int × Aif)} (hg : c.sess.graph.isSome)
    (h : c.ReadyAs hw ready)
    (step : ∀ a ∈ c.sess.aifPool, ∀ ready c', c'.ReadyAs hw ready → Passes Ctx.answers (body a) (·.1 = 0) c'
      (if a.onSlimbus hw = slim then startTurn hw a ready else some []) fun p c'' =>
        p.2 = (if a.onSlimbus hw = slim then a.withStart else a) ∧ c''.sess = c'.sess ∧
          c''.ReadyAs hw (if a.onSlimbus hw = slim then a.readies hw ready else ready)) :
    Passes Ctx.answers (forEachAif body) (· = 0) c (startPlan hw slim c.sess.aifPool ready) fun _ c' =>
      c'.sess.aifPool = c.sess.aifPool.map (fun a => if a.onSlimbus hw = slim then a.withStart else a) ∧
        c'.sess.graph.isSome ∧ c'.ReadyAs hw (startEnd hw slim c.sess.aifPool ready) := by
  refine @passes_forEachAif (DevId → Bool) body _ _ _ (fun ready c' => c'.sess.graph.isSome ∧ c'.ReadyAs hw ready)
    (fun _ _ _ h => ⟨h.1, h.2.fixed, h.2.ready⟩) c (fun a ha ready c₁ h₁ => ?_) ready ⟨hg, h⟩
  exact (step a ha ready c₁ h₁.2).mono fun p c₂ _ h₂ => ⟨h₂.1, by rw [h₂.2.1]; exact h₁.1, h₂.2.2⟩

theorem passes_startSlimbus (a : Aif) (h : c.ReadyAs hw ready) :
    Passes Ctx.answers (startSlimbus a) (·.1 = 0) c
      (if a.onSlimbus hw = true then startTurn hw a ready else some []) fun p c' =>
        p.2 = (if a.onSlimbus hw = true then a.withStart else a) ∧ c'.sess = c.sess ∧
          c'.ReadyAs hw (if a.onSlimbus hw = true then a.readies hw ready else ready) := by
  have hslim : a.onSlimbus hw = true ↔ (c.hw.devs a.devObj).intf = SLIMBUS := by
    rw [← Aif.onSlimbus_of_fixed h.fixed, Aif.onSlimbus, decide_eq_true_iff]
  have hpure : Passes Ctx.answers (pure ((0 : Int), a)) (·.1 = 0) c (some []) fun p c' =>
      p.2 = a ∧ c'.sess = c.sess ∧ c'.ReadyAs hw ready := passes_pure rfl ⟨rfl, rfl, h⟩
  intro ks hks hacc
  unfold startSlimbus
  rw [sat_bind, sat_get]
  by_cases hs : (c.hw.devs a.devObj).intf = SLIMBUS
  · rw [if_pos (hslim.2 hs)] at hks
    simp only [if_pos hs, if_pos (hslim.2 hs)]
    exact passes_prepareStartAif a h ks hks hacc
  · have hno : ¬ a.onSlimbus hw = true := fun h => hs (hslim.1 h)
    rw [if_neg hno] at hks
    simp only [if_neg hs, if_neg hno]
    exact hpure ks hks hacc

theorem passes_startOther (a : Aif) (h : c.ReadyAs hw ready) (ha : hw.build.devPrepareFirst → ¬ a.toPrepare) :
    Passes Ctx.answers (startOther a) (·.1 = 0) c
      (if a.onSlimbus hw = false then startTurn hw a ready else some []) fun p c' =>
        p.2 = (if a.onSlimbus hw = false then a.withStart else a) ∧ c'.sess = c.sess ∧
          c'.ReadyAs hw (if a.onSlimbus hw = false then a.readies hw ready else ready) := by
  have hslim : a.onSlimbus hw = false ↔ ¬ (c.hw.devs a.devObj).intf = SLIMBUS := by
    rw [← Aif.onSlimbus_of_fixed h.fixed, Aif.onSlimbus, decide_eq_false_iff_not]
  have hbuild : c.hw.build = hw.build := by
    have := congrArg Hw.build h.fixed
    exact this
  have hpure : Passes Ctx.answers (pure ((0 : Int), a)) (·.1 = 0) c (some []) fun p c' =>
      p.2 = a ∧ c'.sess = c.sess ∧ c'.ReadyAs hw ready := passes_pure rfl ⟨rfl, rfl, h⟩
  intro ks hks hacc
  unfold startOther
  rw [sat_bind, sat_get]
  by_cases hs : (c.hw.devs a.devObj).intf = SLIMBUS
  · have hno : ¬ a.onSlimbus hw = false := fun h => hslim.1 h hs
    rw [if_neg hno] at hks
    simp only [if_pos hs, if_neg hno]
    exact hpure ks hks hacc
  · rw [if_pos (hslim.2 hs)] at hks
    simp only [if_neg hs, if_pos (hslim.2 hs), hbuild]
    by_cases hf : hw.build.devPrepareFirst
    · -- it is prepared already
      have hno := ha hf
      have hturn : startTurn hw a ready =
          if a.state = .prepared ∧ ¬ ready (hw.pcmObj a.devObj) then none else some [] := by
        simp [startTurn, prepareTurn, hno]
      have hreadies : a.readies hw ready = ready := by rw [Aif.readies, if_neg hno]
      rw [hturn] at hks
      rw [if_pos hf, hreadies]
      exact passes_startAif a h (fun hp => absurd hp hno) ks hks hacc
    · rw [if_neg hf]
      exact passes_prepareStartAif a h ks hks hacc

end

/-! ## The restart -/

/-- What `session_start` asks of the two sides of a capture session, and whether it asks for it. -/
def startsUp (c : Ctx) : Bool :=
  ! (c.sess.hasDevices && c.sess.streamConfig.dir = TX) ||
    ((! c.sess.loopbackState ||
        (Ctx.peer { c with pool := c.pool.getOrCreate c.sess.loopbackSessId (sessionObjCreate c.sess.loopbackSessId) }
          c.sess.loopbackSessId).state = .started) &&
      (! c.sess.ecRefState ||
        match deviceGetObj c.sess.ecRefAifId c.hw with
        | .error _ => false
        | .ok d => c.hw.nStart (c.hw.pcmObj d) ≠ 0))

/-- The calls of `session_prepare` on a started session with devices. -/
def prepareCalls (c : Ctx) : Option (List Kind) :=
  planThen (paramsPlan c.sess.aifPool c.hw)
    (if c.hw.build.devPrepareFirst then preparePlan c.hw c.sess.aifPool c.hw.isReady else some [])

/-- The back ends after this `session_prepare`. -/
def preparedAifs (c : Ctx) : List Aif :=
  if c.hw.build.devPrepareFirst then c.sess.aifPool.map Aif.withPrepare else c.sess.aifPool

/-- Which PCM are prepared after it. -/
def preparedPcms (c : Ctx) : DevId → Bool :=
  if c.hw.build.devPrepareFirst then walkEnd (Aif.readies c.hw) c.sess.aifPool c.hw.isReady else c.hw.isReady

/-- The calls of the device loops of `session_start`, and of what comes after them. -/
def startTail (hw : Hw) (dir : Nat) (l : List Aif) (ready : DevId → Bool) : Option (List Kind) :=
  planThen (startPlan hw true l ready) <|
    planThen (some (if ¬ hw.build.devPrepareFirst then [.start] else [])) <|
      planThen (startPlan hw false l (startEnd hw true l ready))
        (some (if hw.build.devPrepareFirst ∧ dir = RX then [.start] else []))

/-- The call before the device loops of `session_start`. -/
def startHead (hw : Hw) (dir : Nat) : List Kind := if hw.build.devPrepareFirst ∧ dir = TX then [.start] else []

/-- The calls of a restart up to the device loops of `session_start`. -/
def restartHead (c : Ctx) : Option (List Kind) :=
  if c.sess.hasDevices then planThen (prepareCalls c) (some (startHead c.hw c.sess.streamConfig.dir)) else some [.start]

/-- The calls of a restart from there on. -/
def restartTail (c : Ctx) : Option (List Kind) :=
  if c.sess.hasDevices then startTail c.hw c.sess.streamConfig.dir (preparedAifs c) (preparedPcms c) else some []

section

variable {hw : Hw} {ready : DevId → Bool} {c : Ctx}

theorem Ctx.ReadyAs.told {s : SessionObj} {c' : Ctx} (h : c.ReadyAs hw ready) (ht : c.Told s c') :
    c'.ReadyAs hw ready :=
  ⟨(eq_of_still (fun _ => rfl) ht.2).trans h.fixed, (eq_of_still (fun _ => rfl) ht.2).trans h.ready⟩

theorem passes_graphStart {p : Prop} [Decidable p] (hg : c.sess.graph.isSome) (h : c.ReadyAs hw ready) :
    Passes Ctx.answers (onlyIf p graphStart) (· = 0) c (some (if p then [.start] else [])) fun _ c' =>
      c'.sess.aifPool = c.sess.aifPool ∧ c'.sess.graph.isSome ∧ c'.ReadyAs hw ready := by
  obtain ⟨g, hg⟩ := Option.isSome_iff_exists.1 hg
  unfold onlyIf
  by_cases hp : p
  · rw [if_pos hp, if_pos hp]
    have hcalls : [Kind.start] = [Kind.start] ++ [] := rfl
    rw [hcalls]
    refine Asks.passes (asks_withGraph hg ?_)
    refine (asks_askGsl (by simp [Call.kind]) c).andThen fun _ c₁ h₁ => ?_
    unfold Asks
    rw [sat_bind, sat_modGraph]
    refine asks_pure rfl ⟨by simp only [h₁.1], ?_, ?_⟩
    · simp only [h₁.1, hg, Option.map_some, Option.isSome_some]
    · exact ⟨(h.told h₁).fixed, (h.told h₁).ready⟩
  · rw [if_neg hp, if_neg hp]
    exact passes_pure rfl ⟨rfl, Option.isSome_iff_exists.2 ⟨g, hg⟩, h⟩

theorem passes_sessionPrepare (hst : c.sess.state = .started) (hd : c.sess.hasDevices)
    (hn : c.sess.countWithState .opened false ≠ 0) (hg : c.sess.graph.isSome) :
    Passes Ctx.answers sessionPrepare (· = 0) c (prepareCalls c) fun _ c' =>
      c'.sess = { c.sess with aifPool := preparedAifs c } ∧ c'.ReadyAs c.hw (preparedPcms c) := by
  obtain ⟨g, hg⟩ := Option.isSome_iff_exists.1 hg
  have hst : ¬ c.sess.state ≠ .started := fun h => h hst
  unfold sessionPrepare prepareCalls preparedAifs preparedPcms
  refine passes_get ?_
  rw [if_pos hd, if_neg hn]
  refine (passes_paramsLoop hg).bind fun r c₁ hr h₁ => ?_
  obtain ⟨hsess, hcore⟩ := h₁
  have hready : c₁.ReadyAs c.hw c.hw.isReady := ⟨Hw.fixed_of_core hcore, Hw.isReady_of_core hcore⟩
  rw [if_neg (fun h => h hr)]
  by_cases hf : c.hw.build.devPrepareFirst
  · simp only [if_pos hf]
    rw [onlyIf, if_neg (fun h => hst h.2), pure_bind, if_neg (fun h => h rfl), ← planThen_nil (preparePlan _ _ _)]
    have hloop := passes_prepareLoop hready
    rw [hsess] at hloop
    refine hloop.bind fun r c₂ hr h₂ => ?_
    rw [if_neg (fun h => h hr), if_neg (fun h => hst h.2)]
    exact passes_pure rfl h₂
  · simp only [if_neg hf]
    rw [if_neg hst]
    exact passes_pure rfl ⟨hsess, hready⟩

theorem sat_sessionStartChecks (hd : c.sess.hasDevices) (h : startsUp c) :
    Sat (onlyIf (c.sess.streamConfig.dir = TX) sessionStartChecks) c fun r c' =>
      r = 0 ∧ c'.sess = c.sess ∧ c'.hw = c.hw := by
  rw [sat_onlyIf]
  refine ⟨fun htx => ?_, fun _ => ⟨rfl, rfl, rfl⟩⟩
  simp only [startsUp, hd, htx, decide_true, Bool.and_self, Bool.not_true, Bool.false_or, Bool.and_eq_true] at h
  obtain ⟨hloop, hec⟩ := h
  unfold sessionStartChecks
  have hfirst : Sat startLoopbackCheck c fun r c' => r = 0 ∧ c'.sess = c.sess ∧ c'.hw = c.hw := by
    unfold startLoopbackCheck
    rw [sat_bind, sat_get]
    by_cases hl : c.sess.loopbackState
    · simp only [hl, Bool.not_true, Bool.false_or, decide_eq_true_iff] at hloop
      unfold sessionObjGet
      rw [if_pos hl, sat_bind, sat_modify, sat_bind, sat_get]
      simp only [hloop, ne_eq, not_true_eq_false, if_false, sat_pure]
      exact ⟨trivial, trivial, trivial⟩
    · rw [if_neg hl, sat_pure]
      exact ⟨rfl, rfl, rfl⟩
  refine Sat.bind hfirst fun r c₁ h₁ => ?_
  obtain ⟨hr, hsess, hhw⟩ := h₁
  rw [if_neg (fun h => h hr)]
  unfold startEcRefCheck
  rw [sat_bind, sat_get, hsess, hhw]
  by_cases he : c.sess.ecRefState
  · simp only [he, Bool.not_true, Bool.false_or] at hec
    rw [if_pos he]
    cases hd : deviceGetObj c.sess.ecRefAifId c.hw with
    | error e => simp [hd] at hec
    | ok d =>
      simp only [hd, decide_eq_true_iff] at hec
      have hst : deviceGetState d c.hw = .started := ((c.hw.devs (c.hw.pcmObj d)).running).1 hec
      simp only [hst, ne_eq, not_true_eq_false, if_false, sat_pure]
      exact ⟨trivial, hsess, hhw⟩
  · rw [if_neg he, sat_pure]
    exact ⟨rfl, hsess, hhw⟩

/-- The second device loop looks at none of the back ends that the first one has started. -/
theorem startPlan_after (hw : Hw) (l : List Aif) (ready : DevId → Bool) :
    startPlan hw false (l.map fun a => if a.onSlimbus hw = true then a.withStart else a) ready =
      startPlan hw false l ready := by
  have hslim (a : Aif) : a.withStart.onSlimbus hw = a.onSlimbus hw := by
    unfold Aif.withStart
    split <;> rfl
  refine walkPlan_map (fun a => ?_) (fun a => ?_) l ready
  all_goals
    by_cases hs : a.onSlimbus hw = true
    · simp only [if_pos hs, hslim]
      simp only [hs, Bool.true_eq_false, if_false]
    · simp only [if_neg hs]

theorem passes_sessionStartDevices (hg : c.sess.graph.isSome) (h : c.ReadyAs hw ready)
    (hl : hw.build.devPrepareFirst → ∀ a ∈ c.sess.aifPool, ¬ a.toPrepare) :
    Passes Ctx.answers sessionStartDevices (· = (.done, 0)) c
      (planThen (some (startHead hw c.sess.streamConfig.dir))
        (startTail hw c.sess.streamConfig.dir c.sess.aifPool ready)) fun _ _ => True := by
  have hbuild : c.hw.build = hw.build := by
    have := congrArg Hw.build h.fixed
    exact this
  unfold sessionStartDevices startHead startTail
  refine passes_get ?_
  rw [hbuild]
  refine (passes_graphStart hg h).bind fun r c₁ hr h₁ => ?_
  obtain ⟨hpool₁, hg₁, hready₁⟩ := h₁
  rw [if_neg (fun h => h hr)]
  have hslim := passes_startLoop true hg₁ hready₁ fun a _ ready c' h' => passes_startSlimbus a h'
  rw [hpool₁] at hslim
  refine hslim.bind fun r c₂ hr h₂ => ?_
  obtain ⟨hpool₂, hg₂, hready₂⟩ := h₂
  rw [if_neg (fun h => h hr)]
  refine (passes_graphStart hg₂ hready₂).bind fun r c₃ hr h₃ => ?_
  obtain ⟨hpool₃, hg₃, hready₃⟩ := h₃
  rw [if_neg (fun h => h hr)]
  have hother := passes_startLoop false hg₃ hready₃ fun a ha ready c' h' => passes_startOther a h' fun hf hp => by
    rw [hpool₃, hpool₂] at ha
    obtain ⟨b, hb, rfl⟩ := List.mem_map.1 ha
    have hno := hl hf b hb
    split at hp
    · unfold Aif.withStart at hp
      split at hp
      · simp [Aif.toPrepare] at hp
      · exact hno hp
    · exact hno hp
  rw [hpool₃, hpool₂, startPlan_after] at hother
  refine hother.bind fun r c₄ hr h₄ => ?_
  rw [if_neg (fun h => h hr), ← planThen_nil (some _)]
  refine (passes_graphStart h₄.2.1 h₄.2.2).bind fun r c₅ hr _ => ?_
  rw [if_neg (fun h => h hr)]
  exact passes_pure rfl trivial

/-- Past the call before its device loops `session_start` ends at a label, or well. -/
theorem sat_sessionStartDevices_label (hg : c.sess.graph.isSome) (h : c.ReadyAs hw ready)
    (hacc : acceptsAll c.answers (startHead hw c.sess.streamConfig.dir)) :
    Sat sessionStartDevices c fun e _ => e.1 = .done → e.2 = 0 := by
  have hany {α : Type} {m : M α} {c : Ctx} : Sat m c fun _ _ => True := fun _ _ _ => trivial
  have hbuild : c.hw.build = hw.build := by
    have := congrArg Hw.build h.fixed
    exact this
  unfold sessionStartDevices
  rw [sat_bind, sat_get, hbuild]
  refine Sat.bind (passes_graphStart hg h _ rfl hacc) fun r c₁ h₁ => ?_
  rw [if_neg (fun hr => hr h₁.1)]
  refine Sat.bind hany fun r c₂ _ => ?_
  rw [sat_ite, sat_pure]
  refine ⟨fun _ hl => absurd hl (by simp), fun _ => Sat.bind hany fun r c₃ _ => ?_⟩
  rw [sat_ite, sat_pure]
  refine ⟨fun _ hl => absurd hl (by simp), fun _ => Sat.bind hany fun r c₄ _ => ?_⟩
  rw [sat_ite, sat_pure]
  refine ⟨fun _ hl => absurd hl (by simp), fun _ => Sat.bind hany fun r c₅ _ => ?_⟩
  rw [sat_ite, sat_pure, sat_pure]
  exact ⟨fun _ hl => absurd hl (by simp), fun _ _ => rfl⟩

end

/-- No start count has moved, no other session object was touched, and the session was not started. -/
structure Ctx.StartsKept (c c' : Ctx) : Prop where
  pool : c'.pool = c.pool
  nStart : c'.hw.nStart = c.hw.nStart
  state : c'.sess.state = .started → c.sess.state = .started

instance : IsPreorder Ctx Ctx.StartsKept where
  refl _ := ⟨rfl, rfl, id⟩
  trans _ _ _ h h' := ⟨h'.pool.trans h.pool, h'.nStart.trans h.nStart, h.state ∘ h'.state⟩

theorem nStart_of_core {hw hw' : Hw} (h : hw'.core = hw.core) (o : DevId) : hw'.nStart o = hw.nStart o := by
  have := congrArg (fun hw : Hw => hw.nStart o) h
  exact this

theorem Ctx.AifStep.startsKept {c c' : Ctx} (h : c.AifStep c') (hn : ∀ o, c'.hw.nStart o = c.hw.nStart o) :
    c.StartsKept c' := ⟨h.pool, funext hn, fun hs => h.state.symm.trans hs⟩

theorem prepareStages_startsKept : PrepareStages Ctx.StartsKept := by
  have hset (c : Ctx) (l : List Aif) : c.StartsKept { c with sess := { c.sess with aifPool := l } } := ⟨rfl, rfl, id⟩
  have hgraph : Within Ctx.StartsKept graphPrepare := fun c =>
    (sat_graphPrepare c).mono fun _ _ h => h.1.aifStep.startsKept (nStart_of_core h.1.hw.core)
  refine ⟨hgraph, within_forEachAif hset fun a c => ?_, within_forEachAif hset fun a c => ?_, ?_⟩
  · refine Sat.bind (core_sessionApplyAifDeviceParams a.devObj c) fun r c₁ h₁ => (sat_pure _ _ _).2 ?_
    exact h₁.toAifStep.startsKept (nStart_of_core h₁.core)
  · refine (sat_prepareAif a c).mono fun p c' h => h.1.startsKept fun o => ?_
    obtain ⟨-, -, ⟨-, -, -, hcore⟩ | ⟨-, -, hcore⟩⟩ := h
    · rw [nStart_of_core (hcore.trans (Hw.core_prepared a.devObj c.hw).symm), Hw.nStart_prepared]
    · exact nStart_of_core hcore o
  · refine within_bind hgraph fun _ => within_ite (within_pure _) <|
      within_bind (within_modify fun c => ⟨rfl, rfl, fun h => ?_⟩) fun _ => within_pure _
    cases h

section

variable {c : Ctx}

theorem startsUp_of_kept {c' : Ctx} {l : List Aif} (hs : c'.sess = { c.sess with aifPool := l }) (h : c.StartsKept c')
    (hf : c'.hw.fixed = c.hw.fixed) : startsUp c' = startsUp c := by
  have hnum : c'.hw.numAudioIntfs = c.hw.numAudioIntfs := by
    have := congrArg Hw.numAudioIntfs hf
    exact this
  unfold startsUp Ctx.peer deviceGetObj
  rw [hs, h.pool, h.nStart, Hw.pcmObj_of_fixed hf, hnum]
  simp only [apply_ite SessionObj.state]
  rfl

theorem countWithState_preparedAifs (c : Ctx) :
    (preparedAifs c).countP (fun a => decide (AifState.opened.rank ≤ a.state.rank)) =
      c.sess.aifPool.countP fun a => decide (AifState.opened.rank ≤ a.state.rank) := by
  unfold preparedAifs
  split
  · rw [List.countP_map]
    refine List.countP_congr fun a _ => ?_
    have ho : a.withPrepare.isOpened = a.isOpened := by
      unfold Aif.withPrepare
      split
      · exact isOpened_prepared (of_decide_eq_true ‹_›)
      · rfl
    exact Bool.eq_iff_iff.1 ho
  · rfl

/-- **The restart.**  On a started session `session_prepare` and `session_start` come to the device loops of
`session_start` if the calls up to these are accepted; from there on they succeed if the rest is accepted too, and
leave no back end started otherwise. -/
theorem sat_restart (hst : c.sess.state = .started) (hn : c.sess.countWithState .opened false ≠ 0)
    (hg : c.sess.graph.isSome) (hup : startsUp c) {ks : List Kind} (hks : restartHead c = some ks)
    (hacc : acceptsAll c.answers ks) :
    Sat sessionPrepare c fun r c' => r = 0 ∧ Sat sessionStart c' fun r' c'' =>
      ((restartTail c).any (acceptsAll (popAnswers c.answers ks)) → r' = 0) ∧
        (r' ≠ 0 → ∀ a ∈ c''.sess.aifPool, ¬ a.isStarted) := by
  unfold restartHead at hks
  unfold restartTail
  by_cases hd : c.sess.hasDevices
  · rw [if_pos hd] at hks ⊢
    obtain ⟨ls, hls, ls', hhead, rfl⟩ := planThen_eq_some.1 hks
    obtain rfl := Option.some.inj hhead
    rw [acceptsAll_append, Bool.and_eq_true] at hacc
    refine ((passes_sessionPrepare hst hd hn hg ls hls hacc.1).and
      (prepareStages_startsKept.sessionPrepare c)).mono fun r c₁ h₁ => ?_
    obtain ⟨⟨hr, hans, hsess, hready⟩, hkept⟩ := h₁
    refine ⟨hr, ?_⟩
    rw [popAnswers_append, ← hans]
    rw [← hans] at hacc
    have hd₁ : c₁.sess.hasDevices := by rw [hsess]; exact hd
    have hn₁ : ¬ c₁.sess.countWithState .opened false = 0 := by
      rw [hsess]
      exact (countWithState_preparedAifs c).trans_ne hn
    have hup₁ : startsUp c₁ := (startsUp_of_kept hsess hkept hready.fixed).trans hup
    have hg₁ : c₁.sess.graph.isSome := by rw [hsess]; exact hg
    have hpool₁ : c₁.sess.aifPool = preparedAifs c := by rw [hsess]
    have hdir₁ : c₁.sess.streamConfig = c.sess.streamConfig := by rw [hsess]
    have hnone : c.hw.build.devPrepareFirst → ∀ a ∈ preparedAifs c, ¬ a.toPrepare := by
      intro hf a ha
      rw [preparedAifs, if_pos hf] at ha
      obtain ⟨b, -, rfl⟩ := List.mem_map.1 ha
      unfold Aif.withPrepare
      split
      · simp [Aif.toPrepare]
      · assumption
    generalize htail : startTail c.hw c.sess.streamConfig.dir (preparedAifs c) (preparedPcms c) = tail
    have hbody : Sat sessionStartBody c₁ fun e _ =>
        (tail.any (acceptsAll (popAnswers c₁.answers (startHead c.hw c.sess.streamConfig.dir))) → e = (.done, 0)) ∧
          (e.1 = .done → e.2 = 0) := by
      unfold sessionStartBody
      rw [sat_bind, sat_get, if_pos hd₁, if_neg hn₁]
      refine Sat.bind (sat_sessionStartChecks hd₁ hup₁) fun r c₂ h₂ => ?_
      obtain ⟨hr₂, hsess₂, hhw₂⟩ := h₂
      have hready₂ : c₂.ReadyAs c.hw (preparedPcms c) := ⟨hhw₂ ▸ hready.fixed, hhw₂ ▸ hready.ready⟩
      have hg₂ : c₂.sess.graph.isSome := by rw [hsess₂]; exact hg₁
      have hans₂ : c₂.answers = c₁.answers := by rw [Ctx.answers, hhw₂]
      have hpass := passes_sessionStartDevices hg₂ hready₂ (by rw [hsess₂, hpool₁]; exact hnone)
      have hlabel := sat_sessionStartDevices_label hg₂ hready₂ (by rw [hans₂, hsess₂, hdir₁]; exact hacc.2)
      rw [hsess₂, hpool₁, hdir₁, htail] at hpass
      rw [if_neg (fun h => h hr₂)]
      intro e c₃ he
      refine ⟨fun hany => ?_, hlabel e c₃ he⟩
      obtain ⟨ts, hts, hacct⟩ := (Option.any_eq_true _ _).1 hany
      refine (hpass _ (planThen_eq_some.2 ⟨_, rfl, ts, hts, rfl⟩) ?_ e c₃ he).1
      rw [hans₂, acceptsAll_append, Bool.and_eq_true]
      exact ⟨hacc.2, hacct⟩
    refine Sat.bind (hbody.and (sat_sessionStartBody_started c₁)) fun e c₂ h₂ => ?_
    obtain ⟨⟨hall, hdone⟩, hwalk, -, -⟩ := h₂
    have hstop {c₃ : Ctx} (hwalk₃ : c₁.WalkStep c₃) (hne : e.1 ≠ .done) :
        Sat (startDeviceStop >>= fun _ => pure e.2) c₃ fun r' c'' =>
          (tail.any (acceptsAll (popAnswers c₁.answers (startHead c.hw c.sess.streamConfig.dir))) → r' = 0) ∧
            (r' ≠ 0 → ∀ a ∈ c''.sess.aifPool, ¬ a.isStarted) := by
      have hd₃ : c₃.sess.hasDevices := by
        rw [SessionObj.hasDevices, hwalk₃.streamConfig]
        exact hd₁
      unfold startDeviceStop
      simp only [sat_bind, sat_get, if_pos hd₃, sat_pure]
      refine (sat_stopAll_started (by decide) 0 c₃).mono fun _ c₄ h₄ => ⟨fun h => ?_, fun _ => h₄.2⟩
      exact absurd (by rw [hall h]) hne
    cases he : e.1 with
    | done =>
      rw [sat_ite, sat_pure, sat_bind, sat_modSess, sat_pure]
      exact ⟨fun hr => absurd (hdone he) hr, fun _ => ⟨fun _ => rfl, fun h => absurd rfl h⟩⟩
    | unwind =>
      refine Sat.bind (sat_graphStop c₂) fun _ c₃ h₃ => ?_
      exact hstop (trans_of Ctx.WalkStep hwalk h₃.1.aifStep.walkStep) (by rw [he]; decide)
    | deviceStop => exact hstop hwalk (by rw [he]; decide)
  · rw [if_neg hd] at hks ⊢
    obtain rfl := Option.some.inj hks
    unfold sessionPrepare
    rw [sat_bind, sat_get, if_neg hd, if_neg (fun h => h hst), sat_pure]
    refine ⟨rfl, ?_⟩
    have hready : c.ReadyAs c.hw c.hw.isReady := ⟨rfl, rfl⟩
    have hstart := passes_graphStart (p := True) hg hready _ rfl hacc
    unfold sessionStart sessionStartBody
    simp only [sat_bind, sat_get, if_neg hd]
    refine Sat.mono hstart fun r c₁ h₁ => ?_
    rw [if_neg (fun h => h h₁.1)]
    simp only [sat_bind, sat_pure, sat_modSess, ne_eq, not_true_eq_false, if_false, implies_true, false_implies, and_self]

end

/-! ## The connect before it -/

/-- The state after `session_obj_sess_aif_connect` has connected its back end, but for the outside world. -/
def Ctx.afterConnect (i n : Nat) (c : Ctx) : Ctx :=
  { c with
    sess := (c.connected (c.sess.aifAt i) n).sess.setAif i { (c.sess.aifAt i).sent with state := .opened }
    hw := (c.connected (c.sess.aifAt i) n).hw }

/-- The state is the one after the connect. -/
structure Ctx.Like (c c' : Ctx) : Prop where
  sess : c'.sess = c.sess
  pool : c'.pool = c.pool
  still : c'.hw.still = c.hw.still

section

variable {c c' : Ctx}

theorem Ctx.Like.startsUp (h : c.Like c') : Service.startsUp c' = Service.startsUp c := by
  have hread (c₀ : Ctx) : Service.startsUp c₀ = Service.startsUp ⟨c₀.sess, c₀.pool, c₀.hw.still⟩ := rfl
  rw [hread c', hread c, h.sess, h.pool, h.still]

/-- Whether the loop sends parameters does not depend on the outside world. -/
theorem paramsPlan_still (l : List Aif) (hw : Hw) : paramsPlan l hw.still = paramsPlan l hw := by
  unfold paramsPlan
  induction l generalizing hw with
  | nil => rfl
  | cons a l ih =>
    rw [walkPlan, walkPlan, ← Hw.still_paramsSent, ih]
    rfl

theorem Ctx.Like.restartHead (h : c.Like c') : Service.restartHead c' = Service.restartHead c := by
  have hread (c₀ : Ctx) : Service.restartHead c₀ = Service.restartHead ⟨c₀.sess, c.pool, c₀.hw.still⟩ := by
    unfold Service.restartHead prepareCalls
    rw [paramsPlan_still]
    rfl
  rw [hread c', hread c, h.sess, h.still]

theorem Ctx.Like.restartTail (h : c.Like c') : Service.restartTail c' = Service.restartTail c := by
  have hread (c₀ : Ctx) : Service.restartTail c₀ = Service.restartTail ⟨c₀.sess, c.pool, c₀.hw.still⟩ := rfl
  rw [hread c', hread c, h.sess, h.still]

end

theorem isSome_connectedGraph {a : Aif} {n : Nat} {c : Ctx} (h : connects a n c) : (connectedGraph a n c).isSome := by
  unfold connects connectCalls at h
  rw [Bool.and_eq_true] at h
  by_contra hno
  rw [if_neg hno] at h
  exact absurd h.2 (by simp)

theorem sat_connectAt_asks {i n : Nat} {c : Ctx} : Sat (connectAt i n) c fun r c' =>
    (r = 0 ↔ connects (c.sess.aifAt i) n c) ∧ (r = 0 → (c.afterConnect i n).Like c' ∧
      ∀ ks, connectCalls (c.sess.aifAt i) n c = some ks → c'.answers = popAnswers c.answers ks) := by
  unfold connectAt
  rw [sat_bind, sat_get]
  refine Sat.bind ((sat_connectToOpened_asks _ n c).and (aifStep_connectToOpened _ n c)) fun p c₁ h₁ => ?_
  obtain ⟨⟨hp, h₁⟩, hstep⟩ := h₁
  rw [sat_bind, sat_modSess, sat_pure]
  refine ⟨hp, fun h0 => ?_⟩
  obtain ⟨haif, hto⟩ := h₁ h0
  refine ⟨⟨?_, hstep.pool, hto.still⟩, hto.answers⟩
  show c₁.sess.setAif i p.2 = _
  rw [haif, hto.sess]
  rfl

end Agm.Service
