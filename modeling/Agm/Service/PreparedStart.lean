import Agm.Service.GroupCount
import Agm.Service.HwFrame

/-!
# A PCM is prepared before it is started

`device_prepare` prepares the PCM only while its prepare count is `0`, and `device_stop` does not touch that count: a
PCM that was stopped stays prepared for `device_start`.  `preparedSince` reads off the calls whether ALSA has prepared
the PCM since it was last stopped or opened.

What happens between two states of the service is a sequence of moves, the calls to GSL and the device functions that
were run (`Hw.Moves`); the result is about each of them.
-/

namespace Agm.Service

open Agm.Lib

/-! ## Moves -/

/-- ALSA has prepared the PCM since it was last stopped or opened. -/
def preparedSince (o : DevId) : List Event → Bool
  | [] => false
  | ⟨.pcmPrepare d, ret⟩ :: es => if d = o ∧ ret = 0 then true else preparedSince o es
  | ⟨.pcmStop d, _⟩ :: es => if d = o then false else preparedSince o es
  | ⟨.pcmOpen d, _⟩ :: es => if d = o then false else preparedSince o es
  | _ :: es => preparedSince o es

/-- One thing happens behind the sessions: a call to GSL, a device function, or the cached parameters of a device are
taken or a handle is handed out. -/
inductive Hw.Moves : Hw → Hw → Prop
  | gsl {hw : Hw} (k : Call) (hk : k.kind.isGsl) : Moves hw (hw.called k)
  | device {hw hw' : Hw} (d : DevId) (call : DevCall) (r : Int) (h : call.run d hw = some (r, hw')) : Moves hw hw'
  | params {hw : Hw} (d : DevId) : Moves hw (hw.setDev d { hw.devs d with params := none })
  | handle {hw : Hw} (n : Handle) : Moves hw { hw with nextHandle := n }

/-- A move that takes no PCM into `DEV_STARTED` that is not prepared. -/
def Hw.PreparedMove (hw hw' : Hw) : Prop :=
  hw.Moves hw' ∧ ∀ o, (hw.devs o).state ≠ .started → (hw'.devs o).state = .started → preparedSince o hw'.trace

/-- A PCM that is prepared or started was prepared by ALSA. -/
def Hw.PrepOk (hw : Hw) : Prop :=
  ∀ o, (hw.devs o).state = .prepared ∨ (hw.devs o).state = .started → preparedSince o hw.trace

section

variable {hw hw' : Hw}

theorem preparedSince_called_of_ne {o : DevId} {k : Call} (h : k ≠ .pcmPrepare o) (h₁ : k ≠ .pcmStop o)
    (h₂ : k ≠ .pcmOpen o) : preparedSince o (hw.called k).trace = preparedSince o hw.trace := by
  show preparedSince o (⟨k, hw.answer k⟩ :: hw.trace) = _
  cases k with
  | pcmPrepare d => exact if_neg fun hd => h (by rw [hd.1])
  | pcmStop d => exact if_neg fun hd => h₁ (by rw [hd])
  | pcmOpen d => exact if_neg fun hd => h₂ (by rw [hd])
  | _ => rfl

/-- A PCM that is prepared or started after the move was so before, or was prepared by it. -/
def Hw.StartsNone (hw hw' : Hw) : Prop := ∀ o, (hw'.devs o).state = .prepared ∨ (hw'.devs o).state = .started →
  ((hw'.devs o).state = (hw.devs o).state ∧ preparedSince o hw'.trace = preparedSince o hw.trace) ∨
    ((hw'.devs o).state = .prepared ∧ preparedSince o hw'.trace)

/-- No PCM is stopped that was not. -/
def Hw.StopsNone (hw hw' : Hw) : Prop := ∀ o, (hw'.devs o).state = .stopped → (hw.devs o).state = .stopped

theorem Hw.StartsNone.preparedMove (h : hw.StartsNone hw') (hm : hw.Moves hw') : hw.PreparedMove hw' := by
  refine ⟨hm, fun o hne hs => ?_⟩
  rcases h o (.inr hs) with ⟨hst, -⟩ | ⟨hst, -⟩
  · rw [hs] at hst
    exact absurd hst.symm hne
  · rw [hs] at hst
    cases hst

theorem Hw.StartsNone.prepOk (h : hw.StartsNone hw') (hp : hw.PrepOk) : hw'.PrepOk := by
  intro o ho
  rcases h o ho with ⟨hst, hps⟩ | ⟨-, hps⟩
  · rw [hst] at ho
    rw [hps]
    exact hp o ho
  · exact hps

theorem Hw.startsNone_called {k : Call} (hk : k.kind.isGsl) (hw : Hw) : hw.StartsNone (hw.called k) := by
  intro o _
  refine .inl ⟨rfl, preparedSince_called_of_ne ?_ ?_ ?_⟩ <;> rintro rfl <;> cases hk

/-- Nothing happens to the calls, and one object is written that keeps its state. -/
theorem Hw.startsNone_set (o : DevId) (dev : DeviceObj) (hw : Hw) (h : dev.state = (hw.devs o).state)
    (htrace : hw'.trace = hw.trace) (hdevs : ∀ p, hw'.devs p = if p = o then dev else hw.devs p) :
    hw.StartsNone hw' ∧ hw.StopsNone hw' := by
  have hst (p : DevId) : (hw'.devs p).state = (hw.devs p).state := by
    rw [hdevs]
    by_cases hp : p = o
    · rw [if_pos hp, h, hp]
    · rw [if_neg hp]
  refine ⟨fun p _ => .inl ⟨hst p, by rw [htrace]⟩, fun p hs => ?_⟩
  rw [hst] at hs
  exact hs

theorem Hw.startsNone_params (hw : Hw) (d : DevId) :
    hw.StartsNone (hw.setDev d { hw.devs d with params := none }) ∧
      hw.StopsNone (hw.setDev d { hw.devs d with params := none }) :=
  Hw.startsNone_set d { hw.devs d with params := none } hw rfl rfl fun _ => rfl

/-- A call is made on one PCM, and its object is written: it is not started, and prepared only if the call has prepared
it. -/
theorem Hw.startsNone_pcm {o : DevId} {dev : DeviceObj} (hw : Hw) {k : Call} {ret : Int}
    (hk : k = .pcmOpen o ∨ k = .pcmPrepare o ∨ k = .pcmStop o ∨ k = .pcmClose o)
    (htrace : hw'.trace = ⟨k, ret⟩ :: hw.trace) (hdevs : ∀ p, hw'.devs p = if p = o then dev else hw.devs p)
    (hs : dev.state ≠ .started) (hp : dev.state = .prepared → k = .pcmPrepare o ∧ ret = 0) : hw.StartsNone hw' := by
  intro p hst
  by_cases hpo : p = o
  · rw [hdevs, if_pos hpo] at hst ⊢
    rcases hst with hst | hst
    · obtain ⟨rfl, rfl⟩ := hp hst
      refine .inr ⟨hst, ?_⟩
      rw [htrace]
      simp [preparedSince, hpo]
    · exact absurd hst hs
  · rw [hdevs, if_neg hpo]
    refine .inl ⟨rfl, ?_⟩
    rw [htrace]
    rcases hk with rfl | rfl | rfl | rfl <;> simp [preparedSince, Ne.symm hpo]

end

/-! ## The device functions -/

theorem Hw.devs_self (hw : Hw) (o p : DevId) : hw.devs p = if p = o then hw.devs o else hw.devs p := by
  by_cases h : p = o
  · rw [if_pos h, h]
  · rw [if_neg h]

theorem Hw.prepared_devs (hw : Hw) (d o : DevId) :
    (hw.prepared d).devs o = if o = hw.pcmObj d then (hw.devs (hw.pcmObj d)).takePrepare else hw.devs o := by
  unfold Hw.prepared Hw.setDev
  split <;> rfl

theorem Hw.stopped_devs {hw : Hw} {d : DevId} (h : (hw.devs (hw.pcmObj d)).refcnt.nStart ≠ 0) (o : DevId) :
    (hw.stopped d).devs o = if o = hw.pcmObj d then (hw.devs (hw.pcmObj d)).dropStart else hw.devs o := by
  unfold Hw.stopped Hw.setDev
  rw [if_neg h]
  rfl

section

variable (d : DevId) (hw : Hw)

theorem startsNone_deviceOpen :
    Sat (deviceOpen d) hw fun _ hw' => hw.StartsNone hw' ∧ hw.StopsNone hw' := by
  unfold deviceOpen
  simp only [sat_bind, sat_get, sat_ite, sat_modify, sat_pure, sat_ask]
  have hdevs (p : DevId) : (hw.opened d).devs p =
      if p = hw.pcmObj d then (hw.devs (hw.pcmObj d)).takeOpen else hw.devs p := by
    rw [Hw.opened_devs]
    by_cases h : p = hw.pcmObj d <;> simp [h]
  refine ⟨fun h => Hw.startsNone_set _ _ hw (if_neg h) rfl hdevs, fun h => ?_⟩
  have h0 : (hw.devs (hw.pcmObj d)).refcnt.nOpen = 0 := not_not.1 h
  have hcl := ((hw.devs (hw.pcmObj d)).idle h0).2.2
  have hopen : (hw.devs (hw.pcmObj d)).takeOpen.state = .opened := if_pos h0
  refine ⟨fun _ => ⟨?_, fun _ hs => hs⟩, fun _ => ⟨?_, fun p hs => ?_⟩⟩
  · refine Hw.startsNone_pcm hw (.inl rfl) rfl (hw.devs_self _) ?_ ?_ <;> rw [hcl] <;>
      exact fun h => DevState.noConfusion h
  · refine Hw.startsNone_pcm hw (.inl rfl) rfl hdevs ?_ ?_ <;> rw [hopen] <;> exact fun h => DevState.noConfusion h
  · rw [show (((hw.called (.pcmOpen (hw.pcmObj d))).opened d).devs p) = _ from hdevs p] at hs
    split at hs
    · rw [hopen] at hs
      cases hs
    · exact hs

theorem startsNone_devicePrepare :
    Sat (devicePrepare d) hw fun _ hw' => hw.StartsNone hw' ∧ hw.StopsNone hw' := by
  unfold devicePrepare
  simp only [sat_bind, sat_get, sat_ite, sat_modify, sat_pure, sat_ask, sat_crash]
  have htrace : (hw.prepared d).trace = hw.trace := by
    unfold Hw.prepared
    split <;> rfl
  refine ⟨fun h => ?_, fun h => ⟨fun _ => trivial, fun ho => ⟨fun hr => ⟨?_, fun _ hs => hs⟩, fun hr => ?_⟩⟩⟩
  · refine Hw.startsNone_set _ _ hw ?_ htrace (hw.prepared_devs d)
    unfold DeviceObj.takePrepare
    by_cases ho : (hw.devs (hw.pcmObj d)).refcnt.nOpen = 0
    · rw [dif_pos ho]
    · rw [dif_neg ho]
      exact if_neg h
  · intro o _
    refine .inl ⟨rfl, ?_⟩
    show preparedSince o (⟨.pcmPrepare _, _⟩ :: hw.trace) = _
    rw [preparedSince, if_neg fun h => hr h.2]
  · have h0 : (hw.devs (hw.pcmObj d)).refcnt.nPrepare = 0 := not_not.1 h
    have hst : (hw.devs (hw.pcmObj d)).takePrepare.state = .prepared := by
      unfold DeviceObj.takePrepare
      rw [dif_neg ho]
      exact if_pos h0
    have hdevs (p : DevId) : ((hw.called (.pcmPrepare (hw.pcmObj d))).prepared d).devs p =
        if p = hw.pcmObj d then (hw.devs (hw.pcmObj d)).takePrepare else hw.devs p := Hw.prepared_devs _ d p
    refine ⟨Hw.startsNone_pcm hw (.inr (.inl rfl)) ?_ hdevs ?_ fun _ => ⟨rfl, not_not.1 hr⟩, fun p hs => ?_⟩
    · unfold Hw.prepared
      split <;> rfl
    · rw [hst]
      exact fun h => DevState.noConfusion h
    · rw [hdevs] at hs
      split at hs
      · rw [hst] at hs
        cases hs
      · exact hs

theorem startsNone_deviceStop : Sat (deviceStop d) hw fun _ hw' => hw.StartsNone hw' := by
  unfold deviceStop
  simp only [sat_bind, sat_get, sat_ite, sat_modify, sat_pure, sat_ask]
  refine ⟨fun _ o _ => .inl ⟨rfl, rfl⟩, fun h => ?_⟩
  have htrace : (hw.stopped d).trace = hw.trace := by
    unfold Hw.stopped
    split <;> rfl
  have hst : (hw.devs (hw.pcmObj d)).dropStart.state =
      if (hw.devs (hw.pcmObj d)).refcnt.nStart - 1 = 0 then .stopped else (hw.devs (hw.pcmObj d)).state := by
    unfold DeviceObj.dropStart
    rw [dif_neg h]
  refine ⟨fun h1 => ?_, fun h1 => (Hw.startsNone_set _ _ hw (hst.trans (if_neg h1)) htrace (Hw.stopped_devs h)).1⟩
  rw [if_pos h1] at hst
  refine Hw.startsNone_pcm hw (.inr (.inr (.inl rfl))) (congrArg _ htrace) (Hw.stopped_devs h) ?_ ?_ <;>
    rw [hst] <;> exact fun h => DevState.noConfusion h

theorem startsNone_deviceClose :
    Sat (deviceClose d) hw fun _ hw' => hw.StartsNone hw' ∧ hw.StopsNone hw' := by
  unfold deviceClose
  simp only [sat_bind, sat_get, sat_ite, sat_modify, sat_pure, sat_ask]
  refine ⟨fun _ => ⟨fun o _ => .inl ⟨rfl, rfl⟩, fun _ hs => hs⟩, fun h => ?_⟩
  have htrace : (hw.closed d).trace = hw.trace := by
    unfold Hw.closed
    split <;> rfl
  have hst : (hw.devs (hw.pcmObj d)).dropOpen.state =
      if (hw.devs (hw.pcmObj d)).refcnt.nOpen - 1 = 0 then .closed else (hw.devs (hw.pcmObj d)).state := by
    unfold DeviceObj.dropOpen
    rw [dif_neg h]
  have hdevs (p : DevId) : (hw.closed d).devs p =
      if p = hw.pcmObj d then (hw.devs (hw.pcmObj d)).dropOpen else hw.devs p := by
    rw [Hw.closed_devs p h]
    by_cases hp : p = hw.pcmObj d <;> simp [hp]
  refine ⟨fun h1 => ?_, fun h1 => Hw.startsNone_set _ _ hw (hst.trans (if_neg h1)) htrace hdevs⟩
  rw [if_pos h1] at hst
  refine ⟨Hw.startsNone_pcm hw (.inr (.inr (.inr rfl))) (congrArg _ htrace) hdevs ?_ ?_, fun p hs => ?_⟩
  · rw [hst]
    exact fun h => DevState.noConfusion h
  · rw [hst]
    exact fun h => DevState.noConfusion h
  · rw [show ((hw.closed d).called _).devs p = _ from hdevs p] at hs
    split at hs
    · rw [hst] at hs
      cases hs
    · exact hs

/-- A start of a PCM that is not stopped finds it prepared. -/
theorem sat_deviceStart_prepared (hp : hw.PrepOk) (hs : (hw.devs (hw.pcmObj d)).state ≠ .stopped) :
    Sat (deviceStart d) hw fun _ hw' => hw.PreparedMove hw' ∧ hw.StopsNone hw' := by
  intro r hw' h
  have hm : hw.Moves hw' := .device d .start r h
  have hstep : Sat (deviceStart d) hw fun _ hw' => (∀ o, (hw.devs o).state ≠ .started →
      (hw'.devs o).state = .started → preparedSince o hw'.trace) ∧ hw.StopsNone hw' := by
    unfold deviceStart
    simp only [sat_bind, sat_get, sat_ite, sat_modify, sat_pure]
    refine ⟨fun _ => ⟨fun o hne hst => absurd hst hne, fun _ hst => hst⟩, fun hrank => ?_⟩
    have hready : (hw.devs (hw.pcmObj d)).state = .prepared ∨ (hw.devs (hw.pcmObj d)).state = .started := by
      revert hs hrank
      cases (hw.devs (hw.pcmObj d)).state <;> decide
    have hst : (hw.devs (hw.pcmObj d)).takeStart.state ≠ .stopped := by
      unfold DeviceObj.takeStart
      rw [dif_neg hrank]
      show (if _ then DevState.started else _) ≠ _
      split
      · exact fun h => DevState.noConfusion h
      · exact hs
    have hdevs (o : DevId) : ((hw.noteStart d).started d).devs o =
        if o = hw.pcmObj d then (hw.devs (hw.pcmObj d)).takeStart else hw.devs o := rfl
    refine ⟨fun o hne hst => ?_, fun o hso => ?_⟩
    · rw [hdevs] at hst
      split at hst
      · rename_i ho
        rw [ho]
        exact hp _ hready
      · exact absurd hst hne
    · rw [hdevs] at hso
      split at hso
      · exact absurd hso hst
      · exact hso
  obtain ⟨hent, hnone⟩ := hstep r hw' h
  exact ⟨⟨hm, hent⟩, hnone⟩

end

/-! ## Noted entries -/

theorem starts_deviceOpen (d : DevId) (hw : Hw) : Sat (deviceOpen d) hw fun _ hw' => hw'.starts = hw.starts := by
  unfold deviceOpen
  simp only [sat_bind, sat_get, sat_ite, sat_modify, sat_pure, sat_ask]
  exact ⟨fun _ => rfl, fun _ => ⟨fun _ => rfl, fun _ => rfl⟩⟩

theorem starts_devicePrepare (d : DevId) (hw : Hw) :
    Sat (devicePrepare d) hw fun _ hw' => hw'.starts = hw.starts := by
  have hprepared (hw : Hw) : (hw.prepared d).starts = hw.starts := by
    unfold Hw.prepared
    split <;> rfl
  unfold devicePrepare
  simp only [sat_bind, sat_get, sat_ite, sat_modify, sat_pure, sat_ask, sat_crash, hprepared]
  exact ⟨fun _ => trivial, fun _ => ⟨fun _ => trivial, fun _ => ⟨fun _ => rfl, fun _ => rfl⟩⟩⟩

theorem starts_deviceStop (d : DevId) (hw : Hw) : Sat (deviceStop d) hw fun _ hw' => hw'.starts = hw.starts := by
  have hstopped : (hw.stopped d).starts = hw.starts := by
    unfold Hw.stopped
    split <;> rfl
  unfold deviceStop
  simp only [sat_bind, sat_get, sat_ite, sat_modify, sat_pure, sat_ask]
  exact ⟨fun _ => trivial, fun _ => ⟨fun _ => hstopped, fun _ => hstopped⟩⟩

theorem starts_deviceClose (d : DevId) (hw : Hw) : Sat (deviceClose d) hw fun _ hw' => hw'.starts = hw.starts := by
  have hclosed : (hw.closed d).starts = hw.starts := by
    unfold Hw.closed
    split <;> rfl
  unfold deviceClose
  simp only [sat_bind, sat_get, sat_ite, sat_modify, sat_pure, sat_ask]
  exact ⟨fun _ => trivial, fun _ => ⟨fun _ => hclosed, fun _ => hclosed⟩⟩

/-! ## Chains of moves -/

/-- A PCM that is prepared or started stays backed by ALSA along prepared moves. -/
theorem Hw.PreparedMove.prepOk {hw hw' : Hw} (h : hw.PreparedMove hw') (hp : hw.PrepOk) : hw'.PrepOk := by
  obtain ⟨hm, hent⟩ := h
  have hnone (h : hw.StartsNone hw') : hw'.PrepOk := h.prepOk hp
  cases hm with
  | gsl k hk => exact hnone (hw.startsNone_called hk)
  | params d => exact hnone (hw.startsNone_params d).1
  | handle n => exact hnone fun o _ => .inl ⟨rfl, rfl⟩
  | device d call r hrun =>
    cases call with
    | «open» => exact hnone (startsNone_deviceOpen d hw r hw' hrun).1
    | prepare => exact hnone (startsNone_devicePrepare d hw r hw' hrun).1
    | stop => exact hnone (startsNone_deviceStop d hw r hw' hrun)
    | close => exact hnone (startsNone_deviceClose d hw r hw' hrun).1
    | start =>
      -- the call makes no call to ALSA, so a PCM that was ready before still is
      have hkeep : Sat (deviceStart d) hw fun _ hw' => hw'.trace = hw.trace ∧
          ∀ o, (hw'.devs o).state = .prepared → (hw.devs o).state = .prepared := by
        unfold deviceStart
        simp only [sat_bind, sat_get, sat_ite, sat_modify, sat_pure]
        refine ⟨fun _ => ⟨trivial, fun _ h => h⟩, fun hrank => ⟨rfl, fun o ho => ?_⟩⟩
        have hdevs : ((hw.noteStart d).started d).devs o =
            if o = hw.pcmObj d then (hw.devs (hw.pcmObj d)).takeStart else hw.devs o := rfl
        rw [hdevs] at ho
        split at ho
        · rename_i hpo
          unfold DeviceObj.takeStart at ho
          rw [dif_neg hrank] at ho
          have ho : (if (hw.devs (hw.pcmObj d)).refcnt.nStart = 0 then DevState.started
            else (hw.devs (hw.pcmObj d)).state) = .prepared := ho
          split at ho
          · cases ho
          · rw [hpo]
            exact ho
        · exact ho
      obtain ⟨htrace, hprep⟩ := hkeep r hw' hrun
      intro o ho
      by_cases hst : (hw.devs o).state = .started
      · rw [htrace]
        exact hp o (.inr hst)
      · rcases ho with ho | ho
        · rw [htrace]
          exact hp o (.inl (hprep o ho))
        · exact hent o hst ho

/-- One prepared move after the other. -/
abbrev Hw.PreparedMoves : Hw → Hw → Prop := Relation.ReflTransGen Hw.PreparedMove

theorem Hw.PreparedMoves.prepOk {hw hw' : Hw} (h : hw.PreparedMoves hw') (hp : hw.PrepOk) : hw'.PrepOk := by
  induction h with
  | refl => exact hp
  | tail _ hm ih => exact hm.prepOk ih

/-- A prepared move notes entries into `DEV_STARTED` of prepared PCMs alone. -/
theorem Hw.PreparedMove.starts {hw hw' : Hw} (h : hw.PreparedMove hw') :
    ∀ e ∈ hw'.starts, e ∈ hw.starts ∨ preparedSince e.1 e.2 := by
  obtain ⟨hm, hent⟩ := h
  have hsame (h : hw'.starts = hw.starts) : ∀ e ∈ hw'.starts, e ∈ hw.starts ∨ preparedSince e.1 e.2 :=
    fun e he => .inl (h ▸ he)
  cases hm with
  | gsl k hk => exact hsame rfl
  | params d => exact hsame rfl
  | handle n => exact hsame rfl
  | device d call r hrun =>
    cases call with
    | «open» => exact hsame (starts_deviceOpen d hw r hw' hrun)
    | prepare => exact hsame (starts_devicePrepare d hw r hw' hrun)
    | stop => exact hsame (starts_deviceStop d hw r hw' hrun)
    | close => exact hsame (starts_deviceClose d hw r hw' hrun)
    | start =>
      refine (?_ : Sat (deviceStart d) hw fun _ hw' => (∀ o, (hw.devs o).state ≠ .started →
        (hw'.devs o).state = .started → preparedSince o hw'.trace) →
          ∀ e ∈ hw'.starts, e ∈ hw.starts ∨ preparedSince e.1 e.2) r hw' hrun hent
      unfold deviceStart
      simp only [sat_bind, sat_get, sat_ite, sat_modify, sat_pure]
      refine ⟨fun _ _ e he => .inl he, fun hrank hent e he => ?_⟩
      have he : e ∈ if (hw.devs (hw.pcmObj d)).refcnt.nStart = 0 then (hw.pcmObj d, hw.trace) :: hw.starts
        else hw.starts := he
      split at he
      · rename_i h0
        rcases List.mem_cons.1 he with rfl | he
        · have hne : (hw.devs (hw.pcmObj d)).state ≠ .started := fun hs => (hw.devs (hw.pcmObj d)).running.2 hs h0
          refine .inr (hent (hw.pcmObj d) hne ?_)
          have hdevs : ((hw.noteStart d).started d).devs (hw.pcmObj d) = (hw.devs (hw.pcmObj d)).takeStart := if_pos rfl
          rw [hdevs, DeviceObj.takeStart, dif_neg hrank]
          exact if_pos h0
        · exact .inl he
      · exact .inl he

theorem Hw.PreparedMoves.starts {hw hw' : Hw} (h : hw.PreparedMoves hw') :
    ∀ e ∈ hw'.starts, e ∈ hw.starts ∨ preparedSince e.1 e.2 := by
  induction h with
  | refl => exact fun e he => .inl he
  | tail _ hm ih => exact fun e he => (hm.starts e he).elim (ih e) .inr

instance : IsPreorder Hw Hw.PreparedMoves where
  refl _ := .refl
  trans _ _ _ h h' := h.trans h'

/-- Prepared moves that stop nothing. -/
structure Hw.Proceeds (hw hw' : Hw) : Prop where
  moves : hw.PreparedMoves hw'
  fixed : hw'.fixed = hw.fixed
  stops : hw.StopsNone hw'

instance : IsPreorder Hw Hw.Proceeds where
  refl _ := ⟨.refl, rfl, fun _ h => h⟩
  trans _ _ _ h h' := ⟨h.moves.trans h'.moves, h'.fixed.trans h.fixed, fun o ho => h.stops o (h'.stops o ho)⟩

theorem Hw.Proceeds.of_startsNone {hw hw' : Hw} (hm : hw.Moves hw') (hf : hw'.fixed = hw.fixed)
    (h : hw.StartsNone hw' ∧ hw.StopsNone hw') : hw.Proceeds hw' :=
  ⟨.single (h.1.preparedMove hm), hf, h.2⟩

theorem Hw.proceeds_called (hw : Hw) {k : Call} (hk : k.kind.isGsl) : hw.Proceeds (hw.called k) :=
  .of_startsNone (.gsl k hk) rfl ⟨hw.startsNone_called hk, fun _ h => h⟩

theorem sysFrame_proceeds : SysFrame Hw.Proceeds where
  neutral hw k hk := hw.proceeds_called (by revert hk; cases k.kind <;> decide)
  ask hw k hk := hw.proceeds_called hk
  handle hw n := .of_startsNone (.handle n) rfl ⟨fun _ _ => .inl ⟨rfl, rfl⟩, fun _ h => h⟩
  deviceOpen d hw r hw' h :=
    .of_startsNone (.device d .open r h) (sat_deviceOpen d hw r hw' h).1.fixed (startsNone_deviceOpen d hw r hw' h)
  devicePrepare d hw r hw' h :=
    .of_startsNone (.device d .prepare r h) (sat_devicePrepare d hw r hw' h).1.fixed
      (startsNone_devicePrepare d hw r hw' h)
  deviceClose d hw r hw' h :=
    .of_startsNone (.device d .close r h) (sat_deviceClose d hw r hw' h).1.fixed (startsNone_deviceClose d hw r hw' h)
  params hw d := .of_startsNone (.params d) (Hw.fixed_setDev rfl) (hw.startsNone_params d)

theorem sysFrame_preparedMoves : SysFrame Hw.PreparedMoves := sysFrame_proceeds.mono fun _ _ h => h.moves

theorem preparedMoves_deviceStop (d : DevId) : Within Hw.PreparedMoves (deviceStop d) :=
  fun hw r hw' h => .single ((startsNone_deviceStop d hw r hw' h).preparedMove (.device d .stop r h))

/-! ## Starting a session -/

/-- `session_start` starts the device of the back end. -/
def Aif.isStartable (a : Aif) : Bool := a.state = .opened || a.state = .prepared || a.state = .stopped

/-- No back end that is to be started stands on a stopped PCM. -/
def NoneStopped (hw : Hw) (l : List Aif) : Prop := ∀ a ∈ l, a.isStartable → deviceGetState a.devObj hw ≠ .stopped

instance (hw : Hw) (l : List Aif) : Decidable (NoneStopped hw l) := List.decidableBAll _ l

theorem NoneStopped.proceeds {hw hw' : Hw} {l : List Aif} (h : NoneStopped hw l) (hp : hw.Proceeds hw') :
    NoneStopped hw' l := by
  intro a ha hs hst
  unfold deviceGetState at hst
  rw [Hw.pcmObj_of_fixed hp.fixed] at hst
  exact h a ha hs (hp.stops _ hst)

theorem NoneStopped.replace {hw : Hw} {done todo : List Aif} {a b : Aif} (h : NoneStopped hw (done ++ a :: todo))
    (hd : b.devObj = a.devObj) (hs : b.isStartable → a.isStartable) : NoneStopped hw (done ++ b :: todo) := by
  intro x hx hsx
  rcases List.mem_append.1 hx with hx | hx
  · exact h x (List.mem_append_left _ hx) hsx
  · rcases List.mem_cons.1 hx with rfl | hx
    · rw [hd]
      exact h a (List.mem_append_right _ List.mem_cons_self) (hs hsx)
    · exact h x (List.mem_append_right _ (List.mem_cons_of_mem _ hx)) hsx

/-- The moves up to here were prepared, and the back ends still to be started will find their PCMs prepared, if the
session has devices at all. -/
structure Ready (hw₀ : Hw) (devices : Bool) (c : Ctx) (l : List Aif) : Prop where
  moves : hw₀.PreparedMoves c.hw
  hasDevices : c.sess.hasDevices = devices
  stopped : devices → NoneStopped c.hw l

section

variable {hw₀ : Hw} {b : Bool}

theorem Ready.proceeds {c c' : Ctx} {l : List Aif} (h : Ready hw₀ b c l) (hp : c.hw.Proceeds c'.hw)
    (hd : c'.sess.streamConfig = c.sess.streamConfig) : Ready hw₀ b c' l := by
  refine ⟨h.moves.trans hp.moves, ?_, fun hb => (h.stopped hb).proceeds hp⟩
  have := h.hasDevices
  unfold SessionObj.hasDevices at this ⊢
  rw [hd]
  exact this

theorem Ready.replace {c : Ctx} {done todo : List Aif} {a a' : Aif} (h : Ready hw₀ b c (done ++ a :: todo))
    (hd : a'.devObj = a.devObj) (hs : a'.isStartable → a.isStartable) : Ready hw₀ b c (done ++ a' :: todo) :=
  ⟨h.moves, h.hasDevices, fun hb => (h.stopped hb).replace hd hs⟩

theorem ready_set (c : Ctx) (l : List Aif) (h : Ready hw₀ b c l) :
    Ready hw₀ b { c with sess := { c.sess with aifPool := l } } l := ⟨h.moves, h.hasDevices, h.stopped⟩

/-- Functions that leave the list of back ends. -/
theorem ready_of_proceeds {α : Type} {m : M α} (h : Within (Ctx.OnHw Hw.Proceeds) m)
    (hl : ∀ c, Sat m c fun _ c' => c'.sess.aifPool = c.sess.aifPool ∧ c'.sess.streamConfig = c.sess.streamConfig) :
    Within (Inv (AtPool (Ready hw₀ b))) m :=
  within_inv.2 fun c hc => ((h c).and (hl c)).mono fun _ c' h' => by
    obtain ⟨hp, hl, hcfg⟩ := h'
    have := hc.proceeds hp hcfg
    rwa [← hl] at this

theorem ready_of_graphStep {α : Type} {m : M α} (h : Within (Ctx.OnHw Hw.Proceeds) m) (hs : Within Ctx.GraphStep m) :
    Within (Inv (AtPool (Ready hw₀ b))) m :=
  ready_of_proceeds h fun c => (hs c).mono fun _ _ s => ⟨s.aifPool, s.aifStep.streamConfig⟩

theorem ready_graphStart : Within (Inv (AtPool (Ready hw₀ b))) graphStart :=
  ready_of_graphStep sysFrame_proceeds.graphStart fun c => (sat_graphStart c).mono fun _ _ h => h.1

theorem ready_graphPrepare : Within (Inv (AtPool (Ready hw₀ b))) graphPrepare :=
  ready_of_graphStep sysFrame_proceeds.graphPrepare fun c => (sat_graphPrepare c).mono fun _ _ h => h.1

theorem ready_sessionStartChecks : Within (Inv (AtPool (Ready hw₀ b))) sessionStartChecks :=
  ready_of_proceeds HwFrame.sessionStartChecks fun c => (edge_sessionStartChecks c).mono fun _ _ s => ⟨s.aifPool, s.streamConfig⟩

theorem ready_modSess {f : SessionObj → SessionObj}
    (h : ∀ s, (f s).aifPool = s.aifPool ∧ (f s).streamConfig = s.streamConfig) :
    Within (Inv (AtPool (Ready hw₀ b))) (modSess f) :=
  ready_of_proceeds (HwFrame.within_modSess f) fun c => (sat_modSess _ _ _).2 (h c.sess)

theorem ready_prepareAif (done : List Aif) (a : Aif) (todo : List Aif) (c : Ctx)
    (h : Ready hw₀ b c (done ++ a :: todo)) : Sat (prepareAif a) c fun p c' => Ready hw₀ b c' (done ++ p.2 :: todo) := by
  refine ((sysFrame_proceeds.prepareAif a c).and (sat_prepareAif a c)).mono fun p c' h' => ?_
  obtain ⟨hp, s, -, h'⟩ := h'
  have h₁ := h.proceeds hp s.streamConfig
  rcases h' with ⟨hp2, hst, -⟩ | ⟨hp2, -⟩
  · rw [hp2]
    refine h₁.replace rfl fun _ => ?_
    rcases hst with hst | hst <;> simp [Aif.isStartable, hst]
  · rw [hp2]
    exact h₁

theorem ready_sessionPrepare : Within (Inv (AtPool (Ready hw₀ b))) sessionPrepare := by
  refine PrepareStages.sessionPrepare ⟨ready_graphPrepare, ?_, ?_, ?_⟩
  · refine within_inv.2 fun c hc => sat_forEachAif ready_set (fun done a todo c h => ?_) hc
    have hparams := (sysFrame_proceeds.sessionApplyAifDeviceParams a.devObj c).and
      (core_sessionApplyAifDeviceParams a.devObj c)
    exact Sat.bind hparams fun r c₁ h₁ => (sat_pure _ _ _).2 (h.proceeds h₁.1 h₁.2.toAifStep.streamConfig)
  · exact within_inv.2 fun c hc => sat_forEachAif ready_set ready_prepareAif hc
  · exact within_bind ready_graphPrepare fun _ => within_ite (within_pure _) <|
      within_bind (ready_modSess fun _ => ⟨rfl, rfl⟩) fun _ => within_pure _

variable (hp₀ : hw₀.PrepOk)

include hp₀

theorem ready_startAif (done : List Aif) (a : Aif) (todo : List Aif) (c : Ctx)
    (h : Ready hw₀ true c (done ++ a :: todo)) :
    Sat (startAif a) c fun p c' => Ready hw₀ true c' (done ++ p.2 :: todo) := by
  unfold startAif
  rw [sat_ite, sat_pure]
  refine ⟨fun hst => ?_, fun _ => h⟩
  have hs : (c.hw.devs (c.hw.pcmObj a.devObj)).state ≠ .stopped := by
    refine h.stopped rfl a (List.mem_append_right _ List.mem_cons_self) ?_
    rcases hst with hst | hst | hst <;> simp [Aif.isStartable, hst]
  have hstart := (sat_deviceStart_prepared a.devObj c.hw (h.moves.prepOk hp₀) hs).and (sat_deviceStart a.devObj c.hw)
  rw [sat_bind, sat_onHw]
  refine hstart.mono fun r hw' h' => ?_
  obtain ⟨⟨hmove, hnone⟩, hlater, -⟩ := h'
  have hproc : c.hw.Proceeds hw' := ⟨.single hmove, hlater.fixed, hnone⟩
  have h₁ : Ready hw₀ true { c with hw := hw' } (done ++ a :: todo) := h.proceeds hproc rfl
  rw [sat_ite, sat_pure, sat_pure]
  refine ⟨fun _ => h₁, fun _ => h₁.replace rfl fun hs => ?_⟩
  simp [Aif.isStartable] at hs

theorem ready_prepareStartAif (done : List Aif) (a : Aif) (todo : List Aif) (c : Ctx)
    (h : Ready hw₀ true c (done ++ a :: todo)) :
    Sat (prepareStartAif a) c fun p c' => Ready hw₀ true c' (done ++ p.2 :: todo) := by
  refine Sat.bind (ready_prepareAif done a todo c h) fun p c₁ h₁ => ?_
  rw [sat_ite, sat_pure]
  exact ⟨fun _ => h₁, fun _ => ready_startAif hp₀ done p.2 todo c₁ h₁⟩

theorem preparedMoves_sessionStartBody {c : Ctx} (h : AtPool (Ready hw₀ b) c) :
    Sat sessionStartBody c fun _ c' => hw₀.PreparedMoves c'.hw := by
  cases b with
  | true =>
    have hslimbus : Within (Inv (AtPool (Ready hw₀ true))) (forEachAif startSlimbus) := by
      refine within_inv.2 fun c hc => sat_forEachAif ready_set (fun done a todo c h => ?_) hc
      unfold startSlimbus
      rw [sat_bind, sat_get, sat_ite, sat_pure]
      exact ⟨fun _ => ready_prepareStartAif hp₀ done a todo c h, fun _ => h⟩
    have hother : Within (Inv (AtPool (Ready hw₀ true))) (forEachAif startOther) := by
      refine within_inv.2 fun c hc => sat_forEachAif ready_set (fun done a todo c h => ?_) hc
      unfold startOther
      rw [sat_bind, sat_get, sat_ite, sat_pure, sat_ite]
      exact ⟨fun _ => h, fun _ => ⟨fun _ => ready_startAif hp₀ done a todo c h,
        fun _ => ready_prepareStartAif hp₀ done a todo c h⟩⟩
    exact (within_inv.1 (within_sessionStartBody ready_graphStart ready_sessionStartChecks hslimbus hother) c h).mono
      fun _ _ h' => h'.moves
  | false =>
    have hd : ¬ c.sess.hasDevices = true := by
      rw [h.hasDevices]
      exact Bool.false_ne_true
    unfold sessionStartBody
    rw [sat_bind, sat_get, if_neg hd]
    refine Sat.bind (sysFrame_preparedMoves.graphStart c) fun _ c₁ h₁ => ?_
    have h₁ : hw₀.PreparedMoves c₁.hw := h.moves.trans h₁
    rw [sat_ite, sat_pure, sat_pure]
    exact ⟨fun _ => h₁, fun _ => h₁⟩

theorem preparedMoves_sessionStart {c : Ctx} (h : AtPool (Ready hw₀ b) c) :
    Sat sessionStart c fun _ c' => hw₀.PreparedMoves c'.hw :=
  sysFrame_preparedMoves.sessionStart preparedMoves_deviceStop (fun _ _ h h' => h.trans h')
    (preparedMoves_sessionStartBody hp₀ h)

end

/-! ## The operations -/

/-- The device of the back end with this id: an id that is not in the list yet names the device of the same number. -/
def SessionObj.aifDevice (s : SessionObj) (aifId : Nat) : DevId :=
  match s.aifPool.findIdx? (fun a => a.aifId = aifId) with
  | some i => (s.aifAt i).devObj
  | none => aifId

/-- The operation starts devices one of which is stopped: a start, or a connect to a session that is started. -/
def Op.restartsStopped (c : Ctx) : Op → Prop
  | .start => c.sess.hasDevices ∧ ¬ NoneStopped c.hw c.sess.aifPool
  | .sessAifConnect aifId true => c.sess.state = .started ∧ c.sess.hasDevices ∧
      (¬ NoneStopped c.hw c.sess.aifPool ∨ deviceGetState (c.sess.aifDevice aifId) c.hw = .stopped)
  | _ => False

instance (c : Ctx) (op : Op) : Decidable (op.restartsStopped c) := by
  unfold Op.restartsStopped
  split <;> infer_instance

section

variable {hw₀ : Hw} {b : Bool} (hp₀ : hw₀.PrepOk)

theorem NoneStopped.set {hw : Hw} {s : SessionObj} {i : Nat} {a : Aif} (h : NoneStopped hw s.aifPool)
    (ha : deviceGetState a.devObj hw ≠ .stopped) : NoneStopped hw (s.setAif i a).aifPool := by
  intro x hx hsx
  rcases List.mem_or_eq_of_mem_set hx with hx | rfl
  · exact h x hx hsx
  · exact ha

theorem ready_connectAt {i n : Nat} {c : Ctx} (h : AtPool (Ready hw₀ b) c)
    (hi : b → deviceGetState (c.sess.aifAt i).devObj c.hw ≠ .stopped) :
    Sat (connectAt i n) c fun _ c' => AtPool (Ready hw₀ b) c' := by
  unfold connectAt
  rw [sat_bind, sat_get]
  have hcon : Sat (connectToOpened (c.sess.aifAt i) n) c fun p c' => c.AifStep c' ∧
      p.2.devObj = (c.sess.aifAt i).devObj := by
    refine Sat.bind (sat_sessionConnectAif (c.sess.aifAt i) n c) fun p c₁ h₁ => ?_
    have hdev : p.2.devObj = (c.sess.aifAt i).devObj := by
      have := congrArg Aif.devObj h₁.2.1
      exact this
    rw [sat_ite, sat_pure, sat_pure]
    exact ⟨fun _ => ⟨h₁.1, hdev⟩, fun _ => ⟨h₁.1, hdev⟩⟩
  refine Sat.bind (hcon.and (sysFrame_proceeds.connectToOpened (c.sess.aifAt i) n c)) fun p c₁ h₁ => ?_
  obtain ⟨⟨s₁, hdev⟩, hproc⟩ := h₁
  rw [sat_bind, sat_modSess, sat_pure]
  have hready : Ready hw₀ b c₁ c₁.sess.aifPool := by
    have := Ready.proceeds h hproc s₁.streamConfig
    rwa [← s₁.aifPool] at this
  refine ⟨hready.moves, hready.hasDevices, fun hb => (hready.stopped hb).set ?_⟩
  intro hst
  unfold deviceGetState at hst
  rw [hdev, Hw.pcmObj_of_fixed hproc.fixed] at hst
  exact hi hb (hproc.stops _ hst)

include hp₀

/-- A connect to an open session. -/
theorem preparedMoves_hotConnect {i n : Nat} {c : Ctx} (hm : hw₀.PreparedMoves c.hw)
    (h : c.sess.state = .started → AtPool (Ready hw₀ b) c ∧
      (b → deviceGetState (c.sess.aifAt i).devObj c.hw ≠ .stopped)) :
    Sat (hotConnect i n) c fun _ c' => hw₀.PreparedMoves c'.hw := by
  have hbody : Sat (hotConnectBody i n) c fun _ c' => hw₀.PreparedMoves c'.hw := by
    have hcon : Sat (connectAt i n) c fun _ c' => hw₀.PreparedMoves c'.hw ∧
        (c.sess.state = .started → AtPool (Ready hw₀ b) c') := by
      by_cases hs : c.sess.state = .started
      · exact (ready_connectAt (h hs).1 (h hs).2).mono fun _ _ h₁ => ⟨h₁.moves, fun _ => h₁⟩
      · exact (sysFrame_preparedMoves.connectAt i n c).mono fun _ _ h₁ => ⟨hm.trans h₁, fun hs' => absurd hs' hs⟩
    unfold hotConnectBody
    rw [sat_bind, sat_get, sat_ite, sat_bind, sat_modSess, sat_pure]
    refine ⟨fun _ => hm, fun _ => Sat.bind hcon fun r c₁ h₁ => ?_⟩
    rw [sat_ite, sat_pure, sat_ite, sat_pure]
    refine ⟨fun _ => h₁.1, fun _ => ⟨fun _ => h₁.1, fun _ => ?_⟩⟩
    have hprep : Sat sessionPrepare c₁ fun _ c' => hw₀.PreparedMoves c'.hw ∧
        (c.sess.state = .started → AtPool (Ready hw₀ b) c') := by
      by_cases hs : c.sess.state = .started
      · exact (within_inv.1 ready_sessionPrepare c₁ (h₁.2 hs)).mono fun _ _ h₂ => ⟨h₂.moves, fun _ => h₂⟩
      · exact (sysFrame_preparedMoves.prepareStages.sessionPrepare c₁).mono
          fun _ _ h₂ => ⟨h₁.1.trans h₂, fun hs' => absurd hs' hs⟩
    refine Sat.bind hprep fun r c₂ h₂ => ?_
    rw [sat_ite, sat_pure, sat_ite, sat_pure]
    refine ⟨fun _ => h₂.1, fun _ => ⟨fun hs => ?_, fun _ => h₂.1⟩⟩
    refine Sat.bind (preparedMoves_sessionStart hp₀ (h₂.2 hs)) fun r c₃ h₃ => ?_
    rw [sat_ite, sat_pure, sat_pure]
    exact ⟨fun _ => h₃, fun _ => h₃⟩
  refine Sat.bind hbody fun e c₁ h₁ => ?_
  cases e.1 with
  | done => exact (sat_pure _ _ _).2 h₁
  | unwind =>
    have hend : Within (Ctx.OnHw Hw.PreparedMoves) (modSess (·.setAifState i .close) >>= fun _ => do
        let c ← get
        let _ ← sessionDisconnectAif (c.sess.aifAt i) (n + 1)
        pure e.2) :=
      within_bind (HwFrame.within_modSess _) fun _ => within_bind within_get fun _ =>
        within_bind (sysFrame_preparedMoves.sessionDisconnectAif preparedMoves_deviceStop _ _) fun _ => within_pure _
    exact (hend c₁).mono fun _ _ h₂ => h₁.trans h₂

end

/-- The device of a back end as `aif_obj_get` finds it. -/
theorem sat_aifObjGet_device (aifId : Nat) (c : Ctx) : Sat (aifObjGet aifId) c fun r c' => c'.hw = c.hw ∧
    c'.sess.state = c.sess.state ∧ c'.sess.streamConfig = c.sess.streamConfig ∧
      (NoneStopped c.hw c.sess.aifPool → NoneStopped c.hw c'.sess.aifPool) ∧
        ∀ i, r = .ok i → (c'.sess.aifAt i).devObj = c.sess.aifDevice aifId := by
  refine (sat_aifObjGet aifId c).mono fun r c' h => ?_
  unfold SessionObj.aifDevice
  cases r with
  | error e =>
    rw [h.2]
    exact ⟨rfl, rfl, rfl, id, fun i hi => nomatch hi⟩
  | ok i =>
    obtain ⟨hi, ⟨rfl, hf⟩ | ⟨hf, rfl, rfl⟩⟩ := h
    · refine ⟨rfl, rfl, rfl, id, fun j hj => ?_⟩
      obtain rfl := Except.ok.inj hj
      rw [hf]
    · refine ⟨rfl, rfl, rfl, fun h a ha hs => ?_, fun j hj => ?_⟩
      · rcases List.mem_append.1 ha with ha | ha
        · exact h a ha hs
        · rw [List.mem_singleton.1 ha] at hs
          cases hs
      · obtain rfl := Except.ok.inj hj
        rw [hf]
        simp [SessionObj.aifAt]

/-- What one operation does behind its session. -/
theorem preparedMoves_run {op : Op} {c : Ctx} (hp : c.hw.PrepOk) (hop : ¬ op.restartsStopped c) :
    Sat op.run c fun _ c' => c.hw.PreparedMoves c'.hw := by
  by_cases hstart : op = .start
  · subst hstart
    have hready : AtPool (Ready c.hw c.sess.hasDevices) c :=
      ⟨.refl, rfl, fun hd => not_not.1 fun hs => hop ⟨hd, hs⟩⟩
    exact preparedMoves_sessionStart hp hready
  · by_cases hcon : ∃ aifId, op = .sessAifConnect aifId true
    · obtain ⟨aifId, rfl⟩ := hcon
      refine Sat.bind (sat_aifObjGet_device aifId c) fun r c₁ h₁ => ?_
      obtain ⟨hhw, hst, hcfg, hnone, hdev⟩ := h₁
      cases r with
      | error e =>
        refine (sat_pure _ _ _).2 ?_
        rw [hhw]
      | ok i =>
        have hd : c₁.sess.hasDevices = c.sess.hasDevices := by
          unfold SessionObj.hasDevices
          rw [hcfg]
        rw [sat_bind, sat_get, sat_ite, sat_pure, if_pos rfl]
        refine ⟨fun _ => by rw [hhw], fun _ => ?_⟩
        refine preparedMoves_hotConnect (b := c.sess.hasDevices) hp (by rw [hhw]) fun hs => ?_
        have hs : c.sess.state = .started := hst.symm.trans hs
        refine ⟨⟨by rw [hhw], hd, fun hb => ?_⟩, fun hb h => ?_⟩
        · rw [hhw]
          exact hnone (not_not.1 fun h => hop ⟨hs, hb, .inl h⟩)
        · rw [hdev i rfl, hhw] at h
          exact hop ⟨hs, hb, .inr h⟩
    · exact (sysFrame_preparedMoves.run preparedMoves_deviceStop hstart fun aifId h => hcon ⟨aifId, h⟩) c

theorem World.Fresh.prepOk {w : World} (h : w.Fresh) : w.hw.PrepOk := by
  intro o ho
  rw [((w.hw.devs o).idle (h.devs o)).2.2] at ho
  rcases ho with ho | ho <;> cases ho

/-- **A PCM is prepared before it is started.**  Over every run of operations, on any sessions and devices and with any
answers of GSL and ALSA, in which no start and no connect to a started session meets a stopped PCM that it has to
start: whenever a PCM enters `DEV_STARTED`, by the note that `device_start` makes of it, ALSA has prepared it since it
was last stopped or opened. -/
theorem started_after_prepare {w₀ w : World} (h₀ : w₀.Fresh)
    (h : Runs exec (fun w o => ¬ o.2.restartsStopped ((w.enter o).lock o.1)) w₀ w) :
    w₀.hw.PreparedMoves w.hw ∧ (∀ e ∈ w.hw.starts, e ∈ w₀.hw.starts ∨ preparedSince e.1 e.2) ∧
      ∀ o, (w.hw.devs o).state = .started → preparedSince o w.hw.trace := by
  have key : w₀.hw.PreparedMoves w.hw := by
    refine h.invariant (I := fun w => w₀.hw.PreparedMoves w.hw) .refl fun w o r w' hw hg he => ?_
    refine exec_inv (I := fun w => w₀.hw.PreparedMoves w.hw) he hw hw fun _ hw₁ => ?_
    exact (preparedMoves_run (hw₁.prepOk h₀.prepOk) hg).mono fun _ c hc => hw₁.trans hc
  exact ⟨key, key.starts, fun o ho => key.prepOk h₀.prepOk o (.inr ho)⟩

/-- A session is started, closed and started again. -/
theorem started_after_prepare_reopen :
    ∃ w, Runs exec (fun w o => ¬ o.2.restartsStopped ((w.enter o).lock o.1)) (World.boot fun _ => []) w ∧
      (w.hw.devs 0).state = .started ∧ w.hw.starts.map Prod.fst = [0, 0] ∧
      ∀ e ∈ w.hw.starts, preparedSince e.1 e.2 := by
  obtain ⟨w, h, hn⟩ := Runs.exists_of_execAll exec
    (fun w o => ¬ o.2.restartsStopped ((w.enter o).lock o.1))
    [(1, .sessAifConnect 0 true), (1, .open .default), (1, .prepare), (1, .start), (1, .stop), (1, .close),
      (1, .sessAifConnect 0 true), (1, .open .default), (1, .prepare), (1, .start)] (World.boot fun _ => [])
    (fun w => ((w.hw.devs 0).state, w.hw.starts.map Prod.fst)) (b := (.started, [0, 0])) (by decide +kernel)
  obtain ⟨hst, hstarts⟩ := Prod.mk.inj hn
  refine ⟨w, h, hst, hstarts, fun e he => ?_⟩
  exact ((started_after_prepare (World.fresh_boot _) h).2.1 e he).resolve_left List.not_mem_nil

/-- A session is stopped and started again: its PCM runs without having been prepared since. -/
theorem started_without_prepare :
    (World.boot fun _ => []).Fresh ∧ ∃ w, Runs exec (fun _ _ => True) (World.boot fun _ => []) w ∧
      (w.hw.devs 0).state = .started ∧ preparedSince 0 w.hw.trace = false := by
  refine ⟨World.fresh_boot _, ?_⟩
  obtain ⟨w, h, hn⟩ := Runs.exists_of_execAll exec (fun _ _ => True)
    [(1, .sessAifConnect 0 true), (1, .open .default), (1, .prepare), (1, .start), (1, .stop), (1, .start)]
    (World.boot fun _ => []) (fun w => ((w.hw.devs 0).state, preparedSince 0 w.hw.trace)) (b := (.started, false))
    (by decide +kernel)
  exact ⟨w, h, (Prod.mk.inj hn).1, (Prod.mk.inj hn).2⟩

end Agm.Service
