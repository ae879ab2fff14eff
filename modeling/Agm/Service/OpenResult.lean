import Agm.Service.OpenSpec

/-!
# What the return code of an open promises

A client that gets `0` from `session_obj_open` takes it that the session is open, that it has a graph and that every
back end that waited is connected.  `openReports_iff` says exactly when that is so.  The exception is a slip of
`session_connect_reminder_devices`: its unwind stores the answers of the calls that take the devices down in the very
variable that holds the error, and returns the last of them.
-/

namespace Agm.Service

open Agm.Lib

/-- What a return code of `0` promises.  Every back end that waited has been connected: no failure is kept back. -/
def OpenReports (mode : SessMode) (c : Ctx) : Prop :=
  Sat (sessionObjOpen mode) c fun r c' => r = 0 →
    c'.sess.state = .opened ∧ c'.sess.graph.isSome ∧
      ∀ i, (c.sess.aifAt i).state = .open → (c'.sess.aifAt i).state = .opened

/-! ## The unwind ends -/

theorem total_deviceStop (d : DevId) : Total (deviceStop d) :=
  total_bind total_get fun _ => total_ite (total_pure _) <|
    total_bind (total_modify _) fun _ => total_ite (total_ask _) (total_pure _)

theorem total_sessionDisconnectAif (a : Aif) (n : Nat) : Total (sessionDisconnectAif a n) := by
  have hdev : Total (disconnectDevice a) :=
    total_bind total_get fun _ => total_ite
      (total_bind (total_onHw (total_deviceStop _)) fun _ => total_onHw (total_deviceClose _))
      (total_onHw (total_deviceClose _))
  refine total_bind total_get fun c => ?_
  cases mergedMetadata a c with
  | none => exact total_pure _
  | some merged =>
    refine total_ite ?_ ?_
    · cases metadataMerge c.hw.build [some a.sessAifMeta, some (c.hw.devs a.devObj).metadata] with
      | none => exact total_pure _
      | some sessAif =>
        refine total_bind (total_withGraph fun g => ?_) fun _ => hdev
        exact total_ite (total_bind (total_onHw (total_ask _)) fun _ => total_onHw (total_askGsl _))
          (total_onHw (total_askGsl _))
    · exact total_bind (total_withGraph fun _ => total_onHw (total_askGsl _)) fun _ => hdev

theorem total_disconnectAll (ret : Int) : Total (mapEachAif disconnectOpened ret) := by
  refine total_bind total_get fun c => total_bind (total_mapEach (fun ret a => ?_) _ _) fun _ =>
    total_bind (total_modify _) fun _ => total_pure _
  exact total_ite (total_bind (total_sessionDisconnectAif a 1) fun _ => total_pure _) (total_pure _)

/-- An open that loses its error does come back. -/
theorem isSome_of_losesError {mode : SessMode} (hm : mode.hasDevices) {c : Ctx} (hcl : c.sess.state = .closed)
    (h : losesError mode c) : (sessionObjOpen mode c).isSome := by
  simp only [losesError, Bool.and_eq_true, Bool.not_eq_true', decide_eq_true_eq] at h
  obtain ⟨⟨⟨hrest, hclose⟩, hec⟩, hloop⟩ := h
  -- the first connect, and the loop that fails
  obtain ⟨r, c₁, h₁⟩ := total_sessionOpenWithFirstDevice.exists (c.inMode mode)
  rw [restFails_eq mode c r c₁ h₁, Bool.and_eq_true, decide_eq_true_iff] at hrest
  obtain ⟨rfl, hfail⟩ := hrest
  obtain ⟨s₁, -, hok, -⟩ := sat_sessionOpenWithFirstDevice (c := c.inMode mode) hcl _ _ h₁
  have hcloses := closes_sessionOpenWithFirstDevice (c := c.inMode mode) hcl _ _ h₁ rfl
  -- the unwind
  obtain ⟨r, c₃, h₃⟩ : ∃ r c₃, sessionConnectReminderDevices c₁ = some (r, c₃) := by
    cases h₂ : forEachAif connectReminder c₁ with
    | none => rw [fails, h₂] at hfail; cases hfail
    | some q =>
      obtain ⟨r, c₂⟩ := q
      have hr : r ≠ 0 := by simpa [fails, h₂] using hfail
      unfold sessionConnectReminderDevices
      rw [bind_apply h₂, if_pos hr]
      exact (total_bind (total_disconnectAll r) fun _ => total_graphClose).exists c₂
  obtain ⟨s₃, h₃'⟩ := sat_sessionConnectReminderDevices c₁ _ _ h₃
  rw [if_pos hfail] at h₃'
  have hr : r = 0 := by
    rw [h₃'.2.1 (hok rfl).1, show c₁.hw.env .gslClose = c.hw.env .gslClose from hcloses]
    exact hclose
  have hec₃ : c₃.sess.ecRefState = false := by
    have h₁ := congrArg SessionObj.ecRefState s₁.sess
    have h₂ := congrArg SessionObj.ecRefState s₃.sess
    exact (Eq.trans h₂ h₁).trans hec
  have hloop₃ : c₃.sess.loopbackState = false := by
    have h₁ := congrArg SessionObj.loopbackState s₁.sess
    have h₂ := congrArg SessionObj.loopbackState s₃.sess
    exact (Eq.trans h₂ h₁).trans hloop
  have hedges : openEcRef c₃ = some ((.done, 0), c₃) := by
    have hl : openLoopback c₃ = some ((.done, 0), c₃) := by
      unfold openLoopback
      rw [bind_apply (show (get : M Ctx) c₃ = some (c₃, c₃) from rfl), hloop₃]
      rfl
    unfold openEcRef
    rw [bind_apply (show (get : M Ctx) c₃ = some (c₃, c₃) from rfl), hec₃]
    exact hl
  have hbody : sessionOpenBody mode c = some ((.done, 0), c₃) := by
    unfold sessionOpenBody
    rw [bind_apply (show modSess _ c = some ((), c.inMode mode) from rfl), if_pos hm, bind_apply h₁,
      if_neg (fun h => h rfl), bind_apply h₃, if_neg (fun h => h hr)]
    exact hedges
  unfold sessionObjOpen
  rw [bind_apply (show (get : M Ctx) c = some (c, c) from rfl), if_neg (fun h => h hcl), bind_apply hbody]
  rfl

/-- **When the return code can be trusted.**  For every closed session, every list of back ends and every pattern of
failing calls: an open in a mode with devices that returns `0` has left the session open, with a graph and with all the
back ends connected, exactly unless it loses the error. -/
theorem openReports_iff {mode : SessMode} (hm : mode.hasDevices) {c : Ctx} (hcl : c.sess.state = .closed) :
    OpenReports mode c ↔ ¬ losesError mode c := by
  constructor
  · intro h hlose
    obtain ⟨p, hp⟩ := Option.isSome_iff_exists.1 (isSome_of_losesError hm hcl hlose)
    obtain ⟨r, c'⟩ := p
    rcases sat_sessionObjOpen_devices hm hcl r c' hp with ⟨-, -, hnf, -⟩ | ⟨hr, -, -, hnone, -⟩ | ⟨-, -, hnl, -⟩
    · refine hnf ?_
      simp only [losesError, Bool.and_eq_true] at hlose
      exact hlose.1.1.1
    · have hsome := (h r c' hp hr).2.1
      rw [Option.map_eq_none_iff.1 hnone] at hsome
      cases hsome
    · exact hnl hlose
  · intro hnl
    refine (sat_sessionObjOpen_devices hm hcl).mono fun r c' h hr => ?_
    rcases h with ⟨-, hst, -, hsome, -, hcon⟩ | ⟨-, -, hl, -⟩ | ⟨hne, -⟩
    · rw [Ctx.face, Option.isSome_map] at hsome
      refine ⟨hst, hsome, fun i ho => ?_⟩
      have hi : i < c.sess.aifPool.length := by
        by_contra hge
        rw [SessionObj.aifAt, List.getD_eq_getElem?_getD, List.getElem?_eq_none (Nat.not_lt.1 hge)] at ho
        cases ho
      have hi' : i < c'.sess.aifPool.length := hcon.length_eq ▸ hi
      have hget := (List.forall₂_iff_get.1 hcon).2 i hi hi'
      have hat {l : List Aif} (hl : i < l.length) : l.getD i default = l.get ⟨i, hl⟩ := by
        simp [List.getD_eq_getElem?_getD, List.getElem?_eq_getElem hl]
      rw [SessionObj.aifAt, hat hi] at ho
      rw [SessionObj.aifAt, hat hi', Aif.state_of_base hget, Aif.connected, if_pos ho]
    · exact absurd hl hnl
    · exact absurd hr hne

theorem openReports_of_one :
    SessMode.default.hasDevices ∧ (Ctx.waiting [0] fun _ => []).sess.state = .closed ∧
      OpenReports .default (Ctx.waiting [0] fun _ => []) :=
  ⟨rfl, rfl, (openReports_iff rfl rfl).2 (by decide)⟩

/-- Two back ends wait, and the graph of the second one cannot be added: the open returns `0`, and there is no graph. -/
theorem not_openReports_of_two :
    ¬ OpenReports .default (Ctx.waiting [0, 1] fun k => if k = .addGraph then [1] else []) := by
  intro h
  obtain ⟨r, c', hrep, hseen⟩ := Sat.exists_of_map h (fun r c' => (r, c'.sess.graph.isSome)) (b := (0, false))
    (by decide +kernel)
  have hsome := (hrep (Prod.mk.inj hseen).1).2.1
  rw [(Prod.mk.inj hseen).2] at hsome
  cases hsome

end Agm.Service
