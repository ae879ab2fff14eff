import Agm.Service.OpenSpec
import Agm.Service.SetOps

/-!
# The back ends of a closed session

Only an open session connects its back ends, and an open that fails and a close are meant to take all of them down.
Whether a close does is decided by the mode the session has at that moment, and `session_obj_set_config` may have
changed it since the open.
-/

namespace Agm.Service

open Agm.Lib

/-- If the session is closed, none of the back ends in `l` holds its device. -/
def ClosedIdle (c : Ctx) (l : List Aif) : Prop := c.sess.state = .closed → ∀ a ∈ l, ¬ a.isOpened

theorem closedIdle_replace {c c' : Ctx} {done todo : List Aif} {a b : Aif} (h : ClosedIdle c (done ++ a :: todo))
    (hs : c'.sess.state = .closed → c.sess.state = .closed) (hb : c.sess.state = .closed → b.isOpened → a.isOpened) :
    ClosedIdle c' (done ++ b :: todo) := by
  intro hc x hx hxo
  have hc := hs hc
  rcases List.mem_append.1 hx with hx | hx
  · exact h hc x (List.mem_append_left _ hx) hxo
  · rcases List.mem_cons.1 hx with rfl | hx
    · exact h hc a (by simp) (hb hc hxo)
    · exact h hc x (List.mem_append_right _ (List.mem_cons_of_mem _ hx)) hxo

theorem turns_closedIdle : Turns ClosedIdle where
  sess _ _ _ h _ hs hc := h (hs hc)
  call _ _ _ h s _ hc := h (s.state ▸ hc)
  pool _ _ _ h _ := h
  prepare done a todo c h := by
    refine (sat_prepareAif a c).mono fun p c' h' => ?_
    obtain ⟨s, -, ⟨rfl, hst, -⟩ | ⟨ha, -⟩⟩ := h'
    · exact closedIdle_replace h (s.state ▸ ·) fun _ hb => isOpened_prepared hst ▸ hb
    · rw [ha]
      exact fun hc => h (s.state ▸ hc)
  start done a todo c h := by
    refine (sat_startAif a c).mono fun p c' h' => ?_
    obtain ⟨s, -, ⟨rfl, hst, -⟩ | ⟨ha, -⟩⟩ := h'
    · exact closedIdle_replace h (s.state ▸ ·) fun _ hb => isOpened_started hst ▸ hb
    · rw [ha]
      exact fun hc => h (s.state ▸ hc)
  stop done a todo state ret c h hstate := by
    refine (sat_stopAif state ret a c).mono fun p c' h' => ?_
    obtain ⟨s, -, ⟨hst, ha, -⟩ | ⟨-, ha, -⟩⟩ := h'
    · rw [ha]
      exact closedIdle_replace h (s.state ▸ ·) fun _ hb => isOpened_stopped hst hstate ▸ hb
    · rw [ha]
      exact fun hc => h (s.state ▸ hc)

/-- A session that is not closed stays so while it is prepared and started. -/
theorem turns_notClosed : Turns fun c _ => c.sess.state ≠ .closed where
  sess _ _ _ h _ hs hc := h (hs hc)
  call _ _ _ h s _ := by rw [s.state]; exact h
  pool _ _ _ h _ := h
  prepare _ a _ c h := (sat_prepareAif a c).mono fun _ _ h' => by rw [h'.1.state]; exact h
  start _ a _ c h := (sat_startAif a c).mono fun _ _ h' => by rw [h'.1.state]; exact h
  stop _ a _ state ret c h _ := (sat_stopAif state ret a c).mono fun _ _ h' => by rw [h'.1.state]; exact h

/-! ## The operations -/

/-- One back end is replaced by one that holds its device only if the old one did. -/
theorem closedIdle_setAif {c : Ctx} {i : Nat} {b : Aif} (h : AtPool ClosedIdle c)
    (hb : b.isOpened → (c.sess.aifAt i).isOpened) :
    AtPool ClosedIdle { c with sess := c.sess.setAif i b } := by
  by_cases hi : i < c.sess.aifPool.length
  · obtain ⟨done, todo, hl, -, hback⟩ := turns_closedIdle.split hi h
    exact hback b c (refl_of Ctx.AifStep c) (closedIdle_replace hl id fun _ => hb)
  · have hset : c.sess.aifPool.set i b = c.sess.aifPool := List.set_eq_of_length_le (Nat.not_lt.1 hi)
    unfold AtPool SessionObj.setAif
    rw [hset]
    exact h

theorem closedIdle_aifObjGet (aifId : Nat) : Within (Inv (AtPool ClosedIdle)) (aifObjGet aifId) := by
  refine within_inv.2 fun c h => (sat_aifObjGet aifId c).mono fun r c' h' => ?_
  cases r with
  | error e =>
    rw [h'.2]
    exact h
  | ok i =>
    rcases h'.2 with ⟨rfl, -⟩ | ⟨-, -, rfl⟩
    · exact h
    · intro hc a ha
      rcases List.mem_append.1 ha with ha | ha
      · exact h hc a ha
      · rw [List.mem_singleton.1 ha]
        simp [Aif.isOpened, AifState.rank]

/-- Connecting a back end of an open session leaves it open. -/
theorem notClosed_hotConnect {i n : Nat} {c : Ctx} (hc : c.sess.state ≠ .closed) :
    Sat (hotConnect i n) c fun _ c' => c'.sess.state ≠ .closed := by
  have hbody : Sat (hotConnectBody i n) c fun _ c' => c'.sess.state ≠ .closed := by
    unfold hotConnectBody
    rw [sat_bind, sat_get, sat_ite]
    refine ⟨fun h => absurd h hc, fun _ => ?_⟩
    have hcon : Sat (connectAt i n) c fun _ c' => c'.sess.state ≠ .closed := by
      unfold connectAt
      rw [sat_bind, sat_get]
      refine Sat.bind (aifStep_connectToOpened _ n c) fun p c₁ s₁ => ?_
      rw [sat_bind, sat_modSess, sat_pure]
      exact fun h => hc (s₁.state.symm.trans h)
    refine Sat.bind hcon fun r c₁ h₁ => ?_
    rw [sat_ite, sat_pure]
    refine ⟨fun _ => h₁, fun _ => ?_⟩
    rw [sat_ite, sat_pure]
    refine ⟨fun _ => h₁, fun _ => ?_⟩
    refine Sat.bind (within_inv.1 turns_notClosed.sessionPrepare c₁ h₁) fun r c₂ h₂ => ?_
    rw [sat_ite, sat_pure]
    refine ⟨fun _ => h₂, fun _ => ?_⟩
    rw [sat_ite, sat_pure]
    refine ⟨fun _ => ?_, fun _ => h₂⟩
    refine Sat.bind (within_inv.1 turns_notClosed.sessionStart c₂ h₂) fun r c₃ h₃ => ?_
    rw [sat_ite, sat_pure, sat_pure]
    exact ⟨fun _ => h₃, fun _ => h₃⟩
  refine Sat.bind hbody fun e c₁ h₁ => ?_
  cases e.1 with
  | done => exact (sat_pure _ _ _).2 h₁
  | unwind =>
    simp only [sat_bind, sat_modSess, sat_get]
    refine (sat_sessionDisconnectAif _ (n + 1) _).mono fun _ c₂ h₂ => (sat_pure _ _ _).2 ?_
    exact fun h => h₁ (h₂.1.state.symm.trans h)

theorem closedIdle_hotConnect {i n : Nat} {c : Ctx} (h : AtPool ClosedIdle c) :
    Sat (hotConnect i n) c fun _ c' => AtPool ClosedIdle c' := by
  by_cases hc : c.sess.state = .closed
  · have hbody : Sat (hotConnectBody i n) c fun e c' => e.1 = .done ∧ AtPool ClosedIdle c' := by
      unfold hotConnectBody
      rw [sat_bind, sat_get, if_pos hc, sat_bind, sat_modSess, sat_pure]
      exact ⟨rfl, closedIdle_setAif h (by simp [Aif.isOpened, AifState.rank])⟩
    refine Sat.bind hbody fun e c₁ h₁ => ?_
    rw [h₁.1]
    exact (sat_pure _ _ _).2 h₁.2
  · exact (notClosed_hotConnect hc).mono fun _ _ h' hc' => absurd hc' h'

theorem closedIdle_hotDisconnect {i n : Nat} {c : Ctx} (h : AtPool ClosedIdle c) :
    Sat (hotDisconnect i n) c fun _ c' => AtPool ClosedIdle c' := by
  have hset {c : Ctx} {state : AifState} (h : AtPool ClosedIdle c) (hs : state.rank < AifState.opened.rank) :
      AtPool ClosedIdle { c with sess := c.sess.setAifState i state } :=
    closedIdle_setAif h fun ho => absurd (of_decide_eq_true ho) (Nat.not_le.2 hs)
  unfold hotDisconnect
  rw [sat_bind, sat_modSess, sat_bind, sat_get]
  have hdisc (a : Aif) : Within (Inv (AtPool ClosedIdle)) (sessionDisconnectAif a n) := by
    refine within_inv.2 fun c h => (sat_sessionDisconnectAif a n c).mono fun _ c' h' => ?_
    unfold AtPool ClosedIdle
    rw [h'.1.state, h'.1.aifPool]
    exact h
  refine Sat.bind (within_inv.1 (within_onlyIf (hdisc _)) _ (hset h (by decide))) fun r c₁ h₁ => ?_
  rw [sat_ite, sat_pure, sat_bind, sat_modSess, sat_pure]
  exact ⟨fun _ => h₁, fun _ => hset h₁ (by decide)⟩

theorem closedIdle_sessionObjSessAifConnect (aifId : Nat) (aifState : Bool) :
    Within (Inv (AtPool ClosedIdle)) (sessionObjSessAifConnect aifId aifState) := by
  refine within_bind (closedIdle_aifObjGet aifId) fun r => ?_
  cases r with
  | error e => exact within_pure _
  | ok i =>
    exact within_bind within_get fun c => within_ite (within_pure _) <|
      within_ite (within_inv.2 fun _ h => closedIdle_hotConnect h) (within_inv.2 fun _ h => closedIdle_hotDisconnect h)

theorem closedIdle_restored {c c' : Ctx} (h : AtPool ClosedIdle c) (hc : c.sess.state = .closed)
    (hr : List.Forall₂ Aif.Restored c.sess.aifPool c'.sess.aifPool) : AtPool ClosedIdle c' := by
  intro _ b hb
  obtain ⟨a, ha, hab⟩ := exists_mem_of_forall₂ hr hb
  have hno := h hc a ha
  have hne : a.state ≠ .opened := fun ho => hno (by simp [Aif.isOpened, ho])
  rw [Aif.isOpened_of_base (hab hne)]
  exact hno

theorem closedIdle_sessionObjOpen (mode : SessMode) : Within (Inv (AtPool ClosedIdle)) (sessionObjOpen mode) := by
  refine within_inv.2 fun c h => ?_
  by_cases hc : c.sess.state = .closed
  · by_cases hm : mode.hasDevices
    · refine (sat_sessionObjOpen_devices hm hc).mono fun r c' h' => ?_
      rcases h' with ⟨-, hst, -⟩ | ⟨-, hst, -⟩ | ⟨-, -, -, -, hr⟩
      · exact fun hc' => nomatch hst.symm.trans hc'
      · exact fun hc' => nomatch hst.symm.trans hc'
      · exact closedIdle_restored h hc hr
    · refine (sat_sessionObjOpen_bare hm hc).mono fun r c' h' => ?_
      rcases h' with ⟨-, hst, -⟩ | ⟨-, -, -, hr⟩
      · exact fun hc' => nomatch hst.symm.trans hc'
      · exact closedIdle_restored h hc hr
  · unfold sessionObjOpen
    rw [sat_bind, sat_get, if_pos hc, sat_pure]
    exact h

/-- A close leaves back ends behind that hold their device: the session has a mode without devices by now. -/
def leavesBackEnds (c : Ctx) : Op → Bool
  | .close => c.sess.state ≠ .closed && ! c.sess.hasDevices && c.sess.aifPool.any Aif.isOpened
  | _ => false

theorem closedIdle_sessionClose {c : Ctx} (h : AtPool ClosedIdle c) (hguard : ¬ leavesBackEnds c .close) :
    Sat sessionClose c fun _ c' => AtPool ClosedIdle c' := by
  by_cases hc : c.sess.state = .closed
  · unfold sessionClose
    rw [sat_bind, sat_get, if_pos hc, sat_pure]
    exact h
  · refine (sat_sessionClose_aifs hc).mono fun _ c' h' _ a ha => ?_
    by_cases hd : c.sess.hasDevices
    · exact h'.1 hd a ha
    · intro hao
      rw [h'.2 hd] at ha
      refine hguard ?_
      simpa [leavesBackEnds, hd, hc] using ⟨a, ha, hao⟩

/-- The back ends of the list, by their places. -/
theorem forall_mem_iff_getD {l : List Aif} {p : Aif → Prop} (h : p default) :
    (∀ a ∈ l, p a) ↔ ∀ i, p (l.getD i default) := by
  constructor
  · intro hl i
    rw [List.getD_eq_getElem?_getD]
    cases hi : l[i]? with
    | none => exact h
    | some a => exact hl a (List.mem_of_getElem? hi)
  · intro hl a ha
    obtain ⟨i, hi, rfl⟩ := List.getElem_of_mem ha
    have := hl i
    rwa [List.getD_eq_getElem?_getD, List.getElem?_eq_getElem hi] at this

/-- Every operation keeps the back ends of a closed session idle, if it leaves none behind. -/
theorem closedIdle_run {op : Op} {c : Ctx} (h : AtPool ClosedIdle c) (hguard : ¬ leavesBackEnds c op) :
    Sat op.run c fun _ c' => AtPool ClosedIdle c' := by
  have hsets (hop : op.onlySets) : Sat op.run c fun _ c' => AtPool ClosedIdle c' := by
    refine (sets_run hop c).mono fun _ c' s hc => ?_
    have hl := (forall_mem_iff_getD (by decide)).1 (h (s.state ▸ hc))
    refine (forall_mem_iff_getD (by decide)).2 fun i => ?_
    have hi : (c'.sess.aifPool.getD i default).state = (c.sess.aifPool.getD i default).state := s.aifs i
    unfold Aif.isOpened at hl ⊢
    rw [hi]
    exact hl i
  cases op with
  | sessAifConnect aifId aifState => exact within_inv.1 (closedIdle_sessionObjSessAifConnect aifId aifState) c h
  | «open» mode => exact within_inv.1 (closedIdle_sessionObjOpen mode) c h
  | prepare => exact within_inv.1 turns_closedIdle.sessionPrepare c h
  | start => exact within_inv.1 turns_closedIdle.sessionStart c h
  | stop => exact within_inv.1 turns_closedIdle.sessionStop c h
  | close => exact closedIdle_sessionClose h hguard
  | _ => exact hsets rfl

/-- **A closed session holds no device.**  In every state of every run of operations, whatever GSL and ALSA answer, no
back end of a closed session is `AIF_OPENED`, `AIF_STOPPED`, `AIF_PREPARED` or `AIF_STARTED` — as long as no session
that has such a back end is closed in a mode without devices. -/
theorem closed_not_isOpened {w₀ w : World} (h₀ : w₀.Fresh)
    (h : Runs exec (fun w o => ¬ leavesBackEnds ((w.enter o).lock o.1) o.2) w₀ w) {s : SessId} (hs : s ∈ w.pool.ids)
    (hc : (w.pool.objs s).state = .closed) : ∀ a ∈ (w.pool.objs s).aifPool,
      a.state ≠ .opened ∧ a.state ≠ .stopped ∧ a.state ≠ .prepared ∧ a.state ≠ .started := by
  have key : w.Each fun s => s.state = .closed → ∀ a ∈ s.aifPool, ¬ a.isOpened := by
    refine h.invariant (fun s hs _ => h₀.aifs s hs) fun w o r w' hw hg he => ?_
    exact hw.step (fun _ _ _ ha => absurd ha List.not_mem_nil) he fun hφ => closedIdle_run hφ hg
  intro a ha
  have hno := key s hs hc a ha
  refine ⟨?_, ?_, ?_, ?_⟩ <;> intro ho <;> exact hno (by simp [Aif.isOpened, ho, AifState.rank])

/-- A close in the mode of the open. -/
theorem closed_not_isOpened_after_close :
    ∃ w, Runs exec (fun w o => ¬ leavesBackEnds ((w.enter o).lock o.1) o.2) (World.boot fun _ => []) w ∧
      1 ∈ w.pool.ids ∧ (w.pool.objs 1).state = .closed ∧ (w.pool.objs 1).aifPool.length = 1 ∧
      ∀ a ∈ (w.pool.objs 1).aifPool,
        a.state ≠ .opened ∧ a.state ≠ .stopped ∧ a.state ≠ .prepared ∧ a.state ≠ .started := by
  obtain ⟨w, h, hseen⟩ := Runs.exists_of_execAll exec (fun w o => ¬ leavesBackEnds ((w.enter o).lock o.1) o.2)
    [(1, .sessAifConnect 0 true), (1, .open .default), (1, .close)] (World.boot fun _ => [])
    (fun w => (decide (1 ∈ w.pool.ids), (w.pool.objs 1).state, (w.pool.objs 1).aifPool.length))
    (b := (true, .closed, 1)) (by decide +kernel)
  obtain ⟨hs, hc, hl⟩ : decide (1 ∈ w.pool.ids) = true ∧ (w.pool.objs 1).state = .closed ∧
      (w.pool.objs 1).aifPool.length = 1 := by simpa using hseen
  have hs := of_decide_eq_true hs
  exact ⟨w, h, hs, hc, hl, closed_not_isOpened (World.fresh_boot _) h hs hc⟩

/-- The configuration takes an open session into a mode without devices, and the close then leaves its back end
`AIF_OPENED`. -/
theorem closed_isOpened_after_setConfig :
    (World.boot fun _ => []).Fresh ∧ ∃ w, Runs exec (fun _ _ => True) (World.boot fun _ => []) w ∧
      1 ∈ w.pool.ids ∧ (w.pool.objs 1).state = .closed ∧ (w.pool.objs 1).aifPool.map (·.state) = [.opened] := by
  refine ⟨World.fresh_boot _, ?_⟩
  obtain ⟨w, h, hseen⟩ := Runs.exists_of_execAll exec (fun _ _ => True)
    [(1, .sessAifConnect 0 true), (1, .open .default), (1, .setConfig { dir := RX, sessMode := .noConfig } .invalid),
      (1, .close)] (World.boot fun _ => [])
    (fun w => (decide (1 ∈ w.pool.ids), (w.pool.objs 1).state, (w.pool.objs 1).aifPool.map (·.state)))
    (b := (true, .closed, [.opened])) (by decide +kernel)
  have hseen : decide (1 ∈ w.pool.ids) = true ∧ (w.pool.objs 1).state = .closed ∧
      (w.pool.objs 1).aifPool.map (·.state) = [.opened] := by simpa using hseen
  exact ⟨w, h, of_decide_eq_true hseen.1, hseen.2⟩

end Agm.Service
