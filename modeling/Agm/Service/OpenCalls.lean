import Agm.Service.Walks

/-!
# The calls of an open

`session_obj_open` connects the first back end that waits, and then the others; where it has come to is again a matter
of the calls these connects make, and of the answers that wait for them.  Nothing on the way ends the process.
-/

namespace Agm.Service

open Agm.Lib

/-! ## A connect comes back -/

theorem total_ask (k : Call) : Total (ask k) := fun _ => rfl

theorem total_askGsl (k : Call) : Total (askGsl k) := fun _ => rfl

theorem total_onHw {α : Type} {m : Prog Hw α} (h : Total m) : Total (onHw m) := h.zoom

theorem total_withGraph {f : GraphObj → M Int} (h : ∀ g, Total (f g)) : Total (withGraph f) := by
  refine total_bind total_get fun c => ?_
  cases c.sess.graph with
  | none => exact total_pure _
  | some g => exact h g

theorem total_deviceOpen (d : DevId) : Total (deviceOpen d) :=
  total_bind total_get fun _ => total_ite (total_bind (total_modify _) fun _ => total_pure _) <|
    total_bind (total_ask _) fun _ => total_ite (total_pure _) (total_bind (total_modify _) fun _ => total_pure _)

theorem total_deviceClose (d : DevId) : Total (deviceClose d) :=
  total_bind total_get fun _ => total_ite (total_pure _) <|
    total_bind (total_modify _) fun _ => total_ite (total_ask _) (total_pure _)

theorem total_graphClose : Total graphClose :=
  total_bind (total_withGraph fun _ => total_onHw (total_askGsl _)) fun _ =>
    total_bind (total_modify _) fun _ => total_pure _

theorem total_graphOpenGsl (md : Metadata) (mods : List ModuleInfo) : Total (graphOpenGsl md mods) :=
  total_bind total_get fun _ => total_bind (total_onHw (total_askGsl _)) fun _ => total_ite (total_pure _) <|
    total_bind (total_onHw (total_modify _)) fun _ => total_bind (total_onHw (total_askGsl _)) fun _ =>
      total_ite (total_bind (total_onHw (total_ask _)) fun _ => total_pure _)
        (total_bind (total_modify _) fun _ => total_pure _)

theorem total_graphOpen (md : Metadata) (dev : Option DevId) : Total (graphOpen md dev) := by
  refine total_bind total_get fun c => total_ite (total_graphOpenGsl md []) ?_
  have htags : Total (getTagsWithModuleInfo md.gkv) :=
    total_bind (total_onHw (total_askGsl _)) fun _ => total_ite (total_onHw (total_askGsl _)) (total_pure _)
  refine total_bind htags fun _ => total_ite (total_pure _) ?_
  cases collectModules md.gkv dev (c.hw.acdb.tagTable md.gkv) with
  | none => exact total_pure _
  | some mods => exact total_graphOpenGsl md mods

theorem total_configureModule (h : Handle) (m : ModuleInfo) : Total (configureModule h m) :=
  total_bind (total_modify _) fun _ => total_bind (total_onHw (total_ask _)) fun _ =>
    total_ite (total_pure _) (total_pure _)

theorem total_addModule (h : Handle) (m : ModuleInfo) : Total (addModule h m) :=
  total_bind total_get fun _ => total_ite (total_pure _) <| total_ite (total_pure _) <|
    total_ite (total_configureModule h m) (total_pure _)

theorem total_changeModule (h : Handle) (m : ModuleInfo) : Total (changeModule h m) := by
  refine total_bind total_get fun c => ?_
  cases m.devObj with
  | none => exact total_pure _
  | some d => exact total_ite (total_configureModule h m) (total_pure _)

theorem total_graphAdd (md : Metadata) (o : Owner) (dev : Option DevId) : Total (graphAdd md o dev) := by
  have hep : Total (graphAddHwEp md dev) := by
    cases dev with
    | none => exact total_pure _
    | some d =>
      exact total_bind total_get fun _ => total_bind (total_onHw (total_askGsl _)) fun _ => total_ite (total_pure _) <|
        total_bind (total_modify _) fun _ => total_pure _
  refine total_withGraph fun g => total_ite (total_pure _) <| total_bind (total_onHw (total_askGsl _)) fun _ =>
    total_ite (total_pure _) <| total_bind hep fun _ => total_ite (total_pure _) <| total_ite ?_ (total_pure _)
  exact total_bind total_get fun _ => total_bind (total_forEach (total_addModule g.handle) _) fun _ =>
    total_bind (total_modify _) fun _ => total_pure _

theorem total_graphChange (md : Metadata) (dev : Option DevId) : Total (graphChange md dev) := by
  have hep : Total (graphChangeModules md dev) := by
    cases dev with
    | none => exact total_pure _
    | some d =>
      exact total_bind total_get fun _ => total_bind (total_onHw (total_askGsl _)) fun _ => total_ite (total_pure _) <|
        total_bind (total_modify _) fun _ => total_pure _
  refine total_withGraph fun g => total_bind hep fun _ => total_ite (total_pure _) <|
    total_bind (total_onHw (total_askGsl _)) fun _ => total_ite (total_pure _) ?_
  exact total_bind total_get fun _ => total_bind (total_forEach (total_changeModule g.handle) _) fun _ =>
    total_bind (total_modify _) fun _ => total_pure _

theorem total_sessionConnectGraph (md : Metadata) (a : Aif) (n : Nat) : Total (sessionConnectGraph md a n) := by
  refine total_bind total_get fun c => total_ite (total_ite ?_ ?_) ?_
  · exact total_bind (total_graphOpen _ _) fun _ => total_ite (total_pure _) <|
      total_bind (total_withGraph fun _ => total_pure _) fun _ => total_pure _
  · exact total_bind (total_graphChange _ _) fun _ => total_pure _
  · exact total_bind (total_graphAdd _ _ _) fun _ => total_pure _

theorem total_sessionApplyCached (md : Metadata) (a : Aif) : Total (sessionApplyCached md a) := by
  have hset (p : Payload) : Total (graphSetConfig p) := total_withGraph fun _ => total_onHw (total_askGsl _)
  have hparams : Total sessionApplyParams := by
    refine total_bind total_get fun c => ?_
    cases c.sess.params with
    | none => exact total_pure _
    | some p =>
      exact total_ite (total_bind (hset p) fun _ => total_bind (total_modify _) fun _ => total_pure _) (total_pure _)
  have haif : Total (sessionApplyAifParams a) := by
    unfold sessionApplyAifParams
    cases a.params with
    | none => exact total_pure _
    | some p => exact total_bind (hset p) fun _ => total_ite (total_pure _) (total_pure _)
  have hdev : Total (sessionApplyAifDeviceParams a.devObj) := by
    refine total_bind total_get fun c => ?_
    cases (c.hw.devs a.devObj).params with
    | none => exact total_pure _
    | some p =>
      exact total_ite (total_pure _) <| total_bind (hset p) fun _ => total_bind (total_onHw (total_modify _)) fun _ =>
        total_pure _
  have htag (b : Aif) : Total (sessionApplyAifTagParams md b) := by
    unfold sessionApplyAifTagParams
    cases b.tagConfig with
    | none => exact total_pure _
    | some cfg => exact total_bind (total_withGraph fun _ => total_onHw (total_askGsl _)) fun _ => total_pure _
  exact total_bind hparams fun _ => total_ite (total_pure _) <| total_bind haif fun p => total_ite (total_pure _) <|
    total_bind hdev fun _ => total_ite (total_pure _) (htag p.2)

theorem total_sessionConnectBody (a : Aif) (n : Nat) : Total (sessionConnectBody a n) := by
  refine total_bind total_get fun c => ?_
  cases mergedMetadata a c with
  | none => exact total_pure _
  | some md =>
    exact total_bind (total_onHw (total_deviceOpen _)) fun _ => total_ite (total_pure _) <|
      total_bind (total_sessionConnectGraph md a n) fun _ => total_ite (total_pure _) <|
        total_bind (total_sessionApplyCached md a) fun _ => total_ite (total_pure _) (total_pure _)

theorem total_sessionConnectAif (a : Aif) (n : Nat) : Total (sessionConnectAif a n) := by
  refine total_bind (total_sessionConnectBody a n) fun e => ?_
  have hclose : Total (closeDevice e.aif >>= fun a => pure (e.ret, a)) :=
    total_bind (total_bind (total_onHw (total_deviceClose _)) fun _ => total_pure _) fun _ => total_pure _
  cases e.label with
  | done => exact total_pure _
  | graphCleanup md =>
    refine total_bind (total_ite total_graphClose ?_) fun _ => hclose
    exact total_withGraph fun _ => total_onHw (total_askGsl _)
  | closeDevice => exact hclose

theorem total_connectToOpened (a : Aif) (n : Nat) : Total (connectToOpened a n) :=
  total_bind (total_sessionConnectAif a n) fun _ => total_ite (total_pure _) (total_pure _)

theorem total_connectReminders : Total (forEachAif connectReminder) :=
  total_bind total_get fun _ => total_bind
    (total_forEach (fun a => total_ite (total_connectToOpened a 1) (total_pure _)) _) fun _ =>
    total_bind (total_modify _) fun _ => total_pure _

theorem total_sessionOpenWithFirstDevice : Total sessionOpenWithFirstDevice := by
  refine total_bind total_get fun c => ?_
  cases c.sess.aifPool.findIdx? (fun a => a.state = .open) with
  | none => exact total_pure _
  | some i => exact total_bind (total_connectToOpened _ 0) fun _ => total_bind (total_modify _) fun _ => total_pure _

/-! ## One connect -/

/-- `session_connect_aif` succeeds exactly if its calls are accepted. -/
theorem sat_connectToOpened_asks (a : Aif) (n : Nat) (c : Ctx) :
    Sat (connectToOpened a n) c fun p c' => (p.1 = 0 ↔ connects a n c) ∧ (p.1 = 0 →
      p.2 = { a.sent with state := .opened } ∧ c.ConnectsTo a n c') := by
  have haif : Sat (sessionConnectAif a n) c fun p c' =>
      (p.1 = 0 ↔ connects a n c) ∧ (p.1 = 0 → p.2 = a.sent ∧ c.ConnectsTo a n c') := by
    refine Sat.bind (sat_sessionConnectBody_asks a n c) fun e c₁ h₁ => ?_
    obtain ⟨hret, -, h₁⟩ := h₁
    have hclose (m : M Int) (hl : e.label ≠ .done) :
        Sat (m >>= fun _ => closeDevice e.aif >>= fun a => pure (e.ret, a)) c₁ fun p c' =>
          (p.1 = 0 ↔ connects a n c) ∧ (p.1 = 0 → p.2 = a.sent ∧ c.ConnectsTo a n c') := by
      have hany {α : Type} {m : M α} {c : Ctx} : Sat m c fun _ _ => True := fun _ _ _ => trivial
      refine Sat.bind hany fun _ c₂ _ => Sat.bind hany fun _ c₃ _ => (sat_pure _ _ _).2 ⟨hret, fun h0 => ?_⟩
      exact absurd (h₁ h0).1 hl
    cases hl : e.label with
    | done => exact (sat_pure _ _ _).2 ⟨hret, fun h0 => (h₁ h0).2⟩
    | graphCleanup md => exact hclose _ (by simp [hl])
    | closeDevice => exact hclose (pure 0) (by simp [hl])
  refine Sat.bind haif fun p c₁ h₁ => ?_
  rw [sat_ite, sat_pure, sat_pure]
  refine ⟨fun hp => ⟨h₁.1, fun h0 => absurd h0 hp⟩, fun hp => ?_⟩
  have hp := Decidable.not_not.1 hp
  exact ⟨⟨fun _ => h₁.1.1 hp, fun _ => rfl⟩, fun _ => ⟨by rw [(h₁.2 hp).1], (h₁.2 hp).2⟩⟩

/-! ## The connects of an open -/

/-- The back ends that wait for an open, in the order of the list. -/
def SessionObj.openAifs (s : SessionObj) : List Aif := s.aifPool.filter fun a => a.state = .open

/-- The session has taken the mode it is opened in. -/
def Ctx.inMode (c : Ctx) (mode : SessMode) : Ctx :=
  { c with sess := { c.sess with streamConfig := { c.sess.streamConfig with sessMode := mode } } }

/-- The calls that connect the back ends of the list one after the other, the first of them after `n` others; `none`
where a connect fails without a call that is refused. -/
def connectAllCalls : Nat → List Aif → Ctx → Option (List Kind)
  | _, [], _ => some []
  | n, a :: rest, c =>
    (connectCalls a n c).bind fun ks => (connectAllCalls 1 rest (c.connected a n)).map (ks ++ ·)

/-- The state after these connects, but for the outside world and the list of back ends. -/
def Ctx.connectAll : Nat → List Aif → Ctx → Ctx
  | _, [], c => c
  | n, a :: rest, c => Ctx.connectAll 1 rest (c.connected a n)

/-- The first back end that waits can be connected, and not all of them can, by the state and the answers that wait. -/
def restFails (mode : SessMode) (c : Ctx) : Bool :=
  match c.sess.openAifs with
  | [] => false
  | a :: rest => connects a 0 (c.inMode mode) &&
      ! (connectAllCalls 0 (a :: rest) (c.inMode mode)).any (acceptsAll c.answers)

theorem connectAllCalls_cons {n : Nat} {a : Aif} {rest : List Aif} {c : Ctx} {env : Kind → List Int} :
    (connectAllCalls n (a :: rest) c).any (acceptsAll env) ↔ ∃ ks, connectCalls a n c = some ks ∧ acceptsAll env ks ∧
      (connectAllCalls 1 rest (c.connected a n)).any (acceptsAll (popAnswers env ks)) := by
  rw [connectAllCalls]
  cases connectCalls a n c with
  | none => simp
  | some ks =>
    cases connectAllCalls 1 rest (c.connected a n) with
    | none => simp
    | some ls => simp [acceptsAll_append]

/-- The walk over the remaining back ends, from a state that differs from `c₀` in the outside world and the list. -/
theorem sat_connectReminders_asks (l : List Aif) {c c₀ : Ctx} (h : c₀.Alike c) :
    Sat (forEach connectReminder l) c fun p c' =>
      (p.1 = 0 ↔ (connectAllCalls 1 (l.filter fun a => a.state = .open) c₀).any (acceptsAll c.answers)) ∧
      (p.1 = 0 → (Ctx.connectAll 1 (l.filter fun a => a.state = .open) c₀).Alike c' ∧
        ∀ ks, connectAllCalls 1 (l.filter fun a => a.state = .open) c₀ = some ks →
          c'.answers = popAnswers c.answers ks) := by
  induction l generalizing c c₀ with
  | nil =>
    refine (sat_pure _ _ _).2 ⟨⟨fun _ => rfl, fun _ => rfl⟩, fun _ => ⟨h, fun ks hks => ?_⟩⟩
    rw [← Option.some.inj hks]
    rfl
  | cons a l ih =>
    unfold forEach
    by_cases ho : a.state = .open
    · have hfilter : (a :: l).filter (fun a => decide (a.state = .open)) =
          a :: l.filter fun a => decide (a.state = .open) := List.filter_cons_of_pos (by simp [ho])
      rw [hfilter, connectAllCalls_cons, connectReminder, if_pos ho]
      refine Sat.bind (sat_connectToOpened_asks a 1 c) fun p c₁ h₁ => ?_
      obtain ⟨hp, h₁⟩ := h₁
      have hcon : connects a 1 c ↔ ∃ ks, connectCalls a 1 c₀ = some ks ∧ acceptsAll c.answers ks := by
        rw [connects, h.connectCalls a Nat.one_ne_zero]
        simp [tagsAnswered, Option.any_eq_true]
      rw [hcon] at hp
      rw [sat_ite, sat_pure]
      constructor
      · intro hne
        refine ⟨iff_of_false hne fun hall => ?_, fun h0 => absurd h0 hne⟩
        obtain ⟨ks, hks, hacc, -⟩ := hall
        exact hne (hp.2 ⟨ks, hks, hacc⟩)
      · intro h0
        have h0 := Decidable.not_not.1 h0
        obtain ⟨-, hans, hsess, hstill⟩ := h₁ h0
        obtain ⟨ks, hks, hacc⟩ := hp.1 h0
        have halike : (c₀.connected a 1).Alike c₁ := by
          have hc := h.connected a Nat.one_ne_zero
          exact ⟨(congrArg SessionObj.unlisted hsess).trans hc.sess, hstill.trans hc.still⟩
        have hans := hans ks ((h.connectCalls a Nat.one_ne_zero).trans hks)
        refine Sat.bind (ih halike) fun q c₂ h₂ => (sat_pure _ _ _).2 ⟨h₂.1.trans ?_, fun hq => ⟨(h₂.2 hq).1, ?_⟩⟩
        · rw [hans]
          refine ⟨fun hall => ⟨ks, hks, hacc, hall⟩, fun hall => ?_⟩
          obtain ⟨ks', hks', -, hall⟩ := hall
          obtain rfl := Option.some.inj (hks.symm.trans hks')
          exact hall
        · intro ks' hks'
          rw [connectAllCalls, hks, Option.bind_some] at hks'
          obtain ⟨ls, hls, rfl⟩ := Option.map_eq_some_iff.1 hks'
          rw [(h₂.2 hq).2 ls hls, hans, popAnswers_append]
    · have hfilter : (a :: l).filter (fun a => decide (a.state = .open)) =
          l.filter fun a => decide (a.state = .open) := List.filter_cons_of_neg (by simp [ho])
      rw [hfilter, connectReminder, if_neg ho, sat_bind, sat_pure, if_neg (fun h => h rfl)]
      exact Sat.bind (ih h) fun q c₂ h₂ => (sat_pure _ _ _).2 h₂

/-- The first element with a property, and what is left of the ones with it once it has lost the property. -/
theorem filter_of_findIdx? {α : Type} {p : α → Bool} {l : List α} {i : Nat} (h : l.findIdx? p = some i) (d : α) :
    ∃ rest, l.filter p = l.getD i d :: rest ∧ ∀ b, p b = false → (l.set i b).filter p = rest := by
  induction l generalizing i with
  | nil => cases h
  | cons x l ih =>
    rw [List.findIdx?_cons] at h
    split at h
    · next hx =>
      obtain rfl : 0 = i := Option.some.inj h
      exact ⟨l.filter p, by simp [hx], fun b hb => by simp [hb]⟩
    · next hx =>
      obtain ⟨j, hj, rfl⟩ := Option.map_eq_some_iff.1 h
      obtain ⟨rest, hrest, hset⟩ := ih hj
      exact ⟨rest, by simpa [hx] using hrest, fun b hb => by simpa [hx] using hset b hb⟩

/-- The first back end that waits is connected, or there is none. -/
theorem sat_sessionOpenWithFirstDevice_asks (c : Ctx) :
    Sat sessionOpenWithFirstDevice c fun r c' =>
      match c.sess.openAifs with
      | [] => r ≠ 0
      | a :: rest => (r = 0 ↔ connects a 0 c) ∧ (r = 0 → (c.connected a 0).Alike c' ∧ c'.sess.openAifs = rest ∧
          ∀ ks, connectCalls a 0 c = some ks → c'.answers = popAnswers c.answers ks) := by
  unfold sessionOpenWithFirstDevice SessionObj.openAifs
  rw [sat_bind, sat_get]
  cases hf : c.sess.aifPool.findIdx? (fun a => a.state = .open) with
  | none =>
    have hnone : c.sess.aifPool.filter (fun a => decide (a.state = .open)) = [] := by
      rw [List.filter_eq_nil_iff]
      intro a ha
      simpa using List.findIdx?_eq_none_iff.1 hf a ha
    rw [sat_pure, hnone]
    show -EPIPE ≠ 0
    decide
  | some i =>
    obtain ⟨rest, hfilter, hset⟩ := filter_of_findIdx? hf default
    rw [hfilter]
    refine Sat.bind ((sat_connectToOpened_asks (c.sess.aifAt i) 0 c).and (aifStep_connectToOpened _ 0 c))
      fun p c₁ h₁ => ?_
    obtain ⟨⟨hp, h₁⟩, hstep⟩ := h₁
    rw [sat_bind, sat_modSess, sat_pure]
    refine ⟨hp, fun h0 => ?_⟩
    obtain ⟨haif, hans, hsess, hstill⟩ := h₁ h0
    have hlist := congrArg SessionObj.unlisted hsess
    refine ⟨⟨hlist, hstill⟩, ?_, hans⟩
    rw [← hset p.2 (by simp [haif])]
    show (c₁.sess.aifPool.set i p.2).filter _ = _
    rw [hstep.aifPool]

/-- The loop over the remaining back ends. -/
theorem sat_connectReminderLoop_asks {c c₀ : Ctx} (h : c₀.Alike c) :
    Sat (forEachAif connectReminder) c fun r c' =>
      (r = 0 ↔ (connectAllCalls 1 c.sess.openAifs c₀).any (acceptsAll c.answers)) ∧
      (r = 0 → (Ctx.connectAll 1 c.sess.openAifs c₀).Alike c' ∧
        ∀ ks, connectAllCalls 1 c.sess.openAifs c₀ = some ks → c'.answers = popAnswers c.answers ks) := by
  unfold forEachAif
  rw [sat_bind, sat_get]
  refine Sat.bind (sat_connectReminders_asks c.sess.aifPool h) fun q c₁ h₁ => ?_
  rw [sat_bind, sat_modSess, sat_pure]
  exact ⟨h₁.1, fun h0 => ⟨⟨(h₁.2 h0).1.sess, (h₁.2 h0).1.still⟩, (h₁.2 h0).2⟩⟩

/-- The loop fails exactly if its calls are not all accepted. -/
theorem fails_connectReminders {c c₀ : Ctx} (h : c₀.Alike c) : fails (forEachAif connectReminder) c =
    ! (connectAllCalls 1 c.sess.openAifs c₀).any (acceptsAll c.answers) := by
  obtain ⟨r, c', hrun⟩ := total_connectReminders.exists c
  have hfails : fails (forEachAif connectReminder) c = decide (r ≠ 0) := sat_fails _ c r c' hrun
  rw [hfails, decide_not]
  congr 1
  rw [Bool.eq_iff_iff, decide_eq_true_iff]
  exact (sat_connectReminderLoop_asks h r c' hrun).1

/-- After the first back end the others can be connected too exactly if all can. -/
theorem connectAllCalls_rest {a : Aif} {rest : List Aif} {c c' : Ctx} (hcon : connects a 0 c)
    (hans : ∀ ks, connectCalls a 0 c = some ks → c'.answers = popAnswers c.answers ks) :
    (connectAllCalls 0 (a :: rest) c).any (acceptsAll c.answers) ↔
      (connectAllCalls 1 rest (c.connected a 0)).any (acceptsAll c'.answers) := by
  unfold connects at hcon
  rw [Bool.and_eq_true, Option.any_eq_true] at hcon
  obtain ⟨-, ks, hks, hacc⟩ := hcon
  rw [connectAllCalls_cons, hans ks hks]
  refine ⟨fun h => ?_, fun h => ⟨ks, hks, hacc, h⟩⟩
  obtain ⟨ks', hks', -, h⟩ := h
  obtain rfl := Option.some.inj (hks.symm.trans hks')
  exact h

/-- **Where the loop over the remaining back ends comes to.**  It fails exactly if their calls are not all accepted. -/
theorem restFails_eq (mode : SessMode) (c : Ctx) :
    Sat sessionOpenWithFirstDevice (c.inMode mode) fun r c' =>
      restFails mode c = (decide (r = 0) && fails (forEachAif connectReminder) c') := by
  have hopen : c.sess.openAifs = (c.inMode mode).sess.openAifs := rfl
  have hans : c.answers = (c.inMode mode).answers := rfl
  unfold restFails
  rw [hopen, hans]
  generalize c.inMode mode = c₀
  refine (sat_sessionOpenWithFirstDevice_asks c₀).mono fun r c₁ h₁ => ?_
  cases hl : c₀.sess.openAifs with
  | nil =>
    rw [hl] at h₁
    rw [decide_eq_false h₁]
    rfl
  | cons a rest =>
    rw [hl] at h₁
    obtain ⟨hr, h₁⟩ := h₁
    dsimp only
    by_cases h0 : r = 0
    · obtain ⟨halike, hrest, hans⟩ := h₁ h0
      have hcon := hr.1 h0
      rw [fails_connectReminders halike, hrest, hcon, decide_eq_true h0, Bool.true_and, Bool.true_and,
        Bool.eq_iff_iff.2 (connectAllCalls_rest hcon hans)]
    · have hno : connects a 0 c₀ = false := Bool.eq_false_iff.2 fun h => h0 (hr.2 h)
      rw [hno, decide_eq_false h0]
      rfl

end Agm.Service
