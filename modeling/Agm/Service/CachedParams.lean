import Agm.Service.CacheTurns
import Agm.Service.GraphPointer

/-!
# Cached parameters are used once

What the three setters cache for a session that is not open is consumed when the session is opened or the back end is
connected, and dropped where that fails.  Two things follow: an open session has nothing cached, and GSL is handed what
a setter was given once at the most.  The second is a count: the calls that carried an item, and the copies of it that
are still cached, do not become more but by a setter.
-/

namespace Agm.Service

open Agm.Lib

/-! ## Connecting a back end -/

/-- Nothing is cached for the back end. -/
def Aif.Spent (a : Aif) : Prop := a.params = none ∧ a.tagConfig = none

def Item.inSess (x : Item) (s : SessionObj) : Nat := if s.params.map .payload = some x then 1 else 0

def Item.inAif (x : Item) (a : Aif) : Nat :=
  (if a.params.map .payload = some x then 1 else 0) + if a.tagConfig.map .tag = some x then 1 else 0

/-- The calls that carried `x`, and the copies of it that are cached for the session and for one back end. -/
def held (x : Item) (c : Ctx) (a : Aif) : Nat := handed x c.hw.trace + x.inSess c.sess + x.inAif a

/-- No device has `x` cached. -/
def Hw.Free (x : Item) (hw : Hw) : Prop := ∀ d, (hw.devs d).params.map .payload ≠ some x

/-- Cached parameters are only used up, and each of them is handed over for the copy that is lost. -/
structure Hands (c : Ctx) (a : Aif) (c' : Ctx) (a' : Aif) : Prop where
  sess : c'.sess.params = c.sess.params ∨ c'.sess.params = none
  params : a'.params = a.params ∨ a'.params = none
  tagConfig : a'.tagConfig = a.tagConfig ∨ a'.tagConfig = none
  devs : ∀ d, (c'.hw.devs d).params = (c.hw.devs d).params ∨ (c'.hw.devs d).params = none
  items : ∀ x, c.hw.Free x → held x c' a' ≤ held x c a

section

variable {c c' c'' : Ctx} {a a' a'' : Aif}

theorem Hw.Free.of_devs {x : Item} {hw hw' : Hw} (h : hw.Free x)
    (hd : ∀ d, (hw'.devs d).params = (hw.devs d).params ∨ (hw'.devs d).params = none) : hw'.Free x := by
  intro d
  rcases hd d with hd | hd
  · rw [hd]
    exact h d
  · rw [hd]
    exact fun h => nomatch h

theorem or_none_trans {α : Type} {x y z : Option α} (h : y = x ∨ y = none) (h' : z = y ∨ z = none) :
    z = x ∨ z = none := by
  rcases h' with rfl | h'
  · exact h
  · exact .inr h'

theorem Hands.trans (h : Hands c a c' a') (h' : Hands c' a' c'' a'') : Hands c a c'' a'' where
  sess := or_none_trans h.sess h'.sess
  params := or_none_trans h.params h'.params
  tagConfig := or_none_trans h.tagConfig h'.tagConfig
  devs d := or_none_trans (h.devs d) (h'.devs d)
  items x hx := (h'.items x (hx.of_devs h.devs)).trans (h.items x hx)

theorem Hands.of_step (h : c.CacheStep c') (a : Aif) : Hands c a c' a where
  sess := .inl h.params
  params := .inl rfl
  tagConfig := .inl rfl
  devs d := .inl (h.hw.params d)
  items x _ := by
    unfold held Item.inSess
    rw [h.hw.handed x, h.params]

/-- A back end that loses its parameters. -/
theorem Hands.drop (h : Hands c a c' a') : Hands c a c' { a' with params := none } where
  sess := h.sess
  params := .inr rfl
  tagConfig := h.tagConfig
  devs := h.devs
  items x hx := by
    have := h.items x hx
    simp only [held, Item.inAif, Option.map_none] at this ⊢
    have : (if (none : Option Item) = some x then 1 else 0) = 0 := if_neg (fun h => nomatch h)
    omega

end

theorem sat_graphSetConfig (p : Payload) (c : Ctx) : Sat (graphSetConfig p) c fun _ c' => c'.sess = c.sess ∧
    (c'.hw = c.hw ∨ ∃ h, c'.hw = c.hw.called (.setCustomConfig h p)) := by
  refine sat_withGraph c (fun _ => ⟨rfl, .inl rfl⟩) fun g _ => ?_
  rw [sat_onHw, sat_askGsl]
  exact ⟨rfl, .inr ⟨g.handle, rfl⟩⟩

theorem sat_graphSetConfigWithTag (gkv : Gkv) (cfg : TagConfig) (c : Ctx) :
    Sat (graphSetConfigWithTag gkv cfg) c fun _ c' => c'.sess = c.sess ∧
      (c'.hw = c.hw ∨ ∃ h, c'.hw = c.hw.called (.setConfig h gkv cfg)) := by
  refine sat_withGraph c (fun _ => ⟨rfl, .inl rfl⟩) fun g _ => ?_
  rw [sat_onHw, sat_askGsl]
  exact ⟨rfl, .inr ⟨g.handle, rfl⟩⟩

/-- At most one call was made, and it carried `y`. -/
structure Hw.HandsOne (y : Item) (hw hw' : Hw) : Prop where
  handed : ∀ x, handed x hw'.trace ≤ handed x hw.trace + if y = x then 1 else 0
  params : ∀ d, (hw'.devs d).params = (hw.devs d).params

theorem Hw.HandsOne.of_called {y : Item} {hw hw' : Hw} {k : Call} (hk : k.item = some y)
    (h : hw' = hw ∨ hw' = hw.called k) : hw.HandsOne y hw' := by
  rcases h with rfl | rfl
  · exact ⟨fun x => Nat.le_add_right _ _, fun _ => rfl⟩
  · refine ⟨fun x => ?_, fun _ => rfl⟩
    show Service.handed x (⟨k, _⟩ :: hw.trace) ≤ _
    rw [handed_cons, hk]
    simp

theorem handsOne_graphSetConfig (p : Payload) (c : Ctx) : Sat (graphSetConfig p) c fun _ c' =>
    c'.sess = c.sess ∧ c.hw.HandsOne (.payload p) c'.hw := by
  refine (sat_graphSetConfig p c).mono fun _ c' h => ⟨h.1, ?_⟩
  rcases h.2 with h | ⟨n, h⟩
  · exact .of_called (k := .setCustomConfig 0 p) rfl (.inl h)
  · exact .of_called rfl (.inr h)

theorem handsOne_graphSetConfigWithTag (gkv : Gkv) (cfg : TagConfig) (c : Ctx) :
    Sat (graphSetConfigWithTag gkv cfg) c fun _ c' => c'.sess = c.sess ∧ c.hw.HandsOne (.tag cfg) c'.hw := by
  refine (sat_graphSetConfigWithTag gkv cfg c).mono fun _ c' h => ⟨h.1, ?_⟩
  rcases h.2 with h | ⟨n, h⟩
  · exact .of_called (k := .setConfig 0 gkv cfg) rfl (.inl h)
  · exact .of_called rfl (.inr h)

theorem hands_sessionApplyParams (a : Aif) (c : Ctx) : Sat sessionApplyParams c fun _ c' => Hands c a c' a ∧
    (c.sess.state = .closed → c'.sess.params = none) := by
  have hrefl (h : c.sess.params = none) : Hands c a c a ∧ (c.sess.state = .closed → c.sess.params = none) :=
    ⟨.of_step (refl_of Ctx.CacheStep c) a, fun _ => h⟩
  unfold sessionApplyParams
  rw [sat_bind, sat_get]
  cases hp : c.sess.params with
  | none => exact (sat_pure _ _ _).2 (hp ▸ hrefl hp)
  | some p =>
    rw [sat_ite, sat_pure]
    refine ⟨fun _ => ?_, fun hcl => ⟨.of_step (refl_of Ctx.CacheStep c) a, fun h => absurd h hcl⟩⟩
    refine Sat.bind (handsOne_graphSetConfig p c) fun r c₁ h₁ => ?_
    obtain ⟨hs, h₁⟩ := h₁
    rw [sat_bind, sat_modSess, sat_pure]
    refine ⟨⟨.inr rfl, .inl rfl, .inl rfl, fun d => .inl (h₁.params d), fun x _ => ?_⟩, fun _ => rfl⟩
    have := h₁.handed x
    simp only [held, Item.inSess, hp, Option.map_some, Option.some.injEq, Option.map_none] at this ⊢
    have : (if (none : Option Item) = some x then 1 else 0) = 0 := if_neg (fun h => nomatch h)
    omega

/-- Parameters that GSL refused are still there; they go with the connect. -/
theorem hands_sessionApplyAifParams (a : Aif) (c : Ctx) : Sat (sessionApplyAifParams a) c fun p c' =>
    Hands c a c' { p.2 with params := none } ∧ c'.sess = c.sess ∧ p.2.tagConfig = a.tagConfig ∧
      (p.2.params = a.params ∨ p.2.params = none) ∧ (p.1 = 0 → p.2.params = none) := by
  have hstep {c' : Ctx} {p : Payload} (hp : a.params = some p) (hs : c'.sess = c.sess)
      (h : c.hw.HandsOne (.payload p) c'.hw) : Hands c a c' { a with params := none } := by
    refine ⟨.inl (by rw [hs]), .inr rfl, .inl rfl, fun d => .inl (h.params d), fun x _ => ?_⟩
    have := h.handed x
    simp only [held, Item.inSess, Item.inAif, hs, hp, Option.map_some, Option.some.injEq, Option.map_none] at this ⊢
    have : (if (none : Option Item) = some x then 1 else 0) = 0 := if_neg (fun h => nomatch h)
    omega
  unfold sessionApplyAifParams
  cases hp : a.params with
  | none => exact (sat_pure _ _ _).2 ⟨(Hands.of_step (refl_of Ctx.CacheStep c) a).drop, rfl, rfl, .inr hp, fun _ => hp⟩
  | some p =>
    refine Sat.bind (handsOne_graphSetConfig p c) fun r c₁ h₁ => ?_
    have hh := hstep hp h₁.1 h₁.2
    rw [sat_ite, sat_pure, sat_pure]
    exact ⟨fun hr => ⟨hh, h₁.1, rfl, .inl hp, fun h0 => absurd h0 hr⟩, fun _ => ⟨hh, h₁.1, rfl, .inr rfl, fun _ => rfl⟩⟩

theorem hands_sessionApplyAifDeviceParams (d : DevId) (a : Aif) (c : Ctx) :
    Sat (sessionApplyAifDeviceParams d) c fun _ c' => Hands c a c' a ∧ c'.sess = c.sess := by
  have hrefl : Hands c a c a ∧ c.sess = c.sess := ⟨.of_step (refl_of Ctx.CacheStep c) a, rfl⟩
  unfold sessionApplyAifDeviceParams
  rw [sat_bind, sat_get]
  cases hp : (c.hw.devs d).params with
  | none => exact (sat_pure _ _ _).2 hrefl
  | some p =>
    rw [sat_ite, sat_pure]
    refine ⟨fun _ => hrefl, fun _ => Sat.bind (handsOne_graphSetConfig p c) fun r c₁ h₁ => ?_⟩
    obtain ⟨hs, h₁⟩ := h₁
    rw [sat_bind, sat_onHw, sat_modify, sat_pure]
    refine ⟨⟨.inl (by rw [hs]), .inl rfl, .inl rfl, fun d' => ?_, fun x hx => ?_⟩, hs⟩
    · by_cases hd : d' = d
      · exact .inr (by rw [hd, Hw.setDev_devs_self])
      · exact .inl (by rw [Hw.setDev_devs_of_ne _ _ hd]; exact h₁.params d')
    · -- what the device had cached is not the item that is counted
      have hne : Item.payload p ≠ x := fun h => hx d (by rw [hp, ← h]; rfl)
      have := h₁.handed x
      rw [if_neg hne] at this
      show handed x c₁.hw.trace + x.inSess c₁.sess + x.inAif a ≤ _
      rw [hs]
      unfold held
      omega

theorem hands_sessionApplyAifTagParams (merged : Metadata) (a : Aif) (c : Ctx) :
    Sat (sessionApplyAifTagParams merged a) c fun p c' => Hands c a c' p.2 ∧ c'.sess = c.sess ∧
      p.2.params = a.params ∧ p.2.tagConfig = none := by
  unfold sessionApplyAifTagParams
  cases hcfg : a.tagConfig with
  | none => exact (sat_pure _ _ _).2 ⟨.of_step (refl_of Ctx.CacheStep c) a, rfl, rfl, hcfg⟩
  | some cfg =>
    refine Sat.bind (handsOne_graphSetConfigWithTag merged.gkv cfg c) fun r c₁ h₁ => ?_
    obtain ⟨hs, h₁⟩ := h₁
    refine (sat_pure _ _ _).2 ⟨⟨.inl (by rw [hs]), .inl rfl, .inr rfl, fun d => .inl (h₁.params d), fun x _ => ?_⟩,
      hs, rfl, rfl⟩
    have := h₁.handed x
    simp only [held, Item.inSess, Item.inAif, hs, hcfg, Option.map_some, Option.some.injEq, Option.map_none] at this ⊢
    have : (if (none : Option Item) = some x then 1 else 0) = 0 := if_neg (fun h => nomatch h)
    omega

/-- What is cached after the steps 2.c to 2.f; a failure is followed by the label that drops the parameters. -/
theorem hands_sessionApplyCached (merged : Metadata) (a : Aif) (c : Ctx) : Sat (sessionApplyCached merged a) c
    fun q c' => Hands c a c' { q.2 with params := none } ∧ (c.sess.state = .closed → c'.sess.params = none) ∧
      (q.1 = 0 → q.2.Spent) := by
  unfold sessionApplyCached
  refine Sat.bind (hands_sessionApplyParams a c) fun r c₁ h₁ => ?_
  obtain ⟨h₁, hfirst⟩ := h₁
  rw [sat_ite, sat_pure]
  refine ⟨fun hr => ⟨h₁.drop, hfirst, fun h0 => absurd h0 hr⟩, fun _ => ?_⟩
  refine Sat.bind (hands_sessionApplyAifParams a c₁) fun p c₂ h₂ => ?_
  obtain ⟨h₂, hs₂, -, -, hnone⟩ := h₂
  have h₂' := h₁.trans h₂
  have hfirst₂ (hcl : c.sess.state = .closed) : c₂.sess.params = none := by rw [hs₂]; exact hfirst hcl
  rw [sat_ite, sat_pure]
  refine ⟨fun hp => ⟨h₂', hfirst₂, fun h0 => absurd h0 hp⟩, fun hp => ?_⟩
  have hp2 : { p.2 with params := none } = p.2 := by rw [← hnone (not_not.1 hp)]
  rw [hp2] at h₂'
  refine Sat.bind (hands_sessionApplyAifDeviceParams a.devObj p.2 c₂) fun r c₃ h₃ => ?_
  obtain ⟨h₃, hs₃⟩ := h₃
  have h₃' := h₂'.trans h₃
  have hfirst₃ (hcl : c.sess.state = .closed) : c₃.sess.params = none := by rw [hs₃]; exact hfirst₂ hcl
  rw [sat_ite, sat_pure]
  refine ⟨fun hr => ⟨h₃'.drop, hfirst₃, fun h0 => absurd h0 hr⟩, fun _ => ?_⟩
  refine (hands_sessionApplyAifTagParams merged p.2 c₃).mono fun q c₄ h₄ => ?_
  obtain ⟨h₄, hs₄, hp₄, htag⟩ := h₄
  refine ⟨(h₃'.trans h₄).drop, fun hcl => by rw [hs₄]; exact hfirst₃ hcl, fun _ => ⟨?_, htag⟩⟩
  rw [hp₄]
  exact hnone (not_not.1 hp)

theorem cacheStep_sessionConnectGraph (merged : Metadata) (a : Aif) (n : Nat) :
    Within Ctx.CacheStep (sessionConnectGraph merged a n) := by
  refine within_bind within_get fun c => within_ite (within_ite ?_ ?_) ?_
  · exact within_bind (cacheStep_graphOpen _ _) fun _ => within_ite (within_pure _) <|
      within_bind cacheStep_graphRegisterCb fun _ => within_pure _
  · exact within_bind (cacheStep_graphChange _ _) fun _ => within_pure _
  · exact within_bind (cacheStep_graphAdd _ _ _) fun _ => within_pure _

theorem hands_sessionConnectBody (a : Aif) (n : Nat) (c : Ctx) : Sat (sessionConnectBody a n) c fun e c' =>
    (e.label = .done → Hands c a c' e.aif) ∧ (e.label ≠ .done → Hands c a c' { e.aif with params := none }) ∧
      (e.label = .done → e.ret = 0 → e.aif.Spent ∧ (c.sess.state = .closed → c'.sess.params = none)) := by
  have hrefl : Hands c a c a := .of_step (refl_of Ctx.CacheStep c) a
  unfold sessionConnectBody
  rw [sat_bind, sat_get]
  cases mergedMetadata a c with
  | none =>
    exact (sat_pure _ _ _).2 ⟨fun _ => hrefl, fun h => absurd rfl h, fun _ h0 => absurd h0 (show -ENOMEM ≠ 0 by decide)⟩
  | some merged =>
    have hopen := (cacheStep_onHw (handsNone_deviceOpen a.devObj) c).and (sat_onHw_later (sat_deviceOpen a.devObj c.hw))
    refine Sat.bind hopen fun r c₁ h₁ => ?_
    obtain ⟨h₁, s₁, -⟩ := h₁
    have hh₁ : Hands c a c₁ a := .of_step h₁ a
    rw [sat_ite, sat_pure]
    refine ⟨fun hr => ⟨fun _ => hh₁, fun h => absurd rfl h, fun _ h0 => absurd h0 hr⟩, fun _ => ?_⟩
    have hgraph := (cacheStep_sessionConnectGraph merged a n c₁).and (sat_sessionConnectGraph merged a n c₁)
    refine Sat.bind hgraph fun p c₂ h₂ => ?_
    obtain ⟨h₂, s₂, hlabel, -⟩ := h₂
    have hlabel : p.1 ≠ .done := by rcases hlabel with h | h <;> rw [h] <;> exact fun h => nomatch h
    have hh₂ : Hands c a c₂ a := hh₁.trans (.of_step h₂ a)
    rw [sat_ite, sat_pure]
    refine ⟨fun hp => ⟨fun h => absurd h hlabel, fun _ => hh₂.drop, fun h => absurd h hlabel⟩, fun _ => ?_⟩
    refine Sat.bind (hands_sessionApplyCached merged a c₂) fun q c₃ h₃ => ?_
    obtain ⟨h₃, hfirst, hspent⟩ := h₃
    have hh₃ := hh₂.trans h₃
    rw [sat_ite, sat_pure, sat_pure]
    refine ⟨fun hq => ⟨fun h => (nomatch h), fun _ => hh₃, fun h => (nomatch h)⟩, fun hq => ?_⟩
    have hspent := hspent (not_not.1 hq)
    have hq2 : { q.2 with params := none } = q.2 := by rw [← hspent.1]
    rw [hq2] at hh₃
    refine ⟨fun _ => hh₃, fun h => absurd rfl h, fun _ _ => ⟨hspent, fun hcl => hfirst ?_⟩⟩
    rw [s₂.state, s₁.state]
    exact hcl

/-- **What a connect does to the cache.** -/
theorem hands_connectToOpened (a : Aif) (n : Nat) (c : Ctx) : Sat (connectToOpened a n) c fun p c' =>
    Hands c a c' p.2 ∧ (p.1 ≠ 0 → p.2.isOpened = a.isOpened) ∧
      (p.1 = 0 → p.2.Spent ∧ (c.sess.state = .closed → c'.sess.params = none)) := by
  have hcon : Sat (sessionConnectAif a n) c fun p c' => Hands c a c' p.2 ∧
      (p.1 = 0 → p.2.Spent ∧ (c.sess.state = .closed → c'.sess.params = none)) := by
    unfold sessionConnectAif
    refine Sat.bind ((hands_sessionConnectBody a n c).and (sat_sessionConnectBody a n c)) fun e c₁ h₁ => ?_
    obtain ⟨⟨hdone, hother, hok⟩, -, -, hret⟩ := h₁
    have hfail (hl : e.label ≠ .done) : e.ret ≠ 0 := by
      rcases hret with h | h | h
      · exact absurd h.1 hl
      · exact absurd h.1 hl
      · exact h.2.1
    -- both labels drop the parameters and leave the rest of the cache
    have hend {m : M Unit} (hl : e.label ≠ .done) (hm : Within Ctx.CacheStep m) :
        Sat (m >>= fun _ => closeDevice e.aif >>= fun a => pure (e.ret, a)) c₁ fun p c' => Hands c a c' p.2 ∧
          (p.1 = 0 → p.2.Spent ∧ (c.sess.state = .closed → c'.sess.params = none)) := by
      refine Sat.bind (hm c₁) fun _ c₂ h₂ => ?_
      unfold closeDevice
      rw [bind_assoc]
      refine Sat.bind (cacheStep_onHw (handsNone_deviceClose _) c₂) fun _ c₃ h₃ => ?_
      rw [pure_bind, sat_pure]
      refine ⟨(hother hl).trans (.of_step (trans_of Ctx.CacheStep h₂ h₃) _), fun h0 => absurd h0 (hfail hl)⟩
    cases hl : e.label with
    | done => exact (sat_pure _ _ _).2 ⟨hdone hl, hok hl⟩
    | graphCleanup merged =>
      have hclean : Within Ctx.CacheStep (graphCleanup merged e.aif n >>= fun _ => pure ()) :=
        within_bind (within_ite cacheStep_graphClose (cacheStep_graphRemove _ _)) fun _ => within_pure _
      have := hend (by rw [hl]; exact fun h => nomatch h) hclean
      rw [bind_assoc] at this
      exact this
    | closeDevice =>
      have := hend (m := pure ()) (by rw [hl]; exact fun h => nomatch h) (within_pure _)
      rw [pure_bind] at this
      exact this
  refine Sat.bind (hcon.and (sat_sessionConnectAif a n c)) fun p c₁ h₁ => ?_
  obtain ⟨⟨hh, hok⟩, -, hbase, -⟩ := h₁
  rw [sat_ite, sat_pure, sat_pure]
  refine ⟨fun hp => ⟨hh, fun _ => Aif.isOpened_of_base hbase, hok⟩, fun hp => ?_⟩
  exact ⟨⟨hh.sess, hh.params, hh.tagConfig, hh.devs, hh.items⟩, fun h => absurd rfl h, fun _ => hok (not_not.1 hp)⟩

/-! ## An open session has nothing cached -/

theorem cacheTurns_noParams : CacheTurns fun c _ => c.sess.params = none where
  quiet _ _ _ h hp _ := hp.trans h
  settle _ _ _ _ _ h _ := h
  append _ _ _ _ h := h
  params d c l h := (hands_sessionApplyAifDeviceParams d default c).mono fun _ c' h' => by rw [h'.2]; exact h
  connect _ a _ n c h := (hands_connectToOpened a n c).mono fun _ c' h' => by
    rcases h'.1.sess with hs | hs
    · exact hs.trans h
    · exact hs

/-- The back ends that hold their devices have nothing cached. -/
def OpenedSpent (_ : Ctx) (l : List Aif) : Prop := ∀ a ∈ l, a.isOpened → a.Spent

theorem OpenedSpent.replace {c c' : Ctx} {done todo : List Aif} {a b : Aif} (h : OpenedSpent c (done ++ a :: todo))
    (hb : (a.isOpened → a.Spent) → b.isOpened → b.Spent) : OpenedSpent c' (done ++ b :: todo) := by
  intro x hx hxo
  rcases List.mem_append.1 hx with hx | hx
  · exact h x (List.mem_append_left _ hx) hxo
  · rcases List.mem_cons.1 hx with rfl | hx
    · exact hb (h a (List.mem_append_right _ List.mem_cons_self)) hxo
    · exact h x (List.mem_append_right _ (List.mem_cons_of_mem _ hx)) hxo

theorem Aif.Spent.of_or {a b : Aif} (h : a.Spent) (hp : b.params = a.params ∨ b.params = none)
    (ht : b.tagConfig = a.tagConfig ∨ b.tagConfig = none) : b.Spent :=
  ⟨hp.elim (fun hp => hp.trans h.1) id, ht.elim (fun ht => ht.trans h.2) id⟩

theorem cacheTurns_openedSpent : CacheTurns OpenedSpent where
  quiet _ _ _ h _ _ := h
  settle done a b todo c h hs := h.replace fun ha hb => (ha (hs.opened hb)).of_or (.inl hs.params) hs.tagConfig
  append aifId d c l h a ha hao := by
    rcases List.mem_append.1 ha with ha | ha
    · exact h a ha hao
    · rw [List.mem_singleton.1 ha] at hao
      cases hao
  params _ c l h := fun _ _ _ => h
  connect done a todo n c h := by
    refine (hands_connectToOpened a n c).mono fun p c' h' => ?_
    obtain ⟨hh, hsame, hok⟩ := h'
    refine OpenedSpent.replace h fun ha hb => ?_
    by_cases hp : p.1 = 0
    · exact (hok hp).1
    · rw [hsame hp] at hb
      exact (ha hb).of_or hh.params hh.tagConfig

/-! ## Which operations close a session -/

theorem sat_sessAifConnect_closed {aifId : Nat} {aifState : Bool} {c : Ctx} (hc : c.sess.state = .closed) :
    Sat (sessionObjSessAifConnect aifId aifState) c fun _ c' => c'.sess.state = .closed ∧ c'.face = c.face := by
  refine Sat.bind (sets_aifObjGet aifId c) fun r c₁ s₁ => ?_
  have hc₁ : c₁.sess.state = .closed := s₁.state.trans hc
  cases r with
  | error e => exact (sat_pure _ _ _).2 ⟨hc₁, s₁.face⟩
  | ok i =>
    rw [sat_bind, sat_get, sat_ite, sat_pure, sat_ite]
    refine ⟨fun _ => ⟨hc₁, s₁.face⟩, fun _ => ⟨fun _ => ?_, fun _ => ?_⟩⟩
    · refine (sat_hotConnect_closed hc₁).mono fun _ c' h' => ?_
      rw [h']
      exact ⟨hc₁, s₁.face⟩
    · exact (sat_hotDisconnect_face i _ c₁).mono fun _ c' h' => ⟨h'.1.trans hc₁, h'.2.trans s₁.face⟩

/-- A closed session without a graph whose back ends are idle is left so, by all that does not open it. -/
theorem closed_run {op : Op} {c : Ctx} (hop : ∀ mode, op ≠ .open mode) (hc : c.sess.state = .closed)
    (hf : c.face = none) (hidle : ∀ a ∈ c.sess.aifPool, ¬ a.isOpened) :
    Sat op.run c fun _ c' => c'.sess.state = .closed ∧ c'.face = none := by
  have hsets (hop : op.onlySets) : Sat op.run c fun _ c' => c'.sess.state = .closed ∧ c'.face = none :=
    (sets_run hop c).mono fun _ c' s => ⟨s.state.trans hc, s.face.trans hf⟩
  cases op with
  | sessAifConnect aifId aifState =>
    exact (sat_sessAifConnect_closed hc).mono fun _ c' h' => ⟨h'.1, h'.2.trans hf⟩
  | «open» mode => exact absurd rfl (hop mode)
  | prepare =>
    exact (stages_stuck.sessionPrepare c).mono fun _ c' h' => ⟨(h' hf).2.trans hc, (h' hf).1⟩
  | start =>
    have hcount : c.sess.countWithState .opened false = 0 :=
      List.countP_eq_zero.2 fun a ha => by simpa [Aif.isOpened] using hidle a ha
    exact (sat_sessionStart_none hf hc (by simp [startsClosed, hcount])).mono fun _ c' h' => ⟨h'.2, h'.1⟩
  | stop =>
    show Sat sessionStop c _
    unfold sessionStop
    rw [sat_bind, sat_get, if_pos (by rw [hc]; decide), sat_pure]
    exact ⟨hc, hf⟩
  | close =>
    refine (sat_sessionClose_closed hc).mono fun _ c' h' => ?_
    rw [h']
    exact ⟨hc, hf⟩
  | _ => exact hsets rfl

/-- Only a close closes a session. -/
theorem notClosed_run {op : Op} {c : Ctx} (hop : op ≠ .close) (hc : c.sess.state ≠ .closed) :
    Sat op.run c fun _ c' => c'.sess.state ≠ .closed := by
  have hsets (hop : op.onlySets) : Sat op.run c fun _ c' => c'.sess.state ≠ .closed :=
    (sets_run hop c).mono fun _ c' s => s.state ▸ hc
  cases op with
  | sessAifConnect aifId aifState =>
    refine Sat.bind (sets_aifObjGet aifId c) fun r c₁ s₁ => ?_
    have hc₁ : c₁.sess.state ≠ .closed := s₁.state ▸ hc
    cases r with
    | error e => exact (sat_pure _ _ _).2 hc₁
    | ok i =>
      rw [sat_bind, sat_get, sat_ite, sat_pure, sat_ite]
      refine ⟨fun _ => hc₁, fun _ => ⟨fun _ => notClosed_hotConnect hc₁, fun _ => ?_⟩⟩
      exact (sat_hotDisconnect_face i _ c₁).mono fun _ c' h' => h'.1 ▸ hc₁
  | «open» mode =>
    show Sat (sessionObjOpen mode) c _
    unfold sessionObjOpen
    rw [sat_bind, sat_get, if_pos hc, sat_pure]
    exact hc
  | prepare => exact within_inv.1 turns_notClosed.sessionPrepare c hc
  | start => exact within_inv.1 turns_notClosed.sessionStart c hc
  | stop => exact within_inv.1 turns_notClosed.sessionStop c hc
  | close => exact absurd rfl hop
  | _ => exact hsets rfl

/-! ## The invariant -/

theorem params_sessionOpenWithFirstDevice {c : Ctx} (hc : c.sess.state = .closed) :
    Sat sessionOpenWithFirstDevice c fun r c' => r = 0 → c'.sess.params = none := by
  unfold sessionOpenWithFirstDevice
  rw [sat_bind, sat_get]
  cases c.sess.aifPool.findIdx? (fun a => a.state = .open) with
  | none => exact (sat_pure _ _ _).2 fun h0 => absurd h0 (by decide)
  | some i =>
    refine Sat.bind (hands_connectToOpened _ 0 c) fun p c₁ h₁ => ?_
    rw [sat_bind, sat_modSess, sat_pure]
    exact fun h0 => (h₁.2.2 h0).2 hc

theorem params_sessionOpenWithoutDevice (c : Ctx) :
    Sat sessionOpenWithoutDevice c fun r c' => r = 0 → c'.sess.params = none := by
  have hclose {r : Int} (hr : r ≠ 0) (c₁ : Ctx) :
      Sat (graphClose >>= fun _ => pure r) c₁ fun r c' => r = 0 → c'.sess.params = none := by
    refine Sat.bind (fun _ _ _ => trivial : Sat graphClose c₁ fun _ _ => True) fun _ c₂ _ => ?_
    exact (sat_pure _ _ _).2 fun h0 => absurd h0 hr
  unfold sessionOpenWithoutDevice
  rw [sat_bind, sat_get]
  refine Sat.bind (cacheStep_graphOpen _ _ c) fun r c₁ h₁ => ?_
  rw [sat_ite, sat_pure]
  refine ⟨fun hr h0 => absurd h0 hr, fun _ => ?_⟩
  refine Sat.bind (cacheStep_graphRegisterCb c₁) fun r c₂ h₂ => ?_
  rw [sat_ite]
  refine ⟨fun hr => hclose hr c₂, fun _ => ?_⟩
  cases hp : c.sess.params with
  | none =>
    refine (sat_pure _ _ _).2 fun _ => ?_
    rw [h₂.params, h₁.params, hp]
  | some p =>
    refine Sat.bind (handsOne_graphSetConfig p c₂) fun r c₃ _ => ?_
    rw [sat_ite]
    refine ⟨fun hr => hclose hr c₃, fun _ => ?_⟩
    rw [sat_bind, sat_modSess, sat_pure]
    exact fun _ => rfl

/-- A session that is open after all has had its parameters consumed. -/
theorem params_sessionObjOpen {mode : SessMode} {c : Ctx} (hc : c.sess.state = .closed) :
    Sat (sessionObjOpen mode) c fun _ c' => c'.sess.state ≠ .closed → c'.sess.params = none := by
  have hno := cacheTurns_noParams
  have hbody : Sat (sessionOpenBody mode) c fun e c' => e.1 = .unwind ∨ e.2 = 0 → c'.sess.params = none := by
    unfold sessionOpenBody
    rw [sat_bind, sat_modSess, sat_ite]
    refine ⟨fun _ => ?_, fun _ => ?_⟩
    · refine Sat.bind (params_sessionOpenWithFirstDevice hc) fun r c₁ h₁ => ?_
      rw [sat_ite, sat_pure]
      refine ⟨fun hr h => h.elim (fun h => nomatch h) fun h0 => absurd h0 hr, fun hr => ?_⟩
      have hrest := within_bind hno.sessionConnectReminderDevices fun r =>
        within_ite (c := r ≠ 0) (within_pure (OpLabel.done, r)) hno.openEcRef
      exact (within_inv.1 hrest c₁ (h₁ (not_not.1 hr))).mono fun _ _ h _ => h
    · refine Sat.bind (params_sessionOpenWithoutDevice _) fun r c₁ h₁ => ?_
      rw [sat_ite, sat_pure]
      refine ⟨fun hr h => h.elim (fun h => nomatch h) fun h0 => absurd h0 hr, fun hr => ?_⟩
      exact (within_inv.1 hno.openLoopback c₁ (h₁ (not_not.1 hr))).mono fun _ _ h _ => h
  have hret : Sat (sessionObjOpen mode) c fun r c' => r = 0 → c'.sess.params = none := by
    unfold sessionObjOpen
    rw [sat_bind, sat_get, if_neg (fun h => h hc)]
    refine Sat.bind hbody fun e c₁ h₁ => ?_
    have hend := fun h => within_inv.1 (hno.openEnd e) c₁ (h₁ h)
    cases he : e.1 with
    | done =>
      rw [he] at hend
      rw [sat_ite, sat_pure]
      refine ⟨fun hr h0 => absurd h0 hr, fun hr => ?_⟩
      have := hend (.inr (not_not.1 hr))
      rw [if_neg hr] at this
      exact this.mono fun _ _ h _ => h
    | unwind =>
      rw [he] at hend
      exact (hend (.inl rfl)).mono fun _ _ h _ => h
  have hstate : Sat (sessionObjOpen mode) c fun r c' => r = 0 ∨ c'.sess.state = .closed := by
    by_cases hm : mode.hasDevices
    · refine (sat_sessionObjOpen_devices hm hc).mono fun r c' h' => ?_
      rcases h' with h' | h' | h'
      · exact .inl h'.1
      · exact .inl h'.1
      · exact .inr h'.2.1
    · refine (sat_sessionObjOpen_bare hm hc).mono fun r c' h' => ?_
      rcases h' with h' | h'
      · exact .inl h'.1
      · exact .inr h'.2.1
  exact (hret.and hstate).mono fun r c' h hne => h.1 (h.2.resolve_right hne)

theorem openedSpent_setAif {c c' : Ctx} {i : Nat} {b : Aif} (h : AtPool OpenedSpent c)
    (hl : c'.sess.aifPool = c.sess.aifPool.set i b) (hb : b.isOpened → b.Spent) : AtPool OpenedSpent c' := by
  intro a ha hao
  rw [hl] at ha
  rcases List.mem_or_eq_of_mem_set ha with ha | rfl
  · exact h a ha hao
  · exact hb hao

theorem openedSpent_of_edge {m : M Int} (hm : Within Ctx.EdgeStep m) : Within (Inv (AtPool OpenedSpent)) m :=
  hm.mono fun _ _ s h a ha hao => h a (s.aifPool ▸ ha) hao

/-- The second of two writes undoes the first. -/
theorem SessionObj.setAifParams_twice (s : SessionObj) {i : Nat} (hi : i < s.aifPool.length) (p q : Option Payload) :
    (s.setAifParams i p).setAifParams i q = s.setAifParams i q := by
  unfold setAifParams
  rw [SessionObj.aifAt_setAif _ hi]
  unfold setAif
  simp only [List.set_set]

/-- The session is closed only if its back ends are idle, so what is cached waits for a back end that is not open. -/
theorem openedSpent_setSessAifParams {aifId : Nat} {payload : Payload} {c : Ctx} (h : AtPool OpenedSpent c)
    (hidle : AtPool ClosedIdle c) : Sat (sessionObjSetSessAifParams aifId payload) c fun _ c' =>
      AtPool OpenedSpent c' := by
  have hget : Sat (aifObjGet aifId) c _ :=
    (cacheTurns_openedSpent.aifObjGet h).and (within_inv.1 (closedIdle_aifObjGet aifId) c hidle)
  refine Sat.bind hget fun r c₁ h₁ => ?_
  obtain ⟨⟨h₁, -, hlt⟩, hidle₁⟩ := h₁
  cases r with
  | error e => exact (sat_pure _ _ _).2 h₁
  | ok i =>
    have hi := hlt i rfl
    have hb : (c₁.sess.aifAt i).isOpened → (c₁.sess.aifAt i).Spent := h₁ _ (SessionObj.aifAt_mem _ hi)
    rw [sat_bind, sat_modSess, sat_bind, sat_get]
    have hat (p : Option Payload) : ((c₁.sess.setAifParams i p).aifAt i).isOpened = (c₁.sess.aifAt i).isOpened := by
      rw [SessionObj.setAifParams, SessionObj.aifAt_setAif _ hi]
      rfl
    rw [sat_ite]
    refine ⟨fun hnow => ?_, fun hwait => ?_⟩
    · refine Sat.bind (handsOne_graphSetConfig payload _) fun r c₂ h₂ => ?_
      rw [sat_bind, sat_modSess, sat_pure]
      rw [h₂.1, SessionObj.setAifParams_twice _ hi]
      exact openedSpent_setAif (b := { c₁.sess.aifAt i with params := none }) h₁ rfl fun hbo => ⟨rfl, (hb hbo).2⟩
    · refine (sat_pure _ _ _).2 (openedSpent_setAif h₁ rfl fun hbo => ⟨?_, (hb hbo).2⟩)
      have hclosed : payload ≠ [] → c₁.sess.state = .closed := by
        intro hp
        by_contra hne
        exact hwait ⟨hp, hne, (hat _).trans hbo⟩
      by_cases hp : payload = []
      · exact if_pos hp
      · have hbo : (c₁.sess.aifAt i).isOpened := hbo
        exact absurd hbo (hidle₁ (hclosed hp) _ (SessionObj.aifAt_mem _ hi))

theorem openedSpent_setSessAifParamsWithTag (aifId : Option Nat) (cfg : TagConfig) :
    Within (Inv (AtPool OpenedSpent)) (sessionObjSetSessAifParamsWithTag aifId cfg) := by
  have htag (gkv : Gkv) : Within (Inv (AtPool OpenedSpent)) (graphSetConfigWithTag gkv cfg) :=
    openedSpent_of_edge (edge_of_call (callFrame_graphCall.graphSetConfigWithTag gkv cfg))
  cases aifId with
  | none => exact within_bind within_get fun _ => within_ite (within_pure _) (htag _)
  | some aifId =>
    refine within_inv.2 fun c h => Sat.bind (cacheTurns_openedSpent.aifObjGet h) fun r c₁ h₁ => ?_
    cases r with
    | error e => exact (sat_pure _ _ _).2 h₁.1
    | ok i =>
      rw [sat_bind, sat_get, sat_ite]
      refine ⟨fun hwait => ?_, fun _ => ?_⟩
      · rw [sat_bind, sat_modSess, sat_pure]
        exact openedSpent_setAif h₁.1 rfl fun hbo => absurd hbo hwait.2
      · refine within_inv.1 (within_ite (within_pure _) ?_) c₁ h₁.1
        cases mergedMetadata (c₁.sess.aifAt i) c₁ with
        | none => exact within_pure _
        | some merged => exact htag _

theorem openedSpent_run {op : Op} {c : Ctx} (h : AtPool OpenedSpent c) (hidle : AtPool ClosedIdle c) :
    Sat op.run c fun _ c' => AtPool OpenedSpent c' := by
  have hpause (b : Bool) : Within (Inv (AtPool OpenedSpent)) (graphPauseResume b) :=
    openedSpent_of_edge (edge_of_call (callFrame_graphCall.graphPauseResume b))
  cases op with
  | «open» mode =>
    refine cacheTurns_openedSpent.sessionObjOpen h fun _ _ => ?_
    refine (sat_sessionOpenWithoutDevice _).mono fun _ c' h' a ha => ?_
    rw [h'.1.aifPool] at ha
    exact h a ha
  | pause => exact within_inv.1 (within_bind within_get fun _ => within_ite (within_pure _) (hpause true)) c h
  | resume => exact within_inv.1 (hpause false) c h
  | setSessParams payload =>
    have hmod {f : SessionObj → SessionObj} (hf : ∀ s, (f s).aifPool = s.aifPool) :
        Within (Inv (AtPool OpenedSpent)) (modSess f) :=
      within_modify fun c h a ha => h a (by rw [← hf c.sess]; exact ha)
    have hset := openedSpent_of_edge (edge_of_call (callFrame_graphCall.graphSetConfig payload))
    have hrun : Within (Inv (AtPool OpenedSpent)) (sessionObjSetSessParams payload) := by
      refine within_bind (hmod fun _ => rfl) fun _ => within_bind within_get fun _ => within_ite ?_ (within_pure _)
      exact within_bind hset fun _ => within_bind (hmod fun _ => rfl) fun _ => within_pure _
    exact within_inv.1 hrun c h
  | setSessAifParams aifId payload => exact openedSpent_setSessAifParams h hidle
  | setSessAifParamsWithTag aifId cfg => exact within_inv.1 (openedSpent_setSessAifParamsWithTag aifId cfg) c h
  | _ => exact within_inv.1 (cacheTurns_openedSpent.run rfl) c h

theorem params_setSessParams {payload : Payload} (c : Ctx) :
    Sat (sessionObjSetSessParams payload) c fun _ c' => c.sess.state ≠ .closed → c'.sess.params = none := by
  unfold sessionObjSetSessParams
  rw [sat_bind, sat_modSess, sat_bind, sat_get, sat_ite, sat_pure]
  refine ⟨fun _ => Sat.bind (handsOne_graphSetConfig payload _) fun r c₁ _ => ?_, fun hwait hne => ?_⟩
  · rw [sat_bind, sat_modSess, sat_pure]
    exact fun _ => rfl
  · by_cases hp : payload = []
    · exact if_pos hp
    · exact absurd ⟨hp, hne⟩ hwait

theorem noParams_aifObjGet (aifId : Nat) {k : Nat → M Int}
    (hk : ∀ i, Within (Inv fun c => c.sess.params = none) (k i)) :
    Within (Inv fun c => c.sess.params = none)
      (aifObjGet aifId >>= fun r => match r with | .error ret => pure ret | .ok i => k i) := by
  refine within_inv.2 fun c h => Sat.bind (cacheTurns_noParams.aifObjGet h) fun r c₁ h₁ => ?_
  cases r with
  | error e => exact (sat_pure _ _ _).2 h₁.1
  | ok i => exact within_inv.1 (hk i) c₁ h₁.1

/-- Of an open session nobody caches the parameters. -/
theorem params_run {op : Op} {c : Ctx} (hc : c.sess.state ≠ .closed) (h : c.sess.params = none) :
    Sat op.run c fun _ c' => c'.sess.params = none := by
  have hno := cacheTurns_noParams
  have hcall {m : M Int} (hm : Within Ctx.GraphCall m) : Within (Inv fun c => c.sess.params = none) m :=
    (edge_of_call hm).mono fun _ _ s h => (congrArg SessionObj.params s.sess :).trans h
  have hset {f : SessionObj → SessionObj} (hf : ∀ s, (f s).params = s.params) :
      Within (Inv fun c : Ctx => c.sess.params = none) (modSess f) := within_modify fun c h => (hf c.sess).trans h
  suffices hrun : (∀ mode, op ≠ .open mode) → (∀ p, op ≠ .setSessParams p) →
      Within (Inv fun c => c.sess.params = none) op.run by
    cases op with
    | «open» mode =>
      show Sat (sessionObjOpen mode) c _
      unfold sessionObjOpen
      rw [sat_bind, sat_get, if_pos hc, sat_pure]
      exact h
    | setSessParams payload => exact (params_setSessParams c).mono fun _ _ h => h hc
    | _ => exact within_inv.1 (hrun (fun _ h => by cases h) fun _ h => by cases h) c h
  intro hopen hparams
  cases op with
  | «open» mode => exact absurd rfl (hopen mode)
  | setSessParams payload => exact absurd rfl (hparams payload)
  | pause =>
    exact within_bind within_get fun _ =>
      within_ite (within_pure _) (hcall (callFrame_graphCall.graphPauseResume true))
  | resume => exact hcall (callFrame_graphCall.graphPauseResume false)
  | setSessAifParams aifId payload =>
    refine noParams_aifObjGet aifId fun i => within_bind (hset fun _ => rfl) fun _ => within_bind within_get fun _ => ?_
    exact within_ite (within_bind (hcall (callFrame_graphCall.graphSetConfig payload)) fun _ =>
      within_bind (hset fun _ => rfl) fun _ => within_pure _) (within_pure _)
  | setSessAifParamsWithTag aifId cfg =>
    cases aifId with
    | none =>
      exact within_bind within_get fun _ =>
        within_ite (within_pure _) (hcall (callFrame_graphCall.graphSetConfigWithTag _ _))
    | some aifId =>
      refine noParams_aifObjGet aifId fun i => within_bind within_get fun c => within_ite ?_ (within_ite (within_pure _) ?_)
      · exact within_bind (hset fun _ => rfl) fun _ => within_pure _
      · cases mergedMetadata (c.sess.aifAt i) c with
        | none => exact within_pure _
        | some merged => exact hcall (callFrame_graphCall.graphSetConfigWithTag _ _)
  | _ => exact hno.run rfl

/-- What is true of a session between two operations. -/
structure SessionObj.Drained (s : SessionObj) : Prop where
  graph : s.state = .closed → s.graph = none
  idle : s.state = .closed → ∀ a ∈ s.aifPool, ¬ a.isOpened
  params : s.state ≠ .closed → s.params = none
  aifs : ∀ a ∈ s.aifPool, a.isOpened → a.Spent

theorem SessionObj.drained_create (id : SessId) : (sessionObjCreate id).Drained where
  graph _ := rfl
  idle _ _ ha := absurd ha List.not_mem_nil
  params h := absurd rfl h
  aifs _ ha := absurd ha List.not_mem_nil

/-- A session that is closed before or after an operation has no graph object after it, if it is closed. -/
theorem drained_graph (op : Op) {c : Ctx} (h : c.sess.Drained) :
    Sat op.run c fun _ c' => c'.sess.state = .closed → c'.sess.graph = none := by
  by_cases hc : c.sess.state = .closed
  · have hf := Ctx.face_eq_none.2 (h.graph hc)
    by_cases hop : ∃ mode, op = .open mode
    · obtain ⟨mode, rfl⟩ := hop
      by_cases hm : mode.hasDevices
      · refine (sat_sessionObjOpen_devices hm hc).mono fun r c' h' hc' => Ctx.face_eq_none.1 ?_
        rcases h' with ⟨-, hst, -⟩ | ⟨-, hst, -⟩ | ⟨-, -, -, hface, -⟩
        · exact nomatch hst.symm.trans hc'
        · exact nomatch hst.symm.trans hc'
        · exact hface.elim id fun h => h.trans hf
      · refine (sat_sessionObjOpen_bare hm hc).mono fun r c' h' hc' => Ctx.face_eq_none.1 ?_
        rcases h' with ⟨-, hst, -⟩ | ⟨-, -, hface, -⟩
        · exact nomatch hst.symm.trans hc'
        · exact hface.elim id fun h => h.trans hf
    · refine (closed_run (fun mode he => hop ⟨mode, he⟩) hc hf (h.idle hc)).mono fun _ c' h' _ => ?_
      exact Ctx.face_eq_none.1 h'.2
  · by_cases hop : op = .close
    · rw [hop]
      exact (sat_sessionClose_face hc).mono fun _ c' h' _ => Ctx.face_eq_none.1 h'.2
    · exact (notClosed_run hop hc).mono fun _ c' h' hc' => absurd hc' h'

theorem drained_params (op : Op) {c : Ctx} (h : c.sess.Drained) :
    Sat op.run c fun _ c' => c'.sess.state ≠ .closed → c'.sess.params = none := by
  by_cases hc : c.sess.state = .closed
  · by_cases hop : ∃ mode, op = .open mode
    · obtain ⟨mode, rfl⟩ := hop
      exact params_sessionObjOpen hc
    · have hf := Ctx.face_eq_none.2 (h.graph hc)
      exact (closed_run (fun mode he => hop ⟨mode, he⟩) hc hf (h.idle hc)).mono fun _ c' h' hne => absurd h'.1 hne
  · exact (params_run hc (h.params hc)).mono fun _ _ h _ => h

/-- **Every operation leaves the session drained**, unless it leaves back ends behind. -/
theorem drained_run {op : Op} {c : Ctx} (h : c.sess.Drained) (hguard : ¬ leavesBackEnds c op) :
    Sat op.run c fun _ c' => c'.sess.Drained := by
  have hstate := (drained_graph op h).and (drained_params op h)
  have haifs := (closedIdle_run h.idle hguard).and (openedSpent_run h.aifs h.idle)
  exact (hstate.and haifs).mono fun _ c' h' => ⟨h'.1.1, h'.2.1, h'.1.2, h'.2.2⟩

end Agm.Service
