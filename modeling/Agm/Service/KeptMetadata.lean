import Agm.Service.MetadataCopy
import Agm.Service.OpenSpec

/-!
# Metadata that stays stored

What the walks of the service leave of a session and its back ends: the stored metadata, the devices, and which back ends
are closed.
-/

namespace Agm.Service

open Agm.Lib

/-- The stored metadata of this session, of its back ends, of the other sessions and of the devices is what it was. -/
structure Ctx.SameMetadata (c c' : Ctx) : Prop where
  sess : c'.sess.sessMeta = c.sess.sessMeta
  aifs : ∀ aifId, c'.sess.storedAifMeta aifId = c.sess.storedAifMeta aifId
  others : ∀ s ∈ c.pool.ids, c'.pool.objs s = c.pool.objs s
  devs : ∀ d, (c'.hw.devs d).metadata = (c.hw.devs d).metadata

/-- What a walk leaves of a back end: its metadata, its device, and whether it is closed. -/
def Aif.live (a : Aif) : Aif × Bool := (a.fixed, a.state = .closed)

theorem Aif.live_eq {a b : Aif} (hf : b.fixed = a.fixed) (hs : b.state = .closed ↔ a.state = .closed) :
    b.live = a.live := by
  simp [Aif.live, hf, hs]

section

variable {β : Type} {view : Aif → β} {md : Metadata} {L : List β}

theorem map_replace {done todo : List Aif} {a b : Aif} (h : (done ++ a :: todo).map view = L)
    (hb : view b = view a) : (done ++ b :: todo).map view = L := by
  rw [← h]
  simp [hb]

variable (hview : ∀ {a b : Aif}, b.live = a.live → view b = view a)

include hview

/-- Preparing, starting and stopping. -/
theorem turns_view : Turns fun c l => c.sess.sessMeta = md ∧ l.map view = L where
  sess _ _ _ h hm _ := ⟨hm.trans h.1, h.2⟩
  call _ _ _ h s _ := ⟨s.sessMeta.trans h.1, h.2⟩
  pool _ _ _ h _ := h
  prepare done a todo c h := by
    refine (sat_prepareAif a c).mono fun p c' h' => ⟨h'.1.sessMeta.trans h.1, map_replace h.2 (hview ?_)⟩
    obtain ⟨-, -, ⟨rfl, hst, -⟩ | ⟨ha, -⟩⟩ := h'
    · refine Aif.live_eq rfl ⟨fun h => AifState.noConfusion h, fun h => ?_⟩
      rcases hst with hst | hst <;> rw [hst] at h <;> cases h
    · rw [ha]
  start done a todo c h := by
    refine (sat_startAif a c).mono fun p c' h' => ⟨h'.1.sessMeta.trans h.1, map_replace h.2 (hview ?_)⟩
    obtain ⟨-, -, ⟨rfl, hst, -⟩ | ⟨ha, -⟩⟩ := h'
    · refine Aif.live_eq rfl ⟨fun h => AifState.noConfusion h, fun h => ?_⟩
      rcases hst with hst | hst | hst <;> rw [hst] at h <;> cases h
    · rw [ha]
  stop done a todo state ret c h hstate := by
    refine (sat_stopAif state ret a c).mono fun p c' h' => ⟨h'.1.sessMeta.trans h.1, map_replace h.2 (hview ?_)⟩
    obtain ⟨-, -, ⟨hst, ha, -⟩ | ⟨-, ha, -⟩⟩ := h'
    · rw [ha]
      refine Aif.live_eq rfl ⟨fun h => ?_, fun h => ?_⟩
      · rcases hstate with rfl | rfl <;> cases h
      · rw [hst] at h
        cases h
    · rw [ha]

/-- Opening. -/
theorem openTurns_view : OpenTurns fun c l => c.sess.sessMeta = md ∧ l.map view = L where
  toFrame := (turns_view hview).toFrame
  connect done a todo n c h _ ho := by
    refine ((sat_connectToOpened a n c ho).and (aifStep_connectToOpened a n c)).mono fun p c' h' => ?_
    obtain ⟨⟨hp, -⟩, s⟩ := h'
    refine ⟨s.sessMeta.trans h.1, map_replace h.2 (hview ?_)⟩
    unfold Aif.Partly Aif.connected at hp
    rw [if_pos ho] at hp
    rcases hp with hp | hp
    · exact Aif.live_eq (Aif.fixed_of_base hp) (by rw [Aif.state_of_base hp])
    · refine Aif.live_eq ((Aif.fixed_of_base hp).trans rfl) ?_
      rw [Aif.state_of_base hp, ho]
      exact ⟨fun h => AifState.noConfusion h, fun h => AifState.noConfusion h⟩
  disconnect done a todo ret c h _ := by
    refine (sat_disconnectOpened ret a c).mono fun p c' h' => ⟨h'.1.sessMeta.trans h.1, map_replace h.2 (hview ?_)⟩
    rw [h'.2.2, Aif.released]
    split
    · rename_i ho
      refine Aif.live_eq rfl ?_
      rw [ho]
      exact ⟨fun h => AifState.noConfusion h, fun h => AifState.noConfusion h⟩
    · rfl

end

theorem turns_fixed {md : Metadata} {L : List Aif} : Turns fun c l => c.sess.sessMeta = md ∧ l.map Aif.fixed = L :=
  turns_view fun h => congrArg Prod.fst h

theorem openTurns_fixed {md : Metadata} {L : List Aif} :
    OpenTurns fun c l => c.sess.sessMeta = md ∧ l.map Aif.fixed = L :=
  openTurns_view fun h => congrArg Prod.fst h

/-- What the session keeps for a back end is in the fixed part of it. -/
theorem storedAifMeta_eq (s : SessionObj) (aifId : Nat) : s.storedAifMeta aifId =
    match (s.aifPool.map Aif.fixed).findIdx? (fun a => a.aifId = aifId) with
    | some i => ((s.aifPool.map Aif.fixed).getD i default).sessAifMeta
    | none => {} := by
  unfold SessionObj.storedAifMeta
  rw [List.findIdx?_map]
  show _ = match s.aifPool.findIdx? (fun a => a.aifId = aifId) with | some i => _ | none => _
  cases hi : s.aifPool.findIdx? (fun a => a.aifId = aifId) with
  | none => rfl
  | some i =>
    obtain ⟨hlt, -⟩ := List.findIdx?_eq_some_iff_getElem.1 hi
    simp only [SessionObj.aifAt, List.getD_eq_getElem?_getD, List.getElem?_map, List.getElem?_eq_getElem hlt]
    rfl

theorem storedAifMeta_of_fixed {s s' : SessionObj} (h : s'.aifPool.map Aif.fixed = s.aifPool.map Aif.fixed)
    (aifId : Nat) : s'.storedAifMeta aifId = s.storedAifMeta aifId := by
  rw [storedAifMeta_eq, storedAifMeta_eq, h]

theorem Ctx.Grows.devs {c c' : Ctx} (h : c.Grows c') (d : DevId) :
    (c'.hw.devs d).metadata = (c.hw.devs d).metadata := by
  have : (c'.hw.fixed.devs d).metadata = (c.hw.fixed.devs d).metadata := by rw [h.hw.fixed]
  exact this

theorem Ctx.SameMetadata.of_fixed {c c' : Ctx} (hg : c.Grows c') (hm : c'.sess.sessMeta = c.sess.sessMeta)
    (hl : c'.sess.aifPool.map Aif.fixed = c.sess.aifPool.map Aif.fixed) : c.SameMetadata c' :=
  ⟨hm, storedAifMeta_of_fixed hl, fun _ hs => hg.pool.objs hs, hg.devs⟩

/-- The metadata of the session and of its back ends is what it was, and there is no new back end. -/
structure Ctx.MetaKept (c c' : Ctx) : Prop where
  sess : c'.sess.sessMeta = c.sess.sessMeta
  aifs : c'.sess.aifPool.map Aif.fixed = c.sess.aifPool.map Aif.fixed

instance : IsPreorder Ctx Ctx.MetaKept where
  refl _ := ⟨rfl, rfl⟩
  trans _ _ _ h h' := ⟨h'.sess.trans h.sess, h'.aifs.trans h.aifs⟩

theorem metaKept_of_aifStep {α : Type} {m : M α} (h : Within Ctx.AifStep m) : Within Ctx.MetaKept m :=
  h.mono fun _ _ s => ⟨s.sessMeta, by rw [s.aifPool]⟩

theorem metaKept_of_edgeStep {α : Type} {m : M α} (h : Within Ctx.EdgeStep m) : Within Ctx.MetaKept m :=
  h.mono fun c c' s => by
    have hm := congrArg SessionObj.sessMeta s.sess
    have hl := congrArg SessionObj.aifPool s.sess
    exact ⟨hm, congrArg (List.map Aif.fixed) hl⟩

theorem metaKept_modSess {f : SessionObj → SessionObj}
    (h : ∀ s, (f s).sessMeta = s.sessMeta ∧ (f s).aifPool = s.aifPool) : Within Ctx.MetaKept (modSess f) :=
  within_modify fun c => ⟨(h c.sess).1, congrArg (List.map Aif.fixed) (h c.sess).2⟩

theorem SessionObj.map_setAif {β : Type} (view : Aif → β) {s : SessionObj} {i : Nat} {a : Aif}
    (h : view a = view (s.aifAt i)) : (s.setAif i a).aifPool.map view = s.aifPool.map view := by
  by_cases hi : i < s.aifPool.length
  · obtain ⟨done, todo, hl, hset⟩ := exists_set_eq s.aifPool i default hi
    show (s.aifPool.set i a).map view = _
    have hlist : s.aifPool.map view = (done ++ s.aifAt i :: todo).map view := congrArg (List.map view) hl
    rw [hset, hlist, List.map_append, List.map_append, List.map_cons, List.map_cons, h]
  · show (s.aifPool.set i a).map view = _
    rw [List.set_eq_of_length_le (Nat.not_lt.1 hi)]

theorem metaKept_setAifState (i : Nat) (state : AifState) : Within Ctx.MetaKept (modSess (·.setAifState i state)) :=
  within_modify fun _ => ⟨rfl, SessionObj.map_setAif Aif.fixed rfl⟩

theorem metaKept_of_view {m : M Int}
    (h : ∀ md L, Within (Inv (AtPool fun c l => c.sess.sessMeta = md ∧ l.map Aif.fixed = L)) m) :
    Within Ctx.MetaKept m := by
  intro c
  refine (within_inv.1 (h c.sess.sessMeta (c.sess.aifPool.map Aif.fixed)) c ⟨rfl, rfl⟩).mono fun _ c' h' => ?_
  exact ⟨h'.1, h'.2⟩

theorem metaKept_sessionPrepare : Within Ctx.MetaKept sessionPrepare :=
  metaKept_of_view fun _ _ => turns_fixed.sessionPrepare

theorem metaKept_sessionStart : Within Ctx.MetaKept sessionStart :=
  metaKept_of_view fun _ _ => turns_fixed.sessionStart

theorem metaKept_sessionObjOpen (mode : SessMode) : Within Ctx.MetaKept (sessionObjOpen mode) :=
  metaKept_of_view fun _ _ => openTurns_fixed.sessionObjOpen mode

theorem metaKept_connectAt (i n : Nat) : Within Ctx.MetaKept (connectAt i n) := by
  intro c
  unfold connectAt
  rw [sat_bind, sat_get]
  have hconn : Sat (connectToOpened (c.sess.aifAt i) n) c fun p c' => c.AifStep c' ∧
      p.2.fixed = (c.sess.aifAt i).fixed := by
    refine Sat.bind (sat_sessionConnectAif (c.sess.aifAt i) n c) fun p c₁ h₁ => ?_
    have hfixed : p.2.fixed = (c.sess.aifAt i).fixed := Aif.fixed_of_base h₁.2.1
    rw [sat_ite, sat_pure, sat_pure]
    exact ⟨fun _ => ⟨h₁.1, hfixed⟩, fun _ => ⟨h₁.1, hfixed⟩⟩
  refine Sat.bind hconn fun p c₁ h₁ => ?_
  obtain ⟨s₁, hfixed⟩ := h₁
  rw [sat_bind, sat_modSess, sat_pure]
  refine ⟨s₁.sessMeta, ?_⟩
  have hat : c₁.sess.aifAt i = c.sess.aifAt i := by rw [SessionObj.aifAt, SessionObj.aifAt, s₁.aifPool]
  show (c₁.sess.setAif i p.2).aifPool.map Aif.fixed = _
  rw [SessionObj.map_setAif Aif.fixed (by rw [hfixed, hat]), s₁.aifPool]

/-- Connecting and disconnecting a back end of the list. -/
theorem metaKept_hotConnect (i n : Nat) : Within Ctx.MetaKept (hotConnect i n) := by
  have hdisc (a : Aif) (n : Nat) : Within Ctx.MetaKept (sessionDisconnectAif a n) :=
    metaKept_of_aifStep fun c => (sat_sessionDisconnectAif a n c).mono fun _ _ h => h.1
  have hbody : Within Ctx.MetaKept (hotConnectBody i n) := by
    refine within_bind within_get fun c => within_ite ?_ ?_
    · exact within_bind (metaKept_setAifState i .open) fun _ => within_pure _
    · refine within_bind (metaKept_connectAt i n) fun _ => within_ite (within_pure _) (within_ite (within_pure _) ?_)
      refine within_bind metaKept_sessionPrepare fun _ => within_ite (within_pure _) (within_ite ?_ (within_pure _))
      exact within_bind metaKept_sessionStart fun _ => within_ite (within_pure _) (within_pure _)
  refine within_bind hbody fun e => ?_
  cases e.1 with
  | done => exact within_pure _
  | unwind =>
    exact within_bind (metaKept_setAifState i .close) fun _ => within_bind within_get fun _ =>
      within_bind (hdisc _ _) fun _ => within_pure _

theorem metaKept_hotDisconnect (i n : Nat) : Within Ctx.MetaKept (hotDisconnect i n) := by
  have hdisc (a : Aif) (n : Nat) : Within Ctx.MetaKept (sessionDisconnectAif a n) :=
    metaKept_of_aifStep fun c => (sat_sessionDisconnectAif a n c).mono fun _ _ h => h.1
  refine within_bind (metaKept_setAifState i .close) fun _ => within_bind within_get fun c => ?_
  refine within_bind (within_onlyIf (hdisc _ _)) fun _ => within_ite (within_pure _) ?_
  exact within_bind (metaKept_setAifState i .closed) fun _ => within_pure _

/-- `aif_obj_get` stores nothing for the back end it creates. -/
theorem storedMeta_aifObjGet (aifId : Nat) (c : Ctx) :
    Sat (aifObjGet aifId) c fun _ c' => c'.sess.sessMeta = c.sess.sessMeta ∧
      ∀ id, c'.sess.storedAifMeta id = c.sess.storedAifMeta id := by
  refine (sat_aifObjGet aifId c).mono fun r c' h => ?_
  cases r with
  | error e =>
    rw [h.2]
    exact ⟨rfl, fun _ => rfl⟩
  | ok i =>
    rcases h.2 with ⟨rfl, -⟩ | ⟨hnone, -, rfl⟩
    · exact ⟨rfl, fun _ => rfl⟩
    · refine ⟨rfl, fun id => ?_⟩
      unfold SessionObj.storedAifMeta
      dsimp only
      rw [List.findIdx?_append]
      cases hi : c.sess.aifPool.findIdx? (fun a => a.aifId = id) with
      | some i =>
        obtain ⟨hlt, -⟩ := List.findIdx?_eq_some_iff_getElem.1 hi
        simp [SessionObj.aifAt, List.getElem?_append_left hlt]
      | none =>
        by_cases hid : aifId = id
        · simp [hid, SessionObj.aifAt]
        · simp [hid]

end Agm.Service
