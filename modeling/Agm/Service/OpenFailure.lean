import Agm.Service.OpenCount
import Agm.Service.OpenSpec

/-!
# What a failed open leaves of the devices

While `session_obj_open` runs it holds one reference for each back end it has connected.  `Borrowed` says so of the
whole of the devices and their groups, not of the open counts alone: each object is what it was, opened once for each
back end in the list that holds it.  When the open has failed no back end holds anything, and so everything is what it
was.
-/

namespace Agm.Service

open Agm.Lib

/-- What `device.c` keeps true of the counts of a group: the same as of those of a single object. -/
structure DeviceGroup.Sound (g : DeviceGroup) : Prop where
  nonneg : 0 ≤ g.refcnt.nOpen
  idle : g.refcnt.nOpen = 0 → g.refcnt.nPrepare = 0 ∧ g.refcnt.nStart = 0

/-- One user more, of the group. -/
def DeviceGroup.takeOpen (g : DeviceGroup) : DeviceGroup := g.map Refcount.incOpen

namespace DeviceGroup

theorem Sound.takeOpen {g : DeviceGroup} (h : g.Sound) : g.takeOpen.Sound := by
  have hn := h.nonneg
  refine ⟨?_, fun h0 => ?_⟩
  · show 0 ≤ g.refcnt.nOpen + 1
    omega
  · have h0 : g.refcnt.nOpen + 1 = 0 := h0
    omega

theorem Sound.iterate {g : DeviceGroup} (h : g.Sound) (n : Nat) : (DeviceGroup.takeOpen^[n] g).Sound := by
  induction n with
  | zero => exact h
  | succ n ih =>
    rw [Function.iterate_succ_apply']
    exact ih.takeOpen

theorem Sound.dropOpen_takeOpen {g : DeviceGroup} (h : g.Sound) : g.takeOpen.map Refcount.decOpen = g := by
  have hi := h.idle
  obtain ⟨⟨k, p, s⟩⟩ := g
  simp only [DeviceGroup.takeOpen, map, Refcount.incOpen, Refcount.decOpen] at *
  by_cases hk : k = 0
  · obtain ⟨rfl, rfl⟩ := hi hk
    simp [hk]
  · simp [hk]

end DeviceGroup

/-- The number of back ends in the list that hold the object `o`. -/
def heldOn (H : Hw) (o : DevId) (l : List Aif) : Nat := l.countP fun a => a.isOpened && H.pcmObj a.devObj = o

/-- The number of back ends in the list that hold an object of the group `g`. -/
def heldIn (H : Hw) (g : GrpId) (l : List Aif) : Nat :=
  l.countP fun a => a.isOpened && (H.devs (H.pcmObj a.devObj)).groupData = some g

/-- The devices are those of `H`, opened once for each back end in `l` that holds one. -/
structure Borrowed (H : Hw) (md : Metadata) (c : Ctx) (l : List Aif) : Prop where
  fixed : c.hw.fixed = H.fixed
  sessMeta : c.sess.sessMeta = md
  devs : ∀ o, c.hw.core.devs o = DeviceObj.takeOpen^[heldOn H o l] (H.devs o)
  grps : ∀ g, c.hw.grps g = DeviceGroup.takeOpen^[heldIn H g l] (H.grps g)
  merge : ∀ a ∈ l, a.isOpened → (mergeFor H.fixed md a).isSome

theorem countP_split (p : Aif → Bool) (done : List Aif) (a : Aif) (todo : List Aif) :
    (done ++ a :: todo).countP p = (done ++ todo).countP p + if p a then 1 else 0 := by
  simp only [List.countP_append, List.countP_cons]
  omega

namespace Borrowed

variable {H : Hw} {md : Metadata} {c c' : Ctx} {l done todo : List Aif} {a b : Aif}

theorem pcmObj (h : Borrowed H md c l) (d : DevId) : c.hw.core.pcmObj d = H.pcmObj d :=
  congrFun (Hw.pcmObj_of_fixed h.fixed) d

theorem groupData (h : Borrowed H md c l) (o : DevId) : (c.hw.core.devs o).groupData = (H.devs o).groupData := by
  have := congrArg (fun hw : Hw => (hw.devs o).groupData) h.fixed
  exact this

theorem mergedMetadata (h : Borrowed H md c l) (a : Aif) : mergedMetadata a c = mergeFor H.fixed md a := by
  have hb := congrArg Hw.build h.fixed
  have hb : c.hw.build = H.fixed.build := hb
  have hd := congrArg (fun hw : Hw => (hw.devs a.devObj).metadata) h.fixed
  have hd : (c.hw.devs a.devObj).metadata = (H.fixed.devs a.devObj).metadata := hd
  rw [Service.mergedMetadata, mergeFor, hb, hd, h.sessMeta]

/-- One turn: the one back end that is replaced, and the devices. -/
theorem turn (h : Borrowed H md c (done ++ a :: todo)) (s : c.AifStep c') (hb : b.fixed = a.fixed)
    (hm : b.isOpened → (mergeFor H.fixed md a).isSome)
    (hd : ∀ o, c'.hw.core.devs o = DeviceObj.takeOpen^[heldOn H o (done ++ b :: todo)] (H.devs o))
    (hg : ∀ g, c'.hw.grps g = DeviceGroup.takeOpen^[heldIn H g (done ++ b :: todo)] (H.grps g)) :
    Borrowed H md c' (done ++ b :: todo) := by
  refine ⟨s.hw.fixed.trans h.fixed, s.sessMeta.trans h.sessMeta, hd, hg, fun x hx hxo => ?_⟩
  rcases List.mem_append.1 hx with hx | hx
  · exact h.merge x (List.mem_append_left _ hx) hxo
  · rcases List.mem_cons.1 hx with rfl | hx
    · rw [mergeFor_of_fixed hb]
      exact hm hxo
    · exact h.merge x (List.mem_append_right _ (List.mem_cons_of_mem _ hx)) hxo

/-- A turn that leaves the devices and what the back end holds. -/
theorem idle (h : Borrowed H md c (done ++ a :: todo)) (s : c.AifStep c') (hb : b.fixed = a.fixed)
    (ho : b.isOpened = a.isOpened) (hd : c'.hw.core.devs = c.hw.core.devs) (hg : c'.hw.grps = c.hw.grps) :
    Borrowed H md c' (done ++ b :: todo) := by
  have hdev := congrArg Aif.devObj hb
  have hdev : b.devObj = a.devObj := hdev
  refine h.turn s hb (fun hbo => h.merge a (by simp) (ho ▸ hbo)) (fun o => ?_) fun g => ?_
  · rw [hd, h.devs o, heldOn, heldOn, countP_split, countP_split, ho, hdev]
  · rw [hg, h.grps g, heldIn, heldIn, countP_split, countP_split, ho, hdev]

/-- A back end takes its device. -/
theorem take (h : Borrowed H md c (done ++ a :: todo)) (s : c.AifStep c') (hb : b.fixed = a.fixed)
    (ha : ¬ a.isOpened) (hbo : b.isOpened) (hm : (mergeFor H.fixed md a).isSome)
    (hcore : c'.hw.core = c.hw.core.opened a.devObj) : Borrowed H md c' (done ++ b :: todo) := by
  have hdev := congrArg Aif.devObj hb
  have hdev : b.devObj = a.devObj := hdev
  refine h.turn s hb (fun _ => hm) (fun o => ?_) fun g => ?_
  · have hn : heldOn H o (done ++ b :: todo) =
        heldOn H o (done ++ a :: todo) + if o = H.pcmObj a.devObj then 1 else 0 := by
      simp only [heldOn, countP_split, ha, hbo, hdev, Bool.true_and, Bool.false_and, Bool.false_eq_true, if_false,
        add_zero, decide_eq_true_eq, eq_comm (a := o)]
    rw [hcore, Hw.opened_devs, h.pcmObj, h.devs o, hn]
    by_cases ho : o = H.pcmObj a.devObj
    · rw [if_pos ho, if_pos ho, Function.iterate_succ_apply']
    · rw [if_neg ho, if_neg ho, add_zero]
  · have hn : heldIn H g (done ++ b :: todo) = heldIn H g (done ++ a :: todo) +
        if (H.devs (H.pcmObj a.devObj)).groupData = some g then 1 else 0 := by
      simp only [heldIn, countP_split, ha, hbo, hdev, Bool.true_and, Bool.false_and, Bool.false_eq_true, if_false,
        add_zero, decide_eq_true_eq]
    have hg : c'.hw.grps g = c'.hw.core.grps g := rfl
    rw [hg, hcore, Hw.opened_grps, h.pcmObj, h.groupData, show c.hw.core.grps g = c.hw.grps g from rfl, h.grps g, hn]
    by_cases ho : (H.devs (H.pcmObj a.devObj)).groupData = some g
    · rw [if_pos ho, if_pos ho, Function.iterate_succ_apply']
      rfl
    · rw [if_neg ho, if_neg ho, add_zero]

/-- A back end gives its device back. -/
theorem drop (hG : ∀ g, (H.grps g).Sound) (h : Borrowed H md c (done ++ a :: todo)) (s : c.AifStep c')
    (hb : b.fixed = a.fixed) (ha : a.isOpened) (hbo : ¬ b.isOpened)
    (hcore : c'.hw.core = c.hw.core.closed a.devObj) : Borrowed H md c' (done ++ b :: todo) := by
  have hdev := congrArg Aif.devObj hb
  have hdev : b.devObj = a.devObj := hdev
  have hn (o : DevId) : heldOn H o (done ++ a :: todo) =
      heldOn H o (done ++ b :: todo) + if o = H.pcmObj a.devObj then 1 else 0 := by
    simp only [heldOn, countP_split, ha, hbo, hdev, Bool.true_and, Bool.false_and, Bool.false_eq_true, if_false,
      add_zero, decide_eq_true_eq, eq_comm (a := o)]
  have hopen : c.hw.core.nOpen (c.hw.core.pcmObj a.devObj) ≠ 0 := by
    rw [h.pcmObj, Hw.nOpen, h.devs, hn, if_pos rfl, Function.iterate_succ_apply']
    exact DeviceObj.takeOpen_nOpen_ne _
  refine h.turn s hb (fun h' => absurd h' hbo) (fun o => ?_) fun g => ?_
  · rw [hcore, Hw.closed_devs _ hopen, h.pcmObj, h.devs o, hn o]
    by_cases ho : o = H.pcmObj a.devObj
    · rw [if_pos ho, if_pos ho, Function.iterate_succ_apply', DeviceObj.dropOpen_takeOpen]
    · rw [if_neg ho, if_neg ho, add_zero]
  · have hng : heldIn H g (done ++ a :: todo) = heldIn H g (done ++ b :: todo) +
        if (H.devs (H.pcmObj a.devObj)).groupData = some g then 1 else 0 := by
      simp only [heldIn, countP_split, ha, hbo, hdev, Bool.true_and, Bool.false_and, Bool.false_eq_true, if_false,
        add_zero, decide_eq_true_eq]
    have hg : c'.hw.grps g = c'.hw.core.grps g := rfl
    rw [hg, hcore, Hw.closed_grps hopen, h.pcmObj, h.groupData, show c.hw.core.grps g = c.hw.grps g from rfl,
      h.grps g, hng]
    by_cases ho : (H.devs (H.pcmObj a.devObj)).groupData = some g
    · rw [if_pos ho, if_pos ho, Function.iterate_succ_apply', ((hG g).iterate _).dropOpen_takeOpen]
    · rw [if_neg ho, if_neg ho, add_zero]

end Borrowed

theorem devs_of_core {hw hw' : Hw} (h : hw'.core = hw.core) : hw'.core.devs = hw.core.devs ∧ hw'.grps = hw.grps :=
  ⟨by rw [h], show hw'.core.grps = hw.core.grps by rw [h]⟩

section

variable {H : Hw} {md : Metadata} (hG : ∀ g, (H.grps g).Sound)

include hG

/-- A connect that fails after the device was opened leaves the devices as they were. -/
theorem Borrowed.devs_of_failed {c c' : Ctx} {l : List Aif} {d : DevId} (h : Borrowed H md c l)
    (hcore : c'.hw.core = c.hw.core ∨ c'.hw.core = (c.hw.core.opened d).closed d) :
    c'.hw.core.devs = c.hw.core.devs ∧ c'.hw.grps = c.hw.grps := by
  rcases hcore with hcore | hcore
  · exact devs_of_core hcore
  · refine ⟨by rw [hcore, Hw.devs_closed_opened], funext fun g => ?_⟩
    have hg : c'.hw.grps g = c'.hw.core.grps g := rfl
    have hs : (c.hw.grps g).Sound := by
      rw [h.grps g]
      exact (hG g).iterate _
    have hgd : ((c.hw.core.opened d).devs (c.hw.core.pcmObj d)).groupData =
        (c.hw.core.devs (c.hw.core.pcmObj d)).groupData := by
      rw [Hw.opened_devs, if_pos rfl]
      rfl
    rw [hg, hcore, Hw.closed_grps Hw.nOpen_opened_ne, Hw.pcmObj_of_fixed (Hw.fixed_opened d _), hgd, Hw.opened_grps]
    split
    · exact hs.dropOpen_takeOpen
    · rfl

theorem openTurns_borrowed : OpenTurns (Borrowed H md) where
  sess _ _ _ h hm _ := ⟨h.fixed, hm.trans h.sessMeta, h.devs, h.grps, h.merge⟩
  call c c' l h s hcore := by
    obtain ⟨hd, hg⟩ := devs_of_core hcore
    exact ⟨s.hw.fixed.trans h.fixed, s.sessMeta.trans h.sessMeta, fun o => by rw [hd]; exact h.devs o,
      fun g => by rw [hg]; exact h.grps g, h.merge⟩
  pool _ _ _ h _ := ⟨h.fixed, h.sessMeta, h.devs, h.grps, h.merge⟩
  connect done a todo n c h _ ho := by
    have ha : ¬ a.isOpened := by simp [Aif.isOpened, ho, AifState.rank]
    refine Sat.bind (sat_sessionConnectAif a n c) fun p c₁ h₁ => ?_
    obtain ⟨s, hbase, h₁⟩ := h₁
    rw [sat_ite, sat_pure, sat_pure]
    rcases h₁ with ⟨hp, hm, hcore⟩ | ⟨hp, hcore⟩
    · refine ⟨fun hp' => absurd hp hp', fun _ => ?_⟩
      have hfix : ({ p.2 with state := .opened } : Aif).fixed = a.fixed :=
        Eq.trans (b := p.2.fixed) rfl (Aif.fixed_of_base hbase)
      exact h.take s hfix ha rfl (h.mergedMetadata a ▸ hm) hcore
    · refine ⟨fun _ => ?_, fun hp' => absurd (Decidable.not_not.1 hp') hp⟩
      obtain ⟨hd, hg⟩ := h.devs_of_failed hG hcore
      exact h.idle s (Aif.fixed_of_base hbase) (Aif.isOpened_of_base hbase) hd hg
  disconnect done a todo ret c h hc := by
    unfold disconnectOpened
    rw [sat_ite, sat_pure]
    refine ⟨fun ho => ?_, fun _ => h⟩
    have ha : a.isOpened := by simp [Aif.isOpened, ho]
    refine Sat.bind (sat_sessionDisconnectAif a 1 c) fun r c₁ h₁ => (sat_pure _ _ _).2 ?_
    obtain ⟨s, -, ⟨hm, -⟩ | ⟨-, hcore⟩⟩ := h₁
    · have := h.merge a (by simp) ha
      rw [← h.mergedMetadata a, Option.isNone_iff_eq_none.1 hm] at this
      cases this
    · rw [if_neg (by rw [hc]; decide)] at hcore
      exact h.drop hG s rfl ha (by simp [Aif.isOpened, AifState.rank]) hcore

end

/-- **A failed open leaves everything as it was.**  For a closed session without a graph and without connected back
ends, opened in a mode with devices, whatever GSL and ALSA answer: if the open reports an error, then the session is
closed and has no graph, every back end is in the state it was in, and so is every device, with the counts it and its
group had. -/
theorem open_error_restores {mode : SessMode} (hm : mode.hasDevices) {c : Ctx} (hc : c.sess.state = .closed)
    (hg : c.sess.graph = none) (ha : ∀ a ∈ c.sess.aifPool, ¬ a.isOpened) (hG : ∀ g, (c.hw.grps g).Sound) :
    Sat (sessionObjOpen mode) c fun r c' => r ≠ 0 →
      c'.sess.state = .closed ∧ c'.sess.graph = none ∧
      c'.sess.aifPool.map (·.state) = c.sess.aifPool.map (·.state) ∧
      (∀ d, (c'.hw.devs d).refcnt = (c.hw.devs d).refcnt ∧ (c'.hw.devs d).state = (c.hw.devs d).state) ∧
      ∀ g, (c'.hw.grps g).refcnt = (c.hw.grps g).refcnt := by
  have hzero {p : Aif → Bool} {l : List Aif} (hl : ∀ a ∈ l, ¬ a.isOpened) : (l.countP fun a => a.isOpened && p a) = 0 :=
    List.countP_eq_zero.2 fun a ha h => hl a ha (Bool.and_eq_true_iff.1 h).1
  have hstart : AtPool (Borrowed c.hw.core c.sess.sessMeta) c := by
    refine ⟨rfl, rfl, fun o => ?_, fun g => ?_, fun a h hao => absurd hao (ha a h)⟩
    · rw [heldOn, hzero ha]
      rfl
    · rw [heldIn, hzero ha]
      rfl
  refine ((sat_sessionObjOpen_devices hm hc).and
    (within_inv.1 ((openTurns_borrowed (H := c.hw.core) hG).sessionObjOpen mode) c hstart)).mono fun r c' h hr => ?_
  obtain ⟨h, hb⟩ := h
  obtain ⟨hst, hface, hrest⟩ : c'.sess.state = .closed ∧ (c'.face = none ∨ c'.face = c.face) ∧
      List.Forall₂ Aif.Restored c.sess.aifPool c'.sess.aifPool := by
    rcases h with ⟨h0, -⟩ | ⟨h0, -⟩ | ⟨-, h⟩
    · exact absurd h0 hr
    · exact absurd h0 hr
    · exact ⟨h.1, h.2.2⟩
  have hnone : c'.sess.graph = none := by
    rcases hface with h | h
    · exact Option.map_eq_none_iff.1 h
    · rw [Ctx.face, Ctx.face, hg] at h
      exact Option.map_eq_none_iff.1 h
  -- no back end was connected before, so each of them is as it was
  have hstate : List.Forall₂ (fun a b => b.state = a.state) c.sess.aifPool c'.sess.aifPool := by
    refine List.forall₂_iff_get.2 ⟨hrest.length_eq, fun i h₁ h₂ => ?_⟩
    refine Aif.state_of_base ((List.forall₂_iff_get.1 hrest).2 i h₁ h₂ fun ho => ?_)
    exact ha _ (List.get_mem _ _) (by simp only [Aif.isOpened]; rw [ho]; decide)
  have hmap : c'.sess.aifPool.map (·.state) = c.sess.aifPool.map (·.state) := by
    refine List.ext_get (by simpa using hstate.length_eq.symm) fun i h₁ h₂ => ?_
    simp only [List.get_eq_getElem, List.getElem_map]
    rw [List.length_map] at h₁ h₂
    exact (List.forall₂_iff_get.1 hstate).2 i h₂ h₁
  have hno : ∀ a ∈ c'.sess.aifPool, ¬ a.isOpened := by
    intro b hb'
    have hmem : b.state ∈ c'.sess.aifPool.map (·.state) := List.mem_map.2 ⟨b, hb', rfl⟩
    rw [hmap] at hmem
    obtain ⟨a, ha', heq⟩ := List.mem_map.1 hmem
    rw [Aif.isOpened, ← heq]
    exact ha a ha'
  refine ⟨hst, hnone, hmap, fun d => ?_, fun g => ?_⟩
  · have hd := hb.devs d
    rw [heldOn, hzero hno] at hd
    have h₁ := congrArg DeviceObj.refcnt hd
    have h₂ := congrArg DeviceObj.state hd
    exact ⟨h₁, h₂⟩
  · have hgr := hb.grps g
    rw [heldIn, hzero hno] at hgr
    exact congrArg DeviceGroup.refcnt hgr

/-- Two back ends wait, the graph of the second one cannot be added, and `gsl_close` fails too. -/
theorem open_error_restores_two :
    ∃ r c', r ≠ 0 ∧ sessionObjOpen .default (Ctx.waiting [0, 1] fun k => if k = .addGraph ∨ k = .gslClose then [1] else [])
      = some (r, c') ∧ c'.sess.state = .closed ∧ c'.sess.graph = none ∧
      c'.sess.aifPool.map (·.state) = [.open, .open] ∧ (∀ d, (c'.hw.devs d).refcnt = ⟨0, 0, 0⟩) := by
  have hrun := (open_error_restores (show SessMode.default.hasDevices from rfl)
    (c := Ctx.waiting [0, 1] fun k => if k = .addGraph ∨ k = .gslClose then [1] else []) rfl rfl (by decide)
    fun _ => ⟨Int.le_refl 0, fun _ => ⟨rfl, rfl⟩⟩).and fun r c' h => h
  obtain ⟨r, c', ⟨h, heq⟩, hr⟩ := hrun.exists_of_map (fun r _ => decide (r ≠ 0)) (b := true) (by decide +kernel)
  have hr := of_decide_eq_true hr
  obtain ⟨hst, hg, hl, hd, -⟩ := h hr
  exact ⟨r, c', hr, heq, hst, hg, hl, fun d => (hd d).1⟩

end Agm.Service
