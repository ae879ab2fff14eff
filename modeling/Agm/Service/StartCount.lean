import Agm.Service.OpenCount
import Agm.Service.RestartCalls

/-!
# The start counts

A back end that is `AIF_STARTED` counts for one in the start count of its PCM.  `session_start` and `session_stop` look
at the state of each back end before they start or stop its device; `session_disconnect_aif` looks at the state of the
session instead, and `session_close` stops no device at all.  This module follows the start counts through all of
these, with the open counts beside them: the last close of a PCM resets its start count.
-/

namespace Agm.Service

open Agm.Lib

/-! ## The invariant -/

theorem countOn_mono {p q : Aif → Bool} (h : ∀ a, p a → q a) (hw : Hw) (o : DevId) (l : List Aif) :
    countOn p hw o l ≤ countOn q hw o l := by
  induction l with
  | nil => exact Int.le_refl 0
  | cons a l ih =>
    have ha : a.on p hw o ≤ a.on q hw o := by
      by_cases hp : p a
      · rw [Aif.on_of_pos hp, Aif.on_of_pos (h a hp)]
      · rw [Aif.on_of_neg hp]
        exact a.on_nonneg q hw o
    simp only [countOn, List.map_cons, List.sum_cons] at ih ⊢
    omega

/-- The start counts are those of the back ends in `l`, and `K` more; the open counts are at least those of the back
ends in `l`, and `L` more. -/
structure Started (F : Hw) (md : Metadata) (P : Pool SessionObj) (K L : DevId → Int) (c : Ctx) (l : List Aif) :
    Prop extends Books F md P c l where
  start : ∀ o, c.hw.nStart o = K o + countOn Aif.isStarted F o l
  opens : ∀ o, L o + countOn Aif.isOpened F o l ≤ c.hw.nOpen o

/-- A connect that fails leaves the counts. -/
theorem nStart_of_failed_connect {hw hw' : Hw} {d : DevId}
    (h : hw'.core = hw.core ∨ hw'.core = (hw.core.opened d).closed d) (o : DevId) : hw'.nStart o = hw.nStart o := by
  rcases h with h | h
  · exact nStart_of_core h o
  · have h₁ := congrArg (fun x : Hw => x.nStart o) h
    have hback : ((hw.core.opened d).closed d).devs = hw.core.devs := Hw.devs_closed_opened
    have h₂ := congrArg (fun f : DevId → DeviceObj => (f o).refcnt.nStart) hback
    exact h₁.trans h₂

section

variable {F : Hw} {md : Metadata} {P : Pool SessionObj} {K L : DevId → Int} {c c' : Ctx} {done todo : List Aif}
  {a b : Aif}

namespace Started

/-- One turn: one back end is replaced, and the counts move with it. -/
theorem turn (h : Started F md P K L c (done ++ a :: todo)) (s : c.AifStep c') (hb : b.fixed = a.fixed)
    (hm : b.isOpened → (mergeFor F md a).isSome)
    (hs : ∀ o, c'.hw.nStart o = c.hw.nStart o + b.on Aif.isStarted F o - a.on Aif.isStarted F o)
    (ho : ∀ o, c.hw.nOpen o + b.on Aif.isOpened F o - a.on Aif.isOpened F o ≤ c'.hw.nOpen o) :
    Started F md P K L c' (done ++ b :: todo) := by
  refine ⟨h.toBooks.turn s hb hm, fun o => ?_, fun o => ?_⟩
  · have h₁ := h.start o
    have h₂ := hs o
    rw [countOn_split] at h₁ ⊢
    omega
  · have h₁ := h.opens o
    have h₂ := ho o
    rw [countOn_split] at h₁ ⊢
    omega

/-- A turn that moves no count and leaves what the back end counts for. -/
theorem idle (h : Started F md P K L c (done ++ a :: todo)) (s : c.AifStep c') (hb : b.fixed = a.fixed)
    (ho : b.isOpened = a.isOpened) (hst : b.isStarted = a.isStarted) (hs : ∀ o, c'.hw.nStart o = c.hw.nStart o)
    (hn : ∀ o, c'.hw.nOpen o = c.hw.nOpen o) : Started F md P K L c' (done ++ b :: todo) := by
  refine h.turn s hb (fun hbo => h.merge a (by simp) (ho ▸ hbo)) (fun o => ?_) fun o => ?_
  · rw [hs, on_of_fixed hb hst]
    omega
  · rw [hn, on_of_fixed hb ho]
    omega

/-- A back end that only lets go of its device in the books: the open counts are at least what they have to be. -/
theorem forget (h : Started F md P K L c (done ++ a :: todo)) (s : c.AifStep c') (hb : b.fixed = a.fixed)
    (ha : ¬ a.isStarted) (hbo : ¬ b.isOpened) (hs : ∀ o, c'.hw.nStart o = c.hw.nStart o)
    (hn : ∀ o, c'.hw.nOpen o = c.hw.nOpen o) : Started F md P K L c' (done ++ b :: todo) := by
  have hbs : ¬ b.isStarted := fun h => hbo (Aif.isOpened_of_isStarted h)
  refine h.turn s hb (fun h => absurd h hbo) (fun o => ?_) fun o => ?_
  · rw [hs, Aif.on_of_neg ha, Aif.on_of_neg hbs]
    omega
  · have := a.on_nonneg Aif.isOpened F o
    rw [hn, Aif.on_of_neg hbo]
    omega

end Started

variable (hK : ∀ o, 0 ≤ K o) (hL : ∀ o, K o ≤ L o)

include hK

/-- A back end that is started shows in the start count of its PCM. -/
theorem Started.nStart_pos (h : Started F md P K L c (done ++ a :: todo)) (ha : a.isStarted) :
    0 < c.hw.nStart (F.pcmObj a.devObj) := by
  have h₁ := h.start (F.pcmObj a.devObj)
  have h₂ := hK (F.pcmObj a.devObj)
  have h₃ := countOn_nonneg Aif.isStarted F (F.pcmObj a.devObj) (done ++ todo)
  have h₄ : a.on Aif.isStarted F (F.pcmObj a.devObj) = 1 := by simp [Aif.on, ha]
  rw [countOn_split] at h₁
  omega

/-- `device_stop` for a back end that is started. -/
theorem Started.stop (h : Started F md P K L c (done ++ a :: todo)) (ha : a.isStarted) (s : c.AifStep c')
    (hb : b.fixed = a.fixed) (hbo : b.isOpened) (hbs : ¬ b.isStarted)
    (hcore : c'.hw.core = c.hw.core.stopped a.devObj) : Started F md P K L c' (done ++ b :: todo) := by
  have hpos := h.nStart_pos hK ha
  have hao := Aif.isOpened_of_isStarted ha
  refine h.turn s hb (fun _ => h.merge a (by simp) hao) (fun o => ?_) fun o => ?_
  · rw [nStart_of_core (hcore.trans (Hw.core_stopped a.devObj c.hw).symm) o, Hw.nStart_stopped, h.pcmObj,
      Aif.on_of_pos ha, Aif.on_of_neg hbs]
    by_cases ho : o = F.pcmObj a.devObj
    · rw [← ho] at hpos
      rw [if_pos ⟨ho, hpos.ne'⟩, if_pos ho]
      omega
    · rw [if_neg (fun h => ho h.1), if_neg ho]
      omega
  · rw [nOpen_of_core (hcore.trans (Hw.core_stopped a.devObj c.hw).symm) o, Hw.nOpen_stopped,
      on_of_fixed hb (hbo.trans hao.symm)]
    omega

include hL

/-- `device_close` for a back end that holds its device and is not started.  If it was the last to hold it, nobody has
the PCM started. -/
theorem Started.drop (h : Started F md P K L c (done ++ a :: todo)) (ha : a.isOpened) (has : ¬ a.isStarted)
    (s : c.AifStep c') (hb : b.fixed = a.fixed) (hbo : ¬ b.isOpened)
    (hcore : c'.hw.core = c.hw.core.closed a.devObj) : Started F md P K L c' (done ++ b :: todo) := by
  have hbs : ¬ b.isStarted := fun h => hbo (Aif.isOpened_of_isStarted h)
  refine h.turn s hb (fun h => absurd h hbo) (fun o => ?_) fun o => ?_
  · rw [nStart_of_core (hcore.trans (Hw.core_closed a.devObj c.hw).symm) o, Hw.nStart_closed, h.pcmObj,
      Aif.on_of_neg has, Aif.on_of_neg hbs]
    split
    · rename_i ho
      have h₁ := h.start o
      have h₂ := h.opens o
      have h₃ := countOn_mono (p := Aif.isStarted) (q := Aif.isOpened) (fun _ h => Aif.isOpened_of_isStarted h) F o
        (done ++ todo)
      have h₄ := countOn_nonneg Aif.isStarted F o (done ++ todo)
      have h₅ := hK o
      have h₆ := hL o
      rw [countOn_split, Aif.on_of_neg has] at h₁
      rw [countOn_split, Aif.on_of_pos ha, if_pos ho.1] at h₂
      omega
    · omega
  · rw [nOpen_of_core (hcore.trans (Hw.core_closed a.devObj c.hw).symm) o, Hw.nOpen_closed, h.pcmObj,
      Aif.on_of_pos ha, Aif.on_of_neg hbo]
    by_cases ho : o = F.pcmObj a.devObj
    · rw [if_pos ho]
      split <;> omega
    · rw [if_neg ho, if_neg (fun h => ho h.1)]
      omega

omit hK hL in
/-- Connecting a back end that is not started moves no start count, and the open counts stay large enough. -/
theorem started_connectToOpened {n : Nat} (h : Started F md P K L c (done ++ a :: todo)) (ha : ¬ a.isStarted) :
    Sat (connectToOpened a n) c fun p c' => Started F md P K L c' (done ++ p.2 :: todo) := by
  refine Sat.bind (sat_sessionConnectAif a n c) fun p c₁ h₁ => ?_
  obtain ⟨s, hbase, h₁⟩ := h₁
  rw [sat_ite, sat_pure, sat_pure]
  rcases h₁ with ⟨hp, hm, hcore⟩ | ⟨hp, hcore⟩
  · refine ⟨fun hp' => absurd hp hp', fun _ => ?_⟩
    have hfix : ({ p.2 with state := .opened } : Aif).fixed = a.fixed :=
      Eq.trans (b := p.2.fixed) rfl (Aif.fixed_of_base hbase)
    have hback := hcore.trans (Hw.core_opened a.devObj c.hw).symm
    refine h.turn s hfix (fun _ => ?_) (fun o => ?_) fun o => ?_
    · rw [← h.mergedMetadata a]
      exact hm
    · have hno : ¬ ({ p.2 with state := .opened } : Aif).isStarted := by simp [Aif.isStarted]
      rw [nStart_of_core hback o, Hw.nStart_opened, Aif.on_of_neg ha, Aif.on_of_neg hno]
      omega
    · have hdev := congrArg Aif.devObj hbase
      have hdev : p.2.devObj = a.devObj := hdev
      have := a.on_nonneg Aif.isOpened F o
      rw [nOpen_of_core hback o, Hw.nOpen_opened, h.pcmObj, Aif.on_of_pos rfl, hdev]
      omega
  · refine ⟨fun _ => ?_, fun hp' => absurd (Decidable.not_not.1 hp') hp⟩
    have hst : p.2.isStarted = a.isStarted := by rw [Aif.isStarted, Aif.state_of_base hbase, Aif.isStarted]
    exact h.idle s (Aif.fixed_of_base hbase) (Aif.isOpened_of_base hbase) hst (nStart_of_failed_connect hcore)
      (nOpen_of_failed_connect hcore)

omit hL in
/-- Preparing, starting and stopping keep the start counts: a device is started and stopped with its back end. -/
theorem turns_started : Turns (Started F md P K L) where
  sess c s l h hm hs := ⟨frame_books.sess c s l h.toBooks hm hs, h.start, h.opens⟩
  call c c' l h s hcore := by
    refine ⟨frame_books.call c c' l h.toBooks s hcore, fun o => ?_, fun o => ?_⟩
    · exact (nStart_of_core hcore o).trans (h.start o)
    · rw [nOpen_of_core hcore o]
      exact h.opens o
  pool c p l h hp := ⟨frame_books.pool c p l h.toBooks hp, h.start, h.opens⟩
  prepare done a todo c h := by
    refine (sat_prepareAif a c).mono fun p c' h' => ?_
    obtain ⟨s, -, ⟨rfl, hst, -, hcore⟩ | ⟨ha, -, hcore⟩⟩ := h'
    · have hback := hcore.trans (Hw.core_prepared a.devObj c.hw).symm
      refine h.idle s rfl (isOpened_prepared hst) ?_ (fun o => ?_) fun o => ?_
      · rcases hst with hst | hst <;> simp [Aif.isStarted, hst]
      · rw [nStart_of_core hback o, Hw.nStart_prepared]
      · rw [nOpen_of_core hback o, Hw.nOpen_prepared]
    · rw [ha]
      exact h.idle s rfl rfl rfl (nStart_of_core hcore) (nOpen_of_core hcore)
  start done a todo c h := by
    refine (sat_startAif a c).mono fun p c' h' => ?_
    obtain ⟨s, -, ⟨rfl, hst, hready, hcore⟩ | ⟨ha, -, -, hcore⟩⟩ := h'
    · have hback := hcore.trans (Hw.core_started a.devObj c.hw).symm
      have hno : ¬ a.isStarted := by rcases hst with hst | hst | hst <;> simp [Aif.isStarted, hst]
      refine h.turn s rfl (fun hbo => ?_) (fun o => ?_) fun o => ?_
      · rw [isOpened_started hst] at hbo
        exact h.merge a (by simp) hbo
      · have hone : ({ a with state := .started } : Aif).on Aif.isStarted F o =
            if o = F.pcmObj a.devObj then 1 else 0 := Aif.on_of_pos rfl
        rw [nStart_of_core hback o, Hw.nStart_started o hready, h.pcmObj, Aif.on_of_neg hno, hone]
        omega
      · have hsame : ({ a with state := .started } : Aif).on Aif.isOpened F o = a.on Aif.isOpened F o :=
          on_of_fixed rfl (isOpened_started hst)
        rw [nOpen_of_core hback o, Hw.nOpen_started, hsame]
        omega
    · rw [ha]
      exact h.idle s rfl rfl rfl (nStart_of_core hcore) (nOpen_of_core hcore)
  stop done a todo state ret c h hstate := by
    refine (sat_stopAif state ret a c).mono fun p c' h' => ?_
    obtain ⟨s, -, ⟨hst, ha, hcore⟩ | ⟨-, ha, hcore⟩⟩ := h'
    · rw [ha]
      have hbo := (isOpened_stopped hst hstate).trans (Aif.isOpened_of_isStarted (decide_eq_true hst))
      refine h.stop hK (decide_eq_true hst) s rfl hbo ?_ hcore
      rcases hstate with rfl | rfl <;> simp [Aif.isStarted]
    · rw [ha]
      exact h.idle s rfl rfl rfl (nStart_of_core hcore) (nOpen_of_core hcore)

/-! ## Disconnecting -/

/-- What a disconnect must not meet in a session that is not closed.  `session_disconnect_aif` stops the device when
the *session* is started, and closes it whatever the state of the back end. -/
def strayDisconnect (a : Aif) (c : Ctx) : Bool :=
  (mergedMetadata a c).isSome &&
    ((c.sess.state = .started && !a.isStarted && c.hw.nStart (c.hw.pcmObj a.devObj) ≠ 0) ||
      (!a.isOpened && c.hw.nOpen (c.hw.pcmObj a.devObj) ≠ 0))

/-- `session_disconnect_aif` where it stops and closes what the back end has started and opened, whatever state the
back end was put in for it. -/
theorem started_sessionDisconnectAif {x : Aif} {n : Nat} (h : Started F md P K L c (done ++ a :: todo))
    (hx : x.fixed = a.fixed) (hb : b.fixed = a.fixed) (hbo : ¬ b.isOpened) (hguard : ¬ strayDisconnect a c)
    (hrun : c.sess.state ≠ .started → ¬ a.isStarted) :
    Sat (sessionDisconnectAif x n) c fun _ c' => Started F md P K L c' (done ++ b :: todo) := by
  have hdev := congrArg Aif.devObj hx
  have hdev : x.devObj = a.devObj := hdev
  have hmerge : mergedMetadata x c = mergedMetadata a c := by
    rw [h.mergedMetadata, h.mergedMetadata, mergeFor_of_fixed hx]
  refine (sat_sessionDisconnectAif x n c).mono fun r c' h' => ?_
  rw [hmerge, hdev] at h'
  obtain ⟨s, -, ⟨hm, -, hcore⟩ | ⟨hm, hcore⟩⟩ := h'
  · have ha : ¬ a.isOpened := by
      intro hao
      have hsome := h.isSome_mergedMetadata (a := a) (by simp) hao rfl
      rw [Option.isNone_iff_eq_none.1 hm] at hsome
      cases hsome
    exact h.forget s hb (fun h => ha (Aif.isOpened_of_isStarted h)) hbo (nStart_of_core hcore) (nOpen_of_core hcore)
  · have hg : (c.sess.state = .started → ¬ a.isStarted → c.hw.nStart (c.hw.pcmObj a.devObj) = 0) ∧
        (¬ a.isOpened → c.hw.nOpen (c.hw.pcmObj a.devObj) = 0) := by
      simpa [strayDisconnect, hm] using hguard
    -- the device is closed for a back end that is not started any more
    have hclose {c₁ : Ctx} {a' : Aif} (h₁ : Started F md P K L c₁ (done ++ a' :: todo)) (s₁ : c₁.AifStep c')
        (hfix : a'.fixed = a.fixed) (hns : ¬ a'.isStarted)
        (hnone : ¬ a'.isOpened → c₁.hw.nOpen (c₁.hw.pcmObj a.devObj) = 0)
        (hcore₁ : c'.hw.core = c₁.hw.core.closed a.devObj) : Started F md P K L c' (done ++ b :: todo) := by
      have hdev' := congrArg Aif.devObj hfix
      have hdev' : a'.devObj = a.devObj := hdev'
      by_cases ha' : a'.isOpened
      · refine h₁.drop hK hL ha' hns s₁ (hb.trans hfix.symm) hbo ?_
        rw [hdev']
        exact hcore₁
      · have hz := hnone ha'
        have hback := hcore₁.trans (Hw.core_closed a.devObj c₁.hw).symm
        refine h₁.forget s₁ (hb.trans hfix.symm) hns hbo (fun o => ?_) fun o => ?_
        · rw [nStart_of_core hback, Hw.nStart_closed, if_neg]
          rintro ⟨rfl, h1⟩
          omega
        · rw [nOpen_of_core hback, Hw.nOpen_closed, if_neg (fun h => h.2 (h.1 ▸ hz)), sub_zero]
    by_cases hst : c.sess.state = .started
    · rw [if_pos hst, ← Hw.core_stopped] at hcore
      have s₁ : c.AifStep { c with hw := c.hw.stopped a.devObj } := ⟨rfl, rfl, c.hw.later_stopped a.devObj⟩
      have s₂ : Ctx.AifStep { c with hw := c.hw.stopped a.devObj } c' := ⟨s.pool, s.sess, s.hw.after_stopped _⟩
      have hopen (o : DevId) : (c.hw.stopped a.devObj).nOpen o = c.hw.nOpen o := Hw.nOpen_stopped o
      have hpcm : (c.hw.stopped a.devObj).pcmObj a.devObj = c.hw.pcmObj a.devObj := by
        rw [Hw.pcmObj_of_fixed (Hw.fixed_stopped _ _)]
      by_cases has : a.isStarted
      · have h₁ := h.stop hK has s₁ (b := { a with state := .opened }) rfl rfl (by simp [Aif.isStarted])
          (Hw.core_stopped _ _)
        exact hclose h₁ s₂ rfl (by simp [Aif.isStarted]) (fun h => absurd rfl h) hcore
      · have hz := hg.1 hst has
        have h₁ := h.idle s₁ (b := a) rfl rfl rfl (fun o => ?_) hopen
        · refine hclose h₁ s₂ rfl has (fun ha => ?_) hcore
          show (c.hw.stopped a.devObj).nOpen _ = 0
          rw [hpcm, hopen]
          exact hg.2 ha
        · show (c.hw.stopped a.devObj).nStart o = c.hw.nStart o
          rw [Hw.nStart_stopped, if_neg (fun h => h.2 (h.1 ▸ hz)), sub_zero]
    · rw [if_neg hst] at hcore
      exact hclose h s rfl (hrun hst) hg.2 hcore

theorem openTurns_started : OpenTurns (Started F md P K L) where
  toFrame := (turns_started hK).toFrame
  connect done a todo n c h _ ho := started_connectToOpened h (by simp [Aif.isStarted, ho])
  disconnect done a todo ret c h hcl := by
    unfold disconnectOpened
    rw [sat_ite, sat_pure]
    refine ⟨fun ho => ?_, fun _ => h⟩
    have hguard : ¬ strayDisconnect a c := by simp [strayDisconnect, hcl, Aif.isOpened, ho]
    refine Sat.bind (started_sessionDisconnectAif hK hL h rfl (b := { a with state := .open }) rfl
      (by simp [Aif.isOpened, AifState.rank]) hguard fun _ => by simp [Aif.isStarted, ho]) fun r c₁ h₁ => ?_
    exact (sat_pure _ _ _).2 h₁

/-- Disconnecting at a place of the list. -/
theorem started_disconnectAt {i n : Nat} {c : Ctx} (hi : i < c.sess.aifPool.length)
    (h : AtPool (Started F md P K L) c) (hok : c.sess.StartedOk) (hguard : ¬ strayDisconnect (c.sess.aifAt i) c) :
    Sat (sessionDisconnectAif ((c.sess.setAifState i .close).aifAt i) n)
      { c with sess := c.sess.setAifState i .close } fun _ c' => AtPool (Started F md P K L) c' := by
  have hT : Turns (Started F md P K L) := turns_started hK
  obtain ⟨done, todo, hc, hset, -⟩ := hT.split hi h
  rw [SessionObj.setAifState, SessionObj.aifAt_setAif _ hi]
  have hc₁ := hT.sess c (c.sess.setAif i { c.sess.aifAt i with state := .close }) _ hc rfl id
  refine ((started_sessionDisconnectAif hK hL hc₁ rfl (b := { c.sess.aifAt i with state := .close }) rfl
    (by simp [Aif.isOpened, AifState.rank]) hguard fun hst has => hst ?_).and
    ((sat_sessionDisconnectAif _ n _).mono fun _ _ h => h.1)).mono fun r c' h' => ?_
  · exact (hok _ (SessionObj.aifAt_mem _ hi) has).1
  · obtain ⟨hb, s⟩ := h'
    have heq := s.aifPool.trans (hset { c.sess.aifAt i with state := .close })
    unfold AtPool
    rw [heq]
    exact hb

omit hL in
/-- A back end that is not started goes to a state in which it holds nothing: the open counts are large enough. -/
theorem started_setAifState {i : Nat} {state : AifState} {c : Ctx} (hi : i < c.sess.aifPool.length)
    (h : AtPool (Started F md P K L) c) (ha : ¬ (c.sess.aifAt i).isStarted)
    (hs : state.rank < AifState.opened.rank) :
    AtPool (Started F md P K L) { c with sess := c.sess.setAifState i state } := by
  obtain ⟨done, todo, hc, -, hback⟩ := (turns_started hK).split hi h
  refine hback { c.sess.aifAt i with state := state } c (refl_of Ctx.AifStep c) ?_
  refine hc.forget (refl_of Ctx.AifStep c) rfl ha ?_ (fun _ => rfl) fun _ => rfl
  rw [Aif.isOpened, decide_eq_true_eq]
  exact Nat.not_le.2 hs

theorem started_hotDisconnect {i n : Nat} {c : Ctx} (hi : i < c.sess.aifPool.length)
    (h : AtPool (Started F md P K L) c) (hok : c.sess.StartedOk)
    (hguard : c.sess.state ≠ .closed → ¬ strayDisconnect (c.sess.aifAt i) c) :
    Sat (hotDisconnect i n) c fun _ c' => AtPool (Started F md P K L) c' := by
  unfold hotDisconnect
  rw [sat_bind, sat_modSess, sat_bind, sat_get]
  have hdisc : Sat (onlyIf ((c.sess.setAifState i .close).state ≠ .closed)
      (sessionDisconnectAif ((c.sess.setAifState i .close).aifAt i) n))
      { c with sess := c.sess.setAifState i .close } fun _ c' => AtPool (Started F md P K L) c' ∧
        c'.sess.aifPool = (c.sess.setAifState i .close).aifPool := by
    rw [sat_onlyIf]
    refine ⟨fun hnc => Sat.and (started_disconnectAt hK hL hi h hok (hguard hnc)) ?_, fun hcl => ⟨?_, rfl⟩⟩
    · exact (sat_sessionDisconnectAif _ n _).mono fun _ _ h => h.1.aifPool
    · refine started_setAifState hK hi h (fun has => ?_) (by decide)
      have hcl : c.sess.state = .closed := Decidable.not_not.1 hcl
      rw [(hok _ (SessionObj.aifAt_mem _ hi) has).1] at hcl
      cases hcl
  refine Sat.bind hdisc fun r c₁ h₁ => ?_
  rw [sat_ite, sat_pure, sat_bind, sat_modSess, sat_pure]
  refine ⟨fun _ => h₁.1, fun _ => ?_⟩
  have hi₁ : i < c₁.sess.aifPool.length := by
    rw [h₁.2]
    simpa [SessionObj.setAifState, SessionObj.setAif] using hi
  have hat : c₁.sess.aifAt i = { c.sess.aifAt i with state := .close } := by
    rw [SessionObj.aifAt, h₁.2]
    exact SessionObj.aifAt_setAif _ hi _
  refine started_setAifState hK hi₁ h₁.1 ?_ (by decide)
  rw [hat]
  simp [Aif.isStarted]

/-- A connect to a started session fails after its back end is connected, and its unwind stops a PCM that the new back
end has not started.  Up to the device loops of `session_start` the back ends of the session are started as they were,
and any start of the PCM counts; from there on they have all been stopped, and only the starts of others are left. -/
def strayUnwind (i n : Nat) (c : Ctx) : Bool :=
  let a := c.sess.aifAt i
  let o := c.hw.pcmObj a.devObj
  let c' := c.afterConnect i n
  let head := restartHead c'
  c.sess.state = .started && connects a n c && (connectCalls a n c).any fun ks =>
    let env := popAnswers c.answers ks
    if startsUp c' && head.any (acceptsAll env) then
      ! (planThen head (restartTail c')).any (acceptsAll env) &&
        c.hw.nStart o ≠ countOn Aif.isStarted c.hw o c.sess.aifPool
    else c.hw.nStart o ≠ 0

omit hL in
theorem started_connectAt {i n : Nat} {c : Ctx} (hi : i < c.sess.aifPool.length) (h : AtPool (Started F md P K L) c)
    (ha : ¬ (c.sess.aifAt i).isStarted) :
    Sat (connectAt i n) c fun _ c' => AtPool (Started F md P K L) c' ∧ i < c'.sess.aifPool.length := by
  obtain ⟨done, todo, hc, -, hback⟩ := (turns_started hK).split hi h
  unfold connectAt
  rw [sat_bind, sat_get]
  refine Sat.bind ((started_connectToOpened hc ha).and (aifStep_connectToOpened _ n c)) fun p c₁ h₁ => ?_
  rw [sat_bind, sat_modSess, sat_pure]
  refine ⟨hback p.2 c₁ h₁.2 h₁.1, ?_⟩
  show i < (c₁.sess.aifPool.set i p.2).length
  rw [List.length_set, h₁.2.aifPool]
  exact hi

omit hK hL in
/-- Where the session is not started, or nobody has the PCM started, a disconnect takes nothing from others. -/
theorem not_strayDisconnect {a : Aif} {c : Ctx} (h : AtPool (Started F md P K L) c) (ho : a.isOpened)
    (hz : c.sess.state = .started → c.hw.nStart (F.pcmObj a.devObj) = 0) : ¬ strayDisconnect a c := by
  intro hstray
  simp only [strayDisconnect, Bool.and_eq_true, Bool.or_eq_true, decide_eq_true_iff, ho, Bool.not_true,
    Bool.false_eq_true, false_and, or_false, h.pcmObj] at hstray
  exact hstray.2.2 (hz hstray.2.1.1)

omit hK hL in
theorem countOn_hw {c : Ctx} (h : AtPool (Started F md P K L) c) (p : Aif → Bool) (o : DevId) (l : List Aif) :
    countOn p c.hw o l = countOn p F o l := by
  have hpcm : c.hw.pcmObj = F.pcmObj := funext h.pcmObj
  unfold countOn Aif.on
  rw [hpcm]

omit hK hL in
theorem nStart_afterConnect (i n : Nat) (c : Ctx) (o : DevId) : (c.afterConnect i n).hw.nStart o = c.hw.nStart o := by
  have hsent (d : DevId) (hw : Hw) : (hw.paramsSent d).nStart o = hw.nStart o := by
    unfold Hw.paramsSent
    split
    · rw [Hw.setDev_nStart]
      split
      · next h => rw [h, Hw.nStart]
      · rfl
    · rfl
  exact (hsent _ _).trans (Hw.nStart_opened o)

omit hK hL in
theorem countOn_eq_zero {p : Aif → Bool} {hw : Hw} {o : DevId} {l : List Aif}
    (h : ∀ a ∈ l, p a → hw.pcmObj a.devObj ≠ o) : countOn p hw o l = 0 := by
  refine List.sum_eq_zero fun x hx => ?_
  obtain ⟨a, ha, rfl⟩ := List.mem_map.1 hx
  exact if_neg fun hpo => h a ha hpo.1 hpo.2

omit hL in
/-- A restart that fails leaves its PCM started for nobody else. -/
theorem nStart_of_failed_restart {i n : Nat} {c c₁ : Ctx} (h : AtPool (Started F md P K L) c)
    (hs : c.sess.state = .started) (hcon : connects (c.sess.aifAt i) n c) (hlike : (c.afterConnect i n).Like c₁)
    (hans : ∀ ks, connectCalls (c.sess.aifAt i) n c = some ks → c₁.answers = popAnswers c.answers ks)
    (hi : i < c.sess.aifPool.length) (hguard : ¬ strayUnwind i n c) :
    Sat sessionPrepare c₁ fun r c₂ => (r ≠ 0 → c.hw.nStart (F.pcmObj (c.sess.aifAt i).devObj) = 0) ∧
      (AtPool (Started F md P K L) c₂ → Sat sessionStart c₂ fun r c₃ => AtPool (Started F md P K L) c₃ → r ≠ 0 →
        c₃.hw.nStart (F.pcmObj (c.sess.aifAt i).devObj) = 0) := by
  have hpcm : c.hw.pcmObj (c.sess.aifAt i).devObj = F.pcmObj (c.sess.aifAt i).devObj := h.pcmObj _
  have hcalls := hcon
  unfold connects at hcalls
  rw [Bool.and_eq_true, Option.any_eq_true] at hcalls
  obtain ⟨-, ks, hks, -⟩ := hcalls
  have hans := hans ks hks
  simp only [strayUnwind, hs, hcon, hks, decide_true, Bool.true_and, Option.any_some, hpcm, ← hans, ← hlike.startsUp,
    ← hlike.restartHead, ← hlike.restartTail] at hguard
  generalize hoeq : F.pcmObj (c.sess.aifAt i).devObj = o at hguard
  have hn₁ : c₁.hw.nStart o = c.hw.nStart o := by
    have := congrArg (fun hw : Hw => hw.nStart o) hlike.still
    exact Eq.trans this (nStart_afterConnect i n c o)
  have hstart := h.start o
  have hKo := hK o
  have hown := countOn_nonneg Aif.isStarted F o c.sess.aifPool
  by_cases hreach : (startsUp c₁ && (restartHead c₁).any (acceptsAll c₁.answers)) = true
  · -- its own back ends have been stopped
    rw [if_pos hreach] at hguard
    rw [Bool.and_eq_true, Option.any_eq_true] at hreach
    obtain ⟨hup, hs, hhead, hacc⟩ := hreach
    have hst₁ : c₁.sess.state = .started := by rw [hlike.sess]; exact ‹c.sess.state = .started›
    have hg₁ : c₁.sess.graph.isSome := by rw [hlike.sess]; exact isSome_connectedGraph hcon
    have hn : c₁.sess.countWithState .opened false ≠ 0 := by
      rw [hlike.sess]
      exact Nat.ne_of_gt (List.countP_pos_iff.2 ⟨_, List.mem_set hi _, by simp⟩)
    refine (sat_restart hst₁ hn hg₁ hup hhead hacc).mono fun r c₂ h₂ => ⟨fun hr => absurd h₂.1 hr, fun _ => ?_⟩
    refine h₂.2.mono fun r c₃ h₃ hst₃ hr => ?_
    have hzero : countOn Aif.isStarted F o c₃.sess.aifPool = 0 :=
      countOn_eq_zero fun a ha has => absurd has (h₃.2 hr a ha)
    have htail : ¬ (planThen (restartHead c₁) (restartTail c₁)).any (acceptsAll c₁.answers) := by
      intro hany
      obtain ⟨ls, hls, hacc'⟩ := (Option.any_eq_true _ _).1 hany
      obtain ⟨hs', hhead', ts, hts, rfl⟩ := planThen_eq_some.1 hls
      obtain rfl := Option.some.inj (hhead.symm.trans hhead')
      rw [acceptsAll_append, Bool.and_eq_true] at hacc'
      exact hr (h₃.1 ((Option.any_eq_true _ _).2 ⟨ts, hts, hacc'.2⟩))
    have hself : c.hw.nStart o = countOn Aif.isStarted c.hw o c.sess.aifPool := by
      simpa [htail] using hguard
    rw [countOn_hw h] at hself
    have := hst₃.start o
    omega
  · rw [if_neg hreach] at hguard
    have h0 : c.hw.nStart o = 0 := by simpa using hguard
    refine (prepareStages_startsKept.sessionPrepare c₁).mono fun r c₂ h₂ => ⟨fun _ => h0, fun hst₂ => ?_⟩
    refine (sat_sessionStart_started c₂).mono fun r c₃ h₃ hst₃ hr => ?_
    have hn₂ := congrFun h₂.nStart o
    have hstart₂ := hst₂.start o
    have hstart₃ := hst₃.start o
    obtain ⟨-, hl | hnone⟩ := h₃.2.2.2 hr
    · rw [hl] at hstart₃
      omega
    · have hzero : countOn Aif.isStarted F o c₃.sess.aifPool = 0 :=
        countOn_eq_zero fun a ha has => absurd has (hnone a ha)
      omega

theorem started_hotConnect {i n : Nat} {c : Ctx} (hi : i < c.sess.aifPool.length)
    (h : AtPool (Started F md P K L) c) (hok : c.sess.StartedOk) (ha : ¬ (c.sess.aifAt i).isStarted)
    (hguard : ¬ strayUnwind i n c) : Sat (hotConnect i n) c fun _ c' => AtPool (Started F md P K L) c' := by
  have hT : Turns (Started F md P K L) := turns_started hK
  have hlen (c : Ctx) := turns_holding (c.sess.aifPool.map Aif.holding)
  have hbody : Sat (hotConnectBody i n) c fun e c' => AtPool (Started F md P K L) c' ∧ i < c'.sess.aifPool.length ∧
      (e.1 = .unwind → ¬ strayDisconnect (c'.sess.aifAt i) c') := by
    have hdone {e : OpLabel × Int} {c' : Ctx} (he : e.1 = .done) (h : AtPool (Started F md P K L) c')
        (hi : i < c'.sess.aifPool.length) : AtPool (Started F md P K L) c' ∧ i < c'.sess.aifPool.length ∧
          (e.1 = .unwind → ¬ strayDisconnect (c'.sess.aifAt i) c') :=
      ⟨h, hi, fun hu => absurd (he.symm.trans hu) (by decide)⟩
    unfold hotConnectBody
    rw [sat_bind, sat_get, sat_ite]
    constructor
    · intro _
      rw [sat_bind, sat_modSess, sat_pure]
      refine hdone rfl (started_setAifState hK hi h ha (by decide)) ?_
      simpa [SessionObj.setAifState, SessionObj.setAif] using hi
    · intro _
      refine Sat.bind ((started_connectAt hK hi h ha).and sat_connectAt_asks) fun r c₁ h₁ => ?_
      obtain ⟨⟨hst₁, hi₁⟩, hcon, hlike⟩ := h₁
      rw [sat_ite, sat_pure, sat_ite, sat_pure]
      refine ⟨fun _ => hdone rfl hst₁ hi₁, fun hr => ⟨fun _ => hdone rfl hst₁ hi₁, fun _ => ?_⟩⟩
      have hr := Decidable.not_not.1 hr
      obtain ⟨hlike, hans⟩ := hlike hr
      -- the back end holds its device from here on
      have hat₁ : c₁.sess.aifAt i = { (c.sess.aifAt i).sent with state := .opened } := by
        rw [hlike.sess]
        exact SessionObj.aifAt_setAif _ hi _
      have hkeep {c₂ : Ctx} (hl : c₂.sess.aifPool.map Aif.holding = c₁.sess.aifPool.map Aif.holding) :
          i < c₂.sess.aifPool.length ∧ (c₂.sess.aifAt i).isOpened ∧
            (c₂.sess.aifAt i).devObj = (c.sess.aifAt i).devObj := by
        obtain ⟨hlen, hat⟩ := aifAt_of_holding hl i
        rw [hat₁] at hat
        refine ⟨hlen ▸ hi₁, congrArg Prod.snd hat, ?_⟩
        have := congrArg (fun p => Aif.devObj p.1) hat
        exact this
      have hn₁ (o : DevId) : c₁.hw.nStart o = c.hw.nStart o := by
        have := congrArg (fun hw : Hw => hw.nStart o) hlike.still
        exact Eq.trans this (nStart_afterConnect i n c o)
      have hstate : c₁.sess.state = c.sess.state := by
        rw [hlike.sess]
        rfl
      have hfail := fun hs => nStart_of_failed_restart hK h hs (hcon.1 hr) hlike hans hi hguard
      refine Sat.bind (((within_inv.1 hT.sessionPrepare c₁ hst₁).and (within_inv.1 (hlen c₁).sessionPrepare c₁ rfl)).and
        ((prepareStages_startsKept.sessionPrepare c₁).and fun r c₂ he hs => hfail hs r c₂ he)) fun r c₂ h₂ => ?_
      obtain ⟨⟨hst₂, hl₂⟩, hkept, hfail⟩ := h₂
      obtain ⟨hi₂, ho₂, hdev₂⟩ := hkeep hl₂
      rw [sat_ite, sat_pure, sat_ite, sat_pure]
      refine ⟨fun hr => ⟨hst₂, hi₂, fun _ => not_strayDisconnect hst₂ ho₂ fun hs => ?_⟩,
        fun _ => ⟨fun hs => ?_, fun _ => hdone rfl hst₂ hi₂⟩⟩
      · rw [hdev₂, congrFun hkept.nStart, hn₁]
        exact (hfail (hstate.symm.trans (hkept.state hs))).1 hr
      · refine Sat.bind (((within_inv.1 hT.sessionStart c₂ hst₂).and (within_inv.1 (hlen c₁).sessionStart c₂ hl₂)).and
          ((hfail hs).2 hst₂)) fun r c₃ h₃ => ?_
        obtain ⟨⟨hst₃, hl₃⟩, hzero⟩ := h₃
        obtain ⟨hi₃, ho₃, hdev₃⟩ := hkeep hl₃
        rw [sat_ite, sat_pure, sat_pure]
        refine ⟨fun hr => ⟨hst₃, hi₃, fun _ => not_strayDisconnect hst₃ ho₃ fun _ => ?_⟩, fun _ => hdone rfl hst₃ hi₃⟩
        rw [hdev₃]
        exact hzero hst₃ hr
  refine Sat.bind (hbody.and (startedOk_hotConnectBody hok ha)) fun e c₁ h₁ => ?_
  obtain ⟨⟨hst, hi₁, hun⟩, hok₁⟩ := h₁
  obtain ⟨l, r⟩ := e
  cases l with
  | done => exact (sat_pure _ _ _).2 hst
  | unwind =>
    simp only [sat_bind, sat_modSess, sat_get]
    refine (started_disconnectAt hK hL hi₁ hst hok₁ (hun rfl)).mono fun _ c₂ h₂ => ?_
    exact (sat_pure _ _ _).2 h₂

end

/-! ## Closing -/

/-- The open counts have not grown, and a start count is as it was unless its PCM was closed. -/
def Ctx.Winds (c c' : Ctx) : Prop :=
  ∀ o, c'.hw.nOpen o ≤ c.hw.nOpen o ∧ (c'.hw.nStart o = c.hw.nStart o ∨ c'.hw.nOpen o = 0)

instance : IsPreorder Ctx Ctx.Winds where
  refl _ _ := ⟨Int.le_refl _, .inl rfl⟩
  trans c₁ c₂ c₃ h h' o := by
    obtain ⟨hle, hs⟩ := h o
    obtain ⟨hle', hs'⟩ := h' o
    have := c₃.hw.nOpen_nonneg o
    omega

theorem winds_of_core {c c' : Ctx} (h : c'.hw.core = c.hw.core) : c.Winds c' :=
  fun o => ⟨(nOpen_of_core h o).le, .inl (nStart_of_core h o)⟩

theorem winds_of_graphStep {α : Type} {m : M α} (h : Within Ctx.GraphStep m) : Within Ctx.Winds m :=
  h.mono fun _ _ h => winds_of_core h.hw.core

theorem winds_closeAif (ret : Int) (a : Aif) : Within Ctx.Winds (closeAif ret a) := by
  intro c
  refine (sat_closeAif ret a c).mono fun p c' h => ?_
  obtain ⟨-, -, ⟨-, -, hcore⟩ | ⟨-, -, hcore⟩⟩ := h
  · have hback := hcore.trans (Hw.core_closed a.devObj c.hw).symm
    intro o
    have hn := nOpen_of_core hback o
    have hs := nStart_of_core hback o
    rw [Hw.nOpen_closed] at hn
    rw [Hw.nStart_closed] at hs
    by_cases h1 : o = c.hw.pcmObj a.devObj ∧ c.hw.nOpen o = 1
    · rw [if_pos ⟨h1.1, by omega⟩] at hn
      exact ⟨by omega, .inr (by omega)⟩
    · rw [if_neg h1] at hs
      refine ⟨?_, .inl hs⟩
      split at hn <;> omega
  · exact winds_of_core hcore

theorem winds_sessionClose : Within Ctx.Winds sessionClose := by
  have hset (f : SessionObj → SessionObj) : Within Ctx.Winds (modSess f) := within_modify fun c => refl_of Ctx.Winds c
  refine within_bind within_get fun c => within_ite (within_pure _) ?_
  refine within_bind (within_onlyIf (winds_of_graphStep fun c => (sat_graphStop c).mono fun _ _ h => h.1)) fun _ => ?_
  refine within_bind (winds_of_graphStep fun c => (sat_graphClose c).mono fun _ _ h => h.1) fun ret => ?_
  refine within_bind (hset _) fun _ => within_bind (within_onlyIf ?_) fun _ => within_bind (hset _) fun _ => within_pure _
  exact within_mapEachAif (fun c _ => refl_of Ctx.Winds c) winds_closeAif ret

/-- A close would leave a start count behind: a back end is started, and the session is not the only one that has its
PCM open. -/
def leavesStarted (c : Ctx) : Bool :=
  c.sess.state ≠ .closed && c.sess.aifPool.any fun a =>
    a.isStarted && c.hw.nOpen (c.hw.pcmObj a.devObj) ≠
      countOn Aif.isOpened c.hw (c.hw.pcmObj a.devObj) c.sess.aifPool

theorem started_sessionClose {F : Hw} {md : Metadata} {P : Pool SessionObj} {K L : DevId → Int} (hK : ∀ o, 0 ≤ K o)
    (hL : ∀ o, K o ≤ L o) {c : Ctx} (h : AtPool (Started F md P K L) c) (hok : c.sess.StartedOk)
    (hguard : ¬ leavesStarted c) : Sat sessionClose c fun _ c' => AtPool (Started F md P K L) c' := by
  by_cases hc : c.sess.state = .closed
  · unfold sessionClose
    rw [sat_bind, sat_get, if_pos hc, sat_pure]
    exact h
  -- what is open beyond the back ends of this session stays open
  have hD (o : DevId) : 0 ≤ c.hw.nOpen o - countOn Aif.isOpened F o c.sess.aifPool := by
    have := h.opens o
    have := hK o
    have := hL o
    omega
  have hbal : AtPool (Balanced F md P fun o => c.hw.nOpen o - countOn Aif.isOpened F o c.sess.aifPool) c :=
    ⟨h.toBooks, fun o => by omega⟩
  refine ((((within_inv.1 (balanced_sessionClose hD) c hbal).and (winds_sessionClose c)).and
    (sat_sessionClose_started hok hc)).and (sat_sessionClose_aifs hc)).mono fun _ c' h' => ?_
  obtain ⟨⟨⟨hbal', hwind⟩, hnone⟩, haifs⟩ := h'
  have hzero (o : DevId) : countOn Aif.isStarted F o c'.sess.aifPool = 0 :=
    countOn_eq_zero fun a ha has => absurd has (hnone a ha)
  refine ⟨hbal'.toBooks, fun o => ?_, fun o => ?_⟩
  · have hcount := hbal'.count o
    have hopen := h.opens o
    have hpos := countOn_nonneg Aif.isOpened F o c'.sess.aifPool
    have hKo := hK o
    have hLo := hL o
    rw [hzero o]
    by_cases h0 : c'.hw.nOpen o = 0
    · rw [Hw.nStart_of_nOpen h0]
      omega
    · -- the PCM is still open, so by the guard no back end of the session had it started
      have hkeep : c'.hw.nStart o = c.hw.nStart o := by
        rcases (hwind o).2 with h | h
        · exact h
        · exact absurd h h0
      have hidle : countOn Aif.isStarted F o c.sess.aifPool = 0 := by
        refine countOn_eq_zero fun a ha has hao => ?_
        have hcl : ∀ a ∈ c'.sess.aifPool, ¬ a.isOpened := haifs.1 (hok a ha has).2
        have hcl₀ : countOn Aif.isOpened F o c'.sess.aifPool = 0 :=
          countOn_eq_zero fun a ha hao => absurd hao (hcl a ha)
        refine hguard ?_
        simp only [leavesStarted, Bool.and_eq_true, List.any_eq_true]
        refine ⟨decide_eq_true hc, a, ha, has, decide_eq_true ?_⟩
        rw [h.pcmObj, hao]
        have hF : countOn Aif.isOpened c.hw o c.sess.aifPool = countOn Aif.isOpened F o c.sess.aifPool := by
          unfold countOn Aif.on
          rw [Hw.pcmObj_of_fixed (show c.hw.fixed = F.fixed by rw [← h.fixed]; rfl)]
        rw [hF]
        omega
      rw [hkeep, h.start o, hidle]
  · have hcount := hbal'.count o
    have hopen := h.opens o
    omega

/-! ## The service -/

/-- The operations after which the start counts may be off. -/
def breaksStartCount (c : Ctx) : Op → Bool
  | .sessAifConnect aifId aifState =>
    match aifObjGet aifId c with
    | some (.ok i, c) =>
      c.sess.state ≠ .closed &&
        if aifState then
          (c.sess.aifAt i).state.rank ≤ AifState.opened.rank && strayUnwind i (c.sess.countWithState .opened false) c
        else AifState.open.rank ≤ (c.sess.aifAt i).state.rank && strayDisconnect (c.sess.aifAt i) c
    | _ => false
  | .close => leavesStarted c
  | _ => false

section

variable {F : Hw} {md : Metadata} {P : Pool SessionObj} {K L : DevId → Int} (hK : ∀ o, 0 ≤ K o) (hL : ∀ o, K o ≤ L o)

include hK hL

theorem started_sessionObjSessAifConnect {aifId : Nat} {aifState : Bool} {c : Ctx} (h : AtPool (Started F md P K L) c)
    (hok : c.sess.StartedOk) (hguard : ¬ breaksStartCount c (.sessAifConnect aifId aifState)) :
    Sat (sessionObjSessAifConnect aifId aifState) c fun _ c' => AtPool (Started F md P K L) c' := by
  have hrun : Sat (aifObjGet aifId) c fun r c' => aifObjGet aifId c = some (r, c') := fun _ _ h => h
  refine Sat.bind ((sat_aifObjGet aifId c).and hrun) fun r c₁ h₁ => ?_
  obtain ⟨h₁, heq⟩ := h₁
  cases r with
  | error e =>
    obtain ⟨-, rfl⟩ := h₁
    exact (sat_pure _ _ _).2 h
  | ok i =>
    obtain ⟨hi, h₁⟩ := h₁
    have key : AtPool (Started F md P K L) c₁ ∧ c₁.sess.StartedOk := by
      rcases h₁ with ⟨rfl, -⟩ | ⟨-, rfl, rfl⟩
      · exact ⟨h, hok⟩
      · have hno : ¬ ({ aifId := aifId, devObj := aifId } : Aif).isOpened := by simp [Aif.isOpened, AifState.rank]
        have hns : ¬ ({ aifId := aifId, devObj := aifId } : Aif).isStarted := by simp [Aif.isStarted]
        refine ⟨⟨h.toBooks.append hno rfl, fun o => ?_, fun o => ?_⟩, fun a ha has => ?_⟩
        · rw [countOn_split, List.append_nil, Aif.on_of_neg hns, add_zero]
          exact h.start o
        · rw [countOn_split, List.append_nil, Aif.on_of_neg hno, add_zero]
          exact h.opens o
        · rcases List.mem_append.1 ha with ha | ha
          · exact hok a ha has
          · rw [List.mem_singleton.1 ha] at has
            exact absurd has hns
    obtain ⟨hst, hok₁⟩ := key
    simp only [breaksStartCount, heq, Bool.and_eq_true, not_and] at hguard
    rw [sat_bind, sat_get, sat_ite, sat_pure, sat_ite]
    refine ⟨fun _ => hst, fun hrank => ⟨fun hs => ?_, fun hs => ?_⟩⟩
    · have hle : (c₁.sess.aifAt i).state.rank ≤ AifState.opened.rank :=
        Nat.not_lt.1 fun hlt => hrank (.inl ⟨hs, hlt⟩)
      have ha : ¬ (c₁.sess.aifAt i).isStarted := by
        intro has
        rw [of_decide_eq_true has] at hle
        exact absurd hle (by decide)
      refine started_hotConnect hK hL hi hst hok₁ ha fun hun => ?_
      have hnc : c₁.sess.state ≠ .closed := by
        intro hcl
        simp [strayUnwind, hcl] at hun
      refine hguard (decide_eq_true hnc) ?_
      rw [if_pos hs]
      simp [hle, hun]
    · refine started_hotDisconnect hK hL hi hst hok₁ fun hnc hun => hguard (decide_eq_true hnc) ?_
      have hle : AifState.open.rank ≤ (c₁.sess.aifAt i).state.rank :=
        Nat.not_lt.1 fun hlt => hrank (.inr ⟨hs, hlt⟩)
      rw [if_neg hs]
      simp [hle, hun]

end

/-- The start count of every PCM is the number of back ends that are started on it, and nobody holds a PCM that is not
open. -/
structure World.StartCounted (w : World) : Prop where
  start : ∀ o, w.hw.nStart o = w.pool.total fun s => countOn Aif.isStarted w.hw o s.aifPool
  opens : ∀ o, (w.pool.total fun s => countOn Aif.isOpened w.hw o s.aifPool) ≤ w.hw.nOpen o
  merge : w.Mergeable

theorem World.StartCounted.get {w : World} (h : w.StartCounted) (s : SessId) : (w.get s).StartCounted where
  start o := (h.start o).trans (w.total_countOn_get Aif.isStarted s o).symm
  opens o := (w.total_countOn_get Aif.isOpened s o).le.trans (h.opens o)
  merge := h.merge.get s

/-- Whoever is started on a PCM holds it. -/
theorem World.others_started_le (w : World) {s : SessId} (hs : s ∈ w.pool.ids) (o : DevId) :
    w.others Aif.isStarted s o ≤ w.others Aif.isOpened s o :=
  w.pool.total_sub_mono hs fun _ => countOn_mono (fun _ h => Aif.isOpened_of_isStarted h) _ _ _

/-- One operation keeps the start counts. -/
theorem startCounted_step {o : SessId × Op} {w w' : World} {r : Int} (h : exec o w = some (r, w'))
    (hw : w.StartCounted) (heach : w.Each SessionObj.StartedOk) (ho : o.2.isLifecycle)
    (hguard : ¬ breaksStartCount ((w.enter o).lock o.1) o.2) : w'.StartCounted := by
  have hnew (s : SessId) : (sessionObjCreate s).StartedOk := fun a ha => absurd ha List.not_mem_nil
  refine exec_inv (I := World.StartCounted) h hw (hw.get o.1) fun hs hw₀ => ?_
  have hok : ((w.enter o).pool.objs o.1).StartedOk := heach.grow hnew (w.grows_enter o) o.1 hs
  generalize w.enter o = w₀ at hs hw₀ hguard hok
  have hK := w₀.others_nonneg Aif.isStarted hs
  have hL := w₀.others_started_le hs
  have hb : AtPool (Started w₀.hw.fixed (w₀.pool.objs o.1).sessMeta w₀.pool (w₀.others Aif.isStarted o.1)
      (w₀.others Aif.isOpened o.1)) (w₀.lock o.1) := by
    refine ⟨World.books_lock hw₀.merge hs, fun d => ?_, fun d => ?_⟩
    · exact (hw₀.start d).trans (w₀.total_countOn Aif.isStarted o.1 d)
    · exact (w₀.total_countOn Aif.isOpened o.1 d).symm.le.trans (hw₀.opens d)
  refine Sat.mono (Q := fun _ c => AtPool (Started w₀.hw.fixed (w₀.pool.objs o.1).sessMeta w₀.pool
    (w₀.others Aif.isStarted o.1) (w₀.others Aif.isOpened o.1)) c) ?_ fun _ c hc => ?_
  · obtain ⟨s, op⟩ := o
    cases op with
    | sessAifConnect aifId aifState => exact started_sessionObjSessAifConnect hK hL hb hok hguard
    | «open» mode => exact within_inv.1 ((openTurns_started hK hL).sessionObjOpen mode) _ hb
    | prepare => exact within_inv.1 (turns_started hK).sessionPrepare _ hb
    | start => exact within_inv.1 (turns_started hK).sessionStart _ hb
    | stop => exact within_inv.1 (turns_started hK).sessionStop _ hb
    | close => exact started_sessionClose hK hL hb hok hguard
    | _ => cases ho
  · refine ⟨fun d => ?_, fun d => ?_, Books.unlock hw₀.merge hc.toBooks⟩
    · exact (hc.start d).trans (Books.total_unlock hs Aif.isStarted hc.toBooks d).symm
    · exact (Books.total_unlock hs Aif.isOpened hc.toBooks d).le.trans (hc.opens d)

theorem World.Fresh.startCounted {w : World} (h : w.Fresh) : w.StartCounted where
  start o := (Hw.nStart_of_nOpen (h.devs o)).trans (h.total_countOn (fun _ => Aif.isOpened_of_isStarted) o).symm
  opens o := ((h.total_countOn (fun _ => id) o).trans (h.devs o).symm).le
  merge := h.mergeable

/-- Somebody counts exactly if the count is not `0`. -/
theorem total_countOn_ne_zero_iff (w : World) (p : Aif → Bool) (o : DevId) :
    (w.pool.total fun s => countOn p w.hw o s.aifPool) ≠ 0 ↔
      ∃ s ∈ w.pool.ids, ∃ a ∈ (w.pool.objs s).aifPool, p a ∧ w.hw.pcmObj a.devObj = o := by
  constructor
  · intro hne
    by_contra hno
    refine hne (List.sum_eq_zero fun x hx => ?_)
    obtain ⟨s, hs, rfl⟩ := List.mem_map.1 hx
    exact countOn_eq_zero fun a ha hpa hao => hno ⟨s, hs, a, ha, hpa, hao⟩
  · rintro ⟨s, hs, a, ha, hpa, hao⟩
    have hle := w.pool.le_total hs (f := fun s => countOn p w.hw o s.aifPool) fun s => countOn_nonneg _ _ _ _
    obtain ⟨done, todo, hl⟩ := List.append_of_mem ha
    have hone : a.on p w.hw o = 1 := if_pos ⟨hpa, hao⟩
    have hrest := countOn_nonneg p w.hw o (done ++ todo)
    rw [hl, countOn_split, hone] at hle
    omega

/-- **The start counts.**  In every state of every run of connects, disconnects, opens, prepares, starts, stops and
closes, on any sessions and with any answers of GSL and ALSA, the start count of each PCM is the number of back ends
that are started on it, and the PCM is started exactly if there is one — as long as no disconnect and no unwind of a
connect stops or closes a PCM for a back end that has not started or opened it, and no session closes a started back
end of a PCM that is open for somebody else too. -/
theorem nStart_eq_started {w₀ w : World} (h₀ : w₀.Fresh)
    (h : Runs exec (fun w o => o.2.isLifecycle ∧ ¬ breaksStartCount ((w.enter o).lock o.1) o.2) w₀ w) (o : DevId) :
    (w.hw.nStart o = w.pool.total fun s => countOn Aif.isStarted w.hw o s.aifPool) ∧
      ((w.hw.devs o).state = .started ↔
        ∃ s ∈ w.pool.ids, ∃ a ∈ (w.pool.objs s).aifPool, a.isStarted ∧ w.hw.pcmObj a.devObj = o) := by
  have key : w.StartCounted ∧ w.Each SessionObj.StartedOk := by
    refine h.invariant (I := fun w => w.StartCounted ∧ w.Each SessionObj.StartedOk)
      ⟨h₀.startCounted, fun s hs a ha has => ?_⟩ fun w o r w' hw hg he => ?_
    · exact absurd (Aif.isOpened_of_isStarted has) (h₀.aifs s hs a ha)
    · refine ⟨startCounted_step he hw.1 hw.2 hg.1 hg.2, ?_⟩
      exact hw.2.step (fun _ _ ha => absurd ha List.not_mem_nil) he fun hφ => startedOk_run hg.1 hφ
  refine ⟨key.1.start o, ?_⟩
  rw [← (w.hw.devs o).running, ← total_countOn_ne_zero_iff, ← key.1.start o]
  rfl

theorem nStart_eq_started_after_start :
    ∃ w, Runs exec (fun w o => o.2.isLifecycle ∧ ¬ breaksStartCount ((w.enter o).lock o.1) o.2)
      (World.boot fun _ => []) w ∧ w.hw.nStart 0 = 2 ∧
        w.hw.nStart 0 = w.pool.total fun s => countOn Aif.isStarted w.hw 0 s.aifPool := by
  obtain ⟨w, h, hn⟩ := Runs.exists_of_execAll exec
    (fun w o => o.2.isLifecycle ∧ ¬ breaksStartCount ((w.enter o).lock o.1) o.2)
    [(1, .sessAifConnect 0 true), (1, .open .default), (1, .prepare), (1, .start), (2, .sessAifConnect 0 true),
      (2, .open .default), (2, .prepare), (2, .start)] (World.boot fun _ => []) (fun w => w.hw.nStart 0) (b := 2)
    (by decide +kernel)
  exact ⟨w, h, hn, (nStart_eq_started (World.fresh_boot _) h 0).1⟩

/-- Two sessions run on one PCM, and one of them is closed without a stop: the start count stays `2`, and the PCM
stays started when the other session stops. -/
theorem nStart_ne_started_of_close :
    (World.boot fun _ => []).Fresh ∧ ∃ w, Runs exec (fun _ o => o.2.isLifecycle) (World.boot fun _ => []) w ∧
      w.hw.nStart 0 = 1 ∧ (w.pool.total fun s => countOn Aif.isStarted w.hw 0 s.aifPool) = 0 ∧
      (w.hw.devs 0).state = .started := by
  refine ⟨World.fresh_boot _, ?_⟩
  obtain ⟨w, h, hn⟩ := Runs.exists_of_execAll exec (fun _ o => o.2.isLifecycle)
    [(1, .sessAifConnect 0 true), (1, .open .default), (1, .prepare), (1, .start), (2, .sessAifConnect 0 true),
      (2, .open .default), (2, .prepare), (2, .start), (1, .close), (2, .stop)] (World.boot fun _ => [])
    (fun w => (w.hw.nStart 0, w.pool.total fun s => countOn Aif.isStarted w.hw 0 s.aifPool, (w.hw.devs 0).state))
    (b := (1, 0, .started)) (by decide +kernel)
  obtain ⟨h₁, h₂⟩ := Prod.mk.inj hn
  obtain ⟨h₂, h₃⟩ := Prod.mk.inj h₂
  exact ⟨w, h, h₁, h₂, h₃⟩

end Agm.Service
