import Agm.Service.Walks

/-!
# The open counts

`device_open` and `device_close` are called from the connect and disconnect paths, from the two loops of open, from
close and from three unwind paths, and the states of the back ends are written separately.  This module follows the
number of references to each PCM through all of them: `Balanced` says that the open count of every PCM is the number
of back ends of the locked session that hold it, plus a number `K` that the session does not touch.
-/

namespace Agm.Service

open Agm.Lib

/-! ## Who holds a PCM -/

/-- `1` if the back end satisfies `p` and its device resolves to the PCM `o`. -/
def Aif.on (p : Aif → Bool) (hw : Hw) (o : DevId) (a : Aif) : Int := if p a ∧ hw.pcmObj a.devObj = o then 1 else 0

/-- The number of back ends that satisfy `p` and whose device resolves to the PCM `o`; of those that hold it, with
`Aif.isOpened` for `p`. -/
def countOn (p : Aif → Bool) (hw : Hw) (o : DevId) (l : List Aif) : Int := (l.map (Aif.on p hw o)).sum

section

variable {p : Aif → Bool} {hw : Hw} {o : DevId} {a b : Aif}

theorem Aif.on_nonneg (p : Aif → Bool) (hw : Hw) (o : DevId) (a : Aif) : 0 ≤ a.on p hw o := by
  unfold Aif.on
  split <;> decide

theorem Aif.on_of_pos (h : p a) : a.on p hw o = if o = hw.pcmObj a.devObj then 1 else 0 := by
  simp [Aif.on, h, eq_comm]

theorem Aif.on_of_neg (h : ¬ p a) : a.on p hw o = 0 := by
  simp [Aif.on, h]

theorem countOn_nonneg (p : Aif → Bool) (hw : Hw) (o : DevId) (l : List Aif) : 0 ≤ countOn p hw o l := by
  induction l with
  | nil => exact Int.le_refl 0
  | cons a l ih =>
    have := a.on_nonneg p hw o
    rw [countOn, List.map_cons, List.sum_cons]
    rw [countOn] at ih
    omega

theorem countOn_split (p : Aif → Bool) (hw : Hw) (o : DevId) (done : List Aif) (a : Aif) (todo : List Aif) :
    countOn p hw o (done ++ a :: todo) = countOn p hw o (done ++ todo) + a.on p hw o := by
  simp only [countOn, List.map_append, List.map_cons, List.sum_append, List.sum_cons]
  ring

theorem on_of_fixed (h : b.fixed = a.fixed) (hp : p b = p a) : b.on p hw o = a.on p hw o := by
  have hd := congrArg Aif.devObj h
  have hd : b.devObj = a.devObj := hd
  rw [Aif.on, Aif.on, hd, hp]

end

/-- The three-way merge for a back end, from what never changes. -/
def mergeFor (F : Hw) (md : Metadata) (a : Aif) : Option Metadata :=
  metadataMerge F.build [some md, some a.sessAifMeta, some (F.devs a.devObj).metadata]

theorem mergeFor_of_fixed {F : Hw} {md : Metadata} {a b : Aif} (h : b.fixed = a.fixed) :
    mergeFor F md b = mergeFor F md a := by
  have hm := congrArg Aif.sessAifMeta h
  have hd := congrArg Aif.devObj h
  have hm : b.sessAifMeta = a.sessAifMeta := hm
  have hd : b.devObj = a.devObj := hd
  rw [mergeFor, mergeFor, hm, hd]

/-! ## The invariant -/

/-- What every count of the back ends of a session relies on: which device a back end resolves to, and that one that
holds its device can be merged. -/
structure Books (F : Hw) (md : Metadata) (P : Pool SessionObj) (c : Ctx) (l : List Aif) : Prop where
  fixed : c.hw.fixed = F
  sessMeta : c.sess.sessMeta = md
  pool : P.Grows sessionObjCreate c.pool
  merge : ∀ a ∈ l, a.isOpened → (mergeFor F md a).isSome

/-- The open counts are those of the back ends in `l`, and `K` more. -/
structure Balanced (F : Hw) (md : Metadata) (P : Pool SessionObj) (K : DevId → Int) (c : Ctx) (l : List Aif) :
    Prop extends Books F md P c l where
  count : ∀ o, c.hw.nOpen o = K o + countOn Aif.isOpened F o l

section

variable {F : Hw} {md : Metadata} {P : Pool SessionObj} {K : DevId → Int}

namespace Books

variable {c c' : Ctx} {l done todo : List Aif} {a b : Aif}

theorem mergedMetadata (h : Books F md P c l) (a : Aif) : mergedMetadata a c = mergeFor F md a := by
  have hb := congrArg Hw.build h.fixed
  have hb : c.hw.build = F.build := hb
  have hd := congrArg (fun hw : Hw => (hw.devs a.devObj).metadata) h.fixed
  have hd : (c.hw.devs a.devObj).metadata = (F.devs a.devObj).metadata := hd
  rw [Service.mergedMetadata, mergeFor, hb, hd, h.sessMeta]

theorem pcmObj (h : Books F md P c l) (d : DevId) : c.hw.pcmObj d = F.pcmObj d :=
  congrFun (Hw.pcmObj_of_fixed (show c.hw.fixed = F.fixed by rw [← h.fixed]; rfl)) d

/-- A back end that holds its device is not turned away for its metadata. -/
theorem isSome_mergedMetadata (h : Books F md P c l) (ha : a ∈ l) (ho : a.isOpened) {x : Aif}
    (hx : x.fixed = a.fixed) : (Service.mergedMetadata x c).isSome := by
  rw [h.mergedMetadata x, mergeFor_of_fixed hx]
  exact h.merge a ha ho

/-- One back end is replaced. -/
theorem turn (h : Books F md P c (done ++ a :: todo)) (s : c.AifStep c') (hb : b.fixed = a.fixed)
    (hm : b.isOpened → (mergeFor F md a).isSome) : Books F md P c' (done ++ b :: todo) := by
  refine ⟨s.hw.fixed.trans h.fixed, s.sessMeta.trans h.sessMeta, ?_, fun x hx hxo => ?_⟩
  · rw [s.pool]
    exact h.pool
  · rcases List.mem_append.1 hx with hx | hx
    · exact h.merge x (List.mem_append_left _ hx) hxo
    · rcases List.mem_cons.1 hx with rfl | hx
      · rw [mergeFor_of_fixed hb]
        exact hm hxo
      · exact h.merge x (List.mem_append_right _ (List.mem_cons_of_mem _ hx)) hxo

/-- A back end is added that holds nothing. -/
theorem append (h : Books F md P c l) (ha : ¬ a.isOpened) {s : SessionObj} (hs : s.sessMeta = c.sess.sessMeta) :
    Books F md P { c with sess := s } (l ++ [a]) := by
  refine ⟨h.fixed, hs.trans h.sessMeta, h.pool, fun x hx hxo => ?_⟩
  rcases List.mem_append.1 hx with hx | hx
  · exact h.merge x hx hxo
  · rw [List.mem_singleton.1 hx] at hxo
    exact absurd hxo ha

end Books

theorem frame_books : Frame (Books F md P) where
  sess _ _ _ h hm _ := ⟨h.fixed, hm.trans h.sessMeta, h.pool, h.merge⟩
  call _ _ _ h s _ :=
    ⟨s.hw.fixed.trans h.fixed, s.sessMeta.trans h.sessMeta, by rw [s.pool]; exact h.pool, h.merge⟩
  pool _ _ _ h hp := ⟨h.fixed, h.sessMeta, trans_of _ h.pool hp, h.merge⟩

namespace Balanced

variable {c : Ctx} {l : List Aif}

/-- **One turn**: one back end is replaced, and the counts move with what it holds. -/
theorem turn {done todo : List Aif} {a b : Aif} {c' : Ctx} (h : Balanced F md P K c (done ++ a :: todo))
    (s : c.AifStep c') (hb : b.fixed = a.fixed) (hm : b.isOpened → (mergeFor F md a).isSome)
    (hn : ∀ o, c'.hw.nOpen o = c.hw.nOpen o + b.on Aif.isOpened F o - a.on Aif.isOpened F o) :
    Balanced F md P K c' (done ++ b :: todo) := by
  refine ⟨h.toBooks.turn s hb hm, fun o => ?_⟩
  have h₁ := h.count o
  rw [countOn_split] at h₁ ⊢
  have h₂ := hn o
  omega

/-- A turn that moves no count and leaves what the back end holds. -/
theorem idle {done todo : List Aif} {a b : Aif} {c' : Ctx} (h : Balanced F md P K c (done ++ a :: todo))
    (s : c.AifStep c') (hb : b.fixed = a.fixed) (ho : b.isOpened = a.isOpened)
    (hn : ∀ o, c'.hw.nOpen o = c.hw.nOpen o) : Balanced F md P K c' (done ++ b :: todo) := by
  refine h.turn s hb (fun hbo => ?_) fun o => ?_
  · rw [ho] at hbo
    exact h.merge a (by simp) hbo
  · rw [hn, on_of_fixed hb ho]
    omega

end Balanced

theorem nOpen_of_core {hw hw' : Hw} (h : hw'.core = hw.core) (o : DevId) : hw'.nOpen o = hw.nOpen o := by
  have := congrArg (fun hw : Hw => hw.nOpen o) h
  exact this

/-- The counts and the back ends are untouched by preparing, starting and stopping. -/
theorem turns_balanced : Turns (Balanced F md P K) where
  sess c s l h hm hs := ⟨frame_books.sess c s l h.toBooks hm hs, h.count⟩
  call c c' l h s hcore :=
    ⟨frame_books.call c c' l h.toBooks s hcore, fun o => (nOpen_of_core hcore o).trans (h.count o)⟩
  pool c p l h hp := ⟨frame_books.pool c p l h.toBooks hp, h.count⟩
  prepare done a todo c h := by
    refine (sat_prepareAif a c).mono fun p c' h' => ?_
    obtain ⟨s, -, ⟨rfl, hst, -, hcore⟩ | ⟨ha, -, hcore⟩⟩ := h'
    · refine h.idle s rfl (isOpened_prepared hst) fun o => ?_
      rw [nOpen_of_core (hcore.trans (Hw.core_prepared a.devObj c.hw).symm) o, Hw.nOpen_prepared]
    · rw [ha]
      exact h.idle s rfl rfl (nOpen_of_core hcore)
  start done a todo c h := by
    refine (sat_startAif a c).mono fun p c' h' => ?_
    obtain ⟨s, -, ⟨rfl, hst, -, hcore⟩ | ⟨ha, -, -, hcore⟩⟩ := h'
    · refine h.idle s rfl (isOpened_started hst) fun o => ?_
      rw [nOpen_of_core (hcore.trans (Hw.core_started a.devObj c.hw).symm) o, Hw.nOpen_started]
    · rw [ha]
      exact h.idle s rfl rfl (nOpen_of_core hcore)
  stop done a todo state ret c h hstate := by
    refine (sat_stopAif state ret a c).mono fun p c' h' => ?_
    obtain ⟨s, -, ⟨hst, ha, hcore⟩ | ⟨-, ha, hcore⟩⟩ := h'
    · rw [ha]
      refine h.idle s rfl (isOpened_stopped hst hstate) fun o => ?_
      rw [nOpen_of_core (hcore.trans (Hw.core_stopped a.devObj c.hw).symm) o, Hw.nOpen_stopped]
    · rw [ha]
      exact h.idle s rfl rfl (nOpen_of_core hcore)

/-! ## Connecting and disconnecting -/

/-- A connect that fails leaves the counts. -/
theorem nOpen_of_failed_connect {hw hw' : Hw} {d : DevId}
    (h : hw'.core = hw.core ∨ hw'.core = (hw.core.opened d).closed d) (o : DevId) : hw'.nOpen o = hw.nOpen o := by
  rcases h with h | h
  · exact nOpen_of_core h o
  · have h₁ := congrArg (fun x : Hw => x.nOpen o) h
    have hback : ((hw.core.opened d).closed d).devs = hw.core.devs := Hw.devs_closed_opened
    have h₂ := congrArg (fun f : DevId → DeviceObj => (f o).refcnt.nOpen) hback
    exact h₁.trans h₂

/-- A back end that holds nothing yet takes one reference or none. -/
theorem balanced_connectToOpened {done todo : List Aif} {a : Aif} {n : Nat} {c : Ctx}
    (h : Balanced F md P K c (done ++ a :: todo)) (ha : ¬ a.isOpened) :
    Sat (connectToOpened a n) c fun p c' => Balanced F md P K c' (done ++ p.2 :: todo) := by
  refine Sat.bind (sat_sessionConnectAif a n c) fun p c₁ h₁ => ?_
  obtain ⟨s, hbase, h₁⟩ := h₁
  rw [sat_ite, sat_pure, sat_pure]
  rcases h₁ with ⟨hp, hm, hcore⟩ | ⟨hp, hcore⟩
  · refine ⟨fun hp' => absurd hp hp', fun _ => ?_⟩
    have hfix : ({ p.2 with state := .opened } : Aif).fixed = a.fixed :=
      Eq.trans (b := p.2.fixed) rfl (Aif.fixed_of_base hbase)
    refine h.turn s hfix (fun _ => ?_) fun o => ?_
    · rw [← h.mergedMetadata a]
      exact hm
    · have hn := nOpen_of_core (hcore.trans (Hw.core_opened a.devObj c.hw).symm) o
      have hdev := congrArg Aif.devObj hbase
      have hdev : p.2.devObj = a.devObj := hdev
      rw [hn, Hw.nOpen_opened, h.pcmObj, Aif.on_of_pos rfl, Aif.on_of_neg ha, hdev]
      omega
  · refine ⟨fun _ => ?_, fun hp' => absurd (Decidable.not_not.1 hp') hp⟩
    exact h.idle s (Aif.fixed_of_base hbase) (Aif.isOpened_of_base hbase) (nOpen_of_failed_connect hcore)

/-- The open counts after `session_disconnect_aif`: stopping the device does not show in them. -/
theorem sat_sessionDisconnectAif_nOpen (a : Aif) (n : Nat) (c : Ctx) :
    Sat (sessionDisconnectAif a n) c fun _ c' => c.AifStep c' ∧
      (((mergedMetadata a c).isNone ∧ ∀ o, c'.hw.nOpen o = c.hw.nOpen o) ∨
        ((mergedMetadata a c).isSome ∧ ∀ o, c'.hw.nOpen o = (c.hw.closed a.devObj).nOpen o)) := by
  refine (sat_sessionDisconnectAif a n c).mono fun r c' h' => ?_
  obtain ⟨s, -, ⟨hm, -, hcore⟩ | ⟨hm, hcore⟩⟩ := h'
  · exact ⟨s, .inl ⟨hm, nOpen_of_core hcore⟩⟩
  · refine ⟨s, .inr ⟨hm, fun o => ?_⟩⟩
    have hn := congrArg (fun hw : Hw => hw.nOpen o) hcore
    have hn : c'.hw.nOpen o = _ := hn
    rw [hn, Hw.nOpen_closed, Hw.nOpen_closed]
    split
    · rw [Hw.nOpen_stopped, Hw.core_nOpen, Hw.pcmObj_of_fixed (Hw.fixed_stopped _ _)]
      rfl
    · rfl

variable (hK : ∀ o, 0 ≤ K o)

include hK

/-- A back end that holds a PCM counts. -/
theorem Balanced.nOpen_pos {done todo : List Aif} {a : Aif} {c : Ctx}
    (h : Balanced F md P K c (done ++ a :: todo)) (ha : a.isOpened) : 0 < c.hw.nOpen (F.pcmObj a.devObj) := by
  have h₁ := h.count (F.pcmObj a.devObj)
  have h₂ := hK (F.pcmObj a.devObj)
  have h₃ := countOn_nonneg Aif.isOpened F (F.pcmObj a.devObj) (done ++ todo)
  have h₄ : a.on Aif.isOpened F (F.pcmObj a.devObj) = 1 := by simp [Aif.on, ha]
  rw [countOn_split] at h₁
  omega

/-- A back end that holds a PCM gives it back: it counts one less. -/
theorem Balanced.release {done todo : List Aif} {a b : Aif} {c c' : Ctx}
    (h : Balanced F md P K c (done ++ a :: todo)) (ha : a.isOpened) (hb : b.fixed = a.fixed) (hbo : ¬ b.isOpened)
    (s : c.AifStep c') (hn : ∀ o, c'.hw.nOpen o = (c.hw.closed a.devObj).nOpen o) :
    Balanced F md P K c' (done ++ b :: todo) := by
  have hpos := h.nOpen_pos hK ha
  refine h.turn s hb (fun h' => absurd h' hbo) fun o => ?_
  rw [hn, Hw.nOpen_closed, h.pcmObj, Aif.on_of_pos ha, Aif.on_of_neg hbo]
  by_cases ho : o = F.pcmObj a.devObj
  · rw [← ho] at hpos
    rw [if_pos ⟨ho, hpos.ne'⟩, if_pos ho]
    omega
  · rw [if_neg (fun h => ho h.1), if_neg ho]
    omega

/-- `session_disconnect_aif` gives one reference back, whatever state the back end was put in for it. -/
theorem balanced_sessionDisconnectAif {done todo : List Aif} {a x b : Aif} {n : Nat} {c : Ctx}
    (h : Balanced F md P K c (done ++ a :: todo)) (ha : a.isOpened) (hx : x.fixed = a.fixed) (hb : b.fixed = a.fixed)
    (hbo : ¬ b.isOpened) :
    Sat (sessionDisconnectAif x n) c fun _ c' => Balanced F md P K c' (done ++ b :: todo) := by
  refine (sat_sessionDisconnectAif_nOpen x n c).mono fun r c' h' => ?_
  obtain ⟨s, ⟨hm, -⟩ | ⟨-, hn⟩⟩ := h'
  · have hsome := h.isSome_mergedMetadata (a := a) (by simp) ha hx
    rw [Option.isNone_iff_eq_none.1 hm] at hsome
    cases hsome
  · have hdev := congrArg Aif.devObj hx
    have hdev : x.devObj = a.devObj := hdev
    rw [hdev] at hn
    exact h.release hK ha hb hbo s hn

theorem openTurns_balanced : OpenTurns (Balanced F md P K) where
  toFrame := turns_balanced.toFrame
  connect done a todo n c h _ ho := balanced_connectToOpened h (by simp [Aif.isOpened, ho, AifState.rank])
  disconnect done a todo ret c h _ := by
    unfold disconnectOpened
    rw [sat_ite, sat_pure]
    refine ⟨fun ho => ?_, fun _ => h⟩
    have ha : a.isOpened := by simp [Aif.isOpened, ho]
    refine Sat.bind (balanced_sessionDisconnectAif hK h ha rfl (b := { a with state := .open }) rfl
      (by simp [Aif.isOpened, AifState.rank])) fun r c₁ h₁ => ?_
    exact (sat_pure _ _ _).2 h₁

theorem balanced_sessionClose : Within (Inv (AtPool (Balanced F md P K))) sessionClose := by
  have hT : Turns (Balanced F md P K) := turns_balanced
  refine within_bind within_get fun c => within_ite (within_pure _) ?_
  refine within_bind (within_onlyIf hT.graphStop) fun _ => within_bind hT.graphClose fun ret => ?_
  refine within_bind (hT.modSess (fun _ => rfl) (fun _ => rfl) fun _ => id) fun _ => ?_
  have hclose : Within (Inv (AtPool (Balanced F md P K))) (mapEachAif closeAif ret) := by
    refine hT.mapEachAif (fun done a todo ret c h => ?_) ret
    refine (sat_closeAif ret a c).mono fun p c' h' => ?_
    obtain ⟨s, -, ⟨ha, hp, hcore⟩ | ⟨-, hp, hcore⟩⟩ := h'
    · rw [hp]
      refine h.release hK ha rfl (by simp [Aif.isOpened, AifState.rank]) s fun o => ?_
      exact nOpen_of_core (hcore.trans (Hw.core_closed a.devObj c.hw).symm) o
    · rw [hp]
      exact h.idle s rfl rfl (nOpen_of_core hcore)
  refine within_bind (within_onlyIf hclose) fun _ => within_bind (within_modify fun c h => ?_) fun _ => within_pure _
  exact ⟨⟨h.fixed, h.sessMeta, h.pool, h.merge⟩, h.count⟩

/-! ## The operations -/

omit hK in
/-- Connecting at a place of the list: on success the back end there holds its device. -/
theorem balanced_connectAt {i n : Nat} {c : Ctx} (hi : i < c.sess.aifPool.length)
    (h : AtPool (Balanced F md P K) c) (ha : ¬ (c.sess.aifAt i).isOpened) :
    Sat (connectAt i n) c fun r c' => AtPool (Balanced F md P K) c' ∧ c'.sess.state = c.sess.state ∧
      i < c'.sess.aifPool.length ∧ (r = 0 → (c'.sess.aifAt i).isOpened) := by
  have hT : Turns (Balanced F md P K) := turns_balanced
  obtain ⟨done, todo, hc, -, hback⟩ := hT.split hi h
  unfold connectAt
  rw [sat_bind, sat_get]
  have hopened : Sat (connectToOpened (c.sess.aifAt i) n) c fun p _ => p.1 = 0 → p.2.isOpened := by
    refine Sat.bind (sat_sessionConnectAif _ n c) fun p c₁ _ => ?_
    rw [sat_ite, sat_pure, sat_pure]
    exact ⟨fun hp h0 => absurd h0 hp, fun _ _ => rfl⟩
  refine Sat.bind (((balanced_connectToOpened hc ha).and (aifStep_connectToOpened _ n c)).and hopened) fun p c₁ h₁ => ?_
  obtain ⟨⟨hb, s⟩, ho⟩ := h₁
  rw [sat_bind, sat_modSess, sat_pure]
  have hi₁ : i < c₁.sess.aifPool.length := by
    rw [s.aifPool]
    exact hi
  refine ⟨hback p.2 c₁ s hb, s.state, ?_, fun h0 => ?_⟩
  · show i < (c₁.sess.aifPool.set i p.2).length
    rw [List.length_set]
    exact hi₁
  · show ((c₁.sess.setAif i p.2).aifAt i).isOpened
    rw [SessionObj.aifAt_setAif _ hi₁]
    exact ho h0

/-- Disconnecting at a place of the list, where a back end held its device. -/
theorem balanced_disconnectAt {i n : Nat} {c : Ctx} (hi : i < c.sess.aifPool.length)
    (h : AtPool (Balanced F md P K) c) (ha : (c.sess.aifAt i).isOpened) :
    Sat (sessionDisconnectAif ((c.sess.setAifState i .close).aifAt i) n)
      { c with sess := c.sess.setAifState i .close } fun _ c' => AtPool (Balanced F md P K) c' := by
  have hT : Turns (Balanced F md P K) := turns_balanced
  obtain ⟨done, todo, hc, hset, -⟩ := hT.split hi h
  rw [SessionObj.setAifState, SessionObj.aifAt_setAif _ hi]
  have hc₁ := hT.sess c (c.sess.setAif i { c.sess.aifAt i with state := .close }) _ hc rfl id
  refine ((balanced_sessionDisconnectAif hK hc₁ ha rfl (b := { c.sess.aifAt i with state := .close }) rfl
    (by simp [Aif.isOpened, AifState.rank])).and
    ((sat_sessionDisconnectAif _ n _).mono fun _ _ h => h.1)).mono fun r c' h' => ?_
  obtain ⟨hb, s⟩ := h'
  have heq := s.aifPool.trans (hset { c.sess.aifAt i with state := .close })
  unfold AtPool
  rw [heq]
  exact hb

theorem balanced_hotConnect {i n : Nat} {c : Ctx} (hi : i < c.sess.aifPool.length)
    (h : AtPool (Balanced F md P K) c)
    (hno : ¬ (c.sess.aifAt i).isOpened) :
    Sat (hotConnect i n) c fun _ c' => AtPool (Balanced F md P K) c' := by
  have hT : Turns (Balanced F md P K) := turns_balanced
  have hbody : Sat (hotConnectBody i n) c fun e c' => AtPool (Balanced F md P K) c' ∧
      (e.1 = .unwind → i < c'.sess.aifPool.length ∧ (c'.sess.aifAt i).isOpened) := by
    unfold hotConnectBody
    rw [sat_bind, sat_get, sat_ite]
    constructor
    · intro _
      rw [sat_bind, sat_modSess, sat_pure]
      obtain ⟨done, todo, hc, -, hback⟩ := hT.split hi h
      refine ⟨hback { c.sess.aifAt i with state := .open } c (refl_of Ctx.AifStep c) ?_, fun h => OpLabel.noConfusion h⟩
      exact hc.idle (refl_of Ctx.AifStep c) rfl (by simp [Aif.isOpened, AifState.rank] at hno ⊢; omega) fun _ => rfl
    · intro _
      refine Sat.bind (balanced_connectAt hi h hno) fun r c₁ h₁ => ?_
      obtain ⟨hb₁, -, hi₁, ho₁⟩ := h₁
      rw [sat_ite, sat_pure]
      refine ⟨fun _ => ⟨hb₁, fun h => OpLabel.noConfusion h⟩, fun hr => ?_⟩
      have ho₁ := ho₁ (Decidable.not_not.1 hr)
      rw [sat_ite, sat_pure]
      refine ⟨fun _ => ⟨hb₁, fun h => OpLabel.noConfusion h⟩, fun _ => ?_⟩
      -- from here on the back ends keep what they hold
      have hH := turns_holding (c₁.sess.aifPool.map Aif.holding)
      have hkeep {c₂ : Ctx} (hl : c₂.sess.aifPool.map Aif.holding = c₁.sess.aifPool.map Aif.holding) :
          i < c₂.sess.aifPool.length ∧ (c₂.sess.aifAt i).isOpened := by
        have := aifAt_of_holding hl i
        refine ⟨this.1 ▸ hi₁, ?_⟩
        rw [show (c₂.sess.aifAt i).isOpened = (c₁.sess.aifAt i).isOpened from congrArg Prod.snd this.2]
        exact ho₁
      refine Sat.bind ((within_inv.1 hT.sessionPrepare c₁ hb₁).and (within_inv.1 hH.sessionPrepare c₁ rfl))
        fun r c₂ h₂ => ?_
      rw [sat_ite, sat_pure]
      refine ⟨fun _ => ⟨h₂.1, fun _ => hkeep h₂.2⟩, fun _ => ?_⟩
      rw [sat_ite, sat_pure]
      refine ⟨fun _ => ?_, fun _ => ⟨h₂.1, fun h => OpLabel.noConfusion h⟩⟩
      refine Sat.bind ((within_inv.1 hT.sessionStart c₂ h₂.1).and (within_inv.1 hH.sessionStart c₂ h₂.2))
        fun r c₃ h₃ => ?_
      rw [sat_ite, sat_pure, sat_pure]
      exact ⟨fun _ => ⟨h₃.1, fun _ => hkeep h₃.2⟩, fun _ => ⟨h₃.1, fun h => OpLabel.noConfusion h⟩⟩
  refine Sat.bind hbody fun e c₁ h₁ => ?_
  cases he : e.1 with
  | done => exact (sat_pure _ _ _).2 h₁.1
  | unwind =>
    obtain ⟨hi₁, ho₁⟩ := h₁.2 he
    simp only [sat_bind, sat_modSess, sat_get]
    refine (balanced_disconnectAt hK hi₁ h₁.1 ho₁).mono fun _ c₂ h₂ => ?_
    exact (sat_pure _ _ _).2 h₂

omit hK in
/-- A back end that holds nothing goes to another state in which it holds nothing. -/
theorem balanced_setAifState {i : Nat} {state : AifState} {c : Ctx} (hi : i < c.sess.aifPool.length)
    (h : AtPool (Balanced F md P K) c) (ha : ¬ (c.sess.aifAt i).isOpened)
    (hs : state.rank < AifState.opened.rank) :
    AtPool (Balanced F md P K) { c with sess := c.sess.setAifState i state } := by
  obtain ⟨done, todo, hc, -, hback⟩ := turns_balanced.split hi h
  refine hback { c.sess.aifAt i with state := state } c (refl_of Ctx.AifStep c) ?_
  refine hc.idle (refl_of Ctx.AifStep c) rfl ?_ fun _ => rfl
  rw [Bool.not_eq_true] at ha
  rw [ha, Aif.isOpened]
  exact decide_eq_false (Nat.not_le.2 hs)

/-- What a disconnect must not meet: a back end that holds its device while the session is closed, and one that does
not hold it, of a PCM that somebody else has open. -/
def breaksDisconnect (a : Aif) (c : Ctx) : Bool :=
  if c.sess.state = .closed then a.isOpened
  else a.state = .open && (mergedMetadata a c).isSome && decide (c.hw.nOpen (c.hw.pcmObj a.devObj) ≠ 0)

omit hK in
/-- Disconnecting a back end that is only `AIF_OPEN`, where the guard leaves nothing to be given back. -/
theorem balanced_disconnectAt_open {i n : Nat} {c : Ctx} (hi : i < c.sess.aifPool.length)
    (h : AtPool (Balanced F md P K) c) (hnc : c.sess.state ≠ .closed) (ho : (c.sess.aifAt i).state = .open)
    (hguard : ¬ breaksDisconnect (c.sess.aifAt i) c) :
    Sat (sessionDisconnectAif ((c.sess.setAifState i .close).aifAt i) n)
      { c with sess := c.sess.setAifState i .close } fun _ c' => AtPool (Balanced F md P K) c' := by
  have ha : ¬ (c.sess.aifAt i).isOpened := by simp [Aif.isOpened, ho, AifState.rank]
  have hb := balanced_setAifState hi h ha (show AifState.close.rank < _ by decide)
  refine (sat_sessionDisconnectAif_nOpen _ n _).mono fun r c' h' => ?_
  rw [SessionObj.setAifState, SessionObj.aifAt_setAif _ hi] at h'
  obtain ⟨s, h'⟩ := h'
  have hn : ∀ o, c'.hw.nOpen o = c.hw.nOpen o := by
    rcases h' with ⟨-, hn⟩ | ⟨hm, hn⟩
    · exact hn
    · have hm : (mergedMetadata (c.sess.aifAt i) c).isSome := hm
      have hzero : c.hw.nOpen (c.hw.pcmObj (c.sess.aifAt i).devObj) = 0 := by
        rw [breaksDisconnect, if_neg hnc] at hguard
        simpa [ho, hm] using hguard
      intro o
      have hn : c'.hw.nOpen o = (c.hw.closed (c.sess.aifAt i).devObj).nOpen o := hn o
      rw [hn, Hw.nOpen_closed, if_neg (fun h => h.2 (h.1 ▸ hzero)), sub_zero]
  obtain ⟨done, todo, hc, hset, -⟩ := turns_balanced.split hi h
  have hc₁ := turns_balanced.sess c (c.sess.setAifState i .close) _ hc rfl id
  have heq := s.aifPool.trans (hset { c.sess.aifAt i with state := .close })
  unfold AtPool
  rw [heq]
  refine hc₁.idle s rfl ?_ hn
  simp [Aif.isOpened, ho, AifState.rank]

theorem balanced_hotDisconnect {i n : Nat} {c : Ctx} (hi : i < c.sess.aifPool.length)
    (h : AtPool (Balanced F md P K) c) (hrank : ¬ (c.sess.aifAt i).state.rank < AifState.open.rank)
    (hguard : ¬ breaksDisconnect (c.sess.aifAt i) c) :
    Sat (hotDisconnect i n) c fun _ c' => AtPool (Balanced F md P K) c' := by
  unfold hotDisconnect
  rw [sat_bind, sat_modSess, sat_bind, sat_get]
  have hdisc : Sat (onlyIf ((c.sess.setAifState i .close).state ≠ .closed)
      (sessionDisconnectAif ((c.sess.setAifState i .close).aifAt i) n))
      { c with sess := c.sess.setAifState i .close } fun _ c' => AtPool (Balanced F md P K) c' ∧
        c'.sess.aifPool = (c.sess.setAifState i .close).aifPool := by
    rw [sat_onlyIf]
    refine ⟨fun hnc => Sat.and ?_ ?_, fun hcl => ⟨?_, rfl⟩⟩
    · by_cases ha : (c.sess.aifAt i).isOpened
      · exact balanced_disconnectAt hK hi h ha
      · refine balanced_disconnectAt_open hi h hnc ?_ hguard
        unfold Aif.isOpened at ha
        cases hs : (c.sess.aifAt i).state <;> simp_all [AifState.rank]
    · exact (sat_sessionDisconnectAif _ n _).mono fun _ _ h => h.1.aifPool
    · refine balanced_setAifState hi h ?_ (by decide)
      have hcl : c.sess.state = .closed := Decidable.not_not.1 hcl
      rw [breaksDisconnect, if_pos hcl] at hguard
      exact hguard
  refine Sat.bind hdisc fun r c₁ h₁ => ?_
  rw [sat_ite, sat_pure, sat_bind, sat_modSess, sat_pure]
  refine ⟨fun _ => h₁.1, fun _ => ?_⟩
  have hi₁ : i < c₁.sess.aifPool.length := by
    rw [h₁.2]
    simpa [SessionObj.setAifState, SessionObj.setAif] using hi
  have hat : c₁.sess.aifAt i = { c.sess.aifAt i with state := .close } := by
    rw [SessionObj.aifAt, h₁.2]
    exact SessionObj.aifAt_setAif _ hi _
  refine balanced_setAifState hi₁ h₁.1 ?_ (by decide)
  rw [hat]
  simp [Aif.isOpened, AifState.rank]

/-- The operations after which the open counts may be off.  A connect must not meet a back end that is `AIF_OPENED`:
the test in `session_obj_sess_aif_connect` asks for a state above that one. -/
def breaksOpenCount (c : Ctx) : Op → Bool
  | .sessAifConnect aifId aifState =>
    match c.sess.aifPool.findIdx? (fun a => a.aifId = aifId) with
    | some i => if aifState then (c.sess.aifAt i).state = .opened else breaksDisconnect (c.sess.aifAt i) c
    | none => false
  | _ => false

theorem balanced_sessionObjSessAifConnect {aifId : Nat} {aifState : Bool} {c : Ctx}
    (h : AtPool (Balanced F md P K) c) (hguard : ¬ breaksOpenCount c (.sessAifConnect aifId aifState)) :
    Sat (sessionObjSessAifConnect aifId aifState) c fun _ c' => AtPool (Balanced F md P K) c' := by
  unfold sessionObjSessAifConnect
  refine Sat.bind (sat_aifObjGet aifId c) fun r c₁ h₁ => ?_
  cases r with
  | error e =>
    obtain ⟨-, rfl⟩ := h₁
    exact (sat_pure _ _ _).2 h
  | ok i =>
    obtain ⟨hi, h₁⟩ := h₁
    -- the back end was there and passes the guard, or it is new and holds nothing
    have key : AtPool (Balanced F md P K) c₁ ∧
        (aifState → (c₁.sess.aifAt i).state ≠ .opened) ∧ (¬ aifState → ¬ breaksDisconnect (c₁.sess.aifAt i) c₁) := by
      rcases h₁ with ⟨rfl, hf⟩ | ⟨hf, rfl, rfl⟩
      · rw [breaksOpenCount, hf] at hguard
        refine ⟨h, fun hs => ?_, fun hs => ?_⟩
        · simpa [hs] using hguard
        · simpa [hs] using hguard
      · have hnew : (c.sess.aifPool ++ [({ aifId := aifId, devObj := aifId } : Aif)]).getD c.sess.aifPool.length default
            = { aifId := aifId, devObj := aifId } := by simp
        have hno : ¬ ({ aifId := aifId, devObj := aifId } : Aif).isOpened := by simp [Aif.isOpened, AifState.rank]
        refine ⟨⟨h.toBooks.append hno rfl, fun o => ?_⟩, fun _ => ?_, fun _ => ?_⟩
        · rw [countOn_split, List.append_nil, Aif.on_of_neg hno, add_zero]
          exact h.count o
        · simp only [SessionObj.aifAt, hnew]
          exact fun h => AifState.noConfusion h
        · simp only [breaksDisconnect, SessionObj.aifAt, hnew]
          split <;> simp [Aif.isOpened, AifState.rank]
    obtain ⟨hb, hcon, hdis⟩ := key
    rw [sat_bind, sat_get, sat_ite, sat_pure, sat_ite]
    refine ⟨fun _ => hb, fun hrank => ⟨fun hs => ?_, fun hs => ?_⟩⟩
    · refine balanced_hotConnect hK hi hb fun ho => hrank (.inl ⟨hs, ?_⟩)
      exact Nat.lt_of_le_of_ne (of_decide_eq_true ho) fun h => hcon hs (AifState.eq_of_rank h.symm)
    · exact balanced_hotDisconnect hK hi hb (fun hr => hrank (.inr ⟨hs, hr⟩)) (hdis hs)

omit hK in
theorem balanced_sessionObjSetConfig (cfg : SessionConfig) (format : MediaFormat) :
    Within (Inv (AtPool (Balanced F md P K))) (sessionObjSetConfig cfg format) := by
  have hT : Turns (Balanced F md P K) := turns_balanced
  refine within_bind (hT.modSess (fun _ => rfl) (fun _ => rfl) fun _ => id) fun _ => within_ite (within_pure _) ?_
  refine within_bind (hT.modSess (fun _ => rfl) (fun _ => rfl) fun _ => id) fun _ => ?_
  refine within_bind within_get fun c => within_ite ?_ (within_pure _)
  cases c.sess.graph with
  | none => exact within_crash
  | some g => exact hT.graphStep (step_of_call (callFrame_graphCall.graphSetMediaConfigDatapath g))

end

/-! ## The service -/

/-- The operations the open counts are followed through. -/
def Op.movesOpenCount : Op → Bool
  | .setConfig _ _ => true
  | o => o.isLifecycle

/-- The devices resolve as what is fixed of them does. -/
theorem total_countOn_of_fixed {p : Aif → Bool} {hw hw' : Hw} (h : hw'.fixed = hw.fixed) {o : DevId}
    {P : Pool SessionObj} :
    (P.total fun s => countOn p hw' o s.aifPool) = P.total fun s => countOn p hw o s.aifPool := by
  unfold countOn Aif.on
  rw [Hw.pcmObj_of_fixed h]

/-- The open count of every PCM is the number of back ends that hold it, over all sessions. -/
def World.OpenCounted (w : World) : Prop :=
  ∀ o, w.hw.nOpen o = w.pool.total fun s => countOn Aif.isOpened w.hw o s.aifPool

/-- Every back end that holds its device can be merged. -/
def World.Mergeable (w : World) : Prop :=
  ∀ s ∈ w.pool.ids, ∀ a ∈ (w.pool.objs s).aifPool, a.isOpened →
    (mergeFor w.hw.fixed (w.pool.objs s).sessMeta a).isSome

/-- What the other sessions have. -/
def World.others (p : Aif → Bool) (w : World) (s : SessId) (o : DevId) : Int :=
  (w.pool.total fun s => countOn p w.hw.fixed o s.aifPool) - countOn p w.hw.fixed o (w.pool.objs s).aifPool

theorem World.others_nonneg (p : Aif → Bool) (w : World) {s : SessId} (hs : s ∈ w.pool.ids) (o : DevId) :
    0 ≤ w.others p s o := by
  have := w.pool.le_total hs (f := fun s => countOn p w.hw.fixed o s.aifPool) fun s => countOn_nonneg _ _ _ _
  unfold World.others
  omega

/-- The service with one session locked. -/
theorem World.books_lock {w : World} (hm : w.Mergeable) {s : SessId} (hs : s ∈ w.pool.ids) :
    AtPool (Books w.hw.fixed (w.pool.objs s).sessMeta w.pool) (w.lock s) :=
  ⟨rfl, rfl, refl_of _ w.pool, hm s hs⟩

theorem World.total_countOn (w : World) (p : Aif → Bool) (s : SessId) (o : DevId) :
    (w.pool.total fun s => countOn p w.hw o s.aifPool) =
      w.others p s o + countOn p w.hw.fixed o (w.pool.objs s).aifPool := by
  rw [total_countOn_of_fixed (show w.hw.fixed = w.hw.fixed.fixed from rfl), World.others]
  omega

namespace Books

variable {w : World} {s : SessId} {c : Ctx}

/-- The session is put back, and what holds a device can be merged. -/
theorem unlock (hm : w.Mergeable) (h : AtPool (Books w.hw.fixed (w.pool.objs s).sessMeta w.pool) c) :
    (World.unlock s c).Mergeable := by
  intro s' hs' a ha hao
  have hs' : s' ∈ c.pool.ids := hs'
  have hfix : c.hw.fixed = w.hw.fixed := h.fixed
  show (mergeFor c.hw.fixed ((c.pool.put s c.sess).objs s').sessMeta a).isSome
  have ha : a ∈ ((c.pool.put s c.sess).objs s').aifPool := ha
  rw [hfix]
  by_cases hss : s' = s
  · subst hss
    rw [Pool.put_objs_self] at ha ⊢
    rw [h.sessMeta]
    exact h.merge a ha hao
  · rw [Pool.put_objs_of_ne _ _ hss] at ha ⊢
    rcases h.pool.cases hs' with ⟨hmem, heq⟩ | ⟨-, heq⟩
    · rw [heq] at ha ⊢
      exact hm s' hmem a ha hao
    · rw [heq] at ha
      exact absurd ha List.not_mem_nil

/-- The count over all sessions when the session is put back. -/
theorem total_unlock (hs : s ∈ w.pool.ids) (p : Aif → Bool)
    (h : AtPool (Books w.hw.fixed (w.pool.objs s).sessMeta w.pool) c) (o : DevId) :
    ((World.unlock s c).pool.total fun t => countOn p (World.unlock s c).hw o t.aifPool) =
      w.others p s o + countOn p w.hw.fixed o c.sess.aifPool := by
  have hfix : c.hw.fixed = w.hw.fixed := h.fixed
  show ((c.pool.put s c.sess).total fun s => countOn p c.hw o s.aifPool) = _
  rw [total_countOn_of_fixed (show c.hw.fixed = w.hw.fixed.fixed from hfix), h.pool.total_put hs (fun _ => rfl),
    World.others]
  omega

end Books

theorem World.Mergeable.get {w : World} (h : w.Mergeable) (s : SessId) : (w.get s).Mergeable := by
  intro s' hs' a ha hao
  rcases Pool.getOrCreate_objs w.pool s (sessionObjCreate s) hs' with ⟨hmem, heq⟩ | ⟨-, -, heq⟩
  · have heq : (w.get s).pool.objs s' = w.pool.objs s' := heq
    rw [heq] at ha ⊢
    exact h s' hmem a ha hao
  · have heq : (w.get s).pool.objs s' = sessionObjCreate s := heq
    rw [heq] at ha
    exact absurd ha List.not_mem_nil

theorem World.total_countOn_get (w : World) (p : Aif → Bool) (s : SessId) (o : DevId) :
    ((w.get s).pool.total fun t => countOn p (w.get s).hw o t.aifPool) =
      w.pool.total fun s => countOn p w.hw o s.aifPool :=
  Pool.total_getOrCreate w.pool s rfl

/-- A service whose books balance, with one session locked. -/
theorem World.balanced_lock {w : World} (hc : w.OpenCounted) (hm : w.Mergeable) {s : SessId} (hs : s ∈ w.pool.ids) :
    AtPool (Balanced w.hw.fixed (w.pool.objs s).sessMeta w.pool (w.others Aif.isOpened s)) (w.lock s) :=
  ⟨World.books_lock hm hs, fun o => (hc o).trans (w.total_countOn Aif.isOpened s o)⟩

/-- The session is put back, and the books balance again. -/
theorem Balanced.unlock {w : World} {s : SessId} (hs : s ∈ w.pool.ids) (hm : w.Mergeable) {c : Ctx}
    (h : AtPool (Balanced w.hw.fixed (w.pool.objs s).sessMeta w.pool (w.others Aif.isOpened s)) c) :
    (World.unlock s c).OpenCounted ∧ (World.unlock s c).Mergeable :=
  ⟨fun o => (h.count o).trans (Books.total_unlock hs Aif.isOpened h.toBooks o).symm, Books.unlock hm h.toBooks⟩

/-- One operation keeps the books. -/
theorem openCounted_step {o : SessId × Op} {w w' : World} {r : Int} (h : exec o w = some (r, w'))
    (hw : w.OpenCounted ∧ w.Mergeable) (ho : o.2.movesOpenCount)
    (hguard : ¬ breaksOpenCount ((w.enter o).lock o.1) o.2) : w'.OpenCounted ∧ w'.Mergeable := by
  refine exec_inv (I := fun w => w.OpenCounted ∧ w.Mergeable) h hw
    ⟨fun d => (hw.1 d).trans (w.total_countOn_get Aif.isOpened o.1 d).symm, hw.2.get o.1⟩ fun hs hw₀ => ?_
  generalize w.enter o = w₀ at hs hw₀ hguard
  have hK := w₀.others_nonneg Aif.isOpened hs
  have hb := World.balanced_lock hw₀.1 hw₀.2 hs
  refine Sat.mono ?_ fun _ c hc => Balanced.unlock hs hw₀.2 hc
  obtain ⟨s, op⟩ := o
  cases op with
  | sessAifConnect aifId aifState => exact balanced_sessionObjSessAifConnect hK hb hguard
  | «open» mode => exact within_inv.1 ((openTurns_balanced hK).sessionObjOpen mode) _ hb
  | setConfig cfg format => exact within_inv.1 (balanced_sessionObjSetConfig cfg format) _ hb
  | prepare => exact within_inv.1 turns_balanced.sessionPrepare _ hb
  | start => exact within_inv.1 turns_balanced.sessionStart _ hb
  | stop => exact within_inv.1 turns_balanced.sessionStop _ hb
  | close => exact within_inv.1 (balanced_sessionClose hK) _ hb
  | _ => cases ho

/-- Where nothing is open, nothing that needs a device counts. -/
theorem World.Fresh.total_countOn {w : World} (h : w.Fresh) {p : Aif → Bool} (hp : ∀ a : Aif, p a → a.isOpened)
    (o : DevId) : (w.pool.total fun s => countOn p w.hw o s.aifPool) = 0 := by
  refine List.sum_eq_zero fun x hx => ?_
  obtain ⟨s, hs, rfl⟩ := List.mem_map.1 hx
  refine List.sum_eq_zero fun x hx => ?_
  obtain ⟨a, ha, rfl⟩ := List.mem_map.1 hx
  exact Aif.on_of_neg fun hpa => h.aifs s hs a ha (hp a hpa)

theorem World.Fresh.mergeable {w : World} (h : w.Fresh) : w.Mergeable :=
  fun s hs a ha hao => absurd hao (h.aifs s hs a ha)

theorem World.Fresh.openCounted {w : World} (h : w.Fresh) : w.OpenCounted ∧ w.Mergeable :=
  ⟨fun o => (h.devs o).trans (h.total_countOn (fun _ => id) o).symm, h.mergeable⟩

/-- **The open counts.**  In every state of every run of connects, disconnects, opens, prepares, starts, stops, closes
and configurations, on any sessions and with any answers of GSL and ALSA, the open count of each PCM is the number of
back ends that hold it — as long as no step connects a back end that holds its device already, disconnects one that
holds it while the session is closed, or disconnects one that does not hold it of a PCM that is open. -/
theorem nOpen_eq_holders {w₀ w : World} (h₀ : w₀.Fresh)
    (h : Runs exec (fun w o => o.2.movesOpenCount ∧ ¬ breaksOpenCount ((w.enter o).lock o.1) o.2) w₀ w) (o : DevId) :
    w.hw.nOpen o = w.pool.total fun s => countOn Aif.isOpened w.hw o s.aifPool := by
  have key : w.OpenCounted ∧ w.Mergeable :=
    h.invariant h₀.openCounted fun _ _ _ _ hw hg he => openCounted_step he hw hg.1 hg.2
  exact key.1 o

theorem nOpen_eq_holders_after_open :
    ∃ w, Runs exec (fun w o => o.2.movesOpenCount ∧ ¬ breaksOpenCount ((w.enter o).lock o.1) o.2)
      (World.boot fun _ => []) w ∧ w.hw.nOpen 0 = 1 ∧
        w.hw.nOpen 0 = w.pool.total fun s => countOn Aif.isOpened w.hw 0 s.aifPool := by
  obtain ⟨w, h, hn⟩ := Runs.exists_of_execAll exec
    (fun w o => o.2.movesOpenCount ∧ ¬ breaksOpenCount ((w.enter o).lock o.1) o.2)
    [(1, .sessAifConnect 0 true), (1, .open .default)] (World.boot fun _ => []) (fun w => w.hw.nOpen 0) (b := 1) rfl
  exact ⟨w, h, hn, nOpen_eq_holders (World.fresh_boot _) h 0⟩

/-- A back end that is connected twice after the open holds its device twice. -/
theorem nOpen_ne_holders_of_reconnect :
    (World.boot fun _ => []).Fresh ∧ ∃ w, Runs exec (fun _ o => o.2.movesOpenCount) (World.boot fun _ => []) w ∧
      w.hw.nOpen 0 = 2 ∧ (w.pool.total fun s => countOn Aif.isOpened w.hw 0 s.aifPool) = 1 := by
  refine ⟨World.fresh_boot _, ?_⟩
  obtain ⟨w, h, hn⟩ := Runs.exists_of_execAll exec (fun _ o => o.2.movesOpenCount)
    [(1, .sessAifConnect 0 true), (1, .open .default), (1, .sessAifConnect 0 true)] (World.boot fun _ => [])
    (fun w => (w.hw.nOpen 0, w.pool.total fun s => countOn Aif.isOpened w.hw 0 s.aifPool)) (b := (2, 1)) rfl
  exact ⟨w, h, (Prod.mk.inj hn).1, (Prod.mk.inj hn).2⟩

end Agm.Service
