import Agm.Service.CachedParams

/-!
# What a setter was given is handed over once

The calls that carried an item, and the copies of it that are still cached, are counted over the whole service.  A
connect trades a copy for a call, an error label drops copies, and only the setters add one; so GSL is not handed an
item more often than the setters were.
-/

namespace Agm.Service

open Agm.Lib

/-! ## Counting -/

/-- The copies of `x` that are cached for the session and its back ends. -/
def SessionObj.copies (x : Item) (s : SessionObj) : Nat := x.inSess s + (s.aifPool.map x.inAif).sum

/-- The calls and the copies are at most `n`. -/
structure Bounded (x : Item) (n : Nat) (c : Ctx) (l : List Aif) : Prop where
  le : handed x c.hw.trace + x.inSess c.sess + (l.map x.inAif).sum ≤ n
  free : c.hw.Free x

section

variable {x : Item} {n : Nat} {c c' : Ctx} {l : List Aif}

theorem Item.inAif_of_spent {a : Aif} (h : a.Spent) : x.inAif a = 0 := by
  simp [Item.inAif, h.1, h.2]

theorem Item.inAif_le {a b : Aif} (hp : b.params = a.params ∨ b.params = none)
    (ht : b.tagConfig = a.tagConfig ∨ b.tagConfig = none) : x.inAif b ≤ x.inAif a := by
  unfold Item.inAif
  rcases hp with hp | hp <;> rcases ht with ht | ht <;> rw [hp, ht] <;> simp

theorem sum_split (f : Aif → Nat) (done : List Aif) (a : Aif) (todo : List Aif) :
    ((done ++ a :: todo).map f).sum = (done.map f).sum + f a + (todo.map f).sum := by
  simp [Nat.add_assoc]

theorem Bounded.replace {done todo : List Aif} {a b : Aif} (h : Bounded x n c (done ++ a :: todo))
    (hle : held x c' b ≤ held x c a) (hf : c'.hw.Free x) : Bounded x n c' (done ++ b :: todo) := by
  have hn := h.le
  rw [sum_split] at hn
  refine ⟨?_, hf⟩
  rw [sum_split]
  unfold held at hle
  omega

theorem cacheTurns_bounded (x : Item) (n : Nat) : CacheTurns (Bounded x n) where
  quiet c c' l h hp hh := by
    refine ⟨?_, h.free.of_devs fun d => .inl (hh.params d)⟩
    have hn := h.le
    unfold Item.inSess at hn ⊢
    rw [hh.handed x, hp]
    exact hn
  settle done a b todo c h hs := by
    refine h.replace ?_ h.free
    have : x.inAif b ≤ x.inAif a := Item.inAif_le (.inl hs.params) hs.tagConfig
    unfold held
    omega
  append aifId d c l h := by
    refine ⟨?_, h.free⟩
    have hn := h.le
    rw [List.map_append, List.sum_append, List.map_singleton, List.sum_singleton,
      Item.inAif_of_spent (a := { aifId := aifId, devObj := d }) ⟨rfl, rfl⟩]
    exact hn
  params d c l h := by
    refine (hands_sessionApplyAifDeviceParams d default c).mono fun _ c' h' => ?_
    refine ⟨?_, h.free.of_devs h'.1.devs⟩
    have hle := h'.1.items x h.free
    have hn := h.le
    unfold held at hle
    omega
  connect done a todo k c h := by
    refine (hands_connectToOpened a k c).mono fun p c' h' => ?_
    exact h.replace (h'.1.items x h.free) (h.free.of_devs h'.1.devs)

end

/-! ## One operation -/

/-- The client gave the operation the item, or the pause header is it. -/
def Op.gives (x : Item) : Op → Bool
  | .setSessParams p => .payload p = x
  | .setSessAifParams _ p => .payload p = x
  | .setSessAifParamsWithTag _ cfg => .tag cfg = x
  | .pause | .resume =>
    match x with
    | .payload [_, paramId, 0, 0] => paramId = softPauseParam true ∨ paramId = softPauseParam false
    | _ => false
  | _ => false

/-- A session without devices is opened while it has `x` cached: its open hands the parameters over and, where GSL
refuses them, keeps them for the next open. -/
def opensBare (x : Item) (c : Ctx) : Op → Bool
  | .open mode => c.sess.state = .closed && ! mode.hasDevices && c.sess.params.map .payload = some x
  | _ => false

section

variable {x : Item} {n : Nat} {c c' : Ctx}

theorem atPool_bounded : AtPool (Bounded x n) c ↔ handed x c.hw.trace + c.sess.copies x ≤ n ∧ c.hw.Free x := by
  unfold AtPool SessionObj.copies
  rw [← Nat.add_assoc]
  exact ⟨fun h => ⟨h.le, h.free⟩, fun h => ⟨h.1, h.2⟩⟩

theorem Bounded.mono {m : Nat} {l : List Aif} (h : Bounded x n c l) (hm : n ≤ m) : Bounded x m c l :=
  ⟨h.le.trans hm, h.free⟩

/-- A call that carries `y`, and copies that have become more by what was given. -/
theorem Bounded.handsOne {y : Item} {k : Nat} (h : AtPool (Bounded x n) c) (hh : c.hw.HandsOne y c'.hw)
    (hc : c'.sess.copies x + (if y = x then 1 else 0) ≤ c.sess.copies x + k) : AtPool (Bounded x (n + k)) c' := by
  obtain ⟨hn, hf⟩ := atPool_bounded.1 h
  refine atPool_bounded.2 ⟨?_, hf.of_devs fun d => .inl (hh.params d)⟩
  have := hh.handed x
  omega

theorem Bounded.copies {k : Nat} (h : AtPool (Bounded x n) c) (hhw : c'.hw = c.hw)
    (hc : c'.sess.copies x ≤ c.sess.copies x + k) : AtPool (Bounded x (n + k)) c' := by
  obtain ⟨hn, hf⟩ := atPool_bounded.1 h
  rw [atPool_bounded, hhw]
  refine ⟨?_, hf⟩
  omega

@[simp] theorem Item.inSess_forget (x : Item) (s : SessionObj) : x.inSess { s with params := none } = 0 :=
  if_neg (fun h => nomatch h)

/-- What a setter leaves of a payload that it was given. -/
theorem count_payload_le (x : Item) (p : Payload) :
    (if (if p = [] then none else some p).map Item.payload = some x then 1 else 0) ≤
      if Item.payload p = x then 1 else 0 := by
  by_cases hp : p = []
  · simp [hp]
  · simp [hp]

theorem SessionObj.copies_params_le (x : Item) (s : SessionObj) (p : Payload) :
    SessionObj.copies x { s with params := if p = [] then none else some p } ≤
      s.copies x + if Item.payload p = x then 1 else 0 := by
  have := count_payload_le x p
  unfold SessionObj.copies
  show (if (if p = [] then none else some p).map Item.payload = some x then 1 else 0) + (s.aifPool.map x.inAif).sum ≤ _
  omega

theorem SessionObj.copies_forget_le (x : Item) (s : SessionObj) :
    SessionObj.copies x { s with params := none } ≤ s.copies x := by
  unfold SessionObj.copies
  rw [Item.inSess_forget]
  show 0 + (s.aifPool.map x.inAif).sum ≤ _
  omega

theorem bounded_sessionOpenWithoutDevice (h : AtPool (Bounded x n) c) (hg : c.sess.params.map .payload ≠ some x) :
    Sat sessionOpenWithoutDevice c fun _ c' => AtPool (Bounded x n) c' := by
  have hJ := cacheTurns_bounded x n
  have hclose (r : Int) : Within (Inv (AtPool (Bounded x n))) (graphClose >>= fun _ => pure r) :=
    within_bind (hJ.step cacheStep_graphClose) fun _ => within_pure _
  unfold sessionOpenWithoutDevice
  rw [sat_bind, sat_get]
  refine Sat.bind (within_inv.1 (hJ.step (cacheStep_graphOpen _ _)) c h) fun r c₁ h₁ => ?_
  rw [sat_ite, sat_pure]
  refine ⟨fun _ => h₁, fun _ => ?_⟩
  refine Sat.bind (within_inv.1 (hJ.step cacheStep_graphRegisterCb) c₁ h₁) fun r c₂ h₂ => ?_
  rw [sat_ite]
  refine ⟨fun _ => within_inv.1 (hclose r) c₂ h₂, fun _ => ?_⟩
  cases hp : c.sess.params with
  | none => exact (sat_pure _ _ _).2 h₂
  | some p =>
    have hne : Item.payload p ≠ x := fun he => hg (by rw [hp, ← he]; rfl)
    refine Sat.bind (handsOne_graphSetConfig p c₂) fun r c₃ h₃ => ?_
    have h₃ : AtPool (Bounded x n) c₃ := Bounded.handsOne (k := 0) h₂ h₃.2 (by rw [h₃.1, if_neg hne])
    rw [sat_ite]
    refine ⟨fun _ => within_inv.1 (hclose r) c₃ h₃, fun _ => ?_⟩
    rw [sat_bind, sat_modSess, sat_pure]
    exact Bounded.copies (k := 0) h₃ rfl (SessionObj.copies_forget_le x _)

theorem bounded_graphPauseResume (b : Bool) (h : AtPool (Bounded x n) c) :
    Sat (graphPauseResume b) c fun _ c' => AtPool (Bounded x (n + if Op.pause.gives x then 1 else 0)) c' := by
  refine sat_withGraph c (fun _ => h.mono (Nat.le_add_right _ _)) fun g _ => ?_
  cases g.taggedModList.find? (fun m => m.tag = .pause) with
  | none => exact (sat_pure _ _ _).2 (h.mono (Nat.le_add_right _ _))
  | some m =>
    rw [sat_onHw, sat_askGsl]
    refine Bounded.handsOne (y := .payload [m.miid, softPauseParam b, 0, 0]) h (.of_called rfl (.inr rfl)) ?_
    refine Nat.add_le_add_left ?_ _
    split
    · rename_i he
      rw [← he]
      cases b <;> simp [Op.gives]
    · exact Nat.zero_le _

theorem bounded_setSessParams (payload : Payload) (h : AtPool (Bounded x n) c) :
    Sat (sessionObjSetSessParams payload) c fun _ c' =>
      AtPool (Bounded x (n + if Item.payload payload = x then 1 else 0)) c' := by
  unfold sessionObjSetSessParams
  rw [sat_bind, sat_modSess, sat_bind, sat_get, sat_ite, sat_pure]
  refine ⟨fun hnow => ?_, fun _ => Bounded.copies h rfl (SessionObj.copies_params_le x _ payload)⟩
  refine Sat.bind (handsOne_graphSetConfig payload _) fun r c₁ h₁ => ?_
  rw [sat_bind, sat_modSess, sat_pure]
  refine Bounded.handsOne h h₁.2 (Nat.add_le_add_right ?_ _)
  rw [h₁.1]
  exact SessionObj.copies_forget_le x c.sess

/-- One back end is written. -/
theorem SessionObj.copies_setAif_le {s : SessionObj} {i k : Nat} (hi : i < s.aifPool.length) {b : Aif}
    (hb : x.inAif b ≤ x.inAif (s.aifAt i) + k) : (s.setAif i b).copies x ≤ s.copies x + k := by
  obtain ⟨done, todo, hl, hset⟩ := exists_set_eq s.aifPool i default hi
  have hl : s.aifPool = done ++ s.aifAt i :: todo := hl
  have hold : (s.aifPool.map x.inAif).sum =
      (done.map x.inAif).sum + x.inAif (s.aifAt i) + (todo.map x.inAif).sum := by
    rw [← sum_split, ← hl]
  have hnew : ((s.setAif i b).aifPool.map x.inAif).sum =
      (done.map x.inAif).sum + x.inAif b + (todo.map x.inAif).sum := by
    rw [← sum_split, ← hset b]
    rfl
  have hsess : x.inSess (s.setAif i b) = x.inSess s := rfl
  unfold SessionObj.copies
  omega

theorem bounded_setSessAifParams (aifId : Nat) (payload : Payload) (h : AtPool (Bounded x n) c) :
    Sat (sessionObjSetSessAifParams aifId payload) c fun _ c' =>
      AtPool (Bounded x (n + if Item.payload payload = x then 1 else 0)) c' := by
  refine Sat.bind ((cacheTurns_bounded x n).aifObjGet h) fun r c₁ h₁ => ?_
  obtain ⟨h₁, -, hlt⟩ := h₁
  cases r with
  | error e => exact (sat_pure _ _ _).2 (h₁.mono (Nat.le_add_right _ _))
  | ok i =>
    have hi := hlt i rfl
    rw [sat_bind, sat_modSess, sat_bind, sat_get, sat_ite, sat_pure]
    refine ⟨fun hnow => ?_, fun _ => Bounded.copies h₁ rfl ?_⟩
    · refine Sat.bind (handsOne_graphSetConfig payload _) fun r c₂ h₂ => ?_
      rw [sat_bind, sat_modSess, sat_pure]
      refine Bounded.handsOne h₁ h₂.2 (Nat.add_le_add_right ?_ _)
      rw [h₂.1, SessionObj.setAifParams_twice _ hi]
      exact SessionObj.copies_setAif_le (k := 0) hi (Item.inAif_le (.inr rfl) (.inl rfl))
    · refine SessionObj.copies_setAif_le hi ?_
      have := count_payload_le x payload
      simp only [Item.inAif]
      omega

theorem bounded_setSessAifParamsWithTag (aifId : Option Nat) (cfg : TagConfig) (h : AtPool (Bounded x n) c) :
    Sat (sessionObjSetSessAifParamsWithTag aifId cfg) c fun _ c' =>
      AtPool (Bounded x (n + if Item.tag cfg = x then 1 else 0)) c' := by
  have hwait {c : Ctx} (h : AtPool (Bounded x n) c) : AtPool (Bounded x (n + if Item.tag cfg = x then 1 else 0)) c :=
    h.mono (Nat.le_add_right _ _)
  have htag (gkv : Gkv) {c : Ctx} (h : AtPool (Bounded x n) c) : Sat (graphSetConfigWithTag gkv cfg) c fun _ c' =>
      AtPool (Bounded x (n + if Item.tag cfg = x then 1 else 0)) c' := by
    refine (handsOne_graphSetConfigWithTag gkv cfg c).mono fun _ c' h' => Bounded.handsOne h h'.2 ?_
    rw [h'.1]
  cases aifId with
  | none =>
    show Sat (sessionObjSetSessAifParamsWithTag none cfg) c _
    unfold sessionObjSetSessAifParamsWithTag
    rw [sat_bind, sat_get, sat_ite, sat_pure]
    exact ⟨fun _ => hwait h, fun _ => htag _ h⟩
  | some aifId =>
    refine Sat.bind ((cacheTurns_bounded x n).aifObjGet h) fun r c₁ h₁ => ?_
    obtain ⟨h₁, -, hlt⟩ := h₁
    cases r with
    | error e => exact (sat_pure _ _ _).2 (hwait h₁)
    | ok i =>
      have hi := hlt i rfl
      rw [sat_bind, sat_get, sat_ite]
      refine ⟨fun _ => ?_, fun _ => ?_⟩
      · rw [sat_bind, sat_modSess, sat_pure]
        refine Bounded.copies h₁ rfl (SessionObj.copies_setAif_le hi ?_)
        simp only [Item.inAif, Option.map_some, Option.some.injEq]
        omega
      · rw [sat_ite, sat_pure]
        refine ⟨fun _ => hwait h₁, fun _ => ?_⟩
        cases mergedMetadata (c₁.sess.aifAt i) c₁ with
        | none => exact (sat_pure _ _ _).2 (hwait h₁)
        | some merged => exact htag _ h₁

/-- **An operation adds at most what it was given.** -/
theorem bounded_run {op : Op} (h : AtPool (Bounded x n) c) (hg : ¬ opensBare x c op) :
    Sat op.run c fun _ c' => AtPool (Bounded x (n + if op.gives x then 1 else 0)) c' := by
  have hJ := cacheTurns_bounded x n
  cases op with
  | «open» mode =>
    refine hJ.sessionObjOpen h fun hm hc => bounded_sessionOpenWithoutDevice ?_ fun hp => hg ?_
    · exact hJ.quiet c _ _ h rfl (refl_of Hw.HandsNone c.hw)
    · have hp : c.sess.params.map .payload = some x := hp
      simp [opensBare, hm, hc, hp]
  | pause =>
    show Sat sessionObjPause c _
    unfold sessionObjPause
    rw [sat_bind, sat_get, sat_ite, sat_pure]
    exact ⟨fun _ => h.mono (Nat.le_add_right _ _), fun _ => bounded_graphPauseResume true h⟩
  | resume => exact bounded_graphPauseResume false h
  | setSessParams payload =>
    refine (bounded_setSessParams payload h).mono fun _ c' h' => ?_
    simpa [Op.gives] using h'
  | setSessAifParams aifId payload =>
    refine (bounded_setSessAifParams aifId payload h).mono fun _ c' h' => ?_
    simpa [Op.gives] using h'
  | setSessAifParamsWithTag aifId cfg =>
    refine (bounded_setSessAifParamsWithTag aifId cfg h).mono fun _ c' h' => ?_
    simpa [Op.gives] using h'
  | _ => exact within_inv.1 (hJ.run rfl) c h

end

/-! ## Runs -/

/-- The calls that carried `x`, and the copies of it that are cached. -/
def World.uses (x : Item) (w : World) : Int := handed x w.hw.trace + w.pool.total fun s => s.copies x

/-- No session, back end or device has `x` cached. -/
def World.Unused (x : Item) (w : World) : Prop := w.hw.Free x ∧ ∀ s ∈ w.pool.ids, (w.pool.objs s).copies x = 0

theorem uses_step {x : Item} {o : SessId × Op} {w w' : World} {r : Int} (h : exec o w = some (r, w'))
    (hf : w.hw.Free x) (hg : ¬ opensBare x ((w.enter o).lock o.1) o.2) :
    w'.uses x ≤ w.uses x + (if o.2.gives x then 1 else 0 : Nat) ∧ w'.hw.Free x := by
  have hnew (s : SessId) : ((sessionObjCreate s).copies x : Int) = 0 := rfl
  refine exec_inv (I := fun w' => w'.uses x ≤ w.uses x + (if o.2.gives x then 1 else 0 : Nat) ∧ w'.hw.Free x) h
    ⟨by omega, hf⟩ ⟨?_, hf⟩ fun hs _ => ?_
  · unfold World.uses
    have := Pool.total_getOrCreate w.pool o.1 (f := fun s => (s.copies x : Int)) (hnew o.1)
    show (handed x w.hw.trace : Int) + (w.pool.getOrCreate o.1 (sessionObjCreate o.1)).total _ ≤ _
    omega
  · have hhw : (w.enter o).hw = w.hw := by
      unfold World.enter
      split <;> rfl
    have hstart : AtPool (Bounded x (handed x w.hw.trace + ((w.enter o).pool.objs o.1).copies x))
        ((w.enter o).lock o.1) := by
      refine atPool_bounded.2 ⟨?_, ?_⟩
      · show handed x (w.enter o).hw.trace + _ ≤ _
        rw [hhw]
        exact Nat.le_refl _
      · show (w.enter o).hw.Free x
        rw [hhw]
        exact hf
    refine ((bounded_run hstart hg).and (grows_run o.2 _)).mono fun _ c' h' => ?_
    obtain ⟨hb, hgrows⟩ := h'
    obtain ⟨hle, hfree⟩ := atPool_bounded.1 hb
    refine ⟨?_, hfree⟩
    have hput := hgrows.pool.total_put hs (f := fun s => (s.copies x : Int)) hnew c'.sess
    have henter := (w.grows_enter o).total (f := fun s => (s.copies x : Int)) hnew
    show (handed x c'.hw.trace : Int) + (c'.pool.put o.1 c'.sess).total _ ≤ _
    have hput : (c'.pool.put o.1 c'.sess).total (fun s => (s.copies x : Int)) =
        (w.enter o).pool.total (fun s => (s.copies x : Int)) +
          ((c'.sess.copies x : Int) - ((w.enter o).pool.objs o.1).copies x) := hput
    unfold World.uses
    rw [hput, henter]
    omega

theorem World.uses_of_unused {x : Item} {w : World} (h : w.Unused x) : w.uses x = handed x w.hw.trace := by
  have htotal : w.pool.total (fun s => (s.copies x : Int)) = 0 := by
    refine List.sum_eq_zero fun n hn => ?_
    obtain ⟨s, hs, rfl⟩ := List.mem_map.1 hn
    exact congrArg Int.ofNat (h.2 s hs)
  rw [World.uses, htotal, Int.add_zero]

theorem World.handed_le_uses (x : Item) (w : World) : (handed x w.hw.trace : Int) ≤ w.uses x := by
  have : 0 ≤ w.pool.total fun s => (s.copies x : Int) := by
    refine List.sum_nonneg fun n hn => ?_
    obtain ⟨s, -, rfl⟩ := List.mem_map.1 hn
    exact Int.natCast_nonneg _
  unfold World.uses
  omega

/-- **Cached parameters are used once.**  After every run of operations, whatever GSL and ALSA answer, an open session
has no parameters cached, and none of its back ends that is `AIF_OPENED` or above has parameters or a tagged
configuration cached — as long as no session that has such a back end is closed in a mode without devices.  And GSL was
not handed an item more often than the setters were given it, unless a session without devices was opened with it. -/
theorem cached_used_once {w₀ w : World} (h₀ : w₀.Fresh) (ops : List (SessId × Op)) :
    (execAll exec (fun w o => ¬ leavesBackEnds ((w.enter o).lock o.1) o.2) ops w₀ = some w →
      ∀ s ∈ w.pool.ids, (w.pool.objs s).state ≠ .closed → (w.pool.objs s).params = none ∧
        ∀ a ∈ (w.pool.objs s).aifPool, AifState.opened.rank ≤ a.state.rank → a.params = none ∧ a.tagConfig = none) ∧
    ∀ x, w₀.Unused x → execAll exec (fun w o => ¬ opensBare x ((w.enter o).lock o.1) o.2) ops w₀ = some w →
      handed x w.hw.trace ≤ handed x w₀.hw.trace + ops.countP fun o => o.2.gives x := by
  constructor
  · intro h
    have key : w.Each SessionObj.Drained := by
      refine (Runs.of_execAll _ _ h).invariant (fun s hs => ?_) fun w o r w' hw hg he => ?_
      · exact ⟨fun _ => h₀.graph s hs, fun _ => h₀.aifs s hs, fun hne => absurd (h₀.closed s hs) hne,
          fun a ha hao => absurd hao (h₀.aifs s hs a ha)⟩
      · exact hw.step SessionObj.drained_create he fun hφ => drained_run hφ hg
    intro s hs hne
    exact ⟨(key s hs).params hne, fun a ha hao => (key s hs).aifs a ha (decide_eq_true hao)⟩
  · intro x hx h
    have key := execAll_invariant exec _ (I := fun past w => w.uses x ≤ handed x w₀.hw.trace +
        (past.countP fun o => o.2.gives x : Nat) ∧ w.hw.Free x) h ?_ ?_
    · have := w.handed_le_uses x
      omega
    · exact ⟨by rw [World.uses_of_unused hx]; simp, hx.1⟩
    · intro past w o r w' hw hg he
      obtain ⟨hle, hfree⟩ := uses_step he hw.2 hg
      refine ⟨?_, hfree⟩
      have hcount : (past ++ [o]).countP (fun o => o.2.gives x) =
          past.countP (fun o => o.2.gives x) + if o.2.gives x then 1 else 0 := by
        simp [List.countP_append, List.countP_cons]
      rw [hcount]
      have := hw.1
      omega

/-- Parameters are cached for a back end and handed over by the open; a second open does not hand them over again. -/
theorem cached_used_once_after_open :
    ∃ ops w, execAll exec (fun _ _ => True) ops (World.boot fun _ => []) = some w ∧
      1 ∈ w.pool.ids ∧ (w.pool.objs 1).state = .opened ∧
      ((w.pool.objs 1).params = none ∧ ∀ a ∈ (w.pool.objs 1).aifPool, AifState.opened.rank ≤ a.state.rank →
        a.params = none ∧ a.tagConfig = none) ∧
      handed (.payload [7]) w.hw.trace = 1 ∧ handed (.payload [7]) w.hw.trace ≤
        handed (.payload [7]) (World.boot fun _ => []).hw.trace + ops.countP fun o => o.2.gives (.payload [7]) := by
  let ops : List (SessId × Op) := [(1, .sessAifConnect 0 true), (1, .setSessAifParams 0 [7]), (1, .open .default),
    (1, .close), (1, .sessAifConnect 0 true), (1, .open .default)]
  have hrun : (execAll exec (fun _ _ => True) ops (World.boot fun _ => [])).map
      (fun w => (decide (1 ∈ w.pool.ids), (w.pool.objs 1).state, handed (.payload [7]) w.hw.trace)) =
      some (true, .opened, 1) := by decide +kernel
  obtain ⟨w, h, hseen⟩ := Option.map_eq_some_iff.1 hrun
  have hseen : decide (1 ∈ w.pool.ids) = true ∧ (w.pool.objs 1).state = .opened ∧
      handed (.payload [7]) w.hw.trace = 1 := by simpa using hseen
  have hs := of_decide_eq_true hseen.1
  have hkept := execAll_of_isSome exec _ (fun w o => ¬ leavesBackEnds ((w.enter o).lock o.1) o.2) h (by decide +kernel)
  have hbare := execAll_of_isSome exec _ (fun w o => ¬ opensBare (.payload [7]) ((w.enter o).lock o.1) o.2) h
    (by decide +kernel)
  have hunused : (World.boot fun _ => []).Unused (.payload [7]) :=
    ⟨fun _ => (nomatch ·), fun _ hs => absurd hs List.not_mem_nil⟩
  obtain ⟨hopen, honce⟩ := cached_used_once (World.fresh_boot _) ops
  exact ⟨ops, w, h, hs, hseen.2.1, hopen hkept 1 hs (by rw [hseen.2.1]; decide), hseen.2.2,
    honce (.payload [7]) hunused hbare⟩

/-- A back end is connected to a session without devices, whose close leaves it `AIF_OPENED`; what is cached for it then
is still there when the session is opened again. -/
theorem cached_of_opened_after_close :
    (World.boot fun _ => []).Fresh ∧
      ∃ w, Runs exec (fun _ o => o.2.isLifecycle ∨ o.2 = .setSessAifParams 0 [7]) (World.boot fun _ => []) w ∧
        1 ∈ w.pool.ids ∧ (w.pool.objs 1).state = .opened ∧
        (w.pool.objs 1).aifPool.map (·.state) = [.opened] ∧ (w.pool.objs 1).aifPool.map (·.params) = [some [7]] := by
  refine ⟨World.fresh_boot _, ?_⟩
  obtain ⟨w, h, hseen⟩ := Runs.exists_of_execAll exec (fun _ o => o.2.isLifecycle ∨ o.2 = .setSessAifParams 0 [7])
    [(1, .open .nonTunnel), (1, .sessAifConnect 0 true), (1, .close), (1, .setSessAifParams 0 [7]),
      (1, .open .nonTunnel)] (World.boot fun _ => [])
    (fun w => (decide (1 ∈ w.pool.ids), (w.pool.objs 1).state, (w.pool.objs 1).aifPool.map (·.state),
      decide ((w.pool.objs 1).aifPool.map (·.params) = [some [7]])))
    (b := (true, .opened, [.opened], true)) (by decide +kernel)
  have hseen : decide (1 ∈ w.pool.ids) = true ∧ (w.pool.objs 1).state = .opened ∧
      (w.pool.objs 1).aifPool.map (·.state) = [.opened] ∧ (w.pool.objs 1).aifPool.map (·.params) = [some [7]] := by
    simpa using hseen
  exact ⟨w, h, of_decide_eq_true hseen.1, hseen.2⟩

end Agm.Service
