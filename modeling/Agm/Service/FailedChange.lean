import Mathlib.Data.List.Basic
import Agm.Service.OpenResult

/-!
# What a failed change leaves of the module list

`graph_add` and `graph_change` bring the endpoint of a device into the module list, and configure the modules of a graph
that runs.  Any of the calls that they make can be refused, before the list is touched, after it, or between two modules.
-/

namespace Agm.Service

open Agm.Lib

/-! ## The list -/

def ModuleInfo.configured (m : ModuleInfo) : ModuleInfo := { m with isConfigured := true }
def ModuleInfo.unconfigured (m : ModuleInfo) : ModuleInfo := { m with isConfigured := false }

/-- A turn of a loop that sets the flag of the entries with `f`. -/
def ModuleInfo.mark (f : ModuleInfo → Bool) (m : ModuleInfo) : ModuleInfo := if f m then m.configured else m

/-- The list when a loop is left at place `k`. -/
def markedUpTo (f : ModuleInfo → Bool) (k : Nat) (l : List ModuleInfo) : List ModuleInfo :=
  (l.take k).map (ModuleInfo.mark f) ++ l.drop k

/-- The place of the module whose callback is refused, in a loop that calls back the entries with `calls`. -/
def refusedAt (calls : ModuleInfo → Bool) : List Int → List ModuleInfo → Option Nat
  | _, [] => none
  | answers, m :: ms =>
    if calls m then
      if answers.headD 0 ≠ 0 then some 0 else (refusedAt calls answers.tail ms).map (· + 1)
    else (refusedAt calls answers ms).map (· + 1)

/-- The place of the entry with an instance id. -/
def placeOf (miid : Nat) (l : List ModuleInfo) : Option Nat := l.findIdx? fun m => m.miid = miid

/-- **When a loop that is left at place `k` leaves the list as it was.**  The entries before that place whose flag it sets
had it set; and if an endpoint is brought in, it was in the list, and had its flag set only if the loop has come to it and
set it again. -/
def KeepsAt (f : ModuleInfo → Bool) (miid : Option Nat) (l : List ModuleInfo) (k : Nat) : Prop :=
  (∀ m ∈ l.take k, f m = true → m.isConfigured = true) ∧
    ∀ i ∈ miid, ∃ j m, placeOf i l = some j ∧ l[j]? = some m ∧
      (m.isConfigured = true → j < k ∧ f m.unconfigured = true)

section

variable {f : ModuleInfo → Bool} {m new : ModuleInfo} {l : List ModuleInfo} {k j : Nat}

@[simp] theorem markedUpTo_zero (f : ModuleInfo → Bool) (l : List ModuleInfo) : markedUpTo f 0 l = l := rfl

@[simp] theorem markedUpTo_succ (f : ModuleInfo → Bool) (k : Nat) (m : ModuleInfo) (l : List ModuleInfo) :
    markedUpTo f (k + 1) (m :: l) = m.mark f :: markedUpTo f k l := rfl

@[simp] theorem mark_miid (f : ModuleInfo → Bool) (m : ModuleInfo) : (m.mark f).miid = m.miid := by
  unfold ModuleInfo.mark
  split <;> rfl

theorem configured_eq_iff : m.configured = m ↔ m.isConfigured = true := by
  cases m
  simp [ModuleInfo.configured, eq_comm]

theorem unconfigured_eq_iff : m.unconfigured = m ↔ ¬ m.isConfigured = true := by
  cases m
  simp [ModuleInfo.unconfigured, eq_comm]

theorem mark_eq_iff : m.mark f = m ↔ (f m = true → m.isConfigured = true) := by
  unfold ModuleInfo.mark
  split
  · next h => rw [configured_eq_iff, imp_iff_right h]
  · next h => exact iff_of_true rfl fun hf => absurd hf h

/-- An entry that has lost its flag gets it back in its turn. -/
theorem mark_unconfigured_eq_iff : m.unconfigured.mark f = m ↔
    (f m = true → m.isConfigured = true) ∧ (m.isConfigured = true → f m.unconfigured = true) := by
  by_cases hc : m.isConfigured = true
  · have hm : m.unconfigured.configured = m := configured_eq_iff.2 hc
    unfold ModuleInfo.mark
    split
    · next hf => exact iff_of_true hm ⟨fun _ => hc, fun _ => hf⟩
    · next hf => exact iff_of_false (fun h => unconfigured_eq_iff.1 h hc) fun h => hf (h.2 hc)
  · have hm : m.unconfigured = m := unconfigured_eq_iff.2 hc
    rw [hm, mark_eq_iff]
    exact (and_iff_left fun h => absurd h hc).symm

theorem map_miid_markedUpTo (f : ModuleInfo → Bool) (k : Nat) (l : List ModuleInfo) :
    (markedUpTo f k l).map ModuleInfo.miid = l.map ModuleInfo.miid := by
  have hmark : ModuleInfo.miid ∘ ModuleInfo.mark f = ModuleInfo.miid := funext fun m => mark_miid f m
  rw [markedUpTo, List.map_append, List.map_map, hmark, ← List.map_append, List.take_append_drop]

theorem length_markedUpTo (f : ModuleInfo → Bool) (k : Nat) (l : List ModuleInfo) :
    (markedUpTo f k l).length = l.length := by
  have h := congrArg List.length (map_miid_markedUpTo f k l)
  rwa [List.length_map, List.length_map] at h

theorem markedUpTo_eq_iff : markedUpTo f k l = l ↔ ∀ m ∈ l.take k, f m = true → m.isConfigured = true := by
  induction l generalizing k with
  | nil => simp [markedUpTo]
  | cons m l ih =>
    cases k with
    | zero => simp
    | succ k => rw [markedUpTo_succ, List.cons.injEq, mark_eq_iff, ih, List.take_succ_cons, List.forall_mem_cons]

/-- The same where one entry has lost its flag before.  The induction is on the list, down to that entry. -/
theorem markedUpTo_set_eq_iff (hm : l[j]? = some m) : markedUpTo f k (l.set j m.unconfigured) = l ↔
    (∀ m ∈ l.take k, f m = true → m.isConfigured = true) ∧
      (m.isConfigured = true → j < k ∧ f m.unconfigured = true) := by
  induction l generalizing k j with
  | nil => cases hm
  | cons x l ih =>
    cases j with
    | zero =>
      obtain rfl : x = m := Option.some.inj hm
      rw [List.set_cons_zero]
      cases k with
      | zero => simp [unconfigured_eq_iff]
      | succ k =>
        rw [markedUpTo_succ, List.cons.injEq, mark_unconfigured_eq_iff, markedUpTo_eq_iff, List.take_succ_cons,
          List.forall_mem_cons]
        simp only [Nat.zero_lt_succ, true_and]
        exact and_right_comm
    | succ j =>
      have hm : l[j]? = some m := by simpa using hm
      rw [List.set_cons_succ]
      cases k with
      | zero =>
        have := ih (k := 0) hm
        simpa using this
      | succ k =>
        rw [markedUpTo_succ, List.cons.injEq, mark_eq_iff, ih hm, List.take_succ_cons, List.forall_mem_cons,
          Nat.succ_lt_succ_iff, and_assoc]

/-- Bringing in an endpoint that is in the list clears its flag. -/
theorem addHwEp_of_place (h : placeOf new.miid l = some j) :
    ∃ m, l[j]? = some m ∧ m.miid = new.miid ∧ addHwEp new l = l.set j m.unconfigured := by
  induction l generalizing j with
  | nil => cases h
  | cons x l ih =>
    rw [placeOf, List.findIdx?_cons] at h
    by_cases hx : x.miid = new.miid
    · rw [if_pos (decide_eq_true hx)] at h
      obtain rfl := Option.some.inj h
      exact ⟨x, rfl, hx, by rw [addHwEp, if_pos hx]; rfl⟩
    · rw [if_neg (by simpa using hx)] at h
      obtain ⟨i, hi, rfl⟩ := Option.map_eq_some_iff.1 h
      obtain ⟨m, hm, hid, hadd⟩ := ih hi
      refine ⟨m, by simpa using hm, hid, ?_⟩
      rw [addHwEp, if_neg hx, hadd]
      rfl

/-- One that is not is put at the end. -/
theorem addHwEp_of_absent (h : placeOf new.miid l = none) : addHwEp new l = l ++ [new] := by
  induction l with
  | nil => rfl
  | cons x l ih =>
    rw [placeOf, List.findIdx?_cons] at h
    by_cases hx : x.miid = new.miid
    · rw [if_pos (decide_eq_true hx)] at h
      cases h
    · rw [if_neg (by simpa using hx), Option.map_eq_none_iff] at h
      rw [addHwEp, if_neg hx, ih h]
      rfl

theorem placeOf_eq_none_iff {miid : Nat} : placeOf miid l = none ↔ miid ∉ l.map ModuleInfo.miid := by
  rw [placeOf, List.findIdx?_eq_none_iff]
  simp [eq_comm]

/-- Nothing else of the list is changed then. -/
theorem map_addHwEp {β : Type} {g : ModuleInfo → β} (hg : ∀ m, g m.unconfigured = g m)
    (h : new.miid ∈ l.map ModuleInfo.miid) : (addHwEp new l).map g = l.map g := by
  induction l with
  | nil => cases h
  | cons x l ih =>
    rw [addHwEp]
    split
    · exact congrArg (· :: l.map g) (hg x)
    · next hx =>
      rw [List.map_cons, List.map_cons, ih ((List.mem_cons.1 h).resolve_left fun heq => hx heq.symm)]

/-- After `graph_add` has brought in an endpoint. -/
theorem markedUpTo_addHwEp_iff : markedUpTo f k (addHwEp new l) = l ↔ KeepsAt f (some new.miid) l k := by
  unfold KeepsAt
  cases hplace : placeOf new.miid l with
  | none =>
    refine iff_of_false (fun h => ?_) fun h => ?_
    · have hlen := congrArg List.length h
      rw [length_markedUpTo, addHwEp_of_absent hplace, List.length_append, List.length_singleton] at hlen
      omega
    · obtain ⟨j, m, hj, -⟩ := h.2 _ rfl
      rw [hplace] at hj
      cases hj
  | some j =>
    obtain ⟨m, hm, -, hadd⟩ := addHwEp_of_place hplace
    rw [hadd, markedUpTo_set_eq_iff hm]
    refine and_congr_right fun _ => ⟨fun h i hi => ?_, fun h => ?_⟩
    · obtain rfl := Option.some.inj hi
      exact ⟨j, m, hplace, hm, h⟩
    · obtain ⟨j', m', hj', hm', h⟩ := h _ rfl
      obtain rfl : j = j' := Option.some.inj (hplace.symm.trans hj')
      obtain rfl : m = m' := Option.some.inj (hm.symm.trans hm')
      exact h

/-! ## The list of `graph_change` -/

/-- The entry is an endpoint with another instance id. -/
def ModuleInfo.isOtherHwEp (miid : Nat) (m : ModuleInfo) : Bool := m.tag.isHwEp && m.miid != miid

/-- The list that `graph_change` makes. -/
def changedList (new : ModuleInfo) (l : List ModuleInfo) : List ModuleInfo :=
  if new.miid ∈ l.map (·.miid) then (addHwEp new l).filter fun m => ! m.isOtherHwEp new.miid
  else l.filter (fun m => ! m.isOtherHwEp new.miid) ++ [new]

/-- After `graph_change` has brought in an endpoint: no other endpoint may have been in the list. -/
theorem markedUpTo_changedList_iff : markedUpTo f k (changedList new l) = l ↔
    (∀ m ∈ l, m.isOtherHwEp new.miid = false) ∧ KeepsAt f (some new.miid) l k := by
  unfold changedList
  by_cases hin : new.miid ∈ l.map ModuleInfo.miid
  · rw [if_pos hin]
    have hother := map_addHwEp (g := ModuleInfo.isOtherHwEp new.miid) (fun _ => rfl) hin
    have hlen : (addHwEp new l).length = l.length := by
      rw [← List.length_map (ModuleInfo.isOtherHwEp new.miid), hother, List.length_map]
    have hall : (∀ m ∈ addHwEp new l, m.isOtherHwEp new.miid = false) ↔ ∀ m ∈ l, m.isOtherHwEp new.miid = false := by
      have hmap (l : List ModuleInfo) : (∀ m ∈ l, m.isOtherHwEp new.miid = false) ↔
          ∀ b ∈ l.map (ModuleInfo.isOtherHwEp new.miid), b = false := by simp
      rw [hmap, hmap, hother]
    by_cases hkept : ∀ m ∈ l, m.isOtherHwEp new.miid = false
    · have hfilter : (addHwEp new l).filter (fun m => ! m.isOtherHwEp new.miid) = addHwEp new l :=
        List.filter_eq_self.2 fun m hm => by rw [hall.2 hkept m hm]; rfl
      rw [hfilter, markedUpTo_addHwEp_iff, and_iff_right hkept]
    · refine iff_of_false (fun h => hkept ?_) fun h => hkept h.1
      have hl := congrArg List.length h
      rw [length_markedUpTo, ← hlen, List.length_filter_eq_length_iff] at hl
      refine hall.1 fun m hm => ?_
      have := hl m hm
      simpa using this
  · rw [if_neg hin]
    refine iff_of_false (fun h => hin ?_) fun h => ?_
    · rw [← h, map_miid_markedUpTo, List.map_append]
      exact List.mem_append_right _ (List.mem_singleton.2 rfl)
    · obtain ⟨j, m, hj, -⟩ := h.2.2 _ rfl
      rw [placeOf_eq_none_iff.2 hin] at hj
      cases hj

end

/-! ## The loops -/

/-- `graph_add` calls back the entry. -/
def addCalls (hw : Hw) (m : ModuleInfo) : Bool :=
  !(m.isConfigured && m.tag ≠ .streamSpr) && !hwEpStarted m hw && m.tag.hasConfigure

/-- `graph_change` calls back the entry. -/
def changeCalls (hw : Hw) (m : ModuleInfo) : Bool :=
  match m.devObj with
  | none => false
  | some d => m.tag.hasConfigure && !m.isConfigured && decide (deviceGetStartRefcnt d hw = 0)

/-- The module list of the session. -/
def SessionObj.modList (s : SessionObj) : Option (List ModuleInfo) := s.graph.map GraphObj.taggedModList

theorem SessionObj.modList_configuring (m : ModuleInfo) (s : SessionObj) :
    SessionObj.modList { s with graph := s.graph.map (·.configuring m) } = s.modList := by
  simp [modList, Function.comp_def]

/-- The list that a loop leaves is stored. -/
theorem SessionObj.modList_store {s : SessionObj} {l : List ModuleInfo} (hs : s.modList = some l) (l' : List ModuleInfo) :
    SessionObj.modList { s with graph := s.graph.map fun g => { g with taggedModList := l' } } = some l' := by
  obtain ⟨g, hg, -⟩ := Option.map_eq_some_iff.1 hs
  rw [modList, hg]
  rfl

/-- The start counts of the devices are those of `hw`. -/
def Hw.SameStarts (hw hw' : Hw) : Prop := hw'.devs = hw.devs ∧ hw'.grps = hw.grps

theorem Hw.SameStarts.start {hw hw' : Hw} (h : hw.SameStarts hw') (d : DevId) :
    deviceGetStartRefcnt d hw' = deviceGetStartRefcnt d hw := by
  unfold deviceGetStartRefcnt
  rw [h.1, h.2]

theorem Hw.SameStarts.hwEpStarted {hw hw' : Hw} (h : hw.SameStarts hw') (m : ModuleInfo) :
    hwEpStarted m hw' = Service.hwEpStarted m hw := by
  unfold Service.hwEpStarted
  cases m.devObj with
  | none => rfl
  | some d => simp only [h.start d]

/-- A turn of a loop: an entry with `calls` is called back, with the next answer, and where that is not refused the flags
are set of the entries with `f`. -/
def ModTurns (hw : Hw) (calls f : ModuleInfo → Bool) (body : ModuleInfo → M (Int × ModuleInfo)) : Prop :=
  ∀ (m : ModuleInfo) (c : Ctx), hw.SameStarts c.hw → Sat (body m) c fun p c' =>
    hw.SameStarts c'.hw ∧ c'.sess.modList = c.sess.modList ∧
      if calls m then p.1 = (c.hw.env .configure).headD 0 ∧ c'.hw.env .configure = (c.hw.env .configure).tail ∧
        p.2 = if p.1 = 0 then m.mark f else m
      else p.1 = 0 ∧ c'.hw.env .configure = c.hw.env .configure ∧ p.2 = m.mark f

section

variable {hw : Hw} {calls f : ModuleInfo → Bool} {body : ModuleInfo → M (Int × ModuleInfo)}

/-- **The loops.**  A loop is left at the first refused callback.  The induction is on the list, with the answers that are
left. -/
theorem ModTurns.forEach (h : ModTurns hw calls f body) (l : List ModuleInfo) {c : Ctx} (hc : hw.SameStarts c.hw) :
    Sat (forEach body l) c fun p c' => c'.sess.modList = c.sess.modList ∧
      match refusedAt calls (c.hw.env .configure) l with
      | none => p.1 = 0
      | some k => p.1 ≠ 0 ∧ p.2 = markedUpTo f k l := by
  induction l generalizing c with
  | nil => exact (sat_pure _ _ _).2 ⟨rfl, rfl⟩
  | cons m l ih =>
    refine Sat.bind (h m c hc) fun p c₁ hp => ?_
    obtain ⟨hstarts, hsess, hturn⟩ := hp
    rw [refusedAt]
    by_cases hcalls : calls m = true
    · rw [if_pos hcalls] at hturn ⊢
      obtain ⟨hret, henv, hm⟩ := hturn
      rw [sat_ite, sat_pure, ← hret]
      refine ⟨fun hne => ?_, fun h0 => ?_⟩
      · rw [if_neg hne] at hm
        rw [if_pos hne, hm]
        exact ⟨hsess, hne, rfl⟩
      · have h0 := Decidable.not_not.1 h0
        rw [if_pos h0] at hm
        refine Sat.bind (ih hstarts) fun q c₂ hq => (sat_pure _ _ _).2 ⟨hq.1.trans hsess, ?_⟩
        rw [henv] at hq
        rw [if_neg (not_not.2 h0)]
        cases hrest : refusedAt calls (c.hw.env .configure).tail l with
        | none =>
          rw [hrest] at hq
          exact hq.2
        | some k =>
          rw [hrest] at hq
          exact ⟨hq.2.1, by rw [hm, hq.2.2]; rfl⟩
    · rw [if_neg hcalls] at hturn ⊢
      obtain ⟨h0, henv, hm⟩ := hturn
      rw [if_neg (not_not.2 h0)]
      refine Sat.bind (ih hstarts) fun q c₂ hq => (sat_pure _ _ _).2 ⟨hq.1.trans hsess, ?_⟩
      rw [henv] at hq
      cases hrest : refusedAt calls (c.hw.env .configure) l with
      | none =>
        rw [hrest] at hq
        exact hq.2
      | some k =>
        rw [hrest] at hq
        exact ⟨hq.2.1, by rw [hm, hq.2.2]; rfl⟩

end

/-- A callback uses up one answer. -/
theorem sat_configureModule (h : Handle) (m : ModuleInfo) (c : Ctx) : Sat (configureModule h m) c fun p c' =>
    c.hw.SameStarts c'.hw ∧ c'.sess.modList = c.sess.modList ∧ p.1 = (c.hw.env .configure).headD 0 ∧
      c'.hw.env .configure = (c.hw.env .configure).tail ∧ p.2 = if p.1 = 0 then m.configured else m := by
  rw [configureModule, sat_bind, sat_modGraph, sat_bind, sat_onHw, sat_ask, sat_ite, sat_pure, sat_pure]
  have hlist := SessionObj.modList_configuring m c.sess
  have henv : (c.hw.called (.configure h m.tag m.miid)).env .configure = (c.hw.env .configure).tail := by
    simp [Hw.called, Call.kind]
  refine ⟨fun hne => ⟨⟨rfl, rfl⟩, hlist, rfl, henv, (if_neg hne).symm⟩, fun h0 => ?_⟩
  exact ⟨⟨rfl, rfl⟩, hlist, (Decidable.not_not.1 h0).symm, henv, rfl⟩

/-- The loop of `graph_add` sets the flags of the entries with a callback. -/
theorem turns_addModule (hw : Hw) (h : Handle) :
    ModTurns hw (addCalls hw) (fun m => m.tag.hasConfigure) (addModule h) := by
  intro m c hc
  rw [addModule, sat_bind, sat_get]
  have hstarted := hc.hwEpStarted m
  by_cases hskip : m.isConfigured = true ∧ m.tag ≠ .streamSpr
  · have hcalls : ¬ addCalls hw m = true := by simp [addCalls, hskip]
    rw [if_pos hskip, sat_pure, if_neg hcalls]
    exact ⟨hc, rfl, rfl, rfl, (mark_eq_iff.2 fun _ => hskip.1).symm⟩
  · rw [if_neg hskip]
    by_cases hst : hwEpStarted m hw = true
    · have hcalls : ¬ addCalls hw m = true := by simp [addCalls, hst]
      have htag : m.tag.hasConfigure = true := by
        unfold hwEpStarted Tag.isHwEp at hst
        unfold Tag.hasConfigure
        cases htag : m.tag <;> simp [htag] at hst ⊢
      rw [hstarted, if_pos hst, sat_pure, if_neg hcalls]
      exact ⟨hc, rfl, rfl, rfl, (if_pos htag).symm⟩
    · rw [hstarted, if_neg hst]
      by_cases htag : m.tag.hasConfigure = true
      · have hcalls : addCalls hw m = true := by
          have hskip : (m.isConfigured && decide (m.tag ≠ .streamSpr)) = false := by simpa using hskip
          rw [addCalls, hskip]
          simp [hst, htag]
        rw [if_pos htag]
        refine (sat_configureModule h m c).mono fun p c' hp => ?_
        obtain ⟨hstarts, hsess, hret, henv, hm⟩ := hp
        rw [if_pos hcalls]
        exact ⟨⟨hstarts.1.trans hc.1, hstarts.2.trans hc.2⟩, hsess, hret, henv, by rw [hm, ModuleInfo.mark, if_pos htag]⟩
      · have hcalls : ¬ addCalls hw m = true := by simp [addCalls, htag]
        rw [if_neg htag, sat_pure, if_neg hcalls]
        exact ⟨hc, rfl, rfl, rfl, (if_neg htag).symm⟩

/-- The loop of `graph_change` sets the flags of the entries that it calls back. -/
theorem turns_changeModule (hw : Hw) (h : Handle) : ModTurns hw (changeCalls hw) (changeCalls hw) (changeModule h) := by
  intro m c hc
  rw [changeModule, sat_bind, sat_get]
  by_cases hcalls : changeCalls hw m = true
  · cases hdev : m.devObj with
    | none => simp [changeCalls, hdev] at hcalls
    | some d =>
      have hcond : m.tag.hasConfigure = true ∧ ¬ m.isConfigured = true ∧ deviceGetStartRefcnt d c.hw = 0 := by
        simpa [changeCalls, hdev, hc.start d, and_assoc] using hcalls
      dsimp only
      rw [if_pos hcond]
      refine (sat_configureModule h m c).mono fun p c' hp => ?_
      obtain ⟨hstarts, hsess, hret, henv, hm⟩ := hp
      rw [if_pos hcalls]
      exact ⟨⟨hstarts.1.trans hc.1, hstarts.2.trans hc.2⟩, hsess, hret, henv, by rw [hm, ModuleInfo.mark, if_pos hcalls]⟩
  · have hmark : m = m.mark (changeCalls hw) := (if_neg hcalls).symm
    cases hdev : m.devObj with
    | none =>
      rw [sat_pure, if_neg hcalls]
      exact ⟨hc, rfl, rfl, rfl, hmark⟩
    | some d =>
      have hcond : ¬ (m.tag.hasConfigure = true ∧ ¬ m.isConfigured = true ∧ deviceGetStartRefcnt d c.hw = 0) := by
        simpa [changeCalls, hdev, hc.start d, and_assoc] using hcalls
      dsimp only
      rw [if_neg hcond, sat_pure, if_neg hcalls]
      exact ⟨hc, rfl, rfl, rfl, hmark⟩

/-! ## Adding and changing -/

/-- The endpoint of a device, if one is given. -/
def broughtHwEp (md : Metadata) (dev : Option DevId) (hw : Hw) : Option ModuleInfo := dev.map fun d => hwEpModule md d hw

/-- GSL knows the module of the device. -/
def KnowsHwEp (md : Metadata) (dev : Option DevId) (hw : Hw) : Prop :=
  ∀ d ∈ dev, hw.answer (.taggedModuleInfo md.gkv (hwEpTag (hw.devs d))) = 0

instance (md : Metadata) (dev : Option DevId) (hw : Hw) : Decidable (KnowsHwEp md dev hw) :=
  inferInstanceAs (Decidable (∀ d ∈ dev, _ = _))

/-- Another call does not change what GSL knows. -/
theorem knowsHwEp_called {md : Metadata} {dev : Option DevId} {hw : Hw} {k : Call} (hk : k.kind ≠ .taggedModuleInfo) :
    KnowsHwEp md dev (hw.called k) ↔ KnowsHwEp md dev hw := by
  have hans (d : DevId) : (hw.called k).answer (.taggedModuleInfo md.gkv (hwEpTag ((hw.called k).devs d))) =
      hw.answer (.taggedModuleInfo md.gkv (hwEpTag (hw.devs d))) :=
    congrArg (fun l : List Int => l.headD 0) (if_neg hk.symm)
  unfold KnowsHwEp
  simp only [hans]

/-- What the endpoint, if there is one, makes of a list. -/
def bringInto (F : ModuleInfo → List ModuleInfo → List ModuleInfo) (new : Option ModuleInfo) (l : List ModuleInfo) :
    List ModuleInfo := new.elim l fun m => F m l

/-- The place at which `graph_add` leaves its loop, when it comes to it. -/
def addRefusedAt (c : Ctx) (g : GraphObj) (md : Metadata) (owner : Owner) (dev : Option DevId) : Option Nat :=
  if c.hw.answer (.addGraph g.handle owner md.gkv) = 0 ∧ KnowsHwEp md dev c.hw ∧
      (g.state = .started ∨ g.state = .prepared) then
    refusedAt (addCalls c.hw) (c.hw.env .configure) (bringInto addHwEp (broughtHwEp md dev c.hw) g.taggedModList)
  else none

/-- The place at which `graph_change` leaves its loop, when it has brought in the endpoint: the first one where the
command is refused. -/
def changeRefusedAt (c : Ctx) (g : GraphObj) (md : Metadata) (dev : Option DevId) : Option Nat :=
  if KnowsHwEp md dev c.hw then
    if c.hw.answer (.changeGraph g.handle md.gkv) ≠ 0 then some 0
    else refusedAt (changeCalls c.hw) (c.hw.env .configure)
      (bringInto changedList (broughtHwEp md dev c.hw) g.taggedModList)
  else none

/-- Where an error is returned, the module list is what it was. -/
def KeepsModList (m : M Int) (c : Ctx) : Prop := Sat m c fun r c' => r ≠ 0 → c'.sess.modList = c.sess.modList

/-- The part that `graph_add` and `graph_change` share: GSL is asked for the module of the device, which joins the list
by `F`. -/
def bringHwEp (F : ModuleInfo → List ModuleInfo → List ModuleInfo) (md : Metadata) (dev : Option DevId) : M Int :=
  match dev with
  | none => pure 0
  | some d => do
    let c ← get
    let ret ← onHw (askGsl (.taggedModuleInfo md.gkv (hwEpTag (c.hw.devs d))))
    if ret ≠ 0 then pure ret
    else do
      modGraph fun g => { g with taggedModList := F (hwEpModule md d c.hw) g.taggedModList }
      pure 0

theorem graphAddHwEp_eq (md : Metadata) (dev : Option DevId) : graphAddHwEp md dev = bringHwEp addHwEp md dev := by
  cases dev <;> rfl

theorem graphChangeModules_eq (md : Metadata) (dev : Option DevId) :
    graphChangeModules md dev = bringHwEp changedList md dev := by
  cases dev <;> rfl

section

variable {c : Ctx} {g : GraphObj} {md : Metadata} {owner : Owner} {dev : Option DevId}
  {F : ModuleInfo → List ModuleInfo → List ModuleInfo}

theorem sat_bringHwEp (hg : c.sess.graph = some g) : Sat (bringHwEp F md dev) c fun r c' =>
    c.hw.SameStarts c'.hw ∧ (∀ k ≠ .taggedModuleInfo, c'.hw.env k = c.hw.env k) ∧
      if KnowsHwEp md dev c.hw then
        r = 0 ∧ c'.sess.graph = some { g with taggedModList := bringInto F (broughtHwEp md dev c.hw) g.taggedModList }
      else r ≠ 0 ∧ c'.sess = c.sess := by
  cases dev with
  | none =>
    have hknows : KnowsHwEp md none c.hw := fun d hd => by cases hd
    refine (sat_pure _ _ _).2 ⟨⟨rfl, rfl⟩, fun _ _ => rfl, ?_⟩
    rw [if_pos hknows]
    exact ⟨rfl, hg⟩
  | some d =>
    have hknows : KnowsHwEp md (some d) c.hw ↔
        c.hw.answer (.taggedModuleInfo md.gkv (hwEpTag (c.hw.devs d))) = 0 := by simp [KnowsHwEp]
    have henv (k : Kind) (hk : k ≠ .taggedModuleInfo) :
        (c.hw.called (.taggedModuleInfo md.gkv (hwEpTag (c.hw.devs d)))).env k = c.hw.env k := if_neg hk
    rw [bringHwEp, sat_bind, sat_get, sat_bind, sat_onHw, sat_askGsl, sat_ite, sat_pure]
    refine ⟨fun hne => ⟨⟨rfl, rfl⟩, henv, ?_⟩, fun h0 => ?_⟩
    · rw [if_neg (fun h => hne ((arErrGetLnxErrCode_eq_zero_iff _).2 (hknows.1 h)))]
      exact ⟨hne, rfl⟩
    · have h0 := (arErrGetLnxErrCode_eq_zero_iff _).1 (Decidable.not_not.1 h0)
      rw [sat_bind, sat_modGraph, sat_pure]
      refine ⟨⟨rfl, rfl⟩, henv, ?_⟩
      rw [if_pos (hknows.2 h0), hg]
      exact ⟨rfl, rfl⟩

/-- What `graph_add` does to the list. -/
theorem sat_graphAdd_modList (hg : c.sess.graph = some g) : Sat (graphAdd md owner dev) c fun r c' =>
    match addRefusedAt c g md owner dev with
    | none => r = 0 ∨ c'.sess.modList = c.sess.modList
    | some k => r ≠ 0 ∧ c'.sess.modList = some (markedUpTo (fun m => m.tag.hasConfigure) k
        (bringInto addHwEp (broughtHwEp md dev c.hw) g.taggedModList)) := by
  refine sat_withGraph c (fun h0 => by rw [h0] at hg; cases hg) fun g' hg' => ?_
  obtain rfl : g = g' := Option.some.inj (hg.symm.trans hg')
  rw [sat_ite, sat_pure]
  refine ⟨fun hclosed => ?_, fun _ => ?_⟩
  · rw [show addRefusedAt c g md owner dev = none by simp [addRefusedAt, hclosed]]
    exact .inr rfl
  rw [sat_bind, sat_onHw, sat_askGsl, sat_ite, sat_pure]
  refine ⟨fun hne => ?_, fun h0 => ?_⟩
  · rw [Ne, arErrGetLnxErrCode_eq_zero_iff] at hne
    rw [show addRefusedAt c g md owner dev = none by simp [addRefusedAt, hne]]
    exact .inr rfl
  have hadd := (arErrGetLnxErrCode_eq_zero_iff _).1 (Decidable.not_not.1 h0)
  have hkind : (Call.addGraph g.handle owner md.gkv).kind ≠ .taggedModuleInfo := by simp [Call.kind]
  rw [graphAddModules, graphAddHwEp_eq]
  refine Sat.bind (sat_bringHwEp hg) fun r c₂ h₂ => ?_
  obtain ⟨hstarts, henv, h₂⟩ := h₂
  by_cases hknows : KnowsHwEp md dev c.hw
  · rw [if_pos ((knowsHwEp_called hkind).2 hknows)] at h₂
    obtain ⟨rfl, hg₂⟩ := h₂
    rw [if_neg (fun h => h rfl), sat_ite, sat_pure]
    refine ⟨fun hrun => ?_, fun hrun => ?_⟩
    · rw [sat_bind, sat_get, hg₂]
      refine Sat.bind ((turns_addModule c.hw g.handle).forEach _ hstarts) fun p c₃ h₃ => ?_
      rw [sat_bind, sat_modGraph, sat_pure]
      obtain ⟨hsess, h₃⟩ := h₃
      have hrefused : addRefusedAt c g md owner dev = refusedAt (addCalls c.hw) (c₂.hw.env .configure)
          (bringInto addHwEp (broughtHwEp md dev c.hw) g.taggedModList) := by
        rw [henv _ (by decide)]
        exact if_pos ⟨hadd, hknows, hrun⟩
      rw [Option.map_some, Option.getD_some] at h₃
      rw [hrefused]
      revert h₃
      show (match refusedAt (addCalls c.hw) (c₂.hw.env .configure)
        (bringInto addHwEp (broughtHwEp md dev c.hw) g.taggedModList) with | none => _ | some k => _) → _
      cases refusedAt (addCalls c.hw) (c₂.hw.env .configure)
          (bringInto addHwEp (broughtHwEp md dev c.hw) g.taggedModList) with
      | none => exact .inl
      | some k =>
        rintro ⟨hne, hlist⟩
        have hstored := SessionObj.modList_store (hsess.trans (congrArg (Option.map GraphObj.taggedModList) hg₂)) p.2
        exact ⟨hne, hstored.trans (congrArg some hlist)⟩
    · rw [show addRefusedAt c g md owner dev = none by simp [addRefusedAt, hrun]]
      exact .inl rfl
  · rw [if_neg (fun h => hknows ((knowsHwEp_called hkind).1 h))] at h₂
    rw [if_pos h₂.1, sat_pure, show addRefusedAt c g md owner dev = none by simp [addRefusedAt, hknows], h₂.2]
    exact .inr rfl

/-- What `graph_change` does to the list. -/
theorem sat_graphChange_modList (hg : c.sess.graph = some g) : Sat (graphChange md dev) c fun r c' =>
    match changeRefusedAt c g md dev with
    | none => r = 0 ∨ c'.sess.modList = c.sess.modList
    | some k => r ≠ 0 ∧ c'.sess.modList = some (markedUpTo (changeCalls c.hw) k
        (bringInto changedList (broughtHwEp md dev c.hw) g.taggedModList)) := by
  refine sat_withGraph c (fun h0 => by rw [h0] at hg; cases hg) fun g' hg' => ?_
  obtain rfl : g = g' := Option.some.inj (hg.symm.trans hg')
  rw [graphChangeModules_eq]
  refine Sat.bind (sat_bringHwEp hg) fun r c₂ h₂ => ?_
  obtain ⟨hstarts, henv, h₂⟩ := h₂
  by_cases hknows : KnowsHwEp md dev c.hw
  · rw [if_pos hknows] at h₂
    obtain ⟨rfl, hg₂⟩ := h₂
    have hans : c₂.hw.answer (.changeGraph g.handle md.gkv) = c.hw.answer (.changeGraph g.handle md.gkv) :=
      congrArg (fun l : List Int => l.headD 0) (henv _ nofun)
    rw [if_neg (fun h => h rfl), sat_bind, sat_onHw, sat_askGsl, sat_ite, sat_pure, hans]
    rw [Ne, arErrGetLnxErrCode_eq_zero_iff]
    refine ⟨fun hne => ?_, fun h0 => ?_⟩
    · rw [show changeRefusedAt c g md dev = some 0 by simp [changeRefusedAt, hknows, hne]]
      refine ⟨hne, ?_⟩
      rw [SessionObj.modList, hg₂]
      rfl
    · have h0 := Decidable.not_not.1 h0
      rw [sat_bind, sat_get, hg₂]
      refine Sat.bind ((turns_changeModule c.hw g.handle).forEach _ hstarts) fun p c₃ h₃ => ?_
      rw [sat_bind, sat_modGraph, sat_pure]
      obtain ⟨hsess, h₃⟩ := h₃
      have hconf : (c₂.hw.called (.changeGraph g.handle md.gkv)).env .configure = c.hw.env .configure :=
        henv _ (by decide)
      have hrefused : changeRefusedAt c g md dev = refusedAt (changeCalls c.hw) (c.hw.env .configure)
          (bringInto changedList (broughtHwEp md dev c.hw) g.taggedModList) := by
        rw [changeRefusedAt, if_pos hknows, if_neg (not_not.2 h0)]
      rw [hconf, Option.map_some, Option.getD_some] at h₃
      rw [hrefused]
      revert h₃
      show (match refusedAt (changeCalls c.hw) (c.hw.env .configure)
        (bringInto changedList (broughtHwEp md dev c.hw) g.taggedModList) with | none => _ | some k => _) → _
      cases refusedAt (changeCalls c.hw) (c.hw.env .configure)
          (bringInto changedList (broughtHwEp md dev c.hw) g.taggedModList) with
      | none => exact .inl
      | some k =>
        rintro ⟨hne, hlist⟩
        have hstored := SessionObj.modList_store (hsess.trans (congrArg (Option.map GraphObj.taggedModList) hg₂)) p.2
        exact ⟨hne, hstored.trans (congrArg some hlist)⟩
  · rw [if_neg hknows] at h₂
    rw [if_pos h₂.1, sat_pure, show changeRefusedAt c g md dev = none by simp [changeRefusedAt, hknows], h₂.2]
    exact .inr rfl

end

/-! ## When the list is kept -/

/-- **When a failed `graph_add` keeps the list.**  If a callback of its loop is refused, the loop that sets the flags of all
modules with a callback has not changed anything before it. -/
def AddKeeps (c : Ctx) (md : Metadata) (owner : Owner) (dev : Option DevId) : Prop :=
  ∀ g ∈ c.sess.graph, ∀ k ∈ addRefusedAt c g md owner dev,
    KeepsAt (fun m => m.tag.hasConfigure) ((broughtHwEp md dev c.hw).map ModuleInfo.miid) g.taggedModList k

/-- **When a failed `graph_change` keeps the list.**  If the command or a callback is refused, no endpoint has left the list,
and the loop has not changed anything before the refused callback. -/
def ChangeKeeps (c : Ctx) (md : Metadata) (dev : Option DevId) : Prop :=
  ∀ g ∈ c.sess.graph, ∀ k ∈ changeRefusedAt c g md dev,
    (∀ new ∈ broughtHwEp md dev c.hw, ∀ m ∈ g.taggedModList, m.isOtherHwEp new.miid = false) ∧
      KeepsAt (changeCalls c.hw) ((broughtHwEp md dev c.hw).map ModuleInfo.miid) g.taggedModList k

/-- A program that returns keeps the list when what it is known to leave is the list. -/
theorem keepsModList_iff {m : M Int} {c : Ctx} {g : GraphObj} (hg : c.sess.graph = some g) (hm : Total m)
    {refused : Option Nat} {left : Nat → List ModuleInfo} (hsat : Sat m c fun r c' => match refused with
      | none => r = 0 ∨ c'.sess.modList = c.sess.modList
      | some k => r ≠ 0 ∧ c'.sess.modList = some (left k)) :
    KeepsModList m c ↔ ∀ k ∈ refused, left k = g.taggedModList := by
  have hlist : c.sess.modList = some g.taggedModList := by
    rw [SessionObj.modList, hg]
    rfl
  constructor
  · rintro h k rfl
    obtain ⟨r, c', hrun⟩ := hm.exists c
    obtain ⟨hne, hleft⟩ := hsat r c' hrun
    exact Option.some.inj (hleft.symm.trans ((h r c' hrun hne).trans hlist))
  · intro h r c' hrun hne
    have hpost := hsat r c' hrun
    cases refused with
    | none => exact hpost.resolve_left hne
    | some k => rw [hpost.2, h k rfl, hlist]

/-- A session without a graph object has no list to lose. -/
theorem keepsModList_withGraph_none {f : GraphObj → M Int} {c : Ctx} (hg : c.sess.graph = none) :
    KeepsModList (withGraph f) c := by
  refine sat_withGraph c (fun _ _ => rfl) fun g h => ?_
  rw [hg] at h
  cases h

/-- **A failed change of a graph.**  For every session, metadata, device and pattern of failures, `graph_add` and
`graph_change` return an error with the module list as it was exactly under the two conditions. -/
theorem failedChange_keeps_iff (c : Ctx) (md : Metadata) (owner : Owner) (dev : Option DevId) :
    (KeepsModList (graphAdd md owner dev) c ↔ AddKeeps c md owner dev) ∧
      (KeepsModList (graphChange md dev) c ↔ ChangeKeeps c md dev) := by
  cases hg : c.sess.graph with
  | none =>
    refine ⟨iff_of_true (keepsModList_withGraph_none hg) ?_, iff_of_true (keepsModList_withGraph_none hg) ?_⟩
    · intro g h
      rw [hg] at h
      cases h
    · intro g h
      rw [hg] at h
      cases h
  | some g =>
    have hthe {P : GraphObj → Prop} : (∀ g ∈ c.sess.graph, P g) ↔ P g := by
      rw [hg]
      exact ⟨fun h => h g rfl, fun h g' hg' => Option.some.inj hg' ▸ h⟩
    rw [AddKeeps, ChangeKeeps, hthe, hthe]
    rw [keepsModList_iff hg (total_graphAdd md owner dev) (sat_graphAdd_modList hg)]
    rw [keepsModList_iff hg (total_graphChange md dev) (sat_graphChange_modList hg)]
    refine ⟨forall₂_congr fun k _ => ?_, forall₂_congr fun k _ => ?_⟩
    · cases hnew : broughtHwEp md dev c.hw with
      | none => rw [bringInto, Option.elim_none, markedUpTo_eq_iff]; simp [KeepsAt]
      | some new => exact markedUpTo_addHwEp_iff
    · cases hnew : broughtHwEp md dev c.hw with
      | none => rw [bringInto, Option.elim_none, markedUpTo_eq_iff]; simp [KeepsAt]
      | some new =>
        rw [bringInto, Option.elim_some, markedUpTo_changedList_iff]
        simp

/-- A started graph with a decoder and the endpoint of another device; GSL refuses `CHANGE_GRAPH`, or, after
`ADD_GRAPH`, the callback of the endpoint. -/
def halfChanged (kind : Kind) : Ctx where
  sess := { sessId := 1, graph := some { state := .started, handle := 0, taggedModList :=
    [{ tag := .streamPcmDecoder, mid := 7, miid := 50, isConfigured := true },
      { tag := .deviceHwEndpointRx, mid := 8, miid := 90, isConfigured := true, devObj := some 1 }] } }
  pool := ⟨[], sessionObjCreate, List.nodup_nil⟩
  hw := { numAudioIntfs := 2, devs := fun _ => {}, grps := fun _ => {}, env := fun k => if k = kind then [1] else [],
          acdb := ⟨fun _ => [], fun _ _ => (8, 91)⟩ }

theorem failedChange_loses :
    (∃ r c', graphChange {} (some 0) (halfChanged .changeGraph) = some (r, c') ∧ r ≠ 0 ∧
      c'.sess.modList = some
        [{ tag := .streamPcmDecoder, mid := 7, miid := 50, isConfigured := true },
          { tag := .deviceHwEndpointRx, mid := 8, miid := 91, devObj := some 0, gkv := some [] }]) ∧
    ¬ KeepsModList (graphChange {} (some 0)) (halfChanged .changeGraph) ∧
    ¬ KeepsModList (graphAdd {} (.aif 0) (some 0)) (halfChanged .configure) := by
  refine ⟨⟨_, _, rfl, by decide, rfl⟩, fun h => ?_, fun h => ?_⟩
  · exact absurd (h _ _ rfl (by decide)) (by decide)
  · exact absurd (h _ _ rfl (by decide)) (by decide)

end Agm.Service
