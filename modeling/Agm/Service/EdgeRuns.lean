import Agm.Service.EdgeFlags

/-!
# The edges after every run

The handles of a service are given out one after the other, so that no two sessions have the same graph and a graph that
is opened has no edges yet.  With this, what one operation keeps is kept by a run of operations on all sessions.
-/

namespace Agm.Service

open Agm.Lib

/-- The sessions have the edges their flags ask for, their graphs are apart, and a handle that was not given out yet has
no edges. -/
structure World.EdgesRight (w : World) : Prop where
  each : ∀ s ∈ w.pool.ids, (w.pool.objs s).EdgesRight w.hw.trace
  below : ∀ s ∈ w.pool.ids, ∀ h, (w.pool.objs s).handle = some h → h < w.hw.nextHandle
  apart : ∀ s ∈ w.pool.ids, ∀ t ∈ w.pool.ids, ∀ h,
    (w.pool.objs s).handle = some h → (w.pool.objs t).handle = some h → s = t
  fresh : ∀ h, w.hw.nextHandle ≤ h → edges w.hw.trace h = ∅
  removes : RemovesAdded w.hw.trace

namespace World

/-- Sessions that were just created have no graph. -/
theorem EdgesRight.grow {w : World} (hw : w.EdgesRight) {p : Pool SessionObj} (hp : w.pool.Grows sessionObjCreate p) :
    EdgesRight ⟨p, w.hw⟩ := by
  have hcases {s : SessId} (hs : s ∈ p.ids) {h : Handle} (hh : (p.objs s).handle = some h) :
      s ∈ w.pool.ids ∧ (w.pool.objs s).handle = some h := by
    rcases hp.cases hs with ⟨hm, he⟩ | ⟨-, he⟩
    · rw [he] at hh
      exact ⟨hm, hh⟩
    · rw [he] at hh
      cases hh
  refine ⟨fun s hs => ?_, fun s hs h hh => ?_, fun s hs t ht h hh hh' => ?_, hw.fresh, hw.removes⟩
  · show (p.objs s).EdgesRight _
    rcases hp.cases hs with ⟨hm, he⟩ | ⟨-, he⟩
    · rw [he]
      exact hw.each s hm
    · rw [he]
      exact ⟨fun _ => rfl, fun hne => absurd rfl hne⟩
  · exact hw.below s (hcases hs hh).1 h (hcases hs hh).2
  · exact hw.apart s (hcases hs hh).1 t (hcases ht hh').1 h (hcases hs hh).2 (hcases ht hh').2

/-- The other sessions are as they were, and so are the edges of their graphs. -/
theorem EdgesRight.unlock {w : World} (hw : w.EdgesRight) {s : SessId} (hs : s ∈ w.pool.ids) {c : Ctx}
    (hstep : (w.lock s).StaysRight c) (hgrows : (w.lock s).Grows c) : (World.unlock s c).EdgesRight := by
  obtain ⟨ht, hright⟩ := hstep
  have hgrown : EdgesRight ⟨c.pool, w.hw⟩ := hw.grow hgrows.pool
  have hself : (w.lock s).handle = (c.pool.objs s).handle := by
    rw [show c.pool.objs s = w.pool.objs s from hgrows.pool.objs hs]
    rfl
  have hmem : s ∈ c.pool.ids := hgrows.pool.mem hs
  -- the graph of another session is not that of `s`, and its edges are as they were
  have hother {t : SessId} (hts : t ≠ s) (htm : t ∈ c.pool.ids) {h : Handle} (hh : (c.pool.objs t).handle = some h) :
      (w.lock s).handle ≠ some h ∧ h < w.hw.nextHandle := by
    refine ⟨fun hs' => hts ?_, hgrown.below t htm h hh⟩
    exact hgrown.apart t htm s hmem h hh (hself ▸ hs')
  have hnew {t : SessId} (hts : t ≠ s) (htm : t ∈ c.pool.ids) {h : Handle} (hh : (c.pool.objs t).handle = some h) :
      c.handle ≠ some h := by
    intro hc
    rcases ht.handle with he | hn
    · exact (hother hts htm hh).1 (he ▸ hc)
    · exact Nat.lt_irrefl _ (Nat.lt_of_lt_of_le (hother hts htm hh).2 (hn h hc).1)
  have hobjs (t : SessId) : (World.unlock s c).pool.objs t = if t = s then c.sess else c.pool.objs t := rfl
  refine ⟨fun t htm => ?_, fun t htm h hh => ?_, fun t htm u hum h hh hh' => ?_, fun h hle => ?_, ?_⟩
  · rw [hobjs]
    split
    · exact hright
    · next hts =>
      have hold := hgrown.each t htm
      refine ⟨hold.closed, fun hne => (?_ : edgesOf c.hw.trace _ = _).trans (hold.edges hne)⟩
      cases hh : (c.pool.objs t).handle with
      | none => rfl
      | some h => exact ht.others h (hother hts htm hh).1 (.inl (hother hts htm hh).2)
  · rw [hobjs] at hh
    split at hh
    · rcases ht.handle with he | hn
      · have hold : (c.pool.objs s).handle = some h := by
          rw [← hself, ← he]
          exact hh
        exact Nat.lt_of_lt_of_le (hgrown.below s hmem h hold) ht.next
      · exact (hn h hh).2
    · next hts => exact Nat.lt_of_lt_of_le (hother hts htm hh).2 ht.next
  · rw [hobjs] at hh hh'
    split at hh
    · next hts =>
      split at hh'
      · next hus => rw [hts, hus]
      · next hus => exact absurd hh (hnew hus hum hh')
    · next hts =>
      split at hh'
      · exact absurd hh' (hnew hts htm hh)
      · exact hgrown.apart t htm u hum h hh hh'
  · have hle' : c.hw.nextHandle ≤ h := hle
    refine (ht.others h (fun hs' => ?_) (.inr hle')).trans (hw.fresh h (Nat.le_trans ht.next hle'))
    have hlt := hw.below s hs h hs'
    exact Nat.lt_irrefl _ (Nat.lt_of_lt_of_le hlt (Nat.le_trans ht.next hle'))
  · exact ht.removes hw.removes

theorem EdgesRight.step {w w' : World} {o : SessId × Op} {r : Int} (hw : w.EdgesRight)
    (hg : ¬ losesEdge ((w.enter o).lock o.1) o.2) (h : exec o w = some (r, w')) : w'.EdgesRight := by
  refine exec_inv h hw (hw.grow (Pool.grows_getOrCreate _ _)) fun hs hw₀ => ?_
  refine ((edges_run (hw₀.each o.1 hs) hw₀.fresh hg).and (grows_run o.2 _)).mono fun _ c hc => ?_
  exact hw₀.unlock hs hc.1 hc.2

end World

/-- **The edges of every session.**  In every state of every run of operations, whatever GSL and ALSA answer, the edges
in the graph of a session that is not closed are exactly the one of its echo reference and the one of its loopback, each
if its flag is set, and no edge was asked to be removed but one that had been added — as long as no operation of the run
meets `losesEdge`. -/
theorem edges_right {w₀ w : World} (h₀ : w₀.Fresh) (ht : w₀.hw.trace = [])
    (h : Runs exec (fun w o => ¬ losesEdge ((w.enter o).lock o.1) o.2) w₀ w) :
    RemovesAdded w.hw.trace ∧ ∀ s ∈ w.pool.ids, (w.pool.objs s).state ≠ .closed →
      edgesOf w.hw.trace (w.pool.objs s).handle =
        keptEdge .ecRef (w.pool.objs s).ecRefAifId (w.pool.objs s).ecRefState ∪
          keptEdge .loopback (w.pool.objs s).loopbackSessId (w.pool.objs s).loopbackState := by
  have hstart : w₀.EdgesRight := by
    have hnone {s : SessId} (hs : s ∈ w₀.pool.ids) {h : Handle} (hh : (w₀.pool.objs s).handle = some h) : False := by
      rw [SessionObj.handle, h₀.graph s hs] at hh
      cases hh
    refine ⟨fun s hs => ⟨fun _ => h₀.graph s hs, fun hne => absurd (h₀.closed s hs) hne⟩,
      fun s hs h hh => (hnone hs hh).elim, fun s hs t _ h hh _ => (hnone hs hh).elim, fun h _ => ?_, ?_⟩
    · rw [ht]
      rfl
    · rw [ht]
      trivial
  have key : w.EdgesRight := h.invariant hstart fun w o r w' hw hg he => hw.step hg he
  exact ⟨key.removes, fun s hs hne => (key.each s hs).edges hne⟩

/-- A session with an echo reference that was asked for before the open, and a loopback asked for afterwards. -/
theorem edges_right_both :
    ∃ w, Runs exec (fun w o => ¬ losesEdge ((w.enter o).lock o.1) o.2) (World.boot fun _ => []) w ∧
      1 ∈ w.pool.ids ∧ (w.pool.objs 1).state = .opened ∧
      edgesOf w.hw.trace (w.pool.objs 1).handle = {.ecRef 2, .loopback 2} ∧ RemovesAdded w.hw.trace := by
  obtain ⟨w, h, hseen⟩ := Runs.exists_of_execAll exec (fun w o => ¬ losesEdge ((w.enter o).lock o.1) o.2)
    [(2, .sessAifConnect 1 true), (2, .open .default), (1, .sessAifConnect 0 true), (1, .setEcRef 2 true),
      (1, .open .default), (1, .setLoopback 2 true)] (World.boot fun _ => [])
    (fun w => (decide (1 ∈ w.pool.ids), (w.pool.objs 1).state, (w.pool.objs 1).keptEdges))
    (b := (true, .opened, (2, true), 2, true)) (by decide +kernel)
  have hseen : decide (1 ∈ w.pool.ids) = true ∧ (w.pool.objs 1).state = .opened ∧
      (w.pool.objs 1).keptEdges = ((2, true), (2, true)) := by simpa using hseen
  obtain ⟨hs, hst, hkept⟩ := hseen
  obtain ⟨hremoves, hedges⟩ := edges_right (World.fresh_boot _) rfl h
  have hs := of_decide_eq_true hs
  refine ⟨w, h, hs, hst, (hedges 1 hs (by rw [hst]; decide)).trans ?_, hremoves⟩
  simp only [SessionObj.keptEdges, Prod.mk.injEq] at hkept
  obtain ⟨⟨h₁, h₂⟩, h₃, h₄⟩ := hkept
  rw [h₁, h₂, h₃, h₄]
  rfl

/-- A second echo reference is added beside the first; and one is removed that was never added. -/
theorem edges_wrong : (World.boot fun _ => []).Fresh ∧ (World.boot fun _ => []).hw.trace = [] ∧
    (∃ w, Runs exec (fun _ o => o.2.isLifecycle ∨ o.2.setsEdge) (World.boot fun _ => []) w ∧ 1 ∈ w.pool.ids ∧
      (w.pool.objs 1).state = .opened ∧ edgesOf w.hw.trace (w.pool.objs 1).handle = {.ecRef 2, .ecRef 3} ∧
      (w.pool.objs 1).wantedEdges = {.ecRef 3}) ∧
    ∃ w, Runs exec (fun _ o => o.2.isLifecycle ∨ o.2.setsEdge) (World.boot fun _ => []) w ∧
      ¬ RemovesAdded w.hw.trace := by
  refine ⟨World.fresh_boot _, rfl, ?_, ?_⟩
  · obtain ⟨w, h, hseen⟩ := Runs.exists_of_execAll exec (fun _ o => o.2.isLifecycle ∨ o.2.setsEdge)
      [(1, .sessAifConnect 0 true), (1, .open .default), (1, .setEcRef 2 true), (1, .setEcRef 3 true)]
      (World.boot fun _ => []) (fun w => (decide (1 ∈ w.pool.ids), (w.pool.objs 1).state,
        edgesOf w.hw.trace (w.pool.objs 1).handle, (w.pool.objs 1).wantedEdges))
      (b := (true, .opened, {.ecRef 2, .ecRef 3}, {.ecRef 3})) (by decide +kernel)
    have hseen : decide (1 ∈ w.pool.ids) = true ∧ (w.pool.objs 1).state = .opened ∧
        edgesOf w.hw.trace (w.pool.objs 1).handle = {.ecRef 2, .ecRef 3} ∧
        (w.pool.objs 1).wantedEdges = {.ecRef 3} := by simpa using hseen
    exact ⟨w, h, of_decide_eq_true hseen.1, hseen.2⟩
  · obtain ⟨w, h, hseen⟩ := Runs.exists_of_execAll exec (fun _ o => o.2.isLifecycle ∨ o.2.setsEdge)
      [(1, .sessAifConnect 0 true), (1, .open .default), (1, .setEcRef 3 false)] (World.boot fun _ => [])
      (fun w => (w.hw.trace.head?.map Event.call, decide (Owner.ecRef 0 ∈ edges w.hw.trace.tail (0 : Nat))))
      (b := (some (.removeGraph (0 : Nat) (.ecRef 0) []), false)) (by decide +kernel)
    obtain ⟨hcall, hmem⟩ := Prod.mk.inj hseen
    refine ⟨w, h, fun hremoves => of_decide_eq_false hmem ?_⟩
    revert hcall hremoves
    cases w.hw.trace with
    | nil => exact fun hcall => nomatch hcall
    | cons e past => exact fun hcall hremoves => hremoves.1 _ _ _ (Option.some.inj hcall) rfl

end Agm.Service
