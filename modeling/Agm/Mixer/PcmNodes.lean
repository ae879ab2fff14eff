import Mathlib.Data.List.Chain
import Agm.Mixer.Events

/-!
# The PCM devices of a card

`amp_get_pcm_info` goes over the PCM and compress nodes of the card definition twice for each direction: once to count the
nodes it allocates for, once to fill the lists.  The two loops test the value of the property differently, and both keep
the value of the node before where a node does not have the property.
-/

namespace Agm.Mixer

open Agm.Lib Agm.Parser CString

/-- The property of the direction is there, and not 0. -/
def propSet (dir : CString) (dev : SndDevDef) : Bool := (sndCardDefGetInt dev dir).any (· ≠ 0)

/-- The item of a node. -/
def pcmItem (dev : SndDevDef) : PcmItem := ⟨dev.name, dev.device⟩

/-- No more is written than was allocated, and the list is `ZERO` and the nodes with the property, in order. -/
def PcmListRight (dir : CString) (devs : List SndDevDef) : Prop :=
  (ampCreatePcmInfoFromCard dir devs).length ≤ countPcms dir 0 devs + 1 ∧
    ampCreatePcmInfoFromCard dir devs = ⟨some "ZERO".toList, 0⟩ :: (devs.filter (propSet dir)).map pcmItem

/-- **When the loops agree.**  The values of the property are 0 and 1, and a node with the property set is not followed by
one that does not have it. -/
def PropsPlain (dir : CString) (devs : List SndDevDef) : Prop :=
  (∀ dev ∈ devs, ∀ v ∈ sndCardDefGetInt dev dir, v = 0 ∨ v = 1) ∧
    devs.IsChain fun dev next => propSet dir dev = true → sndCardDefGetInt next dir ≠ none

section

variable {dir : CString} {dev : SndDevDef} {devs : List SndDevDef} {val : Int}

/-! ## One node -/

theorem pcmItems_none (h : sndCardDefGetInt dev dir = none) :
    pcmItems dir val (dev :: devs) =
      if val = 0 then pcmItems dir val devs else pcmItem dev :: pcmItems dir val devs := by
  rw [pcmItems, h]
  rfl

theorem pcmItems_some {v : Int} (h : sndCardDefGetInt dev dir = some v) :
    pcmItems dir val (dev :: devs) = if v = 0 then pcmItems dir v devs else pcmItem dev :: pcmItems dir v devs := by
  rw [pcmItems, h]
  rfl

theorem propSet_none (h : sndCardDefGetInt dev dir = none) : propSet dir dev = false := by
  rw [propSet, h]
  rfl

theorem propSet_some {v : Int} (h : sndCardDefGetInt dev dir = some v) : propSet dir dev = decide (v ≠ 0) := by
  rw [propSet, h]
  rfl

/-! ## The two loops -/

/-- At most what is filled in is counted. -/
theorem countPcms_le (dir : CString) (val : Int) (devs : List SndDevDef) :
    countPcms dir val devs ≤ (pcmItems dir val devs).length := by
  induction devs generalizing val with
  | nil => exact Nat.le_refl _
  | cons dev devs ih =>
    rw [countPcms, pcmItems]
    generalize (sndCardDefGetInt dev dir).getD val = v
    have := ih v
    by_cases h0 : v = 0
    · rw [if_pos h0, if_neg (by omega)]
      omega
    · rw [if_neg h0, List.length_cons]
      split <;> omega

/-- At least the nodes with the property are filled in. -/
theorem length_filter_le (dir : CString) (val : Int) (devs : List SndDevDef) :
    (devs.filter (propSet dir)).length ≤ (pcmItems dir val devs).length := by
  induction devs generalizing val with
  | nil => exact Nat.le_refl _
  | cons dev devs ih =>
    cases hget : sndCardDefGetInt dev dir with
    | none =>
      rw [pcmItems_none hget, List.filter_cons_of_neg (by simp [propSet_none hget])]
      split
      · exact ih val
      · exact (ih val).trans (Nat.le_succ _)
    | some v =>
      rw [pcmItems_some hget]
      by_cases h0 : v = 0
      · rw [if_pos h0, List.filter_cons_of_neg (by simp [propSet_some hget, h0])]
        exact ih v
      · rw [if_neg h0, List.filter_cons_of_pos (by simp [propSet_some hget, h0])]
        exact Nat.succ_le_succ (ih v)

/-- What is filled in is right when no value is kept for a node that does not have the property.  The induction is on the
nodes, with the value the loop comes with. -/
theorem pcmItems_eq_iff : pcmItems dir val devs = (devs.filter (propSet dir)).map pcmItem ↔
    (val ≠ 0 → ∀ next ∈ devs.head?, sndCardDefGetInt next dir ≠ none) ∧
      devs.IsChain fun dev next => propSet dir dev = true → sndCardDefGetInt next dir ≠ none := by
  induction devs generalizing val with
  | nil => simp [pcmItems]
  | cons dev devs ih =>
    rw [List.isChain_cons]
    cases hget : sndCardDefGetInt dev dir with
    | none =>
      have hset := propSet_none hget
      rw [pcmItems_none hget, List.filter_cons_of_neg (by simp [hset])]
      by_cases h0 : val = 0
      · rw [if_pos h0, ih, h0]
        simp [hset]
      · rw [if_neg h0]
        constructor
        · intro heq
          have hlen := congrArg List.length heq
          have hle := length_filter_le dir val devs
          rw [List.length_cons, List.length_map] at hlen
          omega
        · intro h
          exact absurd hget (h.1 h0 dev rfl)
    | some v =>
      have hset := propSet_some hget
      rw [pcmItems_some hget]
      by_cases h0 : v = 0
      · rw [if_pos h0, List.filter_cons_of_neg (by simp [hset, h0]), ih, h0]
        simp [hset, h0, hget]
      · rw [if_neg h0, List.filter_cons_of_pos (by simp [hset, h0]), List.map_cons, List.cons_inj_right, ih]
        simp [hset, h0, hget]

/-- Where no value is kept, enough is counted when the values are 0 and 1. -/
theorem length_le_countPcms_iff (hval : val ≠ 0 → ∀ next ∈ devs.head?, sndCardDefGetInt next dir ≠ none)
    (hchain : devs.IsChain fun dev next => propSet dir dev = true → sndCardDefGetInt next dir ≠ none) :
    (pcmItems dir val devs).length ≤ countPcms dir val devs ↔
      ∀ dev ∈ devs, ∀ v ∈ sndCardDefGetInt dev dir, v = 0 ∨ v = 1 := by
  induction devs generalizing val with
  | nil => simp [pcmItems]
  | cons dev devs ih =>
    rw [List.isChain_cons] at hchain
    rw [countPcms, List.forall_mem_cons]
    cases hget : sndCardDefGetInt dev dir with
    | none =>
      obtain rfl : val = 0 := by
        by_contra h0
        exact hval h0 dev rfl hget
      rw [pcmItems_none hget, if_pos rfl]
      simp [ih (fun h0 => absurd rfl h0) hchain.2]
    | some v =>
      have hnext : v ≠ 0 → ∀ next ∈ devs.head?, sndCardDefGetInt next dir ≠ none := by
        intro h0 next hmem
        exact hchain.1 next hmem (by rw [propSet_some hget]; exact decide_eq_true h0)
      have hrest := ih hnext hchain.2
      have hcount := countPcms_le dir v devs
      rw [pcmItems_some hget]
      by_cases h0 : v = 0
      · rw [if_pos h0, hrest.symm]
        simp [h0]
      · rw [if_neg h0, List.length_cons, Option.getD_some]
        by_cases h1 : v = 1
        · rw [← hrest]
          simp [h1]
          omega
        · rw [if_neg h1]
          constructor
          · omega
          · intro h
            exact absurd (h.1 v rfl) (by omega)

/-- For one direction. -/
theorem pcmListRight_iff (dir : CString) (devs : List SndDevDef) : PcmListRight dir devs ↔ PropsPlain dir devs := by
  unfold PcmListRight PropsPlain ampCreatePcmInfoFromCard
  rw [List.length_cons, Nat.add_le_add_iff_right, List.cons_inj_right, pcmItems_eq_iff]
  have hzero : (0 : Int) ≠ 0 → ∀ next ∈ devs.head?, sndCardDefGetInt next dir ≠ none := fun h => absurd rfl h
  constructor
  · rintro ⟨hlen, -, hchain⟩
    exact ⟨(length_le_countPcms_iff hzero hchain).1 hlen, hchain⟩
  · rintro ⟨hvals, hchain⟩
    exact ⟨(length_le_countPcms_iff hzero hchain).2 hvals, hzero, hchain⟩

end

/-- **The lists of PCM devices.**  For every card the lists of both directions are right, and within what was allocated
for them, exactly when the values of both properties are 0 and 1 and no node that has one of them set is followed by a
node without it. -/
theorem pcmLists_right_iff (card : SndDevDefCard) :
    (PcmListRight "playback".toList (card.pcmDevs ++ card.comprDevs) ∧
      PcmListRight "capture".toList (card.pcmDevs ++ card.comprDevs)) ↔
    (PropsPlain "playback".toList (card.pcmDevs ++ card.comprDevs) ∧
      PropsPlain "capture".toList (card.pcmDevs ++ card.comprDevs)) :=
  and_congr (pcmListRight_iff _ _) (pcmListRight_iff _ _)

/-- A playback node with the given value for its property. -/
def playbackNode (val : CString) : SndDevDef :=
  { nodeType := .pcm, device := 100, propVals := [("playback".toList, val)] }

/-- A compress node with nothing but a capture property. -/
def captureNode : SndDevDef := { nodeType := .compr, device := 101, propVals := [("capture".toList, "1".toList)] }

/-- The compress node behind a playback node is listed for playback too; with 2 for the value of its property, the
playback node is listed without having been counted. -/
theorem pcmLists_kept_value :
    ¬ PcmListRight "playback".toList [playbackNode "1".toList, captureNode] ∧
      ¬ PcmListRight "playback".toList [playbackNode "2".toList, captureNode] :=
  ⟨fun h => absurd h.2 (by decide +kernel), fun h => absurd h.1 (by decide +kernel)⟩

end Agm.Mixer
