import Mathlib.Algebra.BigOperators.Group.Finset.Basic
import Mathlib.Algebra.Order.BigOperators.Group.Finset
import Agm.Lib.Runs
import Agm.Service.Device

/-!
# The counts of the device groups

A group keeps counts of its own beside those of its members, and every one of the five device calls writes both.  The
open counts always agree.  `device_prepare` leaves the group alone where it prepares the PCM in hardware, and
`device_close` clears the counts of a member and those of the group under different conditions, so the other two agree
only as long as a run stays away from these branches.
-/

namespace Agm.Service

open Agm.Lib

/-! ## Runs of device calls -/

/-- The calls on a device. -/
inductive DevCall
  | open | prepare | start | stop | close
  deriving DecidableEq, Repr

def DevCall.run : DevCall → DevId → Prog Hw Int
  | .open => deviceOpen
  | .prepare => devicePrepare
  | .start => deviceStart
  | .stop => deviceStop
  | .close => deviceClose

/-- A call on a device of the list. -/
def devExec (o : DevId × DevCall) (hw : Hw) : Option (Int × Hw) :=
  match deviceGetObj o.1 hw with
  | .error e => some (e, hw)
  | .ok d => o.2.run d hw

/-! ## The members of a group -/

namespace Hw

/-- The device list as `parse_snd_card` builds it: the parent of a virtual child is in the list and has no parent. -/
def Listed (hw : Hw) : Prop :=
  ∀ d < hw.numAudioIntfs, hw.pcmObj d < hw.numAudioIntfs ∧ (hw.devs (hw.pcmObj d)).parentDev = none

/-- The PCM device objects whose `group_data` is the group. -/
def members (hw : Hw) (g : GrpId) : Finset DevId :=
  (Finset.range hw.numAudioIntfs).filter fun o => (hw.devs o).parentDev = none ∧ (hw.devs o).groupData = some g

/-- The sum of one of the counts over the members. -/
def memberSum (f : Refcount → Int) (hw : Hw) (g : GrpId) : Int := ∑ o ∈ hw.members g, f (hw.devs o).refcnt

theorem members_of_fixed {hw hw' : Hw} (h : hw'.fixed = hw.fixed) : hw'.members = hw.members := by
  have hn := congrArg Hw.numAudioIntfs h
  have hn : hw'.numAudioIntfs = hw.numAudioIntfs := hn
  funext g
  unfold members
  rw [hn]
  refine Finset.filter_congr fun o _ => ?_
  have hp := congrArg (fun hw : Hw => ((hw.devs o).parentDev, (hw.devs o).groupData)) h
  obtain ⟨hp, hg⟩ := Prod.mk.inj hp
  have hp : (hw'.devs o).parentDev = (hw.devs o).parentDev := hp
  have hg : (hw'.devs o).groupData = (hw.devs o).groupData := hg
  rw [hp, hg]

theorem listed_of_fixed {hw hw' : Hw} (h : hw'.fixed = hw.fixed) (hl : hw.Listed) : hw'.Listed := by
  have hn := congrArg Hw.numAudioIntfs h
  have hn : hw'.numAudioIntfs = hw.numAudioIntfs := hn
  intro d hd
  rw [hn] at hd ⊢
  rw [pcmObj_of_fixed h]
  have hp := congrArg (fun hw' : Hw => (hw'.devs (hw.pcmObj d)).parentDev) h
  have hp : (hw'.devs (hw.pcmObj d)).parentDev = (hw.devs (hw.pcmObj d)).parentDev := hp
  rw [hp]
  exact hl d hd

/-- The object a call works on is a member of its group. -/
theorem Listed.mem_members {hw : Hw} (hl : hw.Listed) {d : DevId} (hd : d < hw.numAudioIntfs) (g : GrpId) :
    hw.pcmObj d ∈ hw.members g ↔ (hw.devs (hw.pcmObj d)).groupData = some g := by
  obtain ⟨hlt, hpar⟩ := hl d hd
  rw [members, Finset.mem_filter, Finset.mem_range]
  exact ⟨fun h => h.2.2, fun h => ⟨hlt, hpar, h⟩⟩

/-- **Writing one object changes a sum by one term.** -/
theorem memberSum_setDev (f : Refcount → Int) {hw : Hw} {o : DevId} {dev : DeviceObj}
    (h : dev.fixed = (hw.devs o).fixed) (g : GrpId) :
    (hw.setDev o dev).memberSum f g =
      hw.memberSum f g + if o ∈ hw.members g then f dev.refcnt - f (hw.devs o).refcnt else 0 := by
  unfold memberSum
  rw [members_of_fixed (fixed_setDev h)]
  by_cases ho : o ∈ hw.members g
  · have hrest : ∑ x ∈ (hw.members g).erase o, f ((hw.setDev o dev).devs x).refcnt =
        ∑ x ∈ (hw.members g).erase o, f (hw.devs x).refcnt := by
      refine Finset.sum_congr rfl fun x hx => ?_
      rw [setDev_devs_of_ne hw dev (Finset.ne_of_mem_erase hx)]
    rw [if_pos ho, ← Finset.add_sum_erase _ _ ho, ← Finset.add_sum_erase _ _ ho, hrest, setDev_devs_self]
    omega
  · have hrest : ∑ x ∈ hw.members g, f ((hw.setDev o dev).devs x).refcnt = ∑ x ∈ hw.members g, f (hw.devs x).refcnt := by
      refine Finset.sum_congr rfl fun x hx => ?_
      have hxo : x ≠ o := fun h => ho (h ▸ hx)
      rw [setDev_devs_of_ne hw dev hxo]
    rw [if_neg ho, hrest, add_zero]

theorem memberSum_of_core (f : Refcount → Int) {hw hw' : Hw} (h : hw'.core = hw.core) (g : GrpId) :
    hw'.memberSum f g = hw.memberSum f g := by
  have := congrArg (fun hw : Hw => hw.memberSum f g) h
  exact this

theorem grps_of_core {hw hw' : Hw} (h : hw'.core = hw.core) : hw'.grps = hw.grps := by
  have := congrArg Hw.grps h
  exact this

/-- Where no member is open, none is prepared and none is started. -/
theorem memberSum_idle {hw : Hw} {g : GrpId} (h : hw.memberSum Refcount.nOpen g = 0) :
    hw.memberSum Refcount.nPrepare g = 0 ∧ hw.memberSum Refcount.nStart g = 0 := by
  have hzero : ∀ o ∈ hw.members g, (hw.devs o).refcnt.nOpen = 0 :=
    (Finset.sum_eq_zero_iff_of_nonneg fun o _ => (hw.devs o).nonneg.1).1 h
  refine ⟨Finset.sum_eq_zero fun o ho => ?_, Finset.sum_eq_zero fun o ho => ?_⟩
  · exact ((hw.devs o).idle (hzero o ho)).1
  · exact ((hw.devs o).idle (hzero o ho)).2.1

/-! ## The effects of the calls -/

/-- One of the counts of every group is the sum of that count over the members. -/
def Summed (f : Refcount → Int) (hw : Hw) : Prop := ∀ g, f (hw.grps g).refcnt = hw.memberSum f g

theorem Summed.of_core {f : Refcount → Int} {hw hw' : Hw} (h : hw'.core = hw.core) (hs : hw.Summed f) : hw'.Summed f := by
  intro g
  rw [grps_of_core h, memberSum_of_core f h]
  exact hs g

section

variable {f : Refcount → Int} {hw : Hw} {d : DevId} (hl : hw.Listed) (hd : d < hw.numAudioIntfs) (hs : hw.Summed f)

include hl hd hs

/-- The object of a call and its group are written, and the count moves by the same amount in both. -/
theorem Summed.write {dev : DeviceObj} (hfix : dev.fixed = (hw.devs (hw.pcmObj d)).fixed) {F : Refcount → Refcount}
    (hF : ∀ g, (hw.devs (hw.pcmObj d)).groupData = some g →
      f (F (hw.grps g).refcnt) - f (hw.grps g).refcnt = f dev.refcnt - f (hw.devs (hw.pcmObj d)).refcnt) :
    ((hw.setDev (hw.pcmObj d) dev).modGrp (hw.devs (hw.pcmObj d)).groupData (·.map F)).Summed f := by
  intro g
  have hsum : ((hw.setDev (hw.pcmObj d) dev).modGrp (hw.devs (hw.pcmObj d)).groupData (·.map F)).memberSum f g =
      (hw.setDev (hw.pcmObj d) dev).memberSum f g := rfl
  rw [hsum, memberSum_setDev f hfix, ← hs g]
  simp only [hl.mem_members hd g, modGrp, setDev_grps]
  by_cases hg : (hw.devs (hw.pcmObj d)).groupData = some g
  · rw [if_pos hg, if_pos hg]
    have := hF g hg
    simp only [DeviceGroup.map]
    omega
  · rw [if_neg hg, if_neg hg, add_zero]

/-- The object of a call is written, and its group is not. -/
theorem Summed.write_object {dev : DeviceObj} (hfix : dev.fixed = (hw.devs (hw.pcmObj d)).fixed)
    (hF : (hw.devs (hw.pcmObj d)).groupData.isSome → f dev.refcnt = f (hw.devs (hw.pcmObj d)).refcnt) :
    (hw.setDev (hw.pcmObj d) dev).Summed f := by
  intro g
  rw [memberSum_setDev f hfix, ← hs g]
  simp only [hl.mem_members hd g, setDev_grps]
  by_cases hg : (hw.devs (hw.pcmObj d)).groupData = some g
  · have := hF (by rw [hg]; rfl)
    rw [if_pos hg, this]
    omega
  · rw [if_neg hg, add_zero]

theorem Summed.opened (hf : ∀ r r' : Refcount, f r.incOpen - f r = f r'.incOpen - f r') : (hw.opened d).Summed f := by
  have hfix : (hw.devs (hw.pcmObj d)).takeOpen.fixed = (hw.devs (hw.pcmObj d)).fixed := rfl
  unfold Hw.opened
  exact Summed.write hl hd hs hfix fun _ _ => hf _ _

/-- A prepare that finds the PCM prepared counts in the group too; the first one does not. -/
theorem Summed.prepared (hopen : hw.nOpen (hw.pcmObj d) ≠ 0)
    (hf : ∀ r r' : Refcount, f r.incPrepare - f r = f r'.incPrepare - f r')
    (hfirst : (hw.devs (hw.pcmObj d)).groupData.isSome → (hw.devs (hw.pcmObj d)).refcnt.nPrepare = 0 →
      ∀ r : Refcount, f r.incPrepare = f r) : (hw.prepared d).Summed f := by
  unfold Hw.prepared
  split
  · refine Summed.write hl hd hs (DeviceObj.takePrepare_fixed _) fun g _ => ?_
    rw [DeviceObj.takePrepare_refcnt hopen]
    exact hf _ _
  · rename_i hz
    refine Summed.write_object hl hd hs (DeviceObj.takePrepare_fixed _) fun hg => ?_
    rw [DeviceObj.takePrepare_refcnt hopen]
    exact hfirst hg (Decidable.not_not.1 hz) _

theorem Summed.started (hready : ¬ (hw.devs (hw.pcmObj d)).state.rank < DevState.prepared.rank)
    (hf : ∀ r r' : Refcount, f r.incStart - f r = f r'.incStart - f r') : (hw.started d).Summed f := by
  unfold Hw.started
  refine Summed.write hl hd hs (DeviceObj.takeStart_fixed _) fun g _ => ?_
  rw [DeviceObj.takeStart_refcnt hready]
  exact hf _ _

theorem Summed.stopped (hf : ∀ r r' : Refcount, f r.decStart - f r = f r'.decStart - f r') :
    (hw.stopped d).Summed f := by
  unfold Hw.stopped
  split
  · exact hs
  · rename_i hne
    refine Summed.write hl hd hs (DeviceObj.dropStart_fixed _) fun g _ => ?_
    rw [DeviceObj.dropStart_refcnt hne]
    exact hf _ _

end

section

variable {hw : Hw} {d : DevId} (hl : hw.Listed) (hd : d < hw.numAudioIntfs) (ho : hw.Summed Refcount.nOpen)

include hl hd ho

theorem Summed.closed_nOpen : (hw.closed d).Summed Refcount.nOpen := by
  have hdec (r : Refcount) : r.decOpen.nOpen = r.nOpen - 1 := by
    unfold Refcount.decOpen
    split
    · rename_i h
      exact h.symm
    · rfl
  unfold Hw.closed
  split
  · exact ho
  · rename_i hne
    refine Summed.write hl hd ho (DeviceObj.dropOpen_fixed _) fun g _ => ?_
    rw [DeviceObj.dropOpen_refcnt hne, hdec, hdec]
    omega

/-- `device_close` keeps a group's start count in step unless it is the last close of a member that is started, while
another member is open. -/
theorem Summed.closed_nStart (hs : hw.Summed Refcount.nStart)
    (hkeep : ∀ g, (hw.devs (hw.pcmObj d)).groupData = some g → hw.nOpen (hw.pcmObj d) = 1 →
      hw.nStart (hw.pcmObj d) ≠ 0 → (hw.grps g).refcnt.nOpen = 1) : (hw.closed d).Summed Refcount.nStart := by
  have hopen := Summed.closed_nOpen hl hd ho
  intro g
  by_cases hg : (hw.devs (hw.pcmObj d)).groupData = some g ∧ hw.nOpen (hw.pcmObj d) ≠ 0 ∧
      (hw.grps g).refcnt.nOpen = 1
  · -- the last close of the group: its counts are cleared, and no member is open
    obtain ⟨hg, hne, h1⟩ := hg
    have hgrp : ((hw.closed d).grps g).refcnt = ⟨0, 0, 0⟩ := by
      rw [closed_grps hne, if_pos hg]
      show (hw.grps g).refcnt.decOpen = _
      rw [Refcount.decOpen, h1]
      rfl
    have hzero : (hw.closed d).memberSum Refcount.nOpen g = 0 := by
      rw [← hopen g, hgrp]
    rw [hgrp, (memberSum_idle hzero).2]
  · revert g
    unfold Hw.closed
    split
    · exact fun g _ => hs g
    · rename_i hne
      intro g hg
      have hdev : (hw.devs (hw.pcmObj d)).dropOpen.refcnt.nStart =
          if hw.nOpen (hw.pcmObj d) = 1 then 0 else hw.nStart (hw.pcmObj d) := by
        rw [DeviceObj.dropOpen_nStart hne]
        rfl
      have hsum : ((hw.setDev (hw.pcmObj d) (hw.devs (hw.pcmObj d)).dropOpen).modGrp
          (hw.devs (hw.pcmObj d)).groupData (·.map Refcount.decOpen)).memberSum Refcount.nStart g =
          (hw.setDev (hw.pcmObj d) (hw.devs (hw.pcmObj d)).dropOpen).memberSum Refcount.nStart g := rfl
      rw [hsum, memberSum_setDev _ (DeviceObj.dropOpen_fixed _), ← hs g]
      simp only [hl.mem_members hd g, modGrp, setDev_grps]
      by_cases hgrp : (hw.devs (hw.pcmObj d)).groupData = some g
      · have hn1 : (hw.grps g).refcnt.nOpen - 1 ≠ 0 := fun h => hg ⟨hgrp, hne, by omega⟩
        have hold : (hw.devs (hw.pcmObj d)).refcnt.nStart = hw.nStart (hw.pcmObj d) := rfl
        rw [if_pos hgrp, if_pos hgrp, hdev, hold]
        simp only [DeviceGroup.map, Refcount.decOpen, if_neg hn1]
        split
        · rename_i h1
          by_cases h0 : hw.nStart (hw.pcmObj d) = 0
          · rw [h0]
            omega
          · have := hkeep g hgrp h1 h0
            omega
        · omega
      · rw [if_neg hgrp, if_neg hgrp, add_zero]

end

end Hw

/-! ## What one call does -/

/-- A `device_prepare` that succeeds found the PCM prepared, or ALSA has prepared it. -/
theorem sat_devicePrepare_answer (d : DevId) (hw : Hw) : Sat (devicePrepare d) hw fun r _ =>
    r = 0 → (hw.devs (hw.pcmObj d)).refcnt.nPrepare = 0 → hw.answer (.pcmPrepare (hw.pcmObj d)) = 0 := by
  unfold devicePrepare
  simp only [sat_bind, sat_get, sat_ite, sat_modify, sat_pure, sat_ask, sat_crash]
  refine ⟨fun h _ h0 => absurd h0 h, fun _ => ⟨fun _ => trivial, fun _ => ⟨fun hr h0 => absurd h0 hr, fun hr _ _ => ?_⟩⟩⟩
  exact Decidable.not_not.1 hr

/-- **What a call does to the counts**: nothing, or its one effect. -/
theorem devExec_cases {o : DevId × DevCall} {hw hw' : Hw} {r : Int} (h : devExec o hw = some (r, hw')) :
    hw.Later hw' ∧ (hw'.core = hw.core ∨ o.1 < hw.numAudioIntfs ∧
      ((o.2 = .open ∧ hw'.core = (hw.opened o.1).core) ∨
        (o.2 = .prepare ∧ hw.nOpen (hw.pcmObj o.1) ≠ 0 ∧
          ((hw.devs (hw.pcmObj o.1)).refcnt.nPrepare = 0 → hw.answer (.pcmPrepare (hw.pcmObj o.1)) = 0) ∧
          hw'.core = (hw.prepared o.1).core) ∨
        (o.2 = .start ∧ ¬ (hw.devs (hw.pcmObj o.1)).state.rank < DevState.prepared.rank ∧
          hw'.core = (hw.started o.1).core) ∨
        (o.2 = .stop ∧ hw'.core = (hw.stopped o.1).core) ∨ (o.2 = .close ∧ hw'.core = (hw.closed o.1).core))) := by
  obtain ⟨d, call⟩ := o
  unfold devExec deviceGetObj at h
  by_cases hd : d < hw.numAudioIntfs
  · simp only [if_pos hd] at h
    cases call with
    | «open» =>
      obtain ⟨hl, ⟨-, hc⟩ | ⟨-, hc⟩⟩ := sat_deviceOpen d hw r hw' h
      · exact ⟨hl, .inr ⟨hd, .inl ⟨rfl, by rw [hc, Hw.core_opened]⟩⟩⟩
      · exact ⟨hl, .inl hc⟩
    | prepare =>
      have hans := sat_devicePrepare_answer d hw r hw' h
      obtain ⟨hl, ⟨hr, hne, hc⟩ | ⟨-, hc⟩⟩ := sat_devicePrepare d hw r hw' h
      · exact ⟨hl, .inr ⟨hd, .inr (.inl ⟨rfl, hne, hans hr, by rw [hc, Hw.core_prepared]⟩)⟩⟩
      · exact ⟨hl, .inl hc⟩
    | start =>
      obtain ⟨hl, ⟨-, hready, hc⟩ | ⟨-, -, hc⟩⟩ := sat_deviceStart d hw r hw' h
      · exact ⟨hl, .inr ⟨hd, .inr (.inr (.inl ⟨rfl, hready, by rw [hc, Hw.core_started]⟩))⟩⟩
      · exact ⟨hl, .inl hc⟩
    | stop =>
      obtain ⟨hl, hc⟩ := sat_deviceStop d hw r hw' h
      exact ⟨hl, .inr ⟨hd, .inr (.inr (.inr (.inl ⟨rfl, by rw [hc, Hw.core_stopped]⟩)))⟩⟩
    | close =>
      obtain ⟨hl, hc⟩ := sat_deviceClose d hw r hw' h
      exact ⟨hl, .inr ⟨hd, .inr (.inr (.inr (.inr ⟨rfl, by rw [hc, Hw.core_closed]⟩)))⟩⟩
  · simp only [if_neg hd] at h
    obtain ⟨-, rfl⟩ := Prod.mk.inj (Option.some.inj h)
    exact ⟨refl_of Hw.Later hw, .inl rfl⟩

section

variable {o : DevId × DevCall} {hw hw' : Hw} {r : Int}

theorem listed_devExec (h : devExec o hw = some (r, hw')) (hl : hw.Listed) : hw'.Listed :=
  Hw.listed_of_fixed (devExec_cases h).1.fixed hl

/-- The open counts of the groups, after one call. -/
theorem summed_nOpen_devExec (h : devExec o hw = some (r, hw')) (hl : hw.Listed) (ho : hw.Summed Refcount.nOpen) :
    hw'.Summed Refcount.nOpen := by
  obtain ⟨-, hc | ⟨hd, ⟨-, hc⟩ | ⟨-, hne, -, hc⟩ | ⟨-, hready, hc⟩ | ⟨-, hc⟩ | ⟨-, hc⟩⟩⟩ := devExec_cases h
  · exact ho.of_core hc
  · exact (Hw.Summed.opened hl hd ho fun r r' => by simp only [Refcount.incOpen]; omega).of_core hc
  · exact (Hw.Summed.prepared hl hd ho hne (fun _ _ => by simp only [Refcount.incPrepare]; omega)
      fun _ _ _ => rfl).of_core hc
  · exact (Hw.Summed.started hl hd ho hready fun _ _ => by simp only [Refcount.incStart]; omega).of_core hc
  · exact (Hw.Summed.stopped hl hd ho fun _ _ => by simp only [Refcount.decStart]; omega).of_core hc
  · exact (Hw.Summed.closed_nOpen hl hd ho).of_core hc

/-- A close that clears the start count of a member and not that of its group: the member is started and nobody else
has it open, and another member is open. -/
def losesStart (hw : Hw) (o : DevId × DevCall) : Bool :=
  o.2 = .close && o.1 < hw.numAudioIntfs && match (hw.devs (hw.pcmObj o.1)).groupData with
    | some g => hw.nOpen (hw.pcmObj o.1) = 1 && hw.nStart (hw.pcmObj o.1) ≠ 0 && (hw.grps g).refcnt.nOpen ≠ 1
    | none => false

/-- The start counts of the groups, after one call. -/
theorem summed_nStart_devExec (h : devExec o hw = some (r, hw')) (hl : hw.Listed) (ho : hw.Summed Refcount.nOpen)
    (hs : hw.Summed Refcount.nStart) (hguard : ¬ losesStart hw o) : hw'.Summed Refcount.nStart := by
  obtain ⟨-, hc | ⟨hd, ⟨-, hc⟩ | ⟨-, hne, -, hc⟩ | ⟨-, hready, hc⟩ | ⟨-, hc⟩ | ⟨hop, hc⟩⟩⟩ := devExec_cases h
  · exact hs.of_core hc
  · exact (Hw.Summed.opened hl hd hs fun r r' => by simp only [Refcount.incOpen]; omega).of_core hc
  · exact (Hw.Summed.prepared hl hd hs hne (fun _ _ => by simp only [Refcount.incPrepare]; omega)
      fun _ _ _ => rfl).of_core hc
  · exact (Hw.Summed.started hl hd hs hready fun _ _ => by simp only [Refcount.incStart]; omega).of_core hc
  · exact (Hw.Summed.stopped hl hd hs fun _ _ => by simp only [Refcount.decStart]; omega).of_core hc
  · refine (Hw.Summed.closed_nStart hl hd ho hs fun g hg h1 hne => ?_).of_core hc
    by_contra hno
    refine hguard ?_
    simp [losesStart, hop, hd, hg, h1, hne, hno]

/-- A `device_prepare` that has a PCM of a group prepared by ALSA. -/
def preparesMember (hw : Hw) (o : DevId × DevCall) : Bool :=
  o.2 = .prepare && o.1 < hw.numAudioIntfs && (hw.devs (hw.pcmObj o.1)).groupData.isSome &&
    (hw.devs (hw.pcmObj o.1)).refcnt.nPrepare = 0 && hw.answer (.pcmPrepare (hw.pcmObj o.1)) = 0

/-- No member of a group is prepared, and the group says so. -/
def Hw.Unprepared (hw : Hw) : Prop :=
  ∀ g, (hw.grps g).refcnt.nPrepare = 0 ∧ ∀ o ∈ hw.members g, (hw.devs o).refcnt.nPrepare = 0

theorem Hw.Unprepared.summed (h : hw.Unprepared) : hw.Summed Refcount.nPrepare := by
  intro g
  rw [(h g).1, Hw.memberSum, Finset.sum_eq_zero (h g).2]

theorem Hw.Unprepared.of_summed (hs : hw.Summed Refcount.nPrepare) (hz : ∀ g, (hw.grps g).refcnt.nPrepare = 0) :
    hw.Unprepared := by
  refine fun g => ⟨hz g, (Finset.sum_eq_zero_iff_of_nonneg fun o _ => (hw.devs o).nonneg.2.1).1 ?_⟩
  exact (hs g).symm.trans (hz g)

/-- What is not prepared is not started, so no close loses a start. -/
theorem Hw.Unprepared.not_losesStart (hu : hw.Unprepared) (hl : hw.Listed) (o : DevId × DevCall) :
    ¬ losesStart hw o := by
  intro h
  simp only [losesStart, Bool.and_eq_true, decide_eq_true_eq] at h
  obtain ⟨⟨-, hd⟩, h⟩ := h
  cases hg : (hw.devs (hw.pcmObj o.1)).groupData with
  | none =>
    rw [hg] at h
    cases h
  | some g =>
    simp only [hg, Bool.and_eq_true, decide_eq_true_eq] at h
    have h0 := (hu g).2 _ ((hl.mem_members hd g).2 hg)
    exact h.1.2 (DeviceObj.nStart_of_nPrepare h0)

/-- A group's prepare count is `0` when it was, unless the call counts one. -/
theorem nPrepare_modGrp {dev : DeviceObj} {x : DevId} {q : Option GrpId} {F : Refcount → Refcount}
    (hF : ∀ r : Refcount, r.nPrepare = 0 → (F r).nPrepare = 0) (hz : ∀ g, (hw.grps g).refcnt.nPrepare = 0) (g : GrpId) :
    (((hw.setDev x dev).modGrp q (·.map F)).grps g).refcnt.nPrepare = 0 := by
  simp only [Hw.modGrp, Hw.setDev_grps]
  split
  · exact hF _ (hz g)
  · exact hz g

/-- One call leaves the members of all groups unprepared, if ALSA prepares none. -/
theorem unprepared_devExec (h : devExec o hw = some (r, hw')) (hl : hw.Listed) (hu : hw.Unprepared)
    (hguard : ¬ preparesMember hw o) : hw'.Unprepared := by
  have hz (g : GrpId) := (hu g).1
  have hdec (r : Refcount) (h0 : r.nPrepare = 0) : r.decOpen.nPrepare = 0 := by
    unfold Refcount.decOpen
    split
    · rfl
    · exact h0
  have hend {hw₁ : Hw} (hc : hw'.core = hw₁.core) (hs : hw₁.Summed Refcount.nPrepare)
      (hz₁ : ∀ g, (hw₁.grps g).refcnt.nPrepare = 0) : hw'.Unprepared := by
    refine .of_summed (hs.of_core hc) fun g => ?_
    rw [Hw.grps_of_core hc]
    exact hz₁ g
  obtain ⟨-, hc | ⟨hd, ⟨-, hc⟩ | ⟨hop, hne, hans, hc⟩ | ⟨-, hready, hc⟩ | ⟨-, hc⟩ | ⟨-, hc⟩⟩⟩ := devExec_cases h
  · exact hend hc hu.summed hz
  · refine hend hc (Hw.Summed.opened hl hd hu.summed fun _ _ => by simp only [Refcount.incOpen]; omega) fun g => ?_
    exact nPrepare_modGrp (F := Refcount.incOpen) (fun _ h0 => h0) hz g
  · -- the PCM is in no group: in a group it would be unprepared, and the guard excludes that
    have hnone : (hw.devs (hw.pcmObj o.1)).groupData = none := by
      by_contra hsome
      obtain ⟨g, hg⟩ := Option.ne_none_iff_exists'.1 hsome
      have h0 := (hu g).2 _ ((hl.mem_members hd g).2 hg)
      refine hguard ?_
      simp [preparesMember, hop, hd, hg, h0, hans h0]
    refine hend hc (Hw.Summed.prepared hl hd hu.summed hne (fun _ _ => by simp only [Refcount.incPrepare]; omega)
      fun hsome => ?_) fun g => ?_
    · rw [hnone] at hsome
      cases hsome
    · unfold Hw.prepared
      split
      · rw [hnone]
        exact hz g
      · exact hz g
  · refine hend hc (Hw.Summed.started hl hd hu.summed hready fun _ _ => by simp only [Refcount.incStart]; omega)
      fun g => ?_
    exact nPrepare_modGrp (F := Refcount.incStart) (fun _ h0 => h0) hz g
  · refine hend hc (Hw.Summed.stopped hl hd hu.summed fun _ _ => by simp only [Refcount.decStart]; omega) fun g => ?_
    unfold Hw.stopped
    split
    · exact hz g
    · exact nPrepare_modGrp (F := Refcount.decStart) (fun _ h0 => h0) hz g
  · refine hend hc ?_ fun g => ?_
    · unfold Hw.closed
      split
      · exact hu.summed
      · rename_i hne
        refine Hw.Summed.write hl hd hu.summed (DeviceObj.dropOpen_fixed _) fun g hg => ?_
        have h0 := (hu g).2 _ ((hl.mem_members hd g).2 hg)
        rw [DeviceObj.dropOpen_refcnt hne, hdec _ (hz g), hdec _ h0, hz g, h0]
    · unfold Hw.closed
      split
      · exact hz g
      · exact nPrepare_modGrp hdec hz g

end

/-! ## Whole runs -/

/-- The devices as they come up: nothing is open, and the groups have counted nothing. -/
structure Hw.Idle (hw : Hw) : Prop where
  listed : hw.Listed
  devs : ∀ o, hw.nOpen o = 0
  grps : ∀ g, (hw.grps g).refcnt = {}

/-- The counts of every group are the sums over its members, and `device_get_start_refcnt` on a device of the group is
positive exactly if a member is started. -/
structure Hw.GroupsSummed (hw : Hw) : Prop where
  nOpen : hw.Summed Refcount.nOpen
  nPrepare : hw.Summed Refcount.nPrepare
  nStart : hw.Summed Refcount.nStart
  running : ∀ d g, (hw.devs d).groupData = some g →
    (0 < deviceGetStartRefcnt d hw ↔ ∃ o ∈ hw.members g, (hw.devs o).state = .started)

theorem Hw.Idle.summed {hw : Hw} (h : hw.Idle) :
    hw.Summed Refcount.nOpen ∧ hw.Summed Refcount.nStart ∧ hw.Unprepared := by
  have hidle (o : DevId) := (hw.devs o).idle (h.devs o)
  refine ⟨fun g => ?_, fun g => ?_, fun g => ⟨?_, fun o _ => (hidle o).1⟩⟩
  · have hsum : hw.memberSum Refcount.nOpen g = 0 := Finset.sum_eq_zero fun o _ => h.devs o
    rw [h.grps g, hsum]
  · have hsum : hw.memberSum Refcount.nStart g = 0 := Finset.sum_eq_zero fun o _ => (hidle o).2.1
    rw [h.grps g, hsum]
  · rw [h.grps g]

/-- A group's start count tells whether a member is started. -/
theorem Hw.Summed.running {hw : Hw} (h : hw.Summed Refcount.nStart) {d : DevId} {g : GrpId}
    (hg : (hw.devs d).groupData = some g) :
    0 < deviceGetStartRefcnt d hw ↔ ∃ o ∈ hw.members g, (hw.devs o).state = .started := by
  have hcount : deviceGetStartRefcnt d hw = hw.memberSum Refcount.nStart g := by
    unfold deviceGetStartRefcnt
    rw [hg]
    exact h g
  have hnonneg : ∀ o ∈ hw.members g, 0 ≤ (hw.devs o).refcnt.nStart := fun o _ => (hw.devs o).nonneg.2.2
  rw [hcount, Hw.memberSum]
  constructor
  · intro hpos
    obtain ⟨o, ho, hne⟩ := Finset.exists_ne_zero_of_sum_ne_zero hpos.ne'
    exact ⟨o, ho, (hw.devs o).running.1 hne⟩
  · rintro ⟨o, ho, hst⟩
    have hne : (hw.devs o).refcnt.nStart ≠ 0 := (hw.devs o).running.2 hst
    have hle := Finset.single_le_sum hnonneg ho
    have := hnonneg o ho
    omega

/-- **The counts of the groups.**  After every run of device calls, on any devices and with any answers of ALSA, the
open count of a group is the sum over its members.  So is its start count, and it tells whether a member is started,
if no close of the run is the last one of a started member while another member is open.  All three are, if ALSA
prepares no PCM of a group in the run. -/
theorem group_counts {hw₀ hw : Hw} (h₀ : hw₀.Idle) :
    (Runs devExec (fun _ _ => True) hw₀ hw → hw.Summed Refcount.nOpen) ∧
      (Runs devExec (fun hw o => ¬ losesStart hw o) hw₀ hw → hw.Summed Refcount.nStart ∧
        ∀ d g, (hw.devs d).groupData = some g →
          (0 < deviceGetStartRefcnt d hw ↔ ∃ o ∈ hw.members g, (hw.devs o).state = .started)) ∧
      (Runs devExec (fun hw o => ¬ preparesMember hw o) hw₀ hw → hw.GroupsSummed) := by
  obtain ⟨hopen, hstart, hprep⟩ := h₀.summed
  refine ⟨fun h => ?_, fun h => ?_, fun h => ?_⟩
  · have key : hw.Listed ∧ hw.Summed Refcount.nOpen :=
      h.invariant (I := fun hw => hw.Listed ∧ hw.Summed Refcount.nOpen) ⟨h₀.listed, hopen⟩
        fun _ _ _ _ hw _ he => ⟨listed_devExec he hw.1, summed_nOpen_devExec he hw.1 hw.2⟩
    exact key.2
  · have key : (hw.Listed ∧ hw.Summed Refcount.nOpen) ∧ hw.Summed Refcount.nStart :=
      h.invariant (I := fun hw => (hw.Listed ∧ hw.Summed Refcount.nOpen) ∧ hw.Summed Refcount.nStart)
        ⟨⟨h₀.listed, hopen⟩, hstart⟩ fun _ _ _ _ hw hg he =>
          ⟨⟨listed_devExec he hw.1.1, summed_nOpen_devExec he hw.1.1 hw.1.2⟩,
            summed_nStart_devExec he hw.1.1 hw.1.2 hw.2 hg⟩
    exact ⟨key.2, fun d g hg => key.2.running hg⟩
  · -- a member that is not prepared is not started, so no close loses a start either
    have key : (hw.Listed ∧ hw.Summed Refcount.nOpen) ∧ hw.Summed Refcount.nStart ∧ hw.Unprepared := by
      refine h.invariant (I := fun hw => (hw.Listed ∧ hw.Summed Refcount.nOpen) ∧ hw.Summed Refcount.nStart ∧
        hw.Unprepared) ⟨⟨h₀.listed, hopen⟩, hstart, hprep⟩ fun hw o r hw' hI hg he => ?_
      obtain ⟨⟨hl, ho⟩, hs, hu⟩ := hI
      refine ⟨⟨listed_devExec he hl, summed_nOpen_devExec he hl ho⟩, ?_, unprepared_devExec he hl hu hg⟩
      exact summed_nStart_devExec he hl ho hs (hu.not_losesStart hl o)
    exact ⟨key.1.2, key.2.2.summed, key.2.1, fun d g hg => key.2.1.running hg⟩

/-- Four devices, of which `0` and `1` make up a group and `2` is a virtual child of `0`. -/
def Hw.grouped : Hw where
  numAudioIntfs := 4
  devs d := if d = 0 ∨ d = 1 then { groupData := some 0 } else
    if d = 2 then { groupData := some 0, parentDev := some 0 } else {}
  grps _ := {}
  acdb := ⟨fun _ => [], fun _ _ => (0, 0)⟩
  env _ := []

theorem Hw.idle_grouped : Hw.grouped.Idle where
  listed := by
    unfold Hw.Listed
    decide
  devs o := by
    show (Hw.grouped.devs o).refcnt.nOpen = 0
    simp only [Hw.grouped]
    split
    · rfl
    · split <;> rfl
  grps _ := rfl

/-- Opening both members and the child, and closing one of them. -/
theorem group_counts_after_close : ∃ hw, Runs devExec (fun hw o => ¬ preparesMember hw o) Hw.grouped hw ∧
    (hw.grps 0).refcnt.nOpen = 2 ∧ hw.GroupsSummed := by
  obtain ⟨hw, h, hn⟩ := Runs.exists_of_execAll devExec (fun hw o => ¬ preparesMember hw o)
    [(0, .open), (2, .open), (1, .open), (0, .close)] Hw.grouped (fun hw => (hw.grps 0).refcnt.nOpen)
    (b := 2) (by decide +kernel)
  exact ⟨hw, h, hn, (group_counts (Hw.idle_grouped)).2.2 h⟩

/-- The first prepare of a member is not counted in the group. -/
theorem group_nPrepare_ne_sum : Hw.grouped.Idle ∧
    ∃ hw, Runs devExec (fun _ _ => True) Hw.grouped hw ∧
      (hw.grps 0).refcnt.nPrepare = 0 ∧ hw.memberSum Refcount.nPrepare 0 = 1 := by
  refine ⟨Hw.idle_grouped, ?_⟩
  obtain ⟨hw, h, hn⟩ := Runs.exists_of_execAll devExec (fun _ _ => True) [(0, .open), (0, .prepare)]
    Hw.grouped (fun hw => ((hw.grps 0).refcnt.nPrepare, hw.memberSum Refcount.nPrepare 0))
    (b := (0, 1)) (by decide +kernel)
  exact ⟨hw, h, (Prod.mk.inj hn).1, (Prod.mk.inj hn).2⟩

end Agm.Service
