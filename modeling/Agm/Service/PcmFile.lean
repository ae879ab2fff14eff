import Mathlib.Data.List.Basic
import Agm.Service.HwEpInfo

/-!
# The list of PCMs and the list of devices

`parse_snd_card` (`device.c`) reads `/proc/asound/pcm` line by line.  A line whose name can be read brings a device; a
name that announces virtual devices brings a group, found again by what stands before `-VIRT`, and the virtual devices,
which are called like their parent with their own number behind `VIRT-`.

The count is read off one field of the name, the group and the new names are found by two searches of their own.
-/

namespace Agm.Service

open Agm.Lib CString

/-! ## The text -/

def MAX_BUF_SIZE : Nat := 2048

/-- `fgets`: a line, or as much of it as there is room for, and the rest of the text. -/
def fgets : Nat → CString → CString × CString
  | 0, text => ([], text)
  | _ + 1, [] => ([], [])
  | n + 1, c :: cs => if c = '\n' then ([c], cs) else (c :: (fgets n cs).1, (fgets n cs).2)

/-- What the loop reads, one after the other; a turn takes at least one character of the `n` that there are. -/
def fileLines : Nat → CString → List CString
  | 0, _ => []
  | _ + 1, [] => []
  | n + 1, c :: cs =>
    let p := fgets (MAX_BUF_SIZE - 2) (c :: cs)
    p.1 :: fileLines n p.2

/-- `%02u` of `sscanf`: what is left behind a number of at most `width` characters, which may have a sign. -/
def scanUnsigned (width : Nat) (s : CString) : Option CString :=
  let s := s.dropWhile isSpace
  let sign := if s.head? = some '+' ∨ s.head? = some '-' then 1 else 0
  let digits := ((s.drop sign).takeWhile Char.isDigit).take (width - sign)
  if digits = [] then none else some (s.drop (sign + digits.length))

/-- `sscanf(buffer, "%02u-%02u: %79s", &card_id, &pcm_id, name)`: the name, which is empty where it is not reached. -/
def pcmIdname (line : CString) : CString :=
  match scanUnsigned 2 line with
  | some ('-' :: s) =>
    match scanUnsigned 2 s with
    | some (':' :: s) => ((s.dropWhile isSpace).takeWhile fun c => ! isSpace c).take (MAX_DEV_NAME_LEN - 1)
    | _ => []
  | _ => []

/-- The name of a line is one that `sscanf` can have read. -/
def pcmName (line : CString) : DeviceName where
  chars := pcmIdname line
  short := by
    unfold pcmIdname MAX_DEV_NAME_LEN
    split
    · split
      · rw [List.length_take]
        omega
      · exact Nat.succ_pos _
    · exact Nat.succ_pos _
  clean := by
    intro c hc
    unfold pcmIdname at hc
    split at hc
    · split at hc
      · have hnot := List.mem_takeWhile_imp (List.mem_of_mem_take hc)
        simpa using hnot
      · cases hc
    · cases hc

/-! ## The devices -/

/-- `struct device_obj`; `parent_dev` and `group_data` are places in the two lists. -/
structure SndDevice where
  name : CString
  hwEp : HwEpInfo
  isVirtualDevice : Bool := false
  parentDev : Option Nat := none
  groupData : Option Nat := none
  deriving DecidableEq, Repr

/-- `struct device_group_data`. -/
structure GroupData where
  name : CString
  hasMultipleDaiLink : Bool := false
  deriving DecidableEq, Repr

/-- The two lists, and the numbers of their entries. -/
structure SndCard where
  devices : List SndDevice := []
  groups : List GroupData := []
  numAudioIntfs : Nat := 0
  numGroupDevices : Nat := 0
  deriving DecidableEq, Repr

/-- What comes from outside while a line is worked on: whether there is memory for the device, for a group and for the
virtual devices, and the size that `device_get_group_data_by_name` computes from a `NULL` pointer. -/
structure LineGrants where
  device : Bool := true
  group : Bool := true
  child : Nat → Bool := fun _ => true
  wild : Nat := 0

/-- The name of the group of a device. -/
def groupName (wild : Nat) (name : CString) : CString :=
  match strstr "-VIRT".toList name with
  | some i => bounded (i + 1) name
  | none => bounded wild name

namespace SndCard

variable (t : Target) (g : LineGrants) (st : SndCard)

/-- `device_get_group_data_by_name`: the place of the group, and the list with it. -/
def deviceGetGroupDataByName (name : CString) : Option Nat × SndCard :=
  match st.groups.findIdx? fun grp => grp.name = groupName g.wild name with
  | some i =>
    (some i, { st with groups := st.groups.modify i fun grp => { grp with hasMultipleDaiLink := true } })
  | none =>
    if g.group then
      (some st.groups.length, { st with
        groups := st.groups ++ [⟨groupName g.wild name, false⟩], numGroupDevices := st.numGroupDevices + 1 })
    else (none, st)

/-- `populate_virtual_device_hw_ep_info`: the parent with another name. -/
def virtualDevice (parent : SndDevice) (place i : Nat) : SndDevice :=
  { parent with
    name := updateVirtualDeviceName parent.name i
    hwEp := { parent.hwEp with numVirtualChild := 0 }
    isVirtualDevice := true
    parentDev := some place }

/-- The devices that a parent at a place of the list brings with it. -/
def virtualDevices (parent : SndDevice) (place : Nat) : List SndDevice :=
  ((List.range parent.hwEp.numVirtualChild.toNat).filter g.child).map (virtualDevice parent place)

/-- The devices are put at the end of the list. -/
def addDevices (devs : List SndDevice) : SndCard :=
  { st with devices := st.devices ++ devs, numAudioIntfs := st.numAudioIntfs + devs.length }

/-- A line whose name can be read. -/
def addDevice (name : CString) (ep : HwEpInfo) : SndCard :=
  if ep.numVirtualChild = 0 then st.addDevices [⟨name, ep, false, none, none⟩]
  else
    let p := st.deviceGetGroupDataByName g name
    let parent : SndDevice := ⟨name, ep, false, none, p.1⟩
    p.2.addDevices (parent :: virtualDevices g parent st.devices.length)

/-- A turn of the loop of `parse_snd_card`. -/
def addLine (line : CString) : SndCard :=
  match HwEpInfo.populateDeviceHwEpInfo t (pcmName line).chars with
  | none => st
  | some ep => st.addDevice g (pcmName line).chars ep

/-- The loop; the grants are those of the lines from here on. -/
def parseLoop (grants : Nat → LineGrants) : List CString → SndCard → Except Int SndCard
  | [], st => if st.numAudioIntfs = 0 then .error (-EAGAIN) else .ok st
  | line :: lines, st =>
    if ¬ (grants 0).device then .error (-ENOMEM)
    else parseLoop (fun n => grants (n + 1)) lines (st.addLine t (grants 0) line)

/-- `parse_snd_card`. -/
def parse (grants : Nat → LineGrants) (text : CString) : Except Int SndCard :=
  parseLoop t grants (fileLines text.length text) {}

/-! ## What the lists should be -/

/-- The virtual devices of the device at a place. -/
def children (i : Nat) : List SndDevice := st.devices.filter fun d => d.parentDev = some i

/-- A device with virtual devices: they are announced in its name, follow it, share its group, and all have names of
their own; with `memory` for all of them there are as many as the device says. -/
structure FamilyRight (memory : Prop) (i : Nat) (d : SndDevice) : Prop where
  virt : "-VIRT".toList <:+: d.name
  one_le : 1 ≤ d.hwEp.numVirtualChild
  le : d.hwEp.numVirtualChild ≤ MAX_VIRTUAL_CHILDS
  count : memory → (st.children i).length = d.hwEp.numVirtualChild
  follow : (st.devices.drop (i + 1)).take (st.children i).length = st.children i
  share : ∀ c ∈ st.children i, c.isVirtualDevice = true ∧ c.groupData = d.groupData
  names : ((d :: st.children i).map SndDevice.name).Nodup

/-- The lists that `parse_snd_card` should make. -/
structure Right (memory : Prop) : Prop where
  devices : st.devices.length = st.numAudioIntfs
  family : ∀ i d, st.devices[i]? = some d → 0 < d.hwEp.numVirtualChild → st.FamilyRight memory i d
  groups : (st.groups.map GroupData.name).Nodup
  numGroups : st.groups.length = st.numGroupDevices

end SndCard

/-- The name announces virtual devices where the group and the new names are looked for: `-VIRT` stands in it, and none
of the virtual devices that there is memory for has the name already. -/
def NameAnnounces (g : LineGrants) (name : CString) (n : Int) : Prop :=
  "-VIRT".toList <:+: name ∧
    ∀ i : Nat, (i : Int) < n → g.child i = true → ∀ pos, strstr VIRT name = some pos →
      ¬ (name[pos + 5]? = some (Nat.digitChar i) ∧ name.length ≤ pos + 25)

/-! ## What is read of the text -/

/-- Nothing of the text is lost. -/
theorem fgets_append (n : Nat) (text : CString) : (fgets n text).1 ++ (fgets n text).2 = text := by
  induction n generalizing text with
  | zero => rfl
  | succ n ih =>
    cases text with
    | nil => rfl
    | cons c cs =>
      rw [fgets]
      split
      · rfl
      · exact congrArg (c :: ·) (ih cs)

theorem fgets_ne_nil {n : Nat} (c : Char) (cs : CString) : (fgets (n + 1) (c :: cs)).1 ≠ [] := by
  rw [fgets]
  split <;> simp

/-- All of the text is read. -/
theorem flatten_fileLines {n : Nat} {text : CString} (h : text.length ≤ n) : (fileLines n text).flatten = text := by
  induction n generalizing text with
  | zero =>
    obtain rfl := List.length_eq_zero_iff.1 (Nat.le_zero.1 h)
    rfl
  | succ n ih =>
    cases text with
    | nil => rfl
    | cons c cs =>
      have happ := fgets_append (MAX_BUF_SIZE - 2) (c :: cs)
      have hlen := congrArg List.length happ
      have hpos := List.length_pos_of_ne_nil (fgets_ne_nil (n := 2045) c cs)
      rw [List.length_append] at hlen
      rw [fileLines, List.flatten_cons, ih ?_]
      · exact happ
      · change 0 < (fgets (MAX_BUF_SIZE - 2) (c :: cs)).1.length at hpos
        rw [List.length_cons] at h hlen
        omega

/-! ## A turn of the loop -/

/-- What is read off a name says how many virtual devices there are; with any the name has `VIRT-` in it. -/
theorem HwEpInfo.read_name {t : Target} {name : DeviceName} {ep : HwEpInfo}
    (h : HwEpInfo.populateDeviceHwEpInfo t name.chars = some ep) :
    ep.numVirtualChild ≤ MAX_VIRTUAL_CHILDS ∧ (0 < ep.numVirtualChild → VIRT <:+: name.chars) := by
  have hep := populateDeviceHwEpInfo_ep t name
  rw [h, Option.map_some] at hep
  have hread := populateDeviceHwEpInfo_read hep.symm
  exact ⟨hread.le, hread.virt⟩

namespace SndCard

section

variable {t : Target} {g : LineGrants} {st : SndCard} {name : CString} {ep : HwEpInfo}

@[simp] theorem devices_addDevices (devs : List SndDevice) : (st.addDevices devs).devices = st.devices ++ devs := rfl

@[simp] theorem groups_addDevices (devs : List SndDevice) : (st.addDevices devs).groups = st.groups := rfl

@[simp] theorem numAudioIntfs_addDevices (devs : List SndDevice) :
    (st.addDevices devs).numAudioIntfs = st.numAudioIntfs + devs.length := rfl

@[simp] theorem numGroupDevices_addDevices (devs : List SndDevice) :
    (st.addDevices devs).numGroupDevices = st.numGroupDevices := rfl

@[simp] theorem devices_group (name : CString) : (st.deviceGetGroupDataByName g name).2.devices = st.devices := by
  unfold deviceGetGroupDataByName
  split
  · rfl
  · split <;> rfl

@[simp] theorem numAudioIntfs_group (name : CString) :
    (st.deviceGetGroupDataByName g name).2.numAudioIntfs = st.numAudioIntfs := by
  unfold deviceGetGroupDataByName
  split
  · rfl
  · split <;> rfl

theorem map_name_modify (groups : List GroupData) (i : Nat) :
    (groups.modify i fun grp => { grp with hasMultipleDaiLink := true }).map GroupData.name =
      groups.map GroupData.name := by
  induction groups generalizing i with
  | nil => simp
  | cons grp groups ih =>
    cases i with
    | zero => rfl
    | succ i => simp [ih]

/-- The groups have names of their own, and are counted. -/
structure GroupsRight (st : SndCard) : Prop where
  nodup : (st.groups.map GroupData.name).Nodup
  num : st.groups.length = st.numGroupDevices

/-- A group is looked for before one is made. -/
theorem GroupsRight.group (h : st.GroupsRight) (name : CString) :
    (st.deviceGetGroupDataByName g name).2.GroupsRight := by
  unfold deviceGetGroupDataByName
  split
  · refine ⟨?_, ?_⟩
    · rw [map_name_modify]
      exact h.nodup
    · simpa using h.num
  · rename_i hnone
    split
    · refine ⟨?_, ?_⟩
      · rw [List.map_append, List.nodup_append_comm]
        refine List.nodup_cons.2 ⟨?_, h.nodup⟩
        intro hmem
        obtain ⟨grp, hgrp, hname⟩ := List.mem_map.1 hmem
        simpa [hname] using List.findIdx?_eq_none_iff.1 hnone grp hgrp
      · simp [h.num]
    · exact h

theorem GroupsRight.addDevices (h : st.GroupsRight) (devs : List SndDevice) : (st.addDevices devs).GroupsRight :=
  ⟨h.nodup, h.num⟩

theorem GroupsRight.addDevice (h : st.GroupsRight) (g : LineGrants) (name : CString) (ep : HwEpInfo) :
    (st.addDevice g name ep).GroupsRight := by
  unfold SndCard.addDevice
  split
  · exact h.addDevices _
  · exact (h.group name).addDevices _

/-- A name brings a device and its virtual devices behind it. -/
theorem devices_addDevice (g : LineGrants) (st : SndCard) (name : CString) (ep : HwEpInfo) :
    ∃ grp, (st.addDevice g name ep).devices = st.devices ++
      (⟨name, ep, false, none, grp⟩ :: virtualDevices g ⟨name, ep, false, none, grp⟩ st.devices.length) := by
  unfold addDevice
  split
  · rename_i hnone
    refine ⟨none, ?_⟩
    simp [virtualDevices, hnone]
  · refine ⟨(st.deviceGetGroupDataByName g name).1, ?_⟩
    simp

theorem numAudioIntfs_addDevice (h : st.devices.length = st.numAudioIntfs) (g : LineGrants) (name : CString)
    (ep : HwEpInfo) : (st.addDevice g name ep).devices.length = (st.addDevice g name ep).numAudioIntfs := by
  unfold addDevice
  split
  · simp [h]
  · simp [h]

end

/-! ## The devices a line brings -/

section

variable {g : LineGrants} {st st' : SndCard} {d p : SndDevice} {i : Nat}

theorem mem_virtualDevices {place : Nat} (h : d ∈ virtualDevices g p place) :
    ∃ n : Nat, (n : Int) < p.hwEp.numVirtualChild ∧ g.child n = true ∧ d = virtualDevice p place n := by
  obtain ⟨n, hn, rfl⟩ := List.mem_map.1 h
  obtain ⟨hlt, hgrant⟩ := List.mem_filter.1 hn
  refine ⟨n, ?_, hgrant, rfl⟩
  have := List.mem_range.1 hlt
  omega

/-- The parents are places of the list. -/
def Bound (st : SndCard) : Prop := ∀ d ∈ st.devices, ∀ place, d.parentDev = some place → place < st.devices.length

variable (h : st'.devices = st.devices ++ p :: virtualDevices g p st.devices.length) (hp : p.parentDev = none)
include h hp

theorem Bound.block (hbound : st.Bound) : st'.Bound := by
  intro d hd place hplace
  rw [h, List.length_append, List.length_cons]
  rw [h] at hd
  rcases List.mem_append.1 hd with hd | hd
  · have := hbound d hd place hplace
    omega
  · rcases List.mem_cons.1 hd with rfl | hd
    · rw [hp] at hplace
      cases hplace
    · obtain ⟨n, -, -, rfl⟩ := mem_virtualDevices hd
      obtain rfl := Option.some.inj hplace
      omega

/-- The devices that were there keep their virtual devices. -/
theorem children_of_lt (hi : i < st.devices.length) : st'.children i = st.children i := by
  have hnew : (virtualDevices g p st.devices.length).filter (fun d => d.parentDev = some i) = [] := by
    refine List.filter_eq_nil_iff.2 ?_
    intro d hd
    obtain ⟨n, -, -, rfl⟩ := mem_virtualDevices hd
    have hne : st.devices.length ≠ i := by omega
    simpa [virtualDevice] using hne
  unfold children
  rw [h, List.filter_append, List.filter_cons_of_neg (by simp [hp]), hnew, List.append_nil]

/-- The virtual devices of the new device are those that come with it. -/
theorem children_new (hbound : st.Bound) : st'.children st.devices.length = virtualDevices g p st.devices.length := by
  have hold : st.devices.filter (fun d => d.parentDev = some st.devices.length) = [] := by
    refine List.filter_eq_nil_iff.2 ?_
    intro d hd hparent
    exact absurd (hbound d hd _ (by simpa using hparent)) (lt_irrefl _)
  have hnew : (virtualDevices g p st.devices.length).filter (fun d => d.parentDev = some st.devices.length) =
      virtualDevices g p st.devices.length := by
    refine List.filter_eq_self.2 ?_
    intro d hd
    obtain ⟨n, -, -, rfl⟩ := mem_virtualDevices hd
    simp [virtualDevice]
  unfold children
  rw [h, List.filter_append, List.filter_cons_of_neg (by simp [hp]), hold, hnew, List.nil_append]

omit hp in
/-- A device with virtual devices was there before, or is the new one. -/
theorem cases_of_getElem? (hd : st'.devices[i]? = some d) (hpos : 0 < d.hwEp.numVirtualChild) :
    (i < st.devices.length ∧ st.devices[i]? = some d) ∨ (i = st.devices.length ∧ d = p) := by
  rw [h] at hd
  by_cases hi : i < st.devices.length
  · rw [List.getElem?_append_left hi] at hd
    exact .inl ⟨hi, hd⟩
  · rw [List.getElem?_append_right (by omega)] at hd
    by_cases heq : i = st.devices.length
    · subst heq
      rw [Nat.sub_self, List.getElem?_cons_zero] at hd
      exact .inr ⟨rfl, (Option.some.inj hd).symm⟩
    · obtain ⟨k, hk⟩ : ∃ k, i - st.devices.length = k + 1 := ⟨i - st.devices.length - 1, by omega⟩
      rw [hk, List.getElem?_cons_succ] at hd
      obtain ⟨n, -, -, rfl⟩ := mem_virtualDevices (List.mem_of_getElem? hd)
      exact absurd hpos (lt_irrefl 0)

end

/-! ## What every turn keeps -/

/-- What is right about a device with virtual devices whatever its name is. -/
structure FamilyFollows (memory : Prop) (st : SndCard) (i : Nat) (d : SndDevice) : Prop where
  one_le : 1 ≤ d.hwEp.numVirtualChild
  le : d.hwEp.numVirtualChild ≤ MAX_VIRTUAL_CHILDS
  count : memory → (st.children i).length = d.hwEp.numVirtualChild
  follow : (st.devices.drop (i + 1)).take (st.children i).length = st.children i
  share : ∀ c ∈ st.children i, c.isVirtualDevice = true ∧ c.groupData = d.groupData

/-- What the name has to bring. -/
def FamilyNamed (st : SndCard) (i : Nat) (d : SndDevice) : Prop :=
  "-VIRT".toList <:+: d.name ∧ ((d :: st.children i).map SndDevice.name).Nodup

theorem familyRight_iff {memory : Prop} {st : SndCard} {i : Nat} {d : SndDevice} :
    st.FamilyRight memory i d ↔ FamilyFollows memory st i d ∧ st.FamilyNamed i d := by
  constructor
  · intro h
    exact ⟨⟨h.one_le, h.le, h.count, h.follow, h.share⟩, h.virt, h.names⟩
  · rintro ⟨h, hvirt, hnames⟩
    exact ⟨hvirt, h.one_le, h.le, h.count, h.follow, h.share, hnames⟩

/-- The devices with virtual devices, and their places. -/
def Parent (st : SndCard) (i : Nat) (d : SndDevice) : Prop :=
  st.devices[i]? = some d ∧ 0 < d.hwEp.numVirtualChild

/-- What is right about the lists after every line. -/
structure Kept (memory : Prop) (st : SndCard) : Prop where
  devices : st.devices.length = st.numAudioIntfs
  groups : st.GroupsRight
  bound : st.Bound
  follows : ∀ i d, st.Parent i d → FamilyFollows memory st i d

theorem kept_empty (memory : Prop) : Kept memory {} where
  devices := rfl
  groups := ⟨List.nodup_nil, rfl⟩
  bound := by
    intro d hd
    cases hd
  follows := by
    rintro i d ⟨hd, -⟩
    cases hd

theorem right_iff {memory : Prop} {st : SndCard} (h : Kept memory st) : st.Right memory ↔ ∀ i d, st.Parent i d → st.FamilyNamed i d := by
  constructor
  · rintro hright i d ⟨hd, hpos⟩
    exact (familyRight_iff.1 (hright.family i d hd hpos)).2
  · intro hnamed
    refine ⟨h.devices, ?_, h.groups.nodup, h.groups.num⟩
    intro i d hd hpos
    exact familyRight_iff.2 ⟨h.follows i d ⟨hd, hpos⟩, hnamed i d ⟨hd, hpos⟩⟩

section

variable {memory : Prop} {g : LineGrants} {st st' : SndCard} {p : SndDevice}

theorem follows_of_lt {i : Nat} {d : SndDevice} (h : st'.devices = st.devices ++ p :: virtualDevices g p st.devices.length)
    (hp : p.parentDev = none) (hi : i < st.devices.length) (hf : FamilyFollows memory st i d) :
    FamilyFollows memory st' i d := by
  have hsame := children_of_lt h hp hi
  refine ⟨hf.one_le, hf.le, ?_, ?_, ?_⟩
  · rw [hsame]
    exact hf.count
  · have hlen := congrArg List.length hf.follow
    rw [List.length_take, List.length_drop] at hlen
    rw [hsame, h, List.drop_append_of_le_length (by omega), List.take_append_of_le_length ?_]
    · exact hf.follow
    · rw [List.length_drop]
      omega
  · rw [hsame]
    exact hf.share

theorem length_virtualDevices (hg : ∀ i, g.child i = true) (hpos : 0 < p.hwEp.numVirtualChild) (place : Nat) :
    (virtualDevices g p place).length = p.hwEp.numVirtualChild := by
  have hall : (List.range p.hwEp.numVirtualChild.toNat).filter g.child = List.range p.hwEp.numVirtualChild.toNat :=
    List.filter_eq_self.2 fun i _ => hg i
  unfold virtualDevices
  rw [List.length_map, hall, List.length_range]
  omega

theorem follows_new (hg : memory → ∀ i, g.child i = true)
    (h : st'.devices = st.devices ++ p :: virtualDevices g p st.devices.length)
    (hp : p.parentDev = none) (hbound : st.Bound) (hpos : 0 < p.hwEp.numVirtualChild)
    (hle : p.hwEp.numVirtualChild ≤ MAX_VIRTUAL_CHILDS) : FamilyFollows memory st' st.devices.length p := by
  have hnew := children_new h hp hbound
  refine ⟨hpos, hle, ?_, ?_, ?_⟩
  · rw [hnew]
    intro hmemory
    exact length_virtualDevices (hg hmemory) hpos _
  · rw [hnew, h, List.drop_append, List.drop_of_length_le (by omega), List.nil_append, Nat.add_sub_cancel_left,
      List.drop_one, List.tail_cons, List.take_length]
  · rw [hnew]
    intro c hc
    obtain ⟨n, -, -, rfl⟩ := mem_virtualDevices hc
    exact ⟨rfl, rfl⟩

/-- **A name that can be read keeps what is right.** -/
theorem Kept.addDevice {t : Target} {name : DeviceName} {ep : HwEpInfo} (h : Kept memory st)
    (hg : memory → ∀ i, g.child i = true) (hep : HwEpInfo.populateDeviceHwEpInfo t name.chars = some ep) :
    Kept memory (st.addDevice g name.chars ep) := by
  obtain ⟨grp, hdev⟩ := devices_addDevice g st name.chars ep
  refine ⟨numAudioIntfs_addDevice h.devices g name.chars ep, h.groups.addDevice g name.chars ep,
    Bound.block hdev rfl h.bound, ?_⟩
  rintro i d ⟨hd, hpos⟩
  rcases cases_of_getElem? hdev hd hpos with ⟨hi, hold⟩ | ⟨rfl, rfl⟩
  · exact follows_of_lt hdev rfl hi (h.follows i d ⟨hold, hpos⟩)
  · exact follows_new hg hdev rfl h.bound hpos (HwEpInfo.read_name hep).1

theorem Kept.addLine {t : Target} (h : Kept memory st) (hg : memory → ∀ i, g.child i = true) (line : CString) :
    Kept memory (st.addLine t g line) := by
  unfold SndCard.addLine
  split
  · exact h
  · exact h.addDevice hg ‹_›

end

end SndCard

/-! ## The names of the virtual devices -/

/-- A virtual device has the name of its parent exactly if its number stands there already, and all of it is kept. -/
theorem updateVirtualDeviceName_eq_iff {name : CString} {pos i : Nat} (hpos : strstr VIRT name = some pos)
    (hi : i < 10) : updateVirtualDeviceName name i = name ↔
      name[pos + 5]? = some (Nat.digitChar i) ∧ name.length ≤ pos + 25 := by
  have hname : updateVirtualDeviceName name i =
      name.take (pos + 5) ++ (Nat.digitChar i :: (name.drop (pos + 6)).take 19) := by
    unfold updateVirtualDeviceName
    rw [hpos, decimal_of_lt hi]
    rfl
  have hsplit : name.take (pos + 5) ++ name.drop (pos + 5) = name := List.take_append_drop _ _
  rw [hname]
  conv_lhs => rw [← hsplit]
  have htake : (name.take (pos + 5) ++ name.drop (pos + 5)).take (pos + 5) = name.take (pos + 5) := by rw [hsplit]
  have hdrop : (name.take (pos + 5) ++ name.drop (pos + 5)).drop (pos + 6) = name.drop (pos + 6) := by rw [hsplit]
  rw [htake, hdrop, List.append_cancel_left_eq]
  rcases hrest : name.drop (pos + 5) with _ | ⟨c, cs⟩
  · have hnone : name[pos + 5]? = none := by
      rw [List.getElem?_eq_none_iff]
      exact List.drop_eq_nil_iff.1 hrest
    simp [hnone]
  · have hc : name[pos + 5]? = some c := by
      rw [← List.head?_drop, hrest, List.head?_cons]
    have hcs : name.drop (pos + 6) = cs := by
      rw [← List.tail_drop, hrest, List.tail_cons]
    have hlen : name.length = pos + 5 + (cs.length + 1) := by
      have := congrArg List.length hrest
      rw [List.length_drop, List.length_cons] at this
      omega
    rw [hc, hcs, List.cons.injEq, List.take_eq_self_iff, Option.some.injEq, hlen]
    constructor
    · rintro ⟨hd, hle⟩
      exact ⟨hd.symm, by omega⟩
    · rintro ⟨hd, hle⟩
      exact ⟨hd.symm, by omega⟩

namespace SndCard

/-- Every device with virtual devices has a name that fits them. -/
def Named (st : SndCard) : Prop := ∀ i d, st.Parent i d → st.FamilyNamed i d

section

variable {g : LineGrants} {st st' : SndCard} {p : SndDevice}

theorem map_name_virtualDevices (g : LineGrants) (p : SndDevice) (place : Nat) :
    (virtualDevices g p place).map SndDevice.name =
      ((List.range p.hwEp.numVirtualChild.toNat).filter g.child).map (updateVirtualDeviceName p.name) := by
  unfold virtualDevices
  rw [List.map_map]
  rfl

theorem nodup_virtualDevices (place : Nat) (hle : p.hwEp.numVirtualChild ≤ MAX_VIRTUAL_CHILDS)
    (hvirt : VIRT <:+: p.name) : ((virtualDevices g p place).map SndDevice.name).Nodup := by
  rw [map_name_virtualDevices]
  have hlt (i : Nat) (hi : i ∈ (List.range p.hwEp.numVirtualChild.toNat).filter g.child) : i < 8 := by
    have hmem := List.mem_range.1 (List.mem_filter.1 hi).1
    have hle' : p.hwEp.numVirtualChild ≤ 8 := hle
    omega
  refine List.Nodup.map_on ?_ (List.nodup_range.filter _)
  intro i hi j hj heq
  exact updateVirtualDeviceName_inj hvirt (hlt i hi) (hlt j hj) heq

/-- The name of the new device fits its virtual devices exactly if it announces them where they are looked for. -/
theorem named_new_iff (h : st'.devices = st.devices ++ p :: virtualDevices g p st.devices.length)
    (hp : p.parentDev = none) (hbound : st.Bound) (hle : p.hwEp.numVirtualChild ≤ MAX_VIRTUAL_CHILDS)
    (hvirt : VIRT <:+: p.name) :
    st'.FamilyNamed st.devices.length p ↔ NameAnnounces g p.name p.hwEp.numVirtualChild := by
  obtain ⟨pos, hpos⟩ := Option.isSome_iff_exists.1 ((strstr_isSome_iff _ _).2 hvirt)
  have hle' : p.hwEp.numVirtualChild ≤ 8 := hle
  unfold FamilyNamed NameAnnounces
  rw [children_new h hp hbound, List.map_cons, List.nodup_cons]
  refine and_congr_right fun _ => ?_
  rw [and_iff_left (nodup_virtualDevices _ hle hvirt), map_name_virtualDevices]
  constructor
  · intro hnot i hi hgrant pos' hpos' hsame
    obtain rfl : pos = pos' := Option.some.inj (hpos.symm.trans hpos')
    refine hnot (List.mem_map.2 ⟨i, List.mem_filter.2 ⟨List.mem_range.2 (by omega), hgrant⟩, ?_⟩)
    exact (updateVirtualDeviceName_eq_iff hpos (by omega)).2 hsame
  · intro hnew hmem
    obtain ⟨i, hi, heq⟩ := List.mem_map.1 hmem
    obtain ⟨hrange, hgrant⟩ := List.mem_filter.1 hi
    have hlt := List.mem_range.1 hrange
    exact hnew i (by omega) hgrant pos hpos ((updateVirtualDeviceName_eq_iff hpos (by omega)).1 heq)

theorem parent_of_lt {i : Nat} {d : SndDevice}
    (h : st'.devices = st.devices ++ p :: virtualDevices g p st.devices.length) (hd : st.Parent i d) :
    i < st.devices.length ∧ st'.Parent i d := by
  have hi := (List.getElem?_eq_some_iff.1 hd.1).1
  refine ⟨hi, ?_, hd.2⟩
  rw [h, List.getElem?_append_left hi]
  exact hd.1

/-- **What a name that can be read does to the names.** -/
theorem named_addDevice_iff {t : Target} {name : DeviceName} {ep : HwEpInfo} (hbound : st.Bound)
    (hep : HwEpInfo.populateDeviceHwEpInfo t name.chars = some ep) :
    (st.addDevice g name.chars ep).Named ↔
      st.Named ∧ (0 < ep.numVirtualChild → NameAnnounces g name.chars ep.numVirtualChild) := by
  obtain ⟨grp, hdev⟩ := devices_addDevice g st name.chars ep
  obtain ⟨hle, hvirt⟩ := HwEpInfo.read_name hep
  constructor
  · intro hnamed
    constructor
    · intro i d hd
      obtain ⟨hi, hd'⟩ := parent_of_lt hdev hd
      have := hnamed i d hd'
      unfold FamilyNamed at this ⊢
      rwa [children_of_lt hdev rfl hi] at this
    · intro hpos
      refine (named_new_iff hdev rfl hbound hle (hvirt hpos)).1 (hnamed _ _ ⟨?_, hpos⟩)
      rw [hdev, List.getElem?_append_right (Nat.le_refl _), Nat.sub_self, List.getElem?_cons_zero]
  · rintro ⟨hold, hnew⟩ i d ⟨hd, hpos⟩
    rcases cases_of_getElem? hdev hd hpos with ⟨hi, hd'⟩ | ⟨rfl, rfl⟩
    · have := hold i d ⟨hd', hpos⟩
      unfold FamilyNamed at this ⊢
      rwa [children_of_lt hdev rfl hi]
    · exact (named_new_iff hdev rfl hbound hle (hvirt hpos)).2 (hnew hpos)

end

/-! ## The whole text -/

/-- Every line that brings virtual devices announces them where they are looked for. -/
def Announced (t : Target) (grants : Nat → LineGrants) (lines : List CString) : Prop :=
  ∀ k line, lines[k]? = some line → ∀ ep, HwEpInfo.populateDeviceHwEpInfo t (pcmName line).chars = some ep →
    0 < ep.numVirtualChild → NameAnnounces (grants k) (pcmName line).chars ep.numVirtualChild

theorem announced_cons {t : Target} {grants : Nat → LineGrants} {line : CString} {lines : List CString} :
    Announced t grants (line :: lines) ↔
      (∀ ep, HwEpInfo.populateDeviceHwEpInfo t (pcmName line).chars = some ep → 0 < ep.numVirtualChild →
        NameAnnounces (grants 0) (pcmName line).chars ep.numVirtualChild) ∧
      Announced t (fun n => grants (n + 1)) lines := by
  constructor
  · intro h
    exact ⟨h 0 line rfl, fun k l hl => h (k + 1) l hl⟩
  · rintro ⟨hfirst, hrest⟩ k l hl
    cases k with
    | zero =>
      obtain rfl := Option.some.inj hl
      exact hfirst
    | succ k => exact hrest k l hl

/-- A turn of the loop: the names fit as before, and those of the line do. -/
theorem named_addLine_iff {t : Target} {g : LineGrants} {st : SndCard} (hbound : st.Bound) (line : CString) :
    (st.addLine t g line).Named ↔ st.Named ∧
      ∀ ep, HwEpInfo.populateDeviceHwEpInfo t (pcmName line).chars = some ep → 0 < ep.numVirtualChild →
        NameAnnounces g (pcmName line).chars ep.numVirtualChild := by
  unfold addLine
  cases hep : HwEpInfo.populateDeviceHwEpInfo t (pcmName line).chars with
  | none => simp
  | some ep =>
    refine (named_addDevice_iff hbound hep).trans (and_congr_right fun _ => ?_)
    simp

/-- **The loop**, from lists that are as they should be. -/
theorem parseLoop_keeps {memory : Prop} {t : Target} {lines : List CString} :
    ∀ {grants : Nat → LineGrants} {st st' : SndCard}, (memory → ∀ k i, (grants k).child i = true) →
      parseLoop t grants lines st = .ok st' → Kept memory st →
        Kept memory st' ∧ (st'.Named ↔ st.Named ∧ Announced t grants lines) := by
  induction lines with
  | nil =>
    intro grants st st' _ h hk
    rw [parseLoop] at h
    split at h
    · cases h
    · obtain rfl := Except.ok.inj h
      exact ⟨hk, by simp [Announced]⟩
  | cons line lines ih =>
    intro grants st st' hgrants h hk
    rw [parseLoop] at h
    split at h
    · cases h
    · have hrest (hm : memory) (k i : Nat) : (grants (k + 1)).child i = true := hgrants hm (k + 1) i
      obtain ⟨hk', hnamed⟩ := ih hrest h (hk.addLine (fun hm => hgrants hm 0) line)
      refine ⟨hk', ?_⟩
      rw [hnamed, named_addLine_iff hk.bound, announced_cons, and_assoc]

end SndCard

/-- **`parse_snd_card` makes what it should exactly where the names of the parents announce their virtual devices.** -/
theorem sndCard_right_iff (t : Target) (grants : Nat → LineGrants) (text : CString) (st : SndCard)
    (h : SndCard.parse t grants text = .ok st) :
    st.Right (∀ k i, (grants k).child i = true) ↔ ∀ k line, (fileLines text.length text)[k]? = some line →
      ∀ ep, HwEpInfo.populateDeviceHwEpInfo t (pcmName line).chars = some ep → 0 < ep.numVirtualChild →
        NameAnnounces (grants k) (pcmName line).chars ep.numVirtualChild := by
  obtain ⟨hk, hnamed⟩ := SndCard.parseLoop_keeps id h (SndCard.kept_empty _)
  have hempty : SndCard.Named {} := by
    rintro i d ⟨hd, -⟩
    cases hd
  exact (SndCard.right_iff hk).trans (hnamed.trans (and_iff_right hempty))

/-- A PCM with two virtual devices. -/
def PcmFile.twoVirtual : CString := "00-00: TDM-LPAIF-TX-PRIMARY-VIRT-2 : : capture 1\n".toList

/-- The list of its devices. -/
def SndCard.twoVirtual : SndCard where
  devices :=
    [⟨"TDM-LPAIF-TX-PRIMARY-VIRT-2".toList, ⟨.tdm, AUDIO_INPUT, .cdcDmaI2sTdm .lpaif 0, 2⟩, false, none, some 0⟩,
      ⟨"TDM-LPAIF-TX-PRIMARY-VIRT-0".toList, ⟨.tdm, AUDIO_INPUT, .cdcDmaI2sTdm .lpaif 0, 0⟩, true, some 0, some 0⟩,
      ⟨"TDM-LPAIF-TX-PRIMARY-VIRT-1".toList, ⟨.tdm, AUDIO_INPUT, .cdcDmaI2sTdm .lpaif 0, 0⟩, true, some 0, some 0⟩]
  groups := [⟨"TDM-LPAIF-TX-PRIMARY".toList, false⟩]
  numAudioIntfs := 3
  numGroupDevices := 1

theorem sndCard_right_twoVirtual :
    SndCard.parse {} (fun _ => {}) PcmFile.twoVirtual = .ok SndCard.twoVirtual ∧
      SndCard.twoVirtual.Right (∀ _ _ : Nat, true = true) := by
  have h : SndCard.parse {} (fun _ => {}) PcmFile.twoVirtual = .ok SndCard.twoVirtual := by decide +kernel
  refine ⟨h, (sndCard_right_iff {} (fun _ => {}) PcmFile.twoVirtual SndCard.twoVirtual h).2 ?_⟩
  have hlines : fileLines PcmFile.twoVirtual.length PcmFile.twoVirtual = [PcmFile.twoVirtual] := by decide +kernel
  have hread : HwEpInfo.populateDeviceHwEpInfo {} (pcmName PcmFile.twoVirtual).chars =
      some ⟨.tdm, AUDIO_INPUT, .cdcDmaI2sTdm .lpaif 0, 2⟩ := by decide +kernel
  have hplace : strstr VIRT (pcmName PcmFile.twoVirtual).chars = some 21 := by decide +kernel
  have hdigit : (pcmName PcmFile.twoVirtual).chars[26]? = some '2' := by decide +kernel
  intro k line hline ep hep hpos
  rw [hlines] at hline
  obtain rfl := List.mem_singleton.1 (List.mem_of_getElem? hline)
  obtain rfl := Option.some.inj (hread.symm.trans hep)
  refine ⟨(strstr_isSome_iff _ _).1 (by decide +kernel), ?_⟩
  intro i hi _ pos hpos' hsame
  obtain rfl := Option.some.inj (hplace.symm.trans hpos')
  have hsame' := hdigit.symm.trans hsame.1
  have hlt : i < 2 := by
    have : (i : Int) < 2 := hi
    omega
  interval_cases i
  · exact absurd hsame' (by decide)
  · exact absurd hsame' (by decide)

/-- A number of two digits, the second of which stays: one virtual device is called like its parent. -/
def PcmFile.tenVirtual : CString := "00-00: TDM-LPAIF-TX-PRIMARY-VIRT-10 : : capture 1\n".toList

/-- The virtual devices are announced, but not in a field of their own. -/
def PcmFile.threeXVirtual : CString := "00-00: TDM-LPAIF-TX-PRIMARY-XVIRT-3 : : capture 1\n".toList

/-- The first device of a list has virtual devices, and its name does not fit them. -/
def SndCard.firstMisnamed (st : SndCard) : Bool :=
  match st.devices[0]? with
  | none => false
  | some d =>
    0 < d.hwEp.numVirtualChild ∧
      ¬ ((strstr "-VIRT".toList d.name).isSome ∧ ((d :: st.children 0).map SndDevice.name).Nodup)

theorem SndCard.not_right_of_firstMisnamed {st : SndCard} (h : st.firstMisnamed = true) (memory : Prop) :
    ¬ st.Right memory := by
  intro hright
  unfold firstMisnamed at h
  split at h
  · cases h
  · obtain ⟨hpos, hnot⟩ := of_decide_eq_true h
    have hfamily := hright.family 0 _ ‹_› hpos
    exact hnot ⟨(strstr_isSome_iff _ _).2 hfamily.virt, hfamily.names⟩

theorem SndCard.exists_ok_of_any {p : SndCard → Bool} {r : Except Int SndCard} (h : r.toOption.any p = true) :
    ∃ st, r = .ok st ∧ p st = true := by
  cases r with
  | error e => cases h
  | ok st => exact ⟨st, rfl, h⟩

theorem not_sndCard_right :
    (∃ st, SndCard.parse {} (fun _ => {}) PcmFile.tenVirtual = .ok st ∧ ¬ st.Right True) ∧
      ∃ st, SndCard.parse {} (fun _ => {}) PcmFile.threeXVirtual = .ok st ∧ ¬ st.Right True := by
  obtain ⟨ten, hten, hnotTen⟩ := SndCard.exists_ok_of_any (p := SndCard.firstMisnamed)
    (show (SndCard.parse {} (fun _ => {}) PcmFile.tenVirtual).toOption.any SndCard.firstMisnamed = true by
      decide +kernel)
  obtain ⟨three, hthree, hnotThree⟩ := SndCard.exists_ok_of_any (p := SndCard.firstMisnamed)
    (show (SndCard.parse {} (fun _ => {}) PcmFile.threeXVirtual).toOption.any SndCard.firstMisnamed = true by
      decide +kernel)
  exact ⟨⟨ten, hten, SndCard.not_right_of_firstMisnamed hnotTen _⟩,
    ⟨three, hthree, SndCard.not_right_of_firstMisnamed hnotThree _⟩⟩

/-! ## The list of devices as it is used elsewhere -/

/-- What of a line the list is made from. -/
def pcmLine (g : LineGrants) (line : CString) : PcmLine := ⟨pcmIdname line, g.device, g.child⟩

/-- The lines of the file, with the grants. -/
def pcmLines (grants : Nat → LineGrants) : List CString → List PcmLine
  | [] => []
  | line :: lines => pcmLine (grants 0) line :: pcmLines (fun n => grants (n + 1)) lines

/-- What of a device is used. -/
def SndDevice.listed (d : SndDevice) : ListedDevice := ⟨d.name, d.hwEp.dir, d.isVirtualDevice⟩

theorem name_pcmLine (g : LineGrants) (line : CString) : (pcmLine g line).name = (pcmName line).chars := by
  have hshort := (pcmName line).short
  exact List.take_of_length_le (show (pcmIdname line).length ≤ 79 from Nat.le_of_lt_succ hshort)

theorem map_listed_virtualDevices (g : LineGrants) (p : SndDevice) (place : Nat) :
    (SndCard.virtualDevices g p place).map SndDevice.listed =
      ((List.range p.hwEp.numVirtualChild.toNat).filter g.child).map fun i =>
        ⟨updateVirtualDeviceName p.name i, p.hwEp.dir, true⟩ := by
  unfold SndCard.virtualDevices
  rw [List.map_map]
  rfl

/-- The devices of a line are those that are read off its name. -/
theorem map_listed_addLine (t : Target) (g : LineGrants) (st : SndCard) (line : CString) :
    (st.addLine t g line).devices.map SndDevice.listed =
      st.devices.map SndDevice.listed ++ (pcmLine g line).devices t := by
  have hep := populateDeviceHwEpInfo_ep t (pcmName line)
  unfold SndCard.addLine PcmLine.devices PcmLine.childNames PcmLine.children
  rw [name_pcmLine, ← hep]
  cases HwEpInfo.populateDeviceHwEpInfo t (pcmName line).chars with
  | none => simp
  | some ep =>
    obtain ⟨grp, hdev⟩ := SndCard.devices_addDevice g st (pcmName line).chars ep
    simp only [hdev, List.map_append, List.map_cons, map_listed_virtualDevices, List.map_map]
    rfl

/-- **The list of devices is the one that the interfaces are listed from.** -/
theorem parse_listed (t : Target) (grants : Nat → LineGrants) (text : CString) :
    (SndCard.parse t grants text).map (fun st => st.devices.map SndDevice.listed) =
      parseSndCard t (pcmLines grants (fileLines text.length text)) := by
  have hloop (lines : List CString) : ∀ (grants : Nat → LineGrants) (st : SndCard), SndCard.Kept False st →
      (SndCard.parseLoop t grants lines st).map (fun st => st.devices.map SndDevice.listed) =
        parseLines t (pcmLines grants lines) (st.devices.map SndDevice.listed) := by
    induction lines with
    | nil =>
      intro grants st hk
      rw [SndCard.parseLoop, pcmLines, parseLines, ← hk.devices]
      by_cases hnil : st.devices = []
      · simp [hnil, Except.map]
      · simp [hnil, Except.map]
    | cons line lines ih =>
      intro grants st hk
      rw [SndCard.parseLoop, pcmLines, parseLines]
      change _ = if ¬ (grants 0).device = true then _ else _
      split
      · rfl
      · rw [ih _ _ (hk.addLine False.elim line), map_listed_addLine]
  exact hloop _ grants {} (SndCard.kept_empty False)

end Agm.Service
