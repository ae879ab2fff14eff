import Mathlib.Data.List.Nodup
import Mathlib.Data.List.Pairwise
import Agm.Lib.CString
import Agm.Service.MetadataCopy

/-!
# The devices of the sound card

`parse_snd_card` (`device.c`) makes a device of every PCM whose name `populate_device_hw_ep_info` (`device_hw_ep.c`)
can read, and behind it the virtual devices that the name announces: a name `…VIRT-3…` brings three, which are called
like their parent with their own number in the place of the `3`.

Of what is read off a name only the direction and the number of virtual devices is used later; the other fields are
checked and left out.
-/

namespace Agm.Service

open Agm.Lib CString

def AUDIO_INPUT : Nat := 2

def MAX_DEV_NAME_LEN : Nat := 80
def DEV_ARG_SIZE : Nat := 21
def DEV_VALUE_SIZE : Nat := 61
def MAX_VIRTUAL_CHILDS : Int := 8

/-- The largest `long`. -/
def Target.longMax (t : Target) : Nat := t.sizeMod / 2 - 1

/-! ## Reading a name -/

/-- The interfaces a name can start with. -/
inductive HwIntf
  | slimbus | displayPort | usbAudio | codecDma | mi2s | tdm | auxpcm | pcmRtProxy | audiossDma | pcmDummy
  deriving DecidableEq, Repr

/-- What is read off a name. -/
structure HwEp where
  intf : HwIntf
  dir : Nat
  numVirtualChild : Int := 0
  deriving DecidableEq, Repr

/-- The two buffers the fields of a name are read into. -/
structure Scan where
  arg : CString
  value : CString
  deriving DecidableEq, Repr

/-- `sscanf(src, "%20[^-]-%60s", arg, value)`.  What is not read leaves its buffer as it is. -/
def Scan.read (s : Scan) (src : CString) : Scan :=
  let field := (src.takeWhile (· ≠ '-')).take (DEV_ARG_SIZE - 1)
  if field = [] then s
  else match src.drop field.length with
    | '-' :: c :: cs => ⟨field, (c :: cs).take (DEV_VALUE_SIZE - 1)⟩
    | _ => ⟨field, s.value⟩

/-- `sscanf(value, "%20[^-]-%60s", arg, value)`. -/
def Scan.next (s : Scan) : Scan := s.read s.value

/-- `populate_hw_ep_intf`. -/
def populateHwEpIntf (intf : CString) : Option HwIntf :=
  [("SLIM".toList, HwIntf.slimbus), ("DISPLAY_PORT".toList, .displayPort), ("USB_AUDIO".toList, .usbAudio),
    ("CODEC_DMA".toList, .codecDma), ("MI2S".toList, .mi2s), ("TDM".toList, .tdm), ("AUXPCM".toList, .auxpcm),
    ("PCM_RT_PROXY".toList, .pcmRtProxy), ("AUDIOSS_DMA".toList, .audiossDma),
    ("PCM_DUMMY".toList, .pcmDummy)].lookup intf

/-- `populate_hw_ep_direction`. -/
def populateHwEpDirection (dir : CString) : Option Nat :=
  if dir = "RX".toList then some AUDIO_OUTPUT else if dir = "TX".toList then some AUDIO_INPUT else none

/-- `populate_hw_ep_intf_idx`: the index is one of those the interface has. -/
def populateHwEpIntfIdx (intf : HwIntf) (idx : CString) : Bool :=
  match intf with
  | .codecDma => idx ∈ ["0", "1", "2", "3", "4", "5", "6", "7"].map String.toList
  | .mi2s | .tdm | .auxpcm =>
    idx ∈ ["PRIMARY", "SECONDARY", "TERTIARY", "QUATERNARY", "QUINARY", "SENARY"].map String.toList
  | _ => false

/-- The low-power audio interfaces. -/
def lpaifTypes : List CString :=
  ["LPAIF", "LPAIF_RXTX", "LPAIF_WSA", "LPAIF_VA", "LPAIF_AXI", "LPAIF_AUD"].map String.toList

def VIRT : CString := "VIRT-".toList

section

variable (t : Target)

/-- The number of virtual devices, read off what follows the index. -/
def numVirtChild (s : Scan) : Int :=
  if (strstr VIRT s.value).isSome then min (atoi t.longMax s.next.next.arg) MAX_VIRTUAL_CHILDS else 0

/-- `populate_cdc_dma_i2s_tdm_pcm_ep_info`. -/
def populateCdcDmaI2sTdmPcmEpInfo (intf : HwIntf) (value : CString) : Option HwEp :=
  let lpaifType := Scan.next ⟨[], value⟩
  let dir := lpaifType.next
  let intfIdx := dir.next
  if lpaifType.arg ∉ lpaifTypes then none
  else match populateHwEpDirection dir.arg with
    | none => none
    | some d => if populateHwEpIntfIdx intf intfIdx.arg then some ⟨intf, d, numVirtChild t intfIdx⟩ else none

/-- `populate_slim_dp_usb_ep_info`. -/
def populateSlimDpUsbEpInfo (intf : HwIntf) (value : CString) : Option HwEp :=
  let s : Scan := ⟨[], value⟩
  if intf = .slimbus then
    let devId := s.next
    if devId.arg ∉ ["DEV1", "DEV2"].map String.toList then none
    else (populateHwEpDirection devId.next.arg).map (⟨intf, ·, 0⟩)
  else (populateHwEpDirection s.next.arg).map (⟨intf, ·, 0⟩)

/-- `populate_pcm_rt_proxy_ep_info` and `populate_pcm_dummy_ep_info`, which differ in the field the number of the
device goes to. -/
def populatePcmProxyEpInfo (intf : HwIntf) (value : CString) : Option HwEp :=
  (populateHwEpDirection (Scan.next ⟨[], value⟩).arg).map (⟨intf, ·, 0⟩)

/-- `populate_audioss_dma_ep_info`. -/
def populateAudiossDmaEpInfo (intf : HwIntf) (value : CString) : Option HwEp :=
  let lpaifType := Scan.next ⟨[], value⟩
  if lpaifType.arg ≠ "LPAIF_VA".toList then none
  else (populateHwEpDirection lpaifType.next.arg).map (⟨intf, ·, 0⟩)

/-- `populate_device_hw_ep_info`. -/
def populateDeviceHwEpInfo (name : CString) : Option HwEp :=
  let s := Scan.read ⟨[], []⟩ name
  match populateHwEpIntf s.arg with
  | none => none
  | some intf =>
    match intf with
    | .codecDma | .mi2s | .tdm | .auxpcm => populateCdcDmaI2sTdmPcmEpInfo t intf s.value
    | .slimbus | .displayPort | .usbAudio => populateSlimDpUsbEpInfo intf s.value
    | .pcmRtProxy | .pcmDummy => populatePcmProxyEpInfo intf s.value
    | .audiossDma => populateAudiossDmaEpInfo intf s.value

end

/-! ## The device list -/

/-- `update_virtual_device_name`: what follows `VIRT-` is printed over itself, the first character replaced, into what
is taken for a buffer of `DEV_ARG_SIZE` bytes. -/
def updateVirtualDeviceName (name : CString) (num : Nat) : CString :=
  match strstr VIRT name with
  | none => name
  | some i =>
    let pos := i + VIRT.length
    name.take pos ++ bounded DEV_ARG_SIZE (decimal num ++ name.drop (pos + 1))

/-- A line of `/proc/asound/pcm`: the name of the PCM, and whether there is memory for its device and for the virtual
ones. -/
structure PcmLine where
  idname : CString
  granted : Bool := true
  childGranted : Nat → Bool := fun _ => true

/-- `struct device_obj`, the fields the list of interfaces is made from. -/
structure ListedDevice where
  name : CString
  dir : Nat
  isVirtualDevice : Bool := false
  deriving DecidableEq, Repr

namespace PcmLine

variable (t : Target) (l : PcmLine)

/-- `%79s`. -/
def name : CString := bounded MAX_DEV_NAME_LEN l.idname

/-- The name can be read. -/
def accepted : Bool := (populateDeviceHwEpInfo t l.name).isSome

/-- The numbers of the virtual devices there is memory for. -/
def children : List Nat :=
  match populateDeviceHwEpInfo t l.name with
  | none => []
  | some ep => (List.range ep.numVirtualChild.toNat).filter l.childGranted

/-- The names of the virtual devices. -/
def childNames : List CString := (l.children t).map (updateVirtualDeviceName l.name)

/-- The devices a line brings. -/
def devices : List ListedDevice :=
  match populateDeviceHwEpInfo t l.name with
  | none => []
  | some ep => ⟨l.name, ep.dir, false⟩ :: (l.childNames t).map fun n => ⟨n, ep.dir, true⟩

end PcmLine

/-- The loop of `parse_snd_card`; a list without a device is no list. -/
def parseLines (t : Target) : List PcmLine → List ListedDevice → Except Int (List ListedDevice)
  | [], devs => if devs = [] then .error (-EAGAIN) else .ok devs
  | l :: ls, devs => if ¬ l.granted then .error (-ENOMEM) else parseLines t ls (devs ++ l.devices t)

/-- `parse_snd_card`. -/
def parseSndCard (t : Target) (lines : List PcmLine) : Except Int (List ListedDevice) := parseLines t lines []

/-! ## What the list is made of -/

theorem parseLines_ok {t : Target} {lines : List PcmLine} : ∀ {acc devs : List ListedDevice},
    parseLines t lines acc = .ok devs → devs = acc ++ lines.flatMap (·.devices t) := by
  induction lines with
  | nil =>
    intro acc devs h
    unfold parseLines at h
    split at h
    · cases h
    · simpa using (Except.ok.inj h).symm
  | cons l ls ih =>
    intro acc devs h
    unfold parseLines at h
    split at h
    · cases h
    · rw [ih h]
      simp

theorem parseSndCard_ok {t : Target} {lines : List PcmLine} {devs : List ListedDevice}
    (h : parseSndCard t lines = .ok devs) : devs = lines.flatMap (·.devices t) := by
  simpa using parseLines_ok h

theorem populateHwEpDirection_cases {dir : CString} {d : Nat} (h : populateHwEpDirection dir = some d) :
    d = AUDIO_OUTPUT ∨ d = AUDIO_INPUT := by
  unfold populateHwEpDirection at h
  split at h
  · exact .inl (Option.some.inj h).symm
  · split at h
    · exact .inr (Option.some.inj h).symm
    · cases h

/-- A device is an output or an input, and one with virtual devices has `VIRT-` in its name. -/
structure HwEp.Read (name : CString) (ep : HwEp) : Prop where
  dir : ep.dir = AUDIO_OUTPUT ∨ ep.dir = AUDIO_INPUT
  le : ep.numVirtualChild ≤ MAX_VIRTUAL_CHILDS
  virt : 0 < ep.numVirtualChild → VIRT <:+: name

theorem HwEp.Read.of_direction {name : CString} {intf : HwIntf} {o : Option Nat} {ep : HwEp}
    (hdir : ∀ d, o = some d → d = AUDIO_OUTPUT ∨ d = AUDIO_INPUT) (h : o.map (HwEp.mk intf · 0) = some ep) :
    ep.Read name := by
  obtain ⟨d, hd, rfl⟩ := Option.map_eq_some_iff.1 h
  refine ⟨hdir d hd, show (0 : Int) ≤ 8 by decide, ?_⟩
  intro hpos
  exact absurd hpos (lt_irrefl 0)

theorem Scan.read_infix {s : Scan} {src name : CString} (hs : s.value <:+: name) (hsrc : src <:+: name) :
    (s.read src).value <:+: name := by
  unfold Scan.read
  set field := (src.takeWhile (· ≠ '-')).take (DEV_ARG_SIZE - 1) with hfield
  have htail := List.drop_suffix field.length src
  dsimp only
  split
  · exact hs
  · split
    · rename_i c cs hdrop
      rw [hdrop] at htail
      have hrest := (List.suffix_cons _ _).trans htail
      exact ((List.take_prefix _ _).isInfix.trans hrest.isInfix).trans hsrc
    · exact hs

theorem Scan.next_infix {s : Scan} {name : CString} (hs : s.value <:+: name) : s.next.value <:+: name :=
  s.read_infix hs hs

theorem populateCdcDmaI2sTdmPcmEpInfo_read {t : Target} {intf : HwIntf} {value name : CString} {ep : HwEp}
    (hvalue : value <:+: name) (h : populateCdcDmaI2sTdmPcmEpInfo t intf value = some ep) : ep.Read name := by
  unfold populateCdcDmaI2sTdmPcmEpInfo at h
  dsimp only at h
  split at h
  · cases h
  · split at h
    · cases h
    · split at h
      · obtain rfl := Option.some.inj h
        have hrest : (Scan.next (Scan.next (Scan.next ⟨[], value⟩))).value <:+: name :=
          Scan.next_infix (Scan.next_infix (Scan.next_infix hvalue))
        refine ⟨populateHwEpDirection_cases ‹_›, ?_, ?_⟩
        · show numVirtChild _ _ ≤ _
          unfold numVirtChild
          split
          · exact min_le_right _ _
          · decide
        · intro hpos
          replace hpos : 0 < numVirtChild t _ := hpos
          unfold numVirtChild at hpos
          split at hpos
          · exact ((strstr_isSome_iff _ _).1 ‹_›).trans hrest
          · exact absurd hpos (by decide)
      · cases h

theorem populateDeviceHwEpInfo_read {t : Target} {name : CString} {ep : HwEp}
    (h : populateDeviceHwEpInfo t name = some ep) : ep.Read name := by
  have hvalue : (Scan.read ⟨[], []⟩ name).value <:+: name :=
    Scan.read_infix (List.nil_prefix.isInfix) (List.infix_refl name)
  unfold populateDeviceHwEpInfo at h
  dsimp only at h
  split at h
  · cases h
  · split at h
    case h_1 | h_2 | h_3 | h_4 => exact populateCdcDmaI2sTdmPcmEpInfo_read hvalue h
    case h_5 | h_6 | h_7 =>
      unfold populateSlimDpUsbEpInfo at h
      dsimp only at h
      split at h
      · split at h
        · cases h
        · exact .of_direction (fun _ => populateHwEpDirection_cases) h
      · exact .of_direction (fun _ => populateHwEpDirection_cases) h
    case h_8 | h_9 => exact .of_direction (fun _ => populateHwEpDirection_cases) h
    case h_10 =>
      unfold populateAudiossDmaEpInfo at h
      dsimp only at h
      split at h
      · cases h
      · exact .of_direction (fun _ => populateHwEpDirection_cases) h

/-! ## The names of the virtual devices -/

/-- A number below ten is one character, and tells its devices apart. -/
theorem decimal_of_lt {n : Nat} (h : n < 10) : decimal n = [Nat.digitChar n] := Nat.toDigits_of_lt_base h

/-- Up to eight virtual devices are called differently. -/
theorem updateVirtualDeviceName_inj {name : CString} (hvirt : VIRT <:+: name) {i j : Nat} (hi : i < 8) (hj : j < 8)
    (h : updateVirtualDeviceName name i = updateVirtualDeviceName name j) : i = j := by
  obtain ⟨pos, hpos⟩ := Option.isSome_iff_exists.1 ((strstr_isSome_iff _ _).2 hvirt)
  unfold updateVirtualDeviceName at h
  rw [hpos, decimal_of_lt (by omega), decimal_of_lt (by omega)] at h
  have hdigit : Nat.digitChar i = Nat.digitChar j := by
    simpa [bounded, DEV_ARG_SIZE] using (List.cons.inj (List.append_cancel_left h)).1
  interval_cases i <;> interval_cases j <;> first | rfl | exact absurd hdigit (by decide)

section

variable {t : Target} {l : PcmLine}

/-- Virtual devices come with a name that has `VIRT-` in it, and there are at most eight. -/
theorem lt_of_mem_children {i : Nat} (hi : i ∈ l.children t) : VIRT <:+: l.name ∧ i < 8 := by
  unfold PcmLine.children at hi
  split at hi
  · cases hi
  · have hread := populateDeviceHwEpInfo_read ‹_›
    have hlt := List.mem_range.1 (List.mem_filter.1 hi).1
    have hle : _ ≤ (8 : Int) := hread.le
    exact ⟨hread.virt (by omega), by omega⟩

theorem nodup_childNames (t : Target) (l : PcmLine) : (l.childNames t).Nodup := by
  unfold PcmLine.childNames
  refine List.Nodup.map_on ?_ ?_
  · intro i hi j hj h
    obtain ⟨hvirt, hi8⟩ := lt_of_mem_children hi
    exact updateVirtualDeviceName_inj hvirt hi8 (lt_of_mem_children hj).2 h
  · unfold PcmLine.children
    split
    · exact List.nodup_nil
    · exact List.nodup_range.filter _

/-- The names a line brings. -/
theorem map_name_devices (t : Target) (l : PcmLine) : (l.devices t).map ListedDevice.name =
    if l.accepted t then l.name :: l.childNames t else [] := by
  unfold PcmLine.devices PcmLine.accepted
  cases populateDeviceHwEpInfo t l.name with
  | none => rfl
  | some ep => simp [Function.comp_def]

theorem mem_names_iff {n : CString} :
    n ∈ (l.devices t).map ListedDevice.name ↔ l.accepted t ∧ (n = l.name ∨ n ∈ l.childNames t) := by
  rw [map_name_devices]
  split <;> simp_all

theorem childNames_eq_nil (h : ¬ l.accepted t) : l.childNames t = [] := by
  unfold PcmLine.accepted at h
  unfold PcmLine.childNames PcmLine.children
  cases hep : populateDeviceHwEpInfo t l.name with
  | none => rfl
  | some ep => exact absurd (by rw [hep]; rfl) h

theorem dir_of_mem_devices {d : ListedDevice} (h : d ∈ l.devices t) : d.dir = AUDIO_OUTPUT ∨ d.dir = AUDIO_INPUT := by
  unfold PcmLine.devices at h
  split at h
  · cases h
  · have hdir := (populateDeviceHwEpInfo_read ‹_›).dir
    rcases List.mem_cons.1 h with rfl | h
    · exact hdir
    · obtain ⟨n, -, rfl⟩ := List.mem_map.1 h
      exact hdir

end

/-- Every name has room in a buffer of `size` bytes, and what a virtual device is called nothing else is called. -/
def Apart (t : Target) (size : Nat) (lines : List PcmLine) : Prop :=
  ∀ l ∈ lines, l.accepted t →
    l.name.length < size ∧ ∀ c ∈ l.childNames t, c.length < size ∧
      (∀ m ∈ lines, m.accepted t → c ≠ m.name) ∧ ∀ m ∈ lines, m.idname ≠ l.idname → c ∉ m.childNames t

instance (t : Target) (size : Nat) (lines : List PcmLine) : Decidable (Apart t size lines) := by
  unfold Apart
  infer_instance

/-- **The names of the devices**, read off the names of the PCMs. -/
theorem nodup_names_iff {t : Target} {size : Nat} {lines : List PcmLine} (hsize : size < MAX_DEV_NAME_LEN)
    (hdistinct : (lines.map PcmLine.idname).Nodup) :
    ((∀ d ∈ lines.flatMap (·.devices t), d.name.length < size) ∧
      ((lines.flatMap (·.devices t)).map ListedDevice.name).Nodup) ↔ Apart t size lines := by
  have hpair : lines.Pairwise fun l m => l.idname ≠ m.idname := List.pairwise_map.1 hdistinct
  have hname (l : PcmLine) (h : l.name.length < size) : l.name = l.idname := by
    have hlen : l.name.length = min 79 l.idname.length := List.length_take
    have hsize' : size < 80 := hsize
    refine List.take_of_length_le (show l.idname.length ≤ 79 from ?_)
    omega
  rw [List.map_flatMap, List.nodup_flatMap]
  constructor
  · rintro ⟨hlen, hnodup, hdisj⟩ l hl hacc
    have hlen' (n : CString) (hn : n = l.name ∨ n ∈ l.childNames t) : n.length < size := by
      obtain ⟨d, hd, rfl⟩ := List.mem_map.1 (mem_names_iff.2 ⟨hacc, hn⟩)
      exact hlen d (List.mem_flatMap.2 ⟨l, hl, hd⟩)
    have hdisj' (m : PcmLine) (hm : m ∈ lines) (hne : m.idname ≠ l.idname) :
        List.Disjoint ((m.devices t).map ListedDevice.name) ((l.devices t).map ListedDevice.name) := by
      have hsymm : Std.Symm (List.Disjoint.onFun fun l => (PcmLine.devices t l).map ListedDevice.name) :=
        ⟨fun _ _ => List.disjoint_symm⟩
      refine hdisj.forall hm hl ?_
      rintro rfl
      exact hne rfl
    refine ⟨hlen' _ (.inl rfl), ?_⟩
    intro c hc
    refine ⟨hlen' _ (.inr hc), ?_, ?_⟩
    · rintro m hm hmacc rfl
      by_cases hsame : m.idname = l.idname
      · have hnodup' := hnodup l hl
        have hmn : m.name = l.name := by
          unfold PcmLine.name
          rw [hsame]
        rw [map_name_devices, if_pos hacc] at hnodup'
        exact (List.nodup_cons.1 hnodup').1 (hmn ▸ hc)
      · exact hdisj' m hm hsame (mem_names_iff.2 ⟨hmacc, .inl rfl⟩) (mem_names_iff.2 ⟨hacc, .inr hc⟩)
    · intro m hm hne hcm
      by_cases hmacc : m.accepted t
      · exact hdisj' m hm hne (mem_names_iff.2 ⟨hmacc, .inr hcm⟩) (mem_names_iff.2 ⟨hacc, .inr hc⟩)
      · rw [childNames_eq_nil hmacc] at hcm
        cases hcm
  · intro h
    refine ⟨?_, ?_, ?_⟩
    · intro d hd
      obtain ⟨l, hl, hd⟩ := List.mem_flatMap.1 hd
      obtain ⟨hacc, hn⟩ := mem_names_iff.1 (List.mem_map_of_mem hd)
      rcases hn with hn | hn
      · rw [hn]
        exact (h l hl hacc).1
      · exact ((h l hl hacc).2 _ hn).1
    · intro l hl
      rw [map_name_devices]
      split
      · refine List.nodup_cons.2 ⟨?_, nodup_childNames t l⟩
        intro hmem
        exact ((h l hl ‹_›).2 _ hmem).2.1 l hl ‹_› rfl
      · exact List.nodup_nil
    · refine hpair.imp_of_mem ?_
      intro l m hl hm hne n hnl hnm
      obtain ⟨hlacc, hnl⟩ := mem_names_iff.1 hnl
      obtain ⟨hmacc, hnm⟩ := mem_names_iff.1 hnm
      rcases hnl with rfl | hnl
      · rcases hnm with hnm | hnm
        · -- two names that are short were not cut
          rw [hname l (h l hl hlacc).1, hname m (h m hm hmacc).1] at hnm
          exact hne hnm
        · exact ((h m hm hmacc).2 _ hnm).2.1 l hl hlacc rfl
      · rcases hnm with rfl | hnm
        · exact ((h l hl hlacc).2 _ hnl).2.1 m hm hmacc rfl
        · exact ((h l hl hlacc).2 _ hnl).2.2 m hm hne.symm hnm

end Agm.Service
