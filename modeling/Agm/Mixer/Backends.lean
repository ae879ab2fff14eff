import Mathlib.Data.List.Perm.Basic
import Mathlib.Data.List.Count
import Agm.Service.SndCard

/-!
# The back ends a mixer client sees

The mixer plugin (`agm_mixer_plugin.c`) asks the service for its interfaces, sorts them into a list of RX and one of TX
back ends, whose texts are the values of the enumerated controls, and makes three controls for every back end, which
carry its index.  A client works with texts and names alone; this module asks what they say about the device behind the
index.
-/

namespace Agm.Mixer

open Agm.Lib Agm.Service CString

def AIF_NAME_MAX_LEN : Nat := 32

/-! ## The interfaces -/

/-- `struct aif_info`. -/
structure AifInfo where
  aifName : CString
  dir : Nat
  deriving DecidableEq, Repr

/-- `device_get_aif_info_list`, asked for at most `requested` interfaces. -/
def deviceGetAifInfoList (devs : List ListedDevice) (requested : Nat) : List AifInfo :=
  (devs.take requested).map fun d => ⟨bounded AIF_NAME_MAX_LEN d.name, d.dir⟩

/-- `device_get_obj`. -/
def deviceGetObj (devs : List ListedDevice) (deviceIdx : Nat) : Except Int ListedDevice :=
  if deviceIdx > devs.length then .error (-EINVAL)
  else match devs[deviceIdx]? with
    | some d => .ok d
    | none => .error (-EINVAL)

/-! ## The lists of back ends -/

/-- An item of `struct amp_dev_info`: its text and its entry in `idx_arr`. -/
structure Item where
  text : CString
  idx : Nat
  deriving DecidableEq, Repr

/-- `amp_copy_be_names_from_aif_list`.  Item 0 stands for no back end. -/
def ampCopyBeNamesFromAifList (aifList : List AifInfo) (dir : Nat) : List Item :=
  ⟨"ZERO".toList, 0⟩ :: (aifList.zipIdx.filter fun p => p.1.dir = dir).map fun p => ⟨p.1.aifName, p.2⟩

/-- The two lists of `struct amp_priv`. -/
structure Backends where
  rxBeDevs : List Item
  txBeDevs : List Item
  deriving DecidableEq, Repr

/-- `amp_get_be_info`; there may be no memory for the list of interfaces, or for the arrays. -/
def ampGetBeInfo (listGranted arraysGranted : Bool) (devs : List ListedDevice) : Except Int Backends :=
  let beCount := devs.length
  if beCount = 0 then .error (-EINVAL)
  else if ¬ listGranted then .error (-ENOMEM)
  else if ¬ arraysGranted then .error (-ENOMEM)
  else
    let aifList := deviceGetAifInfoList devs beCount
    .ok ⟨ampCopyBeNamesFromAifList aifList RX, ampCopyBeNamesFromAifList aifList TX⟩

/-! ## The controls -/

/-- A control of a back end: its name and the index it was made with. -/
structure Ctl where
  name : CString
  pval : Nat
  deriving DecidableEq, Repr

/-- `amp_be_ctl_name_extn`. -/
def ampBeCtlNameExtn : List CString := ["rate ch fmt", "metadata", "setParam"].map String.toList

/-- `snprintf(ctl_name, AIF_NAME_MAX_LEN + 16, "%s %s", be_name, extn)`. -/
def ctlName (beName extn : CString) : CString := bounded (AIF_NAME_MAX_LEN + 16) (beName ++ ' ' :: extn)

/-- `amp_create_media_fmt_ctl`, `amp_create_metadata_ctl` and `amp_create_be_set_param_ctl`. -/
def ampCreateBeCtl (b : Item) (extn : CString) : Ctl := ⟨ctlName b.text extn, b.idx⟩

/-- `amp_form_be_ctls`. -/
def ampFormBeCtls (be : Backends) : List Ctl :=
  (be.rxBeDevs.drop 1).flatMap (fun b => ampBeCtlNameExtn.map (ampCreateBeCtl b)) ++
    (be.txBeDevs.drop 1).flatMap fun b => ampBeCtlNameExtn.map (ampCreateBeCtl b)

/-! ## What the names say -/

/-- The items that stand for a back end. -/
def Backends.items (be : Backends) : List Item := be.rxBeDevs.drop 1 ++ be.txBeDevs.drop 1

/-- Every item is called like the device behind its index, every device is in one of the lists, and no text and no name
of a control belongs to two devices. -/
structure Faithful (devs : List ListedDevice) (be : Backends) : Prop where
  named : ∀ l ∈ [be.rxBeDevs, be.txBeDevs], ∀ k b, 1 ≤ k → l[k]? = some b →
    ∃ d, deviceGetObj devs b.idx = .ok d ∧ b.text = d.name
  once : ∀ i < devs.length, (be.items.map Item.idx).count i = 1
  texts : ∀ b ∈ be.items, ∀ b' ∈ be.items, b.idx ≠ b'.idx → b.text ≠ b'.text
  ctls : ∀ c ∈ ampFormBeCtls be, ∀ c' ∈ ampFormBeCtls be, c.pval ≠ c'.pval → c.name ≠ c'.name

section

variable {devs : List ListedDevice}

/-- The lists of a device list. -/
def backendsOf (devs : List ListedDevice) : Backends :=
  ⟨ampCopyBeNamesFromAifList (deviceGetAifInfoList devs devs.length) RX,
    ampCopyBeNamesFromAifList (deviceGetAifInfoList devs devs.length) TX⟩

theorem ampGetBeInfo_ok {listGranted arraysGranted : Bool} {be : Backends}
    (h : ampGetBeInfo listGranted arraysGranted devs = .ok be) : be = backendsOf devs := by
  unfold ampGetBeInfo at h
  dsimp only at h
  split at h
  · cases h
  · split at h
    · cases h
    · split at h
      · cases h
      · exact (Except.ok.inj h).symm

/-- The interfaces with their places. -/
def placed (devs : List ListedDevice) : List (AifInfo × Nat) := (deviceGetAifInfoList devs devs.length).zipIdx

theorem mem_placed {p : AifInfo × Nat} :
    p ∈ placed devs ↔ ∃ d, devs[p.2]? = some d ∧ p.1 = ⟨bounded AIF_NAME_MAX_LEN d.name, d.dir⟩ := by
  unfold placed deviceGetAifInfoList
  rw [List.mem_zipIdx_iff_getElem?]
  simp [eq_comm]

theorem items_backendsOf (devs : List ListedDevice) : (backendsOf devs).items =
    ((placed devs).filter (fun p => p.1.dir = RX) ++ (placed devs).filter (fun p => p.1.dir = TX)).map
      fun p => ⟨p.1.aifName, p.2⟩ := by
  rw [List.map_append]
  rfl

/-- Every interface is RX or TX, so the two lists share out the interfaces. -/
theorem items_perm (hdir : ∀ d ∈ devs, d.dir = RX ∨ d.dir = TX) :
    (backendsOf devs).items.Perm ((placed devs).map fun p => ⟨p.1.aifName, p.2⟩) := by
  have htx : (placed devs).filter (fun p => p.1.dir = TX) = (placed devs).filter fun p => !decide (p.1.dir = RX) := by
    apply List.filter_congr
    intro p hp
    obtain ⟨d, hd, hp⟩ := mem_placed.1 hp
    have hpd : p.1.dir = d.dir := by rw [hp]
    rcases hdir d (List.mem_of_getElem? hd) with h | h <;> rw [hpd, h] <;> rfl
  rw [items_backendsOf, htx]
  exact (List.filter_append_perm _ _).map _

theorem mem_items_iff (hdir : ∀ d ∈ devs, d.dir = RX ∨ d.dir = TX) {b : Item} :
    b ∈ (backendsOf devs).items ↔ ∃ d, devs[b.idx]? = some d ∧ b.text = bounded AIF_NAME_MAX_LEN d.name := by
  rw [(items_perm hdir).mem_iff, List.mem_map]
  constructor
  · rintro ⟨p, hp, rfl⟩
    obtain ⟨d, hd, hp⟩ := mem_placed.1 hp
    exact ⟨d, hd, by rw [hp]⟩
  · rintro ⟨d, hd, htext⟩
    refine ⟨(⟨b.text, d.dir⟩, b.idx), mem_placed.2 ⟨d, hd, ?_⟩, rfl⟩
    rw [htext]

theorem count_items (hdir : ∀ d ∈ devs, d.dir = RX ∨ d.dir = TX) {i : Nat} (hi : i < devs.length) :
    ((backendsOf devs).items.map Item.idx).count i = 1 := by
  have hperm := (items_perm hdir).map Item.idx
  rw [hperm.count_eq, List.map_map]
  have hidx : (placed devs).map (Item.idx ∘ fun p => ⟨p.1.aifName, p.2⟩) = List.range devs.length := by
    simp [placed, Function.comp_def, deviceGetAifInfoList, List.range_eq_range']
  rw [hidx]
  exact List.count_eq_one_of_mem List.nodup_range (List.mem_range.2 hi)

/-- An item of one of the lists, from 1 on, is a back end. -/
theorem mem_items_of_getElem? {be : Backends} {l : List Item} {k : Nat} {b : Item}
    (hl : l ∈ [be.rxBeDevs, be.txBeDevs]) (hk : 1 ≤ k) (h : l[k]? = some b) : b ∈ be.items := by
  have hdrop : (l.drop 1)[k - 1]? = some b := by
    rw [List.getElem?_drop, Nat.add_sub_cancel' hk, h]
  have hmem := List.mem_of_getElem? hdrop
  unfold Backends.items
  rcases List.mem_cons.1 hl with rfl | hl
  · exact List.mem_append_left _ hmem
  · obtain rfl := List.mem_singleton.1 hl
    exact List.mem_append_right _ hmem

theorem exists_getElem?_of_mem_items {be : Backends} {b : Item} (h : b ∈ be.items) :
    ∃ l ∈ [be.rxBeDevs, be.txBeDevs], ∃ k, 1 ≤ k ∧ l[k]? = some b := by
  have hplace (l : List Item) (hmem : b ∈ l.drop 1) : ∃ k, 1 ≤ k ∧ l[k]? = some b := by
    obtain ⟨k, hk⟩ := List.mem_iff_getElem?.1 hmem
    rw [List.getElem?_drop] at hk
    exact ⟨1 + k, by omega, hk⟩
  rcases List.mem_append.1 h with h | h
  · exact ⟨_, by simp, hplace _ h⟩
  · exact ⟨_, by simp, hplace _ h⟩

theorem mem_ampFormBeCtls {be : Backends} {c : Ctl} : c ∈ ampFormBeCtls be ↔
    ∃ b ∈ be.items, ∃ extn ∈ ampBeCtlNameExtn, c = ampCreateBeCtl b extn := by
  unfold ampFormBeCtls Backends.items
  rw [← List.flatMap_append, List.mem_flatMap]
  simp only [List.mem_map, eq_comm]

/-- The buffer for the name of a control has room for the longest text and the longest extension. -/
theorem ctlName_eq {beName extn : CString} (hname : beName.length < AIF_NAME_MAX_LEN)
    (hextn : extn ∈ ampBeCtlNameExtn) : ctlName beName extn = beName ++ ' ' :: extn := by
  have hlen : extn.length ≤ 11 := by
    revert extn
    decide
  have hname' : beName.length < 32 := hname
  unfold ctlName
  rw [bounded_eq_self_iff (by decide)]
  show (beName ++ ' ' :: extn : List Char).length < 48
  rw [List.length_append, List.length_cons]
  omega

/-- The extensions end in different characters. -/
theorem ctlName_inj {n n' extn extn' : CString} (hn : n.length < AIF_NAME_MAX_LEN) (hn' : n'.length < AIF_NAME_MAX_LEN)
    (he : extn ∈ ampBeCtlNameExtn) (he' : extn' ∈ ampBeCtlNameExtn) (h : ctlName n extn = ctlName n' extn') :
    n = n' := by
  rw [ctlName_eq hn he, ctlName_eq hn' he'] at h
  have hlast : (' ' :: extn).getLast? = (' ' :: extn').getLast? := by
    have := congrArg List.getLast? h
    rwa [List.getLast?_append_of_ne_nil _ (by simp), List.getLast?_append_of_ne_nil _ (by simp)] at this
  have hends : ∀ e ∈ ampBeCtlNameExtn, ∀ e' ∈ ampBeCtlNameExtn,
      (' ' :: e).getLast? = (' ' :: e').getLast? → e = e' := by
    decide +kernel
  rw [hends extn he extn' he' hlast] at h
  exact List.append_cancel_right h

/-- **Faithfulness of a device list**, in terms of the names of its devices. -/
theorem faithful_iff (hdir : ∀ d ∈ devs, d.dir = RX ∨ d.dir = TX) : Faithful devs (backendsOf devs) ↔
    (∀ d ∈ devs, d.name.length < AIF_NAME_MAX_LEN) ∧ (devs.map ListedDevice.name).Nodup := by
  have hobj {i : Nat} {d : ListedDevice} (h : devs[i]? = some d) : deviceGetObj devs i = .ok d := by
    have hi := (List.getElem?_eq_some_iff.1 h).1
    unfold deviceGetObj
    rw [if_neg (by omega), h]
  have hcut {n : CString} (h : n.length < AIF_NAME_MAX_LEN) : bounded AIF_NAME_MAX_LEN n = n :=
    (bounded_eq_self_iff (by decide)).2 h
  have hshort (d : ListedDevice) : (bounded AIF_NAME_MAX_LEN d.name).length < AIF_NAME_MAX_LEN :=
    Nat.lt_of_le_of_lt (length_bounded_le _ _) (by decide)
  constructor
  · intro h
    have hname (i : Nat) (d : ListedDevice) (hd : devs[i]? = some d) : bounded AIF_NAME_MAX_LEN d.name = d.name := by
      have hmem : (⟨bounded AIF_NAME_MAX_LEN d.name, i⟩ : Item) ∈ (backendsOf devs).items :=
        (mem_items_iff hdir).2 ⟨d, hd, rfl⟩
      obtain ⟨l, hl, k, hk, hb⟩ := exists_getElem?_of_mem_items hmem
      obtain ⟨d', hd', htext⟩ := h.named l hl k _ hk hb
      rw [hobj hd] at hd'
      obtain rfl := Except.ok.inj hd'
      exact htext
    refine ⟨?_, ?_⟩
    · intro d hd
      obtain ⟨i, hi⟩ := List.mem_iff_getElem?.1 hd
      rw [← hname i d hi]
      exact hshort d
    · rw [List.nodup_iff_getElem?_ne_getElem?]
      intro i j hij hj heq
      rw [List.length_map] at hj
      have hdi := List.getElem?_eq_getElem (show i < devs.length by omega)
      have hdj := List.getElem?_eq_getElem hj
      rw [List.getElem?_map, List.getElem?_map, hdi, hdj] at heq
      have hbi : (⟨bounded AIF_NAME_MAX_LEN devs[i].name, i⟩ : Item) ∈ (backendsOf devs).items :=
        (mem_items_iff hdir).2 ⟨_, hdi, rfl⟩
      have hbj : (⟨bounded AIF_NAME_MAX_LEN devs[j].name, j⟩ : Item) ∈ (backendsOf devs).items :=
        (mem_items_iff hdir).2 ⟨_, hdj, rfl⟩
      refine h.texts _ hbi _ hbj (show i ≠ j by omega) ?_
      exact congrArg (bounded AIF_NAME_MAX_LEN) (Option.some.inj heq)
  · rintro ⟨hlen, hnodup⟩
    have hnames {i j : Nat} {d d' : ListedDevice} (hd : devs[i]? = some d) (hd' : devs[j]? = some d')
        (hij : i ≠ j) : d.name ≠ d'.name := by
      intro heq
      apply hij
      have hi := (List.getElem?_eq_some_iff.1 hd).1
      refine (List.getElem?_inj (by simpa using hi) hnodup).1 ?_
      rw [List.getElem?_map, List.getElem?_map, hd, hd']
      simpa using heq
    have htexts (b : Item) (hb : b ∈ (backendsOf devs).items) (b' : Item) (hb' : b' ∈ (backendsOf devs).items)
        (hne : b.idx ≠ b'.idx) : b.text ≠ b'.text := by
      obtain ⟨d, hd, ht⟩ := (mem_items_iff hdir).1 hb
      obtain ⟨d', hd', ht'⟩ := (mem_items_iff hdir).1 hb'
      rw [ht, ht', hcut (hlen d (List.mem_of_getElem? hd)), hcut (hlen d' (List.mem_of_getElem? hd'))]
      exact hnames hd hd' hne
    refine ⟨?_, ?_, htexts, ?_⟩
    · intro l hl k b hk hb
      obtain ⟨d, hd, ht⟩ := (mem_items_iff hdir).1 (mem_items_of_getElem? hl hk hb)
      refine ⟨d, hobj hd, ?_⟩
      rw [ht, hcut (hlen d (List.mem_of_getElem? hd))]
    · intro i hi
      exact count_items hdir hi
    · intro c hc c' hc' hne heq
      obtain ⟨b, hb, extn, he, rfl⟩ := mem_ampFormBeCtls.1 hc
      obtain ⟨b', hb', extn', he', rfl⟩ := mem_ampFormBeCtls.1 hc'
      obtain ⟨d, hd, ht⟩ := (mem_items_iff hdir).1 hb
      obtain ⟨d', hd', ht'⟩ := (mem_items_iff hdir).1 hb'
      refine htexts b hb b' hb' hne (ctlName_inj ?_ ?_ he he' heq)
      · rw [ht]
        exact hshort d
      · rw [ht']
        exact hshort d'

end

/-- **What the back ends say.**  From PCMs with names of their own the plugin makes faithful lists exactly if every name
has room in an interface's and virtual devices are called like nothing else. -/
theorem exported_faithful_iff (t : Target) (lines : List PcmLine) (hdistinct : (lines.map PcmLine.idname).Nodup)
    (listGranted arraysGranted : Bool) (devs : List ListedDevice) (be : Backends)
    (hparse : parseSndCard t lines = .ok devs) (hbe : ampGetBeInfo listGranted arraysGranted devs = .ok be) :
    Faithful devs be ↔ Apart t AIF_NAME_MAX_LEN lines := by
  obtain rfl := ampGetBeInfo_ok hbe
  obtain rfl := parseSndCard_ok hparse
  have hdir : ∀ d ∈ lines.flatMap (·.devices t), d.dir = RX ∨ d.dir = TX := by
    intro d hd
    obtain ⟨l, -, hd⟩ := List.mem_flatMap.1 hd
    exact dir_of_mem_devices hd
  rw [faithful_iff hdir]
  exact nodup_names_iff (by decide) hdistinct

/-- A codec, and a group of two virtual devices whose names are short enough. -/
def shortNames : List PcmLine :=
  [⟨"SLIM-DEV1-TX-0".toList, true, fun _ => true⟩, ⟨"TDM-LPAIF-RX-PRIMARY-VIRT-2-c".toList, true, fun _ => true⟩]

theorem exported_faithful_of_short : ∃ devs be, parseSndCard {} shortNames = .ok devs ∧ devs.length = 4 ∧
    ampGetBeInfo true true devs = .ok be ∧ Faithful devs be := by
  refine ⟨_, _, rfl, by decide +kernel, rfl, ?_⟩
  exact (exported_faithful_iff {} shortNames (by decide +kernel) true true _ _ rfl rfl).2 (by decide +kernel)

/-- One PCM with two virtual devices: the three back ends have the same text, and the controls of devices 1 and 2 the
same names. -/
theorem exported_virtual_collide : ∃ devs be,
    parseSndCard {} [⟨"TDM-LPAIF_WSA-RX-SECONDARY-VIRT-2-c".toList, true, fun _ => true⟩] = .ok devs ∧
    ampGetBeInfo true true devs = .ok be ∧
    be.rxBeDevs.map Item.text = "ZERO".toList :: List.replicate 3 "TDM-LPAIF_WSA-RX-SECONDARY-VIRT".toList ∧
    (devs.map ListedDevice.name).Nodup ∧ ¬ Faithful devs be := by
  refine ⟨_, _, rfl, rfl, by decide +kernel, by decide +kernel, ?_⟩
  intro h
  refine h.texts ⟨"TDM-LPAIF_WSA-RX-SECONDARY-VIRT".toList, 1⟩ (by decide +kernel)
    ⟨"TDM-LPAIF_WSA-RX-SECONDARY-VIRT".toList, 2⟩ (by decide +kernel) (by decide) rfl

end Agm.Mixer
