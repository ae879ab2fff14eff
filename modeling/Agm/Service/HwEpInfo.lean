import Mathlib.Data.List.TakeWhile
import Agm.Service.SndCard

/-!
# What the name of a device says

`populate_device_hw_ep_info` (`device_hw_ep.c`) reads the fields of a name one after the other, each with the same
`sscanf` that takes a field into `arg` and puts the rest of the string back into `value`.  Where the field is empty both
stay, and where nothing follows it `value` does, so that the next call reads it again.

Beside this stands what a name says when it is split at the dashes.
-/

namespace Agm.Service

open Agm.Lib CString

/-! ## The endpoint -/

/-- The low-power audio interfaces; the header that numbers them is not part of the sources. -/
inductive LpaifType
  | lpaif | lpaifRxtx | lpaifWsa | lpaifVa | lpaifAxi | lpaifAud
  deriving DecidableEq, Repr

/-- `union hw_ep_config`; the configurations of the RT proxy and of the dummy are alike. -/
inductive HwEpConfig
  | cdcDmaI2sTdm (lpaifType : LpaifType) (intfIdx : Nat)
  | slim (devId : Nat)
  | pcmProxy (devId : Nat)
  | audiossDma (lpaifType : LpaifType) (devId : Nat)
  | unused
  deriving DecidableEq, Repr

/-- `hw_ep_info_t`, and `num_virtual_child` of the device. -/
structure HwEpInfo where
  intf : HwIntf
  dir : Nat
  epConfig : HwEpConfig
  numVirtualChild : Int := 0
  deriving DecidableEq, Repr

/-- The part of it that the list of devices is made from. -/
def HwEpInfo.ep (i : HwEpInfo) : HwEp := ⟨i.intf, i.dir, i.numVirtualChild⟩

/-- `lpaif_type` by its name. -/
def lpaifTypeOf (s : CString) : Option LpaifType :=
  [("LPAIF".toList, LpaifType.lpaif), ("LPAIF_RXTX".toList, .lpaifRxtx), ("LPAIF_WSA".toList, .lpaifWsa),
    ("LPAIF_VA".toList, .lpaifVa), ("LPAIF_AXI".toList, .lpaifAxi), ("LPAIF_AUD".toList, .lpaifAud)].lookup s

/-- `populate_audioss_dma_ep_info` knows one. -/
def audiossLpaifTypeOf (s : CString) : Option LpaifType := [("LPAIF_VA".toList, LpaifType.lpaifVa)].lookup s

/-- `populate_hw_ep_intf_idx`. -/
def hwEpIntfIdx (intf : HwIntf) (s : CString) : Option Nat :=
  match intf with
  | .codecDma =>
    [("0".toList, 1), ("1".toList, 2), ("2".toList, 3), ("3".toList, 4), ("4".toList, 5), ("5".toList, 6),
      ("6".toList, 7), ("7".toList, 8)].lookup s
  | .mi2s | .tdm | .auxpcm =>
    [("PRIMARY".toList, 0), ("SECONDARY".toList, 1), ("TERTIARY".toList, 2), ("QUATERNARY".toList, 3),
      ("QUINARY".toList, 4), ("SENARY".toList, 5)].lookup s
  | _ => none

/-- `dev_id` of a SLIMbus device. -/
def slimDevId (s : CString) : Option Nat := [("DEV1".toList, 0), ("DEV2".toList, 1)].lookup s

/-! ## Reading with `sscanf` -/

/-- `isspace`. -/
def isSpace (c : Char) : Bool := c = ' ' || ('\t' ≤ c && c ≤ '\r')

/-- `sscanf(src, "%20[^-]-%60s", arg, value)`; the last conversion skips white space and stops at it. -/
def Scan.sscanf (s : Scan) (src : CString) : Scan :=
  let field := (src.takeWhile (· ≠ '-')).take (DEV_ARG_SIZE - 1)
  if field = [] then s
  else match src.drop field.length with
    | '-' :: cs =>
      let word := ((cs.dropWhile isSpace).takeWhile fun c => ! isSpace c).take (DEV_VALUE_SIZE - 1)
      ⟨field, if word = [] then s.value else word⟩
    | _ => ⟨field, s.value⟩

/-- `sscanf(value, "%20[^-]-%60s", arg, value)`. -/
def Scan.again (s : Scan) : Scan := s.sscanf s.value

/-- The conversion of an `int` to `uint32_t`. -/
def uint32OfInt (i : Int) : Nat := (i % 2 ^ 32).toNat

namespace HwEpInfo

variable (t : Target)

/-- `dev_id = atoi(arg)`. -/
def devId (arg : CString) : Nat := uint32OfInt (atoi t.longMax arg)

/-- `num_virt_child`, where `s` is left after the index. -/
def numVirtChild (s : Scan) : Int :=
  if (strstr VIRT s.value).isSome then
    let n := atoi t.longMax s.again.again.arg
    if n > MAX_VIRTUAL_CHILDS then MAX_VIRTUAL_CHILDS else n
  else 0

/-- `populate_cdc_dma_i2s_tdm_pcm_ep_info`. -/
def populateCdcDmaI2sTdmPcmEpInfo (intf : HwIntf) (value : CString) : Option HwEpInfo :=
  let lpaifType := Scan.again ⟨[], value⟩
  let dir := lpaifType.again
  let intfIdx := dir.again
  match lpaifTypeOf lpaifType.arg with
  | none => none
  | some l =>
    match populateHwEpDirection dir.arg with
    | none => none
    | some d => (hwEpIntfIdx intf intfIdx.arg).map fun i => ⟨intf, d, .cdcDmaI2sTdm l i, numVirtChild t intfIdx⟩

/-- `populate_slim_dp_usb_ep_info`. -/
def populateSlimDpUsbEpInfo (intf : HwIntf) (value : CString) : Option HwEpInfo :=
  let s : Scan := ⟨[], value⟩
  if intf = .slimbus then
    match slimDevId s.again.arg with
    | none => none
    | some i => (populateHwEpDirection s.again.again.arg).map fun d => ⟨intf, d, .slim i, 0⟩
  else (populateHwEpDirection s.again.arg).map fun d => ⟨intf, d, .unused, 0⟩

/-- `populate_pcm_rt_proxy_ep_info` and `populate_pcm_dummy_ep_info`. -/
def populatePcmProxyEpInfo (intf : HwIntf) (value : CString) : Option HwEpInfo :=
  let dir := Scan.again ⟨[], value⟩
  (populateHwEpDirection dir.arg).map fun d => ⟨intf, d, .pcmProxy (devId t dir.again.arg), 0⟩

/-- `populate_audioss_dma_ep_info`. -/
def populateAudiossDmaEpInfo (intf : HwIntf) (value : CString) : Option HwEpInfo :=
  let lpaifType := Scan.again ⟨[], value⟩
  let dir := lpaifType.again
  match audiossLpaifTypeOf lpaifType.arg with
  | none => none
  | some l => (populateHwEpDirection dir.arg).map fun d => ⟨intf, d, .audiossDma l (devId t dir.again.arg), 0⟩

/-- The second half of `populate_device_hw_ep_info`. -/
def populateIntfEpInfo (intf : HwIntf) (value : CString) : Option HwEpInfo :=
  match intf with
  | .codecDma | .mi2s | .tdm | .auxpcm => populateCdcDmaI2sTdmPcmEpInfo t intf value
  | .slimbus | .displayPort | .usbAudio => populateSlimDpUsbEpInfo intf value
  | .pcmRtProxy | .pcmDummy => populatePcmProxyEpInfo t intf value
  | .audiossDma => populateAudiossDmaEpInfo t intf value

/-- `populate_device_hw_ep_info`. -/
def populateDeviceHwEpInfo (name : CString) : Option HwEpInfo :=
  let s := Scan.sscanf ⟨[], []⟩ name
  match populateHwEpIntf s.arg with
  | none => none
  | some intf => populateIntfEpInfo t intf s.value

end HwEpInfo

/-! ## What a name says -/

/-- A decimal number. -/
def decimalOf (s : CString) : Option Nat := if s ≠ [] ∧ s.all Char.isDigit then some (digitsValue s 0) else none

/-- The count of virtual devices that may stand behind the index. -/
def countOf : List CString → Option Nat
  | virt :: count :: _ => if virt = "VIRT".toList then decimalOf count else none
  | _ => none

/-- The fields behind the interface, for the four kinds of names that have a codec interface in them. -/
def cdcFields (intf : HwIntf) : List CString → Option HwEpInfo
  | lpaif :: dir :: idx :: rest =>
    match lpaifTypeOf lpaif, populateHwEpDirection dir, hwEpIntfIdx intf idx with
    | some l, some d, some i => some ⟨intf, d, .cdcDmaI2sTdm l i, (countOf rest).getD 0⟩
    | _, _, _ => none
  | _ => none

def slimFields (intf : HwIntf) : List CString → Option HwEpInfo
  | dev :: dir :: _ =>
    match slimDevId dev, populateHwEpDirection dir with
    | some i, some d => some ⟨intf, d, .slim i, 0⟩
    | _, _ => none
  | _ => none

def dirFields (intf : HwIntf) : List CString → Option HwEpInfo
  | dir :: _ => (populateHwEpDirection dir).map fun d => ⟨intf, d, .unused, 0⟩
  | _ => none

def proxyFields (intf : HwIntf) : List CString → Option HwEpInfo
  | dir :: id :: _ =>
    match populateHwEpDirection dir, decimalOf id with
    | some d, some n => some ⟨intf, d, .pcmProxy n, 0⟩
    | _, _ => none
  | _ => none

def audiossFields (intf : HwIntf) : List CString → Option HwEpInfo
  | lpaif :: dir :: id :: _ =>
    match audiossLpaifTypeOf lpaif, populateHwEpDirection dir, decimalOf id with
    | some l, some d, some n => some ⟨intf, d, .audiossDma l n, 0⟩
    | _, _, _ => none
  | _ => none

/-- The fields behind the interface. -/
def intfFields : HwIntf → List CString → Option HwEpInfo
  | .codecDma => cdcFields .codecDma
  | .mi2s => cdcFields .mi2s
  | .tdm => cdcFields .tdm
  | .auxpcm => cdcFields .auxpcm
  | .slimbus => slimFields .slimbus
  | .displayPort => dirFields .displayPort
  | .usbAudio => dirFields .usbAudio
  | .pcmRtProxy => proxyFields .pcmRtProxy
  | .pcmDummy => proxyFields .pcmDummy
  | .audiossDma => audiossFields .audiossDma

/-- What the fields of a name say: the endpoint and the number of virtual devices, where the fields that the form of its
interface requires are all there. -/
def nameFields : List CString → Option HwEpInfo
  | [] => none
  | intf :: rest => (populateHwEpIntf intf).bind fun i => intfFields i rest

/-- With no more virtual devices than there can be. -/
def HwEpInfo.capped (i : HwEpInfo) : HwEpInfo := { i with numVirtualChild := min i.numVirtualChild MAX_VIRTUAL_CHILDS }

/-- A name as `parse_snd_card` reads it with `%79s`. -/
structure DeviceName where
  chars : CString
  short : chars.length < MAX_DEV_NAME_LEN
  clean : ∀ c ∈ chars, isSpace c = false

/-- The fields of a name. -/
def DeviceName.fields (name : DeviceName) : List CString := name.chars.splitOn '-'

/-! ## One field -/

/-- The characters before the first dash. -/
def tokenOf (w : CString) : CString := w.takeWhile (· ≠ '-')

/-- What follows the first dash. -/
def restOf (w : CString) : Option CString := (w.dropWhile (· ≠ '-')).tail?

section

variable {w w' : CString} {s : Scan} {m : Nat}

theorem dash_not_mem_tokenOf (w : CString) : '-' ∉ tokenOf w := by
  intro h
  have hne := List.mem_takeWhile_imp h
  exact of_decide_eq_true hne rfl

theorem dropWhile_eq_nil_or (w : CString) :
    w.dropWhile (· ≠ '-') = [] ∨ ∃ w', w.dropWhile (· ≠ '-') = '-' :: w' := by
  induction w with
  | nil => exact .inl rfl
  | cons c w ih =>
    by_cases hc : c = '-'
    · exact .inr ⟨w, by rw [hc]; rfl⟩
    · rw [List.dropWhile_cons_of_pos (by simpa using hc)]
      exact ih

theorem eq_of_restOf_none (h : restOf w = none) : w = tokenOf w := by
  have happ := List.takeWhile_append_dropWhile (p := fun c => decide (c ≠ '-')) (l := w)
  rcases dropWhile_eq_nil_or w with hnil | ⟨w', hw'⟩
  · rw [hnil, List.append_nil] at happ
    exact happ.symm
  · rw [restOf, hw'] at h
    cases h

theorem eq_of_restOf_some (h : restOf w = some w') : w = tokenOf w ++ '-' :: w' := by
  have happ := List.takeWhile_append_dropWhile (p := fun c => decide (c ≠ '-')) (l := w)
  rcases dropWhile_eq_nil_or w with hnil | ⟨v, hv⟩
  · rw [restOf, hnil] at h
    cases h
  · rw [restOf, hv] at h
    obtain rfl : v = w' := Option.some.inj h
    rw [hv] at happ
    exact happ.symm

/-- A string splits into its first field and the fields of the rest. -/
theorem splitOn_dash (w : CString) :
    w.splitOn '-' = tokenOf w :: (restOf w).elim [] fun w' => w'.splitOn '-' := by
  cases h : restOf w with
  | none =>
    have hw := eq_of_restOf_none h
    rw [Option.elim_none]
    conv_lhs => rw [hw]
    exact List.splitOn_eq_singleton (dash_not_mem_tokenOf w)
  | some w' =>
    have hw := eq_of_restOf_some h
    rw [Option.elim_some]
    conv_lhs => rw [hw]
    exact List.splitOn_append_cons_self_of_not_mem (dash_not_mem_tokenOf w) w'

/-- A string without white space is taken as it is. -/
theorem word_of_clean {cs : CString} (h : ∀ c ∈ cs, isSpace c = false) :
    (cs.dropWhile isSpace).takeWhile (fun c => ! isSpace c) = cs := by
  have hdrop : cs.dropWhile isSpace = cs := by
    cases cs with
    | nil => rfl
    | cons c cs => rw [List.dropWhile_cons_of_neg (by simp [h c])]
  rw [hdrop, List.takeWhile_eq_self_iff]
  intro c hc
  simp [h c hc]

/-- The field that a call finds in what there is room for of a string. -/
theorem field_take (w : CString) (m : Nat) :
    ((w.take m).takeWhile (· ≠ '-')).take (DEV_ARG_SIZE - 1) = (tokenOf w).take (min 20 m) := by
  rw [← List.take_takeWhile, List.take_take]
  rfl

/-- An empty field changes nothing. -/
theorem Scan.sscanf_of_nil (m : Nat) (hnil : tokenOf w = []) : s.sscanf (w.take m) = s := by
  unfold Scan.sscanf
  rw [field_take, hnil]
  exact if_pos List.take_nil

theorem Scan.arg_sscanf (h : 0 < m) : (s.sscanf (w.take m)).arg =
    if tokenOf w = [] then s.arg else (tokenOf w).take (min 20 m) := by
  split
  · next hnil => rw [Scan.sscanf_of_nil m hnil]
  · next hne =>
    have hfield : (tokenOf w).take (min 20 m) ≠ [] := by
      intro hcut
      rcases List.take_eq_nil_iff.1 hcut with hzero | hnil
      · omega
      · exact hne hnil
    unfold Scan.sscanf
    rw [field_take, if_neg hfield]
    split <;> rfl

/-- **One call.**  A field that is not too long and is followed by something is taken off; otherwise `value` stays. -/
theorem Scan.sscanf_eq (h : 20 ≤ m) (hclean : ∀ c ∈ w, isSpace c = false) (hne : tokenOf w ≠ []) :
    s.sscanf (w.take m) = ⟨(tokenOf w).take 20,
      if (tokenOf w).length ≤ 20 then
        (restOf w).elim s.value fun w' =>
          if (w'.take (m - (tokenOf w).length - 1)).take 60 = [] then s.value
          else (w'.take (m - (tokenOf w).length - 1)).take 60
      else s.value⟩ := by
  unfold Scan.sscanf
  rw [field_take, Nat.min_eq_left h, if_neg (by simpa using hne), List.length_take]
  by_cases hlen : (tokenOf w).length ≤ 20
  · rw [if_pos hlen, Nat.min_eq_right hlen]
    cases hrest : restOf w with
    | none =>
      have hw := eq_of_restOf_none hrest
      have hdrop : (w.take m).drop (tokenOf w).length = [] := by
        rw [List.drop_take, ← hw, List.drop_length, List.take_nil]
      rw [hdrop]
      rfl
    | some w' =>
      have hw := eq_of_restOf_some hrest
      have hdrop : (w.take m).drop (tokenOf w).length = ('-' :: w').take (m - (tokenOf w).length) := by
        rw [List.drop_take]
        congr 1
        have htail := congrArg (List.drop (tokenOf w).length) hw
        rwa [List.drop_left] at htail
      rw [hdrop, Option.elim_some]
      cases hm : m - (tokenOf w).length with
      | zero => rfl
      | succ k =>
        have hcut : ∀ c ∈ w'.take k, isSpace c = false := by
          intro c hc
          refine hclean c ?_
          rw [hw]
          exact List.mem_append_right _ (List.mem_cons_of_mem _ (List.mem_of_mem_take hc))
        rw [List.take_succ_cons]
        split
        · next cs hcs =>
          obtain rfl : w'.take k = cs := (List.cons.inj hcs).2
          rw [word_of_clean hcut]
          rfl
        · next hno => exact absurd rfl (hno _)
  · rw [if_neg hlen, Nat.min_eq_left (by omega)]
    -- what follows is a character of the field
    have hdrop : (w.take m).drop 20 = ((tokenOf w).drop 20 ++ w.dropWhile (· ≠ '-')).take (m - 20) := by
      rw [List.drop_take]
      congr 1
      have hw := List.takeWhile_append_dropWhile (p := fun c => decide (c ≠ '-')) (l := w)
      conv_lhs => rw [← hw]
      exact List.drop_append_of_le_length (by unfold tokenOf at hlen; omega)
    rw [hdrop]
    obtain ⟨c, cs, hcs⟩ := List.exists_cons_of_ne_nil
      (show (tokenOf w).drop 20 ≠ [] by rw [Ne, List.drop_eq_nil_iff]; exact hlen)
    have hc : c ≠ '-' := by
      rintro rfl
      exact dash_not_mem_tokenOf w (List.mem_of_mem_drop (hcs ▸ List.mem_cons_self))
    rw [hcs]
    cases hm : m - 20 with
    | zero => rfl
    | succ k =>
      rw [List.cons_append, List.take_succ_cons]
      split
      · next heq => exact absurd (List.cons.inj heq).1 hc
      · rfl

/-- `value` holds what there is room for of the string `w`. -/
structure Scan.At (s : Scan) (w : CString) (m : Nat) : Prop where
  value : s.value = w.take m
  clean : ∀ c ∈ w, isSpace c = false
  room : 20 ≤ m
  fits : m ≤ 60

theorem Scan.At.again_eq (h : s.At w m) (hne : tokenOf w ≠ []) :
    s.again = ⟨(tokenOf w).take 20,
      if (tokenOf w).length ≤ 20 then
        (restOf w).elim s.value fun w' =>
          if w'.take (m - (tokenOf w).length - 1) = [] then s.value else w'.take (m - (tokenOf w).length - 1)
      else s.value⟩ := by
  have hfits := h.fits
  have hcut (w' : CString) : (w'.take (m - (tokenOf w).length - 1)).take 60 = w'.take (m - (tokenOf w).length - 1) := by
    rw [List.take_take]
    congr 1
    omega
  have hcall := Scan.sscanf_eq (s := s) h.room h.clean hne
  rw [← h.value] at hcall
  simp only [hcut] at hcall
  exact hcall

/-- What is in `arg` after a call. -/
theorem Scan.At.arg_again (h : s.At w m) : s.again.arg = if tokenOf w = [] then s.arg else (tokenOf w).take 20 := by
  have hroom := h.room
  unfold Scan.again
  rw [h.value, Scan.arg_sscanf (by omega), Nat.min_eq_left hroom]

end

/-! ## Two fields in a row -/

/-- The reader knows these strings only. -/
def KnowsOnly {β : Type} (ks : List CString) (f : CString → Option β) : Prop := ∀ x b, f x = some b → x ∈ ks

/-- Strings that are read whole: with what follows them, four of them leave room for a number. -/
def Short (ks : List CString) : Prop := ∀ k ∈ ks, k ≠ [] ∧ k.length ≤ 10

instance (ks : List CString) : Decidable (Short ks) := inferInstanceAs (Decidable (∀ k ∈ ks, k ≠ [] ∧ k.length ≤ 10))

section

variable {β γ : Type} {f : CString → Option β} {g : CString → Option γ} {ks js : List CString} {b : β}
  {w w' : CString} {s : Scan} {m : Nat}

theorem knowsOnly_lookup (table : List (CString × β)) : KnowsOnly (table.map Prod.fst) fun s => table.lookup s := by
  intro x b h
  obtain ⟨p, hp, hx⟩ := List.lookup_isSome_iff.1 (Option.isSome_of_eq_some h)
  rw [eq_of_beq hx]
  exact List.mem_map_of_mem hp

theorem Short.lt (h : Short ks) : ∀ k ∈ ks, k.length < 20 := by
  intro k hk
  have := (h k hk).2
  omega

theorem KnowsOnly.nil (hf : KnowsOnly ks f) (hks : Short ks) : f [] = none := by
  cases h : f [] with
  | none => rfl
  | some b => exact absurd rfl (hks _ (hf _ _ h)).1

/-- A long string is not known, whole or cut. -/
theorem KnowsOnly.take (hf : KnowsOnly ks f) (hks : ∀ k ∈ ks, k.length < 20) (x : CString) : f (x.take 20) = f x := by
  by_cases hlen : x.length ≤ 20
  · rw [List.take_of_length_le hlen]
  · have hnone (y : CString) (hy : 20 ≤ y.length) : f y = none := by
      cases h : f y with
      | none => rfl
      | some b =>
        have := hks _ (hf _ _ h)
        omega
    rw [hnone x (by omega), hnone _ (by rw [List.length_take]; omega)]

/-- A field is read, if what was in `arg` before is not known. -/
theorem Scan.At.read (h : s.At w m) (hf : KnowsOnly ks f) (hks : Short ks) (hstale : f s.arg = none) :
    f s.again.arg = f (tokenOf w) := by
  rw [h.arg_again]
  split
  · next hnil => rw [hstale, hnil, hf.nil hks]
  · exact hf.take hks.lt _

/-- Behind a field that is known something follows. -/
theorem Scan.At.next (h : s.At w m) (hm : (tokenOf w).length + 21 ≤ m) (hf : KnowsOnly ks f) (hks : Short ks)
    (hb : f (tokenOf w) = some b) (hrest : restOf w = some w') (hne : w' ≠ []) :
    s.again.arg = tokenOf w ∧ s.again.At w' (m - (tokenOf w).length - 1) := by
  obtain ⟨hnil, hlen⟩ := hks _ (hf _ _ hb)
  have hfits := h.fits
  have hvalue : w'.take (m - (tokenOf w).length - 1) ≠ [] := by
    intro hcut
    rcases List.take_eq_nil_iff.1 hcut with hzero | hw'
    · omega
    · exact hne hw'
  rw [h.again_eq hnil, if_pos (by omega), hrest, Option.elim_some, if_neg hvalue]
  refine ⟨List.take_of_length_le (by omega), rfl, fun c hc => h.clean c ?_, by omega, by omega⟩
  rw [eq_of_restOf_some hrest]
  exact List.mem_append_right _ (List.mem_cons_of_mem _ hc)

/-- Behind a field that is known nothing follows. -/
theorem Scan.At.stuck (h : s.At w m) (hf : KnowsOnly ks f) (hks : Short ks) (hb : f (tokenOf w) = some b)
    (hrest : restOf w = none ∨ restOf w = some []) : s.again = ⟨tokenOf w, s.value⟩ := by
  obtain ⟨hnil, hlen⟩ := hks _ (hf _ _ hb)
  rw [h.again_eq hnil, if_pos (by omega), List.take_of_length_le (by omega)]
  rcases hrest with hrest | hrest
  · rw [hrest]
    rfl
  · rw [hrest, Option.elim_some, List.take_nil, if_pos rfl]

/-- **The field behind a field that is known.**  Where it is missing or empty, the one before is read again. -/
theorem Scan.At.arg_behind (h : s.At w m) (hm : (tokenOf w).length + 21 ≤ m) (hf : KnowsOnly ks f) (hks : Short ks)
    (hb : f (tokenOf w) = some b) : s.again.again.arg = (restOf w).elim (tokenOf w) fun w' =>
      if tokenOf w' = [] then tokenOf w else (tokenOf w').take 20 := by
  obtain ⟨hnil, hlen⟩ := hks _ (hf _ _ hb)
  have hstuck (hrest : restOf w = none ∨ restOf w = some []) : s.again.again.arg = tokenOf w := by
    have hagain := h.stuck hf hks hb hrest
    have hat : s.again.At w m := by
      rw [hagain]
      exact ⟨h.value, h.clean, h.room, h.fits⟩
    rw [hat.arg_again, if_neg hnil, List.take_of_length_le (by omega)]
  cases hrest : restOf w with
  | none => exact hstuck (.inl hrest)
  | some w' =>
    rw [Option.elim_some]
    by_cases hw' : w' = []
    · rw [hw', hstuck (.inr (hw' ▸ hrest))]
      exact (if_pos rfl).symm
    · obtain ⟨harg, hat⟩ := h.next hm hf hks hb hrest hw'
      rw [hat.arg_again, harg]

/-- Where it is not known what was known before it, it is read. -/
theorem Scan.At.read_behind (h : s.At w m) (hm : (tokenOf w).length + 21 ≤ m) (hf : KnowsOnly ks f) (hks : Short ks)
    (hg : KnowsOnly js g) (hjs : Short js) (hapart : ∀ k ∈ ks, g k = none) (hb : f (tokenOf w) = some b) :
    g s.again.again.arg = (restOf w).bind fun w' => g (tokenOf w') := by
  have hstale := hapart _ (hf _ _ hb)
  rw [h.arg_behind hm hf hks hb]
  cases restOf w with
  | none => exact hstale
  | some w' =>
    rw [Option.elim_some, Option.bind_some]
    split
    · next hnil => rw [hstale, hnil, hg.nil hjs]
    · exact hg.take hjs.lt _

end

/-! ## The readers of the fields -/

def intfNames : List CString :=
  ["SLIM", "DISPLAY_PORT", "USB_AUDIO", "CODEC_DMA", "MI2S", "TDM", "AUXPCM", "PCM_RT_PROXY", "AUDIOSS_DMA",
    "PCM_DUMMY"].map String.toList

def dirNames : List CString := ["RX", "TX"].map String.toList

def intfIdxNames : List CString :=
  ["0", "1", "2", "3", "4", "5", "6", "7", "PRIMARY", "SECONDARY", "TERTIARY", "QUATERNARY", "QUINARY",
    "SENARY"].map String.toList

def slimDevNames : List CString := ["DEV1", "DEV2"].map String.toList

theorem knowsOnly_intf : KnowsOnly intfNames populateHwEpIntf := knowsOnly_lookup _

theorem knowsOnly_lpaif : KnowsOnly lpaifTypes lpaifTypeOf := knowsOnly_lookup _

theorem knowsOnly_audiossLpaif : KnowsOnly lpaifTypes audiossLpaifTypeOf := by
  intro x b h
  exact (by decide : ∀ k ∈ ["LPAIF_VA".toList], k ∈ lpaifTypes) x (knowsOnly_lookup _ x b h)

theorem knowsOnly_slimDev : KnowsOnly slimDevNames slimDevId := knowsOnly_lookup _

theorem knowsOnly_dir : KnowsOnly dirNames populateHwEpDirection := by
  intro x b h
  unfold populateHwEpDirection at h
  split_ifs at h with hrx htx
  · rw [hrx]
    decide
  · rw [htx]
    decide

theorem knowsOnly_intfIdx (intf : HwIntf) : KnowsOnly intfIdxNames (hwEpIntfIdx intf) := by
  intro x b h
  unfold hwEpIntfIdx at h
  cases intf with
  | codecDma =>
    exact (by decide : ∀ k ∈ ["0", "1", "2", "3", "4", "5", "6", "7"].map String.toList, k ∈ intfIdxNames) x
      (knowsOnly_lookup _ x b h)
  | mi2s | tdm | auxpcm =>
    exact (by decide : ∀ k ∈ ["PRIMARY", "SECONDARY", "TERTIARY", "QUATERNARY", "QUINARY", "SENARY"].map String.toList,
      k ∈ intfIdxNames) x (knowsOnly_lookup _ x b h)
  | slimbus | displayPort | usbAudio | pcmRtProxy | audiossDma | pcmDummy => cases h

theorem short_lpaif : Short lpaifTypes := by decide
theorem short_dir : Short dirNames := by decide
theorem short_intfIdx : Short intfIdxNames := by decide
theorem short_slimDev : Short slimDevNames := by decide

/-- What stands in one field does not stand for another. -/
theorem dir_of_lpaif : ∀ k ∈ lpaifTypes, populateHwEpDirection k = none := by decide
theorem dir_of_slimDev : ∀ k ∈ slimDevNames, populateHwEpDirection k = none := by decide
theorem intfIdx_of_dir (intf : HwIntf) : ∀ k ∈ dirNames, hwEpIntfIdx intf k = none := by cases intf <;> decide

/-! ## Numbers -/

/-- A number of at most twenty digits that `uint32_t` and `long` can hold. -/
def Fits32 (t : Target) (id : CString) (n : Nat) : Prop := id.length ≤ 20 ∧ n < 2 ^ 32 ∧ n ≤ t.longMax

section

variable {t : Target} {id : CString} {n : Nat}

theorem Target.longMax_ge (t : Target) : 2 ^ 31 - 1 ≤ t.longMax := by
  have := t.le_sizeMod
  unfold Target.longMax
  omega

theorem atoi_of_decimalOf (h : decimalOf id = some n) (longMax : Nat) :
    atoi longMax id = ((min n longMax + 2 ^ 31 : Nat) : Int) % 2 ^ 32 - 2 ^ 31 := by
  obtain ⟨⟨hne, hdigits⟩, hn⟩ := Option.ite_none_right_eq_some.1 h
  obtain rfl := Option.some.inj hn
  obtain ⟨c, cs, rfl⟩ := List.exists_cons_of_ne_nil hne
  have hc : c ≠ '+' := by
    rintro rfl
    exact absurd (List.all_eq_true.1 hdigits _ List.mem_cons_self) (by decide)
  unfold atoi
  split
  · next heq => exact absurd (List.cons.inj heq).1 hc
  · rfl

theorem decimalOf_ne_nil (h : decimalOf id = some n) : id ≠ [] := (Option.ite_none_right_eq_some.1 h).1.1

/-- A number that fits is read. -/
theorem devId_eq (h : decimalOf id = some n) (hfits : Fits32 t id n) : HwEpInfo.devId t (id.take 20) = n := by
  obtain ⟨hlen, hlt, hle⟩ := hfits
  rw [List.take_of_length_le hlen, HwEpInfo.devId, atoi_of_decimalOf h, Nat.min_eq_left hle, uint32OfInt]
  omega

/-- A count that fits is read. -/
theorem atoi_count (h : decimalOf id = some n) (hlen : id.length ≤ 20) (hlt : n < 2 ^ 31) :
    atoi t.longMax (id.take 20) = n := by
  have hle := t.longMax_ge
  rw [List.take_of_length_le hlen, atoi_of_decimalOf h, Nat.min_eq_left (by omega)]
  omega

end

/-! ## Numbers in order -/

/-- The device id that is to stand here does, and fits. -/
def IdInOrder (t : Target) (fields : List CString) : Prop :=
  ∃ id more n, fields = id :: more ∧ decimalOf id = some n ∧ Fits32 t id n

/-- What is read for a count where `VIRT-` stands somewhere behind the index: the second field, or what `arg` is left
with before it. -/
def countArg (room : Nat) (idx : CString) : List CString → CString
  | [] => idx
  | [first] => if first = [] then idx else first.take 20
  | first :: second :: _ =>
    if first = [] then idx
    else if 20 < first.length then first.take 20
    else if second = [] then first else second.take (min 20 (room - first.length - 1))

/-- Where `VIRT-` stands in the `room` characters behind the index that are read, it is the field for a count that fits,
or what is read for a count is no number other than zero. -/
def CountInOrder (t : Target) (room : Nat) (idx : CString) (fields : List CString) : Prop :=
  VIRT <:+: (['-'].intercalate fields).take room →
    (∃ count more n, fields = "VIRT".toList :: count :: more ∧ decimalOf count = some n ∧ count.length ≤ 20 ∧
      n < 2 ^ 31) ∨ (countOf fields = none ∧ atoi t.longMax (countArg room idx fields) = 0)

/-- The numbers among the fields behind an interface, where the fields before them are in order. -/
def IntfInOrder (t : Target) (intf : HwIntf) (fields : List CString) : Prop :=
  match intf with
  | .codecDma | .mi2s | .tdm | .auxpcm =>
    ∀ lpaif dir idx rest, fields = lpaif :: dir :: idx :: rest →
      (lpaifTypeOf lpaif).isSome → (populateHwEpDirection dir).isSome → (hwEpIntfIdx intf idx).isSome →
      CountInOrder t (57 - (lpaif.length + dir.length + idx.length)) idx rest
  | .slimbus | .displayPort | .usbAudio => True
  | .pcmRtProxy | .pcmDummy =>
    ∀ dir rest, fields = dir :: rest → (populateHwEpDirection dir).isSome → IdInOrder t rest
  | .audiossDma =>
    ∀ lpaif dir rest, fields = lpaif :: dir :: rest → (audiossLpaifTypeOf lpaif).isSome →
      (populateHwEpDirection dir).isSome → IdInOrder t rest

/-- The numbers of a name. -/
def NumbersInOrder (t : Target) (fields : List CString) : Prop :=
  ∀ intf rest i, fields = intf :: rest → populateHwEpIntf intf = some i → IntfInOrder t i rest

/-- What is read of the fields is what they say, if `P`; and where they say something, something is read. -/
structure ReadsFields (P : Prop) (read said : Option HwEpInfo) : Prop where
  accepts : said.isSome → read.isSome
  agrees : P → read = said.map HwEpInfo.capped

section

variable {t : Target} {intf : HwIntf} {w : CString} {s : Scan} {m : Nat}

theorem ReadsFields.of_eq {P : Prop} {read said : Option HwEpInfo} (h : read = said.map HwEpInfo.capped) :
    ReadsFields P read said :=
  ⟨fun hs => by rw [h, Option.isSome_map]; exact hs, fun _ => h⟩

theorem ReadsFields.of_none {P : Prop} : ReadsFields P none none := .of_eq rfl

theorem dir_read (h : s.At w m) (hs : s.arg = []) :
    populateHwEpDirection s.again.arg = populateHwEpDirection (tokenOf w) :=
  h.read knowsOnly_dir short_dir (by rw [hs]; decide)

theorem reads_dirFields (h : s.At w 60) (hs : s.arg = []) :
    ReadsFields True ((populateHwEpDirection s.again.arg).map fun d => ⟨intf, d, .unused, 0⟩)
      (dirFields intf (w.splitOn '-')) := by
  refine .of_eq ?_
  rw [dir_read h hs, splitOn_dash, dirFields, Option.map_map]
  rfl

theorem reads_slim {v : CString} (h : Scan.At ⟨[], v⟩ w 60) :
    ReadsFields True (HwEpInfo.populateSlimDpUsbEpInfo .slimbus v) (slimFields .slimbus (w.splitOn '-')) := by
  refine .of_eq ?_
  unfold HwEpInfo.populateSlimDpUsbEpInfo
  rw [if_pos rfl, h.read knowsOnly_slimDev short_slimDev (show slimDevId [] = none from rfl), splitOn_dash]
  cases hdev : slimDevId (tokenOf w) with
  | none =>
    cases restOf w with
    | none => rfl
    | some w' =>
      rw [Option.elim_some, splitOn_dash, slimFields, hdev]
      rfl
  | some i =>
    have hlen := (short_slimDev _ (knowsOnly_slimDev _ _ hdev)).2
    rw [h.read_behind (by omega) knowsOnly_slimDev short_slimDev knowsOnly_dir short_dir dir_of_slimDev hdev]
    cases restOf w with
    | none => rfl
    | some w' =>
      rw [Option.elim_some, splitOn_dash, slimFields, hdev, Option.bind_some]
      cases populateHwEpDirection (tokenOf w') <;> rfl

/-- The device id behind a direction. -/
theorem id_behind_dir (h : s.At w m) (hm : 31 ≤ m) {d : Nat} (hd : populateHwEpDirection (tokenOf w) = some d)
    (hid : IdInOrder t ((restOf w).elim [] fun w' => w'.splitOn '-')) :
    ∃ id more, (restOf w).elim [] (fun w' => w'.splitOn '-') = id :: more ∧
      decimalOf id = some (HwEpInfo.devId t s.again.again.arg) := by
  obtain ⟨id, more, n, hmore, hn, hfits⟩ := hid
  refine ⟨id, more, hmore, ?_⟩
  have hlen := (short_dir _ (knowsOnly_dir _ _ hd)).2
  rw [h.arg_behind (by omega) knowsOnly_dir short_dir hd]
  cases hw' : restOf w with
  | none =>
    rw [hw'] at hmore
    cases hmore
  | some w' =>
    rw [hw', Option.elim_some, splitOn_dash] at hmore
    obtain ⟨rfl, -⟩ := List.cons.inj hmore
    rw [Option.elim_some, if_neg (decimalOf_ne_nil hn), devId_eq hn hfits, hn]

theorem reads_proxy {v : CString} (h : Scan.At ⟨[], v⟩ w 60) :
    ReadsFields (∀ dir rest, w.splitOn '-' = dir :: rest → (populateHwEpDirection dir).isSome → IdInOrder t rest)
      (HwEpInfo.populatePcmProxyEpInfo t intf v) (proxyFields intf (w.splitOn '-')) := by
  unfold HwEpInfo.populatePcmProxyEpInfo
  dsimp only
  rw [dir_read h rfl]
  cases hd : populateHwEpDirection (tokenOf w) with
  | none =>
    have hnone : proxyFields intf (w.splitOn '-') = none := by
      rw [splitOn_dash]
      cases (restOf w).elim [] fun w' => w'.splitOn '-' with
      | nil => rfl
      | cons id more => rw [proxyFields, hd]
    rw [hnone]
    exact .of_none
  | some d =>
    refine ⟨fun _ => rfl, fun hin => ?_⟩
    have hid := hin _ _ (splitOn_dash w) (by rw [hd]; rfl)
    obtain ⟨id, more, hrest, hn⟩ := id_behind_dir h (by omega) hd hid
    rw [splitOn_dash, hrest, proxyFields, hd, hn]
    rfl

theorem reads_audioss {v : CString} (h : Scan.At ⟨[], v⟩ w 60) :
    ReadsFields (∀ lpaif dir rest, w.splitOn '-' = lpaif :: dir :: rest → (audiossLpaifTypeOf lpaif).isSome →
        (populateHwEpDirection dir).isSome → IdInOrder t rest)
      (HwEpInfo.populateAudiossDmaEpInfo t intf v) (audiossFields intf (w.splitOn '-')) := by
  unfold HwEpInfo.populateAudiossDmaEpInfo
  dsimp only
  rw [h.read knowsOnly_audiossLpaif short_lpaif (show audiossLpaifTypeOf [] = none from rfl)]
  cases hl : audiossLpaifTypeOf (tokenOf w) with
  | none =>
    have hnone : audiossFields intf (w.splitOn '-') = none := by
      rw [splitOn_dash]
      unfold audiossFields
      split
      · next heq =>
        obtain ⟨rfl, -⟩ := List.cons.inj heq
        rw [hl]
      · rfl
    rw [hnone]
    exact .of_none
  | some l =>
    have hlen := (short_lpaif _ (knowsOnly_audiossLpaif _ _ hl)).2
    dsimp only
    rw [h.read_behind (by omega) knowsOnly_audiossLpaif short_lpaif knowsOnly_dir short_dir dir_of_lpaif hl]
    cases hrest : restOf w with
    | none =>
      have hnone : audiossFields intf (w.splitOn '-') = none := by
        rw [splitOn_dash, hrest]
        rfl
      rw [hnone]
      exact .of_none
    | some w' =>
      rw [Option.bind_some]
      have hsplit : w.splitOn '-' = tokenOf w :: tokenOf w' :: (restOf w').elim [] fun w' => w'.splitOn '-' := by
        rw [splitOn_dash, hrest, Option.elim_some, splitOn_dash]
      cases hd : populateHwEpDirection (tokenOf w') with
      | none =>
        have hnone : audiossFields intf (w.splitOn '-') = none := by
          rw [hsplit]
          cases (restOf w').elim [] fun w' => w'.splitOn '-' with
          | nil => rfl
          | cons id more => rw [audiossFields, hl, hd]
        rw [hnone]
        exact .of_none
      | some d =>
        refine ⟨fun _ => rfl, fun hin => ?_⟩
        have hid := hin _ _ _ hsplit (by rw [hl]; rfl) (by rw [hd]; rfl)
        have hne : w' ≠ [] := by
          rintro rfl
          cases hd
        obtain ⟨-, hat⟩ := h.next (by omega) knowsOnly_audiossLpaif short_lpaif hl hrest hne
        obtain ⟨id, more, hmore, hn⟩ := id_behind_dir hat (by omega) hd hid
        rw [hsplit, hmore, audiossFields, hl, hd, hn]
        rfl

/-! ## Counts -/

/-- What is read where nothing is known about the fields. -/
theorem Scan.At.arg_two (h : s.At w m) (hm : 22 ≤ m) : s.again.again.arg = countArg m s.arg (w.splitOn '-') := by
  rw [splitOn_dash]
  have hkept (hvalue : s.again.value = s.value) (hne : tokenOf w ≠ []) : s.again.again.arg = (tokenOf w).take 20 := by
    have hat : s.again.At w m := ⟨hvalue.trans h.value, h.clean, h.room, h.fits⟩
    rw [hat.arg_again, if_neg hne]
  by_cases hnil : tokenOf w = []
  · have hsame : s.again = s := by
      unfold Scan.again
      rw [h.value, Scan.sscanf_of_nil m hnil]
    rw [hsame, hsame, hnil]
    cases restOf w with
    | none => rfl
    | some w' =>
      rw [Option.elim_some, splitOn_dash]
      rfl
  · have hcall := h.again_eq hnil
    by_cases hlen : (tokenOf w).length ≤ 20
    · rw [if_pos hlen] at hcall
      cases hrest : restOf w with
      | none =>
        rw [hrest] at hcall
        rw [hkept (by rw [hcall]; rfl) hnil]
        exact (if_neg hnil).symm
      | some w' =>
        rw [hrest, Option.elim_some] at hcall
        rw [Option.elim_some, splitOn_dash, countArg, if_neg hnil, if_neg (by omega)]
        by_cases hw' : w' = []
        · rw [hw', List.take_nil, if_pos rfl] at hcall
          rw [hkept (by rw [hcall]) hnil, hw', List.take_of_length_le hlen]
          exact (if_pos rfl).symm
        · have hcut : w'.take (m - (tokenOf w).length - 1) ≠ [] := by
            intro hcut
            rcases List.take_eq_nil_iff.1 hcut with hzero | hw
            · omega
            · exact hw' hw
          rw [if_neg hcut] at hcall
          show (s.again.sscanf s.again.value).arg = _
          rw [hcall, Scan.arg_sscanf (by omega), List.take_of_length_le hlen]
    · rw [if_neg hlen] at hcall
      rw [hkept (by rw [hcall]) hnil]
      cases restOf w with
      | none => exact (if_neg hnil).symm
      | some w' =>
        rw [Option.elim_some, splitOn_dash, countArg, if_neg hnil, if_pos (by omega)]

theorem not_virt_of_intfIdx : ∀ k ∈ intfIdxNames, (strstr VIRT (k ++ ['-'])).isSome = false := by decide

/-- The reader of the field `VIRT`. -/
def virtOf (s : CString) : Option Unit := [("VIRT".toList, ())].lookup s

/-- Behind `VIRT` the count is read. -/
theorem arg_behind_virt {count : CString} {more : List CString} (h : s.At w m) (hm : 25 ≤ m)
    (hfields : w.splitOn '-' = "VIRT".toList :: count :: more) (hcount : count ≠ []) :
    s.again.again.arg = count.take 20 := by
  rw [splitOn_dash] at hfields
  obtain ⟨hvirt, hrest⟩ := List.cons.inj hfields
  have hknown : virtOf (tokenOf w) = some () := by
    rw [hvirt]
    rfl
  have hlen : (tokenOf w).length = 4 := by
    rw [hvirt]
    rfl
  rw [h.arg_behind (by omega) (knowsOnly_lookup [("VIRT".toList, ())]) (by decide) hknown]
  cases hw' : restOf w with
  | none =>
    rw [hw'] at hrest
    cases hrest
  | some w' =>
    rw [hw', Option.elim_some, splitOn_dash] at hrest
    obtain ⟨rfl, -⟩ := List.cons.inj hrest
    rw [Option.elim_some, if_neg hcount]

theorem prefix_of_countOf {n : Nat} (h : countOf (w.splitOn '-') = some n) : VIRT <+: w := by
  rw [splitOn_dash] at h
  cases hrest : restOf w with
  | none =>
    rw [hrest] at h
    cases h
  | some w' =>
    rw [hrest, Option.elim_some, splitOn_dash] at h
    obtain ⟨hvirt, -⟩ := Option.ite_none_right_eq_some.1 h
    refine ⟨w', ?_⟩
    rw [eq_of_restOf_some hrest, hvirt]
    rfl

/-- **The number of virtual devices**, read behind an index that is known. -/
theorem numVirtChild_eq (h : s.At w m) (hm : 38 ≤ m) {i : Nat} (hi : hwEpIntfIdx intf (tokenOf w) = some i)
    (hcount : CountInOrder t (m - (tokenOf w).length - 1) (tokenOf w) ((restOf w).elim [] fun w' => w'.splitOn '-')) :
    HwEpInfo.numVirtChild t s.again =
      min (((countOf ((restOf w).elim [] fun w' => w'.splitOn '-')).getD 0 : Nat) : Int) MAX_VIRTUAL_CHILDS := by
  have hidx := knowsOnly_intfIdx intf _ _ hi
  obtain ⟨hnil, hlen⟩ := short_intfIdx _ hidx
  have hzero : (0 : Int) = min ((0 : Nat) : Int) MAX_VIRTUAL_CHILDS := by decide
  unfold HwEpInfo.numVirtChild
  dsimp only
  by_cases hrest : restOf w = none ∨ restOf w = some []
  · have hvirt : ¬ (strstr VIRT s.again.value).isSome = true := by
      rw [h.stuck (knowsOnly_intfIdx intf) short_intfIdx hi hrest, strstr_isSome_iff]
      intro hinfix
      have hw : w <+: tokenOf w ++ ['-'] := by
        rcases hrest with hrest | hrest
        · exact ⟨['-'], by rw [← eq_of_restOf_none hrest]⟩
        · exact ⟨[], by rw [List.append_nil]; exact eq_of_restOf_some hrest⟩
      have hin := (h.value ▸ hinfix : VIRT <:+: w.take m).trans ((List.take_prefix m w).trans hw).isInfix
      rw [← strstr_isSome_iff, not_virt_of_intfIdx _ hidx] at hin
      cases hin
    rw [if_neg hvirt]
    rcases hrest with hrest | hrest
    · rw [hrest]
      exact hzero
    · rw [hrest]
      exact hzero
  · obtain ⟨w', hw'⟩ := Option.ne_none_iff_exists'.1 fun h => hrest (.inl h)
    have hne : w' ≠ [] := by
      rintro rfl
      exact hrest (.inr hw')
    obtain ⟨harg, hat⟩ := h.next (by omega) (knowsOnly_intfIdx intf) short_intfIdx hi hw' hne
    rw [hw', Option.elim_some] at hcount ⊢
    rw [hat.value]
    by_cases hvirt : VIRT <:+: w'.take (m - (tokenOf w).length - 1)
    · rw [if_pos ((strstr_isSome_iff _ _).2 hvirt)]
      rcases hcount (by rwa [List.intercalate_splitOn]) with ⟨count, more, n, hfields, hn, hshort, hlt⟩ | ⟨hnone, h0⟩
      · rw [arg_behind_virt hat (by omega) hfields (decimalOf_ne_nil hn), atoi_count hn hshort hlt, hfields]
        show _ = min (((decimalOf count).getD 0 : Nat) : Int) _
        rw [hn, Option.getD_some]
        unfold MAX_VIRTUAL_CHILDS
        split <;> omega
      · rw [hat.arg_two (by omega), harg, h0, hnone]
        exact hzero
    · rw [if_neg (fun hsome => hvirt ((strstr_isSome_iff _ _).1 hsome))]
      cases hc : countOf (w'.splitOn '-') with
      | none => exact hzero
      | some n =>
        obtain ⟨v, hv⟩ := prefix_of_countOf hc
        refine absurd ⟨[], v.take (m - (tokenOf w).length - 1 - 5), ?_⟩ hvirt
        rw [← hv, List.nil_append, List.take_append, List.take_of_length_le (show VIRT.length ≤ _ by
          show 5 ≤ _
          omega)]
        rfl

theorem reads_cdc {v : CString} (h : Scan.At ⟨[], v⟩ w 60) :
    ReadsFields (∀ lpaif dir idx rest, w.splitOn '-' = lpaif :: dir :: idx :: rest → (lpaifTypeOf lpaif).isSome →
        (populateHwEpDirection dir).isSome → (hwEpIntfIdx intf idx).isSome →
        CountInOrder t (57 - (lpaif.length + dir.length + idx.length)) idx rest)
      (HwEpInfo.populateCdcDmaI2sTdmPcmEpInfo t intf v) (cdcFields intf (w.splitOn '-')) := by
  unfold HwEpInfo.populateCdcDmaI2sTdmPcmEpInfo
  dsimp only
  rw [h.read knowsOnly_lpaif short_lpaif (show lpaifTypeOf [] = none from rfl)]
  have hfail (hnone : cdcFields intf (w.splitOn '-') = none) {P : Prop} :
      ReadsFields P none (cdcFields intf (w.splitOn '-')) := by
    rw [hnone]
    exact .of_none
  cases hl : lpaifTypeOf (tokenOf w) with
  | none =>
    refine hfail ?_
    rw [splitOn_dash]
    unfold cdcFields
    split
    · next heq =>
      obtain ⟨rfl, -⟩ := List.cons.inj heq
      rw [hl]
    · rfl
  | some l =>
    have hlen := (short_lpaif _ (knowsOnly_lpaif _ _ hl)).2
    dsimp only
    rw [h.read_behind (by omega) knowsOnly_lpaif short_lpaif knowsOnly_dir short_dir dir_of_lpaif hl]
    cases hrest : restOf w with
    | none =>
      refine hfail ?_
      rw [splitOn_dash, hrest]
      rfl
    | some w' =>
      rw [Option.bind_some]
      have hsplit : w.splitOn '-' = tokenOf w :: tokenOf w' :: (restOf w').elim [] fun w' => w'.splitOn '-' := by
        rw [splitOn_dash, hrest, Option.elim_some, splitOn_dash]
      cases hd : populateHwEpDirection (tokenOf w') with
      | none =>
        refine hfail ?_
        rw [hsplit]
        cases (restOf w').elim [] fun w' => w'.splitOn '-' with
        | nil => rfl
        | cons idx more => rw [cdcFields, hl, hd]
      | some d =>
        have hdlen := (short_dir _ (knowsOnly_dir _ _ hd)).2
        have hne : w' ≠ [] := by
          rintro rfl
          cases hd
        obtain ⟨-, hat⟩ := h.next (by omega) knowsOnly_lpaif short_lpaif hl hrest hne
        dsimp only
        rw [hat.read_behind (by omega) knowsOnly_dir short_dir (knowsOnly_intfIdx intf) short_intfIdx
          (intfIdx_of_dir intf) hd]
        cases hrest' : restOf w' with
        | none =>
          refine hfail ?_
          rw [hsplit, hrest']
          rfl
        | some w'' =>
          rw [Option.bind_some]
          rw [hrest', Option.elim_some, splitOn_dash w''] at hsplit
          cases hi : hwEpIntfIdx intf (tokenOf w'') with
          | none =>
            refine hfail ?_
            rw [hsplit, cdcFields, hl, hd, hi]
          | some i =>
            refine ⟨fun _ => rfl, fun hin => ?_⟩
            have hcount := hin _ _ _ _ hsplit (by rw [hl]; rfl) (by rw [hd]; rfl) (by rw [hi]; rfl)
            have hne' : w'' ≠ [] := by
              rintro rfl
              have := knowsOnly_intfIdx intf _ _ hi
              exact absurd rfl (short_intfIdx _ this).1
            obtain ⟨-, hat'⟩ := hat.next (by omega) knowsOnly_dir short_dir hd hrest' hne'
            have hroom : 57 - ((tokenOf w).length + (tokenOf w').length + (tokenOf w'').length) =
                60 - (tokenOf w).length - 1 - (tokenOf w').length - 1 - (tokenOf w'').length - 1 := by omega
            rw [hroom] at hcount
            rw [numVirtChild_eq hat' (by omega) hi hcount, hsplit, cdcFields, hl, hd, hi]
            rfl

theorem reads_intf (t : Target) {v : CString} (intf : HwIntf) (h : Scan.At ⟨[], v⟩ w 60) :
    ReadsFields (IntfInOrder t intf (w.splitOn '-')) (HwEpInfo.populateIntfEpInfo t intf v)
      (intfFields intf (w.splitOn '-')) := by
  cases intf with
  | codecDma | mi2s | tdm | auxpcm => exact reads_cdc h
  | slimbus => exact reads_slim h
  | displayPort | usbAudio => exact reads_dirFields h rfl
  | pcmRtProxy | pcmDummy => exact reads_proxy h
  | audiossDma => exact reads_audioss h

end

/-! ## The name -/

theorem intfName_lt : ∀ k ∈ intfNames, k.length < 20 := by decide

/-- What is read of a name. -/
theorem reads_name (t : Target) (name : DeviceName) :
    ReadsFields (NumbersInOrder t name.fields) (HwEpInfo.populateDeviceHwEpInfo t name.chars)
      (nameFields name.fields) := by
  obtain ⟨w, -, hclean⟩ := name
  have hwhole : w = w.take (w.length + 20) := (List.take_of_length_le (by omega)).symm
  unfold HwEpInfo.populateDeviceHwEpInfo DeviceName.fields
  dsimp only
  by_cases hnil : tokenOf w = []
  · have hcall : Scan.sscanf ⟨[], []⟩ w = ⟨[], []⟩ := by
      rw [hwhole, Scan.sscanf_of_nil _ hnil]
    rw [hcall, splitOn_dash, hnil]
    exact .of_none
  have hcall := Scan.sscanf_eq (s := ⟨[], []⟩) (show 20 ≤ w.length + 20 by omega) hclean hnil
  rw [← hwhole] at hcall
  have harg : (Scan.sscanf ⟨[], []⟩ w).arg = (tokenOf w).take 20 := by rw [hcall]
  rw [harg, knowsOnly_intf.take intfName_lt, splitOn_dash]
  cases hi : populateHwEpIntf (tokenOf w) with
  | none =>
    rw [nameFields, hi]
    exact .of_none
  | some i =>
    have hlen := intfName_lt _ (knowsOnly_intf _ _ hi)
    rw [if_pos (by omega)] at hcall
    dsimp only
    have hfields (rest : List CString) : nameFields (tokenOf w :: rest) = intfFields i rest := by
      rw [nameFields, hi]
      rfl
    rw [hfields]
    cases hrest : restOf w with
    | none =>
      rw [hrest] at hcall
      rw [hcall]
      have hread : HwEpInfo.populateIntfEpInfo t i [] = none := by cases i <;> rfl
      have hsaid : intfFields i [] = none := by cases i <;> rfl
      show ReadsFields _ (HwEpInfo.populateIntfEpInfo t i []) (intfFields i [])
      rw [hread, hsaid]
      exact .of_none
    | some w' =>
      have hw := eq_of_restOf_some hrest
      have hvalue : (Scan.sscanf ⟨[], []⟩ w).value = w'.take 60 := by
        have hlength := congrArg List.length hw
        rw [List.length_append, List.length_cons] at hlength
        rw [hcall, hrest, Option.elim_some, List.take_of_length_le (l := w') (by omega)]
        split
        · next hcut => exact hcut.symm
        · rfl
      have hat : Scan.At ⟨[], (Scan.sscanf ⟨[], []⟩ w).value⟩ w' 60 := by
        refine ⟨hvalue, fun c hc => hclean c ?_, by omega, le_refl _⟩
        rw [hw]
        exact List.mem_append_right _ (List.mem_cons_of_mem _ hc)
      obtain ⟨haccepts, hagrees⟩ := reads_intf t i hat
      refine ⟨haccepts, fun hin => hagrees ?_⟩
      exact hin _ _ _ rfl hi

/-- **What `populate_device_hw_ep_info` makes of a name.**  It returns 0 for every name that is put together from fields
which say what the endpoint is, whatever follows them; and of a name whose numbers are in order it reads what its fields
say, where more virtual devices than there can be are as many as there can be. -/
theorem hwEpInfo_reads (t : Target) (name : DeviceName) :
    (∀ fields, fields ≠ [] → (∀ f ∈ fields, '-' ∉ f) → name.chars = ['-'].intercalate fields →
      (nameFields fields).isSome → (HwEpInfo.populateDeviceHwEpInfo t name.chars).isSome) ∧
    (NumbersInOrder t name.fields →
      HwEpInfo.populateDeviceHwEpInfo t name.chars = (nameFields name.fields).map HwEpInfo.capped) := by
  obtain ⟨haccepts, hagrees⟩ := reads_name t name
  refine ⟨fun fields hne hdash hname => ?_, hagrees⟩
  have hfields : name.fields = fields := by
    rw [DeviceName.fields, hname, List.splitOn_intercalate '-' hdash hne]
  rw [← hfields]
  exact haccepts

theorem clean_of_all {cs : CString} (h : (cs.all fun c => ! isSpace c) = true) : ∀ c ∈ cs, isSpace c = false := by
  intro c hc
  simpa using List.all_eq_true.1 h c hc

/-- A name with two virtual devices. -/
def DeviceName.twoVirtual : DeviceName where
  chars := "TDM-LPAIF_WSA-RX-SECONDARY-VIRT-2-codec".toList
  short := by decide
  clean := clean_of_all (by decide)

theorem fields_twoVirtual : DeviceName.twoVirtual.fields =
    ["TDM", "LPAIF_WSA", "RX", "SECONDARY", "VIRT", "2", "codec"].map String.toList := by decide

theorem hwEpInfo_reads_twoVirtual : HwEpInfo.populateDeviceHwEpInfo {} DeviceName.twoVirtual.chars =
    some ⟨.tdm, AUDIO_OUTPUT, .cdcDmaI2sTdm .lpaifWsa 1, 2⟩ := by
  refine ((hwEpInfo_reads {} .twoVirtual).2 ?_).trans (by decide)
  rw [fields_twoVirtual]
  rintro intf rest i hfields hi
  obtain ⟨rfl, rfl⟩ := List.cons.inj hfields
  obtain rfl : HwIntf.tdm = i := Option.some.inj ((by decide : populateHwEpIntf "TDM".toList = some .tdm).symm.trans hi)
  rintro lpaif dir idx more hfields - - -
  simp only [List.map_cons, List.map_nil, List.cons.injEq] at hfields
  obtain ⟨rfl, rfl, rfl, rfl⟩ := hfields
  exact fun _ => .inl ⟨"2".toList, ["codec".toList], 2, rfl, by decide, by decide, by decide⟩
/-- A name with nine virtual devices. -/
def DeviceName.nineVirtual : DeviceName where
  chars := "CODEC_DMA-LPAIF-RX-0-VIRT-9".toList
  short := by decide
  clean := clean_of_all (by decide)

/-- Eight of them come into being. -/
theorem hwEpInfo_nineVirtual :
    HwEpInfo.populateDeviceHwEpInfo {} DeviceName.nineVirtual.chars =
        some ⟨.codecDma, AUDIO_OUTPUT, .cdcDmaI2sTdm .lpaif 1, 8⟩ ∧
      nameFields DeviceName.nineVirtual.fields = some ⟨.codecDma, AUDIO_OUTPUT, .cdcDmaI2sTdm .lpaif 1, 9⟩ := by
  decide
/-! ## The list of devices -/

section

variable {s : Scan} {src : CString}

/-- Without white space the two ways to read a field are one. -/
theorem Scan.sscanf_eq_read (h : ∀ c ∈ src, isSpace c = false) : s.sscanf src = s.read src := by
  unfold Scan.sscanf Scan.read
  dsimp only
  split
  · rfl
  · cases hdrop : src.drop ((src.takeWhile (· ≠ '-')).take (DEV_ARG_SIZE - 1)).length with
    | nil => rfl
    | cons c cs =>
      have hclean : ∀ c ∈ cs, isSpace c = false := by
        intro x hx
        exact h x (List.mem_of_mem_drop (hdrop ▸ List.mem_cons_of_mem _ hx))
      by_cases hc : c = '-'
      · subst hc
        have hword := word_of_clean hclean
        cases cs with
        | nil => rfl
        | cons c cs =>
          show (⟨_, if List.take _ (List.takeWhile _ (List.dropWhile isSpace (c :: cs))) = [] then _ else
            List.take _ (List.takeWhile _ (List.dropWhile isSpace (c :: cs)))⟩ : Scan) = _
          rw [hword]
          rfl
      · split
        · next heq => exact absurd (List.cons.inj heq).1 hc
        · split
          · next heq => exact absurd (List.cons.inj heq).1 hc
          · rfl

/-- No white space has come into `value`. -/
def Scan.Clean (s : Scan) : Prop := ∀ c ∈ s.value, isSpace c = false

theorem Scan.Clean.read (hs : s.Clean) (h : ∀ c ∈ src, isSpace c = false) : (s.read src).Clean := by
  intro c hc
  have hread := Scan.read_infix (List.prefix_append s.value src).isInfix (List.suffix_append s.value src).isInfix
  rcases List.mem_append.1 (hread.subset hc) with hc | hc
  · exact hs c hc
  · exact h c hc

theorem Scan.Clean.again (h : s.Clean) : s.again = s.next := Scan.sscanf_eq_read h

theorem Scan.Clean.next (h : s.Clean) : s.next.Clean := Scan.Clean.read h h

theorem numVirtChild_of_clean (t : Target) (h : s.Clean) : HwEpInfo.numVirtChild t s = numVirtChild t s := by
  unfold HwEpInfo.numVirtChild numVirtChild
  rw [h.again, h.next.again]
  dsimp only
  split
  · rw [min_def]
    split_ifs <;> omega
  · rfl

theorem isSome_lookup_iff {β : Type} (table : List (CString × β)) (x : CString) :
    (table.lookup x).isSome = true ↔ x ∈ table.map Prod.fst := by
  rw [List.lookup_isSome_iff, List.mem_map]
  refine exists_congr fun p => and_congr_right fun _ => ?_
  rw [beq_iff_eq, eq_comm]

theorem isSome_hwEpIntfIdx (intf : HwIntf) (x : CString) :
    (hwEpIntfIdx intf x).isSome = populateHwEpIntfIdx intf x := by
  rw [Bool.eq_iff_iff]
  unfold populateHwEpIntfIdx hwEpIntfIdx
  cases intf with
  | codecDma | mi2s | tdm | auxpcm => exact (isSome_lookup_iff _ x).trans decide_eq_true_iff.symm
  | slimbus | displayPort | usbAudio | pcmRtProxy | audiossDma | pcmDummy => exact Iff.rfl

variable {v : CString} {intf : HwIntf}

theorem cdc_ep (t : Target) (h : Scan.Clean ⟨[], v⟩) :
    (HwEpInfo.populateCdcDmaI2sTdmPcmEpInfo t intf v).map HwEpInfo.ep = populateCdcDmaI2sTdmPcmEpInfo t intf v := by
  unfold HwEpInfo.populateCdcDmaI2sTdmPcmEpInfo populateCdcDmaI2sTdmPcmEpInfo
  dsimp only
  rw [h.again, h.next.again, h.next.next.again, numVirtChild_of_clean t h.next.next.next, ← isSome_hwEpIntfIdx]
  have hmem : (lpaifTypeOf (Scan.next ⟨[], v⟩).arg).isSome = true ↔ (Scan.next ⟨[], v⟩).arg ∈ lpaifTypes :=
    isSome_lookup_iff _ _
  cases hl : lpaifTypeOf (Scan.next ⟨[], v⟩).arg with
  | none =>
    rw [if_pos fun hin => by rw [hl] at hmem; cases hmem.2 hin]
    rfl
  | some l =>
    rw [if_neg (not_not.2 (hmem.1 (by rw [hl]; rfl)))]
    cases populateHwEpDirection (Scan.next ⟨[], v⟩).next.arg with
    | none => rfl
    | some d => cases hwEpIntfIdx intf (Scan.next ⟨[], v⟩).next.next.arg <;> rfl

theorem slim_ep (intf : HwIntf) (h : Scan.Clean ⟨[], v⟩) :
    (HwEpInfo.populateSlimDpUsbEpInfo intf v).map HwEpInfo.ep = populateSlimDpUsbEpInfo intf v := by
  unfold HwEpInfo.populateSlimDpUsbEpInfo populateSlimDpUsbEpInfo
  dsimp only
  rw [h.again, h.next.again]
  split
  · have hmem : (slimDevId (Scan.next ⟨[], v⟩).arg).isSome = true ↔
        (Scan.next ⟨[], v⟩).arg ∈ ["DEV1", "DEV2"].map String.toList := isSome_lookup_iff _ _
    cases hi : slimDevId (Scan.next ⟨[], v⟩).arg with
    | none =>
      rw [if_pos fun hin => by rw [hi] at hmem; cases hmem.2 hin]
      rfl
    | some i =>
      rw [if_neg (not_not.2 (hmem.1 (by rw [hi]; rfl)))]
      cases populateHwEpDirection (Scan.next ⟨[], v⟩).next.arg <;> rfl
  · cases populateHwEpDirection (Scan.next ⟨[], v⟩).arg <;> rfl

theorem proxy_ep (t : Target) (h : Scan.Clean ⟨[], v⟩) :
    (HwEpInfo.populatePcmProxyEpInfo t intf v).map HwEpInfo.ep = populatePcmProxyEpInfo intf v := by
  unfold HwEpInfo.populatePcmProxyEpInfo populatePcmProxyEpInfo
  dsimp only
  rw [h.again]
  cases populateHwEpDirection (Scan.next ⟨[], v⟩).arg <;> rfl

theorem audioss_ep (t : Target) (h : Scan.Clean ⟨[], v⟩) :
    (HwEpInfo.populateAudiossDmaEpInfo t intf v).map HwEpInfo.ep = populateAudiossDmaEpInfo intf v := by
  unfold HwEpInfo.populateAudiossDmaEpInfo populateAudiossDmaEpInfo
  dsimp only
  rw [h.again, h.next.again]
  have hmem : (audiossLpaifTypeOf (Scan.next ⟨[], v⟩).arg).isSome = true ↔
      (Scan.next ⟨[], v⟩).arg ∈ ["LPAIF_VA".toList] := isSome_lookup_iff _ _
  rw [List.mem_singleton] at hmem
  cases hl : audiossLpaifTypeOf (Scan.next ⟨[], v⟩).arg with
  | none =>
    rw [if_pos fun hin => by rw [hl] at hmem; cases hmem.2 hin]
    rfl
  | some l =>
    rw [if_neg (not_not.2 (hmem.1 (by rw [hl]; rfl)))]
    cases populateHwEpDirection (Scan.next ⟨[], v⟩).next.arg <;> rfl

end

/-- **The list of devices is made from what is read here.** -/
theorem populateDeviceHwEpInfo_ep (t : Target) (name : DeviceName) :
    (HwEpInfo.populateDeviceHwEpInfo t name.chars).map HwEpInfo.ep = populateDeviceHwEpInfo t name.chars := by
  obtain ⟨w, -, hclean⟩ := name
  have h : Scan.Clean ⟨[], (Scan.read ⟨[], []⟩ w).value⟩ :=
    Scan.Clean.read (s := ⟨[], []⟩) (fun c hc => by cases hc) hclean
  unfold HwEpInfo.populateDeviceHwEpInfo populateDeviceHwEpInfo
  dsimp only
  rw [Scan.sscanf_eq_read hclean]
  cases populateHwEpIntf (Scan.read ⟨[], []⟩ w).arg with
  | none => rfl
  | some intf =>
    cases intf with
    | codecDma | mi2s | tdm | auxpcm => exact cdc_ep t h
    | slimbus => exact slim_ep .slimbus h
    | displayPort => exact slim_ep .displayPort h
    | usbAudio => exact slim_ep .usbAudio h
    | pcmRtProxy | pcmDummy => exact proxy_ep t h
    | audiossDma => exact audioss_ep t h

end Agm.Service
