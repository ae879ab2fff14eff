import Agm.Mixer.CtlAgree

/-!
# The elements of the control plugin

alsa-lib asks the control plugin how many elements it has, for the name of the element at an offset, for the offset of an
element that it has the name or the number of, and for the items of an enumerated element.  What comes back should fit
together: the offset of an element is found again, and the text of an item says what a write of it acts on.
-/

namespace Agm.Mixer

open Agm.Lib Agm.Service Agm.Parser CString

/-! ## The table -/

/-- `ctl_idx` in `amp_form_mixer_controls`, and the writes to `controls`, in order. -/
structure ControlFill where
  ctlIdx : Nat := 0
  writes : List (Nat × AgmMixerControl) := []
  deriving DecidableEq, Repr

/-- A control is written at the running index, which then goes on. -/
def ControlFill.put (w : ControlFill) (c : AgmMixerControl) : ControlFill :=
  ⟨w.ctlIdx + 1, w.writes ++ [(w.ctlIdx, c)]⟩

/-- The loop of a function that forms the controls of one PCM or one back end. -/
def ControlFill.putAll (w : ControlFill) (cs : List AgmMixerControl) : ControlFill := cs.foldl ControlFill.put w

/-- A turn of the loop over the PCMs. -/
def fillPcm (w : ControlFill) (dev : SndDevDef) : ControlFill :=
  let w := w.putAll (agmctlFormPcmControls agmFeCtls dev)
  if hasDir "capture".toList dev then w.putAll (agmctlFormPcmControls agmTxCtls dev) else w

/-- The loop over the PCMs and the one over the back ends. -/
def fillControls (card : SndDevDefCard) (aifList : List AifInfo) : ControlFill :=
  aifList.zipIdx.foldl (fun w a => w.putAll (agmctlFormBeControls a.1 a.2)) ((nodeList card).foldl fillPcm {})

/-- How `total_ctl_cnt` is counted. -/
def agmTotalCtlCnt (card : SndDevDefCard) (aifList : List AifInfo) : Nat :=
  (nodeList card).length * agmFeCtls.length +
    ((nodeList card).filter (hasDir "capture".toList)).length * agmTxCtls.length + aifList.length * agmBeCtls.length

/-- What `amp_form_mixer_controls` returns, `total_ctl_cnt` and the writes to `controls`, where the memory is granted. -/
def ampFormMixerTable (card : SndDevDefCard) (aifList : List AifInfo) : Int × Nat × List (Nat × AgmMixerControl) :=
  if nodeList card = [] then (-EINVAL, 0, [])
  else (0, agmTotalCtlCnt card aifList, (fillControls card aifList).writes)

/-! ## What alsa-lib asks for -/

/-- The fields of `snd_ctl_elem_id_t` that are looked at, cleared. -/
structure ElemId where
  numid : Nat := 0
  name : CString := []
  deriving DecidableEq, Repr

section

variable (totalCtlCnt : Nat) (p : AgmctlPriv)

/-- `agmctl_elem_list`.  The name of an id has a fixed size. -/
def agmctlElemList (offset : Nat) : ElemId :=
  if offset < totalCtlCnt then
    match p.controls[offset]? with
    | some c => { name := bounded SNDRV_CTL_ELEM_ID_NAME_MAXLEN c.mixerName }
    | none => {}
  else {}

/-- `agmctl_find_elem`, where `none` stands for `SND_CTL_EXT_KEY_NOT_FOUND`. -/
def agmctlFindElem (id : ElemId) : Option Nat :=
  if id.numid > 0 ∧ id.numid < totalCtlCnt then some (id.numid - 1)
  else (p.controls.take totalCtlCnt).findIdx? fun c => id.name = c.mixerName

/-- `agmctl_get_enumerated_info`, where `none` stands for `-EINVAL`. -/
def agmctlGetEnumeratedInfo (c : AgmMixerControl) : Option Nat :=
  match c.ctlId with
  | .connect | .disconnect => some p.aifList.length
  | .control | .echoref => some (p.aifList.length + 1)
  | .loopback => some (p.rxCount + 1)
  | _ => none

end

/-- A callback that may change the state. -/
inductive ElemOp
  | writeEnumerated (key item : Nat)
  | tlv (asked : Int × Nat) (granted : Bool) (key : Nat) (opFlag : Int) (data : Mem) (size : Nat)

def elemExec (p : AgmctlPriv) : ElemOp → AgmctlPriv
  | .writeEnumerated key item =>
    match p.controls[key]? with
    | none => p
    | some c => (agmctlWriteEnumerated p c item).2
  | .tlv asked granted key opFlag data size => (agmExtTlvCallback p asked granted key opFlag data size).2

/-- The state of the plugin after the callbacks of a run. -/
def elemRun (card : SndDevDefCard) (aifList : List AifInfo) (ops : List ElemOp) : AgmctlPriv :=
  ops.foldl elemExec (ampFormMixerControls card aifList)

/-! ## What it should come to -/

/-- The PCMs that the items of `loopback` are for. -/
def rxNodes (card : SndDevDefCard) : List SndDevDef := (nodeList card).filter (hasDir "playback".toList)

/-- The name of the back end or the PCM that a write of an item acts on, `ZERO` where the item switches off.  The back end
of `control` is the one that the next call for the PCM is for.  PCMs may share an id, so that of those the one in the place
of the item is meant. -/
def actsOn (card : SndDevDefCard) (p : AgmctlPriv) (c : AgmMixerControl) (item : Nat) : Option CString :=
  let (outcome, p') := agmctlWriteEnumerated p c item
  let aifName (beIdx : Nat) := p'.aifList[beIdx]?.map AifInfo.aifName
  match outcome with
  | .call (.aifConnect _ beIdx _) _ => aifName beIdx
  | .call (.setEcRef _ beIdx state) _ => if state then aifName beIdx else some "ZERO".toList
  | .call (.setLoopback _ rxIdx state) _ =>
    if state then ((rxNodes card)[item - 1]?.filter (·.device = rxIdx)).bind SndDevDef.name else some "ZERO".toList
  | .ret 0 => match agmctlBeIdx p' c with
    | some beIdx => aifName beIdx
    | none => some "ZERO".toList
  | _ => none

section

variable (totalCtlCnt : Nat) (p : AgmctlPriv)

/-- The element at an offset is found by the name that is reported for it. -/
def FoundByName (offset : Nat) : Prop := agmctlFindElem totalCtlCnt p (agmctlElemList totalCtlCnt p offset) = some offset

/-- It is found by its number. -/
def FoundByNumid (offset : Nat) : Prop := agmctlFindElem totalCtlCnt p { numid := offset + 1 } = some offset

/-- The text that is copied for an item, into a buffer of `n` bytes, is the name of what the item acts on. -/
def ItemNamed (card : SndDevDefCard) (n : Nat) (c : AgmMixerControl) (item : Nat) : Prop :=
  ∃ text, actsOn card p c item = some text ∧ (agmctlGetEnumeratedName p c item).map (bounded n) = some text

instance (offset : Nat) : Decidable (FoundByNumid totalCtlCnt p offset) := by
  unfold FoundByNumid
  infer_instance

end

/-- The elements and their items fit together, in every state that the plugin comes to. -/
structure ElemsAgree (card : SndDevDefCard) (aifList : List AifInfo) (n : Nat) : Prop where
  filled : (ampFormMixerTable card aifList).2.2.map Prod.fst = List.range (ampFormMixerTable card aifList).2.1
  byName (ops : List ElemOp) (offset : Nat) (h : offset < (ampFormMixerTable card aifList).2.1) :
    FoundByName (ampFormMixerTable card aifList).2.1 (elemRun card aifList ops) offset
  byNumid (ops : List ElemOp) (offset : Nat) (h : offset < (ampFormMixerTable card aifList).2.1) :
    FoundByNumid (ampFormMixerTable card aifList).2.1 (elemRun card aifList ops) offset
  items (ops : List ElemOp) (key : Nat) (h : key < (ampFormMixerTable card aifList).2.1) (c : AgmMixerControl)
    (hc : (elemRun card aifList ops).controls[key]? = some c) (count : Nat)
    (hcount : agmctlGetEnumeratedInfo (elemRun card aifList ops) c = some count) (item : Nat) (hitem : item < count) :
    ItemNamed (elemRun card aifList ops) card n c item

/-! ## The controls that are formed -/

def pcmCtlIds (dev : SndDevDef) : List CtlId := agmFeCtls ++ if hasDir "capture".toList dev then agmTxCtls else []

/-- The names of the controls, not cut off. -/
def controlNames (card : SndDevDefCard) (aifList : List AifInfo) : List CString :=
  (nodeList card).flatMap (fun dev => (pcmCtlIds dev).map fun id => dev.name.getD [] ++ ' ' :: id.extn) ++
    aifList.flatMap fun a => agmBeCtls.map fun id => a.aifName ++ ' ' :: id.extn

/-- The table holds these controls, each at its place. -/
structure ControlFill.Holds (w : ControlFill) (cs : List AgmMixerControl) : Prop where
  ctlIdx : w.ctlIdx = cs.length
  writes : w.writes = cs.zipIdx.map Prod.swap

section

variable {w : ControlFill} {cs : List AgmMixerControl}

theorem ControlFill.Holds.put (h : w.Holds cs) (c : AgmMixerControl) : (w.put c).Holds (cs ++ [c]) := by
  refine ⟨?_, ?_⟩
  · rw [ControlFill.put, h.ctlIdx, List.length_append, List.length_singleton]
  · rw [ControlFill.put, h.ctlIdx, h.writes, List.zipIdx_append, List.map_append]
    simp

theorem ControlFill.Holds.putAll (h : w.Holds cs) (cs' : List AgmMixerControl) : (w.putAll cs').Holds (cs ++ cs') := by
  induction cs' generalizing w cs with
  | nil =>
    rw [List.append_nil]
    exact h
  | cons c cs' ih =>
    rw [List.append_cons]
    exact ih (h.put c)

/-- A loop whose turns each put some controls behind the last. -/
theorem ControlFill.Holds.foldl {α : Type} {f : ControlFill → α → ControlFill} {g : α → List AgmMixerControl}
    (hf : ∀ w cs a, w.Holds cs → (f w a).Holds (cs ++ g a)) (l : List α) (h : w.Holds cs) :
    (l.foldl f w).Holds (cs ++ l.flatMap g) := by
  induction l generalizing w cs with
  | nil => simpa using h
  | cons a l ih => simpa using ih (hf w cs a h)

end

section

variable {card : SndDevDefCard} {aifList : List AifInfo}

/-- The running index goes over the list of the controls that are formed. -/
theorem holds_fillControls (card : SndDevDefCard) (aifList : List AifInfo) :
    (fillControls card aifList).Holds (ampFormMixerControls card aifList).controls := by
  have hstart : ControlFill.Holds {} [] := ⟨rfl, rfl⟩
  have hpcm (w : ControlFill) (cs : List AgmMixerControl) (dev : SndDevDef) (h : w.Holds cs) :
      (fillPcm w dev).Holds (cs ++ (agmctlFormPcmControls agmFeCtls dev ++
        if hasDir "capture".toList dev then agmctlFormPcmControls agmTxCtls dev else [])) := by
    unfold fillPcm
    dsimp only
    split
    · rw [← List.append_assoc]
      exact (h.putAll _).putAll _
    · rw [List.append_nil]
      exact h.putAll _
  exact (hstart.foldl hpcm (nodeList card)).foldl (fun w cs a h => h.putAll (agmctlFormBeControls a.1 a.2)) aifList.zipIdx

/-! ### Their names and their number -/

variable (hnamed : ∀ dev ∈ nodeList card, dev.name.isSome)

include hnamed

theorem length_controls : (ampFormMixerControls card aifList).controls.length = agmTotalCtlCnt card aifList := by
  have hpcm (nodes : List SndDevDef) (hnodes : ∀ dev ∈ nodes, dev.name.isSome) :
      (nodes.flatMap fun dev => agmctlFormPcmControls agmFeCtls dev ++
        if hasDir "capture".toList dev then agmctlFormPcmControls agmTxCtls dev else []).length =
        nodes.length * agmFeCtls.length + (nodes.filter (hasDir "capture".toList)).length * agmTxCtls.length := by
    induction nodes with
    | nil => rfl
    | cons dev nodes ih =>
      obtain ⟨name, hname⟩ := Option.isSome_iff_exists.1 (hnodes dev List.mem_cons_self)
      have hform (ids : List CtlId) : (agmctlFormPcmControls ids dev).length = ids.length := by
        rw [agmctlFormPcmControls, hname, List.length_map]
      rw [List.flatMap_cons, List.length_append, ih fun d hd => hnodes d (List.mem_cons_of_mem _ hd),
        List.length_append, hform, List.length_cons, List.filter_cons]
      by_cases hcap : hasDir "capture".toList dev
      · rw [if_pos hcap, if_pos hcap, hform, List.length_cons]
        ring
      · rw [if_neg hcap, if_neg hcap, List.length_nil]
        ring
  have hbe : (aifList.zipIdx.flatMap fun a => agmctlFormBeControls a.1 a.2).length =
      aifList.length * agmBeCtls.length := by
    simp [List.length_flatMap, agmctlFormBeControls]
  refine List.length_append.trans ?_
  rw [hpcm _ hnamed, hbe]
  rfl

theorem map_mixerName_controls (hlen : ∀ name ∈ controlNames card aifList, name.length < MIXER_NAME_LEN) :
    (ampFormMixerControls card aifList).controls.map AgmMixerControl.mixerName = controlNames card aifList := by
  have hcut : (controlNames card aifList).map (bounded MIXER_NAME_LEN) = controlNames card aifList := by
    refine (List.map_congr_left fun name hname => ?_).trans (List.map_id _)
    exact (bounded_eq_self_iff (by decide)).2 (hlen name hname)
  have hpcm (dev : SndDevDef) (hdev : dev ∈ nodeList card) :
      ((agmctlFormPcmControls agmFeCtls dev ++
        if hasDir "capture".toList dev then agmctlFormPcmControls agmTxCtls dev else []).map AgmMixerControl.mixerName) =
        ((pcmCtlIds dev).map fun id => dev.name.getD [] ++ ' ' :: id.extn).map (bounded MIXER_NAME_LEN) := by
    obtain ⟨name, hname⟩ := Option.isSome_iff_exists.1 (hnamed dev hdev)
    have hform (ids : List CtlId) : (agmctlFormPcmControls ids dev).map AgmMixerControl.mixerName =
        (ids.map fun id => dev.name.getD [] ++ ' ' :: id.extn).map (bounded MIXER_NAME_LEN) := by
      rw [agmctlFormPcmControls, hname, List.map_map, List.map_map]
      rfl
    unfold pcmCtlIds
    rw [List.map_append, List.map_append, List.map_append, hform]
    split
    · rw [hform]
    · rfl
  have hbe : (aifList.zipIdx.flatMap fun a => agmctlFormBeControls a.1 a.2).map AgmMixerControl.mixerName =
      (aifList.flatMap fun a => agmBeCtls.map fun id => a.aifName ++ ' ' :: id.extn).map (bounded MIXER_NAME_LEN) := by
    rw [List.map_flatMap, List.map_flatMap]
    conv_rhs => rw [← List.zipIdx_map_fst 0 aifList, List.flatMap_map]
    refine List.flatMap_congr fun a _ => ?_
    rw [agmctlFormBeControls, List.map_map, List.map_map]
    rfl
  rw [← hcut]
  refine List.map_append.trans ?_
  rw [hbe, List.map_flatMap, List.flatMap_congr hpcm, ← List.map_flatMap, ← List.map_append]
  rfl

end

/-! ## What a run keeps -/

/-- Only what is selected for the PCMs and what is kept for `getParam` is other than it was formed. -/
structure AgmctlPriv.FormedFrom (card : SndDevDefCard) (aifList : List AifInfo) (p : AgmctlPriv) : Prop where
  length : p.pcmMtdCtl.length = (nodeList card).length
  eq : p = { ampFormMixerControls card aifList with pcmMtdCtl := p.pcmMtdCtl, getParamPayload := p.getParamPayload }

section

variable {card : SndDevDefCard} {aifList : List AifInfo} {p : AgmctlPriv} (h : p.FormedFrom card aifList)

include h

theorem AgmctlPriv.FormedFrom.aifList_eq : p.aifList = aifList := congrArg AgmctlPriv.aifList h.eq

theorem AgmctlPriv.FormedFrom.rxCount_eq : p.rxCount = (rxNodes card).length := congrArg AgmctlPriv.rxCount h.eq

theorem AgmctlPriv.FormedFrom.pcmIdx_eq : p.pcmIdx = (nodeList card).map SndDevDef.device :=
  congrArg AgmctlPriv.pcmIdx h.eq

theorem AgmctlPriv.FormedFrom.controls_eq : p.controls = (ampFormMixerControls card aifList).controls := by
  have heq := congrArg AgmctlPriv.controls h.eq
  exact heq

theorem AgmctlPriv.FormedFrom.set {mtd : List Nat} (hmtd : mtd.length = (nodeList card).length)
    (payload : Option (List UInt8)) : ({ p with pcmMtdCtl := mtd, getParamPayload := payload } : AgmctlPriv).FormedFrom
      card aifList := by
  refine ⟨hmtd, ?_⟩
  conv_lhs => rw [h.eq]

theorem AgmctlPriv.FormedFrom.controlPut (c : AgmMixerControl) (item : Nat) :
    (agmctlPcmControlPut p c item).2.FormedFrom card aifList := by
  unfold agmctlPcmControlPut
  split
  · exact h
  · split
    · exact h
    · exact h.set (List.length_set.trans h.length) p.getParamPayload

theorem AgmctlPriv.FormedFrom.write (c : AgmMixerControl) (item : Nat) :
    (agmctlWriteEnumerated p c item).2.FormedFrom card aifList := by
  unfold agmctlWriteEnumerated
  split
  case h_5 => exact h.controlPut c item
  all_goals exact h

theorem AgmctlPriv.FormedFrom.tlv (asked : Int × Nat) (granted : Bool) (key : Nat) (opFlag : Int) (data : Mem)
    (size : Nat) : (agmExtTlvCallback p asked granted key opFlag data size).2.FormedFrom card aifList := by
  have hread (c : AgmMixerControl) : (agmctlReadBytes p asked c data).2.FormedFrom card aifList := by
    unfold agmctlReadBytes agmctlPcmGetParamRead
    split
    case h_4 =>
      split
      · exact h
      · split
        · exact h
        · exact h.set h.length none
    all_goals exact h
  have hwrite (c : AgmMixerControl) : (agmctlWriteBytes p granted c data).2.FormedFrom card aifList := by
    unfold agmctlWriteBytes agmctlPcmGetParamWrite
    split
    case h_6 =>
      split
      · exact h.set h.length _
      · exact h.set h.length none
    all_goals exact h
  unfold agmExtTlvCallback
  split
  · exact h
  · next c _ =>
    split
    · exact hread c
    · split
      · exact hwrite c
      · exact h

end

/-- **A run.** -/
theorem formedFrom_elemRun (card : SndDevDefCard) (aifList : List AifInfo) (ops : List ElemOp) :
    (elemRun card aifList ops).FormedFrom card aifList := by
  have hstep (p : AgmctlPriv) (op : ElemOp) (h : p.FormedFrom card aifList) : (elemExec p op).FormedFrom card aifList := by
    cases op with
    | writeEnumerated key item =>
      unfold elemExec
      dsimp only
      split
      · exact h
      · exact h.write _ item
    | tlv asked granted key opFlag data size => exact h.tlv asked granted key opFlag data size
  have hrun (p : AgmctlPriv) (h : p.FormedFrom card aifList) : (ops.foldl elemExec p).FormedFrom card aifList := by
    induction ops generalizing p with
    | nil => exact h
    | cons op ops ih => exact ih _ (hstep p op h)
  exact hrun _ ⟨List.length_map _, rfl⟩

/-! ## The elements -/

section

variable {card : SndDevDefCard} {aifList : List AifInfo} {p : AgmctlPriv}

/-- The name comes back only where the id has room for it. -/
theorem foundByName_iff (hnodup : (p.controls.map AgmMixerControl.mixerName).Nodup) {offset : Nat} {c : AgmMixerControl}
    (hc : p.controls[offset]? = some c) :
    FoundByName p.controls.length p offset ↔ c.mixerName.length < SNDRV_CTL_ELEM_ID_NAME_MAXLEN := by
  have hlt : offset < p.controls.length := (List.getElem?_eq_some_iff.1 hc).1
  unfold FoundByName agmctlElemList
  rw [if_pos hlt, hc]
  dsimp only
  unfold agmctlFindElem
  rw [if_neg (by simp), List.take_length]
  constructor
  · intro hfind
    obtain ⟨hlt, hname, -⟩ := List.findIdx?_eq_some_iff_getElem.1 hfind
    have hget : p.controls[offset] = c := (List.getElem?_eq_some_iff.1 hc).2
    rw [hget] at hname
    exact (bounded_eq_self_iff (by decide)).1 (of_decide_eq_true hname)
  · intro hroom
    have hname : bounded SNDRV_CTL_ELEM_ID_NAME_MAXLEN c.mixerName = c.mixerName := (bounded_eq_self_iff (by decide)).2 hroom
    rw [hname]
    exact findIdx?_of_nodup hnodup hc

/-- The comparison with the number of controls leaves out the last. -/
theorem foundByNumid_iff (hnamed : ∀ c ∈ p.controls, c.mixerName ≠ []) {offset : Nat} :
    FoundByNumid p.controls.length p offset ↔ offset + 1 < p.controls.length := by
  unfold FoundByNumid agmctlFindElem
  dsimp only
  by_cases hlast : offset + 1 < p.controls.length
  · rw [if_pos ⟨Nat.succ_pos _, hlast⟩]
    simpa using hlast
  · have hnone : (p.controls.findIdx? fun c => decide ([] = c.mixerName)) = none := by
      rw [List.findIdx?_eq_none_iff]
      intro c hc
      simpa using (hnamed c hc).symm
    rw [if_neg fun h => hlast h.2, List.take_length, hnone]
    simpa using hlast

end

/-! ## The items -/

section

variable {card : SndDevDefCard} {aifList : List AifInfo} {p : AgmctlPriv} (h : p.FormedFrom card aifList)
  (hnamed : ∀ dev ∈ nodeList card, dev.name.isSome)

include h hnamed

/-- The entries of a named PCM in the arrays of the RX PCMs. -/
theorem rxNode_formed {i : Nat} {dev : SndDevDef} (hdev : (rxNodes card)[i]? = some dev) {name : CString}
    (hname : dev.name = some name) : p.rxPcmId.getD i 0 = dev.device ∧ p.rxNames.getD i [] = bounded PCM_NAME_LEN name := by
  obtain ⟨hids, hnames⟩ := rxArrays_named hnamed aifList
  have hids' : p.rxPcmId = (rxNodes card).map SndDevDef.device := by
    have heq := congrArg AgmctlPriv.rxPcmId h.eq
    exact heq.trans hids
  have hnames' : p.rxNames = (rxNodes card).map fun dev => bounded PCM_NAME_LEN (shown dev.name) := by
    have heq := congrArg AgmctlPriv.rxNames h.eq
    exact heq.trans hnames
  rw [hids', hnames', List.getD_eq_getElem?_getD, List.getD_eq_getElem?_getD]
  simp [hdev, hname, shown]

omit hnamed in
/-- A control that selects a back end is one of a PCM that is in the list. -/
theorem exists_findIdx?_of_control {c : AgmMixerControl} (hc : c ∈ p.controls) (hid : c.ctlId = .control) :
    ∃ i, (p.pcmIdx.findIdx? fun id => id = c.pcmBeId) = some i ∧ i < p.pcmMtdCtl.length := by
  have hpcm {ids : List CtlId} {dev : SndDevDef} (hdev : dev ∈ nodeList card) (hform : c ∈ agmctlFormPcmControls ids dev) :
      c.pcmBeId ∈ (nodeList card).map SndDevDef.device := by
    unfold agmctlFormPcmControls at hform
    split at hform
    · exact absurd hform List.not_mem_nil
    · obtain ⟨id, -, rfl⟩ := List.mem_map.1 hform
      exact List.mem_map_of_mem hdev
  have hmem : c.pcmBeId ∈ p.pcmIdx := by
    rw [h.pcmIdx_eq]
    rw [h.controls_eq] at hc
    rcases List.mem_append.1 hc with hc | hc
    · obtain ⟨dev, hdev, hc⟩ := List.mem_flatMap.1 hc
      rcases List.mem_append.1 hc with hc | hc
      · exact hpcm hdev hc
      · split at hc
        · exact hpcm hdev hc
        · exact absurd hc List.not_mem_nil
    · -- no control of a back end selects one
      obtain ⟨a, -, hc⟩ := List.mem_flatMap.1 hc
      obtain ⟨id, hbe, rfl⟩ := List.mem_map.1 hc
      obtain rfl : id = .control := hid
      exact absurd hbe (by decide)
  have hsome : (p.pcmIdx.findIdx? fun id => id = c.pcmBeId).isSome := by
    rw [List.findIdx?_isSome, List.any_eq_true]
    exact ⟨_, hmem, by simp⟩
  obtain ⟨i, hi⟩ := Option.isSome_iff_exists.1 hsome
  refine ⟨i, hi, ?_⟩
  obtain ⟨hlt, -, -⟩ := List.findIdx?_eq_some_iff_getElem.1 hi
  rw [h.length]
  rw [h.pcmIdx_eq, List.length_map] at hlt
  exact hlt

variable (haif : ∀ a ∈ aifList, a.aifName.length < AIF_NAME_MAX_LEN) {n : Nat} (hn : AIF_NAME_MAX_LEN ≤ n)

omit h hnamed in
theorem bounded_of_short (hn : AIF_NAME_MAX_LEN ≤ n) {text : CString} (h : text.length < AIF_NAME_MAX_LEN) :
    bounded n text = text := by
  have hpos : 0 < n := (Nat.zero_lt_of_lt h).trans_le hn
  exact (bounded_eq_self_iff hpos).2 (h.trans_le hn)

omit hnamed in
include haif hn in
/-- A back end at the place of the item is written in full. -/
theorem itemNamed_aif {c : AgmMixerControl} {item place : Nat} (hplace : place < aifList.length)
    (hacts : actsOn card p c item = p.aifList[place]?.map AifInfo.aifName)
    (hget : agmctlGetEnumeratedName p c item = p.aifList[place]?.map AifInfo.aifName) : ItemNamed p card n c item := by
  have hget' : p.aifList[place]? = some aifList[place] := by
    rw [h.aifList_eq]
    exact List.getElem?_eq_getElem hplace
  refine ⟨aifList[place].aifName, ?_, ?_⟩
  · rw [hacts, hget']
    rfl
  · rw [hget, hget', Option.map_some, Option.map_some, bounded_of_short hn (haif _ (List.getElem_mem hplace))]

omit hnamed in
include haif hn in
/-- And so is `ZERO`. -/
theorem itemNamed_zeroOrAif {c : AgmMixerControl} {item : Nat} (hitem : item < aifList.length + 1)
    (hacts : actsOn card p c item = zeroOrAif p item) (hget : agmctlGetEnumeratedName p c item = zeroOrAif p item) :
    ItemNamed p card n c item := by
  by_cases h0 : item = 0
  · have hzero : zeroOrAif p item = some "ZERO".toList := if_pos h0
    refine ⟨_, hacts.trans hzero, ?_⟩
    rw [hget, hzero, Option.map_some, bounded_of_short hn (by decide)]
  · have hother : zeroOrAif p item = p.aifList[item - 1]?.map AifInfo.aifName := if_neg h0
    have hplace : item - 1 < aifList.length := by omega
    exact itemNamed_aif h haif hn hplace (hacts.trans hother) (hget.trans hother)

omit hnamed in
/-- What a write to `control` acts on is what the calls that follow are for. -/
theorem actsOn_control {c : AgmMixerControl} (hc : c ∈ p.controls) (hid : c.ctlId = .control) {item : Nat}
    (hitem : item < aifList.length + 1) : actsOn card p c item = zeroOrAif p item := by
  obtain ⟨i, hfind, hlt⟩ := exists_findIdx?_of_control h hc hid
  have hput : agmctlWriteEnumerated p c item = (.ret 0, { p with pcmMtdCtl := p.pcmMtdCtl.set i item }) := by
    have hno : ¬ item > p.aifList.length := by
      rw [h.aifList_eq]
      omega
    unfold agmctlWriteEnumerated
    rw [hid]
    dsimp only
    unfold agmctlPcmControlPut
    rw [if_neg hno, hfind]
  have hvalue : agmctlPcmGetControlValue { p with pcmMtdCtl := p.pcmMtdCtl.set i item } c.pcmBeId = (item : Nat) := by
    unfold agmctlPcmGetControlValue
    dsimp only
    rw [hfind]
    dsimp only
    rw [List.getD_eq_getElem?_getD, List.getElem?_set_self hlt, Option.getD_some]
  have hbe : agmctlBeIdx { p with pcmMtdCtl := p.pcmMtdCtl.set i item } c =
      if item = 0 then none else some (item - 1) := by
    unfold agmctlBeIdx
    dsimp only
    rw [hvalue]
    by_cases h0 : item = 0
    · simp [h0]
    · rw [if_neg h0, if_pos (by omega)]
      congr 1
      omega
  unfold actsOn
  rw [hput]
  dsimp only
  rw [hbe, zeroOrAif]
  by_cases h0 : item = 0
  · simp [h0]
  · simp [h0]

include hn in
theorem itemNamed_loopback {c : AgmMixerControl} (hid : c.ctlId = .loopback) {item : Nat} (hitem : item < p.rxCount + 1) :
    ItemNamed p card n c item ↔ item < (rxNodes card).length ∧
      (0 < item → ∀ dev ∈ (rxNodes card)[item - 1]?, ∀ name ∈ dev.name, name.length < PCM_NAME_LEN) := by
  have hget : agmctlGetEnumeratedName p c item = if item ≥ (rxNodes card).length then none
      else if item = 0 then some "ZERO".toList else some (p.rxNames.getD (item - 1) []) := by
    unfold agmctlGetEnumeratedName
    rw [hid]
    dsimp only
    rw [h.rxCount_eq]
  have hacts : actsOn card p c item = if item = 0 then some "ZERO".toList
      else ((rxNodes card)[item - 1]?.filter (·.device = p.rxPcmId.getD (item - 1) 0)).bind SndDevDef.name := by
    unfold actsOn agmctlWriteEnumerated
    rw [hid]
    by_cases h0 : item = 0
    · simp [h0, agmctlPcmLoopbackPut]
    · simp [h0, agmctlPcmLoopbackPut]
  unfold ItemNamed
  rw [hget, hacts]
  by_cases hlt : item < (rxNodes card).length
  · rw [if_neg (not_le.2 hlt)]
    by_cases h0 : item = 0
    · subst h0
      rw [if_pos rfl, if_pos rfl, Option.map_some, bounded_of_short hn (by decide)]
      simp [hlt]
    · have hplace : item - 1 < (rxNodes card).length := by omega
      have hdev := List.getElem?_eq_getElem hplace
      have hmem := List.mem_of_mem_filter (List.getElem_mem hplace)
      obtain ⟨name, hname⟩ := Option.isSome_iff_exists.1 (hnamed _ hmem)
      obtain ⟨hid, hcut⟩ := rxNode_formed h hnamed hdev hname
      rw [if_neg h0, if_neg h0, hid, hcut, hdev, Option.filter_some_pos (by simp), Option.bind_some, hname, Option.map_some,
        bounded_of_short hn ((length_bounded_le _ _).trans_lt (by decide))]
      have hfits : bounded PCM_NAME_LEN name = name ↔ name.length < PCM_NAME_LEN := bounded_eq_self_iff (by decide)
      simp only [Option.some.injEq, exists_eq_left', hfits, hlt, true_and, Option.mem_def, forall_eq', hname]
      exact ⟨fun hfits _ => hfits, fun hfits => hfits (Nat.pos_of_ne_zero h0)⟩
  · rw [if_pos (not_lt.1 hlt)]
    simp [hlt]

include haif hn in
/-- **The items.**  All but those of `loopback` are named for what they act on.  Those are as long as there is another
behind them, and the name of the PCM fits the array. -/
theorem itemNamed_iff {c : AgmMixerControl} (hc : c ∈ p.controls) {count : Nat}
    (hcount : agmctlGetEnumeratedInfo p c = some count) {item : Nat} (hitem : item < count) :
    ItemNamed p card n c item ↔ (c.ctlId = .loopback → item < (rxNodes card).length ∧
      (0 < item → ∀ dev ∈ (rxNodes card)[item - 1]?, ∀ name ∈ dev.name, name.length < PCM_NAME_LEN)) := by
  unfold agmctlGetEnumeratedInfo at hcount
  have hlen : p.aifList.length = aifList.length := by rw [h.aifList_eq]
  cases hid : c.ctlId <;> rw [hid] at hcount <;> try cases hcount
  case connect | disconnect =>
    refine iff_of_true (itemNamed_aif h haif hn (hlen ▸ hitem) ?_ ?_) (fun h0 => nomatch h0)
    · unfold actsOn agmctlWriteEnumerated
      rw [hid]
      rfl
    · unfold agmctlGetEnumeratedName
      rw [hid]
  case control =>
    rw [hlen] at hitem
    refine iff_of_true (itemNamed_zeroOrAif h haif hn hitem (actsOn_control h hc hid hitem) ?_) (fun h0 => nomatch h0)
    unfold agmctlGetEnumeratedName
    rw [hid]
  case echoref =>
    rw [hlen] at hitem
    refine iff_of_true (itemNamed_zeroOrAif h haif hn hitem ?_ ?_) (fun h0 => nomatch h0)
    · unfold actsOn agmctlWriteEnumerated zeroOrAif
      rw [hid]
      by_cases h0 : item = 0
      · simp [h0, agmctlPcmEcrefPut]
      · simp [h0, agmctlPcmEcrefPut]
    · unfold agmctlGetEnumeratedName
      rw [hid]
  case loopback =>
    refine (itemNamed_loopback h hnamed hn hid hitem).trans ?_
    exact ⟨fun hitem _ => hitem, fun hitem => hitem rfl⟩

end

/-! ## All of it -/

section

variable {card : SndDevDefCard} {aifList : List AifInfo} (hnamed : ∀ dev ∈ nodeList card, dev.name.isSome)

include hnamed

theorem ampFormMixerTable_total (hnodes : nodeList card ≠ []) (ops : List ElemOp) :
    (ampFormMixerTable card aifList).2.1 = (elemRun card aifList ops).controls.length := by
  rw [(formedFrom_elemRun card aifList ops).controls_eq, length_controls hnamed]
  unfold ampFormMixerTable
  rw [if_neg hnodes]

omit hnamed in
/-- What is written to the table is what is looked up in it. -/
theorem ampFormMixerTable_writes (hnodes : nodeList card ≠ []) (ops : List ElemOp) :
    (ampFormMixerTable card aifList).2.2 = (elemRun card aifList ops).controls.zipIdx.map Prod.swap := by
  rw [(formedFrom_elemRun card aifList ops).controls_eq, ← (holds_fillControls card aifList).writes]
  unfold ampFormMixerTable
  rw [if_neg hnodes]

/-- The controls are as many as were counted, and each is written once. -/
theorem ampFormMixerTable_filled : (ampFormMixerTable card aifList).2.2.map Prod.fst =
    List.range (ampFormMixerTable card aifList).2.1 := by
  by_cases hnodes : nodeList card = []
  · unfold ampFormMixerTable
    rw [if_pos hnodes]
    rfl
  · rw [ampFormMixerTable_writes hnodes [], ampFormMixerTable_total hnamed hnodes [], List.map_map]
    show List.map Prod.snd _ = _
    rw [List.zipIdx_map_snd, List.range_eq_range']

variable (hlen : ∀ name ∈ controlNames card aifList, name.length ≤ 127)

include hlen

theorem mixerNames_elemRun (ops : List ElemOp) :
    (elemRun card aifList ops).controls.map AgmMixerControl.mixerName = controlNames card aifList := by
  rw [(formedFrom_elemRun card aifList ops).controls_eq]
  exact map_mixerName_controls hnamed fun name hname => Nat.lt_succ_of_le (hlen name hname)

/-- No control is without a name: there is a blank in each. -/
theorem mixerName_ne_nil {ops : List ElemOp} {c : AgmMixerControl} (hc : c ∈ (elemRun card aifList ops).controls) :
    c.mixerName ≠ [] := by
  have hmem : c.mixerName ∈ controlNames card aifList := by
    rw [← mixerNames_elemRun hnamed hlen ops]
    exact List.mem_map_of_mem hc
  intro hnil
  rw [hnil] at hmem
  simp [controlNames] at hmem

end

/-- **The elements of the plugin.**  The table is filled as counted.  In every state an element is found by its name as
long as the name fits an id, by its number unless it is the last, and its items are named for what they act on unless they
are items of `loopback`: the last of these never is, and the name of a PCM has to fit its array.  So it all fits together
only where there is no PCM, and no element. -/
theorem ctlElems_agree_iff (card : SndDevDefCard) (aifList : List AifInfo)
    (hnamed : ∀ dev ∈ nodeList card, dev.name.isSome)
    (hlen : ∀ name ∈ controlNames card aifList, name.length ≤ 127) (hnodup : (controlNames card aifList).Nodup)
    (haif : ∀ a ∈ aifList, a.aifName.length < AIF_NAME_MAX_LEN) {n : Nat} (hn : AIF_NAME_MAX_LEN ≤ n) :
    let total := (ampFormMixerTable card aifList).2.1
    (ampFormMixerTable card aifList).2.2.map Prod.fst = List.range total ∧
    (∀ ops offset c, offset < total → (elemRun card aifList ops).controls[offset]? = some c →
      (FoundByName total (elemRun card aifList ops) offset ↔ c.mixerName.length < SNDRV_CTL_ELEM_ID_NAME_MAXLEN) ∧
      (FoundByNumid total (elemRun card aifList ops) offset ↔ offset + 1 < total)) ∧
    (∀ ops key c count item, key < total → (elemRun card aifList ops).controls[key]? = some c →
      agmctlGetEnumeratedInfo (elemRun card aifList ops) c = some count → item < count →
      (ItemNamed (elemRun card aifList ops) card n c item ↔ (c.ctlId = .loopback → item < (rxNodes card).length ∧
        (0 < item → ∀ dev ∈ (rxNodes card)[item - 1]?, ∀ name ∈ dev.name, name.length < PCM_NAME_LEN)))) ∧
    (ElemsAgree card aifList n ↔ nodeList card = []) := by
  intro total
  have hempty (hnodes : nodeList card = []) : total = 0 := congrArg (fun t : Int × Nat × _ => t.2.1) (if_pos hnodes)
  have htotal (ops : List ElemOp) (hlt : 0 < total) : total = (elemRun card aifList ops).controls.length := by
    refine ampFormMixerTable_total hnamed (fun hnodes => ?_) ops
    rw [hempty hnodes] at hlt
    exact absurd hlt (lt_irrefl 0)
  have hnum (ops : List ElemOp) (offset : Nat) (hlt : offset < total) :
      FoundByNumid total (elemRun card aifList ops) offset ↔ offset + 1 < total := by
    rw [htotal ops (Nat.zero_lt_of_lt hlt)]
    exact foundByNumid_iff fun c hc => mixerName_ne_nil hnamed hlen hc
  refine ⟨ampFormMixerTable_filled hnamed, ?_, ?_, ?_⟩
  · intro ops offset c hlt hc
    refine ⟨?_, hnum ops offset hlt⟩
    rw [htotal ops (Nat.zero_lt_of_lt hlt)]
    refine foundByName_iff ?_ hc
    rw [mixerNames_elemRun hnamed hlen]
    exact hnodup
  · intro ops key c count item _ hc hcount hitem
    exact itemNamed_iff (formedFrom_elemRun card aifList ops) hnamed haif hn (List.mem_of_getElem? hc) hcount hitem
  · constructor
    · intro hagree
      by_contra hnodes
      -- the last element is not found by its number
      have hpos : 0 < total := by
        have hfe : agmFeCtls.length = 11 := rfl
        have hlen := List.length_pos_of_ne_nil hnodes
        have hcount : total = agmTotalCtlCnt card aifList := congrArg (fun t : Int × Nat × _ => t.2.1) (if_neg hnodes)
        rw [hcount, agmTotalCtlCnt, hfe]
        omega
      have hlast := (hnum [] (total - 1) (by omega)).1 (hagree.byNumid [] (total - 1) (by omega))
      omega
    · intro hnodes
      have hno {i : Nat} (hlt : i < total) : False := by
        rw [hempty hnodes] at hlt
        exact Nat.not_lt_zero _ hlt
      exact ⟨ampFormMixerTable_filled hnamed, fun _ _ h => (hno h).elim, fun _ _ h => (hno h).elim,
        fun _ _ h => (hno h).elim⟩

/-- With a playback and a capture, after a back end has been selected for the playback: an element is found by its name, and
the last but one by its number. -/
theorem ctlElems_agree_two :
    let p := elemRun twoPcmCard twoAifs [.writeEnumerated 5 1]
    FoundByName 31 p 30 ∧ FoundByNumid 31 p 29 := by
  have hall := ctlElems_agree_iff twoPcmCard twoAifs (by decide +kernel) (by decide +kernel) (by decide +kernel)
    (by decide +kernel) (n := 64) (by decide)
  have htotal : (ampFormMixerTable twoPcmCard twoAifs).2.1 = 31 := by decide +kernel
  rw [htotal] at hall
  obtain ⟨-, hfound, -, -⟩ := hall
  have hlast := hfound [.writeEnumerated 5 1] 30 ⟨"MIC setParam".toList, 1, .beSetParam⟩ (by decide) (by decide +kernel)
  have hbefore := hfound [.writeEnumerated 5 1] 29 ⟨"MIC metadata".toList, 1, .beMetadata⟩ (by decide) (by decide +kernel)
  exact ⟨hlast.1.2 (by decide), hbefore.2.2 (by decide)⟩

/-- The last element is not found by its number, and item 1 of `loopback`, which acts on PCM 5, is counted and not
named. -/
theorem ctlElems_last :
    let p := ampFormMixerControls twoPcmCard twoAifs
    let c : AgmMixerControl := ⟨"PCM7 loopback".toList, 7, .loopback⟩
    (ampFormMixerTable twoPcmCard twoAifs).2.1 = 31 ∧ agmctlFindElem 31 p { numid := 31 } = none ∧
      p.controls[22]? = some c ∧ agmctlGetEnumeratedInfo p c = some 2 ∧ actsOn twoPcmCard p c 1 = some "PCM5".toList ∧
      agmctlGetEnumeratedName p c 1 = none ∧ ¬ ElemsAgree twoPcmCard twoAifs 64 := by
  refine ⟨by decide +kernel, by decide +kernel, by decide +kernel, by decide +kernel, by decide +kernel, by decide +kernel,
    fun hagree => ?_⟩
  have hlast : ¬ FoundByNumid (ampFormMixerTable twoPcmCard twoAifs).2.1 (elemRun twoPcmCard twoAifs []) 30 := by
    decide +kernel
  exact hlast (hagree.byNumid [] 30 (by decide +kernel))

end Agm.Mixer
