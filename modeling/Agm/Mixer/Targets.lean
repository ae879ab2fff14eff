import Mathlib.Data.List.Induction
import Agm.Lib.History
import Agm.Mixer.GetParam

/-!
# The targets of the controls of a PCM

A client of the mixer plugin selects a back end with the control `control` of a PCM, and what is written to most of its other
controls is then for this PCM and this back end.  The plugin keeps the selected item by the place of the PCM in its list, and
the controls that need it look for that place by the id of the PCM.
-/

namespace Agm.Mixer

open Agm.Lib Agm.Service Agm.Parser CString

/-! ## The controls -/

/-- The controls of a PCM: those of all, those of a capture and those of a playback. -/
inductive PcmCtlName
  | connect | disconnect | mtdControl | metadata | setParam | setParamTag | setParamTagAcdb | getTagInfo | event
  | setCalibration | getParam | bufInfo
  | loopback | echoref | bufTstamp
  | sidetone | datapathParams | flush
  deriving DecidableEq, Repr

/-- `amp_pcm_ctl_name_extn`, `amp_pcm_tx_ctl_names` and `amp_pcm_rx_ctl_names`. -/
def PcmCtlName.extn (k : PcmCtlName) : CString :=
  String.toList (match k with
    | .connect => "connect"
    | .disconnect => "disconnect"
    | .mtdControl => "control"
    | .metadata => "metadata"
    | .setParam => "setParam"
    | .setParamTag => "setParamTag"
    | .setParamTagAcdb => "setParamTagACDB"
    | .getTagInfo => "getTaggedInfo"
    | .event => "event"
    | .setCalibration => "setCalibration"
    | .getParam => "getParam"
    | .bufInfo => "getBufInfo"
    | .loopback => "loopback"
    | .echoref => "echoReference"
    | .bufTstamp => "bufTimestamp"
    | .sidetone => "sidetone"
    | .datapathParams => "datapathParams"
    | .flush => "flush")

/-- A control: its name, its private value and the list of PCMs in its private data. -/
structure PcmCtl where
  name : CString
  privateValue : Nat
  dir : Nat
  deriving DecidableEq, Repr

variable {info : PcmInfo}

/-- The item of a PCM in its list. -/
def AmpPcm.item (p : AmpPcm info) : PcmItem := (info.devs p.dir).get ⟨p.idx, p.lt⟩

/-- A control as `amp_form_common_pcm_ctls`, `amp_form_tx_pcm_ctls` or `amp_form_rx_pcm_ctls` makes it. -/
def AmpPcm.ctl (p : AmpPcm info) (k : PcmCtlName) : PcmCtl where
  name := ctlName (shown p.item.text) k.extn
  privateValue := if k = .mtdControl ∨ k = .getParam then p.idx else p.item.idx
  dir := p.dir

/-! ## Writes -/

/-- What clients write, and the read of `getTaggedInfo`. -/
inductive PcmWrite
  | connect (item : Nat)
  | disconnect (item : Nat)
  | mtdControl (item : Nat)
  | metadata (payload : List UInt8)
  | setParam (payload : List UInt8)
  | setParamTag (payload : List UInt8)
  | setParamTagAcdb (payload : List UInt8)
  | getTagInfo (size : Nat)
  | event (payload : List UInt8)
  | setCalibration (payload : List UInt8)
  | getParam (payload : List UInt8)
  | loopback (item : Nat)
  | echoref (item : Nat)
  | sidetone (item : Nat)
  | datapathParams (payload : List UInt8)
  | flush (value : Int)
  deriving DecidableEq, Repr

/-- A call of AGM, with the session and the AIF it is for. -/
inductive TargetCall
  | aifConnect (session : Nat) (aif : Int) (state : Bool)
  | setMetadata (session : Nat) (payload : List UInt8)
  | aifSetMetadata (session : Nat) (aif : Int) (payload : List UInt8)
  | setParams (session : Nat) (payload : List UInt8)
  | aifSetParams (session : Nat) (aif : Int) (payload : List UInt8)
  | setParamsWithTag (session : Nat) (aif : Int) (payload : List UInt8)
  | setParamsWithTagToAcdb (session : Nat) (aif : Int) (payload : List UInt8)
  | setCal (session : Nat) (aif : Int) (payload : List UInt8)
  | getTagModuleInfo (session : Nat) (aif : Int) (size : Nat)
  | registerForEvents (session : Nat) (payload : List UInt8)
  | setLoopback (capture playback : Nat) (state : Bool)
  | setEcRef (session : Nat) (aif : Int) (state : Bool)
  | writeDatapathParams (session : Nat) (payload : List UInt8)
  | flush (session : Nat)
  deriving DecidableEq, Repr

/-- `pcm_mtd_ctl` of the two lists of PCMs. -/
structure PcmMtdCtl where
  rx : List Nat
  tx : List Nat
  deriving DecidableEq, Repr

def PcmMtdCtl.of (m : PcmMtdCtl) (dir : Nat) : List Nat := if dir = RX then m.rx else m.tx

def PcmMtdCtl.set (m : PcmMtdCtl) (dir idx val : Nat) : PcmMtdCtl :=
  if dir = RX then { m with rx := m.rx.set idx val } else { m with tx := m.tx.set idx val }

/-- As `calloc` leaves them. -/
def PcmMtdCtl.start (info : PcmInfo) : PcmMtdCtl :=
  ⟨List.replicate info.rxPcmDevs.length 0, List.replicate info.txPcmDevs.length 0⟩

/-- `amp_get_be_adi`; the direction is RX or TX. -/
def Backends.devs (be : Backends) (dir : Nat) : List Item := if dir = RX then be.rxBeDevs else be.txBeDevs

/-- `be_adi->idx_arr[item]`. -/
def Backends.idxArr (be : Backends) (dir item : Nat) : Nat := ((be.devs dir).map Item.idx).getD item 0

/-- `amp_pcm_get_control_value`. -/
def ampPcmGetControlValue (info : PcmInfo) (m : PcmMtdCtl) (pcmIdx dir : Nat) : Except Int Nat :=
  match ((info.devs dir).drop 1).findIdx? fun item => pcmIdx = item.idx with
  | none => .error (-EINVAL)
  | some k => .ok ((m.of dir).getD (k + 1) 0)

section

variable (info : PcmInfo) (be : Backends) (m : PcmMtdCtl) (c : PcmCtl)

/-- `amp_pcm_aif_connect_put`, of both controls. -/
def ampPcmAifConnectPut (val : Nat) (agm : Int) : Int × Option TargetCall :=
  if val = 0 then (0, none)
  else
    let state := (strstr "disconnect".toList c.name).isNone
    (getParamRet agm, some (.aifConnect c.privateValue (be.idxArr c.dir val) state))

/-- `amp_pcm_mtd_control_put`. -/
def ampPcmMtdControlPut (val : Nat) : PcmMtdCtl := m.set c.dir c.privateValue val

/-- `amp_pcm_metadata_put`. -/
def ampPcmMetadataPut (payload : List UInt8) (agm : Int) : Int × Option TargetCall :=
  match ampPcmGetControlValue info m c.privateValue c.dir with
  | .error r => (r, none)
  | .ok pcmControl =>
    if payload = [] then (-EINVAL, none)
    else if pcmControl = 0 then (getParamRet agm, some (.setMetadata c.privateValue payload))
    else (getParamRet agm, some (.aifSetMetadata c.privateValue (be.idxArr c.dir pcmControl) payload))

/-- `be_idx`, where it is -1 unless a back end is selected. -/
def beIdx (dir pcmControl : Nat) : Int := if 0 < pcmControl then be.idxArr dir pcmControl else -1

/-- `amp_pcm_calibration_put`. -/
def ampPcmCalibrationPut (payload : List UInt8) (agm : Int) : Int × Option TargetCall :=
  match ampPcmGetControlValue info m c.privateValue c.dir with
  | .error r => (r, none)
  | .ok pcmControl => (agm, some (.setCal c.privateValue (beIdx be c.dir pcmControl) payload))

/-- `amp_pcm_set_param_put`, of three controls. -/
def ampPcmSetParamPut (payload : List UInt8) (agm : Int) : Int × Option TargetCall :=
  let isParamTag := (strstr "setParamTag".toList c.name).isSome
  let isParamTagAcdb := (strstr "setParamTagACDB".toList c.name).isSome
  match ampPcmGetControlValue info m c.privateValue c.dir with
  | .error r => (r, none)
  | .ok pcmControl =>
    let aif := beIdx be c.dir pcmControl
    (getParamRet agm, some (
      if isParamTagAcdb then .setParamsWithTagToAcdb c.privateValue aif payload
      else if isParamTag then .setParamsWithTag c.privateValue aif payload
      else if pcmControl = 0 then .setParams c.privateValue payload
      else .aifSetParams c.privateValue aif payload))

/-- `amp_pcm_tag_info_get`. -/
def ampPcmTagInfoGet (tlvSize : Nat) (agm : Int) : Int × Option TargetCall :=
  match ampPcmGetControlValue info m c.privateValue c.dir with
  | .error r => (r, none)
  | .ok pcmControl => (agm, some (.getTagModuleInfo c.privateValue (beIdx be c.dir pcmControl) tlvSize))

/-- `amp_pcm_event_put`. -/
def ampPcmEventPut (payload : List UInt8) (agm : Int) : Int × Option TargetCall :=
  if payload = [] then (-EINVAL, none)
  else (getParamRet agm, some (.registerForEvents c.privateValue payload))

/-- `amp_pcm_loopback_put`, which does not report errors. -/
def ampPcmLoopbackPut (val : Nat) : Int × Option TargetCall :=
  let rxPcmIdx := if val = 0 then 0 else (info.rxPcmDevs.map PcmItem.idx).getD val 0
  (0, some (.setLoopback c.privateValue rxPcmIdx (val ≠ 0)))

/-- `amp_pcm_echoref_put`. -/
def ampPcmEchorefPut (val : Nat) (agm : Int) : Int × Option TargetCall :=
  (getParamRet agm, some (.setEcRef c.privateValue (be.idxArr RX val) (val ≠ 0)))

/-- `amp_pcm_write_datapath_params_put`. -/
def ampPcmWriteDatapathParamsPut (payload : List UInt8) (agm : Int) : Int × Option TargetCall :=
  (agm, some (.writeDatapathParams c.privateValue payload))

/-- `amp_pcm_flush_put`. -/
def ampPcmFlushPut (value : Int) (agm : Int) : Int × Option TargetCall :=
  if value ≠ 0 then (agm, some (.flush c.privateValue)) else (0, none)

end

/-- A write to a control of a PCM, with what AGM returns if it is called. -/
structure TargetOp (info : PcmInfo) where
  pcm : AmpPcm info
  write : PcmWrite
  agm : Int

/-- What the write to its control does, with `pcm_mtd_ctl` unless it is the one of `control`.  What `getParam` keeps is kept
apart. -/
def TargetOp.put (be : Backends) (m : PcmMtdCtl) (o : TargetOp info) : Int × Option TargetCall :=
  match o.write with
  | .connect item => ampPcmAifConnectPut be (o.pcm.ctl .connect) item o.agm
  | .disconnect item => ampPcmAifConnectPut be (o.pcm.ctl .disconnect) item o.agm
  | .mtdControl _ => (0, none)
  | .metadata payload => ampPcmMetadataPut info be m (o.pcm.ctl .metadata) payload o.agm
  | .setParam payload => ampPcmSetParamPut info be m (o.pcm.ctl .setParam) payload o.agm
  | .setParamTag payload => ampPcmSetParamPut info be m (o.pcm.ctl .setParamTag) payload o.agm
  | .setParamTagAcdb payload => ampPcmSetParamPut info be m (o.pcm.ctl .setParamTagAcdb) payload o.agm
  | .getTagInfo size => ampPcmTagInfoGet info be m (o.pcm.ctl .getTagInfo) size o.agm
  | .event payload => ampPcmEventPut (o.pcm.ctl .event) payload o.agm
  | .setCalibration payload => ampPcmCalibrationPut info be m (o.pcm.ctl .setCalibration) payload o.agm
  | .getParam _ => (0, none)
  | .loopback item => ampPcmLoopbackPut info (o.pcm.ctl .loopback) item
  | .echoref item => ampPcmEchorefPut be (o.pcm.ctl .echoref) item o.agm
  | .sidetone _ => (0, none)
  | .datapathParams payload => ampPcmWriteDatapathParamsPut (o.pcm.ctl .datapathParams) payload o.agm
  | .flush value => ampPcmFlushPut (o.pcm.ctl .flush) value o.agm

/-- What the write makes of `pcm_mtd_ctl`. -/
def TargetOp.mtd (m : PcmMtdCtl) (o : TargetOp info) : PcmMtdCtl :=
  match o.write with
  | .mtdControl item => ampPcmMtdControlPut m (o.pcm.ctl .mtdControl) item
  | _ => m

/-- A write, with the call it made, if it made one, and what it returned. -/
structure TargetEvent (info : PcmInfo) where
  pcm : AmpPcm info
  write : PcmWrite
  called : Option TargetCall
  ret : Int
  deriving DecidableEq

/-- What is selected, and what has happened. -/
structure AmpTargets (info : PcmInfo) where
  mtd : PcmMtdCtl
  log : List (TargetEvent info)

def ampTargetExec (be : Backends) (s : AmpTargets info) (o : TargetOp info) : AmpTargets info :=
  let r := o.put be s.mtd
  ⟨o.mtd s.mtd, s.log ++ [⟨o.pcm, o.write, r.2, r.1⟩]⟩

def ampTargetRun (be : Backends) (ops : List (TargetOp info)) : AmpTargets info :=
  ops.foldl (ampTargetExec be) ⟨.start info, []⟩

/-! ## What the targets are to be -/

/-- The places in the AIF list of the back ends of a direction. -/
def backEnds (aifList : List AifInfo) (dir : Nat) : List Nat :=
  (List.range aifList.length).filter fun i => aifList[i]?.any fun a => a.dir = dir

/-- The AIF that an item stands for, if it is not `ZERO`. -/
def aifOfItem (aifList : List AifInfo) (dir item : Nat) : Option Nat :=
  if item = 0 then none else (backEnds aifList dir)[item - 1]?

def TargetEvent.selectedAfter (p : AmpPcm info) (item : Nat) (e : TargetEvent info) : Nat :=
  match e.write with
  | .mtdControl k => if e.pcm = p then k else item
  | _ => item

/-- The item last written to the `control` of a PCM. -/
def selected (log : List (TargetEvent info)) (p : AmpPcm info) : Nat := log.foldl (TargetEvent.selectedAfter p) 0

/-- AIF id -1 stands for none. -/
def aifOrNone (aif : Option Nat) : Int := aif.elim (-1) Nat.cast

/-- The call is for the PCM, and for the back end that is selected for it. -/
def TargetEvent.Right (aifList : List AifInfo) (past : List (TargetEvent info)) (e : TargetEvent info) : Prop :=
  let session := e.pcm.session
  let aif := aifOfItem aifList e.pcm.dir (selected past e.pcm)
  match e.write with
  | .connect item => e.called = (aifOfItem aifList e.pcm.dir item).map fun a => .aifConnect session a true
  | .disconnect item => e.called = (aifOfItem aifList e.pcm.dir item).map fun a => .aifConnect session a false
  | .metadata payload => e.called = some (aif.elim (.setMetadata session payload) fun a => .aifSetMetadata session a payload)
  | .setParam payload => e.called = some (aif.elim (.setParams session payload) fun a => .aifSetParams session a payload)
  | .setParamTag payload => e.called = some (.setParamsWithTag session (aifOrNone aif) payload)
  | .setParamTagAcdb payload => e.called = some (.setParamsWithTagToAcdb session (aifOrNone aif) payload)
  | .setCalibration payload => e.called = some (.setCal session (aifOrNone aif) payload)
  | .getTagInfo size => e.called = some (.getTagModuleInfo session (aifOrNone aif) size)
  | _ => True

/-- Items are below the item count of their control, and payloads are not empty. -/
def TargetOp.Allowed (be : Backends) (o : TargetOp info) : Prop :=
  match o.write with
  | .connect item | .disconnect item | .mtdControl item => item < (be.devs o.pcm.dir).length
  | .loopback item => item < info.rxPcmDevs.length
  | .echoref item => item < be.rxBeDevs.length
  | .sidetone item => item < be.txBeDevs.length
  | .metadata payload | .setParam payload | .setParamTag payload | .setParamTagAcdb payload | .event payload
  | .setCalibration payload | .getParam payload | .datapathParams payload => payload ≠ []
  | _ => True

/-- The PCMs of a card whose ids are distinct within each direction, and whose names have no part that the plugin looks for in
the name of a control and are not too long for one. -/
structure PcmInfo.Plain (info : PcmInfo) : Prop where
  rx : ((info.rxPcmDevs.drop 1).map PcmItem.idx).Nodup
  tx : ((info.txPcmDevs.drop 1).map PcmItem.idx).Nodup
  names : ∀ item ∈ info.items, ¬ "disconnect".toList <:+: shown item.text ∧ ¬ "setParamTag".toList <:+: shown item.text
  short : ∀ item ∈ info.items, ∀ k : PcmCtlName, ctlName (shown item.text) k.extn = shown item.text ++ ' ' :: k.extn

/-- The lists of back ends that `amp_get_be_info` makes of an AIF list. -/
def backendsOfAifs (aifList : List AifInfo) : Backends :=
  ⟨ampCopyBeNamesFromAifList aifList RX, ampCopyBeNamesFromAifList aifList TX⟩

/-! ## Back ends -/

theorem map_snd_filter_zipIdx {α : Type} (l : List α) (f : α → Bool) :
    (l.zipIdx.filter fun p => f p.1).map Prod.snd = (List.range l.length).filter fun i => l[i]?.any f := by
  induction l using List.reverseRecOn with
  | nil => rfl
  | append_singleton l a ih =>
    have hold : (List.range l.length).filter (fun i => (l ++ [a])[i]?.any f) =
        (List.range l.length).filter fun i => l[i]?.any f := by
      apply List.filter_congr
      intro i hi
      rw [List.getElem?_append_left (List.mem_range.1 hi)]
    rw [List.zipIdx_append, List.filter_append, List.map_append, ih, List.length_append, List.length_singleton,
      List.range_succ, List.filter_append, hold]
    congr 1
    by_cases ha : f a <;> simp [ha]

theorem devs_backendsOfAifs (aifList : List AifInfo) {dir : Nat} (hdir : dir = RX ∨ dir = TX) :
    (backendsOfAifs aifList).devs dir = ampCopyBeNamesFromAifList aifList dir := by
  rcases hdir with rfl | rfl <;> rfl

/-- The index array of a list of back ends. -/
theorem map_idx_devs (aifList : List AifInfo) {dir : Nat} (hdir : dir = RX ∨ dir = TX) :
    ((backendsOfAifs aifList).devs dir).map Item.idx = 0 :: backEnds aifList dir := by
  rw [devs_backendsOfAifs aifList hdir, ampCopyBeNamesFromAifList, List.map_cons, List.map_map]
  exact congrArg (List.cons 0) (map_snd_filter_zipIdx aifList fun a => decide (a.dir = dir))

/-- An item of a control of back ends that is not `ZERO`. -/
theorem aifOfItem_eq (aifList : List AifInfo) {dir item : Nat} (hdir : dir = RX ∨ dir = TX) (hitem : item ≠ 0)
    (hlt : item < ((backendsOfAifs aifList).devs dir).length) :
    aifOfItem aifList dir item = some ((backendsOfAifs aifList).idxArr dir item) := by
  have hmap := map_idx_devs aifList hdir
  have hlen := congrArg List.length hmap
  rw [List.length_map, List.length_cons] at hlen
  obtain ⟨k, rfl⟩ := Nat.exists_eq_succ_of_ne_zero hitem
  have hk : k < (backEnds aifList dir).length := by omega
  rw [aifOfItem, if_neg hitem, Backends.idxArr, hmap, Nat.succ_sub_one, List.getD_cons_succ, List.getElem?_eq_getElem hk,
    List.getD_eq_getElem?_getD, List.getElem?_eq_getElem hk, Option.getD_some]

/-! ## Names -/

/-- A string without the separator is part of a name only if it is part of one of its two halves. -/
theorem infix_append_cons {α : Type} {needle a b : List α} {c : α} (hc : c ∉ needle) (h : needle <:+: a ++ c :: b) :
    needle <:+: a ∨ needle <:+: b := by
  obtain ⟨u, v, huv⟩ := h
  rw [List.append_assoc] at huv
  rcases List.append_eq_append_iff.1 huv with ⟨a', rfl, hrest⟩ | ⟨b', rfl, hrest⟩
  · rcases List.append_eq_append_iff.1 hrest with ⟨a'', rfl, -⟩ | ⟨n', rfl, hn⟩
    · exact Or.inl ⟨u, a'', by simp⟩
    · cases n' with
      | nil => exact Or.inl ⟨u, [], by simp⟩
      | cons d n' =>
        obtain rfl : c = d := (List.cons.inj hn).1
        exact absurd (List.mem_append_right a' List.mem_cons_self) hc
  · cases b' with
    | nil =>
      cases needle with
      | nil => exact Or.inl List.nil_infix
      | cons d needle =>
        obtain rfl : c = d := (List.cons.inj hrest).1
        exact absurd List.mem_cons_self hc
    | cons d b' => exact Or.inr ⟨b', v, by rw [List.append_assoc]; exact (List.cons.inj hrest).2.symm⟩

theorem AmpPcm.item_mem (p : AmpPcm info) : p.item ∈ (info.devs p.dir).drop 1 := by
  refine List.mem_iff_getElem?.2 ⟨p.idx - 1, ?_⟩
  rw [List.getElem?_drop, Nat.add_sub_cancel' p.one_le]
  exact List.getElem?_eq_getElem p.lt

theorem AmpPcm.item_mem_items (p : AmpPcm info) : p.item ∈ info.items := by
  have hmem := p.item_mem
  unfold PcmInfo.devs at hmem
  split at hmem
  · exact List.mem_append_left _ hmem
  · exact List.mem_append_right _ hmem

/-- What a control is called decides by its extension alone. -/
theorem PcmInfo.Plain.strstr_name (h : info.Plain) (p : AmpPcm info) (k : PcmCtlName) {needle : CString} (hspace : ' ' ∉ needle)
    (hneedle : ¬ needle <:+: shown p.item.text) : (strstr needle (p.ctl k).name).isSome ↔ needle <:+: k.extn := by
  rw [strstr_isSome_iff]
  show needle <:+: ctlName (shown p.item.text) k.extn ↔ _
  rw [h.short p.item p.item_mem_items k]
  constructor
  · intro hin
    exact (infix_append_cons hspace hin).resolve_left hneedle
  · intro hin
    exact hin.trans ⟨shown p.item.text ++ [' '], [], by simp⟩

theorem PcmInfo.Plain.disconnect (h : info.Plain) (p : AmpPcm info) (k : PcmCtlName) :
    (strstr "disconnect".toList (p.ctl k).name).isNone ↔ ¬ "disconnect".toList <:+: k.extn := by
  rw [← h.strstr_name p k (by decide) (h.names p.item p.item_mem_items).1, Option.isNone_iff_eq_none, Option.not_isSome_iff_eq_none]

theorem PcmInfo.Plain.setParamTag (h : info.Plain) (p : AmpPcm info) (k : PcmCtlName) :
    (strstr "setParamTag".toList (p.ctl k).name).isSome ↔ "setParamTag".toList <:+: k.extn :=
  h.strstr_name p k (by decide) (h.names p.item p.item_mem_items).2

theorem PcmInfo.Plain.setParamTagAcdb (h : info.Plain) (p : AmpPcm info) (k : PcmCtlName) :
    (strstr "setParamTagACDB".toList (p.ctl k).name).isSome ↔ "setParamTagACDB".toList <:+: k.extn :=
  h.strstr_name p k (by decide) fun hin =>
    (h.names p.item p.item_mem_items).2 ((show _ <:+: "setParamTagACDB".toList by decide).trans hin)

/-! ## Places -/

theorem PcmInfo.Plain.nodup (h : info.Plain) (dir : Nat) : (((info.devs dir).drop 1).map PcmItem.idx).Nodup := by
  unfold PcmInfo.devs
  split
  · exact h.rx
  · exact h.tx

/-- An entry whose key no other entry has is found where it is. -/
theorem findIdx?_of_nodup {α β : Type} [DecidableEq β] {f : α → β} {l : List α} (hl : (l.map f).Nodup) {k : Nat} {a : α}
    (ha : l[k]? = some a) : (l.findIdx? fun x => f a = f x) = some k := by
  induction l generalizing k with
  | nil => simp at ha
  | cons x l ih =>
    rw [List.map_cons, List.nodup_cons] at hl
    rw [List.findIdx?_cons]
    cases k with
    | zero =>
      obtain rfl : x = a := by simpa using ha
      simp
    | succ k =>
      rw [List.getElem?_cons_succ] at ha
      have hne : f a ≠ f x := by
        intro heq
        exact hl.1 (heq ▸ List.mem_map_of_mem (List.mem_of_getElem? ha))
      rw [decide_eq_false hne, ih hl.2 ha]
      rfl

/-- The place of a PCM is found by its id. -/
theorem ampPcmGetControlValue_eq (h : info.Plain) (m : PcmMtdCtl) (p : AmpPcm info) :
    ampPcmGetControlValue info m p.session p.dir = .ok ((m.of p.dir).getD p.idx 0) := by
  have hitem : ((info.devs p.dir).drop 1)[p.idx - 1]? = some p.item := by
    rw [List.getElem?_drop, Nat.add_sub_cancel' p.one_le]
    exact List.getElem?_eq_getElem p.lt
  unfold ampPcmGetControlValue
  rw [show p.session = p.item.idx from rfl, findIdx?_of_nodup (h.nodup p.dir) hitem]
  dsimp only
  rw [Nat.sub_add_cancel p.one_le]

theorem PcmMtdCtl.of_set (m : PcmMtdCtl) (p q : AmpPcm info) (val : Nat) :
    ((m.set p.dir p.idx val).of q.dir) = if p.dir = q.dir then (m.of p.dir).set p.idx val else m.of q.dir := by
  rcases p.dir_eq with hp | hp <;> rcases q.dir_eq with hq | hq <;> rw [hp, hq] <;> rfl

/-- What is kept of a PCM is the item that is selected for it, and the item is one of its control. -/
structure AmpTargets.Keeps (be : Backends) (s : AmpTargets info) : Prop where
  kept : ∀ p : AmpPcm info, (s.mtd.of p.dir)[p.idx]? = some (selected s.log p)
  below : ∀ p : AmpPcm info, selected s.log p < (be.devs p.dir).length

theorem selected_concat (log : List (TargetEvent info)) (e : TargetEvent info) (p : AmpPcm info) :
    selected (log ++ [e]) p = e.selectedAfter p (selected log p) := List.foldl_concat _ _ _ _

theorem AmpTargets.keeps_start (be : Backends) (hbe : ∀ p : AmpPcm info, 0 < (be.devs p.dir).length) :
    AmpTargets.Keeps be ⟨.start info, ([] : List (TargetEvent info))⟩ := by
  refine ⟨fun p => ?_, hbe⟩
  have hlt := p.lt
  show ((PcmMtdCtl.start info).of p.dir)[p.idx]? = some 0
  rcases p.dir_eq with hdir | hdir
  all_goals
    rw [hdir] at hlt ⊢
    exact List.getElem?_replicate_of_lt hlt

section

variable {be : Backends} {s : AmpTargets info}

/-- A write that selects nothing. -/
theorem AmpTargets.Keeps.quiet (h : s.Keeps be) {e : TargetEvent info} (he : ∀ k, e.write ≠ .mtdControl k) :
    AmpTargets.Keeps be ⟨s.mtd, s.log ++ [e]⟩ := by
  have hsame : ∀ p, selected (s.log ++ [e]) p = selected s.log p := by
    intro p
    rw [selected_concat, TargetEvent.selectedAfter]
    split
    · next k hk => exact absurd hk (he k)
    · rfl
  exact ⟨fun p => by rw [hsame]; exact h.kept p, fun p => by rw [hsame]; exact h.below p⟩

/-- A write to a `control`. -/
theorem AmpTargets.Keeps.select (h : s.Keeps be) {p : AmpPcm info} {val : Nat} (hval : val < (be.devs p.dir).length)
    (called : Option TargetCall) (ret : Int) :
    AmpTargets.Keeps be ⟨s.mtd.set p.dir p.idx val, s.log ++ [⟨p, .mtdControl val, called, ret⟩]⟩ := by
  have hnew : ∀ q, selected (s.log ++ [⟨p, .mtdControl val, called, ret⟩]) q = if p = q then val else selected s.log q :=
    fun q => selected_concat _ _ q
  refine ⟨fun q => ?_, fun q => ?_⟩
  · dsimp only
    rw [hnew, PcmMtdCtl.of_set]
    by_cases hdir : p.dir = q.dir
    · rw [if_pos hdir]
      by_cases hidx : p.idx = q.idx
      · have hpq : p = q := by
          cases p
          cases q
          subst hdir hidx
          rfl
        subst hpq
        have hlt := (List.getElem?_eq_some_iff.1 (h.kept p)).1
        rw [if_pos rfl, List.getElem?_set_self hlt]
      · rw [if_neg fun heq => hidx (congrArg AmpPcm.idx heq), List.getElem?_set_ne hidx, hdir]
        exact h.kept q
    · rw [if_neg hdir, if_neg fun heq => hdir (congrArg AmpPcm.dir heq)]
      exact h.kept q
  · rw [hnew]
    split
    · next heq => rwa [← heq]
    · exact h.below q

end

/-! ## Calls -/

section

variable {aifList : List AifInfo} {s : AmpTargets info}

/-- The AIF that is selected for a PCM. -/
theorem AmpTargets.Keeps.aif (h : s.Keeps (backendsOfAifs aifList)) (p : AmpPcm info) :
    (selected s.log p = 0 ∧ aifOfItem aifList p.dir (selected s.log p) = none) ∨
      (selected s.log p ≠ 0 ∧ aifOfItem aifList p.dir (selected s.log p) =
        some ((backendsOfAifs aifList).idxArr p.dir (selected s.log p))) := by
  by_cases hzero : selected s.log p = 0
  · exact Or.inl ⟨hzero, by rw [aifOfItem, if_pos hzero]⟩
  · exact Or.inr ⟨hzero, aifOfItem_eq aifList p.dir_eq hzero (h.below p)⟩

theorem AmpTargets.Keeps.beIdx (h : s.Keeps (backendsOfAifs aifList)) (p : AmpPcm info) :
    beIdx (backendsOfAifs aifList) p.dir (selected s.log p) = aifOrNone (aifOfItem aifList p.dir (selected s.log p)) := by
  unfold Mixer.beIdx
  rcases h.aif p with ⟨hzero, haif⟩ | ⟨hzero, haif⟩
  · rw [haif, hzero]
    rfl
  · rw [haif, if_pos (Nat.pos_of_ne_zero hzero)]
    rfl

/-- What a control that needs the selected item is given. -/
theorem AmpTargets.Keeps.controlValue (h : s.Keeps (backendsOfAifs aifList)) (hinfo : info.Plain) (p : AmpPcm info) :
    ampPcmGetControlValue info s.mtd p.item.idx p.dir = .ok (selected s.log p) := by
  have hvalue := ampPcmGetControlValue_eq hinfo s.mtd p
  rwa [List.getD_eq_getElem?_getD, h.kept, Option.getD_some] at hvalue

theorem ampPcmAifConnectPut_right {c : PcmCtl} {dir item : Nat} {state : Bool} (hdir : dir = RX ∨ dir = TX) (hc : c.dir = dir)
    (hstate : (strstr "disconnect".toList c.name).isNone = state) (hitem : item < ((backendsOfAifs aifList).devs dir).length)
    (agm : Int) : (ampPcmAifConnectPut (backendsOfAifs aifList) c item agm).2 =
      (aifOfItem aifList dir item).map fun a => .aifConnect c.privateValue a state := by
  unfold ampPcmAifConnectPut
  split
  · next hzero =>
    rw [aifOfItem, if_pos hzero]
    rfl
  · next hzero =>
    rw [aifOfItem_eq aifList hdir hzero hitem, hc, ← hstate]
    rfl

/-- What the three controls of parameters call. -/
theorem ampPcmSetParamPut_called (h : s.Keeps (backendsOfAifs aifList)) (hinfo : info.Plain) (p : AmpPcm info)
    (k : PcmCtlName) (hk : (p.ctl k).privateValue = p.item.idx) (payload : List UInt8) (agm : Int) :
    (ampPcmSetParamPut info (backendsOfAifs aifList) s.mtd (p.ctl k) payload agm).2 = some (
      if "setParamTagACDB".toList <:+: k.extn then
        .setParamsWithTagToAcdb p.session (aifOrNone (aifOfItem aifList p.dir (selected s.log p))) payload
      else if "setParamTag".toList <:+: k.extn then
        .setParamsWithTag p.session (aifOrNone (aifOfItem aifList p.dir (selected s.log p))) payload
      else (aifOfItem aifList p.dir (selected s.log p)).elim (.setParams p.session payload) fun a =>
        .aifSetParams p.session a payload) := by
  unfold ampPcmSetParamPut
  dsimp only
  rw [hk, show (p.ctl k).dir = p.dir from rfl, h.controlValue hinfo p]
  dsimp only
  rw [h.beIdx p]
  simp only [hinfo.setParamTag p k, hinfo.setParamTagAcdb p k]
  refine congrArg some ?_
  split
  · rfl
  split
  · rfl
  rcases h.aif p with ⟨hzero, haif⟩ | ⟨hzero, haif⟩
  · rw [if_pos hzero, haif]
    rfl
  · rw [if_neg hzero, haif]
    rfl

/-- **One write**, in a state the plugin can be in. -/
theorem ampTargetExec_step (h : s.Keeps (backendsOfAifs aifList)) (hinfo : info.Plain) {o : TargetOp info}
    (ho : o.Allowed (backendsOfAifs aifList)) : (ampTargetExec (backendsOfAifs aifList) s o).Keeps (backendsOfAifs aifList) ∧
      TargetEvent.Right aifList s.log
        ⟨o.pcm, o.write, (o.put (backendsOfAifs aifList) s.mtd).2, (o.put (backendsOfAifs aifList) s.mtd).1⟩ := by
  obtain ⟨p, write, agm⟩ := o
  cases write with
  | connect item =>
    have hstate : (strstr "disconnect".toList (p.ctl .connect).name).isNone = true :=
      (hinfo.disconnect p .connect).2 (by decide)
    exact ⟨h.quiet fun _ => by simp, ampPcmAifConnectPut_right p.dir_eq rfl hstate ho agm⟩
  | disconnect item =>
    have hstate : (strstr "disconnect".toList (p.ctl .disconnect).name).isNone = false :=
      Bool.eq_false_iff.2 fun heq => (hinfo.disconnect p .disconnect).1 heq (by decide)
    exact ⟨h.quiet fun _ => by simp, ampPcmAifConnectPut_right p.dir_eq rfl hstate ho agm⟩
  | mtdControl item => exact ⟨h.select ho _ _, trivial⟩
  | metadata payload =>
    refine ⟨h.quiet fun _ => by simp, ?_⟩
    show (ampPcmMetadataPut info _ s.mtd (p.ctl .metadata) payload agm).2 = _
    have hvalue := h.controlValue hinfo p
    unfold ampPcmMetadataPut
    rw [show (p.ctl .metadata).privateValue = p.item.idx from rfl, show (p.ctl .metadata).dir = p.dir from rfl, hvalue]
    dsimp only
    rw [if_neg ho]
    rcases h.aif p with ⟨hzero, haif⟩ | ⟨hzero, haif⟩
    · rw [if_pos hzero, haif]
      rfl
    · rw [if_neg hzero, haif]
      rfl
  | setParam payload =>
    refine ⟨h.quiet fun _ => by simp, (ampPcmSetParamPut_called h hinfo p .setParam rfl payload agm).trans ?_⟩
    rw [if_neg (by decide), if_neg (by decide)]
  | setParamTag payload =>
    refine ⟨h.quiet fun _ => by simp, (ampPcmSetParamPut_called h hinfo p .setParamTag rfl payload agm).trans ?_⟩
    rw [if_neg (by decide), if_pos (by decide)]
  | setParamTagAcdb payload =>
    refine ⟨h.quiet fun _ => by simp, (ampPcmSetParamPut_called h hinfo p .setParamTagAcdb rfl payload agm).trans ?_⟩
    rw [if_pos (by decide)]
  | getTagInfo size =>
    refine ⟨h.quiet fun _ => by simp, ?_⟩
    show (ampPcmTagInfoGet info _ s.mtd (p.ctl .getTagInfo) size agm).2 = _
    unfold ampPcmTagInfoGet
    rw [show (p.ctl .getTagInfo).privateValue = p.item.idx from rfl, show (p.ctl .getTagInfo).dir = p.dir from rfl,
      h.controlValue hinfo p]
    dsimp only
    rw [h.beIdx p]
    rfl
  | setCalibration payload =>
    refine ⟨h.quiet fun _ => by simp, ?_⟩
    show (ampPcmCalibrationPut info _ s.mtd (p.ctl .setCalibration) payload agm).2 = _
    unfold ampPcmCalibrationPut
    rw [show (p.ctl .setCalibration).privateValue = p.item.idx from rfl, show (p.ctl .setCalibration).dir = p.dir from rfl,
      h.controlValue hinfo p]
    dsimp only
    rw [h.beIdx p]
    rfl
  | _ => exact ⟨h.quiet fun _ => by simp, trivial⟩

/-- **The targets.**  On a card with plain names and distinct ids every write is for its PCM, and for the back end that is
selected for it. -/
theorem targets_right (aifList : List AifInfo) (hinfo : info.Plain) (ops : List (TargetOp info))
    (hops : ∀ o ∈ ops, o.Allowed (backendsOfAifs aifList)) :
    EachAfter (TargetEvent.Right aifList) (ampTargetRun (backendsOfAifs aifList) ops).log := by
  have hbe : ∀ p : AmpPcm info, 0 < ((backendsOfAifs aifList).devs p.dir).length := by
    intro p
    rw [devs_backendsOfAifs aifList p.dir_eq]
    exact Nat.succ_pos _
  let Inv (s : AmpTargets info) : Prop := s.Keeps (backendsOfAifs aifList) ∧ EachAfter (TargetEvent.Right aifList) s.log
  have key : Inv (ampTargetRun (backendsOfAifs aifList) ops) := by
    refine List.foldlRecOn (motive := Inv) ops _ ⟨AmpTargets.keeps_start _ hbe, eachAfter_nil⟩ fun s h o ho => ?_
    obtain ⟨hkeeps, hright⟩ := h
    obtain ⟨hkeeps', hstep⟩ := ampTargetExec_step hkeeps hinfo (hops o ho)
    exact ⟨hkeeps', eachAfter_concat.2 ⟨hright, hstep⟩⟩
  exact key.2

end

/-- A card on which a playback and a capture have the same id. -/
def sharedIds : PcmInfo :=
  ⟨[⟨some "ZERO".toList, 0⟩, ⟨some "PCM7".toList, 7⟩, ⟨some "PCM8".toList, 8⟩],
    [⟨some "ZERO".toList, 0⟩, ⟨some "PCM7".toList, 7⟩]⟩

/-- The second RX interface, the third of all, is selected for PCM 8, and the only TX interface for the capture PCM 7. -/
theorem targets_right_shared : ∃ (aifList : List AifInfo) (ops : List (TargetOp sharedIds)),
    (ampTargetRun (backendsOfAifs aifList) ops).log.map TargetEvent.called =
      [none, none, some (.aifSetMetadata 8 2 [5]), some (.setParamsWithTag 7 1 [6]), some (.aifConnect 8 2 false), none,
        some (.setMetadata 8 [5])] ∧ EachAfter (TargetEvent.Right aifList) (ampTargetRun (backendsOfAifs aifList) ops).log := by
  let pcm8 : AmpPcm sharedIds := ⟨RX, 2, by decide, by decide, by decide⟩
  let capture7 : AmpPcm sharedIds := ⟨TX, 1, by decide, by decide, by decide⟩
  let aifList : List AifInfo := [⟨"SPK".toList, RX⟩, ⟨"MIC".toList, TX⟩, ⟨"HDMI".toList, RX⟩]
  have hinfo : sharedIds.Plain := by
    refine ⟨by decide, by decide, by decide, ?_⟩
    intro item hitem k
    revert item
    cases k <;> decide +kernel
  refine ⟨aifList, [⟨pcm8, .mtdControl 2, 0⟩, ⟨capture7, .mtdControl 1, 0⟩, ⟨pcm8, .metadata [5], 0⟩,
    ⟨capture7, .setParamTag [6], 0⟩, ⟨pcm8, .disconnect 2, 0⟩, ⟨pcm8, .mtdControl 0, 0⟩, ⟨pcm8, .metadata [5], 0⟩],
    by decide +kernel, targets_right aifList hinfo _ ?_⟩
  simp only [List.forall_mem_cons]
  refine ⟨?_, ?_, ?_, ?_, ?_, ?_, ?_, fun o ho => absurd ho List.not_mem_nil⟩
  all_goals
    unfold TargetOp.Allowed
    decide +kernel

end Agm.Mixer
