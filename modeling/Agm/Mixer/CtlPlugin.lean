import Agm.Mixer.GetParam
import Agm.Service.MetadataCopy

/-!
# The control plugin of alsa-lib

`agm_ctl_plugin.c` has the controls of all PCMs and all back ends in one list.  A client writes an integer, an item or a TLV
to one of them, or reads a TLV, and the plugin turns this into a call of AGM.  What AGM is given of a TLV is the address of
the payload, so that here a call says how much of the payload it is for, and not what is in it.
-/

namespace Agm.Mixer

open Agm.Lib Agm.Service Agm.Parser CString

/-! ## The controls -/

/-- The ids of the controls: those of all PCMs, those of a capture and those of a back end. -/
inductive CtlId
  | metadata | setParam | setParamTag | connect | disconnect | control | getTagInfo | event | setCalibration | getParam
  | bufInfo
  | loopback | echoref | bufTstamp
  | beMediaConfig | beMetadata | beSetParam
  deriving DecidableEq, Repr

/-- `struct agm_mixer_controls`. -/
structure AgmMixerControl where
  mixerName : CString
  /-- the id of a PCM, or the place of a back end in the list -/
  pcmBeId : Nat
  ctlId : CtlId
  deriving DecidableEq, Repr

/-- `struct agmctl_priv`. -/
structure AgmctlPriv where
  aifList : List AifInfo
  rxCount : Nat
  rxNames : List CString
  rxPcmId : List Nat
  pcmIdx : List Nat
  pcmMtdCtl : List Nat
  getParamPayload : Option (List UInt8)
  controls : List AgmMixerControl
  deriving DecidableEq, Repr

/-! ### How they are formed -/

def MIXER_NAME_LEN : Nat := 128
def PCM_NAME_LEN : Nat := 24

/-- `agm_fe_ctl_name_extn`, `agm_tx_ctl_name_extn` and `agm_be_ctl_name_extn`. -/
def CtlId.extn (id : CtlId) : CString :=
  String.toList (match id with
    | .metadata => "metadata"
    | .setParam => "setParam"
    | .setParamTag => "setParamTag"
    | .connect => "connect"
    | .disconnect => "disconnect"
    | .control => "control"
    | .getTagInfo => "getTaggedInfo"
    | .event => "event"
    | .setCalibration => "setCalibration"
    | .getParam => "getParam"
    | .bufInfo => "getBufInfo"
    | .loopback => "loopback"
    | .echoref => "echoReference"
    | .bufTstamp => "bufTimestamp"
    | .beMediaConfig => "rate ch fmt"
    | .beMetadata => "metadata"
    | .beSetParam => "setParam")

/-- The ids in the order of the names. -/
def agmFeCtls : List CtlId :=
  [.metadata, .setParam, .setParamTag, .connect, .disconnect, .control, .getTagInfo, .event, .setCalibration, .getParam,
    .bufInfo]

def agmTxCtls : List CtlId := [.loopback, .echoref, .bufTstamp]

def agmBeCtls : List CtlId := [.beMediaConfig, .beMetadata, .beSetParam]

/-- A control as it is formed for a PCM or a back end called `name`. -/
def agmMixerControl (name : CString) (pcmBeId : Nat) (id : CtlId) : AgmMixerControl :=
  ⟨bounded MIXER_NAME_LEN (name ++ ' ' :: id.extn), pcmBeId, id⟩

/-- `agmctl_form_common_fe_controls` and `agmctl_form_tx_controls`.  For a PCM without a name they print a pointer that
nothing has set; what they would form is left out. -/
def agmctlFormPcmControls (ids : List CtlId) (dev : SndDevDef) : List AgmMixerControl :=
  match dev.name with
  | none => []
  | some name => ids.map (agmMixerControl name dev.device)

/-- `agmctl_form_be_controls`. -/
def agmctlFormBeControls (aif : AifInfo) (beIdx : Nat) : List AgmMixerControl :=
  agmBeCtls.map (agmMixerControl aif.aifName beIdx)

/-- The property of a PCM is there, and 1. -/
def hasDir (dir : CString) (dev : SndDevDef) : Bool := (sndCardDefGetInt dev dir).getD 0 = 1

/-- `pcm_node_list`. -/
def nodeList (card : SndDevDefCard) : List SndDevDef := card.pcmDevs ++ card.comprDevs

/-- `amp_form_mixer_controls` of a card with PCMs, where the memory is granted.  Behind the RX PCMs with a name the two arrays
of RX PCMs are left as `calloc` gives them. -/
def ampFormMixerControls (card : SndDevDefCard) (aifList : List AifInfo) : AgmctlPriv :=
  let nodes := nodeList card
  let rx := nodes.filter (hasDir "playback".toList)
  let named := rx.filterMap fun dev => dev.name.map fun name => (name, dev.device)
  { aifList
    rxCount := rx.length
    rxNames := named.map fun d => bounded PCM_NAME_LEN d.1
    rxPcmId := named.map Prod.snd
    pcmIdx := nodes.map SndDevDef.device
    pcmMtdCtl := nodes.map fun _ => 0
    getParamPayload := none
    controls := nodes.flatMap (fun dev => agmctlFormPcmControls agmFeCtls dev ++
        if hasDir "capture".toList dev then agmctlFormPcmControls agmTxCtls dev else []) ++
      aifList.zipIdx.flatMap fun a => agmctlFormBeControls a.1 a.2 }

/-! ## Calls -/

/-- A call of AGM.  Where the payload of a TLV is handed on with a length, the length is there. -/
inductive CtlCall
  | setMetadata (owner : MetaOwner) (size : Nat)
  | setParams (session : Nat) (aif : Option Nat) (size : Nat)
  | setParamsWithTag (session aif : Nat)
  | registerForEvents (session : Nat)
  | setCal (session aif : Nat)
  | getParams (session : Nat) (kept : List UInt8)
  | getBufferTimestamp (session : Nat)
  | getTagModuleInfo (session aif size : Nat)
  | getBufInfo (session : Nat)
  | aifConnect (session aif : Nat) (state : Bool)
  | setLoopback (capture playback : Nat) (state : Bool)
  | setEcRef (session aif : Nat) (state : Bool)
  | setMediaConfig (aif rate channels format dataFormat : Nat)
  deriving DecidableEq, Repr

/-- What comes of a request: a return code, a payload that is kept for a later call, or a call.  After some calls
`-EALREADY` counts as success. -/
inductive Outcome
  | ret (code : Int)
  | keep (size : Nat)
  | call (c : CtlCall) (already : Bool)
  deriving DecidableEq, Repr

/-- What the client is returned, if AGM returns `agm`. -/
def Outcome.code (agm : Int) : Outcome → Int
  | .ret code => code
  | .keep _ => 0
  | .call _ already => if already then getParamRet agm else agm

/-- A number as a `uint32_t`. -/
def uint32 (v : Int) : Nat := (v % 2 ^ 32).toNat

/-! ## The functions of the controls -/

section

variable (p : AgmctlPriv) (c : AgmMixerControl)

/-- `agmctl_pcm_get_control_value`. -/
def agmctlPcmGetControlValue (pcmIdx : Nat) : Int :=
  match p.pcmIdx.findIdx? fun id => id = pcmIdx with
  | none => -EINVAL
  | some i => (p.pcmMtdCtl.getD i 0 : Nat)

/-- `be_idx`, if a back end is selected for the PCM. -/
def agmctlBeIdx : Option Nat :=
  let pcmControl := agmctlPcmGetControlValue p c.pcmBeId
  if 0 < pcmControl then some (pcmControl - 1).toNat else none

/-- `agmctl_pcm_metadata_put`. -/
def agmctlPcmMetadataPut (maxBytes : Nat) : Outcome :=
  match agmctlBeIdx p c with
  | some beIdx => .call (.setMetadata (.sessionAif c.pcmBeId beIdx) maxBytes) true
  | none => .call (.setMetadata (.session c.pcmBeId) maxBytes) true

/-- `agmctl_pcm_setparam_put`. -/
def agmctlPcmSetparamPut (maxBytes : Nat) : Outcome :=
  match agmctlBeIdx p c with
  | some beIdx => .call (.setParams c.pcmBeId (some beIdx) maxBytes) true
  | none => .call (.setParams c.pcmBeId none maxBytes) true

/-- `agmctl_pcm_setparamtag_put`. -/
def agmctlPcmSetparamtagPut : Outcome :=
  match agmctlBeIdx p c with
  | some beIdx => .call (.setParamsWithTag c.pcmBeId beIdx) true
  | none => .ret (-EINVAL)

/-- `agmctl_pcm_event_get`. -/
def agmctlPcmEventGet : Outcome := .ret 0

/-- `agmctl_pcm_event_put`. -/
def agmctlPcmEventPut : Outcome := .call (.registerForEvents c.pcmBeId) true

/-- `agmctl_pcm_calibration_put`. -/
def agmctlPcmCalibrationPut : Outcome :=
  match agmctlBeIdx p c with
  | some beIdx => .call (.setCal c.pcmBeId beIdx) false
  | none => .ret (-EINVAL)

/-- `agmctl_pcm_get_param_get`, which copies what was kept into the buffer. -/
def agmctlPcmGetParamRead (len : Nat) : Outcome × AgmctlPriv :=
  match p.getParamPayload with
  | none => (.ret (-EINVAL), p)
  | some kept =>
    if len < kept.length then (.ret (-EINVAL), p)
    else (.call (.getParams c.pcmBeId kept) true, { p with getParamPayload := none })

/-- `agmctl_pcm_get_param_put`; `granted` is the answer to its allocation. -/
def agmctlPcmGetParamWrite (granted : Bool) (data : Mem) (len : Nat) : Outcome × AgmctlPriv :=
  if granted then (.keep len, { p with getParamPayload := some (data.bytes 0 len) })
  else (.ret (-ENOMEM), { p with getParamPayload := none })

/-- `agmctl_pcm_buf_timestamp_get`. -/
def agmctlPcmBufTimestampGet : Outcome := .call (.getBufferTimestamp c.pcmBeId) false

/-- `agmctl_pcm_tag_info_get`; `asked` is what AGM answers to the question for the size. -/
def agmctlPcmTagInfoGet (asked : Int × Nat) (len : Nat) : Outcome :=
  match agmctlBeIdx p c with
  | none => .ret (-EINVAL)
  | some beIdx =>
    if asked.1 ≠ 0 ∨ asked.2 = 0 ∨ len < asked.2 then .ret (-EINVAL)
    else .call (.getTagModuleInfo c.pcmBeId beIdx asked.2) false

/-- `agmctl_pcm_connect_put`. -/
def agmctlPcmConnectPut (item : Nat) : Outcome :=
  .call (.aifConnect c.pcmBeId item (c.ctlId ≠ .disconnect)) true

/-- `agmctl_pcm_loopback_put`. -/
def agmctlPcmLoopbackPut (item : Nat) : Outcome :=
  let rxIdx := if item = 0 then 0 else p.rxPcmId.getD (item - 1) 0
  .call (.setLoopback c.pcmBeId rxIdx (item ≠ 0)) true

/-- `agmctl_pcm_ecref_put`. -/
def agmctlPcmEcrefPut (item : Nat) : Outcome :=
  .call (.setEcRef c.pcmBeId (item - 1) (item ≠ 0)) true

/-- `agmctl_pcm_control_put`. -/
def agmctlPcmControlPut (item : Nat) : Outcome × AgmctlPriv :=
  if item > p.aifList.length then (.ret (-EINVAL), p)
  else
    match p.pcmIdx.findIdx? fun id => id = c.pcmBeId with
    | none => (.ret (-EINVAL), p)
    | some i => (.ret 0, { p with pcmMtdCtl := p.pcmMtdCtl.set i item })

/-- `agmctl_pcm_buf_info_get`. -/
def agmctlPcmBufInfoGet : Outcome := .call (.getBufInfo c.pcmBeId) false

/-- `agmctl_be_metadata_put`. -/
def agmctlBeMetadataPut (len : Nat) : Outcome := .call (.setMetadata (.aif c.pcmBeId) len) true

/-- `agmctl_be_setparam_put`, which sets metadata too. -/
def agmctlBeSetparamPut (len : Nat) : Outcome := .call (.setMetadata (.aif c.pcmBeId) len) true

/-- `alsa_to_agm_fmt`, whose formats are not negative. -/
def alsaToAgmFmt (fmt : Nat) : Nat :=
  match fmt with
  | 0 => 1
  | 2 => 2
  | 6 => 3
  | 32 => 4
  | 10 => 5
  | _ => 0

instance neZero_four : NeZero 4 := ⟨by decide⟩

/-- `agmctl_be_media_config_put`. -/
def agmctlBeMediaConfigPut (val : Fin 4 → Int) : Outcome :=
  .call (.setMediaConfig c.pcmBeId (uint32 (val 0)) (uint32 (val 1)) (alsaToAgmFmt (uint32 (val 2))) (uint32 (val 3))) false

end

/-! ## The callbacks -/

section

variable (p : AgmctlPriv)

/-- The payload of a TLV. -/
def tlvData (tlv : Mem) : Mem := fun i => tlv (8 + i)

/-- `len` in `agmctl_read_bytes` and `agmctl_write_bytes`: the first byte of the length. -/
def tlvLen (tlv : Mem) : Nat := (tlv 4).toNat

/-- `agmctl_read_bytes`. -/
def agmctlReadBytes (asked : Int × Nat) (c : AgmMixerControl) (tlv : Mem) : Outcome × AgmctlPriv :=
  match c.ctlId with
  | .getTagInfo => (agmctlPcmTagInfoGet p c asked (tlvLen tlv), p)
  | .bufTstamp => (agmctlPcmBufTimestampGet c, p)
  | .bufInfo => (agmctlPcmBufInfoGet c, p)
  | .getParam => agmctlPcmGetParamRead p c (tlvLen tlv)
  | .event => (agmctlPcmEventGet, p)
  | _ => (.ret (-EINVAL), p)

/-- `agmctl_write_bytes`. -/
def agmctlWriteBytes (granted : Bool) (c : AgmMixerControl) (tlv : Mem) : Outcome × AgmctlPriv :=
  match c.ctlId with
  | .metadata => (agmctlPcmMetadataPut p c (tlvLen tlv), p)
  | .setParam => (agmctlPcmSetparamPut p c (tlvLen tlv), p)
  | .setParamTag => (agmctlPcmSetparamtagPut p c, p)
  | .event => (agmctlPcmEventPut c, p)
  | .setCalibration => (agmctlPcmCalibrationPut p c, p)
  | .getParam => agmctlPcmGetParamWrite p granted (tlvData tlv) (tlvLen tlv)
  | .beMetadata => (agmctlBeMetadataPut c (tlvLen tlv), p)
  | .beSetParam => (agmctlBeSetparamPut c (tlvLen tlv), p)
  | _ => (.ret (-EINVAL), p)

/-- `agmctl_write_enumerated`. -/
def agmctlWriteEnumerated (c : AgmMixerControl) (item : Nat) : Outcome × AgmctlPriv :=
  match c.ctlId with
  | .connect | .disconnect => (agmctlPcmConnectPut c item, p)
  | .loopback => (agmctlPcmLoopbackPut p c item, p)
  | .echoref => (agmctlPcmEcrefPut c item, p)
  | .control => agmctlPcmControlPut p c item
  | _ => (.ret (-EINVAL), p)

/-- `agmctl_write_integer`. -/
def agmctlWriteInteger (c : AgmMixerControl) (value : Fin 4 → Int) : Outcome :=
  match c.ctlId with
  | .beMediaConfig => agmctlBeMediaConfigPut c value
  | _ => .ret (-EINVAL)

/-- The text of an item of the back ends, or `ZERO`. -/
def zeroOrAif (item : Nat) : Option CString :=
  if item = 0 then some "ZERO".toList else p.aifList[item - 1]?.map AifInfo.aifName

/-- `agmctl_get_enumerated_name`: the text it copies, if it copies one. -/
def agmctlGetEnumeratedName (c : AgmMixerControl) (item : Nat) : Option CString :=
  match c.ctlId with
  | .connect | .disconnect => p.aifList[item]?.map AifInfo.aifName
  | .control | .echoref => zeroOrAif p item
  | .loopback =>
    if item ≥ p.rxCount then none
    else if item = 0 then some "ZERO".toList
    else some (p.rxNames.getD (item - 1) [])
  | _ => none

/-- `agm_ext_tlv_callback`.  The size of the buffer is not used. -/
def agmExtTlvCallback (asked : Int × Nat) (granted : Bool) (key : Nat) (opFlag : Int) (tlv : Mem) (_tlvSize : Nat) :
    Outcome × AgmctlPriv :=
  match p.controls[key]? with
  | none => (.ret (-EINVAL), p)
  | some c =>
    if opFlag = 0 then agmctlReadBytes p asked c tlv
    else if opFlag = 1 then agmctlWriteBytes p granted c tlv
    else (.ret (-EINVAL), p)

end

end Agm.Mixer
