import Agm.Mixer.CtlPlugin
import Agm.Mixer.Targets

/-!
# Two plugins for the same controls

The mixer plugin of tinyalsa and the control plugin of alsa-lib export controls under the same names.  The first sorts PCMs
and back ends into lists of RX and TX, each behind an item `ZERO`; the second keeps them in one list each, and has the item
`ZERO` where it is not a back end to connect to.  Here a client writes the same values to both, and what they ask AGM for is
compared.
-/

namespace Agm.Mixer

open Agm.Lib Agm.Service Agm.Parser CString

variable {info : PcmInfo}

/-! ## Values and calls -/

/-- What a client writes: integers, the payload of a TLV, or an item. -/
inductive CtlValue
  | integer (value : Fin 4 → Int)
  | bytes (payload : List UInt8)
  | item (i : Nat)

/-- A call that a write leads to. -/
inductive PutCall
  | pcm (c : TargetCall)
  | aifSetMetadata (aif : Nat) (payload : List UInt8)
  | aifSetParams (aif : Nat) (payload : List UInt8)
  | aifSetMediaConfig (aif rate channels format dataFormat : Nat)
  deriving DecidableEq, Repr

/-! ## The mixer plugin of tinyalsa -/

/-- The controls of a back end. -/
inductive BeCtlName
  | mediaConfig | metadata | setParam
  deriving DecidableEq, Repr

def BeCtlName.extn (k : BeCtlName) : CString :=
  String.toList (match k with
    | .mediaConfig => "rate ch fmt"
    | .metadata => "metadata"
    | .setParam => "setParam")

/-- A control of a PCM or of a back end. -/
inductive AmpCtl (info : PcmInfo)
  | pcm (p : AmpPcm info) (k : PcmCtlName)
  | be (b : Item) (k : BeCtlName)
  deriving DecidableEq

/-- Which PCMs have the control. -/
def PcmCtlName.Of (k : PcmCtlName) (dir : Nat) : Prop :=
  match k with
  | .loopback | .echoref | .bufTstamp => dir = TX
  | .sidetone | .datapathParams | .flush => dir = RX
  | _ => True

def AmpCtl.name : AmpCtl info → CString
  | .pcm p k => (p.ctl k).name
  | .be b k => ctlName b.text k.extn

/-- The plugin has made the control. -/
def AmpCtl.Made (be : Backends) : AmpCtl info → Prop
  | .pcm p k => k.Of p.dir
  | .be b _ => b ∈ be.items

/-- The texts of the items, of a control that has items. -/
def AmpCtl.texts (be : Backends) : AmpCtl info → List CString
  | .pcm p .connect | .pcm p .disconnect | .pcm p .mtdControl => (be.devs p.dir).map Item.text
  | .pcm _ .loopback => info.rxPcmDevs.map fun item => shown item.text
  | .pcm _ .echoref => be.rxBeDevs.map Item.text
  | .pcm _ .sidetone => be.txBeDevs.map Item.text
  | _ => []

/-- The write of a value to a control of a PCM; `amp_pcm_tag_info_put`, `amp_pcm_buf_info_put` and
`amp_pcm_buf_tstamp_put` return 0. -/
def PcmCtlName.write : PcmCtlName → CtlValue → Option PcmWrite
  | .connect, .item i => some (.connect i)
  | .disconnect, .item i => some (.disconnect i)
  | .mtdControl, .item i => some (.mtdControl i)
  | .loopback, .item i => some (.loopback i)
  | .echoref, .item i => some (.echoref i)
  | .sidetone, .item i => some (.sidetone i)
  | .metadata, .bytes payload => some (.metadata payload)
  | .setParam, .bytes payload => some (.setParam payload)
  | .setParamTag, .bytes payload => some (.setParamTag payload)
  | .setParamTagAcdb, .bytes payload => some (.setParamTagAcdb payload)
  | .event, .bytes payload => some (.event payload)
  | .setCalibration, .bytes payload => some (.setCalibration payload)
  | .getParam, .bytes payload => some (.getParam payload)
  | .datapathParams, .bytes payload => some (.datapathParams payload)
  | .flush, .integer value => some (.flush (value 0))
  | _, _ => none

/-- `amp_be_media_fmt_put`. -/
def ampBeMediaFmtPut (pval : Nat) (value : Fin 4 → Int) (agm : Int) : Int × Option PutCall :=
  (agm, some (.aifSetMediaConfig pval (uint32 (value 0)) (uint32 (value 1)) (alsaToAgmFmt (uint32 (value 2)))
    (uint32 (value 3))))

/-- `amp_be_metadata_put`. -/
def ampBeMetadataPut (pval : Nat) (payload : List UInt8) (agm : Int) : Int × Option PutCall :=
  if payload = [] then (-EINVAL, none) else (getParamRet agm, some (.aifSetMetadata pval payload))

/-- `amp_be_set_param_put`. -/
def ampBeSetParamPut (pval : Nat) (payload : List UInt8) (agm : Int) : Int × Option PutCall :=
  (agm, some (.aifSetParams pval payload))

/-- What a write does, if AGM returns `agm`. -/
def AmpCtl.put (be : Backends) (m : PcmMtdCtl) (c : AmpCtl info) (v : CtlValue) (agm : Int) : Int × Option PutCall :=
  match c, v with
  | .pcm p k, v =>
    match k.write v with
    | some w =>
      let r := TargetOp.put be m ⟨p, w, agm⟩
      (r.1, r.2.map .pcm)
    | none => (0, none)
  | .be b .mediaConfig, .integer value => ampBeMediaFmtPut b.idx value agm
  | .be b .metadata, .bytes payload => ampBeMetadataPut b.idx payload agm
  | .be b .setParam, .bytes payload => ampBeSetParamPut b.idx payload agm
  | .be _ _, _ => (0, none)

/-- What a write makes of `pcm_mtd_ctl`. -/
def AmpCtl.mtd (m : PcmMtdCtl) (c : AmpCtl info) (v : CtlValue) : PcmMtdCtl :=
  match c with
  | .pcm p k => (k.write v).elim m fun w => TargetOp.mtd m ⟨p, w, 0⟩
  | .be _ _ => m

/-! ## The control plugin of alsa-lib -/

/-- The TLV with a payload. -/
def tlvOf (payload : List UInt8) : Mem := fun i => (le32 0 ++ (le32 payload.length ++ payload)).getD i 0

/-- What AGM is given by a call that a write leads to; a control that only gives the address of the payload gives all of
it. -/
def CtlCall.given (payload : List UInt8) : CtlCall → Option PutCall
  | .setMetadata (.session s) size => some (.pcm (.setMetadata s (payload.take size)))
  | .setMetadata (.sessionAif s aif) size => some (.pcm (.aifSetMetadata s aif (payload.take size)))
  | .setMetadata (.aif aif) size => some (.aifSetMetadata aif (payload.take size))
  | .setParams s none size => some (.pcm (.setParams s (payload.take size)))
  | .setParams s (some aif) size => some (.pcm (.aifSetParams s aif (payload.take size)))
  | .setParamsWithTag s aif => some (.pcm (.setParamsWithTag s aif payload))
  | .registerForEvents s => some (.pcm (.registerForEvents s payload))
  | .setCal s aif => some (.pcm (.setCal s aif payload))
  | .aifConnect s aif state => some (.pcm (.aifConnect s aif state))
  | .setLoopback capture playback state => some (.pcm (.setLoopback capture playback state))
  | .setEcRef s aif state => some (.pcm (.setEcRef s aif state))
  | .setMediaConfig aif rate channels format dataFormat =>
    some (.aifSetMediaConfig aif rate channels format dataFormat)
  | .getParams _ _ | .getBufferTimestamp _ | .getTagModuleInfo _ _ _ | .getBufInfo _ => none

/-- A write of a value; memory is granted. -/
def AgmctlPriv.write (p : AgmctlPriv) (c : AgmMixerControl) : CtlValue → Outcome × AgmctlPriv
  | .integer value => (agmctlWriteInteger c value, p)
  | .bytes payload => agmctlWriteBytes p true c (tlvOf payload)
  | .item i => agmctlWriteEnumerated p c i

def CtlValue.payload : CtlValue → List UInt8
  | .bytes payload => payload
  | _ => []

/-- What the client is returned, and what AGM is given. -/
def AgmctlPriv.put (p : AgmctlPriv) (c : AgmMixerControl) (v : CtlValue) (agm : Int) : Int × Option PutCall :=
  let o := (p.write c v).1
  (o.code agm, match o with
    | .call call _ => call.given v.payload
    | _ => none)

/-! ## The same writes to both -/

/-- A write to a control of the first plugin and to one of the second, with what AGM returns if it is called. -/
structure PairOp (info : PcmInfo) where
  amp : AmpCtl info
  ctl : AgmMixerControl
  ampValue : CtlValue
  value : CtlValue
  agm : Int

/-- The two plugins. -/
structure Pair (info : PcmInfo) where
  mtd : PcmMtdCtl
  priv : AgmctlPriv

def pairExec (s : Pair info) (o : PairOp info) : Pair info :=
  ⟨o.amp.mtd s.mtd o.ampValue, (s.priv.write o.ctl o.value).2⟩

def pairRun (card : SndDevDefCard) (aifList : List AifInfo) (info : PcmInfo) (ops : List (PairOp info)) : Pair info :=
  ops.foldl pairExec ⟨.start info, ampFormMixerControls card aifList⟩

/-- The values are the same: items have the same text, and everything else is equal. -/
def PairOp.SameValue (be : Backends) (p : AgmctlPriv) (o : PairOp info) : Prop :=
  match o.ampValue, o.value with
  | .item i, .item j => ∃ text, (o.amp.texts be)[i]? = some text ∧ agmctlGetEnumeratedName p o.ctl j = some text
  | .integer v, .integer v' => v = v'
  | .bytes payload, .bytes payload' => payload = payload'
  | _, _ => False

/-- The kind of value that a control takes. -/
def CtlId.Takes (id : CtlId) (v : CtlValue) : Prop :=
  match id, v with
  | .connect, .item _ | .disconnect, .item _ | .control, .item _ | .loopback, .item _ | .echoref, .item _ => True
  | .beMediaConfig, .integer _ => True
  | .connect, _ | .disconnect, _ | .control, _ | .loopback, _ | .echoref, _ | .beMediaConfig, _ => False
  | _, .bytes _ => True
  | _, _ => False

/-- Both plugins have a control of this name, and it is written the same value. -/
structure PairOp.Same (be : Backends) (p : AgmctlPriv) (o : PairOp info) : Prop where
  made : o.amp.Made be
  mem : o.ctl ∈ p.controls
  name : o.amp.name = o.ctl.mixerName
  takes : o.ctl.ctlId.Takes o.value
  value : o.SameValue be p

/-- The two plugins call AGM alike, and return the same. -/
def PairOp.Agrees (be : Backends) (s : Pair info) (o : PairOp info) : Prop :=
  o.amp.put be s.mtd o.ampValue o.agm = s.priv.put o.ctl o.value o.agm

/-! ## When they agree -/

/-- The PCM of a control has a back end selected. -/
def Pair.Selected (s : Pair info) (o : PairOp info) : Prop := (agmctlBeIdx s.priv o.ctl).isSome

/-- The condition of a write. -/
def PairOp.Met (s : Pair info) (o : PairOp info) : Prop :=
  let payload := o.value.payload
  match o.ctl.ctlId with
  | .metadata | .beMetadata => payload ≠ [] ∧ payload.length < 256
  | .setParam => payload.length < 256
  | .setParamTag | .setCalibration => s.Selected o
  | .event => payload ≠ []
  | .loopback => o.agm = 0 ∨ o.agm = -EALREADY
  | .getTagInfo | .bufInfo | .bufTstamp | .beSetParam => False
  | _ => True

/-- Every PCM says of both directions whether it has them, and has one. -/
def OneDirection (dev : SndDevDef) : Prop :=
  (sndCardDefGetInt dev "playback".toList = some 1 ∧ sndCardDefGetInt dev "capture".toList = some 0) ∨
    (sndCardDefGetInt dev "playback".toList = some 0 ∧ sndCardDefGetInt dev "capture".toList = some 1)

/-- The condition of a card: its PCMs have one direction, a name and an id of their own; its back ends have a direction, a
name of their own, and none is called `ZERO`; names are short enough to be shown in full; and no two controls of the mixer
plugin have the same name. -/
structure CardGood (card : SndDevDefCard) (aifList : List AifInfo) (info : PcmInfo) : Prop where
  oneDirection : ∀ dev ∈ nodeList card, OneDirection dev
  named : ∀ dev ∈ nodeList card, dev.name.isSome
  ids : ((nodeList card).map SndDevDef.device).Nodup
  plain : info.Plain
  rxTexts : ∀ item ∈ info.rxPcmDevs.drop 1, (shown item.text).length < PCM_NAME_LEN ∧ shown item.text ≠ "ZERO".toList
  aifDir : ∀ a ∈ aifList, a.dir = RX ∨ a.dir = TX
  aifNames : (aifList.map AifInfo.aifName).Nodup
  aifZero : "ZERO".toList ∉ aifList.map AifInfo.aifName
  aifShort : ∀ a ∈ aifList, ∀ k : BeCtlName, ctlName a.aifName k.extn = a.aifName ++ ' ' :: k.extn
  ctlNames : ∀ c c' : AmpCtl info, c.Made (backendsOfAifs aifList) → c'.Made (backendsOfAifs aifList) →
    c.name = c'.name → c = c'

/-! ## The PCMs of a card -/

/-- The name of the property that says whether a PCM has a direction. -/
def dirProp (dir : Nat) : CString := if dir = RX then "playback".toList else "capture".toList

def nodeItem (dev : SndDevDef) : PcmItem := ⟨dev.name, dev.device⟩

theorem hasDir_eq {dev : SndDevDef} {dir : CString} {val : Int} (h : sndCardDefGetInt dev dir = some val) :
    hasDir dir dev = decide (val = 1) := by
  rw [hasDir, h, Option.getD_some]

/-- Where every device has the property, none inherits that of the device before it. -/
theorem pcmItems_eq {dir : CString} {devs : List SndDevDef}
    (h : ∀ dev ∈ devs, sndCardDefGetInt dev dir = some 1 ∨ sndCardDefGetInt dev dir = some 0) (val : Int) :
    pcmItems dir val devs = (devs.filter (hasDir dir)).map nodeItem := by
  induction devs generalizing val with
  | nil => rfl
  | cons dev devs ih =>
    have hrest := ih fun d hd => h d (List.mem_cons_of_mem _ hd)
    rcases h dev List.mem_cons_self with hdev | hdev
    · have hhas : hasDir dir dev = true := hasDir_eq hdev
      rw [pcmItems, hdev, Option.getD_some, if_neg (by decide), hrest, List.filter_cons_of_pos hhas, List.map_cons]
      rfl
    · have hhas : ¬ hasDir dir dev = true := by
        rw [hasDir_eq hdev]
        decide
      rw [pcmItems, hdev, Option.getD_some, if_pos rfl, hrest, List.filter_cons_of_neg hhas]

section

variable {card : SndDevDefCard} {aifList : List AifInfo} (hinfo : ampGetPcmInfo card = some (.ok info))
  (good : CardGood card aifList info)

include hinfo good

theorem devs_eq {dir : Nat} (hdir : dir = RX ∨ dir = TX) : info.devs dir =
    ⟨some "ZERO".toList, 0⟩ :: ((nodeList card).filter (hasDir (dirProp dir))).map nodeItem := by
  have hprop : ∀ prop ∈ ["playback".toList, "capture".toList], ∀ dev ∈ nodeList card,
      sndCardDefGetInt dev prop = some 1 ∨ sndCardDefGetInt dev prop = some 0 := by
    simp only [List.forall_mem_cons]
    refine ⟨fun dev hdev => ?_, fun dev hdev => ?_, fun _ h => absurd h List.not_mem_nil⟩
    · rcases good.oneDirection dev hdev with h | h
      · exact .inl h.1
      · exact .inr h.1
    · rcases good.oneDirection dev hdev with h | h
      · exact .inr h.2
      · exact .inl h.2
  have hlists : info = ⟨ampCreatePcmInfoFromCard "playback".toList (nodeList card),
      ampCreatePcmInfoFromCard "capture".toList (nodeList card)⟩ := by
    unfold ampGetPcmInfo at hinfo
    dsimp only at hinfo
    split at hinfo
    · cases Option.some.inj hinfo
    · split at hinfo
      · exact (Except.ok.inj (Option.some.inj hinfo)).symm
      · cases hinfo
  rcases hdir with rfl | rfl
  · rw [hlists]
    exact congrArg (List.cons _) (pcmItems_eq (hprop _ (by simp)) 0)
  · rw [hlists]
    exact congrArg (List.cons _) (pcmItems_eq (hprop _ (by simp)) 0)

/-- A device is a PCM of its direction. -/
theorem exists_ampPcm {dev : SndDevDef} (hdev : dev ∈ nodeList card) {dir : Nat} (hdir : dir = RX ∨ dir = TX)
    (hhas : hasDir (dirProp dir) dev) : ∃ p : AmpPcm info, p.dir = dir ∧ p.item = nodeItem dev := by
  have heq := devs_eq hinfo good hdir
  have hmem : nodeItem dev ∈ ((nodeList card).filter (hasDir (dirProp dir))).map nodeItem :=
    List.mem_map_of_mem (List.mem_filter.2 ⟨hdev, hhas⟩)
  obtain ⟨k, hk, hget⟩ := List.mem_iff_getElem.1 hmem
  have hitem : (info.devs dir)[k + 1]? = some (nodeItem dev) := by
    rw [heq, List.getElem?_cons_succ, List.getElem?_eq_getElem hk, hget]
  have hlt : k + 1 < (info.devs dir).length := (List.getElem?_eq_some_iff.1 hitem).1
  refine ⟨⟨dir, k + 1, hdir, by omega, hlt⟩, rfl, ?_⟩
  exact (List.getElem?_eq_some_iff.1 hitem).2

/-- A PCM is a device of its direction. -/
theorem exists_node (p : AmpPcm info) :
    ∃ dev ∈ nodeList card, hasDir (dirProp p.dir) dev ∧ p.item = nodeItem dev := by
  have hmem := p.item_mem
  rw [devs_eq hinfo good p.dir_eq, List.drop_succ_cons, List.drop_zero] at hmem
  obtain ⟨dev, hdev, hitem⟩ := List.mem_map.1 hmem
  obtain ⟨hnode, hhas⟩ := List.mem_filter.1 hdev
  exact ⟨dev, hnode, hhas, hitem.symm⟩

omit hinfo in
/-- No device has both directions. -/
theorem dir_eq_of_hasDir {dev : SndDevDef} (hdev : dev ∈ nodeList card) {dir dir' : Nat} (hdir : dir = RX ∨ dir = TX)
    (hdir' : dir' = RX ∨ dir' = TX) (h : hasDir (dirProp dir) dev) (h' : hasDir (dirProp dir') dev) : dir = dir' := by
  have hone : ¬ (hasDir "playback".toList dev ∧ hasDir "capture".toList dev) := by
    rintro ⟨hp, hc⟩
    rcases good.oneDirection dev hdev with h | h
    · rw [hasDir_eq h.2] at hc
      exact absurd hc (by decide)
    · rw [hasDir_eq h.1] at hp
      exact absurd hp (by decide)
  rcases hdir with rfl | rfl <;> rcases hdir' with rfl | rfl
  · rfl
  · exact absurd ⟨h, h'⟩ hone
  · exact absurd ⟨h', h⟩ hone
  · rfl

/-- Different PCMs are different sessions. -/
theorem session_inj {p q : AmpPcm info} (h : p.session = q.session) : p = q := by
  obtain ⟨d, hd, hhas, hp⟩ := exists_node hinfo good p
  obtain ⟨e, he, hhas', hq⟩ := exists_node hinfo good q
  have hdevice : d.device = e.device := by
    have hp' := congrArg PcmItem.idx hp
    have hq' := congrArg PcmItem.idx hq
    exact hp'.symm.trans (h.trans hq')
  obtain rfl : d = e := List.inj_on_of_nodup_map good.ids hd he hdevice
  have hdir := dir_eq_of_hasDir good hd p.dir_eq q.dir_eq hhas hhas'
  have hplace (r : AmpPcm info) : ((info.devs r.dir).drop 1)[r.idx - 1]? = some r.item := by
    rw [List.getElem?_drop, Nat.add_sub_cancel' r.one_le]
    exact List.getElem?_eq_getElem r.lt
  have hfirst := findIdx?_of_nodup (good.plain.nodup p.dir) (hplace p)
  have hsecond := findIdx?_of_nodup (good.plain.nodup q.dir) (hplace q)
  rw [hp] at hfirst
  rw [hq, ← hdir] at hsecond
  have hidx := Option.some.inj (hfirst.symm.trans hsecond)
  have := p.one_le
  have := q.one_le
  obtain ⟨_, i, _, _, _⟩ := p
  obtain ⟨_, j, _, _, _⟩ := q
  obtain rfl := hdir
  obtain rfl : i = j := by
    dsimp only at hidx
    omega
  rfl

end

/-! ## The controls -/

/-- The control of the mixer plugin for a control of the other. -/
def CtlId.pcmCtl : CtlId → Option PcmCtlName
  | .metadata => some .metadata
  | .setParam => some .setParam
  | .setParamTag => some .setParamTag
  | .connect => some .connect
  | .disconnect => some .disconnect
  | .control => some .mtdControl
  | .getTagInfo => some .getTagInfo
  | .event => some .event
  | .setCalibration => some .setCalibration
  | .getParam => some .getParam
  | .bufInfo => some .bufInfo
  | .loopback => some .loopback
  | .echoref => some .echoref
  | .bufTstamp => some .bufTstamp
  | _ => none

def CtlId.beCtl : CtlId → Option BeCtlName
  | .beMediaConfig => some .mediaConfig
  | .beMetadata => some .metadata
  | .beSetParam => some .setParam
  | _ => none

theorem CtlId.extn_pcmCtl {id : CtlId} {k : PcmCtlName} (h : id.pcmCtl = some k) : id.extn = k.extn := by
  cases id <;> first | (obtain rfl := Option.some.inj h; rfl) | cases h

theorem CtlId.extn_beCtl {id : CtlId} {k : BeCtlName} (h : id.beCtl = some k) : id.extn = k.extn := by
  cases id <;> first | (obtain rfl := Option.some.inj h; rfl) | cases h

/-- A name that the mixer plugin shows in full is shown in full by the other too. -/
theorem mixerName_eq {name extn : CString} (h : ctlName name extn = name ++ ' ' :: extn) :
    bounded MIXER_NAME_LEN (name ++ ' ' :: extn) = name ++ ' ' :: extn := by
  have hlen := (bounded_eq_self_iff (by decide)).1 h
  exact (bounded_eq_self_iff (by decide)).2 (hlen.trans (by decide))

section

variable {card : SndDevDefCard} {aifList : List AifInfo} (hinfo : ampGetPcmInfo card = some (.ok info))
  (good : CardGood card aifList info)

include hinfo good

/-- A control of a PCM has its counterpart in the mixer plugin. -/
theorem exists_pcm_ctl {dev : SndDevDef} (hdev : dev ∈ nodeList card) {ids : List CtlId} {ctl : AgmMixerControl}
    (hctl : ctl ∈ agmctlFormPcmControls ids dev)
    (hids : ∀ id ∈ ids, ∃ k, id.pcmCtl = some k ∧ ∀ dir, (dir = RX ∨ dir = TX) → hasDir (dirProp dir) dev → k.Of dir) :
    ∃ p k, (AmpCtl.pcm p k : AmpCtl info).Made (backendsOfAifs aifList) ∧
      (AmpCtl.pcm p k).name = ctl.mixerName ∧ ctl.pcmBeId = p.session ∧ ctl.ctlId.pcmCtl = some k := by
  obtain ⟨name, hname⟩ := Option.isSome_iff_exists.1 (good.named dev hdev)
  simp only [agmctlFormPcmControls, hname, List.mem_map] at hctl
  obtain ⟨id, hid, rfl⟩ := hctl
  obtain ⟨k, hk, hof⟩ := hids id hid
  obtain ⟨dir, hdir, hhas⟩ : ∃ dir, (dir = RX ∨ dir = TX) ∧ hasDir (dirProp dir) dev := by
    rcases good.oneDirection dev hdev with h | h
    · exact ⟨RX, .inl rfl, hasDir_eq h.1⟩
    · exact ⟨TX, .inr rfl, hasDir_eq h.2⟩
  obtain ⟨p, rfl, hitem⟩ := exists_ampPcm hinfo good hdev hdir hhas
  have htext : shown p.item.text = name := by rw [hitem, nodeItem, hname]; rfl
  have hshort := good.plain.short p.item p.item_mem_items k
  rw [htext] at hshort
  refine ⟨p, k, hof p.dir hdir hhas, ?_, (congrArg PcmItem.idx hitem).symm, hk⟩
  show ctlName (shown p.item.text) k.extn = bounded MIXER_NAME_LEN (name ++ ' ' :: id.extn)
  rw [htext, CtlId.extn_pcmCtl hk, hshort, mixerName_eq hshort]

omit hinfo in
/-- So has a control of a back end. -/
theorem exists_be_ctl {aif : AifInfo} {beIdx : Nat} (haif : aifList[beIdx]? = some aif) {ctl : AgmMixerControl}
    (hctl : ctl ∈ agmctlFormBeControls aif beIdx) :
    ∃ b k, (AmpCtl.be b k : AmpCtl info).Made (backendsOfAifs aifList) ∧
      (AmpCtl.be b k : AmpCtl info).name = ctl.mixerName ∧ ctl.pcmBeId = b.idx ∧ ctl.ctlId.beCtl = some k := by
  obtain ⟨id, hid, rfl⟩ := List.mem_map.1 hctl
  obtain ⟨k, hk⟩ : ∃ k, id.beCtl = some k := by
    simp only [agmBeCtls, List.mem_cons, List.not_mem_nil, or_false] at hid
    rcases hid with rfl | rfl | rfl <;> exact ⟨_, rfl⟩
  have hmem := List.mem_of_getElem? haif
  have hitem {dir : Nat} (hd : aif.dir = dir) :
      (⟨aif.aifName, beIdx⟩ : Item) ∈ (ampCopyBeNamesFromAifList aifList dir).drop 1 :=
    List.mem_map.2 ⟨(aif, beIdx), List.mem_filter.2 ⟨List.mem_zipIdx_iff_getElem?.2 haif, decide_eq_true hd⟩, rfl⟩
  have hshort := good.aifShort aif hmem k
  refine ⟨⟨aif.aifName, beIdx⟩, k, ?_, ?_, rfl, hk⟩
  · rcases good.aifDir aif hmem with hd | hd
    · exact List.mem_append_left _ (hitem hd)
    · exact List.mem_append_right _ (hitem hd)
  · show ctlName aif.aifName k.extn = bounded MIXER_NAME_LEN (aif.aifName ++ ' ' :: id.extn)
    rw [CtlId.extn_beCtl hk, hshort, mixerName_eq hshort]

/-- Controls of the same name are for the same PCM or back end, and of the same kind. -/
theorem matched {amp : AmpCtl info} {ctl : AgmMixerControl} (hmade : amp.Made (backendsOfAifs aifList))
    (hmem : ctl ∈ (ampFormMixerControls card aifList).controls) (hname : amp.name = ctl.mixerName) :
    (∃ p k, amp = .pcm p k ∧ ctl.pcmBeId = p.session ∧ ctl.ctlId.pcmCtl = some k) ∨
      ∃ b k, amp = .be b k ∧ ctl.pcmBeId = b.idx ∧ ctl.ctlId.beCtl = some k := by
  have hpcm : (∃ p k, (AmpCtl.pcm p k : AmpCtl info).Made (backendsOfAifs aifList) ∧
      (AmpCtl.pcm p k).name = ctl.mixerName ∧ ctl.pcmBeId = p.session ∧ ctl.ctlId.pcmCtl = some k) →
      ∃ p k, amp = .pcm p k ∧ ctl.pcmBeId = p.session ∧ ctl.ctlId.pcmCtl = some k := by
    rintro ⟨p, k, hmade', hname', hrest⟩
    exact ⟨p, k, good.ctlNames _ _ hmade hmade' (hname.trans hname'.symm), hrest⟩
  rcases List.mem_append.1 hmem with hmem | hmem
  · obtain ⟨dev, hdev, hctl⟩ := List.mem_flatMap.1 hmem
    refine .inl (hpcm ?_)
    rcases List.mem_append.1 hctl with hctl | hctl
    · refine exists_pcm_ctl hinfo good hdev hctl fun id hid => ?_
      simp only [agmFeCtls, List.mem_cons, List.not_mem_nil, or_false] at hid
      rcases hid with rfl | rfl | rfl | rfl | rfl | rfl | rfl | rfl | rfl | rfl | rfl <;>
        exact ⟨_, rfl, fun _ _ _ => trivial⟩
    · split at hctl
      · next hcapture =>
        have hof : ∀ dir, (dir = RX ∨ dir = TX) → hasDir (dirProp dir) dev → dir = TX := fun dir hdir hhas =>
          dir_eq_of_hasDir good hdev hdir (.inr rfl) hhas hcapture
        refine exists_pcm_ctl hinfo good hdev hctl fun id hid => ?_
        simp only [agmTxCtls, List.mem_cons, List.not_mem_nil, or_false] at hid
        rcases hid with rfl | rfl | rfl <;> exact ⟨_, rfl, hof⟩
      · exact absurd hctl List.not_mem_nil
  · obtain ⟨a, ha, hctl⟩ := List.mem_flatMap.1 hmem
    obtain ⟨b, k, hmade', hname', hrest⟩ := exists_be_ctl good (List.mem_zipIdx_iff_getElem?.1 ha) hctl
    exact .inr ⟨b, k, good.ctlNames _ _ hmade hmade' (hname.trans hname'.symm), hrest⟩

end

/-! ## What is selected -/

/-- The item of `control` in the second plugin that stands for an item of the first. -/
def aifItem (be : Backends) (dir v : Nat) : Nat := if v = 0 then 0 else be.idxArr dir v + 1

/-- The same is selected for every PCM. -/
structure Pair.Together (card : SndDevDefCard) (aifList : List AifInfo) (s : Pair info) : Prop where
  aifs : s.priv.aifList = aifList
  rx : s.priv.rxPcmId = (ampFormMixerControls card aifList).rxPcmId
  ids : s.priv.pcmIdx = (nodeList card).map SndDevDef.device
  length : s.priv.pcmMtdCtl.length = (nodeList card).length
  same : ∀ p : AmpPcm info, ∃ v, (s.mtd.of p.dir)[p.idx]? = some v ∧
    v < ((backendsOfAifs aifList).devs p.dir).length ∧
    agmctlPcmGetControlValue s.priv p.session = (aifItem (backendsOfAifs aifList) p.dir v : Nat)

section

variable {card : SndDevDefCard} {aifList : List AifInfo} (hinfo : ampGetPcmInfo card = some (.ok info))
  (good : CardGood card aifList info)

include hinfo good

/-- Where the second plugin has a PCM. -/
theorem exists_place (p : AmpPcm info) : ∃ n < (nodeList card).length,
    ((nodeList card).map SndDevDef.device)[n]? = some p.session ∧
      (((nodeList card).map SndDevDef.device).findIdx? fun id => id = p.session) = some n := by
  obtain ⟨dev, hdev, -, hitem⟩ := exists_node hinfo good p
  have hsession : p.session = dev.device := congrArg PcmItem.idx hitem
  have hmem : p.session ∈ (nodeList card).map SndDevDef.device := by
    rw [hsession]
    exact List.mem_map_of_mem hdev
  obtain ⟨n, hn, hget⟩ := List.mem_iff_getElem.1 hmem
  have hplace : ((nodeList card).map SndDevDef.device)[n]? = some p.session := by
    rw [List.getElem?_eq_getElem hn, hget]
  have hnodup : (((nodeList card).map SndDevDef.device).map id).Nodup := by
    rw [List.map_id]
    exact good.ids
  refine ⟨n, by simpa using hn, hplace, ?_⟩
  have hfind := findIdx?_of_nodup hnodup hplace
  simpa only [id, eq_comm] using hfind

theorem controlValue_of_place {p : AmpPcm info} {n : Nat} (hn : ((nodeList card).map SndDevDef.device)[n]? = some p.session)
    {priv : AgmctlPriv} (hidx : priv.pcmIdx = (nodeList card).map SndDevDef.device) :
    agmctlPcmGetControlValue priv p.session = (priv.pcmMtdCtl.getD n 0 : Nat) := by
  obtain ⟨k, -, hk, hfind⟩ := exists_place hinfo good p
  obtain rfl : n = k := by
    refine (List.getElem?_inj ?_ good.ids).1 (hn.trans hk.symm)
    exact (List.getElem?_eq_some_iff.1 hn).1
  rw [agmctlPcmGetControlValue, hidx, hfind]

theorem together_start :
    Pair.Together card aifList (⟨.start info, ampFormMixerControls card aifList⟩ : Pair info) := by
  refine ⟨rfl, rfl, rfl, List.length_map _, fun p => ⟨0, ?_, ?_, ?_⟩⟩
  · have hlt := p.lt
    show ((PcmMtdCtl.start info).of p.dir)[p.idx]? = some 0
    rcases p.dir_eq with hdir | hdir
    all_goals
      rw [hdir] at hlt ⊢
      exact List.getElem?_replicate_of_lt hlt
  · rw [devs_backendsOfAifs aifList p.dir_eq]
    exact Nat.succ_pos _
  · obtain ⟨n, hlt, hn, -⟩ := exists_place hinfo good p
    rw [controlValue_of_place hinfo good hn rfl]
    show ((((nodeList card).map fun _ => 0).getD n 0 : Nat) : Int) = _
    rw [List.getD_eq_getElem?_getD, List.getElem?_map, List.getElem?_eq_getElem hlt]
    rfl

variable {s : Pair info} (h : s.Together card aifList)

include h

omit hinfo good in
/-- A write that leaves what is selected. -/
theorem together_quiet {priv : AgmctlPriv} (haif : priv.aifList = s.priv.aifList) (hrx : priv.rxPcmId = s.priv.rxPcmId)
    (hidx : priv.pcmIdx = s.priv.pcmIdx) (hmtd : priv.pcmMtdCtl = s.priv.pcmMtdCtl) :
    Pair.Together card aifList (⟨s.mtd, priv⟩ : Pair info) := by
  refine ⟨haif.trans h.aifs, hrx.trans h.rx, hidx.trans h.ids, ?_, fun p => ?_⟩
  · show priv.pcmMtdCtl.length = _
    rw [hmtd, h.length]
  · obtain ⟨v, hv, hlt, hval⟩ := h.same p
    refine ⟨v, hv, hlt, ?_⟩
    rw [← hval]
    show agmctlPcmGetControlValue priv p.session = _
    unfold agmctlPcmGetControlValue
    rw [hidx, hmtd]

/-- A write to a `control`. -/
theorem together_select {p : AmpPcm info} {i : Nat} (hi : i < ((backendsOfAifs aifList).devs p.dir).length)
    {ctl : AgmMixerControl} (hctl : ctl.pcmBeId = p.session)
    (hle : aifItem (backendsOfAifs aifList) p.dir i ≤ aifList.length) :
    Pair.Together card aifList (⟨s.mtd.set p.dir p.idx i,
        (agmctlPcmControlPut s.priv ctl (aifItem (backendsOfAifs aifList) p.dir i)).2⟩ : Pair info) ∧
      (agmctlPcmControlPut s.priv ctl (aifItem (backendsOfAifs aifList) p.dir i)).1 = .ret 0 := by
  obtain ⟨n, hlt, hn, hfind⟩ := exists_place hinfo good p
  have hput : agmctlPcmControlPut s.priv ctl (aifItem (backendsOfAifs aifList) p.dir i) =
      (.ret 0, { s.priv with pcmMtdCtl := s.priv.pcmMtdCtl.set n (aifItem (backendsOfAifs aifList) p.dir i) }) := by
    have hno : ¬ aifItem (backendsOfAifs aifList) p.dir i > s.priv.aifList.length := by
      rw [h.aifs]
      omega
    have hplace : (s.priv.pcmIdx.findIdx? fun id => id = ctl.pcmBeId) = some n := by
      rw [h.ids, hctl]
      exact hfind
    unfold agmctlPcmControlPut
    rw [if_neg hno, hplace]
  rw [hput]
  refine ⟨⟨h.aifs, h.rx, h.ids, ?_, fun q => ?_⟩, rfl⟩
  · show (s.priv.pcmMtdCtl.set n _).length = _
    rw [List.length_set, h.length]
  obtain ⟨w, hw, hwlt, hwval⟩ := h.same q
  obtain ⟨m, hmlt, hm, -⟩ := exists_place hinfo good q
  let priv : AgmctlPriv := { s.priv with
    pcmMtdCtl := s.priv.pcmMtdCtl.set n (aifItem (backendsOfAifs aifList) p.dir i) }
  have hids : priv.pcmIdx = (nodeList card).map SndDevDef.device := h.ids
  have hval := controlValue_of_place hinfo good hm hids
  have hold := controlValue_of_place hinfo good hm h.ids
  rw [hwval] at hold
  by_cases hpq : p = q
  · subst hpq
    obtain rfl : n = m := (List.getElem?_inj (List.getElem?_eq_some_iff.1 hn).1 good.ids).1 (hn.trans hm.symm)
    refine ⟨i, ?_, hi, ?_⟩
    · show ((s.mtd.set p.dir p.idx i).of p.dir)[p.idx]? = some i
      rw [PcmMtdCtl.of_set, if_pos rfl, List.getElem?_set_self (List.getElem?_eq_some_iff.1 hw).1]
    · rw [hval]
      show (((s.priv.pcmMtdCtl.set n _).getD n 0 : Nat) : Int) = _
      rw [List.getD_eq_getElem?_getD, List.getElem?_set_self (by rw [h.length]; exact hlt), Option.getD_some]
  · have hne : n ≠ m := by
      rintro rfl
      exact hpq (session_inj hinfo good (Option.some.inj (hn.symm.trans hm)))
    refine ⟨w, ?_, hwlt, ?_⟩
    · show ((s.mtd.set p.dir p.idx i).of q.dir)[q.idx]? = some w
      rw [PcmMtdCtl.of_set]
      by_cases hdir : p.dir = q.dir
      · have hidx : p.idx ≠ q.idx := by
          intro hidx
          refine hpq ?_
          cases p
          cases q
          subst hdir hidx
          rfl
        rw [if_pos hdir, List.getElem?_set_ne hidx, hdir]
        exact hw
      · rw [if_neg hdir]
        exact hw
    · rw [hval, hold]
      show (((s.priv.pcmMtdCtl.set n _).getD m 0 : Nat) : Int) = _
      rw [List.getD_eq_getElem?_getD, List.getElem?_set_ne hne, ← List.getD_eq_getElem?_getD]

omit hinfo in
/-- What the controls of a PCM find selected. -/
theorem exists_selected (p : AmpPcm info) : ∃ v,
    ampPcmGetControlValue info s.mtd p.item.idx p.dir = .ok v ∧
      v < ((backendsOfAifs aifList).devs p.dir).length ∧
      ∀ name id, agmctlBeIdx s.priv ⟨name, p.session, id⟩ =
        if v = 0 then none else some ((backendsOfAifs aifList).idxArr p.dir v) := by
  obtain ⟨v, hv, hlt, hval⟩ := h.same p
  refine ⟨v, ?_, hlt, fun name id => ?_⟩
  · have hvalue := ampPcmGetControlValue_eq good.plain s.mtd p
    rwa [List.getD_eq_getElem?_getD, hv, Option.getD_some] at hvalue
  · unfold agmctlBeIdx
    dsimp only
    rw [hval, aifItem]
    split
    · rfl
    · rw [if_pos (by omega)]
      congr 1
      omega

end

/-! ## Items -/

section

variable {card : SndDevDefCard} {aifList : List AifInfo} (good : CardGood card aifList info)

include good

/-- An item of the mixer plugin with the text of an item of the other, `ZERO` or a back end. -/
theorem zeroOrAif_same {dir : Nat} (hdir : dir = RX ∨ dir = TX) {i j : Nat} {text : CString}
    (hi : (((backendsOfAifs aifList).devs dir).map Item.text)[i]? = some text) {priv : AgmctlPriv}
    (haif : priv.aifList = aifList) (hj : zeroOrAif priv j = some text) :
    j = aifItem (backendsOfAifs aifList) dir i := by
  have hzero {a : AifInfo} {n : Nat} (ha : aifList[n]? = some a) : a.aifName ≠ "ZERO".toList := fun heq =>
    good.aifZero (heq ▸ List.mem_map_of_mem (List.mem_of_getElem? ha))
  unfold zeroOrAif at hj
  rw [haif] at hj
  rw [devs_backendsOfAifs aifList hdir, ampCopyBeNamesFromAifList, List.map_cons] at hi
  cases i with
  | zero =>
    obtain rfl := Option.some.inj hi
    split at hj
    · next hj0 => rw [hj0, aifItem, if_pos rfl]
    · obtain ⟨a, ha, htext⟩ := Option.map_eq_some_iff.1 hj
      exact absurd htext (hzero ha)
  | succ i =>
    rw [List.getElem?_cons_succ, List.map_map, List.getElem?_map] at hi
    obtain ⟨⟨a, k⟩, hget, rfl⟩ := Option.map_eq_some_iff.1 hi
    have ha : aifList[k]? = some a :=
      List.mem_zipIdx_iff_getElem?.1 (List.mem_filter.1 (List.mem_of_getElem? hget)).1
    have hidx : (backendsOfAifs aifList).idxArr dir (i + 1) = k := by
      rw [Backends.idxArr, devs_backendsOfAifs aifList hdir, ampCopyBeNamesFromAifList, List.map_cons,
        List.getD_cons_succ, List.map_map, List.getD_eq_getElem?_getD, List.getElem?_map, hget]
      rfl
    rw [aifItem, if_neg (Nat.succ_ne_zero i), hidx]
    split at hj
    · exact absurd (Option.some.inj hj).symm (hzero ha)
    · have hk : (aifList.map AifInfo.aifName)[k]? = some a.aifName := by rw [List.getElem?_map, ha]; rfl
      have hsame : j - 1 = k := by
        rw [← List.getElem?_map] at hj
        exact (List.getElem?_inj (List.getElem?_eq_some_iff.1 hj).1 good.aifNames).1 (hj.trans hk.symm)
      omega

/-- An item with the text of a back end. -/
theorem aif_same {dir : Nat} (hdir : dir = RX ∨ dir = TX) {i j : Nat} {text : CString}
    (hi : (((backendsOfAifs aifList).devs dir).map Item.text)[i]? = some text) {priv : AgmctlPriv}
    (haif : priv.aifList = aifList) (hj : priv.aifList[j]?.map AifInfo.aifName = some text) :
    i ≠ 0 ∧ (backendsOfAifs aifList).idxArr dir i = j := by
  have hsame := zeroOrAif_same good hdir hi haif (j := j + 1) hj
  unfold aifItem at hsame
  split at hsame
  · omega
  · next hne => exact ⟨hne, by omega⟩

end

theorem filterMap_named {devs : List SndDevDef} (h : ∀ dev ∈ devs, dev.name.isSome) :
    (devs.filterMap fun dev => dev.name.map fun name => (name, dev.device)) =
      devs.map fun dev => (shown dev.name, dev.device) := by
  induction devs with
  | nil => rfl
  | cons dev devs ih =>
    obtain ⟨name, hname⟩ := Option.isSome_iff_exists.1 (h dev List.mem_cons_self)
    rw [List.filterMap_cons, ih fun d hd => h d (List.mem_cons_of_mem _ hd), List.map_cons, hname]
    rfl

/-- The arrays of the RX PCMs, where all are named. -/
theorem rxArrays_named {card : SndDevDefCard} (h : ∀ dev ∈ nodeList card, dev.name.isSome) (aifList : List AifInfo) :
    (ampFormMixerControls card aifList).rxPcmId =
        ((nodeList card).filter (hasDir "playback".toList)).map SndDevDef.device ∧
      (ampFormMixerControls card aifList).rxNames = ((nodeList card).filter (hasDir "playback".toList)).map
        fun dev => bounded PCM_NAME_LEN (shown dev.name) := by
  have hnamed := filterMap_named fun dev (hdev : dev ∈ (nodeList card).filter (hasDir "playback".toList)) =>
    h dev (List.mem_filter.1 hdev).1
  refine ⟨?_, ?_⟩
  · show (List.filterMap _ _).map Prod.snd = _
    rw [hnamed, List.map_map]
    rfl
  · show (List.filterMap _ _).map _ = _
    rw [hnamed, List.map_map]
    rfl

section

variable {card : SndDevDefCard} {aifList : List AifInfo} (hinfo : ampGetPcmInfo card = some (.ok info))
  (good : CardGood card aifList info)

include hinfo good

/-- An item of the mixer plugin with the text of an item of the other, `ZERO` or a playback. -/
theorem rx_same {i j : Nat} {text name : CString} {session : Nat}
    (hi : (info.rxPcmDevs.map fun item => shown item.text)[i]? = some text)
    (hj : agmctlGetEnumeratedName (ampFormMixerControls card aifList) ⟨name, session, .loopback⟩ j = some text) :
    (i = 0 ↔ j = 0) ∧ (i ≠ 0 → (info.rxPcmDevs.map PcmItem.idx).getD i 0 =
      (ampFormMixerControls card aifList).rxPcmId.getD (j - 1) 0) := by
  let rx := (nodeList card).filter (hasDir "playback".toList)
  have hrx : info.rxPcmDevs = ⟨some "ZERO".toList, 0⟩ :: rx.map nodeItem := devs_eq hinfo good (.inl rfl)
  obtain ⟨hids, hnames⟩ : _ = rx.map SndDevDef.device ∧ _ = rx.map fun dev => bounded PCM_NAME_LEN (shown dev.name) :=
    rxArrays_named good.named aifList
  have htext {dev : SndDevDef} (hdev : dev ∈ rx) :
      bounded PCM_NAME_LEN (shown dev.name) = shown dev.name ∧ shown dev.name ≠ "ZERO".toList := by
    have hitem : nodeItem dev ∈ info.rxPcmDevs.drop 1 := by
      rw [hrx]
      exact List.mem_map_of_mem hdev
    obtain ⟨hlen, hne⟩ := good.rxTexts _ hitem
    exact ⟨(bounded_eq_self_iff (by decide)).2 hlen, hne⟩
  have hpcm {dev : SndDevDef} (hdev : dev ∈ rx) : ∃ p : AmpPcm info, p.dir = RX ∧ p.item = nodeItem dev :=
    exists_ampPcm hinfo good (List.mem_filter.1 hdev).1 (.inl rfl) (List.mem_filter.1 hdev).2
  -- a playback is known by its name
  have hsame {d e : SndDevDef} (hd : d ∈ rx) (he : e ∈ rx) (hde : shown d.name = shown e.name) : d.device = e.device := by
    obtain ⟨p, -, hp⟩ := hpcm hd
    obtain ⟨q, -, hq⟩ := hpcm he
    have hname : (AmpCtl.pcm p .connect).name = (AmpCtl.pcm q .connect).name := by
      show ctlName (shown p.item.text) _ = ctlName (shown q.item.text) _
      rw [hp, hq]
      exact congrArg (ctlName · _) hde
    obtain ⟨rfl, -⟩ := AmpCtl.pcm.inj (good.ctlNames (.pcm p .connect) (.pcm q .connect) trivial trivial hname)
    exact congrArg PcmItem.idx (hp.symm.trans hq)
  unfold agmctlGetEnumeratedName at hj
  dsimp only at hj
  rw [hnames] at hj
  rw [hrx, List.map_cons] at hi
  rw [hids, hrx, List.map_cons]
  split at hj
  · cases hj
  next hlt =>
  have hlt : ¬ j ≥ rx.length := hlt
  split at hj
  · next hzero =>
    subst hzero
    cases i with
    | zero => exact ⟨Iff.rfl, fun h => absurd rfl h⟩
    | succ i =>
      rw [List.getElem?_cons_succ, List.map_map, List.getElem?_map] at hi
      obtain ⟨dev, hdev, htext'⟩ := Option.map_eq_some_iff.1 hi
      exact absurd (htext'.trans (Option.some.inj hj).symm) (htext (List.mem_of_getElem? hdev)).2
  · next hne =>
    have hj' : (rx.map fun dev => bounded PCM_NAME_LEN (shown dev.name))[j - 1]? = some text := by
      rw [List.getD_eq_getElem?_getD] at hj
      rw [List.getElem?_eq_getElem (by rw [List.length_map]; omega)] at hj ⊢
      exact hj
    rw [List.getElem?_map] at hj'
    obtain ⟨e, he, rfl⟩ := Option.map_eq_some_iff.1 hj'
    have hemem := List.mem_of_getElem? he
    rw [(htext hemem).1] at hi
    cases i with
    | zero => exact absurd (Option.some.inj hi).symm (htext hemem).2
    | succ i =>
      rw [List.getElem?_cons_succ, List.map_map, List.getElem?_map] at hi
      obtain ⟨d, hd, hde⟩ := Option.map_eq_some_iff.1 hi
      refine ⟨iff_of_false (Nat.succ_ne_zero i) hne, fun _ => ?_⟩
      rw [List.getD_cons_succ, List.map_map, List.getD_eq_getElem?_getD, List.getD_eq_getElem?_getD, List.getElem?_map,
        List.getElem?_map, hd, he]
      exact hsame (List.mem_of_getElem? hd) hemem hde

end

/-! ## One write -/

theorem tlvLen_tlvOf (payload : List UInt8) : tlvLen (tlvOf payload) = payload.length % 256 := by
  show (UInt8.ofNat payload.length).toNat = _
  rw [UInt8.toNat_ofNat']

theorem take_tlvLen_iff (payload : List UInt8) :
    payload = payload.take (tlvLen (tlvOf payload)) ↔ payload.length < 256 := by
  rw [tlvLen_tlvOf, eq_comm, List.take_eq_self_iff]
  omega

theorem getParamRet_eq_zero_iff (agm : Int) : 0 = getParamRet agm ↔ agm = 0 ∨ agm = -EALREADY := by
  unfold getParamRet
  split
  · next h => simp [h]
  · next h => simp [h, eq_comm]

section

variable {card : SndDevDefCard} {aifList : List AifInfo} (hinfo : ampGetPcmInfo card = some (.ok info))
  (good : CardGood card aifList info) {s : Pair info} (h : s.Together card aifList) (p : AmpPcm info) (name : CString)
  (agm : Int)

include good h

theorem agrees_metadata (payload : List UInt8) :
    (PairOp.mk (.pcm p .metadata) ⟨name, p.session, .metadata⟩ (.bytes payload) (.bytes payload) agm).Agrees
      (backendsOfAifs aifList) s ↔ payload ≠ [] ∧ payload.length < 256 := by
  obtain ⟨v, hv, -, hbe⟩ := exists_selected good h p
  have hamp : (AmpCtl.pcm p .metadata).put (backendsOfAifs aifList) s.mtd (.bytes payload) agm =
      if payload = [] then (-EINVAL, none)
      else if v = 0 then (getParamRet agm, some (.pcm (.setMetadata p.session payload)))
      else (getParamRet agm,
        some (.pcm (.aifSetMetadata p.session ((backendsOfAifs aifList).idxArr p.dir v) payload))) := by
    show (let r := ampPcmMetadataPut info _ s.mtd (p.ctl .metadata) payload agm; (r.1, r.2.map PutCall.pcm)) = _
    unfold ampPcmMetadataPut
    rw [show (p.ctl .metadata).privateValue = p.item.idx from rfl, show (p.ctl .metadata).dir = p.dir from rfl, hv]
    dsimp only
    split_ifs <;> rfl
  have hctl : s.priv.put ⟨name, p.session, .metadata⟩ (.bytes payload) agm =
      if v = 0 then (getParamRet agm, some (.pcm (.setMetadata p.session (payload.take (tlvLen (tlvOf payload))))))
      else (getParamRet agm, some (.pcm (.aifSetMetadata p.session ((backendsOfAifs aifList).idxArr p.dir v)
        (payload.take (tlvLen (tlvOf payload)))))) := by
    unfold AgmctlPriv.put AgmctlPriv.write agmctlWriteBytes agmctlPcmMetadataPut
    dsimp only
    rw [hbe]
    by_cases hzero : v = 0 <;> simp only [hzero, if_true, if_false] <;> rfl
  unfold PairOp.Agrees
  dsimp only
  rw [hamp, hctl, ← take_tlvLen_iff]
  by_cases hnil : payload = []
  · by_cases hzero : v = 0 <;> simp [hnil, hzero]
  · by_cases hzero : v = 0 <;> simp [hnil, hzero]

theorem agrees_setParam (payload : List UInt8) :
    (PairOp.mk (.pcm p .setParam) ⟨name, p.session, .setParam⟩ (.bytes payload) (.bytes payload) agm).Agrees
      (backendsOfAifs aifList) s ↔ payload.length < 256 := by
  obtain ⟨v, hv, -, hbe⟩ := exists_selected good h p
  have hamp : (AmpCtl.pcm p .setParam).put (backendsOfAifs aifList) s.mtd (.bytes payload) agm =
      (getParamRet agm, some (.pcm (if v = 0 then .setParams p.session payload
        else .aifSetParams p.session ((backendsOfAifs aifList).idxArr p.dir v) payload))) := by
    have hacdb : (strstr "setParamTagACDB".toList (p.ctl .setParam).name).isSome = false :=
      Bool.eq_false_iff.2 fun heq => (good.plain.setParamTagAcdb p .setParam).not.2 (by decide) heq
    have htag : (strstr "setParamTag".toList (p.ctl .setParam).name).isSome = false :=
      Bool.eq_false_iff.2 fun heq => (good.plain.setParamTag p .setParam).not.2 (by decide) heq
    show (let r := ampPcmSetParamPut info _ s.mtd (p.ctl .setParam) payload agm; (r.1, r.2.map PutCall.pcm)) = _
    unfold ampPcmSetParamPut
    dsimp only
    rw [show (p.ctl .setParam).privateValue = p.item.idx from rfl, show (p.ctl .setParam).dir = p.dir from rfl, hv, hacdb,
      htag]
    by_cases hzero : v = 0
    · simp only [hzero, Bool.false_eq_true, if_true, if_false]
      rfl
    · simp only [hzero, Bool.false_eq_true, if_false, beIdx, if_pos (Nat.pos_of_ne_zero hzero)]
      rfl
  have hctl : s.priv.put ⟨name, p.session, .setParam⟩ (.bytes payload) agm =
      (getParamRet agm, some (.pcm (if v = 0 then .setParams p.session (payload.take (tlvLen (tlvOf payload)))
        else .aifSetParams p.session ((backendsOfAifs aifList).idxArr p.dir v)
          (payload.take (tlvLen (tlvOf payload)))))) := by
    unfold AgmctlPriv.put AgmctlPriv.write agmctlWriteBytes agmctlPcmSetparamPut
    dsimp only
    rw [hbe]
    by_cases hzero : v = 0 <;> simp only [hzero, if_true, if_false] <;> rfl
  unfold PairOp.Agrees
  dsimp only
  rw [hamp, hctl, ← take_tlvLen_iff]
  by_cases hzero : v = 0 <;> simp [hzero]

/-- Without a back end the mixer plugin asks for one with the id -1, and the other refuses. -/
theorem agrees_setParamTag (payload : List UInt8) :
    (PairOp.mk (.pcm p .setParamTag) ⟨name, p.session, .setParamTag⟩ (.bytes payload) (.bytes payload) agm).Agrees
      (backendsOfAifs aifList) s ↔ (agmctlBeIdx s.priv ⟨name, p.session, .setParamTag⟩).isSome := by
  obtain ⟨v, hv, -, hbe⟩ := exists_selected good h p
  have hamp : (AmpCtl.pcm p .setParamTag).put (backendsOfAifs aifList) s.mtd (.bytes payload) agm =
      (getParamRet agm, some (.pcm (.setParamsWithTag p.session (beIdx (backendsOfAifs aifList) p.dir v) payload))) := by
    have hacdb : (strstr "setParamTagACDB".toList (p.ctl .setParamTag).name).isSome = false :=
      Bool.eq_false_iff.2 fun heq => (good.plain.setParamTagAcdb p .setParamTag).not.2 (by decide) heq
    have htag : (strstr "setParamTag".toList (p.ctl .setParamTag).name).isSome = true :=
      (good.plain.setParamTag p .setParamTag).2 (by decide)
    show (let r := ampPcmSetParamPut info _ s.mtd (p.ctl .setParamTag) payload agm; (r.1, r.2.map PutCall.pcm)) = _
    unfold ampPcmSetParamPut
    dsimp only
    rw [show (p.ctl .setParamTag).privateValue = p.item.idx from rfl, show (p.ctl .setParamTag).dir = p.dir from rfl, hv,
      hacdb, htag]
    rfl
  unfold PairOp.Agrees AgmctlPriv.put AgmctlPriv.write agmctlWriteBytes agmctlPcmSetparamtagPut
  dsimp only
  rw [hamp, hbe]
  by_cases hzero : v = 0
  · simp [hzero]
  · simp only [hzero, if_false, Option.isSome_some, iff_true, beIdx, if_pos (Nat.pos_of_ne_zero hzero)]
    rfl

theorem agrees_setCalibration (payload : List UInt8) :
    (PairOp.mk (.pcm p .setCalibration) ⟨name, p.session, .setCalibration⟩ (.bytes payload) (.bytes payload) agm).Agrees
      (backendsOfAifs aifList) s ↔ (agmctlBeIdx s.priv ⟨name, p.session, .setCalibration⟩).isSome := by
  obtain ⟨v, hv, -, hbe⟩ := exists_selected good h p
  have hamp : (AmpCtl.pcm p .setCalibration).put (backendsOfAifs aifList) s.mtd (.bytes payload) agm =
      (agm, some (.pcm (.setCal p.session (beIdx (backendsOfAifs aifList) p.dir v) payload))) := by
    show (let r := ampPcmCalibrationPut info _ s.mtd (p.ctl .setCalibration) payload agm; (r.1, r.2.map PutCall.pcm)) = _
    unfold ampPcmCalibrationPut
    rw [show (p.ctl .setCalibration).privateValue = p.item.idx from rfl, show (p.ctl .setCalibration).dir = p.dir from rfl,
      hv]
    rfl
  unfold PairOp.Agrees AgmctlPriv.put AgmctlPriv.write agmctlWriteBytes agmctlPcmCalibrationPut
  dsimp only
  rw [hamp, hbe]
  by_cases hzero : v = 0
  · simp [hzero]
  · simp only [hzero, if_false, Option.isSome_some, iff_true, beIdx, if_pos (Nat.pos_of_ne_zero hzero)]
    rfl

omit good h in
theorem agrees_event (payload : List UInt8) :
    (PairOp.mk (.pcm p .event) ⟨name, p.session, .event⟩ (.bytes payload) (.bytes payload) agm).Agrees
      (backendsOfAifs aifList) s ↔ payload ≠ [] := by
  have hctl : s.priv.put ⟨name, p.session, .event⟩ (.bytes payload) agm =
      (getParamRet agm, some (.pcm (.registerForEvents p.session payload))) := rfl
  unfold PairOp.Agrees
  dsimp only
  rw [hctl]
  show (let r := ampPcmEventPut (p.ctl .event) payload agm; (r.1, r.2.map PutCall.pcm)) = _ ↔ _
  unfold ampPcmEventPut
  by_cases hnil : payload = []
  · simp [hnil]
  · simp only [hnil, if_false, ne_eq, not_false_eq_true, iff_true]
    rfl

theorem agrees_connect {k : PcmCtlName} {id : CtlId} (hk : (k = .connect ∧ id = .connect) ∨ (k = .disconnect ∧ id = .disconnect))
    {i j : Nat} {text : CString} (hi : (((backendsOfAifs aifList).devs p.dir).map Item.text)[i]? = some text)
    (hj : aifList[j]?.map AifInfo.aifName = some text) :
    (PairOp.mk (.pcm p k) ⟨name, p.session, id⟩ (.item i) (.item j) agm).Agrees (backendsOfAifs aifList) s := by
  rw [← h.aifs] at hj
  obtain ⟨hne, hidx⟩ := aif_same good p.dir_eq hi h.aifs hj
  have hput (c : PcmCtl) (hc : c.privateValue = p.session ∧ c.dir = p.dir) (state : Bool)
      (hstate : (strstr "disconnect".toList c.name).isNone = state) :
      ampPcmAifConnectPut (backendsOfAifs aifList) c i agm =
        (getParamRet agm, some (.aifConnect p.session j state)) := by
    unfold ampPcmAifConnectPut
    rw [if_neg hne, hc.1, hc.2, hidx, hstate]
  rcases hk with ⟨rfl, rfl⟩ | ⟨rfl, rfl⟩
  · have hstate : (strstr "disconnect".toList (p.ctl .connect).name).isNone = true :=
      (good.plain.disconnect p .connect).2 (by decide)
    show (let r := ampPcmAifConnectPut _ (p.ctl .connect) i agm; (r.1, r.2.map PutCall.pcm)) = _
    rw [hput (p.ctl .connect) ⟨rfl, rfl⟩ true hstate]
    rfl
  · have hstate : (strstr "disconnect".toList (p.ctl .disconnect).name).isNone = false :=
      Bool.eq_false_iff.2 fun heq => (good.plain.disconnect p .disconnect).1 heq (by decide)
    show (let r := ampPcmAifConnectPut _ (p.ctl .disconnect) i agm; (r.1, r.2.map PutCall.pcm)) = _
    rw [hput (p.ctl .disconnect) ⟨rfl, rfl⟩ false hstate]
    rfl

theorem agrees_echoref {i j : Nat} {text : CString}
    (hi : ((backendsOfAifs aifList).rxBeDevs.map Item.text)[i]? = some text) (hj : zeroOrAif s.priv j = some text) :
    (PairOp.mk (.pcm p .echoref) ⟨name, p.session, .echoref⟩ (.item i) (.item j) agm).Agrees
      (backendsOfAifs aifList) s := by
  obtain rfl := zeroOrAif_same good (.inl rfl) hi h.aifs hj
  show (getParamRet agm, some (PutCall.pcm (.setEcRef p.session ((backendsOfAifs aifList).idxArr RX i : Nat) (i ≠ 0)))) =
    (getParamRet agm, some (PutCall.pcm (.setEcRef p.session ((aifItem (backendsOfAifs aifList) RX i - 1 : Nat) : Int)
      (aifItem (backendsOfAifs aifList) RX i ≠ 0))))
  unfold aifItem
  by_cases hzero : i = 0
  · subst hzero
    rfl
  · simp [hzero]

include hinfo in
/-- The mixer plugin returns 0 whatever AGM returns. -/
theorem agrees_loopback {i j : Nat} {text : CString}
    (hi : (info.rxPcmDevs.map fun item => shown item.text)[i]? = some text)
    (hj : agmctlGetEnumeratedName (ampFormMixerControls card aifList) ⟨name, p.session, .loopback⟩ j = some text) :
    (PairOp.mk (.pcm p .loopback) ⟨name, p.session, .loopback⟩ (.item i) (.item j) agm).Agrees
      (backendsOfAifs aifList) s ↔ agm = 0 ∨ agm = -EALREADY := by
  obtain ⟨hzero, hplay⟩ := rx_same hinfo good hi hj
  rw [← h.rx] at hplay
  have hcall : (if i = 0 then 0 else (info.rxPcmDevs.map PcmItem.idx).getD i 0) =
      if j = 0 then 0 else s.priv.rxPcmId.getD (j - 1) 0 := by
    by_cases hi0 : i = 0
    · rw [if_pos hi0, if_pos (hzero.1 hi0)]
    · rw [if_neg hi0, if_neg (mt hzero.2 hi0), hplay hi0]
  have hstate : decide (i ≠ 0) = decide (j ≠ 0) := decide_eq_decide.2 (not_congr hzero)
  show ((0 : Int), some (PutCall.pcm (.setLoopback p.session
      (if i = 0 then 0 else (info.rxPcmDevs.map PcmItem.idx).getD i 0) (i ≠ 0)))) =
    (getParamRet agm, some (PutCall.pcm (.setLoopback p.session
      (if j = 0 then 0 else s.priv.rxPcmId.getD (j - 1) 0) (j ≠ 0)))) ↔ _
  rw [hcall, hstate, ← getParamRet_eq_zero_iff]
  simp

include hinfo in
theorem agrees_control {i j : Nat} {text : CString}
    (hi : (((backendsOfAifs aifList).devs p.dir).map Item.text)[i]? = some text) (hj : zeroOrAif s.priv j = some text) :
    (PairOp.mk (.pcm p .mtdControl) ⟨name, p.session, .control⟩ (.item i) (.item j) agm).Agrees
        (backendsOfAifs aifList) s ∧
      (pairExec s (PairOp.mk (.pcm p .mtdControl) ⟨name, p.session, .control⟩ (.item i) (.item j) agm)).Together card
        aifList := by
  have hlt : i < ((backendsOfAifs aifList).devs p.dir).length := by
    have := (List.getElem?_eq_some_iff.1 hi).1
    rwa [List.length_map] at this
  have hle : j ≤ aifList.length := by
    unfold zeroOrAif at hj
    split at hj
    · omega
    · obtain ⟨a, ha, -⟩ := Option.map_eq_some_iff.1 hj
      have := (List.getElem?_eq_some_iff.1 ha).1
      rw [h.aifs] at this
      omega
  obtain rfl := zeroOrAif_same good p.dir_eq hi h.aifs hj
  have hsel := together_select hinfo good h hlt (show (⟨name, p.session, .control⟩ : AgmMixerControl).pcmBeId = _ from rfl) hle
  refine ⟨?_, hsel.1⟩
  show ((0 : Int), (none : Option PutCall)) = s.priv.put _ _ _
  unfold AgmctlPriv.put AgmctlPriv.write agmctlWriteEnumerated
  dsimp only
  rw [hsel.2]
  rfl

end

/-! ## Every write -/

section

variable {card : SndDevDefCard} {aifList : List AifInfo} {s : Pair info}

/-- What the second plugin calls its items does not change. -/
theorem zeroOrAif_eq (h : s.Together card aifList) (item : Nat) :
    zeroOrAif (ampFormMixerControls card aifList) item = zeroOrAif s.priv item := by
  unfold zeroOrAif
  rw [h.aifs]
  rfl

/-- A write of bytes to a control of a PCM. -/
theorem agrees_pcm_bytes (good : CardGood card aifList info) (h : s.Together card aifList) (p : AmpPcm info)
    {k : PcmCtlName} {id : CtlId} (hk : id.pcmCtl = some k) (name : CString) (payload : List UInt8) (agm : Int)
    (htakes : id.Takes (.bytes payload)) :
    let o : PairOp info := ⟨.pcm p k, ⟨name, p.session, id⟩, .bytes payload, .bytes payload, agm⟩
    (o.Agrees (backendsOfAifs aifList) s ↔ o.Met s) ∧ (pairExec s o).Together card aifList := by
  have hnever : ((0 : Int), (none : Option PutCall)) ≠ (-EINVAL, none) := by decide
  cases id <;> first | (obtain rfl := Option.some.inj hk) | cases hk
  case metadata => exact ⟨agrees_metadata good h p name agm payload, together_quiet h rfl rfl rfl rfl⟩
  case setParam => exact ⟨agrees_setParam good h p name agm payload, together_quiet h rfl rfl rfl rfl⟩
  case setParamTag => exact ⟨agrees_setParamTag good h p name agm payload, together_quiet h rfl rfl rfl rfl⟩
  case setCalibration => exact ⟨agrees_setCalibration good h p name agm payload, together_quiet h rfl rfl rfl rfl⟩
  case event => exact ⟨agrees_event p name agm payload, together_quiet h rfl rfl rfl rfl⟩
  case getParam => exact ⟨iff_of_true rfl trivial, together_quiet h rfl rfl rfl rfl⟩
  case getTagInfo | bufInfo | bufTstamp =>
    exact ⟨iff_of_false hnever not_false, together_quiet h rfl rfl rfl rfl⟩
  all_goals exact htakes.elim

/-- A write to a control of a back end. -/
theorem agrees_be (h : s.Together card aifList) (b : Item) {k : BeCtlName} {id : CtlId} (hk : id.beCtl = some k)
    (name : CString) {ampValue value : CtlValue} (agm : Int) (htakes : id.Takes value)
    (hvalue : (PairOp.mk (.be b k) ⟨name, b.idx, id⟩ ampValue value agm : PairOp info).SameValue (backendsOfAifs aifList)
      (ampFormMixerControls card aifList)) :
    let o : PairOp info := ⟨.be b k, ⟨name, b.idx, id⟩, ampValue, value, agm⟩
    (o.Agrees (backendsOfAifs aifList) s ↔ o.Met s) ∧ (pairExec s o).Together card aifList := by
  cases id <;> first | (obtain rfl := Option.some.inj hk) | cases hk
  case beMediaConfig =>
    cases value with
    | integer v =>
      cases ampValue with
      | integer v' =>
        obtain rfl : v' = v := hvalue
        exact ⟨iff_of_true rfl trivial, together_quiet h rfl rfl rfl rfl⟩
      | _ => exact hvalue.elim
    | _ => exact htakes.elim
  case beMetadata =>
    cases value with
    | bytes payload =>
      cases ampValue with
      | bytes payload' =>
        obtain rfl : payload' = payload := hvalue
        refine ⟨?_, together_quiet h rfl rfl rfl rfl⟩
        show ampBeMetadataPut b.idx payload' agm = (getParamRet agm,
          some (.aifSetMetadata b.idx (payload'.take (tlvLen (tlvOf payload'))))) ↔ payload' ≠ [] ∧ payload'.length < 256
        unfold ampBeMetadataPut
        rw [← take_tlvLen_iff]
        by_cases hnil : payload' = [] <;> simp [hnil]
      | _ => exact hvalue.elim
    | _ => exact htakes.elim
  case beSetParam =>
    cases value with
    | bytes payload =>
      cases ampValue with
      | bytes payload' =>
        refine ⟨iff_of_false (fun heq => ?_) not_false, together_quiet h rfl rfl rfl rfl⟩
        exact absurd (congrArg Prod.snd heq) (by simp [AmpCtl.put, ampBeSetParamPut, AgmctlPriv.put, AgmctlPriv.write,
          agmctlWriteBytes, agmctlBeSetparamPut, CtlCall.given])
      | _ => exact hvalue.elim
    | _ => exact htakes.elim

variable (hinfo : ampGetPcmInfo card = some (.ok info)) (good : CardGood card aifList info)
  (h : s.Together card aifList)

include hinfo good h

/-- A write of an item. -/
theorem agrees_pcm_item (p : AmpPcm info) {k : PcmCtlName} {id : CtlId} (hk : id.pcmCtl = some k) (name : CString)
    {i j : Nat} (agm : Int) (htakes : id.Takes (.item j)) {text : CString}
    (hi : ((AmpCtl.pcm p k).texts (backendsOfAifs aifList))[i]? = some text)
    (hj : agmctlGetEnumeratedName (ampFormMixerControls card aifList) ⟨name, p.session, id⟩ j = some text) :
    let o : PairOp info := ⟨.pcm p k, ⟨name, p.session, id⟩, .item i, .item j, agm⟩
    (o.Agrees (backendsOfAifs aifList) s ↔ o.Met s) ∧ (pairExec s o).Together card aifList := by
  have hzero (hj : zeroOrAif (ampFormMixerControls card aifList) j = some text) : zeroOrAif s.priv j = some text := by
    rwa [← zeroOrAif_eq h]
  cases id <;> first | (obtain rfl := Option.some.inj hk) | cases hk
  case connect =>
    exact ⟨iff_of_true (agrees_connect good h p name agm (.inl ⟨rfl, rfl⟩) hi hj) trivial,
      together_quiet h rfl rfl rfl rfl⟩
  case disconnect =>
    exact ⟨iff_of_true (agrees_connect good h p name agm (.inr ⟨rfl, rfl⟩) hi hj) trivial,
      together_quiet h rfl rfl rfl rfl⟩
  case control =>
    have hctl := agrees_control hinfo good h p name agm hi (hzero hj)
    exact ⟨iff_of_true hctl.1 trivial, hctl.2⟩
  case loopback =>
    exact ⟨agrees_loopback hinfo good h p name agm hi hj, together_quiet h rfl rfl rfl rfl⟩
  case echoref =>
    exact ⟨iff_of_true (agrees_echoref good h p name agm hi (hzero hj)) trivial, together_quiet h rfl rfl rfl rfl⟩
  all_goals exact htakes.elim

/-- **One write.**  The plugins agree exactly under the condition, and go on with the same selected. -/
theorem agrees_iff {o : PairOp info} (ho : o.Same (backendsOfAifs aifList) (ampFormMixerControls card aifList)) :
    (o.Agrees (backendsOfAifs aifList) s ↔ o.Met s) ∧ (pairExec s o).Together card aifList := by
  obtain ⟨amp, ⟨name, id, ctlId⟩, ampValue, value, agm⟩ := o
  obtain ⟨hmade, hmem, hname, htakes, hvalue⟩ := ho
  rcases matched hinfo good hmade hmem hname with ⟨p, k, rfl, hid, hk⟩ | ⟨b, k, rfl, hid, hk⟩
  · dsimp only at hid hk htakes
    subst hid
    cases value with
    | integer v => cases ctlId <;> first | exact htakes.elim | cases hk
    | bytes payload =>
      cases ampValue with
      | bytes payload' =>
        obtain rfl : payload' = payload := hvalue
        exact agrees_pcm_bytes good h p hk name payload' agm htakes
      | _ => exact hvalue.elim
    | item j =>
      cases ampValue with
      | item i =>
        obtain ⟨text, hi, hj⟩ := hvalue
        exact agrees_pcm_item hinfo good h p hk name agm htakes hi hj
      | _ => exact hvalue.elim
  · dsimp only at hid hk htakes
    subst hid
    exact agrees_be h b hk name agm htakes hvalue

end

/-- **The two plugins.**  On a good card, however the same values are written to controls of the same name, the plugins agree
on all writes exactly if every write meets the condition when it comes. -/
theorem plugins_agree_iff {card : SndDevDefCard} {aifList : List AifInfo}
    (hinfo : ampGetPcmInfo card = some (.ok info)) (good : CardGood card aifList info) (ops : List (PairOp info))
    (hops : ∀ o ∈ ops, o.Same (backendsOfAifs aifList) (ampFormMixerControls card aifList)) :
    EachAfter (fun past o => o.Agrees (backendsOfAifs aifList) (pairRun card aifList info past)) ops ↔
      EachAfter (fun past o => o.Met (pairRun card aifList info past)) ops := by
  have key : (pairRun card aifList info ops).Together card aifList ∧
      (EachAfter (fun past o => o.Agrees (backendsOfAifs aifList) (pairRun card aifList info past)) ops ↔
        EachAfter (fun past o => o.Met (pairRun card aifList info past)) ops) := by
    induction ops using List.reverseRecOn with
    | nil => exact ⟨together_start hinfo good, iff_of_true eachAfter_nil eachAfter_nil⟩
    | append_singleton ops o ih =>
      obtain ⟨htogether, hiff⟩ := ih fun o ho => hops o (List.mem_append_left _ ho)
      obtain ⟨hone, hnext⟩ := agrees_iff hinfo good htogether (hops o (List.mem_append_right _ List.mem_cons_self))
      have hrun : pairRun card aifList info (ops ++ [o]) = pairExec (pairRun card aifList info ops) o :=
        List.foldl_concat _ _ _ _
      rw [hrun]
      exact ⟨hnext, eachAfter_concat.trans ((and_congr hiff hone).trans eachAfter_concat.symm)⟩
  exact key.2

instance (s : Pair info) (o : PairOp info) : Decidable (o.Met s) := by
  unfold PairOp.Met Pair.Selected
  split <;> infer_instance

/-- A playback and a capture. -/
def twoPcmCard : SndDevDefCard :=
  let dev (device : Nat) (name playback capture : String) : SndDevDef :=
    { nodeType := .pcm, device, name := some name.toList
      propVals := [("playback".toList, playback.toList), ("capture".toList, capture.toList)] }
  { pcmDevs := [dev 5 "PCM5" "1" "0", dev 7 "PCM7" "0" "1"] }

def twoAifs : List AifInfo := [⟨"SPK".toList, RX⟩, ⟨"MIC".toList, TX⟩]

def twoPcmInfo : PcmInfo :=
  ⟨[⟨some "ZERO".toList, 0⟩, ⟨some "PCM5".toList, 5⟩], [⟨some "ZERO".toList, 0⟩, ⟨some "PCM7".toList, 7⟩]⟩

def pcm5 : AmpPcm twoPcmInfo := ⟨RX, 1, rx_or_tx, le_rfl, by decide⟩

def pcm7 : AmpPcm twoPcmInfo := ⟨TX, 1, .inr rfl, le_rfl, by decide⟩

/-- All controls that the mixer plugin makes for them. -/
def twoPcmCtls : List (AmpCtl twoPcmInfo) :=
  (([.connect, .disconnect, .mtdControl, .metadata, .setParam, .setParamTag, .setParamTagAcdb, .getTagInfo, .event,
      .setCalibration, .getParam, .bufInfo] : List PcmCtlName).flatMap fun k => [.pcm pcm5 k, .pcm pcm7 k]) ++
    ([.sidetone, .datapathParams, .flush] : List PcmCtlName).map (.pcm pcm5) ++
    ([.loopback, .echoref, .bufTstamp] : List PcmCtlName).map (.pcm pcm7) ++
    ([.mediaConfig, .metadata, .setParam] : List BeCtlName).flatMap fun k =>
      [.be ⟨"SPK".toList, 0⟩ k, .be ⟨"MIC".toList, 1⟩ k]

theorem mem_twoPcmCtls {c : AmpCtl twoPcmInfo} (h : c.Made (backendsOfAifs twoAifs)) : c ∈ twoPcmCtls := by
  cases c with
  | pcm p k =>
    have hp : p = pcm5 ∨ p = pcm7 := by
      obtain ⟨dir, idx, hdir, hone, hlt⟩ := p
      rcases hdir with rfl | rfl
      · have hlt : idx < 2 := hlt
        obtain rfl : idx = 1 := by omega
        exact .inl rfl
      · have hlt : idx < 2 := hlt
        obtain rfl : idx = 1 := by omega
        exact .inr rfl
    rcases hp with rfl | rfl
    · cases k <;> first | exact absurd (show RX = TX from h) (by decide) | decide +kernel
    · cases k <;> first | exact absurd (show TX = RX from h) (by decide) | decide +kernel
  | be b k =>
    have hitems : (backendsOfAifs twoAifs).items = [⟨"SPK".toList, 0⟩, ⟨"MIC".toList, 1⟩] := by decide +kernel
    have hb : b ∈ (backendsOfAifs twoAifs).items := h
    rw [hitems] at hb
    simp only [List.mem_cons, List.not_mem_nil, or_false] at hb
    rcases hb with rfl | rfl <;> cases k <;> decide +kernel

theorem cardGood_two : CardGood twoPcmCard twoAifs twoPcmInfo where
  oneDirection := by
    unfold OneDirection
    decide +kernel
  named := by decide +kernel
  ids := by decide +kernel
  plain := by
    refine ⟨by decide, by decide, by decide +kernel, ?_⟩
    intro item hitem k
    revert item
    cases k <;> decide +kernel
  rxTexts := by decide +kernel
  aifDir := by decide
  aifNames := by decide +kernel
  aifZero := by decide +kernel
  aifShort := by
    intro a ha k
    revert a
    cases k <;> decide +kernel
  ctlNames c c' hc hc' hname := by
    have hnodup : (twoPcmCtls.map AmpCtl.name).Nodup := by decide +kernel
    exact List.inj_on_of_nodup_map hnodup (mem_twoPcmCtls hc) (mem_twoPcmCtls hc') hname

/-- A write to a control of one of the two PCMs, of the same bytes or of two items. -/
def onPcm (p : AmpPcm twoPcmInfo) (k : PcmCtlName) (id : CtlId) (ampValue value : CtlValue) (agm : Int) :
    PairOp twoPcmInfo :=
  ⟨.pcm p k, ⟨(p.ctl k).name, p.session, id⟩, ampValue, value, agm⟩

theorem same_bytes {p : AmpPcm twoPcmInfo} {k : PcmCtlName} {id : CtlId} {payload : List UInt8} {agm : Int}
    (hmade : k.Of p.dir) (hmem : ⟨(p.ctl k).name, p.session, id⟩ ∈ (ampFormMixerControls twoPcmCard twoAifs).controls)
    (htakes : id.Takes (.bytes payload)) :
    (onPcm p k id (.bytes payload) (.bytes payload) agm).Same (backendsOfAifs twoAifs)
      (ampFormMixerControls twoPcmCard twoAifs) :=
  ⟨hmade, hmem, rfl, htakes, rfl⟩

/-- A back end is selected for PCM 5, and its metadata, a tag configuration and a connection are for it in both. -/
theorem plugins_agree_two : ∃ ops : List (PairOp twoPcmInfo),
    (ops.map fun o => o.ctl.ctlId) = [.control, .metadata, .setParamTag, .connect, .echoref] ∧
    EachAfter (fun past o => o.Agrees (backendsOfAifs twoAifs) (pairRun twoPcmCard twoAifs twoPcmInfo past)) ops := by
  have hinfo : ampGetPcmInfo twoPcmCard = some (.ok twoPcmInfo) := by decide +kernel
  refine ⟨[onPcm pcm5 .mtdControl .control (.item 1) (.item 1) 0, onPcm pcm5 .metadata .metadata (.bytes [5]) (.bytes [5]) 0,
      onPcm pcm5 .setParamTag .setParamTag (.bytes [6]) (.bytes [6]) 0, onPcm pcm5 .connect .connect (.item 1) (.item 0) 0,
      onPcm pcm7 .echoref .echoref (.item 1) (.item 1) 0], rfl,
    (plugins_agree_iff hinfo cardGood_two _ ?_).2 (by decide +kernel)⟩
  simp only [List.forall_mem_cons]
  refine ⟨?_, ?_, ?_, ?_, ?_, fun _ h => absurd h List.not_mem_nil⟩
  · exact ⟨trivial, by decide +kernel, rfl, trivial, "SPK".toList, by decide +kernel, by decide +kernel⟩
  · exact same_bytes trivial (by decide +kernel) trivial
  · exact same_bytes trivial (by decide +kernel) trivial
  · exact ⟨trivial, by decide +kernel, rfl, trivial, "SPK".toList, by decide +kernel, by decide +kernel⟩
  · exact ⟨rfl, by decide +kernel, rfl, trivial, "SPK".toList, by decide +kernel, by decide +kernel⟩

/-- With no back end selected a tag configuration is for AIF -1 in the mixer plugin, and refused by the other; and AGM is told
the length 0 of 256 bytes of parameters by the other. -/
theorem plugins_disagree : ampGetPcmInfo twoPcmCard = some (.ok twoPcmInfo) ∧ CardGood twoPcmCard twoAifs twoPcmInfo ∧
    (∃ o : PairOp twoPcmInfo, o.Same (backendsOfAifs twoAifs) (ampFormMixerControls twoPcmCard twoAifs) ∧
      o.ctl.ctlId = .setParamTag ∧ ¬ o.Agrees (backendsOfAifs twoAifs) (pairRun twoPcmCard twoAifs twoPcmInfo [])) ∧
    ∃ o : PairOp twoPcmInfo, o.Same (backendsOfAifs twoAifs) (ampFormMixerControls twoPcmCard twoAifs) ∧
      o.ctl.ctlId = .setParam ∧ ¬ o.Agrees (backendsOfAifs twoAifs) (pairRun twoPcmCard twoAifs twoPcmInfo []) := by
  refine ⟨by decide +kernel, cardGood_two,
    ⟨onPcm pcm5 .setParamTag .setParamTag (.bytes [6]) (.bytes [6]) 0, same_bytes trivial (by decide +kernel) trivial, rfl, ?_⟩,
    ⟨onPcm pcm5 .setParam .setParam (.bytes (List.replicate 256 0)) (.bytes (List.replicate 256 0)) 0,
      same_bytes trivial (by decide +kernel) trivial, rfl, ?_⟩⟩
  · unfold PairOp.Agrees
    decide +kernel
  · unfold PairOp.Agrees
    decide +kernel

end Agm.Mixer
