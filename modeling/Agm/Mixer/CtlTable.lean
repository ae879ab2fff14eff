import Agm.Mixer.Targets

/-!
# The control table of the mixer plugin

`agm_mixer_plugin_open` counts the controls of all back ends, groups of back ends and PCMs from the tables of their names,
allocates as many, and lets one function after the other fill them in, each from an index of its own on.  Whether the
table is filled without a gap rests on every loop making as many controls as the tables have names.
-/

namespace Agm.Mixer

open Agm.Lib Agm.Service Agm.Parser CString

/-! ## The controls -/

/-- The lists of `struct amp_priv`, which controls take their texts from and keep as private data. -/
inductive CtlList
  | rxBe | txBe | groupBe | rxPcm | txPcm | acdb
  deriving DecidableEq, Repr

/-- What the value of a control is. -/
inductive SndValue
  | enum (texts : CtlList)
  | tlvBytes
  | bytes
  | integer
  deriving DecidableEq, Repr

/-- `struct snd_control`. -/
structure SndControl where
  name : CString
  value : SndValue
  privateValue : Nat
  privateData : CtlList
  deriving DecidableEq, Repr

/-- `static_acdb_ctl_name_extn`. -/
def staticAcdbCtlNameExtn : List CString := ["setACDBTunnel"].map String.toList

/-- `amp_group_be_ctl_name_extn`. -/
def ampGroupBeCtlNameExtn : List CString := ["grp config"].map String.toList

/-- `amp_pcm_ctl_name_extn`. -/
def ampPcmCtlNameExtn : List CString :=
  [PcmCtlName.connect, .disconnect, .mtdControl, .metadata, .setParam, .setParamTag, .setParamTagAcdb, .getTagInfo,
    .event, .setCalibration, .getParam, .bufInfo].map PcmCtlName.extn

/-- `amp_pcm_tx_ctl_names`. -/
def ampPcmTxCtlNames : List CString := [PcmCtlName.loopback, .echoref, .bufTstamp].map PcmCtlName.extn

/-- `amp_pcm_rx_ctl_names`. -/
def ampPcmRxCtlNames : List CString := [PcmCtlName.sidetone, .datapathParams, .flush].map PcmCtlName.extn

/-- The lists that `agm_mixer_plugin_open` has got when it counts the controls.  All but the groups start with the item
`ZERO`. -/
structure AmpPriv where
  be : Backends
  groupBeDevs : List Item
  pcm : PcmInfo
  rxBe : 0 < be.rxBeDevs.length
  txBe : 0 < be.txBeDevs.length
  rxPcm : 0 < pcm.rxPcmDevs.length
  txPcm : 0 < pcm.txPcmDevs.length

/-- The lists that `amp_get_be_info` and `amp_get_pcm_info` have made, with the groups. -/
def AmpPriv.opened {devs : List ListedDevice} {card : SndDevDefCard} {be : Backends} {info : PcmInfo} (groups : List Item)
    (hbe : ampGetBeInfo true true devs = .ok be) (hpcm : ampGetPcmInfo card = some (.ok info)) : AmpPriv where
  be := be
  groupBeDevs := groups
  pcm := info
  rxBe := by
    obtain rfl := ampGetBeInfo_ok hbe
    exact Nat.succ_pos _
  txBe := by
    obtain rfl := ampGetBeInfo_ok hbe
    exact Nat.succ_pos _
  rxPcm := by
    rw [(ampGetPcmInfo_ok hpcm).1]
    exact Nat.succ_pos _
  txPcm := by
    rw [(ampGetPcmInfo_ok hpcm).2]
    exact Nat.succ_pos _

/-- `amp_get_be_ctl_count`. -/
def ampGetBeCtlCount (priv : AmpPriv) : Nat :=
  (priv.be.rxBeDevs.length - 1) * ampBeCtlNameExtn.length + (priv.be.txBeDevs.length - 1) * ampBeCtlNameExtn.length

/-- `amp_get_group_be_ctl_count`. -/
def ampGetGroupBeCtlCount (priv : AmpPriv) : Nat := priv.groupBeDevs.length * ampGroupBeCtlNameExtn.length

/-- `amp_get_pcm_ctl_count`. -/
def ampGetPcmCtlCount (priv : AmpPriv) : Nat :=
  (priv.pcm.rxPcmDevs.length - 1) * ampPcmCtlNameExtn.length +
    (priv.pcm.txPcmDevs.length - 1) * ampPcmCtlNameExtn.length +
    (priv.pcm.txPcmDevs.length - 1) * ampPcmTxCtlNames.length +
    (priv.pcm.rxPcmDevs.length - 1) * ampPcmRxCtlNames.length

/-- `total_ctl_cnt`, with the static control for ACDB. -/
def totalCtlCnt (priv : AmpPriv) : Nat :=
  ampGetBeCtlCount priv + ampGetGroupBeCtlCount priv + ampGetPcmCtlCount priv + 1

/-! ## Filling the table -/

/-- The running index of a function that fills the table, and the writes to the table, in order. -/
structure CtlWriter where
  ctlIdx : Nat
  ctls : List (Nat × SndControl)
  deriving DecidableEq, Repr

/-- A control is made at the running index, which then goes on. -/
def CtlWriter.create (w : CtlWriter) (c : SndControl) : CtlWriter := ⟨w.ctlIdx + 1, w.ctls ++ [(w.ctlIdx, c)]⟩

/-- `amp_create_media_fmt_ctl`. -/
def ampCreateMediaFmtCtl (b : Item) (l : CtlList) : SndControl :=
  ⟨ctlName b.text "rate ch fmt".toList, .integer, b.idx, l⟩

/-- `amp_create_metadata_ctl`. -/
def ampCreateMetadataCtl (b : Item) (l : CtlList) : SndControl := ⟨ctlName b.text "metadata".toList, .tlvBytes, b.idx, l⟩

/-- `amp_create_be_set_param_ctl`. -/
def ampCreateBeSetParamCtl (b : Item) (l : CtlList) : SndControl :=
  ⟨ctlName b.text "setParam".toList, .tlvBytes, b.idx, l⟩

/-- A loop of `amp_form_be_ctls`. -/
def formBeCtls (l : CtlList) (devs : List Item) (w : CtlWriter) : CtlWriter :=
  (devs.drop 1).foldl (fun w b =>
    ((w.create (ampCreateMediaFmtCtl b l)).create (ampCreateMetadataCtl b l)).create (ampCreateBeSetParamCtl b l)) w

/-- `amp_form_be_ctls`. -/
def ampFormBeTable (priv : AmpPriv) (w : CtlWriter) : CtlWriter :=
  formBeCtls .txBe priv.be.txBeDevs (formBeCtls .rxBe priv.be.rxBeDevs w)

/-- `amp_create_group_be_media_fmt_ctl`. -/
def ampCreateGroupBeMediaFmtCtl (g : Item) : SndControl := ⟨ctlName g.text "grp config".toList, .integer, g.idx, .groupBe⟩

/-- `amp_form_group_be_ctls`. -/
def ampFormGroupBeCtls (priv : AmpPriv) (w : CtlWriter) : CtlWriter :=
  priv.groupBeDevs.foldl (fun w g => w.create (ampCreateGroupBeMediaFmtCtl g)) w

/-- The control of a PCM with the given name, value and private value. -/
def ampCreatePcmCtl (item : PcmItem) (k : PcmCtlName) (value : SndValue) (pval : Nat) (l : CtlList) : SndControl :=
  ⟨ctlName (shown item.text) k.extn, value, pval, l⟩

/-- The loop of `amp_form_common_pcm_ctls`, over the PCMs with their places in the list. -/
def formCommonPcmCtls (l be : CtlList) (devs : List PcmItem) (w : CtlWriter) : CtlWriter :=
  (devs.zipIdx.drop 1).foldl (fun w p =>
    let (item, i) := p
    let w := w.create (ampCreatePcmCtl item .connect (.enum be) item.idx l)
    let w := w.create (ampCreatePcmCtl item .disconnect (.enum be) item.idx l)
    let w := w.create (ampCreatePcmCtl item .mtdControl (.enum be) i l)
    let w := w.create (ampCreatePcmCtl item .metadata .tlvBytes item.idx l)
    let w := w.create (ampCreatePcmCtl item .setParam .tlvBytes item.idx l)
    let w := w.create (ampCreatePcmCtl item .setParamTag .tlvBytes item.idx l)
    let w := w.create (ampCreatePcmCtl item .setParamTagAcdb .tlvBytes item.idx l)
    let w := w.create (ampCreatePcmCtl item .getTagInfo .tlvBytes item.idx l)
    let w := w.create (ampCreatePcmCtl item .event .tlvBytes item.idx l)
    let w := w.create (ampCreatePcmCtl item .setCalibration .bytes item.idx l)
    let w := w.create (ampCreatePcmCtl item .getParam .tlvBytes i l)
    w.create (ampCreatePcmCtl item .bufInfo .bytes item.idx l)) w

/-- `amp_form_common_pcm_ctls`; there may be no memory for what the PCMs cache. -/
def ampFormCommonPcmCtls (granted : Bool) (l be : CtlList) (devs : List PcmItem) (w : CtlWriter) : Int × CtlWriter :=
  if ¬ granted then (-ENOMEM, w) else (0, formCommonPcmCtls l be devs w)

/-- `amp_form_rx_pcm_ctls`. -/
def ampFormRxPcmCtls (priv : AmpPriv) (w : CtlWriter) : CtlWriter :=
  (priv.pcm.rxPcmDevs.drop 1).foldl (fun w item =>
    let w := w.create (ampCreatePcmCtl item .sidetone (.enum .txBe) item.idx .rxPcm)
    let w := w.create (ampCreatePcmCtl item .datapathParams .bytes item.idx .rxPcm)
    w.create (ampCreatePcmCtl item .flush .integer item.idx .rxPcm)) w

/-- `amp_form_tx_pcm_ctls`. -/
def ampFormTxPcmCtls (priv : AmpPriv) (w : CtlWriter) : CtlWriter :=
  (priv.pcm.txPcmDevs.drop 1).foldl (fun w item =>
    let w := w.create (ampCreatePcmCtl item .loopback (.enum .rxPcm) item.idx .txPcm)
    let w := w.create (ampCreatePcmCtl item .echoref (.enum .rxBe) item.idx .txPcm)
    w.create (ampCreatePcmCtl item .bufTstamp .bytes item.idx .txPcm)) w

/-- `amp_form_pcm_ctls`, with whether there is memory for what the RX and what the TX PCMs cache. -/
def ampFormPcmCtls (rxGranted txGranted : Bool) (priv : AmpPriv) (w : CtlWriter) : Int × CtlWriter :=
  let (ret, w) := ampFormCommonPcmCtls rxGranted .rxPcm .rxBe priv.pcm.rxPcmDevs w
  if ret ≠ 0 then (ret, w)
  else
    let (ret, w) := ampFormCommonPcmCtls txGranted .txPcm .txBe priv.pcm.txPcmDevs (ampFormRxPcmCtls priv w)
    if ret ≠ 0 then (ret, w)
    else (0, ampFormTxPcmCtls priv w)

/-- `amp_form_acdb_ctls`; the name is the one of the table itself, and the index array has been cleared. -/
def ampFormAcdbCtls (w : CtlWriter) : CtlWriter :=
  w.create ⟨(staticAcdbCtlNameExtn.head?).getD [], .tlvBytes, 0, .acdb⟩

/-- The part of `agm_mixer_plugin_open` that fills the table: what it returns, and the writes. -/
def ampFormCtls (rxGranted txGranted : Bool) (priv : AmpPriv) : Int × List (Nat × SndControl) :=
  let beCtlCnt := ampGetBeCtlCount priv
  let beGrpCtlCnt := ampGetGroupBeCtlCount priv
  let pcmCtlCnt := ampGetPcmCtlCount priv
  let w := ampFormBeTable priv ⟨0, []⟩
  let w := if beGrpCtlCnt ≠ 0 then ampFormGroupBeCtls priv ⟨beCtlCnt, w.ctls⟩ else w
  let (ret, w) := ampFormPcmCtls rxGranted txGranted priv ⟨beCtlCnt + beGrpCtlCnt, w.ctls⟩
  if ret ≠ 0 then (-ENOMEM, w.ctls)
  else (0, (ampFormAcdbCtls ⟨beCtlCnt + beGrpCtlCnt + pcmCtlCnt, w.ctls⟩).ctls)

/-! ## What is written -/

/-- Between the two states `n` controls were made, at the indices from the running one on. -/
structure CtlWriter.Makes (n : Nat) (w w' : CtlWriter) : Prop where
  ctlIdx : w'.ctlIdx = w.ctlIdx + n
  ctls : w'.ctls.map Prod.fst = w.ctls.map Prod.fst ++ List.range' w.ctlIdx n

section

variable {m n : Nat} {w w' w'' : CtlWriter}

theorem CtlWriter.makes_create (w : CtlWriter) (c : SndControl) : Makes 1 w (w.create c) := by
  refine ⟨rfl, ?_⟩
  rw [create, List.map_append]
  rfl

theorem CtlWriter.Makes.refl (w : CtlWriter) : Makes 0 w w := ⟨rfl, (List.append_nil _).symm⟩

theorem CtlWriter.Makes.trans (h : Makes m w w') (h' : Makes n w' w'') : Makes (m + n) w w'' := by
  refine ⟨?_, ?_⟩
  · rw [h'.ctlIdx, h.ctlIdx, Nat.add_assoc]
  · rw [h'.ctls, h.ctls, h.ctlIdx, List.append_assoc, List.range'_append_1]

/-- One more control. -/
theorem CtlWriter.Makes.create (h : Makes n w w') (c : SndControl) : Makes (n + 1) w (w'.create c) :=
  h.trans (makes_create w' c)

/-- A loop whose turns make `n` controls each. -/
theorem CtlWriter.makes_foldl {α : Type} {f : CtlWriter → α → CtlWriter} (hf : ∀ w a, Makes n w (f w a)) (l : List α)
    (w : CtlWriter) : Makes (l.length * n) w (l.foldl f w) := by
  induction l generalizing w with
  | nil =>
    rw [List.length_nil, Nat.zero_mul]
    exact Makes.refl w
  | cons a l ih =>
    rw [List.foldl_cons, List.length_cons, Nat.succ_mul, Nat.add_comm]
    exact (hf w a).trans (ih (f w a))

/-- A function that goes on where the last one ended has filled the table up to its own end. -/
theorem CtlWriter.Makes.range {k : Nat} {ctls : List (Nat × SndControl)} (h : Makes n ⟨k, ctls⟩ w)
    (hctls : ctls.map Prod.fst = List.range k) : w.ctls.map Prod.fst = List.range (k + n) := by
  rw [h.ctls, hctls, List.range_eq_range', List.range_eq_range', ← List.range'_append_1, Nat.zero_add]

theorem makes_formBeCtls (l : CtlList) (devs : List Item) (w : CtlWriter) :
    CtlWriter.Makes ((devs.length - 1) * ampBeCtlNameExtn.length) w (formBeCtls l devs w) := by
  rw [← List.length_drop]
  exact CtlWriter.makes_foldl (fun w b => ((w.makes_create _).create _).create _) _ w

theorem makes_ampFormBeTable (priv : AmpPriv) (w : CtlWriter) :
    CtlWriter.Makes (ampGetBeCtlCount priv) w (ampFormBeTable priv w) :=
  (makes_formBeCtls _ _ w).trans (makes_formBeCtls _ _ _)

theorem makes_ampFormGroupBeCtls (priv : AmpPriv) (w : CtlWriter) :
    CtlWriter.Makes (ampGetGroupBeCtlCount priv) w (ampFormGroupBeCtls priv w) :=
  CtlWriter.makes_foldl (fun w _ => w.makes_create _) _ w

theorem makes_formCommonPcmCtls (l be : CtlList) (devs : List PcmItem) (w : CtlWriter) :
    CtlWriter.Makes ((devs.length - 1) * ampPcmCtlNameExtn.length) w (formCommonPcmCtls l be devs w) := by
  have hlen : devs.length - 1 = (devs.zipIdx.drop 1).length := by rw [List.length_drop, List.length_zipIdx]
  rw [hlen]
  refine CtlWriter.makes_foldl (fun w p => ?_) _ w
  exact (((((((((((w.makes_create _).create _).create _).create _).create _).create _).create _).create _).create
    _).create _).create _).create _

theorem makes_ampFormRxPcmCtls (priv : AmpPriv) (w : CtlWriter) :
    CtlWriter.Makes ((priv.pcm.rxPcmDevs.length - 1) * ampPcmRxCtlNames.length) w (ampFormRxPcmCtls priv w) := by
  rw [← List.length_drop]
  exact CtlWriter.makes_foldl (fun w b => ((w.makes_create _).create _).create _) _ w

theorem makes_ampFormTxPcmCtls (priv : AmpPriv) (w : CtlWriter) :
    CtlWriter.Makes ((priv.pcm.txPcmDevs.length - 1) * ampPcmTxCtlNames.length) w (ampFormTxPcmCtls priv w) := by
  rw [← List.length_drop]
  exact CtlWriter.makes_foldl (fun w b => ((w.makes_create _).create _).create _) _ w

theorem makes_ampFormAcdbCtls (w : CtlWriter) : CtlWriter.Makes 1 w (ampFormAcdbCtls w) := w.makes_create _

/-- With memory for both caches the controls of the PCMs are as many as were counted; without it they are fewer. -/
theorem makes_ampFormPcmCtls (rxGranted txGranted : Bool) (priv : AmpPriv) (w : CtlWriter) :
    ∃ n ≤ ampGetPcmCtlCount priv, CtlWriter.Makes n w (ampFormPcmCtls rxGranted txGranted priv w).2 ∧
      ((ampFormPcmCtls rxGranted txGranted priv w).1 = 0 → n = ampGetPcmCtlCount priv) := by
  have hrx := (makes_formCommonPcmCtls .rxPcm .rxBe priv.pcm.rxPcmDevs w).trans (makes_ampFormRxPcmCtls priv _)
  have htx := hrx.trans ((makes_formCommonPcmCtls .txPcm .txBe priv.pcm.txPcmDevs _).trans
    (makes_ampFormTxPcmCtls priv _))
  cases rxGranted with
  | false => exact ⟨0, Nat.zero_le _, CtlWriter.Makes.refl w, fun h => absurd (show (-ENOMEM : Int) = 0 from h) (by decide)⟩
  | true =>
    cases txGranted with
    | false =>
      refine ⟨_, ?_, hrx, fun h => absurd (show (-ENOMEM : Int) = 0 from h) (by decide)⟩
      unfold ampGetPcmCtlCount
      omega
    | true =>
      refine ⟨_, ?_, htx, fun _ => ?_⟩ <;>
        · unfold ampGetPcmCtlCount
          omega

/-- The indices that are written, in order. -/
theorem ampFormCtls_range (rxGranted txGranted : Bool) (priv : AmpPriv) :
    ∃ n ≤ totalCtlCnt priv, (ampFormCtls rxGranted txGranted priv).2.map Prod.fst = List.range n ∧
      ((ampFormCtls rxGranted txGranted priv).1 = 0 → n = totalCtlCnt priv) := by
  have hbe := (makes_ampFormBeTable priv ⟨0, []⟩).range rfl
  rw [Nat.zero_add] at hbe
  let grp := if ampGetGroupBeCtlCount priv ≠ 0 then
    ampFormGroupBeCtls priv ⟨ampGetBeCtlCount priv, (ampFormBeTable priv ⟨0, []⟩).ctls⟩ else ampFormBeTable priv ⟨0, []⟩
  have hgrp : grp.ctls.map Prod.fst = List.range (ampGetBeCtlCount priv + ampGetGroupBeCtlCount priv) := by
    by_cases h0 : ampGetGroupBeCtlCount priv = 0
    · rw [show grp = ampFormBeTable priv ⟨0, []⟩ from if_neg (not_not.2 h0), hbe, h0, Nat.add_zero]
    · rw [show grp = ampFormGroupBeCtls priv _ from if_pos h0]
      exact (makes_ampFormGroupBeCtls priv _).range hbe
  let pcm := ampFormPcmCtls rxGranted txGranted priv
    ⟨ampGetBeCtlCount priv + ampGetGroupBeCtlCount priv, grp.ctls⟩
  have hform : ampFormCtls rxGranted txGranted priv = if pcm.1 ≠ 0 then (-ENOMEM, pcm.2.ctls) else
      (0, (ampFormAcdbCtls
        ⟨ampGetBeCtlCount priv + ampGetGroupBeCtlCount priv + ampGetPcmCtlCount priv, pcm.2.ctls⟩).ctls) := rfl
  obtain ⟨n, hn, hmakes, hall⟩ := makes_ampFormPcmCtls rxGranted txGranted priv
    ⟨ampGetBeCtlCount priv + ampGetGroupBeCtlCount priv, grp.ctls⟩
  have hpcm : pcm.2.ctls.map Prod.fst = _ := hmakes.range hgrp
  rw [hform]
  unfold totalCtlCnt
  split
  · exact ⟨_, by omega, hpcm, fun h => absurd (show (-ENOMEM : Int) = 0 from h) (by decide)⟩
  · next hret =>
    rw [hall (not_not.1 hret)] at hpcm
    exact ⟨_, Nat.le_refl _, (makes_ampFormAcdbCtls _).range hpcm, fun _ => rfl⟩

end

/-- **The table is filled without a gap.**  For all lists of back ends, groups and PCMs: where there is memory for what
the PCMs cache, every index below the number of controls that were counted is written once, and no other is; and where
there is none, no index is written twice or behind the table. -/
theorem ampFormCtls_once (rxGranted txGranted : Bool) (priv : AmpPriv) (i : Nat) :
    ((ampFormCtls true true priv).1 = 0 ∧
      ((ampFormCtls true true priv).2.map Prod.fst).count i = if i < totalCtlCnt priv then 1 else 0) ∧
    ((ampFormCtls rxGranted txGranted priv).2.map Prod.fst).count i ≤ if i < totalCtlCnt priv then 1 else 0 := by
  have hcount (n : Nat) : (List.range n).count i = if i < n then 1 else 0 := by
    rw [List.nodup_range.count]
    simp only [List.mem_range]
  have hret : (ampFormCtls true true priv).1 = 0 := rfl
  obtain ⟨n, -, hall, hn⟩ := ampFormCtls_range true true priv
  obtain ⟨m, hm, hsome, -⟩ := ampFormCtls_range rxGranted txGranted priv
  refine ⟨⟨hret, ?_⟩, ?_⟩
  · rw [hall, hn hret, hcount]
  · rw [hsome, hcount]
    split <;> split <;> omega

/-! ## The controls of the back ends -/

/-- The names and the private values are those of `ampFormBeCtls`. -/
theorem ampFormBeTable_ctls (priv : AmpPriv) :
    (ampFormBeTable priv ⟨0, []⟩).ctls.map (fun p => (⟨p.2.name, p.2.privateValue⟩ : Ctl)) = ampFormBeCtls priv.be := by
  have hloop (l : CtlList) (devs : List Item) (w : CtlWriter) :
      (formBeCtls l devs w).ctls.map (fun p => (⟨p.2.name, p.2.privateValue⟩ : Ctl)) =
        w.ctls.map (fun p => ⟨p.2.name, p.2.privateValue⟩) ++
          (devs.drop 1).flatMap fun b => ampBeCtlNameExtn.map (ampCreateBeCtl b) := by
    unfold formBeCtls
    induction devs.drop 1 generalizing w with
    | nil => simp
    | cons b devs ih =>
      rw [List.foldl_cons, ih, List.flatMap_cons, ← List.append_assoc]
      simp only [CtlWriter.create, List.map_append, List.append_assoc]
      rfl
  rw [ampFormBeTable, hloop, hloop]
  rfl

end Agm.Mixer
