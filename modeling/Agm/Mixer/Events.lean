import Agm.Lib.Queue
import Agm.Lib.Runs
import Agm.Mixer.Backends
import Agm.Parser.CardDef

/-!
# The events of the mixer plugin

The service calls the mixer plugin back with the events of all sessions.  The plugin keeps their payloads in one queue,
from which the event control of a session takes its own, and raises a notification with the name of the control.  The name
comes from the lists of PCM devices, whose first item stands for no device and has the index 0.
-/

namespace Agm.Mixer

open Agm.Lib Agm.Service Agm.Parser CString

/-! ## The PCM devices -/

/-- An item of `rx_pcm_devs` or `tx_pcm_devs`; the name of a device can be a null pointer. -/
structure PcmItem where
  text : Option CString
  idx : Nat
  deriving DecidableEq, Repr

/-- The loop of `amp_create_pcm_info_from_card`.  The value of a device without the property is that of the device
before it. -/
def pcmItems (dir : CString) : Int → List SndDevDef → List PcmItem
  | _, [] => []
  | val, dev :: devs =>
    let val := (sndCardDefGetInt dev dir).getD val
    if val = 0 then pcmItems dir val devs else ⟨dev.name, dev.device⟩ :: pcmItems dir val devs

/-- `amp_create_pcm_info_from_card`. -/
def ampCreatePcmInfoFromCard (dir : CString) (devs : List SndDevDef) : List PcmItem :=
  ⟨some "ZERO".toList, 0⟩ :: pcmItems dir 0 devs

/-- The loops of `amp_get_pcm_info` that count the devices of a direction. -/
def countPcms (dir : CString) : Int → List SndDevDef → Nat
  | _, [] => 0
  | val, dev :: devs =>
    let val := (sndCardDefGetInt dev dir).getD val
    (if val = 1 then 1 else 0) + countPcms dir val devs

structure PcmInfo where
  rxPcmDevs : List PcmItem
  txPcmDevs : List PcmItem
  deriving DecidableEq, Repr

/-- `amp_get_pcm_info`, where the memory is granted.  The arrays have room for the devices that were counted; more than
that is written behind them. -/
def ampGetPcmInfo (card : SndDevDefCard) : Option (Except Int PcmInfo) :=
  let devs := card.pcmDevs ++ card.comprDevs
  if devs = [] then some (.error (-EINVAL))
  else
    let rx := ampCreatePcmInfoFromCard "playback".toList devs
    let tx := ampCreatePcmInfoFromCard "capture".toList devs
    if rx.length ≤ countPcms "playback".toList 0 devs + 1 ∧ tx.length ≤ countPcms "capture".toList 0 devs + 1 then
      some (.ok ⟨rx, tx⟩)
    else none

/-- The devices themselves. -/
def PcmInfo.items (info : PcmInfo) : List PcmItem := info.rxPcmDevs.drop 1 ++ info.txPcmDevs.drop 1

/-- The text of `%s`. -/
def shown (text : Option CString) : CString := text.getD "(null)".toList

def eventExtn : CString := "event".toList

/-- `amp_create_pcm_event_ctl`. -/
def ampCreatePcmEventCtl (item : PcmItem) : Ctl := ⟨ctlName (shown item.text) eventExtn, item.idx⟩

/-- The event controls that `amp_form_common_pcm_ctls` makes for the RX devices, and then for the TX devices. -/
def PcmInfo.eventCtls (info : PcmInfo) : List Ctl := info.items.map ampCreatePcmEventCtl

/-! ## Events and reads -/

/-- `struct agm_event_cb_params`. -/
structure EventParams where
  sourceModuleId : Nat
  eventId : Nat
  payload : List Nat
  deriving DecidableEq, Repr

/-- `sizeof(struct agm_event_cb_params)`, with the payload. -/
def EventParams.bytes (e : EventParams) : Nat := 12 + e.payload.length

/-- `struct event_params_node`. -/
structure EventNode where
  sessionId : Nat
  params : EventParams
  deriving DecidableEq, Repr

/-- The two queues of `struct amp_priv`, and what has come in and gone out. -/
structure AmpEvents where
  /-- the names in the notifications -/
  eventsList : List CString := []
  eventsParamlist : List EventNode := []
  /-- the events the plugin was called back with -/
  arrived : List EventNode := []
  /-- the events that reads have returned, with the private value of the control -/
  returned : List EventNode := []
  deriving DecidableEq, Repr

/-- The size of `name` in `struct snd_ctl_elem_id`. -/
def SNDRV_CTL_ELEM_ID_NAME_MAXLEN : Nat := 44

/-- The device that `amp_event_cb` finds, in the RX list and then in the TX list, the first items included. -/
def PcmInfo.find (info : PcmInfo) (sessionId : Nat) : Option PcmItem :=
  (info.rxPcmDevs ++ info.txPcmDevs).find? fun item => item.idx = sessionId

/-- Which allocations of `amp_event_cb` are granted. -/
structure Granted where
  params : Bool
  str : Bool
  data : Bool
  deriving DecidableEq, Repr

/-- `amp_event_cb`, with a client subscribed.  A device without a name brings down the process. -/
def ampEventCb (info : PcmInfo) (granted : Granted) (ev : EventNode) (a : AmpEvents) : Option AmpEvents :=
  let a := { a with arrived := a.arrived ++ [ev] }
  match info.find ev.sessionId with
  | none => some a
  | some item =>
    item.text.map fun stream =>
      let a := if granted.params then { a with eventsParamlist := a.eventsParamlist ++ [ev] } else a
      if ¬ granted.str then a
      else if ¬ granted.data then a
      else { a with eventsList := a.eventsList ++
              [bounded SNDRV_CTL_ELEM_ID_NAME_MAXLEN (stream ++ ' ' :: eventExtn)] }

/-- `amp_pcm_event_get` of the control with the private value `pval`: the event it copies, if there is one.  The size is
compared as a `uint32_t`; a payload that does not fit all the same is written behind the buffer. -/
def ampPcmEventGet (pval tlvSize : Nat) (a : AmpEvents) : Option (Except Int (Option EventParams) × AmpEvents) :=
  if tlvSize = 0 then some (.error (-EINVAL), a)
  else
    match a.eventsParamlist.find? fun ev => ev.sessionId = pval with
    | none => some (.ok none, a)
    | some ev =>
      if tlvSize < ev.params.bytes % 2 ^ 32 then some (.error (-EINVAL), a)
      else if tlvSize < ev.params.bytes then none
      else some (.ok (some ev.params),
        { a with eventsParamlist := a.eventsParamlist.eraseP fun ev => ev.sessionId = pval,
                 returned := a.returned ++ [ev] })

/-- What can happen: an event, a read of the `i`-th event control. -/
inductive AmpOp
  | event (granted : Granted) (ev : EventNode)
  | read (i : Nat) (tlvSize : Nat)
  deriving DecidableEq, Repr

def ampExec (info : PcmInfo) (op : AmpOp) (a : AmpEvents) : Option (Except Int (Option EventParams) × AmpEvents) :=
  match op with
  | .event granted ev => (ampEventCb info granted ev a).map fun a => (.ok none, a)
  | .read i tlvSize => (info.eventCtls[i]?).bind fun ctl => ampPcmEventGet ctl.pval tlvSize a

/-! ## What a client is told -/

/-- The events of a session that no read has returned yet. -/
def AmpEvents.pending (a : AmpEvents) (sessionId : Nat) : List EventNode :=
  a.eventsParamlist.filter fun ev => ev.sessionId = sessionId

/-- Every event has raised a notification with the name of an event control of its session; what reads have returned of
a session and what is pending are its events in the order they came; and a read with a large enough buffer returns the
next. -/
structure AmpEvents.Told (info : PcmInfo) (a : AmpEvents) : Prop where
  named : List.Forall₂ (fun ev name => ∃ ctl ∈ info.eventCtls, ctl.pval = ev.sessionId ∧ ctl.name = name)
    a.arrived a.eventsList
  ordered : ∀ sessionId, a.arrived.filter (fun ev => ev.sessionId = sessionId) =
    a.returned.filter (fun ev => ev.sessionId = sessionId) ++ a.pending sessionId
  next : ∀ ctl ∈ info.eventCtls, ∀ tlvSize, 0 < tlvSize → (∀ ev ∈ a.pending ctl.pval, ev.params.bytes ≤ tlvSize) →
    ∃ a', ampPcmEventGet ctl.pval tlvSize a = some (.ok ((a.pending ctl.pval).head?.map EventNode.params), a') ∧
      a'.pending ctl.pval = (a.pending ctl.pval).tail

/-- Memory is granted, and the events are of PCM sessions of the card. -/
def ampAssumed (info : PcmInfo) (_ : AmpEvents) : AmpOp → Prop
  | .event granted ev => granted = ⟨true, true, true⟩ ∧ ∃ item ∈ info.items, item.idx = ev.sessionId
  | .read _ _ => True

/-- Besides that, the session is not 0, and its devices have a name that leaves room for the extension in a
notification. -/
def ampGuard (info : PcmInfo) (a : AmpEvents) (op : AmpOp) : Prop :=
  ampAssumed info a op ∧
  match op with
  | .event _ ev => ev.sessionId ≠ 0 ∧ ∀ item ∈ info.items, item.idx = ev.sessionId →
      item.text ≠ none ∧ (shown item.text).length ≤ 37
  | .read _ _ => True

instance (info : PcmInfo) (a : AmpEvents) (op : AmpOp) : Decidable (ampAssumed info a op) := by
  unfold ampAssumed
  split <;> infer_instance

instance (info : PcmInfo) (a : AmpEvents) (op : AmpOp) : Decidable (ampGuard info a op) := by
  unfold ampGuard
  refine @instDecidableAnd _ _ inferInstance ?_
  split <;> infer_instance

/-- A notification has room for a short name, as the control has. -/
theorem notification_eq_ctlName {stream : CString} (h : stream.length ≤ 37) :
    bounded SNDRV_CTL_ELEM_ID_NAME_MAXLEN (stream ++ ' ' :: eventExtn) = ctlName stream eventExtn := by
  have hlen : (stream ++ ' ' :: eventExtn).length = stream.length + 6 := by
    rw [List.length_append]
    rfl
  rw [ctlName, (bounded_eq_self_iff (by decide)).2, (bounded_eq_self_iff (by decide)).2]
  · rw [hlen]
    exact Nat.lt_of_le_of_lt (Nat.add_le_add_right h 6) (by decide)
  · rw [hlen]
    exact Nat.lt_of_le_of_lt (Nat.add_le_add_right h 6) (by decide)

section

variable {card : SndDevDefCard} {info : PcmInfo}

/-- The first item of both lists. -/
theorem ampGetPcmInfo_ok (h : ampGetPcmInfo card = some (.ok info)) :
    info.rxPcmDevs = ⟨some "ZERO".toList, 0⟩ :: info.rxPcmDevs.drop 1 ∧
    info.txPcmDevs = ⟨some "ZERO".toList, 0⟩ :: info.txPcmDevs.drop 1 := by
  unfold ampGetPcmInfo at h
  dsimp only at h
  split at h
  · cases Option.some.inj h
  · split at h
    · obtain rfl := Except.ok.inj (Option.some.inj h)
      exact ⟨rfl, rfl⟩
    · cases h

/-- The callback finds a device of the session, if there is one and the session is not 0. -/
theorem find_mem_items (h : ampGetPcmInfo card = some (.ok info)) {sessionId : Nat} (hne : sessionId ≠ 0)
    (hcard : ∃ item ∈ info.items, item.idx = sessionId) :
    ∃ item ∈ info.items, item.idx = sessionId ∧ info.find sessionId = some item := by
  obtain ⟨hrx, htx⟩ := ampGetPcmInfo_ok h
  have hmem : ∀ item : PcmItem, item.idx = sessionId →
      (item ∈ info.rxPcmDevs ++ info.txPcmDevs ↔ item ∈ info.items) := by
    intro item hidx
    have hzero : item ≠ ⟨some "ZERO".toList, 0⟩ := by
      rintro rfl
      exact hne hidx.symm
    rw [PcmInfo.items, List.mem_append, List.mem_append, hrx, htx, List.mem_cons, List.mem_cons, or_iff_right hzero,
      or_iff_right hzero]
    rfl
  obtain ⟨item, hitem, hidx⟩ := hcard
  have hsome : (info.find sessionId).isSome := by
    rw [PcmInfo.find, List.find?_isSome]
    exact ⟨item, (hmem item hidx).2 hitem, decide_eq_true hidx⟩
  obtain ⟨found, hfound⟩ := Option.isSome_iff_exists.1 hsome
  have hfidx : found.idx = sessionId := by
    have := List.find?_some hfound
    exact of_decide_eq_true this
  exact ⟨found, (hmem found hfidx).1 (List.mem_of_find?_eq_some hfound), hfidx, hfound⟩

/-- What a callback does under the guard. -/
theorem ampEventCb_guarded (h : ampGetPcmInfo card = some (.ok info)) {granted : Granted} {ev : EventNode}
    {a : AmpEvents} (hg : ampGuard info a (.event granted ev)) :
    ∃ ctl ∈ info.eventCtls, ctl.pval = ev.sessionId ∧
      ampEventCb info granted ev a = some
        { a with arrived := a.arrived ++ [ev], eventsParamlist := a.eventsParamlist ++ [ev],
                 eventsList := a.eventsList ++ [ctl.name] } := by
  obtain ⟨⟨rfl, hcard⟩, hne, hnames⟩ := hg
  obtain ⟨item, hitem, hidx, hfind⟩ := find_mem_items h hne hcard
  obtain ⟨htext, hlen⟩ := hnames item hitem hidx
  obtain ⟨stream, hstream⟩ := Option.ne_none_iff_exists'.1 htext
  refine ⟨ampCreatePcmEventCtl item, List.mem_map_of_mem hitem, hidx, ?_⟩
  rw [hstream] at hlen
  have hname : bounded SNDRV_CTL_ELEM_ID_NAME_MAXLEN (stream ++ ' ' :: eventExtn) = ctlName stream eventExtn :=
    notification_eq_ctlName hlen
  simp only [ampEventCb, hfind, hstream, Option.map_some, if_true, not_true_eq_false, if_false]
  rw [hname, ampCreatePcmEventCtl, hstream]
  rfl

/-- A read that returns an event has taken it out of the queue; another leaves the queues as they are. -/
theorem ampPcmEventGet_cases {pval tlvSize : Nat} {a a' : AmpEvents} {r : Except Int (Option EventParams)}
    (h : ampPcmEventGet pval tlvSize a = some (r, a')) :
    a' = a ∨ ∃ ev, a.eventsParamlist.find? (fun ev => ev.sessionId = pval) = some ev ∧
      a' = { a with eventsParamlist := a.eventsParamlist.eraseP fun ev => ev.sessionId = pval,
                    returned := a.returned ++ [ev] } := by
  unfold ampPcmEventGet at h
  split at h
  · cases h
    exact .inl rfl
  · split at h
    · cases h
      exact .inl rfl
    · next ev hfind =>
      split at h
      · cases h
        exact .inl rfl
      · split at h
        · cases h
        · cases h
          exact .inr ⟨ev, hfind, rfl⟩

/-- A read with a large enough buffer returns the first event of its session. -/
theorem ampPcmEventGet_next (a : AmpEvents) {pval tlvSize : Nat} (hsize : 0 < tlvSize)
    (hfits : ∀ ev ∈ a.pending pval, ev.params.bytes ≤ tlvSize) :
    ∃ a', ampPcmEventGet pval tlvSize a = some (.ok ((a.pending pval).head?.map EventNode.params), a') ∧
      a'.pending pval = (a.pending pval).tail := by
  have hhead : (a.pending pval).head? = a.eventsParamlist.find? fun ev => ev.sessionId = pval := List.head?_filter
  cases hfind : a.eventsParamlist.find? fun ev => ev.sessionId = pval with
  | none =>
    refine ⟨a, ?_, ?_⟩
    · simp only [ampPcmEventGet, if_neg (Nat.pos_iff_ne_zero.1 hsize), hfind, hhead, Option.map_none]
    · have hnil : a.pending pval = [] := List.head?_eq_none_iff.1 (hhead.trans hfind)
      rw [hnil]
      rfl
  | some ev =>
    have hmem : ev ∈ a.pending pval := List.mem_of_mem_head? (hhead.trans hfind)
    have hle := hfits ev hmem
    have hmod := Nat.mod_le ev.params.bytes (2 ^ 32)
    refine ⟨{ a with eventsParamlist := a.eventsParamlist.eraseP fun ev => ev.sessionId = pval,
                     returned := a.returned ++ [ev] }, ?_, filter_eraseP_self a.eventsParamlist⟩
    simp only [ampPcmEventGet, if_neg (Nat.pos_iff_ne_zero.1 hsize), hfind, hhead, Option.map_some,
      if_neg (Nat.not_lt.2 (hmod.trans hle)), if_neg (Nat.not_lt.2 hle)]

/-- The step lemma: the names keep up with the events, and the events of every session keep their order. -/
theorem AmpEvents.Told.step (h : ampGetPcmInfo card = some (.ok info)) {a a' : AmpEvents} {op : AmpOp}
    {r : Except Int (Option EventParams)} (ht : a.Told info) (hg : ampGuard info a op)
    (he : ampExec info op a = some (r, a')) : a'.Told info := by
  cases op with
  | event granted ev =>
    obtain ⟨ctl, hctl, hpval, hcb⟩ := ampEventCb_guarded h hg
    simp only [ampExec, hcb, Option.map_some, Option.some.injEq, Prod.mk.injEq] at he
    obtain ⟨-, rfl⟩ := he
    refine ⟨List.rel_append ht.named (.cons ⟨ctl, hctl, hpval, rfl⟩ .nil), fun sessionId => ?_,
      fun ctl _ tlvSize => ampPcmEventGet_next _⟩
    simp only [AmpEvents.pending, List.filter_append]
    rw [ht.ordered sessionId, List.append_assoc]
    rfl
  | read i tlvSize =>
    obtain ⟨ctl, -, he⟩ := Option.bind_eq_some_iff.1 he
    obtain rfl | ⟨ev, hfind, rfl⟩ := ampPcmEventGet_cases he
    · exact ht
    · refine ⟨ht.named, fun sessionId => ?_, fun ctl _ tlvSize => ampPcmEventGet_next _⟩
      have hev : ev.sessionId = ctl.pval := by
        have := List.find?_some hfind
        exact of_decide_eq_true this
      by_cases hs : sessionId = ctl.pval
      · -- the read takes the first event that is pending for its session
        subst hs
        have hhead : (a.pending ctl.pval).head? = some ev := List.head?_filter.trans hfind
        obtain ⟨rest, hrest⟩ := List.head?_eq_some_iff.1 hhead
        have htail : (a.eventsParamlist.eraseP fun ev => ev.sessionId = ctl.pval).filter
            (fun ev => ev.sessionId = ctl.pval) = (a.pending ctl.pval).tail := filter_eraseP_self _
        show a.arrived.filter _ = (a.returned ++ [ev]).filter _ ++ List.filter _ (List.eraseP _ a.eventsParamlist)
        rw [ht.ordered, htail, hrest, List.filter_append]
        simp [hev]
      · have hother : (a.eventsParamlist.eraseP fun ev => ev.sessionId = ctl.pval).filter
            (fun ev => ev.sessionId = sessionId) = a.pending sessionId := by
          refine filter_eraseP_of_disjoint (fun ev hev => decide_eq_false ?_) _
          rw [of_decide_eq_true hev]
          exact fun h => hs h.symm
        have hne : ev.sessionId ≠ sessionId := fun h => hs (h.symm.trans hev)
        show a.arrived.filter _ = (a.returned ++ [ev]).filter _ ++ List.filter _ (List.eraseP _ a.eventsParamlist)
        rw [ht.ordered, hother, List.filter_append]
        simp [hne]

end

/-- A device with one direction. -/
def pcmDev (device : Nat) (name : String) (dir : String) : SndDevDef :=
  { nodeType := .pcm, device := device, name := some name.toList, propVals := [(dir.toList, ['1'])] }

end Agm.Mixer
