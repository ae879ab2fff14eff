import Agm.Lib.LockProg
import Agm.Service.Objects

/-!
# The locks of the service

Every session has a lock, its graph one and its callbacks one; every device has one; the pool of sessions and the list of
hardware endpoints have one each.  This module follows the functions of `graph.c`, `device.c` and `session_obj.c` through
the locks they take and give back, branch by branch where a `goto` leaves with a lock held, and the functions of `agm.c`
down to them.

A function that picks a device or a session out of a list may pick any.  `graph_open` takes no lock: nobody else has the
graph object yet.
-/

namespace Agm.Service

open Agm.Lib LockProg

/-- The locks of the service; `client` are those of the clients' callbacks. -/
inductive ServiceLock
  | session (s : SessId)
  | hwep
  | device (d : DevId)
  | graph (s : SessId)
  | pool
  | cbPool (s : SessId)
  | client (n : Nat)
  deriving DecidableEq, Repr

/-- The order in which they are taken. -/
def ServiceLock.rank : ServiceLock → Nat
  | .session _ => 0 | .hwep => 1 | .device _ => 2 | .graph _ => 3 | .pool => 4 | .cbPool _ => 4
  | .client n => 5 + n

abbrev SP := LockProg ServiceLock

/-- What is not the service's own: what the callback of a client does, and whether memory runs out in
`configure_gapless`. -/
structure Outside where
  callback : SP
  oom : Bool

namespace Locks

variable (o : Outside) (s : SessId)

/-! ## `graph.c` -/

/-- The functions of a graph take its lock, unless they are called with `NULL`. -/
def graphLocked (p : SP) : SP := (under (.graph s) p).opt

/-- The configuration callback of a module.  `configure_gapless` gives back a lock it did not take if it is left without
memory. -/
def configure : SP := if o.oom then opt (rel (.graph s)) else skip

def graphClose : SP := graphLocked s skip
def graphPrepare : SP := graphLocked s (configure o s).star
def graphStart : SP := graphLocked s skip
def graphStop : SP := graphLocked s skip
def graphPauseResume : SP := graphLocked s skip
def graphFlush : SP := graphLocked s skip
def graphSuspend : SP := graphLocked s skip
def graphSetConfig : SP := graphLocked s skip
def graphGetConfig : SP := graphLocked s skip
def graphSetConfigWithTag : SP := graphLocked s skip
def graphSetCal : SP := graphLocked s skip
def graphAdd : SP := graphLocked s (configure o s).star
def graphChange : SP := graphLocked s (configure o s).star
def graphRemove : SP := graphLocked s skip
def graphRegisterCb : SP := graphLocked s skip
def graphGetSessionTime : SP := graphLocked s skip
def graphGetBufferTimestamp : SP := graphLocked s skip
def graphSetGaplessMetadata : SP := graphLocked s skip

/-- `graph_register_for_events`: two errors give the lock back themselves. -/
def graphRegisterForEvents : SP :=
  opt <| (acq (.graph s)).seq <| alt (rel (.graph s)) <| alt (rel (.graph s)) (rel (.graph s))

/-! ## `device.c` -/

/-- Under the lock of some device. -/
def onDevice (p : SP) : SP := any fun d => under (.device d) p

def deviceOpen : SP := opt (onDevice skip)

/-- `device_prepare`: an error gives the lock back itself. -/
def devicePrepare : SP := opt <| any fun d => (acq (.device d)).seq <| alt (rel (.device d)) (rel (.device d))

def deviceStart : SP := opt (onDevice skip)
def deviceStop : SP := opt (onDevice skip)
def deviceClose : SP := opt (onDevice skip)
def deviceSetMediaConfig : SP := opt (onDevice skip)
def deviceSetMetadata : SP := onDevice skip
def deviceSetParams : SP := onDevice skip

/-! ## `session_obj.c`, with the lock of the session held -/

/-- `metadata_merge` with the metadata of a device. -/
def mergeDevice : SP := onDevice skip

def sessionGetMergedMetadata : SP := mergeDevice.star

/-- `session_obj_get_from_pool`, which `session_obj_get` is about. -/
def sessionObjGet : SP := under .pool skip

/-- `session_obj_retrieve_from_pool`. -/
def sessionObjRetrieveFromPool : SP := under .pool skip

/-- `session_obj_valid_check`: the session is found or not. -/
def sessionObjValidCheck : SP := (acq .pool).seq (alt (rel .pool) (rel .pool))

def sessionSetLoopback : SP :=
  sessionObjGet.seq <| opt <| sessionGetMergedMetadata.seq <| opt <| sessionGetMergedMetadata.seq <|
    opt (alt (graphAdd o s) (graphRemove s))

def sessionSetEcRef : SP := opt <| mergeDevice.seq <| opt (alt (graphAdd o s) (graphRemove s))

/-- `session_disconnect_aif`. -/
def sessionDisconnectAif : SP :=
  -- the device leaves, whatever the graph says
  let leave : SP := deviceStop.opt.seq <| deviceClose.seq <| rel .hwep
  mergeDevice.seq <| opt <| (acq .hwep).seq <|
    alt (mergeDevice.seq <| alt (rel .hwep) ((graphStop s).seq leave)) ((graphRemove s).seq leave)

/-- `session_apply_aif_device_params`: the graph is told with the lock of the device held. -/
def sessionApplyAifDeviceParams : SP := opt (onDevice (graphSetConfig s).opt)

/-- `session_connect_aif`.  After a failure only `graph_cleanup` and `close_device` are left. -/
def sessionConnectAif : SP :=
  let cached : SP := (graphSetConfig s).opt.seq <| opt <| (graphSetConfig s).opt.seq <| opt <|
    (sessionApplyAifDeviceParams s).seq <| opt (graphSetConfigWithTag s)
  let connect : SP := alt (graphRegisterCb s).opt (alt (graphChange o s) (graphAdd o s))
  mergeDevice.seq <| opt <| deviceOpen.seq <| opt <| connect.seq <| (opt cached).seq <|
    (opt (alt (graphClose s) (graphRemove s))).seq deviceClose.opt

def sessionOpenWithFirstDevice : SP := opt (sessionConnectAif o s)

def sessionConnectReminderDevices : SP :=
  (sessionConnectAif o s).star.seq <| opt <| (sessionDisconnectAif s).star.seq (graphClose s)

def sessionOpenWithoutDevice : SP :=
  opt <| (graphRegisterCb s).opt.seq <| (graphSetConfig s).opt.seq (graphClose s).opt

/-- The graph is prepared under the lock of the endpoints, which an error gives back itself. -/
def prepareGraph : SP := (acq .hwep).seq <| (graphPrepare o s).seq <| alt (rel .hwep) (rel .hwep)

/-- `session_prepare`, in either build. -/
def sessionPrepare : SP :=
  alt (opt <| (sessionApplyAifDeviceParams s).star.seq <| opt <| (opt (prepareGraph o s)).seq <| opt <|
      devicePrepare.star.seq <| opt (prepareGraph o s))
    (opt (prepareGraph o s))

/-- The label `device_stop` of `session_start`, which is reached with the lock of the endpoints held. -/
def startDeviceStop : SP := deviceStop.star.seq (rel .hwep)

/-- The label `unwind` of `session_start`, which is reached without it. -/
def startUnwind : SP := (acq .hwep).seq <| (opt (graphStop s)).seq startDeviceStop

/-- `session_start`, in either build. -/
def sessionStart : SP :=
  let startAif : SP := devicePrepare.opt.seq deviceStart.opt
  let early : SP := opt <| (acq .hwep).seq <| (graphStart s).seq <| alt (rel .hwep) (rel .hwep)
  let devices : SP :=
    (acq .hwep).seq <| startAif.star.seq <| alt startDeviceStop <| (opt (graphStart s)).seq <|
      alt startDeviceStop <| startAif.star.seq <| alt ((rel .hwep).seq (startUnwind s)) <|
        (opt (graphStart s)).seq <| alt startDeviceStop (rel .hwep)
  let noDevices : SP := (acq .hwep).seq <| (graphStart s).seq <| alt ((rel .hwep).seq (startUnwind s)) (rel .hwep)
  alt (opt <| (opt sessionObjGet).seq <| opt <| early.seq <| opt devices) noDevices

/-- `session_stop`. -/
def sessionStop : SP :=
  opt <| alt ((acq .hwep).seq <| (opt (graphStop s)).seq <| alt (rel .hwep) <|
      deviceStop.star.seq <| (opt (graphStop s)).seq (rel .hwep))
    (graphStop s)

/-- `session_close`. -/
def sessionClose : SP :=
  opt <| under .hwep <| (opt (graphStop s)).seq <| (graphClose s).seq <| deviceClose.opt.star

/-! ## The functions of a session object -/

/-- A `session_obj_*` function: all of it runs with the lock of the session held. -/
def locked (p : SP) : SP := under (.session s) p

def sessionObjSetSessMetadata : SP := locked s skip
def sessionObjSetSessParams : SP := locked s (opt (graphSetConfig s))
def sessionObjSetSessAifParams : SP := locked s (opt (graphSetConfig s))

def sessionObjSetSessAifParamsWithTag : SP :=
  locked s <| opt <| alt (mergeDevice.seq (opt (graphSetConfigWithTag s))) (graphSetConfigWithTag s)

def sessionObjRwAcdbParamsWithTag : SP := locked s (opt mergeDevice)

def sessionObjSetSessAifCal : SP := locked s <| opt <| alt (mergeDevice.seq (opt (graphSetCal s))) (graphSetCal s)

def sessionObjSetSessAifMetadata : SP := locked s skip
def sessionObjGetSessParams : SP := locked s (opt (graphGetConfig s))
def sessionObjGetTagWithModuleInfo : SP := locked s (opt mergeDevice)

/-- `session_obj_register_cb`, which does not take the lock of the session. -/
def sessionObjRegisterCb : SP := under (.cbPool s) skip

def sessionObjRegisterForEvents : SP := locked s (opt (graphRegisterForEvents s))

def sessionObjSessAifConnect : SP :=
  locked s <| opt <| alt
    (opt <| (sessionConnectAif o s).seq <| opt <| (sessionPrepare o s).seq <| (opt (sessionStart s)).seq <|
      opt (sessionDisconnectAif s))
    (opt (sessionDisconnectAif s))

/-- `session_obj_open`, with its label `unwind`. -/
def sessionObjOpen : SP :=
  let devices : SP := (sessionOpenWithFirstDevice o s).seq <| opt <| (sessionConnectReminderDevices o s).seq <| opt <|
    opt (sessionSetEcRef o s)
  locked s <| opt <| (alt (sessionOpenWithoutDevice s) devices).seq <| opt <| (opt (sessionSetLoopback o s)).seq <|
    opt <| (sessionDisconnectAif s).star.seq (graphClose s)

/-- `graph_set_media_config_datapath` takes no lock. -/
def sessionObjSetConfig : SP := locked s skip

def sessionObjSetNonTunnelModeConfig : SP := locked s skip
def sessionObjPrepare : SP := locked s (sessionPrepare o s)
def sessionObjStart : SP := locked s (sessionStart s)
def sessionObjStop : SP := locked s (sessionStop s)
def sessionObjClose : SP := locked s (sessionClose s)
def sessionObjPause : SP := locked s (opt (graphPauseResume s))

/-- `session_obj_flush`, which tells the clients with both locks held. -/
def sessionObjFlush : SP := locked s <| (graphFlush s).seq <| opt <| under (.cbPool s) o.callback.star

def sessionObjResume : SP := locked s (graphPauseResume s)
def sessionObjSuspend : SP := locked s (graphSuspend s)

/-- `session_obj_read`, `session_obj_write` and the others whose functions of `graph.c` take no lock. -/
def sessionObjData : SP := locked s skip

def sessionObjSetLoopback : SP := locked s (opt (sessionSetLoopback o s))
def sessionObjSetEcRef : SP := locked s (opt (sessionSetEcRef o s))
def sessionObjGetTimestamp : SP := locked s (opt (graphGetSessionTime s))
def sessionObjBufferTimestamp : SP := locked s (opt (graphGetBufferTimestamp s))
def sessionObjSetGaplessMetadata : SP := locked s (opt (graphSetGaplessMetadata s))

/-- `graph_event_cb`, which GSL calls. -/
def graphEventCb : SP := sessionObjRetrieveFromPool.seq <| opt <| under (.cbPool s) o.callback.star

/-- `session_pool_free`: every session is closed with the lock of the pool held. -/
def sessionPoolFree : SP := under .pool <| star <| any fun s => under (.session s) (sessionClose s)

end Locks

/-! ## `agm.c` -/

/-- The functions of the service that take locks, and the callback of GSL. -/
inductive ServiceFn
  | aifSetMetadata | aifSetMediaConfig | aifSetParams
  | setMetadata | setAifMetadata | getTagModuleInfo | setCal | setAifParams | getParams | setParams
  | setParamsWithTag | setParamsWithTagToAcdb | registerCb | registerForEvents | aifConnect | open | getBufferTimestamp
  | getBufInfo | setLoopback | setEcRef | writeDatapathParams | sessionidFlush
  | setConfig | setNonTunnelModeConfig | prepare | start | stop | close | pause | flush | resume | suspend
  | read | write | getHwProcessedBuffCnt | eos | getSessionTime | setGapless | writeWithMetadata | readWithMetadata
  | graphEvent
  | deinit
  deriving DecidableEq, Repr

/-- A function that names its session by an id. -/
def Locks.byId (p : SP) : SP := sessionObjGet.seq (opt p)

/-- A function that names its session by a handle. -/
def Locks.byHandle (p : SP) : SP := opt (sessionObjValidCheck.seq (opt p))

open Locks in
/-- What a call on the session `s` does to the locks. -/
def ServiceFn.locks (o : Outside) (s : SessId) : ServiceFn → SP
  | .aifSetMetadata => opt deviceSetMetadata
  | .aifSetMediaConfig => opt deviceSetMediaConfig
  | .aifSetParams => opt deviceSetParams
  | .setMetadata => byId (sessionObjSetSessMetadata s)
  | .setAifMetadata => byId (sessionObjSetSessAifMetadata s)
  | .getTagModuleInfo => byId (sessionObjGetTagWithModuleInfo s)
  | .setCal => byId (sessionObjSetSessAifCal s)
  | .setAifParams => byId (sessionObjSetSessAifParams s)
  | .getParams => byId (sessionObjGetSessParams s)
  | .setParams => byId (sessionObjSetSessParams s)
  | .setParamsWithTag => byId (sessionObjSetSessAifParamsWithTag s)
  | .setParamsWithTagToAcdb => byId (sessionObjRwAcdbParamsWithTag s)
  | .registerCb => byId (sessionObjRegisterCb s)
  | .registerForEvents => opt (byId (sessionObjRegisterForEvents s))
  | .aifConnect => byId (sessionObjSessAifConnect o s)
  | .open => byId (sessionObjOpen o s)
  | .getBufferTimestamp => byId (sessionObjBufferTimestamp s)
  | .getBufInfo => byId (sessionObjData s)
  | .setLoopback => byId (sessionObjSetLoopback o s)
  | .setEcRef => byId (sessionObjSetEcRef o s)
  | .writeDatapathParams => byId (sessionObjData s)
  | .sessionidFlush => sessionObjRetrieveFromPool.seq (opt (sessionObjFlush o s))
  | .setConfig => byHandle (sessionObjSetConfig s)
  | .setNonTunnelModeConfig => byHandle (sessionObjSetNonTunnelModeConfig s)
  | .prepare => byHandle (sessionObjPrepare o s)
  | .start => byHandle (sessionObjStart s)
  | .stop => byHandle (sessionObjStop s)
  | .close => byHandle (sessionObjClose s)
  | .pause => byHandle (sessionObjPause s)
  | .flush => byHandle (sessionObjFlush o s)
  | .resume => byHandle (sessionObjResume s)
  | .suspend => byHandle (sessionObjSuspend s)
  | .read | .write | .getHwProcessedBuffCnt | .eos | .writeWithMetadata | .readWithMetadata => byHandle (sessionObjData s)
  | .getSessionTime => byHandle (sessionObjGetTimestamp s)
  | .setGapless => byHandle (sessionObjSetGaplessMetadata s)
  | .graphEvent => graphEventCb o s
  | .deinit => opt sessionPoolFree

/-! ## The order -/

/-- Wherever only locks of a rank below `bound` are held, the program keeps to the order. -/
abbrev Ordered (bound : Nat) (p : SP) : Prop := Above ServiceLock.rank bound p

/-- The callbacks of the clients take locks of their own only, in an order; and memory does not run out. -/
structure Outside.Fair (o : Outside) : Prop where
  callback : Ordered 5 o.callback
  memory : o.oom = false

namespace Locks

variable {o : Outside} {s : SessId} {bound : Nat}

section

variable (hb : bound ≤ 3)

include hb

theorem ordered_graphLocked {p : SP} (hp : Ordered 4 p) : Ordered bound (graphLocked s p) := .opt (.under hb hp)

theorem ordered_graphCall : Ordered bound (graphLocked s skip) := ordered_graphLocked hb .skip

theorem ordered_graphRegisterForEvents : Ordered bound (graphRegisterForEvents s) :=
  .opt (.acq_seq hb (.alt .rel (.alt .rel .rel)))

theorem ordered_graphModules (ho : o.Fair) : Ordered bound (graphLocked s (configure o s).star) := by
  refine ordered_graphLocked hb (.star ?_)
  rw [configure, ho.memory]
  exact .skip

theorem ordered_graphAddOrRemove (ho : o.Fair) : Ordered bound (opt (alt (graphAdd o s) (graphRemove s))) :=
  .opt (.alt (ordered_graphModules hb ho) (ordered_graphCall hb))

end

section

variable (hb : bound ≤ 2)

include hb

theorem ordered_onDevice {p : SP} (hp : Ordered 3 p) : Ordered bound (onDevice p) := .any fun _ => .under hb hp

theorem ordered_mergeDevice : Ordered bound mergeDevice := ordered_onDevice hb .skip

theorem ordered_deviceCall : Ordered bound (opt (onDevice skip)) := .opt (ordered_onDevice hb .skip)

theorem ordered_devicePrepare : Ordered bound devicePrepare := .opt (.any fun _ => .acq_seq hb (.alt .rel .rel))

theorem ordered_sessionApplyAifDeviceParams : Ordered bound (sessionApplyAifDeviceParams s) :=
  .opt (ordered_onDevice hb (.opt (ordered_graphCall (Nat.le_refl 3))))

theorem ordered_sessionSetEcRef (ho : o.Fair) : Ordered bound (sessionSetEcRef o s) :=
  .opt (.seq (ordered_mergeDevice hb) (ordered_graphAddOrRemove (Nat.le_succ_of_le hb) ho))

theorem ordered_sessionConnectAif (ho : o.Fair) : Ordered bound (sessionConnectAif o s) := by
  have hb' : bound ≤ 3 := Nat.le_succ_of_le hb
  have hcall : Ordered bound (graphLocked s skip) := ordered_graphCall hb'
  have hcached : Ordered bound ((graphSetConfig s).opt.seq <| opt <| (graphSetConfig s).opt.seq <| opt <|
      (sessionApplyAifDeviceParams s).seq <| opt (graphSetConfigWithTag s)) :=
    .seq (.opt hcall) <| .opt <| .seq (.opt hcall) <| .opt <|
      .seq (ordered_sessionApplyAifDeviceParams hb) (.opt hcall)
  exact .seq (ordered_mergeDevice hb) <| .opt <| .seq (ordered_deviceCall hb) <| .opt <|
    .seq (.alt (.opt hcall) (.alt (ordered_graphModules hb' ho) (ordered_graphModules hb' ho))) <|
      .seq (.opt hcached) <| .seq (.opt (.alt hcall hcall)) (.opt (ordered_deviceCall hb))

end

/-- A program that may run under the lock of the endpoints, ended by giving it back. -/
theorem ends_hwep {p q : SP} (hp : Ordered 2 p) (hq : Ends ServiceLock.rank .hwep q) :
    Ends ServiceLock.rank .hwep (p.seq q) := .seq hp hq

section

variable (hb : bound ≤ 1)

include hb

theorem ordered_sessionDisconnectAif : Ordered bound (sessionDisconnectAif s) := by
  have hcall : Ordered 2 (graphLocked s skip) := ordered_graphCall (by decide)
  have hdev : Ordered 2 (opt (onDevice skip)) := ordered_deviceCall (Nat.le_refl 2)
  have hleave : Ends ServiceLock.rank .hwep (deviceStop.opt.seq <| deviceClose.seq <| rel .hwep) :=
    ends_hwep (.opt hdev) (ends_hwep hdev .rel)
  refine .seq (ordered_mergeDevice (Nat.le_succ_of_le hb)) (.opt (.acq_seq hb (.alt ?_ (ends_hwep hcall hleave))))
  exact ends_hwep (ordered_mergeDevice (Nat.le_refl 2)) (.alt .rel (ends_hwep hcall hleave))

theorem ordered_prepareGraph (ho : o.Fair) : Ordered bound (prepareGraph o s) :=
  .acq_seq hb (ends_hwep (ordered_graphModules (by decide) ho) (.alt .rel .rel))

theorem ordered_sessionPrepare (ho : o.Fair) : Ordered bound (sessionPrepare o s) := by
  have hb' : bound ≤ 2 := Nat.le_succ_of_le hb
  have hgraph : Ordered bound (opt (prepareGraph o s)) := .opt (ordered_prepareGraph hb ho)
  exact .alt (.opt <| .seq (.star (ordered_sessionApplyAifDeviceParams hb')) <| .opt <| .seq hgraph <| .opt <|
    .seq (.star (ordered_devicePrepare hb')) hgraph) hgraph

theorem ordered_sessionStart : Ordered bound (sessionStart s) := by
  have hcall : Ordered 2 (graphLocked s skip) := ordered_graphCall (by decide)
  have hdev : Ordered 2 (opt (onDevice skip)) := ordered_deviceCall (Nat.le_refl 2)
  have haif : Ordered 2 (devicePrepare.opt.seq deviceStart.opt) :=
    .seq (.opt (ordered_devicePrepare (Nat.le_refl 2))) (.opt hdev)
  have hstop : Ends ServiceLock.rank .hwep startDeviceStop := ends_hwep (.star hdev) .rel
  -- `unwind` takes the lock of the endpoints again
  have hunwind : Ordered 1 (startUnwind s) := .acq_seq (Nat.le_refl 1) (ends_hwep (.opt hcall) hstop)
  have hfailed : Ends ServiceLock.rank .hwep ((rel .hwep).seq (startUnwind s)) := .seq_above .rel hunwind
  refine .alt (.opt <| .seq (.opt (.under (hb.trans (by decide)) .skip)) <| .opt <| .seq (.opt ?_) <| .opt ?_) ?_
  · exact .acq_seq hb (ends_hwep hcall (.alt .rel .rel))
  · exact .acq_seq hb <| ends_hwep (.star haif) <| .alt hstop <| ends_hwep (.opt hcall) <| .alt hstop <|
      ends_hwep (.star haif) <| .alt hfailed <| ends_hwep (.opt hcall) <| .alt hstop .rel
  · exact .acq_seq hb (ends_hwep hcall (.alt hfailed .rel))

theorem ordered_sessionStop : Ordered bound (sessionStop s) := by
  have hcall : Ordered 2 (graphLocked s skip) := ordered_graphCall (by decide)
  refine .opt (.alt (.acq_seq hb ?_) (ordered_graphCall (hb.trans (by decide))))
  exact ends_hwep (.opt hcall) <| .alt .rel <| ends_hwep (.star (ordered_deviceCall (Nat.le_refl 2))) <|
    ends_hwep (.opt hcall) .rel

theorem ordered_sessionClose : Ordered bound (sessionClose s) := by
  have hcall : Ordered 2 (graphLocked s skip) := ordered_graphCall (by decide)
  exact .opt <| .under hb <| .seq (.opt hcall) <| .seq hcall <| .star (.opt (ordered_deviceCall (Nat.le_refl 2)))

theorem ordered_sessionSetLoopback (ho : o.Fair) : Ordered bound (sessionSetLoopback o s) := by
  have hmerged : Ordered bound sessionGetMergedMetadata := .star (ordered_mergeDevice (hb.trans (by decide)))
  exact .seq (.under (hb.trans (by decide)) .skip) <| .opt <| .seq hmerged <| .opt <| .seq hmerged <|
    ordered_graphAddOrRemove (hb.trans (by decide)) ho

end

theorem ordered_locked {p : SP} (hp : Ordered 1 p) : Ordered 0 (locked s p) := .under (Nat.le_refl 0) hp

theorem ordered_sessionObjSessAifConnect (ho : o.Fair) : Ordered 0 (sessionObjSessAifConnect o s) := by
  have hleave : Ordered 1 (opt (sessionDisconnectAif s)) := .opt (ordered_sessionDisconnectAif (Nat.le_refl 1))
  exact ordered_locked <| .opt <| .alt (.opt <| .seq (ordered_sessionConnectAif (by decide) ho) <| .opt <|
    .seq (ordered_sessionPrepare (Nat.le_refl 1) ho) <| .seq (.opt (ordered_sessionStart (Nat.le_refl 1))) hleave) hleave

theorem ordered_sessionObjOpen (ho : o.Fair) : Ordered 0 (sessionObjOpen o s) := by
  have hcall : Ordered 1 (graphLocked s skip) := ordered_graphCall (by decide)
  have hconnect : Ordered 1 (sessionConnectAif o s) := ordered_sessionConnectAif (by decide) ho
  have hleave : Ordered 1 ((sessionDisconnectAif s).star.seq (graphClose s)) :=
    .seq (.star (ordered_sessionDisconnectAif (Nat.le_refl 1))) hcall
  have hbare : Ordered 1 (sessionOpenWithoutDevice s) := .opt (.seq (.opt hcall) (.seq (.opt hcall) (.opt hcall)))
  refine ordered_locked <| .opt <| .seq (.alt hbare ?_) <| .opt <|
    .seq (.opt (ordered_sessionSetLoopback (Nat.le_refl 1) ho)) (.opt hleave)
  exact .seq (.opt hconnect) <| .opt <| .seq (.seq (.star hconnect) (.opt hleave)) <| .opt <| .opt <|
    ordered_sessionSetEcRef (by decide) ho

theorem ordered_sessionObjFlush (ho : o.Fair) : Ordered 0 (sessionObjFlush o s) :=
  ordered_locked <| .seq (ordered_graphCall (by decide)) <| .opt <| .under (show 1 ≤ 4 by decide) (.star ho.callback)

theorem ordered_graphEventCb (ho : o.Fair) : Ordered 0 (graphEventCb o s) :=
  .seq (.under (Nat.zero_le 4) .skip) <| .opt <| .under (Nat.zero_le 4) (.star ho.callback)

theorem ordered_byId {p : SP} (hp : Ordered 0 p) : Ordered 0 (byId p) :=
  .seq (.under (Nat.zero_le 4) .skip) (.opt hp)

theorem ordered_byHandle {p : SP} (hp : Ordered 0 p) : Ordered 0 (byHandle p) :=
  .opt (.seq (.acq_seq (Nat.zero_le 4) (.alt .rel .rel)) (.opt hp))

end Locks

open Locks in
/-- **Every function but `agm_deinit` keeps to the order.** -/
theorem ordered_locks {o : Outside} (ho : o.Fair) (s : SessId) {f : ServiceFn} (hf : f ≠ .deinit) :
    Ordered 0 (f.locks o s) := by
  have hcall : Ordered 1 (opt (graphLocked s skip)) := .opt (ordered_graphCall (by decide))
  have hmerge : Ordered 1 mergeDevice := ordered_mergeDevice (by decide)
  have hdev : Ordered 0 (onDevice skip) := ordered_onDevice (by decide) .skip
  have hskip : Ordered 0 (locked s skip) := ordered_locked .skip
  have htagged : Ordered 0 (locked s <| opt <| alt (mergeDevice.seq (opt (graphLocked s skip))) (graphLocked s skip)) :=
    ordered_locked (.opt (.alt (.seq hmerge hcall) (ordered_graphCall (by decide))))
  cases f with
  | aifSetMetadata => exact .opt hdev
  | aifSetMediaConfig => exact .opt (.opt hdev)
  | aifSetParams => exact .opt hdev
  | setMetadata => exact ordered_byId hskip
  | setAifMetadata => exact ordered_byId hskip
  | getTagModuleInfo => exact ordered_byId (ordered_locked (.opt hmerge))
  | setCal => exact ordered_byId htagged
  | setAifParams => exact ordered_byId (ordered_locked hcall)
  | getParams => exact ordered_byId (ordered_locked hcall)
  | setParams => exact ordered_byId (ordered_locked hcall)
  | setParamsWithTag => exact ordered_byId htagged
  | setParamsWithTagToAcdb => exact ordered_byId (ordered_locked (.opt hmerge))
  | registerCb => exact ordered_byId (.under (Nat.zero_le 4) .skip)
  | registerForEvents => exact .opt (ordered_byId (ordered_locked (.opt (ordered_graphRegisterForEvents (by decide)))))
  | aifConnect => exact ordered_byId (ordered_sessionObjSessAifConnect ho)
  | «open» => exact ordered_byId (ordered_sessionObjOpen ho)
  | getBufferTimestamp => exact ordered_byId (ordered_locked hcall)
  | getBufInfo => exact ordered_byId hskip
  | setLoopback => exact ordered_byId (ordered_locked (.opt (ordered_sessionSetLoopback (Nat.le_refl 1) ho)))
  | setEcRef => exact ordered_byId (ordered_locked (.opt (ordered_sessionSetEcRef (by decide) ho)))
  | writeDatapathParams => exact ordered_byId hskip
  | sessionidFlush => exact .seq (.under (Nat.zero_le 4) .skip) (.opt (ordered_sessionObjFlush ho))
  | setConfig => exact ordered_byHandle hskip
  | setNonTunnelModeConfig => exact ordered_byHandle hskip
  | prepare => exact ordered_byHandle (ordered_locked (ordered_sessionPrepare (Nat.le_refl 1) ho))
  | start => exact ordered_byHandle (ordered_locked (ordered_sessionStart (Nat.le_refl 1)))
  | stop => exact ordered_byHandle (ordered_locked (ordered_sessionStop (Nat.le_refl 1)))
  | close => exact ordered_byHandle (ordered_locked (ordered_sessionClose (Nat.le_refl 1)))
  | pause => exact ordered_byHandle (ordered_locked hcall)
  | flush => exact ordered_byHandle (ordered_sessionObjFlush ho)
  | resume => exact ordered_byHandle (ordered_locked (ordered_graphCall (by decide)))
  | suspend => exact ordered_byHandle (ordered_locked (ordered_graphCall (by decide)))
  | getSessionTime => exact ordered_byHandle (ordered_locked hcall)
  | setGapless => exact ordered_byHandle (ordered_locked hcall)
  | graphEvent => exact ordered_graphEventCb ho
  | deinit => exact absurd rfl hf
  | _ => exact ordered_byHandle hskip

/-! ## Threads -/

/-- Threads that call functions of the service one after the other, on any sessions. -/
def threadsOf {ι : Type} (o : Outside) (calls : ι → List (SessId × ServiceFn)) : ι → LockThread ServiceLock := fun i =>
  ⟨[], (calls i).map fun c => c.2.locks o c.1⟩

/-- **The service does not deadlock.**  However many threads call its functions, `agm_deinit` left out, and however they
are interleaved: no lock is held twice, none is given back that is not held, nobody waits in a circle, a thread that is
done has left no lock behind, and as long as one is not done one of them can go on. -/
theorem service_never_deadlocks {ι : Type} [Fintype ι] [DecidableEq ι] {o : Outside} (ho : o.Fair)
    {calls : ι → List (SessId × ServiceFn)} (hd : ∀ i, ∀ c ∈ calls i, c.2 ≠ .deinit)
    {ts : ι → LockThread ServiceLock} (h : Runs execLocks (fun _ _ => True) (threadsOf o calls) ts) :
    (∀ i j l, l ∈ (ts i).held → l ∈ (ts j).held → i = j) ∧
    (∀ i l, (ts i).returns = some l → l ∈ (ts i).held) ∧
    ¬ Deadlock (fun i l => l ∈ (ts i).held) (fun i => (ts i).wants) ∧
    (∀ i, (ts i).todo = [] → (ts i).held = []) ∧
    ((∃ i, (ts i).todo ≠ []) → ∃ i, (ts i).todo ≠ [] ∧ ∀ l, (ts i).wants = some l → LockFree ts l) := by
  have hstart : LocksRight ServiceLock.rank (threadsOf o calls) := by
    refine locksRight_of_above fun i p hp => ?_
    obtain ⟨c, hc, rfl⟩ := List.mem_map.1 hp
    exact ordered_locks ho c.1 (hd i c hc)
  have key := hstart.run h
  refine ⟨key.apart, fun i l hl => (key.typed i).returns_mem hl, key.not_deadlock,
    fun i ht => (key.typed i).held_of_todo ht, fun ⟨i, hi⟩ => key.exists_free hi⟩

/-- The callbacks of the clients take no locks. -/
def Outside.quiet : Outside := ⟨skip, false⟩

/-- Two threads, each with one call on the session `1`. -/
def twoCalls (f g : ServiceFn) (i : Bool) : List (SessId × ServiceFn) := [(1, if i then g else f)]

/-- One thread sets a loopback on a session, and another one waits to start it. -/
theorem service_never_deadlocks_waiting : ∃ ts,
    Runs execLocks (fun _ _ => True) (threadsOf .quiet (twoCalls .setLoopback .start)) ts ∧
      (ts true).wants = some (.session 1) ∧ ServiceLock.session 1 ∈ (ts false).held ∧
      ∃ i, (ts i).todo ≠ [] ∧ ∀ l, (ts i).wants = some l → LockFree ts l := by
  obtain ⟨ts, h, hseen⟩ := Runs.exists_of_execAll execLocks (fun _ _ => True)
    [(false, 0), (false, 0), (false, 0), (false, 0), (false, 0), (false, 0), (false, 1), (false, 0), (false, 0),
      (true, 1), (true, 0), (true, 0), (true, 0), (true, 0), (true, 0), (true, 1), (true, 0)]
    (threadsOf .quiet (twoCalls .setLoopback .start))
    (fun ts => ((ts false).held, (ts true).wants)) (b := ([.session 1], some (.session 1))) (by decide +kernel)
  obtain ⟨hheld, hwants⟩ := Prod.mk.inj hseen
  refine ⟨ts, h, hwants, by rw [hheld]; exact List.mem_cons_self, ?_⟩
  have hfair : Outside.quiet.Fair := ⟨.skip, rfl⟩
  refine (service_never_deadlocks hfair (fun i c hc => ?_) h).2.2.2.2 ⟨true, fun hdone => ?_⟩
  · rw [List.mem_singleton.1 hc]
    cases i
    · exact fun he => ServiceFn.noConfusion he
    · exact fun he => ServiceFn.noConfusion he
  · rw [LockThread.wants, hdone] at hwants
    cases hwants

/-- With `agm_deinit` it may: it closes a session with the lock of the pool held, while a loopback that is set on the
session looks for the other one. -/
theorem deinit_may_deadlock : ∃ ts,
    Runs execLocks (fun _ _ => True) (threadsOf .quiet (twoCalls .setLoopback .deinit)) ts ∧
      Deadlock (fun i l => l ∈ (ts i).held) (fun i => (ts i).wants) := by
  obtain ⟨ts, h, hseen⟩ := Runs.exists_of_execAll execLocks (fun _ _ => True)
    [(false, 0), (false, 0), (false, 0), (false, 0), (false, 0), (false, 0), (false, 1), (false, 0), (false, 0),
      (false, 0), (false, 1), (false, 0), (false, 0),
      (true, 1), (true, 0), (true, 0), (true, 0), (true, 1), (true, 1), (true, 0)]
    (threadsOf .quiet (twoCalls .setLoopback .deinit))
    (fun ts => (((ts false).held, (ts false).wants), ((ts true).held, (ts true).wants)))
    (b := (([.session 1], some .pool), ([.pool], some (.session 1)))) (by decide +kernel)
  obtain ⟨h0, h1⟩ := Prod.mk.inj hseen
  obtain ⟨hheld0, hwants0⟩ := Prod.mk.inj h0
  obtain ⟨hheld1, hwants1⟩ := Prod.mk.inj h1
  have hpool : WaitsFor (fun i l => l ∈ (ts i).held) (fun i => (ts i).wants) false true :=
    ⟨.pool, hwants0, by show ServiceLock.pool ∈ (ts true).held; rw [hheld1]; exact List.mem_cons_self⟩
  have hsession : WaitsFor (fun i l => l ∈ (ts i).held) (fun i => (ts i).wants) true false :=
    ⟨.session 1, hwants1, by show ServiceLock.session 1 ∈ (ts false).held; rw [hheld0]; exact List.mem_cons_self⟩
  exact ⟨ts, h, false, .tail (.single hpool) hsession⟩

/-- Without memory in `configure_gapless` the lock of the graph is given back twice. -/
theorem oom_returns_twice : ∃ ts,
    Runs execLocks (fun _ _ => True) (threadsOf ⟨skip, true⟩ (twoCalls .prepare .prepare)) ts ∧
      (ts false).returns = some (.graph 1) ∧ ServiceLock.graph 1 ∉ (ts false).held := by
  obtain ⟨ts, h, hseen⟩ := Runs.exists_of_execAll execLocks (fun _ _ => True)
    [(false, 1), (false, 0), (false, 0), (false, 0), (false, 0), (false, 0), (false, 1), (false, 0), (false, 0),
      (false, 0), (false, 1), (false, 1), (false, 0), (false, 0), (false, 0), (false, 1), (false, 0), (false, 0),
      (false, 0), (false, 1), (false, 1), (false, 0), (false, 0)]
    (threadsOf ⟨skip, true⟩ (twoCalls .prepare .prepare)) (fun ts => ((ts false).returns, (ts false).held))
    (b := (some (.graph 1), [.hwep, .session 1])) (by decide +kernel)
  obtain ⟨hreturns, hheld⟩ := Prod.mk.inj hseen
  exact ⟨ts, h, hreturns, by rw [hheld]; decide⟩

end Agm.Service
