import Agm.Lib.Pool
import Agm.Service.Device

/-!
# Sessions, their audio interfaces and their graphs

`struct session_obj`, `struct aif`, `struct graph_obj` and `struct module_info`.  A graph object belongs to one
session, so it is kept in the session under its `graph` pointer.  A back end of a session (`struct aif`) is found
by its place in `aif_pool`, a list that only grows.

A session operation runs with the lock of its session held.  `Ctx` is what it works on: the locked session `sess`,
the pool of all sessions (whose own entry for the locked session is put back on unlock) and the shared `Hw`.
-/

namespace Agm.Service

open Agm.Lib

abbrev SessId := Nat

/-! ## Configuration -/

/-- `enum agm_session_mode`. -/
inductive SessMode
  | default | noHost | nonTunnel | noConfig | compress
  deriving DecidableEq, Repr, Inhabited

/-- `sess_mode != AGM_SESSION_NON_TUNNEL && sess_mode != AGM_SESSION_NO_CONFIG`: the session has a device leg. -/
def SessMode.hasDevices (m : SessMode) : Bool := m ≠ .nonTunnel && m ≠ .noConfig

/-- `enum agm_media_format`. -/
inductive MediaFormat
  | invalid | pcmS8 | pcmS16Le | pcmS24Le | pcmS24_3Le | pcmS32Le | mp3 | aac | flac | alac | ape | wmastd | wmapro
  | vorbis | amrNb | amrWb | amrWbPlus | evrc | g711 | qcelp
  deriving DecidableEq, Repr, Inhabited

/-- `RX` and `TX` of `enum direction`; the field holds an `int`, and non-tunnel sessions use `RX | TX`. -/
def RX : Nat := 1
def TX : Nat := 2

/-- `struct agm_session_config`, the fields the session and graph code branches on. -/
structure SessionConfig where
  dir : Nat := 0
  sessMode : SessMode := .default
  deriving DecidableEq, Repr, Inhabited

/-! ## Graphs -/

/-- `graph_state_t`. -/
inductive GraphState
  | closed | opened | prepared | started | stopped
  deriving DecidableEq, Repr, Inhabited

/-- `struct module_info` as it stands in a `tagged_mod_list`. -/
structure ModuleInfo where
  tag : Tag
  mid : Nat
  miid : Nat
  isConfigured : Bool := false
  devObj : Option DevId := none
  gkv : Option Gkv := none
  deriving DecidableEq, Repr, Inhabited

/-- `struct graph_obj`. -/
structure GraphObj where
  state : GraphState
  handle : Handle
  taggedModList : List ModuleInfo := []
  isConfigBufParamsDone : Bool := false
  sprMiid : Nat := 0
  deriving DecidableEq, Repr, Inhabited

/-! ## Sessions -/

/-- `enum aif_state`. -/
inductive AifState
  | closed | close | open | opened | stopped | prepared | started
  deriving DecidableEq, Repr, Inhabited

/-- The order of the enumeration. -/
def AifState.rank : AifState → Nat
  | .closed => 0 | .close => 1 | .open => 2 | .opened => 3 | .stopped => 4 | .prepared => 5 | .started => 6

theorem AifState.eq_of_rank {s t : AifState} (h : s.rank = t.rank) : s = t := by
  cases s <;> cases t <;> first | rfl | cases h

/-- `struct aif`. -/
structure Aif where
  aifId : Nat
  devObj : DevId
  state : AifState := .closed
  sessAifMeta : Metadata := {}
  params : Option Payload := none
  tagConfig : Option TagConfig := none
  deriving DecidableEq, Repr, Inhabited

/-- The back end holds a reference to its device. -/
def Aif.isOpened (a : Aif) : Bool := AifState.opened.rank ≤ a.state.rank

/-- `enum session_state`. -/
inductive SessionState
  | closed | opened | prepared | started | stopped
  deriving DecidableEq, Repr, Inhabited

/-- `struct session_obj`. -/
structure SessionObj where
  sessId : SessId
  state : SessionState := .closed
  sessMeta : Metadata := {}
  aifPool : List Aif := []
  graph : Option GraphObj := none
  streamConfig : SessionConfig := {}
  /-- `out_media_config.format` -/
  outFormat : MediaFormat := .invalid
  params : Option Payload := none
  loopbackSessId : SessId := 0
  loopbackState : Bool := false
  ecRefAifId : Nat := 0
  ecRefState : Bool := false
  deriving DecidableEq, Repr, Inhabited

/-- `session_obj_create`. -/
def sessionObjCreate (id : SessId) : SessionObj := { sessId := id }

namespace SessionObj

def hasDevices (s : SessionObj) : Bool := s.streamConfig.sessMode.hasDevices

/-- The node at place `i` of `aif_pool`. -/
def aifAt (s : SessionObj) (i : Nat) : Aif := s.aifPool.getD i default

def setAif (s : SessionObj) (i : Nat) (a : Aif) : SessionObj := { s with aifPool := s.aifPool.set i a }

/-- `aif_obj_get_count_with_state`. -/
def countWithState (s : SessionObj) (state : AifState) (exact : Bool) : Nat :=
  s.aifPool.countP fun a => if exact then a.state = state else state.rank ≤ a.state.rank

end SessionObj

/-- What a session operation works on while it holds the lock of its session. -/
structure Ctx where
  sess : SessionObj
  pool : Pool SessionObj
  hw : Hw

abbrev M := Prog Ctx

/-- Run a device or GSL call from a session operation. -/
def onHw {α : Type} (m : Prog Hw α) : M α := zoom Ctx.hw (fun hw c => { c with hw := hw }) m

@[simp] theorem sat_onHw {α : Type} (m : Prog Hw α) (c : Ctx) (Q : α → Ctx → Prop) :
    Sat (onHw m) c Q ↔ Sat m c.hw (fun a hw => Q a { c with hw := hw }) := sat_zoom _ _ _ _ _

/-- Change the locked session. -/
def modSess (f : SessionObj → SessionObj) : M Unit := modify fun c => { c with sess := f c.sess }

@[simp] theorem sat_modSess (f : SessionObj → SessionObj) (c : Ctx) (Q : Unit → Ctx → Prop) :
    Sat (modSess f) c Q ↔ Q () { c with sess := f c.sess } := sat_modify _ _ _

/-- Change the graph object of the locked session, if there is one. -/
def modGraph (f : GraphObj → GraphObj) : M Unit := modSess fun s => { s with graph := s.graph.map f }

@[simp] theorem sat_modGraph (f : GraphObj → GraphObj) (c : Ctx) (Q : Unit → Ctx → Prop) :
    Sat (modGraph f) c Q ↔ Q () { c with sess := { c.sess with graph := c.sess.graph.map f } } :=
  sat_modify _ _ _

/-- The session with this id, as the operation sees it. -/
def Ctx.peer (c : Ctx) (id : SessId) : SessionObj := if id = c.sess.sessId then c.sess else c.pool.objs id

end Agm.Service
