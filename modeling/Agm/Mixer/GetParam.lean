import Mathlib.Data.List.Induction
import Mathlib.Logic.Function.Basic
import Agm.Lib.History
import Agm.Mixer.Events

/-!
# Parameters that are asked for in two steps

A client that wants parameters of a PCM writes the request to its control `getParam`, and reads the answer from the same
control.  In between the plugin keeps the payload of the request: `agm_mixer_plugin.c` one for every PCM,
`agm_ctl_plugin.c` one for the card.
-/

namespace Agm.Mixer

open Agm.Lib Agm.Service Agm.Parser

/-! ## Requests -/

/-- The data of a `struct snd_ctl_tlv`.  Its length is kept in an `int`, so that no allocation of a longer copy is
granted. -/
structure TlvData where
  bytes : List UInt8
  short : bytes.length < 2 ^ 31
  deriving DecidableEq

/-- A call of `agm_session_get_params`, and the PCM to which its payload was put. -/
structure GetParamsCall (π : Type) where
  session : Nat
  payload : List UInt8
  putOn : π
  deriving DecidableEq

/-- What clients do, with what AGM returns when it is called. -/
inductive ParamOp (π : Type)
  | put (p : π) (tlv : TlvData)
  | get (p : π) (tlv : TlvData) (agm : Int)

/-- What has happened: a put, or a get with the call it made, if it made one. -/
inductive ParamEvent (π : Type)
  | put (p : π) (payload : List UInt8)
  | got (p : π) (called : Option (GetParamsCall π)) (ret : Int)
  deriving DecidableEq

/-- A payload in a cache, and the PCM to which it was put. -/
structure Parked (π : Type) where
  bytes : List UInt8
  putOn : π
  deriving DecidableEq

variable {π : Type}

/-- `-EALREADY` counts as success. -/
def getParamRet (agm : Int) : Int := if agm = -EALREADY then 0 else agm

section

variable [DecidableEq π]

def ParamEvent.outstandingAfter (p : π) (o : Option (List UInt8)) : ParamEvent π → Option (List UInt8)
  | .put q payload => if q = p then some payload else o
  | .got q called _ => if q = p ∧ called ≠ none then none else o

/-- The latest payload put on a PCM that no get on it has consumed. -/
def outstanding (log : List (ParamEvent π)) (p : π) : Option (List UInt8) :=
  log.foldl (ParamEvent.outstandingAfter p) none

/-- A get passes AGM what is outstanding, byte for byte; without anything outstanding it is an error. -/
def ParamEvent.Right (session : π → Nat) (past : List (ParamEvent π)) : ParamEvent π → Prop
  | .put _ _ => True
  | .got p (some c) _ => outstanding past p = some c.payload ∧ c.session = session p ∧ c.putOn = p
  | .got p none ret => outstanding past p = none ∧ ret ≠ 0

@[simp] theorem outstanding_nil (p : π) : outstanding [] p = none := rfl

@[simp] theorem outstanding_concat (log : List (ParamEvent π)) (e : ParamEvent π) (p : π) :
    outstanding (log ++ [e]) p = e.outstandingAfter p (outstanding log p) := List.foldl_concat _ _ _ _

@[simp] theorem ParamEvent.outstandingAfter_put (p q : π) (o : Option (List UInt8)) (payload : List UInt8) :
    (ParamEvent.put q payload).outstandingAfter p o = if q = p then some payload else o := rfl

@[simp] theorem ParamEvent.outstandingAfter_refused (p q : π) (o : Option (List UInt8)) (ret : Int) :
    (ParamEvent.got q none ret).outstandingAfter p o = o := if_neg (by simp)

@[simp] theorem ParamEvent.outstandingAfter_consumed (p q : π) (o : Option (List UInt8)) (c : GetParamsCall π)
    (ret : Int) : (ParamEvent.got q (some c) ret).outstandingAfter p o = if q = p then none else o := by
  simp [ParamEvent.outstandingAfter]

instance (session : π → Nat) (past : List (ParamEvent π)) (e : ParamEvent π) : Decidable (e.Right session past) := by
  unfold ParamEvent.Right
  split <;> infer_instance

end

/-! ## The mixer plugin of tinyalsa -/

/-- The two lists of PCMs, by `pcm_adi`. -/
def PcmInfo.devs (info : PcmInfo) (dir : Nat) : List PcmItem := if dir = RX then info.rxPcmDevs else info.txPcmDevs

/-- A control `getParam`, as `amp_form_common_pcm_ctls` makes it: a list of PCMs and a place in it, not the first. -/
structure AmpPcm (info : PcmInfo) where
  dir : Nat
  idx : Nat
  dir_eq : dir = RX ∨ dir = TX
  one_le : 1 ≤ idx
  lt : idx < (info.devs dir).length
  deriving DecidableEq

section

variable {info : PcmInfo}

/-- `pcm_adi->idx_arr[idx]`. -/
def AmpPcm.session (p : AmpPcm info) : Nat := ((info.devs p.dir).get ⟨p.idx, p.lt⟩).idx

/-- `get_param_info`, of both lists. -/
abbrev GetParamInfo (info : PcmInfo) := AmpPcm info → Option (Parked (AmpPcm info))

/-- `amp_pcm_get_param_put`. -/
def ampPcmGetParamPut (cache : GetParamInfo info) (p : AmpPcm info) (tlv : TlvData) : GetParamInfo info :=
  Function.update cache p (some ⟨tlv.bytes, p⟩)

/-- `amp_pcm_get_param_get`.  AGM is told the length of the buffer, of which the payload fills the first bytes. -/
def ampPcmGetParamGet (cache : GetParamInfo info) (p : AmpPcm info) (tlv : TlvData) (agm : Int) :
    (Int × Option (GetParamsCall (AmpPcm info))) × GetParamInfo info :=
  match cache p with
  | none => ((-EINVAL, none), cache)
  | some k =>
    if tlv.bytes.length < k.bytes.length then ((-EINVAL, none), cache)
    else
      let payload := k.bytes ++ tlv.bytes.drop k.bytes.length
      ((getParamRet agm, some ⟨p.session, payload, k.putOn⟩), Function.update cache p none)

/-- The caches, and what has happened. -/
structure AmpParams (info : PcmInfo) where
  cache : GetParamInfo info := fun _ => none
  log : List (ParamEvent (AmpPcm info)) := []

def ampParamExec (s : AmpParams info) : ParamOp (AmpPcm info) → AmpParams info
  | .put p tlv => ⟨ampPcmGetParamPut s.cache p tlv, s.log ++ [.put p tlv.bytes]⟩
  | .get p tlv agm =>
    let r := ampPcmGetParamGet s.cache p tlv agm
    ⟨r.2, s.log ++ [.got p r.1.2 r.1.1]⟩

def ampParamRun (ops : List (ParamOp (AmpPcm info))) : AmpParams info := ops.foldl ampParamExec {}

/-- The buffer of a get is as long as the payload it is for. -/
def ampFits (past : List (ParamEvent (AmpPcm info))) : ParamOp (AmpPcm info) → Prop
  | .put _ _ => True
  | .get p tlv _ => ∀ payload ∈ outstanding past p, tlv.bytes.length = payload.length

instance (past : List (ParamEvent (AmpPcm info))) (op : ParamOp (AmpPcm info)) : Decidable (ampFits past op) := by
  unfold ampFits
  split <;> infer_instance

/-- Every PCM has its own payload. -/
structure AmpParams.Keeps (s : AmpParams info) : Prop where
  cached : ∀ p, (s.cache p).map Parked.bytes = outstanding s.log p
  putOn : ∀ p, ∀ k ∈ s.cache p, k.putOn = p

variable {s : AmpParams info}

theorem AmpParams.Keeps.put (h : s.Keeps) (p : AmpPcm info) (tlv : TlvData) :
    (ampParamExec s (.put p tlv)).Keeps := by
  refine ⟨?_, ?_⟩
  · intro q
    show (Function.update s.cache p (some ⟨tlv.bytes, p⟩) q).map Parked.bytes = outstanding (s.log ++ [_]) q
    rw [outstanding_concat, Function.update_apply, ParamEvent.outstandingAfter_put]
    by_cases hq : q = p
    · rw [if_pos hq, if_pos hq.symm]
      rfl
    · rw [if_neg hq, if_neg (Ne.symm hq), h.cached]
  · intro q k hk
    have hk : k ∈ Function.update s.cache p (some ⟨tlv.bytes, p⟩) q := hk
    rw [Function.update_apply] at hk
    split at hk
    · next hq =>
      obtain rfl := Option.some.inj hk
      exact hq.symm
    · exact h.putOn q k hk

/-- A get without a call. -/
theorem AmpParams.Keeps.refused (h : s.Keeps) (p : AmpPcm info) (ret : Int) :
    AmpParams.Keeps ⟨s.cache, s.log ++ [.got p none ret]⟩ := by
  refine ⟨?_, h.putOn⟩
  intro q
  rw [outstanding_concat, ParamEvent.outstandingAfter_refused, h.cached]

/-- A get with a call. -/
theorem AmpParams.Keeps.consumed (h : s.Keeps) (p : AmpPcm info) (c : GetParamsCall (AmpPcm info)) (ret : Int) :
    AmpParams.Keeps ⟨Function.update s.cache p none, s.log ++ [.got p (some c) ret]⟩ := by
  refine ⟨?_, ?_⟩
  · intro q
    show (Function.update s.cache p none q).map Parked.bytes = outstanding (s.log ++ [_]) q
    rw [outstanding_concat, Function.update_apply, ParamEvent.outstandingAfter_consumed]
    by_cases hq : q = p
    · rw [if_pos hq, if_pos hq.symm]
      rfl
    · rw [if_neg hq, if_neg (Ne.symm hq), h.cached]
  · intro q k hk
    have hk : k ∈ Function.update s.cache p none q := hk
    rw [Function.update_apply] at hk
    split at hk
    · cases hk
    · exact h.putOn q k hk

/-- What a get does. -/
theorem ampPcmGetParamGet_cases (cache : GetParamInfo info) (p : AmpPcm info) (tlv : TlvData) (agm : Int) :
    (ampPcmGetParamGet cache p tlv agm = ((-EINVAL, none), cache) ∧
        ∀ k ∈ cache p, tlv.bytes.length < k.bytes.length) ∨
      ∃ k, cache p = some k ∧ k.bytes.length ≤ tlv.bytes.length ∧ ampPcmGetParamGet cache p tlv agm =
        ((getParamRet agm, some ⟨p.session, k.bytes ++ tlv.bytes.drop k.bytes.length, k.putOn⟩),
          Function.update cache p none) := by
  unfold ampPcmGetParamGet
  cases hk : cache p with
  | none => exact Or.inl ⟨rfl, fun _ h => nomatch h⟩
  | some k =>
    dsimp only
    split
    · next hlt =>
      refine Or.inl ⟨rfl, ?_⟩
      intro k' hk'
      obtain rfl := Option.some.inj hk'
      exact hlt
    · next hge => exact Or.inr ⟨k, rfl, Nat.not_lt.1 hge, rfl⟩

/-- **One request**, in a state the plugin can be in. -/
theorem ampParamExec_step (h : s.Keeps) (op : ParamOp (AmpPcm info)) : (ampParamExec s op).Keeps ∧
    (EachAfter (ParamEvent.Right AmpPcm.session) (ampParamExec s op).log ↔
      EachAfter (ParamEvent.Right AmpPcm.session) s.log ∧ ampFits s.log op) := by
  cases op with
  | put p tlv => exact ⟨h.put p tlv, eachAfter_concat⟩
  | get p tlv agm =>
    have hout := h.cached p
    unfold ampParamExec
    dsimp only
    rcases ampPcmGetParamGet_cases s.cache p tlv agm with ⟨hr, hshort⟩ | ⟨k, hk, hle, hr⟩
    · rw [hr]
      refine ⟨h.refused p _, eachAfter_concat.trans (and_congr_right fun _ => ?_)⟩
      -- refused with nothing to pass on, or with too small a buffer
      show (outstanding s.log p = none ∧ -EINVAL ≠ 0) ↔
        ∀ payload ∈ outstanding s.log p, tlv.bytes.length = payload.length
      rw [and_iff_left (by decide), ← hout]
      cases hk : s.cache p with
      | none => simp
      | some k =>
        have hlt := hshort k hk
        refine iff_of_false (by simp) fun hfits => ?_
        exact absurd (hfits k.bytes rfl) hlt.ne
    · rw [hr]
      refine ⟨h.consumed p _ _, eachAfter_concat.trans (and_congr_right fun _ => ?_)⟩
      show (outstanding s.log p = some (k.bytes ++ _) ∧ p.session = p.session ∧ k.putOn = p) ↔
        ∀ payload ∈ outstanding s.log p, tlv.bytes.length = payload.length
      rw [← hout, hk, and_iff_left ⟨rfl, h.putOn p k hk⟩]
      constructor
      · rintro heq payload hp
        obtain rfl := Option.some.inj hp
        have hdrop := List.self_eq_append_right.1 (Option.some.inj heq)
        have := List.drop_eq_nil_iff.1 hdrop
        omega
      · intro hlen
        rw [List.drop_eq_nil_iff.2 (hlen k.bytes rfl).le, List.append_nil]
        rfl

/-- The requests on a card, through the mixer plugin. -/
theorem ampParamRun_right_iff (ops : List (ParamOp (AmpPcm info))) :
    EachAfter (ParamEvent.Right AmpPcm.session) (ampParamRun ops).log ↔
      EachAfter (fun past op => ampFits (ampParamRun past).log op) ops := by
  refine right_run_iff AmpParams.Keeps (fun s => EachAfter (ParamEvent.Right AmpPcm.session) s.log) ?_ eachAfter_nil
    (fun _ op h => ampParamExec_step h op) ops
  exact ⟨fun _ => rfl, fun _ _ hk => nomatch hk⟩

end

/-! ## The control plugin of alsa-lib -/

section

variable [DecidableEq π] (session : π → Nat)

/-- `len` in `agmctl_read_bytes` and `agmctl_write_bytes`, which see a single byte of the length word. -/
def agmctlLen (tlv : TlvData) : Nat := tlv.bytes.length % 2 ^ 8

/-- The payload of `struct agmctl_priv`, for the card. -/
abbrev AgmctlCache (π : Type) := Option (Parked π)

/-- `agmctl_pcm_get_param_put`. -/
def agmctlPcmGetParamPut (p : π) (tlv : TlvData) : AgmctlCache π := some ⟨tlv.bytes.take (agmctlLen tlv), p⟩

/-- `agmctl_pcm_get_param_get`. -/
def agmctlPcmGetParamGet (cache : AgmctlCache π) (p : π) (tlv : TlvData) (agm : Int) :
    (Int × Option (GetParamsCall π)) × AgmctlCache π :=
  match cache with
  | none => ((-EINVAL, none), cache)
  | some k =>
    if agmctlLen tlv < k.bytes.length then ((-EINVAL, none), cache)
    else ((getParamRet agm, some ⟨session p, k.bytes, k.putOn⟩), none)

structure AgmctlParams (π : Type) where
  cache : AgmctlCache π := none
  log : List (ParamEvent π) := []

def agmctlParamExec (s : AgmctlParams π) : ParamOp π → AgmctlParams π
  | .put p tlv => ⟨agmctlPcmGetParamPut p tlv, s.log ++ [.put p tlv.bytes]⟩
  | .get p tlv agm =>
    let r := agmctlPcmGetParamGet session s.cache p tlv agm
    ⟨r.2, s.log ++ [.got p r.1.2 r.1.1]⟩

def agmctlParamRun (ops : List (ParamOp π)) : AgmctlParams π := ops.foldl (agmctlParamExec session) {}

def ParamEvent.lastPutAfter (o : Option (π × List UInt8)) : ParamEvent π → Option (π × List UInt8)
  | .put p payload => some (p, payload)
  | .got _ called _ => if called ≠ none then none else o

/-- The latest payload put on any PCM of the card, if no get on any of them has made a call since. -/
def lastPut (log : List (ParamEvent π)) : Option (π × List UInt8) := log.foldl ParamEvent.lastPutAfter none

omit [DecidableEq π] in
@[simp] theorem lastPut_concat (log : List (ParamEvent π)) (e : ParamEvent π) :
    lastPut (log ++ [e]) = e.lastPutAfter (lastPut log) := List.foldl_concat _ _ _ _

/-- What the card keeps was put on the PCM of the get, has less than 256 bytes, and fits into what is left of the length
of the buffer; or it is refused, and so is due to be. -/
def agmctlFits (past : List (ParamEvent π)) : ParamOp π → Prop
  | .put _ _ => True
  | .get p tlv _ =>
    match lastPut past with
    | none => outstanding past p = none
    | some (q, payload) =>
      if q = p then payload.length < 2 ^ 8 ∧ payload.length ≤ agmctlLen tlv
      else outstanding past p = none ∧ agmctlLen tlv < payload.length % 2 ^ 8

instance (past : List (ParamEvent π)) (op : ParamOp π) : Decidable (agmctlFits past op) := by
  unfold agmctlFits
  split
  · infer_instance
  · split <;> infer_instance

/-- The card keeps what was put last, cut short, and it is outstanding on its PCM. -/
structure AgmctlParams.Keeps (s : AgmctlParams π) : Prop where
  cached : s.cache = (lastPut s.log).map fun p => ⟨p.2.take (p.2.length % 2 ^ 8), p.1⟩
  unread : ∀ p payload, lastPut s.log = some (p, payload) → outstanding s.log p = some payload

variable {session} {s : AgmctlParams π}

theorem AgmctlParams.keeps_put (p : π) (tlv : TlvData) :
    (agmctlParamExec session s (.put p tlv)).Keeps := by
  refine ⟨?_, ?_⟩
  · show some _ = (lastPut (s.log ++ [ParamEvent.put p tlv.bytes])).map _
    rw [lastPut_concat]
    rfl
  · intro q payload hq
    have hq : lastPut (s.log ++ [ParamEvent.put p tlv.bytes]) = some (q, payload) := hq
    rw [lastPut_concat] at hq
    obtain ⟨rfl, rfl⟩ := Prod.mk.inj (Option.some.inj hq)
    show outstanding (s.log ++ [_]) p = _
    rw [outstanding_concat, ParamEvent.outstandingAfter_put, if_pos rfl]

theorem AgmctlParams.Keeps.refused (h : s.Keeps) (p : π) (ret : Int) :
    AgmctlParams.Keeps ⟨s.cache, s.log ++ [.got p none ret]⟩ := by
  have hlast : lastPut (s.log ++ [ParamEvent.got p none ret]) = lastPut s.log := by
    rw [lastPut_concat, ParamEvent.lastPutAfter, if_neg (by simp)]
  refine ⟨?_, ?_⟩
  · show s.cache = (lastPut (s.log ++ [ParamEvent.got p none ret])).map _
    rw [hlast]
    exact h.cached
  · intro q payload hq
    show outstanding (s.log ++ [_]) q = _
    rw [outstanding_concat, ParamEvent.outstandingAfter_refused]
    exact h.unread q payload (hlast.symm.trans hq)

theorem AgmctlParams.Keeps.consumed (p : π) (c : GetParamsCall π) (ret : Int) :
    AgmctlParams.Keeps ⟨none, s.log ++ [.got p (some c) ret]⟩ := by
  have hlast : lastPut (s.log ++ [ParamEvent.got p (some c) ret]) = none := by
    rw [lastPut_concat, ParamEvent.lastPutAfter, if_pos (by simp)]
  refine ⟨?_, ?_⟩
  · show none = (lastPut (s.log ++ [ParamEvent.got p (some c) ret])).map _
    rw [hlast]
    rfl
  · intro q payload hq
    exact nomatch hlast.symm.trans hq

omit [DecidableEq π] in
theorem agmctlPcmGetParamGet_cases (cache : AgmctlCache π) (p : π) (tlv : TlvData) (agm : Int) :
    (agmctlPcmGetParamGet session cache p tlv agm = ((-EINVAL, none), cache) ∧
        ∀ k ∈ cache, agmctlLen tlv < k.bytes.length) ∨
      ∃ k, cache = some k ∧ k.bytes.length ≤ agmctlLen tlv ∧ agmctlPcmGetParamGet session cache p tlv agm =
        ((getParamRet agm, some ⟨session p, k.bytes, k.putOn⟩), none) := by
  unfold agmctlPcmGetParamGet
  cases cache with
  | none => exact Or.inl ⟨rfl, fun _ h => nomatch h⟩
  | some k =>
    dsimp only
    split
    · next hlt =>
      refine Or.inl ⟨rfl, ?_⟩
      intro k' hk'
      obtain rfl := Option.some.inj hk'
      exact hlt
    · next hge => exact Or.inr ⟨k, rfl, Nat.not_lt.1 hge, rfl⟩

/-- The length of what is kept of a payload. -/
theorem length_take_mod (payload : List UInt8) :
    (payload.take (payload.length % 2 ^ 8)).length = payload.length % 2 ^ 8 := by
  rw [List.length_take, Nat.min_eq_left (Nat.mod_le _ _)]

theorem agmctlParamExec_step (h : s.Keeps) (op : ParamOp π) : (agmctlParamExec session s op).Keeps ∧
    (EachAfter (ParamEvent.Right session) (agmctlParamExec session s op).log ↔
      EachAfter (ParamEvent.Right session) s.log ∧ agmctlFits s.log op) := by
  cases op with
  | put p tlv => exact ⟨AgmctlParams.keeps_put p tlv, eachAfter_concat⟩
  | get p tlv agm =>
    have hcached := h.cached
    unfold agmctlParamExec agmctlFits
    dsimp only
    rcases agmctlPcmGetParamGet_cases s.cache p tlv agm with ⟨hr, hshort⟩ | ⟨k, hk, hle, hr⟩
    · rw [hr]
      refine ⟨h.refused p _, eachAfter_concat.trans (and_congr_right fun _ => ?_)⟩
      show (outstanding s.log p = none ∧ -EINVAL ≠ 0) ↔ _
      rw [and_iff_left (by decide)]
      cases hlast : lastPut s.log with
      | none => rfl
      | some l =>
        obtain ⟨q, payload⟩ := l
        have hunread := h.unread q payload hlast
        rw [hlast] at hcached
        have hlt : agmctlLen tlv < payload.length % 2 ^ 8 := by
          have := hshort _ hcached
          rwa [length_take_mod] at this
        dsimp only
        split
        · next hq =>
          subst hq
          rw [hunread]
          refine iff_of_false (fun hnone => nomatch hnone) ?_
          rintro ⟨hpayload, hfits⟩
          rw [Nat.mod_eq_of_lt hpayload] at hlt
          omega
        · rw [and_iff_left hlt]
    · rw [hr]
      refine ⟨AgmctlParams.Keeps.consumed p _ _, eachAfter_concat.trans (and_congr_right fun _ => ?_)⟩
      show (outstanding s.log p = some k.bytes ∧ session p = session p ∧ k.putOn = p) ↔ _
      rw [hk] at hcached
      obtain ⟨⟨q, payload⟩, hlast, rfl⟩ := Option.map_eq_some_iff.1 hcached.symm
      have hunread := h.unread q payload hlast
      rw [hlast]
      dsimp only at hle ⊢
      rw [length_take_mod] at hle
      split
      · next hq =>
        subst hq
        rw [hunread, and_iff_left ⟨rfl, rfl⟩]
        constructor
        · intro heq
          have hsame := congrArg List.length (Option.some.inj heq)
          rw [length_take_mod] at hsame
          omega
        · rintro ⟨hpayload, -⟩
          rw [Nat.mod_eq_of_lt hpayload, List.take_length]
      · next hq => exact iff_of_false (fun hright => hq hright.2.2) fun hfits => hfits.2.not_ge hle

/-- The requests on a card, through the control plugin. -/
theorem agmctlParamRun_right_iff (ops : List (ParamOp π)) :
    EachAfter (ParamEvent.Right session) (agmctlParamRun session ops).log ↔
      EachAfter (fun past op => agmctlFits (agmctlParamRun session past).log op) ops := by
  refine right_run_iff AgmctlParams.Keeps (fun s => EachAfter (ParamEvent.Right session) s.log) ?_ eachAfter_nil
    (fun _ op h => agmctlParamExec_step h op) ops
  exact ⟨rfl, fun _ _ hp => nomatch hp⟩

end

/-- The session of a PCM of `agmctl_priv`, which keeps the ids of the PCMs in `pcm_idx`. -/
def agmctlSession (pcmIdx : List Nat) (p : Fin pcmIdx.length) : Nat := pcmIdx.get p

/-- **The parked payloads.**  Through either plugin, every get passes AGM the payload it is for exactly as long as every
get comes when it fits. -/
theorem get_param_right_iff (info : PcmInfo) (ampOps : List (ParamOp (AmpPcm info))) (pcmIdx : List Nat)
    (agmctlOps : List (ParamOp (Fin pcmIdx.length))) :
    (EachAfter (ParamEvent.Right AmpPcm.session) (ampParamRun ampOps).log ↔
      EachAfter (fun past op => ampFits (ampParamRun past).log op) ampOps) ∧
    (EachAfter (ParamEvent.Right (agmctlSession pcmIdx)) (agmctlParamRun (agmctlSession pcmIdx) agmctlOps).log ↔
      EachAfter (fun past op => agmctlFits (agmctlParamRun (agmctlSession pcmIdx) past).log op) agmctlOps) :=
  ⟨ampParamRun_right_iff ampOps, agmctlParamRun_right_iff agmctlOps⟩

/-- A card with the playback PCMs 100 and 101. -/
def twoPcms : PcmInfo :=
  ⟨[⟨some "ZERO".toList, 0⟩, ⟨some "PCM100".toList, 100⟩, ⟨some "PCM101".toList, 101⟩], [⟨some "ZERO".toList, 0⟩]⟩

theorem rx_or_tx : RX = RX ∨ RX = TX := .inl rfl

def pcm100 : AmpPcm twoPcms := ⟨RX, 1, rx_or_tx, by decide, by decide⟩

/-- A request of one byte read with a buffer of two: the mixer plugin passes both on.  Requests to both PCMs of a card:
the control plugin passes the second request on for the first PCM, and has nothing left for the second. -/
theorem get_param_mixed_up :
    (∃ log, (ampParamRun [.put pcm100 ⟨[7], by decide⟩, .get pcm100 ⟨[0, 1], by decide⟩ 0]).log = log ∧
      log.getLast? = some (.got pcm100 (some ⟨100, [7, 1], pcm100⟩) 0) ∧
      ¬ EachAfter (ParamEvent.Right AmpPcm.session) log) ∧
    ∃ log, (agmctlParamRun (agmctlSession [100, 101]) [.put 0 ⟨[7], by decide⟩, .put 1 ⟨[8], by decide⟩,
        .get 0 ⟨[0], by decide⟩ 0, .get 1 ⟨[0], by decide⟩ 0]).log = log ∧
      log.drop 2 = [.got 0 (some ⟨100, [8], 1⟩) 0, .got 1 none (-EINVAL)] ∧
      ¬ EachAfter (ParamEvent.Right (agmctlSession [100, 101])) log := by
  refine ⟨⟨_, rfl, ?_, ?_⟩, ⟨_, rfl, ?_, ?_⟩⟩
  all_goals decide +kernel

end Agm.Mixer
