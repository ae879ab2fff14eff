import Agm.Mixer.CtlPlugin

/-!
# The bytes controls of the control plugin

What AGM and the plugin read and write of the payload of a TLV, when a client writes it to a control or reads it from one.
The TLV is a memory, its buffer the first bytes of it; addresses in the payload count from its start, eight bytes behind the
start of the buffer.
-/

namespace Agm.Mixer

open Agm.Lib Agm.Service Agm.Parser

/-! ## What is touched -/

/-- What else decides how a request goes: the state of the service, the allocations, what the service returns where
metadata is not concerned, whether it comes to the payload there, and for how many of the pairs. -/
structure Served where
  world : World
  alloc : Allocs
  granted : Bool
  ret : Int
  reaches : Bool
  pairs : Nat
  asked : Int × Nat

/-- What the service returns, and what it reads and writes of the payload. -/
def CtlCall.serve (t : Target) (svc : Served) (m : Mem) (c : CtlCall) : Int × List Stretch :=
  let reached (l : List Stretch) := (svc.ret, if svc.reaches then l else [])
  match c with
  | .setMetadata owner size => ((owner.set t svc.alloc size (some m) svc.world).map Prod.fst).getD (svc.ret, [])
  | .setParams _ _ size => reached [(0, size)]
  | .setParamsWithTag _ _ => reached [(0, 8), (8, 8 * min svc.pairs (m.word 4))]
  | .registerForEvents _ => reached [(0, 13), (13, m.word 8)]
  | .setCal _ _ => reached [(0, 4), (4, 8 * min svc.pairs (m.word 0))]
  | .getParams _ kept => reached [(0, kept.length)]
  | .getBufferTimestamp _ | .getBufInfo _ => reached [(0, 8)]
  | .getTagModuleInfo _ _ size => reached [(0, size)]
  | .aifConnect _ _ _ | .setLoopback _ _ _ | .setEcRef _ _ _ | .setMediaConfig _ _ _ _ _ => (svc.ret, [])

/-- The length that AGM is given with the payload.  That of `getParams` was taken when it was kept, and that of
`getTagModuleInfo` is AGM's own. -/
def CtlCall.size : CtlCall → Option Nat
  | .setMetadata _ size | .setParams _ _ size => some size
  | _ => none

/-- A request that has been served. -/
structure Ran where
  ret : Int
  handed : Option Nat
  touched : List Stretch

/-- What comes of a request is carried out; what is kept, and what is given back of it, is copied by the plugin. -/
def Outcome.serve (t : Target) (svc : Served) (m : Mem) (o : Outcome) : Ran :=
  match o with
  | .ret code => ⟨code, none, []⟩
  | .keep size => ⟨0, some size, [(0, size)]⟩
  | .call c _ =>
    let r := c.serve t svc m
    let own : List Stretch := match c with
      | .getParams _ kept => [(0, kept.length)]
      | _ => []
    ⟨o.code r.1, c.size, own ++ r.2⟩

/-- A request to `agm_ext_tlv_callback`. -/
def tlvRun (t : Target) (svc : Served) (p : AgmctlPriv) (key : Nat) (opFlag : Int) (tlv : Mem) (tlvSize : Nat) : Ran :=
  (agmExtTlvCallback p svc.asked svc.granted key opFlag tlv tlvSize).1.serve t svc (tlvData tlv)

/-! ## What is to be touched -/

/-- The length word of a TLV. -/
def tlvLength (tlv : Mem) : Nat := tlv.word 4

/-- The bytes that the counts in a payload written to a control ask for. -/
def CtlId.declared (id : CtlId) (m : Mem) : Nat :=
  match id with
  | .metadata | .beMetadata | .beSetParam => declaredLength m
  | .setParamTag => 8 + 8 * m.word 4
  | .setCalibration => 4 + 8 * m.word 0
  | .event => 13 + m.word 8
  | _ => 0

/-- The bytes that a request declares; of a control that is read the payload says nothing. -/
def AgmctlPriv.declared (p : AgmctlPriv) (key : Nat) (opFlag : Int) (m : Mem) : Nat :=
  if opFlag = 1 then (p.controls[key]?).elim 0 fun c => c.ctlId.declared m else 0

/-- The length handed on is that of the TLV, a TLV that is too short is refused, and what is touched is in the buffer. -/
structure TlvKept (tlv : Mem) (tlvSize declared : Nat) (r : Ran) : Prop where
  handed : ∀ n ∈ r.handed, n = tlvLength tlv
  refused : tlvSize < 8 + tlvLength tlv ∨ tlvLength tlv < declared → r.ret ≠ 0
  inside : ∀ s ∈ r.touched, Stretch.Below (tlvSize - 8) s

/-! ## When it is -/

section

variable (t : Target) (tlv : Mem) (tlvSize : Nat)

/-- The payload lies in the buffer. -/
def TlvFits : Prop := 8 + tlvLength tlv ≤ tlvSize

/-- The condition of metadata: what the service reads before it refuses a payload lies in the buffer, and one that it
takes is long enough. -/
def MetadataFits : Prop :=
  Covered t {} (tlvData tlv) (tlvSize - 8) ∧
    (Accepted t {} (some (tlvData tlv)) → declaredLength (tlvData tlv) ≤ tlvLength tlv ∧ TlvFits tlv tlvSize)

variable (p : AgmctlPriv) (c : AgmMixerControl)

def ReadFits : Prop :=
  match c.ctlId with
  | .getTagInfo => (agmctlBeIdx p c).isSome → 0 < tlvLen tlv → TlvFits tlv tlvSize
  | .bufTstamp | .bufInfo => TlvFits tlv tlvSize ∧ 16 ≤ tlvSize
  | .getParam => ∀ kept ∈ p.getParamPayload, kept.length ≤ tlvLen tlv → TlvFits tlv tlvSize
  | .event => TlvFits tlv tlvSize
  | _ => True

def WriteFits : Prop :=
  match c.ctlId with
  | .metadata | .beMetadata | .beSetParam => tlvLength tlv < 256 ∧ MetadataFits t tlv tlvSize
  | .setParam | .getParam => tlvLength tlv < 256 ∧ TlvFits tlv tlvSize
  | .setParamTag | .setCalibration => (agmctlBeIdx p c).isSome →
      c.ctlId.declared (tlvData tlv) ≤ tlvLength tlv ∧ TlvFits tlv tlvSize
  | .event => c.ctlId.declared (tlvData tlv) ≤ tlvLength tlv ∧ TlvFits tlv tlvSize
  | _ => True

def RequestFits (key : Nat) (opFlag : Int) : Prop :=
  ∀ c ∈ p.controls[key]?, (opFlag = 0 → ReadFits tlv tlvSize p c) ∧ (opFlag = 1 → WriteFits t tlv tlvSize p c)

end

/-! ## Metadata -/

/-- `metadata_copy` has two errors. -/
theorem metadataCopy_ret (t : Target) (alloc : Allocs) (dest : Metadata) (size : Nat) (payload : Option Mem) :
    (metadataCopy t alloc dest size payload).ret = 0 ∨ (metadataCopy t alloc dest size payload).ret = -EINVAL ∨
      (metadataCopy t alloc dest size payload).ret = -ENOMEM := by
  unfold metadataCopy
  split
  · exact .inl rfl
  split
  · exact .inr (.inl rfl)
  split
  · exact .inr (.inr rfl)
  split
  · exact .inr (.inr rfl)
  split
  · exact .inr (.inr rfl)
  · exact .inl rfl

theorem exists_found (o : MetaOwner) : ∃ w, o.found w := by
  let w := World.boot fun _ => []
  cases o with
  | session s => exact ⟨w, trivial⟩
  | sessionAif s aifId => exact ⟨{ w with hw := { w.hw with numAudioIntfs := aifId + 1 } }, .inr (Nat.lt_succ_self _)⟩
  | aif aifId => exact ⟨{ w with hw := { w.hw with numAudioIntfs := aifId + 1 } }, Nat.lt_succ_self aifId⟩

section

variable {t : Target} {alloc : Allocs} {m : Mem} {size : Nat}

/-- Fewer allocations are granted, and less is read. -/
theorem covered_of_granted (h : Covered t {} m size) : Covered t alloc m size := by
  obtain ⟨hnum, hckv, hpairs⟩ := h
  refine ⟨hnum, hckv, fun hlim => ?_⟩
  obtain ⟨hlen, hall⟩ := hpairs ⟨hlim.1, hlim.2.1, rfl, rfl⟩
  refine ⟨hlen, fun hp => hall ?_⟩
  exact Bool.and_eq_true_iff.2 ⟨rfl, (Bool.and_eq_true_iff.1 hp).2⟩

theorem accepted_of_granted (h : Accepted t alloc (some m)) : Accepted t {} (some m) := by
  intro m' hm'
  obtain ⟨hg, hc, -, -, hp⟩ := h m' hm'
  exact ⟨hg, hc, rfl, rfl, Bool.and_eq_true_iff.2 ⟨rfl, (Bool.and_eq_true_iff.1 hp).2⟩⟩

/-- The service returns what `metadata_copy` returns, if it comes to it. -/
theorem serve_setMetadata (svc : Served) (o : MetaOwner) (size : Nat) (m : Mem) :
    ∃ r reads, (CtlCall.setMetadata o size).serve t svc m = (r, reads) ∧ getParamRet r = r ∧
      (o.found svc.world → r = (metadataCopy t svc.alloc {} size (some m)).ret ∧
        reads = (metadataCopy t svc.alloc {} size (some m)).reads) ∧
      (¬ o.found svc.world → r ≠ 0 ∧ reads = []) := by
  obtain ⟨r, reads, w', hset, hfound, hnot⟩ := o.set_spec t svc.alloc size (some m) svc.world
  refine ⟨r, reads, ?_, ?_, hfound, fun h => ?_⟩
  · show ((o.set t svc.alloc size (some m) svc.world).map Prod.fst).getD (svc.ret, []) = (r, reads)
    rw [hset]
    rfl
  · by_cases h : o.found svc.world
    · rw [(hfound h).1]
      rcases metadataCopy_ret t svc.alloc {} size (some m) with hr | hr | hr <;> rw [hr] <;> rfl
    · rcases (hnot h).1 with rfl | rfl <;> rfl
  · obtain ⟨hr, hreads⟩ := hnot h
    refine ⟨?_, hreads⟩
    rcases hr with rfl | rfl <;> decide

end

/-! ## Requests -/

section

variable {t : Target} {tlv : Mem} {tlvSize declared : Nat}

theorem tlvLen_eq (tlv : Mem) : tlvLen tlv = tlvLength tlv % 256 := by
  unfold tlvLen tlvLength Mem.word
  have := (tlv 4).toNat_lt
  omega

theorem tlvLen_eq_iff : tlvLen tlv = tlvLength tlv ↔ tlvLength tlv < 256 := by
  rw [tlvLen_eq]
  omega

theorem tlvLen_le (tlv : Mem) : tlvLen tlv ≤ tlvLength tlv := by
  rw [tlvLen_eq]
  omega

/-- A request that is refused at once. -/
theorem kept_ret {code : Int} (hcode : code ≠ 0) (svc : Served) (m : Mem) :
    TlvKept tlv tlvSize declared ((Outcome.ret code).serve t svc m) :=
  ⟨fun _ h => (nomatch h), fun _ => hcode, fun _ h => absurd h List.not_mem_nil⟩

/-- A call for which the service itself decides what it returns. -/
theorem kept_call_iff {c : CtlCall} {already : Bool} {m : Mem} (own : List Stretch) (touched : Nat → List Stretch)
    (hserve : ∀ svc, (Outcome.call c already).serve t svc m =
      ⟨(Outcome.call c already).code svc.ret, c.size, own ++ if svc.reaches then touched svc.pairs else []⟩) :
    (∀ svc, TlvKept tlv tlvSize declared ((Outcome.call c already).serve t svc m)) ↔
      (∀ n ∈ c.size, n = tlvLength tlv) ∧ declared ≤ tlvLength tlv ∧ TlvFits tlv tlvSize ∧
        ∀ pairs, ∀ s ∈ own ++ touched pairs, Stretch.Below (tlvSize - 8) s := by
  constructor
  · intro h
    have hsuccess (pairs : Nat) := h ⟨World.boot fun _ => [], {}, true, 0, true, pairs, (0, 0)⟩
    simp only [hserve] at hsuccess
    have hzero : (Outcome.call c already).code 0 = 0 := by cases already <;> rfl
    have hno : ¬ (tlvSize < 8 + tlvLength tlv ∨ tlvLength tlv < declared) := fun hor => (hsuccess 0).refused hor hzero
    exact ⟨(hsuccess 0).handed, by omega, by unfold TlvFits; omega, fun pairs => (hsuccess pairs).inside⟩
  · rintro ⟨hsize, hdecl, hfits, hinside⟩ svc
    rw [hserve]
    unfold TlvFits at hfits
    refine ⟨hsize, fun hor => by omega, fun s hs => hinside svc.pairs s ?_⟩
    rcases List.mem_append.1 hs with hs | hs
    · exact List.mem_append_left _ hs
    · split at hs
      · exact List.mem_append_right _ hs
      · exact absurd hs List.not_mem_nil

/-- A call that sets metadata. -/
theorem kept_setMetadata_iff (o : MetaOwner) (size : Nat) :
    (∀ svc, TlvKept tlv tlvSize (declaredLength (tlvData tlv))
      ((Outcome.call (.setMetadata o size) true).serve t svc (tlvData tlv))) ↔
      size = tlvLength tlv ∧ MetadataFits t tlv tlvSize := by
  have hran (svc : Served) : ∃ r reads, (Outcome.call (.setMetadata o size) true).serve t svc (tlvData tlv) =
      ⟨r, some size, reads⟩ ∧
      (o.found svc.world → r = (metadataCopy t svc.alloc {} size (some (tlvData tlv))).ret ∧
        reads = (metadataCopy t svc.alloc {} size (some (tlvData tlv))).reads) ∧
      (¬ o.found svc.world → r ≠ 0 ∧ reads = []) := by
    obtain ⟨r, reads, hserve, hret, hfound, hnot⟩ := serve_setMetadata (t := t) svc o size (tlvData tlv)
    refine ⟨r, reads, ?_, hfound, hnot⟩
    show Ran.mk (getParamRet _) _ _ = _
    rw [hserve, hret]
    rfl
  constructor
  · intro h
    obtain ⟨w, hw⟩ := exists_found o
    have hkept := h ⟨w, {}, true, 0, true, 0, (0, 0)⟩
    obtain ⟨r, reads, hserve, hfound, -⟩ := hran ⟨w, {}, true, 0, true, 0, (0, 0)⟩
    obtain ⟨rfl, rfl⟩ := hfound hw
    rw [hserve] at hkept
    refine ⟨hkept.handed size rfl, (sizeKept_metadataCopy t {} {} (tlvSize - 8) _).1 ⟨hkept.inside, ?_⟩, fun hacc => ?_⟩
    · intro m hm hlt
      obtain rfl := Option.some.inj hm
      exact hkept.refused (by omega)
    · rcases metadataCopy_cases t {} size (some (tlvData tlv)) with ⟨hzero, -⟩ | ⟨-, -, hno⟩
      · have hfits := mt hkept.refused (not_not_intro hzero)
        unfold TlvFits
        omega
      · exact absurd hacc hno
  · rintro ⟨rfl, hcov, hacc⟩ svc
    obtain ⟨r, reads, hserve, hfound, hnot⟩ := hran svc
    rw [hserve]
    by_cases hw : o.found svc.world
    · obtain ⟨rfl, rfl⟩ := hfound hw
      have hsize := (sizeKept_metadataCopy t svc.alloc {} (tlvSize - 8) (tlvData tlv)).2 (covered_of_granted hcov)
      refine ⟨fun n hn => (Option.some.inj hn).symm, fun hor => ?_, hsize.1⟩
      -- what the service takes is long enough
      rcases metadataCopy_cases t svc.alloc (tlvLength tlv) (some (tlvData tlv)) with ⟨-, htaken⟩ | ⟨hne, -⟩
      · have hfits := hacc (accepted_of_granted htaken)
        unfold TlvFits at hfits
        omega
      · exact hne
    · obtain ⟨hr, rfl⟩ := hnot hw
      exact ⟨fun n hn => (Option.some.inj hn).symm, fun _ => hr, fun _ hs => absurd hs List.not_mem_nil⟩

/-! ## Reads -/

theorem kept_tagInfo_iff (p : AgmctlPriv) (c : AgmMixerControl) :
    (∀ svc, TlvKept tlv tlvSize 0 ((agmctlPcmTagInfoGet p c svc.asked (tlvLen tlv)).serve t svc (tlvData tlv))) ↔
      ((agmctlBeIdx p c).isSome → 0 < tlvLen tlv → TlvFits tlv tlvSize) := by
  have hle := tlvLen_le tlv
  unfold agmctlPcmTagInfoGet
  cases agmctlBeIdx p c with
  | none => exact iff_of_true (fun svc => kept_ret (by decide) svc _) (fun h => nomatch h)
  | some beIdx =>
    constructor
    · intro h _ hlow
      have hkept := h ⟨World.boot fun _ => [], {}, true, 0, true, 0, (0, 1)⟩
      dsimp only at hkept
      rw [if_neg (by omega)] at hkept
      have hno := mt hkept.refused (not_not_intro rfl)
      unfold TlvFits
      omega
    · intro h svc
      dsimp only
      split
      · exact kept_ret (by decide) svc _
      · next hasked =>
        have hfits := h rfl (by omega)
        unfold TlvFits at hfits
        refine ⟨fun n hn => absurd hn (Option.some_ne_none n).symm, fun hor => by omega, fun s hs => ?_⟩
        have hs : s ∈ if svc.reaches then [(0, svc.asked.2)] else [] := hs
        split at hs
        · obtain rfl := List.mem_singleton.1 hs
          exact .inr (show 0 + svc.asked.2 ≤ tlvSize - 8 by omega)
        · exact absurd hs List.not_mem_nil

theorem kept_getParamRead_iff (p : AgmctlPriv) (c : AgmMixerControl) :
    (∀ svc, TlvKept tlv tlvSize 0 ((agmctlPcmGetParamRead p c (tlvLen tlv)).1.serve t svc (tlvData tlv))) ↔
      ∀ kept ∈ p.getParamPayload, kept.length ≤ tlvLen tlv → TlvFits tlv tlvSize := by
  have hle := tlvLen_le tlv
  unfold agmctlPcmGetParamRead
  cases p.getParamPayload with
  | none => exact iff_of_true (fun svc => kept_ret (by decide) svc _) (fun _ h => nomatch h)
  | some kept =>
    dsimp only
    split
    · next hlt =>
      refine iff_of_true (fun svc => kept_ret (by decide) svc _) fun kept' hkept' hle' => ?_
      obtain rfl := Option.some.inj hkept'
      omega
    · next hge =>
      rw [kept_call_iff [(0, kept.length)] (fun _ => [(0, kept.length)]) fun svc => rfl]
      constructor
      · rintro ⟨-, -, hfits, -⟩ _ _ _
        exact hfits
      · intro h
        have hfits := h kept rfl (by omega)
        refine ⟨fun n hn => absurd hn (Option.some_ne_none n).symm, Nat.zero_le _, hfits, fun _ => ?_⟩
        unfold TlvFits at hfits
        simp only [List.singleton_append, List.forall_mem_cons, Stretch.Below]
        refine ⟨?_, ?_, fun s hs => absurd hs List.not_mem_nil⟩ <;> omega

/-- A read of a result of eight bytes. -/
theorem kept_eight_iff {c : CtlCall} (hc : c.size = none)
    (hserve : ∀ svc, (Outcome.call c false).serve t svc (tlvData tlv) =
      ⟨svc.ret, c.size, [] ++ if svc.reaches then [(0, 8)] else []⟩) :
    (∀ svc, TlvKept tlv tlvSize 0 ((Outcome.call c false).serve t svc (tlvData tlv))) ↔
      TlvFits tlv tlvSize ∧ 16 ≤ tlvSize := by
  rw [kept_call_iff [] (fun _ => [(0, 8)]) hserve, hc]
  simp only [List.nil_append, List.forall_mem_singleton, Stretch.Below, forall_const, Nat.zero_le, true_and,
    Option.mem_def]
  constructor
  · rintro ⟨-, hfits, hin⟩
    exact ⟨hfits, by omega⟩
  · rintro ⟨hfits, hin⟩
    exact ⟨fun n hn => absurd hn (Option.some_ne_none n).symm, hfits, by omega⟩

theorem kept_event : (∀ svc, TlvKept tlv tlvSize 0 (agmctlPcmEventGet.serve t svc (tlvData tlv))) ↔
    TlvFits tlv tlvSize := by
  constructor
  · intro h
    have hkept := h ⟨World.boot fun _ => [], {}, true, 0, true, 0, (0, 0)⟩
    have hno := mt hkept.refused (not_not_intro rfl)
    unfold TlvFits
    omega
  · intro hfits svc
    unfold TlvFits at hfits
    exact ⟨fun n hn => absurd hn (Option.some_ne_none n).symm, fun hor => by omega, fun _ hs => absurd hs List.not_mem_nil⟩

theorem kept_read_iff (p : AgmctlPriv) (c : AgmMixerControl) :
    (∀ svc, TlvKept tlv tlvSize 0 ((agmctlReadBytes p svc.asked c tlv).1.serve t svc (tlvData tlv))) ↔
      ReadFits tlv tlvSize p c := by
  obtain ⟨name, id, ctlId⟩ := c
  cases ctlId with
  | getTagInfo => exact kept_tagInfo_iff p _
  | bufTstamp => exact kept_eight_iff rfl fun svc => rfl
  | bufInfo => exact kept_eight_iff rfl fun svc => rfl
  | getParam => exact kept_getParamRead_iff p _
  | event => exact kept_event
  | _ => exact iff_of_true (fun svc => kept_ret (by decide) svc _) trivial

/-! ## Writes -/

/-- A call for the payload as long as it says itself. -/
theorem kept_declared_iff {c : CtlCall} {already : Bool} (touched : Nat → List Stretch) (hc : c.size = none)
    (hserve : ∀ svc, (Outcome.call c already).serve t svc (tlvData tlv) =
      ⟨(Outcome.call c already).code svc.ret, c.size, [] ++ if svc.reaches then touched svc.pairs else []⟩)
    (htouched : ∀ pairs, ∀ s ∈ touched pairs, s.1 + s.2 ≤ declared) :
    (∀ svc, TlvKept tlv tlvSize declared ((Outcome.call c already).serve t svc (tlvData tlv))) ↔
      declared ≤ tlvLength tlv ∧ TlvFits tlv tlvSize := by
  rw [kept_call_iff [] touched hserve, hc]
  constructor
  · rintro ⟨-, hdecl, hfits, -⟩
    exact ⟨hdecl, hfits⟩
  · rintro ⟨hdecl, hfits⟩
    refine ⟨fun n hn => absurd hn (Option.some_ne_none n).symm, hdecl, hfits, fun pairs s hs => .inr ?_⟩
    have := htouched pairs s hs
    unfold TlvFits at hfits
    omega

/-- A call for a payload with the length that was decoded. -/
theorem kept_setParams_iff (session : Nat) (aif : Option Nat) :
    (∀ svc, TlvKept tlv tlvSize 0
      ((Outcome.call (.setParams session aif (tlvLen tlv)) true).serve t svc (tlvData tlv))) ↔
      tlvLength tlv < 256 ∧ TlvFits tlv tlvSize := by
  rw [kept_call_iff [] (fun _ => [(0, tlvLen tlv)]) fun svc => rfl, ← tlvLen_eq_iff]
  have hle := tlvLen_le tlv
  constructor
  · rintro ⟨hsize, -, hfits, -⟩
    exact ⟨hsize _ rfl, hfits⟩
  · rintro ⟨hlen, hfits⟩
    refine ⟨fun n hn => ?_, Nat.zero_le _, hfits, fun _ s hs => .inr ?_⟩
    · obtain rfl := Option.some.inj hn
      exact hlen
    · obtain rfl := List.mem_singleton.1 hs
      unfold TlvFits at hfits
      show 0 + tlvLen tlv ≤ tlvSize - 8
      omega

theorem kept_getParamWrite_iff (p : AgmctlPriv) :
    (∀ svc, TlvKept tlv tlvSize 0
      ((agmctlPcmGetParamWrite p svc.granted (tlvData tlv) (tlvLen tlv)).1.serve t svc (tlvData tlv))) ↔
      tlvLength tlv < 256 ∧ TlvFits tlv tlvSize := by
  rw [← tlvLen_eq_iff]
  have hle := tlvLen_le tlv
  unfold TlvFits
  constructor
  · intro h
    have hkept := h ⟨World.boot fun _ => [], {}, true, 0, true, 0, (0, 0)⟩
    have hno := mt hkept.refused (not_not_intro rfl)
    exact ⟨hkept.handed _ rfl, by omega⟩
  · rintro ⟨hlen, hfits⟩ svc
    unfold agmctlPcmGetParamWrite
    split
    · refine ⟨fun n hn => ?_, fun hor => by omega, fun s hs => .inr ?_⟩
      · obtain rfl := Option.some.inj hn
        exact hlen
      · obtain rfl := List.mem_singleton.1 hs
        show 0 + tlvLen tlv ≤ tlvSize - 8
        omega
    · exact kept_ret (by decide) svc _

theorem kept_write_iff (p : AgmctlPriv) (c : AgmMixerControl) :
    (∀ svc, TlvKept tlv tlvSize (c.ctlId.declared (tlvData tlv))
      ((agmctlWriteBytes p svc.granted c tlv).1.serve t svc (tlvData tlv))) ↔ WriteFits t tlv tlvSize p c := by
  obtain ⟨name, id, ctlId⟩ := c
  have hmeta (o : MetaOwner) : (∀ svc, TlvKept tlv tlvSize (declaredLength (tlvData tlv))
      ((Outcome.call (.setMetadata o (tlvLen tlv)) true).serve t svc (tlvData tlv))) ↔
      tlvLength tlv < 256 ∧ MetadataFits t tlv tlvSize :=
    (kept_setMetadata_iff o (tlvLen tlv)).trans (and_congr_left fun _ => tlvLen_eq_iff)
  unfold agmctlWriteBytes WriteFits
  cases ctlId with
  | metadata =>
    dsimp only
    unfold agmctlPcmMetadataPut
    split <;> exact hmeta _
  | setParam =>
    dsimp only
    unfold agmctlPcmSetparamPut
    split <;> exact kept_setParams_iff _ _
  | setParamTag =>
    dsimp only
    unfold agmctlPcmSetparamtagPut
    split
    · next beIdx hbe =>
      rw [hbe]
      refine (kept_declared_iff (fun pairs => [(0, 8), (8, 8 * min pairs ((tlvData tlv).word 4))]) rfl
        (fun svc => rfl) fun pairs s hs => ?_).trans (by simp)
      simp only [List.mem_cons, List.not_mem_nil, or_false] at hs
      rcases hs with rfl | rfl <;> simp [CtlId.declared]
    · next hbe =>
      rw [hbe]
      exact iff_of_true (fun svc => kept_ret (by decide) svc _) (fun h => nomatch h)
  | event =>
    refine kept_declared_iff (fun _ => [(0, 13), (13, (tlvData tlv).word 8)]) rfl (fun svc => rfl)
      fun pairs s hs => ?_
    simp only [List.mem_cons, List.not_mem_nil, or_false] at hs
    rcases hs with rfl | rfl <;> simp [CtlId.declared]
  | setCalibration =>
    dsimp only
    unfold agmctlPcmCalibrationPut
    split
    · next beIdx hbe =>
      rw [hbe]
      refine (kept_declared_iff (fun pairs => [(0, 4), (4, 8 * min pairs ((tlvData tlv).word 0))]) rfl
        (fun svc => rfl) fun pairs s hs => ?_).trans (by simp)
      simp only [List.mem_cons, List.not_mem_nil, or_false] at hs
      rcases hs with rfl | rfl <;> simp [CtlId.declared]
    · next hbe =>
      rw [hbe]
      exact iff_of_true (fun svc => kept_ret (by decide) svc _) (fun h => nomatch h)
  | getParam => exact kept_getParamWrite_iff p
  | beMetadata => exact hmeta _
  | beSetParam => exact hmeta _
  | _ => exact iff_of_true (fun svc => kept_ret (by decide) svc _) trivial

end

/-! ## Every request -/

/-- **The bytes controls.**  However the service is and whatever it answers, a request keeps to its TLV exactly if the TLV
fits. -/
theorem ctl_bytes_kept_iff (t : Target) (p : AgmctlPriv) (key : Nat) (opFlag : Int) (tlv : Mem) (tlvSize : Nat) :
    (∀ svc, TlvKept tlv tlvSize (p.declared key opFlag (tlvData tlv)) (tlvRun t svc p key opFlag tlv tlvSize)) ↔
      RequestFits t tlv tlvSize p key opFlag := by
  unfold tlvRun agmExtTlvCallback AgmctlPriv.declared RequestFits
  cases p.controls[key]? with
  | none => exact iff_of_true (fun svc => kept_ret (by decide) svc _) (fun _ h => nomatch h)
  | some c =>
    simp only [Option.mem_some_iff, forall_eq', Option.elim_some]
    by_cases hread : opFlag = 0
    · subst hread
      simp only [if_true, forall_const, show ¬ (0 : Int) = 1 by decide, if_false, false_implies, and_true]
      exact kept_read_iff p c
    by_cases hwrite : opFlag = 1
    · subst hwrite
      simp only [if_true, forall_const, hread, false_implies, true_and]
      exact kept_write_iff p c
    · simp only [if_neg hread, if_neg hwrite]
      exact iff_of_true (fun svc => kept_ret (by decide) svc _) ⟨fun h => absurd h hread, fun h => absurd h hwrite⟩

/-- A card with one PCM, for which the first back end is selected. -/
def onePcmPriv : AgmctlPriv where
  aifList := [⟨"SPK".toList, RX⟩]
  rxCount := 1
  rxNames := ["PCM5".toList]
  rxPcmId := [5]
  pcmIdx := [5]
  pcmMtdCtl := [1]
  getParamPayload := none
  controls := [⟨"PCM5 setParam".toList, 5, .setParam⟩, ⟨"PCM5 setCalibration".toList, 5, .setCalibration⟩]

/-- A service that does what it is asked for. -/
def willing : Served := ⟨World.boot fun _ => [], {}, true, 0, true, 100, (0, 0)⟩

/-- A TLV with 256 bytes of parameters. -/
def longTlv : Mem := fun i => if i = 5 then 1 else 0

/-- A TLV with a calibration of twelve bytes that announces a hundred pairs. -/
def boldTlv : Mem := fun i => if i = 4 then 12 else if i = 8 then 100 else 0

/-- Of the 256 bytes AGM is told that they are none; the hundred pairs are accepted, and 800 bytes are read. -/
theorem ctl_bytes_not_kept :
    ((tlvRun {} willing onePcmPriv 0 1 longTlv 264).handed = some 0 ∧ tlvLength longTlv = 256 ∧
      ¬ TlvKept longTlv 264 (onePcmPriv.declared 0 1 (tlvData longTlv)) (tlvRun {} willing onePcmPriv 0 1 longTlv 264)) ∧
    ((tlvRun {} willing onePcmPriv 1 1 boldTlv 20).ret = 0 ∧
      ((4, 800) : Stretch) ∈ (tlvRun {} willing onePcmPriv 1 1 boldTlv 20).touched ∧
      ¬ TlvKept boldTlv 20 (onePcmPriv.declared 1 1 (tlvData boldTlv)) (tlvRun {} willing onePcmPriv 1 1 boldTlv 20)) := by
  refine ⟨⟨rfl, by decide, fun h => ?_⟩, rfl, by decide +kernel, fun h => ?_⟩
  · exact absurd (h.handed 0 rfl) (by decide)
  · exact h.refused (.inr (by decide)) rfl

end Agm.Mixer
