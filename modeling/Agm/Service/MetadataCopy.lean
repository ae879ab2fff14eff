import Agm.Lib.Bytes
import Agm.Service.Walks

/-!
# Metadata from the client's bytes

`metadata_copy` (`metadata.c`) and the functions that hand it what a client sent: `session_obj_set_sess_metadata`,
`session_obj_set_sess_aif_metadata` and `device_set_metadata`, reached from `agm.c` or through the binder server
(`agm_server_wrapper.cpp`), which first copies the client's vector into a block of its own.

Addresses count from the start of the payload, modulo the width of `size_t`, as the layout macros compute them.  The
memory behind the payload has some content too, and what is read is noted, so that reading past the end of the payload
can be spoken about.
-/

namespace Agm.Service

open Agm.Lib

/-- What the service is built for: the limits, and the width of `size_t`. -/
structure Target where
  build : Build := {}
  lp64 : Bool := true
  deriving DecidableEq, Repr

/-- `size_t` counts modulo this. -/
def Target.sizeMod (t : Target) : Nat := if t.lp64 then 2 ^ 64 else 2 ^ 32

/-- `calloc` of `n` objects of `size` bytes: it fails when it is refused, and when the product does not fit. -/
def Target.calloc (t : Target) (granted : Bool) (n size : Nat) : Bool := granted && decide (n * size < t.sizeMod)

/-! ## The layout -/

section

variable (t : Target) (m : Mem)

def numGkv : Nat := m.word 0

def ptrToGkv : Nat := 4

def ptrToNumCkv : Nat := (4 + numGkv m * 8) % t.sizeMod

def numCkv : Nat := m.word (ptrToNumCkv t m)

def ptrToCkv : Nat := (ptrToNumCkv t m + 4) % t.sizeMod

def ptrToPropId : Nat := (ptrToCkv t m + numCkv t m * 8) % t.sizeMod

def propId : Nat := m.word (ptrToPropId t m)

def ptrToNumProps : Nat := (ptrToPropId t m + 4) % t.sizeMod

def numProps : Nat := m.word (ptrToNumProps t m)

def ptrToProps : Nat := (ptrToNumProps t m + 4) % t.sizeMod

end

/-- The `n` key-value pairs from `a` on. -/
def keyValues (m : Mem) (a n : Nat) : List KeyValue :=
  (List.range n).map fun i => ⟨m.word (a + 8 * i), m.word (a + 8 * i + 4)⟩

/-- The number of bytes a payload with these counts takes. -/
def declaredLength (m : Mem) : Nat :=
  let g := m.word 0
  let c := m.word (4 + 8 * g)
  let n := m.word (12 + 8 * g + 8 * c)
  16 + 8 * g + 8 * c + 4 * n

/-! ## `metadata_copy` -/

/-- Which of the three allocations of `metadata_copy` are granted. -/
structure Allocs where
  gkv : Bool := true
  ckv : Bool := true
  props : Bool := true
  deriving DecidableEq, Repr

/-- What `metadata_copy` ends with: its return code, the destination, and what it has read of the payload. -/
structure Copied where
  ret : Int
  dest : Metadata
  reads : List Stretch
  deriving DecidableEq, Repr

/-- `metadata_free`: the three arrays are freed and the structure is cleared. -/
def metadataFree (_ : Metadata) : Metadata := {}

/-- The key counts are read before anything else, both of them also when the first is over the limit: the message that
says so prints them. -/
def countReads (t : Target) (m : Mem) : List Stretch := [(0, 4), (ptrToNumCkv t m, 4)]

/-- What is read once the first two arrays are there: the pairs, the property id and the number of values. -/
def pairReads (t : Target) (m : Mem) : List Stretch :=
  countReads t m ++ [(ptrToGkv, numGkv m * 8), (ptrToCkv t m, numCkv t m * 8), (ptrToPropId t m, 4),
    (ptrToNumProps t m, 4)]

/-- `metadata_copy`.  The size is not used. -/
def metadataCopy (t : Target) (alloc : Allocs) (dest : Metadata) (_size : Nat) (payload : Option Mem) : Copied :=
  match payload with
  | none => ⟨0, dest, []⟩
  | some m =>
    if numGkv m > t.build.maxKvpair ∨ numCkv t m > t.build.maxKvpair then ⟨-EINVAL, dest, countReads t m⟩
    else if ¬ t.calloc alloc.gkv (numGkv m) 8 then ⟨-ENOMEM, { dest with gkv := [] }, countReads t m⟩
    else if ¬ t.calloc alloc.ckv (numCkv t m) 8 then
      ⟨-ENOMEM, metadataFree dest, countReads t m ++ [(ptrToGkv, numGkv m * 8)]⟩
    else if ¬ t.calloc alloc.props (numProps t m) 4 then ⟨-ENOMEM, metadataFree dest, pairReads t m⟩
    else
      ⟨0, { gkv := keyValues m ptrToGkv (numGkv m)
            ckv := keyValues m (ptrToCkv t m) (numCkv t m)
            propId := propId t m
            props := some (m.words (ptrToProps t m) (numProps t m)) },
        pairReads t m ++ [(ptrToProps t m, numProps t m * 4)]⟩

/-! ## The setters -/

section

variable (t : Target) (alloc : Allocs) (size : Nat) (payload : Option Mem)

/-- `session_obj_set_sess_metadata`.  With the return code comes what was read of the payload. -/
def setSessMetadata : M (Int × List Stretch) := do
  let c ← get
  let p := metadataCopy t alloc (metadataFree c.sess.sessMeta) size payload
  modSess fun s => { s with sessMeta := p.dest }
  pure (p.ret, p.reads)

/-- `session_obj_set_sess_aif_metadata`. -/
def setSessAifMetadata (aifId : Nat) : M (Int × List Stretch) := do
  let r ← aifObjGet aifId
  match r with
  | .error e => pure (e, [])
  | .ok i => do
    let c ← get
    let p := metadataCopy t alloc (metadataFree (c.sess.aifAt i).sessAifMeta) size payload
    modSess fun s => s.setAif i { s.aifAt i with sessAifMeta := p.dest }
    pure (p.ret, p.reads)

/-- `device_set_metadata`. -/
def deviceSetMetadata (d : DevId) : Prog Hw (Int × List Stretch) := do
  let hw ← get
  let p := metadataCopy t alloc (metadataFree (hw.devs d).metadata) size payload
  modify fun hw => hw.setDev d { hw.devs d with metadata := p.dest }
  pure (p.ret, p.reads)

end

/-- The operations of the service that set metadata are the setters, on what `metadata_copy` makes of the payload. -/
theorem setSessMetadata_ret (t : Target) (alloc : Allocs) (size : Nat) (payload : Option Mem) :
    Prod.fst <$> setSessMetadata t alloc size payload =
      sessionObjSetSessMetadata (metadataCopy t alloc {} size payload).ret
        (metadataCopy t alloc {} size payload).dest := rfl

theorem setSessAifMetadata_ret (t : Target) (alloc : Allocs) (size : Nat) (payload : Option Mem) (aifId : Nat) :
    Prod.fst <$> setSessAifMetadata t alloc size payload aifId =
      sessionObjSetSessAifMetadata aifId (metadataCopy t alloc {} size payload).ret
        (metadataCopy t alloc {} size payload).dest := by
  unfold setSessAifMetadata sessionObjSetSessAifMetadata
  rw [map_bind]
  congr 1
  funext r
  cases r <;> rfl

/-! ## The entry points -/

section

variable (t : Target) (alloc : Allocs)

/-- Run a session function with the lock of its session held. -/
def World.lockedFor {α : Type} (w : World) (s : SessId) (m : M α) : Option (α × World) :=
  (m (w.lock s)).map fun p => (p.1, unlock s p.2)

/-- `agm_session_set_metadata`. -/
def agmSessionSetMetadata (s : SessId) (size : Nat) (payload : Option Mem) (w : World) :
    Option ((Int × List Stretch) × World) :=
  (w.get s).lockedFor s (setSessMetadata t alloc size payload)

/-- `agm_session_aif_set_metadata`. -/
def agmSessionAifSetMetadata (s : SessId) (aifId : Nat) (size : Nat) (payload : Option Mem) (w : World) :
    Option ((Int × List Stretch) × World) :=
  (w.get s).lockedFor s (setSessAifMetadata t alloc size payload aifId)

/-- `agm_aif_set_metadata`. -/
def agmAifSetMetadata (aifId : Nat) (size : Nat) (payload : Option Mem) (w : World) :
    Option ((Int × List Stretch) × World) :=
  match deviceGetObj aifId w.hw with
  | .error e => some ((e, []), w)
  | .ok d => (deviceSetMetadata t alloc size payload d w.hw).map fun p => (p.1, { w with hw := p.2 })

/-- Whose metadata a client sets. -/
inductive MetaOwner
  | session (s : SessId) | sessionAif (s : SessId) (aifId : Nat) | aif (aifId : Nat)
  deriving DecidableEq, Repr

/-- The function of `agm.h` for each. -/
def MetaOwner.set : MetaOwner → Nat → Option Mem → World → Option ((Int × List Stretch) × World)
  | .session s => agmSessionSetMetadata t alloc s
  | .sessionAif s aifId => agmSessionAifSetMetadata t alloc s aifId
  | .aif aifId => agmAifSetMetadata t alloc aifId

/-- The block of `size` bytes the server copies the client's vector into, and the heap around it. -/
def serverBlock (data : List UInt8) (size : Nat) (heap : Mem) : Mem := fun i =>
  if i < size then data.getD i 0 else heap i

/-- `ipc_agm_session_set_metadata`, `ipc_agm_session_aif_set_metadata` and `ipc_agm_aif_set_metadata` of the binder
server, which differ in the function they call; `granted` is the answer to the allocation of the block.  The list of
clients that the first two keep is left out. -/
def MetaOwner.ipcSet (o : MetaOwner) (granted : Bool) (heap : Mem) (size : Nat) (data : List UInt8) (w : World) :
    Option ((Int × List Stretch) × World) :=
  if data.length < size then some ((-EINVAL, []), w)
  else if ¬ granted then some ((-ENOMEM, []), w)
  else o.set t alloc size (some (serverBlock data size heap)) w

/-- The entry point finds what its ids name, and comes to `metadata_copy`. -/
def MetaOwner.found (o : MetaOwner) (w : World) : Prop :=
  match o with
  | .session _ => True
  | .sessionAif s aifId =>
    (∃ a ∈ ((w.get s).pool.objs s).aifPool, a.aifId = aifId) ∨ aifId < w.hw.numAudioIntfs
  | .aif aifId => aifId < w.hw.numAudioIntfs

end

/-! ## What is read -/

section

variable {t : Target} {m : Mem} (hg : numGkv m ≤ t.build.maxKvpair) (hc : numCkv t m ≤ t.build.maxKvpair)

/-- With both counts within the limit no address wraps around. -/
theorem Target.maxKvpair_le (t : Target) : t.build.maxKvpair ≤ 128 := by
  unfold Build.maxKvpair
  split <;> omega

theorem Target.le_sizeMod (t : Target) : 2 ^ 32 ≤ t.sizeMod := by
  unfold Target.sizeMod
  split <;> omega

include hg

theorem ptrToNumCkv_eq : ptrToNumCkv t m = 4 + 8 * numGkv m := by
  have h1 := t.maxKvpair_le
  have h2 := t.le_sizeMod
  unfold ptrToNumCkv
  rw [Nat.mod_eq_of_lt (by omega)]
  omega

theorem ptrToCkv_eq : ptrToCkv t m = 8 + 8 * numGkv m := by
  have h1 := t.maxKvpair_le
  have h2 := t.le_sizeMod
  unfold ptrToCkv
  rw [ptrToNumCkv_eq hg, Nat.mod_eq_of_lt (by omega)]
  omega

include hc

theorem ptrToPropId_eq : ptrToPropId t m = 8 + 8 * numGkv m + 8 * numCkv t m := by
  have h1 := t.maxKvpair_le
  have h2 := t.le_sizeMod
  unfold ptrToPropId
  rw [ptrToCkv_eq hg, Nat.mod_eq_of_lt (by omega)]
  omega

theorem ptrToNumProps_eq : ptrToNumProps t m = 12 + 8 * numGkv m + 8 * numCkv t m := by
  have h1 := t.maxKvpair_le
  have h2 := t.le_sizeMod
  unfold ptrToNumProps
  rw [ptrToPropId_eq hg hc, Nat.mod_eq_of_lt (by omega)]
  omega

theorem ptrToProps_eq : ptrToProps t m = 16 + 8 * numGkv m + 8 * numCkv t m := by
  have h1 := t.maxKvpair_le
  have h2 := t.le_sizeMod
  unfold ptrToProps
  rw [ptrToNumProps_eq hg hc, Nat.mod_eq_of_lt (by omega)]
  omega

/-- The payload is as long as its counts say. -/
theorem declaredLength_eq : declaredLength m = 16 + 8 * numGkv m + 8 * numCkv t m + 4 * numProps t m := by
  have h1 : numCkv t m = m.word (4 + 8 * numGkv m) := by rw [numCkv, ptrToNumCkv_eq hg]
  have h2 : numProps t m = m.word (12 + 8 * numGkv m + 8 * numCkv t m) := by rw [numProps, ptrToNumProps_eq hg hc]
  rw [h2, h1]
  rfl

end

/-- The limits let both counts pass, so the allocations of the pairs fail only if they are refused. -/
theorem calloc_pairs {t : Target} {n : Nat} (h : n ≤ t.build.maxKvpair) (granted : Bool) :
    t.calloc granted n 8 = granted := by
  have h1 := t.maxKvpair_le
  have h2 := t.le_sizeMod
  have h3 : n * 8 < t.sizeMod := by omega
  simp [Target.calloc, h3]

/-- Both key counts lie within the size; and where nothing stops `metadata_copy` before them, so do the pairs, the
property id and the number of values, and then the whole payload. -/
def Covered (t : Target) (alloc : Allocs) (m : Mem) (size : Nat) : Prop :=
  4 ≤ size ∧ ptrToNumCkv t m + 4 ≤ size ∧
    (numGkv m ≤ t.build.maxKvpair ∧ numCkv t m ≤ t.build.maxKvpair ∧ alloc.gkv ∧ alloc.ckv →
      16 + 8 * numGkv m + 8 * numCkv t m ≤ size ∧
      (t.calloc alloc.props (numProps t m) 4 → declaredLength m ≤ size))

/-- What was read lies below the size, and a payload that is shorter than its counts say was refused. -/
def SizeKept (size : Nat) (payload : Option Mem) (p : Int × List Stretch) : Prop :=
  (∀ r ∈ p.2, Stretch.Below size r) ∧ ∀ m, payload = some m → size < declaredLength m → p.1 ≠ 0

theorem below_countReads {t : Target} {m : Mem} {size : Nat} :
    (∀ r ∈ countReads t m, Stretch.Below size r) ↔ 4 ≤ size ∧ ptrToNumCkv t m + 4 ≤ size := by
  simp [countReads, Stretch.Below]

theorem below_pairReads {t : Target} {m : Mem} {size : Nat} (hg : numGkv m ≤ t.build.maxKvpair)
    (hc : numCkv t m ≤ t.build.maxKvpair) :
    (∀ r ∈ pairReads t m, Stretch.Below size r) ↔ 16 + 8 * numGkv m + 8 * numCkv t m ≤ size := by
  simp only [pairReads, countReads, Stretch.Below, ptrToGkv, ptrToNumCkv_eq hg, ptrToCkv_eq hg,
    ptrToPropId_eq hg hc, ptrToNumProps_eq hg hc, List.cons_append, List.nil_append, List.forall_mem_cons,
    List.not_mem_nil, false_implies, implies_true, and_true]
  omega

/-- **`metadata_copy` keeps to the size exactly if the payload is covered.** -/
theorem sizeKept_metadataCopy (t : Target) (alloc : Allocs) (dest : Metadata) (size : Nat) (m : Mem) :
    SizeKept size (some m) ((metadataCopy t alloc dest size (some m)).ret,
      (metadataCopy t alloc dest size (some m)).reads) ↔ Covered t alloc m size := by
  have hshort (ret : Int) (reads : List Stretch) : SizeKept size (some m) (ret, reads) ↔
      (∀ r ∈ reads, Stretch.Below size r) ∧ (size < declaredLength m → ret ≠ 0) := by
    simp [SizeKept]
  rw [hshort]
  unfold metadataCopy Covered
  by_cases hover : numGkv m > t.build.maxKvpair ∨ numCkv t m > t.build.maxKvpair
  · -- refused by the limits
    have hno : ¬ (numGkv m ≤ t.build.maxKvpair ∧ numCkv t m ≤ t.build.maxKvpair ∧ alloc.gkv ∧ alloc.ckv) := by
      intro h
      omega
    simp only [if_pos hover, below_countReads, hno, false_implies, and_true]
    exact and_iff_left fun _ => show -EINVAL ≠ 0 by decide
  · have hg : numGkv m ≤ t.build.maxKvpair := by omega
    have hc : numCkv t m ≤ t.build.maxKvpair := by omega
    have hcount : ptrToNumCkv t m = 4 + 8 * numGkv m := ptrToNumCkv_eq hg
    have hlen := declaredLength_eq hg hc
    simp only [if_neg hover, calloc_pairs hg, calloc_pairs hc, hg, hc, true_and]
    cases alloc.gkv with
    | false =>
      simp only [Bool.false_eq_true, not_false_iff, if_true, below_countReads, false_and, false_implies, and_true]
      exact and_iff_left fun _ => show -ENOMEM ≠ 0 by decide
    | true =>
      cases alloc.ckv with
      | false =>
        simp only [not_true, Bool.false_eq_true, not_false_iff, if_true, if_false, List.forall_mem_append,
          below_countReads, List.forall_mem_singleton, hcount, and_false, false_implies, and_true]
        have hpairs : Stretch.Below size (ptrToGkv, numGkv m * 8) ↔ numGkv m = 0 ∨ 4 + 8 * numGkv m ≤ size := by
          simp [Stretch.Below, ptrToGkv, Nat.mul_comm]
        rw [hpairs, and_iff_left fun _ => show -ENOMEM ≠ 0 by decide]
        omega
      | true =>
        cases hp : t.calloc alloc.props (numProps t m) 4 with
        | false =>
          simp only [not_true, Bool.false_eq_true, not_false_iff, if_true, if_false, below_pairReads hg hc, hcount,
            and_self, false_implies, and_true, forall_const]
          rw [and_iff_left fun _ => show -ENOMEM ≠ 0 by decide]
          omega
        | true =>
          have hprops : Stretch.Below size (ptrToProps t m, numProps t m * 4) ↔
              numProps t m = 0 ∨ declaredLength m ≤ size := by
            simp only [Stretch.Below, ptrToProps_eq hg hc, hlen]
            omega
          simp only [not_true, if_false, List.forall_mem_append, below_pairReads hg hc, List.forall_mem_singleton,
            hprops, hcount, and_self, forall_const, ne_eq, imp_false, not_lt]
          omega

/-! ## The entry points and the size -/

theorem sat_aifObjGet_found (aifId : Nat) (c : Ctx) : Sat (aifObjGet aifId) c fun r c' => c'.hw = c.hw ∧
    match r with
    | .ok _ => (∃ a ∈ c.sess.aifPool, a.aifId = aifId) ∨ aifId < c.hw.numAudioIntfs
    | .error e => e = -ENOMEM ∧ c' = c ∧ ¬ ((∃ a ∈ c.sess.aifPool, a.aifId = aifId) ∨ aifId < c.hw.numAudioIntfs) := by
  unfold aifObjGet
  rw [sat_bind, sat_get]
  cases hi : c.sess.aifPool.findIdx? (fun a => a.aifId = aifId) with
  | some i =>
    obtain ⟨h, hp, -⟩ := List.findIdx?_eq_some_iff_getElem.1 hi
    exact (sat_pure _ _ _).2 ⟨rfl, .inl ⟨_, List.getElem_mem h, by simpa using hp⟩⟩
  | none =>
    have hno : ¬ ∃ a ∈ c.sess.aifPool, a.aifId = aifId := by
      rintro ⟨a, ha, hid⟩
      have := List.findIdx?_eq_none_iff.1 hi a ha
      simp [hid] at this
    unfold deviceGetObj
    by_cases hd : aifId < c.hw.numAudioIntfs
    · rw [if_pos hd]
      exact (sat_bind _ _ _ _).2 ((sat_modSess _ _ _).2 ((sat_pure _ _ _).2 ⟨rfl, .inr hd⟩))
    · rw [if_neg hd]
      refine (sat_pure _ _ _).2 ⟨rfl, rfl, rfl, ?_⟩
      rintro (h | h)
      · exact hno h
      · exact hd h

theorem total_aifObjGet (aifId : Nat) : Total (aifObjGet aifId) := by
  apply total_bind total_get
  intro c
  cases c.sess.aifPool.findIdx? (fun a => a.aifId = aifId) with
  | some i => exact total_pure _
  | none =>
    cases deviceGetObj aifId c.hw with
    | error e => exact total_pure _
    | ok d => exact total_bind (total_modify _) fun _ => total_pure _

theorem total_setSessAifMetadata (t : Target) (alloc : Allocs) (size : Nat) (payload : Option Mem) (aifId : Nat) :
    Total (setSessAifMetadata t alloc size payload aifId) := by
  apply total_bind (total_aifObjGet aifId)
  intro r
  cases r with
  | error e => exact total_pure _
  | ok i => exact total_bind total_get fun _ => total_bind (total_modify _) fun _ => total_pure _

/-- An entry point that finds what its ids name ends as `metadata_copy` ends; one that does not reports one of two errors
and reads nothing. -/
theorem MetaOwner.set_spec (t : Target) (alloc : Allocs) (o : MetaOwner) (size : Nat) (payload : Option Mem)
    (w : World) : ∃ r reads w', o.set t alloc size payload w = some ((r, reads), w') ∧
      (o.found w → r = (metadataCopy t alloc {} size payload).ret ∧
        reads = (metadataCopy t alloc {} size payload).reads) ∧
      (¬ o.found w → (r = -EINVAL ∨ r = -ENOMEM) ∧ reads = []) := by
  cases o with
  | session s => exact ⟨_, _, _, rfl, fun _ => ⟨rfl, rfl⟩, fun h => absurd trivial h⟩
  | sessionAif s aifId =>
    have hsat : Sat (setSessAifMetadata t alloc size payload aifId) ((w.get s).lock s) fun p _ =>
        ((MetaOwner.sessionAif s aifId).found w → p.1 = (metadataCopy t alloc {} size payload).ret ∧
          p.2 = (metadataCopy t alloc {} size payload).reads) ∧
        (¬ (MetaOwner.sessionAif s aifId).found w → (p.1 = -EINVAL ∨ p.1 = -ENOMEM) ∧ p.2 = []) := by
      refine Sat.bind (sat_aifObjGet_found aifId _) fun r c₁ h₁ => ?_
      cases r with
      | error e => exact (sat_pure _ _ _).2 ⟨fun h => absurd h h₁.2.2.2, fun _ => ⟨.inr h₁.2.1, rfl⟩⟩
      | ok i =>
        rw [sat_bind, sat_get, sat_bind, sat_modSess, sat_pure]
        exact ⟨fun _ => ⟨rfl, rfl⟩, fun h => absurd h₁.2 h⟩
    obtain ⟨p, c, hp⟩ := (total_setSessAifMetadata t alloc size payload aifId).exists ((w.get s).lock s)
    refine ⟨p.1, p.2, World.unlock s c, ?_, hsat p c hp⟩
    show World.lockedFor _ _ _ = _
    rw [World.lockedFor, hp]
    rfl
  | aif aifId =>
    unfold MetaOwner.set agmAifSetMetadata MetaOwner.found deviceGetObj
    by_cases h : aifId < w.hw.numAudioIntfs
    · simp only [if_pos h]
      exact ⟨_, _, _, rfl, fun _ => ⟨rfl, rfl⟩, fun hn => absurd h hn⟩
    · simp only [if_neg h]
      exact ⟨_, _, _, rfl, fun hn => absurd hn h, fun _ => ⟨.inl rfl, rfl⟩⟩

theorem sizeKept_of_error {size : Nat} {payload : Option Mem} {r : Int} (h : r ≠ 0) :
    SizeKept size payload (r, []) := ⟨fun _ hm => absurd hm List.not_mem_nil, fun _ _ _ => h⟩

theorem MetaOwner.sizeKept_set (t : Target) (alloc : Allocs) (o : MetaOwner) (size : Nat) (payload : Option Mem)
    (w : World) : ∃ p w', o.set t alloc size payload w = some (p, w') ∧
      (SizeKept size payload p ↔ ∀ m, payload = some m → o.found w → Covered t alloc m size) := by
  obtain ⟨r, reads, w', hset, hfound, hnot⟩ := o.set_spec t alloc size payload w
  refine ⟨(r, reads), w', hset, ?_⟩
  by_cases h : o.found w
  · obtain ⟨rfl, rfl⟩ := hfound h
    cases payload with
    | none =>
      refine ⟨fun _ _ hm => (nomatch hm), fun _ => ?_⟩
      exact ⟨fun _ hm => absurd hm List.not_mem_nil, fun _ hm => (nomatch hm)⟩
    | some m =>
      rw [sizeKept_metadataCopy]
      exact ⟨fun hcov m' hm' _ => Option.some.inj hm' ▸ hcov, fun hcov => hcov m rfl h⟩
  · obtain ⟨hr, rfl⟩ := hnot h
    have hne : r ≠ 0 := by rcases hr with rfl | rfl <;> decide
    exact ⟨fun _ _ _ hf => absurd hf h, fun _ => sizeKept_of_error hne⟩

/-- **What is read of a payload.**  Whoever sets metadata, `metadata_copy` keeps to the size it is given exactly if the
payload is covered by it, called directly or through the binder server. -/
theorem setMetadata_keeps_size (t : Target) (alloc : Allocs) (o : MetaOwner) (size : Nat) (w : World) :
    (∀ payload, ∃ p w', o.set t alloc size payload w = some (p, w') ∧
      (SizeKept size payload p ↔ ∀ m, payload = some m → o.found w → Covered t alloc m size)) ∧
    ∀ granted heap data, ∃ p w', o.ipcSet t alloc granted heap size data w = some (p, w') ∧
      (SizeKept size (some (serverBlock data size heap)) p ↔
        (size ≤ data.length → granted → o.found w → Covered t alloc (serverBlock data size heap) size)) := by
  refine ⟨fun payload => o.sizeKept_set t alloc size payload w, fun granted heap data => ?_⟩
  unfold MetaOwner.ipcSet
  by_cases hlen : data.length < size
  · rw [if_pos hlen]
    refine ⟨_, _, rfl, fun _ h => absurd h (by omega), fun _ => sizeKept_of_error ?_⟩
    decide
  · rw [if_neg hlen]
    cases granted with
    | false =>
      refine ⟨_, _, rfl, fun _ _ h => (nomatch h), fun _ => sizeKept_of_error ?_⟩
      decide
    | true =>
      obtain ⟨p, w', hset, hiff⟩ := o.sizeKept_set t alloc size (some (serverBlock data size heap)) w
      refine ⟨p, w', hset, hiff.trans ?_⟩
      constructor
      · intro h _ _ hf
        exact h _ rfl hf
      · intro h m hm hf
        rw [← Option.some.inj hm]
        exact h (by omega) rfl hf

/-- Four bytes that announce one pair, sent through the server: twelve bytes past their end are read, and they are
accepted. -/
theorem setMetadata_reads_beyond : ∃ p w', (MetaOwner.session 1).ipcSet {} {} true (fun _ => 0) 4 [1, 0, 0, 0]
      (World.boot fun _ => []) = some (p, w') ∧
    p.1 = 0 ∧ ((12, 4) : Stretch) ∈ p.2 ∧ 4 < declaredLength (serverBlock [1, 0, 0, 0] 4 fun _ => 0) ∧
    ¬ SizeKept 4 (some (serverBlock [1, 0, 0, 0] 4 fun _ => 0)) p := by
  refine ⟨_, _, rfl, by decide +kernel, by decide +kernel, by decide +kernel, fun h => ?_⟩
  have := h.1 (12, 4) (by decide +kernel)
  revert this
  decide

/-! ## A refused update -/

/-- The payload is within the limits and nothing is short of memory. -/
def Accepted (t : Target) (alloc : Allocs) (payload : Option Mem) : Prop :=
  ∀ m, payload = some m → numGkv m ≤ t.build.maxKvpair ∧ numCkv t m ≤ t.build.maxKvpair ∧ alloc.gkv ∧ alloc.ckv ∧
    t.calloc alloc.props (numProps t m) 4

/-- A copy into a cleared structure either succeeds, or leaves it cleared. -/
theorem metadataCopy_cases (t : Target) (alloc : Allocs) (size : Nat) (payload : Option Mem) :
    ((metadataCopy t alloc {} size payload).ret = 0 ∧ Accepted t alloc payload) ∨
      ((metadataCopy t alloc {} size payload).ret ≠ 0 ∧ (metadataCopy t alloc {} size payload).dest = {} ∧
        ¬ Accepted t alloc payload) := by
  cases payload with
  | none => exact .inl ⟨rfl, fun _ h => (nomatch h)⟩
  | some m =>
    have hsome : Accepted t alloc (some m) ↔ numGkv m ≤ t.build.maxKvpair ∧ numCkv t m ≤ t.build.maxKvpair ∧
        alloc.gkv ∧ alloc.ckv ∧ t.calloc alloc.props (numProps t m) 4 := by
      simp [Accepted]
    have hmem : -ENOMEM ≠ 0 := by decide
    rw [hsome]
    unfold metadataCopy
    by_cases hover : numGkv m > t.build.maxKvpair ∨ numCkv t m > t.build.maxKvpair
    · simp only [if_pos hover]
      refine .inr ⟨show -EINVAL ≠ 0 by decide, trivial, ?_⟩
      intro h
      omega
    · have hg : numGkv m ≤ t.build.maxKvpair := by omega
      have hc : numCkv t m ≤ t.build.maxKvpair := by omega
      simp only [if_neg hover, calloc_pairs hg, calloc_pairs hc, hg, hc, true_and]
      cases alloc.gkv with
      | false => exact .inr ⟨hmem, rfl, fun h => (nomatch h.1)⟩
      | true =>
        cases alloc.ckv with
        | false => exact .inr ⟨hmem, rfl, fun h => (nomatch h.2.1)⟩
        | true =>
          cases t.calloc alloc.props (numProps t m) 4 with
          | false => exact .inr ⟨hmem, rfl, fun h => (nomatch h.2.2)⟩
          | true => exact .inl ⟨rfl, rfl, rfl, rfl⟩

/-- What a copy leaves of the metadata that was stored before, when it reports an error. -/
theorem refused_copy_iff (t : Target) (alloc : Allocs) (size : Nat) (payload : Option Mem) (old : Metadata) :
    ((metadataCopy t alloc {} size payload).ret ≠ 0 → (metadataCopy t alloc {} size payload).dest = old) ↔
      Accepted t alloc payload ∨ old = {} := by
  rcases metadataCopy_cases t alloc size payload with ⟨hret, hacc⟩ | ⟨hret, hdest, hacc⟩
  · exact ⟨fun _ => .inl hacc, fun _ h => absurd hret h⟩
  · rw [hdest]
    constructor
    · intro h
      exact .inr (h hret).symm
    · rintro (h | h) _
      · exact absurd h hacc
      · exact h.symm

/-- The metadata a session stores for a back end; one that was never named has none. -/
def SessionObj.storedAifMeta (s : SessionObj) (aifId : Nat) : Metadata :=
  match s.aifPool.findIdx? (fun a => a.aifId = aifId) with
  | some i => (s.aifAt i).sessAifMeta
  | none => {}

theorem storedAifMeta_setAif {s : SessionObj} {aifId i : Nat} (md : Metadata)
    (h : s.aifPool.findIdx? (fun a => a.aifId = aifId) = some i) :
    (s.setAif i { s.aifAt i with sessAifMeta := md }).storedAifMeta aifId = md := by
  obtain ⟨hi, -⟩ := List.findIdx?_eq_some_iff_getElem.1 h
  have hkeys : (s.setAif i { s.aifAt i with sessAifMeta := md }).aifPool.map Aif.aifId = s.aifPool.map Aif.aifId := by
    have hat : s.aifAt i = s.aifPool[i] := by simp [SessionObj.aifAt, hi]
    have hself := @List.set_getElem_self _ (s.aifPool.map Aif.aifId) i (by simpa using hi)
    rw [List.getElem_map] at hself
    simp only [SessionObj.setAif, List.map_set, hat]
    exact hself
  have hfind (l : List Aif) : l.findIdx? (fun a => a.aifId = aifId) =
      (l.map Aif.aifId).findIdx? (fun k => decide (k = aifId)) := by
    rw [List.findIdx?_map]
    rfl
  unfold SessionObj.storedAifMeta
  rw [hfind, hkeys, ← hfind, h]
  show ((s.setAif i _).aifAt i).sessAifMeta = md
  rw [SessionObj.aifAt_setAif s hi]

/-- **A refused update.**  Each of the three setters leaves what was stored exactly if the payload is accepted or
nothing was stored: the old value is freed before the new one is looked at. -/
theorem refused_keeps_metadata (t : Target) (alloc : Allocs) (size : Nat) (payload : Option Mem) :
    (∀ c : Ctx, ∃ p c', setSessMetadata t alloc size payload c = some (p, c') ∧
      ((p.1 ≠ 0 → c'.sess.sessMeta = c.sess.sessMeta) ↔ Accepted t alloc payload ∨ c.sess.sessMeta = {})) ∧
    (∀ (c : Ctx) (aifId : Nat), ∃ p c', setSessAifMetadata t alloc size payload aifId c = some (p, c') ∧
      ((p.1 ≠ 0 → c'.sess.storedAifMeta aifId = c.sess.storedAifMeta aifId) ↔
        Accepted t alloc payload ∨ c.sess.storedAifMeta aifId = {})) ∧
    (∀ (hw : Hw) (d : DevId), ∃ p hw', deviceSetMetadata t alloc size payload d hw = some (p, hw') ∧
      ((p.1 ≠ 0 → (hw'.devs d).metadata = (hw.devs d).metadata) ↔
        Accepted t alloc payload ∨ (hw.devs d).metadata = {})) := by
  refine ⟨fun c => ?_, fun c aifId => ?_, fun hw d => ?_⟩
  · exact ⟨_, _, rfl, refused_copy_iff t alloc size payload c.sess.sessMeta⟩
  · have hsat : Sat (setSessAifMetadata t alloc size payload aifId) c fun p c' =>
        ((p.1 ≠ 0 → c'.sess.storedAifMeta aifId = c.sess.storedAifMeta aifId) ↔
          Accepted t alloc payload ∨ c.sess.storedAifMeta aifId = {}) := by
      refine Sat.bind ((sat_aifObjGet aifId c).and (sat_aifObjGet_found aifId c)) fun r c₁ h => ?_
      obtain ⟨h₁, -, h₂⟩ := h
      cases r with
      | error e =>
        obtain ⟨-, rfl, hnot⟩ := h₂
        have hold : c₁.sess.storedAifMeta aifId = {} := by
          have hnone : c₁.sess.aifPool.findIdx? (fun a => a.aifId = aifId) = none :=
            List.findIdx?_eq_none_iff.2 fun a ha => decide_eq_false fun hid => hnot (.inl ⟨a, ha, hid⟩)
          simp [SessionObj.storedAifMeta, hnone]
        exact (sat_pure _ _ _).2 (iff_of_true (fun _ => rfl) (.inr hold))
      | ok i =>
        rw [sat_bind, sat_get, sat_bind, sat_modSess, sat_pure]
        rcases h₁.2 with ⟨rfl, hfind⟩ | ⟨hnone, rfl, rfl⟩
        · rw [storedAifMeta_setAif _ hfind]
          exact refused_copy_iff t alloc size payload _
        · have hold : c.sess.storedAifMeta aifId = {} := by simp [SessionObj.storedAifMeta, hnone]
          rw [hold, storedAifMeta_setAif]
          · exact refused_copy_iff t alloc size payload {}
          · rw [List.findIdx?_append, hnone]
            simp
    obtain ⟨p, c', hp⟩ := (total_setSessAifMetadata t alloc size payload aifId).exists c
    exact ⟨p, c', hp, hsat p c' hp⟩
  · refine ⟨_, _, rfl, ?_⟩
    rw [Hw.setDev_devs_self]
    exact refused_copy_iff t alloc size payload (hw.devs d).metadata

/-- An open session with one graph key, and a payload that announces 49: the update is refused and the key is gone. -/
theorem refused_erases_metadata : ∃ (c : Ctx) (p : Int × List Stretch) (c' : Ctx),
    c.sess.state = .opened ∧ c.sess.sessMeta.gkv = [⟨1, 2⟩] ∧
    setSessMetadata {} {} 4 (some (serverBlock [49, 0, 0, 0] 4 fun _ => 0)) c = some (p, c') ∧
    p.1 = -EINVAL ∧ c'.sess.sessMeta.gkv = [] := by
  let c : Ctx := { Ctx.waiting [0] (fun _ => []) with sess := { sessId := 1, state := .opened, sessMeta := { gkv := [⟨1, 2⟩] } } }
  exact ⟨c, _, _, rfl, rfl, rfl, by decide +kernel, by decide +kernel⟩

end Agm.Service
