import Agm.Lib.Bytes
import Agm.Lib.Loop
import Agm.Service.Errno
import Agm.Service.MetadataCopy

/-!
# Parameters for the ACDB

`agm_set_params_to_acdb_tunnel`, and `graph_set_acdb_param` below it.  The blob of the client has two key vectors and a
list of parameters behind them.  Each parameter has a header of sixteen bytes; the loop walks from header to header and
puts the id of a module into each.

What lies behind the blob has some content too.  The numbers of the loop are 32-bit; the bytes of the key vectors and
the size of the list are counted in `size_t`.
-/

namespace Agm.Service

open Agm.Lib

/-- `struct agm_acdb_tunnel_param`; `blob` counts from the start of the blob. -/
structure AcdbTunnelParam where
  isTKV : Bool
  tag : UInt32
  numGkvs : UInt32
  numKvs : UInt32
  blobSize : UInt32
  blob : Mem

/-- What the functions get from outside: the return codes of GSL, and the module id found in the tags it hands back. -/
structure AcdbAnswers where
  enable : Int := 0
  tagsSize : Int := 0
  tags : Int := 0
  miid : UInt32 := 0
  setData : Int := 0

/-- `sizeof(struct apm_module_param_data_t)`: the module id, the parameter id, the parameter size and an error code. -/
def PARAM_HEADER : Nat := 16

/-- `ALIGN_PAYLOAD(x, 8)` on a 32-bit number. -/
def alignPayload32 (x : UInt32) : UInt32 := UInt32.ofNat (pad8 x.toNat)

namespace AcdbTunnelParam

variable (t : Target) (p : AcdbTunnelParam)

/-- The bytes of both key vectors: their numbers are added in 32 bits. -/
def kvBytes : Nat := 8 * (p.numGkvs + p.numKvs).toNat % t.sizeMod

/-- `actual_size`. -/
def actualSize : Nat := (p.blobSize.toNat + t.sizeMod - p.kvBytes t) % t.sizeMod

end AcdbTunnelParam

/-- The way from the header at `a` to the next. -/
def paramOffset (blob : Mem) (a : Nat) : UInt32 := alignPayload32 (UInt32.ofNat (PARAM_HEADER + blob.word (a + 8)))

/-- The variables of the loop; `header` counts from the start of the blob. -/
structure ParamLoop where
  header : Nat
  offset : UInt32
  totalParsedSize : UInt32
  blob : Mem

/-- The module id is written into the header at `a`. -/
def setMiid (blob : Mem) (miid : UInt32) (a : Nat) : Mem := blob.store a (le32 miid.toNat)

/-- One turn of the loop. -/
def ParamLoop.turn (miid : UInt32) (actualSize : Nat) (s : ParamLoop) : Option ParamLoop :=
  if s.totalParsedSize.toNat < actualSize then
    let header := s.header + s.offset.toNat
    let blob := setMiid s.blob miid header
    let offset := paramOffset blob header
    some ⟨header, offset, s.totalParsedSize + offset, blob⟩
  else none

/-- What `gsl_set_tag_data_to_acdb` or `gsl_set_cal_data_to_acdb` is given. -/
structure AcdbData where
  gkv : List KeyValue
  tag : Option Nat
  kv : List KeyValue
  param : List UInt8

namespace AcdbTunnelParam

variable (t : Target) (o : AcdbAnswers) (p : AcdbTunnelParam)

/-- The loop as it begins: with the first header. -/
def firstHeader : ParamLoop :=
  let blob := setMiid p.blob o.miid (p.kvBytes t)
  let offset := paramOffset blob (p.kvBytes t)
  ⟨p.kvBytes t, offset, offset, blob⟩

/-- The loop from one state to the next. -/
def turn : ParamLoop → Option ParamLoop := ParamLoop.turn o.miid (p.actualSize t)

/-- What is set in the end; the tag is the module id the first header came with. -/
def data (blob : Mem) : AcdbData where
  gkv := keyValues blob 0 p.numGkvs.toNat
  tag := if p.isTKV then some (p.blob.word (p.kvBytes t)) else none
  kv := keyValues blob (p.numGkvs.toNat * 8 % t.sizeMod) p.numKvs.toNat
  param := blob.bytes (p.kvBytes t) (p.actualSize t)

end AcdbTunnelParam

/-- `graph_set_acdb_param` up to the loop: an error, or the state in which it begins. -/
def graphSetAcdbParam (t : Target) (o : AcdbAnswers) : Option AcdbTunnelParam → Except Int ParamLoop
  | none => .error (-EINVAL)
  | some p =>
    if o.tagsSize ≠ 0 then .error o.tagsSize
    else if o.tags ≠ 0 then .error o.tags
    else .ok (p.firstHeader t o)

/-- `graph_set_acdb_param` from the end of the loop on. -/
def graphSetAcdbParamDone (t : Target) (o : AcdbAnswers) (p : AcdbTunnelParam) (s : ParamLoop) : Int × AcdbData :=
  (arErrGetLnxErrCode o.setData, p.data t s.blob)

/-- `agm_set_params_to_acdb_tunnel` with `session_dummy_rw_acdb_tunnel`, up to the loop.  The size is not used. -/
def agmSetParamsToAcdbTunnel (t : Target) (o : AcdbAnswers) (payload : Option AcdbTunnelParam) (_size : Nat) :
    Except Int ParamLoop :=
  match payload with
  | none => .error (-EINVAL)
  | some p => if o.enable ≠ 0 then .error o.enable else graphSetAcdbParam t o (some p)

/-! ## What the loop should do -/

/-- The loop is left, and every header it comes to lies in the blob. -/
def AcdbTunnelParam.HeadersInside (t : Target) (o : AcdbAnswers) (p : AcdbTunnelParam) (s : ParamLoop) : Prop :=
  Ends (p.turn t o) s ∧ ∀ s', Visits (p.turn t o) s s' → s'.header + PARAM_HEADER ≤ p.blobSize.toNat

/-- A chain of parameters from `a` to the end of the blob: every header lies in it, no parameter takes zero bytes modulo
`2 ^ 32`, and the whole list, which begins at `start`, takes less than `2 ^ 32`. -/
inductive ParamChain (blob : Mem) (start size : Nat) : Nat → Prop
  | last {a : Nat} (inside : a + PARAM_HEADER ≤ size) (past : size ≤ a + (paramOffset blob a).toNat)
      (fits : a + (paramOffset blob a).toNat < start + 2 ^ 32) : ParamChain blob start size a
  | more {a : Nat} (inside : a + PARAM_HEADER ≤ size) (moves : paramOffset blob a ≠ 0)
      (rest : ParamChain blob start size (a + (paramOffset blob a).toNat)) : ParamChain blob start size a

/-! ## One turn -/

section

variable {t : Target} {o : AcdbAnswers} {p : AcdbTunnelParam} {s s' : ParamLoop}

/-- Only what lies from the fifth byte of a header on decides where the next one is. -/
theorem paramOffset_congr {blob blob' : Mem} {a : Nat} (h : ∀ i, a + 4 ≤ i → blob i = blob' i) :
    paramOffset blob a = paramOffset blob' a := by
  have hword : blob.word (a + 8) = blob'.word (a + 8) := by
    unfold Mem.word
    rw [h _ (by omega), h _ (by omega), h _ (by omega), h _ (by omega)]
  rw [paramOffset, paramOffset, hword]

theorem setMiid_of_le {blob : Mem} {miid : UInt32} {a i : Nat} (h : a + 4 ≤ i) : setMiid blob miid a i = blob i := by
  unfold setMiid Mem.store
  rw [length_le32, if_neg (by omega)]

/-- What holds whenever the loop decides whether it goes on. -/
structure AcdbTunnelParam.LoopInv (t : Target) (p : AcdbTunnelParam) (s : ParamLoop) : Prop where
  rest : ∀ i, s.header + 4 ≤ i → s.blob i = p.blob i
  offset : s.offset = paramOffset p.blob s.header
  start : p.kvBytes t ≤ s.header
  total : s.totalParsedSize.toNat = (s.header + s.offset.toNat - p.kvBytes t) % 2 ^ 32

theorem loopInv_firstHeader : p.LoopInv t (p.firstHeader t o) := by
  have hrest (i : Nat) (hi : p.kvBytes t + 4 ≤ i) : (p.firstHeader t o).blob i = p.blob i := setMiid_of_le hi
  have hlt := (p.firstHeader t o).offset.toNat_lt
  refine ⟨hrest, paramOffset_congr hrest, le_refl _, ?_⟩
  show (p.firstHeader t o).offset.toNat = (p.kvBytes t + (p.firstHeader t o).offset.toNat - p.kvBytes t) % 2 ^ 32
  rw [Nat.add_sub_cancel_left, Nat.mod_eq_of_lt hlt]

theorem AcdbTunnelParam.turn_eq_some (h : p.turn t o s = some s') :
    s.totalParsedSize.toNat < p.actualSize t ∧ s'.header = s.header + s.offset.toNat ∧
      s'.blob = setMiid s.blob o.miid s'.header ∧ s'.offset = paramOffset s'.blob s'.header ∧
      s'.totalParsedSize = s.totalParsedSize + s'.offset := by
  obtain ⟨hlt, h⟩ := Option.ite_none_right_eq_some.1 h
  obtain rfl := Option.some.inj h
  exact ⟨hlt, rfl, rfl, rfl, rfl⟩

theorem AcdbTunnelParam.turn_eq_none_iff : p.turn t o s = none ↔ p.actualSize t ≤ s.totalParsedSize.toNat := by
  unfold AcdbTunnelParam.turn ParamLoop.turn
  split <;> simp <;> omega

theorem AcdbTunnelParam.LoopInv.turn (h : p.LoopInv t s) (hs : p.turn t o s = some s') : p.LoopInv t s' := by
  obtain ⟨-, hheader, hblob, hoffset, htotal⟩ := p.turn_eq_some hs
  have hrest (i : Nat) (hi : s'.header + 4 ≤ i) : s'.blob i = p.blob i := by
    rw [hblob, setMiid_of_le hi]
    exact h.rest i (by omega)
  have hstart := h.start
  refine ⟨hrest, hoffset.trans (paramOffset_congr hrest), by omega, ?_⟩
  rw [htotal, UInt32.toNat_add, h.total, hheader, Nat.mod_add_mod]
  congr 1
  omega

end

/-! ## The whole loop -/

section

variable {t : Target} {o : AcdbAnswers} {p : AcdbTunnelParam} {s : ParamLoop}

theorem actualSize_eq (h : p.kvBytes t ≤ p.blobSize.toNat) : p.actualSize t = p.blobSize.toNat - p.kvBytes t := by
  have hsize := p.blobSize.toNat_lt
  have hmod := t.le_sizeMod
  unfold AcdbTunnelParam.actualSize
  have hsplit : p.blobSize.toNat + t.sizeMod - p.kvBytes t = p.blobSize.toNat - p.kvBytes t + t.sizeMod := by omega
  rw [hsplit, Nat.add_mod_right, Nat.mod_eq_of_lt (by omega)]

/-- No chain goes through a parameter that takes no bytes. -/
theorem not_paramChain_of_zero {blob : Mem} {start size a : Nat} (h : paramOffset blob a = 0) :
    ¬ ParamChain blob start size a := by
  intro hchain
  have hzero : (paramOffset blob a).toNat = 0 := by rw [h]; rfl
  cases hchain with
  | last inside past fits =>
    unfold PARAM_HEADER at inside
    omega
  | more inside moves rest => exact moves h

/-- A loop that is left and stays in the blob has walked along a chain. -/
theorem paramChain_of_headersInside (h : p.HeadersInside t o s) (hinv : p.LoopInv t s) :
    ParamChain p.blob (p.kvBytes t) p.blobSize.toNat s.header := by
  obtain ⟨hends, hinside⟩ := h
  refine hends.induction (motive := fun s =>
    (∀ u, Visits (p.turn t o) s u → u.header + PARAM_HEADER ≤ p.blobSize.toNat) → p.LoopInv t s →
      ParamChain p.blob (p.kvBytes t) p.blobSize.toNat s.header) ?_ ?_ hinside hinv
  · intro s hs hinside hinv
    have hin : s.header + 16 ≤ p.blobSize.toNat := hinside s (.refl s)
    have hlt := s.offset.toNat_lt
    have hsize := p.blobSize.toNat_lt
    have hstart := hinv.start
    have htotal := hinv.total
    have hdone := AcdbTunnelParam.turn_eq_none_iff.1 hs
    rw [actualSize_eq (by omega)] at hdone
    -- a total that has wrapped around is smaller than the header alone
    refine .last hin ?_ ?_ <;> rw [← hinv.offset] <;> omega
  · intro s s' hs ih hinside hinv
    have hchain := ih (fun u hu => hinside u (hu.head hs)) (hinv.turn hs)
    obtain ⟨-, hheader, -⟩ := p.turn_eq_some hs
    rw [hheader, hinv.offset] at hchain
    refine .more (hinside s (.refl s)) (fun hzero => ?_) hchain
    have hsame : s.header + (paramOffset p.blob s.header).toNat = s.header := by rw [hzero]; rfl
    rw [hsame] at hchain
    exact not_paramChain_of_zero hzero hchain

/-- Along a chain the loop is left, and stays in the blob. -/
theorem headersInside_of_paramChain {a : Nat} (h : ParamChain p.blob (p.kvBytes t) p.blobSize.toNat a)
    (ha : s.header = a) (hinv : p.LoopInv t s) : p.HeadersInside t o s := by
  have hstop (s : ParamLoop) (hin : s.header + PARAM_HEADER ≤ p.blobSize.toNat) (hs : p.turn t o s = none) :
      p.HeadersInside t o s := by
    refine ⟨.of_none hs, fun u hu => ?_⟩
    rwa [hu.eq_of_none hs]
  induction h generalizing s with
  | @last a inside past fits =>
    subst ha
    refine hstop s inside (AcdbTunnelParam.turn_eq_none_iff.2 ?_)
    have hstart := hinv.start
    have hin : s.header + 16 ≤ p.blobSize.toNat := inside
    rw [← hinv.offset] at past fits
    rw [actualSize_eq (by omega), hinv.total]
    omega
  | @more a inside moves rest ih =>
    subst ha
    cases hs : p.turn t o s with
    | none => exact hstop s inside hs
    | some s' =>
      obtain ⟨-, hheader, -⟩ := p.turn_eq_some hs
      obtain ⟨hends, hinside⟩ := ih (hheader.trans (by rw [hinv.offset])) (hinv.turn hs)
      refine ⟨hends.of_turn hs, fun u hu => ?_⟩
      rcases hu.eq_or_of_turn hs with rfl | hu
      · exact inside
      · exact hinside u hu

theorem headersInside_firstHeader_iff : p.HeadersInside t o (p.firstHeader t o) ↔
    ParamChain p.blob (p.kvBytes t) p.blobSize.toNat (p.kvBytes t) :=
  ⟨fun h => paramChain_of_headersInside h loopInv_firstHeader,
    fun h => headersInside_of_paramChain h rfl loopInv_firstHeader⟩

end

/-- **The loop stays in the blob and is left exactly if the blob is a chain of parameters.**  For every payload with
which `agm_set_params_to_acdb_tunnel` comes to the loop. -/
theorem acdb_headers_inside_iff {t : Target} {o : AcdbAnswers} {p : AcdbTunnelParam} (size : Nat) {s : ParamLoop}
    (h : agmSetParamsToAcdbTunnel t o (some p) size = .ok s) :
    p.HeadersInside t o s ↔ ParamChain p.blob (p.kvBytes t) p.blobSize.toNat (p.kvBytes t) := by
  obtain rfl : s = p.firstHeader t o := by
    unfold agmSetParamsToAcdbTunnel at h
    by_cases henable : o.enable ≠ 0
    · simp [henable] at h
    · by_cases hsize : o.tagsSize ≠ 0
      · simp [henable, graphSetAcdbParam, hsize] at h
      · by_cases htags : o.tags ≠ 0 <;> simp [henable, graphSetAcdbParam, hsize, htags] at h
        exact h.symm
  exact headersInside_firstHeader_iff

/-- Two parameters of 24 bytes behind one pair. -/
def AcdbTunnelParam.twoParams : AcdbTunnelParam :=
  { isTKV := false, tag := 0, numGkvs := 1, numKvs := 0, blobSize := 56
    blob := fun i => if i = 16 then 8 else if i = 40 then 5 else 0 }

theorem acdb_headers_inside_two :
    AcdbTunnelParam.twoParams.HeadersInside {} {} (AcdbTunnelParam.twoParams.firstHeader {} {}) := by
  refine (acdb_headers_inside_iff 0 rfl).2 (.more ?_ ?_ (.last ?_ ?_ ?_)) <;> decide

/-- A parameter that says it takes `2 ^ 32 - 16` bytes: with its header that is none, and the loop never ends. -/
def AcdbTunnelParam.noBytes : AcdbTunnelParam :=
  { isTKV := false, tag := 0, numGkvs := 0, numKvs := 0, blobSize := 32
    blob := fun i => if i = 8 then 240 else if 8 < i ∧ i < 12 then 255 else 0 }

/-- Five pairs in a blob of 32 bytes: the first header lies behind the blob. -/
def AcdbTunnelParam.manyPairs : AcdbTunnelParam :=
  { isTKV := false, tag := 0, numGkvs := 5, numKvs := 0, blobSize := 32, blob := fun _ => 0 }

theorem acdb_header_outside :
    (∃ s, agmSetParamsToAcdbTunnel {} {} (some .noBytes) 0 = .ok s ∧
      ¬ AcdbTunnelParam.noBytes.HeadersInside {} {} s) ∧
    ∃ s, agmSetParamsToAcdbTunnel {} {} (some .manyPairs) 0 = .ok s ∧
      ¬ AcdbTunnelParam.manyPairs.HeadersInside {} {} s := by
  refine ⟨⟨_, rfl, fun h => ?_⟩, _, rfl, fun h => absurd (h.2 _ (.refl _)) (by decide)⟩
  -- every turn leads back to the same header
  refine h.1.induction (motive := fun s => s.offset = 0 → s.header = 0 → s.totalParsedSize = 0 →
    AcdbTunnelParam.noBytes.LoopInv {} s → False) ?_ ?_ (by decide) rfl (by decide) loopInv_firstHeader
  · intro s hs _ _ htotal _
    have hdone := AcdbTunnelParam.turn_eq_none_iff.1 hs
    rw [htotal] at hdone
    exact absurd hdone (by decide)
  · intro s s' hs ih hoffset hheader htotal hinv
    have hinv' := hinv.turn hs
    obtain ⟨-, hheader', -, -, htotal'⟩ := AcdbTunnelParam.turn_eq_some hs
    rw [hheader, hoffset] at hheader'
    have hoffset' : s'.offset = 0 := by
      rw [hinv'.offset, hheader']
      decide
    refine ih hoffset' hheader' ?_ hinv'
    rw [htotal', htotal, hoffset']
    rfl

end Agm.Service
