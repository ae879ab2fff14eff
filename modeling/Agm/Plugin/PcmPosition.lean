import Mathlib.Data.Nat.ModEq
import Agm.Lib.Runs
import Agm.Service.Objects

/-!
# The hardware pointer of the PCM plugin

In push-pull mode the DSP writes its read index and its wall clock to a buffer it shares with the plugin, and
`agm_pcm_plugin_update_hw_ptr` makes of them the pointer that ALSA clients see.  The index starts over with every lap of
the circular buffer, so the plugin has to count the laps: by the wall clock, and, where that counts none, by the index
having gone backwards.
-/

namespace Agm.Plugin

open Agm.Lib Agm.Service

/-! ## The plugin -/

/-- `struct agm_media_config`. -/
structure MediaConfig where
  rate : Nat
  channels : Nat
  format : MediaFormat
  deriving DecidableEq, Repr

def agmFormatToBits : MediaFormat → Nat
  | .pcmS32Le | .pcmS24Le => 32
  | .pcmS24_3Le => 24
  | _ => 16

/-- `agm_pcm_bytes_to_frames`, in 32 bits. -/
def agmPcmBytesToFrames (bytes : Nat) (cfg : MediaConfig) : Nat :=
  bytes * 8 % 2 ^ 32 / (cfg.channels * agmFormatToBits cfg.format % 2 ^ 32)

/-- `struct pcm_plugin_pos_buf_info`, without the pointer of the application. -/
structure PosBufInfo where
  boundary : Nat
  hwPtr : Nat := 0
  hwPtrBase : Nat := 0
  wallClkMsw : Nat := 0
  wallClkLsw : Nat := 0
  deriving DecidableEq, Repr

/-- `struct agm_pcm_priv`, as `agm_pcm_hw_params` and `agm_pcm_mmap` leave it. -/
structure PcmPriv where
  mediaConfig : MediaConfig
  periodSize : Nat
  totalSizeFrames : Nat
  posBuf : PosBufInfo
  deriving DecidableEq, Repr

/-- The loop of `agm_pcm_mmap` that doubles the boundary of a buffer of at most `0x7fffffff` frames; it ends before its
31st turn. -/
def boundaryLoop (totalSizeFrames : Nat) : Nat → Nat → Nat
  | 0, boundary => boundary
  | fuel + 1, boundary =>
    if boundary * 2 ≤ 0x7fffffff - totalSizeFrames then boundaryLoop totalSizeFrames fuel (boundary * 2) else boundary

/-- The plugin after `agm_pcm_hw_params` and `agm_pcm_mmap`, with a buffer of `count` periods. -/
def agmPcmMmap (cfg : MediaConfig) (count periodSize : Nat) : PcmPriv :=
  let total := count * periodSize % 2 ^ 32
  { mediaConfig := cfg, periodSize := periodSize, totalSizeFrames := total,
    posBuf := { boundary := boundaryLoop total 31 total } }

/-- `struct agm_shared_pos_buffer`. -/
structure SharedPosBuffer where
  frameCounter : Nat
  readIndex : Nat
  wallClockUsLsw : Nat
  wallClockUsMsw : Nat
  deriving DecidableEq, Repr, Inhabited

/-- The shared buffer as the plugin finds it: its content at each of the reads that are made of it. -/
abbrev SharedReads := Nat → SharedPosBuffer

/-- The inner loop of `agm_pcm_plugin_get_shared_pos`: the counter is read until it is not zero, five times at most.
The result is the last value read, and the number of the next read. -/
def readFrameCounter (buf : SharedReads) : Nat → Nat → Nat × Nat
  | 0, k => ((buf k).frameCounter, k + 1)
  | j + 1, k => if (buf k).frameCounter ≠ 0 then ((buf k).frameCounter, k + 1) else readFrameCounter buf j (k + 1)

/-- `agm_pcm_plugin_get_shared_pos`, `tries` more turns of its outer loop: the read index and the two halves of the
clock, and the number of the next read. -/
def agmPcmPluginGetSharedPos (buf : SharedReads) : Nat → Nat → Option (Nat × Nat × Nat) × Nat
  | 0, k => (none, k)
  | tries + 1, k =>
    let c := readFrameCounter buf 4 k
    let msw := (buf c.2).wallClockUsMsw
    let lsw := (buf (c.2 + 1)).wallClockUsLsw
    let index := (buf (c.2 + 2)).readIndex
    if c.1 ≠ (buf (c.2 + 3)).frameCounter then agmPcmPluginGetSharedPos buf tries (c.2 + 4)
    else (some (index, msw, lsw), c.2 + 4)

/-- The loop of `agm_pcm_plugin_update_hw_ptr` around it. -/
def retrySharedPos (buf : SharedReads) : Nat → Nat → Option (Nat × Nat × Nat)
  | 0, _ => none
  | retries + 1, k =>
    match agmPcmPluginGetSharedPos buf 2 k with
    | (some p, _) => some p
    | (none, k) => retrySharedPos buf retries k

/-- The time since the last update, `0` if there was none, or if it is not positive as an `int64_t`. -/
def deltaWallClkUs (pos : PosBufInfo) (msw lsw : Nat) : Nat :=
  if pos.wallClkMsw ≠ 0 ∨ pos.wallClkLsw ≠ 0 then
    let dsp := msw * 2 ^ 32 + lsw
    let cached := pos.wallClkMsw * 2 ^ 32 + pos.wallClkLsw
    if dsp > cached ∧ dsp - cached < 2 ^ 63 then dsp - cached else 0
  else 0

/-- The laps the wall clock counts: whole seconds, times the rate, times the channels, in 32 bits. -/
def crossedBoundary (priv : PcmPriv) (deltaUs : Nat) : Nat :=
  deltaUs / 1000000 * priv.mediaConfig.rate * priv.mediaConfig.channels % 2 ^ 32 / priv.totalSizeFrames

/-- The base moves on, and starts over at the boundary. -/
def advanceBase (pos : PosBufInfo) (frames : Nat) : Nat :=
  if pos.hwPtrBase + frames ≥ pos.boundary then 0 else pos.hwPtrBase + frames

/-- The new base, for a position of `pos` frames in the buffer. -/
def nextHwPtrBase (priv : PcmPriv) (crossed pos : Nat) : Nat :=
  if crossed > 0 then advanceBase priv.posBuf (crossed * priv.totalSizeFrames)
  else if priv.posBuf.hwPtrBase + pos < priv.posBuf.hwPtr then advanceBase priv.posBuf priv.totalSizeFrames
  else priv.posBuf.hwPtrBase

/-- `agm_pcm_plugin_update_hw_ptr`, once the shared position is read. -/
def applySharedPos (priv : PcmPriv) (index msw lsw : Nat) : PcmPriv :=
  let pos := agmPcmBytesToFrames index priv.mediaConfig / priv.periodSize * priv.periodSize
  let base := nextHwPtrBase priv (crossedBoundary priv (deltaWallClkUs priv.posBuf msw lsw)) pos
  let posBuf := { priv.posBuf with hwPtr := base + pos, hwPtrBase := base, wallClkMsw := msw, wallClkLsw := lsw }
  { priv with posBuf := posBuf }

/-- `agm_pcm_plugin_update_hw_ptr`; a position that could not be read leaves everything as it is. -/
def agmPcmPluginUpdateHwPtr (buf : SharedReads) (priv : PcmPriv) : Int × PcmPriv :=
  match retrySharedPos buf 10 0 with
  | none => (-EAGAIN, priv)
  | some (index, msw, lsw) => (0, applySharedPos priv index msw lsw)

/-! ## The DSP -/

/-- A DSP that plays `rate` frames in a second, from the wall clock `start` on. -/
structure Dsp where
  rate : Nat
  start : Nat
  deriving DecidableEq, Repr

/-- The frames played when the wall clock shows `w` microseconds. -/
def Dsp.pos (d : Dsp) (w : Nat) : Nat := d.rate * (w - d.start) / 1000000

/-- The bytes of a frame. -/
def MediaConfig.frameBytes (cfg : MediaConfig) : Nat := cfg.channels * (agmFormatToBits cfg.format / 8)

/-- The read index at that time: where in the circular buffer the next frame is. -/
def Dsp.readIndex (d : Dsp) (priv : PcmPriv) (w : Nat) : Nat :=
  d.pos w % priv.totalSizeFrames * priv.mediaConfig.frameBytes

/-- The wall clock of the last update, `0` if there was none. -/
def PosBufInfo.wallClk (pos : PosBufInfo) : Nat := pos.wallClkMsw * 2 ^ 32 + pos.wallClkLsw

/-- The reads are of a buffer that the DSP writes: where the frame counter is the same before and after, the values in
between are those of one time, not before the one that was seen last. -/
def Dsp.Writes (d : Dsp) (priv : PcmPriv) (buf : SharedReads) : Prop :=
  ∀ k, (buf k).frameCounter = (buf (k + 4)).frameCounter → ∃ w, priv.posBuf.wallClk ≤ w ∧
    (buf (k + 1)).wallClockUsMsw = w / 2 ^ 32 ∧ (buf (k + 2)).wallClockUsLsw = w % 2 ^ 32 ∧
    (buf (k + 3)).readIndex = d.readIndex priv w

theorem readFrameCounter_eq (buf : SharedReads) (j k : Nat) :
    ∃ m, readFrameCounter buf j k = ((buf m).frameCounter, m + 1) := by
  induction j generalizing k with
  | zero => exact ⟨k, rfl⟩
  | succ j ih =>
    rw [readFrameCounter]
    split
    · exact ⟨k, rfl⟩
    · exact ih (k + 1)

section

variable {d : Dsp} {priv : PcmPriv} {buf : SharedReads} {index msw lsw : Nat}

/-- A position that is read is one the DSP has written. -/
theorem Dsp.Writes.getSharedPos (hw : d.Writes priv buf) {tries k k' : Nat}
    (h : agmPcmPluginGetSharedPos buf tries k = (some (index, msw, lsw), k')) :
    ∃ w, priv.posBuf.wallClk ≤ w ∧ msw = w / 2 ^ 32 ∧ lsw = w % 2 ^ 32 ∧ index = d.readIndex priv w := by
  induction tries generalizing k with
  | zero => simp [agmPcmPluginGetSharedPos] at h
  | succ tries ih =>
    obtain ⟨m, hm⟩ := readFrameCounter_eq buf 4 k
    rw [agmPcmPluginGetSharedPos, hm] at h
    dsimp only at h
    split at h
    · exact ih h
    · next heq =>
      obtain ⟨w, hle, h₁, h₂, h₃⟩ := hw m (Decidable.not_not.1 heq)
      simp only [Prod.mk.injEq, Option.some.injEq] at h
      obtain ⟨⟨rfl, rfl, rfl⟩, -⟩ := h
      exact ⟨w, hle, h₁, h₂, h₃⟩

theorem Dsp.Writes.retrySharedPos (hw : d.Writes priv buf) {retries k : Nat}
    (h : retrySharedPos buf retries k = some (index, msw, lsw)) :
    ∃ w, priv.posBuf.wallClk ≤ w ∧ msw = w / 2 ^ 32 ∧ lsw = w % 2 ^ 32 ∧ index = d.readIndex priv w := by
  induction retries generalizing k with
  | zero => simp [Plugin.retrySharedPos] at h
  | succ retries ih =>
    rw [Plugin.retrySharedPos] at h
    split at h
    · next p k' heq =>
      obtain rfl := Option.some.inj h
      exact hw.getSharedPos heq
    · exact ih h

end

/-! ## The configuration -/

/-- The buffer has periods, periods have frames, frames have channels, and the buffer in bits fits 32 bits. -/
structure Fits (cfg : MediaConfig) (count periodSize : Nat) : Prop where
  count_pos : 0 < count
  period_pos : 0 < periodSize
  channels_pos : 0 < cfg.channels
  bits : count * periodSize * cfg.frameBytes * 8 < 2 ^ 32

theorem dvd_boundaryLoop {total fuel boundary : Nat} (h : total ∣ boundary) : total ∣ boundaryLoop total fuel boundary := by
  induction fuel generalizing boundary with
  | zero => exact h
  | succ fuel ih =>
    rw [boundaryLoop]
    split
    · exact ih (h.mul_right 2)
    · exact h

theorem boundaryLoop_pos {total fuel boundary : Nat} (h : 0 < boundary) : 0 < boundaryLoop total fuel boundary := by
  induction fuel generalizing boundary with
  | zero => exact h
  | succ fuel ih =>
    rw [boundaryLoop]
    split
    · exact ih (by omega)
    · exact h

/-- The loop ends by its own test. -/
theorem boundaryLoop_ended {total fuel boundary : Nat} (hfuel : fuel ≤ 31) (h : 2 ^ (31 - fuel) ≤ boundary) :
    ¬ boundaryLoop total fuel boundary * 2 ≤ 0x7fffffff - total := by
  induction fuel generalizing boundary with
  | zero =>
    rw [boundaryLoop]
    omega
  | succ fuel ih =>
    rw [boundaryLoop]
    split
    · refine ih (by omega) ?_
      rw [show 31 - fuel = 31 - (fuel + 1) + 1 by omega, Nat.pow_succ]
      omega
    · assumption

theorem frameBits_eq (cfg : MediaConfig) : cfg.frameBytes * 8 = cfg.channels * agmFormatToBits cfg.format := by
  have h : agmFormatToBits cfg.format / 8 * 8 = agmFormatToBits cfg.format := by
    cases cfg.format <;> rfl
  rw [MediaConfig.frameBytes, Nat.mul_assoc, h]

theorem frameBytes_pos {cfg : MediaConfig} (h : 0 < cfg.channels) : 0 < cfg.frameBytes := by
  have hb : 0 < agmFormatToBits cfg.format / 8 := by
    cases cfg.format <;> decide
  exact Nat.mul_pos h hb

/-- The frames of a read index within the buffer. -/
theorem bytesToFrames_frames {cfg : MediaConfig} {count periodSize x : Nat} (hf : Fits cfg count periodSize)
    (hx : x < count * periodSize) : agmPcmBytesToFrames (x * cfg.frameBytes) cfg = x := by
  have hpos := frameBytes_pos hf.channels_pos
  have hle : x * cfg.frameBytes * 8 ≤ count * periodSize * cfg.frameBytes * 8 :=
    Nat.mul_le_mul_right _ (Nat.mul_le_mul_right _ hx.le)
  have hone : cfg.frameBytes * 8 ≤ count * periodSize * cfg.frameBytes * 8 := by
    refine Nat.mul_le_mul_right _ (Nat.le_mul_of_pos_left _ ?_)
    exact Nat.mul_pos hf.count_pos hf.period_pos
  have hbits := hf.bits
  rw [agmPcmBytesToFrames, ← frameBits_eq, Nat.mod_eq_of_lt (by omega), Nat.mod_eq_of_lt (by omega), Nat.mul_assoc]
  exact Nat.mul_div_cancel _ (by omega)

/-! ## The invariant -/

/-- The laps of the circular buffer that the DSP has made since the last update. -/
def Dsp.laps (d : Dsp) (priv : PcmPriv) (w : Nat) : Nat :=
  d.pos w / priv.totalSizeFrames - d.pos priv.posBuf.wallClk / priv.totalSizeFrames

/-- The period of the buffer that the DSP is in. -/
def Dsp.period (d : Dsp) (priv : PcmPriv) (w : Nat) : Nat := d.pos w % priv.totalSizeFrames / priv.periodSize

/-- **What an update has to meet.**  Where the whole seconds since the last one, times rate and channels, make a buffer
or more, they make as many as the DSP has made laps, and the base does not pass the boundary.  Where they make less, the
DSP has made no lap, or one that has taken it to an earlier period of the buffer. -/
def Dsp.CountsLaps (d : Dsp) (priv : PcmPriv) (w : Nat) : Prop :=
  let seconds := if priv.posBuf.wallClk = 0 ∨ 2 ^ 63 ≤ w - priv.posBuf.wallClk then 0 else
    (w - priv.posBuf.wallClk) / 1000000
  let wallLaps := seconds * priv.mediaConfig.rate * priv.mediaConfig.channels % 2 ^ 32 / priv.totalSizeFrames
  if wallLaps ≠ 0 then
    d.laps priv w = wallLaps ∧ priv.posBuf.hwPtrBase + wallLaps * priv.totalSizeFrames ≤ priv.posBuf.boundary
  else d.laps priv w = 0 ∨ (d.laps priv w = 1 ∧ d.period priv w < d.period priv priv.posBuf.wallClk)

instance (d : Dsp) (priv : PcmPriv) (w : Nat) : Decidable (d.CountsLaps priv w) := by
  unfold Dsp.CountsLaps
  infer_instance

/-- The plugin is where the DSP was when it was last seen. -/
structure Dsp.Tracks (d : Dsp) (cfg : MediaConfig) (count periodSize : Nat) (priv : PcmPriv) : Prop where
  media : priv.mediaConfig = cfg
  size : priv.periodSize = periodSize
  total : priv.totalSizeFrames = count * periodSize
  boundary : count * periodSize ∣ priv.posBuf.boundary
  base_lt : priv.posBuf.hwPtrBase < priv.posBuf.boundary
  base : priv.posBuf.hwPtrBase ≡ d.pos priv.posBuf.wallClk / (count * periodSize) * (count * periodSize)
    [MOD priv.posBuf.boundary]
  hwPtr : priv.posBuf.hwPtr = priv.posBuf.hwPtrBase + d.period priv priv.posBuf.wallClk * periodSize

section

variable {d : Dsp} {cfg : MediaConfig} {count periodSize : Nat} {priv : PcmPriv}

theorem Dsp.tracks_mmap (d : Dsp) (hf : Fits cfg count periodSize) :
    d.Tracks cfg count periodSize (agmPcmMmap cfg count periodSize) := by
  have hpos : 0 < count * periodSize := Nat.mul_pos hf.count_pos hf.period_pos
  have hbytes : count * periodSize ≤ count * periodSize * cfg.frameBytes :=
    Nat.le_mul_of_pos_right _ (frameBytes_pos hf.channels_pos)
  have hbits := hf.bits
  have htotal : count * periodSize % 2 ^ 32 = count * periodSize := Nat.mod_eq_of_lt (by omega)
  have hstart : d.pos 0 = 0 := by simp [Dsp.pos]
  refine ⟨rfl, rfl, htotal, ?_, ?_, ?_, ?_⟩
  · simp only [agmPcmMmap, htotal]
    exact dvd_boundaryLoop (Nat.dvd_refl _)
  · simp only [agmPcmMmap, htotal]
    exact boundaryLoop_pos hpos
  · simp [agmPcmMmap, PosBufInfo.wallClk, hstart, Nat.ModEq]
  · simp [agmPcmMmap, PosBufInfo.wallClk, hstart, Dsp.period]

theorem Dsp.pos_mono (d : Dsp) {w w' : Nat} (h : w ≤ w') : d.pos w ≤ d.pos w' :=
  Nat.div_le_div_right (Nat.mul_le_mul_left _ (Nat.sub_le_sub_right h _))

/-- The base moves on by laps that do not take it past the boundary. -/
theorem advanceBase_modEq {pos : PosBufInfo} {frames : Nat} (h : pos.hwPtrBase + frames ≤ pos.boundary)
    (hb : 0 < pos.boundary) :
    advanceBase pos frames < pos.boundary ∧ advanceBase pos frames ≡ pos.hwPtrBase + frames [MOD pos.boundary] := by
  unfold advanceBase
  split
  · next hge =>
    have heq : pos.hwPtrBase + frames = pos.boundary := by omega
    rw [heq]
    exact ⟨hb, (Nat.mod_self _).symm ▸ Nat.zero_mod _⟩
  · exact ⟨by omega, Nat.ModEq.refl _⟩

/-- The clock that the plugin caches is the one it has read. -/
theorem deltaWallClkUs_eq {pos : PosBufInfo} {w : Nat} (hw : pos.wallClk ≤ w) :
    deltaWallClkUs pos (w / 2 ^ 32) (w % 2 ^ 32) =
      if pos.wallClk = 0 ∨ 2 ^ 63 ≤ w - pos.wallClk then 0 else w - pos.wallClk := by
  have hsplit : w / 2 ^ 32 * 2 ^ 32 + w % 2 ^ 32 = w := Nat.div_add_mod' w _
  unfold deltaWallClkUs
  rw [hsplit]
  by_cases h0 : pos.wallClk = 0
  · have hparts : pos.wallClkMsw = 0 ∧ pos.wallClkLsw = 0 := by
      unfold PosBufInfo.wallClk at h0
      omega
    simp [h0, hparts]
  · have hparts : pos.wallClkMsw ≠ 0 ∨ pos.wallClkLsw ≠ 0 := by
      unfold PosBufInfo.wallClk at h0
      omega
    rw [if_pos hparts]
    unfold PosBufInfo.wallClk at hw h0 ⊢
    dsimp only
    split <;> split <;> omega

/-- While the DSP stays in a lap, it does not go back. -/
theorem Dsp.period_mono (d : Dsp) (priv : PcmPriv) {w : Nat} (hw : priv.posBuf.wallClk ≤ w)
    (hl : d.laps priv w = 0) : d.period priv priv.posBuf.wallClk ≤ d.period priv w := by
  have hp := d.pos_mono hw
  have hdiv : d.pos priv.posBuf.wallClk / priv.totalSizeFrames ≤ d.pos w / priv.totalSizeFrames :=
    Nat.div_le_div_right hp
  have heq : d.pos w / priv.totalSizeFrames = d.pos priv.posBuf.wallClk / priv.totalSizeFrames := by
    unfold Dsp.laps at hl
    omega
  refine Nat.div_le_div_right ?_
  have h₁ := Nat.div_add_mod (d.pos priv.posBuf.wallClk) priv.totalSizeFrames
  have h₂ := Nat.div_add_mod (d.pos w) priv.totalSizeFrames
  rw [heq] at h₂
  omega

/-- The laps the wall clock counts, for a clock that goes on. -/
def wallLaps (priv : PcmPriv) (w : Nat) : Nat :=
  crossedBoundary priv
    (if priv.posBuf.wallClk = 0 ∨ 2 ^ 63 ≤ w - priv.posBuf.wallClk then 0 else w - priv.posBuf.wallClk)

/-- Under the condition the base moves by the laps that the DSP has made. -/
theorem Dsp.Tracks.nextHwPtrBase (h : d.Tracks cfg count periodSize priv) (hf : Fits cfg count periodSize) {w : Nat}
    (hw : priv.posBuf.wallClk ≤ w) (hlaps : d.CountsLaps priv w) {base : Nat}
    (hbase : base = nextHwPtrBase priv (wallLaps priv w) (d.period priv w * periodSize)) :
    base < priv.posBuf.boundary ∧
      base ≡ priv.posBuf.hwPtrBase + d.laps priv w * (count * periodSize) [MOD priv.posBuf.boundary] := by
  have hb : 0 < priv.posBuf.boundary := Nat.lt_of_le_of_lt (Nat.zero_le _) h.base_lt
  have hwall : wallLaps priv w =
      (if priv.posBuf.wallClk = 0 ∨ 2 ^ 63 ≤ w - priv.posBuf.wallClk then 0 else
        (w - priv.posBuf.wallClk) / 1000000) *
      priv.mediaConfig.rate * priv.mediaConfig.channels % 2 ^ 32 / priv.totalSizeFrames := by
    unfold wallLaps crossedBoundary
    split <;> simp
  unfold CountsLaps at hlaps
  dsimp only at hlaps
  rw [← hwall] at hlaps
  unfold Plugin.nextHwPtrBase at hbase
  by_cases hc : wallLaps priv w = 0
  · rw [if_neg (by omega)] at hbase
    rw [if_neg (not_not.2 hc)] at hlaps
    have hback : priv.posBuf.hwPtrBase + d.period priv w * periodSize < priv.posBuf.hwPtr ↔
        d.period priv w < d.period priv priv.posBuf.wallClk := by
      rw [h.hwPtr, Nat.add_lt_add_iff_left]
      exact Nat.mul_lt_mul_right hf.period_pos
    rcases hlaps with hl | ⟨hl, hlt⟩
    · -- no lap: the index has not gone back
      have hmono := d.period_mono priv hw hl
      rw [if_neg (by rw [hback]; omega)] at hbase
      rw [hbase, hl, Nat.zero_mul]
      exact ⟨h.base_lt, Nat.ModEq.refl _⟩
    · -- one lap: base and boundary are multiples of the buffer, so the base comes to the boundary at most
      rw [if_pos (hback.2 hlt), h.total] at hbase
      have hdvd : count * periodSize ∣ priv.posBuf.hwPtrBase :=
        (h.base.dvd_iff h.boundary).2 (Nat.dvd_mul_left _ _)
      have hle : priv.posBuf.hwPtrBase + count * periodSize ≤ priv.posBuf.boundary := by
        obtain ⟨x, hx⟩ := hdvd
        obtain ⟨y, hy⟩ := h.boundary
        have hlt := h.base_lt
        rw [hx, hy] at hlt ⊢
        have hxy : x < y := Nat.lt_of_mul_lt_mul_left hlt
        rw [← Nat.mul_succ]
        exact Nat.mul_le_mul_left _ hxy
      rw [hbase, hl, Nat.one_mul]
      exact advanceBase_modEq hle hb
  · rw [if_pos (by omega), h.total] at hbase
    rw [if_pos hc, h.total] at hlaps
    rw [hbase, hlaps.1]
    exact advanceBase_modEq hlaps.2 hb

/-- **One update.**  An update that meets the condition leaves the plugin where the DSP is. -/
theorem Dsp.Tracks.apply (h : d.Tracks cfg count periodSize priv) (hf : Fits cfg count periodSize) {w : Nat}
    (hw : priv.posBuf.wallClk ≤ w) (hlaps : d.CountsLaps priv w) :
    d.Tracks cfg count periodSize (applySharedPos priv (d.readIndex priv w) (w / 2 ^ 32) (w % 2 ^ 32)) := by
  have hT : 0 < count * periodSize := Nat.mul_pos hf.count_pos hf.period_pos
  have hclk : w / 2 ^ 32 * 2 ^ 32 + w % 2 ^ 32 = w := Nat.div_add_mod' w _
  have hpos : agmPcmBytesToFrames (d.readIndex priv w) priv.mediaConfig / priv.periodSize * priv.periodSize =
      d.period priv w * periodSize := by
    unfold Dsp.readIndex Dsp.period
    rw [h.media, h.size, h.total, bytesToFrames_frames hf (Nat.mod_lt _ hT)]
  have hsum : d.pos w / (count * periodSize) * (count * periodSize) =
      d.pos priv.posBuf.wallClk / (count * periodSize) * (count * periodSize) + d.laps priv w * (count * periodSize) := by
    have hle : d.pos priv.posBuf.wallClk / (count * periodSize) ≤ d.pos w / (count * periodSize) :=
      Nat.div_le_div_right (d.pos_mono hw)
    rw [Dsp.laps, h.total, ← Nat.add_mul, Nat.add_sub_cancel' hle]
  unfold applySharedPos
  rw [hpos, deltaWallClkUs_eq hw]
  obtain ⟨hlt, hmod⟩ := h.nextHwPtrBase hf hw hlaps rfl
  refine ⟨h.media, h.size, h.total, h.boundary, hlt, ?_, ?_⟩
  · dsimp only [PosBufInfo.wallClk]
    rw [hclk, hsum]
    exact hmod.trans (Nat.ModEq.add_right _ h.base)
  · dsimp only [PosBufInfo.wallClk]
    rw [hclk]
    rfl

end

/-! ## Runs of updates -/

/-- An update, as an operation on the plugin. -/
def pcmExec (buf : SharedReads) (priv : PcmPriv) : Option (Int × PcmPriv) := some (agmPcmPluginUpdateHwPtr buf priv)

/-- The shared buffer is written by the DSP, and the position that is read from it, if one is, meets the condition. -/
def Dsp.Seen (d : Dsp) (priv : PcmPriv) (buf : SharedReads) : Prop :=
  d.Writes priv buf ∧ ∀ index msw lsw, retrySharedPos buf 10 0 = some (index, msw, lsw) →
    d.CountsLaps priv (msw * 2 ^ 32 + lsw)

theorem Dsp.Tracks.update {d : Dsp} {cfg : MediaConfig} {count periodSize : Nat} {priv : PcmPriv}
    (h : d.Tracks cfg count periodSize priv) (hf : Fits cfg count periodSize) {buf : SharedReads}
    (hb : d.Seen priv buf) : d.Tracks cfg count periodSize (agmPcmPluginUpdateHwPtr buf priv).2 := by
  unfold agmPcmPluginUpdateHwPtr
  cases hread : retrySharedPos buf 10 0 with
  | none => exact h
  | some p =>
    obtain ⟨index, msw, lsw⟩ := p
    have hlaps := hb.2 index msw lsw hread
    obtain ⟨w, hw, rfl, rfl, rfl⟩ := hb.1.retrySharedPos hread
    rw [Nat.div_add_mod' w] at hlaps
    exact h.apply hf hw hlaps

/-- The pointer of a plugin that is where the DSP is. -/
theorem Dsp.Tracks.modEq {d : Dsp} {cfg : MediaConfig} {count periodSize : Nat} {priv : PcmPriv}
    (h : d.Tracks cfg count periodSize priv) (hf : Fits cfg count periodSize) :
    priv.posBuf.hwPtr ≡ d.pos priv.posBuf.wallClk / periodSize * periodSize [MOD priv.posBuf.boundary] := by
  have hsplit (x : Nat) : x / periodSize * periodSize =
      x / (count * periodSize) * (count * periodSize) + x % (count * periodSize) / periodSize * periodSize := by
    have hx := Nat.div_add_mod x (count * periodSize)
    have hq : x / periodSize = x / (count * periodSize) * count + x % (count * periodSize) / periodSize := by
      conv_lhs => rw [← hx, Nat.mul_comm, ← Nat.mul_assoc, Nat.add_comm]
      rw [Nat.add_mul_div_right _ _ hf.period_pos, Nat.add_comm]
    rw [hq, Nat.add_mul, Nat.mul_assoc]
  rw [h.hwPtr, hsplit, Dsp.period, h.total, h.size]
  exact Nat.ModEq.add_right _ h.base

/-- **The pointer follows the DSP.**  For every configuration, every DSP that plays at a constant rate and every run of
updates that meet the condition, the pointer is congruent, modulo the boundary, to the position of the DSP at the time it
was last seen, rounded down to a period. -/
theorem hwPtr_follows {d : Dsp} {cfg : MediaConfig} {count periodSize : Nat} (hf : Fits cfg count periodSize)
    {priv : PcmPriv} (h : Runs pcmExec d.Seen (agmPcmMmap cfg count periodSize) priv) :
    priv.posBuf.hwPtr ≡ d.pos priv.posBuf.wallClk / periodSize * periodSize [MOD priv.posBuf.boundary] := by
  have key : d.Tracks cfg count periodSize priv := by
    refine h.invariant (d.tracks_mmap hf) fun s buf r t hs hbuf he => ?_
    have heq : (agmPcmPluginUpdateHwPtr buf s).2 = t := congrArg Prod.snd (Option.some.inj he)
    rw [← heq]
    exact hs.update hf hbuf
  exact key.modEq hf

/-- The shared buffer while the wall clock shows `w`. -/
def Dsp.shows (d : Dsp) (priv : PcmPriv) (w : Nat) : SharedReads := fun _ =>
  { frameCounter := 1, readIndex := d.readIndex priv w, wallClockUsLsw := w % 2 ^ 32, wallClockUsMsw := w / 2 ^ 32 }

theorem Dsp.writes_shows {d : Dsp} {priv : PcmPriv} {w : Nat} (h : priv.posBuf.wallClk ≤ w) :
    d.Writes priv (d.shows priv w) := fun _ _ => ⟨w, h, rfl, rfl, rfl⟩

theorem Dsp.seen_shows {d : Dsp} {priv : PcmPriv} {w : Nat} (h : priv.posBuf.wallClk ≤ w)
    (hlaps : d.CountsLaps priv w) : d.Seen priv (d.shows priv w) := by
  refine ⟨Dsp.writes_shows h, fun index msw lsw hread => ?_⟩
  obtain ⟨rfl, rfl, rfl⟩ : d.readIndex priv w = index ∧ w / 2 ^ 32 = msw ∧ w % 2 ^ 32 = lsw := by
    simpa [retrySharedPos, agmPcmPluginGetSharedPos, readFrameCounter, Dsp.shows] using hread
  rwa [Nat.div_add_mod' w]

/-- Stereo at 48 kHz, four periods of 10 ms; updates after 15 ms and, a lap later, after 45 ms. -/
theorem hwPtr_follows_lap :
    ∃ priv, Runs pcmExec (Dsp.Seen ⟨48000, 1000⟩) (agmPcmMmap ⟨48000, 2, .pcmS16Le⟩ 4 480) priv ∧
      priv.posBuf.wallClk = 46000 ∧ priv.posBuf.hwPtr = 1920 ∧
      priv.posBuf.hwPtr ≡ Dsp.pos ⟨48000, 1000⟩ 46000 / 480 * 480 [MOD priv.posBuf.boundary] := by
  let d : Dsp := ⟨48000, 1000⟩
  let p₀ := agmPcmMmap ⟨48000, 2, .pcmS16Le⟩ 4 480
  let p₁ := (agmPcmPluginUpdateHwPtr (d.shows p₀ 16000) p₀).2
  let p₂ := (agmPcmPluginUpdateHwPtr (d.shows p₁ 46000) p₁).2
  have h₀ : Runs pcmExec d.Seen p₀ p₀ := Runs.refl _
  have h₁ : Runs pcmExec d.Seen p₀ p₁ := h₀.tail (Dsp.seen_shows (by decide +kernel) (by decide +kernel)) rfl
  have h₂ : Runs pcmExec d.Seen p₀ p₂ := h₁.tail (Dsp.seen_shows (by decide +kernel) (by decide +kernel)) rfl
  have hclk : p₂.posBuf.wallClk = 46000 := by decide +kernel
  have hmod := hwPtr_follows ⟨by decide, by decide, by decide, by decide⟩ h₂
  rw [hclk] at hmod
  exact ⟨p₂, h₂, hclk, by decide +kernel, hmod⟩

/-- The same stream, with a second between two updates: the plugin counts 50 laps where the DSP has made 25. -/
theorem hwPtr_double_laps :
    ∃ p₁ p₂, pcmExec (Dsp.shows ⟨48000, 1000⟩ (agmPcmMmap ⟨48000, 2, .pcmS16Le⟩ 4 480) 1000)
        (agmPcmMmap ⟨48000, 2, .pcmS16Le⟩ 4 480) = some (0, p₁) ∧
      Dsp.Writes ⟨48000, 1000⟩ p₁ (Dsp.shows ⟨48000, 1000⟩ p₁ 1001000) ∧
      pcmExec (Dsp.shows ⟨48000, 1000⟩ p₁ 1001000) p₁ = some (0, p₂) ∧
      ¬ p₂.posBuf.hwPtr ≡ Dsp.pos ⟨48000, 1000⟩ 1001000 / 480 * 480 [MOD p₂.posBuf.boundary] := by
  let d : Dsp := ⟨48000, 1000⟩
  let p₀ := agmPcmMmap ⟨48000, 2, .pcmS16Le⟩ 4 480
  let p₁ := (agmPcmPluginUpdateHwPtr (d.shows p₀ 1000) p₀).2
  let p₂ := (agmPcmPluginUpdateHwPtr (d.shows p₁ 1001000) p₁).2
  exact ⟨p₁, p₂, rfl, Dsp.writes_shows (by decide +kernel), rfl, by decide +kernel⟩

end Agm.Plugin
