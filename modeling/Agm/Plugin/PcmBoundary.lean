import Agm.Lib.Loop
import Agm.Plugin.PcmPosition

/-!
# The boundary of the PCM plugin

The pointers of a buffer that is mapped count frames and start over at a boundary.  `agm_pcm_mmap` doubles the size of
the buffer until another doubling would leave no room for one more buffer below `0x7fffffff`; what the clients of the
plugin compute from the two pointers relies on that room, and on the hardware pointer staying below the boundary
whatever the DSP reports.
-/

namespace Agm.Plugin

open Agm.Lib Agm.Service

/-! ## The loop of `agm_pcm_mmap` -/

/-- The width of `long`, and with it that of `snd_pcm_uframes_t` and `snd_pcm_sframes_t`. -/
inductive DataModel
  | ilp32
  | lp64
  deriving DecidableEq, Repr

def DataModel.longBits : DataModel → Nat
  | .ilp32 => 32
  | .lp64 => 64

/-- One turn of the loop of `agm_pcm_mmap`: the boundary is an `unsigned int`, the bound an `unsigned long`. -/
def boundaryTurn (abi : DataModel) (totalSizeFrames boundary : Nat) : Option Nat :=
  let doubled := boundary * 2 % 2 ^ 32
  if doubled ≤ (0x7fffffff + 2 ^ abi.longBits - totalSizeFrames) % 2 ^ abi.longBits then some doubled else none

section

variable {abi : DataModel} {total boundary fuel : Nat}

/-- For a buffer of at most `0x7fffffff` frames nothing wraps. -/
theorem boundaryTurn_eq (ht : total ≤ 0x7fffffff) (hb : boundary < 2 ^ 31) :
    boundaryTurn abi total boundary =
      if boundary * 2 ≤ 0x7fffffff - total then some (boundary * 2) else none := by
  have hd : boundary * 2 % 2 ^ 32 = boundary * 2 := Nat.mod_eq_of_lt (by omega)
  have hbound : (0x7fffffff + 2 ^ abi.longBits - total) % 2 ^ abi.longBits = 0x7fffffff - total := by
    cases abi <;> simp only [DataModel.longBits] <;> omega
  rw [boundaryTurn, hd, hbound]

/-- A larger buffer keeps the loop going for ever. -/
theorem le_of_boundaryTurn_none (ht : total < 2 ^ 32) (h : boundaryTurn .lp64 total boundary = none) :
    total ≤ 0x7fffffff := by
  by_contra hlt
  have hd : boundary * 2 % 2 ^ 32 < 2 ^ 32 := Nat.mod_lt _ (by decide)
  have hle : boundary * 2 % 2 ^ 32 ≤ (0x7fffffff + 2 ^ 64 - total) % 2 ^ 64 := by omega
  rw [boundaryTurn, DataModel.longBits, if_pos hle] at h
  cases h

/-- What a turn keeps. -/
theorem boundaryTurn_keeps (ht : total ≤ 0x7fffffff) {b b' : Nat} (h : boundaryTurn abi total b = some b')
    (hb : 0 < b ∧ b < 2 ^ 31 ∧ total ∣ b) : 0 < b' ∧ b' < 2 ^ 31 ∧ total ∣ b' := by
  obtain ⟨hpos, hlt, hdvd⟩ := hb
  rw [boundaryTurn_eq ht hlt] at h
  split at h
  · obtain rfl := Option.some.inj h
    exact ⟨by omega, by omega, hdvd.mul_right 2⟩
  · cases h

/-- The boundary is a multiple of the buffer wherever the loop ends. -/
theorem boundary_of_visits (hpos : 0 < total) (ht : total ≤ 0x7fffffff)
    (h : Visits (boundaryTurn abi total) total boundary) : 0 < boundary ∧ total ∣ boundary := by
  have key : 0 < boundary ∧ boundary < 2 ^ 31 ∧ total ∣ boundary := by
    induction h with
    | refl => exact ⟨hpos, by omega, Nat.dvd_refl _⟩
    | tail _ hturn ih => exact boundaryTurn_keeps ht hturn ih
  exact ⟨key.1, key.2.2⟩

/-- The loop, with enough turns, goes through these. -/
theorem visits_boundaryLoop (ht : total ≤ 0x7fffffff) (hb : boundary < 2 ^ 31) :
    Visits (boundaryTurn abi total) boundary (boundaryLoop total fuel boundary) := by
  induction fuel generalizing boundary with
  | zero => exact Visits.refl _
  | succ fuel ih =>
    rw [boundaryLoop]
    split
    · next hle =>
      refine Visits.head ?_ (ih (by omega))
      rw [boundaryTurn_eq ht hb, if_pos hle]
    · exact Visits.refl _

/-- The loop doubles, and what it has doubled is within the bound. -/
theorem boundaryLoop_range (hb : boundary ≤ 0x7fffffff - total) :
    (∃ k, boundaryLoop total fuel boundary = boundary * 2 ^ k) ∧
      boundaryLoop total fuel boundary ≤ 0x7fffffff - total := by
  induction fuel generalizing boundary with
  | zero => exact ⟨⟨0, (Nat.mul_one _).symm⟩, hb⟩
  | succ fuel ih =>
    rw [boundaryLoop]
    split
    · next hle =>
      obtain ⟨⟨k, hk⟩, hrange⟩ := ih hle
      exact ⟨⟨k + 1, by rw [hk, Nat.pow_succ', Nat.mul_assoc]⟩, hrange⟩
    · exact ⟨⟨0, (Nat.mul_one _).symm⟩, hb⟩

/-- A buffer of at most a quarter of the bound is doubled once at least. -/
theorem boundaryLoop_start (ht : total ≤ 2 ^ 29) :
    boundaryLoop total 31 total = boundaryLoop total 30 (total * 2) := by
  rw [boundaryLoop, if_pos (by omega)]

theorem boundaryLoop_last (hpos : 0 < total) (ht : total ≤ 2 ^ 29) :
    boundaryTurn abi total (boundaryLoop total 31 total) = none := by
  have hle : total ≤ 0x7fffffff - total := by omega
  have hrange : boundaryLoop total 31 total ≤ 0x7fffffff - total := (boundaryLoop_range hle).2
  rw [boundaryTurn_eq (by omega) (by omega), if_neg]
  exact boundaryLoop_ended (Nat.le_refl _) hpos

end

/-! ## The plugin of a stream -/

/-- `struct pcm_plugin` of a stream that is mapped, with the fields of `struct agm_pcm_priv` that its calls read beside
the position; the address and the length are those of the data buffer. -/
structure PcmPlugin where
  pcmIn : Bool
  noirq : Bool
  handle : Nat
  bufInfo : Bool
  mmapBufferAddr : Nat
  mmapBufferLength : Nat
  applPtr : Nat
  priv : PcmPriv
  deriving DecidableEq, Repr

/-- A value as it is stored in a `snd_pcm_sframes_t`. -/
def sframes (abi : DataModel) (x : Int) : Int := Int.bmod x (2 ^ abi.longBits)

/-- `agm_pcm_get_avail`. -/
def agmPcmGetAvail (abi : DataModel) (plugin : PcmPlugin) : Int :=
  let pos := plugin.priv.posBuf
  if plugin.pcmIn then
    let avail := sframes abi (pos.hwPtr - plugin.applPtr)
    if avail < 0 then sframes abi (avail + pos.boundary) else avail
  else
    let avail := sframes abi (pos.hwPtr + plugin.priv.totalSizeFrames - plugin.applPtr)
    if avail < 0 then sframes abi (avail + pos.boundary)
    else if avail ≥ pos.boundary then sframes abi (avail - pos.boundary)
    else avail

/-- What is less than `2 ^ 31` fits either width. -/
theorem sframes_of_range {abi : DataModel} {x : Int} (hlo : -0x80000000 ≤ x) (hhi : x < 0x80000000) :
    sframes abi x = x := by
  cases abi
  · exact Int.bmod_eq_of_le (by simp [DataModel.longBits]; omega) (by simp [DataModel.longBits]; omega)
  · exact Int.bmod_eq_of_le (by simp [DataModel.longBits]; omega) (by simp [DataModel.longBits]; omega)

/-- The distance from one pointer to another, when both are below the boundary. -/
theorem emod_of_lt {x y b : Int} (hx : 0 ≤ x) (hxb : x < b) (hy : 0 ≤ y) (hyb : y < b) :
    (x - y) % b = if x < y then x - y + b else x - y := by
  split
  · rw [← Int.add_emod_right, Int.emod_eq_of_lt (by omega) (by omega)]
  · exact Int.emod_eq_of_lt (by omega) (by omega)

section

variable {abi : DataModel} {plugin : PcmPlugin}

theorem getAvail_capture (hin : plugin.pcmIn = true) (hb : plugin.priv.posBuf.boundary ≤ 0x7fffffff)
    (hhw : plugin.priv.posBuf.hwPtr < plugin.priv.posBuf.boundary)
    (happl : plugin.applPtr < plugin.priv.posBuf.boundary) :
    agmPcmGetAvail abi plugin =
      ((plugin.priv.posBuf.hwPtr : Int) - plugin.applPtr) % plugin.priv.posBuf.boundary := by
  rw [emod_of_lt (by omega) (by omega) (by omega) (by omega), agmPcmGetAvail, if_pos hin]
  dsimp only
  rw [sframes_of_range (by omega) (by omega)]
  split
  · rw [if_pos (by omega), sframes_of_range (by omega) (by omega)]
  · rw [if_neg (by omega)]

theorem getAvail_playback (hout : plugin.pcmIn = false)
    (htotal : plugin.priv.totalSizeFrames < plugin.priv.posBuf.boundary)
    (hb : plugin.priv.posBuf.boundary + plugin.priv.totalSizeFrames ≤ 0x7fffffff)
    (hhw : plugin.priv.posBuf.hwPtr < plugin.priv.posBuf.boundary)
    (happl : plugin.applPtr < plugin.priv.posBuf.boundary)
    (hfill : ((plugin.applPtr : Int) - plugin.priv.posBuf.hwPtr) % plugin.priv.posBuf.boundary ≤
      plugin.priv.totalSizeFrames) :
    agmPcmGetAvail abi plugin = plugin.priv.totalSizeFrames -
      ((plugin.applPtr : Int) - plugin.priv.posBuf.hwPtr) % plugin.priv.posBuf.boundary := by
  rw [emod_of_lt (by omega) (by omega) (by omega) (by omega)] at hfill ⊢
  have hmode : ¬ plugin.pcmIn = true := by simp [hout]
  rw [agmPcmGetAvail, if_neg hmode]
  dsimp only
  rw [sframes_of_range (by omega) (by omega), if_neg (by split at hfill <;> omega)]
  split at hfill
  · -- the application has passed the boundary and the hardware has not
    rw [if_pos (by omega), sframes_of_range (by omega) (by omega), if_pos (by omega)]
    omega
  · rw [if_neg (by omega), if_neg (by omega)]
    omega

end

/-- **The boundary leaves room for what is available.**  For a buffer of 1 to `2 ^ 29` frames the loop of `agm_pcm_mmap`
ends with a boundary that is a power of two, from two on, of buffers and has room for one more below `0x7fffffff`; and
for pointers below it `agm_pcm_get_avail` returns the distance from one to the other, modulo the boundary, or, for
playback, what that leaves of the buffer. -/
theorem boundary_avail (abi : DataModel) {total : Nat} (hpos : 1 ≤ total) (ht : total ≤ 2 ^ 29) :
    ∃ boundary, Visits (boundaryTurn abi total) total boundary ∧ boundaryTurn abi total boundary = none ∧
      (∃ k ≥ 1, boundary = total * 2 ^ k) ∧ boundary + total ≤ 0x7fffffff ∧
      ∀ plugin : PcmPlugin, plugin.priv.totalSizeFrames = total → plugin.priv.posBuf.boundary = boundary →
        plugin.priv.posBuf.hwPtr < boundary → plugin.applPtr < boundary →
        (plugin.pcmIn = false → ((plugin.applPtr : Int) - plugin.priv.posBuf.hwPtr) % boundary ≤ total →
          agmPcmGetAvail abi plugin = total - ((plugin.applPtr : Int) - plugin.priv.posBuf.hwPtr) % boundary ∧
            0 ≤ agmPcmGetAvail abi plugin ∧ agmPcmGetAvail abi plugin ≤ total) ∧
        (plugin.pcmIn = true →
          agmPcmGetAvail abi plugin = ((plugin.priv.posBuf.hwPtr : Int) - plugin.applPtr) % boundary) := by
  have htwice : total * 2 ≤ 0x7fffffff - total := by omega
  obtain ⟨⟨k, hk⟩, hle⟩ := boundaryLoop_range htwice
  rw [← boundaryLoop_start ht] at hk hle
  have hpow : boundaryLoop total 31 total = total * 2 ^ (k + 1) := by
    rw [hk, Nat.pow_succ', Nat.mul_assoc]
  have htwo : total * 2 ≤ boundaryLoop total 31 total := by
    rw [hk]
    exact Nat.le_mul_of_pos_right _ (Nat.two_pow_pos k)
  refine ⟨boundaryLoop total 31 total, visits_boundaryLoop (by omega) (by omega), boundaryLoop_last hpos ht,
    ⟨k + 1, Nat.succ_pos k, hpow⟩, by omega, ?_⟩
  rintro plugin rfl hb hhw happl
  rw [← hb] at hhw happl hle htwo ⊢
  refine ⟨fun hout hfill => ?_, fun hin => getAvail_capture hin (by omega) hhw happl⟩
  have havail : agmPcmGetAvail abi plugin = _ := getAvail_playback hout (by omega) (by omega) hhw happl hfill
  have hnonneg : 0 ≤ ((plugin.applPtr : Int) - plugin.priv.posBuf.hwPtr) % plugin.priv.posBuf.boundary :=
    Int.emod_nonneg _ (by omega)
  exact ⟨havail, by omega, by omega⟩

/-- Playback of a buffer of 1920 frames: the application has started over, and 480 frames of the buffer are free. -/
theorem boundary_avail_wrapped :
    ∃ plugin : PcmPlugin, plugin.priv.totalSizeFrames = 1920 ∧ plugin.applPtr < plugin.priv.posBuf.hwPtr ∧
      agmPcmGetAvail .lp64 plugin = 480 := by
  obtain ⟨b, -, -, ⟨k, hk, rfl⟩, -, havail⟩ := boundary_avail .lp64 (show 1 ≤ 1920 by decide) (by decide)
  have hpow : 2 ^ 1 ≤ 2 ^ k := Nat.pow_le_pow_right (by decide) hk
  let pos : PosBufInfo := { boundary := 1920 * 2 ^ k, hwPtr := 1920 * 2 ^ k - 960 }
  let plugin : PcmPlugin := ⟨false, true, 1, true, 1, 7680, 480, ⟨⟨48000, 2, .pcmS16Le⟩, 480, 1920, pos⟩⟩
  have hdist : ((480 : Nat) - ((1920 * 2 ^ k - 960 : Nat) : Int)) % (1920 * 2 ^ k : Nat) = 1440 := by
    rw [emod_of_lt (by omega) (by omega) (by omega) (by omega), if_pos (by omega)]
    omega
  have h := (havail plugin rfl rfl (show 1920 * 2 ^ k - 960 < _ by omega) (show 480 < _ by omega)).1 rfl
  rw [show ((plugin.applPtr : Int) - plugin.priv.posBuf.hwPtr) % (1920 * 2 ^ k : Nat) = 1440 from hdist] at h
  exact ⟨plugin, rfl, show 480 < 1920 * 2 ^ k - 960 by omega, (h (by decide)).1⟩

/-! ## The calls of a stream -/

/-- `agm_get_session_handle`. -/
def PcmPlugin.agmGetSessionHandle (plugin : PcmPlugin) : Int := if plugin.handle = 0 then -EINVAL else 0

def PcmPlugin.setPosBuf (plugin : PcmPlugin) (pos : PosBufInfo) : PcmPlugin :=
  { plugin with priv := { plugin.priv with posBuf := pos } }

/-- `agm_pcm_prepare`, with what `agm_session_prepare` returns. -/
def agmPcmPrepare (sessionPrepare : Int) (plugin : PcmPlugin) : Int × PcmPlugin :=
  let plugin := plugin.setPosBuf { plugin.priv.posBuf with wallClkMsw := 0, wallClkLsw := 0 }
  let ret := plugin.agmGetSessionHandle
  if ret ≠ 0 then (ret, plugin) else (sessionPrepare, plugin)

/-- `agm_pcm_plugin_reset`; what the update returns is not looked at. -/
def agmPcmPluginReset (buf : SharedReads) (plugin : PcmPlugin) : Int × PcmPlugin :=
  if ¬ plugin.noirq then (-EOPNOTSUPP, plugin)
  else
    let ret := plugin.agmGetSessionHandle
    if ret ≠ 0 then (ret, plugin)
    else if ¬ plugin.bufInfo then (-EINVAL, plugin)
    else
      let ret := if plugin.mmapBufferAddr ≠ 0 ∧ plugin.mmapBufferLength ≠ 0 then 0 else -EINVAL
      let priv := (agmPcmPluginUpdateHwPtr buf plugin.priv).2
      let hwPtr := priv.posBuf.hwPtr % priv.totalSizeFrames
      let pos := { priv.posBuf with hwPtr := hwPtr, hwPtrBase := 0, wallClkMsw := 0, wallClkLsw := 0 }
      (ret, { plugin with priv := { priv with posBuf := pos } })

/-- A call that moves the pointer or forgets the clock; a sample is taken by `agm_pcm_sync_ptr` and `agm_pcm_poll`. -/
inductive PcmCall
  | sample (buf : SharedReads)
  | prepare (sessionPrepare : Int)
  | reset (buf : SharedReads)

def pcmCallExec : PcmCall → PcmPlugin → Option (Int × PcmPlugin)
  | .sample buf, plugin =>
    let (ret, priv) := agmPcmPluginUpdateHwPtr buf plugin.priv
    some (ret, { plugin with priv := priv })
  | .prepare sessionPrepare, plugin => some (agmPcmPrepare sessionPrepare plugin)
  | .reset buf, plugin => some (agmPcmPluginReset buf plugin)

/-- The buffer in bytes. -/
def PcmPriv.bufferBytes (priv : PcmPriv) : Nat := priv.totalSizeFrames * priv.mediaConfig.frameBytes

/-- Wherever the read index is read, it is in the buffer. -/
def IndexInBuffer (plugin : PcmPlugin) : PcmCall → Prop
  | .sample buf => ∀ k, (buf k).readIndex < plugin.priv.bufferBytes
  | .prepare _ => True
  | .reset buf => ∀ k, (buf k).readIndex < plugin.priv.bufferBytes

/-- A PCM as `agm_pcm_mmap` leaves it where `snd_pcm_uframes_t` has 64 bits: the loop has ended with the boundary, and
the rest of the position is zero. -/
structure PcmPriv.Mmapped (priv : PcmPriv) : Prop where
  total_lt : priv.totalSizeFrames < 2 ^ 32
  visits : Visits (boundaryTurn .lp64 priv.totalSizeFrames) priv.totalSizeFrames priv.posBuf.boundary
  ended : boundaryTurn .lp64 priv.totalSizeFrames priv.posBuf.boundary = none
  posBuf : priv.posBuf = { boundary := priv.posBuf.boundary }

/-! ## The invariant -/

/-- The base is a number of buffers below the boundary, and the pointer a number of periods into the next one. -/
structure PcmPriv.InLap (priv : PcmPriv) : Prop where
  total_pos : 0 < priv.totalSizeFrames
  period : priv.periodSize ∣ priv.totalSizeFrames
  frameBits : priv.mediaConfig.frameBytes * 8 < 2 ^ 32
  boundary : priv.totalSizeFrames ∣ priv.posBuf.boundary
  base : priv.totalSizeFrames ∣ priv.posBuf.hwPtrBase
  base_lt : priv.posBuf.hwPtrBase < priv.posBuf.boundary
  hwPtr : ∃ n, priv.posBuf.hwPtr = priv.posBuf.hwPtrBase + n * priv.periodSize ∧
    n * priv.periodSize < priv.totalSizeFrames

section

variable {priv : PcmPriv} {plugin plugin' : PcmPlugin} {buf : SharedReads} {index msw lsw : Nat}

theorem PcmPriv.Mmapped.inLap (h : priv.Mmapped) (hpos : 0 < priv.totalSizeFrames)
    (hperiod : priv.periodSize ∣ priv.totalSizeFrames) (hbits : priv.mediaConfig.frameBytes * 8 < 2 ^ 32) :
    priv.InLap := by
  have hb := boundary_of_visits hpos (le_of_boundaryTurn_none h.total_lt h.ended) h.visits
  have hbase : priv.posBuf.hwPtrBase = 0 := by rw [h.posBuf]
  have hhw : priv.posBuf.hwPtr = 0 := by rw [h.posBuf]
  refine ⟨hpos, hperiod, hbits, hb.2, ?_, ?_, 0, ?_, ?_⟩
  · rw [hbase]
    exact Nat.dvd_zero _
  · rw [hbase]
    exact hb.1
  · rw [hhw, hbase, Nat.zero_mul]
  · rwa [Nat.zero_mul]

/-- The base, moved on by buffers, is one of buffers still. -/
theorem PcmPriv.InLap.advanceBase (h : priv.InLap) (n : Nat) :
    priv.totalSizeFrames ∣ advanceBase priv.posBuf (n * priv.totalSizeFrames) ∧
      Plugin.advanceBase priv.posBuf (n * priv.totalSizeFrames) < priv.posBuf.boundary := by
  unfold Plugin.advanceBase
  split
  · exact ⟨Nat.dvd_zero _, Nat.lt_of_le_of_lt (Nat.zero_le _) h.base_lt⟩
  · exact ⟨Nat.dvd_add h.base (Nat.dvd_mul_left _ _), by omega⟩

theorem PcmPriv.InLap.nextHwPtrBase (h : priv.InLap) (crossed pos : Nat) :
    priv.totalSizeFrames ∣ nextHwPtrBase priv crossed pos ∧
      Plugin.nextHwPtrBase priv crossed pos < priv.posBuf.boundary := by
  unfold Plugin.nextHwPtrBase
  split
  · exact h.advanceBase crossed
  · split
    · have hone := h.advanceBase 1
      rwa [Nat.one_mul] at hone
    · exact ⟨h.base, h.base_lt⟩

/-- An index in the buffer is that of a frame of the buffer, also where its bits do not fit 32. -/
theorem bytesToFrames_lt (hbits : priv.mediaConfig.frameBytes * 8 < 2 ^ 32) (hidx : index < priv.bufferBytes) :
    agmPcmBytesToFrames index priv.mediaConfig < priv.totalSizeFrames := by
  have hidx : index < priv.totalSizeFrames * priv.mediaConfig.frameBytes := hidx
  have hframe : 0 < priv.mediaConfig.frameBytes := by
    by_contra h0
    rw [show priv.mediaConfig.frameBytes = 0 by omega, Nat.mul_zero] at hidx
    exact Nat.not_lt_zero _ hidx
  rw [agmPcmBytesToFrames, ← frameBits_eq, Nat.mod_eq_of_lt hbits]
  refine (Nat.div_lt_iff_lt_mul (by omega)).2 ?_
  calc index * 8 % 2 ^ 32 ≤ index * 8 := Nat.mod_le _ _
    _ < priv.totalSizeFrames * priv.mediaConfig.frameBytes * 8 := Nat.mul_lt_mul_of_pos_right hidx (by decide)
    _ = priv.totalSizeFrames * (priv.mediaConfig.frameBytes * 8) := Nat.mul_assoc _ _ _

/-- **One sample.** -/
theorem PcmPriv.InLap.applySharedPos (h : priv.InLap) (hidx : index < priv.bufferBytes) :
    (applySharedPos priv index msw lsw).InLap := by
  have hnext := h.nextHwPtrBase (crossedBoundary priv (deltaWallClkUs priv.posBuf msw lsw))
    (agmPcmBytesToFrames index priv.mediaConfig / priv.periodSize * priv.periodSize)
  have hlt : agmPcmBytesToFrames index priv.mediaConfig / priv.periodSize * priv.periodSize < priv.totalSizeFrames :=
    Nat.lt_of_le_of_lt (Nat.div_mul_le_self _ _) (bytesToFrames_lt h.frameBits hidx)
  exact ⟨h.total_pos, h.period, h.frameBits, h.boundary, hnext.1, hnext.2, _, rfl, hlt⟩

/-- What a reset makes of the pointer and the clock. -/
theorem PcmPriv.InLap.restart (h : priv.InLap) :
    { priv with posBuf := { priv.posBuf with
      hwPtr := priv.posBuf.hwPtr % priv.totalSizeFrames, hwPtrBase := 0, wallClkMsw := 0, wallClkLsw := 0 } }.InLap := by
  obtain ⟨n, hn, hlt⟩ := h.hwPtr
  have hmod : priv.posBuf.hwPtr % priv.totalSizeFrames = n * priv.periodSize := by
    obtain ⟨m, hm⟩ := h.base
    rw [hn, hm, Nat.mul_add_mod, Nat.mod_eq_of_lt hlt]
  refine ⟨h.total_pos, h.period, h.frameBits, h.boundary, Nat.dvd_zero _, ?_, n, ?_, hlt⟩
  · exact Nat.lt_of_le_of_lt (Nat.zero_le _) h.base_lt
  · rw [hmod, Nat.zero_add]

/-- A position that is read is one that is in the shared buffer at some read. -/
theorem readIndex_of_getSharedPos {tries k k' : Nat}
    (h : agmPcmPluginGetSharedPos buf tries k = (some (index, msw, lsw), k')) : ∃ m, index = (buf m).readIndex := by
  induction tries generalizing k with
  | zero => simp [agmPcmPluginGetSharedPos] at h
  | succ tries ih =>
    rw [agmPcmPluginGetSharedPos] at h
    split at h
    · exact ih h
    · simp only [Prod.mk.injEq, Option.some.injEq] at h
      exact ⟨_, h.1.1.symm⟩

theorem readIndex_of_retrySharedPos {retries k : Nat} (h : retrySharedPos buf retries k = some (index, msw, lsw)) :
    ∃ m, index = (buf m).readIndex := by
  induction retries generalizing k with
  | zero => simp [retrySharedPos] at h
  | succ retries ih =>
    rw [retrySharedPos] at h
    split at h
    · next heq =>
      obtain rfl := Option.some.inj h
      exact readIndex_of_getSharedPos heq
    · exact ih h

theorem PcmPriv.InLap.update (h : priv.InLap) (hbuf : ∀ k, (buf k).readIndex < priv.bufferBytes) :
    (agmPcmPluginUpdateHwPtr buf priv).2.InLap := by
  unfold agmPcmPluginUpdateHwPtr
  cases hread : retrySharedPos buf 10 0 with
  | none => exact h
  | some p =>
    obtain ⟨index, msw, lsw⟩ := p
    obtain ⟨m, rfl⟩ := readIndex_of_retrySharedPos hread
    exact h.applySharedPos (hbuf m)

/-- **One call.** -/
theorem PcmPriv.InLap.call (h : plugin.priv.InLap) {c : PcmCall} (hc : IndexInBuffer plugin c) {r : Int}
    (he : pcmCallExec c plugin = some (r, plugin')) : plugin'.priv.InLap := by
  cases c with
  | sample buf =>
    have heq := congrArg (fun p => p.2.priv) (Option.some.inj he)
    rw [← show (agmPcmPluginUpdateHwPtr buf plugin.priv).2 = plugin'.priv from heq]
    exact h.update hc
  | prepare sessionPrepare =>
    have heq := congrArg (fun p => p.2.priv) (Option.some.inj he)
    have hclk : (agmPcmPrepare sessionPrepare plugin).2.priv =
        { plugin.priv with posBuf := { plugin.priv.posBuf with wallClkMsw := 0, wallClkLsw := 0 } } := by
      unfold agmPcmPrepare
      dsimp only
      split <;> rfl
    rw [← show (agmPcmPrepare sessionPrepare plugin).2.priv = plugin'.priv from heq, hclk]
    exact ⟨h.total_pos, h.period, h.frameBits, h.boundary, h.base, h.base_lt, h.hwPtr⟩
  | reset buf =>
    have heq := congrArg (fun p => p.2.priv) (Option.some.inj he)
    rw [← show (agmPcmPluginReset buf plugin).2.priv = plugin'.priv from heq]
    unfold agmPcmPluginReset
    dsimp only
    split
    · exact h
    · split
      · exact h
      · split
        · exact h
        · exact (h.update hc).restart

/-- No call changes the configuration or the boundary. -/
theorem pcmCallExec_config {c : PcmCall} {r : Int} (he : pcmCallExec c plugin = some (r, plugin')) :
    plugin'.priv.periodSize = plugin.priv.periodSize ∧ plugin'.priv.totalSizeFrames = plugin.priv.totalSizeFrames ∧
      plugin'.priv.posBuf.boundary = plugin.priv.posBuf.boundary := by
  have hupdate (buf : SharedReads) (priv : PcmPriv) :
      (agmPcmPluginUpdateHwPtr buf priv).2.periodSize = priv.periodSize ∧
        (agmPcmPluginUpdateHwPtr buf priv).2.totalSizeFrames = priv.totalSizeFrames ∧
        (agmPcmPluginUpdateHwPtr buf priv).2.posBuf.boundary = priv.posBuf.boundary := by
    unfold agmPcmPluginUpdateHwPtr
    split <;> exact ⟨rfl, rfl, rfl⟩
  cases c with
  | sample buf =>
    obtain rfl := congrArg Prod.snd (Option.some.inj he)
    exact hupdate buf plugin.priv
  | prepare sessionPrepare =>
    obtain rfl := congrArg Prod.snd (Option.some.inj he)
    unfold agmPcmPrepare
    dsimp only
    split <;> exact ⟨rfl, rfl, rfl⟩
  | reset buf =>
    obtain rfl := congrArg Prod.snd (Option.some.inj he)
    unfold agmPcmPluginReset
    dsimp only
    split
    · exact ⟨rfl, rfl, rfl⟩
    · split
      · exact ⟨rfl, rfl, rfl⟩
      · split
        · exact ⟨rfl, rfl, rfl⟩
        · exact hupdate buf plugin.priv

end

/-- **The pointer stays below the boundary.**  After every sequence of samples, prepares and resets of a PCM whose buffer
is a number of periods, whatever clocks were read with indices that are in the buffer, the base is a number of buffers
below the boundary, and the pointer is less than a buffer, and a number of periods, above it. -/
theorem hwPtr_inLap {plugin plugin' : PcmPlugin} (hm : plugin.priv.Mmapped) (hpos : 0 < plugin.priv.totalSizeFrames)
    (hperiod : plugin.priv.periodSize ∣ plugin.priv.totalSizeFrames)
    (hbits : plugin.priv.mediaConfig.frameBytes * 8 < 2 ^ 32) (h : Runs pcmCallExec IndexInBuffer plugin plugin') :
    let pos := plugin'.priv.posBuf
    pos.boundary = plugin.priv.posBuf.boundary ∧
      plugin.priv.totalSizeFrames ∣ pos.hwPtrBase ∧ pos.hwPtrBase < pos.boundary ∧
      pos.hwPtrBase ≤ pos.hwPtr ∧ plugin.priv.periodSize ∣ pos.hwPtr - pos.hwPtrBase ∧
      pos.hwPtr - pos.hwPtrBase < plugin.priv.totalSizeFrames ∧ pos.hwPtr < pos.boundary := by
  let I (s : PcmPlugin) : Prop := s.priv.InLap ∧ s.priv.periodSize = plugin.priv.periodSize ∧
    s.priv.totalSizeFrames = plugin.priv.totalSizeFrames ∧ s.priv.posBuf.boundary = plugin.priv.posBuf.boundary
  have key : I plugin' := by
    refine h.invariant (I := I) ⟨hm.inLap hpos hperiod hbits, rfl, rfl, rfl⟩ fun s c r t hs hc he => ?_
    obtain ⟨h₁, h₂, h₃⟩ := pcmCallExec_config he
    exact ⟨hs.1.call hc he, h₁.trans hs.2.1, h₂.trans hs.2.2.1, h₃.trans hs.2.2.2⟩
  obtain ⟨hlap, hsize, htotal, hboundary⟩ := key
  obtain ⟨n, hn, hlt⟩ := hlap.hwPtr
  obtain ⟨x, hx⟩ := hlap.base
  obtain ⟨y, hy⟩ := hlap.boundary
  have hoff : plugin'.priv.posBuf.hwPtr - plugin'.priv.posBuf.hwPtrBase = n * plugin'.priv.periodSize := by omega
  -- base and boundary are numbers of buffers, so there is a buffer between them
  have hroom : plugin'.priv.posBuf.hwPtrBase + plugin'.priv.totalSizeFrames ≤ plugin'.priv.posBuf.boundary := by
    have hbase := hlap.base_lt
    rw [hx, hy] at hbase ⊢
    rw [← Nat.mul_succ]
    exact Nat.mul_le_mul_left _ (Nat.lt_of_mul_lt_mul_left hbase)
  rw [← hsize, ← htotal]
  refine ⟨hboundary, hlap.base, hlap.base_lt, by omega, ?_, by omega, by omega⟩
  rw [hoff]
  exact Nat.dvd_mul_left _ _

/-- The shared buffer while the DSP is at an index of it and shows no clock. -/
def sharedAt (index : Nat) : SharedReads := fun _ =>
  { frameCounter := 1, readIndex := index, wallClockUsLsw := 0, wallClockUsMsw := 0 }

/-- Stereo in 16 bit, four periods of 480 frames: the index goes back, which makes a lap, and the stream is reset. -/
theorem hwPtr_inLap_reset :
    ∃ plugin plugin', Runs pcmCallExec IndexInBuffer plugin plugin' ∧ plugin'.priv.posBuf.hwPtr = 960 ∧
      plugin'.priv.posBuf.hwPtr < plugin'.priv.posBuf.boundary := by
  let pos : PosBufInfo := { boundary := boundaryLoop 1920 31 1920 }
  let p₀ : PcmPlugin := ⟨false, true, 1, true, 1, 7680, 0, ⟨⟨48000, 2, .pcmS16Le⟩, 480, 1920, pos⟩⟩
  let p₁ : PcmPlugin := { p₀ with priv := (agmPcmPluginUpdateHwPtr (sharedAt 5760) p₀.priv).2 }
  let p₂ : PcmPlugin := { p₁ with priv := (agmPcmPluginUpdateHwPtr (sharedAt 1920) p₁.priv).2 }
  let p₃ := (agmPcmPluginReset (sharedAt 4000) p₂).2
  have hbytes : p₀.priv.bufferBytes = 7680 ∧ p₁.priv.bufferBytes = 7680 ∧ p₂.priv.bufferBytes = 7680 := by
    decide +kernel
  have hindex {p : PcmPlugin} {index : Nat} (hp : p.priv.bufferBytes = 7680) (hi : index < 7680) (k : Nat) :
      (sharedAt index k).readIndex < p.priv.bufferBytes := by
    rw [hp]
    exact hi
  have h₀ : Runs pcmCallExec IndexInBuffer p₀ p₀ := Runs.refl _
  have h₁ : Runs pcmCallExec IndexInBuffer p₀ p₁ :=
    h₀.tail (o := .sample (sharedAt 5760)) (hindex hbytes.1 (by decide)) rfl
  have h₂ : Runs pcmCallExec IndexInBuffer p₀ p₂ :=
    h₁.tail (o := .sample (sharedAt 1920)) (hindex hbytes.2.1 (by decide)) rfl
  have h₃ : Runs pcmCallExec IndexInBuffer p₀ p₃ :=
    h₂.tail (o := .reset (sharedAt 4000)) (hindex hbytes.2.2 (by decide)) rfl
  have hv : Visits (boundaryTurn .lp64 1920) 1920 (boundaryLoop 1920 31 1920) :=
    visits_boundaryLoop (by decide) (by decide)
  have hended : boundaryTurn .lp64 1920 (boundaryLoop 1920 31 1920) = none :=
    boundaryLoop_last (by decide) (by decide)
  have hm : p₀.priv.Mmapped := ⟨by decide, hv, hended, rfl⟩
  have hlap := hwPtr_inLap hm (by decide) (by decide) (by decide) h₃
  exact ⟨p₀, p₃, h₃, by decide +kernel, hlap.2.2.2.2.2.2⟩

end Agm.Plugin
