import Mathlib.Data.UInt
import Agm.Service.ConfigBlobs

/-!
# Divisions by a media configuration

`device_open` derives the period of a PCM from the channels and the format of its device, and
`configure_pcm_encoder_params` the frame size of an encoder from those of its session.  Both divide by a product that is
computed in 32 bits from what a client has set, and the functions that set it check nothing.
-/

namespace Agm.Service

open Agm.Lib

/-! ## What clients set -/

/-- `enum agm_media_format`, in the order of its values. -/
def mediaFormats : List MediaFormat :=
  [.invalid, .pcmS8, .pcmS16Le, .pcmS24Le, .pcmS24_3Le, .pcmS32Le, .mp3, .aac, .flac, .alac, .ape, .wmastd, .wmapro,
    .vorbis, .amrNb, .amrWb, .amrWbPlus, .evrc, .g711, .qcelp]

/-- `struct agm_media_config`, as a client fills it in. -/
structure ClientMedia where
  rate : UInt32
  channels : UInt32
  format : UInt32
  dataFormat : UInt32
  deriving DecidableEq, Repr

/-- The configuration that is kept.  A format that the enumeration does not have is treated like the invalid one. -/
def ClientMedia.media (m : ClientMedia) : MediaConfig :=
  { rate := m.rate, channels := m.channels, format := mediaFormats.getD m.format.toNat .invalid,
    dataFormat := m.dataFormat.toNat }

/-- The configurations of a device, of its group, with `has_multiple_dai_link`, and of a session. -/
structure MediaState where
  media : MediaConfig := {}
  group : Option (Bool × MediaConfig) := none
  stream : Stream := {}
  inBufferSize : Nat := 0

/-- `device_set_media_config`. -/
def MediaState.deviceSetMediaConfig (m : ClientMedia) (s : MediaState) : Int × MediaState :=
  (0, { s with media := m.media })

/-- `device_group_set_media_config`. -/
def MediaState.deviceGroupSetMediaConfig (m : ClientMedia) (s : MediaState) : Int × MediaState :=
  match s.group with
  | none => (-EINVAL, s)
  | some (multiple, _) => (0, { s with group := some (multiple, m.media) })

/-- `session_obj_set_config`; for playback that runs, `datapath` is what `graph_set_media_config_datapath` returned. -/
def MediaState.sessionObjSetConfig (datapath : Option Int) (dir : Nat) (mode : SessMode) (m : ClientMedia) (size : Nat)
    (s : MediaState) : Int × MediaState :=
  let stream := { s.stream with dir := dir, sessMode := mode }
  if dir = TX then (0, { s with stream := { stream with inMedia := m.media }, inBufferSize := size })
  else (datapath.getD 0, { s with stream := { stream with outMedia := m.media } })

/-! ## The period of a PCM -/

def MAX_PERIOD_BUFFER : Nat := 8192
def DEFAULT_PERIOD_COUNT : Nat := 2
def AGM_DEFAULT_PCM_RATE : UInt32 := 48000

/-- `get_pcm_bits_per_sample`. -/
def getPcmBitsPerSample : MediaFormat → Nat
  | .pcmS8 => 8
  | .pcmS24Le | .pcmS32Le => 32
  | .pcmS24_3Le => 24
  | _ => 16

/-- `agm_to_pcm_format`. -/
def agmToPcmFormat : MediaFormat → MediaFormat
  | .pcmS32Le => .pcmS32Le
  | .pcmS8 => .pcmS8
  | .pcmS24_3Le => .pcmS24_3Le
  | .pcmS24Le => .pcmS24Le
  | _ => .pcmS16Le

/-- `device_pcm_is_rate_supported`; `AGM_PCM_RATE_22050` is 2205. -/
def devicePcmIsRateSupported (rate : UInt32) : Bool :=
  rate ∈ [5512, 8000, 11025, 16000, 2205, 32000, 44100, 48000, 64000, 88200, 96000, 176400, 192000, 352800, 384000]

/-- `struct pcm_config`, the fields `device_open` fills in. -/
structure PcmConfig where
  channels : UInt32
  rate : UInt32
  format : MediaFormat
  periodSize : Nat
  periodCount : Nat
  startThreshold : Nat
  stopThreshold : Nat
  deriving DecidableEq, Repr

/-- The media configuration `device_open` goes by. -/
def MediaState.openMedia (s : MediaState) : MediaConfig :=
  match s.group with
  | some (false, m) => m
  | _ => s.media

/-- The bytes of a frame. -/
def MediaConfig.frameBytes (m : MediaConfig) : Nat := m.channels.toNat * (getPcmBitsPerSample m.format / 8)

/-- The configuration with which `device_open` opens a PCM that is not open; a division by zero brings down the process.
The variant for ALSA's library passes the rate on as it is. -/
def MediaState.deviceOpenConfig (s : MediaState) : Option PcmConfig :=
  let media := s.openMedia
  let rate := if devicePcmIsRateSupported media.rate then media.rate else AGM_DEFAULT_PCM_RATE
  let divisor := media.frameBytes % 2 ^ 32
  if divisor = 0 then none
  else
    let periodSize := MAX_PERIOD_BUFFER / divisor
    some { channels := media.channels, rate := rate, format := agmToPcmFormat media.format, periodSize := periodSize,
           periodCount := DEFAULT_PERIOD_COUNT, startThreshold := periodSize / 4, stopThreshold := 2 ^ 31 - 1 }

/-- The product does not wrap, nothing is divided by zero, and the period has a frame at least and `MAX_PERIOD_BUFFER`
bytes at most. -/
structure MediaState.OpensRight (s : MediaState) : Prop where
  product : s.openMedia.frameBytes < 2 ^ 32
  period : ∃ c, s.deviceOpenConfig = some c ∧ 1 ≤ c.periodSize ∧
    c.periodSize * s.openMedia.frameBytes ≤ MAX_PERIOD_BUFFER

/-- **When a period fits.**  There are channels, and a frame of them is no larger than the period. -/
def MediaConfig.PeriodFits (m : MediaConfig) : Prop := 0 < m.frameBytes ∧ m.frameBytes ≤ MAX_PERIOD_BUFFER

theorem MediaState.opensRight_iff_periodFits (s : MediaState) : s.OpensRight ↔ s.openMedia.PeriodFits := by
  constructor
  · rintro ⟨hlt, c, hc, hone, -⟩
    rw [deviceOpenConfig, Nat.mod_eq_of_lt hlt] at hc
    split at hc
    · cases hc
    · next hne =>
      obtain rfl := Option.some.inj hc
      have hpos := Nat.pos_of_ne_zero hne
      have hle := (Nat.le_div_iff_mul_le hpos).1 hone
      rw [Nat.one_mul] at hle
      exact ⟨hpos, hle⟩
  · rintro ⟨hpos, hle⟩
    have hlt : s.openMedia.frameBytes < 2 ^ 32 := Nat.lt_of_le_of_lt hle (by decide)
    refine ⟨hlt, ?_⟩
    rw [deviceOpenConfig, Nat.mod_eq_of_lt hlt]
    refine ⟨_, if_neg (Nat.pos_iff_ne_zero.1 hpos), ?_, Nat.div_mul_le_self _ _⟩
    exact (Nat.le_div_iff_mul_le hpos).2 (by omega)

/-! ## The frame size of an encoder -/

/-- The channels that are counted with. -/
def MediaConfig.pcmChannels (m : MediaConfig) : Nat := if m.channels = 0 then 1 else m.channels.toNat

/-- The bits per sample that are counted with. -/
def MediaConfig.pcmBits (m : MediaConfig) : Nat := getBitsPerSample m.format (getPcmBitWidth m.format)

/-- The frame size `configure_pcm_encoder_params` sends, if it does; a division by zero brings down the process.  The
product with the size is one of `size_t`, and the quotient is cut to 32 bits. -/
def encoderFrameSize (t : Target) (m : MediaConfig) (size : Nat) : Option (Option Nat) :=
  let divisor := m.pcmChannels * m.pcmBits % 2 ^ 32
  if divisor = 0 then none
  else
    let frameSize := size * 8 % t.sizeMod / divisor % 2 ^ 32
    if m.rate.toNat / 1000 ≠ 0 ∧ frameSize * 1000 % 2 ^ 32 % m.rate.toNat ≠ 0 then some (some frameSize) else some none

/-- `configure_pcm_encoder_params`. -/
def configurePcmEncoderParams (spf : Spf) (t : Target) (s : MediaState) (mod : ModuleInfo) : Prog Link Int := do
  let ret ← configureOutputMediaFormat spf t s.stream mod
  if ret ≠ 0 then pure ret
  else if s.stream.sessMode = .nonTunnel then pure ret
  else match encoderFrameSize t s.stream.inMedia s.inBufferSize with
    | none => crash
    | some none => pure ret
    | some (some frameSize) => configurePcmEncoderFrameSize spf t mod frameSize

/-- Once the output format is configured, a session that is not a non-tunnel one goes by the frame size. -/
theorem configurePcmEncoderParams_run (spf : Spf) (t : Target) (s : MediaState) (mod : ModuleInfo) {l l' : Link}
    (hmode : s.stream.sessMode ≠ .nonTunnel) (h : configureOutputMediaFormat spf t s.stream mod l = some (0, l')) :
    configurePcmEncoderParams spf t s mod l =
      match encoderFrameSize t s.stream.inMedia s.inBufferSize with
      | none => none
      | some none => some (0, l')
      | some (some frameSize) => configurePcmEncoderFrameSize spf t mod frameSize l' := by
  have hbind : configurePcmEncoderParams spf t s mod l = (configureOutputMediaFormat spf t s.stream mod l).bind
      fun p => (if p.1 ≠ 0 then pure p.1 else if s.stream.sessMode = .nonTunnel then pure p.1
        else match encoderFrameSize t s.stream.inMedia s.inBufferSize with
          | none => crash
          | some none => pure p.1
          | some (some frameSize) => configurePcmEncoderFrameSize spf t mod frameSize : Prog Link Int) p.2 := rfl
  rw [hbind, h, Option.bind_some, if_neg (fun hne => hne rfl), if_neg hmode]
  cases encoderFrameSize t s.stream.inMedia s.inBufferSize with
  | none => rfl
  | some r => cases r <;> rfl

/-- The frames a buffer holds. -/
def MediaConfig.frames (m : MediaConfig) (size : Nat) : Nat := size * 8 / (m.pcmChannels * m.pcmBits)

/-- No product wraps, nothing is divided by zero, and the frame size is sent when the buffer does not hold a whole number
of milliseconds, at a rate of 1000 Hz at least. -/
structure EncoderRight (t : Target) (m : MediaConfig) (size : Nat) : Prop where
  bits : m.pcmChannels * m.pcmBits < 2 ^ 32
  bytes : size * 8 < t.sizeMod
  frames : 1000 ≤ m.rate.toNat → m.frames size % 2 ^ 32 * 1000 < 2 ^ 32
  sends : ∃ r, encoderFrameSize t m size = some r ∧
    (r.isSome = true ↔ 1000 ≤ m.rate.toNat ∧ m.frames size * 1000 % m.rate.toNat ≠ 0)

/-- **When a frame size fits.**  The bits of a frame fit 32 bits, and those of a buffer `size_t`; and at 1000 Hz or more a
thousand times the frames fit 32 bits, or, of `2 ^ 32` frames and more, a thousand times what is left of them, which is a
whole number of milliseconds where the frames are. -/
structure FrameSizeFits (t : Target) (m : MediaConfig) (size : Nat) : Prop where
  bits : m.pcmChannels * m.pcmBits < 2 ^ 32
  bytes : size * 8 < t.sizeMod
  frames : 1000 ≤ m.rate.toNat → m.frames size % 2 ^ 32 * 1000 < 2 ^ 32
  rest : 1000 ≤ m.rate.toNat → 2 ^ 32 ≤ m.frames size →
    (m.frames size % 2 ^ 32 * 1000 % m.rate.toNat = 0 ↔ m.frames size * 1000 % m.rate.toNat = 0)

section

variable {t : Target} {m : MediaConfig} {size : Nat}

theorem divisor_pos (m : MediaConfig) : 0 < m.pcmChannels * m.pcmBits := by
  refine Nat.mul_pos ?_ ?_
  · unfold MediaConfig.pcmChannels
    split
    · exact Nat.one_pos
    · next hne => exact Nat.pos_of_ne_zero fun h => hne (UInt32.toNat_inj.1 h)
  · unfold MediaConfig.pcmBits
    cases m.format <;> decide

/-- What is sent, where the products with the size and the channels do not wrap. -/
theorem encoderFrameSize_eq (hbits : m.pcmChannels * m.pcmBits < 2 ^ 32) (hbytes : size * 8 < t.sizeMod) :
    encoderFrameSize t m size =
      if m.rate.toNat / 1000 ≠ 0 ∧ m.frames size % 2 ^ 32 * 1000 % 2 ^ 32 % m.rate.toNat ≠ 0 then
        some (some (m.frames size % 2 ^ 32)) else some none := by
  have hpos := divisor_pos m
  rw [encoderFrameSize, Nat.mod_eq_of_lt hbits, Nat.mod_eq_of_lt hbytes]
  exact if_neg (Nat.pos_iff_ne_zero.1 hpos)

theorem encoderRight_iff (t : Target) (m : MediaConfig) (size : Nat) :
    EncoderRight t m size ↔ FrameSizeFits t m size := by
  -- at 1000 Hz or more, whether the frame size is sent is read off what is left of the frames
  have hsent (hbits : m.pcmChannels * m.pcmBits < 2 ^ 32) (hbytes : size * 8 < t.sizeMod)
      (hframes : 1000 ≤ m.rate.toNat → m.frames size % 2 ^ 32 * 1000 < 2 ^ 32) :
      ∃ r, encoderFrameSize t m size = some r ∧
        (r.isSome = true ↔ 1000 ≤ m.rate.toNat ∧ m.frames size % 2 ^ 32 * 1000 % m.rate.toNat ≠ 0) := by
    rw [encoderFrameSize_eq hbits hbytes]
    have hrate : m.rate.toNat / 1000 ≠ 0 ↔ 1000 ≤ m.rate.toNat := by omega
    by_cases hr : 1000 ≤ m.rate.toNat
    · rw [Nat.mod_eq_of_lt (hframes hr)]
      split
      · next h => exact ⟨_, rfl, iff_of_true rfl ⟨hr, h.2⟩⟩
      · next h => exact ⟨_, rfl, iff_of_false (by decide) fun h' => h ⟨hrate.2 hr, h'.2⟩⟩
    · rw [if_neg (fun h => hr (hrate.1 h.1))]
      exact ⟨none, rfl, iff_of_false (by decide) fun h => hr h.1⟩
  constructor
  · rintro ⟨hbits, hbytes, hframes, r, hr, hiff⟩
    obtain ⟨r', hr', hiff'⟩ := hsent hbits hbytes hframes
    obtain rfl : r = r' := Option.some.inj (hr.symm.trans hr')
    refine ⟨hbits, hbytes, hframes, fun hrate _ => ?_⟩
    have := hiff'.symm.trans hiff
    simp only [hrate, true_and] at this
    exact not_iff_not.1 this
  · rintro ⟨hbits, hbytes, hframes, hrest⟩
    obtain ⟨r, hr, hiff⟩ := hsent hbits hbytes hframes
    refine ⟨hbits, hbytes, hframes, r, hr, hiff.trans (and_congr_right fun hrate => ?_)⟩
    by_cases hlt : m.frames size < 2 ^ 32
    · rw [Nat.mod_eq_of_lt hlt]
    · exact not_iff_not.2 (hrest hrate (Nat.not_lt.1 hlt))

end

/-! ## Whatever is set -/

/-- What is asked of the numbers of a session; those of a non-tunnel session are not computed. -/
def MediaState.SizesRight (t : Target) (s : MediaState) : Prop :=
  s.stream.sessMode ≠ .nonTunnel → EncoderRight t s.stream.inMedia s.inBufferSize

/-- **The divisions by a media configuration.**  Whatever is set for a device, its group and a session, a PCM is opened
with a period that is right exactly when there are channels and a frame of them fits in the period, and the frame size of
an encoder is right exactly when the products that it is computed from fit. -/
theorem mediaNumbers_iff (t : Target) (s : MediaState) (m : ClientMedia) (datapath : Option Int) (dir : Nat)
    (mode : SessMode) (size : Nat) :
    ((s.deviceSetMediaConfig m).2.OpensRight ↔ (s.deviceSetMediaConfig m).2.openMedia.PeriodFits) ∧
    ((s.deviceGroupSetMediaConfig m).2.OpensRight ↔ (s.deviceGroupSetMediaConfig m).2.openMedia.PeriodFits) ∧
    ((s.sessionObjSetConfig datapath dir mode m size).2.SizesRight t ↔
      (mode ≠ .nonTunnel → FrameSizeFits t (s.sessionObjSetConfig datapath dir mode m size).2.stream.inMedia
        (s.sessionObjSetConfig datapath dir mode m size).2.inBufferSize)) := by
  refine ⟨MediaState.opensRight_iff_periodFits _, MediaState.opensRight_iff_periodFits _, ?_⟩
  have hmode : (s.sessionObjSetConfig datapath dir mode m size).2.stream.sessMode = mode := by
    unfold MediaState.sessionObjSetConfig
    dsimp only
    split <;> rfl
  rw [MediaState.SizesRight, hmode]
  exact imp_congr_right fun _ => encoderRight_iff _ _ _

/-- A device without channels: the division by zero.  With 2049 channels of four bytes the period has no frame; with
`2 ^ 30 + 1` the product is 4.  An encoder with `2 ^ 27` channels of 32 bits divides by zero too. -/
theorem mediaNumbers_unchecked :
    (let s : MediaState := ({} : MediaState).deviceSetMediaConfig ⟨48000, 0, 2, 1⟩ |>.2
     s.deviceOpenConfig = none ∧ ¬ s.OpensRight) ∧
    (let s : MediaState := ({} : MediaState).deviceSetMediaConfig ⟨48000, 2049, 5, 1⟩ |>.2
     s.deviceOpenConfig.map PcmConfig.periodSize = some 0 ∧ ¬ s.OpensRight) ∧
    (let s : MediaState := ({} : MediaState).deviceSetMediaConfig ⟨48000, 2 ^ 30 + 1, 5, 1⟩ |>.2
     s.deviceOpenConfig.map PcmConfig.periodSize = some 2048 ∧ ¬ s.OpensRight) ∧
    (let s : MediaState := (({} : MediaState).sessionObjSetConfig none TX .default ⟨48000, 2 ^ 27, 5, 1⟩ 3840).2
     encoderFrameSize {} s.stream.inMedia s.inBufferSize = none ∧ ¬ s.SizesRight {}) := by
  refine ⟨⟨by decide, fun h => ?_⟩, ⟨by decide, fun h => ?_⟩, ⟨by decide, fun h => ?_⟩, by decide, fun h => ?_⟩
  · exact absurd (MediaState.opensRight_iff_periodFits _ |>.1 h).1 (by decide)
  · exact absurd (MediaState.opensRight_iff_periodFits _ |>.1 h).2 (by decide)
  · exact absurd (MediaState.opensRight_iff_periodFits _ |>.1 h).2 (by decide)
  · exact absurd (h (by decide)).bits (by decide)

end Agm.Service
