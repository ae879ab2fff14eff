import Agm.Lib.Bytes
import Agm.Service.Graph
import Agm.Service.MetadataCopy

/-!
# Parameter blobs

The functions of `graph_module.c` and `graph.c` that build a blob and send it with `gsl_set_custom_config`.  A blob is
one `apm_module_param_data_t` header (instance id, parameter id, parameter size and error code, a word each) and the
structures of the parameter behind it; allocation size and parameter size are computed apart from each other.

The structures and the constants in them belong to the headers of the signal processing framework: `Spf` stands for
what these headers fix.  The functions for I2S, TDM and auxiliary PCM end points are left out: the header in their
blobs is filled in by `gsl_get_tagged_data`.
-/

namespace Agm.Service

open Agm.Lib

/-! ## What the headers fix -/

/-- The structures that are written behind a parameter header. -/
inductive SpfStruct
  | mediaFormat | pcmOutputFormatCfg | mediaFmtPcm | mediaFmtAac | mediaFmtFlac | mediaFmtAlac | mediaFmtApe
  | mediaFmtWmastd | mediaFmtWmapro | pcmEncoderFrameSize | encoderOutputConfig | aacEncCfg | encBitrateParam
  | rdShMemCfg | sprDelayPathEnd | hwEpMf | codecDmaIntfCfg | slimbusCfg | removeInitialSilence
  deriving DecidableEq, Repr

/-- The parameters. -/
inductive ParamId
  | pcmOutputFormatCfg | pcmEncoderFrameSize | encoderOutputConfig | encBitrate | mediaFormat | rdShMemCfg
  | sprDelayPathEnd | hwEpMfCfg | codecDmaIntfCfg | slimbusConfig | softPauseStart | softPauseResume
  | removeInitialSilence | removeTrailingSilence
  deriving DecidableEq, Repr

/-- `PCM_CHANNEL_L` and so on. -/
inductive PcmChannel
  | l | r | c | lfe | lb | rb | cs | ls | rs
  deriving DecidableEq, Repr

/-- A structure that is filled in field by field, with what the fields are given. -/
inductive SpfData
  | mediaFormat (dataFormat fmtId payloadSize : Nat)
  | pcmOutputFormatCfg (endianness bitWidth alignment : Nat) (numChannels : Int)
      (bitsPerSample qFactor interleaved : Nat)
  | mediaFmtPcm (endianness bitWidth sampleRate alignment : Nat) (numChannels : Int) (bitsPerSample qFactor : Nat)
  | pcmEncoderFrameSize (frameSizeType frameSizeInSamples : Nat)
  | encoderOutputConfig (dataFormat fmtId payloadSize : Nat)
  | encBitrateParam (bitrate : Nat)
  | rdShMemCfg (metadataControlFlags numFramesPerBuffer : Nat)
  | sprDelayPathEnd (moduleInstanceId : Nat)
  | hwEpMf (sampleRate bitWidth numChannels dataFormat : Nat)
  | codecDmaIntfCfg (lpaifType intfIndx activeChannelsMask : Nat)
  | slimbusCfg (slimbusDevId : Nat) (sharedChannelMapping : List Nat)
  | removeInitialSilence (samplesPerChToRemove : Nat)
  deriving DecidableEq, Repr

def SpfData.struct : SpfData → SpfStruct
  | .mediaFormat .. => .mediaFormat
  | .pcmOutputFormatCfg .. => .pcmOutputFormatCfg
  | .mediaFmtPcm .. => .mediaFmtPcm
  | .pcmEncoderFrameSize .. => .pcmEncoderFrameSize
  | .encoderOutputConfig .. => .encoderOutputConfig
  | .encBitrateParam .. => .encBitrateParam
  | .rdShMemCfg .. => .rdShMemCfg
  | .sprDelayPathEnd .. => .sprDelayPathEnd
  | .hwEpMf .. => .hwEpMf
  | .codecDmaIntfCfg .. => .codecDmaIntfCfg
  | .slimbusCfg .. => .slimbusCfg
  | .removeInitialSilence .. => .removeInitialSilence

/-- The sizes and layouts of the structures, and the constants.  No structure is empty or reaches 64 KiB. -/
structure Spf where
  size : SpfStruct → Nat
  layout : SpfData → List UInt8
  paramId : ParamId → Nat
  /-- `MEDIA_FMT_ID_PCM` and so on -/
  mediaFmtId : MediaFormat → Nat
  /-- `MEDIA_FMT_AAC`, a value of the key `MEDIA_FMT_ID` -/
  mediaFmtAac : Nat
  channel : PcmChannel → UInt8
  pcmLittleEndian : Nat
  pcmLsbAligned : Nat
  pcmInterleaved : Nat
  pcmDeinterleavedUnpacked : Nat
  sbMaxChanCnt : Nat
  size_pos (s : SpfStruct) : 0 < size s
  size_lt (s : SpfStruct) : size s < 2 ^ 16
  length_layout (d : SpfData) : (layout d).length = size d.struct

def AGM_DATA_FORMAT_FIXED_POINT : Nat := 1
def AGM_DATA_FORMAT_RAW_COMPRESSED : Nat := 6
def AGM_SESSION_FLAG_INBAND_SRCM : Nat := 1
def PARAM_VAL_NATIVE : Int := -1

/-! ## What the functions read -/

/-- `struct agm_media_config`. -/
structure MediaConfig where
  rate : UInt32 := 0
  channels : UInt32 := 0
  format : MediaFormat := .invalid
  dataFormat : Nat := 0
  deriving DecidableEq, Repr

/-- What a session says about its stream. -/
structure Stream where
  dir : Nat := 0
  sessMode : SessMode := .default
  sessFlags : Nat := 0
  /-- `union agm_session_codec` -/
  codec : Mem := fun _ => 0
  inMedia : MediaConfig := {}
  outMedia : MediaConfig := {}

/-- What a device says about its end point; the channel map comes with the return code of
`device_get_channel_map`. -/
structure EndPoint where
  media : MediaConfig := {}
  groupMedia : Option MediaConfig := none
  lpaifType : Nat := 0
  intfIdx : Nat := 0
  slimDevId : Nat := 0
  channelMap : Int × Option (List Nat) := (0, none)

/-- `(dev_obj->group_data) ? dev_obj->group_data->media_config.config : dev_obj->media_config`. -/
def EndPoint.mediaConfig (ep : EndPoint) : MediaConfig := ep.groupMedia.getD ep.media

/-- `is_format_pcm`. -/
def isFormatPcm (f : MediaFormat) : Bool :=
  f ∈ [MediaFormat.pcmS8, .pcmS16Le, .pcmS24Le, .pcmS24_3Le, .pcmS32Le]

/-- `is_format_bypassed`. -/
def isFormatBypassed (f : MediaFormat) : Bool := f = .vorbis

/-- `get_pcm_bit_width`. -/
def getPcmBitWidth : MediaFormat → Nat
  | .pcmS24_3Le | .pcmS24Le => 24
  | .pcmS32Le => 32
  | _ => 16

/-- `GET_BITS_PER_SAMPLE`. -/
def getBitsPerSample (f : MediaFormat) (bitWidth : Nat) : Nat := if f = .pcmS24Le then 32 else bitWidth

/-- `get_media_bit_width`.  The decoder settings overlay each other in the union. -/
def getMediaBitWidth (s : Stream) (m : MediaConfig) : Nat :=
  if isFormatPcm m.format then getPcmBitWidth m.format
  else match m.format with
    | .flac => s.codec.half 2
    | .alac => (s.codec 5).toNat
    | .ape => s.codec.half 20
    | .wmastd | .wmapro => s.codec.half 14
    | _ => 16

/-! ## Blobs -/

/-- A blob: the parameter it is for, its `payload_size`, its bytes, and where the structures behind the header were
written. -/
structure Blob where
  param : ParamId
  size : Nat
  mem : Mem
  fields : List Stretch

/-- Pieces one behind the other, from `a` on. -/
def laid : Nat → List (List UInt8) → List (Nat × List UInt8)
  | _, [] => []
  | a, p :: ps => (a, p) :: laid (a + p.length) ps

/-- The header, in zeroed memory. -/
def headerBytes (miid pid paramSize : Nat) : List UInt8 := le32 miid ++ le32 pid ++ le32 paramSize ++ le32 0

/-- A header with `pieces` behind it. -/
def blobOf (spf : Spf) (param : ParamId) (miid size paramSize : Nat) (pieces : List (List UInt8)) : Blob where
  param := param
  size := size
  mem := (laid 16 pieces).foldl (fun m f => m.store f.1 f.2)
    (Mem.store (fun _ => 0) 0 (headerBytes miid (spf.paramId param) paramSize))
  fields := (laid 16 pieces).map fun f => (f.1, f.2.length)

/-- The walk over a blob, as `graph.c` does it over the parameters it tunnels: from a header on to the next one while
the size is not used up.  The result is the place and size of every parameter, and where the walk ends. -/
def walk (m : Mem) (size : Nat) : Nat → Nat → List Stretch × Nat
  | 0, off => ([], off)
  | fuel + 1, off =>
    if off < size then
      let paramSize := m.word (off + 8)
      let rest := walk m size fuel (off + pad8 (16 + paramSize))
      ((off, paramSize) :: rest.1, rest.2)
    else ([], off)

/-- The walk uses up the size exactly and finds one parameter, which covers what was written. -/
def Blob.WellFormed (b : Blob) : Prop :=
  ∃ paramSize, walk b.mem b.size b.size 0 = ([(0, paramSize)], b.size) ∧
    ∀ f ∈ b.fields, Stretch.Below (16 + paramSize) f

theorem walk_one_iff (m : Mem) {size : Nat} (hsize : 1 < size) (paramSize : Nat) :
    walk m size size 0 = ([(0, paramSize)], size) ↔ paramSize = m.word 8 ∧ pad8 (16 + m.word 8) = size := by
  obtain ⟨fuel, rfl⟩ : ∃ fuel, size = fuel + 2 := ⟨size - 2, by omega⟩
  set step := pad8 (16 + m.word 8) with hstep
  have hfirst : walk m (fuel + 2) (fuel + 2) 0 =
      ((0, m.word 8) :: (walk m (fuel + 2) (fuel + 1) step).1, (walk m (fuel + 2) (fuel + 1) step).2) := by
    conv_lhs => unfold walk
    rw [if_pos (by omega)]
    simp [hstep]
  rw [hfirst]
  by_cases hlt : step < fuel + 2
  · -- a second parameter follows
    have hne : (walk m (fuel + 2) (fuel + 1) step).1 ≠ [] := by
      unfold walk
      rw [if_pos hlt]
      simp
    simp only [Prod.mk.injEq, List.cons.injEq, hne, and_false, false_and, false_iff, not_and]
    omega
  · have hlast : walk m (fuel + 2) (fuel + 1) step = ([], step) := by
      unfold walk
      rw [if_neg hlt]
    simp [hlast, eq_comm]

theorem not_wellFormed_of_size_zero {b : Blob} (h : b.size = 0) : ¬ b.WellFormed := by
  rintro ⟨ps, hwalk, -⟩
  rw [h] at hwalk
  simp [walk] at hwalk

/-- The fields behind a header leave it as it is. -/
theorem word_foldl_store (fs : List (Nat × List UInt8)) :
    ∀ m : Mem, (∀ f ∈ fs, 12 ≤ f.1) → (fs.foldl (fun m f => m.store f.1 f.2) m).word 8 = m.word 8 := by
  induction fs with
  | nil => exact fun _ _ => rfl
  | cons f fs ih =>
    intro m h
    rw [List.forall_mem_cons] at h
    rw [List.foldl_cons, ih _ h.2, Mem.word_store_of_le _ _ (by omega)]

theorem le_of_mem_laid (ps : List (List UInt8)) : ∀ a, ∀ f ∈ laid a ps, a ≤ f.1 := by
  induction ps with
  | nil =>
    intro a f hf
    cases hf
  | cons p ps ih =>
    intro a f hf
    rcases List.mem_cons.1 hf with rfl | hf
    · exact le_rfl
    · have := ih _ f hf
      omega

theorem blobOf_paramSize (spf : Spf) (param : ParamId) (miid size paramSize : Nat) (ps : List (List UInt8)) :
    (blobOf spf param miid size paramSize ps).mem.word 8 = paramSize % 2 ^ 32 := by
  have hheader := Mem.word_store_le32 (fun _ => 0) 0 paramSize (le32 miid ++ le32 (spf.paramId param)) (le32 0)
  show (List.foldl _ _ _ : Mem).word 8 = _
  rw [word_foldl_store]
  · simpa [headerBytes] using hheader
  · intro f hf
    have := le_of_mem_laid ps 16 f hf
    omega

/-- What lies one behind the other is covered by what reaches the end of all of it. -/
theorem below_laid {bound : Nat} (ps : List (List UInt8)) :
    ∀ a, a + ps.flatten.length ≤ bound → ∀ f ∈ laid a ps, Stretch.Below bound (f.1, f.2.length) := by
  induction ps with
  | nil =>
    intro a _ f hf
    cases hf
  | cons p ps ih =>
    intro a h f hf
    rw [List.flatten_cons, List.length_append] at h
    rcases List.mem_cons.1 hf with rfl | hf
    · exact .inr (show a + p.length ≤ bound by omega)
    · exact ih _ (by omega) f hf

/-- **When a blob is well formed**, in terms of the sizes its encoder has put into it. -/
theorem wellFormed_blobOf_iff (spf : Spf) (param : ParamId) (miid paramSize : Nat) {size : Nat}
    (ps : List (List UInt8)) (hsize : size ≠ 1) :
    (blobOf spf param miid size paramSize ps).WellFormed ↔
      pad8 (16 + paramSize % 2 ^ 32) = size ∧
        ∀ f ∈ laid 16 ps, Stretch.Below (16 + paramSize % 2 ^ 32) (f.1, f.2.length) := by
  rcases Nat.eq_zero_or_pos size with h0 | hpos
  · have hpad := le_pad8 (16 + paramSize % 2 ^ 32)
    refine iff_of_false (not_wellFormed_of_size_zero h0) ?_
    rintro ⟨h, -⟩
    omega
  · unfold Blob.WellFormed
    have hwalk := walk_one_iff (blobOf spf param miid size paramSize ps).mem (show 1 < size by omega)
    have hsz : (blobOf spf param miid size paramSize ps).size = size := rfl
    have hfields : (blobOf spf param miid size paramSize ps).fields =
        (laid 16 ps).map fun f => (f.1, f.2.length) := rfl
    rw [blobOf_paramSize] at hwalk
    simp only [hsz, hwalk, hfields, List.forall_mem_map]
    constructor
    · rintro ⟨_, ⟨rfl, hpad⟩, hbelow⟩
      exact ⟨hpad, hbelow⟩
    · rintro ⟨hpad, hbelow⟩
      exact ⟨_, ⟨rfl, hpad⟩, hbelow⟩

/-! ## Sizes -/

/-- `ALIGN_PAYLOAD(x, 8)`, in `size_t`. -/
def Target.align8 (t : Target) (x : Nat) : Nat := (x + 7) % t.sizeMod / 8 * 8

/-- `sizeof(uint8_t)*num_channels`: the channel count has passed through an `int`. -/
def Target.channelBytes (t : Target) (channels : UInt32) : Nat :=
  if channels.toNat < 2 ^ 31 then channels.toNat else t.sizeMod - (2 ^ 32 - channels.toNat)

/-- The largest object there is. -/
def Target.ptrdiffMax (t : Target) : Nat := t.sizeMod / 2 - 1

/-- `get_default_channel_map`. -/
def getDefaultChannelMap (spf : Spf) (channels : UInt32) : List UInt8 :=
  let map : List PcmChannel := match channels.toNat with
    | 1 => [.c]
    | 2 => [.l, .r]
    | 3 => [.l, .r, .c]
    | 4 => [.l, .r, .lb, .rb]
    | 5 => [.l, .r, .c, .lb, .rb]
    | 6 => [.l, .r, .c, .lfe, .lb, .rb]
    | 7 => [.l, .r, .c, .lfe, .lb, .rb, .cs]
    | 8 => [.l, .r, .c, .lfe, .lb, .rb, .ls, .rs]
    | _ => []
  map.map spf.channel

/-- `int num_channels`. -/
def numChannels (channels : UInt32) : Int :=
  if channels.toNat < 2 ^ 31 then channels.toNat else (channels.toNat : Int) - 2 ^ 32

theorem length_getDefaultChannelMap (spf : Spf) (channels : UInt32) :
    (getDefaultChannelMap spf channels).length ≤ channels.toNat := by
  unfold getDefaultChannelMap
  rw [List.length_map]
  split <;> simp_all

/-! ## Sending -/

/-- The world the functions send into: whether the next allocations are granted, what the next calls answer, and what
was sent, newest first. -/
structure Link where
  grants : List Bool := []
  answers : List Int := []
  sent : List Blob := []

/-- `calloc(1, size)`. -/
def callocBlob (t : Target) (size : Nat) : Prog Link Bool := do
  let l ← get
  modify fun l => { l with grants := l.grants.tail }
  pure (l.grants.headD true && decide (size ≤ t.ptrdiffMax))

/-- Fill in and send a blob, once there is room for it. -/
def withBlob (t : Target) (size : Nat) (send : Prog Link Int) : Prog Link Int := do
  let payload ← callocBlob t size
  if payload then send else pure (-ENOMEM)

/-- `gsl_set_custom_config`. -/
def gslSetCustomConfig (b : Blob) : Prog Link Int := do
  let l ← get
  modify fun l => { l with answers := l.answers.tail, sent := b :: l.sent }
  pure (l.answers.headD 0)

/-- Send a blob, and turn the code into a Linux one. -/
def sendBlob (b : Blob) : Prog Link Int := do
  let ret ← gslSetCustomConfig b
  pure (arErrGetLnxErrCode ret)

section

variable (spf : Spf) (t : Target) (s : Stream)

/-- The media format `configure_output_media_format` goes by. -/
def Stream.outputMedia : MediaConfig :=
  if s.dir = TX ∨ (s.sessMode = .nonTunnel ∧ isFormatPcm s.inMedia.format) then s.inMedia else s.outMedia

/-- Bits per sample, Q factor and channel count, if the bit width is one the modules know. -/
def Stream.outputWidths (mod : ModuleInfo) : Option (Nat × Nat × Int) :=
  let media := s.outputMedia
  let bitWidth := getMediaBitWidth s media
  if (s.dir = TX ∨ (s.sessMode = .nonTunnel ∧ mod.tag = .streamPcmConverter)) ∧ isFormatPcm media.format then
    some (getBitsPerSample media.format bitWidth, bitWidth - 1,
      if s.sessMode = .nonTunnel then PARAM_VAL_NATIVE else numChannels media.channels)
  else if bitWidth = 16 ∨ bitWidth = 32 then some (bitWidth, bitWidth - 1, numChannels media.channels)
  else if bitWidth = 24 then some (32, 27, numChannels media.channels)
  else none

/-- `configure_output_media_format`. -/
def configureOutputMediaFormat (mod : ModuleInfo) : Prog Link Int :=
  let media := s.outputMedia
  let n := t.channelBytes media.channels
  let size := t.align8 (16 + spf.size .mediaFormat + spf.size .pcmOutputFormatCfg + n)
  withBlob t size <|
    match s.outputWidths mod with
    | none => pure (-EINVAL)
    | some (bitsPerSample, qFactor, channels) =>
      let interleaved := if s.dir = RX then spf.pcmDeinterleavedUnpacked else spf.pcmInterleaved
      sendBlob (blobOf spf .pcmOutputFormatCfg mod.miid size
        (spf.size .mediaFormat + spf.size .pcmOutputFormatCfg + n)
        [spf.layout (.mediaFormat AGM_DATA_FORMAT_FIXED_POINT (spf.mediaFmtId .pcmS16Le)
            ((spf.size .pcmOutputFormatCfg + n) % 2 ^ 32)),
          spf.layout (.pcmOutputFormatCfg spf.pcmLittleEndian (getMediaBitWidth s media) spf.pcmLsbAligned channels
            bitsPerSample qFactor interleaved),
          getDefaultChannelMap spf media.channels])

/-- `configure_pcm_encoder_frame_size`.  The size is not padded. -/
def configurePcmEncoderFrameSize (mod : ModuleInfo) (frameSizeSamples : Nat) : Prog Link Int :=
  let size := 16 + spf.size .pcmEncoderFrameSize
  withBlob t size <|
    sendBlob (blobOf spf .pcmEncoderFrameSize mod.miid size (spf.size .pcmEncoderFrameSize)
      [spf.layout (.pcmEncoderFrameSize 1 frameSizeSamples)])

/-- A parameter that is one structure, padded: what most functions send. -/
def sendParam (param : ParamId) (miid : Nat) (d : SpfData) : Prog Link Int :=
  let size := t.align8 (16 + spf.size d.struct)
  withBlob t size <| sendBlob (blobOf spf param miid size (spf.size d.struct) [spf.layout d])

/-- `configure_encoder_output_media_format`: the encoder's output and then its bit rate, for AAC only.  The parameter
size of the first is that of its first structure. -/
def configureEncoderOutputMediaFormat (mod : ModuleInfo) : Prog Link Int :=
  if s.inMedia.format ≠ .aac then pure (-EINVAL)
  else
    let size := t.align8 (16 + spf.size .encoderOutputConfig + spf.size .aacEncCfg)
    withBlob t size do
      let ret ← sendBlob (blobOf spf .encoderOutputConfig mod.miid size (spf.size .encoderOutputConfig)
        [spf.layout (.encoderOutputConfig AGM_DATA_FORMAT_FIXED_POINT spf.mediaFmtAac (spf.size .aacEncCfg)),
          s.codec.bytes 4 (spf.size .aacEncCfg)])
      if ret ≠ 0 then pure ret
      else sendParam spf t .encBitrate mod.miid (.encBitrateParam (s.codec.word 0))

/-- `get_media_fmt_id_and_size`, the size of the format's structure. -/
def formatSize (f : MediaFormat) : Option Nat :=
  match f with
  | .invalid => none
  | .pcmS8 | .pcmS16Le | .pcmS24Le | .pcmS24_3Le | .pcmS32Le => some (spf.size .mediaFmtPcm)
  | .aac => some (spf.size .mediaFmtAac)
  | .flac => some (spf.size .mediaFmtFlac)
  | .alac => some (spf.size .mediaFmtAlac)
  | .ape => some (spf.size .mediaFmtApe)
  | .wmastd => some (spf.size .mediaFmtWmastd)
  | .wmapro => some (spf.size .mediaFmtWmapro)
  | .mp3 | .vorbis | .amrNb | .amrWb | .amrWbPlus | .evrc | .g711 | .qcelp => some 0

/-- `set_compressed_media_format`: the header of the format, and the decoder settings of the session copied behind
it. -/
def setCompressedMediaFormat (f : MediaFormat) : Option (List (List UInt8)) :=
  let copied (st : SpfStruct) := some [spf.layout (.mediaFormat AGM_DATA_FORMAT_RAW_COMPRESSED (spf.mediaFmtId f)
    (spf.size st)), s.codec.bytes 0 (spf.size st)]
  match f with
  | .mp3 => some [spf.layout (.mediaFormat AGM_DATA_FORMAT_RAW_COMPRESSED (spf.mediaFmtId f) 0)]
  | .aac => copied .mediaFmtAac
  | .flac => copied .mediaFmtFlac
  | .alac => copied .mediaFmtAlac
  | .ape => copied .mediaFmtApe
  | .wmastd => copied .mediaFmtWmastd
  | .wmapro => copied .mediaFmtWmapro
  | _ => none

/-- `configure_compress_shared_mem_ep`. -/
def configureCompressSharedMemEp (mod : ModuleInfo) : Prog Link Int :=
  let f := s.outMedia.format
  if isFormatBypassed f ∨ s.sessMode = .nonTunnel then pure 0
  else match formatSize spf f with
    | none => pure 0
    | some fmtSize =>
      let actualParamSz := spf.size .mediaFormat + fmtSize
      let size := t.align8 (16 + actualParamSz)
      withBlob t size <|
        match setCompressedMediaFormat spf s f with
        | none => pure (-EINVAL)
        | some pieces => sendBlob (blobOf spf .mediaFormat mod.miid size actualParamSz pieces)

/-- `configure_pcm_shared_mem_ep`. -/
def configurePcmSharedMemEp (mod : ModuleInfo) : Prog Link Int :=
  let media := s.outMedia
  let n := t.channelBytes media.channels
  let size := t.align8 (16 + spf.size .mediaFormat + spf.size .mediaFmtPcm + n)
  withBlob t size <|
    let bitWidth := getPcmBitWidth media.format
    sendBlob (blobOf spf .mediaFormat mod.miid size (spf.size .mediaFormat + spf.size .mediaFmtPcm + n)
      [spf.layout (.mediaFormat AGM_DATA_FORMAT_FIXED_POINT (spf.mediaFmtId .pcmS16Le)
          ((spf.size .mediaFmtPcm + n) % 2 ^ 32)),
        spf.layout (.mediaFmtPcm spf.pcmLittleEndian bitWidth media.rate.toNat spf.pcmLsbAligned
          (numChannels media.channels) (getBitsPerSample media.format bitWidth) (bitWidth - 1)),
        getDefaultChannelMap spf media.channels])

/-- `configure_rd_shared_mem_ep`. -/
def configureRdSharedMemEp (mod : ModuleInfo) : Prog Link Int :=
  if s.sessFlags &&& AGM_SESSION_FLAG_INBAND_SRCM = 0 ∧ s.sessMode ≠ .compress then pure 0
  else
    let flags := if s.sessMode = .nonTunnel then 2 else 0
    let frames :=
      if s.sessMode = .nonTunnel then (if isFormatPcm s.inMedia.format then 0 else 1)
      else if s.sessMode = .compress ∧ s.dir = TX then 1
      else 0
    sendParam spf t .rdShMemCfg mod.miid (.rdShMemCfg flags frames)

/-- The loop of `configure_spr`: one blob for every receive end point of the graph; the last code is the result. -/
def sprDelayPaths (miid size : Nat) : List ModuleInfo → Int → Prog Link Int
  | [], ret => pure ret
  | m :: ms, ret =>
    if m.tag = .deviceHwEndpointRx then do
      let ret ← sendBlob (blobOf spf .sprDelayPathEnd miid size (spf.size .sprDelayPathEnd)
        [spf.layout (.sprDelayPathEnd m.miid)])
      sprDelayPaths miid size ms ret
    else sprDelayPaths miid size ms ret

/-- `configure_spr`. -/
def configureSpr (mod : ModuleInfo) (mods : List ModuleInfo) : Prog Link Int :=
  let size := t.align8 (16 + spf.size .sprDelayPathEnd)
  withBlob t size (sprDelayPaths spf mod.miid size mods 0)

/-- `configure_hw_ep_media_config`. -/
def configureHwEpMediaConfig (mod : ModuleInfo) (ep : EndPoint) : Prog Link Int :=
  let media := ep.mediaConfig
  sendParam spf t .hwEpMfCfg mod.miid
    (.hwEpMf media.rate.toNat (getPcmBitWidth media.format) media.channels.toNat media.dataFormat)

/-- The parameter of an end point that has to know its channel map: the map is fetched once there is room for the
blob. -/
def sendWithChannelMap (param : ParamId) (miid : Nat) (channels : UInt32) (ep : EndPoint)
    (d : List Nat → SpfData) : Prog Link Int :=
  let size := t.align8 (16 + spf.size (d []).struct)
  withBlob t size <|
    match ep.channelMap with
    | (ret, none) => pure ret
    | (ret, some chmap) =>
      if ret ≠ 0 then pure ret
      else if chmap.getD 0 0 < channels.toNat then pure (-EINVAL)
      else sendBlob (blobOf spf param miid size (spf.size (d []).struct) [spf.layout (d chmap)])

/-- `configure_codec_dma_ep`. -/
def configureCodecDmaEp (mod : ModuleInfo) (ep : EndPoint) : Prog Link Int :=
  sendWithChannelMap spf t .codecDmaIntfCfg mod.miid ep.mediaConfig.channels ep
    fun chmap => .codecDmaIntfCfg ep.lpaifType ep.intfIdx (chmap.getD 1 0)

/-- `configure_slimbus_ep`.  It goes by the device's own media format, also for a device of a group. -/
def configureSlimbusEp (mod : ModuleInfo) (ep : EndPoint) : Prog Link Int :=
  if ep.media.channels.toNat > spf.sbMaxChanCnt then pure (-EINVAL)
  else
    sendWithChannelMap spf t .slimbusConfig mod.miid ep.media.channels ep
      fun chmap => .slimbusCfg ep.slimDevId ((chmap.drop 1).take ep.media.channels.toNat)

/-- `graph_pause_resume`, the blob. -/
def pauseBlob (miid : Nat) (pause : Bool) : Blob :=
  blobOf spf (if pause then .softPauseStart else .softPauseResume) miid (t.align8 16) 0 []

/-- `graph_pause_resume`: the first pause module of the graph is told. -/
def graphPauseResumeBlob (mods : List ModuleInfo) (pause : Bool) : Prog Link Int :=
  match mods.find? (fun m => m.tag = .pause) with
  | none => pure 0
  | some m => withBlob t (t.align8 16) (sendBlob (pauseBlob spf t m.miid pause))

/-- `graph_set_gapless_metadata`.  The parameter size is that of the blob. -/
def graphSetGaplessMetadata (mods : List ModuleInfo) (type silence : Nat) : Prog Link Int :=
  let decoderMiid := ((mods.find? fun m => m.tag = .streamPlaceholderDecoder).map ModuleInfo.miid).getD 0
  if decoderMiid = 0 then pure (-EINVAL)
  else
    let size := pad8 (16 + spf.size .removeInitialSilence)
    withBlob t size <|
      if type ≠ 0 ∧ type ≠ 1 then pure 0
      else
        let param := if type = 0 then .removeInitialSilence else .removeTrailingSilence
        gslSetCustomConfig (blobOf spf param decoderMiid size size [spf.layout (.removeInitialSilence silence)])

/-- The configurations the service sends, with what their functions are called with. -/
inductive Request
  | outputMediaFormat (mod : ModuleInfo)
  | pcmEncoderFrameSize (mod : ModuleInfo) (frameSizeSamples : Nat)
  | encoderOutputMediaFormat (mod : ModuleInfo)
  | compressSharedMemEp (mod : ModuleInfo)
  | pcmSharedMemEp (mod : ModuleInfo)
  | rdSharedMemEp (mod : ModuleInfo)
  | spr (mod : ModuleInfo) (mods : List ModuleInfo)
  | hwEpMediaConfig (mod : ModuleInfo) (ep : EndPoint)
  | codecDmaEp (mod : ModuleInfo) (ep : EndPoint)
  | slimbusEp (mod : ModuleInfo) (ep : EndPoint)
  | pauseResume (mods : List ModuleInfo) (pause : Bool)
  | gaplessMetadata (mods : List ModuleInfo) (type silence : Nat)

def Request.send : Request → Prog Link Int
  | .outputMediaFormat mod => configureOutputMediaFormat spf t s mod
  | .pcmEncoderFrameSize mod n => configurePcmEncoderFrameSize spf t mod n
  | .encoderOutputMediaFormat mod => configureEncoderOutputMediaFormat spf t s mod
  | .compressSharedMemEp mod => configureCompressSharedMemEp spf t s mod
  | .pcmSharedMemEp mod => configurePcmSharedMemEp spf t s mod
  | .rdSharedMemEp mod => configureRdSharedMemEp spf t s mod
  | .spr mod mods => configureSpr spf t mod mods
  | .hwEpMediaConfig mod ep => configureHwEpMediaConfig spf t mod ep
  | .codecDmaEp mod ep => configureCodecDmaEp spf t mod ep
  | .slimbusEp mod ep => configureSlimbusEp spf t mod ep
  | .pauseResume mods pause => graphPauseResumeBlob spf t mods pause
  | .gaplessMetadata mods type silence => graphSetGaplessMetadata spf t mods type silence

/-- When the blob of a parameter is well formed: never for the encoder's output and for the silence of gapless
playback; for the frame size of the PCM encoder if its structure happens to need no padding; and with a channel map if
the channel count is one as an `int`. -/
def Request.Fits (req : Request) (param : ParamId) : Prop :=
  match req with
  | .outputMediaFormat _ => s.outputMedia.channels.toNat < 2 ^ 31
  | .pcmSharedMemEp _ => s.outMedia.channels.toNat < 2 ^ 31
  | .pcmEncoderFrameSize _ _ => 8 ∣ spf.size .pcmEncoderFrameSize
  | .encoderOutputMediaFormat _ => param = .encBitrate
  | .gaplessMetadata _ _ _ => False
  | _ => True

end

/-! ## What is sent -/

/-- The program ends, and every blob it sends on the way satisfies `P`. -/
def Sends {α : Type} (P : Blob → Prop) (m : Prog Link α) : Prop :=
  ∀ l, ∃ a l' new, m l = some (a, l') ∧ l'.sent = new ++ l.sent ∧ ∀ b ∈ new, P b

section

variable {α β : Type} {P : Blob → Prop}

theorem sends_pure (a : α) : Sends P (pure a : Prog Link α) := by
  intro l
  refine ⟨a, l, [], rfl, rfl, ?_⟩
  simp

theorem sends_bind {m : Prog Link α} {f : α → Prog Link β} (h : Sends P m) (hf : ∀ a, Sends P (f a)) :
    Sends P (m >>= f) := by
  intro l
  obtain ⟨a, l₁, new₁, hm, hsent₁, hP₁⟩ := h l
  obtain ⟨b, l₂, new₂, hfa, hsent₂, hP₂⟩ := hf a l₁
  refine ⟨b, l₂, new₂ ++ new₁, ?_, ?_, ?_⟩
  · rw [bind_apply hm, hfa]
  · rw [hsent₂, hsent₁, List.append_assoc]
  · intro c hc
    rcases List.mem_append.1 hc with hc | hc
    · exact hP₂ c hc
    · exact hP₁ c hc

theorem sends_ite {c : Prop} [Decidable c] {m m' : Prog Link α} (h : c → Sends P m) (h' : ¬ c → Sends P m') :
    Sends P (if c then m else m') := by
  by_cases hc : c
  · simpa [hc] using h hc
  · simpa [hc] using h' hc

/-- A blob is only sent if there was room for it. -/
theorem sends_withBlob {t : Target} {size : Nat} {m : Prog Link Int} (h : size ≤ t.ptrdiffMax → Sends P m) :
    Sends P (withBlob t size m) := by
  intro l
  set l₁ : Link := { l with grants := l.grants.tail } with hl₁
  have hcalloc : callocBlob t size l = some (l.grants.headD true && decide (size ≤ t.ptrdiffMax), l₁) := rfl
  unfold withBlob
  rw [bind_apply hcalloc]
  by_cases hok : (l.grants.headD true && decide (size ≤ t.ptrdiffMax)) = true
  · rw [if_pos hok]
    simp only [Bool.and_eq_true, decide_eq_true_eq] at hok
    exact h hok.2 l₁
  · rw [if_neg hok]
    exact sends_pure _ l₁

theorem sends_gslSetCustomConfig {b : Blob} (h : P b) : Sends P (gslSetCustomConfig b) := by
  intro l
  refine ⟨_, _, [b], rfl, rfl, ?_⟩
  simpa using h

theorem sends_sendBlob {b : Blob} (h : P b) : Sends P (sendBlob b) := by
  apply sends_bind (sends_gslSetCustomConfig h)
  intro ret
  exact sends_pure _

end

section

variable (spf : Spf) (t : Target) (s : Stream)

theorem Target.align8_eq {x : Nat} (h : x < 2 ^ 31 + 2 ^ 20) : t.align8 x = pad8 x := by
  have hmod := t.le_sizeMod
  unfold Target.align8 pad8
  rw [Nat.mod_eq_of_lt (by omega)]

/-- One structure, padded. -/
theorem wellFormed_one (param : ParamId) (miid : Nat) (d : SpfData) :
    (blobOf spf param miid (t.align8 (16 + spf.size d.struct)) (spf.size d.struct) [spf.layout d]).WellFormed := by
  have hlt := spf.size_lt d.struct
  have hle := le_pad8 (16 + spf.size d.struct)
  have hmod : spf.size d.struct % 2 ^ 32 = spf.size d.struct := Nat.mod_eq_of_lt (by omega)
  rw [t.align8_eq (by omega), wellFormed_blobOf_iff _ _ _ _ _ (by omega), hmod]
  refine ⟨rfl, below_laid _ _ ?_⟩
  simp [spf.length_layout]

/-- Read as an `int`, a channel count from `2 ^ 31` on is negative: a blob that is granted all the same is shorter than
the structures in it. -/
theorem not_covered_of_neg {a b n size paramSize : Nat} (ha : a < 2 ^ 16) (hb : b < 2 ^ 16) (hn : 2 ^ 31 ≤ n)
    (hn' : n < 2 ^ 32) (hsize : size = t.align8 (16 + a + b + (t.sizeMod - (2 ^ 32 - n))))
    (hps : paramSize = (a + b + (t.sizeMod - (2 ^ 32 - n))) % 2 ^ 32) (hfit : size ≤ t.ptrdiffMax)
    (hpad : pad8 (16 + paramSize) = size) : paramSize < a + b := by
  subst hsize
  unfold Target.align8 pad8 at hpad
  unfold Target.ptrdiffMax Target.align8 at hfit
  have hmod : t.sizeMod = 2 ^ 64 ∨ t.sizeMod = 2 ^ 32 := by
    unfold Target.sizeMod
    split <;> simp
  rcases hmod with hmod | hmod <;> rw [hmod] at hpad hfit hps <;> omega

/-- The header of a format, its structure and a channel map behind them. -/
theorem wellFormed_channels_iff (param : ParamId) (miid : Nat) (f : SpfStruct) {p q : List UInt8} (channels : UInt32)
    (hp : p.length = spf.size .mediaFormat) (hq : q.length = spf.size f)
    (hfit : t.align8 (16 + spf.size .mediaFormat + spf.size f + t.channelBytes channels) ≤ t.ptrdiffMax) :
    (blobOf spf param miid (t.align8 (16 + spf.size .mediaFormat + spf.size f + t.channelBytes channels))
      (spf.size .mediaFormat + spf.size f + t.channelBytes channels)
      [p, q, getDefaultChannelMap spf channels]).WellFormed ↔ channels.toNat < 2 ^ 31 := by
  have ha := spf.size_lt .mediaFormat
  have hb := spf.size_lt f
  have hpos := spf.size_pos f
  have hne : t.align8 (16 + spf.size .mediaFormat + spf.size f + t.channelBytes channels) ≠ 1 := by
    unfold Target.align8
    omega
  rw [wellFormed_blobOf_iff _ _ _ _ _ hne]
  by_cases hn : channels.toNat < 2 ^ 31
  · have hbytes : t.channelBytes channels = channels.toNat := if_pos hn
    have hmap := length_getDefaultChannelMap spf channels
    rw [hbytes, t.align8_eq (by omega), Nat.mod_eq_of_lt (by omega)]
    refine iff_of_true ⟨by rw [← Nat.add_assoc, ← Nat.add_assoc], below_laid _ _ ?_⟩ hn
    simp only [List.flatten_cons, List.flatten_nil, List.length_append, List.length_nil, hp, hq]
    omega
  · have hbytes : t.channelBytes channels = t.sizeMod - (2 ^ 32 - channels.toNat) := if_neg hn
    refine iff_of_false ?_ hn
    rintro ⟨hpad, hbelow⟩
    rw [hbytes] at hpad hbelow hfit
    have hshort := not_covered_of_neg t ha hb (not_lt.1 hn) channels.toNat_lt rfl rfl hfit hpad
    have hq' : (16 + p.length, q) ∈ laid 16 [p, q, getDefaultChannelMap spf channels] := by simp [laid]
    rcases hbelow _ hq' with h | h <;> simp only [hp, hq] at h <;> omega

/-- The structures of a compressed format take the size that was set aside for them. -/
theorem length_setCompressedMediaFormat {f : MediaFormat} {pieces : List (List UInt8)} {fmtSize : Nat}
    (hsize : formatSize spf f = some fmtSize) (h : setCompressedMediaFormat spf s f = some pieces) :
    pieces.flatten.length = spf.size .mediaFormat + fmtSize := by
  have hlayout (n : Nat) := spf.length_layout (.mediaFormat AGM_DATA_FORMAT_RAW_COMPRESSED (spf.mediaFmtId f) n)
  have hstruct (n : Nat) : (SpfData.mediaFormat AGM_DATA_FORMAT_RAW_COMPRESSED (spf.mediaFmtId f) n).struct =
      .mediaFormat := rfl
  cases f <;> simp only [setCompressedMediaFormat, formatSize, Option.some.injEq, reduceCtorEq] at h hsize <;>
    subst h <;> subst hsize <;> simp [hlayout, hstruct]

theorem formatSize_lt {f : MediaFormat} {fmtSize : Nat} (h : formatSize spf f = some fmtSize) :
    fmtSize < 2 ^ 16 := by
  cases f <;> simp only [formatSize, Option.some.injEq, reduceCtorEq] at h <;> subst h <;>
    first | exact spf.size_lt _ | omega

theorem wellFormed_frameSize_iff (miid n : Nat) :
    (blobOf spf .pcmEncoderFrameSize miid (16 + spf.size .pcmEncoderFrameSize) (spf.size .pcmEncoderFrameSize)
      [spf.layout (.pcmEncoderFrameSize 1 n)]).WellFormed ↔ 8 ∣ spf.size .pcmEncoderFrameSize := by
  have hlt := spf.size_lt .pcmEncoderFrameSize
  rw [wellFormed_blobOf_iff _ _ _ _ _ (by omega), Nat.mod_eq_of_lt (by omega), pad8_eq_self_iff]
  have hlen := spf.length_layout (.pcmEncoderFrameSize 1 n)
  constructor
  · rintro ⟨h, -⟩
    omega
  · intro h
    refine ⟨by omega, below_laid _ _ ?_⟩
    simp [hlen, SpfData.struct]

/-- The encoder's settings lie behind the parameter. -/
theorem not_wellFormed_encoderOutput (miid size : Nat) {p q : List UInt8} (hsize : size ≠ 1)
    (hp : p.length = spf.size .encoderOutputConfig) (hq : q.length = spf.size .aacEncCfg) :
    ¬ (blobOf spf .encoderOutputConfig miid size (spf.size .encoderOutputConfig) [p, q]).WellFormed := by
  have hlt := spf.size_lt .encoderOutputConfig
  have hpos := spf.size_pos .aacEncCfg
  rw [wellFormed_blobOf_iff _ _ _ _ _ hsize, Nat.mod_eq_of_lt (by omega)]
  rintro ⟨-, hbelow⟩
  have hmem : (16 + p.length, q) ∈ laid 16 [p, q] := by simp [laid]
  rcases hbelow _ hmem with h | h <;> simp only [hp, hq] at h <;> omega

/-- A parameter as large as the blob takes the walk past its end. -/
theorem not_wellFormed_gapless (param : ParamId) (miid : Nat) (pieces : List (List UInt8)) {size : Nat}
    (hsize : size < 2 ^ 32) (hne : size ≠ 1) : ¬ (blobOf spf param miid size size pieces).WellFormed := by
  have hpad := le_pad8 (16 + size)
  rw [wellFormed_blobOf_iff _ _ _ _ _ hne, Nat.mod_eq_of_lt hsize]
  rintro ⟨h, -⟩
  omega

/-! ## The requests -/

theorem sends_sendParam {P : Blob → Prop} (param : ParamId) (miid : Nat) (d : SpfData)
    (h : ∀ b : Blob, b.param = param → b.WellFormed → P b) : Sends P (sendParam spf t param miid d) := by
  apply sends_withBlob
  intro _
  exact sends_sendBlob (h _ rfl (wellFormed_one spf t param miid d))

theorem sends_sprDelayPaths {P : Blob → Prop} (miid : Nat) (h : ∀ b : Blob, b.WellFormed → P b)
    (mods : List ModuleInfo) : ∀ ret,
      Sends P (sprDelayPaths spf miid (t.align8 (16 + spf.size .sprDelayPathEnd)) mods ret) := by
  induction mods with
  | nil =>
    intro ret
    exact sends_pure _
  | cons m ms ih =>
    intro ret
    apply sends_ite
    · intro _
      apply sends_bind
      · exact sends_sendBlob (h _ (wellFormed_one spf t .sprDelayPathEnd miid (.sprDelayPathEnd m.miid)))
      · exact ih
    · intro _
      exact ih ret

theorem sends_sendWithChannelMap {P : Blob → Prop} (param : ParamId) (miid : Nat) (channels : UInt32)
    (ep : EndPoint) (d : List Nat → SpfData) (hd : ∀ chmap, (d chmap).struct = (d []).struct)
    (h : ∀ b : Blob, b.WellFormed → P b) : Sends P (sendWithChannelMap spf t param miid channels ep d) := by
  apply sends_withBlob
  intro _
  obtain ⟨ret, map⟩ := ep.channelMap
  cases map with
  | none => exact sends_pure _
  | some chmap =>
    apply sends_ite
    · intro _
      exact sends_pure _
    · intro _
      apply sends_ite
      · intro _
        exact sends_pure _
      · intro _
        rw [← hd chmap]
        exact sends_sendBlob (h _ (wellFormed_one spf t param miid (d chmap)))

theorem sends_configureOutputMediaFormat (mod : ModuleInfo) :
    Sends (fun b => b.WellFormed ↔ s.outputMedia.channels.toNat < 2 ^ 31)
      (configureOutputMediaFormat spf t s mod) := by
  apply sends_withBlob
  intro hfit
  cases s.outputWidths mod with
  | none => exact sends_pure _
  | some w =>
    apply sends_sendBlob
    exact wellFormed_channels_iff spf t _ _ _ _ (spf.length_layout _) (spf.length_layout _) hfit

theorem sends_configurePcmSharedMemEp (mod : ModuleInfo) :
    Sends (fun b => b.WellFormed ↔ s.outMedia.channels.toNat < 2 ^ 31) (configurePcmSharedMemEp spf t s mod) := by
  apply sends_withBlob
  intro hfit
  apply sends_sendBlob
  exact wellFormed_channels_iff spf t _ _ _ _ (spf.length_layout _) (spf.length_layout _) hfit

theorem sends_configureEncoderOutputMediaFormat (mod : ModuleInfo) :
    Sends (fun b => b.WellFormed ↔ b.param = .encBitrate) (configureEncoderOutputMediaFormat spf t s mod) := by
  apply sends_ite
  · intro _
    exact sends_pure _
  · intro _
    apply sends_withBlob
    intro _
    apply sends_bind
    · apply sends_sendBlob
      refine iff_of_false ?_ (show ¬ ParamId.encoderOutputConfig = .encBitrate by decide)
      apply not_wellFormed_encoderOutput
      · unfold Target.align8
        omega
      · exact spf.length_layout _
      · exact Mem.length_bytes _ _ _
    · intro ret
      apply sends_ite
      · intro _
        exact sends_pure _
      · intro _
        exact sends_sendParam spf t _ _ _ fun b hparam hwf => iff_of_true hwf hparam

theorem sends_configureCompressSharedMemEp (mod : ModuleInfo) :
    Sends Blob.WellFormed (configureCompressSharedMemEp spf t s mod) := by
  apply sends_ite
  · intro _
    exact sends_pure _
  · intro _
    cases hsize : formatSize spf s.outMedia.format with
    | none => exact sends_pure _
    | some fmtSize =>
      apply sends_withBlob
      intro _
      cases hpieces : setCompressedMediaFormat spf s s.outMedia.format with
      | none => exact sends_pure _
      | some pieces =>
        have ha := spf.size_lt .mediaFormat
        have hb := formatSize_lt spf hsize
        have hlen := length_setCompressedMediaFormat spf s hsize hpieces
        have hle := le_pad8 (16 + (spf.size .mediaFormat + fmtSize))
        apply sends_sendBlob
        rw [t.align8_eq (by omega), wellFormed_blobOf_iff _ _ _ _ _ (by omega), Nat.mod_eq_of_lt (by omega)]
        exact ⟨rfl, below_laid _ _ (by omega)⟩

theorem wellFormed_pauseBlob (miid : Nat) (pause : Bool) : (pauseBlob spf t miid pause).WellFormed := by
  unfold pauseBlob
  rw [t.align8_eq (by omega), wellFormed_blobOf_iff _ _ _ _ _ (by decide)]
  exact ⟨rfl, below_laid _ _ (by simp)⟩

/-- The words of the blob are what `graphPauseResume` sends. -/
theorem words_pauseBlob (miid : Nat) (pause : Bool) : (pauseBlob spf t miid pause).mem.words 0 4 =
    [miid % 2 ^ 32, spf.paramId (if pause then .softPauseStart else .softPauseResume) % 2 ^ 32, 0, 0] := by
  set pid := spf.paramId (if pause then .softPauseStart else .softPauseResume) with hpid
  have hmem : (pauseBlob spf t miid pause).mem =
      Mem.store (fun _ => 0) 0 (le32 miid ++ le32 pid ++ le32 0 ++ le32 0) := rfl
  have h0 := Mem.word_store_le32 (fun _ => 0) 0 miid [] (le32 pid ++ le32 0 ++ le32 0)
  have h1 := Mem.word_store_le32 (fun _ => 0) 0 pid (le32 miid) (le32 0 ++ le32 0)
  have h2 := Mem.word_store_le32 (fun _ => 0) 0 0 (le32 miid ++ le32 pid) (le32 0)
  have h3 := Mem.word_store_le32 (fun _ => 0) 0 0 (le32 miid ++ le32 pid ++ le32 0) []
  simp only [List.nil_append, List.append_nil, ← List.append_assoc, List.length_nil, List.length_append, length_le32]
    at h0 h1 h2 h3
  rw [hmem]
  generalize Mem.store (fun _ => 0) 0 (le32 miid ++ le32 pid ++ le32 0 ++ le32 0) = m at h0 h1 h2 h3
  simpa [Mem.words, List.range_succ] using And.intro h0 (And.intro h1 (And.intro h2 h3))

theorem sends_graphPauseResumeBlob (mods : List ModuleInfo) (pause : Bool) :
    Sends Blob.WellFormed (graphPauseResumeBlob spf t mods pause) := by
  unfold graphPauseResumeBlob
  cases mods.find? (fun m => m.tag = .pause) with
  | none => exact sends_pure _
  | some m =>
    apply sends_withBlob
    intro _
    exact sends_sendBlob (wellFormed_pauseBlob spf t m.miid pause)

theorem sends_graphSetGaplessMetadata (mods : List ModuleInfo) (type silence : Nat) :
    Sends (fun b => ¬ b.WellFormed) (graphSetGaplessMetadata spf t mods type silence) := by
  have hlt := spf.size_lt .removeInitialSilence
  unfold graphSetGaplessMetadata
  apply sends_ite
  · intro _
    exact sends_pure _
  · intro _
    apply sends_withBlob
    intro _
    apply sends_ite
    · intro _
      exact sends_pure _
    · intro _
      apply sends_gslSetCustomConfig
      apply not_wellFormed_gapless <;> unfold pad8 <;> omega

theorem sends_configureRdSharedMemEp (mod : ModuleInfo) :
    Sends Blob.WellFormed (configureRdSharedMemEp spf t s mod) := by
  unfold configureRdSharedMemEp
  apply sends_ite
  · intro _
    exact sends_pure _
  · intro _
    exact sends_sendParam spf t _ _ _ fun _ _ h => h

theorem sends_configureSlimbusEp (mod : ModuleInfo) (ep : EndPoint) :
    Sends Blob.WellFormed (configureSlimbusEp spf t mod ep) := by
  unfold configureSlimbusEp
  apply sends_ite
  · intro _
    exact sends_pure _
  · intro _
    exact sends_sendWithChannelMap spf t _ _ _ ep _ (fun _ => rfl) fun _ h => h

theorem sends_configureCodecDmaEp (mod : ModuleInfo) (ep : EndPoint) :
    Sends Blob.WellFormed (configureCodecDmaEp spf t mod ep) := by
  unfold configureCodecDmaEp
  exact sends_sendWithChannelMap spf t _ _ _ ep _ (fun _ => rfl) fun _ h => h

theorem sends_configureSpr (mod : ModuleInfo) (mods : List ModuleInfo) :
    Sends Blob.WellFormed (configureSpr spf t mod mods) := by
  apply sends_withBlob
  intro _
  exact sends_sprDelayPaths spf t mod.miid (fun _ h => h) mods 0

theorem sends_configurePcmEncoderFrameSize (mod : ModuleInfo) (n : Nat) :
    Sends (fun b => b.WellFormed ↔ 8 ∣ spf.size .pcmEncoderFrameSize)
      (configurePcmEncoderFrameSize spf t mod n) := by
  apply sends_withBlob
  intro _
  exact sends_sendBlob (wellFormed_frameSize_iff spf mod.miid n)

/-- **Parameter blobs.**  Whatever is configured, the function ends, and each blob it has sent is well formed exactly
if its request fits. -/
theorem sent_wellFormed_iff (req : Request) (l : Link) :
    ∃ ret l' new, req.send spf t s l = some (ret, l') ∧ l'.sent = new ++ l.sent ∧
      ∀ b ∈ new, (b.WellFormed ↔ req.Fits spf s b.param) := by
  have hok {m : Prog Link Int} (h : Sends Blob.WellFormed m) : Sends (fun b => b.WellFormed ↔ True) m := by
    simpa using h
  have hnever {m : Prog Link Int} (h : Sends (fun b => ¬ b.WellFormed) m) :
      Sends (fun b => b.WellFormed ↔ False) m := by
    simpa using h
  cases req with
  | outputMediaFormat mod => exact sends_configureOutputMediaFormat spf t s mod l
  | pcmEncoderFrameSize mod n => exact sends_configurePcmEncoderFrameSize spf t mod n l
  | encoderOutputMediaFormat mod => exact sends_configureEncoderOutputMediaFormat spf t s mod l
  | compressSharedMemEp mod => exact hok (sends_configureCompressSharedMemEp spf t s mod) l
  | pcmSharedMemEp mod => exact sends_configurePcmSharedMemEp spf t s mod l
  | rdSharedMemEp mod => exact hok (sends_configureRdSharedMemEp spf t s mod) l
  | spr mod mods => exact hok (sends_configureSpr spf t mod mods) l
  | hwEpMediaConfig mod ep => exact hok (sends_sendParam spf t .hwEpMfCfg mod.miid _ fun _ _ h => h) l
  | codecDmaEp mod ep => exact hok (sends_configureCodecDmaEp spf t mod ep) l
  | slimbusEp mod ep => exact hok (sends_configureSlimbusEp spf t mod ep) l
  | pauseResume mods pause => exact hok (sends_graphPauseResumeBlob spf t mods pause) l
  | gaplessMetadata mods type silence => exact hnever (sends_graphSetGaplessMetadata spf t mods type silence) l

end

/-- Headers in which every structure is one word. -/
def Spf.plain : Spf where
  size _ := 4
  layout
    | .removeInitialSilence n => le32 n
    | _ => le32 0
  paramId _ := 0
  mediaFmtId _ := 0
  mediaFmtAac := 0
  channel _ := 0
  pcmLittleEndian := 1
  pcmLsbAligned := 1
  pcmInterleaved := 1
  pcmDeinterleavedUnpacked := 3
  sbMaxChanCnt := 8
  size_pos _ := by decide
  size_lt _ := by decide
  length_layout d := by cases d <;> rfl

/-- A graph with a decoder is told to drop 100 samples of initial silence: 24 bytes are sent, and the parameter in them
claims to have 24 bytes behind its header. -/
theorem gapless_not_wellFormed :
    ∃ ret l' b,
      (Request.gaplessMetadata [⟨.streamPlaceholderDecoder, 1, 2, false, none, none⟩] 0 100).send Spf.plain {} {} {} =
        some (ret, l') ∧ l'.sent = [b] ∧ b.size = 24 ∧ b.mem.word 8 = 24 ∧ ¬ b.WellFormed := by
  refine ⟨_, _, _, rfl, rfl, by decide +kernel, by decide +kernel, ?_⟩
  apply not_wellFormed_gapless <;> decide

end Agm.Service
