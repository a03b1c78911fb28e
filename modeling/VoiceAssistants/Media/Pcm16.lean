import VoiceAssistants.Collections.Pieces

/-!
# PCM16LE audio (`pcm16-frame-assembler.mjs`, `pcm16-livekit-resampler.mjs`)

A buffer is a list of bytes.  `Pcm16FrameAssembler` cuts the chunks of a stream into frames of one length;
`Pcm16LiveKitResampler` gives one such frame to LiveKit's native resampler and cuts what comes back into `AudioFrame`s.
The native resampler is a parameter.

An exception is its message.
-/

namespace VoiceAssistants
namespace Media

open Collections

/-! ## Samples and bytes -/

/-- `buffer.writeInt16LE(sample, offset)`. -/
def writeInt16LE (sample : Int16) : List UInt8 :=
  [UInt8.ofNat (sample.toUInt16.toNat % 256), UInt8.ofNat (sample.toUInt16.toNat / 256)]

/-- `buffer.readInt16LE(offset)` of two bytes. -/
def readInt16LE (low high : UInt8) : Int16 :=
  (UInt16.ofNat (low.toNat + 256 * high.toNat)).toInt16

/-- `int16ToPcm16le`. -/
def int16ToPcm16le (samples : List Int16) : List UInt8 :=
  samples.flatMap writeInt16LE

/-- The samples in a buffer. -/
def pcm16leToInt16 : List UInt8 → List Int16
  | low :: high :: bytes => readInt16LE low high :: pcm16leToInt16 bytes
  | _ => []

theorem readInt16LE_writeInt16LE (sample : Int16) :
    readInt16LE (UInt8.ofNat (sample.toUInt16.toNat % 256)) (UInt8.ofNat (sample.toUInt16.toNat / 256)) = sample := by
  have hlt : sample.toUInt16.toNat < 65536 := sample.toUInt16.toNat_lt
  have hlow : (UInt8.ofNat (sample.toUInt16.toNat % 256)).toNat = sample.toUInt16.toNat % 256 := by
    simp
  have hhigh : (UInt8.ofNat (sample.toUInt16.toNat / 256)).toNat = sample.toUInt16.toNat / 256 := by
    simp only [UInt8.toNat_ofNat']
    omega
  have hvalue : sample.toUInt16.toNat % 256 + 256 * (sample.toUInt16.toNat / 256) = sample.toUInt16.toNat :=
    Nat.mod_add_div _ _
  rw [readInt16LE, hlow, hhigh, hvalue, UInt16.ofNat_toNat]
  rfl

/-- The bytes of samples are read as these samples. -/
theorem pcm16leToInt16_int16ToPcm16le (samples : List Int16) : pcm16leToInt16 (int16ToPcm16le samples) = samples := by
  induction samples with
  | nil => rfl
  | cons sample samples ih =>
      show readInt16LE _ _ :: pcm16leToInt16 (int16ToPcm16le samples) = _
      rw [readInt16LE_writeInt16LE, ih]

theorem length_int16ToPcm16le (samples : List Int16) : (int16ToPcm16le samples).length = 2 * samples.length := by
  induction samples with
  | nil => rfl
  | cons sample samples ih =>
      show (int16ToPcm16le samples).length + 2 = _
      rw [ih, List.length_cons]
      omega

/-! ## Framing -/

/-- A frame assembler: less than a frame is pending. -/
structure Pcm16FrameAssembler where
  frameBytes : Nat
  maxBufferedBytes : Nat
  pending : List UInt8
  short : pending.length < frameBytes

namespace Pcm16FrameAssembler

variable {sampleRate channels frameDurationMs : Nat}

/-- A whole number of samples makes a frame that is not empty. -/
theorem frameBytes_pos (hrate : sampleRate ≠ 0) (hchannels : channels ≠ 0) (hduration : frameDurationMs ≠ 0)
    (hwhole : sampleRate * frameDurationMs % 1000 = 0) :
    0 < sampleRate * frameDurationMs / 1000 * channels * 2 := by
  have hpos : 0 < sampleRate * frameDurationMs := Nat.mul_pos (by omega) (by omega)
  have hsamples : 0 < sampleRate * frameDurationMs / 1000 :=
    Nat.div_pos (Nat.le_of_dvd hpos (Nat.dvd_of_mod_eq_zero hwhole)) (by decide)
  exact Nat.mul_pos (Nat.mul_pos hsamples (by omega)) (by decide)

/-- The constructor. -/
def create (sampleRate channels frameDurationMs maxBufferedMs : Nat) : Except String Pcm16FrameAssembler :=
  if hrate : sampleRate = 0 then .error "sampleRate must be a positive integer"
  else if hchannels : channels = 0 then .error "channels must be a positive integer"
  else if hduration : frameDurationMs = 0 then .error "frameDurationMs must be a positive integer"
  else if maxBufferedMs < frameDurationMs then .error "maxBufferedMs must be at least one frame"
  else if hwhole : sampleRate * frameDurationMs % 1000 = 0 then
    .ok
      { frameBytes := sampleRate * frameDurationMs / 1000 * channels * 2
        maxBufferedBytes := sampleRate * channels * 2 * maxBufferedMs / 1000
        pending := []
        short := frameBytes_pos hrate hchannels hduration hwhole }
  else .error "frame duration must contain an integer number of samples"

/-- `push`: the frames that the chunk completes. -/
def push (assembler : Pcm16FrameAssembler) (chunk : List UInt8) :
    Except String (List (List UInt8) × Pcm16FrameAssembler) :=
  if chunk = [] then .ok ([], assembler)
  else if assembler.pending.length + chunk.length > assembler.maxBufferedBytes then
    .error "PCM input exceeded the configured buffering limit"
  else
    let combined := assembler.pending ++ chunk
    .ok (wholePieces assembler.frameBytes combined,
      { assembler with
        pending := remainder assembler.frameBytes combined
        short := length_remainder (Nat.lt_of_le_of_lt (Nat.zero_le _) assembler.short) })

variable {assembler assembler' : Pcm16FrameAssembler} {chunk : List UInt8} {frames : List (List UInt8)}

/-- Framing keeps every byte, and the frames have their length. -/
theorem push_ok (h : assembler.push chunk = .ok (frames, assembler')) :
    frames.flatten ++ assembler'.pending = assembler.pending ++ chunk ∧
      (∀ frame ∈ frames, frame.length = assembler.frameBytes) ∧ assembler'.frameBytes = assembler.frameBytes := by
  unfold push at h
  split at h
  · rename_i hempty
    cases h
    simp [hempty]
  · split at h
    · cases h
    · cases h
      constructor
      · exact flatten_wholePieces_append_remainder
      · exact ⟨fun frame hframe => length_of_mem_wholePieces hframe, rfl⟩

end Pcm16FrameAssembler

/-! ## Resampling -/

/-- An `AudioFrame` of `@livekit/rtc-node`.  It has no `length`. -/
structure AudioFrame where
  data : List Int16
  sampleRate : Nat
  channels : Nat
  samplesPerChannel : Nat
  deriving DecidableEq, Repr

/-- `AudioResampler` of `@livekit/rtc-node`; `none` is an exception. -/
structure AudioResampler (ν : Type) where
  create : (inputRate outputRate channels : Nat) → Option ν
  push : ν → AudioFrame → Option (List AudioFrame × ν)
  flush : ν → Option (List AudioFrame × ν)

structure Pcm16LiveKitResampler (ν : Type) where
  inputRate : Nat
  outputRate : Nat
  channels : Nat
  inputFrameSamples : Nat
  outputFrameSamples : Nat
  maxBufferedSamples : Nat
  pending : List Int16
  closed : Bool
  resampler : ν

namespace Pcm16LiveKitResampler

variable {ν : Type} (native : AudioResampler ν)

/-- The constructor. -/
def create (inputRate outputRate channels frameDurationMs maxBufferedMs : Nat) :
    Except String (Pcm16LiveKitResampler ν) :=
  if inputRate = 0 then .error "inputRate must be a positive integer"
  else if outputRate = 0 then .error "outputRate must be a positive integer"
  else if channels = 0 then .error "channels must be a positive integer"
  else if frameDurationMs = 0 then .error "frameDurationMs must be a positive integer"
  else if maxBufferedMs = 0 then .error "maxBufferedMs must be a positive integer"
  else if maxBufferedMs < frameDurationMs then .error "maxBufferedMs must be at least one frame"
  else if inputRate * frameDurationMs % 1000 = 0 ∧ outputRate * frameDurationMs % 1000 = 0 then
    match native.create inputRate outputRate channels with
    | none => .error "resampler"
    | some resampler =>
        .ok
          { inputRate
            outputRate
            channels
            inputFrameSamples := inputRate * frameDurationMs / 1000
            outputFrameSamples := outputRate * frameDurationMs / 1000
            maxBufferedSamples := outputRate * channels * maxBufferedMs / 1000
            pending := []
            closed := false
            resampler }
  else .error "frame duration must contain an integer number of samples at both rates"

variable (r : Pcm16LiveKitResampler ν)

/-- `#frame`. -/
def frame (samples : List Int16) (samplesPerChannel : Nat) : AudioFrame :=
  ⟨samples, r.outputRate, r.channels, samplesPerChannel⟩

/-- The loop of `#consume`: the frames so far, and the samples that are pending after it. -/
def consumeFrames : List AudioFrame → List AudioFrame → List Int16 → Except String (List AudioFrame × List Int16)
  | [], result, pending => .ok (result, pending)
  | frame :: frames, result, pending =>
      if frame.sampleRate ≠ r.outputRate ∨ frame.channels ≠ r.channels then
        .error "LiveKit resampler returned an unexpected audio format"
      else if pending.length + frame.data.length > r.maxBufferedSamples then
        .error "Resampler output exceeded the configured buffering limit"
      else
        let joined := pending ++ frame.data
        let samplesPerFrame := r.outputFrameSamples * r.channels
        consumeFrames frames
          (result ++ (wholePieces samplesPerFrame joined).map fun samples => r.frame samples r.outputFrameSamples)
          (remainder samplesPerFrame joined)

/-- `#consume`.  After an exception nobody looks at what is pending. -/
def consume (frames : List AudioFrame) (includePartial : Bool) :
    Except String (List AudioFrame × Pcm16LiveKitResampler ν) :=
  match r.consumeFrames frames [] r.pending with
  | .error error => .error error
  | .ok (result, pending) =>
      if includePartial ∧ pending ≠ [] then
        .ok (result ++ [r.frame pending (pending.length / r.channels)], { r with pending := [] })
      else .ok (result, { r with pending })

/-- `push`. -/
def push (buffer : List UInt8) : Except String (List AudioFrame × Pcm16LiveKitResampler ν) :=
  if r.closed then .error "PCM resampler is closed"
  else if buffer.length ≠ r.inputFrameSamples * r.channels * 2 then
    .error ("PCM input frame must contain exactly " ++ toString (r.inputFrameSamples * r.channels * 2) ++ " bytes")
  else
    match native.push r.resampler ⟨pcm16leToInt16 buffer, r.inputRate, r.channels, r.inputFrameSamples⟩ with
    | none => .error "resampler"
    | some (frames, resampler) => consume { r with resampler } frames false

/-- `flush`. -/
def flush : Except String (List AudioFrame × Pcm16LiveKitResampler ν) :=
  if r.closed then .error "PCM resampler is closed"
  else
    match native.flush r.resampler with
    | none => .error "resampler"
    | some (frames, resampler) => consume { r with resampler } frames true

end Pcm16LiveKitResampler

end Media
end VoiceAssistants
