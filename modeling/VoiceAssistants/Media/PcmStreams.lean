import VoiceAssistants.Media.Pcm16

/-!
# Streams of PCM16LE audio

What a sequence of calls makes of a `Pcm16FrameAssembler` and of a `Pcm16LiveKitResampler`.  Both carry what does not
fill a frame from one call to the next.  The samples and bytes that went in are those that came out and those that are
carried, wherever the calls cut the stream.
-/

namespace VoiceAssistants
namespace Media

open Collections

/-! ## The frame assembler -/

namespace Pcm16FrameAssembler

/-- `push` with the assembler after it, also when it throws.  `none` is a value that is neither a `Buffer` nor a
`Uint8Array`. -/
def pushed (assembler : Pcm16FrameAssembler) :
    Option (List UInt8) → Except String (List (List UInt8)) × Pcm16FrameAssembler
  | none => (.error "PCM chunk must be a Buffer or Uint8Array", assembler)
  | some chunk =>
      match assembler.push chunk with
      | .error error => (.error error, assembler)
      | .ok (frames, assembler') => (.ok frames, assembler')

/-- What a sequence of pushes made: the frames, the chunks that were accepted, and the assembler. -/
structure Framed where
  frames : List (List UInt8)
  accepted : List (List UInt8)
  assembler : Pcm16FrameAssembler

/-- The pushes of a stream.  Its owner goes on after a push that throws. -/
def pushAll : Pcm16FrameAssembler → List (Option (List UInt8)) → Framed
  | assembler, [] => ⟨[], [], assembler⟩
  | assembler, chunk :: chunks =>
      let rest := pushAll (assembler.pushed chunk).2 chunks
      match (assembler.pushed chunk).1 with
      | .error _ => rest
      | .ok frames => ⟨frames ++ rest.frames, chunk.getD [] :: rest.accepted, rest.assembler⟩

variable {assembler : Pcm16FrameAssembler} {frames : List (List UInt8)} {error : String}

/-- A push keeps the sizes it was created with. -/
theorem push_sizes {assembler' : Pcm16FrameAssembler} {chunk : List UInt8}
    (h : assembler.push chunk = .ok (frames, assembler')) :
    assembler'.frameBytes = assembler.frameBytes ∧ assembler'.maxBufferedBytes = assembler.maxBufferedBytes := by
  unfold push at h
  split at h
  · cases h
    exact ⟨rfl, rfl⟩
  · split at h
    · cases h
    · cases h
      exact ⟨rfl, rfl⟩

theorem pushed_of_ok {assembler' : Pcm16FrameAssembler} {chunk : List UInt8}
    (h : assembler.push chunk = .ok (frames, assembler')) : assembler.pushed (some chunk) = (.ok frames, assembler') := by
  simp only [pushed, h]

theorem pushed_of_error {chunk : List UInt8} (h : assembler.push chunk = .error error) :
    assembler.pushed (some chunk) = (.error error, assembler) := by
  simp only [pushed, h]

/-- A push that returns is `push` of a buffer. -/
theorem pushed_eq_ok {chunk : Option (List UInt8)} (h : (assembler.pushed chunk).1 = .ok frames) :
    ∃ bytes, chunk = some bytes ∧ assembler.push bytes = .ok (frames, (assembler.pushed chunk).2) := by
  cases chunk with
  | none => cases h
  | some bytes =>
      cases hpush : assembler.push bytes with
      | error error =>
          rw [pushed_of_error hpush] at h
          cases h
      | ok result =>
          obtain ⟨frames', assembler'⟩ := result
          rw [pushed_of_ok hpush] at h ⊢
          cases h
          exact ⟨bytes, rfl, hpush⟩

/-- A push that throws has assigned nothing. -/
theorem pushed_eq_error {chunk : Option (List UInt8)} (h : (assembler.pushed chunk).1 = .error error) :
    (assembler.pushed chunk).2 = assembler := by
  cases chunk with
  | none => rfl
  | some bytes =>
      cases hpush : assembler.push bytes with
      | error error' => rw [pushed_of_error hpush]
      | ok result =>
          rw [pushed_of_ok hpush] at h
          cases h

/-- A chunk that fits beside the longest carry is accepted. -/
theorem pushed_of_fits {chunk : List UInt8}
    (hfits : chunk.length + assembler.frameBytes ≤ assembler.maxBufferedBytes + 1) :
    ∃ frames, (assembler.pushed (some chunk)).1 = .ok frames := by
  have hshort : assembler.pending.length < assembler.frameBytes := assembler.short
  have hroom : ¬ assembler.pending.length + chunk.length > assembler.maxBufferedBytes := by omega
  cases hpush : assembler.push chunk with
  | ok result => exact ⟨result.1, by rw [pushed_of_ok hpush]⟩
  | error error =>
      -- only a chunk without room throws
      unfold push at hpush
      rw [if_neg hroom] at hpush
      split at hpush
      · cases hpush
      · cases hpush

/-- What every sequence of pushes keeps. -/
structure Conserves (assembler : Pcm16FrameAssembler) (framed : Framed) : Prop where
  bytes : framed.frames.flatten ++ framed.assembler.pending = assembler.pending ++ framed.accepted.flatten
  whole : ∀ frame ∈ framed.frames, frame.length = assembler.frameBytes
  frameBytes : framed.assembler.frameBytes = assembler.frameBytes
  maxBufferedBytes : framed.assembler.maxBufferedBytes = assembler.maxBufferedBytes

/-- An accepted chunk before the rest of the stream. -/
theorem Conserves.cons {assembler' : Pcm16FrameAssembler} {chunk : List UInt8} {rest : Framed}
    (hpush : assembler.push chunk = .ok (frames, assembler')) (hrest : Conserves assembler' rest) :
    Conserves assembler ⟨frames ++ rest.frames, chunk :: rest.accepted, rest.assembler⟩ := by
  obtain ⟨hbytes, hwhole, hframe⟩ := push_ok hpush
  constructor
  case bytes =>
    calc (frames ++ rest.frames).flatten ++ rest.assembler.pending
        = frames.flatten ++ (rest.frames.flatten ++ rest.assembler.pending) := by
          rw [List.flatten_append, List.append_assoc]
      _ = frames.flatten ++ (assembler'.pending ++ rest.accepted.flatten) := by rw [hrest.bytes]
      _ = assembler.pending ++ chunk ++ rest.accepted.flatten := by rw [← List.append_assoc, hbytes]
      _ = assembler.pending ++ (chunk :: rest.accepted).flatten := by rw [List.flatten_cons, List.append_assoc]
  case whole =>
    intro frame hmem
    cases List.mem_append.mp hmem with
    | inl hold => exact hwhole frame hold
    | inr hnew => exact (hrest.whole frame hnew).trans hframe
  case frameBytes => exact hrest.frameBytes.trans hframe
  case maxBufferedBytes => exact hrest.maxBufferedBytes.trans (push_sizes hpush).2

theorem pushAll_conserves (assembler : Pcm16FrameAssembler) (chunks : List (Option (List UInt8))) :
    Conserves assembler (assembler.pushAll chunks) := by
  induction chunks generalizing assembler with
  | nil =>
      constructor
      case bytes => simp [pushAll]
      case whole => exact fun frame hframe => absurd hframe List.not_mem_nil
      case frameBytes => rfl
      case maxBufferedBytes => rfl
  | cons chunk chunks ih =>
      unfold pushAll
      cases hresult : (assembler.pushed chunk).1 with
      | error error =>
          -- the rest starts where this push did
          have hsame : (assembler.pushed chunk).2 = assembler := pushed_eq_error hresult
          rw [hsame]
          exact ih assembler
      | ok frames =>
          obtain ⟨bytes, rfl, hpush⟩ := pushed_eq_ok hresult
          exact Conserves.cons hpush (ih _)

theorem create_pending {sampleRate channels frameDurationMs maxBufferedMs : Nat}
    (hcreate : create sampleRate channels frameDurationMs maxBufferedMs = .ok assembler) : assembler.pending = [] := by
  unfold create at hcreate
  repeat' split at hcreate
  all_goals cases hcreate
  rfl

/-- The frames and the carry are those of the accepted bytes, cut at once. -/
theorem pushAll_eq_of_accepted {chunks chunks' : List (Option (List UInt8))}
    (hsame : (assembler.pushAll chunks).accepted.flatten = (assembler.pushAll chunks').accepted.flatten) :
    (assembler.pushAll chunks).frames = (assembler.pushAll chunks').frames ∧
      (assembler.pushAll chunks).assembler.pending = (assembler.pushAll chunks').assembler.pending := by
  have hkept := pushAll_conserves assembler chunks
  have hkept' := pushAll_conserves assembler chunks'
  have hshort : (assembler.pushAll chunks).assembler.pending.length < assembler.frameBytes := by
    rw [← hkept.frameBytes]
    exact (assembler.pushAll chunks).assembler.short
  have hshort' : (assembler.pushAll chunks').assembler.pending.length < assembler.frameBytes := by
    rw [← hkept'.frameBytes]
    exact (assembler.pushAll chunks').assembler.short
  have hjoined : (assembler.pushAll chunks).frames.flatten ++ (assembler.pushAll chunks).assembler.pending =
      (assembler.pushAll chunks').frames.flatten ++ (assembler.pushAll chunks').assembler.pending := by
    rw [hkept.bytes, hkept'.bytes, hsame]
  exact eq_of_flatten_append hkept.whole hkept'.whole hshort hshort' hjoined

/-- Framing loses nothing, a push that throws changes nothing, a chunk that fits is accepted, and where the chunks of a
stream end does not show in its frames. -/
theorem framing_independent_of_fragmentation {sampleRate channels frameDurationMs maxBufferedMs : Nat}
    (hcreate : create sampleRate channels frameDurationMs maxBufferedMs = .ok assembler)
    (chunks : List (Option (List UInt8))) :
    ((assembler.pushAll chunks).frames.flatten ++ (assembler.pushAll chunks).assembler.pending =
        (assembler.pushAll chunks).accepted.flatten) ∧
      (∀ frame ∈ (assembler.pushAll chunks).frames, frame.length = assembler.frameBytes) ∧
      (assembler.pushAll chunks).assembler.pending.length < assembler.frameBytes ∧
      (∀ chunk error, ((assembler.pushAll chunks).assembler.pushed chunk).1 = .error error →
        ((assembler.pushAll chunks).assembler.pushed chunk).2 = (assembler.pushAll chunks).assembler) ∧
      (∀ chunk : List UInt8, chunk.length + assembler.frameBytes ≤ assembler.maxBufferedBytes + 1 →
        ∃ frames, ((assembler.pushAll chunks).assembler.pushed (some chunk)).1 = .ok frames) ∧
      ∀ fragments fragments' : List (List UInt8),
        (assembler.pushAll (fragments.map some)).accepted = fragments →
        (assembler.pushAll (fragments'.map some)).accepted = fragments' →
        fragments.flatten = fragments'.flatten →
        (assembler.pushAll (fragments.map some)).frames = (assembler.pushAll (fragments'.map some)).frames ∧
          (assembler.pushAll (fragments.map some)).assembler.pending =
            (assembler.pushAll (fragments'.map some)).assembler.pending := by
  have hkept := pushAll_conserves assembler chunks
  constructor
  · rw [hkept.bytes, create_pending hcreate, List.nil_append]
  constructor
  · exact hkept.whole
  constructor
  · rw [← hkept.frameBytes]
    exact (assembler.pushAll chunks).assembler.short
  constructor
  · intro chunk error herror
    exact pushed_eq_error herror
  constructor
  · intro chunk hfits
    apply pushed_of_fits
    rw [hkept.frameBytes, hkept.maxBufferedBytes]
    exact hfits
  · intro fragments fragments' haccepted haccepted' hbytes
    apply pushAll_eq_of_accepted
    rw [haccepted, haccepted', hbytes]

/-- An assembler of frames of two samples that holds three frames. -/
def sampleAssembler : Pcm16FrameAssembler := ⟨4, 12, [], by decide⟩

/-- Two fragmentations of nine bytes; the first of them cuts a sample. -/
theorem framing_independent_of_fragmentation_sample :
    create 1000 1 2 6 = .ok sampleAssembler ∧
      ((sampleAssembler.pushAll [some [1, 2, 3], some [], none, some [4, 5, 6, 7, 8, 9]]).frames =
          [[1, 2, 3, 4], [5, 6, 7, 8]]) ∧
      ((sampleAssembler.pushAll ([[1, 2, 3], [4, 5, 6, 7, 8, 9]].map some)).frames =
        (sampleAssembler.pushAll ([[1, 2, 3, 4, 5, 6, 7, 8, 9]].map some)).frames) ∧
      ∃ frames, ((sampleAssembler.pushAll [some [1, 2, 3]]).assembler.pushed
        (some [1, 2, 3, 4, 5, 6, 7, 8, 9])).1 = .ok frames := by
  have hcreate : create 1000 1 2 6 = .ok sampleAssembler := rfl
  constructor
  · exact hcreate
  constructor
  · decide +kernel
  constructor
  · exact ((framing_independent_of_fragmentation hcreate []).2.2.2.2.2 [[1, 2, 3], [4, 5, 6, 7, 8, 9]]
      [[1, 2, 3, 4, 5, 6, 7, 8, 9]] (by decide +kernel) (by decide +kernel) (by decide)).1
  · exact (framing_independent_of_fragmentation hcreate [some [1, 2, 3]]).2.2.2.2.1 _ (by decide)

end Pcm16FrameAssembler

/-! ## The resampler -/

namespace Pcm16LiveKitResampler

variable {ν : Type} (native : AudioResampler ν)

/-- What the native resampler gives to a call, before it is cut into frames. -/
def nativePush (r : Pcm16LiveKitResampler ν) (buffer : List UInt8) : Option (List AudioFrame × ν) :=
  native.push r.resampler ⟨pcm16leToInt16 buffer, r.inputRate, r.channels, r.inputFrameSamples⟩

/-- `close`, with the resampler after it, also when it throws.  The native `close` only frees memory. -/
def close (r : Pcm16LiveKitResampler ν) : Except String (List AudioFrame) × Pcm16LiveKitResampler ν :=
  if r.closed then (.ok [], r)
  else
    match native.flush r.resampler with
    | none => (.error "resampler", { r with closed := true, pending := [] })
    | some (frames, resampler) =>
        match consume { r with resampler } frames true with
        | .error error => (.error error, { r with resampler, closed := true, pending := [] })
        | .ok (frames, r') => (.ok frames, { r' with closed := true, pending := [] })

inductive Call where
  | push (buffer : List UInt8)
  | flush
  | close
  deriving DecidableEq, Repr

/-- A call that returns. -/
def perform (r : Pcm16LiveKitResampler ν) : Call → Except String (List AudioFrame × Pcm16LiveKitResampler ν)
  | .push buffer => r.push native buffer
  | .flush => r.flush native
  | .close => (r.close native).1.map fun frames => (frames, (r.close native).2)

/-- The native frames of a call. -/
def nativeFrames (r : Pcm16LiveKitResampler ν) : Call → List AudioFrame
  | .push buffer => ((r.nativePush native buffer).map Prod.fst).getD []
  | .flush => ((native.flush r.resampler).map Prod.fst).getD []
  | .close => if r.closed then [] else ((native.flush r.resampler).map Prod.fst).getD []

/-- What a sequence of calls made: the frames of each call, the native frames, and the resampler. -/
structure Resampled (ν : Type) where
  returned : List (Call × List AudioFrame)
  native : List AudioFrame
  resampler : Pcm16LiveKitResampler ν

/-- A sequence of calls, none of which throws. -/
def performAll : Pcm16LiveKitResampler ν → List Call → Except String (Resampled ν)
  | r, [] => .ok ⟨[], [], r⟩
  | r, call :: calls =>
      match r.perform native call with
      | .error error => .error error
      | .ok (frames, r') =>
          match performAll r' calls with
          | .error error => .error error
          | .ok rest => .ok ⟨(call, frames) :: rest.returned, r.nativeFrames native call ++ rest.native, rest.resampler⟩

/-- The samples of frames. -/
def samples (frames : List AudioFrame) : List Int16 :=
  frames.flatMap AudioFrame.data

variable {native} {r r' : Pcm16LiveKitResampler ν} {frames result : List AudioFrame} {pending : List Int16}

theorem samples_append {frames frames' : List AudioFrame} :
    samples (frames ++ frames') = samples frames ++ samples frames' :=
  List.flatMap_append

/-- A frame of the full duration. -/
def Whole (r : Pcm16LiveKitResampler ν) (frame : AudioFrame) : Prop :=
  frame.samplesPerChannel = r.outputFrameSamples ∧ frame.channels = r.channels ∧
    frame.data.length = r.outputFrameSamples * r.channels

/-- The frame's `samples_per_channel` counts its data. -/
def Counted (frame : AudioFrame) : Prop :=
  frame.samplesPerChannel * frame.channels = frame.data.length

theorem Whole.counted {frame : AudioFrame} (h : Whole r frame) : Counted frame := by
  obtain ⟨hcount, hchannels, hlength⟩ := h
  rw [Counted, hcount, hchannels, hlength]

/-- What is carried between two calls: less than a frame, in whole sample groups, and nothing once closed. -/
structure Carry (r : Pcm16LiveKitResampler ν) : Prop where
  short : r.pending.length < r.outputFrameSamples * r.channels
  groups : r.channels ∣ r.pending.length
  closed : r.closed = true → r.pending = []

/-- The frames cut from the samples of one native frame and the carry. -/
theorem whole_pieces {joined : List Int16} :
    ∀ frame ∈ (wholePieces (r.outputFrameSamples * r.channels) joined).map fun samples =>
      r.frame samples r.outputFrameSamples, Whole r frame := by
  intro frame hframe
  obtain ⟨piece, hpiece, rfl⟩ := List.mem_map.mp hframe
  exact ⟨rfl, rfl, length_of_mem_wholePieces hpiece⟩

theorem samples_pieces {n : Nat} {joined : List Int16} :
    samples ((wholePieces n joined).map fun samples => r.frame samples r.outputFrameSamples) =
      (wholePieces n joined).flatten := by
  rw [samples, List.flatMap_map, ← List.flatMap_id]
  rfl

/-- The loop of `#consume` loses nothing and cuts whole frames only. -/
theorem consumeFrames_ok {pending' : List Int16} {result' : List AudioFrame}
    (hshort : pending.length < r.outputFrameSamples * r.channels) (hgroups : r.channels ∣ pending.length)
    (hnative : ∀ frame ∈ frames, r.channels ∣ frame.data.length) (hresult : ∀ frame ∈ result, Whole r frame)
    (h : r.consumeFrames frames result pending = .ok (result', pending')) :
    samples result' ++ pending' = samples result ++ pending ++ samples frames ∧
      pending'.length < r.outputFrameSamples * r.channels ∧ r.channels ∣ pending'.length ∧
      ∀ frame ∈ result', Whole r frame := by
  induction frames generalizing result pending with
  | nil =>
      cases h
      constructor
      · exact (List.append_nil _).symm
      · exact ⟨hshort, hgroups, hresult⟩
  | cons frame frames ih =>
      unfold consumeFrames at h
      split at h
      · cases h
      split at h
      · cases h
      have hpos : 0 < r.outputFrameSamples * r.channels := Nat.lt_of_le_of_lt (Nat.zero_le _) hshort
      have hjoined : r.channels ∣ (pending ++ frame.data).length := by
        rw [List.length_append]
        exact Nat.dvd_add hgroups (hnative frame List.mem_cons_self)
      have hrest := ih (length_remainder hpos) (by
          rw [length_remainder_eq]
          exact (Nat.dvd_mod_iff (Nat.dvd_mul_left _ _)).mpr hjoined)
        (fun other hother => hnative other (List.mem_cons_of_mem _ hother))
        (fun other hother => (List.mem_append.mp hother).elim (hresult other) (whole_pieces other)) h
      obtain ⟨hsamples, hkept⟩ := hrest
      constructor
      · rw [hsamples, samples_append, samples_pieces, List.append_assoc (samples result),
          flatten_wholePieces_append_remainder]
        show _ = samples result ++ pending ++ (frame.data ++ samples frames)
        simp only [List.append_assoc]
      · exact hkept

/-- What a call makes of its native frames. -/
structure Cut (r r' : Pcm16LiveKitResampler ν) (frames result : List AudioFrame) : Prop where
  conserved : samples result ++ r'.pending = r.pending ++ samples frames
  carry : Carry r'
  counted : ∀ frame ∈ result, Counted frame
  outputFrameSamples : r'.outputFrameSamples = r.outputFrameSamples
  channels : r'.channels = r.channels

/-- `#consume`, without and with the partial frame at its end. -/
theorem consume_cut {includePartial : Bool} (hcarry : Carry r) (hopen : r.closed = false)
    (hnative : ∀ frame ∈ frames, r.channels ∣ frame.data.length)
    (h : r.consume frames includePartial = .ok (result, r')) :
    Cut r r' frames result ∧ (includePartial = false → ∀ frame ∈ result, Whole r frame) ∧
      (includePartial = true → r'.pending = []) := by
  unfold consume at h
  cases hloop : r.consumeFrames frames [] r.pending with
  | error error =>
      rw [hloop] at h
      cases h
  | ok cut =>
      obtain ⟨whole, pending⟩ := cut
      rw [hloop] at h
      obtain ⟨hsamples, hshort, hgroups, hwhole⟩ := consumeFrames_ok hcarry.short hcarry.groups hnative
        (fun frame hframe => absurd hframe List.not_mem_nil) hloop
      have hpos : 0 < r.outputFrameSamples * r.channels := Nat.lt_of_le_of_lt (Nat.zero_le _) hshort
      simp only at h
      split at h
      case isTrue hsplit =>
        -- the rest goes out as a frame of its own
        cases h
        constructor
        · constructor
          case conserved =>
            show samples (whole ++ [r.frame pending (pending.length / r.channels)]) ++ [] = _
            rw [List.append_nil, samples_append]
            show samples whole ++ (pending ++ []) = _
            rw [List.append_nil, hsamples]
            rfl
          case carry => exact ⟨hpos, Nat.dvd_zero _, fun _ => rfl⟩
          case counted =>
            intro frame hframe
            cases List.mem_append.mp hframe with
            | inl hmem => exact (hwhole frame hmem).counted
            | inr hmem =>
                cases List.mem_singleton.mp hmem
                exact Nat.div_mul_cancel hgroups
          case outputFrameSamples => rfl
          case channels => rfl
        · constructor
          · intro hnone
            exact absurd (hsplit.1.symm.trans hnone) (by decide)
          · exact fun _ => rfl
      case isFalse hsplit =>
        cases h
        constructor
        · constructor
          case conserved => exact hsamples
          case carry => exact ⟨hshort, hgroups, fun hclosed => absurd (hopen.symm.trans hclosed) (by decide)⟩
          case counted => exact fun frame hframe => (hwhole frame hframe).counted
          case outputFrameSamples => rfl
          case channels => rfl
        · constructor
          · exact fun _ => hwhole
          · intro hyes
            by_cases hempty : pending = []
            · exact hempty
            · exact absurd ⟨hyes, hempty⟩ hsplit

/-- A call that goes to the native resampler changes `resampler` first. -/
theorem Carry.nativeStep (h : Carry r) (resampler : ν) : Carry { r with resampler } :=
  ⟨h.short, h.groups, h.closed⟩

/-- Closing throws away what is pending. -/
theorem Cut.closed (h : Cut r r' frames result) (hpending : r'.pending = []) :
    Cut r { r' with closed := true, pending := [] } frames result := by
  constructor
  case conserved =>
    rw [← h.conserved, hpending]
  case carry => exact ⟨Nat.lt_of_le_of_lt (Nat.zero_le _) h.carry.short, Nat.dvd_zero _, fun _ => rfl⟩
  case counted => exact h.counted
  case outputFrameSamples => exact h.outputFrameSamples
  case channels => exact h.channels

/-- A `push` that returns. -/
theorem perform_push {buffer : List UInt8} (h : r.perform native (.push buffer) = .ok (result, r')) :
    r.closed = false ∧ ∃ resampler,
      consume { r with resampler } (r.nativeFrames native (.push buffer)) false = .ok (result, r') := by
  change r.push native buffer = .ok (result, r') at h
  unfold push at h
  split at h
  · cases h
  rename_i hopen
  split at h
  · cases h
  cases hpush : r.nativePush native buffer with
  | none =>
      unfold nativePush at hpush
      rw [hpush] at h
      cases h
  | some pushed =>
      have hframes : r.nativeFrames native (.push buffer) = pushed.1 := by
        simp only [nativeFrames, hpush, Option.map_some, Option.getD_some]
      unfold nativePush at hpush
      rw [hpush] at h
      rw [hframes]
      exact ⟨eq_false_of_ne_true hopen, pushed.2, h⟩

/-- A `flush` that returns. -/
theorem perform_flush (h : r.perform native .flush = .ok (result, r')) :
    r.closed = false ∧ ∃ resampler,
      consume { r with resampler } (r.nativeFrames native .flush) true = .ok (result, r') := by
  change r.flush native = .ok (result, r') at h
  unfold flush at h
  split at h
  · cases h
  rename_i hopen
  cases hflush : native.flush r.resampler with
  | none =>
      rw [hflush] at h
      cases h
  | some flushed =>
      have hframes : r.nativeFrames native .flush = flushed.1 := by
        simp only [nativeFrames, hflush, Option.map_some, Option.getD_some]
      rw [hflush] at h
      rw [hframes]
      exact ⟨eq_false_of_ne_true hopen, flushed.2, h⟩

/-- `close` of a resampler that is open, and whose native `flush` and `#consume` return. -/
theorem close_of_consume {frames : List AudioFrame} {resampler : ν} (hopen : ¬ r.closed = true)
    (hflush : native.flush r.resampler = some (frames, resampler))
    (hconsume : consume { r with resampler } frames true = .ok (result, r')) :
    r.close native = (.ok result, { r' with closed := true, pending := [] }) := by
  simp only [close, if_neg hopen, hflush, hconsume]

/-- A `close` that returns. -/
theorem perform_close (h : r.perform native .close = .ok (result, r')) (hopen : ¬ r.closed = true) :
    ∃ resampler r'', consume { r with resampler } (r.nativeFrames native .close) true = .ok (result, r'') ∧
      r' = { r'' with closed := true, pending := [] } := by
  change (r.close native).1.map (fun frames => (frames, (r.close native).2)) = .ok (result, r') at h
  cases hflush : native.flush r.resampler with
  | none =>
      simp only [close, if_neg hopen, hflush] at h
      cases h
  | some flushed =>
      obtain ⟨frames, resampler⟩ := flushed
      have hframes : r.nativeFrames native .close = frames := by
        simp only [nativeFrames, if_neg hopen, hflush, Option.map_some, Option.getD_some]
      rw [hframes]
      cases hconsume : consume { r with resampler } frames true with
      | error error =>
          simp only [close, if_neg hopen, hflush, hconsume] at h
          cases h
      | ok consumed =>
          rw [close_of_consume hopen hflush hconsume] at h
          cases h
          exact ⟨resampler, consumed.2, hconsume, rfl⟩

/-- A closed resampler returns from `close` only, and with nothing. -/
theorem perform_of_closed {call : Call} (h : r.perform native call = .ok (result, r')) (hclosed : r.closed = true) :
    call = .close ∧ result = [] ∧ r' = r ∧ r.nativeFrames native call = [] := by
  cases call with
  | push buffer => exact absurd (hclosed.symm.trans (perform_push h).1) (by decide)
  | flush => exact absurd (hclosed.symm.trans (perform_flush h).1) (by decide)
  | close =>
      unfold perform close at h
      rw [if_pos hclosed] at h
      cases h
      exact ⟨rfl, rfl, rfl, if_pos hclosed⟩

/-- What a call makes of its native frames, with what is special to each of the three calls. -/
theorem perform_cut {call : Call} (hcarry : Carry r)
    (hnative : ∀ frame ∈ r.nativeFrames native call, r.channels ∣ frame.data.length)
    (h : r.perform native call = .ok (result, r')) :
    Cut r r' (r.nativeFrames native call) result ∧
      (∀ buffer, call = .push buffer → ∀ frame ∈ result, Whole r frame) ∧
      (call = .flush ∨ call = .close → r'.pending = []) := by
  by_cases hclosed : r.closed = true
  case pos =>
      obtain ⟨rfl, rfl, rfl, hnone⟩ := perform_of_closed h hclosed
      have hempty : r'.pending = [] := hcarry.closed hclosed
      constructor
      · constructor
        case conserved => rw [hnone]; exact (List.append_nil _).symm
        case carry => exact hcarry
        case counted => exact fun frame hframe => absurd hframe List.not_mem_nil
        case outputFrameSamples => rfl
        case channels => rfl
      · exact ⟨fun _ _ frame hframe => absurd hframe List.not_mem_nil, fun _ => hempty⟩
  case neg =>
      cases call with
      | push buffer =>
          obtain ⟨hopen, resampler, hconsume⟩ := perform_push h
          obtain ⟨hcut, hwhole, -⟩ := consume_cut (hcarry.nativeStep resampler) hopen hnative hconsume
          constructor
          · exact ⟨hcut.conserved, hcut.carry, hcut.counted, hcut.outputFrameSamples, hcut.channels⟩
          · exact ⟨fun _ _ => hwhole rfl, fun hcall => hcall.elim (fun h => by cases h) (fun h => by cases h)⟩
      | flush =>
          obtain ⟨hopen, resampler, hconsume⟩ := perform_flush h
          obtain ⟨hcut, -, hempty⟩ := consume_cut (hcarry.nativeStep resampler) hopen hnative hconsume
          constructor
          · exact ⟨hcut.conserved, hcut.carry, hcut.counted, hcut.outputFrameSamples, hcut.channels⟩
          · exact ⟨fun _ hcall => (by cases hcall), fun _ => hempty rfl⟩
      | close =>
          obtain ⟨resampler, r'', hconsume, rfl⟩ := perform_close h hclosed
          obtain ⟨hcut, -, hempty⟩ := consume_cut (hcarry.nativeStep resampler) (eq_false_of_ne_true hclosed) hnative hconsume
          have hcut' := hcut.closed (hempty rfl)
          constructor
          · exact ⟨hcut'.conserved, hcut'.carry, hcut'.counted, hcut'.outputFrameSamples, hcut'.channels⟩
          · exact ⟨fun _ hcall => (by cases hcall), fun _ => rfl⟩

/-- What every sequence of calls keeps. -/
structure Conserves (r : Pcm16LiveKitResampler ν) (calls : List Call) (resampled : Resampled ν) : Prop where
  conserved : (resampled.returned.flatMap fun entry => samples entry.2) ++ resampled.resampler.pending =
    r.pending ++ samples resampled.native
  carry : Carry resampled.resampler
  whole : ∀ entry ∈ resampled.returned, ∀ buffer, entry.1 = .push buffer → ∀ frame ∈ entry.2, Whole r frame
  counted : ∀ entry ∈ resampled.returned, ∀ frame ∈ entry.2, Counted frame
  performed : resampled.returned.map Prod.fst = calls
  emptied : calls.getLast? = some .flush ∨ calls.getLast? = some .close → resampled.resampler.pending = []
  outputFrameSamples : resampled.resampler.outputFrameSamples = r.outputFrameSamples
  channels : resampled.resampler.channels = r.channels

theorem performAll_conserves {calls : List Call} {resampled : Resampled ν} (hcarry : Carry r)
    (hnative : ∀ frame ∈ resampled.native, r.channels ∣ frame.data.length)
    (h : performAll native r calls = .ok resampled) : Conserves r calls resampled := by
  induction calls generalizing r resampled with
  | nil =>
      cases h
      constructor
      case conserved => exact (List.append_nil _).symm
      case carry => exact hcarry
      case whole => exact fun entry hentry => absurd hentry List.not_mem_nil
      case counted => exact fun entry hentry => absurd hentry List.not_mem_nil
      case performed => rfl
      case emptied => exact fun hlast => by cases hlast <;> contradiction
      case outputFrameSamples => rfl
      case channels => rfl
  | cons call calls ih =>
      unfold performAll at h
      cases hcall : r.perform native call with
      | error error =>
          rw [hcall] at h
          cases h
      | ok performed =>
          obtain ⟨frames, r'⟩ := performed
          rw [hcall] at h
          simp only at h
          cases hrun : performAll native r' calls with
          | error error =>
              rw [hrun] at h
              cases h
          | ok rest =>
              rw [hrun] at h
              cases h
              obtain ⟨hcut, hpush, hempty⟩ := perform_cut hcarry
                (fun frame hframe => hnative frame (List.mem_append_left _ hframe)) hcall
              have hrest : Conserves r' calls rest := ih hcut.carry
                (fun frame hframe => hcut.channels ▸ hnative frame (List.mem_append_right _ hframe)) hrun
              constructor
              case conserved =>
                show (samples frames ++ rest.returned.flatMap fun entry => samples entry.2) ++ rest.resampler.pending = _
                rw [List.append_assoc, hrest.conserved, samples_append, ← List.append_assoc, hcut.conserved,
                  List.append_assoc]
              case carry => exact hrest.carry
              case whole =>
                intro entry hentry buffer hbuffer frame hframe
                cases List.mem_cons.mp hentry with
                | inl hfirst =>
                    cases hfirst
                    exact hpush buffer hbuffer frame hframe
                | inr hlater =>
                    obtain ⟨hcount, hchannels, hlength⟩ := hrest.whole entry hlater buffer hbuffer frame hframe
                    rw [hcut.outputFrameSamples] at hcount hlength
                    rw [hcut.channels] at hchannels hlength
                    exact ⟨hcount, hchannels, hlength⟩
              case counted =>
                intro entry hentry frame hframe
                cases List.mem_cons.mp hentry with
                | inl hfirst =>
                    cases hfirst
                    exact hcut.counted frame hframe
                | inr hlater => exact hrest.counted entry hlater frame hframe
              case performed => exact congrArg (call :: ·) hrest.performed
              case emptied =>
                intro hlast
                cases calls with
                | nil =>
                    -- the call itself is the last one
                    cases hrun
                    apply hempty
                    simpa using hlast
                | cons next calls =>
                    rw [List.getLast?_cons_cons] at hlast
                    exact hrest.emptied hlast
              case outputFrameSamples => exact hrest.outputFrameSamples.trans hcut.outputFrameSamples
              case channels => exact hrest.channels.trans hcut.channels

theorem create_carry {inputRate outputRate channels frameDurationMs maxBufferedMs : Nat}
    (hcreate : create native inputRate outputRate channels frameDurationMs maxBufferedMs = .ok r) :
    Carry r ∧ r.pending = [] := by
  unfold create at hcreate
  split at hcreate
  · cases hcreate
  split at hcreate
  · cases hcreate
  split at hcreate
  · cases hcreate
  split at hcreate
  · cases hcreate
  split at hcreate
  · cases hcreate
  split at hcreate
  · cases hcreate
  split at hcreate
  case isFalse => cases hcreate
  rename_i hrate hchannels hduration _ _ hwhole
  split at hcreate
  · cases hcreate
  cases hcreate
  have hproduct : 0 < outputRate * frameDurationMs := Nat.mul_pos (by omega) (by omega)
  have hsamples : 0 < outputRate * frameDurationMs / 1000 :=
    Nat.div_pos (Nat.le_of_dvd hproduct (Nat.dvd_of_mod_eq_zero hwhole.2)) (by decide)
  constructor
  · exact ⟨Nat.mul_pos hsamples (Nat.pos_of_ne_zero hchannels), Nat.dvd_zero _, fun _ => rfl⟩
  · rfl

/-- The samples that the native resampler gave are those of the returned frames and the carry.  A `push` returns frames
of the full duration, `flush` and `close` leave nothing, and every frame counts its samples. -/
theorem resampler_conserves_samples {inputRate outputRate channels frameDurationMs maxBufferedMs : Nat}
    {calls : List Call} {resampled : Resampled ν}
    (hcreate : create native inputRate outputRate channels frameDurationMs maxBufferedMs = .ok r)
    (hrun : performAll native r calls = .ok resampled)
    (hgroups : ∀ frame ∈ resampled.native, r.channels ∣ frame.data.length) :
    ((resampled.returned.flatMap fun entry => samples entry.2) ++ resampled.resampler.pending =
        samples resampled.native) ∧
      (∀ entry ∈ resampled.returned, (¬ (entry.1 = .flush ∨ entry.1 = .close)) → ∀ frame ∈ entry.2,
        frame.samplesPerChannel = r.outputFrameSamples ∧
          frame.data.length = r.outputFrameSamples * r.channels) ∧
      (calls.getLast? = some .flush ∨ calls.getLast? = some .close → resampled.resampler.pending = []) ∧
      resampled.resampler.pending.length < r.outputFrameSamples * r.channels ∧
      ∀ entry ∈ resampled.returned, ∀ frame ∈ entry.2,
        frame.samplesPerChannel * frame.channels = frame.data.length := by
  obtain ⟨hcarry, hempty⟩ := create_carry hcreate
  have hkept : Conserves r calls resampled := performAll_conserves hcarry hgroups hrun
  constructor
  · rw [hkept.conserved, hempty, List.nil_append]
  constructor
  · intro entry hentry hother frame hframe
    obtain ⟨call, frames⟩ := entry
    cases call with
    | push buffer =>
        obtain ⟨hcount, -, hlength⟩ := hkept.whole _ hentry buffer rfl frame hframe
        exact ⟨hcount, hlength⟩
    | flush => exact absurd (Or.inl rfl) hother
    | close => exact absurd (Or.inr rfl) hother
  constructor
  · exact hkept.emptied
  constructor
  · rw [← hkept.outputFrameSamples, ← hkept.channels]
    exact hkept.carry.short
  · exact hkept.counted

/-- A native resampler that returns one frame of three sample groups for every frame, and one group at a flush. -/
def sampleNative : AudioResampler Unit where
  create := fun _ _ _ => some ()
  push := fun _ _ => some ([⟨[1, 2, 3, 4, 5, 6], 2000, 2, 3⟩], ())
  flush := fun _ => some ([⟨[7, 8], 2000, 2, 1⟩], ())

/-- Two channels, two groups a frame. -/
def sampleResampler : Pcm16LiveKitResampler Unit :=
  ⟨1000, 2000, 2, 1, 2, 12, [], false, ()⟩

/-- What one `push`, a `flush` and a `close` make. -/
def sampleResampled : Resampled Unit :=
  { returned :=
      [(.push [0, 0, 1, 0], [⟨[1, 2, 3, 4], 2000, 2, 2⟩]), (.flush, [⟨[5, 6, 7, 8], 2000, 2, 2⟩]),
        (.close, [⟨[7, 8], 2000, 2, 1⟩])]
    native := [⟨[1, 2, 3, 4, 5, 6], 2000, 2, 3⟩, ⟨[7, 8], 2000, 2, 1⟩, ⟨[7, 8], 2000, 2, 1⟩]
    resampler := { sampleResampler with closed := true } }

theorem resampler_conserves_samples_sample :
    create sampleNative 1000 2000 2 1 3 = .ok sampleResampler ∧
      performAll sampleNative sampleResampler [.push [0, 0, 1, 0], .flush, .close] = .ok sampleResampled ∧
      sampleResampled.resampler.pending = [] ∧
      (sampleResampled.returned.flatMap fun entry => samples entry.2) = samples sampleResampled.native := by
  have hcreate : create sampleNative 1000 2000 2 1 3 = .ok sampleResampler := rfl
  have hrun : performAll sampleNative sampleResampler [.push [0, 0, 1, 0], .flush, .close] = .ok sampleResampled := rfl
  have hkept := resampler_conserves_samples hcreate hrun (by decide)
  have hempty : sampleResampled.resampler.pending = [] := hkept.2.2.1 (by decide)
  have hconserved := hkept.1
  rw [hempty, List.append_nil] at hconserved
  exact ⟨hcreate, hrun, hempty, hconserved⟩

end Pcm16LiveKitResampler

end Media
end VoiceAssistants
