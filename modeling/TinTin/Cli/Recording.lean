/-
  Recording a voice note (`record_voice`): from the captured samples to the bytes of the file.

  The samples are averaged over the channels and converted to 16 bits, and the file is written by
  hand: the RIFF header, the fmt chunk and the header of the data chunk, whose size is written as
  the `usize` it is counted in.

  * `wavFile_wellFormed_iff`: the file is a WAV file exactly where a `usize` has four bytes.
  * `recorded_wav`: with eight, no recording gives a WAV file.
  * `recording_of_one_sample`: such a file, byte by byte.
-/
import TinTin.Core.Keys
import TinTin.Lib.LittleEndian

namespace TinTin.Cli

open TinTin.Lib TinTin.Core

/-! ## `record_voice` -/

/-- `clamp(-32768.0, 32767.0)` -/
def clampSample (x : Float32) : Float32 :=
  if x < -32768 then -32768 else if x > 32767 then 32767 else x

/-- The average of a frame, in 16 bits. -/
def frameSample (channels : UInt16) (frame : List Float32) : Int16 :=
  let sum := frame.foldl (fun sum sample => sum + sample) 0
  (clampSample (sum / channels.toFloat32 * 32767)).toInt16

/-- "Convert f32 samples to 16-bit PCM, average channels to mono": the whole frames. -/
def pcmData (channels : UInt16) (samples : List Float32) : List Int16 :=
  (List.range (samples.length / channels.toNat)).map fun frame =>
    frameSample channels (field (frame * channels.toNat) channels.toNat samples)

/-- The bytes of an ASCII text. -/
def ascii (s : String) : Bytes := s.toList.map fun c => UInt8.ofNat c.toNat

example : ascii "RIFF" = [82, 73, 70, 70] := by decide

/-- The samples, two bytes each. -/
def pcmBytes (pcm : List Int16) : Bytes := pcm.flatMap fun s => leBytes 2 s.toUInt16.toNat

/-- The RIFF header and the fmt chunk. Arithmetic on 32 bits wraps around. -/
def wavHeader (sampleRate : UInt32) (dataSize : ℕ) : List Bytes :=
  [ascii "RIFF", leBytes 4 ((36 : UInt32) + UInt32.ofNat dataSize).toNat, ascii "WAVE",
    ascii "fmt ", leBytes 4 16, leBytes 2 1, leBytes 2 1, leBytes 4 sampleRate.toNat,
    leBytes 4 (sampleRate * 2 * 1).toNat, leBytes 2 2, leBytes 2 16]

/-- The bytes that are written, with a `usize` of so many bytes. -/
def wavFile (usize : ℕ) (sampleRate : UInt32) (pcm : List Int16) : Bytes :=
  let dataSize := pcm.length * 2
  (wavHeader sampleRate dataSize ++ [ascii "data", leBytes usize dataSize]).flatten ++ pcmBytes pcm

inductive RecordError
  | noAudio
  | panicked
  deriving DecidableEq, Repr

/-- `record_voice` on a 64-bit target, once the samples are captured. A build with overflow checks
    panics where a sum or product does not fit its 32 bits. -/
def recordVoice (checks : Bool) (sampleRate : UInt32) (channels : UInt16)
    (samples : List Float32) : Except RecordError Bytes :=
  if samples.length = 0 then .error .noAudio
  else if channels.toNat = 0 then .error .panicked
  else
    let pcm := pcmData channels samples
    if checks && decide (2 ^ 32 ≤ 36 + pcm.length * 2 % 2 ^ 32 ∨
        2 ^ 32 ≤ sampleRate.toNat * 2) then .error .panicked
    else .ok (wavFile 8 sampleRate pcm)

/-! ## WAV files -/

/-- The samples of a data chunk. -/
def readPcm : Bytes → Option (List Int16)
  | [] => some []
  | [_] => none
  | a :: b :: rest => (readPcm rest).map ((UInt16.ofNat (readLe [a, b])).toInt16 :: ·)

/-- **A RIFF/WAVE file** of 16-bit mono samples: a fmt chunk of 16 bytes and a data chunk. -/
structure WellFormed (file : Bytes) (rate : UInt32) (pcm : List Int16) : Prop where
  riff : field 0 4 file = ascii "RIFF"
  riffSize : readLe (field 4 4 file) + 8 = file.length
  wave : field 8 4 file = ascii "WAVE"
  fmt : field 12 4 file = ascii "fmt "
  fmtSize : readLe (field 16 4 file) = 16
  format : readLe (field 20 2 file) = 1
  channels : readLe (field 22 2 file) = 1
  sampleRate : readLe (field 24 4 file) = rate.toNat
  byteRate : readLe (field 28 4 file) = rate.toNat * readLe (field 32 2 file)
  blockAlign : readLe (field 32 2 file) = 2
  bitsPerSample : readLe (field 34 2 file) = 16
  data : field 36 4 file = ascii "data"
  dataSize : readLe (field 40 4 file) = (file.drop 44).length
  samples : readPcm (file.drop 44) = some pcm

theorem length_pcmBytes (pcm : List Int16) : (pcmBytes pcm).length = pcm.length * 2 := by
  unfold pcmBytes
  induction pcm with
  | nil => rfl
  | cons s pcm ih =>
    rw [List.flatMap_cons, List.length_append, length_leBytes, ih, List.length_cons]
    omega

theorem readPcm_pcmBytes (pcm : List Int16) : readPcm (pcmBytes pcm) = some pcm := by
  unfold pcmBytes
  induction pcm with
  | nil => rfl
  | cons s pcm ih =>
    have hread : readLe (leBytes 2 s.toUInt16.toNat) = s.toUInt16.toNat :=
      readLe_leBytes_of_lt s.toUInt16.toNat_lt
    have htwo : leBytes 2 s.toUInt16.toNat =
        [UInt8.ofNat s.toUInt16.toNat, UInt8.ofNat (s.toUInt16.toNat / 256)] := rfl
    rw [List.flatMap_cons]
    rw [htwo] at hread ⊢
    show (readPcm (pcm.flatMap fun s => leBytes 2 s.toUInt16.toNat)).map _ = _
    rw [ih, hread, Option.map_some, UInt16.ofNat_toNat, Int16.toInt16_toUInt16]

/-! ## The fields of the file -/

/-- The blocks before the samples. -/
def wavBlocks (usize : ℕ) (rate : UInt32) (dataSize : ℕ) : List Bytes :=
  wavHeader rate dataSize ++ [ascii "data", leBytes usize dataSize]

theorem field_wavFile (usize : ℕ) (rate : UInt32) (pcm : List Int16) (k : ℕ)
    (hk : k < (wavBlocks usize rate (pcm.length * 2)).length) :
    field ((wavBlocks usize rate (pcm.length * 2)).take k).flatten.length
      (wavBlocks usize rate (pcm.length * 2))[k].length (wavFile usize rate pcm) =
        (wavBlocks usize rate (pcm.length * 2))[k] :=
  field_flatten _ _ k hk

theorem length_wavFile (usize : ℕ) (rate : UInt32) (pcm : List Int16) :
    (wavFile usize rate pcm).length = 40 + usize + pcm.length * 2 := by
  have hblocks : (wavBlocks usize rate (pcm.length * 2)).flatten.length = 40 + usize := by
    unfold wavBlocks
    rw [List.flatten_append, List.length_append]
    show 36 + (ascii "data" ++ (leBytes usize (pcm.length * 2) ++ [])).length = _
    rw [List.append_nil, List.length_append, length_leBytes]
    show 36 + (4 + usize) = _
    omega
  show (_ ++ pcmBytes pcm).length = _
  rw [List.length_append, length_pcmBytes, ← hblocks]
  rfl

/-- The RIFF size counts a data size of four bytes. -/
theorem riffSize_wavFile (usize : ℕ) (rate : UInt32) (pcm : List Int16) :
    readLe (field 4 4 (wavFile usize rate pcm)) = (36 + pcm.length * 2) % 2 ^ 32 := by
  have hfield : field 4 4 (wavFile usize rate pcm) =
      leBytes 4 ((36 : UInt32) + UInt32.ofNat (pcm.length * 2)).toNat :=
    field_wavFile usize rate pcm 1 (show 1 < 13 by decide)
  rw [hfield, readLe_leBytes, UInt32.toNat_add]
  simp

/-- What follows the data header of four bytes. -/
theorem drop_wavFile (rate : UInt32) (pcm : List Int16) :
    (wavFile 4 rate pcm).drop 44 = pcmBytes pcm :=
  rfl

/-- **The file is a WAV file** exactly where a `usize` has four bytes, sizes and rates in range. -/
theorem wavFile_wellFormed_iff (usize : ℕ) {rate : UInt32} {pcm : List Int16}
    (hsize : 36 + pcm.length * 2 < 2 ^ 32) (hrate : rate.toNat * 2 < 2 ^ 32) :
    WellFormed (wavFile usize rate pcm) rate pcm ↔ usize = 4 := by
  have hriff := riffSize_wavFile usize rate pcm
  have hlength := length_wavFile usize rate pcm
  rw [Nat.mod_eq_of_lt hsize] at hriff
  constructor
  · intro h
    have hclaimed := h.riffSize
    omega
  · rintro rfl
    have hfield := field_wavFile 4 rate pcm
    have hbyteRate : (rate * 2 * 1).toNat = rate.toNat * 2 := by
      rw [UInt32.toNat_mul, UInt32.toNat_mul]
      show rate.toNat * 2 % 2 ^ 32 * 1 % 2 ^ 32 = _
      omega
    have hsamples : readLe (leBytes 4 (pcm.length * 2)) = pcm.length * 2 :=
      readLe_leBytes_of_lt (by omega)
    have hblockAlign : readLe (field 32 2 (wavFile 4 rate pcm)) = 2 :=
      congrArg readLe (hfield 9 (show 9 < 13 by decide))
    exact
      { riff := hfield 0 (show 0 < 13 by decide)
        riffSize := by omega
        wave := hfield 2 (show 2 < 13 by decide)
        fmt := hfield 3 (show 3 < 13 by decide)
        fmtSize := congrArg readLe (hfield 4 (show 4 < 13 by decide))
        format := congrArg readLe (hfield 5 (show 5 < 13 by decide))
        channels := congrArg readLe (hfield 6 (show 6 < 13 by decide))
        sampleRate := (congrArg readLe (hfield 7 (show 7 < 13 by decide))).trans
          (readLe_leBytes_of_lt rate.toNat_lt)
        byteRate := by
          rw [hblockAlign, ← hbyteRate]
          exact (congrArg readLe (hfield 8 (show 8 < 13 by decide))).trans
            (readLe_leBytes_of_lt (rate * 2 * 1).toNat_lt)
        blockAlign := hblockAlign
        bitsPerSample := congrArg readLe (hfield 10 (show 10 < 13 by decide))
        data := hfield 11 (show 11 < 13 by decide)
        dataSize := by
          rw [drop_wavFile, length_pcmBytes, ← hsamples]
          exact congrArg readLe (hfield 12 (show 12 < 13 by decide))
        samples := by rw [drop_wavFile, readPcm_pcmBytes] }

/-! ## Recordings -/

/-- **No recording** on a 64-bit target gives a WAV file, with whatever samples, channels and
    rate. -/
theorem recorded_wav (checks : Bool) (rate : UInt32) (channels : UInt16)
    (samples : List Float32) :
    ¬ ∃ file, recordVoice checks rate channels samples = .ok file ∧
      WellFormed file rate (pcmData channels samples) := by
  rintro ⟨file, hrecord, hwav⟩
  unfold recordVoice at hrecord
  split at hrecord
  · cases hrecord
  split at hrecord
  · cases hrecord
  dsimp only at hrecord
  split at hrecord
  · cases hrecord
  obtain rfl := Except.ok.inj hrecord
  -- the RIFF size is four bytes short, also where it wraps around
  have hclaimed := hwav.riffSize
  rw [riffSize_wavFile, length_wavFile] at hclaimed
  have hle := Nat.mod_le (36 + (pcmData channels samples).length * 2) (2 ^ 32)
  omega

/-- One sample in mono: the file has 50 bytes where its header announces 46, and four bytes of
    the data size are read as two samples. -/
theorem recording_of_one_sample : ∃ file,
    recordVoice true 44100 1 [0.5] = .ok file ∧ file.length = 50 ∧
    readLe (field 4 4 file) + 8 = 46 ∧
    field 36 12 file = ascii "data" ++ [2, 0, 0, 0, 0, 0, 0, 0] ∧
    readLe (field 40 4 file) = 2 ∧ (file.drop 44).length = 6 ∧
    ¬ WellFormed file 44100 (pcmData 1 [0.5]) := by
  have hone : (pcmData 1 [0.5]).length = 1 := rfl
  have hsize : readLe (field 4 4 (wavFile 8 44100 (pcmData 1 [0.5]))) + 8 = 46 := by
    rw [riffSize_wavFile, hone]
    rfl
  have hlength : (wavFile 8 44100 (pcmData 1 [0.5])).length = 50 := by
    rw [length_wavFile, hone]
  refine ⟨wavFile 8 44100 (pcmData 1 [0.5]), rfl, hlength, hsize, rfl, rfl, rfl, fun h => ?_⟩
  have hclaimed := h.riffSize
  omega

end TinTin.Cli
