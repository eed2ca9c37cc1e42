/-
  The arithmetic of file transfers.

  * `sendFileInner_inRange_iff`: a send panics for an image that the recompression makes larger.
  * `processFileChunk_inRange_iff`: a payload makes its receiver panic when the entry it goes into
    was announced with no chunks, and when it completes one that was announced too large.
  * `arithmetic_inRange`: so for every file and every payload.
-/
import TinTin.Cli.Delivery
import TinTin.Cli.SendFile
import TinTin.Cli.Fragments

namespace TinTin.Cli

open TinTin.Lib TinTin.Core TinTin.Symbolic

variable {Key : Type}

/-- An image that is recompressed gets at most a percent larger, and not past 64 bits when its
    size is taken a hundred times. -/
def FitsRecompressed (io : FileInput Key) (filePath : String) (voice isHd : Bool) : Prop :=
  ∀ data img compressed, io.contents = some data → isImageName filePath = true →
    voice = false → isHd = false → io.image = some img → img.compressed = some compressed →
    0 < data.1.length → compressed.1.length * 100 < 2 ^ 64 ∧
      compressed.1.length * 100 < data.1.length * 101

/-- The entry that a payload goes into has chunks to come, and a size that a vector can have if the
    payload completes it. -/
def FitsEntry (X : Crates Key) (c : Client Key) (plaintext : Bytes) : Prop :=
  ∀ k, readFragment X plaintext = some k → (c.entryFor k).totalChunks ≠ 0 ∧
    ((c.entryFor k).full = true → (c.entryFor k).fileSize.toNat < 2 ^ 63)

namespace Client

variable {X : Crates Key} {W : Writers Key}

theorem compress_panics_iff (io : FileInput Key) (data : ByteVec) (isImage voice isHd : Bool) :
    compress W io data isImage voice isHd = .error .panicked ↔
      isImage = true ∧ voice = false ∧ isHd = false ∧ ∃ img compressed, io.image = some img ∧
        img.compressed = some compressed ∧
        (compressionPct data.1.length compressed.1.length).isSome = false := by
  unfold compress
  have hwhen : (isImage && !isHd && !voice) = true ↔
      isImage = true ∧ voice = false ∧ isHd = false := by
    cases isImage <;> cases isHd <;> cases voice <;> decide
  by_cases hdo : (isImage && !isHd && !voice) = true
  · obtain ⟨himage, hvoice, hhd⟩ := hwhen.mp hdo
    rw [if_pos hdo]
    cases hi : io.image with
    | none => simp
    | some img =>
      dsimp only
      cases hj : img.compressed with
      | none => simp [hj]
      | some compressed =>
        dsimp only
        cases hp : compressionPct data.1.length compressed.1.length with
        | none =>
          exact iff_of_true rfl ⟨himage, hvoice, hhd, img, compressed, rfl, hj, by rw [hp]; rfl⟩
        | some pct =>
          refine iff_of_false ?_ ?_
          · dsimp only
            cases img.thumbnail <;> exact fun h => by cases h
          · rintro ⟨-, -, -, img', compressed', hi', hj', hsome⟩
            obtain rfl := Option.some.inj hi'
            obtain rfl := Option.some.inj (hj.symm.trans hj')
            rw [hp] at hsome
            cases hsome
  · rw [if_neg hdo]
    refine iff_of_false (fun h => by cases h) fun h => hdo (hwhen.mpr ⟨h.1, h.2.1, h.2.2.1⟩)

/-- **A send** is in range for every file but an image that the recompression makes larger. -/
theorem sendFileInner_inRange_iff (X : Crates Key) (W : Writers Key) (io : FileInput Key)
    (c : Client Key) (recipient filePath : String) (voice isHd : Bool) :
    (c.sendFileInner X W io recipient filePath voice isHd).1 ≠ .error .panicked ↔
      FitsRecompressed io filePath voice isHd := by
  have hupload : (c.sendFileInner X W io recipient filePath voice isHd).1 = .error .panicked ↔
      ∃ data, io.contents = some data ∧
        compress W io data (isImageName filePath) voice isHd = .error .panicked := by
    unfold sendFileInner uploadOf
    cases io.contents with
    | none => simp
    | some data =>
      dsimp only
      cases hc : compress W io data (isImageName filePath) voice isHd with
      | error e => simp [hc]
      | ok r =>
        refine iff_of_false ?_ (by simp [hc])
        dsimp only
        generalize c.sendChunks X io recipient 0 _ = sent
        obtain ⟨result, c', queued⟩ := sent
        cases result <;> simp
  rw [ne_eq, hupload]
  unfold FitsRecompressed
  constructor
  · intro hnot data img compressed hdata himage hvoice hhd hi hj
    apply (compressionPct_isSome_iff _ _).mp
    by_contra hsome
    rw [Bool.not_eq_true] at hsome
    exact hnot ⟨data, hdata, (compress_panics_iff io data _ _ _).mpr
      ⟨himage, hvoice, hhd, img, compressed, hi, hj, hsome⟩⟩
  · rintro hfits ⟨data, hdata, hpanics⟩
    obtain ⟨himage, hvoice, hhd, img, compressed, hi, hj, hsome⟩ :=
      (compress_panics_iff io data _ _ _).mp hpanics
    rw [(compressionPct_isSome_iff _ _).mpr
      (hfits data img compressed hdata himage hvoice hhd hi hj)] at hsome
    cases hsome

/-- An entry of no chunks is never full: it has the chunk that has just come. -/
theorem not_full_of_zero {c : Client Key} {k : Fragment}
    (h : (c.entryFor k).totalChunks = 0) : ¬ (c.entryFor k).full = true := by
  intro hfull
  unfold PendingFile.full at hfull
  rw [beq_iff_eq, h] at hfull
  have hnil := List.eq_nil_of_length_eq_zero hfull
  have hmem : k.chunkIndex ∈ (c.entryFor k).receivedChunks :=
    (AList.mem_insert _).mpr (.inl rfl)
  rw [AList.mem_keys, AList.keys, hnil] at hmem
  exact absurd hmem List.not_mem_nil

/-- **A payload** is in range for every state of the pending files in which its entry fits. -/
theorem processFileChunk_inRange_iff (c : Client Key) (plaintext : Bytes) :
    c.processFileChunk X plaintext ≠ none ↔ FitsEntry X c plaintext := by
  unfold FitsEntry
  cases hk : readFragment X plaintext with
  | none =>
    rw [processFileChunk_other hk]
    simp
  | some k =>
    rw [processFileChunk_fragment hk]
    simp only [Option.some.injEq, forall_eq']
    by_cases hfull : (c.entryFor k).full = true
    · have htotal : (c.entryFor k).totalChunks ≠ 0 := by
        intro hzero
        exact absurd hfull (not_full_of_zero hzero)
      by_cases hsize : (c.entryFor k).fileSize.toNat < 2 ^ 63
      · rw [if_pos hfull, if_pos hsize]
        exact iff_of_true (by simp) ⟨htotal, fun _ => hsize⟩
      · rw [if_pos hfull, if_neg hsize]
        exact iff_of_false (by simp) fun h => hsize (h.2 hfull)
    · by_cases htotal : (c.entryFor k).totalChunks = 0 <;> simp [hfull, htotal]

end Client

/-- **When the arithmetic of file transfers is in range**: for a file that is sent, whatever the
    image crate makes of it, and for a decrypted payload in any state of the pending files. -/
theorem arithmetic_inRange (X : Crates Key) (W : Writers Key) :
    (∀ io (c : Client Key) recipient filePath voice isHd,
      (c.sendFileInner X W io recipient filePath voice isHd).1 ≠ .error .panicked ↔
        FitsRecompressed io filePath voice isHd) ∧
    ∀ (c : Client Key) plaintext,
      c.processFileChunk X plaintext ≠ none ↔ FitsEntry X c plaintext :=
  ⟨Client.sendFileInner_inRange_iff X W, Client.processFileChunk_inRange_iff⟩

/-! ### An image that grows, and a file of no chunks -/

/-- A picture of 10 bytes whose JPEG has 20. -/
def growingPicture : FileInput Term where
  contents := some ⟨List.replicate 10 0, by rw [List.length_replicate]; norm_num⟩
  image := some
    { width := 1
      height := 1
      compressed := some ⟨List.replicate 20 0, by rw [List.length_replicate]; norm_num⟩
      thumbnail := none }
  nanos := 31
  draw := freshSendInput
  bundle := none
  outcome := fun _ => .accepted
  trackedAt := 0

/-- A payload that leaves out the number of chunks, as a peer may write it. -/
def noChunks : Fragment := ⟨"1f", "notes.txt", 2, 0, 0, [104]⟩

theorem out_of_range :
    ((Client.new symbolic (.secret 0) (.secret 1) "alice").sendFileInner textCrates textWriters
      growingPicture "bob" "/home/alice/dot.png" false false).1 = .error .panicked ∧
    (Client.new symbolic (.secret 0) (.secret 1) "bob").processFileChunk textCrates
      (noChunks.payload textWriters) = none := by
  constructor
  · have himage : isImageName "/home/alice/dot.png" = true := by decide
    have hpanics := (Client.compress_panics_iff (W := textWriters) growingPicture
      ⟨List.replicate 10 0, by rw [List.length_replicate]; norm_num⟩ true false false).mpr
      ⟨rfl, rfl, rfl, _, _, rfl, rfl, rfl⟩
    unfold Client.sendFileInner Client.uploadOf
    rw [himage]
    dsimp only [growingPicture] at hpanics ⊢
    rw [hpanics]
  · rw [Client.processFileChunk_fragment (readFragment_payload textWriters_readBy noChunks)]
    rfl

end TinTin.Cli
