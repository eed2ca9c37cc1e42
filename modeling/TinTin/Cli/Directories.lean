/-
  Where the files of a peer are written: `process_file_chunk` to the downloads directory,
  `display_decrypted` a custom sticker to the stickers directory, and `process_media_chunk` to the
  recordings directory.

  * `directories`: a path is just below its directory if the name that the payload gives names a
    child of it. The name of a recording always does.
-/
import TinTin.Cli.Media
import TinTin.Cli.Transfers
import TinTin.Lib.FilePath

namespace TinTin.Cli

open TinTin.Lib TinTin.Core TinTin.Symbolic

variable {Key : Type}

/-! ## Paths -/

/-- `PathBuf::from(home).join(".tintin").join(name)` -/
def tintinDir (home name : String) : String := FilePath.join (FilePath.join home ".tintin") name

def downloadsDir (home : String) : String := tintinDir home "downloads"

def stickerDir (home : String) : String := tintinDir home "stickers"

def recordingsDir (home : String) : String := tintinDir home "recordings"

/-- Read from the directory `cwd`, the path leads to a child of the directory. -/
def DirectChild (cwd : List String) (dir path : String) : Prop :=
  ∃ name, FilePath.resolve cwd path = FilePath.resolve cwd dir ++ [name]

theorem directChild_iff (cwd : List String) (dir name : String) :
    DirectChild cwd dir (FilePath.join dir name) ↔
      FilePath.NamesChild (FilePath.resolve cwd dir) name := by
  unfold DirectChild
  rw [FilePath.resolve_join]
  exact FilePath.resolve_child_iff _ _

variable (X : Crates Key) (M : MediaCrates) (home : String)

/-- The paths that `process_file_chunk` writes to. -/
def filePaths (c : Client Key) (plaintext : Bytes) : List String :=
  (c.writes X plaintext).map fun file => FilePath.join (downloadsDir home) file.1

/-- The path that `display_decrypted` writes to. -/
def stickerPath (stamp : ℕ) (plaintext : Bytes) : Option String :=
  (Client.displaySticker X stamp plaintext).map fun file =>
    FilePath.join (stickerDir home) file.1

/-- The path that `process_media_chunk` writes to. -/
def recordingPath (c : Client Key) (sender : String) (plaintext : Bytes) : Option String :=
  (c.processMediaChunk X M sender plaintext).2.map fun file =>
    FilePath.join (recordingsDir home) file.1

/-- The `sticker_name` of a payload. -/
def stickerName (plaintext : Bytes) : String :=
  (((X.fromSlice plaintext).map fun payload => payload.index "sticker_name").bind
    Json.asStr).getD "sticker"

/-! ## Names -/

variable {X M home}

theorem slash_notMem_recordingName (hM : M.isAlphanumeric '/' = false) (sender : String)
    (seq : UInt64) : '/' ∉ (Client.recordingName M sender seq).toList := by
  have hsender : '/' ∉ (sender.map fun ch => if M.isAlphanumeric ch then ch else '_').toList := by
    rw [String.toList_map]
    intro h
    obtain ⟨ch, -, hch⟩ := List.mem_map.mp h
    split_ifs at hch with halnum
    · rw [hch, hM] at halnum
      cases halnum
    · exact absurd hch (by decide)
  have hseq : '/' ∉ (toString seq.toNat).toList := by
    intro h
    have hdigit := Nat.isDigit_of_mem_toDigits (b := 10) (by decide) (by decide)
      (n := seq.toNat) (c := '/') (by simpa [toString, Nat.repr] using h)
    exact absurd hdigit (by decide)
  unfold Client.recordingName
  simp only [String.toList_append, List.mem_append, not_or]
  exact ⟨⟨⟨⟨by decide, hsender⟩, by decide⟩, hseq⟩, by decide⟩

theorem namesChild_recordingName (hM : M.isAlphanumeric '/' = false) (dir : List String)
    (sender : String) (seq : UInt64) : FilePath.NamesChild dir (Client.recordingName M sender seq) := by
  have hlong : 11 ≤ (Client.recordingName M sender seq).toList.length := by
    unfold Client.recordingName
    simp only [String.toList_append, List.length_append]
    have : ("call_media_" : String).toList.length = 11 := rfl
    omega
  have hne : ∀ short : String, short.toList.length < 11 → Client.recordingName M sender seq ≠ short := by
    intro short hshort heq
    rw [heq] at hlong
    omega
  exact FilePath.namesChild_of_name (slash_notMem_recordingName hM sender seq)
    (hne "" (by decide)) (hne "." (by decide)) (hne ".." (by decide))

/-- The sticker that is written has the name of the payload in front. -/
theorem displaySticker_name {stamp : ℕ} {plaintext : Bytes} {file : String × Bytes}
    (h : Client.displaySticker X stamp plaintext = some file) :
    file.1 = stickerName X plaintext ++ "_" ++ toString stamp ++ ".jpg" := by
  unfold Client.displaySticker at h
  unfold stickerName
  cases hv : X.fromSlice plaintext with
  | none =>
    rw [hv] at h
    cases h
  | some payload =>
    rw [hv] at h
    dsimp only at h
    split_ifs at h
    split at h
    · cases h
    · obtain rfl := Option.some.inj h
      rfl

theorem processMediaChunk_name {c : Client Key} {sender : String} {plaintext : Bytes}
    {file : String × Bytes} (h : (c.processMediaChunk X M sender plaintext).2 = some file) :
    ∃ seq, file.1 = Client.recordingName M sender seq := by
  have hnone : ∀ b : Bool, ((b, none) : Bool × Option (String × Bytes)).2 ≠ some file := by
    intro b heq
    cases heq
  unfold Client.processMediaChunk at h
  split at h
  · exact absurd h (hnone _)
  · split at h
    · exact absurd h (hnone _)
    · split at h
      · exact absurd h (hnone _)
      · split at h
        · exact absurd h (hnone _)
        · dsimp only at h
          split at h
          · exact absurd h (hnone _)
          · split at h
            · split at h
              · obtain rfl := Option.some.inj h
                exact ⟨_, rfl⟩
              · exact absurd h (hnone _)
            · exact absurd h (hnone _)

/-- **The paths that a payload of a peer is written to**, in any state of the client and for any
    home directory: that of a file is just below the downloads directory when the name that its
    entry was made with names a child of it, that of a sticker below the stickers directory when
    its name does, and that of a recording always is below the recordings directory. -/
theorem directories (X : Crates Key) (M : MediaCrates) (hM : M.isAlphanumeric '/' = false)
    (cwd : List String) (home : String) (c : Client Key) (plaintext : Bytes) :
    (∀ k, readFragment X plaintext = some k → ∀ path ∈ filePaths X home c plaintext,
      (DirectChild cwd (downloadsDir home) path ↔
        FilePath.NamesChild (FilePath.resolve cwd (downloadsDir home))
          ((c.pendingFiles.lookup k.fileId).getD k.announced).fileName)) ∧
    (∀ stamp path, stickerPath X home stamp plaintext = some path →
      (DirectChild cwd (stickerDir home) path ↔
        FilePath.NamesChild (FilePath.resolve cwd (stickerDir home))
          (stickerName X plaintext ++ "_" ++ toString stamp ++ ".jpg"))) ∧
    ∀ sender path, recordingPath X M home c sender plaintext = some path →
      DirectChild cwd (recordingsDir home) path := by
  refine ⟨fun k hk path hpath => ?_, fun stamp path hpath => ?_, fun sender path hpath => ?_⟩
  · obtain ⟨file, hfile, rfl⟩ := List.mem_map.mp hpath
    rw [Client.writes_fragment hk] at hfile
    split_ifs at hfile
    · obtain rfl := List.mem_singleton.mp hfile
      exact directChild_iff cwd _ _
    · cases hfile
  · obtain ⟨file, hfile, rfl⟩ := Option.map_eq_some_iff.mp hpath
    rw [← displaySticker_name hfile]
    exact directChild_iff cwd _ _
  · obtain ⟨file, hfile, rfl⟩ := Option.map_eq_some_iff.mp hpath
    obtain ⟨seq, hname⟩ := processMediaChunk_name hfile
    rw [directChild_iff, hname]
    exact namesChild_recordingName hM _ sender seq

theorem directories_notes : "/home/bob/.tintin/downloads/notes.txt" ∈ filePaths textCrates
      "/home/bob" (afterOne 0 [104]) (notesArrival "alice" 1 [105]).plaintext ∧
    DirectChild [] (downloadsDir "/home/bob") "/home/bob/.tintin/downloads/notes.txt" := by
  have hpath : "/home/bob/.tintin/downloads/notes.txt" ∈ filePaths textCrates "/home/bob"
      (afterOne 0 [104]) (notesArrival "alice" 1 [105]).plaintext := by
    unfold filePaths
    rw [writes_two (by decide) "alice"]
    exact List.mem_singleton.mpr (by decide)
  have hname : (((afterOne 0 [104]).pendingFiles.lookup (notesChunk 1 [105]).fileId).getD
      (notesChunk 1 [105]).announced).fileName = "notes.txt" := by
    unfold afterOne
    rw [show (notesChunk 1 [105]).fileId = "1f" from rfl, AList.lookup_insert]
    rfl
  refine ⟨hpath, ((directories textCrates Client.hexMedia (by decide) [] "/home/bob"
    (afterOne 0 [104]) _).1 _ (readFragment_notes "alice" 1 [105]) _ hpath).mpr ?_⟩
  rw [hname]
  exact FilePath.namesChild_of_name (by decide) (by decide) (by decide) (by decide)

/-! ### A way out of the downloads directory -/

/-- A file of one chunk whose name goes up. -/
def climbingChunk : Fragment := ⟨"1f", "../../.bashrc", 1, 1, 0, [104]⟩

theorem climbing_file : "/home/bob/.tintin/downloads/../../.bashrc" ∈
      filePaths textCrates "/home/bob" bobReceiving (climbingChunk.payload textWriters) ∧
    FilePath.resolve [] "/home/bob/.tintin/downloads/../../.bashrc" = ["home", "bob", ".bashrc"] ∧
    ¬ DirectChild [] (downloadsDir "/home/bob") "/home/bob/.tintin/downloads/../../.bashrc" := by
  refine ⟨?_, by decide, ?_⟩
  · unfold filePaths
    rw [Client.writes_fragment (readFragment_payload textWriters_readBy climbingChunk),
      if_pos ⟨by decide, by decide⟩]
    exact List.mem_singleton.mpr (by decide)
  · rintro ⟨name, h⟩
    have hlen := congrArg List.length h
    rw [List.length_append, List.length_singleton] at hlen
    revert hlen
    decide

end TinTin.Cli
