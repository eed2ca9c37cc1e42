/-
  Files in chunks: `send_file_inner` after it has read and perhaps recompressed the file, and
  `process_file_chunk` on what it sends.

  An `Upload` is a file with what the payloads say of it. A `Chunk` is one of its payloads, so
  it has a piece of the file.

  * `processFileChunk_payload`: what a received chunk does.
  * `file_reassembled`: chunks of a file in any order and with repetitions, among chunks of
    other files. The last distinct one writes the file and clears its entry, and no earlier
    one writes anything.
-/
import TinTin.Cli.Payload
import TinTin.Cli.Text
import TinTin.Lib.Chunks

namespace TinTin.Cli

open TinTin.Lib TinTin.Core TinTin.Symbolic

variable {Key : Type}

/-! ## Sending -/

/-- A file on its way out. `Vec<u8>` holds at most `isize::MAX` bytes. -/
structure Upload where
  /-- sent by `send_voice` -/
  voice : Bool
  /-- the clock in nanoseconds -/
  nanos : ℕ
  fileName : String
  /-- the name's extension is that of an image -/
  isImage : Bool
  /-- the thumbnail in Base64; empty without one -/
  thumbnail : String
  data : Bytes
  data_lt : data.length < 2 ^ 63

/-- 256 KB per chunk. -/
def chunkSize : ℕ := 256 * 1024

namespace Upload

/-- `format!("{:x}", nanos)` -/
def fileId (u : Upload) : String := String.ofList (Nat.toDigits 16 u.nanos)

/-- `msg_type` -/
def msgType (u : Upload) : String := if u.voice then "voice" else "file"

def totalChunks (u : Upload) : ℕ :=
  if u.data = [] then 1 else (u.data.length + chunkSize - 1) / chunkSize

/-- `file_data.chunks(CHUNK_SIZE)` -/
def pieces (u : Upload) : List Bytes := chunks chunkSize u.data

/-- The payload for the piece at place `i`. -/
def members (W : Writers Key) (u : Upload) (i : ℕ) (piece : Bytes) : List (String × Json) :=
  [("__tintin_type", .string u.msgType),
    ("chunk_index", .number (.posInt (UInt64.ofNat i))),
    ("data", .string (W.base64Encode piece)),
    ("file_id", .string u.fileId),
    ("file_name", .string u.fileName),
    ("file_size", .number (.posInt (UInt64.ofNat u.data.length))),
    ("is_image", .bool (u.isImage && u.thumbnail != "")),
    ("original_height", .number (.posInt 0)),
    ("original_width", .number (.posInt 0))] ++
  (if i = 0 ∧ u.thumbnail ≠ "" then [("thumbnail", .string u.thumbnail)] else []) ++
  [("total_chunks", .number (.posInt (UInt64.ofNat u.totalChunks)))]

/-- What `send_file_inner` encrypts, in order. -/
def payloads (W : Writers Key) (u : Upload) : List Bytes :=
  u.pieces.mapIdx fun i piece => utf8 (W.toString (.object (u.members W i piece)))

theorem flatten_pieces (u : Upload) : u.pieces.flatten = u.data :=
  flatten_chunks (by decide) u.data

/-- A file that is not empty has as many pieces as its payloads say. -/
theorem length_pieces {u : Upload} (h : u.data ≠ []) : u.pieces.length = u.totalChunks := by
  unfold totalChunks pieces
  rw [if_neg h, length_chunks (by decide)]

theorem totalChunks_lt (u : Upload) : u.totalChunks < 2 ^ 64 := by
  have := u.data_lt
  unfold totalChunks
  split_ifs
  · norm_num
  · have := Nat.div_le_self (u.data.length + chunkSize - 1) chunkSize
    have : chunkSize = 262144 := rfl
    omega

theorem members_flat (W : Writers Key) (u : Upload) (i : ℕ) (piece : Bytes) :
    Json.Flat (u.members W i piece) := by
  unfold members
  split_ifs
  · refine ⟨?_, fun m hm => ?_⟩
    · exact (by decide : ["__tintin_type", "chunk_index", "data", "file_id", "file_name",
        "file_size", "is_image", "original_height", "original_width", "thumbnail",
        "total_chunks"].Nodup)
    · simp only [List.mem_append, List.mem_cons, List.not_mem_nil, or_false] at hm
      rcases hm with ((rfl | rfl | rfl | rfl | rfl | rfl | rfl | rfl | rfl) | rfl) | rfl <;> rfl
  · refine ⟨?_, fun m hm => ?_⟩
    · exact (by decide : ["__tintin_type", "chunk_index", "data", "file_id", "file_name",
        "file_size", "is_image", "original_height", "original_width", "total_chunks"].Nodup)
    · simp only [List.mem_append, List.mem_cons, List.not_mem_nil, or_false] at hm
      rcases hm with (rfl | rfl | rfl | rfl | rfl | rfl | rfl | rfl | rfl) | rfl <;> rfl

theorem index_total (W : Writers Key) (u : Upload) (i : ℕ) (piece : Bytes) :
    (Json.object (u.members W i piece)).index "total_chunks" =
      .number (.posInt (UInt64.ofNat u.totalChunks)) := by
  unfold members
  split_ifs <;> rfl

/-- The entry a receiver makes for the file. -/
def pending (u : Upload) : PendingFile where
  fileName := u.fileName
  fileSize := UInt64.ofNat u.data.length
  totalChunks := UInt64.ofNat u.totalChunks
  receivedChunks := ∅

end Upload

/-- A payload of a file: the place of its piece. -/
structure Chunk where
  upload : Upload
  index : ℕ
  index_lt : index < upload.pieces.length

namespace Chunk

def piece (k : Chunk) : Bytes := k.upload.pieces.get ⟨k.index, k.index_lt⟩

def payload (W : Writers Key) (k : Chunk) : Bytes :=
  utf8 (W.toString (.object (k.upload.members W k.index k.piece)))

end Chunk

/-- The chunks of a file are what `send_file_inner` sends. -/
theorem mem_payloads (W : Writers Key) (u : Upload) (bs : Bytes) :
    bs ∈ u.payloads W ↔ ∃ k : Chunk, k.upload = u ∧ k.payload W = bs := by
  unfold Upload.payloads
  rw [List.mem_mapIdx]
  constructor
  · rintro ⟨i, hi, rfl⟩
    exact ⟨⟨u, i, hi⟩, rfl, rfl⟩
  · rintro ⟨⟨u, i, hi⟩, rfl, rfl⟩
    exact ⟨i, hi, rfl⟩

/-! ## Receiving -/

/-- The entry with the piece in its place. -/
def PendingFile.put (f : PendingFile) (k : Chunk) : PendingFile :=
  { f with receivedChunks := f.receivedChunks.insert (UInt64.ofNat k.index) k.piece }

/-- The entry has as many pieces as were announced. -/
def PendingFile.Complete (f : PendingFile) : Prop :=
  f.receivedChunks.entries.length = f.totalChunks.toNat

instance decidableComplete (f : PendingFile) : Decidable f.Complete :=
  inferInstanceAs (Decidable (_ = _))

/-- What a payload of `send_file_inner` can announce: a size that fits a `Vec<u8>`, and at
    least one chunk. -/
structure PendingFile.Announced (f : PendingFile) : Prop where
  fileSize : f.fileSize.toNat < 2 ^ 63
  totalChunks : f.totalChunks ≠ 0

namespace Client

variable {X : Crates Key} {W : Writers Key}

/-- The entry of a file; a new one where there is none. -/
def pendingOf (c : Client Key) (u : Upload) : PendingFile :=
  (c.pendingFiles.lookup u.fileId).getD u.pending

/-- Every entry is one that `send_file_inner` can announce. -/
def AllAnnounced (c : Client Key) : Prop :=
  ∀ id f, c.pendingFiles.lookup id = some f → f.Announced

/-- What a chunk does to a client. -/
def takeChunk (c : Client Key) (k : Chunk) : Client Key :=
  let f := (c.pendingOf k.upload).put k
  if f.Complete then
    { c with
      pendingFiles := c.pendingFiles.erase k.upload.fileId
      downloads := c.downloads ++ [(f.fileName, f.assemble)] }
  else { c with pendingFiles := c.pendingFiles.insert k.upload.fileId f }

theorem announced_pending (k : Chunk) : k.upload.pending.Announced := by
  have hne : k.upload.data ≠ [] := by
    intro h
    have := k.index_lt
    rw [Upload.pieces, h, chunks_nil] at this
    exact absurd this (Nat.not_lt_zero _)
  have hlen := Upload.length_pieces hne
  have hpos := k.index_lt
  have hlt := k.upload.totalChunks_lt
  have hsize := k.upload.data_lt
  constructor
  · unfold Upload.pending
    rw [UInt64.toNat_ofNat_of_lt' (hsize.trans (by decide))]
    exact hsize
  · unfold Upload.pending
    intro h
    have := congrArg UInt64.toNat h
    rw [UInt64.toNat_ofNat_of_lt' hlt] at this
    have : k.upload.totalChunks = 0 := this
    omega

theorem announced_pendingOf {c : Client Key} (h : c.AllAnnounced) (k : Chunk) :
    (c.pendingOf k.upload).Announced := by
  unfold pendingOf
  cases hf : c.pendingFiles.lookup k.upload.fileId with
  | none => exact announced_pending k
  | some f => exact h _ f hf

/-- **A received chunk** is put in its place, and a full entry becomes a file. -/
theorem processFileChunk_announced (hW : W.ReadBy X) {c : Client Key} {k : Chunk}
    (hannounced : (c.pendingOf k.upload).Announced) :
    c.processFileChunk X (k.payload W) = some (true, c.takeChunk k) := by
  obtain ⟨v, hv, hget⟩ := hW.json _ (k.upload.members_flat W k.index k.piece)
  have htype := Json.get_tintinType hget
  have hid := Json.get_index hget "file_id"
  have hpiece : X.base64Decode ((v.index "data").asStr.getD "") = some k.piece := by
    rw [Json.get_index hget "data"]
    exact hW.base64 k.piece
  have hname := Json.get_index hget "file_name"
  have hsize := Json.get_index hget "file_size"
  have htotal := (Json.get_index hget "total_chunks").trans (k.upload.index_total W _ _)
  have hindex := Json.get_index hget "chunk_index"
  have hfits : ((c.pendingOf k.upload).put k).fileSize.toNat < 2 ^ 63 := hannounced.fileSize
  have hpos : ((c.pendingOf k.upload).put k).totalChunks ≠ 0 := hannounced.totalChunks
  have hkind : ¬ (v.tintinType ≠ some "file" ∧ v.tintinType ≠ some "voice") := by
    rw [show v.tintinType = some k.upload.msgType from htype]
    unfold Upload.msgType
    split_ifs <;> simp
  unfold processFileChunk Chunk.payload
  rw [hv]
  dsimp only
  rw [if_neg hkind, hpiece, hid, hname, hsize, htotal, hindex]
  change (if ((c.pendingOf k.upload).put k).Complete then
      if ((c.pendingOf k.upload).put k).fileSize.toNat < 2 ^ 63 then
        some (true, { c with
          pendingFiles := c.pendingFiles.erase k.upload.fileId
          downloads := c.downloads ++ [(((c.pendingOf k.upload).put k).fileName,
            ((c.pendingOf k.upload).put k).assemble)] })
      else none
    else if ((c.pendingOf k.upload).put k).totalChunks = 0 then none
    else some (true, { c with
      pendingFiles := c.pendingFiles.insert k.upload.fileId ((c.pendingOf k.upload).put k) })) = _
  rw [if_pos hfits, if_neg hpos]
  unfold takeChunk
  dsimp only
  split_ifs <;> rfl

theorem processFileChunk_payload (hW : W.ReadBy X) {c : Client Key} (hc : c.AllAnnounced)
    (k : Chunk) : c.processFileChunk X (k.payload W) = some (true, c.takeChunk k) :=
  processFileChunk_announced hW (announced_pendingOf hc k)

/-- `process_file_chunk` on one payload after the other; none where it panics. -/
def arrive (X : Crates Key) (W : Writers Key) : Client Key → List Chunk → Option (Client Key)
  | c, [] => some c
  | c, k :: ks => (c.processFileChunk X (k.payload W)).bind fun r => arrive X W r.2 ks

end Client

/-! ## Reassembly -/

/-- The entry has just the pieces of the file at the places in `seen`. -/
structure Upload.Holds (u : Upload) (seen : ℕ → Prop) (f : PendingFile) : Prop where
  fileName : f.fileName = u.fileName
  totalChunks : f.totalChunks = UInt64.ofNat u.totalChunks
  placed : ∀ i < u.pieces.length, seen i →
    f.receivedChunks.lookup (UInt64.ofNat i) = u.pieces[i]?
  places : ∀ key ∈ f.receivedChunks, ∃ i < u.pieces.length, seen i ∧ key = UInt64.ofNat i

namespace Upload

variable {u : Upload}

theorem holds_pending (u : Upload) : u.Holds (fun _ => False) u.pending where
  fileName := rfl
  totalChunks := rfl
  placed _ _ h := h.elim
  places key h := absurd h (AList.notMem_empty key)

/-- The places of a file fit a `u64`. -/
theorem ofNat_inj {i j : ℕ} (hi : i < u.pieces.length) (hj : j < u.pieces.length)
    (h : UInt64.ofNat i = UInt64.ofNat j) : i = j := by
  have hne : u.data ≠ [] := by
    intro hnil
    rw [pieces, hnil, chunks_nil] at hi
    exact absurd hi (Nat.not_lt_zero _)
  have hlen := length_pieces hne
  have hlt := u.totalChunks_lt
  have := congrArg UInt64.toNat h
  rwa [UInt64.toNat_ofNat_of_lt' (hi.trans (hlen ▸ hlt)),
    UInt64.toNat_ofNat_of_lt' (hj.trans (hlen ▸ hlt))] at this

theorem Holds.put {seen : ℕ → Prop} {f : PendingFile} (h : u.Holds seen f) {k : Chunk}
    (hk : k.upload = u) : u.Holds (fun i => seen i ∨ i = k.index) (f.put k) := by
  subst hk
  refine ⟨h.fileName, h.totalChunks, fun i hi hseen => ?_, fun key hkey => ?_⟩
  · by_cases heq : i = k.index
    · subst heq
      unfold PendingFile.put Chunk.piece
      rw [AList.lookup_insert, List.getElem?_eq_getElem hi]
      rfl
    · have hne : UInt64.ofNat i ≠ UInt64.ofNat k.index := fun hc =>
        heq (ofNat_inj hi k.index_lt hc)
      unfold PendingFile.put
      rw [AList.lookup_insert_ne hne]
      exact h.placed i hi (hseen.resolve_right heq)
  · rcases (AList.mem_insert _).mp hkey with rfl | hkey
    · exact ⟨k.index, k.index_lt, .inr rfl, rfl⟩
    · obtain ⟨i, hi, hseen, rfl⟩ := h.places key hkey
      exact ⟨i, hi, .inl hseen, rfl⟩

/-- The entry is complete when every piece has been seen. -/
theorem Holds.complete_iff {seen : ℕ → Prop} {f : PendingFile} (h : u.Holds seen f)
    (hne : u.data ≠ []) : f.Complete ↔ ∀ i < u.pieces.length, seen i := by
  have hkeys : ((List.range u.pieces.length).map UInt64.ofNat).Nodup := by
    refine List.Nodup.map_on (fun i hi j hj => ?_) List.nodup_range
    exact ofNat_inj (List.mem_range.mp hi) (List.mem_range.mp hj)
  have hplaces : ∀ key ∈ f.receivedChunks, key ∈ (List.range u.pieces.length).map UInt64.ofNat := by
    intro key hkey
    obtain ⟨i, hi, -, rfl⟩ := h.places key hkey
    exact List.mem_map_of_mem (List.mem_range.mpr hi)
  have hfull := length_eq_iff_full hkeys hplaces
  have htotal : f.totalChunks.toNat = ((List.range u.pieces.length).map UInt64.ofNat).length := by
    rw [h.totalChunks, UInt64.toNat_ofNat_of_lt' u.totalChunks_lt, List.length_map,
      List.length_range, length_pieces hne]
  unfold PendingFile.Complete
  rw [htotal, hfull]
  constructor
  · intro hall i hi
    obtain ⟨j, hj, hseen, hij⟩ := h.places _ (hall _ (List.mem_map_of_mem (List.mem_range.mpr hi)))
    rwa [ofNat_inj hi hj hij]
  · intro hall key hkey
    obtain ⟨i, hi, rfl⟩ := List.mem_map.mp hkey
    have hi := List.mem_range.mp hi
    apply AList.lookup_isSome.mp
    rw [h.placed i hi (hall i hi), List.getElem?_eq_getElem hi]
    rfl

/-- A full entry gives the bytes of the file. -/
theorem Holds.assemble {seen : ℕ → Prop} {f : PendingFile} (h : u.Holds seen f)
    (hne : u.data ≠ []) (hall : ∀ i < u.pieces.length, seen i) : f.assemble = u.data := by
  unfold PendingFile.assemble
  rw [h.totalChunks, UInt64.toNat_ofNat_of_lt' u.totalChunks_lt, ← length_pieces hne,
    flatMap_range_getD u.pieces _ fun i hi => h.placed i hi (hall i hi), flatten_pieces]

end Upload

/-- The piece at that place is among the chunks. -/
def Upload.Seen (u : Upload) (ks : List Chunk) (i : ℕ) : Prop :=
  ∃ k ∈ ks, k.upload = u ∧ k.index = i

/-- Every piece of the file is among the chunks. -/
def Upload.AllSeen (u : Upload) (ks : List Chunk) : Prop := ∀ i < u.pieces.length, u.Seen ks i

namespace Upload

variable {u : Upload} {ks : List Chunk}

theorem seen_snoc (k : Chunk) (i : ℕ) :
    u.Seen (ks ++ [k]) i ↔ u.Seen ks i ∨ k.upload = u ∧ k.index = i := by
  unfold Seen
  simp only [List.mem_append, List.mem_singleton, or_and_right, exists_or, exists_eq_left]

theorem AllSeen.snoc (h : u.AllSeen ks) (k : Chunk) : u.AllSeen (ks ++ [k]) :=
  fun i hi => (seen_snoc k i).mpr (.inl (h i hi))

theorem data_ne_nil (h : ¬ u.AllSeen ks) : u.data ≠ [] := by
  intro hnil
  apply h
  intro i hi
  rw [pieces, hnil, chunks_nil] at hi
  exact absurd hi (Nat.not_lt_zero _)

theorem Holds.congr {seen seen' : ℕ → Prop} {f : PendingFile} (h : u.Holds seen f)
    (hiff : ∀ i, seen i ↔ seen' i) : u.Holds seen' f := by
  have : seen = seen' := funext fun i => propext (hiff i)
  rwa [← this]

end Upload

namespace Client

variable {X : Crates Key} {W : Writers Key}

theorem takeChunk_announced {c : Client Key} (hc : c.AllAnnounced) (k : Chunk) :
    (c.takeChunk k).AllAnnounced := by
  intro id f hf
  unfold takeChunk at hf
  dsimp only at hf
  split_ifs at hf
  · by_cases hid : id = k.upload.fileId
    · subst hid
      rw [AList.lookup_erase] at hf
      cases hf
    · rw [AList.lookup_erase_ne hid] at hf
      exact hc id f hf
  · by_cases hid : id = k.upload.fileId
    · subst hid
      rw [AList.lookup_insert] at hf
      cases hf
      obtain ⟨hsize, htotal⟩ := announced_pendingOf hc k
      exact ⟨hsize, htotal⟩
    · rw [AList.lookup_insert_ne hid] at hf
      exact hc id f hf

/-- A chunk of another file leaves the entry alone. -/
theorem takeChunk_other (c : Client Key) {k : Chunk} {u : Upload}
    (h : k.upload.fileId ≠ u.fileId) : (c.takeChunk k).pendingOf u = c.pendingOf u := by
  unfold takeChunk pendingOf
  dsimp only
  split_ifs
  · rw [AList.lookup_erase_ne h.symm]
  · rw [AList.lookup_insert_ne h.symm]

theorem takeChunk_incomplete {c : Client Key} {k : Chunk}
    (h : ¬ ((c.pendingOf k.upload).put k).Complete) :
    (c.takeChunk k).pendingOf k.upload = (c.pendingOf k.upload).put k ∧
      (c.takeChunk k).downloads = c.downloads := by
  unfold takeChunk
  dsimp only
  rw [if_neg h]
  refine ⟨?_, rfl⟩
  rw [pendingOf, AList.lookup_insert]
  rfl

theorem takeChunk_complete {c : Client Key} {k : Chunk}
    (h : ((c.pendingOf k.upload).put k).Complete) :
    (c.takeChunk k).downloads = c.downloads ++
        [((c.pendingOf k.upload).fileName, ((c.pendingOf k.upload).put k).assemble)] ∧
      (c.takeChunk k).pendingFiles.lookup k.upload.fileId = none := by
  unfold takeChunk
  dsimp only
  rw [if_pos h]
  exact ⟨rfl, AList.lookup_erase ..⟩

/-- No chunk of `send_file_inner` makes the receiver panic. -/
theorem arrive_eq (hW : W.ReadBy X) (ks : List Chunk) :
    ∀ {c : Client Key}, c.AllAnnounced →
      c.arrive X W ks = some (ks.foldl takeChunk c) ∧ (ks.foldl takeChunk c).AllAnnounced := by
  induction ks with
  | nil => exact fun hc => ⟨rfl, hc⟩
  | cons k ks ih =>
    intro c hc
    unfold arrive
    rw [processFileChunk_payload hW hc]
    exact ih (takeChunk_announced hc k)

/-- While a piece is missing, the entry has the pieces that have come. -/
theorem holds_foldl {c : Client Key} {u : Upload}
    (hnew : c.pendingFiles.lookup u.fileId = none) (ks : List Chunk)
    (hothers : ∀ k ∈ ks, k.upload = u ∨ k.upload.fileId ≠ u.fileId) (hopen : ¬ u.AllSeen ks) :
    u.Holds (u.Seen ks) ((ks.foldl takeChunk c).pendingOf u) := by
  induction ks using List.reverseRecOn with
  | nil =>
    rw [List.foldl_nil, pendingOf, hnew]
    refine u.holds_pending.congr fun i => ⟨False.elim, ?_⟩
    rintro ⟨k, hk, -⟩
    exact absurd hk List.not_mem_nil
  | append_singleton ks k ih =>
    have h := ih (fun k' hk' => hothers k' (List.mem_append_left _ hk'))
      fun hall => hopen (hall.snoc k)
    rw [List.foldl_append, List.foldl_cons, List.foldl_nil]
    by_cases hk : k.upload = u
    · have hput := h.put hk
      have hincomplete : ¬ (((ks.foldl takeChunk c).pendingOf k.upload).put k).Complete := by
        rw [hk, hput.complete_iff (Upload.data_ne_nil hopen)]
        intro hall
        refine hopen fun i hi => (Upload.seen_snoc k i).mpr ?_
        exact (hall i hi).imp_right fun heq => ⟨hk, heq.symm⟩
      have hafter := (takeChunk_incomplete hincomplete).1
      rw [hk] at hafter
      rw [hafter]
      refine hput.congr fun i => ?_
      rw [Upload.seen_snoc]
      exact or_congr_right ⟨fun heq => ⟨hk, heq.symm⟩, fun heq => heq.2.symm⟩
    · have hid := (hothers k (List.mem_append_right _ List.mem_cons_self)).resolve_left hk
      rw [takeChunk_other _ hid]
      refine h.congr fun i => ?_
      rw [Upload.seen_snoc]
      exact ⟨.inl, fun hs => hs.resolve_right fun hc => hk hc.1⟩

/-- **Reassembly.** Chunks of a file reach a client in any order and any number of times, among
    chunks of other files; not every piece has come yet. The next chunk of the file writes
    the file and clears its entry if it brings the last piece that was missing, and writes
    nothing if it does not. -/
theorem file_reassembled (hW : W.ReadBy X) {c : Client Key} (hc : c.AllAnnounced) {u : Upload}
    (hnew : c.pendingFiles.lookup u.fileId = none) (ks : List Chunk)
    (hothers : ∀ k ∈ ks, k.upload = u ∨ k.upload.fileId ≠ u.fileId) (hopen : ¬ u.AllSeen ks)
    (k : Chunk) (hk : k.upload = u) :
    ∃ c₁ c₂, c.arrive X W ks = some c₁ ∧
      c₁.processFileChunk X (k.payload W) = some (true, c₂) ∧
      (u.AllSeen (ks ++ [k]) → c₂.downloads = c₁.downloads ++ [(u.fileName, u.data)] ∧
        c₂.pendingFiles.lookup u.fileId = none) ∧
      (¬ u.AllSeen (ks ++ [k]) → c₂.downloads = c₁.downloads) := by
  obtain ⟨hrun, hann⟩ := arrive_eq hW ks hc
  have hput := (holds_foldl hnew ks hothers hopen).put hk
  have hcomplete : (((ks.foldl takeChunk c).pendingOf k.upload).put k).Complete ↔
      u.AllSeen (ks ++ [k]) := by
    rw [hk, hput.complete_iff (Upload.data_ne_nil hopen)]
    refine forall₂_congr fun i hi => ?_
    rw [Upload.seen_snoc]
    exact or_congr_right ⟨fun heq => ⟨hk, heq.symm⟩, fun heq => heq.2.symm⟩
  refine ⟨_, _, hrun, processFileChunk_payload hW hann k, fun hall => ?_, fun hnot => ?_⟩
  · obtain ⟨hwritten, hgone⟩ := takeChunk_complete (hcomplete.mpr hall)
    rw [hk] at hwritten hgone
    rw [hwritten, hput.assemble (Upload.data_ne_nil hopen)
      ((hput.complete_iff (Upload.data_ne_nil hopen)).mp (hk ▸ hcomplete.mpr hall)),
      (holds_foldl hnew ks hothers hopen).fileName]
    exact ⟨rfl, hgone⟩
  · exact (takeChunk_incomplete fun hc => hnot (hcomplete.mp hc)).2

/-! ### A file of two pieces, and a voice message in between -/

def twoPieces : Upload where
  voice := false
  nanos := 17
  fileName := "notes.txt"
  isImage := false
  thumbnail := ""
  data := List.replicate 262145 7
  data_lt := by
    rw [List.length_replicate]
    norm_num

def voiceMessage : Upload where
  voice := true
  nanos := 18
  fileName := "voice.wav"
  isImage := false
  thumbnail := ""
  data := [1, 2, 3]
  data_lt := by decide

theorem length_twoPieces : twoPieces.pieces.length = 2 := by
  have hlen : twoPieces.data.length = 262145 := List.length_replicate
  unfold Upload.pieces
  rw [length_chunks (by decide), hlen]
  rfl

theorem length_voiceMessage : voiceMessage.pieces.length = 1 := by
  unfold Upload.pieces
  rw [length_chunks (by decide)]
  rfl

def firstPiece : Chunk := ⟨twoPieces, 0, by rw [length_twoPieces]; decide⟩

def secondPiece : Chunk := ⟨twoPieces, 1, by rw [length_twoPieces]; decide⟩

def voicePiece : Chunk := ⟨voiceMessage, 0, by rw [length_voiceMessage]; decide⟩

theorem file_reassembled_twoPieces :
    ∃ c₁ c₂, (Client.new symbolic (.secret 0) (.secret 1) "bob").arrive textCrates textWriters
        [secondPiece, voicePiece, secondPiece] = some c₁ ∧
      c₁.processFileChunk textCrates (firstPiece.payload textWriters) = some (true, c₂) ∧
      c₂.downloads = c₁.downloads ++ [("notes.txt", List.replicate 262145 7)] ∧
      c₂.pendingFiles.lookup twoPieces.fileId = none := by
  have hopen : ¬ twoPieces.AllSeen [secondPiece, voicePiece, secondPiece] := by
    intro h
    obtain ⟨k, hk, hu, hi⟩ := h 0 (by rw [length_twoPieces]; decide)
    simp only [List.mem_cons, List.not_mem_nil, or_false] at hk
    rcases hk with rfl | rfl | rfl
    · exact absurd hi (by decide)
    · exact absurd (congrArg Upload.nanos hu) (by decide)
    · exact absurd hi (by decide)
  have hall : twoPieces.AllSeen ([secondPiece, voicePiece, secondPiece] ++ [firstPiece]) := by
    intro i hi
    rw [length_twoPieces] at hi
    rcases (by omega : i = 0 ∨ i = 1) with rfl | rfl
    · exact ⟨firstPiece, by simp, rfl, rfl⟩
    · exact ⟨secondPiece, by simp, rfl, rfl⟩
  obtain ⟨c₁, c₂, hrun, hlast, hwritten, -⟩ := file_reassembled (X := textCrates)
    textWriters_readBy (c := Client.new symbolic (.secret 0) (.secret 1) "bob")
    (fun id f hf => by cases hf) (u := twoPieces) rfl [secondPiece, voicePiece, secondPiece]
    (fun k hk => by
      simp only [List.mem_cons, List.not_mem_nil, or_false] at hk
      rcases hk with rfl | rfl | rfl
      · exact .inl rfl
      · exact .inr (by decide)
      · exact .inl rfl) hopen firstPiece rfl
  obtain ⟨hd, hgone⟩ := hwritten hall
  exact ⟨c₁, c₂, hrun, hlast, hd, hgone⟩

end Client

end TinTin.Cli
