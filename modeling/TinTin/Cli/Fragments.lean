/-
  What `process_file_chunk` does with a payload, whoever has made it.

  A `Fragment` is a file or voice payload with the defaults of what it lacks. The table of
  pending files is keyed by the id that the payload names, so the sender plays no part.

  * `processFileChunk_fragment`, `processFileChunk_other`: one payload.
  * `takeAll`: payloads one after the other. `pending_takeAll`: the table then has an entry
    for every id whose batch is open, made of the payloads in it.
-/
import TinTin.Cli.Payload
import TinTin.Cli.Text
import TinTin.Lib.Gather

namespace TinTin.Cli

open TinTin.Lib TinTin.Core

variable {Key : Type}

/-! ## One payload -/

/-- A file or voice payload as it is read. -/
structure Fragment where
  fileId : String
  fileName : String
  fileSize : UInt64
  totalChunks : UInt64
  chunkIndex : UInt64
  data : Bytes
  deriving DecidableEq, Repr

/-- The payload, unless it is of another type or its data is no Base64. -/
def readFragment (X : Crates Key) (plaintext : Bytes) : Option Fragment :=
  (X.fromSlice plaintext).bind fun payload =>
    if isFileType payload.tintinType then
      (X.base64Decode ((payload.index "data").asStr.getD "")).map fun data =>
        { fileId := (payload.index "file_id").asStr.getD ""
          fileName := (payload.index "file_name").asStr.getD "unknown"
          fileSize := (payload.index "file_size").asU64.getD 0
          totalChunks := (payload.index "total_chunks").asU64.getD 0
          chunkIndex := (payload.index "chunk_index").asU64.getD 0
          data := data }
    else none

/-- The text of a file payload with these members. -/
def Fragment.payload (W : Writers Key) (k : Fragment) : Bytes :=
  utf8 (W.toString (.object [("__tintin_type", .string "file"),
    ("chunk_index", .number (.posInt k.chunkIndex)),
    ("data", .string (W.base64Encode k.data)),
    ("file_id", .string k.fileId),
    ("file_name", .string k.fileName),
    ("file_size", .number (.posInt k.fileSize)),
    ("total_chunks", .number (.posInt k.totalChunks))]))

theorem readFragment_payload {X : Crates Key} {W : Writers Key} (hW : W.ReadBy X) (k : Fragment) :
    readFragment X (k.payload W) = some k := by
  obtain ⟨v, hv, hget⟩ := hW.json [("__tintin_type", .string "file"),
    ("chunk_index", .number (.posInt k.chunkIndex)), ("data", .string (W.base64Encode k.data)),
    ("file_id", .string k.fileId), ("file_name", .string k.fileName),
    ("file_size", .number (.posInt k.fileSize)), ("total_chunks", .number (.posInt k.totalChunks))]
    ⟨(by decide : ["__tintin_type", "chunk_index", "data", "file_id", "file_name", "file_size",
      "total_chunks"].Nodup), by simp [Json.isScalar]⟩
  have htype : v.tintinType = some "file" := Json.get_tintinType hget
  have hdata : X.base64Decode ((v.index "data").asStr.getD "") = some k.data := by
    rw [Json.get_index hget "data"]
    exact hW.base64 k.data
  unfold readFragment Fragment.payload
  rw [hv, Option.bind_some, htype, if_pos (by decide), hdata, Json.get_index hget "file_id",
    Json.get_index hget "file_name", Json.get_index hget "file_size",
    Json.get_index hget "total_chunks", Json.get_index hget "chunk_index"]
  rfl

/-- The entry that the first payload of a file makes. -/
def Fragment.announced (k : Fragment) : PendingFile where
  fileName := k.fileName
  fileSize := k.fileSize
  totalChunks := k.totalChunks
  receivedChunks := ∅

/-- `received_chunks.insert(chunk_index, chunk_data)` -/
def PendingFile.place (f : PendingFile) (k : Fragment) : PendingFile :=
  { f with receivedChunks := f.receivedChunks.insert k.chunkIndex k.data }

/-- `received_chunks.len() == total_chunks` -/
def PendingFile.full (f : PendingFile) : Bool :=
  f.receivedChunks.entries.length == f.totalChunks.toNat

namespace Client

variable {X : Crates Key}

/-- The entry that a payload goes into, with it. -/
def entryFor (c : Client Key) (k : Fragment) : PendingFile :=
  ((c.pendingFiles.lookup k.fileId).getD k.announced).place k

theorem isFileType_iff (kind : Option String) :
    isFileType kind = true ↔ ¬ (kind ≠ some "file" ∧ kind ≠ some "voice") := by
  unfold isFileType
  simp only [Bool.or_eq_true, beq_iff_eq, ne_eq, not_and_or, not_not]

/-- **A file or voice payload** goes into the entry of the id it names. A full entry is written and
    taken away; it panics for a size that no vector can have, and for a file of no chunks. -/
theorem processFileChunk_fragment {plaintext : Bytes} {k : Fragment}
    (h : readFragment X plaintext = some k) (c : Client Key) :
    c.processFileChunk X plaintext =
      if (c.entryFor k).full then
        if (c.entryFor k).fileSize.toNat < 2 ^ 63 then
          some (true, { c with
            pendingFiles := c.pendingFiles.erase k.fileId
            downloads := c.downloads ++ [((c.entryFor k).fileName, (c.entryFor k).assemble)] })
        else none
      else if (c.entryFor k).totalChunks = 0 then none
      else some (true, { c with pendingFiles := c.pendingFiles.insert k.fileId (c.entryFor k) }) := by
  unfold readFragment at h
  unfold processFileChunk
  cases hv : X.fromSlice plaintext with
  | none =>
    rw [hv] at h
    cases h
  | some payload =>
    rw [hv, Option.bind_some] at h
    dsimp only
    by_cases htype : isFileType payload.tintinType = true
    · rw [if_pos htype] at h
      rw [if_neg ((isFileType_iff _).mp htype)]
      cases hd : X.base64Decode ((payload.index "data").asStr.getD "") with
      | none =>
        rw [hd] at h
        cases h
      | some data =>
        rw [hd] at h
        obtain rfl := Option.some.inj h
        dsimp only
        unfold PendingFile.full
        simp only [beq_iff_eq]
        rfl
    · rw [if_neg htype] at h
      cases h

/-- Any other payload changes nothing. -/
theorem processFileChunk_other {plaintext : Bytes} (h : readFragment X plaintext = none)
    (c : Client Key) :
    c.processFileChunk X plaintext = some (isFileChunk X plaintext, c) := by
  unfold readFragment at h
  unfold processFileChunk isFileChunk payloadType
  cases hv : X.fromSlice plaintext with
  | none => rfl
  | some payload =>
    rw [hv, Option.bind_some] at h
    rw [Option.bind_some]
    dsimp only
    by_cases htype : isFileType payload.tintinType = true
    · rw [if_pos htype] at h
      rw [if_neg ((isFileType_iff _).mp htype), htype, Option.map_eq_none_iff.mp h]
    · rw [if_pos (by_contra fun hnot => htype ((isFileType_iff _).mpr hnot))]
      rw [Bool.not_eq_true] at htype
      rw [htype]

end Client

/-! ## Payloads one after the other -/

/-- A decrypted payload and who has sent it. -/
structure Arrival where
  sender : String
  plaintext : Bytes

/-- The file and voice payloads among them, with their senders. -/
def fragments (X : Crates Key) (arrivals : List Arrival) : List (String × Fragment) :=
  arrivals.filterMap fun a => (readFragment X a.plaintext).map (a.sender, ·)

/-- The entry that these payloads make. -/
def entryMade : List (String × Fragment) → Option PendingFile
  | [] => none
  | k :: ks => some ((k :: ks).foldl (fun f k => f.place k.2) k.2.announced)

/-- Payloads are gathered under the id they name until their entry is full. -/
def transfers : Gathering (String × Fragment) String String where
  key := fun k => k.2.fileId
  owner := Prod.fst
  complete := fun ks => (entryMade ks).any PendingFile.full

theorem entryMade_snoc (ks : List (String × Fragment)) (k : String × Fragment) :
    entryMade (ks ++ [k]) = some (((entryMade ks).getD k.2.announced).place k.2) := by
  cases ks with
  | nil => rfl
  | cons k₀ ks =>
    rw [List.cons_append, entryMade, entryMade, ← List.cons_append, List.foldl_append]
    rfl

theorem fragments_snoc (X : Crates Key) (arrivals : List Arrival) (a : Arrival) :
    fragments X (arrivals ++ [a]) =
      fragments X arrivals ++ ((readFragment X a.plaintext).map (a.sender, ·)).toList := by
  unfold fragments
  rw [List.filterMap_append]
  congr 1

namespace Client

variable {X : Crates Key}

/-- `process_file_chunk` on one payload after the other; none where it panics. -/
def takeAll (X : Crates Key) (c : Client Key) (arrivals : List Arrival) : Option (Client Key) :=
  arrivals.foldlM (fun c a => (c.processFileChunk X a.plaintext).map Prod.snd) c

theorem takeAll_snoc (c : Client Key) (arrivals : List Arrival) (a : Arrival) :
    c.takeAll X (arrivals ++ [a]) = (c.takeAll X arrivals).bind fun c =>
      (c.processFileChunk X a.plaintext).map Prod.snd := by
  unfold takeAll
  rw [List.foldlM_append]
  congr 1
  funext c
  exact bind_pure _

/-- The table of pending files has the open transfers of these payloads. -/
def Gathered (c : Client Key) (ks : List (String × Fragment)) : Prop :=
  ∀ id, c.pendingFiles.lookup id = entryMade (transfers.batch ks id)

theorem Gathered.entryFor {c : Client Key} {ks : List (String × Fragment)} (h : c.Gathered ks)
    (sender : String) (k : Fragment) :
    entryMade (transfers.joined ks (sender, k)) = some (c.entryFor k) := by
  unfold Gathering.joined Client.entryFor
  rw [entryMade_snoc, h k.fileId]
  rfl

theorem Gathered.complete_iff {c : Client Key} {ks : List (String × Fragment)} (h : c.Gathered ks)
    (sender : String) (k : Fragment) :
    transfers.complete (transfers.joined ks (sender, k)) = (c.entryFor k).full := by
  change (entryMade _).any PendingFile.full = _
  rw [h.entryFor sender k, Option.any_some]

/-- A payload keeps the table and the transfers in step. -/
theorem Gathered.take {c c' : Client Key} {ks : List (String × Fragment)} (h : c.Gathered ks)
    {plaintext : Bytes} {k : Fragment} (hk : readFragment X plaintext = some k) {b : Bool}
    (htake : c.processFileChunk X plaintext = some (b, c')) (sender : String) :
    c'.Gathered (ks ++ [(sender, k)]) := by
  have hcomplete := h.complete_iff sender k
  have hentry := h.entryFor sender k
  rw [processFileChunk_fragment hk] at htake
  intro id
  by_cases hid : id = k.fileId
  · subst hid
    have hself := transfers.batch_snoc_self ks (sender, k)
    rw [show transfers.key (sender, k) = k.fileId from rfl] at hself
    rw [hself, hcomplete]
    split_ifs at htake with hfull hsize htotal
    · obtain ⟨-, rfl⟩ := Prod.mk.inj (Option.some.inj htake)
      rw [if_pos hfull, AList.lookup_erase]
      rfl
    · obtain ⟨-, rfl⟩ := Prod.mk.inj (Option.some.inj htake)
      rw [if_neg hfull, AList.lookup_insert, hentry]
  · rw [Gathering.batch_snoc_other ks hid, ← h id]
    split_ifs at htake with hfull hsize htotal
    · obtain ⟨-, rfl⟩ := Prod.mk.inj (Option.some.inj htake)
      rw [AList.lookup_erase_ne hid]
    · obtain ⟨-, rfl⟩ := Prod.mk.inj (Option.some.inj htake)
      rw [AList.lookup_insert_ne hid]

/-- **The table of pending files** after any payloads, starting with an empty one. -/
theorem gathered_takeAll {c c' : Client Key} (hnew : c.pendingFiles = ∅) {arrivals : List Arrival}
    (hrun : c.takeAll X arrivals = some c') : c'.Gathered (fragments X arrivals) := by
  induction arrivals using List.reverseRecOn generalizing c' with
  | nil =>
    obtain rfl := Option.some.inj hrun
    intro id
    rw [hnew]
    rfl
  | append_singleton arrivals a ih =>
    rw [takeAll_snoc, Option.bind_eq_some_iff] at hrun
    obtain ⟨c₁, hc₁, hstep⟩ := hrun
    obtain ⟨⟨b, c₂⟩, htake, rfl⟩ := Option.map_eq_some_iff.mp hstep
    rw [fragments_snoc]
    cases hk : readFragment X a.plaintext with
    | none =>
      rw [processFileChunk_other hk] at htake
      obtain ⟨-, rfl⟩ := Prod.mk.inj (Option.some.inj htake)
      rw [Option.map_none, Option.toList_none, List.append_nil]
      exact ih hc₁
    | some k => exact (ih hc₁).take hk htake a.sender

end Client

end TinTin.Cli
