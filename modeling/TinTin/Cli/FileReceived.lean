/-
  What the recipient of a sent file gets.

  `send_file_inner` announces at least one chunk and sends one for each piece of the data, and an
  empty file has no pieces: nothing is sent, and the call reports success.

  * `sendChunks_sealed`: what a send without refusals puts on the way.
  * `taken_whole`: the payloads of a file, in order, write it.
  * `file_received_iff`: a file that was reported as sent is received exactly if it is not empty.
-/
import TinTin.Cli.Delivery
import TinTin.Cli.Fragments
import TinTin.Cli.SendFile

namespace TinTin.Cli

open TinTin.Lib TinTin.Core TinTin.Symbolic

variable {Key : Type}

/-! ## What is sent -/

/-- The envelope carries the text from the client to the recipient, under some session. -/
structure SealsFor (X : Crates Key) (c : Client Key) (recipient text : String) (e : Envelope) :
    Prop where
  sender : e.senderId = c.userId
  addressee : e.recipientId = recipient
  content : ∃ (s : Session Key) (isNew : Bool) (nonce : Nonce) (m : SessionMessage Key),
    s.remoteUserId = recipient ∧ (s.encrypt X.prims nonce (utf8 text)).1 = .ok m ∧
      (e.content, e.msgType) = c.wrap X (s.encrypt X.prims nonce (utf8 text)).2 isNew m

namespace Client

variable {X : Crates Key} {W : Writers Key}

theorem sealsFor_congr {c c' : Client Key} (hkeys : SameKeys c c') {recipient text : String}
    {e : Envelope} (h : SealsFor X c' recipient text e) : SealsFor X c recipient text e := by
  obtain ⟨s, isNew, nonce, m, hremote, hm, hwrap⟩ := h.content
  refine ⟨h.sender.trans hkeys.userId, h.addressee, s, isNew, nonce, m, hremote, hm, ?_⟩
  rw [hwrap]
  unfold wrap
  rw [hkeys.identity]

theorem getOrCreateSession_remote {d : SendInput Key} {bundle : Option (PreKeyBundle Key)}
    {c c₁ : Client Key} {recipient : String} {s : Session Key} {isNew : Bool}
    (h : c.getOrCreateSession X d bundle recipient = some (s, isNew, c₁)) :
    s.remoteUserId = recipient := by
  rcases getOrCreateSession_cases h with ⟨-, hold, -⟩ | ⟨-, -, ⟨b, -, rfl⟩, -⟩
  · exact (SessionStore.isFor_iff.mp (List.find?_some hold)).1
  · rfl

theorem sendEncrypted_sealed {d : SendInput Key} {bundle : Option (PreKeyBundle Key)}
    {c c' : Client Key} {recipient text : String} {content : Bytes} {msgType : MessageType}
    (h : c.sendEncrypted X d bundle recipient text = (.ok (content, msgType), c')) (now : UInt64) :
    SameKeys c c' ∧
      SealsFor X c recipient text (Envelope.new now c'.userId recipient content msgType) := by
  unfold sendEncrypted at h
  cases hs : c.getOrCreateSession X d bundle recipient with
  | none =>
    rw [hs] at h
    cases h
  | some r =>
    obtain ⟨s, isNew, c₁⟩ := r
    rw [hs] at h
    dsimp only at h
    cases hm : (s.encrypt X.prims d.nonce (utf8 text)).1 with
    | error e =>
      rw [hm] at h
      cases h
    | ok m =>
      rw [hm] at h
      dsimp only at h
      obtain ⟨-, hkeys, -⟩ := getOrCreateSession_spec hs
      obtain ⟨hsent, rfl⟩ := Prod.mk.inj h
      have hwrap := Except.ok.inj hsent
      refine ⟨⟨hkeys.userId, hkeys.identity, hkeys.signedPreKey⟩, hkeys.userId, rfl, s, isNew,
        d.nonce, m, getOrCreateSession_remote hs, hm, ?_⟩
      show (content, msgType) = _
      rw [← hwrap]
      unfold wrap
      rw [show c₁.identity = c.identity from hkeys.identity]

/-- **A send without refusals** puts one envelope on the way for each text, in order. -/
theorem sendChunks_sealed {io : FileInput Key} (haccepted : ∀ i, io.outcome i = .accepted)
    {recipient : String} {texts : List String} (i : ℕ) {c : Client Key}
    (hok : (c.sendChunks X io recipient i texts).1 = .ok ()) :
    List.Forall₂ (fun text e => SealsFor X c recipient text e) texts
      (c.sendChunks X io recipient i texts).2.2 := by
  induction texts generalizing i c with
  | nil => exact .nil
  | cons text rest ih =>
    unfold sendChunks at hok ⊢
    cases hsend : c.sendEncrypted X (io.draw i) io.bundle recipient text with
    | mk result c' =>
      rw [hsend] at hok
      cases result with
      | error e => cases hok
      | ok sent =>
        obtain ⟨content, msgType⟩ := sent
        obtain ⟨hkeys, hsealed⟩ := sendEncrypted_sealed hsend (io.draw i).sentAt
        dsimp only at hok ⊢
        rw [haccepted i] at hok ⊢
        dsimp only at hok ⊢
        refine .cons hsealed ?_
        exact (ih (i + 1) hok).imp fun _ _ h => sealsFor_congr hkeys h

/-! ## What is received -/

theorem takeAll_chunks (sender : String) (ks : List Chunk) (c : Client Key) :
    c.takeAll X (ks.map fun k => ⟨sender, k.payload W⟩) = c.arrive X W ks := by
  induction ks generalizing c with
  | nil => rfl
  | cons k ks ih =>
    unfold takeAll arrive
    rw [List.map_cons, List.foldlM_cons]
    cases hk : c.processFileChunk X (k.payload W) with
    | none => rfl
    | some r => exact ih r.2

theorem arrive_snoc (ks : List Chunk) (k : Chunk) (c : Client Key) :
    c.arrive X W (ks ++ [k]) =
      (c.arrive X W ks).bind fun c => (c.processFileChunk X (k.payload W)).map Prod.snd := by
  rw [← takeAll_chunks "" (ks ++ [k]), List.map_append, List.map_singleton, takeAll_snoc,
    takeAll_chunks]

/-- While a piece is missing, the entry has the size that the file has announced, and nothing is
    written. -/
theorem open_foldl {c : Client Key} {u : Upload}
    (hnew : c.pendingFiles.lookup u.fileId = none) (ks : List Chunk)
    (hsame : ∀ k ∈ ks, k.upload = u) (hopen : ¬ u.AllSeen ks) :
    ((ks.foldl takeChunk c).pendingOf u).fileSize = u.pending.fileSize ∧
      (ks.foldl takeChunk c).downloads = c.downloads := by
  induction ks using List.reverseRecOn with
  | nil =>
    rw [List.foldl_nil, pendingOf, hnew]
    exact ⟨rfl, rfl⟩
  | append_singleton ks k ih =>
    have hbefore : ¬ u.AllSeen ks := fun hall => hopen (hall.snoc k)
    have hks : ∀ k' ∈ ks, k'.upload = u := fun k' hk' => hsame k' (List.mem_append_left _ hk')
    have hk : k.upload = u := hsame k (List.mem_append_right _ List.mem_cons_self)
    have hput := (holds_foldl hnew ks (fun k' hk' => .inl (hks k' hk')) hbefore).put hk
    rw [List.foldl_append, List.foldl_cons, List.foldl_nil]
    have hincomplete : ¬ (((ks.foldl takeChunk c).pendingOf k.upload).put k).Complete := by
      rw [hk, hput.complete_iff (Upload.data_ne_nil hopen)]
      intro hall
      refine hopen fun i hi => (Upload.seen_snoc k i).mpr ?_
      exact (hall i hi).imp_right fun heq => ⟨hk, heq.symm⟩
    obtain ⟨hafter, hsilent⟩ := takeChunk_incomplete hincomplete
    obtain ⟨hsize, hdownloads⟩ := ih hks hbefore
    rw [hk] at hafter
    rw [hafter, hsilent]
    exact ⟨hsize, hdownloads⟩

theorem announced_foldl {c : Client Key} {u : Upload}
    (hnew : c.pendingFiles.lookup u.fileId = none) (ks : List Chunk)
    (hsame : ∀ k ∈ ks, k.upload = u) (hopen : ¬ u.AllSeen ks) :
    ((ks.foldl takeChunk c).pendingOf u).Announced := by
  obtain ⟨i, hi⟩ : ∃ i, i < u.pieces.length := by
    by_contra hnone
    exact hopen fun i hi => absurd ⟨i, hi⟩ hnone
  have hfirst := announced_pending ⟨u, i, hi⟩
  constructor
  · rw [(open_foldl hnew ks hsame hopen).1]
    exact hfirst.fileSize
  · rw [(holds_foldl hnew ks (fun k hk => .inl (hsame k hk)) hopen).totalChunks]
    exact hfirst.totalChunks

/-- A recipient without an entry under the file's id takes its chunks, whatever else it has
    pending. -/
theorem arrive_open (hW : W.ReadBy X) {c : Client Key} {u : Upload}
    (hnew : c.pendingFiles.lookup u.fileId = none) (ks : List Chunk)
    (hsame : ∀ k ∈ ks, k.upload = u) (hopen : ¬ u.AllSeen ks) :
    c.arrive X W ks = some (ks.foldl takeChunk c) := by
  induction ks using List.reverseRecOn with
  | nil => rfl
  | append_singleton ks k ih =>
    have hbefore : ¬ u.AllSeen ks := fun hall => hopen (hall.snoc k)
    have hks : ∀ k' ∈ ks, k'.upload = u := fun k' hk' => hsame k' (List.mem_append_left _ hk')
    have hk : k.upload = u := hsame k (List.mem_append_right _ List.mem_cons_self)
    have hannounced : ((ks.foldl takeChunk c).pendingOf k.upload).Announced := by
      rw [hk]
      exact announced_foldl hnew ks hks hbefore
    rw [arrive_snoc, ih hks hbefore, Option.bind_some, processFileChunk_announced hW hannounced,
      List.foldl_append]
    rfl

end Client

namespace Upload

/-- The chunk at a place; the last one for a place beyond it. -/
def chunkAt (u : Upload) (hpos : 0 < u.pieces.length) (i : ℕ) : Chunk :=
  ⟨u, min i (u.pieces.length - 1), by omega⟩

theorem payloads_eq (W : Writers Key) (u : Upload) (hpos : 0 < u.pieces.length) :
    u.payloads W = ((List.range u.pieces.length).map (u.chunkAt hpos)).map (·.payload W) := by
  unfold payloads
  apply List.ext_getElem
  · rw [List.length_mapIdx, List.length_map, List.length_map, List.length_range]
  · intro i hi hi'
    rw [List.length_mapIdx] at hi
    have hmin : min i (u.pieces.length - 1) = i := by omega
    rw [List.getElem_mapIdx, List.getElem_map, List.getElem_map, List.getElem_range]
    unfold Chunk.payload Chunk.piece chunkAt
    simp only [hmin]
    rfl

theorem seen_chunkAt (u : Upload) (hpos : 0 < u.pieces.length) {n i : ℕ}
    (hi : i < u.pieces.length) :
    u.Seen ((List.range n).map (u.chunkAt hpos)) i ↔ i < n := by
  unfold Seen
  constructor
  · rintro ⟨k, hk, -, rfl⟩
    obtain ⟨j, hj, rfl⟩ := List.mem_map.mp hk
    have := List.mem_range.mp hj
    show min j (u.pieces.length - 1) < n
    omega
  · intro hlt
    refine ⟨_, List.mem_map_of_mem (List.mem_range.mpr hlt), rfl, ?_⟩
    show min i (u.pieces.length - 1) = i
    omega

end Upload

namespace Client

variable {X : Crates Key} {W : Writers Key}

/-- **The payloads of a file**, one after the other, write it and leave no entry. -/
theorem taken_whole (hW : W.ReadBy X) {u : Upload} (hne : u.data ≠ []) (sender : String)
    {c : Client Key} (hnew : c.pendingFiles.lookup u.fileId = none) :
    ∃ c', c.takeAll X ((u.payloads W).map (⟨sender, ·⟩)) = some c' ∧
      c'.downloads = c.downloads ++ [(u.fileName, u.data)] ∧
      c'.pendingFiles.lookup u.fileId = none := by
  have hlen := Upload.length_pieces hne
  have hpos : 0 < u.pieces.length := by
    have hflat := u.flatten_pieces
    by_contra hzero
    have hnil : u.pieces = [] := List.eq_nil_of_length_eq_zero (by omega)
    rw [hnil] at hflat
    exact hne hflat.symm
  obtain ⟨n, hn⟩ : ∃ n, u.pieces.length = n + 1 := ⟨u.pieces.length - 1, by omega⟩
  set ks := (List.range n).map (u.chunkAt hpos) with hks
  have hsame : ∀ k ∈ ks, k.upload = u := by
    intro k hk
    obtain ⟨i, -, rfl⟩ := List.mem_map.mp hk
    rfl
  have hopen : ¬ u.AllSeen ks := by
    intro hall
    have := (u.seen_chunkAt hpos (by omega)).mp (hall n (by omega))
    omega
  have hall : ∀ i < u.pieces.length, u.Seen ks i ∨ i = (u.chunkAt hpos n).index := by
    intro i hi
    by_cases hlast : i = n
    · right
      show i = min n (u.pieces.length - 1)
      omega
    · left
      exact (u.seen_chunkAt hpos hi).mpr (by omega)
  have harrive := arrive_open hW hnew ks hsame hopen
  have hholds := holds_foldl hnew ks (fun k hk => .inl (hsame k hk)) hopen
  have hput := hholds.put (k := u.chunkAt hpos n) rfl
  have hcomplete := (hput.complete_iff hne).mpr hall
  obtain ⟨hwritten, hgone⟩ := takeChunk_complete hcomplete
  have hrun : c.takeAll X ((u.payloads W).map (⟨sender, ·⟩)) =
      some ((ks.foldl takeChunk c).takeChunk (u.chunkAt hpos n)) := by
    have hsplit : (u.payloads W).map (⟨sender, ·⟩) =
        (ks ++ [u.chunkAt hpos n]).map fun k => (⟨sender, k.payload W⟩ : Arrival) := by
      rw [u.payloads_eq W hpos, hn, List.range_succ, List.map_append, List.map_map]
      rfl
    have hannounced : ((ks.foldl takeChunk c).pendingOf (u.chunkAt hpos n).upload).Announced :=
      announced_foldl hnew ks hsame hopen
    rw [hsplit, takeAll_chunks, arrive_snoc, harrive, Option.bind_some,
      processFileChunk_announced hW hannounced]
    rfl
  refine ⟨_, hrun, ?_, hgone⟩
  have hname : ((ks.foldl takeChunk c).pendingOf u).fileName = u.fileName := hholds.fileName
  have hdata := hput.assemble hne hall
  rw [hwritten, (open_foldl hnew ks hsame hopen).2]
  show c.downloads ++ [(((ks.foldl takeChunk c).pendingOf u).fileName,
    (((ks.foldl takeChunk c).pendingOf u).put (u.chunkAt hpos n)).assemble)] = _
  rw [hname, hdata]

/-- A send without refusals succeeds where the recipient can be reached. -/
theorem sendChunks_ok (hP : X.prims.Lawful) {io : FileInput Key} {recipient : String}
    (haccepted : ∀ i, io.outcome i = .accepted) (texts : List String) (i : ℕ) {c : Client Key}
    (hreach : (c.sessions.get recipient 1).isSome ∨ io.bundle.isSome) :
    (c.sendChunks X io recipient i texts).1 = .ok () := by
  induction texts generalizing i c with
  | nil => rfl
  | cons text rest ih =>
    have hmade : (c.getOrCreateSession X (io.draw i) io.bundle recipient).isSome :=
      getOrCreateSession_isSome.mpr hreach
    obtain ⟨⟨s, isNew, c₁⟩, hs⟩ := Option.isSome_iff_exists.mp hmade
    obtain ⟨m, c', -, hsend, hget, -⟩ := sendEncrypted_spec hP hs text
    have hnext : (c'.sessions.get recipient 1).isSome ∨ io.bundle.isSome := by
      rw [hget]
      exact .inl rfl
    unfold sendChunks
    rw [hsend]
    dsimp only
    rw [haccepted i]
    exact ih (i + 1) hnext

theorem sendFileInner_ok (hP : X.prims.Lawful) {io : FileInput Key} {c : Client Key}
    {recipient filePath : String} {voice isHd : Bool} {u : Upload}
    (hu : uploadOf W io filePath voice isHd = .ok u) (haccepted : ∀ i, io.outcome i = .accepted)
    (hreach : (c.sessions.get recipient 1).isSome ∨ io.bundle.isSome) :
    (c.sendFileInner X W io recipient filePath voice isHd).1 = .ok () := by
  have hsent := sendChunks_ok hP haccepted (u.texts W) 0 hreach
  unfold sendFileInner
  rw [hu]
  dsimp only
  generalize c.sendChunks X io recipient 0 (u.texts W) = r at hsent
  obtain ⟨result, c', queued⟩ := r
  cases result with
  | error e => cases hsent
  | ok _ => rfl

end Client

/-! ## Files that are reported as sent -/

theorem payloads_texts (W : Writers Key) (u : Upload) : u.payloads W = (u.texts W).map utf8 := by
  unfold Upload.payloads Upload.texts
  apply List.ext_getElem
  · rw [List.length_map, List.length_mapIdx, List.length_mapIdx]
  · intro i hi hi'
    rw [List.getElem_map, List.getElem_mapIdx, List.getElem_mapIdx]

theorem texts_nil (W : Writers Key) {u : Upload} (hempty : u.data = []) : u.texts W = [] := by
  unfold Upload.texts Upload.pieces
  rw [hempty, chunks_nil, List.mapIdx_nil]

/-- **The file is received**: as many payloads are sent as they announce, at least one, and they
    write the file at a recipient that has no transfer under the file's id. -/
structure ReceivedWhole (X : Crates Key) (W : Writers Key) (u : Upload) (sender : String)
    (queued : List Envelope) : Prop where
  count : queued.length = u.totalChunks
  atLeastOne : 1 ≤ queued.length
  written : ∀ d : Client Key, d.pendingFiles.lookup u.fileId = none →
    ∃ d', d.takeAll X ((u.texts W).map fun text => ⟨sender, utf8 text⟩) = some d' ∧
      d'.downloads = d.downloads ++ [(u.fileName, u.data)] ∧
      d'.pendingFiles.lookup u.fileId = none

/-- **A file that was reported as sent**, without refusals, is received exactly if it is not
    empty. -/
theorem file_received_iff {X : Crates Key} {W : Writers Key} (hW : W.ReadBy X)
    {io : FileInput Key} {c : Client Key} {recipient filePath : String} {voice isHd : Bool}
    {u : Upload} (hu : Client.uploadOf W io filePath voice isHd = .ok u)
    (hok : (c.sendFileInner X W io recipient filePath voice isHd).1 = .ok ())
    (haccepted : ∀ i, io.outcome i = .accepted) :
    List.Forall₂ (fun text e => SealsFor X c recipient text e) (u.texts W)
        (c.sendFileInner X W io recipient filePath voice isHd).2.2 ∧
      (ReceivedWhole X W u c.userId (c.sendFileInner X W io recipient filePath voice isHd).2.2 ↔
        u.data ≠ []) := by
  have hchunks : (c.sendChunks X io recipient 0 (u.texts W)).1 = .ok () ∧
      (c.sendFileInner X W io recipient filePath voice isHd).2.2 =
        (c.sendChunks X io recipient 0 (u.texts W)).2.2 := by
    unfold Client.sendFileInner at hok ⊢
    rw [hu] at hok ⊢
    dsimp only at hok ⊢
    generalize c.sendChunks X io recipient 0 (u.texts W) = r at hok ⊢
    obtain ⟨result, c', queued⟩ := r
    cases result with
    | error e => cases hok
    | ok _ => exact ⟨rfl, rfl⟩
  obtain ⟨hsent, hqueued⟩ := hchunks
  have hsealed := Client.sendChunks_sealed haccepted 0 hsent
  rw [hqueued]
  refine ⟨hsealed, ?_⟩
  have hlength : (c.sendChunks X io recipient 0 (u.texts W)).2.2.length = u.pieces.length := by
    rw [← hsealed.length_eq]
    unfold Upload.texts
    rw [List.length_mapIdx]
  constructor
  · intro h hempty
    have hsome := h.atLeastOne
    rw [← hsealed.length_eq, texts_nil W hempty] at hsome
    exact absurd hsome (by decide)
  · intro hne
    have hcount := Upload.length_pieces hne
    have hone : 1 ≤ u.pieces.length := by
      by_contra hzero
      have hflat := u.flatten_pieces
      rw [List.eq_nil_of_length_eq_zero (by omega : u.pieces.length = 0)] at hflat
      exact hne hflat.symm
    refine ⟨hlength.trans hcount, by omega, fun d hnew => ?_⟩
    have htaken := Client.taken_whole hW hne c.userId hnew
    rw [payloads_texts, List.map_map] at htaken
    exact htaken

/-! ## A note and an empty file -/

theorem uploadOf_hd {W : Writers Key} {io : FileInput Key} {data : ByteVec}
    (hdata : io.contents = some data) (filePath : String) (voice : Bool) :
    Client.uploadOf W io filePath voice true = .ok
      { voice := voice
        nanos := io.nanos
        fileName := (FilePath.fileName filePath).getD "unknown"
        isImage := isImageName filePath
        thumbnail := ""
        data := data.1
        data_lt := data.2 } := by
  have hcompress : compress W io data (isImageName filePath) voice true = .ok (data, "") := by
    unfold compress
    rw [if_neg (by simp)]
  unfold Client.uploadOf
  rw [hdata]
  dsimp only
  rw [hcompress]

/-- A file for Bob. -/
def fileForBob (data : ByteVec) : FileInput Term where
  contents := some data
  image := none
  nanos := 17
  draw := freshSendInput
  bundle := some (Client.new symbolic (.secret 2) (.secret 3) "bob").register
  outcome _ := .accepted
  trackedAt := 0

/-- What Alice does with it. -/
def aliceSendsFile (data : ByteVec) :
    Except FileError Unit × Client Term × List Envelope :=
  (Client.new symbolic (.secret 0) (.secret 1) "alice").sendFileInner textCrates textWriters
    (fileForBob data) "bob" "notes.txt" false true

def emptyFile : ByteVec := ⟨[], by decide⟩

theorem length_note : ([1, 2, 3] : Bytes).length < 2 ^ 63 := by decide

def noteFile : ByteVec := ⟨[1, 2, 3], length_note⟩

theorem file_received_note : ∃ u, u.data = [1, 2, 3] ∧
    ReceivedWhole textCrates textWriters u "alice" (aliceSendsFile noteFile).2.2 := by
  have hu : Client.uploadOf textWriters (fileForBob noteFile) "notes.txt" false true = .ok _ :=
    uploadOf_hd rfl "notes.txt" false
  generalize isImageName "notes.txt" = isImage at hu
  generalize (FilePath.fileName "notes.txt").getD "unknown" = fileName at hu
  have hok : (aliceSendsFile noteFile).1 = .ok () :=
    Client.sendFileInner_ok symbolic_lawful hu (fun _ => rfl) (.inr rfl)
  have hne : noteFile.1 ≠ [] := List.cons_ne_nil 1 [2, 3]
  exact ⟨_, rfl, (file_received_iff textWriters_readBy hu hok (fun _ => rfl)).2.mpr hne⟩

/-- An empty file is reported as sent and nothing is: its one chunk is announced in no payload. -/
theorem empty_file_lost : ∃ u c',
    Client.uploadOf textWriters (fileForBob emptyFile) "notes.txt" false true = .ok u ∧
    u.totalChunks = 1 ∧ u.texts textWriters = [] ∧
    aliceSendsFile emptyFile = (.ok (), c', []) ∧
    c'.sentMessages.map (·.recipient) = ["bob"] ∧
    ¬ ReceivedWhole textCrates textWriters u "alice" [] := by
  have hnone : ¬ 1 ≤ ([] : List Envelope).length := by decide
  have hu : Client.uploadOf textWriters (fileForBob emptyFile) "notes.txt" false true = .ok _ :=
    uploadOf_hd rfl "notes.txt" false
  generalize isImageName "notes.txt" = isImage at hu
  generalize (FilePath.fileName "notes.txt").getD "unknown" = fileName at hu
  have htexts := texts_nil textWriters (u := ⟨false, 17, fileName, isImage, "", [], by decide⟩) rfl
  refine ⟨_, (aliceSendsFile emptyFile).2.1, hu, rfl, htexts, ?_⟩
  unfold aliceSendsFile Client.sendFileInner
  rw [hu]
  dsimp only [fileForBob, emptyFile]
  rw [htexts]
  exact ⟨rfl, rfl, fun h => hnone h.atLeastOne⟩

end TinTin.Cli
