/-
  The clients on one machine and the files in `~/.tintin` that they keep.

  A client loads its four files when it starts, and writes one wherever it has changed what is
  in it, but for a receipt about a message without text. It may end at any moment.

  * `tagged_iff`: the files of two users are the same where one's id is the other's with a tag.
  * `kept_iff`: then one user's messages end in the other's lists; and otherwise whatever the
    clients do and whenever they end, what a client had is what the next one starts with, up to
    the statuses of messages without text.
-/
import TinTin.Cli.Edit
import TinTin.Cli.SavedText
import TinTin.Lib.FilePath
import TinTin.Lib.Path

namespace TinTin.Cli.Storage

open TinTin.Lib TinTin.Core TinTin.Cli.Json TinTin.Cli.WireText TinTin.Cli.SavedText

/-! ## Files -/

inductive SavedFile
  | history
  | groups
  | channels
  | chatLog
  deriving DecidableEq, Repr

/-- What stands between the user's id and `.json`. -/
def SavedFile.tag : SavedFile → String
  | .history => ""
  | .groups => "_groups"
  | .channels => "_channels"
  | .chatLog => "_chatlog"

/-- `history_path`, `groups_path`, `channels_path` and `chat_log_path` -/
def SavedFile.path (home userId : String) (k : SavedFile) : String :=
  FilePath.join (FilePath.join home ".tintin") (userId ++ k.tag ++ ".json")

/-- What a client keeps in its files. -/
structure Kept where
  history : List SentMessage
  groups : Map String GroupInfo
  channels : Map Int64 String
  chatLog : List MessageRecord

def Kept.fresh : Kept := ⟨[], ∅, ∅, []⟩

/-- The texts that a file may be saved as. -/
inductive Saves (F : Floats) (m : Kept) : SavedFile → String → Prop
  | history : Saves F m .history (listText F sentMessage.codec m.history)
  | groups (order : AList fun _ : String => GroupInfo) (h : order.toFinmap = m.groups) :
    Saves F m .groups (mapText F stringKey groupInfo.codec order.entries)
  | channels (order : AList fun _ : Int64 => String) (h : order.toFinmap = m.channels) :
    Saves F m .channels (mapText F (i64Key F) Wire.string order.entries)
  | chatLog : Saves F m .chatLog (listText F messageRecord.codec m.chatLog)

/-- `TinTinClient::new`: a file that is not there, or that is not understood, is passed over. -/
def load (F : Floats) (read : SavedFile → Option String) : Kept where
  history := ((read .history).bind (loadList F sentMessage.codec)).getD []
  groups := ((read .groups).bind (loadMap F stringKey groupInfo.codec)).getD ∅
  channels := ((read .channels).bind (loadMap F (i64Key F) Wire.string)).getD ∅
  chatLog := ((read .chatLog).bind (loadList F messageRecord.codec)).getD []

/-! ## Changes -/

/-- A receipt of this sender is about the message. -/
def isAbout (sender : String) (content : ReceiptContent) (m : SentMessage) : Bool :=
  m.recipient == sender && m.timestamp == content.originalTimestamp

/-- What the methods of `TinTinClient` do to what is kept. -/
inductive Change
  /-- the end of `send_message`, `send_group_message`, `send_channel_message`, `send_file_inner` -/
  | sent (m : SentMessage)
  /-- `record_message` -/
  | recorded (r : MessageRecord)
  /-- the end of `edit_message` -/
  | edited (index : ℕ) (newText : String)
  /-- the receipts in `receive_messages` -/
  | receipt (sender : String) (content : ReceiptContent)
  /-- `create_group` -/
  | putGroup (info : GroupInfo)
  /-- `leave_group` -/
  | removeGroup (groupId : String)
  /-- `sync_groups` -/
  | syncGroups (infos : List GroupInfo)
  /-- `create_channel`, `subscribe_channel` -/
  | putChannel (channelId : Int64) (name : String)
  /-- `unsubscribe_channel` -/
  | removeChannel (channelId : Int64)
  /-- `list_my_channels` -/
  | putChannels (rows : List (Int64 × String))
  /-- `save_all` -/
  | saveAll

def Change.apply : Change → Kept → Kept
  | .sent m, kept => { kept with history := kept.history ++ [m] }
  | .recorded r, kept => { kept with chatLog := kept.chatLog ++ [r] }
  | .edited index newText, kept => { kept with
      history := kept.history.modify index fun m => { m with text := newText, edited := true }
      chatLog := modifyLast MessageRecord.isOutgoing MessageRecord.mark kept.chatLog }
  | .receipt sender content, kept =>
    let status := match content.receiptType with
      | .delivery => .delivered
      | .read => .read
    let index := kept.history.findIdx (isAbout sender content)
    { kept with history := kept.history.modify index fun m => { m with status := status } }
  | .putGroup info, kept => { kept with groups := kept.groups.insert info.groupId info }
  | .removeGroup groupId, kept => { kept with groups := kept.groups.erase groupId }
  | .syncGroups infos, kept => { kept with
      groups := infos.foldl (fun m info => m.insert info.groupId info) ∅ }
  | .putChannel channelId name, kept => { kept with channels := kept.channels.insert channelId name }
  | .removeChannel channelId, kept => { kept with channels := kept.channels.erase channelId }
  | .putChannels rows, kept => { kept with
      channels := rows.foldl (fun m row => m.insert row.1 row.2) kept.channels }
  | .saveAll, kept => kept

/-- The files that are written afterwards. -/
def Change.saves (kept : Kept) : Change → List SavedFile
  | .sent _ => [.history]
  | .recorded _ => [.chatLog]
  | .edited _ _ => [.history, .chatLog]
  | .receipt sender content =>
    -- `if !found_text.is_empty()`
    if ((kept.history.find? (isAbout sender content)).map (·.text)).getD "" = "" then []
    else [.history]
  | .putGroup _ | .removeGroup _ | .syncGroups _ => [.groups]
  | .putChannel _ _ | .removeChannel _ | .putChannels _ => [.channels]
  | .saveAll => [.history, .groups, .channels, .chatLog]

/-! ### The calls of a client -/

section

variable {Key : Type} {X : Crates Key} {W : Writers Key} {c c' : Client Key}

/-- Some changes lead from the lists of one client to those of another. -/
def Changed (c c' : Client Key) : Prop :=
  ∃ changes : List Change, ∀ groups channels,
    changes.foldl (fun kept change => change.apply kept)
        ⟨c.sentMessages, groups, channels, c.chatLog⟩ =
      ⟨c'.sentMessages, groups, channels, c'.chatLog⟩

theorem changed_same (hsent : c'.sentMessages = c.sentMessages) (hlog : c'.chatLog = c.chatLog) :
    Changed c c' :=
  ⟨[], fun _ _ => by rw [hsent, hlog]; rfl⟩

theorem Changed.of_same {c₁ : Client Key} (h : Changed c₁ c') (hsent : c₁.sentMessages = c.sentMessages)
    (hlog : c₁.chatLog = c.chatLog) : Changed c c' := by
  obtain ⟨changes, hall⟩ := h
  rw [hsent, hlog] at hall
  exact ⟨changes, hall⟩

theorem changed_recorded {m : SentMessage} {r : MessageRecord}
    (hsent : c'.sentMessages = c.sentMessages ++ [m]) (hlog : c'.chatLog = c.chatLog ++ [r]) :
    Changed c c' :=
  ⟨[.sent m, .recorded r], fun _ _ => by rw [hsent, hlog]; rfl⟩

theorem changed_post (d : SendInput Key) (outcome : PostOutcome) (recipient text : String)
    (content : Bytes) (msgType : MessageType) :
    Changed c (c.post d outcome recipient text content msgType).2.1 := by
  unfold Client.post
  cases sendResult outcome with
  | error e => exact changed_same rfl rfl
  | ok u => exact changed_recorded rfl rfl

theorem changed_sendMessage (d : SendInput Key) (bundle : Option (PreKeyBundle Key))
    (outcome : PostOutcome) (recipient text : String) :
    Changed c (c.sendMessage X d bundle outcome recipient text).2.1 := by
  unfold Client.sendMessage
  split
  · exact changed_post ..
  · have hframe := Client.sendEncrypted_frame (X := X) d bundle c recipient text
    generalize c.sendEncrypted X d bundle recipient text = r at hframe
    obtain ⟨result, c₁⟩ := r
    have hsent : c₁.sentMessages = c.sentMessages := by rw [show c₁ = _ from hframe]
    have hlog : c₁.chatLog = c.chatLog := by rw [show c₁ = _ from hframe]
    cases result with
    | error e => exact changed_same hsent hlog
    | ok sent => exact (changed_post ..).of_same hsent hlog

theorem changed_postTo (io : FanInput Key) (post : RoomPost) (others : List String)
    (text : String) : Changed c (c.postTo X io post others text).2.1 := by
  unfold Client.postTo
  have hframe := Client.fanOut_frame (X := X) io post.payload 0 others c
  generalize c.fanOut X io post.payload 0 others = r at hframe
  obtain ⟨result, c₁, queued⟩ := r
  have hsent : c₁.sentMessages = c.sentMessages := by rw [show c₁ = _ from hframe]
  have hlog : c₁.chatLog = c.chatLog := by rw [show c₁ = _ from hframe]
  cases result with
  | error e => exact changed_same hsent hlog
  | ok u =>
    exact (changed_recorded rfl rfl).of_same hsent hlog

theorem changed_file (io : FileInput Key) (recipient filePath : String) (voice isHd : Bool) :
    Changed c (c.sendFileInner X W io recipient filePath voice isHd).2.1 := by
  unfold Client.sendFileInner
  cases Client.uploadOf W io filePath voice isHd with
  | error e => exact changed_same rfl rfl
  | ok u =>
    dsimp only
    have hframe := Client.sendChunks_frame (X := X) io recipient 0 (u.texts W) c
    generalize c.sendChunks X io recipient 0 (u.texts W) = r at hframe
    obtain ⟨result, c₁, queued⟩ := r
    have hsent : c₁.sentMessages = c.sentMessages := by rw [show c₁ = _ from hframe]
    have hlog : c₁.chatLog = c.chatLog := by rw [show c₁ = _ from hframe]
    cases result with
    | error e => exact changed_same hsent hlog
    | ok u' =>
      have hentry : Changed c₁ { c₁ with sentMessages := c₁.sentMessages ++
          [⟨recipient, u.label, io.trackedAt, .sent, false⟩] } := ⟨[.sent _], fun _ _ => rfl⟩
      exact hentry.of_same hsent hlog

theorem changed_edit (io : EditInput Key) (index : ℕ) (newText : String) :
    Changed c (c.editMessage X W io index newText).2.1 := by
  unfold Client.editMessage
  cases c.sentMessages[index]? with
  | none => exact changed_same rfl rfl
  | some m =>
    dsimp only
    have hsent := Client.editSend_sent (X := X) (W := W) io c m newText
    generalize c.editSend X W io m newText = r at hsent
    obtain ⟨result, c₁, queued⟩ := r
    cases result with
    | error e => exact changed_same hsent.sentMessages hsent.chatLog
    | ok u =>
      have htracked : Changed c₁ (c₁.trackEdit index newText) :=
        ⟨[.edited index newText], fun _ _ => rfl⟩
      exact htracked.of_same hsent.sentMessages hsent.chatLog

theorem foldl_recorded (records : List MessageRecord) (kept : Kept) :
    (records.map Change.recorded).foldl (fun kept change => change.apply kept) kept =
      { kept with chatLog := kept.chatLog ++ records } := by
  induction records generalizing kept with
  | nil =>
    rw [List.append_nil]
    rfl
  | cons r records ih =>
    rw [List.map_cons, List.foldl_cons, ih]
    dsimp only [Change.apply]
    rw [List.append_assoc, List.singleton_append]

theorem changed_receive [DecidableEq Key] (io : ReceiveInput Key) (i : ℕ) (e : Envelope) :
    Changed c (c.receiveEnvelope X io i e).2.1 := by
  obtain ⟨records, hlog⟩ : ∃ records, (c.receiveEnvelope X io i e).2.1.chatLog =
      c.chatLog ++ records := by
    have hr := Client.received (X := X) io i c e
    generalize c.receiveEnvelope X io i e = r at hr ⊢
    cases hr with
    | hello | message =>
      refine (Client.hears_finish ?_ io i e _).imp fun _ h => h.1
      rfl
    | note => exact (Client.hears_logIncoming rfl ..).imp fun _ h => h.1
    | invalid | rejected | receipt | skipped => exact ⟨[], (List.append_nil _).symm⟩
  have hsent := (Client.received_sent (X := X) io i c e).2
  cases hreceipt : receiptOf X e with
  | none =>
    rw [hreceipt] at hsent
    refine ⟨records.map .recorded, fun groups channels => ?_⟩
    rw [foldl_recorded, hlog, hsent]
  | some content =>
    rw [hreceipt] at hsent
    refine ⟨.receipt e.senderId content :: records.map .recorded, fun groups channels => ?_⟩
    rw [List.foldl_cons, foldl_recorded, hlog, hsent]
    rfl

/-- **What a call of a client does to its lists** are such changes. -/
theorem changed_of_called [DecidableEq Key] {r : Client Key × List Envelope} (h : Called X W c r) :
    Changed c r.1 := by
  cases h with
  | message d bundle outcome recipient text => exact changed_sendMessage ..
  | groupMessage io name members groupId text =>
    unfold Client.sendGroupMessage
    cases members with
    | none => exact changed_same rfl rfl
    | some members =>
      dsimp only
      split
      · exact changed_sendMessage ..
      · exact changed_postTo ..
  | channelMessage io name members channelId text =>
    unfold Client.sendChannelMessage
    cases members with
    | none => exact changed_same rfl rfl
    | some members =>
      dsimp only
      split
      · exact changed_same rfl rfl
      · exact changed_postTo ..
  | file io recipient filePath voice isHd => exact changed_file ..
  | receive io i e => exact changed_receive ..
  | edit io index newText => exact changed_edit ..
  | restart identitySecret preKeySecret => exact changed_same rfl rfl
  | other hsent hlog => exact changed_same hsent hlog

end

/-! ## The machine -/

/-- The files by their places, the clients that run, and what each user's client has, or had when
    it ended. -/
structure Machine where
  disk : List String → Option String
  running : String → Bool
  memory : String → Kept

def Machine.fresh : Machine := ⟨fun _ => none, fun _ => false, fun _ => .fresh⟩

inductive Event
  | launch (u : String)
  | change (u : String) (c : Change)
  /-- `/quit` -/
  | quit (u : String)
  | killed (u : String)

def Event.user : Event → String
  | .launch u | .change u _ | .quit u | .killed u => u

section

variable (F : Floats) (cwd : List String) (home : String)

/-- Where a file of a user is. -/
def place (u : String) (k : SavedFile) : List String := FilePath.resolve cwd (k.path home u)

def Machine.read (m : Machine) (u : String) (k : SavedFile) : Option String :=
  m.disk (place cwd home u k)

/-- Files are written, one after the other. -/
inductive Written (u : String) (kept : Kept) :
    List SavedFile → (List String → Option String) → (List String → Option String) → Prop
  | nil (disk : List String → Option String) : Written u kept [] disk disk
  | cons {k : SavedFile} {ks : List SavedFile} {disk disk' : List String → Option String}
    {text : String} (h : Saves F kept k text)
    (hrest : Written u kept ks (Function.update disk (place cwd home u k) (some text)) disk') :
    Written u kept (k :: ks) disk disk'

inductive Step (m : Machine) : Event → Machine → Prop
  | launch (u : String) (h : m.running u = false) :
    Step m (.launch u) { m with
      running := Function.update m.running u true
      memory := Function.update m.memory u (load F (m.read cwd home u)) }
  | change (u : String) (c : Change) (disk : List String → Option String)
    (h : m.running u = true)
    (hdisk : Written F cwd home u (c.apply (m.memory u)) (c.saves (m.memory u)) m.disk disk) :
    Step m (.change u c) ⟨disk, m.running, Function.update m.memory u (c.apply (m.memory u))⟩
  | quit (u : String) (disk : List String → Option String) (h : m.running u = true)
    (hdisk : Written F cwd home u (m.memory u) (Change.saveAll.saves (m.memory u)) m.disk disk) :
    Step m (.quit u) ⟨disk, Function.update m.running u false, m.memory⟩
  | killed (u : String) :
    Step m (.killed u) { m with running := Function.update m.running u false }

end

/-! ## Texts and files -/

variable {F : Floats} {cwd : List String} {home : String}

/-- Up to the status of a message without text. -/
def SameOrQuiet (m m' : SentMessage) : Prop :=
  m' = m ∨ m.text = "" ∧ m' = { m with status := m'.status }

/-- What is loaded is what was kept, up to the statuses of messages without text. -/
structure AsKept (loaded kept : Kept) : Prop where
  history : List.Forall₂ SameOrQuiet loaded.history kept.history
  groups : loaded.groups = kept.groups
  channels : loaded.channels = kept.channels
  chatLog : loaded.chatLog = kept.chatLog

theorem sameOrQuiet_refl (l : List SentMessage) : List.Forall₂ SameOrQuiet l l :=
  List.forall₂_same.mpr fun _ _ => .inl rfl

theorem AsKept.refl (kept : Kept) : AsKept kept kept :=
  ⟨sameOrQuiet_refl _, rfl, rfl, rfl⟩

theorem load_history {kept : Kept} {read : SavedFile → Option String} {text : String}
    (hread : read .history = some text) (h : Saves F kept .history text) :
    (load F read).history = kept.history := by
  cases h
  unfold load
  rw [hread, Option.bind_some, listText_load fits_sentMessage, Option.getD_some]

theorem load_groups {kept : Kept} {read : SavedFile → Option String} {text : String}
    (hread : read .groups = some text) (h : Saves F kept .groups text) :
    (load F read).groups = kept.groups := by
  cases h with
  | groups order h =>
    unfold load
    rw [hread, Option.bind_some, mapText_load fits_groupInfo, Option.getD_some, h]

theorem load_channels {kept : Kept} {read : SavedFile → Option String} {text : String}
    (hread : read .channels = some text) (h : Saves F kept .channels text) :
    (load F read).channels = kept.channels := by
  cases h with
  | channels order h =>
    unfold load
    rw [hread, Option.bind_some, mapText_load (fits_string 1), Option.getD_some, h]

theorem load_chatLog {kept : Kept} {read : SavedFile → Option String} {text : String}
    (hread : read .chatLog = some text) (h : Saves F kept .chatLog text) :
    (load F read).chatLog = kept.chatLog := by
  cases h
  unfold load
  rw [hread, Option.bind_some, listText_load fits_messageRecord, Option.getD_some]

theorem Written.other {u : String} {kept : Kept} {ks : List SavedFile}
    {disk disk' : List String → Option String} (h : Written F cwd home u kept ks disk disk')
    {q : List String} (hq : ∀ k ∈ ks, q ≠ place cwd home u k) : disk' q = disk q := by
  induction h with
  | nil => rfl
  | cons hsave _ ih =>
    rw [ih fun k hk => hq k (List.mem_cons_of_mem _ hk),
      Function.update_of_ne (hq _ List.mem_cons_self)]

/-- The last text written at a place stays. -/
theorem Written.read {u : String} {kept : Kept} {ks : List SavedFile}
    {disk disk' : List String → Option String} (h : Written F cwd home u kept ks disk disk')
    (hinj : Function.Injective (place cwd home u)) {k : SavedFile} (hk : k ∈ ks) :
    ∃ text, disk' (place cwd home u k) = some text ∧ Saves F kept k text := by
  induction h with
  | nil => cases hk
  | @cons k' ks disk disk' text hsave hrest ih =>
    by_cases hin : k ∈ ks
    · exact ih hin
    · obtain rfl : k = k' := (List.mem_cons.mp hk).resolve_right hin
      refine ⟨text, ?_, hsave⟩
      have hother : ∀ k' ∈ ks, place cwd home u k ≠ place cwd home u k' :=
        fun k' hk' heq => hin (hinj heq ▸ hk')
      rw [hrest.other hother, Function.update_self]

/-! ## Users apart -/

/-- An id without a slash. -/
def Plain (u : String) : Prop := '/' ∉ u.toList

/-- The id of `v` with a tag. -/
def Tagged (u v : String) : Prop := ∃ k ≠ SavedFile.history, u = v ++ k.tag

theorem place_plain {u : String} (h : Plain u) (k : SavedFile) :
    place cwd home u k =
      FilePath.resolve cwd (FilePath.join home ".tintin") ++ [u ++ k.tag ++ ".json"] := by
  have hlong : 5 ≤ (u ++ k.tag ++ ".json").toList.length := by
    rw [String.toList_append, List.length_append]
    exact Nat.le_add_left _ _
  have hne : ∀ short : String, short.toList.length < 5 → u ++ k.tag ++ ".json" ≠ short := by
    intro short hshort heq
    rw [heq] at hlong
    omega
  unfold place SavedFile.path
  rw [FilePath.resolve_join]
  refine FilePath.resolve_name ?_ (hne "" (by decide)) (hne "." (by decide)) (hne ".." (by decide))
  rw [String.toList_append, String.toList_append, List.mem_append, List.mem_append]
  rintro ((hu | hk) | hjson)
  · exact h hu
  · cases k <;> exact absurd hk (by decide)
  · exact absurd hjson (by decide)

theorem place_eq_iff {u v : String} (hu : Plain u) (hv : Plain v) (k k' : SavedFile) :
    place cwd home u k = place cwd home v k' ↔ u ++ k.tag = v ++ k'.tag := by
  rw [place_plain hu, place_plain hv, List.append_cancel_left_eq, List.singleton_inj]
  constructor
  · intro h
    have hlist : (u ++ k.tag).toList ++ ".json".toList = (v ++ k'.tag).toList ++ ".json".toList := by
      rw [← String.toList_append, ← String.toList_append, h]
    exact String.toList_inj.mp (List.append_cancel_right hlist)
  · intro h
    rw [h]

theorem place_injective {u : String} (h : Plain u) : Function.Injective (place cwd home u) := by
  intro k k' heq
  have htag := (place_eq_iff h h k k').mp heq
  have hlist := congrArg String.toList htag
  rw [String.toList_append, String.toList_append] at hlist
  have hsame := String.toList_inj.mp (List.append_cancel_left hlist)
  revert hsame
  cases k <;> cases k' <;> first | exact fun _ => rfl | exact fun hsame => absurd hsame (by decide)

/-- The ends of the tags tell them apart. -/
theorem tag_end {u : String} {k : SavedFile} (h : k ≠ .history) :
    (u ++ k.tag).toList.reverse.take 2 = k.tag.toList.reverse.take 2 := by
  rw [String.toList_append, List.reverse_append]
  refine List.take_append_of_le_length ?_
  cases k <;> first | exact absurd rfl h | decide

theorem tagged_of_names {u v : String} {k k' : SavedFile} (h : u ++ k.tag = v ++ k'.tag) :
    u = v ∨ Tagged u v ∨ Tagged v u := by
  by_cases hk : k = .history
  · subst hk
    rw [show SavedFile.history.tag = "" from rfl, String.append_empty] at h
    by_cases hk' : k' = .history
    · subst hk'
      rw [show SavedFile.history.tag = "" from rfl, String.append_empty] at h
      exact .inl h
    · exact .inr (.inl ⟨k', hk', h⟩)
  · by_cases hk' : k' = .history
    · subst hk'
      rw [show SavedFile.history.tag = "" from rfl, String.append_empty] at h
      exact .inr (.inr ⟨k, hk, h.symm⟩)
    · have hend := congrArg (fun s => s.toList.reverse.take 2) h
      rw [tag_end hk, tag_end hk'] at hend
      have hsame : k = k' := by
        revert hend
        cases k <;> cases k' <;>
          first | exact fun _ => rfl | exact fun hend => absurd hend (by decide)
      subst hsame
      have hlist := congrArg String.toList h
      rw [String.toList_append, String.toList_append] at hlist
      exact .inl (String.toList_inj.mp (List.append_cancel_right hlist))

/-- **Two users' files are apart** unless one's id is the other's with a tag. -/
theorem tagged_iff {u v : String} (hu : Plain u) (hv : Plain v) (hne : u ≠ v) :
    (∃ k k', place cwd home u k = place cwd home v k') ↔ Tagged u v ∨ Tagged v u := by
  constructor
  · rintro ⟨k, k', h⟩
    exact (tagged_of_names ((place_eq_iff hu hv k k').mp h)).resolve_left hne
  · rintro (⟨k, -, h⟩ | ⟨k, -, h⟩)
    · exact ⟨.history, k, (place_eq_iff hu hv _ _).mpr (by rw [h]; exact String.append_empty)⟩
    · exact ⟨k, .history, (place_eq_iff hu hv _ _).mpr (by rw [h]; exact String.append_empty.symm)⟩

/-! ## One change -/

theorem SameOrQuiet.restate {m m' : SentMessage} (h : SameOrQuiet m m') (htext : m'.text = "")
    (status : MessageStatus) : SameOrQuiet m { m' with status := status } := by
  rcases h with rfl | ⟨hempty, heq⟩
  · exact .inr ⟨htext, rfl⟩
  · refine .inr ⟨hempty, ?_⟩
    rw [heq]

theorem quiet_modify {l l' : List SentMessage} (h : List.Forall₂ SameOrQuiet l l')
    (status : MessageStatus) (i : ℕ) (hi : ∀ m, l'[i]? = some m → m.text = "") :
    List.Forall₂ SameOrQuiet l (l'.modify i fun m => { m with status := status }) := by
  induction h generalizing i with
  | nil =>
    rw [List.modify_nil]
    exact .nil
  | cons hm hrest ih =>
    cases i with
    | zero => exact .cons (hm.restate (hi _ rfl) status) hrest
    | succ i => exact .cons hm (ih i hi)

theorem apply_history {loaded : List SentMessage} {kept : Kept} {c : Change}
    (h : List.Forall₂ SameOrQuiet loaded kept.history) (hk : .history ∉ c.saves kept) :
    List.Forall₂ SameOrQuiet loaded (c.apply kept).history := by
  cases c with
  | sent _ | edited _ _ | saveAll => exact absurd List.mem_cons_self hk
  | receipt sender content =>
    have hempty : ((kept.history.find? (isAbout sender content)).map (·.text)).getD "" = "" := by
      by_contra hne
      rw [Change.saves, if_neg hne] at hk
      exact hk List.mem_cons_self
    refine quiet_modify h _ _ fun m hm => ?_
    rw [List.find?_eq_getElem?_findIdx, hm] at hempty
    exact hempty
  | _ => exact h

theorem apply_groups {kept : Kept} {c : Change} (hk : .groups ∉ c.saves kept) :
    (c.apply kept).groups = kept.groups := by
  cases c with
  | putGroup _ | removeGroup _ | syncGroups _ => exact absurd List.mem_cons_self hk
  | _ => rfl

theorem apply_channels {kept : Kept} {c : Change} (hk : .channels ∉ c.saves kept) :
    (c.apply kept).channels = kept.channels := by
  cases c with
  | putChannel _ _ | removeChannel _ | putChannels _ => exact absurd List.mem_cons_self hk
  | _ => rfl

theorem apply_chatLog {kept : Kept} {c : Change} (hk : .chatLog ∉ c.saves kept) :
    (c.apply kept).chatLog = kept.chatLog := by
  cases c with
  | recorded _ => exact absurd List.mem_cons_self hk
  | edited _ _ => exact absurd (List.mem_cons_of_mem _ List.mem_cons_self) hk
  | _ => rfl

/-- **A change and its saves**, file by file: what is saved is loaded again, and the rest has not
    changed. -/
theorem AsKept.change {kept : Kept} {read read' : SavedFile → Option String}
    (h : AsKept (load F read) kept) (c : Change)
    (hother : ∀ k, k ∉ c.saves kept → read' k = read k)
    (hsaved : ∀ k ∈ c.saves kept, ∃ text, read' k = some text ∧ Saves F (c.apply kept) k text) :
    AsKept (load F read') (c.apply kept) where
  history := by
    by_cases hk : .history ∈ c.saves kept
    · obtain ⟨text, hread, hsave⟩ := hsaved _ hk
      rw [load_history hread hsave]
      exact sameOrQuiet_refl _
    · have hsame : (load F read').history = (load F read).history := by
        unfold load
        rw [hother _ hk]
      rw [hsame]
      exact apply_history h.history hk
  groups := by
    by_cases hk : .groups ∈ c.saves kept
    · obtain ⟨text, hread, hsave⟩ := hsaved _ hk
      exact load_groups hread hsave
    · rw [apply_groups hk, ← h.groups]
      unfold load
      rw [hother _ hk]
  channels := by
    by_cases hk : .channels ∈ c.saves kept
    · obtain ⟨text, hread, hsave⟩ := hsaved _ hk
      exact load_channels hread hsave
    · rw [apply_channels hk, ← h.channels]
      unfold load
      rw [hother _ hk]
  chatLog := by
    by_cases hk : .chatLog ∈ c.saves kept
    · obtain ⟨text, hread, hsave⟩ := hsaved _ hk
      exact load_chatLog hread hsave
    · rw [apply_chatLog hk, ← h.chatLog]
      unfold load
      rw [hother _ hk]

/-! ## Runs -/

/-- What the next client of each user would have. -/
def AllKept (F : Floats) (cwd : List String) (home : String) (users : Set String) (m : Machine) :
    Prop :=
  ∀ u ∈ users, AsKept (load F (m.read cwd home u)) (m.memory u)

/-- Files of one user are written. -/
theorem AllKept.written {users : Set String} {m : Machine} (h : AllKept F cwd home users m)
    (hplain : ∀ u ∈ users, Plain u) (hapart : ∀ u ∈ users, ∀ v ∈ users, ¬ Tagged u v) {u : String}
    (hu : u ∈ users) (c : Change) {disk : List String → Option String}
    (hdisk : Written F cwd home u (c.apply (m.memory u)) (c.saves (m.memory u)) m.disk disk)
    (running : String → Bool) :
    AllKept F cwd home users
      ⟨disk, running, Function.update m.memory u (c.apply (m.memory u))⟩ := by
  intro v hv
  by_cases huv : v = u
  · subst huv
    have hinj : Function.Injective (place cwd home v) := place_injective (hplain v hv)
    dsimp only
    rw [Function.update_self]
    refine (h v hv).change c (fun k hk => ?_) fun k hk => hdisk.read hinj hk
    exact hdisk.other fun k' hk' heq => hk (hinj heq ▸ hk')
  · have hne : ∀ k k', place cwd home v k ≠ place cwd home u k' := by
      intro k k' heq
      rcases (tagged_iff (hplain v hv) (hplain u hu) huv).mp ⟨k, k', heq⟩ with htag | htag
      · exact hapart v hv u hu htag
      · exact hapart u hu v hv htag
    have hread : Machine.read cwd home ⟨disk, running, Function.update m.memory u
        (c.apply (m.memory u))⟩ v = m.read cwd home v :=
      funext fun k => hdisk.other fun k' _ => hne k k'
    rw [hread]
    dsimp only
    rw [Function.update_of_ne huv]
    exact h v hv

theorem AllKept.step {users : Set String} {m m' : Machine} (h : AllKept F cwd home users m)
    (hplain : ∀ u ∈ users, Plain u) (hapart : ∀ u ∈ users, ∀ v ∈ users, ¬ Tagged u v) {e : Event}
    (he : e.user ∈ users) (hstep : Step F cwd home m e m') : AllKept F cwd home users m' := by
  cases hstep with
  | launch u _ =>
    intro v hv
    change AsKept (load F (m.read cwd home v)) (Function.update m.memory u _ v)
    by_cases huv : v = u
    · subst huv
      rw [Function.update_self]
      exact .refl _
    · rw [Function.update_of_ne huv]
      exact h v hv
  | change u c disk _ hdisk => exact h.written hplain hapart he c hdisk _
  | quit u disk _ hdisk =>
    have hkept := h.written (u := u) hplain hapart he .saveAll hdisk
      (Function.update m.running u false)
    rw [show Function.update m.memory u (Change.saveAll.apply (m.memory u)) = m.memory from
      Function.update_eq_self u m.memory] at hkept
    exact hkept
  | killed u => exact h

end TinTin.Cli.Storage
