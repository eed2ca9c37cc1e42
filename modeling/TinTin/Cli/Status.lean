/-
  What the status of a sent message says, over whole runs of a talk.

  A receipt is about the first tracked message with its sender as the recipient and with its
  timestamp. So a message follows the receipts about envelopes that bear the time it was tracked
  under, whosesoever they are: `traced`. A text is tracked under the time of its envelope. A file
  is tracked under the time at which its last chunk has been sent, which as a rule no chunk bears.

  * `stepped`: what a step can do; `invariants`: what every run keeps.
  * `stays_sent`: a message under a time that no envelope bears.
  * `status_sound`: where exactly one envelope bears the message's time, and is one of its own,
    the status follows the receipts about the message.
-/
import TinTin.Cli.Receipts
import TinTin.Cli.Files
import TinTin.Cli.Delivery

namespace TinTin.Cli

open TinTin.Lib TinTin.Core TinTin.Server TinTin.Symbolic

variable {Key : Type} {X : Crates Key}

/-! ## What sends track -/

namespace Client

theorem getOrCreateSession_sent {c c₁ : Client Key} {recipient : String} {s : Session Key}
    {isNew : Bool} {io : SendInput Key} {bundle : Option (PreKeyBundle Key)}
    (h : c.getOrCreateSession X io bundle recipient = some (s, isNew, c₁)) :
    c₁.userId = c.userId ∧ c₁.sentMessages = c.sentMessages := by
  rcases getOrCreateSession_cases h with ⟨-, -, rfl⟩ | ⟨-, -, -, rfl⟩
  · exact ⟨rfl, rfl⟩
  · exact ⟨rfl, rfl⟩

theorem wrap_isChat (c : Client Key) (s : Session Key) (isNew : Bool) (m : SessionMessage Key) :
    (c.wrap X s isNew m).2.isChat = true := by
  cases isNew <;> rfl

/-- `send_encrypted` tracks nothing, and makes the content of a chat envelope. -/
theorem sendEncrypted_sent (io : SendInput Key) (bundle : Option (PreKeyBundle Key))
    (c : Client Key) (recipient payload : String) :
    (c.sendEncrypted X io bundle recipient payload).2.userId = c.userId ∧
      (c.sendEncrypted X io bundle recipient payload).2.sentMessages = c.sentMessages ∧
      ∀ content msgType, (c.sendEncrypted X io bundle recipient payload).1 =
        .ok (content, msgType) → msgType.isChat = true := by
  unfold sendEncrypted
  rcases hget : c.getOrCreateSession X io bundle recipient with _ | ⟨s, isNew, c₁⟩
  · exact ⟨rfl, rfl, fun _ _ h => by cases h⟩
  · obtain ⟨huser, hsent⟩ := getOrCreateSession_sent hget
    dsimp only
    cases (s.encrypt X.prims io.nonce (utf8 payload)).1 with
    | error e => exact ⟨huser, hsent, fun _ _ h => by cases h⟩
    | ok m =>
      refine ⟨huser, hsent, fun content msgType h => ?_⟩
      have htype : _ = msgType := congrArg Prod.snd (Except.ok.inj h)
      exact htype ▸ wrap_isChat ..

/-- What `send_message` tracks of an envelope: whom it is for, and its timestamp. -/
theorem sendMessage_sent (io : SendInput Key) (bundle : Option (PreKeyBundle Key))
    (c : Client Key) (recipient text : String) :
    (∃ r c', c.sendMessage X io bundle .accepted recipient text = (r, c', none) ∧
      c'.userId = c.userId ∧ c'.sentMessages = c.sentMessages) ∨
    ∃ r c' e, c.sendMessage X io bundle .accepted recipient text = (r, c', some e) ∧
      c'.userId = c.userId ∧ e.senderId = c.userId ∧ e.msgType.isChat = true ∧
      c'.sentMessages = c.sentMessages ++ [⟨e.recipientId, text, e.timestamp, .sent, false⟩] := by
  unfold sendMessage
  by_cases hself : recipient = c.userId
  · rw [if_pos hself]
    exact .inr ⟨_, _, _, rfl, rfl, rfl, rfl, rfl⟩
  · rw [if_neg hself]
    obtain ⟨huser, hsent, hchat⟩ := sendEncrypted_sent (X := X) io bundle c recipient text
    generalize c.sendEncrypted X io bundle recipient text = r at huser hsent hchat ⊢
    obtain ⟨result, c₁⟩ := r
    cases result with
    | error e => exact .inl ⟨_, _, rfl, huser, hsent⟩
    | ok p =>
      refine .inr ⟨_, _, _, rfl, huser, huser, hchat _ _ rfl, ?_⟩
      show c₁.sentMessages ++ _ = _
      rw [hsent]
      rfl

end Client

/-! ## What a step can do -/

namespace Talk

theorem setDoing_self {w : Talk Key} {u : String} {d : Doing} (h : w.doing u = d) :
    w.setDoing u d = w := by
  unfold setDoing
  rw [← h, Function.update_eq_self]

theorem setClient_client (w : Talk Key) (u : String) (c : Client Key) :
    (w.setClient u c).client u = c :=
  Function.update_self ..

theorem setClient_of_ne (w : Talk Key) {u x : String} (c : Client Key) (hx : x ≠ u) :
    (w.setClient u c).client x = w.client x :=
  Function.update_of_ne hx ..

theorem push_client_of_ne (w : Talk Key) {u x : String} (recipient text : String) (now : UInt64)
    (own : Option (List ℕ)) (hx : x ≠ u) :
    (w.push u recipient text now own).client x = w.client x :=
  Function.update_of_ne hx ..

theorem note_own (w : Talk Key) (u : String) (own : Option (List ℕ)) :
    (w.note u own).own u = w.own u ++ [own] :=
  Function.update_self ..

theorem setDoing_doing (w : Talk Key) (u : String) (d : Doing) : (w.setDoing u d).doing u = d :=
  Function.update_self ..

variable [DecidableEq Key]

/-- **What a step can do.** -/
inductive Stepped (X : Crates Key) (w : Talk Key) : Talk Key → Prop
  /-- no envelope, and no new message -/
  | still (u : String) (c : Client Key) (d : Doing) (hbatch : (w.doing u).batch = d.batch)
    (hfile : ∀ r own, d = .sendingFile r own → own = []) (huser : c.userId = u)
    (hsame : c.sentMessages.map SentMessage.tracking =
      (w.client u).sentMessages.map SentMessage.tracking) :
    Stepped X w ((w.setClient u c).setDoing u d)
  /-- a chat envelope, which may be a chunk of a file -/
  | sent (u : String) (c : Client Key) (e : Envelope) (d : Doing)
    (hbatch : (w.doing u).batch = d.batch)
    (hfile : ∀ r own, d = .sendingFile r own →
      ∃ before, w.doing u = .sendingFile r before ∧ own = before ++ [w.posted.length])
    (huser : c.userId = u) (hsame : c.sentMessages = (w.client u).sentMessages)
    (hsender : e.senderId = u) (hchat : e.msgType.isChat = true) :
    Stepped X w (((w.setClient u c).post e).setDoing u d)
  /-- a text -/
  | texted (u : String) (c : Client Key) (e : Envelope) (text : String) (hidle : w.doing u = .idle)
    (huser : c.userId = u) (hsender : e.senderId = u) (hchat : e.msgType.isChat = true)
    (hsent : c.sentMessages = (w.client u).sentMessages ++
      [⟨e.recipientId, text, e.timestamp, .sent, false⟩]) :
    Stepped X w (((w.setClient u c).post e).note u (some [w.posted.length]))
  /-- a message whose envelopes were posted before -/
  | tracked (u recipient text : String) (now : UInt64) (own : Option (List ℕ))
    (hbatch : (w.doing u).batch = [])
    (hfile : ∀ ks, own = some ks → ∃ r, w.doing u = .sendingFile r ks) :
    Stepped X w ((w.push u recipient text now own).setDoing u .idle)
  | fetched (u : String) (clock : ℕ → UInt64) (hidle : w.doing u = .idle) :
    Stepped X w (w.taken X u clock)
  | read (u : String) (io : ReceiveInput Key) (n : Numbered) (rest : List Numbered)
    (hdoing : w.doing u = .reading (n :: rest)) : Stepped X w (w.readOne X u io n rest)

theorem stepped {w w' : Talk Key} (huser : ∀ u, (w.client u).userId = u) {a : TalkStep Key}
    (h : w.step X a = some w') : Stepped X w w' := by
  unfold step at h
  cases a with
  | text u recipient text io bundle =>
    dsimp only at h
    cases hdoing : w.doing u with
    | idle =>
      rw [hdoing] at h
      dsimp only at h
      rcases Client.sendMessage_sent (X := X) io bundle (w.client u) recipient text with
        ⟨r, c, hsend, hc, hsent⟩ | ⟨r, c, e, hsend, hc, hsender, hchat, hsent⟩
      · rw [hsend] at h
        cases h
        have hstill := Stepped.still (X := X) (w := w) u c .idle (by rw [hdoing])
          (fun _ _ h => by cases h) (hc.trans (huser u)) (by rw [hsent])
        rwa [setDoing_self (show (w.setClient u c).doing u = .idle from hdoing)] at hstill
      · rw [hsend] at h
        cases h
        exact .texted u c e text hdoing (hc.trans (huser u)) (hsender.trans (huser u)) hchat hsent
    | sendingFile | reading =>
      rw [hdoing] at h
      cases h
  | startFile u recipient =>
    dsimp only at h
    cases hdoing : w.doing u with
    | idle =>
      rw [hdoing] at h
      cases h
      have hstill := Stepped.still (X := X) (w := w) u (w.client u) (.sendingFile recipient [])
        (by rw [hdoing]; rfl) (fun _ _ h => by cases h; rfl) (huser u) rfl
      have hsame : w.setClient u (w.client u) = w := by
        unfold setClient
        rw [Function.update_eq_self]
      rwa [hsame] at hstill
    | sendingFile | reading =>
      rw [hdoing] at h
      cases h
  | chunk u payload io bundle =>
    dsimp only at h
    cases hdoing : w.doing u with
    | sendingFile recipient own =>
      rw [hdoing] at h
      dsimp only at h
      obtain ⟨hc, hsent, hchat⟩ := Client.sendEncrypted_sent (X := X) io bundle (w.client u)
        recipient payload
      generalize (w.client u).sendEncrypted X io bundle recipient payload = r at h hc hsent hchat
      obtain ⟨result, c⟩ := r
      cases result with
      | error e =>
        cases h
        exact .still u c .idle (by rw [hdoing]; rfl) (fun _ _ h => by cases h)
          (hc.trans (huser u)) (congrArg _ hsent)
      | ok p =>
        cases h
        refine .sent u c _ _ (by rw [hdoing]; rfl) (fun r ks h => ?_) (hc.trans (huser u)) hsent
          (hc.trans (huser u)) (hchat _ _ rfl)
        cases h
        exact ⟨own, hdoing, rfl⟩
    | idle | reading =>
      rw [hdoing] at h
      cases h
  | endFile u text now =>
    dsimp only at h
    cases hdoing : w.doing u with
    | sendingFile recipient own =>
      rw [hdoing] at h
      cases h
      refine .tracked u recipient text now (some own) (by rw [hdoing]; rfl) fun ks h => ?_
      cases h
      exact ⟨recipient, hdoing⟩
    | idle | reading =>
      rw [hdoing] at h
      cases h
  | track u label text now =>
    dsimp only at h
    cases hdoing : w.doing u with
    | idle =>
      rw [hdoing] at h
      cases h
      have htracked := Stepped.tracked (X := X) (w := w) u label text now none
        (by rw [hdoing]; rfl) (fun _ h => by cases h)
      rwa [setDoing_self (show (w.push u label text now none).doing u = .idle from hdoing)]
        at htracked
    | sendingFile | reading =>
      rw [hdoing] at h
      cases h
  | other u c e =>
    dsimp only at h
    cases hdoing : w.doing u with
    | idle =>
      rw [hdoing] at h
      dsimp only at h
      split at h
      · rename_i hc
        obtain ⟨hc, hsender, hchat, hsent⟩ := hc
        cases h
        have hposted := Stepped.sent (X := X) (w := w) u c e .idle (by rw [hdoing])
          (fun _ _ h => by cases h) hc hsent hsender hchat
        rwa [setDoing_self (show ((w.setClient u c).post e).doing u = .idle from hdoing)]
          at hposted
      · cases h
    | sendingFile | reading =>
      rw [hdoing] at h
      cases h
  | change u c =>
    dsimp only at h
    cases hdoing : w.doing u with
    | idle =>
      rw [hdoing] at h
      dsimp only at h
      split at h
      · rename_i hc
        cases h
        have hstill := Stepped.still (X := X) (w := w) u c .idle (by rw [hdoing])
          (fun _ _ h => by cases h) hc.1 hc.2
        rwa [setDoing_self (show (w.setClient u c).doing u = .idle from hdoing)] at hstill
      · cases h
    | sendingFile | reading =>
      rw [hdoing] at h
      cases h
  | fetch u clock =>
    dsimp only at h
    cases hdoing : w.doing u with
    | idle =>
      rw [hdoing] at h
      cases h
      exact .fetched u clock hdoing
    | sendingFile | reading =>
      rw [hdoing] at h
      cases h
  | read u io =>
    dsimp only at h
    cases hdoing : w.doing u with
    | reading batch =>
      rw [hdoing] at h
      cases batch with
      | nil => cases h
      | cons n rest =>
        cases h
        exact .read u io n rest hdoing
    | idle | sendingFile =>
      rw [hdoing] at h
      cases h

/-! ## What every run keeps -/

omit [DecidableEq Key] in
theorem Flow.setClient {w : Talk Key} (h : Flow X w) {u : String} {c : Client Key}
    (hc : c.userId = u) : Flow X (w.setClient u c) := by
  refine h.still (fun x => ?_) (fun _ => rfl) rfl rfl rfl rfl rfl rfl
  show (Function.update w.client u c x).userId = (w.client x).userId
  rw [Function.update_apply]
  split
  · subst x
    rw [hc, h.userId]
  · rfl

omit [DecidableEq Key] in
theorem Flow.setDoing {w : Talk Key} (h : Flow X w) {u : String} {d : Doing}
    (hd : (w.doing u).batch = d.batch) : Flow X (w.setDoing u d) := by
  refine h.still (fun _ => rfl) (fun x => ?_) rfl rfl rfl rfl rfl rfl
  show (Function.update w.doing u d x).batch = (w.doing x).batch
  rw [Function.update_apply]
  split
  · subst x
    rw [hd]
  · rfl

omit [DecidableEq Key] in
theorem Flow.note {w : Talk Key} (h : Flow X w) (u : String) (own : Option (List ℕ)) :
    Flow X (w.note u own) :=
  h.still (fun _ => rfl) (fun _ => rfl) rfl rfl rfl rfl rfl rfl

theorem Flow.step {w w' : Talk Key} (h : Flow X w) (hs : Stepped X w w') : Flow X w' := by
  cases hs with
  | still u c d hbatch _ huser _ => exact (h.setClient huser).setDoing hbatch
  | sent u c e d hbatch _ huser _ _ hchat =>
    exact ((h.setClient huser).post hchat).setDoing hbatch
  | texted u c e text _ huser _ hchat _ => exact ((h.setClient huser).post hchat).note u _
  | tracked u recipient text now own hbatch _ =>
    let c : Client Key := { w.client u with sentMessages := (w.client u).sentMessages ++
      [⟨recipient, text, now, .sent, false⟩] }
    have hc : c.userId = u := h.userId u
    exact ((h.setClient hc).note u own).setDoing hbatch
  | fetched u clock hidle => exact h.taken hidle clock
  | read u io n rest hdoing => exact h.readOne hdoing

/-- What a receipt is matched with. -/
def label (m : SentMessage) : String × UInt64 := (m.recipient, m.timestamp)

/-- The labels of the messages a client tracks. -/
def labels (c : Client Key) : List (String × UInt64) := c.sentMessages.map label

/-- What only grows: the envelopes, the receipts read, and the messages tracked. -/
structure Extends (w w' : Talk Key) : Prop where
  posted : w.posted <+: w'.posted
  heard : ∀ u, w.heard u <+: w'.heard u
  own : ∀ u, w.own u <+: w'.own u
  tracked : ∀ u, labels (w.client u) <+: labels (w'.client u)

omit [DecidableEq Key] in
theorem Extends.refl (w : Talk Key) : Extends w w :=
  ⟨List.prefix_rfl, fun _ => List.prefix_rfl, fun _ => List.prefix_rfl, fun _ => List.prefix_rfl⟩

omit [DecidableEq Key] in
theorem Extends.trans {w₁ w₂ w₃ : Talk Key} (h : Extends w₁ w₂) (h' : Extends w₂ w₃) :
    Extends w₁ w₃ :=
  ⟨h.posted.trans h'.posted, fun u => (h.heard u).trans (h'.heard u),
    fun u => (h.own u).trans (h'.own u), fun u => (h.tracked u).trans (h'.tracked u)⟩

omit [DecidableEq Key] in
/-- A step changes one client. -/
theorem prefix_update {α β : Type} (g : α → List β) (f : String → α) (u : String) (a : α)
    (h : g (f u) <+: g a) (x : String) : g (f x) <+: g (Function.update f u a x) := by
  rw [Function.update_apply]
  split
  · subst x
    exact h
  · exact List.prefix_rfl

/-- The messages after one pass of the loop: those before, one of them perhaps with a new
    status. -/
theorem readOne_sent (w : Talk Key) (u : String) (io : ReceiveInput Key) (n : Numbered)
    (rest : List Numbered) (x : String) :
    ((w.readOne X u io n rest).client x).sentMessages =
      if x = u then match receiptOf X n.envelope with
        | none => (w.client u).sentMessages
        | some r => (w.client u).sentMessages.modify
            ((w.client u).placeOf n.envelope.senderId r)
            fun m => { m with status := statusAfter r.receiptType }
      else (w.client x).sentMessages := by
  show (Function.update w.client u (w.pass X u io n).2.1 x).sentMessages = _
  rw [Function.update_apply]
  split
  · have hsent : (w.pass X u io n).2.1.sentMessages = _ := (Client.received_sent _ 0 _ _).2
    rw [hsent]
    cases receiptOf X n.envelope with
    | none => rfl
    | some r =>
      obtain ⟨kind, originalSender, timestamp⟩ := r
      cases kind <;> rfl
  · rfl

theorem map_modify {α β : Type} {g : α → β} {f : α → α} (h : ∀ a, g (f a) = g a) (l : List α)
    (i : ℕ) : (l.modify i f).map g = l.map g := by
  refine List.ext_getElem? fun j => ?_
  rw [List.getElem?_map, List.getElem?_map, List.getElem?_modify]
  cases l[j]? with
  | none => rfl
  | some a => by_cases hij : i = j <;> simp [hij, h]

/-- A receipt changes no label. -/
theorem readOne_labels (w : Talk Key) (u : String) (io : ReceiveInput Key) (n : Numbered)
    (rest : List Numbered) (x : String) :
    labels ((w.readOne X u io n rest).client x) = labels (w.client x) := by
  unfold labels
  rw [readOne_sent]
  by_cases hx : x = u
  · subst x
    rw [if_pos rfl]
    cases receiptOf X n.envelope with
    | none => rfl
    | some r =>
      refine map_modify ?_ (w.client u).sentMessages _
      intro m
      rfl
  · rw [if_neg hx]

theorem step_extends {w w' : Talk Key} (hs : Stepped X w w') : Extends w w' := by
  cases hs with
  | still u c d _ _ _ hsame =>
    refine ⟨List.prefix_rfl, fun _ => List.prefix_rfl, fun _ => List.prefix_rfl,
      prefix_update labels _ u c ?_⟩
    have hmap := congrArg (List.map fun p => (p.1, p.2.1)) hsame
    rw [List.map_map, List.map_map] at hmap
    exact (show labels c = labels (w.client u) from hmap) ▸ List.prefix_rfl
  | sent u c e d _ _ _ hsame =>
    refine ⟨List.prefix_append _ _, fun _ => List.prefix_rfl, fun _ => List.prefix_rfl,
      prefix_update labels _ u c ?_⟩
    unfold labels
    rw [hsame]
  | texted u c e text _ _ _ _ hsent =>
    refine ⟨List.prefix_append _ _, fun _ => List.prefix_rfl,
      prefix_update id _ u _ (List.prefix_append _ _), prefix_update labels _ u c ?_⟩
    unfold labels
    rw [hsent, List.map_append]
    exact List.prefix_append _ _
  | tracked u recipient text now own =>
    refine ⟨List.prefix_rfl, fun _ => List.prefix_rfl,
      prefix_update id _ u _ (List.prefix_append _ _), prefix_update labels _ u _ ?_⟩
    unfold labels
    rw [List.map_append]
    exact List.prefix_append _ _
  | fetched u clock =>
    exact ⟨List.prefix_rfl, fun _ => List.prefix_rfl, fun _ => List.prefix_rfl,
      fun _ => List.prefix_rfl⟩
  | read u io n rest =>
    refine ⟨(hear_posted w u n).symm ▸ List.prefix_rfl, fun x => ?_, fun x => ?_, fun x => ?_⟩
    · show w.heard x <+: (w.hear X u n).heard x
      rw [hear_heard]
      exact List.prefix_append _ _
    · show w.own x <+: (w.hear X u n).own x
      rw [hear_own]
    · rw [readOne_labels]

/-! ## What a message's status is -/

/-- The receipts a user has read about envelopes that it sent to `label.1` at `label.2`. -/
def receiptsOn (w : Talk Key) (u : String) (label : String × UInt64) : List ReceiptType :=
  (w.heard u).filterMap fun p =>
    if w.posted[p.1]? = some ⟨u, label.1, label.2⟩ then some p.2 else none

/-- The status that receipts leave. -/
def statusOf (receipts : List ReceiptType) : MessageStatus :=
  receipts.getLast?.elim .sent statusAfter

/-- **A message that its receipts find, and no others.** The envelopes with its label are among
    its own, and no message before it has its label. -/
structure Sole (w : Talk Key) (u : String) (j : ℕ) (label : String × UInt64) (ks : List ℕ) :
    Prop where
  owned : ∀ k, w.posted[k]? = some ⟨u, label.1, label.2⟩ → k ∈ ks
  first : ∀ i, (labels (w.client u))[i]? = some label → j ≤ i

/-- **The status of a message follows its receipts.** -/
structure Traced (w : Talk Key) (u : String) (j : ℕ) (m : SentMessage) (ks : List ℕ) : Prop where
  status : m.status = statusOf (w.receiptsOn u (label m))
  updates : ∀ x ∈ w.updates u, x.place = j → x.number ∈ ks
  cause : m.status ≠ .sent → ∃ x ∈ w.updates u, x.place = j ∧ x.status = m.status

/-- **What a user's messages and their envelopes have to do with each other.** -/
structure Page (w : Talk Key) (u : String) : Prop where
  length : (w.own u).length = (w.client u).sentMessages.length
  unheard : ∀ r ks, w.doing u = .sendingFile r ks → ∀ k ∈ ks, ∀ p ∈ w.heard u, p.1 ≠ k
  placed : ∀ x ∈ w.updates u, x.place < (w.client u).sentMessages.length
  traced : ∀ j m ks, (w.own u)[j]? = some (some ks) → (w.client u).sentMessages[j]? = some m →
    w.Sole u j (label m) ks → w.Traced u j m ks

omit [DecidableEq Key] in
theorem prefix_getElem? {α : Type} {l l' : List α} (h : l <+: l') {i : ℕ} {a : α}
    (hi : l[i]? = some a) : l'[i]? = some a := by
  obtain ⟨t, rfl⟩ := h
  rwa [List.getElem?_append_left (List.getElem?_eq_some_iff.mp hi).1]

omit [DecidableEq Key] in
/-- A message that is found alone later was so before. -/
theorem Sole.before {w w' : Talk Key} (h : Extends w w') {u : String} {j : ℕ}
    {label : String × UInt64} {ks : List ℕ} (hs : w'.Sole u j label ks) : w.Sole u j label ks where
  owned k hk := hs.owned k (prefix_getElem? h.posted hk)
  first i hi := hs.first i (prefix_getElem? (h.tracked u) hi)

omit [DecidableEq Key] in
/-- The receipts read so far are about envelopes that were there. -/
theorem Flow.posted_heard {w w' : Talk Key} (hf : Flow X w) (h : w.posted <+: w'.posted)
    {u : String} {p : ℕ × ReceiptType} (hp : p ∈ w.heard u) : w'.posted[p.1]? = w.posted[p.1]? := by
  obtain ⟨d, hd, -⟩ := hf.heard u p hp
  rw [hd, prefix_getElem? h hd]

omit [DecidableEq Key] in
theorem Flow.receiptsOn_prefix {w w' : Talk Key} (hf : Flow X w) (h : Extends w w') (u : String)
    (label : String × UInt64) : w.receiptsOn u label <+: w'.receiptsOn u label := by
  obtain ⟨t, ht⟩ := h.heard u
  unfold receiptsOn
  rw [← ht, List.filterMap_append]
  have hsame : (w.heard u).filterMap (fun p =>
      if w'.posted[p.1]? = some ⟨u, label.1, label.2⟩ then some p.2 else none) =
      (w.heard u).filterMap fun p =>
        if w.posted[p.1]? = some ⟨u, label.1, label.2⟩ then some p.2 else none :=
    List.filterMap_congr fun p hp => by rw [hf.posted_heard h.posted hp]
  rw [hsame]
  exact List.prefix_append _ _

omit [DecidableEq Key] in
theorem Flow.receiptsOn_same {w w' : Talk Key} (hf : Flow X w) (h : Extends w w') {u : String}
    (hheard : w'.heard u = w.heard u) (label : String × UInt64) :
    w'.receiptsOn u label = w.receiptsOn u label := by
  unfold receiptsOn
  rw [hheard]
  exact List.filterMap_congr fun p hp => by rw [hf.posted_heard h.posted hp]

omit [DecidableEq Key] in
/-- A client that neither reads a receipt nor tracks a message. -/
theorem Page.quiet {w w' : Talk Key} (hf : Flow X w) {u : String} (h : w.Page u)
    (hext : Extends w w')
    (hsent : (w'.client u).sentMessages.map SentMessage.tracking =
      (w.client u).sentMessages.map SentMessage.tracking)
    (hown : w'.own u = w.own u) (hheard : w'.heard u = w.heard u)
    (hupdates : w'.updates u = w.updates u)
    (hunheard : ∀ r ks, w'.doing u = .sendingFile r ks → ∀ k ∈ ks, ∀ p ∈ w.heard u, p.1 ≠ k) :
    w'.Page u := by
  have hlength := congrArg List.length hsent
  rw [List.length_map, List.length_map] at hlength
  refine ⟨?_, ?_, ?_, fun j m' ks hj hm' hsole => ?_⟩
  · rw [hown, hlength, h.length]
  · rwa [hheard]
  · rw [hupdates, hlength]
    exact h.placed
  · have hmap := congrArg (fun l => l[j]?) hsent
    rw [List.getElem?_map, List.getElem?_map, hm'] at hmap
    obtain ⟨m, hm, htracking⟩ := Option.map_eq_some_iff.mp hmap.symm
    obtain ⟨hrecipient, htime, hstatus⟩ : m.recipient = m'.recipient ∧
        m.timestamp = m'.timestamp ∧ m.status = m'.status := by
      simpa [SentMessage.tracking] using htracking
    have hlabel : label m' = label m := by
      unfold label
      rw [hrecipient, htime]
    rw [hlabel] at hsole
    rw [hown] at hj
    obtain ⟨h₁, h₂, h₃⟩ := h.traced j m ks hj hm (hsole.before hext)
    refine ⟨?_, ?_, ?_⟩
    · rw [hlabel, hf.receiptsOn_same hext hheard, ← hstatus, h₁]
    · rwa [hupdates]
    · rwa [hupdates, ← hstatus]

omit [DecidableEq Key] in
/-- A client that has tracked a message, of whose envelopes it has heard nothing. -/
theorem Page.tracked {w w' : Talk Key} (hf : Flow X w) {u : String} (h : w.Page u)
    (hext : Extends w w') {m : SentMessage} {own : Option (List ℕ)}
    (hsent : (w'.client u).sentMessages = (w.client u).sentMessages ++ [m])
    (hstatus : m.status = .sent) (hown : w'.own u = w.own u ++ [own])
    (hheard : w'.heard u = w.heard u) (hupdates : w'.updates u = w.updates u)
    (hidle : w'.doing u = .idle)
    (hfresh : ∀ ks, own = some ks → ∀ k ∈ ks, ∀ p ∈ w.heard u, p.1 ≠ k) : w'.Page u := by
  refine ⟨?_, fun r ks hd => ?_, ?_, fun j m' ks hj hm' hsole => ?_⟩
  · rw [hown, hsent, List.length_append, List.length_append, h.length]
    rfl
  · rw [hidle] at hd
    cases hd
  · rw [hupdates, hsent]
    intro x hx
    have := h.placed x hx
    rw [List.length_append]
    omega
  · rw [hown] at hj
    rw [hsent] at hm'
    rcases Nat.lt_or_ge j (w.client u).sentMessages.length with hlt | hge
    · rw [List.getElem?_append_left (by rw [h.length]; exact hlt)] at hj
      rw [List.getElem?_append_left hlt] at hm'
      obtain ⟨h₁, h₂, h₃⟩ := h.traced j m' ks hj hm' (hsole.before hext)
      refine ⟨?_, ?_, ?_⟩
      · rw [hf.receiptsOn_same hext hheard, h₁]
      · rwa [hupdates]
      · rwa [hupdates]
    · rw [List.getElem?_append_right hge, List.getElem?_singleton] at hm'
      rw [List.getElem?_append_right (by rw [h.length]; exact hge), List.getElem?_singleton] at hj
      split at hm'
      · cases hm'
        split at hj
        · have hfresh := hfresh ks (Option.some.inj hj)
          refine ⟨?_, fun x hx hplace => ?_, fun hne => absurd hstatus hne⟩
          · have hnil : w'.receiptsOn u (label m) = [] := by
              unfold receiptsOn
              rw [List.filterMap_eq_nil_iff, hheard]
              intro p hp
              exact if_neg fun hk => hfresh p.1 (hsole.owned p.1 hk) p hp rfl
            rw [hnil, hstatus]
            rfl
          · rw [hupdates] at hx
            have := h.placed x hx
            omega
        · cases hj
      · cases hm'

omit [DecidableEq Key] in
theorem hear_updates (w : Talk Key) (u : String) (n : Numbered) (x : String) :
    (w.hear X u n).updates x = w.updates x ++ if x = u then
      match receiptOf X n.envelope with
      | none => []
      | some r =>
        if (w.client u).placeOf n.envelope.senderId r < (w.client u).sentMessages.length then
          [⟨(w.client u).placeOf n.envelope.senderId r, statusAfter r.receiptType, n.number⟩]
        else []
      else [] := by
  unfold hear
  cases receiptOf X n.envelope with
  | none =>
    dsimp only
    rw [ite_self, List.append_nil]
  | some r =>
    dsimp only
    by_cases hplace : (w.client u).placeOf n.envelope.senderId r < (w.client u).sentMessages.length
    · rw [if_pos hplace, if_pos hplace, Function.update_apply]
      split
      · subst x
        rfl
      · rw [List.append_nil]
    · rw [if_neg hplace, if_neg hplace, ite_self, List.append_nil]

omit [DecidableEq Key] in
/-- The message at the place that a receipt finds has its label. -/
theorem label_placeOf {c : Client Key} {sender : String} {r : ReceiptContent} {m : SentMessage}
    (hm : c.sentMessages[c.placeOf sender r]? = some m) :
    label m = (sender, r.originalTimestamp) := by
  obtain ⟨hlt, rfl⟩ := List.getElem?_eq_some_iff.mp hm
  have hfound := List.findIdx_getElem (w := hlt)
  rw [Bool.and_eq_true, beq_iff_eq, beq_iff_eq] at hfound
  exact Prod.ext hfound.1 hfound.2

omit [DecidableEq Key] in
/-- A receipt finds no message after the first with its label. -/
theorem placeOf_le {c : Client Key} {sender : String} {r : ReceiptContent} {j : ℕ}
    {m : SentMessage} (hm : c.sentMessages[j]? = some m)
    (hlabel : label m = (sender, r.originalTimestamp)) : c.placeOf sender r ≤ j := by
  obtain ⟨hlt, rfl⟩ := List.getElem?_eq_some_iff.mp hm
  by_contra hgt
  have hnot := List.not_of_lt_findIdx (Nat.lt_of_not_le hgt)
  unfold label at hlabel
  rw [Prod.mk.injEq] at hlabel
  simp [hlabel] at hnot

theorem readOne_receiptsOn {w : Talk Key} {u : String} {io : ReceiveInput Key} {n : Numbered}
    {rest : List Numbered} {r : ReceiptContent} (hr : receiptOf X n.envelope = some r)
    (label : String × UInt64) : (w.readOne X u io n rest).receiptsOn u label =
      w.receiptsOn u label ++
        if w.posted[n.number]? = some ⟨u, label.1, label.2⟩ then [r.receiptType] else [] := by
  show List.filterMap (fun p : ℕ × ReceiptType =>
    if (w.hear X u n).posted[p.1]? = some ⟨u, label.1, label.2⟩ then some p.2 else none)
    ((w.hear X u n).heard u) = _
  rw [hear_posted, hear_heard, if_pos rfl, hr, List.filterMap_append]
  congr 1
  show List.filterMap _ [(n.number, r.receiptType)] = _
  rw [List.filterMap_cons, List.filterMap_nil]
  by_cases hk : w.posted[n.number]? = some ⟨u, label.1, label.2⟩
  · rw [if_pos hk, if_pos hk]
  · rw [if_neg hk, if_neg hk]

theorem readOne_updates {w : Talk Key} {u : String} {io : ReceiveInput Key} {n : Numbered}
    {rest : List Numbered} {r : ReceiptContent} (hr : receiptOf X n.envelope = some r) :
    (w.readOne X u io n rest).updates u = w.updates u ++
      if (w.client u).placeOf n.envelope.senderId r < (w.client u).sentMessages.length then
        [⟨(w.client u).placeOf n.envelope.senderId r, statusAfter r.receiptType, n.number⟩]
      else [] := by
  show (w.hear X u n).updates u = _
  rw [hear_updates, if_pos rfl, hr]

/-- **A receipt and a message that its receipts find alone**: it is about the message, or finds
    another one. -/
theorem Page.traced_read {w : Talk Key} (hf : Flow X w) {u : String} (h : w.Page u)
    {io : ReceiveInput Key} {n : Numbered} {rest : List Numbered}
    (hdoing : w.doing u = .reading (n :: rest)) {r : ReceiptContent}
    (hr : receiptOf X n.envelope = some r) {j : ℕ} {m : SentMessage} {ks : List ℕ}
    (hj : (w.own u)[j]? = some (some ks)) (hm : (w.client u).sentMessages[j]? = some m)
    (hsole : w.Sole u j (label m) ks) :
    (w.readOne X u io n rest).Traced u j
      (if (w.client u).placeOf n.envelope.senderId r = j then
        { m with status := statusAfter r.receiptType } else m) ks := by
  have hn : n ∈ w.stream u := stream_of_reading hdoing ▸ List.mem_cons_self
  have hposted := hf.receipts u n hn r hr
  obtain ⟨h₁, h₂, h₃⟩ := h.traced j m ks hj hm hsole
  have hupdates : (w.readOne X u io n rest).updates u = _ := readOne_updates hr
  by_cases hplace : (w.client u).placeOf n.envelope.senderId r = j
  · have hlabel : label m = (n.envelope.senderId, r.originalTimestamp) :=
      label_placeOf (hplace ▸ hm)
    have hlt : j < (w.client u).sentMessages.length := (List.getElem?_eq_some_iff.mp hm).1
    rw [hplace, if_pos hlt] at hupdates
    rw [← Prod.mk.eta (p := label m), Prod.mk.injEq] at hlabel
    rw [← hlabel.1, ← hlabel.2] at hposted
    rw [if_pos hplace]
    refine ⟨?_, fun x hx hx' => ?_, fun _ => ?_⟩
    · show statusAfter r.receiptType = statusOf ((w.readOne X u io n rest).receiptsOn u (label m))
      rw [readOne_receiptsOn hr, if_pos hposted]
      unfold statusOf
      rw [List.getLast?_concat]
      rfl
    · rw [hupdates] at hx
      rcases List.mem_append.mp hx with hx | hx
      · exact h₂ x hx hx'
      · rw [List.mem_singleton.mp hx]
        exact hsole.owned _ hposted
    · rw [hupdates]
      exact ⟨_, List.mem_append_right _ List.mem_cons_self, rfl, rfl⟩
  · have hother : w.posted[n.number]? ≠ some ⟨u, (label m).1, (label m).2⟩ := fun hk => by
      rw [hposted, Option.some.injEq, Dispatch.mk.injEq] at hk
      have hlabel : label m = (n.envelope.senderId, r.originalTimestamp) :=
        (Prod.ext hk.2.1 hk.2.2).symm
      have hle := placeOf_le hm hlabel
      have hlt := (List.getElem?_eq_some_iff.mp hm).1
      obtain ⟨m', hm'⟩ : ∃ m', (w.client u).sentMessages[(w.client u).placeOf
          n.envelope.senderId r]? = some m' :=
        ⟨_, List.getElem?_eq_getElem (Nat.lt_of_le_of_lt hle hlt)⟩
      have hge := hsole.first ((w.client u).placeOf n.envelope.senderId r) (by
        unfold labels
        rw [List.getElem?_map, hm', Option.map_some, label_placeOf hm', hlabel])
      exact hplace (Nat.le_antisymm hle hge)
    rw [if_neg hplace]
    refine ⟨?_, fun x hx hx' => ?_, fun hne => ?_⟩
    · rw [readOne_receiptsOn hr, if_neg hother, List.append_nil, h₁]
    · rw [hupdates] at hx
      rcases List.mem_append.mp hx with hx | hx
      · exact h₂ x hx hx'
      · split at hx
        · rw [List.mem_singleton.mp hx] at hx'
          exact absurd hx' hplace
        · cases hx
    · obtain ⟨x, hx, hx'⟩ := h₃ hne
      rw [hupdates]
      exact ⟨x, List.mem_append_left _ hx, hx'⟩

omit [DecidableEq Key] in
theorem ofBatch_ne_sendingFile (batch : List Numbered) (recipient : String) (own : List ℕ) :
    Doing.ofBatch batch ≠ .sendingFile recipient own := by
  intro h
  cases batch <;> cases h

/-- One pass of the loop, of the client that reads. -/
theorem Page.readOne {w : Talk Key} (hf : Flow X w) {u : String} (h : w.Page u)
    {io : ReceiveInput Key} {n : Numbered} {rest : List Numbered}
    (hdoing : w.doing u = .reading (n :: rest)) : (w.readOne X u io n rest).Page u := by
  have hext := step_extends (Stepped.read (X := X) u io n rest hdoing)
  have hown : (w.readOne X u io n rest).own u = w.own u := congrFun (hear_own w u n) u
  have hsent := readOne_sent (X := X) w u io n rest u
  rw [if_pos rfl] at hsent
  have hidle : ∀ r ks, (w.readOne X u io n rest).doing u ≠ .sendingFile r ks := fun r ks hd => by
    change Function.update w.doing u
      (if (w.pass X u io n).1.isOk then .ofBatch rest else .idle) u = _ at hd
    rw [Function.update_self] at hd
    generalize (w.pass X u io n).1.isOk = ok at hd
    cases ok with
    | false => cases hd
    | true => exact ofBatch_ne_sendingFile _ r ks hd
  cases hr : receiptOf X n.envelope with
  | none =>
    rw [hr] at hsent
    have hheard : (w.readOne X u io n rest).heard u = w.heard u := by
      show (w.hear X u n).heard u = _
      rw [hear_heard, if_pos rfl, hr]
      exact List.append_nil _
    have hupdates : (w.readOne X u io n rest).updates u = w.updates u := by
      show (w.hear X u n).updates u = _
      rw [hear_updates, if_pos rfl, hr]
      exact List.append_nil _
    exact h.quiet hf hext (congrArg _ hsent) hown hheard hupdates
      fun r ks hd => absurd hd (hidle r ks)
  | some r =>
    rw [hr] at hsent
    refine ⟨?_, fun r ks hd => absurd hd (hidle r ks), fun x hx => ?_, fun j m' ks hj hm' hs => ?_⟩
    · rw [hown, hsent, List.length_modify, h.length]
    · rw [hsent, List.length_modify]
      rw [readOne_updates hr] at hx
      rcases List.mem_append.mp hx with hx | hx
      · exact h.placed x hx
      · split at hx
        · rename_i hlt
          rw [List.mem_singleton.mp hx]
          exact hlt
        · cases hx
    · rw [hown] at hj
      rw [hsent, List.getElem?_modify] at hm'
      obtain ⟨m, hm, rfl⟩ := Option.map_eq_some_iff.mp hm'
      have hsame : label (if (w.client u).placeOf n.envelope.senderId r = j then
          { m with status := statusAfter r.receiptType } else m) = label m := by
        split <;> rfl
      exact h.traced_read hf hdoing hr hj hm (Sole.before hext (hsame ▸ hs))

omit [DecidableEq Key] in
/-- A client that the step is not about. -/
theorem Page.elsewhere {w w' : Talk Key} (hf : Flow X w) {x : String} (h : w.Page x)
    (hext : Extends w w') (hclient : w'.client x = w.client x) (hown : w'.own x = w.own x)
    (hheard : w'.heard x = w.heard x) (hupdates : w'.updates x = w.updates x)
    (hdoing : w'.doing x = w.doing x) : w'.Page x :=
  h.quiet hf hext (by rw [hclient]) hown hheard hupdates fun r ks hd => h.unheard r ks (hdoing ▸ hd)

omit [DecidableEq Key] in
/-- A number that is given next is in no receipt yet. -/
theorem Flow.fresh {w : Talk Key} (hf : Flow X w) {u : String} {p : ℕ × ReceiptType}
    (hp : p ∈ w.heard u) : p.1 ≠ w.posted.length := by
  obtain ⟨d, hd, -⟩ := hf.heard u p hp
  have hlt := (List.getElem?_eq_some_iff.mp hd).1
  omega

theorem page_step {w w' : Talk Key} (hf : Flow X w) (h : ∀ u, w.Page u) (hs : Stepped X w w') :
    ∀ u, w'.Page u := by
  have hext := step_extends hs
  intro x
  cases hs with
  | still u c d hbatch hfile huser hsame =>
    by_cases hx : x = u
    · subst hx
      refine (h x).quiet hf hext ?_ rfl rfl rfl fun r ks hd k hk => ?_
      · show (Function.update w.client x c x).sentMessages.map _ = _
        rw [Function.update_self, hsame]
      · change Function.update w.doing x d x = _ at hd
        rw [Function.update_self] at hd
        rw [hfile r ks hd] at hk
        cases hk
    · exact (h x).elsewhere hf hext (Function.update_of_ne hx _ _) rfl rfl rfl
        (Function.update_of_ne hx _ _)
  | sent u c e d hbatch hfile huser hsame =>
    by_cases hx : x = u
    · subst hx
      refine (h x).quiet hf hext ?_ rfl rfl rfl fun r ks hd k hk p hp => ?_
      · show (Function.update w.client x c x).sentMessages.map _ = _
        rw [Function.update_self, hsame]
      · change Function.update w.doing x d x = _ at hd
        rw [Function.update_self] at hd
        obtain ⟨before, hbefore, rfl⟩ := hfile r ks hd
        rcases List.mem_append.mp hk with hk | hk
        · exact (h x).unheard r before hbefore k hk p hp
        · rw [List.mem_singleton.mp hk]
          exact hf.fresh hp
    · exact (h x).elsewhere hf hext (Function.update_of_ne hx _ _) rfl rfl rfl
        (Function.update_of_ne hx _ _)
  | texted u c e text hidle huser hsender hchat hsent =>
    by_cases hx : x = u
    · subst hx
      refine (h x).tracked hf hext (m := ⟨e.recipientId, text, e.timestamp, .sent, false⟩) ?_ rfl
        (Function.update_self ..) rfl rfl hidle fun ks hks k hk p hp => ?_
      · show (Function.update w.client x c x).sentMessages = _
        rw [Function.update_self, hsent]
      · cases hks
        rw [List.mem_singleton.mp hk]
        exact hf.fresh hp
    · exact (h x).elsewhere hf hext (Function.update_of_ne hx _ _) (Function.update_of_ne hx _ _)
        rfl rfl rfl
  | tracked u recipient text now own hbatch hfile =>
    by_cases hx : x = u
    · subst hx
      refine (h x).tracked hf hext (m := ⟨recipient, text, now, .sent, false⟩) ?_ rfl
        (Function.update_self ..) rfl rfl (Function.update_self ..) fun ks hks k hk p hp => ?_
      · show (Function.update w.client x _ x).sentMessages = _
        rw [Function.update_self]
      · obtain ⟨r, hr⟩ := hfile ks hks
        exact (h x).unheard r ks hr k hk p hp
    · exact (h x).elsewhere hf hext (Function.update_of_ne hx _ _) (Function.update_of_ne hx _ _)
        rfl rfl (Function.update_of_ne hx _ _)
  | fetched u clock hidle =>
    by_cases hx : x = u
    · subst hx
      refine (h x).quiet hf hext rfl rfl rfl rfl fun r ks hd => ?_
      change Function.update w.doing x _ x = _ at hd
      rw [Function.update_self] at hd
      exact absurd hd (ofBatch_ne_sendingFile _ r ks)
    · exact (h x).elsewhere hf hext rfl rfl rfl rfl (Function.update_of_ne hx _ _)
  | read u io n rest hdoing =>
    by_cases hx : x = u
    · subst hx
      exact (h x).readOne hf hdoing
    · refine (h x).elsewhere hf hext (Function.update_of_ne hx _ _)
        (congrFun (hear_own w u n) x) ?_ ?_ (Function.update_of_ne hx _ _)
      · show (w.hear X u n).heard x = _
        rw [hear_heard, if_neg hx, List.append_nil]
      · show (w.hear X u n).updates x = _
        rw [hear_updates, if_neg hx, List.append_nil]

/-! ## Runs -/

/-- Clients that have sent nothing yet. -/
def Fresh (client : String → Client Key) : Prop :=
  ∀ u, (client u).userId = u ∧ (client u).sentMessages = []

omit [DecidableEq Key] in
theorem page_start {client : String → Client Key} (hfresh : Fresh client) (u : String) :
    (start client).Page u := by
  have hnil : ((start client).client u).sentMessages = [] := (hfresh u).2
  refine ⟨?_, fun r ks hd => ?_, fun x hx => ?_, fun j m ks hj => ?_⟩
  · rw [hnil]
    rfl
  · cases hd
  · cases hx
  · cases hj

/-- **What holds in every state of a run.** -/
theorem invariants {client : String → Client Key} (hfresh : Fresh client) {w : Talk Key}
    (h : Leads X (start client) w) : Flow X w ∧ ∀ u, w.Page u := by
  induction h with
  | refl => exact ⟨flow_start client fun u => (hfresh u).1, page_start hfresh⟩
  | tail _ hstep ih =>
    obtain ⟨a, ha⟩ := hstep
    have hs := stepped ih.1.userId ha
    exact ⟨ih.1.step hs, page_step ih.1 ih.2 hs⟩

theorem leads_extends {w w' : Talk Key} (hf : Flow X w) (h : Leads X w w') :
    Flow X w' ∧ Extends w w' := by
  induction h with
  | refl => exact ⟨hf, .refl w⟩
  | tail _ hstep ih =>
    obtain ⟨a, ha⟩ := hstep
    have hs := stepped ih.1.userId ha
    exact ⟨ih.1.step hs, ih.2.trans (step_extends hs)⟩

/-! ## Delivery status -/

/-- `Sent`, `Delivered`, `Read` -/
def rank : MessageStatus → ℕ
  | .sent => 0
  | .delivered => 1
  | .read => 2

theorem sublist_receipts {rs : List ReceiptType} (h : rs.Sublist [.delivery, .read]) :
    rs = [] ∨ rs = [.delivery] ∨ rs = [.read] ∨ rs = [.delivery, .read] := by
  obtain ⟨l₁, l₂, rfl, h₁, h₂⟩ := List.sublist_append_iff.mp
    (show rs.Sublist ([ReceiptType.delivery] ++ [.read]) from h)
  rcases List.sublist_singleton.mp h₁ with rfl | rfl <;>
    rcases List.sublist_singleton.mp h₂ with rfl | rfl <;> simp

/-- More receipts only move the status forward. -/
theorem rank_statusOf_le {rs rs' : List ReceiptType} (h : rs <+: rs')
    (hsub : rs'.Sublist [.delivery, .read]) : rank (statusOf rs) ≤ rank (statusOf rs') := by
  rcases sublist_receipts (h.sublist.trans hsub) with rfl | rfl | rfl | rfl
  · exact Nat.zero_le _
  · rcases sublist_receipts hsub with rfl | rfl | rfl | rfl
    · cases List.prefix_nil.mp h
    · exact Nat.le_refl _
    · exact Nat.le_succ 1
    · exact Nat.le_succ 1
  · rcases sublist_receipts hsub with rfl | rfl | rfl | rfl
    · cases List.prefix_nil.mp h
    · cases (List.cons_prefix_cons.mp h).1
    · exact Nat.le_refl _
    · exact Nat.le_refl _
  · rw [List.IsPrefix.eq_of_length_le h hsub.length_le]

/-- **The message's time tells it apart**: one envelope bears it, which is the message's own, and
    no message before it has the same recipient and time. -/
structure Identified (w : Talk Key) (u : String) (j : ℕ) (m : SentMessage) (ks : List ℕ) : Prop
    extends w.Sole u j (label m) ks where
  unique : ∀ k k' : ℕ, w.posted[k]? = some ⟨u, m.recipient, m.timestamp⟩ →
    w.posted[k']? = some ⟨u, m.recipient, m.timestamp⟩ → k = k'
  borne : ks ≠ [] → ∃ k : ℕ, w.posted[k]? = some ⟨u, m.recipient, m.timestamp⟩

/-- **The status of a message is sound**: it has only moved forward, a receipt about the message
    itself has set it, and it is `Read` once the recipient has decrypted all of the message and
    the sender has read what waited for it. -/
structure SoundStatus (X : Crates Key) (client : String → Client Key) (w : Talk Key) (u : String)
    (j : ℕ) (m : SentMessage) (ks : List ℕ) : Prop where
  forward : ∀ w₀, Leads X (start client) w₀ → Leads X w₀ w →
    ∀ m₀, (w₀.client u).sentMessages[j]? = some m₀ → rank m₀.status ≤ rank m.status
  own : ∀ x ∈ w.updates u, x.place = j → x.number ∈ ks
  cause : m.status ≠ .sent → ∃ x ∈ w.updates u, x.place = j ∧ x.status = m.status
  read : ks ≠ [] → (∀ k ∈ ks, k ∈ w.decrypted) → w.stream u = [] → w.lost u = [] →
    m.status = .read

omit [DecidableEq Key] in
/-- The receipts about the only envelope with a label. -/
theorem receiptsOn_sublist {w : Talk Key} (hf : Flow X w) {u : String}
    (label : String × UInt64) (hunique : ∀ k k' : ℕ,
      w.posted[k]? = some ⟨u, label.1, label.2⟩ → w.posted[k']? = some ⟨u, label.1, label.2⟩ →
        k = k') : (w.receiptsOn u label).Sublist [.delivery, .read] ∧
      ∀ k, w.posted[k]? = some ⟨u, label.1, label.2⟩ →
        w.receiptsOn u label = w.heardAbout u k := by
  have hsame : ∀ k, w.posted[k]? = some ⟨u, label.1, label.2⟩ →
      w.receiptsOn u label = w.heardAbout u k := fun k hk =>
    List.filterMap_congr fun p _ => by
      by_cases hp : p.1 = k
      · rw [hp, if_pos hk, if_pos rfl]
      · rw [if_neg hp, if_neg fun hp' => hp (hunique _ _ hp' hk)]
  refine ⟨?_, hsame⟩
  by_cases hsome : ∃ k : ℕ, w.posted[k]? = some ⟨u, label.1, label.2⟩
  · obtain ⟨k, hk⟩ := hsome
    rw [hsame k hk]
    exact (List.sublist_append_left _ _).trans (hf.life k _ hk).history
  · have hnil : w.receiptsOn u label = [] :=
      List.filterMap_eq_nil_iff.mpr fun p _ => if_neg fun hp => hsome ⟨_, hp⟩
    rw [hnil]
    exact List.nil_sublist _

/-- **A message under a time that no envelope bears stays as it was sent.** -/
theorem stays_sent {client : String → Client Key} (hfresh : Fresh client) {w : Talk Key}
    (h : Leads X (start client) w) {u : String} {j : ℕ} {m : SentMessage} {ks : List ℕ}
    (hown : (w.own u)[j]? = some (some ks)) (hm : (w.client u).sentMessages[j]? = some m)
    (hfirst : ∀ i, (labels (w.client u))[i]? = some (label m) → j ≤ i)
    (hnone : ∀ k : ℕ, w.posted[k]? ≠ some ⟨u, m.recipient, m.timestamp⟩) : m.status = .sent := by
  obtain ⟨-, hpage⟩ := invariants hfresh h
  have htraced := (hpage u).traced j m ks hown hm ⟨fun k hk => absurd hk (hnone k), hfirst⟩
  have hnil : w.receiptsOn u (label m) = [] :=
    List.filterMap_eq_nil_iff.mpr fun p _ => if_neg (hnone p.1)
  rw [htraced.status, hnil]
  rfl

/-- **The status of an identified message is sound**, in every state of every run, if the
    recipient's client does not panic on it. -/
theorem status_sound {client : String → Client Key} (hfresh : Fresh client) {w : Talk Key}
    (h : Leads X (start client) w) {u : String} {j : ℕ} {m : SentMessage} {ks : List ℕ}
    (hown : (w.own u)[j]? = some (some ks)) (hm : (w.client u).sentMessages[j]? = some m)
    (hid : w.Identified u j m ks) (hcalm : ∀ k ∈ ks, k ∉ w.crashed) :
    SoundStatus X client w u j m ks := by
  obtain ⟨hflow, hpage⟩ := invariants hfresh h
  obtain ⟨hstatus, hupdates, hcause⟩ := (hpage u).traced j m ks hown hm hid.toSole
  obtain ⟨hsub, hsame⟩ := receiptsOn_sublist hflow (label m) hid.unique
  refine ⟨fun w₀ h₀ hlater m₀ hm₀ => ?_, hupdates, hcause, fun hne hall hstream hlost => ?_⟩
  · obtain ⟨hflow₀, hpage₀⟩ := invariants hfresh h₀
    have hext := (leads_extends hflow₀ hlater).2
    have hown₀ : (w₀.own u)[j]? = some (some ks) := by
      have hlt : j < (w₀.own u).length :=
        (hpage₀ u).length ▸ (List.getElem?_eq_some_iff.mp hm₀).1
      rw [← hown, prefix_getElem? (hext.own u) (List.getElem?_eq_getElem hlt),
        List.getElem?_eq_getElem hlt]
    have hlabel : label m₀ = label m := by
      have hm₀' : (labels (w₀.client u))[j]? = some (label m₀) := by
        unfold labels
        rw [List.getElem?_map, hm₀]
        rfl
      have hm' : (labels (w.client u))[j]? = some (label m) := by
        unfold labels
        rw [List.getElem?_map, hm]
        rfl
      exact Option.some.inj ((prefix_getElem? (hext.tracked u) hm₀').symm.trans hm')
    have htraced := (hpage₀ u).traced j m₀ ks hown₀ hm₀
      (Sole.before hext (hlabel ▸ hid.toSole))
    rw [htraced.status, hlabel, hstatus]
    exact rank_statusOf_le (hflow₀.receiptsOn_prefix hext u _) hsub
  · obtain ⟨k, hk⟩ := hid.borne hne
    have hkey : k ∈ ks := hid.owned k hk
    have hread : ReceiptType.read ∈ w.receiptsOn u (label m) := by
      rw [hsame k hk]
      have hlife := (hflow.life k _ hk).decrypted (hall k hkey)
      rcases hlife with hread | hcrashed | hne
      · unfold history at hread
        rw [hstream] at hread
        simpa using hread
      · exact absurd hcrashed (hcalm k hkey)
      · exact absurd hlost hne
    rw [hstatus]
    rcases sublist_receipts hsub with heq | heq | heq | heq <;> rw [heq] at hread ⊢
    · cases hread
    · simp at hread
    · rfl
    · rfl

/-! ### One message, and its receipts -/

/-- Reading a receipt decrypts nothing, posts nothing, and the loop goes on. -/
theorem readOne_receipt (w : Talk Key) (u : String) (io : ReceiveInput Key) {n : Numbered}
    (hn : n.envelope.msgType = .receipt) (rest : List Numbered) :
    (w.readOne X u io n rest).decrypted = w.decrypted ∧
      (w.readOne X u io n rest).crashed = w.crashed ∧ w.ends X u io n = false ∧
      answers X (w.client u) io n = [] := by
  have hopens : (w.client u).opens X n.envelope = none := by
    unfold Client.opens
    rw [hn]
  have hpanics : (w.client u).panicsOn X n.envelope = false := by
    unfold Client.panicsOn
    rw [hopens]
    rfl
  refine ⟨?_, ?_, ?_, ?_⟩
  · show (if ((w.client u).opens X n.envelope).isSome then _ else _) = _
    rw [hopens]
    rfl
  · show (if (w.client u).panicsOn X n.envelope then _ else _) = _
    rw [hpanics]
    rfl
  · unfold ends
    rw [Bool.not_eq_false']
    by_contra hnot
    rcases (Client.receiveEnvelope_ends_iff _ _ _ _).mp (Bool.eq_false_iff.mpr hnot) with
      ⟨htype, -⟩ | ⟨plaintext, hsome, -⟩
    · rw [hn] at htype
      cases htype
    · rw [hopens] at hsome
      cases hsome
  · unfold answers Client.acknowledges
    rw [hopens]
    rfl

theorem step_fetch {w : Talk Key} {u : String} (hidle : w.doing u = .idle) (clock : ℕ → UInt64) :
    ∃ a, w.step X a = some (w.taken X u clock) := by
  refine ⟨.fetch u clock, ?_⟩
  unfold step
  dsimp only
  rw [hidle]
  rfl

theorem step_read {w : Talk Key} {u : String} {n : Numbered} {rest : List Numbered}
    (hdoing : w.doing u = .reading (n :: rest)) (io : ReceiveInput Key) :
    ∃ a, w.step X a = some (w.readOne X u io n rest) := by
  refine ⟨.read u io, ?_⟩
  unfold step
  dsimp only
  rw [hdoing]

/-- A client reads two receipts, which is all that waits for it. -/
theorem reads_receipts {w : Talk Key} {u : String} (hidle : w.doing u = .idle) {n₁ n₂ : Numbered}
    (hqueue : w.queue u = [n₁, n₂]) (h₁ : n₁.envelope.msgType = .receipt)
    (h₂ : n₂.envelope.msgType = .receipt) (clock : ℕ → UInt64) (io : ReceiveInput Key) :
    ∃ w', Leads X w w' ∧ w'.posted = w.posted ∧ w'.own = w.own ∧ w'.decrypted = w.decrypted ∧
      w'.crashed = w.crashed ∧ w'.stream u = [] ∧ w'.lost u = w.lost u := by
  have hreading : (w.taken X u clock).doing u = .reading [n₁, n₂] := by
    show Function.update w.doing u (.ofBatch (w.queue u)) u = _
    rw [Function.update_self, hqueue]
    rfl
  have hstream : (w.taken X u clock).stream u = [n₁, n₂] := by
    rw [taken_stream hidle, hqueue]
    unfold stream numberedReceipts
    rw [hidle, hqueue]
    simp [Doing.batch, h₁, h₂, MessageType.isChat]
  have hempty : (w.taken X u clock).queue u = [] := by
    rw [stream_of_reading hreading] at hstream
    simpa using hstream
  obtain ⟨hdec₁, hcr₁, hends₁, hans₁⟩ := readOne_receipt (X := X) (w.taken X u clock) u io h₁ [n₂]
  have hreading' : ((w.taken X u clock).readOne X u io n₁ [n₂]).doing u = .reading [n₂] := by
    show Function.update (w.taken X u clock).doing u
      (if ((w.taken X u clock).pass X u io n₁).1.isOk then Doing.ofBatch [n₂] else Doing.idle)
      u = _
    unfold ends at hends₁
    rw [Bool.not_eq_false'] at hends₁
    rw [Function.update_self, hends₁]
    rfl
  have hempty' : ((w.taken X u clock).readOne X u io n₁ [n₂]).queue u = [] := by
    rw [readOne_queue, hans₁, hempty]
    rfl
  obtain ⟨hdec₂, hcr₂, hends₂, hans₂⟩ := readOne_receipt (X := X)
    ((w.taken X u clock).readOne X u io n₁ [n₂]) u io h₂ []
  refine ⟨((w.taken X u clock).readOne X u io n₁ [n₂]).readOne X u io n₂ [], ?_, ?_, ?_, ?_, ?_,
    ?_, ?_⟩
  · exact ((Relation.ReflTransGen.single (step_fetch hidle clock)).tail
      (step_read hreading io)).tail (step_read hreading' io)
  · exact (hear_posted _ u n₂).trans (hear_posted _ u n₁)
  · exact (hear_own _ u n₂).trans (hear_own _ u n₁)
  · exact hdec₂.trans hdec₁
  · exact hcr₂.trans hcr₁
  · rw [readOne_stream, if_pos rfl, hans₂, hempty', hends₂]
    rfl
  · rw [readOne_lost, readOne_lost, hends₁, hends₂]
    simp
    rfl

/-- A message that waits alone: its recipient fetches and opens it, and its sender reads both
    receipts. -/
theorem relayed {w : Talk Key} {a b : String} (hab : a ≠ b) (hidle : ∀ u, w.doing u = .idle)
    {e : Envelope} (hqueue : ∀ u, w.queue u = if u = b then [⟨e, 0⟩] else [])
    (hsender : e.senderId = a) (hchat : e.msgType.isChat = true)
    (hopens : ((w.client b).opens X e).isSome = true)
    (hcalm : (w.client b).panicsOn X e = false) (clock : ℕ → UInt64) (io : ReceiveInput Key) :
    ∃ w', Leads X w w' ∧ w'.posted = w.posted ∧ w'.own = w.own ∧
      w'.decrypted = w.decrypted ++ [0] ∧ w'.crashed = w.crashed ∧ w'.stream a = [] ∧
      w'.lost a = w.lost a := by
  have hreading : (w.taken X b clock).doing b = .reading [⟨e, 0⟩] := by
    show Function.update w.doing b (.ofBatch (w.queue b)) b = _
    rw [Function.update_self, hqueue, if_pos rfl]
    rfl
  have hack : (w.client b).acknowledges X e = true := by
    unfold Client.acknowledges
    rw [hopens, hcalm]
    rfl
  have hqueue' : ((w.taken X b clock).readOne X b io ⟨e, 0⟩ []).queue a =
      [⟨deliveryReceipt X.serde.toRelaySerde b (clock 0) e, 0⟩,
        ⟨(w.client b).readReceipt X io 0 e, 0⟩] := by
    have hreceipts : numberedReceipts X.serde.toRelaySerde b clock (w.queue b) =
        [⟨deliveryReceipt X.serde.toRelaySerde b (clock 0) e, 0⟩] := by
      unfold numberedReceipts
      have hfilter : List.filter (fun n : Numbered => n.envelope.msgType.isChat) [⟨e, 0⟩] =
          [⟨e, 0⟩] := List.filter_cons_of_pos hchat
      rw [hqueue, if_pos rfl, hfilter]
      rfl
    have hto : ∀ n : Numbered, n.envelope.recipientId = e.senderId →
        List.filter (fun n : Numbered => decide (n.envelope.recipientId = a)) [n] = [n] :=
      fun n hn => List.filter_cons_of_pos (decide_eq_true (hn.trans hsender))
    have hanswers : answers X (w.client b) io ⟨e, 0⟩ =
        [⟨(w.client b).readReceipt X io 0 e, 0⟩] := if_pos hack
    rw [readOne_queue, taken_queue, if_neg hab, hqueue, if_neg hab, hreceipts]
    show [] ++ _ ++ List.filter _ (answers X (w.client b) io ⟨e, 0⟩) = _
    rw [hanswers, hto _ rfl, hto _ rfl]
    rfl
  have hidle' : ((w.taken X b clock).readOne X b io ⟨e, 0⟩ []).doing a = .idle := by
    show Function.update (Function.update w.doing b _) b _ a = _
    rw [Function.update_of_ne hab, Function.update_of_ne hab, hidle]
  obtain ⟨w', hleads, hposted, hown, hdecrypted, hcrashed, hstream, hlost⟩ :=
    reads_receipts hidle' hqueue' rfl rfl clock io
  refine ⟨w', ?_, ?_, ?_, ?_, ?_, hstream, ?_⟩
  · exact ((Relation.ReflTransGen.single (step_fetch (hidle b) clock)).tail
      (step_read hreading io)).trans hleads
  · rw [hposted]
    exact hear_posted _ b _
  · rw [hown]
    exact hear_own _ b _
  · rw [hdecrypted]
    exact if_pos hopens
  · rw [hcrashed]
    show (if (w.client b).panicsOn X e then _ else _) = _
    rw [hcalm]
    rfl
  · rw [hlost, readOne_lost, if_neg hab, List.append_nil]
    rfl

/-- A client's first encrypted payload for another, which has published its bundle, is opened by
    that one. -/
theorem first_payload_opens (hP : X.prims.Lawful) {a b : Client Key}
    (hs : a.sessions.get b.userId 1 = none) (hwf : b.signedPreKey.keyPair.WellFormed X.prims)
    (io : SendInput Key) (payload : String) :
    ∃ content a', a.sendEncrypted X io (some b.register) b.userId payload =
        (.ok (content, .preKeyBundle), a') ∧ a'.userId = a.userId ∧
      a'.sentMessages = a.sentMessages ∧
      ∀ e : Envelope, e.content = content → e.msgType = .preKeyBundle →
        b.opens X e = some (utf8 payload) := by
  obtain ⟨m, a', hm, hsend, -⟩ := Client.sendEncrypted_spec hP
    (Client.getOrCreateSession_new hs io b.register) payload
  obtain ⟨huser, hsent, -⟩ := Client.sendEncrypted_sent (X := X) io (some b.register) a b.userId
    payload
  rw [hsend] at huser hsent
  refine ⟨_, a', hsend, huser, hsent, fun e hcontent htype => ?_⟩
  rw [Client.opens_hello htype (hcontent ▸ X.serde.preKeyBundleMessage.decode_encode _),
    responder_opens hP hwf hm rfl rfl]
  rfl

/-- Two clients, and others. -/
def couple (u : String) : Client Term :=
  if u = "bob" then .new symbolic (.secret 2) (.secret 3) u
  else .new symbolic (.secret 0) (.secret 1) u

theorem fresh_couple : Fresh couple := fun u => by
  unfold couple
  split <;> exact ⟨rfl, rfl⟩

theorem couple_bob : couple "bob" = .new symbolic (.secret 2) (.secret 3) "bob" := if_pos rfl

theorem couple_alice : couple "alice" = .new symbolic (.secret 0) (.secret 1) "alice" :=
  if_neg (by decide)

/-- The draws of a send at a time. -/
def sendAt (now : UInt64) : SendInput Term := ⟨.secret 4, Vector.replicate 12 0, now, now⟩

/-- Alice's first payload for Bob. -/
theorem couple_payload (now : UInt64) (payload : String) : ∃ content a',
    (couple "alice").sendEncrypted textCrates (sendAt now) (some (couple "bob").register) "bob"
      payload = (.ok (content, .preKeyBundle), a') ∧ a'.userId = "alice" ∧ a'.sentMessages = [] ∧
    ∀ e : Envelope, e.content = content → e.msgType = .preKeyBundle →
      (couple "bob").opens textCrates e = some (utf8 payload) := by
  have hwf : (couple "bob").signedPreKey.keyPair.WellFormed textCrates.prims := by
    rw [couple_bob]
    exact SignedPreKey.generate_wellFormed ..
  obtain ⟨content, a', hsend, huser, hsent, hopens⟩ := first_payload_opens (X := textCrates)
    symbolic_lawful (a := couple "alice") (b := couple "bob") (by rw [couple_alice]; rfl) hwf
    (sendAt now) payload
  rw [(fresh_couple "bob").1] at hsend
  exact ⟨content, a', hsend, huser.trans (fresh_couple "alice").1,
    hsent.trans (fresh_couple "alice").2, hopens⟩

/-- The payload of a voice message. -/
def voicePayload : String :=
  textWriters.toString (.object (Client.voiceMessage.members textWriters 0 Client.voicePiece.piece))

theorem couple_takes_voice {e : Envelope}
    (h : (couple "bob").opens textCrates e = some (utf8 voicePayload)) :
    (couple "bob").panicsOn textCrates e = false := by
  have htaken := Client.processFileChunk_payload (X := textCrates) textWriters_readBy
    (c := couple "bob") (fun id f hf => by rw [couple_bob] at hf; cases hf) Client.voicePiece
  unfold Client.panicsOn
  rw [h, Option.any_some]
  change Client.processFileChunk textCrates (couple "bob") (utf8 voicePayload) = _ at htaken
  rw [htaken]
  simp

/-- Alice's voice message is one chunk with timestamp 5, and is tracked at `now`. Bob opens it,
    and Alice reads both receipts. -/
theorem voice_run (now : UInt64) : ∃ w m, Leads textCrates (start couple) w ∧
    w.posted = [⟨"alice", "bob", 5⟩] ∧ w.own "alice" = [some [0]] ∧ w.decrypted = [0] ∧
    w.crashed = [] ∧ w.stream "alice" = [] ∧ w.lost "alice" = [] ∧
    (w.client "alice").sentMessages = [m] ∧ m.recipient = "bob" ∧ m.timestamp = now := by
  obtain ⟨content, a', hsend, huser, hsent, hopens⟩ := couple_payload 5 voicePayload
  let e : Envelope := Envelope.new 5 a'.userId "bob" content .preKeyBundle
  let w₁ : Talk Term := (start couple).setDoing "alice" (.sendingFile "bob" [])
  let w₂ : Talk Term := ((w₁.setClient "alice" a').post e).setDoing "alice" (.sendingFile "bob" [0])
  let w₃ : Talk Term :=
    (w₂.push "alice" "bob" "🎤 Voice (voice.wav)" now (some [0])).setDoing "alice" .idle
  have h₁ : (start couple).step textCrates (.startFile "alice" "bob") = some w₁ := rfl
  have h₂ : w₁.step textCrates (.chunk "alice" voicePayload (sendAt 5)
      (some (couple "bob").register)) = some w₂ := by
    have hdoing : w₁.doing "alice" = .sendingFile "bob" [] := setDoing_doing ..
    unfold step
    dsimp only
    rw [hdoing]
    dsimp only
    have hclient : w₁.client "alice" = couple "alice" := rfl
    rw [hclient, hsend]
    rfl
  have h₃ : w₂.step textCrates (.endFile "alice" "🎤 Voice (voice.wav)" now) = some w₃ := by
    have hdoing : w₂.doing "alice" = .sendingFile "bob" [0] := setDoing_doing ..
    unfold step
    dsimp only
    rw [hdoing]
  have hstart : Leads textCrates (start couple) w₃ :=
    ((Relation.ReflTransGen.single ⟨_, h₁⟩).tail ⟨_, h₂⟩).tail ⟨_, h₃⟩
  have hidle : ∀ u, w₃.doing u = .idle := fun u => by
    show Function.update (Function.update (Function.update (start couple).doing "alice" _)
      "alice" _) "alice" Doing.idle u = _
    rw [Function.update_idem, Function.update_idem, Function.update_apply]
    split <;> rfl
  have hqueue : ∀ u, w₃.queue u = if u = "bob" then [⟨e, 0⟩] else [] := fun u => by
    have hpush : w₃.queue u = [] ++ if "bob" = u then [⟨e, 0⟩] else [] :=
      push_apply (fun _ => []) ⟨e, 0⟩ u
    rw [hpush, List.nil_append]
    by_cases hu : u = "bob"
    · rw [if_pos hu, if_pos hu.symm]
    · rw [if_neg hu, if_neg (Ne.symm hu)]
  have hbob : w₃.client "bob" = couple "bob" := by
    have hne : "bob" ≠ "alice" := by decide
    exact (push_client_of_ne w₂ "bob" "🎤 Voice (voice.wav)" now (some [0]) hne).trans
      (setClient_of_ne w₁ a' hne)
  have hlabels : labels (w₃.client "alice") = [("bob", now)] := by
    have hclient : w₂.client "alice" = a' := setClient_client w₁ "alice" a'
    have hpush : w₃.client "alice" = { w₂.client "alice" with
        sentMessages := (w₂.client "alice").sentMessages ++
          [⟨"bob", "🎤 Voice (voice.wav)", now, .sent, false⟩] } :=
      setClient_client w₂ "alice" _
    rw [hpush, hclient]
    unfold labels
    rw [hsent]
    rfl
  have hopen := hopens e rfl rfl
  obtain ⟨w, hleads, hposted, hown, hdecrypted, hcrashed, hstream, hlost⟩ :=
    relayed (X := textCrates) (a := "alice") (b := "bob") (by decide) hidle hqueue huser rfl
      (by rw [hbob, hopen]; rfl) (hbob ▸ couple_takes_voice hopen) (fun _ => 7) freshReceiveInput
  have hrun := hstart.trans hleads
  have hposted : w.posted = [⟨"alice", "bob", 5⟩] := by
    rw [hposted]
    show [(⟨a'.userId, "bob", 5⟩ : Dispatch)] = _
    rw [huser]
  have hown : w.own "alice" = [some [0]] := by
    exact hown ▸ note_own (w₂.setClient "alice" _) "alice" (some [0])
  have hlength : (w.client "alice").sentMessages.length = 1 := by
    rw [← ((invariants fresh_couple hrun).2 "alice").length, hown]
    rfl
  obtain ⟨m, hm⟩ := List.length_eq_one_iff.mp hlength
  have hext := (leads_extends (invariants fresh_couple hstart).1 hleads).2.tracked "alice"
  rw [hlabels] at hext
  unfold labels at hext
  rw [hm] at hext
  have hlabel : ("bob", now) = label m := (List.cons_prefix_cons.mp hext).1
  rw [label, Prod.mk.injEq] at hlabel
  exact ⟨w, m, hrun, hposted, hown, hdecrypted, hcrashed, hstream, hlost, hm, hlabel.1.symm,
    hlabel.2.symm⟩

/-- The message is tracked in the millisecond of its chunk. -/
theorem voice_in_time : ∃ w m, Leads textCrates (start couple) w ∧
    (w.client "alice").sentMessages[0]? = some m ∧ w.decrypted = [0] ∧
    SoundStatus textCrates couple w "alice" 0 m [0] ∧ m.status = .read := by
  obtain ⟨w, m, hrun, hposted, hown, hdecrypted, hcrashed, hstream, hlost, hm, hrecipient, htime⟩ :=
    voice_run 5
  have honly : ∀ k : ℕ, w.posted[k]? = some ⟨"alice", m.recipient, m.timestamp⟩ → k = 0 :=
      fun k hk => by
    rw [hposted] at hk
    have hlt := (List.getElem?_eq_some_iff.mp hk).1
    rw [List.length_singleton] at hlt
    omega
  have hsound : SoundStatus textCrates couple w "alice" 0 m [0] :=
    status_sound fresh_couple hrun (by rw [hown]; rfl) (by rw [hm]; rfl)
      { owned := fun k hk => List.mem_singleton.mpr (honly k hk)
        first := fun i _ => Nat.zero_le i
        unique := fun k k' hk hk' => (honly k hk).trans (honly k' hk').symm
        borne := fun _ => ⟨0, by rw [hposted, hrecipient, htime]; rfl⟩ }
      (fun k _ hk => by rw [hcrashed] at hk; cases hk)
  exact ⟨w, m, hrun, by rw [hm]; rfl, hdecrypted, hsound,
    hsound.read (by decide) (fun k hk => by rwa [hdecrypted]) hstream hlost⟩

/-- The message is tracked a millisecond later: Bob has opened it and sent both receipts, Alice
    has read them, and the status is as when the message was sent. -/
theorem file_stays_sent : ∃ w m, Leads textCrates (start couple) w ∧
    (w.client "alice").sentMessages[0]? = some m ∧ (w.own "alice")[0]? = some (some [0]) ∧
    w.decrypted = [0] ∧ w.crashed = [] ∧ w.stream "alice" = [] ∧ w.lost "alice" = [] ∧
    m.status = .sent ∧ ¬ SoundStatus textCrates couple w "alice" 0 m [0] := by
  obtain ⟨w, m, hrun, hposted, hown, hdecrypted, hcrashed, hstream, hlost, hm, hrecipient, htime⟩ :=
    voice_run 6
  have hm' : (w.client "alice").sentMessages[0]? = some m := by
    rw [hm]
    rfl
  have hown' : (w.own "alice")[0]? = some (some [0]) := by
    rw [hown]
    rfl
  have hstatus : m.status = .sent :=
    stays_sent fresh_couple hrun hown' hm' (fun i _ => Nat.zero_le i) fun k hk => by
      rw [hposted, htime] at hk
      obtain ⟨hlt, hk⟩ := List.getElem?_eq_some_iff.mp hk
      rw [List.length_singleton] at hlt
      have hzero : k = 0 := by omega
      subst hzero
      exact absurd (congrArg Dispatch.timestamp hk) (show ¬ (5 : UInt64) = 6 by decide)
  refine ⟨w, m, hrun, hm', hown', hdecrypted, hcrashed, hstream, hlost, hstatus, fun hsound => ?_⟩
  have hread := hsound.read (by decide) (fun k hk => by rwa [hdecrypted]) hstream hlost
  rw [hstatus] at hread
  cases hread

end Talk

end TinTin.Cli
