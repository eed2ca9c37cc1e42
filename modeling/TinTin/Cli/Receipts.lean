/-
  Where the envelopes and receipts of a talk are.

  A chat envelope waits in its recipient's queue, is in the batch that the recipient reads, or
  was read. Its delivery receipt is made when it is fetched and its read receipt when it is read,
  so its sender gets the two in this order, each at most once: `Life` says this of one envelope,
  `Flow` of all.

  * `received_receipts`: what reading an envelope posts.
  * `Flow.post`, `Flow.fetch`, `Flow.read`: the steps that move envelopes keep `Flow`.
-/
import TinTin.Cli.Talk

namespace TinTin.Cli

open TinTin.Lib TinTin.Core TinTin.Server

variable {Key : Type}

/-! ## Reading an envelope -/

namespace Client

variable {X : Crates Key}

theorem finish_sent (io : ReceiveInput Key) (i : ℕ) (c : Client Key) (e : Envelope)
    (plaintext : Bytes) :
    (c.finish X io i e plaintext).2.1.userId = c.userId ∧
      (c.finish X io i e plaintext).2.1.sentMessages = c.sentMessages := by
  unfold finish
  rcases afterDecrypt_cases X io i c e.senderId plaintext with
    ⟨-, call, hrun⟩ | ⟨-, -, hrun | ⟨files, downloads, hrun⟩⟩ | ⟨-, -, hrun⟩
  · rw [hrun]
    exact ⟨rfl, rfl⟩
  · rw [hrun]
    exact ⟨rfl, rfl⟩
  · rw [hrun]
    exact ⟨rfl, rfl⟩
  · rw [hrun]
    exact ⟨rfl, rfl⟩

/-- What is posted at the end of reading: a read receipt, or nothing where the client panics. -/
theorem finish_receipts {io : ReceiveInput Key} {i : ℕ} (hsent : io.receiptSent i = true)
    (c : Client Key) (sessions : SessionStore Key) (e : Envelope) (plaintext : Bytes) :
    (finish X io i { c with sessions := sessions } e plaintext).2.2 =
      if !isCallSignal X plaintext && (c.processFileChunk X plaintext).isNone then []
      else [c.readReceipt X io i e] := by
  have hok := finish_isOk_iff (X := X) io i c sessions e plaintext
  have hpanic : (!isCallSignal X plaintext && (c.processFileChunk X plaintext).isNone) = true ↔
      (finish X io i { c with sessions := sessions } e plaintext).1.isOk = false := by
    rw [hok, Bool.and_eq_true, Bool.not_eq_true', Option.isNone_iff_eq_none]
  have huser := (finish_sent (X := X) io i { c with sessions := sessions } e plaintext).1
  unfold finish at *
  cases hrun : afterDecrypt X io i { c with sessions := sessions } e.senderId plaintext with
  | none =>
    rw [hrun] at hpanic
    rw [if_pos (hpanic.mpr rfl)]
  | some c' =>
    rw [hrun] at hpanic huser
    dsimp only at hpanic huser ⊢
    rw [if_pos hsent, if_neg fun h => by simpa [Except.isOk, Except.toBool] using hpanic.mp h]
    unfold readReceipt
    rw [huser]

theorem ite_not_of_isSome {α : Type} (b : Bool) (l : List α) :
    (if b = true then [] else l) = if (true && !b) = true then l else [] := by
  cases b <;> rfl

variable [DecidableEq Key]

/-- The client decrypts the message and does not panic on it. -/
def acknowledges (X : Crates Key) (c : Client Key) (e : Envelope) : Bool :=
  (c.opens X e).isSome && !c.panicsOn X e

/-- **What reading one envelope posts**: a read receipt for a message that is acknowledged. -/
theorem received_receipts {io : ReceiveInput Key} {i : ℕ} (hsent : io.receiptSent i = true)
    (c : Client Key) (e : Envelope) :
    (c.receiveEnvelope X io i e).2.2 =
      if c.acknowledges X e then [c.readReceipt X io i e] else [] := by
  unfold acknowledges panicsOn
  have hr := received (X := X) io i c e
  generalize c.receiveEnvelope X io i e = r at hr ⊢
  cases hr with
  | invalid htype hdec => simp [opens, htype, hdec]
  | hello htype hdec hok =>
    rw [finish_receipts hsent, opens_hello htype hdec, hok]
    exact ite_not_of_isSome _ _
  | note htype hself => simp [opens, htype, hself]
  | message htype hne hdec hs hok =>
    rw [finish_receipts hsent, opens_normal htype hne hdec hs, hok]
    exact ite_not_of_isSome _ _
  | rejected htype hne hdec hs herr =>
    rw [opens_normal htype hne hdec hs, herr]
    simp [Except.toOption]
  | receipt htype => simp [opens, htype]
  | skipped hopens => simp [hopens]

/-- Only a chat envelope can be decrypted. -/
theorem isChat_of_opens {c : Client Key} {e : Envelope} (h : (c.opens X e).isSome = true) :
    e.msgType.isChat = true := by
  unfold opens at h
  generalize e.msgType = kind at h ⊢
  cases kind with
  | preKeyBundle | normal => rfl
  | receipt | typing => cases h

/-- A loop that ends early acknowledges nothing. -/
theorem not_acknowledges_of_error {io : ReceiveInput Key} {i : ℕ} {c : Client Key} {e : Envelope}
    (h : (c.receiveEnvelope X io i e).1.isOk = false) : c.acknowledges X e = false := by
  unfold acknowledges panicsOn
  rcases (receiveEnvelope_ends_iff io i c e).mp h with ⟨htype, hdec⟩ | ⟨plaintext, hopens, hsig, hfile⟩
  · have hnone : c.opens X e = none := by simp [opens, htype, hdec]
    rw [hnone]
    rfl
  · rw [hopens]
    simp [hsig, hfile]

/-- What reading one envelope does to the tracked messages: a receipt updates them. -/
theorem received_sent (io : ReceiveInput Key) (i : ℕ) (c : Client Key) (e : Envelope) :
    (c.receiveEnvelope X io i e).2.1.userId = c.userId ∧
      (c.receiveEnvelope X io i e).2.1.sentMessages = match receiptOf X e with
        | none => c.sentMessages
        | some receipt => (c.updateStatus e.senderId receipt).sentMessages := by
  by_cases htype : e.msgType = .receipt
  · unfold receiveEnvelope receiptOf
    rw [htype, if_pos rfl]
    dsimp only
    cases X.serde.receiptContent.decode e.content with
    | none => exact ⟨rfl, rfl⟩
    | some receipt => exact ⟨rfl, rfl⟩
  · have hnone : receiptOf X e = none := if_neg htype
    rw [hnone]
    have hr := received (X := X) io i c e
    generalize c.receiveEnvelope X io i e = r at hr ⊢
    cases hr with
    | hello => exact finish_sent io i _ e _
    | message => exact finish_sent io i _ e _
    | receipt htype' => exact absurd htype' htype
    | invalid | note | rejected | skipped => exact ⟨rfl, rfl⟩

end Client

/-! ## Where envelopes are -/

variable {X : Crates Key}

/-- The chat envelope with a number. -/
def Numbered.isChat (k : ℕ) (n : Numbered) : Bool := n.envelope.msgType.isChat && n.number == k

/-- The kind of receipt about an envelope, if this is one. -/
def Numbered.about (X : Crates Key) (k : ℕ) (n : Numbered) : Option ReceiptType :=
  if n.number = k then (receiptOf X n.envelope).map (·.receiptType) else none

namespace Talk

/-- What a user is going to read: the rest of its batch, and what waits for it. -/
def stream (w : Talk Key) (u : String) : List Numbered := (w.doing u).batch ++ w.queue u

/-- The receipts about an envelope that a user has read. -/
def heardAbout (w : Talk Key) (u : String) (k : ℕ) : List ReceiptType :=
  (w.heard u).filterMap fun p => if p.1 = k then some p.2 else none

/-- The receipts about an envelope that a user has read or is going to. -/
def history (X : Crates Key) (w : Talk Key) (u : String) (k : ℕ) : List ReceiptType :=
  w.heardAbout u k ++ (w.stream u).filterMap (Numbered.about X k)

/-- **The life of a chat envelope.** Its sender gets the delivery receipt when it is fetched,
    then the read receipt when it is read; it is decrypted and read once. -/
structure Life (X : Crates Key) (w : Talk Key) (k : ℕ) (d : Dispatch) : Prop where
  history : (w.history X d.sender k).Sublist [.delivery, .read]
  waiting : (∃ n ∈ w.queue d.recipient, n.isChat k) → w.history X d.sender k = []
  unread : (∃ n ∈ w.stream d.recipient, n.isChat k) → .read ∉ w.history X d.sender k
  decrypted : k ∈ w.decrypted →
    .read ∈ w.history X d.sender k ∨ k ∈ w.crashed ∨ w.lost d.sender ≠ []

/-- **The envelopes of a talk and their numbers.** -/
structure Flow (X : Crates Key) (w : Talk Key) : Prop where
  userId : ∀ u, (w.client u).userId = u
  chats : ∀ u, ∀ n ∈ w.stream u, n.envelope.msgType.isChat →
    w.posted[n.number]? = some ⟨n.envelope.senderId, u, n.envelope.timestamp⟩
  receipts : ∀ u, ∀ n ∈ w.stream u, ∀ r, receiptOf X n.envelope = some r →
    w.posted[n.number]? = some ⟨u, n.envelope.senderId, r.originalTimestamp⟩
  heard : ∀ u, ∀ p ∈ w.heard u, ∃ d, w.posted[p.1]? = some d ∧ d.sender = u
  once : ∀ u k, (w.stream u).countP (Numbered.isChat k) ≤ 1
  life : ∀ k d, w.posted[k]? = some d → Life X w k d
  known : ∀ k ∈ w.decrypted, k < w.posted.length

theorem flow_start (client : String → Client Key) (huser : ∀ u, (client u).userId = u) :
    Flow X (start client) where
  userId := huser
  chats u n hn := by cases hn
  receipts u n hn := by cases hn
  heard u p hp := by cases hp
  once u k := Nat.zero_le 1
  life k d hd := by cases hd
  known k hk := by cases hk

/-- A step that moves no envelope. -/
theorem Flow.still {w w' : Talk Key} (h : Flow X w)
    (huser : ∀ u, (w'.client u).userId = (w.client u).userId)
    (hbatch : ∀ u, (w'.doing u).batch = (w.doing u).batch) (hqueue : w'.queue = w.queue)
    (hposted : w'.posted = w.posted) (hdecrypted : w'.decrypted = w.decrypted)
    (hheard : w'.heard = w.heard) (hcrashed : w'.crashed = w.crashed) (hlost : w'.lost = w.lost) :
    Flow X w' := by
  have hstream : ∀ u, w'.stream u = w.stream u := fun u => by
    unfold stream
    rw [hbatch, hqueue]
  have hhistory : ∀ u k, w'.history X u k = w.history X u k := fun u k => by
    unfold history heardAbout
    rw [hstream, hheard]
  refine ⟨fun u => (huser u).trans (h.userId u), ?_, ?_, ?_, ?_, fun k d hd => ?_, ?_⟩
  · simpa only [hstream, hposted] using h.chats
  · simpa only [hstream, hposted] using h.receipts
  · simpa only [hheard, hposted] using h.heard
  · simpa only [hstream] using h.once
  · rw [hposted] at hd
    obtain ⟨h₁, h₂, h₃, h₄⟩ := h.life k d hd
    refine ⟨?_, ?_, ?_, ?_⟩
    · rwa [hhistory]
    · rwa [hhistory, hqueue]
    · rwa [hhistory, hstream]
    · rwa [hhistory, hdecrypted, hcrashed, hlost]
  · rw [hdecrypted, hposted]
    exact h.known

/-- A chat envelope is no receipt. -/
theorem receiptOf_chat {e : Envelope} (h : e.msgType.isChat = true) : receiptOf X e = none := by
  unfold receiptOf
  refine if_neg fun htype => ?_
  rw [htype] at h
  cases h

/-- **A new chat envelope**, under the next number. -/
theorem Flow.post {w : Talk Key} (h : Flow X w) {e : Envelope} (hchat : e.msgType.isChat = true) :
    Flow X (w.post e) := by
  have hqueue : ∀ u, (w.post e).queue u =
      w.queue u ++ if e.recipientId = u then [⟨e, w.posted.length⟩] else [] := fun u =>
    push_apply w.queue ⟨e, w.posted.length⟩ u
  have hstream : ∀ u, (w.post e).stream u =
      w.stream u ++ if e.recipientId = u then [⟨e, w.posted.length⟩] else [] := fun u => by
    unfold stream
    rw [hqueue, ← List.append_assoc]
    rfl
  have hold : ∀ {k : ℕ} {d : Dispatch}, w.posted[k]? = some d → (w.post e).posted[k]? = some d :=
      fun {k d} hk => by
    show (w.posted ++ [Dispatch.of e])[k]? = some d
    rw [List.getElem?_append_left (List.getElem?_eq_some_iff.mp hk).1, hk]
  have hnew : (w.post e).posted[w.posted.length]? = some (.of e) := by
    show (w.posted ++ [Dispatch.of e])[w.posted.length]? = _
    rw [List.getElem?_append_right (Nat.le_refl _), Nat.sub_self]
    rfl
  have hmem : ∀ u n, n ∈ (w.post e).stream u → n ∈ w.stream u ∨
      e.recipientId = u ∧ n = ⟨e, w.posted.length⟩ := fun u n hn => by
    rw [hstream] at hn
    refine (List.mem_append.mp hn).imp_right fun hn => ?_
    by_cases hu : e.recipientId = u
    · rw [if_pos hu] at hn
      exact ⟨hu, List.mem_singleton.mp hn⟩
    · rw [if_neg hu] at hn
      cases hn
  have hhistory : ∀ u k, (w.post e).history X u k = w.history X u k := fun u k => by
    unfold history
    rw [hstream, List.filterMap_append]
    have hnone : List.filterMap (Numbered.about X k)
        (if e.recipientId = u then [⟨e, w.posted.length⟩] else []) = [] := by
      split
      · simp [Numbered.about, receiptOf_chat hchat]
      · rfl
    rw [hnone, List.append_nil]
    rfl
  have hfresh : ∀ u, ∀ n ∈ w.stream u, ¬ n.isChat w.posted.length := fun u n hn hc => by
    obtain ⟨hisChat, hnum⟩ := (Bool.and_eq_true _ _ ▸ hc :
      n.envelope.msgType.isChat = true ∧ (n.number == w.posted.length) = true)
    have hlt := (List.getElem?_eq_some_iff.mp (h.chats u n hn hisChat)).1
    rw [beq_iff_eq.mp hnum] at hlt
    exact Nat.lt_irrefl _ hlt
  refine ⟨h.userId, fun u n hn hc => ?_, fun u n hn r hr => ?_, fun u p hp => ?_, fun u k => ?_,
    fun k d hk => ?_, fun k hk => ?_⟩
  · rcases hmem u n hn with hn | ⟨rfl, rfl⟩
    · exact hold (h.chats u n hn hc)
    · exact hnew
  · rcases hmem u n hn with hn | ⟨rfl, rfl⟩
    · exact hold (h.receipts u n hn r hr)
    · rw [receiptOf_chat hchat] at hr
      cases hr
  · obtain ⟨d, hd, hsender⟩ := h.heard u p hp
    exact ⟨d, hold hd, hsender⟩
  · rw [hstream, List.countP_append]
    by_cases hk : k = w.posted.length
    · have hzero : (w.stream u).countP (Numbered.isChat k) = 0 := by
        rw [List.countP_eq_zero, hk]
        exact hfresh u
      rw [hzero]
      split
      · rw [List.countP_singleton]
        split <;> omega
      · rw [List.countP_nil]
        omega
    · have hzero : (if e.recipientId = u then [⟨e, w.posted.length⟩] else []).countP
          (Numbered.isChat k) = 0 := by
        split
        · simp [Numbered.isChat, Ne.symm hk]
        · rfl
      rw [hzero]
      exact h.once u k
  · by_cases hnum : k = w.posted.length
    · have hnil : w.history X d.sender k = [] := by
        unfold history
        rw [List.append_eq_nil_iff]
        constructor
        · unfold heardAbout
          rw [List.filterMap_eq_nil_iff]
          intro p hp
          obtain ⟨d', hd', -⟩ := h.heard _ p hp
          have hlt := (List.getElem?_eq_some_iff.mp hd').1
          exact if_neg fun heq => by omega
        · rw [List.filterMap_eq_nil_iff]
          intro n hn
          unfold Numbered.about
          by_cases heq : n.number = k
          · rw [if_pos heq, Option.map_eq_none_iff]
            by_contra hsome
            obtain ⟨r, hr⟩ := Option.ne_none_iff_exists'.mp hsome
            have hlt := (List.getElem?_eq_some_iff.mp (h.receipts _ n hn r hr)).1
            omega
          · exact if_neg heq
      refine ⟨?_, fun _ => ?_, fun _ => ?_, fun hdecrypted => ?_⟩
      · rw [hhistory, hnil]
        exact List.nil_sublist _
      · rw [hhistory, hnil]
      · rw [hhistory, hnil]
        exact List.not_mem_nil
      · have hlt : k < w.posted.length := h.known k hdecrypted
        omega
    · have hk' : w.posted[k]? = some d := by
        change (w.posted ++ [Dispatch.of e])[k]? = some d at hk
        have hlt : k < w.posted.length := by
          have := (List.getElem?_eq_some_iff.mp hk).1
          rw [List.length_append, List.length_singleton] at this
          omega
        rwa [List.getElem?_append_left hlt] at hk
      obtain ⟨h₁, h₂, h₃, h₄⟩ := h.life k d hk'
      refine ⟨?_, fun ⟨n, hn, hc⟩ => ?_, fun ⟨n, hn, hc⟩ => ?_, ?_⟩
      · rwa [hhistory]
      · rw [hhistory]
        rw [hqueue] at hn
        refine h₂ ⟨n, (List.mem_append.mp hn).resolve_right fun hn => ?_, hc⟩
        split at hn
        · rw [List.mem_singleton.mp hn] at hc
          simp [Numbered.isChat, Ne.symm hnum] at hc
        · cases hn
      · rw [hhistory]
        refine h₃ ⟨n, (hmem _ n hn).resolve_right fun ⟨_, heq⟩ => ?_, hc⟩
        rw [heq] at hc
        simp [Numbered.isChat, Ne.symm hnum] at hc
      · rw [hhistory]
        exact h₄
  · show k < (w.posted ++ [Dispatch.of e]).length
    have hlt := h.known k hk
    rw [List.length_append]
    omega

/-! ## Fetching -/

theorem batch_ofBatch (batch : List Numbered) : (Doing.ofBatch batch).batch = batch := by
  cases batch <;> rfl

theorem filterMap_mapIdx {α β γ : Type} {f : ℕ → α → β} {g : β → Option γ} {p : α → Option γ}
    (l : List α) (h : ∀ i, ∀ a ∈ l, g (f i a) = p a) :
    (l.mapIdx f).filterMap g = l.filterMap p := by
  induction l generalizing f with
  | nil => rfl
  | cons a l ih =>
    rw [List.mapIdx_cons, List.filterMap_cons, List.filterMap_cons, h 0 a List.mem_cons_self,
      ih fun i b hb => h (i + 1) b (List.mem_cons_of_mem _ hb)]

theorem filterMap_const {α β : Type} (p : α → Bool) (b : β) (l : List α) :
    (l.filterMap fun a => if p a then some b else none) = List.replicate (l.countP p) b := by
  induction l with
  | nil => rfl
  | cons a l ih =>
    rw [List.filterMap_cons, List.countP_cons, ih]
    by_cases h : p a
    · rw [if_pos h, if_pos h]
      rfl
    · rw [if_neg h, if_neg h]
      rfl

theorem receiptOf_deliveryReceipt (userId : String) (t : UInt64) (e : Envelope) :
    receiptOf X (deliveryReceipt X.serde.toRelaySerde userId t e) =
      some ⟨.delivery, e.senderId, e.timestamp⟩ := by
  show (if MessageType.receipt = .receipt then X.serde.receiptContent.decode
    (X.serde.receiptContent.encode ⟨.delivery, e.senderId, e.timestamp⟩) else none) = _
  rw [if_pos rfl, X.serde.receiptContent.decode_encode]

/-- What is in a delivery receipt, and that it is no chat envelope. -/
theorem mem_numberedReceipts {userId : String} {clock : ℕ → UInt64} {batch : List Numbered}
    {x : Numbered} (hx : x ∈ numberedReceipts X.serde.toRelaySerde userId clock batch) :
    ∃ n ∈ batch, n.envelope.msgType.isChat = true ∧ x.number = n.number ∧
      x.envelope.senderId = userId ∧ x.envelope.recipientId = n.envelope.senderId ∧
      x.envelope.msgType.isChat = false ∧
      receiptOf X x.envelope =
        some ⟨.delivery, n.envelope.senderId, n.envelope.timestamp⟩ := by
  unfold numberedReceipts at hx
  obtain ⟨i, hi, rfl⟩ := List.mem_mapIdx.mp hx
  have hmem := List.mem_filter.mp (List.getElem_mem hi)
  exact ⟨_, hmem.1, hmem.2, rfl, rfl, rfl, rfl, receiptOf_deliveryReceipt _ _ _⟩

/-- The delivery receipts about an envelope that go to its sender: one for each time it is in
    the batch. -/
theorem about_numberedReceipts {userId sender : String} {clock : ℕ → UInt64}
    {batch : List Numbered} {k : ℕ}
    (hsender : ∀ n ∈ batch, n.isChat k = true → n.envelope.senderId = sender) :
    ((numberedReceipts X.serde.toRelaySerde userId clock batch).filter
      (·.envelope.recipientId = sender)).filterMap (Numbered.about X k) =
      List.replicate (batch.countP (Numbered.isChat k)) .delivery := by
  rw [← filterMap_const, List.filterMap_filter]
  unfold numberedReceipts
  rw [filterMap_mapIdx (p := fun n => if n.envelope.senderId = sender then
      if n.number = k then some .delivery else none else none), List.filterMap_filter]
  · refine List.filterMap_congr fun n hn => ?_
    by_cases hc : n.isChat k = true
    · rw [if_pos hc]
      have hboth : n.envelope.msgType.isChat = true ∧ n.number = k := by
        simpa [Numbered.isChat] using hc
      rw [if_pos hboth.1, if_pos (hsender n hn hc), if_pos hboth.2]
    · rw [if_neg hc]
      by_cases hchat : n.envelope.msgType.isChat = true
      · have hnum : ¬ n.number = k := fun h => hc (by simp [Numbered.isChat, hchat, h])
        rw [if_pos hchat, if_neg hnum, ite_self]
      · rw [if_neg hchat]
  · intro i n _
    unfold Numbered.about
    dsimp only
    rw [receiptOf_deliveryReceipt]
    by_cases h : n.envelope.senderId = sender
    · rw [if_pos h]
      exact if_pos (decide_eq_true h)
    · rw [if_neg h]
      exact if_neg fun hd => h (of_decide_eq_true hd)

/-- **What a step that posts no chat envelope has to keep**: envelopes stay or go, and what comes
    is a receipt about an envelope. -/
theorem Flow.next {w w' : Talk Key} (h : Flow X w) (huser : ∀ u, (w'.client u).userId = u)
    (hposted : w'.posted = w.posted)
    (hstream : ∀ u, ∀ n ∈ w'.stream u, n ∈ w.stream u ∨ n.envelope.msgType.isChat = false ∧
      ∃ r, receiptOf X n.envelope = some r ∧
        w.posted[n.number]? = some ⟨u, n.envelope.senderId, r.originalTimestamp⟩)
    (hheard : ∀ u, ∀ p ∈ w'.heard u, p ∈ w.heard u ∨
      ∃ d, w.posted[p.1]? = some d ∧ d.sender = u)
    (honce : ∀ u k, (w'.stream u).countP (Numbered.isChat k) ≤
      (w.stream u).countP (Numbered.isChat k))
    (hknown : ∀ k ∈ w'.decrypted, k ∈ w.decrypted ∨ k < w.posted.length)
    (hlife : ∀ k d, w.posted[k]? = some d → Life X w k d → Life X w' k d) : Flow X w' := by
  refine ⟨huser, fun u n hn hc => ?_, fun u n hn r hr => ?_, fun u p hp => ?_, fun u k => ?_,
    fun k d hk => ?_, fun k hk => ?_⟩
  · rw [hposted]
    refine h.chats u n ((hstream u n hn).resolve_right fun hnew => ?_) hc
    rw [hnew.1] at hc
    cases hc
  · rw [hposted]
    rcases hstream u n hn with hn | ⟨-, r', hr', hk⟩
    · exact h.receipts u n hn r hr
    · rwa [Option.some.inj (hr.symm.trans hr')]
  · rw [hposted]
    exact (hheard u p hp).elim (h.heard u p) id
  · exact (honce u k).trans (h.once u k)
  · rw [hposted] at hk
    exact hlife k d hk (h.life k d hk)
  · rw [hposted]
    exact (hknown k hk).elim (h.known k) id

/-- A user takes its queue. -/
def taken (X : Crates Key) (w : Talk Key) (u : String) (clock : ℕ → UInt64) : Talk Key :=
  { w with queue := (w.queue.fetch X.serde.toRelaySerde u clock).2 }.setDoing u
    (.ofBatch (w.queue u))

theorem taken_queue (w : Talk Key) (u : String) (clock : ℕ → UInt64) (x : String) :
    (w.taken X u clock).queue x = (if x = u then [] else w.queue x) ++
      (numberedReceipts X.serde.toRelaySerde u clock (w.queue u)).filter
        (·.envelope.recipientId = x) := by
  show List.foldl Queues.push _ _ x = _
  rw [foldl_push_apply, Function.update_apply]

theorem taken_stream {w : Talk Key} {u : String} (hidle : w.doing u = .idle)
    (clock : ℕ → UInt64) (x : String) :
    (w.taken X u clock).stream x = w.stream x ++
      (numberedReceipts X.serde.toRelaySerde u clock (w.queue u)).filter
        (·.envelope.recipientId = x) := by
  unfold stream
  rw [taken_queue, ← List.append_assoc]
  congr 1
  by_cases hx : x = u
  · subst hx
    rw [if_pos rfl, hidle, List.append_nil]
    show ((Function.update w.doing x (.ofBatch (w.queue x))) x).batch = _
    rw [Function.update_self, batch_ofBatch]
    rfl
  · rw [if_neg hx]
    show ((Function.update w.doing u (.ofBatch (w.queue u))) x).batch ++ _ = _
    rw [Function.update_of_ne hx]

/-- What a user sees of an envelope with a number. -/
theorem Flow.sender_of_isChat {w : Talk Key} (h : Flow X w) {u : String} {n : Numbered}
    (hn : n ∈ w.stream u) {k : ℕ} (hc : n.isChat k = true) :
    w.posted[k]? = some ⟨n.envelope.senderId, u, n.envelope.timestamp⟩ := by
  have hboth : n.envelope.msgType.isChat = true ∧ n.number = k := by
    simpa [Numbered.isChat] using hc
  have hk := h.chats u n hn hboth.1
  rwa [hboth.2] at hk

/-- Taking the queue adds the delivery receipt of an envelope to what its sender is going to
    read. -/
theorem Flow.taken_history {w : Talk Key} (h : Flow X w) {u : String} (hidle : w.doing u = .idle)
    (clock : ℕ → UInt64) {k : ℕ} {d : Dispatch} (hk : w.posted[k]? = some d) :
    (w.taken X u clock).history X d.sender k = w.history X d.sender k ++
      List.replicate ((w.queue u).countP (Numbered.isChat k)) .delivery := by
  have hsender : ∀ n ∈ w.queue u, n.isChat k = true → n.envelope.senderId = d.sender :=
      fun n hn hc => by
    have hsome := h.sender_of_isChat (List.mem_append_right _ hn) hc
    rw [hk] at hsome
    exact congrArg Dispatch.sender (Option.some.inj hsome).symm
  unfold history
  rw [taken_stream hidle, List.filterMap_append, about_numberedReceipts hsender,
    List.append_assoc]
  rfl

/-- **Taking the queue**: delivery receipts for the envelopes in it. -/
theorem Flow.taken {w : Talk Key} (h : Flow X w) {u : String} (hidle : w.doing u = .idle)
    (clock : ℕ → UInt64) : Flow X (w.taken X u clock) := by
  have hnew : ∀ x, ∀ n ∈ (numberedReceipts X.serde.toRelaySerde u clock (w.queue u)).filter
      (·.envelope.recipientId = x), n.envelope.msgType.isChat = false ∧
        ∃ r, receiptOf X n.envelope = some r ∧
          w.posted[n.number]? = some ⟨x, n.envelope.senderId, r.originalTimestamp⟩ := by
    intro x n hn
    obtain ⟨hmem, hx⟩ := List.mem_filter.mp hn
    obtain ⟨m, hm, hchat, hnum, hs, hr, hnochat, hreceipt⟩ := mem_numberedReceipts hmem
    refine ⟨hnochat, _, hreceipt, ?_⟩
    rw [hnum, h.chats u m (List.mem_append_right _ hm) hchat, hs, ← hr, of_decide_eq_true hx]
  have hnochat : ∀ x k, ((numberedReceipts X.serde.toRelaySerde u clock (w.queue u)).filter
      (·.envelope.recipientId = x)).countP (Numbered.isChat k) = 0 := fun x k =>
    List.countP_eq_zero.mpr fun n hn hc => by
      simp [Numbered.isChat, (hnew x n hn).1] at hc
  refine h.next h.userId rfl (fun x n hn => ?_) (fun x p hp => .inl hp) (fun x k => ?_)
    (fun k hk => .inl hk) fun k d hk hlife => ?_
  · rw [taken_stream hidle] at hn
    exact (List.mem_append.mp hn).imp_right (hnew x n)
  · rw [taken_stream hidle, List.countP_append, hnochat]
    exact Nat.le_refl _
  · obtain ⟨h₁, h₂, h₃, h₄⟩ := hlife
    have hhistory := h.taken_history hidle clock hk
    have hwhere : ∀ n ∈ w.queue u, n.isChat k = true → d.recipient = u := fun n hn hc => by
      have hsome := h.sender_of_isChat (List.mem_append_right _ hn) hc
      rw [hk] at hsome
      exact congrArg Dispatch.recipient (Option.some.inj hsome)
    have hcount : (w.queue u).countP (Numbered.isChat k) ≤ 1 := by
      have honce := h.once u k
      unfold stream at honce
      rw [List.countP_append] at honce
      omega
    refine ⟨?_, fun ⟨n, hn, hc⟩ => ?_, fun ⟨n, hn, hc⟩ => ?_, fun hdecrypted => ?_⟩
    · rw [hhistory]
      rcases Nat.eq_zero_or_pos ((w.queue u).countP (Numbered.isChat k)) with hzero | hpos
      · rw [hzero, List.replicate_zero, List.append_nil]
        exact h₁
      · obtain ⟨n, hn, hc⟩ := List.countP_pos_iff.mp hpos
        have hone : (w.queue u).countP (Numbered.isChat k) = 1 := by omega
        rw [h₂ ⟨n, hwhere n hn hc ▸ hn, hc⟩, hone]
        exact List.sublist_append_left [ReceiptType.delivery] [ReceiptType.read]
    · rw [taken_queue, List.mem_append] at hn
      rcases hn with hn | hn
      · by_cases hu : d.recipient = u
        · rw [if_pos hu] at hn
          cases hn
        · rw [if_neg hu] at hn
          have hzero : (w.queue u).countP (Numbered.isChat k) = 0 :=
            List.countP_eq_zero.mpr fun n hn hc => hu (hwhere n hn hc)
          rw [hhistory, h₂ ⟨n, hn, hc⟩, hzero]
          rfl
      · simp [Numbered.isChat, (hnew _ n hn).1] at hc
    · rw [taken_stream hidle, List.mem_append] at hn
      rcases hn with hn | hn
      · rw [hhistory, List.mem_append]
        rintro (hread | hread)
        · exact h₃ ⟨n, hn, hc⟩ hread
        · cases List.eq_of_mem_replicate hread
      · simp [Numbered.isChat, (hnew _ n hn).1] at hc
    · rw [hhistory]
      exact (h₄ hdecrypted).imp_left (List.mem_append_left _)

/-! ## Reading -/

theorem hear_posted (w : Talk Key) (u : String) (n : Numbered) :
    (w.hear X u n).posted = w.posted := by
  unfold hear
  split <;> rfl

theorem hear_own (w : Talk Key) (u : String) (n : Numbered) : (w.hear X u n).own = w.own := by
  unfold hear
  split <;> rfl

theorem hear_heard (w : Talk Key) (u : String) (n : Numbered) (x : String) :
    (w.hear X u n).heard x = w.heard x ++ if x = u then
      ((receiptOf X n.envelope).map fun r => (n.number, r.receiptType)).toList else [] := by
  unfold hear
  cases receiptOf X n.envelope with
  | none =>
    rw [Option.map_none, Option.toList_none, ite_self, List.append_nil]
  | some r =>
    show Function.update w.heard u _ x = _
    rw [Function.update_apply]
    split
    · subst x
      rfl
    · rw [List.append_nil]

theorem sublist_snoc {α : Type} {l l₀ : List α} {b : α} (h : l.Sublist (l₀ ++ [b])) (hb : b ∉ l) :
    (l ++ [b]).Sublist (l₀ ++ [b]) := by
  obtain ⟨l₁, l₂, rfl, h₁, h₂⟩ := List.sublist_append_iff.mp h
  rcases List.sublist_singleton.mp h₂ with rfl | rfl
  · rw [List.append_nil]
    exact h₁.append_right [b]
  · exact absurd (List.mem_append_right _ List.mem_cons_self) hb

variable [DecidableEq Key]

/-- What reading posts: nothing, or a read receipt under the same number. -/
def answers (X : Crates Key) (c : Client Key) (io : ReceiveInput Key) (n : Numbered) :
    List Numbered :=
  if c.acknowledges X n.envelope then [⟨c.readReceipt X io 0 n.envelope, n.number⟩] else []

omit [DecidableEq Key] in
theorem receiptOf_readReceipt (io : ReceiveInput Key) (c : Client Key) (e : Envelope) :
    receiptOf X (c.readReceipt X io 0 e) = some ⟨.read, e.senderId, e.timestamp⟩ := by
  show (if MessageType.receipt = .receipt then X.serde.receiptContent.decode
    (X.serde.receiptContent.encode ⟨.read, e.senderId, e.timestamp⟩) else none) = _
  rw [if_pos rfl, X.serde.receiptContent.decode_encode]

/-- One pass of the loop, of a client whose receipts are sent. -/
def pass (X : Crates Key) (w : Talk Key) (u : String) (io : ReceiveInput Key) (n : Numbered) :
    Except ReceiveError Unit × Client Key × List Envelope :=
  (w.client u).receiveEnvelope X { io with receiptSent := fun _ => true } 0 n.envelope

/-- The pass ends the loop. -/
def ends (X : Crates Key) (w : Talk Key) (u : String) (io : ReceiveInput Key) (n : Numbered) :
    Bool :=
  !(w.pass X u io n).1.isOk

theorem readOne_queue (w : Talk Key) (u : String) (io : ReceiveInput Key) (n : Numbered)
    (rest : List Numbered) (x : String) :
    (w.readOne X u io n rest).queue x = w.queue x ++
      (answers X (w.client u) io n).filter (·.envelope.recipientId = x) := by
  have hposted : (w.pass X u io n).2.2 =
      if (w.client u).acknowledges X n.envelope then
        [(w.client u).readReceipt X { io with receiptSent := fun _ => true } 0 n.envelope]
      else [] :=
    Client.received_receipts rfl (w.client u) n.envelope
  show ((w.pass X u io n).2.2.map fun e => (⟨e, n.number⟩ : Numbered)).foldl Queues.push
    w.queue x = _
  rw [foldl_push_apply, hposted]
  unfold answers
  split <;> rfl

theorem readOne_batch (w : Talk Key) (u : String) (io : ReceiveInput Key) (n : Numbered)
    (rest : List Numbered) (x : String) :
    ((w.readOne X u io n rest).doing x).batch =
      if x = u then if w.ends X u io n then [] else rest else (w.doing x).batch := by
  show (Function.update w.doing u
    (if (w.pass X u io n).1.isOk then .ofBatch rest else .idle) x).batch = _
  unfold ends
  rw [Function.update_apply]
  by_cases hx : x = u
  · rw [if_pos hx, if_pos hx]
    cases (w.pass X u io n).1.isOk with
    | true => exact batch_ofBatch rest
    | false => rfl
  · rw [if_neg hx, if_neg hx]

theorem readOne_lost (w : Talk Key) (u : String) (io : ReceiveInput Key) (n : Numbered)
    (rest : List Numbered) (x : String) :
    (w.readOne X u io n rest).lost x =
      w.lost x ++ if x = u then if w.ends X u io n then rest else [] else [] := by
  show (if (w.pass X u io n).1.isOk then w.lost
    else Function.update w.lost u (w.lost u ++ rest)) x = _
  unfold ends
  cases (w.pass X u io n).1.isOk with
  | true => simp
  | false =>
    show Function.update w.lost u _ x = _
    rw [Function.update_apply]
    split
    · subst x
      rfl
    · rw [List.append_nil]

/-- A pass that ends the loop posts nothing. -/
theorem answers_of_ends {w : Talk Key} {u : String} {io : ReceiveInput Key} {n : Numbered}
    (h : w.ends X u io n = true) : answers X (w.client u) io n = [] := by
  have hno := Client.not_acknowledges_of_error (Bool.not_eq_true' _ ▸ h)
  unfold answers
  rw [hno]
  rfl

/-- What was read is heard. -/
theorem readOne_heardAbout (w : Talk Key) (u : String) (io : ReceiveInput Key) (n : Numbered)
    (rest : List Numbered) (x : String) (k : ℕ) :
    (w.readOne X u io n rest).heardAbout x k =
      w.heardAbout x k ++ if x = u then (n.about X k).toList else [] := by
  show ((w.hear X u n).heard x).filterMap _ = _
  rw [hear_heard, List.filterMap_append]
  unfold heardAbout Numbered.about
  congr 1
  split
  · cases receiptOf X n.envelope with
    | none => simp
    | some r => by_cases hnum : n.number = k <;> simp [hnum]
  · rfl

/-- What is left to be read. -/
theorem readOne_stream (w : Talk Key) {u : String} (io : ReceiveInput Key) (n : Numbered)
    (rest : List Numbered) (x : String) :
    (w.readOne X u io n rest).stream x =
      (if x = u then (if w.ends X u io n then [] else rest) ++ w.queue u else w.stream x) ++
        (answers X (w.client u) io n).filter (·.envelope.recipientId = x) := by
  unfold stream
  rw [readOne_batch, readOne_queue, ← List.append_assoc]
  by_cases hx : x = u
  · rw [if_pos hx, if_pos hx, hx]
  · rw [if_neg hx, if_neg hx]

omit [DecidableEq Key] in
theorem stream_of_reading {w : Talk Key} {u : String} {n : Numbered} {rest : List Numbered}
    (hdoing : w.doing u = .reading (n :: rest)) : w.stream u = n :: (rest ++ w.queue u) := by
  unfold stream
  rw [hdoing]
  rfl

/-- A pass after which the loop goes on adds what it posts. -/
theorem readOne_history {w : Talk Key} {u : String} {io : ReceiveInput Key} {n : Numbered}
    {rest : List Numbered} (hdoing : w.doing u = .reading (n :: rest))
    (hends : w.ends X u io n = false) (x : String) (k : ℕ) :
    (w.readOne X u io n rest).history X x k = w.history X x k ++
      ((answers X (w.client u) io n).filter (·.envelope.recipientId = x)).filterMap
        (Numbered.about X k) := by
  unfold history
  rw [readOne_heardAbout, readOne_stream, List.filterMap_append, hends, if_neg Bool.false_ne_true]
  by_cases hx : x = u
  · rw [if_pos hx, if_pos hx, hx, stream_of_reading hdoing, List.filterMap_cons]
    cases n.about X k <;> simp
  · rw [if_neg hx, if_neg hx, List.append_nil, List.append_assoc]

/-- A pass that ends the loop loses what is left of the batch. -/
theorem readOne_history_ends {w : Talk Key} {u : String} {io : ReceiveInput Key} {n : Numbered}
    {rest : List Numbered} (hdoing : w.doing u = .reading (n :: rest))
    (hends : w.ends X u io n = true) (x : String) (k : ℕ) :
    ((w.readOne X u io n rest).history X x k).Sublist (w.history X x k) ∧
      ((w.readOne X u io n rest).lost x = [] →
        (w.readOne X u io n rest).history X x k = w.history X x k) := by
  have hlost := readOne_lost (X := X) w u io n rest x
  unfold history
  rw [readOne_heardAbout, readOne_stream, answers_of_ends hends, List.filter_nil, List.append_nil]
  rw [hends, if_pos rfl] at *
  by_cases hx : x = u
  · subst hx
    rw [if_pos rfl, if_pos rfl, stream_of_reading hdoing, List.nil_append]
    have hcons : List.filterMap (Numbered.about X k) (n :: (rest ++ w.queue x)) =
        (n.about X k).toList ++ (rest.filterMap (Numbered.about X k) ++
          (w.queue x).filterMap (Numbered.about X k)) := by
      rw [List.filterMap_cons, List.filterMap_append]
      cases n.about X k <;> rfl
    rw [hcons, List.append_assoc]
    constructor
    · exact ((List.sublist_append_right _ _).append_left _).append_left _
    · intro hnil
      rw [if_pos rfl] at hlost
      rw [hnil] at hlost
      rw [(List.append_eq_nil_iff.mp hlost.symm).2]
      rfl
  · rw [if_neg hx, if_neg hx, List.append_nil]
    exact ⟨List.Sublist.refl _, fun _ => rfl⟩

/-- The read receipts about an envelope that go to its sender: one when it is acknowledged. -/
theorem Flow.about_answers {w : Talk Key} (h : Flow X w) {u : String} {io : ReceiveInput Key}
    {n : Numbered} (hn : n ∈ w.stream u) {k : ℕ} {d : Dispatch} (hk : w.posted[k]? = some d) :
    ((answers X (w.client u) io n).filter (·.envelope.recipientId = d.sender)).filterMap
        (Numbered.about X k) =
      if (w.client u).acknowledges X n.envelope ∧ n.number = k then [.read] else [] := by
  unfold answers
  by_cases hack : (w.client u).acknowledges X n.envelope = true
  · rw [if_pos hack]
    by_cases hnum : n.number = k
    · have hopens : ((w.client u).opens X n.envelope).isSome = true :=
        (Bool.and_eq_true _ _ ▸ hack :
          ((w.client u).opens X n.envelope).isSome = true ∧ _).1
      have hsome := h.chats u n hn (Client.isChat_of_opens hopens)
      rw [hnum, hk] at hsome
      have hto : ((w.client u).readReceipt X io 0 n.envelope).recipientId = d.sender :=
        congrArg Dispatch.sender (Option.some.inj hsome).symm
      rw [if_pos ⟨hack, hnum⟩]
      simp [Numbered.about, hnum, receiptOf_readReceipt, hto]
    · rw [if_neg fun hboth => hnum hboth.2]
      rw [List.filterMap_eq_nil_iff]
      intro x hx
      rw [List.mem_singleton.mp (List.mem_of_mem_filter hx)]
      exact if_neg hnum
  · rw [if_neg hack, if_neg fun hboth => hack hboth.1]
    rfl

/-- What reading posts is a receipt about an envelope. -/
theorem Flow.of_mem_answers {w : Talk Key} (h : Flow X w) {u : String} {io : ReceiveInput Key}
    {n : Numbered} (hn : n ∈ w.stream u) {x : String} {m : Numbered}
    (hm : m ∈ (answers X (w.client u) io n).filter (·.envelope.recipientId = x)) :
    m.envelope.msgType.isChat = false ∧ ∃ r, receiptOf X m.envelope = some r ∧
      w.posted[m.number]? = some ⟨x, m.envelope.senderId, r.originalTimestamp⟩ := by
  obtain ⟨hmem, hx⟩ := List.mem_filter.mp hm
  unfold answers at hmem
  by_cases hack : (w.client u).acknowledges X n.envelope = true
  · rw [if_pos hack] at hmem
    have hm := List.mem_singleton.mp hmem
    subst hm
    have hopens : ((w.client u).opens X n.envelope).isSome = true :=
      (Bool.and_eq_true _ _ ▸ hack : ((w.client u).opens X n.envelope).isSome = true ∧ _).1
    refine ⟨rfl, _, receiptOf_readReceipt io _ _, ?_⟩
    have hx : n.envelope.senderId = x := of_decide_eq_true hx
    have huser : ((w.client u).readReceipt X io 0 n.envelope).senderId = u := h.userId u
    rw [h.chats u n hn (Client.isChat_of_opens hopens), huser, hx]
  · rw [if_neg hack] at hmem
    cases hmem

/-- What is left of a user's envelopes, without what the pass posts. -/
def remaining (X : Crates Key) (w : Talk Key) (u : String) (io : ReceiveInput Key) (n : Numbered)
    (rest : List Numbered) (x : String) : List Numbered :=
  if x = u then (if w.ends X u io n then [] else rest) ++ w.queue u else w.stream x

theorem remaining_sublist {w : Talk Key} {u : String} {io : ReceiveInput Key} {n : Numbered}
    {rest : List Numbered} (hdoing : w.doing u = .reading (n :: rest)) (x : String) :
    (w.remaining X u io n rest x).Sublist (w.stream x) := by
  unfold remaining
  by_cases hx : x = u
  · rw [if_pos hx, hx, stream_of_reading hdoing]
    refine List.Sublist.cons _ (List.Sublist.append_right ?_ _)
    split
    · exact List.nil_sublist _
    · exact List.Sublist.refl _
  · rw [if_neg hx]

/-- The chat envelopes that are left. -/
theorem Flow.readOne_chat {w : Talk Key} (h : Flow X w) {u : String} {io : ReceiveInput Key}
    {n : Numbered} {rest : List Numbered} (hn : n ∈ w.stream u) {x : String} {m : Numbered}
    (hm : m ∈ (w.readOne X u io n rest).stream x) {k : ℕ} (hc : m.isChat k = true) :
    m ∈ w.remaining X u io n rest x := by
  rw [readOne_stream] at hm
  refine (List.mem_append.mp hm).resolve_right fun hm => ?_
  simp [Numbered.isChat, (h.of_mem_answers hn hm).1] at hc

theorem mem_readOne_decrypted {w : Talk Key} {u : String} {io : ReceiveInput Key} {n : Numbered}
    {rest : List Numbered} {k : ℕ} (hk : k ∈ (w.readOne X u io n rest).decrypted) :
    k ∈ w.decrypted ∨ ((w.client u).opens X n.envelope).isSome = true ∧ k = n.number := by
  change k ∈ if ((w.client u).opens X n.envelope).isSome then w.decrypted ++ [n.number]
    else w.decrypted at hk
  split at hk
  · rename_i hopens
    exact (List.mem_append.mp hk).imp_right fun hk => ⟨hopens, List.mem_singleton.mp hk⟩
  · exact .inl hk

theorem mem_readOne_crashed {w : Talk Key} {u : String} {io : ReceiveInput Key} {n : Numbered}
    {rest : List Numbered} {k : ℕ} : k ∈ (w.readOne X u io n rest).crashed ↔
      k ∈ w.crashed ∨ (w.client u).panicsOn X n.envelope = true ∧ k = n.number := by
  change (k ∈ if (w.client u).panicsOn X n.envelope then w.crashed ++ [n.number] else w.crashed) ↔ _
  split
  · rename_i hpanics
    rw [List.mem_append, List.mem_singleton, and_iff_right hpanics]
  · rename_i hno
    rw [or_iff_left fun hboth => hno hboth.1]

/-- The life of the envelope that is acknowledged. -/
theorem Flow.life_acknowledged {w : Talk Key} (h : Flow X w) {u : String} {io : ReceiveInput Key}
    {n : Numbered} {rest : List Numbered} (hdoing : w.doing u = .reading (n :: rest))
    (hack : (w.client u).acknowledges X n.envelope = true) {d : Dispatch}
    (hk : w.posted[n.number]? = some d) : Life X (w.readOne X u io n rest) n.number d := by
  have hstream := stream_of_reading hdoing
  have hn : n ∈ w.stream u := hstream ▸ List.mem_cons_self
  have hopens : ((w.client u).opens X n.envelope).isSome = true :=
    (Bool.and_eq_true _ _ ▸ hack : ((w.client u).opens X n.envelope).isSome = true ∧ _).1
  have hends : w.ends X u io n = false := by
    by_contra hends
    have hnil := answers_of_ends (Bool.not_eq_false _ ▸ hends)
    unfold answers at hnil
    rw [if_pos hack] at hnil
    cases hnil
  have hc : n.isChat n.number = true := by
    simp [Numbered.isChat, Client.isChat_of_opens hopens]
  have hto : d.recipient = u := by
    have hsome := h.sender_of_isChat hn hc
    rw [hk] at hsome
    exact congrArg Dispatch.recipient (Option.some.inj hsome)
  have hhistory : (w.readOne X u io n rest).history X d.sender n.number =
      w.history X d.sender n.number ++ [.read] := by
    rw [readOne_history hdoing hends, h.about_answers hn hk, if_pos ⟨hack, rfl⟩]
  obtain ⟨h₁, -, h₃, -⟩ := h.life _ d hk
  -- the envelope was there once
  have hgone : ¬ ∃ m ∈ (w.readOne X u io n rest).stream d.recipient, m.isChat n.number = true := by
    rintro ⟨m, hm, hcm⟩
    have hm := h.readOne_chat hn hm hcm
    unfold remaining at hm
    rw [if_pos hto, hends, if_neg Bool.false_ne_true] at hm
    have hone := h.once u n.number
    rw [hstream, List.countP_cons_of_pos hc] at hone
    have hpos := List.countP_pos_iff.mpr ⟨m, hm, hcm⟩
    omega
  refine ⟨?_, fun ⟨m, hm, hcm⟩ => absurd ⟨m, List.mem_append_right _ hm, hcm⟩ hgone,
    fun hm => absurd hm hgone, fun _ => ?_⟩
  · rw [hhistory]
    exact sublist_snoc (show List.Sublist _ ([ReceiptType.delivery] ++ [.read]) from h₁)
      (h₃ ⟨n, hto ▸ hn, hc⟩)
  · rw [hhistory]
    exact .inl (List.mem_append_right _ List.mem_cons_self)

/-- The life of any other envelope. -/
theorem Flow.life_other {w : Talk Key} (h : Flow X w) {u : String} {io : ReceiveInput Key}
    {n : Numbered} {rest : List Numbered} (hdoing : w.doing u = .reading (n :: rest)) {k : ℕ}
    (hno : ¬((w.client u).acknowledges X n.envelope = true ∧ n.number = k)) {d : Dispatch}
    (hk : w.posted[k]? = some d) : Life X (w.readOne X u io n rest) k d := by
  have hn : n ∈ w.stream u := stream_of_reading hdoing ▸ List.mem_cons_self
  obtain ⟨hsub, hsame⟩ :
      ((w.readOne X u io n rest).history X d.sender k).Sublist (w.history X d.sender k) ∧
        ((w.readOne X u io n rest).lost d.sender = [] →
          (w.readOne X u io n rest).history X d.sender k = w.history X d.sender k) := by
    by_cases hends : w.ends X u io n = true
    · exact readOne_history_ends hdoing hends d.sender k
    · have hhistory := readOne_history hdoing (Bool.not_eq_true _ ▸ hends) d.sender k
      rw [h.about_answers hn hk, if_neg hno, List.append_nil] at hhistory
      exact ⟨hhistory ▸ List.Sublist.refl _, fun _ => hhistory⟩
  obtain ⟨h₁, h₂, h₃, h₄⟩ := h.life k d hk
  refine ⟨hsub.trans h₁, fun ⟨m, hm, hc⟩ => ?_, fun ⟨m, hm, hc⟩ hread => ?_, fun hdecrypted => ?_⟩
  · rw [readOne_queue] at hm
    have hm : m ∈ w.queue d.recipient := (List.mem_append.mp hm).resolve_right fun hm => by
      simp [Numbered.isChat, (h.of_mem_answers hn hm).1] at hc
    rw [h₂ ⟨m, hm, hc⟩] at hsub
    exact List.sublist_nil.mp hsub
  · have hm := (remaining_sublist hdoing _).subset (h.readOne_chat hn hm hc)
    exact h₃ ⟨m, hm, hc⟩ (hsub.subset hread)
  · by_cases hlost : (w.readOne X u io n rest).lost d.sender = []
    · rw [hsame hlost, mem_readOne_crashed]
      rcases mem_readOne_decrypted hdecrypted with hold | ⟨hopens, rfl⟩
      · rcases h₄ hold with hread | hcrashed | hne
        · exact .inl hread
        · exact .inr (.inl (.inl hcrashed))
        · rw [readOne_lost] at hlost
          exact absurd (List.append_eq_nil_iff.mp hlost).1 hne
      · refine .inr (.inl (.inr ⟨?_, rfl⟩))
        by_contra hpanics
        refine hno ⟨?_, rfl⟩
        unfold Client.acknowledges
        rw [hopens, Bool.eq_false_iff.mpr hpanics]
        rfl
    · exact .inr (.inr hlost)

/-- **One pass of the loop**: a read receipt for a message that is acknowledged. -/
theorem Flow.readOne {w : Talk Key} (h : Flow X w) {u : String} {io : ReceiveInput Key}
    {n : Numbered} {rest : List Numbered} (hdoing : w.doing u = .reading (n :: rest)) :
    Flow X (w.readOne X u io n rest) := by
  have hn : n ∈ w.stream u := stream_of_reading hdoing ▸ List.mem_cons_self
  refine h.next (fun x => ?_) (hear_posted w u n) (fun x m hm => ?_) (fun x p hp => ?_)
    (fun x k => ?_) (fun k hk => ?_) fun k d hk _ => ?_
  · show (Function.update w.client u (w.pass X u io n).2.1 x).userId = x
    rw [Function.update_apply]
    split
    · subst x
      exact (Client.received_sent _ 0 _ _).1.trans (h.userId u)
    · exact h.userId x
  · rw [readOne_stream] at hm
    exact (List.mem_append.mp hm).imp (fun hm => (remaining_sublist hdoing x).subset hm)
      (h.of_mem_answers hn)
  · have hp : p ∈ (w.hear X u n).heard x := hp
    rw [hear_heard, List.mem_append] at hp
    refine hp.imp_right fun hnew => ?_
    split at hnew
    · subst x
      obtain ⟨r, hr, rfl⟩ := Option.map_eq_some_iff.mp (Option.mem_toList.mp hnew)
      exact ⟨_, h.receipts u n hn r hr, rfl⟩
    · cases hnew
  · rw [readOne_stream, List.countP_append]
    have hzero : ((answers X (w.client u) io n).filter (·.envelope.recipientId = x)).countP
        (Numbered.isChat k) = 0 := List.countP_eq_zero.mpr fun m hm hc => by
      simp [Numbered.isChat, (h.of_mem_answers hn hm).1] at hc
    rw [hzero]
    exact (remaining_sublist hdoing x).countP_le
  · refine (mem_readOne_decrypted hk).imp_right fun ⟨hopens, hnum⟩ => ?_
    rw [hnum]
    exact (List.getElem?_eq_some_iff.mp (h.chats u n hn (Client.isChat_of_opens hopens))).1
  · by_cases hack : (w.client u).acknowledges X n.envelope = true ∧ n.number = k
    · obtain ⟨hack, rfl⟩ := hack
      exact h.life_acknowledged hdoing hack hk
    · exact h.life_other hdoing hack hk

end Talk

end TinTin.Cli
