/-
  Who sees whose posts (`get_timeline`), along any run of the store's operations.

  The contacts of a user are the members of its groups and whoever has mail in the queue from or to
  it. Mail leaves the queue when it is fetched; a delivery receipt goes the other way, for a chat
  message, until that one is fetched.

  * `returned_eq`: the timeline is the hundred newest of the posts that a user with those contacts
    sees.
  * `mailStays_iff`: after which fetches there is mail between two users.
  * `timeline_contacts`: which posts of users that have talked are missing, and which ones a fetch
    takes away.
  * `fetched_out_of_sight`: two fetches after a message, a post is gone from the timeline.
-/
import TinTin.Lib.TopN
import TinTin.Server.Operations
import TinTin.Symbolic.Serde

namespace TinTin.Server

open TinTin.Lib TinTin.Core

variable {J : RelaySerde} {db : Database}

/-! ## Ties between users -/

/-- A sender and a recipient are the two users. -/
def between (senderId recipientId u v : String) : Bool :=
  (senderId == v && recipientId == u) || (recipientId == v && senderId == u)

theorem between_swap (a b u v : String) : between a b u v = between b a u v := by
  unfold between
  rw [Bool.or_comm]

theorem between_comm (a b u v : String) : between a b u v = between a b v u := by
  unfold between
  rw [Bool.or_comm, Bool.and_comm (b == v), Bool.and_comm (a == v)]

theorem between_self (a b : String) : between a b a b = true := by
  unfold between
  simp

theorem between_iff {a b u v : String} :
    between a b u v = true ↔ a = v ∧ b = u ∨ a = u ∧ b = v := by
  unfold between
  rw [Bool.or_eq_true, Bool.and_eq_true, Bool.and_eq_true, beq_iff_eq, beq_iff_eq, beq_iff_eq,
    beq_iff_eq, and_comm (a := b = v)]

/-- The users are members of one group. -/
def Database.shareGroup (db : Database) (u v : String) : Bool :=
  db.groupMembers.any fun m => m.userId == v &&
    db.groupMembers.any fun m' => m'.groupId == m.groupId && m'.userId == u

/-- A message between the users is in the queue. -/
def Database.mailBetween (db : Database) (u v : String) : Bool :=
  db.messages.rows.any fun r => between r.2.senderId r.2.recipientId u v

theorem Database.isContact_eq (db : Database) (u v : String) :
    db.isContact u v = (db.shareGroup u v || db.mailBetween u v) := by
  unfold Database.isContact Database.shareGroup Database.mailBetween between
  rw [Bool.or_assoc]
  congr 1
  induction db.messages.rows with
  | nil => rfl
  | cons r rows ih =>
    rw [List.any_cons, List.any_cons, List.any_cons, ← ih]
    generalize (r.2.senderId == v && r.2.recipientId == u) = a
    generalize (r.2.recipientId == v && r.2.senderId == u) = b
    cases a <;> cases b <;> simp

theorem Database.mailBetween_comm (db : Database) (u v : String) :
    db.mailBetween u v = db.mailBetween v u := by
  unfold Database.mailBetween
  congr 1
  funext r
  exact between_comm _ _ u v

/-- The user is a member of the group. -/
def Database.IsMember (db : Database) (groupId userId : String) : Prop :=
  ∃ m ∈ db.groupMembers, m.groupId = groupId ∧ m.userId = userId

theorem Database.shareGroup_iff {u v : String} : db.shareGroup u v = true ↔
    ∃ groupId, db.IsMember groupId u ∧ db.IsMember groupId v := by
  unfold Database.shareGroup
  simp only [List.any_eq_true, Bool.and_eq_true, beq_iff_eq]
  constructor
  · rintro ⟨m, hm, hv, m', hm', hgroup, hu⟩
    exact ⟨m.groupId, ⟨m', hm', hgroup, hu⟩, m, hm, rfl, hv⟩
  · rintro ⟨groupId, ⟨m', hm', hgroup', hu⟩, m, hm, hgroup, hv⟩
    exact ⟨m, hm, hv, m', hm', hgroup'.trans hgroup.symm, hu⟩

theorem Database.shareGroup_comm {u v : String} (h : db.shareGroup u v = true) :
    db.shareGroup v u = true := by
  obtain ⟨groupId, hu, hv⟩ := Database.shareGroup_iff.mp h
  exact Database.shareGroup_iff.mpr ⟨groupId, hv, hu⟩

/-- The entry has put an envelope between the users into the queue. -/
def queuedBetween (u v : String) : Done → Bool
  | (.queueMessage e, .ok _) => between e.senderId e.recipientId u v
  | _ => false

/-- **The users have talked**: an envelope from one to the other was queued. -/
def talked (entries : List Done) (u v : String) : Bool := entries.any (queuedBetween u v)

/-! ## What a user sees -/

/-- The posts that a user with given contacts sees: its own, those of the contacts and those that
    are for it. -/
def seenBy (u : String) (contact : String → Bool) (r : ℤ × TimelinePostRow) : Bool :=
  r.2.userId == u || contact r.2.userId || r.2.targetUserId == some u

/-- The hundred newest of them. -/
def newest (db : Database) (u : String) (contact : String → Bool) : List (ℤ × TimelinePostRow) :=
  topN (fun a b => b.2.createdAt ≤ a.2.createdAt) 100
    (db.timelinePosts.rows.filter (seenBy u contact))

/-- The posts that `get_timeline` returns. -/
def returned (db : Database) (u : String) : List (ℤ × TimelinePostRow) :=
  match getTimeline u Auto.faultless db 0 with
  | (.ok posts, _, _) => posts.map fun r => (r.1, r.2.1)
  | (.error _, _, _) => []

/-- The hundred newest posts that a user sees to whom everyone is a contact that shares a group with
    it or has talked to it. -/
def Journal.promised (s : Journal) (u : String) : List (ℤ × TimelinePostRow) :=
  newest s.db u fun v => s.db.shareGroup u v || talked s.entries u v

theorem returned_eq (db : Database) (u : String) : returned db u = newest db u (db.isContact u) := by
  unfold returned
  show List.map _ (List.map _ _) = _
  rw [List.map_map]
  exact List.map_id _

theorem seen_of_mem_newest {u : String} {contact : String → Bool} {p : ℤ × TimelinePostRow}
    (h : p ∈ newest db u contact) : seenBy u contact p = true :=
  (List.mem_filter.mp (mem_of_mem_topN h)).2

/-- A post that is among the newest stays there when contacts go, as long as it is still seen. -/
theorem mem_newest_of_fewer {u : String} {contact contact' : String → Bool}
    (hfewer : ∀ v, contact' v = true → contact v = true) {p : ℤ × TimelinePostRow}
    (h : p ∈ newest db u contact) : p ∈ newest db u contact' ↔ seenBy u contact' p = true := by
  refine ⟨seen_of_mem_newest, fun hp => ?_⟩
  refine mem_topN_filter (fun a b => ?_) (fun a b c hab hbc => ?_) (fun a ha => ?_) h hp
  · omega
  · omega
  · unfold seenBy at ha ⊢
    simp only [Bool.or_eq_true] at ha ⊢
    rcases ha with (ha | ha) | ha
    · exact Or.inl (Or.inl ha)
    · exact Or.inl (Or.inr (hfewer _ ha))
    · exact Or.inr ha

/-! ## The queue -/

/-- Every row of the queue is an envelope between users who have talked. -/
def Journal.MailTalked (J : RelaySerde) (s : Journal) : Prop :=
  ∀ r ∈ s.db.messages.rows, ∃ e : Envelope,
    r.2 = messageRow J e ∧ talked s.entries e.senderId e.recipientId = true

/-- The senders to whom a fetch queues a receipt. -/
def receipted (J : RelaySerde) (faults : Faults DbError) (db : Database) (w : String) :
    List String :=
  let chat := (pending J db w).filter (·.msgType.isChat)
  (chat.take (Auto.untilFault faults 2 chat.length)).map (·.senderId)

/-- A fetch has got as far as to remove the mail. -/
def Removes (faults : Faults DbError) : Prop := faults 0 = none ∧ faults 1 = none

/-- **What a fetch does to the tables**, whichever of its statements fails. -/
theorem fetchMessages_state (J : RelaySerde) (w : String) (clock : ℕ → UInt64)
    (faults : Faults DbError) (db : Database) :
    (Removes faults ∧ (fetchMessages J w clock faults db 0).2.1 =
        ((deliveryReceipts J w clock (pending J db w)).take (Auto.untilFault faults 2
          (deliveryReceipts J w clock (pending J db w)).length)).foldl (withMessage J)
            (withoutMessages db w)) ∨
      ¬ Removes faults ∧ (fetchMessages J w clock faults db 0).2.1 = db := by
  cases h₀ : faults 0 with
  | some e =>
    refine Or.inr ⟨fun h => by simp [Removes, h₀] at h, ?_⟩
    have hrun : fetchMessages J w clock faults db 0 = (.error e, db, 1) :=
      Auto.run_bind_error (Auto.run_exec_fault h₀)
    rw [hrun]
  | none =>
    cases h₁ : faults 1 with
    | some e =>
      refine Or.inr ⟨fun h => by simp [Removes, h₁] at h, ?_⟩
      have hrun : fetchMessages J w clock faults db 0 = (.error e, db, 2) :=
        (Auto.run_bind_ok (Auto.run_exec_ok h₀ rfl)).trans
          (Auto.run_bind_error (Auto.run_exec_fault h₁))
      rw [hrun]
    | none =>
      refine Or.inl ⟨⟨h₀, h₁⟩, ?_⟩
      rw [← Auto.run_loop_state (fun receipt => insertMessage (messageRow J receipt))
        (withMessage J) (fun _ _ => rfl) (deliveryReceipts J w clock (pending J db w))
        (withoutMessages db w) 2]
      have hrun : fetchMessages J w clock faults db 0 =
          (Auto.loop (fun receipt => .exec (insertMessage (messageRow J receipt)))
            (deliveryReceipts J w clock (pending J db w)) >>= fun _ => pure (pending J db w))
              faults (withoutMessages db w) 2 :=
        (Auto.run_bind_ok (Auto.run_exec_ok h₀ rfl)).trans
          (Auto.run_bind_ok (Auto.run_exec_ok h₁ rfl))
      rw [hrun, Auto.run_bind]
      rcases Auto.loop (fun receipt => .exec (insertMessage (messageRow J receipt)))
        (deliveryReceipts J w clock (pending J db w)) faults (withoutMessages db w) 2 with
        ⟨_ | _, _, _⟩ <;> rfl

theorem messages_withMessages (es : List Envelope) (db : Database) :
    es.foldl (withMessage J) db =
      { db with messages := db.messages.insertAll (es.map (messageRow J)) } := by
  induction es generalizing db with
  | nil => rfl
  | cons e es ih =>
    rw [List.foldl_cons, ih]
    rfl

/-- The senders and recipients of the receipts. -/
theorem receipts_between (w : String) (clock : ℕ → UInt64) (faults : Faults DbError)
    (db : Database) (u v : String) :
    (((deliveryReceipts J w clock (pending J db w)).take (Auto.untilFault faults 2
        (deliveryReceipts J w clock (pending J db w)).length)).any fun e =>
          between e.senderId e.recipientId u v) =
      (receipted J faults db w).any fun x => between w x u v := by
  unfold receipted deliveryReceipts
  dsimp only
  rw [List.length_mapIdx]
  generalize (pending J db w).filter (·.msgType.isChat) = chat
  have hsenders : ∀ (l : List Envelope) (f : ℕ → Envelope → Envelope) (k : ℕ),
      (∀ i e, (f i e).senderId = w ∧ (f i e).recipientId = e.senderId) →
      (((l.mapIdx f).take k).any fun e => between e.senderId e.recipientId u v) =
        ((l.take k).map (·.senderId)).any fun x => between w x u v := by
    intro l
    induction l with
    | nil => intro f k _; simp
    | cons e l ih =>
      intro f k hf
      cases k with
      | zero => simp
      | succ k =>
        rw [List.mapIdx_cons, List.take_succ_cons, List.take_succ_cons, List.map_cons,
          List.any_cons, List.any_cons, ih (fun i => f (i + 1)) k (fun i => hf (i + 1)), (hf 0 e).1,
          (hf 0 e).2]
  exact hsenders chat (fun i msg => deliveryReceipt J w (clock i) msg) _ fun _ _ => ⟨rfl, rfl⟩

/-- A fetch touches nothing but the queue. -/
theorem fetchMessages_frame (J : RelaySerde) (w : String) (clock : ℕ → UInt64)
    (faults : Faults DbError) (db : Database) : ∃ messages,
      (fetchMessages J w clock faults db 0).2.1 = { db with messages := messages } := by
  rcases fetchMessages_state J w clock faults db with ⟨_, h⟩ | ⟨_, h⟩
  · rw [messages_withMessages] at h
    exact ⟨_, h⟩
  · exact ⟨db.messages, h⟩

/-! ## When a fetch leaves mail between two users -/

/-- **Mail between two users is left by a fetch of `w`**: the fetch removes nothing; or some of the
    mail is not for `w`; or one of the two is `w`, and the other one gets a receipt. -/
def MailStays (J : RelaySerde) (faults : Faults DbError) (db : Database) (w u v : String) : Prop :=
  (¬ Removes faults ∧ db.mailBetween u v = true) ∨
    (∃ r ∈ db.messages.rows, r.2.recipientId ≠ w ∧
      between r.2.senderId r.2.recipientId u v = true) ∨
    Removes faults ∧ ∃ x ∈ receipted J faults db w, between w x u v = true

theorem mailStays_comm {faults : Faults DbError} {w u v : String} (h : MailStays J faults db w u v) :
    MailStays J faults db w v u := by
  rcases h with ⟨hnot, hmail⟩ | ⟨r, hr, hto, hbetween⟩ | ⟨hremoves, x, hx, hbetween⟩
  · exact Or.inl ⟨hnot, (db.mailBetween_comm v u).trans hmail⟩
  · exact Or.inr (Or.inl ⟨r, hr, hto, (between_comm _ _ v u).trans hbetween⟩)
  · exact Or.inr (Or.inr ⟨hremoves, x, hx, (between_comm _ _ v u).trans hbetween⟩)

theorem mailStays_iff (J : RelaySerde) (w : String) (clock : ℕ → UInt64) (faults : Faults DbError)
    (db : Database) (u v : String) :
    (fetchMessages J w clock faults db 0).2.1.mailBetween u v = true ↔
      MailStays J faults db w u v := by
  rcases fetchMessages_state J w clock faults db with ⟨hremoves, h⟩ | ⟨hnot, h⟩
  · have hrows : (fetchMessages J w clock faults db 0).2.1.mailBetween u v =
        ((withoutMessages db w).mailBetween u v ||
          (receipted J faults db w).any fun x => between w x u v) := by
      rw [h, messages_withMessages, ← receipts_between w clock faults db u v]
      generalize (deliveryReceipts J w clock (pending J db w)).take _ = receipts
      obtain ⟨new, hnew, hmap⟩ :=
        AutoTable.rows_insertAll (withoutMessages db w).messages (receipts.map (messageRow J))
      unfold Database.mailBetween
      dsimp only
      rw [hnew, List.any_append]
      congr 1
      have hany : (new.any fun r => between r.2.senderId r.2.recipientId u v) =
          (new.map Prod.snd).any fun r => between r.senderId r.recipientId u v := by
        rw [List.any_map]
        rfl
      rw [hany, hmap, List.any_map]
      rfl
    rw [hrows, Bool.or_eq_true, List.any_eq_true]
    unfold MailStays Database.mailBetween
    rw [List.any_eq_true]
    refine ⟨fun hmail => ?_, fun hmail => ?_⟩
    · rcases hmail with ⟨r, hr, hbetween⟩ | hanswer
      · obtain ⟨hmem, hto⟩ := List.mem_filter.mp hr
        exact Or.inr (Or.inl ⟨r, hmem, by simpa using hto, hbetween⟩)
      · exact Or.inr (Or.inr ⟨hremoves, hanswer⟩)
    · rcases hmail with ⟨hnot, _⟩ | ⟨r, hr, hto, hbetween⟩ | ⟨_, hanswer⟩
      · exact absurd hremoves hnot
      · exact Or.inl ⟨r, List.mem_filter.mpr ⟨hr, by simpa using hto⟩, hbetween⟩
      · exact Or.inr hanswer
  · rw [h]
    refine ⟨fun hmail => Or.inl ⟨hnot, hmail⟩, fun hmail => ?_⟩
    rcases hmail with ⟨_, hmail⟩ | ⟨r, hr, _, hbetween⟩ | ⟨hremoves, _⟩
    · exact hmail
    · exact List.any_eq_true.mpr ⟨r, hr, hbetween⟩
    · exact absurd hremoves hnot

/-- Pending mail has its row, under its sender. -/
theorem row_of_pending {s : Journal} (h : s.MailTalked J) {w : String} {e : Envelope}
    (he : e ∈ pending J s.db w) : ∃ r ∈ s.db.messages.rows,
      r.2.senderId = e.senderId ∧ r.2.recipientId = w ∧ talked s.entries e.senderId w = true := by
  obtain ⟨r, hr, hdecode⟩ := List.mem_filterMap.mp he
  obtain ⟨hmem, hto⟩ := List.mem_filter.mp hr
  have hto : r.2.recipientId = w := by simpa using hto
  obtain ⟨e', hrow, htalked⟩ := h r hmem
  rw [hrow] at hdecode
  have hsame : some e' = some e := (J.envelope.decode_encode e').symm.trans hdecode
  obtain rfl := Option.some.inj hsame
  have he' : e'.recipientId = w := by
    rw [hrow] at hto
    exact hto
  refine ⟨r, hmem, ?_, hto, he' ▸ htalked⟩
  rw [hrow]
  rfl

/-- A receipt goes to a sender of mail that is there. -/
theorem row_of_receipted {s : Journal} (h : s.MailTalked J) {faults : Faults DbError} {w x : String}
    (hx : x ∈ receipted J faults s.db w) :
    ∃ r ∈ s.db.messages.rows, r.2.senderId = x ∧ r.2.recipientId = w := by
  obtain ⟨e, he, rfl⟩ := List.mem_map.mp hx
  obtain ⟨r, hr, hfrom, hto, _⟩ :=
    row_of_pending h (List.mem_filter.mp (List.mem_of_mem_take he)).1
  exact ⟨r, hr, hfrom, hto⟩

/-- **A fetch makes nobody a contact**: what is left between two users, there was before. -/
theorem mailBetween_of_stays {s : Journal} (h : s.MailTalked J) {faults : Faults DbError}
    {w u v : String} (hstays : MailStays J faults s.db w u v) : s.db.mailBetween u v = true := by
  rcases hstays with ⟨_, hmail⟩ | ⟨r, hr, _, hbetween⟩ | ⟨_, x, hx, hbetween⟩
  · exact hmail
  · exact List.any_eq_true.mpr ⟨r, hr, hbetween⟩
  · obtain ⟨r, hr, hfrom, hto⟩ := row_of_receipted h hx
    refine List.any_eq_true.mpr ⟨r, hr, ?_⟩
    rw [hfrom, hto, between_swap]
    exact hbetween

/-! ## The other operations -/

/-- The queue stays, and no member leaves a group. -/
structure Quiet (db db' : Database) : Prop where
  messages : db'.messages = db.messages
  members : db.groupMembers ⊆ db'.groupMembers

theorem Quiet.trans {db₁ db₂ db₃ : Database} (h : Quiet db₁ db₂) (h' : Quiet db₂ db₃) :
    Quiet db₁ db₃ :=
  ⟨h'.messages.trans h.messages, List.Subset.trans h.members h'.members⟩

/-- Neither the queue nor the groups are touched. -/
theorem Quiet.of_eq {db' : Database} (hmessages : db'.messages = db.messages)
    (hmembers : db'.groupMembers = db.groupMembers) : Quiet db db' :=
  ⟨hmessages, fun _ h => hmembers ▸ h⟩

namespace Operation

/-- The operation is no `queue_message`, `fetch_messages` or `remove_group_member`. -/
def IsQuiet : Operation → Prop
  | .queueMessage _ => False
  | .fetchMessages _ _ => False
  | .removeGroupMember _ _ => False
  | _ => True

theorem quiet_createGroup (groupId name creator : String) :
    Auto.Moves Quiet (Server.createGroup groupId name creator) db := by
  refine Auto.moves_bind (Auto.moves_exec fun _ db' h => .single ?_) fun _ _ _ db₁ _ _ =>
    Auto.moves_return (Auto.moves_exec fun _ db'' h => .single ?_) _
  · unfold insertGroup at h
    split at h
    · cases h
    · cases h
      exact .of_eq rfl rfl
  · unfold insertGroupMember at h
    split at h
    · cases h
    · split at h
      · cases h
      · cases h
        exact ⟨rfl, List.subset_append_left _ _⟩

theorem quiet_addGroupMember (groupId userId : String) :
    Auto.Moves Quiet (Server.addGroupMember groupId userId) db := by
  refine Auto.moves_exec fun _ db' h => .single ?_
  unfold insertOrIgnoreGroupMember at h
  split at h
  · cases h
    exact .of_eq rfl rfl
  · split at h
    · cases h
    · cases h
      exact ⟨rfl, List.subset_append_left _ _⟩

theorem quiet_subscribeChannel (channelId : ℤ) (userId : String) :
    Auto.Moves Quiet (Server.subscribeChannel channelId userId) db := by
  refine Auto.moves_exec fun _ db' h => .single ?_
  unfold insertOrIgnoreSubscriber at h
  split at h
  · cases h
    exact .of_eq rfl rfl
  · split at h
    · cases h
    · cases h
      exact .of_eq rfl rfl

theorem quiet_createPoll (creator question : String) (options : List String) :
    Auto.Moves Quiet (Server.createPoll creator question options) db := by
  refine Auto.moves_bind (Auto.moves_once rfl (.of_eq rfl rfl)) fun _ _ pollId db₁ _ _ => ?_
  refine Auto.moves_bind ?_ fun _ _ _ db₂ _ _ => Auto.moves_pure _ db₂
  refine Auto.moves_loop (P := fun _ => True) (fun _ _ _ _ => trivial)
    (fun _ _ _ => Auto.moves_exec fun _ db' h => .single ?_) _ db₁ trivial
  unfold insertPollOption at h
  split at h
  · cases h
  · cases h
    exact .of_eq rfl rfl

theorem quiet_votePoll (pollId : ℤ) (userId : String) (optionId : ℤ) :
    Auto.Moves Quiet (Server.votePoll pollId userId optionId) db := by
  refine Auto.moves_bind (Auto.moves_attempt_read rfl) fun _ _ poll db₁ _ _ => ?_
  split
  · refine Auto.moves_bind (Auto.moves_once rfl (.of_eq rfl rfl)) fun _ _ count db₂ _ _ => ?_
    split
    · exact Auto.moves_pure _ db₂
    · refine Auto.moves_return (Auto.moves_exec fun _ db' h => .single ?_) _
      unfold upsertVote at h
      split at h
      · cases h
      · cases h
        exact .of_eq rfl rfl
  · exact Auto.moves_pure _ db₁

theorem quiet_pollResults (pollId : ℤ) : Auto.Moves Quiet (Server.pollResults pollId) db := by
  refine Auto.moves_bind (Auto.moves_attempt_read rfl) fun _ _ poll db₁ _ _ => ?_
  split
  · exact Auto.moves_pure _ db₁
  · exact Auto.moves_return (Auto.moves_once rfl (.of_eq rfl rfl)) _

theorem quiet_closePoll (pollId : ℤ) (userId : String) :
    Auto.Moves Quiet (Server.closePoll pollId userId) db := by
  refine Auto.moves_bind (Auto.moves_attempt_read rfl) fun _ _ poll db₁ _ _ => ?_
  split
  · split
    · exact Auto.moves_return (Auto.moves_once rfl (.of_eq rfl rfl)) _
    · exact Auto.moves_pure _ db₁
  · exact Auto.moves_pure _ db₁

theorem quiet_addComment (now postId : ℤ) (userId content : String) :
    Auto.Moves Quiet (Server.addComment now postId userId content) db := by
  refine Auto.moves_exec fun _ db' h => .single ?_
  unfold insertComment at h
  split at h
  · cases h
  · cases h
    exact .of_eq rfl rfl

theorem quiet_deletePost (postId : ℤ) (userId : String) :
    Auto.Moves Quiet (Server.deletePost postId userId) db := by
  refine Auto.moves_bind (Auto.moves_once rfl (.of_eq rfl rfl)) fun _ _ _ db₁ _ _ => ?_
  refine Auto.moves_return (Auto.moves_exec fun _ db' h => .single ?_) _
  unfold deletePosts at h
  dsimp only at h
  split at h
  · cases h
  · cases h
    exact .of_eq rfl rfl

/-- **The operations that leave the ties between users alone**, whichever of their statements
    fail. -/
theorem quiet_moves (J : RelaySerde) {op : Operation} (hop : op.IsQuiet) (db : Database) :
    Auto.Moves Quiet (op.exec J) db := by
  cases op with
  | queueMessage envelope => exact hop.elim
  | fetchMessages userId clock => exact hop.elim
  | removeGroupMember groupId userId => exact hop.elim
  | createGroup groupId name creator => exact Auto.moves_return (quiet_createGroup _ _ _) _
  | addGroupMember groupId userId => exact Auto.moves_return (quiet_addGroupMember _ _) _
  | subscribeChannel channelId userId => exact Auto.moves_return (quiet_subscribeChannel _ _) _
  | createPoll creator question options => exact Auto.moves_return (quiet_createPoll _ _ _) _
  | votePoll pollId userId optionId => exact Auto.moves_return (quiet_votePoll _ _ _) _
  | pollResults pollId => exact Auto.moves_return (quiet_pollResults _) _
  | closePoll pollId userId => exact Auto.moves_return (quiet_closePoll _ _) _
  | deletePost postId userId => exact Auto.moves_return (quiet_deletePost _ _) _
  | addComment now postId userId content => exact Auto.moves_return (quiet_addComment _ _ _ _) _
  | setStatus _ _ _ | groupExists _ | getKeyBundle _ =>
    exact Auto.moves_return (Auto.moves_return (Auto.moves_once rfl (.of_eq rfl rfl)) _) _
  | registerUser _ _ _ | setPresence _ _ | clearStatus _ | createChannel _ _
  | unsubscribeChannel _ _ | createPost _ _ _ _ | listMyGroups _ | listGroupMembers _
  | getChannelOwner _ | listChannelSubscribers _ | listMyChannels _ | listAllChannels
  | getActiveStatuses _ | listUsers _ | listActivePolls _ | getTimeline _ | getComments _ =>
    exact Auto.moves_return (Auto.moves_once rfl (.of_eq rfl rfl)) _

theorem quiet_state (J : RelaySerde) {op : Operation} (hop : op.IsQuiet) (faults : Faults DbError)
    (db : Database) : Quiet db (op.exec J faults db 0).2.1 :=
  (quiet_moves J hop db).keeps (P := Quiet db) (fun _ _ hquiet h => h.trans hquiet)
    (.of_eq rfl rfl) faults 0

end Operation

/-! ## Along a run -/

variable {s : Journal}

theorem talked_snoc (entries : List Done) (a : Done) (u v : String) :
    talked (entries ++ [a]) u v = (talked entries u v || queuedBetween u v a) := by
  unfold talked
  rw [List.any_append, List.any_cons, List.any_nil, Bool.or_false]

theorem talked_comm (entries : List Done) (u v : String) :
    talked entries u v = talked entries v u := by
  unfold talked
  congr 1
  funext a
  unfold queuedBetween
  split
  · exact between_comm _ _ u v
  · rfl

/-- An operation that adds no row to the queue. -/
theorem Journal.MailTalked.fewer (h : s.MailTalked J) {db' : Database}
    (hrows : db'.messages.rows ⊆ s.db.messages.rows) (a : Done) :
    Journal.MailTalked J ⟨db', s.entries ++ [a]⟩ := by
  intro r hr
  obtain ⟨e, hrow, htalked⟩ := h r (hrows hr)
  refine ⟨e, hrow, ?_⟩
  show talked (s.entries ++ [a]) _ _ = true
  rw [talked_snoc, htalked, Bool.true_or]

theorem Journal.step_eq (s : Journal) (op : Operation) (faults : Faults DbError) :
    s.step J (op, faults) = ⟨(op.exec J faults s.db 0).2.1,
      s.entries ++ [(op, (op.exec J faults s.db 0).1)]⟩ := rfl

/-- A message that is queued, or not. -/
theorem exec_queueMessage (J : RelaySerde) (envelope : Envelope) (faults : Faults DbError)
    (db : Database) :
    (∃ e n, (Operation.queueMessage envelope).exec J faults db 0 = (.error e, db, n)) ∨
      ∃ n, (Operation.queueMessage envelope).exec J faults db 0 =
        (.ok none, withMessage J db envelope, n) := by
  rcases Auto.run_exec_cases (insertMessage (messageRow J envelope)) faults db 0 with
    ⟨e, he⟩ | ⟨a, db', hs, hok⟩
  · exact Or.inl ⟨e, _, Auto.run_bind_error he⟩
  · cases hs
    exact Or.inr ⟨_, Auto.run_bind_ok hok⟩

/-- What an operation leaves does not depend on what is kept of its result. -/
theorem return_state {α β : Type} (x : StoreM α) (f : α → β) (faults : Faults DbError)
    (db : Database) (n : ℕ) :
    ((x >>= fun a => pure (f a)) faults db n).2.1 = (x faults db n).2.1 := by
  rw [Auto.run_bind]
  rcases x faults db n with ⟨_ | _, _, _⟩ <;> rfl

/-- A member leaves, unless the statement fails. -/
theorem removeGroupMember_state (J : RelaySerde) (groupId userId : String)
    (faults : Faults DbError) (db : Database) :
    ((faults 0).isSome ∧
      ((Operation.removeGroupMember groupId userId).exec J faults db 0).2.1 = db) ∨
      (faults 0).isNone ∧
        ((Operation.removeGroupMember groupId userId).exec J faults db 0).2.1 = { db with
          groupMembers := db.groupMembers.filter
            fun m => !(m.groupId == groupId && m.userId == userId) } := by
  have hstate : ((Operation.removeGroupMember groupId userId).exec J faults db 0).2.1 =
      (removeGroupMember groupId userId faults db 0).2.1 := return_state _ _ _ _ _
  rw [hstate]
  cases hf : faults 0 with
  | some e =>
    have hrun : removeGroupMember groupId userId faults db 0 = (.error e, db, 1) :=
      Auto.run_exec_fault hf
    exact Or.inl ⟨rfl, by rw [hrun]⟩
  | none =>
    have hrun : removeGroupMember groupId userId faults db 0 = (.ok (), { db with
        groupMembers := db.groupMembers.filter
          fun m => !(m.groupId == groupId && m.userId == userId) }, 1) :=
      Auto.run_exec_ok hf rfl
    exact Or.inr ⟨rfl, by rw [hrun]⟩

/-- **A fetch queues nothing but receipts** to users who have talked to the one that fetches. -/
theorem Journal.MailTalked.fetch (h : s.MailTalked J) (w : String) (clock : ℕ → UInt64)
    (faults : Faults DbError) (a : Done) :
    Journal.MailTalked J ⟨(fetchMessages J w clock faults s.db 0).2.1, s.entries ++ [a]⟩ := by
  rcases fetchMessages_state J w clock faults s.db with ⟨_, hstate⟩ | ⟨_, hstate⟩
  · rw [hstate, messages_withMessages]
    intro r hr
    obtain ⟨new, hnew, hmap⟩ := AutoTable.rows_insertAll (withoutMessages s.db w).messages
      (((deliveryReceipts J w clock (pending J s.db w)).take (Auto.untilFault faults 2
        (deliveryReceipts J w clock (pending J s.db w)).length)).map (messageRow J))
    have hr : r ∈ (withoutMessages s.db w).messages.rows ++ new := hnew ▸ hr
    rcases List.mem_append.mp hr with hr | hr
    · have hold : Journal.MailTalked J ⟨withoutMessages s.db w, s.entries ++ [a]⟩ :=
        h.fewer List.filter_sublist.subset a
      exact hold r hr
    · have hreceipt : r.2 ∈ new.map Prod.snd := List.mem_map_of_mem hr
      rw [hmap] at hreceipt
      obtain ⟨receipt, hmem, hrow⟩ := List.mem_map.mp hreceipt
      obtain ⟨i, hi, rfl⟩ := List.mem_mapIdx.mp (List.mem_of_mem_take hmem)
      have hpending := (List.mem_filter.mp (List.getElem_mem hi)).1
      obtain ⟨_, _, _, _, htalked⟩ := row_of_pending h hpending
      rw [talked_comm] at htalked
      refine ⟨_, hrow.symm, ?_⟩
      show talked (s.entries ++ [a]) _ _ = true
      rw [talked_snoc]
      exact Bool.or_eq_true_iff.mpr (Or.inl htalked)
  · rw [hstate]
    exact h.fewer (List.Subset.refl _) a

/-- **One operation keeps it**: the rows of the queue are between users who have talked. -/
theorem Journal.MailTalked.step (h : s.MailTalked J) (a : Operation × Faults DbError) :
    (s.step J a).MailTalked J := by
  obtain ⟨op, faults⟩ := a
  rw [Journal.step_eq]
  by_cases hop : op.IsQuiet
  · refine h.fewer ?_ _
    rw [(op.quiet_state J hop faults s.db).messages]
    exact List.Subset.refl _
  · cases op with
    | queueMessage envelope =>
      rcases exec_queueMessage J envelope faults s.db with ⟨e, n, hrun⟩ | ⟨n, hrun⟩
      · rw [hrun]
        exact h.fewer (List.Subset.refl _) _
      · rw [hrun]
        intro r hr
        rcases List.mem_append.mp hr with hr | hr
        · exact h.fewer (List.Subset.refl _) _ r hr
        · rw [List.mem_singleton.mp hr]
          refine ⟨envelope, rfl, ?_⟩
          show talked (s.entries ++ [_]) _ _ = true
          rw [talked_snoc]
          have : queuedBetween envelope.senderId envelope.recipientId
              (.queueMessage envelope, .ok none) = true := between_self _ _
          rw [this, Bool.or_true]
    | fetchMessages w clock =>
      have hfetch := h.fetch w clock faults
      rw [← return_state (fetchMessages J w clock) (fun _ => (none : Option ℤ)) faults s.db 0]
        at hfetch
      exact hfetch _
    | removeGroupMember groupId userId =>
      refine h.fewer ?_ _
      rcases removeGroupMember_state J groupId userId faults s.db with ⟨_, hstate⟩ | ⟨_, hstate⟩
      · rw [hstate]
        exact List.Subset.refl _
      · rw [hstate]
        exact List.Subset.refl _
    | _ => exact absurd trivial hop

theorem mailTalked_run (J : RelaySerde) (ops : List (Operation × Faults DbError)) :
    (Journal.run J ops).MailTalked J := by
  induction ops using List.reverseRecOn with
  | nil => exact List.forall_mem_nil _
  | append_singleton ops a ih =>
    rw [Journal.run_snoc]
    exact ih.step a

/-! ## Steps that take the last tie between two users -/

/-- **The step leaves those who have talked a tie**: whoever has mail to or from the user that
    fetches shares a group with it or still has mail to or from it afterwards; and whoever shares a
    group with a member that leaves it shares another one, or has mail to or from it. -/
def Journal.Keeps (J : RelaySerde) (s : Journal) : Operation × Faults DbError → Prop
  | (.fetchMessages w _, faults) => ∀ x ≠ w, s.db.mailBetween w x = true →
    s.db.shareGroup w x = true ∨ MailStays J faults s.db w w x
  | (.removeGroupMember groupId userId, faults) => ∀ x ≠ userId,
    talked s.entries userId x = true → s.db.IsMember groupId x →
      (faults 0).isSome ∨ s.db.mailBetween userId x = true ∨
        ∃ other ≠ groupId, s.db.IsMember other userId ∧ s.db.IsMember other x
  | _ => True

/-- Those who have talked have a tie. -/
def Journal.Tied (s : Journal) : Prop := ∀ u v, u ≠ v → talked s.entries u v = true →
  s.db.shareGroup u v = true ∨ s.db.mailBetween u v = true

/-- More members and the same queue. -/
theorem Journal.Tied.quiet (h : s.Tied) {db' : Database} (hquiet : Quiet s.db db') {a : Done}
    (ha : ∀ u v, queuedBetween u v a = false) : Journal.Tied ⟨db', s.entries ++ [a]⟩ := by
  intro u v hne htalked
  have htalked : talked (s.entries ++ [a]) u v = true := htalked
  rw [talked_snoc, ha, Bool.or_false] at htalked
  rcases h u v hne htalked with hgroup | hmail
  · left
    obtain ⟨groupId, ⟨m, hm, hu⟩, m', hm', hv⟩ := Database.shareGroup_iff.mp hgroup
    exact Database.shareGroup_iff.mpr
      ⟨groupId, ⟨m, hquiet.members hm, hu⟩, m', hquiet.members hm', hv⟩
  · right
    show db'.messages.rows.any _ = true
    rw [hquiet.messages]
    exact hmail

/-- Mail between two others is not touched by a fetch. -/
theorem mailStays_of_ne {w u v : String} {faults : Faults DbError} (hu : u ≠ w) (hv : v ≠ w)
    (h : db.mailBetween u v = true) : MailStays J faults db w u v := by
  obtain ⟨r, hr, hbetween⟩ := List.any_eq_true.mp h
  refine Or.inr (Or.inl ⟨r, hr, ?_, hbetween⟩)
  rcases between_iff.mp hbetween with ⟨_, hto⟩ | ⟨_, hto⟩
  · rw [hto]
    exact hu
  · rw [hto]
    exact hv

/-- A fetch that keeps the ties leaves two users with mail between them tied. -/
theorem stays_of_keeps {w : String} {clock : ℕ → UInt64} {faults : Faults DbError}
    (hkeeps : s.Keeps J (.fetchMessages w clock, faults)) {u v : String} (hne : u ≠ v)
    (hmail : s.db.mailBetween u v = true) :
    s.db.shareGroup u v = true ∨ MailStays J faults s.db w u v := by
  by_cases hu : u = w
  · rw [hu] at hmail hne ⊢
    exact hkeeps v hne.symm hmail
  · by_cases hv : v = w
    · rw [hv] at hmail ⊢
      rw [Database.mailBetween_comm] at hmail
      exact (hkeeps u hu hmail).imp Database.shareGroup_comm mailStays_comm
    · exact Or.inr (mailStays_of_ne hu hv hmail)

theorem Journal.Tied.fetch (h : s.Tied) {w : String} {clock : ℕ → UInt64}
    {faults : Faults DbError} (hkeeps : s.Keeps J (.fetchMessages w clock, faults))
    (r : Except DbError (Option ℤ)) : Journal.Tied
      ⟨(fetchMessages J w clock faults s.db 0).2.1,
        s.entries ++ [(.fetchMessages w clock, r)]⟩ := by
  intro u v hne htalked
  have htalked : talked (s.entries ++ [_]) u v = true := htalked
  rw [talked_snoc] at htalked
  have htalked : talked s.entries u v = true := (Bool.or_false _).symm.trans htalked
  obtain ⟨messages, hframe⟩ := fetchMessages_frame J w clock faults s.db
  rcases h u v hne htalked with hgroup | hmail
  · left
    rw [hframe]
    exact hgroup
  · rcases stays_of_keeps hkeeps hne hmail with hgroup | hstays
    · left
      rw [hframe]
      exact hgroup
    · exact Or.inr ((mailStays_iff J w clock faults s.db u v).mpr hstays)

/-- A member that leaves, when it has another tie to each it has talked to. -/
theorem Journal.Tied.leave (h : s.Tied) {groupId userId : String}
    (hkeeps : ∀ x ≠ userId, talked s.entries userId x = true → s.db.IsMember groupId x →
      s.db.mailBetween userId x = true ∨
        ∃ other ≠ groupId, s.db.IsMember other userId ∧ s.db.IsMember other x)
    {a : Done} (ha : ∀ u v, queuedBetween u v a = false) : Journal.Tied
      ⟨{ s.db with
          groupMembers := s.db.groupMembers.filter
            fun m => !(m.groupId == groupId && m.userId == userId) }, s.entries ++ [a]⟩ := by
  set after : Database := { s.db with
    groupMembers := s.db.groupMembers.filter
      fun m => !(m.groupId == groupId && m.userId == userId) } with hafter
  have hstays : ∀ {g x : String}, s.db.IsMember g x → g ≠ groupId ∨ x ≠ userId →
      after.IsMember g x := by
    rintro g x ⟨m, hm, rfl, rfl⟩ hother
    refine ⟨m, List.mem_filter.mpr ⟨hm, ?_⟩, rfl, rfl⟩
    simpa [imp_iff_not_or] using hother
  -- the one that leaves, with one that it shared the group with
  have hwith : ∀ x ≠ userId, talked s.entries userId x = true → s.db.IsMember groupId x →
      after.shareGroup userId x = true ∨ after.mailBetween userId x = true := by
    intro x hx htalked hmember
    rcases hkeeps x hx htalked hmember with hmail | ⟨other, hother, hself, hx'⟩
    · exact Or.inr hmail
    · exact Or.inl (Database.shareGroup_iff.mpr
        ⟨other, hstays hself (Or.inl hother), hstays hx' (Or.inl hother)⟩)
  intro u v hne htalked
  have htalked : talked (s.entries ++ [a]) u v = true := htalked
  rw [talked_snoc, ha, Bool.or_false] at htalked
  rcases h u v hne htalked with hgroup | hmail
  · obtain ⟨g, hu, hv⟩ := Database.shareGroup_iff.mp hgroup
    by_cases hg : g = groupId
    · by_cases hu' : u = userId
      · rw [hg] at hv
        rw [hu'] at hne htalked ⊢
        exact hwith v hne.symm htalked hv
      · by_cases hv' : v = userId
        · rw [hg] at hu
          rw [hv', talked_comm] at htalked
          rw [hv']
          rcases hwith u hu' htalked hu with hgroup | hmail
          · exact Or.inl (Database.shareGroup_comm hgroup)
          · exact Or.inr ((Database.mailBetween_comm _ _ _).trans hmail)
        · exact Or.inl (Database.shareGroup_iff.mpr
            ⟨g, hstays hu (Or.inr hu'), hstays hv (Or.inr hv')⟩)
    · exact Or.inl (Database.shareGroup_iff.mpr ⟨g, hstays hu (Or.inl hg), hstays hv (Or.inl hg)⟩)
  · exact Or.inr hmail

/-- **A step that keeps the ties** leaves those who have talked tied. -/
theorem Journal.Tied.step (h : s.Tied) {a : Operation × Faults DbError} (hkeeps : s.Keeps J a) :
    (s.step J a).Tied := by
  obtain ⟨op, faults⟩ := a
  rw [Journal.step_eq]
  by_cases hop : op.IsQuiet
  · refine h.quiet (op.quiet_state J hop faults s.db) fun u v => ?_
    cases op with
    | queueMessage => exact hop.elim
    | _ => rfl
  · cases op with
    | queueMessage envelope =>
      rcases exec_queueMessage J envelope faults s.db with ⟨e, n, hrun⟩ | ⟨n, hrun⟩
      · rw [hrun]
        exact h.quiet (.of_eq rfl rfl) fun _ _ => rfl
      · rw [hrun]
        intro u v hne htalked
        have htalked : talked (s.entries ++ [_]) u v = true := htalked
        rw [talked_snoc, Bool.or_eq_true] at htalked
        show s.db.shareGroup u v = true ∨ ((s.db.messages.rows ++ [_]).any _) = true
        rw [List.any_append, Bool.or_eq_true]
        rcases htalked with htalked | hnew
        · exact (h u v hne htalked).imp_right Or.inl
        · refine Or.inr (Or.inr (List.any_eq_true.mpr ⟨_, List.mem_singleton.mpr rfl, ?_⟩))
          exact hnew
    | fetchMessages w clock =>
      have hfetch := h.fetch hkeeps
      rw [← return_state (fetchMessages J w clock) (fun _ => (none : Option ℤ)) faults s.db 0]
        at hfetch
      exact hfetch _
    | removeGroupMember groupId userId =>
      rcases removeGroupMember_state J groupId userId faults s.db with
        ⟨_, hstate⟩ | ⟨hnone, hstate⟩
      · rw [hstate]
        exact h.quiet (.of_eq rfl rfl) fun _ _ => rfl
      · rw [hstate]
        refine h.leave (fun x hx htalked hmember => ?_) fun _ _ => rfl
        refine (hkeeps x hx htalked hmember).resolve_left fun hsome => ?_
        rw [Option.isNone_iff_eq_none.mp hnone] at hsome
        cases hsome
    | _ => exact absurd trivial hop

/-- Every step of the run keeps the ties. -/
def KeepsTies (J : RelaySerde) (ops : List (Operation × Faults DbError)) : Prop :=
  ∀ before a after, ops = before ++ a :: after → (Journal.run J before).Keeps J a

theorem tied_run (J : RelaySerde) (ops : List (Operation × Faults DbError))
    (h : KeepsTies J ops) : (Journal.run J ops).Tied := by
  induction ops using List.reverseRecOn with
  | nil =>
    intro u v _ htalked
    have : talked [] u v = true := htalked
    cases this
  | append_singleton ops a ih =>
    rw [Journal.run_snoc]
    refine (ih fun before b after hops => ?_).step (h ops a [] rfl)
    exact h before b (after ++ [a]) (by rw [hops, List.append_assoc, List.cons_append])

/-! ## The timeline -/

/-- Contacts are among those who share a group or have talked. -/
theorem promised_of_contact (h : s.MailTalked J) {u v : String} (hv : s.db.isContact u v = true) :
    (s.db.shareGroup u v || talked s.entries u v) = true := by
  rw [Database.isContact_eq, Bool.or_eq_true] at hv
  rw [Bool.or_eq_true]
  refine hv.imp_right fun hmail => ?_
  obtain ⟨r, hr, hbetween⟩ := List.any_eq_true.mp hmail
  obtain ⟨e, hrow, htalked⟩ := h r hr
  rw [hrow] at hbetween
  rcases between_iff.mp hbetween with ⟨hfrom, hto⟩ | ⟨hfrom, hto⟩
  · rw [talked_comm, ← show e.senderId = v from hfrom, ← show e.recipientId = u from hto]
    exact htalked
  · rw [← show e.senderId = u from hfrom, ← show e.recipientId = v from hto]
    exact htalked

theorem seenBy_iff {u : String} {contact : String → Bool} {p : ℤ × TimelinePostRow} :
    seenBy u contact p = true ↔
      p.2.userId = u ∨ p.2.targetUserId = some u ∨ contact p.2.userId = true := by
  unfold seenBy
  rw [Bool.or_eq_true, Bool.or_eq_true, beq_iff_eq, beq_iff_eq, or_assoc,
    or_comm (a := contact _ = _)]

/-- **The contacts of a timeline come and go.** Of the hundred newest posts that a user is to see,
    those of users it shares a group with or has ever talked to, `get_timeline` returns exactly those
    that are its own, are for it, or are by someone with whom it shares a group or has mail in the
    queue. A fetch leaves on a timeline exactly those that are the user's own, are for it, or are by
    someone with whom it shares a group or has mail in the queue afterwards. In a run whose steps all
    keep the ties, every post that is to be seen is returned, and a fetch that keeps them takes no
    post from a timeline. -/
theorem timeline_contacts (J : RelaySerde) (ops : List (Operation × Faults DbError)) :
    let s := Journal.run J ops
    (∀ u, ∀ p ∈ s.promised u, p ∈ returned s.db u ↔
      p.2.userId = u ∨ p.2.targetUserId = some u ∨ s.db.shareGroup u p.2.userId = true ∨
        s.db.mailBetween u p.2.userId = true) ∧
    (∀ w clock faults u, ∀ p ∈ returned s.db u,
      p ∈ returned (fetchMessages J w clock faults s.db 0).2.1 u ↔
        p.2.userId = u ∨ p.2.targetUserId = some u ∨ s.db.shareGroup u p.2.userId = true ∨
          MailStays J faults s.db w u p.2.userId) ∧
    (KeepsTies J ops → (∀ u v, talked s.entries u v = true → ∀ p ∈ s.promised u, p.2.userId = v →
      p ∈ returned s.db u) ∧
      ∀ w clock faults, s.Keeps J (.fetchMessages w clock, faults) → ∀ u,
        returned s.db u ⊆ returned (fetchMessages J w clock faults s.db 0).2.1 u) := by
  intro s
  have hmail : s.MailTalked J := mailTalked_run J ops
  have hreturned : ∀ u, ∀ p ∈ s.promised u, p ∈ returned s.db u ↔
      p.2.userId = u ∨ p.2.targetUserId = some u ∨ s.db.shareGroup u p.2.userId = true ∨
        s.db.mailBetween u p.2.userId = true := by
    intro u p hp
    rw [returned_eq, mem_newest_of_fewer (fun v hv => promised_of_contact hmail hv) hp, seenBy_iff,
      Database.isContact_eq, Bool.or_eq_true]
  have hfetch : ∀ w clock faults u, ∀ p ∈ returned s.db u,
      p ∈ returned (fetchMessages J w clock faults s.db 0).2.1 u ↔
        p.2.userId = u ∨ p.2.targetUserId = some u ∨ s.db.shareGroup u p.2.userId = true ∨
          MailStays J faults s.db w u p.2.userId := by
    intro w clock faults u p hp
    rw [returned_eq] at hp
    obtain ⟨messages, hframe⟩ := fetchMessages_frame J w clock faults s.db
    have hgroups : ∀ v, (fetchMessages J w clock faults s.db 0).2.1.shareGroup u v =
        s.db.shareGroup u v := by
      intro v
      rw [hframe]
      rfl
    have hposts : ∀ contact, newest (fetchMessages J w clock faults s.db 0).2.1 u contact =
        newest s.db u contact := by
      intro contact
      rw [hframe]
      rfl
    have hfewer : ∀ v, (fetchMessages J w clock faults s.db 0).2.1.isContact u v = true →
        s.db.isContact u v = true := by
      intro v hv
      rw [Database.isContact_eq, Bool.or_eq_true, hgroups, mailStays_iff] at hv
      rw [Database.isContact_eq, Bool.or_eq_true]
      exact hv.imp_right (mailBetween_of_stays hmail)
    rw [returned_eq, hposts, mem_newest_of_fewer hfewer hp, seenBy_iff, Database.isContact_eq,
      Bool.or_eq_true, hgroups, mailStays_iff]
  refine ⟨hreturned, hfetch, fun hkeeps => ⟨fun u v htalked p hp hv => ?_,
    fun w clock faults hstep u p hp => ?_⟩⟩
  · rw [hreturned u p hp]
    by_cases hne : u = v
    · exact Or.inl (hv.trans hne.symm)
    · rw [hv]
      exact Or.inr (Or.inr (tied_run J ops hkeeps u v hne htalked))
  · rw [hfetch w clock faults u p hp]
    rw [returned_eq] at hp
    rcases seenBy_iff.mp (seen_of_mem_newest hp) with hself | htarget | hcontact
    · exact Or.inl hself
    · exact Or.inr (Or.inl htarget)
    · rw [Database.isContact_eq, Bool.or_eq_true] at hcontact
      by_cases hself : p.2.userId = u
      · exact Or.inl hself
      · refine Or.inr (Or.inr (hcontact.elim Or.inl fun hbetween => ?_))
        exact stays_of_keeps hstep (Ne.symm hself) hbetween

/-! ## Two fetches after a message -/

section

variable (J)

/-- Alice writes to Bob, who posts a moment. -/
def greeted : List (Operation × Faults DbError) :=
  [(.queueMessage (Envelope.new 5 "alice" "bob" [1] .normal), Auto.faultless),
    (.createPost 10 "bob" "hello" none, Auto.faultless)]

/-- Bob fetches the message. -/
def answeredTo : List (Operation × Faults DbError) :=
  greeted ++ [(.fetchMessages "bob" fun _ => 6, Auto.faultless)]

/-- Alice fetches the receipt. -/
def acknowledged : List (Operation × Faults DbError) :=
  answeredTo ++ [(.fetchMessages "alice" fun _ => 7, Auto.faultless)]

/-- Without faults a fetch queues a receipt for each chat message. -/
theorem step_fetch (s : Journal) (w : String) (clock : ℕ → UInt64) :
    (s.step J (.fetchMessages w clock, Auto.faultless)).db =
      (deliveryReceipts J w clock (pending J s.db w)).foldl (withMessage J)
        (withoutMessages s.db w) := by
  obtain ⟨n, hrun⟩ := fetchMessages_faultless (J := J) w clock s.db
  rw [Journal.step_eq]
  show ((fetchMessages J w clock >>= fun _ => pure none : StoreM (Option ℤ)) Auto.faultless s.db
    0).2.1 = _
  rw [return_state, hrun]

theorem db_answeredTo : (Journal.run J answeredTo).db =
    withMessage J (withoutMessages (Journal.run J greeted).db "bob")
      (deliveryReceipt J "bob" 6 (Envelope.new 5 "alice" "bob" [1] .normal)) := by
  have hpending : pending J (Journal.run J greeted).db "bob" =
      [Envelope.new 5 "alice" "bob" [1] .normal] := by
    show List.filterMap _ [((1 : ℤ), messageRow J (Envelope.new 5 "alice" "bob" [1] .normal))] = _
    simp [messageRow]
  unfold answeredTo
  rw [Journal.run_snoc, step_fetch, hpending]
  rfl

theorem db_acknowledged : (Journal.run J acknowledged).db =
    withoutMessages (Journal.run J answeredTo).db "alice" := by
  have hpending : pending J (Journal.run J answeredTo).db "alice" =
      [deliveryReceipt J "bob" 6 (Envelope.new 5 "alice" "bob" [1] .normal)] := by
    rw [db_answeredTo]
    show List.filterMap _ [((2 : ℤ), messageRow J
      (deliveryReceipt J "bob" 6 (Envelope.new 5 "alice" "bob" [1] .normal)))] = _
    simp [messageRow]
  unfold acknowledged
  rw [Journal.run_snoc, step_fetch, hpending]
  rfl

theorem posts_greeted : (Journal.run J greeted).db.timelinePosts.rows =
    [(1, ⟨"bob", none, "hello", 10⟩)] := rfl

theorem talked_acknowledged :
    talked (Journal.run J acknowledged).entries "alice" "bob" = true := by
  show talked (Journal.run J (greeted ++ [_] ++ [_])).entries "alice" "bob" = true
  rw [Journal.run_snoc, Journal.step_eq, talked_snoc, Journal.run_snoc, Journal.step_eq,
    talked_snoc, Bool.or_assoc]
  have : talked (Journal.run J greeted).entries "alice" "bob" = true := rfl
  rw [this, Bool.true_or]

theorem posts_answeredTo : (Journal.run J answeredTo).db.timelinePosts.rows =
    [(1, ⟨"bob", none, "hello", 10⟩)] := by
  rw [db_answeredTo]
  exact posts_greeted J

theorem posts_acknowledged : (Journal.run J acknowledged).db.timelinePosts.rows =
    [(1, ⟨"bob", none, "hello", 10⟩)] := by
  rw [db_acknowledged]
  exact posts_answeredTo J

/-- The receipt on its way makes Bob a contact. -/
theorem contact_answeredTo : (Journal.run J answeredTo).db.isContact "alice" "bob" = true := by
  rw [Database.isContact_eq, db_answeredTo, Bool.or_eq_true]
  exact Or.inr (List.any_eq_true.mpr ⟨_, List.mem_append_right _ (List.mem_singleton.mpr rfl),
    between_iff.mpr (Or.inl ⟨rfl, rfl⟩)⟩)

theorem contact_acknowledged :
    (Journal.run J acknowledged).db.isContact "alice" "bob" = false := by
  rw [Database.isContact_eq, db_acknowledged, db_answeredTo, Bool.or_eq_false_iff]
  exact ⟨rfl, rfl⟩

end

/-- One post that is seen is returned. -/
theorem mem_newest_single {u : String} {contact : String → Bool} {p : ℤ × TimelinePostRow}
    (hposts : db.timelinePosts.rows = [p]) (hseen : seenBy u contact p = true) :
    p ∈ newest db u contact := by
  unfold newest
  rw [hposts, List.filter_cons_of_pos hseen, List.filter_nil]
  exact List.mem_singleton.mpr rfl

/-- Alice and Bob have talked, and his only post is gone from her timeline once she has fetched the
    receipt of her message. -/
theorem fetched_out_of_sight :
    let s := Journal.run Symbolic.symbolicSerde.toRelaySerde acknowledged
    talked s.entries "alice" "bob" = true ∧
      (1, ⟨"bob", none, "hello", 10⟩) ∈ s.promised "alice" ∧
      (1, ⟨"bob", none, "hello", 10⟩) ∈
        returned (Journal.run Symbolic.symbolicSerde.toRelaySerde answeredTo).db "alice" ∧
      (1, ⟨"bob", none, "hello", 10⟩) ∉ returned s.db "alice" := by
  generalize Symbolic.symbolicSerde.toRelaySerde = J
  dsimp only
  refine ⟨talked_acknowledged J, ?_, ?_, ?_⟩
  · refine mem_newest_single (posts_acknowledged J) (seenBy_iff.mpr (Or.inr (Or.inr ?_)))
    exact Bool.or_eq_true_iff.mpr (Or.inr (talked_acknowledged J))
  · rw [returned_eq]
    exact mem_newest_single (posts_answeredTo J)
      (seenBy_iff.mpr (Or.inr (Or.inr (contact_answeredTo J))))
  · rw [returned_eq]
    intro h
    rcases seenBy_iff.mp (seen_of_mem_newest h) with hself | htarget | hcontact
    · exact absurd hself (by decide)
    · cases htarget
    · exact Bool.false_ne_true ((contact_acknowledged J).symm.trans hcontact)

end TinTin.Server
