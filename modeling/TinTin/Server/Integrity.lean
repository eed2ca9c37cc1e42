/-
  References between the tables, after any run of the store's operations.

  The schema declares them for comments, group members, channel subscribers, poll options and the
  poll of a vote. The option of a vote has no `REFERENCES` clause: `vote_poll` counts it.

  * `Change.integrity`: no change leaves a reference without its row.
  * `Traced`: the posts are those that `create_post` has made, each under an id of its own, and a
    comment was added after its post.
  * `referential_integrity`: both hold after every run, whichever statements have failed.
-/
import TinTin.Server.Operations

namespace TinTin.Server

open TinTin.Lib TinTin.Core

variable {db db' : Database}

/-! ## References -/

/-- Every row is there that another one refers to. -/
structure Database.Integrity (db : Database) : Prop where
  comments : ∀ c ∈ db.timelineComments.rows, ∃ p ∈ db.timelinePosts.rows, p.1 = c.2.postId
  members : ∀ m ∈ db.groupMembers, ∃ g ∈ db.groups, g.groupId = m.groupId
  subscribers : ∀ r ∈ db.channelSubscribers, ∃ c ∈ db.channels.rows, c.1 = r.channelId
  options : ∀ o ∈ db.pollOptions.rows, ∃ p ∈ db.polls.rows, p.1 = o.2.pollId
  votes : ∀ v ∈ db.pollVotes, ∃ o ∈ db.pollOptions.rows,
    o.1 = v.optionId ∧ o.2.pollId = v.pollId

theorem integrity_empty : Database.empty.Integrity where
  comments := List.forall_mem_nil _
  members := List.forall_mem_nil _
  subscribers := List.forall_mem_nil _
  options := List.forall_mem_nil _
  votes := List.forall_mem_nil _

/-- References into a table that grows. -/
theorem refers_append {α β : Type} {l : List α} {k : List β} {r : α → β → Prop}
    (h : ∀ a ∈ l, ∃ b ∈ k, r a b) (more : List β) : ∀ a ∈ l, ∃ b ∈ k ++ more, r a b := by
  intro a ha
  obtain ⟨b, hb, hr⟩ := h a ha
  exact ⟨b, List.mem_append_left _ hb, hr⟩

/-- References from a table with one more row. -/
theorem append_refers {α β : Type} {l : List α} {k : List β} {r : α → β → Prop}
    (h : ∀ a ∈ l, ∃ b ∈ k, r a b) {a : α} (ha : ∃ b ∈ k, r a b) :
    ∀ x ∈ l ++ [a], ∃ b ∈ k, r x b :=
  List.forall_mem_append.mpr ⟨h, List.forall_mem_singleton.mpr ha⟩

/-- A row whose key is kept by an update. -/
theorem exists_updateWhere {ρ : Type} {t : AutoTable ρ} {i : ℤ} (p : ℤ × ρ → Bool) (f : ρ → ρ)
    (h : ∃ r ∈ t.rows, r.1 = i) : ∃ r ∈ (t.updateWhere p f).rows, r.1 = i := by
  obtain ⟨r, hr, rfl⟩ := h
  refine ⟨if p r then (r.1, f r.2) else r, List.mem_map.mpr ⟨r, hr, rfl⟩, ?_⟩
  split <;> rfl

/-- **No change leaves a reference without its row**, a case for each change. -/
theorem Change.integrity (hchange : Change db db') (h : db.Integrity) : db'.Integrity := by
  cases hchange with
  | users users => exact ⟨h.comments, h.members, h.subscribers, h.options, h.votes⟩
  | messages messages => exact ⟨h.comments, h.members, h.subscribers, h.options, h.votes⟩
  | statuses statuses => exact ⟨h.comments, h.members, h.subscribers, h.options, h.votes⟩
  | addGroup row => exact { h with members := refers_append h.members [row] }
  | addMember row hgroup => exact { h with members := append_refers h.members hgroup }
  | dropMembers p =>
    exact { h with members := fun m hm => h.members m (List.mem_filter.mp hm).1 }
  | addChannel row => exact { h with subscribers := refers_append h.subscribers _ }
  | addSubscriber row hchannel => exact { h with subscribers := append_refers h.subscribers hchannel }
  | dropSubscribers p =>
    exact { h with subscribers := fun r hr => h.subscribers r (List.mem_filter.mp hr).1 }
  | addPoll row => exact { h with options := refers_append h.options _ }
  | updatePolls p f =>
    exact { h with options := fun o ho => exists_updateWhere p f (h.options o ho) }
  | addOption row hpoll =>
    exact { h with
      options := append_refers h.options hpoll
      votes := refers_append h.votes _ }
  | vote row p hoption =>
    exact { h with votes := append_refers (fun v hv => h.votes v (List.mem_filter.mp hv).1) hoption }
  | dropComments p =>
    exact { h with comments := fun c hc => h.comments c (List.mem_filter.mp hc).1 }
  | dropPosts p hnone =>
    refine { h with comments := fun c hc => ?_ }
    obtain ⟨r, hr, hpost⟩ := h.comments c hc
    refine ⟨r, List.mem_filter.mpr ⟨hr, ?_⟩, hpost⟩
    rw [Bool.not_eq_true', Bool.eq_false_iff]
    exact fun hp => hnone r hr hp c hc hpost.symm

/-! ## Where posts and comments come from -/

/-- The id of the post that an entry has created. -/
def newPost : Done → Option ℤ
  | (.createPost _ _ _ _, .ok (some postId)) => some postId
  | _ => none

/-- The ids of the posts that were created, in order. -/
def newPosts (entries : List Done) : List ℤ := entries.filterMap newPost

/-- The entry that an `add_comment` has left, of which the comment comes. -/
def commented (c : ℤ × TimelineCommentRow) : Done :=
  (.addComment c.2.createdAt c.2.postId c.2.userId c.2.content, .ok (some c.1))

/-- The comment was added for its post, after that was created. -/
def AddedFor (entries : List Done) (c : ℤ × TimelineCommentRow) : Prop :=
  ∃ before created since after, newPost created = some c.2.postId ∧
    entries = before ++ created :: since ++ commented c :: after

/-- **The timeline is what the entries make of it.** -/
structure Traced (s : Journal) : Prop where
  posts : ∀ p ∈ s.db.timelinePosts.rows, p.1 ∈ newPosts s.entries
  bounded : ∀ i ∈ newPosts s.entries, i ≤ s.db.timelinePosts.lastId
  once : (newPosts s.entries).Nodup
  comments : ∀ c ∈ s.db.timelineComments.rows, AddedFor s.entries c

/-- Nothing is added to the timeline. -/
structure Shrinks (db db' : Database) : Prop where
  posts : db'.timelinePosts.rows ⊆ db.timelinePosts.rows
  lastId : db'.timelinePosts.lastId = db.timelinePosts.lastId
  comments : db'.timelineComments.rows ⊆ db.timelineComments.rows

theorem Shrinks.refl (db : Database) : Shrinks db db :=
  ⟨List.Subset.refl _, rfl, List.Subset.refl _⟩

theorem Shrinks.change {db'' : Database} (h : Shrinks db db') (hchange : Change db' db'') :
    Shrinks db db'' := by
  cases hchange with
  | dropComments p =>
    exact { h with comments := List.Subset.trans List.filter_sublist.subset h.comments }
  | dropPosts p hnone =>
    exact { h with posts := List.Subset.trans List.filter_sublist.subset h.posts }
  | users | messages | statuses | addGroup | addMember | dropMembers | addChannel | addSubscriber
  | dropSubscribers | addPoll | updatePolls | addOption | vote =>
    exact ⟨h.posts, h.lastId, h.comments⟩

theorem newPosts_snoc (entries : List Done) (a : Done) :
    newPosts (entries ++ [a]) = newPosts entries ++ (newPost a).toList := by
  unfold newPosts
  rw [List.filterMap_append]
  cases h : newPost a <;> simp [h]

theorem AddedFor.snoc {entries : List Done} {c : ℤ × TimelineCommentRow} (h : AddedFor entries c)
    (a : Done) : AddedFor (entries ++ [a]) c := by
  obtain ⟨before, created, since, after, hcreated, rfl⟩ := h
  exact ⟨before, created, since, after ++ [a], hcreated, by simp⟩

/-- An entry that has created no post, over a timeline that has not grown. -/
theorem Traced.shrink {s : Journal} (h : Traced s) (hshrinks : Shrinks s.db db') {a : Done}
    (ha : newPost a = none) : Traced ⟨db', s.entries ++ [a]⟩ := by
  have hposts : newPosts (s.entries ++ [a]) = newPosts s.entries := by
    rw [newPosts_snoc, ha, Option.toList_none, List.append_nil]
  refine ⟨fun p hp => ?_, fun i hi => ?_, ?_, fun c hc => ?_⟩
  · rw [hposts]
    exact h.posts p (hshrinks.posts hp)
  · rw [hposts] at hi
    rw [hshrinks.lastId]
    exact h.bounded i hi
  · rw [hposts]
    exact h.once
  · exact (h.comments c (hshrinks.comments hc)).snoc a

/-- An operation that adds nothing to the timeline has created no post. -/
theorem newPost_ordinary {op : Operation} (hop : op.IsOrdinary) (r : Except DbError (Option ℤ)) :
    newPost (op, r) = none := by
  cases op with
  | createPost => exact hop.elim
  | _ => rfl

/-! ## Along a run -/

/-- What holds after every run. -/
structure Journal.Sound (s : Journal) : Prop where
  integrity : s.db.Integrity
  traced : Traced s

theorem sound_start : Journal.start.Sound where
  integrity := integrity_empty
  traced := ⟨List.forall_mem_nil _, List.forall_mem_nil _, .nil, List.forall_mem_nil _⟩

variable {s : Journal}

/-- A failed attempt to add to the timeline. -/
theorem Journal.Sound.failed (h : s.Sound) (op : Operation) (e : DbError) :
    Journal.Sound ⟨s.db, s.entries ++ [(op, .error e)]⟩ where
  integrity := h.integrity
  traced := h.traced.shrink (.refl s.db) (by cases op <;> rfl)

theorem Journal.Sound.createPost (h : s.Sound) (now : ℤ) (userId content : String)
    (targetUserId : Option String) : Journal.Sound
      ⟨{ s.db with
          timelinePosts := s.db.timelinePosts.insert ⟨userId, targetUserId, content, now⟩ },
        s.entries ++ [(.createPost now userId content targetUserId,
          .ok (some (s.db.timelinePosts.lastId + 1)))]⟩ := by
  have hposts : newPosts (s.entries ++ [(.createPost now userId content targetUserId,
      .ok (some (s.db.timelinePosts.lastId + 1)))]) =
        newPosts s.entries ++ [s.db.timelinePosts.lastId + 1] := newPosts_snoc _ _
  refine ⟨{ h.integrity with comments := refers_append h.integrity.comments _ },
    ⟨fun p hp => ?_, fun i hi => ?_, ?_, fun c hc => (h.traced.comments c hc).snoc _⟩⟩
  · rw [hposts]
    rcases List.mem_append.mp hp with hp | hp
    · exact List.mem_append_left _ (h.traced.posts p hp)
    · rw [List.mem_singleton.mp hp]
      exact List.mem_append_right _ (List.mem_singleton.mpr rfl)
  · rw [hposts] at hi
    show i ≤ s.db.timelinePosts.lastId + 1
    rcases List.mem_append.mp hi with hi | hi
    · have hle := h.traced.bounded i hi
      omega
    · rw [List.mem_singleton.mp hi]
  · rw [hposts]
    refine List.nodup_append.mpr ⟨h.traced.once, List.nodup_singleton _, fun i hi j hj heq => ?_⟩
    have hle := h.traced.bounded i hi
    rw [List.mem_singleton.mp hj] at heq
    omega

theorem Journal.Sound.addComment (h : s.Sound) (now postId : ℤ) (userId content : String)
    (hpost : ∃ p ∈ s.db.timelinePosts.rows, p.1 = postId) : Journal.Sound
      ⟨{ s.db with
          timelineComments := s.db.timelineComments.insert ⟨postId, userId, content, now⟩ },
        s.entries ++ [(.addComment now postId userId content,
          .ok (some (s.db.timelineComments.lastId + 1)))]⟩ := by
  have hposts : newPosts (s.entries ++ [(.addComment now postId userId content,
      .ok (some (s.db.timelineComments.lastId + 1)))]) = newPosts s.entries :=
    (newPosts_snoc _ _).trans (List.append_nil _)
  refine ⟨{ h.integrity with comments := append_refers h.integrity.comments hpost },
    ⟨fun p hp => ?_, fun i hi => ?_, ?_, fun c hc => ?_⟩⟩
  · rw [hposts]
    exact h.traced.posts p hp
  · rw [hposts] at hi
    exact h.traced.bounded i hi
  · rw [hposts]
    exact h.traced.once
  · rcases List.mem_append.mp hc with hc | hc
    · exact (h.traced.comments c hc).snoc _
    · -- the new comment: its post is there, so it was created before
      obtain rfl := List.mem_singleton.mp hc
      obtain ⟨p, hp, rfl⟩ := hpost
      obtain ⟨created, hmem, hcreated⟩ := List.mem_filterMap.mp (h.traced.posts p hp)
      obtain ⟨before, since, hentries⟩ := List.append_of_mem hmem
      exact ⟨before, created, since, [], hcreated, by rw [hentries]; simp [commented]⟩

/-- **One operation keeps it.** -/
theorem Journal.Sound.step (J : RelaySerde) (h : s.Sound) (a : Operation × Faults DbError) :
    (s.step J a).Sound := by
  obtain ⟨op, faults⟩ := a
  by_cases hop : op.IsOrdinary
  · have hmoves := op.moves J hop s.db
    exact ⟨hmoves.keeps (fun _ _ hchange hi => hchange.integrity hi) h.integrity faults 0,
      h.traced.shrink (hmoves.keeps (fun _ _ hchange hs => hs.change hchange) (.refl s.db) faults 0)
        (newPost_ordinary hop _)⟩
  · unfold Journal.step
    dsimp only
    cases op with
    | createPost now userId content targetUserId =>
      rcases Operation.exec_createPost J now userId content targetUserId faults s.db with
        ⟨e, n, hrun⟩ | ⟨n, hrun⟩
      · rw [hrun]
        exact h.failed _ e
      · rw [hrun]
        exact h.createPost now userId content targetUserId
    | addComment now postId userId content =>
      rcases Operation.exec_addComment J now postId userId content faults s.db with
        ⟨e, n, hrun⟩ | ⟨hpost, n, hrun⟩
      · rw [hrun]
        exact h.failed _ e
      · rw [hrun]
        exact h.addComment now postId userId content hpost
    | _ => exact absurd trivial hop

theorem Journal.sound_run (J : RelaySerde) (ops : List (Operation × Faults DbError)) :
    (Journal.run J ops).Sound := by
  induction ops using List.reverseRecOn with
  | nil => exact sound_start
  | append_singleton ops a ih =>
    rw [Journal.run_snoc]
    exact ih.step J a

/-- **Referential integrity of the store**, after any run of its operations and whichever of their
    statements have failed. `get_comments` returns comments that were added for the post after it
    was created, and no post was created under the id of another one. -/
theorem referential_integrity (J : RelaySerde) (ops : List (Operation × Faults DbError)) :
    let s := Journal.run J ops
    s.db.Integrity ∧ (newPosts s.entries).Nodup ∧
      ∀ postId, ∃ comments, getComments postId Auto.faultless s.db 0 = (.ok comments, s.db, 1) ∧
        ∀ c ∈ comments, c.2.postId = postId ∧ AddedFor s.entries c := by
  intro s
  obtain ⟨hintegrity, htraced⟩ := Journal.sound_run J ops
  refine ⟨hintegrity, htraced.once, fun postId => ⟨_, rfl, fun c hc => ?_⟩⟩
  obtain ⟨hmem, hpost⟩ := List.mem_filter.mp ((List.mem_insertionSort _).mp hc)
  exact ⟨by simpa using hpost, htraced.comments c hmem⟩

end TinTin.Server
