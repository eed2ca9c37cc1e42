/-
  Operations for an owner only: `Store::close_poll` and `Store::delete_post`.

  `close_poll` reads the creator before it changes anything. `delete_post` deletes the
  comments of the post first and asks for the author afterwards, in the statement that
  deletes the post.

  * `closePoll_ownerOnly`: closing a poll is for its creator only.
  * `deletePost_ownerOnly_iff`: deleting a post is for its author only exactly if the caller
    is the author or there are no comments to lose.
-/
import TinTin.Server.Store

namespace TinTin.Server

open TinTin.Lib

/-! ## What an owner may do -/

/-- The user created the poll. -/
def IsCreator (db : Database) (pollId : ℤ) (userId : String) : Prop :=
  ∃ poll, db.polls.get? pollId = some poll ∧ poll.creator = userId

/-- The user wrote the post. -/
def IsAuthor (db : Database) (postId : ℤ) (userId : String) : Prop :=
  ∃ post, db.timelinePosts.get? postId = some post ∧ post.userId = userId

/-- The database with one poll inactive and nothing else changed. -/
def withClosed (db : Database) (pollId : ℤ) : Database :=
  { db with
    polls := db.polls.updateWhere (fun r => r.1 == pollId) fun r => { r with active := 0 } }

/-- The database without a post and its comments. -/
def withoutPost (db : Database) (postId : ℤ) : Database :=
  { db with
    timelinePosts := db.timelinePosts.deleteWhere fun r => r.1 == postId
    timelineComments := db.timelineComments.deleteWhere fun r => r.2.postId == postId }

/-- An operation for the owner only: the owner gets `Ok(true)` and the change, anybody else
    `Ok(false)` and none. -/
structure OwnerOnly (isOwner : Prop) (outcome : Except DbError Bool × Database × ℕ)
    (db changed : Database) : Prop where
  owner : isOwner → outcome.1 = .ok true ∧ outcome.2.1 = changed
  others : ¬ isOwner → outcome.1 = .ok false ∧ outcome.2.1 = db

/-! ## Closing a poll -/

theorem closePoll_faultless (pollId : ℤ) (userId : String) (db : Database) :
    closePoll pollId userId Auto.faultless db 0 =
      match db.polls.get? pollId with
      | none => (.ok false, db, 1)
      | some poll =>
        if poll.creator = userId then (.ok true, withClosed db pollId, 2) else (.ok false, db, 1) := by
  have hread : Auto.attempt (selectPoll pollId) Auto.faultless db 0 =
      (.ok (some (db.polls.get? pollId)), db, 1) := Auto.run_attempt_ok rfl rfl
  unfold closePoll
  rw [Auto.run_bind_ok hread, Option.join_some]
  cases db.polls.get? pollId with
  | none => rfl
  | some poll =>
    dsimp only [Option.map_some]
    split
    · rfl
    · rfl

theorem closePoll_ownerOnly (db : Database) (pollId : ℤ) (userId : String) :
    OwnerOnly (IsCreator db pollId userId) (closePoll pollId userId Auto.faultless db 0) db
      (withClosed db pollId) := by
  rw [closePoll_faultless]
  constructor
  · rintro ⟨poll, hpoll, hcreator⟩
    rw [hpoll]
    dsimp only
    rw [if_pos hcreator]
    exact ⟨rfl, rfl⟩
  · intro hnot
    cases hpoll : db.polls.get? pollId with
    | none => exact ⟨rfl, rfl⟩
    | some poll =>
      have hcreator : ¬ poll.creator = userId := fun h => hnot ⟨poll, hpoll, h⟩
      dsimp only
      rw [if_neg hcreator]
      exact ⟨rfl, rfl⟩

/-! ## Deleting a post -/

/-- The test of the statement that deletes the post. -/
def isPostOf (postId : ℤ) (userId : String) (r : ℤ × TimelinePostRow) : Bool :=
  r.1 == postId && r.2.userId == userId

theorem isAuthor_iff {db : Database} {postId : ℤ} {userId : String} :
    IsAuthor db postId userId ↔ db.timelinePosts.select (isPostOf postId userId) ≠ [] := by
  rw [AutoTable.select, Ne, List.filter_eq_nil_iff, not_forall]
  constructor
  · rintro ⟨post, hpost, huser⟩
    exact ⟨(postId, post), fun h => h (AutoTable.get?_eq_some.mp hpost)
      (by simp [isPostOf, huser])⟩
  · rintro ⟨⟨id, post⟩, h⟩
    rw [Classical.not_imp, not_not] at h
    obtain ⟨hmem, htest⟩ := h
    have hboth : id = postId ∧ post.userId = userId := by simpa [isPostOf] using htest
    exact ⟨post, AutoTable.get?_eq_some.mpr (hboth.1 ▸ hmem), hboth.2⟩

/-- With the comments gone the second statement cannot fail. -/
theorem deletePost_faultless (postId : ℤ) (userId : String) (db : Database) :
    deletePost postId userId Auto.faultless db 0 =
      (.ok (0 < (db.timelinePosts.select (isPostOf postId userId)).length : Bool),
        { db with
          timelineComments := db.timelineComments.deleteWhere fun r => r.2.postId == postId
          timelinePosts := db.timelinePosts.deleteWhere (isPostOf postId userId) }, 2) := by
  let db' : Database :=
    { db with timelineComments := db.timelineComments.deleteWhere fun r => r.2.postId == postId }
  have hcomments : Auto.exec (deleteComments postId) Auto.faultless db 0 = (.ok (), db', 1) :=
    Auto.run_exec_ok rfl rfl
  have hfree : ((db'.timelinePosts.select (isPostOf postId userId)).any fun r =>
      db'.timelineComments.rows.any fun c => c.2.postId == r.1) = false := by
    rw [List.any_eq_false]
    intro r hr hany
    obtain ⟨c, hc, hid⟩ := List.any_eq_true.mp hany
    have hpost : r.1 = postId ∧ r.2.userId = userId := by
      simpa [isPostOf] using (List.mem_filter.mp hr).2
    have hgone : ¬ c.2.postId = postId := by simpa using (List.mem_filter.mp hc).2
    exact hgone ((by simpa using hid : c.2.postId = r.1).trans hpost.1)
  have hposts : Auto.exec (deletePosts postId userId) Auto.faultless db' 1 =
      (.ok (db.timelinePosts.select (isPostOf postId userId)).length,
        { db' with timelinePosts := db'.timelinePosts.deleteWhere (isPostOf postId userId) }, 2) := by
    refine Auto.run_exec_ok rfl ?_
    show (if _ then _ else _) = _
    exact if_neg (by rw [Bool.not_eq_true]; exact hfree)
  unfold deletePost
  rw [Auto.run_bind_ok hcomments, Auto.run_bind_ok hposts]
  rfl

/-- **Deleting a post is for its author only** exactly if it is the author who calls, or the
    post has no comments: the comments go before the author is asked for. -/
theorem deletePost_ownerOnly_iff (db : Database) (postId : ℤ) (userId : String) :
    OwnerOnly (IsAuthor db postId userId) (deletePost postId userId Auto.faultless db 0) db
        (withoutPost db postId) ↔
      IsAuthor db postId userId ∨
        (db.timelineComments.select fun r => r.2.postId == postId) = [] := by
  rw [deletePost_faultless]
  constructor
  · intro h
    by_cases howner : IsAuthor db postId userId
    · exact .inl howner
    · right
      have hsame := (h.others howner).2
      exact AutoTable.deleteWhere_eq_self_iff.mp (congrArg Database.timelineComments hsame)
  · intro hcond
    constructor
    · intro howner
      have hne := isAuthor_iff.mp howner
      have hlen : 0 < (db.timelinePosts.select (isPostOf postId userId)).length :=
        List.length_pos_iff.mpr hne
      obtain ⟨post, hpost, huser⟩ := howner
      have hmem := AutoTable.get?_eq_some.mp hpost
      -- the id alone already picks the author's post
      have hrows : db.timelinePosts.deleteWhere (isPostOf postId userId) =
          db.timelinePosts.deleteWhere fun r => r.1 == postId := by
        refine AutoTable.deleteWhere_congr fun r hr => ?_
        by_cases hid : r.1 = postId
        · have hget : db.timelinePosts.get? postId = some r.2 :=
            AutoTable.get?_eq_some.mpr (hid ▸ hr)
          have : r.2 = post := Option.some.inj (hget.symm.trans hpost)
          simp [isPostOf, hid, this, huser]
        · simp [isPostOf, hid]
      refine ⟨by simp [hlen], ?_⟩
      dsimp only [withoutPost]
      rw [hrows]
    · intro hnot
      have hnone : db.timelineComments.select (fun r => r.2.postId == postId) = [] :=
        hcond.resolve_left hnot
      have hposts : db.timelinePosts.select (isPostOf postId userId) = [] := by
        by_contra h
        exact hnot (isAuthor_iff.mpr h)
      refine ⟨by rw [hposts]; rfl, ?_⟩
      dsimp only
      rw [AutoTable.deleteWhere_eq_self hnone, AutoTable.deleteWhere_eq_self hposts]

/-- **Owner-only operations.** `close_poll` is for the creator only in every state;
    `delete_post` exactly where its caller is the author or the post has no comments. -/
theorem owner_only_iff (db : Database) (pollId postId : ℤ) (userId : String) :
    OwnerOnly (IsCreator db pollId userId) (closePoll pollId userId Auto.faultless db 0) db
        (withClosed db pollId) ∧
      (OwnerOnly (IsAuthor db postId userId) (deletePost postId userId Auto.faultless db 0) db
          (withoutPost db postId) ↔
        IsAuthor db postId userId ∨
          (db.timelineComments.select fun r => r.2.postId == postId) = []) :=
  ⟨closePoll_ownerOnly db pollId userId, deletePost_ownerOnly_iff db postId userId⟩

/-- Alice's post with a comment of Carol's. -/
def onePost : Database :=
  { Database.empty with
    timelinePosts := AutoTable.empty.insert ⟨"alice", none, "hello", 0⟩
    timelineComments := AutoTable.empty.insert ⟨1, "carol", "hi", 0⟩ }

/-- Bob may not delete Alice's post, and is told so, but its comment is gone. -/
theorem stranger_deletes_comments :
    ¬ IsAuthor onePost 1 "bob" ∧ (deletePost 1 "bob" Auto.faultless onePost 0).1 = .ok false ∧
      onePost.timelineComments.rows = [(1, ⟨1, "carol", "hi", 0⟩)] ∧
      (deletePost 1 "bob" Auto.faultless onePost 0).2.1.timelineComments.rows = [] := by
  refine ⟨?_, rfl, rfl, rfl⟩
  rw [isAuthor_iff, not_not]
  rfl

end TinTin.Server
