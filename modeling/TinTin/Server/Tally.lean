/-
  Polls: what `Store::poll_results` counts after any run of `create_poll`, `vote_poll` and
  `close_poll`.

  A run records what its calls achieved: a poll was created, a vote was accepted, a poll was
  closed. The tables are related to this record by the invariant `Counted`; the query counts
  votes by option alone, which is right because the option of a vote belongs to the poll of
  the vote (`Counted.ballots`) and a user has one vote a poll (`Counted.keys`).

  * `PollRun.step_counted`, `PollRun.run_counted`: a call keeps the invariant, so a run does.
  * `Counted.results`: under the invariant the results are the tally of the record.
  * `poll_tally`: this for every run, with the votes that fail and the results that stay.
-/
import Mathlib.Data.Set.Card
import TinTin.Server.Ownership

namespace TinTin.Server

open TinTin.Lib

/-! ## Runs -/

/-- One call by any user. -/
inductive PollCall
  | create (creator question : String) (options : List String)
  | vote (pollId : ℤ) (userId : String) (optionId : ℤ)
  | close (pollId : ℤ) (userId : String)

/-- What a call achieved. -/
inductive PollEvent
  | created (pollId : ℤ) (creator question : String) (options : List String)
  | voted (pollId : ℤ) (userId : String) (optionId : ℤ)
  | closed (pollId : ℤ)
  deriving DecidableEq, Repr

/-- The tables after some calls, and what those achieved, in order. -/
structure PollRun where
  db : Database
  log : List PollEvent

def PollRun.start : PollRun := ⟨.empty, []⟩

/-- One call, without database errors. -/
def PollRun.step (run : PollRun) : PollCall → PollRun
  | .create creator question options =>
    match createPoll creator question options Auto.faultless run.db 0 with
    | (.ok pollId, db, _) => ⟨db, run.log ++ [.created pollId creator question options]⟩
    | (.error _, db, _) => ⟨db, run.log⟩
  | .vote pollId userId optionId =>
    match votePoll pollId userId optionId Auto.faultless run.db 0 with
    | (.ok (.ok ()), db, _) => ⟨db, run.log ++ [.voted pollId userId optionId]⟩
    | (_, db, _) => ⟨db, run.log⟩
  | .close pollId userId =>
    match closePoll pollId userId Auto.faultless run.db 0 with
    | (.ok true, db, _) => ⟨db, run.log ++ [.closed pollId]⟩
    | (_, db, _) => ⟨db, run.log⟩

def PollRun.run (run : PollRun) (calls : List PollCall) : PollRun := calls.foldl PollRun.step run

/-- The option of the user's last successful vote on a poll. -/
def lastVote (log : List PollEvent) (pollId : ℤ) (userId : String) : Option ℤ :=
  log.foldl (fun last event =>
    match event with
    | .voted p u optionId => if p = pollId ∧ u = userId then some optionId else last
    | _ => last) none

def Created (log : List PollEvent) (pollId : ℤ) : Prop :=
  ∃ creator question options, PollEvent.created pollId creator question options ∈ log

/-- What `poll_results` answers. -/
def answered (db : Database) (pollId : ℤ) : Except DbError (Option PollResults) :=
  (pollResults pollId Auto.faultless db 0).1

/-- The vote fails with an error of its own and changes nothing. -/
def Rejected (db : Database) (pollId : ℤ) (userId : String) (optionId : ℤ) : Prop :=
  ∃ msg n, votePoll pollId userId optionId Auto.faultless db 0 = (.ok (.error msg), db, n)

/-- The results of a poll that was created with these texts are the tally of the record. -/
structure Tallies (log : List PollEvent) (pollId : ℤ) (creator question : String)
    (texts : List String) (results : PollResults) : Prop where
  poll : results.pollId = pollId ∧ results.creator = creator ∧ results.question = question
  active : results.active = true ↔ .closed pollId ∉ log
  texts : results.options.map (·.optionText) = texts
  ids : (results.options.map (·.optionId)).Pairwise (· < ·)
  votes : ∀ o ∈ results.options,
    {u | lastVote log pollId u = some o.optionId}.encard = o.votes
  voters : {u | ∃ optionId, .voted pollId u optionId ∈ log}.encard =
    ((results.options.map (·.votes)).sum : ℕ)

/-! ## The record -/

theorem lastVote_voted (log : List PollEvent) (pollId pollId' : ℤ) (userId userId' : String)
    (optionId : ℤ) :
    lastVote (log ++ [.voted pollId userId optionId]) pollId' userId' =
      if pollId = pollId' ∧ userId = userId' then some optionId
      else lastVote log pollId' userId' := by
  unfold lastVote
  rw [List.foldl_append]
  rfl

theorem lastVote_created (log : List PollEvent) (p pollId : ℤ) (creator question userId : String)
    (options : List String) :
    lastVote (log ++ [.created p creator question options]) pollId userId =
      lastVote log pollId userId := by
  unfold lastVote
  rw [List.foldl_append]
  rfl

theorem lastVote_closed (log : List PollEvent) (p pollId : ℤ) (userId : String) :
    lastVote (log ++ [.closed p]) pollId userId = lastVote log pollId userId := by
  unfold lastVote
  rw [List.foldl_append]
  rfl

/-- A user has a last vote exactly if it voted. -/
theorem lastVote_isSome_iff (log : List PollEvent) (pollId : ℤ) (userId : String) :
    (∃ optionId, lastVote log pollId userId = some optionId) ↔
      ∃ optionId, PollEvent.voted pollId userId optionId ∈ log := by
  induction log using List.reverseRecOn with
  | nil => simp [lastVote]
  | append_singleton log event ih =>
    cases event with
    | created p creator question options => simp [lastVote_created, ih]
    | closed p => simp [lastVote_closed, ih]
    | voted p u o =>
      rw [lastVote_voted]
      by_cases h : p = pollId ∧ u = userId
      · obtain ⟨rfl, rfl⟩ := h
        simp
      · rw [if_neg h, ih]
        have hne : ∀ x, PollEvent.voted pollId userId x ≠ .voted p u o := by
          intro x he
          injection he with hp hu
          exact h ⟨hp.symm, hu.symm⟩
        simp [hne]

/-! ## What the operations do -/

/-- The rows of a poll's options, by ascending id. -/
def optionsOf (db : Database) (pollId : ℤ) : List (ℤ × PollOptionRow) :=
  db.pollOptions.select fun r => r.2.pollId == pollId

/-- The database with a new poll and its options. -/
def withPoll (db : Database) (creator question : String) (options : List String) : Database :=
  { db with
    polls := db.polls.insert ⟨creator, question, 1⟩
    pollOptions := db.pollOptions.insertAll (options.map fun text => ⟨db.polls.lastId + 1, text⟩) }

/-- The database with a user's vote in place of an earlier one on the poll. -/
def withVote (db : Database) (pollId : ℤ) (userId : String) (optionId : ℤ) : Database :=
  { db with
    pollVotes := db.pollVotes.filter (fun v => !(v.pollId == pollId && v.userId == userId)) ++
      [⟨pollId, userId, optionId⟩] }

/-- A poll's results, read off the tables. -/
def resultsOf (db : Database) (pollId : ℤ) (poll : PollRow) : PollResults where
  pollId := pollId
  question := poll.question
  creator := poll.creator
  active := poll.active != 0
  options := (optionsOf db pollId).map fun o =>
    ⟨o.1, o.2.optionText, db.pollVotes.countP fun v => v.optionId == o.1⟩

/-- The poll takes votes and the option is one of its own. -/
def CanVote (db : Database) (pollId optionId : ℤ) : Prop :=
  (∃ poll, db.polls.get? pollId = some poll ∧ poll.active ≠ 0) ∧
    ∃ o ∈ optionsOf db pollId, o.1 = optionId

theorem any_id_of_get? {t : AutoTable PollRow} {pollId : ℤ} {poll : PollRow}
    (h : t.get? pollId = some poll) : (t.rows.any fun r => r.1 == pollId) = true :=
  List.any_eq_true.mpr ⟨_, AutoTable.get?_eq_some.mp h, by simp⟩

theorem createPoll_faultless (creator question : String) (options : List String)
    (db : Database) :
    ∃ n, createPoll creator question options Auto.faultless db 0 =
      (.ok (db.polls.lastId + 1), withPoll db creator question options, n) := by
  let pollId := db.polls.lastId + 1
  let db' : Database := { db with polls := db.polls.insert ⟨creator, question, 1⟩ }
  let withOption (s : Database) (text : String) : Database :=
    { s with pollOptions := s.pollOptions.insert ⟨pollId, text⟩ }
  have hpoll : Auto.exec (insertPoll creator question) Auto.faultless db 0 =
      (.ok pollId, db', 1) := Auto.run_exec_ok rfl rfl
  -- the options refer to the new poll, so no insertion of one fails
  have hstep : ∀ (text : String) (s : Database), s.polls = db'.polls →
      insertPollOption pollId text s = .ok ((), withOption s text) ∧
        (withOption s text).polls = db'.polls := by
    intro text s hs
    refine ⟨?_, hs⟩
    have hget : s.polls.get? pollId = some ⟨creator, question, 1⟩ := by
      rw [hs, AutoTable.get?_insert, if_pos rfl]
    unfold insertPollOption
    rw [any_id_of_get? hget]
    rfl
  have hloop := Auto.run_loop_of_inv (P := fun s => s.polls = db'.polls)
    (insertPollOption pollId) withOption hstep options db' rfl 1
  have hfold : options.foldl withOption db' = withPoll db creator question options := by
    let addOption (t : AutoTable PollOptionRow) (text : String) := t.insert ⟨pollId, text⟩
    have hhom : ∀ (t : AutoTable PollOptionRow) (text : String),
        withOption { db' with pollOptions := t } text =
          { db' with pollOptions := addOption t text } := fun _ _ => rfl
    have hall : db.pollOptions.insertAll (options.map fun text => ⟨pollId, text⟩) =
        options.foldl addOption db.pollOptions := List.foldl_map
    unfold withPoll
    rw [hall]
    exact List.foldl_hom (fun t => ({ db' with pollOptions := t } : Database)) hhom
  rw [hfold] at hloop
  unfold createPoll
  rw [Auto.run_bind_ok hpoll, Auto.run_bind_ok hloop]
  exact ⟨_, rfl⟩

/-- A vote is recorded, or fails and changes nothing. -/
theorem votePoll_faultless (pollId : ℤ) (userId : String) (optionId : ℤ) (db : Database) :
    (CanVote db pollId optionId ∧
      ∃ n, votePoll pollId userId optionId Auto.faultless db 0 =
        (.ok (.ok ()), withVote db pollId userId optionId, n)) ∨
    (¬ CanVote db pollId optionId ∧ Rejected db pollId userId optionId) := by
  have hread : Auto.attempt (selectPoll pollId) Auto.faultless db 0 =
      (.ok (some (db.polls.get? pollId)), db, 1) := Auto.run_attempt_ok rfl rfl
  unfold Rejected votePoll
  rw [Auto.run_bind_ok hread, Option.join_some]
  cases hpoll : db.polls.get? pollId with
  | none =>
    right
    refine ⟨?_, _, _, rfl⟩
    rintro ⟨⟨poll, h, -⟩, -⟩
    rw [hpoll] at h
    exact Option.some_ne_none _ h.symm
  | some poll =>
    rw [Option.map_some, Option.getD_some]
    by_cases hactive : poll.active = 0
    · right
      refine ⟨?_, "Poll is closed", 1, ?_⟩
      · rintro ⟨⟨poll', h, hne⟩, -⟩
        have : poll = poll' := Option.some.inj (hpoll.symm.trans h)
        exact hne (this ▸ hactive)
      · rw [hactive]
        rfl
    · have hcond : (poll.active != 0) = true := by simpa using hactive
      have hcount : Auto.exec (countOptions optionId pollId) Auto.faultless db 1 =
          (.ok (db.pollOptions.select fun r => r.1 == optionId && r.2.pollId == pollId).length,
            db, 2) := Auto.run_exec_ok rfl rfl
      rw [if_pos hcond, Auto.run_bind_ok hcount]
      have hown : (db.pollOptions.select fun r => r.1 == optionId && r.2.pollId == pollId) ≠ [] ↔
          ∃ o ∈ optionsOf db pollId, o.1 = optionId := by
        unfold optionsOf AutoTable.select
        rw [Ne, List.filter_eq_nil_iff]
        simp only [List.mem_filter, Bool.and_eq_true, beq_iff_eq, not_forall, not_not]
        constructor
        · rintro ⟨o, hmem, hid, hp⟩
          exact ⟨o, ⟨hmem, hp⟩, hid⟩
        · rintro ⟨o, ⟨hmem, hp⟩, hid⟩
          exact ⟨o, hmem, hid, hp⟩
      by_cases hnone : (db.pollOptions.select fun r => r.1 == optionId && r.2.pollId == pollId) = []
      · right
        refine ⟨fun h => hown.mpr h.2 hnone, "Option not found", 2, ?_⟩
        rw [hnone]
        rfl
      · left
        refine ⟨⟨⟨poll, hpoll, hactive⟩, hown.mp hnone⟩, 3, ?_⟩
        have hlen : ¬ (db.pollOptions.select fun r =>
            r.1 == optionId && r.2.pollId == pollId).length = 0 := by
          simpa using hnone
        have hvote : Auto.exec (upsertVote pollId userId optionId) Auto.faultless db 2 =
            (.ok (), withVote db pollId userId optionId, 3) := by
          refine Auto.run_exec_ok rfl ?_
          unfold upsertVote
          rw [any_id_of_get? hpoll]
          rfl
        rw [if_neg hlen, Auto.run_bind_ok hvote]
        rfl

theorem answered_eq (db : Database) (pollId : ℤ) :
    answered db pollId = .ok ((db.polls.get? pollId).map (resultsOf db pollId)) := by
  have hread : Auto.attempt (selectPoll pollId) Auto.faultless db 0 =
      (.ok (some (db.polls.get? pollId)), db, 1) := Auto.run_attempt_ok rfl rfl
  unfold answered pollResults
  rw [Auto.run_bind_ok hread, Option.join_some]
  cases db.polls.get? pollId with
  | none => rfl
  | some poll =>
    have htally : Auto.exec (selectTally pollId) Auto.faultless db 1 =
        (.ok ((optionsOf db pollId).map fun o =>
          (o.1, o.2.optionText, db.pollVotes.countP fun v => v.optionId == o.1)), db, 2) :=
      Auto.run_exec_ok rfl rfl
    dsimp only
    rw [Auto.run_bind_ok htally, List.map_map]
    rfl

/-! ## The invariant -/

/-- The tables say what the record says. -/
structure Counted (run : PollRun) : Prop where
  created : ∀ p creator question texts, .created p creator question texts ∈ run.log →
    (∃ poll, run.db.polls.get? p = some poll ∧ poll.creator = creator ∧
      poll.question = question ∧ (poll.active ≠ 0 ↔ .closed p ∉ run.log)) ∧
    (optionsOf run.db p).map (·.2.optionText) = texts
  uncreated : ∀ p, ¬ Created run.log p → run.db.polls.get? p = none
  closed : ∀ p, .closed p ∈ run.log → Created run.log p
  options : ∀ r ∈ run.db.pollOptions.rows, r.2.pollId ≤ run.db.polls.lastId
  votes : ∀ p u o, ⟨p, u, o⟩ ∈ run.db.pollVotes ↔ lastVote run.log p u = some o
  keys : (run.db.pollVotes.map fun v => (v.pollId, v.userId)).Nodup
  ballots : ∀ v ∈ run.db.pollVotes, ∃ o ∈ optionsOf run.db v.pollId, o.1 = v.optionId

theorem counted_start : Counted .start where
  created := by simp [PollRun.start]
  uncreated _ _ := rfl
  closed := by simp [PollRun.start]
  options := by simp [PollRun.start, Database.empty]
  votes := by simp [PollRun.start, Database.empty, lastVote]
  keys := .nil
  ballots := by simp [PollRun.start, Database.empty]

/-- A poll that is in the record is in the table. -/
theorem Counted.get?_of_created {run : PollRun} (h : Counted run) {p : ℤ}
    (hp : Created run.log p) : ∃ poll, run.db.polls.get? p = some poll := by
  obtain ⟨creator, question, texts, hmem⟩ := hp
  obtain ⟨⟨poll, hpoll, -⟩, -⟩ := h.created p creator question texts hmem
  exact ⟨poll, hpoll⟩

theorem Counted.created_of_get? {run : PollRun} (h : Counted run) {p : ℤ} {poll : PollRow}
    (hp : run.db.polls.get? p = some poll) : Created run.log p := by
  by_contra hnot
  rw [h.uncreated p hnot] at hp
  exact Option.some_ne_none _ hp.symm

/-- The options of a poll in the table stay when a new poll brings its own. -/
theorem optionsOf_withPoll_of_ne {db : Database} {p : ℤ} (hp : p ≠ db.polls.lastId + 1)
    (creator question : String) (texts : List String) :
    optionsOf (withPoll db creator question texts) p = optionsOf db p := by
  obtain ⟨new, hrows, hnew⟩ := AutoTable.rows_insertAll db.pollOptions
    (texts.map fun text => ⟨db.polls.lastId + 1, text⟩)
  unfold optionsOf withPoll AutoTable.select
  dsimp only
  rw [hrows, List.filter_append]
  have hnone : new.filter (fun r => r.2.pollId == p) = [] := by
    rw [List.filter_eq_nil_iff]
    intro r hr
    have hmem : r.2 ∈ new.map Prod.snd := List.mem_map_of_mem hr
    rw [hnew] at hmem
    obtain ⟨text, -, htext⟩ := List.mem_map.mp hmem
    simpa [← htext] using hp.symm
  rw [hnone, List.append_nil]

/-- A new poll has the options it was created with. -/
theorem optionsOf_withPoll_self {db : Database}
    (hbound : ∀ r ∈ db.pollOptions.rows, r.2.pollId ≤ db.polls.lastId)
    (creator question : String) (texts : List String) :
    (optionsOf (withPoll db creator question texts) (db.polls.lastId + 1)).map
      (·.2.optionText) = texts := by
  obtain ⟨new, hrows, hnew⟩ := AutoTable.rows_insertAll db.pollOptions
    (texts.map fun text => ⟨db.polls.lastId + 1, text⟩)
  unfold optionsOf withPoll AutoTable.select
  dsimp only
  rw [hrows, List.filter_append]
  have hold : db.pollOptions.rows.filter (fun r => r.2.pollId == db.polls.lastId + 1) = [] := by
    rw [List.filter_eq_nil_iff]
    intro r hr
    have hle := hbound r hr
    rw [beq_iff_eq]
    omega
  have hself : new.filter (fun r => r.2.pollId == db.polls.lastId + 1) = new := by
    rw [List.filter_eq_self]
    intro r hr
    have hmem : r.2 ∈ new.map Prod.snd := List.mem_map_of_mem hr
    rw [hnew] at hmem
    obtain ⟨text, -, htext⟩ := List.mem_map.mp hmem
    simp [← htext]
  rw [hold, hself, List.nil_append]
  have hcomp : new.map (·.2.optionText) = (new.map Prod.snd).map (·.optionText) := by
    rw [List.map_map]
    rfl
  rw [hcomp, hnew, List.map_map]
  exact List.map_id _

theorem mem_created_append {log : List PollEvent} {p : ℤ} {event : PollEvent}
    (h : Created log p) : Created (log ++ [event]) p := by
  obtain ⟨creator, question, texts, hmem⟩ := h
  exact ⟨creator, question, texts, List.mem_append_left _ hmem⟩

/-- Creating a poll keeps the invariant. -/
theorem Counted.create {run : PollRun} (h : Counted run) (creator question : String)
    (texts : List String) :
    Counted ⟨withPoll run.db creator question texts,
      run.log ++ [.created (run.db.polls.lastId + 1) creator question texts]⟩ := by
  let new := run.db.polls.lastId + 1
  have hget : ∀ p, (withPoll run.db creator question texts).polls.get? p =
      if p = new then some ⟨creator, question, 1⟩ else run.db.polls.get? p :=
    AutoTable.get?_insert _ _
  have hnew : ¬ Created run.log new := by
    intro hc
    obtain ⟨poll, hpoll⟩ := h.get?_of_created hc
    have hnone : run.db.polls.get? new = none :=
      AutoTable.get?_eq_none (Int.lt_add_one_iff.mpr (Int.le_refl _))
    rw [hnone] at hpoll
    exact Option.some_ne_none _ hpoll.symm
  have hclosed : ∀ p, PollEvent.closed p ∈ run.log ++ [.created new creator question texts] ↔
      .closed p ∈ run.log := by
    intro p
    simp
  constructor
  · intro p c q t hmem
    dsimp only at hmem ⊢
    rw [hget, hclosed]
    rcases List.mem_append.mp hmem with hmem | hmem
    · have hp : p ≠ new := fun e => hnew ⟨c, q, t, e ▸ hmem⟩
      rw [if_neg hp, optionsOf_withPoll_of_ne hp]
      exact h.created p c q t hmem
    · have he : p = new ∧ c = creator ∧ q = question ∧ t = texts := by simpa using hmem
      obtain ⟨rfl, rfl, rfl, rfl⟩ := he
      rw [if_pos rfl]
      refine ⟨⟨_, rfl, rfl, rfl, ?_⟩, optionsOf_withPoll_self h.options _ _ _⟩
      exact iff_of_true Int.one_ne_zero fun hc => hnew (h.closed _ hc)
  · intro p hnot
    have hp : p ≠ new := by
      rintro rfl
      exact hnot ⟨creator, question, texts, List.mem_append_right _ (List.mem_singleton.mpr rfl)⟩
    dsimp only
    rw [hget, if_neg hp]
    exact h.uncreated p fun hc => hnot (mem_created_append hc)
  · intro p hc
    exact mem_created_append (h.closed p ((hclosed p).mp hc))
  · intro r hr
    obtain ⟨rows, hrows, hsnd⟩ := AutoTable.rows_insertAll run.db.pollOptions
      (texts.map fun text => ⟨new, text⟩)
    have hr' : r ∈ run.db.pollOptions.rows ++ rows := hrows ▸ hr
    show r.2.pollId ≤ run.db.polls.lastId + 1
    rcases List.mem_append.mp hr' with hold | hmem
    · have hle := h.options r hold
      omega
    · have hsel : r.2 ∈ rows.map Prod.snd := List.mem_map_of_mem hmem
      rw [hsnd] at hsel
      obtain ⟨text, -, htext⟩ := List.mem_map.mp hsel
      rw [← htext]
  · intro p u o
    rw [lastVote_created]
    exact h.votes p u o
  · exact h.keys
  · intro v hv
    obtain ⟨o, ho, hid⟩ := h.ballots v hv
    have hle : v.pollId ≤ run.db.polls.lastId := by
      obtain ⟨hmem, hp⟩ := List.mem_filter.mp ho
      have hpoll : o.2.pollId = v.pollId := by simpa using hp
      exact hpoll ▸ h.options o hmem
    have hp : v.pollId ≠ run.db.polls.lastId + 1 := by omega
    refine ⟨o, ?_, hid⟩
    show o ∈ optionsOf (withPoll run.db creator question texts) v.pollId
    rw [optionsOf_withPoll_of_ne hp]
    exact ho

/-- An accepted vote keeps the invariant. -/
theorem Counted.vote {run : PollRun} (h : Counted run) {pollId optionId : ℤ}
    (hcan : CanVote run.db pollId optionId) (userId : String) :
    Counted ⟨withVote run.db pollId userId optionId,
      run.log ++ [.voted pollId userId optionId]⟩ := by
  have hother : ∀ v : PollVoteRow, (!(v.pollId == pollId && v.userId == userId)) = true ↔
      ¬ (pollId = v.pollId ∧ userId = v.userId) := by
    intro v
    rw [eq_comm (a := pollId), eq_comm (a := userId), Bool.not_eq_true', ← Bool.not_eq_true,
      Bool.and_eq_true, beq_iff_eq, beq_iff_eq]
  have hclosed : ∀ p, PollEvent.closed p ∈ run.log ++ [.voted pollId userId optionId] ↔
      .closed p ∈ run.log := by
    intro p
    simp
  constructor
  · intro p c q t hmem
    have hmem' : PollEvent.created p c q t ∈ run.log := by simpa using hmem
    dsimp only
    rw [hclosed]
    exact h.created p c q t hmem'
  · intro p hnot
    exact h.uncreated p fun hc => hnot (mem_created_append hc)
  · intro p hc
    exact mem_created_append (h.closed p ((hclosed p).mp hc))
  · exact h.options
  · intro p u o
    show _ ∈ run.db.pollVotes.filter _ ++ [_] ↔ _
    rw [lastVote_voted, List.mem_append, List.mem_filter, List.mem_singleton, hother, h.votes]
    by_cases hkey : pollId = p ∧ userId = u
    · obtain ⟨rfl, rfl⟩ := hkey
      rw [if_pos ⟨rfl, rfl⟩]
      simp [eq_comm]
    · rw [if_neg hkey]
      have hne : (⟨p, u, o⟩ : PollVoteRow) ≠ ⟨pollId, userId, optionId⟩ := by
        intro he
        injection he with hp hu
        exact hkey ⟨hp.symm, hu.symm⟩
      simp [hkey, hne]
  · show ((run.db.pollVotes.filter _ ++ [_]).map _).Nodup
    rw [List.map_append, List.nodup_append]
    refine ⟨h.keys.sublist (List.filter_sublist.map _), List.nodup_singleton _, ?_⟩
    intro a ha b hb hab
    obtain ⟨v, hv, rfl⟩ := List.mem_map.mp ha
    have hkey := (hother v).mp (List.mem_filter.mp hv).2
    rw [List.map_singleton, List.mem_singleton] at hb
    rw [hb] at hab
    injection hab with hp hu
    exact hkey ⟨hp.symm, hu.symm⟩
  · intro v hv
    rcases List.mem_append.mp hv with hv | hv
    · exact h.ballots v (List.mem_filter.mp hv).1
    · rw [List.mem_singleton.mp hv]
      exact hcan.2

/-- Closing a poll keeps the invariant. -/
theorem Counted.close {run : PollRun} (h : Counted run) {pollId : ℤ} {poll : PollRow}
    (hpoll : run.db.polls.get? pollId = some poll) :
    Counted ⟨withClosed run.db pollId, run.log ++ [.closed pollId]⟩ := by
  have hget : ∀ p, (withClosed run.db pollId).polls.get? p =
      if p = pollId then (run.db.polls.get? p).map fun r => { r with active := 0 }
      else run.db.polls.get? p := AutoTable.get?_updateWhere _ _ _
  constructor
  · intro p c q t hmem
    dsimp only
    have hmem' : PollEvent.created p c q t ∈ run.log := by simpa using hmem
    obtain ⟨⟨poll, hp, hc, hq, hactive⟩, htexts⟩ := h.created p c q t hmem'
    refine ⟨?_, htexts⟩
    rw [hget, hp]
    by_cases he : p = pollId
    · rw [if_pos he, he]
      exact ⟨_, rfl, hc, hq, by simp⟩
    · rw [if_neg he]
      refine ⟨poll, rfl, hc, hq, ?_⟩
      rw [hactive]
      simp [he]
  · intro p hnot
    have hnone := h.uncreated p fun hc => hnot (mem_created_append hc)
    dsimp only
    rw [hget, hnone]
    simp
  · intro p hc
    rcases List.mem_append.mp hc with hc | hc
    · exact mem_created_append (h.closed p hc)
    · have he : p = pollId := by simpa using hc
      exact mem_created_append (h.created_of_get? (he ▸ hpoll))
  · exact h.options
  · intro p u o
    rw [lastVote_closed]
    exact h.votes p u o
  · exact h.keys
  · exact h.ballots

/-- What one call can do. -/
theorem PollRun.step_cases (run : PollRun) (call : PollCall) :
    (∃ creator question texts,
      run.step call = ⟨withPoll run.db creator question texts,
        run.log ++ [.created (run.db.polls.lastId + 1) creator question texts]⟩) ∨
    (∃ pollId userId optionId, CanVote run.db pollId optionId ∧
      run.step call = ⟨withVote run.db pollId userId optionId,
        run.log ++ [.voted pollId userId optionId]⟩) ∨
    (∃ pollId poll, run.db.polls.get? pollId = some poll ∧
      run.step call = ⟨withClosed run.db pollId, run.log ++ [.closed pollId]⟩) ∨
    run.step call = run := by
  cases call with
  | create creator question texts =>
    left
    obtain ⟨n, hrun⟩ := createPoll_faultless creator question texts run.db
    exact ⟨creator, question, texts, by simp only [PollRun.step, hrun]⟩
  | vote pollId userId optionId =>
    right
    rcases votePoll_faultless pollId userId optionId run.db with
      ⟨hcan, n, hrun⟩ | ⟨-, msg, n, hrun⟩
    · exact .inl ⟨pollId, userId, optionId, hcan, by simp only [PollRun.step, hrun]⟩
    · exact .inr (.inr (by simp only [PollRun.step, hrun]))
  | close pollId userId =>
    right; right
    have hrun := closePoll_faultless pollId userId run.db
    cases hpoll : run.db.polls.get? pollId with
    | none =>
      rw [hpoll] at hrun
      exact .inr (by simp only [PollRun.step, hrun])
    | some poll =>
      rw [hpoll] at hrun
      by_cases hc : poll.creator = userId
      · dsimp only at hrun
        rw [if_pos hc] at hrun
        exact .inl ⟨pollId, poll, hpoll, by simp only [PollRun.step, hrun]⟩
      · dsimp only at hrun
        rw [if_neg hc] at hrun
        exact .inr (by simp only [PollRun.step, hrun])

theorem PollRun.step_counted {run : PollRun} (h : Counted run) (call : PollCall) :
    Counted (run.step call) := by
  rcases run.step_cases call with ⟨c, q, t, he⟩ | ⟨p, u, o, hcan, he⟩ | ⟨p, poll, hpoll, he⟩ | he
  · rw [he]
    exact h.create c q t
  · rw [he]
    exact h.vote hcan u
  · rw [he]
    exact h.close hpoll
  · rw [he]
    exact h

theorem PollRun.run_counted {run : PollRun} (h : Counted run) (calls : List PollCall) :
    Counted (run.run calls) := by
  induction calls generalizing run with
  | nil => exact h
  | cons call calls ih => exact ih (step_counted h call)

/-! ## The count -/

/-- Distinct elements are as many as their list is long. -/
theorem encard_eq_length {α : Type} {l : List α} (hl : l.Nodup) {P : α → Prop}
    (hP : ∀ a, P a ↔ a ∈ l) : {a | P a}.encard = l.length := by
  classical
  have hset : {a | P a} = (l.toFinset : Set α) := by
    ext a
    simp [hP]
  rw [hset, Set.encard_coe_eq_coe_finsetCard, List.toFinset_card_of_nodup hl]

theorem countP_or {α : Type} (p q : α → Bool) (l : List α) (h : ∀ a, p a → ¬ q a) :
    (l.countP fun a => p a || q a) = l.countP p + l.countP q := by
  induction l with
  | nil => rfl
  | cons a l ih =>
    rw [List.countP_cons, List.countP_cons, List.countP_cons, ih]
    have ha := h a
    cases hp : p a <;> cases hq : q a <;> simp [hp, hq] at ha ⊢ <;> omega

/-- Counting by value over distinct values counts the elements with one of them. -/
theorem sum_countP {α : Type} (f : α → ℤ) (l : List α) {ids : List ℤ} (hids : ids.Nodup) :
    (ids.map fun id => l.countP fun a => f a == id).sum = l.countP fun a => f a ∈ ids := by
  induction ids with
  | nil => simp
  | cons id ids ih =>
    obtain ⟨hnot, hids⟩ := List.nodup_cons.mp hids
    have hdisj : ∀ a, (f a == id) = true → ¬ decide (f a ∈ ids) = true := by
      intro a ha hmem
      rw [beq_iff_eq] at ha
      exact hnot (ha ▸ of_decide_eq_true hmem)
    rw [List.map_cons, List.sum_cons, ih hids, ← countP_or _ _ l hdisj]
    refine List.countP_congr fun a _ => ?_
    simp

/-- The users with a vote on a poll, each once. -/
theorem Counted.nodup_users {run : PollRun} (h : Counted run) (pollId : ℤ) :
    ((run.db.pollVotes.filter (·.pollId == pollId)).map (·.userId)).Nodup := by
  have hkeys := h.keys.sublist (List.filter_sublist (p := (·.pollId == pollId)).map _)
  have hpair : (run.db.pollVotes.filter (·.pollId == pollId)).map
      (fun v => (v.pollId, v.userId)) =
      ((run.db.pollVotes.filter (·.pollId == pollId)).map (·.userId)).map (pollId, ·) := by
    rw [List.map_map]
    refine List.map_congr_left fun v hv => ?_
    have hp : v.pollId = pollId := by simpa using (List.mem_filter.mp hv).2
    show (v.pollId, v.userId) = (pollId, v.userId)
    rw [hp]
  rw [hpair] at hkeys
  exact hkeys.of_map _

/-- A vote for one of the poll's options is a vote on the poll. -/
theorem Counted.pollId_of_optionId {run : PollRun} (h : Counted run) {pollId : ℤ}
    {o : ℤ × PollOptionRow} (ho : o ∈ optionsOf run.db pollId) {v : PollVoteRow}
    (hv : v ∈ run.db.pollVotes) (hid : v.optionId = o.1) : v.pollId = pollId := by
  obtain ⟨o', ho', hid'⟩ := h.ballots v hv
  obtain ⟨hmem, hp⟩ := List.mem_filter.mp ho
  obtain ⟨hmem', hp'⟩ := List.mem_filter.mp ho'
  have he : o' = o := AutoTable.eq_of_fst_eq hmem' hmem (hid'.trans hid)
  rw [beq_iff_eq] at hp hp'
  rw [← hp', he, hp]

/-- The count of an option is the number of users whose last vote on the poll named it. -/
theorem Counted.encard_votes {run : PollRun} (h : Counted run) {pollId : ℤ}
    {o : ℤ × PollOptionRow} (ho : o ∈ optionsOf run.db pollId) :
    {u | lastVote run.log pollId u = some o.1}.encard =
      run.db.pollVotes.countP fun v => v.optionId == o.1 := by
  have hsub : (run.db.pollVotes.filter fun v => v.optionId == o.1) =
      (run.db.pollVotes.filter (·.pollId == pollId)).filter fun v => v.optionId == o.1 := by
    rw [List.filter_filter]
    refine List.filter_congr fun v hv => ?_
    by_cases hid : v.optionId = o.1
    · simp [hid, h.pollId_of_optionId ho hv hid]
    · simp [hid]
  have hnodup : ((run.db.pollVotes.filter fun v => v.optionId == o.1).map (·.userId)).Nodup := by
    rw [hsub]
    exact (h.nodup_users pollId).sublist (List.filter_sublist.map _)
  have hmem : ∀ u, lastVote run.log pollId u = some o.1 ↔
      u ∈ (run.db.pollVotes.filter fun v => v.optionId == o.1).map (·.userId) := by
    intro u
    rw [← h.votes, List.mem_map]
    constructor
    · intro hv
      exact ⟨_, List.mem_filter.mpr ⟨hv, by simp⟩, rfl⟩
    · rintro ⟨v, hv, rfl⟩
      obtain ⟨hv, hid⟩ := List.mem_filter.mp hv
      rw [beq_iff_eq] at hid
      rw [← hid, ← h.pollId_of_optionId ho hv hid]
      exact hv
  rw [encard_eq_length hnodup hmem, List.length_map, List.countP_eq_length_filter]

theorem nodup_optionIds (db : Database) (pollId : ℤ) :
    ((optionsOf db pollId).map Prod.fst).Pairwise (· < ·) :=
  db.pollOptions.sorted.sublist (List.filter_sublist.map _)

/-- The counts sum to the number of users who voted on the poll. -/
theorem Counted.encard_voters {run : PollRun} (h : Counted run) (pollId : ℤ) :
    {u | ∃ optionId, .voted pollId u optionId ∈ run.log}.encard =
      (((optionsOf run.db pollId).map fun o =>
        run.db.pollVotes.countP fun v => v.optionId == o.1).sum : ℕ) := by
  have hmem : ∀ u, (∃ optionId, .voted pollId u optionId ∈ run.log) ↔
      u ∈ (run.db.pollVotes.filter (·.pollId == pollId)).map (·.userId) := by
    intro u
    rw [← lastVote_isSome_iff, List.mem_map]
    constructor
    · rintro ⟨o, ho⟩
      exact ⟨_, List.mem_filter.mpr ⟨(h.votes pollId u o).mpr ho, by simp⟩, rfl⟩
    · rintro ⟨v, hv, rfl⟩
      obtain ⟨hv, hp⟩ := List.mem_filter.mp hv
      rw [beq_iff_eq] at hp
      exact ⟨v.optionId, (h.votes _ _ _).mp (hp ▸ hv)⟩
  have hids : ((optionsOf run.db pollId).map Prod.fst).Nodup :=
    (nodup_optionIds run.db pollId).imp fun h => Int.ne_of_lt h
  have hsum := sum_countP (·.optionId) run.db.pollVotes hids
  rw [List.map_map] at hsum
  have hown : (run.db.pollVotes.countP fun v =>
      v.optionId ∈ (optionsOf run.db pollId).map Prod.fst) =
      run.db.pollVotes.countP (·.pollId == pollId) := by
    refine List.countP_congr fun v hv => ?_
    rw [decide_eq_true_iff, beq_iff_eq, List.mem_map]
    constructor
    · rintro ⟨o, ho, hid⟩
      exact h.pollId_of_optionId ho hv hid.symm
    · rintro rfl
      exact h.ballots v hv
  rw [encard_eq_length (h.nodup_users pollId) hmem, List.length_map,
    ← List.countP_eq_length_filter, ← hown, ← hsum]
  rfl

/-- **The results are the tally of the record.** -/
theorem Counted.results {run : PollRun} (h : Counted run) {pollId : ℤ} {creator question : String}
    {texts : List String} (hmem : .created pollId creator question texts ∈ run.log) :
    ∃ results, answered run.db pollId = .ok (some results) ∧
      Tallies run.log pollId creator question texts results := by
  obtain ⟨⟨poll, hpoll, hcreator, hquestion, hactive⟩, htexts⟩ := h.created _ _ _ _ hmem
  refine ⟨resultsOf run.db pollId poll, ?_, ?_⟩
  · rw [answered_eq, hpoll]
    rfl
  · constructor
    · exact ⟨rfl, hcreator, hquestion⟩
    · rw [← hactive]
      simp [resultsOf]
    · rw [← htexts]
      simp [resultsOf]
    · simpa [resultsOf, Function.comp_def] using nodup_optionIds run.db pollId
    · intro o ho
      obtain ⟨r, hr, rfl⟩ := List.mem_map.mp ho
      exact h.encard_votes hr
    · rw [h.encard_voters]
      simp [resultsOf, Function.comp_def]

/-! ## Later calls -/

/-- What a call leaves of a poll: its options, and once it is closed, everything. -/
theorem PollRun.step_keeps {run : PollRun} (h : Counted run) {pollId : ℤ}
    (hp : Created run.log pollId) (call : PollCall) :
    Created (run.step call).log pollId ∧
      optionsOf (run.step call).db pollId = optionsOf run.db pollId ∧
      (.closed pollId ∈ run.log → .closed pollId ∈ (run.step call).log ∧
        ∀ u, lastVote (run.step call).log pollId u = lastVote run.log pollId u) := by
  rcases run.step_cases call with ⟨c, q, t, he⟩ | ⟨p, u, o, hcan, he⟩ | ⟨p, poll, hpoll, he⟩ | he
  · have hne : pollId ≠ run.db.polls.lastId + 1 := by
      rintro rfl
      obtain ⟨poll, hpoll⟩ := h.get?_of_created hp
      rw [AutoTable.get?_eq_none (Int.lt_add_one_iff.mpr (Int.le_refl _))] at hpoll
      exact Option.some_ne_none _ hpoll.symm
    rw [he]
    exact ⟨mem_created_append hp, optionsOf_withPoll_of_ne hne c q t,
      fun hc => ⟨List.mem_append_left _ hc, fun u => lastVote_created _ _ _ _ _ _ _⟩⟩
  · rw [he]
    refine ⟨mem_created_append hp, rfl, fun hc => ⟨List.mem_append_left _ hc, fun u' => ?_⟩⟩
    -- the vote was accepted, so it is on another poll
    have hne : ¬ (p = pollId ∧ u = u') := by
      rintro ⟨rfl, -⟩
      obtain ⟨⟨poll, hpoll, hactive⟩, -⟩ := hcan
      obtain ⟨creator, question, texts, hmem⟩ := hp
      obtain ⟨⟨poll', hpoll', -, -, hopen⟩, -⟩ := h.created _ _ _ _ hmem
      have : poll' = poll := Option.some.inj (hpoll'.symm.trans hpoll)
      exact hopen.mp (this ▸ hactive) hc
    show lastVote (run.log ++ [_]) pollId u' = _
    rw [lastVote_voted, if_neg hne]
  · rw [he]
    exact ⟨mem_created_append hp, rfl,
      fun hc => ⟨List.mem_append_left _ hc, fun u => lastVote_closed _ _ _ _⟩⟩
  · rw [he]
    exact ⟨hp, rfl, fun hc => ⟨hc, fun _ => rfl⟩⟩

theorem PollRun.run_keeps {run : PollRun} (h : Counted run) {pollId : ℤ}
    (hp : Created run.log pollId) (calls : List PollCall) :
    Created (run.run calls).log pollId ∧
      optionsOf (run.run calls).db pollId = optionsOf run.db pollId ∧
      (.closed pollId ∈ run.log → .closed pollId ∈ (run.run calls).log ∧
        ∀ u, lastVote (run.run calls).log pollId u = lastVote run.log pollId u) := by
  induction calls generalizing run with
  | nil => exact ⟨hp, rfl, fun hc => ⟨hc, fun _ => rfl⟩⟩
  | cons call calls ih =>
    obtain ⟨hp', hoptions, hstep⟩ := step_keeps h hp call
    obtain ⟨hp'', hoptions', hrun⟩ := ih (step_counted h call) hp'
    refine ⟨hp'', hoptions'.trans hoptions, fun hc => ?_⟩
    obtain ⟨hc', hvotes⟩ := hstep hc
    obtain ⟨hc'', hvotes'⟩ := hrun hc'
    exact ⟨hc'', fun u => (hvotes' u).trans (hvotes u)⟩

/-- The events of a poll's creation are in the record of every longer run. -/
theorem PollRun.log_extends (run : PollRun) (calls : List PollCall) :
    run.log <+: (run.run calls).log := by
  induction calls generalizing run with
  | nil => exact List.prefix_rfl
  | cons call calls ih =>
    refine List.IsPrefix.trans ?_ (ih (run.step call))
    rcases run.step_cases call with ⟨c, q, t, he⟩ | ⟨p, u, o, hcan, he⟩ | ⟨p, poll, hpoll, he⟩ | he
    · rw [he]
      exact List.prefix_append _ _
    · rw [he]
      exact List.prefix_append _ _
    · rw [he]
      exact List.prefix_append _ _
    · rw [he]

/-- The option ids of some results. -/
def PollResults.optionIds (results : PollResults) : List ℤ := results.options.map (·.optionId)

/-- Tallies of records that agree on a poll, with the same options, are the same. -/
theorem Tallies.unique {log log' : List PollEvent} {pollId : ℤ} {creator question : String}
    {texts : List String} {r r' : PollResults} (h : Tallies log pollId creator question texts r)
    (h' : Tallies log' pollId creator question texts r') (hids : r'.optionIds = r.optionIds)
    (hclosed : .closed pollId ∈ log') (hclosed' : .closed pollId ∈ log)
    (hvotes : ∀ u, lastVote log' pollId u = lastVote log pollId u) : r' = r := by
  have hoptions : r'.options = r.options := by
    have hlen : r'.options.length = r.options.length := by
      simpa [PollResults.optionIds] using congrArg List.length hids
    refine List.ext_getElem hlen fun i hi' hi => ?_
    have hid : r'.options[i].optionId = r.options[i].optionId := by
      have := List.getElem_of_eq hids (i := i) (by simpa [PollResults.optionIds] using hi')
      simpa [PollResults.optionIds] using this
    have htext : r'.options[i].optionText = r.options[i].optionText := by
      have := List.getElem_of_eq (h'.texts.trans h.texts.symm) (i := i) (by simpa using hi')
      simpa using this
    have hcount : (r'.options[i].votes : ℕ∞) = r.options[i].votes := by
      rw [← h'.votes _ (List.getElem_mem hi'), ← h.votes _ (List.getElem_mem hi), hid]
      simp only [hvotes]
    calc r'.options[i]
        = ⟨r.options[i].optionId, r.options[i].optionText, r.options[i].votes⟩ := by
          rw [← hid, ← htext, ← ENat.natCast_inj.mp hcount]
      _ = r.options[i] := rfl
  have hactive : r'.active = r.active := by
    have h1 : ¬ r'.active = true := fun ha => h'.active.mp ha hclosed
    have h2 : ¬ r.active = true := fun ha => h.active.mp ha hclosed'
    rw [Bool.eq_false_iff.mpr h1, Bool.eq_false_iff.mpr h2]
  obtain ⟨h1, h2, h3⟩ := h.poll
  obtain ⟨h1', h2', h3'⟩ := h'.poll
  cases r
  cases r'
  simp_all

/-- **Poll tally.** After every run of calls, a poll that was created has the tally of the
    record as its results: its options in creation order, for each the number of users whose
    last successful vote named it, in sum the number of users who voted. Whatever is called
    later, the options stay, and once the poll is closed so do the results. A vote fails, and
    changes nothing, exactly if the poll is unknown or closed or the option is none of its
    own. -/
theorem poll_tally (calls : List PollCall) (pollId : ℤ) :
    (∀ creator question texts,
      .created pollId creator question texts ∈ (PollRun.start.run calls).log →
      ∃ results, answered (PollRun.start.run calls).db pollId = .ok (some results) ∧
        Tallies (PollRun.start.run calls).log pollId creator question texts results ∧
        (∀ more, ∃ results',
          answered (PollRun.start.run (calls ++ more)).db pollId = .ok (some results') ∧
          results'.optionIds = results.optionIds ∧
          (.closed pollId ∈ (PollRun.start.run calls).log → results' = results)) ∧
        ∀ userId optionId, Rejected (PollRun.start.run calls).db pollId userId optionId ↔
          .closed pollId ∈ (PollRun.start.run calls).log ∨ optionId ∉ results.optionIds) ∧
    (¬ Created (PollRun.start.run calls).log pollId →
      answered (PollRun.start.run calls).db pollId = .ok none ∧
        ∀ userId optionId, Rejected (PollRun.start.run calls).db pollId userId optionId) := by
  have h : Counted (PollRun.start.run calls) := PollRun.run_counted counted_start calls
  have hrejected : ∀ u o, Rejected (PollRun.start.run calls).db pollId u o ↔
      ¬ CanVote (PollRun.start.run calls).db pollId o := by
    intro u o
    rcases votePoll_faultless pollId u o (PollRun.start.run calls).db with
      ⟨hcan, n, hrun⟩ | ⟨hcan, hrej⟩
    · refine iff_of_false ?_ (not_not.mpr hcan)
      rintro ⟨msg, n', hrun'⟩
      have := congrArg Prod.fst (hrun.symm.trans hrun')
      simp at this
    · exact iff_of_true hrej hcan
  constructor
  · intro creator question texts hmem
    obtain ⟨results, hresults, htally⟩ := h.results hmem
    have hids : results.optionIds =
        (optionsOf (PollRun.start.run calls).db pollId).map Prod.fst := by
      rw [answered_eq] at hresults
      obtain ⟨poll, -, hr⟩ := Option.map_eq_some_iff.mp (Except.ok.inj hresults)
      rw [← hr]
      simp [PollResults.optionIds, resultsOf, Function.comp_def]
    refine ⟨results, hresults, htally, ?_, ?_⟩
    · intro more
      have hrun : PollRun.start.run (calls ++ more) = (PollRun.start.run calls).run more :=
        List.foldl_append
      rw [hrun]
      have hmem' := ((PollRun.start.run calls).log_extends more).subset hmem
      obtain ⟨results', hresults', htally'⟩ := (PollRun.run_counted h more).results hmem'
      obtain ⟨-, hoptions, hclosed⟩ := PollRun.run_keeps h ⟨_, _, _, hmem⟩ more
      have hids' : results'.optionIds = results.optionIds := by
        rw [hids, ← hoptions]
        rw [answered_eq] at hresults'
        obtain ⟨poll, -, hr⟩ := Option.map_eq_some_iff.mp (Except.ok.inj hresults')
        rw [← hr]
        simp [PollResults.optionIds, resultsOf, Function.comp_def]
      refine ⟨results', hresults', hids', fun hc => ?_⟩
      obtain ⟨hc', hvotes⟩ := hclosed hc
      exact htally.unique htally' hids' hc' hc hvotes
    · intro u o
      obtain ⟨⟨poll, hpoll, -, -, hactive⟩, -⟩ := h.created _ _ _ _ hmem
      rw [hrejected, hids, List.mem_map]
      unfold CanVote
      have hopen : (∃ poll, (PollRun.start.run calls).db.polls.get? pollId = some poll ∧
          poll.active ≠ 0) ↔ .closed pollId ∉ (PollRun.start.run calls).log := by
        rw [← hactive]
        constructor
        · rintro ⟨poll', hpoll', hne⟩
          rwa [Option.some.inj (hpoll.symm.trans hpoll')]
        · intro hne
          exact ⟨poll, hpoll, hne⟩
      rw [hopen, not_and_or, not_not]
  · intro hnot
    have hnone := h.uncreated pollId hnot
    refine ⟨by rw [answered_eq, hnone]; rfl, fun u o => (hrejected u o).mpr ?_⟩
    rintro ⟨⟨poll, hpoll, -⟩, -⟩
    rw [hnone] at hpoll
    exact Option.some_ne_none _ hpoll.symm

/-- Bob votes twice and Carol once before Alice closes her poll. -/
def teaPoll : List PollCall :=
  [.create "alice" "Tea?" ["yes", "no"], .vote 1 "bob" 1, .vote 1 "bob" 2, .vote 1 "carol" 2,
    .close 1 "alice", .vote 1 "dave" 1]

theorem poll_tally_tea :
    Tallies (PollRun.start.run teaPoll).log 1 "alice" "Tea?" ["yes", "no"]
      ⟨1, "Tea?", "alice", false, [⟨1, "yes", 0⟩, ⟨2, "no", 2⟩]⟩ := by
  obtain ⟨results, hresults, htally, -⟩ :=
    (poll_tally teaPoll 1).1 "alice" "Tea?" ["yes", "no"] (by decide)
  have hrun : answered (PollRun.start.run teaPoll).db 1 =
      .ok (some ⟨1, "Tea?", "alice", false, [⟨1, "yes", 0⟩, ⟨2, "no", 2⟩]⟩) := by rfl
  have he := Option.some.inj (Except.ok.inj (hresults.symm.trans hrun))
  exact he ▸ htally

end TinTin.Server
