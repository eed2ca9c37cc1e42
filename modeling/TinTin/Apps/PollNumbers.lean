/-
  Voting by the number that is shown.

  `display_decrypted` numbers the options of a poll from 1, `/poll vote` hands on the number typed,
  and the relay takes it for the id of an option. Those ids are given out in one row for all polls.

  * `Numbered`: which ids the options of a poll have, after any run of calls.
  * `poll_numbers_iff`: the numbers shown are the numbers to vote with exactly for a poll before
    which no option was inserted.
  * `second_poll_unvoted`: a poll of which no option can be voted for by its number.
-/
import TinTin.Apps.InputLine
import TinTin.Lib.Standing
import TinTin.Server.Tally

namespace TinTin.Apps

open TinTin.Lib TinTin.Core TinTin.Cli TinTin.Cli.Json TinTin.Cli.Wire TinTin.Server

/-! ## Numbers shown, numbers typed -/

/-- The payload that announces a poll (`create_poll`). -/
def pollPayload (pollId : Int64) (question : String) (options : List String) : Json := obj [
  ("__tintin_type", string.encode "poll"),
  ("poll_id", i64.encode pollId),
  ("question", string.encode question),
  ("options", (vec string).encode options)]

/-- `as_array` -/
def asArray : Json → Option (List Json)
  | .array elems => some elems
  | _ => none

/-- The options that `display_decrypted` prints for a poll, with their numbers. -/
def shownOptions (payload : Json) : List (ℕ × String) :=
  ((asArray (payload.index "options")).getD []).mapIdx fun i opt => (i + 1, opt.asStr.getD "")

/-- `handle_vote_poll`, behind its payload. -/
def serveVote (cmd : VotePollCmd) : StoreM (Except String Unit) :=
  votePoll cmd.pollId.toInt cmd.userId cmd.optionId.toInt

/-- `/poll vote`, typed with two numbers: the outcome on the relay, which takes the request as it
    was meant (`request_accepted_iff`). -/
def typedVote (c : Client Key32) (db : Database) (pid opt : List Char) :
    Option (Except DbError (Except String Unit) × Database × ℕ) :=
  match pollCommand ("vote".toList ++ ' ' :: (pid ++ ' ' :: opt)) with
  | .call (.votePoll pollId optionId) =>
    some (serveVote ⟨"vote_poll", pollId, c.userId, optionId⟩ Auto.faultless db 0)
  | _ => none

/-- **Votes are by the numbers shown**: for an option's number the vote goes to the option of the
    poll at that place, and for other numbers it is refused. -/
structure ByNumber (db : Database) (pollId : Int64) (shown : List (ℕ × String)) : Prop where
  counts : ∀ (c : Client Key32) (pid opt : List Char) (number : Int64), parseI64 pid = some pollId →
    parseI64 opt = some number → ∀ (i n : ℕ) (text : String), shown[i]? = some (n, text) →
    number.toInt = n →
      ∃ (o : ℤ × PollOptionRow) (k : ℕ), (optionsOf db pollId.toInt)[i]? = some o ∧ o.2.optionText = text ∧
        typedVote c db pid opt = some (.ok (.ok ()), withVote db pollId.toInt c.userId o.1, k)
  refuses : ∀ (c : Client Key32) (pid opt : List Char) (number : Int64),
    parseI64 pid = some pollId → parseI64 opt = some number →
      (∀ m ∈ shown, (m.1 : ℤ) ≠ number.toInt) →
        ∃ msg k, typedVote c db pid opt = some (.ok (.error msg), db, k)

theorem mapIdx_map {α β γ : Type} (f : α → β) (g : ℕ → β → γ) (l : List α) :
    (l.map f).mapIdx g = l.mapIdx fun i a => g i (f a) :=
  List.ext_getElem (by simp) (by simp)

theorem shownOptions_poll (pollId : Int64) (question : String) (options : List String) :
    shownOptions (pollPayload pollId question options) =
      options.mapIdx fun i text => (i + 1, text) := by
  have hindex : (pollPayload pollId question options).index "options" =
      (vec string).encode options := by
    unfold pollPayload index
    rw [get_obj]
    rfl
  unfold shownOptions
  rw [hindex]
  show (options.map string.encode).mapIdx _ = _
  rw [mapIdx_map]
  rfl

theorem typedVote_eq (c : Client Key32) (db : Database) {pid opt : List Char} {p n : Int64}
    (hp : parseI64 pid = some p) (hn : parseI64 opt = some n) :
    typedVote c db pid opt = some (votePoll p.toInt c.userId n.toInt Auto.faultless db 0) := by
  unfold typedVote
  rw [pollCommand_vote hp hn]
  rfl

/-! ## The ids of options -/

/-- How many options a call has inserted. -/
def optionCount : List PollEvent → ℕ
  | [] => 0
  | .created _ _ _ texts :: log => texts.length + optionCount log
  | _ :: log => optionCount log

theorem optionCount_append (log more : List PollEvent) :
    optionCount (log ++ more) = optionCount log + optionCount more := by
  induction log with
  | nil => exact (Nat.zero_add _).symm
  | cons event log ih =>
    cases event with
    | created p c q texts =>
      show texts.length + optionCount (log ++ more) = texts.length + optionCount log + _
      omega
    | voted p u o => exact ih
    | closed p => exact ih

/-- The options of a poll, of which the first one has the id `first`. -/
def optionRows (first p : ℤ) (texts : List String) : List (ℤ × PollOptionRow) :=
  texts.mapIdx fun i text => (first + (i : ℤ), ⟨p, text⟩)

/-- **The ids of options go on from poll to poll.** -/
structure Numbered (run : PollRun) : Prop where
  lastId : run.db.pollOptions.lastId = optionCount run.log
  rows : ∀ before p creator question texts after,
    run.log = before ++ .created p creator question texts :: after →
      optionsOf run.db p = optionRows (optionCount before + 1) p texts

theorem optionsOf_created {db : Database}
    (hbound : ∀ r ∈ db.pollOptions.rows, r.2.pollId ≤ db.polls.lastId) (creator question : String)
    (texts : List String) :
    optionsOf (withPoll db creator question texts) (db.polls.lastId + 1) =
      optionRows (db.pollOptions.lastId + 1) (db.polls.lastId + 1) texts := by
  unfold optionsOf withPoll AutoTable.select optionRows
  dsimp only
  rw [AutoTable.rows_insertAll_mapIdx, List.filter_append, mapIdx_map]
  have hold : db.pollOptions.rows.filter (fun r => r.2.pollId == db.polls.lastId + 1) = [] := by
    rw [List.filter_eq_nil_iff]
    intro r hr
    have hle := hbound r hr
    rw [beq_iff_eq]
    omega
  rw [hold, List.nil_append, List.filter_eq_self]
  intro r hr
  obtain ⟨i, hi, rfl⟩ := List.mem_mapIdx.mp hr
  exact beq_self_eq_true _

/-- A call that creates no poll. -/
theorem Numbered.other {run : PollRun} (h : Numbered run) {db : Database} {event : PollEvent}
    (hdb : db.pollOptions = run.db.pollOptions) (hcount : optionCount [event] = 0)
    (hevent : ∀ p c q t, event ≠ .created p c q t) : Numbered ⟨db, run.log ++ [event]⟩ where
  lastId := by
    show db.pollOptions.lastId = optionCount (run.log ++ [event])
    rw [hdb, h.lastId, optionCount_append, hcount]
    rfl
  rows before p c q texts after hlog := by
    rcases split_snoc hlog with ⟨_, _, he⟩ | ⟨after', _, hlog⟩
    · exact absurd he (hevent p c q texts)
    · have hrows := h.rows before p c q texts after' hlog
      unfold optionsOf at hrows ⊢
      rw [hdb]
      exact hrows

theorem Numbered.create {run : PollRun} (h : Numbered run) (hcounted : Counted run)
    (creator question : String) (texts : List String) :
    Numbered ⟨withPoll run.db creator question texts,
      run.log ++ [.created (run.db.polls.lastId + 1) creator question texts]⟩ where
  lastId := by
    show (run.db.pollOptions.insertAll _).lastId = ((optionCount (run.log ++ [_]) : ℕ) : ℤ)
    rw [AutoTable.lastId_insertAll, List.length_map, h.lastId, optionCount_append]
    show _ = ((optionCount run.log + (texts.length + 0) : ℕ) : ℤ)
    omega
  rows before p c q ts after hlog := by
    rcases split_snoc hlog with ⟨_, hfront, he⟩ | ⟨after', _, hlog⟩
    · injection he with hp hc hq ht
      rw [← hp, ← ht, ← hfront, ← h.lastId]
      exact optionsOf_created hcounted.options creator question texts
    · have hold : p ≠ run.db.polls.lastId + 1 := by
        rintro rfl
        obtain ⟨poll, hpoll⟩ := hcounted.get?_of_created
          ⟨c, q, ts, hlog ▸ List.mem_append_right before List.mem_cons_self⟩
        have hnone : run.db.polls.get? (run.db.polls.lastId + 1) = none :=
          AutoTable.get?_eq_none (Int.lt_add_one_iff.mpr (Int.le_refl _))
        rw [hnone] at hpoll
        cases hpoll
      show optionsOf (withPoll run.db creator question texts) p = _
      rw [optionsOf_withPoll_of_ne hold]
      exact h.rows before p c q ts after' hlog

theorem numbered_run (calls : List PollCall) : Numbered (PollRun.start.run calls) := by
  induction calls using List.reverseRecOn with
  | nil => exact ⟨rfl, fun before p c q texts after hlog => by cases before <;> cases hlog⟩
  | append_singleton calls call ih =>
    have hrun : PollRun.start.run (calls ++ [call]) = (PollRun.start.run calls).step call := by
      unfold PollRun.run
      rw [List.foldl_append]
      rfl
    have hcounted := PollRun.run_counted counted_start calls
    rw [hrun]
    rcases (PollRun.start.run calls).step_cases call with
      ⟨c, q, t, he⟩ | ⟨p, u, o, _, he⟩ | ⟨p, poll, _, he⟩ | he
    · rw [he]
      exact ih.create hcounted c q t
    · rw [he]
      exact ih.other rfl rfl (fun _ _ _ _ => nofun)
    · rw [he]
      exact ih.other rfl rfl (fun _ _ _ _ => nofun)
    · rw [he]
      exact ih

/-! ## Which polls are voted on by number -/

/-- Votes on an open poll go to the options with their ids. -/
theorem canVote_iff {run : PollRun} (hcounted : Counted run) {first p : ℤ}
    {creator question : String} {texts : List String}
    (hcreated : .created p creator question texts ∈ run.log) (hopen : .closed p ∉ run.log)
    (hrows : optionsOf run.db p = optionRows first p texts) (o : ℤ) :
    CanVote run.db p o ↔ ∃ i : ℕ, i < texts.length ∧ first + (i : ℤ) = o := by
  obtain ⟨⟨poll, hpoll, -, -, hactive⟩, -⟩ := hcounted.created p creator question texts hcreated
  unfold CanVote
  rw [hrows]
  unfold optionRows
  refine ⟨fun ⟨_, row, hrow, hid⟩ => ?_, fun ⟨i, hi, hid⟩ => ⟨⟨poll, hpoll, hactive.mpr hopen⟩, ?_⟩⟩
  · obtain ⟨i, hi, rfl⟩ := List.mem_mapIdx.mp hrow
    exact ⟨i, hi, hid⟩
  · exact ⟨_, List.mem_mapIdx.mpr ⟨i, hi, rfl⟩, hid⟩

/-- **Votes by the numbers shown.** After any run of calls, for a poll that is not closed: voting
    for the numbers that are shown records votes for the options shown, and other numbers are
    refused, exactly if no option was inserted before the poll's own or it has none. -/
theorem poll_numbers_iff (calls : List PollCall) (p : Int64) {before after : List PollEvent}
    {creator question : String} {texts : List String}
    (hlog : (PollRun.start.run calls).log =
      before ++ .created p.toInt creator question texts :: after)
    (hopen : .closed p.toInt ∉ (PollRun.start.run calls).log) :
    ByNumber (PollRun.start.run calls).db p (shownOptions (pollPayload p question texts)) ↔
      optionCount before = 0 ∨ texts = [] := by
  set run := PollRun.start.run calls
  have hcounted : Counted run := PollRun.run_counted counted_start calls
  have hrows := (numbered_run calls).rows before p.toInt creator question texts after hlog
  have hcreated : .created p.toInt creator question texts ∈ run.log :=
    hlog ▸ List.mem_append_right before List.mem_cons_self
  have hcan := canVote_iff hcounted hcreated hopen hrows
  rw [shownOptions_poll]
  refine ⟨fun h => ?_, fun h => ⟨fun c pid opt number hpid hopt i n text hshown hnumber => ?_,
    fun c pid opt number hpid hopt hnone => ?_⟩⟩
  · by_contra hboth
    rw [not_or] at hboth
    obtain ⟨text, rest, htexts⟩ := List.exists_cons_of_ne_nil hboth.2
    -- the poll's first option is shown under 1, and no option of it has that id
    obtain ⟨pid, hpid⟩ := exists_text p
    obtain ⟨opt, hopt⟩ := exists_text 1
    have hshown : (texts.mapIdx fun i text => (i + 1, text))[0]? = some (1, text) := by
      rw [htexts]
      simp
    obtain ⟨o, k, _, _, hvote⟩ := h.counts lonelyClient pid opt 1 hpid hopt 0 1 text hshown rfl
    rw [typedVote_eq _ _ hpid hopt] at hvote
    rcases votePoll_faultless p.toInt lonelyClient.userId (1 : Int64).toInt run.db with
      ⟨hyes, _⟩ | ⟨_, msg, k', hno⟩
    · obtain ⟨i, _, hid⟩ := (hcan _).mp hyes
      have hone : (1 : Int64).toInt = 1 := rfl
      omega
    · have hsame := Option.some.inj hvote
      rw [hno] at hsame
      cases hsame
  · -- the option shown under a number has that number for its id
    rw [List.getElem?_mapIdx] at hshown
    obtain ⟨text', htext, heq⟩ := Option.map_eq_some_iff.mp hshown
    obtain ⟨hn, rfl⟩ := Prod.mk.inj heq
    have hi : i < texts.length := (List.getElem?_eq_some_iff.mp htext).1
    have hzero : optionCount before = 0 := by
      refine h.resolve_right fun hnil => ?_
      rw [hnil] at hi
      exact absurd hi (Nat.not_lt_zero i)
    have hid : ((optionCount before : ℕ) : ℤ) + 1 + (i : ℤ) = number.toInt := by omega
    rw [typedVote_eq _ _ hpid hopt]
    rcases votePoll_faultless p.toInt c.userId number.toInt run.db with ⟨_, k, hok⟩ | ⟨hno, _⟩
    · refine ⟨(number.toInt, ⟨p.toInt, text'⟩), k, ?_, rfl, by rw [hok]⟩
      rw [hrows, ← hid]
      unfold optionRows
      rw [List.getElem?_mapIdx, htext]
      rfl
    · exact absurd ((hcan _).mpr ⟨i, hi, hid⟩) hno
  · rw [typedVote_eq _ _ hpid hopt]
    rcases votePoll_faultless p.toInt c.userId number.toInt run.db with ⟨hyes, _⟩ | ⟨_, msg, k, hno⟩
    · obtain ⟨i, hi, hid⟩ := (hcan _).mp hyes
      have hzero : optionCount before = 0 := by
        refine h.resolve_right fun hnil => ?_
        rw [hnil] at hi
        exact absurd hi (Nat.not_lt_zero i)
      refine absurd ?_ (hnone _ (List.mem_mapIdx.mpr ⟨i, hi, rfl⟩))
      show ((i + 1 : ℕ) : ℤ) = number.toInt
      omega
    · exact ⟨msg, k, by rw [hno]⟩

/-! ## Two polls -/

/-- Two polls, one after the other. -/
def twoPolls : List PollCall :=
  [.create "alice" "Lunch?" ["yes", "no"], .create "bob" "Color?" ["red", "blue"]]

theorem log_twoPolls : (PollRun.start.run twoPolls).log =
    [.created 1 "alice" "Lunch?" ["yes", "no"], .created 2 "bob" "Color?" ["red", "blue"]] := rfl

theorem poll_numbers_first : ByNumber (PollRun.start.run twoPolls).db 1
    (shownOptions (pollPayload 1 "Lunch?" ["yes", "no"])) := by
  have hlog : (PollRun.start.run twoPolls).log =
      [] ++ .created (1 : Int64).toInt "alice" "Lunch?" ["yes", "no"] ::
        [.created 2 "bob" "Color?" ["red", "blue"]] := log_twoPolls
  exact (poll_numbers_iff twoPolls 1 hlog (by rw [log_twoPolls]; decide)).mpr (.inl rfl)

/-- The second poll's options are shown as 1 and 2, and a vote for 1 is refused. -/
theorem second_poll_unvoted :
    shownOptions (pollPayload 2 "Color?" ["red", "blue"]) = [(1, "red"), (2, "blue")] ∧
      typedVote lonelyClient (PollRun.start.run twoPolls).db "2".toList "1".toList =
        some (.ok (.error "Option not found"), (PollRun.start.run twoPolls).db, 2) ∧
      ¬ ByNumber (PollRun.start.run twoPolls).db 2
        (shownOptions (pollPayload 2 "Color?" ["red", "blue"])) := by
  have hpid : parseI64 "2".toList = some 2 := by decide
  have hopt : parseI64 "1".toList = some 1 := by decide
  have hshown := shownOptions_poll 2 "Color?" ["red", "blue"]
  have hrefused : typedVote lonelyClient (PollRun.start.run twoPolls).db "2".toList "1".toList =
      some (.ok (.error "Option not found"), (PollRun.start.run twoPolls).db, 2) := by
    rw [typedVote_eq _ _ hpid hopt]
    rfl
  refine ⟨hshown, hrefused, fun h => ?_⟩
  obtain ⟨o, k, _, _, hvote⟩ := h.counts lonelyClient _ _ 1 hpid hopt 0 1 "red"
    (by rw [hshown]; rfl) rfl
  rw [hrefused] at hvote
  cases hvote

end TinTin.Apps
