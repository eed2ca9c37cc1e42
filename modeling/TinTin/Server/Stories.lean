/-
  The stories that are shown (`set_status`, `clear_status`, `get_active_statuses`).

  A `Diary` is the database with the calls that have succeeded so far, any statement of which may
  fail. The rows of `statuses` are the map from a user to its last story (`Diary.holds_run`).

  * `mem_shown_iff`: the rows behind the cutoff, with an unsigned subtraction and a cast to a signed
    number.
  * `active_statuses`: after any run under a clock that does not go back, the stories of the last
    day, from the newest to the oldest.
-/
import TinTin.Lib.Keyed
import TinTin.Server.Store

namespace TinTin.Server

open TinTin.Lib

/-! ## Runs -/

/-- A reading of the clock: the seconds since the epoch of a `SystemTime`, which holds them in an
    `i64`. -/
structure Reading where
  secs : UInt64
  inRange : secs.toNat < 2 ^ 63

/-- A call that changes a story. -/
inductive StoryCall
  | setStatus (now : Reading) (userId content : String)
  | clearStatus (userId : String)

/-- The reading that a call takes. -/
def StoryCall.reading? : StoryCall → Option Reading
  | .setStatus now _ _ => some now
  | .clearStatus _ => none

/-- The call of the store. -/
def StoryCall.exec : StoryCall → StoreM Unit
  | .setStatus now userId content => do
    let _ ← Server.setStatus now.secs userId content
    return ()
  | .clearStatus userId => Server.clearStatus userId

/-- The database, and the calls so far that have returned `Ok`. -/
structure Diary where
  db : Database
  done : List StoryCall

namespace Diary

def start : Diary := ⟨.empty, []⟩

def step (s : Diary) (a : StoryCall × Faults DbError) : Diary :=
  let (r, db, _) := a.1.exec a.2 s.db 0
  ⟨db, if r.isOk then s.done ++ [a.1] else s.done⟩

def run (calls : List (StoryCall × Faults DbError)) : Diary := calls.foldl step start

theorem run_snoc (calls : List (StoryCall × Faults DbError)) (a : StoryCall × Faults DbError) :
    run (calls ++ [a]) = (run calls).step a := by
  unfold run
  rw [List.foldl_append]
  rfl

end Diary

/-- The readings of a run, in order. -/
def readings (calls : List (StoryCall × Faults DbError)) : List Reading :=
  calls.filterMap (·.1.reading?)

/-- **A clock that does not go back**, from one day after the epoch on. -/
structure Clock (readings : List Reading) : Prop where
  rises : readings.Pairwise fun a b => a.secs ≤ b.secs
  day : ∀ a ∈ readings, 86400 ≤ a.secs

/-- The story of the user is the one it has set last, and not cleared since: it is `content`, set
    at `now`. -/
def IsStory (done : List StoryCall) (userId content : String) (now : Reading) : Prop :=
  ∃ before since, done = before ++ .setStatus now userId content :: since ∧
    ∀ call ∈ since, call ≠ .clearStatus userId ∧
      ∀ now' content', call ≠ .setStatus now' userId content'

/-! ## The table -/

/-- The row of a story. -/
def storyRow (now : Reading) (userId content : String) : StatusRow :=
  ⟨userId, content, now.secs.toNat⟩

/-- What a call does to the last stories. -/
def StoryCall.edit : StoryCall → Edit StatusRow String
  | .setStatus now userId content => .put (storyRow now userId content)
  | .clearStatus userId => .drop userId

/-- A call does to the table what it does to the last stories, or nothing. -/
theorem StoryCall.exec_cases (call : StoryCall) (faults : Faults DbError) (db : Database) :
    (∃ e n, call.exec faults db 0 = (.error e, db, n)) ∨
      ∃ db' n, call.exec faults db 0 = (.ok (), db', n) ∧
        ∀ m, Holds StatusRow.userId db.statuses m →
          Holds StatusRow.userId db'.statuses (call.edit.apply StatusRow.userId m) := by
  cases call with
  | setStatus now userId content =>
    cases h : faults 0 with
    | some e =>
      exact Or.inl ⟨e, 1, Auto.run_bind_error (Auto.run_bind_error (Auto.run_exec_fault h))⟩
    | none =>
      have hstatus : Server.setStatus now.secs userId content faults db 0 =
          (.ok now.secs, { db with
            statuses := db.statuses.filter (fun r => !(r.userId == userId)) ++
              [storyRow now userId content] }, 1) :=
        Auto.run_bind_ok (Auto.run_exec_ok h rfl)
      exact Or.inr ⟨_, 1, Auto.run_bind_ok hstatus, fun m hm => hm.put (storyRow now userId content)⟩
  | clearStatus userId =>
    cases h : faults 0 with
    | some e =>
      have hrun : Server.clearStatus userId faults db 0 = (.error e, db, 1) := Auto.run_exec_fault h
      exact Or.inl ⟨e, 1, hrun⟩
    | none =>
      have hrun : Server.clearStatus userId faults db 0 =
          (.ok (), { db with statuses := db.statuses.filter fun r => !(r.userId == userId) }, 1) :=
        Auto.run_exec_ok h rfl
      exact Or.inr ⟨_, 1, hrun, fun m hm => hm.drop userId⟩

/-- **Along a run** the rows of the table are the last stories. -/
theorem Diary.holds_run (calls : List (StoryCall × Faults DbError)) :
    Holds StatusRow.userId (Diary.run calls).db.statuses
      (content StatusRow.userId ((Diary.run calls).done.map StoryCall.edit)) := by
  induction calls using List.reverseRecOn with
  | nil => exact .nil
  | append_singleton calls a ih =>
    rw [Diary.run_snoc]
    unfold Diary.step
    rcases a.1.exec_cases a.2 (Diary.run calls).db with ⟨e, n, hrun⟩ | ⟨db', n, hrun, hholds⟩
    · rw [hrun]
      exact ih
    · rw [hrun]
      show Holds _ _ (content _ (((Diary.run calls).done ++ [a.1]).map StoryCall.edit))
      rw [List.map_append, List.map_singleton, content_snoc]
      exact hholds _ ih

/-- A call settles the story of the user it names. -/
theorem StoryCall.settles_iff {call : StoryCall} {userId : String} :
    ¬ call.edit.Settles StatusRow.userId userId ↔ call ≠ .clearStatus userId ∧
      ∀ now content, call ≠ .setStatus now userId content := by
  cases call with
  | setStatus now u content => simp [StoryCall.edit, Edit.Settles, storyRow]
  | clearStatus u => simp [StoryCall.edit, Edit.Settles]

theorem StoryCall.alteration_eq (call : StoryCall) (userId : String) :
    call.edit.alteration userId = id := by
  cases call with
  | setStatus now u content => rfl
  | clearStatus u => rfl

/-- **What is in the table**: the last stories. -/
theorem mem_statuses_iff {calls : List (StoryCall × Faults DbError)} {r : StatusRow} :
    r ∈ (Diary.run calls).db.statuses ↔ ∃ userId content now,
      IsStory (Diary.run calls).done userId content now ∧ storyRow now userId content = r := by
  rw [(Diary.holds_run calls).mem_iff, content_eq_some_iff]
  constructor
  · rintro ⟨before, r₀, since, hmap, hkey, hsince, haltered⟩
    obtain ⟨before, rest, hdone, rfl, hrest⟩ := List.map_eq_append_iff.mp hmap
    obtain ⟨call, since, rfl, hcall, rfl⟩ := List.map_eq_cons_iff.mp hrest
    have hsame : altered r.userId (since.map StoryCall.edit) r₀ = r₀ := by
      refine altered_of_forall (fun e he => ?_) r₀
      obtain ⟨call, -, rfl⟩ := List.mem_map.mp he
      exact call.alteration_eq r.userId
    rw [hsame] at haltered
    subst haltered
    cases call with
    | clearStatus userId => cases hcall
    | setStatus now userId content =>
      cases hcall
      refine ⟨userId, content, now, ⟨before, since, hdone, fun call hcall => ?_⟩, rfl⟩
      exact StoryCall.settles_iff.mp (hsince _ (List.mem_map_of_mem hcall))
  · rintro ⟨userId, content, now, ⟨before, since, hdone, hsince⟩, rfl⟩
    refine ⟨before.map StoryCall.edit, storyRow now userId content, since.map StoryCall.edit, ?_,
      rfl, fun e he => ?_, altered_of_forall (fun e he => ?_) _⟩
    · rw [hdone, List.map_append, List.map_cons]
      rfl
    · obtain ⟨call, hcall, rfl⟩ := List.mem_map.mp he
      exact StoryCall.settles_iff.mpr (hsince call hcall)
    · obtain ⟨call, -, rfl⟩ := List.mem_map.mp he
      exact call.alteration_eq _

/-- A call that has succeeded is one of the run. -/
theorem mem_readings_of_done {calls : List (StoryCall × Faults DbError)} {now : Reading}
    {userId content : String} (h : .setStatus now userId content ∈ (Diary.run calls).done) :
    now ∈ readings calls := by
  induction calls using List.reverseRecOn with
  | nil => cases h
  | append_singleton calls a ih =>
    unfold readings
    rw [List.filterMap_append]
    rw [Diary.run_snoc] at h
    unfold Diary.step at h
    rcases hrun : a.1.exec a.2 (Diary.run calls).db 0 with ⟨_ | _, db, n⟩
    · rw [hrun] at h
      exact List.mem_append_left _ (ih h)
    · rw [hrun] at h
      have h : StoryCall.setStatus now userId content ∈ (Diary.run calls).done ++ [a.1] := h
      rcases List.mem_append.mp h with h | h
      · exact List.mem_append_left _ (ih h)
      · refine List.mem_append_right _ (List.mem_filterMap.mpr ⟨a, List.mem_singleton.mpr rfl, ?_⟩)
        rw [← List.mem_singleton.mp h]
        rfl

/-! ## What is shown -/

/-- A day before a reading, as the query gets it. -/
theorem cutoff_eq {t : Reading} (ht : 86400 ≤ t.secs) :
    (t.secs - 86400).toInt64.toInt = (t.secs.toNat : ℤ) - 86400 := by
  have hday : 86400 ≤ t.secs.toNat := UInt64.le_iff_toNat_le.mp ht
  have hsub : (t.secs - 86400).toNat = t.secs.toNat - 86400 := UInt64.toNat_sub_of_le _ _ ht
  have hrange : 2 * (t.secs - 86400).toBitVec.toNat < 2 ^ 64 := by
    have := t.inRange
    rw [UInt64.toNat_toBitVec, hsub]
    omega
  have hcast : (t.secs - 86400).toInt64.toInt = ((t.secs - 86400).toNat : ℤ) :=
    BitVec.toInt_eq_toNat_of_lt hrange
  rw [hcast, hsub]
  omega

/-- The rows that the query returns. -/
def shown (db : Database) (t : Reading) : List StatusRow :=
  orderByDesc (·.createdAt) (db.statuses.filter fun r =>
    decide ((t.secs.toNat : ℤ) - 86400 < r.createdAt))

theorem getActiveStatuses_eq (db : Database) {t : Reading} (ht : 86400 ≤ t.secs) :
    getActiveStatuses t.secs Auto.faultless db 0 = (.ok (shown db t), db, 1) := by
  unfold getActiveStatuses shown
  rw [cutoff_eq ht]
  rfl

theorem mem_shown_iff {db : Database} {t : Reading} {r : StatusRow} :
    r ∈ shown db t ↔ r ∈ db.statuses ∧ (t.secs.toNat : ℤ) - 86400 < r.createdAt := by
  unfold shown orderByDesc
  rw [List.mem_insertionSort, List.mem_filter, decide_eq_true_iff]

theorem pairwise_shown (db : Database) (t : Reading) :
    (shown db t).Pairwise fun a b => b.createdAt ≤ a.createdAt := by
  have : Std.Total fun a b : StatusRow => b.createdAt ≤ a.createdAt :=
    ⟨fun a b => Int.le_total b.createdAt a.createdAt⟩
  have : IsTrans StatusRow fun a b => b.createdAt ≤ a.createdAt :=
    ⟨fun a b c hab hbc => Int.le_trans hbc hab⟩
  exact List.pairwise_insertionSort _ _

theorem nodup_shown {db : Database} (h : (db.statuses.map StatusRow.userId).Nodup) (t : Reading) :
    ((shown db t).map StatusRow.userId).Nodup := by
  have hperm : (shown db t).Perm (db.statuses.filter _) := List.perm_insertionSort _ _
  rw [(hperm.map StatusRow.userId).nodup_iff]
  exact (List.filter_sublist.map _).nodup h

/-- **Stories of the last day.** After any run of `set_status` and `clear_status`, any call of which
    may fail, under a clock that does not go back, `get_active_statuses` at `t` returns exactly the
    stories, each the one that its user has set last and not cleared since, that were set after
    `t - 86400` and not after `t`: one entry for a user, with the content and the time it was set,
    from the newest to the oldest. -/
theorem active_statuses (calls : List (StoryCall × Faults DbError)) (t : Reading)
    (h : Clock (readings calls ++ [t])) :
    ∃ entries, getActiveStatuses t.secs Auto.faultless (Diary.run calls).db 0 =
        (.ok entries, (Diary.run calls).db, 1) ∧
      (∀ r, r ∈ entries ↔ ∃ userId content now,
        IsStory (Diary.run calls).done userId content now ∧
          (t.secs.toNat : ℤ) - 86400 < now.secs.toNat ∧ now.secs ≤ t.secs ∧
            r = ⟨userId, content, now.secs.toNat⟩) ∧
      (entries.map StatusRow.userId).Nodup ∧
      entries.Pairwise fun a b => b.createdAt ≤ a.createdAt := by
  have hday : 86400 ≤ t.secs := h.day t (List.mem_append_right _ (List.mem_singleton.mpr rfl))
  have hpast : ∀ {userId content now}, IsStory (Diary.run calls).done userId content now →
      now.secs ≤ t.secs := by
    rintro userId content now ⟨before, since, hdone, -⟩
    have hmem : StoryCall.setStatus now userId content ∈ (Diary.run calls).done := by
      rw [hdone]
      exact List.mem_append_right _ List.mem_cons_self
    exact (List.pairwise_append.mp h.rises).2.2 now (mem_readings_of_done hmem) t
      (List.mem_singleton.mpr rfl)
  refine ⟨shown (Diary.run calls).db t, getActiveStatuses_eq _ hday, fun r => ?_,
    nodup_shown (Diary.holds_run calls).nodup t, pairwise_shown _ t⟩
  rw [mem_shown_iff, mem_statuses_iff]
  constructor
  · rintro ⟨⟨userId, content, now, hstory, rfl⟩, hnew⟩
    exact ⟨userId, content, now, hstory, hnew, hpast hstory, rfl⟩
  · rintro ⟨userId, content, now, hstory, hnew, -, rfl⟩
    exact ⟨⟨userId, content, now, hstory, rfl⟩, hnew⟩

theorem inRange_morning : (100000 : UInt64).toNat < 2 ^ 63 := by decide

theorem inRange_evening : (150000 : UInt64).toNat < 2 ^ 63 := by decide

def morning : Reading := ⟨100000, inRange_morning⟩

def evening : Reading := ⟨150000, inRange_evening⟩

/-- Bob's story is cleared, Alice's is not. -/
def twoStories : List (StoryCall × Faults DbError) :=
  [(.setStatus morning "alice" "hello", Auto.faultless),
    (.setStatus morning "bob" "good morning", Auto.faultless),
    (.clearStatus "bob", Auto.faultless)]

theorem clock_twoStories : Clock (readings twoStories ++ [evening]) := by
  have hreadings : readings twoStories ++ [evening] = [morning, morning, evening] := rfl
  rw [hreadings]
  refine ⟨?_, ?_⟩
  · simp only [List.pairwise_cons, List.mem_cons, List.not_mem_nil, or_false, forall_eq_or_imp,
      forall_eq, List.Pairwise.nil, and_true, false_imp_iff, implies_true]
    decide
  · simp only [List.mem_cons, List.not_mem_nil, or_false, forall_eq_or_imp, forall_eq]
    decide

/-- In the evening, Alice's story is among those that are shown. -/
theorem active_statuses_evening :
    Clock (readings twoStories ++ [evening]) ∧
      ∃ entries, getActiveStatuses evening.secs Auto.faultless (Diary.run twoStories).db 0 =
          (.ok entries, (Diary.run twoStories).db, 1) ∧
        ⟨"alice", "hello", 100000⟩ ∈ entries := by
  obtain ⟨entries, hrun, hmem, -⟩ := active_statuses twoStories evening clock_twoStories
  refine ⟨clock_twoStories, entries, hrun, (hmem _).mpr ?_⟩
  refine ⟨"alice", "hello", morning, ⟨[], [.setStatus morning "bob" "good morning",
    .clearStatus "bob"], rfl, ?_⟩, ?_, ?_, rfl⟩
  · simp
  · decide
  · decide

end TinTin.Server
