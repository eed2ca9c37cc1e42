/-
  Commands that the relay refuses leave no trace.

  * `handle_clean`: without database errors a handler's call that ends in an `"error"` has changed
    nothing, but for `delete_post`, which removes the comments before it looks for the post.
  * `refused_leave_no_trace`: so whatever interleaving the handlers ran in, the database and the
    other answers are those of the commands that were not refused, one after the other.
-/
import TinTin.Server.Groups
import TinTin.Server.Ownership
import TinTin.Server.Serial
import TinTin.Server.Tally

namespace TinTin.Server.Service

open TinTin.Lib TinTin.Core TinTin.Cli

variable {T : Texts} {world : Ambient} {db db' : Database}

def ServerResponse.refused (r : ServerResponse) : Bool := r.status == "error"

/-- Without database errors the call of the store ends in an `"error"` only if it has changed
    nothing. -/
def StoreCall.Clean (c : StoreCall) (db : Database) (n : ℕ) : Prop :=
  ∀ r db' n', c.run Auto.faultless db n = (.inr r, db', n') → r.refused = true → db' = db

/-! ## Handlers -/

/-- A handler that refuses only what the store does. -/
theorem clean_of_error {c : StoreCall} {n : ℕ}
    (hok : ∀ a r, c.next (.ok a) = .inr r → r.refused = false)
    (h : ∀ e db' n', c.op Auto.faultless db n = (.error e, db', n') → db' = db) :
    c.Clean db n := by
  intro r db' n' hrun hrefused
  unfold StoreCall.run at hrun
  rcases hop : c.op Auto.faultless db n with ⟨e | a, db₁, n₁⟩
  · rw [hop] at hrun
    obtain ⟨-, hrest⟩ := Prod.mk.inj hrun
    cases hrest
    exact h e _ _ hop
  · rw [hop] at hrun
    obtain ⟨hnext, -⟩ := Prod.mk.inj hrun
    rw [hok a r hnext] at hrefused
    cases hrefused

theorem answer_clean {α : Type} {op : StoreM α} {data : α → Option Json} {n : ℕ}
    (h : ∀ e db' n', op Auto.faultless db n = (.error e, db', n') → db' = db) :
    (answer T op data).Clean db n :=
  clean_of_error (fun a r hr => by cases hr; rfl) h

/-- A statement that fails has changed nothing. -/
theorem exec_error {α : Type} {stmt : Statement α} {n n' : ℕ} {e : DbError}
    (h : (Auto.exec stmt : StoreM α) Auto.faultless db n = (.error e, db', n')) : db' = db := by
  rcases Auto.run_exec_cases stmt Auto.faultless db n with ⟨e', he⟩ | ⟨a, db₁, -, hok⟩
  · rw [he] at h
    cases h
    rfl
  · rw [hok] at h
    cases h

theorem exec_clean {α : Type} (stmt : Statement α) (data : α → Option Json) (n : ℕ) :
    (answer T (.exec stmt) data).Clean db n :=
  answer_clean fun _ _ _ => exec_error

/-- A program that returns. -/
theorem ok_clean {α : Type} {op : StoreM α} (data : α → Option Json) {n : ℕ}
    (h : ∃ a db' n', op Auto.faultless db n = (.ok a, db', n')) :
    (answer T op data).Clean db n := by
  obtain ⟨a, db₁, n₁, hok⟩ := h
  refine answer_clean fun e db' n' herror => ?_
  rw [hok] at herror
  cases herror

/-- A program of queries. -/
theorem read_clean {c : StoreCall} {n : ℕ}
    (h : ∀ R : Database → Database → Prop, Auto.Moves R c.op db) : c.Clean db n := by
  intro r db' n' hrun _
  have hsame := (h fun _ _ => False).keeps (P := (· = db)) (fun _ _ h => h.elim) rfl
    Auto.faultless n
  obtain ⟨-, hrest⟩ := Prod.mk.inj hrun
  obtain ⟨hdb, -⟩ := Prod.mk.inj hrest
  exact hdb.symm.trans hsame

theorem createGroup_clean (h : db.Integrity) (groupId name creator : String)
    (data : String → Option Json) : (answer T (createGroup groupId name creator) data).Clean db 0 := by
  refine answer_clean fun e db' n' herror => ?_
  have hcall : (Server.Handler.createGroup groupId name creator).call db =
      (.inr (.databaseError e), db') := by
    unfold Handler.call
    dsimp only
    rw [herror]
  by_cases hthere : HasGroup db groupId
  · rw [call_createGroup_taken hthere] at hcall
    cases hcall
    rfl
  · have hfree : roleOf db groupId creator = none := by
      rw [← Option.not_isSome_iff_eq_none, ← any_members]
      intro hany
      obtain ⟨m, hm, hboth⟩ := List.any_eq_true.mp hany
      have hid : m.groupId = groupId ∧ m.userId = creator := by simpa using hboth
      obtain ⟨g, hg, heq⟩ := h.members m hm
      exact hthere (any_groups.mp (List.any_eq_true.mpr ⟨g, hg, by simp [heq, hid.1]⟩))
    rw [call_createGroup_free hthere hfree] at hcall
    cases hcall

theorem votePoll_clean (cmd : VotePollCmd) : (handleVotePoll T cmd).Clean db 0 := by
  intro r db' n' hrun hrefused
  unfold handleVotePoll StoreCall.run at hrun
  dsimp only at hrun
  rcases votePoll_faultless cmd.pollId.toInt cmd.userId cmd.optionId.toInt db with
    ⟨-, n, hok⟩ | ⟨-, text, n, hrejected⟩
  · rw [hok] at hrun
    cases hrun
    cases hrefused
  · rw [hrejected] at hrun
    cases hrun
    rfl

theorem closePoll_clean (cmd : ClosePollCmd) : (handleClosePoll T cmd).Clean db 0 := by
  intro r db' n' hrun hrefused
  unfold handleClosePoll permitted StoreCall.run at hrun
  dsimp only at hrun
  rw [closePoll_faultless] at hrun
  cases hpoll : db.polls.get? cmd.pollId.toInt with
  | none =>
    rw [hpoll] at hrun
    cases hrun
    rfl
  | some poll =>
    rw [hpoll] at hrun
    dsimp only at hrun
    by_cases hcreator : poll.creator = cmd.userId
    · rw [if_pos hcreator] at hrun
      cases hrun
      cases hrefused
    · rw [if_neg hcreator] at hrun
      cases hrun
      rfl

/-- **A refused command has changed nothing**, whichever it is, but for `delete_post`. -/
theorem handle_clean (h : db.Integrity) {cmd : Handled} (hcmd : ∀ c, cmd ≠ .deletePost c) :
    (handle T world cmd).Clean db 0 := by
  cases cmd with
  | createGroup cmd => exact createGroup_clean h _ _ _ _
  | receive cmd =>
    obtain ⟨n, hok⟩ := fetchMessages_faultless (J := T.toRelaySerde) cmd.userId world.clock db
    exact ok_clean _ ⟨_, _, n, hok⟩
  | createPoll cmd =>
    by_cases hfew : cmd.options.length < 2
    · rw [show handle T world (.createPoll cmd) = _ from if_pos hfew]
      exact read_clean fun R => Auto.moves_pure _ db
    · rw [show handle T world (.createPoll cmd) = _ from if_neg hfew]
      obtain ⟨n, hok⟩ := createPoll_faultless cmd.creator cmd.question cmd.options db
      exact ok_clean _ ⟨_, _, n, hok⟩
  | votePoll cmd => exact votePoll_clean cmd
  | closePoll cmd => exact closePoll_clean cmd
  | deletePost cmd => exact absurd rfl (hcmd cmd)
  | setStatus cmd => exact ok_clean _ ⟨_, _, 1, rfl⟩
  | pollResults cmd =>
    refine read_clean fun R => Auto.moves_bind (Auto.moves_attempt_read rfl) fun _ _ poll db₁ _ _ => ?_
    split
    · exact Auto.moves_pure _ db₁
    · exact Auto.moves_return (Auto.moves_read rfl) _
  | fetchKeys _ | joinGroup _ =>
    exact read_clean fun R => Auto.moves_return (Auto.moves_read rfl) _
  | createChannel cmd =>
    refine clean_of_error (c := handleCreateChannel T cmd) (fun _ _ hr => nomatch hr)
      fun e db' n' h => ?_
    change Auto.exec (insertChannel cmd.name cmd.ownerId) Auto.faultless db 0 = (.error e, db', n') at h
    exact exec_error h
  | subscribeChannel cmd => exact read_clean fun R => Auto.moves_read rfl
  | register _ | send _ | leaveGroup _ | setPresence _ | clearStatus _ | unsubscribeChannel _
  | createPost _ | addComment _ | listUsers _ | myGroups _ | groupMembers _ | getStories
  | listChannels | myChannels _ | channelMembers _ | listPolls | getTimeline _ | getComments _ =>
    exact exec_clean _ _ 0

/-! ## Units -/

/-- A task that no database error meets, and that has not called the store if it has a line to
    read. -/
structure Task.Plain (t : Task) : Prop where
  faults : t.faults = Auto.faultless
  ran : ∀ line, t.stage = .command line → t.ran = 0

/-- The task takes up a `delete_post`. -/
def Task.deletes (T : Texts) (t : Task) : Bool :=
  match t.stage with
  | .command line =>
    match handleCommand T.value line with
    | .ok (.deletePost _) => true
    | _ => false
  | _ => false

theorem Task.call_goes {t t' : Task} (h : (t.call T db).1 = .inl t') :
    t'.faults = t.faults ∧ ∀ line, t'.stage ≠ .command line := by
  obtain ⟨stage, world, faults, n⟩ := t
  rcases hop : (stage.storeCall T world).op faults db n with ⟨r, db₁, n₁⟩
  have hrun : (stage.storeCall T world).run faults db n =
      ((stage.storeCall T world).next r, db₁, n₁) := by
    unfold StoreCall.run
    rw [hop]
  have hcall := Task.call_of_run (t := ⟨stage, world, faults, n⟩) hrun
  rcases @storeCall_ends T world stage r with
    ⟨line, cmd, stage', rfl, hread, hgo, hfollows⟩ | ⟨response, hend, -⟩
  · rw [hcall, hgo] at h
    cases h
    refine ⟨rfl, fun line' => ?_⟩
    cases hfollows <;> exact nofun
  · rw [hcall, hend] at h
    cases h

/-- One call of a plain task that ends in a refusal. -/
theorem Task.call_clean (hint : db.Integrity) {t : Task} (ht : t.Plain)
    (hdel : t.deletes T = false) {r : ServerResponse} (h : t.call T db = (.inr r, db'))
    (hrefused : r.refused = true) : db' = db := by
  obtain ⟨stage, world, faults, n⟩ := t
  obtain ⟨rfl, hran⟩ : faults = Auto.faultless ∧ ∀ line, stage = .command line → n = 0 :=
    ⟨ht.faults, ht.ran⟩
  have hclean : (stage.storeCall T world).Clean db n := by
    cases stage with
    | command line =>
      obtain rfl := hran line rfl
      cases hread : handleCommand T.value line with
      | error r =>
        rw [storeCall_refused hread]
        exact read_clean fun R => Auto.moves_pure _ db
      | ok cmd =>
        rw [storeCall_command hread]
        refine handle_clean hint fun c hc => ?_
        unfold Task.deletes at hdel
        dsimp only at hdel
        rw [hread, hc] at hdel
        cases hdel
    | addMember groupId userId => exact exec_clean _ _ n
    | autoSubscribe channelId ownerId =>
      intro r db' n' hrun hrefused
      obtain ⟨hnext, -⟩ := Prod.mk.inj hrun
      cases hnext
      cases hrefused
    | addSubscriber channelId userId => exact exec_clean _ _ n
  rcases hrun : (stage.storeCall T world).run Auto.faultless db n with ⟨next, db₁, n₁⟩
  rw [Task.call_of_run (t := ⟨stage, world, Auto.faultless, n⟩) hrun] at h
  obtain ⟨hnext, rfl⟩ := Prod.mk.inj h
  cases next with
  | inl stage' => cases hnext
  | inr r' =>
    cases hnext
    exact hclean r' db₁ n₁ hrun hrefused

/-- **A unit that ends in a refusal has changed nothing**, by induction on its calls. -/
theorem whole_refused {t : Task} {out : Task ⊕ ServerResponse}
    (hwhole : Calls.Whole (Task.call T) Task.begins t db out db') (hint : db.Integrity)
    (ht : t.Plain) (hdel : t.deletes T = false) {r : ServerResponse} (hout : out = .inr r)
    (hrefused : r.refused = true) : db' = db := by
  induction hwhole with
  | passOn hcall hq => cases hout
  | @finish t db₀ db₁ r' hcall =>
    cases hout
    exact Task.call_clean hint ht hdel hcall hrefused
  | @goOn t t' db₀ db₁ db₂ out hcall hq _ ih =>
    have hnext : (t.call T db₀).1 = .inl t' := by rw [hcall]
    obtain ⟨hsame, -⟩ := Task.looks hnext hq
    rw [hcall] at hsame
    obtain rfl : db₁ = db₀ := hsame
    obtain ⟨hfaults, hstage⟩ := Task.call_goes hnext
    refine ih hint ⟨hfaults.trans ht.faults, fun line h => absurd h (hstage line)⟩ ?_ hout
    unfold Task.deletes
    split
    · next line hline => exact absurd hline (hstage line)
    · rfl

/-- A unit that others follow. -/
theorem whole_passOn {t t' : Task} (hwhole : Calls.Whole (Task.call T) Task.begins t db (.inl t') db')
    (ht : t.Plain) : t'.Plain := by
  generalize hout : (.inl t' : Task ⊕ ServerResponse) = out at hwhole
  induction hwhole with
  | @passOn t t₁ db₀ db₁ hcall hq =>
    cases hout
    obtain ⟨hfaults, hstage⟩ := Task.call_goes (by rw [hcall] : (t.call T db₀).1 = .inl t')
    exact ⟨hfaults.trans ht.faults, fun line h => absurd h (hstage line)⟩
  | finish hcall => cases hout
  | @goOn t t₁ db₀ db₁ db₂ out hcall hq _ ih =>
    obtain ⟨hfaults, hstage⟩ := Task.call_goes (by rw [hcall] : (t.call T db₀).1 = .inl t₁)
    exact ih ⟨hfaults.trans ht.faults, fun line h => absurd h (hstage line)⟩ hout

/-- The statements keep the references between the tables. -/
theorem Update.integrity (h : Update db db') (hint : db.Integrity) : db'.Integrity := by
  cases h with
  | change h => exact h.integrity hint
  | addPost row => exact { hint with comments := refers_append hint.comments _ }
  | addComment row hpost => exact { hint with comments := append_refers hint.comments hpost }

theorem whole_integrity {t : Task} {out : Task ⊕ ServerResponse}
    (hwhole : Calls.Whole (Task.call T) Task.begins t db out db') (hint : db.Integrity) :
    db'.Integrity := by
  have hcalled : ∀ {t : Task} {db db' : Database} {out}, t.call T db = (out, db') →
      db.Integrity → db'.Integrity := by
    intro t db db' out hcall hint
    have hkept := t.call_keeps (T := T) (fun _ _ => Update.integrity) hint
    rw [hcall] at hkept
    exact hkept
  induction hwhole with
  | passOn hcall _ => exact hcalled hcall hint
  | finish hcall => exact hcalled hcall hint
  | goOn hcall _ _ ih => exact ih (hcalled hcall hint)

/-! ## Runs -/

/-- The entries that count: those of the commands that were not refused, and of `delete_post`. -/
def leavesTrace {ι : Type} (T : Texts) (e : Calls.Entry ι Task ServerResponse) : Bool :=
  match e.2.2 with
  | .inl _ => true
  | .inr r => !r.refused || e.2.1.deletes T

/-- **Refused commands leave no trace**: the database, and the answers to the other commands, are
    those of these commands done one after the other. -/
theorem refused_leave_no_trace {ι : Type} [DecidableEq ι] (T : Texts)
    {turns : List (Calls.Turn ι Task)} {m : Calls.Floor ι Database Task ServerResponse}
    (hrun : Runs T (.fresh .empty) turns m)
    (hplain : ∀ i, ∀ t ∈ Calls.startedIn i turns, ∃ line world,
      t = Task.of line world Auto.faultless) :
    Calls.Serial (Task.call T) Task.begins .empty (m.ended.filter (leavesTrace T)) m.state := by
  obtain ⟨hserial, hthread⟩ := serializable T hrun
  have hbegan : ∀ e ∈ m.ended, e.2.1.Plain := by
    intro e he
    have hall := (hthread e.1).forall (P := Task.Plain) ?_ ?_
    · exact hall.1 e.2 (List.mem_filterMap.mpr ⟨e, he, if_pos rfl⟩)
    · intro t ht
      obtain ⟨line, world, rfl⟩ := hplain e.1 t ht
      exact ⟨rfl, fun _ _ => rfl⟩
    · intro t t' hpass ht
      obtain ⟨e', he', heq⟩ := List.mem_filterMap.mp hpass
      obtain ⟨i, t₀, out₀⟩ := e'
      split at heq
      · obtain ⟨rfl, rfl⟩ := Prod.mk.inj (Option.some.inj heq)
        obtain ⟨db₁, db₂, hwhole⟩ := hserial.exists_step he'
        exact whole_passOn hwhole ht
      · cases heq
  refine hserial.filter (I := Database.Integrity) (fun _ _ _ hint hw => whole_integrity hw hint)
    integrity_empty fun e he hdrop db db' hint hwhole => ?_
  obtain ⟨i, t, out⟩ := e
  cases out with
  | inl t' => cases hdrop
  | inr r =>
    obtain ⟨hrefused, hdel⟩ : r.refused = true ∧ t.deletes T = false := by
      simpa [leavesTrace] using hdrop
    exact whole_refused hwhole hint (hbegan _ he) hdel rfl hrefused

/-- Bob may not close a poll that is not there, while alice creates her channel. -/
def closePollLine : String := "\x7b\"cmd\":\"close_poll\",\"poll_id\":3,\"user_id\":\"bob\"\x7d"

def refusalTexts : Texts := tableTexts [
  (createNews, .object [("cmd", .string "create_channel"), ("name", .string "news"),
    ("owner_id", .string "alice")]),
  (closePollLine, .object [("cmd", .string "close_poll"), ("poll_id", .number (.posInt 3)),
    ("user_id", .string "bob")])]

def refusalTurns : List (Calls.Turn ℕ Task) :=
  [.start 0 (.of createNews noon Auto.faultless), .call 0,
    .start 1 (.of closePollLine noon Auto.faultless), .call 1, .call 0]

theorem refusalTurns_run : ∃ m, Runs refusalTexts (.fresh .empty) refusalTurns m :=
  ⟨_, .cons (.start 0 _ rfl rfl) (.cons (.passOn 0 _ _ _ rfl rfl rfl)
    (.cons (.start 1 _ rfl rfl) (.cons (.finish 1 _ _ _ rfl rfl)
      (.cons (.finish 0 _ _ _ rfl rfl) (.nil _)))))⟩

theorem refused_leave_no_trace_poll : ∃ m, Runs refusalTexts (.fresh .empty) refusalTurns m ∧
    Calls.Serial (Task.call refusalTexts) Task.begins .empty
      (m.ended.filter (leavesTrace refusalTexts)) m.state := by
  obtain ⟨m, hrun⟩ := refusalTurns_run
  refine ⟨m, hrun, refused_leave_no_trace refusalTexts hrun fun i t ht => ?_⟩
  obtain ⟨turn, hturn, hstart⟩ := List.mem_filterMap.mp ht
  cases turn with
  | call j => cases hstart
  | start j p =>
    obtain rfl : p = t := by
      dsimp only at hstart
      split at hstart
      · exact Option.some.inj hstart
      · cases hstart
    have hp : p = .of createNews noon Auto.faultless ∨ p = .of closePollLine noon Auto.faultless := by
      simp only [refusalTurns, List.mem_cons, Calls.Turn.start.injEq, reduceCtorEq,
        List.not_mem_nil, or_false, false_or] at hturn
      exact hturn.imp And.right And.right
    exact hp.elim (fun h => ⟨_, _, h⟩) fun h => ⟨_, _, h⟩

end TinTin.Server.Service
