/-
  What terminal clients learn of each other from the relay: `fetch_bundle` and `list_users`.

  * `Registers`: a unit of the relay's work that has accepted a pre-key bundle for a user.
  * `fetched_iff`: in every interleaving of the relay's handlers, a fetch whose query does not fail
    gives the client the bundle that was accepted last for the user before the fetch ended, and no
    other.
  * `listed_users`: a listing gives each user once, in order, with the presence that the directory
    has.
-/
import TinTin.Apps.Exchange
import TinTin.Server.Directory
import TinTin.Server.Search

namespace TinTin.Apps.Directory

open TinTin.Lib TinTin.Core TinTin.Cli TinTin.Cli.Json TinTin.Cli.Wire TinTin.Cli.WireText
  TinTin.Server TinTin.Server.Service TinTin.Apps.Exchange

/-! ## The client -/

/-- What `fetch_bundle` makes of a line. -/
def bundleOf (F : Floats) (line : String) : Option (PreKeyBundle Key32) :=
  (Json.fromStr F line).bind fun resp =>
    if (resp.index "status").asStr = some "ok" then
      WireText.preKeyBundle.codec.decode ((resp.index "data").index "signed_pre_key")
    else none

/-- An element of the list that `list_users` gets. -/
def userOf (v : Json) : Option (String × String) :=
  (v.index "user_id").asStr.map fun userId => (userId, (v.index "presence").asStr.getD "offline")

/-- What `list_users` makes of a line. -/
def usersOf (F : Floats) (line : String) : Option (List (String × String)) :=
  (Json.fromStr F line).bind fun resp =>
    if (resp.index "status").asStr = some "ok" then
      some (((asArray ((resp.index "data").index "users")).getD []).filterMap userOf)
    else none

variable {F : Floats} {E : Sockets.Complaints}

theorem bundleOf_failed (text : String) :
    bundleOf F ((ServerResponse.failed text).toJson.toText F) = none := by
  obtain ⟨v, hv, hreads⟩ := read_answer (r := .failed text) (fun _ h => nomatch h) F
  unfold bundleOf
  rw [hv, Option.bind_some, hreads.status]
  exact if_neg (show some "error" ≠ some "ok" by decide)

theorem bundleOf_ok {data : Json} (h : Fit Json.obj 126 data) :
    bundleOf F ((ServerResponse.ok (some data)).toJson.toText F) =
      WireText.preKeyBundle.codec.decode (data.index "signed_pre_key") := by
  obtain ⟨v, hv, hreads⟩ := read_answer (r := .ok (some data)) (fun _ hv => by cases hv; exact h) F
  unfold bundleOf
  rw [hv, Option.bind_some, hreads.status, hreads.data]
  exact if_pos rfl

theorem usersOf_failed (text : String) :
    usersOf F ((ServerResponse.failed text).toJson.toText F) = none := by
  obtain ⟨v, hv, hreads⟩ := read_answer (r := .failed text) (fun _ h => nomatch h) F
  unfold usersOf
  rw [hv, Option.bind_some, hreads.status]
  exact if_neg (show some "error" ≠ some "ok" by decide)

theorem usersOf_ok {data : Json} (h : Fit Json.obj 126 data) :
    usersOf F ((ServerResponse.ok (some data)).toJson.toText F) =
      some (((asArray (data.index "users")).getD []).filterMap userOf) := by
  obtain ⟨v, hv, hreads⟩ := read_answer (r := .ok (some data)) (fun _ hv => by cases hv; exact h) F
  unfold usersOf
  rw [hv, Option.bind_some, hreads.status, hreads.data]
  exact if_pos rfl

/-! ## Bundles -/

/-- The text of a bundle in the database is read as the object with its members. -/
theorem fit_members (b : PreKeyBundle Key32) :
    ∀ m ∈ WireText.preKeyBundle.members b, Fit Json.obj 124 m.2 := by
  intro m hm
  have hvalues : ∀ v ∈ WireText.preKeyBundle.values b, Fit Json.obj 124 v := by
    simp only [WireText.preKeyBundle, List.forall_mem_cons]
    exact ⟨fits_key 123 _, fits_u32 124 _, fits_u32 124 _, fits_key 123 _, fits_vec (fits_u8 123) _,
      fit_ofOption (fits_u32 124) _, fit_ofOption (fits_key 123) _, List.forall_mem_nil _⟩
  refine hvalues m.2 ?_
  rw [← StructCodec.map_snd_members b]
  exact List.mem_map_of_mem hm

theorem value_bundle (b : PreKeyBundle Key32) :
    (Sockets.texts F E).value ((Sockets.texts F E).bundle b) =
      some (Json.obj (WireText.preKeyBundle.members b)) :=
  readText_object (fun m hm => (fit_members b m hm).mono (by decide)) F

theorem bundle_injective : Function.Injective (Sockets.texts F E).bundle := by
  intro b b' h
  have hvalue := value_bundle (F := F) (E := E) b
  rw [h, value_bundle] at hvalue
  have hread := congrArg WireText.preKeyBundle.decode (Option.some.inj hvalue)
  rw [StructCodec.decode_obj, StructCodec.decode_obj] at hread
  exact (Option.some.inj hread).symm

/-- A unit that has accepted this bundle for the user. -/
inductive Registers {ι : Type} (T : Texts) (u : String) (b : PreKeyBundle Key32) :
    Calls.Entry ι Task ServerResponse → Prop
  | mk (i : ι) (line : String) (world : Ambient) (faults : Faults DbError) (n : ℕ)
    (cmd : RegisterCmd) (r : ServerResponse) (hread : handleCommand T.value line = .ok (.register cmd))
    (huser : cmd.userId = u) (hbundle : cmd.signedPreKey = b) (hok : r.status = "ok") :
    Registers T u b (i, ⟨.command line, world, faults, n⟩, .inr r)

/-- The bundle that was accepted last for the user. -/
def Registered {ι : Type} (T : Texts) (ended : List (Calls.Entry ι Task ServerResponse)) (u : String)
    (b : PreKeyBundle Key32) : Prop :=
  ∃ before e since, ended = before ++ e :: since ∧ Registers T u b e ∧
    ∀ e' ∈ since, ∀ b', ¬ Registers T u b' e'

variable {ι : Type} {T : Texts} {u : String}

/-- The edits that a unit can enter. -/
theorem editOf_cases {e : Calls.Entry ι Task ServerResponse} {edit : Edit UserRow String}
    (h : editOf T e.2.1 e.2.2 = some edit) :
    (∃ row b, edit = .put row ∧ row.signedPreKey = T.bundle b ∧ Registers T u b e) ∨
      ¬ edit.Settles UserRow.userId u ∧
        ∀ row, (edit.alteration u row).signedPreKey = row.signedPreKey := by
  obtain ⟨i, ⟨stage, world, faults, n⟩, out⟩ := e
  cases stage with
  | addMember _ _ | autoSubscribe _ _ | addSubscriber _ _ => cases out <;> cases h
  | command line =>
    cases out with
    | inl q => cases h
    | inr r =>
      unfold editOf at h
      dsimp only at h
      cases hread : handleCommand T.value line with
      | error _ =>
        rw [hread] at h
        cases h
      | ok cmd =>
        rw [hread] at h
        dsimp only at h
        split at h
        · next hok =>
          cases cmd with
          | register cmd =>
            cases h
            by_cases hu : cmd.userId = u
            · subst hu
              exact .inl ⟨_, cmd.signedPreKey, rfl, rfl,
                .mk i line world faults n cmd r hread rfl rfl hok⟩
            · exact .inr ⟨hu, fun _ => rfl⟩
          | setPresence cmd =>
            cases h
            refine .inr ⟨id, fun row => ?_⟩
            unfold Edit.alteration
            dsimp only
            split <;> rfl
          | _ => cases h
        · cases h

theorem registers_edit {e : Calls.Entry ι Task ServerResponse} {b : PreKeyBundle Key32}
    (h : Registers T u b e) :
    ∃ row, editOf T e.2.1 e.2.2 = some (.put row) ∧ row.userId = u ∧
      row.signedPreKey = T.bundle b := by
  cases h with
  | mk i line world faults n cmd r hread huser hbundle hok =>
    refine ⟨RegisterCmd.row T cmd, ?_, huser, congrArg T.bundle hbundle⟩
    rw [editOf_command hread, if_pos hok]
    rfl

/-- What is entered beside the registrations leaves the bundle of a row. -/
theorem signedPreKey_altered {ended : List (Calls.Entry ι Task ServerResponse)} (row : UserRow) :
    (altered u (edits T ended) row).signedPreKey = row.signedPreKey := by
  have hkeeps : ∀ edit ∈ edits T ended, ∀ row : UserRow,
      (edit.alteration u row).signedPreKey = row.signedPreKey := by
    intro edit hedit
    obtain ⟨e, -, he⟩ := List.mem_filterMap.mp hedit
    rcases editOf_cases he with ⟨_, _, rfl, -⟩ | ⟨-, hkeeps⟩
    · exact fun _ => rfl
    · exact hkeeps
  generalize edits T ended = all at hkeeps
  induction all generalizing row with
  | nil => rfl
  | cons edit all ih =>
    have hrest := ih (edit.alteration u row) fun e he => hkeeps e (List.mem_cons_of_mem _ he)
    exact hrest.trans (hkeeps edit List.mem_cons_self row)

/-- **The directory has the bundle that was accepted last.** -/
theorem directory_bundle (ended : List (Calls.Entry ι Task ServerResponse)) :
    (∀ row, directory T ended u = some row →
      ∃ b, Registered T ended u b ∧ row.signedPreKey = T.bundle b) ∧
    ∀ b, Registered T ended u b →
      ∃ row, directory T ended u = some row ∧ row.signedPreKey = T.bundle b := by
  constructor
  · intro row hrow
    obtain ⟨before, row₀, since, hedits, hkey, hsince, rfl⟩ := content_eq_some_iff.mp hrow
    obtain ⟨l₁, l₂, rfl, -, htail⟩ := List.filterMap_eq_append_iff.mp hedits
    obtain ⟨l₃, e, l₄, rfl, -, hput, rfl⟩ := List.filterMap_eq_cons_iff.mp htail
    rcases editOf_cases (u := u) hput with
      ⟨_, b, heq, hbundle, hregisters⟩ | ⟨hnot, -⟩
    · refine ⟨b, ⟨l₁ ++ l₃, e, l₄, by rw [List.append_assoc], hregisters, fun e' he' b' h' => ?_⟩,
        ?_⟩
      · obtain ⟨row', hput', hkey', -⟩ := registers_edit h'
        exact hsince _ (List.mem_filterMap.mpr ⟨e', he', hput'⟩) hkey'
      · cases heq
        exact (signedPreKey_altered row₀).trans hbundle
    · exact absurd hkey hnot
  · rintro b ⟨before, e, since, rfl, hregisters, hsince⟩
    obtain ⟨row, hput, hkey, hbundle⟩ := registers_edit hregisters
    have hnot : ∀ edit ∈ edits T since, ¬ edit.Settles UserRow.userId u := by
      intro edit hedit
      obtain ⟨e', he', hedit'⟩ := List.mem_filterMap.mp hedit
      rcases editOf_cases hedit' with ⟨_, b', -, -, h'⟩ | ⟨hnot, -⟩
      · exact absurd h' (hsince e' he' b')
      · exact hnot
    refine ⟨altered u (edits T since) row, content_eq_some_iff.mpr
      ⟨edits T before, row, edits T since, ?_, hkey, hnot, rfl⟩, ?_⟩
    · unfold edits
      rw [List.filterMap_append, List.filterMap_cons, hput]
    · exact (signedPreKey_altered row).trans hbundle

/-! ## Answers -/

/-- A unit whose first call answers. -/
theorem whole_answer {T : Texts} {t : Task} {out : Task ⊕ ServerResponse} {db db' : Database}
    (hwhole : Calls.Whole (Task.call T) Task.begins t db out db') {r : ServerResponse}
    {db'' : Database} (hr : t.call T db = (.inr r, db'')) : out = .inr r := by
  cases hwhole with
  | passOn hcall _ | goOn hcall _ _ =>
    rw [hcall] at hr
    cases hr
  | finish hcall =>
    rw [hcall] at hr
    exact congrArg Prod.fst hr

/-- The line of a method that asks one thing of the store. -/
theorem call_request {c : Client Key32} {m : Method} {cmd : Handled} {world : Ambient}
    {faults : Faults DbError} {db db' : Database} {r : ServerResponse} {n : ℕ}
    (hread : handleCommand (Sockets.texts F E).value ((request c m).toText F) = .ok cmd)
    (hrun : (handle (Sockets.texts F E) world cmd).run faults db 0 = (.inr r, db', n)) :
    (Task.of ((request c m).toText F) world faults).call (Sockets.texts F E) db = (.inr r, db') := by
  rw [← storeCall_command hread] at hrun
  exact Task.call_of_run (t := Task.of ((request c m).toText F) world faults) hrun

theorem run_fetchKeys {T : Texts} {db : Database} {m : String → Option UserRow}
    (h : Enrolled db m) (cmd : FetchKeysCmd) (faults : Faults DbError) :
    (Service.handleFetchKeys T cmd).run faults db 0 = (
      match faults 0, m cmd.userId with
      | some e, _ => .inr (.failed ("Database error: " ++ T.sqliteSays e))
      | none, none => .inr (.failed ("User '" ++ cmd.userId ++ "' not found"))
      | none, some row => .inr (.ok (some (obj [("identity_key", (vec u8).encode row.identityKey),
          ("signed_pre_key", (T.value row.signedPreKey).getD .null)]))), db, 1) := by
  unfold Service.handleFetchKeys StoreCall.run getKeyBundle
  dsimp only
  cases hf : faults 0 with
  | some e =>
    rw [Auto.run_bind_error (Auto.run_exec_fault hf)]
    rfl
  | none =>
    rw [Auto.run_bind_ok (Auto.run_exec_ok hf rfl), h.find]
    cases m cmd.userId <;> rfl

/-- What the client gets from a fetch, by the directory. -/
theorem bundleOf_fetch {db db' : Database} {m : String → Option UserRow} {c : Client Key32}
    {world : Ambient} {faults : Faults DbError} {r : ServerResponse} (h : Enrolled db m)
    (hbundles : ∀ row, m u = some row →
      ∃ b, row.signedPreKey = (Sockets.texts F E).bundle b)
    (hwhole : Calls.Whole (Task.call (Sockets.texts F E)) Task.begins
      (Task.of ((request c (.fetchBundle u)).toText F) world faults) db (.inr r) db')
    (b : PreKeyBundle Key32) :
    bundleOf F (r.toJson.toText F) = some b ↔ faults 0 = none ∧
      ∃ row, m u = some row ∧ row.signedPreKey = (Sockets.texts F E).bundle b := by
  obtain ⟨cmd, hread, hasks⟩ := request_taken (c := c) (m := .fetchBundle u) nofun
    (value_request F E _ _)
  cases hasks
  have hrun := @run_fetchKeys (Sockets.texts F E) _ _ h ⟨"fetch_keys", u⟩ faults
  dsimp only at hrun
  cases hf : faults 0 with
  | some e =>
    rw [hf] at hrun
    cases whole_answer hwhole (call_request hread hrun)
    rw [bundleOf_failed]
    exact ⟨nofun, fun hboth => nomatch hboth.1⟩
  | none =>
    cases hm : m u with
    | none =>
      rw [hf, hm] at hrun
      cases whole_answer hwhole (call_request hread hrun)
      rw [bundleOf_failed]
      exact ⟨nofun, fun ⟨_, row, hrow, _⟩ => nomatch hrow⟩
    | some row =>
      rw [hf, hm] at hrun
      cases whole_answer hwhole (call_request hread hrun)
      obtain ⟨b₀, hb₀⟩ := hbundles row hm
      have hread₀ : bundleOf F ((ServerResponse.ok (some (obj [("identity_key",
          (vec u8).encode row.identityKey), ("signed_pre_key",
            ((Sockets.texts F E).value row.signedPreKey).getD .null)]))).toJson.toText F) =
          some b₀ := by
        rw [hb₀, value_bundle, Option.getD_some, bundleOf_ok]
        · have hindex : (obj [("identity_key", (vec u8).encode row.identityKey),
              ("signed_pre_key", obj (WireText.preKeyBundle.members b₀))]).index "signed_pre_key" =
              obj (WireText.preKeyBundle.members b₀) := by
            simp [index, get_obj]
          rw [hindex]
          exact StructCodec.decode_obj b₀
        · refine Fit.obj ?_
          simp only [List.forall_mem_cons]
          exact ⟨fits_vec (fits_u8 124) _, Fit.obj (fit_members b₀), List.forall_mem_nil _⟩
      rw [hread₀]
      constructor
      · intro heq
        cases heq
        exact ⟨rfl, row, rfl, hb₀⟩
      · rintro ⟨-, row', hrow', hb⟩
        cases hrow'
        exact congrArg some (bundle_injective (hb₀.symm.trans hb))

/-- **A client fetches the bundle that was accepted last**, and no other, whatever the relay's
    handlers have done in between and whichever statements of theirs have failed. -/
theorem fetched_iff [DecidableEq ι] (F : Floats) (E : Sockets.Complaints)
    {turns : List (Calls.Turn ι Task)} {s : Calls.Floor ι Database Task ServerResponse}
    (hrun : Runs (Sockets.texts F E) (.fresh .empty) turns s)
    {before after : List (Calls.Entry ι Task ServerResponse)} {i : ι} {c : Client Key32}
    {u : String} {world : Ambient} {faults : Faults DbError} {r : ServerResponse}
    (hended : s.ended = before ++
      (i, Task.of ((request c (.fetchBundle u)).toText F) world faults, .inr r) :: after)
    (b : PreKeyBundle Key32) :
    bundleOf F (r.toJson.toText F) = some b ↔
      faults 0 = none ∧ Registered (Sockets.texts F E) before u b := by
  obtain ⟨db, db', henrolled, hwhole⟩ := (directory_of_run hrun).2 before _ after hended
  obtain ⟨hbundles, hregistered⟩ := @directory_bundle ι (Sockets.texts F E) u before
  rw [bundleOf_fetch henrolled (fun row hrow => ?_) hwhole b]
  · refine and_congr_right fun _ => ⟨?_, hregistered b⟩
    rintro ⟨row, hrow, hb⟩
    obtain ⟨b', hlast, hb'⟩ := hbundles row hrow
    rw [bundle_injective (hb.symm.trans hb')]
    exact hlast
  · obtain ⟨b', -, hb'⟩ := hbundles row hrow
    exact ⟨b', hb'⟩

/-! ## The list of users -/

theorem fit_userJson (p : String × String) : Fit Json.obj 1 (userJson p) := by
  refine Fit.obj ?_
  simp only [List.forall_mem_cons]
  exact ⟨fits_string 0 _, fits_string 0 _, List.forall_mem_nil _⟩

theorem userOf_userJson (p : String × String) : userOf (userJson p) = some p := by
  simp [userOf, userJson, index, get_obj, asStr, Wire.string]

/-- **A client lists each user of the directory once**, in ascending order, with the presence that
    was entered last. -/
theorem listed_users [DecidableEq ι] (F : Floats) (E : Sockets.Complaints)
    {turns : List (Calls.Turn ι Task)} {s : Calls.Floor ι Database Task ServerResponse}
    (hrun : Runs (Sockets.texts F E) (.fresh .empty) turns s)
    {before after : List (Calls.Entry ι Task ServerResponse)} {i : ι} {c : Client Key32}
    {world : Ambient} {faults : Faults DbError} {r : ServerResponse}
    (hended : s.ended = before ++
      (i, Task.of ((request c .listUsers).toText F) world faults, .inr r) :: after)
    (hfaults : faults 0 = none) :
    ∃ users, usersOf F (r.toJson.toText F) = some users ∧
      users.Pairwise (fun p q => p.1 < q.1) ∧
      ∀ u presence, (u, presence) ∈ users ↔
        (directory (Sockets.texts F E) before u).map (·.presence) = some presence := by
  obtain ⟨db, db', henrolled, hwhole⟩ := (directory_of_run hrun).2 before _ after hended
  obtain ⟨cmd, hread, hasks⟩ := request_taken (c := c) (m := .listUsers) nofun
    (value_request F E _ _)
  cases hasks
  have hrun : (Service.handleListUsers (Sockets.texts F E) ⟨"list_users", none⟩).run faults db 0 =
      (.inr (.ok (some (rows "users" userJson (allUsers db)))), db, 1) := by
    have hall : db.users.filter (fun _ => true) = db.users := List.filter_true _
    have hlist : listUsers none faults db 0 = (.ok (allUsers db), db, 1) := by
      refine Auto.run_exec_ok hfaults ?_
      change Except.ok (orderBy Prod.fst ((db.users.filter fun _ => true).map _), db) = _
      rw [hall]
      rfl
    unfold Service.handleListUsers StoreCall.run answer
    dsimp only [Option.map_none]
    rw [hlist]
  cases whole_answer hwhole (call_request hread hrun)
  refine ⟨allUsers db, ?_, ?_, fun u presence => ?_⟩
  · rw [usersOf_ok ((fit_rows fit_userJson _ _).mono (by decide))]
    unfold rows
    rw [index_one]
    have hmap : ((allUsers db).map userJson).filterMap userOf = allUsers db := by
      rw [List.filterMap_map]
      exact (List.filterMap_congr fun p _ => userOf_userJson p).trans List.filterMap_some
    exact congrArg some hmap
  · have hsorted : (allUsers db).Pairwise fun p q => p.1 ≤ q.1 := by
      have : Std.Total fun p q : String × String => p.1 ≤ q.1 := ⟨fun p q => String.le_total p.1 q.1⟩
      have : IsTrans (String × String) fun p q => p.1 ≤ q.1 := ⟨fun _ _ _ => String.le_trans⟩
      exact List.pairwise_insertionSort _ _
    have hnodup : ((allUsers db).map Prod.fst).Nodup := by
      unfold allUsers
      rw [nodup_map_orderBy, List.map_map]
      exact henrolled.nodup
    have hne : (allUsers db).Pairwise fun p q => p.1 ≠ q.1 := List.pairwise_map.mp hnodup
    refine (hsorted.and hne).imp fun {p q} h => ?_
    by_contra hge
    exact h.2 (String.le_antisymm h.1 hge)
  · rw [mem_allUsers, Option.map_eq_some_iff]
    constructor
    · rintro ⟨row, hrow, heq⟩
      obtain ⟨rfl, rfl⟩ := Prod.mk.inj heq
      exact ⟨row, henrolled.mem_iff.mp hrow, rfl⟩
    · rintro ⟨row, hrow, rfl⟩
      have hkey := henrolled.key_eq hrow
      subst hkey
      exact ⟨row, henrolled.mem_iff.mpr hrow, rfl⟩

/-! ## A case -/

/-- One user registers, fetches its own keys and lists the users. -/
def aliceTurns : List (Calls.Turn ℕ Task) :=
  [.start 0 (Task.of ((request lonelyClient .register).toText wholeNumbers) noon Auto.faultless),
    .call 0,
    .start 0 (Task.of ((request lonelyClient (.fetchBundle "alice")).toText wholeNumbers) noon
      Auto.faultless), .call 0,
    .start 0 (Task.of ((request lonelyClient .listUsers).toText wholeNumbers) noon Auto.faultless),
    .call 0]

theorem aliceTurns_run : ∃ s before fetched between listed,
    Runs (Sockets.texts wholeNumbers mute) (.fresh .empty) aliceTurns s ∧
      s.ended = before ++ (0, Task.of ((request lonelyClient (.fetchBundle "alice")).toText
        wholeNumbers) noon Auto.faultless, .inr fetched) :: between ∧
      between = [(0, Task.of ((request lonelyClient .listUsers).toText wholeNumbers) noon
        Auto.faultless, .inr listed)] := by
  obtain ⟨_, hread₁, hasks₁⟩ := request_taken (c := lonelyClient) (m := .register) nofun
    (value_request wholeNumbers mute _ _)
  obtain ⟨_, hread₂, hasks₂⟩ := request_taken (c := lonelyClient) (m := .fetchBundle "alice") nofun
    (value_request wholeNumbers mute _ _)
  obtain ⟨_, hread₃, hasks₃⟩ := request_taken (c := lonelyClient) (m := .listUsers) nofun
    (value_request wholeNumbers mute _ _)
  cases hasks₁
  cases hasks₂
  cases hasks₃
  refine ⟨_, [_], _, _, _, .cons (.start 0 _ rfl rfl) (.cons (.finish 0 _ _ _ rfl
    (call_request hread₁ rfl)) (.cons (.start 0 _ rfl rfl) (.cons (.finish 0 _ _ _ rfl
    (call_request hread₂ rfl)) (.cons (.start 0 _ rfl rfl) (.cons (.finish 0 _ _ _ rfl
    (call_request hread₃ rfl)) (.nil _)))))), rfl, rfl⟩

theorem fetched_iff_alice : ∃ s before fetched after,
    Runs (Sockets.texts wholeNumbers mute) (.fresh .empty) aliceTurns s ∧
      s.ended = before ++ (0, Task.of ((request lonelyClient (.fetchBundle "alice")).toText
        wholeNumbers) noon Auto.faultless, .inr fetched) :: after ∧
      ∀ b, bundleOf wholeNumbers (fetched.toJson.toText wholeNumbers) = some b ↔
        (Auto.faultless : Faults DbError) 0 = none ∧
          Registered (Sockets.texts wholeNumbers mute) before "alice" b := by
  obtain ⟨s, before, fetched, between, listed, hrun, hended, -⟩ := aliceTurns_run
  exact ⟨s, before, fetched, between, hrun, hended, fetched_iff wholeNumbers mute hrun hended⟩

theorem listed_users_alice : ∃ s before listed,
    Runs (Sockets.texts wholeNumbers mute) (.fresh .empty) aliceTurns s ∧
      s.ended = before ++ [(0, Task.of ((request lonelyClient .listUsers).toText wholeNumbers) noon
        Auto.faultless, .inr listed)] ∧
      ∃ users, usersOf wholeNumbers (listed.toJson.toText wholeNumbers) = some users ∧
        users.Pairwise (fun p q => p.1 < q.1) ∧
        ∀ u presence, (u, presence) ∈ users ↔
          (directory (Sockets.texts wholeNumbers mute) before u).map (·.presence) = some presence := by
  obtain ⟨s, before, fetched, between, listed, hrun, hended, rfl⟩ := aliceTurns_run
  have hlast : s.ended = (before ++ [(0, Task.of ((request lonelyClient
      (.fetchBundle "alice")).toText wholeNumbers) noon Auto.faultless, .inr fetched)]) ++
        [(0, Task.of ((request lonelyClient .listUsers).toText wholeNumbers) noon Auto.faultless,
          .inr listed)] := by
    rw [hended, List.append_assoc, List.singleton_append]
  exact ⟨s, _, listed, hrun, hlast, listed_users wholeNumbers mute hrun hlast rfl⟩

end TinTin.Apps.Directory
