/-
  The relay: one queue for each user, and the store that keeps them.

  `Relay` says what the relay is for: a function from users to queues, with `post` and
  `fetch`. The store refines it (`store_refines`): the rows of the messages table for a user,
  by ascending id, are that user's queue.

  On the abstract side conservation is a statement about lists, proved by induction on the
  calls (`Relay.conserves`), and draining is one about what a round of fetches leaves
  (`chat_gone`, `round_drains`): a fetch queues receipts only, and a receipt is never
  receipted. Both come back to the store in `relay_conserves`.
-/
import TinTin.Server.Store
import TinTin.Symbolic.Serde
import Mathlib.Data.List.Induction

namespace TinTin.Server

open TinTin.Lib TinTin.Core

/-! ## The abstract relay -/

/-- For each user, the envelopes waiting for it. -/
abbrev Relay := String → List Envelope

namespace Relay

def empty : Relay := fun _ => []

/-- An envelope joins the queue of its recipient. -/
def post (q : Relay) (e : Envelope) : Relay :=
  Function.update q e.recipientId (q e.recipientId ++ [e])

/-- A user takes its queue, and the delivery receipts are posted. -/
def fetch (J : RelaySerde) (q : Relay) (userId : String) (clock : ℕ → UInt64) :
    List Envelope × Relay :=
  (q userId,
    (deliveryReceipts J userId clock (q userId)).foldl post (Function.update q userId []))

theorem post_apply (q : Relay) (e : Envelope) (u : String) :
    q.post e u = q u ++ if e.recipientId = u then [e] else [] := by
  unfold post
  by_cases h : e.recipientId = u
  · subst h
    simp
  · rw [Function.update_of_ne (Ne.symm h), if_neg h, List.append_nil]

theorem foldl_post_apply (es : List Envelope) (q : Relay) (u : String) :
    es.foldl post q u = q u ++ es.filter (·.recipientId = u) := by
  induction es generalizing q with
  | nil => simp
  | cons e es ih =>
    rw [List.foldl_cons, ih, post_apply, List.append_assoc, List.filter_cons]
    by_cases h : e.recipientId = u <;> simp [h]

end Relay

/-! ## Calls -/

/-- One call of the store by any user. -/
inductive StoreCall
  | queueMessage (envelope : Envelope)
  | fetchMessages (userId : String) (clock : ℕ → UInt64)

/-- What the calls have put in and got out: the envelopes inserted, in order, and for each
    user those its fetches returned. -/
structure Ledger where
  inserted : List Envelope
  fetched : String → List Envelope

def Ledger.empty : Ledger := ⟨[], fun _ => []⟩

/-- A fetch returned `envelopes`: they were taken by the user, and each `Normal` or
    `PreKeyBundle` one among them has its receipt inserted. -/
def Ledger.recordFetch (J : RelaySerde) (l : Ledger) (userId : String) (clock : ℕ → UInt64)
    (envelopes : List Envelope) : Ledger where
  inserted := l.inserted ++ deliveryReceipts J userId clock envelopes
  fetched := Function.update l.fetched userId (l.fetched userId ++ envelopes)

def Ledger.recordQueue (l : Ledger) (envelope : Envelope) : Ledger :=
  { l with inserted := l.inserted ++ [envelope] }

variable (J : RelaySerde)

/-- One call on the store, without database errors. -/
def Database.step (x : Database × Ledger) : StoreCall → Database × Ledger
  | .queueMessage envelope =>
    match queueMessage J envelope Auto.faultless x.1 0 with
    | (.ok (), db, _) => (db, x.2.recordQueue envelope)
    | (.error _, db, _) => (db, x.2)
  | .fetchMessages userId clock =>
    match fetchMessages J userId clock Auto.faultless x.1 0 with
    | (.ok envelopes, db, _) => (db, x.2.recordFetch J userId clock envelopes)
    | (.error _, db, _) => (db, x.2)

/-- A run of the store from the empty tables. -/
def Database.run (calls : List StoreCall) : Database × Ledger :=
  calls.foldl (Database.step J) (.empty, .empty)

/-- The same call on the abstract relay. -/
def Relay.step (x : Relay × Ledger) : StoreCall → Relay × Ledger
  | .queueMessage envelope => (x.1.post envelope, x.2.recordQueue envelope)
  | .fetchMessages userId clock =>
    let (envelopes, q) := x.1.fetch J userId clock
    (q, x.2.recordFetch J userId clock envelopes)

def Relay.run (calls : List StoreCall) : Relay × Ledger :=
  calls.foldl (Relay.step J) (.empty, .empty)

variable {J}

/-! ## The store refines the relay -/

/-- The rows of the messages table for each user, by ascending id, are the user's queue. -/
def Represents (J : RelaySerde) (db : Database) (q : Relay) : Prop :=
  ∀ u, (db.messages.select fun r => r.2.recipientId == u).map (·.2.envelope) =
    (q u).map J.envelope.encode

theorem represents_empty : Represents J .empty .empty := fun _ => rfl

/-- The queue of a user is what the store reads for it. -/
theorem Represents.pending {db : Database} {q : Relay} (h : Represents J db q) (u : String) :
    Server.pending J db u = q u := by
  have hdec : Server.pending J db u =
      ((db.messages.select fun r => r.2.recipientId == u).map (·.2.envelope)).filterMap
        J.envelope.decode := by
    unfold Server.pending
    rw [List.filterMap_map]
    rfl
  rw [hdec, h u, List.filterMap_map]
  simp

theorem Represents.withMessage {db : Database} {q : Relay} (h : Represents J db q)
    (e : Envelope) : Represents J (withMessage J db e) (q.post e) := by
  intro u
  rw [Relay.post_apply, List.map_append, ← h u]
  show ((db.messages.insert (messageRow J e)).select _).map _ = _
  rw [AutoTable.select_insert, List.map_append]
  by_cases hu : e.recipientId = u <;> simp [hu, messageRow]

theorem Represents.withMessages {db : Database} {q : Relay} (h : Represents J db q)
    (es : List Envelope) :
    Represents J (es.foldl (Server.withMessage J) db) (es.foldl Relay.post q) := by
  induction es generalizing db q with
  | nil => exact h
  | cons e es ih => exact ih (h.withMessage e)

theorem Represents.withoutMessages {db : Database} {q : Relay} (h : Represents J db q)
    (userId : String) :
    Represents J (withoutMessages db userId) (Function.update q userId []) := by
  intro u
  show ((db.messages.deleteWhere _).select _).map _ = _
  rw [AutoTable.select_deleteWhere]
  by_cases hu : u = userId
  · subst hu
    rw [Function.update_self, List.map_nil, List.map_eq_nil_iff, List.filter_eq_nil_iff]
    intro r hr
    have := (List.mem_filter.mp hr).2
    simpa using this
  · rw [Function.update_of_ne hu, ← h u]
    congr 1
    rw [List.filter_eq_self]
    intro r hr
    have hr' : r.2.recipientId = u := by simpa using (List.mem_filter.mp hr).2
    simp [hr', hu]

/-- **The store refines the relay**: call by call, its tables represent the queues, and the
    calls return the same envelopes. -/
theorem store_refines (J : RelaySerde) (calls : List StoreCall) :
    Represents J (Database.run J calls).1 (Relay.run J calls).1 ∧
      (Database.run J calls).2 = (Relay.run J calls).2 := by
  induction calls using List.reverseRecOn with
  | nil => exact ⟨represents_empty, rfl⟩
  | append_singleton calls c ih =>
    obtain ⟨hrep, hledger⟩ := ih
    unfold Database.run Relay.run at *
    rw [List.foldl_append, List.foldl_append]
    set x := calls.foldl (Database.step J) (Database.empty, Ledger.empty)
    set y := calls.foldl (Relay.step J) (Relay.empty, Ledger.empty)
    cases c with
    | queueMessage e =>
      have hstep : Database.step J x (.queueMessage e) =
          (withMessage J x.1 e, x.2.recordQueue e) := by
        simp only [Database.step, queueMessage_faultless]
      rw [List.foldl_cons, List.foldl_nil, hstep]
      refine ⟨hrep.withMessage e, ?_⟩
      show x.2.recordQueue e = y.2.recordQueue e
      rw [hledger]
    | fetchMessages u clock =>
      obtain ⟨n, hrun⟩ := fetchMessages_faultless (J := J) u clock x.1
      rw [hrep.pending] at hrun
      have hstep : Database.step J x (.fetchMessages u clock) =
          ((deliveryReceipts J u clock (y.1 u)).foldl (withMessage J) (withoutMessages x.1 u),
            x.2.recordFetch J u clock (y.1 u)) := by
        simp only [Database.step, hrun]
      rw [List.foldl_cons, List.foldl_nil, hstep]
      refine ⟨(hrep.withoutMessages u).withMessages _, ?_⟩
      show x.2.recordFetch J u clock (y.1 u) = y.2.recordFetch J u clock (y.1 u)
      rw [hledger]

/-! ## Conservation -/

/-- Every user has got, or still has waiting, exactly what was inserted for it, in order. -/
theorem Relay.conserves (J : RelaySerde) (calls : List StoreCall) (u : String) :
    (Relay.run J calls).2.fetched u ++ (Relay.run J calls).1 u =
      (Relay.run J calls).2.inserted.filter (·.recipientId = u) := by
  induction calls using List.reverseRecOn with
  | nil => rfl
  | append_singleton calls c ih =>
    unfold Relay.run at *
    rw [List.foldl_append]
    set y := calls.foldl (Relay.step J) (Relay.empty, Ledger.empty)
    cases c with
    | queueMessage e =>
      show y.2.fetched u ++ y.1.post e u = (y.2.inserted ++ [e]).filter _
      rw [Relay.post_apply, List.filter_append, ← ih, List.append_assoc]
      by_cases h : e.recipientId = u <;> simp [h]
    | fetchMessages v clock =>
      show Function.update y.2.fetched v (y.2.fetched v ++ y.1 v) u ++
        (deliveryReceipts J v clock (y.1 v)).foldl Relay.post (Function.update y.1 v []) u =
        (y.2.inserted ++ deliveryReceipts J v clock (y.1 v)).filter _
      rw [Relay.foldl_post_apply, List.filter_append, ← ih]
      by_cases h : u = v
      · subst h
        simp
      · rw [Function.update_of_ne h, Function.update_of_ne h, List.append_assoc]

/-! ## Receipts -/

/-- What a fetch queues: for each `Normal` or `PreKeyBundle` envelope it returned, one
    receipt to its sender that names its sender and its timestamp. -/
theorem deliveryReceipts_spec (J : RelaySerde) (userId : String) (clock : ℕ → UInt64)
    (envelopes : List Envelope) :
    (deliveryReceipts J userId clock envelopes).map
        (fun r => (r.senderId, r.recipientId, r.msgType, J.receiptContent.decode r.content)) =
      (envelopes.filter (·.msgType.isChat)).map fun m =>
        (userId, m.senderId, .receipt, some ⟨.delivery, m.senderId, m.timestamp⟩) := by
  apply List.ext_getElem?
  intro i
  unfold deliveryReceipts
  rw [List.getElem?_map, List.getElem?_mapIdx, List.getElem?_map, Option.map_map]
  congr 1
  funext m
  simp [deliveryReceipt, Envelope.new]

theorem mem_deliveryReceipts {userId : String} {clock : ℕ → UInt64} {envelopes : List Envelope}
    {r : Envelope} (h : r ∈ deliveryReceipts J userId clock envelopes) :
    r.msgType = .receipt ∧ ∃ m ∈ envelopes, m.msgType.isChat ∧ r.recipientId = m.senderId := by
  obtain ⟨i, hi, rfl⟩ := List.mem_mapIdx.mp h
  have hm := List.mem_filter.mp (List.getElem_mem hi)
  exact ⟨rfl, _, hm.1, hm.2, rfl⟩

/-- A queue without `Normal` or `PreKeyBundle` envelopes brings about no receipt. -/
theorem deliveryReceipts_eq_nil {userId : String} {clock : ℕ → UInt64}
    {envelopes : List Envelope} (h : ∀ e ∈ envelopes, e.msgType.isChat = false) :
    deliveryReceipts J userId clock envelopes = [] := by
  unfold deliveryReceipts
  rw [List.filter_eq_nil_iff.mpr (by simpa using h)]
  rfl

/-! ## Draining -/

/-- Every waiting envelope is addressed to a user of the list, and so is the receipt it will
    bring about. -/
def Among (users : List String) (q : Relay) : Prop :=
  ∀ u, ∀ e ∈ q u, u ∈ users ∧ (e.msgType.isChat = true → e.senderId ∈ users)

theorem among_post {users : List String} {q : Relay} (h : Among users q) {e : Envelope}
    (hr : e.recipientId ∈ users) (hs : e.msgType.isChat = true → e.senderId ∈ users) :
    Among users (q.post e) := by
  intro u x hx
  rw [Relay.post_apply, List.mem_append] at hx
  rcases hx with hx | hx
  · exact h u x hx
  · split at hx
    · next hu =>
      rw [List.mem_singleton] at hx
      subst hx
      exact ⟨hu ▸ hr, hs⟩
    · cases hx

theorem mem_fetch {q : Relay} {v u : String} {clock : ℕ → UInt64} {e : Envelope}
    (h : e ∈ (q.fetch J v clock).2 u) :
    (e ∈ q u ∧ u ≠ v) ∨
      (e.msgType = .receipt ∧ e.recipientId = u ∧ ∃ m ∈ q v, m.msgType.isChat ∧
        e.recipientId = m.senderId) := by
  unfold Relay.fetch at h
  dsimp only at h
  rw [Relay.foldl_post_apply, List.mem_append] at h
  rcases h with h | h
  · by_cases hu : u = v
    · subst hu
      rw [Function.update_self] at h
      cases h
    · rw [Function.update_of_ne hu] at h
      exact .inl ⟨h, hu⟩
  · obtain ⟨hmem, hrec⟩ := List.mem_filter.mp h
    obtain ⟨htype, hm⟩ := mem_deliveryReceipts hmem
    exact .inr ⟨htype, by simpa using hrec, hm⟩

theorem among_fetch {users : List String} {q : Relay} (h : Among users q) (v : String)
    (clock : ℕ → UInt64) : Among users (q.fetch J v clock).2 := by
  intro u e he
  rcases mem_fetch he with ⟨he, -⟩ | ⟨htype, rfl, m, hm, hchat, hrec⟩
  · exact h u e he
  · refine ⟨hrec ▸ (h v m hm).2 hchat, ?_⟩
    intro hc
    rw [htype] at hc
    cases hc

/-- Fetches by the users of a list, in its order. -/
def round (fetches : List (String × (ℕ → UInt64))) : List StoreCall :=
  fetches.map fun f => .fetchMessages f.1 f.2

/-- The queues after a round of fetches. -/
def Relay.afterRound (J : RelaySerde) (q : Relay) (fetches : List (String × (ℕ → UInt64))) :
    Relay :=
  fetches.foldl (fun q f => (q.fetch J f.1 f.2).2) q

theorem Relay.run_round (calls : List StoreCall) (fetches : List (String × (ℕ → UInt64))) :
    (Relay.run J (calls ++ round fetches)).1 =
      (Relay.run J calls).1.afterRound J fetches := by
  unfold Relay.run round
  rw [List.foldl_append]
  generalize calls.foldl (Relay.step J) (Relay.empty, Ledger.empty) = x
  induction fetches generalizing x with
  | nil => rfl
  | cons f fetches ih => exact ih _

theorem among_afterRound {users : List String} {q : Relay} (h : Among users q)
    (fetches : List (String × (ℕ → UInt64))) : Among users (q.afterRound J fetches) := by
  induction fetches generalizing q with
  | nil => exact h
  | cons f fetches ih => exact ih (among_fetch h f.1 f.2)

/-- A `Normal` or `PreKeyBundle` envelope that a round leaves was waiting before it, for a
    user that did not fetch. -/
theorem chat_afterRound {q : Relay} {fetches : List (String × (ℕ → UInt64))} {u : String}
    {e : Envelope} (h : e ∈ q.afterRound J fetches u) (hc : e.msgType.isChat = true) :
    e ∈ q u ∧ u ∉ fetches.map Prod.fst := by
  induction fetches generalizing q with
  | nil => exact ⟨h, List.not_mem_nil⟩
  | cons f fetches ih =>
    obtain ⟨he, hu⟩ := ih h
    rcases mem_fetch he with ⟨he, hne⟩ | ⟨htype, -⟩
    · refine ⟨he, ?_⟩
      rw [List.map_cons, List.mem_cons, not_or]
      exact ⟨hne, hu⟩
    · rw [htype] at hc
      cases hc

/-- **A round by all users takes every message away**: only receipts are left. -/
theorem chat_gone {users : List String} {q : Relay} (h : Among users q)
    {fetches : List (String × (ℕ → UInt64))} (hall : users ⊆ fetches.map Prod.fst) (u : String) :
    ∀ e ∈ q.afterRound J fetches u, e.msgType.isChat = false := by
  intro e he
  by_contra hc
  obtain ⟨he, hu⟩ := chat_afterRound he (by simpa using hc)
  exact hu (hall (h u e he).1)

theorem fetch_without_chat {q : Relay} {v : String}
    (h : ∀ e ∈ q v, e.msgType.isChat = false) (clock : ℕ → UInt64) :
    (q.fetch J v clock).2 = Function.update q v [] := by
  unfold Relay.fetch
  rw [deliveryReceipts_eq_nil h]
  rfl

/-- **A round over queues without messages empties them.** -/
theorem round_drains {users : List String} {q : Relay} (h : Among users q)
    (hchat : ∀ u, ∀ e ∈ q u, e.msgType.isChat = false)
    {fetches : List (String × (ℕ → UInt64))} (hall : users ⊆ fetches.map Prod.fst) :
    q.afterRound J fetches = .empty := by
  have hleft : ∀ u, q.afterRound J fetches u = if u ∈ fetches.map Prod.fst then [] else q u := by
    intro u
    clear h hall
    induction fetches generalizing q with
    | nil => simp [Relay.afterRound]
    | cons f fetches ih =>
      have hstep : (q.fetch J f.1 f.2).2 = Function.update q f.1 [] :=
        fetch_without_chat (hchat f.1) f.2
      have hchat' : ∀ u, ∀ e ∈ Function.update q f.1 [] u, e.msgType.isChat = false := by
        intro u e he
        by_cases hu : u = f.1
        · subst hu
          rw [Function.update_self] at he
          cases he
        · rw [Function.update_of_ne hu] at he
          exact hchat u e he
      show (Relay.afterRound J (q.fetch J f.1 f.2).2 fetches) u = _
      rw [hstep, ih hchat']
      by_cases hm : u ∈ fetches.map Prod.fst
      · rw [if_pos hm, if_pos (by rw [List.map_cons]; exact List.mem_cons_of_mem _ hm)]
      · by_cases hu : u = f.1
        · subst hu
          rw [if_neg hm, if_pos (by simp), Function.update_self]
        · rw [if_neg hm, if_neg (by simpa [hu] using hm), Function.update_of_ne hu]
  funext u
  rw [hleft u]
  split
  · rfl
  · next hu =>
    show q u = []
    rw [List.eq_nil_iff_forall_not_mem]
    exact fun e he => hu (hall (h u e he).1)

/-- The envelopes clients queue in a run. -/
def queuedBy (calls : List StoreCall) : List Envelope :=
  calls.filterMap fun
    | .queueMessage e => some e
    | .fetchMessages _ _ => none

theorem among_run {users : List String} (calls : List StoreCall)
    (h : ∀ e ∈ queuedBy calls, e.senderId ∈ users ∧ e.recipientId ∈ users) :
    Among users (Relay.run J calls).1 := by
  induction calls using List.reverseRecOn with
  | nil =>
    intro u e he
    cases he
  | append_singleton calls c ih =>
    unfold queuedBy at h
    rw [List.filterMap_append] at h
    have hprev := ih fun e he => h e (List.mem_append_left _ he)
    unfold Relay.run at *
    rw [List.foldl_append]
    cases c with
    | queueMessage e =>
      have he := h e (List.mem_append_right _ (by simp))
      exact among_post hprev he.2 fun _ => he.1
    | fetchMessages u clock => exact among_fetch hprev u clock

/-- Empty queues are an empty table. -/
theorem Represents.rows_eq_nil {db : Database} (h : Represents J db .empty) :
    db.messages.rows = [] := by
  rw [List.eq_nil_iff_forall_not_mem]
  intro r hr
  have hnil := List.map_eq_nil_iff.mp (h r.2.recipientId)
  have hmem : r ∈ db.messages.select fun x => x.2.recipientId == r.2.recipientId :=
    List.mem_filter.mpr ⟨hr, by simp⟩
  rw [hnil] at hmem
  cases hmem

/-- **The relay conserves mail.** In every run of the store from the empty tables, what a
    user's fetches returned followed by what its rows still hold is what was inserted for it,
    in order and each once, where the receipts inserted are those of the messages returned;
    and once all senders and recipients fetch twice, the table is empty. -/
theorem relay_conserves (J : RelaySerde) (calls : List StoreCall) :
    let db := (Database.run J calls).1
    let ledger := (Database.run J calls).2
    (∀ u, (ledger.fetched u).map some ++
        (db.messages.select fun r => r.2.recipientId == u).map
          (fun r => J.envelope.decode r.2.envelope) =
      (ledger.inserted.filter (·.recipientId = u)).map some) ∧
    (∀ userId clock envelopes, (deliveryReceipts J userId clock envelopes).map
        (fun r => (r.senderId, r.recipientId, r.msgType, J.receiptContent.decode r.content)) =
      (envelopes.filter (·.msgType.isChat)).map fun m =>
        (userId, m.senderId, .receipt, some ⟨.delivery, m.senderId, m.timestamp⟩)) ∧
    ∀ (users : List String) (first second : List (String × (ℕ → UInt64))),
      (∀ e ∈ queuedBy calls, e.senderId ∈ users ∧ e.recipientId ∈ users) →
      users ⊆ first.map Prod.fst → users ⊆ second.map Prod.fst →
      (Database.run J (calls ++ round first ++ round second)).1.messages.rows = [] := by
  intro db ledger
  obtain ⟨hrep, hledger⟩ := store_refines J calls
  refine ⟨?_, deliveryReceipts_spec J, ?_⟩
  · intro u
    have hrows : (db.messages.select fun r => r.2.recipientId == u).map
        (fun r => J.envelope.decode r.2.envelope) = ((Relay.run J calls).1 u).map some := by
      have := congrArg (List.map J.envelope.decode) (hrep u)
      simpa [Function.comp_def] using this
    have hcons := congrArg (List.map some) (Relay.conserves J calls u)
    rw [List.map_append] at hcons
    rw [hrows]
    show ((Database.run J calls).2.fetched u).map some ++ _ =
      ((Database.run J calls).2.inserted.filter _).map some
    rw [hledger]
    exact hcons
  · intro users first second hmail hfirst hsecond
    obtain ⟨hrep', -⟩ := store_refines J (calls ++ round first ++ round second)
    have hamong := among_run (J := J) calls hmail
    rw [Relay.run_round, Relay.run_round, round_drains (among_afterRound hamong first)
      (chat_gone hamong hfirst) hsecond] at hrep'
    exact hrep'.rows_eq_nil

/-- A message a user sends to itself: it and its receipt are gone after two fetches. -/
theorem relay_conserves_self_addressed :
    (Database.run Symbolic.symbolicSerde.toRelaySerde
      ([.queueMessage (Envelope.new 5 "alice" "alice" [1] .normal)] ++
        round [("alice", fun _ => 6)] ++ round [("alice", fun _ => 7)])).1.messages.rows = [] :=
  (relay_conserves Symbolic.symbolicSerde.toRelaySerde
    [.queueMessage (Envelope.new 5 "alice" "alice" [1] .normal)]).2.2 ["alice"]
    [("alice", fun _ => 6)] [("alice", fun _ => 7)] (by simp [queuedBy, Envelope.new])
    (by simp) (by simp)

end TinTin.Server
