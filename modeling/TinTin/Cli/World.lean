/-
  Two registered clients and the relay between them.

  A step is one call: a client sends a text to the other one, or fetches and reads what waits
  for it. The relay is the one of `Server/Relay.lean`, which the store refines; it adds a
  delivery receipt for each message a fetch returns, and the client a read receipt for each
  message it has read.

  * `chat`: the messages that wait for a client, receipts left aside. `chat_post`,
    `chat_fetch`: what posting and fetching do to them.
-/
import TinTin.Cli.Handshake
import TinTin.Cli.Receive
import TinTin.Server.Relay

namespace TinTin.Cli

open TinTin.Lib TinTin.Core TinTin.Server

variable {Key : Type}

/-! ## The two clients -/

/-- Two clients of different users, without sessions for each other. Their signed pre-keys are
    X25519 pairs, as `SignedPreKey::generate` makes them. -/
structure Peers (X : Crates Key) where
  client : Party → Client Key
  userId_ne : (client .alice).userId ≠ (client .bob).userId
  noSession : ∀ p, (client p).sessions.get (client p.peer).userId 1 = none
  wellFormed : ∀ p, (client p).signedPreKey.keyPair.WellFormed X.prims

namespace Peers

variable {X : Crates Key}

def userId (u : Peers X) (p : Party) : String := (u.client p).userId

theorem userId_peer_ne (u : Peers X) (p : Party) : u.userId p.peer ≠ u.userId p := by
  cases p with
  | alice => exact u.userId_ne.symm
  | bob => exact u.userId_ne

/-- The bundles the two have registered. -/
def bundles (u : Peers X) (userId : String) : Option (PreKeyBundle Key) :=
  if userId = u.userId .alice then some (u.client .alice).register
  else if userId = u.userId .bob then some (u.client .bob).register
  else none

theorem bundles_userId (u : Peers X) (p : Party) :
    u.bundles (u.userId p) = some (u.client p).register := by
  unfold bundles
  cases p with
  | alice => rw [if_pos rfl]
  | bob => rw [if_neg (show u.userId .bob ≠ u.userId .alice from u.userId_ne.symm), if_pos rfl]

end Peers

/-! ## The world -/

/-- The clients, the relay's queues and the registered bundles. -/
structure World (Key : Type) where
  client : Party → Client Key
  relay : Relay
  bundles : String → Option (PreKeyBundle Key)

/-- One call by a client. No call fails on the socket. -/
inductive WorldStep (Key : Type)
  | send (p : Party) (text : String) (io : SendInput Key)
  /-- `clock` gives the timestamps of the relay's delivery receipts -/
  | receive (p : Party) (clock : ℕ → UInt64) (io : ReceiveInput Key)

/-- The texts that `p` sends in a run, in order. -/
def textsBy (p : Party) : List (WorldStep Key) → List String :=
  List.filterMap fun
    | .send q text _ => if q = p then some text else none
    | .receive _ _ _ => none

theorem textsBy_snoc_send (p q : Party) (text : String) (io : SendInput Key)
    (steps : List (WorldStep Key)) :
    textsBy p (steps ++ [.send q text io]) =
      textsBy p steps ++ if q = p then [text] else [] := by
  unfold textsBy
  rw [List.filterMap_append]
  by_cases h : q = p <;> simp [h]

theorem textsBy_snoc_receive (p q : Party) (clock : ℕ → UInt64) (io : ReceiveInput Key)
    (steps : List (WorldStep Key)) :
    textsBy p (steps ++ [.receive q clock io]) = textsBy p steps := by
  simp [textsBy]

theorem textsBy_subset (p : Party) (steps steps' : List (WorldStep Key)) :
    textsBy p steps ⊆ textsBy p (steps ++ steps') := by
  unfold textsBy
  rw [List.filterMap_append]
  exact List.subset_append_left _ _

namespace World

/-- Both clients registered, nothing queued. -/
def start {X : Crates Key} (u : Peers X) : World Key := ⟨u.client, Relay.empty, u.bundles⟩

def userId (w : World Key) (p : Party) : String := (w.client p).userId

/-- The session of `p` for the other client. -/
def session (w : World Key) (p : Party) : Option (Session Key) :=
  (w.client p).sessions.get (w.userId p.peer) 1

/-- The messages that wait for `p`. -/
def chat (w : World Key) (p : Party) : List Envelope :=
  (w.relay (w.userId p)).filter (·.msgType.isChat)

/-- The texts `p` has recorded as coming from the other client. -/
def incoming (w : World Key) (p : Party) : List String := (w.client p).incoming (w.userId p.peer)

/-- The world with another client `p` and other queues. -/
def put (w : World Key) (p : Party) (c : Client Key) (relay : Relay) : World Key :=
  { w with client := Function.update w.client p c, relay := relay }

variable (X : Crates Key) [DecidableEq Key]

/-- `p` calls `send_message` for the other client. -/
def send (w : World Key) (p : Party) (text : String) (io : SendInput Key) : World Key :=
  let recipient := w.userId p.peer
  let (_, c, queued) :=
    (w.client p).sendMessage X io (w.bundles recipient) .accepted recipient text
  w.put p c (queued.toList.foldl Relay.post w.relay)

/-- `p` calls `receive_messages`. -/
def receive (w : World Key) (p : Party) (clock : ℕ → UInt64) (io : ReceiveInput Key) : World Key :=
  let (messages, relay) := w.relay.fetch X.serde.toRelaySerde (w.userId p) clock
  let (_, c, posted) := (w.client p).receiveMessages X io (some (messages.map some))
  w.put p c (posted.foldl Relay.post relay)

variable {X} in
omit [DecidableEq Key] in
theorem send_eq {w : World Key} {p : Party} {text : String} {io : SendInput Key}
    {bundle : Option (PreKeyBundle Key)} {r : Except SendError Unit} {c : Client Key}
    {e : Envelope} (hb : w.bundles (w.userId p.peer) = bundle)
    (h : (w.client p).sendMessage X io bundle .accepted (w.userId p.peer) text = (r, c, some e)) :
    w.send X p text io = w.put p c (w.relay.post e) := by
  unfold send
  dsimp only
  rw [hb, h]
  rfl

def step (w : World Key) : WorldStep Key → World Key
  | .send p text io => w.send X p text io
  | .receive p clock io => w.receive X p clock io

def run (w : World Key) (steps : List (WorldStep Key)) : World Key := steps.foldl (step X) w

theorem run_snoc (w : World Key) (steps : List (WorldStep Key)) (a : WorldStep Key) :
    w.run X (steps ++ [a]) = (w.run X steps).step X a := by
  unfold run
  rw [List.foldl_append]
  rfl

/-- The session of `p` for the other client, if it has one, was made by `new_responder`. -/
def IsResponder (w : World Key) (p : Party) : Prop :=
  (w.session p).map (·.ratchet.isInitiator) = some false

/-- The session of `p` is a responder one, and the other client's session for `p` is a
    responder one too, or the `PreKeyBundle` message of `p` still waits for it. -/
def Crossed (w : World Key) (p : Party) : Prop :=
  w.IsResponder p ∧ (w.IsResponder p.peer ∨ ∃ e ∈ w.chat p.peer, e.msgType = .preKeyBundle)

/-- No send in the run is made by a crossed client. -/
def NeverCrossed : World Key → List (WorldStep Key) → Prop
  | _, [] => True
  | w, .send p text io :: steps => ¬ w.Crossed p ∧ NeverCrossed (w.send X p text io) steps
  | w, .receive p clock io :: steps => NeverCrossed (w.receive X p clock io) steps

theorem neverCrossed_snoc {w : World Key} {steps : List (WorldStep Key)} {a : WorldStep Key}
    (h : w.NeverCrossed X (steps ++ [a])) :
    w.NeverCrossed X steps ∧ ∀ p text io, a = .send p text io → ¬ (w.run X steps).Crossed p := by
  induction steps generalizing w with
  | nil =>
    refine ⟨trivial, ?_⟩
    rintro p text io rfl
    exact h.1
  | cons b steps ih =>
    cases b with
    | send q t i =>
      obtain ⟨hq, hrest⟩ := h
      obtain ⟨h₁, h₂⟩ := ih hrest
      exact ⟨⟨hq, h₁⟩, h₂⟩
    | receive q clock i => exact ih h

/-! ### One client replaced -/

section Put

omit [DecidableEq Key]

variable {w : World Key} {p : Party} {c : Client Key} {relay : Relay}

@[simp] theorem put_client_self : (w.put p c relay).client p = c := Function.update_self ..

@[simp] theorem put_client_peer : (w.put p c relay).client p.peer = w.client p.peer :=
  Function.update_of_ne p.peer_ne ..

variable (hc : Client.SameKeys (w.client p) c)

include hc

theorem put_userId (q : Party) : (w.put p c relay).userId q = w.userId q := by
  rcases p.eq_or_eq_peer q with rfl | rfl
  · rw [userId, put_client_self, hc.userId, userId]
  · rw [userId, put_client_peer, userId]

theorem put_session_self : (w.put p c relay).session p = c.sessions.get (w.userId p.peer) 1 := by
  rw [session, put_client_self, put_userId hc]

theorem put_session_peer : (w.put p c relay).session p.peer = w.session p.peer := by
  rw [session, put_client_peer, put_userId hc, session]

theorem put_incoming_self : (w.put p c relay).incoming p = c.incoming (w.userId p.peer) := by
  rw [incoming, put_client_self, put_userId hc]

theorem put_incoming_peer : (w.put p c relay).incoming p.peer = w.incoming p.peer := by
  rw [incoming, put_client_peer, put_userId hc, incoming]

theorem put_chat (q : Party) :
    (w.put p c relay).chat q = (relay (w.userId q)).filter (·.msgType.isChat) := by
  rw [chat, put_userId hc]
  rfl

end Put

end World

/-! ## Queues without receipts -/

theorem chat_post (q : Relay) (e : Envelope) (u : String) :
    (q.post e u).filter (·.msgType.isChat) =
      (q u).filter (·.msgType.isChat) ++
        if e.recipientId = u ∧ e.msgType.isChat then [e] else [] := by
  rw [Relay.post_apply, List.filter_append]
  by_cases h : e.recipientId = u
  · by_cases hc : e.msgType.isChat <;> simp [h, hc]
  · simp [h]

theorem chat_posts {es : List Envelope} (hes : ∀ e ∈ es, e.msgType.isChat = false) (q : Relay)
    (u : String) :
    (es.foldl Relay.post q u).filter (·.msgType.isChat) = (q u).filter (·.msgType.isChat) := by
  induction es generalizing q with
  | nil => rfl
  | cons e es ih =>
    rw [List.foldl_cons, ih (fun x hx => hes x (List.mem_cons_of_mem _ hx)), chat_post,
      hes e List.mem_cons_self]
    simp

/-- A fetch takes the user's messages away and touches nobody else's. -/
theorem chat_fetch (J : RelaySerde) (q : Relay) (v : String) (clock : ℕ → UInt64) (u : String) :
    ((q.fetch J v clock).2 u).filter (·.msgType.isChat) =
      if u = v then [] else (q u).filter (·.msgType.isChat) := by
  unfold Relay.fetch
  dsimp only
  rw [chat_posts]
  · by_cases h : u = v
    · subst h
      rw [Function.update_self, if_pos rfl]
      rfl
    · rw [Function.update_of_ne h, if_neg h]
  · intro e he
    rw [(mem_deliveryReceipts he).1]
    rfl

end TinTin.Cli
