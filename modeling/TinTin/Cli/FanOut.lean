/-
  Messages to a group and to a channel (`send_group_message`, `send_channel_message`).

  Both encrypt a tagged payload for each other member, with the session for it or with one made
  from its bundle, in the steps of `send_encrypted`, and post it. A bundle that cannot be
  fetched ends the call; a post that the relay refuses goes to the console only. A group
  without other members makes the call a note to self.

  The members are those the relay answers with, none where that request failed. `groups` and
  `channels` are left out of the client but for the name of the one that is written to.

  * `fanOut_spec`: who is served, and with what.
  * `sentTo_opens_iff`: when the member can open its envelope.
  * `fan_out_iff`: when a call serves everybody it can, and can be repeated after an error.
-/
import TinTin.Cli.Crossing
import TinTin.Cli.Isolation
import TinTin.Cli.Text
import Mathlib.Data.List.TakeWhile

namespace TinTin.Cli

open TinTin.Lib TinTin.Core TinTin.Symbolic

variable {Key : Type}

/-! ## The two calls -/

/-- What a call draws and is told: by the pass of its loop, and by the member. -/
structure FanInput (Key : Type) where
  draw : ℕ → SendInput Key
  bundle : String → Option (PreKeyBundle Key)
  outcome : String → PostOutcome
  trackedAt : UInt64
  recordedAt : UInt64

inductive FanError
  /-- the members could not be fetched -/
  | members
  | send (e : SendError)
  deriving DecidableEq, Repr

/-- What a call has to say: the payload, and what it leaves in the own records. -/
structure RoomPost where
  payload : String
  /-- the recipient in `sent_messages` -/
  tracked : String
  name : String
  isGroup : Bool

/-- A JSON number of an `i64`. -/
def Json.ofI64 (n : Int64) : Json := .number (if 0 ≤ n then .posInt n.toUInt64 else .negInt n)

def groupPost (W : Writers Key) (groupId groupName plaintext : String) : RoomPost where
  payload := W.toString (.object [("__tintin_type", .string "group"),
    ("group_id", .string groupId), ("group_name", .string groupName),
    ("text", .string plaintext)])
  tracked := "[" ++ groupName ++ "] " ++ groupId
  name := groupName
  isGroup := true

def channelPost (W : Writers Key) (channelId : Int64) (channelName plaintext : String) : RoomPost where
  payload := W.toString (.object [("__tintin_type", .string "channel"),
    ("channel_id", .ofI64 channelId), ("channel_name", .string channelName),
    ("text", .string plaintext)])
  tracked := "[" ++ channelName ++ "] ch" ++ toString channelId
  name := channelName
  isGroup := false

namespace Client

variable (X : Crates Key) (W : Writers Key)

/-- "Send to each other member encrypted with their session": the result, the client, and the
    envelopes the relay has queued. -/
def fanOut (io : FanInput Key) (payload : String) :
    ℕ → Client Key → List String → Except SendError Unit × Client Key × List Envelope
  | _, c, [] => (.ok (), c, [])
  | i, c, member :: rest =>
    match c.sendEncrypted X (io.draw i) (io.bundle member) member payload with
    | (.error e, c) => (.error e, c, [])
    | (.ok (content, msgType), c) =>
      let envelope := Envelope.new (io.draw i).sentAt c.userId member content msgType
      let queued := if (io.outcome member).queued then [envelope] else []
      match io.outcome member with
      | .writeFailed => (.error .io, c, queued)
      | .noAnswer _ => (.error .io, c, queued)
      | _ =>
        let (result, c, more) := fanOut io payload (i + 1) c rest
        (result, c, queued ++ more)

/-- The loop, and "Track in sent messages". -/
def postTo (io : FanInput Key) (post : RoomPost) (c : Client Key) (others : List String)
    (plaintext : String) : Except FanError Unit × Client Key × List Envelope :=
  match c.fanOut X io post.payload 0 others with
  | (.error e, c, queued) => (.error (.send e), c, queued)
  | (.ok (), c, queued) =>
    let c : Client Key := { c with sentMessages := c.sentMessages ++ [
      { recipient := post.tracked
        text := plaintext
        timestamp := io.trackedAt
        status := .sent
        edited := false }] }
    let name := some post.name
    (.ok (), c.recordMessage io.recordedAt post.name plaintext true post.isGroup
      (if post.isGroup then name else none) (!post.isGroup)
      (if post.isGroup then none else name), queued)

/-- `send_group_message`, with the name of the group in `groups`. -/
def sendGroupMessage (io : FanInput Key) (name : Option String) (members : Option (List String))
    (c : Client Key) (groupId plaintext : String) :
    Except FanError Unit × Client Key × List Envelope :=
  let groupName := name.getD groupId
  match members with
  | none => (.error .members, c, [])
  | some members =>
    let others := members.filter (· ≠ c.userId)
    if others = [] then
      -- only ourselves: a saved message
      let (result, c, queued) :=
        c.sendMessage X (io.draw 0) none (io.outcome c.userId) c.userId plaintext
      (result.mapError .send, c, queued.toList)
    else c.postTo X io (groupPost W groupId groupName plaintext) others plaintext

/-- `send_channel_message`, with the name of the channel in `channels`. -/
def sendChannelMessage (io : FanInput Key) (name : Option String)
    (members : Option (List String)) (c : Client Key) (channelId : Int64) (plaintext : String) :
    Except FanError Unit × Client Key × List Envelope :=
  let channelName := name.getD ("ch" ++ toString channelId)
  match members with
  | none => (.error .members, c, [])
  | some members =>
    let others := members.filter (· ≠ c.userId)
    if others = [] then (.ok (), c, [])
    else c.postTo X io (channelPost W channelId channelName plaintext) others plaintext

/-! ## Who is served -/

variable {X} {io : FanInput Key} {payload : String} {c c' : Client Key} {members : List String}

/-- There is a session for the member, or a bundle to make one from. -/
def Reachable (io : FanInput Key) (c : Client Key) (member : String) : Prop :=
  (c.sessions.get member 1).isSome ∨ (io.bundle member).isSome

instance decidableReachable (io : FanInput Key) (c : Client Key) (member : String) :
    Decidable (Reachable io c member) :=
  inferInstanceAs (Decidable (_ ∨ _))

/-- The envelope is the payload for the member, under the session for it or a new one. -/
def SentTo (X : Crates Key) (io : FanInput Key) (payload : String) (c : Client Key)
    (member : String) (e : Envelope) : Prop :=
  ∃ i s isNew c₁ m, c.getOrCreateSession X (io.draw i) (io.bundle member) member =
      some (s, isNew, c₁) ∧
    (s.encrypt X.prims (io.draw i).nonce (utf8 payload)).1 = .ok m ∧
    e = Envelope.new (io.draw i).sentAt c.userId member (c.wrap X s isNew m).1
      (c.wrap X s isNew m).2

theorem exists_session_iff (io : FanInput Key) (i : ℕ) (c : Client Key) (member : String) :
    (c.getOrCreateSession X (io.draw i) (io.bundle member) member).isSome ↔
      Reachable io c member := getOrCreateSession_isSome

/-- What is sent to a member depends on the keys and the session for it. -/
theorem sentTo_congr {member : String} {e : Envelope} (hkeys : SameKeys c c')
    (hs : c'.sessions.get member 1 = c.sessions.get member 1)
    (h : SentTo X io payload c' member e) : SentTo X io payload c member e := by
  obtain ⟨i, s, isNew, c₁, m, hsession, hm, he⟩ := h
  obtain ⟨c₂, hsession'⟩ := getOrCreateSession_congr hkeys.identity hs hsession
  have hwrap : c'.wrap X s isNew m = c.wrap X s isNew m := by
    unfold wrap
    rw [hkeys.identity]
  rw [hkeys.userId, hwrap] at he
  exact ⟨i, s, isNew, c₂, m, hsession', hm, he⟩

/-- **What the loop does**: it serves the members up to the first that cannot be reached, those
    whose post the relay accepts with one envelope each. -/
structure Fanned (X : Crates Key) (io : FanInput Key) (payload : String) (c : Client Key)
    (members : List String) (r : Except SendError Unit × Client Key × List Envelope) : Prop where
  result : r.1 = if ∀ m ∈ members, Reachable io c m then .ok () else .error .userNotFound
  keys : SameKeys c r.2.1
  sessions : ∀ m, (c.sessions.get m 1).isSome → (r.2.1.sessions.get m 1).isSome
  served : ∀ m ∈ members.takeWhile (Reachable io c ·), io.outcome m = .accepted →
    ∃ e, r.2.2.filter (·.recipientId = m) = [e] ∧ SentTo X io payload c m e
  queued : ∀ e ∈ r.2.2, e.recipientId ∈ members.takeWhile (Reachable io c ·) ∧
    io.outcome e.recipientId = .accepted

theorem takeWhile_congr {α : Type} {p q : α → Bool} {l : List α} (h : ∀ x ∈ l, p x = q x) :
    l.takeWhile p = l.takeWhile q := by
  induction l with
  | nil => rfl
  | cons x l ih =>
    rw [List.takeWhile_cons, List.takeWhile_cons, h x List.mem_cons_self,
      ih fun y hy => h y (List.mem_cons_of_mem _ hy)]

/-- One pass, and the passes after it. -/
theorem fanOut_cons {member : String} {rest : List String} {i : ℕ} {sent : Bytes × MessageType}
    (hsend : c.sendEncrypted X (io.draw i) (io.bundle member) member payload = (.ok sent, c'))
    (hout : io.outcome member = .accepted ∨ io.outcome member = .refused) :
    c.fanOut X io payload i (member :: rest) =
      (let r := c'.fanOut X io payload (i + 1) rest
      (r.1, r.2.1, (if io.outcome member = .accepted then
        [Envelope.new (io.draw i).sentAt c'.userId member sent.1 sent.2] else []) ++ r.2.2)) := by
  obtain ⟨content, msgType⟩ := sent
  rw [fanOut, hsend]
  rcases hout with hout | hout <;> rw [hout] <;> rfl

theorem fanOut_spec (hP : X.prims.Lawful)
    (hout : ∀ m, io.outcome m = .accepted ∨ io.outcome m = .refused) (hnodup : members.Nodup)
    (i : ℕ) (c : Client Key) :
    Fanned X io payload c members (c.fanOut X io payload i members) := by
  induction members generalizing i c with
  | nil => exact ⟨by simp [fanOut], ⟨rfl, rfl, rfl⟩, fun _ h => h, by simp, by simp [fanOut]⟩
  | cons member rest ih =>
    obtain ⟨hnew, hnodup⟩ := List.nodup_cons.mp hnodup
    cases hsession : c.getOrCreateSession X (io.draw i) (io.bundle member) member with
    | none =>
      have hunreached : ¬ Reachable io c member := by
        rw [← exists_session_iff (X := X) io i, hsession]
        exact Bool.false_ne_true
      have hrun : c.fanOut X io payload i (member :: rest) = (.error .userNotFound, c, []) := by
        unfold fanOut sendEncrypted
        rw [hsession]
      rw [hrun]
      refine ⟨?_, ⟨rfl, rfl, rfl⟩, fun _ h => h, ?_, ?_⟩
      · rw [if_neg fun hall => hunreached (hall member List.mem_cons_self)]
      · rw [List.takeWhile_cons_of_neg (by simpa using hunreached)]
        exact fun m hm => by cases hm
      · exact fun e he => by cases he
    | some r =>
      obtain ⟨s, isNew, c₁⟩ := r
      obtain ⟨m, c₂, hm, hsend, hget, hother, hkeys, -⟩ := sendEncrypted_spec hP hsession payload
      have hne : ∀ x ∈ rest, x ≠ member := fun x hx heq => hnew (heq ▸ hx)
      have hreach : ∀ x ∈ rest, (Reachable io c₂ x ↔ Reachable io c x) := fun x hx => by
        unfold Reachable
        rw [hother x (hne x hx)]
      have hfirst : Reachable io c member := by
        rw [← exists_session_iff (X := X) io i, hsession]
        rfl
      have htake : rest.takeWhile (Reachable io c₂ ·) = rest.takeWhile (Reachable io c ·) :=
        takeWhile_congr fun x hx => decide_eq_decide.mpr (hreach x hx)
      have hrest := ih hnodup (i + 1) c₂
      rw [fanOut_cons hsend (hout member), hkeys.userId]
      generalize c₂.fanOut X io payload (i + 1) rest = r at hrest
      have hnone : r.2.2.filter (·.recipientId = member) = [] := by
        rw [List.filter_eq_nil_iff]
        intro e he
        have hmem := (hrest.queued e he).1
        have := hne _ ((List.takeWhile_prefix _).subset hmem)
        simpa using this
      refine ⟨?_, hkeys.trans hrest.keys, ?_, ?_, ?_⟩
      · rw [hrest.result]
        have hall : (∀ x ∈ rest, Reachable io c₂ x) ↔ ∀ x ∈ member :: rest, Reachable io c x := by
          rw [List.forall_mem_cons]
          exact ⟨fun h => ⟨hfirst, fun x hx => (hreach x hx).mp (h x hx)⟩,
            fun h x hx => (hreach x hx).mpr (h.2 x hx)⟩
        exact if_congr hall rfl rfl
      · intro x hx
        apply hrest.sessions
        by_cases hxm : x = member
        · rw [hxm, hget]
          rfl
        · rw [hother x hxm]
          exact hx
      · rw [List.takeWhile_cons_of_pos (by simpa using hfirst)]
        intro x hx hacc
        rw [List.filter_append]
        rcases List.mem_cons.mp hx with rfl | hx
        · -- the member of this pass
          rw [if_pos hacc, hnone, List.append_nil]
          refine ⟨_, ?_, i, s, isNew, c₁, m, hsession, hm, rfl⟩
          simp [Envelope.new]
        · have hxm := hne x ((List.takeWhile_prefix _).subset hx)
          obtain ⟨e, he, hsent⟩ := hrest.served x (htake ▸ hx) hacc
          refine ⟨e, ?_, sentTo_congr hkeys (hother x hxm) hsent⟩
          rw [he]
          split <;> simp [Envelope.new, hxm.symm]
      · rw [List.takeWhile_cons_of_pos (by simpa using hfirst)]
        intro e he
        rcases List.mem_append.mp he with he | he
        · split at he
          · next hacc =>
            rw [List.mem_singleton.mp he]
            exact ⟨List.mem_cons_self, hacc⟩
          · cases he
        · obtain ⟨hmem, hacc⟩ := hrest.queued e he
          exact ⟨List.mem_cons_of_mem _ (htake ▸ hmem), hacc⟩

/-! ## What a member can open -/

/-- The client `d` is ready for the next message under the session that `c` has for it, if `c`
    has one. -/
def ReadyFor [DecidableEq Key] (X : Crates Key) (c d : Client Key) : Prop :=
  ∀ s, c.sessions.get d.userId 1 = some s → ∃ s', d.sessions.get c.userId 1 = some s' ∧
    nextKey X.prims s' s.ratchet.dhRatchetKey.publicKey = s.ratchet.sendChainKey

/-- **A member opens its envelope** exactly if it is in step with the sender; a new session is
    always in step. -/
theorem sentTo_opens_iff {X : Crates Term} {io : FanInput Term} {c d : Client Term}
    {e : Envelope} (hX : X.prims = symbolic) (hne : c.userId ≠ d.userId)
    (hbundle : ∀ b, io.bundle d.userId = some b → b = d.register)
    (hwf : d.signedPreKey.keyPair.WellFormed X.prims) (h : SentTo X io payload c d.userId e) :
    d.opens X e = some (utf8 payload) ↔ ReadyFor X c d := by
  have hP : X.prims.Lawful := lawful_of_eq hX
  obtain ⟨i, s, isNew, c₁, m, hsession, hm, rfl⟩ := h
  cases hget : c.sessions.get d.userId 1 with
  | none =>
    refine iff_of_true ?_ fun s hs => by
      rw [hget] at hs
      cases hs
    cases hb : io.bundle d.userId with
    | none =>
      have hreach := getOrCreateSession_isSome.mp (Option.isSome_iff_exists.mpr ⟨_, hsession⟩)
      rw [hget, hb] at hreach
      simp at hreach
    | some b =>
      obtain rfl := hbundle b hb
      rw [hb, getOrCreateSession_new hget] at hsession
      cases hsession
      set prekey : PreKeyBundleMessage Term := ⟨c.identity.publicKey,
        (KeyPair.generate X.prims (io.draw i).ephSecret).publicKey, m⟩
      have hdec := X.serde.preKeyBundleMessage.decode_encode prekey
      set e := Envelope.new (io.draw i).sentAt c.userId d.userId
        (X.serde.preKeyBundleMessage.encode prekey) .preKeyBundle
      have hok : ((responderFor X d e prekey).decrypt X.prims prekey.sessionMessage).1 =
          .ok (utf8 payload) := responder_opens hP hwf hm rfl rfl
      have hopens : d.opens X e = some (utf8 payload) :=
        (opens_hello rfl hdec).trans (congrArg Except.toOption hok)
      exact hopens
  | some old =>
    rw [getOrCreateSession_old hget] at hsession
    cases hsession
    have hsealed := sealed_of_encrypt hP hm
    have hdec := X.serde.sessionMessage.decode_encode m
    unfold ReadyFor
    rw [hget]
    cases hmine : d.sessions.get c.userId 1 with
    | none =>
      refine iff_of_false (fun hopens => ?_) fun hstep => ?_
      · have hnone : d.opens X (Envelope.new (io.draw i).sentAt c.userId d.userId
            (X.serde.sessionMessage.encode m) .normal) = none := by
          unfold opens Envelope.new
          dsimp only
          rw [if_neg hne, hdec, Option.bind_some, hmine, Option.bind_none]
        cases hnone.symm.trans hopens
      · obtain ⟨s', hs', -⟩ := hstep s rfl
        cases hs'
    | some mine =>
      have hopens : d.opens X (Envelope.new (io.draw i).sentAt c.userId d.userId
          (X.serde.sessionMessage.encode m) .normal) = (mine.decrypt X.prims m).1.toOption :=
        opens_normal rfl hne hdec hmine
      refine Iff.trans (b := (mine.decrypt X.prims m).1.toOption = some (utf8 payload)) ?_ ?_
      · exact Eq.congr_left hopens
      · rw [opens_iff hX hsealed mine]
        by_cases hkey : nextKey X.prims mine (halfOf s).header = (halfOf s).sendChain
        · rw [if_pos hkey]
          refine iff_of_true rfl fun s' hs' => ?_
          cases hs'
          exact ⟨mine, rfl, hkey⟩
        · rw [if_neg hkey]
          refine iff_of_false (fun h => by cases h) fun hstep => ?_
          obtain ⟨s', hs', hkey'⟩ := hstep s rfl
          cases hs'
          exact hkey hkey'

/-! ## A call as a whole -/

/-- The members' clients, with what had been queued for them before read. The bundles are the
    ones they registered. -/
structure Members (X : Crates Key) (io : FanInput Key) where
  client : String → Client Key
  userId : ∀ m, (client m).userId = m
  bundle : ∀ m b, io.bundle m = some b → b = (client m).register
  wellFormed : ∀ m, (client m).signedPreKey.keyPair.WellFormed X.prims

/-- The member can be served: it can be reached, and the relay accepts the post. -/
def Servable (io : FanInput Key) (c : Client Key) (member : String) : Prop :=
  Reachable io c member ∧ io.outcome member = .accepted

/-- **A fan-out**: every other member that can be served has one envelope queued that it opens
    to the payload, nobody else has one, and a retry after an error serves nobody twice. -/
structure FansOut [DecidableEq Key] (X : Crates Key) (io : FanInput Key) (payload : String)
    (c : Client Key) (client : String → Client Key) (others : List String)
    (retry : FanInput Key → Option (List String) → Client Key →
      Except FanError Unit × Client Key × List Envelope)
    (r : Except FanError Unit × Client Key × List Envelope) : Prop where
  delivered : ∀ m ∈ others, Servable io c m →
    ∃ e, r.2.2.filter (·.recipientId = m) = [e] ∧ (client m).opens X e = some (utf8 payload)
  only : ∀ e ∈ r.2.2, e.recipientId ∈ others
  once : ∀ err, r.1 = .error err → ∀ io' members' m, r.2.2.filter (·.recipientId = m) = [] ∨
    (retry io' members' r.2.1).2.2.filter (·.recipientId = m) = []

variable {post : RoomPost} {others : List String} {plaintext : String}

/-- The call queues what its loop queues, and fails where that fails. -/
theorem postTo_spec (X : Crates Key) (io : FanInput Key) (post : RoomPost) (c : Client Key)
    (others : List String) (plaintext : String) :
    let r := c.postTo X io post others plaintext
    let loop := c.fanOut X io post.payload 0 others
    r.2.2 = loop.2.2 ∧ r.2.1.sessions = loop.2.1.sessions ∧ r.2.1.userId = loop.2.1.userId ∧
      ((∃ err, r.1 = .error err) ↔ ∃ err, loop.1 = .error err) := by
  intro r loop
  have hr : r = c.postTo X io post others plaintext := rfl
  unfold postTo at hr
  rcases hloop : loop with ⟨_ | ⟨⟩, c', queued⟩
  · rw [show c.fanOut X io post.payload 0 others = _ from hloop] at hr
    rw [hr]
    exact ⟨rfl, rfl, rfl, iff_of_true ⟨_, rfl⟩ ⟨_, rfl⟩⟩
  · rw [show c.fanOut X io post.payload 0 others = _ from hloop] at hr
    rw [hr]
    exact ⟨rfl, rfl, rfl, iff_of_false (fun ⟨_, h⟩ => by cases h) fun ⟨_, h⟩ => by cases h⟩

/-- Written to alone, a member that can be served is served. -/
theorem postTo_single (hP : X.prims.Lawful) (post : RoomPost) (plaintext : String) {m : String}
    (hreach : Reachable io c m) :
    (c.postTo X { io with outcome := fun _ => .accepted } post [m] plaintext).2.2.filter
      (·.recipientId = m) ≠ [] := by
  obtain ⟨hqueued, -⟩ := postTo_spec X { io with outcome := fun _ => .accepted } post c [m]
    plaintext
  have hloop : Fanned X { io with outcome := fun _ => .accepted } post.payload c [m]
      (c.fanOut X { io with outcome := fun _ => .accepted } post.payload 0 [m]) :=
    fanOut_spec hP (fun _ => Or.inl rfl) (List.nodup_singleton m) 0 c
  have hreach' : Reachable { io with outcome := fun _ => .accepted } c m := hreach
  have htake : m ∈ [m].takeWhile
      (Reachable { io with outcome := fun _ => PostOutcome.accepted } c ·) := by
    rw [List.takeWhile_cons_of_pos (by simpa using hreach')]
    exact List.mem_cons_self
  obtain ⟨e, he, -⟩ := hloop.served m htake rfl
  rw [hqueued, he]
  exact List.cons_ne_nil _ _

/-- Nobody who cannot be reached stands beside a member that can be served, and those that can
    be served are in step with the sender. -/
def CanFanOut [DecidableEq Key] (X : Crates Key) (io : FanInput Key) (c : Client Key)
    (client : String → Client Key) (others : List String) : Prop :=
  ((∀ m ∈ others, Reachable io c m) ∨ ∀ m ∈ others, ¬ Servable io c m) ∧
    ∀ m ∈ others, Servable io c m → ReadyFor X c (client m)

section Symbolic

variable {X : Crates Term} {io : FanInput Term} {c : Client Term}
  {retry : FanInput Term → Option (List String) → Client Term →
    Except FanError Unit × Client Term × List Envelope}

/-- **When a loop over other members is a fan-out**: no member keeps it from another one that
    could be served, and those served are in step with the sender. -/
theorem postTo_fansOut_iff (hX : X.prims = symbolic) (u : Members X io)
    (hout : ∀ m, io.outcome m = .accepted ∨ io.outcome m = .refused) (hnodup : others.Nodup)
    (hself : c.userId ∉ others) {post : RoomPost} {plaintext : String}
    (hretry : ∀ m ∈ others, ∀ c', c'.userId = c.userId → Reachable io c' m →
      ∃ io' members', (retry io' members' c').2.2.filter (·.recipientId = m) ≠ []) :
    FansOut X io post.payload c u.client others retry (c.postTo X io post others plaintext) ↔
      CanFanOut X io c u.client others := by
  have hP : X.prims.Lawful := lawful_of_eq hX
  obtain ⟨hqueued, hsessions, huser, herror⟩ := postTo_spec X io post c others plaintext
  have hloop : Fanned X io post.payload c others (c.fanOut X io post.payload 0 others) :=
    fanOut_spec hP hout hnodup 0 c
  generalize c.postTo X io post others plaintext = r at *
  generalize c.fanOut X io post.payload 0 others = loop at *
  have hopens : ∀ m ∈ others, ∀ e, SentTo X io post.payload c m e →
      ((u.client m).opens X e = some (utf8 post.payload) ↔ ReadyFor X c (u.client m)) := by
    intro m hm e hsent
    have hid := u.userId m
    refine sentTo_opens_iff hX ?_ ?_ (u.wellFormed m) (by rw [hid]; exact hsent)
    · rw [hid]
      exact fun heq => hself (heq ▸ hm)
    · intro b hb
      rw [hid] at hb
      exact u.bundle m b hb
  constructor
  · intro h
    refine ⟨?_, ?_⟩
    · by_contra hnot
      rw [not_or] at hnot
      obtain ⟨hall, hsome⟩ := hnot
      push Not at hsome
      obtain ⟨m, hm, hserve⟩ := hsome
      -- the call fails, and repeating it serves `m` again
      obtain ⟨err, herr⟩ := herror.mpr ⟨_, by rw [hloop.result, if_neg hall]⟩
      obtain ⟨e, he, -⟩ := h.delivered m hm hserve
      have hreach : Reachable io r.2.1 m := by
        unfold Reachable
        rw [hsessions]
        exact hserve.1.imp_left (hloop.sessions m)
      obtain ⟨io', members', hagain⟩ := hretry m hm r.2.1
        (huser.trans hloop.keys.userId) hreach
      rcases h.once err herr io' members' m with hnone | hnone
      · rw [he] at hnone
        cases hnone
      · exact hagain hnone
    · intro m hm hserve
      obtain ⟨e, he, hok⟩ := h.delivered m hm hserve
      have hmem : e ∈ r.2.2.filter (·.recipientId = m) := by
        rw [he]
        exact List.mem_singleton_self e
      obtain ⟨hmem, hrecipient⟩ := List.mem_filter.mp hmem
      rw [hqueued] at hmem he
      obtain ⟨htake, hacc⟩ := hloop.queued e hmem
      rw [of_decide_eq_true hrecipient] at htake hacc
      obtain ⟨e', he', hsent⟩ := hloop.served m htake hacc
      obtain rfl : e = e' := List.head_eq_of_cons_eq (he.symm.trans he')
      exact (hopens m hm e hsent).mp hok
  · rintro ⟨hreach, hready⟩
    refine ⟨?_, ?_, ?_⟩
    · intro m hm hserve
      have hall : ∀ m ∈ others, Reachable io c m :=
        hreach.resolve_right fun hnone => hnone m hm hserve
      have htake : others.takeWhile (Reachable io c ·) = others := by
        rw [List.takeWhile_eq_self_iff]
        intro x hx
        exact decide_eq_true (hall x hx)
      obtain ⟨e, he, hsent⟩ := hloop.served m (by rw [htake]; exact hm) hserve.2
      exact ⟨e, hqueued ▸ he, (hopens m hm e hsent).mpr (hready m hm hserve)⟩
    · intro e he
      rw [hqueued] at he
      exact (List.takeWhile_prefix _).subset (hloop.queued e he).1
    · intro err herr io' members' m
      left
      obtain ⟨err', herr'⟩ := herror.mp ⟨err, herr⟩
      have hnot : ¬ ∀ m ∈ others, Reachable io c m := by
        intro hall
        rw [hloop.result, if_pos hall] at herr'
        cases herr'
      rw [hqueued, List.filter_eq_nil_iff]
      intro e he
      obtain ⟨htake, hacc⟩ := hloop.queued e he
      have hmem := (List.takeWhile_prefix _).subset htake
      have hreached : Reachable io c e.recipientId := by
        have := List.mem_takeWhile_imp htake
        simpa using this
      exact absurd ⟨hreached, hacc⟩ (hreach.resolve_left hnot _ hmem)

/-- What a note to self queues. -/
theorem sendMessage_self (d : SendInput Term) (outcome : PostOutcome) (text : String) :
    (c.sendMessage X d none outcome c.userId text).2.2 = if outcome.queued then
      some (Envelope.new d.sentAt c.userId c.userId (utf8 text) .normal) else none := by
  unfold sendMessage
  rw [if_pos rfl]
  obtain ⟨c', hpost, -⟩ := post_spec d outcome c c.userId text (utf8 text) .normal
  rw [hpost]

/-- **When a message to a group or a channel is a fan-out.** For every list of members, of which
    any may be without a bundle or have its post refused: exactly if nobody who cannot be
    reached stands beside a member that can be served, the sessions are in step, and, for a
    group, there is another member. -/
theorem fan_out_iff (hX : X.prims = symbolic) (u : Members X io)
    (hout : ∀ m, io.outcome m = .accepted ∨ io.outcome m = .refused) {members : List String}
    (hnodup : members.Nodup) (W : Writers Term) (name : Option String) (groupId : String)
    (channelId : Int64) (plaintext : String) :
    let others := members.filter (· ≠ c.userId)
    (FansOut X io (groupPost W groupId (name.getD groupId) plaintext).payload c u.client others
        (fun io' members' c' => c'.sendGroupMessage X W io' name members' groupId plaintext)
        (c.sendGroupMessage X W io name (some members) groupId plaintext) ↔
      (others ≠ [] ∨ io.outcome c.userId = .refused) ∧ CanFanOut X io c u.client others) ∧
    (FansOut X io (channelPost W channelId (name.getD ("ch" ++ toString channelId))
        plaintext).payload c u.client others
        (fun io' members' c' => c'.sendChannelMessage X W io' name members' channelId plaintext)
        (c.sendChannelMessage X W io name (some members) channelId plaintext) ↔
      CanFanOut X io c u.client others) := by
  intro others
  have hP : X.prims.Lawful := lawful_of_eq hX
  have hself : c.userId ∉ others := fun h => by
    have := (List.mem_filter.mp h).2
    simp at this
  have halone : ∀ m ∈ others, ∀ c' : Client Term, c'.userId = c.userId →
      [m].filter (· ≠ c'.userId) = [m] := by
    intro m hm c' huser
    have hne : m ≠ c'.userId := by
      rw [huser]
      exact fun heq => hself (heq ▸ hm)
    simp [hne]
  have hvacuous : others = [] → CanFanOut X io c u.client others := by
    intro hnil
    rw [hnil]
    exact ⟨Or.inl fun m hm => (by cases hm), fun m hm => by cases hm⟩
  refine ⟨?_, ?_⟩
  · by_cases hnil : others = []
    · have hqueued : (c.sendGroupMessage X W io name (some members) groupId plaintext).2.2 =
          (c.sendMessage X (io.draw 0) none (io.outcome c.userId) c.userId plaintext).2.2.toList := by
        unfold sendGroupMessage
        dsimp only
        rw [if_pos hnil]
      rw [sendMessage_self] at hqueued
      constructor
      · intro h
        refine ⟨Or.inr ?_, hvacuous hnil⟩
        by_contra hnot
        have hacc := (hout c.userId).resolve_right hnot
        rw [hacc] at hqueued
        have hmem := h.only _ (by rw [hqueued]; exact List.mem_singleton_self _)
        rw [hnil] at hmem
        cases hmem
      · rintro ⟨hor, -⟩
        rw [hor.resolve_left fun h => h hnil] at hqueued
        refine ⟨?_, ?_, ?_⟩
        · intro m hm
          rw [hnil] at hm
          cases hm
        · intro e he
          rw [hqueued] at he
          cases he
        · intro err _ io' members' m
          left
          rw [hqueued]
          rfl
    · have hrun : c.sendGroupMessage X W io name (some members) groupId plaintext =
          c.postTo X io (groupPost W groupId (name.getD groupId) plaintext) others plaintext :=
        if_neg hnil
      rw [hrun, postTo_fansOut_iff hX u hout (hnodup.filter _) hself]
      · exact ⟨fun h => ⟨Or.inl hnil, h⟩, And.right⟩
      · intro m hm c' huser hreach
        refine ⟨{ io with outcome := fun _ => .accepted }, some [m], ?_⟩
        unfold sendGroupMessage
        dsimp only
        rw [halone m hm c' huser, if_neg (List.cons_ne_nil _ _)]
        exact postTo_single hP _ plaintext hreach
  · by_cases hnil : others = []
    · have hrun : c.sendChannelMessage X W io name (some members) channelId plaintext =
          (.ok (), c, []) := if_pos hnil
      rw [hrun]
      refine iff_of_true ⟨?_, ?_, ?_⟩ (hvacuous hnil)
      · intro m hm
        rw [hnil] at hm
        cases hm
      · intro e he
        cases he
      · intro err herr
        cases herr
    · have hrun : c.sendChannelMessage X W io name (some members) channelId plaintext =
          c.postTo X io (channelPost W channelId (name.getD ("ch" ++ toString channelId))
            plaintext) others plaintext := if_neg hnil
      rw [hrun, postTo_fansOut_iff hX u hout (hnodup.filter _) hself]
      intro m hm c' huser hreach
      refine ⟨{ io with outcome := fun _ => .accepted }, some [m], ?_⟩
      unfold sendChannelMessage
      dsimp only
      rw [halone m hm c' huser, if_neg (List.cons_ne_nil _ _)]
      exact postTo_single hP _ plaintext hreach

/-! ### Alice, Bob and Carol -/

def freshMember (userId : String) : Client Term := .new symbolic (.secret 2) (.secret 3) userId

/-- A relay that knows the registered users and accepts every post. -/
def freshFan (registered : String → Bool) : FanInput Term where
  draw i := freshSendInput (4 + i)
  bundle m := if registered m then some (freshMember m).register else none
  outcome _ := .accepted
  trackedAt := 0
  recordedAt := 0

def freshMembers (registered : String → Bool) : Members plainCrates (freshFan registered) where
  client := freshMember
  userId _ := rfl
  bundle m b h := by
    unfold freshFan at h
    dsimp only at h
    split at h
    · exact (Option.some.inj h).symm
    · cases h
  wellFormed m := SignedPreKey.generate_wellFormed symbolic 1 (freshMember m).identity (.secret 3)

def plainWriters : Writers Term := ⟨fun _ => "", fun _ => "", fun _ => ""⟩

/-- With everybody registered, both get the message. -/
theorem fan_out_fresh :
    FansOut plainCrates (freshFan fun _ => true)
      (groupPost plainWriters "g" "friends" "hello").payload (freshMember "alice") freshMember
      ["bob", "carol"]
      (fun io' members' c' => c'.sendGroupMessage plainCrates plainWriters io' (some "friends")
        members' "g" "hello")
      ((freshMember "alice").sendGroupMessage plainCrates plainWriters (freshFan fun _ => true)
        (some "friends") (some ["alice", "bob", "carol"]) "g" "hello") := by
  have hothers : ["alice", "bob", "carol"].filter (· ≠ (freshMember "alice").userId) =
      ["bob", "carol"] := by decide
  have h := fan_out_iff (X := plainCrates) (c := freshMember "alice") rfl
    (freshMembers fun _ => true) (fun _ => Or.inl rfl)
    (show ["alice", "bob", "carol"].Nodup by decide) plainWriters (some "friends") "g" 0 "hello"
  rw [hothers] at h
  refine h.1.mpr ⟨Or.inl (by decide), Or.inl fun m hm => Or.inr rfl, fun m hm _ s hs => ?_⟩
  cases hs

/-- Bob has not registered: Carol gets nothing, although she could be served. -/
theorem unregistered_member_blocks :
    let io := freshFan (· ≠ "bob")
    let r := (freshMember "alice").sendGroupMessage plainCrates plainWriters io (some "friends")
      (some ["alice", "bob", "carol"]) "g" "hello"
    r.1 = .error (.send .userNotFound) ∧ r.2.2 = [] ∧ Servable io (freshMember "alice") "carol" ∧
      ¬ FansOut plainCrates io (groupPost plainWriters "g" "friends" "hello").payload
        (freshMember "alice") freshMember ["bob", "carol"]
        (fun io' members' c' => c'.sendGroupMessage plainCrates plainWriters io' (some "friends")
          members' "g" "hello") r := by
  intro io r
  have hserve : Servable io (freshMember "alice") "carol" := ⟨Or.inr rfl, rfl⟩
  have hqueued : r.2.2 = [] := rfl
  refine ⟨rfl, hqueued, hserve, fun h => ?_⟩
  obtain ⟨e, he, -⟩ := h.delivered "carol" (by decide) hserve
  rw [hqueued] at he
  cases he

end Symbolic

end Client

end TinTin.Cli
