/-
  What a failed `start_call`, `accept_call` or `end_call` leaves behind.

  `start_call` and `accept_call` change the active call before they send their signal, and
  `end_call` clears it after its own has been sent. So each is as it should be where the signal can
  be sent (`CanSend`), and not otherwise.

  * `sendMessage_ok_iff`: when `send_message` succeeds; `canSend_iff`: with an AEAD that always
    encrypts.
  * `failed_call_iff`: when a failed `start_call` or `accept_call` leaves the active call alone, and
    when the client is free after `end_call`.
  * `stuck_in_call`: a call to an unknown user stays, and so does one that cannot be ended.
-/
import TinTin.Cli.Calls
import TinTin.Cli.Delivery

namespace TinTin.Cli

open TinTin.Lib TinTin.Core TinTin.Symbolic

variable {Key : Type}

/-- The user can be reached with the text: a note to self, or a session at hand or a bundle to make
    one from that encrypts it; and the relay accepts the envelope. -/
structure CanSend (X : Crates Key) (io : SendInput Key) (bundle : Option (PreKeyBundle Key))
    (outcome : PostOutcome) (c : Client Key) (recipient text : String) : Prop where
  accepted : outcome = .accepted
  encrypts : recipient = c.userId ∨ ∃ s isNew c₁ m,
    c.getOrCreateSession X io bundle recipient = some (s, isNew, c₁) ∧
      (s.encrypt X.prims io.nonce (utf8 text)).1 = .ok m

namespace Client

variable {X : Crates Key} {io : SendInput Key} {bundle : Option (PreKeyBundle Key)}
  {outcome : PostOutcome} {c : Client Key}

theorem post_ok_iff (recipient text : String) (content : Bytes) (msgType : MessageType) :
    (c.post io outcome recipient text content msgType).1 = .ok () ↔ outcome = .accepted := by
  unfold post
  cases outcome <;> simp [sendResult]

/-- **When `send_message` succeeds.** -/
theorem sendMessage_ok_iff (recipient text : String) :
    (c.sendMessage X io bundle outcome recipient text).1 = .ok () ↔
      CanSend X io bundle outcome c recipient text := by
  unfold sendMessage
  by_cases hself : recipient = c.userId
  · rw [if_pos hself, post_ok_iff]
    exact ⟨fun h => ⟨h, .inl hself⟩, fun h => h.accepted⟩
  · rw [if_neg hself]
    unfold sendEncrypted
    cases hs : c.getOrCreateSession X io bundle recipient with
    | none =>
      refine iff_of_false (fun h => by cases h) ?_
      rintro ⟨-, h | ⟨s, isNew, c₁, m, hs', -⟩⟩
      · exact hself h
      · rw [hs] at hs'
        cases hs'
    | some r =>
      obtain ⟨s, isNew, c₁⟩ := r
      dsimp only
      cases hm : (s.encrypt X.prims io.nonce (utf8 text)).1 with
      | error e =>
        refine iff_of_false (fun h => by cases h) ?_
        rintro ⟨-, h | ⟨s', isNew', c₂, m, hs', hm'⟩⟩
        · exact hself h
        · rw [hs] at hs'
          cases hs'
          rw [hm] at hm'
          cases hm'
      | ok m =>
        dsimp only
        rw [post_ok_iff]
        exact ⟨fun h => ⟨h, .inr ⟨s, isNew, c₁, m, hs, hm⟩⟩, fun h => h.accepted⟩

theorem canSend_withCall {recipient text : String}
    (h : CanSend X io bundle outcome c recipient text) (call : Option (ActiveCall Key)) :
    CanSend X io bundle outcome { c with activeCall := call } recipient text := by
  refine ⟨h.accepted, h.encrypts.imp id ?_⟩
  rintro ⟨s, isNew, c₁, m, hs, hm⟩
  have hcall : ({ c with activeCall := call } : Client Key).identity = c.identity := rfl
  obtain ⟨c₂, hs₂⟩ := getOrCreateSession_congr hcall.symm rfl hs
  exact ⟨s, isNew, c₂, m, hs₂, hm⟩

/-- Whether a text can be sent does not depend on the active call. -/
theorem canSend_call (call : Option (ActiveCall Key)) (recipient text : String) :
    CanSend X io bundle outcome { c with activeCall := call } recipient text ↔
      CanSend X io bundle outcome c recipient text := by
  constructor
  · intro h
    have hback := canSend_withCall h c.activeCall
    exact hback
  · intro h
    exact canSend_withCall h call

/-- With an AEAD that always encrypts, an accepted text is missing a session or a bundle only. -/
theorem canSend_iff (hP : X.prims.Lawful) (recipient text : String) :
    CanSend X io bundle outcome c recipient text ↔
      outcome = .accepted ∧
        (recipient = c.userId ∨ (c.sessions.get recipient 1).isSome ∨ bundle.isSome) := by
  have hsession : (∃ s isNew c₁ m, c.getOrCreateSession X io bundle recipient =
      some (s, isNew, c₁) ∧ (s.encrypt X.prims io.nonce (utf8 text)).1 = .ok m) ↔
      (c.sessions.get recipient 1).isSome ∨ bundle.isSome := by
    constructor
    · rintro ⟨s, isNew, c₁, m, hs, -⟩
      exact getOrCreateSession_isSome.mp (Option.isSome_iff_exists.mpr ⟨_, hs⟩)
    · intro h
      have hmade : (c.getOrCreateSession X io bundle recipient).isSome :=
        getOrCreateSession_isSome.mpr h
      obtain ⟨⟨s, isNew, c₁⟩, hs⟩ := Option.isSome_iff_exists.mp hmade
      obtain ⟨m, hm⟩ := Session.exists_encrypt_ok hP s io.nonce (utf8 text)
      exact ⟨s, isNew, c₁, m, hs, hm⟩
  constructor
  · intro h
    exact ⟨h.accepted, h.encrypts.imp id hsession.mp⟩
  · rintro ⟨haccepted, hknown⟩
    exact ⟨haccepted, hknown.imp id hsession.mpr⟩

/-! ## The three methods -/

variable (X) in
/-- `start_call` is not refused for a call that is still there. -/
def CanStart (c : Client Key) : Prop :=
  ∀ (σ : Type) (post : Post Key σ) now mediaSecret peer,
    (c.startCall X post now mediaSecret peer).1 ≠ .error .alreadyInCall

theorem canStart_iff : CanStart X c ↔ c.activeCall = none := by
  constructor
  · intro h
    by_contra hcall
    apply h (String × Signal Key) .inOrder 0 c.identity.keyPair.secret ""
    unfold startCall
    rw [if_pos (Option.isSome_iff_ne_none.mpr hcall)]
  · intro hcall σ post now mediaSecret peer
    have hfree : ¬ c.activeCall.isSome := by
      rw [hcall]
      exact Bool.false_ne_true
    unfold startCall
    rw [if_neg hfree]
    dsimp only
    generalize post _ _ _ = r
    obtain ⟨result, c', posted⟩ := r
    cases result with
    | error e =>
      intro h
      cases h
    | ok u =>
      intro h
      cases h

/-- A failed operation leaves the active call as it was. -/
def Intact (c : Client Key)
    (result : Except CallError Unit × Client Key × Option Envelope) : Prop :=
  ∀ e, result.1 = .error e → result.2.1.activeCall = c.activeCall

theorem viaRelay_ok_iff (W : Writers Key) (recipient : String) (s : Signal Key) :
    (Post.viaRelay X W io bundle outcome c recipient s).1 = .ok () ↔
      CanSend X io bundle outcome c recipient (s.text W) :=
  sendMessage_ok_iff recipient (s.text W)

/-- What is sent after the call has been changed: a failure keeps the changed call. -/
theorem intact_post_iff (W : Writers Key) (call : ActiveCall Key) (recipient : String)
    (s : Signal Key) :
    Intact c (
      let (result, c, posted) := Post.viaRelay X W io bundle outcome
        { c with activeCall := some call } recipient s
      (result.mapError .send, c, posted)) ↔
      CanSend X io bundle outcome c recipient (s.text W) ∨ c.activeCall = some call := by
  have hok : (Post.viaRelay X W io bundle outcome { c with activeCall := some call } recipient
      s).1 = .ok () ↔ CanSend X io bundle outcome c recipient (s.text W) :=
    (viaRelay_ok_iff W recipient s).trans (canSend_call (some call) recipient (s.text W))
  have hkeep := congrArg Phone.call
    (viaRelay_keeps X W io bundle outcome { c with activeCall := some call } recipient s)
  rw [← hok]
  generalize Post.viaRelay X W io bundle outcome { c with activeCall := some call } recipient s = r
    at hkeep
  obtain ⟨result, c', posted⟩ := r
  have hcall : c'.activeCall = some call := hkeep
  dsimp only [Intact]
  rw [hcall]
  cases result with
  | error e =>
    constructor
    · intro h
      exact .inr (h (.send e) rfl).symm
    · rintro (h | h) e' -
      · cases h
      · exact h.symm
  | ok u =>
    constructor
    · intro h
      exact .inl rfl
    · intro h e he
      cases he

/-- The id `start_call` gives its call. -/
def newCallId (c : Client Key) (now : ℕ) : String := c.userId ++ "_" ++ toString now

/-- The media key of the next call. -/
def mediaPublicKey (X : Crates Key) (mediaSecret : Key) : Key :=
  (KeyPair.generate X.prims mediaSecret).publicKey

theorem startCall_intact_iff (W : Writers Key) (now : ℕ) (mediaSecret : Key) (peer : String) :
    Intact c (c.startCall X (.viaRelay X W io bundle outcome) now mediaSecret peer) ↔
      c.activeCall.isSome ∨ CanSend X io bundle outcome c peer
        ((Signal.offer (c.newCallId now) (mediaPublicKey X mediaSecret)).text W) := by
  unfold startCall
  by_cases hcall : c.activeCall.isSome
  · rw [if_pos hcall]
    exact iff_of_true (fun _ _ => rfl) (.inl hcall)
  · rw [if_neg hcall]
    refine (intact_post_iff W _ peer _).trans ⟨?_, ?_⟩
    · rintro (h | h)
      · exact .inr h
      · rw [h] at hcall
        exact absurd rfl hcall
    · rintro (h | h)
      · exact absurd h hcall
      · exact .inl h

theorem acceptCall_intact_iff (W : Writers Key) (mediaSecret : Key) (callId : String) :
    Intact c (c.acceptCall X (.viaRelay X W io bundle outcome) mediaSecret callId) ↔
      ∀ call, c.activeCall = some call → call.callId = callId →
        CanSend X io bundle outcome c call.peer
          ((Signal.accept callId (mediaPublicKey X mediaSecret)).text W) ∨
        Phone.answered X.prims mediaSecret call = call := by
  unfold acceptCall
  cases hcall : c.activeCall with
  | none => exact iff_of_true (fun _ _ => rfl) (fun _ h => by cases h)
  | some call =>
    dsimp only
    by_cases hid : call.callId = callId
    · rw [if_pos hid]
      refine (intact_post_iff W _ call.peer _).trans ?_
      rw [hcall, Option.some_inj]
      constructor
      · rintro h call' hcall' -
        obtain rfl := Option.some.inj hcall'
        exact h.imp id Eq.symm
      · intro h
        exact (h call rfl hid).imp id Eq.symm
    · rw [if_neg hid]
      refine iff_of_true (fun _ _ => rfl) fun call' hcall' hid' => ?_
      obtain rfl := Option.some.inj hcall'
      exact absurd hid' hid

/-- The call is over where its end could be sent. -/
theorem endCall_canStart_iff (W : Writers Key) (reason : String) {call : ActiveCall Key}
    (hcall : c.activeCall = some call) :
    CanStart X (c.endCall (.viaRelay X W io bundle outcome) reason).2.1 ↔
      CanSend X io bundle outcome c call.peer
        ((Signal.hangUp call.callId reason).text W) := by
  rw [canStart_iff, ← viaRelay_ok_iff]
  unfold endCall
  rw [hcall]
  dsimp only
  have hkeep := congrArg Phone.call
    (viaRelay_keeps X W io bundle outcome c call.peer (.hangUp call.callId reason))
  generalize Post.viaRelay X W io bundle outcome c call.peer (.hangUp call.callId reason) = r
    at hkeep
  obtain ⟨result, c', posted⟩ := r
  have hcall' : c'.activeCall = c.activeCall := hkeep
  cases result with
  | error e =>
    refine iff_of_false ?_ (fun h => by cases h)
    intro h
    rw [show c'.activeCall = none from h, hcall] at hcall'
    cases hcall'
  | ok u => exact iff_of_true rfl rfl

theorem endCall_idle {σ : Type} (post : Post Key σ) (reason : String) (hcall : c.activeCall = none) :
    (c.endCall post reason).2.1 = c := by
  unfold endCall
  rw [hcall]

end Client

/-- **Failed calls.** A failed `start_call` leaves the call as it was where there is one, or where
    the offer can be sent, so that it does not fail; a failed `accept_call` where it finds no such
    call, or the acceptance can be sent, or the call is already as accepting makes it. After
    `end_call` another call can be started exactly if there was none or its end could be sent. -/
theorem failed_call_iff (X : Crates Key) (W : Writers Key) (io : SendInput Key)
    (bundle : Option (PreKeyBundle Key)) (outcome : PostOutcome) (mediaSecret : Key)
    (c : Client Key) :
    (∀ now peer,
      c.Intact (c.startCall X (.viaRelay X W io bundle outcome) now mediaSecret peer) ↔
        c.activeCall.isSome ∨ CanSend X io bundle outcome c peer
          ((Signal.offer (c.newCallId now) (Client.mediaPublicKey X mediaSecret)).text W)) ∧
    (∀ callId,
      c.Intact (c.acceptCall X (.viaRelay X W io bundle outcome) mediaSecret callId) ↔
        ∀ call, c.activeCall = some call → call.callId = callId →
          CanSend X io bundle outcome c call.peer
            ((Signal.accept callId (Client.mediaPublicKey X mediaSecret)).text W) ∨
          Phone.answered X.prims mediaSecret call = call) ∧
    ∀ reason,
      Client.CanStart X (c.endCall (.viaRelay X W io bundle outcome) reason).2.1 ↔
        ∀ call, c.activeCall = some call → CanSend X io bundle outcome c call.peer
          ((Signal.hangUp call.callId reason).text W) := by
  refine ⟨fun now peer => Client.startCall_intact_iff W now mediaSecret peer,
    fun callId => Client.acceptCall_intact_iff W mediaSecret callId, fun reason => ?_⟩
  cases hcall : c.activeCall with
  | none =>
    rw [Client.endCall_idle _ reason hcall, Client.canStart_iff]
    exact iff_of_true hcall (fun call h => by cases h)
  | some call =>
    refine (Client.endCall_canStart_iff W reason hcall).trans ⟨fun h call' hcall' => ?_, fun h => ?_⟩
    · obtain rfl := Option.some.inj hcall'
      exact h
    · exact h call rfl

/-! ## A call that stays -/

/-- Alice, who knows nobody. -/
def aliceAlone : Client Term := Client.new symbolic (.secret 0) (.secret 1) "alice"

/-- The way to a user that the relay does not know. -/
def toNobody : Post Term Envelope :=
  .viaRelay textCrates textWriters (freshSendInput 4) none .accepted

/-- Alice, with whatever call, cannot send to a user that the relay does not know. -/
theorem aliceAlone_cannotSend (call : Option (ActiveCall Term)) (text : String) :
    ¬ CanSend textCrates (freshSendInput 4) none .accepted { aliceAlone with activeCall := call }
      "nobody" text := by
  rintro ⟨-, hself | ⟨s, isNew, c₁, m, hs, -⟩⟩
  · have hother : "nobody" ≠ "alice" := by decide
    exact hother hself
  · cases hs

/-- Alice's call to that user, which the failed `start_call` leaves. -/
def callToNobody : ActiveCall Term :=
  { peer := "nobody"
    callId := "alice_7"
    mediaKeyPair := KeyPair.generate symbolic (.secret 3)
    peerMediaKey := none
    sharedMediaSecret := none
    state := .offering }

/-- Alice calls a user that the relay does not know. She is told so and stays in the call, and
    cannot end it either, so that her next call is refused. -/
theorem stuck_in_call :
    ¬ aliceAlone.Intact (aliceAlone.startCall textCrates toNobody 7 (.secret 3) "nobody") ∧
    (aliceAlone.startCall textCrates toNobody 7 (.secret 3) "nobody").2.1.activeCall =
      some callToNobody ∧
    ¬ Client.CanStart textCrates
      (Client.endCall toNobody "hangup" { aliceAlone with activeCall := some callToNobody }).2.1 := by
  refine ⟨?_, ?_, ?_⟩
  · intro h
    have hcan := (Client.startCall_intact_iff textWriters 7 (.secret 3) "nobody").mp h
    rcases hcan with hcall | hsend
    · cases hcall
    · exact aliceAlone_cannotSend none _ hsend
  · have hphone : (aliceAlone.startCall textCrates toNobody 7 (.secret 3) "nobody").2.1.phone =
        (aliceAlone.phone.start symbolic 7 (.secret 3) "nobody").1 :=
      Client.startCall_phone (viaRelay_keeps _ _ _ _ _) 7 (.secret 3) aliceAlone "nobody"
    exact congrArg Phone.call hphone
  · intro h
    have hsend := (Client.endCall_canStart_iff textWriters "hangup" rfl).mp h
    exact aliceAlone_cannotSend (some callToNobody) _ hsend

end TinTin.Cli
