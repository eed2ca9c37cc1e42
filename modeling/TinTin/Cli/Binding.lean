/-
  Whether a call signal is bound to the active call.

  A `Stray` signal comes from someone else than the peer, or accepts or ends a call of another id.
  `process_call_signal` looks neither at the sender nor at the id of what it gets: every offer
  and every end replaces the call, and an accept connects a call that only rings.

  * `signal_bound_iff`: when a signal leaves the call alone as it should.
  * `unbound_signals`: Mallory ends and replaces a call between two others, and the peer of a
    ringing call connects it.
-/
import TinTin.Cli.Calls
import TinTin.Cli.Media

namespace TinTin.Cli

open TinTin.Lib TinTin.Core TinTin.Symbolic

variable {Key : Type}

/-! ## Statement -/

/-- The `call_id` that a payload names. -/
def namedCall (X : Crates Key) (plaintext : Bytes) : Option String :=
  (X.fromSlice plaintext).bind fun payload => (payload.index "call_id").asStr

/-- The media key that a payload gives. -/
def givenKey (X : Crates Key) (plaintext : Bytes) : Option Key :=
  (X.fromSlice plaintext).bind fun payload =>
    X.hexKey ((payload.index "media_key_pub").asStr.getD "")

/-- The signal is of someone else than the peer of the call, or about another call. -/
def Stray (X : Crates Key) (call : ActiveCall Key) (sender : String) (plaintext : Bytes) : Prop :=
  isCallSignal X plaintext = true ∧ (sender ≠ call.peer ∨
    payloadType X plaintext ≠ some "call_offer" ∧ ∃ id, namedCall X plaintext = some id ∧
      id ≠ call.callId)

/-- The call is left alone by a stray signal, and connected by an accept only where this client was
    the one offering it. -/
structure Bound (X : Crates Key) (mediaSecret : Key) (c : Client Key) (call : ActiveCall Key)
    (sender : String) (plaintext : Bytes) : Prop where
  stray : Stray X call sender plaintext →
    (c.processCallSignal X mediaSecret sender plaintext).2.activeCall = c.activeCall
  connects : payloadType X plaintext = some "call_accept" → call.state ≠ .connected →
    (∃ after, (c.processCallSignal X mediaSecret sender plaintext).2.activeCall = some after ∧
      after.state = .connected) → call.state = .offering

/-- A stray signal is an accept that is not taken, as the call is connected or no key is given, and
    so is an accept of a call that rings. -/
structure Untaken (X : Crates Key) (call : ActiveCall Key) (sender : String) (plaintext : Bytes) :
    Prop where
  stray : Stray X call sender plaintext → payloadType X plaintext = some "call_accept" ∧
    (call.state = .connected ∨ givenKey X plaintext = none)
  ringing : payloadType X plaintext = some "call_accept" → call.state = .ringing →
    givenKey X plaintext = none

/-! ## The kinds of signals -/

namespace Client

variable {X : Crates Key} {mediaSecret : Key} {c : Client Key} {sender : String}
  {plaintext : Bytes} {call : ActiveCall Key}

/-- An offer becomes the call, whatever there was. -/
theorem processCallSignal_offer (h : payloadType X plaintext = some "call_offer") :
    ∃ after, (c.processCallSignal X mediaSecret sender plaintext).2.activeCall = some after ∧
      after.peer = sender ∧ after.state = .ringing := by
  unfold payloadType at h
  unfold processCallSignal
  cases hv : X.fromSlice plaintext with
  | none =>
    rw [hv] at h
    cases h
  | some payload =>
    rw [hv, Option.bind_some] at h
    dsimp only
    rw [h]
    exact ⟨_, rfl, rfl, rfl⟩

theorem processCallSignal_end (h : payloadType X plaintext = some "call_end") :
    (c.processCallSignal X mediaSecret sender plaintext).2.activeCall = none := by
  unfold payloadType at h
  unfold processCallSignal
  cases hv : X.fromSlice plaintext with
  | none =>
    rw [hv] at h
    cases h
  | some payload =>
    rw [hv, Option.bind_some] at h
    dsimp only
    rw [h]
    rfl

/-- An accept with a key connects a call that is not connected yet. -/
theorem processCallSignal_accept (h : payloadType X plaintext = some "call_accept")
    (hcall : c.activeCall = some call) :
    (c.processCallSignal X mediaSecret sender plaintext).2.activeCall =
      if call.state = .offering ∨ call.state = .ringing then
        match givenKey X plaintext with
        | none => some call
        | some peerKey => some { call with
            peerMediaKey := some peerKey
            sharedMediaSecret := some (call.mediaKeyPair.agree X.prims peerKey)
            state := .connected }
      else some call := by
  unfold payloadType at h
  unfold processCallSignal givenKey
  cases hv : X.fromSlice plaintext with
  | none =>
    rw [hv] at h
    cases h
  | some payload =>
    rw [hv, Option.bind_some] at h
    dsimp only
    rw [h, hcall, Option.bind_some]
    dsimp only
    split_ifs
    · cases X.hexKey ((payload.index "media_key_pub").asStr.getD "") with
      | none => exact hcall
      | some peerKey => rfl
    · exact hcall

theorem accept_unchanged_iff (h : payloadType X plaintext = some "call_accept")
    (hcall : c.activeCall = some call) :
    (c.processCallSignal X mediaSecret sender plaintext).2.activeCall = c.activeCall ↔
      call.state = .connected ∨ givenKey X plaintext = none := by
  rw [processCallSignal_accept h hcall, hcall]
  by_cases hopen : call.state = .offering ∨ call.state = .ringing
  · have hnot : call.state ≠ .connected := by
      rintro hc
      rw [hc] at hopen
      rcases hopen with hopen | hopen <;> cases hopen
    rw [if_pos hopen]
    cases givenKey X plaintext with
    | none => exact iff_of_true rfl (.inr rfl)
    | some peerKey =>
      refine iff_of_false (fun heq => hnot ?_) (by simpa using hnot)
      exact congrArg ActiveCall.state (Option.some.inj heq).symm
  · have hconnected : call.state = .connected := by
      cases hs : call.state with
      | offering => exact absurd (.inl hs) hopen
      | ringing => exact absurd (.inr hs) hopen
      | connected => rfl
    rw [if_neg hopen]
    exact iff_of_true rfl (.inl hconnected)

/-- An accept connects a call that is open where it gives a key. -/
theorem accept_connects_iff (h : payloadType X plaintext = some "call_accept")
    (hcall : c.activeCall = some call) (hopen : call.state ≠ .connected) :
    (∃ after, (c.processCallSignal X mediaSecret sender plaintext).2.activeCall = some after ∧
      after.state = .connected) ↔ (givenKey X plaintext).isSome := by
  have hstate : call.state = .offering ∨ call.state = .ringing := by
    cases hs : call.state with
    | offering => exact .inl rfl
    | ringing => exact .inr rfl
    | connected => exact absurd hs hopen
  rw [processCallSignal_accept h hcall, if_pos hstate]
  cases givenKey X plaintext with
  | none =>
    refine iff_of_false ?_ Bool.false_ne_true
    rintro ⟨after, heq, hafter⟩
    exact hopen (Option.some.inj heq ▸ hafter)
  | some peerKey => exact iff_of_true ⟨_, rfl, rfl⟩ rfl

/-- A stray signal leaves the call alone where it is an accept that is not taken. -/
theorem stray_unchanged_iff (hcall : c.activeCall = some call)
    (hstray : Stray X call sender plaintext) :
    (c.processCallSignal X mediaSecret sender plaintext).2.activeCall = c.activeCall ↔
      payloadType X plaintext = some "call_accept" ∧
        (call.state = .connected ∨ givenKey X plaintext = none) := by
  obtain ⟨hsignal, hother⟩ := hstray
  unfold isCallSignal isCallType at hsignal
  split at hsignal
  · next htype =>
    -- an offer is stray only for its sender
    have hsender : sender ≠ call.peer := hother.resolve_right fun h => h.1 htype
    have hoffer : ∃ after,
        (c.processCallSignal X mediaSecret sender plaintext).2.activeCall = some after ∧
          after.peer = sender ∧ after.state = .ringing := processCallSignal_offer htype
    obtain ⟨after, hafter, hpeer, -⟩ := hoffer
    refine iff_of_false (fun heq => hsender ?_) fun h => by
      rw [htype] at h
      exact absurd h.1 (by decide)
    rw [hafter, hcall] at heq
    rw [← hpeer, Option.some.inj heq]
  · next htype =>
    rw [accept_unchanged_iff htype hcall]
    exact ⟨fun h => ⟨htype, h⟩, And.right⟩
  · next htype =>
    refine iff_of_false ?_ fun h => by rw [htype] at h; exact absurd h.1 (by decide)
    rw [processCallSignal_end htype, hcall]
    intro heq
    cases heq
  · cases hsignal

end Client

/-- **A signal is bound to the call** just where it is not taken. -/
theorem signal_bound_iff (X : Crates Key) (mediaSecret : Key) {c : Client Key}
    {call : ActiveCall Key} (hcall : c.activeCall = some call) (sender : String)
    (plaintext : Bytes) : Bound X mediaSecret c call sender plaintext ↔
      Untaken X call sender plaintext := by
  constructor
  · intro h
    refine ⟨fun hstray => (Client.stray_unchanged_iff hcall hstray).mp (h.stray hstray),
      fun htype hringing => ?_⟩
    by_contra hkey
    have hopen : call.state ≠ .connected := by
      rw [hringing]
      exact fun heq => CallState.noConfusion heq
    have hoffering := h.connects htype hopen
      ((Client.accept_connects_iff htype hcall hopen).mpr (Option.isSome_iff_ne_none.mpr hkey))
    rw [hringing] at hoffering
    cases hoffering
  · intro h
    refine ⟨fun hstray => (Client.stray_unchanged_iff hcall hstray).mpr (h.stray hstray),
      fun htype hopen hafter => ?_⟩
    have hkey := (Client.accept_connects_iff htype hcall hopen).mp hafter
    cases hs : call.state with
    | offering => rfl
    | ringing =>
      rw [h.ringing htype hs] at hkey
      cases hkey
    | connected => exact absurd hs hopen

/-! ### Mallory and a call of Alice and Bob -/

theorem accept_payload {X : Crates Key} {W : Writers Key} (hW : W.ReadBy X) (callId : String)
    (k : Key) : payloadType X (utf8 ((Signal.accept callId k).text W)) = some "call_accept" ∧
      namedCall X (utf8 ((Signal.accept callId k).text W)) = some callId ∧
      givenKey X (utf8 ((Signal.accept callId k).text W)) = some k := by
  obtain ⟨v, hv, hget⟩ := hW.json _ ((Signal.accept callId k).members_flat W)
  unfold payloadType namedCall givenKey Signal.text
  rw [hv, Option.bind_some, Option.bind_some, Option.bind_some, Json.get_tintinType hget,
    Json.get_index hget, Json.get_index hget]
  exact ⟨rfl, rfl, hW.hex k⟩

theorem end_payload {X : Crates Key} {W : Writers Key} (hW : W.ReadBy X) (callId reason : String) :
    payloadType X (utf8 ((Signal.hangUp callId reason : Signal Key).text W)) =
      some "call_end" := by
  obtain ⟨v, hv, hget⟩ := hW.json _ ((Signal.hangUp callId reason : Signal Key).members_flat W)
  unfold payloadType Signal.text
  rw [hv, Option.bind_some, Json.get_tintinType hget]
  rfl

/-- Bob's side of a call with Alice. -/
def bobsCall (state : CallState) : ActiveCall Term :=
  { peer := "alice"
    callId := "alice_1"
    mediaKeyPair := KeyPair.generate symbolic (.secret 6)
    peerMediaKey := some (.pub (.secret 4))
    sharedMediaSecret := none
    state := state }

def bobWith (state : CallState) : Client Term :=
  { Client.new symbolic (.secret 2) (.secret 3) "bob" with activeCall := some (bobsCall state) }

def aliceAccepts : Bytes :=
  utf8 ((Signal.accept "alice_1" (.pub (.secret 4)) : Signal Term).text textWriters)

def malloryEnds : Bytes := utf8 ((Signal.hangUp "mallory_1" "bye" : Signal Term).text textWriters)

theorem signal_bound_offering : Bound textCrates (.secret 9) (bobWith .offering)
    (bobsCall .offering) "alice" aliceAccepts := by
  obtain ⟨htype, hid, -⟩ := accept_payload textWriters_readBy "alice_1" (.pub (.secret 4))
  apply (signal_bound_iff textCrates (.secret 9) (c := bobWith .offering) rfl "alice" _).mpr
  refine ⟨?_, fun _ hringing => by cases hringing⟩
  rintro ⟨-, hsender | ⟨-, id, hnamed, hne⟩⟩
  · exact absurd rfl hsender
  · rw [aliceAccepts, hid] at hnamed
    exact absurd (Option.some.inj hnamed).symm hne

/-- Mallory ends the call of Alice and Bob, and Alice connects a call that she has offered and that
    still rings at Bob's. -/
theorem unbound_signals :
    ¬ Bound textCrates (.secret 9) (bobWith .connected) (bobsCall .connected) "mallory"
      malloryEnds ∧
    ¬ Bound textCrates (.secret 9) (bobWith .ringing) (bobsCall .ringing) "alice"
      aliceAccepts := by
  constructor
  · intro h
    have hend : payloadType textCrates malloryEnds = some "call_end" :=
      end_payload textWriters_readBy "mallory_1" "bye"
    have hunchanged := h.stray ⟨by rw [isCallSignal, hend]; rfl, .inl (by decide)⟩
    rw [Client.processCallSignal_end hend] at hunchanged
    cases hunchanged
  · intro h
    obtain ⟨htype, -, hkey⟩ := accept_payload textWriters_readBy "alice_1" (.pub (.secret 4))
    have hgiven : (givenKey textCrates aliceAccepts).isSome := by
      unfold aliceAccepts
      rw [hkey]
      rfl
    have hopen : (bobsCall .ringing).state ≠ .connected := by
      intro heq
      cases heq
    have hoffering := h.connects htype hopen
      ((Client.accept_connects_iff htype rfl hopen).mpr hgiven)
    cases hoffering

end TinTin.Cli
