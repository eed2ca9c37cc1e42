/-
  Two clients that exchange call signals over a channel that keeps their order, and the media
  keys they end up with.

  A step is one call of `start_call`, `accept_call` or `end_call`, or the reading of one
  signal. The calls of the two with each other move by five kinds of steps (`Moves`).

  A `call_accept` is taken without a look at the id it names or at how the call came about.
  A `Clash` is a signal of this kind that reaches a client whose call with the sender is
  ringing or connected, while the sender is connected with it and neither is about to be told
  of another call or an end.

  * `media_keys_agree`: in a run without clashes, two connected clients with nothing in flight
    are in one call with one media key.
  * `glare_disagrees`: both call, and one accepts. The two are connected in different calls.
-/
import TinTin.Cli.Calls
import TinTin.Cli.Delivery
import TinTin.Core.Conversation
import TinTin.Lib.Mail

namespace TinTin.Cli

open TinTin.Lib TinTin.Core TinTin.Symbolic

variable {Key : Type}

/-- Two clients of different users, neither in a call. -/
structure Callers (Key : Type) where
  client : Party → Client Key
  userId_ne : (client .alice).userId ≠ (client .bob).userId
  idle : ∀ p, (client p).activeCall = none

/-- The clients, and for each the signals on the way to it. -/
abbrev CallLine (Key : Type) := Mail Party (Client Key) (Signal Key)

/-- One call by a user, or the reading of one signal. -/
inductive CallStep (Key : Type)
  | start (p : Party) (now : ℕ) (mediaSecret : Key) (peer : String)
  | accept (p : Party) (mediaSecret : Key) (callId : String)
  | hangUp (p : Party) (reason : String)
  | process (p : Party) (mediaSecret : Key)

/-- The signal, if it goes to that user. -/
def sentTo (userId : String) (posted : Option (String × Signal Key)) : Option (Signal Key) :=
  posted.bind fun r => if r.1 = userId then some r.2 else none

namespace CallLine

def start (u : Callers Key) : CallLine Key := ⟨u.client, fun _ => []⟩

/-- What a call of `p` comes to. -/
def place (w : CallLine Key) (p : Party)
    (r : Except CallError Unit × Client Key × Option (String × Signal Key)) : CallLine Key :=
  w.act p r.2.1 p.peer (sentTo (w.node p.peer).userId r.2.2)

variable (X : Crates Key) (W : Writers Key)

def step (w : CallLine Key) : CallStep Key → CallLine Key
  | .start p now mediaSecret peer =>
    w.place p ((w.node p).startCall X .inOrder now mediaSecret peer)
  | .accept p mediaSecret callId =>
    w.place p ((w.node p).acceptCall X .inOrder mediaSecret callId)
  | .hangUp p reason => w.place p ((w.node p).endCall .inOrder reason)
  | .process p mediaSecret => w.take p fun c s =>
    (c.processCallSignal X mediaSecret (w.node p.peer).userId (utf8 (s.text W))).2

def run (w : CallLine Key) (steps : List (CallStep Key)) : CallLine Key :=
  steps.foldl (step X W) w

end CallLine

/-! ## Phones -/

/-- The active call, if it is with that user. -/
def Phone.callWith (phone : Phone Key) (peer : String) : Option (ActiveCall Key) :=
  phone.call.filter (·.peer == peer)

/-- The phones of the two, and the signals on the way. -/
abbrev PhoneLine (Key : Type) := Mail Party (Phone Key) (Signal Key)

namespace PhoneLine

variable (P : Primitives Key)

def place (w : PhoneLine Key) (p : Party) (r : Phone Key × Option (String × Signal Key)) :
    PhoneLine Key :=
  w.act p r.1 p.peer (sentTo (w.node p.peer).userId r.2)

def step (w : PhoneLine Key) : CallStep Key → PhoneLine Key
  | .start p now mediaSecret peer => w.place p ((w.node p).start P now mediaSecret peer)
  | .accept p mediaSecret callId => w.place p ((w.node p).accept P mediaSecret callId)
  | .hangUp p reason => w.place p ((w.node p).hangUp reason)
  | .process p mediaSecret => w.take p fun phone s =>
    phone.hear P (w.node p.peer).userId mediaSecret s

/-- The call of `p` with the other one. -/
def callOf (w : PhoneLine Key) (p : Party) : Option (ActiveCall Key) :=
  (w.node p).callWith (w.node p.peer).userId

/-- The calls of the two with each other. -/
def calls (w : PhoneLine Key) : Mail Party (Option (ActiveCall Key)) (Signal Key) :=
  ⟨w.callOf, w.inbox⟩

end PhoneLine

namespace Client

variable {X : Crates Key}

theorem startCall_inOrder (now : ℕ) (mediaSecret : Key) (c : Client Key) (peer : String) :
    (c.startCall X .inOrder now mediaSecret peer).2.2 =
      (c.phone.start X.prims now mediaSecret peer).2 := by
  unfold startCall Phone.start
  cases hc : c.activeCall with
  | some call => simp [phone, hc]
  | none =>
    rw [if_neg (by simp)]
    dsimp only [phone]
    rw [hc]
    rfl

theorem acceptCall_inOrder (mediaSecret : Key) (c : Client Key) (callId : String) :
    (c.acceptCall X .inOrder mediaSecret callId).2.2 =
      (c.phone.accept X.prims mediaSecret callId).2 := by
  unfold acceptCall Phone.accept
  dsimp only [phone]
  cases c.activeCall with
  | none => rfl
  | some call =>
    dsimp only
    split_ifs <;> rfl

theorem endCall_inOrder (reason : String) (c : Client Key) :
    (c.endCall .inOrder reason).2.1.phone = (c.phone.hangUp reason).1 ∧
      (c.endCall .inOrder reason).2.2 = (c.phone.hangUp reason).2 := by
  unfold endCall Phone.hangUp
  dsimp only [phone]
  cases hc : c.activeCall with
  | none =>
    dsimp only
    rw [hc]
    exact ⟨rfl, rfl⟩
  | some call => exact ⟨rfl, rfl⟩

end Client

/-- The clients move as their phones do. -/
theorem CallLine.map_step {X : Crates Key} {W : Writers Key} (hW : W.ReadBy X)
    (w : CallLine Key) (a : CallStep Key) :
    (w.step X W a).map Client.phone = PhoneLine.step X.prims (w.map Client.phone) a := by
  cases a with
  | start p now mediaSecret peer =>
    unfold CallLine.step CallLine.place PhoneLine.step PhoneLine.place
    rw [Mail.map_act, Client.startCall_phone fun _ _ _ => rfl, Client.startCall_inOrder]
    rfl
  | accept p mediaSecret callId =>
    unfold CallLine.step CallLine.place PhoneLine.step PhoneLine.place
    rw [Mail.map_act, Client.acceptCall_phone fun _ _ _ => rfl, Client.acceptCall_inOrder]
    rfl
  | hangUp p reason =>
    unfold CallLine.step CallLine.place PhoneLine.step PhoneLine.place
    rw [Mail.map_act, (Client.endCall_inOrder reason _).1, (Client.endCall_inOrder reason _).2]
    rfl
  | process p mediaSecret =>
    apply Mail.map_take
    intro c s
    rw [Client.processCallSignal_text hW]
    rfl

/-! ## The calls of the two with each other -/

/-- The call of each with the other one, and the signals on the way. -/
abbrev Calls (Key : Type) := Mail Party (Option (ActiveCall Key)) (Signal Key)

/-- The signal makes its receiver leave the call it is in. -/
def Signal.resets : Signal Key → Bool
  | .offer _ _ => true
  | .accept _ _ => false
  | .hangUp _ _ => true

/-- Signals that leave a connected client where it is. -/
def Quiet (signals : List (Signal Key)) : Prop := ∀ s ∈ signals, s.resets = false

/-- The next signal for `p` is a `call_accept` that reaches it ringing or connected, with the
    sender connected and neither about to leave its call. -/
def Clash (v : Calls Key) (p : Party) : Prop :=
  ∃ callId mediaKeyPub rest c d, v.inbox p = .accept callId mediaKeyPub :: rest ∧
    v.node p = some c ∧ c.state ≠ .offering ∧ v.node p.peer = some d ∧ d.state = .connected ∧
    Quiet rest ∧ Quiet (v.inbox p.peer)

/-- The step makes two calls clash. -/
def CallStep.Clashes (w : PhoneLine Key) : CallStep Key → Prop
  | .process p _ => Clash w.calls p
  | _ => False

/-- Two connected calls with each other and nothing in flight have one id and one media key. -/
def Agreed (v : Calls Key) : Prop :=
  (∀ p, v.inbox p = []) → ∀ p c d, v.node p = some c → v.node p.peer = some d →
    c.state = .connected → d.state = .connected →
    c.callId = d.callId ∧ ∃ secret, c.sharedMediaSecret = some secret ∧
      d.sharedMediaSecret = some secret

/-- What a step without a clash can do to the calls of the two with each other. -/
inductive Moves (P : Primitives Key) : Calls Key → Calls Key → Prop
  | stay (v : Calls Key) : Moves P v v
  | start {v : Calls Key} {p : Party} {c : ActiveCall Key} (hstate : c.state = .offering)
      (hpair : c.mediaKeyPair.WellFormed P) :
      Moves P v (v.act p (some c) p.peer (some (.offer c.callId c.mediaKeyPair.publicKey)))
  | accept {v : Calls Key} {p : Party} {c : ActiveCall Key} (hcall : v.node p = some c)
      (mediaSecret : Key) :
      Moves P v (v.act p (some (Phone.answered P mediaSecret c)) p.peer
        (some (.accept c.callId (P.publicKey mediaSecret))))
  | hangUp (v : Calls Key) (p : Party) (callId reason : String) :
      Moves P v (v.act p none p.peer (some (.hangUp callId reason)))
  | hear {v : Calls Key} {p : Party} (hclash : ¬ Clash v p) (sender : String)
      (mediaSecret : Key) :
      Moves P v (v.take p fun call s => s.handle P sender mediaSecret call)

namespace PhoneLine

variable {P : Primitives Key}

theorem calls_act (w : PhoneLine Key) (p : Party) (phone : Phone Key)
    (hid : phone.userId = (w.node p).userId) (s : Option (Signal Key)) :
    calls (w.act p phone p.peer s) =
      w.calls.act p (phone.callWith (w.node p.peer).userId) p.peer s := by
  unfold calls Mail.act
  congr 1
  funext q
  rcases p.eq_or_eq_peer q with rfl | rfl
  · rw [Function.update_self]
    unfold callOf
    dsimp only
    rw [Function.update_self, Function.update_of_ne (Party.peer_ne q)]
  · rw [Function.update_of_ne (Party.peer_ne p)]
    unfold callOf
    dsimp only
    rw [Party.peer_peer, Function.update_self, Function.update_of_ne (Party.peer_ne p), hid]

/-- A signal acts on the call with its sender as on any other. -/
theorem callWith_hear (sender : String) (mediaSecret : Key) (phone : Phone Key)
    (s : Signal Key) :
    (phone.hear P sender mediaSecret s).callWith sender =
      s.handle P sender mediaSecret (phone.callWith sender) := by
  unfold Phone.hear Phone.callWith
  cases s with
  | offer callId mediaKeyPub => simp [Signal.handle]
  | hangUp callId reason => rfl
  | accept callId mediaKeyPub =>
    cases phone.call with
    | none => rfl
    | some c =>
      by_cases hpeer : c.peer = sender <;>
        by_cases hstate : c.state = .offering ∨ c.state = .ringing <;>
          simp [Signal.handle, Option.filter_some, hpeer, hstate]

theorem calls_hear (w : PhoneLine Key) (p : Party) (mediaSecret : Key) :
    calls (w.take p fun phone s => phone.hear P (w.node p.peer).userId mediaSecret s) =
      w.calls.take p fun call s => s.handle P (w.node p.peer).userId mediaSecret call := by
  unfold calls Mail.take
  dsimp only
  cases w.inbox p with
  | nil => rfl
  | cons s rest =>
    dsimp only
    congr 1
    funext q
    rcases p.eq_or_eq_peer q with rfl | rfl
    · rw [Function.update_self]
      unfold callOf
      dsimp only
      rw [Function.update_self, Function.update_of_ne (Party.peer_ne q), callWith_hear]
    · rw [Function.update_of_ne (Party.peer_ne p)]
      unfold callOf
      dsimp only
      rw [Party.peer_peer, Function.update_self, Function.update_of_ne (Party.peer_ne p)]
      rfl

/-- A call elsewhere, and a signal that goes elsewhere, are not seen. -/
theorem calls_elsewhere {w : PhoneLine Key} {p : Party} {phone : Phone Key}
    {s : Option (Signal Key)} (hid : phone.userId = (w.node p).userId)
    (hbefore : w.callOf p = none)
    (hafter : phone.callWith (w.node p.peer).userId = none) (hs : s = none) :
    calls (w.act p phone p.peer s) = w.calls := by
  rw [calls_act _ _ _ hid, hafter, hs, ← hbefore]
  exact Mail.act_self w.calls p p.peer

theorem callOf_of_none {w : PhoneLine Key} {p : Party} (h : (w.node p).call = none) :
    w.callOf p = none := by
  unfold callOf Phone.callWith
  rw [h]
  rfl

theorem callOf_of_peer {w : PhoneLine Key} {p : Party} {c : ActiveCall Key}
    (h : (w.node p).call = some c) (hpeer : c.peer = (w.node p.peer).userId) :
    w.callOf p = some c := by
  unfold callOf Phone.callWith
  rw [h]
  simp [hpeer]

theorem callOf_of_peer_ne {w : PhoneLine Key} {p : Party} {c : ActiveCall Key}
    (h : (w.node p).call = some c) (hpeer : c.peer ≠ (w.node p.peer).userId) :
    w.callOf p = none := by
  unfold callOf Phone.callWith
  rw [h]
  simp [hpeer]

theorem place_self (w : PhoneLine Key) (p : Party) : w.place p (w.node p, none) = w :=
  Mail.act_self w p p.peer

/-- **What a step does** to the calls of the two with each other. -/
theorem step_moves (w : PhoneLine Key) (a : CallStep Key) (hclash : ¬ a.Clashes w) :
    Moves P w.calls (step P w a).calls := by
  cases a with
  | start p now mediaSecret peer =>
    rw [step, Phone.start]
    cases hcall : (w.node p).call with
    | some c =>
      dsimp only
      rw [place_self]
      exact .stay _
    | none =>
      dsimp only [place, sentTo, Option.bind_some]
      by_cases hpeer : peer = (w.node p.peer).userId
      · rw [if_pos hpeer, calls_act _ _ _ (by rfl)]
        rw [Phone.callWith, Option.filter_some, if_pos (by simpa using hpeer)]
        exact .start rfl rfl
      · rw [if_neg hpeer, calls_elsewhere (by rfl) (callOf_of_none hcall)
          (by simpa [Phone.callWith] using hpeer) rfl]
        exact .stay _
  | accept p mediaSecret callId =>
    rw [step, Phone.accept]
    cases hcall : (w.node p).call with
    | none =>
      dsimp only
      rw [place_self]
      exact .stay _
    | some c =>
      dsimp only
      split_ifs with hid
      · dsimp only [place, sentTo, Option.bind_some]
        by_cases hpeer : c.peer = (w.node p.peer).userId
        · rw [if_pos (by exact hpeer), calls_act _ _ _ (by rfl)]
          rw [Phone.callWith, Option.filter_some,
            if_pos (by simpa [Phone.answered] using hpeer), ← hid]
          exact .accept (callOf_of_peer hcall hpeer) mediaSecret
        · rw [if_neg (by exact hpeer), calls_elsewhere (by rfl) (callOf_of_peer_ne hcall hpeer)
            (by simpa [Phone.callWith, Phone.answered] using hpeer) rfl]
          exact .stay _
      · rw [place_self]
        exact .stay _
  | hangUp p reason =>
    rw [step, Phone.hangUp]
    cases hcall : (w.node p).call with
    | none =>
      dsimp only
      rw [place_self]
      exact .stay _
    | some c =>
      dsimp only [place, sentTo, Option.bind_some]
      by_cases hpeer : c.peer = (w.node p.peer).userId
      · rw [if_pos hpeer, calls_act _ _ _ (by rfl)]
        exact .hangUp _ _ _ _
      · rw [if_neg hpeer, calls_elsewhere (by rfl) (callOf_of_peer_ne hcall hpeer) rfl rfl]
        exact .stay _
  | process p mediaSecret =>
    unfold step
    rw [calls_hear]
    exact .hear hclash _ _

end PhoneLine

/-! ## The invariant -/

/-- `d` is the other end of the call that `c` offers. -/
structure Answers (P : Primitives Key) (c d : ActiveCall Key) : Prop where
  callId : d.callId = c.callId
  peerMediaKey : d.peerMediaKey = some c.mediaKeyPair.publicKey
  state : d.state = .ringing ∨ d.state = .connected ∧
    d.sharedMediaSecret = some (d.mediaKeyPair.agree P c.mediaKeyPair.publicKey)

/-- The last of the signals is no `call_accept` with another key than that of `d`. -/
def LastKey (signals : List (Signal Key)) (d : ActiveCall Key) : Prop :=
  ∀ callId k, signals.getLast? = some (.accept callId k) → d.state = .connected →
    k = d.mediaKeyPair.publicKey

/-- * A client that offers a call has sent nothing after the offer.
    * Once the offer has arrived, the other one has no call, or the other end of this one, until
      it sends an offer or an end.
    * What the claim is about. -/
structure CallInv (P : Primitives Key) (v : Calls Key) : Prop where
  paired : ∀ p c, v.node p = some c → c.mediaKeyPair.WellFormed P
  offered : ∀ p c, v.node p = some c → c.state = .offering →
    v.inbox p.peer = [] ∨
      (v.inbox p.peer).getLast? = some (.offer c.callId c.mediaKeyPair.publicKey)
  awaited : ∀ p c d, v.node p = some c → c.state = .offering → v.inbox p.peer = [] →
    Quiet (v.inbox p) → v.node p.peer = some d → Answers P c d ∧ LastKey (v.inbox p) d
  agreed : Agreed v

namespace CallInv

variable {P : Primitives Key} {v : Calls Key}

theorem quiet_append {signals : List (Signal Key)} {s : Signal Key} (h : Quiet (signals ++ [s])) :
    Quiet signals ∧ s.resets = false :=
  ⟨fun x hx => h x (List.mem_append_left _ hx), h s (List.mem_append_right _ List.mem_cons_self)⟩

/-- A client takes up a call, or none, and sends a signal. -/
theorem act (h : CallInv P v) {p : Party} {call : Option (ActiveCall Key)} {s : Signal Key}
    (hpaired : ∀ c, call = some c → c.mediaKeyPair.WellFormed P)
    (hoffered : ∀ c, call = some c → c.state = .offering →
      s = .offer c.callId c.mediaKeyPair.publicKey)
    (hawaited : s.resets = false → ∀ c d, v.node p.peer = some c → c.state = .offering →
      v.inbox p = [] → Quiet (v.inbox p.peer) → call = some d →
      Answers P c d ∧ LastKey [s] d) :
    CallInv P (v.act p call p.peer (some s)) := by
  have hself : (v.act p call p.peer (some s)).node p = call := Mail.act_node_self ..
  have hpeer : (v.act p call p.peer (some s)).node p.peer = v.node p.peer :=
    Mail.act_node_of_ne _ (Party.peer_ne p) ..
  have hout : (v.act p call p.peer (some s)).inbox p.peer = v.inbox p.peer ++ [s] :=
    Mail.act_inbox_self ..
  have hin : (v.act p call p.peer (some s)).inbox p = v.inbox p :=
    Mail.act_inbox_of_ne _ (Party.ne_peer p) ..
  refine ⟨fun q c hc => ?_, fun q c hc hstate => ?_, fun q c d hc hstate hsent hquiet hd => ?_,
    fun hempty => ?_⟩
  · rcases p.eq_or_eq_peer q with rfl | rfl
    · exact hpaired c (hself ▸ hc)
    · exact h.paired _ c (hpeer ▸ hc)
  · rcases p.eq_or_eq_peer q with rfl | rfl
    · right
      rw [hout, List.getLast?_append, hoffered c (hself ▸ hc) hstate]
      rfl
    · rw [Party.peer_peer, hin]
      have := h.offered _ c (hpeer ▸ hc) hstate
      rwa [Party.peer_peer] at this
  · rcases p.eq_or_eq_peer q with rfl | rfl
    · rw [hout] at hsent
      exact absurd hsent (by simp)
    · rw [Party.peer_peer, hin] at hsent
      rw [hout] at hquiet
      rw [Party.peer_peer, hself] at hd
      obtain ⟨hq, hs⟩ := quiet_append hquiet
      obtain ⟨hans, hlast⟩ := hawaited hs c d (hpeer ▸ hc) hstate hsent hq hd
      refine ⟨hans, fun callId k hk => hlast callId k ?_⟩
      rw [hout, List.getLast?_append] at hk
      exact hk
  · have := hempty p.peer
    rw [hout] at this
    exact absurd this (by simp)

theorem start (h : CallInv P v) {p : Party} {c : ActiveCall Key}
    (hpair : c.mediaKeyPair.WellFormed P) :
    CallInv P (v.act p (some c) p.peer (some (.offer c.callId c.mediaKeyPair.publicKey))) := by
  refine h.act (fun c' hc' => ?_) (fun c' hc' _ => ?_) (fun hresets => ?_)
  · cases hc'
    exact hpair
  · cases hc'
    rfl
  · cases hresets

theorem hangUp (h : CallInv P v) (p : Party) (callId reason : String) :
    CallInv P (v.act p none p.peer (some (.hangUp callId reason))) :=
  h.act (fun _ hc => by cases hc) (fun _ hc => by cases hc) (fun hresets => by cases hresets)

/-- Accepting the other end of a call gives it the key of the offer. -/
theorem accept (h : CallInv P v) {p : Party} {c : ActiveCall Key} (hcall : v.node p = some c)
    (mediaSecret : Key) :
    CallInv P (v.act p (some (Phone.answered P mediaSecret c)) p.peer
      (some (.accept c.callId (P.publicKey mediaSecret)))) := by
  refine h.act (fun c' hc' => ?_) (fun c' hc' hstate => ?_)
    (fun _ c₀ d hc₀ hstate hsent hquiet hd => ?_)
  · cases hc'
    exact KeyPair.generate_wellFormed P mediaSecret
  · cases hc'
    cases hstate
  · cases hd
    have hcall' : v.node p.peer.peer = some c := by rw [Party.peer_peer, hcall]
    have hsent' : v.inbox p.peer.peer = [] := by rw [Party.peer_peer, hsent]
    obtain ⟨hans, -⟩ := h.awaited p.peer c₀ c hc₀ hstate hsent' hquiet hcall'
    refine ⟨⟨hans.callId, hans.peerMediaKey, .inr ⟨rfl, ?_⟩⟩, fun callId k hk _ => ?_⟩
    · unfold Phone.answered
      dsimp only
      rw [hans.peerMediaKey]
    · cases hk
      rfl

/-- No signal makes a client offer a call. -/
theorem handle_not_offering {sender : String} {mediaSecret : Key}
    {call : Option (ActiveCall Key)} {s : Signal Key} {c : ActiveCall Key}
    (h : s.handle P sender mediaSecret call = some c) : c.state ≠ .offering := by
  cases s with
  | offer callId k =>
    cases h
    exact fun hc => by cases hc
  | hangUp callId reason => cases h
  | accept callId k =>
    cases call with
    | none => cases h
    | some c₀ =>
      rw [← Option.some.inj h]
      dsimp only
      split_ifs with hs
      · exact fun hc => by cases hc
      · exact fun hc => hs (.inl hc)

theorem handle_paired {sender : String} {mediaSecret : Key} {call : Option (ActiveCall Key)}
    {s : Signal Key} {c : ActiveCall Key} (hcall : ∀ c, call = some c → c.mediaKeyPair.WellFormed P)
    (h : s.handle P sender mediaSecret call = some c) : c.mediaKeyPair.WellFormed P := by
  cases s with
  | offer callId k =>
    cases h
    exact KeyPair.generate_wellFormed P mediaSecret
  | hangUp callId reason => cases h
  | accept callId k =>
    cases call with
    | none => cases h
    | some c₀ =>
      rw [← Option.some.inj h]
      dsimp only
      split_ifs
      · exact hcall c₀ rfl
      · exact hcall c₀ rfl

/-- Without a clash the last signal leaves two connected calls in agreement. -/
theorem agree_of_last (hP : P.Lawful) (h : CallInv P v) {p : Party} {s : Signal Key}
    (hnext : v.inbox p = [s]) (hclash : ¬ Clash v p) (hother : v.inbox p.peer = [])
    {sender : String} {mediaSecret : Key} {c d : ActiveCall Key}
    (hc : s.handle P sender mediaSecret (v.node p) = some c) (hd : v.node p.peer = some d)
    (hcs : c.state = .connected) (hds : d.state = .connected) :
    c.callId = d.callId ∧ ∃ secret, c.sharedMediaSecret = some secret ∧
      d.sharedMediaSecret = some secret := by
  cases s with
  | offer callId k =>
    cases hc
    cases hcs
  | hangUp callId reason => cases hc
  | accept callId k =>
    cases hcall : v.node p with
    | none =>
      rw [hcall] at hc
      cases hc
    | some c₀ =>
      have hquiet : Quiet (v.inbox p) := by
        rw [hnext]
        intro x hx
        rw [List.mem_singleton.mp hx]
        rfl
      by_cases hstate : c₀.state = .offering
      · obtain ⟨hans, hlast⟩ := h.awaited p c₀ d hcall hstate hother hquiet hd
        have hk : k = d.mediaKeyPair.publicKey := hlast callId k (by rw [hnext]; rfl) hds
        obtain hr | ⟨-, hshared⟩ := hans.state
        · rw [hds] at hr
          cases hr
        · rw [hcall] at hc
          have hc' := Option.some.inj hc
          dsimp only at hc'
          rw [if_pos (.inl hstate)] at hc'
          subst hc'
          refine ⟨hans.callId.symm, _, rfl, ?_⟩
          rw [hshared, hk, KeyPair.agree_comm hP (h.paired _ d hd) (h.paired _ c₀ hcall)]
      · refine absurd ⟨callId, k, [], c₀, d, hnext, hcall, hstate, hd, hds, ?_, ?_⟩ hclash
        · exact fun x hx => absurd hx List.not_mem_nil
        · rw [hother]
          exact fun x hx => absurd hx List.not_mem_nil

/-- A client reads a signal. -/
theorem hear (hP : P.Lawful) (h : CallInv P v) {p : Party} (hclash : ¬ Clash v p)
    (sender : String) (mediaSecret : Key) :
    CallInv P (v.take p fun call s => s.handle P sender mediaSecret call) := by
  cases hnext : v.inbox p with
  | nil =>
    rw [Mail.take_nil hnext]
    exact h
  | cons s rest =>
    have hself := Mail.take_node_self hnext fun call s => s.handle P sender mediaSecret call
    have hpeer := v.take_node_of_ne (Party.peer_ne p)
      fun call s => s.handle P sender mediaSecret call
    have hin := Mail.take_inbox_self hnext fun call s => s.handle P sender mediaSecret call
    have hout := v.take_inbox_of_ne (Party.peer_ne p)
      fun call s => s.handle P sender mediaSecret call
    refine ⟨fun q c hc => ?_, fun q c hc hstate => ?_,
      fun q c d hc hstate hsent hquiet hd => ?_, fun hempty => ?_⟩
    · rcases p.eq_or_eq_peer q with rfl | rfl
      · rw [hself] at hc
        exact handle_paired (h.paired q) hc
      · rw [hpeer] at hc
        exact h.paired _ c hc
    · rcases p.eq_or_eq_peer q with rfl | rfl
      · rw [hself] at hc
        exact absurd hstate (handle_not_offering hc)
      · rw [hpeer] at hc
        have hlast := h.offered _ c hc hstate
        rw [Party.peer_peer, hnext] at hlast
        rw [Party.peer_peer, hin]
        rcases hlast with hnil | hlast
        · cases hnil
        · by_cases hrest : rest = []
          · exact .inl hrest
          · rw [List.getLast?_cons_of_ne_nil hrest] at hlast
            exact .inr hlast
    · rcases p.eq_or_eq_peer q with rfl | rfl
      · rw [hself] at hc
        exact absurd hstate (handle_not_offering hc)
      · rw [hpeer] at hc
        rw [Party.peer_peer, hin] at hsent
        rw [Party.peer_peer, hself] at hd
        -- the offer is the last signal, so it has just been read
        have hlast := h.offered _ c hc hstate
        rw [Party.peer_peer, hnext, hsent] at hlast
        rcases hlast with hnil | hlast
        · cases hnil
        · cases Option.some.inj hlast
          cases hd
          exact ⟨⟨rfl, rfl, .inl rfl⟩, fun _ _ _ hcon => by cases hcon⟩
    · have hrest := hempty p
      rw [hin] at hrest
      have hother := hempty p.peer
      rw [hout] at hother
      subst hrest
      intro q c d hc hd hcs hds
      rcases p.eq_or_eq_peer q with rfl | rfl
      · rw [hself] at hc
        rw [hpeer] at hd
        exact agree_of_last hP h hnext hclash hother hc hd hcs hds
      · rw [hpeer] at hc
        rw [Party.peer_peer, hself] at hd
        obtain ⟨hid, secret, hd', hc'⟩ := agree_of_last hP h hnext hclash hother hd hc hds hcs
        exact ⟨hid.symm, secret, hc', hd'⟩

theorem moves (hP : P.Lawful) {v' : Calls Key} (h : CallInv P v) (hm : Moves P v v') :
    CallInv P v' := by
  cases hm with
  | stay => exact h
  | start hstate hpair => exact h.start hpair
  | accept hcall mediaSecret => exact h.accept hcall mediaSecret
  | hangUp p callId reason => exact h.hangUp p callId reason
  | hear hclash sender mediaSecret => exact h.hear hP hclash sender mediaSecret

end CallInv

/-! ## Runs -/

theorem Callers.callInv (P : Primitives Key) (u : Callers Key) :
    CallInv P (PhoneLine.calls ((CallLine.start u).map Client.phone)) := by
  have hnone : ∀ p, (PhoneLine.calls ((CallLine.start u).map Client.phone)).node p = none :=
    fun p => PhoneLine.callOf_of_none (u.idle p)
  refine ⟨fun p c hc => ?_, fun p c hc => ?_, fun p c d hc => ?_, fun _ p c d hc => ?_⟩
  · rw [hnone] at hc
    cases hc
  · rw [hnone] at hc
    cases hc
  · rw [hnone] at hc
    cases hc
  · rw [hnone] at hc
    cases hc

/-- A run of the clients is a run of their phones. -/
theorem CallLine.map_run {X : Crates Key} {W : Writers Key} (hW : W.ReadBy X) (w : CallLine Key)
    (steps : List (CallStep Key)) :
    (w.run X W steps).map Client.phone =
      steps.foldl (PhoneLine.step X.prims) (w.map Client.phone) :=
  (List.foldl_hom _ fun w a => (CallLine.map_step hW w a).symm).symm

/-- **Media keys.** In a run of two clients without a clash, whatever the order of the steps:
    when nothing is in flight and both are connected with each other, they are in one call and
    have one media key. -/
theorem media_keys_agree {X : Crates Key} {W : Writers Key} (hP : X.prims.Lawful)
    (hW : W.ReadBy X) (u : Callers Key) (steps : List (CallStep Key))
    (hclash : Never (CallLine.step X W) (fun w a => a.Clashes (w.map Client.phone))
      (CallLine.start u) steps) :
    Agreed (PhoneLine.calls (((CallLine.start u).run X W steps).map Client.phone)) := by
  have hstep : ∀ (w : PhoneLine Key) (a : CallStep Key), CallInv X.prims w.calls →
      ¬ CallStep.Clashes w a → CallInv X.prims (PhoneLine.step X.prims w a).calls :=
    fun w a h hnot => h.moves hP (PhoneLine.step_moves w a hnot)
  refine CallInv.agreed (P := X.prims) ?_
  rw [CallLine.map_run hW]
  exact run_inv hstep steps _ (u.callInv X.prims)
    ((never_map (CallLine.map_step hW) steps _).mp hclash)

/-! ### Two fresh clients -/

def freshCallers : Callers Term where
  client := freshPeers.client
  userId_ne := by decide
  idle p := by cases p <;> rfl

/-- Alice calls, Bob accepts. -/
def freshCall : List (CallStep Term) :=
  [.start .alice 1 (.secret 4) "bob", .process .bob (.secret 5),
    .accept .bob (.secret 6) "alice_1", .process .alice (.secret 7)]

theorem media_keys_agree_freshCall :
    ∃ c d, c.state = .connected ∧ d.state = .connected ∧
      (PhoneLine.calls (((CallLine.start freshCallers).run textCrates textWriters
        freshCall).map Client.phone)).node .alice = some c ∧
      (PhoneLine.calls (((CallLine.start freshCallers).run textCrates textWriters
        freshCall).map Client.phone)).node .bob = some d ∧
      c.callId = d.callId ∧ ∃ secret, c.sharedMediaSecret = some secret ∧
        d.sharedMediaSecret = some secret := by
  have hnever : Never (CallLine.step textCrates textWriters)
      (fun w a => a.Clashes (w.map Client.phone)) (CallLine.start freshCallers) freshCall := by
    refine (never_map (CallLine.map_step textWriters_readBy) freshCall _).mpr ?_
    refine ⟨id, ?_, id, ?_, trivial⟩
    · rintro ⟨callId, k, rest, c, d, hnext, -⟩
      cases hnext
    · rintro ⟨callId, k, rest, c, d, -, hcall, hstate, -⟩
      cases hcall
      exact hstate rfl
  have h := media_keys_agree (X := textCrates) symbolic_lawful textWriters_readBy freshCallers
    freshCall hnever
  rw [CallLine.map_run textWriters_readBy] at h ⊢
  exact ⟨_, _, rfl, rfl, rfl, rfl, h (fun p => by cases p <;> rfl) .alice _ _ rfl rfl rfl rfl⟩

/-- Both call. Alice accepts Bob's call, and Bob, whose phone rings, reads it. -/
def glare : List (CallStep Term) :=
  [.start .alice 1 (.secret 4) "bob", .start .bob 2 (.secret 5) "alice",
    .process .alice (.secret 6), .accept .alice (.secret 7) "bob_2", .process .bob (.secret 8),
    .process .bob (.secret 9)]

/-- After the glare nothing is in flight, and the two are connected in different calls with
    different media keys. -/
theorem glare_disagrees :
    textCrates.prims.Lawful ∧ textWriters.ReadBy textCrates ∧
      ¬ Agreed (PhoneLine.calls (((CallLine.start freshCallers).run textCrates textWriters
        glare).map Client.phone)) := by
  refine ⟨symbolic_lawful, textWriters_readBy, fun h => ?_⟩
  rw [CallLine.map_run textWriters_readBy] at h
  obtain ⟨hid, -⟩ := h (fun p => by cases p <;> rfl) .alice _ _ rfl rfl rfl rfl
  exact absurd hid (by decide)

end TinTin.Cli
