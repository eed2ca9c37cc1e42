/-
  Two clients that open sessions on their own: the abstract protocol.

  A side holds no half of a conversation, or one it opened (`initiator`), or one it made from
  the other side's opening message (`responder`), which replaces whatever it held. A message
  is a `hello` with the base key of a new half, or a `say` with the header and the chain key
  it is sealed with. Only readable messages are received: the relation has no step for a
  side that would meet another one.

  `Crossed p`: the half of `p` is a responder one, and its own opening message has been, or
  will be, answered by another responder half. The two halves then have nothing in common.

  * `inv_step`: what holds in every state reached without a send by a crossed side.
  * `can_receive`: in such a state every waiting message is readable.
-/
import TinTin.Core.Conversation

namespace TinTin.Cli.Handshake

open TinTin.Lib TinTin.Core

/-- How keys are made: the chain step, the key of an unused chain, the pre-keys, and the chain
    key a side derives with its pre-key from a base key. -/
structure Scheme (K : Type) where
  next : K → K
  zero : K
  preKey : Party → K
  chain : Party → K → K

/-- One side of a conversation: what it sends with, and what it can read next. -/
structure Half (K : Type) where
  role : SessionRole
  header : K
  sendChain : K
  /-- the header and chain key of the next readable message -/
  view : K × K
  deriving DecidableEq, Repr

inductive Message (K : Type)
  | hello (base : K) (text : String)
  | say (header chain : K) (text : String)
  deriving DecidableEq, Repr

namespace Message

variable {K : Type}

def text : Message K → String
  | hello _ t => t
  | say _ _ t => t

def isHello : Message K → Bool
  | hello _ _ => true
  | say _ _ _ => false

end Message

/-- The halves, the messages that wait for each side, and the texts each side has sent and
    read. -/
structure State (K : Type) where
  half : Party → Option (Half K)
  waiting : Party → List (Message K)
  said : Party → List String
  heard : Party → List String

inductive Label (K : Type)
  /-- `base` is the base key of the half that is opened, if one is -/
  | send (p : Party) (text : String) (base : K)
  | receive (p : Party)

variable {K : Type} (S : Scheme K)

/-! ## Steps -/

/-- A side with half `o` reads a message. -/
inductive Hears (p : Party) : Option (Half K) → Message K → Option (Half K) → Prop
  | hello (o : Option (Half K)) (base : K) (text : String) :
    Hears p o (.hello base text)
      (some ⟨.responder, S.preKey p, S.zero, (base, S.next (S.chain p base))⟩)
  | say (role : SessionRole) (header sendChain k c : K) (text : String) :
    Hears p (some ⟨role, header, sendChain, (k, c)⟩) (.say k c text)
      (some ⟨role, header, sendChain, (k, S.next c)⟩)

/-- The half that `p` opens, after its first message. -/
def opened (p : Party) (base : K) : Half K :=
  ⟨.initiator, base, S.next (S.chain p.peer base), (S.preKey p.peer, S.zero)⟩

/-- A half after one message sent. -/
def Half.sent (h : Half K) : Half K := { h with sendChain := S.next h.sendChain }

/-- `p` holds the half `h` afterwards, and the message waits for its peer. -/
def State.send (s : State K) (p : Party) (h : Half K) (m : Message K) : State K where
  half := Function.update s.half p (some h)
  waiting := Function.update s.waiting p.peer (s.waiting p.peer ++ [m])
  said := Function.update s.said p (s.said p ++ [m.text])
  heard := s.heard

/-- `p` has read everything that waited for it, and holds `o` afterwards. -/
def State.receive (s : State K) (p : Party) (o : Option (Half K)) : State K where
  half := Function.update s.half p o
  waiting := Function.update s.waiting p []
  said := s.said
  heard := Function.update s.heard p (s.heard p ++ (s.waiting p).map Message.text)

inductive Step : State K → Label K → State K → Prop
  | first {s : State K} {p : Party} (h : s.half p = none) (text : String) (base : K) :
    Step s (.send p text base) (s.send p (opened S p base) (.hello base text))
  | next {s : State K} {p : Party} {h : Half K} (hh : s.half p = some h) (text : String)
      (base : K) :
    Step s (.send p text base) (s.send p (h.sent S) (.say h.header h.sendChain text))
  | receive {s : State K} {p : Party} {o : Option (Half K)}
      (h : Path (Hears S p) (s.half p) (s.waiting p) o) :
    Step s (.receive p) (s.receive p o)

/-- Before any message. -/
def State.start : State K := ⟨fun _ => none, fun _ => [], fun _ => [], fun _ => []⟩

/-! ## Reading -/

/-- What a side can read, without what it sends with. -/
inductive Follows (p : Party) : Option (K × K) → Message K → Option (K × K) → Prop
  | hello (v : Option (K × K)) (base : K) (text : String) :
    Follows p v (.hello base text) (some (base, S.next (S.chain p base)))
  | say (k c : K) (text : String) : Follows p (some (k, c)) (.say k c text) (some (k, S.next c))

variable {S}

theorem Follows.functional {p : Party} {v v₁ v₂ : Option (K × K)} {m : Message K}
    (h₁ : Follows S p v m v₁) (h₂ : Follows S p v m v₂) : v₁ = v₂ := by
  cases h₁ <;> cases h₂ <;> rfl

theorem Hears.follows {p : Party} {o o' : Option (Half K)} {m : Message K}
    (h : Hears S p o m o') : Follows S p (o.map Half.view) m (o'.map Half.view) := by
  cases h with
  | hello => exact .hello _ _ _
  | say => exact .say _ _ _

/-- A side that can read a message, hears it. -/
theorem Follows.hears {p : Party} {o : Option (Half K)} {m : Message K} {v : Option (K × K)}
    (h : Follows S p (o.map Half.view) m v) :
    ∃ o', Hears S p o m o' ∧ o'.map Half.view = v := by
  generalize hv : o.map Half.view = w at h
  cases h with
  | hello => exact ⟨_, .hello _ _ _, rfl⟩
  | say =>
    obtain ⟨⟨role, header, sendChain, view⟩, rfl, rfl⟩ := Option.map_eq_some_iff.mp hv
    exact ⟨_, .say _ _ _ _ _ _, rfl⟩

theorem hears_of_follows {p : Party} {o : Option (Half K)} {ms : List (Message K)}
    {v : Option (K × K)} (h : Path (Follows S p) (o.map Half.view) ms v) :
    ∃ o', Path (Hears S p) o ms o' ∧ o'.map Half.view = v := by
  induction ms generalizing o with
  | nil => exact ⟨o, .nil o, Path.nil_iff.mp h⟩
  | cons m ms ih =>
    obtain ⟨w, hm, hms⟩ := Path.cons_iff.mp h
    obtain ⟨o₁, h₁, rfl⟩ := hm.hears
    obtain ⟨o', h', hv⟩ := ih hms
    exact ⟨o', .cons h₁ h', hv⟩

theorem follows_of_hears {p : Party} {o o' : Option (Half K)} {ms : List (Message K)}
    (h : Path (Hears S p) o ms o') :
    Path (Follows S p) (o.map Half.view) ms (o'.map Half.view) :=
  h.map fun _ _ _ => Hears.follows

/-- A side without a half can only start with a `hello`, which anyone can read. -/
theorem follows_from_any {p : Party} {ms : List (Message K)} {v : Option (K × K)}
    (h : Path (Follows S p) none ms v) (hne : ms ≠ []) (w : Option (K × K)) :
    Path (Follows S p) w ms v := by
  cases h with
  | nil => exact absurd rfl hne
  | cons hm hms =>
    cases hm with
    | hello => exact .cons (.hello _ _ _) hms

/-- A `hello` among the messages leaves a responder half that has sent nothing; otherwise what
    a side sends with is untouched. -/
theorem hears_voice {p : Party} {o o' : Option (Half K)} {ms : List (Message K)}
    (h : Path (Hears S p) o ms o') :
    if ∃ m ∈ ms, m.isHello then ∃ v, o' = some ⟨.responder, S.preKey p, S.zero, v⟩
    else o'.map (fun h => (h.role, h.header, h.sendChain)) =
      o.map (fun h => (h.role, h.header, h.sendChain)) := by
  induction h with
  | nil => simp
  | cons hm hms ih =>
    cases hm with
    | hello =>
      rw [if_pos ⟨_, List.mem_cons_self, rfl⟩]
      split at ih
      · exact ih
      · obtain ⟨⟨role, header, sendChain, v⟩, rfl, heq⟩ := Option.map_eq_some_iff.mp ih
        cases heq
        exact ⟨v, rfl⟩
    | say => simpa [Message.isHello] using ih

/-! ## What holds in a run -/

def State.role (s : State K) (p : Party) : Option SessionRole := (s.half p).map Half.role

/-- A `hello` waits for `p`. -/
def State.HelloWaits (s : State K) (p : Party) : Prop := ∃ m ∈ s.waiting p, m.isHello

/-- The half of `p` answers the other side's opening message, and so does or will the half of
    the other side answer that of `p`. -/
def State.Crossed (s : State K) (p : Party) : Prop :=
  s.role p = some .responder ∧ (s.role p.peer = some .responder ∨ s.HelloWaits p.peer)

/-- The messages that wait for `p` are readable in order and lead to what its peer sends next,
    unless the peer is crossed. -/
def State.InStep (S : Scheme K) (s : State K) (p : Party) : Prop :=
  ∃ v, Path (Follows S p) ((s.half p).map Half.view) (s.waiting p) v ∧
    ∀ h, s.half p.peer = some h → s.Crossed p.peer ∨ v = some (h.header, h.sendChain)

/-- What holds in every state that is reached without a send by a crossed side. -/
structure Inv (S : Scheme K) (s : State K) : Prop where
  /-- what a side has read, and what waits for it, is what the other side has sent -/
  order : ∀ p, s.heard p ++ (s.waiting p).map Message.text = s.said p.peer
  inStep : ∀ p, s.InStep S p
  /-- a side without a half has sent nothing, and a half its peer has is one the peer opened -/
  quiet : ∀ p, s.half p = none → s.waiting p.peer = [] ∧
    ∀ h, s.half p.peer = some h → h.role = .initiator ∧ h.view = (S.preKey p, S.zero)
  /-- a responder half has its `hello` behind it -/
  answered : ∀ p, s.role p = some .responder → ¬ s.HelloWaits p
  /-- the `hello` of an initiator half waits, or has been answered -/
  opening : ∀ p, s.role p = some .initiator →
    s.HelloWaits p.peer ∨ s.role p.peer = some .responder

theorem inv_start : Inv S (State.start : State K) where
  order _ := rfl
  inStep _ := ⟨none, .nil _, fun _ h => by cases h⟩
  quiet _ _ := ⟨rfl, fun _ h => by cases h⟩
  answered _ h := by cases h
  opening _ h := by cases h

/-! ### Sending -/

section Send

variable {s : State K} {p : Party} {h : Half K} {m : Message K}

@[simp] theorem send_half_self : (s.send p h m).half p = some h := Function.update_self ..

@[simp] theorem send_half_peer : (s.send p h m).half p.peer = s.half p.peer :=
  Function.update_of_ne p.peer_ne ..

@[simp] theorem send_waiting_self : (s.send p h m).waiting p = s.waiting p :=
  Function.update_of_ne p.ne_peer ..

@[simp] theorem send_waiting_peer : (s.send p h m).waiting p.peer = s.waiting p.peer ++ [m] :=
  Function.update_self ..

@[simp] theorem send_role_self : (s.send p h m).role p = some h.role := by
  rw [State.role, send_half_self, Option.map_some]

@[simp] theorem send_role_peer : (s.send p h m).role p.peer = s.role p.peer := by
  rw [State.role, send_half_peer, State.role]

@[simp] theorem send_helloWaits_self : (s.send p h m).HelloWaits p ↔ s.HelloWaits p := by
  rw [State.HelloWaits, send_waiting_self, State.HelloWaits]

@[simp] theorem send_helloWaits_peer :
    (s.send p h m).HelloWaits p.peer ↔ s.HelloWaits p.peer ∨ m.isHello = true := by
  simp [State.HelloWaits, or_and_right, exists_or]

theorem send_order (hs : ∀ q, s.heard q ++ (s.waiting q).map Message.text = s.said q.peer)
    (q : Party) :
    (s.send p h m).heard q ++ ((s.send p h m).waiting q).map Message.text =
      (s.send p h m).said q.peer := by
  rcases p.eq_or_eq_peer q with rfl | rfl
  · rw [send_waiting_self]
    show _ = Function.update s.said q (s.said q ++ [m.text]) q.peer
    rw [Function.update_of_ne q.peer_ne, ← hs q]
    rfl
  · rw [send_waiting_peer, List.map_append, ← List.append_assoc]
    show (s.heard p.peer ++ (s.waiting p.peer).map Message.text) ++ [m.text] =
      Function.update s.said p (s.said p ++ [m.text]) p.peer.peer
    rw [hs, Party.peer_peer, Function.update_self]

/-- The first message of a side that holds nothing. -/
theorem inv_first (hs : Inv S s) (hp : s.half p = none) (text : String) (base : K) :
    Inv S (s.send p (opened S p base) (.hello base text)) := by
  obtain ⟨hwait, hpeer⟩ := hs.quiet p hp
  have hrole : s.role p.peer ≠ some .responder := by
    intro h
    obtain ⟨k, hk, hr⟩ := Option.map_eq_some_iff.mp h
    rw [(hpeer k hk).1] at hr
    cases hr
  refine ⟨send_order hs.order, fun q => ?_, fun q hq => ?_, fun q hq => ?_, fun q hq => ?_⟩
  · rcases p.eq_or_eq_peer q with rfl | rfl
    · -- the peer's messages: there are none, or the first is a `hello`
      obtain ⟨v, hpath, hv⟩ := hs.inStep q
      rw [hp] at hpath
      by_cases hne : s.waiting q = []
      · refine ⟨some (S.preKey q.peer, S.zero), ?_, fun k hk => ?_⟩
        · rw [send_waiting_self, hne, send_half_self]
          exact .nil _
        · rw [send_half_peer] at hk
          rcases hv k hk with hc | hc
          · exact absurd hc.1 hrole
          · rw [hne, Path.nil_iff] at hpath
            rw [← hpath] at hc
            cases hc
      · refine ⟨v, ?_, fun k hk => ?_⟩
        · rw [send_waiting_self]
          exact follows_from_any hpath hne _
        · rw [send_half_peer] at hk
          rcases hv k hk with hc | hc
          · exact absurd hc.1 hrole
          · exact .inr hc
    · refine ⟨some (base, S.next (S.chain p.peer base)), ?_, fun k hk => ?_⟩
      · rw [send_waiting_peer, hwait]
        exact .cons (.hello _ _ _) (.nil _)
      · rw [Party.peer_peer, send_half_self] at hk
        cases hk
        exact .inr rfl
  · rcases p.eq_or_eq_peer q with rfl | rfl
    · rw [send_half_self] at hq
      cases hq
    · rw [send_half_peer] at hq
      rw [Party.peer_peer, send_waiting_self, send_half_self]
      refine ⟨Party.peer_peer p ▸ (hs.quiet _ hq).1, fun k hk => ?_⟩
      cases hk
      exact ⟨rfl, rfl⟩
  · rcases p.eq_or_eq_peer q with rfl | rfl
    · rw [send_role_self] at hq
      cases hq
    · rw [send_role_peer] at hq
      exact absurd hq hrole
  · rcases p.eq_or_eq_peer q with rfl | rfl
    · exact .inl (send_helloWaits_peer.mpr (.inr rfl))
    · rw [send_role_peer] at hq
      rw [Party.peer_peer, send_helloWaits_self, send_role_self]
      rcases hs.opening _ hq with hw | hw
      · exact .inl (Party.peer_peer p ▸ hw)
      · rw [Party.peer_peer, State.role, hp] at hw
        cases hw

/-- A later message of a side that is not crossed. -/
theorem inv_next (hs : Inv S s) (hp : s.half p = some h) (hc : ¬ s.Crossed p) (text : String) :
    Inv S (s.send p (h.sent S) (.say h.header h.sendChain text)) := by
  have hrole : s.role p = some h.role := by rw [State.role, hp, Option.map_some]
  have hview : ((s.send p (h.sent S) (.say h.header h.sendChain text)).half p).map Half.view =
      (s.half p).map Half.view := by
    rw [send_half_self, hp]
    rfl
  refine ⟨send_order hs.order, fun q => ?_, fun q hq => ?_, fun q hq => ?_, fun q hq => ?_⟩
  · rcases p.eq_or_eq_peer q with rfl | rfl
    · obtain ⟨v, hpath, hv⟩ := hs.inStep q
      refine ⟨v, by rwa [hview, send_waiting_self], fun k hk => ?_⟩
      rw [send_half_peer] at hk
      rcases hv k hk with hx | hx
      · refine .inl ⟨by rw [send_role_peer]; exact hx.1, ?_⟩
        rw [Party.peer_peer, send_role_self, send_helloWaits_self]
        have := hx.2
        rw [Party.peer_peer, hrole] at this
        exact this
      · exact .inr hx
    · obtain ⟨v, hpath, hv⟩ := hs.inStep p.peer
      rw [Party.peer_peer] at hv
      rcases hv h hp with hx | rfl
      · exact absurd hx hc
      · refine ⟨some (h.header, S.next h.sendChain), ?_, fun k hk => ?_⟩
        · rw [send_half_peer, send_waiting_peer]
          exact hpath.snoc (.say _ _ _)
        · rw [Party.peer_peer, send_half_self] at hk
          cases hk
          exact .inr rfl
  · rcases p.eq_or_eq_peer q with rfl | rfl
    · rw [send_half_self] at hq
      cases hq
    · rw [send_half_peer] at hq
      obtain ⟨hwait, hpeer⟩ := hs.quiet _ hq
      rw [Party.peer_peer] at hwait hpeer ⊢
      rw [send_waiting_self, send_half_self]
      refine ⟨hwait, fun k hk => ?_⟩
      cases hk
      exact hpeer h hp
  · rcases p.eq_or_eq_peer q with rfl | rfl
    · rw [send_role_self] at hq
      rw [send_helloWaits_self]
      exact hs.answered q (hrole.trans hq)
    · rw [send_role_peer] at hq
      rw [send_helloWaits_peer]
      rintro (hw | hw)
      · exact hs.answered _ hq hw
      · cases hw
  · rcases p.eq_or_eq_peer q with rfl | rfl
    · rw [send_role_self] at hq
      rw [send_helloWaits_peer, send_role_peer]
      exact (hs.opening q (hrole.trans hq)).imp_left .inl
    · rw [send_role_peer] at hq
      rw [Party.peer_peer, send_helloWaits_self, send_role_self]
      have := hs.opening _ hq
      rwa [Party.peer_peer, hrole] at this

end Send

/-! ### Receiving -/

section Receive

variable {s : State K} {p : Party} {o : Option (Half K)}

@[simp] theorem receive_half_self : (s.receive p o).half p = o := Function.update_self ..

@[simp] theorem receive_half_peer : (s.receive p o).half p.peer = s.half p.peer :=
  Function.update_of_ne p.peer_ne ..

@[simp] theorem receive_waiting_self : (s.receive p o).waiting p = [] := Function.update_self ..

@[simp] theorem receive_waiting_peer : (s.receive p o).waiting p.peer = s.waiting p.peer :=
  Function.update_of_ne p.peer_ne ..

@[simp] theorem receive_heard_self :
    (s.receive p o).heard p = s.heard p ++ (s.waiting p).map Message.text :=
  Function.update_self ..

@[simp] theorem receive_heard_peer : (s.receive p o).heard p.peer = s.heard p.peer :=
  Function.update_of_ne p.peer_ne ..

@[simp] theorem receive_role_self : (s.receive p o).role p = o.map Half.role := by
  rw [State.role, receive_half_self]

@[simp] theorem receive_role_peer : (s.receive p o).role p.peer = s.role p.peer := by
  rw [State.role, receive_half_peer, State.role]

theorem receive_not_helloWaits_self : ¬ (s.receive p o).HelloWaits p := by
  rintro ⟨m, hm, -⟩
  rw [receive_waiting_self] at hm
  cases hm

@[simp] theorem receive_helloWaits_peer :
    (s.receive p o).HelloWaits p.peer ↔ s.HelloWaits p.peer := by
  rw [State.HelloWaits, receive_waiting_peer, State.HelloWaits]

theorem receive_order (hs : ∀ q, s.heard q ++ (s.waiting q).map Message.text = s.said q.peer)
    (q : Party) :
    (s.receive p o).heard q ++ ((s.receive p o).waiting q).map Message.text =
      (s.receive p o).said q.peer := by
  rw [show (s.receive p o).said = s.said from rfl, ← hs q]
  rcases p.eq_or_eq_peer q with rfl | rfl
  · rw [receive_waiting_self, List.map_nil, List.append_nil, receive_heard_self]
  · rw [receive_waiting_peer, receive_heard_peer]

/-- What a side that has read everything holds: a fresh responder half if a `hello` was there,
    and otherwise what it held, reading on. -/
theorem received_cases (h : Path (Hears S p) (s.half p) (s.waiting p) o) :
    (s.HelloWaits p ∧ ∃ v, o = some ⟨.responder, S.preKey p, S.zero, v⟩) ∨
      (¬ s.HelloWaits p ∧ o.map (fun h => (h.role, h.header, h.sendChain)) =
        (s.half p).map (fun h => (h.role, h.header, h.sendChain))) := by
  have := hears_voice h
  split at this
  · next hw => exact .inl ⟨hw, this⟩
  · next hw => exact .inr ⟨hw, this⟩

theorem role_eq_of_voice {o o' : Option (Half K)}
    (h : o.map (fun h => (h.role, h.header, h.sendChain)) =
      o'.map (fun h => (h.role, h.header, h.sendChain))) :
    o.map Half.role = o'.map Half.role := by
  have := congrArg (Option.map Prod.fst) h
  simpa [Option.map_map, Function.comp_def] using this

/-- A responder half stays one, and a waiting `hello` makes one. -/
theorem received_responder (h : Path (Hears S p) (s.half p) (s.waiting p) o)
    (hr : s.role p = some .responder ∨ s.HelloWaits p) :
    (s.receive p o).role p = some .responder := by
  rw [receive_role_self]
  rcases received_cases h with ⟨-, v, rfl⟩ | ⟨hw, heq⟩
  · rfl
  · rw [role_eq_of_voice heq]
    exact hr.resolve_right hw

/-- A side that was crossed stays so. -/
theorem crossed_receive (h : Path (Hears S p) (s.half p) (s.waiting p) o) {q : Party}
    (hc : s.Crossed q) : (s.receive p o).Crossed q := by
  rcases p.eq_or_eq_peer q with rfl | rfl
  · refine ⟨received_responder h (.inl hc.1), ?_⟩
    rw [receive_role_peer, receive_helloWaits_peer]
    exact hc.2
  · obtain ⟨hr, hpeer⟩ := hc
    rw [Party.peer_peer] at hpeer
    refine ⟨by rwa [receive_role_peer], .inl ?_⟩
    rw [Party.peer_peer]
    exact received_responder h hpeer

theorem inv_receive (hs : Inv S s) (h : Path (Hears S p) (s.half p) (s.waiting p) o) :
    Inv S (s.receive p o) := by
  refine ⟨receive_order hs.order, fun q => ?_, fun q hq => ?_, fun q hq => ?_, fun q hq => ?_⟩
  · rcases p.eq_or_eq_peer q with rfl | rfl
    · obtain ⟨v, hpath, hv⟩ := hs.inStep q
      obtain rfl := Path.functional (fun _ _ _ _ h₁ h₂ => h₁.functional h₂) hpath
        (follows_of_hears h)
      refine ⟨_, by rw [receive_half_self, receive_waiting_self]; exact .nil _, fun k hk => ?_⟩
      rw [receive_half_peer] at hk
      exact (hv k hk).imp_left (crossed_receive h)
    · obtain ⟨v, hpath, hv⟩ := hs.inStep p.peer
      rw [Party.peer_peer] at hv
      refine ⟨v, by rwa [receive_half_peer, receive_waiting_peer], fun k hk => ?_⟩
      rw [Party.peer_peer, receive_half_self] at *
      subst hk
      rcases received_cases h with ⟨hw, w, hk⟩ | ⟨hw, heq⟩
      · cases hk
        cases hp : s.half p with
        | none =>
          -- a first half, made from the peer's opening message
          obtain ⟨hwait, hpeer⟩ := hs.quiet p hp
          rw [hwait, Path.nil_iff] at hpath
          cases hpp : s.half p.peer with
          | none =>
            have := (hs.quiet p.peer hpp).1
            rw [Party.peer_peer] at this
            obtain ⟨m, hm, -⟩ := hw
            rw [this] at hm
            cases hm
          | some k =>
            rw [hpp, Option.map_some, (hpeer k hpp).2] at hpath
            exact .inr hpath.symm
        | some k =>
          -- the half it had opened is gone
          have hrole : s.role p = some k.role := by rw [State.role, hp, Option.map_some]
          have hk : k.role = .initiator := by
            cases hkr : k.role with
            | initiator => rfl
            | responder => exact absurd hw (hs.answered p (by rw [hrole, hkr]))
          refine .inl ⟨received_responder h (.inr hw), ?_⟩
          rw [receive_role_peer, receive_helloWaits_peer]
          exact (hs.opening p (by rw [hrole, hk])).symm
      · obtain ⟨k', hk', hvoice⟩ := Option.map_eq_some_iff.mp heq.symm
        simp only [Prod.mk.injEq] at hvoice
        obtain ⟨-, hh, hc⟩ := hvoice
        rcases hv k' hk' with hx | hx
        · exact .inl (crossed_receive h hx)
        · rw [hx, hh, hc]
          exact .inr rfl
  · rcases p.eq_or_eq_peer q with rfl | rfl
    · rw [receive_half_self] at hq
      subst hq
      rw [receive_waiting_peer, receive_half_peer]
      rcases received_cases h with ⟨-, v, hv⟩ | ⟨-, heq⟩
      · cases hv
      · exact hs.quiet q (Option.map_eq_none_iff.mp heq.symm)
    · rw [receive_half_peer] at hq
      have hquiet := hs.quiet _ hq
      rw [Party.peer_peer] at hquiet ⊢
      rw [hquiet.1, Path.nil_iff] at h
      subst h
      exact ⟨receive_waiting_self, by rw [receive_half_self]; exact hquiet.2⟩
  · rcases p.eq_or_eq_peer q with rfl | rfl
    · exact receive_not_helloWaits_self
    · rw [receive_role_peer] at hq
      rw [receive_helloWaits_peer]
      exact hs.answered _ hq
  · rcases p.eq_or_eq_peer q with rfl | rfl
    · rw [receive_helloWaits_peer, receive_role_peer]
      rw [receive_role_self] at hq
      rcases received_cases h with ⟨-, v, rfl⟩ | ⟨-, heq⟩
      · cases hq
      · exact hs.opening q ((role_eq_of_voice heq).symm.trans hq)
    · rw [receive_role_peer] at hq
      rw [Party.peer_peer]
      have := hs.opening _ hq
      rw [Party.peer_peer] at this
      exact .inr (received_responder h this.symm)

end Receive

/-! ### Runs -/

/-- A label that is not a send by a crossed side. -/
def State.Allows (s : State K) : Label K → Prop
  | .send p _ _ => ¬ s.Crossed p
  | .receive _ => True

/-- **What a step keeps**, unless a crossed side sends. -/
theorem inv_step {s s' : State K} {a : Label K} (hs : Inv S s) (ha : s.Allows a)
    (h : Step S s a s') : Inv S s' := by
  cases h with
  | first hp text base => exact inv_first hs hp text base
  | next hp text base => exact inv_next hs hp ha text
  | receive h => exact inv_receive hs h

/-- The states of runs in which no crossed side sends. -/
def Reached (S : Scheme K) (s : State K) : Prop :=
  ∃ labels, Path (fun s a s' => s.Allows a ∧ Step S s a s') State.start labels s

theorem reached_start : Reached S (State.start : State K) := ⟨[], .nil _⟩

theorem Reached.step {s s' : State K} {a : Label K} (hs : Reached S s) (ha : s.Allows a)
    (h : Step S s a s') : Reached S s' := by
  obtain ⟨labels, hpath⟩ := hs
  exact ⟨labels ++ [a], hpath.snoc ⟨ha, h⟩⟩

theorem Reached.inv {s : State K} (hs : Reached S s) : Inv S s := by
  obtain ⟨labels, hpath⟩ := hs
  exact hpath.invariant (I := Inv S) (fun _ _ _ hi h => inv_step hi h.1 h.2) inv_start

/-- **Every waiting message is readable.** -/
theorem can_receive {s : State K} (hs : Inv S s) (p : Party) :
    ∃ o, Path (Hears S p) (s.half p) (s.waiting p) o := by
  obtain ⟨v, hpath, -⟩ := hs.inStep p
  obtain ⟨o, h, -⟩ := hears_of_follows hpath
  exact ⟨o, h⟩

/-- A side that has nothing waiting has read all that the other side has sent. -/
theorem heard_of_drained {s : State K} (hs : Inv S s) {p : Party} (h : s.waiting p = []) :
    s.heard p = s.said p.peer := by
  rw [← hs.order p, h, List.map_nil, List.append_nil]

/-! ## Crossing -/

theorem not_crossed_of_none {s : State K} {p : Party} (h : s.half p = none) : ¬ s.Crossed p := by
  intro hc
  have := hc.1
  rw [State.role, h] at this
  cases this

theorem step_first {s s' : State K} {p : Party} {text : String} {base : K}
    (h : Step S s (.send p text base) s') (hp : s.half p = none) :
    s' = s.send p (opened S p base) (.hello base text) := by
  cases h with
  | first => rfl
  | next hh =>
    rw [hp] at hh
    cases hh

/-- When both sides have opened, and each has read the other's `hello`, nothing waits and the
    first sender is crossed. -/
theorem crossed_of_hellos {s : State K} {p : Party} {o o' : Option (Half K)}
    (hp : s.HelloWaits p) (hpeer : s.HelloWaits p.peer)
    (ho : Path (Hears S p) (s.half p) (s.waiting p) o)
    (ho' : Path (Hears S p.peer) ((s.receive p o).half p.peer) ((s.receive p o).waiting p.peer)
      o') :
    ((s.receive p o).receive p.peer o').Crossed p ∧
      ∀ q, ((s.receive p o).receive p.peer o').waiting q = [] := by
  have hself : ∀ {A : Type} (f : Party → A) (a : A), Function.update f p.peer a p = f p :=
    fun f a => Function.update_of_ne p.ne_peer a f
  refine ⟨⟨?_, .inl (received_responder ho' (.inr (receive_helloWaits_peer.mpr hpeer)))⟩,
    fun q => ?_⟩
  · have := received_responder ho (.inr hp)
    rw [State.role] at this ⊢
    rwa [show ((s.receive p o).receive p.peer o').half p = (s.receive p o).half p from hself _ _]
  · rcases p.eq_or_eq_peer q with rfl | rfl
    · rw [show ((s.receive q o).receive q.peer o').waiting q = (s.receive q o).waiting q from
        hself _ _, receive_waiting_self]
    · rw [receive_waiting_self]

/-! ## Where chains start -/

/-- Two kinds of chain keys, each closed under the chain step: those over the unused chain and
    those over derived chain keys. -/
structure Kinds (S : Scheme K) where
  unused : K → Prop
  derived : K → Prop
  zero : unused S.zero
  chain : ∀ p base, derived (S.chain p base)
  next_unused : ∀ k, unused k → unused (S.next k)
  next_derived : ∀ k, derived k → derived (S.next k)

/-- An initiator sends with a derived chain and reads with the unused one, a responder the other
    way round. -/
def Half.Seeded (T : Kinds S) (h : Half K) : Prop :=
  match h.role with
  | .initiator => T.derived h.sendChain ∧ T.unused h.view.2
  | .responder => T.unused h.sendChain ∧ T.derived h.view.2

theorem seeded_opened (T : Kinds S) (p : Party) (base : K) : (opened S p base).Seeded T :=
  ⟨T.next_derived _ (T.chain _ _), T.zero⟩

theorem Half.Seeded.sent {T : Kinds S} {h : Half K} (hh : h.Seeded T) : (h.sent S).Seeded T := by
  unfold Half.Seeded Half.sent at *
  dsimp only
  cases hr : h.role with
  | initiator =>
    rw [hr] at hh
    exact ⟨T.next_derived _ hh.1, hh.2⟩
  | responder =>
    rw [hr] at hh
    exact ⟨T.next_unused _ hh.1, hh.2⟩

theorem Hears.seeded {T : Kinds S} {p : Party} {o o' : Option (Half K)} {m : Message K}
    (h : Hears S p o m o') (ho : ∀ k ∈ o, k.Seeded T) : ∀ k ∈ o', k.Seeded T := by
  intro k hk
  cases h with
  | hello =>
    cases hk
    exact ⟨T.zero, T.next_derived _ (T.chain _ _)⟩
  | say role header sendChain k c =>
    cases hk
    have := ho _ rfl
    cases role with
    | initiator => exact ⟨this.1, T.next_unused _ this.2⟩
    | responder => exact ⟨this.1, T.next_derived _ this.2⟩

theorem hears_seeded {T : Kinds S} {p : Party} {o o' : Option (Half K)} {ms : List (Message K)}
    (h : Path (Hears S p) o ms o') (ho : ∀ k ∈ o, k.Seeded T) : ∀ k ∈ o', k.Seeded T :=
  h.invariant (I := fun o => ∀ k ∈ o, k.Seeded T) (fun _ _ _ hi hs => hs.seeded hi) ho

theorem step_seeded {T : Kinds S} {s s' : State K} {a : Label K} (h : Step S s a s')
    (hs : ∀ p, ∀ k ∈ s.half p, k.Seeded T) (p : Party) : ∀ k ∈ s'.half p, k.Seeded T := by
  cases h with
  | @first q hq text base =>
    rcases q.eq_or_eq_peer p with rfl | rfl
    · rw [send_half_self]
      rintro k ⟨⟩
      exact seeded_opened T _ base
    · rw [send_half_peer]
      exact hs _
  | @next q k hq text base =>
    rcases q.eq_or_eq_peer p with rfl | rfl
    · rw [send_half_self]
      rintro _ ⟨⟩
      exact (hs _ _ hq).sent
    · rw [send_half_peer]
      exact hs _
  | @receive q o h =>
    rcases q.eq_or_eq_peer p with rfl | rfl
    · rw [receive_half_self]
      exact hears_seeded h (hs _)
    · rw [receive_half_peer]
      exact hs _

theorem Reached.seeded {s : State K} (hs : Reached S s) (T : Kinds S) (p : Party) :
    ∀ k ∈ s.half p, k.Seeded T := by
  obtain ⟨labels, hpath⟩ := hs
  exact hpath.invariant (I := fun s => ∀ p, ∀ k ∈ s.half p, k.Seeded T)
    (fun _ _ _ hi h => step_seeded h.2 hi) (fun _ _ h => by cases h) p

end TinTin.Cli.Handshake
