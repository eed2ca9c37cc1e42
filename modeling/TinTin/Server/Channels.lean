/-
  Channels: what a handler's call does to the tables of channels and of their subscribers.

  * `ChannelInv`: the tables are what the log of the calls makes of them; a creation that has not
    subscribed its owner is in flight.
  * `ChannelInv.asRecorded`: the lists of channels and of subscribers say what the log says, if
    owners are subscribed.
-/
import TinTin.Server.Groups

namespace TinTin.Server

open TinTin.Lib

variable {db : Database} {name userId : String} {running running' : List Handler}
  {log : List Call}

/-! ## What the calls do to channels -/

variable {channelId : ℤ} {ownerId : String}

def HasChannel (db : Database) (channelId : ℤ) : Prop := ∃ row, (channelId, row) ∈ db.channels.rows

theorem any_channels : db.channels.rows.any (fun r => r.1 == channelId) = true ↔
    HasChannel db channelId := by
  simp [HasChannel]

/-- The database with one more channel. -/
def withChannel (db : Database) (name ownerId : String) : Database :=
  { db with channels := db.channels.insert ⟨name, ownerId⟩ }

theorem hasChannel_withChannel (c : ℤ) : HasChannel (withChannel db name ownerId) c ↔
    HasChannel db c ∨ c = db.channels.lastId + 1 := by
  unfold HasChannel withChannel
  rw [AutoTable.rows_insert]
  simp [exists_or]

/-- The id of a new channel is none that was there. -/
theorem HasChannel.ne_new (h : HasChannel db channelId) : channelId ≠ db.channels.lastId + 1 := by
  obtain ⟨row, hrow⟩ := h
  have hle := db.channels.bounded _ hrow
  dsimp only at hle
  omega

/-- The database with a user subscribed to a channel. -/
def withSubscriber (db : Database) (channelId : ℤ) (userId : String) : Database :=
  { db with
    channelSubscribers :=
      if ⟨channelId, userId⟩ ∈ db.channelSubscribers then db.channelSubscribers
      else db.channelSubscribers ++ [⟨channelId, userId⟩] }

/-- The database with a user no longer subscribed to a channel. -/
def withoutSubscriber (db : Database) (channelId : ℤ) (userId : String) : Database :=
  { db with
    channelSubscribers := db.channelSubscribers.filter fun r => !(r == ⟨channelId, userId⟩) }

theorem run_subscribeChannel (h : HasChannel db channelId) :
    Server.subscribeChannel channelId userId Auto.faultless db 0 =
      (.ok (), withSubscriber db channelId userId, 1) := by
  refine Auto.run_exec_ok rfl ?_
  unfold insertOrIgnoreSubscriber withSubscriber
  split
  · rfl
  · rw [if_neg (by rw [any_channels.mpr h]; exact Bool.false_ne_true)]

theorem call_createChannel (db : Database) (name ownerId : String) :
    (Handler.createChannel name ownerId).call db =
      (.inl (.autoSubscribe (db.channels.lastId + 1) ownerId), withChannel db name ownerId) := rfl

theorem call_autoSubscribe (h : HasChannel db channelId) :
    (Handler.autoSubscribe channelId ownerId).call db =
      (.inr (.opened channelId), withSubscriber db channelId ownerId) := by
  unfold Handler.call
  dsimp only
  rw [run_subscribeChannel h]

theorem call_addSubscriber (h : HasChannel db channelId) :
    (Handler.addSubscriber channelId userId).call db =
      (.inr .ok, withSubscriber db channelId userId) := by
  unfold Handler.call
  dsimp only
  rw [run_subscribeChannel h]
  rfl

theorem call_unsubscribeChannel (db : Database) (channelId : ℤ) (userId : String) :
    (Handler.unsubscribeChannel channelId userId).call db =
      (.inr .ok, withoutSubscriber db channelId userId) := rfl

theorem call_subscribeChannel (db : Database) (channelId : ℤ) (userId : String) :
    (HasChannel db channelId → (Handler.subscribeChannel channelId userId).call db =
      (.inl (.addSubscriber channelId userId), db)) ∧
    (¬ HasChannel db channelId → (Handler.subscribeChannel channelId userId).call db =
      (.inr (.refused ("Channel '" ++ toString channelId ++ "' not found")), db)) := by
  have hrun : getChannelOwner channelId Auto.faultless db 0 =
      (.ok ((db.channels.get? channelId).map (·.ownerId)), db, 1) := rfl
  unfold Handler.call
  dsimp only
  rw [hrun]
  refine ⟨fun ⟨row, hrow⟩ => ?_, fun h => ?_⟩
  · rw [AutoTable.get?_eq_some.mpr hrow]
    rfl
  · have hnone : db.channels.get? channelId = none := by
      rw [Option.eq_none_iff_forall_ne_some]
      exact fun row hrow => h ⟨row, AutoTable.get?_eq_some.mp hrow⟩
    rw [hnone]
    rfl

/-! ## Channels along a run -/

theorem channelMoves_snoc (log : List Call) (c : Call) (channelId : ℤ) (userId : String) :
    channelMoves (log ++ [c]) channelId userId =
      channelMoves log channelId userId ++ (c.onChannel channelId userId).toList := by
  unfold channelMoves
  rw [List.filterMap_append]
  cases h : c.onChannel channelId userId <;> simp [h]

theorem ChannelCreated.snoc (h : ChannelCreated log channelId) (c : Call) :
    ChannelCreated (log ++ [c]) channelId := by
  obtain ⟨name, ownerId, hmem⟩ := h
  exact ⟨name, ownerId, List.mem_append_left _ hmem⟩

/-- **The tables of channels are what the log makes of them.** A channel whose owner is not yet
    subscribed by its creation is in flight, and nobody was in before it was there. -/
structure ChannelInv (db : Database) (running : List Handler) (log : List Call) : Prop where
  channels : ∀ c, HasChannel db c ↔ ChannelCreated log c
  subscribed : ∀ c u, ⟨c, u⟩ ∈ db.channelSubscribers ↔ (standing (channelMoves log c u)).isSome
  keys : db.channelSubscribers.Nodup
  subscriberChannels : ∀ r ∈ db.channelSubscribers, HasChannel db r.channelId
  checked : ∀ c u, .addSubscriber c u ∈ running ∨ .autoSubscribe c u ∈ running → HasChannel db c
  entered : ∀ c u, ∀ m ∈ channelMoves log c u, m ≠ .quit → HasChannel db c
  pending : ∀ before c name o since, log = before ++ channelCreated c name o :: since →
    .autoSubscribe c o ∈ running ∨ channelMoves since c o ≠ []
  before : ∀ before c name o since, log = before ++ channelCreated c name o :: since →
    ∀ m ∈ channelMoves before c o, m = .quit

/-- The subscriptions of creations are still in flight, but for the caller's. -/
def StillPending (running running' : List Handler) (p : ℤ → String → Prop) : Prop :=
  ∀ c o, .autoSubscribe c o ∈ running → .autoSubscribe c o ∈ running' ∨ p c o

theorem Stays.pending {h : Handler} {p : ℤ → String → Prop} (hstays : Stays running running' h)
    (hp : ∀ c o, h = .autoSubscribe c o → p c o) : StillPending running running' p := by
  intro c o hmem
  rcases hstays _ hmem with heq | hmem'
  · exact Or.inr (hp c o heq.symm)
  · exact Or.inl hmem'

/-- What a longer log keeps of the creations in it, if its end creates no channel. -/
theorem ChannelInv.creations (hinv : ChannelInv db running log) {c : Call}
    (hnew : ∀ i name o, c ≠ channelCreated i name o)
    (hpending : StillPending running running' fun i o => (c.onChannel i o).isSome) :
    (∀ i, ChannelCreated (log ++ [c]) i ↔ ChannelCreated log i) ∧
      ∀ before i name o since, log ++ [c] = before ++ channelCreated i name o :: since →
        (.autoSubscribe i o ∈ running' ∨ channelMoves since i o ≠ []) ∧
          ∀ m ∈ channelMoves before i o, m = .quit := by
  refine ⟨fun i => ⟨fun ⟨name, o, hmem⟩ => ⟨name, o, ?_⟩, fun h => h.snoc c⟩, ?_⟩
  · exact (List.mem_append.mp hmem).resolve_right fun h =>
      hnew i name o (List.mem_singleton.mp h).symm
  · intro before i name o since heq
    rcases split_snoc heq with ⟨-, -, h⟩ | ⟨since', rfl, h⟩
    · exact absurd h (hnew i name o)
    · refine ⟨?_, hinv.before before i name o since' h⟩
      rw [channelMoves_snoc]
      rcases hinv.pending before i name o since' h with hmem | hne
      · refine (hpending i o hmem).imp_right fun hsome hnil => ?_
        rw [List.append_eq_nil_iff, Option.toList_eq_nil_iff] at hnil
        change (c.onChannel i o).isSome = true at hsome
        rw [hnil.2] at hsome
        exact Bool.false_ne_true hsome
      · exact Or.inr fun hnil => hne (List.append_eq_nil_iff.mp hnil).1

/-- A call that neither touches the tables of channels nor moves anybody. -/
theorem ChannelInv.other {db' : Database} (hinv : ChannelInv db running log) {c : Call}
    (hchannels : db'.channels = db.channels)
    (hsubscribers : db'.channelSubscribers = db.channelSubscribers)
    (hmoves : ∀ i u, c.onChannel i u = none) (hnew : ∀ i name o, c ≠ channelCreated i name o)
    (hcont : Continues running running' c.2)
    (hpending : StillPending running running' fun _ _ => False)
    (hchecked : ∀ i u, c.2 = .inl (.addSubscriber i u) ∨ c.2 = .inl (.autoSubscribe i u) →
      HasChannel db i) : ChannelInv db' running' (log ++ [c]) := by
  have hhas : ∀ i, HasChannel db' i ↔ HasChannel db i := fun i => by
    unfold HasChannel
    rw [hchannels]
  have hlog : ∀ i u, channelMoves (log ++ [c]) i u = channelMoves log i u := fun i u => by
    rw [channelMoves_snoc, hmoves, Option.toList_none, List.append_nil]
  obtain ⟨hcreated, hsplit⟩ := hinv.creations hnew
    fun i o h => (hpending i o h).imp_right False.elim
  refine ⟨fun i => ?_, fun i u => ?_, ?_, fun r hr => ?_, fun i u h => ?_, fun i u m hm hne => ?_,
    fun before i name o since h => (hsplit before i name o since h).1,
    fun before i name o since h => (hsplit before i name o since h).2⟩
  · rw [hhas, hcreated, hinv.channels]
  · rw [hsubscribers, hlog, hinv.subscribed]
  · rw [hsubscribers]
    exact hinv.keys
  · rw [hsubscribers] at hr
    exact (hhas _).mpr (hinv.subscriberChannels r hr)
  · rw [hhas]
    rcases h with h | h
    · exact (hcont _ h).elim (fun h => hinv.checked i u (Or.inl h)) fun h =>
        hchecked i u (Or.inl h)
    · exact (hcont _ h).elim (fun h => hinv.checked i u (Or.inr h)) fun h =>
        hchecked i u (Or.inr h)
  · rw [hlog] at hm
    exact (hhas _).mpr (hinv.entered i u m hm hne)

theorem ChannelInv.open (hinv : ChannelInv db running log)
    (hcont : Continues running running' (.inl (.autoSubscribe (db.channels.lastId + 1) ownerId)))
    (hpending : StillPending running running' fun _ _ => False)
    (hgoes : .autoSubscribe (db.channels.lastId + 1) ownerId ∈ running') :
    ChannelInv (withChannel db name ownerId) running'
      (log ++ [channelCreated (db.channels.lastId + 1) name ownerId]) := by
  have hlog : ∀ l i u, channelMoves
      (l ++ [channelCreated (db.channels.lastId + 1) name ownerId]) i u =
        channelMoves l i u := fun l i u => by
    rw [channelMoves_snoc]
    exact List.append_nil _
  have hold : ∀ i, HasChannel db i → HasChannel (withChannel db name ownerId) i :=
    fun i h => (hasChannel_withChannel i).mpr (Or.inl h)
  refine ⟨fun i => ?_, fun i u => ?_, hinv.keys, fun r hr => hold _ (hinv.subscriberChannels r hr),
    fun i u h => ?_, fun i u m hm hne => ?_, fun before i n o since h => ?_,
    fun before i n o since h => ?_⟩
  · rw [hasChannel_withChannel, hinv.channels]
    constructor
    · intro h
      rcases h with h | rfl
      · exact h.snoc _
      · exact ⟨name, ownerId, by simp⟩
    · intro ⟨n, o, hmem⟩
      rcases List.mem_append.mp hmem with hmem | hmem
      · exact Or.inl ⟨n, o, hmem⟩
      · have heq := List.mem_singleton.mp hmem
        unfold channelCreated at heq
        injection heq with _ h₁
        injection h₁ with h₂
        injection h₂ with h₃
        exact Or.inr h₃
  · rw [hlog]
    exact hinv.subscribed i u
  · rw [hasChannel_withChannel]
    rcases h with h | h
    · exact (hcont _ h).elim (fun h => Or.inl (hinv.checked i u (Or.inl h))) fun h => by cases h
    · refine (hcont _ h).elim (fun h => Or.inl (hinv.checked i u (Or.inr h))) fun h => Or.inr ?_
      injection h with h₁
      injection h₁ with h₂
      exact h₂.symm
  · rw [hlog] at hm
    exact hold _ (hinv.entered i u m hm hne)
  · rcases split_snoc h with ⟨rfl, rfl, heq⟩ | ⟨since', rfl, h'⟩
    · unfold channelCreated at heq
      injection heq with _ h₁
      injection h₁ with h₂
      rw [← h₂]
      exact Or.inl hgoes
    · rw [hlog]
      refine (hinv.pending before i n o since' h').imp_left fun hmem => ?_
      exact (hpending i o hmem).resolve_right fun h => h
  · rcases split_snoc h with ⟨-, rfl, heq⟩ | ⟨since', -, h'⟩
    · unfold channelCreated at heq
      injection heq with _ h₁
      injection h₁ with h₂
      injection h₂ with hid _
      intro m hm
      by_contra hne
      exact (hinv.entered i o m hm hne).ne_new hid.symm
    · exact hinv.before before i n o since' h'

/-- A move of a user on a channel that is there, if it is one into it. -/
theorem ChannelInv.move (hinv : ChannelInv db running log) {c : Call} {m : Move}
    {subscribers : List ChannelSubscriberRow} (hnew : ∀ i name o, c ≠ channelCreated i name o)
    (hmove : ∀ i u, c.onChannel i u = if channelId = i ∧ userId = u then some m else none)
    (hsubscribers : ∀ i u, ⟨i, u⟩ ∈ subscribers ↔
      if channelId = i ∧ userId = u then m ≠ .quit else ⟨i, u⟩ ∈ db.channelSubscribers)
    (hnodup : subscribers.Nodup) (hchannels : ∀ r ∈ subscribers, HasChannel db r.channelId)
    (hhas : m ≠ .quit → HasChannel db channelId)
    (hcont : Continues running running' (.inr (.opened channelId)) ∨
      Continues running running' (.inr .ok))
    (hpending : StillPending running running' fun i o => channelId = i ∧ userId = o) :
    ChannelInv { db with channelSubscribers := subscribers } running' (log ++ [c]) := by
  obtain ⟨hcreated, hsplit⟩ := hinv.creations hnew fun i o h =>
    (hpending i o h).imp_right fun hio => by
      change (c.onChannel i o).isSome = true
      rw [hmove, if_pos hio]
      rfl
  have hrunning : ∀ x ∈ running', x ∈ running := fun x hx => by
    rcases hcont with hcont | hcont
    · exact (hcont x hx).resolve_right fun h => by cases h
    · exact (hcont x hx).resolve_right fun h => by cases h
  refine ⟨fun i => (hinv.channels i).trans (hcreated i).symm, fun i u => ?_, hnodup, hchannels,
    fun i u h => hinv.checked i u (h.imp (hrunning _) (hrunning _)), fun i u m' hm hne => ?_,
    fun before i name o since h => (hsplit before i name o since h).1,
    fun before i name o since h => (hsplit before i name o since h).2⟩
  · rw [hsubscribers, channelMoves_snoc, hmove]
    by_cases h : channelId = i ∧ userId = u
    · rw [if_pos h, if_pos h, Option.toList_some, standing_snoc]
      cases m <;> cases standing (channelMoves log i u) <;> simp [Move.apply]
    · rw [if_neg h, if_neg h, Option.toList_none, List.append_nil, hinv.subscribed]
  · rw [channelMoves_snoc, hmove] at hm
    rcases List.mem_append.mp hm with hm | hm
    · exact hinv.entered i u m' hm hne
    · by_cases h : channelId = i ∧ userId = u
      · rw [if_pos h, Option.toList_some, List.mem_singleton] at hm
        rw [← h.1]
        exact hhas (hm ▸ hne)
      · rw [if_neg h, Option.toList_none] at hm
        cases hm

theorem ChannelInv.enter (hinv : ChannelInv db running log) {c : Call} {m : Move}
    (hnew : ∀ i name o, c ≠ channelCreated i name o) (hin : m ≠ .quit)
    (hmove : ∀ i u, c.onChannel i u = if channelId = i ∧ userId = u then some m else none)
    (hhas : HasChannel db channelId)
    (hcont : Continues running running' (.inr (.opened channelId)) ∨
      Continues running running' (.inr .ok))
    (hpending : StillPending running running' fun i o => channelId = i ∧ userId = o) :
    ChannelInv (withSubscriber db channelId userId) running' (log ++ [c]) := by
  have hmem : ∀ r, r ∈ (withSubscriber db channelId userId).channelSubscribers ↔
      r ∈ db.channelSubscribers ∨ r = ⟨channelId, userId⟩ := by
    intro r
    unfold withSubscriber
    dsimp only
    by_cases h : ⟨channelId, userId⟩ ∈ db.channelSubscribers
    · rw [if_pos h]
      exact ⟨Or.inl, fun h' => h'.elim (fun h => h) fun heq => heq ▸ h⟩
    · rw [if_neg h, List.mem_append, List.mem_singleton]
  refine hinv.move hnew hmove (fun i u => ?_) ?_ (fun r hr => ?_) (fun _ => hhas) hcont hpending
  · refine (hmem ⟨i, u⟩).trans ?_
    by_cases h : channelId = i ∧ userId = u
    · obtain ⟨rfl, rfl⟩ := h
      rw [if_pos ⟨rfl, rfl⟩]
      exact iff_of_true (Or.inr rfl) hin
    · rw [if_neg h]
      refine or_iff_left fun heq => ?_
      injection heq with h₁ h₂
      exact h ⟨h₁.symm, h₂.symm⟩
  · by_cases h : ⟨channelId, userId⟩ ∈ db.channelSubscribers
    · rw [if_pos h]
      exact hinv.keys
    · rw [if_neg h]
      refine List.nodup_append.mpr ⟨hinv.keys, List.nodup_singleton _, fun a ha b hb heq => ?_⟩
      rw [List.mem_singleton.mp hb] at heq
      exact h (heq ▸ ha)
  · rcases (hmem r).mp hr with hr | rfl
    · exact hinv.subscriberChannels r hr
    · exact hhas

theorem ChannelInv.leave (hinv : ChannelInv db running log)
    (hcont : Continues running running' (.inr .ok))
    (hpending : StillPending running running' fun _ _ => False) :
    ChannelInv (withoutSubscriber db channelId userId) running'
      (log ++ [(.unsubscribeChannel channelId userId, .inr .ok)]) := by
  refine hinv.move (m := .quit)
    (fun i n o heq => by cases heq) (fun i u => rfl) (fun i u => ?_)
    (hinv.keys.sublist List.filter_sublist)
    (fun r hr => hinv.subscriberChannels r (List.mem_filter.mp hr).1)
    (fun h => absurd rfl h) (Or.inr hcont) fun i o h => (hpending i o h).imp_right False.elim
  rw [List.mem_filter]
  by_cases h : channelId = i ∧ userId = u
  · obtain ⟨rfl, rfl⟩ := h
    simp
  · have hne : (⟨i, u⟩ : ChannelSubscriberRow) ≠ ⟨channelId, userId⟩ := fun heq => by
      injection heq with h₁ h₂
      exact h ⟨h₁.symm, h₂.symm⟩
    rw [if_neg h]
    simp [hne]

/-! ## What the lists say -/

/-- What is so of the lists of channels in every run. -/
theorem ChannelInv.asRecorded (hinv : ChannelInv db running log) (channelId : ℤ)
    (userId : String) : ∃ subscribers mine n n',
      listChannelSubscribers channelId Auto.faultless db 0 = (.ok subscribers, db, n) ∧
      listMyChannels userId Auto.faultless db 0 = (.ok mine, db, n') ∧
      (userId ∈ subscribers ↔ LastIn (channelMoves log channelId userId)) ∧
      ((∀ before name since, log = before ++ channelCreated channelId name userId :: since →
          .quit ∉ channelMoves since channelId userId → userId ∈ subscribers) →
        ChannelAsRecorded db log channelId userId subscribers mine) := by
  refine ⟨_, _, 1, 1, rfl, rfl, ?_⟩
  have hsubscribers : userId ∈ orderBy id
      ((db.channelSubscribers.filter (·.channelId == channelId)).map (·.userId)) ↔
        ⟨channelId, userId⟩ ∈ db.channelSubscribers := by
    rw [mem_orderBy]
    constructor
    · intro h
      obtain ⟨r, hr, rfl⟩ := List.mem_map.mp h
      obtain ⟨hmem, hc⟩ := List.mem_filter.mp hr
      obtain rfl : r.channelId = channelId := by simpa using hc
      exact hmem
    · intro hmem
      exact List.mem_map.mpr ⟨_, List.mem_filter.mpr ⟨hmem, by simp⟩, rfl⟩
  have hin : ⟨channelId, userId⟩ ∈ db.channelSubscribers ↔
      LastIn (channelMoves log channelId userId) := by
    rw [hinv.subscribed, standing_isSome_iff]
    rfl
  refine ⟨hsubscribers.trans hin, fun howner => ⟨?_, ?_, ?_, ?_, howner,
    fun h => (call_subscribeChannel db channelId userId).2
      fun hthere => h ((hinv.channels channelId).mp hthere)⟩⟩
  · rw [hsubscribers, hin]
    refine ⟨fun h => ⟨?_, h⟩, fun h => h.2⟩
    exact (hinv.channels channelId).mp (hinv.subscriberChannels _ (hin.mpr h))
  · rw [hsubscribers, List.mem_map]
    constructor
    · intro ⟨r, hr, hid⟩
      rw [mem_orderBy, List.mem_flatMap] at hr
      obtain ⟨c, _, hc⟩ := hr
      obtain ⟨l, hl, rfl⟩ := List.mem_map.mp hc
      obtain ⟨hmem, hkey⟩ := List.mem_filter.mp hl
      have hboth : c.1 = l.channelId ∧ l.userId = userId := by simpa using hkey
      rw [← hid, hboth.1, ← hboth.2]
      exact hmem
    · intro hmem
      obtain ⟨row, hrow⟩ := hinv.subscriberChannels _ hmem
      refine ⟨(channelId, row), ?_, rfl⟩
      rw [mem_orderBy, List.mem_flatMap]
      exact ⟨_, hrow, List.mem_map.mpr ⟨_, List.mem_filter.mpr ⟨hmem, by simp⟩, rfl⟩⟩
  · rw [← List.map_id (orderBy _ _), nodup_map_orderBy, List.map_id]
    refine (List.nodup_map_iff_inj_on (hinv.keys.filter _)).mpr fun r hr r' hr' heq => ?_
    have hc := (List.mem_filter.mp hr).2
    have hc' := (List.mem_filter.mp hr').2
    have hchannel : r.channelId = r'.channelId := by rw [beq_iff_eq.mp hc, beq_iff_eq.mp hc']
    cases r
    cases r'
    exact congrArg₂ ChannelSubscriberRow.mk hchannel heq
  · rw [nodup_map_orderBy, List.map_flatMap]
    have hids : (db.channels.rows.map (·.1)).Nodup := db.channels.sorted.imp fun h => Int.ne_of_lt h
    have hlinks : (db.channelSubscribers.map fun r => (r.channelId, r.userId)).Nodup := by
      refine (List.nodup_map_iff_inj_on hinv.keys).mpr fun r _ r' _ heq => ?_
      cases r
      cases r'
      obtain ⟨h₁, h₂⟩ := Prod.mk.inj heq
      exact congrArg₂ ChannelSubscriberRow.mk h₁ h₂
    have := nodup_join hids hlinks userId
    simpa [List.map_map, Function.comp_def] using this

end TinTin.Server
