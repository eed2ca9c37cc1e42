/-
  Who is in which group and channel, after any interleaving of the handlers.

  * `Desk.Inv.call`: a store call of any handler keeps the invariants of groups and channels; by
    induction they hold after every run.
  * `Desk.Inv.channels_step`: no channel goes away or changes its owner.
  * `membership_iff`: the lists are as recorded exactly while no creation of a channel is half
    done.
-/
import TinTin.Server.Channels

namespace TinTin.Server

open TinTin.Lib

variable {running : List Handler} {channelId : ℤ} {userId : String}

/-! ## Any interleaving -/

/-- Both invariants. -/
structure Desk.Inv (s : Desk) : Prop where
  groups : GroupInv s.db s.running s.log
  channels : ChannelInv s.db s.running s.log

/-- **One store call keeps the invariants**, a case for each handler. -/
theorem Desk.Inv.call {s : Desk} (hinv : s.Inv) {h : Handler} (hmem : h ∈ s.running)
    {running' : List Handler} (hcont : Continues s.running running' (h.call s.db).1)
    (hstays : Stays s.running running' h) (hgoes : ∀ h', (h.call s.db).1 = .inl h' → h' ∈ running') :
    Desk.Inv ⟨(h.call s.db).2, running', s.log ++ [(h, (h.call s.db).1)]⟩ := by
  obtain ⟨hg, hc⟩ := hinv
  cases h with
  | createGroup groupId name creator =>
    have hpending := hstays.pending (p := fun _ _ => False) fun _ _ h => by cases h
    by_cases hthere : HasGroup s.db groupId
    · rw [call_createGroup_taken hthere] at *
      exact ⟨hg.other rfl rfl (fun _ _ => rfl) (fun _ _ _ heq => by cases heq) hcont
          (fun _ _ h => by cases h),
        hc.other rfl rfl (fun _ _ => rfl) (fun _ _ _ heq => by cases heq) hcont hpending
          fun _ _ h => by rcases h with h | h <;> cases h⟩
    · rw [call_createGroup_free hthere (hg.roleOf_eq_none hthere creator)] at *
      exact ⟨hg.create hthere hcont,
        hc.other rfl rfl (fun _ _ => rfl) (fun _ _ _ heq => by cases heq) hcont hpending
          fun _ _ h => by rcases h with h | h <;> cases h⟩
  | joinGroup groupId userId =>
    have hpending := hstays.pending (p := fun _ _ => False) fun _ _ h => by cases h
    by_cases hthere : HasGroup s.db groupId
    · rw [(call_joinGroup s.db groupId userId).1 hthere] at *
      refine ⟨hg.other rfl rfl (fun _ _ => rfl) (fun _ _ _ heq => by cases heq) hcont
          fun g u h => ?_,
        hc.other rfl rfl (fun _ _ => rfl) (fun _ _ _ heq => by cases heq) hcont hpending
          fun _ _ h => by rcases h with h | h <;> cases h⟩
      cases h
      exact hthere
    · rw [(call_joinGroup s.db groupId userId).2 hthere] at *
      exact ⟨hg.other rfl rfl (fun _ _ => rfl) (fun _ _ _ heq => by cases heq) hcont
          (fun _ _ h => by cases h),
        hc.other rfl rfl (fun _ _ => rfl) (fun _ _ _ heq => by cases heq) hcont hpending
          fun _ _ h => by rcases h with h | h <;> cases h⟩
  | addMember groupId userId =>
    have hpending := hstays.pending (p := fun _ _ => False) fun _ _ h => by cases h
    rw [call_addMember (hg.checked _ _ hmem)] at *
    refine ⟨hg.enter (hg.checked _ _ hmem) hcont, hc.other ?_ ?_ (fun _ _ => rfl)
      (fun _ _ _ heq => by cases heq) hcont hpending
      fun _ _ h => by rcases h with h | h <;> cases h⟩
    · dsimp only
      split <;> rfl
    · dsimp only
      split <;> rfl
  | leaveGroup groupId userId =>
    have hpending := hstays.pending (p := fun _ _ => False) fun _ _ h => by cases h
    rw [call_leaveGroup] at *
    exact ⟨hg.leave hcont, hc.other rfl rfl (fun _ _ => rfl) (fun _ _ _ heq => by cases heq) hcont
      hpending fun _ _ h => by rcases h with h | h <;> cases h⟩
  | createChannel name ownerId =>
    have hpending := hstays.pending (p := fun _ _ => False) fun _ _ h => by cases h
    rw [call_createChannel] at *
    exact ⟨hg.other rfl rfl (fun _ _ => rfl) (fun _ _ _ heq => by cases heq) hcont
      (fun _ _ h => by cases h), hc.open hcont hpending (hgoes _ rfl)⟩
  | autoSubscribe channelId ownerId =>
    rw [call_autoSubscribe (hc.checked _ _ (Or.inr hmem))] at *
    refine ⟨hg.other rfl rfl (fun _ _ => rfl) (fun _ _ _ heq => by cases heq) hcont
      (fun _ _ h => by cases h), hc.enter (m := .found) (fun _ _ _ heq => by cases heq)
        (by decide) (fun _ _ => rfl) (hc.checked _ _ (Or.inr hmem)) (Or.inl hcont)
        (hstays.pending fun i o heq => ?_)⟩
    injection heq with h₁ h₂
    exact ⟨h₁, h₂⟩
  | subscribeChannel channelId userId =>
    have hpending := hstays.pending (p := fun _ _ => False) fun _ _ h => by cases h
    by_cases hthere : HasChannel s.db channelId
    · rw [(call_subscribeChannel s.db channelId userId).1 hthere] at *
      refine ⟨hg.other rfl rfl (fun _ _ => rfl) (fun _ _ _ heq => by cases heq) hcont
          (fun _ _ h => by cases h),
        hc.other rfl rfl (fun _ _ => rfl) (fun _ _ _ heq => by cases heq) hcont hpending
          fun i u h => ?_⟩
      rcases h with h | h
      · cases h
        exact hthere
      · cases h
    · rw [(call_subscribeChannel s.db channelId userId).2 hthere] at *
      exact ⟨hg.other rfl rfl (fun _ _ => rfl) (fun _ _ _ heq => by cases heq) hcont
          (fun _ _ h => by cases h),
        hc.other rfl rfl (fun _ _ => rfl) (fun _ _ _ heq => by cases heq) hcont hpending
          fun _ _ h => by rcases h with h | h <;> cases h⟩
  | addSubscriber channelId userId =>
    rw [call_addSubscriber (hc.checked _ _ (Or.inl hmem))] at *
    exact ⟨hg.other rfl rfl (fun _ _ => rfl) (fun _ _ _ heq => by cases heq) hcont
      (fun _ _ h => by cases h), hc.enter (m := .enter) (fun _ _ _ heq => by cases heq)
        (by decide) (fun _ _ => rfl) (hc.checked _ _ (Or.inl hmem)) (Or.inr hcont)
        (hstays.pending fun i o heq => by cases heq)⟩
  | unsubscribeChannel channelId userId =>
    rw [call_unsubscribeChannel] at *
    exact ⟨hg.other rfl rfl (fun _ _ => rfl) (fun _ _ _ heq => by cases heq) hcont
      (fun _ _ h => by cases h), hc.leave hcont (hstays.pending fun _ _ h => by cases h)⟩

/-- A handler taken up waits for its first call. -/
theorem Desk.Inv.accept {s : Desk} (hinv : s.Inv) {h : Handler} (hfresh : h.isFresh = true) :
    Desk.Inv { s with running := s.running ++ [h] } := by
  have hold : ∀ x, x.isFresh = false → x ∈ s.running ++ [h] → x ∈ s.running := by
    intro x hx hmem
    refine (List.mem_append.mp hmem).resolve_right fun heq => ?_
    rw [List.mem_singleton.mp heq, hfresh] at hx
    cases hx
  refine ⟨{ hinv.groups with checked := fun g u hmem => ?_ },
    { hinv.channels with
      checked := fun c u hmem => ?_
      pending := fun before c name o since heq => ?_ }⟩
  · exact hinv.groups.checked g u (hold _ rfl hmem)
  · exact hinv.channels.checked c u (hmem.imp (hold _ rfl) (hold _ rfl))
  · exact (hinv.channels.pending before c name o since heq).imp_left (List.mem_append_left _)

theorem continues_set (i : ℕ) (h' : Handler) :
    Continues running (running.set i h') (.inl h') := fun _ hx =>
  (List.mem_or_eq_of_mem_set hx).imp_right fun h => congrArg Sum.inl h.symm

theorem continues_eraseIdx (i : ℕ) (r : Response) :
    Continues running (running.eraseIdx i) (.inr r) := fun _ hx =>
  Or.inl (List.mem_of_mem_eraseIdx hx)

theorem stays_set {i : ℕ} {h : Handler} (hi : running[i]? = some h) (h' : Handler) :
    Stays running (running.set i h') h := by
  intro x hx
  obtain ⟨j, hj⟩ := List.mem_iff_getElem?.mp hx
  by_cases hij : i = j
  · subst hij
    exact Or.inl (Option.some.inj (hj.symm.trans hi))
  · exact Or.inr (List.mem_iff_getElem?.mpr ⟨j, by rw [List.getElem?_set_ne hij, hj]⟩)

theorem stays_eraseIdx {i : ℕ} {h : Handler} (hi : running[i]? = some h) :
    Stays running (running.eraseIdx i) h := by
  intro x hx
  obtain ⟨j, hj⟩ := List.mem_iff_getElem?.mp hx
  by_cases hij : j = i
  · subst hij
    exact Or.inl (Option.some.inj (hj.symm.trans hi))
  · exact Or.inr (List.mem_eraseIdx_iff_getElem?.mpr ⟨j, hij, hj⟩)

theorem Desk.Inv.step {s s' : Desk} (hinv : s.Inv) {t : Turn} (hstep : s.step t = some s') :
    s'.Inv := by
  cases t with
  | accept h =>
    dsimp only [Desk.step] at hstep
    by_cases hfresh : h.isFresh = true
    · rw [if_pos hfresh] at hstep
      rw [← Option.some.inj hstep]
      exact hinv.accept hfresh
    · rw [if_neg hfresh] at hstep
      cases hstep
  | call i =>
    dsimp only [Desk.step] at hstep
    cases hi : s.running[i]? with
    | none =>
      rw [hi] at hstep
      cases hstep
    | some h =>
      rw [hi] at hstep
      rw [← Option.some.inj hstep]
      refine hinv.call (List.mem_of_getElem? hi) ?_ ?_ ?_
      · cases (h.call s.db).1 with
        | inl h' => exact continues_set i h'
        | inr r => exact continues_eraseIdx i r
      · cases (h.call s.db).1 with
        | inl h' => exact stays_set hi h'
        | inr r => exact stays_eraseIdx hi
      · intro h' hnext
        rw [hnext]
        exact List.mem_set (List.getElem?_eq_some_iff.mp hi).1 h'

/-- A store call of a handler leaves the channels that are there, and adds at most one. -/
theorem Desk.Inv.channels_call {s : Desk} (hinv : s.Inv) {h : Handler} (hmem : h ∈ s.running) :
    (h.call s.db).2.channels = s.db.channels ∨
      ∃ row, (h.call s.db).2.channels = s.db.channels.insert row := by
  obtain ⟨hg, hc⟩ := hinv
  cases h with
  | createGroup groupId name creator =>
    left
    by_cases hthere : HasGroup s.db groupId
    · rw [call_createGroup_taken hthere]
    · rw [call_createGroup_free hthere (hg.roleOf_eq_none hthere creator)]
      rfl
  | joinGroup groupId userId =>
    left
    by_cases hthere : HasGroup s.db groupId
    · rw [(call_joinGroup s.db groupId userId).1 hthere]
    · rw [(call_joinGroup s.db groupId userId).2 hthere]
  | addMember groupId userId =>
    left
    rw [call_addMember (hg.checked _ _ hmem)]
    dsimp only
    split <;> rfl
  | leaveGroup groupId userId => exact Or.inl rfl
  | createChannel name ownerId => exact Or.inr ⟨⟨name, ownerId⟩, rfl⟩
  | autoSubscribe channelId ownerId =>
    left
    rw [call_autoSubscribe (hc.checked _ _ (Or.inr hmem))]
    rfl
  | subscribeChannel channelId userId =>
    left
    by_cases hthere : HasChannel s.db channelId
    · rw [(call_subscribeChannel s.db channelId userId).1 hthere]
    · rw [(call_subscribeChannel s.db channelId userId).2 hthere]
  | addSubscriber channelId userId =>
    left
    rw [call_addSubscriber (hc.checked _ _ (Or.inl hmem))]
    rfl
  | unsubscribeChannel channelId userId => exact Or.inl rfl

/-- **Channels stay**: a turn leaves those that are there, and adds at most one. -/
theorem Desk.Inv.channels_step {s s' : Desk} (hinv : s.Inv) {t : Turn}
    (hstep : s.step t = some s') :
    s'.db.channels = s.db.channels ∨ ∃ row, s'.db.channels = s.db.channels.insert row := by
  cases t with
  | accept h =>
    dsimp only [Desk.step] at hstep
    by_cases hfresh : h.isFresh = true
    · rw [if_pos hfresh] at hstep
      rw [← Option.some.inj hstep]
      exact Or.inl rfl
    · rw [if_neg hfresh] at hstep
      cases hstep
  | call i =>
    dsimp only [Desk.step] at hstep
    cases hi : s.running[i]? with
    | none =>
      rw [hi] at hstep
      cases hstep
    | some h =>
      rw [hi] at hstep
      rw [← Option.some.inj hstep]
      exact hinv.channels_call (List.mem_of_getElem? hi)

theorem Desk.inv_start : Desk.start.Inv := by
  refine ⟨⟨fun g => ?_, .nil, fun g u => rfl, .nil, fun m hm => ?_, fun g u h => ?_⟩,
    ⟨fun c => ?_, fun c u => ?_, .nil, fun r hr => ?_, fun c u h => ?_, fun c u m hm => ?_,
      fun before c name o since h => ?_, fun before c name o since h => ?_⟩⟩
  · exact iff_of_false (fun ⟨_, h, _⟩ => by cases h) fun ⟨_, _, h⟩ => by cases h
  · cases hm
  · cases h
  · exact iff_of_false (fun ⟨_, h⟩ => by cases h) fun ⟨_, _, h⟩ => by cases h
  · exact iff_of_false (fun h => by cases h) Bool.false_ne_true
  · cases hr
  · rcases h with h | h <;> cases h
  · cases hm
  · cases before <;> cases h
  · cases before <;> cases h

theorem Desk.inv_run (turns : List Turn) {s s' : Desk} (hinv : s.Inv)
    (h : s.run turns = some s') : s'.Inv := by
  induction turns generalizing s with
  | nil =>
    rw [← Option.some.inj h]
    exact hinv
  | cons t turns ih =>
    unfold Desk.run at h
    rw [List.foldlM_cons] at h
    obtain ⟨s₁, hstep, hrun⟩ := Option.bind_eq_some_iff.mp h
    exact ih (hinv.step hstep) hrun

/-! ## What the lists say -/

theorem LastIn.of_append {before since : List Move} (hne : since ≠ []) (hquit : .quit ∉ since) :
    LastIn (before ++ since) := by
  unfold LastIn
  rw [List.getLast?_append_of_ne_nil _ hne, List.getLast?_eq_some_getLast hne]
  have hlast : since.getLast hne ≠ .quit := fun h => hquit (h ▸ List.getLast_mem hne)
  cases h : since.getLast hne with
  | found => exact Or.inl rfl
  | enter => exact Or.inr rfl
  | quit => exact absurd h hlast

/-- The moves on a channel before and since it came to be. -/
theorem channelMoves_split (before since : List Call) (name : String) :
    channelMoves (before ++ channelCreated channelId name userId :: since) channelId userId =
      channelMoves before channelId userId ++ channelMoves since channelId userId := by
  unfold channelMoves
  rw [List.filterMap_append]
  rfl

/-- **Memberships are as recorded exactly while no creation of a channel is half done.** In
    whatever order the calls of any number of handlers come, the lists of groups and members
    say what the log says; those of channels do but for an owner who is not subscribed yet. -/
theorem membership_iff {turns : List Turn} {s : Desk} (h : Desk.start.run turns = some s) :
    s.AsRecorded ↔ s.NoneHalfDone := by
  obtain ⟨hg, hc⟩ := Desk.inv_run turns Desk.inv_start h
  constructor
  · intro hrec channelId ownerId hmem before name since hlog hnone
    obtain ⟨subscribers, mine, n, n', hsubs, -, hrecord⟩ := hrec.channels channelId ownerId
    have hin : ownerId ∈ subscribers := hrecord.owner before name since hlog (by simp [hnone])
    obtain ⟨-, hlast⟩ := hrecord.listed.mp hin
    have hmoves : channelMoves (before ++ channelCreated channelId name ownerId :: since) channelId
        ownerId = channelMoves before channelId ownerId ++ channelMoves since channelId ownerId :=
      channelMoves_split before since name
    rw [← hlog, hnone, List.append_nil] at hmoves
    have hall := standing_eq_none (hc.before before channelId name ownerId since hlog)
    unfold LastIn at hlast
    rw [← standing_isSome_iff, hmoves, hall] at hlast
    exact Bool.false_ne_true hlast
  · intro hdone
    refine ⟨hg.asRecorded, fun channelId userId => ?_⟩
    obtain ⟨subscribers, mine, n, n', hsubs, hmine, hin, hrecord⟩ :=
      hc.asRecorded channelId userId
    refine ⟨subscribers, mine, n, n', hsubs, hmine, hrecord ?_⟩
    intro before name since hlog hquit
    rw [hin, hlog, channelMoves_split]
    refine LastIn.of_append ?_ hquit
    rcases hc.pending before channelId name userId since hlog with hmem | hne
    · exact hdone channelId userId hmem before name since hlog
    · exact hne

/-- Bob subscribes while Alice's creation is between its calls, and in the end both are in. -/
theorem membership_bob_first : ∃ s, Desk.start.run
    [.accept (.createChannel "news" "alice"), .call 0, .accept (.subscribeChannel 1 "bob"),
      .call 1, .call 1, .call 0] = some s ∧ s.AsRecorded := by
  obtain ⟨s, hrun, hnone⟩ : ∃ s, Desk.start.run
      [.accept (.createChannel "news" "alice"), .call 0, .accept (.subscribeChannel 1 "bob"),
        .call 1, .call 1, .call 0] = some s ∧ s.running = [] := ⟨_, rfl, rfl⟩
  refine ⟨s, hrun, (membership_iff hrun).mpr fun channelId ownerId hmem => ?_⟩
  rw [hnone] at hmem
  cases hmem

/-- Between the two calls the channel has an owner and no subscriber. -/
theorem creation_half_done : ∃ s,
    Desk.start.run [.accept (.createChannel "news" "alice"), .call 0] = some s ∧
      getChannelOwner 1 Auto.faultless s.db 0 = (.ok (some "alice"), s.db, 1) ∧
      listChannelSubscribers 1 Auto.faultless s.db 0 = (.ok [], s.db, 1) ∧ ¬ s.AsRecorded := by
  refine ⟨_, rfl, rfl, rfl, fun hrec => ?_⟩
  obtain ⟨subscribers, mine, n, n', hsubs, -, hrecord⟩ := hrec.channels 1 "alice"
  have hin : "alice" ∈ subscribers := hrecord.owner [] "news" [] rfl (by simp [channelMoves])
  have hnil : subscribers = [] := (Except.ok.inj (Prod.mk.inj hsubs).1).symm
  rw [hnil] at hin
  cases hin

end TinTin.Server
