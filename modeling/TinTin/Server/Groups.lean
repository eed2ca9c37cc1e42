/-
  Groups: what a handler's call does to the tables of groups and of their members.

  * `GroupInv`: the tables are what the log of the calls makes of them. A call that moves nobody
    keeps it (`GroupInv.other`), and so do `create`, `enter` and `leave`.
  * `GroupInv.asRecorded`: the lists of groups and of members say what the log says.
-/
import TinTin.Server.Handlers

namespace TinTin.Server

open TinTin.Lib

/-! ## Joins -/

/-- A join of rows over a key with rows over the pair of that key and another column, for one
    value of the column, meets each key once. -/
theorem nodup_join {α β κ υ : Type} [DecidableEq κ] [DecidableEq υ] {rows : List α}
    {links : List β} {key : α → κ} {pair : β → κ × υ} (hrows : (rows.map key).Nodup)
    (hlinks : (links.map pair).Nodup) (u : υ) :
    (rows.flatMap fun a =>
      (links.filter fun b => key a == (pair b).1 && (pair b).2 == u).map fun _ => key a).Nodup := by
  rw [List.nodup_flatMap]
  constructor
  · intro a _
    have hsub : ((links.filter fun b => key a == (pair b).1 && (pair b).2 == u).map pair).Nodup :=
      hlinks.sublist (List.filter_sublist.map pair)
    have hall : ∀ p ∈ (links.filter fun b => key a == (pair b).1 && (pair b).2 == u).map pair,
        p = (key a, u) := by
      intro p hp
      obtain ⟨b, hb, rfl⟩ := List.mem_map.mp hp
      have hboth : key a = (pair b).1 ∧ (pair b).2 = u := by simpa using (List.mem_filter.mp hb).2
      exact Prod.ext hboth.1.symm hboth.2
    rw [List.eq_replicate_of_mem hall, List.nodup_replicate, List.length_map] at hsub
    rw [List.map_const', List.nodup_replicate]
    exact hsub
  · refine (List.pairwise_map.mp hrows).imp fun {a b} hne => ?_
    intro k ha hb
    obtain ⟨_, _, rfl⟩ := List.mem_map.mp ha
    obtain ⟨_, _, heq⟩ := List.mem_map.mp hb
    exact hne heq.symm

theorem mem_orderBy {α : Type} {text : α → String} {rows : List α} {a : α} :
    a ∈ orderBy text rows ↔ a ∈ rows := (List.perm_insertionSort _ rows).mem_iff

theorem nodup_map_orderBy {α β : Type} {text : α → String} {rows : List α} {f : α → β} :
    ((orderBy text rows).map f).Nodup ↔ (rows.map f).Nodup :=
  ((List.perm_insertionSort _ rows).map f).nodup_iff
/-! ## What the calls do to groups -/

def roleName : Role → String
  | .founder => "admin"
  | .member => "member"

/-- The role of a user in a group. -/
def roleOf (db : Database) (groupId userId : String) : Option String :=
  (db.groupMembers.find? fun m => m.groupId == groupId && m.userId == userId).map (·.role)

def HasGroup (db : Database) (groupId : String) : Prop := ∃ row ∈ db.groups, row.groupId = groupId

theorem any_groups {db : Database} {groupId : String} :
    db.groups.any (·.groupId == groupId) = true ↔ HasGroup db groupId := by
  simp [HasGroup]

theorem any_members {db : Database} {groupId userId : String} :
    db.groupMembers.any (fun m => m.groupId == groupId && m.userId == userId) = true ↔
      (roleOf db groupId userId).isSome := by
  unfold roleOf
  rw [Option.isSome_map, List.find?_isSome, List.any_eq_true]

variable {db : Database} {groupId name creator userId : String}

/-- The database with one more member of a group. -/
def withMember (db : Database) (groupId userId role : String) : Database :=
  { db with groupMembers := db.groupMembers ++ [⟨groupId, userId, role⟩] }

/-- The database with one more group. -/
def withGroup (db : Database) (groupId name creator : String) : Database :=
  { db with groups := db.groups ++ [⟨groupId, name, creator⟩] }

theorem roleOf_withMember (g u role : String) (hnone : roleOf db groupId userId = none) :
    roleOf (withMember db groupId userId role) g u =
      if groupId = g ∧ userId = u then some role else roleOf db g u := by
  unfold roleOf withMember at *
  rw [List.find?_append, List.find?_singleton]
  by_cases h : groupId = g ∧ userId = u
  · obtain ⟨rfl, rfl⟩ := h
    rw [Option.map_eq_none_iff] at hnone
    simp [hnone]
  · rw [if_neg h]
    have hoff : (groupId == g && userId == u) = false := by simpa using h
    rw [hoff]
    simp

theorem call_createGroup_taken (h : HasGroup db groupId) :
    (Handler.createGroup groupId name creator).call db =
      (.inr (.databaseError .constraint), db) := by
  have hrun : Server.createGroup groupId name creator Auto.faultless db 0 =
      (.error .constraint, db, 1) := by
    have hstmt : insertGroup groupId name creator db = .error .constraint :=
      if_pos (any_groups.mpr h)
    refine Auto.run_bind_error ?_
    unfold Auto.exec
    dsimp only [Auto.faultless]
    rw [hstmt]
  unfold Handler.call
  dsimp only
  rw [hrun]

theorem call_createGroup_free (h : ¬ HasGroup db groupId)
    (hfree : roleOf db groupId creator = none) :
    (Handler.createGroup groupId name creator).call db =
      (.inr (.created groupId),
        withMember (withGroup db groupId name creator) groupId creator "admin") := by
  have hgroup : insertGroup groupId name creator db =
      .ok ((), withGroup db groupId name creator) :=
    if_neg fun hany => h (any_groups.mp hany)
  have hmember : insertGroupMember groupId creator "admin" (withGroup db groupId name creator) =
      .ok ((), withMember (withGroup db groupId name creator) groupId creator "admin") := by
    have hnot : ¬ (withGroup db groupId name creator).groupMembers.any
        (fun m => m.groupId == groupId && m.userId == creator) = true := fun hany => by
      change db.groupMembers.any _ = true at hany
      rw [any_members, hfree] at hany
      exact Bool.false_ne_true hany
    have hthere : (withGroup db groupId name creator).groups.any (·.groupId == groupId) = true := by
      simp [withGroup]
    unfold insertGroupMember
    rw [if_neg hnot, if_neg (by rw [hthere]; exact Bool.false_ne_true)]
    rfl
  have hrun : Server.createGroup groupId name creator Auto.faultless db 0 =
      (.ok groupId, withMember (withGroup db groupId name creator) groupId creator "admin", 2) :=
    (Auto.run_bind_ok (Auto.run_exec_ok rfl hgroup)).trans
      (Auto.run_bind_ok (Auto.run_exec_ok rfl hmember))
  unfold Handler.call
  dsimp only
  rw [hrun]

theorem call_joinGroup (db : Database) (groupId userId : String) :
    (HasGroup db groupId → (Handler.joinGroup groupId userId).call db =
      (.inl (.addMember groupId userId), db)) ∧
    (¬ HasGroup db groupId → (Handler.joinGroup groupId userId).call db =
      (.inr (.refused ("Group '" ++ groupId ++ "' not found")), db)) := by
  have hrun : groupExists groupId Auto.faultless db 0 =
      (.ok (decide (db.groups.countP (·.groupId == groupId) > 0)), db, 1) := rfl
  have hcount : db.groups.countP (·.groupId == groupId) > 0 ↔ HasGroup db groupId := by
    rw [gt_iff_lt, List.countP_pos_iff]
    simp [HasGroup]
  unfold Handler.call
  dsimp only
  rw [hrun]
  refine ⟨fun h => ?_, fun h => ?_⟩
  · rw [decide_eq_true (hcount.mpr h)]
  · rw [decide_eq_false fun hpos => h (hcount.mp hpos)]

theorem call_addMember (hgroup : HasGroup db groupId) :
    (Handler.addMember groupId userId).call db = (.inr .ok,
      if (roleOf db groupId userId).isSome then db else withMember db groupId userId "member") := by
  have hstmt : insertOrIgnoreGroupMember groupId userId "member" db =
      .ok ((), if (roleOf db groupId userId).isSome then db
        else withMember db groupId userId "member") := by
    unfold insertOrIgnoreGroupMember
    by_cases h : (roleOf db groupId userId).isSome
    · rw [if_pos (any_members.mpr h), if_pos h]
    · rw [if_neg fun hany => h (any_members.mp hany), if_neg h,
        if_neg (by rw [any_groups.mpr hgroup]; exact Bool.false_ne_true)]
      rfl
  have hrun : addGroupMember groupId userId Auto.faultless db 0 = (.ok (),
      if (roleOf db groupId userId).isSome then db else withMember db groupId userId "member", 1) :=
    Auto.run_exec_ok rfl hstmt
  unfold Handler.call
  dsimp only
  rw [hrun]
  rfl

/-- The database with a user out of a group. -/
def withoutMember (db : Database) (groupId userId : String) : Database :=
  { db with
    groupMembers := db.groupMembers.filter fun m => !(m.groupId == groupId && m.userId == userId) }

theorem call_leaveGroup (db : Database) (groupId userId : String) :
    (Handler.leaveGroup groupId userId).call db =
      (.inr .ok, withoutMember db groupId userId) := rfl

theorem roleOf_withoutMember (g u : String) :
    roleOf (withoutMember db groupId userId) g u =
      if groupId = g ∧ userId = u then none else roleOf db g u := by
  unfold roleOf withoutMember
  rw [List.find?_filter]
  by_cases h : groupId = g ∧ userId = u
  · obtain ⟨rfl, rfl⟩ := h
    rw [if_pos ⟨rfl, rfl⟩, Option.map_eq_none_iff, List.find?_eq_none]
    intro m _ hm
    simp at hm
    exact hm.1.elim (fun h => h hm.2.1) fun h => h hm.2.2
  · rw [if_neg h]
    congr 2
    funext m
    by_cases hm : m.groupId = g ∧ m.userId = u
    · obtain ⟨rfl, rfl⟩ := hm
      have hoff : (m.groupId == groupId && m.userId == userId) = false := by
        simpa using fun h₁ h₂ => h ⟨h₁.symm, h₂.symm⟩
      rw [hoff]
      simp
    · have hoff : (m.groupId == g && m.userId == u) = false := by simpa using hm
      rw [hoff]
      simp

/-! ## Groups along a run -/

theorem groupMoves_snoc (log : List Call) (c : Call) (groupId userId : String) :
    groupMoves (log ++ [c]) groupId userId =
      groupMoves log groupId userId ++ (c.onGroup groupId userId).toList := by
  unfold groupMoves
  rw [List.filterMap_append]
  cases h : c.onGroup groupId userId <;> simp [h]

theorem standing_groupMoves_snoc (log : List Call) (c : Call) (groupId userId : String) :
    standing (groupMoves (log ++ [c]) groupId userId) =
      match c.onGroup groupId userId with
      | none => standing (groupMoves log groupId userId)
      | some m => m.apply (standing (groupMoves log groupId userId)) := by
  rw [groupMoves_snoc]
  cases c.onGroup groupId userId with
  | none => rw [Option.toList_none, List.append_nil]
  | some m => exact standing_snoc _ m

theorem GroupCreated.snoc {log : List Call} (h : GroupCreated log groupId) (c : Call) :
    GroupCreated (log ++ [c]) groupId := by
  obtain ⟨name, creator, hmem⟩ := h
  exact ⟨name, creator, List.mem_append_left _ hmem⟩

/-- **The tables of groups are what the log makes of them.** -/
structure GroupInv (db : Database) (running : List Handler) (log : List Call) : Prop where
  groups : ∀ g, HasGroup db g ↔ GroupCreated log g
  groupKeys : (db.groups.map (·.groupId)).Nodup
  roles : ∀ g u, roleOf db g u = (standing (groupMoves log g u)).map roleName
  memberKeys : (db.groupMembers.map fun m => (m.groupId, m.userId)).Nodup
  memberGroups : ∀ m ∈ db.groupMembers, HasGroup db m.groupId
  checked : ∀ g u, .addMember g u ∈ running → HasGroup db g

variable {running running' : List Handler} {log : List Call}

/-- A call that neither touches the tables of groups nor moves anybody. -/
theorem GroupInv.other {db' : Database} (hinv : GroupInv db running log) {c : Call}
    (hgroups : db'.groups = db.groups) (hmembers : db'.groupMembers = db.groupMembers)
    (hmoves : ∀ g u, c.onGroup g u = none) (hnew : ∀ g name u, c ≠ groupCreated g name u)
    (hcont : Continues running running' c.2)
    (hchecked : ∀ g u, c.2 = .inl (.addMember g u) → HasGroup db g) :
    GroupInv db' running' (log ++ [c]) := by
  have hhas : ∀ g, HasGroup db' g ↔ HasGroup db g := fun g => by unfold HasGroup; rw [hgroups]
  refine ⟨fun g => ?_, ?_, fun g u => ?_, ?_, fun m hm => ?_, fun g u hg => ?_⟩
  · rw [hhas, hinv.groups]
    refine ⟨fun h => h.snoc c, fun ⟨name, creator, hmem⟩ => ⟨name, creator, ?_⟩⟩
    exact (List.mem_append.mp hmem).resolve_right fun h =>
      hnew g name creator (List.mem_singleton.mp h).symm
  · rw [hgroups]
    exact hinv.groupKeys
  · have hrole : roleOf db' g u = roleOf db g u := by unfold roleOf; rw [hmembers]
    rw [hrole, hinv.roles, standing_groupMoves_snoc, hmoves]
  · rw [hmembers]
    exact hinv.memberKeys
  · rw [hmembers] at hm
    exact (hhas _).mpr (hinv.memberGroups m hm)
  · rw [hhas]
    exact (hcont _ hg).elim (hinv.checked g u) (hchecked g u)

/-- Without the group there are no members. -/
theorem GroupInv.roleOf_eq_none (hinv : GroupInv db running log) (h : ¬ HasGroup db groupId)
    (u : String) : roleOf db groupId u = none := by
  unfold roleOf
  rw [Option.map_eq_none_iff, List.find?_eq_none]
  intro m hm hkey
  have hg : m.groupId = groupId ∧ m.userId = u := by simpa using hkey
  exact h (hg.1 ▸ hinv.memberGroups m hm)

theorem roleOf_eq_none_iff {u : String} :
    roleOf db groupId u = none ↔ ∀ m ∈ db.groupMembers, ¬ (m.groupId = groupId ∧ m.userId = u) := by
  unfold roleOf
  rw [Option.map_eq_none_iff, List.find?_eq_none]
  simp

theorem memberKeys_append {members : List GroupMemberRow}
    (h : (members.map fun m => (m.groupId, m.userId)).Nodup) (role : String)
    (hnone : ∀ m ∈ members, ¬ (m.groupId = groupId ∧ m.userId = userId)) :
    ((members ++ [(⟨groupId, userId, role⟩ : GroupMemberRow)]).map
      fun m => (m.groupId, m.userId)).Nodup := by
  rw [List.map_append, List.nodup_append]
  refine ⟨h, List.nodup_singleton _, fun a ha b hb heq => ?_⟩
  obtain ⟨m, hm, rfl⟩ := List.mem_map.mp ha
  rw [List.map_singleton, List.mem_singleton] at hb
  obtain ⟨hg, hu⟩ := Prod.mk.inj (heq.trans hb)
  exact hnone m hm ⟨hg, hu⟩

theorem GroupInv.create (hinv : GroupInv db running log) (hfree : ¬ HasGroup db groupId)
    (hcont : Continues running running' (.inr (.created groupId))) :
    GroupInv (withMember (withGroup db groupId name creator) groupId creator "admin") running'
      (log ++ [groupCreated groupId name creator]) := by
  have hhas : ∀ g, HasGroup (withMember (withGroup db groupId name creator) groupId creator
      "admin") g ↔ HasGroup db g ∨ groupId = g := by
    intro g
    unfold HasGroup withMember withGroup
    simp [or_and_right, exists_or]
  have hnone : ∀ u, roleOf db groupId u = none := hinv.roleOf_eq_none hfree
  refine ⟨fun g => ?_, ?_, fun g u => ?_, ?_, fun m hm => ?_, fun g u hg => ?_⟩
  · rw [hhas, hinv.groups]
    constructor
    · intro h
      rcases h with h | rfl
      · exact h.snoc _
      · exact ⟨name, creator, by simp⟩
    · intro ⟨n, u, hmem⟩
      rcases List.mem_append.mp hmem with hmem | hmem
      · exact Or.inl ⟨n, u, hmem⟩
      · right
        have heq := List.mem_singleton.mp hmem
        unfold groupCreated at heq
        injection heq with h₁ _
        injection h₁ with h₂
        exact h₂.symm
  · show ((db.groups ++ [(⟨groupId, name, creator⟩ : GroupRow)]).map (·.groupId)).Nodup
    rw [List.map_append, List.nodup_append]
    refine ⟨hinv.groupKeys, List.nodup_singleton _, fun a ha b hb heq => ?_⟩
    obtain ⟨row, hrow, rfl⟩ := List.mem_map.mp ha
    rw [List.map_singleton, List.mem_singleton] at hb
    exact hfree ⟨row, hrow, heq.trans hb⟩
  · have hold : ∀ g u, roleOf (withGroup db groupId name creator) g u = roleOf db g u :=
      fun _ _ => rfl
    rw [roleOf_withMember g u "admin" ((hold _ _).trans (hnone creator)),
      standing_groupMoves_snoc, hold, hinv.roles]
    unfold groupCreated Call.onGroup
    dsimp only
    by_cases h : groupId = g ∧ creator = u
    · rw [if_pos h, if_pos ⟨h, h.1⟩]
      rfl
    · rw [if_neg h, if_neg fun h' => h h'.1]
  · exact memberKeys_append hinv.memberKeys "admin" (roleOf_eq_none_iff.mp (hnone creator))
  · rw [hhas]
    rcases List.mem_append.mp hm with hm | hm
    · exact Or.inl (hinv.memberGroups m hm)
    · rw [List.mem_singleton.mp hm]
      exact Or.inr rfl
  · rw [hhas]
    exact Or.inl ((hcont _ hg).elim (hinv.checked g u) fun h => by cases h)

/-- A move of a user on a group that is there, with the roles that it leaves. -/
theorem GroupInv.move (hinv : GroupInv db running log) {c : Call} {m : Move}
    {members : List GroupMemberRow} (hnew : ∀ g name u, c ≠ groupCreated g name u)
    (hmove : ∀ g u, c.onGroup g u = if groupId = g ∧ userId = u then some m else none)
    (hroles : ∀ g u, roleOf { db with groupMembers := members } g u =
      if groupId = g ∧ userId = u then
        (m.apply (standing (groupMoves log groupId userId))).map roleName else roleOf db g u)
    (hkeys : (members.map fun m => (m.groupId, m.userId)).Nodup)
    (hgroups : ∀ m ∈ members, HasGroup db m.groupId)
    (hcont : Continues running running' (.inr .ok)) :
    GroupInv { db with groupMembers := members } running' (log ++ [c]) := by
  refine ⟨fun g => ?_, hinv.groupKeys, fun g u => ?_, hkeys, hgroups, fun g u hg => ?_⟩
  · refine (hinv.groups g).trans ⟨fun h => h.snoc c, fun ⟨n, u, hmem⟩ => ⟨n, u, ?_⟩⟩
    exact (List.mem_append.mp hmem).resolve_right fun h =>
      hnew g n u (List.mem_singleton.mp h).symm
  · rw [hroles, standing_groupMoves_snoc, hmove]
    by_cases h : groupId = g ∧ userId = u
    · obtain ⟨rfl, rfl⟩ := h
      rw [if_pos ⟨rfl, rfl⟩, if_pos ⟨rfl, rfl⟩]
    · rw [if_neg h, if_neg h, hinv.roles]
  · exact (hcont _ hg).elim (hinv.checked g u) fun h => by cases h

theorem GroupInv.enter (hinv : GroupInv db running log) (hgroup : HasGroup db groupId)
    (hcont : Continues running running' (.inr .ok)) :
    GroupInv (if (roleOf db groupId userId).isSome then db
      else withMember db groupId userId "member") running'
      (log ++ [(.addMember groupId userId, .inr .ok)]) := by
  have hstanding := hinv.roles groupId userId
  by_cases h : (roleOf db groupId userId).isSome
  · rw [if_pos h]
    refine hinv.move (m := .enter)
      (fun g n u heq => by cases heq) (fun g u => rfl)
      (fun g u => ?_) hinv.memberKeys hinv.memberGroups hcont
    show roleOf db g u = _
    by_cases hgu : groupId = g ∧ userId = u
    · obtain ⟨rfl, rfl⟩ := hgu
      rw [if_pos ⟨rfl, rfl⟩, hstanding]
      cases hs : standing (groupMoves log groupId userId) with
      | none => rw [hstanding, hs] at h; cases h
      | some role => rfl
    · rw [if_neg hgu]
  · rw [if_neg h]
    have hnone : roleOf db groupId userId = none := by simpa using h
    refine hinv.move (m := .enter)
      (fun g n u heq => by cases heq) (fun g u => rfl) (fun g u => ?_)
      (memberKeys_append hinv.memberKeys "member" (roleOf_eq_none_iff.mp hnone)) ?_ hcont
    · show roleOf (withMember db groupId userId "member") g u = _
      rw [roleOf_withMember g u "member" hnone]
      rw [hnone] at hstanding
      rw [Option.map_eq_none_iff.mp hstanding.symm]
      rfl
    · intro m hm
      rcases List.mem_append.mp hm with hm | hm
      · exact hinv.memberGroups m hm
      · rw [List.mem_singleton.mp hm]
        exact hgroup

theorem GroupInv.leave (hinv : GroupInv db running log)
    (hcont : Continues running running' (.inr .ok)) :
    GroupInv (withoutMember db groupId userId) running'
      (log ++ [(.leaveGroup groupId userId, .inr .ok)]) := by
  refine hinv.move (m := .quit)
    (fun g n u heq => by cases heq) (fun g u => rfl) (fun g u => ?_)
    (hinv.memberKeys.sublist (List.filter_sublist.map _))
    (fun m hm => hinv.memberGroups m (List.mem_filter.mp hm).1) hcont
  show roleOf (withoutMember db groupId userId) g u = _
  rw [roleOf_withoutMember]
  rfl

/-! ## What the lists say -/

theorem roleOf_eq_some_iff (hkeys : (db.groupMembers.map fun m => (m.groupId, m.userId)).Nodup)
    {role : String} :
    roleOf db groupId userId = some role ↔ ⟨groupId, userId, role⟩ ∈ db.groupMembers := by
  unfold roleOf
  constructor
  · intro h
    obtain ⟨m, hm, rfl⟩ := Option.map_eq_some_iff.mp h
    have hkey : m.groupId = groupId ∧ m.userId = userId := by simpa using List.find?_some hm
    obtain ⟨rfl, rfl⟩ := hkey
    exact List.mem_of_find?_eq_some hm
  · intro h
    cases hm : db.groupMembers.find? fun m => m.groupId == groupId && m.userId == userId with
    | none =>
      have := List.find?_eq_none.mp hm _ h
      simp at this
    | some m =>
      have hkey : m.groupId = groupId ∧ m.userId = userId := by simpa using List.find?_some hm
      have heq := List.inj_on_of_nodup_map hkeys (List.mem_of_find?_eq_some hm) h
        (Prod.ext hkey.1 hkey.2)
      rw [heq]
      rfl

theorem onGroup_eq_found {c : Call} : c.onGroup groupId userId = some .found ↔
    ∃ name, c = groupCreated groupId name userId := by
  unfold Call.onGroup groupCreated
  constructor
  · intro h
    split at h
    · split at h
      · rename_i hcond
        obtain ⟨⟨rfl, rfl⟩, rfl⟩ := hcond
        exact ⟨_, rfl⟩
      · cases h
    · split at h <;> cases h
    · split at h <;> cases h
    · cases h
  · intro ⟨name, hc⟩
    rw [hc]
    exact if_pos ⟨⟨rfl, rfl⟩, rfl⟩

/-- A founder in the log: there is the creation, and no quit since. -/
theorem founder_iff {log : List Call} : standing (groupMoves log groupId userId) = some .founder ↔
    ∃ before name since, log = before ++ groupCreated groupId name userId :: since ∧
      .quit ∉ groupMoves since groupId userId := by
  rw [standing_founder_iff]
  unfold groupMoves
  constructor
  · intro ⟨before, since, heq, hquit⟩
    obtain ⟨l₁, l₂, rfl, -, h₂⟩ := List.filterMap_eq_append_iff.mp heq
    obtain ⟨l₃, c, l₄, rfl, -, hc, rfl⟩ := List.filterMap_eq_cons_iff.mp h₂
    obtain ⟨name, rfl⟩ := onGroup_eq_found.mp hc
    exact ⟨l₁ ++ l₃, name, l₄, by rw [List.append_assoc], hquit⟩
  · intro ⟨before, name, since, heq, hquit⟩
    refine ⟨before.filterMap (Call.onGroup groupId userId), _, ?_, hquit⟩
    rw [heq, List.filterMap_append, List.filterMap_cons_some (onGroup_eq_found.mpr ⟨name, rfl⟩)]

/-- **The lists of groups and of members are as recorded.** -/
theorem GroupInv.asRecorded (hinv : GroupInv db running log) (groupId userId : String) :
    ∃ members mine n n',
      listGroupMembers groupId Auto.faultless db 0 = (.ok members, db, n) ∧
      listMyGroups userId Auto.faultless db 0 = (.ok mine, db, n') ∧
      GroupAsRecorded db log groupId userId members mine := by
  refine ⟨_, _, 1, 1, rfl, rfl, ?_⟩
  have hmembers : ∀ u, u ∈ orderBy id ((db.groupMembers.filter (·.groupId == groupId)).map
      (·.userId)) ↔ ∃ role, ⟨groupId, u, role⟩ ∈ db.groupMembers := by
    intro u
    rw [mem_orderBy]
    constructor
    · intro h
      obtain ⟨m, hm, rfl⟩ := List.mem_map.mp h
      obtain ⟨hmem, hg⟩ := List.mem_filter.mp hm
      obtain rfl : m.groupId = groupId := by simpa using hg
      exact ⟨m.role, hmem⟩
    · intro ⟨role, hmem⟩
      exact List.mem_map.mpr ⟨_, List.mem_filter.mpr ⟨hmem, by simp⟩, rfl⟩
  have hmine : ∀ r, r ∈ orderBy (fun r => r.1.name) (db.groups.flatMap fun g =>
      (db.groupMembers.filter fun m => g.groupId == m.groupId && m.userId == userId).map
        fun m => (g, m.role)) ↔ r.1 ∈ db.groups ∧ ⟨r.1.groupId, userId, r.2⟩ ∈ db.groupMembers := by
    intro r
    rw [mem_orderBy, List.mem_flatMap]
    constructor
    · intro ⟨g, hg, h⟩
      obtain ⟨m, hm, rfl⟩ := List.mem_map.mp h
      obtain ⟨hmem, hkey⟩ := List.mem_filter.mp hm
      have hboth : g.groupId = m.groupId ∧ m.userId = userId := by simpa using hkey
      refine ⟨hg, ?_⟩
      rw [hboth.1, ← hboth.2]
      exact hmem
    · intro ⟨hg, hmem⟩
      exact ⟨r.1, hg, List.mem_map.mpr ⟨_, List.mem_filter.mpr ⟨hmem, by simp⟩, rfl⟩⟩
  have hrole : ∀ u, (∃ role, ⟨groupId, u, role⟩ ∈ db.groupMembers) ↔
      LastIn (groupMoves log groupId u) := by
    intro u
    unfold LastIn
    rw [← standing_isSome_iff, ← Option.isSome_map (f := roleName), ← hinv.roles,
      Option.isSome_iff_exists]
    exact exists_congr fun role => (roleOf_eq_some_iff hinv.memberKeys).symm
  refine ⟨?_, ?_, ?_, ?_, ?_, fun h => (call_joinGroup db groupId userId).2
    fun hthere => h ((hinv.groups groupId).mp hthere)⟩
  · rw [hmembers, hrole]
    refine ⟨fun h => ⟨?_, h⟩, fun h => h.2⟩
    obtain ⟨role, hmem⟩ := (hrole userId).mpr h
    exact (hinv.groups groupId).mp (hinv.memberGroups _ hmem)
  · rw [hmembers]
    constructor
    · intro h
      obtain ⟨r, hr, rfl⟩ := List.mem_map.mp h
      exact ⟨r.2, ((hmine r).mp hr).2⟩
    · intro ⟨role, hmem⟩
      obtain ⟨row, hrow, rfl⟩ := hinv.memberGroups _ hmem
      exact List.mem_map.mpr ⟨(row, role), (hmine _).mpr ⟨hrow, hmem⟩, rfl⟩
  · rw [← List.map_id (orderBy _ _), nodup_map_orderBy, List.map_id]
    refine (List.nodup_map_iff_inj_on (hinv.memberKeys.of_map _ |>.filter _)).mpr ?_
    intro m hm m' hm' heq
    obtain ⟨hmem, hg⟩ := List.mem_filter.mp hm
    obtain ⟨hmem', hg'⟩ := List.mem_filter.mp hm'
    have hgroup : m.groupId = m'.groupId := by
      rw [beq_iff_eq.mp hg, beq_iff_eq.mp hg']
    exact List.inj_on_of_nodup_map hinv.memberKeys hmem hmem' (Prod.ext hgroup heq)
  · rw [nodup_map_orderBy, List.map_flatMap]
    have := nodup_join hinv.groupKeys hinv.memberKeys userId
    simpa [List.map_map, Function.comp_def] using this
  · rw [← founder_iff]
    have hname : standing (groupMoves log groupId userId) = some .founder ↔
        roleOf db groupId userId = some "admin" := by
      rw [hinv.roles]
      cases standing (groupMoves log groupId userId) with
      | none => simp
      | some role => cases role <;> simp [roleName]
    rw [hname, roleOf_eq_some_iff hinv.memberKeys]
    constructor
    · intro ⟨r, hr, hg, hadmin⟩
      have := ((hmine r).mp hr).2
      rwa [hg, hadmin] at this
    · intro hmem
      obtain ⟨row, hrow, hg⟩ := hinv.memberGroups _ hmem
      exact ⟨(row, "admin"), (hmine _).mpr ⟨hrow, hg ▸ hmem⟩, hg, rfl⟩

end TinTin.Server
