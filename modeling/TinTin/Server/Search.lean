/-
  The search of the user list (`list_users` with a query).

  The query stands between two `%` in a `LIKE` pattern, as it is: its own `%` and `_` are wildcards.

  * `like_iff`: `LIKE` as a pattern with wildcards.
  * `searchAgrees_iff`: a search returns the entries of the full list whose id contains the query,
    in the same order, exactly if no id has a part that meets the query without being it.
  * `search_agrees_iff`: it does so for every set of users exactly if the query has no wildcard.
-/
import TinTin.Lib.TopN
import TinTin.Lib.Wildcard
import TinTin.Server.Operations
import TinTin.Symbolic.Serde

namespace TinTin.Server

open TinTin.Lib TinTin.Core

/-! ## What a search is for -/

/-- `text` contains `q`; the case of ASCII letters does not matter. -/
def contains (q text : String) : Bool :=
  decide (q.toList.map Char.toLower <:+: text.toList.map Char.toLower)

/-- The search returns the entries of the full list whose user id contains the query. -/
def SearchAgrees (db : Database) (q : String) : Prop :=
  ∃ all, listUsers none Auto.faultless db 0 = (.ok all, db, 1) ∧
    listUsers (some q) Auto.faultless db 0 = (.ok (all.filter fun u => contains q u.1), db, 1)

/-! ## `LIKE` -/

/-- A letter of a `LIKE` pattern. -/
def glyph (c : Char) : Glyph Char :=
  if c = '%' then .any else if c = '_' then .one else .letter c

theorem glyph_cases (c : Char) : glyph c = .any ∨ glyph c = .one ∨ glyph c = .letter c := by
  unfold glyph
  split_ifs
  · exact Or.inl rfl
  · exact Or.inr (Or.inl rfl)
  · exact Or.inr (Or.inr rfl)

theorem glyph_eq_letter_iff {c : Char} : glyph c = .letter c ↔ c ≠ '%' ∧ c ≠ '_' := by
  unfold glyph
  split_ifs with h h'
  · simp [h]
  · simp [h']
  · simp [h, h']

/-- **`LIKE` is a pattern with wildcards**, for lower-case letters. -/
theorem like_iff {pattern text : List Char} :
    like pattern text = true ↔ Matches Char.toLower (pattern.map glyph) text := by
  induction pattern generalizing text with
  | nil => rw [like, List.isEmpty_iff, List.map_nil, matches_nil_iff]
  | cons c pattern ih =>
    rw [List.map_cons]
    by_cases hany : c = '%'
    · subst hany
      rw [show glyph '%' = .any from rfl, matches_any_iff, like, List.any_eq_true]
      simp only [List.mem_tails, ih]
    by_cases hone : c = '_'
    · subst hone
      rw [show glyph '_' = .one from rfl, matches_one_iff, like, Bool.and_eq_true, ih]
      cases text with
      | nil => simp
      | cons a rest => simp
    · rw [glyph_eq_letter_iff.mpr ⟨hany, hone⟩, matches_letter_iff,
        like.eq_4 _ _ _ hany hone, Bool.and_eq_true, ih]
      cases text with
      | nil => simp
      | cons a rest => simp

/-- A part of `text` meets `q`, its `%` and `_` read as wildcards. -/
def MeetsPart (q text : String) : Prop :=
  ∃ part, part <:+: text.toList ∧ Matches Char.toLower (q.toList.map glyph) part

theorem like_around_iff {q text : String} :
    like ("%" ++ q ++ "%").toList text.toList = true ↔ MeetsPart q text := by
  have hpattern : ("%" ++ q ++ "%").toList.map glyph = .any :: (q.toList.map glyph ++ [.any]) := by
    simp [glyph]
  rw [like_iff, hpattern, matches_around]
  rfl

theorem contains_iff {q text : String} :
    contains q text = true ↔ q.toList.map Char.toLower <:+: text.toList.map Char.toLower :=
  decide_eq_true_iff

/-- What contains the query is found. -/
theorem meetsPart_of_contains {q text : String} (h : contains q text = true) :
    MeetsPart q text := by
  obtain ⟨part, hpart, heq⟩ := map_infix_map_iff.mp (contains_iff.mp h)
  exact ⟨part, hpart, matches_self glyph_cases heq⟩

/-- Without wildcards, what is found contains the query. -/
theorem contains_of_meetsPart {q text : String} (hq : '%' ∉ q.toList ∧ '_' ∉ q.toList)
    (h : MeetsPart q text) : contains q text = true := by
  obtain ⟨part, hpart, hmatch⟩ := h
  have hletters : q.toList.map glyph = q.toList.map .letter := by
    refine List.map_congr_left fun c hc => glyph_eq_letter_iff.mpr ⟨?_, ?_⟩
    · rintro rfl
      exact hq.1 hc
    · rintro rfl
      exact hq.2 hc
  rw [hletters, matches_letters] at hmatch
  exact contains_iff.mpr (map_infix_map_iff.mpr ⟨part, hpart, hmatch⟩)

/-- With a wildcard, something is found that does not contain the query. -/
theorem exists_meetsPart {q : String} (hq : ¬ ('%' ∉ q.toList ∧ '_' ∉ q.toList)) :
    ∃ text, MeetsPart q text ∧ contains q text = false := by
  have hwild : ∃ c ∈ q.toList, glyph c ≠ .letter c := by
    by_contra hnone
    refine hq ⟨fun h => hnone ⟨_, h, by decide⟩, fun h => hnone ⟨_, h, by decide⟩⟩
  have hx : ∀ c, glyph c ≠ .letter c → Char.toLower 'x' ≠ c.toLower := by
    intro c hc
    rw [Ne, glyph_eq_letter_iff, not_and_or, not_not, not_not] at hc
    rcases hc with rfl | rfl
    · decide
    · decide
  obtain ⟨text, hmatch, hnot⟩ := exists_only_by_wildcard glyph_cases hx hwild
  refine ⟨String.ofList text, ⟨text, by simp, hmatch⟩, ?_⟩
  rw [← Bool.not_eq_true, contains_iff, String.toList_ofList]
  exact hnot

/-! ## The list and the search -/

/-- The full list. -/
def allUsers (db : Database) : List (String × String) :=
  orderBy Prod.fst (db.users.map fun u => (u.userId, u.presence))

theorem listUsers_none (db : Database) :
    listUsers none Auto.faultless db 0 = (.ok (allUsers db), db, 1) := by
  have hall : db.users.filter (fun _ => true) = db.users := List.filter_true _
  show (Except.ok (orderBy Prod.fst ((db.users.filter fun _ => true).map _)), db, 1) = _
  rw [hall]
  rfl

theorem mem_allUsers {db : Database} {r : String × String} :
    r ∈ allUsers db ↔ ∃ u ∈ db.users, (u.userId, u.presence) = r := by
  rw [allUsers, orderBy, List.mem_insertionSort, List.mem_map]

/-- The search goes through the list in the order of the list. -/
theorem listUsers_some (db : Database) (q : String) :
    listUsers (some q) Auto.faultless db 0 =
      (.ok ((allUsers db).filter fun r => like ("%" ++ q ++ "%").toList r.1.toList), db, 1) := by
  have htotal : ∀ a b : String × String, a.1 ≤ b.1 ∨ b.1 ≤ a.1 :=
    fun a b => String.le_total a.1 b.1
  have htrans : ∀ a b c : String × String, a.1 ≤ b.1 → b.1 ≤ c.1 → a.1 ≤ c.1 :=
    fun _ _ _ => String.le_trans
  rw [allUsers, orderBy, filter_insertionSort htotal htrans, List.filter_map]
  rfl

/-- **A search agrees with the list** exactly if no user id has a part that meets the query without
    containing it. -/
theorem searchAgrees_iff {db : Database} {q : String} :
    SearchAgrees db q ↔ ∀ u ∈ db.users, MeetsPart q u.userId → contains q u.userId = true := by
  have hagrees : SearchAgrees db q ↔ ∀ r ∈ allUsers db,
      like ("%" ++ q ++ "%").toList r.1.toList = contains q r.1 := by
    constructor
    · rintro ⟨all, hall, hfound⟩
      rw [listUsers_none] at hall
      rw [listUsers_some, ← Except.ok.inj (Prod.ext_iff.mp hall).1] at hfound
      have hsame := Except.ok.inj (Prod.ext_iff.mp hfound).1
      intro r hr
      have hmem := Iff.of_eq (congrArg (r ∈ ·) hsame)
      rw [List.mem_filter, List.mem_filter] at hmem
      rw [Bool.eq_iff_iff]
      exact ⟨fun h => (hmem.mp ⟨hr, h⟩).2, fun h => (hmem.mpr ⟨hr, h⟩).2⟩
    · intro h
      refine ⟨allUsers db, listUsers_none db, ?_⟩
      rw [listUsers_some, List.filter_congr h]
  rw [hagrees]
  constructor
  · intro h u hu hmeets
    rw [← h _ (mem_allUsers.mpr ⟨u, hu, rfl⟩)]
    exact like_around_iff.mpr hmeets
  · intro h r hr
    obtain ⟨u, hu, rfl⟩ := mem_allUsers.mp hr
    rw [Bool.eq_iff_iff, like_around_iff]
    exact ⟨h u hu, meetsPart_of_contains⟩

/-- One user, just registered. -/
def onlyUser (userId : String) : List (Operation × Faults DbError) :=
  [(.registerUser userId [] "{}", Auto.faultless)]

theorem users_onlyUser (J : RelaySerde) (userId : String) :
    (Journal.run J (onlyUser userId)).db.users = [⟨userId, [], "{}", "offline"⟩] := rfl

/-- **A query is a pattern.** A search returns the entries of the full list whose user id contains
    the query, with the same presence and in the same order, exactly if no registered user id has a
    part that meets the query, its `%` and `_` read as wildcards, without containing it. For every
    set of registered users it does so exactly if the query has neither a `%` nor a `_`. -/
theorem search_agrees_iff (J : RelaySerde) (q : String) :
    (∀ db, SearchAgrees db q ↔
      ∀ u ∈ db.users, MeetsPart q u.userId → contains q u.userId = true) ∧
    ((∀ ops, SearchAgrees (Journal.run J ops).db q) ↔ '%' ∉ q.toList ∧ '_' ∉ q.toList) := by
  refine ⟨fun db => searchAgrees_iff, fun h => ?_, fun hq ops => ?_⟩
  · by_contra hq
    obtain ⟨text, hmeets, hnot⟩ := exists_meetsPart hq
    have hcontains := searchAgrees_iff.mp (h (onlyUser text)) ⟨text, [], "{}", "offline"⟩ (by
      rw [users_onlyUser]
      exact List.mem_singleton.mpr rfl) hmeets
    rw [hnot] at hcontains
    cases hcontains
  · exact searchAgrees_iff.mpr fun u _ => contains_of_meetsPart hq

/-- Annelee, just registered, is found under `ann_lee`, which her id does not contain. -/
theorem underscore_finds_annelee :
    let db := (Journal.run Symbolic.symbolicSerde.toRelaySerde (onlyUser "annelee")).db
    listUsers (some "ann_lee") Auto.faultless db 0 = (.ok [("annelee", "offline")], db, 1) ∧
      contains "ann_lee" "annelee" = false ∧ ¬ SearchAgrees db "ann_lee" := by
  generalize Symbolic.symbolicSerde.toRelaySerde = J
  dsimp only
  have hnot : contains "ann_lee" "annelee" = false := by decide
  have hmatch : like ("%" ++ "ann_lee" ++ "%").toList "annelee".toList = true := by decide
  have hfound : listUsers (some "ann_lee") Auto.faultless (Journal.run J (onlyUser "annelee")).db 0 =
      (.ok [("annelee", "offline")], (Journal.run J (onlyUser "annelee")).db, 1) := by
    rw [listUsers_some]
    show (Except.ok (List.filter _ [("annelee", "offline")]), _) = _
    rw [List.filter_singleton, hmatch, cond_true]
  refine ⟨hfound, hnot, fun h => ?_⟩
  have hmeets : MeetsPart "ann_lee" "annelee" := like_around_iff.mp hmatch
  have hcontains := searchAgrees_iff.mp h ⟨"annelee", [], "{}", "offline"⟩ (by
    rw [users_onlyUser]
    exact List.mem_singleton.mpr rfl) hmeets
  rw [hnot] at hcontains
  cases hcontains

end TinTin.Server
