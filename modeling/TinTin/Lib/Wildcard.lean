/-
  Patterns with wildcards over an arbitrary alphabet, where letters count as the same when a key
  of theirs is (their lower case, say).

  * `matches_around`: a pattern with a wildcard for any text on both sides matches a text if it
    matches a part of it.
  * `matches_letters`: without wildcards that part is the pattern itself, up to the key.
  * `matches_self`: with wildcards it may still be the pattern itself.
  * `exists_only_by_wildcard`: and with at least one it may be something else.
-/
import Mathlib.Data.List.Infix

namespace TinTin.Lib

/-- What stands at one place of a pattern. -/
inductive Glyph (α : Type*)
  /-- any text -/
  | any
  /-- any one letter -/
  | one
  | letter (a : α)
  deriving DecidableEq

variable {α κ : Type*} (key : α → κ)

/-- A text meets a pattern. -/
inductive Matches : List (Glyph α) → List α → Prop
  | nil : Matches [] []
  | any {pattern : List (Glyph α)} (taken : List α) {text : List α} :
      Matches pattern text → Matches (.any :: pattern) (taken ++ text)
  | one {pattern : List (Glyph α)} (a : α) {text : List α} :
      Matches pattern text → Matches (.one :: pattern) (a :: text)
  | letter {pattern : List (Glyph α)} {a b : α} {text : List α} :
      key b = key a → Matches pattern text → Matches (.letter a :: pattern) (b :: text)

variable {key} {pattern : List (Glyph α)} {text : List α}

theorem matches_nil_iff : Matches key [] text ↔ text = [] := by
  constructor
  · rintro ⟨⟩
    rfl
  · rintro rfl
    exact .nil

theorem matches_any_iff :
    Matches key (.any :: pattern) text ↔ ∃ rest, rest <:+ text ∧ Matches key pattern rest := by
  constructor
  · rintro ⟨⟩
    exact ⟨_, List.suffix_append _ _, ‹_›⟩
  · rintro ⟨rest, ⟨taken, rfl⟩, h⟩
    exact h.any taken

theorem matches_one_iff :
    Matches key (.one :: pattern) text ↔ ∃ a rest, text = a :: rest ∧ Matches key pattern rest := by
  constructor
  · rintro ⟨⟩
    exact ⟨_, _, rfl, ‹_›⟩
  · rintro ⟨a, rest, rfl, h⟩
    exact h.one a

theorem matches_letter_iff {a : α} : Matches key (.letter a :: pattern) text ↔
    ∃ b rest, text = b :: rest ∧ key b = key a ∧ Matches key pattern rest := by
  constructor
  · rintro ⟨⟩
    exact ⟨_, _, rfl, ‹_›, ‹_›⟩
  · rintro ⟨b, rest, rfl, hb, h⟩
    exact h.letter hb

/-! ## A part of the text -/

/-- What follows the part that meets the pattern is for the wildcard behind it. -/
theorem matches_append_any :
    Matches key (pattern ++ [.any]) text ↔ ∃ front, front <+: text ∧ Matches key pattern front := by
  induction pattern generalizing text with
  | nil =>
    rw [List.nil_append, matches_any_iff]
    refine ⟨fun _ => ⟨[], List.nil_prefix, .nil⟩, fun _ => ⟨[], List.nil_suffix, .nil⟩⟩
  | cons glyph pattern ih =>
    rw [List.cons_append]
    constructor
    · intro h
      cases glyph with
      | any =>
        obtain ⟨rest, ⟨taken, rfl⟩, hrest⟩ := matches_any_iff.mp h
        obtain ⟨front, hfront, hmet⟩ := ih.mp hrest
        exact ⟨taken ++ front, (List.prefix_append_right_inj taken).mpr hfront,
          hmet.any taken⟩
      | one =>
        obtain ⟨a, rest, rfl, hrest⟩ := matches_one_iff.mp h
        obtain ⟨front, hfront, hmet⟩ := ih.mp hrest
        exact ⟨a :: front, List.cons_prefix_cons.mpr ⟨rfl, hfront⟩, hmet.one a⟩
      | letter a =>
        obtain ⟨b, rest, rfl, hb, hrest⟩ := matches_letter_iff.mp h
        obtain ⟨front, hfront, hmet⟩ := ih.mp hrest
        exact ⟨b :: front, List.cons_prefix_cons.mpr ⟨rfl, hfront⟩, hmet.letter hb⟩
    · rintro ⟨front, ⟨back, rfl⟩, h⟩
      cases glyph with
      | any =>
        obtain ⟨rest, ⟨taken, rfl⟩, hrest⟩ := matches_any_iff.mp h
        rw [List.append_assoc]
        exact (ih.mpr ⟨rest, List.prefix_append _ _, hrest⟩).any taken
      | one =>
        obtain ⟨a, rest, rfl, hrest⟩ := matches_one_iff.mp h
        exact (ih.mpr ⟨rest, List.prefix_append _ _, hrest⟩).one a
      | letter a =>
        obtain ⟨b, rest, rfl, hb, hrest⟩ := matches_letter_iff.mp h
        exact (ih.mpr ⟨rest, List.prefix_append _ _, hrest⟩).letter hb

/-- **Between two wildcards**, the pattern is met by a part of the text. -/
theorem matches_around : Matches key (.any :: (pattern ++ [.any])) text ↔
    ∃ part, part <:+: text ∧ Matches key pattern part := by
  rw [matches_any_iff]
  constructor
  · rintro ⟨rest, hrest, h⟩
    obtain ⟨part, hpart, h⟩ := matches_append_any.mp h
    exact ⟨part, hpart.isInfix.trans hrest.isInfix, h⟩
  · rintro ⟨part, ⟨front, back, rfl⟩, h⟩
    refine ⟨part ++ back, ?_, matches_append_any.mpr ⟨part, List.prefix_append _ _, h⟩⟩
    rw [List.append_assoc]
    exact List.suffix_append _ _

/-! ## The pattern as a text -/

/-- A part of the text is the same up to the key. -/
theorem map_infix_map_iff {q : List α} :
    q.map key <:+: text.map key ↔ ∃ part, part <:+: text ∧ part.map key = q.map key := by
  constructor
  · rintro ⟨front, back, h⟩
    obtain ⟨before, rest, rfl, hbefore, hrest⟩ := List.map_eq_append_iff.mp h.symm
    obtain ⟨first, part, rfl, hfirst, hpart⟩ := List.map_eq_append_iff.mp hbefore
    exact ⟨part, ⟨first, rest, rfl⟩, hpart⟩
  · rintro ⟨part, ⟨front, back, rfl⟩, hpart⟩
    exact ⟨front.map key, back.map key, by rw [← hpart, List.map_append, List.map_append]⟩

/-- **Without wildcards** a text meets the pattern if it is the same up to the key. -/
theorem matches_letters {q : List α} :
    Matches key (q.map .letter) text ↔ text.map key = q.map key := by
  induction q generalizing text with
  | nil => rw [List.map_nil, matches_nil_iff, List.map_nil, List.map_eq_nil_iff]
  | cons a q ih =>
    rw [List.map_cons, matches_letter_iff, List.map_cons, List.map_eq_cons_iff]
    constructor
    · rintro ⟨b, rest, rfl, hb, h⟩
      exact ⟨b, rest, rfl, hb, ih.mp h⟩
    · rintro ⟨b, rest, rfl, hb, h⟩
      exact ⟨b, rest, rfl, hb, ih.mpr h⟩

section

variable {read : α → Glyph α} (hread : ∀ a, read a = .any ∨ read a = .one ∨ read a = .letter a)

include hread

/-- **With wildcards**, a text that is the pattern up to the key still meets it: a wildcard stands
    for itself, too. -/
theorem matches_self {q : List α} (h : text.map key = q.map key) :
    Matches key (q.map read) text := by
  induction q generalizing text with
  | nil => exact matches_nil_iff.mpr (List.map_eq_nil_iff.mp h)
  | cons a q ih =>
    obtain ⟨b, rest, rfl, hb, h⟩ := List.map_eq_cons_iff.mp h
    rw [List.map_cons]
    rcases hread a with ha | ha | ha
    · rw [ha]
      exact (ih h).any [b]
    · rw [ha]
      exact (ih h).one b
    · rw [ha]
      exact (ih h).letter hb

/-- Another letter in the place of each wildcard. -/
def fillIn [DecidableEq α] (read : α → Glyph α) (x : α) (q : List α) : List α :=
  q.map fun a => if read a = .letter a then a else x

theorem matches_fillIn [DecidableEq α] (x : α) (q : List α) :
    Matches key (q.map read) (fillIn read x q) := by
  induction q with
  | nil => exact .nil
  | cons a q ih =>
    rw [fillIn, List.map_cons, List.map_cons]
    rcases hread a with ha | ha | ha
    · rw [ha]
      exact ih.any [_]
    · rw [ha]
      exact ih.one _
    · rw [if_pos ha, ha]
      exact ih.letter rfl

/-- **With at least one wildcard** a text meets the pattern that does not contain it. -/
theorem exists_only_by_wildcard [DecidableEq α] {x : α}
    (hx : ∀ a, read a ≠ .letter a → key x ≠ key a) {q : List α}
    (hq : ∃ a ∈ q, read a ≠ .letter a) :
    ∃ text, Matches key (q.map read) text ∧ ¬ q.map key <:+: text.map key := by
  refine ⟨fillIn read x q, matches_fillIn hread x q, fun h => ?_⟩
  have heq : q.map key = (fillIn read x q).map key := h.eq_of_length (by simp [fillIn])
  obtain ⟨a, ha, hwild⟩ := hq
  rw [fillIn, List.map_map, List.map_inj_left] at heq
  have := heq a ha
  rw [Function.comp_apply, if_neg hwild] at this
  exact hx a hwild this.symm

end

end TinTin.Lib
