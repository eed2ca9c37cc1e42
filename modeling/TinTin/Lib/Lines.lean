/-
  Lines on a stream, and two ways to take them off it.

  A line is a list without end marks, followed by one. `readLine` is a buffered reader: while
  its buffer has no end mark it fills it, each time with any number of items off the wire.
  `takeSome` hands over any number of items at once and knows nothing of lines.

  * `readLine_cut`: what `readLine` returns is the next line, whatever the fills.
  * `exists_readLine`: it does return where a whole line has come.
  * `split`: all lines that have come. `split_append`: however they come in parts.
  * `content_take_iff`: how much of a stream has the content of its first lines.
-/
import Mathlib.Data.List.Basic
import Mathlib.Data.List.Induction

namespace TinTin.Lib.Lines

universe u v

variable {α : Type u} {ι : Type v} (isEnd : α → Bool)

/-! ## One line -/

/-- What stands before the first end mark, and what behind it. -/
def cut : List α → Option (List α × List α)
  | [] => none
  | a :: rest =>
    if isEnd a then some ([], rest)
    else (cut rest).map fun p => (a :: p.1, p.2)

/-- A buffered reader, by the sizes of its fills: the line, the buffer and the wire; none where
    it still waits. -/
def readLine (fills : List ℕ) (acc buffer wire : List α) :
    Option (List α × List α × List α) :=
  match cut isEnd buffer with
  | some (line, rest) => some (acc ++ line, rest, wire)
  | none =>
    match fills with
    | [] => none
    | n :: fills =>
      if n = 0 ∨ wire.length < n then none
      else readLine fills (acc ++ buffer) (wire.take n) (wire.drop n)

/-- What is no end mark. -/
def content (l : List α) : List α := l.filter fun a => !isEnd a

variable {isEnd}

/-- More behind a whole line does not change it. -/
theorem cut_append {xs line rest : List α} (h : cut isEnd xs = some (line, rest))
    (ys : List α) : cut isEnd (xs ++ ys) = some (line, rest ++ ys) := by
  induction xs generalizing line with
  | nil => cases h
  | cons a xs ih =>
    rw [List.cons_append]
    unfold cut at h ⊢
    split at h
    · next ha =>
      cases h
      rw [if_pos ha]
    · next ha =>
      obtain ⟨⟨line', rest'⟩, hcut, heq⟩ := Option.map_eq_some_iff.mp h
      cases heq
      rw [if_neg ha, ih hcut]
      rfl

theorem cut_none_append {xs : List α} (h : cut isEnd xs = none) (ys : List α) :
    cut isEnd (xs ++ ys) = (cut isEnd ys).map fun p => (xs ++ p.1, p.2) := by
  induction xs with
  | nil => simp
  | cons a xs ih =>
    rw [List.cons_append]
    unfold cut at h
    rw [cut]
    split at h
    · cases h
    · next ha =>
      rw [if_neg ha, ih (Option.map_eq_none_iff.mp h), Option.map_map]
      rfl

theorem cut_length {xs line rest : List α} (h : cut isEnd xs = some (line, rest)) :
    rest.length < xs.length := by
  induction xs generalizing line with
  | nil => cases h
  | cons a xs ih =>
    unfold cut at h
    rw [List.length_cons]
    split at h
    · cases h
      omega
    · obtain ⟨⟨line', rest'⟩, hcut, heq⟩ := Option.map_eq_some_iff.mp h
      cases heq
      have := ih hcut
      omega

theorem cut_line {line : List α} (h : ∀ a ∈ line, isEnd a = false) {e : α}
    (he : isEnd e = true) (rest : List α) :
    cut isEnd (line ++ e :: rest) = some (line, rest) := by
  induction line with
  | nil => exact if_pos he
  | cons a line ih =>
    have ha : ¬ isEnd a = true := by
      rw [h a List.mem_cons_self]
      exact Bool.false_ne_true
    rw [List.cons_append, cut, if_neg ha, ih fun b hb => h b (List.mem_cons_of_mem _ hb)]
    rfl

/-- **What a buffered reader returns is the next line**, whatever its fills, and it loses
    nothing of what comes behind. -/
theorem readLine_cut {fills : List ℕ} {acc buffer wire line buffer' wire' : List α}
    (h : readLine isEnd fills acc buffer wire = some (line, buffer', wire')) :
    ∃ front, line = acc ++ front ∧
      cut isEnd (buffer ++ wire) = some (front, buffer' ++ wire') := by
  induction fills generalizing acc buffer wire with
  | nil =>
    unfold readLine at h
    split at h
    · next front rest hcut =>
      cases h
      exact ⟨front, rfl, cut_append hcut _⟩
    · cases h
  | cons n fills ih =>
    unfold readLine at h
    split at h
    · next front rest hcut =>
      cases h
      exact ⟨front, rfl, cut_append hcut _⟩
    · next hcut =>
      dsimp only at h
      split at h
      · cases h
      · obtain ⟨front, rfl, hfront⟩ := ih h
        rw [List.take_append_drop] at hfront
        refine ⟨buffer ++ front, List.append_assoc .., ?_⟩
        rw [cut_none_append hcut, hfront]
        rfl

/-- Where a whole line has come, there are fills with which the reader returns. -/
theorem exists_readLine {acc buffer wire : List α} (h : (cut isEnd (buffer ++ wire)).isSome) :
    ∃ fills, (readLine isEnd fills acc buffer wire).isSome := by
  cases hbuffer : cut isEnd buffer with
  | some p =>
    refine ⟨[], ?_⟩
    unfold readLine
    rw [hbuffer]
    rfl
  | none =>
    rw [cut_none_append hbuffer, Option.isSome_map] at h
    have hwire : wire.length ≠ 0 := by
      intro hlen
      rw [List.eq_nil_of_length_eq_zero hlen] at h
      cases h
    obtain ⟨p, hp⟩ := Option.isSome_iff_exists.mp h
    refine ⟨[wire.length], ?_⟩
    unfold readLine
    rw [hbuffer]
    dsimp only
    rw [if_neg (by omega), List.take_length]
    unfold readLine
    rw [hp]
    rfl

/-! ## All lines -/

variable (isEnd) in
/-- The lines that have come whole, and what has come of the next one. -/
def split : List α → List (List α) × List α
  | [] => ([], [])
  | a :: rest =>
    if isEnd a then ([] :: (split rest).1, (split rest).2)
    else
      match (split rest).1 with
      | [] => ([], a :: (split rest).2)
      | line :: lines => ((a :: line) :: lines, (split rest).2)

/-- The first line is what `cut` takes off. -/
theorem split_of_cut {xs line rest : List α} (h : cut isEnd xs = some (line, rest)) :
    split isEnd xs = (line :: (split isEnd rest).1, (split isEnd rest).2) := by
  induction xs generalizing line with
  | nil => cases h
  | cons a xs ih =>
    unfold cut at h
    split at h
    · next ha =>
      cases h
      rw [split, if_pos ha]
    · next ha =>
      obtain ⟨⟨line', rest'⟩, hcut, heq⟩ := Option.map_eq_some_iff.mp h
      cases heq
      rw [split, if_neg ha, ih hcut]

theorem split_of_cut_none {xs : List α} (h : cut isEnd xs = none) :
    split isEnd xs = ([], xs) := by
  induction xs with
  | nil => rfl
  | cons a xs ih =>
    unfold cut at h
    split at h
    · cases h
    · next ha => rw [split, if_neg ha, ih (Option.map_eq_none_iff.mp h)]

/-- What comes later continues the line that had begun. -/
theorem split_append (xs ys : List α) :
    split isEnd (xs ++ ys) = ((split isEnd xs).1 ++ (split isEnd ((split isEnd xs).2 ++ ys)).1,
      (split isEnd ((split isEnd xs).2 ++ ys)).2) := by
  have hshort : ∀ n, ∀ xs : List α, xs.length ≤ n → split isEnd (xs ++ ys) =
      ((split isEnd xs).1 ++ (split isEnd ((split isEnd xs).2 ++ ys)).1,
        (split isEnd ((split isEnd xs).2 ++ ys)).2) := by
    intro n
    induction n with
    | zero =>
      intro xs hlen
      rw [List.eq_nil_of_length_eq_zero (Nat.le_zero.mp hlen)]
      rfl
    | succ n ih =>
      intro xs hlen
      cases hcut : cut isEnd xs with
      | none =>
        rw [split_of_cut_none hcut]
        rfl
      | some p =>
        obtain ⟨line, rest⟩ := p
        have hrest : rest.length ≤ n := by
          have := cut_length hcut
          omega
        rw [split_of_cut (cut_append hcut ys), split_of_cut hcut, ih rest hrest]
        rfl
  exact hshort xs.length xs (Nat.le_refl _)

/-! ## Streams of lines -/

/-- Lines by their owners: each has a body that is not empty, and an end mark behind it. -/
structure Framed (isEnd : α → Bool) (body : ι → List α) (mark : ι → α) : Prop where
  body_content : ∀ i, ∀ a ∈ body i, isEnd a = false
  body_ne : ∀ i, body i ≠ []
  mark_end : ∀ i, isEnd (mark i) = true

/-- The lines of some owners, one after the other. -/
def stream (body : ι → List α) (mark : ι → α) (owners : List ι) : List α :=
  owners.flatMap fun i => body i ++ [mark i]

variable {body : ι → List α} {mark : ι → α}

theorem stream_cons (i : ι) (owners : List ι) :
    stream body mark (i :: owners) = body i ++ mark i :: stream body mark owners := by
  unfold stream
  rw [List.flatMap_cons, List.append_assoc]
  rfl

theorem stream_append (is js : List ι) :
    stream body mark (is ++ js) = stream body mark is ++ stream body mark js :=
  List.flatMap_append

theorem stream_snoc (owners : List ι) (i : ι) :
    stream body mark (owners ++ [i]) = stream body mark owners ++ body i ++ [mark i] := by
  simp [stream]

theorem content_append (xs ys : List α) :
    content isEnd (xs ++ ys) = content isEnd xs ++ content isEnd ys :=
  List.filter_append ..

theorem content_flatten (ls : List (List α)) :
    content isEnd ls.flatten = ls.flatMap (content isEnd) := by
  unfold content
  rw [List.filter_flatten, List.flatMap_def]

/-- Two ways to concatenate that agree on all fronts agree on every element. -/
theorem eq_of_flatMap_take {f g : ι → List α} {l : List ι}
    (h : ∀ j ≤ l.length, (l.take j).flatMap f = (l.take j).flatMap g) : ∀ i ∈ l, f i = g i := by
  induction l using List.reverseRecOn with
  | nil => exact fun i hi => by cases hi
  | append_singleton l last ih =>
    have hfront : ∀ j ≤ l.length, (l.take j).flatMap f = (l.take j).flatMap g := by
      intro j hj
      have := h j (by rw [List.length_append]; omega)
      rwa [List.take_append_of_le_length hj] at this
    have hall := h (l ++ [last]).length (Nat.le_refl _)
    have hl := hfront l.length (Nat.le_refl _)
    rw [List.take_length] at hall hl
    rw [List.flatMap_append, List.flatMap_append, hl] at hall
    intro i hi
    rcases List.mem_append.mp hi with hi | hi
    · exact ih hfront i hi
    · rw [List.mem_singleton.mp hi]
      simpa using List.append_cancel_left hall

theorem content_eq_nil {l : List α} : content isEnd l = [] ↔ ∀ a ∈ l, isEnd a = true := by
  simp [content]

namespace Framed

variable (hf : Framed isEnd body mark)
include hf

theorem content_body (i : ι) : content isEnd (body i) = body i := by
  unfold content
  rw [List.filter_eq_self]
  intro a ha
  rw [hf.body_content i a ha]
  rfl

theorem content_mark (i : ι) : content isEnd [mark i] = [] := by
  rw [content_eq_nil]
  intro a ha
  rw [List.mem_singleton.mp ha]
  exact hf.mark_end i

theorem content_stream (owners : List ι) :
    content isEnd (stream body mark owners) = owners.flatMap body := by
  induction owners with
  | nil => rfl
  | cons i owners ih =>
    rw [stream_cons, List.append_cons, content_append, content_append, hf.content_body,
      hf.content_mark, ih, List.append_nil, List.flatMap_cons]

theorem cut_stream (i : ι) (owners : List ι) :
    cut isEnd (stream body mark (i :: owners)) = some (body i, stream body mark owners) := by
  rw [stream_cons]
  exact cut_line (hf.body_content i) (hf.mark_end i) _

/-- The front of a stream without content is empty. -/
theorem take_eq_nil {owners : List ι} {n : ℕ}
    (h : content isEnd ((stream body mark owners).take n) = []) :
    (stream body mark owners).take n = [] := by
  cases owners with
  | nil => exact List.take_nil
  | cons i owners =>
    cases n with
    | zero => rfl
    | succ n =>
      obtain ⟨a, rest, hbody⟩ := List.exists_cons_of_ne_nil (hf.body_ne i)
      rw [stream_cons, hbody, List.cons_append, List.take_succ_cons, content_eq_nil] at h
      have hend := h a List.mem_cons_self
      rw [hf.body_content i a (hbody ▸ List.mem_cons_self)] at hend
      cases hend

/-- The end of a stream without content is at most its last mark. -/
theorem drop_length_le {owners : List ι} {n : ℕ}
    (h : content isEnd ((stream body mark owners).drop n) = []) :
    (stream body mark owners).length ≤ n + 1 := by
  induction owners using List.reverseRecOn with
  | nil => exact Nat.zero_le _
  | append_singleton owners i _ =>
    rw [stream_snoc] at h ⊢
    set front := stream body mark owners ++ body i with hfront
    by_contra hlong
    rw [List.length_append, List.length_singleton] at hlong
    -- the last of the body is still in what is dropped
    have hlen : 0 < (body i).length := List.length_pos_iff.mpr (hf.body_ne i)
    have hne : front ≠ [] := by
      intro hnil
      have := congrArg List.length hnil
      rw [hfront, List.length_append, List.length_nil] at this
      omega
    have hlast : front.getLast hne ∈ body i := by
      have hb := hf.body_ne i
      have : front.getLast hne = (body i).getLast hb := by
        rw [List.getLast_append_of_ne_nil _ hb]
      rw [this]
      exact List.getLast_mem hb
    have hmem : front.getLast hne ∈ front.drop n := by
      have hdrop : front.drop n ≠ [] := by
        intro hnil
        have := congrArg List.length hnil
        rw [List.length_drop, List.length_nil] at this
        omega
      rw [← List.getLast_drop hdrop]
      exact List.getLast_mem hdrop
    rw [List.drop_append_of_le_length (by omega), content_append, List.append_eq_nil_iff] at h
    have hend := content_eq_nil.mp h.1 _ hmem
    rw [hf.body_content i _ hlast] at hend
    cases hend

theorem content_drop {owners : List ι} {n : ℕ}
    (h : (stream body mark owners).length ≤ n + 1) :
    content isEnd ((stream body mark owners).drop n) = [] := by
  induction owners using List.reverseRecOn with
  | nil => simp [stream, content]
  | append_singleton owners i _ =>
    rw [stream_snoc] at h ⊢
    rw [List.length_append, List.length_singleton] at h
    rw [List.drop_append, content_append, List.drop_eq_nil_of_le (by omega)]
    have hsub : content isEnd ([mark i].drop (n - (stream body mark owners ++ body i).length)) ⊆
        content isEnd [mark i] := fun a ha => by
      unfold content at ha ⊢
      exact List.mem_filter.mpr ⟨List.mem_of_mem_drop (List.mem_filter.mp ha).1,
        (List.mem_filter.mp ha).2⟩
    rw [hf.content_mark] at hsub
    rw [List.eq_nil_of_subset_nil hsub]
    rfl

/-- **The part of a stream with the content of its first lines** ends with their last line,
    its end mark taken or left. -/
theorem content_take_iff {is js : List ι} {n : ℕ}
    (hn : n ≤ (stream body mark (is ++ js)).length) :
    content isEnd ((stream body mark (is ++ js)).take n) = is.flatMap body ↔
      n ≤ (stream body mark is).length ∧ (stream body mark is).length ≤ n + 1 := by
  rw [stream_append] at hn ⊢
  rw [← hf.content_stream is]
  by_cases hle : n ≤ (stream body mark is).length
  · rw [List.take_append_of_le_length hle]
    have hsplit : content isEnd (stream body mark is) =
        content isEnd ((stream body mark is).take n) ++
          content isEnd ((stream body mark is).drop n) := by
      rw [← content_append, List.take_append_drop]
    constructor
    · intro h
      rw [h] at hsplit
      exact ⟨hle, hf.drop_length_le (List.self_eq_append_right.mp hsplit)⟩
    · rintro ⟨-, h⟩
      rw [hsplit, hf.content_drop h, List.append_nil]
  · refine iff_of_false (fun h => hle ?_) (fun h => hle h.1)
    rw [List.take_append, List.take_of_length_le (by omega), content_append,
      List.append_right_eq_self] at h
    have hnil := congrArg List.length (hf.take_eq_nil h)
    rw [List.length_append] at hn
    rw [List.length_take, List.length_nil] at hnil
    omega

/-- Owners whose bodies stand at the front of those of others stand there themselves. -/
theorem front_of_bodies {is js : List ι} (hbody : ∀ i j xs ys, body i ++ xs = body j ++ ys → i = j)
    (h : is.flatMap body <+: js.flatMap body) : is <+: js := by
  induction is generalizing js with
  | nil => exact List.nil_prefix
  | cons i is ih =>
    obtain ⟨rest, hrest⟩ := h
    cases js with
    | nil =>
      rw [List.flatMap_cons, List.append_assoc] at hrest
      exact absurd (List.append_eq_nil_iff.mp hrest).1 (hf.body_ne i)
    | cons j js =>
      rw [List.flatMap_cons, List.flatMap_cons, List.append_assoc] at hrest
      obtain rfl := hbody i j _ _ hrest
      exact (List.prefix_cons_inj i).mpr (ih ⟨rest, List.append_cancel_left hrest⟩)

end Framed

end TinTin.Lib.Lines
