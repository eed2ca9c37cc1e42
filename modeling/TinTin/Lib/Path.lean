/-
  Labelled paths of a transition relation, as a list of labels between two states.

  * `Path R s as t`: the labels `as`, taken in order, lead from `s` to `t`.
  * `Path.append`, `Path.snoc`: paths compose, at the end by one step.
  * `Path.cons_iff`, `Path.append_iff`: a path splits, at its first label or anywhere.
  * `Path.invariant`: what one step keeps, a path keeps.
  * `Path.filter`: steps that change nothing can be left out.
  * `Path.map`: a simulation of single steps carries paths over.
  * `Path.functional`: a path of a deterministic relation has one end.
-/
import Mathlib.Data.List.Basic

namespace TinTin.Lib

universe u v w

/-- `Path R s as t`: the labels `as`, taken in order, lead from `s` to `t`. -/
inductive Path {σ : Type u} {α : Type v} (R : σ → α → σ → Prop) : σ → List α → σ → Prop
  | nil (s : σ) : Path R s [] s
  | cons {s t r : σ} {a : α} {as : List α} : R s a t → Path R t as r → Path R s (a :: as) r

namespace Path

variable {σ : Type u} {α : Type v} {R : σ → α → σ → Prop}

theorem nil_iff {s t : σ} : Path R s [] t ↔ s = t := by
  constructor
  · intro h
    cases h
    rfl
  · rintro rfl
    exact .nil s

theorem cons_iff {s r : σ} {a : α} {as : List α} :
    Path R s (a :: as) r ↔ ∃ t, R s a t ∧ Path R t as r := by
  constructor
  · intro h
    cases h with
    | cons hs hp => exact ⟨_, hs, hp⟩
  · rintro ⟨t, hs, hp⟩
    exact .cons hs hp

theorem append {s t r : σ} {as bs : List α} (h : Path R s as t) (h' : Path R t bs r) :
    Path R s (as ++ bs) r := by
  induction h with
  | nil => exact h'
  | cons hs _ ih => exact .cons hs (ih h')

theorem snoc {s t r : σ} {as : List α} {a : α} (h : Path R s as t) (hs : R t a r) :
    Path R s (as ++ [a]) r :=
  h.append (.cons hs (.nil r))

theorem append_iff {s r : σ} {as bs : List α} :
    Path R s (as ++ bs) r ↔ ∃ t, Path R s as t ∧ Path R t bs r := by
  constructor
  · intro h
    induction as generalizing s with
    | nil => exact ⟨s, .nil s, h⟩
    | cons a as ih =>
      obtain ⟨t, hs, hp⟩ := cons_iff.mp h
      obtain ⟨t', hfront, hback⟩ := ih hp
      exact ⟨t', .cons hs hfront, hback⟩
  · rintro ⟨t, h, h'⟩
    exact h.append h'

/-- What one step keeps, a path keeps. -/
theorem invariant {I : σ → Prop} (hstep : ∀ s a t, I s → R s a t → I t)
    {s t : σ} {as : List α} (h : Path R s as t) (h₀ : I s) : I t := by
  induction h with
  | nil => exact h₀
  | cons hs _ ih => exact ih (hstep _ _ _ h₀ hs)

/-- Each label of a path is that of a step. -/
theorem exists_step {s t : σ} {as : List α} (h : Path R s as t) {a : α} (ha : a ∈ as) :
    ∃ s' t', R s' a t' := by
  induction h with
  | nil => exact absurd ha List.not_mem_nil
  | cons hs _ ih =>
    rcases List.mem_cons.mp ha with rfl | ha
    · exact ⟨_, _, hs⟩
    · exact ih ha

/-- A relation that has the steps of the labels. -/
theorem mono {Q : σ → α → σ → Prop} {s t : σ} {as : List α} (h : Path R s as t)
    (hsub : ∀ s a t, a ∈ as → R s a t → Q s a t) : Path Q s as t := by
  induction h with
  | nil s => exact .nil s
  | cons hs _ ih =>
    exact .cons (hsub _ _ _ List.mem_cons_self hs)
      (ih fun s a t ha => hsub s a t (List.mem_cons_of_mem _ ha))

/-- Steps that change nothing can be left out of a path. -/
theorem filter {I : σ → Prop} {keep : α → Bool} {s t : σ} {as : List α} (h : Path R s as t)
    (hI : ∀ s a t, I s → R s a t → I t) (h₀ : I s)
    (hdrop : ∀ a ∈ as, keep a = false → ∀ s t, I s → R s a t → t = s) :
    Path R s (as.filter keep) t := by
  induction h with
  | nil => exact .nil _
  | @cons s t r a as hs _ ih =>
    have hrest := ih (hI s a t h₀ hs) fun b hb => hdrop b (List.mem_cons_of_mem _ hb)
    cases hkeep : keep a with
    | true =>
      rw [List.filter_cons_of_pos hkeep]
      exact .cons hs hrest
    | false =>
      rw [List.filter_cons_of_neg (by rw [hkeep]; exact Bool.false_ne_true)]
      rw [hdrop a List.mem_cons_self hkeep s t h₀ hs] at hrest
      exact hrest

/-- A simulation of single steps carries a path over, label by label. -/
theorem map {τ : Type w} {Q : τ → α → τ → Prop} {f : σ → τ}
    (hstep : ∀ s a t, R s a t → Q (f s) a (f t))
    {s t : σ} {as : List α} (h : Path R s as t) : Path Q (f s) as (f t) := by
  induction h with
  | nil => exact .nil _
  | cons hs _ ih => exact .cons (hstep _ _ _ hs) ih

/-- The labels of a path and where it starts say where it ends, if those of a step do. -/
theorem functional (hR : ∀ s a t t', R s a t → R s a t' → t = t')
    {s t t' : σ} {as : List α} (h : Path R s as t) (h' : Path R s as t') : t = t' := by
  induction h with
  | nil => exact nil_iff.mp h'
  | cons hs _ ih =>
    obtain ⟨r, hs', hp'⟩ := cons_iff.mp h'
    exact ih (hR _ _ _ _ hs hs' ▸ hp')

end Path

end TinTin.Lib
