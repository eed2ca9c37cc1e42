/-
  Functions that tell by their result whether they have failed, and why by a slot that all of them
  share, as `errno` or a last-error string does.

  * `Ended`: how code ends that may return, fail with a text, or panic. A `Body` is such code over
    the slot.
  * `catchQuietly`, `catchAndTell`: the two ways of turning what a body ends with into a result.
  * `Told`: after the call the slot says whether and why it has failed. `told_quietly`,
    `told_and_tell`: when it does, for a body that clears the slot and then leaves it alone.
  * `Along`: what holds of every call of a sequence; `along_congr`.
-/
import Mathlib.Logic.Basic

namespace TinTin.Lib

/-! ## Slots and bodies -/

/-- The message of the last error, if there is one. -/
abbrev ErrorSlot := Option String

/-- A call that may write the slot. -/
abbrev Slotted (α : Type) := StateM ErrorSlot α

/-- How code ends. -/
inductive Ended (α : Type)
  | returned (a : α)
  | failed (e : String)
  | panicked
  deriving DecidableEq, Repr

namespace Ended

variable {α β : Type}

protected def bind (x : Ended α) (f : α → Ended β) : Ended β :=
  match x with
  | .returned a => f a
  | .failed e => .failed e
  | .panicked => .panicked

instance instMonad : Monad Ended where
  pure := .returned
  bind := Ended.bind

/-- `map_err` with a text in front. -/
def context (x : Ended α) (text : String) : Ended α :=
  match x with
  | .returned a => .returned a
  | .failed e => .failed (text ++ e)
  | .panicked => .panicked

/-- A `Result`. -/
def ofExcept : Except String α → Ended α
  | .ok a => .returned a
  | .error e => .failed e

/-- Code that returns or panics. -/
def ofOption : Option α → Ended α
  | some a => .returned a
  | none => .panicked

/-- What was returned. -/
def result : Ended α → Option α
  | .returned a => some a
  | _ => none

/-- The code does not panic, and what it returns leads on to `next`. -/
def Calm (x : Ended α) (next : α → Prop) : Prop :=
  match x with
  | .returned a => next a
  | .failed _ => True
  | .panicked => False

@[simp] theorem pure_eq_returned (a b : α) : (pure a : Ended α) = .returned b ↔ a = b :=
  Ended.returned.injEq a b ▸ Iff.rfl

@[simp] theorem bind_eq_returned (x : Ended α) (f : α → Ended β) (b : β) :
    x >>= f = .returned b ↔ ∃ a, x = .returned a ∧ f a = .returned b := by
  cases x with
  | returned a =>
    constructor
    · exact fun h => ⟨a, rfl, h⟩
    · rintro ⟨_, ⟨⟩, h⟩
      exact h
  | failed e => exact iff_of_false (fun h => by cases h) (by rintro ⟨_, h, -⟩; cases h)
  | panicked => exact iff_of_false (fun h => by cases h) (by rintro ⟨_, h, -⟩; cases h)

@[simp] theorem context_eq_returned (x : Ended α) (text : String) (a : α) :
    x.context text = .returned a ↔ x = .returned a := by
  cases x <;> simp [context]

@[simp] theorem ofExcept_eq_returned (x : Except String α) (a : α) :
    ofExcept x = .returned a ↔ x = .ok a := by
  cases x <;> simp [ofExcept]

@[simp] theorem mapError_eq_ok {ε δ : Type} (x : Except ε α) (f : ε → δ) (a : α) :
    x.mapError f = .ok a ↔ x = .ok a := by
  cases x with
  | error e =>
    change (.error (f e) : Except δ α) = .ok a ↔ _
    exact iff_of_false (by intro h; cases h) (by intro h; cases h)
  | ok b =>
    change (.ok b : Except δ α) = .ok a ↔ _
    rw [Except.ok.injEq, Except.ok.injEq]

@[simp] theorem ofOption_eq_returned (x : Option α) (a : α) :
    ofOption x = .returned a ↔ x = some a := by
  cases x <;> simp [ofOption]

theorem calm_congr {x : Ended α} {P Q : α → Prop} (h : ∀ a, P a ↔ Q a) :
    x.Calm P ↔ x.Calm Q := by
  cases x with
  | returned a => exact h a
  | failed e => exact Iff.rfl
  | panicked => exact Iff.rfl

theorem isSome_result_iff (x : Ended α) : x.result.isSome ↔ ∃ a, x = .returned a := by
  cases x <;> simp [result]

end Ended

/-- Code over the slot. -/
def Body (α : Type) := ErrorSlot → Ended α × ErrorSlot

namespace Slotted

variable {α : Type}

def clearError : Slotted Unit := set (none : ErrorSlot)

def setError (msg : String) : Slotted Unit := set (some msg : ErrorSlot)

/-- A call, of which only its success is asked. -/
def outcome (succeeded : α → Bool) (call : Slotted α) : Slotted (Option Unit) := fun slot =>
  (if succeeded (call slot).1 then some () else none, (call slot).2)

/-- `catch_unwind`, with an error or a panic taken for a failure. -/
def catchQuietly (body : Body α) : Slotted (Option α) := fun slot =>
  let (end', slot) := body slot
  (end'.result, slot)

/-- `catch_unwind`, with an error written into the slot. -/
def catchAndTell (body : Body α) : Slotted (Option α) := fun slot =>
  match body slot with
  | (.returned a, slot) => (some a, slot)
  | (.failed e, _) => (none, some e)
  | (.panicked, slot) => (none, slot)

end Slotted

namespace Body

variable {α β : Type}

/-- The slot is cleared, and then left alone. -/
def clearing (x : Ended α) : Body α := fun _ => (x, none)

/-- The slot is cleared, then an error is written into it and another one returned. -/
def telling (msg e : String) : Body α := fun _ => (.failed e, some msg)

end Body

/-! ## What the slot tells -/

variable {α γ : Type}

/-- **The slot tells whether and why the call has failed**: it is empty after a success, and after a
    failure it has a text that the call has written, whatever was there before. -/
structure Told (call : Slotted (Option α)) (slot : ErrorSlot) : Prop where
  success : ((call slot).1).isSome → (call slot).2 = none
  failure : (call slot).1 = none → ∃ msg, msg ≠ "" ∧ ∀ before, (call before).2 = some msg

/-- A call that fails with the slot empty does not tell. -/
theorem not_told_of_silent {call : Slotted (Option α)} {slot : ErrorSlot}
    (hfail : (call slot).1 = none) (hslot : (call slot).2 = none) : ¬ Told call slot := by
  intro h
  obtain ⟨msg, -, hmsg⟩ := h.failure hfail
  rw [hmsg slot] at hslot
  cases hslot

/-- A call that always fails with this text. -/
theorem told_of_failure {call : Slotted (Option α)} {msg : String} (hmsg : msg ≠ "")
    (h : ∀ before, call before = (none, some msg)) (slot : ErrorSlot) : Told call slot where
  success hsome := by
    rw [h] at hsome
    cases hsome
  failure _ := ⟨msg, hmsg, fun before => by rw [h]⟩

/-- A call that always succeeds, and leaves the slot empty. -/
theorem told_of_success {call : Slotted (Option α)} {a : α} {slot : ErrorSlot}
    (h : call slot = (some a, none)) : Told call slot where
  success _ := by rw [h]
  failure hnone := by
    rw [h] at hnone
    cases hnone

/-- A call that succeeds and leaves the slot alone. -/
theorem told_keeping_iff {call : Slotted (Option α)} {a : α} {slot : ErrorSlot}
    (h : call slot = (some a, slot)) : Told call slot ↔ slot = none := by
  constructor
  · intro ht
    have hslot := ht.success (by rw [h]; rfl)
    rw [h] at hslot
    exact hslot
  · rintro rfl
    exact told_of_success h

/-- Asking only of success leaves what is told. -/
theorem told_outcome (call : Slotted (Option α)) (slot : ErrorSlot) :
    Told (Slotted.outcome Option.isSome call) slot ↔ Told call slot := by
  have hiff : (Slotted.outcome Option.isSome call slot).1 = none ↔ (call slot).1 = none := by
    unfold Slotted.outcome
    cases (call slot).1 <;> simp
  have hsome : ((Slotted.outcome Option.isSome call slot).1).isSome ↔ ((call slot).1).isSome := by
    unfold Slotted.outcome
    cases (call slot).1 <;> simp
  constructor
  · exact fun h => ⟨fun hs => h.success (hsome.mpr hs), fun hn => h.failure (hiff.mpr hn)⟩
  · exact fun h => ⟨fun hs => h.success (hsome.mp hs), fun hn => h.failure (hiff.mp hn)⟩

/-- A body that clears the slot tells only of success. -/
theorem told_quietly (x : Ended α) (slot : ErrorSlot) :
    Told (Slotted.catchQuietly (Body.clearing x)) slot ↔ x.result.isSome := by
  cases x with
  | returned a => exact iff_of_true (told_of_success rfl) rfl
  | failed e => exact iff_of_false (not_told_of_silent rfl rfl) Bool.false_ne_true
  | panicked => exact iff_of_false (not_told_of_silent rfl rfl) Bool.false_ne_true

/-- The code does not panic, and an error of it has a text. -/
def Ended.Explained : Ended α → Prop
  | .returned _ => True
  | .failed e => e ≠ ""
  | .panicked => False

theorem text_ne_empty {text : String} (h : text ≠ "") (e : String) : text ++ e ≠ "" := by
  intro he
  have hlen := congrArg String.length he
  rw [String.length_append] at hlen
  have hpos : text.length ≠ 0 := fun h0 => h (String.length_eq_zero_iff.mp h0)
  have h0 : ("" : String).length = 0 := rfl
  omega

/-- Code whose errors have a text in front is explained up to where it panics. -/
theorem Ended.explained_context_bind {x : Ended α} {text : String} (htext : text ≠ "")
    (f : α → Ended γ) : (x.context text >>= f).Explained ↔ x.Calm fun a => (f a).Explained := by
  cases x with
  | returned a => exact Iff.rfl
  | failed e => exact iff_of_true (text_ne_empty htext e) trivial
  | panicked => exact Iff.rfl

/-- A body that clears the slot tells of everything but a panic, where its errors are written. -/
theorem told_and_tell (x : Ended α) (slot : ErrorSlot) :
    Told (Slotted.catchAndTell (Body.clearing x)) slot ↔ x.Explained := by
  cases x with
  | returned a => exact iff_of_true (told_of_success rfl) trivial
  | failed e =>
    constructor
    · intro h
      obtain ⟨msg, hne, hmsg⟩ := h.failure rfl
      obtain rfl : e = msg := Option.some.inj (hmsg slot)
      exact hne
    · exact fun he => told_of_failure he (fun _ => rfl) slot
  | panicked => exact iff_of_false (not_told_of_silent rfl rfl) id

theorem told_telling {msg : String} (hmsg : msg ≠ "") (e : String) (slot : ErrorSlot) :
    Told (Slotted.catchQuietly (Body.telling msg e : Body α)) slot :=
  told_of_failure hmsg (fun _ => rfl) slot

/-! ## Sequences of calls -/

/-- A property of every call of a sequence, in the state it finds. -/
def Along (next : γ → ErrorSlot → ErrorSlot) (P : γ → ErrorSlot → Prop) :
    ErrorSlot → List γ → Prop
  | _, [] => True
  | slot, c :: cs => P c slot ∧ Along next P (next c slot) cs

theorem along_congr {next : γ → ErrorSlot → ErrorSlot} {P Q : γ → ErrorSlot → Prop}
    (h : ∀ c slot, P c slot ↔ Q c slot) (slot : ErrorSlot) (calls : List γ) :
    Along next P slot calls ↔ Along next Q slot calls := by
  induction calls generalizing slot with
  | nil => exact Iff.rfl
  | cons c cs ih => exact and_congr (h c slot) (ih _)

/-- A property that does not depend on the slot. -/
theorem along_const {next : γ → ErrorSlot → ErrorSlot} (P : γ → Prop) (calls : List γ)
    (slot : ErrorSlot) : Along next (fun c _ => P c) slot calls ↔ ∀ c ∈ calls, P c := by
  induction calls generalizing slot with
  | nil => exact iff_of_true trivial (fun _ h => by cases h)
  | cons c cs ih =>
    rw [List.forall_mem_cons]
    exact and_congr Iff.rfl (ih _)

end TinTin.Lib
