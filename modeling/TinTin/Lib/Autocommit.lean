/-
  Programs of autocommitted statements that may fail.

  A statement either returns a value and a new state, or an error and no new state: one
  statement is atomic. A program runs statements one after the other and stops at the first
  error; without a transaction the statements before it stay in effect. On top of the errors
  of the statements themselves, a fault oracle makes any statement fail: it is asked once for
  each statement, by the number of statements run before.

  * `Auto σ ε α`: a program over states `σ` with errors `ε`; a monad.
  * `run_bind_ok`, `run_bind_error`: a program goes on after `.ok` and stops at `.error`.
  * `run_exec_cases`: a statement fails without effect or takes effect.
  * `run_loop_state`: a loop does its steps up to the first fault.
  * `Performs x s fs a`: from `s` the program performs the changes `fs`, one a statement, and
    returns `a`; if it fails on the way, exactly those before the failing one. The rules
    `performs_pure`, `performs_exec`, `performs_bind` and `performs_loop` follow the program.
  * `Moves R x s`: from `s` every statement of the program takes the state along `R`, however the
    program ends. `moves_pure`, `moves_exec`, `moves_bind` and `moves_loop` follow the program;
    `Moves.keeps` is the rule for invariants.
  * `InStep R Q x y`: from states related by `R` the two programs end alike, with results related by
    `Q`. `inStep_pure`, `inStep_exec`, `inStep_bind` and `inStep_loop` follow the programs.
-/
import Mathlib.Data.List.Basic
import Mathlib.Data.List.Forall2
import Mathlib.Data.Option.Basic
import Mathlib.Logic.Relation

namespace TinTin.Lib

/-- For each statement, by the number of statements before it, an error that stops it. -/
abbrev Faults (ε : Type) := ℕ → Option ε

/-- A program of autocommitted statements: under a fault oracle, from a state and the number
    of statements run so far, to a result, a state and the number of statements run. -/
def Auto (σ ε α : Type) := Faults ε → σ → ℕ → Except ε α × σ × ℕ

namespace Auto

variable {σ ε α β : Type}

protected def pure (a : α) : Auto σ ε α := fun _ s n => (.ok a, s, n)

protected def bind (x : Auto σ ε α) (f : α → Auto σ ε β) : Auto σ ε β := fun faults s n =>
  match x faults s n with
  | (.ok a, s, n) => f a faults s n
  | (.error e, s, n) => (.error e, s, n)

instance instMonad : Monad (Auto σ ε) where
  pure := Auto.pure
  bind := Auto.bind

/-- Run one statement. -/
def exec (stmt : σ → Except ε (α × σ)) : Auto σ ε α := fun faults s n =>
  match faults n with
  | some e => (.error e, s, n + 1)
  | none =>
    match stmt s with
    | .error e => (.error e, s, n + 1)
    | .ok (a, s) => (.ok a, s, n + 1)

/-- Run one statement, and go on without its result if it fails. -/
def attempt (stmt : σ → Except ε (α × σ)) : Auto σ ε (Option α) := fun faults s n =>
  match exec stmt faults s n with
  | (.ok a, s, n) => (.ok (some a), s, n)
  | (.error _, s, n) => (.ok none, s, n)

/-- Run a program for each element of a list, in order. -/
def loop (body : α → Auto σ ε Unit) : List α → Auto σ ε Unit
  | [] => pure ()
  | a :: rest => do
    body a
    loop body rest

/-- The oracle of a run without faults. -/
def faultless : Faults ε := fun _ => none

/-- The error of a program, if it failed, the state it left and the number of statements it
    ran, the failed one included. -/
def outcome (x : Auto σ ε α) (faults : Faults ε) (s : σ) : Option ε × σ × ℕ :=
  match x faults s 0 with
  | (.ok _, s, n) => (none, s, n)
  | (.error e, s, n) => (some e, s, n)

variable {faults : Faults ε} {s s' : σ} {n n' : ℕ} {e : ε} {a : α}

theorem run_bind (x : Auto σ ε α) (f : α → Auto σ ε β) (faults : Faults ε) (s : σ) (n : ℕ) :
    (x >>= f) faults s n = match x faults s n with
      | (.ok a, s, n) => f a faults s n
      | (.error e, s, n) => (.error e, s, n) := rfl

theorem run_bind_ok {x : Auto σ ε α} {f : α → Auto σ ε β} (h : x faults s n = (.ok a, s', n')) :
    (x >>= f) faults s n = f a faults s' n' := by
  rw [run_bind, h]

theorem run_bind_error {x : Auto σ ε α} {f : α → Auto σ ε β}
    (h : x faults s n = (.error e, s', n')) : (x >>= f) faults s n = (.error e, s', n') := by
  rw [run_bind, h]

theorem run_exec_fault {stmt : σ → Except ε (α × σ)} (h : faults n = some e) :
    exec stmt faults s n = (.error e, s, n + 1) := by
  unfold exec
  rw [h]

theorem run_exec_ok {stmt : σ → Except ε (α × σ)} (h : faults n = none)
    (hs : stmt s = .ok (a, s')) : exec stmt faults s n = (.ok a, s', n + 1) := by
  unfold exec
  rw [h]
  dsimp only
  rw [hs]

theorem run_attempt_ok {stmt : σ → Except ε (α × σ)} (h : faults n = none)
    (hs : stmt s = .ok (a, s')) : attempt stmt faults s n = (.ok (some a), s', n + 1) := by
  unfold attempt
  rw [run_exec_ok h hs]

/-- A statement either fails and leaves the state alone, or takes effect. -/
theorem run_exec_cases (stmt : σ → Except ε (α × σ)) (faults : Faults ε) (s : σ) (n : ℕ) :
    (∃ e, exec stmt faults s n = (.error e, s, n + 1)) ∨
      ∃ a s', stmt s = .ok (a, s') ∧ exec stmt faults s n = (.ok a, s', n + 1) := by
  cases hf : faults n with
  | some e => exact .inl ⟨e, run_exec_fault hf⟩
  | none =>
    cases hs : stmt s with
    | error e =>
      left
      unfold exec
      rw [hf]
      dsimp only
      rw [hs]
      exact ⟨e, rfl⟩
    | ok r => exact .inr ⟨r.1, r.2, rfl, run_exec_ok hf hs⟩

/-- Without faults a loop does all its steps, if the statements do not fail where a condition
    holds that they keep. -/
theorem run_loop_of_inv {P : σ → Prop} (stmt : α → σ → Except ε (Unit × σ)) (step : σ → α → σ)
    (hstep : ∀ a s, P s → stmt a s = .ok ((), step s a) ∧ P (step s a)) (l : List α) (s : σ)
    (hs : P s) (n : ℕ) :
    loop (fun a => exec (stmt a)) l faultless s n = (.ok (), l.foldl step s, n + l.length) := by
  induction l generalizing s n with
  | nil => rfl
  | cons a l ih =>
    obtain ⟨hok, hs'⟩ := hstep a s hs
    refine (run_bind_ok (run_exec_ok rfl hok)).trans ?_
    rw [ih _ hs']
    simp only [List.foldl_cons, List.length_cons, Prod.mk.injEq, true_and]
    omega

/-- The number of statements, out of the next `m`, that come before the first fault. -/
def untilFault (faults : Faults ε) : ℕ → ℕ → ℕ
  | _, 0 => 0
  | n, m + 1 => if (faults n).isSome then 0 else untilFault faults (n + 1) m + 1

/-- A loop of statements that do not fail by themselves does its steps up to the first fault. -/
theorem run_loop_state (stmt : α → σ → Except ε (Unit × σ)) (step : σ → α → σ)
    (hstep : ∀ a s, stmt a s = .ok ((), step s a)) (l : List α) (s : σ) (n : ℕ) :
    (loop (fun a => exec (stmt a)) l faults s n).2.1 =
      (l.take (untilFault faults n l.length)).foldl step s := by
  induction l generalizing s n with
  | nil => rfl
  | cons a l ih =>
    have hloop : loop (fun a => exec (stmt a)) (a :: l) =
        exec (stmt a) >>= fun _ => loop (fun a => exec (stmt a)) l := rfl
    rw [hloop, List.length_cons, untilFault]
    cases hf : faults n with
    | some e =>
      rw [run_bind_error (run_exec_fault hf)]
      rfl
    | none =>
      rw [run_bind_ok (run_exec_ok hf (hstep a s)), ih]
      rfl

/-- Without faults a loop of statements that do not fail does all its steps. -/
theorem run_loop_faultless (stmt : α → σ → Except ε (Unit × σ)) (step : σ → α → σ)
    (hstep : ∀ a s, stmt a s = .ok ((), step s a)) (l : List α) (s : σ) (n : ℕ) :
    loop (fun a => exec (stmt a)) l faultless s n = (.ok (), l.foldl step s, n + l.length) :=
  run_loop_of_inv (P := fun _ => True) stmt step (fun a s _ => ⟨hstep a s, trivial⟩) l s trivial n

/-! ## Effects -/

/-- Apply state changes in order. -/
def applyAll (fs : List (σ → σ)) (s : σ) : σ := fs.foldl (fun s f => f s) s

theorem applyAll_append (fs gs : List (σ → σ)) (s : σ) :
    applyAll (fs ++ gs) s = applyAll gs (applyAll fs s) :=
  List.foldl_append

/-- From `s` the program runs one statement for each of `fs`. Either all of them take effect
    and it returns `a`, or one fails and exactly those before it have taken effect. -/
def Performs (x : Auto σ ε α) (s : σ) (fs : List (σ → σ)) (a : α) : Prop :=
  ∀ (faults : Faults ε) (n : ℕ),
    x faults s n = (.ok a, applyAll fs s, n + fs.length) ∨
    ∃ e, ∃ k < fs.length, x faults s n = (.error e, applyAll (fs.take k) s, n + k + 1)

theorem performs_pure (a : α) (s : σ) : Performs (pure a : Auto σ ε α) s [] a :=
  fun _ _ => .inl rfl

/-- A statement performs `f` if that is what it does when it does not fail. -/
theorem performs_exec {stmt : σ → Except ε (α × σ)} (a : α) (f : σ → σ)
    (h : ∀ b s', stmt s = .ok (b, s') → b = a ∧ s' = f s) : Performs (exec stmt) s [f] a := by
  intro faults n
  rcases run_exec_cases stmt faults s n with ⟨e, he⟩ | ⟨b, s', hs, hok⟩
  · exact .inr ⟨e, 0, by simp, he⟩
  · obtain ⟨rfl, rfl⟩ := h b s' hs
    exact .inl hok

theorem performs_bind {x : Auto σ ε α} {g : α → Auto σ ε β} {fs gs : List (σ → σ)} {b : β}
    (hx : Performs x s fs a) (hg : Performs (g a) (applyAll fs s) gs b) :
    Performs (x >>= g) s (fs ++ gs) b := by
  intro faults n
  rcases hx faults n with h | ⟨e, k, hk, h⟩
  · rcases hg faults (n + fs.length) with h' | ⟨e, k, hk, h'⟩
    · left
      rw [run_bind_ok h, h', applyAll_append, List.length_append, Nat.add_assoc]
    · refine .inr ⟨e, fs.length + k, by rw [List.length_append]; omega, ?_⟩
      rw [run_bind_ok h, h', List.take_length_add_append, applyAll_append, Nat.add_assoc n]
  · refine .inr ⟨e, k, by rw [List.length_append]; omega, ?_⟩
    rw [run_bind_error h, List.take_append_of_le_length (Nat.le_of_lt hk)]

theorem performs_loop {body : α → Auto σ ε Unit} {f : α → σ → σ}
    (h : ∀ a s, Performs (body a) s [f a] ()) (l : List α) (s : σ) :
    Performs (loop body l) s (l.map f) () := by
  induction l generalizing s with
  | nil => exact performs_pure () s
  | cons a l ih => exact performs_bind (h a s) (ih _)

/-! ## Moves -/

/-- From `s` the program takes the state along `R`, however it ends. -/
def Moves (R : σ → σ → Prop) (x : Auto σ ε α) (s : σ) : Prop :=
  ∀ (faults : Faults ε) (n : ℕ), Relation.ReflTransGen R s (x faults s n).2.1

variable {R : σ → σ → Prop}

theorem moves_pure (a : α) (s : σ) : Moves R (pure a : Auto σ ε α) s := fun _ _ => .refl

theorem moves_exec {stmt : σ → Except ε (α × σ)}
    (h : ∀ a s', stmt s = .ok (a, s') → Relation.ReflTransGen R s s') : Moves R (exec stmt) s := by
  intro faults n
  rcases run_exec_cases stmt faults s n with ⟨e, he⟩ | ⟨a, s', hs, hok⟩
  · exact he ▸ .refl
  · rw [hok]
    exact h a s' hs

theorem run_attempt_state (stmt : σ → Except ε (α × σ)) (faults : Faults ε) (s : σ) (n : ℕ) :
    (attempt stmt faults s n).2.1 = (exec stmt faults s n).2.1 := by
  unfold attempt
  rcases exec stmt faults s n with ⟨_ | a, s', n'⟩ <;> rfl

/-- The program after the first one moves from the states in which that one returns. -/
theorem moves_bind {x : Auto σ ε α} {f : α → Auto σ ε β} (hx : Moves R x s)
    (hf : ∀ faults n a s' n', x faults s n = (.ok a, s', n') → Moves R (f a) s') :
    Moves R (x >>= f) s := by
  intro faults n
  have hfirst := hx faults n
  rcases hrun : x faults s n with ⟨e | a, s', n'⟩
  · rw [hrun] at hfirst
    rw [run_bind_error hrun]
    exact hfirst
  · rw [hrun] at hfirst
    rw [run_bind_ok hrun]
    exact hfirst.trans (hf faults n a s' n' hrun faults n')

theorem moves_return {x : Auto σ ε α} (h : Moves R x s) (f : α → β) :
    Moves R (x >>= fun a => pure (f a)) s :=
  moves_bind h fun _ _ _ s' _ _ => moves_pure _ s'

/-- A statement that makes one move or none. -/
theorem moves_step {stmt : σ → Except ε (α × σ)}
    (h : ∀ a s', stmt s = .ok (a, s') → s' = s ∨ R s s') : Moves R (exec stmt) s := by
  refine moves_exec fun a s' hstmt => ?_
  rcases h a s' hstmt with rfl | hmove
  · exact .refl
  · exact .single hmove

/-- A statement that always succeeds with one move. -/
theorem moves_once {stmt : σ → Except ε (α × σ)} {a : α} {s' : σ} (h : stmt s = .ok (a, s'))
    (hmove : R s s') : Moves R (exec stmt) s := by
  refine moves_step fun b s'' hstmt => Or.inr ?_
  rw [h] at hstmt
  cases hstmt
  exact hmove

/-- A query. -/
theorem moves_read {stmt : σ → Except ε (α × σ)} {a : α} (h : stmt s = .ok (a, s)) :
    Moves R (exec stmt) s := by
  refine moves_step fun b s' hstmt => Or.inl ?_
  rw [h] at hstmt
  cases hstmt
  rfl

theorem moves_attempt_read {stmt : σ → Except ε (α × σ)} {a : α} (h : stmt s = .ok (a, s)) :
    Moves R (attempt stmt) s := by
  intro faults n
  rw [run_attempt_state]
  exact moves_read h faults n

/-- What every move keeps, the program keeps. -/
theorem Moves.keeps {x : Auto σ ε α} {P : σ → Prop} (h : Moves R x s)
    (hP : ∀ s s', R s s' → P s → P s') (hs : P s) (faults : Faults ε) (n : ℕ) :
    P (x faults s n).2.1 := by
  have hmoved := h faults n
  generalize (x faults s n).2.1 = s' at hmoved
  induction hmoved with
  | refl => exact hs
  | tail _ hstep ih => exact hP _ _ hstep ih

/-- A program that moves along a relation moves along a wider one. -/
theorem Moves.mono {R' : σ → σ → Prop} {x : Auto σ ε α} (h : Moves R x s)
    (hR : ∀ s s', R s s' → R' s s') : Moves R' x s :=
  fun faults n => Relation.ReflTransGen.mono hR _ _ (h faults n)

/-- A loop moves if its body does where a condition holds that the moves keep. -/
theorem moves_loop {body : α → Auto σ ε Unit} {P : σ → Prop} (hP : ∀ s s', R s s' → P s → P s')
    (h : ∀ a s, P s → Moves R (body a) s) (l : List α) (s : σ) (hs : P s) :
    Moves R (loop body l) s := by
  induction l generalizing s with
  | nil => exact moves_pure () s
  | cons a l ih =>
    refine moves_bind (h a s hs) fun faults n _ s' n' hrun => ih s' ?_
    have hkept := (h a s hs).keeps hP hs faults n
    rw [hrun] at hkept
    exact hkept

/-! ## Two programs in step -/

/-- Both results are values that are related, or both are the same error. -/
inductive Both (Q : α → β → Prop) : Except ε α → Except ε β → Prop
  | ok {a : α} {b : β} (h : Q a b) : Both Q (.ok a) (.ok b)
  | error (e : ε) : Both Q (.error e) (.error e)

variable {τ γ δ : Type}

/-- From related states, and with the same faults, the programs run the same number of statements,
    to results and states that are related. -/
def InStep (R : σ → τ → Prop) (Q : α → β → Prop) (x : Auto σ ε α) (y : Auto τ ε β) : Prop :=
  ∀ (faults : Faults ε) (s : σ) (t : τ) (n : ℕ), R s t →
    Both Q (x faults s n).1 (y faults t n).1 ∧ R (x faults s n).2.1 (y faults t n).2.1 ∧
      (x faults s n).2.2 = (y faults t n).2.2

variable {R : σ → τ → Prop} {Q : α → β → Prop} {Q' : γ → δ → Prop}

theorem inStep_pure {a : α} {b : β} (h : Q a b) :
    InStep R Q (pure a : Auto σ ε α) (pure b : Auto τ ε β) :=
  fun _ _ _ _ hR => ⟨.ok h, hR, rfl⟩

/-- Statements that do the same to related states. -/
theorem inStep_exec {stmt : σ → Except ε (α × σ)} {stmt' : τ → Except ε (β × τ)}
    (h : ∀ s t, R s t → Both (fun r r' => Q r.1 r'.1 ∧ R r.2 r'.2) (stmt s) (stmt' t)) :
    InStep R Q (exec stmt) (exec stmt') := by
  intro faults s t n hR
  unfold exec
  cases faults n with
  | some e => exact ⟨.error e, hR, rfl⟩
  | none =>
    have hboth := h s t hR
    generalize stmt s = r at hboth
    generalize stmt' t = r' at hboth
    cases hboth with
    | ok hQ => exact ⟨.ok hQ.1, hQ.2, rfl⟩
    | error e => exact ⟨.error e, hR, rfl⟩

theorem inStep_attempt {stmt : σ → Except ε (α × σ)} {stmt' : τ → Except ε (β × τ)}
    (h : ∀ s t, R s t → Both (fun r r' => Q r.1 r'.1 ∧ R r.2 r'.2) (stmt s) (stmt' t)) :
    InStep R (Option.Rel Q) (attempt stmt) (attempt stmt') := by
  intro faults s t n hR
  obtain ⟨hboth, hstate, hran⟩ := inStep_exec h faults s t n hR
  unfold attempt
  generalize exec stmt faults s n = r at hboth hstate hran
  generalize exec stmt' faults t n = r' at hboth hstate hran
  obtain ⟨r, s₁, n₁⟩ := r
  obtain ⟨r', t₁, n₁'⟩ := r'
  cases hboth with
  | ok hQ => exact ⟨.ok (.some hQ), hstate, hran⟩
  | error e => exact ⟨.ok .none, hstate, hran⟩

theorem inStep_bind {x : Auto σ ε α} {y : Auto τ ε β} {f : α → Auto σ ε γ} {g : β → Auto τ ε δ}
    (hx : InStep R Q x y) (hf : ∀ a b, Q a b → InStep R Q' (f a) (g b)) :
    InStep R Q' (x >>= f) (y >>= g) := by
  intro faults s t n hR
  obtain ⟨hboth, hstate, hran⟩ := hx faults s t n hR
  rw [run_bind, run_bind]
  generalize x faults s n = r at hboth hstate hran
  generalize y faults t n = r' at hboth hstate hran
  obtain ⟨r, s₁, n₁⟩ := r
  obtain ⟨r', t₁, n₁'⟩ := r'
  obtain rfl : n₁ = n₁' := hran
  cases hboth with
  | ok hQ => exact hf _ _ hQ faults s₁ t₁ n₁ hstate
  | error e => exact ⟨.error e, hstate, rfl⟩

theorem inStep_loop {body : α → Auto σ ε Unit} {body' : β → Auto τ ε Unit} {as : List α}
    {bs : List β} (hl : List.Forall₂ Q as bs)
    (h : ∀ a b, Q a b → InStep R (fun _ _ => True) (body a) (body' b)) :
    InStep R (fun _ _ => True) (loop body as) (loop body' bs) := by
  induction hl with
  | nil => exact inStep_pure trivial
  | cons hab _ ih => exact inStep_bind (h _ _ hab) fun _ _ _ => ih

end Auto

end TinTin.Lib
