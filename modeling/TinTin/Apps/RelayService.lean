/-
  Relay calls of the two apps (`RelayService.kt`, `RelayService.swift`).

  A call writes one line with its request and reads one answer; nothing keeps another call
  from coming in between. The server answers the lines of a connection in order, each with
  one line (`handle_client`), so an answer belongs to a call by its place on the stream alone.

  A byte on the stream is paired with the call whose answer it is part of; the code does not
  see that half of the pair. The two steps of a call are its write, with which the server's
  answer is on its way, and its read:
  * Android: `BufferedReader.readLine`, with the sizes of the fills it makes.
  * iOS: one `NWConnection.receive`, with the number of bytes it hands over. They go to
    `JSONDecoder` as they are, so `sendCommand` treats them as one answer.

  A read waits until it can return. `soTimeout` and closed connections are left out. A
  carriage return followed by a newline ends one line for `readLine`, not two; the answers
  have neither inside, so the rule never applies.

  * `android_inv`, `ios_inv`: what is on the stream at any time.
  * `own_answers_iff`: in which runs each call gets its own answer.
-/
import TinTin.Core.Keys
import TinTin.Lib.Lines
import Mathlib.Algebra.GroupWithZero.Nat
import Mathlib.Data.List.Nodup

namespace TinTin.Apps

open TinTin.Lib TinTin.Core

/-- One line of the server: JSON, in which `serde_json` escapes control characters. -/
structure Answer where
  bytes : Bytes
  nonempty : bytes ≠ []
  oneLine : ∀ b ∈ bytes, b ≠ 10 ∧ b ≠ 13

/-- A step of a call: its write, or its read. `ρ` is what the reads depend on. -/
inductive RelayStep (ι ρ : Type)
  | write (call : ι)
  | read (call : ι) (how : ρ)
  deriving DecidableEq, Repr

variable {ι ρ : Type}

/-- The calls that a run writes, in order. -/
def writesOf (steps : List (RelayStep ι ρ)) : List ι :=
  steps.filterMap fun
    | .write call => some call
    | .read _ _ => none

/-- The calls that a run reads, in order. -/
def readsOf (steps : List (RelayStep ι ρ)) : List ι :=
  steps.filterMap fun
    | .write _ => none
    | .read call _ => some call

/-- What the reads of a run depend on, in order. -/
def howsOf (steps : List (RelayStep ι ρ)) : List ρ :=
  steps.filterMap fun
    | .write _ => none
    | .read _ how => some how

/-- A byte of the answer to a call. -/
abbrev Tagged (ι : Type) := ι × UInt8

/-- The ends of a line for `readLine`. -/
def isEnd (b : Tagged ι) : Bool := b.2 = 10 || b.2 = 13

/-- The connection: the calls written, what each read returned, what the reader has buffered,
    and what is on its way to it. -/
structure Connection (ι : Type) where
  written : List ι
  returned : List (ι × List (Tagged ι))
  buffer : List (Tagged ι)
  wire : List (Tagged ι)

namespace Connection

def start : Connection ι := ⟨[], [], [], []⟩

/-- The calls that have returned. -/
def done (c : Connection ι) : List ι := c.returned.map Prod.fst

variable (answers : ι → Answer) [DecidableEq ι]

/-- The text of the answer to a call. -/
def body (call : ι) : List (Tagged ι) := (answers call).bytes.map fun b => (call, b)

/-- The newline behind it. -/
def newline (call : ι) : Tagged ι := (call, 10)

/-- A request is written, and the server's answer is on its way. -/
def write (c : Connection ι) (call : ι) : Option (Connection ι) :=
  if call ∈ c.written then none
  else some { c with
    written := c.written ++ [call]
    wire := c.wire ++ (body answers call ++ [newline call]) }

/-- Android: `sendJson`, then `reader.readLine()`. -/
def androidStep (c : Connection ι) : RelayStep ι (List ℕ) → Option (Connection ι)
  | .write call => c.write answers call
  | .read call fills =>
    if call ∈ c.written ∧ call ∉ c.done then
      match Lines.readLine isEnd fills [] c.buffer c.wire with
      | none => none
      | some (line, buffer, wire) =>
        some { c with returned := c.returned ++ [(call, line)], buffer := buffer, wire := wire }
    else none

/-- iOS: `conn.send`, then `conn.receive(minimumIncompleteLength: 1, maximumLength: 65536)`. -/
def iosStep (c : Connection ι) : RelayStep ι ℕ → Option (Connection ι)
  | .write call => c.write answers call
  | .read call n =>
    if call ∈ c.written ∧ call ∉ c.done then
      if 1 ≤ n ∧ n ≤ 65536 ∧ n ≤ c.wire.length then
        some { c with
          returned := c.returned ++ [(call, c.wire.take n)]
          wire := c.wire.drop n }
      else none
    else none

def run (step : Connection ι → RelayStep ι ρ → Option (Connection ι)) (c : Connection ι)
    (steps : List (RelayStep ι ρ)) : Option (Connection ι) :=
  steps.foldlM step c

/-- **Own answers**: each call that has returned got the text of its own answer, and what is
    still to be read is the text of the answers of the other calls. -/
structure OwnAnswers (c : Connection ι) : Prop where
  own : ∀ p ∈ c.returned, Lines.content isEnd p.2 = body answers p.1
  kept : Lines.content isEnd (c.buffer ++ c.wire) =
    (c.written.filter (· ∉ c.done)).flatMap (body answers)

/-- The bytes of the answers to some calls, newlines included. -/
def sizeOf (calls : List ι) : ℕ := (calls.map fun call => (answers call).bytes.length + 1).sum

/-- The first reads of a run take the answers to as many calls in the order of the writes; the
    last newline may be left. -/
def WholeAnswers (steps : List (RelayStep ι ℕ)) : Prop :=
  ∀ j ≤ (readsOf steps).length,
    ((howsOf steps).take j).sum ≤ sizeOf answers ((writesOf steps).take j) ∧
      sizeOf answers ((writesOf steps).take j) ≤ ((howsOf steps).take j).sum + 1

/-! ## Runs -/

variable {answers}

omit [DecidableEq ι] in
theorem run_snoc (step : Connection ι → RelayStep ι ρ → Option (Connection ι))
    (c : Connection ι) (steps : List (RelayStep ι ρ)) (a : RelayStep ι ρ) :
    c.run step (steps ++ [a]) = (c.run step steps).bind (step · a) := by
  unfold run
  rw [List.foldlM_append]
  simp only [List.foldlM_cons, List.foldlM_nil, bind_pure]
  rfl

omit [DecidableEq ι] in
/-- What holds at the start and is kept by each step holds after any run. -/
theorem run_induction {step : Connection ι → RelayStep ι ρ → Option (Connection ι)}
    {Q : List (RelayStep ι ρ) → Connection ι → Prop} (hstart : Q [] start)
    (hstep : ∀ steps c a c', Q steps c → step c a = some c' → Q (steps ++ [a]) c')
    {steps : List (RelayStep ι ρ)} {c : Connection ι} (h : start.run step steps = some c) :
    Q steps c := by
  induction steps using List.reverseRecOn generalizing c with
  | nil =>
    cases h
    exact hstart
  | append_singleton steps a ih =>
    rw [run_snoc] at h
    obtain ⟨c₀, h₀, ha⟩ := Option.bind_eq_some_iff.mp h
    exact hstep steps c₀ a c (ih h₀) ha

/-- The calls of a run. -/
structure Calls (steps : List (RelayStep ι ρ)) (c : Connection ι) : Prop where
  written : c.written = writesOf steps
  done : c.done = readsOf steps
  nodup : c.written.Nodup

omit [DecidableEq ι] in
theorem calls_start : Calls ([] : List (RelayStep ι ρ)) start := ⟨rfl, rfl, List.nodup_nil⟩

theorem calls_write {steps : List (RelayStep ι ρ)} {c c' : Connection ι} {call : ι}
    (hc : Calls steps c) (h : c.write answers call = some c') :
    Calls (steps ++ [.write call]) c' := by
  unfold write at h
  split at h
  · cases h
  · next hnew =>
    cases h
    refine ⟨?_, ?_, ?_⟩
    · rw [hc.written, writesOf, writesOf, List.filterMap_append]
      rfl
    · refine hc.done.trans ?_
      rw [readsOf, readsOf, List.filterMap_append]
      exact (List.append_nil _).symm
    · exact List.nodup_append.mpr ⟨hc.nodup, List.nodup_singleton _, by
        intro x hx y hy
        rw [List.mem_singleton.mp hy]
        exact fun heq => hnew (heq ▸ hx)⟩

omit [DecidableEq ι] in
theorem calls_read {steps : List (RelayStep ι ρ)} {c : Connection ι} (hc : Calls steps c)
    (call : ι) (how : ρ) (got buffer wire : List (Tagged ι)) :
    Calls (steps ++ [.read call how])
      { c with returned := c.returned ++ [(call, got)], buffer := buffer, wire := wire } := by
  refine ⟨?_, ?_, hc.nodup⟩
  · refine hc.written.trans ?_
    rw [writesOf, writesOf, List.filterMap_append]
    exact (List.append_nil _).symm
  · unfold done
    rw [List.map_append, readsOf, List.filterMap_append]
    exact congrArg (· ++ [call]) hc.done

omit [DecidableEq ι] in
/-- The answers are lines of tagged bytes. -/
theorem framed (answers : ι → Answer) :
    Lines.Framed isEnd (body answers) newline where
  body_content call a ha := by
    obtain ⟨b, hb, rfl⟩ := List.mem_map.mp ha
    obtain ⟨h10, h13⟩ := (answers call).oneLine b hb
    simp [isEnd, h10, h13]
  body_ne call h := (answers call).nonempty (List.map_eq_nil_iff.mp h)
  mark_end _ := rfl

omit [DecidableEq ι] in
/-- The first byte of a body tells whose it is. -/
theorem body_owner {i j : ι} {xs ys : List (Tagged ι)}
    (h : body answers i ++ xs = body answers j ++ ys) : i = j := by
  obtain ⟨a, as, ha⟩ := List.exists_cons_of_ne_nil (answers i).nonempty
  obtain ⟨b, bs, hb⟩ := List.exists_cons_of_ne_nil (answers j).nonempty
  unfold body at h
  rw [ha, hb] at h
  exact congrArg Prod.fst (List.cons.inj h).1

omit [DecidableEq ι] in
theorem body_injective : Function.Injective (body answers) := by
  intro i j h
  have happ : body answers i ++ [] = body answers j ++ [] := by rw [h]
  exact body_owner happ

/-- The calls behind the first ones are those that are not among them. -/
theorem filter_not_mem_front {l front : List ι} (hnodup : l.Nodup) (h : front <+: l) :
    l.filter (· ∉ front) = l.drop front.length := by
  obtain ⟨rest, rfl⟩ := h
  rw [List.drop_left, List.filter_append]
  have hfront : front.filter (· ∉ front) = [] := by
    rw [List.filter_eq_nil_iff]
    intro x hx
    simp [hx]
  have hrest : rest.filter (· ∉ front) = rest := by
    rw [List.filter_eq_self]
    intro x hx
    have := (List.nodup_append.mp hnodup).2.2
    simp only [decide_eq_true_eq]
    exact fun hmem => this x hmem x hx rfl
  rw [hfront, hrest]
  rfl

/-! ## Android -/

/-- **Each read returns the next line**, whatever the fills: the lines returned are those of the
    first calls written, and the lines of the others are still to come. -/
structure LineByLine (answers : ι → Answer) (c : Connection ι) : Prop where
  count : c.returned.length ≤ c.written.length
  lines : c.returned.map Prod.snd = (c.written.take c.returned.length).map (body answers)
  rest : c.buffer ++ c.wire =
    Lines.stream (body answers) newline (c.written.drop c.returned.length)

theorem lineByLine_write {c c' : Connection ι} {call : ι} (hc : LineByLine answers c)
    (h : c.write answers call = some c') : LineByLine answers c' := by
  unfold write at h
  split at h
  · cases h
  · cases h
    have hcount := hc.count
    refine ⟨?_, ?_, ?_⟩
    · rw [List.length_append]
      exact Nat.le_trans hcount (Nat.le_add_right _ _)
    · rw [List.take_append_of_le_length hcount]
      exact hc.lines
    · rw [List.drop_append_of_le_length hcount, Lines.stream_snoc, ← hc.rest]
      simp only [List.append_assoc]

omit [DecidableEq ι] in
theorem lineByLine_read {c : Connection ι} {call : ι} {fills : List ℕ}
    {line buffer wire : List (Tagged ι)} (hc : LineByLine answers c)
    (h : Lines.readLine isEnd fills [] c.buffer c.wire = some (line, buffer, wire)) :
    LineByLine answers
      { c with returned := c.returned ++ [(call, line)], buffer := buffer, wire := wire } := by
  obtain ⟨front, rfl, hcut⟩ := Lines.readLine_cut h
  rw [hc.rest] at hcut
  cases hnext : c.written.drop c.returned.length with
  | nil =>
    rw [hnext] at hcut
    cases hcut
  | cons next others =>
    have hlt : c.returned.length < c.written.length := by
      by_contra hle
      rw [List.drop_eq_nil_of_le (by omega)] at hnext
      cases hnext
    rw [List.drop_eq_getElem_cons hlt] at hnext
    obtain ⟨hget, hdrop⟩ := List.cons.inj hnext
    rw [List.drop_eq_getElem_cons hlt, (framed answers).cut_stream, hget] at hcut
    obtain ⟨hline, hrest⟩ := Prod.mk.inj (Option.some.inj hcut)
    refine ⟨?_, ?_, ?_⟩
    · rw [List.length_append, List.length_singleton]
      exact hlt
    · rw [List.length_append, List.length_singleton, List.take_succ_eq_append_getElem hlt,
        List.map_append, List.map_append, hc.lines, hget, ← hline]
      rfl
    · rw [List.length_append, List.length_singleton]
      exact hrest.symm

/-- **What is on the stream in the Android app.** -/
theorem android_inv {steps : List (RelayStep ι (List ℕ))} {c : Connection ι}
    (h : start.run (androidStep answers) steps = some c) :
    Calls steps c ∧ LineByLine answers c := by
  refine run_induction (Q := fun steps c => Calls steps c ∧ LineByLine answers c)
    ⟨calls_start, ⟨Nat.le_refl 0, rfl, rfl⟩⟩ ?_ h
  rintro steps c a c' ⟨hcalls, hlines⟩ hstep
  cases a with
  | write call => exact ⟨calls_write hcalls hstep, lineByLine_write hlines hstep⟩
  | read call fills =>
    unfold androidStep at hstep
    dsimp only at hstep
    split at hstep
    · cases hread : Lines.readLine isEnd fills [] c.buffer c.wire with
      | none =>
        rw [hread] at hstep
        cases hstep
      | some r =>
        obtain ⟨line, buffer, wire⟩ := r
        rw [hread] at hstep
        cases hstep
        exact ⟨calls_read hcalls call fills line buffer wire, lineByLine_read hlines hread⟩
    · cases hstep

/-- In the Android app calls get their own answers exactly if they read in the order in which
    they wrote. -/
theorem android_ownAnswers_iff {steps : List (RelayStep ι (List ℕ))} {c : Connection ι}
    (h : start.run (androidStep answers) steps = some c) :
    c.OwnAnswers answers ↔ readsOf steps <+: writesOf steps := by
  obtain ⟨hcalls, hlines⟩ := android_inv h
  rw [← hcalls.written, ← hcalls.done]
  have hcontent : ∀ p ∈ c.returned, Lines.content isEnd p.2 = p.2 := by
    intro p hp
    have hmem : p.2 ∈ c.returned.map Prod.snd := List.mem_map.mpr ⟨p, hp, rfl⟩
    rw [hlines.lines] at hmem
    obtain ⟨call, -, hcall⟩ := List.mem_map.mp hmem
    rw [← hcall]
    exact (framed answers).content_body call
  have hlen : c.done.length = c.returned.length := List.length_map _
  constructor
  · intro hown
    have hbodies : c.done.map (body answers) =
        (c.written.take c.returned.length).map (body answers) := by
      rw [← hlines.lines, done, List.map_map]
      refine List.map_congr_left fun p hp => ?_
      exact (hown.own p hp).symm.trans (hcontent p hp)
    rw [List.map_injective_iff.mpr body_injective hbodies]
    exact List.take_prefix _ _
  · intro hfront
    have hdone : c.done = c.written.take c.returned.length := by
      rw [← hlen]
      exact List.prefix_iff_eq_take.mp hfront
    refine ⟨?_, ?_⟩
    · intro p hp
      have hbodies : c.returned.map Prod.snd = c.returned.map fun p => body answers p.1 := by
        rw [hlines.lines, ← hdone, done, List.map_map]
        rfl
      rw [hcontent p hp]
      exact List.map_inj_left.mp hbodies p hp
    · rw [hlines.rest, (framed answers).content_stream, filter_not_mem_front hcalls.nodup hfront,
        hlen]

/-! ## iOS -/

omit [DecidableEq ι] in
theorem stream_length (calls : List ι) :
    (Lines.stream (body answers) newline calls).length = sizeOf answers calls := by
  unfold Lines.stream sizeOf body
  rw [List.length_flatMap]
  simp

/-- **Each read takes some bytes**: together with what is on its way, what was taken is the
    stream of all answers. -/
structure PartByPart (answers : ι → Answer) (steps : List (RelayStep ι ℕ)) (c : Connection ι) :
    Prop where
  buffer : c.buffer = []
  sizes : c.returned.map (·.2.length) = howsOf steps
  stream : (c.returned.map Prod.snd).flatten ++ c.wire =
    Lines.stream (body answers) newline c.written

theorem partByPart_write {steps : List (RelayStep ι ℕ)} {c c' : Connection ι} {call : ι}
    (hc : PartByPart answers steps c) (h : c.write answers call = some c') :
    PartByPart answers (steps ++ [.write call]) c' := by
  unfold write at h
  split at h
  · cases h
  · cases h
    refine ⟨hc.buffer, ?_, ?_⟩
    · refine hc.sizes.trans ?_
      rw [howsOf, howsOf, List.filterMap_append]
      exact (List.append_nil _).symm
    · rw [Lines.stream_snoc, ← hc.stream]
      simp only [List.append_assoc]

omit [DecidableEq ι] in
theorem partByPart_read {steps : List (RelayStep ι ℕ)} {c : Connection ι} (call : ι) {n : ℕ}
    (hc : PartByPart answers steps c) (hn : n ≤ c.wire.length) :
    PartByPart answers (steps ++ [.read call n])
      { c with returned := c.returned ++ [(call, c.wire.take n)], wire := c.wire.drop n } := by
  refine ⟨hc.buffer, ?_, ?_⟩
  · rw [List.map_append, hc.sizes, howsOf, howsOf, List.filterMap_append, List.map_singleton,
      List.length_take_of_le hn]
    rfl
  · rw [List.map_append, List.flatten_append, ← hc.stream, List.append_assoc]
    simp

/-- **What is on the stream in the iOS app.** -/
theorem ios_inv {steps : List (RelayStep ι ℕ)} {c : Connection ι}
    (h : start.run (iosStep answers) steps = some c) :
    Calls steps c ∧ PartByPart answers steps c := by
  refine run_induction (Q := fun steps c => Calls steps c ∧ PartByPart answers steps c)
    ⟨calls_start, ⟨rfl, rfl, rfl⟩⟩ ?_ h
  rintro steps c a c' ⟨hcalls, hparts⟩ hstep
  cases a with
  | write call => exact ⟨calls_write hcalls hstep, partByPart_write hparts hstep⟩
  | read call n =>
    unfold iosStep at hstep
    dsimp only at hstep
    split at hstep
    · split at hstep
      · next hn =>
        cases hstep
        exact ⟨calls_read hcalls call n (c.wire.take n) c.buffer (c.wire.drop n),
          partByPart_read call hparts hn.2.2⟩
      · cases hstep
    · cases hstep

omit [DecidableEq ι] in
/-- The content of the first parts, read off the stream. -/
theorem content_parts {steps : List (RelayStep ι ℕ)} {c : Connection ι}
    (hc : PartByPart answers steps c) (j : ℕ) :
    ((howsOf steps).take j).sum ≤ (Lines.stream (body answers) newline c.written).length ∧
      Lines.content isEnd ((Lines.stream (body answers) newline c.written).take
          ((howsOf steps).take j).sum) =
        (c.returned.take j).flatMap fun p => Lines.content isEnd p.2 := by
  have hlen : ((c.returned.take j).map Prod.snd).flatten.length = ((howsOf steps).take j).sum := by
    rw [List.length_flatten, List.map_map, ← hc.sizes, List.map_take]
    rfl
  have hfront : ((c.returned.take j).map Prod.snd).flatten <+:
      Lines.stream (body answers) newline c.written := by
    rw [← hc.stream]
    refine List.IsPrefix.trans ?_ (List.prefix_append _ _)
    refine ⟨((c.returned.drop j).map Prod.snd).flatten, ?_⟩
    rw [← List.flatten_append, ← List.map_append, List.take_append_drop]
  refine ⟨hlen ▸ hfront.length_le, ?_⟩
  rw [← hlen, ← List.prefix_iff_eq_take.mp hfront, Lines.content_flatten, List.flatMap_map]

/-- In the iOS app calls get their own answers exactly if they read in the order in which they
    wrote and each read takes a whole answer. -/
theorem ios_ownAnswers_iff {steps : List (RelayStep ι ℕ)} {c : Connection ι}
    (h : start.run (iosStep answers) steps = some c) :
    c.OwnAnswers answers ↔ readsOf steps <+: writesOf steps ∧ WholeAnswers answers steps := by
  obtain ⟨hcalls, hparts⟩ := ios_inv h
  have hlen : c.done.length = c.returned.length := List.length_map _
  have hfm : ∀ j, (c.done.take j).flatMap (body answers) =
      (c.returned.take j).flatMap fun p => body answers p.1 := by
    intro j
    rw [done, ← List.map_take, List.flatMap_map]
  -- whole answers, said of the content of what the first reads took
  have hwhole : c.done <+: c.written → (WholeAnswers answers steps ↔ ∀ j ≤ c.returned.length,
      ((c.returned.take j).flatMap fun p => Lines.content isEnd p.2) =
        (c.returned.take j).flatMap fun p => body answers p.1) := by
    intro hfront
    unfold WholeAnswers
    rw [← hcalls.done, hlen]
    refine forall₂_congr fun j hj => ?_
    obtain ⟨hle, hcontent⟩ := content_parts hparts j
    have htake : c.done.take j = c.written.take j := by
      rw [List.prefix_iff_eq_take.mp hfront, List.take_take, hlen, Nat.min_eq_left hj]
    rw [← hfm j, htake, ← hcontent, ← hcalls.written, ← stream_length]
    have hsplit := List.take_append_drop j c.written
    rw [← hsplit] at hle
    have := (framed answers).content_take_iff hle
    rw [hsplit] at this
    exact this.symm
  rw [← hcalls.written, ← hcalls.done]
  constructor
  · intro hown
    have hparts' : ∀ j, ((c.returned.take j).flatMap fun p => Lines.content isEnd p.2) =
        (c.returned.take j).flatMap fun p => body answers p.1 := by
      intro j
      rw [List.flatMap_def, List.flatMap_def]
      exact congrArg List.flatten
        (List.map_congr_left fun p hp => hown.own p (List.mem_of_mem_take hp))
    have hfront : c.done <+: c.written := by
      refine (framed answers).front_of_bodies (fun _ _ _ _ => body_owner) ?_
      obtain ⟨-, hcontent⟩ := content_parts hparts c.returned.length
      have hall := hfm c.done.length
      rw [List.take_length, hlen] at hall
      rw [hall, ← hparts', ← hcontent, ← (framed answers).content_stream]
      exact (List.take_prefix _ _).filter _
    exact ⟨hfront, (hwhole hfront).mpr fun j _ => hparts' j⟩
  · rintro ⟨hfront, hw⟩
    have hown : ∀ p ∈ c.returned, Lines.content isEnd p.2 = body answers p.1 :=
      Lines.eq_of_flatMap_take ((hwhole hfront).mp hw)
    refine ⟨hown, ?_⟩
    have hcontent := congrArg (Lines.content isEnd) hparts.stream
    have hdone : Lines.content isEnd (c.returned.map Prod.snd).flatten =
        c.done.flatMap (body answers) := by
      rw [Lines.content_flatten, List.flatMap_map, done, List.flatMap_map, List.flatMap_def,
        List.flatMap_def]
      exact congrArg List.flatten (List.map_congr_left hown)
    have hwritten : c.written.flatMap (body answers) = c.done.flatMap (body answers) ++
        (c.written.drop c.done.length).flatMap (body answers) := by
      obtain ⟨rest, hrest⟩ := hfront
      rw [← hrest, List.drop_left, List.flatMap_append]
    rw [Lines.content_append, (framed answers).content_stream, hdone, hwritten] at hcontent
    rw [hparts.buffer, List.nil_append, List.append_cancel_left hcontent,
      filter_not_mem_front hcalls.nodup hfront]

/-! ## Own answers -/

/-- **Own answers.** On Android the calls of a run get their own answers exactly if they read in
    the order of their writes; on iOS each read must take one whole answer besides. -/
theorem own_answers_iff (answers : ι → Answer) {steps : List (RelayStep ι (List ℕ))}
    {c : Connection ι} (h : start.run (androidStep answers) steps = some c)
    {steps' : List (RelayStep ι ℕ)} {c' : Connection ι}
    (h' : start.run (iosStep answers) steps' = some c') :
    (c.OwnAnswers answers ↔ readsOf steps <+: writesOf steps) ∧
      (c'.OwnAnswers answers ↔
        readsOf steps' <+: writesOf steps' ∧ WholeAnswers answers steps') :=
  ⟨android_ownAnswers_iff h, ios_ownAnswers_iff h'⟩

/-! ### A poll and a send -/

inductive PollOrSend
  | poll
  | send
  deriving DecidableEq, Repr

def asciiBytes (text : String) : Bytes := text.toList.map fun ch => UInt8.ofNat ch.toNat

def okAnswers : PollOrSend → Answer
  | .poll => ⟨asciiBytes "\x7b\"status\":\"ok\",\"data\":\x7b\"messages\":[]\x7d\x7d",
      by decide +kernel, by decide +kernel⟩
  | .send => ⟨asciiBytes "\x7b\"status\":\"ok\"\x7d", by decide +kernel, by decide +kernel⟩

/-- The poll writes, the send writes, then each of the two reads, the send first or last. -/
def sendFirst {ρ : Type} (first : Bool) (ofPoll ofSend : ρ) : List (RelayStep PollOrSend ρ) :=
  [.write .poll, .write .send] ++
    if first then [.read .send ofSend, .read .poll ofPoll]
    else [.read .poll ofPoll, .read .send ofSend]

theorem own_answers_in_order :
    ∃ c c', start.run (androidStep okAnswers) (sendFirst false [3, 52] []) = some c ∧
      start.run (iosStep okAnswers) (sendFirst false 39 15) = some c' ∧
      c.OwnAnswers okAnswers ∧ c'.OwnAnswers okAnswers := by
  obtain ⟨c, hc⟩ : ∃ c, start.run (androidStep okAnswers) (sendFirst false [3, 52] []) = some c :=
    Option.isSome_iff_exists.mp (by decide)
  obtain ⟨c', hc'⟩ : ∃ c', start.run (iosStep okAnswers) (sendFirst false 39 15) = some c' :=
    Option.isSome_iff_exists.mp (by decide)
  obtain ⟨hown, hown'⟩ := own_answers_iff okAnswers hc hc'
  exact ⟨c, c', hc, hc', hown.mpr (by decide), hown'.mpr ⟨by decide, by
    unfold WholeAnswers
    decide⟩⟩

/-- A send that reads before the poll that wrote first gets the poll's mail, in both apps. -/
theorem answers_swapped :
    (∃ c, start.run (androidStep okAnswers) (sendFirst true [] [55]) = some c ∧
      (c.returned.map fun p => (p.1, p.2.map Prod.fst == List.replicate 38 PollOrSend.poll)) =
        [(.send, true), (.poll, false)] ∧ ¬ c.OwnAnswers okAnswers) ∧
    ∃ c, start.run (iosStep okAnswers) (sendFirst true 16 38) = some c ∧
      ¬ c.OwnAnswers okAnswers := by
  obtain ⟨c, hc⟩ : ∃ c, start.run (androidStep okAnswers) (sendFirst true [] [55]) = some c :=
    Option.isSome_iff_exists.mp (by decide)
  obtain ⟨c', hc'⟩ : ∃ c', start.run (iosStep okAnswers) (sendFirst true 16 38) = some c' :=
    Option.isSome_iff_exists.mp (by decide)
  refine ⟨⟨c, hc, ?_, fun hown => ?_⟩, c', hc', fun hown => ?_⟩
  · cases hc
    decide
  · exact absurd ((android_ownAnswers_iff hc).mp hown) (by decide)
  · exact absurd ((ios_ownAnswers_iff hc').mp hown).1 (by decide)

/-- In the iOS app an answer in two segments is enough: the first part is handed over as the
    answer of a call that nothing interleaved with. -/
theorem answer_split :
    ∃ c, start.run (iosStep okAnswers) [.write .send, .read .send 7] = some c ∧
      ¬ c.OwnAnswers okAnswers := by
  obtain ⟨c, hc⟩ : ∃ c, start.run (iosStep okAnswers) [.write .send, .read .send 7] = some c :=
    Option.isSome_iff_exists.mp (by decide)
  refine ⟨c, hc, fun hown => ?_⟩
  have hwhole := ((ios_ownAnswers_iff hc).mp hown).2 1 (by decide)
  exact absurd hwhole (by decide)

end Connection

end TinTin.Apps
