/-
  The relay's end of its TCP connections: `handle_client`, for any number of connections at once.

  A connection reads a line when it has none in work, trims it, skips it if it is blank, has
  `handle_command` answer it and writes the answer as one line. It ends where its peer has closed
  and everything is read, or at a line that is not UTF-8. Bytes come in any portions, and the
  handlers' calls of the store in any order.

  * `commands`: the commands in a stream of bytes, however it is cut into portions.
  * `serves`: every run gives each connection the answers to its commands in their order, one line
    each, and these answers and the database are those of the commands done one after the other.
-/
import TinTin.Apps.InputLine
import TinTin.Cli.WireText
import TinTin.Lib.Lines
import TinTin.Server.Serial

namespace TinTin.Apps.Sockets

open TinTin.Lib TinTin.Lib.Lines TinTin.Core TinTin.Cli TinTin.Server TinTin.Server.Service

/-! ## Texts -/

/-- What the libraries say of an error. -/
structure Complaints where
  serde : String → String
  sqlite : DbError → String

/-- The relay's texts are those of `serde_json`. -/
def texts (F : Floats) (E : Complaints) : Texts where
  toRelaySerde := (WireText.serdeJson F).toRelaySerde
  value := Json.fromStr F
  bundle b := (WireText.preKeyBundle.codec.encode b).toText F
  serdeSays := E.serde
  sqliteSays := E.sqlite

/-- `format!("{json}\n")` -/
def answerLine (F : Floats) (r : ServerResponse) : Bytes := utf8 (r.toJson.toText F) ++ [10]

def isNewline (b : UInt8) : Bool := b = 10

/-- The trimmed text of a line, if it is one. -/
def trimmedLine (line : Bytes) : Option String :=
  (fromUtf8? line).map fun text => String.ofList (trim text.toList)

/-! ## Connections -/

structure Wire where
  /-- all bytes that have come -/
  received : Bytes
  unread : Bytes
  /-- the peer has closed its side -/
  hungUp : Bool
  /-- `handle_client` has returned -/
  closed : Bool
  /-- all bytes that were written -/
  sent : Bytes

def Wire.fresh : Wire := ⟨[], [], false, false, []⟩

/-- What `read_line` does. -/
inductive Reading
  | waits
  | ended
  | line (bytes rest : Bytes)
  deriving DecidableEq, Repr

/-- `read_line`: up to a newline, or to the end of the stream. -/
def Wire.readLine (w : Wire) : Reading :=
  match cut isNewline w.unread with
  | some (line, rest) => .line line rest
  | none =>
    if w.hungUp then
      if w.unread = [] then .ended else .line w.unread []
    else .waits

/-- The handlers at work for the connections, and the connections. -/
structure Relay (ι : Type) where
  floor : Calls.Floor ι Database Task ServerResponse
  wires : ι → Wire

inductive Event (ι : Type)
  | arrive (i : ι) (bytes : Bytes)
  | hangUp (i : ι)
  /-- `handle_client` reads a line -/
  | read (i : ι)
  /-- the handler of a connection calls the store -/
  | call (i : ι)

variable {ι : Type} [DecidableEq ι]

def Relay.start (db : Database) : Relay ι := ⟨.fresh db, fun _ => .fresh⟩

def Relay.setWire (m : Relay ι) (i : ι) (w : Wire) : Relay ι :=
  { m with wires := Function.update m.wires i w }

section Steps

variable (T : Texts) (F : Floats)

inductive Step (m : Relay ι) : Event ι → Relay ι → Prop
  | arrive (i : ι) (bytes : Bytes) (h : (m.wires i).hungUp = false) :
    Step m (.arrive i bytes) (m.setWire i { m.wires i with
      received := (m.wires i).received ++ bytes, unread := (m.wires i).unread ++ bytes })
  | hangUp (i : ι) : Step m (.hangUp i) (m.setWire i { m.wires i with hungUp := true })
  | ended (i : ι) (hfree : m.floor.slots i = none) (hopen : (m.wires i).closed = false)
    (hread : (m.wires i).readLine = .ended) :
    Step m (.read i) (m.setWire i { m.wires i with closed := true })
  | garbled (i : ι) (line rest : Bytes) (hfree : m.floor.slots i = none)
    (hopen : (m.wires i).closed = false) (hread : (m.wires i).readLine = .line line rest)
    (htext : trimmedLine line = none) :
    Step m (.read i) (m.setWire i { m.wires i with unread := rest, closed := true })
  | blank (i : ι) (line rest : Bytes) (hfree : m.floor.slots i = none)
    (hopen : (m.wires i).closed = false) (hread : (m.wires i).readLine = .line line rest)
    (htext : trimmedLine line = some "") :
    Step m (.read i) (m.setWire i { m.wires i with unread := rest })
  | command (i : ι) (line rest : Bytes) (text : String) (world : Ambient)
    (faults : Faults DbError) (floor : Calls.Floor ι Database Task ServerResponse)
    (hopen : (m.wires i).closed = false) (hread : (m.wires i).readLine = .line line rest)
    (htext : trimmedLine line = some text) (hne : text ≠ "")
    (hstep : Calls.Step (Task.call T) Task.begins m.floor
      (.start i (Task.of text world faults)) floor) :
    Step m (.read i) (Relay.setWire ⟨floor, m.wires⟩ i { m.wires i with unread := rest })
  | goes (i : ι) (f : Calls.Flight Task) (t : Task)
    (floor : Calls.Floor ι Database Task ServerResponse) (hf : m.floor.slots i = some f)
    (hnext : (f.now.call T m.floor.state).1 = .inl t)
    (hstep : Calls.Step (Task.call T) Task.begins m.floor (.call i) floor) :
    Step m (.call i) ⟨floor, m.wires⟩
  | answers (i : ι) (f : Calls.Flight Task) (r : ServerResponse)
    (floor : Calls.Floor ι Database Task ServerResponse) (hf : m.floor.slots i = some f)
    (hnext : (f.now.call T m.floor.state).1 = .inr r)
    (hstep : Calls.Step (Task.call T) Task.begins m.floor (.call i) floor) :
    Step m (.call i) (Relay.setWire ⟨floor, m.wires⟩ i
      { m.wires i with sent := (m.wires i).sent ++ answerLine F r })

end Steps

/-! ## The commands of a stream -/

/-- The commands in lines, up to one that is not UTF-8. -/
def commandsIn : List Bytes → List String
  | [] => []
  | line :: lines =>
    match trimmedLine line with
    | none => []
    | some text => if text = "" then commandsIn lines else text :: commandsIn lines

/-- The lines of a stream; the last one may lack its newline. -/
def linesOf (bytes : Bytes) (hungUp : Bool) : List Bytes :=
  (split isNewline bytes).1 ++
    if hungUp ∧ (split isNewline bytes).2 ≠ [] then [(split isNewline bytes).2] else []

/-- The commands of a stream. -/
def commands (bytes : Bytes) (hungUp : Bool) : List String := commandsIn (linesOf bytes hungUp)

/-- What `read_line` returns is the first line of what is unread. -/
theorem linesOf_readLine {w : Wire} {line rest : Bytes} (h : w.readLine = .line line rest) :
    linesOf w.unread w.hungUp = line :: linesOf rest w.hungUp := by
  unfold Wire.readLine at h
  unfold linesOf
  split at h
  · next hcut =>
    cases h
    rw [split_of_cut hcut]
    rfl
  · next hcut =>
    split at h
    · next hup =>
      split at h
      · cases h
      · next hne =>
        cases h
        rw [split_of_cut_none hcut, if_pos ⟨hup, hne⟩]
        simp [split]
    · cases h

theorem linesOf_ended {w : Wire} (h : w.readLine = .ended) :
    w.hungUp = true ∧ linesOf w.unread w.hungUp = [] := by
  unfold Wire.readLine at h
  split at h
  · cases h
  · split at h
    · next hup =>
      split at h
      · next hnil =>
        rw [hnil]
        refine ⟨hup, ?_⟩
        simp [linesOf, split]
      · cases h
    · cases h

theorem commandsIn_blank {line : Bytes} (h : trimmedLine line = some "") (lines : List Bytes) :
    commandsIn (line :: lines) = commandsIn lines := by
  rw [commandsIn, h]
  exact if_pos rfl

theorem commandsIn_command {line : Bytes} {text : String} (h : trimmedLine line = some text)
    (hne : text ≠ "") (lines : List Bytes) :
    commandsIn (line :: lines) = text :: commandsIn lines := by
  rw [commandsIn, h]
  exact if_neg hne

theorem commandsIn_garbled {line : Bytes} (h : trimmedLine line = none) (lines : List Bytes) :
    commandsIn (line :: lines) = [] := by
  rw [commandsIn, h]

/-- What has been read of a stream, and the commands in it. -/
def Readable (gone : List Bytes) (taken : List String) : Prop :=
  ∀ lines, commandsIn (gone ++ lines) = taken ++ commandsIn lines

theorem readable_nil : Readable [] [] := fun _ => rfl

theorem Readable.blank {gone : List Bytes} {taken : List String} (h : Readable gone taken)
    {line : Bytes} (hline : trimmedLine line = some "") : Readable (gone ++ [line]) taken := by
  intro lines
  rw [List.append_assoc, List.singleton_append, h, commandsIn_blank hline]

theorem Readable.command {gone : List Bytes} {taken : List String} (h : Readable gone taken)
    {line : Bytes} {text : String} (hline : trimmedLine line = some text) (hne : text ≠ "") :
    Readable (gone ++ [line]) (taken ++ [text]) := by
  intro lines
  rw [List.append_assoc, List.singleton_append, h, commandsIn_command hline hne,
    List.append_assoc, List.singleton_append]

/-- The lines of a stream are those that were read and those that are not yet; what comes later
    continues what is unread. -/
structure Wire.Cut (w : Wire) (gone : List Bytes) : Prop where
  lines : linesOf w.received w.hungUp = gone ++ linesOf w.unread w.hungUp
  rest : w.hungUp = false → (split isNewline w.received).2 = (split isNewline w.unread).2

theorem linesOf_false (bytes : Bytes) : linesOf bytes false = (split isNewline bytes).1 := by
  simp [linesOf]

theorem Wire.Cut.arrive {w : Wire} {gone : List Bytes} (h : w.Cut gone) (hup : w.hungUp = false)
    (bytes : Bytes) :
    ({ w with received := w.received ++ bytes, unread := w.unread ++ bytes } : Wire).Cut gone := by
  obtain ⟨received, unread, hungUp, closed, sent⟩ := w
  obtain ⟨hlines, hrest⟩ := h
  dsimp only at hup hlines hrest
  subst hup
  rw [linesOf_false, linesOf_false] at hlines
  have htail := hrest rfl
  constructor
  · dsimp only
    rw [linesOf_false, linesOf_false, split_append received, split_append unread, hlines, htail,
      List.append_assoc]
  · intro _
    dsimp only
    rw [split_append received, split_append unread, htail]

theorem Wire.Cut.hangUp {w : Wire} {gone : List Bytes} (h : w.Cut gone) :
    ({ w with hungUp := true } : Wire).Cut gone := by
  obtain ⟨received, unread, hungUp, closed, sent⟩ := w
  obtain ⟨hlines, hrest⟩ := h
  cases hungUp with
  | true => exact ⟨hlines, hrest⟩
  | false =>
    dsimp only at hlines hrest
    rw [linesOf_false, linesOf_false] at hlines
    refine ⟨?_, nofun⟩
    unfold linesOf
    rw [hlines, hrest rfl, List.append_assoc]

theorem Wire.Cut.read {w : Wire} {gone : List Bytes} (h : w.Cut gone) {line rest : Bytes}
    (hread : w.readLine = .line line rest) :
    ({ w with unread := rest } : Wire).Cut (gone ++ [line]) := by
  refine ⟨?_, fun hup => ?_⟩
  · dsimp only
    rw [h.lines, linesOf_readLine hread, List.append_assoc, List.singleton_append]
  · dsimp only at hup ⊢
    rw [h.rest hup]
    unfold Wire.readLine at hread
    split at hread
    · next hcut =>
      cases hread
      rw [split_of_cut hcut]
    · rw [hup] at hread
      cases hread

/-- More of a stream leaves its lines as they are. -/
theorem linesOf_more (received bytes : Bytes) :
    ∃ more, linesOf (received ++ bytes) false = linesOf received false ++ more := by
  rw [linesOf_false, linesOf_false, split_append]
  exact ⟨_, rfl⟩

theorem linesOf_hungUp (received : Bytes) (hungUp : Bool) :
    ∃ more, linesOf received true = linesOf received hungUp ++ more := by
  cases hungUp with
  | true => exact ⟨[], (List.append_nil _).symm⟩
  | false =>
    rw [linesOf_false]
    exact ⟨_, rfl⟩

/-! ## One connection -/

/-- The commands that a connection has taken up: those of the lines it has read, and all of its
    stream if it has ended. -/
inductive Wire.Took (w : Wire) (taken : List String) : Prop
  | reading (gone : List Bytes) (hopen : w.closed = false) (hcut : w.Cut gone)
    (h : Readable gone taken)
  | done (hclosed : w.closed = true) (hup : w.hungUp = true)
    (hall : commands w.received true = taken)
  | failed (gone later : List Bytes) (line : Bytes) (hclosed : w.closed = true)
    (hlines : linesOf w.received w.hungUp = gone ++ line :: later) (h : Readable gone taken)
    (hbad : trimmedLine line = none)

theorem Readable.garbled {gone : List Bytes} {taken : List String} (h : Readable gone taken)
    {line : Bytes} (hbad : trimmedLine line = none) (later : List Bytes) :
    commandsIn (gone ++ line :: later) = taken := by
  rw [h, commandsIn_garbled hbad, List.append_nil]

/-- **The commands of a stream are those taken up, and those to come.** -/
theorem Wire.Took.commands {w : Wire} {taken : List String} (h : w.Took taken) :
    commands w.received w.hungUp =
      taken ++ if w.closed then [] else Sockets.commands w.unread w.hungUp := by
  cases h with
  | reading gone hopen hcut h =>
    rw [hopen]
    unfold Sockets.commands
    rw [hcut.lines, h]
    rfl
  | done hclosed hup hall =>
    rw [hclosed, hup, hall]
    exact (List.append_nil _).symm
  | failed gone later line hclosed hlines h hbad =>
    rw [hclosed]
    unfold Sockets.commands
    rw [hlines, h.garbled hbad]
    exact (List.append_nil _).symm

theorem took_fresh : Wire.fresh.Took [] :=
  .reading [] rfl ⟨rfl, fun _ => rfl⟩ readable_nil

theorem Wire.Took.arrive {w : Wire} {taken : List String} (h : w.Took taken)
    (hup : w.hungUp = false) (bytes : Bytes) :
    ({ w with received := w.received ++ bytes, unread := w.unread ++ bytes } : Wire).Took taken := by
  cases h with
  | reading gone hopen hcut h => exact .reading gone hopen (hcut.arrive hup bytes) h
  | done hclosed hup' _ =>
    rw [hup] at hup'
    cases hup'
  | failed gone later line hclosed hlines h hbad =>
    rw [hup] at hlines
    obtain ⟨more, hmore⟩ := linesOf_more w.received bytes
    refine .failed gone (later ++ more) line hclosed ?_ h hbad
    dsimp only
    rw [hup, hmore, hlines, List.append_assoc, List.cons_append]

theorem Wire.Took.hangUp {w : Wire} {taken : List String} (h : w.Took taken) :
    ({ w with hungUp := true } : Wire).Took taken := by
  cases h with
  | reading gone hopen hcut h => exact .reading gone hopen hcut.hangUp h
  | done hclosed hup hall => exact .done hclosed rfl hall
  | failed gone later line hclosed hlines h hbad =>
    obtain ⟨more, hmore⟩ := linesOf_hungUp w.received w.hungUp
    refine .failed gone (later ++ more) line hclosed ?_ h hbad
    dsimp only
    rw [hmore, hlines, List.append_assoc, List.cons_append]

/-- An open connection is reading. -/
theorem Wire.Took.open {w : Wire} {taken : List String} (h : w.Took taken)
    (hopen : w.closed = false) : ∃ gone, w.Cut gone ∧ Readable gone taken := by
  cases h with
  | reading gone _ hcut h => exact ⟨gone, hcut, h⟩
  | done hclosed _ _ =>
    rw [hopen] at hclosed
    cases hclosed
  | failed _ _ _ hclosed _ _ _ =>
    rw [hopen] at hclosed
    cases hclosed

theorem Wire.Took.ended {w : Wire} {taken : List String} (h : w.Took taken)
    (hopen : w.closed = false) (hread : w.readLine = .ended) :
    ({ w with closed := true } : Wire).Took taken := by
  obtain ⟨gone, hcut, h⟩ := h.open hopen
  obtain ⟨hup, hnone⟩ := linesOf_ended hread
  refine .done rfl hup ?_
  have hlines := hcut.lines
  rw [hnone, hup, List.append_nil] at hlines
  unfold Sockets.commands
  dsimp only
  rw [hlines]
  have hall := h []
  rw [List.append_nil] at hall
  rw [hall]
  exact List.append_nil taken

theorem Wire.Took.garbled {w : Wire} {taken : List String} (h : w.Took taken)
    (hopen : w.closed = false) {line rest : Bytes} (hread : w.readLine = .line line rest)
    (hbad : trimmedLine line = none) :
    ({ w with unread := rest, closed := true } : Wire).Took taken := by
  obtain ⟨gone, hcut, h⟩ := h.open hopen
  refine .failed gone (linesOf rest w.hungUp) line rfl ?_ h hbad
  dsimp only
  rw [hcut.lines, linesOf_readLine hread]

theorem Wire.Took.blank {w : Wire} {taken : List String} (h : w.Took taken)
    (hopen : w.closed = false) {line rest : Bytes} (hread : w.readLine = .line line rest)
    (htext : trimmedLine line = some "") : ({ w with unread := rest } : Wire).Took taken := by
  obtain ⟨gone, hcut, h⟩ := h.open hopen
  exact .reading _ hopen (hcut.read hread) (h.blank htext)

theorem Wire.Took.command {w : Wire} {taken : List String} (h : w.Took taken)
    (hopen : w.closed = false) {line rest : Bytes} (hread : w.readLine = .line line rest)
    {text : String} (htext : trimmedLine line = some text) (hne : text ≠ "") :
    ({ w with unread := rest } : Wire).Took (taken ++ [text]) := by
  obtain ⟨gone, hcut, h⟩ := h.open hopen
  exact .reading _ hopen (hcut.read hread) (h.command htext hne)

theorem Wire.Took.sent {w : Wire} {taken : List String} (h : w.Took taken) (bytes : Bytes) :
    ({ w with sent := bytes } : Wire).Took taken := by
  cases h with
  | reading gone hopen hcut h => exact .reading gone hopen ⟨hcut.lines, hcut.rest⟩ h
  | done hclosed hup hall => exact .done hclosed hup hall
  | failed gone later line hclosed hlines h hbad =>
    exact .failed gone later line hclosed hlines h hbad

/-! ## Runs -/

/-- The text of the line that a task began with. -/
def lineOf (t : Task) : String :=
  match t.stage with
  | .command line => line
  | _ => ""

/-- The commands taken up are those of the connections' streams, and the answers are written. -/
structure Good (T : Texts) (F : Floats) (db : Database) (m : Relay ι)
    (turns : List (Calls.Turn ι Task)) : Prop where
  floor : Runs T (.fresh db) turns m.floor
  lines : ∀ i, ∀ t ∈ Calls.startedIn i turns, ∃ text world faults, t = Task.of text world faults
  took : ∀ i, (m.wires i).Took ((Calls.startedIn i turns).map lineOf)
  sent : ∀ i, (m.wires i).sent = (Calls.resultsIn i m.floor.ended).flatMap (answerLine F)

variable {T : Texts} {F : Floats} {db : Database}

/-- A change to one connection that starts nothing and answers nothing. -/
theorem Good.setWire {m : Relay ι} {turns : List (Calls.Turn ι Task)} (h : Good T F db m turns)
    (i : ι) {w : Wire} (htook : ∀ taken, (m.wires i).Took taken → w.Took taken)
    (hsent : w.sent = (m.wires i).sent) : Good T F db (m.setWire i w) turns := by
  refine ⟨h.floor, h.lines, fun j => ?_, fun j => ?_⟩
  · by_cases hj : j = i
    · subst hj
      change (Function.update m.wires j w j).Took _
      rw [Function.update_self]
      exact htook _ (h.took j)
    · change (Function.update m.wires i w j).Took _
      rw [Function.update_of_ne hj]
      exact h.took j
  · by_cases hj : j = i
    · subst hj
      change (Function.update m.wires j w j).sent = _
      rw [Function.update_self, hsent]
      exact h.sent j
    · change (Function.update m.wires i w j).sent = _
      rw [Function.update_of_ne hj]
      exact h.sent j

theorem startedIn_start (i j : ι) (turns : List (Calls.Turn ι Task)) (t : Task) :
    Calls.startedIn j (turns ++ [.start i t]) =
      Calls.startedIn j turns ++ if i = j then [t] else [] := by
  rw [Calls.startedIn_snoc]
  by_cases hj : i = j <;> simp [Calls.startedIn, hj]

theorem startedIn_call (i j : ι) (turns : List (Calls.Turn ι Task)) :
    Calls.startedIn j (turns ++ [.call i]) = Calls.startedIn j turns := by
  rw [Calls.startedIn_snoc]
  exact List.append_nil _

/-- A command is taken up. -/
theorem Good.command {m : Relay ι} {turns : List (Calls.Turn ι Task)} (h : Good T F db m turns)
    {i : ι} {line rest : Bytes} {text : String} {world : Ambient} {faults : Faults DbError}
    {floor : Calls.Floor ι Database Task ServerResponse} (hopen : (m.wires i).closed = false)
    (hread : (m.wires i).readLine = .line line rest) (htext : trimmedLine line = some text)
    (hne : text ≠ "") (hstep : Calls.Step (Task.call T) Task.begins m.floor
      (.start i (Task.of text world faults)) floor) :
    Good T F db (Relay.setWire ⟨floor, m.wires⟩ i { m.wires i with unread := rest })
      (turns ++ [.start i (Task.of text world faults)]) := by
  refine ⟨h.floor.snoc hstep, fun j t ht => ?_, fun j => ?_, fun j => ?_⟩
  · rw [startedIn_start] at ht
    rcases List.mem_append.mp ht with ht | ht
    · exact h.lines j t ht
    · split at ht
      · exact ⟨text, world, faults, List.mem_singleton.mp ht⟩
      · exact absurd ht List.not_mem_nil
  · rw [startedIn_start]
    by_cases hj : i = j
    · subst hj
      rw [if_pos rfl, List.map_append]
      change (Function.update m.wires i _ i).Took _
      rw [Function.update_self]
      exact (h.took i).command hopen hread htext hne
    · rw [if_neg hj, List.append_nil]
      change (Function.update m.wires i _ j).Took _
      rw [Function.update_of_ne (Ne.symm hj)]
      exact h.took j
  · have hended : floor.ended = m.floor.ended := by
      cases hstep
      rfl
    change (Function.update m.wires i _ j).sent = (Calls.resultsIn j floor.ended).flatMap _
    rw [hended, ← h.sent j]
    by_cases hj : i = j
    · subst hj
      rw [Function.update_self]
    · rw [Function.update_of_ne (Ne.symm hj)]

/-- **One event**, a case for each. -/
theorem Good.step {m m' : Relay ι} {e : Event ι} {turns : List (Calls.Turn ι Task)}
    (h : Good T F db m turns) (hstep : Step T F m e m') : ∃ turns', Good T F db m' turns' := by
  cases hstep with
  | arrive i bytes hup => exact ⟨turns, h.setWire i (fun _ ht => ht.arrive hup bytes) rfl⟩
  | hangUp i => exact ⟨turns, h.setWire i (fun _ ht => ht.hangUp) rfl⟩
  | ended i _ hopen hread => exact ⟨turns, h.setWire i (fun _ ht => ht.ended hopen hread) rfl⟩
  | garbled i line rest _ hopen hread htext =>
    exact ⟨turns, h.setWire i (fun _ ht => ht.garbled hopen hread htext) rfl⟩
  | blank i line rest _ hopen hread htext =>
    exact ⟨turns, h.setWire i (fun _ ht => ht.blank hopen hread htext) rfl⟩
  | command i line rest text world faults floor hopen hread htext hne hstep =>
    exact ⟨_, h.command hopen hread htext hne hstep⟩
  | goes i f t floor hf hnext hstep =>
    refine ⟨turns ++ [.call i], h.floor.snoc hstep, fun j => ?_, fun j => ?_, fun j => ?_⟩
    · rw [startedIn_call]
      exact h.lines j
    · rw [startedIn_call]
      exact h.took j
    · rw [hstep.results_of_inl hf hnext]
      exact h.sent j
  | answers i f r floor hf hnext hstep =>
    refine ⟨turns ++ [.call i], h.floor.snoc hstep, fun j => ?_, fun j => ?_, fun j => ?_⟩
    · rw [startedIn_call]
      exact h.lines j
    · rw [startedIn_call]
      by_cases hj : i = j
      · subst hj
        change (Function.update m.wires i _ i).Took _
        rw [Function.update_self]
        exact (h.took i).sent _
      · change (Function.update m.wires i _ j).Took _
        rw [Function.update_of_ne (Ne.symm hj)]
        exact h.took j
    · change (Function.update m.wires i _ j).sent = (Calls.resultsIn j floor.ended).flatMap _
      rw [hstep.results_of_inr hf hnext]
      by_cases hj : i = j
      · subst hj
        rw [Function.update_self, if_pos rfl, List.flatMap_append, ← h.sent i]
        simp
      · rw [Function.update_of_ne (Ne.symm hj), if_neg hj, List.append_nil]
        exact h.sent j

/-- What a connection has got for what it has sent. -/
structure Served (F : Floats) (m : Relay ι) (i : ι) (tasks : List Task) : Prop where
  lines : ∀ t ∈ tasks, ∃ text world faults, t = Task.of text world faults
  commands : commands (m.wires i).received (m.wires i).hungUp = tasks.map lineOf ++
    if (m.wires i).closed then [] else commands (m.wires i).unread (m.wires i).hungUp
  /-- each command has its answer, the last one maybe not yet -/
  thread : Calls.Thread tasks (Calls.endedIn i m.floor.ended)
    ((m.floor.slots i).map Calls.Flight.began)
  sent : (m.wires i).sent = (Calls.resultsIn i m.floor.ended).flatMap (answerLine F)

/-- **The relay serves its connections**: whatever portions the bytes come in, and however the
    handlers take turns, each connection is sent the answers to the commands in its stream, in
    their order, as those answers are when all commands are done one after the other. -/
theorem serves (T : Texts) (F : Floats) {db : Database} {events : List (Event ι)} {m : Relay ι}
    (hrun : Path (Step T F) (.start db) events m) :
    Calls.Serial (Task.call T) Task.begins db m.floor.ended m.floor.state ∧
      ∀ i, ∃ tasks, Served F m i tasks := by
  obtain ⟨turns, hgood⟩ := hrun.invariant (I := fun m => ∃ turns, Good T F db m turns)
    (fun _ _ _ ⟨turns, h⟩ hstep => h.step hstep)
    ⟨[], .nil _, fun _ _ ht => absurd ht List.not_mem_nil, fun _ => took_fresh, fun _ => rfl⟩
  obtain ⟨hserial, hthread⟩ := serializable T hgood.floor
  exact ⟨hserial, fun i => ⟨Calls.startedIn i turns, hgood.lines i, (hgood.took i).commands,
    hthread i, hgood.sent i⟩⟩

/-- A connection that lists the channels, in two portions, and closes. -/
def listEvents : List (Event ℕ) :=
  [.arrive 0 ((utf8 listChannels).take 5), .arrive 0 ((utf8 listChannels).drop 5 ++ [10]), .read 0,
    .call 0, .hangUp 0, .read 0]

theorem listEvents_run : ∃ m, Path (Step newsTexts wholeNumbers) (.start .empty) listEvents m := by
  refine ⟨_, .cons (.arrive 0 _ rfl) (.cons (.arrive 0 _ rfl) (.cons
    (.command 0 (utf8 listChannels) [] listChannels noon Auto.faultless _ rfl ?_ ?_ ?_
      (.start 0 _ rfl rfl))
    (.cons (.answers 0 _ _ _ rfl rfl (.finish 0 _ _ _ rfl rfl)) (.cons (.hangUp 0)
      (.cons (.ended 0 rfl rfl rfl) (.nil _))))))⟩
  · decide +kernel
  · decide +kernel
  · decide +kernel

theorem serves_list : ∃ m, Path (Step newsTexts wholeNumbers) (.start .empty) listEvents m ∧
    Calls.Serial (Task.call newsTexts) Task.begins .empty m.floor.ended m.floor.state ∧
      ∀ i, ∃ tasks, Served wholeNumbers m i tasks := by
  obtain ⟨m, hrun⟩ := listEvents_run
  exact ⟨m, hrun, serves newsTexts wholeNumbers hrun⟩

end TinTin.Apps.Sockets
