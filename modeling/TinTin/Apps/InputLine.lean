/-
  What a line typed at the prompt makes the terminal client do, for `/group`, `/channel` and
  `/poll`.

  The line is trimmed and its command taken off; the rest is split at spaces, into three pieces at
  most for `/group` and `/channel` and four for `/poll`. The first piece is the subcommand, and
  `create` reads its text from the second one alone.

  * `pollCommand_vote`: the vote command asks for the poll and the option of the numbers given.
-/
import TinTin.Apps.Requests
import TinTin.Cli.Contact
import Mathlib.Data.List.DropRight

namespace TinTin.Apps

open TinTin.Lib TinTin.Cli

/-! ## Text -/

/-- `char::is_whitespace` -/
def isWhiteSpace (c : Char) : Bool :=
  (9 ≤ c.toNat && c.toNat ≤ 13) || c.toNat == 0x20 || c.toNat == 0x85 || c.toNat == 0xA0 ||
    c.toNat == 0x1680 || (0x2000 ≤ c.toNat && c.toNat ≤ 0x200A) || c.toNat == 0x2028 ||
    c.toNat == 0x2029 || c.toNat == 0x202F || c.toNat == 0x205F || c.toNat == 0x3000

/-- `str::trim_end` -/
def trimEnd (text : List Char) : List Char := text.rdropWhile isWhiteSpace

/-- `str::trim` -/
def trim (text : List Char) : List Char := trimEnd (text.dropWhile isWhiteSpace)

/-- The value of one or more decimal digits. -/
def readDigits (digits : List Char) : Option ℕ :=
  if digits ≠ [] ∧ digits.all Char.isDigit then
    some (Nat.ofDigitChars 10 digits 0)
  else none

/-- `str::parse::<i64>` -/
def parseI64 (text : List Char) : Option Int64 :=
  match text with
  | '-' :: digits =>
    (readDigits digits).bind fun n => if n ≤ 2 ^ 63 then some (Int64.ofInt (-n)) else none
  | '+' :: digits =>
    (readDigits digits).bind fun n => if n < 2 ^ 63 then some (Int64.ofInt n) else none
  | digits =>
    (readDigits digits).bind fun n => if n < 2 ^ 63 then some (Int64.ofInt n) else none

example : parseI64 "-42".toList = some (-42) := by decide
example : parseI64 "4 2".toList = none := by decide

/-! ## Commands -/

/-- What a command does. -/
inductive Reaction
  /-- it calls a method of the client -/
  | call (m : Method)
  | sendGroupMessage (groupId text : String)
  | sendChannelMessage (channelId : Int64) (text : String)
  /-- it writes lines to the standard error output -/
  | complain (lines : List String)
  deriving DecidableEq

/-- A subcommand that needs a number. -/
def withId (complaint : String) (text : List Char) (react : Int64 → Reaction) : Reaction :=
  match parseI64 text with
  | some id => react id
  | none => .complain [complaint]

/-- `/group` -/
def groupCommand (rest : List Char) : Reaction :=
  match splitn 3 ' ' rest with
  | [] => .complain ["Usage:", "  /group create <name>", "  /group join <group_id>",
      "  /group leave <group_id>", "  /group send <group_id> <text>"]
  | subcmd :: args =>
    if subcmd = "create".toList then
      match args with
      | [] => .complain ["Usage: /group create <name>"]
      | name :: _ => .call (.createGroup (String.ofList name))
    else if subcmd = "join".toList then
      match args with
      | [] => .complain ["Usage: /group join <group_id>"]
      | groupId :: _ => .call (.joinGroup (String.ofList groupId))
    else if subcmd = "leave".toList then
      match args with
      | [] => .complain ["Usage: /group leave <group_id>"]
      | groupId :: _ => .call (.leaveGroup (String.ofList groupId))
    else if subcmd = "send".toList then
      match args with
      | groupId :: text :: _ => .sendGroupMessage (String.ofList groupId) (String.ofList text)
      | _ => .complain ["Usage: /group send <group_id> <text>"]
    else .complain ["Unknown group command: " ++ String.ofList subcmd,
      "Available: create, join, leave, send"]

/-- `/channel` -/
def channelCommand (rest : List Char) : Reaction :=
  match splitn 3 ' ' rest with
  | [] => .complain ["Usage:", "  /channel create <name>", "  /channel sub <channel_id>",
      "  /channel unsub <channel_id>", "  /channel send <channel_id> <text>",
      "  /channels                   — List all channels",
      "  /my_channels                — List my subscriptions"]
  | subcmd :: args =>
    if subcmd = "create".toList then
      match args with
      | [] => .complain ["Usage: /channel create <name>"]
      | name :: _ => .call (.createChannel (String.ofList name))
    else if subcmd = "sub".toList ∨ subcmd = "subscribe".toList then
      match args with
      | [] => .complain ["Usage: /channel sub <channel_id>"]
      | cid :: _ => withId "Invalid channel id" cid fun cid => .call (.subscribeChannel cid)
    else if subcmd = "unsub".toList ∨ subcmd = "unsubscribe".toList then
      match args with
      | [] => .complain ["Usage: /channel unsub <channel_id>"]
      | cid :: _ => withId "Invalid channel id" cid fun cid => .call (.unsubscribeChannel cid)
    else if subcmd = "send".toList then
      match args with
      | cid :: text :: _ => withId "Invalid channel id" cid fun cid =>
        .sendChannelMessage cid (String.ofList text)
      | _ => .complain ["Usage: /channel send <channel_id> <text>"]
    else .complain ["Unknown channel command: " ++ String.ofList subcmd,
      "Available: create, sub, unsub, send"]

/-- `/poll` -/
def pollCommand (rest : List Char) : Reaction :=
  match splitn 4 ' ' rest with
  | [] => .complain ["Usage:", "  /poll create <question>|<opt1>|<opt2>|...  — Create poll",
      "  /poll vote <poll_id> <opt_no>            — Vote",
      "  /poll results <poll_id>                  — Show results",
      "  /poll close <poll_id>                    — Close (creator only)",
      "  /polls                                   — List active polls"]
  | subcmd :: args =>
    if subcmd = "create".toList then
      match args with
      | [] => .complain ["Usage: /poll create <question>|<opt1>|<opt2>|..."]
      | text :: _ =>
        match text.splitOn '|' with
        | question :: opt₁ :: opt₂ :: more => .call (.createPoll (String.ofList question)
            ((opt₁ :: opt₂ :: more).map String.ofList))
        | _ => .complain ["Need at least: question|opt1|opt2"]
    else if subcmd = "vote".toList then
      match args with
      | pid :: opt :: _ => withId "Invalid poll id" pid fun pid =>
        withId "Invalid option number" opt fun opt => .call (.votePoll pid opt)
      | _ => .complain ["Usage: /poll vote <poll_id> <option_number>"]
    else if subcmd = "results".toList then
      match args with
      | [] => .complain ["Usage: /poll results <poll_id>"]
      | pid :: _ => withId "Invalid poll id" pid fun pid => .call (.pollResults pid)
    else if subcmd = "close".toList then
      match args with
      | [] => .complain ["Usage: /poll close <poll_id>"]
      | pid :: _ => withId "Invalid poll id" pid fun pid => .call (.closePoll pid)
    else .complain ["Unknown poll command: " ++ String.ofList subcmd,
      "Available: create, vote, results, close"]

/-- What a line does that has one of the three commands. -/
def inputLine (input : String) : Option Reaction :=
  let input := String.ofList (trim input.toList)
  match stripStart "/group " input with
  | some rest => some (groupCommand rest.toList)
  | none =>
    match stripStart "/channel " input with
    | some rest => some (channelCommand rest.toList)
    | none => (stripStart "/poll " input).map fun rest => pollCommand rest.toList

/-! ## Voting -/

theorem space_notMem_of_readDigits {digits : List Char} {n : ℕ} (h : readDigits digits = some n) :
    ' ' ∉ digits := by
  intro hmem
  have hall := (Option.ite_none_right_eq_some.mp h).1.2
  exact absurd (List.all_eq_true.mp hall ' ' hmem) (by decide)

/-- The text of a number has no space in it. -/
theorem space_notMem_of_parse {text : List Char} {i : Int64} (h : parseI64 text = some i) :
    ' ' ∉ text := by
  have hsign : ∀ {c : Char} {digits : List Char} {n : ℕ}, c ≠ ' ' →
      readDigits digits = some n → ' ' ∉ c :: digits := by
    intro c digits n hc hread hmem
    rcases List.mem_cons.mp hmem with hhead | htail
    · exact hc hhead.symm
    · exact space_notMem_of_readDigits hread htail
  unfold parseI64 at h
  split at h
  · obtain ⟨n, hread, -⟩ := Option.bind_eq_some_iff.mp h
    exact hsign (by decide) hread
  · obtain ⟨n, hread, -⟩ := Option.bind_eq_some_iff.mp h
    exact hsign (by decide) hread
  · obtain ⟨n, hread, -⟩ := Option.bind_eq_some_iff.mp h
    exact space_notMem_of_readDigits hread

theorem readDigits_toDigits (n : ℕ) : readDigits (Nat.toDigits 10 n) = some n := by
  unfold readDigits
  rw [if_pos ⟨Nat.toDigits_ne_nil, List.all_eq_true.mpr fun c hc =>
    Nat.isDigit_of_mem_toDigits (by decide) (by decide) hc⟩, Nat.ofDigitChars_ten_toDigits]

/-- Every number has a text. -/
theorem exists_text (i : Int64) : ∃ text, parseI64 text = some i := by
  have hlt := i.toInt_lt
  have hle := i.le_toInt
  by_cases hi : 0 ≤ i.toInt
  · refine ⟨'+' :: Nat.toDigits 10 i.toInt.toNat, ?_⟩
    show (readDigits _).bind _ = some i
    rw [readDigits_toDigits, Option.bind_some, if_pos (by omega), Int.toNat_of_nonneg hi,
      Int64.ofInt_toInt]
  · refine ⟨'-' :: Nat.toDigits 10 (-i.toInt).toNat, ?_⟩
    show (readDigits _).bind _ = some i
    rw [readDigits_toDigits, Option.bind_some, if_pos (by omega), Int.toNat_of_nonneg (by omega),
      Int.neg_neg, Int64.ofInt_toInt]

/-- **The vote command** hands on the two numbers as they are. -/
theorem pollCommand_vote {pid opt : List Char} {p n : Int64} (hp : parseI64 pid = some p)
    (hn : parseI64 opt = some n) :
    pollCommand ("vote".toList ++ ' ' :: (pid ++ ' ' :: opt)) = .call (.votePoll p n) := by
  have hsplit : splitn 4 ' ' ("vote".toList ++ ' ' :: (pid ++ ' ' :: opt)) =
      ["vote".toList, pid, opt] := by
    rw [splitn_cons (by decide), splitn_cons (space_notMem_of_parse hp),
      splitn_of_notMem (space_notMem_of_parse hn)]
  unfold pollCommand
  rw [hsplit]
  dsimp only
  rw [if_neg (by decide), if_pos rfl]
  unfold withId
  rw [hp, hn]

end TinTin.Apps
