/-
  Free text on the command line: `/poll create`, `/group create`, `/channel create`.

  The rest of the line is split at spaces before the command looks at its text, and the text is taken
  from one piece: it ends at its first space.

  * `pollCommand_create`, `groupCommand_create`, `channelCommand_create`: what becomes of the text.
  * `free_text_iff`: the text reaches the call as it was typed, without the white space at its end,
    exactly if there is no space in it.
-/
import TinTin.Apps.InputLine

namespace TinTin.Apps

open TinTin.Lib TinTin.Cli

/-! ## Lines that are typed -/

/-- `read_line`: the input up to its first line break, with this. -/
def readInput (stdin : List Char) : List Char :=
  stdin.takeWhile (· ≠ '\n') ++ (stdin.dropWhile (· ≠ '\n')).take 1

/-- What the prompt does with the next line of the input. -/
def prompt (stdin : List Char) : Option Reaction := inputLine (String.ofList (readInput stdin))

/-- A text without the white space at its end. -/
def trimmed (text : String) : String := String.ofList (trimEnd text.toList)

/-- The text of a poll: the question and the options, with a `|` between them. -/
def pollText (question : String) (options : List String) : List Char :=
  ['|'].intercalate ((question :: options).map String.toList)

theorem readInput_line {line : List Char} (h : '\n' ∉ line) (more : List Char) :
    readInput (line ++ '\n' :: more) = line ++ ['\n'] := by
  have hpass : ∀ c ∈ line, decide (c ≠ '\n') = true := by
    intro c hc
    rw [decide_eq_true_iff]
    rintro rfl
    exact h hc
  unfold readInput
  rw [List.takeWhile_append_of_pos hpass, List.dropWhile_append_of_pos hpass,
    List.takeWhile_cons_of_neg (by simp), List.dropWhile_cons_of_neg (by simp), List.append_nil]
  rfl

/-! ## White space -/

theorem trimEnd_append (a b : List Char) :
    trimEnd (a ++ b) = if trimEnd b = [] then trimEnd a else a ++ trimEnd b := by
  unfold trimEnd List.rdropWhile
  rw [List.reverse_append, List.dropWhile_append]
  cases b.reverse.dropWhile isWhiteSpace with
  | nil => rfl
  | cons c rest => simp

/-- What ends with something else than white space stays. -/
theorem trimEnd_cons {c : Char} (hc : isWhiteSpace c = false) (text : List Char) :
    trimEnd (c :: text) = c :: trimEnd text := by
  have hlast : trimEnd [c] = [c] := by
    unfold trimEnd
    rw [List.rdropWhile_singleton, hc]
    rfl
  have happend : trimEnd ([c] ++ text) = _ := trimEnd_append [c] text
  rw [hlast] at happend
  by_cases htext : trimEnd text = []
  · rw [if_pos htext] at happend
    rw [htext]
    exact happend
  · rw [if_neg htext] at happend
    exact happend

/-- The line break goes with the white space before it. -/
theorem trimEnd_line (text : List Char) : trimEnd (text ++ ['\n']) = trimEnd text :=
  List.rdropWhile_concat_pos _ _ _ (by decide)

/-- A line is trimmed at its end, where it begins with something else than white space. -/
theorem trim_line {c : Char} (hc : isWhiteSpace c = false) (line : List Char) :
    trim (c :: line ++ ['\n']) = trimEnd (c :: line) := by
  unfold trim
  rw [List.cons_append, List.dropWhile_cons_of_neg (by rw [hc]; exact Bool.false_ne_true),
    ← List.cons_append, trimEnd_line]

/-! ## Commands -/

theorem stripStart_append (start : String) (rest : List Char) :
    stripStart start (String.ofList (start.toList ++ rest)) = some (String.ofList rest) := by
  unfold stripStart
  rw [String.toList_ofList, if_pos (List.isPrefixOf_iff_prefix.mpr (List.prefix_append _ _)),
    List.drop_left]

theorem stripStart_none {start : String} {text : List Char}
    (h : start.toList.isPrefixOf text = false) : stripStart start (String.ofList text) = none := by
  unfold stripStart
  rw [String.toList_ofList, h]
  rfl

theorem inputLine_group {input rest : List Char} (h : trim input = "/group ".toList ++ rest) :
    inputLine (String.ofList input) = some (groupCommand rest) := by
  unfold inputLine
  dsimp only
  rw [String.toList_ofList, h, stripStart_append]
  dsimp only
  rw [String.toList_ofList]

theorem inputLine_channel {input rest : List Char} (h : trim input = "/channel ".toList ++ rest) :
    inputLine (String.ofList input) = some (channelCommand rest) := by
  have hgroup : stripStart "/group " (String.ofList ("/channel ".toList ++ rest)) = none :=
    stripStart_none rfl
  unfold inputLine
  dsimp only
  rw [String.toList_ofList, h, hgroup, stripStart_append]
  dsimp only
  rw [String.toList_ofList]

theorem inputLine_poll {input rest : List Char} (h : trim input = "/poll ".toList ++ rest) :
    inputLine (String.ofList input) = some (pollCommand rest) := by
  have hgroup : stripStart "/group " (String.ofList ("/poll ".toList ++ rest)) = none :=
    stripStart_none rfl
  have hchannel : stripStart "/channel " (String.ofList ("/poll ".toList ++ rest)) = none :=
    stripStart_none rfl
  unfold inputLine
  dsimp only
  rw [String.toList_ofList, h, hgroup, hchannel, stripStart_append, Option.map_some,
    String.toList_ofList]

/-- The text up to its first space. -/
def firstWord (text : List Char) : List Char := text.takeWhile (· ≠ ' ')

theorem firstWord_eq_self_iff {text : List Char} : firstWord text = text ↔ ' ' ∉ text := by
  unfold firstWord
  rw [List.takeWhile_eq_self_iff]
  constructor
  · intro h hspace
    exact absurd (h ' ' hspace) (by decide)
  · intro h c hc
    rw [decide_eq_true_iff]
    rintro rfl
    exact h hc

/-- The second piece of a command. -/
theorem splitn_create (n : ℕ) (text : List Char) :
    ∃ more, splitn (n + 3) ' ' ("create".toList ++ ' ' :: text) =
      "create".toList :: firstWord text :: more := by
  obtain ⟨more, hmore⟩ := exists_splitn ' ' n text
  exact ⟨more, by rw [splitn_cons (by decide), hmore]; rfl⟩

theorem map_ofList_eq_iff {pieces : List (List Char)} {texts : List String} :
    pieces.map String.ofList = texts ↔ pieces = texts.map String.toList := by
  constructor
  · rintro rfl
    rw [List.map_map]
    exact (List.map_id' pieces).symm.trans (List.map_congr_left fun _ _ => String.toList_ofList.symm)
  · rintro rfl
    rw [List.map_map]
    exact (List.map_congr_left fun _ _ => String.ofList_toList).trans (List.map_id' texts)

/-- **The poll that is created**: the first word, split at its `|`. -/
theorem pollCommand_create {text : List Char} {question : String} {options : List String}
    (hoptions : 2 ≤ options.length) :
    pollCommand ("create".toList ++ ' ' :: text) = .call (.createPoll question options) ↔
      (firstWord text).splitOn '|' = (question :: options).map String.toList := by
  obtain ⟨more, hsplit⟩ := splitn_create 1 text
  unfold pollCommand
  rw [hsplit]
  dsimp only
  rw [if_pos rfl]
  split
  · next q opt₁ opt₂ more heq =>
    rw [← map_ofList_eq_iff, heq, Reaction.call.injEq, Method.createPoll.injEq]
    show _ ↔ String.ofList q :: (opt₁ :: opt₂ :: more).map String.ofList = question :: options
    rw [List.cons.injEq]
  · next hshort =>
    refine iff_of_false (fun h => by cases h) fun h => ?_
    match options, hoptions with
    | opt₁ :: opt₂ :: more, _ => exact hshort _ _ _ _ h

/-- **The group that is created** is called by the first word. -/
theorem groupCommand_create (text : List Char) :
    groupCommand ("create".toList ++ ' ' :: text) =
      .call (.createGroup (String.ofList (firstWord text))) := by
  obtain ⟨more, hsplit⟩ := splitn_create 0 text
  unfold groupCommand
  rw [hsplit]
  dsimp only
  rw [if_pos rfl]

/-- **The channel that is created** is called by the first word. -/
theorem channelCommand_create (text : List Char) :
    channelCommand ("create".toList ++ ' ' :: text) =
      .call (.createChannel (String.ofList (firstWord text))) := by
  obtain ⟨more, hsplit⟩ := splitn_create 0 text
  unfold channelCommand
  rw [hsplit]
  dsimp only
  rw [if_pos rfl]

/-! ## The text of a poll -/

theorem pollText_eq (question : String) (options : List String) :
    pollText question options =
      question.toList ++ options.flatMap fun opt => '|' :: opt.toList := by
  unfold pollText
  rw [List.map_cons, intercalate_cons_eq, List.flatMap_map]

theorem mem_pollText {question : String} {options : List String} {c : Char} (hc : c ≠ '|') :
    c ∈ pollText question options ↔ c ∈ question.toList ∨ ∃ opt ∈ options, c ∈ opt.toList := by
  rw [pollText_eq, List.mem_append, List.mem_flatMap]
  refine or_congr_right (exists_congr fun opt => and_congr_right fun _ => ?_)
  rw [List.mem_cons, or_iff_right hc]

/-- The white space at the end of the line is that of the last option. -/
theorem trimEnd_pollText (question : String) (first : List String) (last : String) :
    trimEnd (pollText question (first ++ [last])) =
      pollText question (first ++ [trimmed last]) := by
  have hlast : trimEnd ('|' :: last.toList) = '|' :: trimEnd last.toList :=
    trimEnd_cons (by decide) _
  have hne : trimEnd ('|' :: last.toList) ≠ [] := by
    rw [hlast]
    exact List.cons_ne_nil _ _
  rw [pollText_eq, pollText_eq, List.flatMap_append, List.flatMap_append, List.flatMap_singleton,
    List.flatMap_singleton, ← List.append_assoc, ← List.append_assoc, trimEnd_append, if_neg hne,
    hlast]
  unfold trimmed
  rw [String.toList_ofList]

/-- The pieces come back if none has a `|` in it. -/
theorem splitOn_eq_iff {text : List Char} {question : String} {options : List String}
    (h : ∀ s ∈ question :: options, '|' ∉ s.toList) :
    text.splitOn '|' = (question :: options).map String.toList ↔
      text = pollText question options := by
  constructor
  · intro hsplit
    have hjoin : ['|'].intercalate (text.splitOn '|') = text := List.intercalate_splitOn '|'
    rw [← hjoin, hsplit]
    rfl
  · rintro rfl
    refine List.splitOn_intercalate '|' (fun piece hpiece => ?_) (List.cons_ne_nil _ _)
    obtain ⟨s, hs, rfl⟩ := List.mem_map.mp hpiece
    exact h s hs

theorem mem_trimmed {text : String} {c : Char} (h : c ∈ (trimmed text).toList) :
    c ∈ text.toList := by
  unfold trimmed at h
  rw [String.toList_ofList] at h
  exact (List.rdropWhile_prefix _ _).subset h

/-! ## What reaches the call -/

/-- A command and its text, typed on a line. -/
theorem prompt_line {start : Char} (command : List Char) {text : List Char}
    (hstart : isWhiteSpace start = false) (hline : '\n' ∉ start :: command ++ text) (more : List Char) :
    prompt (start :: command ++ text ++ '\n' :: more) =
        inputLine (String.ofList (start :: command ++ text ++ ['\n'])) ∧
      trim (start :: command ++ text ++ ['\n']) =
        if trimEnd text = [] then trimEnd (start :: command)
        else start :: command ++ trimEnd text := by
  unfold prompt
  rw [readInput_line hline]
  refine ⟨rfl, ?_⟩
  rw [List.cons_append, trim_line hstart, ← List.cons_append, trimEnd_append]

/-- `create` with a text, behind a command that `handle` takes up. -/
theorem prompt_create {word : List Char} {handle : List Char → Reaction}
    (hhandle : ∀ {input rest : List Char}, trim input = '/' :: word ++ rest →
      inputLine (String.ofList input) = some (handle rest))
    (hword : '\n' ∉ word) {text : List Char} (hline : '\n' ∉ text) (more : List Char) :
    prompt ('/' :: (word ++ "create ".toList) ++ text ++ '\n' :: more) =
      some (handle (if trimEnd text = [] then "create".toList
        else "create".toList ++ ' ' :: trimEnd text)) := by
  have hbreak : '\n' ∉ '/' :: (word ++ "create ".toList) ++ text := by
    simp [hword, hline]
  obtain ⟨hprompt, htrim⟩ := prompt_line (word ++ "create ".toList) (by decide) hbreak more
  have hcreate : trimEnd ('/' :: (word ++ "create ".toList)) = '/' :: word ++ "create".toList := by
    rw [← List.cons_append, trimEnd_append, if_neg (by decide)]
    rfl
  refine hprompt.trans (hhandle (htrim.trans ?_))
  split_ifs with htext
  · exact hcreate
  · rw [← List.cons_append, List.append_assoc]
    rfl

theorem prompt_poll {text : List Char} (hline : '\n' ∉ text) (htext : trimEnd text ≠ [])
    (more : List Char) : prompt ("/poll create ".toList ++ text ++ '\n' :: more) =
      some (pollCommand ("create".toList ++ ' ' :: trimEnd text)) := by
  have h := prompt_create inputLine_poll (by decide) hline more
  rw [if_neg htext] at h
  exact h

theorem prompt_group {text : List Char} (hline : '\n' ∉ text) (more : List Char) :
    prompt ("/group create ".toList ++ text ++ '\n' :: more) =
      some (groupCommand (if trimEnd text = [] then "create".toList
        else "create".toList ++ ' ' :: trimEnd text)) :=
  prompt_create inputLine_group (by decide) hline more

theorem prompt_channel {text : List Char} (hline : '\n' ∉ text) (more : List Char) :
    prompt ("/channel create ".toList ++ text ++ '\n' :: more) =
      some (channelCommand (if trimEnd text = [] then "create".toList
        else "create".toList ++ ' ' :: trimEnd text)) :=
  prompt_create inputLine_channel (by decide) hline more

theorem trimmed_eq_empty_iff {text : String} : trimmed text = "" ↔ trimEnd text.toList = [] := by
  unfold trimmed
  rw [← String.toList_inj, String.toList_ofList]
  rfl

/-- A name is the first word of its line exactly if it has no space. -/
theorem named_iff {name : String} :
    String.ofList (firstWord (trimEnd name.toList)) = trimmed name ↔
      ' ' ∉ (trimmed name).toList := by
  unfold trimmed
  rw [String.toList_ofList, ← firstWord_eq_self_iff, ← String.toList_inj, String.toList_ofList,
    String.toList_ofList]

/-- **The name that something is created with** is the one on the line exactly if it is one word. -/
theorem created_iff {handle : List Char → Reaction} {create : String → Method}
    (hcreate : Function.Injective create)
    (hname : ∀ text, handle ("create".toList ++ ' ' :: text) =
      .call (create (String.ofList (firstWord text))))
    (hnone : ∀ m, handle "create".toList ≠ .call m) {name : String} :
    some (handle (if trimEnd name.toList = [] then "create".toList
        else "create".toList ++ ' ' :: trimEnd name.toList)) = some (.call (create (trimmed name))) ↔
      trimmed name ≠ "" ∧ ' ' ∉ (trimmed name).toList := by
  rw [Option.some.injEq, Ne, trimmed_eq_empty_iff]
  split_ifs with htext
  · exact iff_of_false (hnone _) fun h => h.1 htext
  · rw [hname, Reaction.call.injEq, hcreate.eq_iff, named_iff]
    exact (and_iff_right htext).symm

/-- **Free text reaches the call exactly if it has no space.** A line is `/poll create` with a
    question and at least two options, `/group create` with a name or `/channel create` with a name;
    it is read up to its line break. The client calls `create_poll` with the question and the options
    as typed, without the white space at the end of the line, exactly if there is no other space in
    them. It calls `create_group` or `create_channel` with the name as typed, without the white space
    at the end of the line, exactly if something is left of it and there is no space in that. -/
theorem free_text_iff {question last name : String} {first : List String} (hfirst : first ≠ [])
    (hpoll : ∀ s ∈ question :: (first ++ [last]), '|' ∉ s.toList ∧ '\n' ∉ s.toList)
    (hname : '\n' ∉ name.toList) (more : List Char) :
    (prompt ("/poll create ".toList ++ pollText question (first ++ [last]) ++ '\n' :: more) =
        some (.call (.createPoll question (first ++ [trimmed last]))) ↔
      ' ' ∉ question.toList ∧ (∀ opt ∈ first, ' ' ∉ opt.toList) ∧ ' ' ∉ (trimmed last).toList) ∧
    (prompt ("/group create ".toList ++ name.toList ++ '\n' :: more) =
        some (.call (.createGroup (trimmed name))) ↔
      trimmed name ≠ "" ∧ ' ' ∉ (trimmed name).toList) ∧
    (prompt ("/channel create ".toList ++ name.toList ++ '\n' :: more) =
        some (.call (.createChannel (trimmed name))) ↔
      trimmed name ≠ "" ∧ ' ' ∉ (trimmed name).toList) := by
  refine ⟨?_, ?_, ?_⟩
  · have hbreak : '\n' ∉ pollText question (first ++ [last]) := by
      rw [mem_pollText (by decide)]
      rintro (h | ⟨opt, hopt, h⟩)
      · exact (hpoll question List.mem_cons_self).2 h
      · exact (hpoll opt (List.mem_cons_of_mem _ hopt)).2 h
    have hne : trimEnd (pollText question (first ++ [last])) ≠ [] := by
      rw [trimEnd_pollText, pollText_eq, List.flatMap_append, List.flatMap_singleton]
      simp
    have hpieces : ∀ s ∈ question :: (first ++ [trimmed last]), '|' ∉ s.toList := by
      intro s hs
      rcases List.mem_cons.mp hs with rfl | hs
      · exact (hpoll _ List.mem_cons_self).1
      · rcases List.mem_append.mp hs with hs | hs
        · exact (hpoll s (List.mem_cons_of_mem _ (List.mem_append_left _ hs))).1
        · rw [List.mem_singleton.mp hs]
          intro h
          refine (hpoll last (List.mem_cons_of_mem _ (List.mem_append_right _ ?_))).1 (mem_trimmed h)
          exact List.mem_singleton.mpr rfl
    have htwo : 2 ≤ (first ++ [trimmed last]).length := by
      have := List.length_pos_iff.mpr hfirst
      rw [List.length_append, List.length_singleton]
      omega
    rw [prompt_poll hbreak hne, Option.some.injEq, pollCommand_create htwo, splitOn_eq_iff hpieces,
      trimEnd_pollText, firstWord_eq_self_iff, mem_pollText (by decide)]
    simp only [List.mem_append, List.mem_singleton, not_or, not_exists, not_and, or_imp,
      forall_and, forall_eq]
  · rw [prompt_group hname]
    exact created_iff (fun _ _ => Method.createGroup.inj) groupCommand_create
      fun m h => by cases h
  · rw [prompt_channel hname]
    exact created_iff (fun _ _ => Method.createChannel.inj) channelCommand_create
      fun m h => by cases h

/-- A poll and a group whose texts have no spaces. -/
theorem free_text_lunch :
    let poll := prompt ("/poll create ".toList ++ pollText "lunch?" (["pizza"] ++ ["chips"]) ++
      '\n' :: [])
    let group := prompt ("/group create ".toList ++ "lunch".toList ++ '\n' :: [])
    (poll = some (.call (.createPoll "lunch?" (["pizza"] ++ [trimmed "chips"]))) ↔
      ' ' ∉ "lunch?".toList ∧ (∀ opt ∈ ["pizza"], ' ' ∉ opt.toList) ∧
        ' ' ∉ (trimmed "chips").toList) ∧
    (group = some (.call (.createGroup (trimmed "lunch"))) ↔
      trimmed "lunch" ≠ "" ∧ ' ' ∉ (trimmed "lunch").toList) := by
  have hpoll : ∀ s ∈ "lunch?" :: (["pizza"] ++ ["chips"]), '|' ∉ s.toList ∧ '\n' ∉ s.toList := by
    decide
  have hname : '\n' ∉ "lunch".toList := by decide
  have h := free_text_iff (List.cons_ne_nil "pizza" []) hpoll hname []
  exact ⟨h.1, h.2.1⟩

/-- The last option loses all but its first word, and so does the name of a group. -/
theorem texts_cut_at_space :
    prompt "/poll create lunch|pizza|fish and chips\n".toList =
        some (.call (.createPoll "lunch" ["pizza", "fish"])) ∧
      prompt "/poll create lunch|pizza|fish and chips\n".toList ≠
        some (.call (.createPoll "lunch" ["pizza", "fish and chips"])) ∧
      prompt "/group create my group\n".toList = some (.call (.createGroup "my")) := by
  have hpoll : prompt "/poll create lunch|pizza|fish and chips\n".toList =
      some (.call (.createPoll "lunch" ["pizza", "fish"])) := by
    have hline : '\n' ∉ "lunch|pizza|fish and chips".toList := by decide
    refine (prompt_poll hline (by decide) []).trans (congrArg some ?_)
    refine (pollCommand_create (by decide)).mpr ((splitOn_eq_iff (by decide)).mpr ?_)
    rw [pollText_eq]
    decide
  refine ⟨hpoll, ?_, ?_⟩
  · rw [hpoll]
    decide
  · have hline : '\n' ∉ "my group".toList := by decide
    have hprompt := prompt_group hline []
    rw [if_neg (by decide), groupCommand_create] at hprompt
    have hword : String.ofList (firstWord (trimEnd "my group".toList)) = "my" := by decide
    rw [hword] at hprompt
    exact hprompt

end TinTin.Apps
