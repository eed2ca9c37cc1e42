/-
  The files in which a terminal client keeps its messages, groups and channels.

  A list is an array of structs. A `HashMap` is an object with its entries in any order; an `i64`
  key is a text with its digits, and of two members with one name the later counts. Fields that
  older versions did not have take their defaults.

  * `listText_load`, `mapText_load`: what was saved is loaded, in whatever order it was written.
-/
import TinTin.Cli.WireText
import Mathlib.Data.Finmap

namespace TinTin.Cli

open TinTin.Lib TinTin.Lib.JsonText TinTin.Core TinTin.Cli.Json TinTin.Cli.Wire
  TinTin.Cli.WireText

/-! ## Structs -/

/-- A group we belong to. -/
structure GroupInfo where
  groupId : String
  name : String
  creator : String
  role : String
  deriving DecidableEq, Repr

namespace SavedText

def messageStatus : Codec MessageStatus Json where
  encode
    | .sent => .string "Sent"
    | .delivered => .string "Delivered"
    | .read => .string "Read"
  decode v :=
    match variantName v with
    | some "Sent" => some .sent
    | some "Delivered" => some .delivered
    | some "Read" => some .read
    | _ => none
  decode_encode t := by cases t <;> rfl

def messageDirection : Codec MessageDirection Json where
  encode
    | .outgoing => .string "Outgoing"
    | .incoming => .string "Incoming"
  decode v :=
    match variantName v with
    | some "Outgoing" => some .outgoing
    | some "Incoming" => some .incoming
    | _ => none
  decode_encode t := by cases t <;> rfl

/-- `#[serde(default)]` -/
def orDefault {α : Type} (a : α) (C : Codec α Json) : Option Json → Option α
  | none => some a
  | some v => C.decode v

/-- `SentMessage` -/
def sentMessage : StructCodec SentMessage where
  fields := ["recipient", "text", "timestamp", "status", "edited"]
  nodup := by decide
  values m := [string.encode m.recipient, string.encode m.text, u64.encode m.timestamp,
    messageStatus.encode m.status, bool.encode m.edited]
  length_values _ := rfl
  least := 4
  build g := do
    return {
      recipient := ← (g "recipient").bind string.decode
      text := ← (g "text").bind string.decode
      timestamp := ← (g "timestamp").bind u64.decode
      status := ← (g "status").bind messageStatus.decode
      edited := ← orDefault false bool (g "edited") }
  build_values m g h := by
    simp only [List.map_cons, List.map_nil, List.cons.injEq, and_true] at h
    obtain ⟨h₁, h₂, h₃, h₄, h₅⟩ := h
    simp [h₁, h₂, h₃, h₄, h₅, orDefault]

/-- `MessageRecord` -/
def messageRecord : StructCodec MessageRecord where
  fields := ["peer", "text", "timestamp", "direction", "is_group", "group_name", "is_channel",
    "channel_name", "edited"]
  nodup := by decide
  values r := [string.encode r.peer, string.encode r.text, u64.encode r.timestamp,
    messageDirection.encode r.direction, bool.encode r.isGroup, ofOption string r.groupName,
    bool.encode r.isChannel, ofOption string r.channelName, bool.encode r.edited]
  length_values _ := rfl
  -- the last field has no default
  least := 9
  build g := do
    return {
      peer := ← (g "peer").bind string.decode
      text := ← (g "text").bind string.decode
      timestamp := ← (g "timestamp").bind u64.decode
      direction := ← (g "direction").bind messageDirection.decode
      isGroup := ← (g "is_group").bind bool.decode
      groupName := ← asOption string (g "group_name")
      isChannel := ← orDefault false bool (g "is_channel")
      channelName := ← asOption string (g "channel_name")
      edited := ← (g "edited").bind bool.decode }
  build_values r g h := by
    simp only [List.map_cons, List.map_nil, List.cons.injEq, and_true] at h
    obtain ⟨h₁, h₂, h₃, h₄, h₅, h₆, h₇, h₈, h₉⟩ := h
    have hnull : ∀ s, string.encode s ≠ .null := nofun
    simp [h₁, h₂, h₃, h₄, h₅, h₆, h₇, h₈, h₉, orDefault, asOption_ofOption hnull]

/-- `GroupInfo` -/
def groupInfo : StructCodec GroupInfo where
  fields := ["group_id", "name", "creator", "role"]
  nodup := by decide
  values g := [string.encode g.groupId, string.encode g.name, string.encode g.creator,
    string.encode g.role]
  length_values _ := rfl
  least := 4
  build g := do
    return {
      groupId := ← (g "group_id").bind string.decode
      name := ← (g "name").bind string.decode
      creator := ← (g "creator").bind string.decode
      role := ← (g "role").bind string.decode }
  build_values i g h := by
    simp only [List.map_cons, List.map_nil, List.cons.injEq, and_true] at h
    obtain ⟨h₁, h₂, h₃, h₄⟩ := h
    simp [h₁, h₂, h₃, h₄]

theorem fits_sentMessage : Fits .object 1 sentMessage.codec := by
  refine StructCodec.fits fun m => ?_
  simp only [sentMessage, List.forall_mem_cons]
  refine ⟨fits_string 0 _, fits_string 0 _, fits_u64 0 _, ?_, fits_bool 0 _, List.forall_mem_nil _⟩
  cases m.status <;> exact .string 0 _

theorem fits_messageRecord : Fits .object 1 messageRecord.codec := by
  refine StructCodec.fits fun r => ?_
  simp only [messageRecord, List.forall_mem_cons]
  refine ⟨fits_string 0 _, fits_string 0 _, fits_u64 0 _, ?_, fits_bool 0 _,
    fit_ofOption (fits_string 0) _, fits_bool 0 _, fit_ofOption (fits_string 0) _, fits_bool 0 _,
    List.forall_mem_nil _⟩
  cases r.direction <;> exact .string 0 _

theorem fits_groupInfo : Fits .object 1 groupInfo.codec := by
  refine StructCodec.fits fun i => ?_
  simp only [groupInfo, List.forall_mem_cons]
  exact ⟨fits_string 0 _, fits_string 0 _, fits_string 0 _, fits_string 0 _, List.forall_mem_nil _⟩

/-! ## Lists -/

/-- `serde_json::to_string_pretty` of a `Vec` -/
def listText {α : Type} (F : Floats) (C : Codec α Json) (l : List α) : String :=
  ((vec C).encode l).toTextPretty F

/-- `serde_json::from_str` into a `Vec` -/
def loadList {α : Type} (F : Floats) (C : Codec α Json) (text : String) : Option (List α) :=
  readAs F (vec C) text.toList

theorem readText_toTextPretty {build : List (String × Json) → Json} {v : Json}
    (h : Fit build 127 v) (F : Floats) : readText build F (v.toTextPretty F).toList = some v := by
  have hread : readText build F ([] ++ (v.print F pretty ++ [])) = some v :=
    readText_print h F pretty (List.forall_mem_nil _) (List.forall_mem_nil _)
  rw [List.append_nil, List.nil_append] at hread
  unfold toTextPretty
  rw [String.toList_ofList]
  exact hread

theorem listText_load {α : Type} {C : Codec α Json} (hC : Fits .object 1 C) (F : Floats) (l : List α) :
    loadList F C (listText F C l) = some l := by
  have hfit : Fit Json.object 127 ((vec C).encode l) := (fits_vec hC l).mono (by decide)
  unfold loadList listText readAs
  rw [readText_toTextPretty hfit, Option.bind_some, Codec.decode_encode]

/-! ## Maps -/

/-- A `HashMap`. -/
abbrev Map (κ α : Type) := Finmap fun _ : κ => α

/-- How a key goes into the name of a member. -/
abbrev KeyText (κ : Type) := Codec κ String

def stringKey : KeyText String where
  encode s := s
  decode := some
  decode_encode _ := rfl

/-- `i64`: read as a number that must be one. -/
def i64Key (F : Floats) : KeyText Int64 where
  encode n := String.ofList (Number.print F (if n < 0 then .negInt n else .posInt n.toUInt64))
  decode s := (Number.read F s.toList).bind fun n => i64.decode (.number n)
  decode_encode n := by
    rw [String.toList_ofList]
    have hread : Number.read F (Number.print F (if n < 0 then .negInt n else .posInt n.toUInt64)) =
        some (if n < 0 then .negInt n else .posInt n.toUInt64) := by
      split_ifs with hn
      · exact (reads_negInt F hn).read
      · exact (reads_posInt F _).read
    rw [hread, Option.bind_some]
    exact i64.decode_encode n

variable {κ α : Type} [DecidableEq κ]

def member (K : KeyText κ) (C : Codec α Json) (e : Σ _ : κ, α) : String × Json :=
  (K.encode e.1, C.encode e.2)

/-- `serde_json::to_string_pretty` of a `HashMap`, with its entries in the order of its iteration. -/
def mapText (F : Floats) (K : KeyText κ) (C : Codec α Json) (entries : List (Σ _ : κ, α)) : String :=
  (Json.object (entries.map (member K C))).toTextPretty F

def insertMembers (K : KeyText κ) (C : Codec α Json) :
    List (String × Json) → Map κ α → Option (Map κ α)
  | [], m => some m
  | (key, v) :: ms, m => do
    let k ← K.decode key
    let a ← C.decode v
    insertMembers K C ms (m.insert k a)

def mapOf (K : KeyText κ) (C : Codec α Json) : Json → Option (Map κ α)
  | .object ms => insertMembers K C ms ∅
  | _ => none

/-- `serde_json::from_str` into a `HashMap` -/
def loadMap (F : Floats) (K : KeyText κ) (C : Codec α Json) (text : String) : Option (Map κ α) :=
  (readText .object F text.toList).bind (mapOf K C)

theorem insertMembers_members (K : KeyText κ) (C : Codec α Json) (entries : List (Σ _ : κ, α))
    (m : Map κ α) :
    insertMembers K C (entries.map (member K C)) m =
      some (entries.foldl (fun m e => m.insert e.1 e.2) m) := by
  induction entries generalizing m with
  | nil => rfl
  | cons e entries ih =>
    rw [List.map_cons, member, insertMembers, K.decode_encode, Option.bind_eq_bind,
      Option.bind_some, C.decode_encode, Option.bind_eq_bind, Option.bind_some, ih,
      List.foldl_cons]

/-- Entries with different keys make the same map in any order. -/
theorem lookup_foldl_insert (entries : List (Σ _ : κ, α)) (h : entries.NodupKeys) (m : Map κ α)
    (k : κ) :
    (entries.foldl (fun m e => m.insert e.1 e.2) m).lookup k =
      (entries.dlookup k).or (m.lookup k) := by
  induction entries generalizing m with
  | nil => rfl
  | cons e entries ih =>
    obtain ⟨hnotin, hrest⟩ := List.nodupKeys_cons.mp h
    rw [List.foldl_cons, ih hrest]
    obtain ⟨k', a⟩ := e
    by_cases hk : k = k'
    · subst hk
      rw [List.dlookup_eq_none.mpr hnotin, List.dlookup_cons_eq, Finmap.lookup_insert]
      rfl
    · rw [List.dlookup_cons_ne entries ⟨k', a⟩ hk, Finmap.lookup_insert_of_ne _ hk]

theorem foldl_insert_entries (m : AList fun _ : κ => α) :
    m.entries.foldl (fun m e => m.insert e.1 e.2) (∅ : Map κ α) = m.toFinmap := by
  refine Finmap.ext_lookup fun k => ?_
  rw [lookup_foldl_insert _ m.nodupKeys, Finmap.lookup_empty, Option.or_none,
    Finmap.lookup_toFinmap]
  rfl

theorem mapText_load {C : Codec α Json} (hC : Fits .object 1 C) (F : Floats) (K : KeyText κ)
    (m : AList fun _ : κ => α) : loadMap F K C (mapText F K C m.entries) = some m.toFinmap := by
  have hfit : Fit Json.object 127 (Json.object (m.entries.map (member K C))) := by
    refine .object rfl fun x hx => ?_
    obtain ⟨e, -, rfl⟩ := List.mem_map.mp hx
    exact (hC e.2).mono (by decide)
  unfold loadMap mapText
  rw [readText_toTextPretty hfit, Option.bind_some, mapOf, insertMembers_members,
    foldl_insert_entries]

end SavedText

end TinTin.Cli
