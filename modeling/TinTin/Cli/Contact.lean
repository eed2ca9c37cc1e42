/-
  The URI of a contact (`contact_uri`), and how a scanned one is read (`parse_contact_uri`).

  The user id goes into the URI as it is, so an ampersand in it ends the field. What follows is
  read as more fields, and of two fields of one name the last one counts.

  * `parsed_key`: the key that is read is always the one of the URI.
  * `contact_uri_iff`: the user id that is read is the one of the URI exactly if it has no ampersand.
  * `scanned_as_alice`: a user id that is read as another user's.
-/
import TinTin.Cli.Client
import TinTin.Lib.Split

namespace TinTin.Cli

open TinTin.Lib TinTin.Core

/-! ## Writing and reading -/

/-- A public key, as it is. -/
abbrev KeyBytes := Vector UInt8 32

/-- `hex::encode`: two lower-case digits a byte. -/
def hexEncode (bs : Bytes) : String :=
  String.ofList (bs.flatMap fun b => [Nat.digitChar (b.toNat / 16), Nat.digitChar (b.toNat % 16)])

/-- `hex::encode(self.identity.public_key())` -/
def Client.identityHex (c : Client KeyBytes) : String := hexEncode c.identity.publicKey.toList

/-- `contact_uri` -/
def Client.contactUri (c : Client KeyBytes) : String :=
  "tintin://add-contact?user_id=" ++ c.userId ++ "&key=" ++ c.identityHex

/-- `strip_prefix` -/
def stripStart (start s : String) : Option String :=
  if start.toList.isPrefixOf s.toList then some (String.ofList (s.toList.drop start.toList.length))
  else none

/-- One field of the query: the user id and the key as far as they have been read. -/
def readField (read : Option String × Option String) (pair : List Char) :
    Option (Option String × Option String) :=
  match splitn 2 '=' pair with
  | [name, value] =>
    if String.ofList name = "user_id" then some (some (String.ofList value), read.2)
    else if String.ofList name = "key" then some (read.1, some (String.ofList value))
    else some read
  | _ => none

/-- `parse_contact_uri` -/
def parseContactUri (uri : String) : Option (String × String) :=
  (stripStart "tintin://add-contact?" uri).bind fun query =>
    ((query.toList.splitOn '&').foldlM readField (none, none)).bind fun read =>
      read.1.bind fun userId => read.2.map fun key => (userId, key)

/-! ## Fields -/

/-- The fields before the key. -/
def idFields (userId : String) : List (List Char) := ("user_id=".toList ++ userId.toList).splitOn '&'

theorem amp_notMem_hexEncode (bs : Bytes) : '&' ∉ (hexEncode bs).toList := by
  have hdigit : ∀ n < 16, Nat.digitChar n ≠ '&' := by decide
  unfold hexEncode
  rw [String.toList_ofList, List.mem_flatMap]
  rintro ⟨b, -, hb⟩
  have hlt := b.toNat_lt
  rcases List.mem_cons.mp hb with h | h
  · exact hdigit _ (by omega) h.symm
  · exact hdigit _ (by omega) (List.mem_singleton.mp h).symm

theorem readField_userId (read : Option String × Option String) (value : List Char) :
    readField read ("user_id=".toList ++ value) = some (some (String.ofList value), read.2) := by
  have hsplit : splitn 2 '=' ("user_id=".toList ++ value) = ["user_id".toList, value] :=
    splitn_cons (show '=' ∉ "user_id".toList by decide) 0 value
  unfold readField
  rw [hsplit]
  rfl

theorem readField_key (read : Option String × Option String) (value : List Char) :
    readField read ("key=".toList ++ value) = some (read.1, some (String.ofList value)) := by
  have hsplit : splitn 2 '=' ("key=".toList ++ value) = ["key".toList, value] :=
    splitn_cons (show '=' ∉ "key".toList by decide) 0 value
  unfold readField
  rw [hsplit]
  rfl

/-- What is read of a client's own URI: the last user id of its fields, and the key. -/
theorem parse_contactUri (c : Client KeyBytes) :
    parseContactUri c.contactUri =
      ((idFields c.userId).foldlM readField (none, none)).bind fun read =>
        read.1.map fun userId => (userId, c.identityHex) := by
  have hquery : stripStart "tintin://add-contact?" c.contactUri =
      some (String.ofList ("user_id=".toList ++ c.userId.toList ++
        '&' :: ("key=".toList ++ c.identityHex.toList))) := by
    have hlist : c.contactUri.toList = "tintin://add-contact?".toList ++
        ("user_id=".toList ++ c.userId.toList ++
          '&' :: ("key=".toList ++ c.identityHex.toList)) := by
      unfold Client.contactUri
      rw [String.toList_append, String.toList_append, String.toList_append]
      simp
    unfold stripStart
    rw [hlist, if_pos (by rw [List.isPrefixOf_iff_prefix]; exact List.prefix_append _ _),
      List.drop_left]
  have hkey : '&' ∉ "key=".toList ++ c.identityHex.toList := by
    intro h
    rcases List.mem_append.mp h with h | h
    · exact absurd h (by decide)
    · exact amp_notMem_hexEncode _ h
  unfold parseContactUri
  rw [hquery, Option.bind_some, String.toList_ofList, List.splitOn_append_cons_self,
    List.splitOn_eq_singleton hkey, List.foldlM_append]
  unfold idFields
  cases (("user_id=".toList ++ c.userId.toList).splitOn '&').foldlM readField (none, none) with
  | none => rfl
  | some read =>
    show (List.foldlM readField read ["key=".toList ++ c.identityHex.toList]).bind _ = _
    rw [List.foldlM_cons, readField_key, String.ofList_toList]
    show read.1.bind (fun userId => some (userId, c.identityHex)) =
      read.1.map fun userId => (userId, c.identityHex)
    cases read.1 with
    | none => rfl
    | some userId => rfl

/-- **The key** that is read is the client's. -/
theorem parsed_key {c : Client KeyBytes} {userId key : String}
    (h : parseContactUri c.contactUri = some (userId, key)) : key = c.identityHex := by
  rw [parse_contactUri, Option.bind_eq_some_iff] at h
  obtain ⟨read, -, h⟩ := h
  obtain ⟨userId', -, h⟩ := Option.map_eq_some_iff.mp h
  exact (Prod.mk.inj h).2.symm

/-- A user id that is read comes from one field. -/
theorem amp_notMem_read {pairs : List (List Char)} (hpairs : ∀ pair ∈ pairs, '&' ∉ pair)
    {read read' : Option String × Option String} (hread : ∀ v ∈ read.1, '&' ∉ v.toList)
    (h : pairs.foldlM readField read = some read') : ∀ v ∈ read'.1, '&' ∉ v.toList := by
  induction pairs generalizing read with
  | nil =>
    obtain rfl := Option.some.inj h
    exact hread
  | cons pair pairs ih =>
    rw [List.foldlM_cons] at h
    obtain ⟨read₁, hstep, hrest⟩ := Option.bind_eq_some_iff.mp h
    refine ih (fun p hp => hpairs p (List.mem_cons_of_mem _ hp)) (fun v hv => ?_) hrest
    have hpair := hpairs pair List.mem_cons_self
    unfold readField at hstep
    split at hstep
    · rename_i name value hsplit
      have hmem : value ∈ splitn 2 '=' pair := by
        rw [hsplit]
        exact List.mem_cons_of_mem _ List.mem_cons_self
      have hvalue : '&' ∉ value := fun hamp => hpair (mem_of_mem_splitn hmem hamp)
      split at hstep
      · obtain rfl := Option.some.inj hstep
        obtain rfl := Option.some.inj hv
        rwa [String.toList_ofList]
      split at hstep
      · obtain rfl := Option.some.inj hstep
        exact hread v hv
      · obtain rfl := Option.some.inj hstep
        exact hread v hv
    · cases hstep

/-- **The round trip**: a client's URI is read as its own exactly if its user id has no
    ampersand. -/
theorem contact_uri_iff (c : Client KeyBytes) :
    parseContactUri c.contactUri = some (c.userId, c.identityHex) ↔ '&' ∉ c.userId.toList := by
  rw [parse_contactUri]
  constructor
  · intro h
    obtain ⟨read, hread, hmap⟩ := Option.bind_eq_some_iff.mp h
    obtain ⟨userId, hid, hpair⟩ := Option.map_eq_some_iff.mp hmap
    obtain rfl := (Prod.mk.inj hpair).1
    exact amp_notMem_read (fun pair => not_mem_of_mem_splitOn) (fun v hv => by cases hv) hread _ hid
  · intro hamp
    have hfield : '&' ∉ "user_id=".toList ++ c.userId.toList := by
      intro h
      rcases List.mem_append.mp h with h | h
      · exact absurd h (by decide)
      · exact hamp h
    unfold idFields
    rw [List.splitOn_eq_singleton hfield, List.foldlM_cons, readField_userId, String.ofList_toList]
    rfl

/-! ## A code that adds another user -/

/-- Mallory, who has registered as `m&user_id=alice`. -/
def malloryAsAlice : Client KeyBytes where
  userId := "m&user_id=alice"
  identity := ⟨⟨Vector.replicate 32 1, Vector.replicate 32 2⟩⟩
  signedPreKey := ⟨1, ⟨Vector.replicate 32 3, Vector.replicate 32 4⟩, []⟩
  sessions := .new
  sentMessages := []
  chatLog := []
  pendingFiles := ∅
  activeCall := none
  downloads := []

/-- Her code is scanned as Alice's, with her own key. -/
theorem scanned_as_alice :
    parseContactUri malloryAsAlice.contactUri = some ("alice", malloryAsAlice.identityHex) ∧
    parseContactUri malloryAsAlice.contactUri ≠
      some (malloryAsAlice.userId, malloryAsAlice.identityHex) := by
  have hfields : idFields "m&user_id=alice" =
      ["user_id=".toList ++ "m".toList, "user_id=".toList ++ "alice".toList] := by
    have hlist : "user_id=".toList ++ "m&user_id=alice".toList =
        ("user_id=".toList ++ "m".toList) ++ '&' :: ("user_id=".toList ++ "alice".toList) := by
      decide
    unfold idFields
    rw [hlist, List.splitOn_append_cons_self, List.splitOn_eq_singleton (by decide),
      List.splitOn_eq_singleton (by decide)]
    rfl
  have hread : parseContactUri malloryAsAlice.contactUri =
      some ("alice", malloryAsAlice.identityHex) := by
    rw [parse_contactUri]
    show ((idFields "m&user_id=alice").foldlM readField (none, none)).bind _ = _
    rw [hfields, List.foldlM_cons, readField_userId]
    show (List.foldlM readField _ _).bind _ = _
    rw [List.foldlM_cons, readField_userId]
    rfl
  refine ⟨hread, fun h => ?_⟩
  rw [hread] at h
  have hid : "alice" = "m&user_id=alice" := (Prod.mk.inj (Option.some.inj h)).1
  exact absurd hid (by decide)

end TinTin.Cli
