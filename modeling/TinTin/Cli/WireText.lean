/-
  The texts of the types that `tintin-core` serialises.

  A struct goes into a text with its fields in the order of its declaration, and is taken from
  an object with each of them at most once, in any order and among other members, or from an
  array. Secrets are hexadecimal texts, other keys arrays of numbers.

  * `wire_texts`: every such value is one line of text and comes back from it, and from any
    other text of the same members.
  * `serdeJson`: the codecs of `Serde` as `serde_json` has them.
-/
import TinTin.Cli.JsonText
import TinTin.Lib.Base64

namespace TinTin.Cli

open TinTin.Lib TinTin.Lib.JsonText TinTin.Core TinTin.Cli.Json TinTin.Cli.Wire

namespace WireText

/-! ## Structs -/

/-- The members have each name at most once. -/
def once (names : List String) (ms : List (String × Json)) : Bool :=
  names.all fun key => (ms.filter fun m => m.1 == key).length ≤ 1

/-- What `derive` makes of a struct: how its fields go into values, and how they are taken from
    the members by their names. An array holds them in order, and at least `least` of them. -/
structure StructCodec (α : Type) where
  fields : List String
  nodup : fields.Nodup
  values : α → List Json
  length_values : ∀ a, (values a).length = fields.length
  least : ℕ
  build : (String → Option Json) → Option α
  build_values : ∀ a g, fields.map g = (values a).map some → build g = some a

theorem filter_eq_singleton {ms : List (String × Json)} (h : (ms.map Prod.fst).Nodup)
    {m : String × Json} (hm : m ∈ ms) : ms.filter (fun x => x.1 == m.1) = [m] := by
  induction ms with
  | nil => cases hm
  | cons x ms ih =>
    rw [List.map_cons, List.nodup_cons] at h
    rcases List.mem_cons.mp hm with rfl | hm
    · have hrest : ms.filter (fun x => x.1 == m.1) = [] := by
        rw [List.filter_eq_nil_iff]
        intro x hx heq
        exact h.1 (beq_iff_eq.mp heq ▸ List.mem_map_of_mem hx)
      rw [List.filter_cons, if_pos (beq_self_eq_true _), hrest]
    · have hne : ¬ (x.1 == m.1) = true := fun heq =>
        h.1 (beq_iff_eq.mp heq ▸ List.mem_map_of_mem hm)
      rw [List.filter_cons, if_neg hne, ih h.2 hm]

theorem get_object (ms : List (String × Json)) (key : String) :
    (Json.object ms).get key = (ms.filter fun m => m.1 == key).head?.map Prod.snd := by
  rw [List.head?_filter]
  rfl

namespace StructCodec

variable {α : Type} (S : StructCodec α)

/-- The members of a value's text. -/
def members (a : α) : List (String × Json) := S.fields.zip (S.values a)

def decode : Json → Option α
  | .object ms => if once S.fields ms then S.build (object ms).get else none
  | .array xs =>
    if S.least ≤ xs.length ∧ xs.length ≤ S.fields.length then
      S.build (object (S.fields.zip xs)).get
    else none
  | _ => none

variable {S}

theorem map_fst_members (a : α) : (S.members a).map Prod.fst = S.fields :=
  List.map_fst_zip (S.length_values a).ge

theorem map_snd_members (a : α) : (S.members a).map Prod.snd = S.values a :=
  List.map_snd_zip (S.length_values a).le

/-- **The order of the members does not matter**, nor do members of other names. -/
theorem decode_perm {a : α} {ms extra : List (String × Json)}
    (hperm : ms.Perm (S.members a ++ extra)) (hextra : ∀ m ∈ extra, m.1 ∉ S.fields) :
    S.decode (.object ms) = some a := by
  have hfilter : ∀ m ∈ S.members a, ms.filter (fun x => x.1 == m.1) = [m] := by
    intro m hm
    have hfield : m.1 ∈ S.fields := map_fst_members a ▸ List.mem_map_of_mem hm
    have hnone : extra.filter (fun x => x.1 == m.1) = [] := by
      rw [List.filter_eq_nil_iff]
      intro x hx heq
      exact hextra x hx (beq_iff_eq.mp heq ▸ hfield)
    have hall := hperm.filter fun x => x.1 == m.1
    rw [List.filter_append, hnone, List.append_nil,
      filter_eq_singleton (map_fst_members a ▸ S.nodup) hm] at hall
    exact List.perm_singleton.mp hall
  have honce : once S.fields ms = true := by
    refine List.all_eq_true.mpr fun key hkey => ?_
    rw [← map_fst_members a] at hkey
    obtain ⟨m, hm, rfl⟩ := List.mem_map.mp hkey
    rw [hfilter m hm]
    rfl
  have hget : S.fields.map (Json.object ms).get = (S.values a).map some := by
    rw [← map_fst_members a, ← map_snd_members a, List.map_map, List.map_map]
    refine List.map_congr_left fun m hm => ?_
    change (Json.object ms).get m.1 = some m.2
    rw [get_object, hfilter m hm]
    rfl
  rw [decode, if_pos honce]
  exact S.build_values a _ hget

/-- A struct is read from a `Value`. -/
theorem decode_obj (a : α) : S.decode (obj (S.members a)) = some a := by
  have hnodup : ((S.members a).map Prod.fst).Nodup := by
    rw [map_fst_members]
    exact S.nodup
  obtain ⟨ms, hms, hperm⟩ := perm_obj hnodup
  rw [hms]
  have hall : ms.Perm (S.members a ++ []) := by rwa [List.append_nil]
  exact decode_perm hall (List.forall_mem_nil _)

variable (S)

/-- The codec of the struct. -/
def codec : Codec α Json where
  encode a := .object (S.members a)
  decode := S.decode
  decode_encode a :=
    decode_perm (show (S.members a).Perm (S.members a ++ []) by rw [List.append_nil])
      (List.forall_mem_nil _)

end StructCodec

/-! ## Fitting types -/

section

variable {build : List (String × Json) → Json}

/-- Every value of a type fits. -/
def Fits {α : Type} (build : List (String × Json) → Json) (n : ℕ) (C : Codec α Json) : Prop :=
  ∀ a, Fit build n (C.encode a)

theorem fits_string (n : ℕ) : Fits build n string := fun s => .string n s

theorem fits_u64 (n : ℕ) : Fits build n u64 := fun m => .posInt n m

theorem fits_u32 (n : ℕ) : Fits build n u32 := fun m => .posInt n m.toUInt64

theorem fits_u8 (n : ℕ) : Fits build n u8 := fun m => .posInt n m.toUInt64

theorem fits_i64 (n : ℕ) : Fits build n i64 := by
  intro m
  change Fit build n (.number (if m < 0 then .negInt m else .posInt m.toUInt64))
  split_ifs with hm
  · exact .negInt n hm
  · exact .posInt n _

theorem fits_vec {α : Type} {C : Codec α Json} {n : ℕ} (h : Fits build n C) :
    Fits build (n + 1) (vec C) := by
  intro as
  refine .array fun x hx => ?_
  obtain ⟨a, -, rfl⟩ := List.mem_map.mp hx
  exact h a

theorem fit_ofOption {α : Type} {C : Codec α Json} {n : ℕ} (h : Fits build n C) (o : Option α) :
    Fit build n (ofOption C o) := by
  cases o with
  | none => exact .null n
  | some a => exact h a

theorem fits_key (n : ℕ) : Fits build (n + 1) key := fun k => fits_vec (fits_u8 n) k.toList

theorem fits_msgType (n : ℕ) : Fits build n msgType := by
  intro t
  cases t <;> exact .string n _

def bool : Codec Bool Json where
  encode := .bool
  decode
    | .bool b => some b
    | _ => none
  decode_encode _ := rfl

theorem fits_bool (n : ℕ) : Fits build n bool := fun b => .bool n b

/-- `[u8; 12]` -/
def nonce : Codec Nonce Json where
  encode k := (vec u8).encode k.toList
  decode v := ((vec u8).decode v).bind fun bs =>
    if h : bs.length = 12 then some ⟨bs.toArray, h⟩ else none
  decode_encode k := by
    rw [Codec.decode_encode, Option.bind_some, dif_pos k.length_toList]
    rfl

theorem fits_nonce (n : ℕ) : Fits build (n + 1) nonce := fun k => fits_vec (fits_u8 n) k.toList

theorem toLower_encodeChars (bs : List UInt8) :
    (Hex.encodeChars bs).map Char.toLower = Hex.encodeChars bs := by
  have hlower : ∀ d < 16, (Nat.digitChar d).toLower = Nat.digitChar d := by decide
  conv_rhs => rw [← List.map_id (Hex.encodeChars bs)]
  refine List.map_congr_left fun c hc => ?_
  obtain ⟨b, -, hb⟩ := List.mem_flatMap.mp hc
  have := b.toNat_lt
  rcases List.mem_cons.mp hb with rfl | hb
  · exact hlower _ (by omega)
  · rw [List.mem_singleton.mp hb]
    exact hlower _ (by omega)

/-- `serde_secret_key`: lower-case digits are written, and either case is read. -/
def secretKey : Codec (Vector UInt8 32) Json where
  encode k := .string (Hex.codec.encode k.toList)
  decode
    | .string s =>
      (Hex.decodeChars (s.toList.map Char.toLower)).bind fun bs =>
        if h : bs.length = 32 then some ⟨bs.toArray, h⟩ else none
    | _ => none
  decode_encode k := by
    change ((Hex.decodeChars ((String.ofList (Hex.encodeChars k.toList)).toList.map
      Char.toLower)).bind _) = _
    rw [String.toList_ofList, toLower_encodeChars, Hex.decodeChars_encodeChars, Option.bind_some,
      dif_pos k.length_toList]
    rfl

theorem fits_secretKey (n : ℕ) : Fits build n secretKey := fun _ => .string n _

end

theorem StructCodec.fits {α : Type} {S : StructCodec α} {n : ℕ}
    (h : ∀ a, ∀ v ∈ S.values a, Fit .object n v) : Fits .object (n + 1) S.codec := by
  intro a
  refine .object rfl fun m hm => h a m.2 ?_
  rw [← StructCodec.map_snd_members a]
  exact List.mem_map_of_mem hm

/-! ## Types of the core -/

/-- `SessionMessage` -/
def sessionMessage : StructCodec (SessionMessage (Vector UInt8 32)) where
  fields := ["version", "ciphertext", "nonce", "ratchet_key", "message_number"]
  nodup := by decide
  values m := [u8.encode m.version, (vec u8).encode m.ciphertext, nonce.encode m.nonce,
    key.encode m.ratchetKey, u32.encode m.messageNumber]
  length_values _ := rfl
  least := 5
  build g := do
    return {
      version := ← (g "version").bind u8.decode
      ciphertext := ← (g "ciphertext").bind (vec u8).decode
      nonce := ← (g "nonce").bind nonce.decode
      ratchetKey := ← (g "ratchet_key").bind key.decode
      messageNumber := ← (g "message_number").bind u32.decode }
  build_values m g h := by
    simp only [List.map_cons, List.map_nil, List.cons.injEq, and_true] at h
    obtain ⟨h₁, h₂, h₃, h₄, h₅⟩ := h
    simp [h₁, h₂, h₃, h₄, h₅]

/-- `Envelope` -/
def envelope : StructCodec Envelope where
  fields := ["sender_id", "recipient_id", "sender_device_id", "timestamp", "content", "msg_type"]
  nodup := by decide
  values e := [string.encode e.senderId, string.encode e.recipientId, u32.encode e.senderDeviceId,
    u64.encode e.timestamp, (vec u8).encode e.content, msgType.encode e.msgType]
  length_values _ := rfl
  least := 6
  build g := do
    return {
      senderId := ← (g "sender_id").bind string.decode
      recipientId := ← (g "recipient_id").bind string.decode
      senderDeviceId := ← (g "sender_device_id").bind u32.decode
      timestamp := ← (g "timestamp").bind u64.decode
      content := ← (g "content").bind (vec u8).decode
      msgType := ← (g "msg_type").bind msgType.decode }
  build_values e g h := by
    simp only [List.map_cons, List.map_nil, List.cons.injEq, and_true] at h
    obtain ⟨h₁, h₂, h₃, h₄, h₅, h₆⟩ := h
    simp [h₁, h₂, h₃, h₄, h₅, h₆]

def receiptType : Codec ReceiptType Json where
  encode
    | .delivery => .string "Delivery"
    | .read => .string "Read"
  decode v :=
    match variantName v with
    | some "Delivery" => some .delivery
    | some "Read" => some .read
    | _ => none
  decode_encode t := by cases t <;> rfl

/-- `ReceiptContent` -/
def receiptContent : StructCodec ReceiptContent where
  fields := ["receipt_type", "original_sender", "original_timestamp"]
  nodup := by decide
  values r := [receiptType.encode r.receiptType, string.encode r.originalSender,
    u64.encode r.originalTimestamp]
  length_values _ := rfl
  least := 3
  build g := do
    return {
      receiptType := ← (g "receipt_type").bind receiptType.decode
      originalSender := ← (g "original_sender").bind string.decode
      originalTimestamp := ← (g "original_timestamp").bind u64.decode }
  build_values r g h := by
    simp only [List.map_cons, List.map_nil, List.cons.injEq, and_true] at h
    obtain ⟨h₁, h₂, h₃⟩ := h
    simp [h₁, h₂, h₃]

/-- `PreKeyBundleMessage` -/
def preKeyBundleMessage : StructCodec (PreKeyBundleMessage (Vector UInt8 32)) where
  fields := ["identity_key", "base_key", "session_message"]
  nodup := by decide
  values m := [key.encode m.identityKey, key.encode m.baseKey,
    sessionMessage.codec.encode m.sessionMessage]
  length_values _ := rfl
  least := 3
  build g := do
    return {
      identityKey := ← (g "identity_key").bind key.decode
      baseKey := ← (g "base_key").bind key.decode
      sessionMessage := ← (g "session_message").bind sessionMessage.codec.decode }
  build_values m g h := by
    simp only [List.map_cons, List.map_nil, List.cons.injEq, and_true] at h
    obtain ⟨h₁, h₂, h₃⟩ := h
    simp [h₁, h₂, h₃]

/-- `PreKeyBundle` -/
def preKeyBundle : StructCodec (PreKeyBundle (Vector UInt8 32)) where
  fields := ["identity_key", "device_id", "signed_pre_key_id", "signed_pre_key",
    "signed_pre_key_signature", "one_time_pre_key_id", "one_time_pre_key"]
  nodup := by decide
  values b := [key.encode b.identityKey, u32.encode b.deviceId, u32.encode b.signedPreKeyId,
    key.encode b.signedPreKey, (vec u8).encode b.signedPreKeySignature,
    ofOption u32 b.oneTimePreKeyId, ofOption key b.oneTimePreKey]
  length_values _ := rfl
  least := 7
  build g := do
    return {
      identityKey := ← (g "identity_key").bind key.decode
      deviceId := ← (g "device_id").bind u32.decode
      signedPreKeyId := ← (g "signed_pre_key_id").bind u32.decode
      signedPreKey := ← (g "signed_pre_key").bind key.decode
      signedPreKeySignature := ← (g "signed_pre_key_signature").bind (vec u8).decode
      oneTimePreKeyId := ← asOption u32 (g "one_time_pre_key_id")
      oneTimePreKey := ← asOption key (g "one_time_pre_key") }
  build_values b g h := by
    simp only [List.map_cons, List.map_nil, List.cons.injEq, and_true] at h
    obtain ⟨h₁, h₂, h₃, h₄, h₅, h₆, h₇⟩ := h
    have hu32 := asOption_ofOption (C := u32) (fun _ => nofun) b.oneTimePreKeyId
    have hkey := asOption_ofOption (C := key) (fun _ => nofun) b.oneTimePreKey
    simp [h₁, h₂, h₃, h₄, h₅, h₆, h₇, hu32, hkey]

/-- `KeyPair` -/
def keyPair : StructCodec (KeyPair (Vector UInt8 32)) where
  fields := ["secret", "public"]
  nodup := by decide
  values k := [secretKey.encode k.secret, key.encode k.publicKey]
  length_values _ := rfl
  least := 2
  build g := do
    return {
      secret := ← (g "secret").bind secretKey.decode
      publicKey := ← (g "public").bind key.decode }
  build_values k g h := by
    simp only [List.map_cons, List.map_nil, List.cons.injEq, and_true] at h
    obtain ⟨h₁, h₂⟩ := h
    simp [h₁, h₂]

/-- `IdentityKeyPair` -/
def identityKeyPair : StructCodec (IdentityKeyPair (Vector UInt8 32)) where
  fields := ["key_pair"]
  nodup := by decide
  values k := [keyPair.codec.encode k.keyPair]
  length_values _ := rfl
  least := 1
  build g := do return { keyPair := ← (g "key_pair").bind keyPair.codec.decode }
  build_values k g h := by
    simp only [List.map_cons, List.map_nil, List.cons.injEq, and_true] at h
    simp [h]

/-- `Ratchet` -/
def ratchet : StructCodec (Ratchet (Vector UInt8 32)) where
  fields := ["dh_ratchet_key", "their_ratchet_key", "root_key", "send_chain_key",
    "recv_chain_key", "send_msg_number", "recv_msg_number", "prev_send_count", "max_skip",
    "is_initiator"]
  nodup := by decide
  values r := [keyPair.codec.encode r.dhRatchetKey, key.encode r.theirRatchetKey,
    secretKey.encode r.rootKey, secretKey.encode r.sendChainKey, secretKey.encode r.recvChainKey,
    u32.encode r.sendMsgNumber, u32.encode r.recvMsgNumber, u32.encode r.prevSendCount,
    u32.encode r.maxSkip, bool.encode r.isInitiator]
  length_values _ := rfl
  least := 10
  build g := do
    return {
      dhRatchetKey := ← (g "dh_ratchet_key").bind keyPair.codec.decode
      theirRatchetKey := ← (g "their_ratchet_key").bind key.decode
      rootKey := ← (g "root_key").bind secretKey.decode
      sendChainKey := ← (g "send_chain_key").bind secretKey.decode
      recvChainKey := ← (g "recv_chain_key").bind secretKey.decode
      sendMsgNumber := ← (g "send_msg_number").bind u32.decode
      recvMsgNumber := ← (g "recv_msg_number").bind u32.decode
      prevSendCount := ← (g "prev_send_count").bind u32.decode
      maxSkip := ← (g "max_skip").bind u32.decode
      isInitiator := ← (g "is_initiator").bind bool.decode }
  build_values r g h := by
    simp only [List.map_cons, List.map_nil, List.cons.injEq, and_true] at h
    obtain ⟨h₁, h₂, h₃, h₄, h₅, h₆, h₇, h₈, h₉, h₁₀⟩ := h
    simp [h₁, h₂, h₃, h₄, h₅, h₆, h₇, h₈, h₉, h₁₀]

def sessionRole : Codec SessionRole Json where
  encode
    | .initiator => .string "Initiator"
    | .responder => .string "Responder"
  decode v :=
    match variantName v with
    | some "Initiator" => some .initiator
    | some "Responder" => some .responder
    | _ => none
  decode_encode r := by cases r <;> rfl

/-- `Session` -/
def session : StructCodec (Session (Vector UInt8 32)) where
  fields := ["remote_user_id", "remote_device_id", "role", "our_identity", "their_identity",
    "ratchet", "version"]
  nodup := by decide
  values s := [string.encode s.remoteUserId, u32.encode s.remoteDeviceId,
    sessionRole.encode s.role, identityKeyPair.codec.encode s.ourIdentity,
    key.encode s.theirIdentity, ratchet.codec.encode s.ratchet, u8.encode s.version]
  length_values _ := rfl
  least := 7
  build g := do
    return {
      remoteUserId := ← (g "remote_user_id").bind string.decode
      remoteDeviceId := ← (g "remote_device_id").bind u32.decode
      role := ← (g "role").bind sessionRole.decode
      ourIdentity := ← (g "our_identity").bind identityKeyPair.codec.decode
      theirIdentity := ← (g "their_identity").bind key.decode
      ratchet := ← (g "ratchet").bind ratchet.codec.decode
      version := ← (g "version").bind u8.decode }
  build_values s g h := by
    simp only [List.map_cons, List.map_nil, List.cons.injEq, and_true] at h
    obtain ⟨h₁, h₂, h₃, h₄, h₅, h₆, h₇⟩ := h
    simp [h₁, h₂, h₃, h₄, h₅, h₆, h₇]

/-! ### They fit -/

theorem fits_receiptType (n : ℕ) : Fits .object n receiptType := by
  intro t
  cases t <;> exact .string n _

theorem fits_sessionRole (n : ℕ) : Fits .object n sessionRole := by
  intro r
  cases r <;> exact .string n _

theorem fits_sessionMessage : Fits .object 2 sessionMessage.codec := by
  refine StructCodec.fits fun m => ?_
  simp only [sessionMessage, List.forall_mem_cons]
  exact ⟨fits_u8 1 _, fits_vec (fits_u8 0) _, fits_nonce 0 _, fits_key 0 _, fits_u32 1 _,
    List.forall_mem_nil _⟩

theorem fits_envelope : Fits .object 2 envelope.codec := by
  refine StructCodec.fits fun e => ?_
  simp only [envelope, List.forall_mem_cons]
  exact ⟨fits_string 1 _, fits_string 1 _, fits_u32 1 _, fits_u64 1 _, fits_vec (fits_u8 0) _,
    fits_msgType 1 _, List.forall_mem_nil _⟩

theorem fits_receiptContent : Fits .object 1 receiptContent.codec := by
  refine StructCodec.fits fun r => ?_
  simp only [receiptContent, List.forall_mem_cons]
  exact ⟨fits_receiptType 0 _, fits_string 0 _, fits_u64 0 _, List.forall_mem_nil _⟩

theorem fits_preKeyBundleMessage : Fits .object 3 preKeyBundleMessage.codec := by
  refine StructCodec.fits fun m => ?_
  simp only [preKeyBundleMessage, List.forall_mem_cons]
  exact ⟨fits_key 1 _, fits_key 1 _, fits_sessionMessage _, List.forall_mem_nil _⟩

theorem fits_keyPair : Fits .object 2 keyPair.codec := by
  refine StructCodec.fits fun k => ?_
  simp only [keyPair, List.forall_mem_cons]
  exact ⟨fits_secretKey 1 _, fits_key 0 _, List.forall_mem_nil _⟩

theorem fits_identityKeyPair : Fits .object 3 identityKeyPair.codec := by
  refine StructCodec.fits fun k => ?_
  simp only [identityKeyPair, List.forall_mem_cons]
  exact ⟨fits_keyPair _, List.forall_mem_nil _⟩

theorem fits_ratchet : Fits .object 3 ratchet.codec := by
  refine StructCodec.fits fun r => ?_
  simp only [ratchet, List.forall_mem_cons]
  exact ⟨fits_keyPair _, fits_key 1 _, fits_secretKey 2 _, fits_secretKey 2 _, fits_secretKey 2 _,
    fits_u32 2 _, fits_u32 2 _, fits_u32 2 _, fits_u32 2 _, fits_bool 2 _, List.forall_mem_nil _⟩

theorem fits_session : Fits .object 4 session.codec := by
  refine StructCodec.fits fun s => ?_
  simp only [session, List.forall_mem_cons]
  exact ⟨fits_string 3 _, fits_u32 3 _, fits_sessionRole 3 _, fits_identityKeyPair _,
    fits_key 2 _, fits_ratchet _, fits_u8 3 _, List.forall_mem_nil _⟩

/-! ## Texts -/

variable {α : Type}

/-- `serde_json::from_str` into a type. -/
def readAs (F : Floats) (C : Codec α Json) (cs : List Char) : Option α :=
  (readText .object F cs).bind C.decode

/-- A type's texts. -/
def text (F : Floats) (C : Codec α Json) {n : ℕ} (hn : n ≤ 127) (h : Fits .object n C) :
    Codec α String where
  encode a := (C.encode a).toText F
  decode s := readAs F C s.toList
  decode_encode a := by
    unfold readAs
    rw [readText_toText ((h a).mono hn), Option.bind_some, Codec.decode_encode]

/-- Texts as bytes. -/
def bytes (C : Codec α String) : Codec α Bytes where
  encode a := utf8 (C.encode a)
  decode bs := (fromUtf8? bs).bind C.decode
  decode_encode a := by rw [fromUtf8?_utf8, Option.bind_some, Codec.decode_encode]

/-- `serde_json`, for the keys as they are. -/
def serdeJson (F : Floats) : Serde (Vector UInt8 32) where
  envelope := text F envelope.codec (by decide) fits_envelope
  receiptContent := bytes (text F receiptContent.codec (by decide) fits_receiptContent)
  sessionMessage := bytes (text F sessionMessage.codec (by decide) fits_sessionMessage)
  preKeyBundleMessage :=
    bytes (text F preKeyBundleMessage.codec (by decide) fits_preKeyBundleMessage)
  session := text F session.codec (by decide) fits_session

end WireText

end TinTin.Cli
