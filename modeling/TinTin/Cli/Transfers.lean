/-
  File transfers from several senders.

  * `InOrder`: the payloads of an open transfer come from the sender who has opened it, and name
    places below the number of chunks announced.
  * `transfer_uncorrupted`: then every file written has the latest chunk of its sender for every
    place, and the payloads of the others have no part in it.
  * `corrupted_transfer`: a chunk of another sender goes into the file, and two chunks at places
    that do not exist complete it.
-/
import TinTin.Cli.Fragments
import TinTin.Lib.Chunks

namespace TinTin.Cli

open TinTin.Lib TinTin.Core

variable {Key : Type}

/-! ## Statement -/

/-- The files that `process_file_chunk` writes for a payload. -/
def Client.writes (X : Crates Key) (c : Client Key) (plaintext : Bytes) : List (String × Bytes) :=
  match c.processFileChunk X plaintext with
  | some (_, c') => c'.downloads.drop c.downloads.length
  | none => []

/-- The data of the last payload of a sender for a place of a file. -/
def latest (X : Crates Key) (arrivals : List Arrival) (sender fileId : String) (i : ℕ) :
    Option Bytes :=
  (((fragments X arrivals).filter fun k =>
    k.1 = sender ∧ k.2.fileId = fileId ∧ k.2.chunkIndex = UInt64.ofNat i).getLast?).map (·.2.data)

/-- Every payload that finds an entry for its file comes from the sender whose payload has made the
    entry, and its place is below the number of chunks that the entry was made with. -/
structure InOrder (X : Crates Key) (arrivals : List Arrival) : Prop where
  sender : transfers.Orderly (fragments X arrivals)
  place : transfers.Each (fun first k => k.2.chunkIndex < first.2.totalChunks)
    (fragments X arrivals)

/-- A file written for the last payload, where `first` has opened the transfer: its sender has sent
    a chunk for every place, the latest ones are the file, and without the payloads of the others
    it is written just so. -/
structure Rightful (X : Crates Key) (c : Client Key) (arrivals : List Arrival) (a : Arrival)
    (first : String × Fragment) (file : String × Bytes) : Prop where
  received : ∀ i < first.2.totalChunks.toNat,
    (latest X (arrivals ++ [a]) first.1 first.2.fileId i).isSome
  bytes : file.2 = (List.range first.2.totalChunks.toNat).flatMap fun i =>
    (latest X (arrivals ++ [a]) first.1 first.2.fileId i).getD []
  sender : a.sender = first.1
  alone : ∃ c₁, c.takeAll X (arrivals.filter fun b => b.sender = first.1) = some c₁ ∧
    c₁.writes X a.plaintext = [file]

/-! ## Entries -/

/-- What an entry says is what its first payload says. -/
theorem entryMade_cons (k : String × Fragment) (ks : List (String × Fragment)) :
    ∃ f, entryMade (k :: ks) = some f ∧ f.fileName = k.2.fileName ∧
      f.fileSize = k.2.fileSize ∧ f.totalChunks = k.2.totalChunks := by
  induction ks using List.reverseRecOn with
  | nil => exact ⟨_, rfl, rfl, rfl, rfl⟩
  | append_singleton ks k' ih =>
    obtain ⟨f, hf, hname, hsize, htotal⟩ := ih
    rw [← List.cons_append, entryMade_snoc, hf]
    exact ⟨_, rfl, hname, hsize, htotal⟩

/-- An entry has the last of its payloads at each place. -/
theorem lookup_entryMade {ks : List (String × Fragment)} {f : PendingFile}
    (h : entryMade ks = some f) (i : UInt64) :
    f.receivedChunks.lookup i =
      ((ks.filter fun k => k.2.chunkIndex = i).getLast?).map (·.2.data) := by
  induction ks using List.reverseRecOn generalizing f with
  | nil => cases h
  | append_singleton ks k ih =>
    rw [entryMade_snoc] at h
    obtain rfl := Option.some.inj h
    have hbefore : (((entryMade ks).getD k.2.announced).receivedChunks.lookup i) =
        ((ks.filter fun k => k.2.chunkIndex = i).getLast?).map (·.2.data) := by
      cases hks : entryMade ks with
      | some g => exact ih hks
      | none =>
        cases ks with
        | nil => rfl
        | cons k₀ ks => cases hks
    unfold PendingFile.place
    by_cases hi : k.2.chunkIndex = i
    · rw [filter_snoc_of_pos (fun k : String × Fragment => k.2.chunkIndex = i) hi, List.getLast?_append]
      subst hi
      exact AList.lookup_insert _
    · rw [filter_snoc_of_neg (fun k : String × Fragment => k.2.chunkIndex = i) hi, ← hbefore]
      exact AList.lookup_insert_ne (fun heq => hi heq.symm)

/-- An entry has just the places of its payloads. -/
theorem mem_entryMade {ks : List (String × Fragment)} {f : PendingFile}
    (h : entryMade ks = some f) (i : UInt64) :
    i ∈ f.receivedChunks ↔ ∃ k ∈ ks, k.2.chunkIndex = i := by
  rw [← AList.lookup_isSome, lookup_entryMade h, Option.isSome_map, List.getLast?_isSome]
  simp [List.filter_eq_nil_iff]

/-- An entry whose places are all below the number of chunks is full when it has every place. -/
theorem PendingFile.full_iff {f : PendingFile} (h : ∀ i ∈ f.receivedChunks, i < f.totalChunks) :
    f.full = true ↔ ∀ i < f.totalChunks.toNat, UInt64.ofNat i ∈ f.receivedChunks := by
  have hlt := f.totalChunks.toNat_lt
  have hnodup : ((List.range f.totalChunks.toNat).map UInt64.ofNat).Nodup := by
    refine List.Nodup.map_on (fun i hi j hj heq => ?_) List.nodup_range
    have hi := List.mem_range.mp hi
    have hj := List.mem_range.mp hj
    have hij := congrArg UInt64.toNat heq
    rwa [UInt64.toNat_ofNat_of_lt' (hi.trans hlt), UInt64.toNat_ofNat_of_lt' (hj.trans hlt)] at hij
  have hplaces : ∀ i ∈ f.receivedChunks,
      i ∈ (List.range f.totalChunks.toNat).map UInt64.ofNat := by
    intro i hi
    refine List.mem_map.mpr ⟨i.toNat, List.mem_range.mpr ?_, UInt64.ofNat_toNat⟩
    exact UInt64.lt_iff_toNat_lt.mp (h i hi)
  have hfull := length_eq_iff_full hnodup hplaces
  rw [List.length_map, List.length_range] at hfull
  unfold PendingFile.full
  rw [beq_iff_eq, hfull, List.forall_mem_map]
  exact forall_congr' fun i => by rw [List.mem_range]

/-! ## Runs -/

namespace Client

variable {X : Crates Key}

theorem writes_fragment {plaintext : Bytes} {k : Fragment} (hk : readFragment X plaintext = some k)
    (c : Client Key) : c.writes X plaintext =
      if (c.entryFor k).full = true ∧ (c.entryFor k).fileSize.toNat < 2 ^ 63 then
        [((c.entryFor k).fileName, (c.entryFor k).assemble)]
      else [] := by
  unfold writes
  rw [processFileChunk_fragment hk]
  by_cases hfull : (c.entryFor k).full = true
  · by_cases hsize : (c.entryFor k).fileSize.toNat < 2 ^ 63
    · rw [if_pos hfull, if_pos hsize, if_pos ⟨hfull, hsize⟩]
      exact List.drop_left
    · rw [if_pos hfull, if_neg hsize, if_neg (fun h : _ ∧ _ => hsize h.2)]
  · rw [if_neg hfull, if_neg (fun h : _ ∧ _ => hfull h.1)]
    split_ifs
    · rfl
    · exact List.drop_length

theorem writes_other {plaintext : Bytes} (h : readFragment X plaintext = none) (c : Client Key) :
    c.writes X plaintext = [] := by
  unfold writes
  rw [processFileChunk_other h]
  exact List.drop_length

/-- What a payload does depends only on the entry it goes into. -/
theorem exists_take {plaintext : Bytes} {k : Fragment} (hk : readFragment X plaintext = some k)
    {c₁ c₂ : Client Key} (h : c₁.entryFor k = c₂.entryFor k) {b : Bool} {c₂' : Client Key}
    (htake : c₂.processFileChunk X plaintext = some (b, c₂')) :
    ∃ c₁', c₁.processFileChunk X plaintext = some (b, c₁') := by
  rw [processFileChunk_fragment hk] at htake
  rw [processFileChunk_fragment hk, h]
  split_ifs at htake with hfull hsize htotal
  · obtain ⟨rfl, -⟩ := Prod.mk.inj (Option.some.inj htake)
    rw [if_pos hfull, if_pos hsize]
    exact ⟨_, rfl⟩
  · obtain ⟨rfl, -⟩ := Prod.mk.inj (Option.some.inj htake)
    rw [if_neg hfull, if_neg htotal]
    exact ⟨_, rfl⟩

end Client

/-! ### Senders -/

section

variable {X : Crates Key}

theorem fragments_filter (arrivals : List Arrival) (s : String) :
    fragments X (arrivals.filter fun a => a.sender = s) =
      (fragments X arrivals).filter fun k => k.1 = s := by
  unfold fragments
  rw [List.filterMap_filter, List.filter_filterMap]
  congr 1
  funext a
  cases readFragment X a.plaintext with
  | none => simp
  | some k => by_cases hs : a.sender = s <;> simp [hs, Option.filter]

theorem fragments_snoc_some {arrivals : List Arrival} {a : Arrival} {k : Fragment}
    (hk : readFragment X a.plaintext = some k) :
    fragments X (arrivals ++ [a]) = fragments X arrivals ++ [(a.sender, k)] := by
  rw [fragments_snoc, hk]
  rfl

theorem fragments_cons_some {arrivals : List Arrival} {a : Arrival} {k : Fragment}
    (hk : readFragment X a.plaintext = some k) :
    fragments X (a :: arrivals) = (a.sender, k) :: fragments X arrivals := by
  rw [fragments, List.filterMap_cons, hk]
  rfl

theorem fragments_snoc_none {arrivals : List Arrival} {a : Arrival}
    (hk : readFragment X a.plaintext = none) :
    fragments X (arrivals ++ [a]) = fragments X arrivals := by
  rw [fragments_snoc, hk, Option.map_none, Option.toList_none, List.append_nil]

theorem InOrder.init {arrivals : List Arrival} {a : Arrival} (h : InOrder X (arrivals ++ [a])) :
    InOrder X arrivals := by
  cases hk : readFragment X a.plaintext with
  | none =>
    obtain ⟨hsender, hplace⟩ := h
    rw [fragments_snoc_none hk] at hsender hplace
    exact ⟨hsender, hplace⟩
  | some k =>
    obtain ⟨hsender, hplace⟩ := h
    rw [fragments_snoc_some hk] at hsender hplace
    exact ⟨Gathering.Each.init hsender, hplace.init⟩

end

namespace Client

variable {X : Crates Key}

/-- What a payload goes into is the same in a run with the payloads of its sender alone. -/
theorem entryFor_alone {c₁ c₂ : Client Key} {ks : List (String × Fragment)} {s : String}
    {k : Fragment} (h₂ : c₂.Gathered ks) (h₁ : c₁.Gathered (ks.filter fun b => b.1 = s))
    (horder : transfers.Orderly (ks ++ [(s, k)])) : c₁.entryFor k = c₂.entryFor k := by
  have hjoined := Gathering.joined_filter horder
  apply Option.some.inj
  rw [← h₁.entryFor s k, ← h₂.entryFor s k, ← hjoined]
  rfl

/-- **The payloads of one sender** by themselves do not panic either. -/
theorem takeAll_alone {c c' : Client Key} (hnew : c.pendingFiles = ∅) {arrivals : List Arrival}
    (hrun : c.takeAll X arrivals = some c') (h : InOrder X arrivals) (s : String) :
    ∃ c₁, c.takeAll X (arrivals.filter fun a => a.sender = s) = some c₁ := by
  induction arrivals using List.reverseRecOn generalizing c' with
  | nil => exact ⟨c, rfl⟩
  | append_singleton arrivals a ih =>
    rw [takeAll_snoc, Option.bind_eq_some_iff] at hrun
    obtain ⟨c₂, hc₂, hstep⟩ := hrun
    obtain ⟨⟨b, c₃⟩, htake, rfl⟩ := Option.map_eq_some_iff.mp hstep
    obtain ⟨c₁, hc₁⟩ := ih hc₂ h.init
    by_cases hs : a.sender = s
    · subst hs
      rw [filter_snoc_of_pos (fun b : Arrival => b.sender = a.sender) rfl, takeAll_snoc, hc₁,
        Option.bind_some]
      cases hk : readFragment X a.plaintext with
      | none =>
        rw [processFileChunk_other hk]
        exact ⟨c₁, rfl⟩
      | some k =>
        have horder := h.sender
        rw [fragments_snoc_some hk] at horder
        have h₁ := gathered_takeAll hnew hc₁
        rw [fragments_filter] at h₁
        obtain ⟨c₁', h'⟩ := exists_take hk
          (entryFor_alone (gathered_takeAll hnew hc₂) h₁ horder) htake
        rw [h']
        exact ⟨c₁', rfl⟩
    · rw [filter_snoc_of_neg (fun b : Arrival => b.sender = s) hs]
      exact ⟨c₁, hc₁⟩

/-- What a payload writes is the same in a run with the payloads of its sender alone. -/
theorem writes_alone {c c' : Client Key} (hnew : c.pendingFiles = ∅) {arrivals : List Arrival}
    {a : Arrival} (hrun : c.takeAll X arrivals = some c') (h : InOrder X (arrivals ++ [a])) :
    ∃ c₁, c.takeAll X (arrivals.filter fun b => b.sender = a.sender) = some c₁ ∧
      c₁.writes X a.plaintext = c'.writes X a.plaintext := by
  obtain ⟨c₁, hc₁⟩ := takeAll_alone hnew hrun h.init a.sender
  refine ⟨c₁, hc₁, ?_⟩
  cases hk : readFragment X a.plaintext with
  | none => rw [writes_other hk, writes_other hk]
  | some k =>
    have horder := h.sender
    rw [fragments_snoc_some hk] at horder
    have h₁ := gathered_takeAll hnew hc₁
    rw [fragments_filter] at h₁
    rw [writes_fragment hk, writes_fragment hk,
      entryFor_alone (gathered_takeAll hnew hrun) h₁ horder]

/-- The latest payloads of a sender are those of the open transfer, where it has them. -/
theorem latest_joined {arrivals : List Arrival} {a : Arrival} {k : Fragment}
    (hk : readFragment X a.plaintext = some k) (h : InOrder X (arrivals ++ [a])) {f : PendingFile}
    (hf : entryMade (transfers.joined (fragments X arrivals) (a.sender, k)) = some f) {i : ℕ}
    (hi : UInt64.ofNat i ∈ f.receivedChunks) :
    latest X (arrivals ++ [a]) a.sender k.fileId i = f.receivedChunks.lookup (UInt64.ofNat i) := by
  have horder := h.sender
  rw [fragments_snoc_some hk] at horder
  have hall : ∀ b ∈ transfers.joined (fragments X arrivals) (a.sender, k),
      b.1 = a.sender ∧ b.2.fileId = k.fileId := fun b hb =>
    ⟨Gathering.Orderly.owner_joined horder hb, Gathering.key_of_mem_joined hb⟩
  obtain ⟨b, hb, hbi⟩ := (mem_entryMade hf _).mp hi
  have hlast := getLast?_filter_of_suffix (Gathering.joined_suffix (fragments X arrivals)
    (a.sender, k)) (p := fun b => b.1 = a.sender ∧ b.2.fileId = k.fileId ∧
      b.2.chunkIndex = UInt64.ofNat i) hb (decide_eq_true ⟨(hall b hb).1, (hall b hb).2, hbi⟩)
  have hsame : (transfers.joined (fragments X arrivals) (a.sender, k)).filter (fun b =>
      b.1 = a.sender ∧ b.2.fileId = k.fileId ∧ b.2.chunkIndex = UInt64.ofNat i) =
      (transfers.joined (fragments X arrivals) (a.sender, k)).filter fun b =>
        b.2.chunkIndex = UInt64.ofNat i := by
    refine List.filter_congr fun b hb => decide_eq_decide.mpr ?_
    exact ⟨fun h => h.2.2, fun h => ⟨(hall b hb).1, (hall b hb).2, h⟩⟩
  rw [lookup_entryMade hf, ← hsame, ← hlast, latest, fragments_snoc_some hk, List.filter_filter]
  congr 2
  refine List.filter_congr fun b _ => ?_
  rw [← Bool.decide_and]
  refine decide_eq_decide.mpr ⟨fun h => ⟨h, h.2.1⟩, fun h => h.1⟩

/-- **A file that is written is the sender's.** In any run in which every payload comes in order,
    from whatever senders and with whatever ids, a file that is written for the transfer that
    `first` has opened is rightful. -/
theorem transfer_uncorrupted {c c' : Client Key} (hnew : c.pendingFiles = ∅)
    {arrivals : List Arrival} {a : Arrival} (hrun : c.takeAll X arrivals = some c')
    (h : InOrder X (arrivals ++ [a])) :
    (∃ c₁, c.takeAll X (arrivals.filter fun b => b.sender = a.sender) = some c₁ ∧
      c₁.writes X a.plaintext = c'.writes X a.plaintext) ∧
    ∀ file ∈ c'.writes X a.plaintext, ∃ k, readFragment X a.plaintext = some k ∧
      Rightful X c arrivals a (transfers.opener (fragments X arrivals) (a.sender, k)) file := by
  have halone := writes_alone hnew hrun h
  refine ⟨halone, fun file hfile => ?_⟩
  cases hk : readFragment X a.plaintext with
  | none =>
    rw [writes_other hk] at hfile
    cases hfile
  | some k =>
    refine ⟨k, rfl, ?_⟩
    rw [writes_fragment hk] at hfile
    split_ifs at hfile with hwritten
    · have hplace := h.place
      have hsender := h.sender
      rw [fragments_snoc_some hk] at hplace hsender
      have hf := (gathered_takeAll hnew hrun).entryFor a.sender k
      obtain ⟨rest, hjoined⟩ := transfers.joined_eq_cons (fragments X arrivals) (a.sender, k)
      have hfirst := transfers.opener_mem_joined (fragments X arrivals) (a.sender, k)
      have hplaces : ∀ b ∈ transfers.joined (fragments X arrivals) (a.sender, k), b.2.chunkIndex <
        (transfers.opener (fragments X arrivals) (a.sender, k)).2.totalChunks :=
        fun b hb => hplace.joined hb
      generalize transfers.opener (fragments X arrivals) (a.sender, k) = first at *
      have howner : first.1 = a.sender := Gathering.Orderly.owner_joined hsender hfirst
      have hid : first.2.fileId = k.fileId := Gathering.key_of_mem_joined hfirst
      obtain ⟨f', hf', -, -, htotal⟩ := entryMade_cons first rest
      rw [← hjoined, hf] at hf'
      obtain rfl := Option.some.inj hf'
      have hbelow : ∀ i ∈ (c'.entryFor k).receivedChunks, i < (c'.entryFor k).totalChunks := by
        intro i hi
        obtain ⟨b, hb, rfl⟩ := (mem_entryMade hf i).mp hi
        rw [htotal]
        exact hplaces b hb
      have hall := (PendingFile.full_iff hbelow).mp hwritten.1
      have hlatest : ∀ i < first.2.totalChunks.toNat,
          latest X (arrivals ++ [a]) first.1 first.2.fileId i =
            (c'.entryFor k).receivedChunks.lookup (UInt64.ofNat i) := by
        intro i hi
        rw [howner, hid]
        exact latest_joined hk h hf (hall i (htotal ▸ hi))
      obtain rfl := List.mem_singleton.mp hfile
      refine ⟨fun i hi => ?_, ?_, howner.symm, ?_⟩
      · rw [hlatest i hi]
        exact AList.lookup_isSome.mpr (hall i (htotal ▸ hi))
      · unfold PendingFile.assemble
        rw [htotal]
        refine List.flatMap_congr fun i hi => ?_
        rw [hlatest i (List.mem_range.mp hi)]
      · obtain ⟨c₁, hc₁, hsame⟩ := halone
        refine ⟨c₁, howner ▸ hc₁, ?_⟩
        rw [hsame, writes_fragment hk, if_pos hwritten]
    · cases hfile

end Client

/-! ### Two senders -/

open TinTin.Symbolic

def bobReceiving : Client Term := Client.new symbolic (.secret 0) (.secret 1) "bob"

/-- A payload of a file of two chunks. -/
def notesChunk (i : UInt64) (data : Bytes) : Fragment := ⟨"1f", "notes.txt", 2, 2, i, data⟩

def notesArrival (sender : String) (i : UInt64) (data : Bytes) : Arrival :=
  ⟨sender, (notesChunk i data).payload textWriters⟩

/-- The client after the first chunk of a file. -/
def afterOne (i : UInt64) (data : Bytes) : Client Term :=
  { bobReceiving with
    pendingFiles := bobReceiving.pendingFiles.insert "1f"
      ((notesChunk i data).announced.place (notesChunk i data)) }

theorem takeAll_one (sender : String) (i : UInt64) (data : Bytes) :
    bobReceiving.takeAll textCrates [notesArrival sender i data] = some (afterOne i data) := by
  have htake := Client.processFileChunk_fragment
    (readFragment_payload textWriters_readBy (notesChunk i data)) bobReceiving
  unfold Client.takeAll
  rw [List.foldlM_cons]
  change ((bobReceiving.processFileChunk textCrates _).map Prod.snd).bind _ = _
  unfold notesArrival
  rw [htake]
  rfl

theorem readFragment_notes (sender : String) (i : UInt64) (data : Bytes) :
    readFragment textCrates (notesArrival sender i data).plaintext = some (notesChunk i data) := by
  dsimp only [notesArrival]
  exact readFragment_payload textWriters_readBy (notesChunk i data)

/-- The entry with both chunks. -/
def bothChunks (i j : UInt64) (data data' : Bytes) : PendingFile :=
  ((notesChunk i data).announced.place (notesChunk i data)).place (notesChunk j data')

theorem writes_two {i j : UInt64} {data data' : Bytes} (hfull : (bothChunks i j data data').full)
    (sender : String) : (afterOne i data).writes textCrates (notesArrival sender j data').plaintext =
      [("notes.txt", (bothChunks i j data data').assemble)] := by
  have hentry : (afterOne i data).entryFor (notesChunk j data') = bothChunks i j data data' := by
    unfold Client.entryFor afterOne
    rw [show (notesChunk j data').fileId = "1f" from rfl, AList.lookup_insert]
    rfl
  have hsize : (bothChunks i j data data').fileSize.toNat < 2 ^ 63 := by
    change (2 : UInt64).toNat < 2 ^ 63
    decide
  rw [Client.writes_fragment (readFragment_notes sender j data'), hentry, if_pos ⟨hfull, hsize⟩]
  rfl

/-- A chunk of Mallory's own file. -/
def otherChunk : Fragment := ⟨"2a", "list.txt", 9, 2, 0, [120]⟩

def otherArrival : Arrival := ⟨"mallory", otherChunk.payload textWriters⟩

theorem transfer_uncorrupted_notes : ∃ c,
    bobReceiving.takeAll textCrates [notesArrival "alice" 0 [104], otherArrival] = some c ∧
    ∀ file ∈ c.writes textCrates (notesArrival "alice" 1 [105]).plaintext, ∃ k,
      readFragment textCrates (notesArrival "alice" 1 [105]).plaintext = some k ∧
      Rightful textCrates bobReceiving [notesArrival "alice" 0 [104], otherArrival]
        (notesArrival "alice" 1 [105]) (transfers.opener (fragments textCrates
          [notesArrival "alice" 0 [104], otherArrival]) ("alice", k)) file := by
  have hread : readFragment textCrates otherArrival.plaintext = some otherChunk := by
    dsimp only [otherArrival]
    exact readFragment_payload textWriters_readBy otherChunk
  have hother : (afterOne 0 [104]).processFileChunk textCrates otherArrival.plaintext =
      some (true, { afterOne 0 [104] with
        pendingFiles := (afterOne 0 [104]).pendingFiles.insert "2a"
          (otherChunk.announced.place otherChunk) }) := by
    rw [Client.processFileChunk_fragment hread]
    rfl
  have hrun : bobReceiving.takeAll textCrates [notesArrival "alice" 0 [104], otherArrival] =
      some { afterOne 0 [104] with
        pendingFiles := (afterOne 0 [104]).pendingFiles.insert "2a"
          (otherChunk.announced.place otherChunk) } := by
    have hsnoc := bobReceiving.takeAll_snoc (X := textCrates) [notesArrival "alice" 0 [104]]
      otherArrival
    rw [takeAll_one, Option.bind_some, hother] at hsnoc
    exact hsnoc
  have hfragments : fragments textCrates ([notesArrival "alice" 0 [104], otherArrival] ++
      [notesArrival "alice" 1 [105]]) =
      ([] ++ [("alice", notesChunk 0 [104])] ++ [("mallory", otherChunk)]) ++
        [("alice", notesChunk 1 [105])] := by
    rw [List.cons_append, List.singleton_append, fragments_cons_some (readFragment_notes _ _ _),
      fragments_cons_some hread, fragments_cons_some (readFragment_notes _ _ _)]
    rfl
  refine ⟨_, hrun, (Client.transfer_uncorrupted rfl hrun ⟨?_, ?_⟩).2⟩
  · rw [hfragments]
    refine Gathering.Each.snoc (Gathering.Each.snoc (Gathering.Each.nil.snoc ?_) ?_) ?_
    · decide
    · decide
    · decide
  · rw [hfragments]
    refine Gathering.Each.snoc (Gathering.Each.snoc (Gathering.Each.nil.snoc ?_) ?_) ?_ <;> decide

/-- Mallory's chunk goes into a file of Alice's, and a file of hers is written that has neither of
    its two chunks. -/
theorem corrupted_transfer :
    (∃ c, bobReceiving.takeAll textCrates [notesArrival "alice" 0 [104]] = some c ∧
      ("notes.txt", [104, 33]) ∈ c.writes textCrates (notesArrival "mallory" 1 [33]).plaintext ∧
      ¬ Rightful textCrates bobReceiving [notesArrival "alice" 0 [104]]
        (notesArrival "mallory" 1 [33]) ("alice", notesChunk 0 [104]) ("notes.txt", [104, 33])) ∧
    (∃ c, bobReceiving.takeAll textCrates [notesArrival "alice" 7 [104]] = some c ∧
      ("notes.txt", []) ∈ c.writes textCrates (notesArrival "alice" 8 [105]).plaintext ∧
      ¬ Rightful textCrates bobReceiving [notesArrival "alice" 7 [104]]
        (notesArrival "alice" 8 [105]) ("alice", notesChunk 7 [104]) ("notes.txt", [])) := by
  refine ⟨⟨_, takeAll_one "alice" 0 [104], ?_, ?_⟩, ⟨_, takeAll_one "alice" 7 [104], ?_, ?_⟩⟩
  · rw [writes_two (by decide) "mallory"]
    exact List.mem_singleton.mpr rfl
  · intro h
    exact absurd h.sender (by decide)
  · rw [writes_two (by decide) "alice"]
    exact List.mem_singleton.mpr rfl
  · intro h
    have hfirst := h.received 0 (by decide)
    unfold latest at hfirst
    rw [List.singleton_append, fragments_cons_some (readFragment_notes _ _ _),
      fragments_cons_some (readFragment_notes _ _ _)] at hfirst
    cases hfirst

end TinTin.Cli
