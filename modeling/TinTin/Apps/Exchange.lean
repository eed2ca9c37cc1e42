/-
  Requests and answers as lines of JSON between a terminal client and the relay.

  * `value_request`: the relay reads each request as the object that was sent.
  * `read_answer`: the client reads each answer's members, if its data is one that is read as it
    was written.
-/
import TinTin.Apps.PollNumbers
import TinTin.Apps.Requests
import TinTin.Apps.Sockets

namespace TinTin.Apps.Exchange

open TinTin.Lib TinTin.Core TinTin.Cli TinTin.Cli.Json TinTin.Cli.Wire TinTin.Cli.WireText
  TinTin.Server TinTin.Server.Service

/-- A library that says nothing of an error. -/
def mute : Sockets.Complaints := ⟨fun _ => "", fun _ => ""⟩

/-! ## Requests -/

theorem fit_envelope (e : Envelope) : Fit Json.obj 2 (Wire.envelope.encode e) := by
  refine Fit.obj ?_
  simp only [List.forall_mem_cons]
  exact ⟨fits_string 1 _, fits_string 1 _, fits_u32 1 _, fits_u64 1 _,
    fits_vec (fits_u8 0) e.content, fits_msgType 1 _, List.forall_mem_nil _⟩

theorem fit_preKeyBundle (b : PreKeyBundle Key32) : Fit Json.obj 2 (Wire.preKeyBundle.encode b) := by
  refine Fit.obj ?_
  simp only [List.forall_mem_cons]
  exact ⟨fits_key 0 _, fits_u32 1 _, fits_u32 1 _, fits_key 0 _, fits_vec (fits_u8 0) _,
    fit_ofOption (fits_u32 1) _, fit_ofOption (fits_key 0) _, List.forall_mem_nil _⟩

/-- **What every method sends** is read as it was written. -/
theorem fit_request (c : Client Key32) (m : Method) : Fit Json.obj 3 (request c m) := by
  have hstring : Fits Json.obj 2 string := fits_string 2
  have hid : Fits Json.obj 2 i64 := fits_i64 2
  have hnil := List.forall_mem_nil fun m : String × Json => Fit Json.obj 2 m.2
  cases m with
  | register =>
    refine Fit.obj ?_
    simp only [List.forall_mem_cons]
    exact ⟨hstring _, hstring _, fits_key 1 _, fit_preKeyBundle _, hnil⟩
  | send e =>
    refine Fit.obj ?_
    simp only [List.forall_mem_cons]
    exact ⟨hstring _, fit_envelope e, hnil⟩
  | createPoll question options =>
    refine Fit.obj ?_
    simp only [List.forall_mem_cons]
    exact ⟨hstring _, hstring _, hstring _, fits_vec (fits_string 1) options, hnil⟩
  | votePoll pollId optionId =>
    refine Fit.obj ?_
    simp only [List.forall_mem_cons]
    exact ⟨hstring _, hid _, hstring _, hid _, hnil⟩
  | postToTimeline content targetUser =>
    refine Fit.obj ?_
    cases targetUser <;> simp only [List.cons_append, List.nil_append, List.forall_mem_cons]
    · exact ⟨hstring _, hstring _, hstring _, hnil⟩
    · exact ⟨hstring _, hstring _, hstring _, hstring _, hnil⟩
  | addComment postId content =>
    refine Fit.obj ?_
    simp only [List.forall_mem_cons]
    exact ⟨hstring _, hid _, hstring _, hstring _, hnil⟩
  | subscribeChannel _ | unsubscribeChannel _ | closePoll _ | deletePost _ =>
    refine Fit.obj ?_
    simp only [List.forall_mem_cons]
    exact ⟨hstring _, hid _, hstring _, hnil⟩
  | channelMembers _ | pollResults _ | getPostComments _ =>
    refine Fit.obj ?_
    simp only [List.forall_mem_cons]
    exact ⟨hstring _, hid _, hnil⟩
  | setMyPresence _ | createGroup _ | joinGroup _ | leaveGroup _ | createChannel _ | setStory _ =>
    refine Fit.obj ?_
    simp only [List.forall_mem_cons]
    exact ⟨hstring _, hstring _, hstring _, hnil⟩
  | fetchBundle _ | receiveMessages | syncGroups | groupMembers _ | listMyChannels
  | getTimelinePosts | clearStory =>
    refine Fit.obj ?_
    simp only [List.forall_mem_cons]
    exact ⟨hstring _, hstring _, hnil⟩
  | listUsers | listAllChannels | listPolls | getStories =>
    refine Fit.obj ?_
    simp only [List.forall_mem_cons]
    exact ⟨hstring _, hnil⟩

/-- `send_json`, and `handle_command` at the other end. -/
theorem value_request (F : Floats) (E : Sockets.Complaints) (c : Client Key32) (m : Method) :
    (Sockets.texts F E).value ((request c m).toText F) = some (request c m) :=
  readText_toText ((fit_request c m).mono (by decide)) F

/-! ## Answers -/

/-- What a client has read of an answer. -/
structure Reads (r : ServerResponse) (v : Json) : Prop where
  status : (v.index "status").asStr = some r.status
  data : v.index "data" = r.data.getD .null
  error : v.index "error" = (r.error.map string.encode).getD .null

/-- **An answer is read for what it says.** -/
theorem read_answer {r : ServerResponse} (h : ∀ v ∈ r.data, Fit Json.obj 126 v) (F : Floats) :
    ∃ v, Json.fromStr F (r.toJson.toText F) = some v ∧ Reads r v := by
  obtain ⟨status, data, error⟩ := r
  refine ⟨_, readText_object (fun m hm => ?_) F, ?_⟩
  · rcases List.mem_append.mp hm with hm | hm
    · rcases List.mem_append.mp hm with hm | hm
      · rw [List.mem_singleton.mp hm]
        exact .string 126 _
      · obtain ⟨v, hv, rfl⟩ := by simpa using hm
        exact h v hv
    · obtain ⟨text, -, rfl⟩ := by simpa using hm
      exact .string 126 _
  · cases data <;> cases error <;>
      exact ⟨by simp [index, get_obj, asStr, Wire.string], by simp [index, get_obj], by simp [index, get_obj]⟩

/-! ## Data -/

theorem fit_nothing : ∀ v ∈ (none : Option Json), Fit Json.obj 126 v := fun _ h => nomatch h

/-- An object with one member. -/
theorem fit_one {v : Json} (h : Fit Json.obj 125 v) (name : String) :
    ∀ w ∈ some (obj [(name, v)]), Fit Json.obj 126 w := by
  intro w hw
  cases hw
  refine Fit.obj fun m hm => ?_
  rw [List.mem_singleton.mp hm]
  exact h

theorem index_one (name : String) (v : Json) : (obj [(name, v)]).index name = v := by
  simp [index, get_obj]

theorem fit_rows {α : Type} {json : α → Json} {n : ℕ} (h : ∀ a, Fit Json.obj n (json a))
    (name : String) (l : List α) : Fit Json.obj (n + 2) (rows name json l) := by
  refine Fit.obj fun m hm => ?_
  rw [List.mem_singleton.mp hm]
  refine .array fun v hv => ?_
  obtain ⟨a, -, rfl⟩ := List.mem_map.mp hv
  exact h a

end TinTin.Apps.Exchange
