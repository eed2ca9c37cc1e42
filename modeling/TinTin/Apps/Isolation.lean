/-
  One sender's messages beside another's, in the terminal client and in the iOS app.

  Both go through the batch in one loop that an envelope can end: in the terminal client
  content of a `PreKeyBundle` envelope that is none, or a file chunk that panics; in the iOS
  app any message that does not decrypt. By then the relay has deleted the batch.

  * `served_alone_iff`: a batch serves a sender as if alone exactly if nothing of it is lost.
  * `forged_bundle_suppresses`: one envelope that anybody can post loses Alice's message.
-/
import TinTin.Cli.Delivery
import TinTin.Cli.Isolation
import TinTin.Ios.ChatList

namespace TinTin.Apps

open TinTin.Lib TinTin.Core TinTin.Cli TinTin.Ios TinTin.Symbolic

/-- **Isolation of senders.** In either app, what it has of a sender after a batch is what it
    would have without the others' envelopes, exactly if those of the sender's envelopes that
    only one of the two loops gets to have no effect on it. -/
theorem served_alone_iff {Key : Type} [DecidableEq Key] (X : Crates Key) (Y : Platform Key)
    (io io' : ReceiveInput Key) (c : Client Key) (batch : List Envelope) (s : Ios.AppState)
    (polled : List EnvelopeValue) (sender : String) :
    ((c.afterBatch X io batch).view sender =
        (c.afterBatch X io' (batch.filter (·.senderId = sender))).view sender ↔
      c.NothingLost X io io' batch sender) ∧
    ((pollIncoming Y s (some polled)).view sender =
        (pollIncoming Y s (some (polled.filter (·.senderId = sender)))).view sender ↔
      s.NothingLost Y polled sender) :=
  ⟨Client.receive_isolated_iff X io io' c batch sender, poll_isolated_iff Y s polled sender⟩

/-! ## A forged envelope -/

/-- The symbolic crates, with a byte form of messages that not all content has. -/
def strictCrates : Crates Term :=
  { plainCrates with
    serde := { symbolicSerde with
      preKeyBundleMessage := symbolicSerde.preKeyBundleMessage.tagged 1
      sessionMessage := symbolicSerde.sessionMessage.tagged 1 } }

def alice : Client Term := .new symbolic (.secret 0) (.secret 1) "alice"

def bob : Client Term := .new symbolic (.secret 2) (.secret 3) "bob"

/-- An envelope to Bob with empty content. -/
def forged : Envelope := Envelope.new 0 "mallory" "bob" [] .preKeyBundle

/-- Behind the forged envelope Alice's message is not read; without it, it is. -/
theorem forged_bundle_suppresses :
    ∃ alice' e, alice.sendMessage strictCrates (freshSendInput 4) (some bob.register) .accepted
        "bob" "hello" = (.ok (), alice', some e) ∧
      ((bob.afterBatch strictCrates freshReceiveInput [forged, e]).view "alice").records = [] ∧
      ((bob.afterBatch strictCrates freshReceiveInput [e]).view "alice").records.map (·.text) =
        ["hello"] := by
  obtain ⟨alice', e, prekey, hsend, hsender, -, htype, hdec, -, hok⟩ :=
    first_message_opens (X := strictCrates) symbolic_lawful (a := alice) (b := bob) (by decide) rfl
      (SignedPreKey.generate_wellFormed ..) (freshSendInput 4) "hello"
  have hsender : e.senderId = "alice" := hsender
  refine ⟨alice', e, hsend, rfl, ?_⟩
  have hentry : entryOf strictCrates (utf8 "hello") = .direct "hello" := by
    show Entry.direct (fromUtf8Lossy (utf8 "hello")) = _
    rw [fromUtf8Lossy_utf8]
  rw [← hsender, Client.afterBatch_view_singleton, SenderView.hear_preKeyBundle htype hdec hok]
  unfold SenderView.read
  rw [hentry]
  rfl

end TinTin.Apps
