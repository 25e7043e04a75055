import FleetScaling.Operator.Server
import FleetScaling.Proofs.Progress.Documents
import FleetScaling.Proofs.Text.Utf8

/-!
# Bodies of the replies

The bench sends the body of a reply as bytes, and a client decodes them with the types that it
shares with the bench. Whatever the progress, the client gets exactly the status and the results
that the bench shows, and what it got would be written as the same body (`bodies_decode`).
-/

namespace FleetScaling

open Json Web

namespace Api

/-- A reply as it goes over the network. -/
def Reply.sent (r : Reply) : Web.Reply := ⟨r.code, r.body.text.toUTF8.toList⟩

/-- A document that is shown with success is decoded to what it was written of. -/
theorem decoded_document {α : Type} {decoder : Decoder α} {write : α → Value} {levels : Nat}
    (h : Decodes decoder write levels) (hl : levels < depthLimit) (a : α) :
    (Reply.of 200 (.document (write a))).sent.decoded decoder = .ok a := by
  unfold Reply.of Reply.sent Web.Reply.decoded
  dsimp only
  rw [if_pos (by decide)]
  unfold Body.text
  rw [Text.readUtf8?_toUTF8]
  dsimp only
  rw [h.compact hl]
  rfl

namespace State

variable (s : State)

theorem reply_status : s.reply "GET" Route.status.path =
    .of 200 (.document s.progress.status.toValue) := s.reply_get .status

theorem reply_results : s.reply "GET" Route.results.path =
    .of 200 (.document s.progress.results.toValue) := s.reply_get .results

/-- **A client reads what the bench shows.** The bodies of both replies decode to the status and the
results of the progress, whatever these hold, and to nothing that would be written differently. -/
theorem bodies_decode :
    let status := s.reply "GET" Route.status.path
    let results := s.reply "GET" Route.results.path
    (status.sent.decoded Status.decoder = .ok s.progress.status ∧
      results.sent.decoded RunResults.decoder = .ok s.progress.results) ∧
    (∀ shown, status.sent.decoded Status.decoder = .ok shown →
      Body.text (.document shown.toValue) = status.body.text) ∧
    ∀ shown, results.sent.decoded RunResults.decoder = .ok shown →
      Body.text (.document shown.toValue) = results.body.text := by
  intro status results
  have hstatus : status.sent.decoded Status.decoder = .ok s.progress.status := by
    rw [show status = _ from s.reply_status]
    exact decoded_document Status.decodes (by decide) _
  have hresults : results.sent.decoded RunResults.decoder = .ok s.progress.results := by
    rw [show results = _ from s.reply_results]
    exact decoded_document RunResults.decodes (by decide) _
  refine ⟨⟨hstatus, hresults⟩, fun shown h => ?_, fun shown h => ?_⟩
  · cases hstatus.symm.trans h
    rw [show status = _ from s.reply_status]
    rfl
  · cases hresults.symm.trans h
    rw [show results = _ from s.reply_results]
    rfl

end State

end Api

end FleetScaling
