import Muster.Proofs.Document.CommonSettings
import Muster.Proofs.Document.Credential
import Muster.Proofs.Document.Status

/-! # Every document, read back

What one node of a cluster writes is what the other reads, whatever characters its texts are made of. -/

namespace Muster

open Json

/-- Every document is read back from its text. For a row of the member list the member was last seen at a point in time,
which may be a leap second. For a credential no object among the parameters has a name twice, all their numbers are
whole, and they nest as deep as a document may. -/
theorem decode_encode :
    (∀ s : NodeStatus, s.lastSeen.IsInstant → decode NodeStatus.read s.encode.text = .ok s) ∧
    (∀ r : SourceReport, decode SourceReport.read r.encode.text = .ok r) ∧
    (∀ e : StorageEntry, decode StorageEntry.read e.encode.text = .ok e) ∧
    (∀ r : CommandResult, decode CommandResult.read r.encode.text = .ok r) ∧
    (∀ n : VersionNotice, decode VersionNotice.read n.encode.text = .ok n) ∧
    (∀ n : StatusNotice, decode StatusNotice.read n.encode.text = .ok n) ∧
    (∀ c : CommonSettings, decode CommonSettings.read c.encode.text = .ok c) ∧
    (∀ c : CorsLists, decode CorsLists.read c.encode.text = .ok c) ∧
    (∀ d : CoreDb, decode CoreDb.read d.encode.text = .ok d) ∧
    (∀ a : AuthSummary, decode AuthSummary.read a.encode.text = .ok a) ∧
    (∀ p : AuthProvider, decode AuthProvider.read p.encode.text = .ok p) ∧
    (∀ a : AnonymousAccess, decode AnonymousAccess.read a.encode.text = .ok a) ∧
    (∀ r : Registration, decode Registration.read r.encode.text = .ok r) ∧
    (∀ c : Credential, Value.haveKeyed c.parameters = true → Value.haveWhole c.parameters = true →
      c.encode.depth ≤ maxDepth → decode Credential.read c.encode.text = .ok c) := by
  refine ⟨fun s h => (NodeStatus.spelled h).decode (by decide), fun r => r.spelled.decode (by decide),
    fun e => e.spelled.decode (by decide), fun r => r.spelled.decode (by decide), fun n => n.spelled.decode (by decide),
    fun n => n.spelled.decode (by decide), fun c => c.spelled.decode (by decide), fun c => c.spelled.decode (by decide),
    fun d => d.spelled.decode (by decide), fun a => a.spelled.decode (by decide), fun p => p.spelled.decode (by decide),
    fun a => a.spelled.decode (by decide), fun r => r.spelled.decode (by decide), ?_⟩
  intro c hkeyed hwhole hdepth
  rw [(c.spelled hwhole).decode hdepth, Credential.settled_of_haveKeyed hkeyed]

/-- Quotes, line ends and rare characters are read back, the leap second at the end of 2016 is, and so is the greatest
whole number in an object in an array. -/
theorem decode_encode_leap :
    let seen : Timestamp := ⟨⟨2016, 12, 31⟩, 1439, 59, 1000000001⟩
    let s : NodeStatus := ⟨"\"main\"", "http://\\", "é𝄞\n", "", seen, false⟩
    let greatest : Value := .number (.whole ⟨18446744073709551615, by decide, by decide⟩)
    let c : Credential := ⟨"main", "s3", ["", "s3://b"], [("KEY_ID", .array [.object [("", greatest)], .null])]⟩
    decode NodeStatus.read s.encode.text = .ok s ∧ decode Credential.read c.encode.text = .ok c := by
  obtain ⟨hstatus, -, -, -, -, -, -, -, -, -, -, -, -, hcredential⟩ := decode_encode
  exact ⟨hstatus _ ⟨by decide, by decide, by decide, by decide, .inr ⟨rfl, by decide⟩⟩,
    hcredential _ (by decide +kernel) (by decide +kernel) (by decide +kernel)⟩

end Muster
