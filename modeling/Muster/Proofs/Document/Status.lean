import Muster.Document.Status
import Muster.Proofs.Json.Spelling
import Muster.Proofs.Time.Timestamp

/-! # Documents of the cluster's state, read back

The document that was written is the one that is read. -/

namespace Muster

open Json

theorem CommandResult.spelled (r : CommandResult) : Spells r.encode read 1 r :=
  (Fields.Spelled.pure 0 CommandResult.mk
    |>.required "success" (.bool r.success) (Nat.le_refl 0)
    |>.required "message" (.text r.message) (Nat.le_refl 0)).object (by decide)

theorem spells_timestamp {t : Timestamp} (h : t.IsInstant) : Spells (.string t.text) readTimestamp 0 t where
  whole := rfl
  draft := fun room => by
    have hread : Timestamp.read? t.text.toList = some t := by
      rw [Timestamp.text, String.toList_ofList]
      exact Timestamp.read?_print h
    have htext : readText (room + 0) (Value.string t.text).draft = .ok t.text := (Spells.text t.text).draft room
    unfold readTimestamp
    rw [htext]
    dsimp only
    rw [hread]

theorem NodeStatus.spelled {s : NodeStatus} (h : s.lastSeen.IsInstant) : Spells s.encode read 1 s :=
  (Fields.Spelled.pure 0 NodeStatus.mk
    |>.required "name" (.text s.name) (Nat.le_refl 0)
    |>.required "url" (.text s.url) (Nat.le_refl 0)
    |>.required "version" (.text s.version) (Nat.le_refl 0)
    |>.required "error" (.text s.error) (Nat.le_refl 0)
    |>.required "last_seen" (spells_timestamp h) (Nat.le_refl 0)
    |>.required "ready" (.bool s.ready) (Nat.le_refl 0)).object (by decide)

theorem SourceReport.spelled (r : SourceReport) : Spells r.encode read 1 r :=
  (Fields.Spelled.pure 0 SourceReport.mk
    |>.required "node" (.text r.node) (Nat.le_refl 0)
    |>.required "status" (.text r.status) (Nat.le_refl 0)
    |>.optional "error" (.text r.error) (Nat.le_refl 0) "").object (by decide)

theorem StorageEntry.spelled (e : StorageEntry) : Spells e.encode read 2 e :=
  (Fields.Spelled.pure 1 StorageEntry.mk
    |>.optional "node" (.text e.node) (Nat.zero_le 1) ""
    |>.required "name" (.text e.name) (Nat.zero_le 1)
    |>.required "type" (.text e.kind) (Nat.zero_le 1)
    |>.optional "scope" (.texts e.scope) (Nat.le_refl 1) []
    |>.optional "parameters" (.text e.parameters) (Nat.zero_le 1) "").object (by decide)

theorem VersionNotice.spelled (n : VersionNotice) : Spells n.encode read 1 n :=
  (Fields.Spelled.pure 0 VersionNotice.mk |>.required "version" (.text n.version) (Nat.le_refl 0)).object (by decide)

theorem StatusNotice.spelled (n : StatusNotice) : Spells n.encode read 1 n :=
  (Fields.Spelled.pure 0 StatusNotice.mk |>.required "status" (.text n.status) (Nat.le_refl 0)).object (by decide)

end Muster
