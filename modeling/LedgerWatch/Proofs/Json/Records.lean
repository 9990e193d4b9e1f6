import LedgerWatch.Proofs.Chain.Encoding
import LedgerWatch.Proofs.Criteria.Encoding

/-!
# Every record survives being written

The records that are stored or exchanged are criteria, the artifacts with their states in them,
transactions, blocks and offsets. They differ in how their fields are named and in what is written
for a field that is not set, and each of them is read from its text as it was.
-/

namespace LedgerWatch

/--
Every record is read from its compact text as the record that was written, and no two records of a
kind share a text. Criteria need not be valid; heights are numbers of 64 bits, and instants those of
the years 0 to 9999 outside of leap seconds.
-/
theorem records_survive_writing :
    Json.Faithful ArtifactState.toJson ArtifactState.ofJson? (fun _ => True)
    ∧ Json.Faithful Criteria.toJson Criteria.ofJson? (fun _ => True)
    ∧ Json.Faithful Transaction.toJson Transaction.ofJson? (fun tx => tx.timestamp.Common)
    ∧ Json.Faithful Block.toJson Block.ofJson? (fun b =>
        b.height ≤ Text.maxWord ∧ ∀ tx ∈ b.transactions, tx.timestamp.Common)
    ∧ Json.Faithful Offset.toJson Offset.ofJson? (fun o => o.height ≤ Text.maxWord) := by
  refine ⟨.of_kept ?_, .of_kept ?_, .of_kept ?_, .of_kept ?_, .of_kept ?_⟩
  · exact fun a _ => a.kept
  · exact fun c _ => c.kept
  · exact fun tx common => Transaction.kept common
  · exact fun b within => Block.kept within.1 within.2
  · exact fun o within => Offset.kept within

namespace Vault

/-- A transaction of the first second of the year 0. -/
def oldest : Transaction :=
  ⟨.ofNat 1, .initial, .ofNat 2, .ofNat 3, .ofNat 4, none, some (-2147483648), ⟨-62167219200, 0⟩⟩

/-- A transaction of the last nanosecond of the year 9999. -/
def youngest : Transaction :=
  ⟨.ofNat 5, .ofNat 1, .ofNat 2, .ofNat 3, .ofNat 4, some (-2147483648), none,
    ⟨253402300799, 999999999⟩⟩

def stored : Block :=
  ⟨.ofNat 6, .root, Text.maxWord, [oldest, youngest]⟩

/-- A block of the greatest height is read, with instants at both ends of the four-digit years. -/
theorem records_survive_writing_in_vault : stored.height ≤ Text.maxWord ∧
    (∀ tx ∈ stored.transactions, tx.timestamp.Common) ∧
    (Json.read? stored.toJson.render).bind Block.ofJson? = some stored := by
  have height : stored.height ≤ Text.maxWord := Nat.le_refl _
  have common : ∀ tx ∈ stored.transactions, tx.timestamp.Common := by
    have first : oldest.timestamp.Common := ⟨by decide, by decide, by decide⟩
    have last : youngest.timestamp.Common := ⟨by decide, by decide, by decide⟩
    exact List.forall_mem_cons.2 ⟨first, List.forall_mem_singleton.2 last⟩
  obtain ⟨-, -, -, blocks, -⟩ := records_survive_writing
  exact ⟨height, common, blocks.read stored ⟨height, common⟩⟩

end Vault

end LedgerWatch
