import LedgerWatch.Proofs.Identity.Spelling
import LedgerWatch.Proofs.Storage.Connection

/-!
# Recovery of the offset in a database

Two readers read the row of the offset, and the second looks at the height alone. They agree once
the first has been there, whatever stood in the row: `restored_from_row`.
-/

namespace LedgerWatch.Database

variable {rows : Table OffsetRow} {row : OffsetRow} {o : Offset}

/-- A row writes an offset: its text spells the block, and its height is that of the offset. -/
structure OffsetRow.Writes (row : OffsetRow) (o : Offset) : Prop where
  block : Identifier.Spells row.block o.block
  height : row.height.toInt = o.height

/-- What is read out of a row is what the row writes. -/
lemma decode_eq_some_iff : OffsetRow.decode row = some o ↔ OffsetRow.Writes row o := by
  rw [OffsetRow.decode, Option.bind_eq_some_iff]
  constructor
  case mp =>
    rintro ⟨block, read, rest⟩
    split at rest
    case isTrue natural =>
      obtain rfl := Option.some.inj rest
      exact ⟨Identifier.read?_eq_some_iff.1 read, (Int.toNat_of_nonneg natural).symm⟩
    case isFalse => cases rest
  case mpr =>
    rintro ⟨block, height⟩
    refine ⟨o.block, Identifier.read?_eq_some_iff.2 block, ?_⟩
    rw [height, if_pos (Int.natCast_nonneg o.height), Int.toNat_natCast]

/-- A database whose row writes an offset holds it. -/
lemma holds_of_writes (found : rows.get? offsetKey = some row) (written : OffsetRow.Writes row o) :
    Holds o ⟨some rows⟩ :=
  ⟨rfl, row, found, decode_eq_some_iff.2 written⟩

/-- The row of the root offset. -/
def rootRow : OffsetRow :=
  ⟨BlockId.root.text, 0⟩

lemma restore_of_silent (silent : ∀ row, rows.get? offsetKey = some row →
    ∀ o, ¬OffsetRow.Writes row o) :
    restore true ⟨some rows⟩ = (.ok .root, ⟨some (rows.insert offsetKey rootRow)⟩) := by
  have unread : (rows.get? offsetKey).bind OffsetRow.decode = none := by
    rw [Option.bind_eq_none_iff]
    intro row found
    rw [Option.eq_none_iff_forall_ne_some]
    exact fun o decoded => silent row found o (decode_eq_some_iff.1 decoded)
  rw [restore]
  dsimp only
  rw [unread]
  rfl

lemma holds_rootRow (rows : Table OffsetRow) :
    Holds .root ⟨some (rows.insert offsetKey rootRow)⟩ :=
  ⟨rfl, rootRow, rows.get?_insert_self offsetKey rootRow, decode_of_encode rfl⟩

/--
Whatever the rows of a database are, restoring it answers the offset that its row writes and leaves
the rows, or makes the row that of the root offset when it writes none. No other row is touched.
Afterwards a height is processed just when it is not above the height of that offset, and restoring
the database again answers the same and changes nothing, also when it can only be read.
-/
theorem restored_from_row (rows : Table OffsetRow) :
    ∃ o after, restore true ⟨some rows⟩ = (.ok o, ⟨some after⟩) ∧
      ((∃ row, rows.get? offsetKey = some row ∧ OffsetRow.Writes row o ∧ after = rows) ∨
        ((∀ row, rows.get? offsetKey = some row → ∀ o, ¬OffsetRow.Writes row o) ∧
          o = .root ∧ after = rows.insert offsetKey rootRow)) ∧
      (∀ key, key ≠ offsetKey → after.get? key = rows.get? key) ∧
      (∀ height, isProcessed height ⟨some after⟩ = .ok (decide (height ≤ o.height))) ∧
      ∀ writable, restore writable ⟨some after⟩ = (.ok o, ⟨some after⟩) := by
  by_cases there : ∃ row, rows.get? offsetKey = some row ∧ ∃ o, OffsetRow.Writes row o
  · obtain ⟨row, found, o, written⟩ := there
    have holds := holds_of_writes found written
    exact ⟨o, rows, holds.restore true, .inl ⟨row, found, written, rfl⟩, fun _ _ => rfl,
      holds.isProcessed, holds.restore⟩
  · have silent : ∀ row, rows.get? offsetKey = some row → ∀ o, ¬OffsetRow.Writes row o :=
      fun row found o written => there ⟨row, found, o, written⟩
    have holds := holds_rootRow rows
    refine ⟨.root, _, restore_of_silent silent, .inr ⟨silent, rfl, rfl⟩, fun key other => ?_,
      holds.isProcessed, holds.restore⟩
    rw [rows.get?_insert, if_neg other]

end LedgerWatch.Database
