import LedgerWatch.Chain.Basic
import LedgerWatch.Identity.Text
import LedgerWatch.Table

/-!
# The offset in a database

An offset is kept in one row of a table, as the text of the block's identifier and a signed height.
Other rows of the table belong to others.
-/

namespace LedgerWatch

/-- A row of the table of offsets. -/
structure OffsetRow where
  block : String
  height : Int64
deriving DecidableEq

/-- A database: the table of offsets, if it is there. -/
structure Database where
  rows : Option (Table OffsetRow) := none

namespace Database

instance : Inhabited Database :=
  ⟨{}⟩

/-- The key of the row that holds the offset. -/
def offsetKey : String := "sentinel"

/-- Makes the table of offsets unless it is there. -/
def migrate (db : Database) : Database :=
  ⟨some (db.rows.getD .empty)⟩

/-- The offset that a row holds: its text names a block and its height is not negative. -/
def OffsetRow.decode (row : OffsetRow) : Option Offset :=
  (Identifier.read? row.block).bind fun block =>
    if 0 ≤ row.height.toInt then some ⟨block, row.height.toInt.toNat⟩ else none

/-- The row that holds an offset, if its height is not too great for one. -/
def OffsetRow.encode (o : Offset) : Option OffsetRow :=
  if o.height ≤ Int64.maxValue.toInt.toNat then
    some ⟨o.block.text, Int64.ofNat o.height⟩
  else none

/-- Puts an offset into its row. -/
def write (writable : Bool) (o : Offset) (db : Database) : Except StorageError Unit × Database :=
  match db.rows, OffsetRow.encode o with
  | some rows, some row =>
    if writable then (.ok (), ⟨some (rows.insert offsetKey row)⟩) else (.error .database, db)
  | _, _ => (.error .database, db)

/-- The recorded offset. A row that is missing or unreadable is replaced by the root offset. -/
def restore (writable : Bool) (db : Database) : Except StorageError Offset × Database :=
  match db.rows with
  | none => (.error .database, db)
  | some rows =>
    match (rows.get? offsetKey).bind OffsetRow.decode with
    | some o => (.ok o, db)
    | none =>
      match write writable .root db with
      | (.ok (), db) => (.ok .root, db)
      | (.error e, db) => (.error e, db)

/-- Whether the record has reached a height; a missing row and a negative height count as zero. -/
def isProcessed (height : Nat) (db : Database) : Except StorageError Bool :=
  match db.rows with
  | none => .error .database
  | some rows =>
    .ok (height ≤ ((rows.get? offsetKey).map fun row => row.height.toInt.toNat).getD 0)

end Database

end LedgerWatch
