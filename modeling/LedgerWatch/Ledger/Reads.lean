import LedgerWatch.Ledger.Basic
import LedgerWatch.Program

/-!
# Reading a ledger

The questions that watchers and pollers ask a ledger, as programs over a world. A ledger that is a
part of the world answers them at once; another may do more on the way.
-/

namespace LedgerWatch

/-- The questions that can be asked of a ledger. -/
structure LedgerReads (W : Type) where
  /-- The last block, or the root. -/
  latest : Program W (Except LedgerError BlockId)
  /-- The blocks after a block, in ascending order. -/
  blocksAfter : BlockId → Program W (Except LedgerError (List Block))
  block? : BlockId → Program W (Except LedgerError (Option Block))
  transaction? : TransactionId → Program W (Except LedgerError (Option Transaction))
  /-- The block that canonized a transaction. -/
  blockOf? : TransactionId → Program W (Except LedgerError (Option BlockId))
  /-- The last transaction of an artifact. -/
  head? : ArtifactId → Program W (Except LedgerError (Option TransactionId))
  /-- The predecessor of a transaction. -/
  previous? : TransactionId → Program W (Except LedgerError (Option TransactionId))

/-- The answers of a ledger that is a part of the world. -/
def LedgerReads.ofPart {W : Type} (ledger : Part W Ledger) : LedgerReads W where
  latest := return (← Program.look ledger).latest
  blocksAfter id := return (← Program.look ledger).blocksAfter id
  block? id := return (← Program.look ledger).block? id
  transaction? id := return (← Program.look ledger).transaction? id
  blockOf? id := return (← Program.look ledger).blockOf? id
  head? id := return (← Program.look ledger).head? id
  previous? id := return (← Program.look ledger).previous? id

end LedgerWatch
