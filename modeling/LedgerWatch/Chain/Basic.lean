import LedgerWatch.Identity.Basic
import LedgerWatch.Time.Timestamp

/-!
# Blocks and transactions

A transaction changes the state of one artifact and names the transaction that changed it before.
A block holds transactions, in order, and names the block before it. An offset marks the last block
that every watcher was told about; it is kept where reading and writing it may fail.
-/

namespace LedgerWatch

/-- A change of the state of one artifact. -/
structure Transaction where
  id : TransactionId
  /-- The previous transaction of the artifact, or the initial one. -/
  previous : TransactionId
  artifact : ArtifactId
  artifactType : ArtifactTypeId
  kind : TransactionTypeId
  previousState : Option Int32
  newState : Option Int32
  timestamp : Timestamp
deriving DecidableEq

/-- A batch of transactions, chained to the block before it. -/
structure Block where
  id : BlockId
  previous : BlockId
  /-- How far the block stands above the root. -/
  height : Nat
  transactions : List Transaction
deriving DecidableEq

/-- The block up to which every watcher was told about every block. -/
structure Offset where
  block : BlockId
  height : Nat
deriving DecidableEq

/-- The offset before any block. -/
def Offset.root : Offset :=
  ⟨.root, 0⟩

instance : Inhabited Offset :=
  ⟨.root⟩

/-- Why an offset cannot be read or written. -/
inductive StorageError where
  /-- The database refuses. -/
  | database
  /-- The file cannot be read or written. -/
  | io (cause : String)
deriving DecidableEq

/-- The wording of each error. -/
def StorageError.message : StorageError → String
  | .database => "database error"
  | .io cause => "offset log i/o error: " ++ cause

end LedgerWatch
