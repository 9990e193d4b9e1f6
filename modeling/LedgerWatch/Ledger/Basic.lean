import LedgerWatch.Chain.Basic
import LedgerWatch.Identity.Text
import LedgerWatch.Index

/-!
# The ledger in memory

A chain of blocks that grows at its end, with indexes of its blocks, its transactions and the last
transaction of every artifact. Blocks and transactions are handed over with their identifiers;
heights start at 1. A ledger can be made unavailable: then it still grows, but answers no question,
and says why.
-/

namespace LedgerWatch

/-- Why a ledger does not answer. -/
inductive LedgerError where
  /-- The ledger cannot be asked at present. -/
  | unavailable (reason : String)
  | blockNotFound (block : BlockId)
  | transactionNotFound (transaction : TransactionId)
  | blockNotFoundForTransaction (transaction : TransactionId)
deriving DecidableEq

/-- The wording of each error. -/
def LedgerError.message : LedgerError → String
  | .unavailable reason => "ledger unavailable: " ++ reason
  | .blockNotFound block => "block " ++ block.text ++ " not found"
  | .transactionNotFound transaction => "transaction " ++ transaction.text ++ " not found"
  | .blockNotFoundForTransaction transaction =>
    "block for transaction " ++ transaction.text ++ " not found"

/-- A ledger in memory. -/
structure Ledger where
  /-- The chain, from the first block to the last. -/
  blocks : List Block := []
  /-- Where each block stands in the chain. -/
  positions : Index BlockId Nat := {}
  /-- The last canonized transaction of each identifier, with its block. -/
  transactions : Index TransactionId (Transaction × BlockId) := {}
  /-- The last canonized transaction of each artifact. -/
  heads : Index ArtifactId TransactionId := {}
  /-- Why the ledger answers no question, if it does not. -/
  unavailable : Option String := none

namespace Ledger

instance : Inhabited Ledger :=
  ⟨{}⟩

/-- The identifier of the last block; of the root when there is none. -/
def lastBlock (l : Ledger) : BlockId :=
  (l.blocks.getLast?.map Block.id).getD .root

/-- Enters a transaction of a block into the indexes. -/
def canonize (block : BlockId) (l : Ledger) (tx : Transaction) : Ledger :=
  { l with
    transactions := l.transactions.insert tx.id (tx, block)
    heads := l.heads.insert tx.artifact tx.id }

/-- The block that is appended next, with the given identifier and transactions. -/
def nextBlock (l : Ledger) (id : BlockId) (transactions : List Transaction) : Block :=
  ⟨id, l.lastBlock, l.blocks.length + 1, transactions⟩

/-- Appends a block. -/
def append (l : Ledger) (id : BlockId) (transactions : List Transaction) : Ledger :=
  let indexed := transactions.foldl (canonize id) l
  { indexed with
    blocks := l.blocks ++ [l.nextBlock id transactions]
    positions := l.positions.insert id l.blocks.length }

/-- The state in which the last transaction of an artifact left it. -/
def stateOf (l : Ledger) (artifact : ArtifactId) : Option Int32 :=
  ((l.heads.get? artifact).bind l.transactions.get?).bind fun entry => entry.1.newState

/-- The transaction that comes next for an artifact. It is not canonized yet. -/
def nextTransaction (l : Ledger) (id : TransactionId) (artifact : ArtifactId)
    (artifactType : ArtifactTypeId) (kind : TransactionTypeId) (newState : Option Int32)
    (timestamp : Timestamp) : Transaction where
  id
  previous := (l.heads.get? artifact).getD .initial
  artifact
  artifactType
  kind
  previousState := l.stateOf artifact
  newState
  timestamp

/-- Makes a ledger unavailable, or available again. -/
def setUnavailable (l : Ledger) (reason : Option String) : Ledger :=
  { l with unavailable := reason }

/-- An answer of a ledger, if it is available. -/
def answer {α : Type} (l : Ledger) (result : Except LedgerError α) : Except LedgerError α :=
  match l.unavailable with
  | some reason => .error (.unavailable reason)
  | none => result

/-- The identifier of the last block. -/
def latest (l : Ledger) : Except LedgerError BlockId :=
  l.answer (.ok l.lastBlock)

/-- The blocks after the given one, in ascending order. -/
def blocksAfter (l : Ledger) (id : BlockId) : Except LedgerError (List Block) :=
  l.answer <|
    if id.isZero then .ok l.blocks
    else
      match l.positions.get? id with
      | some position => .ok (l.blocks.drop (position + 1))
      | none => .error (.blockNotFound id)

/-- The block with an identifier. -/
def block? (l : Ledger) (id : BlockId) : Except LedgerError (Option Block) :=
  l.answer (.ok ((l.positions.get? id).bind fun position => l.blocks[position]?))

/-- The transaction with an identifier. -/
def transaction? (l : Ledger) (id : TransactionId) : Except LedgerError (Option Transaction) :=
  l.answer (.ok ((l.transactions.get? id).map Prod.fst))

/-- The block that canonized a transaction. -/
def blockOf? (l : Ledger) (id : TransactionId) : Except LedgerError (Option BlockId) :=
  l.answer (.ok ((l.transactions.get? id).map Prod.snd))

/-- The last transaction of an artifact. -/
def head? (l : Ledger) (id : ArtifactId) : Except LedgerError (Option TransactionId) :=
  l.answer (.ok (l.heads.get? id))

/-- The predecessor of a transaction. -/
def previous? (l : Ledger) (id : TransactionId) : Except LedgerError (Option TransactionId) :=
  l.answer (.ok ((l.transactions.get? id).map fun entry => entry.1.previous))

end Ledger

end LedgerWatch
