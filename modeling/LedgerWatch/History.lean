import LedgerWatch.Ledger.Reads

/-!
# The history of an artifact

The transactions of an artifact up to a block, found by following the predecessors from its last
transaction. Transactions of higher blocks are passed over.
-/

namespace LedgerWatch

/-- The transactions of an artifact in ascending order, and the block up to which they go. -/
structure History where
  latest : BlockId
  transactions : List Transaction
deriving DecidableEq

namespace History

variable {W : Type}

/-- The height of a block. -/
def heightOf (ledger : LedgerReads W) (id : BlockId) : Program W (Except LedgerError Nat) := do
  if id.isZero then return .ok 0
  else
    match ← ledger.block? id with
    | .error e => return .error e
    | .ok none => return .error (.blockNotFound id)
    | .ok (some b) => return .ok b.height

/-- What a transaction adds to a history, and the transaction before it. -/
structure Visit where
  /-- The transaction, unless it stands above the horizon. -/
  found : Option Transaction
  /-- The predecessor, unless the ledger does not know it. -/
  previous : Option TransactionId

/-- Looks at one transaction. -/
def visit (ledger : LedgerReads W) (horizon : Nat) (id : TransactionId) :
    Program W (Except LedgerError Visit) := do
  match ← ledger.blockOf? id with
  | .error e => return .error e
  | .ok none => return .error (.blockNotFoundForTransaction id)
  | .ok (some block) =>
    match ← heightOf ledger block with
    | .error e => return .error e
    | .ok height =>
      if horizon < height then
        match ← ledger.previous? id with
        | .error e => return .error e
        | .ok previous => return .ok ⟨none, previous⟩
      else
        match ← ledger.transaction? id with
        | .error e => return .error e
        | .ok none => return .error (.transactionNotFound id)
        | .ok (some tx) => return .ok ⟨some tx, some tx.previous⟩

/--
Follows predecessors from a transaction, putting each one found in front of those found before it.
Gives nothing when the limit of transactions is reached.
-/
def follow (ledger : LedgerReads W) (horizon : Nat) :
    Nat → TransactionId → List Transaction →
      Program W (Option (Except LedgerError (List Transaction)))
  | 0, _, _ => return none
  | limit + 1, id, later => do
    match ← visit ledger horizon id with
    | .error e => return some (.error e)
    | .ok ⟨found, previous⟩ =>
      let later := found.toList ++ later
      match previous with
      | none => return some (.ok later)
      | some previous =>
        if previous.isZero then return some (.ok later)
        else follow ledger horizon limit previous later

/-- The transactions of an artifact up to a height, as long as there are no more than the limit. -/
def upTo (ledger : LedgerReads W) (limit : Nat) (artifact : ArtifactId) (horizon : Nat) :
    Program W (Option (Except LedgerError (List Transaction))) := do
  match ← ledger.head? artifact with
  | .error e => return some (.error e)
  | .ok none => return some (.ok [])
  | .ok (some head) => follow ledger horizon limit head []

/-- The block up to which a history goes: the given one, or the last. -/
def latestOf (ledger : LedgerReads W) :
    Option BlockId → Program W (Except LedgerError BlockId)
  | some id => return .ok id
  | none => ledger.latest

/--
The history of an artifact up to a block, or up to the last one. A chain of predecessors that leads
back into itself has no end: nothing comes of a chain that is longer than the limit.
-/
def find (ledger : LedgerReads W) (limit : Nat) (artifact : ArtifactId) (last : Option BlockId) :
    Program W (Option (Except LedgerError History)) := do
  match ← latestOf ledger last with
  | .error e => return some (.error e)
  | .ok latest =>
    match ← heightOf ledger latest with
    | .error e => return some (.error e)
    | .ok horizon =>
      match ← upTo ledger limit artifact horizon with
      | none => return none
      | some (.error e) => return some (.error e)
      | some (.ok transactions) => return some (.ok ⟨latest, transactions⟩)

end History

end LedgerWatch
