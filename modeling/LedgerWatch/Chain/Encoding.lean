import LedgerWatch.Chain.Basic
import LedgerWatch.Json.Fields
import LedgerWatch.Json.Reader
import LedgerWatch.Time.Rfc3339

/-!
# Written forms of blocks, transactions and offsets

Each is a JSON record. Absent states are written as null, and may be left out.
-/

namespace LedgerWatch

/-- The instant that a JSON text writes. -/
def Json.timestamp? : Json → Option Timestamp
  | .text (some s) => Rfc3339.read? s
  | _ => none

namespace Transaction

/-- The names of the fields of a transaction. -/
def fieldNames : List String :=
  ["transaction_id", "previous_transaction_id", "artifact_id", "artifact_type",
    "transaction_type", "previous_state", "new_state", "timestamp"]

/-- The record of a transaction. -/
def toJson (tx : Transaction) : Json :=
  .record [("transaction_id", .ofIdentifier tx.id),
    ("previous_transaction_id", .ofIdentifier tx.previous),
    ("artifact_id", .ofIdentifier tx.artifact), ("artifact_type", .ofIdentifier tx.artifactType),
    ("transaction_type", .ofIdentifier tx.kind),
    ("previous_state", .ofOption .ofInt32 tx.previousState),
    ("new_state", .ofOption .ofInt32 tx.newState), ("timestamp", .ofString tx.timestamp.text)]

/-- The transaction that a record writes. -/
def ofJson? (j : Json) : Option Transaction :=
  match j.fields? fieldNames 8 with
  | some [id, previous, artifact, artifactType, kind, previousState, newState, timestamp] => do
    return {
      id := ← Json.required Json.identifier? id
      previous := ← Json.required Json.identifier? previous
      artifact := ← Json.required Json.identifier? artifact
      artifactType := ← Json.required Json.identifier? artifactType
      kind := ← Json.required Json.identifier? kind
      previousState := ← Json.optional Json.int32? previousState
      newState := ← Json.optional Json.int32? newState
      timestamp := ← Json.required Json.timestamp? timestamp }
  | _ => none

end Transaction

namespace Block

/-- The names of the fields of a block. -/
def fieldNames : List String :=
  ["block_id", "previous_block_id", "height", "transactions"]

/-- The record of a block. -/
def toJson (b : Block) : Json :=
  .record [("block_id", .ofIdentifier b.id), ("previous_block_id", .ofIdentifier b.previous),
    ("height", .ofNat b.height), ("transactions", .array (b.transactions.map Transaction.toJson))]

/-- The block that a record writes. -/
def ofJson? (j : Json) : Option Block :=
  match j.fields? fieldNames 4 with
  | some [id, previous, height, transactions] => do
    return {
      id := ← Json.required Json.identifier? id
      previous := ← Json.required Json.identifier? previous
      height := ← Json.required Json.word? height
      transactions := ← Json.required (Json.list? Transaction.ofJson?) transactions }
  | _ => none

end Block

namespace Offset

/-- The names of the fields of an offset. -/
def fieldNames : List String :=
  ["blockId", "blockHeight"]

/-- The record of an offset. -/
def toJson (o : Offset) : Json :=
  .record [("blockId", .ofIdentifier o.block), ("blockHeight", .ofNat o.height)]

/-- The offset that a record writes. -/
def ofJson? (j : Json) : Option Offset :=
  match j.fields? fieldNames 2 with
  | some [block, height] => do
    return {
      block := ← Json.required Json.identifier? block
      height := ← Json.required Json.word? height }
  | _ => none

/-- The offset that a text writes. -/
def read? (s : String) : Option Offset :=
  (Json.read? s).bind ofJson?

end Offset

end LedgerWatch
