import LedgerWatch.Criteria.Basic
import LedgerWatch.Json.Fields

/-!
# Written form of criteria

A criteria is a JSON record. The block is always written, as null when there is none; of the things
asked for only those that are set are written.
-/

namespace LedgerWatch

namespace ArtifactState

/-- The names of the fields of an artifact with its state. -/
def fieldNames : List String :=
  ["artifactId", "state"]

/-- The record of an artifact with its state. -/
def toJson (a : ArtifactState) : Json :=
  .record [("artifactId", .ofIdentifier a.artifact), ("state", .ofInt32 a.state)]

/-- The artifact with its state that a record writes. -/
def ofJson? (j : Json) : Option ArtifactState :=
  match j.fields? fieldNames 2 with
  | some [artifact, state] => do
    return {
      artifact := ← Json.required Json.identifier? artifact
      state := ← Json.required Json.int32? state }
  | _ => none

end ArtifactState

namespace Criteria

/-- The names of the fields of a criteria. -/
def fieldNames : List String :=
  ["latestBlockId", "artifactIdAndState", "artifactId", "artifactTypeId", "transactionType"]

/-- A field that is written only when it is set. -/
def setField {α : Type} (name : String) (encode : α → Json) : Option α → List (String × Json)
  | none => []
  | some value => [(name, encode value)]

/-- The record of a criteria. -/
def toJson (c : Criteria) : Json :=
  .record <|
    ("latestBlockId", .ofOption .ofIdentifier c.latestBlock)
      :: setField "artifactIdAndState" ArtifactState.toJson c.artifactState
      ++ setField "artifactId" .ofIdentifier c.artifact
      ++ setField "artifactTypeId" .ofIdentifier c.artifactType
      ++ setField "transactionType" .ofIdentifier c.transactionType

/-- The criteria that a record writes. -/
def ofJson? (j : Json) : Option Criteria :=
  match j.fields? fieldNames 1 with
  | some [latestBlock, artifactState, artifact, artifactType, transactionType] => do
    return {
      latestBlock := ← Json.optional Json.identifier? latestBlock
      artifactState := ← Json.optional ArtifactState.ofJson? artifactState
      artifact := ← Json.optional Json.identifier? artifact
      artifactType := ← Json.optional Json.identifier? artifactType
      transactionType := ← Json.optional Json.identifier? transactionType }
  | _ => none

end Criteria

end LedgerWatch
