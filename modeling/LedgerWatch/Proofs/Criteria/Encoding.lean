import LedgerWatch.Criteria.Encoding
import LedgerWatch.Proofs.Json.Decoding

/-!
# Criteria survive being written

The text of the record of a criteria is read as that criteria, valid or not. Its fields are found
by their names wherever the fields that are not written leave them.
-/

namespace LedgerWatch

namespace ArtifactState

/-- The state of an artifact is read back. -/
lemma kept (a : ArtifactState) : Json.Kept toJson ofJson? a := by
  have distinct : fieldNames.Nodup := by decide
  have taken : a.toJson.fields? fieldNames 2
      = some [some (.ofIdentifier a.artifact), some (.ofInt32 a.state)] :=
    Json.fields?_record 2 distinct
  refine ⟨?_, nofun, ?_⟩
  · refine Json.plain_record fun f mem => ?_
    simp only [List.mem_cons, List.not_mem_nil, or_false] at mem
    rcases mem with rfl | rfl
    · exact (Json.Kept.identifier a.artifact).plain
    · exact (Json.Kept.int32 a.state).plain
  · rw [ofJson?, taken]
    simp [Json.required, Json.int32?_ofInt32]

end ArtifactState

namespace Criteria

variable {α : Type} {encode : α → Json} {decode : Json → Option α} {name other : String}
  {o : Option α}

/-- A field that may be missing has its own name. -/
lemma filter_setField : ((setField name encode o).filter fun f => f.1 = other)
    = if name = other then setField name encode o else [] := by
  cases o with
  | none => simp [setField]
  | some a => simp [setField, List.filter_cons]

/-- A field that may have been left out has the value that it was set to. -/
lemma field?_of_filter {fields : List (String × Json)}
    (alone : (fields.filter fun f => f.1 = name) = setField name encode o) :
    Json.field? fields name = some (o.map encode) := by
  rw [Json.field?, alone]
  cases o with
  | none => rfl
  | some a => rfl

/-- A field that may be missing is plain. -/
lemma plain_setField (kept : ∀ a, Json.Kept encode decode a) :
    ∀ f ∈ setField name encode o, f.2.Plain := by
  cases o with
  | none => nofun
  | some a =>
    intro f mem
    rw [setField, List.mem_singleton] at mem
    rw [mem]
    exact (kept a).plain

/-- The fields of the record of a criteria. -/
def fields (c : Criteria) : List (String × Json) :=
  ("latestBlockId", .ofOption .ofIdentifier c.latestBlock)
    :: setField "artifactIdAndState" ArtifactState.toJson c.artifactState
    ++ setField "artifactId" .ofIdentifier c.artifact
    ++ setField "artifactTypeId" .ofIdentifier c.artifactType
    ++ setField "transactionType" .ofIdentifier c.transactionType

/-- A criteria is written as a record. -/
lemma toJson_eq (c : Criteria) : c.toJson = .record c.fields :=
  rfl

/-- The fields of a criteria are found again, each under its name. -/
lemma fields?_toJson (c : Criteria) : c.toJson.fields? fieldNames 1
    = some [some (.ofOption .ofIdentifier c.latestBlock), c.artifactState.map ArtifactState.toJson,
      c.artifact.map .ofIdentifier, c.artifactType.map .ofIdentifier,
      c.transactionType.map .ofIdentifier] := by
  have block : Json.field? c.fields "latestBlockId"
      = some (some (.ofOption .ofIdentifier c.latestBlock)) := by
    simp [Json.field?, fields, filter_setField]
  have artifactState : Json.field? c.fields "artifactIdAndState"
      = some (c.artifactState.map ArtifactState.toJson) :=
    field?_of_filter (by simp [fields, filter_setField])
  have artifact : Json.field? c.fields "artifactId" = some (c.artifact.map .ofIdentifier) :=
    field?_of_filter (by simp [fields, filter_setField])
  have artifactType : Json.field? c.fields "artifactTypeId"
      = some (c.artifactType.map .ofIdentifier) :=
    field?_of_filter (by simp [fields, filter_setField])
  have transactionType : Json.field? c.fields "transactionType"
      = some (c.transactionType.map .ofIdentifier) :=
    field?_of_filter (by simp [fields, filter_setField])
  rw [toJson_eq, Json.record, Json.fields?, Json.named?_record, Option.bind_some]
  simp only [fieldNames, List.mapM_cons, List.mapM_nil, block, artifactState, artifact,
    artifactType, transactionType]
  rfl

/-- A criteria is read back. -/
lemma kept (c : Criteria) : Json.Kept toJson ofJson? c := by
  refine ⟨?_, nofun, ?_⟩
  · rw [toJson_eq]
    refine Json.plain_record fun f mem => ?_
    simp only [fields, List.cons_append, List.mem_cons, List.mem_append] at mem
    rcases mem with rfl | ((mem | mem) | mem) | mem
    · exact Json.plain_ofOption Json.Kept.identifier
    · exact plain_setField ArtifactState.kept f mem
    all_goals exact plain_setField Json.Kept.identifier f mem
  · rw [ofJson?, fields?_toJson]
    simp only [Json.optional_ofOption Json.Kept.identifier, Json.optional_map ArtifactState.kept,
      Json.optional_map Json.Kept.identifier]
    rfl

end Criteria

end LedgerWatch
