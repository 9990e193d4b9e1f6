import LedgerWatch.Chain.Encoding
import LedgerWatch.Proofs.Json.Decoding
import LedgerWatch.Proofs.Time.Rfc3339

/-!
# Transactions, blocks and offsets survive being written

The text of the record of an offset is read as that offset. So are the texts of transactions and
blocks whose instants are common: states that are absent are written as null, and the transactions
of a block one after the other.
-/

namespace LedgerWatch

/-- A common timestamp is read back from its text. -/
lemma Timestamp.kept {t : Timestamp} (h : t.Common) :
    Json.Kept (fun t : Timestamp => .ofString t.text) Json.timestamp? t :=
  ⟨Json.plain_ofString t.text, nofun, t.read?_text h⟩

namespace Transaction

lemma plain_toJson (tx : Transaction) : tx.toJson.Plain := by
  refine Json.plain_record fun f mem => ?_
  simp only [List.mem_cons, List.not_mem_nil, or_false] at mem
  rcases mem with rfl | rfl | rfl | rfl | rfl | rfl | rfl | rfl
  all_goals first
    | exact Json.plain_ofString _
    | exact Json.plain_ofOption Json.Kept.int32

/-- A transaction with a common timestamp is read back. -/
lemma kept {tx : Transaction} (h : tx.timestamp.Common) : Json.Kept toJson ofJson? tx := by
  refine ⟨tx.plain_toJson, nofun, ?_⟩
  have distinct : fieldNames.Nodup := by decide
  have taken : tx.toJson.fields? fieldNames 8
      = some [some (.ofIdentifier tx.id), some (.ofIdentifier tx.previous),
        some (.ofIdentifier tx.artifact), some (.ofIdentifier tx.artifactType),
        some (.ofIdentifier tx.kind), some (.ofOption .ofInt32 tx.previousState),
        some (.ofOption .ofInt32 tx.newState), some (.ofString tx.timestamp.text)] :=
    Json.fields?_record 8 distinct
  rw [ofJson?, taken]
  simp [Json.required, Json.optional_ofOption Json.Kept.int32, (Timestamp.kept h).decoded]

end Transaction

namespace Block

/-- A block is read back if its height is a word and its timestamps are common. -/
lemma kept {b : Block} (height : b.height ≤ Text.maxWord)
    (each : ∀ tx ∈ b.transactions, tx.timestamp.Common) : Json.Kept toJson ofJson? b := by
  have word := Json.Kept.word height
  have transactions := Json.Kept.list fun tx mem => Transaction.kept (each tx mem)
  refine ⟨?_, nofun, ?_⟩
  · refine Json.plain_record fun f mem => ?_
    simp only [List.mem_cons, List.not_mem_nil, or_false] at mem
    rcases mem with rfl | rfl | rfl | rfl
    · exact Json.plain_ofString b.id.text
    · exact Json.plain_ofString b.previous.text
    · exact word.plain
    · exact transactions.plain
  · have distinct : fieldNames.Nodup := by decide
    have taken : b.toJson.fields? fieldNames 4
        = some [some (.ofIdentifier b.id), some (.ofIdentifier b.previous),
          some (.ofNat b.height), some (.array (b.transactions.map Transaction.toJson))] :=
      Json.fields?_record 4 distinct
    rw [ofJson?, taken]
    simp [Json.required, word.decoded, transactions.decoded]

end Block

namespace Offset

lemma plain_toJson (o : Offset) : o.toJson.Plain := by
  refine Json.plain_record fun f mem => ?_
  simp only [List.mem_cons, List.not_mem_nil, or_false] at mem
  rcases mem with rfl | rfl
  · exact Json.plain_ofString o.block.text
  · exact Json.plain_ofNat o.height

/-- An offset is read back if its height is a word. -/
lemma ofJson?_toJson {o : Offset} (h : o.height ≤ Text.maxWord) : ofJson? o.toJson = some o := by
  have distinct : fieldNames.Nodup := by decide
  have taken : o.toJson.fields? fieldNames 2
      = some [some (.ofIdentifier o.block), some (.ofNat o.height)] :=
    Json.fields?_record 2 distinct
  rw [ofJson?, taken]
  simp [Json.required, Json.word?_ofNat h]

/-- An offset whose height is a word is kept. -/
lemma kept {o : Offset} (h : o.height ≤ Text.maxWord) : Json.Kept toJson ofJson? o :=
  ⟨o.plain_toJson, nofun, ofJson?_toJson h⟩

/-- The text of an offset is read as that offset. -/
theorem read?_render {o : Offset} (h : o.height ≤ Text.maxWord) :
    read? o.toJson.render = some o := by
  rw [read?, Json.read?_render o.plain_toJson, Option.bind_some, ofJson?_toJson h]

end Offset

end LedgerWatch
