import LedgerWatch.Proofs.Identity.Text
import LedgerWatch.Storage.OffsetTable

/-!
# The offset that a database holds

A database is intact when its row of the offset, if there is one, holds an offset. It is intact when
it is made, and every write to it leaves it intact. An intact database answers by the offset that
was written to it last, and a write that it refuses leaves it as it was.
-/

namespace LedgerWatch.Database

variable {db : Database} {o : Offset} {row : OffsetRow} {writable : Bool} {height : Nat}

/-- The row of the offset. -/
def row? (db : Database) : Option OffsetRow :=
  db.rows.bind (·.get? offsetKey)

/-- The offset that a database holds, the root offset when it holds none. -/
def offset (db : Database) : Offset :=
  (db.row?.bind OffsetRow.decode).getD .root

/-- The row of the offset holds an offset. -/
def Intact (db : Database) : Prop :=
  ∀ row ∈ db.row?, ∃ o, OffsetRow.decode row = some o

/-- An offset survives being written into a row. -/
lemma decode_of_encode (h : OffsetRow.encode o = some row) : OffsetRow.decode row = some o := by
  rw [OffsetRow.encode] at h
  by_cases bound : o.height ≤ Int64.maxValue.toInt.toNat
  · rw [if_pos bound] at h
    obtain rfl := Option.some.inj h
    have greatest : Int64.maxValue.toInt.toNat < 2 ^ 63 := by decide
    have kept : (Int64.ofNat o.height).toInt = o.height :=
      Int64.toInt_ofNat_of_lt (Nat.lt_of_le_of_lt bound greatest)
    have natural : 0 ≤ (Int64.ofNat o.height).toInt := kept ▸ Int.natCast_nonneg o.height
    rw [OffsetRow.decode, Identifier.read?_text, Option.bind_some, if_pos natural, kept,
      Int.toNat_natCast]
  · rw [if_neg bound] at h
    cases h

/-- An offset has the height of its row. -/
lemma height_of_decode (h : OffsetRow.decode row = some o) : o.height = row.height.toInt.toNat := by
  obtain ⟨block, -, h⟩ := Option.bind_eq_some_iff.1 h
  by_cases natural : 0 ≤ row.height.toInt
  · rw [if_pos natural] at h
    obtain rfl := Option.some.inj h
    rfl
  · rw [if_neg natural] at h
    cases h

/-- Intact databases without a row and with one. -/
lemma Intact.cases (h : db.Intact) :
    (db.row? = none ∧ db.offset = .root) ∨
      ∃ row, db.row? = some row ∧ OffsetRow.decode row = some db.offset := by
  cases found : db.row? with
  | none => exact .inl ⟨rfl, by rw [offset, found]; rfl⟩
  | some row =>
    obtain ⟨o, decoded⟩ := h row found
    refine .inr ⟨row, rfl, ?_⟩
    rw [offset, found, Option.bind_some, decoded, Option.getD_some]

/-- A new database is intact. -/
lemma intact_migrate : (migrate {}).Intact :=
  nofun

/-- A write puts the offset into the row, or it is refused and changes nothing. -/
lemma write_cases (writable : Bool) (o : Offset) (db : Database) :
    (∃ row, OffsetRow.decode row = some o ∧ (db.write writable o).1 = .ok () ∧
      (db.write writable o).2.row? = some row) ∨
    (∃ e, db.write writable o = (.error e, db)) := by
  unfold write
  cases db.rows with
  | none => exact .inr ⟨_, rfl⟩
  | some rows =>
    cases encoded : OffsetRow.encode o with
    | none => exact .inr ⟨_, rfl⟩
    | some row =>
      cases writable with
      | false => exact .inr ⟨_, rfl⟩
      | true =>
        refine .inl ⟨row, decode_of_encode encoded, rfl, ?_⟩
        exact rows.get?_insert_self offsetKey row

/-- A row that is read is the offset of the database. -/
lemma offset_of_row (found : db.row? = some row) (decoded : OffsetRow.decode row = some o) :
    db.offset = o := by
  rw [offset, found, Option.bind_some, decoded, Option.getD_some]

/-- What was written is the offset of the database. -/
lemma write_ok (h : (db.write writable o).1 = .ok ()) : (db.write writable o).2.offset = o := by
  rcases write_cases writable o db with ⟨row, decoded, -, found⟩ | ⟨e, refused⟩
  · exact offset_of_row found decoded
  · rw [refused] at h
    cases h

/-- A write that is refused changes nothing. -/
lemma write_error {e : StorageError} (h : (db.write writable o).1 = .error e) :
    (db.write writable o).2 = db := by
  rcases write_cases writable o db with ⟨row, -, obeyed, -⟩ | ⟨e, refused⟩
  · rw [obeyed] at h
    cases h
  · rw [refused]

/-- A write leaves an intact database intact. -/
lemma Intact.write (h : db.Intact) (writable : Bool) (o : Offset) :
    (db.write writable o).2.Intact := by
  rcases write_cases writable o db with ⟨row, decoded, -, found⟩ | ⟨e, refused⟩
  · intro other mem
    rw [found] at mem
    cases mem
    exact ⟨o, decoded⟩
  · rw [refused]
    exact h

/-- An intact database is asked for its offset: it answers truly and holds the same afterwards. -/
lemma Intact.restore (h : db.Intact) (writable : Bool) :
    (db.restore writable).2.Intact ∧ (db.restore writable).2.offset = db.offset ∧
      ∀ o, (db.restore writable).1 = .ok o → o = db.offset := by
  unfold Database.restore
  cases rows : db.rows with
  | none => exact ⟨h, rfl, nofun⟩
  | some table =>
    have here : table.get? offsetKey = db.row? := by rw [row?, rows, Option.bind_some]
    dsimp only
    rw [here]
    rcases h.cases with ⟨missing, root⟩ | ⟨row, found, decoded⟩
    · rw [missing, Option.bind_none]
      have kept : (db.write writable .root).2.offset = db.offset := by
        cases answer : (db.write writable .root).1 with
        | ok _ => exact (write_ok answer).trans root.symm
        | error e => rw [write_error answer]
      have intact := h.write writable .root
      dsimp only
      generalize db.write writable .root = written at intact kept
      obtain ⟨answer, after⟩ := written
      cases answer with
      | error e => exact ⟨intact, kept, nofun⟩
      | ok _ => exact ⟨intact, kept, fun o e => (Except.ok.inj e).symm.trans root.symm⟩
    · rw [found, Option.bind_some, decoded]
      exact ⟨h, rfl, fun o e => (Except.ok.inj e).symm⟩

/-- An intact database is asked whether it has come to a height. -/
lemma Intact.isProcessed (h : db.Intact) {answer : Bool}
    (e : Database.isProcessed height db = .ok answer) :
    answer = decide (height ≤ db.offset.height) := by
  unfold Database.isProcessed at e
  cases rows : db.rows with
  | none =>
    rw [rows] at e
    cases e
  | some table =>
    have here : table.get? offsetKey = db.row? := by rw [row?, rows, Option.bind_some]
    rw [rows] at e
    dsimp only at e
    rw [here] at e
    obtain rfl := Except.ok.inj e
    rcases h.cases with ⟨missing, root⟩ | ⟨row, found, decoded⟩
    · rw [missing, root]
      rfl
    · rw [found, height_of_decode decoded]
      rfl

end LedgerWatch.Database
