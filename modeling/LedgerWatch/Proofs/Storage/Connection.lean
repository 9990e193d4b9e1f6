import LedgerWatch.Part
import LedgerWatch.Proofs.Storage.Files
import LedgerWatch.Proofs.Storage.OffsetTable
import LedgerWatch.Storage.Databases

/-!
# Connections to a database that stays

A database in a file is found again at its address, with what was written to it, and its table is
not made anew.
-/

namespace LedgerWatch

namespace Database

variable {db : Database} {o : Offset} {writable : Bool}

/-- The greatest height that a row can hold. -/
def greatestHeight : Nat :=
  Int64.maxValue.toInt.toNat

/-- The row of the offset holds it. -/
structure Holds (o : Offset) (db : Database) : Prop where
  rows : db.rows.isSome
  row : ∃ row, db.row? = some row ∧ OffsetRow.decode row = some o

/-- The row of the sentinel is found in the table. -/
lemma get?_of_rows {rows : Table OffsetRow} (h : db.rows = some rows) :
    rows.get? offsetKey = db.row? := by
  rw [row?, h, Option.bind_some]

/-- A database that has its table is not migrated again. -/
lemma migrate_eq_self (h : db.rows.isSome) : db.migrate = db := by
  obtain ⟨rows, there⟩ := Option.isSome_iff_exists.1 h
  cases db
  cases there
  rfl

namespace Holds

/-- A database that holds an offset restores it, and stays as it is. -/
lemma restore (h : db.Holds o) (writable : Bool) : db.restore writable = (.ok o, db) := by
  obtain ⟨rows, there⟩ := Option.isSome_iff_exists.1 h.rows
  obtain ⟨row, found, decoded⟩ := h.row
  rw [Database.restore, there]
  dsimp only
  rw [get?_of_rows there, found, Option.bind_some, decoded]

/-- A database that holds an offset answers by its height. -/
lemma isProcessed (h : db.Holds o) (height : Nat) :
    Database.isProcessed height db = .ok (height ≤ o.height) := by
  obtain ⟨rows, there⟩ := Option.isSome_iff_exists.1 h.rows
  obtain ⟨row, found, decoded⟩ := h.row
  rw [Database.isProcessed, there]
  dsimp only
  rw [get?_of_rows there, found, height_of_decode decoded]
  rfl

end Holds

/-- A height that a row can hold is written. -/
lemma write_of_le (h : db.rows.isSome) (fits : o.height ≤ greatestHeight) :
    ∃ after, db.write true o = (.ok (), after) ∧ after.Holds o := by
  obtain ⟨rows, there⟩ := Option.isSome_iff_exists.1 h
  have encoded : OffsetRow.encode o = some ⟨o.block.text, Int64.ofNat o.height⟩ := if_pos fits
  refine ⟨⟨some (rows.insert offsetKey ⟨o.block.text, Int64.ofNat o.height⟩)⟩, ?_, rfl, _,
    rows.get?_insert_self offsetKey _, decode_of_encode encoded⟩
  rw [Database.write, there, encoded]
  rfl

/-- A greater height is refused, and the row stays. -/
lemma write_of_gt (great : greatestHeight < o.height) :
    db.write writable o = (.error .database, db) := by
  have encoded : OffsetRow.encode o = none := if_neg (Nat.not_le.2 great)
  rw [Database.write, encoded]
  cases db.rows with
  | none => rfl
  | some rows => rfl

/-- An empty table is given the root offset. -/
lemma restore_of_vacant (h : db.rows.isSome) (vacant : db.row? = none) :
    ∃ after, db.restore true = (.ok .root, after) ∧ after.Holds .root := by
  obtain ⟨rows, there⟩ := Option.isSome_iff_exists.1 h
  obtain ⟨after, written, holds⟩ := write_of_le (o := .root) h (Nat.zero_le _)
  refine ⟨after, ?_, holds⟩
  rw [Database.restore, there]
  dsimp only
  rw [get?_of_rows there, vacant, Option.bind_none]
  dsimp only
  rw [written]

end Database

namespace Disk

variable {disk found : Disk} {address path : String} {url : DatabaseUrl} {number : Nat}
  {c : Connection}

/-- The database with a number. -/
def databasePart (number : Nat) : Part Disk Database where
  get disk := disk.databases.get number
  set db disk := disk.setDatabase number db
  get_set db disk := disk.databases.get_set_self number db

/-- A database is found in the file of its address, and may be written to. -/
structure Serves (disk : Disk) (address : String) (number : Nat) : Prop where
  found : ∃ url path here, DatabaseUrl.read? address = some url ∧ url.writable = true ∧
    url.path = some path ∧ disk.files.writable path = .ok here ∧
    disk.files.get? here = some (.database number)
  rows : (disk.databases.get number).rows.isSome

namespace Serves

/-- A database in place of another one with a table is served at the same address. -/
lemma setDatabase (h : disk.Serves address number) {db : Database} (rows : db.rows.isSome) :
    (disk.setDatabase number db).Serves address number := by
  refine ⟨h.found, ?_⟩
  rw [Disk.setDatabase, Slots.get_set_self]
  exact rows

/-- A connection is made to the same database again, which is as it was. -/
lemma connect (h : disk.Serves address number) :
    ∃ after, Disk.connect address disk = (.ok ⟨number, true⟩, after) ∧
      after.Serves address number ∧ after.databases.get number = disk.databases.get number := by
  obtain ⟨url, path, here, read, writable, named, free, there⟩ := h.found
  have same : disk.find url = .ok (number, disk) := by
    rw [find, named]
    dsimp only
    rw [free]
    dsimp only
    rw [there]
  refine ⟨disk.setDatabase number (disk.databases.get number), ?_, h.setDatabase h.rows,
    disk.databases.get_set_self number _⟩
  rw [Disk.connect, read]
  dsimp only
  rw [same]
  dsimp only
  rw [writable, Bool.true_or, if_pos rfl, Database.migrate_eq_self h.rows]

end Serves

/-- A database that was made in a file is found there. -/
lemma writable_addDatabaseAt {here : Path} (free : disk.files.writable path = .ok here) :
    (disk.addDatabaseAt here).2.files.writable path = .ok here ∧
      (disk.addDatabaseAt here).2.files.get? here
        = some (.database (disk.addDatabaseAt here).1) := by
  have leads := Files.Leads.of_writable free
  have stays : (disk.addDatabaseAt here).2.files.Leads path here := leads.put leads.bare nofun
  exact ⟨stays.writable, Files.get?_put_self disk.files here _⟩

/-- What is found at an address that names a file is in that file afterwards. -/
lemma file_of_find (named : url.path = some path) (h : disk.find url = .ok (number, found)) :
    ∃ here, found.files.writable path = .ok here ∧
      found.files.get? here = some (.database number) := by
  rw [find, named] at h
  dsimp only at h
  cases free : disk.files.writable path with
  | error fault =>
    rw [free] at h
    cases h
  | ok here =>
    rw [free] at h
    dsimp only at h
    have made := writable_addDatabaseAt free
    refine ⟨here, ?_⟩
    split at h
    case h_1 old there =>
      obtain ⟨rfl, rfl⟩ := Prod.mk.inj (Except.ok.inj h)
      exact ⟨free, there⟩
    case h_2 =>
      split at h
      case isTrue =>
        rw [Except.ok.inj h] at made
        exact made
      case isFalse => cases h
    case h_3 => cases h
    case h_4 =>
      split at h
      case isTrue =>
        rw [Except.ok.inj h] at made
        exact made
      case isFalse => cases h

/-- A connection to a database in a file goes to that file again and again. -/
lemma serves_of_connect (read : DatabaseUrl.read? address = some url) (writable : url.writable)
    (named : url.path = some path) (h : (Disk.connect address disk).1 = .ok c) :
    c.writable = true ∧ (Disk.connect address disk).2.Serves address c.number := by
  rw [Disk.connect, read] at h ⊢
  dsimp only at h ⊢
  cases search : disk.find url with
  | error e =>
    rw [search] at h
    cases h
  | ok result =>
    obtain ⟨number, found⟩ := result
    rw [search] at h
    dsimp only at h ⊢
    rw [writable, Bool.true_or, if_pos rfl] at h ⊢
    obtain rfl := Except.ok.inj h
    obtain ⟨here, free, there⟩ := file_of_find named search
    refine ⟨rfl, ⟨url, path, here, read, writable, named, free, there⟩, ?_⟩
    change ((found.databases.set number _).get number).rows.isSome = true
    rw [Slots.get_set_self]
    rfl

end Disk

end LedgerWatch
