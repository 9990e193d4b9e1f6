import LedgerWatch.Slots
import LedgerWatch.Storage.DatabaseUrl
import LedgerWatch.Storage.Files
import LedgerWatch.Storage.OffsetTable

/-!
# Connections to databases

The databases of a host, in files and in memory. A connection is to one of them and makes its table
of offsets if that is missing.
-/

namespace LedgerWatch

/-- The files and the databases of a host. -/
structure Disk where
  files : Files := .fresh
  /-- The databases that were ever made, by number. -/
  databases : Slots Database := {}

instance : Inhabited Disk :=
  ⟨{}⟩

/-- A connection to a database. -/
structure Connection where
  /-- The number of the database. -/
  number : Nat
  /-- Whether the database may be changed. -/
  writable : Bool
deriving DecidableEq

namespace Disk

/-- Replaces the database with a number. -/
def setDatabase (disk : Disk) (number : Nat) (db : Database) : Disk :=
  { disk with databases := disk.databases.set number db }

/-- Makes a new database. -/
def addDatabase (disk : Disk) : Nat × Disk :=
  (disk.databases.next, { disk with databases := disk.databases.add default })

/-- Makes a new database in a file. -/
def addDatabaseAt (disk : Disk) (path : Path) : Nat × Disk :=
  let (number, disk) := disk.addDatabase
  (number, { disk with files := disk.files.put path (.database number) })

/--
Finds the database of an address, or makes it. A file that is empty becomes a database, a file with
other content is none.
-/
def find (disk : Disk) (url : DatabaseUrl) : Except StorageError (Nat × Disk) :=
  match url.path with
  | none => .ok disk.addDatabase
  | some path =>
    match disk.files.writable path with
    | .error _ => .error .database
    | .ok here =>
      match disk.files.get? here with
      | some (.database number) => .ok (number, disk)
      | some (.file content) =>
        if content.isEmpty && url.writable then .ok (disk.addDatabaseAt here) else .error .database
      | some .folder => .error .database
      | none =>
        if url.creates && url.writable then .ok (disk.addDatabaseAt here) else .error .database

/-- Connects to the database of an address and makes its table of offsets. -/
def connect (address : String) (disk : Disk) : Except StorageError Connection × Disk :=
  match DatabaseUrl.read? address with
  | none => (.error .database, disk)
  | some url =>
    match disk.find url with
    | .error e => (.error e, disk)
    | .ok (number, found) =>
      let db := found.databases.get number
      if url.writable || db.rows.isSome then
        (.ok ⟨number, url.writable⟩, found.setDatabase number db.migrate)
      else (.error .database, disk)

end Disk

end LedgerWatch
