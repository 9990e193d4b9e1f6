import LedgerWatch.Program
import LedgerWatch.Storage.Databases
import LedgerWatch.Storage.OffsetFile

/-!
# Offset stores

A durable record of the highest block whose notification cycle was completed. Heights decide what
was processed; identifiers let a poller find the block again. Operations of files and databases let
others have their turn.
-/

namespace LedgerWatch

/-- A record of an offset that programs over a world can use. -/
structure OffsetStore (W : Type) where
  /-- The recorded offset; the root offset is recorded when there is none that can be read. -/
  restore : Program W (Except StorageError Offset)
  /-- Whether the record has reached a height. -/
  isProcessed : Nat → Program W (Except StorageError Bool)
  /-- Replaces the record. -/
  record : Offset → Program W (Except StorageError Unit)

namespace OffsetStore

variable {W : Type}

/-- The record in a file. -/
def ofFile (files : Part W Files) (f : OffsetFile) : OffsetStore W where
  restore := do
    Program.pause
    Program.act files f.restore
  isProcessed height := do
    Program.pause
    return f.isProcessed height (← Program.look files)
  record o := do
    Program.pause
    Program.act files (f.write o)

/-- The record in a database. -/
def ofDatabase (database : Part W Database) (writable : Bool) : OffsetStore W where
  restore := do
    Program.pause
    Program.act database (Database.restore writable)
  isProcessed height := do
    Program.pause
    return Database.isProcessed height (← Program.look database)
  record o := do
    Program.pause
    Program.act database (Database.write writable o)

end OffsetStore

end LedgerWatch
