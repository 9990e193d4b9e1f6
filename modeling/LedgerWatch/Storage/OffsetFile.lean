import LedgerWatch.Chain.Encoding
import LedgerWatch.Storage.Files

/-!
# The offset in a file

An offset is kept as a JSON record in a file of its own. It is written to a file beside it first,
which is then moved into place, so that a reader finds the old record or the new one.
-/

namespace LedgerWatch

/-- The file that holds an offset, by its path. -/
structure OffsetFile where
  path : String
deriving DecidableEq

namespace OffsetFile

/-- The path of the file that is written first. -/
def draftPath (f : OffsetFile) : String :=
  f.path ++ ".tmp"

/-- A failure of an operation on a path. -/
def fault (path message : String) : StorageError :=
  .io (path ++ ": " ++ message)

/-- The bytes of the record of an offset. -/
def encode (o : Offset) : ByteArray :=
  o.toJson.render.toUTF8

/-- Writes an offset to the draft and moves the draft into place. -/
def write (f : OffsetFile) (o : Offset) (files : Files) : Except StorageError Unit × Files :=
  match files.write f.draftPath (encode o) with
  | .error e => (.error (fault f.draftPath e.message), files)
  | .ok drafted =>
    match drafted.rename f.draftPath f.path with
    | .error e => (.error (fault f.path e.message), drafted)
    | .ok moved => (.ok (), moved)

/-- Writes the root offset. -/
def reset (f : OffsetFile) (files : Files) : Except StorageError Offset × Files :=
  match f.write .root files with
  | (.ok (), files) => (.ok .root, files)
  | (.error e, files) => (.error e, files)

/-- The recorded offset. A record that is missing or unreadable is replaced by the root offset. -/
def restore (f : OffsetFile) (files : Files) : Except StorageError Offset × Files :=
  match files.readText f.path with
  | .ok text =>
    match Offset.read? text with
    | some o => (.ok o, files)
    | none => f.reset files
  | .error (.file .notFound) => f.reset files
  | .error e => (.error (fault f.path e.message), files)

/-- Whether the record has reached a height. -/
def isProcessed (f : OffsetFile) (height : Nat) (files : Files) : Except StorageError Bool :=
  match files.readText f.path with
  | .ok text =>
    match Offset.read? text with
    | some o => .ok (height ≤ o.height)
    | none => .error (.io (f.path ++ " is corrupt"))
  | .error e => .error (fault f.path e.message)

end OffsetFile

end LedgerWatch
