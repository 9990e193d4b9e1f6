import LedgerWatch.Text.Blank

/-!
# Files

A tree of files and folders, and the operations on it by path. A path is resolved from the working
folder, or from the root when it begins with a slash; every folder on the way has to be there.
-/

namespace LedgerWatch

/-- The names that lead from the root to a file or a folder. -/
abbrev Path := List String

/-- What stands at a path. -/
inductive Entry where
  | file (content : ByteArray)
  | folder
  /-- The file of a database, by the number of the database. -/
  | database (number : Nat)

/-- Whether a folder stands there. -/
def Entry.isFolder : Entry → Bool
  | .folder => true
  | _ => false

/-- Why an operation on files fails. -/
inductive FileFault where
  | notFound
  | notFolder
  | isFolder
  | alreadyThere
  | busy
  | nameTooLong
  | badName
  | invalidArgument
deriving DecidableEq

/-- The wording of each fault. -/
def FileFault.message : FileFault → String
  | .notFound => "No such file or directory (os error 2)"
  | .notFolder => "Not a directory (os error 20)"
  | .isFolder => "Is a directory (os error 21)"
  | .alreadyThere => "File exists (os error 17)"
  | .busy => "Device or resource busy (os error 16)"
  | .nameTooLong => "File name too long (os error 36)"
  | .badName => "file name contained an unexpected NUL byte"
  | .invalidArgument => "Invalid argument (os error 22)"

/-- A tree of files and folders. -/
structure Files where
  /-- What stands at each path. -/
  entries : List (Path × Entry)
  /-- The working folder. -/
  home : Path

namespace Files

/-- A tree whose working folder is empty. -/
def fresh : Files :=
  ⟨[([], .folder), (["work"], .folder)], ["work"]⟩

instance : Inhabited Files :=
  ⟨fresh⟩

/-- What stands at a path. -/
def get? (files : Files) (path : Path) : Option Entry :=
  files.entries.lookup path

/-- Puts an entry at a path, in place of what stands there. -/
def put (files : Files) (path : Path) (entry : Entry) : Files :=
  { files with entries := (path, entry) :: files.entries.filter fun e => e.1 != path }

/-- Takes away what stands at a path. -/
def erase (files : Files) (path : Path) : Files :=
  { files with entries := files.entries.filter fun e => e.1 != path }

/-- Takes away a folder and all that is in it. -/
def eraseTree (files : Files) (path : Path) : Files :=
  { files with entries := files.entries.filter fun e => !path.isPrefixOf e.1 }

/-- Takes away all that is in a folder. -/
def eraseWithin (files : Files) (path : Path) : Files :=
  { files with entries := files.entries.filter fun e => !path.isPrefixOf e.1 || e.1 == path }

/-- What a path leads to. -/
inductive Place where
  /-- A folder that is there, reached without its name. -/
  | folder (path : Path)
  /-- A name in a folder that is there; a slash after it asks for a folder. -/
  | name (folder : Path) (last : String) (slash : Bool)

/-- The most bytes that a name may have. -/
def maxName : Nat := 255

/-- The most bytes that a path may have. -/
def maxPath : Nat := 4095

/-- Goes along names from a folder that is there. -/
def walk (files : Files) : Path → List String → Except FileFault Place
  | here, [] => .ok (.folder here)
  | here, part :: rest =>
    if part = "" ∨ part = "." then files.walk here rest
    else if part = ".." then files.walk here.dropLast rest
    else if maxName < part.utf8ByteSize then .error .nameTooLong
    else if rest.all (· = "") then .ok (.name here part (!rest.isEmpty))
    else
      match files.get? (here ++ [part]) with
      | some .folder => files.walk (here ++ [part]) rest
      | some _ => .error .notFolder
      | none => .error .notFound

/-- The place that the text of a path leads to. -/
def locate (files : Files) (path : String) : Except FileFault Place :=
  if path = "" then .error .notFound
  else if path.toList.contains '\x00' then .error .badName
  else if maxPath < path.utf8ByteSize then .error .nameTooLong
  else
    let start := if path.toList.head? = some '/' then [] else files.home
    files.walk start ((Text.splitAt '/' path.toList).map String.ofList)

/-- What is read out of the file of a database: no text. -/
def databaseContent : ByteArray :=
  ⟨#[0x53, 0x51, 0x4C, 0x69, 0x74, 0x65, 0x00, 0xFF]⟩

/-- The content of a file. -/
def read (files : Files) (path : String) : Except FileFault ByteArray := do
  match ← files.locate path with
  | .folder _ => .error .isFolder
  | .name folder last slash =>
    match files.get? (folder ++ [last]) with
    | none => .error .notFound
    | some .folder => .error .isFolder
    | some (.file content) => if slash then .error .notFolder else .ok content
    | some (.database _) => if slash then .error .notFolder else .ok databaseContent

/-- Where a file is written: at a name where nothing or a file stands. -/
def writable (files : Files) (path : String) : Except FileFault Path := do
  match ← files.locate path with
  | .folder _ => .error .isFolder
  | .name folder last slash =>
    if slash || (files.get? (folder ++ [last])).any Entry.isFolder then .error .isFolder
    else .ok (folder ++ [last])

/-- Writes a file, in place of one that stands there. -/
def write (files : Files) (path : String) (content : ByteArray) : Except FileFault Files := do
  return files.put (← files.writable path) (.file content)

/-- Where a file is moved to. -/
def movable (files : Files) : Place → Except FileFault Path
  | .folder _ => .error .busy
  | .name folder last slash =>
    if slash then .error .notFolder
    else
      match files.get? (folder ++ [last]) with
      | some .folder => .error .isFolder
      | _ => .ok (folder ++ [last])

/-- Moves a file to another path, in place of a file that stands there. -/
def rename (files : Files) (source target : String) : Except FileFault Files := do
  let source ← files.locate source
  let target ← files.locate target
  match source with
  | .folder _ => .error .busy
  | .name folder last slash =>
    match files.get? (folder ++ [last]) with
    | none => .error .notFound
    | some entry =>
      if slash && !entry.isFolder then .error .notFolder
      else
        let path ← files.movable target
        return (files.erase (folder ++ [last])).put path entry

/-- Takes a file away. -/
def remove (files : Files) (path : String) : Except FileFault Files := do
  match ← files.locate path with
  | .folder _ => .error .isFolder
  | .name folder last slash =>
    match files.get? (folder ++ [last]) with
    | none => .error .notFound
    | some .folder => .error .isFolder
    | some _ => if slash then .error .notFolder else .ok (files.erase (folder ++ [last]))

/-- Makes a folder where nothing stands. -/
def makeFolder (files : Files) (path : String) : Except FileFault Files := do
  match ← files.locate path with
  | .folder _ => .error .alreadyThere
  | .name folder last _ =>
    match files.get? (folder ++ [last]) with
    | none => .ok (files.put (folder ++ [last]) .folder)
    | some _ => .error .alreadyThere

/--
Takes a folder away with all that is in it. A folder that is reached without its name is emptied,
but stays.
-/
def removeFolder (files : Files) (path : String) : Except FileFault Unit × Files :=
  match files.locate path with
  | .error e => (.error e, files)
  | .ok (.folder here) => (.error .invalidArgument, files.eraseWithin here)
  | .ok (.name folder last _) =>
    match files.get? (folder ++ [last]) with
    | none => (.error .notFound, files)
    | some .folder => (.ok (), files.eraseTree (folder ++ [last]))
    | some _ => (.error .notFolder, files)

/-- The names in the working folder, in ascending order. -/
def names (files : Files) : List String :=
  let inside := files.entries.filterMap fun e =>
    if e.1.dropLast = files.home ∧ e.1 ≠ [] then e.1.getLast? else none
  inside.mergeSort fun a b => decide (a ≤ b)

end Files

/-- Why the text of a file cannot be read. -/
inductive ReadFault where
  | file (fault : FileFault)
  | notText
deriving DecidableEq

/-- The wording of each fault. -/
def ReadFault.message : ReadFault → String
  | .file fault => fault.message
  | .notText => "stream did not contain valid UTF-8"

/-- The text of a file. -/
def Files.readText (files : Files) (path : String) : Except ReadFault String :=
  match files.read path with
  | .error fault => .error (.file fault)
  | .ok content =>
    match String.fromUTF8? content with
    | some text => .ok text
    | none => .error .notText

end LedgerWatch
