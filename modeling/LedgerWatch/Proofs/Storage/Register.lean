import LedgerWatch.Proofs.Storage.Connection
import LedgerWatch.Proofs.Storage.OffsetFile
import LedgerWatch.Storage.OffsetStore

/-!
# Stores as registers

What is asked of a store is answered as by a register of one offset, through any number of
reopenings. A register refuses heights above its limit and then keeps what it has: the limit of a
file is the greatest number of 64 bits, that of a database the greatest signed one.
-/

namespace LedgerWatch

/-- What is asked of a store. -/
inductive StoreRequest where
  | restore
  | isProcessed (height : Nat)
  | record (offset : Offset)
  /-- A new store takes the place of the old one. -/
  | reopen

/-- What a store answers. -/
inductive StoreReply where
  | restored (answer : Except StorageError Offset)
  | processed (answer : Except StorageError Bool)
  | recorded (answer : Except StorageError Unit)
  | reopened (answer : Except StorageError Unit)
deriving DecidableEq

/-- No height above a limit is recorded. -/
def StoreRequest.Fits (limit : Nat) : StoreRequest → Prop
  | .record o => o.height ≤ limit
  | _ => True

instance (limit : Nat) (request : StoreRequest) : Decidable (request.Fits limit) :=
  match request with
  | .record o => inferInstanceAs (Decidable (o.height ≤ limit))
  | .restore => isTrue trivial
  | .isProcessed _ => isTrue trivial
  | .reopen => isTrue trivial

namespace Register

/-- The answer of a register that holds an offset, and the offset that it holds then. -/
def answer (limit : Nat) (o : Offset) : StoreRequest → StoreReply × Offset
  | .restore => (.restored (.ok o), o)
  | .isProcessed height => (.processed (.ok (height ≤ o.height)), o)
  | .record next =>
    if next.height ≤ limit then (.recorded (.ok ()), next)
    else (.recorded (.error .database), o)
  | .reopen => (.reopened (.ok ()), o)

def answers (limit : Nat) : Offset → List StoreRequest → List StoreReply
  | _, [] => []
  | o, request :: rest =>
    (answer limit o request).1 :: answers limit (answer limit o request).2 rest

/-- A limit that is not reached makes no difference. -/
lemma answer_of_fits {limit : Nat} (greater : Nat) {request : StoreRequest} (o : Offset)
    (fits : request.Fits limit) (le : limit ≤ greater) :
    answer limit o request = answer greater o request := by
  cases request with
  | record next =>
    have low : next.height ≤ limit := fits
    rw [answer, answer, if_pos low, if_pos (Nat.le_trans low le)]
  | restore => rfl
  | isProcessed height => rfl
  | reopen => rfl

lemma answers_of_fits {limit greater : Nat} (le : limit ≤ greater) {requests : List StoreRequest}
    (fits : ∀ request ∈ requests, request.Fits limit) (o : Offset) :
    answers limit o requests = answers greater o requests := by
  induction requests generalizing o with
  | nil => rfl
  | cons request rest ih =>
    have same := answer_of_fits greater o (fits request List.mem_cons_self) le
    rw [answers, answers, same, ih fun r mem => fits r (List.mem_cons_of_mem request mem)]

end Register

namespace OffsetStore

variable {V W : Type} {opening : Program W (Except StorageError (OffsetStore W))}
  {store : OffsetStore W} {w : W} {o : Offset} {limit : Nat}

/-- The store of a file. -/
def openFile (files : Part W Files) (f : OffsetFile) :
    Program W (Except StorageError (OffsetStore W)) :=
  return .ok (.ofFile files f)

/-- The store of a database: a connection to it that makes its table if that is missing. -/
def openDatabase (disk : Part W Disk) (address : String) :
    Program W (Except StorageError (OffsetStore W)) := do
  match ← Program.act disk (Disk.connect address) with
  | .ok c => return .ok (.ofDatabase (disk.comp (Disk.databasePart c.number)) c.writable)
  | .error e => return .error e

/-- Asks a store; a store that cannot be opened again goes on to be used. -/
def ask (opening : Program W (Except StorageError (OffsetStore W))) (store : OffsetStore W) :
    StoreRequest → Program W (StoreReply × OffsetStore W)
  | .restore => do return (.restored (← store.restore), store)
  | .isProcessed height => do return (.processed (← store.isProcessed height), store)
  | .record o => do return (.recorded (← store.record o), store)
  | .reopen => do
    match ← opening with
    | .ok anew => return (.reopened (.ok ()), anew)
    | .error e => return (.reopened (.error e), store)

/-- Asks a store one thing after another. -/
def serve (opening : Program W (Except StorageError (OffsetStore W))) (store : OffsetStore W) :
    List StoreRequest → Program W (List StoreReply)
  | [] => return []
  | request :: rest => do
    let (reply, store) ← store.ask opening request
    return reply :: (← serve opening store rest)

/-- Opens a store and asks it one thing after another. -/
def session (opening : Program W (Except StorageError (OffsetStore W)))
    (requests : List StoreRequest) : Program W (Except StorageError (List StoreReply)) := do
  match ← opening with
  | .ok store => return .ok (← store.serve opening requests)
  | .error e => return .error e

/-- While a store holds an offset, it answers like a register of that offset. -/
def Registers (opening : Program W (Except StorageError (OffsetStore W))) (limit : Nat)
    (holds : Offset → OffsetStore W → W → Prop) : Prop :=
  ∀ ⦃o store w⦄, holds o store w → ∀ request : StoreRequest, request.Fits Text.maxWord →
    ∃ anew after, (store.ask opening request).run w
        = (((Register.answer limit o request).1, anew), after) ∧
      holds (Register.answer limit o request).2 anew after

lemma Registers.serve {holds : Offset → OffsetStore W → W → Prop}
    (registers : Registers opening limit holds) {requests : List StoreRequest}
    (words : ∀ request ∈ requests, request.Fits Text.maxWord) (h : holds o store w) :
    ((store.serve opening requests).run w).1 = Register.answers limit o requests := by
  induction requests generalizing o store w with
  | nil => rfl
  | cons request rest ih =>
    obtain ⟨anew, after, replied, held⟩ := registers h request (words request List.mem_cons_self)
    have others := ih (fun r mem => words r (List.mem_cons_of_mem request mem)) held
    simp only [OffsetStore.serve, Program.bind_eq, Program.run_bind, replied, Program.pure_eq,
      Program.run_done, others, Register.answers]

section Files

variable {files : Part W Files} {f : OffsetFile}

structure HeldInFile (files : Part W Files) (f : OffsetFile) (o : Offset) (store : OffsetStore W)
    (w : W) : Prop where
  store : store = .ofFile files f
  ready : f.Ready (files.get w)
  holds : f.Holds o (files.get w)

/-- A file that can be written is a register of all heights. -/
lemma registers_file (files : Part W Files) (f : OffsetFile) :
    Registers (openFile files f) Text.maxWord (HeldInFile files f) := by
  rintro o store w ⟨rfl, ready, holds⟩ request fits
  cases request with
  | restore =>
    refine ⟨_, files.set (files.get w) w, ?_, rfl, ?_, ?_⟩
    · simp [ask, ofFile, holds.restore, Register.answer]
    · rwa [files.get_set]
    · rwa [Register.answer, files.get_set]
  | isProcessed height =>
    refine ⟨_, w, ?_, rfl, ready, holds⟩
    simp [ask, ofFile, holds.isProcessed, Register.answer]
  | record next =>
    have word : next.height ≤ Text.maxWord := fits
    obtain ⟨after, written, ready, holds⟩ := ready.write_holds word
    refine ⟨_, files.set after w, ?_, rfl, ?_, ?_⟩
    · simp [ask, ofFile, written, Register.answer, word]
    · rwa [files.get_set]
    · rwa [Register.answer, if_pos word, files.get_set]
  | reopen => exact ⟨_, w, rfl, rfl, ready, holds⟩

end Files

section Databases

variable {disk : Part W Disk} {address : String}

/-- The database of a store that holds an offset, in the file of an address. -/
def HeldInDatabase (disk : Part W Disk) (address : String) (o : Offset) (store : OffsetStore W)
    (w : W) : Prop :=
  ∃ number, store = .ofDatabase (disk.comp (Disk.databasePart number)) true ∧
    (disk.get w).Serves address number ∧ ((disk.get w).databases.get number).Holds o

/-- The database goes on to hold what is put into it. -/
lemma heldInDatabase_set {number : Nat} {db : Database}
    (serves : (disk.get w).Serves address number) (holds : db.Holds o) :
    HeldInDatabase disk address o (.ofDatabase (disk.comp (Disk.databasePart number)) true)
      ((disk.comp (Disk.databasePart number)).set db w) := by
  refine ⟨number, rfl, ?_, ?_⟩
  · change (disk.get (disk.set _ w)).Serves address number
    rw [disk.get_set]
    exact serves.setDatabase holds.rows
  · change ((disk.get (disk.set _ w)).databases.get number).Holds o
    rw [disk.get_set]
    change Database.Holds o ((Disk.databasePart number).get _)
    rw [(Disk.databasePart number).get_set]
    exact holds

/-- A database in a file is a register of the heights that a row can hold. -/
lemma registers_database (disk : Part W Disk) (address : String) :
    Registers (openDatabase disk address) Database.greatestHeight
      (HeldInDatabase disk address) := by
  rintro o store w ⟨number, rfl, serves, holds⟩ request -
  let part := disk.comp (Disk.databasePart number)
  have here : (part.get w).Holds o := holds
  cases request with
  | restore =>
    refine ⟨.ofDatabase part true, part.set (part.get w) w, ?_, heldInDatabase_set serves here⟩
    simp [ask, ofDatabase, part, here.restore, Register.answer]
  | isProcessed height =>
    refine ⟨_, w, ?_, number, rfl, serves, holds⟩
    simp [ask, ofDatabase, part, here.isProcessed, Register.answer]
  | record next =>
    rcases Nat.lt_or_ge Database.greatestHeight next.height with great | fits
    · have refused : (part.get w).write true next = (.error .database, part.get w) :=
        Database.write_of_gt great
      refine ⟨.ofDatabase part true, part.set (part.get w) w, ?_, ?_⟩
      · simp [ask, ofDatabase, part, refused, Register.answer, Nat.not_le.2 great]
      · rw [Register.answer, if_neg (Nat.not_le.2 great)]
        exact heldInDatabase_set serves here
    · obtain ⟨after, written, held⟩ := Database.write_of_le here.rows fits
      refine ⟨.ofDatabase part true, part.set after w, ?_, ?_⟩
      · simp [ask, ofDatabase, part, written, Register.answer, fits]
      · rw [Register.answer, if_pos fits]
        exact heldInDatabase_set serves held
  | reopen =>
    obtain ⟨after, connected, again, same⟩ := serves.connect
    refine ⟨_, disk.set after w, ?_, number, rfl, ?_, ?_⟩
    · simp [ask, openDatabase, connected, Register.answer]
    · rwa [disk.get_set]
    · rwa [disk.get_set, same]

end Databases

/-- A store that holds the root offset once it was restored answers like a register from then on. -/
lemma Registers.session {holds : Offset → OffsetStore W → W → Prop} {opened after : W}
    (registers : Registers opening limit holds) {requests : List StoreRequest}
    (words : ∀ request ∈ requests, request.Fits Text.maxWord)
    (opens : opening.run w = (.ok store, opened))
    (restored : store.restore.run opened = (.ok .root, after)) (h : holds .root store after) :
    ((session opening (.restore :: requests)).run w).1
      = .ok (Register.answers limit .root (.restore :: requests)) := by
  have others := registers.serve words h
  simp only [OffsetStore.session, OffsetStore.serve, ask, Program.bind_eq, Program.run_bind, opens,
    restored, Program.pure_eq, Program.run_done, others]
  rfl

/-- A file that is missing is made to hold the root offset. -/
lemma restore_missing {files : Part V Files} {f : OffsetFile} {v : V}
    (able : (f.write .root (files.get v)).1 = .ok ())
    (missing : (files.get v).read f.path = .error .notFound) :
    ∃ after, (ofFile files f).restore.run v = (.ok .root, after) ∧
      HeldInFile files f .root (.ofFile files f) after := by
  obtain ⟨after, reset, ready, holds⟩ := (OffsetFile.Ready.of_write able).reset
  have unread : (files.get v).readText f.path = .error (.file .notFound) := by
    rw [Files.readText, missing]
  have restored : f.restore (files.get v) = (.ok .root, after) := by
    rw [OffsetFile.restore, unread]
    exact reset
  refine ⟨files.set after v, ?_, rfl, ?_, ?_⟩
  · simp [ofFile, restored]
  · rwa [files.get_set]
  · rwa [files.get_set]

/-- A table without an offset is made to hold the root offset. -/
lemma restore_vacant {disk : Part W Disk} {address : String} {number : Nat}
    (serves : (disk.get w).Serves address number)
    (vacant : ((disk.get w).databases.get number).row? = none) :
    ∃ after, (ofDatabase (disk.comp (Disk.databasePart number)) true).restore.run w
        = (.ok .root, after) ∧
      HeldInDatabase disk address .root
        (.ofDatabase (disk.comp (Disk.databasePart number)) true) after := by
  let part := disk.comp (Disk.databasePart number)
  have rows : (part.get w).rows.isSome := serves.rows
  have empty : (part.get w).row? = none := vacant
  obtain ⟨after, restored, holds⟩ := Database.restore_of_vacant rows empty
  refine ⟨part.set after w, ?_, heldInDatabase_set serves holds⟩
  simp [ofDatabase, part, restored]

/--
A file that can be written and a database in a file answer alike, as one register, from the moment
that they are restored the first time; only heights that no row can hold are refused by the
database, which keeps what it has.
-/
theorem stores_answer_alike {files : Part V Files} {f : OffsetFile} {disk : Part W Disk}
    {address : String} {url : DatabaseUrl} {c : Connection} {v : V} {w : W}
    (able : (f.write .root (files.get v)).1 = .ok ())
    (missing : (files.get v).read f.path = .error .notFound)
    (read : DatabaseUrl.read? address = some url) (writable : url.writable = true)
    (persistent : url.path.isSome)
    (connected : (Disk.connect address (disk.get w)).1 = .ok c)
    (vacant : ((Disk.connect address (disk.get w)).2.databases.get c.number).row? = none)
    {requests : List StoreRequest}
    (words : ∀ request ∈ requests, request.Fits Text.maxWord) :
    ((session (openFile files f) (.restore :: requests)).run v).1
        = .ok (Register.answers Text.maxWord .root (.restore :: requests)) ∧
      ((session (openDatabase disk address) (.restore :: requests)).run w).1
        = .ok (Register.answers Database.greatestHeight .root (.restore :: requests)) ∧
      ((∀ request ∈ requests, request.Fits Database.greatestHeight) →
        ((session (openFile files f) (.restore :: requests)).run v).1
          = ((session (openDatabase disk address) (.restore :: requests)).run w).1) := by
  obtain ⟨path, named⟩ := Option.isSome_iff_exists.1 persistent
  obtain ⟨writes, serves⟩ := Disk.serves_of_connect read writable named connected
  have inFile : ((session (openFile files f) (.restore :: requests)).run v).1
      = .ok (Register.answers Text.maxWord .root (.restore :: requests)) := by
    obtain ⟨after, restored, held⟩ := restore_missing able missing
    exact (registers_file files f).session words rfl restored held
  have inDatabase : ((session (openDatabase disk address) (.restore :: requests)).run w).1
      = .ok (Register.answers Database.greatestHeight .root (.restore :: requests)) := by
    let opened := disk.set (Disk.connect address (disk.get w)).2 w
    have there : disk.get opened = (Disk.connect address (disk.get w)).2 := disk.get_set _ w
    rw [← there] at serves vacant
    obtain ⟨after, restored, held⟩ := restore_vacant serves vacant
    refine (registers_database disk address).session words ?_ restored held
    simp [openDatabase, connected, writes, opened]
  refine ⟨inFile, inDatabase, fun fits => ?_⟩
  have low : Database.greatestHeight ≤ Text.maxWord := by decide
  have all : ∀ request ∈ StoreRequest.restore :: requests, request.Fits Database.greatestHeight :=
    List.forall_mem_cons.2 ⟨trivial, fits⟩
  rw [inFile, inDatabase, Register.answers_of_fits low all .root]

def cabinet : Part Files Files :=
  ⟨id, fun files _ => files, fun _ _ => rfl⟩

def drive : Part Disk Disk :=
  ⟨id, fun disk _ => disk, fun _ _ => rfl⟩

/-- A height that a row can hold, and one that is too great for it, before a reopening. -/
def heights : List StoreRequest :=
  [.record ⟨.ofNat 7, 2 ^ 63 - 1⟩, .record ⟨.ofNat 8, 2 ^ 63⟩, .reopen, .restore,
    .isProcessed (2 ^ 63)]

theorem stores_answer_alike_at_limit :
    (((⟨"o.json"⟩ : OffsetFile).write .root Files.fresh).1 = .ok () ∧
      (∀ request ∈ heights, request.Fits Text.maxWord)) ∧
    ((session (openFile cabinet ⟨"o.json"⟩) (.restore :: heights)).run Files.fresh).1
      = .ok [.restored (.ok .root), .recorded (.ok ()), .recorded (.ok ()), .reopened (.ok ()),
          .restored (.ok ⟨.ofNat 8, 2 ^ 63⟩), .processed (.ok true)] ∧
    ((session (openDatabase drive "sqlite://o.db?mode=rwc") (.restore :: heights)).run {}).1
      = .ok [.restored (.ok .root), .recorded (.ok ()), .recorded (.error .database),
          .reopened (.ok ()), .restored (.ok ⟨.ofNat 7, 2 ^ 63 - 1⟩), .processed (.ok false)] := by
  have able : ((⟨"o.json"⟩ : OffsetFile).write .root (cabinet.get Files.fresh)).1 = .ok () := by
    decide +kernel
  have words : ∀ request ∈ heights, request.Fits Text.maxWord := by decide
  have missing : (cabinet.get Files.fresh).read "o.json" = .error .notFound := by decide +kernel
  have read : DatabaseUrl.read? "sqlite://o.db?mode=rwc" = some ⟨some "o.db", true, true⟩ := by
    decide +kernel
  have connected : (Disk.connect "sqlite://o.db?mode=rwc" (drive.get {})).1 = .ok ⟨0, true⟩ := by
    decide +kernel
  have vacant : ((Disk.connect "sqlite://o.db?mode=rwc" (drive.get {})).2.databases.get 0).row?
      = none := by
    decide +kernel
  obtain ⟨inFile, inDatabase, -⟩ :=
    stores_answer_alike able missing read rfl rfl connected vacant words
  exact ⟨⟨able, words⟩, inFile, inDatabase⟩

end OffsetStore

end LedgerWatch
