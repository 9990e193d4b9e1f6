import LedgerWatch.Criteria.Basic
import LedgerWatch.Host.Environment
import LedgerWatch.Rehearsal.Reference
import LedgerWatch.Settings.Schema

/-!
# Scripts and steps

A rehearsal is a list of steps. Some of them register watchers that act by a script: it says what
the watcher gives each time it is started or told about a block, and which steps it takes before
that. Steps refer to blocks and transactions by references, which are resolved when a step is taken.
-/

namespace LedgerWatch.Rehearsal

/-- The questions of a ledger that can be disturbed. -/
inductive Question where
  | latest
  | blocksAfter
  | block
  | transaction
  | blockOf
  | head
  | previous
deriving DecidableEq

/-- The name under which a question is shown. -/
def Question.name : Question → String
  | .latest => "latest_block_id"
  | .blocksAfter => "find_all_blocks_after"
  | .block => "find_block_by_id"
  | .transaction => "find_transaction_by_id"
  | .blockOf => "find_transaction_block_id"
  | .head => "find_last_transaction_id_for_artifact"
  | .previous => "find_previous_transaction_id"

/-- All questions. -/
def Question.all : List Question :=
  [.latest, .blocksAfter, .block, .transaction, .blockOf, .head, .previous]

/-- The question with a name. -/
def Question.ofName? (name : String) : Option Question :=
  Question.all.find? fun q => q.name = name

/-- A criteria whose identifiers are referred to. -/
structure CriteriaDraft where
  latest : Option Reference := none
  artifact : Option Reference := none
  artifactType : Option Reference := none
  transactionType : Option Reference := none
  artifactState : Option (Reference × Int32) := none
deriving Inhabited

/-- The criteria that a draft describes. -/
def CriteriaDraft.resolve (here : BlockId) (d : CriteriaDraft) : Criteria where
  latestBlock := d.latest.map (Reference.resolve here)
  artifact := d.artifact.map (Reference.resolve here)
  artifactType := d.artifactType.map (Reference.resolve here)
  transactionType := d.transactionType.map (Reference.resolve here)
  artifactState := d.artifactState.map fun (id, state) => ⟨id.resolve here, state⟩

/-- A transaction that was made before, or one that is described. -/
inductive TransactionDraft where
  | made (number : Nat)
  | described (id previous artifact artifactType kind : Reference)
    (previousState newState : Option Int32)

/-- A block that was made before, or one that is described. -/
inductive BlockDraft where
  | made (number : Nat)
  | described (id : Reference) (height : Nat) (transactions : List TransactionDraft)

/-- The next transaction of an artifact. -/
structure ChangeDraft where
  artifact : Reference
  artifactType : Reference
  kind : Reference
  newState : Option Int32

/-- Where an offset is kept. -/
inductive StoreDraft where
  | memory
  | file (path : String)
  | database (address : String)

/-- The operations of a store in memory that can be made to fail. -/
inductive StoreOperation where
  | restore
  | isProcessed
  | record
deriving DecidableEq

mutual

/-- One step of a rehearsal. -/
inductive Step where
  | append (transactions : List TransactionDraft)
  | appendChange (change : ChangeDraft)
  | nextChange (change : ChangeDraft)
  | unavailable (reason : Option String)
  | hide (question : Question) (id : Reference)
  | fail (question : Question) (reason : Option String)
  | hook (question : Question) (acts : List Step)
  | latest
  | blocksAfter (block : Reference)
  | block (block : Reference)
  | transaction (transaction : Reference)
  | blockOf (transaction : Reference)
  | head (artifact : Reference)
  | previous (transaction : Reference)
  | history (artifact : Reference) (last : Option Reference)
  | newRegistry
  | register (name : String) (script : Script) (settings : Settings)
  | start
  | notify (block : BlockDraft)
  | close
  | remove (name : String)
  | find (name : String)
  | registry
  | cancel (handle : Nat)
  | setCriteria (handle : Nat) (criteria : CriteriaDraft)
  | settings (handle : Nat)
  | triggered (handle : Nat) (block : BlockDraft)
  | offsets (slot : String) (store : StoreDraft)
  | failStore (slot : String) (operation : StoreOperation) (reason : Option String)
  | restore (slot : String)
  | isProcessed (slot : String) (height : Nat)
  | record (slot : String) (block : Reference) (height : Nat)
  | rows (slot : String)
  | putRow (slot : String) (key : String) (block : String) (height : Int64)
  | deleteRow (slot : String) (key : String)
  | dropTable (slot : String)
  | write (path : String) (content : ByteArray)
  | read (path : String)
  | makeFolder (path : String)
  | removeFile (path : String)
  | removeFolder (path : String)
  | names
  | loadProperties (path : String)
  | poller (slot : String) (offsets : String)
  | poll (slot : String)
  | worker (slot : String) (interval : Nat) (signal : Bool)
  | signalWorker (value : Bool)
  | abandonWorker
  | workerFinished
  | joinWorker
  | sleep (time : Nat)
  | container (offsets : String) (interval : Nat) (kinds : List (String × Script))
  | configureContainer (env : Environment) (kinds : List (String × Script))
  | bootstrapContainer (env : Environment) (kinds : List (String × Script))
  | containerRegister (name : String) (properties : Properties)
  | containerRegisterAll (properties : Properties)
  | containerStart
  | containerStop
  | containerRunning
  | metrics

/-- What a watcher gives. -/
inductive Reply where
  /-- The same criteria as of the block. -/
  | advance
  /-- The same criteria. -/
  | keep
  /-- The same criteria as of no block. -/
  | advanceToNone
  /-- No criteria. -/
  | optOut
  | panic
  | fail (message : String)
  | criteria (draft : CriteriaDraft)
  | failLedger (reason : String)
  | failBlock (block : Reference)
  | failSettings (key : String)
  /-- Takes steps before it gives something. -/
  | after (acts : List Step) (reply : Reply)

/-- What a watcher gives, time by time. -/
inductive Script where
  | mk (schema : Schema) (starts replies : List Reply) (default : Reply)

end

namespace Script

/-- The settings that the watcher needs. -/
def schema : Script → Schema
  | .mk schema _ _ _ => schema

/-- What the watcher gives when it is started the n-th time: at last any block after the root. -/
def start : Script → Nat → Reply
  | .mk _ starts _ _, n => starts.getD n .keep

/-- What the watcher gives when it is told about a block the n-th time. -/
def reply : Script → Nat → Reply
  | .mk _ _ replies default, n => replies.getD n default

instance : Inhabited Script :=
  ⟨.mk {} [] [] .advance⟩

end Script

/-- A watcher that acts by a script. -/
structure Actor where
  /-- The name under which the watcher is shown. -/
  who : String
  script : Script
  /-- How often the watcher was started. -/
  starts : Nat := 0
  /-- How often the watcher was told about a block. -/
  notifications : Nat := 0

instance : Inhabited Actor :=
  ⟨{ who := "", script := default }⟩

end LedgerWatch.Rehearsal
