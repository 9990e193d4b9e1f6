import LedgerWatch.Container.Basic
import LedgerWatch.History
import LedgerWatch.Storage.Databases

/-!
# Outcomes

What the steps of a rehearsal come to, and what watchers did on the way.
-/

namespace LedgerWatch.Rehearsal

/-- Why a step fails. -/
inductive Failure where
  | ledger (error : LedgerError)
  | registry (error : RegistryError)
  | storage (error : StorageError)
  | settings (error : SettingsError)
  | poller (error : PollerError)
  | host (error : HostError)
  | worker (fault : WorkerFault)
  | file (fault : FileFault)

/-- What a step comes to. -/
inductive Outcome where
  | nothing
  | done
  | truth (value : Bool)
  | block (id : BlockId)
  | transaction (id : TransactionId)
  | wholeBlock (block : Block)
  | wholeBlocks (blocks : List Block)
  | wholeTransaction (transaction : Transaction)
  | history (history : History)
  /-- A registration, by the order in which registrations were seen. -/
  | handle (number : Nat)
  | handles (numbers : List Nat)
  | registry (names : List String) (active : Bool)
  | settings (settings : Settings)
  | tally (tally : Tally)
  | offset (offset : Offset)
  | rows (rows : List (String × OffsetRow))
  | bytes (content : ByteArray)
  | names (names : List String)
  | properties (properties : Properties)
  | mark (block : BlockId)
  | polled (blocks : Nat) (mark : BlockId)
  | pollFailed (error : PollerError) (mark : BlockId)
  | metrics (metrics : Metrics)
  | failed (failure : Failure)

/-- What a watcher or a hook did. -/
inductive Event where
  | started (who : String) (settings : Settings)
  | notified (who : String) (block : BlockId) (criteria : Criteria)
  | acted (who : String) (outcome : Outcome)

/-- What can be seen of a registration. -/
structure View where
  name : String
  status : Status
  criteria : Criteria
deriving DecidableEq

/-- What is told of one step. -/
structure Report where
  outcome : Outcome
  /-- What happened meanwhile, with the time of the clock. -/
  events : List (Nat × Event)
  /-- The registrations that look different from before, by number. -/
  changes : List (Nat × View)

end LedgerWatch.Rehearsal
