import LedgerWatch.Registry.Site
import LedgerWatch.Storage.OffsetStore

/-!
# Pollers

A poller hands the blocks of a ledger to a registry in ascending order and records each one
afterwards, so that a block is announced once even when the poller is made anew. Its mark is the
block up to which it has come.
-/

namespace LedgerWatch

/-- Why a poller cannot go on. -/
inductive PollerError where
  | ledger (error : LedgerError)
  | storage (error : StorageError)
deriving DecidableEq

/-- The wording of each error. -/
def PollerError.message : PollerError → String
  | .ledger error => "ledger error: " ++ error.message
  | .storage error => "storage error: " ++ error.message

/-- What a poller works with. -/
structure Poller (W : Type) where
  ledger : LedgerReads W
  offsets : OffsetStore W
  /-- Hands a block to those who are to be told about it. -/
  notify : Block → Program W (Except RegistryError Tally)
  metrics : Part W Metrics

namespace Poller

variable {W : Type}

/-- Counts one more. -/
def count (p : Poller W) (c : Counter) : Program W Unit :=
  Program.modify p.metrics (Metrics.increment c)

/-- Hands a block on, whatever becomes of it. -/
def announce (p : Poller W) (b : Block) : Program W Unit := do
  match ← p.notify b with
  | .ok _ => p.count .blockNotified
  | .error _ => p.count .blockRefused

/-- Hands a block on and records it, unless it was processed before. -/
def processBlock (p : Poller W) (b : Block) : Program W (Except StorageError Unit) := do
  match ← p.offsets.isProcessed b.height with
  | .error e => return .error e
  | .ok true =>
    p.count .blockSkipped
    return .ok ()
  | .ok false =>
    p.announce b
    match ← p.offsets.record ⟨b.id, b.height⟩ with
    | .error e => return .error e
    | .ok () =>
      Program.modify p.metrics (Metrics.recordOffset b.height)
      return .ok ()

/-- Processes blocks one after another. The mark moves past each one that succeeds. -/
def processBlocks (p : Poller W) (mark : BlockId) :
    List Block → Program W (Except StorageError Unit × BlockId)
  | [] => return (.ok (), mark)
  | b :: rest => do
    match ← p.processBlock b with
    | .error e => return (.error e, mark)
    | .ok () => processBlocks p b.id rest

/-- Makes a poller: its first mark is the recorded block, which it processes once more. -/
def create (p : Poller W) : Program W (Except PollerError BlockId) := do
  match ← p.offsets.restore with
  | .error e => return .error (.storage e)
  | .ok offset =>
    if offset.block.isZero then return .ok .root
    else
      match ← p.ledger.block? offset.block with
      | .error e => return .error (.ledger e)
      | .ok none => return .error (.ledger (.blockNotFound offset.block))
      | .ok (some b) =>
        match ← p.processBlock b with
        | .error e => return .error (.storage e)
        | .ok () => return .ok b.id

/-- Processes every block after the mark. Gives how many there were, and the mark then reached. -/
def poll (p : Poller W) (mark : BlockId) : Program W (Except PollerError Nat × BlockId) := do
  match ← p.ledger.blocksAfter mark with
  | .error e => return (.error (.ledger e), mark)
  | .ok blocks =>
    match ← p.processBlocks mark blocks with
    | (.error e, mark) => return (.error (.storage e), mark)
    | (.ok (), mark) => return (.ok blocks.length, mark)

end Poller

end LedgerWatch
