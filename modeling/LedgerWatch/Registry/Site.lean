import LedgerWatch.Metrics
import LedgerWatch.Registry.Basic
import LedgerWatch.Registry.Trigger

/-!
# Starting and notifying watchers

A site is a registry in a world, with the counters and the ledger beside it and the behaviour of its
watchers. Starting goes through the registrations by name and stops at the first that fails;
notifying goes through all of them, and a watcher that fails does not touch the others.
-/

namespace LedgerWatch

/-- A registry of watchers in a world. -/
structure Site (W σ : Type) where
  registry : Part W (Registry σ)
  metrics : Part W Metrics
  ledger : LedgerReads W
  behaviour : Behaviour W σ

/-- How a watcher that was told about a block ended. -/
inductive Delivery where
  | rearmed
  | optedOut
  | failed
deriving DecidableEq

/-- The counter of each ending. -/
def Delivery.counter : Delivery → Counter
  | .rearmed => .rearmed
  | .optedOut => .optedOut
  | .failed => .failed

/-- What one notification of a block came to. -/
structure Tally where
  triggered : Nat := 0
  rearmed : Nat := 0
  optedOut : Nat := 0
  failed : Nat := 0
deriving DecidableEq

/-- Adds a watcher that was told about the block. -/
def Tally.add (t : Tally) : Delivery → Tally
  | .rearmed => { t with triggered := t.triggered + 1, rearmed := t.rearmed + 1 }
  | .optedOut => { t with triggered := t.triggered + 1, optedOut := t.optedOut + 1 }
  | .failed => { t with triggered := t.triggered + 1, failed := t.failed + 1 }

namespace Site

variable {W σ : Type} [Inhabited σ]

/-- A registration as it is. -/
def registration (s : Site W σ) (h : Handle) : Program W (Registration σ) := do
  return (← Program.look s.registry).get h

/-- Waits until no program of a watcher is under way, and marks that one is now. -/
def acquire (s : Site W σ) (h : Handle) : Program W Unit := do
  if (← s.registration h).busy then
    Program.waitFor (fun w => !((s.registry.get w).get h).busy) none
  Program.modify s.registry (Registry.setBusy h true)

/-- Runs a program of a watcher. Others have their turn before it begins and after it has ended. -/
def perform {α : Type} (s : Site W σ) (h : Handle) (f : Registration σ → Program W (α × σ)) :
    Program W α := do
  s.acquire h
  Program.pause
  let (result, watcher) ← f (← s.registration h)
  Program.modify s.registry (Registry.release h watcher)
  Program.pause
  return result

/-- Asks a watcher for its first criteria. -/
def startWatcher (s : Site W σ) (h : Handle) : Program W (Except WatcherError Criteria) :=
  s.perform h fun reg => s.behaviour.start reg.watcher reg.settings

/-- Tells a watcher about a block. -/
def notifyWatcher (s : Site W σ) (h : Handle) (block : BlockId) (c : Criteria) :
    Program W (Except WatcherError (Option Criteria)) :=
  s.perform h fun reg => s.behaviour.notify reg.watcher block c

/-- Starts watchers one after another and keeps the criteria that they give. -/
def startAll (s : Site W σ) : List Handle → Program W (Except RegistryError Unit)
  | [] => return .ok ()
  | h :: rest => do
    let name := (← s.registration h).name
    match ← s.startWatcher h with
    | .error e => return .error (.startFailed name e)
    | .ok initial =>
      match initial.validate with
      | .error e => return .error (.invalidCriteria name e)
      | .ok initial =>
        Program.modify s.registry (Registry.setCriteria h initial)
        startAll s rest

/-- Starts every watcher and opens the registry. -/
def start (s : Site W σ) : Program W (Except RegistryError Unit) := do
  match ← Program.act s.registry Registry.beginStart with
  | .error e => return .error e
  | .ok handles =>
    match ← s.startAll handles with
    | .error e => return .error e
    | .ok () =>
      Program.modify s.registry Registry.finishStart
      return .ok ()

/-- Tells a watcher about a block and puts the criteria that it gives in force. -/
def dispatch (s : Site W σ) (h : Handle) (block : BlockId) : Program W Delivery := do
  let c := (← s.registration h).criteria
  match ← s.notifyWatcher h block c with
  | .error _ => return .failed
  | .ok none =>
    Program.modify s.registry (Registry.cancel h)
    return .optedOut
  | .ok (some next) =>
    match next.validate with
    | .error _ => return .failed
    | .ok next =>
      Program.modify s.registry (Registry.setCriteria h next)
      return .rearmed

/-- Whether a registration is still to be notified. -/
def isLive (s : Site W σ) (h : Handle) : Program W Bool := do
  return (← Program.look s.registry).isLive h

/-- Counts one more. -/
def count (s : Site W σ) (c : Counter) : Program W Unit :=
  Program.modify s.metrics (Metrics.increment c)

/-- Offers a block to a registration; nothing when it is not told about the block. -/
def offer (s : Site W σ) (b : Block) (h : Handle) : Program W (Option Delivery) := do
  if !(← s.isLive h) then return none
  else
    match ← (← s.registration h).criteria.triggeredBy s.ledger b with
    | .error _ =>
      s.count .notEvaluated
      return none
    | .ok false => return none
    | .ok true =>
      if !(← s.isLive h) then return none
      else
        let delivery ← s.dispatch h b.id
        s.count delivery.counter
        return some delivery

/-- Offers a block to registrations one after another. -/
def fanOut (s : Site W σ) (b : Block) : Tally → List Handle → Program W Tally
  | tally, [] => return tally
  | tally, h :: rest => do
    match ← s.offer b h with
    | some delivery => fanOut s b (tally.add delivery) rest
    | none => fanOut s b tally rest

/-- Notifies every registration of a block. -/
def notify (s : Site W σ) (b : Block) : Program W (Except RegistryError Tally) := do
  match ← Program.act s.registry Registry.beginNotify with
  | .error e => return .error e
  | .ok handles => return .ok (← s.fanOut b {} handles)

end Site

end LedgerWatch
