import LedgerWatch.Polling.Poller

/-!
# Workers

A worker polls at regular times until it is told to stop or the one who could tell it is gone. A
ledger that fails costs it one cycle; a store that fails ends it. A worker goes on turn by turn: in
each turn it waits for a signal or for the next tick.
-/

namespace LedgerWatch

/-- Why a worker ended before it was told to. -/
inductive WorkerFault where
  | storage (error : StorageError)
  /-- The worker broke down. -/
  | panicked
deriving DecidableEq

/-- A worker that uses a poller of some description. -/
structure Worker (δ : Type) where
  /-- Which poller the worker uses. -/
  poller : δ
  /-- Milliseconds between two ticks. -/
  interval : Nat
  /-- The block up to which the worker has come. -/
  mark : BlockId
  /-- Whether the worker is told to stop. -/
  signal : Bool := false
  /-- Whether a signal came that the worker has not seen. -/
  unseen : Bool := false
  /-- Whether nobody can signal any more. -/
  abandoned : Bool := false
  /-- When the next tick is due, once the worker has begun. -/
  due : Option Nat := none
  /-- How the worker ended. -/
  outcome : Option (Except WorkerFault Unit) := none

namespace Worker

variable {δ : Type}

/-- What stands for a worker that was never made: one that broke down. -/
instance [Inhabited δ] : Inhabited (Worker δ) :=
  ⟨{ poller := default, interval := 0, mark := .root, outcome := some (.error .panicked) }⟩

/-- Whether the worker has ended. -/
def isFinished (worker : Worker δ) : Bool :=
  worker.outcome.isSome

/-- A worker begins by setting its first tick; without time between ticks it breaks down. -/
def commence (now : Nat) (worker : Worker δ) : Worker δ :=
  match worker.due with
  | some _ => worker
  | none =>
    if worker.interval = 0 then { worker with outcome := some (.error .panicked) }
    else { worker with due := some (now + worker.interval) }

/-- How late a tick may be without moving the ones after it, in milliseconds. -/
def tolerance : Nat := 5

/-- The time of the tick after one that is due and happens now. -/
def nextDue (now due interval : Nat) : Nat :=
  if due + tolerance < now then now + interval else due + interval

/-- Whether a worker has something to do. -/
def isReady (now : Nat) (worker : Worker δ) : Bool :=
  worker.unseen || worker.abandoned
    || (match worker.due with
      | some due => due ≤ now
      | none => true)

/-- Ends a worker. -/
def finish (outcome : Except WorkerFault Unit) (worker : Worker δ) : Worker δ :=
  { worker with outcome := some outcome }

/-- Signals a worker. Nothing comes of it when the worker has ended. -/
def send (value : Bool) (worker : Worker δ) : Bool × Worker δ :=
  if worker.isFinished then (false, worker)
  else (true, { worker with signal := value, unseen := true })

/-- Leaves a worker without anyone who could signal it. -/
def abandon (worker : Worker δ) : Worker δ :=
  { worker with abandoned := true }

end Worker

/-- The workers of a world, its clock in milliseconds, and the pollers that workers use. -/
structure Crew (W δ : Type) where
  workers : Part W (List (Worker δ))
  clock : Part W Nat
  poller : δ → Poller W

namespace Crew

variable {W δ : Type} [Inhabited δ]

/-- A worker as it is. -/
def worker (crew : Crew W δ) (k : Nat) (w : W) : Worker δ :=
  (crew.workers.get w).getD k default

/-- Changes a worker. -/
def amend (crew : Crew W δ) (k : Nat) (f : Worker δ → Worker δ) : Program W Unit :=
  Program.modify crew.workers fun workers => workers.modify k f

/-- Adds a worker, which begins when it has its first turn. -/
def hire (crew : Crew W δ) (worker : Worker δ) : Program W Nat :=
  Program.act crew.workers fun workers => (workers.length, workers ++ [worker])

/-- Signals a worker. -/
def signal (crew : Crew W δ) (k : Nat) (value : Bool) : Program W Bool :=
  Program.act crew.workers fun workers =>
    (((workers.getD k default).send value).1, workers.modify k fun worker => (worker.send value).2)

/-- Waits until a worker has ended. -/
def join (crew : Crew W δ) (k : Nat) : Program W (Except WorkerFault Unit) := do
  Program.waitFor (fun w => (crew.worker k w).isFinished) none
  return ((← Program.look crew.workers).getD k default).outcome.getD (.error .panicked)

/-- Polls once. Gives the fault of the store, if there is one. -/
def cycle (p : Poller W) (mark : BlockId) : Program W (Except StorageError Unit × BlockId) := do
  match ← p.poll mark with
  | (.ok blocks, mark) =>
    p.count .cycleSucceeded
    Program.modify p.metrics (Metrics.recordCycle blocks)
    return (.ok (), mark)
  | (.error (.ledger _), mark) =>
    p.count .cycleWithoutLedger
    return (.ok (), mark)
  | (.error (.storage e), mark) =>
    p.count .cycleWithoutStore
    return (.error e, mark)

/-- A tick of a worker: it polls, and the store's failure ends it. -/
def tick (crew : Crew W δ) (k : Nat) (worker : Worker δ) : Program W Unit := do
  let now ← Program.look crew.clock
  crew.amend k fun worker =>
    { worker with due := worker.due.map fun due => Worker.nextDue now due worker.interval }
  let (outcome, mark) ← cycle (crew.poller worker.poller) worker.mark
  crew.amend k fun worker => { worker with mark }
  match outcome with
  | .ok () => return ()
  | .error e => crew.amend k (Worker.finish (.error (.storage e)))

/--
What a worker does once it has waited: a signal comes first, then a tick. When both are there the
choice is free; that the tick wins is the run in which the signal comes right after this look.
-/
def react (crew : Crew W δ) (k : Nat) : Program W Unit := do
  let worker := (← Program.look crew.workers).getD k default
  if worker.unseen then crew.amend k fun worker => { worker with unseen := false }
  else if worker.abandoned then crew.amend k (Worker.finish (.ok ()))
  else crew.tick k worker

/-- One turn of a worker. -/
def turn (crew : Crew W δ) (k : Nat) : Program W Unit := do
  let now ← Program.look crew.clock
  crew.amend k (Worker.commence now)
  let worker := (← Program.look crew.workers).getD k default
  if worker.isFinished then return ()
  else if worker.signal then crew.amend k (Worker.finish (.ok ()))
  else
    Program.waitFor (fun w => (crew.worker k w).isReady (crew.clock.get w)) worker.due
    crew.react k

end Crew

end LedgerWatch
