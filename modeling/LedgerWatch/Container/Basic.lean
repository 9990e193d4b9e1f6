import LedgerWatch.Container.Catalog
import LedgerWatch.Host.Bootstrap
import LedgerWatch.Polling.Worker

/-!
# Containers

A container makes watchers from properties, keeps them in a registry, and polls the ledger for them
with a worker. It is started once and stopped for good.
-/

namespace LedgerWatch

/-- Why a host cannot go on. -/
inductive HostError where
  | bootstrap (error : BootstrapError)
  | storage (error : StorageError)
  /-- Logging cannot be installed. -/
  | telemetry
  | settings (error : SettingsError)
  | registry (error : RegistryError)
  | poller (error : PollerError)
  /-- The worker broke down. -/
  | worker
deriving DecidableEq

/-- The wording of each error. -/
def HostError.message : HostError → String
  | .bootstrap error => "config error: " ++ error.message
  | .storage error => "storage error: " ++ error.message
  | .telemetry => "telemetry error"
  | .settings error => "sentinel config error: " ++ error.message
  | .registry error => "registry error: " ++ error.message
  | .poller error => "poller error: " ++ error.message
  | .worker => "poller task failed"

/-- The error of a worker that ended before it was told to. -/
def HostError.ofFault : WorkerFault → HostError
  | .storage error => .poller (.storage error)
  | .panicked => .worker

/-- A container in a world, with workers that use pollers described in `δ`. -/
structure Container (W σ δ : Type) where
  site : Site W σ
  crew : Crew W δ
  catalog : Catalog σ
  /-- The poller of the container's worker. -/
  poller : δ
  /-- Milliseconds between two polls. -/
  interval : Nat
  /-- The worker, while there is one. -/
  running : Part W (Option Nat)

namespace Container

variable {W σ δ : Type} [Inhabited σ] [Inhabited δ]

/-- Registers the watcher with a name, configured from properties. -/
def register (c : Container W σ δ) (name : String) (properties : Properties) :
    Program W (Except HostError Handle) := do
  match c.catalog.configure name properties with
  | .error e => return .error (.settings e)
  | .ok (kind, settings) =>
    match ← Program.act c.site.registry (Registry.register name kind.fresh settings) with
    | .error e => return .error (.registry e)
    | .ok h => return .ok h

/-- Registers watchers one after another; the first failure ends it. -/
def registerEach (c : Container W σ δ) (properties : Properties) :
    List String → Program W (Except HostError (List Handle))
  | [] => return .ok []
  | name :: rest => do
    match ← c.register name properties with
    | .error e => return .error e
    | .ok h =>
      match ← registerEach c properties rest with
      | .error e => return .error e
      | .ok handles => return .ok (h :: handles)

/-- Registers every watcher that properties name. -/
def registerAll (c : Container W σ δ) (properties : Properties) :
    Program W (Except HostError (List Handle)) :=
  c.registerEach properties (Catalog.watcherNames properties)

/-- Starts the watchers, makes the poller and hires a worker for it. -/
def start (c : Container W σ δ) : Program W (Except HostError Unit) := do
  match ← c.site.start with
  | .error e => return .error (.registry e)
  | .ok () =>
    match ← (c.crew.poller c.poller).create with
    | .error e => return .error (.poller e)
    | .ok mark =>
      let worker ← c.crew.hire { poller := c.poller, interval := c.interval, mark }
      Program.modify c.running fun _ => some worker
      return .ok ()

/-- Whether there is a worker. -/
def isRunning (c : Container W σ δ) : Program W Bool := do
  return (← Program.look c.running).isSome

/-- Stops the worker, if there is one, and tells how it ended. -/
def stopWorker (c : Container W σ δ) : Program W (Except HostError Unit) := do
  match ← Program.act c.running fun running => (running, none) with
  | none => return .ok ()
  | some worker =>
    let _ ← c.crew.signal worker true
    match ← c.crew.join worker with
    | .ok () => return .ok ()
    | .error fault => return .error (.ofFault fault)

/-- Stops the worker and closes the registry, however the worker ended. -/
def stop (c : Container W σ δ) : Program W (Except HostError Unit) := do
  let outcome ← c.stopWorker
  Program.modify c.site.registry Registry.close
  return outcome

end Container

end LedgerWatch
