import LedgerWatch.Container.Catalog
import LedgerWatch.Polling.Worker
import LedgerWatch.Rehearsal.Outcome
import LedgerWatch.Rehearsal.Script

/-!
# The world of a rehearsal

A ledger whose answers can be disturbed, registries, offset stores in memory, in files and in
databases, pollers, workers and containers, a clock, and a log of what the watchers did.
-/

namespace LedgerWatch

namespace Rehearsal

/-- How the answers of the ledger are disturbed. -/
structure Faults where
  /-- The identifiers that a question does not find. -/
  hidden : List (Question × Nat) := []
  /-- The reasons for which questions fail. -/
  failing : Index Question (Option String) := {}
  /-- The steps that are taken before a question is answered next. -/
  hooks : Index Question (List Step) := {}

/-- A store in memory, whose operations can be made to fail. -/
structure MemoryStore where
  offset : Offset := .root
  failures : Index StoreOperation (Option String) := {}

/-- An offset store. -/
inductive Store where
  | memory (store : MemoryStore)
  | file (file : OffsetFile)
  | database (connection : Connection)

instance : Inhabited Store :=
  ⟨.memory {}⟩

/-- A poller, by the numbers of its store and its registry. -/
structure PollerDraft where
  store : Nat := 0
  registry : Nat := 0
deriving Inhabited

/-- A poller with its mark. -/
structure PollerState where
  draft : PollerDraft
  mark : BlockId

/-- A container, by what it was made from. -/
structure ContainerState where
  poller : PollerDraft := {}
  interval : Nat := 0
  catalog : Table (Kind Actor) := .empty
  /-- The worker, while there is one. -/
  running : Option Nat := none

instance : Inhabited ContainerState :=
  ⟨{}⟩

end Rehearsal

open Rehearsal in
/-- The world of a rehearsal. -/
structure World where
  ledger : Ledger := {}
  faults : Faults := {}
  /-- The transactions that were made, in order. -/
  made : List Transaction := []
  registries : Slots (Registry Actor) := ⟨[default]⟩
  /-- The number of the registry that steps are about. -/
  current : Nat := 0
  /-- The registrations that were seen, in order, with the numbers of their registries. -/
  handles : List (Nat × Handle) := []
  /-- What was shown of the registrations. -/
  shown : List View := []
  metrics : Metrics := {}
  disk : Disk := {}
  stores : Slots Store := {}
  /-- The numbers of the stores that steps name. -/
  storeNames : Index String Nat := {}
  pollers : Index String PollerState := {}
  workers : List (Worker PollerDraft) := []
  /-- The worker that steps are about. -/
  worker : Option Nat := none
  containers : Slots ContainerState := {}
  /-- The number of the container that steps are about. -/
  container : Nat := 0
  clock : Nat := 0
  /-- What happened during the step, the last event first. -/
  log : List (Nat × Event) := []

namespace World

open Rehearsal

/-- The ledger. -/
def ledgerPart : Part World Ledger where
  get := World.ledger
  set ledger w := { w with ledger }
  get_set _ _ := rfl

/-- The faults. -/
def faultsPart : Part World Faults where
  get := World.faults
  set faults w := { w with faults }
  get_set _ _ := rfl

/-- The counters. -/
def metricsPart : Part World Metrics where
  get := World.metrics
  set metrics w := { w with metrics }
  get_set _ _ := rfl

/-- The clock. -/
def clockPart : Part World Nat where
  get := World.clock
  set clock w := { w with clock }
  get_set _ _ := rfl

/-- The workers. -/
def workersPart : Part World (List (Worker PollerDraft)) where
  get := World.workers
  set workers w := { w with workers }
  get_set _ _ := rfl

/-- The disk. -/
def diskPart : Part World Disk where
  get := World.disk
  set disk w := { w with disk }
  get_set _ _ := rfl

/-- The files. -/
def filesPart : Part World Files where
  get w := w.disk.files
  set files w := { w with disk := { w.disk with files } }
  get_set _ _ := rfl

/-- A database. -/
def databasePart (number : Nat) : Part World Database where
  get w := w.disk.databases.get number
  set db w := { w with disk := w.disk.setDatabase number db }
  get_set db w := Slots.get_set_self w.disk.databases number db

/-- A registry. -/
def registryPart (number : Nat) : Part World (Registry Actor) where
  get w := w.registries.get number
  set registry w := { w with registries := w.registries.set number registry }
  get_set registry w := Slots.get_set_self w.registries number registry

/-- An offset store. -/
def storePart (number : Nat) : Part World Store where
  get w := w.stores.get number
  set store w := { w with stores := w.stores.set number store }
  get_set store w := Slots.get_set_self w.stores number store

/-- A container. -/
def containerPart (number : Nat) : Part World ContainerState where
  get w := w.containers.get number
  set container w := { w with containers := w.containers.set number container }
  get_set container w := Slots.get_set_self w.containers number container

/-- The worker of a container, while there is one. -/
def runningPart (number : Nat) : Part World (Option Nat) :=
  (containerPart number).comp
    { get := ContainerState.running
      set := fun running c => { c with running }
      get_set := fun _ _ => rfl }

/-- The identifier of the next block. -/
def nextBlockId (w : World) : BlockId :=
  .ofNat (Made.block.bits (w.ledger.blocks.length + 1))

/-- The identifier of the next transaction. -/
def nextTransactionId (w : World) : TransactionId :=
  .ofNat (Made.transaction.bits (w.made.length + 1))

/-- The registration that was seen as the given one, counted from 1. -/
def handle (w : World) (number : Nat) : Nat × Handle :=
  w.handles.getD (number - 1) (0, 0)

/-- The number under which a registration was seen. -/
def numberOf (w : World) (registry : Nat) (h : Handle) : Nat :=
  w.handles.idxOf (registry, h) + 1

/-- Sees the registrations of a registry that were not seen before. -/
def seeHandles (w : World) (registry : Nat) : World :=
  let made := (List.range (w.registries.get registry).registrations.length).map (registry, ·)
  { w with handles := w.handles ++ made.filter (!w.handles.contains ·) }

/-- What can be seen of a registration. -/
def view (w : World) (registry : Nat) (h : Handle) : View :=
  let registration := (w.registries.get registry).get h
  ⟨registration.name, registration.status, registration.criteria⟩

/-- What can be seen of all registrations that were seen. -/
def views (w : World) : List View :=
  w.handles.map fun (registry, h) => w.view registry h

/-- The views that differ from those that were shown, with their numbers. -/
def changes (w : World) : List (Nat × View) :=
  (w.views.zipIdx 1).filterMap fun (view, number) =>
    if w.shown[number - 1]? = some view then none else some (number, view)

/-- The number of the store that steps name. -/
def storeOf (w : World) (slot : String) : Nat :=
  (w.storeNames.get? slot).getD 0

end World

end LedgerWatch
