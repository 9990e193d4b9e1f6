import LedgerWatch.Container.Basic
import LedgerWatch.Rehearsal.World

/-!
# What a rehearsal works with

The disturbed ledger, the offset stores, the watchers that act by scripts, and the registries,
pollers, workers and containers that use them. Hooks and watchers take steps; how a step is taken is
left open here.
-/

namespace LedgerWatch.Rehearsal

/-- Who takes a step, if it is not the host, and the block that is being talked about. -/
structure Role where
  who : Option String := none
  here : BlockId := .root

/-- How a step is taken. -/
abbrev Taker := Role → Step → Program World Outcome

/-- Adds an event to the log. -/
def note (event : Event) : Program World Unit :=
  Program.change fun w => { w with log := (w.clock, event) :: w.log }

/-- Takes steps one after another and notes what they come to. -/
def takeAll (take : Taker) (who : String) (here : BlockId) : List Step → Program World Unit
  | [] => return ()
  | step :: rest => do
    let outcome ← take ⟨some who, here⟩ step
    note (.acted who outcome)
    takeAll take who here rest

/-- Takes the steps of the hook of a question, once. -/
def runHook (take : Taker) (question : Question) : Program World Unit := do
  let acts := ((← Program.look World.faultsPart).hooks.get? question).getD []
  Program.modify World.faultsPart fun f => { f with hooks := f.hooks.insert question [] }
  takeAll take ("hook " ++ question.name) .root acts

/--
Asks the ledger a question about an identifier. The disturbances in force before the hook count, and
the answer is given as of after it.
-/
def ask {α : Type} (take : Taker) (question : Question) (id : Option Nat) (absent : Option α)
    (answer : Ledger → Except LedgerError α) : Program World (Except LedgerError α) := do
  let faults ← Program.look World.faultsPart
  runHook take question
  match (faults.failing.get? question).join with
  | some reason => return .error (.unavailable reason)
  | none =>
    match absent, id with
    | some absent, some id =>
      if faults.hidden.contains (question, id) then return .ok absent
      else return answer (← Program.look World.ledgerPart)
    | _, _ => return answer (← Program.look World.ledgerPart)

/-- The disturbed ledger. -/
def ledger (take : Taker) : LedgerReads World where
  latest := ask take .latest none none Ledger.latest
  blocksAfter id := ask take .blocksAfter none none (Ledger.blocksAfter · id)
  block? id := ask take .block (some id.toNat) (some none) (Ledger.block? · id)
  transaction? id := ask take .transaction (some id.toNat) (some none) (Ledger.transaction? · id)
  blockOf? id := ask take .blockOf (some id.toNat) (some none) (Ledger.blockOf? · id)
  head? id := ask take .head (some id.toNat) (some none) (Ledger.head? · id)
  previous? id := ask take .previous (some id.toNat) (some none) (Ledger.previous? · id)

/-- What a watcher gives by a reply, after the steps of the reply. -/
def giveReply (take : Taker) (who : String) (block : BlockId) (c : Criteria) :
    Reply → Program World (Except WatcherError (Option Criteria))
  | .advance => return .ok (c.withBlock? (some block))
  | .keep => return .ok (some c)
  | .advanceToNone => return .ok (c.withBlock? none)
  | .optOut => return .ok none
  | .panic => return .error .panicked
  | .fail message => return .error (.failed message)
  | .criteria draft => return .ok (some (draft.resolve block))
  | .failLedger reason => return .error (.ledger (.unavailable reason))
  | .failBlock id => return .error (.ledger (.blockNotFound (id.resolve block)))
  | .failSettings key => return .error (.settings (.missingProperty key))
  | .after acts reply => do
    takeAll take who block acts
    giveReply take who block c reply

/-- What watchers do that act by scripts. -/
def behaviour (take : Taker) : Behaviour World Actor where
  start actor settings := do
    note (.started actor.who settings)
    let reply := actor.script.start actor.starts
    let given ← giveReply take actor.who .root (.after .root) reply
    return (given.map (·.getD {}), { actor with starts := actor.starts + 1 })
  notify actor block c := do
    note (.notified actor.who block c)
    let reply := actor.script.reply actor.notifications
    let given ← giveReply take actor.who block c reply
    return (given, { actor with notifications := actor.notifications + 1 })

/-- A registry with its watchers. -/
def site (take : Taker) (registry : Nat) : Site World Actor where
  registry := World.registryPart registry
  metrics := World.metricsPart
  ledger := ledger take
  behaviour := behaviour take

/-- An operation of a store in memory. -/
def memoryStep {α : Type} (number : Nat) (operation : StoreOperation)
    (f : Offset → α × Offset) : Program World (Except StorageError α) :=
  Program.act (World.storePart number) fun store =>
    match store with
    | .memory m =>
      match (m.failures.get? operation).join with
      | some reason => (.error (.io reason), store)
      | none => (.ok (f m.offset).1, .memory { m with offset := (f m.offset).2 })
    | store => (.error .database, store)

/-- The store in memory with a number. -/
def memoryStore (number : Nat) : OffsetStore World where
  restore := memoryStep number .restore fun o => (o, o)
  isProcessed height := memoryStep number .isProcessed fun o => (decide (height ≤ o.height), o)
  record o := memoryStep number .record fun _ => ((), o)

/-- What operations of a store come to, which are those of the store that has a number now. -/
def withStore {α : Type} (number : Nat) (f : OffsetStore World → Program World α) :
    Program World α := do
  match ← Program.look (World.storePart number) with
  | .memory _ => f (memoryStore number)
  | .file file => f (.ofFile World.filesPart file)
  | .database c => f (.ofDatabase (World.databasePart c.number) c.writable)

/-- The store with a number. -/
def store (number : Nat) : OffsetStore World where
  restore := withStore number fun s => s.restore
  isProcessed height := withStore number fun s => s.isProcessed height
  record o := withStore number fun s => s.record o

/-- A poller. -/
def poller (take : Taker) (draft : PollerDraft) : Poller World where
  ledger := ledger take
  offsets := store draft.store
  notify := (site take draft.registry).notify
  metrics := World.metricsPart

/-- The workers. -/
def crew (take : Taker) : Crew World PollerDraft where
  workers := World.workersPart
  clock := World.clockPart
  poller := poller take

/-- The container with a number. -/
def container (take : Taker) (number : Nat) (state : ContainerState) :
    Container World Actor PollerDraft where
  site := site take state.poller.registry
  crew := crew take
  catalog := state.catalog
  poller := state.poller
  interval := state.interval
  running := World.runningPart number

end LedgerWatch.Rehearsal
