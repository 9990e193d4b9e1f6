import LedgerWatch.Host.Bootstrap
import LedgerWatch.Polling.Schedule
import LedgerWatch.Rehearsal.Stage

/-!
# Playing a rehearsal

How each step is taken, and how the steps of a rehearsal are played one after another beside the
workers. Steps may take further steps, through hooks and watchers, up to a depth.
-/

namespace LedgerWatch.Rehearsal

open Program

/-- Changes a part of the world and comes to nothing. -/
def alter {S : Type} (p : Part World S) (f : S → S) : Program World Outcome := do
  modify p f
  return .nothing

/-- The outcome of an answer. -/
def Outcome.ofExcept {ε α : Type} (failure : ε → Failure) (f : α → Outcome) :
    Except ε α → Outcome
  | .ok a => f a
  | .error e => .failed (failure e)

/-- The outcome of an answer of the ledger. -/
def Outcome.ofLedger {α : Type} (f : α → Outcome) : Except LedgerError α → Outcome :=
  .ofExcept .ledger f

/-- The outcome of an answer of the ledger that may be absent. -/
def Outcome.ofLedger? {α : Type} (f : α → Outcome) : Except LedgerError (Option α) → Outcome :=
  .ofLedger fun a => (a.map f).getD .nothing

/-- The transaction of a draft. -/
def TransactionDraft.resolve (w : World) (here : BlockId) : TransactionDraft → Transaction
  | .made number =>
    w.made.getD (number - 1) ⟨.zero, .initial, .zero, .zero, .zero, none, none, default⟩
  | .described id previous artifact artifactType kind previousState newState =>
    ⟨id.resolve here, previous.resolve here, artifact.resolve here, artifactType.resolve here,
      kind.resolve here, previousState, newState, default⟩

/-- The block of a draft. -/
def BlockDraft.resolve (w : World) (here : BlockId) : BlockDraft → Block
  | .made number => w.ledger.blocks.getD (number - 1) ⟨.root, .root, 0, []⟩
  | .described id height transactions =>
    ⟨id.resolve here, .root, height, transactions.map (·.resolve w here)⟩

/-- Appends a block of transactions. -/
def appendBlock (transactions : List Transaction) : Program World Outcome := do
  let w ← world
  modify World.ledgerPart (·.append w.nextBlockId transactions)
  return .wholeBlock (w.ledger.nextBlock w.nextBlockId transactions)

/-- Makes the next transaction of an artifact. -/
def makeTransaction (here : BlockId) (c : ChangeDraft) : Program World Transaction := do
  let w ← world
  let tx := w.ledger.nextTransaction w.nextTransactionId (c.artifact.resolve here)
    (c.artifactType.resolve here) (c.kind.resolve here) c.newState default
  change fun w => { w with made := w.made ++ [tx] }
  return tx

/-- The most transactions that a history may go through. -/
def historyLimit : Nat := 100000

/-- The outcome of a history. -/
def Outcome.ofHistory : Option (Except LedgerError History) → Outcome
  | none => .nothing
  | some answer => .ofLedger .history answer

/-- The outcome of a registration that was just made. -/
def seen (registry : Nat) : Program World Unit :=
  change fun w => w.seeHandles registry

/-- The outcome that shows a registration. -/
def shownHandle (registry : Nat) (h : Handle) : Program World Outcome := do
  return .handle ((← world).numberOf registry h)

/-- The outcome of a registration or of a refusal. -/
def afterRegister {ε : Type} (registry : Nat) (failure : ε → Failure) :
    Except ε Handle → Program World Outcome
  | .ok h => do
    seen registry
    shownHandle registry h
  | .error e => do
    seen registry
    return .failed (failure e)

/-- The outcome of registrations or of a refusal. -/
def afterRegisterAll (registry : Nat) :
    Except HostError (List Handle) → Program World Outcome
  | .ok handles => do
    seen registry
    let w ← world
    return .handles (handles.map (w.numberOf registry))
  | .error e => do
    seen registry
    return .failed (.host e)

/-- Makes an offset store. -/
def makeStore : StoreDraft → Program World (Except StorageError Store)
  | .memory => return .ok (.memory {})
  | .file path => return .ok (.file ⟨path⟩)
  | .database address => do
    pause
    match ← act World.diskPart (Disk.connect address) with
    | .ok c => return .ok (.database c)
    | .error e => return .error e

/-- Adds an offset store and gives its number. -/
def addStore (store : Store) : Program World Nat := do
  let number := (← world).stores.next
  change fun w => { w with stores := w.stores.add store }
  return number

/-- Makes a new registry and gives its number. -/
def addRegistry : Program World Nat := do
  let number := (← world).registries.next
  change fun w => { w with registries := w.registries.add default }
  return number

/-- The kinds of watchers that act by scripts. -/
def catalogOf (kinds : List (String × Script)) : Table (Kind Actor) :=
  Table.ofList (kinds.map fun (name, script) => (name, ⟨script.schema, { who := name, script }⟩))

/-- Makes a container with a registry of its own and gives its number. -/
def addContainer (store interval : Nat) (kinds : List (String × Script)) : Program World Nat := do
  let registry ← addRegistry
  let number := (← world).containers.next
  let state : ContainerState := ⟨⟨store, registry⟩, interval, catalogOf kinds, none⟩
  change fun w => { w with containers := w.containers.add state }
  return number

/-- Leaves a worker, if there is one, without anyone who could signal it. -/
def leaveWorker (worker : Option Nat) : Program World Unit :=
  match worker with
  | none => return ()
  | some k => modify World.workersPart fun workers => workers.modify k Worker.abandon

/-- Makes steps be about another container and its registry. -/
def enterContainer (number : Nat) : Program World Unit := do
  let w ← world
  leaveWorker (w.containers.get w.container).running
  let state := w.containers.get number
  change fun w => { w with container := number, current := state.poller.registry }

/-- Makes a container with the store that a configuration asks for. -/
def containerOf (config : Bootstrap) (kinds : List (String × Script)) :
    Program World (Except HostError Nat) := do
  let draft := match config.databaseUrl with
    | some address => StoreDraft.database address
    | none => StoreDraft.file config.offsetPath
  match ← makeStore draft with
  | .error e => return .error (.storage e)
  | .ok store => return .ok (← addContainer (← addStore store) config.pollMillis kinds)

/-- The container that steps are about, with the number of its registry. -/
def currentContainer (take : Taker) :
    Program World (Nat × Container World Actor PollerDraft) := do
  let w ← world
  let state := w.containers.get w.container
  return (state.poller.registry, container take w.container state)

/-- Reads the configuration and the properties, and makes a container with all its watchers. -/
def bootstrap (take : Taker) (env : Environment) (kinds : List (String × Script)) :
    Program World (Except HostError (Nat × List Handle)) := do
  match Bootstrap.load none env with
  | .error e => return .error (.bootstrap e)
  | .ok config =>
    match Properties.load (← look World.filesPart) config.propertiesPath with
    | .error e => return .error (.settings e)
    | .ok properties =>
      match ← containerOf config kinds with
      | .error e => return .error e
      | .ok number =>
        let state := (← world).containers.get number
        match ← (container take number state).registerAll properties with
        | .error e => return .error e
        | .ok handles => return .ok (number, handles)

/-- The outcome of an operation on files that changes them. -/
def changeFiles (f : Files → Except FileFault Files) : Program World Outcome :=
  act World.filesPart fun files =>
    match f files with
    | .ok files => (.nothing, files)
    | .error e => (.failed (.file e), files)

/-- Changes the database of a store, if it is one. -/
def changeRows (slot : String) (f : Table OffsetRow → Option (Table OffsetRow)) :
    Program World Outcome := do
  let w ← world
  match w.stores.get (w.storeOf slot) with
  | .database c =>
    match (w.disk.databases.get c.number).rows with
    | none => return .failed (.storage .database)
    | some rows => alter (World.databasePart c.number) fun _ => ⟨f rows⟩
  | _ => return .nothing

/-- The rows of the database of a store. -/
def rowsOf (slot : String) : Program World Outcome := do
  let w ← world
  match w.stores.get (w.storeOf slot) with
  | .database c =>
    match (w.disk.databases.get c.number).rows with
    | none => return .failed (.storage .database)
    | some rows => return .rows rows.entries
  | _ => return .nothing

/-- Polls with the poller of a slot and keeps its mark. -/
def pollSlot (take : Taker) (slot : String) : Program World Outcome := do
  match (← world).pollers.get? slot with
  | none => return .nothing
  | some state =>
    let (answer, mark) ← (poller take state.draft).poll state.mark
    change fun w => { w with pollers := w.pollers.insert slot { state with mark } }
    match answer with
    | .ok blocks => return .polled blocks mark
    | .error e => return .pollFailed e mark

/-- Makes a poller over the current registry and keeps it in a slot. -/
def makePoller (take : Taker) (slot offsets : String) : Program World Outcome := do
  let w ← world
  let draft : PollerDraft := ⟨w.storeOf offsets, w.current⟩
  match ← (poller take draft).create with
  | .error e => return .failed (.poller e)
  | .ok mark =>
    change fun w => { w with pollers := w.pollers.insert slot ⟨draft, mark⟩ }
    return .mark mark

/-- Hires a worker for the poller of a slot. -/
def hireWorker (take : Taker) (slot : String) (interval : Nat) (signal : Bool) :
    Program World Outcome := do
  let w ← world
  leaveWorker w.worker
  match w.pollers.get? slot with
  | none => return .nothing
  | some state =>
    let k ← (crew take).hire { poller := state.draft, interval, mark := state.mark, signal }
    change fun w => { w with worker := some k }
    return .nothing

/-- Does something with the worker that steps are about. -/
def withWorker (f : Nat → Program World Outcome) : Program World Outcome := do
  match (← world).worker with
  | none => return .nothing
  | some k => f k

/-- Does something with the site of a registration. -/
def withHandle (number : Nat) (f : Nat → Handle → Program World Outcome) :
    Program World Outcome := do
  let (registry, h) := (← world).handle number
  f registry h

/-- Takes a step about the ledger and its disturbances. -/
def takeLedgerStep (take : Taker) (here : BlockId) : Step → Program World Outcome
  | .append drafts => do
    let w ← world
    appendBlock (drafts.map (·.resolve w here))
  | .appendChange c => do
    let tx ← makeTransaction here c
    appendBlock [tx]
  | .nextChange c => return .wholeTransaction (← makeTransaction here c)
  | .unavailable reason => alter World.ledgerPart (·.setUnavailable reason)
  | .hide question id =>
    let bits := (id.resolve here : BlockId).toNat
    alter World.faultsPart fun f => { f with hidden := (question, bits) :: f.hidden }
  | .fail question reason =>
    alter World.faultsPart fun f => { f with failing := f.failing.insert question reason }
  | .hook question acts =>
    alter World.faultsPart fun f => { f with hooks := f.hooks.insert question acts }
  | .latest => return .ofLedger .block (← (ledger take).latest)
  | .blocksAfter id => return .ofLedger .wholeBlocks (← (ledger take).blocksAfter (id.resolve here))
  | .block id => return .ofLedger? .wholeBlock (← (ledger take).block? (id.resolve here))
  | .transaction id =>
    return .ofLedger? .wholeTransaction (← (ledger take).transaction? (id.resolve here))
  | .blockOf id => return .ofLedger? .block (← (ledger take).blockOf? (id.resolve here))
  | .head id => return .ofLedger? .transaction (← (ledger take).head? (id.resolve here))
  | .previous id => return .ofLedger? .transaction (← (ledger take).previous? (id.resolve here))
  | .history artifact last =>
    return .ofHistory (← History.find (ledger take) historyLimit (artifact.resolve here)
      (last.map (·.resolve here)))
  | _ => return .nothing

/-- Takes a step about the registry and its registrations. -/
def takeRegistryStep (take : Taker) (here : BlockId) : Step → Program World Outcome
  | .newRegistry => do
    let number ← addRegistry
    change fun w => { w with current := number }
    return .nothing
  | .register name script settings => do
    let registry := (← world).current
    let answer ← act (World.registryPart registry)
      (Registry.register name { who := name, script } settings)
    afterRegister registry .registry answer
  | .start => do
    return .ofExcept .registry (fun _ => .done) (← (site take (← world).current).start)
  | .notify draft => do
    let w ← world
    return .ofExcept .registry .tally (← (site take w.current).notify (draft.resolve w here))
  | .close => do
    alter (World.registryPart (← world).current) Registry.close
  | .remove name => do
    let registry := (← world).current
    match ← act (World.registryPart registry) (Registry.remove name) with
    | none => return .nothing
    | some h => shownHandle registry h
  | .find name => do
    let registry := (← world).current
    match (← look (World.registryPart registry)).find? name with
    | none => return .nothing
    | some h => shownHandle registry h
  | .registry => do
    let r ← look (World.registryPart (← world).current)
    return .registry r.names r.isActive
  | .cancel number => withHandle number fun registry h =>
    alter (World.registryPart registry) (Registry.cancel h)
  | .setCriteria number draft => withHandle number fun registry h =>
    alter (World.registryPart registry) (Registry.setCriteria h (draft.resolve here))
  | .settings number => withHandle number fun registry h => do
    return .settings ((← look (World.registryPart registry)).get h).settings
  | .triggered number draft => withHandle number fun registry h => do
    let w ← world
    let c := ((← look (World.registryPart registry)).get h).criteria
    return .ofLedger .truth (← c.triggeredBy (ledger take) (draft.resolve w here))
  | _ => return .nothing

/-- Takes a step about an offset store or about files. -/
def takeStorageStep (here : BlockId) : Step → Program World Outcome
  | .offsets slot draft => do
    match ← makeStore draft with
    | .error e => return .failed (.storage e)
    | .ok made =>
      let number ← addStore made
      change fun w => { w with storeNames := w.storeNames.insert slot number }
      return .nothing
  | .failStore slot operation reason => do
    alter (World.storePart ((← world).storeOf slot)) fun s =>
      match s with
      | .memory m => .memory { m with failures := m.failures.insert operation reason }
      | s => s
  | .restore slot => do
    return .ofExcept .storage .offset (← (store ((← world).storeOf slot)).restore)
  | .isProcessed slot height => do
    return .ofExcept .storage .truth (← (store ((← world).storeOf slot)).isProcessed height)
  | .record slot block height => do
    let answer ← (store ((← world).storeOf slot)).record ⟨block.resolve here, height⟩
    return .ofExcept .storage (fun _ => .nothing) answer
  | .rows slot => rowsOf slot
  | .putRow slot key block height =>
    changeRows slot fun rows => some (rows.insert key ⟨unveil block, height⟩)
  | .deleteRow slot key => changeRows slot fun rows => some (rows.erase key)
  | .dropTable slot => changeRows slot fun _ => none
  | .write path content => changeFiles fun files => files.write path content
  | .read path => do
    return .ofExcept .file .bytes ((← look World.filesPart).read path)
  | .makeFolder path => changeFiles fun files => files.makeFolder path
  | .removeFile path => changeFiles fun files => files.remove path
  | .removeFolder path => do
    return .ofExcept .file (fun _ => .nothing) (← act World.filesPart (Files.removeFolder · path))
  | .names => return .names (← look World.filesPart).names
  | .loadProperties path => do
    return .ofExcept .settings .properties (Properties.load (← look World.filesPart) path)
  | _ => return .nothing

/-- Takes a step about pollers, workers and time. -/
def takePollingStep (take : Taker) : Step → Program World Outcome
  | .poller slot offsets => makePoller take slot offsets
  | .poll slot => pollSlot take slot
  | .worker slot interval signal => hireWorker take slot interval signal
  | .signalWorker value => withWorker fun k => return .truth (← (crew take).signal k value)
  | .abandonWorker => do
    leaveWorker (← world).worker
    return .nothing
  | .workerFinished => withWorker fun k => return .truth ((crew take).worker k (← world)).isFinished
  | .joinWorker => withWorker fun k => do
    return .ofExcept .worker (fun _ => .done) (← (crew take).join k)
  | .sleep time => do
    let finish := (← look World.clockPart) + time
    waitFor (fun w => finish ≤ w.clock) (some finish)
    return .nothing
  | .metrics => return .metrics (← look World.metricsPart)
  | _ => return .nothing

/-- Takes a step about the container. -/
def takeContainerStep (take : Taker) : Step → Program World Outcome
  | .container offsets interval kinds => do
    let number ← addContainer ((← world).storeOf offsets) interval kinds
    enterContainer number
    return .nothing
  | .configureContainer env kinds => do
    match Bootstrap.load none env with
    | .error e => return .failed (.host (.bootstrap e))
    | .ok config =>
      match ← containerOf config kinds with
      | .error e => return .failed (.host e)
      | .ok number =>
        enterContainer number
        return .names []
  | .bootstrapContainer env kinds => do
    match ← bootstrap take env kinds with
    | .error e => return .failed (.host e)
    | .ok (number, _) =>
      enterContainer number
      let registry := (← world).current
      seen registry
      return .names ((← look (World.registryPart registry)).names)
  | .containerRegister name properties => do
    let (registry, c) ← currentContainer take
    afterRegister registry .host (← c.register name properties)
  | .containerRegisterAll properties => do
    let (registry, c) ← currentContainer take
    afterRegisterAll registry (← c.registerAll properties)
  | .containerStart => do
    let (_, c) ← currentContainer take
    return .ofExcept .host (fun _ => .done) (← c.start)
  | .containerStop => do
    let (_, c) ← currentContainer take
    return .ofExcept .host (fun _ => .done) (← c.stop)
  | .containerRunning => do
    let (_, c) ← currentContainer take
    return .truth (← c.isRunning)
  | _ => return .nothing

/-- What a step is about. -/
inductive Concern where
  | ledger
  | registry
  | storage
  | polling
  | container

/-- What each step is about. -/
def Step.concern : Step → Concern
  | .append _ | .appendChange _ | .nextChange _ | .unavailable _ | .hide .. | .fail .. | .hook ..
  | .latest | .blocksAfter _ | .block _ | .transaction _ | .blockOf _ | .head _ | .previous _
  | .history .. => .ledger
  | .newRegistry | .register .. | .start | .notify _ | .close | .remove _ | .find _ | .registry
  | .cancel _ | .setCriteria .. | .settings _ | .triggered .. => .registry
  | .offsets .. | .failStore .. | .restore _ | .isProcessed .. | .record .. | .rows _ | .putRow ..
  | .deleteRow .. | .dropTable _ | .write .. | .read _ | .makeFolder _ | .removeFile _
  | .removeFolder _ | .names | .loadProperties _ => .storage
  | .poller .. | .poll _ | .worker .. | .signalWorker _ | .abandonWorker | .workerFinished
  | .joinWorker | .sleep _ | .metrics => .polling
  | .container .. | .configureContainer .. | .bootstrapContainer .. | .containerRegister ..
  | .containerRegisterAll _ | .containerStart | .containerStop | .containerRunning => .container

/-- Takes a step, when it is known how further steps are taken. -/
def takeStep (take : Taker) (role : Role) (s : Step) : Program World Outcome :=
  match s.concern with
  | .ledger => takeLedgerStep take role.here s
  | .registry => takeRegistryStep take role.here s
  | .storage => takeStorageStep role.here s
  | .polling => takePollingStep take s
  | .container => takeContainerStep take s

/-- Takes a step that may take further steps to a depth; nothing comes of deeper ones. -/
def takeTo : Nat → Taker
  | 0 => fun _ _ => return .nothing
  | depth + 1 => takeStep (takeTo depth)

/-- How deep steps may take further steps. -/
def maxDepth : Nat := 1000

/-- Takes a step of the host. -/
def takeHostStep (s : Step) : Program World Outcome :=
  takeTo maxDepth {} s

/-- What is told of a step, after which the log is empty and all is shown. -/
def tell (outcome : Outcome) : Program World Report := do
  let w ← world
  change fun w => { w with log := [], shown := w.views }
  return ⟨outcome, w.log.reverse, w.changes⟩

/-- Plays steps one after another. -/
def play : List Step → Program World (List Report)
  | [] => return []
  | first :: rest => do
    let report ← tell (← takeHostStep first)
    return report :: (← play rest)

/-- How many times the host and the workers may have their turn in a rehearsal. -/
def maxTurns : Nat := 1000000

/-- What is told of a rehearsal; nothing when everyone waits for ever. -/
def rehearse (steps : List Step) : Option (List Report) :=
  ((crew (takeTo maxDepth)).conduct maxTurns (play steps) [] {}).map Prod.fst

end LedgerWatch.Rehearsal
