import LedgerWatch.Registry.Watcher

/-!
# The registry

A registry keeps the registrations of watchers, each under its own name. It takes new ones while it
is idle, notifies them while it is active, and keeps none once it is closed. A registration can be
cancelled at any time: it is inactive at once, and the registry forgets it before it is next asked
for anything.
-/

namespace LedgerWatch

/-- Why a registry refuses. -/
inductive RegistryError where
  | emptyName
  | alreadyActive
  | closed
  | duplicateName (name : String)
  | notActive
  | invalidCriteria (name : String) (error : CriteriaError)
  | startFailed (name : String) (error : WatcherError)
deriving DecidableEq

/-- The wording of each error. -/
def RegistryError.message : RegistryError → String
  | .emptyName => "sentinel cannot be registered with an empty name"
  | .alreadyActive => "sentinel registry is active"
  | .closed => "sentinel registry is closed"
  | .duplicateName name => "sentinel already registered with name `" ++ name ++ "`"
  | .notActive => "sentinel registry is not active"
  | .invalidCriteria name error =>
    "sentinel `" ++ name ++ "` returned invalid criteria: " ++ error.message
  | .startFailed name error => "sentinel `" ++ name ++ "` failed to start: " ++ error.message

/-- Whether a registration is still to be notified. -/
inductive Status where
  | active
  | cancelled
deriving DecidableEq

/-- The life of a registry. -/
inductive Phase where
  | idle
  | active
  | closed
deriving DecidableEq

/-- A watcher under a name, with its settings and the criteria that it gave last. -/
structure Registration (σ : Type) where
  name : String
  settings : Settings
  /-- The state of the watcher. -/
  watcher : σ
  status : Status
  criteria : Criteria
  /-- Whether a program of the watcher is under way. -/
  busy : Bool := false

/-- What stands for a registration that was never made. -/
instance {σ : Type} [Inhabited σ] : Inhabited (Registration σ) :=
  ⟨⟨"", .empty, default, .cancelled, default, false⟩⟩

/-- A registration, by the order in which the registry made it. -/
abbrev Handle := Nat

/-- The registrations of watchers with states in `σ`. -/
structure Registry (σ : Type) where
  phase : Phase := .idle
  /-- Every registration that was ever made, in order. -/
  registrations : List (Registration σ) := []
  /-- The registrations that are kept, under their names. -/
  members : Table Handle := .empty
  /-- The cancelled registrations that may still be kept, in the order of their cancellation. -/
  intents : List Handle := []

namespace Registry

variable {σ : Type}

instance : Inhabited (Registry σ) :=
  ⟨{}⟩

/-- The registration of a handle. -/
def get [Inhabited σ] (r : Registry σ) (h : Handle) : Registration σ :=
  r.registrations.getD h default

/-- Changes a registration. -/
def amend (r : Registry σ) (h : Handle) (f : Registration σ → Registration σ) : Registry σ :=
  { r with registrations := r.registrations.modify h f }

/-- Whether a registration is still to be notified. -/
def isLive [Inhabited σ] (r : Registry σ) (h : Handle) : Bool :=
  (r.get h).status = .active

/-- Replaces the criteria of a registration. -/
def setCriteria (h : Handle) (c : Criteria) (r : Registry σ) : Registry σ :=
  r.amend h fun reg => { reg with criteria := c }

/-- Cancels a registration, and asks the registry to forget it unless that was asked before. -/
def cancel [Inhabited σ] (h : Handle) (r : Registry σ) : Registry σ :=
  if r.isLive h then
    { r.amend h fun reg => { reg with status := .cancelled } with intents := r.intents ++ [h] }
  else r

/-- Forgets a cancelled registration, unless its name belongs to another one by now. -/
def forget [Inhabited σ] (r : Registry σ) (h : Handle) : Registry σ :=
  if r.members.get? (r.get h).name = some h then
    { r with members := r.members.erase (r.get h).name }
  else r

/-- Forgets every cancelled registration. -/
def settle [Inhabited σ] (r : Registry σ) : Registry σ :=
  { r.intents.foldl forget r with intents := [] }

/-- What is wrong with a registry that should be idle. -/
def checkIdle (r : Registry σ) : Except RegistryError Unit :=
  match r.phase with
  | .idle => .ok ()
  | .active => .error .alreadyActive
  | .closed => .error .closed

/-- The handle that the next registration gets. -/
def nextHandle (r : Registry σ) : Handle :=
  r.registrations.length

/-- Adds a registration under a name that is free. It waits for any block after the root. -/
def add (r : Registry σ) (name : String) (watcher : σ) (settings : Settings) : Registry σ :=
  { r with
    registrations :=
      r.registrations ++ [⟨name, settings, watcher, .active, .after .root, false⟩]
    members := r.members.insert name r.nextHandle }

/-- Registers a watcher under a name. -/
def register [Inhabited σ] (name : String) (watcher : σ) (settings : Settings) (r : Registry σ) :
    Except RegistryError Handle × Registry σ :=
  if name.isEmpty then (.error .emptyName, r)
  else
    let r := r.settle
    match r.checkIdle with
    | .error e => (.error e, r)
    | .ok () =>
      if r.members.contains name then (.error (.duplicateName name), r)
      else (.ok r.nextHandle, r.add name watcher settings)

/-- The registrations that a start goes through, in the order of their names. -/
def beginStart [Inhabited σ] (r : Registry σ) : Except RegistryError (List Handle) × Registry σ :=
  let r := r.settle
  match r.checkIdle with
  | .error e => (.error e, r)
  | .ok () => (.ok r.members.values, r)

/-- Opens the registry for notifications. -/
def finishStart [Inhabited σ] (r : Registry σ) : Registry σ :=
  { r.settle with phase := .active }

/-- The registrations that a notification goes through, in the order of their names. -/
def beginNotify [Inhabited σ] (r : Registry σ) : Except RegistryError (List Handle) × Registry σ :=
  let r := r.settle
  if r.phase = .active then (.ok r.members.values, r) else (.error .notActive, r)

/-- Closes the registry and cancels every registration that it keeps. -/
def close [Inhabited σ] (r : Registry σ) : Registry σ :=
  let r := r.settle
  let emptied := { r with phase := .closed, members := .empty }
  (r.members.values.foldl (fun r h => r.cancel h) emptied).settle

/-- Removes the registration with a name and cancels it. -/
def remove [Inhabited σ] (name : String) (r : Registry σ) : Option Handle × Registry σ :=
  let r := r.settle
  match r.members.get? name with
  | none => (none, r)
  | some h => (some h, cancel h { r with members := r.members.erase name })

/-- The names of the registrations that are kept, in ascending order. -/
def names [Inhabited σ] (r : Registry σ) : List String :=
  r.settle.members.keys

/-- How many registrations are kept. -/
def size [Inhabited σ] (r : Registry σ) : Nat :=
  r.settle.members.size

/-- The registration that is kept under a name. -/
def find? [Inhabited σ] (r : Registry σ) (name : String) : Option Handle :=
  r.settle.members.get? name

/-- Whether the registry is open for notifications. -/
def isActive (r : Registry σ) : Bool :=
  r.phase = .active

/-- Marks whether a program of a watcher is under way. -/
def setBusy (h : Handle) (busy : Bool) (r : Registry σ) : Registry σ :=
  r.amend h fun reg => { reg with busy }

/-- Takes back the state that a program of a watcher left behind. -/
def release (h : Handle) (watcher : σ) (r : Registry σ) : Registry σ :=
  r.amend h fun reg => { reg with watcher, busy := false }

end Registry

end LedgerWatch
