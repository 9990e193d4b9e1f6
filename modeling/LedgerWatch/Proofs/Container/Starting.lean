import LedgerWatch.Proofs.Container.Orders

/-!
# Containers that fail to start

A start opens the registry before it makes the poller. When a watcher does not start, the registry
is as before and the container can be started again. When the poller cannot be made, the registry
is open although nobody polls, and every later start is refused: the container can only be stopped
(`start_fails_half_way`).
-/

namespace LedgerWatch

open Relation (ReflTransGen)
open Program (Ends Ensures Within)
open Registry (Operation)

variable {W σ δ : Type} [Inhabited σ] [Inhabited δ]

namespace Container

variable {c : Container W σ δ} {allowed : Operation σ → Prop} {others : W → W → Prop}
  {s s' : Scene W}

/-- What the allowed operations keep of a registry lasts as long as nobody is hired. -/
lemma lasts_registry (h : c.Surrounded allowed others) {P : Registry σ → Prop}
    (touched : ∀ r r', r.Touched allowed r' → P r → P r') :
    c.Lasts allowed others fun s => c.Vacant s ∧ P (c.site.registry.get s.1) where
  meanwhile s s' hs step held := by
    refine ⟨(lasts_vacant h allowed).meanwhile s s' hs step held.1, ?_⟩
    obtain ⟨step, -⟩ | same | ⟨k, -, unfinished, -⟩ := hs.meanwhile_cases h step
    · exact touched _ _ (h.others _ _ step).registry held.2
    · rw [same]
      exact held.2
    · have hired := Crew.hired_of_unfinished unfinished
      rw [held.1.workers] at hired
      cases hired
  outside s v step held :=
    ⟨(lasts_vacant h allowed).outside s v step held.1, touched _ _ step.registry held.2⟩

lemma start_refused (h : c.Surrounded allowed others) (hs : c.Settled s)
    (busy : (c.site.registry.get s.1).phase ≠ .idle) :
    c.start.beside.Ensures (c.Meanwhile others) s fun answer _ =>
      answer = .error (.registry .alreadyActive) ∨ answer = .error (.registry .closed) := by
  refine Ensures.step fun v rest => ?_
  have busy := ((lasts_busy h allowed).rest h hs busy rest).2
  have answer := Registry.beginStart_fst (c.site.registry.get v.1)
  cases phase : (c.site.registry.get v.1).phase with
  | idle => exact absurd phase busy
  | active =>
    simp only [phase] at answer
    simp only [Program.bind, answer]
    exact .done fun _ _ => .inl rfl
  | closed =>
    simp only [phase] at answer
    simp only [Program.bind, answer]
    exact .done fun _ _ => .inr rfl

end Container

open Container (Scene)

/--
A container whose start fails has no worker. If the registry did not start, it is not active, and it
is idle as before unless someone else closed it. If the poller could not be made, it is active
unless someone else closed it, and every later start is refused, whatever happens until then.
-/
theorem start_fails_half_way {c : Container W σ δ} {allowed : Operation σ → Prop}
    {others : W → W → Prop} (h : c.Surrounded allowed others) (unopened : ¬allowed .finishStart)
    {s s' : Scene W} (history : c.History others s)
    (idle : (c.site.registry.get s.1).phase = .idle) {e : HostError}
    (fails : c.start.beside.Ends (c.Meanwhile others) s (.error e) s') :
    c.running.get s'.1 = none ∧ c.crew.workers.get s'.1 = [] ∧
    let phase := (c.site.registry.get s'.1).phase
    ((∃ refusal, e = .registry refusal ∧ phase ≠ .active ∧ (¬allowed .close → phase = .idle)) ∨
      ∃ failure, e = .poller failure ∧ phase ≠ .idle ∧ (¬allowed .close → phase = .active) ∧
        ∀ t answer t', ReflTransGen (c.Step others) s' t →
          c.start.beside.Ends (c.Meanwhile others) t answer t' →
          answer = .error (.registry .alreadyActive) ∨ answer = .error (.registry .closed)) := by
  have settled := history.settled h
  -- what the others keep of a registry before it is opened, and what they keep of it afterwards
  let unstarted (r : Registry σ) : Prop :=
    r.phase ≠ .active ∧ (¬allowed .close → r.phase = .idle)
  let opened (r : Registry σ) : Prop :=
    r.phase ≠ .idle ∧ (¬allowed .close → r.phase = .active)
  have stays : c.Lasts allowed others fun s =>
      c.Vacant s ∧ unstarted (c.site.registry.get s.1) := by
    refine Container.lasts_registry h fun r r' touched hr => ?_
    obtain same | ⟨may, closed⟩ | ⟨may, -⟩ := touched.phase_cases
    · exact ⟨same ▸ hr.1, fun never => same.trans (hr.2 never)⟩
    · exact ⟨closed ▸ nofun, fun never => absurd may never⟩
    · exact absurd may unopened
  have holds : c.Lasts allowed others fun s => c.Vacant s ∧ opened (c.site.registry.get s.1) := by
    refine Container.lasts_registry h fun r r' touched hr => ⟨touched.busy hr.1, fun never => ?_⟩
    obtain same | ⟨may, -⟩ | ⟨-, active⟩ := touched.phase_cases
    · exact same.trans (hr.2 never)
    · exact absurd may never
    · exact active
  have started := Container.start_ensures h stays holds
    (fun t vacant => ⟨vacant, by rw [Part.get_modify]; exact ⟨nofun, fun _ => rfl⟩⟩) settled
    ⟨settled.vacant idle, idle ▸ nofun, fun _ => idle⟩ _ _ fails
  obtain ⟨settled, ⟨same, -⟩ | ⟨refusal, same, vacant, held⟩ | ⟨failure, same, vacant, -, held⟩⟩ :=
    started
  · cases same
  · -- a watcher did not start
    cases same
    exact ⟨vacant.running, vacant.workers, .inl ⟨refusal, rfl, held⟩⟩
  · -- the poller could not be made
    cases same
    refine ⟨vacant.running, vacant.workers, .inr ⟨failure, rfl, held.1, held.2, ?_⟩⟩
    intro t answer t' later ends
    obtain ⟨settled, busy⟩ := settled.busy h held.1 later
    exact Container.start_refused h settled busy _ _ ends

/-- A container with one kind of watchers, a ledger with one block and a store that may fail. -/
structure Plant where
  registry : Registry Unit := {}
  metrics : Metrics := {}
  workers : List (Worker Unit) := []
  clock : Nat := 0
  running : Option Nat := none
  /-- How many times a watcher was told about a block. -/
  told : Nat := 0
  /-- Why the store does not obey, if it does not. -/
  storeFails : Option StorageError := none

namespace Plant

def registryPart : Part Plant (Registry Unit) :=
  ⟨registry, fun registry p => { p with registry }, fun _ _ => rfl⟩

def metricsPart : Part Plant Metrics :=
  ⟨metrics, fun metrics p => { p with metrics }, fun _ _ => rfl⟩

def workersPart : Part Plant (List (Worker Unit)) :=
  ⟨workers, fun workers p => { p with workers }, fun _ _ => rfl⟩

def clockPart : Part Plant Nat :=
  ⟨clock, fun clock p => { p with clock }, fun _ _ => rfl⟩

def runningPart : Part Plant (Option Nat) :=
  ⟨running, fun running p => { p with running }, fun _ _ => rfl⟩

def toldPart : Part Plant Nat :=
  ⟨told, fun told p => { p with told }, fun _ _ => rfl⟩

def obey {α : Type} (answer : α) : Program Plant (Except StorageError α) :=
  .step id fun p => .done (p.storeFails.elim (.ok answer) .error)

def ledger : LedgerReads Plant where
  latest := return .ok (.ofNat 1)
  blocksAfter mark := return .ok (if mark = .root then [⟨.ofNat 1, .root, 1, []⟩] else [])
  block? _ := return .ok none
  transaction? _ := return .ok none
  blockOf? _ := return .ok none
  head? _ := return .ok none
  previous? _ := return .ok none

def site : Site Plant Unit where
  registry := registryPart
  metrics := metricsPart
  ledger := ledger
  behaviour :=
    { start _ _ := return (.ok (.after .root), ())
      notify _ block _ := do
        Program.modify toldPart (· + 1)
        return (.ok (some (.after block)), ()) }

def container : Container Plant Unit Unit where
  site := site
  crew :=
    { workers := workersPart
      clock := clockPart
      poller _ :=
        { ledger := ledger
          offsets :=
            { restore := obey .root
              isProcessed _ := return .ok false
              record _ := obey () }
          notify := site.notify
          metrics := metricsPart } }
  catalog := .empty
  poller := ()
  interval := 10
  running := runningPart

/-- Time goes by, and the store breaks or is mended. -/
def goesBy (p q : Plant) : Prop :=
  ∃ time storeFails, q = { p with clock := p.clock + time, storeFails }

/-- Nothing is done to the registry but what the site does on its own. -/
lemma surrounded {allowed : Operation Unit → Prop} (may : ∀ op, op.own = true → allowed op) :
    container.Surrounded allowed goesBy := by
  have same (p : Plant) : container.Outside allowed p p := ⟨.inl rfl, rfl, rfl⟩
  have metrics m p : container.Outside allowed p (metricsPart.set m p) := ⟨.inl rfl, rfl, rfl⟩
  have abides : site.Abides (container.Outside allowed) :=
    { refl := same
      operate := fun op _ own => ⟨.inr ⟨op, may op own, rfl⟩, rfl, rfl⟩
      metrics := metrics
      ledger := fun _ => trivial
      start := fun _ _ => trivial
      notify := fun _ _ _ _ => ⟨⟨.inl rfl, rfl, rfl⟩, trivial⟩ }
  refine ⟨⟨fun _ _ => rfl, fun _ _ => rfl⟩, ⟨fun _ _ => rfl, fun _ _ => rfl⟩,
    ⟨fun _ _ => rfl, fun _ _ => rfl⟩, fun _ => rfl, fun _ => rfl, ?_, abides, fun _ => ?_⟩
  · rintro p _ ⟨time, storeFails, rfl⟩
    exact ⟨.inl rfl, rfl, rfl⟩
  · exact
      { blocksAfter := fun _ => trivial
        block? := fun _ => trivial
        restore := fun p => ⟨same p, trivial⟩
        isProcessed := fun _ => trivial
        record := fun _ p => ⟨same p, trivial⟩
        notify := abides.tell
        metrics := metrics }

/-- Nobody is in the middle of a turn. -/
def calm (p : Plant) : Scene Plant :=
  (p, fun _ => .done ())

/-- An order that nobody interferes with. -/
lemma ordered {others : Plant → Plant → Prop} (order : Container.Order Unit) {p q : Plant}
    (through : (container.heed order).beside.through (calm p) = some ((), calm q)) :
    container.Step others (calm p) (calm q) :=
  .order order (.of_through through)

/-- A watcher is registered. -/
def registered : Plant :=
  ((site.obey (.register "a" () .empty)).run { storeFails := some (.io "disk") }).2

lemma registered_history : container.History goesBy (calm registered) :=
  ⟨calm { storeFails := some (.io "disk") }, ⟨rfl, rfl, rfl, fun _ => rfl⟩,
    .single (ordered (.site (.register "a" () .empty)) rfl)⟩

/-- The container could not make its poller. -/
def halfStarted : Plant :=
  (container.start.run registered).2

/-- The store obeys again. -/
def mended : Plant :=
  { halfStarted with storeFails := none }

lemma half_started : container.start.beside.through (calm registered)
    = some (.error (.poller (.storage (.io "disk"))), calm halfStarted) :=
  rfl

lemma mended_later : ReflTransGen (container.Step goesBy) (calm halfStarted) (calm mended) :=
  .single (.meanwhile (.others ⟨0, none, rfl⟩))

/-- A store that fails leaves the registry active, and once it is mended no start succeeds. -/
theorem start_fails_half_way_without_store :
    container.start.beside.Ends (container.Meanwhile goesBy) (calm registered)
      (.error (.poller (.storage (.io "disk")))) (calm halfStarted) ∧
    halfStarted.running = none ∧ halfStarted.workers = [] ∧ halfStarted.registry.phase = .active ∧
    ReflTransGen (container.Step goesBy) (calm halfStarted) (calm mended) ∧
    (∃ t', container.start.beside.Ends (container.Meanwhile goesBy) (calm mended)
      (.error (.registry .alreadyActive)) t') ∧
    ∀ answer t', container.start.beside.Ends (container.Meanwhile goesBy) (calm mended) answer t' →
      answer = .error (.registry .alreadyActive) ∨ answer = .error (.registry .closed) := by
  have fails : container.start.beside.Ends (container.Meanwhile goesBy) (calm registered)
      (.error (.poller (.storage (.io "disk")))) (calm halfStarted) :=
    .of_through half_started
  obtain ⟨running, workers, ⟨_, same, -⟩ | ⟨_, -, -, active, refused⟩⟩ :=
    start_fails_half_way (surrounded fun _ own => own) nofun registered_history rfl fails
  · cases same
  · refine ⟨fails, running, workers, active nofun, mended_later, ⟨calm mended, .of_through rfl⟩,
      fun answer t' ends => refused _ answer t' mended_later ends⟩

end Plant

end LedgerWatch
