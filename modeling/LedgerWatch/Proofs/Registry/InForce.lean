import LedgerWatch.Proofs.Registry.Readiness
import LedgerWatch.Proofs.Registry.Undisturbed

/-!
# Every criteria in force is valid

Hosts and watchers that set no criteria themselves may do anything else at a lodge: criteria come in
force only through starts and replies, which put none in force that does not pass validation. A
criteria in force names a block and asks for at most one thing, so that it makes no difference in
what order its wishes are looked at. A call of a watcher that fails, or that gives criteria that do
not pass, changes nothing about its registration but what the watcher itself has done meanwhile.
-/

namespace LedgerWatch

open Registry (Operation)

namespace Criteria

variable {c : Criteria}

/-- The things that a criteria asks for. -/
def wishes (c : Criteria) : List Interest :=
  (c.artifactState.map .artifactState).toList ++ (c.artifact.map .artifact).toList ++
    (c.artifactType.map .artifactType).toList ++ (c.transactionType.map .transactionType).toList

/-- A criteria asks for as many things as it has discriminators. -/
lemma length_wishes (c : Criteria) : c.wishes.length = c.discriminatorCount := by
  obtain ⟨block, state, artifact, artifactType, transactionType⟩ := c
  cases state <;> cases artifact <;> cases artifactType <;> cases transactionType <;> rfl

/-- A criteria with at most one discriminator asks for that. -/
lemma interest_of_count (h : c.discriminatorCount ≤ 1) :
    c.wishes.head?.getD .anyBlock = c.interest := by
  obtain ⟨block, state, artifact, artifactType, transactionType⟩ := c
  cases state <;> cases artifact <;> cases artifactType <;> cases transactionType <;>
    first
    | rfl
    | exact absurd h (by simp [discriminatorCount])

/-- In whatever order the wishes of valid criteria are looked at, the first is what they ask for. -/
lemma Valid.interest (h : c.Valid) {order : List Interest} (any : order.Perm c.wishes) :
    order.head?.getD .anyBlock = c.interest := by
  have few : c.wishes.length ≤ 1 := c.length_wishes ▸ h.2
  have same : order = c.wishes := by
    cases wishes : c.wishes with
    | nil => exact List.perm_nil.1 (wishes ▸ any)
    | cons wish rest =>
      rw [wishes] at few any
      obtain rfl : rest = [] := by simpa using few
      exact List.perm_singleton.1 any
  rw [same, interest_of_count h.2]

end Criteria

namespace Lodge

variable {W σ α : Type} [Inhabited σ] {l : Lodge W σ} {v w : W} {h : Handle}

/-- One step of a host or a watcher that sets no criteria. -/
def Refrains (l : Lodge W σ) (w v : W) : Prop :=
  l.Rests w v ∨ ∃ op, Operation.Free (l.registry.get w) op ∧ (∀ h c, op ≠ .setCriteria h c) ∧
    l.Does op w v

/--
What a program may do at a lodge, with whatever its watchers and its ledger do meanwhile, as long as
nobody but the registry sets criteria.
-/
inductive Abides (l : Lodge W σ) : {α : Type} → Program W α → Prop where
  | done {α : Type} (a : α) :
    Abides l (.done a)
  | wait {α : Type} {ready : W → Bool} {alarm : Option Nat} {next : Program W α} :
    Abides l next →
    Abides l (.wait ready alarm next)
  | step {α : Type} {update : W → W} {next : W → Program W α} :
    (∀ w, l.Refrains w (update w)) →
    (∀ w, Abides l (next w)) →
    Abides l (.step update next)
  | start {α : Type} {metrics : Part W Metrics} {ledger : LedgerReads W}
      {conduct : Handle → Behaviour W σ} {next : Except RegistryError Unit → Program W α} :
    (∀ h x settings, Abides l ((conduct h).start x settings)) →
    (∀ answer, Abides l (next answer)) →
    Abides l ((l.site metrics ledger conduct).start.bind next)
  | notify {α : Type} {metrics : Part W Metrics} {ledger : LedgerReads W}
      {conduct : Handle → Behaviour W σ} {b : Block}
      {next : Except RegistryError Tally → Program W α} :
    l.Aside metrics →
    (∀ id, Abides l (ledger.transaction? id)) →
    (∀ h x block c, Abides l ((conduct h).notify x block c)) →
    (∀ answer, Abides l (next answer)) →
    Abides l (((l.site metrics ledger conduct).notify b).bind next)

/-- A step that sets no criteria upholds the valid ones. -/
lemma Refrains.upholds (r : l.Refrains w v) : l.Upholds w v := by
  rcases r with rests | ⟨op, -, other, does⟩
  · exact rests.upholds
  · exact does.upholds fun h c same => absurd same (other h c)

/-- A step that sets no criteria disturbs nobody who is busy. -/
lemma Refrains.undisturbed (r : l.Refrains w v) : l.Undisturbed w v := by
  rcases r with rests | ⟨op, free, other, does⟩
  · exact .of_same rests.registry
  · refine does.undisturbed fun h _ => ?_
    cases op with
    | setCriteria k c => exact absurd rfl (other k c)
    | setBusy k busy => exact free.elim
    | release k x => exact free.elim
    | _ => trivial

/-- Whatever is done, criteria in force stay valid, and nobody who is busy is disturbed. -/
lemma Abides.proceeds {p : Program W α} (abides : l.Abides p) (inForce : l.InForce w) :
    p.Proceeds l.Upholds w fun _ v => l.Undisturbed w v := by
  induction abides generalizing w with
  | done a => exact .refl w
  | wait _ ih => exact fun _ => ih inForce
  | step refrains _ ih =>
    have upholds := (refrains w).upholds
    have first := (refrains w).undisturbed
    exact ⟨upholds, (ih w (upholds.valid inForce)).mono fun _ _ _ more => first.trans more⟩
  | start _ _ ihstart ihnext =>
    refine Program.Proceeds.bind
      (proceeds_start (fun h x settings w => ihstart h x settings) inForce) ?_
    intro answer v upheld first
    exact (ihnext answer (upheld.valid inForce)).mono fun _ _ _ more => first.trans more
  | notify aside _ _ _ ihledger ihnotify ihnext =>
    refine Program.Proceeds.bind (proceeds_notify aside (fun id w => ihledger id)
      (fun h x block c w => ihnotify h x block c) inForce _) ?_
    intro answer v upheld first
    exact (ihnext answer (upheld.valid inForce)).mono fun _ _ _ more => first.trans more

/-- Programs that abide do so one after the other. -/
lemma Abides.bind {β : Type} {p : Program W α} {f : α → Program W β} (abides : l.Abides p)
    (hf : ∀ a, l.Abides (f a)) : l.Abides (p.bind f) := by
  induction abides with
  | done a => exact hf a
  | wait _ ih => exact .wait (ih hf)
  | step refrains _ ih => exact .step refrains fun w => ih w hf
  | start hstart _ _ ih =>
    rw [Program.bind_assoc]
    exact .start hstart fun answer => ih answer hf
  | notify aside hledger hnotify _ _ _ ih =>
    rw [Program.bind_assoc]
    exact .notify aside hledger hnotify fun answer => ih answer hf

/-- A free operation that sets no criteria abides. -/
lemma carry_abides {op : Registry (Badged σ) → Operation (Badged σ)} (free : ∀ r, (op r).Free r)
    (other : ∀ r h c, op r ≠ .setCriteria h c) : l.Abides (l.carry op) := by
  refine .step (fun w => .inr ⟨op (l.registry.get w), free _, other _, ?_, ?_⟩) fun _ => .done ()
  · exact (l.apart.left _ _).trans (l.registry.get_set _ _)
  · exact (l.diary.get_modify _ _).trans (congrArg (· ++ _) (l.apart.right _ _))

/-- In a new lodge there are no criteria. -/
lemma InForce.fresh (fresh : l.registry.get w = {}) (blank : l.diary.get w = []) :
    l.InForce w where
  registrations := by
    rw [fresh]
    exact fun h made => absurd made (Nat.not_lt_zero h)
  told := by
    rw [blank]
    exact fun _ _ _ mem => absurd mem List.not_mem_nil

/--
From one world to another the criteria of a registration stay, and so does its status unless a
program of its own watcher has cancelled it while it ran.
-/
structure Leaves (l : Lodge W σ) (h : Handle)
    (own : Registration (Badged σ) → Program W (α × Badged σ)) (w v : W) : Prop where
  criteria : ((l.registry.get v).get h).criteria = ((l.registry.get w).get h).criteria
  status : ((l.registry.get v).get h).status = ((l.registry.get w).get h).status ∨
    ∃ u u' a x, l.Does (.setBusy h true) w u ∧
      (own ((l.registry.get u).get h)).through u = some ((a, x), u') ∧
      l.Does (.release h x) u' v ∧ ((l.registry.get u).get h).status = .active ∧
      ((l.registry.get u').get h).status = .cancelled

/-- A program of a watcher that was run leaves its criteria, and its status but for itself. -/
lemma Performed.leaves {f : Registration (Badged σ) → Program W (α × Badged σ)} {a : α}
    (p : l.Performed h f w a v) (made : h < (l.registry.get w).nextHandle) : l.Leaves h f w v := by
  obtain ⟨u, u', x, mark, ends, later, own, release⟩ := p.own
  have next : (l.registry.get u).nextHandle = (l.registry.get w).nextHandle := by
    rw [mark.registry]
    exact Registry.nextHandle_amend
  have marked : (l.registry.get u).get h = { (l.registry.get w).get h with busy := true } := by
    rw [mark.registry]
    exact Registry.get_amend_self made
  have released : (l.registry.get v).get h
      = { (l.registry.get u').get h with watcher := x, busy := false } := by
    rw [release.registry]
    exact Registry.get_amend_self (Nat.lt_of_lt_of_le (next ▸ made) later.next)
  have begins : ((l.registry.get u).get h).status = ((l.registry.get w).get h).status := by
    rw [marked]
  have leaves : ((l.registry.get v).get h).status = ((l.registry.get u').get h).status := by
    rw [released]
  refine ⟨?_, ?_⟩
  · obtain ⟨-, same⟩ := own h (by rw [marked])
    rw [marked] at same
    rw [released]
    exact same
  · rw [leaves, ← begins]
    cases ended : ((l.registry.get u').get h).status with
    | active =>
      have live := later.live h (next ▸ made) (by simp [Registry.isLive, ended])
      rw [Registry.isLive, decide_eq_true_iff] at live
      exact .inl live.symm
    | cancelled =>
      cases begun : ((l.registry.get u).get h).status with
      | active => exact .inr ⟨u, u', a, x, mark, ends, release, begun, ended⟩
      | cancelled => exact .inl rfl

section Failing

variable {metrics : Part W Metrics} {ledger : LedgerReads W} {conduct : Handle → Behaviour W σ}

/-- A start that is given no valid criteria ends where the watcher ends. -/
lemma startAll_of_invalid {answer : Except WatcherError Criteria} (rest : List Handle)
    (ends : ((l.site metrics ledger conduct).startWatcher h).through w = some (answer, v))
    (invalid : ∀ c, answer = .ok c → ¬c.Valid) :
    ∃ e, ((l.site metrics ledger conduct).startAll (h :: rest)).through w = some (.error e, v) := by
  have read : ((l.site metrics ledger conduct).registration h).through w
      = some ((l.registry.get w).get h, w) := rfl
  simp only [Site.startAll, Program.bind_eq, Program.through_bind, read, Option.bind_some, ends]
  cases answer with
  | error e => exact ⟨_, rfl⟩
  | ok initial =>
    cases valid : initial.validate with
    | error e =>
      simp only [valid]
      exact ⟨_, rfl⟩
    | ok initial' =>
      obtain ⟨isValid, rfl⟩ := Criteria.validate_eq_ok_iff.1 valid
      exact absurd isValid (invalid initial' rfl)

/-- A reply that puts no criteria in force ends a dispatch where the watcher ends. -/
lemma dispatch_of_failed {reply : Reply} (block : BlockId)
    (ends : ((l.site metrics ledger conduct).notifyWatcher h block
      ((l.registry.get w).get h).criteria).through w = some (reply, v))
    (failed : Delivery.ofReply reply = .failed) :
    ((l.site metrics ledger conduct).dispatch h block).through w = some (.failed, v) := by
  have read : ((l.site metrics ledger conduct).registration h).through w
      = some ((l.registry.get w).get h, w) := rfl
  simp only [Site.dispatch, Program.bind_eq, Program.through_bind, read, Option.bind_some, ends]
  rcases reply with e | _ | next
  · rfl
  · cases failed
  · cases valid : next.validate with
    | error e =>
      simp only [valid]
      rfl
    | ok next' =>
      obtain ⟨isValid, rfl⟩ := Criteria.validate_eq_ok_iff.1 valid
      rw [Delivery.ofReply, if_pos isValid] at failed
      cases failed

end Failing

end Lodge

/--
Whatever acts at a lodge without setting criteria: at every moment the criteria of all registrations
are valid, and so are those that watchers were told, so that the order of the wishes in them never
matters. A start that is given no valid criteria and a reply that fails or gives none end where the
watcher ends: the registration keeps its criteria, and its status unless the watcher's own program
has cancelled it.
-/
theorem criteria_stay_valid {W σ α : Type} [Inhabited σ] {l : Lodge W σ} {p : Program W α}
    (abides : l.Abides p) {w : W} (fresh : l.registry.get w = {}) (blank : l.diary.get w = []) :
    ∀ v ∈ p.reached w,
      (∀ c, ((∃ h < (l.registry.get v).nextHandle, ((l.registry.get v).get h).criteria = c) ∨
          ∃ h block, .told h block c ∈ l.diary.get v) →
        c.latestBlock.isSome ∧ c.discriminatorCount ≤ 1 ∧
        ∀ order : List Interest, order.Perm c.wishes →
          order.head?.getD .anyBlock = c.interest) ∧
      ∀ (metrics : Part W Metrics) (ledger : LedgerReads W) (conduct : Handle → Behaviour W σ),
        ∀ h < (l.registry.get v).nextHandle,
        ((∀ k x settings, l.Abides ((conduct k).start x settings)) → ∀ answer u,
          ((l.site metrics ledger conduct).startWatcher h).through v = some (answer, u) →
          (∀ c, answer = .ok c → ¬c.Valid) →
          l.Leaves h (fun reg => (l.diarised conduct).start reg.watcher reg.settings) v u ∧
          ∀ rest, ∃ e, ((l.site metrics ledger conduct).startAll (h :: rest)).through v
            = some (.error e, u)) ∧
        ((∀ k x block c, l.Abides ((conduct k).notify x block c)) → ∀ block reply u,
          ((l.site metrics ledger conduct).notifyWatcher h block
            ((l.registry.get v).get h).criteria).through v = some (reply, u) →
          Delivery.ofReply reply = .failed →
          l.Leaves h (fun reg => (l.diarised conduct).notify reg.watcher block
            ((l.registry.get v).get h).criteria) v u ∧
          ((l.site metrics ledger conduct).dispatch h block).through v = some (.failed, u)) := by
  intro v hv
  have first := Lodge.InForce.fresh fresh blank
  have inForce : l.InForce v := ((abides.proceeds first).leads hv).valid first
  refine ⟨fun c inUse => ?_, fun metrics ledger conduct h made => ⟨?_, ?_⟩⟩
  · have valid : c.Valid := by
      rcases inUse with ⟨h, made, rfl⟩ | ⟨h, block, mem⟩
      · exact inForce.registrations h made
      · exact inForce.told h block c mem
    exact ⟨valid.1, valid.2, fun _ => valid.interest⟩
  · intro hstart answer u ends invalid
    have performed := (Lodge.proceeds_startWatcher
      (fun k x settings w => (hstart k x settings).proceeds) inForce).through ends
    exact ⟨performed.leaves made, fun rest => Lodge.startAll_of_invalid rest ends invalid⟩
  · intro hnotify block reply u ends failed
    have performed := (Lodge.proceeds_notifyWatcher
      (fun k x block c w => (hnotify k x block c).proceeds) inForce block
      (inForce.registrations h made)).through ends
    exact ⟨performed.leaves made, Lodge.dispatch_of_failed block ends failed⟩

namespace Lobby

def opening : Program Lobby (Except RegistryError Unit) := do
  enrol "a"
  (site (fun _ => return ()) fun _ => return ()).start

/-- The program of the opening abides. -/
lemma opening_abides : lodge.Abides opening := by
  have started : lodge.Abides
      ((site (fun _ => return ()) fun _ => return ()).start.bind .done) :=
    .start (fun _ _ _ => .done _) fun _ => .done _
  rw [Program.bind_done] at started
  exact .bind (Lodge.carry_abides (fun _ => rfl) nofun) fun _ => started

/-- Watchers who cancel themselves when they are called, and give criteria without a block. -/
def fussy (h : Handle) : Behaviour Lobby Unit where
  start _ _ := do
    lodge.carry fun _ => .cancel h
    return (.ok {}, ())
  notify _ _ _ := do
    lodge.carry fun _ => .cancel h
    return (.ok (some {}), ())

/-- A watcher may cancel itself. -/
lemma cancel_abides (h : Handle) : lodge.Abides (lodge.carry fun _ => .cancel h) :=
  Lodge.carry_abides (fun _ => trivial) nofun

def fussySite : Site Lobby (Badged Unit) :=
  lodge.site metricsPart (.ofPart ledgerPart) fussy

end Lobby

/-- The reply does not pass: the watcher keeps its criteria, and is cancelled by its own doing. -/
theorem criteria_stay_valid_at_lobby :
    let v := (Lobby.opening.run {}).2
    (v.registry.get 0).criteria = .after .root ∧ (v.registry.get 0).status = .active ∧
      ∃ u, (Lobby.fussySite.dispatch 0 (.ofNat 1)).through v = some (.failed, u) ∧
        (u.registry.get 0).criteria = .after .root ∧ (u.registry.get 0).status = .cancelled := by
  intro v
  have reached : v ∈ Lobby.opening.reached {} :=
    Program.through_mem_reached (a := (Lobby.opening.run {}).1) rfl
  obtain ⟨-, calls⟩ := criteria_stay_valid Lobby.opening_abides rfl rfl v reached
  obtain ⟨-, notified⟩ := calls Lobby.metricsPart (.ofPart Lobby.ledgerPart) Lobby.fussy 0
    (by decide)
  have replied : ∃ u,
      (Lobby.fussySite.notifyWatcher 0 (.ofNat 1) (v.registry.get 0).criteria).through v
        = some (.ok (some {}), u) ∧ (u.registry.get 0).status = .cancelled := ⟨_, rfl, rfl⟩
  obtain ⟨u, ends, cancelled⟩ := replied
  obtain ⟨leaves, dispatched⟩ := notified
    (fun h _ _ _ => .bind (Lobby.cancel_abides h) fun _ => .done _) (.ofNat 1) _ u ends rfl
  exact ⟨rfl, rfl, u, dispatched, leaves.criteria, cancelled⟩

end LedgerWatch
