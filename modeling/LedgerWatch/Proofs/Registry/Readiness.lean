import LedgerWatch.Proofs.Registry.Acting

/-!
# Who is told about a block

A start goes through the registrations that are kept when it begins, but the registry takes further
ones until the start has finished. A registration that is made meanwhile, for instance by a watcher
that is being started, is kept without its watcher being asked for anything, and is told about
blocks like any other once the registry is open. It is the only exception: everyone else who is told
about a block was started before.
-/

namespace LedgerWatch

open Registry (Operation)

variable {W σ α : Type} [Inhabited σ]

/--
Whatever acts at a lodge: whoever is told about a block was started before, with valid criteria, or
was registered while a start was in progress. The same holds of everyone who is active while the
registry is open.
-/
theorem told_only_when_ready {l : Lodge W σ} {p : Program W α} (acts : l.Acts p) {w : W}
    (fresh : l.registry.get w = {}) (blank : l.diary.get w = []) : ∀ v ∈ p.visited w,
    (∀ (a : Diary) h block c, a ++ [.told h block c] <+: l.diary.get v →
      a.Started h ∨ a.Late h) ∧
    ((l.registry.get v).isActive = true → ∀ h, (l.registry.get v).isLive h = true →
      (l.diary.get v).Started h ∨ (l.diary.get v).Late h) := by
  intro v hv
  have order := Lodge.InOrder.fresh fresh blank
  have o := ((acts.runs order).leads hv).order order
  refine ⟨o.timely, fun active h live => o.ready ?_ h live⟩
  intro idle
  simp [Registry.isActive, idle] at active

/-- A registry with a diary, and counters and a ledger beside them. -/
structure Lobby where
  registry : Registry (Badged Unit) := {}
  diary : Diary := []
  metrics : Metrics := {}
  ledger : Ledger := {}

namespace Lobby

def lodge : Lodge Lobby Unit where
  registry := ⟨Lobby.registry, fun registry w => { w with registry }, fun _ _ => rfl⟩
  diary := ⟨Lobby.diary, fun diary w => { w with diary }, fun _ _ => rfl⟩
  apart := ⟨fun _ _ => rfl, fun _ _ => rfl⟩

def metricsPart : Part Lobby Metrics :=
  ⟨Lobby.metrics, fun metrics w => { w with metrics }, fun _ _ => rfl⟩

def ledgerPart : Part Lobby Ledger :=
  ⟨Lobby.ledger, fun ledger w => { w with ledger }, fun _ _ => rfl⟩

/-- Watchers who do something when they are started or notified, and ask for more. -/
def conduct (starting notified : Handle → Program Lobby Unit) (h : Handle) :
    Behaviour Lobby Unit where
  start _ _ := do
    starting h
    return (.ok (.after .root), ())
  notify _ _ c := do
    notified h
    return (.ok (some c), ())

def site (starting notified : Handle → Program Lobby Unit) : Site Lobby (Badged Unit) :=
  lodge.site metricsPart (.ofPart ledgerPart) (conduct starting notified)

def enrol (name : String) : Program Lobby Unit :=
  lodge.carry fun r => .register name ⟨r.nextHandle, ()⟩ .empty

lemma enrol_operates (name : String) : lodge.Operates (enrol name) :=
  Lodge.carry_operates fun _ => rfl

/-- A block without transactions. -/
def emptyBlock : Block :=
  ⟨.ofNat 1, .root, 1, []⟩

/-- Watchers are registered under some names and started, and a block is notified. -/
def season (starting notified : Handle → Program Lobby Unit) (names : List String) :
    Program Lobby (Except RegistryError Tally) := do
  names.forM enrol
  let _ ← (site starting notified).start
  (site starting notified).notify emptyBlock

lemma metrics_aside : lodge.Aside metricsPart :=
  fun _ _ => ⟨rfl, rfl⟩

lemma ledger_operates (id : TransactionId) :
    lodge.Operates ((LedgerReads.ofPart ledgerPart).transaction? id) :=
  ⟨fun _ => .inl ⟨rfl, rfl⟩, fun _ => .done _⟩

/-- A watcher that only operates when it is told acts. -/
lemma notify_acts {starting notified : Handle → Program Lobby Unit}
    (hnotify : ∀ h, lodge.Operates (notified h)) (h : Handle) (x : Unit) (block : BlockId)
    (c : Criteria) : lodge.Acts ((conduct starting notified h).notify x block c) :=
  .bind (hnotify h).acts fun _ => .done _

/-- A season acts if its watchers only operate. -/
lemma season_acts {starting notified : Handle → Program Lobby Unit}
    (hstart : ∀ h, lodge.Operates (starting h)) (hnotify : ∀ h, lodge.Operates (notified h))
    (names : List String) : lodge.Acts (season starting notified names) := by
  have enrolled : lodge.Acts (names.forM enrol) := by
    induction names with
    | nil => exact .done ()
    | cons name rest ih => exact .bind (enrol_operates name).acts fun _ => ih
  have started h x settings : lodge.Acts ((conduct starting notified h).start x settings) :=
    .bind (hstart h).acts fun _ => .done _
  have notify : lodge.Acts (((site starting notified).notify emptyBlock).bind .done) :=
    .notify metrics_aside (fun id => (ledger_operates id).acts) (notify_acts hnotify)
      fun answer => .done answer
  rw [Program.bind_done] at notify
  exact .bind enrolled fun _ => .start started fun _ => notify

/-- The first watcher registers another one while it is being started. -/
def latecomer : Handle → Program Lobby Unit
  | 0 => enrol "z"
  | _ => return ()

/-- The watcher that registers another one only operates. -/
lemma latecomer_operates (h : Handle) : lodge.Operates (latecomer h) := by
  cases h with
  | zero => exact enrol_operates "z"
  | succ h => exact .done ()

end Lobby

/-- The watcher that was registered late is told about a block without ever being started. -/
theorem told_only_when_ready_at_lobby :
    let v := ((Lobby.season Lobby.latecomer (fun _ => return ()) ["a"]).run {}).2
    ∃ (a : Diary) (block : BlockId) (c : Criteria),
      a ++ [.told 1 block c] <+: v.diary ∧ ¬a.Started 1 ∧ a.Late 1 := by
  intro v
  have acts : Lobby.lodge.Acts (Lobby.season Lobby.latecomer (fun _ => return ()) ["a"]) :=
    Lobby.season_acts Lobby.latecomer_operates (fun _ => .done ()) ["a"]
  obtain ⟨told, -⟩ :=
    told_only_when_ready acts (w := {}) rfl rfl v (Program.run_mem_visited _ _)
  let a : Diary := [.enrolled 0, .asked 0, .enrolled 1, .answered 0 (.ok (.after .root)),
    .told 0 (.ofNat 1) (.after .root), .replied 0 (.ok (some (.after .root)))]
  have before : a ++ [.told 1 (.ofNat 1) (.after .root)] <+: v.diary :=
    ⟨[.replied 1 (.ok (some (.after .root)))], rfl⟩
  have unstarted : ¬a.Started 1 := by
    rintro ⟨a', c, before, -, -⟩
    have mem : Remark.answered 1 (.ok c) ∈ a := before.subset (by simp)
    simp [a] at mem
  exact ⟨a, _, _, before, unstarted, (told a 1 _ _ before).resolve_left unstarted⟩

end LedgerWatch
