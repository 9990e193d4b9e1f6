import LedgerWatch.Container.Basic
import LedgerWatch.Proofs.Polling.Shift
import LedgerWatch.Proofs.Registry.Abiding
import LedgerWatch.Proofs.Registry.Closing

/-!
# Containers amid others

A container obeys orders one after another. Meanwhile its workers take their turns, each at its own
pace and in the middle of everything that the container does, a worker may break down at any moment,
and everyone else may do operations on the registry. A scene is the world with what is left of each
worker's turn, and a history is any number of steps from a fresh scene.

Along every history there is at most one worker at work, which is the one that the container runs:
the registry takes a start only while it is idle, and it is not idle any more when a worker is hired
(`History.settled`).
-/

namespace LedgerWatch

open Relation (ReflTransGen)
open Program (Ends Ensures Within)
open Registry (Operation Deed)

variable {W σ δ α : Type} [Inhabited σ] [Inhabited δ]

/-! ### Operations of others -/

namespace Registry

variable {r r' : Registry σ} {allowed allowed' : Operation σ → Prop}

/-- At most one operation was done, and one of those that are allowed. -/
def Touched (allowed : Operation σ → Prop) (r r' : Registry σ) : Prop :=
  r' = r ∨ ∃ op, allowed op ∧ r' = op.apply r

lemma Touched.mono (le : ∀ op, allowed op → allowed' op) (h : Touched allowed r r') :
    Touched allowed' r r' :=
  h.imp_right fun ⟨op, may, same⟩ => ⟨op, le op may, same⟩

/-- A registry that was touched stays sound. -/
lemma Touched.sound (h : Touched allowed r r') (hr : r.Sound) : r'.Sound := by
  obtain rfl | ⟨op, -, rfl⟩ := h
  · exact hr
  · exact hr.apply op

/-- Only closing and the end of a start change the phase. -/
lemma Touched.phase_cases (h : Touched allowed r r') :
    r'.phase = r.phase ∨ (allowed .close ∧ r'.phase = .closed) ∨
      (allowed .finishStart ∧ r'.phase = .active) := by
  obtain rfl | ⟨op, may, rfl⟩ := h
  · exact .inl rfl
  · obtain ⟨closes, -, phase⟩ | ⟨-, finishes, phase⟩ | ⟨-, -, phase⟩ := Deed.phase_cases ⟨r, op⟩
    · cases op with
      | close => exact .inr (.inl ⟨may, phase⟩)
      | _ => cases closes
    · cases op with
      | finishStart => exact .inr (.inr ⟨may, phase⟩)
      | _ => cases finishes
    · exact .inl phase

/-- No operation makes a registry idle. -/
lemma Touched.busy (h : Touched allowed r r') (busy : r.phase ≠ .idle) : r'.phase ≠ .idle := by
  obtain same | ⟨-, closed⟩ | ⟨-, active⟩ := h.phase_cases
  · rwa [same]
  · rw [closed]
    exact nofun
  · rw [active]
    exact nofun

end Registry

/-! ### Workers of a crew -/

omit [Inhabited δ] in
/-- A signal ends no worker. -/
lemma Worker.isFinished_send (x : Worker δ) : (x.send true).2.isFinished = x.isFinished := by
  unfold Worker.send
  split <;> rfl

namespace Crew

variable {crew : Crew W δ} {k j : Nat} {w v : W} {f : Worker δ → Worker δ}

/-- Whoever has not ended was hired. -/
lemma hired_of_unfinished (unfinished : (crew.worker k w).isFinished = false) :
    k < (crew.workers.get w).length := by
  refine Nat.lt_of_not_le fun absent => ?_
  rw [Crew.worker, List.getD_eq_getElem?_getD, List.getElem?_eq_none absent] at unfinished
  cases unfinished

/-- A change of one worker leaves the others as they are. -/
lemma worker_of_ne (changed : crew.workers.get v = (crew.workers.get w).modify k f)
    (ne : k ≠ j) : crew.worker j v = crew.worker j w := by
  rw [Crew.worker, Crew.worker, changed, List.getD_eq_getElem?_getD, List.getD_eq_getElem?_getD,
    List.getElem?_modify_ne _ _ ne]

/-- A worker that was changed, unless it was never hired. -/
lemma worker_cases (changed : crew.workers.get v = (crew.workers.get w).modify k f) :
    crew.worker k v = crew.worker k w ∨ crew.worker k v = f (crew.worker k w) := by
  rw [Crew.worker, Crew.worker, changed, List.getD_eq_getElem?_getD, List.getD_eq_getElem?_getD,
    List.getElem?_modify_eq]
  cases (crew.workers.get w)[k]? with
  | none => exact .inl rfl
  | some worker => exact .inr rfl

/-- What a change leaves alone in every worker. -/
lemma field_worker {β : Type} (field : Worker δ → β) (same : ∀ x, field (f x) = field x)
    (changed : crew.workers.get v = (crew.workers.get w).modify k f) (j : Nat) :
    field (crew.worker j v) = field (crew.worker j w) := by
  by_cases ne : k = j
  · subst ne
    rcases worker_cases changed with e | e
    · rw [e]
    · rw [e, same]
  · rw [worker_of_ne changed ne]

end Crew

namespace Container

variable {c : Container W σ δ} {allowed : Operation σ → Prop} {others : W → W → Prop} {k : Nat}
  {w v : W}

/-! ### What everyone does -/

/-- Everyone but the container and its workers does at most an operation on the registry. -/
structure Outside (c : Container W σ δ) (allowed : Operation σ → Prop) (w v : W) : Prop where
  registry : (c.site.registry.get w).Touched allowed (c.site.registry.get v)
  workers : c.crew.workers.get v = c.crew.workers.get w
  running : c.running.get v = c.running.get w

/-- In a turn of a worker its entry may change as well, but for the signal. -/
structure Turning (c : Container W σ δ) (k : Nat) (w v : W) : Prop where
  registry : (c.site.registry.get w).Touched (fun _ => True) (c.site.registry.get v)
  workers : ∃ f : Worker δ → Worker δ, (∀ x, (f x).signal = x.signal) ∧
    c.crew.workers.get v = (c.crew.workers.get w).modify k f
  running : c.running.get v = c.running.get w

/--
The registry, the workers and the note about the running one are separate parts of the world;
watchers, stores, ledgers and everyone else do at most operations on the registry, of those that are
allowed.
-/
structure Surrounded (c : Container W σ δ) (allowed : Operation σ → Prop)
    (others : W → W → Prop) : Prop where
  registry_workers : c.site.registry.Apart c.crew.workers
  registry_running : c.site.registry.Apart c.running
  workers_running : c.crew.workers.Apart c.running
  registry_set : ∀ w, c.site.registry.set (c.site.registry.get w) w = w
  running_set : ∀ w, c.running.set (c.running.get w) w = w
  others : ∀ w v, others w v → c.Outside allowed w v
  site : c.site.Abides (c.Outside allowed)
  pollers : ∀ d, (c.crew.poller d).Abides (c.Outside allowed)

omit [Inhabited δ] in
/-- More operations may be allowed. -/
lemma Outside.mono {allowed' : Operation σ → Prop} (le : ∀ op, allowed op → allowed' op)
    (h : c.Outside allowed w v) : c.Outside allowed' w v :=
  ⟨h.registry.mono le, h.workers, h.running⟩

omit [Inhabited δ] in
/-- Any operation may be allowed. -/
lemma Outside.any (h : c.Outside allowed w v) : c.Outside (fun _ => True) w v :=
  h.mono fun _ _ => trivial

omit [Inhabited δ] in
/-- What others do may happen in the turn of any worker. -/
lemma Outside.turning (h : c.Outside allowed w v) (k : Nat) : c.Turning k w v where
  registry := h.any.registry
  workers := ⟨id, fun _ => rfl, by rw [List.modify_id, h.workers]⟩
  running := h.running

namespace Surrounded

variable (h : c.Surrounded allowed others)

include h

omit [Inhabited δ] in
/-- An operation on the registry is something that others do. -/
lemma operate (op : Operation σ) (w : W) :
    c.Outside (fun _ => True) w (c.site.registry.set (op.apply (c.site.registry.get w)) w) where
  registry := .inr ⟨op, trivial, c.site.registry.get_set _ w⟩
  workers := h.registry_workers.right _ w
  running := h.registry_running.right _ w

omit [Inhabited δ] in
/-- A site does at most operations on its registry. -/
lemma site_any : c.site.Abides (c.Outside fun _ => True) :=
  h.site.mono fun _ _ => Outside.any

omit [Inhabited δ] in
/-- A change of a worker that leaves its signal alone may happen in its turn. -/
lemma turning {f : Worker δ → Worker δ} (same : ∀ x, (f x).signal = x.signal) (k : Nat) (w : W) :
    c.Turning k w (c.crew.workers.modify (fun workers => workers.modify k f) w) where
  registry := .inl (h.registry_workers.left _ w)
  workers := ⟨f, same, c.crew.workers.get_modify _ w⟩
  running := h.workers_running.right _ w

/-- The turn of a worker keeps to what may happen in it. -/
lemma turn_turning (k : Nat) : (c.crew.turn k).Within (c.Turning k) :=
  Crew.turn_within (fun w => (h.site.refl w).turning k)
    (fun _ amends w => h.turning amends.signal k w)
    fun d => (h.pollers d).mono fun _ _ outside => outside.turning k

/-- Once the worker has ended, nothing comes of what is left of its turn. -/
lemma tidy_turn (k : Nat) : c.crew.Tidy k (c.crew.turn k) :=
  Crew.tidy_turn fun d => (h.pollers d).mono fun _ _ => Outside.workers

end Surrounded

/-! ### Scenes -/

/-- A world with what is left of the turn of each worker. -/
abbrev Scene (W : Type) := W × (Nat → Program W Unit)

/-- What happens meanwhile: others act, workers go on, and a worker may break down. -/
inductive Meanwhile (c : Container W σ δ) (others : W → W → Prop) : Scene W → Scene W → Prop where
  | others {w v : W} {turns : Nat → Program W Unit} :
    others w v →
    Meanwhile c others (w, turns) (v, turns)
  | goes {s s' : Scene W} :
    c.crew.Goes s s' →
    Meanwhile c others s s'
  | breaks {w : W} {turns : Nat → Program W Unit} {k : Nat} :
    (c.crew.worker k w).isFinished = false →
    Meanwhile c others (w, turns)
      (c.crew.workers.modify (fun workers => workers.modify k (Worker.finish (.error .panicked))) w,
        Function.update turns k (.done ()))

/-- What can be asked of a container, and of its registry. -/
inductive Order (σ : Type) where
  | register (name : String) (properties : Properties)
  | registerAll (properties : Properties)
  | start
  | stop
  | isRunning
  | site (command : Site.Command σ)

/-- Does what is asked for; the answer is dropped. -/
def heed (c : Container W σ δ) : Order σ → Program W Unit
  | .register name properties => do
    let _ ← c.register name properties
  | .registerAll properties => do
    let _ ← c.registerAll properties
  | .start => do
    let _ ← c.start
  | .stop => do
    let _ ← c.stop
  | .isRunning => do
    let _ ← c.isRunning
  | .site command => c.site.obey command

/-- What others and the workers do, or an order from its beginning to its end. -/
inductive Step (c : Container W σ δ) (others : W → W → Prop) : Scene W → Scene W → Prop where
  | meanwhile {s s' : Scene W} :
    c.Meanwhile others s s' →
    Step c others s s'
  | order {s s' : Scene W} (order : Order σ) :
    (c.heed order).beside.Ends (c.Meanwhile others) s () s' →
    Step c others s s'

/-- Nothing was registered and nobody was hired. -/
structure Fresh (c : Container W σ δ) (s : Scene W) : Prop where
  registry : c.site.registry.get s.1 = {}
  workers : c.crew.workers.get s.1 = []
  running : c.running.get s.1 = none
  turns : ∀ k, s.2 k = .done ()

/-- A scene that a container can come to. -/
def History (c : Container W σ δ) (others : W → W → Prop) (s : Scene W) : Prop :=
  ∃ fresh, c.Fresh fresh ∧ ReflTransGen (c.Step others) fresh s

/-! ### At most one worker -/

/--
What is left of the turn of a worker belongs to such a turn, and nothing comes of it once the worker
has ended. Nobody but the given worker is at work.
-/
structure Attends (c : Container W σ δ) (staff : Option Nat) (k : Nat) (w : W)
    (turn : Program W Unit) : Prop where
  absent : (c.crew.workers.get w).length ≤ k → turn = .done ()
  within : turn.Within (c.Turning k)
  tidy : (c.crew.worker k w).isFinished = false → c.crew.Tidy k turn
  ceases : (c.crew.worker k w).isFinished = true → c.crew.Ceases k turn
  sole : (c.crew.worker k w).isFinished = false → staff = some k

/-- Nobody but the given worker is at work, and while the registry is idle nobody was hired. -/
structure Staffed (c : Container W σ δ) (staff : Option Nat) (s : Scene W) : Prop where
  sound : (c.site.registry.get s.1).Sound
  idle : (c.site.registry.get s.1).phase = .idle →
    c.crew.workers.get s.1 = [] ∧ c.running.get s.1 = none
  turns : ∀ k, c.Attends staff k s.1 (s.2 k)

/-- The container knows of the worker that is at work. -/
def Settled (c : Container W σ δ) (s : Scene W) : Prop :=
  c.Staffed (c.running.get s.1) s

/-- Where nobody was hired there is nobody to know of. -/
lemma Fresh.settled {s : Scene W} (h : c.Fresh s) : c.Settled s where
  sound := by
    rw [h.registry]
    exact .empty
  idle _ := ⟨h.workers, h.running⟩
  turns k := by
    have finished : (c.crew.worker k s.1).isFinished ≠ false := fun unfinished => by
      have hired := Crew.hired_of_unfinished unfinished
      rw [h.workers] at hired
      cases hired
    rw [h.turns k]
    exact ⟨fun _ => rfl, trivial, fun _ => trivial, fun _ => trivial,
      fun unfinished => absurd unfinished finished⟩

namespace Attends

variable {staff : Option Nat} {turn : Program W Unit}

/-- Of the workers it only matters how many there are and which of them have ended. -/
lemma congr (h : c.Attends staff k w turn)
    (length : (c.crew.workers.get v).length = (c.crew.workers.get w).length)
    (same : (c.crew.worker k v).isFinished = (c.crew.worker k w).isFinished) :
    c.Attends staff k v turn :=
  ⟨length ▸ h.absent, h.within, same ▸ h.tidy, same ▸ h.ceases, same ▸ h.sole⟩

end Attends

namespace Staffed

variable {staff : Option Nat} {turns : Nat → Program W Unit} {s s' : Scene W}

/-- Whoever has something left of a turn was hired. -/
lemma hired (hs : c.Staffed staff s) (left : s.2 k ≠ .done ()) :
    k < (c.crew.workers.get s.1).length :=
  Nat.lt_of_not_le fun absent => left ((hs.turns k).absent absent)

/-- Once the only worker has ended nobody is at work. -/
lemma vacant (hs : c.Staffed (some k) s) (finished : (c.crew.worker k s.1).isFinished = true) :
    c.Staffed none s := by
  refine ⟨hs.sound, hs.idle, fun j => ?_⟩
  obtain ⟨absent, within, tidy, ceases, sole⟩ := hs.turns j
  refine ⟨absent, within, tidy, ceases, fun unfinished => ?_⟩
  cases sole unfinished
  rw [finished] at unfinished
  cases unfinished

/-- Nobody is hired and nobody ends, and nobody is running before the registry is opened. -/
lemma aside (hs : c.Staffed staff s)
    (registry : (c.site.registry.get s.1).Touched allowed (c.site.registry.get v))
    (length : (c.crew.workers.get v).length = (c.crew.workers.get s.1).length)
    (finished : ∀ k, (c.crew.worker k v).isFinished = (c.crew.worker k s.1).isFinished)
    (running : (c.site.registry.get s.1).phase = .idle → c.running.get s.1 = none →
      c.running.get v = none) :
    c.Staffed staff (v, s.2) := by
  refine ⟨registry.sound hs.sound, fun idle => ?_, fun k => (hs.turns k).congr length (finished k)⟩
  have before : (c.site.registry.get s.1).phase = .idle :=
    not_not.1 fun busy => registry.busy busy idle
  obtain ⟨nobody, none⟩ := hs.idle before
  refine ⟨List.eq_nil_of_length_eq_zero ?_, running before none⟩
  rw [length, nobody, List.length_nil]

/-- What others do changes nothing about who is at work. -/
lemma outside (hs : c.Staffed staff s) (h : c.Outside allowed s.1 v) : c.Staffed staff (v, s.2) :=
  hs.aside h.registry (by rw [h.workers]) (fun k => by rw [Crew.worker, h.workers, Crew.worker])
    fun _ none => h.running.trans none

/-- A worker takes a step of its turn, and nobody else is at work. -/
lemma advance {turn : Program W Unit} (hs : c.Staffed staff (w, turns))
    (hired : k < (c.crew.workers.get w).length) (step : c.Turning k w v)
    (attends : c.Attends staff k v turn) :
    c.Staffed staff (v, Function.update turns k turn) := by
  obtain ⟨f, -, changed⟩ := step.workers
  -- somebody was hired, so the registry was opened before
  have busy : (c.site.registry.get w).phase ≠ .idle := by
    intro idle
    rw [(hs.idle idle).1] at hired
    cases hired
  refine ⟨step.registry.sound hs.sound, fun idle => absurd idle (step.registry.busy busy),
    fun j => ?_⟩
  by_cases e : j = k
  · subst e
    change c.Attends staff j v (Function.update turns j turn j)
    rwa [Function.update_self]
  · change c.Attends staff j v (Function.update turns k turn j)
    rw [Function.update_of_ne e]
    refine (hs.turns j).congr ?_ (by rw [Crew.worker_of_ne changed (Ne.symm e)])
    rw [changed, List.length_modify]

variable (h : c.Surrounded allowed others)

include h

/-- Workers that go on change nothing about who is at work. -/
lemma goes (hs : c.Staffed staff s) (step : c.crew.Goes s s') : c.Staffed staff s' := by
  have here w k : c.Turning k w w := (h.site.refl w).turning k
  cases step with
  | @begins w turns k unfinished ready =>
    have hired := Crew.hired_of_unfinished unfinished
    refine hs.advance hired (here w k) ⟨fun absent => ?_, h.turn_turning k,
      fun _ => h.tidy_turn k, fun finished => ?_, (hs.turns k).sole⟩
    · exact absurd absent (Nat.not_le.2 hired)
    · rw [finished] at unfinished
      cases unfinished
  | @steps w turns k update next left =>
    have attends : c.Attends staff k w (turns k) := hs.turns k
    have hired : k < (c.crew.workers.get w).length := hs.hired (s := (w, turns)) fun done => by
      have clash := left.symm.trans done
      cases clash
    rw [left] at attends
    cases now : (c.crew.worker k w).isFinished with
    | true =>
      -- nothing comes of a step after the end of the worker
      obtain ⟨same, rest⟩ := attends.ceases now w now
      rw [same]
      refine hs.advance hired (here w k) ⟨fun absent => ?_, (attends.within w).2,
        fun unfinished => ?_, fun _ => rest, attends.sole⟩
      · exact absurd absent (Nat.not_le.2 hired)
      · rw [now] at unfinished
        cases unfinished
    | false =>
      obtain ⟨step, within⟩ := attends.within w
      obtain ⟨ends, goes⟩ := attends.tidy now w now
      obtain ⟨f, -, changed⟩ := step.workers
      refine hs.advance hired step ⟨fun absent => ?_, within, goes, ends,
        fun _ => attends.sole now⟩
      rw [changed, List.length_modify] at absent
      exact absurd absent (Nat.not_le.2 hired)
  | @waited w turns k ready alarm next left now =>
    have attends : c.Attends staff k w (turns k) := hs.turns k
    have hired : k < (c.crew.workers.get w).length := hs.hired (s := (w, turns)) fun done => by
      have clash := left.symm.trans done
      cases clash
    rw [left] at attends
    refine hs.advance hired (here w k) ⟨fun absent => ?_, attends.within, attends.tidy,
      attends.ceases, attends.sole⟩
    exact absurd absent (Nat.not_le.2 hired)

/-- Nothing that happens meanwhile changes who is at work. -/
lemma meanwhile (hs : c.Staffed staff s) (step : c.Meanwhile others s s') :
    c.Staffed staff s' := by
  cases step with
  | others step => exact hs.outside (h.others _ _ step)
  | goes step => exact hs.goes h step
  | @breaks w turns k unfinished =>
    exact hs.advance (Crew.hired_of_unfinished unfinished)
      (h.turning (f := Worker.finish _) (fun _ => rfl) k w)
      ⟨fun _ => rfl, trivial, fun _ => trivial, fun _ => trivial,
        fun _ => (hs.turns k).sole unfinished⟩

/-- What the container notes down has nothing to do with who is at work. -/
lemma note (hs : c.Staffed staff s) (running : Option Nat)
    (idle : (c.site.registry.get s.1).phase = .idle → running = none) :
    c.Staffed staff (c.running.set running s.1, s.2) := by
  have workers := h.workers_running.left running s.1
  refine hs.aside (.inl (h.registry_running.left running s.1) : Registry.Touched allowed _ _)
    (by rw [workers]) (fun k => by rw [Crew.worker, workers, Crew.worker]) fun before _ => ?_
  rw [Part.get_set]
  exact idle before

/-- A signal changes nothing about who is at work. -/
lemma signalled (hs : c.Staffed staff s) (k : Nat) :
    c.Staffed staff (c.crew.workers.modify
      (fun workers => workers.modify k fun worker => (worker.send true).2) s.1, s.2) := by
  refine hs.aside (.inl (h.registry_workers.left _ s.1) : Registry.Touched allowed _ _) ?_
    (Crew.field_worker Worker.isFinished Worker.isFinished_send (c.crew.workers.get_modify _ s.1))
    fun _ none => (h.workers_running.right _ s.1).trans none
  rw [Part.get_modify, List.length_modify]

/-- What happens meanwhile is what others do, or it belongs to a worker that is at work. -/
lemma meanwhile_cases (hs : c.Staffed staff s) (step : c.Meanwhile others s s') :
    (others s.1 s'.1 ∧ s'.2 = s.2) ∨ s'.1 = s.1 ∨
    ∃ k, staff = some k ∧ (c.crew.worker k s.1).isFinished = false ∧ c.Turning k s.1 s'.1 := by
  cases step with
  | others step => exact .inl ⟨step, rfl⟩
  | @breaks w turns k unfinished =>
    exact .inr (.inr ⟨k, (hs.turns k).sole unfinished, unfinished,
      h.turning (f := Worker.finish _) (fun _ => rfl) k w⟩)
  | goes step =>
    cases step with
    | begins => exact .inr (.inl rfl)
    | waited => exact .inr (.inl rfl)
    | @steps w turns k update next left =>
      have attends : c.Attends staff k w (turns k) := hs.turns k
      rw [left] at attends
      cases now : (c.crew.worker k w).isFinished with
      | true => exact .inr (.inl (attends.ceases now w now).1)
      | false => exact .inr (.inr ⟨k, attends.sole now, now, (attends.within w).1⟩)

/-- What the container has noted down stays, whatever happens meanwhile. -/
lemma running (hs : c.Staffed staff s) (step : c.Meanwhile others s s') :
    c.running.get s'.1 = c.running.get s.1 := by
  obtain ⟨step, -⟩ | same | ⟨k, -, -, step⟩ := hs.meanwhile_cases h step
  · exact (h.others _ _ step).running
  · rw [same]
  · exact step.running

/-- A registry that is not idle does not become so meanwhile. -/
lemma busy (hs : c.Staffed staff s) (step : c.Meanwhile others s s')
    (busy : (c.site.registry.get s.1).phase ≠ .idle) :
    (c.site.registry.get s'.1).phase ≠ .idle := by
  obtain ⟨step, -⟩ | same | ⟨k, -, -, step⟩ := hs.meanwhile_cases h step
  · exact (h.others _ _ step).registry.busy busy
  · rwa [same]
  · exact step.registry.busy busy

/-- A worker that has ended stays as it is. -/
lemma ended (hs : c.Staffed staff s) (step : c.Meanwhile others s s')
    (finished : (c.crew.worker k s.1).isFinished = true) :
    c.crew.worker k s'.1 = c.crew.worker k s.1 := by
  obtain ⟨step, -⟩ | same | ⟨j, -, unfinished, step⟩ := hs.meanwhile_cases h step
  · rw [Crew.worker, (h.others _ _ step).workers, Crew.worker]
  · rw [same]
  · obtain ⟨f, -, changed⟩ := step.workers
    refine Crew.worker_of_ne changed fun e => ?_
    rw [e, finished] at unfinished
    cases unfinished

/-- Nobody takes a signal back. -/
lemma signal (hs : c.Staffed staff s) (step : c.Meanwhile others s s') :
    (c.crew.worker k s'.1).signal = (c.crew.worker k s.1).signal := by
  obtain ⟨step, -⟩ | same | ⟨j, -, -, step⟩ := hs.meanwhile_cases h step
  · rw [Crew.worker, (h.others _ _ step).workers, Crew.worker]
  · rw [same]
  · obtain ⟨f, keeps, changed⟩ := step.workers
    exact Crew.field_worker Worker.signal keeps changed k

end Staffed

/-- The container goes on knowing of its worker, whatever happens meanwhile. -/
lemma Settled.meanwhile {s s' : Scene W} (h : c.Surrounded allowed others) (hs : c.Settled s)
    (step : c.Meanwhile others s s') : c.Settled s' := by
  rw [Settled, hs.running h step]
  exact Staffed.meanwhile h hs step

end Container

end LedgerWatch
