import LedgerWatch.Proofs.Container.Conduct

/-!
# What the orders of a container come to

Every order leaves a container settled, so it is settled along its whole history. A start that does
not succeed leaves a container without any worker (`start_ensures`); whoever stops the worker waits
for its end and hears of it (`stopWorker_ensures`).
-/

namespace LedgerWatch

open Relation (ReflTransGen)
open Program (Ends Ensures Within)
open Registry (Operation Deed)

variable {W σ δ α : Type} [Inhabited σ] [Inhabited δ]

namespace Container

variable {c : Container W σ δ} {allowed allowed' : Operation σ → Prop} {others : W → W → Prop}
  {k : Nat} {s s' : Scene W} {v : W}

/-! ### What lasts -/

/-- A settled container keeps to something while others act on the registry. -/
structure Lasts (c : Container W σ δ) (allowed : Operation σ → Prop) (others : W → W → Prop)
    (J : Scene W → Prop) : Prop where
  meanwhile : ∀ s s', c.Settled s → c.Meanwhile others s s' → J s → J s'
  outside : ∀ s v, c.Outside allowed s.1 v → J s → J (v, s.2)

/-- What others do leaves a container settled. -/
lemma Settled.outside (hs : c.Settled s) (step : c.Outside allowed s.1 v) :
    c.Settled (v, s.2) := by
  have staffed : c.Staffed (c.running.get s.1) s := hs
  rw [← step.running] at staffed
  exact staffed.outside step

/-- Nobody was hired. -/
structure Vacant (c : Container W σ δ) (s : Scene W) : Prop where
  settled : c.Settled s
  workers : c.crew.workers.get s.1 = []
  running : c.running.get s.1 = none

/-- While the registry is idle nobody was hired. -/
lemma Settled.vacant (hs : c.Settled s) (idle : (c.site.registry.get s.1).phase = .idle) :
    c.Vacant s :=
  ⟨hs, (hs.idle idle).1, (hs.idle idle).2⟩

section

variable (h : c.Surrounded allowed others)

include h

/-- A container stays settled and keeps to what lasts, however much happens meanwhile. -/
lemma Lasts.rest {J : Scene W → Prop} (lasts : c.Lasts allowed' others J) (hs : c.Settled s)
    (hJ : J s) (rest : ReflTransGen (c.Meanwhile others) s s') : c.Settled s' ∧ J s' :=
  Program.kept (I := fun s => c.Settled s ∧ J s)
    (fun _ _ step hs => ⟨hs.1.meanwhile h step, lasts.meanwhile _ _ hs.1 step hs.2⟩) ⟨hs, hJ⟩ rest

/-- Whoever is at work stays the only one, and the registry does not become idle again. -/
lemma Staffed.rest_busy {staff : Option Nat} (hs : c.Staffed staff s)
    (busy : (c.site.registry.get s.1).phase ≠ .idle)
    (rest : ReflTransGen (c.Meanwhile others) s s') :
    c.Staffed staff s' ∧ (c.site.registry.get s'.1).phase ≠ .idle :=
  Program.kept (I := fun s => c.Staffed staff s ∧ (c.site.registry.get s.1).phase ≠ .idle)
    (fun _ _ step hs => ⟨hs.1.meanwhile h step, hs.1.busy h step hs.2⟩) ⟨hs, busy⟩ rest

/-- What lasts is kept by programs that do operations on the registry. -/
lemma Lasts.ensures {J : Scene W → Prop} {p : Program W α} (lasts : c.Lasts allowed' others J)
    (hp : p.Within (c.Outside allowed')) (hs : c.Settled s) (hJ : J s) :
    p.beside.Ensures (c.Meanwhile others) s fun _ s' => c.Settled s' ∧ J s' := by
  refine Ensures.of_within hp.beside (fun s s' step hs => ?_) ?_ ⟨hs, hJ⟩
  · exact lasts.rest h hs.1 hs.2 (.single step)
  · rintro s ⟨v, turns⟩ ⟨step, same⟩ hs
    obtain rfl : turns = s.2 := same
    exact ⟨hs.1.outside step, lasts.outside s v step hs.2⟩

/-- Whatever is done to the registry hires nobody. -/
lemma lasts_vacant (allowed' : Operation σ → Prop) : c.Lasts allowed' others c.Vacant where
  meanwhile s s' hs step hv := by
    refine ⟨hs.meanwhile h step, ?_, (Staffed.running h hs step).trans hv.running⟩
    obtain ⟨step, -⟩ | same | ⟨k, -, unfinished, -⟩ := hs.meanwhile_cases h step
    · exact (h.others _ _ step).workers.trans hv.workers
    · rw [same, hv.workers]
    · have hired := Crew.hired_of_unfinished unfinished
      rw [hv.workers] at hired
      cases hired
  outside s v step hv :=
    ⟨hv.settled.outside step, step.workers.trans hv.workers, step.running.trans hv.running⟩

/-- No operation makes the registry idle again. -/
lemma lasts_busy (allowed' : Operation σ → Prop) :
    c.Lasts allowed' others fun s => (c.site.registry.get s.1).phase ≠ .idle where
  meanwhile _ _ hs step busy := Staffed.busy h hs step busy
  outside _ _ step busy := step.registry.busy busy

omit h in
/-- Two things that last do so together. -/
lemma Lasts.and {J K : Scene W → Prop} (hJ : c.Lasts allowed others J)
    (hK : c.Lasts allowed others K) : c.Lasts allowed others fun s => J s ∧ K s where
  meanwhile s s' hs step both :=
    ⟨hJ.meanwhile s s' hs step both.1, hK.meanwhile s s' hs step both.2⟩
  outside s v step both := ⟨hJ.outside s v step both.1, hK.outside s v step both.2⟩

/-! ### Starting -/

/--
The watchers are started: a failure comes before the registry is opened, and opening it is the last
thing that is done.
-/
lemma site_start_ensures {J K : Scene W → Prop} (lastsJ : c.Lasts allowed others J)
    (lastsK : c.Lasts allowed others K)
    (opens : ∀ s : Scene W, c.Vacant (c.site.registry.modify Registry.finishStart s.1, s.2) →
      K (c.site.registry.modify Registry.finishStart s.1, s.2))
    (hs : c.Settled s) (hJ : J s) :
    c.site.start.beside.Ensures (c.Meanwhile others) s fun answer s' =>
      match answer with
      | .error _ => c.Settled s' ∧ J s'
      | .ok () => c.Vacant s' ∧ (c.site.registry.get s'.1).phase ≠ .idle ∧ K s' := by
  refine Ensures.step fun v rest => ?_
  obtain ⟨settled, hJ⟩ := lastsJ.rest h hs hJ rest
  have step := h.site.operate .beginStart v.1 rfl
  have begun := settled.outside step
  have hJ := lastsJ.outside v _ step hJ
  have answer := Registry.beginStart_fst (c.site.registry.get v.1)
  cases phase : (c.site.registry.get v.1).phase with
  | active =>
    simp only [phase] at answer
    simp only [Program.bind, answer]
    exact .done fun u rest => lastsJ.rest h begun hJ rest
  | closed =>
    simp only [phase] at answer
    simp only [Program.bind, answer]
    exact .done fun u rest => lastsJ.rest h begun hJ rest
  | idle =>
    simp only [phase] at answer
    simp only [Program.bind, answer]
    -- from here on nobody is hired until the registry is open
    have vacant := (lasts_vacant h allowed).outside v _ step (settled.vacant phase)
    have lasts := (lasts_vacant h allowed).and lastsJ
    refine Ensures.beside_bind ((lasts.ensures h (h.site.startAll _) begun ⟨vacant, hJ⟩).mono
      fun answer s' started => ?_)
    obtain ⟨started, vacant, hJ⟩ := started
    cases answer with
    | error e => exact .done fun u rest => lastsJ.rest h started hJ rest
    | ok _ =>
      refine Ensures.step fun v rest => ?_
      have opening := h.operate .finishStart v.1
      have vacant := ((lasts_vacant h allowed).rest h started vacant rest).2
      have opened : c.Vacant (c.site.registry.modify Registry.finishStart v.1, v.2) :=
        ⟨vacant.settled.outside opening, opening.workers.trans vacant.workers,
          opening.running.trans vacant.running⟩
      have lasts := (lasts_vacant h allowed).and ((lasts_busy h allowed).and lastsK)
      refine .done fun u rest => ?_
      refine (lasts.rest h opened.settled ⟨opened, fun idle => ?_, opens v opened⟩ rest).2
      rw [Part.get_modify] at idle
      cases idle

/-- The first worker of a container is hired once the registry is not idle any more. -/
lemma Vacant.hire (hv : c.Vacant s) (busy : (c.site.registry.get s.1).phase ≠ .idle)
    (worker : Worker δ) : c.Staffed (some 0) (c.crew.workers.set [worker] s.1, s.2) := by
  have apart := h.registry_workers.left [worker] s.1
  refine ⟨apart.symm ▸ hv.settled.sound, fun idle => ?_, fun k => ?_⟩
  · exact absurd (apart ▸ idle) busy
  · have done : s.2 k = .done () := (hv.settled.turns k).absent (by
      rw [hv.workers]
      exact Nat.zero_le k)
    rw [show (c.crew.workers.set [worker] s.1, s.2).2 k = .done () from done]
    refine ⟨fun _ => rfl, trivial, fun _ => trivial, fun _ => trivial, fun unfinished => ?_⟩
    have hired := Crew.hired_of_unfinished unfinished
    rw [Part.get_set] at hired
    rw [Nat.lt_one_iff.1 hired]

/--
A start leaves a container settled. If the watchers do not start, what lasts still holds; if the
poller cannot be made, nobody was hired and what the opening of the registry brought about holds.
-/
lemma start_ensures {J K : Scene W → Prop} (lastsJ : c.Lasts allowed others J)
    (lastsK : c.Lasts allowed others K)
    (opens : ∀ s : Scene W, c.Vacant (c.site.registry.modify Registry.finishStart s.1, s.2) →
      K (c.site.registry.modify Registry.finishStart s.1, s.2))
    (hs : c.Settled s) (hJ : J s) :
    c.start.beside.Ensures (c.Meanwhile others) s fun answer s' =>
      c.Settled s' ∧
      ((answer = .ok () ∧ (c.site.registry.get s'.1).phase ≠ .idle) ∨
        (∃ e, answer = .error (.registry e) ∧ J s') ∨
        ∃ e, answer = .error (.poller e) ∧ c.Vacant s' ∧ K s') := by
  refine Ensures.beside_bind ((site_start_ensures h lastsJ lastsK opens hs hJ).mono
    fun answer s' started => ?_)
  cases answer with
  | error e =>
    refine .done fun u rest => ?_
    obtain ⟨settled, hJ⟩ := lastsJ.rest h started.1 started.2 rest
    exact ⟨settled, .inr (.inl ⟨e, rfl, hJ⟩)⟩
  | ok _ =>
    obtain ⟨vacant, opened⟩ := started
    have lasts := (lasts_vacant h allowed).and ((lasts_busy h allowed).and lastsK)
    refine Ensures.beside_bind ((lasts.ensures h (h.pollers c.poller).create vacant.settled
      ⟨vacant, opened⟩).mono fun answer s' made => ?_)
    obtain ⟨settled, held⟩ := made
    cases answer with
    | error e =>
      refine .done fun u rest => ?_
      obtain ⟨settled, vacant, -, hK⟩ := lasts.rest h settled held rest
      exact ⟨settled, .inr (.inr ⟨e, rfl, vacant, hK⟩)⟩
    | ok mark =>
      -- the worker is at work before the container notes that it is
      refine Ensures.step fun v rest => ?_
      obtain ⟨-, vacant, busy, -⟩ := lasts.rest h settled held rest
      simp only [vacant.workers]
      have hired := vacant.hire h busy
        { poller := c.poller, interval := c.interval, mark }
      rw [← h.registry_workers.left [{ poller := c.poller, interval := c.interval, mark }]] at busy
      refine Ensures.step fun u rest => ?_
      obtain ⟨working, busy⟩ := hired.rest_busy h busy rest
      have noted := working.note h (some 0) fun idle => absurd idle busy
      rw [← h.registry_running.left (some 0)] at busy
      refine .done fun x rest => ?_
      have settled : c.Settled (c.running.modify (fun _ => some 0) u.1, u.2) := by
        rw [Settled, Part.get_modify]
        exact noted
      obtain ⟨settled, busy⟩ := (lasts_busy h allowed).rest h settled busy rest
      exact ⟨settled, .inl ⟨rfl, busy⟩⟩

/-! ### Stopping -/

/-- Who is at work and who is noted as running; those who had ended before are as they were. -/
structure Attended (c : Container W σ δ) (staff running : Option Nat) (s s' : Scene W) : Prop where
  staffed : c.Staffed staff s'
  running : c.running.get s'.1 = running
  ended : ∀ k, (c.crew.worker k s.1).isFinished = true →
    c.crew.worker k s'.1 = c.crew.worker k s.1

/-- Whoever is attended stays so, however much happens meanwhile. -/
lemma Attended.rest {staff running : Option Nat} {t t' : Scene W}
    (attended : c.Attended staff running s t) (rest : ReflTransGen (c.Meanwhile others) t t') :
    c.Attended staff running s t' := by
  refine Program.kept (I := c.Attended staff running s) (fun t t' step attended => ?_) attended rest
  refine ⟨attended.staffed.meanwhile h step, ?_, fun k finished => ?_⟩
  · exact (attended.staffed.running h step).trans attended.running
  · have same := attended.ended k finished
    rw [attended.staffed.ended h step (by rw [same, finished]), same]

omit h in
/-- Whoever is attended stays so whatever others do. -/
lemma Attended.outside {staff running : Option Nat} (attended : c.Attended staff running s s')
    (step : c.Outside allowed' s'.1 v) : c.Attended staff running s (v, s'.2) where
  staffed := attended.staffed.outside step
  running := step.running.trans attended.running
  ended k finished := by
    rw [Crew.worker, step.workers, ← Crew.worker, attended.ended k finished]

/-- A signal leaves who is attended as it is. -/
lemma Attended.signalled {staff running : Option Nat}
    (attended : c.Attended staff running s s') (k : Nat) :
    c.Attended staff running s (c.crew.workers.modify
      (fun workers => workers.modify k fun worker => (worker.send true).2) s'.1, s'.2) := by
  refine ⟨attended.staffed.signalled h k, ?_, fun j finished => ?_⟩
  · exact (h.workers_running.right _ s'.1).trans attended.running
  · rw [← attended.ended j finished]
    have finished : (c.crew.worker j s'.1).isFinished = true := attended.ended j finished ▸ finished
    have changed := c.crew.workers.get_modify
      (fun workers => workers.modify k fun worker => (worker.send true).2) s'.1
    by_cases e : k = j
    · subst e
      rcases Crew.worker_cases changed with same | same
      · exact same
      · rw [Worker.send, finished] at same
        exact same
    · exact Crew.worker_of_ne changed e

/-- The container does not know of its worker any more. -/
lemma Attended.released {staff running : Option Nat} (attended : c.Attended staff running s s') :
    c.Attended staff none s (c.running.set none s'.1, s'.2) := by
  refine ⟨attended.staffed.note h none fun _ => rfl, c.running.get_set none s'.1,
    fun k finished => ?_⟩
  rw [Crew.worker, h.workers_running.left, ← Crew.worker, attended.ended k finished]

/-- How a worker ended can be read at any time after that. -/
lemma Staffed.recorded {staff : Option Nat} {ending : Except WorkerFault Unit}
    (hs : c.Staffed staff s) (recorded : (c.crew.worker k s.1).outcome = some ending)
    (rest : ReflTransGen (c.Meanwhile others) s s') :
    (c.crew.worker k s'.1).outcome = some ending := by
  refine (Program.kept (I := fun t => c.Staffed staff t ∧
    (c.crew.worker k t.1).outcome = some ending) (fun t t' step held => ?_) ⟨hs, recorded⟩ rest).2
  refine ⟨held.1.meanwhile h step, ?_⟩
  have finished : (c.crew.worker k t.1).isFinished = true := by
    rw [Worker.isFinished, held.2]
    rfl
  rw [held.1.ended h step finished, held.2]

/-- Whoever waits for the only worker hears how it ended, and then nobody is at work. -/
lemma join_ensures {t : Scene W} (attended : c.Attended (some k) none s t) :
    (c.crew.join k).beside.Ensures (c.Meanwhile others) t fun ending t' =>
      c.Attended none none s t' ∧ (c.crew.worker k t'.1).outcome = some ending := by
  refine Ensures.wait fun v rest finished => Ensures.step fun u rest' => ?_
  have awaited := attended.rest h rest
  -- the only worker has ended by now, and what it ended with can be read at any time after that
  have vacant : c.Attended none none s v :=
    ⟨awaited.staffed.vacant finished, awaited.running, awaited.ended⟩
  obtain ⟨ending, recorded⟩ := Option.isSome_iff_exists.1 finished
  have recorded := vacant.staffed.recorded h recorded rest'
  have vacant := vacant.rest h rest'
  have answer : ((c.crew.workers.get u.1).getD k default).outcome = some ending := recorded
  simp only [Program.bind, Program.pure_eq, answer, Option.getD_some]
  exact .done fun x rest => ⟨vacant.rest h rest, vacant.staffed.recorded h recorded rest⟩

/-- What the container says of its worker is how the worker ended. -/
structure Tells (c : Container W σ δ) (s : Scene W) (outcome : Except HostError Unit)
    (s' : Scene W) : Prop where
  nobody : c.running.get s.1 = none → outcome = .ok ()
  worker : ∀ k, c.running.get s.1 = some k → ∃ ending,
    (c.crew.worker k s'.1).outcome = some ending ∧ outcome = ending.mapError HostError.ofFault

/-- What was told of the worker stays true, however much happens meanwhile. -/
lemma Tells.rest {outcome : Except HostError Unit} {staff : Option Nat} {t t' : Scene W}
    (tells : c.Tells s outcome t) (hs : c.Staffed staff t)
    (rest : ReflTransGen (c.Meanwhile others) t t') : c.Tells s outcome t' := by
  refine ⟨tells.nobody, fun k noted => ?_⟩
  obtain ⟨ending, recorded, same⟩ := tells.worker k noted
  exact ⟨ending, hs.recorded h recorded rest, same⟩

omit h in
/-- What was told of the worker stays true whatever others do. -/
lemma Tells.outside {outcome : Except HostError Unit} (tells : c.Tells s outcome s')
    (step : c.Outside allowed' s'.1 v) : c.Tells s outcome (v, s'.2) := by
  refine ⟨tells.nobody, fun k noted => ?_⟩
  rw [Crew.worker, step.workers, ← Crew.worker]
  exact tells.worker k noted

/-- Whoever stops the worker waits until nobody is at work, and hears how the worker ended. -/
lemma stopWorker_ensures (hs : c.Settled s) :
    c.stopWorker.beside.Ensures (c.Meanwhile others) s fun outcome s' =>
      c.Attended none none s s' ∧ c.Tells s outcome s' := by
  have here : c.Attended (c.running.get s.1) (c.running.get s.1) s s :=
    ⟨hs, rfl, fun _ _ => rfl⟩
  refine Ensures.step fun v rest => ?_
  have attended := here.rest h rest
  have taken := attended.released h
  simp only [Program.bind, attended.running]
  cases running : c.running.get s.1 with
  | none =>
    rw [running] at taken
    refine .done fun u rest => ⟨taken.rest h rest, fun _ => rfl, fun k noted => ?_⟩
    rw [running] at noted
    cases noted
  | some k =>
    rw [running] at taken
    refine Ensures.step fun v rest => ?_
    have signalled := (taken.rest h rest).signalled h k
    refine Ensures.beside_bind (p := c.crew.join k)
      ((join_ensures h signalled).mono fun ending s' joined => ?_)
    obtain ⟨attended, recorded⟩ := joined
    have tells : c.Tells s (ending.mapError HostError.ofFault) s' := by
      refine ⟨fun nobody => ?_, fun j noted => ?_⟩
      · rw [running] at nobody
        cases nobody
      · rw [running] at noted
        cases noted
        exact ⟨ending, recorded, rfl⟩
    cases ending with
    | ok _ =>
      exact .done fun u rest => ⟨attended.rest h rest, tells.rest h attended.staffed rest⟩
    | error fault =>
      exact .done fun u rest => ⟨attended.rest h rest, tells.rest h attended.staffed rest⟩

/-- Stopping leaves a container settled, whose registry is not idle. -/
lemma stop_settled (hs : c.Settled s) :
    c.stop.beside.Ensures (c.Meanwhile others) s fun _ s' =>
      c.Settled s' ∧ (c.site.registry.get s'.1).phase ≠ .idle := by
  refine Ensures.beside_bind ((stopWorker_ensures h hs).mono fun outcome s' stopped => ?_)
  obtain ⟨attended, -⟩ := stopped
  refine Ensures.step fun v rest => .done fun u rest' => ?_
  have attended := attended.rest h rest
  have settled : c.Settled v := by
    rw [Settled, attended.running]
    exact attended.staffed
  refine (lasts_busy h allowed).rest h (settled.outside (h.operate .close v.1))
    (fun idle => ?_) rest'
  rw [Part.get_set, Operation.apply, Registry.close_phase] at idle
  cases idle

/-! ### Histories -/

omit [Inhabited δ] in
/-- A registration is at most an operation on the registry. -/
lemma register_within (name : String) (properties : Properties) :
    (c.register name properties).Within (c.Outside fun _ => True) := by
  unfold Container.register
  cases c.catalog.configure name properties with
  | error e => exact .done _
  | ok found =>
    obtain ⟨kind, settings⟩ := found
    refine Within.bind (fun w => ⟨h.operate (.register name kind.fresh settings) w, trivial⟩)
      fun answer => ?_
    cases answer <;> exact .done _

omit [Inhabited δ] in
/-- Registrations one after another are at most operations on the registry. -/
lemma registerEach_within (properties : Properties) (names : List String) :
    (c.registerEach properties names).Within (c.Outside fun _ => True) := by
  induction names with
  | nil => exact .done _
  | cons name rest ih =>
    refine Within.bind (register_within h name properties) fun answer => ?_
    cases answer with
    | error e => exact .done _
    | ok handle =>
      refine Within.bind ih fun answer => ?_
      cases answer <;> exact .done _

/-- Every order leaves a container settled, and the registry does not become idle. -/
lemma heed_settled (hs : c.Settled s) (order : Order σ) :
    (c.heed order).beside.Ensures (c.Meanwhile others) s fun _ s' =>
      c.Settled s' ∧
        ((c.site.registry.get s.1).phase ≠ .idle → (c.site.registry.get s'.1).phase ≠ .idle) := by
  let busy (t : Scene W) : Prop :=
    (c.site.registry.get s.1).phase ≠ .idle → (c.site.registry.get t.1).phase ≠ .idle
  have lasts (allowed' : Operation σ → Prop) : c.Lasts allowed' others busy :=
    ⟨fun t t' ht step held now => (lasts_busy h allowed').meanwhile t t' ht step (held now),
      fun t v step held now => (lasts_busy h allowed').outside t v step (held now)⟩
  have within {p : Program W Unit} (hp : p.Within (c.Outside fun _ => True)) :
      p.beside.Ensures (c.Meanwhile others) s fun _ s' => c.Settled s' ∧ busy s' :=
    (lasts fun _ => True).ensures h hp hs id
  -- all orders but a start and a stop consist of operations on the registry
  cases order with
  | register name properties =>
    exact within (Within.bind (register_within h name properties) fun _ => .done _)
  | registerAll properties =>
    exact within (Within.bind (registerEach_within h properties _) fun _ => .done _)
  | isRunning =>
    exact within (Within.bind (Within.bind (.look h.site_any.refl _) fun _ => .done _) fun _ =>
      .done _)
  | site command => exact within (h.site_any.obey h.operate command)
  | start =>
    have opens (t : Scene W) : c.Vacant (c.site.registry.modify Registry.finishStart t.1, t.2) →
        busy (c.site.registry.modify Registry.finishStart t.1, t.2) := fun _ _ => by
      rw [Part.get_modify]
      exact nofun
    refine Ensures.beside_bind ((start_ensures h (lasts allowed) (lasts allowed) opens hs id).mono
      fun answer s' started => .done fun u rest => ?_)
    obtain ⟨settled, ⟨-, now⟩ | ⟨-, -, held⟩ | ⟨-, -, -, held⟩⟩ := started
    · exact (lasts allowed).rest h settled (fun _ => now) rest
    · exact (lasts allowed).rest h settled held rest
    · exact (lasts allowed).rest h settled held rest
  | stop =>
    refine Ensures.beside_bind ((stop_settled h hs).mono fun _ s' stopped => .done fun u rest => ?_)
    exact (lasts allowed).rest h stopped.1 (fun _ => stopped.2) rest

/-- Each step leaves a container settled, and a registry that is not idle as such. -/
lemma Settled.step (hs : c.Settled s) (step : c.Step others s s') :
    c.Settled s' ∧
      ((c.site.registry.get s.1).phase ≠ .idle → (c.site.registry.get s'.1).phase ≠ .idle) := by
  cases step with
  | meanwhile step => exact ⟨hs.meanwhile h step, Staffed.busy h hs step⟩
  | order order ends => exact heed_settled h hs order _ _ ends

/-- A container is settled along its whole history. -/
lemma History.settled (history : c.History others s) : c.Settled s := by
  obtain ⟨fresh, hfresh, steps⟩ := history
  exact Program.kept (fun _ _ step hs => (hs.step h step).1) hfresh.settled steps

/-- A registry that is not idle does not become so again. -/
lemma Settled.busy (hs : c.Settled s) (busy : (c.site.registry.get s.1).phase ≠ .idle)
    (steps : ReflTransGen (c.Step others) s s') :
    c.Settled s' ∧ (c.site.registry.get s'.1).phase ≠ .idle :=
  Program.kept (I := fun s => c.Settled s ∧ (c.site.registry.get s.1).phase ≠ .idle)
    (fun _ _ step held => ⟨(held.1.step h step).1, (held.1.step h step).2 held.2⟩)
    ⟨hs, busy⟩ steps

end

end Container

end LedgerWatch
