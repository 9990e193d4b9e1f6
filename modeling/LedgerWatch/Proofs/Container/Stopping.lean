import LedgerWatch.Proofs.Container.Starting
import LedgerWatch.Proofs.Container.Winding

/-!
# Containers that are stopped

Whatever a container went through, stopping it waits for the end of its worker, tells how the worker
ended, and closes the registry in every case. From then on the container does nothing any more: it
runs no worker, no registration is active, no watcher is told anything, and whatever is asked of it
is refused or without effect (`stops_for_good`). The registry itself stays closed unless a start that
others have begun comes to its end later: a start does not look again whether the registry was closed
meanwhile, and opens it. Even then the registry keeps nothing, and takes nothing.
-/

namespace LedgerWatch

open Relation (ReflTransGen)
open Program (Ends Ensures Within Answers)
open Registry (Operation)

variable {W σ δ α τ : Type} [Inhabited σ] [Inhabited δ]

/-! ### Registries that were closed -/

namespace Registry

variable {r : Registry σ}

/-- A registry that keeps nothing has nothing to forget but its intents. -/
lemma settle_of_empty (empty : r.members = .empty) : r.settle = { r with intents := [] } := by
  have same (hs : List Handle) : hs.foldl forget r = r := by
    induction hs with
    | nil => rfl
    | cons h rest ih =>
      have absent : r.forget h = r := by
        rw [forget, empty]
        exact if_neg nofun
      rw [List.foldl_cons, absent, ih]
  rw [settle, same]

/-- The registry keeps nothing; it is closed, or was opened again since. -/
structure Vacated (reopened : Prop) (r : Registry σ) : Prop where
  phase : r.phase = .closed ∨ reopened ∧ r.phase = .active
  members : r.members = .empty
  intents : r.intents = []
  dead : ∀ h, r.isLive h = false

/-- Nothing is left of a registry that is closed. -/
lemma Sound.vacated (hr : r.Sound) {reopened : Prop} : r.close.Vacated reopened where
  phase := .inl (close_phase r)
  members := by
    obtain ⟨members, -, -, -, -⟩ := foldl_cancel r.settle.members.values
      { r.settle with phase := .closed, members := .empty }
    have empty : r.emptied.members = .empty := members
    rw [close_eq, settle_of_empty empty]
    exact empty
  intents := by rw [close_eq, settle_intents]
  dead h := by
    rw [close_eq, settle_isLive]
    exact hr.isLive_emptied h

/-- How a registry that is not idle refuses. -/
def Refusal (reopened : Prop) (e : RegistryError) : Prop :=
  e = .closed ∨ reopened ∧ e = .alreadyActive

namespace Vacated

variable {reopened : Prop} (hr : r.Vacated reopened)

include hr

/-- A registry that was closed is not idle. -/
lemma busy : r.phase ≠ .idle := by
  obtain closed | ⟨-, active⟩ := hr.phase
  · rw [closed]
    exact nofun
  · rw [active]
    exact nofun

/-- There is nothing to forget. -/
lemma settle_eq : r.settle = r := by
  rw [settle_of_empty hr.members, ← hr.intents]

/-- Opening or closing a registry that keeps nothing leaves it without anything. -/
lemma with_phase {phase : Phase} (may : phase = .closed ∨ reopened ∧ phase = .active) :
    ({ r with phase } : Registry σ).Vacated reopened :=
  ⟨may, hr.members, hr.intents, hr.dead⟩

/-- Closing the registry once more changes at most its phase. -/
lemma close_eq : r.close = { r with phase := .closed } := by
  have same : ({ r with phase := .closed } : Registry σ).Vacated reopened :=
    hr.with_phase (.inl rfl)
  rw [close, hr.settle_eq, hr.members]
  change ({ r with phase := .closed, members := .empty } : Registry σ).settle = _
  rw [← hr.members, same.settle_eq]

/-- A change that leaves the status of a registration alone brings nothing back. -/
lemma amend {f : Registration σ → Registration σ} (same : ∀ reg, (f reg).status = reg.status)
    (h : Handle) : (r.amend h f).Vacated reopened := by
  refine ⟨hr.phase, hr.members, hr.intents, fun k => ?_⟩
  rw [isLive, field_get_amend Registration.status same, ← isLive]
  exact hr.dead k

/-- Only the end of a start opens the registry again. -/
lemma apply {op : Operation σ} (may : op = .finishStart → reopened) :
    (op.apply r).Vacated reopened := by
  cases op with
  | ask => rwa [Operation.apply, hr.settle_eq]
  | register name watcher settings =>
    rw [Operation.apply]
    obtain ⟨-, idle, -, -⟩ | ⟨_, -, e | e⟩ := register_cases name watcher settings r
    · exact absurd idle hr.busy
    · rwa [e]
    · rwa [e, hr.settle_eq]
  | remove name =>
    rw [Operation.apply]
    obtain ⟨-, e⟩ | ⟨h, kept, -⟩ := remove_cases name r
    · rwa [e, hr.settle_eq]
    · rw [hr.settle_eq, hr.members] at kept
      cases kept
  | close =>
    rw [Operation.apply, hr.close_eq]
    exact hr.with_phase (.inl rfl)
  | cancel h => rwa [Operation.apply, cancel_of_dead (hr.dead h)]
  | setCriteria h c =>
    exact hr.amend (f := fun reg => { reg with criteria := c }) (fun _ => rfl) h
  | setBusy h busy => exact hr.amend (f := fun reg => { reg with busy }) (fun _ => rfl) h
  | release h watcher =>
    exact hr.amend (f := fun reg => { reg with watcher, busy := false }) (fun _ => rfl) h
  | beginStart => rwa [Operation.apply, beginStart_snd, hr.settle_eq]
  | beginNotify => rwa [Operation.apply, beginNotify_snd, hr.settle_eq]
  | finishStart =>
    rw [Operation.apply, finishStart, hr.settle_eq]
    exact hr.with_phase (.inr ⟨may rfl, rfl⟩)

/-- Whatever asks for an idle registry is refused. -/
lemma checkIdle_eq : ∃ e, Refusal reopened e ∧ r.checkIdle = .error e := by
  obtain closed | ⟨opened, active⟩ := hr.phase
  · exact ⟨.closed, .inl rfl, by rw [checkIdle, closed]⟩
  · exact ⟨.alreadyActive, .inr ⟨opened, rfl⟩, by rw [checkIdle, active]⟩

/-- A registration under a name that is not empty is refused. -/
lemma register_fst {name : String} (named : name.isEmpty = false) (watcher : σ)
    (settings : Settings) : ∃ e, Refusal reopened e ∧
      (r.register name watcher settings).1 = .error e := by
  obtain ⟨e, refusal, refused⟩ := hr.checkIdle_eq
  exact ⟨e, refusal, by simp [register, named, hr.settle_eq, refused]⟩

/-- A start is refused. -/
lemma beginStart_fst : ∃ e, Refusal reopened e ∧ r.beginStart.1 = .error e := by
  obtain ⟨e, refusal, refused⟩ := hr.checkIdle_eq
  exact ⟨e, refusal, by simp [beginStart, hr.settle_eq, refused]⟩

/-- A notification is refused, or it goes through no registration. -/
lemma beginNotify_fst : r.beginNotify.1 = .ok [] ∨ r.beginNotify.1 = .error .notActive := by
  rw [Registry.beginNotify_fst, hr.settle_eq, hr.members]
  split
  · exact .inl rfl
  · exact .inr rfl

end Vacated

end Registry

/-! ### What a container that was stopped does -/

namespace Container

variable {c : Container W σ δ} {others : W → W → Prop} {reopened : Prop} {told : W → τ} {x : τ}
  {s s' : Scene W}

/-- Neither others nor operations on the registry change what watchers were told. -/
structure Unheard (c : Container W σ δ) (others : W → W → Prop) (told : W → τ) : Prop where
  others : ∀ w v, others w v → told v = told w
  registry : ∀ r w, told (c.site.registry.set r w) = told w

/-- Nobody is at work, the registry keeps nothing, and what watchers were told is as given. -/
structure Shut (c : Container W σ δ) (reopened : Prop) (told : W → τ) (x : τ) (s : Scene W) :
    Prop where
  staffed : c.Staffed none s
  running : c.running.get s.1 = none
  registry : (c.site.registry.get s.1).Vacated reopened
  told : told s.1 = x

/-- An answer with which a container passes on that its registry refused. -/
def Refused (reopened : Prop) (answer : Except HostError α) : Prop :=
  ∃ e, Registry.Refusal reopened e ∧ answer = .error (.registry e)

section

variable (h : c.Surrounded (fun _ => True) others)
  (may : ∀ w v, others w v → c.Outside (fun op => op = .finishStart → reopened) w v)
  (unheard : c.Unheard others told)

include h may unheard

/-- Nothing that happens meanwhile brings anything back. -/
lemma Shut.meanwhile (hs : c.Shut reopened told x s) (step : c.Meanwhile others s s') :
    c.Shut reopened told x s' := by
  refine ⟨hs.staffed.meanwhile h step, (hs.staffed.running h step).trans hs.running, ?_, ?_⟩
  -- nobody is at work, so that a step that changes anything is one of the others
  all_goals
    obtain ⟨step, -⟩ | same | ⟨k, none, -, -⟩ := hs.staffed.meanwhile_cases h step
  · obtain same | ⟨op, finishes, same⟩ := (may _ _ step).registry
    · exact same ▸ hs.registry
    · exact same ▸ hs.registry.apply finishes
  · exact same ▸ hs.registry
  · cases none
  · exact (unheard.others _ _ step).trans hs.told
  · exact same ▸ hs.told
  · cases none

/-- Nothing that happens meanwhile brings anything back, however much of it there is. -/
lemma Shut.rest (hs : c.Shut reopened told x s)
    (rest : ReflTransGen (c.Meanwhile others) s s') : c.Shut reopened told x s' :=
  Program.kept (I := c.Shut reopened told x)
    (fun _ _ step hs => hs.meanwhile h may unheard step) hs rest

omit may in
/-- Nor do operations on the registry, the end of a start apart. -/
lemma Shut.operate (hs : c.Shut reopened told x s) {op : Operation σ}
    (finishes : op = .finishStart → reopened) :
    c.Shut reopened told x
      (c.site.registry.set (op.apply (c.site.registry.get s.1)) s.1, s.2) where
  staffed := hs.staffed.outside (h.operate op s.1)
  running := (h.registry_running.right _ s.1).trans hs.running
  registry := by
    rw [Part.get_set]
    exact hs.registry.apply finishes
  told := (unheard.registry _ s.1).trans hs.told

/-- An operation is answered, and then nothing else is done. -/
lemma Shut.act (hs : c.Shut reopened told x s) (op : Operation σ)
    (finishes : op = .finishStart → reopened) {f : Registry σ → α × Registry σ}
    (hf : ∀ r, (f r).2 = op.apply r) {P : α → Prop}
    (answers : ∀ r, r.Vacated reopened → P (f r).1) :
    (Program.act c.site.registry f).beside.Ensures (c.Meanwhile others) s fun a s' =>
      c.Shut reopened told x s' ∧ P a := by
  refine Ensures.step fun v rest => Ensures.done fun u rest' => ?_
  have shut := hs.rest h may unheard rest
  have operated := shut.operate h unheard finishes
  rw [← hf] at operated
  exact ⟨operated.rest h may unheard rest', answers _ shut.registry⟩

/-- A watcher that could be registered is refused. -/
lemma Shut.register (hs : c.Shut reopened told x s) (name : String) (properties : Properties) :
    (c.register name properties).beside.Ensures (c.Meanwhile others) s fun a s' =>
      c.Shut reopened told x s' ∧ ∀ found, c.catalog.configure name properties = .ok found →
        name.isEmpty = false → Refused reopened a := by
  unfold Container.register
  cases c.catalog.configure name properties with
  | error e => exact .done fun u rest => ⟨hs.rest h may unheard rest, nofun⟩
  | ok found =>
    obtain ⟨kind, settings⟩ := found
    have answered := hs.act h may unheard (.register name kind.fresh settings) nofun
      (f := Registry.register name kind.fresh settings) (fun _ => rfl)
      (P := fun a => name.isEmpty = false → ∃ e, Registry.Refusal reopened e ∧ a = .error e)
      fun r hr named => hr.register_fst named kind.fresh settings
    refine Ensures.beside_bind (answered.mono fun a s' answered => ?_)
    obtain ⟨shut, refused⟩ := answered
    cases a with
    | error e =>
      refine .done fun u rest => ⟨shut.rest h may unheard rest, fun _ _ named => ?_⟩
      obtain ⟨e, refusal, same⟩ := refused named
      cases same
      exact ⟨e, refusal, rfl⟩
    | ok handle =>
      refine .done fun u rest => ⟨shut.rest h may unheard rest, fun _ _ named => ?_⟩
      obtain ⟨e, -, same⟩ := refused named
      cases same

/-- Registrations one after another bring nothing back. -/
lemma Shut.registerEach (hs : c.Shut reopened told x s) (properties : Properties)
    (names : List String) :
    (c.registerEach properties names).beside.Ensures (c.Meanwhile others) s fun _ s' =>
      c.Shut reopened told x s' := by
  induction names generalizing s with
  | nil => exact .done fun u rest => hs.rest h may unheard rest
  | cons name rest ih =>
    refine Ensures.beside_bind ((hs.register h may unheard name properties).mono
      fun answer s' registered => ?_)
    cases answer with
    | error e => exact .done fun u rest => registered.1.rest h may unheard rest
    | ok handle =>
      refine Ensures.beside_bind ((ih registered.1).mono fun answer s' shut => ?_)
      cases answer <;> exact .done fun u rest => shut.rest h may unheard rest

/-- A start is refused before any watcher is asked for anything. -/
lemma Shut.site_start (hs : c.Shut reopened told x s) :
    c.site.start.beside.Ensures (c.Meanwhile others) s fun a s' =>
      c.Shut reopened told x s' ∧ ∃ e, Registry.Refusal reopened e ∧ a = .error e := by
  have answered := hs.act h may unheard .beginStart nofun (f := Registry.beginStart)
    (fun _ => rfl) (P := fun a => ∃ e, Registry.Refusal reopened e ∧ a = .error e)
    fun r hr => hr.beginStart_fst
  refine Ensures.beside_bind (answered.mono fun a s' answered => ?_)
  obtain ⟨shut, e, refusal, rfl⟩ := answered
  exact .done fun u rest => ⟨shut.rest h may unheard rest, e, refusal, rfl⟩

/-- A notification tells no watcher about the block. -/
lemma Shut.site_notify (hs : c.Shut reopened told x s) (b : Block) :
    (c.site.notify b).beside.Ensures (c.Meanwhile others) s fun _ s' =>
      c.Shut reopened told x s' := by
  have answered := hs.act h may unheard .beginNotify nofun (f := Registry.beginNotify)
    (fun _ => rfl) (P := fun a => a = .ok [] ∨ a = .error .notActive)
    fun r hr => hr.beginNotify_fst
  refine Ensures.beside_bind (answered.mono fun a s' answered => ?_)
  obtain ⟨shut, rfl | rfl⟩ := answered
  · exact .done fun u rest => shut.rest h may unheard rest
  · exact .done fun u rest => shut.rest h may unheard rest

/-- A start of the container is refused before anyone is hired. -/
lemma Shut.start (hs : c.Shut reopened told x s) :
    c.start.beside.Ensures (c.Meanwhile others) s fun a s' =>
      c.Shut reopened told x s' ∧ Refused reopened a := by
  refine Ensures.beside_bind ((hs.site_start h may unheard).mono fun a s' refused => ?_)
  obtain ⟨shut, e, refusal, rfl⟩ := refused
  exact .done fun u rest => ⟨shut.rest h may unheard rest, e, refusal, rfl⟩

/-- A further stop closes the registry if it was opened again, and does nothing else. -/
lemma Shut.stop (hs : c.Shut reopened told x s) :
    c.stop.beside.Ensures (c.Meanwhile others) s fun a s' =>
      c.Shut reopened told x s' ∧ a = .ok () ∧
        (¬reopened → ReflTransGen (c.Meanwhile others) s s') := by
  refine Ensures.step fun v first => ?_
  have shut := hs.rest h may unheard first
  have same : (c.running.set none v.1, v.2) = v := by
    rw [← shut.running, h.running_set]
  simp only [Program.bind, shut.running, same]
  refine Ensures.step fun u second => ?_
  have shut := shut.rest h may unheard second
  have finishes : (Operation.close : Operation σ) = .finishStart → reopened := by
    intro same
    cases same
  have closed := shut.operate h unheard finishes
  refine .done fun t third => ⟨closed.rest h may unheard third, rfl, fun never => ?_⟩
  have phase : (c.site.registry.get u.1).phase = .closed :=
    shut.registry.phase.resolve_right fun opened => never opened.1
  have same : (c.site.registry.modify Registry.close u.1, u.2) = u := by
    rw [Part.modify, shut.registry.close_eq, ← phase, h.registry_set]
  rw [same] at third
  exact (first.trans second).trans third

/-- No command to the site brings anything back. -/
lemma Shut.obey (hs : c.Shut reopened told x s) (command : Site.Command σ) :
    (c.site.obey command).beside.Ensures (c.Meanwhile others) s fun _ s' =>
      c.Shut reopened told x s' := by
  have operation (op : Operation σ) (finishes : op = .finishStart → reopened)
      {f : Registry σ → Registry σ} (hf : ∀ r, f r = op.apply r) :
      (Program.modify c.site.registry f).beside.Ensures (c.Meanwhile others) s fun _ s' =>
        c.Shut reopened told x s' :=
    (hs.act h may unheard op finishes (f := fun r => ((), f r)) hf (P := fun _ => True)
      fun _ _ => trivial).mono fun _ _ => And.left
  cases command with
  | register name watcher settings =>
    exact operation (.register name watcher settings) nofun fun _ => rfl
  | start =>
    refine Ensures.beside_bind ((hs.site_start h may unheard).mono fun _ s' refused => ?_)
    exact .done fun u rest => refused.1.rest h may unheard rest
  | notify b =>
    refine Ensures.beside_bind ((hs.site_notify h may unheard b).mono fun _ s' shut => ?_)
    exact .done fun u rest => shut.rest h may unheard rest
  | remove name => exact operation (.remove name) nofun fun _ => rfl
  | close => exact operation .close nofun fun _ => rfl
  | cancel h => exact operation (.cancel h) nofun fun _ => rfl
  | setCriteria h c => exact operation (.setCriteria h c) nofun fun _ => rfl
  | query => exact operation .ask nofun fun _ => rfl

/-- Whatever is asked of a container that was stopped, it stays so. -/
lemma Shut.heed (hs : c.Shut reopened told x s) (order : Order σ) :
    (c.heed order).beside.Ensures (c.Meanwhile others) s fun _ s' =>
      c.Shut reopened told x s' := by
  have dropped {β : Type} {p : Program W β}
      (hp : p.beside.Ensures (c.Meanwhile others) s fun _ s' => c.Shut reopened told x s') :
      (p.bind fun _ => .done ()).beside.Ensures (c.Meanwhile others) s fun _ s' =>
        c.Shut reopened told x s' :=
    Ensures.beside_bind (hp.mono fun _ s' shut =>
      .done fun u rest => shut.rest h may unheard rest)
  cases order with
  | register name properties =>
    exact dropped ((hs.register h may unheard name properties).mono fun _ _ => And.left)
  | registerAll properties => exact dropped (hs.registerEach h may unheard properties _)
  | start => exact dropped ((hs.start h may unheard).mono fun _ _ => And.left)
  | stop => exact dropped ((hs.stop h may unheard).mono fun _ _ => And.left)
  | isRunning =>
    refine dropped (.step fun v rest => .done fun u rest' => ?_)
    exact (hs.rest h may unheard rest).rest h may unheard rest'
  | site command => exact hs.obey h may unheard command

/-- Nothing brings anything back, however much happens. -/
lemma Shut.steps (hs : c.Shut reopened told x s)
    (steps : ReflTransGen (c.Step others) s s') : c.Shut reopened told x s' := by
  refine Program.kept (I := c.Shut reopened told x) (fun s s' step hs => ?_) hs steps
  cases step with
  | meanwhile step => exact hs.meanwhile h may unheard step
  | order order ends => exact hs.heed h may unheard order _ _ ends

end

/-- What happens meanwhile opens a closed registry exactly if it is the end of a start. -/
lemma Shut.opened_iff (h : c.Surrounded (fun _ => True) others) (hs : c.Shut reopened told x s)
    (closed : (c.site.registry.get s.1).phase = .closed) (step : c.Meanwhile others s s') :
    (c.site.registry.get s'.1).phase ≠ .closed ↔
      c.site.registry.get s'.1 = (c.site.registry.get s.1).finishStart := by
  constructor
  · intro opened
    obtain ⟨step, -⟩ | same | ⟨k, none, -, -⟩ := hs.staffed.meanwhile_cases h step
    · obtain same | ⟨op, -, same⟩ := (h.others _ _ step).registry
      · exact absurd (same ▸ closed) opened
      · rw [same] at opened ⊢
        obtain ⟨-, -, phase⟩ | ⟨-, finishes, -⟩ | ⟨-, -, phase⟩ :=
          Registry.Deed.phase_cases ⟨c.site.registry.get s.1, op⟩
        · exact absurd phase opened
        · cases op with
          | finishStart => rfl
          | _ => cases finishes
        · exact absurd (phase.trans closed) opened
    · exact absurd (same ▸ closed) opened
    · cases none
  · intro same
    rw [same]
    exact nofun

/-- Once the worker has ended the registry is closed, and nothing is left of the container. -/
lemma stop_shut (h : c.Surrounded (fun _ => True) others) (hs : c.Settled s) :
    c.stop.beside.Ensures (c.Meanwhile others) s fun outcome s' =>
      c.Attended none none s s' ∧ c.Tells s outcome s' ∧
      ∃ v, (∀ (reopened : Prop) {τ : Type} (told : W → τ), c.Shut reopened told (told v.1) v) ∧
        ReflTransGen (c.Meanwhile others) v s' := by
  refine Ensures.beside_bind ((stopWorker_ensures h hs).mono fun outcome s' stopped => ?_)
  obtain ⟨attended, tells⟩ := stopped
  refine Ensures.step fun v rest => .done fun u rest' => ?_
  -- closing the registry changes nothing of what the worker ended with
  have closing : c.Outside (fun _ => True) v.1 (c.site.registry.modify Registry.close v.1) :=
    h.operate .close v.1
  have awaited := attended.rest h rest
  have tells := (tells.rest h attended.staffed rest).outside closing
  have attended := awaited.outside closing
  have vacated {reopened : Prop} :
      (c.site.registry.get (c.site.registry.modify Registry.close v.1)).Vacated reopened := by
    rw [Part.get_modify]
    exact awaited.staffed.sound.vacated
  exact ⟨attended.rest h rest', tells.rest h attended.staffed rest', _,
    fun reopened _ told => ⟨attended.staffed, attended.running, vacated, rfl⟩, rest'⟩

/-! ### What is left -/

/-- However things go on, the program can come to its end, and is refused by the registry. -/
def Declines (reopened : Prop) (E : Scene W → Scene W → Prop)
    (p : Program (Scene W) (Except HostError α)) (s : Scene W) : Prop :=
  (∃ a s', p.Ends E s a s') ∧ p.Ensures E s fun a _ => Refused reopened a

/--
Nobody is at work and no registration is active. A watcher that could be registered is refused, and
so is a start; a further stop succeeds, and all that happens is what happens meanwhile. That is so
of a closed registry; if it may have been opened again, it refuses because it is active, and a
further stop closes it.
-/
structure Over (c : Container W σ δ) (reopened : Prop) (others : W → W → Prop) (s : Scene W) :
    Prop where
  stopped : (c.isRunning.run s.1).1 = false
  finished : ∀ k, (c.crew.worker k s.1).isFinished = true
  phase : (c.site.registry.get s.1).phase = .closed ∨
    reopened ∧ (c.site.registry.get s.1).phase = .active
  cancelled : ∀ h, ((c.site.registry.get s.1).get h).status = .cancelled
  register : ∀ name properties found, c.catalog.configure name properties = .ok found →
    name.isEmpty = false →
    Declines reopened (c.Meanwhile others) (c.register name properties).beside s
  start : Declines reopened (c.Meanwhile others) c.start.beside s
  stop : c.stop.beside.Answers (c.Meanwhile others) s (.ok ())
  unchanged : ¬reopened → c.stop.beside.Ensures (c.Meanwhile others) s fun _ s' =>
    ReflTransGen (c.Meanwhile others) s s'

/-- Nothing is left of a container that was stopped. -/
lemma Shut.is_over (h : c.Surrounded (fun _ => True) others)
    (may : ∀ w v, others w v → c.Outside (fun op => op = .finishStart → reopened) w v)
    (unheard : c.Unheard others told) (hs : c.Shut reopened told x s) :
    c.Over reopened others s where
  stopped := by
    change (c.running.get s.1).isSome = false
    rw [hs.running]
    rfl
  finished k := by
    cases now : (c.crew.worker k s.1).isFinished with
    | true => rfl
    | false => cases (hs.staffed.turns k).sole now
  phase := hs.registry.phase
  cancelled h := by
    have dead := hs.registry.dead h
    rw [Registry.isLive] at dead
    cases status : ((c.site.registry.get s.1).get h).status with
    | active => simp [status] at dead
    | cancelled => rfl
  register name properties found configured named := by
    obtain ⟨kind, settings⟩ := found
    obtain ⟨e, -, refused⟩ := hs.registry.register_fst named kind.fresh settings
    refine ⟨⟨.error (.registry e), (c.site.registry.set ((c.site.registry.get s.1).register name
      kind.fresh settings).2 s.1, s.2), ?_⟩, fun a s' ends =>
      (hs.register h may unheard name properties a s' ends).2 _ configured named⟩
    unfold Container.register
    rw [configured]
    refine .step .refl ?_
    simp only [Program.bind, refused]
    exact .done .refl
  start := by
    obtain ⟨e, -, refused⟩ := hs.registry.beginStart_fst
    refine ⟨⟨.error (.registry e), (c.site.registry.set (c.site.registry.get s.1).beginStart.2 s.1,
      s.2), ?_⟩, fun a s' ends => (hs.start h may unheard a s' ends).2⟩
    refine .step .refl ?_
    simp only [Program.bind, refused]
    exact .done .refl
  stop := ⟨stop_ends_of_none hs.running, fun a s' ends => (hs.stop h may unheard a s' ends).2.1⟩
  unchanged never a s' ends := (hs.stop h may unheard a s' ends).2.2 never

/-- What others do, but for the end of a start. -/
def Unopening (c : Container W σ δ) (others : W → W → Prop) (w v : W) : Prop :=
  others w v ∧ c.Outside (· ≠ .finishStart) w v

end Container

open Container (Scene)

/--
Whatever a container went through, it can be stopped, and the stop tells how the worker ended. From
the moment at which the registry is closed, whatever happens and whatever is asked of the container,
nothing is left of it, and no watcher is told anything that others do not tell it. Only a start that
others finish later opens the registry, and it does so without looking at it again; as long as
nobody finishes one, the registry stays closed.
-/
theorem stops_for_good {c : Container W σ δ} {others : W → W → Prop}
    (h : c.Surrounded (fun _ => True) others) {s : Scene W} (history : c.History others s) :
    c.Stoppable others s ∧
    ∀ outcome s', c.stop.beside.Ends (c.Meanwhile others) s outcome s' →
      (c.running.get s.1 = none → outcome = .ok ()) ∧
      (∀ k, c.running.get s.1 = some k → ∃ ending,
        (c.crew.worker k s'.1).outcome = some ending ∧
        outcome = ending.mapError HostError.ofFault ∧
        ∀ earlier, (c.crew.worker k s.1).outcome = some earlier → earlier = ending) ∧
      ∃ v, (c.site.registry.get v.1).phase = .closed ∧
        ReflTransGen (c.Meanwhile others) v s' ∧
        ∀ t, ReflTransGen (c.Step others) v t →
          c.Over True others t ∧
          (∀ {τ : Type} (told : W → τ), c.Unheard others told → told t.1 = told v.1) ∧
          ((c.site.registry.get t.1).phase = .closed →
            (∀ t', c.Meanwhile others t t' →
              ((c.site.registry.get t'.1).phase ≠ .closed ↔
                c.site.registry.get t'.1 = (c.site.registry.get t.1).finishStart)) ∧
            ∀ u, ReflTransGen (c.Step (c.Unopening others)) t u →
              c.Over False (c.Unopening others) u) := by
  have settled := history.settled h
  refine ⟨history.stoppable h, fun outcome s' ends => ?_⟩
  obtain ⟨attended, tells, v, shut, rest⟩ := Container.stop_shut h settled outcome s' ends
  -- that nothing is left has nothing to do with what watchers were told
  have silent : c.Unheard others fun _ => () := ⟨fun _ _ _ => rfl, fun _ _ => rfl⟩
  have any w v (step : others w v) : c.Outside (fun op => op = .finishStart → True) w v :=
    (h.others w v step).mono fun _ _ _ => trivial
  refine ⟨tells.nobody, fun k noted => ?_, v, ?_, rest, fun t steps => ⟨?_, ?_, ?_⟩⟩
  · obtain ⟨ending, recorded, same⟩ := tells.worker k noted
    refine ⟨ending, recorded, same, fun earlier before => ?_⟩
    have finished : (c.crew.worker k s.1).isFinished = true := by
      rw [Worker.isFinished, before]
      rfl
    rw [attended.ended k finished, before] at recorded
    exact Option.some.inj recorded
  · exact (shut False fun _ => ()).registry.phase.resolve_right And.left
  · exact ((shut True fun _ => ()).steps h any silent steps).is_over h any silent
  · exact fun told unheard => ((shut True told).steps h any unheard steps).told
  · intro closed
    have shut := (shut True fun _ => ()).steps h any silent steps
    refine ⟨fun t' step => shut.opened_iff h closed step, fun u later => ?_⟩
    have shut : c.Shut False (fun _ => ()) () t :=
      ⟨shut.staffed, shut.running, { shut.registry with phase := .inl closed }, rfl⟩
    have surrounded : c.Surrounded (fun _ => True) (c.Unopening others) :=
      { h with others := fun w v step => h.others w v step.1 }
    have silent : c.Unheard (c.Unopening others) fun _ => () := ⟨fun _ _ _ => rfl, fun _ _ => rfl⟩
    have unopening w v (step : c.Unopening others w v) :
        c.Outside (fun op => op = .finishStart → False) w v := step.2
    exact (shut.steps surrounded unopening silent later).is_over surrounded unopening silent

namespace Plant

/-- Time goes by, the store breaks or is mended, or someone does an operation on the registry. -/
def interferes (p q : Plant) : Prop :=
  goesBy p q ∨ ∃ op : Operation Unit, q = { p with registry := op.apply p.registry }

/-- Anything may be done to the registry. -/
lemma surrounded_interferes : container.Surrounded (fun _ => True) interferes where
  __ := surrounded (fun _ _ => trivial)
  others := by
    rintro p q (⟨time, storeFails, rfl⟩ | ⟨op, rfl⟩)
    · exact ⟨.inl rfl, rfl, rfl⟩
    · exact ⟨.inr ⟨op, trivial, rfl⟩, rfl, rfl⟩

/-- A watcher is registered. -/
def enrolled : Plant :=
  ((site.obey (.register "a" () .empty)).run {}).2

/-- The watcher is registered by an order. -/
lemma enrolled_later {others : Plant → Plant → Prop} :
    ReflTransGen (container.Step others) (calm {}) (calm enrolled) :=
  .single (ordered (.site (.register "a" () .empty)) rfl)

/-- The container runs with one watcher. -/
def started : Plant :=
  (container.start.run enrolled).2

/-- The worker has begun. -/
def begun : Plant :=
  { started with workers := started.workers.modify 0 (Worker.commence 0) }

/-- The worker waits for its first tick. -/
def waiting : Scene Plant :=
  (begun, Function.update (fun _ => .done ()) 0
    (container.crew.awaits 0 (container.crew.worker 0 begun).due))

/-- The worker comes to its wait by its own steps. -/
lemma waiting_history {others : Plant → Plant → Prop} : container.History others waiting := by
  have begins : ReflTransGen container.crew.Goes (calm started) waiting := by
    refine .head (.begins (k := 0) rfl rfl) (.head (.steps (k := 0) rfl)
      (.head (.steps (k := 0) rfl) (.head (.steps (k := 0) rfl) ?_)))
    simp only [Function.update_idem]
    exact .refl
  refine ⟨calm {}, ⟨rfl, rfl, rfl, fun _ => rfl⟩, ?_⟩
  refine (enrolled_later.tail (ordered .start rfl)).trans ?_
  exact ReflTransGen.mono (fun _ _ step => .meanwhile (.goes step)) _ _ begins

/-- The first tick is due, and the store breaks. -/
def due : Plant :=
  { begun with clock := 10, storeFails := some (.io "full") }

/-- The worker told the watcher about the block, which the store did not record. -/
def failed : Plant :=
  ((container.crew.react 0).run due).2

/-- The store breaks, and the worker ends in its reaction to the tick. -/
lemma failed_history : container.History interferes (calm failed) := by
  have before : container.History interferes waiting := waiting_history
  obtain ⟨fresh, hfresh, steps⟩ := before
  have breaks : container.Meanwhile interferes waiting (due, waiting.2) :=
    .others (.inl ⟨10, some (.io "full"), rfl⟩)
  have ends : ReflTransGen container.crew.Goes (due, waiting.2) (calm failed) := by
    have goes : ReflTransGen container.crew.Goes _ _ :=
      Crew.Goes.of_through (k := 0) (show (waiting.2 0).through due = some ((), failed) from rfl)
    rw [waiting, Function.update_idem] at goes
    have idle := Function.update_eq_self 0 fun _ : Nat => (Program.done () : Program Plant Unit)
    rwa [idle] at goes
  refine ⟨fresh, hfresh, (steps.tail (.meanwhile breaks)).trans ?_⟩
  exact ReflTransGen.mono (fun _ _ step => .meanwhile (.goes step)) _ _ ends

/-- The container was stopped, and told that the store had failed. -/
def stopped : Plant :=
  (container.stop.run failed).2

/-- Someone has begun to start the watchers. -/
def starting : Plant :=
  { enrolled with registry := enrolled.registry.beginStart.2 }

/-- Someone begins to start the watchers. -/
lemma starting_history : container.History interferes (calm starting) :=
  ⟨calm {}, ⟨rfl, rfl, rfl, fun _ => rfl⟩,
    enrolled_later.tail (.meanwhile (.others (.inr ⟨.beginStart, rfl⟩)))⟩

/-- The container was stopped while the watchers were being started. -/
def stoppedEarly : Plant :=
  (container.stop.run starting).2

/-- The start is finished. -/
def openedLate : Plant :=
  { stoppedEarly with registry := stoppedEarly.registry.finishStart }

/--
A container whose store failed tells so when it is stopped, and the watcher that was told about a
block before is told nothing any more; nothing is left of the container, and its registry stays
closed as long as no start finishes. A container whose worker waits for its tick is stopped well. A
container that is stopped while someone starts its watchers has an active registry in the end.
-/
theorem stops_for_good_without_store :
    container.History interferes (calm failed) ∧
    container.stop.beside.Ends (container.Meanwhile interferes) (calm failed)
      (.error (.poller (.storage (.io "full")))) (calm stopped) ∧
    (∀ t, ReflTransGen (container.Step interferes) (calm stopped) t →
      container.Over True interferes t ∧ t.1.told = 1) ∧
    (∀ u, ReflTransGen (container.Step (container.Unopening interferes)) (calm stopped) u →
      container.Over False (container.Unopening interferes) u) ∧
    container.History interferes waiting ∧
    (∃ s', container.stop.beside.Ends container.crew.Goes waiting (.ok ()) s') ∧
    container.History interferes (calm starting) ∧
    container.stop.beside.Ends (container.Meanwhile interferes) (calm starting) (.ok ())
      (calm stoppedEarly) ∧
    ReflTransGen (container.Step interferes) (calm stoppedEarly) (calm openedLate) ∧
    container.Over True interferes (calm openedLate) ∧
    openedLate.registry.isActive = true := by
  have quiet : container.Unheard interferes Plant.told := by
    refine ⟨?_, fun _ _ => rfl⟩
    rintro p q (⟨time, storeFails, rfl⟩ | ⟨op, rfl⟩) <;> rfl
  have ends : container.stop.beside.Ends (container.Meanwhile interferes) (calm failed)
      (.error (.poller (.storage (.io "full")))) (calm stopped) :=
    .of_through rfl
  have endsEarly : container.stop.beside.Ends (container.Meanwhile interferes) (calm starting)
      (.ok ()) (calm stoppedEarly) :=
    .of_through rfl
  have opens : ReflTransGen (container.Step interferes) (calm stoppedEarly) (calm openedLate) :=
    .single (.meanwhile (.others (.inr ⟨.finishStart, rfl⟩)))
  have later {s t : Scene Plant} (rest : ReflTransGen (container.Meanwhile interferes) s t) :
      ReflTransGen (container.Step interferes) s t :=
    ReflTransGen.mono (fun _ _ => .meanwhile) _ _ rest
  obtain ⟨-, stops⟩ := stops_for_good surrounded_interferes failed_history
  obtain ⟨stoppable, -⟩ := stops_for_good surrounded_interferes waiting_history
  obtain ⟨-, stopsEarly⟩ := stops_for_good surrounded_interferes starting_history
  obtain ⟨-, -, v, -, rest, after⟩ := stops _ _ ends
  obtain ⟨-, -, u, -, restEarly, afterEarly⟩ := stopsEarly _ _ endsEarly
  obtain ⟨-, told, closed⟩ := after (calm stopped) (later rest)
  refine ⟨failed_history, ends, fun t steps => ?_, (closed rfl).2, waiting_history, ?_,
    starting_history, endsEarly, opens, ?_, rfl⟩
  · obtain ⟨past, same, -⟩ := after t ((later rest).trans steps)
    have once : stopped.told = 1 := by decide
    exact ⟨past, (same Plant.told quiet).trans ((told Plant.told quiet).symm.trans once)⟩
  · exact stoppable.attentive 0 rfl rfl (by decide) (.awaits _)
  · exact (afterEarly _ ((later restEarly).trans opens)).1

end Plant

end LedgerWatch
