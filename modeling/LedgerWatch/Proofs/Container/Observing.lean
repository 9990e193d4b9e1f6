import LedgerWatch.Proofs.Container.Orders

/-!
# What can be observed of a container's registry

In a history everything comes down to operations on the registry: others do them, watchers and hosts
do them, and so do the workers in the middle of their turns. Whatever every operation keeps is
therefore kept along the whole history, also while an order is under way (`Observes.step`).
-/

namespace LedgerWatch

open Relation (ReflTransGen)
open Program (Ensures Within)
open Registry (Operation)

namespace Container

variable {W σ δ : Type} [Inhabited σ] {c : Container W σ δ} {allowed : Operation σ → Prop}
  {others : W → W → Prop} {s s' : Scene W} {w v : W} {I : Registry σ → Prop}

/-- At most one operation is done on the registry. -/
def Touches (c : Container W σ δ) (w v : W) : Prop :=
  (c.site.registry.get w).Touched (fun _ => True) (c.site.registry.get v)

/-- What is left of the turns of workers does at most operations on the registry. -/
def Working (c : Container W σ δ) (s : Scene W) : Prop :=
  ∀ k, (s.2 k).Within c.Touches

/-- Something is true of the registry of a container. -/
structure Observes (c : Container W σ δ) (I : Registry σ → Prop) (s : Scene W) : Prop where
  working : c.Working s
  registry : I (c.site.registry.get s.1)

/-- At the beginning no turn is in progress. -/
lemma Fresh.working (fresh : c.Fresh s) : c.Working s := by
  intro k
  rw [fresh.turns k]
  trivial

/-- Where the registry stays as it is, it is touched at most. -/
lemma Touches.of_same (same : c.site.registry.get v = c.site.registry.get w) :
    c.Touches w v :=
  .inl same

/-- What others do touches the registry at most. -/
lemma Outside.touches (h : c.Outside allowed w v) : c.Touches w v :=
  h.any.registry

/-- What every operation keeps is kept where the registry is touched. -/
lemma Touches.keeps (keeps : ∀ (op : Operation σ) r, I r → I (op.apply r))
    (step : c.Touches w v) (hI : I (c.site.registry.get w)) :
    I (c.site.registry.get v) := by
  obtain same | ⟨op, -, same⟩ := step
  · rwa [same]
  · rw [same]
    exact keeps op _ hI

section

variable [Inhabited δ] (h : c.Surrounded allowed others)

include h

/-- Orders do operations on the registry, and what they do besides leaves it alone. -/
lemma heed_touches (order : Order σ) : (c.heed order).Within c.Touches := by
  have outside {β : Type} {p : Program W β} (hp : p.Within (c.Outside fun _ => True)) :
      p.Within c.Touches :=
    hp.mono fun _ _ => Outside.touches
  have hire (workers : List (Worker δ)) (w : W) : c.Touches w (c.crew.workers.set workers w) :=
    .of_same (h.registry_workers.left _ w)
  have note (running : Option Nat) (w : W) : c.Touches w (c.running.set running w) :=
    .of_same (h.registry_running.left _ w)
  cases order with
  | register name properties =>
    exact Within.bind (outside (register_within h name properties)) fun _ => .done _
  | registerAll properties =>
    exact Within.bind (outside (registerEach_within h properties _)) fun _ => .done _
  | isRunning =>
    exact Within.bind (Within.bind (.look (fun _ => .of_same rfl) _) fun _ => .done _) fun _ =>
      .done _
  | site command => exact outside (h.site_any.obey h.operate command)
  | start =>
    refine Within.bind ?_ fun _ => .done _
    refine Within.bind (outside (h.site_any.begin (h.operate .finishStart))) fun answer => ?_
    cases answer with
    | error e => exact .done _
    | ok _ =>
      have create := (h.pollers c.poller).create
      refine Within.bind (create.mono fun _ _ => Outside.touches) fun answer => ?_
      cases answer with
      | error e => exact .done _
      | ok mark =>
        refine Within.bind (p := c.crew.hire _) (fun w => ⟨hire _ w, trivial⟩) fun worker => ?_
        exact Within.bind (.modify note _) fun _ => .done _
  | stop =>
    refine Within.bind ?_ fun _ => .done _
    refine Within.bind ?_ fun _ => ?_
    · refine Within.bind (fun w => ⟨note _ w, trivial⟩) fun running => ?_
      cases running with
      | none => exact .done _
      | some worker =>
        refine Within.bind (p := c.crew.signal _ _) (fun w => ⟨hire _ w, trivial⟩) fun _ => ?_
        refine Within.bind (p := c.crew.join _) ?_ fun ending => ?_
        · exact Within.bind (p := Program.look _) (.look (fun _ => .of_same rfl) _) fun _ =>
            .done _
        · cases ending <;> exact .done _
    · exact Within.bind (fun w => ⟨(h.operate .close w).touches, trivial⟩) fun _ => .done _

variable (keeps : ∀ (op : Operation σ) r, I r → I (op.apply r))

include keeps

/-- What every operation keeps stays true of the registry meanwhile. -/
lemma Observes.meanwhile (obs : c.Observes I s) (step : c.Meanwhile others s s') :
    c.Observes I s' := by
  have update {w v : W} {turns : Nat → Program W Unit} {k : Nat} {turn : Program W Unit}
      (obs : c.Observes I (w, turns)) (step : c.Touches w v) (turn_within : turn.Within c.Touches) :
      c.Observes I (v, Function.update turns k turn) := by
    refine ⟨fun j => ?_, step.keeps keeps obs.registry⟩
    by_cases same : j = k
    · subst same
      simpa using turn_within
    · simpa [same] using obs.working j
  cases step with
  | others step => exact ⟨obs.working, (h.others _ _ step).touches.keeps keeps obs.registry⟩
  | @breaks w turns k =>
    exact update obs (.of_same (h.registry_workers.left _ w)) trivial
  | goes step =>
    cases step with
    | @begins w turns k =>
      have turn := (h.turn_turning k).mono fun _ _ step => step.registry
      exact update obs (.of_same rfl) turn
    | @steps w turns k _ _ left =>
      have turn : (turns k).Within c.Touches := obs.working k
      rw [left] at turn
      exact update obs (turn w).1 (turn w).2
    | @waited w turns k _ _ _ left =>
      have turn : (turns k).Within c.Touches := obs.working k
      rw [left] at turn
      exact update obs (.of_same rfl) turn

/-- What every operation keeps stays true of the registry, however much happens meanwhile. -/
lemma Observes.rest (obs : c.Observes I s) (rest : ReflTransGen (c.Meanwhile others) s s') :
    c.Observes I s' :=
  Program.kept (fun _ _ step obs => obs.meanwhile h keeps step) obs rest

/-- What every operation keeps is kept in every step of a history. -/
lemma Observes.step (obs : c.Observes I s) (step : c.Step others s s') : c.Observes I s' := by
  cases step with
  | meanwhile step => exact obs.meanwhile h keeps step
  | order order ends =>
    refine Ensures.of_within (heed_touches h order).beside
      (fun _ _ step obs => obs.meanwhile h keeps step) ?_ obs _ _ ends
    rintro s ⟨v, turns⟩ ⟨step, same⟩ obs
    obtain rfl : turns = s.2 := same
    exact ⟨obs.working, step.keeps keeps obs.registry⟩

end

end Container

end LedgerWatch
