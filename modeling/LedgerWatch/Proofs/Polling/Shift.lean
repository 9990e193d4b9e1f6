import LedgerWatch.Proofs.Polling.Abiding
import LedgerWatch.Proofs.Polling.Turns
import LedgerWatch.Proofs.Program.Through
import Mathlib.Logic.Function.Basic

/-!
# The turns of a crew in progress

The workers of a crew take their turns step by step, each at its own pace: beside the world stands,
for each worker, what is left of the turn that it is in. The turn of a worker changes no entry but
its own (`turn_within`), and once the worker has ended nothing comes of what is left of its turn
(`tidy_turn`). Of each turn in progress it can be said how far it has come (`Legible`), and a worker
that is told to stop does so in its next turn (`turn_winds_up`).
-/

namespace LedgerWatch

open Relation (ReflTransGen)
open Program (Within)

variable {W α β δ : Type} [Inhabited δ]

namespace Crew

variable {crew : Crew W δ} {k : Nat} {R : W → W → Prop} {w v : W}

/-! ### Steps of a turn -/

section

variable (refl : ∀ w, R w w)
  (amend : ∀ f : Worker δ → Worker δ, Worker.Amends f →
    ∀ w, R w (crew.workers.modify (fun workers => workers.modify k f) w))
  (pollers : ∀ d, (crew.poller d).Abides R)

include refl amend pollers

omit [Inhabited δ] in
/-- A tick keeps to what the changes of a worker and its poller keep to. -/
lemma tick_within (worker : Worker δ) : (crew.tick k worker).Within R := by
  have amends {f : Worker δ → Worker δ} (hf : Worker.Amends f) : (crew.amend k f).Within R :=
    fun w => ⟨amend f hf w, trivial⟩
  refine Within.bind (.look refl _) fun now => ?_
  refine Within.bind (amends (.reset now)) fun _ => ?_
  refine Within.bind ((pollers worker.poller).cycle worker.mark) fun result => ?_
  obtain ⟨outcome, mark⟩ := result
  refine Within.bind (amends (.moved mark)) fun _ => ?_
  cases outcome with
  | ok _ => exact .done _
  | error e => exact amends (.finish _)

/-- What the changes of a worker and the programs of its poller keep to, its turns keep to. -/
lemma turn_within : (crew.turn k).Within R := by
  have amends {f : Worker δ → Worker δ} (hf : Worker.Amends f) : (crew.amend k f).Within R :=
    fun w => ⟨amend f hf w, trivial⟩
  refine Within.bind (.look refl _) fun now => ?_
  refine Within.bind (amends (.commence now)) fun _ => ?_
  refine Within.bind (.look refl _) fun workers => ?_
  dsimp only
  split
  · exact .done _
  · split
    · exact amends (.finish _)
    · refine Within.bind (p := Program.waitFor _ _) trivial fun _ => ?_
      refine Within.bind (.look refl _) fun workers => ?_
      dsimp only
      split
      · exact amends .seen
      · split
        · exact amends (.finish _)
        · exact tick_within refl amend pollers _

end

/-! ### The end of a worker -/

/-- Once the worker has ended, nothing comes of the program. -/
def Ceases (crew : Crew W δ) (k : Nat) : Program W α → Prop
  | .done _ => True
  | .step update next => ∀ w, (crew.worker k w).isFinished = true →
    update w = w ∧ crew.Ceases k (next w)
  | .wait _ _ next => crew.Ceases k next

/-- If the worker ends in a step of the program, nothing comes of the rest. -/
def Tidy (crew : Crew W δ) (k : Nat) : Program W α → Prop
  | .done _ => True
  | .step update next => ∀ w, (crew.worker k w).isFinished = false →
    ((crew.worker k (update w)).isFinished = true → crew.Ceases k (next w)) ∧
    ((crew.worker k (update w)).isFinished = false → crew.Tidy k (next w))
  | .wait _ _ next => crew.Tidy k next

omit [Inhabited δ] in
/-- A worker that has not ended has no outcome. -/
lemma outcome_eq_none {worker : Worker δ} (h : worker.isFinished = false) :
    worker.outcome = none :=
  Option.not_isSome_iff_eq_none.1 (Bool.eq_false_iff.1 h)

/-- Programs that do not touch the workers end none of them. -/
lemma Tidy.bind {p : Program W α} {f : α → Program W β}
    (hp : p.Within fun w v => crew.workers.get v = crew.workers.get w)
    (hf : ∀ a, crew.Tidy k (f a)) : crew.Tidy k (p.bind f) := by
  induction p with
  | done a => exact hf a
  | step update next ih =>
    intro w unfinished
    have same : crew.worker k (update w) = crew.worker k w := by
      rw [Crew.worker, (hp w).1, Crew.worker]
    rw [same, unfinished]
    refine ⟨fun ended => ?_, fun _ => ih w (hp w).2⟩
    cases ended
  | wait ready alarm next ih => exact ih hp

/-- A look ends nobody. -/
lemma Tidy.look {S : Type} (part : Part W S) {f : S → Program W β}
    (hf : ∀ a, crew.Tidy k (f a)) : crew.Tidy k ((Program.look part).bind f) :=
  .bind (p := Program.look part) (fun _ => ⟨rfl, trivial⟩) hf

/-- Nothing comes after the last change of a turn. -/
lemma Tidy.last (f : Worker δ → Worker δ) : crew.Tidy k (crew.amend k f) :=
  fun _ _ => ⟨fun _ => trivial, fun _ => trivial⟩

/-- A change that does not end the worker. -/
lemma Tidy.amend {f : Worker δ → Worker δ} (same : ∀ x, (f x).outcome = x.outcome)
    {p : Unit → Program W β} (hp : crew.Tidy k (p ())) :
    crew.Tidy k ((crew.amend k f).bind p) := by
  intro w unfinished
  have changed : crew.worker k (crew.workers.modify (fun workers => workers.modify k f) w)
      = f (crew.worker k w) :=
    worker_amend (outcome_eq_none unfinished) f
  have still : (f (crew.worker k w)).isFinished = false := by
    rw [Worker.isFinished, same]
    exact unfinished
  rw [changed, still]
  refine ⟨fun ended => ?_, fun _ => hp⟩
  cases ended

section

variable (pollers : ∀ d, (crew.poller d).Abides fun w v => crew.workers.get v = crew.workers.get w)

include pollers

/-- If the worker ends in a tick, nothing comes of the rest. -/
lemma tidy_tick (worker : Worker δ) : crew.Tidy k (crew.tick k worker) := by
  refine Tidy.look _ fun now => ?_
  refine Tidy.amend (f := fun x =>
    { x with due := x.due.map fun due => Worker.nextDue now due x.interval }) (fun _ => rfl) ?_
  refine Tidy.bind ((pollers worker.poller).cycle worker.mark) fun result => ?_
  obtain ⟨outcome, mark⟩ := result
  refine Tidy.amend (f := fun x => { x with mark }) (fun _ => rfl) ?_
  cases outcome with
  | ok _ => exact trivial
  | error e => exact .last _

/-- Once a worker has ended, nothing comes of what is left of its turn. -/
lemma tidy_turn : crew.Tidy k (crew.turn k) := by
  refine .look _ fun now => ?_
  -- without time between its ticks the worker breaks down when it begins, and looks at that
  refine fun w _ => ⟨fun _ => fun v finished => ⟨rfl, ?_⟩, fun _ => .look _ fun workers => ?_⟩
  · change crew.Ceases k (if (crew.worker k v).isFinished = true then _ else _)
    rw [if_pos finished]
    trivial
  · dsimp only
    split
    · exact trivial
    · split
      · exact .last _
      · refine .bind (p := Program.waitFor _ _) trivial fun _ => .look _ fun workers => ?_
        dsimp only
        split
        · exact .last _
        · split
          · exact .last _
          · exact tidy_tick pollers _

end

/-! ### Turns in progress -/

/-- The workers go on with their turns, or begin new ones. -/
inductive Goes (crew : Crew W δ) :
    W × (Nat → Program W Unit) → W × (Nat → Program W Unit) → Prop where
  | begins {w : W} {turns : Nat → Program W Unit} {k : Nat} :
    (crew.worker k w).isFinished = false →
    turns k = .done () →
    Goes crew (w, turns) (w, Function.update turns k (crew.turn k))
  | steps {w : W} {turns : Nat → Program W Unit} {k : Nat} {update : W → W}
      {next : W → Program W Unit} :
    turns k = .step update next →
    Goes crew (w, turns) (update w, Function.update turns k (next w))
  | waited {w : W} {turns : Nat → Program W Unit} {k : Nat} {ready : W → Bool}
      {alarm : Option Nat} {next : Program W Unit} :
    turns k = .wait ready alarm next →
    ready w = true →
    Goes crew (w, turns) (w, Function.update turns k next)

/-- A turn that never has to wait for others is gone through. -/
lemma Goes.of_through {turns : Nat → Program W Unit}
    (h : (turns k).through w = some ((), v)) :
    ReflTransGen crew.Goes (w, turns) (v, Function.update turns k (.done ())) := by
  generalize e : turns k = p at h
  induction p generalizing turns w with
  | done a =>
    cases h
    rw [← show turns k = .done () from e, Function.update_eq_self]
  | step update next ih =>
    have rest : ReflTransGen crew.Goes (update w, Function.update turns k (next w)) _ :=
      ih w (Function.update_self ..) h
    rw [Function.update_idem] at rest
    exact .head (.steps e) rest
  | wait ready alarm next ih =>
    rw [Program.through] at h
    cases now : ready w with
    | true =>
      rw [now, if_pos rfl] at h
      have rest : ReflTransGen crew.Goes (w, Function.update turns k next) _ :=
        ih (Function.update_self ..) h
      rw [Function.update_idem] at rest
      exact .head (.waited e now) rest
    | false =>
      rw [now, if_neg Bool.false_ne_true] at h
      cases h

/-! ### What is left of a turn -/

/-- The wait for a signal or for the next tick, and what the worker does after it. -/
def awaits (crew : Crew W δ) (k : Nat) (due : Option Nat) : Program W Unit :=
  (Program.waitFor (fun w => (crew.worker k w).isReady (crew.clock.get w)) due).bind fun _ =>
    crew.react k

/-- What follows once the worker has begun and looked at itself. -/
def checks (crew : Crew W δ) (k : Nat) (workers : List (Worker δ)) : Program W Unit :=
  let worker := workers.getD k default
  if worker.isFinished then .done ()
  else if worker.signal then crew.amend k (Worker.finish (.ok ()))
  else crew.awaits k worker.due

/-- What can be left of a turn before the worker has seen a signal or a tick. -/
inductive Attentive (crew : Crew W δ) (k : Nat) : Program W Unit → Prop where
  | between :
    Attentive crew k (.done ())
  | begins :
    Attentive crew k (crew.turn k)
  | clocked (now : Nat) :
    Attentive crew k ((crew.amend k (Worker.commence now)).bind fun _ =>
      (Program.look crew.workers).bind (crew.checks k))
  | commenced :
    Attentive crew k ((Program.look crew.workers).bind (crew.checks k))
  | ends :
    Attentive crew k (crew.amend k (Worker.finish (.ok ())))
  | awaits (due : Option Nat) :
    Attentive crew k (crew.awaits k due)

/-- What can be left of a turn once the worker has seen a signal or a tick. -/
inductive Reacting (crew : Crew W δ) (k : Nat) : Program W Unit → Prop where
  | begins :
    Reacting crew k (crew.react k)
  | steps {update : W → W} {next : W → Program W Unit} (w : W) :
    Reacting crew k (.step update next) →
    Reacting crew k (next w)
  | waited {ready : W → Bool} {alarm : Option Nat} {next : Program W Unit} :
    Reacting crew k (.wait ready alarm next) →
    Reacting crew k next

namespace Attentive

variable {p : Program W Unit}

/-- What the worker finds when it looks at itself ends the turn, or makes it wait. -/
lemma checks (workers : List (Worker δ)) : crew.Attentive k (crew.checks k workers) := by
  unfold Crew.checks
  dsimp only
  split
  · exact .between
  · split
    · exact .ends
    · exact .awaits _

/-- Up to the wait each step of a turn leaves the worker attentive. -/
lemma steps (attentive : crew.Attentive k p) {update : W → W} {next : W → Program W Unit}
    (left : p = .step update next) (w : W) : crew.Attentive k (next w) := by
  cases attentive with
  | between => cases left
  | begins =>
    obtain ⟨-, rfl⟩ := Program.step.inj (show Program.step _ _ = _ from left)
    exact .clocked _
  | clocked now =>
    obtain ⟨-, rfl⟩ := Program.step.inj (show Program.step _ _ = _ from left)
    exact .commenced
  | commenced =>
    obtain ⟨-, rfl⟩ := Program.step.inj (show Program.step _ _ = _ from left)
    exact .checks _
  | ends =>
    obtain ⟨-, rfl⟩ := Program.step.inj (show Program.step _ _ = _ from left)
    exact .between
  | awaits due => cases left

/-- After the wait the worker reacts. -/
lemma waited (attentive : crew.Attentive k p) {ready : W → Bool} {alarm : Option Nat}
    {next : Program W Unit} (left : p = .wait ready alarm next) : crew.Reacting k next := by
  cases attentive with
  | awaits due =>
    obtain ⟨-, -, rfl⟩ := Program.wait.inj (show Program.wait _ _ _ = _ from left)
    exact .begins
  | _ => cases left

end Attentive

/-- Of each turn in progress it can be said whether the worker has begun to react in it. -/
def Legible (crew : Crew W δ) (turns : Nat → Program W Unit) : Prop :=
  ∀ k, crew.Attentive k (turns k) ∨ crew.Reacting k (turns k)

namespace Legible

variable {turns turns' : Nat → Program W Unit}

/-- Another thing is left of the turn of one worker. -/
lemma update (legible : crew.Legible turns) {p : Program W Unit}
    (hp : crew.Attentive k p ∨ crew.Reacting k p) :
    crew.Legible (Function.update turns k p) := by
  intro j
  by_cases e : j = k
  · subst e
    rwa [Function.update_self]
  · rw [Function.update_of_ne e]
    exact legible j

/-- Workers that go on leave legible turns. -/
lemma goes (legible : crew.Legible turns) (step : crew.Goes (w, turns) (v, turns')) :
    crew.Legible turns' := by
  cases step with
  | begins => exact legible.update (.inl .begins)
  | @steps _ _ k update next e =>
    refine legible.update ?_
    rcases legible k with attentive | reacting
    · exact .inl (attentive.steps e w)
    · exact .inr (.steps w (e ▸ reacting))
  | @waited _ _ k ready alarm next e now =>
    refine legible.update (.inr ?_)
    rcases legible k with attentive | reacting
    · exact attentive.waited e
    · exact .waited (e ▸ reacting)

end Legible

/-! ### The last turn -/

/-- A worker ended, and well if it had time between its ticks. -/
def WindsUp (crew : Crew W δ) (k : Nat) (w v : W) : Prop :=
  ∃ ending, (crew.worker k v).outcome = some ending ∧
    (0 < (crew.worker k w).interval → ending = .ok ())

omit [Inhabited δ] in
/-- Only without time between its ticks a worker breaks down when it begins. -/
lemma outcome_commence {worker : Worker δ} (unfinished : worker.isFinished = false) (now : Nat) :
    (worker.commence now).outcome = none ∨
      worker.interval = 0 ∧ (worker.commence now).outcome = some (.error .panicked) := by
  have none : worker.outcome = none := outcome_eq_none unfinished
  unfold Worker.commence
  cases worker.due with
  | some due => exact .inl none
  | none =>
    dsimp only
    split
    case isTrue interval => exact .inr ⟨interval, rfl⟩
    case isFalse => exact .inl none

/-- A worker that is told to stop does so when it looks at itself. -/
lemma checks_winds_up (unfinished : (crew.worker k w).outcome = none)
    (signal : (crew.worker k w).signal = true) :
    ∃ v, (crew.checks k (crew.workers.get w)).through w = some ((), v) ∧
      (crew.worker k v).outcome = some (.ok ()) := by
  have working : (crew.worker k w).isFinished = false := by
    rw [Worker.isFinished, unfinished]
    rfl
  have checks : crew.checks k (crew.workers.get w) = crew.amend k (Worker.finish (.ok ())) := by
    change (if (crew.worker k w).isFinished = true then _
      else if (crew.worker k w).signal = true then _ else _) = _
    rw [working, signal, if_neg Bool.false_ne_true, if_pos rfl]
  rw [checks]
  refine ⟨_, rfl, ?_⟩
  rw [worker_amend unfinished]
  rfl

/-- A worker that is told to stop does so once it has begun. -/
lemma commence_winds_up (unfinished : (crew.worker k w).isFinished = false)
    (signal : (crew.worker k w).signal = true) (now : Nat) :
    ∃ v, ((crew.amend k (Worker.commence now)).bind fun _ =>
      (Program.look crew.workers).bind (crew.checks k)).through w = some ((), v) ∧
        crew.WindsUp k w v := by
  let begun : W := crew.workers.modify (fun workers => workers.modify k (Worker.commence now)) w
  have changed : crew.worker k begun = (crew.worker k w).commence now :=
    worker_amend (outcome_eq_none unfinished) _
  have told : (crew.worker k begun).signal = true := by
    rw [changed, (Worker.Amends.commence now).signal, signal]
  change ∃ v, (crew.checks k (crew.workers.get begun)).through begun = some ((), v) ∧ _
  obtain none | ⟨interval, panicked⟩ := outcome_commence unfinished now
  · obtain ⟨v, through, ended⟩ := checks_winds_up (changed ▸ none) told
    exact ⟨v, through, _, ended, fun _ => rfl⟩
  · have broken : crew.checks k (crew.workers.get begun) = .done () := by
      change (if (crew.worker k begun).isFinished = true then _ else _) = _
      rw [changed, Worker.isFinished, panicked]
      rfl
    rw [broken]
    refine ⟨begun, rfl, _, changed ▸ panicked, fun pos => ?_⟩
    rw [interval] at pos
    cases pos

/-- A worker that is told to stop does so in its next turn, and waits for nothing in it. -/
lemma turn_winds_up (unfinished : (crew.worker k w).isFinished = false)
    (signal : (crew.worker k w).signal = true) :
    ∃ v, (crew.turn k).through w = some ((), v) ∧ crew.WindsUp k w v :=
  commence_winds_up unfinished signal (crew.clock.get w)

/-- Once what is left of its turn is done, a worker that is told to stop ends by its own steps. -/
lemma Goes.winds_up {turns : Nat → Program W Unit} (done : turns k = .done ())
    (unfinished : (crew.worker k w).isFinished = false)
    (signal : (crew.worker k w).signal = true) :
    ∃ u, ReflTransGen crew.Goes (w, turns) u ∧ crew.WindsUp k w u.1 := by
  obtain ⟨v, through, ended⟩ := turn_winds_up unfinished signal
  have turn : (Function.update turns k (crew.turn k) k).through w = some ((), v) := by
    rwa [Function.update_self]
  exact ⟨_, .head (.begins unfinished done) (Goes.of_through turn), ended⟩

/-- A signal that a worker has not seen ends its wait; it sees the signal, and the turn is done. -/
lemma awaits_through (unfinished : (crew.worker k w).isFinished = false)
    (unseen : (crew.worker k w).unseen = true) (due : Option Nat) :
    ∃ v, (crew.awaits k due).through w = some ((), v) ∧
      crew.worker k v = { crew.worker k w with unseen := false } := by
  have ready : (crew.worker k w).isReady (crew.clock.get w) = true := by
    rw [Worker.isReady, unseen]
    rfl
  refine ⟨_, ?_, worker_amend (outcome_eq_none unfinished) fun x => { x with unseen := false }⟩
  change (if (crew.worker k w).isReady (crew.clock.get w) = true then
    (crew.react k).through w else none) = _
  rw [if_pos ready]
  change (if (crew.worker k w).unseen = true then
    crew.amend k fun worker => { worker with unseen := false }
    else _ : Program W Unit).through w = _
  rw [if_pos unseen]
  rfl

/-- An attentive worker that is told to stop ends by its own steps. -/
lemma Attentive.winds_up {turns : Nat → Program W Unit} (attentive : crew.Attentive k (turns k))
    (unfinished : (crew.worker k w).isFinished = false)
    (signal : (crew.worker k w).signal = true) (unseen : (crew.worker k w).unseen = true) :
    ∃ u, ReflTransGen crew.Goes (w, turns) u ∧ crew.WindsUp k w u.1 := by
  have goes {v : W} (through : (turns k).through w = some ((), v)) (ended : crew.WindsUp k w v) :
      ∃ u, ReflTransGen crew.Goes (w, turns) u ∧ crew.WindsUp k w u.1 :=
    ⟨_, Goes.of_through through, ended⟩
  generalize left : turns k = p at attentive
  cases attentive with
  | between => exact Goes.winds_up left unfinished signal
  | begins =>
    obtain ⟨v, through, ended⟩ := turn_winds_up unfinished signal
    exact goes (left ▸ through) ended
  | clocked now =>
    obtain ⟨v, through, ended⟩ := commence_winds_up unfinished signal now
    exact goes (left ▸ through) ended
  | commenced =>
    obtain ⟨v, through, ended⟩ := checks_winds_up (outcome_eq_none unfinished) signal
    exact goes (left ▸ through) ⟨_, ended, fun _ => rfl⟩
  | ends =>
    have ended := worker_amend (outcome_eq_none unfinished) (Worker.finish (.ok ()))
    refine goes (by rw [left]; rfl) ⟨_, ?_, fun _ => rfl⟩
    rw [ended]
    rfl
  | awaits due =>
    -- the worker sees the signal, and ends in its next turn
    obtain ⟨v, through, seen⟩ := awaits_through unfinished unseen due
    have still : (crew.worker k v).isFinished = false := by
      rw [seen]
      exact unfinished
    have told : (crew.worker k v).signal = true := by
      rw [seen]
      exact signal
    have done : Function.update turns k (.done ()) k = .done () := Function.update_self ..
    obtain ⟨u, rest, ending, ended, well⟩ := Goes.winds_up done still told
    refine ⟨u, (Goes.of_through (left ▸ through)).trans rest, ending, ended, ?_⟩
    rwa [seen] at well

end Crew

end LedgerWatch
