import LedgerWatch.Proofs.Container.Orders

/-!
# How a stop comes to its end

A container that is stopped tells its worker so and waits for the worker's end. In every scene of
the wait the worker knows that it has to stop as long as it is at work, and nothing keeps it from
ending in its next turn. Only a tick that it has begun to react to can hold it up, for as long as
the tick takes (`History.stoppable`). A worker comes to its end by its own steps here; that it might
break down instead is not made use of.
-/

namespace LedgerWatch

open Relation (ReflTransGen)
open Program (Ends Ensures Within)
open Registry (Operation)

variable {W σ δ : Type} [Inhabited σ] [Inhabited δ]

namespace Container

variable {c : Container W σ δ} {allowed : Operation σ → Prop} {others : W → W → Prop} {k : Nat}
  {s s' t : Scene W}

/-! ### What is left of the turns of workers -/

omit [Inhabited σ] in
/-- Whatever happens meanwhile leads from legible turns to legible turns. -/
lemma Meanwhile.legible (step : c.Meanwhile others s s') (legible : c.crew.Legible s.2) :
    c.crew.Legible s'.2 := by
  cases step with
  | others => exact legible
  | goes step => exact legible.goes step
  | breaks => exact legible.update (.inl .between)

/-- An order is no part of the turn of any worker. -/
lemma Step.legible (step : c.Step others s s') (legible : c.crew.Legible s.2) :
    c.crew.Legible s'.2 := by
  cases step with
  | meanwhile step => exact step.legible legible
  | order order ends =>
    have own (t t' : Scene W) (step : True ∧ t'.2 = t.2) (legible : c.crew.Legible t.2) :
        c.crew.Legible t'.2 := by
      rw [step.2]
      exact legible
    exact Ensures.of_within (I := fun t => c.crew.Legible t.2) (Within.any (c.heed order)).beside
      (fun _ _ step => step.legible) own legible _ _ ends

/-- Along every history the turns in progress are legible. -/
lemma History.legible (history : c.History others s) : c.crew.Legible s.2 := by
  obtain ⟨fresh, hfresh, steps⟩ := history
  refine Program.kept (I := fun t => c.crew.Legible t.2) (fun _ _ step => step.legible)
    (fun k => ?_) steps
  rw [hfresh.turns k]
  exact .inl .between

/-! ### The signal -/

/-- The scene in which the container does not know of its worker any more. -/
def releases (c : Container W σ δ) (s : Scene W) : Scene W :=
  (c.running.set none s.1, s.2)

/-- The scene in which a worker was sent the signal to stop. -/
def signals (c : Container W σ δ) (k : Nat) (s : Scene W) : Scene W :=
  (c.crew.workers.modify (fun workers => workers.modify k fun worker => (worker.send true).2) s.1,
    s.2)

/-- Whether the container knows of its worker has nothing to do with the workers. -/
lemma worker_releases (h : c.Surrounded allowed others) (j : Nat) (s : Scene W) :
    c.crew.worker j (c.releases s).1 = c.crew.worker j s.1 := by
  rw [releases, Crew.worker, h.workers_running.left, ← Crew.worker]

omit [Inhabited σ] in
/-- Whoever had ended before the signal has ended after it, and nobody ends by it. -/
lemma isFinished_signals (j : Nat) (s : Scene W) :
    (c.crew.worker j (c.signals k s).1).isFinished = (c.crew.worker j s.1).isFinished :=
  Crew.field_worker Worker.isFinished Worker.isFinished_send (c.crew.workers.get_modify _ s.1) j

omit [Inhabited σ] in
/-- A worker that is at work is sent the signal. -/
lemma worker_signals (unfinished : (c.crew.worker k s.1).isFinished = false) :
    c.crew.worker k (c.signals k s).1
      = { c.crew.worker k s.1 with signal := true, unseen := true } := by
  rw [signals, Crew.worker_amend (Crew.outcome_eq_none unfinished), Worker.send, unfinished]
  rfl

/-- A worker that was told to stop knows so as long as it is at work. -/
lemma Staffed.told {staff : Option Nat} (h : c.Surrounded allowed others) (hs : c.Staffed staff s)
    (rest : ReflTransGen (c.Meanwhile others) (c.signals k s) t)
    (unfinished : (c.crew.worker k t.1).isFinished = false) :
    (c.crew.worker k t.1).signal = true := by
  refine (Program.kept (I := fun u => c.Staffed staff u ∧
    ((c.crew.worker k u.1).isFinished = false → (c.crew.worker k u.1).signal = true))
    (fun u u' step held => ⟨held.1.meanwhile h step, fun still => ?_⟩)
    ⟨hs.signalled h k, fun still => ?_⟩ rest).2 unfinished
  · -- whoever has not ended by now had not ended before
    have before : (c.crew.worker k u.1).isFinished = false := by
      cases finished : (c.crew.worker k u.1).isFinished with
      | false => rfl
      | true =>
        rw [held.1.ended h step finished, finished] at still
        cases still
    exact (held.1.signal h step).trans (held.2 before)
  · have sent := worker_signals ((isFinished_signals k s).symm.trans still)
    exact congrArg Worker.signal sent

/-! ### The wait -/

/-- What is left of a stop once the worker was sent the signal. -/
def awaitsEnd (c : Container W σ δ) (k : Nat) : Program W (Except HostError Unit) :=
  ((c.crew.join k).bind fun ending =>
    match ending with
    | .ok () => .done (.ok ())
    | .error fault => .done (.error (.ofFault fault))).bind fun outcome =>
  (Program.modify c.site.registry Registry.close).bind fun _ => .done outcome

section

variable {E : Scene W → Scene W → Prop} {ready : Scene W → Bool} {alarm : Option Nat}
  {left : Program (Scene W) (Except HostError Unit)}

/-- Once the worker has ended the wait is over, and the stop tells how it ended. -/
lemma awaitsEnd_ends (rest : ReflTransGen E s t) {ending : Except WorkerFault Unit}
    (recorded : (c.crew.worker k t.1).outcome = some ending) :
    ∃ s', (c.awaitsEnd k).beside.Ends E s (ending.mapError .ofFault) s' := by
  have finished : (c.crew.worker k t.1).isFinished = true := by
    rw [Worker.isFinished, recorded]
    rfl
  have answer : ((c.crew.workers.get t.1).getD k default).outcome = some ending := recorded
  refine ⟨(c.site.registry.modify Registry.close t.1, t.2), .wait rest finished (.step .refl ?_)⟩
  simp only [Program.bind, Program.pure_eq, answer, Option.getD_some]
  cases ending <;> exact .step .refl (.done .refl)

/-- There is one wait in what is left of the stop. -/
lemma awaitsEnd_comesTo
    (comes : (c.awaitsEnd k).beside.ComesTo E s (.wait ready alarm left) t) :
    .wait ready alarm left = (c.awaitsEnd k).beside ∧ ReflTransGen E s t := by
  cases comes with
  | here rest => exact ⟨rfl, rest⟩
  | wait rest now comes =>
    obtain ⟨v, -, comes⟩ := Program.ComesTo.of_step comes
    simp only [Program.bind, Program.pure_eq] at comes
    generalize (((c.crew.workers.get v.1).getD k default).outcome.getD
      (.error .panicked)) = ending at comes
    cases ending with
    | ok _ =>
      obtain ⟨_, -, comes⟩ := Program.ComesTo.of_step comes
      exact comes.not_done.elim
    | error fault =>
      obtain ⟨_, -, comes⟩ := Program.ComesTo.of_step comes
      exact comes.not_done.elim

/-- Where a stop waits, the worker was sent the signal, and what is left is to wait for its end. -/
lemma stop_comesTo (h : c.Surrounded allowed others) (hs : c.Settled s)
    (noted : c.running.get s.1 = some k)
    (comes : c.stop.beside.ComesTo (c.Meanwhile others) s (.wait ready alarm left) t) :
    .wait ready alarm left = (c.awaitsEnd k).beside ∧
      ∃ u, c.Staffed (some k) u ∧ ReflTransGen (c.Meanwhile others) (c.signals k u) t := by
  have here : c.Attended (some k) (some k) s s := ⟨noted ▸ hs, noted, fun _ _ => rfl⟩
  obtain ⟨v, idle, comes⟩ := Program.ComesTo.of_step comes
  have attended := here.rest h idle
  simp only [Program.bind, attended.running] at comes
  obtain ⟨u, idle, comes⟩ := Program.ComesTo.of_step comes
  have released := (attended.released h).rest h idle
  obtain ⟨same, rest⟩ := awaitsEnd_comesTo (s := c.signals k u) comes
  exact ⟨same, u, released.staffed, rest⟩

end

/-! ### The end of a stop -/

/-- Without a worker there is nothing to wait for. -/
lemma stop_ends_of_none {E : Scene W → Scene W → Prop} (none : c.running.get s.1 = none) :
    ∃ s', c.stop.beside.Ends E s (.ok ()) s' := by
  refine ⟨(c.site.registry.modify Registry.close (c.releases s).1, s.2), .step .refl ?_⟩
  simp only [Program.bind, none]
  exact .step .refl (.done .refl)

/-- A stop comes to its end with what the worker ends with. -/
lemma stop_ends_of_ending {E : Scene W → Scene W → Prop} (noted : c.running.get s.1 = some k)
    (rest : ReflTransGen E (c.signals k (c.releases s)) t) {ending : Except WorkerFault Unit}
    (recorded : (c.crew.worker k t.1).outcome = some ending) :
    ∃ s', c.stop.beside.Ends E s (ending.mapError .ofFault) s' := by
  obtain ⟨s', ends⟩ := awaitsEnd_ends rest recorded
  refine ⟨s', .step .refl ?_⟩
  simp only [Program.bind, noted]
  exact .step .refl ends

/--
What a container that is to be stopped can count on. Wherever the stop waits, the worker is told as
long as it is at work; once what is left of its turn is done its next turn goes through and is its
last, and then the stop comes to its end. It does so by the steps of the worker alone, and well if
the worker has not begun to react to a tick; if it has, it must come to the end of that.
-/
structure Stoppable (c : Container W σ δ) (others : W → W → Prop) (s : Scene W) : Prop where
  heard : ∀ k t ready alarm left, c.running.get s.1 = some k →
    c.stop.beside.ComesTo (c.Meanwhile others) s (.wait ready alarm left) t →
    (c.crew.worker k t.1).isFinished = false →
    (c.crew.worker k t.1).signal = true ∧
    (t.2 k = .done () →
      ∃ v, (c.crew.turn k).through t.1 = some ((), v) ∧ c.crew.WindsUp k t.1 v)
  resumes : ∀ k t ready alarm left, c.running.get s.1 = some k →
    c.stop.beside.ComesTo (c.Meanwhile others) s (.wait ready alarm left) t →
    (∃ u, ReflTransGen c.crew.Goes t u ∧ u.2 k = .done ()) →
    ∃ outcome s', (Program.wait ready alarm left).Ends c.crew.Goes t outcome s'
  attentive : ∀ k, c.running.get s.1 = some k →
    (c.crew.worker k s.1).isFinished = false →
    0 < (c.crew.worker k s.1).interval →
    c.crew.Attentive k (s.2 k) →
    ∃ s', c.stop.beside.Ends c.crew.Goes s (.ok ()) s'
  ends : (∀ k, c.running.get s.1 = some k →
      (c.crew.worker k s.1).isFinished = false →
      c.crew.Reacting k (s.2 k) →
      ∃ t, ReflTransGen c.crew.Goes (c.signals k (c.releases s)) t ∧ t.2 k = .done ()) →
    ∃ outcome s', c.stop.beside.Ends c.crew.Goes s outcome s'

omit [Inhabited σ] in
/-- What workers do on their own happens meanwhile. -/
lemma meanwhile_of_goes (rest : ReflTransGen c.crew.Goes s t) :
    ReflTransGen (c.Meanwhile others) s t :=
  ReflTransGen.mono (fun _ _ => .goes) _ _ rest

/-- A worker that was told to stop ends by its own steps once what is left of its turn is done. -/
lemma winds_up_of_done (h : c.Surrounded allowed others) {u : Scene W}
    (hs : c.Staffed (some k) s)
    (rest : ReflTransGen (c.Meanwhile others) (c.signals k s) t)
    (goes : ReflTransGen c.crew.Goes t u) (done : u.2 k = .done ()) :
    ∃ v ending, ReflTransGen c.crew.Goes t v ∧ (c.crew.worker k v.1).outcome = some ending := by
  cases finished : (c.crew.worker k u.1).isFinished with
  | true =>
    obtain ⟨ending, recorded⟩ := Option.isSome_iff_exists.1 finished
    exact ⟨u, ending, goes, recorded⟩
  | false =>
    have signal := hs.told h (rest.trans (meanwhile_of_goes goes)) finished
    obtain ⟨v, last, ending, ended, -⟩ := Crew.Goes.winds_up done finished signal
    exact ⟨v, ending, goes.trans last, ended⟩

/-- An attentive worker that is told to stop ends by its own steps. -/
lemma attentive_winds_up (h : c.Surrounded allowed others)
    (unfinished : (c.crew.worker k s.1).isFinished = false)
    (attentive : c.crew.Attentive k (s.2 k)) :
    ∃ u ending, ReflTransGen c.crew.Goes (c.signals k (c.releases s)) u ∧
      (c.crew.worker k u.1).outcome = some ending ∧
      (0 < (c.crew.worker k s.1).interval → ending = .ok ()) := by
  have same := worker_releases h k s
  have sent := worker_signals (same ▸ unfinished)
  have still : (c.crew.worker k (c.signals k (c.releases s)).1).isFinished = false := by
    rw [sent]
    exact same ▸ unfinished
  obtain ⟨u, rest, ending, ended, well⟩ :=
    attentive.winds_up still (by rw [sent]) (by rw [sent])
  refine ⟨u, ending, rest, ended, ?_⟩
  rw [sent, same] at well
  exact well

/-- The worker has ended, or does so by its own steps once it is told to stop. -/
lemma History.winds_up (h : c.Surrounded allowed others) (history : c.History others s)
    (noted : c.running.get s.1 = some k)
    (reacts : (c.crew.worker k s.1).isFinished = false → c.crew.Reacting k (s.2 k) →
      ∃ t, ReflTransGen c.crew.Goes (c.signals k (c.releases s)) t ∧ t.2 k = .done ()) :
    ∃ u ending, ReflTransGen c.crew.Goes (c.signals k (c.releases s)) u ∧
      (c.crew.worker k u.1).outcome = some ending := by
  cases finished : (c.crew.worker k s.1).isFinished with
  | true =>
    have still : (c.crew.worker k (c.signals k (c.releases s)).1).isFinished = true := by
      rw [isFinished_signals, worker_releases h, finished]
    obtain ⟨ending, recorded⟩ := Option.isSome_iff_exists.1 still
    exact ⟨_, ending, .refl, recorded⟩
  | false =>
    rcases history.legible k with attentive | reacting
    · obtain ⟨u, ending, rest, ended, -⟩ := attentive_winds_up h finished attentive
      exact ⟨u, ending, rest, ended⟩
    · obtain ⟨t, goes, done⟩ := reacts finished reacting
      have staffed : c.Staffed (some k) s := noted ▸ history.settled h
      exact winds_up_of_done h (staffed.note h none fun _ => rfl) .refl goes done

/-- A container can be stopped whatever it went through. -/
lemma History.stoppable (h : c.Surrounded allowed others) (history : c.History others s) :
    c.Stoppable others s where
  heard k t ready alarm left noted comes unfinished := by
    obtain ⟨-, u, staffed, rest⟩ := stop_comesTo h (history.settled h) noted comes
    have signal := staffed.told h rest unfinished
    exact ⟨signal, fun _ => Crew.turn_winds_up unfinished signal⟩
  resumes k t ready alarm left noted comes reacts := by
    obtain ⟨same, u, staffed, rest⟩ := stop_comesTo h (history.settled h) noted comes
    obtain ⟨v, goes, done⟩ := reacts
    obtain ⟨v, ending, last, recorded⟩ := winds_up_of_done h staffed rest goes done
    obtain ⟨s', ends⟩ := awaitsEnd_ends last recorded
    rw [same]
    exact ⟨_, s', ends⟩
  attentive k noted unfinished interval attentive := by
    obtain ⟨u, ending, rest, ended, well⟩ := attentive_winds_up h unfinished attentive
    rw [well interval] at ended
    exact stop_ends_of_ending noted rest ended
  ends reacts := by
    cases noted : c.running.get s.1 with
    | none => exact ⟨_, stop_ends_of_none noted⟩
    | some k =>
      obtain ⟨u, ending, rest, recorded⟩ := history.winds_up h noted (reacts k noted)
      exact ⟨_, stop_ends_of_ending noted rest recorded⟩

end Container

end LedgerWatch
