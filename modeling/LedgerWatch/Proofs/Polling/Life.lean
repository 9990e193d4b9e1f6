import LedgerWatch.Proofs.Polling.Turns

/-!
# What the life of a worker comes to

A worker polls in cycles until it is told to stop, nobody can tell it any more, or the offset store
fails. A cycle in which the ledger fails changes nothing, and the worker goes on. What was counted
of the cycles agrees with what the ledger and the store answered.

The main statement is `polls_until_told`, by induction on the turns of the worker's life
(`Progress.lives`).
-/

namespace LedgerWatch

open Program (OnFirst)

variable {W δ : Type}

namespace Crew

variable [Inhabited δ]

/-- The worker stands somewhere after some cycles, as they lead to. -/
structure Progress (crew : Crew W δ) (k : Nat) (d : δ) (quiet : Prop) (m : Metrics)
    (cycles : List Cycle) (s : W × List Reading) : Prop where
  counted : m.Counted cycles ((crew.poller d).metrics.get s.1)
  readings : s.2 = cycles.flatMap Cycle.readings
  poller : (crew.worker k s.1).poller = d
  interval : 0 < (crew.worker k s.1).interval
  leads : Cycle.LeadTo quiet cycles (crew.worker k s.1).outcome
  quiet : quiet → crew.Quiet k s.1

section

variable {crew : Crew W δ} {k : Nat} {d : δ} {others : W → W → Prop} {quiet : Prop} {m : Metrics}
  {cycles : List Cycle} {s s' : W × List Reading}

/-- A worker is at its stage where a turn begins. -/
lemma Stage.here (hs : quiet → crew.Quiet k s.1) :
    crew.Stage k d quiet ((crew.poller d).metrics.get s.1) (crew.worker k s.1) s.2 s :=
  ⟨.refl _, .refl _, rfl, hs⟩

/-- What others do has nothing to do with how a worker has come on. -/
lemma Progress.beyond {v : W} (h : crew.Progress k d quiet m cycles s)
    (step : crew.Beyond k d quiet s.1 v) : crew.Progress k d quiet m cycles (v, s.2) where
  counted := h.counted.same step.cycles
  readings := h.readings
  poller := step.worker.poller.trans h.poller
  interval := step.worker.interval ▸ h.interval
  leads := step.worker.outcome ▸ h.leads
  quiet q := step.quiet q (h.quiet q)

/-- Each turn adds a cycle, or none. -/
lemma Progress.turn (h : crew.Progress k d quiet m cycles s)
    (keep : crew.AllKeep d others (crew.Beyond k d quiet))
    (apart : crew.workers.Apart (crew.poller d).metrics)
    (unfinished : (crew.worker k s.1).outcome = none)
    (turn : (crew.noted.turn k).Ends (OnFirst others) s () s') :
    ∃ more, crew.Progress k d quiet m (cycles ++ more) s' := by
  obtain ⟨m', x, readings, stage, poller, interval, turned⟩ :=
    (Stage.here h.quiet).turn keep apart unfinished h.poller h.interval () s' turn
  have poller' := stage.worker.poller.trans (poller.trans h.poller)
  have interval' : 0 < (crew.worker k s'.1).interval := by
    rw [stage.worker.interval, interval]
    exact h.interval
  have outcome := stage.worker.outcome
  -- a worker that has a turn to come had no cycle that ends it
  have before : ∀ c ∈ cycles, c.ending = none := by
    have leads := h.leads
    rw [unfinished] at leads
    cases leads with
    | working h => exact h
  cases turned with
  | idle going =>
    refine ⟨[], h.counted.append ((Metrics.Counted.nil _).same stage.counted), ?_, poller',
      interval', ?_, stage.quiet⟩
    · rw [List.append_nil, stage.readings, h.readings]
    · rw [List.append_nil, outcome, going]
      exact .working before
  | told told ended =>
    refine ⟨[], h.counted.append ((Metrics.Counted.nil _).same stage.counted), ?_, poller',
      interval', ?_, stage.quiet⟩
    · rw [List.append_nil, stage.readings, h.readings]
    · rw [List.append_nil, outcome, ended]
      exact .told told before
  | cycled c ending =>
    refine ⟨[c], h.counted.append ((Metrics.Counted.single _ c).same stage.counted), ?_, poller',
      interval', ?_, stage.quiet⟩
    · rw [stage.readings, h.readings, List.flatMap_append, List.flatMap_singleton]
    · rw [outcome, ending]
      cases c with
      | withoutStore blocks e => exact .failed blocks e before
      | _ =>
        refine .working fun c' hc => ?_
        rcases List.mem_append.1 hc with hc | hc
        · exact before c' hc
        · obtain rfl := List.mem_singleton.1 hc
          rfl

/-- By induction on the turns of the worker's life, and what others do in between. -/
lemma Progress.lives (h : crew.Progress k d quiet m [] s)
    (keep : crew.AllKeep d others (crew.Beyond k d quiet))
    (apart : crew.workers.Apart (crew.poller d).metrics)
    (lives : crew.noted.Lives (OnFirst others) k s s') :
    ∃ cycles, crew.Progress k d quiet m cycles s' := by
  induction lives with
  | refl => exact ⟨[], h⟩
  | @tail b c _ step ih =>
    obtain ⟨cycles, ih⟩ := ih
    rcases step with ⟨other, still⟩ | ⟨unfinished, turn⟩
    · have on := ih.beyond (keep.others _ _ other)
      rw [← still] at on
      exact ⟨cycles, on⟩
    · have working : (crew.worker k b.1).outcome = none := Option.not_isSome_iff_eq_none.1
        (Bool.eq_false_iff.1 unfinished)
      obtain ⟨more, on⟩ := ih.turn keep apart working turn
      exact ⟨_, on⟩

/-- Everyone who keeps aside keeps quiet, if that is what all of them do. -/
lemma AllKeep.beyond (aside : crew.AllKeep d others (crew.Aside k d))
    (h : quiet → crew.AllKeep d others fun w v => crew.Quiet k w → crew.Quiet k v) :
    crew.AllKeep d others (crew.Beyond k d quiet) := by
  by_cases q : quiet
  · have both {w v : W} (step : crew.Aside k d w v ∧ (crew.Quiet k w → crew.Quiet k v)) :
        crew.Beyond k d quiet w v :=
      { step.1 with quiet := fun _ => step.2 }
    obtain ⟨others', blocksAfter, isProcessed, record, notify⟩ := h q
    exact {
      others w v step := both ⟨aside.others w v step, others' w v step⟩
      blocksAfter id := ((aside.blocksAfter id).and (blocksAfter id)).mono fun _ _ => both
      isProcessed n := ((aside.isProcessed n).and (isProcessed n)).mono fun _ _ => both
      record o := ((aside.record o).and (record o)).mono fun _ _ => both
      notify b := ((aside.notify b).and (notify b)).mono fun _ _ => both }
  · have only {w v : W} (step : crew.Aside k d w v) : crew.Beyond k d quiet w v :=
      { step with quiet := fun q' => absurd q' q }
    exact {
      others w v step := only (aside.others w v step)
      blocksAfter id := (aside.blocksAfter id).mono fun _ _ => only
      isProcessed n := (aside.isProcessed n).mono fun _ _ => only
      record o := (aside.record o).mono fun _ _ => only
      notify b := (aside.notify b).mono fun _ _ => only }

end

end Crew

/-- One worker, the time, what the ledger is still to answer, and the store. -/
structure Shift where
  workers : List (Worker Unit)
  clock : Nat := 0
  metrics : Metrics := {}
  answers : List (Except LedgerError (List Block))
  /-- Why the store does not obey, if it does not. -/
  storeFails : Option StorageError := none

namespace Shift

def workersPart : Part Shift (List (Worker Unit)) :=
  ⟨workers, fun workers s => { s with workers }, fun _ _ => rfl⟩

def clockPart : Part Shift Nat :=
  ⟨clock, fun clock s => { s with clock }, fun _ _ => rfl⟩

def metricsPart : Part Shift Metrics :=
  ⟨metrics, fun metrics s => { s with metrics }, fun _ _ => rfl⟩

/-- The next answer of the ledger. -/
def ask : Program Shift (Except LedgerError (List Block)) :=
  .step (fun s => { s with answers := s.answers.tail }) fun s => .done (s.answers.headD (.ok []))

def poller : Poller Shift where
  ledger :=
    { latest := return .ok .root
      blocksAfter _ := ask
      block? _ := return .ok none
      transaction? _ := return .ok none
      blockOf? _ := return .ok none
      head? _ := return .ok none
      previous? _ := return .ok none }
  offsets :=
    { restore := return .ok .root
      isProcessed _ := return .ok false
      record _ := .step id fun s => .done (s.storeFails.elim (.ok ()) .error) }
  notify _ := return .ok {}
  metrics := metricsPart

def crew : Crew Shift Unit :=
  ⟨workersPart, clockPart, fun _ => poller⟩

/-- Time goes by. -/
def waits (s v : Shift) : Prop :=
  ∃ time, v = { s with clock := s.clock + time }

end Shift

end LedgerWatch
