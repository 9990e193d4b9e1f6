import LedgerWatch.Polling.Worker
import LedgerWatch.Proofs.Polling.Readings
import Mathlib.Algebra.GroupWithZero.Nat

/-!
# What poll cycles come to

A poll cycle succeeds, or the ledger fails it before anything is done, or the offset store fails it
on the way. Each comes with what the ledger and the store answered, is counted by a counter of its
own, and only the last kind ends a worker. Counting cycles one after another adds up
(`Metrics.Counted`).
-/

namespace LedgerWatch

/-- What a poll cycle came to. -/
inductive Cycle where
  /-- The blocks were processed. -/
  | succeeded (blocks : List Block)
  | withoutLedger (error : LedgerError)
  /-- The blocks were found, and the store failed on the way. -/
  | withoutStore (blocks : List Block) (error : StorageError)

namespace Cycle

/-- What the ledger and the store answered in a cycle. -/
def readings : Cycle → List Reading
  | succeeded blocks => [.asked (.ok blocks)]
  | withoutLedger e => [.asked (.error e)]
  | withoutStore blocks e => [.asked (.ok blocks), .storeFailed e]

/-- What counts a cycle. -/
def counter : Cycle → Counter
  | succeeded _ => .cycleSucceeded
  | withoutLedger _ => .cycleWithoutLedger
  | withoutStore _ _ => .cycleWithoutStore

/-- How many blocks a cycle that succeeded examined. -/
def size? : Cycle → Option Nat
  | succeeded blocks => some blocks.length
  | _ => none

/-- The blocks that a cycle that succeeded examined. -/
def examined : Cycle → List Block
  | succeeded blocks => blocks
  | _ => []

/-- What is counted of a cycle. -/
def record (m : Metrics) : Cycle → Metrics
  | succeeded blocks => (m.increment .cycleSucceeded).recordCycle blocks.length
  | withoutLedger _ => m.increment .cycleWithoutLedger
  | withoutStore _ _ => m.increment .cycleWithoutStore

/-- How the cycle ends the worker, if it does. -/
def ending : Cycle → Option (Except WorkerFault Unit)
  | withoutStore _ e => some (.error (.storage e))
  | _ => none

@[simp] lemma counter_succeeded (blocks : List Block) :
    (succeeded blocks).counter = .cycleSucceeded :=
  rfl

@[simp] lemma counter_withoutLedger (e : LedgerError) :
    (withoutLedger e).counter = .cycleWithoutLedger :=
  rfl

@[simp] lemma counter_withoutStore (blocks : List Block) (e : StorageError) :
    (withoutStore blocks e).counter = .cycleWithoutStore :=
  rfl

/-- A cycle ends the worker just if the store failed in it. -/
lemma ending_eq_none_iff {c : Cycle} : c.ending = none ↔ c.counter ≠ .cycleWithoutStore := by
  cases c <;> simp [ending]

/-- How a worker stands after its cycles, with the last one at the end. -/
inductive LeadTo (quiet : Prop) : List Cycle → Option (Except WorkerFault Unit) → Prop where
  | working {cycles : List Cycle} :
    (∀ c ∈ cycles, c.ending = none) →
    LeadTo quiet cycles none
  | told {cycles : List Cycle} :
    ¬quiet →
    (∀ c ∈ cycles, c.ending = none) →
    LeadTo quiet cycles (some (.ok ()))
  | failed {cycles : List Cycle} (blocks : List Block) (e : StorageError) :
    (∀ c ∈ cycles, c.ending = none) →
    LeadTo quiet (cycles ++ [.withoutStore blocks e]) (some (.error (.storage e)))

/-- In cycles that end no worker the store did not fail. -/
lemma not_failed {cycles : List Cycle} (h : ∀ c ∈ cycles, c.ending = none) (e : StorageError) :
    .storeFailed e ∉ cycles.flatMap readings := by
  intro mem
  obtain ⟨c, hc, mem⟩ := List.mem_flatMap.1 mem
  have going := h c hc
  cases c with
  | succeeded blocks => simp [readings] at mem
  | withoutLedger e => simp [readings] at mem
  | withoutStore blocks e => cases going

/-- The worker goes on or has ended well, or the store failed in its last cycle and in no other. -/
lemma LeadTo.outcome {quiet : Prop} {cycles : List Cycle}
    {outcome : Option (Except WorkerFault Unit)} (h : LeadTo quiet cycles outcome) :
    ((outcome = none ∨ outcome = some (.ok ())) ∧
        ∀ e, .storeFailed e ∉ cycles.flatMap readings) ∨
      ∃ e earlier blocks, outcome = some (.error (.storage e)) ∧
        cycles = earlier ++ [.withoutStore blocks e] ∧
        ∀ e', .storeFailed e' ∉ earlier.flatMap readings := by
  cases h with
  | working h => exact .inl ⟨.inl rfl, not_failed h⟩
  | told _ h => exact .inl ⟨.inr rfl, not_failed h⟩
  | failed blocks e h => exact .inr ⟨e, _, blocks, rfl, rfl, not_failed h⟩

/-- Whether a worker has ended before it was told to, as a number. -/
def faults : Option (Except WorkerFault Unit) → Nat
  | some (.error _) => 1
  | _ => 0

/-- Only the cycle that ended the worker was one that the store failed. -/
lemma LeadTo.countP {quiet : Prop} {cycles : List Cycle}
    {outcome : Option (Except WorkerFault Unit)} (h : LeadTo quiet cycles outcome) :
    cycles.countP (fun c => c.counter = .cycleWithoutStore)
      = faults outcome := by
  have none {cycles : List Cycle} (h : ∀ c ∈ cycles, c.ending = none) :
      cycles.countP (fun c => c.counter = .cycleWithoutStore) = 0 := by
    rw [List.countP_eq_zero]
    intro c hc
    simpa using ending_eq_none_iff.1 (h c hc)
  cases h with
  | working h => exact none h
  | told _ h => exact none h
  | failed blocks e h =>
    rw [List.countP_append, none h]
    rfl

end Cycle

/-- Counters of cycles. -/
def Counter.isCycle : Counter → Bool
  | .cycleSucceeded | .cycleWithoutLedger | .cycleWithoutStore => true
  | _ => false

/-- The same was counted of cycles. -/
structure Metrics.SameCycles (m n : Metrics) : Prop where
  count : ∀ c, c.isCycle = true → n.count c = m.count c
  sizes : n.cycleSizes = m.cycleSizes

namespace Metrics.SameCycles

variable {l m n : Metrics}

lemma refl (m : Metrics) : m.SameCycles m :=
  ⟨fun _ _ => rfl, rfl⟩

lemma trans (h : l.SameCycles m) (k : m.SameCycles n) : l.SameCycles n :=
  ⟨fun c hc => (k.count c hc).trans (h.count c hc), k.sizes.trans h.sizes⟩

/-- Counting anything else counts no cycle. -/
lemma increment {c : Counter} (other : c.isCycle = false) (m : Metrics) :
    m.SameCycles (m.increment c) := by
  refine ⟨fun d hd => ?_, rfl⟩
  rw [count_increment, if_neg]
  rintro rfl
  rw [other] at hd
  cases hd

/-- The same may be counted more. -/
lemma increment_both (h : m.SameCycles n) (c : Counter) :
    (m.increment c).SameCycles (n.increment c) := by
  refine ⟨fun d hd => ?_, h.sizes⟩
  rw [count_increment, count_increment]
  split
  · rename_i same
    rw [h.count c (same ▸ hd)]
  · exact h.count d hd

/-- The same cycle may be recorded. -/
lemma recordCycle_both (h : m.SameCycles n) (size : Nat) :
    (m.recordCycle size).SameCycles (n.recordCycle size) :=
  ⟨h.count, congrArg (size :: ·) h.sizes⟩

end Metrics.SameCycles

/-- Some cycles were counted since. -/
structure Metrics.Counted (m : Metrics) (cycles : List Cycle) (n : Metrics) : Prop where
  count : ∀ c, c.isCycle = true →
    n.count c = m.count c + cycles.countP fun cycle => cycle.counter = c
  sizes : n.cycleSizes = (cycles.filterMap Cycle.size?).reverse ++ m.cycleSizes

namespace Metrics.Counted

variable {l m n : Metrics} {cycles : List Cycle}

lemma nil (m : Metrics) : m.Counted [] m :=
  ⟨fun _ _ => rfl, rfl⟩

/-- Counting anything else changes nothing about the cycles that were counted. -/
lemma same (h : l.Counted cycles m) (same : m.SameCycles n) : l.Counted cycles n :=
  ⟨fun c hc => (same.count c hc).trans (h.count c hc), same.sizes.trans h.sizes⟩

/-- Cycles are counted in one go or in two. -/
lemma append {more : List Cycle} (h : l.Counted cycles m) (k : m.Counted more n) :
    l.Counted (cycles ++ more) n := by
  refine ⟨fun c hc => ?_, ?_⟩
  · rw [k.count c hc, h.count c hc, List.countP_append, Nat.add_assoc]
  · rw [k.sizes, h.sizes, List.filterMap_append, List.reverse_append, List.append_assoc]

/-- One cycle is counted by recording it. -/
lemma single (m : Metrics) (cycle : Cycle) : m.Counted [cycle] (cycle.record m) := by
  refine ⟨fun c hc => ?_, ?_⟩
  · have counted : (cycle.record m).count c = (m.increment cycle.counter).count c := by
      cases cycle <;> rfl
    rw [counted, count_increment, List.countP_singleton]
    by_cases same : c = cycle.counter
    · subst same
      simp
    · simp [same, Ne.symm same]
  · cases cycle <;> rfl

end Metrics.Counted

end LedgerWatch
