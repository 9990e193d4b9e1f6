import LedgerWatch.Proofs.Polling.Journal
import Mathlib.Data.List.Chain

/-!
# Attempts to deliver a block

A poller that hands a block on tries to record it right afterwards; the two together are an attempt.
Attempts that begin at height 1, go on with the next height after each success and repeat the height
after each failure are in turn, up to the height recorded last.

The main statements are `InTurn.chain`, `InTurn.count` (every height up to the recorded one was
attempted once more often than it failed) and `InTurn.heights` (without failures the heights are
1, 2, ... up to the recorded one).
-/

namespace LedgerWatch

/-- A block that was handed on, and whether it was recorded afterwards. -/
structure Attempt where
  block : Block
  recorded : Bool

namespace Attempt

/-- What is noted of an attempt. -/
def notes (a : Attempt) : Journal :=
  [.handed a.block, .written ⟨a.block.id, a.block.height⟩ a.recorded]

/-- The height that is due after an attempt: the next one, or the same one again. -/
def due (a : Attempt) : Nat :=
  if a.recorded then a.block.height + 1 else a.block.height

end Attempt

/-- Attempts that are made in turn, up to the height that was recorded last. -/
inductive InTurn : List Attempt → Nat → Prop where
  | nil :
    InTurn [] 0
  | recorded {attempts n b} :
    InTurn attempts n →
    b.height = n + 1 →
    InTurn (attempts ++ [⟨b, true⟩]) (n + 1)
  | failed {attempts n b} :
    InTurn attempts n →
    b.height = n + 1 →
    InTurn (attempts ++ [⟨b, false⟩]) n

namespace InTurn

variable {attempts : List Attempt} {n : Nat}

/-- Without any attempt nothing is recorded. -/
lemma eq_zero_of_nil (d : InTurn attempts n) (e : attempts = []) : n = 0 := by
  cases d with
  | nil => rfl
  | recorded _ _ => simp at e
  | failed _ _ => simp at e

/-- What is due after the last attempt is the height above the recorded one. -/
lemma due_getLast (d : InTurn attempts n) : ∀ a ∈ attempts.getLast?, a.due = n + 1 := by
  cases d with
  | nil => simp
  | recorded _ h => simp [Attempt.due, h]
  | failed _ h => simp [Attempt.due, h]

/-- The first attempt is at height 1. -/
lemma head (d : InTurn attempts n) : ∀ a ∈ attempts.head?, a.block.height = 1 := by
  induction d with
  | nil => simp
  | @recorded attempts n b d h ih =>
    cases attempts with
    | nil => simp [h, d.eq_zero_of_nil rfl]
    | cons a rest => exact ih
  | @failed attempts n b d h ih =>
    cases attempts with
    | nil => simp [h, d.eq_zero_of_nil rfl]
    | cons a rest => exact ih

/-- A chain of attempts goes on at the height above the recorded one. -/
private lemma chain_concat (d : InTurn attempts n) {a : Attempt} (h : a.block.height = n + 1)
    (chain : attempts.IsChain fun a b => b.block.height = a.due) :
    (attempts ++ [a]).IsChain fun a b => b.block.height = a.due := by
  refine chain.append (List.isChain_singleton a) fun x hx y hy => ?_
  obtain rfl : a = y := by simpa using hy
  rw [h, d.due_getLast x hx]

/-- Each attempt is at the height that is due after the one before. -/
lemma chain (d : InTurn attempts n) :
    attempts.IsChain fun a b => b.block.height = a.due := by
  induction d with
  | nil => exact List.isChain_nil
  | recorded d h ih => exact d.chain_concat h ih
  | failed d h ih => exact d.chain_concat h ih

/-- Each height up to the recorded one succeeded once, and each height above it never. -/
lemma count (d : InTurn attempts n) (height : Nat) :
    attempts.countP (fun a => a.block.height = height)
      = (if 1 ≤ height ∧ height ≤ n then 1 else 0)
        + attempts.countP (fun a => a.block.height = height ∧ a.recorded = false) := by
  induction d with
  | nil =>
    have none : ¬(1 ≤ height ∧ height ≤ 0) := by omega
    rw [if_neg none]
    rfl
  | @recorded attempts n b d h ih =>
    rw [List.countP_append, List.countP_append, ih]
    by_cases e : height = n + 1
    · subst e
      have above : ¬n + 1 ≤ n := by omega
      simp [h, above, Nat.add_comm]
    · have : b.height ≠ height := by omega
      have bound : (1 ≤ height ∧ height ≤ n + 1) ↔ (1 ≤ height ∧ height ≤ n) := by omega
      simp [this, bound]
  | @failed attempts n b d h ih =>
    rw [List.countP_append, List.countP_append, ih]
    by_cases e : b.height = height
    · simp [e, Nat.add_assoc]
    · simp [e]

/-- When every attempt succeeded, the heights are 1, 2, ... up to the recorded one. -/
lemma heights (d : InTurn attempts n) (all : ∀ a ∈ attempts, a.recorded = true) :
    attempts.map (·.block.height) = List.range' 1 n := by
  induction d with
  | nil => rfl
  | @recorded attempts n b d h ih =>
    rw [List.map_append, ih fun a ha => all a (List.mem_append_left _ ha), List.range'_1_concat]
    simp [h, Nat.add_comm]
  | failed d h ih =>
    exact absurd (all _ (List.mem_append_right _ List.mem_cons_self)) (by simp)

end InTurn

end LedgerWatch
