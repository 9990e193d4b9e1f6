import LedgerWatch.Program
import Mathlib.Order.Defs.Unbundled
import Mathlib.Tactic.Lemma

/-!
# What holds along a run

A program that runs by itself goes through a list of worlds. `Runs R p w Q` says that each step of
the run of `p` from `w` leads from one world to the next by `R`, and that `Q` holds of the result
and the world at the end. When `R` is a preorder every world of the run leads to every later one
(`Runs.pairwise`), and a program that goes on is taken apart by `Runs.bind`.
-/

namespace LedgerWatch.Program

variable {W α β : Type}

/-- The worlds that a program goes through when it runs by itself, from the first to the last. -/
def visited : Program W α → W → List W
  | .done _, w => [w]
  | .step update next, w => w :: (next w).visited (update w)
  | .wait _ _ next, w => next.visited w

lemma run_mem_visited (p : Program W α) (w : W) : (p.run w).2 ∈ p.visited w := by
  induction p generalizing w with
  | done a => exact List.mem_singleton.2 rfl
  | step update next ih => exact List.mem_cons_of_mem _ (ih w (update w))
  | wait ready alarm next ih => exact ih w

/-- Every step of the run leads from one world to the next, and the end is as it should be. -/
def Runs (R : W → W → Prop) : Program W α → W → (α → W → Prop) → Prop
  | .done a, w, Q => Q a w
  | .step update next, w, Q => R w (update w) ∧ (next w).Runs R (update w) Q
  | .wait _ _ next, w, Q => next.Runs R w Q

namespace Runs

variable {R : W → W → Prop} {p : Program W α} {f : α → Program W β} {w v : W}
  {Q : α → W → Prop} {Q' : β → W → Prop}

lemma run (h : p.Runs R w Q) : Q (p.run w).1 (p.run w).2 := by
  induction p generalizing w with
  | done a => exact h
  | step update next ih => exact ih w h.2
  | wait ready alarm next ih => exact ih h

variable [IsPreorder W R]

/-- Each part of a program is run from a world to which the run leads. -/
lemma bind (h : p.Runs R w Q) (hf : ∀ a v, R w v → Q a v → (f a).Runs R v Q') :
    (p.bind f).Runs R w Q' := by
  induction p generalizing w with
  | done a => exact hf a w (refl w) h
  | step update next ih => exact ⟨h.1, ih w h.2 fun a v r q => hf a v (IsTrans.trans _ _ _ h.1 r) q⟩
  | wait ready alarm next ih => exact ih h hf

lemma mono {Q'' : α → W → Prop} (h : p.Runs R w Q) (le : ∀ a v, R w v → Q a v → Q'' a v) :
    p.Runs R w Q'' := by
  have ends := h.bind (f := .done) le
  rwa [bind_done] at ends

/-- The first world leads to every world of the run. -/
lemma leads (h : p.Runs R w Q) (hv : v ∈ p.visited w) : R w v := by
  induction p generalizing w with
  | done a =>
    obtain rfl := List.mem_singleton.1 hv
    exact refl v
  | step update next ih =>
    rcases List.mem_cons.1 hv with rfl | hv
    · exact refl v
    · exact IsTrans.trans _ _ _ h.1 (ih w h.2 hv)
  | wait ready alarm next ih => exact ih h hv

/-- Every world of the run leads to every later one. -/
lemma pairwise (h : p.Runs R w Q) : (p.visited w).Pairwise R := by
  induction p generalizing w with
  | done a => exact List.pairwise_singleton R w
  | step update next ih =>
    exact List.pairwise_cons.2 ⟨fun v hv => IsTrans.trans _ _ _ h.1 (h.2.leads hv), ih w h.2⟩
  | wait ready alarm next ih => exact ih h

end Runs

end LedgerWatch.Program
