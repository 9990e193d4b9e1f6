import LedgerWatch.Program
import Mathlib.Tactic.Lemma

/-!
# Programs beside something else

A program over a world also runs in a world that has something else beside it, which it neither sees
nor touches. A program over both may write something down there that does not influence what happens
in the world: then forgetting what was written gives the run of the program by itself.
-/

namespace LedgerWatch

namespace Part

variable {S T : Type}

/-- The first of two things. -/
def fst : Part (S × T) S where
  get w := w.1
  set s w := (s, w.2)
  get_set _ _ := rfl

/-- The second of two things. -/
def snd : Part (S × T) T where
  get w := w.2
  set t w := (w.1, t)
  get_set _ _ := rfl

end Part

namespace Program

variable {W J α β : Type}

/-- The program in a world with something beside it. -/
def beside : Program W α → Program (W × J) α
  | .done a => .done a
  | .step update next => .step (fun w => (update w.1, w.2)) fun w => (next w.1).beside
  | .wait ready alarm next => .wait (fun w => ready w.1) alarm next.beside

/-- What stands beside the world stays as it is. -/
@[simp] lemma run_beside (p : Program W α) (w : W) (j : J) :
    p.beside.run (w, j) = ((p.run w).1, (p.run w).2, j) := by
  induction p generalizing w with
  | done a => rfl
  | step update next ih => exact ih w (update w)
  | wait ready alarm next ih => exact ih w

/-- A program over a world and something beside it does in the world what another program does. -/
def Follows (q : Program (W × J) α) (p : Program W α) : Prop :=
  ∀ w j, (q.run (w, j)).1 = (p.run w).1 ∧ (q.run (w, j)).2.1 = (p.run w).2

namespace Follows

/-- A program beside something follows itself. -/
lemma beside (p : Program W α) : (p.beside : Program (W × J) α).Follows p := by
  intro w j
  rw [run_beside]
  exact ⟨rfl, rfl⟩

/-- Ending with the same result. -/
lemma done (a : α) : (.done a : Program (W × J) α).Follows (.done a) :=
  fun _ _ => ⟨rfl, rfl⟩

/-- Programs that follow go on by programs that follow. -/
lemma bind {q : Program (W × J) α} {p : Program W α} {g : α → Program (W × J) β}
    {f : α → Program W β} (h : q.Follows p) (hf : ∀ a, (g a).Follows (f a)) :
    (q.bind g).Follows (p.bind f) := by
  intro w j
  obtain ⟨e1, e2⟩ := h w j
  obtain ⟨e3, e4⟩ := hf (p.run w).1 (q.run (w, j)).2.1 (q.run (w, j)).2.2
  rw [run_bind, run_bind, e1, e3, e4, e2]
  exact ⟨rfl, rfl⟩

/-- Writing something down beside the world follows doing nothing. -/
lemma note {q : Program (W × J) β} {p : Program W β} (f : J → J) (h : q.Follows p) :
    ((modify Part.snd f).bind fun _ => q).Follows p := by
  intro w j
  rw [run_bind]
  exact h w (f j)

/-- A change of a part of the world. -/
lemma modify {S : Type} (part : Part W S) (f : S → S) :
    (Program.modify (Part.fst.comp part) f : Program (W × J) Unit).Follows
      (Program.modify part f) :=
  fun _ _ => ⟨rfl, rfl⟩

end Follows

end Program

end LedgerWatch
