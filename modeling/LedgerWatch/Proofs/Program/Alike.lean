import LedgerWatch.Program
import Mathlib.Tactic.Lemma

/-!
# Programs that do alike

Two programs, each over a world of its own, do alike under a relation of the worlds when from
related worlds they give the same result and leave related worlds behind. What they do apart from
that, and where they wait, may be different. A program that does like itself in the very same world
keeps whatever the relation says of that world (`Alike.keeps`).
-/

namespace LedgerWatch.Program

variable {W W' S S' α β : Type} {R : W → W' → Prop}

/-- From related worlds both give the same result, and the worlds that they leave are related. -/
def Alike (R : W → W' → Prop) (p : Program W α) (q : Program W' α) : Prop :=
  ∀ w w', R w w' → (p.run w).1 = (q.run w').1 ∧ R (p.run w).2 (q.run w').2

namespace Alike

lemma done (a : α) : (.done a : Program W α).Alike R (.done a) :=
  fun _ _ related => ⟨rfl, related⟩

/-- Programs that go on alike do so one after the other. -/
lemma bind {p : Program W α} {q : Program W' α} {f : α → Program W β} {g : α → Program W' β}
    (h : p.Alike R q) (hf : ∀ a, (f a).Alike R (g a)) : (p.bind f).Alike R (q.bind g) := by
  intro w w' related
  obtain ⟨same, related'⟩ := h w w' related
  rw [run_bind, run_bind, ← same]
  exact hf _ _ _ related'

lemma pause : (pause : Program W Unit).Alike R (pause : Program W' Unit) :=
  fun _ _ related => ⟨rfl, related⟩

lemma waitFor (ready : W → Bool) (ready' : W' → Bool) (alarm : Option Nat) :
    (waitFor ready alarm).Alike R (waitFor ready' alarm) :=
  fun _ _ related => ⟨rfl, related⟩

/-- A look at parts that are the same goes on alike. -/
lemma look {part : Part W S} {part' : Part W' S}
    (same : ∀ w w', R w w' → part.get w = part'.get w') :
    (look part).Alike R (look part') :=
  fun w w' related => ⟨same w w' related, related⟩

/-- Changes that lead from related worlds to related worlds go on alike. -/
lemma modify {part : Part W S} {part' : Part W' S'} {f : S → S} {f' : S' → S'}
    (related : ∀ w w', R w w' → R (part.modify f w) (part'.modify f' w')) :
    (modify part f).Alike R (modify part' f') :=
  fun w w' here => ⟨rfl, related w w' here⟩

/-- What does like itself in the same world keeps what holds of the world. -/
lemma keeps {P : W → Prop} {p : Program W α} (h : p.Alike (fun w v => w = v ∧ P w) p) {w : W}
    (holds : P w) : P (p.run w).2 :=
  (h w w ⟨rfl, holds⟩).2.2

end Alike

end LedgerWatch.Program
