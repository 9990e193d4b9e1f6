import LedgerWatch.Program
import Mathlib.Order.Defs.Unbundled
import Mathlib.Tactic.Lemma

/-!
# Runs that have to wait

A program that runs while nobody else has a turn goes on as long as the world is ready, and comes to
no end when it has to wait for others. `Proceeds R p w Q` says of such a run of `p` from `w` that
each of its steps leads from one world to the next by `R`, and that `Q` holds at the end if it comes
to one.
-/

namespace LedgerWatch.Program

variable {W α β : Type}

/-- The end of a run while nobody else has a turn, if it comes to one. -/
def through : Program W α → W → Option (α × W)
  | .done a, w => some (a, w)
  | .step update next, w => (next w).through (update w)
  | .wait ready _ next, w => if ready w then next.through w else none

/-- The worlds that such a run goes through, to its end or to where it has to wait. -/
def reached : Program W α → W → List W
  | .done _, w => [w]
  | .step update next, w => w :: (next w).reached (update w)
  | .wait ready _ next, w => if ready w then next.reached w else [w]

lemma through_bind (p : Program W α) (f : α → Program W β) (w : W) :
    (p.bind f).through w = (p.through w).bind fun (a, v) => (f a).through v := by
  induction p generalizing w with
  | done a => rfl
  | step update next ih => exact ih w (update w)
  | wait ready alarm next ih =>
    rw [bind, through, through]
    cases ready w with
    | true => exact ih w
    | false => rfl

/-- A run that comes to its end goes through the end. -/
lemma through_mem_reached {p : Program W α} {w v : W} {a : α} (h : p.through w = some (a, v)) :
    v ∈ p.reached w := by
  induction p generalizing w with
  | done b =>
    cases h
    exact List.mem_singleton.2 rfl
  | step update next ih => exact List.mem_cons_of_mem _ (ih w h)
  | wait ready alarm next ih =>
    rw [through] at h
    rw [reached]
    cases now : ready w with
    | true =>
      rw [now, if_pos rfl] at h
      rw [if_pos rfl]
      exact ih h
    | false =>
      rw [now, if_neg Bool.false_ne_true] at h
      cases h

/-- Each step leads from one world to the next, and the end, if there is one, is as it should be. -/
def Proceeds (R : W → W → Prop) : Program W α → W → (α → W → Prop) → Prop
  | .done a, w, Q => Q a w
  | .step update next, w, Q => R w (update w) ∧ (next w).Proceeds R (update w) Q
  | .wait ready _ next, w, Q => ready w = true → next.Proceeds R w Q

namespace Proceeds

variable {R : W → W → Prop} {p : Program W α} {f : α → Program W β} {w v : W} {a : α}
  {Q : α → W → Prop} {Q' : β → W → Prop}

lemma through (h : p.Proceeds R w Q) (ends : p.through w = some (a, v)) : Q a v := by
  induction p generalizing w with
  | done b =>
    cases ends
    exact h
  | step update next ih => exact ih w h.2 ends
  | wait ready alarm next ih =>
    rw [Program.through] at ends
    cases now : ready w with
    | true =>
      rw [now, if_pos rfl] at ends
      exact ih (h now) ends
    | false =>
      rw [now, if_neg Bool.false_ne_true] at ends
      cases ends

variable [IsPreorder W R]

/-- Each part of a program goes on from a world to which the run leads. -/
lemma bind (h : p.Proceeds R w Q) (hf : ∀ a v, R w v → Q a v → (f a).Proceeds R v Q') :
    (p.bind f).Proceeds R w Q' := by
  induction p generalizing w with
  | done a => exact hf a w (refl w) h
  | step update next ih => exact ⟨h.1, ih w h.2 fun a v r q => hf a v (IsTrans.trans _ _ _ h.1 r) q⟩
  | wait ready alarm next ih => exact fun now => ih (h now) hf

lemma mono {Q'' : α → W → Prop} (h : p.Proceeds R w Q) (le : ∀ a v, R w v → Q a v → Q'' a v) :
    p.Proceeds R w Q'' := by
  have ends := h.bind (f := .done) le
  rwa [bind_done] at ends

/-- The first world leads to every world of the run. -/
lemma leads (h : p.Proceeds R w Q) (hv : v ∈ p.reached w) : R w v := by
  induction p generalizing w with
  | done a =>
    obtain rfl := List.mem_singleton.1 hv
    exact refl v
  | step update next ih =>
    rcases List.mem_cons.1 hv with rfl | hv
    · exact refl v
    · exact IsTrans.trans _ _ _ h.1 (ih w h.2 hv)
  | wait ready alarm next ih =>
    rw [reached] at hv
    cases now : ready w with
    | true =>
      rw [now, if_pos rfl] at hv
      exact ih (h now) hv
    | false =>
      rw [now, if_neg Bool.false_ne_true] at hv
      obtain rfl := List.mem_singleton.1 hv
      exact refl v

omit [IsPreorder W R] in
/-- What holds at the end holds of the end that the run comes to. -/
lemma ending (h : p.Proceeds R w Q) :
    p.Proceeds R w fun a v => Q a v ∧ p.through w = some (a, v) := by
  induction p generalizing w with
  | done a => exact ⟨h, rfl⟩
  | step update next ih => exact ⟨h.1, ih w h.2⟩
  | wait ready alarm next ih =>
    intro now
    rw [Program.through, now]
    exact ih (h now)

end Proceeds

end LedgerWatch.Program
