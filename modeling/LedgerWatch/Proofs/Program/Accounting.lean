import LedgerWatch.Proofs.Program.Amid

/-!
# Accounting for what a program does

What became of a world can be accounted for by entries, one after another, when the entries of what
was done first and of what was done then account for both together. A program whose steps need no
entry leaves the accounts as they are, whatever others do that need none either.
-/

namespace LedgerWatch

open Relation (ReflTransGen)

/-- How entries account for what became of a world. -/
structure Account (W X : Type) where
  /-- The entries account for what became of the first world in the second. -/
  holds : W → List X → W → Prop
  refl : ∀ w, holds w [] w
  trans : ∀ {u v w xs ys}, holds u xs v → holds v ys w → holds u (xs ++ ys) w

namespace Program

variable {W α β γ : Type} {E : W → W → Prop}

/-- Two programs go on alike but for what is made of the result of one. -/
lemma bind_eq_bind {p : Program W α} {f : α → Program W γ} {g : α → Program W β}
    {k : β → Program W γ} (h : ∀ a, f a = (g a).bind k) : p.bind f = (p.bind g).bind k := by
  rw [bind_assoc]
  exact congrArg p.bind (funext h)

namespace Ends

variable {p : Program W α} {w v u : W} {a : α}

/-- Others go on once a program is done. -/
lemma later (h : p.Ends E w a v) (rest : ReflTransGen E v u) : p.Ends E w a u := by
  induction h with
  | done idle => exact .done (idle.trans rest)
  | step idle _ ih => exact .step idle (ih rest)
  | wait idle now _ ih => exact .wait idle now (ih rest)

/-- A program whose result is a part of what another one gives ends when that one does. -/
lemma of_map {f : α → β} {b : β} (h : (p.bind fun a => .done (f a)).Ends E w b v) :
    ∃ a, p.Ends E w a v ∧ f a = b := by
  obtain ⟨a, u, first, second⟩ := h.of_bind
  cases second with
  | done rest => exact ⟨a, first.later rest, rfl⟩

end Ends

end Program

namespace Account

variable {W S X α : Type} {A : Account W X} {E R : W → W → Prop} {u v w : W} {xs ys : List X}

/-- Between two worlds nothing is to be accounted for. -/
def Idle (A : Account W X) (w v : W) : Prop :=
  A.holds w [] v

lemma then_idle (h : A.holds u xs v) (idle : A.Idle v w) : A.holds u xs w := by
  have both := A.trans h idle
  rwa [List.append_nil] at both

lemma idle_then (idle : A.Idle u v) (h : A.holds v xs w) : A.holds u xs w :=
  A.trans idle h

/-- Steps that need no entry need none together. -/
lemma idle_of_steps (le : ∀ w v, R w v → A.Idle w v) (steps : ReflTransGen R w v) :
    A.Idle w v := by
  induction steps with
  | refl => exact A.refl w
  | tail _ step ih => exact A.then_idle ih (le _ _ step)

variable (others : ∀ w v, E w v → A.Idle w v)

include others

lemma idle_rest (rest : ReflTransGen E w v) : A.Idle w v :=
  idle_of_steps others rest

/-- A program none of whose steps needs an entry needs none. -/
lemma ensures_idle {p : Program W α} (hp : p.Within A.Idle) :
    p.Ensures E w fun _ v => A.Idle w v := by
  intro a v ends
  refine A.idle_of_steps (fun w v step => ?_) (ends.steps hp)
  cases step with
  | inl other => exact others _ _ other
  | inr own => exact own

/-- A change of a part of the world that some entries account for. -/
lemma ensures_modify {part : Part W S} {f : S → S} (hf : ∀ v, A.holds v xs (part.modify f v)) :
    (Program.modify part f).Ensures E w fun _ v => A.holds w xs v := by
  refine .step fun v before => .done fun u after => ?_
  exact A.then_idle (A.idle_then (A.idle_rest others before) (hf v)) (A.idle_rest others after)

/-- The end of a program that is accounted for. -/
lemma ensures_done {a : α} {Q : α → W → Prop} (h : A.holds u xs w)
    (ends : ∀ v, A.holds u xs v → Q a v) : (Program.done a).Ensures E w Q :=
  .done fun v rest => ends v (A.then_idle h (A.idle_rest others rest))

/-- A last change that some entries account for, after steps that needed none. -/
lemma ensures_last {part : Part W S} {f : S → S} {a : α} {Q : α → W → Prop}
    (hf : ∀ v, A.holds v xs (part.modify f v)) (idle : A.Idle u w)
    (ends : ∀ v, A.holds u xs v → Q a v) :
    ((Program.modify part f).bind fun _ => .done a).Ensures E w Q := by
  refine .bind ((ensures_modify others hf).mono fun _ v h => ?_)
  exact ensures_done others (A.idle_then idle h) ends

end Account

end LedgerWatch
