import LedgerWatch.Part

/-!
# Programs

What watchers, pollers and hosts do is a program: a finite tree of steps that change a world, with
points between them at which the program waits and others may have their turn. A program by itself
runs from its beginning to its end and never waits.
-/

namespace LedgerWatch

/-- A program over a world `W` with a result in `α`. -/
inductive Program (W : Type) (α : Type) : Type where
  /-- Ends with a result. -/
  | done (result : α)
  /-- Changes the world; what follows depends on the world before the change. -/
  | step (update : W → W) (next : W → Program W α)
  /-- Waits until the world is ready; the clock alone may make it so at the time of the alarm. -/
  | wait (ready : W → Bool) (alarm : Option Nat) (next : Program W α)

namespace Program

variable {W S α β γ : Type}

/-- Goes on with a program that depends on the result. -/
def bind : Program W α → (α → Program W β) → Program W β
  | .done a, f => f a
  | .step update next, f => .step update fun w => (next w).bind f
  | .wait ready alarm next, f => .wait ready alarm (next.bind f)

instance : Monad (Program W) where
  pure := .done
  bind := .bind

instance [Inhabited α] : Inhabited (Program W α) :=
  ⟨.done default⟩

/-- The whole world. -/
def world : Program W W :=
  .step id .done

/-- Changes the whole world. -/
def change (f : W → W) : Program W Unit :=
  .step f fun _ => .done ()

/-- Lets others have their turn. -/
def pause : Program W Unit :=
  .wait (fun _ => true) none (.done ())

/-- Waits until the world is ready. -/
def waitFor (ready : W → Bool) (alarm : Option Nat) : Program W Unit :=
  .wait ready alarm (.done ())

/-- Looks at a part of the world. -/
def look (p : Part W S) : Program W S :=
  .step id fun w => .done (p.get w)

/-- Changes a part of the world. -/
def modify (p : Part W S) (f : S → S) : Program W Unit :=
  .step (p.modify f) fun _ => .done ()

/-- Changes a part of the world with a result. -/
def act (p : Part W S) (f : S → α × S) : Program W α :=
  .step (fun w => p.set (f (p.get w)).2 w) fun w => .done (f (p.get w)).1

/-- Runs a program by itself: every wait is over at once. -/
def run : Program W α → W → α × W
  | .done a, w => (a, w)
  | .step update next, w => (next w).run (update w)
  | .wait _ _ next, w => next.run w

@[simp] theorem pure_eq (a : α) : (pure a : Program W α) = .done a :=
  rfl

@[simp] theorem bind_eq (p : Program W α) (f : α → Program W β) : p >>= f = p.bind f :=
  rfl

theorem bind_done (p : Program W α) : p.bind .done = p := by
  induction p with
  | done a => rfl
  | step update next ih => simp [bind, ih]
  | wait ready alarm next ih => simp [bind, ih]

theorem bind_assoc (p : Program W α) (f : α → Program W β) (g : β → Program W γ) :
    (p.bind f).bind g = p.bind fun a => (f a).bind g := by
  induction p with
  | done a => rfl
  | step update next ih => simp [bind, ih]
  | wait ready alarm next ih => simp [bind, ih]

instance : LawfulMonad (Program W) :=
  LawfulMonad.mk' _ bind_done (fun _ _ => rfl) bind_assoc

@[simp] theorem run_done (a : α) (w : W) : (done a : Program W α).run w = (a, w) :=
  rfl

/-- A program that goes on runs the first part and then the second in the world that it left. -/
@[simp] theorem run_bind (p : Program W α) (f : α → Program W β) (w : W) :
    (p.bind f).run w = (f (p.run w).1).run (p.run w).2 := by
  induction p generalizing w with
  | done a => rfl
  | step update next ih => simp [bind, run, ih]
  | wait ready alarm next ih => simp [bind, run, ih]

@[simp] theorem run_look (p : Part W S) (w : W) : (look p).run w = (p.get w, w) :=
  rfl

@[simp] theorem run_modify (p : Part W S) (f : S → S) (w : W) :
    (modify p f).run w = ((), p.modify f w) :=
  rfl

@[simp] theorem run_act (p : Part W S) (f : S → α × S) (w : W) :
    (act p f).run w = ((f (p.get w)).1, p.set (f (p.get w)).2 w) :=
  rfl

@[simp] theorem run_pause (w : W) : (pause : Program W Unit).run w = ((), w) :=
  rfl

end Program

end LedgerWatch
