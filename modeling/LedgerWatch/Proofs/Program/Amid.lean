import LedgerWatch.Proofs.Program.Beside
import LedgerWatch.Proofs.Program.Through
import Mathlib.Logic.Relation

/-!
# Programs amid others

A program does not have the world for itself. Before each of its steps, while it waits and once it
is done, others may take any number of steps of their own, finer than at the points where the
program lets them have their turn. `Ends E p w a v` says that `p`, begun in `w` amid others who take
the steps of `E`, can come to its end with the result `a` in `v`; `Ensures E p w Q` says that `Q`
holds at every such end. `ComesTo E p w q v` says that `p` can come to `v` with `q` still to be done.

What every step of a program does, whatever the world, is said by `Within`; then a run is a sequence
of steps of the program and of the others (`Ends.steps`).
-/

namespace LedgerWatch.Program

open Relation (ReflTransGen)

variable {W J S α β : Type}

/-- A program begun in a world amid others comes to an end with a result and a world. -/
inductive Ends (E : W → W → Prop) : Program W α → W → α → W → Prop where
  | done {a : α} {w v : W} :
    ReflTransGen E w v →
    Ends E (.done a) w a v
  | step {update : W → W} {next : W → Program W α} {w v u : W} {a : α} :
    ReflTransGen E w v →
    Ends E (next v) (update v) a u →
    Ends E (.step update next) w a u
  | wait {ready : W → Bool} {alarm : Option Nat} {next : Program W α} {w v u : W} {a : α} :
    ReflTransGen E w v →
    ready v = true →
    Ends E next v a u →
    Ends E (.wait ready alarm next) w a u

/-- A program begun in a world amid others comes to a world in which another program is left. -/
inductive ComesTo (E : W → W → Prop) : Program W α → W → Program W α → W → Prop where
  | here {p : Program W α} {w v : W} :
    ReflTransGen E w v →
    ComesTo E p w p v
  | step {update : W → W} {next : W → Program W α} {q : Program W α} {w v u : W} :
    ReflTransGen E w v →
    ComesTo E (next v) (update v) q u →
    ComesTo E (.step update next) w q u
  | wait {ready : W → Bool} {alarm : Option Nat} {next q : Program W α} {w v u : W} :
    ReflTransGen E w v →
    ready v = true →
    ComesTo E next v q u →
    ComesTo E (.wait ready alarm next) w q u

/-- Whatever others do meanwhile, the end is as it should be if the program comes to one. -/
def Ensures (E : W → W → Prop) (p : Program W α) (w : W) (Q : α → W → Prop) : Prop :=
  ∀ a v, p.Ends E w a v → Q a v

/-- A program can come to its end, and does so with one answer only. -/
def Answers (E : W → W → Prop) (p : Program W α) (w : W) (a : α) : Prop :=
  (∃ v, p.Ends E w a v) ∧ p.Ensures E w fun b _ => b = a

/-- Each step of a program leads from one world to the next by a relation. -/
def Within (R : W → W → Prop) : Program W α → Prop
  | .done _ => True
  | .step update next => ∀ w, R w (update w) ∧ (next w).Within R
  | .wait _ _ next => next.Within R

namespace Ends

variable {E : W → W → Prop} {p : Program W α} {f : α → Program W β} {w v u : W} {a : α} {b : β}

/-- A program that ends after another one begins where the first ended. -/
lemma of_bind (h : (p.bind f).Ends E w b u) : ∃ a v, p.Ends E w a v ∧ (f a).Ends E v b u := by
  induction p generalizing w with
  | done a => exact ⟨a, w, .done .refl, h⟩
  | step update next ih =>
    cases h with
    | step rest h =>
      obtain ⟨a, v, first, second⟩ := ih _ h
      exact ⟨a, v, .step rest first, second⟩
  | wait ready alarm next ih =>
    cases h with
    | wait rest now h =>
      obtain ⟨a, v, first, second⟩ := ih h
      exact ⟨a, v, .wait rest now first, second⟩

/-- Others may act before a program begins. -/
lemma before (rest : ReflTransGen E w v) (h : p.Ends E v a u) : p.Ends E w a u := by
  cases h with
  | done rest' => exact .done (rest.trans rest')
  | step rest' h => exact .step (rest.trans rest') h
  | wait rest' now h => exact .wait (rest.trans rest') now h

/-- A program that begins where another one ends is the rest of it. -/
lemma bind (h : p.Ends E w a v) (h' : (f a).Ends E v b u) : (p.bind f).Ends E w b u := by
  induction h with
  | done rest => exact h'.before rest
  | step rest _ ih => exact .step rest (ih h')
  | wait rest now _ ih => exact .wait rest now (ih h')

/-- Nobody else has to act for a program that never has to wait for others. -/
lemma of_through (h : p.through w = some (a, v)) : p.Ends E w a v := by
  induction p generalizing w with
  | done b =>
    cases h
    exact .done .refl
  | step update next ih => exact .step .refl (ih w h)
  | wait ready alarm next ih =>
    rw [through] at h
    cases now : ready w with
    | true =>
      rw [now, if_pos rfl] at h
      exact .wait .refl now (ih h)
    | false =>
      rw [now, if_neg Bool.false_ne_true] at h
      cases h

/-- A run consists of steps of the program and of the others. -/
lemma steps {R : W → W → Prop} (hp : p.Within R) (h : p.Ends E w a v) :
    ReflTransGen (fun w v => E w v ∨ R w v) w v := by
  have others {w v : W} (rest : ReflTransGen E w v) :
      ReflTransGen (fun w v => E w v ∨ R w v) w v :=
    ReflTransGen.mono (fun _ _ => .inl) _ _ rest
  induction h with
  | done rest => exact others rest
  | step rest _ ih => exact ((others rest).tail (.inr (hp _).1)).trans (ih (hp _).2)
  | wait rest _ _ ih => exact (others rest).trans (ih hp)

end Ends

/-! ### Where a program waits -/

namespace ComesTo

variable {E : W → W → Prop} {update : W → W} {next : W → Program W α} {ready : W → Bool}
  {alarm : Option Nat} {rest : Program W α} {w u : W} {a : α}

/-- A program that is done does not wait. -/
lemma not_done (comes : (Program.done a).ComesTo E w (.wait ready alarm rest) u) : False := by
  cases comes

/-- A program that takes a step waits only after it. -/
lemma of_step (comes : (Program.step update next).ComesTo E w (.wait ready alarm rest) u) :
    ∃ v, ReflTransGen E w v ∧ (next v).ComesTo E (update v) (.wait ready alarm rest) u := by
  cases comes with
  | step idle comes => exact ⟨_, idle, comes⟩

end ComesTo

/-! ### What a program ensures -/

/-- What is kept by each step is kept by any number of steps. -/
lemma kept {E : W → W → Prop} {I : W → Prop} (others : ∀ w v, E w v → I w → I v) {w v : W}
    (hw : I w) (rest : ReflTransGen E w v) : I v := by
  induction rest with
  | refl => exact hw
  | tail _ step ih => exact others _ _ step ih

namespace Ensures

variable {E : W → W → Prop} {p : Program W α} {f : α → Program W β} {w : W} {Q : α → W → Prop}
  {Q' : β → W → Prop}

/-- The end of a program that is done is where others lead. -/
lemma done {a : α} (h : ∀ v, ReflTransGen E w v → Q a v) : (Program.done a).Ensures E w Q := by
  rintro _ v ⟨rest⟩
  exact h v rest

/-- A step is taken in some world to which others lead. -/
lemma step {update : W → W} {next : W → Program W α}
    (h : ∀ v, ReflTransGen E w v → (next v).Ensures E (update v) Q) :
    (Program.step update next).Ensures E w Q := by
  rintro a u (_ | ⟨rest, ends⟩)
  exact h _ rest a u ends

/-- A wait is over in some world to which others lead, and which is ready. -/
lemma wait {ready : W → Bool} {alarm : Option Nat} {next : Program W α}
    (h : ∀ v, ReflTransGen E w v → ready v = true → next.Ensures E v Q) :
    (Program.wait ready alarm next).Ensures E w Q := by
  rintro a u (_ | _ | ⟨rest, now, ends⟩)
  exact h _ rest now a u ends

/-- What is ensured of a program may be what its rest ensures. -/
lemma bind (h : p.Ensures E w fun a v => (f a).Ensures E v Q') : (p.bind f).Ensures E w Q' := by
  intro b u ends
  obtain ⟨a, v, first, second⟩ := ends.of_bind
  exact h a v first b u second

/-- What is ensured may be weakened. -/
lemma mono {Q'' : α → W → Prop} (h : p.Ensures E w Q) (le : ∀ a v, Q a v → Q'' a v) :
    p.Ensures E w Q'' :=
  fun a v ends => le a v (h a v ends)

/-- Two things that are ensured are ensured together. -/
lemma and {Q'' : α → W → Prop} (h : p.Ensures E w Q) (h' : p.Ensures E w Q'') :
    p.Ensures E w fun a v => Q a v ∧ Q'' a v :=
  fun a v ends => ⟨h a v ends, h' a v ends⟩

/-- What all steps of the program and of the others keep holds at the end. -/
lemma of_within {I : W → Prop} {R : W → W → Prop} (hp : p.Within R)
    (others : ∀ w v, E w v → I w → I v) (own : ∀ w v, R w v → I w → I v) (hw : I w) :
    p.Ensures E w fun _ v => I v :=
  fun _ _ ends => kept (fun w v step => step.elim (others w v) (own w v)) hw (ends.steps hp)

end Ensures

/-! ### Steps of programs -/

namespace Within

variable {R R' : W → W → Prop} {p : Program W α}

/-- A relation that allows more is kept to as well. -/
lemma mono (le : ∀ w v, R w v → R' w v) (h : p.Within R) : p.Within R' := by
  induction p with
  | done a => trivial
  | step update next ih => exact fun w => ⟨le _ _ (h w).1, ih w (h w).2⟩
  | wait ready alarm next ih => exact ih h

/-- Two relations are kept to together. -/
lemma and (h : p.Within R) (h' : p.Within R') : p.Within fun w v => R w v ∧ R' w v := by
  induction p with
  | done a => trivial
  | step update next ih => exact fun w => ⟨⟨(h w).1, (h' w).1⟩, ih w (h w).2 (h' w).2⟩
  | wait ready alarm next ih => exact ih h h'

lemma done (a : α) : (Program.done a : Program W α).Within R :=
  trivial

/-- Nothing is said of the steps. -/
lemma any (p : Program W α) : p.Within fun _ _ => True := by
  induction p with
  | done a => trivial
  | step update next ih => exact fun w => ⟨trivial, ih w⟩
  | wait ready alarm next ih => exact ih

/-- Two programs that keep to a relation do so one after the other. -/
lemma bind {f : α → Program W β} (h : p.Within R) (hf : ∀ a, (f a).Within R) :
    (p.bind f).Within R := by
  induction p with
  | done a => exact hf a
  | step update next ih => exact fun w => ⟨(h w).1, ih w (h w).2⟩
  | wait ready alarm next ih => exact ih h

lemma look (refl : ∀ w, R w w) (part : Part W S) : (Program.look part).Within R :=
  fun w => ⟨refl w, trivial⟩

lemma modify {part : Part W S} (sets : ∀ s w, R w (part.set s w)) (f : S → S) :
    (Program.modify part f).Within R :=
  fun w => ⟨sets _ w, trivial⟩

/-- Beside something else, a program keeps to its relation and leaves that alone. -/
lemma beside (h : p.Within R) :
    (p.beside : Program (W × J) α).Within fun s s' => R s.1 s'.1 ∧ s'.2 = s.2 := by
  induction p with
  | done a => trivial
  | step update next ih => exact fun w => ⟨⟨(h w.1).1, rfl⟩, ih w.1 (h w.1).2⟩
  | wait ready alarm next ih => exact ih h

end Within

/-- Two programs stand beside something one after the other as they do together. -/
lemma beside_bind (p : Program W α) (f : α → Program W β) :
    ((p.bind f).beside : Program (W × J) β) = p.beside.bind fun a => (f a).beside := by
  induction p with
  | done a => rfl
  | step update next ih => exact congrArg (Program.step _) (funext fun w => ih w.1)
  | wait ready alarm next ih => exact congrArg (Program.wait _ _) ih

/-- What a program ensures beside something may be what its rest ensures there. -/
lemma Ensures.beside_bind {E : W × J → W × J → Prop} {p : Program W α} {f : α → Program W β}
    {s : W × J} {Q : β → W × J → Prop}
    (h : p.beside.Ensures E s fun a s' => (f a).beside.Ensures E s' Q) :
    (p.bind f).beside.Ensures E s Q := by
  rw [LedgerWatch.Program.beside_bind]
  exact .bind h

/-! ### Notes beside the world -/

/-- The steps of others, who leave alone what stands beside the world. -/
def OnFirst (E : W → W → Prop) (s s' : W × J) : Prop :=
  E s.1 s'.1 ∧ s'.2 = s.2

/--
A program over a world and something beside it does step by step what another program does in the
world, and steps of its own that leave the world as it is.
-/
inductive Shadows : Program (W × J) α → Program W α → Prop where
  | done (a : α) :
    Shadows (.done a) (.done a)
  | step {update' : W × J → W × J} {next' : W × J → Program (W × J) α} {update : W → W}
      {next : W → Program W α} :
    (∀ w j, (update' (w, j)).1 = update w) →
    (∀ w j, Shadows (next' (w, j)) (next w)) →
    Shadows (.step update' next') (.step update next)
  | note {update' : W × J → W × J} {next' : W × J → Program (W × J) α} {p : Program W α} :
    (∀ w j, (update' (w, j)).1 = w) →
    (∀ w j, Shadows (next' (w, j)) p) →
    Shadows (.step update' next') p
  | wait {ready : W → Bool} {alarm : Option Nat} {next' : Program (W × J) α}
      {next : Program W α} :
    Shadows next' next →
    Shadows (.wait (fun s => ready s.1) alarm next') (.wait ready alarm next)

namespace Shadows

variable {E : W → W → Prop} {q : Program (W × J) α} {p : Program W α} {w v : W} {j : J} {a : α}

/-- A program beside something does what it does without it. -/
lemma beside (p : Program W α) : (p.beside : Program (W × J) α).Shadows p := by
  induction p with
  | done a => exact .done a
  | step update next ih => exact .step (fun _ _ => rfl) fun w _ => ih w
  | wait ready alarm next ih => exact .wait ih

/-- Programs that do the same step by step do so one after the other. -/
lemma bind {g : α → Program (W × J) β} {f : α → Program W β} (h : q.Shadows p)
    (hf : ∀ a, (g a).Shadows (f a)) : (q.bind g).Shadows (p.bind f) := by
  induction h with
  | done a => exact hf a
  | step same _ ih => exact .step same ih
  | note same _ ih => exact .note same ih
  | wait _ ih => exact .wait ih

lemma look (part : Part W S) :
    (Program.look (Part.fst.comp part) : Program (W × J) S).Shadows (Program.look part) :=
  .step (fun _ _ => rfl) fun _ _ => .done _

lemma modify (part : Part W S) (f : S → S) :
    (Program.modify (Part.fst.comp part) f : Program (W × J) Unit).Shadows
      (Program.modify part f) :=
  .step (fun _ _ => rfl) fun _ _ => .done _

lemma waitFor (ready : W → Bool) (alarm : Option Nat) :
    (Program.waitFor (fun s => ready s.1) alarm : Program (W × J) Unit).Shadows
      (Program.waitFor ready alarm) :=
  .wait (.done ())

/-- Others do not look at what stands beside the world. -/
lemma rest (j : J) (rest : ReflTransGen E w v) :
    ReflTransGen (OnFirst E) (w, j) (v, j) := by
  induction rest with
  | refl => exact .refl
  | tail _ step ih => exact ih.tail ⟨step, rfl⟩

/-- To every end of the program leads a run with notes. -/
lemma ends (h : q.Shadows p) (j : J) (ends : p.Ends E w a v) :
    ∃ j', q.Ends (OnFirst E) (w, j) a (v, j') := by
  -- by induction on how the notes are made; the steps of others are taken over as they are
  induction h generalizing w j with
  | done b =>
    cases ends with
    | done idle => exact ⟨j, .done (rest j idle)⟩
  | @step update' next' update next same _ ih =>
    cases ends with
    | @step _ _ _ u _ _ idle ends =>
      obtain ⟨j', walk⟩ := ih u j (update' (u, j)).2 ends
      have here : update' (u, j) = (update u, (update' (u, j)).2) := Prod.ext (same u j) rfl
      rw [← here] at walk
      exact ⟨j', .step (rest j idle) walk⟩
  | @note update' next' p same _ ih =>
    obtain ⟨j', walk⟩ := ih w j (update' (w, j)).2 ends
    have here : update' (w, j) = (w, (update' (w, j)).2) := Prod.ext (same w j) rfl
    rw [← here] at walk
    exact ⟨j', .step .refl walk⟩
  | wait _ ih =>
    cases ends with
    | wait idle now ends =>
      obtain ⟨j', walk⟩ := ih j ends
      exact ⟨j', .wait (rest j idle) now walk⟩

end Shadows

end LedgerWatch.Program
