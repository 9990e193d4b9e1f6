/-!
# Slots

An unbounded row of numbered slots, of which all but finitely many hold the default value.
-/

namespace LedgerWatch

variable {α : Type} [Inhabited α]

/-- Replaces the value at a position of a list, with default values up to it where it is short. -/
def setAt : Nat → α → List α → List α
  | 0, value, [] => [value]
  | 0, value, _ :: rest => value :: rest
  | n + 1, value, [] => default :: setAt n value []
  | n + 1, value, a :: rest => a :: setAt n value rest

theorem getD_setAt_self (n : Nat) (value : α) (items : List α) :
    (setAt n value items).getD n default = value := by
  induction n generalizing items with
  | zero => cases items <;> rfl
  | succ n ih => cases items <;> simpa [setAt] using ih _

theorem getD_setAt_of_ne {n m : Nat} (h : n ≠ m) (value : α) (items : List α) :
    (setAt n value items).getD m default = items.getD m default := by
  induction n generalizing m items with
  | zero =>
    cases m with
    | zero => exact absurd rfl h
    | succ m => cases items <;> simp [setAt]
  | succ n ih =>
    cases m with
    | zero => cases items <;> simp [setAt]
    | succ m =>
      have h : n ≠ m := fun e => h (congrArg Nat.succ e)
      cases items with
      | nil => simpa [setAt] using ih h []
      | cons a rest => simpa [setAt] using ih h rest

/-- A row of slots. -/
structure Slots (α : Type) where
  items : List α := []

namespace Slots

instance : Inhabited (Slots α) :=
  ⟨{}⟩

/-- The value of a slot. -/
def get (s : Slots α) (n : Nat) : α :=
  s.items.getD n default

/-- Replaces the value of a slot. -/
def set (s : Slots α) (n : Nat) (value : α) : Slots α :=
  ⟨setAt n value s.items⟩

/-- The first slot after all that were ever set. -/
def next (s : Slots α) : Nat :=
  s.items.length

/-- Sets the first slot after all that were ever set. -/
def add (s : Slots α) (value : α) : Slots α :=
  ⟨s.items ++ [value]⟩

@[simp] theorem get_set_self (s : Slots α) (n : Nat) (value : α) : (s.set n value).get n = value :=
  getD_setAt_self n value s.items

theorem get_set_of_ne {n m : Nat} (h : n ≠ m) (s : Slots α) (value : α) :
    (s.set n value).get m = s.get m :=
  getD_setAt_of_ne h value s.items

end Slots

end LedgerWatch
