/-!
# Parts of a world

A part of a larger state can be looked at and replaced. The registry, the counters and the stores of
a host are parts of its world; what is done to one of them is said without the others.
-/

namespace LedgerWatch

/-- A part `S` of a world `W`. -/
structure Part (W S : Type) where
  /-- The part as it is. -/
  get : W → S
  /-- The world with the part replaced. -/
  set : S → W → W
  /-- A part that was replaced is what it was replaced by. -/
  get_set : ∀ s w, get (set s w) = s

namespace Part

variable {W S T : Type}

/-- Changes a part. -/
def modify (p : Part W S) (f : S → S) (w : W) : W :=
  p.set (f (p.get w)) w

@[simp] theorem get_modify (p : Part W S) (f : S → S) (w : W) :
    p.get (p.modify f w) = f (p.get w) :=
  p.get_set _ w

/-- A part of a part. -/
def comp (p : Part W S) (q : Part S T) : Part W T where
  get w := q.get (p.get w)
  set t w := p.set (q.set t (p.get w)) w
  get_set t w := by rw [p.get_set, q.get_set]

/-- Replacing either of two parts leaves the other as it is. -/
structure Apart (p : Part W S) (q : Part W T) : Prop where
  left : ∀ t w, p.get (q.set t w) = p.get w
  right : ∀ s w, q.get (p.set s w) = q.get w

end Part

end LedgerWatch
