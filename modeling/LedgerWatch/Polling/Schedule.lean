import LedgerWatch.Polling.Worker

/-!
# Running a program beside workers

A program of the host runs until it waits. Then the workers have their turns until all of them wait.
When the program can still not go on, the clock moves to the earliest alarm. Whoever waits for what
never comes about is stuck.
-/

namespace LedgerWatch

namespace Program

variable {W α : Type}

/-- Runs a program until it waits or ends. -/
def advance : Program W α → W → Program W α × W
  | .done a, w => (.done a, w)
  | .step update next, w => (next w).advance (update w)
  | .wait ready alarm next, w => (.wait ready alarm next, w)

/-- Goes on with a program that waits, when the world is ready for it. -/
def resume? : Program W α → W → Option (Program W α × W)
  | .wait ready _ next, w => if ready w then some (next.advance w) else none
  | _, _ => none

/-- The time at which a program that waits is to be woken. -/
def alarm? : Program W α → Option Nat
  | .wait _ alarm _ => alarm
  | _ => none

end Program

namespace Crew

variable {W δ : Type} [Inhabited δ]

/-- Goes on with the turn of a worker, or with its next turn unless it has ended. -/
def resume? (crew : Crew W δ) (k : Nat) (turn : Program W Unit) (w : W) :
    Option (Program W Unit × W) :=
  match turn with
  | .done () => if (crew.worker k w).isFinished then none else some ((crew.turn k).advance w)
  | turn => turn.resume? w

/-- Goes once through the turns of the workers from number `k`. Tells whether any went on. -/
def pass (crew : Crew W δ) (k : Nat) : List (Program W Unit) → W →
    Bool × List (Program W Unit) × W
  | [], w => (false, [], w)
  | turn :: rest, w =>
    match crew.resume? k turn w with
    | some (turn, w) =>
      let (_, rest, w) := crew.pass (k + 1) rest w
      (true, turn :: rest, w)
    | none =>
      let (moved, rest, w) := crew.pass (k + 1) rest w
      (moved, turn :: rest, w)

/-- The turns of all workers; one that was hired since has not begun. -/
def turns (crew : Crew W δ) (begun : List (Program W Unit)) (w : W) : List (Program W Unit) :=
  begun ++ List.replicate ((crew.workers.get w).length - begun.length) (.done ())

/-- The earliest of some times. -/
def earliest (times : List (Option Nat)) : Option Nat :=
  times.reduceOption.min?

/--
Runs a program of the host beside the workers, with the turns that they are in. Nothing comes of it
when everyone waits for ever, or when the steps run out.
-/
def conduct {α : Type} (crew : Crew W δ) : Nat → Program W α → List (Program W Unit) → W →
    Option (α × W)
  | 0, _, _, _ => none
  | steps + 1, main, begun, w =>
    match main.advance w with
    | (.done a, w) => some (a, w)
    | (main, w) =>
      match crew.pass 0 (crew.turns begun w) w with
      | (true, begun, w) => crew.conduct steps main begun w
      | (false, begun, w) =>
        match main.resume? w with
        | some (main, w) => crew.conduct steps main begun w
        | none =>
          match earliest (main.alarm? :: begun.map Program.alarm?) with
          | none => none
          | some time =>
            let w := crew.clock.modify (max time) w
            match main.resume? w with
            | some (main, w) => crew.conduct steps main begun w
            | none => crew.conduct steps main begun w

end Crew

end LedgerWatch
