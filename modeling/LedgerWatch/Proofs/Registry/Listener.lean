import LedgerWatch.Registry.Site
import Mathlib.Tactic.Lemma

/-!
# Listeners

A listener is a watcher that minds its own business: what it replies depends on what it has heard
and on nothing else. A registration of a listener is an automaton of its own, which takes one step
for every block that the registry is notified of. The step looks at the block, at what the ledger
answers during that notification and at the registration itself, never at another one.
-/

namespace LedgerWatch

/-- What a watcher is told: a block, and the criteria that it satisfied. -/
structure Call where
  block : BlockId
  criteria : Criteria
deriving DecidableEq

/-- A watcher whose replies depend on its own calls, the last one included. -/
structure Listener where
  reply : List Call → Except WatcherError (Option Criteria)
  /-- Every call so far, the first one first. -/
  heard : List Call := []

instance : Inhabited Listener :=
  ⟨⟨fun _ => .error .panicked, []⟩⟩

/-- The listener after one more call. -/
def Listener.hear (l : Listener) (call : Call) : Listener :=
  { l with heard := l.heard ++ [call] }

/-- What a ledger answers when it is asked for transactions, while one block is notified. -/
abbrev Answers := TransactionId → Except LedgerError (Option Transaction)

/-- Whether one of the transactions is recorded with another state; the first error counts. -/
def Answers.anyOtherState (answers : Answers) (state : Int32) :
    List Transaction → Except LedgerError Bool
  | [] => .ok false
  | tx :: rest =>
    match answers tx.id with
    | .error e => .error e
    | .ok recorded =>
      if leavesOtherState state recorded then .ok true else answers.anyOtherState state rest

/-- The notification of a block, with what the ledger answers meanwhile. -/
structure Round where
  block : Block
  answers : Answers

/-- Whether the block of a round satisfies a criteria. -/
def Round.satisfies (round : Round) (c : Criteria) : Except LedgerError Bool :=
  match c.interest with
  | .anyBlock => .ok true
  | .artifact id => .ok (round.block.transactions.any fun tx => tx.artifact = id)
  | .artifactType id => .ok (round.block.transactions.any fun tx => tx.artifactType = id)
  | .transactionType id => .ok (round.block.transactions.any fun tx => tx.kind = id)
  | .artifactState expected =>
    round.answers.anyOtherState expected.state
      (round.block.transactions.filter fun tx => tx.artifact = expected.artifact)

namespace Registration

variable {reg : Registration Listener} {round : Round}

/-- The call that a round makes to a registration if it makes one. -/
def call (reg : Registration Listener) (round : Round) : Call :=
  ⟨round.block.id, reg.criteria⟩

/-- A round calls a registration that is active and whose criteria the block satisfies. -/
def called (reg : Registration Listener) (round : Round) : Bool :=
  match reg.status, round.satisfies reg.criteria with
  | .active, .ok satisfied => satisfied
  | _, _ => false

/--
What a call makes of a registration: valid criteria replace the current ones, a reply without
criteria cancels the registration, and an error, a breakdown or criteria that are not valid change
nothing.
-/
def answered (reg : Registration Listener) (call : Call) : Registration Listener :=
  let told := { reg with watcher := reg.watcher.hear call, busy := false }
  match reg.watcher.reply (reg.watcher.heard ++ [call]) with
  | .error _ => told
  | .ok none => { told with status := .cancelled }
  | .ok (some next) => if next.Valid then { told with criteria := next } else told

/-- What a round makes of a registration: nothing, unless it calls it. -/
def step (round : Round) (reg : Registration Listener) : Registration Listener :=
  if reg.called round then reg.answered (reg.call round) else reg

/-- What rounds make of a registration, one after another. -/
def steps (rounds : List Round) (reg : Registration Listener) : Registration Listener :=
  rounds.foldl (fun reg round => reg.step round) reg

/-- A registration that is cancelled is not called. -/
lemma not_called (cancelled : reg.status = .cancelled) : reg.called round = false := by
  rw [called, cancelled]

/-- A registration whose criteria could not be evaluated is not called. -/
lemma not_called_of_error {e : LedgerError} (h : round.satisfies reg.criteria = .error e) :
    reg.called round = false := by
  rw [called, h]
  cases reg.status with
  | active => rfl
  | cancelled => rfl

/-- An active registration is called just if the block satisfies its criteria. -/
lemma called_of_ok {satisfied : Bool} (active : reg.status = .active)
    (h : round.satisfies reg.criteria = .ok satisfied) : reg.called round = satisfied := by
  rw [called, active, h]

/-- A registration that is not called stays as it is. -/
@[simp] lemma step_of_not_called (h : reg.called round = false) : reg.step round = reg := by
  simp [step, h]

/-- No call gives a registration another name. -/
@[simp] lemma step_name : (reg.step round).name = reg.name := by
  unfold step answered
  split
  · split
    · rfl
    · rfl
    · split <;> rfl
  · rfl

end Registration

/-- The calls that a round makes to registrations, to one after another. -/
def Round.calls (round : Round) (regs : List (Registration Listener)) : List (Listener × Call) :=
  (regs.filter fun reg => reg.called round).map fun reg => (reg.watcher, reg.call round)

/-- A round calls one registration at most once. -/
lemma Round.calls_singleton (round : Round) (reg : Registration Listener) :
    round.calls [reg] = if reg.called round then [(reg.watcher, reg.call round)] else [] := by
  cases h : reg.called round with
  | true => simp [calls, h]
  | false => simp [calls, h]

/-- A round calls registrations one after another. -/
lemma Round.calls_cons (round : Round) (reg : Registration Listener)
    (regs : List (Registration Listener)) :
    round.calls (reg :: regs) = round.calls [reg] ++ round.calls regs := by
  cases h : reg.called round with
  | true => simp [calls, h]
  | false => simp [calls, h]

/-- The calls that rounds make to registrations, which change from each round to the next. -/
def Round.callsAll : List Round → List (Registration Listener) → List (Listener × Call)
  | [], _ => []
  | round :: rest, regs => round.calls regs ++ callsAll rest (regs.map (·.step round))

namespace Round

variable {round : Round} {reg : Registration Listener}

/-- Whether a registration is still to be notified. -/
def waiting (reg : Registration Listener) : Bool :=
  reg.status = .active

/-- Only a registration that waits is called. -/
lemma waiting_of_called (h : reg.called round = true) : waiting reg = true := by
  cases status : reg.status with
  | active => exact decide_eq_true status
  | cancelled =>
    rw [Registration.not_called status] at h
    cases h

/-- A registration that waits after a round did so before. -/
lemma waiting_of_step (h : waiting (reg.step round) = true) : waiting reg = true := by
  cases called : reg.called round with
  | true => exact waiting_of_called called
  | false =>
    rw [Registration.step_of_not_called called] at h
    exact h

/-- Who is not notified any more is not called, in whatever company. -/
lemma callsAll_filter (rounds : List Round) (regs : List (Registration Listener)) :
    callsAll rounds (regs.filter waiting) = callsAll rounds regs := by
  induction rounds generalizing regs with
  | nil => rfl
  | cons round rest ih =>
    have here : round.calls (regs.filter waiting) = round.calls regs := by
      rw [calls, calls, List.filter_filter]
      congr 1
      refine List.filter_congr fun reg _ => ?_
      cases called : reg.called round with
      | true => rw [waiting_of_called called, Bool.and_self]
      | false => rfl
    have later : ((regs.filter waiting).map (·.step round)).filter waiting
        = (regs.map (·.step round)).filter waiting := by
      rw [List.filter_map, List.filter_map, List.filter_filter]
      congr 1
      refine List.filter_congr fun reg _ => ?_
      cases after : waiting (reg.step round) with
      | true => simp [after, waiting_of_step after]
      | false => simp [after]
    rw [callsAll, callsAll, here, ← ih ((regs.filter waiting).map _), later, ih]

end Round

end LedgerWatch
