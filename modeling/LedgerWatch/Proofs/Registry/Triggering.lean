import LedgerWatch.Proofs.Registry.InForce
import LedgerWatch.Proofs.Registry.Listener
import LedgerWatch.Registry.Trigger

/-!
# When a watcher is told

A criteria that asks for nothing, or for something that a block says of its transactions, is looked
at without the ledger. For a change of state the ledger is asked about the transactions of the
artifact, one after another, and the first answer that matters decides: a fault of the ledger, or a
recorded transaction that left the artifact in another state (`triggered_as_wished`).
-/

namespace LedgerWatch

variable {W : Type} {ledger : LedgerReads W} {c : Criteria} {b b' : Block} {w : W}

/-- What a ledger answers when it is asked for a transaction. -/
abbrev Answer := Except LedgerError (Option Transaction)

/-- What a ledger answers, in a world and those that follow, when it is asked for transactions. -/
def LedgerReads.answers (ledger : LedgerReads W) : List TransactionId → W → List Answer
  | [], _ => []
  | id :: rest, w =>
    let (answer, v) := (ledger.transaction? id).run w
    answer :: ledger.answers rest v

/-- From a world on a ledger answers by the transaction, however often it is asked. -/
def LedgerReads.Steady (ledger : LedgerReads W) (w : W) (answers : Answers) : Prop :=
  ∀ ids, ledger.answers ids w = ids.map answers

/-- The transactions of an artifact in a block, in the order of the block. -/
def Block.idsOf (b : Block) (artifact : ArtifactId) : List TransactionId :=
  (b.transactions.filter fun tx => tx.artifact = artifact).map Transaction.id

/-- An answer decides nothing: it tells of no state other than the given one. -/
inductive Passes (state : Int32) : Answer → Prop where
  | absent :
    Passes state (.ok none)
  | stateless {tx : Transaction} :
    tx.newState = none →
    Passes state (.ok (some tx))
  | same {tx : Transaction} :
    tx.newState = some state →
    Passes state (.ok (some tx))

/-- A recorded transaction has left its artifact in a state other than the given one. -/
structure Changes (state : Int32) (tx : Transaction) (new : Int32) : Prop where
  left : tx.newState = some new
  ne : new ≠ state

/-- The first answer that decides something decides everything. -/
inductive Verdict (state : Int32) (answers : List Answer) : Except LedgerError Bool → Prop where
  | failed {before after : List Answer} {e : LedgerError} :
    answers = before ++ .error e :: after →
    (∀ answer ∈ before, Passes state answer) →
    Verdict state answers (.error e)
  | changed {before after : List Answer} {tx : Transaction} {new : Int32} :
    answers = before ++ .ok (some tx) :: after →
    (∀ answer ∈ before, Passes state answer) →
    Changes state tx new →
    Verdict state answers (.ok true)
  | unchanged :
    (∀ answer ∈ answers, Passes state answer) →
    Verdict state answers (.ok false)

variable {state : Int32} {answer : Answer} {answers : List Answer} {d : Except LedgerError Bool}

/-- A transaction that is found, or not, tells of another state or decides nothing. -/
lemma changes_or_passes (state : Int32) (recorded : Option Transaction) :
    (∃ tx new, recorded = some tx ∧ Changes state tx new ∧
      leavesOtherState state recorded = true) ∨
    Passes state (.ok recorded) ∧ leavesOtherState state recorded = false := by
  cases recorded with
  | none => exact .inr ⟨.absent, rfl⟩
  | some tx =>
    cases left : tx.newState with
    | none => exact .inr ⟨.stateless left, by simp [leavesOtherState, left]⟩
    | some new =>
      by_cases same : new = state
      · rw [same] at left
        exact .inr ⟨.same left, by simp [leavesOtherState, left]⟩
      · exact .inl ⟨tx, new, rfl, ⟨left, same⟩, by simp [leavesOtherState, left, same]⟩

lemma Changes.not_passes {tx : Transaction} {new : Int32} (changes : Changes state tx new) :
    ¬Passes state (.ok (some tx)) := by
  intro passes
  cases passes with
  | stateless none => cases none.symm.trans changes.left
  | same kept =>
    cases kept.symm.trans changes.left
    exact changes.ne rfl

/-- An answer that decides nothing leaves the decision to the others. -/
lemma Verdict.cons (passes : Passes state answer) (verdict : Verdict state answers d) :
    Verdict state (answer :: answers) d := by
  have all {before : List Answer} (rest : ∀ answer ∈ before, Passes state answer) :
      ∀ other ∈ answer :: before, Passes state other := by
    intro other mem
    rcases List.mem_cons.1 mem with same | mem
    · rwa [same]
    · exact rest other mem
  cases verdict with
  | failed split rest => exact .failed (congrArg (List.cons answer) split) (all rest)
  | changed split rest changes =>
    exact .changed (congrArg (List.cons answer) split) (all rest) changes
  | unchanged rest => exact .unchanged (all rest)

/-- Transactions are looked at until an answer decides. -/
lemma verdict_anyLeavesOtherState (ledger : LedgerReads W) (state : Int32)
    (txs : List Transaction) (w : W) :
    Verdict state (ledger.answers (txs.map Transaction.id) w)
      ((anyLeavesOtherState ledger state txs).run w).1 := by
  induction txs generalizing w with
  | nil => exact .unchanged fun answer mem => by cases mem
  | cons tx rest ih =>
    simp only [List.map_cons, LedgerReads.answers, anyLeavesOtherState, Program.bind_eq,
      Program.run_bind]
    cases asked : (ledger.transaction? tx.id).run w with
    | mk answer v =>
      cases answer with
      | error e => exact .failed (List.nil_append _).symm fun answer mem => by cases mem
      | ok recorded =>
        obtain ⟨found, new, rfl, changes, decides⟩ | ⟨passes, decides⟩ :=
          changes_or_passes state recorded
        · simp only [decides, if_true]
          exact .changed (List.nil_append _).symm (fun answer mem => by cases mem) changes
        · simp only [decides, Bool.false_eq_true, if_false]
          exact (ih v).cons passes

/-- Of the transactions only their numbers count. -/
lemma anyLeavesOtherState_congr (ledger : LedgerReads W) (state : Int32)
    {txs txs' : List Transaction} (same : txs'.map Transaction.id = txs.map Transaction.id) :
    anyLeavesOtherState ledger state txs' = anyLeavesOtherState ledger state txs := by
  induction txs generalizing txs' with
  | nil =>
    obtain rfl := List.map_eq_nil_iff.1 same
    rfl
  | cons tx rest ih =>
    cases txs' with
    | nil => cases same
    | cons tx' rest' =>
      obtain ⟨id, same⟩ := List.cons.inj same
      rw [anyLeavesOtherState, anyLeavesOtherState, id, ih same]

/-- Without a fault it only matters whether any answer tells of another state. -/
lemma Verdict.of_ok (verdict : Verdict state answers d)
    (fine : ∀ answer ∈ answers, ∃ recorded, answer = .ok recorded) :
    ∃ told, d = .ok told ∧
      (told = true ↔ ∃ tx new, .ok (some tx) ∈ answers ∧ Changes state tx new) := by
  cases verdict with
  | @failed before after e split =>
    have mem : (.error e : Answer) ∈ answers := by
      rw [split]
      exact List.mem_append_right _ List.mem_cons_self
    obtain ⟨recorded, ok⟩ := fine _ mem
    cases ok
  | @changed before after tx new split _ changes =>
    refine ⟨true, rfl, fun _ => ⟨tx, new, ?_, changes⟩, fun _ => rfl⟩
    rw [split]
    exact List.mem_append_right _ List.mem_cons_self
  | unchanged passes =>
    refine ⟨false, rfl, ⟨fun told => ?_, ?_⟩⟩
    · cases told
    · rintro ⟨tx, new, mem, changes⟩
      exact absurd (passes _ mem) changes.not_passes

/-- In whatever order a ledger without faults is asked, it decides the same. -/
lemma Verdict.perm {answers' : List Answer} {d' : Except LedgerError Bool}
    (verdict : Verdict state answers d) (verdict' : Verdict state answers' d')
    (perm : answers'.Perm answers)
    (fine : ∀ answer ∈ answers, ∃ recorded, answer = .ok recorded) : d' = d := by
  obtain ⟨told, rfl, iff⟩ := verdict.of_ok fine
  obtain ⟨told', rfl, iff'⟩ := verdict'.of_ok fun answer mem => fine answer (perm.mem_iff.1 mem)
  have same : told' = true ↔ told = true := by
    rw [iff, iff']
    simp only [perm.mem_iff]
  rw [Bool.eq_iff_iff.2 same]

namespace Criteria

/-- A transaction carries what a criteria asks for. -/
inductive Carried (c : Criteria) (tx : Transaction) : Prop where
  | artifact :
    c.artifact = some tx.artifact →
    Carried c tx
  | artifactType :
    c.artifactType = some tx.artifactType →
    Carried c tx
  | transactionType :
    c.transactionType = some tx.kind →
    Carried c tx

/-- The criteria that asks for one thing only. -/
def alone (latest : Option BlockId) : Interest → Criteria
  | .anyBlock => { latestBlock := latest }
  | .artifact id => { latestBlock := latest, artifact := some id }
  | .artifactType id => { latestBlock := latest, artifactType := some id }
  | .transactionType id => { latestBlock := latest, transactionType := some id }
  | .artifactState expected => { latestBlock := latest, artifactState := some expected }

/-- Valid criteria ask for one thing only. -/
lemma Valid.exists_alone (valid : c.Valid) : ∃ latest wish, c = alone latest wish := by
  have few := valid.2
  refine ⟨c.latestBlock, c.interest, ?_⟩
  obtain ⟨latest, left, artifact, artifactType, transactionType⟩ := c
  cases left <;> cases artifact <;> cases artifactType <;> cases transactionType <;>
    first
    | rfl
    | exact absurd few (by simp [discriminatorCount])

lemma carried_alone_iff {latest : Option BlockId} {wish : Interest} {tx : Transaction} :
    (alone latest wish).Carried tx ↔ wish = .artifact tx.artifact ∨
      wish = .artifactType tx.artifactType ∨ wish = .transactionType tx.kind := by
  constructor
  · intro carried
    cases wish with
    | anyBlock =>
      cases carried with
      | artifact same | artifactType same | transactionType same => cases same
    | artifactState expected =>
      cases carried with
      | artifact same | artifactType same | transactionType same => cases same
    | artifact id =>
      cases carried with
      | artifact same => exact .inl (congrArg Interest.artifact (Option.some.inj same))
      | artifactType same | transactionType same => cases same
    | artifactType id =>
      cases carried with
      | artifactType same => exact .inr (.inl (congrArg Interest.artifactType (Option.some.inj same)))
      | artifact same | transactionType same => cases same
    | transactionType id =>
      cases carried with
      | transactionType same =>
        exact .inr (.inr (congrArg Interest.transactionType (Option.some.inj same)))
      | artifact same | artifactType same => cases same
  · intro wished
    rcases wished with rfl | rfl | rfl
    · exact .artifact rfl
    · exact .artifactType rfl
    · exact .transactionType rfl

/-- What asks for something of a transaction itself is looked for in the block. -/
lemma Valid.triggeredBy_of_wish (valid : c.Valid)
    (wish : c.artifact.isSome ∨ c.artifactType.isSome ∨ c.transactionType.isSome)
    (ledger : LedgerReads W) (b : Block) :
    ∃ told, c.triggeredBy ledger b = .done (.ok told) ∧
      (told = true ↔ ∃ tx ∈ b.transactions, c.Carried tx) := by
  obtain ⟨latest, asked, rfl⟩ := valid.exists_alone
  cases asked with
  | anyBlock => simp [alone] at wish
  | artifactState expected => simp [alone] at wish
  | artifact id =>
    refine ⟨_, rfl, ?_⟩
    simp only [List.any_eq_true, decide_eq_true_eq, carried_alone_iff, reduceCtorEq, or_false,
      Interest.artifact.injEq]
    exact exists_congr fun tx => and_congr_right fun _ => eq_comm
  | artifactType id =>
    refine ⟨_, rfl, ?_⟩
    simp only [List.any_eq_true, decide_eq_true_eq, carried_alone_iff, reduceCtorEq, false_or,
      or_false, Interest.artifactType.injEq]
    exact exists_congr fun tx => and_congr_right fun _ => eq_comm
  | transactionType id =>
    refine ⟨_, rfl, ?_⟩
    simp only [List.any_eq_true, decide_eq_true_eq, carried_alone_iff, reduceCtorEq, false_or,
      Interest.transactionType.injEq]
    exact exists_congr fun tx => and_congr_right fun _ => eq_comm

/-- Whatever asks for nothing is satisfied by any block. -/
lemma triggeredBy_of_no_wish (none : c.discriminatorCount = 0) (ledger : LedgerReads W)
    (b : Block) : c.triggeredBy ledger b = .done (.ok true) := by
  have nothing : c.wishes = [] := List.eq_nil_of_length_eq_zero (c.length_wishes.trans none)
  have asks := interest_of_count (c := c) (by rw [none]; exact Nat.zero_le 1)
  rw [nothing] at asks
  rw [triggeredBy, ← asks]
  rfl

/-- For a change of state the ledger is asked about the transactions of the artifact. -/
lemma Valid.triggeredBy_of_state {expected : ArtifactState} (valid : c.Valid)
    (wish : c.artifactState = some expected) (ledger : LedgerReads W) (b : Block) :
    c.triggeredBy ledger b = anyLeavesOtherState ledger expected.state
      (b.transactions.filter fun tx => tx.artifact = expected.artifact) := by
  obtain ⟨latest, asked, rfl⟩ := valid.exists_alone
  cases asked with
  | artifactState other =>
    cases wish
    rfl
  | _ => cases wish

end Criteria

/--
Valid criteria that ask for an artifact, a type of artifacts or a type of transactions are satisfied
by a block just if one of its transactions carries it, and those that ask for nothing by any block;
the ledger is not read. For a change of state the first answer of the ledger that decides something
decides everything, in the order of the block; of the block only the numbers of the transactions of
the artifact count. If a ledger answers by the transaction and without faults, their order does not
matter. In no case does the block matter that the criteria names.
-/
theorem triggered_as_wished (valid : c.Valid) (ledger : LedgerReads W) (b : Block) :
    ((c.artifact.isSome ∨ c.artifactType.isSome ∨ c.transactionType.isSome) →
      ∃ told, c.triggeredBy ledger b = .done (.ok told) ∧
        (told = true ↔ ∃ tx ∈ b.transactions, c.Carried tx)) ∧
    (c.discriminatorCount = 0 → c.triggeredBy ledger b = .done (.ok true)) ∧
    (∀ expected, c.artifactState = some expected →
      (∀ w, Verdict expected.state (ledger.answers (b.idsOf expected.artifact) w)
        ((c.triggeredBy ledger b).run w).1) ∧
      (∀ b' : Block, b'.idsOf expected.artifact = b.idsOf expected.artifact →
        c.triggeredBy ledger b' = c.triggeredBy ledger b) ∧
      ∀ w answers, ledger.Steady w answers →
        (∀ id ∈ b.idsOf expected.artifact, ∃ recorded, answers id = .ok recorded) →
        ∀ b' : Block, b'.transactions.Perm b.transactions →
          ((c.triggeredBy ledger b').run w).1 = ((c.triggeredBy ledger b).run w).1) ∧
    ∀ latest, Criteria.triggeredBy ledger { c with latestBlock := latest } b
      = c.triggeredBy ledger b := by
  refine ⟨fun wish => valid.triggeredBy_of_wish wish ledger b,
    fun none => c.triggeredBy_of_no_wish none ledger b, fun expected wish => ?_, fun _ => rfl⟩
  have verdict (b : Block) (w : W) : Verdict expected.state
      (ledger.answers (b.idsOf expected.artifact) w) ((c.triggeredBy ledger b).run w).1 := by
    rw [valid.triggeredBy_of_state wish]
    exact verdict_anyLeavesOtherState ledger expected.state _ w
  refine ⟨verdict b, fun b' same => ?_, fun w answers steady fine b' perm => ?_⟩
  · rw [valid.triggeredBy_of_state wish, valid.triggeredBy_of_state wish]
    exact anyLeavesOtherState_congr ledger expected.state same
  · have ids : (b'.idsOf expected.artifact).Perm (b.idsOf expected.artifact) :=
      (perm.filter _).map _
    have given := verdict b w
    have given' := verdict b' w
    rw [steady] at given given'
    refine given.perm given' (ids.map answers) fun answer mem => ?_
    obtain ⟨id, there, rfl⟩ := List.mem_map.1 mem
    exact fine id there

/-- A ledger that is a part of the world, which nobody else changes, answers by the transaction. -/
lemma LedgerReads.steady_ofPart (part : Part W Ledger) (w : W) :
    (LedgerReads.ofPart part).Steady w (part.get w).transaction? := by
  intro ids
  induction ids with
  | nil => rfl
  | cons id rest ih => exact congrArg (List.cons _) ih

namespace Archive

/-- The ledger is all there is. -/
def reads : LedgerReads Ledger :=
  .ofPart ⟨id, fun ledger _ => ledger, fun _ _ => rfl⟩

/-- A transaction as it is told, which left its artifact in a state. -/
def told (id : Nat) (state : Option Int32) : Transaction :=
  ({} : Ledger).nextTransaction (.ofNat id) (.ofNat 1) (.ofNat 1) (.ofNat 1) state default

/-- Of two transactions the second one is recorded with another state than the block says. -/
def recorded : Ledger :=
  ({} : Ledger).append (.ofNat 1) [told 1 none, told 2 (some 8)]

def block : Block :=
  ⟨.ofNat 1, .root, 1, [told 1 (some 9), told 3 (some 9), told 2 (some 7)]⟩

def change : Criteria :=
  (Criteria.after .root).forArtifactState (.ofNat 1) 7

/-- What is recorded counts, not what the block says; the order of the block does not matter. -/
theorem triggered_as_wished_in_archive :
    change.Valid ∧
    ((change.triggeredBy reads block).run recorded).1 = .ok true ∧
    Verdict 7 (reads.answers (block.idsOf (.ofNat 1)) recorded) (.ok true) ∧
    ∀ b' : Block, b'.transactions.Perm block.transactions →
      ((change.triggeredBy reads b').run recorded).1 = .ok true := by
  have valid : change.Valid := by decide
  have steady : reads.Steady recorded recorded.transaction? :=
    LedgerReads.steady_ofPart _ _
  obtain ⟨-, -, state, -⟩ := triggered_as_wished valid reads block
  obtain ⟨verdict, -, order⟩ := state ⟨.ofNat 1, 7⟩ rfl
  refine ⟨valid, rfl, verdict recorded, fun b' perm => ?_⟩
  exact order recorded recorded.transaction? steady (fun id _ => ⟨_, rfl⟩) b' perm

end Archive

end LedgerWatch
