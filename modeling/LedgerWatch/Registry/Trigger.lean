import LedgerWatch.Criteria.Basic
import LedgerWatch.Ledger.Reads

/-!
# When a block satisfies a criteria

A block satisfies a criteria that asks for an artifact, for a type of artifacts or for a type of
transactions when one of its transactions is of that kind. For a change of state the ledger is asked
what state each transaction of the artifact has left it in: the block's own copy does not count.
-/

namespace LedgerWatch

variable {W : Type}

/-- A recorded transaction leaves its artifact in a state other than the given one. -/
def leavesOtherState (state : Int32) (tx : Option Transaction) : Bool :=
  match tx.bind Transaction.newState with
  | some new => new ≠ state
  | none => false

/-- Whether one of the transactions is recorded with a new state other than the given one. -/
def anyLeavesOtherState (ledger : LedgerReads W) (state : Int32) :
    List Transaction → Program W (Except LedgerError Bool)
  | [] => return .ok false
  | tx :: rest => do
    match ← ledger.transaction? tx.id with
    | .error e => return .error e
    | .ok recorded =>
      if leavesOtherState state recorded then return .ok true
      else anyLeavesOtherState ledger state rest

/-- Whether a block satisfies a criteria. -/
def Criteria.triggeredBy (ledger : LedgerReads W) (c : Criteria) (b : Block) :
    Program W (Except LedgerError Bool) :=
  match c.interest with
  | .anyBlock => return .ok true
  | .artifact id => return .ok (b.transactions.any fun tx => tx.artifact = id)
  | .artifactType id => return .ok (b.transactions.any fun tx => tx.artifactType = id)
  | .transactionType id => return .ok (b.transactions.any fun tx => tx.kind = id)
  | .artifactState expected =>
    anyLeavesOtherState ledger expected.state
      (b.transactions.filter fun tx => tx.artifact = expected.artifact)

end LedgerWatch
