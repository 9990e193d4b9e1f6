import LedgerWatch.Identity.Basic

/-!
# Criteria

What a watcher wants to be told about next. A criteria names the block as of which the watcher has
seen the ledger, and at most one thing that a block must contain; with none it asks for any block.
-/

namespace LedgerWatch

/-- An artifact and the state in which the watcher last saw it. -/
structure ArtifactState where
  artifact : ArtifactId
  state : Int32
deriving DecidableEq

/-- What a watcher wants to be told about next. -/
structure Criteria where
  /-- The block as of which the watcher has seen the ledger. -/
  latestBlock : Option BlockId := none
  /-- Asks for a transaction that leaves the artifact in another state. -/
  artifactState : Option ArtifactState := none
  /-- Asks for a transaction of the artifact. -/
  artifact : Option ArtifactId := none
  /-- Asks for a transaction of an artifact of the type. -/
  artifactType : Option ArtifactTypeId := none
  /-- Asks for a transaction of the type. -/
  transactionType : Option TransactionTypeId := none
deriving DecidableEq, Inhabited

/-- The one thing that a criteria asks for. -/
inductive Interest where
  | anyBlock
  | artifactState (expected : ArtifactState)
  | artifact (id : ArtifactId)
  | artifactType (id : ArtifactTypeId)
  | transactionType (id : TransactionTypeId)
deriving DecidableEq

/-- Why a criteria is not valid. -/
inductive CriteriaError where
  | missingLatestBlock
  | tooManyDiscriminators (count : Nat)
deriving DecidableEq

/-- The wording of each error. -/
def CriteriaError.message : CriteriaError → String
  | .missingLatestBlock => "invalid criteria: latestBlockId is mandatory"
  | .tooManyDiscriminators count =>
    "invalid criteria: only latestBlockId plus at most one additional discriminator is allowed ("
      ++ String.ofList (Nat.toDigits 10 count) ++ " given)"

namespace Criteria

/-- Asks for any block after the given one. -/
def after (block : BlockId) : Criteria :=
  { latestBlock := some block }

/-- Asks for transactions of an artifact. -/
def forArtifact (c : Criteria) (id : ArtifactId) : Criteria :=
  { c with artifact := some id }

/-- Asks for transactions that leave an artifact in a state other than the given one. -/
def forArtifactState (c : Criteria) (id : ArtifactId) (state : Int32) : Criteria :=
  { c with artifactState := some ⟨id, state⟩ }

/-- Asks for transactions of artifacts of a type. -/
def forArtifactType (c : Criteria) (id : ArtifactTypeId) : Criteria :=
  { c with artifactType := some id }

/-- Asks for transactions of a type. -/
def forTransactionType (c : Criteria) (id : TransactionTypeId) : Criteria :=
  { c with transactionType := some id }

/-- How many things a criteria asks for. -/
def discriminatorCount (c : Criteria) : Nat :=
  [c.artifactState.isSome, c.artifact.isSome, c.artifactType.isSome,
    c.transactionType.isSome].countP id

/-- A criteria is valid when it names a block and asks for at most one thing. -/
def Valid (c : Criteria) : Prop :=
  c.latestBlock.isSome ∧ c.discriminatorCount ≤ 1

instance (c : Criteria) : Decidable c.Valid :=
  inferInstanceAs (Decidable (_ ∧ _))

/-- Passes a valid criteria on and reports what is wrong with any other. -/
def validate (c : Criteria) : Except CriteriaError Criteria :=
  if c.latestBlock.isNone then .error .missingLatestBlock
  else if 1 < c.discriminatorCount then .error (.tooManyDiscriminators c.discriminatorCount)
  else .ok c

/-- The same wish as of another block; nothing without a block. -/
def withBlock? (c : Criteria) (block : Option BlockId) : Option Criteria :=
  block.map fun id => { c with latestBlock := some id }

/-- What a criteria asks for; of several things, the first in this order. -/
def interest (c : Criteria) : Interest :=
  match c.artifact, c.artifactType, c.transactionType, c.artifactState with
  | some id, _, _, _ => .artifact id
  | none, some id, _, _ => .artifactType id
  | none, none, some id, _ => .transactionType id
  | none, none, none, some expected => .artifactState expected
  | none, none, none, none => .anyBlock

/-- Validation passes exactly the valid criteria, unchanged. -/
theorem validate_eq_ok_iff {c d : Criteria} : c.validate = .ok d ↔ c.Valid ∧ d = c := by
  unfold validate Valid
  cases c.latestBlock with
  | none => simp
  | some id =>
    by_cases h : 1 < c.discriminatorCount
    · simp [h, Nat.not_le.2 h]
    · simp [h, Nat.not_lt.1 h, eq_comm]

end Criteria

end LedgerWatch
