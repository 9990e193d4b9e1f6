/-!
# Identifiers

Blocks, transactions, artifacts and their types carry identifiers of 128 bits. The subject that an
identifier names is part of its type, so an identifier of a block is no identifier of an artifact.
-/

namespace LedgerWatch

/-- What an identifier can name. -/
inductive Subject where
  | block
  | transaction
  | artifact
  | artifactType
  | transactionType
deriving DecidableEq, Repr

/-- An identifier of one kind of subject. -/
structure Identifier (subject : Subject) where
  /-- The 128 bits. -/
  bits : BitVec 128
deriving DecidableEq, Repr

/-- The identifier of a block. -/
abbrev BlockId := Identifier .block

/-- The identifier of a transaction. -/
abbrev TransactionId := Identifier .transaction

/-- The identifier of the entity that a chain of transactions describes. -/
abbrev ArtifactId := Identifier .artifact

/-- The identifier of a type of artifacts. -/
abbrev ArtifactTypeId := Identifier .artifactType

/-- The identifier of a type of transactions. -/
abbrev TransactionTypeId := Identifier .transactionType

namespace Identifier

variable {subject : Subject}

/-- The identifier with the given 128-bit value. -/
def ofNat (n : Nat) : Identifier subject :=
  ⟨BitVec.ofNat 128 n⟩

/-- The 128-bit value. -/
def toNat (id : Identifier subject) : Nat :=
  id.bits.toNat

/-- The identifier whose bits are all zero. -/
def zero : Identifier subject :=
  ⟨0⟩

instance : Inhabited (Identifier subject) :=
  ⟨zero⟩

instance : Hashable (Identifier subject) where
  hash id := hash id.bits.toNat

/-- An identifier is zero when it is the one whose bits are all zero. -/
def isZero (id : Identifier subject) : Bool :=
  id == zero

@[simp] theorem isZero_iff {id : Identifier subject} : id.isZero = true ↔ id = zero := by
  simp [isZero]

@[simp] theorem ofNat_toNat (id : Identifier subject) : ofNat id.toNat = id := by
  cases id; simp [ofNat, toNat]

end Identifier

/-- The block that stands before the first block of every ledger. Its height is zero. -/
def BlockId.root : BlockId :=
  .zero

/-- The predecessor of the first transaction of every artifact. -/
def TransactionId.initial : TransactionId :=
  .zero

end LedgerWatch
