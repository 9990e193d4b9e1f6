import LedgerWatch.Proofs.Ledger.Changes
import Mathlib.Data.List.Nodup

/-!
# Chains that canonize no transaction twice

A ledger remembers of each identifier the transaction that was canonized last under it. As long as
no identifier is canonized twice it gives back every transaction as the block of the chain has it,
whatever blocks are appended later on (`Grows.transaction?`).
-/

namespace LedgerWatch.Ledger

variable {l : Ledger} {tx : Transaction}

/-- The identifiers of the transactions in blocks, one block after another. -/
def transactionIds (blocks : List Block) : List TransactionId :=
  blocks.flatMap fun b => b.transactions.map Transaction.id

/-- No transaction is canonized twice. -/
def Distinct (blocks : List Block) : Prop :=
  (transactionIds blocks).Nodup

instance (blocks : List Block) : Decidable (Distinct blocks) :=
  inferInstanceAs (Decidable (List.Nodup _))

lemma transactionIds_append (blocks more : List Block) :
    transactionIds (blocks ++ more) = transactionIds blocks ++ transactionIds more :=
  List.flatMap_append

lemma Distinct.of_prefix {blocks chain : List Block} (h : Distinct chain)
    (along : blocks <+: chain) : Distinct blocks := by
  obtain ⟨more, rfl⟩ := along
  rw [Distinct, transactionIds_append] at h
  exact h.of_append_left

lemma transactionIds_blocks (l : Ledger) :
    transactionIds l.blocks = l.canonized.map fun e => e.1.id := by
  rw [transactionIds, canonized, List.map_flatMap]
  exact List.flatMap_congr fun b _ => by rw [List.map_map]; rfl

/-- Where no two members have the same key, the last one with a key is the only one. -/
lemma findRev?_of_nodup {α κ : Type} [DecidableEq κ] {key : α → κ} {as : List α} {a : α}
    (nodup : (as.map key).Nodup) (mem : a ∈ as) :
    as.findRev? (fun b => key b = key a) = some a := by
  induction as using List.reverseRecOn with
  | nil => cases mem
  | append_singleton as b ih =>
    rw [List.map_append, List.nodup_append'] at nodup
    obtain ⟨before, -, apart⟩ := nodup
    rw [findRev?_concat]
    rcases List.mem_append.1 mem with mem | mem
    · have other : key b ≠ key a := fun same =>
        apart (List.mem_map_of_mem mem) (same ▸ List.mem_cons_self)
      rw [if_neg (by simpa using other), ih before mem]
    · obtain rfl := List.mem_singleton.1 mem
      rw [if_pos (decide_eq_true rfl)]

/-- The index of a ledger that grew from nothing has every transaction of its blocks. -/
lemma Grows.found (g : Grows {} l) (distinct : Distinct l.blocks) {b : Block}
    (hb : b ∈ l.blocks) (mem : tx ∈ b.transactions) :
    l.transactions.get? tx.id = some (tx, b.id) := by
  have canonized : (tx, b) ∈ l.canonized := List.mem_flatMap.2 ⟨b, hb, List.mem_map_of_mem mem⟩
  rw [Distinct, transactionIds_blocks] at distinct
  rw [g.remembers.transaction]
  exact congrArg (Option.map _) (findRev?_of_nodup distinct canonized)

/-- A ledger that answers gives back every transaction of its blocks as the block has it. -/
lemma Grows.transaction? (g : Grows {} l) (distinct : Distinct l.blocks)
    (available : l.unavailable = none) {b : Block} (hb : b ∈ l.blocks)
    (mem : tx ∈ b.transactions) : l.transaction? tx.id = .ok (some tx) := by
  rw [Ledger.transaction?, answer, available, g.found distinct hb mem]
  rfl

end LedgerWatch.Ledger
