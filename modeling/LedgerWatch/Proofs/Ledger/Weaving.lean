import LedgerWatch.Proofs.Ledger.Growth
import Mathlib.Data.List.Nodup

/-!
# Ledgers whose transactions are linked

Nothing keeps a ledger from canonizing a transaction twice or under a wrong predecessor. A ledger is
woven when nobody does: every transaction that was canonized had an identifier of its own and named
the last canonized transaction of its artifact. Then the indexes of the ledger are those of the
transactions in its blocks (`Woven.indexed`), and the predecessors of an artifact's transactions
lead from the last one to the first through all of them.

The transactions of an artifact up to a block never change again (`Weaves.transactionsOf`).
-/

namespace LedgerWatch

namespace Ledger

variable {l l' : Ledger} {id : BlockId} {transactions : List Transaction} {tx : Transaction}
  {artifact : ArtifactId} {n : Nat}

/-- A transaction is canonized under a new identifier, and names the last one of its artifact. -/
structure Joins (l : Ledger) (tx : Transaction) : Prop where
  ne_initial : tx.id ≠ .initial
  fresh : l.transactions.get? tx.id = none
  previous : tx.previous = (l.heads.get? tx.artifact).getD .initial

/-- The transaction that the ledger makes next joins it. -/
lemma joins_nextTransaction {id : TransactionId} (ne_initial : id ≠ .initial)
    (fresh : l.transactions.get? id = none) (artifact : ArtifactId) (artifactType : ArtifactTypeId)
    (kind : TransactionTypeId) (newState : Option Int32) (timestamp : Timestamp) :
    l.Joins (l.nextTransaction id artifact artifactType kind newState timestamp) :=
  ⟨ne_initial, fresh, rfl⟩

/-- The transactions of a block join the ledger one after another. -/
def Links (block : BlockId) : Ledger → List Transaction → Prop
  | _, [] => True
  | l, tx :: rest => l.Joins tx ∧ Links block (canonize block l tx) rest

/-- A block is appended whose transactions join the ledger. -/
inductive Weave : Ledger → Ledger → Prop where
  | append {l : Ledger} {id : BlockId} {transactions : List Transaction} :
    l.Fresh id →
    Links id l transactions →
    Weave l (l.append id transactions)

/-- Any number of blocks are appended whose transactions join the ledger. -/
def Weaves : Ledger → Ledger → Prop :=
  Relation.ReflTransGen Weave

/-- A ledger to which only blocks were ever appended whose transactions joined it. -/
inductive Woven : Ledger → Prop where
  | empty :
    Woven {}
  | weave {l l' : Ledger} :
    Woven l →
    Weave l l' →
    Woven l'
  | setUnavailable {l : Ledger} (reason : Option String) :
    Woven l →
    Woven (l.setUnavailable reason)

/-- A ledger that is woven further may be woven further still. -/
lemma Weaves.trans {m : Ledger} (h : l.Weaves m) (k : m.Weaves l') : l.Weaves l' :=
  Relation.ReflTransGen.trans h k

/-- A woven ledger to which blocks are appended is woven. -/
lemma Woven.weaves (h : l.Woven) (g : l.Weaves l') : l'.Woven := by
  induction g with
  | refl => exact h
  | tail _ step ih => exact ih.weave step

/-- What is woven into a ledger lets it grow. -/
lemma Weaves.grows (g : l.Weaves l') : l.Grows l' := by
  refine Relation.ReflTransGen.mono (fun _ _ step => ?_) _ _ g
  cases step with
  | append fresh _ => exact .append _ fresh

/-- A woven ledger is sound. -/
lemma Woven.sound (h : l.Woven) : l.Sound := by
  induction h with
  | empty => exact .empty
  | weave _ step ih => exact ih.grows (Weaves.grows (.single step))
  | setUnavailable reason _ ih => exact ih.setUnavailable reason

/-- The last block of a ledger, or the root, stands somewhere. -/
lemma exists_stands_lastBlock (l : Ledger) : ∃ n, l.Stands l.lastBlock n := by
  unfold lastBlock
  cases last : l.blocks.getLast? with
  | none => exact ⟨0, .root⟩
  | some b => exact ⟨b.height, .block (List.mem_of_getLast? last)⟩

/-- Canonizing transactions has nothing to do with whether the ledger can be asked. -/
lemma unavailable_foldl (block : BlockId) (l : Ledger) (transactions : List Transaction) :
    (transactions.foldl (canonize block) l).unavailable = l.unavailable := by
  induction transactions generalizing l with
  | nil => rfl
  | cons tx rest ih => exact ih (canonize block l tx)

/-- A ledger that answers goes on to answer while blocks are appended. -/
lemma Weaves.unavailable (g : l.Weaves l') : l'.unavailable = l.unavailable := by
  induction g with
  | refl => rfl
  | tail _ step ih =>
    cases step with
    | append _ _ => exact (unavailable_foldl _ _ _).trans ih

/-! ### What is canonized -/

/-- The canonized transactions in order, each with its block. -/
def canonized (l : Ledger) : List (Transaction × Block) :=
  l.blocks.flatMap fun b => b.transactions.map (·, b)

/-- A block that is appended brings its transactions behind those that were canonized. -/
lemma canonized_append : (l.append id transactions).canonized
    = l.canonized ++ transactions.map (·, l.nextBlock id transactions) := by
  rw [canonized, blocks_append, List.flatMap_append, List.flatMap_singleton]
  rfl

/-- Transactions that were canonized stay so, in their order. -/
lemma Weaves.canonized_prefix (g : l.Weaves l') : l.canonized <+: l'.canonized := by
  induction g with
  | refl => exact List.prefix_refl _
  | tail _ step ih =>
    cases step with
    | append _ _ =>
      rw [canonized_append]
      exact ih.trans (List.prefix_append _ _)

/-- The canonized transactions of an artifact, the last one first, each with its block. -/
def thread (artifact : ArtifactId) (entries : List (Transaction × Block)) :
    List (Transaction × Block) :=
  (entries.filter fun e => e.1.artifact = artifact).reverse

/-- Each transaction of a list, the last one first, names the one before it. -/
def Linked : List (Transaction × Block) → Prop
  | [] => True
  | e :: rest =>
    e.1.id ≠ .initial ∧ e.1.previous = (rest.head?.map fun e => e.1.id).getD .initial ∧ Linked rest

/-- The indexes of a ledger are those of some transactions in order, which are linked. -/
structure Indexed (l : Ledger) (entries : List (Transaction × Block)) : Prop where
  nodup : (entries.map fun e => e.1.id).Nodup
  found : ∀ e ∈ entries, l.transactions.get? e.1.id = some (e.1, e.2.id)
  missing : ∀ id, id ∉ entries.map (fun e => e.1.id) → l.transactions.get? id = none
  head : ∀ artifact, l.heads.get? artifact = (thread artifact entries).head?.map fun e => e.1.id
  linked : ∀ artifact, Linked (thread artifact entries)

/-- A thread has the canonized transactions of its artifact. -/
lemma mem_thread {entries : List (Transaction × Block)} {e : Transaction × Block} :
    e ∈ thread artifact entries ↔ e ∈ entries ∧ e.1.artifact = artifact := by
  rw [thread, List.mem_reverse, List.mem_filter, decide_eq_true_iff]

/-- One more transaction comes to the front of the thread of its artifact. -/
lemma thread_concat (artifact : ArtifactId) (entries : List (Transaction × Block))
    (e : Transaction × Block) : thread artifact (entries ++ [e])
      = if e.1.artifact = artifact then e :: thread artifact entries
        else thread artifact entries := by
  by_cases same : e.1.artifact = artifact <;> simp [thread, same]

/-- An empty ledger has no index. -/
lemma Indexed.empty : Indexed {} [] where
  nodup := List.nodup_nil
  found _ mem := by cases mem
  missing _ _ := rfl
  head _ := rfl
  linked _ := trivial

/-- A transaction that joins the ledger is entered as the last one. -/
lemma Indexed.canonize {entries : List (Transaction × Block)} (h : l.Indexed entries)
    (joins : l.Joins tx) (b : Block) : (canonize b.id l tx).Indexed (entries ++ [(tx, b)]) := by
  have new : tx.id ∉ entries.map fun e => e.1.id := by
    intro mem
    obtain ⟨e, he, same⟩ := List.mem_map.1 mem
    have found := h.found e he
    rw [same, joins.fresh] at found
    cases found
  constructor
  case nodup =>
    rw [List.map_append, List.map_singleton]
    exact List.nodup_append'.2 ⟨h.nodup, List.nodup_singleton _, by simpa using new⟩
  case found =>
    intro e mem
    rw [Ledger.canonize, Index.get?_insert]
    rcases List.mem_append.1 mem with mem | mem
    · have other : e.1.id ≠ tx.id := by
        intro same
        exact new (same ▸ List.mem_map_of_mem mem)
      rw [if_neg other]
      exact h.found e mem
    · obtain rfl := List.mem_singleton.1 mem
      rw [if_pos rfl]
  case missing =>
    intro id absent
    rw [List.map_append, List.map_singleton, List.mem_append, List.mem_singleton, not_or] at absent
    rw [Ledger.canonize, Index.get?_insert, if_neg absent.2]
    exact h.missing id absent.1
  case head =>
    intro artifact
    rw [Ledger.canonize, Index.get?_insert, thread_concat]
    by_cases same : tx.artifact = artifact
    · rw [if_pos same.symm, if_pos same]
      rfl
    · rw [if_neg (Ne.symm same), if_neg same]
      exact h.head artifact
  case linked =>
    intro artifact
    rw [thread_concat]
    by_cases same : tx.artifact = artifact
    · rw [if_pos same, ← same]
      exact ⟨joins.ne_initial, by rw [joins.previous, h.head], h.linked _⟩
    · rw [if_neg same]
      exact h.linked artifact

/-- The transactions of a block are indexed one after another. -/
lemma Indexed.foldl {entries : List (Transaction × Block)} (h : l.Indexed entries) (b : Block)
    (links : Links b.id l transactions) :
    (transactions.foldl (Ledger.canonize b.id) l).Indexed
      (entries ++ transactions.map (·, b)) := by
  induction transactions generalizing l entries with
  | nil => simpa using h
  | cons tx rest ih =>
    obtain ⟨joins, links⟩ := links
    have step := ih (h.canonize joins b) links
    rwa [List.append_assoc] at step

/-- A block whose transactions join the ledger leaves the indexes those of its blocks. -/
lemma Indexed.append (h : l.Indexed l.canonized) (links : Links id l transactions) :
    (l.append id transactions).Indexed (l.append id transactions).canonized := by
  rw [canonized_append]
  obtain ⟨nodup, found, missing, head, linked⟩ := h.foldl (l.nextBlock id transactions) links
  exact ⟨nodup, found, missing, head, linked⟩

/-- Being unavailable does not touch the indexes. -/
lemma Indexed.setUnavailable {entries : List (Transaction × Block)} (h : l.Indexed entries)
    (reason : Option String) : (l.setUnavailable reason).Indexed entries :=
  ⟨h.nodup, h.found, h.missing, h.head, h.linked⟩

/-- The indexes of a woven ledger are those of the transactions in its blocks. -/
lemma Woven.indexed (h : l.Woven) : l.Indexed l.canonized := by
  induction h with
  | empty => exact .empty
  | weave _ step ih =>
    cases step with
    | append _ links => exact ih.append links
  | setUnavailable reason _ ih => exact ih.setUnavailable reason

/-! ### The transactions of an artifact -/

/-- The transactions of an artifact in the blocks up to a height, in order. -/
def transactionsOf (l : Ledger) (artifact : ArtifactId) (height : Nat) : List Transaction :=
  (l.blocks.filter fun b => b.height ≤ height).flatMap fun b =>
    b.transactions.filter fun tx => tx.artifact = artifact

/-- They are the canonized ones that are of the artifact and not above the height. -/
lemma transactionsOf_eq : l.transactionsOf artifact n
    = (l.canonized.filter fun e => decide (e.2.height ≤ n) && decide (e.1.artifact = artifact)).map
        Prod.fst := by
  unfold transactionsOf canonized
  induction l.blocks with
  | nil => rfl
  | cons b rest ih =>
    rw [List.flatMap_cons, List.filter_append, List.map_append, ← ih]
    by_cases low : b.height ≤ n
    · simp [low, List.filter_map, Function.comp_def]
    · simp [low, List.filter_map, Function.comp_def]

/-- The history of an artifact has no transaction twice. -/
lemma Woven.transactionsOf_nodup (h : l.Woven) (artifact : ArtifactId) (n : Nat) :
    ((l.transactionsOf artifact n).map Transaction.id).Nodup := by
  rw [transactionsOf_eq, List.map_map]
  exact h.indexed.nodup.sublist (List.filter_sublist.map _)

/-- What was canonized up to a block of the chain stays the same for good. -/
lemma Weaves.transactionsOf (g : l.Weaves l') (sound : l.Sound) (stands : l.Stands id n)
    (artifact : ArtifactId) : l'.transactionsOf artifact n = l.transactionsOf artifact n := by
  obtain ⟨more, e⟩ := g.grows.blocks_prefix
  have bound : n ≤ l.blocks.length := by
    cases stands with
    | root => exact Nat.zero_le _
    | block hb =>
      obtain ⟨i, hi, height⟩ := sound.getElem?_height hb
      obtain ⟨lt, -⟩ := List.getElem?_eq_some_iff.1 hi
      omega
  -- the blocks that were appended meanwhile stand above all blocks of the former chain
  have above : more.filter (fun b => b.height ≤ n) = [] := by
    rw [List.filter_eq_nil_iff]
    intro b mem
    obtain ⟨i, hi⟩ := List.mem_iff_getElem?.1 mem
    have here : l'.blocks[l.blocks.length + i]? = some b := by
      rw [← e, List.getElem?_append_right (Nat.le_add_right _ _), Nat.add_sub_cancel_left, hi]
    have height := (sound.grows g.grows).height _ b here
    simp only [decide_eq_true_eq]
    omega
  rw [Ledger.transactionsOf, Ledger.transactionsOf, ← e, List.filter_append, above,
    List.append_nil]

end Ledger

end LedgerWatch
