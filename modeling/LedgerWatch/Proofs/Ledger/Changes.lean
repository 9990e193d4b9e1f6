import LedgerWatch.Proofs.Ledger.Weaving
import Mathlib.Data.List.Chain
import Mathlib.Data.List.Forall2

/-!
# What a ledger answers after any changes

Callers append blocks with whatever transactions they have made, or with the next transaction of an
artifact, and make a ledger unavailable and available again. As long as no identifier of a block
comes twice, the chain and the three indexes tell the same: every question is answered from the
chain. Of a transaction that was canonized more than once, and of an artifact, the last occurrence
counts.

The main statement is `reads_reflect_chain`. It rests on what one change does (`Tracks.apply`) and
on what growth keeps: `Sound`, `Chained` and `Remembers`.
-/

namespace LedgerWatch.Ledger

/-- The next transaction of an artifact, as far as a caller says it. -/
structure Draft where
  id : TransactionId
  artifact : ArtifactId
  artifactType : ArtifactTypeId
  kind : TransactionTypeId
  newState : Option Int32
  timestamp : Timestamp
deriving DecidableEq

/-- What a caller said of a transaction. -/
def Draft.of (tx : Transaction) : Draft :=
  ⟨tx.id, tx.artifact, tx.artifactType, tx.kind, tx.newState, tx.timestamp⟩

/-- The next transaction of an artifact. -/
def Draft.next (l : Ledger) (d : Draft) : Transaction :=
  l.nextTransaction d.id d.artifact d.artifactType d.kind d.newState d.timestamp

/-- What a caller does to a ledger. -/
inductive Change where
  /-- Appends a block of transactions that the caller has made. -/
  | append (block : BlockId) (transactions : List Transaction)
  /-- Appends the next transaction of an artifact, in a block of its own. -/
  | appendNext (block : BlockId) (draft : Draft)
  | setUnavailable (reason : Option String)

namespace Change

/-- The ledger after a change. -/
def apply (l : Ledger) : Change → Ledger
  | append block transactions => l.append block transactions
  | appendNext block draft => l.append block [draft.next l]
  | setUnavailable reason => l.setUnavailable reason

/-- The identifier of the block that a change appends. -/
def block? : Change → Option BlockId
  | append block _ => some block
  | appendNext block _ => some block
  | setUnavailable _ => none

/-- A change appends a block. -/
def appends (c : Change) : Bool :=
  c.block?.isSome

/-- What a change says of whether the ledger can be asked. -/
def switch? : Change → Option (Option String)
  | append _ _ => none
  | appendNext _ _ => none
  | setUnavailable reason => some reason

/-- A block is the one that a change appends. -/
inductive Carries : Change → Block → Prop where
  | append {id : BlockId} {transactions : List Transaction} {b : Block} :
    b.id = id →
    b.transactions = transactions →
    Carries (.append id transactions) b
  | appendNext {id : BlockId} {draft : Draft} {b : Block} {tx : Transaction} :
    b.id = id →
    b.transactions = [tx] →
    Draft.of tx = draft →
    Carries (.appendNext id draft) b

/-- A change makes a ledger unavailable or available, or appends the block that it says. -/
lemma apply_cases (l : Ledger) (c : Change) :
    (∃ reason, c = .setUnavailable reason) ∨
      ∃ block transactions, c.block? = some block ∧ c.switch? = none ∧
        c.apply l = l.append block transactions ∧ c.Carries (l.nextBlock block transactions) := by
  cases c with
  | append block transactions => exact .inr ⟨block, transactions, rfl, rfl, rfl, .append rfl rfl⟩
  | appendNext block draft =>
    exact .inr ⟨block, [draft.next l], rfl, rfl, rfl, .appendNext rfl rfl rfl⟩
  | setUnavailable reason => exact .inl ⟨reason, rfl⟩

end Change

variable {l : Ledger} {entries : List (Transaction × Block)}

/-- The ledger that changes make of an empty one. -/
def ofChanges (changes : List Change) : Ledger :=
  changes.foldl Change.apply {}

/-- The last change is made to what the others make. -/
lemma ofChanges_concat (changes : List Change) (c : Change) :
    ofChanges (changes ++ [c]) = c.apply (ofChanges changes) := by
  rw [ofChanges, List.foldl_append]
  rfl

/-- Why a ledger answers no question after changes, as it was said last. -/
def lastReason (changes : List Change) : Option String :=
  (changes.filterMap Change.switch?).getLast?.join

/-- A ledger is as changes that were made one after another say. -/
structure Tracks (l : Ledger) (changes : List Change) : Prop where
  ids : l.blocks.map Block.id = changes.filterMap Change.block?
  carries : List.Forall₂ Change.Carries (changes.filter Change.appends) l.blocks
  unavailable : l.unavailable = lastReason changes

/-- A ledger goes on to be as the changes say. -/
lemma Tracks.apply {changes : List Change} (h : l.Tracks changes) (c : Change) :
    (c.apply l).Tracks (changes ++ [c]) := by
  obtain ⟨reason, rfl⟩ | ⟨block, transactions, named, silent, appends, carries⟩ := c.apply_cases l
  · constructor
    case ids =>
      rw [List.filterMap_append]
      exact h.ids.trans (List.append_nil _).symm
    case carries =>
      rw [List.filter_append]
      exact (List.append_nil _).symm ▸ h.carries
    case unavailable =>
      rw [lastReason, List.filterMap_append, List.getLast?_append]
      rfl
  · have counts : c.appends = true := Option.isSome_of_eq_some named
    rw [appends]
    constructor
    case ids =>
      rw [blocks_append, List.map_append, h.ids, List.filterMap_append,
        List.filterMap_cons_some named]
      rfl
    case carries =>
      rw [blocks_append, List.filter_append, List.filter_cons_of_pos counts]
      exact List.rel_append h.carries (.cons carries .nil)
    case unavailable =>
      rw [lastReason, List.filterMap_append, List.filterMap_cons_none silent, List.filterMap_nil,
        List.append_nil]
      exact (unavailable_foldl _ _ _).trans h.unavailable

/-- Changes make a ledger that is as they say. -/
lemma tracks_ofChanges (changes : List Change) : (ofChanges changes).Tracks changes := by
  induction changes using List.reverseRecOn with
  | nil => exact ⟨rfl, .nil, rfl⟩
  | append_singleton changes c ih =>
    rw [ofChanges_concat]
    exact ih.apply c

/-- Changes under fresh identifiers let a ledger grow. -/
lemma grows_ofChanges (changes : List Change)
    (fresh : (BlockId.root :: changes.filterMap Change.block?).Nodup) :
    Grows {} (ofChanges changes) := by
  induction changes using List.reverseRecOn with
  | nil => exact .refl
  | append_singleton changes c ih =>
    rw [List.filterMap_append, ← List.cons_append, List.nodup_append'] at fresh
    obtain ⟨before, -, apart⟩ := fresh
    rw [ofChanges_concat]
    obtain ⟨reason, rfl⟩ | ⟨block, transactions, named, -, appends, -⟩ :=
      c.apply_cases (ofChanges changes)
    · exact (ih before).tail (.setUnavailable reason)
    · rw [List.filterMap_cons_some named, ← (tracks_ofChanges changes).ids] at apart
      -- the block is named neither like the root nor like a block of the chain
      have new : block ∉ BlockId.root :: (ofChanges changes).blocks.map Block.id := fun mem =>
        apart mem List.mem_cons_self
      rw [List.mem_cons, not_or] at new
      rw [appends]
      exact (ih before).tail (.append transactions ⟨new.1, fun b hb same =>
        new.2 (same ▸ List.mem_map_of_mem hb)⟩)

/-! ### What growth keeps -/

/-- The first block names the root, and every other block the one before it. -/
structure Chained (blocks : List Block) : Prop where
  first : ∀ b, blocks.head? = some b → b.previous = .root
  next : blocks.IsChain fun a b => b.previous = a.id

/-- A block that is appended names the one before it. -/
lemma Chained.append (h : Chained l.blocks) (id : BlockId) (transactions : List Transaction) :
    Chained (l.append id transactions).blocks := by
  rw [blocks_append]
  constructor
  case first =>
    intro b first
    cases here : l.blocks with
    | nil =>
      rw [here] at first
      obtain rfl := Option.some.inj first
      simp [nextBlock, lastBlock, here]
    | cons a rest =>
      rw [here] at first
      exact h.first b (here ▸ first)
  case next =>
    refine List.isChain_append.2 ⟨h.next, .singleton _, fun a last b first => ?_⟩
    obtain rfl := Option.some.inj first
    rw [Option.mem_def] at last
    simp [nextBlock, lastBlock, last]

/-- A ledger that grew from nothing is chained. -/
lemma Grows.chained (g : Grows {} l) : Chained l.blocks := by
  induction g with
  | refl => exact ⟨nofun, .nil⟩
  | tail _ step ih =>
    cases step with
    | append transactions _ => exact ih.append _ transactions
    | setUnavailable _ => exact ih

/-- The indexes have of every identifier and of every artifact what was canonized last. -/
structure Remembers (l : Ledger) (entries : List (Transaction × Block)) : Prop where
  transaction : ∀ id, l.transactions.get? id
    = (entries.findRev? fun e => e.1.id = id).map fun e => (e.1, e.2.id)
  head : ∀ artifact, l.heads.get? artifact
    = (entries.findRev? fun e => e.1.artifact = artifact).map fun e => e.1.id

/-- What is found last is the last entry, or is found before it. -/
lemma findRev?_concat {α : Type} (p : α → Bool) (as : List α) (a : α) :
    (as ++ [a]).findRev? p = if p a then some a else as.findRev? p := by
  rw [List.findRev?_eq_find?_reverse, List.reverse_concat, List.find?_cons,
    List.findRev?_eq_find?_reverse]
  cases p a <;> rfl

/-- The indexes remember a transaction that is canonized. -/
lemma Remembers.canonize (h : l.Remembers entries) (b : Block) (tx : Transaction) :
    (canonize b.id l tx).Remembers (entries ++ [(tx, b)]) := by
  constructor
  case transaction =>
    intro id
    rw [Ledger.canonize, Index.get?_insert, findRev?_concat, h.transaction id]
    by_cases same : tx.id = id
    · simp [same]
    · simp [same, Ne.symm same]
  case head =>
    intro artifact
    rw [Ledger.canonize, Index.get?_insert, findRev?_concat, h.head artifact]
    by_cases same : tx.artifact = artifact
    · simp [same]
    · simp [same, Ne.symm same]

/-- The indexes remember the transactions of a block. -/
lemma Remembers.foldl (h : l.Remembers entries) (b : Block) (transactions : List Transaction) :
    (transactions.foldl (Ledger.canonize b.id) l).Remembers
      (entries ++ transactions.map (·, b)) := by
  induction transactions generalizing l entries with
  | nil => simpa using h
  | cons tx rest ih =>
    have step := ih (h.canonize b tx)
    rwa [List.append_assoc] at step

/-- A ledger that grew from nothing remembers what it canonized. -/
lemma Grows.remembers (g : Grows {} l) : l.Remembers l.canonized := by
  induction g with
  | refl => exact ⟨fun _ => rfl, fun _ => rfl⟩
  | tail _ step ih =>
    cases step with
    | @append id transactions _ =>
      rw [canonized_append]
      obtain ⟨transaction, head⟩ := ih.foldl (nextBlock _ id transactions) transactions
      exact ⟨transaction, head⟩
    | setUnavailable reason => exact ⟨ih.transaction, ih.head⟩

/-! ### What is answered -/

/-- A ledger answers every question from its chain. -/
structure Answers (l : Ledger) : Prop where
  latest : l.latest = .ok ((l.blocks.getLast?.map Block.id).getD .root)
  blocksAfter_root : l.blocksAfter .root = .ok l.blocks
  blocksAfter_block : ∀ b ∈ l.blocks,
    l.blocksAfter b.id = .ok (l.blocks.filter fun c => b.height < c.height)
  blocksAfter_unknown : ∀ id, id ≠ .root → (∀ b ∈ l.blocks, b.id ≠ id) →
    l.blocksAfter id = .error (.blockNotFound id)
  block : ∀ b ∈ l.blocks, l.block? b.id = .ok (some b)
  block_unknown : ∀ id, (∀ b ∈ l.blocks, b.id ≠ id) → l.block? id = .ok none
  transaction : ∀ id, l.transaction? id
    = .ok ((l.canonized.findRev? fun e => e.1.id = id).map fun e => e.1)
  blockOf : ∀ id, l.blockOf? id
    = .ok ((l.canonized.findRev? fun e => e.1.id = id).map fun e => e.2.id)
  previous : ∀ id, l.previous? id
    = .ok ((l.canonized.findRev? fun e => e.1.id = id).map fun e => e.1.previous)
  head : ∀ artifact, l.head? artifact
    = .ok ((l.canonized.findRev? fun e => e.1.artifact = artifact).map fun e => e.1.id)

/-- A ledger answers no question, and says why. -/
structure Silent (l : Ledger) (reason : String) : Prop where
  latest : l.latest = .error (.unavailable reason)
  blocksAfter : ∀ id, l.blocksAfter id = .error (.unavailable reason)
  block : ∀ id, l.block? id = .error (.unavailable reason)
  transaction : ∀ id, l.transaction? id = .error (.unavailable reason)
  blockOf : ∀ id, l.blockOf? id = .error (.unavailable reason)
  previous : ∀ id, l.previous? id = .error (.unavailable reason)
  head : ∀ artifact, l.head? artifact = .error (.unavailable reason)

/-- A ledger that cannot be asked says why to every question. -/
lemma silent_of_unavailable {reason : String} (unavailable : l.unavailable = some reason) :
    l.Silent reason := by
  have refused {α : Type} (result : Except LedgerError α) :
      l.answer result = .error (.unavailable reason) := by
    rw [answer, unavailable]
  exact ⟨refused _, fun _ => refused _, fun _ => refused _, fun _ => refused _, fun _ => refused _,
    fun _ => refused _, fun _ => refused _⟩

/-- A sound ledger that can be asked answers from its chain. -/
lemma Sound.answers (h : l.Sound) (remembers : l.Remembers l.canonized)
    (available : l.unavailable = none) : l.Answers := by
  have given {α : Type} (result : Except LedgerError α) : l.answer result = result :=
    answer_of_available available result
  constructor
  case latest => exact given _
  case blocksAfter_root => exact given _
  case blocksAfter_block =>
    intro b hb
    obtain ⟨i, hi, height⟩ := h.getElem?_height hb
    have zero : ¬b.id.isZero = true := fun zero => h.ne_root b hb (Identifier.isZero_iff.1 zero)
    rw [Ledger.blocksAfter, given, if_neg zero, (h.position _ _).2 ⟨b, hi, rfl⟩, height,
      ← h.drop_eq_filter]
  case blocksAfter_unknown =>
    intro id ne_root unknown
    have zero : ¬id.isZero = true := fun zero => ne_root (Identifier.isZero_iff.1 zero)
    rw [Ledger.blocksAfter, given, if_neg zero, h.position_eq_none unknown]
  case block =>
    intro b hb
    rw [h.block?_of_mem hb, given]
  case block_unknown =>
    intro id unknown
    rw [Ledger.block?, given, h.position_eq_none unknown]
    rfl
  case transaction =>
    intro id
    rw [transaction?, given, remembers.transaction, Option.map_map]
    rfl
  case blockOf =>
    intro id
    rw [blockOf?, given, remembers.transaction, Option.map_map]
    rfl
  case previous =>
    intro id
    rw [previous?, given, remembers.transaction, Option.map_map]
    rfl
  case head =>
    intro artifact
    rw [head?, given, remembers.head]

/--
Whatever is appended to a ledger under fresh identifiers of blocks, its chain consists of the
appended blocks, each of which stands one above the block that it names. No position in the index
of blocks is beyond the chain, and every question is answered from the chain, unless the ledger was
made unavailable last: then every question is refused for the reason that was given.
-/
theorem reads_reflect_chain (changes : List Change)
    (fresh : (BlockId.root :: changes.filterMap Change.block?).Nodup) :
    let l := ofChanges changes
    List.Forall₂ Change.Carries (changes.filter Change.appends) l.blocks ∧
      (∀ i b, l.blocks[i]? = some b → b.height = i + 1) ∧
      Chained l.blocks ∧
      (∀ id i, l.positions.get? id = some i → i < l.blocks.length) ∧
      (∀ reason, lastReason changes = some reason → l.Silent reason) ∧
      (lastReason changes = none → l.Answers) := by
  have grows := grows_ofChanges changes fresh
  have sound := Sound.empty.grows grows
  have tracks := tracks_ofChanges changes
  refine ⟨tracks.carries, sound.height, grows.chained, fun _ _ => sound.position_lt,
    fun reason last => ?_, fun last => ?_⟩
  · exact silent_of_unavailable (tracks.unavailable.trans last)
  · exact sound.answers grows.remembers (tracks.unavailable.trans last)

namespace Depot

def made (number artifact : Nat) : Transaction :=
  ⟨.ofNat number, .initial, .ofNat artifact, .ofNat 1, .ofNat 1, none, none, default⟩

/-- A transaction is canonized twice by one block and once more by another. -/
def changes : List Change :=
  [.append (.ofNat 1) [made 1 1, made 1 2], .setUnavailable (some "down"), .setUnavailable none,
    .appendNext (.ofNat 2) ⟨.ofNat 1, .ofNat 1, .ofNat 1, .ofNat 1, none, default⟩]

end Depot

/-- The second block counts for the transaction; while the ledger was down nothing was answered. -/
theorem reads_reflect_chain_at_depot :
    (ofChanges Depot.changes).blockOf? (.ofNat 1) = .ok (some (.ofNat 2)) ∧
      (ofChanges Depot.changes).head? (.ofNat 2) = .ok (some (.ofNat 1)) ∧
      (ofChanges Depot.changes).blocksAfter (.ofNat 3) = .error (.blockNotFound (.ofNat 3)) ∧
      (ofChanges (Depot.changes.take 2)).latest = .error (.unavailable "down") := by
  obtain ⟨-, -, -, -, -, answers⟩ := reads_reflect_chain Depot.changes (by decide)
  obtain ⟨-, -, -, -, silent, -⟩ := reads_reflect_chain (Depot.changes.take 2) (by decide)
  refine ⟨((answers rfl).blockOf _).trans ?_, ((answers rfl).head _).trans ?_, ?_,
    (silent "down" rfl).latest⟩
  · rfl
  · rfl
  · exact (answers rfl).blocksAfter_unknown _ (by decide) (by decide)

end LedgerWatch.Ledger
