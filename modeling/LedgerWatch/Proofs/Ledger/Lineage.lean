import LedgerWatch.Proofs.Ledger.Changes

/-!
# The predecessors of an artifact's transactions

A ledger whose transactions were all appended as the next ones of their artifacts has a lineage for
every artifact: from its last transaction the predecessors lead through all others, from the newest
to the oldest and down the chain, to the initial one, and each transaction goes on from the state in
which its predecessor left the artifact.

The main statement is `descends_to_initial`. It rests on what is kept by one change (`Spun.apply`)
and, by induction on the thread of an artifact, on where its predecessors lead (`Indexed.descends`).
-/

namespace LedgerWatch.Ledger

variable {l : Ledger} {id : TransactionId} {visited visited' : List TransactionId}
  {entries : List (Transaction × Block)} {drafts : List Draft}

/-- What a change says of the next transaction of an artifact, if it appends one. -/
def Change.draft? : Change → Option Draft
  | append _ _ => none
  | appendNext _ draft => some draft
  | setUnavailable _ => none

/-- The way down from a transaction visits these, itself first, and ends at the initial one. -/
inductive Descends (l : Ledger) : TransactionId → List TransactionId → Prop where
  | initial :
    Descends l .initial []
  | step {id previous : TransactionId} {visited : List TransactionId} :
    id ≠ .initial →
    l.previous? id = .ok (some previous) →
    Descends l previous visited →
    Descends l id (id :: visited)

/-- There is one way down only. -/
lemma Descends.unique (h : l.Descends id visited) (k : l.Descends id visited') :
    visited = visited' := by
  induction h generalizing visited' with
  | initial =>
    cases k with
    | initial => rfl
    | step ne_initial => exact absurd rfl ne_initial
  | step ne_initial told _ ih =>
    cases k with
    | initial => exact absurd rfl ne_initial
    | step _ told' rest =>
      rw [told] at told'
      obtain rfl := Option.some.inj (Except.ok.inj told')
      rw [ih rest]

/--
Each transaction of a list, the last one first, goes on from the state in which the one before it
left the artifact; the first one from none.
-/
def Continues : List (Transaction × Block) → Prop
  | [] => True
  | e :: rest => e.1.previousState = (rest.head?.bind fun d => d.1.newState) ∧ Continues rest

/-- The identifier of the last transaction of a thread, or the initial one. -/
def tip (thread : List (Transaction × Block)) : TransactionId :=
  (thread.head?.map fun e => e.1.id).getD .initial

/-- A ledger shows a thread as the transactions of an artifact, the last one first. -/
structure Lineage (l : Ledger) (artifact : ArtifactId) (thread : List (Transaction × Block)) :
    Prop where
  head : l.head? artifact = .ok (thread.head?.map fun e => e.1.id)
  /-- The predecessors go through the thread, one step for each transaction, and nowhere else. -/
  descends : ∀ visited, l.Descends (tip thread) visited ↔ visited = thread.map fun e => e.1.id
  nodup : (thread.map fun e => e.1.id).Nodup
  transaction : ∀ e ∈ thread, l.transaction? e.1.id = .ok (some e.1)
  blockOf : ∀ e ∈ thread, l.blockOf? e.1.id = .ok (some e.2.id)
  mem : ∀ e ∈ thread, e.2 ∈ l.blocks ∧ e.1 ∈ e.2.transactions ∧ e.1.artifact = artifact
  falls : thread.Pairwise fun e d => d.2.height < e.2.height
  continues : Continues thread

/-! ### What the indexes show -/

/-- The state of an artifact is that in which its last transaction left it. -/
lemma Indexed.stateOf (h : l.Indexed entries) (artifact : ArtifactId) :
    l.stateOf artifact = (thread artifact entries).head?.bind fun e => e.1.newState := by
  rw [Ledger.stateOf, h.head]
  cases first : (thread artifact entries).head? with
  | none => rfl
  | some e =>
    have mem := (mem_thread.1 (List.mem_of_head? first)).1
    rw [Option.map_some, Option.bind_some, h.found e mem]
    rfl

/-- From the tip of a linked list of transactions the predecessors lead through all of them. -/
lemma Indexed.descends (h : l.Indexed entries) (available : l.unavailable = none)
    {thread : List (Transaction × Block)} (linked : Linked thread)
    (mem : ∀ e ∈ thread, e ∈ entries) :
    l.Descends (tip thread) (thread.map fun e => e.1.id) := by
  induction thread with
  | nil => exact .initial
  | cons e rest ih =>
    obtain ⟨ne_initial, previous, linked⟩ := linked
    have told : l.previous? e.1.id = .ok (some (tip rest)) := by
      rw [previous?, answer_of_available available, h.found e (mem e List.mem_cons_self)]
      show Except.ok (some e.1.previous) = _
      rw [previous]
      rfl
    exact .step ne_initial told (ih linked fun d hd => mem d (List.mem_cons_of_mem _ hd))

/-! ### What changes keep -/

/--
The transactions of a ledger were spun from what callers said of them: each was appended by itself,
as the next one of its artifact.
-/
structure Spun (l : Ledger) (drafts : List Draft) : Prop where
  drafts : l.canonized.map (fun e => Draft.of e.1) = drafts
  indexed : l.Indexed l.canonized
  continues : ∀ artifact, Continues (thread artifact l.canonized)
  rises : l.canonized.Pairwise fun d e => d.2.height < e.2.height
  below : ∀ e ∈ l.canonized, e.2.height ≤ l.blocks.length

/-- An empty ledger is spun from nothing. -/
lemma Spun.empty : Spun {} [] where
  drafts := rfl
  indexed := .empty
  continues _ := trivial
  rises := .nil
  below _ mem := by cases mem

/-- Whether the ledger can be asked has nothing to do with what it is spun from. -/
lemma Spun.setUnavailable (h : l.Spun drafts) (reason : Option String) :
    (l.setUnavailable reason).Spun drafts where
  drafts := h.drafts
  indexed := h.indexed.setUnavailable reason
  continues := h.continues
  rises := h.rises
  below := h.below

/-- A block without transactions adds nothing to what the ledger is spun from. -/
lemma Spun.append_nil (h : l.Spun drafts) (block : BlockId) : (l.append block []).Spun drafts := by
  have same : (l.append block []).canonized = l.canonized := by
    rw [canonized_append]
    exact List.append_nil _
  constructor
  case drafts => rw [same, h.drafts]
  case indexed => exact h.indexed.append trivial
  case continues => exact fun artifact => same ▸ h.continues artifact
  case rises => exact same ▸ h.rises
  case below =>
    intro e mem
    rw [same] at mem
    rw [blocks_append, List.length_append]
    exact Nat.le_add_right_of_le (h.below e mem)

/-- The next transaction of an artifact is spun on. -/
lemma Spun.appendNext (h : l.Spun drafts) (block : BlockId) {draft : Draft}
    (ne_initial : draft.id ≠ .initial) (fresh : draft.id ∉ drafts.map Draft.id) :
    (l.append block [draft.next l]).Spun (drafts ++ [draft]) := by
  have new : l.transactions.get? draft.id = none := by
    apply h.indexed.missing
    rwa [← h.drafts, List.map_map] at fresh
  have joins : l.Joins (draft.next l) := joins_nextTransaction ne_initial new ..
  have canonized : (l.append block [draft.next l]).canonized
      = l.canonized ++ [(draft.next l, l.nextBlock block [draft.next l])] := canonized_append
  constructor
  case drafts =>
    rw [canonized, List.map_append, h.drafts]
    rfl
  case indexed => exact h.indexed.append ⟨joins, trivial⟩
  case continues =>
    intro artifact
    rw [canonized, thread_concat]
    split
    case isTrue same =>
      -- the state was taken from the tip of the very thread that the transaction is put on
      subst same
      exact ⟨h.indexed.stateOf _, h.continues _⟩
    case isFalse => exact h.continues artifact
  case rises =>
    rw [canonized, List.pairwise_append]
    -- the new block stands above all that were there
    refine ⟨h.rises, List.pairwise_singleton _ _, fun d hd e he => ?_⟩
    obtain rfl := List.mem_singleton.1 he
    exact Nat.lt_succ_of_le (h.below d hd)
  case below =>
    intro e mem
    rw [canonized, List.mem_append, List.mem_singleton] at mem
    rw [blocks_append, List.length_append]
    rcases mem with mem | rfl
    · exact Nat.le_add_right_of_le (h.below e mem)
    · exact Nat.le_refl _

/-- A change adds its draft to what the ledger is spun from, if it has one. -/
lemma Spun.apply (h : l.Spun drafts) {c : Change}
    (empty : ∀ block transactions, c = .append block transactions → transactions = [])
    (fresh : ∀ draft, c.draft? = some draft →
      draft.id ≠ .initial ∧ draft.id ∉ drafts.map Draft.id) :
    (c.apply l).Spun (drafts ++ c.draft?.toList) := by
  cases c with
  | append block transactions =>
    obtain rfl := empty block transactions rfl
    exact (List.append_nil drafts).symm ▸ h.append_nil block
  | appendNext block draft =>
    obtain ⟨ne_initial, new⟩ := fresh draft rfl
    exact h.appendNext block ne_initial new
  | setUnavailable reason => exact (List.append_nil drafts).symm ▸ h.setUnavailable reason

/-- Changes with new identifiers spin a ledger from their drafts. -/
lemma spun_ofChanges (changes : List Change)
    (empty : ∀ block transactions, .append block transactions ∈ changes → transactions = [])
    (fresh : (TransactionId.initial :: (changes.filterMap Change.draft?).map Draft.id).Nodup) :
    (ofChanges changes).Spun (changes.filterMap Change.draft?) := by
  induction changes using List.reverseRecOn with
  | nil => exact .empty
  | append_singleton changes c ih =>
    have last : [c].filterMap Change.draft? = c.draft?.toList := by
      cases here : c.draft? <;> simp [here]
    rw [List.filterMap_append, last] at fresh ⊢
    rw [List.map_append, ← List.cons_append, List.nodup_append'] at fresh
    obtain ⟨before, -, apart⟩ := fresh
    rw [ofChanges_concat]
    refine (ih ?_ before).apply ?_ ?_
    · exact fun block transactions mem => empty block transactions (List.mem_append_left _ mem)
    · rintro block transactions rfl
      exact empty block transactions (List.mem_append_right _ List.mem_cons_self)
    · intro draft here
      rw [here] at apart
      have new : draft.id ∉ TransactionId.initial :: _ := fun mem => apart mem List.mem_cons_self
      rwa [List.mem_cons, not_or] at new

/-- The lineage of an artifact is the thread of its canonized transactions. -/
lemma Spun.lineage (h : l.Spun drafts) (available : l.unavailable = none) (artifact : ArtifactId) :
    l.Lineage artifact (thread artifact l.canonized) := by
  have mem {e : Transaction × Block} (he : e ∈ thread artifact l.canonized) : e ∈ l.canonized :=
    (mem_thread.1 he).1
  have down := h.indexed.descends available (h.indexed.linked artifact) fun _ he => mem he
  constructor
  case head => rw [head?, answer_of_available available, h.indexed.head]
  case descends =>
    intro visited
    exact ⟨fun way => way.unique down, fun same => same ▸ down⟩
  case nodup =>
    rw [thread, List.map_reverse, List.nodup_reverse]
    exact h.indexed.nodup.sublist (List.filter_sublist.map _)
  case transaction =>
    intro e he
    rw [transaction?, answer_of_available available, h.indexed.found e (mem he)]
    rfl
  case blockOf =>
    intro e he
    rw [blockOf?, answer_of_available available, h.indexed.found e (mem he)]
    rfl
  case mem =>
    intro e he
    obtain ⟨b, hb, inBlock⟩ := List.mem_flatMap.1 (mem he)
    obtain ⟨tx, htx, rfl⟩ := List.mem_map.1 inBlock
    exact ⟨hb, htx, (mem_thread.1 he).2⟩
  case falls =>
    rw [thread, List.pairwise_reverse]
    exact h.rises.filter _
  case continues => exact h.continues artifact

/--
However the transactions of artifacts are appended one by one, under identifiers of their own and
with empty blocks in between, every artifact has a lineage: its last transaction descends to the
initial one in as many steps as transactions were appended for it, through these and no others, from
the newest to the oldest. The blocks that canonized them, which are found if their identifiers are
fresh, stand lower with every step, and each transaction continues from the state that the one
before it left.
-/
theorem descends_to_initial (changes : List Change)
    (empty : ∀ block transactions, .append block transactions ∈ changes → transactions = [])
    (fresh : (TransactionId.initial :: (changes.filterMap Change.draft?).map Draft.id).Nodup)
    (available : lastReason changes = none) (artifact : ArtifactId) :
    ∃ thread, (ofChanges changes).Lineage artifact thread ∧
      thread.map (fun e => Draft.of e.1)
        = ((changes.filterMap Change.draft?).filter fun d => d.artifact = artifact).reverse ∧
      ((BlockId.root :: changes.filterMap Change.block?).Nodup →
        ∀ e ∈ thread, (ofChanges changes).block? e.2.id = .ok (some e.2)) := by
  have spun := spun_ofChanges changes empty fresh
  have opened := (tracks_ofChanges changes).unavailable.trans available
  have lineage := spun.lineage opened artifact
  refine ⟨_, lineage, ?_, fun freshBlocks e he => ?_⟩
  · rw [thread, List.map_reverse, ← spun.drafts, List.filter_map]
    rfl
  · have sound := Sound.empty.grows (grows_ofChanges changes freshBlocks)
    rw [sound.block?_of_mem (lineage.mem e he).1, answer_of_available opened]

namespace Mill

def draft (number artifact : Nat) (newState : Option Int32) : Draft :=
  ⟨.ofNat number, .ofNat artifact, .ofNat 1, .ofNat 1, newState, default⟩

/-- Two artifacts by turns, an empty block in between, and a spell of being unavailable. -/
def changes : List Change :=
  [.appendNext (.ofNat 1) (draft 1 1 (some 4)), .appendNext (.ofNat 2) (draft 2 2 (some 7)),
    .setUnavailable (some "down"), .append (.ofNat 3) [], .setUnavailable none,
    .appendNext (.ofNat 4) (draft 3 1 (some 5))]

end Mill

/-- The first artifact was changed twice, and the other one does not come into its lineage. -/
theorem descends_to_initial_in_mill :
    (ofChanges Mill.changes).head? (.ofNat 1) = .ok (some (.ofNat 3)) ∧
      (∀ visited, (ofChanges Mill.changes).Descends (.ofNat 3) visited ↔
        visited = [.ofNat 3, .ofNat 1]) ∧
      ∃ thread, (ofChanges Mill.changes).Lineage (.ofNat 1) thread ∧
        ∀ e ∈ thread, (ofChanges Mill.changes).block? e.2.id = .ok (some e.2) := by
  have empty (block : BlockId) (transactions : List Transaction)
      (mem : .append block transactions ∈ Mill.changes) : transactions = [] := by
    simp only [Mill.changes, List.mem_cons, List.not_mem_nil, Change.append.injEq, reduceCtorEq,
      false_or, or_false] at mem
    exact mem.2
  obtain ⟨thread, lineage, drafts, blocks⟩ :=
    descends_to_initial Mill.changes empty (by decide) rfl (.ofNat 1)
  have ids : thread.map (fun e => e.1.id) = [.ofNat 3, .ofNat 1] := by
    have ids := congrArg (List.map Draft.id) drafts
    rw [List.map_map] at ids
    exact ids
  have first : thread.head?.map (fun e => e.1.id) = some (.ofNat 3) := by
    rw [← List.head?_map, ids]
    rfl
  have tip_eq : tip thread = .ofNat 3 := by
    rw [tip, first]
    rfl
  refine ⟨by rw [lineage.head, first], fun visited => ?_, thread, lineage, blocks (by decide)⟩
  rw [← ids, ← tip_eq]
  exact lineage.descends visited

end LedgerWatch.Ledger
