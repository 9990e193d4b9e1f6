import LedgerWatch.Polling.Poller
import LedgerWatch.Proofs.Program.Beside

/-!
# The journal of a poller

What a poller hands on and writes down can be noted beside the world, in a journal. The journal does
not influence the poller: `poll_follows` and `create_follows` say that a poller with a journal does
in the world what it does without.
-/

namespace LedgerWatch

variable {W J : Type}

/-- What is noted of a poller. -/
inductive Note where
  /-- The poller handed a block on. -/
  | handed (block : Block)
  /-- The poller wrote an offset to its store, which obeyed or refused. -/
  | written (offset : Offset) (obeyed : Bool)

/-- What is noted, in order. -/
abbrev Journal := List Note

/-- The questions to a ledger in a world with something beside it. -/
def LedgerReads.beside (ledger : LedgerReads W) : LedgerReads (W × J) where
  latest := ledger.latest.beside
  blocksAfter id := (ledger.blocksAfter id).beside
  block? id := (ledger.block? id).beside
  transaction? id := (ledger.transaction? id).beside
  blockOf? id := (ledger.blockOf? id).beside
  head? id := (ledger.head? id).beside
  previous? id := (ledger.previous? id).beside

/-- Notes something. -/
def Journal.note (n : Note) : Program (W × Journal) Unit :=
  Program.modify Part.snd (· ++ [n])

/-- An offset store all of whose writes are noted. -/
def OffsetStore.journaled (store : OffsetStore W) : OffsetStore (W × Journal) where
  restore := store.restore.beside
  isProcessed height := (store.isProcessed height).beside
  record o := do
    let answer ← (store.record o).beside
    Journal.note (.written o answer.isOk)
    return answer

namespace Poller

/-- A poller with a journal: it notes each block before handing it on, and each write. -/
def journaled (p : Poller W) : Poller (W × Journal) where
  ledger := p.ledger.beside
  offsets := p.offsets.journaled
  notify b := do
    Journal.note (.handed b)
    (p.notify b).beside
  metrics := Part.fst.comp p.metrics

open Program (Follows)

/-- An offset is recorded the same with a journal. -/
lemma record_follows (store : OffsetStore W) (o : Offset) :
    (store.journaled.record o).Follows (store.record o) := by
  have h := (Follows.beside (J := Journal) (store.record o)).bind fun answer =>
    (Follows.done answer).note (· ++ [Note.written o answer.isOk])
  rwa [Program.bind_done] at h

lemma announce_follows (p : Poller W) (b : Block) :
    (p.journaled.announce b).Follows (p.announce b) := by
  refine Follows.bind ((Follows.beside (p.notify b)).note _) fun answer => ?_
  cases answer with
  | ok tally => exact .modify p.metrics _
  | error e => exact .modify p.metrics _

lemma processBlock_follows (p : Poller W) (b : Block) :
    (p.journaled.processBlock b).Follows (p.processBlock b) := by
  refine Follows.bind (.beside (p.offsets.isProcessed b.height)) fun processed => ?_
  cases processed with
  | error e => exact .done _
  | ok processed =>
    cases processed with
    | true => exact Follows.bind (.modify p.metrics _) fun _ => .done _
    | false =>
      refine Follows.bind (announce_follows p b) fun _ => ?_
      refine Follows.bind (record_follows p.offsets _) fun answer => ?_
      cases answer with
      | error e => exact .done _
      | ok _ => exact Follows.bind (.modify p.metrics _) fun _ => .done _

lemma processBlocks_follows (p : Poller W) (mark : BlockId) (blocks : List Block) :
    (p.journaled.processBlocks mark blocks).Follows (p.processBlocks mark blocks) := by
  induction blocks generalizing mark with
  | nil => exact .done _
  | cons b rest ih =>
    refine Follows.bind (processBlock_follows p b) fun answer => ?_
    cases answer with
    | error e => exact .done _
    | ok _ => exact ih b.id

lemma create_follows (p : Poller W) : p.journaled.create.Follows p.create := by
  refine Follows.bind (.beside p.offsets.restore) fun answer => ?_
  cases answer with
  | error e => exact .done _
  | ok offset =>
    dsimp only
    split
    · exact .done _
    · refine Follows.bind (.beside (p.ledger.block? offset.block)) fun found => ?_
      rcases found with e | _ | b
      · exact .done _
      · exact .done _
      · refine Follows.bind (processBlock_follows p b) fun answer => ?_
        cases answer with
        | error e => exact .done _
        | ok _ => exact .done _

/-- A poll is the same with a journal. -/
lemma poll_follows (p : Poller W) (mark : BlockId) :
    (p.journaled.poll mark).Follows (p.poll mark) := by
  refine Follows.bind (.beside (p.ledger.blocksAfter mark)) fun answer => ?_
  cases answer with
  | error e => exact .done _
  | ok blocks =>
    refine Follows.bind (processBlocks_follows p mark blocks) fun result => ?_
    obtain ⟨answer, mark⟩ := result
    cases answer with
    | error e => exact .done _
    | ok _ => exact .done _

end Poller

end LedgerWatch
