import LedgerWatch.Polling.Worker
import LedgerWatch.Proofs.Polling.Journal
import LedgerWatch.Proofs.Program.Amid

/-!
# What a worker gets to see

Of a worker's cycles it can be noted beside the world what the ledger answered when it was asked for
the blocks after the mark, and each failure of the offset store. These notes come from around the
poller and do not influence it: a worker with notes does step by step what it does without
(`Crew.turn_shadows`), so every life of a worker is one with notes (`Crew.Lives.noted`).
-/

namespace LedgerWatch

open Relation (ReflTransGen)

variable {W J α δ : Type}

/-- What is noted of the ledger and the store that a poller uses. -/
inductive Reading where
  /-- The ledger was asked for the blocks after a mark. -/
  | asked (answer : Except LedgerError (List Block))
  /-- A question or a write to the offset store failed. -/
  | storeFailed (error : StorageError)

/-- What is noted of an answer of the offset store. -/
def Reading.ofStore : Except StorageError α → List Reading
  | .error e => [.storeFailed e]
  | .ok _ => []

namespace Program

/-- A program of whose result something is noted beside the world. -/
def noting (f : α → List J) (p : Program W α) : Program (W × List J) α :=
  p.beside.bind fun a => (Program.modify Part.snd (· ++ f a)).bind fun _ => .done a

/-- A program of which something is noted does the same as without the note. -/
lemma noting_shadows (f : α → List J) (p : Program W α) : (p.noting f).Shadows p := by
  have h : (p.noting f).Shadows (p.bind .done) :=
    .bind (.beside p) fun a => .note (fun _ _ => rfl) fun _ _ => .done a
  rwa [bind_done] at h

end Program

/-- An offset store whose failures are noted. -/
def OffsetStore.noted (store : OffsetStore W) : OffsetStore (W × List Reading) where
  restore := store.restore.beside
  isProcessed height := (store.isProcessed height).noting Reading.ofStore
  record o := (store.record o).noting Reading.ofStore

/-- A poller of which it is noted what the ledger answers, and when the store fails. -/
def Poller.noted (p : Poller W) : Poller (W × List Reading) where
  ledger := { p.ledger.beside with
    blocksAfter id := (p.ledger.blocksAfter id).noting fun answer => [.asked answer] }
  offsets := p.offsets.noted
  notify b := (p.notify b).beside
  metrics := Part.fst.comp p.metrics

/-- A crew whose pollers are noted. -/
def Crew.noted (crew : Crew W δ) : Crew (W × List Reading) δ where
  workers := Part.fst.comp crew.workers
  clock := Part.fst.comp crew.clock
  poller d := (crew.poller d).noted

open Program (Shadows)

namespace Poller

lemma announce_shadows (p : Poller W) (b : Block) :
    (p.noted.announce b).Shadows (p.announce b) := by
  refine Shadows.bind (.beside (p.notify b)) fun answer => ?_
  cases answer with
  | ok tally => exact .modify p.metrics _
  | error e => exact .modify p.metrics _

lemma processBlock_shadows (p : Poller W) (b : Block) :
    (p.noted.processBlock b).Shadows (p.processBlock b) := by
  refine Shadows.bind (Program.noting_shadows _ (p.offsets.isProcessed b.height)) fun answer => ?_
  rcases answer with e | _ | _
  · exact .done _
  · refine Shadows.bind (announce_shadows p b) fun _ => ?_
    refine Shadows.bind (Program.noting_shadows _ (p.offsets.record _)) fun answer => ?_
    cases answer with
    | error e => exact .done _
    | ok _ => exact Shadows.bind (.modify p.metrics _) fun _ => .done _
  · exact Shadows.bind (.modify p.metrics _) fun _ => .done _

lemma processBlocks_shadows (p : Poller W) (mark : BlockId) (blocks : List Block) :
    (p.noted.processBlocks mark blocks).Shadows (p.processBlocks mark blocks) := by
  induction blocks generalizing mark with
  | nil => exact .done _
  | cons b rest ih =>
    refine Shadows.bind (processBlock_shadows p b) fun answer => ?_
    cases answer with
    | error e => exact .done _
    | ok _ => exact ih b.id

/-- A poll is the same with notes. -/
lemma poll_shadows (p : Poller W) (mark : BlockId) : (p.noted.poll mark).Shadows (p.poll mark) := by
  refine Shadows.bind (Program.noting_shadows _ (p.ledger.blocksAfter mark)) fun answer => ?_
  cases answer with
  | error e => exact .done _
  | ok blocks =>
    refine Shadows.bind (processBlocks_shadows p mark blocks) fun result => ?_
    obtain ⟨_ | _, mark⟩ := result <;> exact .done _

end Poller

namespace Crew

lemma cycle_shadows (p : Poller W) (mark : BlockId) :
    (cycle p.noted mark).Shadows (cycle p mark) := by
  refine Shadows.bind (p.poll_shadows mark) fun result => ?_
  obtain ⟨(e | e) | blocks, mark⟩ := result
  · exact Shadows.bind (.modify p.metrics _) fun _ => .done _
  · exact Shadows.bind (.modify p.metrics _) fun _ => .done _
  · exact Shadows.bind (.modify p.metrics _) fun _ =>
      Shadows.bind (.modify p.metrics _) fun _ => .done _

lemma tick_shadows (crew : Crew W δ) (k : Nat) (worker : Worker δ) :
    (crew.noted.tick k worker).Shadows (crew.tick k worker) := by
  refine Shadows.bind (.look crew.clock) fun now => ?_
  refine Shadows.bind (.modify crew.workers _) fun _ => ?_
  refine Shadows.bind (cycle_shadows (crew.poller worker.poller) worker.mark) fun result => ?_
  obtain ⟨outcome, mark⟩ := result
  refine Shadows.bind (.modify crew.workers _) fun _ => ?_
  cases outcome with
  | ok _ => exact .done _
  | error e => exact .modify crew.workers _

variable [Inhabited δ]

/-- A reaction is the same with notes. -/
lemma react_shadows (crew : Crew W δ) (k : Nat) : (crew.noted.react k).Shadows (crew.react k) := by
  refine Shadows.bind (.look crew.workers) fun workers => ?_
  dsimp only
  split
  · exact .modify crew.workers _
  · split
    · exact .modify crew.workers _
    · exact tick_shadows crew k _

/-- A worker with notes does step by step what it does without. -/
lemma turn_shadows (crew : Crew W δ) (k : Nat) : (crew.noted.turn k).Shadows (crew.turn k) := by
  refine Shadows.bind (.look crew.clock) fun now => ?_
  refine Shadows.bind (.modify crew.workers _) fun _ => ?_
  refine Shadows.bind (.look crew.workers) fun workers => ?_
  dsimp only
  split
  · exact .done _
  · split
    · exact .modify crew.workers _
    · exact Shadows.bind
        (.waitFor (fun w => (crew.worker k w).isReady (crew.clock.get w)) _)
        fun _ => react_shadows crew k

/--
The life of a worker amid others: it has one turn after another until it has ended, and others act
before, during and after its turns.
-/
def Lives (crew : Crew W δ) (others : W → W → Prop) (k : Nat) : W → W → Prop :=
  ReflTransGen fun w v =>
    others w v ∨ (crew.worker k w).isFinished = false ∧ (crew.turn k).Ends others w () v

/-- The life of a worker is one with notes. -/
lemma Lives.noted {crew : Crew W δ} {others : W → W → Prop} {k : Nat} {w v : W}
    (h : crew.Lives others k w v) :
    ∃ readings, crew.noted.Lives (Program.OnFirst others) k (w, []) (v, readings) := by
  induction h with
  | refl => exact ⟨[], .refl⟩
  | tail _ step ih =>
    obtain ⟨readings, lives⟩ := ih
    rcases step with other | ⟨unfinished, turn⟩
    · exact ⟨readings, lives.tail (.inl ⟨other, rfl⟩)⟩
    · obtain ⟨readings', ends⟩ := (turn_shadows crew k).ends readings turn
      exact ⟨readings', lives.tail (.inr ⟨unfinished, ends⟩)⟩

end Crew

end LedgerWatch
