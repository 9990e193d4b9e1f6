import LedgerWatch.Polling.Worker
import LedgerWatch.Proofs.Program.Amid

/-!
# What every step of a poller and of a worker keeps to

A poller asks the ledger, uses the offset store, hands blocks on and counts; a worker changes its
entry among the workers besides. Whatever all of these keep to in each step, a poller and a worker
keep to as well, from every world.
-/

namespace LedgerWatch

open Program (Within)

variable {W δ : Type}

namespace Poller

/-- Everything that a poller works with keeps to a relation in each step. -/
structure Abides (p : Poller W) (R : W → W → Prop) : Prop where
  blocksAfter : ∀ id, (p.ledger.blocksAfter id).Within R
  block? : ∀ id, (p.ledger.block? id).Within R
  restore : p.offsets.restore.Within R
  isProcessed : ∀ height, (p.offsets.isProcessed height).Within R
  record : ∀ o, (p.offsets.record o).Within R
  notify : ∀ b, (p.notify b).Within R
  metrics : ∀ m w, R w (p.metrics.set m w)

namespace Abides

variable {p : Poller W} {R : W → W → Prop}

lemma mono {R' : W → W → Prop} (le : ∀ w v, R w v → R' w v) (hp : p.Abides R) : p.Abides R' where
  blocksAfter id := (hp.blocksAfter id).mono le
  block? id := (hp.block? id).mono le
  restore := hp.restore.mono le
  isProcessed height := (hp.isProcessed height).mono le
  record o := (hp.record o).mono le
  notify b := (hp.notify b).mono le
  metrics m w := le _ _ (hp.metrics m w)

section

variable (hp : p.Abides R)

include hp

lemma announce (b : Block) : (p.announce b).Within R := by
  refine Within.bind (hp.notify b) fun answer => ?_
  cases answer <;> exact .modify hp.metrics _

lemma processBlock (b : Block) : (p.processBlock b).Within R := by
  refine Within.bind (hp.isProcessed _) fun answer => ?_
  rcases answer with e | _ | _
  · exact .done _
  · refine Within.bind (hp.announce b) fun _ => ?_
    refine Within.bind (hp.record _) fun answer => ?_
    cases answer with
    | error e => exact .done _
    | ok _ => exact Within.bind (.modify hp.metrics _) fun _ => .done _
  · exact Within.bind (.modify hp.metrics _) fun _ => .done _

lemma processBlocks (mark : BlockId) (blocks : List Block) :
    (p.processBlocks mark blocks).Within R := by
  induction blocks generalizing mark with
  | nil => exact .done _
  | cons b rest ih =>
    refine Within.bind (hp.processBlock b) fun answer => ?_
    cases answer with
    | error e => exact .done _
    | ok _ => exact ih b.id

lemma create : p.create.Within R := by
  refine Within.bind hp.restore fun answer => ?_
  cases answer with
  | error e => exact .done _
  | ok offset =>
    dsimp only
    split
    · exact .done _
    · refine Within.bind (hp.block? _) fun found => ?_
      rcases found with e | _ | b
      · exact .done _
      · exact .done _
      · refine Within.bind (hp.processBlock b) fun answer => ?_
        cases answer <;> exact .done _

/-- A poll keeps to the relation. -/
lemma poll (mark : BlockId) : (p.poll mark).Within R := by
  refine Within.bind (hp.blocksAfter mark) fun answer => ?_
  cases answer with
  | error e => exact .done _
  | ok blocks =>
    refine Within.bind (hp.processBlocks mark blocks) fun result => ?_
    obtain ⟨_ | _, mark⟩ := result <;> exact .done _

lemma cycle (mark : BlockId) : (Crew.cycle p mark).Within R := by
  refine Within.bind (hp.poll mark) fun result => ?_
  obtain ⟨(e | e) | blocks, mark⟩ := result
  · exact Within.bind (.modify hp.metrics _) fun _ => .done _
  · exact Within.bind (.modify hp.metrics _) fun _ => .done _
  · exact Within.bind (.modify hp.metrics _) fun _ =>
      Within.bind (.modify hp.metrics _) fun _ => .done _

end

end Abides

end Poller

end LedgerWatch
