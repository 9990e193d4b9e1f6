import LedgerWatch.Proofs.Ledger.Distinct
import LedgerWatch.Proofs.Polling.Delivery
import LedgerWatch.Proofs.Registry.Counterpart
import LedgerWatch.Proofs.Registry.Listener
import LedgerWatch.Proofs.Registry.Lodge

/-!
# From a poller to the watchers of a site

A relay is a station whose pollers notify a site of listeners. Blocks of a given chain may be
appended to its ledger at any time, also while a poller is at work; whether the ledger is available
stays as it is meanwhile.

What the watchers are told then follows from the blocks that are handed on (`Tells`), and a poller
tells them exactly of the blocks that its journal notes (`poll_relays`, `create_relays`). Two relays
whose registries are the same, and that tell of the same blocks, tell the same (`Tells.same`): when
the ledger is asked for a transaction of a block it has the block by then, so that it answers with
the transaction as it stands in the block.
-/

namespace LedgerWatch

/--
A station whose pollers notify the watchers of a site. The watchers are listeners, each with the
handle of its registration on a badge, and what they are told is noted.
-/
structure Relay (W : Type) extends Station W where
  site : Site W (Badged Listener)
  offsets : OffsetStore W
  told : W → List (Handle × Call)

namespace Relay

variable {W W' α β : Type} {r : Relay W} {r' : Relay W'} {chain : List Block} {u v w : W}
  {b : Block}

def poller (r : Relay W) : Poller W where
  ledger := r.site.ledger
  offsets := r.offsets
  notify := r.site.notify
  metrics := r.site.metrics

/-- Blocks of the chain are appended at most. -/
structure Feeds (r : Relay W) (chain : List Block) (w v : W) : Prop where
  grows : (r.ledger w).Grows (r.ledger v)
  along : (r.ledger w).blocks <+: chain → (r.ledger v).blocks <+: chain
  available : (r.ledger v).unavailable = (r.ledger w).unavailable

/-- Blocks of the chain are appended at most, and nothing is recorded. -/
structure Keeps (r : Relay W) (chain : List Block) (w v : W) : Prop extends r.Feeds chain w v where
  record : r.record v = r.record w
  intact : r.intact w → r.intact v

/-- Nobody is told anything. -/
structure Quiet (r : Relay W) (w v : W) : Prop where
  registry : r.site.registry.get v = r.site.registry.get w
  told : r.told v = r.told w

lemma Feeds.refl (w : W) : r.Feeds chain w w :=
  ⟨.refl, id, rfl⟩

lemma Feeds.trans (h : r.Feeds chain u v) (k : r.Feeds chain v w) : r.Feeds chain u w :=
  ⟨h.grows.trans k.grows, k.along ∘ h.along, k.available.trans h.available⟩

lemma Keeps.refl (w : W) : r.Keeps chain w w :=
  ⟨.refl w, rfl, id⟩

lemma Keeps.trans (h : r.Keeps chain u v) (k : r.Keeps chain v w) : r.Keeps chain u w :=
  ⟨h.toFeeds.trans k.toFeeds, k.record.trans h.record, k.intact ∘ h.intact⟩

/-- Where nothing is recorded, a station rests. -/
lemma Keeps.rests (h : r.Keeps chain w v) : r.Rests w v :=
  ⟨h.grows, h.record, h.intact⟩

lemma Quiet.refl (w : W) : r.Quiet w w :=
  ⟨rfl, rfl⟩

lemma Quiet.trans (h : r.Quiet u v) (k : r.Quiet v w) : r.Quiet u w :=
  ⟨k.registry.trans h.registry, k.told.trans h.told⟩

/-- A question that the ledger answers as it is; it may grow before the program goes on. -/
structure Reads (r : Relay W) (chain : List Block) (question : Program W (Except LedgerError α))
    (truth : Ledger → Except LedgerError α) : Prop where
  answer : ∀ w, (question.run w).1 = truth (r.ledger w)
  keeps : ∀ w, r.Keeps chain w (question.run w).2
  quiet : ∀ w, r.Quiet w (question.run w).2

/-- A program that tells nobody anything. -/
def Passes (r : Relay W) (chain : List Block) (p : Program W α) : Prop :=
  ∀ w, r.Feeds chain w (p.run w).2 ∧ r.Quiet w (p.run w).2

/--
The parts of a relay work together: the ledger answers truly, the store keeps the record, listeners
reply by what they have heard and act on nothing, every call to one is noted, and all of them stand
beside each other.
-/
structure Works (r : Relay W) (chain : List Block) : Prop where
  transaction? : ∀ id, r.Reads chain (r.site.ledger.transaction? id) (·.transaction? id)
  blocksAfter : ∀ id, r.Reads chain (r.site.ledger.blocksAfter id) (·.blocksAfter id)
  block? : ∀ id, r.Reads chain (r.site.ledger.block? id) (·.block? id)
  offsets : r.offsets.Faithful r.toStation
  restore : r.Passes chain r.offsets.restore
  isProcessed : ∀ height, r.Passes chain (r.offsets.isProcessed height)
  record : ∀ o, r.Passes chain (r.offsets.record o)
  metrics : ∀ m w, r.Keeps chain w (r.site.metrics.set m w)
  metrics_quiet : ∀ m w, r.Quiet w (r.site.metrics.set m w)
  registry : ∀ x w, r.Keeps chain w (r.site.registry.set x w)
  registry_told : ∀ x w, r.told (r.site.registry.set x w) = r.told w
  reply : ∀ x block c w, ((r.site.behaviour.notify x block c).run w).1
    = (x.watcher.reply (x.watcher.heard ++ [⟨block, c⟩]),
        { x with watcher := x.watcher.hear ⟨block, c⟩ })
  notify : ∀ x block c w, r.Keeps chain w ((r.site.behaviour.notify x block c).run w).2
  notify_registry : ∀ x block c w,
    r.site.registry.get ((r.site.behaviour.notify x block c).run w).2 = r.site.registry.get w
  notify_told : ∀ x block c w, r.told ((r.site.behaviour.notify x block c).run w).2
    = r.told w ++ [(x.handle, ⟨block, c⟩)]

/-- A question that is answered as the ledger is tells nobody anything. -/
lemma Reads.passes {question : Program W (Except LedgerError α)}
    {truth : Ledger → Except LedgerError α} (h : r.Reads chain question truth) :
    r.Passes chain question :=
  fun w => ⟨(h.keeps w).toFeeds, h.quiet w⟩

/-- A question that is answered as the ledger is leaves the station at rest. -/
lemma Reads.asks {question : Program W (Except LedgerError α)}
    {truth : Ledger → Except LedgerError α} (h : r.Reads chain question truth) :
    r.Asks question truth where
  rests w := (h.keeps w).rests
  answer w _ found := ⟨r.ledger w, .refl, (h.keeps w).grows, (h.answer w).symm.trans found⟩

namespace Works

variable (works : r.Works chain)

include works

/-- A site does like itself, and keeps the record meanwhile. -/
lemma self (w₀ : W) (b : Block) :
    Site.Counterparts (fun w v => w = v ∧ r.Keeps chain w₀ w) b r.site r.site where
  registry := by
    rintro w _ ⟨rfl, -⟩
    rfl
  set x := by
    rintro w _ ⟨rfl, kept⟩
    exact ⟨rfl, kept.trans (works.registry x w)⟩
  count c := by
    refine .modify ?_
    rintro w _ ⟨rfl, kept⟩
    exact ⟨rfl, kept.trans (works.metrics _ w)⟩
  transaction? tx _ := by
    rintro w _ ⟨rfl, kept⟩
    exact ⟨rfl, rfl, kept.trans ((works.transaction? tx.id).keeps w)⟩
  notify x c := by
    rintro w _ ⟨rfl, kept⟩
    exact ⟨rfl, rfl, kept.trans (works.notify x b.id c w)⟩

/-- A notification records nothing. -/
lemma notify_keeps (b : Block) (w : W) : r.Keeps chain w ((r.site.notify b).run w).2 :=
  (works.self w b).notify_alike.keeps (.refl w)

/-- The poller of a relay that works is faithful. -/
lemma faithful : r.poller.Faithful r.toStation where
  ledger := ⟨fun id => (works.blocksAfter id).asks, fun id => (works.block? id).asks⟩
  offsets := works.offsets
  notify b w := (works.notify_keeps b w).rests
  metrics m w := (works.metrics m w).rests

/-- A change of the metrics tells nobody anything. -/
lemma metrics_passes (f : Metrics → Metrics) :
    r.Passes chain (Program.modify r.site.metrics f) :=
  fun w => ⟨(works.metrics _ w).toFeeds, works.metrics_quiet _ w⟩

end Works

/-! ### What watchers are told of -/

/-- The ledger has grown from nothing along the chain, and it answers. -/
structure Open (r : Relay W) (chain : List Block) (w : W) : Prop where
  built : Ledger.Grows {} (r.ledger w)
  along : (r.ledger w).blocks <+: chain
  available : (r.ledger w).unavailable = none

/-- A ledger that grows along the chain stays open. -/
lemma Open.feeds (o : r.Open chain w) (f : r.Feeds chain w v) : r.Open chain v :=
  ⟨o.built.trans f.grows, f.along o.along, f.available.trans o.available⟩

/-- A transaction is answered as it stands in its block. -/
lemma Open.transaction? (o : r.Open chain w) (distinct : Ledger.Distinct chain)
    (hb : b ∈ (r.ledger w).blocks) {tx : Transaction} (mem : tx ∈ b.transactions) :
    (r.ledger w).transaction? tx.id = .ok (some tx) :=
  o.built.transaction? (distinct.of_prefix o.along) o.available hb mem

/-- The watchers are told of blocks of an open ledger, one after another, and of nothing else. -/
inductive Tells (r : Relay W) (chain : List Block) : List Block → W → W → Prop where
  | nothing {w v : W} :
    r.Quiet w v →
    Tells r chain [] w v
  | block {b : Block} {rest : List Block} {w u v : W} :
    r.Quiet w u →
    r.Open chain u →
    b ∈ (r.ledger u).blocks →
    Tells r chain rest ((r.site.notify b).run u).2 v →
    Tells r chain (b :: rest) w v

/-- What is told after a quiet time is what is told. -/
lemma Tells.of_quiet {blocks : List Block} (q : r.Quiet u w) (t : r.Tells chain blocks w v) :
    r.Tells chain blocks u v := by
  cases t with
  | nothing q' => exact .nothing (q.trans q')
  | block q' o mem rest => exact .block (q.trans q') o mem rest

/-- Blocks are told in one go or in two. -/
lemma Tells.trans {blocks more : List Block} (t : r.Tells chain blocks u w)
    (t' : r.Tells chain more w v) : r.Tells chain (blocks ++ more) u v := by
  induction t with
  | nothing q => exact t'.of_quiet q
  | block q o mem _ ih => exact .block q o mem (ih t')

/-- Two relays have the same registry and have told the same. -/
structure Same (r : Relay W) (r' : Relay W') (w : W) (w' : W') : Prop where
  registry : r.site.registry.get w = r'.site.registry.get w'
  told : r.told w = r'.told w'

/-- Two relays that are the same stay so in quiet times. -/
lemma Same.quiet {w' v' : W'} (s : r.Same r' w w') (q : r.Quiet w v) (q' : r'.Quiet w' v') :
    r.Same r' v v' :=
  ⟨q.registry.trans (s.registry.trans q'.registry.symm), q.told.trans (s.told.trans q'.told.symm)⟩

/-- While a block is notified that both ledgers have, the sites of two relays do alike. -/
lemma Works.counterparts (works : r.Works chain) (works' : r'.Works chain)
    (distinct : Ledger.Distinct chain) {w₀ : W} {w₀' : W'} (o : r.Open chain w₀)
    (o' : r'.Open chain w₀') (mem : b ∈ (r.ledger w₀).blocks) (mem' : b ∈ (r'.ledger w₀').blocks) :
    Site.Counterparts
      (fun w w' => r.Same r' w w' ∧ r.Keeps chain w₀ w ∧ r'.Keeps chain w₀' w')
      b r.site r'.site where
  registry _ _ related := related.1.registry
  set x := by
    rintro w w' ⟨same, kept, kept'⟩
    refine ⟨⟨?_, ?_⟩, kept.trans (works.registry x w), kept'.trans (works'.registry x w')⟩
    · rw [Part.get_set, Part.get_set]
    · rw [works.registry_told, works'.registry_told, same.told]
  count c := by
    refine .modify ?_
    rintro w w' ⟨same, kept, kept'⟩
    exact ⟨same.quiet (works.metrics_quiet _ w) (works'.metrics_quiet _ w'),
      kept.trans (works.metrics _ w), kept'.trans (works'.metrics _ w')⟩
  transaction? tx htx := by
    rintro w w' ⟨same, kept, kept'⟩
    have reads := works.transaction? tx.id
    have reads' := works'.transaction? tx.id
    refine ⟨?_, same.quiet (reads.quiet w) (reads'.quiet w'), kept.trans (reads.keeps w),
      kept'.trans (reads'.keeps w')⟩
    -- later blocks may be there by now, but they have other transactions
    have here := kept.grows.blocks_prefix.subset mem
    have here' := kept'.grows.blocks_prefix.subset mem'
    rw [reads.answer, reads'.answer, (o.feeds kept.toFeeds).transaction? distinct here htx,
      (o'.feeds kept'.toFeeds).transaction? distinct here' htx]
  notify x c := by
    rintro w w' ⟨same, kept, kept'⟩
    refine ⟨?_, ⟨?_, ?_⟩, kept.trans (works.notify x b.id c w),
      kept'.trans (works'.notify x b.id c w')⟩
    · rw [works.reply, works'.reply]
    · rw [works.notify_registry, works'.notify_registry, same.registry]
    · rw [works.notify_told, works'.notify_told, same.told]

/-- Relays that tell of the same blocks go on to have the same registry and to tell the same. -/
lemma Tells.same (works : r.Works chain) (works' : r'.Works chain)
    (distinct : Ledger.Distinct chain) {blocks : List Block} {w' v' : W'}
    (t : r.Tells chain blocks w v) (t' : r'.Tells chain blocks w' v') (s : r.Same r' w w') :
    r.Same r' v v' := by
  induction t generalizing w' with
  | nothing q =>
    cases t' with
    | nothing q' => exact s.quiet q q'
  | block q o mem _ ih =>
    cases t' with
    | block q' o' mem' rest' =>
      have counterparts := works.counterparts works' distinct o o' mem mem'
      obtain ⟨-, after, -⟩ :=
        counterparts.notify_alike _ _ ⟨s.quiet q q', .refl _, .refl _⟩
      exact ih rest' after

end Relay

/-! ### What a poller hands on -/

def Note.handed? : Note → Option Block
  | .handed b => some b
  | .written _ _ => none

/-- The blocks that were handed on, in order. -/
def Journal.handed (j : Journal) : List Block :=
  j.filterMap Note.handed?

namespace Relay

variable {W α β : Type} {r : Relay W} {chain : List Block} {v w : W} {b : Block}

/-- The watchers are told of the blocks that a program notes in its journal as handed on. -/
def Relays (r : Relay W) (chain : List Block) (q : Program (W × Journal) α) (w : W) : Prop :=
  ∀ j, ∃ a v new, q.run (w, j) = (a, v, j ++ new) ∧ r.Feeds chain w v ∧
    r.Tells chain (Journal.handed new) w v

lemma Relays.done (a : α) : r.Relays chain (.done a) w :=
  fun j => ⟨a, w, [], by rw [List.append_nil]; rfl, .refl w, .nothing (.refl w)⟩

/-- What two programs hand on, one after the other, is told in this order. -/
lemma Relays.bind {q : Program (W × Journal) α} {f : α → Program (W × Journal) β}
    (h : r.Relays chain q w) (hf : ∀ a v, r.Feeds chain w v → r.Relays chain (f a) v) :
    r.Relays chain (q.bind f) w := by
  intro j
  obtain ⟨a, v, new, run, feeds, tells⟩ := h j
  obtain ⟨a', v', new', run', feeds', tells'⟩ := hf a v feeds (j ++ new)
  refine ⟨a', v', new ++ new', ?_, feeds.trans feeds', ?_⟩
  · rw [Program.run_bind, run, run', List.append_assoc]
  · rw [Journal.handed, List.filterMap_append]
    exact tells.trans tells'

/-- A program that tells nobody anything gives a result, and what follows tells of what it does. -/
lemma Passes.relays_bind {p : Program W α} {f : α → Program (W × Journal) β}
    (h : r.Passes chain p) (hf : r.Relays chain (f (p.run w).1) (p.run w).2) :
    r.Relays chain (p.beside.bind f) w := by
  intro j
  obtain ⟨a, v, new, run, feeds, tells⟩ := hf j
  refine ⟨a, v, new, ?_, (h w).1.trans feeds, tells.of_quiet (h w).2⟩
  rw [Program.run_bind, Program.run_beside, run]

namespace Works

variable (works : r.Works chain)

include works

lemma relays_modify (f : Metrics → Metrics) :
    r.Relays chain (Program.modify r.poller.journaled.metrics f) w := by
  intro j
  refine ⟨(), _, [], ?_, (works.metrics_passes f w).1, .nothing (works.metrics_passes f w).2⟩
  rw [List.append_nil]
  rfl

lemma relays_record (o : Offset) : r.Relays chain (r.poller.journaled.offsets.record o) w := by
  intro j
  obtain ⟨feeds, quiet⟩ := works.record o w
  exact ⟨_, _, [_], Poller.run_record r.offsets o w j, feeds, .nothing quiet⟩

/-- A block that the ledger has is told of when it is handed on. -/
lemma relays_notify (o : r.Open chain w) (mem : b ∈ (r.ledger w).blocks) :
    r.Relays chain (r.poller.journaled.notify b) w := by
  intro j
  have told : r.Tells chain [b] w ((r.site.notify b).run w).2 :=
    .block (.refl w) o mem (.nothing (.refl _))
  refine ⟨((r.site.notify b).run w).1, _, [.handed b], ?_, (works.notify_keeps b w).toFeeds, told⟩
  exact Program.run_beside (r.site.notify b) w (j ++ [Note.handed b])

/-- A block that is announced is told. -/
lemma relays_announce (o : r.Open chain w) (mem : b ∈ (r.ledger w).blocks) :
    r.Relays chain (r.poller.journaled.announce b) w := by
  refine Relays.bind (works.relays_notify o mem) fun answer v _ => ?_
  cases answer with
  | ok tally => exact works.relays_modify _
  | error e => exact works.relays_modify _

/-- A block that is processed is told before it is recorded. -/
lemma relays_processBlock (o : r.Open chain w) (mem : b ∈ (r.ledger w).blocks) :
    r.Relays chain (r.poller.journaled.processBlock b) w := by
  have feeds := (works.isProcessed b.height w).1
  refine (works.isProcessed b.height).relays_bind ?_
  rcases ((r.offsets.isProcessed b.height).run w).1 with e | _ | _
  · exact .done _
  · have mem' := feeds.grows.blocks_prefix.subset mem
    refine Relays.bind (works.relays_announce (o.feeds feeds) mem') fun _ v _ => ?_
    refine Relays.bind (works.relays_record _) fun answer v' _ => ?_
    cases answer with
    | error e => exact .done _
    | ok _ => exact Relays.bind (works.relays_modify _) fun _ _ _ => .done _
  · exact Relays.bind (works.relays_modify _) fun _ _ _ => .done _

/-- Blocks that are processed are told one after another, up to the first fault. -/
lemma relays_processBlocks (o : r.Open chain w) (mark : BlockId) {blocks : List Block}
    (sub : blocks ⊆ (r.ledger w).blocks) :
    r.Relays chain (r.poller.journaled.processBlocks mark blocks) w := by
  induction blocks generalizing w mark with
  | nil => exact .done _
  | cons b rest ih =>
    obtain ⟨mem, sub⟩ := List.cons_subset.1 sub
    refine Relays.bind (works.relays_processBlock o mem) fun answer v feeds => ?_
    cases answer with
    | error e => exact .done _
    | ok _ => exact ih (o.feeds feeds) b.id fun _ hb =>
      feeds.grows.blocks_prefix.subset (sub hb)

/-- A poll tells of what it hands on: it polls only when the ledger answers. -/
lemma relays_poll (built : Ledger.Grows {} (r.ledger w)) (along : (r.ledger w).blocks <+: chain)
    (mark : BlockId) : r.Relays chain (r.poller.journaled.poll mark) w := by
  have reads := works.blocksAfter mark
  refine reads.passes.relays_bind ?_
  rw [reads.answer]
  cases found : (r.ledger w).blocksAfter mark with
  | error e => exact .done _
  | ok blocks =>
    obtain ⟨n, -, rest⟩ := (Ledger.Sound.empty.grows built).blocksAfter found
    have feeds := (reads.keeps w).toFeeds
    have o : r.Open chain w := ⟨built, along, Ledger.available_of_answer found⟩
    have sub : blocks ⊆ (r.ledger w).blocks := rest ▸ List.drop_subset n _
    have kept := List.Subset.trans sub feeds.grows.blocks_prefix.subset
    refine Relays.bind (works.relays_processBlocks (o.feeds feeds) mark kept) ?_
    rintro ⟨answer, mark'⟩ v -
    cases answer with
    | error e => exact .done _
    | ok _ => exact .done _

/-- A poller that is made hands on nothing. -/
lemma relays_create (built : Ledger.Grows {} (r.ledger w))
    (along : (r.ledger w).blocks <+: chain) : r.Relays chain r.poller.journaled.create w := by
  refine works.restore.relays_bind ?_
  cases (r.offsets.restore.run w).1 with
  | error e => exact .done _
  | ok offset =>
    have feeds := (works.restore w).1
    generalize (r.offsets.restore.run w).2 = w₁ at feeds
    dsimp only
    split
    · exact .done _
    · have reads := works.block? offset.block
      refine reads.passes.relays_bind ?_
      rw [reads.answer]
      rcases found : (r.ledger w₁).block? offset.block with e | _ | b
      · exact .done _
      · exact .done _
      · have feeds' := (reads.keeps w₁).toFeeds
        have built' := built.trans feeds.grows
        have o : r.Open chain w₁ :=
          ⟨built', feeds.along along, Ledger.available_of_answer found⟩
        obtain ⟨mem, -⟩ := (Ledger.Sound.empty.grows built').block? found
        have mem' := feeds'.grows.blocks_prefix.subset mem
        refine Relays.bind (works.relays_processBlock (o.feeds feeds') mem') fun answer v _ => ?_
        cases answer with
        | error e => exact .done _
        | ok _ => exact .done _

end Works

end Relay

end LedgerWatch
