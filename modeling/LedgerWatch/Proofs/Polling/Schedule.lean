import LedgerWatch.Proofs.Polling.Relay

/-!
# On any schedule the watchers are told the same

The blocks of one chain are appended to the ledgers of two relays, and polled on two schedules: a
poll after every block or one for all of them, with pollers that are made anew and polls that come
to nothing because the ledger is unavailable. Once the whole chain has been polled, both have told
their watchers the same, and both registries are the same (`schedule_is_immaterial`).

The journal of a run accounts for what its watchers were told (`Accounts`), and without a refused
write it has handed on each block up to the record once, in order (`Consistent.handed`).
-/

namespace LedgerWatch

variable {W W' α : Type}

/-! ### What was handed on -/

/-- Whether it is noted that the store refused what a poller wrote. -/
def Note.refused : Note → Bool
  | .handed _ => false
  | .written _ obeyed => !obeyed

/-- Attempts hand on one block each. -/
lemma Journal.handed_attempts (attempts : List Attempt) :
    Journal.handed (attempts.flatMap Attempt.notes) = attempts.map Attempt.block := by
  induction attempts with
  | nil => rfl
  | cons a rest ih =>
    rw [List.flatMap_cons, handed, List.filterMap_append]
    exact congrArg (a.block :: ·) ih

/-- Without a refused write every block up to the record was handed on once, in order. -/
lemma Station.Consistent.handed {s : Station W} {w : W} {j : Journal} (c : s.Consistent w j)
    (obeyed : ∀ n ∈ j, n.refused = false) :
    j.handed = (s.ledger w).blocks.take (s.record w).height := by
  obtain ⟨attempts, rfl, blocks, turn⟩ := c.inTurn
  have all : ∀ a ∈ attempts, a.recorded = true := by
    intro a mem
    have noted : Note.written ⟨a.block.id, a.block.height⟩ a.recorded ∈ a.notes :=
      List.mem_cons_of_mem _ List.mem_cons_self
    simpa [Note.refused] using obeyed _ (List.mem_flatMap.2 ⟨a, mem, noted⟩)
  have heights := turn.heights all
  rw [Journal.handed_attempts]
  refine c.sound.eq_take (fun b mem => ?_) ?_
  · obtain ⟨a, ha, rfl⟩ := List.mem_map.1 mem
    exact blocks a ha
  · rw [List.map_map]
    exact heights

namespace Relay

variable {r : Relay W} {r' : Relay W'} {chain : List Block} {w : W} {w' : W'} {c d : Chronicle W}

/-! ### Schedules -/

/-- What becomes of a relay when a poller is made, or the attempt to make one fails. -/
def created (r : Relay W) (c : Chronicle W) : Chronicle W where
  world := (r.poller.create.run c.world).2
  journal := (r.poller.journaled.create.run (c.world, c.journal)).2.2
  marks := match (r.poller.create.run c.world).1 with
    | .ok mark => mark :: c.marks
    | .error _ => c.marks

/-- What becomes of a relay when its poller polls from a mark. -/
def polled (r : Relay W) (mark : BlockId) (c : Chronicle W) : Chronicle W where
  world := ((r.poller.poll mark).run c.world).2
  journal := ((r.poller.journaled.poll mark).run (c.world, c.journal)).2.2
  marks := ((r.poller.poll mark).run c.world).1.2 :: c.marks

/-- What happens at a relay, one thing at a time. -/
inductive Event (r : Relay W) (chain : List Block) : Chronicle W → Chronicle W → Prop where
  /-- Blocks of the chain are appended, or the ledger becomes unavailable or available again. -/
  | rest {c : Chronicle W} {v : W} :
    r.Rests c.world v →
    (r.ledger v).blocks <+: chain →
    r.Quiet c.world v →
    Event r chain c { c with world := v }
  | create {c : Chronicle W} :
    Event r chain c (r.created c)
  | poll {c : Chronicle W} {mark : BlockId} :
    mark ∈ c.marks →
    Event r chain c (r.polled mark c)

/-- A relay before anything was polled. -/
structure Fresh (r : Relay W) (chain : List Block) (w : W) : Prop where
  built : Ledger.Grows {} (r.ledger w)
  along : (r.ledger w).blocks <+: chain
  record : r.record w = .root
  intact : r.intact w

/-- The whole chain has been appended and polled: the record is at its last block. -/
structure Complete (r : Relay W) (chain : List Block) (w : W) : Prop where
  blocks : (r.ledger w).blocks = chain
  record : (r.record w).block = (r.ledger w).lastBlock

/-- The journal accounts for what the watchers were told since the first world. -/
structure Accounts (r : Relay W) (chain : List Block) (w₀ : W) (c : Chronicle W) : Prop where
  settled : r.toStation.Settled c
  built : Ledger.Grows {} (r.ledger c.world)
  along : (r.ledger c.world).blocks <+: chain
  tells : r.Tells chain c.journal.handed w₀ c.world

/-- Before anything was polled the watchers were told nothing. -/
lemma Fresh.accounts (f : r.Fresh chain w) : r.Accounts chain w { world := w } where
  settled := .fresh f.built f.record f.intact
  built := f.built
  along := f.along
  tells := .nothing (.refl w)

/-- What happens at a relay happens at its station. -/
lemma Event.station (works : r.Works chain) (e : r.Event chain c d) : r.toStation.Event c d := by
  cases e with
  | rest rests _ _ => exact .rest rests
  | create => exact .create works.faithful
  | poll mem => exact .poll works.faithful mem

/-- What a program tells of is accounted for by what it adds to the journal. -/
lemma Accounts.relays {w₀ : W} {q : Program (W × Journal) α} {p : Program W α}
    (h : r.Accounts chain w₀ c) (relays : r.Relays chain q c.world) (follows : q.Follows p)
    (settled : r.toStation.Settled d) (world : d.world = (p.run c.world).2)
    (journal : d.journal = (q.run (c.world, c.journal)).2.2) : r.Accounts chain w₀ d := by
  obtain ⟨a, v, new, run, feeds, tells⟩ := relays c.journal
  obtain ⟨-, same⟩ := follows c.world c.journal
  rw [run] at same journal
  obtain rfl : d.world = v := world.trans same.symm
  refine ⟨settled, h.built.trans feeds.grows, feeds.along h.along, ?_⟩
  rw [journal, Journal.handed, List.filterMap_append]
  exact h.tells.trans tells

/-- The journal accounts for each thing that happens. -/
lemma Accounts.event {w₀ : W} (works : r.Works chain) (h : r.Accounts chain w₀ c)
    (e : r.Event chain c d) : r.Accounts chain w₀ d := by
  have settled := h.settled.event (e.station works)
  cases e with
  | rest rests along quiet =>
    refine ⟨settled, h.built.trans rests.grows, along, ?_⟩
    have tells := h.tells.trans (.nothing quiet)
    rwa [List.append_nil] at tells
  | create =>
    exact h.relays (works.relays_create h.built h.along) r.poller.create_follows settled rfl rfl
  | @poll mark _ =>
    exact h.relays (works.relays_poll h.built h.along mark) (r.poller.poll_follows mark) settled
      rfl rfl

/-- The journal accounts for everything that happened. -/
lemma Accounts.run {w₀ : W} (works : r.Works chain) (h : r.Accounts chain w₀ c)
    (run : Relation.ReflTransGen (r.Event chain) c d) : r.Accounts chain w₀ d := by
  induction run with
  | refl => exact h
  | tail _ e ih => exact ih.event works e

/-- A relay that has polled a whole chain has told of its blocks, each once and in order. -/
lemma Accounts.complete {w₀ : W} (h : r.Accounts chain w₀ c)
    (obeyed : ∀ n ∈ c.journal, n.refused = false) (complete : r.Complete chain c.world) :
    r.Tells chain chain w₀ c.world := by
  have consistent := h.settled.consistent
  have stands := consistent.stands
  rw [complete.record] at stands
  have height := consistent.sound.stands_unique stands consistent.sound.stands_lastBlock
  have tells := h.tells
  rwa [consistent.handed obeyed, height, List.take_length, complete.blocks] at tells

end Relay

/--
Two relays begin with the same registry, and the blocks of a chain that canonizes no transaction
twice are appended to their ledgers. However appending, polling, making pollers and times without a
ledger alternate at each of them: once both have polled the whole chain, and no store has refused a
write, each has told of every block once, in order, and both have told the same watchers of the same
blocks by the same criteria, in the same order, and their registries are the same.
-/
theorem schedule_is_immaterial {r : Relay W} {r' : Relay W'} {chain : List Block} {w : W} {w' : W'}
    {c : Chronicle W} {c' : Chronicle W'} (works : r.Works chain) (works' : r'.Works chain)
    (distinct : Ledger.Distinct chain) (fresh : r.Fresh chain w) (fresh' : r'.Fresh chain w')
    (registry : r.site.registry.get w = r'.site.registry.get w') (told : r.told w = r'.told w')
    (run : Relation.ReflTransGen (r.Event chain) { world := w } c)
    (run' : Relation.ReflTransGen (r'.Event chain) { world := w' } c')
    (obeyed : ∀ n ∈ c.journal, n.refused = false)
    (obeyed' : ∀ n ∈ c'.journal, n.refused = false)
    (complete : r.Complete chain c.world) (complete' : r'.Complete chain c'.world) :
    (r.Tells chain chain w c.world ∧ r'.Tells chain chain w' c'.world) ∧
      r.told c.world = r'.told c'.world ∧
      r.site.registry.get c.world = r'.site.registry.get c'.world := by
  have tells := (fresh.accounts.run works run).complete obeyed complete
  have tells' := (fresh'.accounts.run works' run').complete obeyed' complete'
  obtain ⟨registries, same⟩ := tells.same works works' distinct tells' ⟨registry, told⟩
  exact ⟨⟨tells, tells'⟩, same, registries⟩

/-- A desk and a registry of listeners, with what they were told. -/
structure Newsroom where
  desk : Desk := {}
  registry : Registry (Badged Listener)
  told : List (Handle × Call) := []

namespace Newsroom

def deskPart : Part Newsroom Desk where
  get := Newsroom.desk
  set desk n := { n with desk }
  get_set _ _ := rfl

def registryPart : Part Newsroom (Registry (Badged Listener)) where
  get := Newsroom.registry
  set registry n := { n with registry }
  get_set _ _ := rfl

def tell (x : Badged Listener) (call : Call) :
    Program Newsroom (Except WatcherError (Option Criteria) × Badged Listener) := do
  Program.change fun n => { n with told := n.told ++ [(x.handle, call)] }
  return (x.watcher.reply (x.watcher.heard ++ [call]), { x with watcher := x.watcher.hear call })

def relay : Relay Newsroom where
  ledger n := n.desk.ledger
  record n := n.desk.database.offset
  intact n := n.desk.database.Intact
  site :=
    { registry := registryPart
      metrics := deskPart.comp Desk.metricsPart
      ledger := .ofPart (deskPart.comp Desk.ledgerPart)
      behaviour :=
        { start x _ := return (.ok (.after .root), x)
          notify x block c := tell x ⟨block, c⟩ } }
  offsets := .ofDatabase (deskPart.comp Desk.databasePart) true
  told := Newsroom.told

/-- The newsroom is a relay that works. -/
lemma relay_works (chain : List Block) : relay.Works chain where
  transaction? _ := ⟨fun _ => rfl, .refl, .refl⟩
  blocksAfter _ := ⟨fun _ => rfl, .refl, .refl⟩
  block? _ := ⟨fun _ => rfl, .refl, .refl⟩
  offsets := OffsetStore.ofDatabase_faithful (deskPart.comp Desk.databasePart) true fun _ _ => rfl
  restore _ := ⟨⟨.refl, id, rfl⟩, rfl, rfl⟩
  isProcessed _ w := ⟨.refl w, .refl w⟩
  record _ _ := ⟨⟨.refl, id, rfl⟩, rfl, rfl⟩
  metrics _ _ := ⟨⟨.refl, id, rfl⟩, rfl, id⟩
  metrics_quiet _ _ := ⟨rfl, rfl⟩
  registry _ _ := ⟨⟨.refl, id, rfl⟩, rfl, id⟩
  registry_told _ _ := rfl
  reply _ _ _ _ := rfl
  notify _ _ _ _ := ⟨⟨.refl, id, rfl⟩, rfl, id⟩
  notify_registry _ _ _ _ := rfl
  notify_told _ _ _ _ := rfl

def move (n : Nat) (state : Int32) : Transaction :=
  ⟨.ofNat n, .initial, .ofNat 7, .ofNat 1, .ofNat 1, none, some state, default⟩

/-- A chain of two blocks, which leave the artifact in different states. -/
def chain : List Block :=
  ((({} : Ledger).append (.ofNat 1) [move 1 1]).append (.ofNat 2) [move 2 2]).blocks

/-- A listener that asks for any state of the artifact but the first one. -/
def follower : Listener where
  reply _ := .ok (some ((Criteria.after (.ofNat 1)).forArtifactState (.ofNat 7) 1))

/-- A listener that asks for no more. -/
def visitor : Listener where
  reply _ := .ok none

def opened : Newsroom where
  registry := ((({} : Registry (Badged Listener)).register "a" ⟨0, follower⟩ .empty).2.register
    "b" ⟨1, visitor⟩ .empty).2.finishStart

def changed (f : Ledger → Ledger) (c : Chronicle Newsroom) : Chronicle Newsroom :=
  { c with world := (deskPart.comp Desk.ledgerPart).modify f c.world }

def appended (id : BlockId) (transactions : List Transaction) :
    Chronicle Newsroom → Chronicle Newsroom :=
  changed (·.append id transactions)

/-- The ledger of a newsroom becomes unavailable, or available again. -/
def cut (reason : Option String) : Chronicle Newsroom → Chronicle Newsroom :=
  changed (·.setUnavailable reason)

/-- Two blocks are appended, and polled at once. -/
def once : Chronicle Newsroom :=
  relay.polled .root (appended (.ofNat 2) [move 2 2] (appended (.ofNat 1) [move 1 1]
    { world := opened }))

/-- A block is appended and polled, and polled again while the ledger is unavailable. -/
def half : Chronicle Newsroom :=
  relay.polled (.ofNat 1) (cut (some "down") (relay.polled .root (relay.created
    (appended (.ofNat 1) [move 1 1] { world := opened }))))

/-- The other block is appended, and another poller polls it. -/
def often : Chronicle Newsroom :=
  relay.polled (.ofNat 1) (relay.created (appended (.ofNat 2) [move 2 2] (cut none half)))

/-- A change of the ledger along the chain may happen. -/
lemma event_changed {c : Chronicle Newsroom} {f : Ledger → Ledger}
    (step : c.world.desk.ledger.Step (f c.world.desk.ledger))
    (along : (f c.world.desk.ledger).blocks <+: chain) : relay.Event chain c (changed f c) :=
  .rest ⟨.single step, rfl, id⟩ along ⟨rfl, rfl⟩

/-- A block of the chain may be appended. -/
lemma event_appended {c : Chronicle Newsroom} {id : BlockId} {transactions : List Transaction}
    (fresh : c.world.desk.ledger.Fresh id)
    (along : (c.world.desk.ledger.append id transactions).blocks <+: chain) :
    relay.Event chain c (appended id transactions c) :=
  event_changed (.append _ fresh) along

/-- The ledger may become unavailable, or available again. -/
lemma event_cut {c : Chronicle Newsroom} (reason : Option String)
    (along : c.world.desk.ledger.blocks <+: chain) : relay.Event chain c (cut reason c) :=
  event_changed (.setUnavailable reason) along

lemma run_once : Relation.ReflTransGen (relay.Event chain) { world := opened } once :=
  ((Relation.ReflTransGen.single (event_appended ⟨by decide, by decide⟩ (by decide +kernel))).tail
    (event_appended ⟨by decide, by decide⟩ (by decide +kernel))).tail (.poll (by decide))

lemma run_half : Relation.ReflTransGen (relay.Event chain) { world := opened } half :=
  ((((Relation.ReflTransGen.single
    (event_appended ⟨by decide, by decide⟩ (by decide +kernel))).tail .create).tail
    (.poll (by decide +kernel))).tail (event_cut _ (by decide +kernel))).tail
    (.poll (by decide +kernel))

lemma run_often : Relation.ReflTransGen (relay.Event chain) { world := opened } often :=
  (((run_half.tail (event_cut none (by decide +kernel))).tail
    (event_appended ⟨by decide, by decide +kernel⟩ (by decide +kernel))).tail .create).tail
    (.poll (by decide +kernel))

end Newsroom

/-- Polled often or once, the first listener is told of both blocks and the second of one. -/
theorem schedule_is_immaterial_in_newsroom :
    Newsroom.often.world.told = Newsroom.once.world.told ∧
      Newsroom.often.world.registry = Newsroom.once.world.registry ∧
      Newsroom.once.world.told.map (fun entry => (entry.1, entry.2.block))
        = [(0, .ofNat 1), (1, .ofNat 1), (0, .ofNat 2)] := by
  have works := Newsroom.relay_works Newsroom.chain
  have fresh : Newsroom.relay.Fresh Newsroom.chain Newsroom.opened :=
    ⟨.refl, List.nil_prefix, rfl, Database.intact_migrate⟩
  obtain ⟨-, told, registry⟩ := schedule_is_immaterial works works (by decide +kernel) fresh fresh
    rfl rfl Newsroom.run_often Newsroom.run_once (by decide +kernel) (by decide +kernel)
    ⟨by decide +kernel, by decide +kernel⟩ ⟨rfl, by decide +kernel⟩
  exact ⟨told, registry, by decide +kernel⟩

end LedgerWatch
