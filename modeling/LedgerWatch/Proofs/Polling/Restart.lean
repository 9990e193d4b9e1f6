import LedgerWatch.Proofs.Polling.Delivery

/-!
# One poller after another

At most one poller works at a station at a time. It is made anew now and then, it may fail to be
made, and ledger and store may fail it at any block of a poll. What the poller remembers and what
the store keeps never drift apart, and the store goes up by one block with every record that it
obeys.

The main statement is `mark_is_recorded`. That a poller can be made again whenever it gets its
answers (`create_answered`) rests on the record being at a block of the ledger, where every run of
pollers leaves it.
-/

namespace LedgerWatch

variable {W : Type}

/-! ### What the store has kept -/

def Note.obeyed? : Note → Option Offset
  | .written o true => some o
  | _ => none

/-- What the store has kept, from the root on, one record after another. -/
def Journal.records (j : Journal) : List Offset :=
  .root :: j.filterMap Note.obeyed?

/-- An attempt adds its block to the records exactly if it was recorded. -/
lemma Journal.records_append (j : Journal) (a : Attempt) : (j ++ a.notes : Journal).records
    = j.records ++ if a.recorded then [⟨a.block.id, a.block.height⟩] else [] := by
  obtain ⟨b, recorded⟩ := a
  cases recorded <;> simp [records, Attempt.notes, List.filterMap_cons, Note.obeyed?]

/-- The records of attempts in turn go up by one height each, to a block that was attempted. -/
lemma InTurn.records {attempts : List Attempt} {n : Nat} (d : InTurn attempts n) :
    let records := Journal.records (attempts.flatMap Attempt.notes)
    records.IsChain (fun o o' => o'.height = o.height + 1) ∧
      ∃ o, records.getLast? = some o ∧ o.height = n ∧
        (o = .root ∨ ∃ a ∈ attempts, o = ⟨a.block.id, a.block.height⟩) := by
  induction d with
  | nil => exact ⟨List.isChain_singleton _, .root, rfl, rfl, .inl rfl⟩
  | @recorded attempts n b d h ih =>
    obtain ⟨chain, o, last, height, -⟩ := ih
    rw [List.flatMap_append, List.flatMap_singleton, Journal.records_append, if_pos rfl]
    refine ⟨chain.append (List.isChain_singleton _) fun x hx y hy => ?_, _,
      List.getLast?_concat, h, .inr ⟨_, List.mem_append_right _ (List.mem_singleton.2 rfl), rfl⟩⟩
    rw [last] at hx
    cases hx
    cases hy
    rw [height, h]
  | @failed attempts n b d h ih =>
    obtain ⟨chain, o, last, height, made⟩ := ih
    rw [List.flatMap_append, List.flatMap_singleton, Journal.records_append,
      if_neg Bool.false_ne_true, List.append_nil]
    refine ⟨chain, o, last, height, made.imp_right ?_⟩
    rintro ⟨a, mem, e⟩
    exact ⟨a, List.mem_append_left _ mem, e⟩

namespace Station

variable {s : Station W} {w : W} {j : Journal}

/-- The record is the root's or that of a block of the ledger. -/
lemma Consistent.real (c : s.Consistent w j) :
    s.record w = .root ∨ ∃ b ∈ (s.ledger w).blocks, s.record w = ⟨b.id, b.height⟩ := by
  have stands := c.stands
  generalize s.record w = o at stands
  obtain ⟨block, height⟩ := o
  cases stands with
  | root => exact .inl rfl
  | block hb => exact .inr ⟨_, hb, rfl⟩

/-- The record is the last one that the store has kept. -/
lemma Consistent.records (c : s.Consistent w j) :
    j.records.IsChain (fun o o' => o'.height = o.height + 1) ∧
      j.records.getLast? = some (s.record w) := by
  obtain ⟨attempts, rfl, blocks, turn⟩ := c.inTurn
  obtain ⟨chain, o, last, height, made⟩ := turn.records
  have stands : (s.ledger w).Stands o.block o.height := by
    rcases made with rfl | ⟨a, mem, rfl⟩
    · exact .root
    · exact .block (blocks a mem)
  -- both are at the same height, where only one block stands
  rw [height] at stands
  have same : o = s.record w := by
    obtain ⟨block, n⟩ := o
    obtain rfl := c.sound.stands_inj stands c.stands
    obtain rfl : n = (s.record w).height := height
    rfl
  rw [← same]
  exact ⟨chain, last⟩

end Station

/-! ### Making a poller -/

namespace Poller

variable {s : Station W} {p : Poller W} {w : W} {j : Journal}

/-- The store and the ledger answer whatever the poller asks them when it is made in a world. -/
structure Answered (p : Poller W) (w : W) : Prop where
  restore : ∃ o, (p.offsets.restore.run w).1 = .ok o
  block? : ∀ o, (p.offsets.restore.run w).1 = .ok o → o.block ≠ .root →
    ∃ b, ((p.ledger.block? o.block).run (p.offsets.restore.run w).2).1 = .ok b
  isProcessed : ∀ o, (p.offsets.restore.run w).1 = .ok o → o.block ≠ .root →
    ∃ b, ((p.offsets.isProcessed o.height).run
      ((p.ledger.block? o.block).run (p.offsets.restore.run w).2).2).1 = .ok b

/-- A poller that gets its answers is made, and stands at the record. -/
lemma create_answered (hp : p.Faithful s) (c : s.Consistent w j) (answered : p.Answered w) :
    (p.create.run w).1 = .ok (s.record w).block := by
  obtain ⟨o, restored⟩ := answered.restore
  have asked := answered.block? o restored
  have read := answered.isProcessed o restored
  have rests := hp.offsets.restore_rests w c.intact
  obtain rfl := hp.offsets.restore w o c.intact restored
  rw [create, Program.bind_eq, Program.run_bind, restored]
  generalize (p.offsets.restore.run w).2 = w₁ at rests asked read
  dsimp only
  by_cases zero : (s.record w).block.isZero = true
  · rw [if_pos zero, Identifier.isZero_iff.1 zero]
    rfl
  · have named : (s.record w).block ≠ .root := fun root => zero (Identifier.isZero_iff.2 root)
    obtain ⟨found, asked⟩ := asked named
    obtain ⟨processed, read⟩ := read named
    rw [if_neg zero, Program.bind_eq, Program.run_bind, asked]
    have asks := hp.ledger.block? (s.record w).block
    have both := rests.trans (asks.rests w₁)
    -- the record is at a block, which the ledger finds
    obtain ⟨b, rfl⟩ : ∃ b, found = some b := by
      obtain ⟨l, before, -, answer⟩ := asks.answer w₁ found asked
      have grows : (s.ledger w).Grows l := rests.grows.trans before
      rcases c.real with root | ⟨b, hb, e⟩
      · rw [root] at named
        exact absurd rfl named
      · rw [e, (c.sound.grows grows).block?_of_mem (grows.blocks_prefix.subset hb)] at answer
        unfold Ledger.answer at answer
        split at answer
        · cases answer
        · exact ⟨b, (Except.ok.inj answer).symm⟩
    have recorded : (s.record w₁).block = (s.record w).block := by rw [rests.record]
    obtain ⟨-, name, height⟩ := (c.rests rests).replayed recorded asks asked
    rw [both.record] at height
    -- the store has come to the height at which the block stands
    have known := hp.offsets.isProcessed _ _ _ (both.intact c.intact) read
    rw [both.record, decide_eq_true (Nat.le_refl _)] at known
    rw [known] at read
    have skipped : (p.processBlock b).run ((p.ledger.block? (s.record w).block).run w₁).2
        = (.ok (), p.metrics.modify (Metrics.increment .blockSkipped)
          ((p.offsets.isProcessed b.height).run
            ((p.ledger.block? (s.record w).block).run w₁).2).2) := by
      rw [processBlock, Program.bind_eq, Program.run_bind, height, read]
      rfl
    dsimp only
    rw [Program.bind_eq, Program.run_bind, skipped]
    exact congrArg Except.ok name

end Poller

/-! ### Runs -/

/-- A station with its one poller: its world, what was noted, and the mark of the poller, if any. -/
structure Watch (W : Type) where
  world : W
  journal : Journal := []
  mark : Option BlockId := none

namespace Station

variable {s : Station W} {c d : Watch W}

/-- What happens at a station with one poller at a time. -/
inductive Turn (s : Station W) : Watch W → Watch W → Prop where
  /-- Blocks are appended, or the ledger changes between available and unavailable. -/
  | rest {c : Watch W} {v : W} :
    s.Rests c.world v →
    Turn s c { c with world := v }
  /-- The poller is left behind, and another one is made, or the attempt to make one fails. -/
  | create {c : Watch W} {p : Poller W} :
    p.Faithful s →
    Turn s c
      { world := (p.create.run c.world).2
        journal := (p.journaled.create.run (c.world, c.journal)).2.2
        mark := (p.create.run c.world).1.toOption }
  /-- The poller polls once, from beginning to end or until something fails. -/
  | poll {c : Watch W} {p : Poller W} {mark : BlockId} :
    p.Faithful s →
    c.mark = some mark →
    Turn s c
      { world := ((p.poll mark).run c.world).2
        journal := ((p.journaled.poll mark).run (c.world, c.journal)).2.2
        mark := some ((p.poll mark).run c.world).1.2 }

/-- Everything is consistent, and the poller remembers what is recorded. -/
structure Abreast (s : Station W) (c : Watch W) : Prop where
  consistent : s.Consistent c.world c.journal
  mark : ∀ mark ∈ c.mark, mark = (s.record c.world).block

/-- What happens at a station leaves the poller abreast of the record. -/
lemma Abreast.turn (h : s.Abreast c) (t : s.Turn c d) : s.Abreast d := by
  cases t with
  | rest r => exact ⟨h.consistent.rests r, fun mark hm => r.record ▸ h.mark mark hm⟩
  | @create p hp =>
    obtain ⟨answer, v, run, consistent, -, kept, made⟩ := Poller.create_spec hp h.consistent
    obtain ⟨e1, e2⟩ := p.create_follows c.world c.journal
    rw [run] at e1 e2
    rw [← e1, ← e2, run]
    refine ⟨consistent, fun mark hm => ?_⟩
    cases answer with
    | error e => cases hm
    | ok new =>
      cases hm
      rw [kept]
      exact made _ rfl
  | @poll p mark hp hmark =>
    have at_ := h.mark mark hmark
    have reached : s.Reached c.world mark := at_ ▸ .record h.consistent rfl
    obtain ⟨answer, new, v, k, run, consistent, -, -, abreast⟩ :=
      Poller.poll_spec hp h.consistent reached
    obtain ⟨e1, e2⟩ := p.poll_follows mark c.world c.journal
    rw [run] at e1 e2
    rw [← e1, ← e2, run]
    refine ⟨consistent, fun mark hm => ?_⟩
    cases hm
    exact abreast at_

lemma Abreast.run (h : s.Abreast c) (run : Relation.ReflTransGen s.Turn c d) : s.Abreast d := by
  induction run with
  | refl => exact h
  | tail _ t ih => exact ih.turn t

end Station

/--
Whatever fails, and however often the poller is made anew: the record is the root's or that of a
block of the ledger, the poller remembers the block that is recorded, and the store has gone up by
one height with every record that it obeyed. Making a poller notes and records nothing, and succeeds
at the record whenever store and ledger answer.
-/
theorem mark_is_recorded {s : Station W} {w : W} {c : Watch W}
    (chain : Ledger.Grows {} (s.ledger w)) (fresh : s.record w = .root) (intact : s.intact w)
    (run : Relation.ReflTransGen s.Turn { world := w } c) :
    (s.record c.world = .root ∨
      ∃ b ∈ (s.ledger c.world).blocks, s.record c.world = ⟨b.id, b.height⟩) ∧
    (∀ mark, c.mark = some mark → mark = (s.record c.world).block) ∧
    (c.journal.records.IsChain (fun o o' => o'.height = o.height + 1) ∧
      c.journal.records.getLast? = some (s.record c.world)) ∧
    ∀ p : Poller W, p.Faithful s →
      (p.journaled.create.run (c.world, c.journal)).2 = ((p.create.run c.world).2, c.journal) ∧
      s.record (p.create.run c.world).2 = s.record c.world ∧
      (p.Answered c.world → (p.create.run c.world).1 = .ok (s.record c.world).block) := by
  have start : s.Abreast { world := w } :=
    ⟨(Station.Settled.fresh chain fresh intact).consistent, nofun⟩
  obtain ⟨consistent, mark⟩ := start.run run
  refine ⟨consistent.real, mark, consistent.records, fun p hp => ?_⟩
  obtain ⟨answer, v, made, -, -, kept, -⟩ := Poller.create_spec hp consistent
  obtain ⟨-, world⟩ := p.create_follows c.world c.journal
  rw [made] at world
  rw [made, ← world]
  exact ⟨rfl, kept, Poller.create_answered hp consistent⟩

namespace Desk

def remade (writable : Bool) (c : Watch Desk) : Watch Desk where
  world := ((poller writable).create.run c.world).2
  journal := ((poller writable).journaled.create.run (c.world, c.journal)).2.2
  mark := ((poller writable).create.run c.world).1.toOption

def watched (writable : Bool) (mark : BlockId) (c : Watch Desk) : Watch Desk where
  world := (((poller writable).poll mark).run c.world).2
  journal := (((poller writable).journaled.poll mark).run (c.world, c.journal)).2.2
  mark := some (((poller writable).poll mark).run c.world).1.2

/-- A poller that cannot record either of two blocks, and another one that can. -/
def recovered : Watch Desk :=
  watched true .root (remade true (watched false .root (remade true { world := twoBlocks })))

end Desk

/-- The store refused a poll and obeyed the next: the poller made then starts at the last block. -/
theorem mark_is_recorded_at_desk :
    Desk.recovered.mark = some (.ofNat 2) ∧
      Desk.recovered.journal.records = [.root, ⟨.ofNat 1, 1⟩, ⟨.ofNat 2, 2⟩] ∧
      (Desk.recovered.world.database.offset = .root ∨
        ∃ b ∈ Desk.recovered.world.ledger.blocks,
          Desk.recovered.world.database.offset = ⟨b.id, b.height⟩) ∧
      ((Desk.poller false).create.run Desk.recovered.world).1 = .ok (.ofNat 2) := by
  have first : Ledger.Fresh {} (.ofNat 1) := ⟨by decide, by decide⟩
  have second : Ledger.Fresh (({} : Ledger).append (.ofNat 1) []) (.ofNat 2) :=
    ⟨by decide, by decide⟩
  have chain : Ledger.Grows {} (Desk.station.ledger Desk.twoBlocks) :=
    (Relation.ReflTransGen.single (.append [] first)).tail (.append [] second)
  have create (writable : Bool) (c : Watch Desk) : Desk.station.Turn c (Desk.remade writable c) :=
    .create (Desk.poller_faithful writable)
  have poll (writable : Bool) (c : Watch Desk) (h : c.mark = some .root) :
      Desk.station.Turn c (Desk.watched writable .root c) :=
    .poll (Desk.poller_faithful writable) h
  have run : Relation.ReflTransGen Desk.station.Turn { world := Desk.twoBlocks }
      Desk.recovered :=
    (((Relation.ReflTransGen.single (create true _)).tail (poll false _ (by decide))).tail
      (create true _)).tail (poll true _ (by decide))
  obtain ⟨real, mark, -, made⟩ := mark_is_recorded chain rfl Database.intact_migrate run
  obtain ⟨-, -, answers⟩ := made (Desk.poller false) (Desk.poller_faithful false)
  have restored : ((Desk.poller false).offsets.restore.run Desk.recovered.world).1
      = .ok ⟨.ofNat 2, 2⟩ := by rfl
  have answered : (Desk.poller false).Answered Desk.recovered.world := by
    refine ⟨⟨_, restored⟩, fun o answer _ => ?_, fun o answer _ => ?_⟩
    · rw [restored] at answer
      cases answer
      exact ⟨_, rfl⟩
    · rw [restored] at answer
      cases answer
      exact ⟨_, rfl⟩
  have here : Desk.recovered.mark = some (.ofNat 2) := by decide
  refine ⟨here, by decide, real, ?_⟩
  rw [answers answered, ← mark _ here]

end LedgerWatch
