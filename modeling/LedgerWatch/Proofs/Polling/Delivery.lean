import LedgerWatch.Proofs.Polling.Attempt
import LedgerWatch.Proofs.Polling.Station

/-!
# In which order blocks are delivered

Any number of pollers work at one station, one after another and with marks that may be long out of
date, while blocks are appended and the ledger and the store fail now and then. What they hand on
and write down goes into one journal.

The main statement is `deliveries_in_turn`: the journal consists of attempts in turn, up to the
height of the stored offset. It rests on the invariant `Consistent`, which every event of a run
keeps, and on what one block does to it (`processBlock_spec`).
-/

namespace LedgerWatch

variable {W : Type}

namespace Station

variable {s : Station W} {p : Poller W} {u v w : W} {j : Journal} {b : Block} {mark : BlockId}

/-- The record is at a block of the ledger, and the journal has come as far as the record. -/
structure Consistent (s : Station W) (w : W) (j : Journal) : Prop where
  sound : (s.ledger w).Sound
  intact : s.intact w
  stands : (s.ledger w).Stands (s.record w).block (s.record w).height
  inTurn : ∃ attempts : List Attempt, j = attempts.flatMap Attempt.notes ∧
    (∀ a ∈ attempts, a.block ∈ (s.ledger w).blocks) ∧ InTurn attempts (s.record w).height

/-- From one world to a later one the ledger grows, and the record does not go back. -/
structure Advances (s : Station W) (w v : W) : Prop where
  grows : (s.ledger w).Grows (s.ledger v)
  height : (s.record w).height ≤ (s.record v).height

/-- The record has come to a mark or past it. -/
def Reached (s : Station W) (w : W) (mark : BlockId) : Prop :=
  ∃ n, (s.ledger w).Stands mark n ∧ n ≤ (s.record w).height

lemma Rests.advances (r : s.Rests w v) : s.Advances w v :=
  ⟨r.grows, r.record ▸ Nat.le_refl _⟩

lemma Advances.trans (h : s.Advances u v) (k : s.Advances v w) : s.Advances u w :=
  ⟨h.grows.trans k.grows, h.height.trans k.height⟩

/-- A mark that the record has reached stays reached. -/
lemma Reached.advances (h : s.Reached w mark) (a : s.Advances w v) : s.Reached v mark := by
  obtain ⟨n, stands, le⟩ := h
  exact ⟨n, stands.grows a.grows, le.trans a.height⟩

/-- The record has reached the root from the beginning. -/
lemma Reached.root : s.Reached w .root :=
  ⟨0, .root, Nat.zero_le _⟩

/-- The record has reached every block that is not above it. -/
lemma Reached.block (hb : b ∈ (s.ledger w).blocks) (le : b.height ≤ (s.record w).height) :
    s.Reached w b.id :=
  ⟨b.height, .block hb, le⟩

/-- The record has come to itself. -/
lemma Reached.record (c : s.Consistent v j) (kept : s.record v = s.record w) :
    s.Reached v (s.record w).block :=
  kept ▸ ⟨_, c.stands, Nat.le_refl _⟩

/-- What is consistent stays so while the station rests. -/
lemma Consistent.rests (c : s.Consistent w j) (r : s.Rests w v) : s.Consistent v j where
  sound := c.sound.grows r.grows
  intact := r.intact c.intact
  stands := r.record ▸ c.stands.grows r.grows
  inTurn := by
    obtain ⟨attempts, e, blocks, turn⟩ := c.inTurn
    exact ⟨attempts, e, fun a ha => r.grows.blocks_prefix.subset (blocks a ha), r.record ▸ turn⟩

/-- An attempt at the height that is due, which the store obeys. -/
lemma Consistent.recorded (c : s.Consistent w j) (hb : b ∈ (s.ledger w).blocks)
    (due : b.height = (s.record w).height + 1) (grows : (s.ledger w).Grows (s.ledger v))
    (intact : s.intact v) (written : s.record v = ⟨b.id, b.height⟩) :
    s.Consistent v (j ++ Attempt.notes ⟨b, true⟩) where
  sound := c.sound.grows grows
  intact := intact
  stands := by
    rw [written]
    exact (Ledger.Stands.block hb).grows grows
  inTurn := by
    obtain ⟨attempts, rfl, blocks, turn⟩ := c.inTurn
    refine ⟨attempts ++ [⟨b, true⟩], by simp, fun a ha => ?_, ?_⟩
    · rcases List.mem_append.1 ha with ha | ha
      · exact grows.blocks_prefix.subset (blocks a ha)
      · obtain rfl := List.mem_singleton.1 ha
        exact grows.blocks_prefix.subset hb
    · rw [written, due]
      exact turn.recorded due

/-- An attempt at the height that is due, which the store refuses. -/
lemma Consistent.failed (c : s.Consistent w j) (hb : b ∈ (s.ledger w).blocks)
    (due : b.height = (s.record w).height + 1) (r : s.Rests w v) :
    s.Consistent v (j ++ Attempt.notes ⟨b, false⟩) where
  sound := c.sound.grows r.grows
  intact := r.intact c.intact
  stands := (c.rests r).stands
  inTurn := by
    obtain ⟨attempts, rfl, blocks, turn⟩ := c.inTurn
    refine ⟨attempts ++ [⟨b, false⟩], by simp, fun a ha => ?_, ?_⟩
    · rcases List.mem_append.1 ha with ha | ha
      · exact r.grows.blocks_prefix.subset (blocks a ha)
      · obtain rfl := List.mem_singleton.1 ha
        exact r.grows.blocks_prefix.subset hb
    · rw [r.record]
      exact turn.failed due

/-- An attempt at the height that is due, whatever the store answers. -/
lemma Consistent.attempted {store : OffsetStore W} (hs : store.Faithful s) (c : s.Consistent w j)
    (hb : b ∈ (s.ledger w).blocks) (due : b.height = (s.record w).height + 1) :
    let answer := ((store.record ⟨b.id, b.height⟩).run w).1
    let v := ((store.record ⟨b.id, b.height⟩).run w).2
    s.Consistent v (j ++ Attempt.notes ⟨b, answer.isOk⟩) ∧ s.Advances w v ∧
      (answer = .ok () → s.record v = ⟨b.id, b.height⟩) ∧
      ∀ e, answer = .error e → s.record v = s.record w := by
  intro answer v
  have grows : (s.ledger w).Grows (s.ledger v) := hs.record_grows _ w c.intact
  have intact : s.intact v := hs.record_intact _ w c.intact
  cases obeyed : answer with
  | error e =>
    have kept : s.Rests w v := ⟨grows, hs.record_error _ w e c.intact obeyed, fun _ => intact⟩
    exact ⟨c.failed hb due kept, kept.advances, nofun, fun _ _ => kept.record⟩
  | ok _ =>
    have written : s.record v = ⟨b.id, b.height⟩ := hs.record_ok _ w c.intact obeyed
    have reached : (s.record v).height = b.height := by rw [written]
    have past : (s.record w).height ≤ (s.record v).height := by omega
    exact ⟨c.recorded hb due grows intact written, ⟨grows, past⟩, fun _ => written, nofun⟩

/-- A block was processed, or the store failed: what became of the record and the journal. -/
structure Processed (s : Station W) (b : Block) (w : W) (j : Journal)
    (answer : Except StorageError Unit) (v : W) (k : Journal) : Prop where
  consistent : s.Consistent v k
  advances : s.Advances w v
  /-- A block that the record has reached is skipped. -/
  skipped : b.height ≤ (s.record w).height → s.record v = s.record w ∧ k = j
  recorded : (s.record w).height < b.height → answer = .ok () → s.record v = ⟨b.id, b.height⟩
  refused : ∀ e, answer = .error e → s.record v = s.record w

/-- The record has reached a block that was processed. -/
lemma Processed.reached {answer : Except StorageError Unit} {k : Journal}
    (h : s.Processed b w j answer v k) (ok : answer = .ok ()) :
    b.height ≤ (s.record v).height := by
  rcases Nat.lt_or_ge (s.record w).height b.height with above | below
  · rw [h.recorded above ok]
  · rw [(h.skipped below).1]
    exact below

/-- Nothing happened on the way, and the block was not recorded. -/
lemma Processed.of_rests {answer : Except StorageError Unit} (c : s.Consistent w j)
    (r : s.Rests w v) (refused : answer = .ok () → b.height ≤ (s.record w).height) :
    s.Processed b w j answer v j where
  consistent := c.rests r
  advances := r.advances
  skipped _ := ⟨r.record, rfl⟩
  recorded above ok := absurd (refused ok) (Nat.not_le.2 above)
  refused _ _ := r.record

/-- The block that bears the recorded name stands at the recorded height. -/
lemma Consistent.replayed {question : Program W (Except LedgerError (Option Block))} {id : BlockId}
    (c : s.Consistent w j) (recorded : (s.record w).block = id)
    (asks : s.Asks question (·.block? id)) (found : (question.run w).1 = .ok (some b)) :
    b ∈ (s.ledger (question.run w).2).blocks ∧ b.id = id ∧
      b.height = (s.record (question.run w).2).height := by
  obtain ⟨l, before, after, block⟩ := asks.answer w _ found
  have sound := c.sound.grows before
  obtain ⟨hb, name⟩ := sound.block? block
  -- a name stands at one height only
  have stands := c.stands.grows before
  rw [recorded, ← name] at stands
  rw [(asks.rests w).record]
  exact ⟨after.blocks_prefix.subset hb, name, sound.stands_unique (.block hb) stands⟩

end Station

namespace Poller

open Station

variable {s : Station W} {p : Poller W} {w : W} {j : Journal} {b : Block} {mark : BlockId}

/-- Handing a block on notes it and leaves the record alone. -/
lemma run_announce (hp : p.Faithful s) (b : Block) (w : W) (j : Journal) :
    ∃ v, (p.journaled.announce b).run (w, j) = ((), v, j ++ [.handed b]) ∧ s.Rests w v := by
  have rests := hp.notify b w
  have e : (p.journaled.notify b).run (w, j)
      = (((p.notify b).run w).1, ((p.notify b).run w).2, j ++ [.handed b]) :=
    Program.run_beside (p.notify b) w (j ++ [Note.handed b])
  rw [announce, Program.bind_eq, Program.run_bind, e]
  cases ((p.notify b).run w).1 with
  | ok tally => exact ⟨_, rfl, rests.trans (hp.modify _ _)⟩
  | error e => exact ⟨_, rfl, rests.trans (hp.modify _ _)⟩

/-- A write to the store is noted, with its outcome. -/
lemma run_record (store : OffsetStore W) (o : Offset) (w : W) (j : Journal) :
    (store.journaled.record o).run (w, j)
      = (((store.record o).run w).1, ((store.record o).run w).2,
          j ++ [.written o ((store.record o).run w).1.isOk]) := by
  simp only [OffsetStore.journaled, Program.bind_eq, Program.run_bind, Program.run_beside]
  rfl

/-- A block at most one above the record is skipped, or attempted when it is due. -/
lemma processBlock_spec (hp : p.Faithful s) (c : s.Consistent w j) (hb : b ∈ (s.ledger w).blocks)
    (due : b.height ≤ (s.record w).height + 1) :
    ∃ answer v k, (p.journaled.processBlock b).run (w, j) = (answer, v, k) ∧
      s.Processed b w j answer v k := by
  have asked := hp.offsets.isProcessed_rests b.height w c.intact
  have e : (p.journaled.offsets.isProcessed b.height).run (w, j)
      = (((p.offsets.isProcessed b.height).run w).1,
          ((p.offsets.isProcessed b.height).run w).2, j) :=
    Program.run_beside _ w j
  rw [processBlock, Program.bind_eq, Program.run_bind, e]
  cases read : ((p.offsets.isProcessed b.height).run w).1 with
  | error e => exact ⟨_, _, _, rfl, .of_rests c asked nofun⟩
  | ok processed =>
    have known := hp.offsets.isProcessed b.height w _ c.intact read
    generalize ((p.offsets.isProcessed b.height).run w).2 = w₁ at asked
    cases processed with
    | true =>
      have counted := asked.trans (hp.modify (Metrics.increment .blockSkipped) w₁)
      exact ⟨_, _, _, rfl, .of_rests c counted fun _ => of_decide_eq_true known.symm⟩
    | false =>
      -- the block is above the record and at most one above it, so it is the one that is due
      have height : b.height = (s.record w).height + 1 := by
        have := of_decide_eq_false known.symm
        omega
      obtain ⟨w₂, announced, rests⟩ := run_announce hp b w₁ j
      have before := asked.trans rests
      have hb₂ := before.grows.blocks_prefix.subset hb
      have height₂ : b.height = (s.record w₂).height + 1 := by
        rw [before.record]
        exact height
      obtain ⟨consistent, advances, recorded, refused⟩ :=
        (c.rests before).attempted hp.offsets hb₂ height₂
      have whole := before.advances.trans advances
      have above : ¬b.height ≤ (s.record w).height := by omega
      dsimp only
      rw [Program.bind_eq, Program.run_bind, announced]
      dsimp only
      rw [Program.bind_eq, Program.run_bind, journaled, run_record]
      rw [Attempt.notes, List.append_cons] at consistent
      cases answer : ((p.offsets.record ⟨b.id, b.height⟩).run w₂).1 with
      | error e =>
        rw [answer] at consistent
        have kept := (refused e answer).trans before.record
        exact ⟨_, _, _, rfl, consistent, whole, fun le => absurd le above, nofun, fun _ _ => kept⟩
      | ok _ =>
        rw [answer] at consistent
        have counted := hp.modify (Metrics.recordOffset b.height)
          ((p.offsets.record ⟨b.id, b.height⟩).run w₂).2
        have written := counted.record.trans (recorded answer)
        exact ⟨_, _, _, rfl, consistent.rests counted, whole.trans counted.advances,
          fun le => absurd le above, fun _ _ => written, nofun⟩

/--
Blocks of the chain above a height that is recorded are processed until the store fails. A mark that
is at the record stays there.
-/
lemma processBlocks_spec (hp : p.Faithful s) {blocks : List Block} {n : Nat} {l : Ledger}
    (c : s.Consistent w j) (sound : l.Sound) (grows : l.Grows (s.ledger w))
    (e : blocks = l.blocks.drop n) (le : n ≤ (s.record w).height) (reached : s.Reached w mark) :
    ∃ answer mark' v k, (p.journaled.processBlocks mark blocks).run (w, j)
        = ((answer, mark'), v, k) ∧
      s.Consistent v k ∧ s.Advances w v ∧ s.Reached v mark' ∧
      (n = (s.record w).height → mark = (s.record w).block → mark' = (s.record v).block) := by
  -- the record has come to the height below the first block that is left
  induction blocks generalizing n w j mark with
  | nil => exact ⟨_, _, _, _, rfl, c, (Rests.refl w).advances, reached, fun _ at_ => at_⟩
  | cons b rest ih =>
    obtain ⟨hb, height, erest⟩ := sound.height_of_drop e.symm
    have here := grows.blocks_prefix.subset hb
    obtain ⟨answer, v, k, run, processed⟩ := processBlock_spec hp c here (by omega)
    have advances := processed.advances
    rw [processBlocks, Program.bind_eq, Program.run_bind, run]
    cases answer with
    | error e =>
      have kept := processed.refused e rfl
      exact ⟨_, _, _, _, rfl, processed.consistent, advances, reached.advances advances,
        fun _ at_ => kept ▸ at_⟩
    | ok _ =>
      have past := processed.reached rfl
      have next := Reached.block (advances.grows.blocks_prefix.subset here) past
      obtain ⟨answer, mark', v', k', run', consistent', advances', reached', abreast⟩ :=
        ih processed.consistent (grows.trans advances.grows) erest (height ▸ past) next
      refine ⟨_, _, _, _, run', consistent', advances.trans advances', reached', fun top _ => ?_⟩
      have written := processed.recorded (by omega) rfl
      exact abreast (by rw [written, height]) (by rw [written])

/--
A poll from a mark that was reached keeps all consistent, and reaches the mark it gives. A mark that
is at the record stays there.
-/
lemma poll_spec (hp : p.Faithful s) (c : s.Consistent w j) (reached : s.Reached w mark) :
    ∃ answer mark' v k, (p.journaled.poll mark).run (w, j) = ((answer, mark'), v, k) ∧
      s.Consistent v k ∧ s.Advances w v ∧ s.Reached v mark' ∧
      (mark = (s.record w).block → mark' = (s.record v).block) := by
  have asks := hp.ledger.blocksAfter mark
  have rests := asks.rests w
  have run : (p.journaled.ledger.blocksAfter mark).run (w, j)
      = (((p.ledger.blocksAfter mark).run w).1, ((p.ledger.blocksAfter mark).run w).2, j) :=
    Program.run_beside _ w j
  rw [poll, Program.bind_eq, Program.run_bind, run]
  cases found : ((p.ledger.blocksAfter mark).run w).1 with
  | error e =>
    exact ⟨_, _, _, _, rfl, c.rests rests, rests.advances, reached.advances rests.advances,
      fun at_ => rests.record ▸ at_⟩
  | ok blocks =>
    obtain ⟨l, before, after, blocksAfter⟩ := asks.answer w blocks found
    have sound := c.sound.grows before
    obtain ⟨n, stands, e⟩ := sound.blocksAfter blocksAfter
    obtain ⟨m, standsBefore, le⟩ := reached
    -- the mark stands at one height only, which the record had reached
    obtain rfl := sound.stands_unique stands (standsBefore.grows before)
    have past : n ≤ (s.record ((p.ledger.blocksAfter mark).run w).2).height :=
      le.trans rests.advances.height
    obtain ⟨answer, mark', v, k, run', consistent, advances, reached', abreast⟩ :=
      processBlocks_spec hp (c.rests rests) sound after e past ⟨n, stands.grows after, past⟩
    have whole := rests.advances.trans advances
    have abreast' : mark = (s.record w).block → mark' = (s.record v).block := by
      rintro rfl
      rw [rests.record] at abreast
      exact abreast (sound.stands_unique stands (c.stands.grows before)) rfl
    dsimp only
    rw [Program.bind_eq, Program.run_bind, run']
    cases answer with
    | error e => exact ⟨_, _, _, _, rfl, consistent, whole, reached', abreast'⟩
    | ok _ => exact ⟨_, _, _, _, rfl, consistent, whole, reached', abreast'⟩

/-- A poller is made at the record, and nothing is recorded or noted: what it replays is not due. -/
lemma create_spec (hp : p.Faithful s) (c : s.Consistent w j) :
    ∃ answer v, p.journaled.create.run (w, j) = (answer, v, j) ∧ s.Consistent v j ∧
      s.Advances w v ∧ s.record v = s.record w ∧
      ∀ mark, answer = .ok mark → mark = (s.record w).block := by
  have rests := hp.offsets.restore_rests w c.intact
  have run : p.journaled.offsets.restore.run (w, j)
      = ((p.offsets.restore.run w).1, (p.offsets.restore.run w).2, j) :=
    Program.run_beside _ w j
  rw [create, Program.bind_eq, Program.run_bind, run]
  cases restored : (p.offsets.restore.run w).1 with
  | error e => exact ⟨_, _, rfl, c.rests rests, rests.advances, rests.record, nofun⟩
  | ok offset =>
    obtain rfl := hp.offsets.restore w offset c.intact restored
    generalize (p.offsets.restore.run w).2 = w₁ at rests
    dsimp only
    split
    · rename_i zero
      refine ⟨_, _, rfl, c.rests rests, rests.advances, rests.record, fun mark e => ?_⟩
      obtain rfl := Except.ok.inj e
      exact (Identifier.isZero_iff.1 zero).symm
    · have asks := hp.ledger.block? (s.record w).block
      have restsAsk := asks.rests w₁
      have runAsk : (p.journaled.ledger.block? (s.record w).block).run (w₁, j)
          = (((p.ledger.block? (s.record w).block).run w₁).1,
            ((p.ledger.block? (s.record w).block).run w₁).2, j) :=
        Program.run_beside _ w₁ j
      have both := rests.trans restsAsk
      rw [Program.bind_eq, Program.run_bind, runAsk]
      rcases found : ((p.ledger.block? (s.record w).block).run w₁).1 with e | _ | b
      · exact ⟨_, _, rfl, c.rests both, both.advances, both.record, nofun⟩
      · exact ⟨_, _, rfl, c.rests both, both.advances, both.record, nofun⟩
      · have recorded : (s.record w₁).block = (s.record w).block := by rw [rests.record]
        obtain ⟨here, name, height⟩ := (c.rests rests).replayed recorded asks found
        obtain ⟨answer, v, k, run', processed⟩ :=
          processBlock_spec hp (c.rests both) here (height.le.trans (Nat.le_succ _))
        obtain ⟨kept, rfl⟩ := processed.skipped height.le
        have whole := both.advances.trans processed.advances
        have kept' := kept.trans both.record
        dsimp only
        rw [Program.bind_eq, Program.run_bind, run']
        cases answer with
        | error e => exact ⟨_, _, rfl, processed.consistent, whole, kept', nofun⟩
        | ok _ =>
          refine ⟨_, _, rfl, processed.consistent, whole, kept', fun mark e => ?_⟩
          exact (Except.ok.inj e).symm.trans name

end Poller

/--
What has become of a station: its world, what the pollers noted, and the marks at which a poller
stands or has stood. A poller may go on from any of them, however long ago it was left behind.
-/
structure Chronicle (W : Type) where
  world : W
  journal : Journal := []
  marks : List BlockId := [.root]

namespace Station

variable {s : Station W} {c d : Chronicle W}

/-- What happens at a station, one thing at a time. -/
inductive Event (s : Station W) : Chronicle W → Chronicle W → Prop where
  /-- Blocks are appended, or the ledger changes between available and unavailable. -/
  | rest {c : Chronicle W} {v : W} :
    s.Rests c.world v →
    Event s c { c with world := v }
  /-- A poller is made, or the attempt to make one fails. -/
  | create {c : Chronicle W} {p : Poller W} :
    p.Faithful s →
    Event s c
      { world := (p.create.run c.world).2
        journal := (p.journaled.create.run (c.world, c.journal)).2.2
        marks := match (p.create.run c.world).1 with
          | .ok mark => mark :: c.marks
          | .error _ => c.marks }
  /-- A poller polls once, from beginning to end or until something fails. -/
  | poll {c : Chronicle W} {p : Poller W} {mark : BlockId} :
    p.Faithful s →
    mark ∈ c.marks →
    Event s c
      { world := ((p.poll mark).run c.world).2
        journal := ((p.journaled.poll mark).run (c.world, c.journal)).2.2
        marks := ((p.poll mark).run c.world).1.2 :: c.marks }

/-- Everything is consistent and no mark is ahead of the record. -/
structure Settled (s : Station W) (c : Chronicle W) : Prop where
  consistent : s.Consistent c.world c.journal
  reached : ∀ mark ∈ c.marks, s.Reached c.world mark

/-- A station at its beginning is settled. -/
lemma Settled.fresh {w : W} (chain : Ledger.Grows {} (s.ledger w)) (fresh : s.record w = .root)
    (intact : s.intact w) :
    s.Settled { world := w } where
  consistent :=
    { sound := Ledger.Sound.empty.grows chain
      intact
      stands := by
        rw [fresh]
        exact .root
      inTurn := by
        refine ⟨[], rfl, nofun, ?_⟩
        rw [fresh]
        exact .nil }
  reached mark h := by
    obtain rfl := List.mem_singleton.1 h
    exact .root

/-- Every event leaves a station settled. -/
lemma Settled.event (h : s.Settled c) (e : s.Event c d) : s.Settled d := by
  cases e with
  | rest r => exact ⟨h.consistent.rests r, fun mark hm => (h.reached mark hm).advances r.advances⟩
  | @create p hp =>
    obtain ⟨answer, v, run, consistent, advances, kept, made⟩ :=
      Poller.create_spec hp h.consistent
    obtain ⟨e1, e2⟩ := p.create_follows c.world c.journal
    rw [run] at e1 e2
    rw [← e1, ← e2, run]
    refine ⟨consistent, fun mark hm => ?_⟩
    cases answer with
    | error e => exact (h.reached mark hm).advances advances
    | ok new =>
      rcases List.mem_cons.1 hm with rfl | hm
      · obtain rfl := made _ rfl
        exact .record consistent kept
      · exact (h.reached mark hm).advances advances
  | @poll p mark hp hmark =>
    obtain ⟨answer, new, v, k, run, consistent, advances, reached, -⟩ :=
      Poller.poll_spec hp h.consistent (h.reached mark hmark)
    obtain ⟨e1, e2⟩ := p.poll_follows mark c.world c.journal
    rw [run] at e1 e2
    rw [← e1, ← e2, run]
    refine ⟨consistent, fun mark hm => ?_⟩
    rcases List.mem_cons.1 hm with rfl | hm
    · exact reached
    · exact (h.reached mark hm).advances advances

/-- A station is settled after everything that happened. -/
lemma Settled.run (h : s.Settled c) (run : Relation.ReflTransGen s.Event c d) : s.Settled d := by
  induction run with
  | refl => exact h
  | tail _ e ih => exact ih.event e

end Station

/--
Blocks are handed on in turn, whatever fails and whoever polls: first height 1, then the next height
when the one before was recorded and the same height when it was not. Up to the stored height each
height was handed on once more often than its record failed; without failures the heights are
1, 2, ... up to the stored one.
-/
theorem deliveries_in_turn {s : Station W} {w : W} {c : Chronicle W}
    (chain : Ledger.Grows {} (s.ledger w)) (fresh : s.record w = .root) (intact : s.intact w)
    (run : Relation.ReflTransGen s.Event { world := w } c) :
    ∃ attempts : List Attempt,
      c.journal = attempts.flatMap Attempt.notes ∧
      (∀ a ∈ attempts, a.block ∈ (s.ledger c.world).blocks) ∧
      (∀ a ∈ attempts.head?, a.block.height = 1) ∧
      attempts.IsChain (fun a b =>
        b.block.height = if a.recorded then a.block.height + 1 else a.block.height) ∧
      (∀ height, 1 ≤ height → height ≤ (s.record c.world).height →
        attempts.countP (fun a => a.block.height = height)
          = 1 + attempts.countP (fun a => a.block.height = height ∧ a.recorded = false)) ∧
      ((∀ a ∈ attempts, a.recorded = true) →
        attempts.map (·.block.height) = List.range' 1 (s.record c.world).height) := by
  have settled := (Station.Settled.fresh chain fresh intact).run run
  obtain ⟨attempts, e, blocks, turn⟩ := settled.consistent.inTurn
  refine ⟨attempts, e, blocks, turn.head, turn.chain, fun height low high => ?_, turn.heights⟩
  rw [turn.count height, if_pos ⟨low, high⟩]

/-- A ledger and a database in memory. -/
structure Desk where
  ledger : Ledger := {}
  database : Database := Database.migrate {}
  metrics : Metrics := {}

namespace Desk

/-- The station of pollers at a desk. -/
def station : Station Desk :=
  ⟨Desk.ledger, fun d => d.database.offset, fun d => d.database.Intact⟩

/-- The ledger of a desk. -/
def ledgerPart : Part Desk Ledger where
  get := Desk.ledger
  set ledger d := { d with ledger }
  get_set _ _ := rfl

/-- The database of a desk. -/
def databasePart : Part Desk Database where
  get := Desk.database
  set database d := { d with database }
  get_set _ _ := rfl

/-- The counters of a desk. -/
def metricsPart : Part Desk Metrics where
  get := Desk.metrics
  set metrics d := { d with metrics }
  get_set _ _ := rfl

/-- A poller at a desk whose blocks nobody takes, with a connection that may be read-only. -/
def poller (writable : Bool) : Poller Desk where
  ledger := .ofPart ledgerPart
  offsets := .ofDatabase databasePart writable
  notify _ := return .error .notActive
  metrics := metricsPart

/-- A poller at the desk is faithful. -/
lemma poller_faithful (writable : Bool) : (poller writable).Faithful station where
  ledger := LedgerReads.ofPart_faithful ledgerPart _ _
  offsets := OffsetStore.ofDatabase_faithful databasePart writable fun _ _ => rfl
  notify _ w := .refl w
  metrics _ _ := ⟨.refl, rfl, id⟩

/-- What becomes of a desk when a poller polls from a mark. -/
def polled (writable : Bool) (mark : BlockId) (c : Chronicle Desk) : Chronicle Desk where
  world := (((poller writable).poll mark).run c.world).2
  journal := (((poller writable).journaled.poll mark).run (c.world, c.journal)).2.2
  marks := (((poller writable).poll mark).run c.world).1.2 :: c.marks

/-- A desk with two blocks. -/
def twoBlocks : Desk where
  ledger := (({} : Ledger).append (.ofNat 1) []).append (.ofNat 2) []

/-- Three polls from the root: one that cannot record, one that records both blocks, one more. -/
def polledThrice : Chronicle Desk :=
  polled true .root (polled true .root (polled false .root { world := twoBlocks }))

end Desk

/--
Three polls of two blocks, the first of which cannot record: height 1 was handed on once more often
than its record failed.
-/
theorem deliveries_in_turn_at_desk :
    ∃ attempts : List Attempt, Desk.polledThrice.journal = attempts.flatMap Attempt.notes ∧
      attempts.countP (fun a => a.block.height = 1)
        = 1 + attempts.countP (fun a => a.block.height = 1 ∧ a.recorded = false) := by
  have first : Ledger.Fresh {} (.ofNat 1) := ⟨by decide, by decide⟩
  have second : Ledger.Fresh (({} : Ledger).append (.ofNat 1) []) (.ofNat 2) :=
    ⟨by decide, by decide⟩
  have chain : Ledger.Grows {} (Desk.station.ledger Desk.twoBlocks) :=
    (Relation.ReflTransGen.single (.append [] first)).tail (.append [] second)
  have poll (writable : Bool) (c : Chronicle Desk) (h : .root ∈ c.marks) :
      Desk.station.Event c (Desk.polled writable .root c) :=
    .poll (Desk.poller_faithful writable) h
  have run : Relation.ReflTransGen Desk.station.Event { world := Desk.twoBlocks }
      Desk.polledThrice :=
    ((Relation.ReflTransGen.single (poll _ _ (by decide))).tail (poll _ _ (by decide))).tail
      (poll _ _ (by decide))
  obtain ⟨attempts, journal, -, -, -, count, -⟩ :=
    deliveries_in_turn chain rfl Database.intact_migrate run
  exact ⟨attempts, journal, count 1 (by decide) (by decide)⟩

end LedgerWatch
