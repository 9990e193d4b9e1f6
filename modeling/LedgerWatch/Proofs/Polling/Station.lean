import LedgerWatch.Polling.Poller
import LedgerWatch.Proofs.Ledger.Growth
import LedgerWatch.Proofs.Storage.OffsetTable

/-!
# Stations

Pollers that share a ledger in memory and an offset store work at one station. This module says what
they rely on: questions to the ledger are answered truly or not at all, the store keeps the offset
that was written to it last and refuses or obeys each request, and nobody else writes to the store.
Blocks may be appended at any time, also while a question is asked or a block is handed on.

The main statements are `LedgerReads.ofPart_faithful` and `OffsetStore.ofDatabase_faithful`: pollers
can rely on a ledger in memory and on a database.
-/

namespace LedgerWatch

variable {W α : Type}

/--
What pollers work on, as it is in a world: the ledger, and the offset that the store keeps (the root
offset while it keeps none). The store is intact while it holds nothing but what pollers write.
-/
structure Station (W : Type) where
  ledger : W → Ledger
  record : W → Offset
  intact : W → Prop

namespace Station

variable {s : Station W} {u v w : W}

/-- Between two worlds the ledger has at most grown and the record is the same. -/
structure Rests (s : Station W) (w v : W) : Prop where
  grows : (s.ledger w).Grows (s.ledger v)
  record : s.record v = s.record w
  intact : s.intact w → s.intact v

lemma Rests.refl (w : W) : s.Rests w w :=
  ⟨.refl, rfl, id⟩

lemma Rests.trans (h : s.Rests u v) (k : s.Rests v w) : s.Rests u w :=
  ⟨h.grows.trans k.grows, k.record.trans h.record, fun intact => k.intact (h.intact intact)⟩

/-- A question to the ledger: an answer is true of the ledger as it was meanwhile. -/
structure Asks (s : Station W) (question : Program W (Except LedgerError α))
    (answer : Ledger → Except LedgerError α) : Prop where
  rests : ∀ w, s.Rests w (question.run w).2
  answer : ∀ w a, (question.run w).1 = .ok a →
    ∃ l, (s.ledger w).Grows l ∧ l.Grows (s.ledger (question.run w).2) ∧ answer l = .ok a

end Station

/-- Pollers ask the ledger of a station. -/
structure LedgerReads.Faithful (ledger : LedgerReads W) (s : Station W) : Prop where
  blocksAfter : ∀ id, s.Asks (ledger.blocksAfter id) (·.blocksAfter id)
  block? : ∀ id, s.Asks (ledger.block? id) (·.block? id)

/-- A ledger that is a part of the world answers faithfully. -/
lemma LedgerReads.ofPart_faithful (part : Part W Ledger) (record : W → Offset) (intact : W → Prop) :
    (LedgerReads.ofPart part).Faithful ⟨part.get, record, intact⟩ where
  blocksAfter _ := ⟨fun w => .refl w, fun w _ h => ⟨part.get w, .refl, .refl, h⟩⟩
  block? _ := ⟨fun w => .refl w, fun w _ h => ⟨part.get w, .refl, .refl, h⟩⟩

/--
A store keeps the record of a station. While it is intact it does what it is asked, or refuses and
changes nothing, and it stays intact.
-/
structure OffsetStore.Faithful (store : OffsetStore W) (s : Station W) : Prop where
  restore_rests : ∀ w, s.intact w → s.Rests w (store.restore.run w).2
  restore : ∀ w o, s.intact w → (store.restore.run w).1 = .ok o → o = s.record w
  isProcessed_rests : ∀ height w, s.intact w → s.Rests w ((store.isProcessed height).run w).2
  isProcessed : ∀ height w b, s.intact w → ((store.isProcessed height).run w).1 = .ok b →
    b = decide (height ≤ (s.record w).height)
  record_grows : ∀ o w, s.intact w → (s.ledger w).Grows (s.ledger ((store.record o).run w).2)
  record_intact : ∀ o w, s.intact w → s.intact ((store.record o).run w).2
  record_ok : ∀ o w, s.intact w → ((store.record o).run w).1 = .ok () →
    s.record ((store.record o).run w).2 = o
  record_error : ∀ o w e, s.intact w → ((store.record o).run w).1 = .error e →
    s.record ((store.record o).run w).2 = s.record w

/-- A database that is a part of the world beside the ledger keeps the record of a station. -/
lemma OffsetStore.ofDatabase_faithful (database : Part W Database) (writable : Bool)
    {ledger : W → Ledger} (beside : ∀ db w, ledger (database.set db w) = ledger w) :
    (OffsetStore.ofDatabase database writable).Faithful
      ⟨ledger, fun w => (database.get w).offset, fun w => (database.get w).Intact⟩ where
  restore_rests w intact := by
    obtain ⟨kept, same, -⟩ := Database.Intact.restore intact writable
    constructor
    case grows =>
      show (ledger w).Grows (ledger (database.set _ w))
      rw [beside]
      exact .refl
    case record =>
      show (database.get (database.set _ w)).offset = (database.get w).offset
      rw [database.get_set]
      exact same
    case intact =>
      show _ → (database.get (database.set _ w)).Intact
      rw [database.get_set]
      exact fun _ => kept
  restore w o intact h := (Database.Intact.restore intact writable).2.2 o h
  isProcessed_rests height w _ := .refl w
  isProcessed height w b intact h := intact.isProcessed h
  record_grows o w _ := by
    show (ledger w).Grows (ledger (database.set _ w))
    rw [beside]
    exact .refl
  record_intact o w intact := by
    show (database.get (database.set _ w)).Intact
    rw [database.get_set]
    exact Database.Intact.write intact writable o
  record_ok o w _ h := by
    show (database.get (database.set _ w)).offset = o
    rw [database.get_set]
    exact Database.write_ok h
  record_error o w e _ h := by
    show (database.get (database.set _ w)).offset = (database.get w).offset
    rw [database.get_set]
    exact congrArg Database.offset (Database.write_error h)

/-- A poller works at a station: who is handed a block, and the counters, leave its record alone. -/
structure Poller.Faithful (p : Poller W) (s : Station W) : Prop where
  ledger : p.ledger.Faithful s
  offsets : p.offsets.Faithful s
  notify : ∀ b w, s.Rests w ((p.notify b).run w).2
  metrics : ∀ m w, s.Rests w (p.metrics.set m w)

lemma Poller.Faithful.modify {p : Poller W} {s : Station W} (h : p.Faithful s)
    (f : Metrics → Metrics) (w : W) : s.Rests w (p.metrics.modify f w) :=
  h.metrics _ w

end LedgerWatch
