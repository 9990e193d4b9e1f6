import LedgerWatch.Polling.Poller
import LedgerWatch.Proofs.Registry.Tallying

/-!
# Blocks and counters

A poller that also reports what it asks, hands on and writes, with the answers that it gets, is the
poller itself (`poll_eq`, `create_eq`). Its reports account for what it counts: each block that was
handed on is counted once and its offset is written once, a block that is passed over is counted
once, and the height shown is that of the last offset that was recorded. This holds after any number
of calls of any pollers, wherever the ledger, the watchers or the store fail.
-/

namespace LedgerWatch

open Relation (ReflTransGen)
open Program (Within bind_eq_bind)

/-- What a poller did, and the answer that it got. -/
inductive Report where
  /-- It asked for the blocks after a mark. -/
  | asked (mark : BlockId) (answer : Except LedgerError (List Block))
  /-- It asked the store whether a height was processed. -/
  | checked (height : Nat) (answer : Except StorageError Bool)
  /-- It handed a block on. -/
  | handed (block : Block) (answer : Except RegistryError Tally)
  /-- It wrote an offset to the store. -/
  | written (offset : Offset) (answer : Except StorageError Unit)

namespace Report

/-- What is counted. -/
def counters : Report → List Counter
  | checked _ (.ok true) => [.blockSkipped]
  | handed _ (.ok _) => [.blockNotified]
  | handed _ (.error _) => [.blockRefused]
  | _ => []

/-- The height of an offset that was recorded. -/
def recorded? : Report → Option Nat
  | written o (.ok ()) => some o.height
  | _ => none

def isHanded : Report → Bool
  | handed _ _ => true
  | _ => false

def isWritten : Report → Bool
  | written _ _ => true
  | _ => false

/-- The last thing that was done is a write that the store refused. -/
def endInRefusal (reports : List Report) : Bool :=
  match reports.getLast? with
  | some (written _ (.error _)) => true
  | _ => false

end Report

/-- The counters of what becomes of blocks. -/
def Counter.blocks : List Counter :=
  [.blockNotified, .blockRefused, .blockSkipped]

namespace Report

/-- Blocks that are handed on are counted as notified or as refused. -/
lemma count_handed (reports : List Report) :
    (reports.flatMap counters).count .blockNotified
        + (reports.flatMap counters).count .blockRefused
      = reports.countP isHanded := by
  induction reports with
  | nil => rfl
  | cons report rest ih =>
    rw [List.flatMap_cons, List.count_append, List.count_append, List.countP_cons, ← ih]
    have one : report.counters.count .blockNotified + report.counters.count .blockRefused
        = if report.isHanded = true then 1 else 0 := by
      cases report with
      | asked mark answer => rfl
      | checked height answer => rcases answer with e | _ | _ <;> rfl
      | handed block answer => cases answer <;> rfl
      | written offset answer => cases answer <;> rfl
    omega

/-- Nothing else is counted than what becomes of blocks. -/
lemma length_counters (reports : List Report) :
    (reports.flatMap counters).count .blockSkipped
        + (reports.flatMap counters).count .blockNotified
        + (reports.flatMap counters).count .blockRefused
      = (reports.flatMap counters).length := by
  induction reports with
  | nil => rfl
  | cons report rest ih =>
    rw [List.flatMap_cons, List.count_append, List.count_append, List.count_append,
      List.length_append, ← ih]
    have one : report.counters.count .blockSkipped + report.counters.count .blockNotified
        + report.counters.count .blockRefused = report.counters.length := by
      cases report with
      | asked mark answer => rfl
      | checked height answer => rcases answer with e | _ | _ <;> rfl
      | handed block answer => cases answer <;> rfl
      | written offset answer => cases answer <;> rfl
    omega

end Report

variable {W : Type}

/-- The reports of pollers account for what was counted of blocks and for the height shown. -/
def Part.books (metrics : Part W Metrics) : Account W Report where
  holds w reports v :=
    Metrics.Counts Counter.blocks (metrics.get w) (reports.flatMap Report.counters)
        (metrics.get v) ∧
      (metrics.get v).offsetHeight
        = (reports.filterMap Report.recorded?).getLast?.or (metrics.get w).offsetHeight
  refl w := ⟨.refl _, rfl⟩
  trans first second := by
    refine ⟨?_, ?_⟩
    · rw [List.flatMap_append]
      exact first.1.trans second.1
    · rw [second.2, first.2, List.filterMap_append, List.getLast?_append, Option.or_assoc]

namespace Poller

/-! ### Pollers that report -/

/-- Asks whether a height was processed, and counts a block that is passed over. -/
def check (p : Poller W) (height : Nat) : Program W (Except StorageError Bool) := do
  match ← p.offsets.isProcessed height with
  | .error e => return .error e
  | .ok true =>
    p.count .blockSkipped
    return .ok true
  | .ok false => return .ok false

/-- Hands a block on, and counts it. -/
def hand (p : Poller W) (b : Block) : Program W (Except RegistryError Tally) := do
  match ← p.notify b with
  | .ok tally =>
    p.count .blockNotified
    return .ok tally
  | .error e =>
    p.count .blockRefused
    return .error e

/-- Writes an offset, and shows its height when it was recorded. -/
def write (p : Poller W) (o : Offset) : Program W (Except StorageError Unit) := do
  match ← p.offsets.record o with
  | .error e => return .error e
  | .ok () =>
    Program.modify p.metrics (Metrics.recordOffset o.height)
    return .ok ()

/-- Processes a block, and reports what it did. -/
def recountBlock (p : Poller W) (b : Block) :
    Program W (List Report × Except StorageError Unit) := do
  match ← p.check b.height with
  | .error e => return ([.checked b.height (.error e)], .error e)
  | .ok true => return ([.checked b.height (.ok true)], .ok ())
  | .ok false =>
    let told ← p.hand b
    let written ← p.write ⟨b.id, b.height⟩
    return ([.checked b.height (.ok false), .handed b told, .written ⟨b.id, b.height⟩ written],
      written)

/-- Processes blocks one after another, and reports what it did. -/
def recountBlocks (p : Poller W) (mark : BlockId) :
    List Block → Program W (List Report × Except StorageError Unit × BlockId)
  | [] => return ([], .ok (), mark)
  | b :: rest => do
    match ← p.recountBlock b with
    | (reports, .error e) => return (reports, .error e, mark)
    | (reports, .ok ()) =>
      let (more, result) ← recountBlocks p b.id rest
      return (reports ++ more, result)

/-- Makes a poller, and reports what it did. -/
def recountCreate (p : Poller W) : Program W (List Report × Except PollerError BlockId) := do
  match ← p.offsets.restore with
  | .error e => return ([], .error (.storage e))
  | .ok offset =>
    if offset.block.isZero then return ([], .ok .root)
    else
      match ← p.ledger.block? offset.block with
      | .error e => return ([], .error (.ledger e))
      | .ok none => return ([], .error (.ledger (.blockNotFound offset.block)))
      | .ok (some b) =>
        match ← p.recountBlock b with
        | (reports, .error e) => return (reports, .error (.storage e))
        | (reports, .ok ()) => return (reports, .ok b.id)

/-- Processes every block after the mark, and reports what it did. -/
def recountPoll (p : Poller W) (mark : BlockId) :
    Program W (List Report × Except PollerError Nat × BlockId) := do
  match ← p.ledger.blocksAfter mark with
  | .error e => return ([.asked mark (.error e)], .error (.ledger e), mark)
  | .ok blocks =>
    match ← p.recountBlocks mark blocks with
    | (reports, .error e, reached) =>
      return (.asked mark (.ok blocks) :: reports, .error (.storage e), reached)
    | (reports, .ok (), reached) =>
      return (.asked mark (.ok blocks) :: reports, .ok blocks.length, reached)

lemma announce_eq (p : Poller W) (b : Block) :
    p.announce b = (p.hand b).bind fun _ => .done () := by
  refine bind_eq_bind fun told => ?_
  cases told with
  | ok tally => rfl
  | error e => rfl

lemma processBlock_eq (p : Poller W) (b : Block) :
    p.processBlock b = (p.recountBlock b).bind fun r => .done r.2 := by
  have announced := announce_eq p b
  simp only [processBlock, recountBlock, check, write, announced, Program.bind_eq,
    Program.pure_eq, Program.bind_assoc]
  refine congrArg _ (funext fun checked => ?_)
  rcases checked with e | _ | _
  · rfl
  · simp only [Program.bind_assoc, Program.bind]
    refine congrArg _ (funext fun told => ?_)
    refine congrArg _ (funext fun written => ?_)
    cases written with
    | error e => rfl
    | ok _ => rfl
  · rfl

lemma processBlocks_eq (p : Poller W) (mark : BlockId) (blocks : List Block) :
    p.processBlocks mark blocks = (p.recountBlocks mark blocks).bind fun r => .done r.2 := by
  induction blocks generalizing mark with
  | nil => rfl
  | cons b rest ih =>
    rw [processBlocks, recountBlocks, processBlock_eq]
    simp only [Program.bind_eq, Program.pure_eq, Program.bind_assoc, Program.bind]
    refine congrArg _ (funext fun result => ?_)
    obtain ⟨reports, e | ⟨⟩⟩ := result
    · rfl
    · dsimp only
      rw [ih, Program.bind_assoc]
      rfl

lemma create_eq (p : Poller W) : p.create = p.recountCreate.bind fun r => .done r.2 := by
  refine bind_eq_bind fun answer => ?_
  cases answer with
  | error e => rfl
  | ok offset =>
    dsimp only
    split
    case isTrue => rfl
    case isFalse =>
      refine bind_eq_bind fun found => ?_
      rcases found with e | _ | b
      · rfl
      · rfl
      · dsimp only
        rw [processBlock_eq]
        simp only [Program.bind_eq, Program.pure_eq, Program.bind_assoc, Program.bind]
        refine congrArg _ (funext fun result => ?_)
        obtain ⟨reports, e | _⟩ := result
        · rfl
        · rfl

/-- A poll is the same whether it is reported or not. -/
lemma poll_eq (p : Poller W) (mark : BlockId) :
    p.poll mark = (p.recountPoll mark).bind fun r => .done r.2 := by
  refine bind_eq_bind fun answer => ?_
  cases answer with
  | error e => rfl
  | ok blocks =>
    dsimp only
    rw [processBlocks_eq]
    simp only [Program.bind_eq, Program.pure_eq, Program.bind_assoc, Program.bind]
    refine congrArg _ (funext fun result => ?_)
    obtain ⟨reports, e | _, reached⟩ := result
    · rfl
    · rfl

/-- Whoever makes a poller gets reports. -/
lemma create_reported {p : Poller W} {E : W → W → Prop} {w v : W}
    {answer : Except PollerError BlockId} (ends : p.create.Ends E w answer v) :
    ∃ reports, p.recountCreate.Ends E w (reports, answer) v := by
  rw [create_eq] at ends
  obtain ⟨⟨reports, _⟩, reported, rfl⟩ := ends.of_map
  exact ⟨reports, reported⟩

/-- Whoever polls gets reports. -/
lemma poll_reported {p : Poller W} {mark : BlockId} {E : W → W → Prop} {w v : W}
    {result : Except PollerError Nat × BlockId} (ends : (p.poll mark).Ends E w result v) :
    ∃ reports, (p.recountPoll mark).Ends E w (reports, result) v := by
  rw [poll_eq] at ends
  obtain ⟨⟨reports, _⟩, reported, rfl⟩ := ends.of_map
  exact ⟨reports, reported⟩

/-! ### What the reports account for -/

section

variable {p : Poller W} {E : W → W → Prop} {w : W}

/-- What a poller asks, hands on and writes needs no report by itself. -/
structure Quiet (p : Poller W) (R : W → W → Prop) : Prop where
  blocksAfter : ∀ id, (p.ledger.blocksAfter id).Within R
  block? : ∀ id, (p.ledger.block? id).Within R
  restore : p.offsets.restore.Within R
  isProcessed : ∀ height, (p.offsets.isProcessed height).Within R
  record : ∀ o, (p.offsets.record o).Within R
  notify : ∀ b, (p.notify b).Within R

/-- What becomes of a block, as it is reported. -/
inductive Processed (b : Block) : List Report → Except StorageError Unit → Prop where
  | unchecked (e : StorageError) :
    Processed b [.checked b.height (.error e)] (.error e)
  | skipped :
    Processed b [.checked b.height (.ok true)] (.ok ())
  | handed (told : Except RegistryError Tally) (written : Except StorageError Unit) :
    Processed b [.checked b.height (.ok false), .handed b told,
      .written ⟨b.id, b.height⟩ written] written

/-- What becomes of blocks, as it is reported, and which of them the mark moved past. -/
inductive Advanced : BlockId → List Block → List Report → List Block →
    Except StorageError Unit → BlockId → Prop where
  | nil (mark : BlockId) :
    Advanced mark [] [] [] (.ok ()) mark
  | stuck {mark : BlockId} {b : Block} {rest : List Block} {reports : List Report}
      {e : StorageError} :
    Processed b reports (.error e) →
    Advanced mark (b :: rest) reports [] (.error e) mark
  | cons {mark reached : BlockId} {b : Block} {rest passed : List Block}
      {reports more : List Report} {answer : Except StorageError Unit} :
    Processed b reports (.ok ()) →
    Advanced b.id rest more passed answer reached →
    Advanced mark (b :: rest) (reports ++ more) (b :: passed) answer reached

/-- What a poll comes to, as it is reported, and which blocks the mark moved past. -/
inductive Polled (mark : BlockId) : List Report → List Block → Except PollerError Nat →
    BlockId → Prop where
  | unanswered (e : LedgerError) :
    Polled mark [.asked mark (.error e)] [] (.error (.ledger e)) mark
  | stuck {blocks passed : List Block} {reports : List Report} {e : StorageError}
      {reached : BlockId} :
    Advanced mark blocks reports passed (.error e) reached →
    Polled mark (.asked mark (.ok blocks) :: reports) passed (.error (.storage e)) reached
  | all {blocks passed : List Block} {reports : List Report} {reached : BlockId} :
    Advanced mark blocks reports passed (.ok ()) reached →
    Polled mark (.asked mark (.ok blocks) :: reports) passed (.ok blocks.length) reached

variable (quiet : p.Quiet p.metrics.books.Idle) (others : ∀ w v, E w v → p.metrics.books.Idle w v)

include others

/-- Counting what is reported. -/
lemma count_ensures {α : Type} {u : W} {a : α} {Q : α → W → Prop} {c : Counter}
    (report : Report) (one : report.counters = [c]) (none : report.recorded? = none)
    (idle : p.metrics.books.Idle w u)
    (ends : ∀ v, p.metrics.books.holds w [report] v → Q a v) :
    ((p.count c).bind fun _ => .done a).Ensures E u Q := by
  have counted (v : W) :
      p.metrics.books.holds v [report] (p.metrics.modify (Metrics.increment c) v) := by
    refine ⟨?_, ?_⟩
    · rw [List.flatMap_singleton, one, p.metrics.get_modify]
      exact .increment _ _ c
    · rw [p.metrics.get_modify, List.filterMap_cons_none none]
      rfl
  exact Account.ensures_last others counted idle ends

include quiet

/-- What the store says of a height is counted as it is reported. -/
lemma check_ensures (height : Nat) :
    (p.check height).Ensures E w fun answer v =>
      p.metrics.books.holds w [.checked height answer] v := by
  refine .bind ((Account.ensures_idle others (quiet.isProcessed height)).mono
    fun answer u idle => ?_)
  rcases answer with e | _ | _
  · exact Account.ensures_done others idle fun _ h => h
  · exact Account.ensures_done others idle fun _ h => h
  · exact count_ensures others (.checked height (.ok true)) rfl rfl idle fun _ h => h

/-- What becomes of a block that is handed on is counted as it is reported. -/
lemma hand_ensures (b : Block) :
    (p.hand b).Ensures E w fun answer v => p.metrics.books.holds w [.handed b answer] v := by
  refine .bind ((Account.ensures_idle others (quiet.notify b)).mono fun answer u idle => ?_)
  cases answer with
  | error e => exact count_ensures others (.handed b (.error e)) rfl rfl idle fun _ h => h
  | ok tally => exact count_ensures others (.handed b (.ok tally)) rfl rfl idle fun _ h => h

/-- What becomes of an offset that is written is counted as it is reported. -/
lemma write_ensures (o : Offset) :
    (p.write o).Ensures E w fun answer v => p.metrics.books.holds w [.written o answer] v := by
  refine .bind ((Account.ensures_idle others (quiet.record o)).mono fun answer u idle => ?_)
  cases answer with
  | error e => exact Account.ensures_done others idle fun _ h => h
  | ok _ =>
    have shown (v : W) : p.metrics.books.holds v [.written o (.ok ())]
        (p.metrics.modify (Metrics.recordOffset o.height) v) := by
      refine ⟨?_, ?_⟩
      · rw [p.metrics.get_modify]
        exact .refl _
      · rw [p.metrics.get_modify]
        rfl
    exact Account.ensures_last others shown idle fun _ h => h

/-- The reports of a block are as they should be, and account for what was counted. -/
lemma recountBlock_ensures (b : Block) :
    (p.recountBlock b).Ensures E w fun r v =>
      Processed b r.1 r.2 ∧ p.metrics.books.holds w r.1 v := by
  refine .bind ((check_ensures quiet others b.height).mono fun answer u checked => ?_)
  rcases answer with e | _ | _
  · exact Account.ensures_done others checked fun _ h => ⟨.unchecked e, h⟩
  · refine .bind ((hand_ensures quiet others b).mono fun told v handed => ?_)
    refine .bind ((write_ensures quiet others _).mono fun written v h => ?_)
    have both := p.metrics.books.trans (p.metrics.books.trans checked handed) h
    exact Account.ensures_done others both fun _ h => ⟨.handed told written, h⟩
  · exact Account.ensures_done others checked fun _ h => ⟨.skipped, h⟩

/-- What becomes of blocks is counted as it is reported, and says how far the mark moved. -/
lemma recountBlocks_ensures (mark : BlockId) (blocks : List Block) :
    (p.recountBlocks mark blocks).Ensures E w fun r v =>
      (∃ passed, Advanced mark blocks r.1 passed r.2.1 r.2.2) ∧
        p.metrics.books.holds w r.1 v := by
  induction blocks generalizing mark w with
  | nil =>
    exact Account.ensures_done others (p.metrics.books.refl w) fun _ h => ⟨⟨[], .nil mark⟩, h⟩
  | cons b rest ih =>
    refine .bind ((recountBlock_ensures quiet others b).mono fun r u first => ?_)
    obtain ⟨processed, first⟩ := first
    obtain ⟨reports, e | ⟨⟩⟩ := r
    · exact Account.ensures_done others first fun _ h => ⟨⟨[], .stuck processed⟩, h⟩
    · refine .bind ((ih b.id).mono fun r v second => ?_)
      obtain ⟨⟨passed, advanced⟩, second⟩ := second
      exact Account.ensures_done others (p.metrics.books.trans first second) fun _ h =>
        ⟨⟨b :: passed, .cons processed advanced⟩, h⟩

/-- What is done while a poller is made is counted as it is reported. -/
lemma recountCreate_ensures :
    p.recountCreate.Ensures E w fun r v =>
      (r.1 = [] ∨ ∃ b answer, Processed b r.1 answer) ∧ p.metrics.books.holds w r.1 v := by
  refine .bind ((Account.ensures_idle others quiet.restore).mono fun answer u idle => ?_)
  cases answer with
  | error e => exact Account.ensures_done others idle fun _ h => ⟨.inl rfl, h⟩
  | ok offset =>
    dsimp only
    split
    case isTrue => exact Account.ensures_done others idle fun _ h => ⟨.inl rfl, h⟩
    case isFalse =>
      refine .bind ((Account.ensures_idle others (quiet.block? _)).mono fun found v idle' => ?_)
      replace idle := p.metrics.books.then_idle idle idle'
      rcases found with e | _ | b
      · exact Account.ensures_done others idle fun _ h => ⟨.inl rfl, h⟩
      · exact Account.ensures_done others idle fun _ h => ⟨.inl rfl, h⟩
      · refine .bind ((recountBlock_ensures quiet others b).mono fun r x h => ?_)
        obtain ⟨processed, h⟩ := h
        replace h := p.metrics.books.idle_then idle h
        obtain ⟨reports, e | ⟨⟩⟩ := r
        · exact Account.ensures_done others h fun _ h => ⟨.inr ⟨b, _, processed⟩, h⟩
        · exact Account.ensures_done others h fun _ h => ⟨.inr ⟨b, _, processed⟩, h⟩

/-- What a poll does is counted as it is reported, and says how far the mark moved. -/
lemma recountPoll_ensures (mark : BlockId) :
    (p.recountPoll mark).Ensures E w fun r v =>
      (∃ passed, Polled mark r.1 passed r.2.1 r.2.2) ∧ p.metrics.books.holds w r.1 v := by
  refine .bind ((Account.ensures_idle others (quiet.blocksAfter mark)).mono
    fun answer u idle => ?_)
  cases answer with
  | error e => exact Account.ensures_done others idle fun _ h => ⟨⟨[], .unanswered e⟩, h⟩
  | ok blocks =>
    have asked : p.metrics.books.holds w [.asked mark (.ok blocks)] u := idle
    refine .bind ((recountBlocks_ensures quiet others mark blocks).mono fun r v h => ?_)
    obtain ⟨⟨passed, advanced⟩, h⟩ := h
    replace h := p.metrics.books.trans asked h
    obtain ⟨reports, e | ⟨⟩, reached⟩ := r
    · exact Account.ensures_done others h fun _ h => ⟨⟨passed, .stuck advanced⟩, h⟩
    · exact Account.ensures_done others h fun _ h => ⟨⟨passed, .all advanced⟩, h⟩

end

end Poller

end LedgerWatch
