import LedgerWatch.Proofs.Container.Starting
import LedgerWatch.Proofs.Polling.Reckoning

/-!
# The counters reconcile

Pollers hand their blocks to a site and count where it counts. Nobody else counts blocks or shows a
height, and whatever fails, and whatever others do before, during and after the calls of the
pollers, the counters agree with what the pollers and the site report: `counters_reconcile`.
-/

namespace LedgerWatch

open Relation (ReflTransGen)
open Program (Within)

namespace Report

variable {reports more : List Report}

/-- The failure that ends a call. -/
def fault? : Report → Option PollerError
  | asked _ (.error e) => some (.ledger e)
  | checked _ (.error e) => some (.storage e)
  | written _ (.error e) => some (.storage e)
  | _ => none

/-- After a call that ended well the next one says how the reports end. -/
lemma endInRefusal_append (h : endInRefusal reports = false) (more : List Report) :
    endInRefusal (reports ++ more) = endInRefusal more := by
  unfold endInRefusal at h ⊢
  rw [List.getLast?_append]
  cases last : more.getLast? with
  | none =>
    rw [Option.none_or]
    exact h
  | some report => rfl

/-- After a call without failure the next one says which failure ends the reports. -/
lemma fault?_append (h : (reports.getLast?).bind fault? = none) (more : List Report) :
    ((reports ++ more).getLast?).bind fault? = (more.getLast?).bind fault? := by
  rw [List.getLast?_append]
  cases last : more.getLast? with
  | none =>
    rw [Option.none_or]
    exact h
  | some report => rfl

/-- A question that was answered is no failure. -/
lemma asked_cons (mark : BlockId) (blocks : List Block) (rest : List Report) :
    endInRefusal (.asked mark (.ok blocks) :: rest) = endInRefusal rest ∧
      ((asked mark (.ok blocks) :: rest).getLast?).bind fault? = (rest.getLast?).bind fault? := by
  have refused : endInRefusal [.asked mark (.ok blocks)] = false := rfl
  have failed : ([asked mark (.ok blocks)].getLast?).bind fault? = none := rfl
  exact ⟨endInRefusal_append refused rest, fault?_append failed rest⟩

end Report

namespace Poller

variable {W : Type} {b : Block} {mark reached : BlockId} {blocks passed : List Block}
  {reports : List Report} {e : StorageError}

/-! ### What reports come to -/

namespace Processed

/-- A block that is processed is written just if it was handed on. -/
lemma balanced {answer : Except StorageError Unit} (h : Processed b reports answer) :
    reports.countP Report.isHanded = reports.countP Report.isWritten := by
  cases h <;> rfl

/-- A block that the mark moves past is counted once. -/
lemma ok (h : Processed b reports (.ok ())) :
    (reports.flatMap Report.counters).length = 1 ∧ Report.endInRefusal reports = false ∧
      (reports.getLast?).bind Report.fault? = none := by
  cases h with
  | skipped => exact ⟨rfl, rfl, rfl⟩
  | handed told _ => cases told <;> exact ⟨rfl, rfl, rfl⟩

/-- A block at which a poller stops is counted if its offset is refused. -/
lemma error (h : Processed b reports (.error e)) :
    (reports.flatMap Report.counters).length = (Report.endInRefusal reports).toNat ∧
      (reports.getLast?).bind Report.fault? = some (.storage e) := by
  cases h with
  | unchecked _ => exact ⟨rfl, rfl⟩
  | handed told _ => cases told <;> exact ⟨rfl, rfl⟩

end Processed

namespace Advanced

variable {answer : Except StorageError Unit}

/-- Blocks on the way are written just as often as they are handed on. -/
lemma balanced (h : Advanced mark blocks reports passed answer reached) :
    reports.countP Report.isHanded = reports.countP Report.isWritten := by
  induction h with
  | nil => rfl
  | stuck processed => exact processed.balanced
  | cons processed _ ih => rw [List.countP_append, List.countP_append, processed.balanced, ih]

/-- The blocks that the mark passed stand in front, in their order. -/
lemma isPrefix (h : Advanced mark blocks reports passed answer reached) : passed <+: blocks := by
  induction h with
  | nil => exact List.nil_prefix
  | stuck _ => exact List.nil_prefix
  | cons _ _ ih => exact (List.prefix_cons_inj _).2 ih

/-- The mark is at the last block that it passed. -/
lemma reached_eq (h : Advanced mark blocks reports passed answer reached) :
    reached = (passed.getLast?.map Block.id).getD mark := by
  induction h with
  | nil => rfl
  | stuck _ => rfl
  | @cons _ _ b _ passed _ _ _ _ _ ih =>
    rw [ih, List.getLast?_cons]
    cases passed.getLast? with
    | none => rfl
    | some last => rfl

/-- Every block that the mark moves past is counted once, and one more if its offset is refused. -/
lemma counted (h : Advanced mark blocks reports passed answer reached) :
    (reports.flatMap Report.counters).length
      = passed.length + (Report.endInRefusal reports).toNat := by
  induction h with
  | nil => rfl
  | stuck processed => rw [processed.error.1, List.length_nil, Nat.zero_add]
  | cons processed _ ih =>
    obtain ⟨one, accepted, -⟩ := processed.ok
    rw [List.flatMap_append, List.length_append, one, ih, Report.endInRefusal_append accepted,
      List.length_cons]
    omega

/-- A way that comes through has passed every block. -/
lemma ok (h : Advanced mark blocks reports passed (.ok ()) reached) :
    passed = blocks ∧ Report.endInRefusal reports = false := by
  generalize same : (Except.ok () : Except StorageError Unit) = answer at h
  induction h with
  | nil => exact ⟨rfl, rfl⟩
  | stuck _ => cases same
  | cons processed _ ih =>
    obtain ⟨all, accepted⟩ := ih same
    rw [all, Report.endInRefusal_append processed.ok.2.1]
    exact ⟨rfl, accepted⟩

/-- A way that fails has the store's failure as its last report. -/
lemma error (h : Advanced mark blocks reports passed (.error e) reached) :
    (reports.getLast?).bind Report.fault? = some (.storage e) := by
  generalize same : (Except.error e : Except StorageError Unit) = answer at h
  induction h with
  | nil => cases same
  | stuck processed =>
    cases same
    exact processed.error.2
  | cons processed _ ih =>
    rw [Report.fault?_append processed.ok.2.2]
    exact ih same

end Advanced

namespace Polled

variable {answer : Except PollerError Nat}

/-- A poll writes just as many blocks as it hands on. -/
lemma balanced (h : Polled mark reports passed answer reached) :
    reports.countP Report.isHanded = reports.countP Report.isWritten := by
  cases h with
  | unanswered e => rfl
  | stuck h => exact h.balanced
  | all h => exact h.balanced

/-- A poll begins with the question for the blocks, and the mark moves past the first of them. -/
lemma asked (h : Polled mark reports passed answer reached) :
    ∃ found, reports.head? = some (.asked mark found) ∧ passed <+: found.toOption.getD [] := by
  cases h with
  | unanswered e => exact ⟨_, rfl, List.nil_prefix⟩
  | stuck h => exact ⟨_, rfl, h.isPrefix⟩
  | all h => exact ⟨_, rfl, h.isPrefix⟩

/-- A poll leaves the mark at the last block that it passed. -/
lemma reached_eq (h : Polled mark reports passed answer reached) :
    reached = (passed.getLast?.map Block.id).getD mark := by
  cases h with
  | unanswered e => rfl
  | stuck h => exact h.reached_eq
  | all h => exact h.reached_eq

/-- A poll counts the blocks that it passed, and one more for a refused write. -/
lemma counted (h : Polled mark reports passed answer reached) :
    (reports.flatMap Report.counters).length
      = passed.length + (Report.endInRefusal reports).toNat := by
  cases h with
  | unanswered e => rfl
  | stuck h =>
    rw [(Report.asked_cons _ _ _).1]
    exact h.counted
  | all h =>
    rw [(Report.asked_cons _ _ _).1]
    exact h.counted

/-- A poll that succeeds has moved the mark past all blocks. -/
lemma ok {n : Nat} (h : Polled mark reports passed (.ok n) reached) :
    n = passed.length ∧ Report.endInRefusal reports = false := by
  cases h with
  | all h =>
    obtain ⟨rfl, accepted⟩ := h.ok
    exact ⟨rfl, (Report.asked_cons _ _ _).1.trans accepted⟩

/-- A poll fails with the failure of the last thing that was done. -/
lemma error {e : PollerError} (h : Polled mark reports passed (.error e) reached) :
    (reports.getLast?).bind Report.fault? = some e := by
  cases h with
  | unanswered e => rfl
  | stuck h => exact (Report.asked_cons _ _ _).2.trans h.error

end Polled

/-! ### Runs of pollers -/

section

variable {E : W → W → Prop} {crowd : Poller W → Prop} {metrics : Part W Metrics} {w v : W}

/-- Pollers are made and poll, one call after another; others act before, meanwhile and after. -/
def Polling (E : W → W → Prop) (crowd : Poller W → Prop) : W → W → Prop :=
  ReflTransGen fun w v => E w v ∨ ∃ p, crowd p ∧
    ((∃ answer, p.create.Ends E w answer v) ∨ ∃ mark result, (p.poll mark).Ends E w result v)

/-- Pollers are made and poll, and report what they do. -/
inductive Reported (E : W → W → Prop) (crowd : Poller W → Prop) (w : W) :
    List Report → W → Prop where
  | start :
    Reported E crowd w [] w
  | others {reports : List Report} {u v : W} :
    Reported E crowd w reports u →
    E u v →
    Reported E crowd w reports v
  | created {reports more : List Report} {u v : W} {p : Poller W}
      {answer : Except PollerError BlockId} :
    Reported E crowd w reports u →
    crowd p →
    p.recountCreate.Ends E u (more, answer) v →
    Reported E crowd w (reports ++ more) v
  | polled {reports more : List Report} {u v : W} {p : Poller W} {mark : BlockId}
      {result : Except PollerError Nat × BlockId} :
    Reported E crowd w reports u →
    crowd p →
    (p.recountPoll mark).Ends E u (more, result) v →
    Reported E crowd w (reports ++ more) v

/-- Every run is one that is reported. -/
lemma Polling.reported (h : Polling E crowd w v) : ∃ reports, Reported E crowd w reports v := by
  induction h with
  | refl => exact ⟨[], .start⟩
  | tail _ step ih =>
    obtain ⟨reports, run⟩ := ih
    rcases step with other | ⟨p, hp, ⟨answer, ends⟩ | ⟨mark, result, ends⟩⟩
    · exact ⟨reports, run.others other⟩
    · obtain ⟨more, ends⟩ := create_reported ends
      exact ⟨_, run.created hp ends⟩
    · obtain ⟨more, ends⟩ := poll_reported ends
      exact ⟨_, run.polled hp ends⟩

/-- What is reported of a run accounts for what was counted, and every block is written once. -/
lemma Reported.spec {reports : List Report} (h : Reported E crowd w reports v)
    (same : ∀ p, crowd p → p.metrics = metrics)
    (quiet : ∀ p, crowd p → p.Quiet metrics.books.Idle)
    (others : ∀ w v, E w v → metrics.books.Idle w v) :
    reports.countP Report.isHanded = reports.countP Report.isWritten ∧
      metrics.books.holds w reports v := by
  induction h with
  | start => exact ⟨rfl, metrics.books.refl w⟩
  | others _ other ih => exact ⟨ih.1, metrics.books.then_idle ih.2 (others _ _ other)⟩
  | @created reports more u v p answer _ hp ends ih =>
    have hq := quiet p hp
    obtain rfl := same p hp
    obtain ⟨one, holds⟩ := recountCreate_ensures hq others _ _ ends
    have balanced : more.countP Report.isHanded = more.countP Report.isWritten := by
      rcases one with none | ⟨b, answer, processed⟩
      · rw [show more = [] from none]
        rfl
      · exact processed.balanced
    refine ⟨?_, p.metrics.books.trans ih.2 holds⟩
    rw [List.countP_append, List.countP_append, ih.1, balanced]
  | @polled reports more u v p mark result _ hp ends ih =>
    have hq := quiet p hp
    obtain rfl := same p hp
    obtain ⟨⟨passed, polled⟩, holds⟩ := recountPoll_ensures hq others mark _ _ ends
    refine ⟨?_, p.metrics.books.trans ih.2 holds⟩
    rw [List.countP_append, List.countP_append, ih.1, polled.balanced]

end

end Poller

/-! ### Pollers over a site -/

section

variable {W σ : Type} [Inhabited σ] {s : Site W σ} {E : W → W → Prop} {w v : W}

namespace Site

/-- No block is counted, and the height shown stays. -/
def KeepsBlocks (s : Site W σ) (w v : W) : Prop :=
  Metrics.Counts Counter.blocks (s.metrics.get w) [] (s.metrics.get v) ∧
    (s.metrics.get v).offsetHeight = (s.metrics.get w).offsetHeight

/-- Nothing is counted of what registrations come to. -/
def KeepsTellings (s : Site W σ) (w v : W) : Prop :=
  Metrics.Counts Counter.tellings (s.metrics.get w) [] (s.metrics.get v)

/-- A site that tells its watchers counts no blocks, if they count none. -/
lemma notify_within (hs : s.Heeds s.KeepsBlocks) (b : Block) :
    (s.notify b).Within s.KeepsBlocks := by
  refine hs.tell (fun c mem => ?_) b
  have other : c ∉ Counter.blocks := by
    revert c
    decide
  intro w
  refine ⟨⟨?_, ?_⟩, trivial⟩
  · rw [s.metrics.get_modify]
    exact .other other _
  · rw [s.metrics.get_modify]
    rfl

end Site

/-- A poller hands its blocks to a site and counts where the site counts; nothing else that it uses
counts blocks. -/
structure Poller.Feeds (p : Poller W) (s : Site W σ) : Prop where
  notify : p.notify = s.notify
  metrics : p.metrics = s.metrics
  blocksAfter : ∀ id, (p.ledger.blocksAfter id).Within s.KeepsBlocks
  block? : ∀ id, (p.ledger.block? id).Within s.KeepsBlocks
  restore : p.offsets.restore.Within s.KeepsBlocks
  isProcessed : ∀ height, (p.offsets.isProcessed height).Within s.KeepsBlocks
  record : ∀ o, (p.offsets.record o).Within s.KeepsBlocks

/-- A poller that feeds a site counts no block but its own. -/
lemma Poller.Feeds.quiet {p : Poller W} (h : p.Feeds s) (hs : s.Heeds s.KeepsBlocks) :
    p.Quiet s.metrics.books.Idle where
  blocksAfter := h.blocksAfter
  block? := h.block?
  restore := h.restore
  isProcessed := h.isProcessed
  record := h.record
  notify b := by
    rw [h.notify]
    exact Site.notify_within hs b

namespace Site

/-- What became of blocks was counted as it is reported, and the height shown is that of the last
offset that was recorded. -/
structure Reconciled (s : Site W σ) (w : W) (reports : List Report) (v : W) : Prop where
  handed : (s.metrics.get v).count .blockNotified + (s.metrics.get v).count .blockRefused
    = (s.metrics.get w).count .blockNotified + (s.metrics.get w).count .blockRefused
      + reports.countP Report.isHanded
  written : reports.countP Report.isHanded = reports.countP Report.isWritten
  height : (s.metrics.get v).offsetHeight
    = (reports.filterMap Report.recorded?).getLast?.or (s.metrics.get w).offsetHeight

/-- A poll counted the blocks that its mark moved past, and one more just when it ended with a write
that was refused. -/
structure PollReconciled (s : Site W σ) (mark : BlockId) (w : W) (reports : List Report)
    (passed : List Block) (answer : Except PollerError Nat) (reached : BlockId) (v : W) : Prop where
  asked : ∃ found, reports.head? = some (.asked mark found) ∧ passed <+: found.toOption.getD []
  reached : reached = (passed.getLast?.map Block.id).getD mark
  counted : (s.metrics.get v).count .blockSkipped + (s.metrics.get v).count .blockNotified
      + (s.metrics.get v).count .blockRefused
    = (s.metrics.get w).count .blockSkipped + (s.metrics.get w).count .blockNotified
      + (s.metrics.get w).count .blockRefused
      + (passed.length + (Report.endInRefusal reports).toNat)
  ok : ∀ n, answer = .ok n → n = passed.length ∧ Report.endInRefusal reports = false
  error : ∀ e, answer = .error e → (reports.getLast?).bind Report.fault? = some e

/-- A tally says how many were told, and each of them was counted; criteria that could not be
evaluated were counted apart. -/
structure TallyReconciled (s : Site W σ) (w : W) (outcomes : List Offered) (tally : Tally)
    (v : W) : Prop where
  triggered : tally.triggered = tally.rearmed + tally.optedOut + tally.failed
  told : ∀ delivery, tally.number delivery = outcomes.count (.told delivery)
  counted : ∀ delivery : Delivery, (s.metrics.get v).count delivery.counter
    = (s.metrics.get w).count delivery.counter + tally.number delivery
  unevaluated : (s.metrics.get v).count .notEvaluated
    = (s.metrics.get w).count .notEvaluated + outcomes.countP Offered.isUnevaluated

/-- A notification counts what it tells. -/
lemma recount_reconciled {b : Block} {outcomes : List Offered} (hs : s.Heeds s.KeepsTellings)
    (others : ∀ w v, E w v → s.KeepsTellings w v)
    (ends : (s.recount b).Ends E w (.ok outcomes) v) :
    s.TallyReconciled w outcomes (.of outcomes) v := by
  have counted : s.tallies.holds w outcomes v :=
    recount_ensures hs others b _ _ ends outcomes rfl
  obtain ⟨number, triggered⟩ := Tally.of_spec outcomes
  refine ⟨triggered, number, fun delivery => ?_, ?_⟩
  · rw [counted _ delivery.counter_mem, Offered.count_counters, number]
  · rw [counted _ (by decide), Offered.count_notEvaluated]

end Site

namespace Poller

variable {crowd : Poller W → Prop}

/-- Whatever was reported was counted, and nothing else was. -/
lemma Reported.reconciled {reports : List Report} (h : Reported E crowd w reports v)
    (feeds : ∀ p, crowd p → p.Feeds s) (hs : s.Heeds s.KeepsBlocks)
    (others : ∀ w v, E w v → s.KeepsBlocks w v) : s.Reconciled w reports v := by
  obtain ⟨balanced, counted, height⟩ :=
    h.spec (fun p hp => (feeds p hp).metrics) (fun p hp => (feeds p hp).quiet hs) others
  refine ⟨?_, balanced, height⟩
  rw [counted _ (by decide), counted _ (by decide), ← Report.count_handed]
  omega

/-- A poll that reports counted what it reports. -/
lemma recountPoll_reconciled {p : Poller W} {mark reached : BlockId}
    {answer : Except PollerError Nat} {reports : List Report} (feeds : p.Feeds s)
    (hs : s.Heeds s.KeepsBlocks) (others : ∀ w v, E w v → s.KeepsBlocks w v)
    (ends : (p.recountPoll mark).Ends E w (reports, answer, reached) v) :
    ∃ passed, s.PollReconciled mark w reports passed answer reached v := by
  have quiet := feeds.quiet hs
  replace others : ∀ w v, E w v → s.metrics.books.Idle w v := others
  -- the reports are accounted for in the poller's own metrics, which are those of the site
  rw [← feeds.metrics] at quiet others
  obtain ⟨⟨passed, polled⟩, counted, -⟩ := recountPoll_ensures quiet others mark _ _ ends
  dsimp only at polled counted
  rw [feeds.metrics] at counted
  refine ⟨passed, polled.asked, polled.reached_eq, ?_, ?_, ?_⟩
  · rw [counted _ (by decide), counted _ (by decide), counted _ (by decide), ← polled.counted,
      ← Report.length_counters]
    omega
  · intro n same
    subst same
    exact polled.ok
  · intro e same
    subst same
    exact polled.error

end Poller

end

/--
Any pollers hand their blocks to a site, whose watchers, ledger and stores may do and fail as they
like as long as they do not count blocks themselves. After any calls the blocks that were counted
as notified or refused are as many as were handed on, and as offsets were written; the height shown
is that of the last offset that was recorded. A poll counts each block that it moves past, and one
more just when it ends with a write that is refused. A tally counts those who were told, and each
of them is counted, if nobody notifies watchers meanwhile; criteria that cannot be evaluated are
counted apart.
-/
theorem counters_reconcile {W σ : Type} [Inhabited σ] {s : Site W σ} {E : W → W → Prop}
    {crowd : Poller W → Prop} (feeds : ∀ p, crowd p → p.Feeds s) (site : s.Heeds s.KeepsBlocks)
    (others : ∀ w v, E w v → s.KeepsBlocks w v) :
    (∀ w v, Poller.Polling E crowd w v →
      (∃ reports, Poller.Reported E crowd w reports v) ∧
        ∀ reports, Poller.Reported E crowd w reports v → s.Reconciled w reports v) ∧
    (∀ p, crowd p → ∀ mark w answer reached v, (p.poll mark).Ends E w (answer, reached) v →
      (∃ reports, (p.recountPoll mark).Ends E w (reports, answer, reached) v) ∧
        ∀ reports, (p.recountPoll mark).Ends E w (reports, answer, reached) v →
          ∃ passed, s.PollReconciled mark w reports passed answer reached v) ∧
    (s.Heeds s.KeepsTellings → (∀ w v, E w v → s.KeepsTellings w v) →
      ∀ b w tally v, (s.notify b).Ends E w (.ok tally) v →
      (∃ outcomes, (s.recount b).Ends E w (.ok outcomes) v ∧ tally = .of outcomes) ∧
        ∀ outcomes, (s.recount b).Ends E w (.ok outcomes) v →
          s.TallyReconciled w outcomes (.of outcomes) v) := by
  refine ⟨?_, ?_, ?_⟩
  · intro w v run
    exact ⟨run.reported, fun reports reported => reported.reconciled feeds site others⟩
  · intro p hp mark w answer reached v ends
    refine ⟨Poller.poll_reported ends, fun reports reported => ?_⟩
    exact Poller.recountPoll_reconciled (feeds p hp) site others reported
  · intro heeds tellings b w tally v ends
    refine ⟨Site.notify_recounted ends, fun outcomes recounted => ?_⟩
    exact Site.recount_reconciled heeds tellings recounted

namespace Plant

/-- The poller of the container. -/
def poller : Poller Plant :=
  container.crew.poller ()

/-- A watcher waits for blocks. -/
def attended : Plant :=
  (site.start.run ((site.obey (.register "a" () .empty)).run {}).2).2

/-- One poll went well, and the store has broken since. -/
def broken : Plant :=
  { (((poller.poll .root).run attended).2 : Plant) with storeFails := some (.io "full") }

/-- Another poll from the same mark did not. -/
def stuck : Plant :=
  ((poller.poll .root).run broken).2

/-- A site on the plant keeps to what setting the registry and telling keep to. -/
lemma heeds {R : Plant → Plant → Prop} (refl : ∀ p, R p p)
    (registry : ∀ r p, R p (registryPart.set r p)) (told : ∀ n p, R p (toldPart.set n p)) :
    site.Heeds R where
  refl := refl
  operate _ p _ := registry _ p
  ledger _ := trivial
  notify _ _ _ p := ⟨told _ p, trivial⟩

/-- The poller of the plant feeds its site. -/
lemma feeds : poller.Feeds site where
  notify := rfl
  metrics := rfl
  blocksAfter _ := trivial
  block? _ := trivial
  restore p := ⟨site.metrics.books.refl p, trivial⟩
  isProcessed _ := trivial
  record _ p := ⟨site.metrics.books.refl p, trivial⟩

/-- The poller polls twice. -/
lemma polls_twice : Poller.Polling goesBy (· = poller) attended stuck :=
  ((ReflTransGen.single (.inr ⟨poller, rfl, .inr ⟨.root, _, .of_through rfl⟩⟩)).tail
    (.inl ⟨0, some (.io "full"), rfl⟩)).tail
    (.inr ⟨poller, rfl, .inr ⟨.root, _, .of_through rfl⟩⟩)

end Plant

/--
Of two polls the second cannot write: the block was handed on twice, and as many offsets were
written. The watcher that a third notification finds is told and counted.
-/
theorem counters_reconcile_if_broken :
    (∃ reports, Poller.Reported Plant.goesBy (· = Plant.poller) Plant.attended reports
        Plant.stuck ∧
      reports.countP Report.isHanded = 2 ∧ reports.countP Report.isWritten = 2 ∧
      (reports.filterMap Report.recorded?).getLast?.or none = some 1) ∧
    ∃ (v : Plant) (outcomes : List Offered),
      (Plant.site.recount ⟨.ofNat 2, .ofNat 1, 2, []⟩).Ends Plant.goesBy Plant.stuck
        (.ok outcomes) v ∧
      (Tally.of outcomes).number .rearmed = outcomes.count (.told .rearmed) ∧
      v.metrics.count .rearmed = 2 + (Tally.of outcomes).number .rearmed := by
  have site : Plant.site.Heeds Plant.site.KeepsBlocks :=
    Plant.heeds Plant.site.metrics.books.refl (fun _ => Plant.site.metrics.books.refl)
      fun _ => Plant.site.metrics.books.refl
  have tellings : Plant.site.Heeds Plant.site.KeepsTellings :=
    Plant.heeds Plant.site.tallies.refl (fun _ => Plant.site.tallies.refl)
      fun _ => Plant.site.tallies.refl
  have same (p q : Plant) (step : Plant.goesBy p q) : q.metrics = p.metrics := by
    obtain ⟨time, storeFails, rfl⟩ := step
    rfl
  have others (p q : Plant) (step : Plant.goesBy p q) : Plant.site.KeepsBlocks p q := by
    unfold Site.KeepsBlocks
    rw [show Plant.site.metrics.get q = Plant.site.metrics.get p from same p q step]
    exact ⟨.refl _, rfl⟩
  have untold (p q : Plant) (step : Plant.goesBy p q) : Plant.site.KeepsTellings p q := by
    unfold Site.KeepsTellings
    rw [show Plant.site.metrics.get q = Plant.site.metrics.get p from same p q step]
    exact .refl _
  have feeds (p : Poller Plant) (h : p = Plant.poller) : p.Feeds Plant.site := by
    rw [h]
    exact Plant.feeds
  obtain ⟨runs, -, tells⟩ := counters_reconcile feeds site others
  obtain ⟨⟨reports, reported⟩, reconciles⟩ := runs _ _ Plant.polls_twice
  have reconciled := reconciles reports reported
  have twice : 2 = 0 + reports.countP Report.isHanded := reconciled.handed
  rw [Nat.zero_add] at twice
  refine ⟨⟨reports, reported, twice.symm, reconciled.written.symm.trans twice.symm,
    reconciled.height.symm⟩, ?_⟩
  obtain ⟨⟨outcomes, recounted, -⟩, tallied⟩ :=
    tells tellings untold ⟨.ofNat 2, .ofNat 1, 2, []⟩ Plant.stuck _ _ (.of_through rfl)
  have told := tallied outcomes recounted
  exact ⟨_, outcomes, recounted, told.told .rearmed, told.counted .rearmed⟩

end LedgerWatch
