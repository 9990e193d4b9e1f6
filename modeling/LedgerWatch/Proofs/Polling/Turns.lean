import LedgerWatch.Proofs.Polling.Cycles

/-!
# What a turn of a worker comes to

A worker takes its turns amid others, who may signal it, abandon it, move the clock, change the
ledger and the store, and fail its questions. This module follows one turn step by step: where the
worker stands (`Stage`) is kept by everyone else and moved on by the worker itself. A turn comes to
nothing, to an end because the worker was told to, or to one cycle (`Stage.turn`).
-/

namespace LedgerWatch

open Relation (ReflTransGen)
open Program (Ensures OnFirst Within)

variable {W δ : Type}

/-! ### What everyone else does to a worker -/

/-- A worker that may have been signalled or abandoned since. -/
structure Worker.Hears (a b : Worker δ) : Prop where
  poller : b.poller = a.poller
  interval : b.interval = a.interval
  mark : b.mark = a.mark
  due : b.due = a.due
  outcome : b.outcome = a.outcome

namespace Worker.Hears

variable {a b c : Worker δ}

lemma refl (a : Worker δ) : a.Hears a :=
  ⟨rfl, rfl, rfl, rfl, rfl⟩

lemma trans (h : a.Hears b) (k : b.Hears c) : a.Hears c :=
  ⟨k.poller.trans h.poller, k.interval.trans h.interval, k.mark.trans h.mark, k.due.trans h.due,
    k.outcome.trans h.outcome⟩

end Worker.Hears

/-- A change of a worker that has nothing to do with signals. -/
structure Worker.Amends (f : Worker δ → Worker δ) : Prop where
  hears : ∀ x y, x.Hears y → (f x).Hears (f y)
  signal : ∀ x, (f x).signal = x.signal
  abandoned : ∀ x, (f x).abandoned = x.abandoned

namespace Worker.Amends

/-- Beginning has nothing to do with signals. -/
lemma commence (now : Nat) : Worker.Amends (δ := δ) (Worker.commence now) where
  hears x y h := by
    unfold Worker.commence
    rw [h.due]
    split
    · exact h
    · rw [h.interval]
      split
      · exact ⟨h.poller, rfl, h.mark, rfl, rfl⟩
      · exact ⟨h.poller, rfl, h.mark, rfl, h.outcome⟩
  signal x := by
    unfold Worker.commence
    split
    · rfl
    · split <;> rfl
  abandoned x := by
    unfold Worker.commence
    split
    · rfl
    · split <;> rfl

lemma seen : Worker.Amends (δ := δ) fun x => { x with unseen := false } :=
  ⟨fun _ _ h => ⟨h.poller, h.interval, h.mark, h.due, h.outcome⟩, fun _ => rfl, fun _ => rfl⟩

lemma reset (now : Nat) : Worker.Amends (δ := δ) fun x =>
    { x with due := x.due.map fun due => Worker.nextDue now due x.interval } where
  hears x y h := ⟨h.poller, h.interval, h.mark, by rw [h.due, h.interval], h.outcome⟩
  signal _ := rfl
  abandoned _ := rfl

lemma moved (mark : BlockId) : Worker.Amends (δ := δ) fun x => { x with mark } :=
  ⟨fun _ _ h => ⟨h.poller, h.interval, rfl, h.due, h.outcome⟩, fun _ => rfl, fun _ => rfl⟩

lemma finish (outcome : Except WorkerFault Unit) :
    Worker.Amends (δ := δ) (Worker.finish outcome) :=
  ⟨fun _ _ h => ⟨h.poller, h.interval, h.mark, h.due, rfl⟩, fun _ => rfl, fun _ => rfl⟩

end Worker.Amends

namespace Crew

variable [Inhabited δ]

/-- A worker is at most signalled or abandoned, and no cycle is counted. -/
structure Aside (crew : Crew W δ) (k : Nat) (d : δ) (w v : W) : Prop where
  worker : (crew.worker k w).Hears (crew.worker k v)
  cycles : ((crew.poller d).metrics.get w).SameCycles ((crew.poller d).metrics.get v)

/-- Everyone but the worker itself keeps to a relation, in each step that they take. -/
structure AllKeep (crew : Crew W δ) (d : δ) (others : W → W → Prop) (R : W → W → Prop) : Prop where
  others : ∀ w v, others w v → R w v
  blocksAfter : ∀ id, ((crew.poller d).ledger.blocksAfter id).Within R
  isProcessed : ∀ height, ((crew.poller d).offsets.isProcessed height).Within R
  record : ∀ o, ((crew.poller d).offsets.record o).Within R
  notify : ∀ b, ((crew.poller d).notify b).Within R

/--
What holds is kept by the others, by the question for blocks and by counting; whatever else a
poller uses may change it.
-/
structure Calm (crew : Crew W δ) (d : δ) (others : W → W → Prop) (I : W → Prop) : Prop where
  others : ∀ w v, others w v → I w → I v
  blocksAfter : ∀ id, ((crew.poller d).ledger.blocksAfter id).Within fun w v => I w → I v
  metrics : ∀ m w, I w → I ((crew.poller d).metrics.set m w)

omit [Inhabited δ] in
/-- What is always true is kept by everyone. -/
lemma Calm.true (crew : Crew W δ) (d : δ) (others : W → W → Prop) :
    crew.Calm d others fun _ => True := by
  have within {α : Type} (p : Program W α) : p.Within fun _ _ => True → True := by
    induction p with
    | done a => trivial
    | step update next ih => exact fun w => ⟨fun _ => trivial, ih w⟩
    | wait ready alarm next ih => exact ih
  exact ⟨fun _ _ _ _ => trivial, fun _ => within _, fun _ _ _ => trivial⟩

/-- Nobody has told the worker to stop, and there is someone who could. -/
def Quiet (crew : Crew W δ) (k : Nat) (w : W) : Prop :=
  (crew.worker k w).signal = false ∧ (crew.worker k w).abandoned = false

/-- A worker that has not ended is changed in its place. -/
lemma worker_amend {crew : Crew W δ} {k : Nat} {w : W}
    (unfinished : (crew.worker k w).outcome = none) (f : Worker δ → Worker δ) :
    crew.worker k (crew.workers.modify (fun workers => workers.modify k f) w)
      = f (crew.worker k w) := by
  have hired : k < (crew.workers.get w).length := by
    rw [Crew.worker, List.getD_eq_getElem?_getD] at unfinished
    refine Nat.lt_of_not_le fun absent => ?_
    rw [List.getElem?_eq_none absent] at unfinished
    cases unfinished
  rw [Crew.worker, Crew.worker, Part.get_modify, List.getD_eq_getElem?_getD,
    List.getD_eq_getElem?_getD, List.getElem?_modify_eq, List.getElem?_eq_getElem hired]
  rfl

/-! ### Where a worker stands -/

/-- A worker is at most signalled or abandoned; nobody tells it to stop if everyone is quiet. -/
structure Beyond (crew : Crew W δ) (k : Nat) (d : δ) (quiet : Prop) (w v : W) : Prop extends
    crew.Aside k d w v where
  quiet : quiet → crew.Quiet k w → crew.Quiet k v

/--
The worker is as given but for signals, the metrics are as given as far as cycles go, and some
readings were noted.
-/
structure Stage (crew : Crew W δ) (k : Nat) (d : δ) (quiet : Prop) (m : Metrics) (x : Worker δ)
    (readings : List Reading) (s : W × List Reading) : Prop where
  worker : x.Hears (crew.worker k s.1)
  counted : m.SameCycles ((crew.poller d).metrics.get s.1)
  readings : s.2 = readings
  quiet : quiet → crew.Quiet k s.1

section

variable {crew : Crew W δ} {k : Nat} {d : δ} {others : W → W → Prop} {quiet : Prop} {m : Metrics}
  {x : Worker δ} {readings : List Reading} {s s' : W × List Reading}
  {α : Type} {p : Program W α}

/-- What others do leaves a worker at its stage. -/
lemma Stage.beyond {v : W} (h : crew.Stage k d quiet m x readings s)
    (step : crew.Beyond k d quiet s.1 v) : crew.Stage k d quiet m x readings (v, s.2) where
  worker := h.worker.trans step.worker
  counted := h.counted.trans step.cycles
  readings := h.readings
  quiet q := step.quiet q (h.quiet q)

variable (keep : crew.AllKeep d others (crew.Beyond k d quiet))

include keep

/-- However much others do, a worker stays at its stage. -/
lemma Stage.rest (h : crew.Stage k d quiet m x readings s)
    (rest : ReflTransGen (OnFirst others) s s') :
    crew.Stage k d quiet m x readings s' := by
  induction rest with
  | refl => exact h
  | @tail b c _ step ih =>
    have on := ih.beyond (keep.others _ _ step.1)
    rwa [← step.2] at on

/-- A program that leaves the worker and the cycles alone leaves the worker at its stage. -/
lemma Stage.beside (h : crew.Stage k d quiet m x readings s)
    (hp : p.Within (crew.Beyond k d quiet)) :
    p.beside.Ensures (OnFirst others) s fun _ s' =>
      crew.Stage k d quiet m x readings s' := by
  refine Ensures.of_within hp.beside (fun s s' step hs => hs.rest keep (.single step)) ?_ h
  rintro s ⟨v, notes⟩ ⟨step, same⟩ hs
  obtain rfl : notes = s.2 := same
  exact hs.beyond step

/-- The same program may note something for its answer. -/
lemma Stage.noting (h : crew.Stage k d quiet m x readings s)
    (hp : p.Within (crew.Beyond k d quiet)) (f : α → List Reading) :
    (p.noting f).Ensures (OnFirst others) s fun a s' =>
      crew.Stage k d quiet m x (readings ++ f a) s' := by
  refine Ensures.bind ((h.beside keep hp).mono fun a s' hs => ?_)
  refine Ensures.bind (.step fun s'' rest => .done fun s₃ rest' => .done fun s₄ rest'' => ?_)
  have noted : crew.Stage k d quiet m x (readings ++ f a) (s''.1, s''.2 ++ f a) := by
    have hs := hs.rest keep rest
    exact ⟨hs.worker, hs.counted, congrArg (· ++ f a) hs.readings, hs.quiet⟩
  exact (noted.rest keep rest').rest keep rest''

variable (apart : crew.workers.Apart (crew.poller d).metrics)

include apart

/-- A worker that has not ended is changed, and nothing is noted. -/
lemma Stage.amend (h : crew.Stage k d quiet m x readings s) (unfinished : x.outcome = none)
    {f : Worker δ → Worker δ} (hf : Worker.Amends f) :
    (crew.noted.amend k f).Ensures (OnFirst others) s fun _ s' =>
      crew.Stage k d quiet m (f x) readings s' := by
  refine .step fun s' rest => .done fun s'' rest' => ?_
  have hs := h.rest keep rest
  have changed := worker_amend (hs.worker.outcome.trans unfinished) f
  have amended : crew.Stage k d quiet m (f x) readings
      (crew.workers.modify (fun workers => workers.modify k f) s'.1, s'.2) := by
    refine ⟨?_, ?_, hs.readings, fun q => ?_⟩
    · exact changed ▸ hf.hears _ _ hs.worker
    · exact (apart.right _ _).symm ▸ hs.counted
    · obtain ⟨signal, abandoned⟩ := hs.quiet q
      refine ⟨?_, ?_⟩
      · exact (congrArg Worker.signal changed).trans ((hf.signal _).trans signal)
      · exact (congrArg Worker.abandoned changed).trans ((hf.abandoned _).trans abandoned)
  exact amended.rest keep rest'

/-- The counting of a cycle is seen in the metrics, and nothing else changes. -/
lemma Stage.count (h : crew.Stage k d quiet m x readings s) {f : Metrics → Metrics}
    {m' : Metrics} (hf : ∀ n, m.SameCycles n → m'.SameCycles (f n)) :
    (Program.modify (crew.poller d).noted.metrics f).Ensures (OnFirst others) s fun _ s' =>
      crew.Stage k d quiet m' x readings s' := by
  refine .step fun s' rest => .done fun s'' rest' => ?_
  have hs := h.rest keep rest
  have same : crew.worker k ((crew.poller d).metrics.modify f s'.1) = crew.worker k s'.1 := by
    rw [Crew.worker, Crew.worker, Part.modify, apart.left]
  have counted : crew.Stage k d quiet m' x readings
      ((crew.poller d).metrics.modify f s'.1, s'.2) := by
    refine ⟨same.symm ▸ hs.worker, ?_, hs.readings, fun q => ?_⟩
    · exact ((crew.poller d).metrics.get_modify f s'.1).symm ▸ hf _ hs.counted
    · obtain ⟨signal, abandoned⟩ := hs.quiet q
      exact ⟨(congrArg Worker.signal same).trans signal,
        (congrArg Worker.abandoned same).trans abandoned⟩
  exact counted.rest keep rest'

/-- Counting anything but cycles leaves a worker at its stage. -/
lemma Stage.countOther (h : crew.Stage k d quiet m x readings s) {c : Counter}
    (other : c.isCycle = false) :
    ((crew.poller d).noted.count c).Ensures (OnFirst others) s fun _ s' =>
      crew.Stage k d quiet m x readings s' :=
  h.count keep apart fun n same => same.trans (.increment other n)

/-! ### What a cycle comes to -/

lemma Stage.announce (h : crew.Stage k d quiet m x readings s) (b : Block) :
    ((crew.poller d).noted.announce b).Ensures (OnFirst others) s fun _ s' =>
      crew.Stage k d quiet m x readings s' := by
  refine Ensures.bind ((h.beside keep (keep.notify b)).mono fun answer s' hs => ?_)
  cases answer with
  | ok tally => exact hs.countOther keep apart rfl
  | error e => exact hs.countOther keep apart rfl

/-- What the store answers for a block is noted. -/
lemma Stage.processBlock (h : crew.Stage k d quiet m x readings s) (b : Block) :
    ((crew.poller d).noted.processBlock b).Ensures (OnFirst others) s fun answer s' =>
      crew.Stage k d quiet m x (readings ++ Reading.ofStore answer) s' := by
  refine Ensures.bind ((h.noting keep (keep.isProcessed _) _).mono fun answer s' hs => ?_)
  rcases answer with e | _ | _
  · exact .done fun s'' rest => hs.rest keep rest
  · rw [Reading.ofStore, List.append_nil] at hs
    refine Ensures.bind ((hs.announce keep apart b).mono fun _ s' hs => ?_)
    refine Ensures.bind ((hs.noting keep (keep.record _) _).mono fun answer s' hs => ?_)
    cases answer with
    | error e => exact .done fun s'' rest => hs.rest keep rest
    | ok _ =>
      have recorded : ∀ n, m.SameCycles n → m.SameCycles (n.recordOffset b.height) :=
        fun n same => same.trans ⟨fun _ _ => rfl, rfl⟩
      refine Ensures.bind ((hs.count keep apart recorded).mono fun _ s' hs => ?_)
      exact .done fun s'' rest => hs.rest keep rest
  · refine Ensures.bind ((hs.countOther keep apart rfl).mono fun _ s' hs => ?_)
    exact .done fun s'' rest => hs.rest keep rest

/-- What the store answers for blocks is noted, up to the first fault. -/
lemma Stage.processBlocks (h : crew.Stage k d quiet m x readings s) (mark : BlockId)
    (blocks : List Block) :
    ((crew.poller d).noted.processBlocks mark blocks).Ensures (OnFirst others) s fun result s' =>
      crew.Stage k d quiet m x (readings ++ Reading.ofStore result.1) s' := by
  induction blocks generalizing mark s with
  | nil =>
    refine .done fun s' rest => ?_
    rw [Reading.ofStore, List.append_nil]
    exact h.rest keep rest
  | cons b rest ih =>
    refine Ensures.bind ((h.processBlock keep apart b).mono fun answer s' hs => ?_)
    cases answer with
    | error e => exact .done fun s'' rest => hs.rest keep rest
    | ok _ =>
      rw [Reading.ofStore, List.append_nil] at hs
      exact ih hs b.id

/-- What polling after a mark comes to. -/
inductive Polled (mark : BlockId) : Cycle → Except PollerError Nat × BlockId → Prop where
  | succeeded (blocks : List Block) (mark' : BlockId) :
    Polled mark (.succeeded blocks) (.ok blocks.length, mark')
  | withoutLedger (e : LedgerError) :
    Polled mark (.withoutLedger e) (.error (.ledger e), mark)
  | withoutStore (blocks : List Block) (e : StorageError) (mark' : BlockId) :
    Polled mark (.withoutStore blocks e) (.error (.storage e), mark')

/-- What a cycle after a mark comes to. -/
inductive Closed (mark : BlockId) : Cycle → Except StorageError Unit × BlockId → Prop where
  | succeeded (blocks : List Block) (mark' : BlockId) :
    Closed mark (.succeeded blocks) (.ok (), mark')
  | withoutLedger (e : LedgerError) :
    Closed mark (.withoutLedger e) (.ok (), mark)
  | withoutStore (blocks : List Block) (e : StorageError) (mark' : BlockId) :
    Closed mark (.withoutStore blocks e) (.error e, mark')

omit [Inhabited δ] keep apart in
/-- The question for blocks keeps what is kept in calm. -/
lemma Calm.asks {I : W → Prop} (calm : crew.Calm d others I) (hI : I s.1) (mark : BlockId)
    (f : Except LedgerError (List Block) → List Reading) :
    (((crew.poller d).ledger.blocksAfter mark).noting f).Ensures (OnFirst others) s fun _ s' =>
      I s'.1 := by
  have within : (((crew.poller d).ledger.blocksAfter mark).noting f).Within
      fun s s' => I s.1 → I s'.1 :=
    (Within.mono (fun _ _ step => step.1) (calm.blocksAfter mark).beside).bind fun _ =>
      Within.bind (.modify (fun _ _ => id) _) fun _ => .done _
  exact .of_within within (fun s s' step => calm.others _ _ step.1) (fun _ _ step => step) hI

omit [Inhabited δ] keep apart in
/-- Counting keeps what is kept in calm. -/
lemma Calm.count {I : W → Prop} (calm : crew.Calm d others I) (hI : I s.1)
    (f : Metrics → Metrics) :
    (Program.modify (crew.poller d).noted.metrics f).Ensures (OnFirst others) s fun _ s' =>
      I s'.1 := by
  have within : (Program.modify (crew.poller d).noted.metrics f).Within
      fun s s' => I s.1 → I s'.1 :=
    .modify (fun _ _ => calm.metrics _ _) f
  exact .of_within within (fun s s' step => calm.others _ _ step.1) (fun _ _ step => step) hI

/--
A poll comes to a cycle whose readings are noted; without the ledger, what was calm stays so.
-/
lemma Stage.poll (h : crew.Stage k d quiet m x readings s) {I : W → Prop}
    (calm : crew.Calm d others I) (hI : I s.1) (mark : BlockId) :
    ((crew.poller d).noted.poll mark).Ensures (OnFirst others) s fun result s' =>
      ∃ c, Polled mark c result ∧ crew.Stage k d quiet m x (readings ++ c.readings) s' ∧
        (c.counter = .cycleWithoutLedger → I s'.1) := by
  have asked := (h.noting keep (keep.blocksAfter mark) fun answer => [.asked answer]).and
    (calm.asks hI mark _)
  refine Ensures.bind (asked.mono fun answer s' ⟨hs, hI⟩ => ?_)
  cases answer with
  | error e =>
    exact .done fun s'' rest => ⟨_, .withoutLedger e, hs.rest keep rest,
      fun _ => Program.kept (fun _ _ step => calm.others _ _ step.1) hI rest⟩
  | ok blocks =>
    refine Ensures.bind ((hs.processBlocks keep apart mark blocks).mono fun result s' hs => ?_)
    obtain ⟨e | _, mark'⟩ := result
    · refine .done fun s'' rest => ⟨_, .withoutStore blocks e mark', ?_, nofun⟩
      rw [Reading.ofStore, List.append_assoc] at hs
      exact hs.rest keep rest
    · refine .done fun s'' rest => ⟨_, .succeeded blocks mark', ?_, nofun⟩
      rw [Reading.ofStore, List.append_nil] at hs
      exact hs.rest keep rest

/--
A cycle is counted as what it came to. When the ledger fails, it consists of the question to the
ledger and of counting.
-/
lemma Stage.cycle (h : crew.Stage k d quiet m x readings s) {I : W → Prop}
    (calm : crew.Calm d others I) (hI : I s.1) (mark : BlockId) :
    (Crew.cycle (crew.poller d).noted mark).Ensures (OnFirst others) s fun result s' =>
      ∃ c, Closed mark c result ∧
        crew.Stage k d quiet (c.record m) x (readings ++ c.readings) s' ∧
        (c.counter = .cycleWithoutLedger → I s'.1) := by
  refine Ensures.bind ((h.poll keep apart calm hI mark).mono fun result s' => ?_)
  rintro ⟨c, polled, hs, hI⟩
  cases polled with
  | succeeded blocks mark' =>
    have counted := hs.count keep apart fun n same => same.increment_both .cycleSucceeded
    refine Ensures.bind (counted.mono fun _ s' hs => ?_)
    have recorded := hs.count keep apart fun n same => same.recordCycle_both blocks.length
    refine Ensures.bind (recorded.mono fun _ s' hs => ?_)
    exact .done fun s'' rest => ⟨_, .succeeded blocks mark', hs.rest keep rest, nofun⟩
  | withoutLedger e =>
    have counted := hs.count keep apart fun n same => same.increment_both .cycleWithoutLedger
    refine Ensures.bind ((counted.and (calm.count (hI rfl) _)).mono fun _ s' ⟨hs, hI⟩ => ?_)
    exact .done fun s'' rest => ⟨_, .withoutLedger e, hs.rest keep rest,
      fun _ => Program.kept (fun _ _ step => calm.others _ _ step.1) hI rest⟩
  | withoutStore blocks e mark' =>
    have counted := hs.count keep apart fun n same => same.increment_both .cycleWithoutStore
    refine Ensures.bind (counted.mono fun _ s' hs => ?_)
    exact .done fun s'' rest => ⟨_, .withoutStore blocks e mark', hs.rest keep rest, nofun⟩

/-! ### What a turn comes to -/

/-- What a turn of a worker comes to: nothing, an end because it was told to, or a cycle. -/
inductive Turned (quiet : Prop) (m : Metrics) (readings : List Reading) :
    Metrics → Worker δ → List Reading → Prop where
  | idle {x : Worker δ} :
    x.outcome = none →
    Turned quiet m readings m x readings
  | told {x : Worker δ} :
    ¬quiet →
    x.outcome = some (.ok ()) →
    Turned quiet m readings m x readings
  | cycled {x : Worker δ} (c : Cycle) :
    x.outcome = c.ending →
    Turned quiet m readings (c.record m) x (readings ++ c.readings)

/-- The worker stands somewhere after a turn, with the poller and the interval that it had. -/
def AfterTurn (crew : Crew W δ) (k : Nat) (d : δ) (quiet : Prop) (m : Metrics) (x : Worker δ)
    (readings : List Reading) (s : W × List Reading) : Prop :=
  ∃ m' x' readings', crew.Stage k d quiet m' x' readings' s ∧ x'.poller = x.poller ∧
    x'.interval = x.interval ∧ Turned quiet m readings m' x' readings'

omit apart in
/-- A worker that is looked at is as it stands but for signals. -/
lemma Stage.look (h : crew.Stage k d quiet m x readings s) :
    (Program.look crew.noted.workers).Ensures (OnFirst others) s fun workers s' =>
      crew.Stage k d quiet m x readings s' ∧ x.Hears (workers.getD k default) ∧
        (quiet → (workers.getD k default).signal = false ∧
          (workers.getD k default).abandoned = false) := by
  refine .step fun s' rest => .done fun s'' rest' => ?_
  have hs := h.rest keep rest
  exact ⟨hs.rest keep rest', hs.worker, hs.quiet⟩

/-- A tick is a turn with one cycle. -/
lemma Stage.tick (h : crew.Stage k d quiet m x readings s) (unfinished : x.outcome = none)
    (poller : x.poller = d) {worker : Worker δ} (seen : x.Hears worker) :
    (crew.noted.tick k worker).Ensures (OnFirst others) s fun _ s' =>
      crew.AfterTurn k d quiet m x readings s' := by
  refine Ensures.bind (.step fun s₁ rest => .done fun s₂ rest' => ?_)
  have hs := (h.rest keep rest).rest keep rest'
  refine Ensures.bind ((hs.amend keep apart unfinished (.reset _)).mono fun _ s' hs => ?_)
  -- what was seen of the worker may be signalled by now, but its poller and its mark are the same
  have named : worker.poller = d := seen.poller.trans poller
  subst named
  have cycled := hs.cycle keep apart (.true crew worker.poller others) trivial worker.mark
  refine Ensures.bind (cycled.mono fun result s' => ?_)
  rintro ⟨c, closed, hs, -⟩
  obtain ⟨outcome, mark⟩ := result
  refine Ensures.bind ((hs.amend keep apart unfinished (.moved mark)).mono fun _ s' hs => ?_)
  cases closed with
  | succeeded blocks =>
    exact .done fun s'' rest =>
      ⟨_, _, _, hs.rest keep rest, rfl, rfl, .cycled (.succeeded blocks) unfinished⟩
  | withoutLedger e =>
    exact .done fun s'' rest =>
      ⟨_, _, _, hs.rest keep rest, rfl, rfl, .cycled (.withoutLedger e) unfinished⟩
  | withoutStore blocks e =>
    exact (hs.amend keep apart unfinished (.finish _)).mono fun _ s' hs =>
      ⟨_, _, _, hs, rfl, rfl, .cycled (.withoutStore blocks e) rfl⟩

/-- A worker that reacts takes a turn. -/
lemma Stage.react (h : crew.Stage k d quiet m x readings s) (unfinished : x.outcome = none)
    (poller : x.poller = d) :
    (crew.noted.react k).Ensures (OnFirst others) s fun _ s' =>
      crew.AfterTurn k d quiet m x readings s' := by
  refine Ensures.bind ((h.look keep).mono fun workers s' => ?_)
  rintro ⟨hs, seen, silent⟩
  dsimp only
  split
  · exact (hs.amend keep apart unfinished .seen).mono fun _ s' hs =>
      ⟨_, _, _, hs, rfl, rfl, .idle unfinished⟩
  · split
    case isTrue abandoned =>
      have told : ¬quiet := fun q => absurd abandoned (Bool.eq_false_iff.1 (silent q).2)
      exact (hs.amend keep apart unfinished (.finish _)).mono fun _ s' hs =>
        ⟨_, _, _, hs, rfl, rfl, .told told rfl⟩
    case isFalse => exact hs.tick keep apart unfinished poller seen

/-- A turn of a worker with time between its ticks comes to what a turn can come to. -/
lemma Stage.turn (h : crew.Stage k d quiet m x readings s) (unfinished : x.outcome = none)
    (poller : x.poller = d) (interval : 0 < x.interval) :
    (crew.noted.turn k).Ensures (OnFirst others) s fun _ s' =>
      crew.AfterTurn k d quiet m x readings s' := by
  refine Ensures.bind (.step fun s₁ rest => .done fun s₂ rest' => ?_)
  have hs := (h.rest keep rest).rest keep rest'
  generalize crew.noted.clock.get s₁ = now
  -- with time between its ticks, a worker does not break down when it begins
  have begun : (x.commence now).outcome = none ∧ (x.commence now).poller = x.poller ∧
      (x.commence now).interval = x.interval := by
    unfold Worker.commence
    split
    · exact ⟨unfinished, rfl, rfl⟩
    · rw [if_neg (Nat.ne_of_gt interval)]
      exact ⟨unfinished, rfl, rfl⟩
  obtain ⟨unfinished', poller', interval'⟩ := begun
  have carry {s : W × List Reading} :
      crew.AfterTurn k d quiet m (x.commence now) readings s →
        crew.AfterTurn k d quiet m x readings s := by
    rintro ⟨m', x', readings', stage, p, i, turned⟩
    exact ⟨m', x', readings', stage, p.trans poller', i.trans interval', turned⟩
  refine Ensures.bind ((hs.amend keep apart unfinished (.commence now)).mono fun _ s' hs => ?_)
  refine Ensures.bind ((hs.look keep).mono fun workers s' => ?_)
  rintro ⟨hs, seen, silent⟩
  have working : ¬(workers.getD k default).isFinished = true := by
    rw [Worker.isFinished, seen.outcome, unfinished']
    exact Bool.false_ne_true
  dsimp only
  rw [if_neg working]
  split
  case isTrue signal =>
    have told : ¬quiet := fun q => absurd signal (Bool.eq_false_iff.1 (silent q).1)
    exact (hs.amend keep apart unfinished' (.finish _)).mono fun _ s' hs =>
      carry ⟨_, _, _, hs, rfl, rfl, .told told rfl⟩
  case isFalse =>
    refine Ensures.bind (.wait fun s' rest _ => .done fun s'' rest' => ?_)
    have hs := (hs.rest keep rest).rest keep rest'
    exact (hs.react keep apart unfinished' (poller'.trans poller)).mono fun _ s' => carry

end

end Crew

end LedgerWatch
