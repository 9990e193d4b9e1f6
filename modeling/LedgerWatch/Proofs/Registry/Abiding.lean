import LedgerWatch.Proofs.Program.Amid
import LedgerWatch.Proofs.Registry.Conduct

/-!
# What every step of a site keeps to

A site that starts its watchers or tells them about a block does operations on its registry, counts,
and runs programs of watchers and questions to the ledger in between. Whatever all of these keep to
in each step, the site keeps to as well, from every world. To tell its watchers it needs less than
to start them: `Heeds` leaves open what its counters keep to. Of the operations only few are its
own, and none of them but the end of a start changes the phase of the registry.
-/

namespace LedgerWatch

open Program (Within)
open Registry (Operation)

variable {W σ : Type} [Inhabited σ]

/-- Operations that a site does on its own while it starts its watchers or tells them. -/
def Registry.Operation.own : Operation σ → Bool
  | .cancel _ | .setCriteria _ _ | .setBusy _ _ | .release _ _ | .beginStart | .beginNotify => true
  | _ => false

/-- The counters of what becomes of offering a block to a registration. -/
def Counter.tellings : List Counter :=
  [.rearmed, .optedOut, .failed, .notEvaluated]

/-- What a watcher replies is counted by a counter of tellings. -/
lemma Delivery.counter_mem (delivery : Delivery) : delivery.counter ∈ Counter.tellings := by
  cases delivery <;> decide

namespace Site

/-- Everything that a site uses to tell its watchers, but its counters, keeps to a relation. -/
structure Heeds (s : Site W σ) (R : W → W → Prop) : Prop where
  refl : ∀ w, R w w
  operate : ∀ (op : Operation σ) w, op.own = true →
    R w (s.registry.set (op.apply (s.registry.get w)) w)
  ledger : ∀ id, (s.ledger.transaction? id).Within R
  notify : ∀ watcher block c, (s.behaviour.notify watcher block c).Within R

/-- Everything that a site is made of keeps to a relation in each step. -/
structure Abides (s : Site W σ) (R : W → W → Prop) : Prop where
  refl : ∀ w, R w w
  operate : ∀ (op : Operation σ) w, op.own = true →
    R w (s.registry.set (op.apply (s.registry.get w)) w)
  metrics : ∀ m w, R w (s.metrics.set m w)
  ledger : ∀ id, (s.ledger.transaction? id).Within R
  start : ∀ watcher settings, (s.behaviour.start watcher settings).Within R
  notify : ∀ watcher block c, (s.behaviour.notify watcher block c).Within R

variable {s : Site W σ} {R : W → W → Prop}

namespace Heeds

variable (hs : s.Heeds R)

include hs

/-- An operation that the site does on its own keeps to the relation. -/
lemma modify (op : Operation σ) (own : op.own = true) {f : Registry σ → Registry σ}
    (hf : ∀ r, f r = op.apply r) : (Program.modify s.registry f).Within R := by
  intro w
  have step := hs.operate op w own
  rw [← hf] at step
  exact ⟨step, trivial⟩

/-- So does such an operation with an answer. -/
lemma act {α : Type} (op : Operation σ) (own : op.own = true)
    {f : Registry σ → α × Registry σ} (hf : ∀ r, (f r).2 = op.apply r) :
    (Program.act s.registry f).Within R := by
  intro w
  have step := hs.operate op w own
  rw [← hf] at step
  exact ⟨step, trivial⟩

lemma registration (h : Handle) : (s.registration h).Within R :=
  Within.bind (.look hs.refl _) fun _ => .done _

lemma isLive (h : Handle) : (s.isLive h).Within R :=
  Within.bind (.look hs.refl _) fun _ => .done _

lemma acquire (h : Handle) : (s.acquire h).Within R := by
  have mark : (Program.modify s.registry (Registry.setBusy h true)).Within R :=
    hs.modify (.setBusy h true) rfl fun _ => rfl
  refine Within.bind (hs.registration h) fun reg => ?_
  cases reg.busy with
  | true => exact Within.bind (p := Program.waitFor _ _) trivial fun _ => mark
  | false => exact mark

/-- Running a program of a watcher keeps to the relation if the program does. -/
lemma perform {α : Type} {f : Registration σ → Program W (α × σ)} (h : Handle)
    (hf : ∀ reg, (f reg).Within R) : (s.perform h f).Within R := by
  refine Within.bind (hs.acquire h) fun _ => ?_
  refine Within.bind (p := Program.pause) trivial fun _ => ?_
  refine Within.bind (hs.registration h) fun reg => ?_
  refine Within.bind (hf reg) fun ⟨result, watcher⟩ => ?_
  refine Within.bind (hs.modify (.release h watcher) rfl fun _ => rfl) fun _ => ?_
  exact Within.bind (p := Program.pause) trivial fun _ => .done result

lemma setCriteria (h : Handle) (c : Criteria) :
    (Program.modify s.registry (Registry.setCriteria h c)).Within R :=
  hs.modify (.setCriteria h c) rfl fun _ => rfl

lemma anyLeavesOtherState (state : Int32) (txs : List Transaction) :
    (LedgerWatch.anyLeavesOtherState s.ledger state txs).Within R := by
  induction txs with
  | nil => exact .done _
  | cons tx rest ih =>
    refine Within.bind (hs.ledger tx.id) fun answer => ?_
    cases answer with
    | error e => exact .done _
    | ok recorded =>
      cases other : leavesOtherState state recorded with
      | true =>
        simp only [other, if_true]
        exact .done _
      | false =>
        simp only [other, Bool.false_eq_true, if_false]
        exact ih

lemma triggeredBy (c : Criteria) (b : Block) : (c.triggeredBy s.ledger b).Within R := by
  unfold Criteria.triggeredBy
  cases c.interest with
  | artifactState expected => exact hs.anyLeavesOtherState _ _
  | _ => exact .done _

/-- Telling a watcher about a block keeps to the relation, counters apart. -/
lemma dispatch (h : Handle) (block : BlockId) : (s.dispatch h block).Within R := by
  refine Within.bind (hs.registration h) fun reg => ?_
  refine Within.bind (hs.perform h fun reg => hs.notify _ _ _) fun answer => ?_
  rcases answer with e | _ | next
  · exact .done _
  · exact Within.bind (hs.modify (.cancel h) rfl fun _ => rfl) fun _ => .done _
  · cases valid : next.validate with
    | error e =>
      simp only [valid]
      exact .done _
    | ok next =>
      simp only [valid]
      exact Within.bind (hs.setCriteria h next) fun _ => .done _

section

variable (counts : ∀ c ∈ Counter.tellings, (s.count c).Within R)

include counts

/-- Offering a block to a registration keeps to the relation. -/
lemma offer (b : Block) (h : Handle) : (s.offer b h).Within R := by
  refine Within.bind (hs.isLive h) fun live => ?_
  cases live with
  | false => exact .done _
  | true =>
    refine Within.bind (hs.registration h) fun reg => ?_
    refine Within.bind (hs.triggeredBy _ b) fun triggered => ?_
    rcases triggered with e | _ | _
    · exact Within.bind (counts _ (by decide)) fun _ => .done _
    · exact .done _
    · refine Within.bind (hs.isLive h) fun live => ?_
      cases live with
      | false => exact .done _
      | true =>
        refine Within.bind (hs.dispatch h b.id) fun delivery => ?_
        exact Within.bind (counts _ (Delivery.counter_mem delivery)) fun _ => .done _

/-- Offering a block to registrations in turn keeps to the relation. -/
lemma fanOut (b : Block) (handles : List Handle) (tally : Tally) :
    (s.fanOut b tally handles).Within R := by
  induction handles generalizing tally with
  | nil => exact .done _
  | cons h rest ih =>
    refine Within.bind (hs.offer counts b h) fun delivery => ?_
    cases delivery with
    | none => exact ih tally
    | some delivery => exact ih (tally.add delivery)

/-- A notification keeps to the relation. -/
lemma tell (b : Block) : (s.notify b).Within R := by
  refine Within.bind (hs.act .beginNotify rfl fun _ => rfl) fun answer => ?_
  cases answer with
  | error e => exact .done _
  | ok handles => exact Within.bind (hs.fanOut counts b handles {}) fun _ => .done _

end

end Heeds

namespace Abides

lemma mono {R' : W → W → Prop} (le : ∀ w v, R w v → R' w v) (hs : s.Abides R) : s.Abides R' where
  refl w := le _ _ (hs.refl w)
  operate op w own := le _ _ (hs.operate op w own)
  metrics m w := le _ _ (hs.metrics m w)
  ledger id := (hs.ledger id).mono le
  start watcher settings := (hs.start watcher settings).mono le
  notify watcher block c := (hs.notify watcher block c).mono le

section

variable (hs : s.Abides R)

include hs

/-- What everything keeps to is kept to without the counters. -/
lemma heeds : s.Heeds R :=
  ⟨hs.refl, hs.operate, hs.ledger, hs.notify⟩

/-- Asking watchers to start keeps to the relation. -/
lemma startAll (handles : List Handle) : (s.startAll handles).Within R := by
  induction handles with
  | nil => exact .done _
  | cons h rest ih =>
    refine Within.bind (hs.heeds.registration h) fun reg => ?_
    refine Within.bind (hs.heeds.perform h fun reg => hs.start _ _) fun answer => ?_
    cases answer with
    | error e => exact .done _
    | ok initial =>
      cases valid : initial.validate with
      | error e =>
        simp only [valid]
        exact .done _
      | ok initial =>
        simp only [valid]
        exact Within.bind (hs.heeds.setCriteria h initial) fun _ => ih

/-- A start, if opening the registry is allowed as well. -/
lemma begin (opening : ∀ w, R w (s.registry.set (s.registry.get w).finishStart w)) :
    s.start.Within R := by
  refine Within.bind (hs.heeds.act .beginStart rfl fun _ => rfl) fun answer => ?_
  cases answer with
  | error e => exact .done _
  | ok handles =>
    refine Within.bind (hs.startAll handles) fun answer => ?_
    cases answer with
    | error e => exact .done _
    | ok _ => exact Within.bind (fun w => ⟨opening w, trivial⟩) fun _ => .done _

/-- A notification keeps to what everything keeps to. -/
lemma tell (b : Block) : (s.notify b).Within R :=
  hs.heeds.tell (fun _ _ => .modify hs.metrics _) b

/-- Whatever is asked of a site, if every operation is allowed. -/
lemma obey (any : ∀ (op : Operation σ) w, R w (s.registry.set (op.apply (s.registry.get w)) w))
    (command : Command σ) : (s.obey command).Within R := by
  cases command with
  | register name watcher settings =>
    refine Within.bind (fun w => ⟨any (.register name watcher settings) w, trivial⟩) fun _ => ?_
    exact .done _
  | start => exact Within.bind (hs.begin (any .finishStart)) fun _ => .done _
  | notify b => exact Within.bind (hs.tell b) fun _ => .done _
  | remove name =>
    exact Within.bind (fun w => ⟨any (.remove name) w, trivial⟩) fun _ => .done _
  | close => exact fun w => ⟨any .close w, trivial⟩
  | cancel h => exact fun w => ⟨any (.cancel h) w, trivial⟩
  | setCriteria h c => exact fun w => ⟨any (.setCriteria h c) w, trivial⟩
  | query => exact fun w => ⟨any .ask w, trivial⟩

end

end Abides

end Site

end LedgerWatch
