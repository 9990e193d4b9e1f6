import LedgerWatch.Proofs.Program.Accounting
import LedgerWatch.Proofs.Registry.Abiding

/-!
# Tallies and counters

When a site notifies its watchers of a block, each registration comes to something: it is passed by,
its criteria cannot be evaluated, or its watcher is told. A notification that also gives what they
came to (`Site.recount`) is the notification itself (`notify_eq`); its tally sums up those that were
told, and the counters count every one of them and those that could not be evaluated.
-/

namespace LedgerWatch

open Relation (ReflTransGen)
open Program (Within)

/-- Among the watched counters just these were counted. -/
def Metrics.Counts (watched : List Counter) (m : Metrics) (counted : List Counter)
    (m' : Metrics) : Prop :=
  ∀ c ∈ watched, m'.count c = m.count c + counted.count c

namespace Metrics.Counts

variable {watched counted more : List Counter} {m m' m'' : Metrics}

lemma refl (m : Metrics) : Counts watched m [] m :=
  fun _ _ => rfl

lemma trans (h : Counts watched m counted m') (h' : Counts watched m' more m'') :
    Counts watched m (counted ++ more) m'' := by
  intro c mem
  rw [h' c mem, h c mem, List.count_append, Nat.add_assoc]

/-- One counter was counted. -/
lemma increment (watched : List Counter) (m : Metrics) (c : Counter) :
    Counts watched m [c] (m.increment c) := by
  intro d _
  rw [count_increment, List.count_singleton]
  by_cases same : d = c
  · subst same
    simp
  · simp [same, Ne.symm same]

/-- Counting something else. -/
lemma other {c : Counter} (h : c ∉ watched) (m : Metrics) :
    Counts watched m [] (m.increment c) := by
  intro d mem
  have ne : d ≠ c := fun same => h (same ▸ mem)
  rw [count_increment, if_neg ne]
  rfl

end Metrics.Counts

/-- What becomes of offering a block to a registration. -/
inductive Offered where
  /-- The registration is not told. -/
  | passed
  /-- Its criteria could not be evaluated. -/
  | unevaluated (error : LedgerError)
  /-- Its watcher was told. -/
  | told (delivery : Delivery)
deriving DecidableEq

namespace Offered

/-- What is counted. -/
def counters : Offered → List Counter
  | passed => []
  | unevaluated _ => [.notEvaluated]
  | told delivery => [delivery.counter]

/-- How a watcher that was told ended. -/
def delivery? : Offered → Option Delivery
  | told delivery => some delivery
  | _ => none

def isUnevaluated : Offered → Bool
  | unevaluated _ => true
  | _ => false

/-- Each ending has a counter of its own. -/
lemma count_counters (outcomes : List Offered) (delivery : Delivery) :
    (outcomes.flatMap counters).count delivery.counter = outcomes.count (.told delivery) := by
  induction outcomes with
  | nil => rfl
  | cons o rest ih =>
    rw [List.flatMap_cons, List.count_append, ih, List.count_cons, Nat.add_comm]
    refine congrArg _ ?_
    cases o with
    | passed => rfl
    | unevaluated e => cases delivery <;> rfl
    | told other => cases other <;> cases delivery <;> rfl

/-- What could not be evaluated is counted once for each registration. -/
lemma count_notEvaluated (outcomes : List Offered) :
    (outcomes.flatMap counters).count .notEvaluated = outcomes.countP isUnevaluated := by
  induction outcomes with
  | nil => rfl
  | cons o rest ih =>
    rw [List.flatMap_cons, List.count_append, ih, List.countP_cons, Nat.add_comm]
    refine congrArg _ ?_
    cases o with
    | passed => rfl
    | unevaluated e => rfl
    | told other => cases other <;> rfl

end Offered

/-- Adds what a registration came to. -/
def Tally.enter (t : Tally) (o : Offered) : Tally :=
  match o.delivery? with
  | some delivery => t.add delivery
  | none => t

/-- The tally of what registrations came to. -/
def Tally.of (outcomes : List Offered) : Tally :=
  outcomes.foldl .enter {}

/-- How many of the watchers that were told ended in one way. -/
def Tally.number (t : Tally) : Delivery → Nat
  | .rearmed => t.rearmed
  | .optedOut => t.optedOut
  | .failed => t.failed

/-- A tally that goes on adds what the registrations came to. -/
lemma Tally.foldl_enter (t : Tally) (outcomes : List Offered) :
    let sum := outcomes.foldl .enter t
    (∀ delivery, sum.number delivery = t.number delivery + outcomes.count (.told delivery)) ∧
      sum.triggered + (t.rearmed + t.optedOut + t.failed)
        = t.triggered + (sum.rearmed + sum.optedOut + sum.failed) := by
  induction outcomes generalizing t with
  | nil => exact ⟨fun _ => rfl, rfl⟩
  | cons o rest ih =>
    obtain ⟨number, triggered⟩ := ih (t.enter o)
    rw [List.foldl_cons]
    constructor
    · intro delivery
      rw [number, List.count_cons, Nat.add_comm (rest.count _), ← Nat.add_assoc]
      refine congrArg (· + _) ?_
      cases o with
      | passed => rfl
      | unevaluated e => rfl
      | told other => cases other <;> cases delivery <;> rfl
    · generalize rest.foldl Tally.enter (t.enter o) = sum at triggered ⊢
      cases o with
      | passed => exact triggered
      | unevaluated e => exact triggered
      | told other =>
        cases other <;> simp only [enter, Offered.delivery?, add] at triggered <;> omega

/-- A tally has the numbers of those who were told, and their sum. -/
lemma Tally.of_spec (outcomes : List Offered) :
    (∀ delivery, (Tally.of outcomes).number delivery = outcomes.count (.told delivery)) ∧
      (Tally.of outcomes).triggered
        = (Tally.of outcomes).rearmed + (Tally.of outcomes).optedOut
          + (Tally.of outcomes).failed := by
  obtain ⟨number, triggered⟩ := Tally.foldl_enter {} outcomes
  refine ⟨fun delivery => ?_, ?_⟩
  · have none : ({} : Tally).number delivery = 0 := by cases delivery <;> rfl
    have sum := number delivery
    rwa [none, Nat.zero_add] at sum
  · change (outcomes.foldl Tally.enter {}).triggered + 0 = 0 + _ at triggered
    rwa [Nat.add_zero, Nat.zero_add] at triggered

namespace Site

variable {W σ : Type} [Inhabited σ]

/-- Offers a block to a registration, and tells what became of it. -/
def recountOffer (s : Site W σ) (b : Block) (h : Handle) : Program W Offered := do
  if !(← s.isLive h) then return .passed
  else
    match ← (← s.registration h).criteria.triggeredBy s.ledger b with
    | .error e =>
      s.count .notEvaluated
      return .unevaluated e
    | .ok false => return .passed
    | .ok true =>
      if !(← s.isLive h) then return .passed
      else
        let delivery ← s.dispatch h b.id
        s.count delivery.counter
        return .told delivery

/-- Offers a block to registrations one after another, and tells what became of each. -/
def recountOffers (s : Site W σ) (b : Block) : List Handle → Program W (List Offered)
  | [] => return []
  | h :: rest => do
    let outcome ← s.recountOffer b h
    return outcome :: (← recountOffers s b rest)

/-- Notifies every registration of a block, and tells what became of each. -/
def recount (s : Site W σ) (b : Block) : Program W (Except RegistryError (List Offered)) := do
  match ← Program.act s.registry Registry.beginNotify with
  | .error e => return .error e
  | .ok handles => return .ok (← s.recountOffers b handles)

open Program (bind_eq_bind)

/-- A block is offered the same whether it is told what became of it or not. -/
lemma offer_eq (s : Site W σ) (b : Block) (h : Handle) :
    s.offer b h = (s.recountOffer b h).bind fun o => .done o.delivery? := by
  refine bind_eq_bind fun live => ?_
  cases live with
  | false => rfl
  | true =>
    refine bind_eq_bind fun reg => ?_
    refine bind_eq_bind fun triggered => ?_
    rcases triggered with e | _ | _
    · exact bind_eq_bind fun _ => rfl
    · rfl
    · refine bind_eq_bind fun live => ?_
      cases live with
      | false => rfl
      | true =>
        refine bind_eq_bind fun delivery => ?_
        exact bind_eq_bind fun _ => rfl

/-- Blocks are offered the same whether it is told what became of them or not. -/
lemma fanOut_eq (s : Site W σ) (b : Block) (tally : Tally) (handles : List Handle) :
    s.fanOut b tally handles
      = (s.recountOffers b handles).bind fun os => .done (os.foldl .enter tally) := by
  induction handles generalizing tally with
  | nil => rfl
  | cons h rest ih =>
    rw [fanOut, recountOffers, offer_eq]
    simp only [Program.bind_eq, Program.pure_eq, Program.bind_assoc, Program.bind]
    refine congrArg _ (funext fun outcome => ?_)
    cases outcome with
    | passed => exact ih tally
    | unevaluated e => exact ih tally
    | told delivery => exact ih (tally.add delivery)

/-- A notification gives the tally of what the registrations came to. -/
lemma notify_eq (s : Site W σ) (b : Block) :
    s.notify b = (s.recount b).bind fun answer => .done (answer.map Tally.of) := by
  refine bind_eq_bind fun answer => ?_
  cases answer with
  | error e => rfl
  | ok handles =>
    have sums := fanOut_eq s b {} handles
    simp only [Program.bind_eq, Program.pure_eq, sums, Program.bind_assoc, Program.bind]
    rfl

/-- What the registrations came to accounts for what was counted of them. -/
def tallies (s : Site W σ) : Account W Offered where
  holds w outcomes v :=
    Metrics.Counts Counter.tellings (s.metrics.get w) (outcomes.flatMap Offered.counters)
      (s.metrics.get v)
  refl w := .refl _
  trans first second := by
    rw [List.flatMap_append]
    exact first.trans second

section

variable {s : Site W σ} {E : W → W → Prop} {w : W} (hs : s.Heeds s.tallies.Idle)
  (others : ∀ w v, E w v → s.tallies.Idle w v)

omit [Inhabited σ] in
/-- Nothing is counted of a registration that is not told. -/
lemma tallies_passed {v : W} (idle : s.tallies.Idle w v) : s.tallies.holds w [.passed] v :=
  idle

include others

omit [Inhabited σ] in
/-- What is counted of a registration is accounted for by what it came to. -/
lemma ensures_counted {o : Offered} {c : Counter} (one : o.counters = [c]) {u : W}
    (idle : s.tallies.Idle w u) :
    ((s.count c).bind fun _ => .done o).Ensures E u fun o v => s.tallies.holds w [o] v := by
  have counted (v : W) : s.tallies.holds v [o] (s.metrics.modify (Metrics.increment c) v) := by
    change Metrics.Counts _ _ _ _
    rw [List.flatMap_singleton, one, s.metrics.get_modify]
    exact .increment _ _ c
  exact Account.ensures_last others counted idle fun _ h => h

include hs

/-- What becomes of offering a block is counted. -/
lemma recountOffer_ensures (b : Block) (h : Handle) :
    (s.recountOffer b h).Ensures E w fun o v => s.tallies.holds w [o] v := by
  refine .bind ((Account.ensures_idle others (hs.isLive h)).mono fun live u idle => ?_)
  cases live with
  | false => exact Account.ensures_done others (tallies_passed idle) fun _ h => h
  | true =>
    refine .bind ((Account.ensures_idle others (hs.registration h)).mono fun reg x idle' => ?_)
    replace idle := s.tallies.then_idle idle idle'
    refine .bind ((Account.ensures_idle others (hs.triggeredBy _ b)).mono
      fun triggered y idle' => ?_)
    replace idle := s.tallies.then_idle idle idle'
    rcases triggered with e | _ | _
    · exact ensures_counted others rfl idle
    · exact Account.ensures_done others (tallies_passed idle) fun _ h => h
    · refine .bind ((Account.ensures_idle others (hs.isLive h)).mono fun live z idle' => ?_)
      replace idle := s.tallies.then_idle idle idle'
      cases live with
      | false => exact Account.ensures_done others (tallies_passed idle) fun _ h => h
      | true =>
        refine .bind ((Account.ensures_idle others (hs.dispatch h b.id)).mono
          fun delivery z idle' => ?_)
        exact ensures_counted others rfl (s.tallies.then_idle idle idle')

/-- What becomes of offering a block to registrations in turn is counted. -/
lemma recountOffers_ensures (b : Block) (handles : List Handle) :
    (s.recountOffers b handles).Ensures E w fun os v => s.tallies.holds w os v := by
  induction handles generalizing w with
  | nil => exact Account.ensures_done others (s.tallies.refl w) fun _ h => h
  | cons h rest ih =>
    refine .bind ((recountOffer_ensures hs others b h).mono fun o u first => ?_)
    refine .bind (ih.mono fun os v second => ?_)
    exact Account.ensures_done others (s.tallies.trans first second) fun _ h => h

/-- What becomes of a notification is counted. -/
lemma recount_ensures (b : Block) :
    (s.recount b).Ensures E w fun answer v =>
      ∀ outcomes, answer = .ok outcomes → s.tallies.holds w outcomes v := by
  have begins : (Program.act s.registry Registry.beginNotify).Within s.tallies.Idle :=
    hs.act .beginNotify rfl fun _ => rfl
  refine .bind ((Account.ensures_idle others begins).mono fun answer u idle => ?_)
  cases answer with
  | error e => exact .done fun _ _ _ same => nomatch same
  | ok handles =>
    refine .bind ((recountOffers_ensures hs others b handles).mono fun os v holds => ?_)
    refine Account.ensures_done others (s.tallies.idle_then idle holds)
      fun v holds outcomes same => ?_
    obtain rfl := Except.ok.inj same
    exact holds

end

/-- A tally is that of what the registrations came to. -/
lemma notify_recounted {s : Site W σ} {E : W → W → Prop} {w v : W} {b : Block} {tally : Tally}
    (ends : (s.notify b).Ends E w (.ok tally) v) :
    ∃ outcomes, (s.recount b).Ends E w (.ok outcomes) v ∧ tally = .of outcomes := by
  rw [notify_eq] at ends
  obtain ⟨answer, ends, same⟩ := ends.of_map
  cases answer with
  | error e => cases same
  | ok outcomes => exact ⟨outcomes, ends, (Except.ok.inj same).symm⟩

end Site

end LedgerWatch
