import LedgerWatch.Proofs.Registry.Keeping
import LedgerWatch.Proofs.Registry.Listener

/-!
# Audiences

An audience is a site whose watchers are listeners. It is detached when nobody but the registry
itself touches the registry: a listener that is called replies and leaves everything else alone, the
ledger answers by the transaction only, and the counters stand aside. Then a notification takes
every registration that is kept one step further, each on its own, and calls them in the order of
their names.
-/

namespace LedgerWatch

namespace Registry

variable {σ : Type} [Inhabited σ] {r r' r'' : Registry σ} {h k : Handle}
  {f : Registration σ → Registration σ}

/-- A change that concerns one registration only. -/
structure Alters (h : Handle) (r r' : Registry σ) : Prop where
  others : ∀ k, k ≠ h → r'.get k = r.get k
  next : r'.nextHandle = r.nextHandle
  phase : r'.phase = r.phase
  sound : r.Sound → r'.Sound

lemma Alters.refl (r : Registry σ) : r.Alters h r :=
  ⟨fun _ _ => rfl, rfl, rfl, id⟩

lemma Alters.trans (a : Alters h r r') (b : Alters h r' r'') : Alters h r r'' where
  others k ne := (b.others k ne).trans (a.others k ne)
  next := b.next.trans a.next
  phase := b.phase.trans a.phase
  sound hr := b.sound (a.sound hr)

lemma Alters.amend (hname : ∀ reg, (f reg).name = reg.name)
    (hstatus : ∀ reg, (f reg).status = reg.status) (h : Handle) (r : Registry σ) :
    Alters h r (r.amend h f) where
  others _ ne := get_amend_of_ne ne
  next := nextHandle_amend
  phase := rfl
  sound hr := hr.amend hname hstatus h

lemma Alters.cancel (h : Handle) (r : Registry σ) : Alters h r (r.cancel h) where
  others _ ne := get_cancel_of_ne ne
  next := nextHandle_cancel
  phase := cancel_phase
  sound hr := hr.cancel h

/-- A watcher was told something and left a state behind. -/
def told (h : Handle) (watcher : σ) (r : Registry σ) : Registry σ :=
  (r.setBusy h true).release h watcher

lemma Alters.told (h : Handle) (watcher : σ) (r : Registry σ) : Alters h r (r.told h watcher) :=
  .trans (.amend (f := fun reg => { reg with busy := true }) (fun _ => rfl) (fun _ => rfl) h r)
    (.amend (f := fun reg => { reg with watcher, busy := false }) (fun _ => rfl) (fun _ => rfl) h _)

/-- The state that a watcher left behind is taken back. -/
lemma get_told (made : h < r.nextHandle) (watcher : σ) :
    (r.told h watcher).get h = { r.get h with watcher, busy := false } := by
  have marked : (r.setBusy h true).get h = { r.get h with busy := true } := get_amend_self made
  have made' : h < (r.setBusy h true).nextHandle := by
    rw [setBusy, nextHandle_amend]
    exact made
  have left := get_amend_self (f := fun reg : Registration σ => { reg with watcher, busy := false })
    made'
  rw [marked] at left
  exact left

end Registry

namespace Site

variable {W σ : Type} [Inhabited σ]

/-- A watcher that is not waited for is acquired at once. -/
@[simp] lemma run_acquire (s : Site W σ) (h : Handle) (w : W) :
    (s.acquire h).run w = ((), s.registry.modify (Registry.setBusy h true) w) := by
  simp only [acquire, registration, Program.bind_eq, Program.run_bind, Program.run_look,
    Program.pure_eq, Program.run_done]
  split <;> rfl

/-- By itself, a program of a watcher runs at once, with its registration marked meanwhile. -/
lemma run_perform {α : Type} (s : Site W σ) (h : Handle) (f : Registration σ → Program W (α × σ))
    (w : W) :
    (s.perform h f).run w =
      let marked := s.registry.modify (Registry.setBusy h true) w
      let ended := (f ((s.registry.get marked).get h)).run marked
      (ended.1.1, s.registry.modify (Registry.release h ended.1.2) ended.2) := by
  simp [perform, registration]

/-- What the reply of a watcher does to the world. -/
def heed (s : Site W σ) (h : Handle) (w : W) : Except WatcherError (Option Criteria) → W
  | .error _ => w
  | .ok none => s.registry.modify (Registry.cancel h) w
  | .ok (some next) =>
    if next.Valid then s.registry.modify (Registry.setCriteria h next) w else w

/-- A watcher is told about a block, and its reply is heeded. -/
lemma run_dispatch (s : Site W σ) (h : Handle) (b : BlockId) (w : W) :
    ((s.dispatch h b).run w).2 =
      let told := (s.notifyWatcher h b ((s.registry.get w).get h).criteria).run w
      s.heed h told.2 told.1 := by
  simp only [dispatch, registration, Program.bind_eq, Program.run_bind, Program.run_look,
    Program.pure_eq, Program.run_done]
  rcases ((s.notifyWatcher h b ((s.registry.get w).get h).criteria).run w).1 with e | _ | next
  · rfl
  · rfl
  · by_cases valid : next.Valid
    · have ok : next.validate = .ok next := Criteria.validate_eq_ok_iff.2 ⟨valid, rfl⟩
      simp [heed, ok, valid]
    · cases answer : next.validate with
      | error e => simp [heed, answer, valid]
      | ok d => exact absurd (Criteria.validate_eq_ok_iff.1 answer).1 valid

/-- What becomes of the world once it is decided whether a registration is to be told of a block. -/
def decided (s : Site W σ) (b : Block) (h : Handle) (w : W) : Except LedgerError Bool → W
  | .error _ => s.metrics.modify (Metrics.increment .notEvaluated) w
  | .ok satisfied =>
    if satisfied && (s.registry.get w).isLive h then
      let told := (s.dispatch h b.id).run w
      s.metrics.modify (Metrics.increment told.1.counter) told.2
    else w

/-- A block is offered to an active registration, and it is decided whether to tell it. -/
lemma run_offer (s : Site W σ) (b : Block) (h : Handle) (w : W) :
    ((s.offer b h).run w).2 =
      if (s.registry.get w).isLive h then
        let asked := (((s.registry.get w).get h).criteria.triggeredBy s.ledger b).run w
        s.decided b h asked.2 asked.1
      else w := by
  simp only [offer, isLive, registration, count, Program.bind_eq, Program.run_bind,
    Program.run_look, Program.pure_eq, Program.run_done]
  cases (s.registry.get w).isLive h with
  | false => rfl
  | true =>
    simp only [Bool.not_true, Bool.false_eq_true, if_false, if_true, Program.run_bind,
      Program.run_look, Program.run_done]
    rcases (((s.registry.get w).get h).criteria.triggeredBy s.ledger b).run w with ⟨e | _ | _, u⟩
    · rfl
    · rfl
    · simp only [decided, Program.run_bind, Program.run_look, Program.run_done]
      cases (s.registry.get u).isLive h with
      | false => rfl
      | true => simp

end Site

/-- A site of listeners, the calls that were made to them so far, and what the ledger answers. -/
structure Audience (W : Type) where
  site : Site W Listener
  calls : W → List (Listener × Call)
  answers : W → Answers

namespace Audience

variable {W : Type} {a : Audience W} {w v : W}

/-- Nothing happens that concerns the audience. -/
structure Rests (a : Audience W) (w v : W) : Prop where
  registry : a.site.registry.get v = a.site.registry.get w
  calls : a.calls v = a.calls w
  answers : a.answers v = a.answers w

/-- A registration takes its step in a round, and nothing else happens. -/
structure Takes (a : Audience W) (round : Round) (h : Handle) (w v : W) : Prop where
  alters : Registry.Alters h (a.site.registry.get w) (a.site.registry.get v)
  step : (a.site.registry.get v).get h = ((a.site.registry.get w).get h).step round
  calls : a.calls v = a.calls w ++ round.calls [(a.site.registry.get w).get h]
  answers : a.answers v = a.answers w

/--
Listeners reply by what they have heard and act on nothing, every call to one is written down, the
ledger answers by the transaction, and the counters and the registry stand beside everything else.
-/
structure Detached (a : Audience W) : Prop where
  reply : ∀ l block c w, ((a.site.behaviour.notify l block c).run w).1
    = (l.reply (l.heard ++ [⟨block, c⟩]), l.hear ⟨block, c⟩)
  registry : ∀ l block c w,
    a.site.registry.get ((a.site.behaviour.notify l block c).run w).2 = a.site.registry.get w
  calls : ∀ l block c w, a.calls ((a.site.behaviour.notify l block c).run w).2
    = a.calls w ++ [(l, ⟨block, c⟩)]
  answers : ∀ l block c w,
    a.answers ((a.site.behaviour.notify l block c).run w).2 = a.answers w
  ledger : ∀ id w, ((a.site.ledger.transaction? id).run w).1 = a.answers w id
  ledger_rests : ∀ id w, a.Rests w ((a.site.ledger.transaction? id).run w).2
  metrics_rests : ∀ m w, a.Rests w (a.site.metrics.set m w)
  registry_calls : ∀ r w, a.calls (a.site.registry.set r w) = a.calls w
  registry_answers : ∀ r w, a.answers (a.site.registry.set r w) = a.answers w

lemma Rests.refl (w : W) : a.Rests w w :=
  ⟨rfl, rfl, rfl⟩

lemma Rests.trans {u : W} (h : a.Rests u w) (k : a.Rests w v) : a.Rests u v :=
  ⟨k.registry.trans h.registry, k.calls.trans h.calls, k.answers.trans h.answers⟩

/-- A registration that is not called takes its step when nothing happens. -/
lemma Takes.of_rests {round : Round} {h : Handle} (rests : a.Rests w v)
    (no : ((a.site.registry.get w).get h).called round = false) : a.Takes round h w v := by
  constructor
  case alters =>
    rw [rests.registry]
    exact .refl _
  case step => rw [rests.registry, Registration.step_of_not_called no]
  case calls =>
    rw [rests.calls, Round.calls_singleton, no, if_neg Bool.false_ne_true, List.append_nil]
  case answers => exact rests.answers

/-- The round in which a block is notified in a world. -/
def round (a : Audience W) (b : Block) (w : W) : Round :=
  ⟨b, a.answers w⟩

namespace Detached

variable (ha : a.Detached)

include ha

/-- Looking for another state asks the ledger and leaves the audience at rest. -/
lemma anyLeavesOtherState (state : Int32) (txs : List Transaction) (w : W) :
    ((LedgerWatch.anyLeavesOtherState a.site.ledger state txs).run w).1
        = (a.answers w).anyOtherState state txs ∧
      a.Rests w ((LedgerWatch.anyLeavesOtherState a.site.ledger state txs).run w).2 := by
  induction txs generalizing w with
  | nil => exact ⟨rfl, .refl w⟩
  | cons tx rest ih =>
    have answer := ha.ledger tx.id w
    have rests := ha.ledger_rests tx.id w
    simp only [LedgerWatch.anyLeavesOtherState, Program.bind_eq, Program.run_bind,
      Answers.anyOtherState]
    rw [answer]
    cases a.answers w tx.id with
    | error e => exact ⟨rfl, rests⟩
    | ok recorded =>
      cases other : leavesOtherState state recorded with
      | true =>
        simp only [other, if_true]
        exact ⟨rfl, rests⟩
      | false =>
        simp only [other, Bool.false_eq_true, if_false]
        obtain ⟨result, rests'⟩ := ih ((a.site.ledger.transaction? tx.id).run w).2
        rw [rests.answers] at result
        exact ⟨result, rests.trans rests'⟩

/-- Whether a criteria is satisfied is decided by the block and the answers of the ledger. -/
lemma triggeredBy (c : Criteria) (b : Block) (w : W) :
    ((c.triggeredBy a.site.ledger b).run w).1 = (a.round b w).satisfies c ∧
      a.Rests w ((c.triggeredBy a.site.ledger b).run w).2 := by
  unfold Criteria.triggeredBy Round.satisfies
  cases c.interest with
  | artifactState expected => exact ha.anyLeavesOtherState _ _ w
  | _ => exact ⟨rfl, .refl w⟩

/-- A listener is called: it replies and goes on with one more call heard. -/
lemma notifyWatcher (h : Handle) (b : BlockId) (c : Criteria) (w : W) :
    let r := a.site.registry.get w
    let l := (r.get h).watcher
    ∃ v, (a.site.notifyWatcher h b c).run w = (l.reply (l.heard ++ [⟨b, c⟩]), v) ∧
      a.site.registry.get v = r.told h (l.hear ⟨b, c⟩) ∧
      a.calls v = a.calls w ++ [(l, ⟨b, c⟩)] ∧ a.answers v = a.answers w := by
  intro r l
  let marked := a.site.registry.modify (Registry.setBusy h true) w
  have registry : a.site.registry.get marked = r.setBusy h true := a.site.registry.get_modify _ w
  -- marking the registration does not change its listener
  have listener : ((a.site.registry.get marked).get h).watcher = l := by
    rw [registry]
    exact Registry.field_get_amend
      (f := fun reg : Registration Listener => { reg with busy := true })
      Registration.watcher (fun _ => rfl) r h h
  have reply := ha.reply l b c marked
  have run := Site.run_perform a.site h
    (fun reg => a.site.behaviour.notify reg.watcher b c) w
  simp only at run
  rw [listener, reply] at run
  refine ⟨_, run, ?_, ?_, ?_⟩
  · rw [a.site.registry.get_modify, ha.registry, registry]
    rfl
  · rw [Part.modify, ha.registry_calls, ha.calls]
    exact congrArg (· ++ _) (ha.registry_calls _ w)
  · rw [Part.modify, ha.registry_answers, ha.answers]
    exact ha.registry_answers _ w

/-- A registration that is called makes one call and takes one step; the others stay as they are. -/
lemma dispatch {h : Handle} (w : W) (live : (a.site.registry.get w).isLive h = true) (b : BlockId) :
    let r := a.site.registry.get w
    let call : Call := ⟨b, (r.get h).criteria⟩
    let v := ((a.site.dispatch h b).run w).2
    Registry.Alters h r (a.site.registry.get v) ∧
      (a.site.registry.get v).get h = (r.get h).answered call ∧
      a.calls v = a.calls w ++ [((r.get h).watcher, call)] ∧ a.answers v = a.answers w := by
  intro r call v
  obtain ⟨u, run, registry, calls, answers⟩ := ha.notifyWatcher h b (r.get h).criteria w
  let l := (r.get h).watcher
  have made := Registry.lt_of_isLive live
  have alters : Registry.Alters h r (a.site.registry.get u) := by
    rw [registry]
    exact .told h (l.hear call) r
  have here : (a.site.registry.get u).get h
      = { r.get h with watcher := l.hear call, busy := false } := by
    rw [registry]
    exact Registry.get_told made (l.hear call)
  have live' : (a.site.registry.get u).isLive h = true := by
    simp only [Registry.isLive, here]
    exact live
  have ended := a.site.run_dispatch h b w
  rw [run] at ended
  simp only [v]
  rw [ended]
  simp only [Registration.answered]
  rcases l.reply (l.heard ++ [call]) with e | _ | next
  · exact ⟨alters, here, calls, answers⟩
  · refine ⟨?_, ?_, ?_, ?_⟩
    · rw [Site.heed, a.site.registry.get_modify]
      exact alters.trans (.cancel h _)
    · rw [Site.heed, a.site.registry.get_modify, Registry.get_cancel_self live', here]
    · exact (ha.registry_calls _ u).trans calls
    · exact (ha.registry_answers _ u).trans answers
  · by_cases valid : next.Valid
    · simp only [Site.heed, if_pos valid]
      refine ⟨?_, ?_, ?_, ?_⟩
      · rw [a.site.registry.get_modify]
        exact alters.trans (.amend (f := fun reg => { reg with criteria := next })
          (fun _ => rfl) (fun _ => rfl) h _)
      · rw [a.site.registry.get_modify, Registry.setCriteria,
          Registry.get_amend_self (Registry.lt_of_isLive live'), here]
      · exact (ha.registry_calls _ u).trans calls
      · exact (ha.registry_answers _ u).trans answers
    · simp only [Site.heed, if_neg valid]
      exact ⟨alters, here, calls, answers⟩

/-- A registration that is called in a round takes its step. -/
lemma told {b : Block} {h : Handle} {u : W} (rests : a.Rests w u)
    (live : (a.site.registry.get w).isLive h = true)
    (called : ((a.site.registry.get w).get h).called (a.round b w) = true) :
    a.Takes (a.round b w) h w (a.site.decided b h u (.ok true)) := by
  have live' : (a.site.registry.get u).isLive h = true := by
    rw [rests.registry]
    exact live
  have counted : a.site.decided b h u (.ok true)
      = a.site.metrics.modify _ ((a.site.dispatch h b.id).run u).2 := if_pos live'
  obtain ⟨alters, stepped, calls, answers⟩ := ha.dispatch u live' b.id
  have aside m := ha.metrics_rests m ((a.site.dispatch h b.id).run u).2
  rw [rests.registry] at alters stepped calls
  rw [counted, Part.modify]
  constructor
  case alters =>
    rw [(aside _).registry]
    exact alters
  case step =>
    rw [(aside _).registry, stepped, Registration.step, if_pos called]
    rfl
  case calls =>
    rw [(aside _).calls, calls, rests.calls, Round.calls_singleton, if_pos called]
    rfl
  case answers => rw [(aside _).answers, answers, rests.answers]

/-- A registration that is offered a block takes its step. -/
lemma offer (b : Block) (h : Handle) (w : W) :
    a.Takes (a.round b w) h w ((a.site.offer b h).run w).2 := by
  let r := a.site.registry.get w
  obtain ⟨decision, rests⟩ := ha.triggeredBy (r.get h).criteria b w
  rw [a.site.run_offer b h w]
  cases live : r.isLive h with
  | false =>
    rw [if_neg Bool.false_ne_true]
    apply Takes.of_rests (.refl w)
    apply Registration.not_called
    cases status : (r.get h).status with
    | active => simp [Registry.isLive, status] at live
    | cancelled => rfl
  | true =>
    rw [if_pos rfl]
    show a.Takes _ h w (a.site.decided b h _ _)
    rw [decision]
    have active : (r.get h).status = .active := by simpa [Registry.isLive] using live
    cases here : (a.round b w).satisfies (r.get h).criteria with
    | error e =>
      exact .of_rests (rests.trans (ha.metrics_rests _ _)) (Registration.not_called_of_error here)
    | ok satisfied =>
      have called := Registration.called_of_ok active here
      cases satisfied with
      | false => exact .of_rests rests called
      | true => exact ha.told rests live called

/-- Registrations that are offered a block take their steps, each on its own, one after another. -/
lemma fanOut (b : Block) (handles : List Handle) (nodup : handles.Nodup) (tally : Tally) (w : W) :
    let r := a.site.registry.get w
    let round := a.round b w
    let v := ((a.site.fanOut b tally handles).run w).2
    (∀ k, (a.site.registry.get v).get k
        = if k ∈ handles then (r.get k).step round else r.get k) ∧
      (a.site.registry.get v).phase = r.phase ∧
      (r.Sound → (a.site.registry.get v).Sound) ∧
      a.calls v = a.calls w ++ round.calls (handles.map r.get) ∧ a.answers v = a.answers w := by
  induction handles generalizing tally w with
  | nil =>
    intro r round v
    have same : v = w := rfl
    rw [same]
    exact ⟨fun k => by simp [r], rfl, id, by simp [Round.calls], rfl⟩
  | cons h rest ih =>
    intro r round v
    obtain ⟨fresh, nodup⟩ := List.nodup_cons.1 nodup
    obtain ⟨alters, stepped, calls, answers⟩ := ha.offer b h w
    let u := ((a.site.offer b h).run w).2
    have later : ∃ tally', v = ((a.site.fanOut b tally' rest).run u).2 := by
      simp only [v, Site.fanOut, Program.bind_eq, Program.run_bind]
      cases ((a.site.offer b h).run w).1 with
      | none => exact ⟨tally, rfl⟩
      | some delivery => exact ⟨tally.add delivery, rfl⟩
    obtain ⟨tally', later⟩ := later
    obtain ⟨others, phase, sound, calls', answers'⟩ := ih nodup tally' u
    -- an offer leaves the answers of the ledger alone, so the rest is in the same round
    have round' : a.round b u = round := by
      simp only [Audience.round, round, u, answers]
    rw [round'] at others calls'
    rw [later]
    refine ⟨fun k => ?_, phase.trans alters.phase, fun hr => sound (alters.sound hr), ?_, ?_⟩
    · rw [others k]
      by_cases same : k = h
      · subst same
        rw [if_neg fresh, if_pos List.mem_cons_self]
        exact stepped
      · rw [alters.others k same]
        simp [same, r]
    · rw [calls', calls]
      have kept : rest.map (a.site.registry.get u).get = rest.map r.get := by
        apply List.map_congr_left
        intro k mem
        exact alters.others k fun same => fresh (same ▸ mem)
      rw [kept, List.map_cons, round.calls_cons (r.get h) (rest.map r.get), List.append_assoc]
    · rw [answers', answers]

/-- A notification takes every registration one step further and calls who is kept by name. -/
lemma notify {w : W} (sound : (a.site.registry.get w).Sound)
    (active : (a.site.registry.get w).phase = .active) (b : Block) :
    let r := a.site.registry.get w
    let round := a.round b w
    let v := ((a.site.notify b).run w).2
    (∀ k, (a.site.registry.get v).get k = (r.get k).step round) ∧
      (a.site.registry.get v).phase = .active ∧ (a.site.registry.get v).Sound ∧
      a.calls v = a.calls w ++ round.calls (r.settle.members.values.map r.get) ∧
      a.answers v = a.answers w := by
  intro r round v
  let u := a.site.registry.set r.settle w
  have registry : a.site.registry.get u = r.settle := a.site.registry.get_set _ w
  have round' : a.round b u = round := by
    simp only [Audience.round, round, u, ha.registry_answers]
  have run : v = ((a.site.fanOut b {} r.settle.members.values).run u).2 := by
    have begun := Registry.beginNotify_fst r
    rw [if_pos active] at begun
    simp only [v, Site.notify, Program.bind_eq, Program.run_bind, Program.run_act,
      Registry.beginNotify_snd]
    rw [begun]
    simp only [Program.run_bind, Program.pure_eq, Program.run_done]
    rfl
  obtain ⟨steps, phase, sound', calls, answers⟩ := ha.fanOut b _ sound.handles_nodup {} u
  rw [registry, round'] at steps calls
  rw [registry] at phase sound'
  rw [run]
  have stillActive := phase.trans (Registry.settle_phase.trans active)
  refine ⟨fun k => ?_, stillActive, sound' sound.settle, ?_, ?_⟩
  · rw [steps k, Registry.settle_get]
    split
    · rfl
    · rename_i absent
      -- who is not kept is not active, and is not called
      have cancelled : (r.get k).status = .cancelled := by
        cases status : (r.get k).status with
        | cancelled => rfl
        | active =>
          have live : r.isLive k = true := by simp [Registry.isLive, status]
          exact absurd (sound.mem_handles.2 live) absent
      exact (Registration.step_of_not_called (Registration.not_called cancelled)).symm
  · rw [calls]
    have same : r.settle.get = r.get := funext fun k => Registry.settle_get
    rw [same]
    exact congrArg (· ++ _) (ha.registry_calls _ w)
  · exact answers.trans (ha.registry_answers _ w)

end Detached

end Audience

end LedgerWatch
