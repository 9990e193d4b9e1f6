import LedgerWatch.Proofs.Registry.Attendance

/-!
# What a notification hears

A notification at a lodge tells watchers about a block one after another and counts their replies.
In between it asks the ledger, and a watcher that is told may do whatever acts at the lodge. The
programs of a notification are taken one by one, as those of a start are; what the ledger writes is
of some kind, which stays that kind when it is appended.
-/

namespace LedgerWatch

open Registry (Operation)

namespace Lodge

variable {W σ : Type} [Inhabited σ] {l : Lodge W σ} {v w : W} {h : Handle}

/-- Counting leaves the lodge alone. -/
def Aside (l : Lodge W σ) (metrics : Part W Metrics) : Prop :=
  ∀ m w, l.Rests w (metrics.set m w)

/-- A watcher was told about a block and replied. -/
def Tells (l : Lodge W σ) (h : Handle) (reply : Reply) (w v : W) : Prop :=
  ∃ block c d, Diary.Balanced d ∧
    l.diary.get v = l.diary.get w ++ (.told h block c :: d ++ [.replied h reply])

/-- Watchers were told about a block one after another, and replied. -/
def Fans (l : Lodge W σ) (kind : Diary → Prop) (replies : List Reply) (w v : W) : Prop :=
  l.Adds (Diary.Fan kind replies) w v

omit [Inhabited σ] in
lemma Tells.fans {kind : Diary → Prop} {reply : Reply} (t : l.Tells h reply w v) :
    l.Fans kind [reply] w v := by
  obtain ⟨block, c, d, balanced, diary⟩ := t
  exact ⟨_, .call h block c reply balanced .nil, by rw [List.append_nil, diary]⟩

section Notifying

variable {metrics : Part W Metrics} {ledger : LedgerReads W} {conduct : Handle → Behaviour W σ}
  {kind : Diary → Prop}
  (nil : kind []) (append : ∀ d e, kind d → kind e → kind (d ++ e))
  (haside : l.Aside metrics)
  (hledger : ∀ id w, l.InOrder w →
    (ledger.transaction? id).Runs l.Leads w fun _ v => l.Adds kind w v)
  (hnotify : ∀ h x block c w, l.InOrder w →
    ((conduct h).notify x block c).Runs l.Leads w fun _ v => l.Adds Diary.Balanced w v)

/-- A watcher may be told: its registration is active, and the registry has been opened. -/
def Tellable (l : Lodge W σ) (h : Handle) (w : W) : Prop :=
  (l.registry.get w).isLive h = true ∧ (l.registry.get w).phase ≠ .idle

include hnotify in
/-- A watcher is told about a block: it writes that down, and what it replies. -/
lemma runs_notifyWatcher (o : l.InOrder w) (tellable : l.Tellable h w) (block : BlockId)
    (c : Criteria) : ((l.site metrics ledger conduct).notifyWatcher h block c).Runs l.Leads w
      fun reply v => l.Tells h reply w v := by
  refine (runs_perform (Q := fun reply v => l.Tells h reply w v) ?_).mono ?_
  · intro u does leads
    have made := Nat.lt_of_lt_of_le (Registry.lt_of_isLive tellable.1) leads.later.next
    have quiet : l.diary.get u = l.diary.get w := does.quiet rfl
    have live : (l.registry.get u).isLive h = true := by
      have same := Registry.field_get_amend (f := fun reg => { reg with busy := true })
        Registration.status (fun _ => rfl) (l.registry.get w) h h
      rw [does.registry, Operation.apply, Registry.setBusy, Registry.isLive, same]
      exact tellable.1
    have active : (l.registry.get u).phase ≠ .idle := fun idle => tellable.2 (leads.idle idle)
    have badge := (leads.order o).badges h made
    generalize (l.registry.get u).get h = reg at badge
    subst badge
    refine Program.Runs.bind (runs_note (e := .told reg.watcher.handle block c) ⟨live, active⟩)
      fun _ u₁ leads₁ told => ?_
    refine Program.Runs.bind (hnotify _ _ _ _ _ (leads₁.order (leads.order o))) ?_
    rintro ⟨reply, x⟩ u₂ leads₂ ⟨d, balanced, diary⟩
    refine Program.Runs.bind (runs_note trivial) fun _ v _ replied => ?_
    refine ⟨rfl, block, c, d, balanced, ?_⟩
    rw [replied.diary, diary, told.diary, quiet]
    simp
  · rintro reply v - ⟨u, x, ⟨block, c, d, balanced, diary⟩, release⟩
    exact ⟨block, c, d, balanced, (release.quiet rfl).trans diary⟩

include hnotify in
/-- A watcher that is told about a block counts by its reply, whatever it has done meanwhile. -/
lemma runs_dispatch (o : l.InOrder w) (tellable : l.Tellable h w) (block : BlockId) :
    ((l.site metrics ledger conduct).dispatch h block).Runs l.Leads w fun delivery v =>
      ∃ reply, delivery = .ofReply reply ∧ l.Tells h reply w v := by
  refine Program.Runs.bind (runs_registration (Q := fun _ v => w = v) rfl) ?_
  rintro reg _ - rfl
  refine Program.Runs.bind (runs_notifyWatcher hnotify o tellable block reg.criteria) ?_
  intro reply v leads tells
  -- what is done about the reply is not written down
  have afterwards {op : Operation (Badged σ)} {v' : W} (quiet : op.enrols (l.registry.get v) = [])
      (does : l.Does op v v') : l.Tells h reply w v' := by
    obtain ⟨block, c, d, balanced, diary⟩ := tells
    exact ⟨block, c, d, balanced, (does.quiet quiet).trans diary⟩
  rcases reply with e | _ | next
  · exact ⟨_, rfl, tells⟩
  · refine Program.Runs.bind (runs_operate (.cancel h) (fun _ => rfl) (fun _ => rfl) trivial
      nofun) fun _ v' _ does => ?_
    exact ⟨_, rfl, afterwards rfl does⟩
  · cases valid : next.validate with
    | error e =>
      simp only [valid]
      refine ⟨_, ?_, tells⟩
      have invalid : ¬next.Valid := by
        intro isValid
        rw [Criteria.validate_eq_ok_iff.2 ⟨isValid, rfl⟩] at valid
        cases valid
      exact (if_neg invalid).symm
    | ok next' =>
      obtain ⟨isValid, rfl⟩ := Criteria.validate_eq_ok_iff.1 valid
      simp only [valid]
      refine Program.Runs.bind (runs_operate (.setCriteria h next') (fun _ => rfl)
        (fun _ => rfl) trivial nofun) fun _ v' _ does => ?_
      exact ⟨_, (if_pos isValid).symm, afterwards rfl does⟩

include nil append hledger in
lemma runs_anyLeavesOtherState (o : l.InOrder w) (state : Int32) (txs : List Transaction) :
    (anyLeavesOtherState ledger state txs).Runs l.Leads w fun _ v => l.Adds kind w v := by
  induction txs generalizing w with
  | nil => exact .refl nil rfl
  | cons tx rest ih =>
    refine Program.Runs.bind (hledger tx.id w o) fun answer v leads adds => ?_
    cases answer with
    | error e => exact adds
    | ok recorded =>
      cases other : leavesOtherState state recorded with
      | true =>
        simp only [other, if_true]
        exact adds
      | false =>
        simp only [other, Bool.false_eq_true, if_false]
        exact (ih (leads.order o)).mono fun _ _ _ more => adds.trans more append

include nil append hledger in
/-- Evaluating a criteria writes what the questions to the ledger write. -/
lemma runs_triggeredBy (o : l.InOrder w) (c : Criteria) (b : Block) :
    (c.triggeredBy ledger b).Runs l.Leads w fun _ v => l.Adds kind w v := by
  unfold Criteria.triggeredBy
  cases c.interest with
  | artifactState expected => exact runs_anyLeavesOtherState nil append hledger o _ _
  | _ => exact .refl nil rfl

include haside in
lemma runs_count (c : Counter) : ((l.site metrics ledger conduct).count c).Runs l.Leads w
    fun _ v => l.Rests w v :=
  ⟨(haside _ w).leads, haside _ w⟩

include nil append haside hledger hnotify in
/-- A registration that is offered a block is told about it only if it is active at that moment. -/
lemma runs_offer (o : l.InOrder w) (active : (l.registry.get w).phase ≠ .idle) (b : Block)
    (h : Handle) : ((l.site metrics ledger conduct).offer b h).Runs l.Leads w fun delivery v =>
      ∃ replies, delivery.toList = replies.map .ofReply ∧ l.Fans kind replies w v := by
  have nothing : l.Fans kind [] w w := .refl .nil rfl
  have aside {v : W} (adds : l.Adds kind w v) : l.Fans kind [] w v :=
    adds.imp fun d hd => d.append_nil ▸ .aside hd .nil
  refine Program.Runs.bind (runs_isLive (Q := fun _ v => w = v) rfl) ?_
  rintro live _ - rfl
  cases live with
  | false => exact ⟨[], rfl, nothing⟩
  | true =>
    refine Program.Runs.bind (runs_registration (Q := fun _ v => w = v) rfl) ?_
    rintro reg _ - rfl
    refine Program.Runs.bind (runs_triggeredBy nil append hledger o reg.criteria b) ?_
    intro triggered u leads adds
    rcases triggered with e | _ | _
    · refine Program.Runs.bind (runs_count haside _) fun _ v _ rests => ?_
      refine ⟨[], rfl, aside ?_⟩
      obtain ⟨d, hd, diary⟩ := adds
      exact ⟨d, hd, rests.diary.trans diary⟩
    · exact ⟨[], rfl, aside adds⟩
    · -- the ledger may have done anything, so the registration is looked at once more
      refine Program.Runs.bind (runs_isLive
        (Q := fun live v => u = v ∧ live = (l.registry.get u).isLive h) ⟨rfl, rfl⟩) ?_
      rintro live _ - ⟨rfl, here⟩
      cases live with
      | false => exact ⟨[], rfl, aside adds⟩
      | true =>
        have tellable : l.Tellable h u := ⟨here.symm, fun idle => active (leads.idle idle)⟩
        refine Program.Runs.bind (runs_dispatch hnotify (leads.order o) tellable b.id) ?_
        rintro delivery v - ⟨reply, rfl, tells⟩
        refine Program.Runs.bind (runs_count haside _) fun _ v' _ rests => ?_
        refine ⟨[reply], rfl, ?_⟩
        have fans := (aside adds).trans tells.fans fun _ _ => Diary.Fan.append
        obtain ⟨d, fan, diary⟩ := fans
        exact ⟨d, fan, rests.diary.trans diary⟩

include nil append haside hledger hnotify in
/-- A fan-out counts every watcher that it tells by its reply. -/
lemma runs_fanOut (o : l.InOrder w) (active : (l.registry.get w).phase ≠ .idle) (b : Block)
    (handles : List Handle) (tally : Tally) :
    ((l.site metrics ledger conduct).fanOut b tally handles).Runs l.Leads w fun result v =>
      ∃ replies, result = replies.foldl (fun t reply => t.add (.ofReply reply)) tally ∧
        l.Fans kind replies w v := by
  induction handles generalizing tally w with
  | nil => exact ⟨[], rfl, .refl .nil rfl⟩
  | cons h rest ih =>
    refine Program.Runs.bind (runs_offer nil append haside hledger hnotify o active b h) ?_
    rintro delivery v leads ⟨replies, delivered, fans⟩
    have active' : (l.registry.get v).phase ≠ .idle := fun idle => active (leads.idle idle)
    have onwards (tally' : Tally)
        (added : tally' = replies.foldl (fun t reply => t.add (.ofReply reply)) tally) :
        ((l.site metrics ledger conduct).fanOut b tally' rest).Runs l.Leads v fun result u =>
          ∃ replies, result = replies.foldl (fun t reply => t.add (.ofReply reply)) tally ∧
            l.Fans kind replies w u := by
      refine (ih (leads.order o) active' tally').mono ?_
      rintro result u - ⟨replies', rfl, fans'⟩
      refine ⟨replies ++ replies', ?_, fans.trans fans' fun _ _ => Diary.Fan.append⟩
      rw [List.foldl_append, added]
    cases delivery with
    | none =>
      obtain rfl := List.map_eq_nil_iff.1 delivered.symm
      exact onwards tally rfl
    | some delivery =>
      obtain ⟨reply, rest', rfl, rfl, nothing⟩ := List.map_eq_cons_iff.1 delivered.symm
      obtain rfl := List.map_eq_nil_iff.1 nothing
      exact onwards (tally.add _) rfl

include nil append haside hledger hnotify in
/-- A notification comes to what the watchers that it told have replied. -/
lemma runs_notify (o : l.InOrder w) (b : Block) :
    ((l.site metrics ledger conduct).notify b).Runs l.Leads w fun answer v =>
      ∃ replies, l.Fans kind replies w v ∧
        ∀ tally, answer = .ok tally → tally = .ofReplies replies := by
  refine Program.Runs.bind (runs_act .beginNotify (fun _ => rfl) (fun _ => rfl) trivial
    nofun) ?_
  rintro _ u begun ⟨rfl, does⟩
  have quiet : l.diary.get u = l.diary.get w := does.quiet rfl
  have answer := Registry.beginNotify_fst (l.registry.get w)
  by_cases active : (l.registry.get w).phase = .active
  · rw [if_pos active] at answer
    simp only [answer]
    have active' : (l.registry.get u).phase ≠ .idle := by
      intro idle
      cases active.symm.trans (begun.idle idle)
    refine Program.Runs.bind (runs_fanOut nil append haside hledger hnotify (begun.order o)
      active' b _ {}) ?_
    rintro tally v - ⟨replies, total, d, fan, diary⟩
    refine ⟨replies, ⟨d, fan, quiet ▸ diary⟩, fun tally' same => ?_⟩
    cases same
    exact total
  · rw [if_neg active] at answer
    simp only [answer]
    exact ⟨[], .refl .nil quiet, nofun⟩

end Notifying

end Lodge

end LedgerWatch
