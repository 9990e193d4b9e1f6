import LedgerWatch.Proofs.Registry.Lodge

/-!
# Starts of a lodge

At the sites of a lodge every watcher writes down when it is called and what it replies. A start
asks the watchers that are kept when it begins, one after another, and each of them may register
others while it is asked. The programs of a start are taken one by one, from the innermost to the
outermost; what is known of the watchers they call is a hypothesis of each lemma.
-/

namespace LedgerWatch

open Registry (Operation)

namespace Diary

variable {d e : Diary} {h : Handle}

/-- Within a call for first criteria some start is in progress. -/
lemma starting_append (counted : d.countP Remark.answers ≤ d.countP Remark.asks)
    (within : e.countP Remark.answers ≤ e.countP Remark.asks) (h : Handle) :
    Starting (d ++ .asked h :: e) := by
  have one : (Remark.asked h :: e).countP Remark.asks = e.countP Remark.asks + 1 :=
    List.countP_cons_of_pos rfl
  have none : (Remark.asked h :: e).countP Remark.answers = e.countP Remark.answers :=
    List.countP_cons_of_neg Bool.false_ne_true
  rw [Starting, List.countP_append, List.countP_append, one, none]
  omega

end Diary

namespace Lodge

variable {W σ α : Type}

def note (l : Lodge W σ) (e : Remark) : Program W Unit :=
  Program.modify l.diary (· ++ [e])

/-- Watchers who write down when they are called and what they reply. -/
def diarised (l : Lodge W σ) (conduct : Handle → Behaviour W σ) : Behaviour W (Badged σ) where
  start x settings := do
    l.note (.asked x.handle)
    let (answer, watcher) ← (conduct x.handle).start x.watcher settings
    l.note (.answered x.handle answer)
    return (answer, ⟨x.handle, watcher⟩)
  notify x block c := do
    l.note (.told x.handle block c)
    let (reply, watcher) ← (conduct x.handle).notify x.watcher block c
    l.note (.replied x.handle reply)
    return (reply, ⟨x.handle, watcher⟩)

/-- A site where the registry of the lodge is started and notified. -/
def site (l : Lodge W σ) (metrics : Part W Metrics) (ledger : LedgerReads W)
    (conduct : Handle → Behaviour W σ) : Site W (Badged σ) :=
  ⟨l.registry, metrics, ledger, l.diarised conduct⟩

variable {l : Lodge W σ} {u v w : W} {h : Handle} {e : Remark} {op : Operation (Badged σ)}

/-! ### What is added to the diary -/

/-- What was added to the diary is of some kind. -/
def Adds (l : Lodge W σ) (kind : Diary → Prop) (w v : W) : Prop :=
  ∃ d, kind d ∧ l.diary.get v = l.diary.get w ++ d

/-- A watcher was asked for its first criteria and answered; who came meanwhile was written down. -/
def Asks (l : Lodge W σ) (h : Handle) (answer : Except WatcherError Criteria) (w v : W) : Prop :=
  ∃ d, Diary.Balanced d ∧
    l.diary.get v = l.diary.get w ++ (.asked h :: d ++ [.answered h answer]) ∧
    ∀ k, (l.registry.get w).nextHandle ≤ k → k < (l.registry.get v).nextHandle → .enrolled k ∈ d

lemma Adds.refl {kind : Diary → Prop} (nil : kind []) (same : l.diary.get v = l.diary.get w) :
    l.Adds kind w v :=
  ⟨[], nil, by rw [same, List.append_nil]⟩

/-- What was added in two parts was added. -/
lemma Adds.trans {kind kind' kind'' : Diary → Prop} (a : l.Adds kind u v) (b : l.Adds kind' v w)
    (append : ∀ d e, kind d → kind' e → kind'' (d ++ e)) : l.Adds kind'' u w := by
  obtain ⟨d, hd, diary⟩ := a
  obtain ⟨e, he, diary'⟩ := b
  exact ⟨d ++ e, append d e hd he, by rw [diary', diary, List.append_assoc]⟩

/-- What was added may be described more generally. -/
lemma Adds.imp {kind kind' : Diary → Prop} (a : l.Adds kind w v) (le : ∀ d, kind d → kind' d) :
    l.Adds kind' w v := by
  obtain ⟨d, hd, diary⟩ := a
  exact ⟨d, le d hd, diary⟩

/-- The question to a watcher and its answer are balanced. -/
lemma Asks.adds {answer : Except WatcherError Criteria} (a : l.Asks h answer w v) :
    l.Adds Diary.Balanced w v := by
  obtain ⟨d, balanced, diary, -⟩ := a
  exact ⟨_, balanced.start h answer, diary⟩

/-- Who answered with valid criteria was started. -/
lemma Asks.started {c : Criteria} (a : l.Asks h (.ok c) w v) (valid : c.Valid) :
    (l.diary.get v).Started h := by
  obtain ⟨d, -, diary, -⟩ := a
  refine ⟨l.diary.get w ++ .asked h :: d, c, ?_, by simp, valid⟩
  rw [diary, List.append_assoc]

variable [Inhabited σ]

/-- Whoever was registered while a watcher was asked was registered late. -/
lemma Asks.late {answer : Except WatcherError Criteria} (a : l.Asks h answer w v)
    (o : l.InOrder w) {k : Handle} (le : (l.registry.get w).nextHandle ≤ k)
    (lt : k < (l.registry.get v).nextHandle) : (l.diary.get v).Late k := by
  obtain ⟨d, balanced, diary, enrolled⟩ := a
  obtain ⟨before, after, rfl⟩ := List.append_of_mem (enrolled k le lt)
  have counted := balanced.countP_le before (List.prefix_append _ _)
  refine ⟨l.diary.get w ++ .asked h :: before, ?_, Diary.starting_append o.asked counted h⟩
  rw [diary]
  exact ⟨after ++ [.answered h answer], by simp⟩

/-! ### Single steps -/

/-- An operation of the site that makes no registration. -/
lemma does_set (quiet : op.enrols (l.registry.get w) = []) :
    l.Does op w (l.registry.set (op.apply (l.registry.get w)) w) where
  registry := l.registry.get_set _ w
  diary := by rw [l.apart.right, quiet, List.append_nil]

/-- An honest operation is performed in one step. -/
lemma runs_operate (op : Operation (Badged σ)) {f : Registry (Badged σ) → Registry (Badged σ)}
    (hf : ∀ r, f r = op.apply r) (quiet : ∀ r, op.enrols r = [])
    (honest : op.Honest (l.registry.get w)) (finish : op = .finishStart → l.AllReady w) :
    (Program.modify l.registry f).Runs l.Leads w fun _ v => l.Does op w v := by
  have does : l.Does op w (l.registry.modify f w) := by
    rw [Part.modify, hf]
    exact does_set (quiet _)
  exact ⟨does.leads honest finish, does⟩

/-- An honest operation with an answer is performed in one step. -/
lemma runs_act (op : Operation (Badged σ)) {f : Registry (Badged σ) → α × Registry (Badged σ)}
    (hf : ∀ r, (f r).2 = op.apply r) (quiet : ∀ r, op.enrols r = [])
    (honest : op.Honest (l.registry.get w)) (unfinished : op ≠ .finishStart) :
    (Program.act l.registry f).Runs l.Leads w
      fun answer v => answer = (f (l.registry.get w)).1 ∧ l.Does op w v := by
  have does : l.Does op w (l.registry.set (f (l.registry.get w)).2 w) := by
    rw [hf]
    exact does_set (quiet _)
  exact ⟨does.leads honest fun finish => absurd finish unfinished, rfl, does⟩

/-- Something that may be written down is written down. -/
lemma runs_note (admits : l.Admits w e) :
    (l.note e).Runs l.Leads w fun _ v => l.Notes e w v := by
  have notes : l.Notes e w (l.diary.modify (· ++ [e]) w) :=
    ⟨l.apart.left _ w, l.diary.get_modify _ w⟩
  exact ⟨notes.leads admits, notes⟩

lemma runs_pause {Q : Unit → W → Prop} (q : Q () w) :
    (Program.pause : Program W Unit).Runs l.Leads w Q :=
  q

section Site

variable {metrics : Part W Metrics} {ledger : LedgerReads W} {conduct : Handle → Behaviour W σ}

lemma runs_registration {Q : Registration (Badged σ) → W → Prop}
    (q : Q ((l.registry.get w).get h) w) :
    ((l.site metrics ledger conduct).registration h).Runs l.Leads w Q :=
  ⟨.refl w, q⟩

lemma runs_isLive {Q : Bool → W → Prop} (q : Q ((l.registry.get w).isLive h) w) :
    ((l.site metrics ledger conduct).isLive h).Runs l.Leads w Q :=
  ⟨.refl w, q⟩

/-- Once a watcher is free it is marked as busy. -/
lemma runs_acquire (h : Handle) : ((l.site metrics ledger conduct).acquire h).Runs l.Leads w
    fun _ v => l.Does (.setBusy h true) w v := by
  have mark : (Program.modify l.registry (Registry.setBusy h true)).Runs l.Leads w
      fun _ v => l.Does (.setBusy h true) w v :=
    runs_operate _ (fun _ => rfl) (fun _ => rfl) trivial nofun
  refine Program.Runs.bind (runs_registration (Q := fun _ v => w = v) rfl) ?_
  rintro reg _ - rfl
  cases reg.busy with
  | true => exact mark
  | false => exact mark

/-- A program of a watcher is run between two operations that mark when it is under way. -/
lemma runs_perform {f : Registration (Badged σ) → Program W (α × Badged σ)} {Q : α → W → Prop}
    (hf : ∀ u, l.Does (.setBusy h true) w u → l.Leads w u →
      (f ((l.registry.get u).get h)).Runs l.Leads u fun a v => a.2.handle = h ∧ Q a.1 v) :
    ((l.site metrics ledger conduct).perform h f).Runs l.Leads w
      fun a v => ∃ u x, Q a u ∧ l.Does (.release h x) u v := by
  refine Program.Runs.bind (runs_acquire h) fun _ u leads does => ?_
  refine Program.Runs.bind (runs_pause (Q := fun _ v => u = v) rfl) ?_
  rintro _ _ - rfl
  refine Program.Runs.bind (runs_registration
    (Q := fun reg v => u = v ∧ reg = (l.registry.get u).get h) ⟨rfl, rfl⟩) ?_
  rintro _ _ - ⟨rfl, rfl⟩
  refine Program.Runs.bind (hf u does leads) ?_
  rintro ⟨a, x⟩ v - ⟨badge, q⟩
  refine Program.Runs.bind (runs_operate (.release h x) (fun _ => rfl) (fun _ => rfl)
    badge nofun) fun _ v' _ release => ?_
  refine Program.Runs.bind (runs_pause (Q := fun _ u' => v' = u') rfl) ?_
  rintro _ _ - rfl
  exact ⟨v, x, q, release⟩

/-! ### Starting -/

section Starting

variable (hstart : ∀ h x settings w, l.InOrder w →
  ((conduct h).start x settings).Runs l.Leads w fun _ v => l.Adds Diary.Balanced w v)

include hstart

/-- A watcher is asked for its first criteria: it writes that down, and what it answers. -/
lemma runs_startWatcher (o : l.InOrder w) (made : h < (l.registry.get w).nextHandle) :
    ((l.site metrics ledger conduct).startWatcher h).Runs l.Leads w
      fun answer v => l.Asks h answer w v := by
  refine (runs_perform (Q := fun answer v => l.Asks h answer w v) ?_).mono ?_
  · intro u does leads
    have next : (l.registry.get u).nextHandle = (l.registry.get w).nextHandle := by
      rw [does.registry]
      exact Registry.nextHandle_amend
    have quiet : l.diary.get u = l.diary.get w := does.quiet rfl
    have badge := (leads.order o).badges h (next ▸ made)
    generalize (l.registry.get u).get h = reg at badge
    subst badge
    refine Program.Runs.bind (runs_note trivial) fun _ u₁ leads₁ asked => ?_
    have o₁ := leads₁.order (leads.order o)
    refine Program.Runs.bind (hstart _ _ _ _ o₁) ?_
    rintro ⟨answer, x⟩ u₂ leads₂ ⟨d, balanced, diary⟩
    have whole : l.diary.get u₂ = l.diary.get w ++ .asked reg.watcher.handle :: d := by
      rw [diary, asked.diary, quiet, List.append_assoc]
      rfl
    have starting : (l.diary.get u₂).Starting := by
      rw [whole]
      exact Diary.starting_append o.asked balanced.count.le _
    refine Program.Runs.bind (runs_note starting) fun _ v _ answered => ?_
    refine ⟨rfl, d, balanced, ?_, ?_⟩
    · rw [answered.diary, whole, List.append_assoc]
    · intro k le lt
      rw [answered.registry] at lt
      -- what the watcher itself did is all that was written since it was asked
      obtain ⟨new, diary', -, enrolled⟩ := leads₂.adds
      rw [diary] at diary'
      obtain rfl := List.append_cancel_left diary'
      refine enrolled k ?_ lt
      rw [asked.registry, next]
      exact le
  · rintro answer v - ⟨u, x, ⟨d, balanced, diary, enrolled⟩, release⟩
    refine ⟨d, balanced, ?_, fun k le lt => enrolled k le ?_⟩
    · exact (release.quiet rfl).trans diary
    · rw [release.registry] at lt
      exact Registry.nextHandle_amend ▸ lt

/-- Watchers are started one after another: whoever comes meanwhile comes late. -/
lemma runs_startAll (handles : List Handle) (o : l.InOrder w)
    (made : ∀ h ∈ handles, h < (l.registry.get w).nextHandle) :
    ((l.site metrics ledger conduct).startAll handles).Runs l.Leads w fun answer v =>
      l.Adds Diary.Balanced w v ∧
      (∀ k, (l.registry.get w).nextHandle ≤ k → k < (l.registry.get v).nextHandle →
        (l.diary.get v).Late k) ∧
      (answer = .ok () → ∀ h ∈ handles, (l.diary.get v).Started h) := by
  -- by induction on those still to be asked; all of them were there when the start began
  induction handles generalizing w with
  | nil =>
    exact ⟨.refl .nil rfl, fun k le lt => absurd lt (Nat.not_lt.2 le), fun _ _ mem => by cases mem⟩
  | cons h rest ih =>
    refine Program.Runs.bind (runs_registration (Q := fun _ v => w = v) rfl) ?_
    rintro reg _ - rfl
    refine Program.Runs.bind (runs_startWatcher hstart o (made h List.mem_cons_self)) ?_
    intro answer v leads asks
    have late := fun k => asks.late o (k := k)
    cases answer with
    | error e => exact ⟨asks.adds, late, nofun⟩
    | ok initial =>
      cases valid : initial.validate with
      | error e =>
        simp only [valid]
        exact ⟨asks.adds, late, nofun⟩
      | ok initial' =>
        obtain ⟨isValid, rfl⟩ := Criteria.validate_eq_ok_iff.1 valid
        simp only [valid]
        refine Program.Runs.bind (runs_operate (.setCriteria h initial') (fun _ => rfl)
          (fun _ => rfl) trivial nofun) fun _ u leads' does => ?_
        have next : (l.registry.get u).nextHandle = (l.registry.get v).nextHandle := by
          rw [does.registry]
          exact Registry.nextHandle_amend
        have quiet : l.diary.get u = l.diary.get v := does.quiet rfl
        have made' : ∀ h ∈ rest, h < (l.registry.get u).nextHandle := fun h mem =>
          Nat.lt_of_lt_of_le (made h (List.mem_cons_of_mem _ mem)) (leads.trans leads').later.next
        refine (ih (leads'.order (leads.order o)) made').mono ?_
        rintro answer u' leads'' ⟨⟨d, balanced, diary⟩, late', started⟩
        rw [quiet] at diary
        have grown : l.diary.get v <+: l.diary.get u' := ⟨d, diary.symm⟩
        refine ⟨asks.adds.trans ⟨d, balanced, diary⟩ fun _ _ => .append, fun k le lt => ?_,
          fun ok k mem => ?_⟩
        · rcases Nat.lt_or_ge k (l.registry.get v).nextHandle with old | new
          · exact (late k le old).mono grown
          · exact late' k (next ▸ new) lt
        · rcases List.mem_cons.1 mem with rfl | mem
          · exact (asks.started isValid).mono grown
          · exact started ok k mem

/-- A start that finishes leaves everyone ready who is active. -/
lemma runs_start (o : l.InOrder w) : ((l.site metrics ledger conduct).start).Runs l.Leads w
    fun _ v => l.Adds Diary.Balanced w v := by
  refine Program.Runs.bind (runs_act .beginStart (fun _ => rfl) (fun _ => rfl) trivial
    nofun) ?_
  rintro _ u begun ⟨rfl, does⟩
  have quiet : l.diary.get u = l.diary.get w := does.quiet rfl
  have registry : l.registry.get u = (l.registry.get w).settle := by
    rw [does.registry, Operation.apply, Registry.beginStart_snd]
  have answer := Registry.beginStart_fst (l.registry.get w)
  cases phase : (l.registry.get w).phase with
  | idle =>
    simp only [phase] at answer
    simp only [answer]
    have made : ∀ h ∈ (l.registry.get w).settle.members.values,
        h < (l.registry.get u).nextHandle := by
      intro h mem
      rw [registry, Registry.settle_nextHandle]
      exact Registry.lt_of_isLive (o.sound.mem_handles.1 mem)
    refine Program.Runs.bind (runs_startAll hstart _ (begun.order o) made) ?_
    rintro answer v leads ⟨adds, late, started⟩
    have balanced : l.Adds Diary.Balanced w v := by
      obtain ⟨d, balanced, diary⟩ := adds
      exact ⟨d, balanced, quiet ▸ diary⟩
    cases answer with
    | error e => exact balanced
    | ok _ =>
      -- whoever is active now was there when the start began, or has come late
      have ready : l.AllReady v := by
        intro h live
        rcases Nat.lt_or_ge h (l.registry.get u).nextHandle with old | new
        · have before := leads.later.live h old live
          rw [registry, Registry.settle_isLive] at before
          exact .inl (started rfl h (o.sound.mem_handles.2 before))
        · exact .inr (late h new (Registry.lt_of_isLive live))
      refine Program.Runs.bind (runs_operate .finishStart (fun _ => rfl) (fun _ => rfl)
        trivial fun _ => ready) fun _ v' _ finished => ?_
      obtain ⟨d, balanced, diary⟩ := balanced
      exact ⟨d, balanced, (finished.quiet rfl).trans diary⟩
  | active =>
    simp only [phase] at answer
    simp only [answer]
    exact .refl .nil quiet
  | closed =>
    simp only [phase] at answer
    simp only [answer]
    exact .refl .nil quiet

end Starting

end Site

end Lodge

end LedgerWatch
