import LedgerWatch.Proofs.Registry.Audience
import LedgerWatch.Proofs.Registry.Operation

/-!
# Isolation of listeners

Blocks are notified one after another, while the ledger may answer differently from one notification
to the next. Whatever its neighbours reply, each registration goes through the steps that it would
take if it were the only one. Within one notification the listeners are called in the order of their
names.
-/

namespace LedgerWatch

namespace Registry

variable {σ : Type} [Inhabited σ] {r r' : Registry σ} {h : Handle}

/-- Fewer registrations may be kept later on; those that are stand in the same order. -/
lemma Sound.handles_filter (hr : r.Sound) (hr' : r'.Sound)
    (name : ∀ h, (r'.get h).name = (r.get h).name)
    (live : ∀ h, r'.isLive h = true → r.isLive h = true) :
    r'.settle.members.values = r.settle.members.values.filter r'.isLive := by
  have before := hr.handles_ascending
  have after : r'.settle.members.values.Pairwise fun h k => (r.get h).name < (r.get k).name := by
    refine hr'.handles_ascending.imp fun {h k} lt => ?_
    rw [name, name] at lt
    exact lt
  -- both lists ascend by name, so it is enough that they have the same members
  refine List.Perm.eq_of_pairwise (fun h k _ _ lt gt => ?_) after (before.filter _) ?_
  · exact absurd (String.lt_trans lt gt) (String.lt_irrefl _)
  · apply (List.perm_ext_iff_of_nodup hr'.handles_nodup (hr.handles_nodup.filter _)).2
    intro h
    rw [hr'.mem_handles, List.mem_filter, hr.mem_handles]
    exact ⟨fun now => ⟨live h now, now⟩, fun both => both.2⟩

/-- An active registry with a single registration. -/
def only (reg : Registration σ) : Registry σ where
  phase := .active
  registrations := [reg]
  members := Table.empty.insert reg.name 0

lemma get_only (reg : Registration σ) : (only reg).get 0 = reg :=
  rfl

lemma only_sound {reg : Registration σ} (active : reg.status = .active) : (only reg).Sound := by
  have live : (only reg).isLive 0 = true := by simp [isLive, get_only, active]
  apply Lists.sound
  · intro name h
    have found : (only reg).members.get? name = if name = reg.name then some 0 else none :=
      Table.get?_insert _ _ _ _
    rw [found]
    constructor
    · intro kept
      split at kept
      · rename_i same
        cases kept
        exact ⟨live, same.symm⟩
      · cases kept
    · rintro ⟨liveh, named⟩
      have first : h = 0 := Nat.lt_one_iff.1 (lt_of_isLive liveh)
      subst first
      exact if_pos named.symm
  · intro h mem
    cases mem

end Registry

open Registry (Deed Course)

variable {W : Type} {a : Audience W} {w v : W} {rounds : List Round}

/--
Blocks are notified one after another. Between two notifications anything may happen that leaves the
registrations and their calls alone, so that the ledger answers as the next round says.
-/
inductive Audience.Hears (a : Audience W) : List Round → W → W → Prop where
  | nil {w : W} : a.Hears [] w w
  | cons {round : Round} {rest : List Round} {w u v : W} :
    a.site.registry.get u = a.site.registry.get w → a.calls u = a.calls w →
    a.answers u = round.answers → a.Hears rest ((a.site.notify round.block).run u).2 v →
    a.Hears (round :: rest) w v

/-- Rounds take each registration through its own steps. -/
lemma Audience.Detached.hears (ha : a.Detached) (run : a.Hears rounds w v)
    (sound : (a.site.registry.get w).Sound) (active : (a.site.registry.get w).phase = .active) :
    let r := a.site.registry.get w
    (∀ k, (a.site.registry.get v).get k = (r.get k).steps rounds) ∧
      a.calls v = a.calls w ++ Round.callsAll rounds (r.settle.members.values.map r.get) := by
  induction run with
  | nil => exact ⟨fun _ => rfl, (List.append_nil _).symm⟩
  | @cons round rest w u v same calls answers _ ih =>
    intro r
    have sound' : (a.site.registry.get u).Sound := same ▸ sound
    have active' : (a.site.registry.get u).phase = .active := same ▸ active
    obtain ⟨step, phase, after, called, -⟩ := ha.notify sound' active' round.block
    have round' : a.round round.block u = round := by
      simp only [Audience.round, answers]
    rw [round', same] at step called
    obtain ⟨steps, calledLater⟩ := ih after phase
    refine ⟨fun k => ?_, ?_⟩
    · rw [steps k, step k]
      rfl
    · -- the next rounds go through those who are still kept, which is the same as through all
      let r₁ := a.site.registry.get ((a.site.notify round.block).run u).2
      have kept : r₁.settle.members.values = r.settle.members.values.filter r₁.isLive := by
        refine sound.handles_filter after (fun h => ?_) fun h live => ?_
        · rw [step h, Registration.step_name]
        · simp only [Registry.isLive, decide_eq_true_eq] at live ⊢
          rw [step h] at live
          have waiting : Round.waiting ((r.get h).step round) = true := by
            simp [Round.waiting, live, r]
          simpa [Round.waiting] using Round.waiting_of_step waiting
      have everyone : r₁.settle.members.values.map r₁.get
          = ((r.settle.members.values.map r.get).map (·.step round)).filter Round.waiting := by
        have stepped : (r.settle.members.values.map r.get).map (·.step round)
            = r.settle.members.values.map r₁.get := by
          rw [List.map_map]
          exact List.map_congr_left fun k _ => (step k).symm
        rw [stepped, List.filter_map, kept]
        rfl
      rw [calledLater, called, calls, List.append_assoc, everyone, Round.callsAll_filter]
      rfl

/--
A registration of a listener goes through its own steps whoever else is registered, as it does
alone; and every notification calls listeners in the order of their names.
-/
theorem steps_apart (ha : a.Detached) {deeds : List (Deed Listener)}
    (reached : Course {} deeds (a.site.registry.get w))
    (active : (a.site.registry.get w).phase = .active) (run : a.Hears rounds w v) :
    let r := a.site.registry.get w
    let kept := r.settle.members.values.map r.get
    (∀ h, (a.site.registry.get v).get h = (r.get h).steps rounds) ∧
      (∀ h w' v', r.isLive h = true → a.site.registry.get w' = Registry.only (r.get h) →
        a.Hears rounds w' v' → (a.site.registry.get v').get 0 = (a.site.registry.get v).get h) ∧
      a.calls v = a.calls w ++ Round.callsAll rounds kept ∧
      kept.Pairwise fun x y => x.name < y.name := by
  intro r kept
  have sound : r.Sound := Registry.Sound.empty.course reached
  obtain ⟨steps, calls⟩ := ha.hears run sound active
  refine ⟨steps, fun h w' v' live alone run' => ?_, calls, ?_⟩
  · have status : (r.get h).status = .active := by simpa [Registry.isLive] using live
    have sound' : (a.site.registry.get w').Sound := alone ▸ Registry.only_sound status
    have active' : (a.site.registry.get w').phase = .active := by
      rw [alone]
      rfl
    obtain ⟨steps', -⟩ := ha.hears run' sound' active'
    rw [steps' 0, steps h, alone, Registry.get_only]
  · exact List.pairwise_map.2 sound.handles_ascending

/-- A registry of listeners, counters, the calls so far and the answers of a ledger. -/
structure Hall where
  registry : Registry Listener
  answers : Answers
  metrics : Metrics := {}
  calls : List (Listener × Call) := []

namespace Hall

/-- The registry of a hall. -/
def registryPart : Part Hall (Registry Listener) where
  get hall := hall.registry
  set registry hall := { hall with registry }
  get_set _ _ := rfl

/-- The counters of a hall. -/
def metricsPart : Part Hall Metrics where
  get hall := hall.metrics
  set metrics hall := { hall with metrics }
  get_set _ _ := rfl

/-- A listener is called, which the hall notes. -/
def hear (l : Listener) (call : Call) :
    Program Hall (Except WatcherError (Option Criteria) × Listener) := do
  Program.change fun hall => { hall with calls := hall.calls ++ [(l, call)] }
  return (l.reply (l.heard ++ [call]), l.hear call)

/-- The audience in a hall. -/
def audience : Audience Hall where
  site :=
    { registry := registryPart
      metrics := metricsPart
      ledger :=
        { latest := return .ok .root
          blocksAfter _ := return .ok []
          block? _ := return .ok none
          transaction? id := return (← Program.world).answers id
          blockOf? _ := return .ok none
          head? _ := return .ok none
          previous? _ := return .ok none }
      behaviour :=
        { start l _ := return (.ok (.after .root), l)
          notify l block c := hear l ⟨block, c⟩ } }
  calls hall := hall.calls
  answers hall := hall.answers

lemma audience_detached : audience.Detached where
  reply _ _ _ _ := rfl
  registry _ _ _ _ := rfl
  calls _ _ _ _ := rfl
  answers _ _ _ _ := rfl
  ledger _ _ := rfl
  ledger_rests _ w := .refl w
  metrics_rests _ _ := ⟨rfl, rfl, rfl⟩
  registry_calls _ _ := rfl
  registry_answers _ _ := rfl

/-- A listener that breaks down whenever it is called. -/
def broken : Listener where
  reply _ := .error .panicked

/-- A listener that asks for more once, and then for no more. -/
def brief : Listener where
  reply heard := if heard.length = 1 then .ok (some (.after (.ofNat 1))) else .ok none

/-- An active registry with both. -/
def opened : Registry Listener :=
  ((({} : Registry Listener).register "a" broken .empty).2.register "b" brief .empty).2.finishStart

lemma opened_reached : ∃ deeds, Course {} deeds opened :=
  ⟨[⟨_, .register "a" broken .empty⟩, ⟨_, .register "b" brief .empty⟩, ⟨_, .finishStart⟩],
    .cons (.cons (.cons .nil))⟩

/-- Two blocks, during which the ledger does not answer. -/
def twoBlocks : List Round :=
  [⟨⟨.ofNat 1, .root, 1, []⟩, fun _ => .error (.unavailable "down")⟩,
    ⟨⟨.ofNat 2, .ofNat 1, 2, []⟩, fun _ => .error (.unavailable "down")⟩]

/-- In a hall, any rounds can be heard. -/
lemma hears (rounds : List Round) (hall : Hall) : ∃ v, audience.Hears rounds hall v := by
  induction rounds generalizing hall with
  | nil => exact ⟨hall, .nil⟩
  | cons round rest ih =>
    let u := { hall with answers := round.answers }
    obtain ⟨v, later⟩ := ih ((audience.site.notify round.block).run u).2
    exact ⟨v, .cons (u := u) rfl rfl rfl later⟩

/-- A hall with a registry and a ledger that does not answer. -/
def around (registry : Registry Listener) : Hall where
  registry
  answers _ := .error (.unavailable "down")

end Hall

/-- Beside a listener that breaks down, another one is told about two blocks and leaves. -/
theorem steps_apart_in_hall :
    ∃ v v', Hall.audience.Hears Hall.twoBlocks (Hall.around Hall.opened) v ∧
      Hall.audience.Hears Hall.twoBlocks (Hall.around (.only (Hall.opened.get 1))) v' ∧
      v'.registry.get 0 = v.registry.get 1 ∧ (v.registry.get 1).status = .cancelled ∧
      (v.registry.get 1).watcher.heard.length = 2 := by
  obtain ⟨deeds, reached⟩ := Hall.opened_reached
  obtain ⟨v, run⟩ := Hall.hears Hall.twoBlocks (Hall.around Hall.opened)
  obtain ⟨v', run'⟩ := Hall.hears Hall.twoBlocks (Hall.around (.only (Hall.opened.get 1)))
  obtain ⟨steps, alone, -, -⟩ :=
    steps_apart Hall.audience_detached (w := Hall.around Hall.opened) reached rfl run
  have same := alone 1 _ v' (by decide) rfl run'
  have status : ((Hall.opened.get 1).steps Hall.twoBlocks).status = .cancelled := by decide
  have heard : ((Hall.opened.get 1).steps Hall.twoBlocks).watcher.heard.length = 2 := by decide
  have end_ : v.registry.get 1 = (Hall.opened.get 1).steps Hall.twoBlocks := steps 1
  rw [← end_] at status heard
  exact ⟨v, v', run, run', same, status, heard⟩

end LedgerWatch
