import LedgerWatch.Proofs.Program.Along
import LedgerWatch.Proofs.Registry.Closing
import LedgerWatch.Proofs.Registry.Diary

/-!
# Registries with a diary

A lodge is a registry in a world with a diary beside it. Every registration is written down when it
is made, and every watcher has the handle of its registration on a badge, so that it can write down
when it is called and what it replies.

A lodge is in order when the diary accounts for what the registry does: whoever is active once the
registry has left its idle phase is ready, and so was everyone who was told about a block, at that
moment. What a program does step by step leads from one world to another (`Leads`): cancelled
registrations stay cancelled and are told nothing any more, and a lodge in order stays in order.
-/

namespace LedgerWatch

/-- The state of a watcher, with the handle of its registration. -/
structure Badged (σ : Type) where
  handle : Handle
  watcher : σ

instance {σ : Type} [Inhabited σ] : Inhabited (Badged σ) :=
  ⟨⟨0, default⟩⟩

namespace Registry

variable {σ : Type} [Inhabited σ]

namespace Operation

/-- What is written down of an operation: a registration that it made. -/
def enrols (r : Registry σ) : Operation σ → Diary
  | .register name watcher settings =>
    match (r.register name watcher settings).1 with
    | .ok h => [.enrolled h]
    | .error _ => []
  | _ => []

/-- Whoever is registered gets the badge of the registration, and keeps it. -/
def Honest (r : Registry (Badged σ)) : Operation (Badged σ) → Prop
  | .register _ x _ => x.handle = r.nextHandle
  | .release h x => x.handle = h
  | _ => True

/-- The operations that hosts and watchers perform themselves, without starting or notifying. -/
def Free (r : Registry (Badged σ)) : Operation (Badged σ) → Prop
  | .ask | .remove _ | .close | .cancel _ | .setCriteria _ _ => True
  | .register _ x _ => x.handle = r.nextHandle
  | .setBusy _ _ | .release _ _ | .beginStart | .finishStart | .beginNotify => False

omit [Inhabited σ] in
/-- What hosts and watchers do themselves is done honestly. -/
lemma Free.honest {r : Registry (Badged σ)} {op : Operation (Badged σ)} (h : op.Free r) :
    op.Honest r := by
  cases op with
  | register name x settings => exact h
  | release k x => exact h.elim
  | _ => trivial

/-- An operation makes one registration, which is written down, or none. -/
lemma enrols_cases (r : Registry σ) (op : Operation σ) :
    (op.enrols r = [] ∧ (op.apply r).nextHandle = r.nextHandle) ∨
    (op.enrols r = [.enrolled r.nextHandle] ∧ (op.apply r).nextHandle = r.nextHandle + 1 ∧
      r.phase = .idle ∧ ∃ name watcher settings, op = .register name watcher settings ∧
        ((op.apply r).get r.nextHandle).watcher = watcher) := by
  by_cases registers : ∃ name watcher settings, op = .register name watcher settings
  · obtain ⟨name, watcher, settings, rfl⟩ := registers
    simp only [enrols, apply]
    obtain ⟨-, idle, -, e⟩ | ⟨_, refused, e | e⟩ := register_cases name watcher settings r
    · right
      rw [e]
      refine ⟨rfl, by simp, idle, name, watcher, settings, rfl, ?_⟩
      rw [get_add, settle_nextHandle, if_pos rfl]
    · rw [refused, e]
      exact .inl ⟨rfl, rfl⟩
    · rw [refused, e, settle_nextHandle]
      exact .inl ⟨rfl, rfl⟩
  · refine .inl ⟨?_, nextHandle_apply registers⟩
    cases op with
    | register name watcher settings => exact absurd ⟨name, watcher, settings, rfl⟩ registers
    | _ => rfl

end Operation

/-- Every watcher has the handle of its registration on its badge. -/
def Badges (r : Registry (Badged σ)) : Prop :=
  ∀ h, h < r.nextHandle → (r.get h).watcher.handle = h

/-- In a new registry there is nobody to wear a badge. -/
lemma Badges.empty : Badges ({} : Registry (Badged σ)) :=
  fun h lt => absurd lt (Nat.not_lt_zero h)

/-- Badges stay right when an operation is done honestly. -/
lemma Badges.apply {r : Registry (Badged σ)} (badges : r.Badges) {op : Operation (Badged σ)}
    (honest : op.Honest r) : (op.apply r).Badges := by
  have old {h : Handle} (made : h < r.nextHandle) : ((op.apply r).get h).watcher.handle = h := by
    rcases watcher_apply op made with same | ⟨x, rfl, same⟩
    · rw [same, badges h made]
    · rw [same]
      exact honest
  intro h made
  rcases op.enrols_cases r with ⟨-, next⟩ | ⟨-, next, -, name, x, settings, rfl, new⟩
  · rw [next] at made
    exact old made
  · rw [next] at made
    rcases Nat.lt_succ_iff_lt_or_eq.1 made with made | rfl
    · exact old made
    · rw [new]
      exact honest

end Registry

open Registry (Operation)

/-- A registry of watchers with badges, and a diary beside it. -/
structure Lodge (W σ : Type) where
  registry : Part W (Registry (Badged σ))
  diary : Part W Diary
  apart : registry.Apart diary

namespace Lodge

variable {W σ : Type} [Inhabited σ] {l : Lodge W σ} {u v w : W} {h : Handle} {e : Remark}
  {op : Operation (Badged σ)}

/-- Nothing happens that concerns the lodge. -/
structure Rests (l : Lodge W σ) (w v : W) : Prop where
  registry : l.registry.get v = l.registry.get w
  diary : l.diary.get v = l.diary.get w

/-- An operation is performed, and written down if it makes a registration. -/
structure Does (l : Lodge W σ) (op : Operation (Badged σ)) (w v : W) : Prop where
  registry : l.registry.get v = op.apply (l.registry.get w)
  diary : l.diary.get v = l.diary.get w ++ op.enrols (l.registry.get w)

/-- An operation that makes no registration is not written down. -/
lemma Does.quiet (d : l.Does op w v) (none : op.enrols (l.registry.get w) = []) :
    l.diary.get v = l.diary.get w := by
  rw [d.diary, none, List.append_nil]

/-- Something is written down, and nothing else happens. -/
structure Notes (l : Lodge W σ) (e : Remark) (w v : W) : Prop where
  registry : l.registry.get v = l.registry.get w
  diary : l.diary.get v = l.diary.get w ++ [e]

/-- Whoever is active is ready. -/
def AllReady (l : Lodge W σ) (w : W) : Prop :=
  ∀ h, (l.registry.get w).isLive h = true → (l.diary.get w).Ready h

/-- The diary accounts for what the registry does. -/
structure InOrder (l : Lodge W σ) (w : W) : Prop where
  sound : (l.registry.get w).Sound
  badges : (l.registry.get w).Badges
  /-- No more answers were given than asked for. -/
  asked : (l.diary.get w).countP Remark.answers ≤ (l.diary.get w).countP Remark.asks
  /-- Once the registry is not idle any more, whoever is active is ready. -/
  ready : (l.registry.get w).phase ≠ .idle → l.AllReady w
  timely : (l.diary.get w).Timely

/-- A new registry with an empty diary is in order. -/
lemma InOrder.fresh (fresh : l.registry.get w = {}) (blank : l.diary.get w = []) :
    l.InOrder w where
  sound := fresh ▸ .empty
  badges := fresh ▸ .empty
  asked := by rw [blank]; exact Nat.le_refl 0
  ready active := by
    rw [fresh] at active
    exact absurd rfl active
  timely a h block c before := by
    rw [blank, List.prefix_nil] at before
    simp at before

/-- What is in order stays so where nothing happens. -/
lemma InOrder.rests (o : l.InOrder w) (r : l.Rests w v) : l.InOrder v where
  sound := r.registry ▸ o.sound
  badges := r.registry ▸ o.badges
  asked := r.diary ▸ o.asked
  ready := by
    rw [AllReady, r.registry, r.diary]
    exact o.ready
  timely := r.diary ▸ o.timely

/-- What may be written down in a world, apart from registrations. -/
def Admits (l : Lodge W σ) (w : W) : Remark → Prop
  | .enrolled _ => False
  | .asked _ | .replied _ _ => True
  | .answered _ _ => (l.diary.get w).Starting
  | .told h _ _ => (l.registry.get w).isLive h = true ∧ (l.registry.get w).phase ≠ .idle

/-- What is in order stays so when something is written down that may be. -/
lemma InOrder.notes (o : l.InOrder w) (n : l.Notes e w v) (admits : l.Admits w e) :
    l.InOrder v where
  sound := n.registry ▸ o.sound
  badges := n.registry ▸ o.badges
  asked := by
    rw [n.diary, List.countP_append, List.countP_append]
    cases e with
    | answered h answer => exact admits
    | enrolled h => exact admits.elim
    | _ => exact Nat.le_trans o.asked (Nat.le_add_right _ _)
  ready := by
    rw [AllReady, n.registry, n.diary]
    exact fun active h live => (o.ready active h live).mono (List.prefix_append _ _)
  timely := by
    rw [n.diary]
    refine o.timely.concat fun h block c same => ?_
    subst same
    exact o.ready admits.2 h admits.1

/-- Every operation keeps a lodge in order, if a start finishes only when everyone is ready. -/
lemma InOrder.does (o : l.InOrder w) (d : l.Does op w v) (honest : op.Honest (l.registry.get w))
    (finish : op = .finishStart → l.AllReady w) : l.InOrder v where
  sound := d.registry ▸ o.sound.apply op
  badges := d.registry ▸ o.badges.apply honest
  asked := by
    rw [d.diary, List.countP_append, List.countP_append]
    rcases op.enrols_cases (l.registry.get w) with ⟨none, -⟩ | ⟨one, -⟩
    · rw [none]
      exact o.asked
    · rw [one]
      exact o.asked
  ready := by
    rw [AllReady, d.registry, d.diary]
    intro active h live
    apply Diary.Ready.mono _ (List.prefix_append _ _)
    obtain ⟨closes, -, -⟩ | ⟨-, finishes, -⟩ | ⟨-, -, phase⟩ :=
      Registry.Deed.phase_cases ⟨l.registry.get w, op⟩
    · -- nobody is active in a registry that was closed
      cases op with
      | close =>
        rw [Operation.apply, Registry.close_eq, Registry.settle_isLive,
          o.sound.isLive_emptied] at live
        cases live
      | _ => cases closes
    · cases op with
      | finishStart =>
        have before : (l.registry.get w).settle.isLive h = true := live
        rw [Registry.settle_isLive] at before
        exact finish rfl h before
      | _ => cases finishes
    · -- no registration is made once the registry is not idle any more
      have phase' : (op.apply (l.registry.get w)).phase = (l.registry.get w).phase := phase
      rw [phase'] at active
      rcases op.enrols_cases (l.registry.get w) with ⟨-, next⟩ | ⟨-, -, idle, -⟩
      · have made := Registry.lt_of_isLive live
        rw [next] at made
        exact o.ready active h ((Registry.Later.apply _ op).live h made live)
      · exact absurd idle active
  timely := by
    rw [d.diary]
    rcases op.enrols_cases (l.registry.get w) with ⟨none, -⟩ | ⟨one, -⟩
    · rw [none, List.append_nil]
      exact o.timely
    · rw [one]
      exact o.timely.concat fun _ _ _ same => by cases same

/-! ### Later worlds -/

/--
A later world: what was cancelled stays cancelled and is told nothing, new registrations are written
down, and what was in order is in order.
-/
structure Leads (l : Lodge W σ) (w v : W) : Prop where
  later : (l.registry.get w).Later (l.registry.get v)
  idle : (l.registry.get v).phase = .idle → (l.registry.get w).phase = .idle
  adds : ∃ new, l.diary.get v = l.diary.get w ++ new ∧
    (∀ h, h < (l.registry.get w).nextHandle → (l.registry.get w).isLive h = false →
      ∀ block c, .told h block c ∉ new) ∧
    ∀ h, (l.registry.get w).nextHandle ≤ h → h < (l.registry.get v).nextHandle →
      .enrolled h ∈ new
  order : l.InOrder w → l.InOrder v

/-- Nothing that happens elsewhere matters to what comes later. -/
lemma Rests.leads (r : l.Rests w v) : l.Leads w v where
  later := by
    rw [r.registry]
    exact .refl _
  idle idle := r.registry ▸ idle
  adds := by
    refine ⟨[], by rw [r.diary, List.append_nil], fun _ _ _ _ _ => List.not_mem_nil, ?_⟩
    rw [r.registry]
    exact fun h le lt => absurd lt (Nat.not_lt.2 le)
  order o := o.rests r

/-- What may be written down leads to a later world. -/
lemma Notes.leads (n : l.Notes e w v) (admits : l.Admits w e) : l.Leads w v where
  later := by
    rw [n.registry]
    exact .refl _
  idle idle := n.registry ▸ idle
  adds := by
    refine ⟨[e], n.diary, fun h _ dead block c mem => ?_, ?_⟩
    · obtain rfl := List.mem_singleton.1 mem
      rw [admits.1] at dead
      cases dead
    · rw [n.registry]
      exact fun h le lt => absurd lt (Nat.not_lt.2 le)
  order o := o.notes n admits

/--
An honest operation leads to a later world, the end of a start only if whoever is active is ready.
-/
lemma Does.leads (d : l.Does op w v) (honest : op.Honest (l.registry.get w))
    (finish : op = .finishStart → l.AllReady w) : l.Leads w v where
  later := by
    rw [d.registry]
    exact .apply _ op
  idle idle := by
    rw [d.registry] at idle
    obtain ⟨-, -, phase⟩ | ⟨-, -, phase⟩ | ⟨-, -, phase⟩ :=
      Registry.Deed.phase_cases ⟨l.registry.get w, op⟩
    · cases idle.symm.trans phase
    · cases idle.symm.trans phase
    · exact phase.symm.trans idle
  adds := by
    refine ⟨_, d.diary, ?_⟩
    rw [d.registry]
    rcases op.enrols_cases (l.registry.get w) with ⟨none, next⟩ | ⟨one, next, -⟩
    · rw [none, next]
      exact ⟨fun _ _ _ _ _ => List.not_mem_nil, fun h le lt => absurd lt (Nat.not_lt.2 le)⟩
    · rw [one, next]
      refine ⟨fun h _ _ block c mem => by simp at mem, fun h le lt => ?_⟩
      rw [Nat.le_antisymm (Nat.le_of_lt_succ lt) le]
      exact List.mem_singleton.2 rfl
  order o := o.does d honest finish

/-- What hosts and watchers perform themselves finishes no start. -/
lemma Does.leads_of_free (d : l.Does op w v) (free : op.Free (l.registry.get w)) :
    l.Leads w v := by
  refine d.leads free.honest fun finish => ?_
  subst finish
  exact free.elim

lemma Leads.refl (w : W) : l.Leads w w :=
  Rests.leads ⟨rfl, rfl⟩

lemma Leads.trans (a : l.Leads u v) (b : l.Leads v w) : l.Leads u w where
  later := a.later.trans b.later
  idle idle := a.idle (b.idle idle)
  adds := by
    obtain ⟨new, diary, told, enrolled⟩ := a.adds
    obtain ⟨new', diary', told', enrolled'⟩ := b.adds
    refine ⟨new ++ new', by rw [diary', diary, List.append_assoc], ?_, ?_⟩
    · intro h made dead block c mem
      rcases List.mem_append.1 mem with mem | mem
      · exact told h made dead block c mem
      · have made' := Nat.lt_of_lt_of_le made a.later.next
        refine told' h made' ?_ block c mem
        by_contra live
        rw [a.later.live h made (by simpa using live)] at dead
        cases dead
    · intro h le lt
      rcases Nat.lt_or_ge h (l.registry.get v).nextHandle with made | new
      · exact List.mem_append_left _ (enrolled h le made)
      · exact List.mem_append_right _ (enrolled' h new lt)
  order o := b.order (a.order o)

instance : IsPreorder W l.Leads where
  refl := .refl
  trans _ _ _ := .trans

end Lodge

end LedgerWatch
