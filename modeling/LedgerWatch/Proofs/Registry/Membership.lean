import LedgerWatch.Proofs.Registry.Conduct
import Mathlib.Data.List.Perm.Basic

/-!
# Membership of a registry

Whatever a host and its watchers do, in whatever order and from whatever depth, a registry that is
asked lists the handles that it has made and that are still active, each under its own name. An old
handle that is cancelled late or again takes nothing from the registration that has its name by now,
and a handle asks to be forgotten at most once.
-/

namespace LedgerWatch

namespace Registry

variable {σ : Type} [Inhabited σ] {r : Registry σ} {h : Handle} {name : String}

/-- What a registry answers after a course of deeds. -/
structure Membership (deeds : List (Deed σ)) (r : Registry σ) : Prop where
  /-- A name is answered by the active handle that was made under it. -/
  find? : ∀ name h, r.find? name = some h ↔
    (∃ d ∈ deeds, d.Makes name h) ∧ r.isLive h = true
  names_nodup : r.names.Nodup
  mem_names : ∀ name, name ∈ r.names ↔ ∃ h, r.find? name = some h
  /-- A start and a notification go through every active handle once. -/
  handles_nodup : r.settle.members.values.Nodup
  mem_handles : ∀ h, h ∈ r.settle.members.values ↔ r.isLive h = true
  size : r.size = (List.range r.nextHandle).countP r.isLive
  /-- Cancelling another handle, for the first time or again, leaves a name to its handle. -/
  cancel_other : ∀ name h k, r.find? name = some h → k ≠ h → (r.cancel k).find? name = some h
  /-- The name of a cancelled registration is free for another one. -/
  register_cancelled : r.phase = .idle → ∀ name h watcher settings, r.find? name = some h →
    ((r.cancel h).register name watcher settings).1 = .ok r.nextHandle
  register_removed : r.phase = .idle → ∀ name h watcher settings, r.find? name = some h →
    ((r.remove name).2.register name watcher settings).1 = .ok r.nextHandle
  /-- No handle asks twice to be forgotten. -/
  posts_nodup : (deeds.flatMap Deed.posts).Nodup

/-- A sound registry has as many members as active registrations. -/
lemma Sound.size (hr : r.Sound) : r.size = (List.range r.nextHandle).countP r.isLive := by
  have perm : r.settle.members.values.Perm ((List.range r.nextHandle).filter r.isLive) := by
    apply (List.perm_ext_iff_of_nodup hr.handles_nodup (List.nodup_range.filter _)).2
    intro h
    rw [hr.mem_handles, List.mem_filter, List.mem_range]
    exact ⟨fun live => ⟨lt_of_isLive live, live⟩, fun both => both.2⟩
  have length := perm.length_eq
  rw [← List.countP_eq_length_filter] at length
  rw [← length]
  exact (List.length_map _).symm

/-- A name that nobody has is given to the next handle while the registry is idle. -/
lemma register_free (idle : r.phase = .idle) (named : name.isEmpty = false)
    (free : r.find? name = none) (watcher : σ) (settings : Settings) :
    (r.register name watcher settings).1 = .ok r.nextHandle := by
  have untaken : r.settle.members.contains name = false := by
    have free' : r.settle.members.get? name = none := free
    rw [Table.contains, free']
    rfl
  simp [Registry.register, named, checkIdle, idle, untaken]

/-- The names are those under which something is found. -/
lemma mem_names : name ∈ r.names ↔ ∃ h, r.find? name = some h := by
  constructor
  · intro mem
    obtain ⟨⟨_, h⟩, entry, rfl⟩ := List.mem_map.1 mem
    exact ⟨h, (Table.get?_eq_some_iff _).2 entry⟩
  · rintro ⟨h, found⟩
    exact List.mem_map.2 ⟨_, (Table.get?_eq_some_iff _).1 found, rfl⟩

/-- Nobody else is active under the name of a registration that is found. -/
lemma Sound.eq_of_find? (hr : r.Sound) (found : r.find? name = some h) {k : Handle}
    (live : r.isLive k = true) (named : (r.get k).name = name) : k = h := by
  have foundk := hr.find?_iff.2 ⟨live, named⟩
  rw [found] at foundk
  exact (Option.some.inj foundk).symm

/-- Cancelling one registration leaves the others to be found. -/
lemma Sound.find?_cancel_of_ne (hr : r.Sound) (found : r.find? name = some h) {k : Handle}
    (ne : k ≠ h) : (r.cancel k).find? name = some h := by
  obtain ⟨live, named⟩ := hr.find?_iff.1 found
  apply (hr.cancel k).find?_iff.2
  rw [isLive_cancel, get_cancel_name]
  exact ⟨by simp [live, ne.symm], named⟩

/-- A registration that was cancelled is not found. -/
lemma Sound.find?_cancel_self (hr : r.Sound) (found : r.find? name = some h) :
    (r.cancel h).find? name = none := by
  by_contra taken
  obtain ⟨k, foundk⟩ := Option.ne_none_iff_exists'.1 taken
  obtain ⟨live, named⟩ := (hr.cancel h).find?_iff.1 foundk
  rw [get_cancel_name] at named
  rw [isLive_cancel, Bool.and_eq_true, decide_eq_true_iff] at live
  exact live.2 (hr.eq_of_find? found live.1 named)

/-- A name that was removed is not found. -/
lemma Sound.find?_remove (hr : r.Sound) (name : String) : (r.remove name).2.find? name = none := by
  by_contra taken
  obtain ⟨k, foundk⟩ := Option.ne_none_iff_exists'.1 taken
  obtain ⟨live, named⟩ := (hr.remove name).find?_iff.1 foundk
  obtain ⟨free, e⟩ | ⟨h, found, e⟩ := remove_cases name r
  · rw [e] at live named
    have foundk := (hr.lists_settle name k).2 ⟨live, named⟩
    rw [free] at foundk
    cases foundk
  · rw [e, get_cancel_name] at named
    rw [e, isLive_cancel, Bool.and_eq_true, decide_eq_true_iff] at live
    have foundk := (hr.lists_settle name k).2 ⟨live.1, named⟩
    rw [found] at foundk
    exact live.2 (Option.some.inj foundk).symm

/-- Only names that are not empty have a registration. -/
lemma Deed.Makes.named {d : Deed σ} (made : d.Makes name h) : name.isEmpty = false := by
  obtain ⟨watcher, settings, -, answer⟩ := made
  obtain ⟨named, -, -, -⟩ | ⟨e, refused, -⟩ := register_cases name watcher settings d.before
  · exact named
  · rw [refused] at answer
    cases answer

/-- What a course of deeds makes of an empty registry. -/
lemma Course.membership {deeds : List (Deed σ)} (c : Course {} deeds r) : Membership deeds r := by
  have hr : r.Sound := Sound.empty.course c
  have find? name h : r.find? name = some h ↔
      (∃ d ∈ deeds, d.Makes name h) ∧ r.isLive h = true := by
    rw [hr.find?_iff, c.makes_iff]
    constructor
    · rintro ⟨live, named⟩
      exact ⟨⟨Nat.zero_le h, lt_of_isLive live, named⟩, live⟩
    · rintro ⟨⟨-, -, named⟩, live⟩
      exact ⟨live, named⟩
  have named {name h} (found : r.find? name = some h) : name.isEmpty = false := by
    obtain ⟨⟨d, -, made⟩, -⟩ := (find? name h).1 found
    exact made.named
  constructor
  case find? => exact find?
  case names_nodup => exact r.names_nodup
  case mem_names => exact fun name => r.mem_names
  case handles_nodup => exact hr.handles_nodup
  case mem_handles => exact fun h => hr.mem_handles
  case size => exact hr.size
  case cancel_other => exact fun name h k found ne => hr.find?_cancel_of_ne found ne
  case register_cancelled =>
    intro idle name h watcher settings found
    have idle' : (r.cancel h).phase = .idle := cancel_phase.trans idle
    rw [register_free idle' (named found) (hr.find?_cancel_self found), nextHandle_cancel]
  case register_removed =>
    intro idle name h watcher settings found
    have idle' : (r.remove name).2.phase = .idle := (remove_phase name r).trans idle
    rw [register_free idle' (named found) (hr.find?_remove name), nextHandle_remove]
  case posts_nodup => exact c.posts_nodup.1

end Registry

open Registry (Membership)

variable {W σ : Type} [Inhabited σ]

/--
At every moment of every run of an orderly site, the registry lists the active handles that it has
made, each under its own name.
-/
theorem lists_active_handles {s : Site W σ} (hs : s.Orderly) (commands : List (Site.Command σ))
    {w : W} (fresh : s.registry.get w = {}) :
    (∀ v ∈ (s.carryOut commands).visited w,
      ∃ deeds, (s.carryOut commands).Performs s.registry 0 w deeds v) ∧
    ∀ deeds v, (s.carryOut commands).Performs s.registry 0 w deeds v →
      Membership deeds (s.registry.get v) := by
  refine ⟨fun v hv => (hs.carryOut commands).performs hv, fun deeds v performs => ?_⟩
  have course := performs.course
  rw [fresh] at course
  exact course.membership

/-- A registry, counters and a ledger, and nothing else. -/
structure Office where
  registry : Registry Unit := {}
  metrics : Metrics := {}
  ledger : Ledger := {}

namespace Office

/-- The registry of an office. -/
def registryPart : Part Office (Registry Unit) where
  get o := o.registry
  set registry o := { o with registry }
  get_set _ _ := rfl

/-- The counters of an office. -/
def metricsPart : Part Office Metrics where
  get o := o.metrics
  set metrics o := { o with metrics }
  get_set _ _ := rfl

/-- The ledger of an office. -/
def ledgerPart : Part Office Ledger where
  get o := o.ledger
  set ledger o := { o with ledger }
  get_set _ _ := rfl

/-- An office whose watchers do something when they are started or notified, and ask for more. -/
def site (conduct : Program Office Unit) : Site Office Unit where
  registry := registryPart
  metrics := metricsPart
  ledger := .ofPart ledgerPart
  behaviour :=
    { start _ _ := do
        conduct
        return (.ok (.after .root), ())
      notify _ _ c := do
        conduct
        return (.ok (some c), ()) }

/-- The watchers of an office use its registry in an orderly way. -/
lemma site_orderly {conduct : Program Office Unit} (h : conduct.Uses registryPart 0) :
    (site conduct).Orderly where
  metrics _ _ := rfl
  start _ _ := h.bind fun _ => .done _
  notify _ _ _ := h.bind fun _ => .done _
  ledger _ := Program.Uses.bind (.look _) fun _ => .done _

/-- Cancelling the first registration that was ever made, which everyone here does. -/
def cancelFirst : Program Office Unit :=
  Program.modify registryPart (Registry.cancel 0)

/-- A name is registered, cancelled, registered again and cancelled by its old handle. -/
def reregistering : List (Site.Command Unit) :=
  [.register "a" () .empty, .cancel 0, .register "a" () .empty, .cancel 0, .start,
    .notify ⟨.ofNat 1, .root, 1, []⟩]

end Office

/-- The name is still answered by its new registration, which the run has made. -/
theorem lists_active_handles_at_office :
    let v := (((Office.site Office.cancelFirst).carryOut Office.reregistering).run {}).2
    ∃ deeds, Membership deeds v.registry ∧ v.registry.find? "a" = some 1 ∧
      ∃ d ∈ deeds, d.Makes "a" 1 := by
  intro v
  have orderly : (Office.site Office.cancelFirst).Orderly :=
    Office.site_orderly (.modify (.cancel 0) (fun _ => rfl) fun _ => rfl)
  obtain ⟨reached, membership⟩ :=
    lists_active_handles orderly Office.reregistering (w := {}) rfl
  obtain ⟨deeds, performs⟩ := reached v (Program.run_mem_visited _ _)
  have found : v.registry.find? "a" = some 1 := by decide
  have answers := membership deeds v performs
  exact ⟨deeds, answers, found, ((answers.find? "a" 1).1 found).1⟩

end LedgerWatch
