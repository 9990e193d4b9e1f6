import LedgerWatch.Registry.Basic
import Mathlib.Data.List.Nodup
import Mathlib.Tactic.Lemma

/-!
# What a registry keeps

A registration is cancelled in two steps: it is inactive at once, and the registry is asked to
forget it. Between the two the registry may keep registrations that are not active any more, and it
may be asked to forget one that it does not keep, whose name may even belong to another one by now.
The invariant `Registry.Sound` relates what is kept, what is to be forgotten and what is active, and
every change of a registry preserves it. A sound registry that is asked for a registration answers
with the active one of that name.
-/

namespace LedgerWatch

namespace Registry

variable {σ : Type} [Inhabited σ] {r : Registry σ} {f : Registration σ → Registration σ}
  {h k : Handle} {name : String}

/-! ### Single registrations -/

/-- A registration that was made is changed. -/
lemma get_amend_self (hr : h < r.nextHandle) : (r.amend h f).get h = f (r.get h) := by
  have hr' : h < r.registrations.length := hr
  simp [amend, get, hr']

/-- Other registrations are not. -/
lemma get_amend_of_ne (ne : k ≠ h) : (r.amend h f).get k = r.get k := by
  simp [amend, get, ne.symm]

/-- A change of something else leaves a field of every registration alone. -/
lemma field_get_amend {β : Type} (field : Registration σ → β)
    (hf : ∀ reg, field (f reg) = field reg) (r : Registry σ) (h k : Handle) :
    field ((r.amend h f).get k) = field (r.get k) := by
  by_cases ne : k = h
  · subst ne
    by_cases hk : k < r.nextHandle
    · rw [get_amend_self hk, hf]
    · have hk' : r.registrations.length ≤ k := Nat.not_lt.1 hk
      simp [amend, get, hk']
  · rw [get_amend_of_ne ne]

omit [Inhabited σ] in
@[simp] lemma nextHandle_amend : (r.amend h f).nextHandle = r.nextHandle := by
  simp [amend, nextHandle]

/-- Only registrations that were made are active. -/
lemma lt_of_isLive (live : r.isLive h = true) : h < r.nextHandle := by
  by_contra hn
  have hn' : r.registrations.length ≤ h := Nat.not_lt.1 hn
  simp [isLive, get, hn', default] at live

/-- The new registration waits for any block after the root; the others are as they were. -/
lemma get_add (watcher : σ) (settings : Settings) (k : Handle) :
    (r.add name watcher settings).get k
      = if k = r.nextHandle then ⟨name, settings, watcher, .active, .after .root, false⟩
        else r.get k := by
  unfold add get nextHandle
  by_cases hk : k = r.registrations.length
  · subst hk
    simp
  · rw [if_neg hk]
    rcases Nat.lt_or_gt_of_ne hk with lt | gt
    · simp [List.getElem?_append_left lt]
    · have beyond (new : Registration σ) : (r.registrations ++ [new]).length ≤ k := by
        rw [List.length_append]
        exact gt
      rw [List.getD_eq_getElem?_getD, List.getD_eq_getElem?_getD,
        List.getElem?_eq_none (beyond _), List.getElem?_eq_none (Nat.le_of_lt gt)]

omit [Inhabited σ] in
@[simp] lemma nextHandle_add (watcher : σ) (settings : Settings) :
    (r.add name watcher settings).nextHandle = r.nextHandle + 1 := by
  simp [add, nextHandle]

/-! ### Cancelling -/

/-- An active registration is cancelled, and the registry is asked to forget it. -/
lemma cancel_of_live (live : r.isLive h = true) :
    r.cancel h = { r.amend h fun reg => { reg with status := .cancelled } with
      intents := r.intents ++ [h] } :=
  if_pos live

/-- Nothing comes of cancelling a registration that is not active. -/
lemma cancel_of_dead (dead : r.isLive h = false) : r.cancel h = r := by
  rw [cancel, dead, if_neg Bool.false_ne_true]

@[simp] lemma cancel_members : (r.cancel h).members = r.members := by
  cases live : r.isLive h with
  | true =>
    rw [cancel_of_live live]
    rfl
  | false => rw [cancel_of_dead live]

@[simp] lemma cancel_phase : (r.cancel h).phase = r.phase := by
  cases live : r.isLive h with
  | true =>
    rw [cancel_of_live live]
    rfl
  | false => rw [cancel_of_dead live]

@[simp] lemma nextHandle_cancel : (r.cancel h).nextHandle = r.nextHandle := by
  cases live : r.isLive h with
  | true =>
    rw [cancel_of_live live]
    exact nextHandle_amend
  | false => rw [cancel_of_dead live]

/-- Other registrations are not cancelled. -/
lemma get_cancel_of_ne (ne : k ≠ h) : (r.cancel h).get k = r.get k := by
  cases live : r.isLive h with
  | true =>
    rw [cancel_of_live live]
    exact get_amend_of_ne ne
  | false => rw [cancel_of_dead live]

/-- Nothing but its status is changed when a registration is cancelled. -/
lemma get_cancel_self (live : r.isLive h = true) :
    (r.cancel h).get h = { r.get h with status := .cancelled } := by
  rw [cancel_of_live live]
  exact get_amend_self (lt_of_isLive live)

/-- Cancelling leaves everything but the status of every registration alone. -/
lemma field_get_cancel {β : Type} (field : Registration σ → β)
    (hf : ∀ reg, field { reg with status := .cancelled } = field reg) (r : Registry σ)
    (h k : Handle) : field ((r.cancel h).get k) = field (r.get k) := by
  by_cases same : k = h
  · subst same
    cases live : r.isLive k with
    | true => rw [get_cancel_self live, hf]
    | false => rw [cancel_of_dead live]
  · rw [get_cancel_of_ne same]

/-- A cancelled registration keeps its name. -/
@[simp] lemma get_cancel_name : ((r.cancel h).get k).name = (r.get k).name :=
  field_get_cancel Registration.name (fun _ => rfl) r h k

/-- Who was active and is not the one cancelled is active. -/
@[simp] lemma isLive_cancel : (r.cancel h).isLive k = (r.isLive k && decide (k ≠ h)) := by
  by_cases same : k = h
  · subst same
    cases live : r.isLive k with
    | true => simp [isLive, get_cancel_self live]
    | false => rw [cancel_of_dead live, live, Bool.false_and]
  · simp [isLive, get_cancel_of_ne same, same]

/-- Only an active registration asks to be forgotten. -/
lemma cancel_intents : (r.cancel h).intents = r.intents ++ if r.isLive h then [h] else [] := by
  cases live : r.isLive h with
  | true =>
    rw [cancel_of_live live]
    rfl
  | false =>
    rw [cancel_of_dead live]
    exact (List.append_nil _).symm

/-! ### Forgetting -/

@[simp] lemma forget_registrations : (r.forget h).registrations = r.registrations := by
  unfold forget
  split <;> rfl

/-- What was kept under a name is kept unless it is the registration to be forgotten. -/
lemma forget_get? (key : String) :
    (r.forget h).members.get? key
      = (r.members.get? key).filter fun k => !decide (k = h ∧ (r.get h).name = key) := by
  unfold forget
  split
  · rename_i kept
    rw [Table.get?_erase]
    by_cases hk : key = (r.get h).name
    · subst hk
      simp [kept, Option.filter]
    · have ne : ¬(r.get h).name = key := fun e => hk e.symm
      cases r.members.get? key <;> simp [Option.filter, hk, ne]
  · rename_i kept
    cases found : r.members.get? key with
    | none => rfl
    | some k =>
      -- the registration to be forgotten is not the one that is kept under its name
      have stays : ¬(k = h ∧ (r.get h).name = key) := by
        rintro ⟨rfl, rfl⟩
        exact kept found
      simp [Option.filter, stays]

/--
Forgetting registrations drops the names under which they are kept, and changes nothing else.
-/
lemma foldl_forget (hs : List Handle) (r : Registry σ) :
    (hs.foldl forget r).registrations = r.registrations ∧ (hs.foldl forget r).phase = r.phase ∧
      ∀ key, (hs.foldl forget r).members.get? key
        = (r.members.get? key).filter fun k => !decide (k ∈ hs ∧ (r.get k).name = key) := by
  induction hs generalizing r with
  | nil =>
    refine ⟨rfl, rfl, fun key => ?_⟩
    rw [List.foldl_nil]
    cases r.members.get? key <;> simp [Option.filter]
  | cons h rest ih =>
    obtain ⟨registrations, phase, kept⟩ := ih (r.forget h)
    have same : ∀ k, (r.forget h).get k = r.get k := fun k => by simp [get]
    refine ⟨registrations.trans forget_registrations, phase.trans ?_, fun key => ?_⟩
    · unfold forget
      split <;> rfl
    · rw [List.foldl_cons, kept key, forget_get?]
      cases r.members.get? key with
      | none => rfl
      | some k =>
        by_cases hk : k = h ∧ (r.get h).name = key
        · obtain ⟨rfl, named⟩ := hk
          simp [Option.filter, named]
        · have stays : ¬(k = h ∧ (r.get k).name = key) := fun e => hk (e.1 ▸ e)
          by_cases named : (r.get k).name = key
          · have ne : k ≠ h := fun e => stays ⟨e, named⟩
            simp [Option.filter, same, named, ne]
          · simp [Option.filter, same, named, hk]

@[simp] lemma settle_registrations : r.settle.registrations = r.registrations :=
  (foldl_forget r.intents r).1

@[simp] lemma settle_phase : r.settle.phase = r.phase :=
  (foldl_forget r.intents r).2.1

@[simp] lemma settle_intents : r.settle.intents = [] :=
  rfl

@[simp] lemma settle_nextHandle : r.settle.nextHandle = r.nextHandle := by
  simp [nextHandle]

@[simp] lemma settle_get : r.settle.get k = r.get k := by
  simp [get]

@[simp] lemma settle_isLive : r.settle.isLive k = r.isLive k := by
  simp [isLive]

/-- What is kept under a name once everything is forgotten that should be. -/
lemma settle_get? (key : String) :
    r.settle.members.get? key
      = (r.members.get? key).filter fun k => !decide (k ∈ r.intents ∧ (r.get k).name = key) :=
  (foldl_forget r.intents r).2.2 key

/-! ### The invariant -/

/--
What is kept, what is to be forgotten and what is active agree: an active registration is kept under
its name, what is kept under a name was made under it, and the registry was asked to forget what it
keeps that is not active. Only registrations that are not active are to be forgotten.
-/
structure Sound (r : Registry σ) : Prop where
  kept : ∀ h, r.isLive h = true → r.members.get? (r.get h).name = some h
  named : ∀ name h, r.members.get? name = some h → h < r.nextHandle ∧ (r.get h).name = name
  pending : ∀ name h, r.members.get? name = some h → r.isLive h = false → h ∈ r.intents
  dead : ∀ h ∈ r.intents, h < r.nextHandle ∧ r.isLive h = false

/-- A new registry is sound. -/
lemma Sound.empty : Sound ({} : Registry σ) where
  kept h live := absurd (lt_of_isLive live) (Nat.not_lt_zero h)
  named _ _ found := by cases found
  pending _ _ found := by cases found
  dead _ mem := by cases mem

/-- Once everything is forgotten that should be, the active registrations are kept and no others. -/
lemma Sound.settle_get?_iff (hr : r.Sound) :
    r.settle.members.get? name = some h ↔ r.isLive h = true ∧ (r.get h).name = name := by
  rw [settle_get?]
  constructor
  · intro found
    obtain ⟨found, stays⟩ := Option.filter_eq_some_iff.1 found
    obtain ⟨-, hname⟩ := hr.named name h found
    refine ⟨?_, hname⟩
    by_contra dead
    have asked := hr.pending name h found (by simpa using dead)
    simp [asked, hname] at stays
  · rintro ⟨live, hname⟩
    have found := hr.kept h live
    rw [hname] at found
    refine Option.filter_eq_some_iff.2 ⟨found, ?_⟩
    have stays : h ∉ r.intents := by
      intro mem
      have dead := (hr.dead h mem).2
      rw [live] at dead
      cases dead
    simp [stays]

/-- The active registrations are kept, each under its own name, and no others. -/
def Lists (r : Registry σ) : Prop :=
  ∀ name h, r.members.get? name = some h ↔ r.isLive h = true ∧ (r.get h).name = name

/-- A registry that keeps just what is active is sound, whatever it was asked to forget. -/
lemma Lists.sound (hr : r.Lists)
    (dead : ∀ h ∈ r.intents, h < r.nextHandle ∧ r.isLive h = false) : r.Sound where
  kept h live := (hr _ h).2 ⟨live, rfl⟩
  named name h found := by
    obtain ⟨live, hname⟩ := (hr name h).1 found
    exact ⟨lt_of_isLive live, hname⟩
  pending name h found hdead := by
    obtain ⟨live, -⟩ := (hr name h).1 found
    rw [live] at hdead
    cases hdead
  dead := dead

/--
A registry that has forgotten what it should keeps the active registrations under their names.
-/
lemma Sound.lists_settle (hr : r.Sound) : r.settle.Lists := by
  intro name h
  rw [settle_isLive, settle_get]
  exact hr.settle_get?_iff

/-- Forgetting the cancelled registrations keeps a registry sound. -/
lemma Sound.settle (hr : r.Sound) : r.settle.Sound :=
  hr.lists_settle.sound fun _ mem => by cases mem

/-- Neither names nor what is active is changed, so nothing is that the invariant is about. -/
lemma Sound.amend (hr : r.Sound) (hname : ∀ reg, (f reg).name = reg.name)
    (hstatus : ∀ reg, (f reg).status = reg.status) (h : Handle) : (r.amend h f).Sound := by
  have name k : ((r.amend h f).get k).name = (r.get k).name :=
    field_get_amend Registration.name hname r h k
  have live k : (r.amend h f).isLive k = r.isLive k := by
    have same := field_get_amend Registration.status hstatus r h k
    simp only [isLive, same]
  constructor
  · intro k hk
    rw [live] at hk
    rw [name]
    exact hr.kept k hk
  · intro key k found
    rw [name, nextHandle_amend]
    exact hr.named key k found
  · intro key k found hk
    rw [live] at hk
    exact hr.pending key k found hk
  · intro k mem
    rw [live, nextHandle_amend]
    exact hr.dead k mem

/-- The phase has nothing to do with what is kept. -/
lemma Sound.setPhase (hr : r.Sound) (phase : Phase) : Sound { r with phase } where
  kept := hr.kept
  named := hr.named
  pending := hr.pending
  dead := hr.dead

/-- Cancelling a registration, on whatever it was called before. -/
lemma Sound.cancel (hr : r.Sound) (h : Handle) : (r.cancel h).Sound where
  kept k live := by
    rw [isLive_cancel, Bool.and_eq_true] at live
    rw [cancel_members, get_cancel_name]
    exact hr.kept k live.1
  named name k found := by
    rw [cancel_members] at found
    rw [nextHandle_cancel, get_cancel_name]
    exact hr.named name k found
  pending name k found dead := by
    rw [cancel_members] at found
    rw [cancel_intents, List.mem_append]
    -- who is kept and not active was so before, or was just cancelled and asks to be forgotten
    cases live : r.isLive k with
    | true =>
      have same : k = h := by
        rw [isLive_cancel, live] at dead
        simpa using dead
      subst same
      rw [if_pos live]
      exact .inr (List.mem_singleton.2 rfl)
    | false => exact .inl (hr.pending name k found live)
  dead k mem := by
    rw [cancel_intents, List.mem_append] at mem
    rw [nextHandle_cancel, isLive_cancel]
    rcases mem with mem | mem
    · obtain ⟨lt, dead⟩ := hr.dead k mem
      exact ⟨lt, by rw [dead, Bool.false_and]⟩
    · cases live : r.isLive h with
      | true =>
        rw [if_pos live, List.mem_singleton] at mem
        subst mem
        exact ⟨lt_of_isLive live, by simp⟩
      | false =>
        rw [live, if_neg Bool.false_ne_true] at mem
        cases mem

/-- Making a registration under a name that no other one has. -/
lemma Sound.add (hr : r.Sound) (free : r.members.get? name = none) (watcher : σ)
    (settings : Settings) : (r.add name watcher settings).Sound := by
  have old k (lt : k < r.nextHandle) : (r.add name watcher settings).get k = r.get k := by
    rw [get_add, if_neg (Nat.ne_of_lt lt)]
  have new : (r.add name watcher settings).get r.nextHandle
      = ⟨name, settings, watcher, .active, .after .root, false⟩ := by
    rw [get_add, if_pos rfl]
  have members key : (r.add name watcher settings).members.get? key
      = if key = name then some r.nextHandle else r.members.get? key :=
    Table.get?_insert _ _ _ _
  constructor
  · intro k live
    have lt := lt_of_isLive live
    rw [nextHandle_add] at lt
    rw [members]
    rcases Nat.lt_succ_iff_lt_or_eq.1 lt with lt | rfl
    · simp only [isLive, old k lt] at live
      rw [old k lt]
      have found := hr.kept k (by simpa [isLive] using live)
      have other : (r.get k).name ≠ name := by
        intro same
        rw [same, free] at found
        cases found
      rw [if_neg other]
      exact found
    · rw [new, if_pos rfl]
  · intro key k found
    rw [members] at found
    rw [nextHandle_add]
    split at found
    · rename_i same
      cases found
      rw [new]
      exact ⟨Nat.lt_succ_self _, same.symm⟩
    · obtain ⟨lt, hname⟩ := hr.named key k found
      rw [old k lt]
      exact ⟨Nat.lt_succ_of_lt lt, hname⟩
  · intro key k found dead
    rw [members] at found
    split at found
    · cases found
      simp [isLive, new] at dead
    · obtain ⟨lt, -⟩ := hr.named key k found
      simp only [isLive, old k lt] at dead
      exact hr.pending key k found (by simpa [isLive] using dead)
  · intro k mem
    obtain ⟨lt, dead⟩ := hr.dead k mem
    rw [nextHandle_add]
    simp only [isLive, old k lt]
    exact ⟨Nat.lt_succ_of_lt lt, dead⟩

/-! ### The registry's own operations -/

/-- A registration is made only under a name that is free, or the registry just settles. -/
lemma register_cases (name : String) (watcher : σ) (settings : Settings) (r : Registry σ) :
    (name.isEmpty = false ∧ r.phase = .idle ∧ r.settle.members.get? name = none ∧
      r.register name watcher settings
        = (.ok r.nextHandle, r.settle.add name watcher settings)) ∨
    ∃ e, (r.register name watcher settings).1 = .error e ∧
      ((r.register name watcher settings).2 = r ∨
        (r.register name watcher settings).2 = r.settle) := by
  unfold register
  by_cases empty : name.isEmpty = true
  · rw [if_pos empty]
    exact .inr ⟨_, rfl, .inl rfl⟩
  · rw [if_neg empty]
    have same : r.settle.phase = r.phase := settle_phase
    cases phase : r.phase with
    | idle =>
      by_cases taken : r.settle.members.contains name = true
      · right
        simp only [checkIdle, same, phase, if_pos taken]
        exact ⟨_, rfl, .inr trivial⟩
      · left
        have free : r.settle.members.get? name = none := by
          simpa [Table.contains] using taken
        refine ⟨by simpa using empty, rfl, free, ?_⟩
        simp only [checkIdle, same, phase, if_neg taken, settle_nextHandle]
    | active =>
      right
      simp only [checkIdle, same, phase]
      exact ⟨_, rfl, .inr trivial⟩
    | closed =>
      right
      simp only [checkIdle, same, phase]
      exact ⟨_, rfl, .inr trivial⟩

/-- A registration, made or refused, keeps a registry sound. -/
lemma Sound.register (hr : r.Sound) (name : String) (watcher : σ) (settings : Settings) :
    (r.register name watcher settings).2.Sound := by
  obtain ⟨-, -, free, e⟩ | ⟨_, -, e | e⟩ := register_cases name watcher settings r
  · rw [e]
    exact hr.settle.add free watcher settings
  · rw [e]
    exact hr
  · rw [e]
    exact hr.settle

/-- A name that is kept is taken out of the table before its registration is cancelled. -/
lemma remove_cases (name : String) (r : Registry σ) :
    (r.settle.members.get? name = none ∧ r.remove name = (none, r.settle)) ∨
    ∃ h, r.settle.members.get? name = some h ∧
      r.remove name
        = (some h, Registry.cancel h { r.settle with members := r.settle.members.erase name }) := by
  unfold remove
  cases found : r.settle.members.get? name with
  | none => exact .inl ⟨rfl, by simp only [found]⟩
  | some h => exact .inr ⟨h, rfl, by simp only [found]⟩

/-- Removing a registration does not change the phase. -/
lemma remove_phase (name : String) (r : Registry σ) : (r.remove name).2.phase = r.phase := by
  obtain ⟨-, e⟩ | ⟨h, -, e⟩ := remove_cases name r
  · rw [e]
    exact settle_phase
  · rw [e, cancel_phase]
    exact settle_phase

/-- Removing a registration makes none. -/
lemma nextHandle_remove (name : String) (r : Registry σ) :
    (r.remove name).2.nextHandle = r.nextHandle := by
  obtain ⟨-, e⟩ | ⟨h, -, e⟩ := remove_cases name r
  · rw [e]
    exact settle_nextHandle
  · rw [e, nextHandle_cancel]
    exact settle_nextHandle

/-- Removing a registration keeps a registry sound. -/
lemma Sound.remove (hr : r.Sound) (name : String) : (r.remove name).2.Sound := by
  obtain ⟨-, e⟩ | ⟨h, found, e⟩ := remove_cases name r
  · rw [e]
    exact hr.settle
  · rw [e]
    have live k : Registry.isLive { r.settle with members := r.settle.members.erase name } k
        = r.settle.isLive k := rfl
    obtain ⟨liveh, hname⟩ := (hr.lists_settle name h).1 found
    apply Lists.sound
    · intro key k
      rw [cancel_members, Table.get?_erase, isLive_cancel, get_cancel_name, live]
      by_cases same : key = name
      · subst same
        refine ⟨fun found => by simp at found, fun ⟨livek, hk⟩ => ?_⟩
        -- the name has only the registration that is cancelled
        rw [Bool.and_eq_true, decide_eq_true_iff] at livek
        have foundk := (hr.lists_settle key k).2 ⟨livek.1, hk⟩
        rw [found] at foundk
        exact absurd (Option.some.inj foundk).symm livek.2
      · rw [if_neg same]
        refine (hr.lists_settle key k).trans ⟨fun ⟨livek, hk⟩ => ⟨?_, hk⟩, fun ⟨livek, hk⟩ => ?_⟩
        · have ne : k ≠ h := by
            rintro rfl
            exact same (hk.symm.trans hname)
          simp [livek, ne]
        · rw [Bool.and_eq_true] at livek
          exact ⟨livek.1, hk⟩
    · intro k mem
      rw [cancel_intents, live, if_pos liveh] at mem
      rw [nextHandle_cancel, isLive_cancel]
      have same : k = h := by simpa using mem
      subst same
      exact ⟨lt_of_isLive liveh, by simp⟩

/-- Cancelling registrations makes them inactive, and keeps names, members and the phase. -/
lemma foldl_cancel (hs : List Handle) (r : Registry σ) :
    (hs.foldl (fun r h => r.cancel h) r).members = r.members ∧
      (hs.foldl (fun r h => r.cancel h) r).phase = r.phase ∧
      (hs.foldl (fun r h => r.cancel h) r).nextHandle = r.nextHandle ∧
      (∀ k, ((hs.foldl (fun r h => r.cancel h) r).get k).name = (r.get k).name) ∧
      ∀ k, (hs.foldl (fun r h => r.cancel h) r).isLive k = (r.isLive k && decide (k ∉ hs)) := by
  induction hs generalizing r with
  | nil => simp
  | cons h rest ih =>
    obtain ⟨members, phase, next, name, live⟩ := ih (r.cancel h)
    refine ⟨members.trans cancel_members, phase.trans cancel_phase,
      next.trans nextHandle_cancel, fun k => (name k).trans get_cancel_name, fun k => ?_⟩
    rw [List.foldl_cons, live, isLive_cancel]
    by_cases ne : k = h
    · simp [ne]
    · simp [ne]

/-- The registry as `close` leaves it before it forgets what it has cancelled. -/
def emptied (r : Registry σ) : Registry σ :=
  r.settle.members.values.foldl (fun r h => r.cancel h)
    { r.settle with phase := .closed, members := .empty }

/-- Closing a registry empties it and then forgets what was cancelled. -/
lemma close_eq (r : Registry σ) : r.close = r.emptied.settle :=
  rfl

/-- Nothing is active in a registry that was emptied. -/
lemma Sound.isLive_emptied (hr : r.Sound) (k : Handle) : r.emptied.isLive k = false := by
  obtain ⟨-, -, -, -, live⟩ := foldl_cancel r.settle.members.values
    { r.settle with phase := .closed, members := .empty }
  have before : Registry.isLive { r.settle with phase := .closed, members := .empty } k
      = r.settle.isLive k := rfl
  refine (live k).trans ?_
  rw [before]
  cases hk : r.settle.isLive k with
  | true =>
    -- who is active is kept, and who is kept is cancelled
    have found := (hr.lists_settle _ k).2 ⟨hk, rfl⟩
    have mem : k ∈ r.settle.members.values :=
      List.mem_map.2 ⟨_, (Table.get?_eq_some_iff _).1 found, rfl⟩
    simp [mem]
  | false => rfl

/-- A closed registry keeps nothing. -/
lemma close_members (r : Registry σ) (name : String) : r.close.members.get? name = none := by
  obtain ⟨members, -, -, -, -⟩ := foldl_cancel r.settle.members.values
    { r.settle with phase := .closed, members := .empty }
  have empty : r.emptied.members = .empty := members
  rw [close_eq, settle_get?, empty]
  rfl

@[simp] lemma close_phase (r : Registry σ) : r.close.phase = .closed := by
  obtain ⟨-, phase, -, -, -⟩ := foldl_cancel r.settle.members.values
    { r.settle with phase := .closed, members := .empty }
  rw [close_eq, settle_phase]
  exact phase

/-- Closing keeps a registry sound. -/
lemma Sound.close (hr : r.Sound) : r.close.Sound := by
  apply Lists.sound
  · intro name h
    rw [close_members, close_eq, settle_isLive, hr.isLive_emptied]
    simp
  · intro h mem
    cases mem

/-- The beginning of a start changes nothing but what is to be forgotten. -/
lemma beginStart_snd (r : Registry σ) : r.beginStart.2 = r.settle := by
  unfold beginStart
  cases r.settle.phase <;> simp only <;> split <;> rfl

/-- A start goes through what is kept if the registry is idle, and is refused otherwise. -/
lemma beginStart_fst (r : Registry σ) : r.beginStart.1 = match r.phase with
    | .idle => .ok r.settle.members.values
    | .active => .error .alreadyActive
    | .closed => .error .closed := by
  have phase : r.settle.phase = r.phase := settle_phase
  cases now : r.phase <;> simp only [beginStart, checkIdle, phase, now]

/--
A notification goes through what is kept if the registry is active, and is refused otherwise.
-/
lemma beginNotify_fst (r : Registry σ) : r.beginNotify.1
    = if r.phase = .active then .ok r.settle.members.values else .error .notActive := by
  unfold beginNotify
  simp only [settle_phase]
  split <;> rfl

/-- The beginning of a notification changes nothing but what is to be forgotten. -/
lemma beginNotify_snd (r : Registry σ) : r.beginNotify.2 = r.settle := by
  unfold beginNotify
  simp only
  split <;> rfl

/-! ### Asking a sound registry -/

/-- A sound registry finds the active registration of a name. -/
lemma Sound.find?_iff (hr : r.Sound) :
    r.find? name = some h ↔ r.isLive h = true ∧ (r.get h).name = name :=
  hr.settle_get?_iff

/-- What a start or a notification goes through are the active registrations. -/
lemma Sound.mem_handles (hr : r.Sound) : h ∈ r.settle.members.values ↔ r.isLive h = true := by
  constructor
  · intro mem
    obtain ⟨⟨name, _⟩, entry, rfl⟩ := List.mem_map.1 mem
    exact (hr.find?_iff.1 ((Table.get?_eq_some_iff _).2 entry)).1
  · intro live
    have found := hr.find?_iff.2 ⟨live, rfl⟩
    exact List.mem_map.2 ⟨_, (Table.get?_eq_some_iff _).1 found, rfl⟩

/-- No name is kept twice. -/
lemma names_nodup (r : Registry σ) : r.names.Nodup := by
  refine List.pairwise_map.2 (r.settle.members.ascending.imp fun {a b} lt same => ?_)
  rw [same] at lt
  exact String.lt_irrefl _ lt

/-- The handles that are kept stand in the order of their names. -/
lemma Sound.handles_ascending (hr : r.Sound) :
    r.settle.members.values.Pairwise fun h k => (r.get h).name < (r.get k).name := by
  refine List.pairwise_map.2 (r.settle.members.ascending.imp_of_mem ?_)
  intro a b mema memb lt
  have nameda := (hr.find?_iff.1 ((Table.get?_eq_some_iff _).2 mema)).2
  have namedb := (hr.find?_iff.1 ((Table.get?_eq_some_iff _).2 memb)).2
  rw [nameda, namedb]
  exact lt

/-- No registration is gone through twice. -/
lemma Sound.handles_nodup (hr : r.Sound) : r.settle.members.values.Nodup := by
  refine hr.handles_ascending.imp fun {h k} lt same => ?_
  rw [same] at lt
  exact String.lt_irrefl _ lt

end Registry

end LedgerWatch
