import LedgerWatch.Proofs.Registry.Membership

/-!
# Closing a registry

A registry that is closed refuses everything, and the only thing that can open it is a start that
finishes. A start looks at the phase when it begins and writes it when it finishes, without looking
again: a registry that is closed while a start is in progress, for instance by a watcher that is
being started, is open again when that start finishes. This module says of every course of deeds
exactly when a closed registry stays closed.
-/

namespace LedgerWatch

variable {W σ : Type} [Inhabited σ]

/-- The place of each phase in the life of a registry. -/
def Phase.rank : Phase → Nat
  | .idle => 0
  | .active => 1
  | .closed => 2

namespace Registry

variable {r r' : Registry σ} {deeds a b : List (Deed σ)} {d : Deed σ}

namespace Deed

/-- The registry was closed. -/
def closes (d : Deed σ) : Bool :=
  match d.operation with
  | .close => true
  | _ => false

/-- A start began, and was not refused. -/
def begins (d : Deed σ) : Bool :=
  match d.operation with
  | .beginStart => d.before.phase = .idle
  | _ => false

/-- A start finished. -/
def finishes (d : Deed σ) : Bool :=
  match d.operation with
  | .finishStart => true
  | _ => false

/-- Only closing and the end of a start change the phase. -/
lemma phase_cases (d : Deed σ) :
    (d.closes = true ∧ d.finishes = false ∧ d.after.phase = .closed) ∨
    (d.closes = false ∧ d.finishes = true ∧ d.after.phase = .active) ∨
    (d.closes = false ∧ d.finishes = false ∧ d.after.phase = d.before.phase) := by
  obtain ⟨r, op⟩ := d
  cases op with
  | close => exact .inl ⟨rfl, rfl, close_phase r⟩
  | finishStart => exact .inr (.inl ⟨rfl, rfl, rfl⟩)
  | ask => exact .inr (.inr ⟨rfl, rfl, settle_phase⟩)
  | register name watcher settings =>
    refine .inr (.inr ⟨rfl, rfl, ?_⟩)
    simp only [after, Operation.apply]
    obtain ⟨-, -, -, e⟩ | ⟨_, -, e | e⟩ := register_cases name watcher settings r
    · rw [e]
      exact settle_phase
    · rw [e]
    · rw [e]
      exact settle_phase
  | remove name => exact .inr (.inr ⟨rfl, rfl, remove_phase name r⟩)
  | cancel h => exact .inr (.inr ⟨rfl, rfl, cancel_phase⟩)
  | setCriteria h c => exact .inr (.inr ⟨rfl, rfl, rfl⟩)
  | setBusy h busy => exact .inr (.inr ⟨rfl, rfl, rfl⟩)
  | release h watcher => exact .inr (.inr ⟨rfl, rfl, rfl⟩)
  | beginStart =>
    refine .inr (.inr ⟨rfl, rfl, ?_⟩)
    simp only [after, Operation.apply, beginStart_snd]
    exact settle_phase
  | beginNotify =>
    refine .inr (.inr ⟨rfl, rfl, ?_⟩)
    simp only [after, Operation.apply, beginNotify_snd]
    exact settle_phase

lemma phase_of_closes (h : d.closes = true) : d.after.phase = .closed := by
  obtain ⟨-, -, phase⟩ | ⟨closes, -, -⟩ | ⟨closes, -, -⟩ := d.phase_cases
  · exact phase
  · rw [h] at closes
    cases closes
  · rw [h] at closes
    cases closes

lemma phase_of_finishes (h : d.finishes = true) : d.after.phase = .active := by
  obtain ⟨-, finishes, -⟩ | ⟨-, -, phase⟩ | ⟨-, finishes, -⟩ := d.phase_cases
  · rw [h] at finishes
    cases finishes
  · exact phase
  · rw [h] at finishes
    cases finishes

end Deed

/-- A course in two parts. -/
lemma Course.split (c : Course r (a ++ b) r') : ∃ m, Course r a m ∧ Course m b r' := by
  induction a generalizing r with
  | nil => exact ⟨r, .nil, c⟩
  | cons d a ih =>
    cases c with
    | cons c =>
      obtain ⟨m, first, second⟩ := ih c
      exact ⟨m, .cons first, second⟩

/-- What comes after a deed meets the registry that the deed left. -/
lemma Course.after (c : Course r (a ++ d :: b) r') : Course d.after b r' := by
  obtain ⟨m, -, second⟩ := c.split
  cases second with
  | cons c => exact c

/-- A closed registry stays closed as long as no start finishes. -/
lemma Course.closed (c : Course r deeds r') (closed : r.phase = .closed)
    (unfinished : ∀ d ∈ deeds, d.finishes = false) : ∀ d ∈ deeds, d.after.phase = .closed := by
  induction c with
  | nil =>
    intro d mem
    cases mem
  | @cons r r' op rest c ih =>
    have first : (op.apply r).phase = .closed := by
      have here := unfinished ⟨r, op⟩ List.mem_cons_self
      obtain ⟨-, -, phase⟩ | ⟨-, finishes, -⟩ | ⟨-, -, phase⟩ := Deed.phase_cases ⟨r, op⟩
      · exact phase
      · rw [here] at finishes
        cases finishes
      · exact phase.trans closed
    intro d mem
    rcases List.mem_cons.1 mem with rfl | mem
    · exact first
    · exact ih first (fun d mem => unfinished d (List.mem_cons_of_mem _ mem)) d mem

/-- Once a registry is not idle any more, every start is refused. -/
lemma Course.not_begins (c : Course r deeds r') (busy : r.phase ≠ .idle) :
    ∀ d ∈ deeds, d.begins = false := by
  induction c with
  | nil =>
    intro d mem
    cases mem
  | @cons r r' op rest c ih =>
    have first : (op.apply r).phase ≠ .idle := by
      intro idle
      obtain ⟨-, -, phase⟩ | ⟨-, -, phase⟩ | ⟨-, -, phase⟩ := Deed.phase_cases ⟨r, op⟩
      · cases idle.symm.trans phase
      · cases idle.symm.trans phase
      · exact busy (phase.symm.trans idle)
    intro d mem
    rcases List.mem_cons.1 mem with rfl | mem
    · cases op with
      | beginStart => exact decide_eq_false busy
      | _ => rfl
    · exact ih first d mem

/-- The phase moves forward as long as no start finishes after the registry was closed. -/
lemma Course.forward (c : Course r deeds r')
    (unfinished : r.phase = .closed → ∀ d ∈ deeds, d.finishes = false)
    (never : deeds.Pairwise fun d e => d.closes = true → e.finishes = false) :
    deeds.Pairwise (fun d e => d.after.phase.rank ≤ e.after.phase.rank) ∧
      ∀ d ∈ deeds, r.phase.rank ≤ d.after.phase.rank := by
  induction c with
  | nil => exact ⟨.nil, fun d mem => by cases mem⟩
  | @cons r r' op rest c ih =>
    obtain ⟨first, never⟩ := List.pairwise_cons.1 never
    have step : r.phase.rank ≤ (op.apply r).phase.rank ∧
        ((op.apply r).phase = .closed → ∀ d ∈ rest, d.finishes = false) := by
      -- closing reaches the last phase, and a start may finish only before that
      obtain ⟨closes, -, phase⟩ | ⟨-, finishes, phase⟩ | ⟨-, -, phase⟩ :=
        Deed.phase_cases ⟨r, op⟩
      · have phase' : (op.apply r).phase = .closed := phase
        rw [phase']
        exact ⟨by cases r.phase <;> decide, fun _ d mem => first d mem closes⟩
      · have phase' : (op.apply r).phase = .active := phase
        rw [phase']
        refine ⟨?_, fun closed => by cases closed⟩
        cases now : r.phase with
        | idle => decide
        | active => decide
        | closed =>
          rw [unfinished now _ List.mem_cons_self] at finishes
          cases finishes
      · have phase' : (op.apply r).phase = r.phase := phase
        rw [phase']
        refine ⟨Nat.le_refl _, fun closed d mem => ?_⟩
        exact unfinished closed d (List.mem_cons_of_mem _ mem)
    obtain ⟨le, later⟩ := step
    obtain ⟨forward, above⟩ := ih later never
    refine ⟨List.pairwise_cons.2 ⟨above, forward⟩, fun d mem => ?_⟩
    rcases List.mem_cons.1 mem with rfl | mem
    · exact le
    · exact Nat.le_trans le (above d mem)

/-- The phase moves forward exactly if no start finishes after the registry was closed. -/
lemma Course.forward_iff (c : Course r deeds r') (unclosed : r.phase ≠ .closed) :
    deeds.Pairwise (fun d e => d.after.phase.rank ≤ e.after.phase.rank) ↔
      deeds.Pairwise fun d e => d.closes = true → e.finishes = false := by
  constructor
  · refine List.Pairwise.imp fun {d e} le closes => ?_
    cases finishes : e.finishes with
    | false => rfl
    | true =>
      rw [Deed.phase_of_closes closes, Deed.phase_of_finishes finishes] at le
      exact absurd le (by decide)
  · intro never
    exact (c.forward (fun closed => absurd closed unclosed) never).1

end Registry

open Registry (Deed Course)

/-- Starts that finish were begun before, or were in progress already. -/
lemma Program.Performs.finished_le {α : Type} {registry : Part W (Registry σ)} {k : Nat}
    {p : Program W α} {deeds : List (Deed σ)} {w v : W} (h : p.Performs registry k w deeds v) :
    deeds.countP Deed.finishes ≤ k + deeds.countP Deed.begins := by
  induction h with
  | here => exact Nat.zero_le _
  | wait _ ih => exact ih
  | aside _ _ ih => exact ih
  | @operate k j update next w v deeds op _ moves _ ih =>
    rw [List.countP_cons, List.countP_cons]
    cases op with
    | beginStart =>
      have level : j = if (registry.get w).phase = .idle then k + 1 else k := moves
      by_cases idle : (registry.get w).phase = .idle
      · rw [if_pos idle] at level
        simp only [Deed.finishes, Deed.begins, idle]
        simp
        omega
      · rw [if_neg idle] at level
        simp [Deed.finishes, Deed.begins, idle]
        omega
    | finishStart =>
      have level : k = j + 1 := moves
      simp [Deed.finishes, Deed.begins]
      omega
    | _ =>
      obtain rfl : j = k := moves
      simpa [Deed.finishes, Deed.begins] using ih

/-- A start that finishes after the registry was closed was in progress at that moment. -/
lemma Program.Performs.in_progress {α : Type} {registry : Part W (Registry σ)} {p : Program W α}
    {a b : List (Deed σ)} {d e : Deed σ} {w v : W}
    (performs : p.Performs registry 0 w (a ++ d :: b) v) (closes : d.closes = true) (mem : e ∈ b)
    (finishes : e.finishes = true) : a.countP Deed.finishes < a.countP Deed.begins := by
  have closed := Deed.phase_of_closes closes
  -- after the registry was closed no start begins, so the one that finishes began before
  have none_begins : b.countP Deed.begins = 0 := by
    rw [List.countP_eq_zero]
    intro e mem
    simp [performs.course.after.not_begins (by simp [closed]) e mem]
  have some_finishes : 0 < b.countP Deed.finishes := List.countP_pos_iff.2 ⟨e, mem, finishes⟩
  have closing : d.begins = false := by
    obtain ⟨r, op⟩ := d
    cases op with
    | close => rfl
    | _ => cases closes
  have bound := performs.finished_le
  rw [List.countP_append, List.countP_append, List.countP_cons, List.countP_cons, none_begins,
    closing] at bound
  simp only [Bool.false_eq_true, if_false] at bound
  omega

/-! ### Sites -/

/-- A registry that refuses everything, with the answers of a site where it stands. -/
structure Site.Shut (s : Site W σ) (r : Registry σ) : Prop where
  inactive : r.isActive = false
  register : ∀ name watcher settings, (r.register name watcher settings).1
    = .error (if name.isEmpty then .emptyName else .closed)
  start : ∀ w, s.registry.get w = r → (s.start.run w).1 = .error .closed
  notify : ∀ w b, s.registry.get w = r → ((s.notify b).run w).1 = .error .notActive

lemma Site.shut_of_closed (s : Site W σ) {r : Registry σ} (closed : r.phase = .closed) :
    s.Shut r where
  inactive := by simp [Registry.isActive, closed]
  register name watcher settings := by
    cases empty : name.isEmpty with
    | true => simp [Registry.register, empty]
    | false => simp [Registry.register, empty, Registry.checkIdle, closed]
  start w here := by
    have refused := Registry.beginStart_fst r
    rw [closed] at refused
    simp [Site.start, here, refused]
  notify w b here := by
    have refused := Registry.beginNotify_fst r
    rw [closed] at refused
    simp [Site.notify, here, refused]

/-- A registry that was closed refuses everything from then on exactly if no start finishes. -/
lemma Site.shut_iff (s : Site W σ) {d : Deed σ} {deeds : List (Deed σ)} {r : Registry σ}
    (closes : d.closes = true) (c : Course d.after deeds r) :
    (∀ e ∈ deeds, s.Shut e.after) ↔ ∀ e ∈ deeds, e.finishes = false := by
  constructor
  · intro shut e mem
    cases finishes : e.finishes with
    | false => rfl
    | true =>
      have inactive := (shut e mem).inactive
      simp [Registry.isActive, Deed.phase_of_finishes finishes] at inactive
  · intro unfinished e mem
    exact s.shut_of_closed (c.closed (Deed.phase_of_closes closes) unfinished e mem)

/--
Along every run of an orderly site the phase moves forward exactly if no start finishes after the
registry was closed. A registry that was closed refuses everything from then on exactly if no start
finishes later, and a start that does was in progress when the registry was closed.
-/
theorem closed_for_good_iff {s : Site W σ} (hs : s.Orderly) (commands : List (Site.Command σ))
    {w : W} (fresh : s.registry.get w = {}) :
    (∀ v ∈ (s.carryOut commands).visited w,
      ∃ deeds, (s.carryOut commands).Performs s.registry 0 w deeds v) ∧
    ∀ deeds v, (s.carryOut commands).Performs s.registry 0 w deeds v →
      (deeds.Pairwise (fun d e => d.after.phase.rank ≤ e.after.phase.rank) ↔
        deeds.Pairwise fun d e => d.closes = true → e.finishes = false) ∧
      ∀ a d b, deeds = a ++ d :: b → d.closes = true →
        s.Shut d.after ∧ ((∀ e ∈ b, s.Shut e.after) ↔ ∀ e ∈ b, e.finishes = false) ∧
        ((∃ e ∈ b, e.finishes = true) → a.countP Deed.finishes < a.countP Deed.begins) := by
  refine ⟨fun v hv => (hs.carryOut commands).performs hv, fun deeds v performs => ⟨?_, ?_⟩⟩
  · apply performs.course.forward_iff
    rw [fresh]
    exact nofun
  · rintro a d b rfl closes
    refine ⟨s.shut_of_closed (Deed.phase_of_closes closes), ?_, ?_⟩
    · exact s.shut_iff closes performs.course.after
    · rintro ⟨e, mem, finishes⟩
      exact performs.in_progress closes mem finishes

namespace Office

/-- An office whose watchers close the registry while they are being started. -/
def closing : Site Office Unit :=
  site (Program.modify registryPart Registry.close)

lemma closing_orderly : closing.Orderly :=
  site_orderly (.modify .close (fun _ => rfl) fun _ => rfl)

/-- A watcher is registered and started. -/
def registerAndStart : List (Site.Command Unit) :=
  [.register "a" () .empty, .start]

/-- The start of such a watcher, from its beginning to its end. -/
lemma closing_performs : ∃ a d b v,
    (closing.carryOut registerAndStart).Performs registryPart 0 {} (a ++ d :: b) v ∧
      d.closes = true ∧ (∃ e ∈ b, e.finishes = true) ∧ v.registry.isActive = true := by
  exact ⟨[⟨_, .register "a" () .empty⟩, ⟨_, .beginStart⟩, ⟨_, .setBusy 0 true⟩], ⟨_, .close⟩,
    [⟨_, .release 0 ()⟩, ⟨_, .setCriteria 0 (.after .root)⟩, ⟨_, .finishStart⟩], _,
    .operate rfl rfl (.operate rfl rfl (.aside rfl (.aside rfl (.operate rfl rfl
      (.wait (.aside rfl (.operate rfl rfl (.operate rfl rfl (.wait (.operate rfl rfl
        (.operate rfl rfl .here))))))))))),
    rfl, ⟨_, .tail _ (.tail _ (.head _)), rfl⟩, rfl⟩

end Office

/-- A watcher that closes the registry while it is being started leaves it active in the end. -/
theorem closed_for_good_iff_at_office : ∃ a d b v,
    (Office.closing.carryOut Office.registerAndStart).Performs Office.registryPart 0 {}
        (a ++ d :: b) v ∧
      d.closes = true ∧ v.registry.isActive = true ∧ (¬∀ e ∈ b, Office.closing.Shut e.after) ∧
      a.countP Deed.finishes < a.countP Deed.begins := by
  obtain ⟨a, d, b, v, performs, closes, ⟨e, mem, finishes⟩, active⟩ := Office.closing_performs
  obtain ⟨-, runs⟩ :=
    closed_for_good_iff Office.closing_orderly Office.registerAndStart (w := {}) rfl
  obtain ⟨-, ends⟩ := runs _ v performs
  obtain ⟨-, shut_iff, in_progress⟩ := ends a d b rfl closes
  refine ⟨a, d, b, v, performs, closes, active, fun shut => ?_, in_progress ⟨e, mem, finishes⟩⟩
  have unfinished := shut_iff.1 shut e mem
  rw [finishes] at unfinished
  cases unfinished

end LedgerWatch
