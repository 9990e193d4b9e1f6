import LedgerWatch.Proofs.Registry.Keeping

/-!
# Operations on a registry

Everything that is ever done to a registry is one of the operations below. A course is a sequence of
deeds, which are operations together with the registry that each of them met. Along a course the
registry stays sound, no registration changes its name, none that was cancelled becomes active
again, and therefore none asks twice to be forgotten.
-/

namespace LedgerWatch

namespace Registry

/-- What can be done to a registry in one step. -/
inductive Operation (σ : Type) where
  /-- A question, before which the registry forgets what it was asked to. -/
  | ask
  | register (name : String) (watcher : σ) (settings : Settings)
  | remove (name : String)
  | close
  | cancel (h : Handle)
  | setCriteria (h : Handle) (c : Criteria)
  | setBusy (h : Handle) (busy : Bool)
  | release (h : Handle) (watcher : σ)
  | beginStart
  | finishStart
  | beginNotify

variable {σ : Type} [Inhabited σ] {r r' r'' : Registry σ} {op : Operation σ} {h : Handle}
  {name : String}

namespace Operation

/-- What an operation makes of a registry. -/
def apply (r : Registry σ) : Operation σ → Registry σ
  | .ask => r.settle
  | .register name watcher settings => (r.register name watcher settings).2
  | .remove name => (r.remove name).2
  | .close => r.close
  | .cancel h => r.cancel h
  | .setCriteria h c => r.setCriteria h c
  | .setBusy h busy => r.setBusy h busy
  | .release h watcher => r.release h watcher
  | .beginStart => r.beginStart.2
  | .finishStart => r.finishStart
  | .beginNotify => r.beginNotify.2

/--
The requests to forget a registration that an operation puts into the queue, which `remove` and
`close` find empty.
-/
def posts (r : Registry σ) : Operation σ → List Handle
  | .cancel h => (r.cancel h).intents.drop r.intents.length
  | .remove name => (r.remove name).2.intents
  | .close => r.emptied.intents
  | _ => []

end Operation

/-- Every operation keeps a registry sound. -/
lemma Sound.apply (hr : r.Sound) (op : Operation σ) : (op.apply r).Sound := by
  cases op with
  | ask => exact hr.settle
  | register name watcher settings => exact hr.register name watcher settings
  | remove name => exact hr.remove name
  | close => exact hr.close
  | cancel h => exact hr.cancel h
  | setCriteria h c =>
    exact hr.amend (f := fun reg => { reg with criteria := c }) (fun _ => rfl) (fun _ => rfl) h
  | setBusy h busy =>
    exact hr.amend (f := fun reg => { reg with busy }) (fun _ => rfl) (fun _ => rfl) h
  | release h watcher =>
    exact hr.amend (f := fun reg => { reg with watcher, busy := false })
      (fun _ => rfl) (fun _ => rfl) h
  | beginStart =>
    rw [Operation.apply, beginStart_snd]
    exact hr.settle
  | finishStart => exact hr.settle.setPhase .active
  | beginNotify =>
    rw [Operation.apply, beginNotify_snd]
    exact hr.settle

/-! ### What no operation undoes -/

/-- A registry later on: registrations keep their names, and a cancelled one stays cancelled. -/
structure Later (r r' : Registry σ) : Prop where
  next : r.nextHandle ≤ r'.nextHandle
  name : ∀ h, h < r.nextHandle → (r'.get h).name = (r.get h).name
  live : ∀ h, h < r.nextHandle → r'.isLive h = true → r.isLive h = true

lemma Later.refl (r : Registry σ) : r.Later r :=
  ⟨Nat.le_refl _, fun _ _ => rfl, fun _ _ live => live⟩

lemma Later.trans (a : r.Later r') (b : r'.Later r'') : r.Later r'' where
  next := Nat.le_trans a.next b.next
  name h lt := (b.name h (Nat.lt_of_lt_of_le lt a.next)).trans (a.name h lt)
  live h lt live := a.live h lt (b.live h (Nat.lt_of_lt_of_le lt a.next) live)

lemma Later.settle (r : Registry σ) : r.Later r.settle :=
  ⟨by simp, by simp, by simp⟩

lemma Later.cancel (h : Handle) (r : Registry σ) : r.Later (r.cancel h) :=
  ⟨by simp, by simp, fun k _ live => by simp at live; exact live.1⟩

lemma Later.foldl_cancel (hs : List Handle) (r : Registry σ) :
    r.Later (hs.foldl (fun r h => r.cancel h) r) := by
  induction hs generalizing r with
  | nil => exact .refl r
  | cons h rest ih => exact (Later.cancel h r).trans (ih _)

/-- A change that keeps name and status makes no registration active again. -/
lemma Later.amend {f : Registration σ → Registration σ} (hname : ∀ reg, (f reg).name = reg.name)
    (hstatus : ∀ reg, (f reg).status = reg.status) (h : Handle) (r : Registry σ) :
    r.Later (r.amend h f) where
  next := by simp
  name k _ := field_get_amend Registration.name hname r h k
  live k _ live := by
    have same := field_get_amend Registration.status hstatus r h k
    simpa only [isLive, same] using live

/-- A new registration leaves the earlier ones as they were. -/
lemma Later.add (name : String) (watcher : σ) (settings : Settings) (r : Registry σ) :
    r.Later (r.add name watcher settings) := by
  have old k (lt : k < r.nextHandle) : (r.add name watcher settings).get k = r.get k := by
    rw [get_add, if_neg (Nat.ne_of_lt lt)]
  refine ⟨by simp, fun k lt => by rw [old k lt], fun k lt live => ?_⟩
  simpa only [isLive, old k lt] using live

/-- No operation makes an inactive registration active again. -/
lemma Later.apply (r : Registry σ) (op : Operation σ) : r.Later (op.apply r) := by
  cases op with
  | ask => exact .settle r
  | register name watcher settings =>
    rw [Operation.apply]
    obtain ⟨-, -, -, e⟩ | ⟨_, -, e | e⟩ := register_cases name watcher settings r
    · rw [e]
      exact (Later.settle r).trans (.add name watcher settings _)
    · rw [e]
      exact .refl r
    · rw [e]
      exact .settle r
  | remove name =>
    rw [Operation.apply]
    obtain ⟨-, e⟩ | ⟨h, -, e⟩ := remove_cases name r
    · rw [e]
      exact .settle r
    · rw [e]
      -- what is kept has no part in what happens to a registration
      have taken : r.settle.Later { r.settle with members := r.settle.members.erase name } :=
        ⟨Nat.le_refl _, fun _ _ => rfl, fun _ _ live => live⟩
      exact (Later.settle r).trans (taken.trans (.cancel h _))
  | close =>
    rw [Operation.apply, close_eq]
    have taken : r.settle.Later { r.settle with phase := .closed, members := .empty } :=
      ⟨Nat.le_refl _, fun _ _ => rfl, fun _ _ live => live⟩
    exact ((Later.settle r).trans (taken.trans (.foldl_cancel _ _))).trans (.settle _)
  | cancel h => exact .cancel h r
  | setCriteria h c =>
    exact .amend (f := fun reg => { reg with criteria := c }) (fun _ => rfl) (fun _ => rfl) h r
  | setBusy h busy =>
    exact .amend (f := fun reg => { reg with busy }) (fun _ => rfl) (fun _ => rfl) h r
  | release h watcher =>
    exact .amend (f := fun reg => { reg with watcher, busy := false })
      (fun _ => rfl) (fun _ => rfl) h r
  | beginStart =>
    rw [Operation.apply, beginStart_snd]
    exact .settle r
  | finishStart =>
    have opened : r.settle.Later { r.settle with phase := .active } :=
      ⟨Nat.le_refl _, fun _ _ => rfl, fun _ _ live => live⟩
    exact (Later.settle r).trans opened
  | beginNotify =>
    rw [Operation.apply, beginNotify_snd]
    exact .settle r

/-- Only a registration makes a handle. -/
lemma nextHandle_apply (h : ¬∃ name watcher settings, op = .register name watcher settings) :
    (op.apply r).nextHandle = r.nextHandle := by
  cases op with
  | ask => exact settle_nextHandle
  | register name watcher settings => exact absurd ⟨name, watcher, settings, rfl⟩ h
  | remove name => exact nextHandle_remove name r
  | close =>
    obtain ⟨-, -, next, -, -⟩ := foldl_cancel r.settle.members.values
      { r.settle with phase := .closed, members := .empty }
    rw [Operation.apply, close_eq, settle_nextHandle]
    exact next.trans settle_nextHandle
  | cancel k => exact nextHandle_cancel
  | setCriteria k c => exact nextHandle_amend
  | setBusy k busy => exact nextHandle_amend
  | release k watcher => exact nextHandle_amend
  | beginStart =>
    rw [Operation.apply, beginStart_snd]
    exact settle_nextHandle
  | finishStart => exact settle_nextHandle
  | beginNotify =>
    rw [Operation.apply, beginNotify_snd]
    exact settle_nextHandle

/-- Operations that can cancel registrations. -/
def Operation.cancels : Operation σ → Bool
  | .remove _ | .close | .cancel _ => true
  | _ => false

/-- What an operation makes of a registration. -/
inductive Operation.Revises (h : Handle) :
    Operation σ → Registration σ → Registration σ → Prop where
  | same (op : Operation σ) (reg : Registration σ) :
    Revises h op reg reg
  | cancelled {op : Operation σ} (reg : Registration σ) :
    op.cancels = true →
    Revises h op reg { reg with status := .cancelled }
  | criteria (c : Criteria) (reg : Registration σ) :
    Revises h (.setCriteria h c) reg { reg with criteria := c }
  | busy (busy : Bool) (reg : Registration σ) :
    Revises h (.setBusy h busy) reg { reg with busy }
  | released (watcher : σ) (reg : Registration σ) :
    Revises h (.release h watcher) reg { reg with watcher, busy := false }

/-- A registration is as it was after a cancellation, or it is the one that was cancelled. -/
lemma get_cancel_cases (r : Registry σ) (k h : Handle) :
    (r.cancel k).get h = r.get h ∨ (r.cancel k).get h = { r.get h with status := .cancelled } := by
  by_cases same : h = k
  · subst same
    cases live : r.isLive h with
    | true => exact .inr (get_cancel_self live)
    | false => exact .inl (by rw [cancel_of_dead live])
  · exact .inl (get_cancel_of_ne same)

/-- After any number of cancellations a registration is as it was, or cancelled. -/
lemma get_foldl_cancel_cases (hs : List Handle) (r : Registry σ) (h : Handle) :
    (hs.foldl (fun r k => r.cancel k) r).get h = r.get h ∨
      (hs.foldl (fun r k => r.cancel k) r).get h = { r.get h with status := .cancelled } := by
  induction hs generalizing r with
  | nil => exact .inl rfl
  | cons k rest ih =>
    rw [List.foldl_cons]
    rcases ih (r.cancel k) with e | e
    all_goals
      rw [e]
      rcases get_cancel_cases r k h with e' | e'
      all_goals rw [e']
    · exact .inl rfl
    · exact .inr rfl
    · exact .inr rfl
    · exact .inr rfl

/-- A change of one registration. -/
lemma get_amend_cases {f : Registration σ → Registration σ} (made : h < r.nextHandle) (k : Handle) :
    (r.amend k f).get h = r.get h ∨ (h = k ∧ (r.amend k f).get h = f (r.get h)) := by
  by_cases same : h = k
  · subst same
    exact .inr ⟨rfl, get_amend_self made⟩
  · exact .inl (get_amend_of_ne same)

/-- A registration that was made is left as it is or revised in one of a few ways. -/
lemma revises_apply (op : Operation σ) (made : h < r.nextHandle) :
    op.Revises h (r.get h) ((op.apply r).get h) := by
  cases op with
  | ask =>
    rw [Operation.apply, settle_get]
    exact .same _ _
  | register name watcher settings =>
    rw [Operation.apply]
    obtain ⟨-, -, -, e⟩ | ⟨_, -, e | e⟩ := register_cases name watcher settings r
    · rw [e, get_add, settle_nextHandle, if_neg (Nat.ne_of_lt made), settle_get]
      exact .same _ _
    · rw [e]
      exact .same _ _
    · rw [e, settle_get]
      exact .same _ _
  | remove name =>
    rw [Operation.apply]
    obtain ⟨-, e⟩ | ⟨k, -, e⟩ := remove_cases name r
    · rw [e, settle_get]
      exact .same _ _
    · have taken : Registry.get { r.settle with members := r.settle.members.erase name } h
          = r.get h := settle_get
      have cases := get_cancel_cases { r.settle with members := r.settle.members.erase name } k h
      rw [taken] at cases
      rcases cases with same | cancelled
      · rw [e, same]
        exact .same _ _
      · rw [e, cancelled]
        exact .cancelled _ rfl
  | close =>
    have taken : Registry.get { r.settle with phase := .closed, members := .empty } h
        = r.get h := settle_get
    have cases := get_foldl_cancel_cases r.settle.members.values
      { r.settle with phase := .closed, members := .empty } h
    rw [taken] at cases
    rw [Operation.apply, close_eq, settle_get]
    rcases cases with same | cancelled
    · rw [emptied, same]
      exact .same _ _
    · rw [emptied, cancelled]
      exact .cancelled _ rfl
  | cancel k =>
    rw [Operation.apply]
    rcases get_cancel_cases r k h with same | cancelled
    · rw [same]
      exact .same _ _
    · rw [cancelled]
      exact .cancelled _ rfl
  | setCriteria k c =>
    rw [Operation.apply, setCriteria]
    rcases get_amend_cases (f := fun reg => { reg with criteria := c }) made k with e | ⟨rfl, e⟩
    · rw [e]
      exact .same _ _
    · rw [e]
      exact .criteria c _
  | setBusy k busy =>
    rw [Operation.apply, setBusy]
    rcases get_amend_cases (f := fun reg => { reg with busy }) made k with e | ⟨rfl, e⟩
    · rw [e]
      exact .same _ _
    · rw [e]
      exact .busy busy _
  | release k watcher =>
    rw [Operation.apply, release]
    rcases get_amend_cases (f := fun reg => { reg with watcher, busy := false }) made k with
      e | ⟨rfl, e⟩
    · rw [e]
      exact .same _ _
    · rw [e]
      exact .released watcher _
  | beginStart =>
    rw [Operation.apply, beginStart_snd, settle_get]
    exact .same _ _
  | finishStart =>
    have opened : r.finishStart.get h = r.get h := settle_get
    rw [Operation.apply, opened]
    exact .same _ _
  | beginNotify =>
    rw [Operation.apply, beginNotify_snd, settle_get]
    exact .same _ _

/-- Only a program of a watcher that ends replaces the state of the watcher. -/
lemma watcher_apply (op : Operation σ) (made : h < r.nextHandle) :
    ((op.apply r).get h).watcher = (r.get h).watcher ∨
      ∃ watcher, op = .release h watcher ∧ ((op.apply r).get h).watcher = watcher := by
  have revises := revises_apply op made
  generalize (op.apply r).get h = after at revises
  cases revises with
  | released watcher => exact .inr ⟨watcher, rfl, rfl⟩
  | _ => exact .inl rfl

/-! ### Requests to be forgotten -/

/-- Cancelling puts only registrations into the queue that were active, and each of them once. -/
lemma foldl_cancel_intents (hs : List Handle) (r : Registry σ) :
    ∃ posted, (hs.foldl (fun r h => r.cancel h) r).intents = r.intents ++ posted ∧ posted.Nodup ∧
      ∀ h ∈ posted, r.isLive h = true ∧ (hs.foldl (fun r h => r.cancel h) r).isLive h = false := by
  induction hs generalizing r with
  | nil => exact ⟨[], by simp, List.nodup_nil, fun h mem => by cases mem⟩
  | cons h rest ih =>
    obtain ⟨posted, intents, nodup, spec⟩ := ih (r.cancel h)
    have old k (mem : k ∈ posted) : r.isLive k = true ∧ k ≠ h := by
      have live := (spec k mem).1
      rw [isLive_cancel, Bool.and_eq_true, decide_eq_true_iff] at live
      exact live
    rw [cancel_intents] at intents
    cases live : r.isLive h with
    | true =>
      rw [if_pos live, List.append_assoc] at intents
      refine ⟨h :: posted, intents, ?_, fun k mem => ?_⟩
      · exact List.nodup_cons.2 ⟨fun mem => (old h mem).2 rfl, nodup⟩
      · rcases List.mem_cons.1 mem with rfl | mem
        · refine ⟨live, ?_⟩
          obtain ⟨-, -, -, -, after⟩ := foldl_cancel rest (r.cancel k)
          rw [List.foldl_cons, after, isLive_cancel]
          simp
        · exact ⟨(old k mem).1, (spec k mem).2⟩
    | false =>
      rw [live, if_neg Bool.false_ne_true, List.append_nil] at intents
      exact ⟨posted, intents, nodup, fun k mem => ⟨(old k mem).1, (spec k mem).2⟩⟩

/-- Who asks to be forgotten was active before and is not any more; nobody asks twice at once. -/
lemma posts_spec (r : Registry σ) (op : Operation σ) :
    (op.posts r).Nodup ∧ ∀ h ∈ op.posts r, r.isLive h = true ∧ (op.apply r).isLive h = false := by
  have nothing : ([] : List Handle).Nodup ∧
      ∀ h ∈ ([] : List Handle), r.isLive h = true ∧ (op.apply r).isLive h = false :=
    ⟨List.nodup_nil, fun h mem => by cases mem⟩
  cases op with
  | cancel h =>
    obtain ⟨posted, intents, nodup, spec⟩ := foldl_cancel_intents [h] r
    have same : (Operation.cancel h).posts r = posted := by
      have intents' : (r.cancel h).intents = r.intents ++ posted := intents
      show (r.cancel h).intents.drop r.intents.length = posted
      rw [intents', List.drop_left]
    rw [same]
    exact ⟨nodup, spec⟩
  | remove name =>
    obtain ⟨-, e⟩ | ⟨h, -, e⟩ := remove_cases name r
    · have same : (Operation.remove name).posts r = [] := by
        rw [Operation.posts, e]
        rfl
      rw [same]
      exact nothing
    · obtain ⟨posted, intents, nodup, spec⟩ := foldl_cancel_intents [h]
        { r.settle with members := r.settle.members.erase name }
      have same : (Operation.remove name).posts r = posted := by
        rw [Operation.posts, e]
        exact intents
      rw [same, Operation.apply, e]
      refine ⟨nodup, fun k mem => ⟨?_, (spec k mem).2⟩⟩
      rw [← settle_isLive]
      exact (spec k mem).1
  | close =>
    obtain ⟨posted, intents, nodup, spec⟩ := foldl_cancel_intents r.settle.members.values
      { r.settle with phase := .closed, members := .empty }
    have same : (Operation.close : Operation σ).posts r = posted := intents
    rw [same, Operation.apply, close_eq]
    refine ⟨nodup, fun k mem => ?_⟩
    rw [← settle_isLive, settle_isLive (r := r.emptied)]
    exact spec k mem
  | ask => exact nothing
  | register name watcher settings => exact nothing
  | setCriteria h c => exact nothing
  | setBusy h busy => exact nothing
  | release h watcher => exact nothing
  | beginStart => exact nothing
  | finishStart => exact nothing
  | beginNotify => exact nothing

/-! ### Courses -/

/-- An operation with the registry that it met. -/
structure Deed (σ : Type) where
  before : Registry σ
  operation : Operation σ

namespace Deed

/-- The registry that the operation left. -/
def after (d : Deed σ) : Registry σ :=
  d.operation.apply d.before

/-- The deed was a registration under a name, and the handle was returned for it. -/
def Makes (d : Deed σ) (name : String) (h : Handle) : Prop :=
  ∃ watcher settings, d.operation = .register name watcher settings ∧
    (d.before.register name watcher settings).1 = .ok h

/-- The requests to forget a registration that the deed put into the queue. -/
def posts (d : Deed σ) : List Handle :=
  d.operation.posts d.before

end Deed

/-- Deeds one after another take a registry to another one. -/
inductive Course : Registry σ → List (Deed σ) → Registry σ → Prop where
  | nil {r : Registry σ} : Course r [] r
  | cons {r r' : Registry σ} {op : Operation σ} {rest : List (Deed σ)} :
    Course (op.apply r) rest r' → Course r (⟨r, op⟩ :: rest) r'

variable {deeds : List (Deed σ)}

/-- A sound registry stays sound in the course of operations. -/
lemma Sound.course (hr : r.Sound) (c : Course r deeds r') : r'.Sound := by
  induction c with
  | nil => exact hr
  | cons _ ih => exact ih (hr.apply _)

/-- In the course of operations no inactive registration becomes active again. -/
lemma Course.later (c : Course r deeds r') : r.Later r' := by
  induction c with
  | nil => exact .refl _
  | cons _ ih => exact (Later.apply _ _).trans ih

/-- Only a registration makes a handle, and only the next one. -/
lemma Deed.makes_iff (d : Deed σ) : d.Makes name h ↔
    d.before.nextHandle ≤ h ∧ h < d.after.nextHandle ∧ (d.after.get h).name = name := by
  obtain ⟨r, op⟩ := d
  by_cases registers : ∃ name watcher settings, op = .register name watcher settings
  · obtain ⟨name', watcher', settings', rfl⟩ := registers
    have makes : Deed.Makes ⟨r, .register name' watcher' settings'⟩ name h ↔
        name' = name ∧ (r.register name' watcher' settings').1 = .ok h := by
      constructor
      · rintro ⟨watcher, settings, same, answer⟩
        cases same
        exact ⟨rfl, answer⟩
      · rintro ⟨rfl, answer⟩
        exact ⟨watcher', settings', rfl, answer⟩
    rw [makes]
    simp only [Deed.after, Operation.apply]
    obtain ⟨-, -, -, e⟩ | ⟨err, refused, e | e⟩ := register_cases name' watcher' settings' r
    · have new : ((r.settle.add name' watcher' settings').get r.nextHandle).name = name' := by
        rw [get_add, settle_nextHandle, if_pos rfl]
      rw [e, nextHandle_add, settle_nextHandle]
      constructor
      · rintro ⟨rfl, answer⟩
        cases answer
        exact ⟨Nat.le_refl _, Nat.lt_succ_self _, new⟩
      · rintro ⟨le, lt, named⟩
        have same : h = r.nextHandle := Nat.le_antisymm (Nat.le_of_lt_succ lt) le
        rw [same] at named
        exact ⟨new.symm.trans named, by rw [same]⟩
    · rw [e, refused]
      constructor
      · rintro ⟨-, answer⟩
        cases answer
      · rintro ⟨le, lt, -⟩
        exact absurd lt (Nat.not_lt.2 le)
    · rw [e, refused, settle_nextHandle]
      constructor
      · rintro ⟨-, answer⟩
        cases answer
      · rintro ⟨le, lt, -⟩
        exact absurd lt (Nat.not_lt.2 le)
  · have same : (op.apply r).nextHandle = r.nextHandle := nextHandle_apply registers
    constructor
    · rintro ⟨watcher, settings, same, -⟩
      exact absurd ⟨name, watcher, settings, same⟩ registers
    · rintro ⟨le, lt, -⟩
      simp only [Deed.after, same] at lt
      exact absurd lt (Nat.not_lt.2 le)

/-- The handles that a course has made are the new ones, each under the name that it bears. -/
lemma Course.makes_iff (c : Course r deeds r') : (∃ d ∈ deeds, d.Makes name h) ↔
    r.nextHandle ≤ h ∧ h < r'.nextHandle ∧ (r'.get h).name = name := by
  induction c with
  | nil =>
    constructor
    · rintro ⟨d, mem, -⟩
      cases mem
    · rintro ⟨le, lt, -⟩
      exact absurd lt (Nat.not_lt.2 le)
  | @cons r r' op rest c ih =>
    have first : Deed.Makes ⟨r, op⟩ name h ↔
        r.nextHandle ≤ h ∧ h < (op.apply r).nextHandle ∧ ((op.apply r).get h).name = name :=
      Deed.makes_iff _
    have step : (∃ d ∈ ⟨r, op⟩ :: rest, d.Makes name h) ↔
        Deed.Makes ⟨r, op⟩ name h ∨ ∃ d ∈ rest, d.Makes name h := by
      simp only [List.mem_cons, or_and_right, exists_or, exists_eq_left]
    rw [step, first, ih]
    constructor
    · rintro (⟨le, lt, named⟩ | ⟨le, lt, named⟩)
      · refine ⟨le, Nat.lt_of_lt_of_le lt c.later.next, ?_⟩
        exact (c.later.name h lt).trans named
      · exact ⟨Nat.le_trans (Later.apply r op).next le, lt, named⟩
    · rintro ⟨le, lt, named⟩
      rcases Nat.lt_or_ge h (op.apply r).nextHandle with made | new
      · exact .inl ⟨le, made, (c.later.name h made).symm.trans named⟩
      · exact .inr ⟨new, lt, named⟩

/-- A registration asks to be forgotten at most once, and never after it was cancelled. -/
lemma Course.posts_nodup (c : Course r deeds r') : (deeds.flatMap Deed.posts).Nodup ∧
    ∀ h ∈ deeds.flatMap Deed.posts, h < r.nextHandle → r.isLive h = true := by
  induction c with
  | nil => exact ⟨List.nodup_nil, fun h mem => by cases mem⟩
  | @cons r r' op rest c ih =>
    obtain ⟨nodup, live⟩ := ih
    obtain ⟨nodupOp, spec⟩ := posts_spec r op
    rw [List.flatMap_cons]
    refine ⟨List.nodup_append'.2 ⟨nodupOp, nodup, fun h mem mem' => ?_⟩, fun h mem lt => ?_⟩
    · -- who asks now is not active afterwards, who asks later is active until then
      obtain ⟨before, after⟩ := spec h mem
      have made := Nat.lt_of_lt_of_le (lt_of_isLive before) (Later.apply r op).next
      rw [live h mem' made] at after
      cases after
    · rcases List.mem_append.1 mem with mem | mem
      · exact (spec h mem).1
      · have made := Nat.lt_of_lt_of_le lt (Later.apply r op).next
        exact (Later.apply r op).live h lt (live h mem made)

end Registry

end LedgerWatch
