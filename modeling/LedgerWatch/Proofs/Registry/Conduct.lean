import LedgerWatch.Proofs.Program.Along
import LedgerWatch.Proofs.Registry.Operation
import LedgerWatch.Registry.Site

/-!
# Programs that use a registry

Programs of hosts and watchers reach a registry only through its operations, from any depth: a
watcher may register, cancel, close, start or notify while it is being started or notified itself. A
program that keeps to this is one that `Uses` the registry, and each of its runs performs a course
of deeds. Starting is two operations with programs of watchers in between. The level of a program is
the number of starts in progress that it may still finish.
-/

namespace LedgerWatch

variable {W σ α β : Type}

namespace Registry

/-- How an operation changes the number of starts in progress: only what began can finish. -/
def Operation.Moves (r : Registry σ) : Operation σ → Nat → Nat → Prop
  | .beginStart, k, j => j = if r.phase = .idle then k + 1 else k
  | .finishStart, k, j => k = j + 1
  | _, k, j => j = k

/-- More starts in progress make no difference to what an operation does to their number. -/
lemma Operation.Moves.add {r : Registry σ} {op : Operation σ} {k j : Nat} (h : op.Moves r k j)
    (m : Nat) : op.Moves r (k + m) (j + m) := by
  cases op with
  | beginStart =>
    simp only [Operation.Moves] at h ⊢
    split at h <;> rename_i phase
    · rw [h, if_pos phase]
      omega
    · rw [h, if_neg phase]
  | finishStart =>
    simp only [Operation.Moves] at h ⊢
    omega
  | _ => exact congrArg (· + m) h

end Registry

variable [Inhabited σ]

namespace Program

open Registry (Operation Deed Course)

variable {registry : Part W (Registry σ)} {p : Program W α} {k m : Nat}

/-- Every step of a program leaves the registry alone or is one operation on it. -/
def Uses (registry : Part W (Registry σ)) : Nat → Program W α → Prop
  | _, .done _ => True
  | k, .step update next => ∀ w,
    (registry.get (update w) = registry.get w ∧ (next w).Uses registry k) ∨
    ∃ (op : Operation σ) (j : Nat), registry.get (update w) = op.apply (registry.get w) ∧
      op.Moves (registry.get w) k j ∧ (next w).Uses registry j
  | k, .wait _ _ next => next.Uses registry k

/-- A program may be begun while more starts are in progress. -/
lemma Uses.mono (hp : p.Uses registry k) (m : Nat) : p.Uses registry (k + m) := by
  induction p generalizing k with
  | done a => trivial
  | step update next ih =>
    intro w
    rcases hp w with ⟨same, hnext⟩ | ⟨op, j, same, moves, hnext⟩
    · exact .inl ⟨same, ih w hnext⟩
    · exact .inr ⟨op, j + m, same, moves.add m, ih w hnext⟩
  | wait ready alarm next ih => exact ih hp

/-- A program goes on by another one, with the starts that the first one did not finish. -/
lemma Uses.bind_add {f : α → Program W β} (hp : p.Uses registry m)
    (hf : ∀ a, (f a).Uses registry k) : (p.bind f).Uses registry (k + m) := by
  induction p generalizing m with
  | done a => exact (hf a).mono m
  | step update next ih =>
    intro w
    rcases hp w with ⟨same, hnext⟩ | ⟨op, j, same, moves, hnext⟩
    · exact .inl ⟨same, ih w hnext⟩
    · refine .inr ⟨op, k + j, same, ?_, ih w hnext⟩
      rw [Nat.add_comm k m, Nat.add_comm k j]
      exact moves.add k
  | wait ready alarm next ih => exact ih hp

/-- What finishes only its own starts may stand before anything. -/
lemma Uses.bind {f : α → Program W β} (hp : p.Uses registry 0)
    (hf : ∀ a, (f a).Uses registry k) : (p.bind f).Uses registry k :=
  hp.bind_add hf

lemma Uses.done (a : α) : (.done a : Program W α).Uses registry k :=
  trivial

lemma Uses.pause : (pause : Program W Unit).Uses registry k :=
  trivial

lemma Uses.look {S : Type} (part : Part W S) : (look part).Uses registry k :=
  fun _ => .inl ⟨rfl, trivial⟩

/-- A change of another part of the world leaves the registry alone. -/
lemma Uses.aside {S : Type} {part : Part W S}
    (apart : ∀ x w, registry.get (part.set x w) = registry.get w) (f : S → S) :
    (modify part f).Uses registry k :=
  fun w => .inl ⟨apart _ w, trivial⟩

/-- An operation that is no part of a start. -/
lemma Uses.modify (op : Operation σ) (moves : ∀ r, op.Moves r k k) {f : Registry σ → Registry σ}
    (hf : ∀ r, f r = op.apply r) : (modify registry f).Uses registry k :=
  fun w => .inr ⟨op, k, (registry.get_modify f w).trans (hf _), moves _, trivial⟩

/-- An operation with an answer that is no part of a start. -/
lemma Uses.act (op : Operation σ) (moves : ∀ r, op.Moves r k k)
    {f : Registry σ → α × Registry σ} (hf : ∀ r, (f r).2 = op.apply r) :
    (act registry f).Uses registry k :=
  fun w => .inr ⟨op, k, (registry.get_set _ w).trans (hf _), moves _, trivial⟩

/-! ### Runs -/

/-- Part of a run of a program, with the deeds that it performs on the registry, up to a world. -/
inductive Performs (registry : Part W (Registry σ)) :
    Nat → Program W α → W → List (Deed σ) → W → Prop where
  | here {k : Nat} {p : Program W α} {w : W} : Performs registry k p w [] w
  | wait {k : Nat} {ready : W → Bool} {alarm : Option Nat} {next : Program W α} {w v : W}
      {deeds : List (Deed σ)} :
    Performs registry k next w deeds v → Performs registry k (.wait ready alarm next) w deeds v
  | aside {k : Nat} {update : W → W} {next : W → Program W α} {w v : W} {deeds : List (Deed σ)} :
    registry.get (update w) = registry.get w → Performs registry k (next w) (update w) deeds v →
    Performs registry k (.step update next) w deeds v
  | operate {k j : Nat} {update : W → W} {next : W → Program W α} {w v : W}
      {deeds : List (Deed σ)} {op : Operation σ} :
    registry.get (update w) = op.apply (registry.get w) → op.Moves (registry.get w) k j →
    Performs registry j (next w) (update w) deeds v →
    Performs registry k (.step update next) w (⟨registry.get w, op⟩ :: deeds) v

variable {deeds : List (Deed σ)} {w v : W}

/-- Every world that an orderly program goes through is reached by a course of deeds. -/
lemma Uses.performs (hp : p.Uses registry k) (hv : v ∈ p.visited w) :
    ∃ deeds, p.Performs registry k w deeds v := by
  induction p generalizing k w with
  | done a =>
    rw [visited, List.mem_singleton] at hv
    subst hv
    exact ⟨[], .here⟩
  | step update next ih =>
    rcases List.mem_cons.1 hv with rfl | hv
    · exact ⟨[], .here⟩
    · rcases hp w with ⟨same, hnext⟩ | ⟨op, j, same, moves, hnext⟩
      · obtain ⟨deeds, performs⟩ := ih w hnext hv
        exact ⟨deeds, .aside same performs⟩
      · obtain ⟨deeds, performs⟩ := ih w hnext hv
        exact ⟨⟨registry.get w, op⟩ :: deeds, .operate same moves performs⟩
  | wait ready alarm next ih =>
    obtain ⟨deeds, performs⟩ := ih hp hv
    exact ⟨deeds, .wait performs⟩

/-- The registry takes the course of the deeds that are performed on it. -/
lemma Performs.course (h : p.Performs registry k w deeds v) :
    Course (registry.get w) deeds (registry.get v) := by
  induction h with
  | here => exact .nil
  | wait _ ih => exact ih
  | aside same _ ih =>
    rw [same] at ih
    exact ih
  | operate same _ _ ih =>
    rw [same] at ih
    exact .cons ih

end Program

/-! ### Sites -/

namespace Site

open Registry (Operation)
open Program (Uses)

/--
A site where everyone keeps to the operations of the registry: the counters stand beside it, and the
programs of watchers, also those that answer questions to the ledger, use it and finish no start but
their own.
-/
structure Orderly (s : Site W σ) : Prop where
  metrics : ∀ m w, s.registry.get (s.metrics.set m w) = s.registry.get w
  start : ∀ watcher settings, (s.behaviour.start watcher settings).Uses s.registry 0
  notify : ∀ watcher block c, (s.behaviour.notify watcher block c).Uses s.registry 0
  ledger : ∀ id, (s.ledger.transaction? id).Uses s.registry 0

variable {s : Site W σ}

lemma registration_uses (h : Handle) : (s.registration h).Uses s.registry 0 :=
  Uses.bind (.look _) fun _ => .done _

lemma isLive_uses (h : Handle) : (s.isLive h).Uses s.registry 0 :=
  Uses.bind (.look _) fun _ => .done _

lemma acquire_uses (h : Handle) : (s.acquire h).Uses s.registry 0 := by
  have mark : (Program.modify s.registry (Registry.setBusy h true)).Uses s.registry 0 :=
    .modify (.setBusy h true) (fun _ => rfl) fun _ => rfl
  refine Uses.bind (registration_uses h) fun reg => ?_
  cases reg.busy with
  | true => exact Uses.bind (p := Program.waitFor _ _) trivial fun _ => mark
  | false => exact mark

/-- A program of a watcher, with what stands before and after it. -/
lemma perform_uses {f : Registration σ → Program W (α × σ)} (h : Handle)
    (hf : ∀ reg, (f reg).Uses s.registry 0) : (s.perform h f).Uses s.registry 0 := by
  refine Uses.bind (acquire_uses h) fun _ => ?_
  refine Uses.bind .pause fun _ => ?_
  refine Uses.bind (registration_uses h) fun reg => ?_
  refine Uses.bind (hf reg) fun ⟨result, watcher⟩ => ?_
  refine Uses.bind (.modify (.release h watcher) (fun _ => rfl) fun _ => rfl) fun _ => ?_
  exact Uses.bind .pause fun _ => .done result

lemma setCriteria_uses (h : Handle) (c : Criteria) :
    (Program.modify s.registry (Registry.setCriteria h c)).Uses s.registry 0 :=
  .modify (.setCriteria h c) (fun _ => rfl) fun _ => rfl

namespace Orderly

/-- Asking watchers to start finishes no start that is in progress. -/
lemma startAll (hs : s.Orderly) (handles : List Handle) :
    (s.startAll handles).Uses s.registry 0 := by
  induction handles with
  | nil => exact .done _
  | cons h rest ih =>
    refine Uses.bind (registration_uses h) fun reg => ?_
    refine Uses.bind (perform_uses h fun reg => hs.start _ _) fun answer => ?_
    cases answer with
    | error e => exact .done _
    | ok initial =>
      cases valid : initial.validate with
      | error e =>
        simp only [valid]
        exact .done _
      | ok initial =>
        simp only [valid]
        exact Uses.bind (setCriteria_uses h initial) fun _ => ih

/-- A start raises the level by one while it is in progress. -/
lemma start_uses (hs : s.Orderly) : s.start.Uses s.registry 0 := by
  intro w
  refine .inr ⟨.beginStart, _, s.registry.get_set _ w, rfl, ?_⟩
  have answer := Registry.beginStart_fst (s.registry.get w)
  cases phase : (s.registry.get w).phase with
  | idle =>
    -- the start is in progress from here until it writes the phase
    simp only [phase] at answer
    simp only [Program.bind, answer]
    refine Uses.bind (hs.startAll _) fun answer => ?_
    cases answer with
    | error e => exact .done _
    | ok _ =>
      intro w'
      exact .inr ⟨.finishStart, 0, s.registry.get_modify _ w', rfl, trivial⟩
  | active =>
    simp only [phase] at answer
    simp only [Program.bind, answer]
    exact .done _
  | closed =>
    simp only [phase] at answer
    simp only [Program.bind, answer]
    exact .done _

/-- Looking for transactions that leave another state finishes no start that is in progress. -/
lemma anyLeavesOtherState (hs : s.Orderly) (state : Int32) (txs : List Transaction) :
    (LedgerWatch.anyLeavesOtherState s.ledger state txs).Uses s.registry 0 := by
  induction txs with
  | nil => exact .done _
  | cons tx rest ih =>
    refine Uses.bind (hs.ledger tx.id) fun answer => ?_
    cases answer with
    | error e => exact .done _
    | ok recorded =>
      cases other : leavesOtherState state recorded with
      | true =>
        simp only [other, if_true]
        exact .done _
      | false =>
        simp only [other, Bool.false_eq_true, if_false]
        exact ih

/-- Finding out whether criteria are triggered finishes no start that is in progress. -/
lemma triggeredBy (hs : s.Orderly) (c : Criteria) (b : Block) :
    (c.triggeredBy s.ledger b).Uses s.registry 0 := by
  unfold Criteria.triggeredBy
  cases c.interest with
  | artifactState expected => exact hs.anyLeavesOtherState _ _
  | _ => exact .done _

/-- Telling a watcher about a block finishes no start that is in progress. -/
lemma dispatch (hs : s.Orderly) (h : Handle) (block : BlockId) :
    (s.dispatch h block).Uses s.registry 0 := by
  refine Uses.bind (registration_uses h) fun reg => ?_
  refine Uses.bind (perform_uses h fun reg => hs.notify _ _ _) fun answer => ?_
  rcases answer with e | _ | next
  · exact .done _
  · refine Uses.bind ?_ fun _ => .done _
    exact .modify (.cancel h) (fun _ => rfl) fun _ => rfl
  · cases valid : next.validate with
    | error e =>
      simp only [valid]
      exact .done _
    | ok next =>
      simp only [valid]
      exact Uses.bind (setCriteria_uses h next) fun _ => .done _

lemma count (hs : s.Orderly) (c : Counter) : (s.count c).Uses s.registry 0 :=
  .aside hs.metrics _

/-- Offering a block to a registration finishes no start that is in progress. -/
lemma offer (hs : s.Orderly) (b : Block) (h : Handle) : (s.offer b h).Uses s.registry 0 := by
  refine Uses.bind (isLive_uses h) fun live => ?_
  cases live with
  | false => exact .done _
  | true =>
    refine Uses.bind (registration_uses h) fun reg => ?_
    refine Uses.bind (hs.triggeredBy _ b) fun triggered => ?_
    rcases triggered with e | _ | _
    · exact Uses.bind (hs.count _) fun _ => .done _
    · exact .done _
    · refine Uses.bind (isLive_uses h) fun live => ?_
      cases live with
      | false => exact .done _
      | true =>
        refine Uses.bind (hs.dispatch h b.id) fun delivery => ?_
        exact Uses.bind (hs.count _) fun _ => .done _

/-- Offering a block to registrations in turn finishes no start that is in progress. -/
lemma fanOut (hs : s.Orderly) (b : Block) (handles : List Handle) (tally : Tally) :
    (s.fanOut b tally handles).Uses s.registry 0 := by
  induction handles generalizing tally with
  | nil => exact .done _
  | cons h rest ih =>
    refine Uses.bind (hs.offer b h) fun delivery => ?_
    cases delivery with
    | none => exact ih tally
    | some delivery => exact ih (tally.add delivery)

/-- A notification finishes no start that is in progress. -/
lemma notify_uses (hs : s.Orderly) (b : Block) : (s.notify b).Uses s.registry 0 := by
  have begun : (Program.act s.registry Registry.beginNotify).Uses s.registry 0 :=
    .act .beginNotify (fun _ => rfl) fun _ => rfl
  refine Uses.bind begun fun answer => ?_
  cases answer with
  | error e => exact .done _
  | ok handles => exact Uses.bind (hs.fanOut b handles {}) fun _ => .done _

end Orderly

/-! ### Commands -/

/-- What a host can ask of a site. -/
inductive Command (σ : Type) where
  | register (name : String) (watcher : σ) (settings : Settings)
  | start
  | notify (b : Block)
  | remove (name : String)
  | close
  | cancel (h : Handle)
  | setCriteria (h : Handle) (c : Criteria)
  /-- The names, the number of registrations, one of them, or whether the registry is active. -/
  | query

/-- Does what a command asks for; the answer is dropped. -/
def obey (s : Site W σ) : Command σ → Program W Unit
  | .register name watcher settings => do
    let _ ← Program.act s.registry (Registry.register name watcher settings)
  | .start => do
    let _ ← s.start
  | .notify b => do
    let _ ← s.notify b
  | .remove name => do
    let _ ← Program.act s.registry (Registry.remove name)
  | .close => Program.modify s.registry Registry.close
  | .cancel h => Program.modify s.registry (Registry.cancel h)
  | .setCriteria h c => Program.modify s.registry (Registry.setCriteria h c)
  | .query => Program.modify s.registry Registry.settle

/-- Obeys commands one after another. -/
def carryOut (s : Site W σ) : List (Command σ) → Program W Unit
  | [] => return ()
  | command :: rest => do
    s.obey command
    carryOut s rest

/-- What a command does finishes only the start that it began. -/
lemma Orderly.obey (hs : s.Orderly) (command : Command σ) :
    (s.obey command).Uses s.registry 0 := by
  cases command with
  | register name watcher settings =>
    refine Uses.bind ?_ fun _ => .done _
    exact .act (.register name watcher settings) (fun _ => rfl) fun _ => rfl
  | start => exact Uses.bind hs.start_uses fun _ => .done _
  | notify b => exact Uses.bind (hs.notify_uses b) fun _ => .done _
  | remove name =>
    refine Uses.bind ?_ fun _ => .done _
    exact .act (.remove name) (fun _ => rfl) fun _ => rfl
  | close => exact .modify .close (fun _ => rfl) fun _ => rfl
  | cancel h => exact .modify (.cancel h) (fun _ => rfl) fun _ => rfl
  | setCriteria h c => exact setCriteria_uses h c
  | query => exact .modify .ask (fun _ => rfl) fun _ => rfl

/-- Whatever a host asks of an orderly site, it reaches the registry through operations only. -/
lemma Orderly.carryOut (hs : s.Orderly) (commands : List (Command σ)) :
    (s.carryOut commands).Uses s.registry 0 := by
  induction commands with
  | nil => exact .done _
  | cons command rest ih => exact Uses.bind (hs.obey command) fun _ => ih

end Site

end LedgerWatch
