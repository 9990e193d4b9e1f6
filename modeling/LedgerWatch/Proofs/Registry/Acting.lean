import LedgerWatch.Proofs.Registry.Hearing

/-!
# Whatever acts at a lodge

Hosts and watchers perform operations on the registry of a lodge, and call on its sites to start and
to notify, from any depth: a watcher may do all of that while it is being called itself, and so may
a ledger that is asked a question. Step by step a run of such a program leads from one world to the
next, and what the whole program adds to the diary is balanced (`Acts.runs`): the induction on the
program discharges what the lemmas about starts and notifications assume of the watchers they call.
-/

namespace LedgerWatch

open Registry (Operation)

namespace Lodge

variable {W σ α : Type} [Inhabited σ] {l : Lodge W σ} {v w : W}

/-- One step of a host or a watcher: it leaves the lodge alone or performs an operation. -/
def Moves (l : Lodge W σ) (w v : W) : Prop :=
  l.Rests w v ∨ ∃ op, Operation.Free (l.registry.get w) op ∧ l.Does op w v

/-- What a program may do at a lodge, with whatever its watchers and its ledger do meanwhile. -/
inductive Acts (l : Lodge W σ) : {α : Type} → Program W α → Prop where
  | done {α : Type} (a : α) :
    Acts l (.done a)
  | wait {α : Type} {ready : W → Bool} {alarm : Option Nat} {next : Program W α} :
    Acts l next →
    Acts l (.wait ready alarm next)
  | step {α : Type} {update : W → W} {next : W → Program W α} :
    (∀ w, l.Moves w (update w)) →
    (∀ w, Acts l (next w)) →
    Acts l (.step update next)
  | start {α : Type} {metrics : Part W Metrics} {ledger : LedgerReads W}
      {conduct : Handle → Behaviour W σ} {next : Except RegistryError Unit → Program W α} :
    (∀ h x settings, Acts l ((conduct h).start x settings)) →
    (∀ answer, Acts l (next answer)) →
    Acts l ((l.site metrics ledger conduct).start.bind next)
  | notify {α : Type} {metrics : Part W Metrics} {ledger : LedgerReads W}
      {conduct : Handle → Behaviour W σ} {b : Block}
      {next : Except RegistryError Tally → Program W α} :
    l.Aside metrics →
    (∀ id, Acts l (ledger.transaction? id)) →
    (∀ h x block c, Acts l ((conduct h).notify x block c)) →
    (∀ answer, Acts l (next answer)) →
    Acts l (((l.site metrics ledger conduct).notify b).bind next)

/-- A step of a host or a watcher leads to a later world. -/
lemma Moves.leads (m : l.Moves w v) : l.Leads w v := by
  rcases m with rests | ⟨op, free, does⟩
  · exact rests.leads
  · exact does.leads_of_free free

/-- In a step of a host or a watcher nobody is called. -/
lemma Moves.adds (m : l.Moves w v) : l.Adds Diary.Quiet w v := by
  rcases m with rests | ⟨op, -, does⟩
  · exact .refl .nil rests.diary
  · refine ⟨_, ?_, does.diary⟩
    rcases op.enrols_cases (l.registry.get w) with ⟨none, -⟩ | ⟨one, -⟩
    · rw [none]
      exact .nil
    · rw [one]
      exact List.forall_mem_singleton.2 rfl

/-- Whatever is done at a lodge in order, one world leads to the next and every call has its end. -/
lemma Acts.runs {p : Program W α} (acts : l.Acts p) (o : l.InOrder w) :
    p.Runs l.Leads w fun _ v => l.Adds Diary.Balanced w v := by
  induction acts generalizing w with
  | done a => exact .refl .nil rfl
  | wait _ ih => exact ih o
  | step moves _ ih =>
    have leads := (moves w).leads
    have first := (moves w).adds.imp fun _ => Diary.Quiet.balanced
    exact ⟨leads, (ih w (leads.order o)).mono fun _ _ _ adds => first.trans adds fun _ _ => .append⟩
  | start _ _ ihstart ihnext =>
    -- what the watchers do when they are asked is covered by the induction
    refine Program.Runs.bind (runs_start (fun h x settings w => ihstart h x settings) o) ?_
    intro answer v leads adds
    exact (ihnext answer (leads.order o)).mono fun _ _ _ more => adds.trans more fun _ _ => .append
  | notify aside _ _ _ ihledger ihnotify ihnext =>
    refine Program.Runs.bind (runs_notify .nil (fun _ _ => .append) aside
      (fun id w => ihledger id) (fun h x block c w => ihnotify h x block c) o _) ?_
    rintro answer v leads ⟨replies, fans, -⟩
    have adds : l.Adds Diary.Balanced _ v := fans.imp fun _ fan => fan.balanced
    exact (ihnext answer (leads.order o)).mono fun _ _ _ more => adds.trans more fun _ _ => .append

/-- Programs that act do so one after the other. -/
lemma Acts.bind {β : Type} {p : Program W α} {f : α → Program W β} (acts : l.Acts p)
    (hf : ∀ a, l.Acts (f a)) : l.Acts (p.bind f) := by
  induction acts with
  | done a => exact hf a
  | wait _ ih => exact .wait (ih hf)
  | step moves _ ih => exact .step moves fun w => ih w hf
  | start hstart _ _ ih =>
    rw [Program.bind_assoc]
    exact .start hstart fun answer => ih answer hf
  | notify aside hledger hnotify _ _ _ ih =>
    rw [Program.bind_assoc]
    exact .notify aside hledger hnotify fun answer => ih answer hf

/-- A program that starts and notifies nothing. -/
def Operates (l : Lodge W σ) : Program W α → Prop
  | .done _ => True
  | .step update next => (∀ w, l.Moves w (update w)) ∧ ∀ w, l.Operates (next w)
  | .wait _ _ next => l.Operates next

lemma Operates.done (a : α) : l.Operates (.done a : Program W α) :=
  trivial

lemma Operates.bind {β : Type} {p : Program W α} {f : α → Program W β} (operates : l.Operates p)
    (hf : ∀ a, l.Operates (f a)) : l.Operates (p.bind f) := by
  induction p with
  | done a => exact hf a
  | step update next ih => exact ⟨operates.1, fun w => ih w (operates.2 w)⟩
  | wait ready alarm next ih => exact ih operates

/-- A program that operates acts. -/
lemma Operates.acts {p : Program W α} (operates : l.Operates p) : l.Acts p := by
  induction p with
  | done a => exact .done a
  | step update next ih => exact .step operates.1 fun w => ih w (operates.2 w)
  | wait ready alarm next ih => exact .wait (ih operates)

/-- A program that operates runs in order, and calls nobody. -/
lemma Operates.runs {p : Program W α} (operates : l.Operates p) (o : l.InOrder w) :
    p.Runs l.Leads w fun _ v => l.Adds Diary.Quiet w v := by
  induction p generalizing w with
  | done a => exact .refl .nil rfl
  | step update next ih =>
    have leads := (operates.1 w).leads
    have first := (operates.1 w).adds
    exact ⟨leads, (ih w (operates.2 w) (leads.order o)).mono
      fun _ _ _ adds => first.trans adds fun _ _ => .append⟩
  | wait ready alarm next ih => exact ih operates o

/-- Performs an operation that may depend on the registry, and writes down whom it registers. -/
def carry (l : Lodge W σ) (op : Registry (Badged σ) → Operation (Badged σ)) : Program W Unit :=
  Program.change fun w =>
    let r := l.registry.get w
    l.diary.modify (· ++ (op r).enrols r) (l.registry.set ((op r).apply r) w)

/-- A free operation is carried out. -/
lemma carry_operates {op : Registry (Badged σ) → Operation (Badged σ)}
    (free : ∀ r, (op r).Free r) : l.Operates (l.carry op) := by
  refine ⟨fun w => .inr ⟨op (l.registry.get w), free _, ?_, ?_⟩, fun _ => trivial⟩
  · exact (l.apart.left _ _).trans (l.registry.get_set _ _)
  · exact (l.diary.get_modify _ _).trans (congrArg (· ++ _) (l.apart.right _ _))

end Lodge

end LedgerWatch
