import LedgerWatch.Proofs.Program.Through
import LedgerWatch.Proofs.Registry.Hearing

/-!
# Criteria while watchers are called

The criteria of a registration are its watcher's last word that passed validation. While a program
of the watcher is under way nobody else can call it, so nothing that is done meanwhile changes its
criteria (`Undisturbed`), whatever the program itself does at the lodge. The programs of a start and
of a notification are taken one by one, as runs that have to wait while a watcher is busy.
-/

namespace LedgerWatch

open Registry (Operation)

namespace Registry

variable {σ : Type} [Inhabited σ] {r : Registry σ} {h : Handle} {op : Operation σ}

/-- An operation leaves the criteria of a registration alone, and the mark that it is busy. -/
def Operation.Spares (h : Handle) : Operation σ → Prop
  | .setCriteria k _ | .setBusy k _ | .release k _ => k ≠ h
  | _ => True

/-- An operation that spares a registration keeps its criteria and whether it is busy. -/
lemma spared_apply (made : h < r.nextHandle) (spares : op.Spares h) :
    ((op.apply r).get h).busy = (r.get h).busy ∧
      ((op.apply r).get h).criteria = (r.get h).criteria := by
  have revises := revises_apply op made
  generalize (op.apply r).get h = after at revises
  cases revises with
  | same => exact ⟨rfl, rfl⟩
  | cancelled => exact ⟨rfl, rfl⟩
  | criteria => exact absurd rfl spares
  | busy => exact absurd rfl spares
  | released => exact absurd rfl spares

/-- Only registrations that were made are busy. -/
lemma lt_of_busy (busy : (r.get h).busy = true) : h < r.nextHandle := by
  by_contra unmade
  have beyond : r.registrations.length ≤ h := Nat.not_lt.1 unmade
  simp [get, beyond, default] at busy

/-- New registrations wait for any block after the root. -/
lemma criteria_of_new (op : Operation σ) (new : r.nextHandle ≤ h)
    (made : h < (op.apply r).nextHandle) : ((op.apply r).get h).criteria = .after .root := by
  by_cases registers : ∃ name watcher settings, op = .register name watcher settings
  · obtain ⟨name, watcher, settings, rfl⟩ := registers
    rw [Operation.apply] at made ⊢
    obtain ⟨-, -, -, e⟩ | ⟨_, -, e | e⟩ := register_cases name watcher settings r
    · rw [e, nextHandle_add, settle_nextHandle] at made
      have last : h = r.nextHandle := Nat.le_antisymm (Nat.le_of_lt_succ made) new
      rw [e, get_add, settle_nextHandle, if_pos last]
    · rw [e] at made
      exact absurd made (Nat.not_lt.2 new)
    · rw [e, settle_nextHandle] at made
      exact absurd made (Nat.not_lt.2 new)
  · rw [nextHandle_apply registers] at made
    exact absurd made (Nat.not_lt.2 new)

/-- The criteria of every registration are valid. -/
def AllValid (r : Registry σ) : Prop :=
  ∀ h, h < r.nextHandle → (r.get h).criteria.Valid

/-- Criteria stay valid if the ones that are set are. -/
lemma AllValid.apply (all : r.AllValid) (op : Operation σ)
    (valid : ∀ h c, op = .setCriteria h c → c.Valid) : (op.apply r).AllValid := by
  intro h made
  rcases Nat.lt_or_ge h r.nextHandle with old | new
  · have revises := revises_apply op old
    generalize (op.apply r).get h = after at revises
    cases revises with
    | criteria c => exact valid h c rfl
    | _ => exact all h old
  · rw [criteria_of_new op new made]
    decide

end Registry

namespace Lodge

variable {W σ α : Type} [Inhabited σ] {l : Lodge W σ} {u v w : W} {h : Handle} {e : Remark}
  {op : Operation (Badged σ)}

/-- All criteria are valid, those of the registrations and those that watchers were told. -/
structure InForce (l : Lodge W σ) (w : W) : Prop where
  registrations : (l.registry.get w).AllValid
  told : ∀ h block c, .told h block c ∈ l.diary.get w → c.Valid

/-- A later world, in which criteria are valid if they were before. -/
structure Upholds (l : Lodge W σ) (w v : W) : Prop where
  later : (l.registry.get w).Later (l.registry.get v)
  valid : l.InForce w → l.InForce v

instance : IsPreorder W l.Upholds where
  refl _ := ⟨.refl _, id⟩
  trans _ _ _ a b := ⟨a.later.trans b.later, b.valid ∘ a.valid⟩

/-- Where nothing happens at the lodge, valid criteria stay valid. -/
lemma Rests.upholds (r : l.Rests w v) : l.Upholds w v where
  later := by
    rw [r.registry]
    exact .refl _
  valid inForce := ⟨r.registry ▸ inForce.registrations, r.diary ▸ inForce.told⟩

/-- Valid criteria stay valid when none are set that are not. -/
lemma Does.upholds (d : l.Does op w v) (valid : ∀ h c, op = .setCriteria h c → c.Valid) :
    l.Upholds w v where
  later := by
    rw [d.registry]
    exact .apply _ op
  valid inForce := by
    refine ⟨?_, fun h block c mem => ?_⟩
    · rw [d.registry]
      exact inForce.registrations.apply op valid
    · rw [d.diary, List.mem_append] at mem
      rcases mem with mem | mem
      · exact inForce.told h block c mem
      · rcases op.enrols_cases (l.registry.get w) with ⟨none, -⟩ | ⟨one, -⟩
        · rw [none] at mem
          cases mem
        · rw [one, List.mem_singleton] at mem
          cases mem

/-- Valid criteria stay valid when a watcher is told about a block with valid ones. -/
lemma Notes.upholds (n : l.Notes e w v) (valid : ∀ h block c, e = .told h block c → c.Valid) :
    l.Upholds w v where
  later := by
    rw [n.registry]
    exact .refl _
  valid inForce := by
    refine ⟨n.registry ▸ inForce.registrations, fun h block c mem => ?_⟩
    rw [n.diary, List.mem_append, List.mem_singleton] at mem
    rcases mem with mem | same
    · exact inForce.told h block c mem
    · exact valid h block c same.symm

/-- Whoever is busy stays busy, with the same criteria. -/
def Undisturbed (l : Lodge W σ) (w v : W) : Prop :=
  ∀ h, ((l.registry.get w).get h).busy = true →
    ((l.registry.get v).get h).busy = true ∧
      ((l.registry.get v).get h).criteria = ((l.registry.get w).get h).criteria

lemma Undisturbed.refl (w : W) : l.Undisturbed w w :=
  fun _ busy => ⟨busy, rfl⟩

lemma Undisturbed.trans (a : l.Undisturbed u v) (b : l.Undisturbed v w) : l.Undisturbed u w := by
  intro h busy
  obtain ⟨busy', same⟩ := a h busy
  obtain ⟨busy'', same'⟩ := b h busy'
  exact ⟨busy'', same'.trans same⟩

/-- Whoever is busy is not disturbed where the registry stays as it is. -/
lemma Undisturbed.of_same (same : l.registry.get v = l.registry.get w) : l.Undisturbed w v := by
  intro h busy
  rw [same]
  exact ⟨busy, rfl⟩

/-- An operation that spares whoever is busy disturbs nobody. -/
lemma Does.undisturbed (d : l.Does op w v)
    (spares : ∀ h, ((l.registry.get w).get h).busy = true → op.Spares h) : l.Undisturbed w v := by
  intro h busy
  obtain ⟨same, criteria⟩ := Registry.spared_apply (Registry.lt_of_busy busy) (spares h busy)
  rw [d.registry]
  exact ⟨same.trans busy, criteria⟩

/-- An operation that spares whoever was busy before disturbs nobody afterwards either. -/
lemma Undisturbed.does (a : l.Undisturbed u w) (d : l.Does op w v)
    (spares : ∀ h, ((l.registry.get u).get h).busy = true → op.Spares h) : l.Undisturbed u v := by
  intro h busy
  obtain ⟨busy', same⟩ := a h busy
  obtain ⟨still, criteria⟩ := Registry.spared_apply (Registry.lt_of_busy busy') (spares h busy)
  rw [d.registry]
  exact ⟨still.trans busy', criteria.trans same⟩

/-- A program of a watcher was run from one world to another, while it was marked as busy. -/
structure Performed (l : Lodge W σ) (h : Handle)
    (f : Registration (Badged σ) → Program W (α × Badged σ)) (w : W) (a : α) (v : W) : Prop where
  free : ((l.registry.get w).get h).busy = false
  own : ∃ u u' x, l.Does (.setBusy h true) w u ∧
    (f ((l.registry.get u).get h)).through u = some ((a, x), u') ∧
    (l.registry.get u).Later (l.registry.get u') ∧ l.Undisturbed u u' ∧ l.Does (.release h x) u' v

namespace Performed

variable {f : Registration (Badged σ) → Program W (α × Badged σ)} {a : α}

/-- Who is busy already is another one. -/
lemma ne {k : Handle} (p : l.Performed h f w a v)
    (busy : ((l.registry.get w).get k).busy = true) : h ≠ k := by
  rintro rfl
  rw [p.free] at busy
  cases busy

/-- While the program of a watcher runs, nobody who was busy before is disturbed. -/
lemma undisturbed (p : l.Performed h f w a v) : l.Undisturbed w v := by
  obtain ⟨u, u', x, mark, -, -, own, release⟩ := p.own
  have marked : l.Undisturbed w u :=
    (Undisturbed.refl w).does mark fun k busy => p.ne busy
  exact (marked.trans own).does release fun k busy => p.ne busy

end Performed

/-! ### Single steps -/

/-- An operation is performed in one step. -/
lemma proceeds_operate (op : Operation (Badged σ))
    {f : Registry (Badged σ) → Registry (Badged σ)} (hf : ∀ r, f r = op.apply r)
    (quiet : ∀ r, op.enrols r = []) (valid : ∀ h c, op = .setCriteria h c → c.Valid) :
    (Program.modify l.registry f).Proceeds l.Upholds w fun _ v => l.Does op w v := by
  have does : l.Does op w (l.registry.modify f w) := by
    rw [Part.modify, hf]
    exact does_set (quiet _)
  exact ⟨does.upholds valid, does⟩

/-- An operation with an answer is performed in one step. -/
lemma proceeds_act (op : Operation (Badged σ))
    {f : Registry (Badged σ) → α × Registry (Badged σ)} (hf : ∀ r, (f r).2 = op.apply r)
    (quiet : ∀ r, op.enrols r = []) (valid : ∀ h c, op = .setCriteria h c → c.Valid) :
    (Program.act l.registry f).Proceeds l.Upholds w fun _ v => l.Does op w v := by
  have does : l.Does op w (l.registry.set (f (l.registry.get w)).2 w) := by
    rw [hf]
    exact does_set (quiet _)
  exact ⟨does.upholds valid, does⟩

/-- Something is written down, and nobody is disturbed. -/
lemma proceeds_note (valid : ∀ h block c, e = .told h block c → c.Valid) :
    (l.note e).Proceeds l.Upholds w fun _ v => l.Undisturbed w v := by
  have notes : l.Notes e w (l.diary.modify (· ++ [e]) w) :=
    ⟨l.apart.left _ w, l.diary.get_modify _ w⟩
  exact ⟨notes.upholds valid, .of_same notes.registry⟩

lemma proceeds_pause {Q : Unit → W → Prop} (q : Q () w) :
    (Program.pause : Program W Unit).Proceeds l.Upholds w Q :=
  fun _ => q

section Site

variable {metrics : Part W Metrics} {ledger : LedgerReads W} {conduct : Handle → Behaviour W σ}

lemma proceeds_registration {Q : Registration (Badged σ) → W → Prop}
    (q : Q ((l.registry.get w).get h) w) :
    ((l.site metrics ledger conduct).registration h).Proceeds l.Upholds w Q :=
  ⟨refl w, q⟩

lemma proceeds_isLive {Q : Bool → W → Prop} (q : Q ((l.registry.get w).isLive h) w) :
    ((l.site metrics ledger conduct).isLive h).Proceeds l.Upholds w Q :=
  ⟨refl w, q⟩

/-- Only a watcher that is not busy is acquired. -/
lemma proceeds_acquire (h : Handle) :
    ((l.site metrics ledger conduct).acquire h).Proceeds l.Upholds w fun _ v =>
      ((l.registry.get w).get h).busy = false ∧ l.Does (.setBusy h true) w v := by
  have mark : (Program.modify l.registry (Registry.setBusy h true)).Proceeds l.Upholds w
      fun _ v => l.Does (.setBusy h true) w v :=
    proceeds_operate _ (fun _ => rfl) (fun _ => rfl) nofun
  refine Program.Proceeds.bind (proceeds_registration
    (Q := fun reg v => w = v ∧ reg = (l.registry.get w).get h) ⟨rfl, rfl⟩) ?_
  rintro reg _ - ⟨rfl, rfl⟩
  cases busy : ((l.registry.get w).get h).busy with
  | true =>
    -- nobody else has a turn, so the wait has no end
    intro now
    have free : (!((l.registry.get w).get h).busy) = true := now
    rw [busy] at free
    cases free
  | false => exact mark.mono fun _ _ _ does => ⟨rfl, does⟩

/-- A program of a watcher is run while the watcher is marked as busy. -/
lemma proceeds_perform {f : Registration (Badged σ) → Program W (α × Badged σ)}
    (inForce : l.InForce w)
    (hf : ∀ reg u, l.InForce u → (f reg).Proceeds l.Upholds u fun _ v => l.Undisturbed u v) :
    ((l.site metrics ledger conduct).perform h f).Proceeds l.Upholds w
      fun a v => l.Performed h f w a v := by
  refine Program.Proceeds.bind (proceeds_acquire h) ?_
  rintro _ u upheld ⟨free, mark⟩
  refine Program.Proceeds.bind (proceeds_pause (Q := fun _ v => u = v) rfl) ?_
  rintro _ _ - rfl
  refine Program.Proceeds.bind (proceeds_registration
    (Q := fun reg v => u = v ∧ reg = (l.registry.get u).get h) ⟨rfl, rfl⟩) ?_
  rintro _ _ - ⟨rfl, rfl⟩
  refine Program.Proceeds.bind (hf _ u (upheld.valid inForce)).ending ?_
  rintro ⟨a, x⟩ u' meanwhile ⟨own, ends⟩
  refine Program.Proceeds.bind (proceeds_operate (.release h x) (fun _ => rfl) (fun _ => rfl)
    nofun) fun _ v _ release => ?_
  refine Program.Proceeds.bind (proceeds_pause (Q := fun _ v' => v = v') rfl) ?_
  rintro _ _ - rfl
  exact ⟨free, u, u', x, mark, ends, meanwhile.later, own, release⟩

/-! ### Starting -/

section Starting

variable (hstart : ∀ h x settings w, l.InForce w →
  ((conduct h).start x settings).Proceeds l.Upholds w fun _ v => l.Undisturbed w v)

include hstart

/-- The start of a watcher that keeps a diary disturbs nobody who is busy. -/
lemma proceeds_start_diarised (reg : Registration (Badged σ)) (inForce : l.InForce w) :
    ((l.diarised conduct).start reg.watcher reg.settings).Proceeds l.Upholds w
      fun _ v => l.Undisturbed w v := by
  refine Program.Proceeds.bind (proceeds_note nofun) fun _ u upheld asked => ?_
  refine Program.Proceeds.bind (hstart _ _ _ u (upheld.valid inForce)) ?_
  rintro ⟨answer, x⟩ u' - own
  refine Program.Proceeds.bind (proceeds_note nofun) fun _ v _ answered => ?_
  exact (asked.trans own).trans answered

/-- A watcher is asked to start while it is marked as busy. -/
lemma proceeds_startWatcher (inForce : l.InForce w) :
    ((l.site metrics ledger conduct).startWatcher h).Proceeds l.Upholds w fun answer v =>
      l.Performed h (fun reg => (l.diarised conduct).start reg.watcher reg.settings) w answer v :=
  proceeds_perform inForce fun reg _ => proceeds_start_diarised hstart reg

/-- Only criteria that pass validation are put in force, and only while nobody is busy with them. -/
lemma proceeds_startAll (handles : List Handle) (inForce : l.InForce w) :
    ((l.site metrics ledger conduct).startAll handles).Proceeds l.Upholds w
      fun _ v => l.Undisturbed w v := by
  induction handles generalizing w with
  | nil => exact .refl w
  | cons h rest ih =>
    refine Program.Proceeds.bind (proceeds_registration (Q := fun _ v => w = v) rfl) ?_
    rintro reg _ - rfl
    refine Program.Proceeds.bind (proceeds_startWatcher hstart inForce) ?_
    intro answer v upheld performed
    cases answer with
    | error e => exact performed.undisturbed
    | ok initial =>
      cases valid : initial.validate with
      | error e =>
        simp only [valid]
        exact performed.undisturbed
      | ok initial' =>
        obtain ⟨isValid, rfl⟩ := Criteria.validate_eq_ok_iff.1 valid
        simp only [valid]
        refine Program.Proceeds.bind (proceeds_operate (.setCriteria h initial') (fun _ => rfl)
          (fun _ => rfl) fun _ _ same => by cases same; exact isValid) fun _ u upheld' does => ?_
        have here : l.Undisturbed w u :=
          performed.undisturbed.does does fun k busy => performed.ne busy
        exact (ih (upheld'.valid (upheld.valid inForce))).mono fun _ _ _ more => here.trans more

/-- A start disturbs nobody who is busy. -/
lemma proceeds_start (inForce : l.InForce w) :
    ((l.site metrics ledger conduct).start).Proceeds l.Upholds w
      fun _ v => l.Undisturbed w v := by
  refine Program.Proceeds.bind (proceeds_act .beginStart (fun _ => rfl) (fun _ => rfl) nofun) ?_
  intro answer u upheld does
  have begun : l.Undisturbed w u := does.undisturbed fun _ _ => trivial
  cases answer with
  | error e => exact begun
  | ok handles =>
    refine Program.Proceeds.bind (proceeds_startAll hstart handles (upheld.valid inForce)) ?_
    intro answer v _ more
    cases answer with
    | error e => exact begun.trans more
    | ok _ =>
      refine Program.Proceeds.bind (proceeds_operate .finishStart (fun _ => rfl) (fun _ => rfl)
        nofun) fun _ v' _ does' => ?_
      exact (begun.trans more).does does' fun _ _ => trivial

end Starting

/-! ### Notifying -/

section Notifying

variable (haside : l.Aside metrics)
  (hledger : ∀ id w, l.InForce w →
    (ledger.transaction? id).Proceeds l.Upholds w fun _ v => l.Undisturbed w v)
  (hnotify : ∀ h x block c w, l.InForce w →
    ((conduct h).notify x block c).Proceeds l.Upholds w fun _ v => l.Undisturbed w v)

include hnotify in
/-- A watcher that keeps a diary and is told with valid criteria disturbs nobody who is busy. -/
lemma proceeds_notify_diarised (reg : Registration (Badged σ)) (inForce : l.InForce w)
    (block : BlockId) {c : Criteria} (valid : c.Valid) :
    ((l.diarised conduct).notify reg.watcher block c).Proceeds l.Upholds w
      fun _ v => l.Undisturbed w v := by
  refine Program.Proceeds.bind (proceeds_note fun _ _ _ same => by cases same; exact valid)
    fun _ u upheld told => ?_
  refine Program.Proceeds.bind (hnotify _ _ _ _ u (upheld.valid inForce)) ?_
  rintro ⟨reply, x⟩ u' - own
  refine Program.Proceeds.bind (proceeds_note nofun) fun _ v _ replied => ?_
  exact (told.trans own).trans replied

include hnotify in
/-- A watcher is told about a block while it is marked as busy. -/
lemma proceeds_notifyWatcher (inForce : l.InForce w) (block : BlockId) {c : Criteria}
    (valid : c.Valid) :
    ((l.site metrics ledger conduct).notifyWatcher h block c).Proceeds l.Upholds w fun reply v =>
      l.Performed h (fun reg => (l.diarised conduct).notify reg.watcher block c) w reply v :=
  proceeds_perform inForce fun reg _ inForce =>
    proceeds_notify_diarised hnotify reg inForce block valid

include hnotify in
/-- A watcher is told the criteria in force, which are valid. -/
lemma proceeds_dispatch (inForce : l.InForce w) (made : h < (l.registry.get w).nextHandle)
    (block : BlockId) : ((l.site metrics ledger conduct).dispatch h block).Proceeds l.Upholds w
      fun _ v => l.Undisturbed w v := by
  refine Program.Proceeds.bind (proceeds_registration
    (Q := fun reg v => w = v ∧ reg = (l.registry.get w).get h) ⟨rfl, rfl⟩) ?_
  rintro reg _ - ⟨rfl, rfl⟩
  have valid := inForce.registrations h made
  refine Program.Proceeds.bind (proceeds_notifyWatcher hnotify inForce block valid) ?_
  intro reply v _ performed
  rcases reply with e | _ | next
  · exact performed.undisturbed
  · refine Program.Proceeds.bind (proceeds_operate (.cancel h) (fun _ => rfl) (fun _ => rfl)
      nofun) fun _ v' _ does => ?_
    exact performed.undisturbed.does does fun _ _ => trivial
  · cases checked : next.validate with
    | error e =>
      simp only [checked]
      exact performed.undisturbed
    | ok next' =>
      obtain ⟨isValid, rfl⟩ := Criteria.validate_eq_ok_iff.1 checked
      simp only [checked]
      refine Program.Proceeds.bind (proceeds_operate (.setCriteria h next') (fun _ => rfl)
        (fun _ => rfl) fun _ _ same => by cases same; exact isValid) fun _ v' _ does => ?_
      exact performed.undisturbed.does does fun k busy => performed.ne busy

include hledger in
/-- Looking for another state disturbs nobody who is busy. -/
lemma proceeds_anyLeavesOtherState (inForce : l.InForce w) (state : Int32)
    (txs : List Transaction) : (anyLeavesOtherState ledger state txs).Proceeds l.Upholds w
      fun _ v => l.Undisturbed w v := by
  induction txs generalizing w with
  | nil => exact .refl w
  | cons tx rest ih =>
    refine Program.Proceeds.bind (hledger tx.id w inForce) fun answer v upheld asked => ?_
    cases answer with
    | error e => exact asked
    | ok recorded =>
      cases other : leavesOtherState state recorded with
      | true =>
        simp only [other, if_true]
        exact asked
      | false =>
        simp only [other, Bool.false_eq_true, if_false]
        exact (ih (upheld.valid inForce)).mono fun _ _ _ more => asked.trans more

include hledger in
/-- Finding out whether criteria are triggered disturbs nobody who is busy. -/
lemma proceeds_triggeredBy (inForce : l.InForce w) (c : Criteria) (b : Block) :
    (c.triggeredBy ledger b).Proceeds l.Upholds w fun _ v => l.Undisturbed w v := by
  unfold Criteria.triggeredBy
  cases c.interest with
  | artifactState expected => exact proceeds_anyLeavesOtherState hledger inForce _ _
  | _ => exact .refl w

include haside in
lemma proceeds_count (c : Counter) :
    ((l.site metrics ledger conduct).count c).Proceeds l.Upholds w
      fun _ v => l.Undisturbed w v :=
  ⟨(haside _ w).upholds, .of_same (haside _ w).registry⟩

include haside hledger hnotify in
/-- Offering a block to a registration disturbs nobody else who is busy. -/
lemma proceeds_offer (inForce : l.InForce w) (b : Block) (h : Handle) :
    ((l.site metrics ledger conduct).offer b h).Proceeds l.Upholds w
      fun _ v => l.Undisturbed w v := by
  refine Program.Proceeds.bind (proceeds_isLive (Q := fun _ v => w = v) rfl) ?_
  rintro live _ - rfl
  cases live with
  | false => exact .refl w
  | true =>
    refine Program.Proceeds.bind (proceeds_registration (Q := fun _ v => w = v) rfl) ?_
    rintro reg _ - rfl
    refine Program.Proceeds.bind (proceeds_triggeredBy hledger inForce reg.criteria b) ?_
    intro triggered u upheld asked
    rcases triggered with e | _ | _
    · exact (proceeds_count haside _).mono fun _ _ _ more => asked.trans more
    · exact asked
    · refine Program.Proceeds.bind (proceeds_isLive
        (Q := fun live v => u = v ∧ live = (l.registry.get u).isLive h) ⟨rfl, rfl⟩) ?_
      rintro live _ - ⟨rfl, here⟩
      cases live with
      | false => exact asked
      | true =>
        have made := Registry.lt_of_isLive here.symm
        refine Program.Proceeds.bind (proceeds_dispatch hnotify (upheld.valid inForce) made b.id) ?_
        intro delivery v _ told
        exact (proceeds_count haside _).mono fun _ _ _ more => (asked.trans told).trans more

include haside hledger hnotify in
/-- Offering a block to registrations in turn disturbs nobody else who is busy. -/
lemma proceeds_fanOut (inForce : l.InForce w) (b : Block) (handles : List Handle)
    (tally : Tally) : ((l.site metrics ledger conduct).fanOut b tally handles).Proceeds l.Upholds w
      fun _ v => l.Undisturbed w v := by
  induction handles generalizing tally w with
  | nil => exact .refl w
  | cons h rest ih =>
    refine Program.Proceeds.bind (proceeds_offer haside hledger hnotify inForce b h) ?_
    intro delivery v upheld offered
    cases delivery with
    | none => exact (ih (upheld.valid inForce) _).mono fun _ _ _ more => offered.trans more
    | some delivery => exact (ih (upheld.valid inForce) _).mono fun _ _ _ more => offered.trans more

include haside hledger hnotify in
/-- A notification disturbs nobody who is busy. -/
lemma proceeds_notify (inForce : l.InForce w) (b : Block) :
    ((l.site metrics ledger conduct).notify b).Proceeds l.Upholds w
      fun _ v => l.Undisturbed w v := by
  refine Program.Proceeds.bind (proceeds_act .beginNotify (fun _ => rfl) (fun _ => rfl) nofun) ?_
  intro answer u upheld does
  have begun : l.Undisturbed w u := does.undisturbed fun _ _ => trivial
  cases answer with
  | error e => exact begun
  | ok handles =>
    refine Program.Proceeds.bind
      (proceeds_fanOut haside hledger hnotify (upheld.valid inForce) b handles {}) ?_
    exact fun _ _ _ more => begun.trans more

end Notifying

end Site

end Lodge

end LedgerWatch
