import LedgerWatch.Proofs.Program.Alike
import LedgerWatch.Registry.Site

/-!
# Sites that are counterparts

Two sites in worlds of their own are counterparts while a block is notified when their registries
are the same, the transactions of the block are answered alike, and their watchers are told alike.
Then the notification does alike at both (`Counterparts.notify_alike`): what becomes of the
registry depends on nothing else that the worlds contain.
-/

namespace LedgerWatch.Site

open Program (Alike)

variable {W W' σ α : Type} {R : W → W' → Prop} {b : Block} {s : Site W σ} {s' : Site W' σ}

/-- Related worlds have the same registry, and all that a notification does goes on alike. -/
structure Counterparts (R : W → W' → Prop) (b : Block) (s : Site W σ) (s' : Site W' σ) : Prop where
  registry : ∀ w w', R w w' → s.registry.get w = s'.registry.get w'
  set : ∀ r w w', R w w' → R (s.registry.set r w) (s'.registry.set r w')
  count : ∀ c, (s.count c).Alike R (s'.count c)
  transaction? : ∀ tx ∈ b.transactions,
    (s.ledger.transaction? tx.id).Alike R (s'.ledger.transaction? tx.id)
  notify : ∀ x c, (s.behaviour.notify x b.id c).Alike R (s'.behaviour.notify x b.id c)

namespace Counterparts

variable (h : Counterparts R b s s')

include h

/-- A change of the registry goes on alike. -/
lemma modify (f : Registry σ → Registry σ) :
    (Program.modify s.registry f).Alike R (Program.modify s'.registry f) := by
  refine .modify fun w w' related => ?_
  rw [Part.modify, Part.modify, h.registry w w' related]
  exact h.set _ w w' related

lemma act (f : Registry σ → α × Registry σ) :
    (Program.act s.registry f).Alike R (Program.act s'.registry f) := by
  intro w w' related
  rw [Program.run_act, Program.run_act, h.registry w w' related]
  exact ⟨rfl, h.set _ w w' related⟩

/-- Looking for another state among the transactions of the block goes on alike. -/
lemma anyLeavesOtherState (state : Int32) {txs : List Transaction} (sub : txs ⊆ b.transactions) :
    (LedgerWatch.anyLeavesOtherState s.ledger state txs).Alike R
      (LedgerWatch.anyLeavesOtherState s'.ledger state txs) := by
  induction txs with
  | nil => exact .done _
  | cons tx rest ih =>
    refine Alike.bind (h.transaction? tx (sub List.mem_cons_self)) fun answer => ?_
    cases answer with
    | error e => exact .done _
    | ok recorded =>
      dsimp only
      split
      · exact .done _
      · exact ih fun _ mem => sub (List.mem_cons_of_mem _ mem)

/-- Only transactions of the block are asked for. -/
lemma triggeredBy (c : Criteria) :
    (c.triggeredBy s.ledger b).Alike R (c.triggeredBy s'.ledger b) := by
  unfold Criteria.triggeredBy
  cases c.interest with
  | artifactState expected => exact h.anyLeavesOtherState _ List.filter_sublist.subset
  | _ => exact .done _

variable [Inhabited σ]

lemma registration (k : Handle) : (s.registration k).Alike R (s'.registration k) :=
  Alike.bind (.look h.registry) fun _ => .done _

lemma isLive (k : Handle) : (s.isLive k).Alike R (s'.isLive k) :=
  Alike.bind (.look h.registry) fun _ => .done _

lemma acquire (k : Handle) : (s.acquire k).Alike R (s'.acquire k) := by
  refine Alike.bind (h.registration k) fun reg => ?_
  cases reg.busy with
  | true => exact Alike.bind (.waitFor _ _ _) fun _ => h.modify _
  | false => exact h.modify _

/-- Running a program of a watcher goes on alike if the programs do. -/
lemma perform {f : Registration σ → Program W (α × σ)} {f' : Registration σ → Program W' (α × σ)}
    (k : Handle) (hf : ∀ reg, (f reg).Alike R (f' reg)) :
    (s.perform k f).Alike R (s'.perform k f') := by
  refine Alike.bind (h.acquire k) fun _ => ?_
  refine Alike.bind .pause fun _ => ?_
  refine Alike.bind (h.registration k) fun reg => ?_
  refine Alike.bind (hf reg) fun ⟨result, watcher⟩ => ?_
  refine Alike.bind (h.modify _) fun _ => ?_
  exact Alike.bind .pause fun _ => .done result

/-- A watcher is told alike, and what it replies is heeded alike. -/
lemma dispatch (k : Handle) : (s.dispatch k b.id).Alike R (s'.dispatch k b.id) := by
  refine Alike.bind (h.registration k) fun reg => ?_
  refine Alike.bind (h.perform k fun reg => h.notify _ _) fun reply => ?_
  rcases reply with e | _ | next
  · exact .done _
  · exact Alike.bind (h.modify _) fun _ => .done _
  · dsimp only
    cases next.validate with
    | error e => exact .done _
    | ok next => exact Alike.bind (h.modify _) fun _ => .done _

/-- Offering the block to a registration goes on alike. -/
lemma offer (k : Handle) : (s.offer b k).Alike R (s'.offer b k) := by
  refine Alike.bind (h.isLive k) fun live => ?_
  cases live with
  | false => exact .done _
  | true =>
    refine Alike.bind (h.registration k) fun reg => ?_
    refine Alike.bind (h.triggeredBy reg.criteria) fun triggered => ?_
    rcases triggered with e | _ | _
    · exact Alike.bind (h.count _) fun _ => .done _
    · exact .done _
    · refine Alike.bind (h.isLive k) fun live => ?_
      cases live with
      | false => exact .done _
      | true =>
        refine Alike.bind (h.dispatch k) fun delivery => ?_
        exact Alike.bind (h.count _) fun _ => .done _

lemma fanOut (handles : List Handle) (tally : Tally) :
    (s.fanOut b tally handles).Alike R (s'.fanOut b tally handles) := by
  induction handles generalizing tally with
  | nil => exact .done _
  | cons k rest ih =>
    refine Alike.bind (h.offer k) fun delivery => ?_
    cases delivery with
    | none => exact ih tally
    | some delivery => exact ih (tally.add delivery)

/-- The notification of a block does alike at counterparts. -/
lemma notify_alike : (s.notify b).Alike R (s'.notify b) := by
  refine Alike.bind (h.act Registry.beginNotify) fun answer => ?_
  cases answer with
  | error e => exact .done _
  | ok handles => exact Alike.bind (h.fanOut handles {}) fun _ => .done _

end Counterparts

end LedgerWatch.Site
