import LedgerWatch.Proofs.Registry.Readiness

/-!
# What becomes of a cancelled registration

A registration is cancelled by its handle, by its name, with the whole registry or by its watcher's
reply, and at any time: also while a notification is under way, by a watcher that is being told or
by the ledger that is being asked. From then on it is cancelled, and its watcher is told nothing any
more. A watcher that was just being told goes on to its reply, and is counted by it.
-/

namespace LedgerWatch

open Registry (Operation)

variable {W σ α : Type} [Inhabited σ]

namespace Registry

variable {r r' : Registry σ} {h : Handle}

lemma isLive_eq_false_iff : r.isLive h = false ↔ (r.get h).status = .cancelled := by
  cases status : (r.get h).status <;> simp [isLive, status]

lemma Later.cancelled (l : r.Later r') (made : h < r.nextHandle)
    (cancelled : (r.get h).status = .cancelled) : (r'.get h).status = .cancelled := by
  rw [← isLive_eq_false_iff] at cancelled ⊢
  by_contra live
  rw [l.live h made (by simpa using live)] at cancelled
  cases cancelled

end Registry

/-- From one world to a later one, what was cancelled stays cancelled and is told nothing. -/
lemma Lodge.Leads.cancelled {l : Lodge W σ} {w v : W} (leads : l.Leads w v) (h : Handle)
    (made : h < (l.registry.get w).nextHandle)
    (cancelled : ((l.registry.get w).get h).status = .cancelled) :
    ((l.registry.get v).get h).status = .cancelled ∧
      ∃ new, l.diary.get v = l.diary.get w ++ new ∧ ∀ block c, .told h block c ∉ new := by
  obtain ⟨new, diary, told, -⟩ := leads.adds
  have dead := Registry.isLive_eq_false_iff.2 cancelled
  exact ⟨leads.later.cancelled made cancelled, new, diary, told h made dead⟩

/--
Whatever acts at a lodge: between any world of its run and any later one, whoever was cancelled
stays cancelled and is told about no block. At every moment a notification comes to the replies of
the watchers that it tells itself, each of which goes on to its reply whatever becomes of it
meanwhile.
-/
theorem cancelled_for_good {l : Lodge W σ} {p : Program W α} (acts : l.Acts p) {w : W}
    (fresh : l.registry.get w = {}) (blank : l.diary.get w = []) :
    (p.visited w).Pairwise (fun v v' => ∀ h, h < (l.registry.get v).nextHandle →
      ((l.registry.get v).get h).status = .cancelled →
        ((l.registry.get v').get h).status = .cancelled ∧
        ∃ new, l.diary.get v' = l.diary.get v ++ new ∧ ∀ block c, .told h block c ∉ new) ∧
    ∀ v ∈ p.visited w, ∀ (metrics : Part W Metrics) (ledger : LedgerReads W)
      (conduct : Handle → Behaviour W σ) (b : Block), l.Aside metrics →
      (∀ id, l.Operates (ledger.transaction? id)) →
      (∀ h x block c, l.Acts ((conduct h).notify x block c)) →
      ∀ tally u, ((l.site metrics ledger conduct).notify b).run v = (.ok tally, u) →
        ∃ new, l.diary.get u = l.diary.get v ++ new ∧ Diary.Balanced new ∧
          tally = .ofReplies (Diary.outerReplies 0 new) := by
  have order := Lodge.InOrder.fresh fresh blank
  have runs := acts.runs order
  refine ⟨runs.pairwise.imp fun leads h => leads.cancelled h, ?_⟩
  intro v hv metrics ledger conduct b aside operates notify tally u run
  have o := (runs.leads hv).order order
  have notified := Lodge.runs_notify .nil (fun _ _ => .append) aside
    (fun id w o => (operates id).runs o) (fun h x block c w o => (notify h x block c).runs o) o b
  obtain ⟨replies, ⟨new, fan, diary⟩, counted⟩ := notified.run
  rw [run] at diary counted
  refine ⟨new, diary, (fan.imp fun _ => Diary.Quiet.balanced).balanced, ?_⟩
  rw [fan.outerReplies]
  exact counted tally rfl

namespace Lobby

/-- The first watcher cancels itself and the second one while it is being told about a block. -/
def mutineer : Handle → Program Lobby Unit
  | 0 => do
    lodge.carry fun _ => .cancel 0
    lodge.carry fun _ => .cancel 1
  | _ => return ()

lemma mutineer_operates (h : Handle) : lodge.Operates (mutineer h) := by
  cases h with
  | zero =>
    have cancel (k : Handle) : lodge.Operates (lodge.carry fun _ => .cancel k) :=
      Lodge.carry_operates fun _ => trivial
    exact (cancel 0).bind fun _ => cancel 1
  | succ h => exact .done ()

def ship : Site Lobby (Badged Unit) :=
  site (fun _ => return ()) mutineer

/-- The worlds in which two watchers are registered, started and notified, the first a mutineer. -/
def mutiny : List Lobby :=
  (season (fun _ => return ()) mutineer ["a", "b"]).visited {}

/-- The mutineer has just cancelled both watchers, and has not replied yet. -/
def struck : Lobby :=
  mutiny.getD 31 {}

/-- The notification has ended. -/
def quelled : Lobby :=
  mutiny.getD 36 {}

/-- Both watchers have been started, and nobody has been notified yet. -/
def embarked : Lobby :=
  mutiny.getD 20 {}

lemma embarked_mem : embarked ∈ mutiny :=
  List.mem_of_getElem? (i := 20) rfl

end Lobby

/--
The mutineer, which cancelled itself too, is counted by its reply, which asks for more. The second
watcher, whose turn was still to come, is told nothing.
-/
theorem cancelled_for_good_at_lobby :
    (∀ h < 2, (Lobby.struck.registry.get h).status = .cancelled ∧
      (Lobby.quelled.registry.get h).status = .cancelled ∧
      ∃ new, Lobby.quelled.diary = Lobby.struck.diary ++ new ∧ ∀ block c, .told h block c ∉ new) ∧
    Lobby.struck.diary.length < Lobby.quelled.diary.length ∧
    ∃ new, ((Lobby.ship.notify Lobby.emptyBlock).run Lobby.embarked).2.diary
        = Lobby.embarked.diary ++ new ∧
      ({ triggered := 1, rearmed := 1 } : Tally) = .ofReplies (Diary.outerReplies 0 new) := by
  have acts : Lobby.lodge.Acts (Lobby.season (fun _ => return ()) Lobby.mutineer ["a", "b"]) :=
    Lobby.season_acts (fun _ => .done ()) Lobby.mutineer_operates ["a", "b"]
  obtain ⟨pairwise, notified⟩ := cancelled_for_good acts (w := {}) rfl rfl
  refine ⟨fun h lt => ?_, by decide, ?_⟩
  · have cancelled : ∀ h < 2, (Lobby.struck.registry.get h).status = .cancelled := by decide
    have later := List.pairwise_iff_getElem.1 pairwise 31 36 (by decide) (by decide) (by decide)
    exact ⟨cancelled h lt, later h lt (cancelled h lt)⟩
  · have answer : ((Lobby.ship.notify Lobby.emptyBlock).run Lobby.embarked).1
        = .ok { triggered := 1, rearmed := 1 } := rfl
    obtain ⟨new, diary, -, counted⟩ := notified _ Lobby.embarked_mem Lobby.metricsPart
      (.ofPart Lobby.ledgerPart) _ Lobby.emptyBlock Lobby.metrics_aside Lobby.ledger_operates
      (Lobby.notify_acts Lobby.mutineer_operates) _ _ (Prod.ext answer rfl)
    exact ⟨new, diary, counted⟩

end LedgerWatch
