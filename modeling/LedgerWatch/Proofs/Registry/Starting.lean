import LedgerWatch.Proofs.Polling.Journal
import LedgerWatch.Proofs.Registry.Audience
import LedgerWatch.Proofs.Registry.Operation
import Mathlib.Logic.Relation

/-!
# Starting a registry

A start asks the watchers for their first criteria, in the order of their names, until one does not
give any that are valid. What each answered is kept; only if all of them answered well is the
registry opened. A site with a book writes down whom it asks and what is answered, beside the world
and without any influence on it. So it can be said who was asked, and that a start which comes after
others that failed leaves the registry as it would have been left if none had failed
(`starts_in_turn`).
-/

namespace LedgerWatch

open Relation (ReflTransGen)
open Program (Follows)

/-- A watcher was asked for its first criteria. -/
structure Asking (σ : Type) where
  watcher : σ
  settings : Settings
  answer : Except WatcherError Criteria
  /-- The state that the watcher left behind. -/
  left : σ

variable {W σ : Type}

namespace Asking

/-- It was the watcher of a registration, with its settings, that was asked. -/
structure Puts (a : Asking σ) (reg : Registration σ) : Prop where
  watcher : a.watcher = reg.watcher
  settings : a.settings = reg.settings

/-- The criteria that were given, if they are valid. -/
def given? (a : Asking σ) : Option Criteria :=
  match a.answer with
  | .error _ => none
  | .ok c => if c.Valid then some c else none

/-- What is wrong with the answer of the watcher with a name. -/
def fault? (name : String) (a : Asking σ) : Option RegistryError :=
  match a.answer with
  | .error e => some (.startFailed name e)
  | .ok c =>
    match c.validate with
    | .error e => some (.invalidCriteria name e)
    | .ok _ => none

/-- A watcher gives valid criteria, fails, or gives criteria that are not valid. -/
lemma cases_on_answer (a : Asking σ) (name : String) :
    (∃ c, a.answer = .ok c ∧ c.validate = .ok c ∧ a.given? = some c ∧ a.fault? name = none) ∨
    (∃ e, a.answer = .error e ∧ a.given? = none ∧ a.fault? name = some (.startFailed name e)) ∨
    ∃ c e, a.answer = .ok c ∧ c.validate = .error e ∧ a.given? = none ∧
      a.fault? name = some (.invalidCriteria name e) := by
  cases answer : a.answer with
  | error e => exact .inr (.inl ⟨e, rfl, by rw [given?, answer], by rw [fault?, answer]⟩)
  | ok c =>
    by_cases valid : c.Valid
    · have passes : c.validate = .ok c := Criteria.validate_eq_ok_iff.2 ⟨valid, rfl⟩
      exact .inl ⟨c, rfl, passes, by simp [given?, answer, valid], by simp [fault?, answer, passes]⟩
    · cases checked : c.validate with
      | ok d => exact absurd (Criteria.validate_eq_ok_iff.1 checked).1 valid
      | error e =>
        exact .inr (.inr ⟨c, e, rfl, checked, by simp [given?, answer, valid],
          by simp [fault?, answer, checked]⟩)

/-- Whoever gives no valid criteria is at fault. -/
lemma given?_of_fault? {a : Asking σ} {name : String} {e : RegistryError}
    (fault : a.fault? name = some e) : a.given? = none := by
  obtain ⟨c, -, -, -, none⟩ | ⟨_, -, none, -⟩ | ⟨_, _, -, -, none, -⟩ := a.cases_on_answer name
  · cases fault.symm.trans none
  · exact none
  · exact none

end Asking

/-- What becomes of a registration whose watcher was asked. -/
def Registration.asked (reg : Registration σ) (a : Asking σ) : Registration σ :=
  { reg with watcher := a.left, criteria := a.given?.getD reg.criteria, busy := false }

namespace Registry

variable [Inhabited σ] {r r' r'' : Registry σ} {h : Handle} {a : Asking σ}
  {asked : List (Handle × Asking σ)}

/-- What was answered is taken down for those who were asked, and nothing else changes. -/
structure TakesDown (r : Registry σ) (asked : List (Handle × Asking σ)) (r' : Registry σ) :
    Prop where
  get : ∀ h, r'.get h = ((asked.lookup h).map (r.get h).asked).getD (r.get h)
  next : r'.nextHandle = r.nextHandle
  phase : r'.phase = r.phase
  members : r'.members = r.members
  intents : r'.intents = r.intents

omit [Inhabited σ] in
/-- A book with one entry says nothing about other registrations. -/
lemma lookup_single_of_ne {k : Handle} (ne : k ≠ h) : [(h, a)].lookup k = none := by
  rw [List.lookup_cons, beq_false_of_ne ne]
  rfl

lemma TakesDown.nil (r : Registry σ) : r.TakesDown [] r :=
  ⟨fun _ => rfl, rfl, rfl, rfl, rfl⟩

/-- A watcher that gives no valid criteria only leaves its state behind. -/
lemma TakesDown.fault (made : h < r.nextHandle) (none : a.given? = none) :
    r.TakesDown [(h, a)] (r.told h a.left) where
  get k := by
    by_cases same : k = h
    · subst same
      rw [get_told made]
      simp [Registration.asked, none]
    · rw [(Alters.told h a.left r).others k same, lookup_single_of_ne same]
      rfl
  next := (Alters.told h a.left r).next
  phase := rfl
  members := rfl
  intents := rfl

/-- Criteria that a watcher gives are put in force. -/
lemma TakesDown.given {c : Criteria} (made : h < r.nextHandle) (some : a.given? = some c) :
    r.TakesDown [(h, a)] ((r.told h a.left).setCriteria h c) where
  get k := by
    by_cases same : k = h
    · subst same
      have made' : k < (r.told k a.left).nextHandle := by
        rw [(Alters.told k a.left r).next]
        exact made
      rw [setCriteria, get_amend_self made', get_told made]
      simp [Registration.asked, some]
    · rw [setCriteria, get_amend_of_ne same, (Alters.told h a.left r).others k same,
        lookup_single_of_ne same]
      rfl
  next := nextHandle_amend.trans (Alters.told h a.left r).next
  phase := rfl
  members := rfl
  intents := rfl

/-- Someone is asked before others, and is not among them. -/
lemma TakesDown.cons (first : r.TakesDown [(h, a)] r') (rest : r'.TakesDown asked r'')
    (fresh : h ∉ asked.map Prod.fst) : r.TakesDown ((h, a) :: asked) r'' where
  get k := by
    rw [rest.get, first.get]
    by_cases same : k = h
    · subst same
      have none : asked.lookup k = none := by
        rw [List.lookup_eq_none_iff]
        intro p mem
        have ne : k ≠ p.1 := fun e => fresh (List.mem_map.2 ⟨p, mem, e.symm⟩)
        simp [ne]
      simp [none]
    · rw [lookup_single_of_ne same, List.lookup_cons, beq_false_of_ne same]
      rfl
  next := rest.next.trans first.next
  phase := rest.phase.trans first.phase
  members := rest.members.trans first.members
  intents := rest.intents.trans first.intents

/-- Watchers are asked one after another until one does not give valid criteria. -/
inductive Asks (r : Registry σ) :
    List Handle → List (Handle × Asking σ) → Except RegistryError Unit → Prop where
  | nil :
    Asks r [] [] (.ok ())
  | fault {h : Handle} {rest : List Handle} {a : Asking σ} {e : RegistryError} :
    a.Puts (r.get h) →
    a.fault? (r.get h).name = some e →
    Asks r (h :: rest) [(h, a)] (.error e)
  | given {h : Handle} {rest : List Handle} {a : Asking σ} {c : Criteria}
      {asked : List (Handle × Asking σ)} {answer : Except RegistryError Unit} :
    a.Puts (r.get h) →
    a.given? = some c →
    Asks r rest asked answer →
    Asks r (h :: rest) ((h, a) :: asked) answer

namespace Asks

variable {handles : List Handle} {answer : Except RegistryError Unit}

/-- Those who are asked stand in front, in their order. -/
lemma front (asks : r.Asks handles asked answer) : asked.map Prod.fst <+: handles := by
  induction asks with
  | nil => exact List.nil_prefix
  | fault => simp
  | given _ _ _ ih => simpa using ih

/-- Everyone who is asked is the watcher of a registration, with its settings. -/
lemma puts (asks : r.Asks handles asked answer) : ∀ p ∈ asked, p.2.Puts (r.get p.1) := by
  induction asks with
  | nil => exact fun p mem => nomatch mem
  | fault puts _ =>
    intro p mem
    rwa [List.mem_singleton.1 mem]
  | given puts _ _ ih =>
    intro p mem
    rcases List.mem_cons.1 mem with same | mem
    · rwa [same]
    · exact ih p mem

/-- A start that comes through has asked everyone, and everyone gave valid criteria. -/
lemma all (asks : r.Asks handles asked (.ok ())) :
    asked.map Prod.fst = handles ∧ ∀ p ∈ asked, p.2.given?.isSome = true := by
  generalize e : (Except.ok () : Except RegistryError Unit) = answer at asks
  induction asks with
  | nil => exact ⟨rfl, fun p mem => nomatch mem⟩
  | fault => cases e
  | given _ some _ ih =>
    obtain ⟨same, all⟩ := ih e
    refine ⟨by rw [List.map_cons, same], fun p mem => ?_⟩
    rcases List.mem_cons.1 mem with same | mem
    · rw [same, some]
      rfl
    · exact all p mem

/-- A start that fails has asked up to the first one who did not give valid criteria. -/
lemma last {e : RegistryError} (asks : r.Asks handles asked (.error e)) :
    ∃ before h a, asked = before ++ [(h, a)] ∧ (∀ p ∈ before, p.2.given?.isSome = true) ∧
      a.given? = none ∧ a.fault? (r.get h).name = some e := by
  generalize failed : (Except.error e : Except RegistryError Unit) = answer at asks
  induction asks with
  | nil => cases failed
  | @fault h _ a e' _ fault =>
    cases failed
    refine ⟨[], h, a, rfl, fun p mem => ?_, ?_, fault⟩
    · cases mem
    · exact Asking.given?_of_fault? fault
  | @given h _ a c _ _ _ some _ ih =>
    obtain ⟨before, h', a', rfl, all, none, fault⟩ := ih failed
    refine ⟨(h, a) :: before, h', a', rfl, fun p mem => ?_, none, fault⟩
    rcases List.mem_cons.1 mem with same | mem
    · rw [same, some]
      rfl
    · exact all p mem

/-- The same watchers are asked if their registrations are the same. -/
lemma congr (asks : r'.Asks handles asked answer) (same : ∀ h ∈ handles, r'.get h = r.get h) :
    r.Asks handles asked answer := by
  induction asks with
  | nil => exact .nil
  | fault puts fault =>
    rw [same _ List.mem_cons_self] at puts fault
    exact .fault puts fault
  | given puts some _ ih =>
    rw [same _ List.mem_cons_self] at puts
    exact .given puts some (ih fun h mem => same h (List.mem_cons_of_mem _ mem))

end Asks

end Registry

namespace Site

variable [Inhabited σ] {s : Site W σ} {w : W} {h : Handle} {handles : List Handle}

/-- Watchers that are asked for their first criteria do not act on the registry. -/
def StartsApart (s : Site W σ) : Prop :=
  ∀ watcher settings w,
    s.registry.get ((s.behaviour.start watcher settings).run w).2 = s.registry.get w

/-- The site beside a book, in which it writes down whom it asks for criteria. -/
def booked (s : Site W σ) : Site (W × List (Asking σ)) σ where
  registry := Part.fst.comp s.registry
  metrics := Part.fst.comp s.metrics
  ledger := s.ledger.beside
  behaviour :=
    { start watcher settings := do
        let (answer, left) ← (s.behaviour.start watcher settings).beside
        Program.modify Part.snd (· ++ [⟨watcher, settings, answer, left⟩])
        return (answer, left)
      notify watcher block c := (s.behaviour.notify watcher block c).beside }

/-! ### The book has no influence -/

lemma registration_follows (s : Site W σ) (h : Handle) :
    (s.booked.registration h).Follows (s.registration h) :=
  fun _ _ => ⟨rfl, rfl⟩

lemma startWatcher_follows (s : Site W σ) (h : Handle) :
    (s.booked.startWatcher h).Follows (s.startWatcher h) := by
  have acquire : (s.booked.acquire h).Follows (s.acquire h) := by
    intro w j
    rw [run_acquire, run_acquire]
    exact ⟨rfl, rfl⟩
  have pause : (Program.pause : Program (W × List (Asking σ)) Unit).Follows Program.pause :=
    fun _ _ => ⟨rfl, rfl⟩
  refine Follows.bind acquire fun _ => Follows.bind pause fun _ => ?_
  refine Follows.bind (registration_follows s h) fun reg => ?_
  have ask : (s.booked.behaviour.start reg.watcher reg.settings).Follows
      (s.behaviour.start reg.watcher reg.settings) := by
    have noted := (Follows.beside (J := List (Asking σ))
      (s.behaviour.start reg.watcher reg.settings)).bind fun result =>
        (Follows.done result).note (· ++ [⟨reg.watcher, reg.settings, result.1, result.2⟩])
    rwa [Program.bind_done] at noted
  refine Follows.bind ask fun ⟨answer, left⟩ => ?_
  exact Follows.bind (.modify s.registry _) fun _ => Follows.bind pause fun _ => .done _

/-- Watchers are asked the same whether it is written down or not. -/
lemma startAll_follows (s : Site W σ) (handles : List Handle) :
    (s.booked.startAll handles).Follows (s.startAll handles) := by
  induction handles with
  | nil => exact .done _
  | cons h rest ih =>
    refine Follows.bind (registration_follows s h) fun reg => ?_
    refine Follows.bind (startWatcher_follows s h) fun answer => ?_
    cases answer with
    | error e => exact .done _
    | ok c =>
      cases checked : c.validate with
      | error e =>
        simp only [checked]
        exact .done _
      | ok c =>
        simp only [checked]
        exact Follows.bind (.modify s.registry _) fun _ => ih

/-- A site with a book starts its watchers as it does without. -/
lemma start_follows (s : Site W σ) : s.booked.start.Follows s.start := by
  have begin : (Program.act s.booked.registry Registry.beginStart).Follows
      (Program.act s.registry Registry.beginStart) := fun _ _ => ⟨rfl, rfl⟩
  refine Follows.bind begin fun answer => ?_
  cases answer with
  | error e => exact .done _
  | ok handles =>
    refine Follows.bind (startAll_follows s handles) fun answer => ?_
    cases answer with
    | error e => exact .done _
    | ok _ => exact Follows.bind (.modify s.registry _) fun _ => .done _

/-! ### Whom a start asks -/

/-- A watcher is asked with its own settings, and leaves its state behind. -/
lemma run_startWatcher (apart : s.StartsApart) (h : Handle) (w : W) (book : List (Asking σ)) :
    ∃ a v, (s.booked.startWatcher h).run (w, book) = (a.answer, v, book ++ [a]) ∧
      a.Puts ((s.registry.get w).get h) ∧
      s.registry.get v = (s.registry.get w).told h a.left := by
  let marked := s.registry.modify (Registry.setBusy h true) w
  have registry : s.registry.get marked = (s.registry.get w).setBusy h true :=
    s.registry.get_modify _ w
  let reg := (s.registry.get marked).get h
  let ended := (s.behaviour.start reg.watcher reg.settings).run marked
  -- marking the registration changes neither its watcher nor its settings
  have marks {β : Type} (field : Registration σ → β)
      (same : ∀ reg : Registration σ, field { reg with busy := true } = field reg) :
      field reg = field ((s.registry.get w).get h) := by
    simp only [reg, registry]
    exact Registry.field_get_amend field same _ h h
  refine ⟨⟨reg.watcher, reg.settings, ended.1.1, ended.1.2⟩,
    s.registry.modify (Registry.release h ended.1.2) ended.2, ?_, ⟨?_, ?_⟩, ?_⟩
  · rw [startWatcher, run_perform]
    simp only [booked, Program.bind_eq, Program.run_bind, Program.run_modify, Program.pure_eq,
      Program.run_done]
    have beside := Program.run_beside (s.behaviour.start reg.watcher reg.settings) marked book
    exact congrArg (fun ended : _ × W × List (Asking σ) => (ended.1.1,
      s.registry.modify (Registry.release h ended.1.2) ended.2.1,
      ended.2.2 ++ [⟨reg.watcher, reg.settings, ended.1.1, ended.1.2⟩])) beside
  · exact marks Registration.watcher fun _ => rfl
  · exact marks Registration.settings fun _ => rfl
  · rw [s.registry.get_modify, apart, registry]
    rfl

/-- Watchers are asked in turn, and what they answer is taken down. -/
lemma run_startAll (apart : s.StartsApart) (nodup : handles.Nodup)
    (made : ∀ h ∈ handles, h < (s.registry.get w).nextHandle) (book : List (Asking σ)) :
    ∃ asked answer v,
      (s.booked.startAll handles).run (w, book) = (answer, v, book ++ asked.map Prod.snd) ∧
      (s.registry.get w).Asks handles asked answer ∧
      (s.registry.get w).TakesDown asked (s.registry.get v) := by
  induction handles generalizing w book with
  | nil => exact ⟨[], .ok (), w, by rw [List.map_nil, List.append_nil]; rfl, .nil, .nil _⟩
  | cons h rest ih =>
    obtain ⟨fresh, nodup⟩ := List.nodup_cons.1 nodup
    have here := made h List.mem_cons_self
    obtain ⟨a, v, asks, puts, told⟩ := run_startWatcher apart h w book
    have name : (s.booked.registration h).run (w, book)
        = ((s.registry.get w).get h, w, book) := rfl
    obtain ⟨c, answer, passes, some, -⟩ | ⟨e, answer, none, fault⟩ |
      ⟨c, e, answer, checked, none, fault⟩ := a.cases_on_answer ((s.registry.get w).get h).name
    · -- the criteria are kept, and the rest is asked
      let u := s.registry.modify (Registry.setCriteria h c) v
      have takes : (s.registry.get w).TakesDown [(h, a)] (s.registry.get u) := by
        rw [Part.get_modify, told]
        exact .given here some
      have made' : ∀ k ∈ rest, k < (s.registry.get u).nextHandle := by
        intro k mem
        rw [takes.next]
        exact made k (List.mem_cons_of_mem _ mem)
      obtain ⟨asked, result, v', run, later, takes'⟩ := ih nodup made' (book ++ [a])
      have same : ∀ k ∈ rest, (s.registry.get u).get k = (s.registry.get w).get k := by
        intro k mem
        have ne : k ≠ h := fun e => fresh (e ▸ mem)
        rw [takes.get, Registry.lookup_single_of_ne ne]
        rfl
      refine ⟨(h, a) :: asked, result, v', ?_, .given puts some (later.congr same), ?_⟩
      · rw [List.append_assoc, List.singleton_append] at run
        simp only [startAll, Program.bind_eq, Program.run_bind, name, asks, answer, passes]
        exact run
      · refine takes.cons takes' fun mem => fresh ?_
        exact later.front.subset mem
    · -- nobody else is asked
      refine ⟨[(h, a)], _, v, ?_, .fault puts fault, ?_⟩
      · simp only [startAll, Program.bind_eq, Program.run_bind, name, asks, answer]
        rfl
      · rw [told]
        exact .fault here none
    · refine ⟨[(h, a)], _, v, ?_, .fault puts fault, ?_⟩
      · simp only [startAll, Program.bind_eq, Program.run_bind, name, asks, answer, checked]
        rfl
      · rw [told]
        exact .fault here none

end Site

namespace Registry

variable [Inhabited σ] {r r' f f' : Registry σ} {asked asked' : List (Handle × Asking σ)}

/-- A registry that has nothing to forget stays as it is. -/
lemma settle_of_heard (heard : r.intents = []) : r.settle = r := by
  obtain ⟨phase, registrations, members, intents⟩ := r
  cases heard
  rfl

/-- A registry that can be started, as it was reached by operations. -/
structure Startable (r : Registry σ) : Prop where
  idle : r.phase = .idle
  nodup : r.settle.members.values.Nodup
  made : ∀ h ∈ r.settle.members.values, h < r.nextHandle

/-- A sound registry that is idle can be started. -/
lemma Sound.startable (hr : r.Sound) (idle : r.phase = .idle) : r.Startable :=
  ⟨idle, hr.handles_nodup, fun _ mem => lt_of_isLive (hr.mem_handles.1 mem)⟩

/-- How a start leaves a registry: it is open only if everyone gave valid criteria. -/
inductive Started (r : Registry σ) (asked : List (Handle × Asking σ)) :
    Except RegistryError Unit → Registry σ → Prop where
  | opened {r' : Registry σ} :
    asked.map Prod.fst = r.settle.members.values →
    (∀ p ∈ asked, p.2.given?.isSome = true) →
    TakesDown { r.settle with phase := .active } asked r' →
    Started r asked (.ok ()) r'
  | failed {before : List (Handle × Asking σ)} {h : Handle} {a : Asking σ} {e : RegistryError}
      {r' : Registry σ} :
    asked = before ++ [(h, a)] →
    (∀ p ∈ before, p.2.given?.isSome = true) →
    a.given? = none →
    a.fault? (r.get h).name = some e →
    TakesDown r.settle asked r' →
    Started r asked (.error e) r'

end Registry

namespace Site

variable [Inhabited σ] {s : Site W σ} {w : W}

/-- A start of an idle registry asks its watchers in turn and then opens it, or fails. -/
lemma run_start (apart : s.StartsApart) (ready : (s.registry.get w).Startable)
    (book : List (Asking σ)) :
    ∃ asked answer v, s.booked.start.run (w, book) = (answer, v, book ++ asked.map Prod.snd) ∧
      asked.map Prod.fst <+: (s.registry.get w).settle.members.values ∧
      (∀ p ∈ asked, p.2.Puts ((s.registry.get w).get p.1)) ∧
      (s.registry.get w).Started asked answer (s.registry.get v) := by
  let r := s.registry.get w
  let u := s.registry.set r.settle w
  have registry : s.registry.get u = r.settle := s.registry.get_set _ w
  have begun : (Program.act s.booked.registry Registry.beginStart).run (w, book)
      = (.ok r.settle.members.values, u, book) := by
    have handles := r.beginStart_fst
    rw [ready.idle] at handles
    exact Prod.ext handles (congrArg (fun r => (s.registry.set r w, book)) r.beginStart_snd)
  have made : ∀ h ∈ r.settle.members.values, h < (s.registry.get u).nextHandle := by
    rw [registry, Registry.settle_nextHandle]
    exact ready.made
  obtain ⟨asked, answer, v, run, asks, takes⟩ := run_startAll apart ready.nodup made book
  change (s.booked.startAll r.settle.members.values).run _ = _ at run
  rw [registry] at asks takes
  have asks : r.Asks r.settle.members.values asked answer :=
    asks.congr fun h _ => Registry.settle_get
  cases answer with
  | error e =>
    obtain ⟨before, h, a, split, given, none, fault⟩ := asks.last
    refine ⟨asked, .error e, v, ?_, asks.front, asks.puts, .failed split given none fault takes⟩
    simp only [start, Program.bind_eq, Program.run_bind, begun, run]
    rfl
  | ok _ =>
    obtain ⟨same, given⟩ := asks.all
    refine ⟨asked, .ok (), s.registry.modify Registry.finishStart v, ?_, asks.front, asks.puts,
      .opened same given ?_⟩
    · simp only [start, Program.bind_eq, Program.run_bind, begun, run]
      rfl
    · -- nothing was to be forgotten when the registry was opened
      have settled : (s.registry.get v).settle = s.registry.get v :=
        Registry.settle_of_heard takes.intents
      rw [Part.get_modify, Registry.finishStart, settled]
      exact ⟨takes.get, takes.next, rfl, takes.members, takes.intents⟩

end Site

/-! ### Trying again -/

namespace Registry

variable [Inhabited σ] {r r' r'' f f' : Registry σ} {asked asked' : List (Handle × Asking σ)}

/-- The registry, with nothing said of the states of its watchers. -/
def unmanned (r : Registry σ) : Registry σ :=
  { r with registrations := r.registrations.map fun reg => { reg with watcher := default } }

/-- Without its watcher a registration keeps everything else. -/
lemma get_unmanned (h : Handle) : r.unmanned.get h = { r.get h with watcher := default } := by
  rw [get, get, unmanned, List.getD_eq_getElem?_getD, List.getD_eq_getElem?_getD,
    List.getElem?_map]
  cases r.registrations[h]? <;> rfl

/-- There are as many registrations without their watchers. -/
lemma nextHandle_unmanned : r.unmanned.nextHandle = r.nextHandle :=
  List.length_map _

/-- A registry is what it says of itself and of each handle. -/
lemma eq_of_get (phase : r'.phase = r.phase) (members : r'.members = r.members)
    (intents : r'.intents = r.intents) (next : r'.nextHandle = r.nextHandle)
    (get : ∀ h, r'.get h = r.get h) : r' = r := by
  have registrations : r'.registrations = r.registrations := by
    refine List.ext_getElem next fun h made made' => ?_
    have same := get h
    rwa [Registry.get, Registry.get, List.getD_eq_getElem?_getD, List.getD_eq_getElem?_getD,
      List.getElem?_eq_getElem made, List.getElem?_eq_getElem made'] at same
  obtain ⟨_, _, _, _⟩ := r
  obtain ⟨_, _, _, _⟩ := r'
  cases phase
  cases members
  cases intents
  cases registrations
  rfl

/-- A registry still waits to be opened: at most the answers of watchers were taken down. -/
structure Waits (r r' : Registry σ) : Prop where
  idle : r'.phase = .idle
  next : r'.nextHandle = r.nextHandle
  members : r'.settle.members = r.settle.members
  others : ∀ h, h ∉ r.settle.members.values → r'.get h = r.get h
  name : ∀ h, (r'.get h).name = (r.get h).name
  settings : ∀ h, (r'.get h).settings = (r.get h).settings
  status : ∀ h, (r'.get h).status = (r.get h).status

/-- A registry that can be started waits to be opened. -/
lemma Startable.waits (ready : r.Startable) : r.Waits r :=
  ⟨ready.idle, rfl, rfl, fun _ _ => rfl, fun _ => rfl, fun _ => rfl, fun _ => rfl⟩

/-- A registry that waits to be opened can be started. -/
lemma Waits.startable (waits : r.Waits r') (ready : r.Startable) : r'.Startable where
  idle := waits.idle
  nodup := waits.members ▸ ready.nodup
  made h mem := by
    rw [waits.members] at mem
    rw [waits.next]
    exact ready.made h mem

/-- Nothing is taken down for those who were not asked. -/
lemma TakesDown.others {h : Handle} (takes : r.TakesDown asked r')
    (absent : h ∉ asked.map Prod.fst) : r'.get h = r.get h := by
  have none : asked.lookup h = none := by
    rw [List.lookup_eq_none_iff]
    intro p mem
    have ne : h ≠ p.1 := fun e => absent (List.mem_map.2 ⟨p, mem, e.symm⟩)
    exact bne_iff_ne.2 ne
  rw [takes.get, none]
  rfl

/-- What an answer does not change in a registration stays. -/
lemma TakesDown.field {β : Type} (field : Registration σ → β)
    (same : ∀ reg a, field (reg.asked a) = field reg) (takes : r.TakesDown asked r') (h : Handle) :
    field (r'.get h) = field (r.get h) := by
  rw [takes.get]
  cases asked.lookup h with
  | none => rfl
  | some a => exact same _ a

/-- After a start that failed a registry still waits. -/
lemma Waits.failed {e : RegistryError} (waits : r.Waits r')
    (front : asked.map Prod.fst <+: r'.settle.members.values)
    (started : r'.Started asked (.error e) r'') : r.Waits r'' := by
  rw [waits.members] at front
  cases started with
  | failed _ _ _ _ takes =>
    have settled : r''.settle = r'' := settle_of_heard takes.intents
    refine ⟨takes.phase.trans (settle_phase.trans waits.idle), ?_, ?_, fun h absent => ?_,
      fun h => ?_, fun h => ?_, fun h => ?_⟩
    · exact takes.next.trans (settle_nextHandle.trans waits.next)
    · rw [settled, takes.members, waits.members]
    · rw [takes.others fun mem => absent (front.subset mem), settle_get, waits.others h absent]
    · rw [takes.field Registration.name (fun _ _ => rfl), settle_get, waits.name]
    · rw [takes.field Registration.settings (fun _ _ => rfl), settle_get, waits.settings]
    · rw [takes.field Registration.status (fun _ _ => rfl), settle_get, waits.status]

omit [Inhabited σ] in
/-- Whoever was asked is found in the book. -/
lemma exists_lookup {h : Handle} (mem : h ∈ asked.map Prod.fst) :
    ∃ a, asked.lookup h = some a ∧ (h, a) ∈ asked := by
  cases found : asked.lookup h with
  | none =>
    obtain ⟨p, there, same⟩ := List.mem_map.1 mem
    exact absurd same.symm (bne_iff_ne.1 (List.lookup_eq_none_iff.1 found p there))
  | some a =>
    obtain ⟨before, after, whole, -⟩ := List.lookup_eq_some_iff.1 found
    refine ⟨a, rfl, ?_⟩
    rw [whole]
    exact List.mem_append_right _ List.mem_cons_self

omit [Inhabited σ] in
/-- If the same criteria were given, the same are found for each registration. -/
lemma lookup_given (keys : asked'.map Prod.fst = asked.map Prod.fst)
    (given : asked'.map (fun p => p.2.given?) = asked.map fun p => p.2.given?) (h : Handle) :
    (asked'.lookup h).map Asking.given? = (asked.lookup h).map Asking.given? := by
  induction asked generalizing asked' with
  | nil =>
    obtain rfl := List.map_eq_nil_iff.1 keys
    rfl
  | cons p asked ih =>
    cases asked' with
    | nil => cases keys
    | cons p' asked' =>
      obtain ⟨key, keys⟩ := List.cons.inj keys
      obtain ⟨first, given⟩ := List.cons.inj given
      rw [List.lookup_cons, List.lookup_cons, key]
      cases h == p.1 with
      | true => exact congrArg some first
      | false => exact ih keys given

/--
Two starts that open a registry, each after any others that failed, leave it in the same state if
the same criteria were given.
-/
lemma Waits.opened_alike {r₁ r₂ : Registry σ} (waits₁ : r.Waits r₁) (waits₂ : r.Waits r₂)
    (started₁ : r₁.Started asked (.ok ()) f) (started₂ : r₂.Started asked' (.ok ()) f')
    (given : asked'.map (fun p => p.2.given?) = asked.map fun p => p.2.given?) :
    f'.unmanned = f.unmanned := by
  cases started₁ with
  | opened keys₁ good takes₁ =>
    cases started₂ with
    | opened keys₂ _ takes₂ =>
      rw [waits₁.members] at keys₁
      rw [waits₂.members] at keys₂
      have lookup := lookup_given (keys₂.trans keys₁.symm) given
      have before₁ h : Registry.get { r₁.settle with phase := .active } h = r₁.get h := settle_get
      have before₂ h : Registry.get { r₂.settle with phase := .active } h = r₂.get h := settle_get
      refine eq_of_get (takes₂.phase.trans takes₁.phase.symm) ?_ ?_ ?_ fun h => ?_
      · exact takes₂.members.trans
          (waits₂.members.trans (waits₁.members.symm.trans takes₁.members.symm))
      · exact takes₂.intents.trans takes₁.intents.symm
      · rw [nextHandle_unmanned, nextHandle_unmanned, takes₁.next, takes₂.next]
        exact settle_nextHandle.trans
          (waits₂.next.trans (waits₁.next.symm.trans settle_nextHandle.symm))
      · rw [get_unmanned, get_unmanned]
        by_cases mem : h ∈ r.settle.members.values
        · -- only the criteria that were given last are left of what was answered
          rw [← keys₁] at mem
          obtain ⟨a, found, there⟩ := exists_lookup mem
          obtain ⟨c, gave⟩ : ∃ c, a.given? = some c := Option.isSome_iff_exists.1 (good _ there)
          have same := lookup h
          rw [found, Option.map_some, gave] at same
          obtain ⟨a', found', gave'⟩ := Option.map_eq_some_iff.1 same
          rw [takes₁.get, takes₂.get, found, found', before₁, before₂]
          simp only [Option.map_some, Option.getD_some, Registration.asked, gave, gave',
            waits₁.name, waits₁.settings, waits₁.status, waits₂.name, waits₂.settings,
            waits₂.status]
        · rw [takes₁.others (keys₁ ▸ mem), takes₂.others (keys₂ ▸ mem), before₁, before₂,
            waits₁.others h mem, waits₂.others h mem]

end Registry

namespace Site

variable [Inhabited σ] {s : Site W σ} {w u : W}

/-- A start fails, or something happens that does not concern the registry. -/
inductive Retries (s : Site W σ) : W → W → Prop where
  | failed {w v : W} {e : RegistryError} :
    s.start.run w = (.error e, v) →
    Retries s w v
  | aside {w v : W} :
    s.registry.get v = s.registry.get w →
    Retries s w v

/-- Whom a start asks, one after another, and what is answered. -/
def asks (s : Site W σ) (w : W) : List (Asking σ) :=
  (s.booked.start.run (w, [])).2.2

/-- What a start comes to, and what stands in the book. -/
lemma start_spec (apart : s.StartsApart) (ready : (s.registry.get w).Startable) :
    ∃ asked answer v, s.start.run w = (answer, v) ∧ s.asks w = asked.map Prod.snd ∧
      asked.map Prod.fst <+: (s.registry.get w).settle.members.values ∧
      (∀ p ∈ asked, p.2.Puts ((s.registry.get w).get p.1)) ∧
      (s.registry.get w).Started asked answer (s.registry.get v) := by
  obtain ⟨asked, answer, v, run, front, puts, started⟩ := run_start apart ready []
  obtain ⟨same, same'⟩ := start_follows s w []
  rw [run] at same same'
  exact ⟨asked, answer, v, Prod.ext same.symm same'.symm, congrArg (fun end' => end'.2.2) run, front,
    puts, started⟩

/-- However often a start fails, the registry still waits to be opened. -/
lemma Retries.waits (apart : s.StartsApart) (ready : (s.registry.get w).Startable)
    (steps : ReflTransGen s.Retries w u) : (s.registry.get w).Waits (s.registry.get u) := by
  induction steps with
  | refl => exact ready.waits
  | tail _ step ih =>
    cases step with
    | aside same => rwa [same]
    | failed failed =>
      obtain ⟨asked, answer, v, run, -, front, -, started⟩ := start_spec apart (ih.startable ready)
      cases failed.symm.trans run
      exact ih.failed front started

end Site

/--
A start of an idle registry asks the active watchers in the order of their names, each with its own
settings and at most once, and stops at the first that fails or gives invalid criteria. If all give
valid criteria the registry is opened and each registration has just what its watcher gave.
Otherwise the first who did not is named, the registry stays idle with the same registrations, those
asked before have what their watchers gave, and all others have the criteria that they had. A start
that opens the registry after any others that failed leaves it as a first one would have, if the
same criteria are given.
-/
theorem starts_in_turn [Inhabited σ] {s : Site W σ} {w : W} {deeds : List (Registry.Deed σ)}
    (apart : s.StartsApart) (reached : Registry.Course {} deeds (s.registry.get w))
    (idle : (s.registry.get w).phase = .idle) :
    let r := s.registry.get w
    (r.settle.members.values.Pairwise fun h k => (r.get h).name < (r.get k).name) ∧
    (∀ h, h ∈ r.settle.members.values ↔ r.isLive h = true) ∧
    (∃ asked answer v, s.start.run w = (answer, v) ∧ s.asks w = asked.map Prod.snd ∧
      asked.map Prod.fst <+: r.settle.members.values ∧ (∀ p ∈ asked, p.2.Puts (r.get p.1)) ∧
      r.Started asked answer (s.registry.get v)) ∧
    ∀ u first v v', ReflTransGen s.Retries w u → s.registry.get first = r →
      s.start.run u = (.ok (), v) → s.start.run first = (.ok (), v') →
      (s.asks u).map Asking.given? = (s.asks first).map Asking.given? →
      (s.registry.get v).unmanned = (s.registry.get v').unmanned := by
  intro r
  have sound : r.Sound := Registry.Sound.empty.course reached
  have ready : r.Startable := sound.startable idle
  refine ⟨sound.handles_ascending, fun h => sound.mem_handles,
    Site.start_spec apart ready, ?_⟩
  intro u first v v' retried begun again once given
  have waits : r.Waits (s.registry.get u) := Site.Retries.waits apart ready retried
  have fresh : r.Waits (s.registry.get first) := by
    rw [begun]
    exact ready.waits
  obtain ⟨asked, _, _, run, book, -, -, started⟩ := Site.start_spec apart (waits.startable ready)
  obtain ⟨asked', _, _, run', book', -, -, started'⟩ :=
    Site.start_spec apart (fresh.startable ready)
  cases again.symm.trans run
  cases once.symm.trans run'
  rw [book, book', List.map_map, List.map_map] at given
  exact fresh.opened_alike waits started' started given

/-- A registry of watchers, of whom those that mind do not start while it rains. -/
structure Terrace where
  registry : Registry Bool := {}
  metrics : Metrics := {}
  rains : Bool := false

namespace Terrace

def registryPart : Part Terrace (Registry Bool) :=
  ⟨registry, fun registry t => { t with registry }, fun _ _ => rfl⟩

def metricsPart : Part Terrace Metrics :=
  ⟨metrics, fun metrics t => { t with metrics }, fun _ _ => rfl⟩

def site : Site Terrace Bool where
  registry := registryPart
  metrics := metricsPart
  ledger :=
    { latest := return .ok .root
      blocksAfter _ := return .ok []
      block? _ := return .ok none
      transaction? _ := return .ok none
      blockOf? _ := return .ok none
      head? _ := return .ok none
      previous? _ := return .ok none }
  behaviour :=
    { start minds _ := .step id fun t =>
        .done (if minds && t.rains then .error (.failed "wet") else .ok (.after (.ofNat 7)), minds)
      notify minds block _ := return (.ok (some (.after block)), minds) }

/-- Watchers on the terrace leave the registry alone when they start. -/
lemma starts_apart : site.StartsApart :=
  fun _ _ _ => rfl

/-- Three watchers, of whom the second minds the rain. -/
def seated : Registry Bool :=
  (((({} : Registry Bool).register "a" false .empty).2.register "b" true .empty).2.register
    "c" false .empty).2

/-- The registry of the terrace is reached by registrations. -/
lemma seated_reached : ∃ deeds, Registry.Course {} deeds seated :=
  ⟨[⟨_, .register "a" false .empty⟩, ⟨_, .register "b" true .empty⟩,
    ⟨_, .register "c" false .empty⟩], .cons (.cons (.cons .nil))⟩

def wet : Terrace :=
  { registry := seated, rains := true }

def dry : Terrace :=
  { wet with rains := false }

/-- The rain has stopped after a start that failed. -/
def dried : Terrace :=
  { (site.start.run wet).2 with rains := false }

/--
While it rains the second watcher does not start, and the third is not asked. Once the rain has
stopped a start leaves the registry as if it had never rained.
-/
theorem starts_in_turn_on_terrace :
    (site.start.run wet).1 = .error (.startFailed "b" (.failed "wet")) ∧
    (site.asks wet).map (·.watcher) = [false, true] ∧
    (site.start.run dried).1 = .ok () ∧
    (site.start.run dried).2.registry.unmanned = (site.start.run dry).2.registry.unmanned := by
  obtain ⟨deeds, reached⟩ := seated_reached
  obtain ⟨-, -, -, again⟩ := starts_in_turn (s := site) (w := wet) starts_apart reached rfl
  refine ⟨rfl, rfl, rfl, ?_⟩
  have retried : ReflTransGen site.Retries wet dried :=
    .head (.failed (v := (site.start.run wet).2) rfl) (.single (.aside rfl))
  exact again dried dry _ _ retried rfl rfl rfl rfl

end Terrace

end LedgerWatch
