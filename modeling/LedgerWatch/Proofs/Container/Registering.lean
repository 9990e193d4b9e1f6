import LedgerWatch.Container.Basic
import LedgerWatch.Proofs.Container.Starting
import LedgerWatch.Proofs.Registry.Keeping

/-!
# Registering what properties name

The names of watchers stand in one flat table with their settings and with whatever else there is.
They are found there in their order, each is configured by its own properties alone, and they are
registered one after another until one fails.
-/

namespace LedgerWatch

namespace Catalog

variable {σ : Type} {properties other : Properties} {name property : String}

/-- A name that a property can give: letters, digits, underscores and hyphens. -/
structure Proper (name : String) : Prop where
  ne : name ≠ ""
  chars : ∀ c ∈ name.toList, ('A' ≤ c ∧ c ≤ 'Z') ∨ ('a' ≤ c ∧ c ≤ 'z') ∨ ('0' ≤ c ∧ c ≤ '9') ∨
    c = '_' ∨ c = '-'

/-- A name is made of letters, digits, underscores and hyphens. -/
lemma isNameChar_iff {c : Char} : isNameChar c = true ↔ ('A' ≤ c ∧ c ≤ 'Z') ∨
    ('a' ≤ c ∧ c ≤ 'z') ∨ ('0' ≤ c ∧ c ≤ '9') ∨ c = '_' ∨ c = '-' := by
  delta isNameChar Char.isAlphanum Char.isAlpha Char.isUpper Char.isLower Char.isDigit
  simp only [Bool.or_eq_true, Bool.and_eq_true, decide_eq_true_eq, Char.le_def, or_assoc]

/-- The names that are found are those of the properties of that form. -/
lemma watcherName?_eq_some_iff :
    watcherName? property = some name ↔ property = kindProperty name ∧ Proper name := by
  have marked {cs : List Char} (whole : "sentinel.".toList ++ cs = property.toList) :
      property = kindProperty (String.ofList cs) := by
    rw [← String.ofList_toList (s := property), ← whole, String.ofList_append, String.ofList_toList]
    rfl
  simp only [watcherName?]
  constructor
  case mp =>
    intro h
    split at h
    case isTrue mark =>
      split at h
      case isTrue good =>
        obtain rfl := Option.some.inj h
        obtain ⟨some', all⟩ := Bool.and_eq_true_iff.1 good
        obtain ⟨cs, whole⟩ := List.isPrefixOf_iff_prefix.1 mark
        rw [← whole, List.drop_left] at some' all ⊢
        refine ⟨marked whole, fun none => ?_, fun c mem => ?_⟩
        · rw [String.ofList_eq_empty_iff.1 none] at some'
          cases some'
        · rw [String.toList_ofList] at mem
          exact isNameChar_iff.1 (List.all_eq_true.1 all c mem)
      case isFalse => cases h
    case isFalse => cases h
  case mpr =>
    rintro ⟨rfl, ne, chars⟩
    have whole : (kindProperty name).toList = "sentinel.".toList ++ name.toList :=
      String.toList_append
    have mark : "sentinel.".toList.isPrefixOf (kindProperty name).toList = true :=
      List.isPrefixOf_iff_prefix.2 ⟨name.toList, whole.symm⟩
    have some' : name.toList.isEmpty = false :=
      List.isEmpty_eq_false_iff.2 (mt String.toList_eq_nil_iff.1 ne)
    have all : name.toList.all isNameChar = true :=
      List.all_eq_true.2 fun c mem => isNameChar_iff.2 (chars c mem)
    rw [if_pos mark, whole, List.drop_left, some', all, String.ofList_toList]
    rfl

/-- The names that are found are the proper ones with a property. -/
lemma mem_watcherNames :
    name ∈ watcherNames properties ↔
      properties.contains (kindProperty name) = true ∧ Proper name := by
  have key {property : String} :
      property ∈ properties.keys ↔ properties.contains property = true := by
    rw [Table.contains, Option.isSome_iff_exists, Table.keys, List.mem_map]
    constructor
    · rintro ⟨⟨_, value⟩, mem, rfl⟩
      exact ⟨value, properties.get?_eq_some_iff.2 mem⟩
    · rintro ⟨value, found⟩
      exact ⟨(property, value), properties.get?_eq_some_iff.1 found, rfl⟩
  rw [watcherNames, List.mem_filterMap]
  constructor
  · rintro ⟨property, mem, found⟩
    obtain ⟨rfl, proper⟩ := watcherName?_eq_some_iff.1 found
    exact ⟨key.1 mem, proper⟩
  · rintro ⟨there, proper⟩
    exact ⟨_, key.2 there, watcherName?_eq_some_iff.2 ⟨rfl, proper⟩⟩

/-- Names are in the order of their properties. -/
lemma lt_of_kindProperty_lt {a b : String} (h : kindProperty a < kindProperty b) : a < b := by
  have strip (mark : List Char) {xs ys : List Char} (lt : mark ++ xs < mark ++ ys) : xs < ys := by
    induction mark with
    | nil => exact lt
    | cons c mark ih => exact ih (List.cons_lt_cons_self.1 lt)
  rw [String.lt_iff, kindProperty, kindProperty, String.toList_append, String.toList_append] at h
  exact String.lt_iff.2 (strip _ h)

/-- The names are found in ascending order. -/
lemma watcherNames_ascending (properties : Properties) :
    (watcherNames properties).Pairwise (· < ·) := by
  have keys : properties.keys.Pairwise (· < ·) := List.pairwise_map.2 properties.ascending
  refine keys.filterMap watcherName? fun p q lt a ha b hb => ?_
  obtain ⟨rfl, -⟩ := watcherName?_eq_some_iff.1 ha
  obtain ⟨rfl, -⟩ := watcherName?_eq_some_iff.1 hb
  exact lt_of_kindProperty_lt lt

/-- The properties of the watcher with a name: the one that names its kind, and its settings. -/
def Concerns (name key : String) : Prop :=
  key = kindProperty name ∨ ∃ setting, key = Schema.propertyName name setting

/-- Two tables have the same properties of the watcher with a name. -/
def Agree (name : String) (properties other : Properties) : Prop :=
  ∀ key, Concerns name key → other.get? key = properties.get? key

/-- Settings are resolved by the properties of the watcher alone. -/
lemma Agree.resolveFrom (h : Agree name properties other) (entries : List SchemaEntry)
    (settings : Settings) :
    Schema.resolveFrom name other settings entries
      = Schema.resolveFrom name properties settings entries := by
  induction entries generalizing settings with
  | nil => rfl
  | cons e rest ih =>
    have same : Schema.resolveEntry name other e = Schema.resolveEntry name properties e := by
      rw [Schema.resolveEntry, Schema.resolveEntry, h _ (.inr ⟨e.key, rfl⟩)]
    rw [Schema.resolveFrom, Schema.resolveFrom, same]
    cases Schema.resolveEntry name properties e with
    | error e => rfl
    | ok value => exact ih _

/-- A watcher is configured by its own properties alone. -/
lemma Agree.configure (h : Agree name properties other) (catalog : Catalog σ) :
    catalog.configure name other = catalog.configure name properties := by
  have kind : catalog.kindOf name other = catalog.kindOf name properties := by
    rw [kindOf, kindOf, h _ (.inl rfl)]
  have resolve (schema : Schema) : schema.resolve name other = schema.resolve name properties :=
    h.resolveFrom _ _
  simp only [Catalog.configure, kind, resolve]

end Catalog

namespace Registry

variable {σ : Type} [Inhabited σ] {r s t : Registry σ} {new more : List (Registration σ)}
  {handles further : List Handle}

/-- A registry gains registrations, each under its name, and keeps what it has. -/
structure Gains (r : Registry σ) (new : List (Registration σ)) (handles : List Handle)
    (s : Registry σ) : Prop where
  phase : s.phase = r.phase
  registrations : s.registrations = r.registrations ++ new
  numbers : handles = List.range' r.nextHandle new.length
  found : ∀ name h, s.find? name = some h ↔
    r.find? name = some h ∨ (name, h) ∈ (new.map (·.name)).zip handles
  free : ∀ reg ∈ new, r.find? reg.name = none

/-- Nothing is left to forget once everything was forgotten. -/
lemma settle_settle (r : Registry σ) : r.settle.settle = r.settle :=
  rfl

lemma Gains.settle (r : Registry σ) : r.Gains [] [] r.settle where
  phase := settle_phase
  registrations := by simp
  numbers := rfl
  found name h := by simp [find?, settle_settle]
  free _ mem := by cases mem

lemma Gains.refl (r : Registry σ) : r.Gains [] [] r where
  phase := rfl
  registrations := by simp
  numbers := rfl
  found name h := by simp
  free _ mem := by cases mem

/-- What is gained in two parts is gained. -/
lemma Gains.trans (first : r.Gains new handles s) (second : s.Gains more further t) :
    r.Gains (new ++ more) (handles ++ further) t where
  phase := second.phase.trans first.phase
  registrations := by
    rw [second.registrations, first.registrations, List.append_assoc]
  numbers := by
    have next : s.nextHandle = r.nextHandle + new.length := by
      rw [nextHandle, first.registrations, List.length_append]
      rfl
    rw [second.numbers, first.numbers, next, List.length_append, List.range'_append_1]
  found name h := by
    have same : (new.map (·.name)).length = handles.length := by
      rw [first.numbers, List.length_range', List.length_map]
    rw [second.found, first.found, List.map_append, List.zip_append same, List.mem_append, or_assoc]
  free reg mem := by
    rcases List.mem_append.1 mem with mem | mem
    · exact first.free reg mem
    · rw [Option.eq_none_iff_forall_ne_some]
      intro h found
      have kept := (first.found reg.name h).2 (.inl found)
      rw [second.free reg mem] at kept
      cases kept

/-- A registration that is made is the only one gained. -/
lemma Gains.add {reg : Registration σ} (free : r.settle.members.get? reg.name = none)
    (made : reg = ⟨reg.name, reg.settings, reg.watcher, .active, .after .root, false⟩) :
    r.Gains [reg] [r.nextHandle] (r.settle.add reg.name reg.watcher reg.settings) where
  phase := settle_phase
  registrations := by
    rw [Registry.add, ← made, settle_registrations]
  numbers := rfl
  found name h := by
    have kept : (r.settle.add reg.name reg.watcher reg.settings).find? name
        = if name = reg.name then some r.settle.nextHandle else r.find? name :=
      r.settle.members.get?_insert reg.name name _
    have none : r.find? reg.name = none := free
    rw [kept, settle_nextHandle, List.map_singleton, List.zip_cons_cons, List.zip_nil_left,
      List.mem_singleton, Prod.mk.injEq]
    split
    case isTrue same =>
      rw [same, none]
      constructor
      · exact fun found => .inr ⟨rfl, (Option.some.inj found).symm⟩
      · rintro (found | ⟨-, rfl⟩)
        · cases found
        · rfl
    case isFalse other => exact ⟨.inl, Or.rec id fun new => absurd new.1 other⟩
  free other mem := by
    rw [List.mem_singleton.1 mem]
    exact free

end Registry

namespace Container

variable {W σ δ : Type} [Inhabited σ] {c : Container W σ δ} {properties : Properties}
  {names : List String} {name : String} {handles : List Handle} {h : Handle} {e : HostError}
  {w mid after : W}

/-- Registering watchers one after another, each of which succeeds. -/
inductive InTurn (c : Container W σ δ) (properties : Properties) :
    List String → W → List Handle → W → Prop where
  | nil {w : W} : InTurn c properties [] w [] w
  | cons {w mid after : W} {name : String} {names : List String} {h : Handle}
      {handles : List Handle} (first : (c.register name properties).run w = (.ok h, mid))
      (rest : InTurn c properties names mid handles after) :
    InTurn c properties (name :: names) w (h :: handles) after

/-- A registration as a watcher gets it that is configured from properties. -/
def Configured (c : Container W σ δ) (properties : Properties) (reg : Registration σ) : Prop :=
  ∃ kind settings, c.catalog.configure reg.name properties = .ok (kind, settings) ∧
    reg = ⟨reg.name, settings, kind.fresh, .active, .after .root, false⟩

/-- The registry gains just the watchers with some names, configured from properties. -/
def Gains (c : Container W σ δ) (properties : Properties) (names : List String) (w : W)
    (handles : List Handle) (after : W) : Prop :=
  ∃ new, new.map (·.name) = names ∧ (∀ reg ∈ new, c.Configured properties reg) ∧
    (c.site.registry.get w).Gains new handles (c.site.registry.get after)

/-- A registration that succeeds gains its watcher. -/
lemma register_ok (done : (c.register name properties).run w = (.ok h, after)) :
    c.Gains properties [name] w [h] after := by
  rw [register] at done
  cases configured : c.catalog.configure name properties with
  | error e =>
    rw [configured] at done
    cases done
  | ok result =>
    obtain ⟨kind, settings⟩ := result
    rw [configured] at done
    simp only [Program.bind_eq, Program.run_bind, Program.run_act] at done
    rcases Registry.register_cases name kind.fresh settings (c.site.registry.get w) with
      ⟨-, -, free, made⟩ | ⟨e, refused, -⟩
    · rw [made] at done
      obtain ⟨rfl, rfl⟩ : _ = h ∧ _ = after := by simpa using done
      refine ⟨[⟨name, settings, kind.fresh, .active, .after .root, false⟩], rfl, ?_, ?_⟩
      · intro reg mem
        rw [List.mem_singleton.1 mem]
        exact ⟨kind, settings, configured, rfl⟩
      · rw [c.site.registry.get_set]
        exact .add free rfl
    · rw [refused] at done
      cases done

/-- A registration that fails gains nothing. -/
lemma register_error (refused : (c.register name properties).run w = (.error e, after)) :
    c.Gains properties [] w [] after := by
  refine ⟨[], rfl, nofun, ?_⟩
  rw [register] at refused
  cases configured : c.catalog.configure name properties with
  | error e =>
    rw [configured] at refused
    obtain ⟨-, rfl⟩ := Prod.mk.inj refused
    exact .refl _
  | ok result =>
    obtain ⟨kind, settings⟩ := result
    rw [configured] at refused
    simp only [Program.bind_eq, Program.run_bind, Program.run_act] at refused
    rcases Registry.register_cases name kind.fresh settings (c.site.registry.get w) with
      ⟨-, -, -, made⟩ | ⟨e, failed, after⟩
    · rw [made] at refused
      cases refused
    · rw [failed] at refused
      obtain ⟨-, rfl⟩ := Prod.mk.inj refused
      rw [c.site.registry.get_set]
      rcases after with same | same
      · rw [same]
        exact .refl _
      · rw [same]
        exact .settle _

/-- Watchers that are gained one after another are gained together. -/
lemma Gains.trans {names' : List String} {handles' : List Handle}
    (first : c.Gains properties names w handles mid)
    (second : c.Gains properties names' mid handles' after) :
    c.Gains properties (names ++ names') w (handles ++ handles') after := by
  obtain ⟨new, rfl, configured, gains⟩ := first
  obtain ⟨more, rfl, configured', gains'⟩ := second
  refine ⟨new ++ more, List.map_append, fun reg mem => ?_, gains.trans gains'⟩
  exact (List.mem_append.1 mem).elim (configured reg) (configured' reg)

/-- Watchers that are registered in turn are what the registry gains. -/
lemma InTurn.gains (h : c.InTurn properties names w handles after) :
    c.Gains properties names w handles after := by
  induction h with
  | nil => exact ⟨[], rfl, nofun, .refl _⟩
  | cons first rest ih => exact (register_ok first).trans ih

/-- Each watcher is registered in turn, or there is a first one that is not. -/
lemma registerEach_cases (c : Container W σ δ) (properties : Properties) (names : List String)
    (w : W) :
    (∃ handles after, c.InTurn properties names w handles after ∧
      (c.registerEach properties names).run w = (.ok handles, after)) ∨
    ∃ before name rest handles mid e after, names = before ++ name :: rest ∧
      c.InTurn properties before w handles mid ∧
      (c.register name properties).run mid = (.error e, after) ∧
      (c.registerEach properties names).run w = (.error e, after) := by
  induction names generalizing w with
  | nil => exact .inl ⟨[], w, .nil, rfl⟩
  | cons name names ih =>
    rcases first : (c.register name properties).run w with ⟨e | h, mid⟩
    · refine .inr ⟨[], name, names, [], w, e, mid, rfl, .nil, first, ?_⟩
      simp only [registerEach, Program.bind_eq, Program.run_bind, first, Program.pure_eq,
        Program.run_done]
    · rcases ih mid with ⟨handles, after, turn, run⟩ |
        ⟨before, other, rest, handles, last, e, after, rfl, turn, fails, run⟩
      · refine .inl ⟨h :: handles, after, .cons first turn, ?_⟩
        simp only [registerEach, Program.bind_eq, Program.run_bind, first, run, Program.pure_eq,
          Program.run_done]
      · refine .inr ⟨name :: before, other, rest, h :: handles, last, e, after, rfl,
          .cons first turn, fails, ?_⟩
        simp only [registerEach, Program.bind_eq, Program.run_bind, first, run, Program.pure_eq,
          Program.run_done]

/--
The watchers that properties name are those with a property `sentinel.` and a proper name, in
ascending order. They are registered in this order until one fails: if none does, the registry gains
just these watchers, and otherwise just those before the first that fails, with its error. What a
watcher is registered with depends on its own properties alone.
-/
theorem registers_what_is_named (c : Container W σ δ) (properties : Properties) (w : W) :
    (Catalog.watcherNames properties).Pairwise (· < ·) ∧
      (∀ name, name ∈ Catalog.watcherNames properties ↔
        properties.contains (Catalog.kindProperty name) = true ∧ Catalog.Proper name) ∧
      ((∃ handles after, c.InTurn properties (Catalog.watcherNames properties) w handles after ∧
          (c.registerAll properties).run w = (.ok handles, after) ∧
          c.Gains properties (Catalog.watcherNames properties) w handles after) ∨
        ∃ before name rest handles mid e after,
          Catalog.watcherNames properties = before ++ name :: rest ∧
          c.InTurn properties before w handles mid ∧
          (c.register name properties).run mid = (.error e, after) ∧
          (c.registerAll properties).run w = (.error e, after) ∧
          c.Gains properties before w handles after) ∧
      ∀ name other, Catalog.Agree name properties other →
        c.catalog.configure name other = c.catalog.configure name properties ∧
          c.register name other = c.register name properties := by
  refine ⟨Catalog.watcherNames_ascending properties, fun _ => Catalog.mem_watcherNames, ?_,
    fun name other agree => ⟨agree.configure c.catalog, ?_⟩⟩
  · rcases c.registerEach_cases properties (Catalog.watcherNames properties) w with
      ⟨handles, after, turn, run⟩ |
      ⟨before, name, rest, handles, mid, e, after, split, turn, fails, run⟩
    · exact .inl ⟨handles, after, turn, run, turn.gains⟩
    · refine .inr ⟨before, name, rest, handles, mid, e, after, split, turn, fails, run, ?_⟩
      have gains := turn.gains.trans (register_error fails)
      rwa [List.append_nil, List.append_nil] at gains
  · rw [register, register, agree.configure c.catalog]

end Container

namespace Plant

/-- A kind of watchers that pass on to a kind, their own unless another one is given. -/
def relay : Kind Unit :=
  ⟨⟨[⟨"to", .kind, some (.kind "relay")⟩]⟩, ()⟩

/-- The container with one kind of watchers in its catalog. -/
def stocked : Container Plant Unit Unit :=
  { container with catalog := Table.empty.insert "relay" relay }

/-- Properties of one watcher. -/
def alone : Properties :=
  Table.empty.insert "sentinel.a" "relay"

/-- The same properties, and those of another watcher. -/
def accompanied : Properties :=
  alone.insert "sentinel.b" "relay"

/-- The same, but the kind of the other watcher is missing, and there is a third one. -/
def interrupted : Properties :=
  (alone.insert "sentinel.b" "other").insert "sentinel.c" "relay"

/-- The watchers have different properties. -/
lemma agree_accompanied : Catalog.Agree "a" alone accompanied := by
  intro key concerns
  have other : key ≠ "sentinel.b" := by
    rcases concerns with rfl | ⟨setting, rfl⟩
    · decide
    · intro same
      have tenth := congrArg (·.toList[9]?) same
      simp [Schema.propertyName] at tenth
  rw [accompanied, Table.get?_insert, if_neg other]

end Plant

open Plant (stocked alone accompanied interrupted)

/--
A watcher is registered the same whatever the properties of another one are. Two watchers are both
registered; of three watchers the first alone is, if the kind of the second is missing.
-/
theorem Container.registers_what_is_named_accompanied :
    Catalog.Agree "a" alone accompanied ∧
      stocked.register "a" accompanied = stocked.register "a" alone ∧
      (∃ after, (stocked.registerAll accompanied).run {} = (.ok [0, 1], after) ∧
        stocked.Gains accompanied ["a", "b"] {} [0, 1] after) ∧
      ∃ after, (stocked.registerAll interrupted).run {}
          = (.error (.settings (.unknownKind "sentinel.b" "other")), after) ∧
        stocked.Gains interrupted ["a"] {} [0] after := by
  obtain ⟨-, -, -, same⟩ := registers_what_is_named stocked alone {}
  refine ⟨Plant.agree_accompanied, (same "a" accompanied Plant.agree_accompanied).2, ?_, ?_⟩
  · obtain ⟨-, -, runs, -⟩ := registers_what_is_named stocked accompanied {}
    have both : ((stocked.registerAll accompanied).run {}).1 = .ok [0, 1] := rfl
    have names : Catalog.watcherNames accompanied = ["a", "b"] := by decide
    rcases runs with ⟨handles, after, -, run, gains⟩ | ⟨_, _, _, _, _, e, after, -, -, -, run, -⟩
    · rw [run] at both
      cases both
      exact ⟨after, run, names ▸ gains⟩
    · rw [run] at both
      cases both
  · obtain ⟨-, -, runs, -⟩ := registers_what_is_named stocked interrupted {}
    have unknown : ((stocked.registerAll interrupted).run {}).1
        = .error (.settings (.unknownKind "sentinel.b" "other")) := rfl
    have one : ((stocked.registerAll interrupted).run {}).2.registry.registrations.length = 1 := rfl
    have names : Catalog.watcherNames interrupted = ["a", "b", "c"] := by decide
    rcases runs with ⟨handles, after, -, run, -⟩ |
      ⟨before, name, rest, handles, _, e, after, split, -, -, run, gains⟩
    · rw [run] at unknown
      cases unknown
    · rw [run] at unknown one
      cases unknown
      obtain ⟨new, named, configured, gains⟩ := gains
      -- one watcher is registered, and so the names before the one that fails are one
      have length : new.length = 1 := by
        rwa [show after.registry.registrations = [] ++ new from gains.registrations] at one
      obtain rfl : before = ["a"] := by
        obtain ⟨first, rfl⟩ : ∃ first, before = [first] := by
          rw [← List.length_eq_one_iff, ← named, List.length_map, length]
        cases names.symm.trans split
        rfl
      obtain rfl : handles = [0] := by
        rw [gains.numbers, length]
        rfl
      exact ⟨after, run, new, named, configured, gains⟩

end LedgerWatch
