import LedgerWatch.Proofs.Container.Observing
import LedgerWatch.Proofs.Container.Registering

/-!
# What a container admits

A container looks at a registration in stages: the kind of the watcher, its settings, the kinds that
the settings name, and then the registry looks at the name. The first stage that fails says why the
registration is refused, and nothing is registered then. Whoever passes all of them is registered
with the settings that were looked at. Settings do not change afterwards, and neither does the
catalog of the container, so whatever was registered through a container names only kinds that the
container can make (`admits_what_fits`).
-/

namespace LedgerWatch

open Relation (ReflTransGen)
open Program (Ends Ensures Within)
open Registry (Operation)

namespace Catalog

variable {σ : Type} {catalog : Catalog σ} {properties : Properties} {settings : Settings}
  {name key missing : String} {kind : Kind σ} {e : SettingsError}

/-- The property of a watcher names a kind: its text without outer blanks, if any of it is left. -/
structure Names (properties : Properties) (name kind : String) : Prop where
  ne : kind ≠ ""
  trimmed : (properties.get? (kindProperty name)).map Text.trimmed = some kind

/-- The catalog can make every kind of watchers that settings name. -/
def Creates (catalog : Catalog σ) (settings : Settings) : Prop :=
  ∀ key kind, settings.get? key = some (.kind kind) → catalog.contains kind = true

/-- A setting names a kind that is missing in the catalog, and no setting before it does. -/
structure Dangles (catalog : Catalog σ) (settings : Settings) (key missing : String) : Prop where
  named : settings.get? key = some (.kind missing)
  missing : catalog.contains missing = false
  first : ∀ other kind, other < key → settings.get? other = some (.kind kind) →
    catalog.contains kind = true

/-- What is to be made of a watcher's properties, in the order in which it is looked at. -/
structure Configures (catalog : Catalog σ) (properties : Properties) (name : String)
    (kind : Kind σ) (settings : Settings) : Prop where
  named : ∃ text, Names properties name text ∧ catalog.get? text = some kind
  resolved : kind.schema.resolve name properties = .ok settings
  creates : catalog.Creates settings

/-- The first thing that is wrong with a watcher's properties. -/
inductive Miscasts (catalog : Catalog σ) (properties : Properties) (name : String) :
    SettingsError → Prop where
  | unnamed :
    (∀ text, ¬Names properties name text) →
    Miscasts catalog properties name (.missingProperty (kindProperty name))
  | unknown {text : String} :
    Names properties name text →
    catalog.get? text = none →
    Miscasts catalog properties name (.unknownKind (kindProperty name) text)
  | unresolved {text : String} {kind : Kind σ} {e : SettingsError} :
    Names properties name text →
    catalog.get? text = some kind →
    kind.schema.resolve name properties = .error e →
    Miscasts catalog properties name e
  | dangling {text : String} {kind : Kind σ} {settings : Settings} {key missing : String} :
    Names properties name text →
    catalog.get? text = some kind →
    kind.schema.resolve name properties = .ok settings →
    catalog.Dangles settings key missing →
    Miscasts catalog properties name (.unknownKind (Schema.propertyName name key) missing)

/-- No kind is missing just if the catalog can make every kind that the settings name. -/
lemma danglingKind?_eq_none_iff :
    catalog.danglingKind? settings = none ↔ catalog.Creates settings := by
  rw [danglingKind?, List.findSome?_eq_none_iff]
  constructor
  · intro none key kind found
    have here := none (key, .kind kind) (settings.get?_eq_some_iff.1 found)
    by_contra absent
    rw [Bool.not_eq_true] at absent
    simp [absent] at here
  · rintro creates ⟨key, value⟩ mem
    cases value with
    | kind name => simp [creates key name (settings.get?_eq_some_iff.2 mem)]
    | _ => rfl

/-- An entry that names a kind which is missing in the catalog. -/
lemma dangling_entry_iff {entry : String × SettingValue} :
    (match entry.2 with
      | .kind name => if catalog.contains name then none else some (entry.1, name)
      | _ => none) = some (key, missing) ↔
    entry = (key, .kind missing) ∧ catalog.contains missing = false := by
  obtain ⟨other, value⟩ := entry
  cases value with
  | kind name =>
    cases there : catalog.contains name with
    | true =>
      simp only [there, if_true, reduceCtorEq, Prod.mk.injEq, SettingValue.kind.injEq, false_iff]
      rintro ⟨⟨rfl, rfl⟩, absent⟩
      rw [there] at absent
      cases absent
    | false =>
      simp only [there, Bool.false_eq_true, if_false, Option.some.injEq, Prod.mk.injEq,
        SettingValue.kind.injEq]
      constructor
      · rintro ⟨rfl, rfl⟩
        exact ⟨⟨rfl, rfl⟩, there⟩
      · rintro ⟨same, -⟩
        exact same
  | _ => simp

/-- The kind that is missing is the one of the first setting that names such a kind. -/
lemma danglingKind?_eq_some_iff :
    catalog.danglingKind? settings = some (key, missing) ↔
      catalog.Dangles settings key missing := by
  rw [danglingKind?, List.findSome?_eq_some_iff]
  constructor
  · rintro ⟨before, entry, after, whole, here, none⟩
    obtain ⟨rfl, absent⟩ := dangling_entry_iff.1 here
    have mem : (key, SettingValue.kind missing) ∈ settings.entries := by
      rw [whole]
      exact List.mem_append_right _ List.mem_cons_self
    refine ⟨settings.get?_eq_some_iff.2 mem, absent, fun other kind lt found => ?_⟩
    have mem' := settings.get?_eq_some_iff.1 found
    have ascending := settings.ascending
    rw [whole] at mem' ascending
    -- whoever has a smaller key stands before
    have before' : (other, SettingValue.kind kind) ∈ before := by
      refine (List.mem_append.1 mem').resolve_right fun later => ?_
      rcases List.mem_cons.1 later with same | later
      · cases same
        exact String.lt_irrefl _ lt
      · have gt := List.rel_of_pairwise_cons (List.pairwise_append.1 ascending).2.1 later
        exact String.lt_irrefl _ (String.lt_trans lt gt)
    by_contra absent'
    rw [Bool.not_eq_true] at absent'
    have clash := none _ before'
    simp [absent'] at clash
  · rintro ⟨named, absent, first⟩
    obtain ⟨before, after, whole⟩ :=
      List.append_of_mem (settings.get?_eq_some_iff.1 named)
    refine ⟨before, _, after, whole, dangling_entry_iff.2 ⟨rfl, absent⟩, ?_⟩
    rintro ⟨other, value⟩ mem
    have ascending := settings.ascending
    rw [whole] at ascending
    have lt : other < key := (List.pairwise_append.1 ascending).2.2 _ mem _ List.mem_cons_self
    have found : settings.get? other = some value := by
      rw [settings.get?_eq_some_iff, whole]
      exact List.mem_append_left _ mem
    cases value with
    | kind kind => simp [first other kind lt found]
    | _ => rfl

/-! ### Kind and settings -/

/-- A kind that is named is looked up in the catalog. -/
lemma kindOf_of_names {text : String} (h : Names properties name text) :
    catalog.kindOf name properties
      = match catalog.get? text with
        | some kind => .ok kind
        | none => .error (.unknownKind (kindProperty name) text) := by
  have nonempty : text.isEmpty = false := by
    rw [String.isEmpty_eq_false_iff]
    exact h.ne
  cases found : catalog.get? text with
  | none => simp [kindOf, h.trimmed, nonempty, found]
  | some kind => simp [kindOf, h.trimmed, nonempty, found]

/-- Without a name of a kind the property counts as missing. -/
lemma kindOf_of_unnamed (h : ∀ text, ¬Names properties name text) :
    catalog.kindOf name properties = .error (.missingProperty (kindProperty name)) := by
  rw [kindOf]
  cases found : (properties.get? (kindProperty name)).map Text.trimmed with
  | none => rfl
  | some text =>
    by_cases empty : text = ""
    · simp [empty]
    · exact absurd ⟨empty, found⟩ (h text)

/-- A kind that is known resolves the settings, and then the catalog looks at them. -/
lemma configure_of_kindOf (found : catalog.kindOf name properties = .ok kind) :
    catalog.configure name properties
      = kind.schema.resolve name properties >>= fun settings =>
        match catalog.danglingKind? settings with
        | some (key, missing) => .error (.unknownKind (Schema.propertyName name key) missing)
        | none => return (kind, settings) := by
  rw [configure, found]
  rfl

/-- A kind that is named and found is the kind of the watcher. -/
lemma kindOf_of_found {text : String} (h : Names properties name text)
    (found : catalog.get? text = some kind) : catalog.kindOf name properties = .ok kind := by
  rw [kindOf_of_names h, found]

/-- A watcher whose settings resolve and name kinds of the catalog is configured. -/
lemma configure_of_creates {text : String} (h : Names properties name text)
    (found : catalog.get? text = some kind)
    (resolved : kind.schema.resolve name properties = .ok settings)
    (creates : catalog.Creates settings) :
    catalog.configure name properties = .ok (kind, settings) := by
  simp [configure_of_kindOf (kindOf_of_found h found), resolved, bind, Except.bind,
    danglingKind?_eq_none_iff.2 creates, pure, Except.pure]

/-- The first thing that is wrong with the properties is what is told. -/
lemma configure_of_miscasts (h : catalog.Miscasts properties name e) :
    catalog.configure name properties = .error e := by
  cases h with
  | unnamed unnamed =>
    rw [configure, kindOf_of_unnamed unnamed]
    rfl
  | unknown names absent =>
    rw [configure, kindOf_of_names names, absent]
    rfl
  | unresolved names found failed =>
    rw [configure_of_kindOf (kindOf_of_found names found), failed]
    rfl
  | dangling names found resolved dangles =>
    simp [configure_of_kindOf (kindOf_of_found names found), resolved, bind, Except.bind,
      danglingKind?_eq_some_iff.2 dangles]

/-- Properties of a watcher either fit or are wrong at some stage. -/
lemma configures_or_miscasts (catalog : Catalog σ) (properties : Properties) (name : String) :
    (∃ kind settings, catalog.Configures properties name kind settings) ∨
    ∃ e, catalog.Miscasts properties name e := by
  by_cases named : ∃ text, Names properties name text
  · obtain ⟨text, names⟩ := named
    cases found : catalog.get? text with
    | none => exact .inr ⟨_, .unknown names found⟩
    | some kind =>
      cases resolved : kind.schema.resolve name properties with
      | error e => exact .inr ⟨e, .unresolved names found resolved⟩
      | ok settings =>
        cases dangling : catalog.danglingKind? settings with
        | none =>
          exact .inl ⟨kind, settings, ⟨text, names, found⟩, resolved,
            danglingKind?_eq_none_iff.1 dangling⟩
        | some entry =>
          obtain ⟨key, missing⟩ := entry
          exact .inr ⟨_, .dangling names found resolved (danglingKind?_eq_some_iff.1 dangling)⟩
  · exact .inr ⟨_, .unnamed (not_exists.1 named)⟩

/-- Properties that fit are resolved to the kind and its settings. -/
lemma configure_of_configures (h : catalog.Configures properties name kind settings) :
    catalog.configure name properties = .ok (kind, settings) := by
  obtain ⟨⟨text, names, found⟩, resolved, creates⟩ := h
  exact configure_of_creates names found resolved creates

end Catalog

namespace Registry

variable {σ : Type} [Inhabited σ] {r r' : Registry σ} {name : String} {h : Handle}
  {e : RegistryError}

/-- Nothing was made or changed of the registrations, and every question is answered the same. -/
structure Unchanged (r r' : Registry σ) : Prop where
  registrations : r'.registrations = r.registrations
  phase : r'.phase = r.phase
  settle : r'.settle = r.settle

lemma Unchanged.refl (r : Registry σ) : r.Unchanged r :=
  ⟨rfl, rfl, rfl⟩

/-- Forgetting what was cancelled changes no answer. -/
lemma unchanged_settle (r : Registry σ) : r.Unchanged r.settle :=
  ⟨settle_registrations, settle_phase, settle_settle r⟩

/-- The first thing that a registry minds about a name. -/
inductive Minds (r : Registry σ) (name : String) : RegistryError → Prop where
  | anonymous :
    name = "" →
    Minds r name .emptyName
  | active :
    name ≠ "" →
    r.phase = .active →
    Minds r name .alreadyActive
  | closed :
    name ≠ "" →
    r.phase = .closed →
    Minds r name .closed
  | taken {h : Handle} :
    name ≠ "" →
    r.phase = .idle →
    r.find? name = some h →
    Minds r name (.duplicateName name)

/-- A registry takes a name: there is one, it is free, and the registry is idle. -/
structure Takes (r : Registry σ) (name : String) : Prop where
  ne : name ≠ ""
  idle : r.phase = .idle
  free : r.find? name = none

/-- A registry takes a name, or minds something about it and is left unchanged. -/
lemma register_takes_or_minds (r : Registry σ) (name : String) (watcher : σ)
    (settings : Settings) :
    (r.Takes name ∧ r.register name watcher settings
      = (.ok r.nextHandle, r.settle.add name watcher settings)) ∨
    ∃ e, r.Minds name e ∧ ((r.register name watcher settings) = (.error e, r) ∨
      (r.register name watcher settings) = (.error e, r.settle)) := by
  by_cases anonymous : name = ""
  · subst anonymous
    exact .inr ⟨_, .anonymous rfl, .inl rfl⟩
  · have named : name.isEmpty = false := by
      rw [String.isEmpty_eq_false_iff]
      exact anonymous
    cases phase : r.phase with
    | active =>
      refine .inr ⟨_, .active anonymous phase, .inr ?_⟩
      simp [register, named, checkIdle, phase]
    | closed =>
      refine .inr ⟨_, .closed anonymous phase, .inr ?_⟩
      simp [register, named, checkIdle, phase]
    | idle =>
      cases found : r.find? name with
      | some h =>
        have taken : r.settle.members.get? name = some h := found
        refine .inr ⟨_, .taken anonymous phase found, .inr ?_⟩
        simp [register, named, checkIdle, phase, Table.contains, taken]
      | none =>
        have free : r.settle.members.get? name = none := found
        refine .inl ⟨⟨anonymous, phase, found⟩, ?_⟩
        simp [register, named, checkIdle, phase, Table.contains, free]

/-- There is one first thing that a registry minds. -/
lemma Minds.unique {e' : RegistryError} (h : r.Minds name e) (h' : r.Minds name e') : e' = e := by
  cases h with
  | anonymous none =>
    cases h' with
    | anonymous => rfl
    | active ne | closed ne | taken ne => exact absurd none ne
  | active ne phase =>
    cases h' with
    | anonymous none => exact absurd none ne
    | active => rfl
    | closed _ other | taken _ other => cases phase.symm.trans other
  | closed ne phase =>
    cases h' with
    | anonymous none => exact absurd none ne
    | closed => rfl
    | active _ other | taken _ other => cases phase.symm.trans other
  | taken ne phase =>
    cases h' with
    | anonymous none => exact absurd none ne
    | taken => rfl
    | active _ other | closed _ other => cases phase.symm.trans other

/-- A registry that takes a name minds nothing about it. -/
lemma Takes.not_minds (h : r.Takes name) : ¬r.Minds name e := by
  intro minds
  cases minds with
  | anonymous none => exact h.ne none
  | active _ phase | closed _ phase => cases h.idle.symm.trans phase
  | taken _ _ found => cases h.free.symm.trans found

/-- A name that is taken is registered under the next handle. -/
lemma Takes.register (takes : r.Takes name) (watcher : σ) (settings : Settings) :
    r.register name watcher settings
      = (.ok r.nextHandle, r.settle.add name watcher settings) := by
  obtain ⟨-, made⟩ | ⟨e, minds, -⟩ := register_takes_or_minds r name watcher settings
  · exact made
  · exact absurd minds takes.not_minds

/-- A name that is minded is refused, and nothing is registered. -/
lemma Minds.register (minds : r.Minds name e) (watcher : σ) (settings : Settings) :
    r.register name watcher settings = (.error e, r) ∨
      r.register name watcher settings = (.error e, r.settle) := by
  obtain ⟨takes, -⟩ | ⟨e', minds', refused⟩ := register_takes_or_minds r name watcher settings
  · exact absurd minds takes.not_minds
  · rwa [minds.unique minds'] at refused

/-- What is registered under a handle. -/
structure Bears (r : Registry σ) (h : Handle) (name : String) (settings : Settings) : Prop where
  made : h < r.nextHandle
  name : (r.get h).name = name
  settings : (r.get h).settings = settings

/-- A new registration bears the name and the settings that it was made with. -/
lemma bears_add (r : Registry σ) (name : String) (watcher : σ) (settings : Settings) :
    (r.settle.add name watcher settings).Bears r.nextHandle name settings := by
  have new : (r.settle.add name watcher settings).get r.nextHandle
      = ⟨name, settings, watcher, .active, .after .root, false⟩ := by
    rw [get_add, settle_nextHandle, if_pos rfl]
  refine ⟨?_, by rw [new], by rw [new]⟩
  rw [nextHandle_add, settle_nextHandle]
  exact Nat.lt_succ_self _

/-- No operation changes the name or the settings of what was registered before. -/
lemma Bears.apply {settings : Settings} (b : r.Bears h name settings) (op : Operation σ) :
    (op.apply r).Bears h name settings := by
  refine ⟨Nat.lt_of_lt_of_le b.made (Later.apply r op).next,
    ((Later.apply r op).name h b.made).trans b.name, ?_⟩
  rw [← b.settings]
  have revises := revises_apply op b.made
  generalize (op.apply r).get h = after at revises
  cases revises <;> rfl

end Registry

namespace Container

variable {W σ δ α : Type} [Inhabited σ] {c : Container W σ δ} {properties : Properties}
  {name : String} {kind : Kind σ} {settings : Settings} {handle : Handle} {e : HostError} {w : W}

/-! ### What a registration comes to -/

/-- A watcher's properties fit, and the registry takes its name. -/
structure Admits (c : Container W σ δ) (r : Registry σ) (properties : Properties) (name : String)
    (kind : Kind σ) (settings : Settings) : Prop where
  configures : c.catalog.Configures properties name kind settings
  takes : r.Takes name

/-- The first thing that is wrong: the registry is asked only if the properties fit. -/
inductive Refuses (c : Container W σ δ) (r : Registry σ) (properties : Properties)
    (name : String) : HostError → Prop where
  | settings {e : SettingsError} :
    c.catalog.Miscasts properties name e →
    Refuses c r properties name (.settings e)
  | registry {kind : Kind σ} {settings : Settings} {e : RegistryError} :
    c.catalog.Configures properties name kind settings →
    r.Minds name e →
    Refuses c r properties name (.registry e)

/-- A watcher is admitted or refused. -/
lemma admits_or_refuses (c : Container W σ δ) (r : Registry σ) (properties : Properties)
    (name : String) :
    (∃ kind settings, c.Admits r properties name kind settings) ∨
    ∃ e, c.Refuses r properties name e := by
  obtain ⟨kind, settings, fits⟩ | ⟨e, miscasts⟩ :=
    c.catalog.configures_or_miscasts properties name
  · obtain ⟨takes, -⟩ | ⟨e, minds, -⟩ :=
      Registry.register_takes_or_minds r name kind.fresh settings
    · exact .inl ⟨kind, settings, fits, takes⟩
    · exact .inr ⟨_, .registry fits minds⟩
  · exact .inr ⟨_, .settings miscasts⟩

/-- Registering a watcher whose properties fit is one operation on the registry. -/
lemma register_of_configures (fits : c.catalog.Configures properties name kind settings) :
    c.register name properties
      = (Program.act c.site.registry (Registry.register name kind.fresh settings)).bind
          fun answer => .done (answer.mapError .registry) := by
  rw [register, Catalog.configure_of_configures fits]
  refine congrArg (Program.bind _) (funext fun answer => ?_)
  cases answer <;> rfl

/-- When the properties do not fit, the registry is not asked. -/
lemma register_of_miscasts {e : SettingsError} (miscasts : c.catalog.Miscasts properties name e) :
    c.register name properties = .done (.error (.settings e)) := by
  rw [register, Catalog.configure_of_miscasts miscasts]
  rfl

/-- A watcher that is admitted is registered under the next handle. -/
lemma Admits.run (admits : c.Admits (c.site.registry.get w) properties name kind settings) :
    (c.register name properties).run w = (.ok (c.site.registry.get w).nextHandle,
      c.site.registry.modify (fun r => r.settle.add name kind.fresh settings) w) := by
  rw [register_of_configures admits.configures, Program.run_bind, Program.run_act,
    admits.takes.register]
  rfl

/-- Whoever is refused is told why, and at most what the registry was to forget is forgotten. -/
lemma Refuses.run (refuses : c.Refuses (c.site.registry.get w) properties name e) :
    ∃ after, (c.register name properties).run w = (.error e, after) ∧
      (after = w ∨ ∃ r, (c.site.registry.get w).Unchanged r ∧ after = c.site.registry.set r w) := by
  cases refuses with
  | settings miscasts =>
    rw [register_of_miscasts miscasts]
    exact ⟨w, rfl, .inl rfl⟩
  | @registry kind settings e fits minds =>
    rw [register_of_configures fits, Program.run_bind, Program.run_act]
    obtain same | same := minds.register kind.fresh settings
    · rw [same]
      exact ⟨_, rfl, .inr ⟨_, .refl _, rfl⟩⟩
    · rw [same]
      exact ⟨_, rfl, .inr ⟨_, Registry.unchanged_settle _, rfl⟩⟩

/-- A registration succeeds just if the watcher is admitted, and gives the next handle. -/
lemma register_ok_iff : ((c.register name properties).run w).1 = .ok handle ↔
    (∃ kind settings, c.Admits (c.site.registry.get w) properties name kind settings) ∧
      handle = (c.site.registry.get w).nextHandle := by
  obtain ⟨kind, settings, admits⟩ | ⟨e, refuses⟩ :=
    c.admits_or_refuses (c.site.registry.get w) properties name
  · rw [admits.run, Except.ok.injEq]
    exact ⟨fun same => ⟨⟨kind, settings, admits⟩, same.symm⟩, fun ⟨_, same⟩ => same.symm⟩
  · constructor
    · intro done
      obtain ⟨after, refused, -⟩ := refuses.run
      rw [refused] at done
      cases done
    · rintro ⟨⟨kind, settings, admits⟩, rfl⟩
      rw [admits.run]

/-- A registration fails just with the first thing that is wrong. -/
lemma register_error_iff : ((c.register name properties).run w).1 = .error e ↔
    c.Refuses (c.site.registry.get w) properties name e := by
  constructor
  · intro failed
    obtain ⟨kind, settings, admits⟩ | ⟨e', refuses⟩ :=
      c.admits_or_refuses (c.site.registry.get w) properties name
    · rw [admits.run] at failed
      cases failed
    · obtain ⟨after, refused, -⟩ := refuses.run
      rw [refused] at failed
      cases failed
      exact refuses
  · intro refuses
    obtain ⟨after, refused, -⟩ := refuses.run
    rw [refused]

/-- Amid others a registration happens at one moment, or is refused at once. -/
lemma register_ends_iff {J : Type} {E : W × J → W × J → Prop} {s s' : W × J}
    {answer : Except HostError Handle} :
    (c.register name properties).beside.Ends E s answer s' ↔
      ∃ u, ReflTransGen E s u ∧ answer = ((c.register name properties).run u.1).1 ∧
        ReflTransGen E (((c.register name properties).run u.1).2, u.2) s' := by
  obtain ⟨kind, settings, fits⟩ | ⟨e, miscasts⟩ :=
    c.catalog.configures_or_miscasts properties name
  · rw [register_of_configures fits]
    constructor
    · intro ends
      cases ends with
      | @step _ _ _ u _ _ before ends =>
        cases ends with
        | done after => exact ⟨u, before, rfl, after⟩
    · rintro ⟨u, before, rfl, after⟩
      exact .step before (.done after)
  · rw [register_of_miscasts miscasts]
    constructor
    · intro ends
      cases ends with
      | done rest => exact ⟨s, .refl, rfl, rest⟩
    · rintro ⟨u, before, rfl, after⟩
      exact .done (before.trans after)

/-! ### Histories -/

variable [Inhabited δ] {allowed : Operation σ → Prop} {others : W → W → Prop} {s s' : Scene W}
  {roll : List (String × Handle)} {names : List String}

/-- The watchers that were registered through a container in a history, with their handles. -/
inductive Enlists (c : Container W σ δ) (others : W → W → Prop) :
    Scene W → List (String × Handle) → Prop where
  | fresh {s : Scene W} :
    c.Fresh s →
    Enlists c others s []
  | step {s s' : Scene W} {roll : List (String × Handle)} :
    Enlists c others s roll →
    c.Step others s s' →
    Enlists c others s' roll
  | register {s s' : Scene W} {roll : List (String × Handle)} {properties : Properties}
      {name : String} {handle : Handle} :
    Enlists c others s roll →
    (c.register name properties).beside.Ends (c.Meanwhile others) s (.ok handle) s' →
    Enlists c others s' (roll ++ [(name, handle)])

/-- Watchers on a roll are registered with settings that the catalog can create. -/
def Furnished (c : Container W σ δ) (roll : List (String × Handle)) (r : Registry σ) : Prop :=
  ∀ name handle, (name, handle) ∈ roll →
    ∃ settings, r.Bears handle name settings ∧ c.catalog.Creates settings

omit [Inhabited δ] in
/-- No operation changes the settings of a watcher on the roll. -/
lemma Furnished.apply {r : Registry σ} (f : c.Furnished roll r) (op : Operation σ) :
    c.Furnished roll (op.apply r) := by
  intro name handle mem
  obtain ⟨settings, bears, creates⟩ := f name handle mem
  exact ⟨settings, bears.apply op, creates⟩

omit [Inhabited δ] in
/-- A registration adds a watcher whose settings were looked at. -/
lemma Furnished.register {u : Scene W} (obs : c.Observes (c.Furnished roll) u)
    (done : ((c.register name properties).run u.1).1 = .ok handle) :
    c.Observes (c.Furnished (roll ++ [(name, handle)]))
      (((c.register name properties).run u.1).2, u.2) := by
  obtain ⟨⟨kind, settings, admits⟩, rfl⟩ := register_ok_iff.1 done
  refine ⟨obs.working, ?_⟩
  rw [admits.run, Part.get_modify]
  intro other handle mem
  rcases List.mem_append.1 mem with old | new
  · have kept := obs.registry.apply (.register name kind.fresh settings)
    rw [Operation.apply, admits.takes.register] at kept
    exact kept other handle old
  · cases List.mem_singleton.1 new
    exact ⟨settings, Registry.bears_add _ _ _ _, admits.configures.creates⟩

namespace Enlists

/-- Along a history the watchers on the roll keep settings that the catalog can create. -/
lemma observes (h : c.Surrounded allowed others) (enlists : c.Enlists others s roll) :
    c.Observes (c.Furnished roll) s := by
  have keeps (roll : List (String × Handle)) (op : Operation σ) r (f : c.Furnished roll r) :=
    f.apply op
  induction enlists with
  | fresh fresh => exact ⟨fresh.working, nofun⟩
  | step _ step ih => exact ih.step h (keeps _) step
  | register _ ends ih =>
    obtain ⟨u, before, done, after⟩ := register_ends_iff.1 ends
    have there := ih.rest h (keeps _) before
    exact (Furnished.register there done.symm).rest h (keeps _) after

/-- Whoever is on the roll stays there whatever happens meanwhile. -/
lemma rest (enlists : c.Enlists others s roll)
    (steps : ReflTransGen (c.Meanwhile others) s s') : c.Enlists others s' roll :=
  Program.kept (I := fun s => c.Enlists others s roll)
    (fun _ _ step enlists => enlists.step (.meanwhile step)) enlists steps

/-- A registration that is refused enlists nobody. -/
lemma refused (enlists : c.Enlists others s roll)
    (ends : (c.register name properties).beside.Ends (c.Meanwhile others) s (.error e) s') :
    c.Enlists others s' roll := by
  refine enlists.step (.order (.register name properties) ?_)
  rw [heed, Program.bind_eq, Program.beside_bind]
  exact ends.bind (.done .refl)

end Enlists

/-- Of the watchers with some names those in front are new: all of them, unless one is refused. -/
structure InFront (names : List String) (answer : Except HostError (List Handle))
    (new : List (String × Handle)) : Prop where
  front : new.map Prod.fst <+: names
  all : ∀ handles, answer = .ok handles → new.map Prod.snd = handles ∧ new.length = names.length
  some : ∀ e, answer = .error e → new.length < names.length

/-- Registering watchers one after another amounts to as many registrations. -/
lemma registerEach_enlists {answer : Except HostError (List Handle)}
    (enlists : c.Enlists others s roll)
    (ends : (c.registerEach properties names).beside.Ends (c.Meanwhile others) s answer s') :
    ∃ new, c.Enlists others s' (roll ++ new) ∧ InFront names answer new := by
  induction names generalizing s roll answer s' with
  | nil =>
    cases ends with
    | done steps =>
      refine ⟨[], ?_, List.nil_prefix, fun handles same => ?_, fun e same => ?_⟩
      · rw [List.append_nil]
        exact enlists.rest steps
      · cases same
        exact ⟨rfl, rfl⟩
      · cases same
  | cons name names ih =>
    rw [registerEach, Program.bind_eq, Program.beside_bind] at ends
    obtain ⟨first, mid, begun, go⟩ := ends.of_bind
    cases first with
    | error e =>
      cases go with
      | done steps =>
        refine ⟨[], ?_, List.nil_prefix, fun handles same => ?_, fun _ _ => Nat.succ_pos _⟩
        · rw [List.append_nil]
          exact (enlists.refused begun).rest steps
        · cases same
    | ok handle =>
      simp only [Program.bind_eq, Program.beside_bind] at go
      obtain ⟨second, late, further, go⟩ := go.of_bind
      obtain ⟨new, enlists, front, all, some⟩ := ih (enlists.register begun) further
      rw [List.append_assoc] at enlists
      have front : (name :: new.map Prod.fst) <+: name :: names := by simpa using front
      refine ⟨(name, handle) :: new, ?_⟩
      cases second with
      | error e =>
        cases go with
        | done steps =>
          refine ⟨enlists.rest steps, front, fun handles same => ?_, fun _ _ => ?_⟩
          · cases same
          · exact Nat.succ_lt_succ (some e rfl)
      | ok handles =>
        cases go with
        | done steps =>
          obtain ⟨same, length⟩ := all handles rfl
          refine ⟨enlists.rest steps, front, fun given answered => ?_, fun e answered => ?_⟩
          · cases answered
            exact ⟨by rw [List.map_cons, same], by rw [List.length_cons, length, List.length_cons]⟩
          · cases answered

/--
A registration succeeds just if the property of the watcher names a kind in the catalog, the kind
resolves the settings, the catalog can create every kind that the settings name, given or default,
and the registry takes the name; it is made with the settings that were looked at. Otherwise the
first thing that is wrong is told, and nothing is made or changed. Amid others all of this happens
at one moment. So along a history whatever was registered through the container, also before a list
of watchers came to one that was refused, has settings that the catalog can create.
-/
theorem admits_what_fits (c : Container W σ δ) (name : String) (properties : Properties) :
    (∀ w handle, ((c.register name properties).run w).1 = .ok handle ↔
      (∃ kind settings, c.Admits (c.site.registry.get w) properties name kind settings) ∧
        handle = (c.site.registry.get w).nextHandle) ∧
    (∀ w e, ((c.register name properties).run w).1 = .error e ↔
      c.Refuses (c.site.registry.get w) properties name e) ∧
    (∀ w e after, (c.register name properties).run w = (.error e, after) → after = w ∨
      ∃ r, (c.site.registry.get w).Unchanged r ∧ after = c.site.registry.set r w) ∧
    (∀ w kind settings, c.Admits (c.site.registry.get w) properties name kind settings →
      (c.site.registry.get w).Gains
        [⟨name, settings, kind.fresh, .active, .after .root, false⟩]
        [(c.site.registry.get w).nextHandle]
        (c.site.registry.get ((c.register name properties).run w).2)) ∧
    (∀ (E : Scene W → Scene W → Prop) s s' answer,
      (c.register name properties).beside.Ends E s answer s' ↔
        ∃ u, ReflTransGen E s u ∧ answer = ((c.register name properties).run u.1).1 ∧
          ReflTransGen E (((c.register name properties).run u.1).2, u.2) s') ∧
    ∀ allowed others, c.Surrounded allowed others → ∀ s roll, c.Enlists others s roll →
      c.Furnished roll (c.site.registry.get s.1) ∧
      ∀ answer s', (c.registerAll properties).beside.Ends (c.Meanwhile others) s answer s' →
        ∃ new, c.Enlists others s' (roll ++ new) ∧
          InFront (Catalog.watcherNames properties) answer new := by
  refine ⟨fun _ _ => register_ok_iff, fun _ _ => register_error_iff, fun w e after failed => ?_,
    fun w kind settings admits => ?_, fun _ _ _ _ => register_ends_iff,
    fun allowed others h s roll enlists => ⟨(enlists.observes h).registry, fun answer s' ends => ?_⟩⟩
  · obtain ⟨after', refused, unchanged⟩ :=
      (register_error_iff.1 (by rw [failed]) :
        c.Refuses (c.site.registry.get w) properties name e).run
    cases failed.symm.trans refused
    exact unchanged
  · rw [admits.run, Part.get_modify]
    exact .add admits.takes.free rfl
  · exact registerEach_enlists enlists ends

omit [Inhabited δ] in
/-- What surrounds a container has nothing to do with its catalog. -/
lemma Surrounded.stocked (h : c.Surrounded allowed others) (catalog : Catalog σ) :
    ({ c with catalog } : Container W σ δ).Surrounded allowed others := by
  have outside w v (o : c.Outside allowed w v) :
      ({ c with catalog } : Container W σ δ).Outside allowed w v :=
    ⟨o.registry, o.workers, o.running⟩
  exact ⟨h.registry_workers, h.registry_running, h.workers_running, h.registry_set, h.running_set,
    fun w v step => outside w v (h.others w v step), h.site.mono outside,
    fun d => (h.pollers d).mono outside⟩

end Container

namespace Plant

/-- Properties of a watcher that passes on to its own kind. -/
def fitting : Properties :=
  Table.empty.insert "sentinel.a" " relay"

/-- The same, but the watcher is to pass on to a kind that is not there. -/
def unfit : Properties :=
  fitting.insert "sentinel.a.to" "other"

/-- The watcher is registered. -/
def enlisted : Plant :=
  ((stocked.register "a" fitting).run {}).2

/-- The watcher is registered at once. -/
lemma enlisted_run : (stocked.register "a" fitting).beside.through (calm {})
    = some (.ok 0, calm enlisted) :=
  rfl

/--
A watcher that passes on to its own kind is admitted, and stays one whose kinds can be made. One
that passes on to a kind which is not there is refused.
-/
theorem admits_what_fits_in_stock :
    (∃ kind settings, stocked.Admits {} fitting "a" kind settings) ∧
    stocked.Surrounded (fun _ => True) goesBy ∧
    stocked.Enlists goesBy (calm enlisted) [("a", 0)] ∧
    stocked.Furnished [("a", 0)] enlisted.registry ∧
    stocked.Refuses {} unfit "a" (.settings (.unknownKind "sentinel.a.to" "other")) := by
  obtain ⟨admits, -, -, -, -, lasts⟩ := Container.admits_what_fits stocked "a" fitting
  obtain ⟨-, refuses, -⟩ := Container.admits_what_fits stocked "a" unfit
  have around : stocked.Surrounded (fun _ => True) goesBy :=
    (surrounded fun _ _ => trivial).stocked _
  have enlists : stocked.Enlists goesBy (calm enlisted) [("a", 0)] :=
    .register (.fresh ⟨rfl, rfl, rfl, fun _ => rfl⟩) (.of_through enlisted_run)
  exact ⟨((admits {} 0).1 rfl).1, around, enlists, (lasts _ _ around _ _ enlists).1,
    (refuses {} _).1 rfl⟩

end Plant

end LedgerWatch
