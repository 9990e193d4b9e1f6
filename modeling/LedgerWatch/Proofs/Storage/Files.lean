import LedgerWatch.Storage.Files
import Mathlib.Tactic.Lemma

/-!
# Where files are written

A path leads to a name at which a file is written, read and moved. It goes on to lead there while
folders stay and no folder is made at the name.
-/

namespace LedgerWatch.Files

variable {files after : Files} {path source target : String} {p q : Path} {entry : Entry}
  {content : ByteArray}

/-- What goes on after an answer answers only when it was given one. -/
lemma bind_eq_ok {α β : Type} {x : Except FileFault α} {f : α → Except FileFault β} {b : β} :
    x >>= f = .ok b ↔ ∃ a, x = .ok a ∧ f a = .ok b := by
  constructor
  · intro h
    cases x with
    | error fault => cases h
    | ok a => exact ⟨a, rfl, h⟩
  · rintro ⟨a, rfl, h⟩
    exact h

/-- What is put at a path stands there. -/
@[simp] lemma get?_put_self (files : Files) (p : Path) (entry : Entry) :
    (files.put p entry).get? p = some entry := by
  rw [get?, put, List.lookup_cons, beq_self_eq_true]

/-- What is dropped from a list is not looked for. -/
lemma lookup_filter_of_ne (h : q ≠ p) (entries : List (Path × Entry)) :
    (entries.filter fun e => e.1 != p).lookup q = entries.lookup q := by
  induction entries with
  | nil => rfl
  | cons e entries ih =>
    obtain ⟨here, entry⟩ := e
    by_cases same : here = p
    · subst same
      have other : (q == here) = false := beq_false_of_ne h
      rw [List.filter_cons_of_neg (by simp), List.lookup_cons, other, ih]
    · rw [List.filter_cons_of_pos (by simpa using same), List.lookup_cons, List.lookup_cons, ih]

/-- Nothing else changes when something is put at a path. -/
lemma get?_put_of_ne (h : q ≠ p) (files : Files) (entry : Entry) :
    (files.put p entry).get? q = files.get? q := by
  have other : (q == p) = false := beq_false_of_ne h
  rw [get?, put, List.lookup_cons, other]
  exact lookup_filter_of_ne h files.entries

/-- Nothing else changes when something is taken away. -/
lemma get?_erase_of_ne (h : q ≠ p) (files : Files) : (files.erase p).get? q = files.get? q :=
  lookup_filter_of_ne h files.entries

/-- Nothing stands where something was taken away. -/
lemma get?_erase_self (files : Files) (p : Path) : (files.erase p).get? p = none := by
  rw [get?, erase, List.lookup_eq_none_iff]
  intro e mem
  have other : (e.1 != p) = true := (List.mem_filter.1 mem).2
  exact bne_iff_ne.2 (bne_iff_ne.1 other).symm

/-- No folder is lost. -/
structure Keeps (files after : Files) : Prop where
  home : after.home = files.home
  folders : ∀ p, files.get? p = some .folder → after.get? p = some .folder

namespace Keeps

/-- No folder is lost when something is put where none stands. -/
lemma put (bare : files.get? p ≠ some .folder) (entry : Entry) :
    Keeps files (files.put p entry) := by
  refine ⟨rfl, fun q there => ?_⟩
  have other : q ≠ p := by
    rintro rfl
    exact bare there
  rw [get?_put_of_ne other, there]

/-- No folder is lost when something is taken away that is none. -/
lemma erase (bare : files.get? p ≠ some .folder) : Keeps files (files.erase p) := by
  refine ⟨rfl, fun q there => ?_⟩
  have other : q ≠ p := by
    rintro rfl
    exact bare there
  rw [get?_erase_of_ne other, there]

/-- Taking back a file that was put somewhere loses no folder either. -/
lemma of_put (file : entry ≠ .folder) : Keeps (files.put p entry) files := by
  refine ⟨rfl, fun q there => ?_⟩
  have other : q ≠ p := by
    rintro rfl
    rw [get?_put_self] at there
    exact file (Option.some.inj there)
  rwa [get?_put_of_ne other] at there

/-- What a path leads to is found again. -/
lemma walk (h : Keeps files after) {here : Path} {parts : List String} {place : Place}
    (walked : files.walk here parts = .ok place) : after.walk here parts = .ok place := by
  fun_induction Files.walk files here parts with
  | case1 here => exact walked
  | case2 here part rest still ih =>
    rw [Files.walk, if_pos still]
    exact ih walked
  | case3 here rest still ih =>
    rw [Files.walk, if_neg still, if_pos rfl]
    exact ih walked
  | case4 here part rest still up long => cases walked
  | case5 here part rest still up long last =>
    rw [Files.walk, if_neg still, if_neg up, if_neg long, if_pos last]
    exact walked
  | case6 here part rest still up long last there ih =>
    rw [Files.walk, if_neg still, if_neg up, if_neg long, if_neg last, h.folders _ there]
    exact ih walked
  | case7 here part rest still up long last => cases walked
  | case8 here part rest still up long last => cases walked

/-- A path leads to the same place as long as no folder is lost. -/
lemma locate (h : Keeps files after) {place : Place} (located : files.locate path = .ok place) :
    after.locate path = .ok place := by
  unfold Files.locate at located ⊢
  rw [h.home]
  split
  case isTrue empty =>
    rw [if_pos empty] at located
    cases located
  case isFalse empty =>
    rw [if_neg empty] at located
    split
    case isTrue bad =>
      rw [if_pos bad] at located
      cases located
    case isFalse bad =>
      rw [if_neg bad] at located
      split
      case isTrue long =>
        rw [if_pos long] at located
        cases located
      case isFalse long =>
        rw [if_neg long] at located
        exact h.walk located

end Keeps

/-- A path leads to a name at which no folder stands. -/
structure Leads (files : Files) (path : String) (p : Path) : Prop where
  located : ∃ folder last, files.locate path = .ok (.name folder last false) ∧ p = folder ++ [last]
  bare : files.get? p ≠ some .folder

namespace Leads

/-- A path leads to the same name as long as no folder is lost. -/
lemma keeps (h : Leads files path p) (kept : Keeps files after)
    (bare : after.get? p ≠ some .folder) : Leads after path p := by
  obtain ⟨folder, last, located, e⟩ := h.located
  exact ⟨⟨folder, last, kept.locate located, e⟩, bare⟩

/-- A file that is put anywhere leaves paths as they are. -/
lemma put (h : Leads files path p) (other : files.get? q ≠ some .folder)
    (file : entry ≠ .folder) : Leads (files.put q entry) path p := by
  refine h.keeps (.put other entry) ?_
  by_cases same : p = q
  · subst same
    rw [get?_put_self]
    exact fun e => file (Option.some.inj e)
  · rw [get?_put_of_ne same]
    exact h.bare

/-- A path that leads to a name after a file was put somewhere did so before. -/
lemma of_put (h : Leads (files.put q entry) path p) (other : files.get? q ≠ some .folder)
    (file : entry ≠ .folder) : Leads files path p := by
  refine h.keeps (.of_put file) fun there => ?_
  have kept := (Keeps.put other entry).folders p there
  exact h.bare kept

/-- A file that is taken away leaves paths as they are. -/
lemma erase (h : Leads files path p) (other : files.get? q ≠ some .folder) :
    Leads (files.erase q) path p := by
  refine h.keeps (.erase other) ?_
  by_cases same : p = q
  · subst same
    rw [get?_erase_self]
    exact nofun
  · rw [get?_erase_of_ne same]
    exact h.bare

/-- Where a path leads to a name, it can be written. -/
lemma writable (h : Leads files path p) : files.writable path = .ok p := by
  obtain ⟨folder, last, located, rfl⟩ := h.located
  have bare : (files.get? (folder ++ [last])).any Entry.isFolder = false := by
    cases there : files.get? (folder ++ [last]) with
    | none => rfl
    | some entry =>
      cases entry with
      | folder => exact absurd there h.bare
      | file content => rfl
      | database number => rfl
  change (files.locate path).bind _ = _
  rw [located]
  change (if (false || (files.get? (folder ++ [last])).any Entry.isFolder) = true then _ else _) = _
  rw [bare]
  rfl

/-- Only where a path leads to a name can it be written. -/
lemma of_writable (free : files.writable path = .ok p) : Leads files path p := by
  obtain ⟨place, located, free⟩ := bind_eq_ok.1 free
  cases place with
  | folder here => cases free
  | name folder last slash =>
    change (if (slash || (files.get? (folder ++ [last])).any Entry.isFolder) = true
      then _ else _) = _ at free
    split at free
    case isTrue taken => cases free
    case isFalse clear =>
      obtain rfl := Except.ok.inj free
      obtain ⟨named, bare⟩ := not_or.1 (mt Bool.or_eq_true_iff.2 clear)
      obtain rfl := eq_false_of_ne_true named
      refine ⟨⟨folder, last, located, rfl⟩, fun there => ?_⟩
      rw [there] at bare
      exact bare rfl

/-- A path that leads to a name is written there. -/
lemma write (h : Leads files path p) (content : ByteArray) :
    files.write path content = .ok (files.put p (.file content)) := by
  rw [Files.write, h.writable]
  rfl

/-- What was written stands at the name to which the path leads. -/
lemma of_write (written : files.write path content = .ok after) :
    ∃ p, Leads files path p ∧ after = files.put p (.file content) := by
  obtain ⟨p, free, written⟩ := bind_eq_ok.1 written
  exact ⟨p, of_writable free, (Except.ok.inj written).symm⟩

/-- A file can be moved to a name at which no folder stands. -/
lemma movable {folder : Path} {last : String}
    (bare : files.get? (folder ++ [last]) ≠ some .folder) :
    files.movable (.name folder last false) = .ok (folder ++ [last]) := by
  rw [Files.movable, if_neg Bool.false_ne_true]
  split
  case h_1 there => exact absurd there bare
  case h_2 => rfl

/-- Only to a name at which no folder stands can a file be moved. -/
lemma of_movable {folder : Path} {last : String} {slash : Bool}
    (located : files.locate path = .ok (.name folder last slash))
    (free : files.movable (.name folder last slash) = .ok p) : Leads files path p := by
  rw [Files.movable] at free
  split at free
  case isTrue => cases free
  case isFalse named =>
    obtain rfl := eq_false_of_ne_true named
    split at free
    case h_1 => cases free
    case h_2 bare =>
      obtain rfl := Except.ok.inj free
      exact ⟨⟨folder, last, located, rfl⟩, bare⟩

/-- A file is moved to the name that a path leads to. -/
lemma rename (moved : Leads files source p) (there : files.get? p = some entry)
    (h : Leads files target q) :
    files.rename source target = .ok ((files.erase p).put q entry) := by
  obtain ⟨folder, last, first, rfl⟩ := moved.located
  obtain ⟨folder', last', second, rfl⟩ := h.located
  have free := movable h.bare
  refine bind_eq_ok.2 ⟨_, first, bind_eq_ok.2 ⟨_, second, ?_⟩⟩
  dsimp only
  rw [there]
  change (if (false && !entry.isFolder) = true then _ else _) = _
  rw [Bool.false_and, if_neg Bool.false_ne_true, free]
  rfl

/-- What was renamed stands at the name to which the path leads. -/
lemma of_rename (renamed : files.rename source target = .ok after) : ∃ q, Leads files target q := by
  obtain ⟨place, -, renamed⟩ := bind_eq_ok.1 renamed
  obtain ⟨aim, located, renamed⟩ := bind_eq_ok.1 renamed
  have free : ∃ q, files.movable aim = .ok q := by
    cases place with
    | folder here => cases renamed
    | name folder last slash =>
      dsimp only at renamed
      split at renamed
      case h_1 => cases renamed
      case h_2 entry there =>
        split at renamed
        case isTrue => cases renamed
        case isFalse =>
          obtain ⟨q, free, -⟩ := bind_eq_ok.1 renamed
          exact ⟨q, free⟩
  obtain ⟨q, free⟩ := free
  cases aim with
  | folder here => cases free
  | name folder last slash => exact ⟨q, of_movable located free⟩

/-- What is read at the name that a path leads to. -/
lemma read (h : Leads files path p) :
    (files.get? p = none ∧ files.read path = .error .notFound) ∨
      ∃ content, files.read path = .ok content ∧
        ∀ written, files.get? p = some (.file written) → content = written := by
  obtain ⟨folder, last, located, rfl⟩ := h.located
  generalize given : files.read path = answer
  rw [Files.read, located] at given
  dsimp only [bind, Except.bind] at given
  cases there : files.get? (folder ++ [last]) with
  | none =>
    rw [there] at given
    exact .inl ⟨rfl, given.symm⟩
  | some entry =>
    rw [there] at given
    refine .inr ?_
    cases entry with
    | folder => exact absurd there h.bare
    | file content => exact ⟨content, given.symm, fun written e => by cases e; rfl⟩
    | database number => exact ⟨databaseContent, given.symm, fun written e => by cases e⟩

/-- A file that stands where a path leads is read. -/
lemma read_file (h : Leads files path p) (there : files.get? p = some (.file content)) :
    files.read path = .ok content := by
  rcases h.read with ⟨missing, -⟩ | ⟨found, read, same⟩
  · rw [there] at missing
    cases missing
  · rw [read, same _ there]

end Leads

end LedgerWatch.Files
