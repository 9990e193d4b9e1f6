import LedgerWatch.Proofs.Storage.OffsetFile
import LedgerWatch.Proofs.Text.Layout

/-!
# All or nothing

An offset is written to a draft beside its file, and the draft is then moved into place. Wherever
that fails, and whatever stands in the way, the path of the file has what it had before; when it
succeeds, the file has the new offset and the draft is gone. Nothing stands elsewhere that did not.

The main statement is `recorded_or_unchanged`. It rests on where the two paths lead: to different
names, because they differ in their last names only (`Files.locate_beside`).
-/

namespace LedgerWatch

namespace Files

variable {files : Files} {here folder : Path} {part draft last : String} {slash : Bool}

/-- The names that lead to a place. -/
def Place.names : Place → Path
  | .folder here => here
  | .name folder last _ => folder ++ [last]

/-- The names to which the text of a path leads. -/
def aim? (files : Files) (path : String) : Option Path :=
  (files.locate path).toOption.map Place.names

/-- What stands where the text of a path leads. -/
def at? (files : Files) (path : String) : Option Entry :=
  (files.aim? path).bind files.get?

/-- A path that is located leads to the names of its place. -/
lemma aim?_of_locate {path : String} {place : Place} (h : files.locate path = .ok place) :
    files.aim? path = some place.names := by
  rw [aim?, h]
  rfl

/-- What stands at a path stands at the place where it is located. -/
lemma at?_of_locate {path : String} {place : Place} (h : files.locate path = .ok place) :
    files.at? path = files.get? place.names := by
  rw [at?, aim?_of_locate h]
  rfl

/-- A path that leads to a name leads there. -/
lemma Leads.aim? {path : String} {p : Path} (h : files.Leads path p) :
    files.aim? path = some p := by
  obtain ⟨folder, last, located, rfl⟩ := h.located
  exact aim?_of_locate located

/-- Empty parts of a path lead nowhere. -/
lemma walk_blank {front : List String} (blank : ∀ p ∈ front, p = "") (rest : List String) :
    files.walk here (front ++ rest) = files.walk here rest := by
  induction front with
  | nil => rfl
  | cons p front ih =>
    obtain ⟨first, blank⟩ := List.forall_mem_cons.1 blank
    rw [List.cons_append, walk, if_pos (.inl first)]
    exact ih blank

/-- The name of a draft: it is longer than another one, and stands for no folder. -/
structure Drafts (draft part : String) : Prop where
  ne : draft ≠ part
  le : part.utf8ByteSize ≤ draft.utf8ByteSize
  proper : ¬(draft = "" ∨ draft = ".")
  below : draft ≠ ".."

/-- A draft has a longer name than its file. -/
lemma drafts_tmp (part : String) : Drafts (part ++ ".tmp") part := by
  have size : (part ++ ".tmp").utf8ByteSize = part.utf8ByteSize + 4 := String.utf8ByteSize_append
  have long {other : String} (same : part ++ ".tmp" = other) :
      other.utf8ByteSize = part.utf8ByteSize + 4 := same ▸ size
  constructor
  case ne =>
    intro same
    have := long same
    omega
  case le => omega
  case proper =>
    rintro (same | same)
    · exact absurd (long same) (Nat.succ_ne_zero _).symm
    · have one : ".".utf8ByteSize = part.utf8ByteSize + 4 := long same
      have : ".".utf8ByteSize = 1 := rfl
      omega
  case below =>
    intro same
    have two : "..".utf8ByteSize = part.utf8ByteSize + 4 := long same
    have : "..".utf8ByteSize = 2 := rfl
    omega

/-- From a folder, a draft and what it is the draft of stand at different names. -/
lemma walk_beside_nil (drafts : Drafts draft part) {place : Place}
    (walked : files.walk here [draft] = .ok place) :
    place = .name here draft false ∧
      ∃ other, files.walk here [part] = .ok other ∧ other.names ≠ here ++ [draft] := by
  rw [walk, if_neg drafts.proper, if_neg drafts.below] at walked
  split at walked
  case isTrue => cases walked
  case isFalse short =>
    obtain rfl := Except.ok.inj walked
    have long : here.length < (here ++ [draft]).length := by simp
    refine ⟨rfl, ?_⟩
    rw [walk]
    split
    case isTrue =>
      refine ⟨.folder here, rfl, fun same => ?_⟩
      exact absurd (congrArg List.length same) (Nat.ne_of_lt long)
    case isFalse =>
      split
      case isTrue =>
        refine ⟨.folder here.dropLast, rfl, fun same => ?_⟩
        have shorter : here.dropLast.length ≤ here.length := (List.dropLast_sublist here).length_le
        exact absurd (congrArg List.length same) (Nat.ne_of_lt (shorter.trans_lt long))
      case isFalse =>
        have fits : ¬maxName < part.utf8ByteSize :=
          fun great => short (great.trans_le drafts.le)
        refine ⟨.name here part false, ?_, fun same => ?_⟩
        · rw [if_neg fits]
          rfl
        · have same := List.append_cancel_left same
          exact drafts.ne (List.singleton_inj.1 same).symm

/-- Along the same names, a draft and what it is the draft of stand at different names. -/
lemma walk_beside (drafts : Drafts draft part) {front : List String} {place : Place}
    (walked : files.walk here (front ++ [draft]) = .ok place) :
    ∃ folder, place = .name folder draft false ∧
      ∃ other, files.walk here (front ++ [part]) = .ok other ∧ other.names ≠ folder ++ [draft] := by
  induction front generalizing here with
  | nil => exact ⟨here, walk_beside_nil drafts walked⟩
  | cons p front ih =>
    rw [List.cons_append, walk] at walked ⊢
    split at walked
    case isTrue still =>
      rw [if_pos still]
      exact ih walked
    case isFalse still =>
      rw [if_neg still]
      split at walked
      case isTrue up =>
        rw [if_pos up]
        exact ih walked
      case isFalse up =>
        rw [if_neg up]
        split at walked
        case isTrue => cases walked
        case isFalse short =>
          rw [if_neg short]
          have going : ¬(front ++ [draft]).all (· = "") = true := by
            simp [not_or.1 drafts.proper]
          rw [if_neg going] at walked
          split at walked
          case h_1 there =>
            split
            case isTrue ends =>
              -- the path ends here but for slashes, and the draft stands in that folder
              have blank : ∀ q ∈ front, q = "" := by
                intro q mem
                have all := List.all_eq_true.1 ends q (List.mem_append_left _ mem)
                exact of_decide_eq_true all
              rw [walk_blank blank] at walked
              obtain ⟨rfl, -⟩ := walk_beside_nil drafts walked
              refine ⟨_, rfl, _, rfl, fun same => ?_⟩
              have shorter := congrArg List.length same
              simp [Place.names] at shorter
            case isFalse => exact ih walked
          case h_2 => cases walked
          case h_3 => cases walked

/-- The path of a draft and the path that it is the draft of lead to different names. -/
lemma locate_beside {path : String} {p : Path} (named : path ≠ "")
    (draft : files.Leads (path ++ ".tmp") p) :
    ∃ place, files.locate path = .ok place ∧ place.names ≠ p := by
  obtain ⟨folder, last, located, rfl⟩ := draft.located
  have start : (path ++ ".tmp").toList.head? = path.toList.head? := by
    rw [String.toList_append]
    cases chars : path.toList with
    | nil => exact absurd (String.toList_eq_nil_iff.1 chars) named
    | cons c rest => rfl
  have inside : '/' ∉ ".tmp".toList := by decide
  obtain ⟨front, last', before, after⟩ := Text.splitAt_append inside path.toList
  have size : (path ++ ".tmp").utf8ByteSize = path.utf8ByteSize + 4 :=
    String.utf8ByteSize_append
  rw [locate] at located
  split at located
  case isTrue => cases located
  case isFalse =>
    split at located
    case isTrue => cases located
    case isFalse good =>
      split at located
      case isTrue => cases located
      case isFalse short =>
        have good' : ¬path.toList.contains '\x00' = true := by
          intro bad
          refine good ?_
          rw [String.toList_append, List.contains_iff_mem]
          exact List.mem_append_left _ (List.contains_iff_mem.1 bad)
        have short' : ¬maxPath < path.utf8ByteSize := by omega
        rw [locate, if_neg named, if_neg good', if_neg short']
        rw [start, String.toList_append, after, List.map_append] at located
        rw [before, List.map_append]
        have appended : String.ofList (last' ++ ".tmp".toList) = String.ofList last' ++ ".tmp" := by
          rw [String.ofList_append, String.ofList_toList]
        rw [List.map_singleton, appended] at located
        obtain ⟨folder', same, other, there, apart⟩ :=
          walk_beside (drafts_tmp (String.ofList last')) located
        obtain ⟨rfl, rfl, -⟩ := Place.name.inj same
        exact ⟨other, there, apart⟩

end Files

namespace OffsetFile

open Files (Leads)

variable {f : OffsetFile} {files : Files} {o : Offset} {p q : Path}

/--
An offset was written, or the attempt failed with a fault of the files and the path has what it had.
Nothing was touched but the path and the draft beside it.
-/
structure AllOrNothing (f : OffsetFile) (o : Offset) (files : Files)
    (answer : Except StorageError Unit) (after : Files) : Prop where
  outcome : (answer = .ok () ∧ after.read f.path = .ok (encode o) ∧ after.at? f.draftPath = none) ∨
    (∃ cause, answer = .error (.io cause)) ∧ after.locate f.path = files.locate f.path ∧
      after.at? f.path = files.at? f.path
  home : after.home = files.home
  others : ∀ p, files.aim? f.path ≠ some p → files.aim? f.draftPath ≠ some p →
    after.get? p = files.get? p

/-- What the path leads to is not the draft, and stays when the draft is written. -/
lemma drafted_path (draft : files.Leads f.draftPath p) (content : ByteArray) :
    (files.put p (.file content)).locate f.path = files.locate f.path ∧
      (files.put p (.file content)).at? f.path = files.at? f.path := by
  by_cases named : f.path = ""
  · have nowhere (files : Files) : files.locate f.path = .error .notFound := by
      rw [Files.locate, if_pos named]
    refine ⟨by rw [nowhere, nowhere], ?_⟩
    rw [Files.at?, Files.at?, Files.aim?, Files.aim?, nowhere, nowhere]
    rfl
  · obtain ⟨place, located, apart⟩ := Files.locate_beside named draft
    have located' := (Files.Keeps.put draft.bare (.file content)).locate located
    refine ⟨located'.trans located.symm, ?_⟩
    rw [Files.at?_of_locate located, Files.at?_of_locate located', Files.get?_put_of_ne apart]

/-- An offset that is written is written all or nothing. -/
lemma write_allOrNothing (f : OffsetFile) (o : Offset) (files : Files) :
    f.AllOrNothing o files (f.write o files).1 (f.write o files).2 := by
  cases written : files.write f.draftPath (encode o) with
  | error e =>
    have refused : f.write o files = (.error (fault f.draftPath e.message), files) := by
      rw [write, written]
    rw [refused]
    exact ⟨.inr ⟨⟨_, rfl⟩, rfl, rfl⟩, rfl, fun _ _ _ => rfl⟩
  | ok drafted =>
    obtain ⟨p, draft, rfl⟩ := Leads.of_write written
    obtain ⟨located, same⟩ := drafted_path draft (encode o)
    cases moved : (files.put p (.file (encode o))).rename f.draftPath f.path with
    | error e =>
      have refused : f.write o files
          = (.error (fault f.path e.message), files.put p (.file (encode o))) := by
        rw [write, written]
        dsimp only
        rw [moved]
      rw [refused]
      refine ⟨.inr ⟨⟨_, rfl⟩, located, same⟩, rfl, fun q _ other => ?_⟩
      have ne : q ≠ p := fun e => other (e ▸ draft.aim?)
      exact Files.get?_put_of_ne ne files _
    | ok last =>
      obtain ⟨q, place⟩ := Leads.of_rename moved
      have place' : files.Leads f.path q := place.of_put draft.bare fun folder => by cases folder
      obtain ⟨obeyed, draft', place'', here⟩ := write_of_leads o draft place'
      have apart : q ≠ p := by
        have named : f.path ≠ "" := by
          intro none
          obtain ⟨_, _, located', -⟩ := place'.located
          rw [none] at located'
          cases located'
        obtain ⟨other, found, apart⟩ := Files.locate_beside named draft
        have aimed : some other.names = some q :=
          (Files.aim?_of_locate found).symm.trans place'.aim?
        exact fun same => apart ((Option.some.inj aimed).trans same)
      rw [obeyed]
      refine ⟨.inl ⟨rfl, place''.read_file here, ?_⟩, rfl, fun r notPlace notDraft => ?_⟩
      · rw [Files.at?, draft'.aim?, Option.bind_some, Files.get?_put_of_ne apart.symm,
          Files.get?_erase_self]
      · have neq : r ≠ q := fun e => notPlace (e ▸ place'.aim?)
        have nep : r ≠ p := fun e => notDraft (e ▸ draft.aim?)
        rw [Files.get?_put_of_ne neq, Files.get?_erase_of_ne nep, Files.get?_put_of_ne nep]

/-- The offset that is recorded when there is none that can be read. -/
lemma reset_eq (f : OffsetFile) (files : Files) :
    f.reset files = ((f.write .root files).1.map fun _ => .root, (f.write .root files).2) := by
  rw [reset]
  rcases f.write .root files with ⟨_ | _, after⟩
  · rfl
  · rfl

/-- Nothing is there to read, or a text that writes no offset. -/
def Recordless (f : OffsetFile) (files : Files) : Prop :=
  files.readText f.path = .error (.file .notFound) ∨
    ∃ text, files.readText f.path = .ok text ∧ Offset.read? text = none

/-- Where there is no record the root offset is recorded. -/
lemma restore_of_recordless (h : f.Recordless files) : f.restore files = f.reset files := by
  rcases h with missing | ⟨text, read, unread⟩
  · rw [restore, missing]
  · rw [restore, read]
    dsimp only
    rw [unread]

/-- Where there is a record, or nothing that can be read, nothing is changed. -/
lemma restore_of_not_recordless (h : ¬f.Recordless files) : (f.restore files).2 = files := by
  rw [restore]
  split
  case h_1 text read =>
    split
    case h_1 => rfl
    case h_2 unread => exact absurd (.inr ⟨text, read, unread⟩) h
  case h_2 missing => exact absurd (.inl missing) h
  case h_3 => rfl

/--
For every tree, every path and every offset, an offset is recorded all or nothing, and it is recorded
just if its draft can be written and moved into place. So is the root offset when the file is
restored and holds no record; otherwise restoring it changes nothing.
-/
theorem recorded_or_unchanged (f : OffsetFile) (files : Files) :
    (∀ o, f.AllOrNothing o files (f.write o files).1 (f.write o files).2 ∧
        ((f.write o files).1 = .ok () ↔ f.Ready files)) ∧
      ((f.Recordless files ∧ ∃ answer, (f.restore files).1 = answer.map (fun _ => .root) ∧
          f.AllOrNothing .root files answer (f.restore files).2 ∧
          (answer = .ok () ↔ f.Ready files)) ∨
        (¬f.Recordless files ∧ (f.restore files).2 = files)) := by
  refine ⟨fun o => ⟨write_allOrNothing f o files, Ready.write_iff⟩, ?_⟩
  by_cases recordless : f.Recordless files
  · refine .inl ⟨recordless, (f.write .root files).1, ?_⟩
    rw [restore_of_recordless recordless, reset_eq]
    exact ⟨rfl, write_allOrNothing f .root files, Ready.write_iff⟩
  · exact .inr ⟨recordless, restore_of_not_recordless recordless⟩

end OffsetFile

end LedgerWatch
