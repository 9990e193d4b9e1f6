import LedgerWatch.Proofs.Chain.Encoding
import LedgerWatch.Proofs.Storage.Files
import LedgerWatch.Storage.OffsetFile

/-!
# The offset that a file holds

A file that can be written holds the offset that was written to it last. Whatever text stands in it
when it is restored, it holds an offset afterwards: the one that the text writes, or the root
offset. Bytes that are no text are left where they are and reported.
-/

namespace LedgerWatch.OffsetFile

variable {f : OffsetFile} {files after : Files} {o : Offset}

/-- The offset that the file holds, if its content writes one. -/
def held? (f : OffsetFile) (files : Files) : Option Offset :=
  (files.readText f.path).toOption.bind Offset.read?

/-- The draft can be written and moved into place. -/
structure Ready (f : OffsetFile) (files : Files) : Prop where
  draft : ∃ p, files.Leads f.draftPath p
  place : ∃ p, files.Leads f.path p

/-- The file holds an offset and answers by it. -/
structure Holds (f : OffsetFile) (o : Offset) (files : Files) : Prop where
  held : f.held? files = some o
  restore : f.restore files = (.ok o, files)
  isProcessed : ∀ height, f.isProcessed height files = .ok (height ≤ o.height)

/-- What is written for an offset is a text. -/
lemma text_encode (o : Offset) : String.fromUTF8? (encode o) = some o.toJson.render := by
  rw [String.fromUTF8?, encode, String.toUTF8_eq_toByteArray, dif_pos o.toJson.render.isValidUTF8]
  rfl

/-- What is read and is a text is read as that text. -/
lemma readText_of_read {content : ByteArray} {text : String}
    (read : files.read f.path = .ok content) (decoded : String.fromUTF8? content = some text) :
    files.readText f.path = .ok text := by
  rw [Files.readText, read]
  dsimp only
  rw [decoded]

/-- A file whose text was read holds the offset that the text writes. -/
lemma held?_of_read {text : String} (read : files.readText f.path = .ok text) :
    f.held? files = Offset.read? text := by
  rw [held?, read, Except.toOption, Option.bind_some]

/-- A file that holds an offset answers by it. -/
lemma holds_of_held (h : f.held? files = some o) : f.Holds o files := by
  cases read : files.readText f.path with
  | error fault =>
    rw [held?, read] at h
    cases h
  | ok text =>
    have decoded := held?_of_read read
    rw [h] at decoded
    refine ⟨h, ?_, fun height => ?_⟩
    · rw [restore, read]
      dsimp only
      rw [← decoded]
    · rw [isProcessed, read]
      dsimp only
      rw [← decoded]

/-- What is no text is left where it is and reported. -/
lemma restore_of_not_text (read : files.readText f.path = .error .notText) :
    f.restore files = (.error (fault f.path ReadFault.notText.message), files) ∧
      ∀ height, f.isProcessed height files = .error (fault f.path ReadFault.notText.message) := by
  refine ⟨?_, fun height => ?_⟩
  · rw [restore, read]
  · rw [isProcessed, read]

/-- The draft is written and moved into place, and the paths lead where they led. -/
lemma write_of_leads {p q : Path} (o : Offset) (draft : files.Leads f.draftPath p)
    (place : files.Leads f.path q) :
    let moved := ((files.put p (.file (encode o))).erase p).put q (.file (encode o))
    f.write o files = (.ok (), moved) ∧ moved.Leads f.draftPath p ∧ moved.Leads f.path q ∧
      moved.get? q = some (.file (encode o)) := by
  intro moved
  let drafted := files.put p (.file (encode o))
  have draft' : drafted.Leads f.draftPath p := draft.put draft.bare nofun
  have place' : drafted.Leads f.path q := place.put draft.bare nofun
  have there : drafted.get? p = some (.file (encode o)) := Files.get?_put_self files p _
  have gone : (drafted.erase p).Leads f.path q := place'.erase draft'.bare
  refine ⟨?_, (draft'.erase draft'.bare).put gone.bare nofun, gone.put gone.bare nofun,
    Files.get?_put_self _ q _⟩
  rw [write, draft.write]
  dsimp only
  rw [draft'.rename there place']

namespace Ready

/-- Only where a file can be written is an offset written. -/
lemma of_write (h : (f.write o files).1 = .ok ()) : f.Ready files := by
  unfold write at h
  cases written : files.write f.draftPath (encode o) with
  | error fault =>
    rw [written] at h
    cases h
  | ok drafted =>
    rw [written] at h
    dsimp only at h
    cases moved : drafted.rename f.draftPath f.path with
    | error fault =>
      rw [moved] at h
      cases h
    | ok last =>
      obtain ⟨p, draft, rfl⟩ := Files.Leads.of_write written
      obtain ⟨q, place⟩ := Files.Leads.of_rename moved
      exact ⟨⟨p, draft⟩, q, place.of_put draft.bare nofun⟩

/-- A file that can be written has what was written, and can be written again. -/
lemma write (h : f.Ready files) (o : Offset) :
    ∃ after, f.write o files = (.ok (), after) ∧ f.Ready after ∧
      after.read f.path = .ok (encode o) := by
  obtain ⟨⟨p, draft⟩, q, place⟩ := h
  obtain ⟨written, draft', place', here⟩ := write_of_leads o draft place
  exact ⟨_, written, ⟨⟨p, draft'⟩, q, place'⟩, place'.read_file here⟩

/-- A file that can be written holds what was written. -/
lemma write_holds (h : f.Ready files) (bound : o.height ≤ Text.maxWord) :
    ∃ after, f.write o files = (.ok (), after) ∧ f.Ready after ∧ f.Holds o after := by
  obtain ⟨after, written, ready, read⟩ := h.write o
  have held := held?_of_read (readText_of_read read (text_encode o))
  rw [Offset.read?_render bound] at held
  exact ⟨after, written, ready, holds_of_held held⟩

/-- A file that holds no offset is made to hold the root offset. -/
lemma reset (h : f.Ready files) :
    ∃ after, f.reset files = (.ok .root, after) ∧ f.Ready after ∧ f.Holds .root after := by
  obtain ⟨after, written, ready, holds⟩ := h.write_holds (o := .root) (by decide)
  refine ⟨after, ?_, ready, holds⟩
  rw [OffsetFile.reset, written]

/-- A file that can be written is missing, or is a text, or is none. -/
lemma contents (h : f.Ready files) :
    files.read f.path = .error .notFound ∨
      ∃ content, files.read f.path = .ok content := by
  obtain ⟨-, q, place⟩ := h
  rcases place.read with ⟨-, missing⟩ | ⟨content, read, -⟩
  · exact .inl missing
  · exact .inr ⟨content, read⟩

/-- An offset is written just if its draft can be written and moved into place. -/
lemma write_iff : (f.write o files).1 = .ok () ↔ f.Ready files := by
  refine ⟨of_write, fun ready => ?_⟩
  obtain ⟨after, written, -⟩ := ready.write o
  rw [written]

end Ready

/--
A file that can be written is restored whatever text stands in it, and also when it is missing: it
is left as it is when the text writes an offset, and otherwise it holds the root offset afterwards.
Only bytes that are no text are reported, and stay.
-/
theorem restored_unless_no_text (able : (f.write .root files).1 = .ok ()) :
    (∃ content, files.read f.path = .ok content ∧ String.fromUTF8? content = none ∧
      f.restore files = (.error (fault f.path ReadFault.notText.message), files) ∧
      ∀ height, f.isProcessed height files
        = .error (fault f.path ReadFault.notText.message)) ∨
    ∃ o after, f.restore files = (.ok o, after) ∧ f.Holds o after ∧
      ((∃ content text, files.read f.path = .ok content ∧ String.fromUTF8? content = some text ∧
          ((Offset.read? text = some o ∧ after = files) ∨
            (Offset.read? text = none ∧ o = .root))) ∨
        (files.read f.path = .error .notFound ∧ o = .root)) := by
  have ready := Ready.of_write able
  obtain ⟨after, reset, -, holds⟩ := ready.reset
  rcases ready.contents with missing | ⟨content, read⟩
  · have unread : files.readText f.path = .error (.file .notFound) := by
      rw [Files.readText, missing]
    refine .inr ⟨.root, after, ?_, holds, .inr ⟨missing, rfl⟩⟩
    rw [restore, unread]
    exact reset
  · cases decoded : String.fromUTF8? content with
    | none =>
      have unread : files.readText f.path = .error .notText := by
        rw [Files.readText, read]
        dsimp only
        rw [decoded]
      exact .inl ⟨content, read, decoded, restore_of_not_text unread⟩
    | some text =>
      have held := held?_of_read (readText_of_read read decoded)
      cases written : Offset.read? text with
      | some o =>
        rw [written] at held
        have kept := holds_of_held held
        exact .inr ⟨o, files, kept.restore, kept,
          .inl ⟨content, text, read, decoded, .inl ⟨written, rfl⟩⟩⟩
      | none =>
        refine .inr ⟨.root, after, ?_, holds,
          .inl ⟨content, text, read, decoded, .inr ⟨written, rfl⟩⟩⟩
        rw [restore, readText_of_read read decoded]
        dsimp only
        rw [written]
        exact reset

/-- A working folder with a file of one byte that no text has. -/
def spoiled : Files :=
  Files.fresh.put ["work", "o.json"] (.file ⟨#[0xFF]⟩)

/-- A byte that no text has is reported, though the file could be written. -/
theorem restored_unless_no_text_spoiled :
    ((⟨"o.json"⟩ : OffsetFile).write .root spoiled).1 = .ok () ∧
      (⟨"o.json"⟩ : OffsetFile).restore spoiled
        = (.error (.io "o.json: stream did not contain valid UTF-8"), spoiled) := by
  have able : ((⟨"o.json"⟩ : OffsetFile).write .root spoiled).1 = .ok () := by decide +kernel
  have byte : spoiled.read "o.json" = .ok ⟨#[0xFF]⟩ := by decide +kernel
  have no_text : String.fromUTF8? ⟨#[0xFF]⟩ = none := by decide +kernel
  refine ⟨able, ?_⟩
  rcases restored_unless_no_text able with
    ⟨content, -, -, refused, -⟩ | ⟨o, after, -, -, ⟨content, text, read, decoded, -⟩ | ⟨missing, -⟩⟩
  · exact refused
  · rw [byte] at read
    obtain rfl := Except.ok.inj read
    rw [no_text] at decoded
    cases decoded
  · rw [byte] at missing
    cases missing

end LedgerWatch.OffsetFile
