import LedgerWatch.Proofs.Json.Fields

/-!
# Decoding undoes encoding

What it takes for a value to come back from the text of its JSON (`Kept`), and that it is kept by
the codecs of which the codecs of records are made: identifiers, numbers, lists, and values that
may be absent. A codec is faithful when it keeps every value, and writes no two values alike.
-/

namespace LedgerWatch.Json

variable {α : Type} {encode : α → Json} {decode : Json → Option α}

/-- The JSON of a value can be read back from its text, is not null, and is decoded as the value. -/
structure Kept (encode : α → Json) (decode : Json → Option α) (a : α) : Prop where
  plain : (encode a).Plain
  filled : encode a ≠ .null
  decoded : decode (encode a) = some a

/--
Every value of a domain is read from the text that is written for it, and different values have
different texts.
-/
structure Faithful (encode : α → Json) (decode : Json → Option α) (domain : α → Prop) : Prop where
  read : ∀ a, domain a → (read? (encode a).render).bind decode = some a
  apart : ∀ a b, domain a → domain b → a ≠ b → (encode a).render ≠ (encode b).render

/-- What is kept is read from its text; two values that are read from one text are the same. -/
lemma Faithful.of_kept {domain : α → Prop} (kept : ∀ a, domain a → Kept encode decode a) :
    Faithful encode decode domain := by
  have read (a : α) (within : domain a) : (read? (encode a).render).bind decode = some a := by
    rw [read?_render (kept a within).plain, Option.bind_some, (kept a within).decoded]
  refine ⟨read, fun a b first second different same => different ?_⟩
  have both := read a first
  rw [same, read b second] at both
  exact (Option.some.inj both).symm

lemma Kept.identifier {subject : Subject} (id : Identifier subject) :
    Kept ofIdentifier identifier? id :=
  ⟨plain_ofString id.text, nofun, identifier?_ofIdentifier id⟩

lemma Kept.word {n : Nat} (h : n ≤ Text.maxWord) : Kept ofNat word? n :=
  ⟨plain_ofNat n, nofun, word?_ofNat h⟩

lemma Kept.int32 (n : Int32) : Kept ofInt32 int32? n :=
  ⟨⟨n.toInt, rfl⟩, nofun, int32?_ofInt32 n⟩

/-- A list is kept when its items are. -/
lemma Kept.list {as : List α} (kept : ∀ a ∈ as, Kept encode decode a) :
    Kept (fun as => .array (as.map encode)) (list? decode) as := by
  induction as with
  | nil => exact ⟨trivial, nofun, rfl⟩
  | cons a as ih =>
    obtain ⟨plain, -, decoded⟩ := ih fun b mem => kept b (List.mem_cons_of_mem a mem)
    have first := kept a List.mem_cons_self
    refine ⟨⟨first.plain, plain⟩, nofun, ?_⟩
    rw [list?] at decoded ⊢
    rw [List.map_cons, List.mapM_cons, first.decoded, decoded]
    rfl

section Absent

variable {o : Option α}

/-- A field that is filled is decoded. -/
lemma optional_some {j : Json} (filled : j ≠ .null) :
    optional decode (some j) = (decode j).map some := by
  cases j with
  | null => exact absurd rfl filled
  | _ => rfl

/-- A value that is written as null when it is absent is found again. -/
lemma optional_ofOption (kept : ∀ a, Kept encode decode a) :
    optional decode (some (ofOption encode o)) = some o := by
  cases o with
  | none => rfl
  | some a => rw [ofOption, optional_some (kept a).filled, (kept a).decoded, Option.map_some]

/-- A value that is left out when it is absent is found again. -/
lemma optional_map (kept : ∀ a, Kept encode decode a) :
    optional decode (o.map encode) = some o := by
  cases o with
  | none => rfl
  | some a =>
    rw [Option.map_some, optional_some (kept a).filled, (kept a).decoded, Option.map_some]

/-- Something optional is written plainly. -/
lemma plain_ofOption (kept : ∀ a, Kept encode decode a) : (ofOption encode o).Plain := by
  cases o with
  | none => trivial
  | some a => exact (kept a).plain

end Absent

end LedgerWatch.Json
