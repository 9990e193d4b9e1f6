import LedgerWatch.Json.Fields
import LedgerWatch.Proofs.Json.Roundtrip
import LedgerWatch.Proofs.Text.Decimal

/-!
# Fields survive being written

A record whose fields have different names is taken apart into the values that it was made of, and
the values of fields are found in the JSON that was made of them.
-/

namespace LedgerWatch.Json

variable {fields : List (String × Json)} {name : String} {value : Json}

lemma plain_ofNat (n : Nat) : (ofNat n).Plain :=
  ⟨n, rfl⟩

lemma plain_ofString (s : String) : (ofString s).Plain :=
  rfl

/-- A record of plain fields is plain. -/
lemma plain_record (h : ∀ f ∈ fields, f.2.Plain) : (record fields).Plain := by
  change PlainFields (fields.map fun f => (some f.1, f.2))
  induction fields with
  | nil => trivial
  | cons f fields ih =>
    exact ⟨rfl, h f List.mem_cons_self, ih fun g mem => h g (List.mem_cons_of_mem f mem)⟩

/-- The fields of a record have names. -/
lemma named?_record (fields : List (String × Json)) :
    named? (fields.map fun f => (some f.1, f.2)) = some fields := by
  induction fields with
  | nil => rfl
  | cons f fields ih =>
    rw [named?] at ih ⊢
    rw [List.map_cons, List.mapM_cons, ih]
    rfl

/-- A field whose name no other field has is found. -/
lemma field?_of_mem (distinct : (fields.map Prod.fst).Nodup) (mem : (name, value) ∈ fields) :
    field? fields name = some (some value) := by
  have alone : (fields.filter fun f => f.1 = name) = [(name, value)] := by
    induction fields with
    | nil => cases mem
    | cons f fields ih =>
      rw [List.map_cons, List.nodup_cons] at distinct
      rcases List.mem_cons.1 mem with rfl | mem
      · have others : (fields.filter fun f => f.1 = name) = [] := by
          rw [List.filter_eq_nil_iff]
          intro g later same
          exact distinct.1 (List.mem_map.2 ⟨g, later, of_decide_eq_true same⟩)
        rw [List.filter_cons, if_pos (decide_eq_true rfl), others]
      · have other : f.1 ≠ name := by
          rintro rfl
          exact distinct.1 (List.mem_map.2 ⟨_, mem, rfl⟩)
        rw [List.filter_cons_of_neg (by simpa using other)]
        exact ih distinct.2 mem
  rw [field?, alone]

/-- The fields of a record are found under their names. -/
lemma fields?_record (least : Nat) (distinct : (fields.map Prod.fst).Nodup) :
    fields? (fields.map Prod.fst) least (record fields) = some (fields.map fun f => some f.2) := by
  have each (part : List (String × Json)) (within : ∀ f ∈ part, f ∈ fields) :
      (part.map Prod.fst).mapM (field? fields) = some (part.map fun f => some f.2) := by
    induction part with
    | nil => rfl
    | cons f part ih =>
      have found := field?_of_mem distinct (within f List.mem_cons_self)
      have others := ih fun g mem => within g (List.mem_cons_of_mem f mem)
      rw [List.map_cons, List.mapM_cons, found, others]
      rfl
  change (named? (fields.map fun f => (some f.1, f.2))).bind _ = _
  rw [named?_record, Option.bind_some]
  exact each fields fun f mem => mem

/-- An integer that is read back from its text is found in range. -/
lemma integer?_ofInt {low high i : Int}
    (read : Text.readInteger low high (Text.intText i) = .ok i) :
    integer? low high (ofInt i) = some i := by
  change (if _ then _ else _) = _
  rw [if_neg (Text.intText_ne_minus_zero i), read]
  rfl

lemma word?_ofNat {n : Nat} (h : n ≤ Text.maxWord) : word? (ofNat n) = some n := by
  have read : Text.readInteger 0 Text.maxWord (Text.intText n) = .ok n :=
    Text.readInteger_natText h
  have whole : integer? 0 Text.maxWord (ofNat n) = some n := integer?_ofInt read
  rw [word?, whole]
  rfl

lemma int32?_ofInt32 (n : Int32) : int32? (ofInt32 n) = some n := by
  have read := (Text.readInteger_eq_ok_iff (by decide) (by decide)).2
    ⟨Text.decimal_intText n.toInt, n.minValue_le_toInt, n.toInt_le⟩
  rw [int32?, ofInt32, integer?_ofInt read, Option.map_some, Int32.ofInt_toInt]

@[simp] lemma identifier?_ofIdentifier {subject : Subject} (id : Identifier subject) :
    identifier? (ofIdentifier id) = some id :=
  id.ofText?_text

end LedgerWatch.Json
