import LedgerWatch.Proofs.Text.Layout
import LedgerWatch.Settings.Properties
import Mathlib.Data.List.Induction
import Mathlib.Data.List.Nodup

/-!
# Reading the lines of properties

What a line gives that consists of a key and of what follows the key, and how little the blanks at
its ends matter. Of the lines with one key, the table has what the last one gives
(`Table.get?_ofList`).
-/

namespace LedgerWatch

namespace Table

variable {α : Type} {entries : List (String × α)} {key : String}

/-- Under each key stands its last value. -/
theorem get?_ofList (entries : List (String × α)) (key : String) :
    (ofList entries).get? key = entries.reverse.lookup key := by
  induction entries using List.reverseRecOn with
  | nil => rfl
  | append_singleton entries e ih =>
    rw [List.reverse_append, List.reverse_singleton, List.singleton_append, lookup_cons, ← ih,
      ofList, List.foldl_append, List.foldl_cons, List.foldl_nil, get?_insert]
    rfl

/-- What is looked up in a list stands in it. -/
lemma mem_of_lookup {value : α} (found : entries.lookup key = some value) :
    (key, value) ∈ entries := by
  obtain ⟨before, behind, rfl, -⟩ := List.lookup_eq_some_iff.1 found
  exact List.mem_append_right _ List.mem_cons_self

/-- Under a key that is there stands something that is said of all its values. -/
lemma exists_get?_ofList {p : α → Prop} (there : ∃ e ∈ entries, e.1 = key)
    (each : ∀ e ∈ entries, e.1 = key → p e.2) :
    ∃ value, (ofList entries).get? key = some value ∧ p value := by
  rw [get?_ofList]
  have found : (entries.reverse.lookup key).isSome := by
    obtain ⟨e, mem, same⟩ := there
    exact List.lookup_isSome_iff.2 ⟨e, List.mem_reverse.2 mem, beq_iff_eq.2 same.symm⟩
  obtain ⟨value, lookup⟩ := Option.isSome_iff_exists.1 found
  exact ⟨value, lookup, each (key, value) (List.mem_reverse.1 (mem_of_lookup lookup)) rfl⟩

/-- Where no key stands twice, each has its own value. -/
lemma get?_ofList_eq_some_iff (distinct : (entries.map Prod.fst).Nodup) {value : α} :
    (ofList entries).get? key = some value ↔ (key, value) ∈ entries := by
  rw [get?_ofList, ← List.mem_reverse]
  constructor
  case mp => exact mem_of_lookup
  case mpr =>
    intro mem
    obtain ⟨before, behind, split⟩ := List.append_of_mem mem
    rw [← List.nodup_reverse, ← List.map_reverse, split, List.map_append, List.map_cons,
      List.nodup_append] at distinct
    have apart : ∀ e ∈ before, (key != e.1) = true := fun e there =>
      bne_iff_ne.2 (distinct.2.2 _ (List.mem_map_of_mem there) key List.mem_cons_self).symm
    exact List.lookup_eq_some_iff.2 ⟨before, behind, split, apart⟩

/-- Under each key stands what its last entry has. -/
lemma get?_ofList_eq_some_iff_last {value : α} : (ofList entries).get? key = some value ↔
    ∃ before behind, entries = before ++ (key, value) :: behind ∧ key ∉ behind.map Prod.fst := by
  have apart (part : List (String × α)) :
      (∀ e ∈ part, (key != e.1) = true) ↔ key ∉ part.map Prod.fst := by
    rw [List.mem_map]
    constructor
    · rintro other ⟨e, mem, rfl⟩
      simpa using other e mem
    · intro other e mem
      exact bne_iff_ne.2 fun same => other ⟨e, mem, same.symm⟩
  rw [get?_ofList, List.lookup_eq_some_iff]
  constructor
  case mp =>
    rintro ⟨front, back, split, none⟩
    refine ⟨back.reverse, front.reverse, ?_, ?_⟩
    · rw [← List.reverse_reverse entries, split]
      simp
    · rw [List.map_reverse, List.mem_reverse]
      exact (apart front).1 none
  case mpr =>
    rintro ⟨before, behind, rfl, none⟩
    refine ⟨behind.reverse, before.reverse, by simp, ?_⟩
    rw [apart, List.map_reverse, List.mem_reverse]
    exact none

end Table

namespace Properties

open Text (Blanks Lays ReadAs)

variable {key rest line read front back ds : List Char} {c : Char}
  {given : Option (List Char × List Char)}

/-- No character ends a key. -/
def Plain (cs : List Char) : Prop :=
  ∀ c ∈ cs, endsKey c = false

instance (cs : List Char) : Decidable (Plain cs) :=
  decidable_of_iff (cs.any endsKey = false)
    (by simp only [Plain, List.any_eq_false, Bool.not_eq_true])

/-- What follows a key begins with a character that ends it, if with any. -/
def Follows (rest : List Char) : Prop :=
  ∀ c ∈ rest.head?, endsKey c = true

/-- A line begins neither with a blank nor as a comment does. -/
def Opens (line : List Char) : Prop :=
  ∃ c cs, line = c :: cs ∧ Text.isBlank c = false ∧ c ≠ '#' ∧ c ≠ '!'

/-- What a line gives: nothing, or a key and what follows the key. -/
inductive Gives : List Char → Option (List Char × List Char) → Prop where
  | blank {line : List Char} :
    Blanks line →
    Gives line none
  | comment {front rest : List Char} {c : Char} :
    Blanks front →
    c = '#' ∨ c = '!' →
    Gives (front ++ c :: rest) none
  | entry {front key rest : List Char} :
    Blanks front →
    Plain key →
    Follows rest →
    Opens (key ++ rest) →
    Gives (front ++ (key ++ rest)) (some (key, rest))

/-! ### What is found in a line -/

/-- An equals sign may follow a key. -/
lemma follows_equals (cs : List Char) : Follows ('=' :: cs) := by
  rintro c ⟨⟩
  rfl

/-- A blank ends a key. -/
lemma endsKey_of_blank (blank : Text.isBlank c = true) : endsKey c = true := by
  rw [endsKey, blank, Bool.or_true]

/-- More blanks may follow what follows a key. -/
lemma Follows.append (follows : Follows rest) (behind : Blanks back) : Follows (rest ++ back) := by
  intro c first
  cases rest with
  | nil => exact endsKey_of_blank (behind c (List.mem_of_mem_head? first))
  | cons => exact follows c first

/-- What opens a line opens any line that begins with it. -/
lemma Opens.append (opens : Opens line) (back : List Char) : Opens (line ++ back) := by
  obtain ⟨c, cs, rfl, visible, comment⟩ := opens
  exact ⟨c, cs ++ back, rfl, visible, comment⟩

/-- Every line gives something. -/
lemma exists_gives (line : List Char) : ∃ given, Gives line given := by
  rcases Text.blanks_or_exists line with blanks | ⟨front, c, cs, before, visible, rfl⟩
  · exact ⟨none, .blank blanks⟩
  · by_cases comment : c = '#' ∨ c = '!'
    · exact ⟨none, .comment before comment⟩
    · obtain ⟨hash, bang⟩ := not_or.1 comment
      have whole : (c :: cs).takeWhile (!endsKey ·) ++ (c :: cs).dropWhile (!endsKey ·) = c :: cs :=
        List.takeWhile_append_dropWhile
      rw [← whole]
      refine ⟨_, .entry before ?_ ?_ ?_⟩
      · intro d mem
        simpa using List.mem_takeWhile_imp mem
      · intro d first
        have ends := List.head?_dropWhile_not (!endsKey ·) (c :: cs)
        rw [Option.mem_def.1 first] at ends
        simpa using ends
      · exact ⟨c, cs, whole, visible, hash, bang⟩

/-- A line gives its key, and the value in what follows the key. -/
lemma entry_append (plain : Plain key) (follows : Follows rest) (opens : Opens (key ++ rest)) :
    entry? (key ++ rest) = some (String.ofList key, String.ofList (valueAfter rest)) := by
  obtain ⟨c, cs, whole, visible, hash, bang⟩ := opens
  have inside : ∀ d ∈ key, (!endsKey d) = true := by
    intro d mem
    rw [plain d mem]
    rfl
  have none : rest.takeWhile (!endsKey ·) = [] ∧ rest.dropWhile (!endsKey ·) = rest := by
    cases rest with
    | nil => exact ⟨rfl, rfl⟩
    | cons d rest => simp [follows d rfl]
  have ended : (c :: cs).takeWhile (!endsKey ·) = key := by
    rw [← whole, List.takeWhile_append_of_pos inside, none.1, List.append_nil]
  have left : (c :: cs).dropWhile (!endsKey ·) = rest := by
    rw [← whole, List.dropWhile_append_of_pos inside, none.2]
  rw [whole, entry?, Text.trimStart_cons_of_not_blank cs visible]
  simp [hash, bang, ended, left]

/-- Blanks in front of a line do not matter. -/
lemma entry_append_left (before : Blanks front) (line : List Char) :
    entry? (front ++ line) = entry? line := by
  unfold entry?
  rw [Text.trimStart_append before]

/-- What a line gives is found in it. -/
theorem Gives.entry_eq (gives : Gives line given) : entry? line
    = given.map fun parts => (String.ofList parts.1, String.ofList (valueAfter parts.2)) := by
  cases gives with
  | blank blanks =>
    unfold entry?
    rw [Text.trimStart_of_blanks blanks]
    rfl
  | @comment front rest c before comment =>
    have visible : Text.isBlank c = false := by
      rcases comment with rfl | rfl <;> decide
    rw [entry_append_left before, entry?, Text.trimStart_cons_of_not_blank _ visible]
    rcases comment with rfl | rfl <;> rfl
  | entry before plain follows opens =>
    rw [entry_append_left before, entry_append plain follows opens]
    rfl

/-! ### Blanks at the end of a line -/

/-- The value begins behind the blanks and the sign. -/
lemma valueAfter_append (before : Blanks front) (visible : Text.isBlank c = false) :
    valueAfter (front ++ c :: rest)
      = if c = '=' || c = ':' then Text.trimStart rest else c :: rest := by
  rw [valueAfter, Text.trimStart_append before, Text.trimStart_cons_of_not_blank _ visible]

/-- There is no value in blanks. -/
lemma valueAfter_of_blanks (blanks : Blanks ds) : valueAfter ds = [] := by
  rw [valueAfter, Text.trimStart_of_blanks blanks]

/-- Blanks at the end are no part of a value without outer blanks. -/
lemma trim_valueAfter_append (behind : Blanks back) (ds : List Char) :
    Text.trim (valueAfter (ds ++ back)) = Text.trim (valueAfter ds) := by
  rcases Text.blanks_or_exists ds with blanks | ⟨front, c, rest, before, visible, rfl⟩
  · rw [valueAfter_of_blanks (blanks.append behind), valueAfter_of_blanks blanks]
  · rw [List.append_assoc, List.cons_append, valueAfter_append before visible,
      valueAfter_append before visible]
    split
    · rw [Text.trim_trimStart, Text.trim_trimStart, Text.trim_append_right behind]
    · rw [← List.cons_append, Text.trim_append_right behind]

/-- What a line gives, with the value without the blanks around it. -/
def gist? (line : List Char) : Option (String × String) :=
  entry? line |>.map fun e => (e.1, Text.trimmed e.2)

/-- The gist of what a line gives is the value without outer blanks. -/
lemma Gives.gist (gives : Gives line given) : gist? line = given.map fun parts =>
    (String.ofList parts.1, String.ofList (Text.trim (valueAfter parts.2))) := by
  rw [gist?, gives.entry_eq, Option.map_map]
  cases given with
  | none => rfl
  | some parts => simp [Text.trimmed]

/-- Blanks at the end of a line do not matter, but for those at the end of its value. -/
lemma gist?_append_right (behind : Blanks back) (line : List Char) :
    gist? (line ++ back) = gist? line := by
  obtain ⟨given, gives⟩ := exists_gives line
  rw [gives.gist]
  cases gives with
  | blank blanks => exact (Gives.blank (blanks.append behind)).gist
  | comment before comment =>
    rw [List.append_assoc, List.cons_append]
    exact (Gives.comment before comment).gist
  | @entry front key rest before plain follows opens =>
    have opens' : Opens (key ++ (rest ++ back)) := by
      rw [← List.append_assoc]
      exact opens.append back
    rw [List.append_assoc, List.append_assoc,
      (Gives.entry before plain (follows.append behind) opens').gist]
    simp only [Option.map_some, trim_valueAfter_append behind]

/-- A line gives the same as it is read. -/
lemma gist?_of_readAs (as : ReadAs line read) : gist? read = gist? line := by
  rcases as with rfl | rfl
  · rfl
  · obtain ⟨back, blanks, whole⟩ := Text.exists_append_dropReturn line
    rw [← gist?_append_right blanks, whole]

/-- Lines give the same gist as they are read. -/
lemma filterMap_gist? {lines reads : List (List Char)} (as : List.Forall₂ ReadAs lines reads) :
    reads.filterMap gist? = lines.filterMap gist? := by
  induction as with
  | nil => rfl
  | cons as _ ih => rw [List.filterMap_cons, List.filterMap_cons, gist?_of_readAs as, ih]

/-- A text gives what its lines give. -/
theorem filterMap_gist?_lines {lines : List (List Char)} {text : List Char}
    (lays : Lays lines text) (inline : ∀ line ∈ lines, '\n' ∉ line) :
    (Text.lines text).filterMap gist? = lines.filterMap gist? :=
  filterMap_gist? (lays.forall₂_lines inline)

end Properties

end LedgerWatch
