import LedgerWatch.Proofs.Identity.Spelling

/-!
# The layout of texts

What is left of a text without the blanks around it, the lines of a text and the parts between
separators: each is said here without reading, and found where it was put.
-/

namespace LedgerWatch.Text

variable {c : Char} {cs front back line text : List Char} {lines : List (List Char)}

/-! ### Blanks -/

/-- All characters are blank. -/
def Blanks (cs : List Char) : Prop :=
  ∀ c ∈ cs, isBlank c = true

instance (cs : List Char) : Decidable (Blanks cs) :=
  decidable_of_iff (cs.all isBlank = true) List.all_eq_true

lemma blanks_nil : Blanks [] :=
  fun _ mem => absurd mem List.not_mem_nil

/-- Blanks behind blanks are blanks. -/
lemma Blanks.append (before : Blanks front) (behind : Blanks back) : Blanks (front ++ back) :=
  fun c mem => (List.mem_append.1 mem).elim (before c) (behind c)

/-- A text that is not blank has a first character that is not. -/
lemma blanks_or_exists (cs : List Char) :
    Blanks cs ∨ ∃ front c rest, Blanks front ∧ isBlank c = false ∧ cs = front ++ c :: rest := by
  induction cs with
  | nil => exact .inl blanks_nil
  | cons c cs ih =>
    cases blank : isBlank c with
    | false => exact .inr ⟨[], c, cs, blanks_nil, blank, rfl⟩
    | true =>
      have first : Blanks [c] := by
        intro d mem
        rw [List.mem_singleton.1 mem, blank]
      rcases ih with rest | ⟨front, d, rest, before, visible, rfl⟩
      · exact .inl (first.append rest)
      · exact .inr ⟨c :: front, d, rest, first.append before, visible, rfl⟩

/-- Blanks in front do not matter once they are trimmed there. -/
lemma trimStart_append (before : Blanks front) (cs : List Char) :
    trimStart (front ++ cs) = trimStart cs :=
  List.dropWhile_append_of_pos before

/-- Blanks at the end do not matter once they are trimmed there. -/
lemma trimEnd_append (behind : Blanks back) (cs : List Char) :
    trimEnd (cs ++ back) = trimEnd cs := by
  rw [trimEnd, List.reverse_append, List.dropWhile_append_of_pos, trimEnd]
  intro c mem
  exact behind c (List.mem_reverse.1 mem)

/-- Nothing is left of blanks. -/
lemma trimStart_of_blanks (blanks : Blanks cs) : trimStart cs = [] :=
  List.dropWhile_eq_nil_iff.2 blanks

/-- Nothing is left of blanks that are trimmed at both ends. -/
lemma trim_of_blanks (blanks : Blanks cs) : trim cs = [] := by
  rw [trim, trimStart_of_blanks blanks]
  rfl

/-- Blanks in front do not matter. -/
lemma trim_append_left (before : Blanks front) (cs : List Char) : trim (front ++ cs) = trim cs := by
  rw [trim, trimStart_append before, trim]

/-- Blanks behind do not matter. -/
lemma trim_append_right (behind : Blanks back) (cs : List Char) : trim (cs ++ back) = trim cs := by
  rcases blanks_or_exists cs with blanks | ⟨front, c, rest, before, visible, rfl⟩
  · rw [trim_of_blanks (blanks.append behind), trim_of_blanks blanks]
  · rw [List.append_assoc, trim_append_left before, trim_append_left before, List.cons_append, trim,
      trim, trimStart_cons_of_not_blank _ visible, trimStart_cons_of_not_blank _ visible,
      ← List.cons_append, trimEnd_append behind]

/-- A text that was trimmed in front has only its end to lose. -/
lemma trim_trimStart (cs : List Char) : trim (trimStart cs) = trim cs := by
  have blanks : Blanks (cs.takeWhile isBlank) := fun c mem => List.mem_takeWhile_imp mem
  have whole : cs.takeWhile isBlank ++ trimStart cs = cs := List.takeWhile_append_dropWhile
  rw [← trim_append_left blanks, whole]

/-- There are no blanks at the two ends of a text. -/
def Trimmed (cs : List Char) : Prop :=
  trim cs = cs

instance (cs : List Char) : Decidable (Trimmed cs) :=
  inferInstanceAs (Decidable (trim cs = cs))

/-- What a line may lose at its end is blank. -/
lemma exists_append_dropReturn (cs : List Char) :
    ∃ back, Blanks back ∧ dropReturn cs ++ back = cs := by
  rw [dropReturn]
  split
  case isTrue last =>
    obtain ⟨front, rfl⟩ := List.getLast?_eq_some_iff.1 last
    exact ⟨['\r'], by decide, by rw [List.dropLast_concat]⟩
  case isFalse => exact ⟨[], blanks_nil, List.append_nil cs⟩

/-- A line without its carriage return has no other characters. -/
lemma mem_of_mem_dropReturn (mem : c ∈ dropReturn cs) : c ∈ cs := by
  obtain ⟨back, -, whole⟩ := exists_append_dropReturn cs
  rw [← whole]
  exact List.mem_append_left back mem

/-- The carriage return that is dropped stands at the end. -/
lemma dropReturn_append (front : List Char) (filled : back ≠ []) :
    dropReturn (front ++ back) = front ++ dropReturn back := by
  have last : (front ++ back).getLast? = back.getLast? := by
    rw [List.getLast?_append, Option.or_of_isSome (List.getLast?_isSome.2 filled)]
  rw [dropReturn, dropReturn, last]
  split
  · rw [List.dropLast_append_of_ne_nil filled]
  · rfl

/-- A line that does not end in a carriage return loses nothing. -/
lemma dropReturn_eq_self (last : cs.getLast? ≠ some '\r') : dropReturn cs = cs :=
  if_neg last

/-- A carriage return is taken off behind another character. -/
lemma dropReturn_append_cons (front cs : List Char) (other : c ≠ '\r') :
    dropReturn (front ++ c :: cs) = front ++ c :: dropReturn cs := by
  rw [dropReturn_append front (List.cons_ne_nil c cs)]
  congr 1
  cases cs with
  | nil => exact dropReturn_eq_self (by simpa using other)
  | cons d cs => exact dropReturn_append [c] (List.cons_ne_nil d cs)

/-! ### Lines -/

/--
A text lays out lines. Each ends at a line feed, perhaps with a carriage return before it, but for
the last one, which may end with the text.
-/
inductive Lays : List (List Char) → List Char → Prop where
  | nil :
    Lays [] []
  | last {line : List Char} :
    line ≠ [] →
    Lays [line] line
  | feed {line text : List Char} {lines : List (List Char)} :
    Lays lines text →
    Lays (line :: lines) (line ++ '\n' :: text)
  | returnFeed {line text : List Char} {lines : List (List Char)} :
    Lays lines text →
    Lays (line :: lines) (line ++ '\r' :: '\n' :: text)

/-- A line as it is read: it may lose a carriage return at its end. -/
def ReadAs (line read : List Char) : Prop :=
  read = line ∨ read = dropReturn line

/-- Up to its line feed a line is taken as it stands. -/
lemma linesFrom_append (plain : '\n' ∉ line) (current rest : List Char) :
    linesFrom current (line ++ rest) = linesFrom (line.reverse ++ current) rest := by
  induction line generalizing current with
  | nil => rfl
  | cons c line ih =>
    obtain ⟨ne, plain⟩ := not_or.1 (mt List.mem_cons.2 plain)
    rw [List.cons_append, linesFrom, if_neg (Ne.symm ne), ih plain, List.reverse_cons,
      List.append_assoc, List.singleton_append]

/-- A line is read up to its line feed. -/
lemma linesFrom_feed (plain : '\n' ∉ line) (rest : List Char) :
    linesFrom [] (line ++ '\n' :: rest) = dropReturn line :: Text.lines rest := by
  rw [linesFrom_append plain, linesFrom, if_pos rfl, List.append_nil, List.reverse_reverse,
    Text.lines]

/-- Lines without line feeds are read where they were laid out. -/
lemma Lays.forall₂_lines (lays : Lays lines text) (inline : ∀ line ∈ lines, '\n' ∉ line) :
    List.Forall₂ ReadAs lines (Text.lines text) := by
  induction lays with
  | nil => exact .nil
  | @last line ne =>
    have read : Text.lines line = [line] := by
      have whole := linesFrom_append (inline line List.mem_cons_self) [] []
      rw [List.append_nil, List.append_nil] at whole
      rw [Text.lines, whole, linesFrom, if_neg, List.reverse_reverse]
      rwa [List.isEmpty_iff, List.reverse_eq_nil_iff]
    rw [read]
    exact .cons (.inl rfl) .nil
  | feed _ ih =>
    obtain ⟨first, others⟩ := List.forall_mem_cons.1 inline
    rw [Text.lines, linesFrom_feed first]
    exact .cons (.inr rfl) (ih others)
  | @returnFeed line text lines _ ih =>
    obtain ⟨first, others⟩ := List.forall_mem_cons.1 inline
    have first' : '\n' ∉ line ++ ['\r'] := by
      simp [first]
    have whole : dropReturn (line ++ ['\r']) = line := by
      simp [dropReturn]
    have read := linesFrom_feed first' text
    rw [List.append_assoc, List.singleton_append, whole] at read
    rw [Text.lines, read]
    exact .cons (.inl rfl) (ih others)

/-! ### Parts -/

variable {separator : Char}

/-- A text has a first part, however it is split. -/
lemma splitAt_ne_nil (separator : Char) (cs : List Char) : splitAt separator cs ≠ [] := by
  cases cs with
  | nil => exact List.cons_ne_nil _ _
  | cons c cs =>
    rw [splitAt]
    split
    · exact List.cons_ne_nil _ _
    · split <;> exact List.cons_ne_nil _ _

/-- A text without a separator is one part. -/
lemma splitAt_of_notMem (plain : separator ∉ cs) : splitAt separator cs = [cs] := by
  induction cs with
  | nil => rfl
  | cons c cs ih =>
    obtain ⟨other, plain⟩ := not_or.1 (mt List.mem_cons.2 plain)
    rw [splitAt, ih plain]
    exact if_neg (Ne.symm other)

/-- What stands in front of a text, without a separator, belongs to its first part. -/
lemma splitAt_append_left (plain : separator ∉ front) (cs : List Char) :
    ∃ first rest, splitAt separator cs = first :: rest ∧
      splitAt separator (front ++ cs) = (front ++ first) :: rest := by
  induction front with
  | nil =>
    obtain ⟨first, rest, split⟩ := List.exists_cons_of_ne_nil (splitAt_ne_nil separator cs)
    exact ⟨first, rest, split, split⟩
  | cons c front ih =>
    obtain ⟨other, plain⟩ := not_or.1 (mt List.mem_cons.2 plain)
    obtain ⟨first, rest, split, whole⟩ := ih plain
    refine ⟨first, rest, split, ?_⟩
    rw [List.cons_append, splitAt, whole]
    exact if_neg (Ne.symm other)

/-- What follows a text, without a separator, belongs to its last part. -/
lemma splitAt_append (plain : separator ∉ back) (cs : List Char) :
    ∃ front last, splitAt separator cs = front ++ [last] ∧
      splitAt separator (cs ++ back) = front ++ [last ++ back] := by
  induction cs with
  | nil => exact ⟨[], [], rfl, splitAt_of_notMem plain⟩
  | cons c cs ih =>
    obtain ⟨front, last, before, after⟩ := ih
    rw [List.cons_append, splitAt, splitAt, before, after]
    cases front with
    | nil =>
      by_cases same : c = separator
      · exact ⟨[[]], last, if_pos same, if_pos same⟩
      · exact ⟨[], c :: last, if_neg same, if_neg same⟩
    | cons part front =>
      by_cases same : c = separator
      · exact ⟨[] :: part :: front, last, if_pos same, if_pos same⟩
      · exact ⟨(c :: part) :: front, last, if_neg same, if_neg same⟩

/-- A part ends at the first separator. -/
lemma splitAt_separator (plain : separator ∉ front) (cs : List Char) :
    splitAt separator (front ++ separator :: cs) = front :: splitAt separator cs := by
  obtain ⟨first, rest, split, whole⟩ := splitAt_append_left plain (separator :: cs)
  obtain ⟨next, others, after⟩ := List.exists_cons_of_ne_nil (splitAt_ne_nil separator cs)
  rw [splitAt, after] at split
  obtain ⟨rfl, rfl⟩ := List.cons.inj ((if_pos rfl).symm.trans split)
  rw [whole, after, List.append_nil]

/-- Blanks around a text do not change its parts, but for the blanks around them. -/
lemma map_trim_splitAt_trim (visible : isBlank separator = false) (cs : List Char) :
    (splitAt separator (trim cs)).map trim = (splitAt separator cs).map trim := by
  obtain ⟨front, back, whole, before, behind⟩ := exists_append_trim cs
  have outside {ds : List Char} (blanks : Blanks ds) : separator ∉ ds := by
    intro mem
    rw [blanks separator mem] at visible
    cases visible
  obtain ⟨init, last, split, split'⟩ := splitAt_append (outside behind) (trim cs)
  obtain ⟨first, rest, inside, outer⟩ := splitAt_append_left (outside before) (trim cs ++ back)
  calc
    (splitAt separator (trim cs)).map trim = (splitAt separator (trim cs ++ back)).map trim := by
      rw [split, split', List.map_append, List.map_append, List.map_singleton, List.map_singleton,
        trim_append_right behind]
    _ = (splitAt separator (front ++ (trim cs ++ back))).map trim := by
      rw [outer, inside, List.map_cons, List.map_cons, trim_append_left before]
    _ = (splitAt separator cs).map trim := by rw [← whole]

end LedgerWatch.Text
