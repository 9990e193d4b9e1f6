/-!
# Tables

Finite maps from strings, held as their entries in strictly ascending key order (by code point).
Two tables with the same entries are equal, and the order of the entries is the order in which
they are listed.
-/

namespace LedgerWatch

/-- Puts a value under a key into entries that ascend by key, replacing what the key had. -/
def insertEntry {α : Type} (key : String) (value : α) : List (String × α) → List (String × α)
  | [] => [(key, value)]
  | (k, v) :: rest =>
    if key < k then (key, value) :: (k, v) :: rest
    else if key = k then (key, value) :: rest
    else (k, v) :: insertEntry key value rest

/-- The entries ascend strictly by key. -/
def Ascending {α : Type} (entries : List (String × α)) : Prop :=
  entries.Pairwise fun a b => a.1 < b.1

theorem mem_insertEntry {α : Type} {key : String} {value : α} {entries : List (String × α)}
    {e : String × α} (h : e ∈ insertEntry key value entries) : e = (key, value) ∨ e ∈ entries := by
  induction entries with
  | nil => simpa [insertEntry] using h
  | cons head rest ih =>
    obtain ⟨k, v⟩ := head
    simp only [insertEntry] at h
    split at h
    · simpa using h
    · split at h
      · rcases List.mem_cons.1 h with h | h
        · exact .inl h
        · exact .inr (List.mem_cons_of_mem _ h)
      · rcases List.mem_cons.1 h with h | h
        · exact .inr (h ▸ List.mem_cons_self)
        · exact (ih h).imp_right (List.mem_cons_of_mem _)

theorem Ascending.insertEntry {α : Type} {entries : List (String × α)} (h : Ascending entries)
    (key : String) (value : α) : Ascending (insertEntry key value entries) := by
  induction entries with
  | nil => simp [Ascending, LedgerWatch.insertEntry]
  | cons head rest ih =>
    obtain ⟨k, v⟩ := head
    have hr := List.pairwise_cons.1 h
    simp only [LedgerWatch.insertEntry]
    split
    · rename_i hlt
      refine List.pairwise_cons.2 ⟨fun e he => ?_, h⟩
      rcases List.mem_cons.1 he with rfl | he
      · exact hlt
      · exact String.lt_trans hlt (hr.1 e he)
    · rename_i hge
      split
      · rename_i heq
        subst heq
        exact List.pairwise_cons.2 ⟨fun e he => hr.1 e he, hr.2⟩
      · rename_i hne
        refine List.pairwise_cons.2 ⟨fun e he => ?_, ih hr.2⟩
        rcases mem_insertEntry he with rfl | he
        · rcases Std.Total.total (r := (· ≤ · : String → String → Prop)) k key with hle | hle
          · exact Decidable.byContradiction fun hnlt =>
              hne (String.le_antisymm (String.not_lt.1 hnlt) hle)
          · exact absurd (String.le_antisymm hle (String.not_lt.1 hge)) (fun e => hne e)
        · exact hr.1 e he

theorem Ascending.filter {α : Type} {entries : List (String × α)} (h : Ascending entries)
    (p : String × α → Bool) : Ascending (entries.filter p) :=
  List.Pairwise.filter p h

theorem lookup_cons {α : Type} (other key : String) (value : α) (entries : List (String × α)) :
    ((key, value) :: entries).lookup other
      = if other = key then some value else entries.lookup other := by
  rw [List.lookup_cons]
  by_cases h : other = key
  · simp [h]
  · have hb : (other == key) = false := by simpa using h
    simp [hb, h]

theorem lookup_insertEntry {α : Type} (key other : String) (value : α)
    (entries : List (String × α)) :
    (insertEntry key value entries).lookup other
      = if other = key then some value else entries.lookup other := by
  induction entries with
  | nil => simp [insertEntry, lookup_cons]
  | cons head rest ih =>
    obtain ⟨k, v⟩ := head
    simp only [insertEntry]
    split
    · simp [lookup_cons]
    · split
      · rename_i h
        subst h
        by_cases h : other = key <;> simp [lookup_cons, h]
      · rename_i h
        by_cases hk : other = k
        · subst hk
          simp [Ne.symm h]
        · simp [lookup_cons, hk, ih]

theorem lookup_filter_ne {α : Type} (key other : String) (entries : List (String × α)) :
    (entries.filter fun e => e.1 != key).lookup other
      = if other = key then none else entries.lookup other := by
  induction entries with
  | nil => simp
  | cons head rest ih =>
    obtain ⟨k, v⟩ := head
    by_cases hk : k = key
    · subst hk
      rw [List.filter_cons_of_neg (by simp), ih, lookup_cons]
      by_cases h : other = k <;> simp [h]
    · rw [List.filter_cons_of_pos (by simpa using hk), lookup_cons, lookup_cons, ih]
      by_cases h : other = k
      · subst h
        simp [hk]
      · simp [h]

/-- Each entry is found under its key. -/
theorem Ascending.lookup_eq_some_iff {α : Type} {entries : List (String × α)}
    (h : Ascending entries) {key : String} {value : α} :
    entries.lookup key = some value ↔ (key, value) ∈ entries := by
  induction entries with
  | nil => simp
  | cons head rest ih =>
    obtain ⟨k, v⟩ := head
    have hr := List.pairwise_cons.1 h
    rw [lookup_cons, List.mem_cons]
    by_cases hk : key = k
    · subst hk
      have absent : (key, value) ∉ rest := fun mem => absurd (hr.1 _ mem) (String.lt_irrefl key)
      simp [absent, eq_comm]
    · simp [hk, ih hr.2]

/-- A finite map from strings. -/
structure Table (α : Type) where
  /-- The keys and their values. -/
  entries : List (String × α)
  /-- Every key stands once, in ascending order. -/
  ascending : Ascending entries

namespace Table

variable {α : Type}

/-- The table without entries. -/
def empty : Table α :=
  ⟨[], List.Pairwise.nil⟩

instance : Inhabited (Table α) :=
  ⟨empty⟩

instance [DecidableEq α] : DecidableEq (Table α) := fun a b =>
  decidable_of_iff (a.entries = b.entries)
    ⟨fun h => by cases a; cases b; cases h; rfl, fun h => h ▸ rfl⟩

/-- The value under a key. -/
def get? (t : Table α) (key : String) : Option α :=
  t.entries.lookup key

/-- Whether a key has a value. -/
def contains (t : Table α) (key : String) : Bool :=
  (t.get? key).isSome

/-- Puts a value under a key, replacing what the key had. -/
def insert (t : Table α) (key : String) (value : α) : Table α :=
  ⟨insertEntry key value t.entries, t.ascending.insertEntry key value⟩

/-- Takes a key and its value out. -/
def erase (t : Table α) (key : String) : Table α :=
  ⟨t.entries.filter fun e => e.1 != key, t.ascending.filter _⟩

/-- The keys in ascending order. -/
def keys (t : Table α) : List String :=
  t.entries.map Prod.fst

/-- The values in the order of their keys. -/
def values (t : Table α) : List α :=
  t.entries.map Prod.snd

/-- How many keys there are. -/
def size (t : Table α) : Nat :=
  t.entries.length

/-- What a key has is one of the entries. -/
theorem get?_eq_some_iff (t : Table α) {key : String} {value : α} :
    t.get? key = some value ↔ (key, value) ∈ t.entries :=
  t.ascending.lookup_eq_some_iff

@[simp] theorem get?_empty (key : String) : (empty : Table α).get? key = none :=
  rfl

/-- A key that was just written answers with the new value, every other key as before. -/
theorem get?_insert (t : Table α) (key other : String) (value : α) :
    (t.insert key value).get? other = if other = key then some value else t.get? other :=
  lookup_insertEntry key other value t.entries

@[simp] theorem get?_insert_self (t : Table α) (key : String) (value : α) :
    (t.insert key value).get? key = some value := by
  simp [get?_insert]

/-- A key that was taken out has no value, every other key the one that it had. -/
theorem get?_erase (t : Table α) (key other : String) :
    (t.erase key).get? other = if other = key then none else t.get? other :=
  lookup_filter_ne key other t.entries

@[simp] theorem get?_erase_self (t : Table α) (key : String) : (t.erase key).get? key = none := by
  simp [get?_erase]

/-- The table that lists of entries build from the left: later entries replace earlier ones. -/
def ofList (entries : List (String × α)) : Table α :=
  entries.foldl (fun t e => t.insert e.1 e.2) empty

end Table

end LedgerWatch
