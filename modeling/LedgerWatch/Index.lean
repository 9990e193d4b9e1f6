/-!
# Indexes

A finite map that remembers what was put under each key last: a list of entries, the newest first.
-/

namespace LedgerWatch

/-- A finite map, as the entries that were put into it, the newest first. -/
structure Index (κ ν : Type) where
  entries : List (κ × ν) := []

namespace Index

variable {κ ν : Type} [DecidableEq κ]

instance : Inhabited (Index κ ν) :=
  ⟨{}⟩

/-- Puts a value under a key. -/
def insert (index : Index κ ν) (key : κ) (value : ν) : Index κ ν :=
  ⟨(key, value) :: index.entries⟩

/-- The value that was put under a key last. -/
def get? (index : Index κ ν) (key : κ) : Option ν :=
  index.entries.lookup key

@[simp] theorem get?_empty (key : κ) : ({} : Index κ ν).get? key = none :=
  rfl

/-- A key that was just written answers with the new value, every other key as before. -/
theorem get?_insert (index : Index κ ν) (key other : κ) (value : ν) :
    (index.insert key value).get? other = if other = key then some value else index.get? other := by
  show ((key, value) :: index.entries).lookup other = _
  rw [List.lookup_cons]
  by_cases h : other = key
  · simp [h]
  · have hb : (other == key) = false := by simpa using h
    simp [get?, h, hb]

@[simp] theorem get?_insert_self (index : Index κ ν) (key : κ) (value : ν) :
    (index.insert key value).get? key = some value := by
  simp [get?_insert]

end Index

end LedgerWatch
