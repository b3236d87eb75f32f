/-!
# Model tables

A model table maps the key of a device family to the name of the firmware model built for it.
Each key appears once: putting a key that is already there replaces its value, so of two entries
for one key in a document the later one wins. The size of a table is its number of keys.
-/

namespace FirmwareRedirect

/-- A table from device-family keys to firmware model names, each key at most once. -/
structure ModelTable where
  /-- The entries, in no particular order. -/
  entries : List (String × String)
  /-- No key appears twice. -/
  keys_nodup : (entries.map Prod.fst).Nodup

namespace ModelTable

/-- The table with no entries. -/
def empty : ModelTable := ⟨[], List.nodup_nil⟩

/-- The value stored for a key, if any. -/
def get? (t : ModelTable) (k : String) : Option String :=
  (t.entries.find? (·.1 == k)).map (·.2)

/-- Whether a key has an entry. -/
def contains (t : ModelTable) (k : String) : Bool := (t.get? k).isSome

/-- The table with `k` mapped to `v`, replacing any earlier value of `k`. -/
def insert (t : ModelTable) (k v : String) : ModelTable where
  entries := (k, v) :: t.entries.filter (·.1 != k)
  keys_nodup := by
    have hsub : ((t.entries.filter (·.1 != k)).map Prod.fst).Sublist (t.entries.map Prod.fst) :=
      List.filter_sublist.map Prod.fst
    simp only [List.map_cons, List.nodup_cons]
    refine ⟨?_, t.keys_nodup.sublist hsub⟩
    simp

/-- The number of keys. -/
def size (t : ModelTable) : Nat := t.entries.length

/-- Whether the table has no entries. -/
def isEmpty (t : ModelTable) : Bool := t.entries.isEmpty

/-- The table of a list of entries, where a later entry for a key replaces an earlier one. -/
def ofList (kvs : List (String × String)) : ModelTable :=
  kvs.foldl (fun t kv => t.insert kv.1 kv.2) empty

@[simp] theorem get?_empty (k : String) : empty.get? k = none := rfl

/-- Dropping the entries of another key does not change what a lookup finds. -/
theorem find?_filter_ne (l : List (String × String)) {k k' : String} (h : k ≠ k') :
    (l.filter (·.1 != k)).find? (·.1 == k') = l.find? (·.1 == k') := by
  have hk : (k == k') = false := by simp [h]
  induction l with
  | nil => rfl
  | cons e es ih =>
    by_cases he : e.1 = k
    · simp [he, hk, ih]
    · by_cases he' : e.1 = k'
      · simp [he', Ne.symm h]
      · simp [he, he', ih]

/-- Looking up a key after `insert` sees the new value for that key and the old table for the
others. -/
@[simp] theorem get?_insert (t : ModelTable) (k v k' : String) :
    (t.insert k v).get? k' = if k = k' then some v else t.get? k' := by
  by_cases h : k = k'
  · subst h; simp [insert, get?]
  · simp [insert, get?, h, find?_filter_ne _ h]

end ModelTable

end FirmwareRedirect
