/-!
# Tables

A `Table κ α` holds at most one value for each key and lists its entries in the order in which
their keys first came in; setting a key that is there changes its value in place. It is the
container of everything the operator and the simulated cluster keep by key.

## Main results

- `Table.get?_insert`, `Table.get?_erase`: what an update does to every look-up.
- `Table.mem_entries_iff`: the entries are exactly what the look-ups answer.
-/

namespace GeoPlacement

/-- A finite table with one entry for each of its keys. -/
@[ext] structure Table (κ α : Type) where
  entries : List (κ × α)
  distinct : (entries.map Prod.fst).Nodup

namespace Table

variable {κ α : Type} [DecidableEq κ]

/-! ### Entries -/

/-- Sets a key in place, or at the end if it is new. -/
def setEntry (key : κ) (value : α) : List (κ × α) → List (κ × α)
  | [] => [(key, value)]
  | (other, old) :: rest =>
    if other = key then (key, value) :: rest else (other, old) :: setEntry key value rest

/-- A key after an entry was set is its own or was there before. -/
theorem mem_keys_setEntry {key query : κ} {value : α} {entries : List (κ × α)}
    (h : query ∈ (setEntry key value entries).map Prod.fst) :
    query = key ∨ query ∈ entries.map Prod.fst := by
  induction entries with
  | nil => simpa [setEntry] using h
  | cons head rest ih => rw [setEntry] at h; grind

/-- Setting an entry keeps the keys distinct. -/
theorem distinct_setEntry (key : κ) (value : α) {entries : List (κ × α)}
    (h : (entries.map Prod.fst).Nodup) : ((setEntry key value entries).map Prod.fst).Nodup := by
  induction entries with
  | nil => simp [setEntry]
  | cons head rest ih =>
    rw [List.map_cons, List.nodup_cons] at h
    rw [setEntry]
    split
    · next heq => rw [List.map_cons, List.nodup_cons]; exact ⟨heq ▸ h.1, h.2⟩
    · next hne =>
      rw [List.map_cons, List.nodup_cons]
      refine ⟨fun hmem => ?_, ih h.2⟩
      rcases mem_keys_setEntry hmem with heq | hmem
      · exact hne heq
      · exact h.1 hmem

/-- The value of a key in a list of entries. -/
def lookup (key : κ) : List (κ × α) → Option α
  | [] => none
  | (other, value) :: rest => if other = key then some value else lookup key rest

/-- Setting an entry changes the look-up of its key only. -/
theorem lookup_setEntry (key query : κ) (value : α) (entries : List (κ × α)) :
    lookup query (setEntry key value entries) =
      if key = query then some value else lookup query entries := by
  induction entries with
  | nil => simp [setEntry, lookup]
  | cons head rest ih => rw [setEntry]; grind [lookup]

/-- Leaving out the entries of a key changes the look-up of that key only. -/
theorem lookup_filter_ne (key query : κ) (entries : List (κ × α)) :
    lookup query (entries.filter (·.1 ≠ key)) =
      if key = query then none else lookup query entries := by
  induction entries with
  | nil => simp [lookup]
  | cons head rest ih => grind [lookup]

/-- Where keys are distinct, the entries are those that are found. -/
theorem mem_iff_lookup {entries : List (κ × α)} (h : (entries.map Prod.fst).Nodup) (key : κ)
    (value : α) : (key, value) ∈ entries ↔ lookup key entries = some value := by
  induction entries with
  | nil => simp [lookup]
  | cons head rest ih =>
    rw [List.map_cons, List.nodup_cons] at h
    have hhead : ∀ v, head.1 = key → (key, v) ∉ rest := fun v heq hmem =>
      h.1 (heq ▸ List.mem_map_of_mem (f := Prod.fst) hmem)
    have := ih h.2
    grind [lookup]

/-! ### Tables -/

/-- The table without entries. -/
def empty : Table κ α := ⟨[], List.nodup_nil⟩

instance : Inhabited (Table κ α) := ⟨empty⟩

/-- The value of a key. -/
def get? (t : Table κ α) (key : κ) : Option α :=
  lookup key t.entries

/-- Whether a key has a value. -/
def contains (t : Table κ α) (key : κ) : Bool :=
  (t.get? key).isSome

/-- Sets the value of a key. -/
def insert (t : Table κ α) (key : κ) (value : α) : Table κ α :=
  ⟨setEntry key value t.entries, distinct_setEntry key value t.distinct⟩

/-- Removes a key. -/
def erase (t : Table κ α) (key : κ) : Table κ α :=
  ⟨t.entries.filter (·.1 ≠ key), t.distinct.sublist ((List.filter_sublist).map _)⟩

/-- The values, in the order of their keys. -/
def values (t : Table κ α) : List α :=
  t.entries.map Prod.snd

/-- Nothing is found in the empty table. -/
@[simp] theorem get?_empty (key : κ) : (empty : Table κ α).get? key = none := rfl

/-- **An insertion** sets the value of its key and no other. -/
theorem get?_insert (t : Table κ α) (key query : κ) (value : α) :
    (t.insert key value).get? query = if key = query then some value else t.get? query :=
  lookup_setEntry key query value t.entries

/-- **An erasure** takes away the value of its key and no other. -/
theorem get?_erase (t : Table κ α) (key query : κ) :
    (t.erase key).get? query = if key = query then none else t.get? query :=
  lookup_filter_ne key query t.entries

/-- The entries of a table are exactly its look-ups. -/
theorem mem_entries_iff (t : Table κ α) (key : κ) (value : α) :
    (key, value) ∈ t.entries ↔ t.get? key = some value :=
  mem_iff_lookup t.distinct key value

end Table

end GeoPlacement
