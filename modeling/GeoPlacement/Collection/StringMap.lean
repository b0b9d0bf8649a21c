/-!
# Maps from strings to strings

Labels, annotations and match labels are maps whose written form lists the keys in ascending
order. A `StringMap` keeps its entries in that order, so two maps with the same values at all
keys are equal (`StringMap.ext_get?`), whatever order they were built in.

## Main results

- `StringMap.get?_insert`, `StringMap.get?_erase`: what an update does to every look-up.
- `StringMap.ext_get?`: a map is determined by its look-ups.
- `StringMap.erase_insert`, `StringMap.insert_erase`: of two updates of one key the later counts.
- `StringMap.insert_eq_insert_iff`: two maps with a key set to one value are equal iff they have the
  same values at all other keys.
-/

namespace GeoPlacement

/-- A finite map from strings to strings, its entries in ascending order of their keys. -/
@[ext] structure StringMap where
  entries : List (String × String)
  ascending : entries.Pairwise (fun a b => a.1 < b.1)

namespace StringMap

/-! ### Entries -/

/-- Puts an entry at its place, over an entry of the same key. -/
def insertEntry (key value : String) : List (String × String) → List (String × String)
  | [] => [(key, value)]
  | (other, old) :: rest =>
    if key < other then (key, value) :: (other, old) :: rest
    else if key = other then (key, value) :: rest
    else (other, old) :: insertEntry key value rest

/-- An entry after an insertion is the new one or was there before. -/
theorem mem_insertEntry {key value : String} {entry : String × String}
    {entries : List (String × String)} (h : entry ∈ insertEntry key value entries) :
    entry = (key, value) ∨ entry ∈ entries := by
  induction entries with
  | nil => simpa [insertEntry] using h
  | cons head rest ih => rw [insertEntry] at h; grind

/-- An insertion keeps the order of the keys. -/
theorem ascending_insertEntry (key value : String) {entries : List (String × String)}
    (h : entries.Pairwise (fun a b => a.1 < b.1)) :
    (insertEntry key value entries).Pairwise (fun a b => a.1 < b.1) := by
  induction entries with
  | nil => simp [insertEntry]
  | cons head rest ih =>
    obtain ⟨hhead, hrest⟩ := List.pairwise_cons.1 h
    rw [insertEntry]
    split
    · next hlt =>
      refine List.pairwise_cons.2 ⟨fun entry hmem => ?_, h⟩
      rcases List.mem_cons.1 hmem with rfl | hmem
      · exact hlt
      · exact String.lt_trans hlt (hhead entry hmem)
    · split
      · next heq => exact List.pairwise_cons.2 ⟨fun entry hmem => heq ▸ hhead entry hmem, hrest⟩
      · next hlt hne =>
        refine List.pairwise_cons.2 ⟨fun entry hmem => ?_, ih hrest⟩
        rcases mem_insertEntry hmem with rfl | hmem
        · exact (String.le_total key head.1).elim
            (fun hle => absurd (String.le_antisymm hle (String.not_lt.1 hlt)) hne)
            (fun hle => String.not_le.1 fun hge => hne (String.le_antisymm hge hle))
        · exact hhead entry hmem

/-- The value of a key in a list of entries. -/
def lookup (key : String) : List (String × String) → Option String
  | [] => none
  | (other, value) :: rest => if other = key then some value else lookup key rest

/-- Inserting an entry changes the look-up of its key only. -/
theorem lookup_insertEntry (key value query : String) (entries : List (String × String)) :
    lookup query (insertEntry key value entries) =
      if key = query then some value else lookup query entries := by
  induction entries with
  | nil => simp [insertEntry, lookup]
  | cons head rest ih => rw [insertEntry]; grind [lookup]

/-- Leaving out the entries of a key changes the look-up of that key only. -/
theorem lookup_filter_ne (key query : String) (entries : List (String × String)) :
    lookup query (entries.filter (·.1 ≠ key)) =
      if key = query then none else lookup query entries := by
  induction entries with
  | nil => simp [lookup]
  | cons head rest ih => grind [lookup]

/-- A key before all others is not found. -/
theorem lookup_eq_none_of_lt {query : String} {entries : List (String × String)}
    (h : ∀ entry ∈ entries, query < entry.1) : lookup query entries = none := by
  induction entries with
  | nil => rfl
  | cons head rest ih =>
    have hne : head.1 ≠ query := fun heq =>
      String.lt_irrefl query (heq ▸ h head List.mem_cons_self)
    rw [lookup, if_neg hne]
    exact ih fun entry hmem => h entry (List.mem_cons_of_mem _ hmem)

/-- Ascending lists of entries with the same look-ups are equal. -/
theorem eq_of_lookup_eq {a b : List (String × String)}
    (ha : a.Pairwise (fun x y => x.1 < y.1)) (hb : b.Pairwise (fun x y => x.1 < y.1))
    (h : ∀ key, lookup key a = lookup key b) : a = b := by
  induction a generalizing b with
  | nil =>
    cases b with
    | nil => rfl
    | cons head rest => simpa [lookup] using h head.1
  | cons x xs ih =>
    obtain ⟨hx, hxs⟩ := List.pairwise_cons.1 ha
    cases b with
    | nil => simpa [lookup] using h x.1
    | cons y ys =>
      obtain ⟨hy, hys⟩ := List.pairwise_cons.1 hb
      have hxy : x.1 = y.1 := by
        apply String.le_antisymm
        · refine String.not_lt.1 fun hlt => ?_
          have hnone : lookup y.1 (x :: xs) = none :=
            lookup_eq_none_of_lt fun entry hmem => by
              rcases List.mem_cons.1 hmem with rfl | hmem
              · exact hlt
              · exact String.lt_trans hlt (hx entry hmem)
          have hsome := h y.1
          rw [hnone] at hsome
          simp [lookup] at hsome
        · refine String.not_lt.1 fun hlt => ?_
          have hnone : lookup x.1 (y :: ys) = none :=
            lookup_eq_none_of_lt fun entry hmem => by
              rcases List.mem_cons.1 hmem with rfl | hmem
              · exact hlt
              · exact String.lt_trans hlt (hy entry hmem)
          have hsome := h x.1
          rw [hnone] at hsome
          simp [lookup] at hsome
      have hvalue : x.2 = y.2 := by simpa [lookup, hxy] using h x.1
      have hrest : xs = ys := by
        refine ih hxs hys fun key => ?_
        by_cases hkey : x.1 = key
        · subst hkey
          rw [lookup_eq_none_of_lt hx, lookup_eq_none_of_lt (hxy ▸ hy)]
        · have hkey' : y.1 ≠ key := hxy ▸ hkey
          have := h key
          rwa [lookup, lookup, if_neg hkey, if_neg hkey'] at this
      rw [hrest, show x = y from Prod.ext hxy hvalue]

/-! ### Maps -/

/-- The map without entries. -/
def empty : StringMap := ⟨[], List.Pairwise.nil⟩

instance : Inhabited StringMap := ⟨empty⟩

instance : DecidableEq StringMap := fun a b =>
  decidable_of_iff (a.entries = b.entries) StringMap.ext_iff.symm

/-- The value of a key. -/
def get? (m : StringMap) (key : String) : Option String :=
  lookup key m.entries

/-- Sets the value of a key. -/
def insert (m : StringMap) (key value : String) : StringMap :=
  ⟨insertEntry key value m.entries, ascending_insertEntry key value m.ascending⟩

/-- Removes a key. -/
def erase (m : StringMap) (key : String) : StringMap :=
  ⟨m.entries.filter (·.1 ≠ key), m.ascending.filter _⟩

/-- The map of a list of entries; of two entries with one key the later counts. -/
def ofList (entries : List (String × String)) : StringMap :=
  entries.foldl (fun m entry => m.insert entry.1 entry.2) empty

/-- **An insertion** sets the value of its key and no other. -/
theorem get?_insert (m : StringMap) (key value query : String) :
    (m.insert key value).get? query = if key = query then some value else m.get? query :=
  lookup_insertEntry key value query m.entries

/-- **An erasure** takes away the value of its key and no other. -/
theorem get?_erase (m : StringMap) (key query : String) :
    (m.erase key).get? query = if key = query then none else m.get? query :=
  lookup_filter_ne key query m.entries

/-- **Extensionality**: a map is determined by its look-ups. -/
theorem ext_get? {a b : StringMap} (h : ∀ key, a.get? key = b.get? key) : a = b :=
  StringMap.ext (eq_of_lookup_eq a.ascending b.ascending h)

/-- A value that is erased again leaves no trace. -/
theorem erase_insert (m : StringMap) (key value : String) :
    (m.insert key value).erase key = m.erase key :=
  ext_get? fun query => by grind [get?_insert, get?_erase]

/-- Erasing a key a second time changes nothing. -/
theorem erase_erase (m : StringMap) (key : String) : (m.erase key).erase key = m.erase key :=
  ext_get? fun query => by grind [get?_erase]

/-- What is erased before its key is set makes no difference. -/
theorem insert_erase (m : StringMap) (key value : String) :
    (m.erase key).insert key value = m.insert key value :=
  ext_get? fun query => by grind [get?_insert, get?_erase]

/-- Erasing a key leaves of two maps the same iff they have the same values at all other keys. -/
theorem erase_eq_erase_iff {a b : StringMap} {key : String} :
    a.erase key = b.erase key ↔ ∀ query, query ≠ key → a.get? query = b.get? query := by
  constructor
  · intro h query hne
    have hquery := congrArg (·.get? query) h
    simpa only [get?_erase, if_neg hne.symm] using hquery
  · intro h
    refine ext_get? fun query => ?_
    rw [get?_erase, get?_erase]
    split
    · rfl
    · next hne => exact h query (Ne.symm hne)

/-- So does setting the key to one value. -/
theorem insert_eq_insert_iff {a b : StringMap} {key value : String} :
    a.insert key value = b.insert key value ↔
      ∀ query, query ≠ key → a.get? query = b.get? query := by
  rw [← erase_eq_erase_iff]
  constructor
  · intro h
    rw [← erase_insert a key value, h, erase_insert]
  · intro h
    rw [← insert_erase a key value, h, insert_erase]

end StringMap

end GeoPlacement
