set_option autoImplicit false

/-! # Tables ordered by key

A finite table from texts to values whose entries stand in strictly ascending order of their
keys, by code points. `get?_insert` says what writing does to reading, `mem_entries_iff` that
the entries are just what can be read, and `ext_get?` that a table is no more than what can be
read from it, so the order of writing leaves no mark. -/

namespace KernelTyping

/-- A finite table from texts to values, in ascending order of the keys. -/
structure Table (α : Type) where
  entries : List (String × α)
  ascending : entries.Pairwise fun a b => a.1 < b.1

namespace Table

variable {α : Type}

/-- The table without entries. -/
def empty : Table α := ⟨[], .nil⟩

/-- The value of a key. -/
def get? (t : Table α) (key : String) : Option α := t.entries.lookup key

/-- Whether a key has a value. -/
def contains (t : Table α) (key : String) : Bool := (t.get? key).isSome

/-- The keys in ascending order. -/
def keys (t : Table α) : List String := t.entries.map Prod.fst

/-- The number of entries. -/
def size (t : Table α) : Nat := t.entries.length

/-- Whether the table has no entries. -/
def isEmpty (t : Table α) : Bool := t.entries.isEmpty

/-! ## Writing -/

/-- Puts an entry in its place in an ascending list, instead of one of the same key. -/
def insertEntry (key : String) (value : α) : List (String × α) → List (String × α)
  | [] => [(key, value)]
  | (k, v) :: rest =>
    if key < k then (key, value) :: (k, v) :: rest
    else if key = k then (key, value) :: rest
    else (k, v) :: insertEntry key value rest

theorem mem_insertEntry {key : String} {value : α} {entry : String × α}
    {entries : List (String × α)} (h : entry ∈ insertEntry key value entries) :
    entry = (key, value) ∨ entry ∈ entries := by
  induction entries with
  | nil => simpa [insertEntry] using h
  | cons head rest ih =>
    obtain ⟨k, v⟩ := head
    rw [insertEntry] at h
    split at h
    · simpa using h
    · split at h
      · rcases List.mem_cons.1 h with h | h
        · exact .inl h
        · exact .inr (List.mem_cons_of_mem _ h)
      · rcases List.mem_cons.1 h with h | h
        · exact .inr (h ▸ List.mem_cons_self)
        · exact (ih h).imp_right (List.mem_cons_of_mem _)

theorem insertEntry_ascending (key : String) (value : α) {entries : List (String × α)}
    (h : entries.Pairwise fun a b => a.1 < b.1) :
    (insertEntry key value entries).Pairwise fun a b => a.1 < b.1 := by
  induction entries with
  | nil => simp [insertEntry]
  | cons head rest ih =>
    obtain ⟨k, v⟩ := head
    obtain ⟨hhead, hrest⟩ := List.pairwise_cons.1 h
    rw [insertEntry]
    split
    case isTrue hlt =>
      refine List.pairwise_cons.2 ⟨fun entry hmem => ?_, h⟩
      rcases List.mem_cons.1 hmem with rfl | hmem
      · exact hlt
      · exact String.lt_trans hlt (hhead entry hmem)
    case isFalse hlt =>
      split
      case isTrue heq => exact List.pairwise_cons.2 ⟨heq ▸ hhead, hrest⟩
      case isFalse hne =>
        refine List.pairwise_cons.2 ⟨fun entry hmem => ?_, ih hrest⟩
        rcases mem_insertEntry hmem with rfl | hmem
        · exact Decidable.of_not_not fun hge =>
            hne (String.le_antisymm (String.not_lt.1 hge) (String.not_lt.1 hlt))
        · exact hhead entry hmem

/-- The table with the value of one key replaced or added. -/
def insert (t : Table α) (key : String) (value : α) : Table α :=
  ⟨insertEntry key value t.entries, insertEntry_ascending key value t.ascending⟩

/-- The table with one more entry, unless the key has a value already. -/
def insertNew (t : Table α) (key : String) (value : α) : Table α :=
  if t.contains key then t else t.insert key value

/-- The table of a list of entries, the last one of each key. -/
def ofList (entries : List (String × α)) : Table α :=
  entries.foldl (fun t entry => t.insert entry.1 entry.2) empty

/-! ## Reading after writing -/

@[simp] theorem get?_empty (key : String) : (empty : Table α).get? key = none := rfl

theorem lookup_cons_pair (key : String) (value : α) (rest : List (String × α))
    (other : String) :
    List.lookup other ((key, value) :: rest) =
      if other = key then some value else rest.lookup other := by
  by_cases h : other = key
  · simp [h]
  · simp [List.lookup_cons, beq_eq_false_iff_ne.2 h, h]

theorem lookup_insertEntry (key : String) (value : α) (entries : List (String × α))
    (other : String) :
    (insertEntry key value entries).lookup other =
      if other = key then some value else entries.lookup other := by
  induction entries with
  | nil => rw [insertEntry, lookup_cons_pair]
  | cons head rest ih =>
    obtain ⟨k, v⟩ := head
    rw [insertEntry]
    split
    · rw [lookup_cons_pair]
    · split
      case isTrue heq =>
        subst heq
        rw [lookup_cons_pair, lookup_cons_pair]
        by_cases h : other = key <;> simp [h]
      case isFalse hne =>
        rw [lookup_cons_pair, lookup_cons_pair, ih]
        by_cases h : other = key
        · simp [h, hne]
        · simp [h]

theorem get?_insert (t : Table α) (key : String) (value : α) (other : String) :
    (t.insert key value).get? other = if other = key then some value else t.get? other :=
  lookup_insertEntry key value t.entries other

/-- Writing under a new key adds one entry and keeps the others. -/
theorem get?_insert_eq_some_iff {t : Table α} {key : String} (h : t.contains key = false)
    (value : α) (other : String) (found : α) :
    (t.insert key value).get? other = some found ↔
      (other = key ∧ found = value) ∨ t.get? other = some found := by
  rw [get?_insert]
  by_cases hkey : other = key
  · have hnone : t.get? key = none := Option.isSome_eq_false_iff.1 h |> Option.isNone_iff_eq_none.1
    simp [hkey, hnone, eq_comm]
  · simp [hkey]

theorem get?_insertNew (t : Table α) (key : String) (value : α) (other : String) :
    (t.insertNew key value).get? other =
      (t.get? other).or (if other = key then some value else none) := by
  unfold insertNew contains
  by_cases hkey : other = key
  · subst hkey
    cases h : t.get? other <;> simp [h, get?_insert]
  · cases t.get? key <;> simp [get?_insert, hkey]

theorem contains_iff (t : Table α) (key : String) :
    t.contains key = true ↔ ∃ value, t.get? key = some value := by
  rw [contains, Option.isSome_iff_exists]

/-! ## Entries -/

theorem lookup_of_mem {key : String} {value : α} {entries : List (String × α)}
    (hkeys : (entries.map Prod.fst).Nodup) (h : (key, value) ∈ entries) :
    entries.lookup key = some value := by
  induction entries with
  | nil => simp at h
  | cons head rest ih =>
    obtain ⟨k, v⟩ := head
    obtain ⟨hhead, hrest⟩ := List.nodup_cons.1 hkeys
    rw [List.lookup_cons]
    rcases List.mem_cons.1 h with h | h
    · obtain ⟨rfl, rfl⟩ := Prod.mk.inj h
      simp
    · have hmem : key ∈ rest.map Prod.fst := List.mem_map_of_mem h
      have hne : (key == k) = false := beq_eq_false_iff_ne.2 fun heq => hhead (heq ▸ hmem)
      simp [hne, ih hrest h]

theorem mem_of_lookup {key : String} {value : α} {entries : List (String × α)}
    (h : entries.lookup key = some value) : (key, value) ∈ entries := by
  induction entries with
  | nil => simp at h
  | cons head rest ih =>
    obtain ⟨k, v⟩ := head
    rw [List.lookup_cons] at h
    split at h
    case h_1 heq =>
      obtain rfl := eq_of_beq heq
      obtain rfl := Option.some.inj h
      exact List.mem_cons_self
    case h_2 => exact List.mem_cons_of_mem _ (ih h)

/-- In a list with distinct keys the entries are just what can be looked up. -/
theorem lookup_eq_some_iff_mem {entries : List (String × α)}
    (hkeys : (entries.map Prod.fst).Nodup) (key : String) (value : α) :
    entries.lookup key = some value ↔ (key, value) ∈ entries :=
  ⟨mem_of_lookup, lookup_of_mem hkeys⟩

theorem pairwise_keys (t : Table α) : t.keys.Pairwise fun a b => a < b :=
  List.pairwise_map.2 t.ascending

theorem nodup_keys (t : Table α) : t.keys.Nodup := by
  refine t.pairwise_keys.imp ?_
  rintro a _ hlt rfl
  exact String.lt_irrefl a hlt

/-- The entries are just what can be read from the table. -/
theorem mem_entries_iff (t : Table α) (key : String) (value : α) :
    (key, value) ∈ t.entries ↔ t.get? key = some value :=
  (lookup_eq_some_iff_mem t.nodup_keys key value).symm

theorem mem_keys_iff (t : Table α) (key : String) : key ∈ t.keys ↔ t.contains key = true := by
  rw [contains_iff, keys, List.mem_map]
  constructor
  · rintro ⟨entry, hmem, rfl⟩
    exact ⟨entry.2, (t.mem_entries_iff entry.1 entry.2).1 hmem⟩
  · rintro ⟨value, hvalue⟩
    exact ⟨(key, value), (t.mem_entries_iff key value).2 hvalue, rfl⟩

theorem entries_eq_of_mem_iff {xs ys : List (String × α)}
    (hx : xs.Pairwise fun a b => a.1 < b.1) (hy : ys.Pairwise fun a b => a.1 < b.1)
    (h : ∀ entry, entry ∈ xs ↔ entry ∈ ys) : xs = ys := by
  induction xs generalizing ys with
  | nil =>
    cases ys with
    | nil => rfl
    | cons y ys => exact absurd ((h y).2 List.mem_cons_self) List.not_mem_nil
  | cons x xs ih =>
    cases ys with
    | nil => exact absurd ((h x).1 List.mem_cons_self) List.not_mem_nil
    | cons y ys =>
      obtain ⟨hxhead, hxrest⟩ := List.pairwise_cons.1 hx
      obtain ⟨hyhead, hyrest⟩ := List.pairwise_cons.1 hy
      have hxy : x = y := by
        rcases List.mem_cons.1 ((h x).1 List.mem_cons_self) with heq | hmem
        · exact heq
        · rcases List.mem_cons.1 ((h y).2 List.mem_cons_self) with heq | hmem'
          · exact heq.symm
          · exact absurd (String.lt_trans (hyhead x hmem) (hxhead y hmem')) (String.lt_irrefl _)
      subst hxy
      congr 1
      refine ih hxrest hyrest fun entry => ⟨fun hmem => ?_, fun hmem => ?_⟩
      · rcases List.mem_cons.1 ((h entry).1 (List.mem_cons_of_mem _ hmem)) with rfl | hmem'
        · exact absurd (hxhead _ hmem) (String.lt_irrefl _)
        · exact hmem'
      · rcases List.mem_cons.1 ((h entry).2 (List.mem_cons_of_mem _ hmem)) with rfl | hmem'
        · exact absurd (hyhead _ hmem) (String.lt_irrefl _)
        · exact hmem'

/-- Tables that read alike are the same table. -/
theorem ext_get? {t u : Table α} (h : ∀ key, t.get? key = u.get? key) : t = u := by
  have hentries : t.entries = u.entries :=
    entries_eq_of_mem_iff t.ascending u.ascending fun entry => by
      rw [mem_entries_iff, mem_entries_iff, h]
  obtain ⟨_, _⟩ := t
  obtain ⟨_, _⟩ := u
  cases hentries
  rfl

end Table

end KernelTyping
