/-!
# Ordered maps

A map that remembers the order in which its keys were first inserted. Inserting under a key that
is present replaces the value and leaves the key where it is. The order of a theme's tokens, of a
listing and of a configuration's entries is the order of such a map.

## Main Definitions

* `OrderedMap` — entries with pairwise distinct keys
* `OrderedMap.insert`, `OrderedMap.erase`, `OrderedMap.ofList` — construction
* `OrderedMap.find?`, `OrderedMap.contains` — look-up

## Main Statements

* `OrderedMap.keys_insert` — a new key is added at the end, a present one keeps its place
* `OrderedMap.find?_insert`, `OrderedMap.find?_erase` — what is found after an insertion, and after
  a removal
* `OrderedMap.find?_eq_some_iff` — what is found is what stands in the entries
* `OrderedMap.keys_foldl_insert`, `OrderedMap.find?_foldl_insert` — the keys of entries that are
  inserted one after the other, and what is found under them
* `OrderedMap.ofList_entries` — the entries give the map back
-/

namespace DesignTokens

universe u v

/-- Entries in the order of insertion, no two of them with the same key. -/
structure OrderedMap (κ : Type u) (α : Type v) where
  /-- The entries, oldest key first. -/
  entries : List (κ × α)
  /-- No key occurs twice. -/
  nodup_keys : (entries.map Prod.fst).Nodup

namespace OrderedMap

variable {κ : Type u} {α : Type v} [DecidableEq κ]

/-- The entries with one of them replaced or added at the end. -/
def insertInto (key : κ) (value : α) : List (κ × α) → List (κ × α)
  | [] => [(key, value)]
  | entry :: rest =>
    if entry.1 = key then (key, value) :: rest else entry :: insertInto key value rest

theorem map_fst_insertInto (key : κ) (value : α) (entries : List (κ × α)) :
    (insertInto key value entries).map Prod.fst =
      if key ∈ entries.map Prod.fst then entries.map Prod.fst
      else entries.map Prod.fst ++ [key] := by
  induction entries with
  | nil => simp [insertInto]
  | cons entry rest ih =>
    by_cases h : entry.1 = key
    · simp [insertInto, h]
    · have h' : key ≠ entry.1 := fun e => h e.symm
      by_cases hk : key ∈ rest.map Prod.fst
      · simp only [insertInto, h, if_false, List.map_cons, ih, hk, if_true, List.mem_cons, or_true]
      · simp only [insertInto, h, if_false, List.map_cons, ih, hk, List.mem_cons, h', or_self,
          List.cons_append]

theorem nodup_map_fst_insertInto (key : κ) (value : α) {entries : List (κ × α)}
    (h : (entries.map Prod.fst).Nodup) : ((insertInto key value entries).map Prod.fst).Nodup := by
  rw [map_fst_insertInto]
  split
  · exact h
  · next hk =>
    rw [List.nodup_append]
    refine ⟨h, by simp, ?_⟩
    intro a ha b hb hab
    simp only [List.mem_singleton] at hb
    subst hb
    exact hk (hab ▸ ha)

/-- The map without entries. -/
def empty : OrderedMap κ α := ⟨[], by simp⟩

/-- The keys, oldest first. -/
def keys (m : OrderedMap κ α) : List κ := m.entries.map Prod.fst

/-- The values, in the order of their keys. -/
def values (m : OrderedMap κ α) : List α := m.entries.map Prod.snd

/-- How many entries there are. -/
def size (m : OrderedMap κ α) : Nat := m.entries.length

/-- The value under a key. -/
def find? (m : OrderedMap κ α) (key : κ) : Option α := m.entries.lookup key

/-- Whether there is an entry under a key. -/
def contains (m : OrderedMap κ α) (key : κ) : Bool := decide (key ∈ m.keys)

/-- The map with a value under a key. -/
def insert (m : OrderedMap κ α) (key : κ) (value : α) : OrderedMap κ α :=
  ⟨insertInto key value m.entries, nodup_map_fst_insertInto key value m.nodup_keys⟩

/-- The map without the entries that fail a test. -/
def filter (m : OrderedMap κ α) (p : κ × α → Bool) : OrderedMap κ α :=
  ⟨m.entries.filter p, m.nodup_keys.sublist (List.Sublist.map _ List.filter_sublist)⟩

/-- The map without a key. -/
def erase (m : OrderedMap κ α) (key : κ) : OrderedMap κ α := m.filter fun e => decide (e.1 ≠ key)

/-- The map that arises when entries are inserted one after the other. -/
def ofList (entries : List (κ × α)) : OrderedMap κ α :=
  entries.foldl (fun m e => m.insert e.1 e.2) empty

/-- Whether two maps have equal values under the same keys, in whatever order. -/
def agrees (eq : α → α → Bool) (m n : OrderedMap κ α) : Bool :=
  m.size == n.size && m.entries.all fun e => (n.find? e.1).any (eq e.2)

omit [DecidableEq κ] in
@[ext] theorem ext {m n : OrderedMap κ α} (h : m.entries = n.entries) : m = n := by
  cases m; cases n; cases h; rfl

/-- A new key is added at the end and a present one keeps its place. -/
theorem keys_insert (m : OrderedMap κ α) (key : κ) (value : α) :
    (m.insert key value).keys = if key ∈ m.keys then m.keys else m.keys ++ [key] :=
  map_fst_insertInto key value m.entries

theorem lookup_insertInto (key k : κ) (value : α) (entries : List (κ × α)) :
    (insertInto key value entries).lookup k =
      if k = key then some value else entries.lookup k := by
  induction entries with
  | nil =>
    by_cases h : k = key
    · simp [insertInto, h]
    · have : (k == key) = false := beq_false_of_ne h
      simp [insertInto, List.lookup_cons, this, h]
  | cons entry rest ih =>
    obtain ⟨old, was⟩ := entry
    by_cases he : old = key
    · subst he
      by_cases h : k = old
      · simp [insertInto, h]
      · have : (k == old) = false := beq_false_of_ne h
        simp [insertInto, List.lookup_cons, this, h]
    · by_cases hk : k = old
      · subst hk
        simp [insertInto, he]
      · have hb : (k == old) = false := beq_false_of_ne hk
        simp only [insertInto, he, if_false, List.lookup_cons, hb, ih]

/-- After an insertion the key has the new value and every other key what it had. -/
theorem find?_insert (m : OrderedMap κ α) (key k : κ) (value : α) :
    (m.insert key value).find? k = if k = key then some value else m.find? k :=
  lookup_insertInto key k value m.entries

@[simp] theorem find?_empty (key : κ) : (empty : OrderedMap κ α).find? key = none := rfl

theorem lookup_eq_some_iff {entries : List (κ × α)} (h : (entries.map Prod.fst).Nodup)
    {key : κ} {value : α} : entries.lookup key = some value ↔ (key, value) ∈ entries := by
  induction entries with
  | nil => simp
  | cons entry rest ih =>
    obtain ⟨k, v⟩ := entry
    rw [List.map_cons, List.nodup_cons] at h
    by_cases hk : key = k
    · subst hk
      have hrest : (key, value) ∉ rest := fun hm => h.1 (List.mem_map.mpr ⟨_, hm, rfl⟩)
      simp [hrest, eq_comm]
    · have hb : (key == k) = false := beq_false_of_ne hk
      simp only [List.lookup_cons, hb, ih h.2, List.mem_cons, Prod.mk.injEq, hk, false_and,
        false_or]

/-- What is found under a key is what the entry of the key holds. -/
theorem find?_eq_some_iff {m : OrderedMap κ α} {key : κ} {value : α} :
    m.find? key = some value ↔ (key, value) ∈ m.entries :=
  lookup_eq_some_iff m.nodup_keys

/-- A key under which something is found is among the keys, and every key is. -/
theorem exists_find?_iff {m : OrderedMap κ α} {key : κ} :
    (∃ value, m.find? key = some value) ↔ key ∈ m.keys := by
  simp only [find?_eq_some_iff, keys, List.mem_map, Prod.exists, exists_and_right,
    exists_eq_right]

theorem find?_eq_none_iff {m : OrderedMap κ α} {key : κ} :
    m.find? key = none ↔ key ∉ m.keys := by
  rw [← exists_find?_iff]
  cases m.find? key <;> simp

theorem contains_eq_true_iff {m : OrderedMap κ α} {key : κ} :
    m.contains key = true ↔ key ∈ m.keys := by
  simp [contains]

/-- After a removal nothing is found under the key, and under every other key what was there. -/
theorem find?_erase (m : OrderedMap κ α) (key k : κ) :
    (m.erase key).find? k = if k = key then none else m.find? k := by
  have hmem : ∀ value, (m.erase key).find? k = some value ↔
      k ≠ key ∧ m.find? k = some value := by
    intro value
    simp only [find?_eq_some_iff, erase, filter, List.mem_filter, decide_eq_true_eq]
    exact And.comm
  by_cases hk : k = key
  · rw [if_pos hk]
    cases hf : (m.erase key).find? k with
    | none => rfl
    | some value => exact absurd hk ((hmem value).mp hf).1
  · rw [if_neg hk]
    cases hf : m.find? k with
    | none =>
      cases hg : (m.erase key).find? k with
      | none => rfl
      | some value =>
        have := ((hmem value).mp hg).2
        rw [hf] at this
        cases this
    | some value => exact (hmem value).mpr ⟨hk, hf⟩

/-- The keys of entries that are inserted one after the other are the keys of the map. -/
theorem mem_keys_ofList {entries : List (κ × α)} {key : κ} :
    key ∈ (ofList entries).keys ↔ key ∈ entries.map Prod.fst := by
  have hfold : ∀ (rest : List (κ × α)) (m : OrderedMap κ α),
      key ∈ (rest.foldl (fun m e => m.insert e.1 e.2) m).keys ↔
        key ∈ m.keys ∨ key ∈ rest.map Prod.fst := by
    intro rest
    induction rest with
    | nil => intro m; simp
    | cons entry rest ih =>
      intro m
      have hmem : key ∈ (m.insert entry.1 entry.2).keys ↔ key ∈ m.keys ∨ key = entry.1 := by
        rw [keys_insert]
        split
        · next h => exact ⟨.inl, fun hor => hor.elim id fun e => e ▸ h⟩
        · simp
      rw [List.foldl_cons, ih, hmem, List.map_cons, List.mem_cons, or_assoc]
  simpa [ofList, empty, keys] using hfold entries empty

theorem mem_insertInto {key : κ} {value : α} {entries : List (κ × α)} {entry : κ × α}
    (h : entry ∈ insertInto key value entries) : entry = (key, value) ∨ entry ∈ entries := by
  induction entries with
  | nil => exact .inl (List.mem_singleton.mp h)
  | cons first rest ih =>
    unfold insertInto at h
    split at h
    · exact (List.mem_cons.mp h).imp_right (List.mem_cons_of_mem _)
    · rcases List.mem_cons.mp h with rfl | h
      · exact .inr List.mem_cons_self
      · exact (ih h).imp_right (List.mem_cons_of_mem _)

/-- An entry of the map is one of those that were inserted, though not each of these stays. -/
theorem mem_of_mem_entries_ofList {entries : List (κ × α)} {entry : κ × α}
    (h : entry ∈ (ofList entries).entries) : entry ∈ entries := by
  have hfold : ∀ (rest : List (κ × α)) (m : OrderedMap κ α),
      entry ∈ (rest.foldl (fun m e => m.insert e.1 e.2) m).entries →
        entry ∈ m.entries ∨ entry ∈ rest := by
    intro rest
    induction rest with
    | nil => exact fun m hm => .inl hm
    | cons first rest ih =>
      intro m hm
      rcases ih _ hm with hm | hm
      · rcases mem_insertInto hm with rfl | hm
        · exact .inr List.mem_cons_self
        · exact .inl hm
      · exact .inr (List.mem_cons_of_mem _ hm)
  exact (hfold entries empty h).resolve_left (by simp [empty])

theorem insertInto_of_notMem {key : κ} {value : α} {entries : List (κ × α)}
    (h : key ∉ entries.map Prod.fst) : insertInto key value entries = entries ++ [(key, value)] := by
  induction entries with
  | nil => rfl
  | cons entry rest ih =>
    rw [List.map_cons, List.mem_cons, not_or] at h
    have hne : entry.1 ≠ key := fun e => h.1 e.symm
    simp only [insertInto, hne, if_false, ih h.2, List.cons_append]

/-- Entries with distinct keys that are inserted one after the other are the entries of the map. -/
theorem entries_ofList {entries : List (κ × α)} (h : (entries.map Prod.fst).Nodup) :
    (ofList entries).entries = entries := by
  have hfold : ∀ (rest : List (κ × α)) (m : OrderedMap κ α),
      ((m.entries ++ rest).map Prod.fst).Nodup →
        (rest.foldl (fun m e => m.insert e.1 e.2) m).entries = m.entries ++ rest := by
    intro rest
    induction rest with
    | nil => intro m _; simp
    | cons entry rest ih =>
      intro m hm
      have hnew : entry.1 ∉ m.entries.map Prod.fst := by
        rw [List.map_append, List.nodup_append] at hm
        intro hold
        exact hm.2.2 _ hold _ (by simp) rfl
      have hins : (m.insert entry.1 entry.2).entries = m.entries ++ [entry] :=
        insertInto_of_notMem hnew
      rw [List.foldl_cons, ih (m.insert entry.1 entry.2) (by rw [hins]; simpa using hm), hins]
      simp
  simpa [ofList, empty] using hfold entries empty (by simpa [empty] using h)

/-- Keys that are new are added at the end, in order. -/
theorem keys_foldl_insert (m : OrderedMap κ α) {entries : List (κ × α)}
    (h : (entries.map Prod.fst).Nodup) :
    (entries.foldl (fun m e => m.insert e.1 e.2) m).keys =
      m.keys ++ (entries.map Prod.fst).filter fun key => decide (key ∉ m.keys) := by
  induction entries generalizing m with
  | nil => simp
  | cons entry rest ih =>
    rw [List.map_cons, List.nodup_cons] at h
    rw [List.foldl_cons, ih _ h.2, keys_insert, List.map_cons]
    split
    · next hold => simp [hold]
    · next hnew =>
      -- The key that was added stands nowhere among those that follow.
      have hrest : ((rest.map Prod.fst).filter fun key => decide (key ∉ m.keys ++ [entry.1])) =
          (rest.map Prod.fst).filter fun key => decide (key ∉ m.keys) := by
        refine List.filter_congr fun key hkey => ?_
        have hne : key ≠ entry.1 := fun e => h.1 (e ▸ hkey)
        simp [hne]
      rw [hrest]
      simp [hnew]

/-- What was inserted last under a key is found under it. -/
theorem find?_foldl_insert (m : OrderedMap κ α) (entries : List (κ × α)) (key : κ) :
    (entries.foldl (fun m e => m.insert e.1 e.2) m).find? key =
      ((ofList entries).find? key).or (m.find? key) := by
  induction entries generalizing m with
  | nil => rfl
  | cons entry rest ih =>
    rw [ofList, List.foldl_cons, List.foldl_cons, ih, ih, find?_insert, find?_insert]
    split
    · simp
    · simp

/-- The entries of a map give the map back. -/
theorem ofList_entries (m : OrderedMap κ α) : ofList m.entries = m :=
  ext (entries_ofList m.nodup_keys)

end OrderedMap

end DesignTokens
