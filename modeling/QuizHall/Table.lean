/-!
# Tables

A table maps keys to values and lists its entries in the order in which the keys were first
stored. Every key stands at most once, and the type itself carries that fact, so a sum over the
entries counts each key once.

## Main definitions

* `Table`: a list of entries with distinct keys.
* `Table.find?`, `Table.insert`, `Table.erase`: reading, storing and removing one key.

## Main results

* `Table.find?_insert`, `Table.find?_erase`: what a key reads after a change of any key.
* `Table.erase_insert`: storing under a fresh key and removing it again gives back the same table.
* `Table.erase_insert_of_ne`: storing under one key and removing another one can change places.
-/

namespace QuizHall

/-- A finite map, as the list of its entries in the order of their first storing. -/
structure Table (α β : Type) where
  /-- The entries, one for each key. -/
  entries : List (α × β)
  /-- No key stands twice. -/
  distinct : (entries.map Prod.fst).Nodup

namespace Table

variable {α β : Type}

/-- The table without entries. -/
def empty : Table α β := ⟨[], by simp⟩

instance : Inhabited (Table α β) := ⟨empty⟩

/-- The keys in the order of their first storing. -/
def keys (t : Table α β) : List α := t.entries.map Prod.fst

@[ext] theorem ext {s t : Table α β} (h : s.entries = t.entries) : s = t := by
  cases s; cases t; cases h; rfl

variable [DecidableEq α]

/-- The value stored under `k`. -/
def find? (t : Table α β) (k : α) : Option β := t.entries.lookup k

/-- Whether something is stored under `k`. -/
def contains (t : Table α β) (k : α) : Bool := (t.find? k).isSome

/-! ### Changing one key -/

/-- Puts `v` in the place of every entry under `k`. -/
def replaceEntry (k : α) (v : β) (e : α × β) : α × β := if e.1 = k then (k, v) else e

theorem fst_replaceEntry (k : α) (v : β) (e : α × β) : (replaceEntry k v e).1 = e.1 := by
  unfold replaceEntry
  split
  · next h => exact h.symm
  · rfl

/-- Stores `v` under `k`: a known key keeps its place, a new one comes last. -/
def insert (t : Table α β) (k : α) (v : β) : Table α β :=
  if h : k ∈ t.keys then
    ⟨t.entries.map (replaceEntry k v), by
      have hk : (t.entries.map (replaceEntry k v)).map Prod.fst = t.entries.map Prod.fst := by
        rw [List.map_map]
        exact List.map_congr_left fun e _ => fst_replaceEntry k v e
      rw [hk]
      exact t.distinct⟩
  else
    ⟨t.entries ++ [(k, v)], by
      rw [List.map_append, List.nodup_append]
      refine ⟨t.distinct, by simp, ?_⟩
      intro a ha b hb hab
      have hbk : b = k := by simpa using hb
      exact h (hbk ▸ hab ▸ ha)⟩

/-- Removes the entry under `k`. -/
def erase (t : Table α β) (k : α) : Table α β :=
  ⟨t.entries.filter (fun e => e.1 ≠ k),
    (List.filter_sublist.map Prod.fst).nodup t.distinct⟩

/-- The table with the entries of a list, of which a later one overrides an earlier one. -/
def ofList (es : List (α × β)) : Table α β :=
  es.foldl (fun t e => t.insert e.1 e.2) empty

/-! ### Reading after a change -/

@[simp] theorem find?_empty (k : α) : (empty : Table α β).find? k = none := rfl

theorem find?_eq_none_iff {t : Table α β} {k : α} : t.find? k = none ↔ k ∉ t.keys := by
  unfold find? keys
  rw [List.lookup_eq_none_iff]
  constructor
  · intro h hk
    obtain ⟨e, he, hek⟩ := List.mem_map.1 hk
    have := h e he
    simp [hek] at this
  · intro h e he
    simp only [bne_iff_ne, ne_eq]
    intro hke
    exact h (List.mem_map.2 ⟨e, he, hke.symm⟩)

private theorem lookup_map_replaceEntry (es : List (α × β)) (k j : α) (v : β) :
    (es.map (replaceEntry k v)).lookup j =
      if j = k then (es.lookup k).map (fun _ => v) else es.lookup j := by
  induction es with
  | nil => split <;> rfl
  | cons e es ih =>
    obtain ⟨a, b⟩ := e
    simp only [List.map_cons, replaceEntry]
    by_cases hak : a = k
    · subst hak
      by_cases hja : j = a
      · subst hja; simp
      · simp [List.lookup_cons, beq_false_of_ne hja, ih, hja]
    · by_cases hja : j = a
      · subst hja; simp [hak]
      · have hka : k ≠ a := fun h => hak h.symm
        simp [hak, List.lookup_cons, beq_false_of_ne hja, beq_false_of_ne hka, ih]

/-- After storing under `k` that key reads the new value and every other key what it read. -/
theorem find?_insert (t : Table α β) (k j : α) (v : β) :
    (t.insert k v).find? j = if j = k then some v else t.find? j := by
  unfold insert
  by_cases h : k ∈ t.keys
  · simp only [h, ↓reduceDIte]
    unfold find?
    simp only
    rw [lookup_map_replaceEntry]
    split
    · cases hl : t.entries.lookup k with
      | none => exact absurd h (find?_eq_none_iff.1 hl)
      | some b => rfl
    · rfl
  · simp only [h, ↓reduceDIte]
    unfold find?
    simp only [List.lookup_append]
    by_cases hj : j = k
    · subst hj
      have hn : t.entries.lookup j = none := find?_eq_none_iff.2 h
      simp [hn]
    · simp [hj, List.lookup_cons, beq_false_of_ne hj]

@[simp] theorem find?_insert_self (t : Table α β) (k : α) (v : β) :
    (t.insert k v).find? k = some v := by simp [find?_insert]

private theorem lookup_filter_ne (es : List (α × β)) (k j : α) :
    (es.filter (fun e => e.1 ≠ k)).lookup j = if j = k then none else es.lookup j := by
  induction es with
  | nil => split <;> rfl
  | cons e es ih =>
    obtain ⟨a, b⟩ := e
    by_cases hak : a = k
    · subst hak
      by_cases hja : j = a
      · subst hja; simpa using ih
      · simpa [List.lookup_cons, beq_false_of_ne hja, hja] using ih
    · by_cases hja : j = a
      · subst hja; simp [hak]
      · simpa [hak, List.lookup_cons, beq_false_of_ne hja] using ih

/-- After removing `k` that key reads nothing and every other key what it read. -/
theorem find?_erase (t : Table α β) (k j : α) :
    (t.erase k).find? j = if j = k then none else t.find? j :=
  lookup_filter_ne t.entries k j

@[simp] theorem find?_erase_self (t : Table α β) (k : α) : (t.erase k).find? k = none := by
  simp [find?_erase]

/-- Removing a key under which nothing is stored changes nothing. -/
theorem erase_of_find?_eq_none {t : Table α β} {k : α} (h : t.find? k = none) :
    t.erase k = t := by
  apply ext
  refine List.filter_eq_self.2 fun e he => ?_
  have hk := find?_eq_none_iff.1 h
  simp only [ne_eq, decide_not, Bool.not_eq_eq_eq_not, Bool.not_true, decide_eq_false_iff_not]
  intro hek
  exact hk (List.mem_map.2 ⟨e, he, hek⟩)

/-! ### Two changes -/

/-- The entries after storing under a known key. -/
theorem entries_insert_of_mem {t : Table α β} {k : α} (h : k ∈ t.keys) (v : β) :
    (t.insert k v).entries = t.entries.map (replaceEntry k v) := by
  rw [insert, dif_pos h]

/-- The entries after storing under a fresh key. -/
theorem entries_insert_of_notMem {t : Table α β} {k : α} (h : k ∉ t.keys) (v : β) :
    (t.insert k v).entries = t.entries ++ [(k, v)] := by
  rw [insert, dif_neg h]

/-- The entries that are left after removing a key. -/
theorem entries_erase (t : Table α β) (k : α) :
    (t.erase k).entries = t.entries.filter fun e => e.1 ≠ k := rfl

/-- The keys that are left after removing one of them. -/
theorem mem_keys_erase {t : Table α β} {j k : α} : j ∈ (t.erase k).keys ↔ j ≠ k ∧ j ∈ t.keys := by
  simp only [keys, entries_erase, List.mem_map, List.mem_filter, decide_eq_true_eq]
  constructor
  · rintro ⟨e, ⟨he, hne⟩, rfl⟩
    exact ⟨hne, e, he, rfl⟩
  · rintro ⟨hne, e, he, rfl⟩
    exact ⟨e, ⟨he, hne⟩, rfl⟩

private theorem filter_map_replaceEntry (es : List (α × β)) (j k : α) (v : β) :
    (es.map (replaceEntry k v)).filter (fun e => e.1 ≠ j) =
      (es.filter fun e => e.1 ≠ j).map (replaceEntry k v) := by
  rw [List.filter_map]
  refine congrArg _ (List.filter_congr fun e _ => ?_)
  rw [Function.comp_apply, fst_replaceEntry]

/-- Whatever was stored under a key is gone once the key is removed. -/
theorem erase_insert_self (t : Table α β) (k : α) (v : β) : (t.insert k v).erase k = t.erase k := by
  apply ext
  rw [entries_erase, entries_erase]
  by_cases hk : k ∈ t.keys
  · have hsame : ∀ e ∈ t.entries.filter (fun e => e.1 ≠ k), replaceEntry k v e = e := by
      intro e he
      rw [replaceEntry, if_neg (of_decide_eq_true (List.mem_filter.1 he).2)]
    rw [entries_insert_of_mem hk, filter_map_replaceEntry]
    exact (List.map_congr_left hsame).trans (List.map_id _)
  · rw [entries_insert_of_notMem hk]
    simp

/-- Removing one key and storing under another one can change places. -/
theorem erase_insert_of_ne (t : Table α β) {j k : α} (h : k ≠ j) (v : β) :
    (t.insert k v).erase j = (t.erase j).insert k v := by
  apply ext
  rw [entries_erase]
  by_cases hk : k ∈ t.keys
  · rw [entries_insert_of_mem hk, entries_insert_of_mem (mem_keys_erase.2 ⟨h, hk⟩),
      filter_map_replaceEntry, entries_erase]
  · have hk' : k ∉ (t.erase j).keys := fun hmem => hk (mem_keys_erase.1 hmem).2
    rw [entries_insert_of_notMem hk, entries_insert_of_notMem hk', entries_erase]
    simp [h]

/-- Storing under a fresh key and removing it again gives back the same table. -/
theorem erase_insert {t : Table α β} {k : α} (h : t.find? k = none) (v : β) :
    (t.insert k v).erase k = t := by
  rw [erase_insert_self, erase_of_find?_eq_none h]

end Table

end QuizHall
