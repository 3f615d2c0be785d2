/-!
Finite maps. `get?` is the view of a table, and every operation has one equation that gives `get?`
after it; `size` is the number of keys.
-/

namespace Presence

/-- A finite map as a list of entries with distinct keys, latest insertion first. -/
structure Table (κ α : Type) where
  entries : List (κ × α)
  nodup : (entries.map Prod.fst).Nodup := by simp

namespace Table

variable {κ α : Type} [DecidableEq κ]

def empty : Table κ α := ⟨[], List.nodup_nil⟩

instance : Inhabited (Table κ α) := ⟨empty⟩

def get? (t : Table κ α) (k : κ) : Option α :=
  (t.entries.find? fun e => e.1 = k).map Prod.snd

def erase (t : Table κ α) (k : κ) : Table κ α :=
  ⟨t.entries.filter fun e => e.1 ≠ k,
    t.nodup.sublist (List.filter_sublist.map Prod.fst)⟩

theorem notMem_keys_erase (t : Table κ α) (k : κ) : k ∉ (t.erase k).entries.map Prod.fst := by
  simp [erase]

/-- Sets the value of a key, replacing any other. -/
def insert (t : Table κ α) (k : κ) (v : α) : Table κ α :=
  ⟨(k, v) :: (t.erase k).entries, by
    rw [List.map_cons, List.nodup_cons]
    exact ⟨t.notMem_keys_erase k, (t.erase k).nodup⟩⟩

/-- The table of a list of pairs; of two pairs with the same key the later one counts. -/
def ofList (pairs : List (κ × α)) : Table κ α :=
  pairs.foldl (fun t e => t.insert e.1 e.2) empty

def keys (t : Table κ α) : List κ := t.entries.map Prod.fst

def size (t : Table κ α) : Nat := t.entries.length

/-- Applies a function to every value. -/
def mapValues {β : Type} (t : Table κ α) (f : α → β) : Table κ β :=
  ⟨t.entries.map fun e => (e.1, f e.2), by
    rw [List.map_map]
    exact t.nodup⟩

@[simp] theorem get?_empty (k : κ) : (empty : Table κ α).get? k = none := rfl

theorem get?_erase (t : Table κ α) (k j : κ) :
    (t.erase k).get? j = if j = k then none else t.get? j := by
  unfold get? erase
  rw [List.find?_filter]
  split
  · subst j
    rw [List.find?_eq_none.2 (by simp)]
    rfl
  · rename_i h
    congr 2
    funext e
    by_cases hj : e.1 = j <;> simp_all

theorem get?_of_erase {t : Table κ α} {k j : κ} {v : α} (h : (t.erase k).get? j = some v) :
    t.get? j = some v := by
  rw [get?_erase] at h
  split at h
  · cases h
  · exact h

theorem get?_insert (t : Table κ α) (k j : κ) (v : α) :
    (t.insert k v).get? j = if j = k then some v else t.get? j := by
  by_cases h : j = k
  · subst j
    simp [get?, insert]
  · have hk : ¬ k = j := fun e => h e.symm
    have := get?_erase t k j
    simp only [get?, insert, List.find?_cons, hk, decide_false, if_neg h] at this ⊢
    exact this

omit [DecidableEq κ] in
theorem ext_entries {t t' : Table κ α} (h : t.entries = t'.entries) : t = t' := by
  cases t
  cases t'
  cases h
  rfl

theorem entries_erase (t : Table κ α) (k : κ) :
    (t.erase k).entries = t.entries.filter fun e => e.1 ≠ k := rfl

theorem entries_insert (t : Table κ α) (k : κ) (v : α) :
    (t.insert k v).entries = (k, v) :: t.entries.filter fun e => e.1 ≠ k := rfl

theorem erase_comm (t : Table κ α) (k j : κ) : (t.erase k).erase j = (t.erase j).erase k := by
  apply ext_entries
  simp only [entries_erase, List.filter_filter]
  exact List.filter_congr fun e _ => Bool.and_comm ..

theorem erase_insert_of_ne (t : Table κ α) {k j : κ} (h : j ≠ k) (v : α) :
    (t.insert j v).erase k = (t.erase k).insert j v := by
  apply ext_entries
  have swap := congrArg entries (t.erase_comm j k)
  simp only [entries_erase] at swap
  rw [entries_erase, entries_insert, entries_insert, entries_erase,
    List.filter_cons_of_pos (by simpa using h), swap]

theorem erase_insert_self (t : Table κ α) (k : κ) (v : α) : (t.insert k v).erase k = t.erase k := by
  apply ext_entries
  rw [entries_erase, entries_insert, entries_erase, List.filter_cons_of_neg (by simp)]
  simp [List.filter_filter]

/-- Erasing a key without a value changes nothing. -/
theorem erase_of_get? {t : Table κ α} {k : κ} (h : t.get? k = none) : t.erase k = t := by
  apply ext_entries
  rw [get?, Option.map_eq_none_iff, List.find?_eq_none] at h
  exact List.filter_eq_self.2 fun e he => by simpa using h e he

@[simp] theorem erase_erase_self (t : Table κ α) (k : κ) : (t.erase k).erase k = t.erase k :=
  erase_of_get? (by simp [get?_erase])

theorem mem_of_get? {t : Table κ α} {k : κ} {v : α} (h : t.get? k = some v) :
    (k, v) ∈ t.entries := by
  obtain ⟨⟨j, v⟩, hf, rfl⟩ := Option.map_eq_some_iff.1 h
  obtain rfl : j = k := by simpa using List.find?_some hf
  exact List.mem_of_find?_eq_some hf

theorem get?_of_mem {t : Table κ α} {k : κ} {v : α} (h : (k, v) ∈ t.entries) :
    t.get? k = some v := by
  obtain ⟨entries, nodup⟩ := t
  unfold get?
  dsimp only at h ⊢
  induction entries with
  | nil => cases h
  | cons e rest ih =>
    obtain ⟨first, others⟩ := List.nodup_cons.1 nodup
    rcases List.mem_cons.1 h with rfl | h
    · simp
    · have ne : e.1 ≠ k := fun he => first (he ▸ List.mem_map.2 ⟨_, h, rfl⟩)
      simpa [ne] using ih others h

theorem get?_of_mem_keys {t : Table κ α} {k : κ} (h : k ∈ t.keys) : ∃ v, t.get? k = some v := by
  obtain ⟨⟨k, v⟩, he, rfl⟩ := List.mem_map.1 h
  exact ⟨v, get?_of_mem he⟩

theorem mem_keys_iff {t : Table κ α} {k : κ} : k ∈ t.keys ↔ (t.get? k).isSome = true := by
  constructor
  · intro h
    obtain ⟨v, hv⟩ := get?_of_mem_keys h
    rw [hv]
    rfl
  · intro h
    obtain ⟨v, hv⟩ := Option.isSome_iff_exists.1 h
    exact List.mem_map.2 ⟨(k, v), mem_of_get? hv, rfl⟩

/-- The size is the number of keys at which `get?` has a value. -/
theorem exists_keys (t : Table κ α) : ∃ keys : List κ, keys.Nodup ∧
    (∀ k, k ∈ keys ↔ (t.get? k).isSome = true) ∧ t.size = keys.length :=
  ⟨t.keys, t.nodup, fun _ => mem_keys_iff, (List.length_map Prod.fst).symm⟩

@[simp] theorem get?_mapValues {β : Type} (t : Table κ α) (f : α → β) (k : κ) :
    (t.mapValues f).get? k = (t.get? k).map f := by
  simp [get?, mapValues, List.find?_map, Function.comp_def]

end Table

end Presence
