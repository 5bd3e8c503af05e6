import CommandConsole.Variables

namespace CommandConsole.Variables

/-!
# Entries of variables

How looking a key up and setting it are tied to the entries that are listed.
-/

theorem eq_of_entries_eq
    {first second : Variables}
    (same : first.entries = second.entries) :
    first = second := by
  cases first
  cases second
  simpa using same

theorem get?_eq_none_of_not_contains
    {store : Variables}
    {key : String}
    (absent : store.contains key = false) :
    store.get? key = none := by
  rw [get?, List.lookup_eq_none_iff]
  intro entry member
  have differs : entry.1 ≠ key := by
    intro same
    have present : key ∈ store.keys := List.mem_map.mpr ⟨entry, member, same⟩
    simp [contains, present] at absent
  simpa using Ne.symm differs

/-- A key has the value of a listed entry. -/
theorem mem_entries_of_get?
    {store : Variables}
    {key value : String}
    (found : store.get? key = some value) :
    (key, value) ∈ store.entries := by
  obtain ⟨before, after, shape, _⟩ := List.lookup_eq_some_iff.mp found
  rw [shape]
  simp

theorem get?_of_mem_entries
    {store : Variables}
    {key value : String}
    (listed : (key, value) ∈ store.entries) :
    store.get? key = some value := by
  obtain ⟨before, after, shape⟩ := List.append_of_mem listed
  have distinct := store.distinctKeys
  rw [shape, List.map_append, List.map_cons, List.nodup_append] at distinct
  refine List.lookup_eq_some_iff.mpr ⟨before, after, shape, ?_⟩
  intro entry member
  have differs := distinct.2.2 entry.1 (List.mem_map_of_mem member) key (by simp)
  simpa using Ne.symm differs

/-- A new key is listed last. -/
theorem entries_set_of_absent
    {store : Variables}
    {key : String}
    (absent : key ∉ store.keys)
    (value : String) :
    (store.set key value).entries = store.entries ++ [(key, value)] := by
  simp [set, absent]

/-- Setting a key lists its new value and otherwise only what was listed before. -/
theorem mem_entries_of_set
    {store : Variables}
    {key value : String}
    {entry : String × String}
    (listed : entry ∈ (store.set key value).entries) :
    entry = (key, value) ∨ entry ∈ store.entries := by
  by_cases present : key ∈ store.keys
  · simp only [set, present, ↓reduceDIte, List.mem_map] at listed
    obtain ⟨old, member, rfl⟩ := listed
    by_cases same : old.1 = key
    · exact .inl (by simp [replaceEntry, same])
    · exact .inr (by simpa [replaceEntry, same] using member)
  · rw [entries_set_of_absent present, List.mem_append, List.mem_singleton] at listed
    exact listed.symm

end CommandConsole.Variables
