import CommandConsole.Fault

namespace CommandConsole

/-!
# User variables

A map from texts to texts that remembers the order in which its keys were
first set. Setting a key again changes its value and keeps its place. Letter
case counts.
-/

/-- Variables in the order in which they were first set. -/
structure Variables where
  entries : List (String × String) := []
  distinctKeys : (entries.map Prod.fst).Nodup := by simp
  deriving Repr, DecidableEq

namespace Variables

/-- The keys in the order in which they were first set. -/
def keys (store : Variables) : List String :=
  store.entries.map Prod.fst

/-- Whether a key was ever set. -/
def contains (store : Variables) (key : String) : Bool :=
  store.keys.contains key

/-- The count of keys. -/
def size (store : Variables) : Nat :=
  store.entries.length

/-- An entry with a new value if it has the key. -/
def replaceEntry (key value : String) (entry : String × String) : String × String :=
  if entry.1 = key then
    (key, value)
  else
    entry

/-- Replacing values keeps the keys. -/
theorem map_fst_replaceEntry
    (key value : String)
    (entries : List (String × String)) :
    (entries.map (replaceEntry key value)).map Prod.fst = entries.map Prod.fst := by
  rw [List.map_map]
  apply List.map_congr_left
  intro entry _
  by_cases same : entry.1 = key
  · simp [replaceEntry, same]
  · simp [replaceEntry, same]

/-- Give a key a value, in its place if it has one and behind all others if not. -/
def set (store : Variables) (key value : String) : Variables :=
  if present : key ∈ store.keys then
    {
      entries := store.entries.map (replaceEntry key value)
      distinctKeys := by
        rw [map_fst_replaceEntry]
        exact store.distinctKeys
    }
  else
    {
      entries := store.entries ++ [(key, value)]
      distinctKeys := by
        rw [List.map_append, List.map_singleton, List.nodup_append]
        refine ⟨store.distinctKeys, by simp, ?_⟩
        intro other member added single same
        have isKey : other = key := same.trans (List.mem_singleton.mp single)
        exact present (isKey ▸ member)
    }

/-- The value of a key, if it was ever set. -/
def get? (store : Variables) (key : String) : Option String :=
  store.entries.lookup key

/-- The value of a key that must have been set. -/
def get (store : Variables) (key : String) : Except Fault String :=
  match store.get? key with
  | some value =>
      .ok value
  | none =>
      .error (.undefinedVariable key)

/-- The value that a word stands for: that of the variable it names, or the word itself. -/
def resolve (store : Variables) (word : String) : String :=
  (store.get? word).getD word

/-- Replacing the value of a key that is absent changes nothing. -/
theorem map_replaceEntry_of_not_mem
    {key : String}
    {entries : List (String × String)}
    (absent : key ∉ entries.map Prod.fst)
    (value : String) :
    entries.map (replaceEntry key value) = entries := by
  have unchanged :
      ∀ entry ∈ entries, replaceEntry key value entry = id entry := by
    intro entry member
    have differs : entry.1 ≠ key :=
      fun same => absent (List.mem_map.mpr ⟨entry, member, same⟩)
    simp [replaceEntry, differs]
  rw [List.map_congr_left unchanged, List.map_id]

/-- Looking a key up after replacing the value of a key that is present. -/
theorem lookup_map_replaceEntry
    {key : String}
    {entries : List (String × String)}
    (present : key ∈ entries.map Prod.fst)
    (value other : String) :
    (entries.map (replaceEntry key value)).lookup other =
      if other = key then some value else entries.lookup other := by
  induction entries with
  | nil =>
      simp at present
  | cons entry rest inductionHypothesis =>
      obtain ⟨name, current⟩ := entry
      by_cases sought : other = name
      · subst sought
        by_cases same : other = key
        · simp [replaceEntry, same]
        · simp [replaceEntry, same]
      · have differs : (other == name) = false := by
          simpa using sought
        by_cases same : name = key
        · subst same
          by_cases later : name ∈ rest.map Prod.fst
          · simpa [replaceEntry, List.lookup_cons, differs, sought] using
              inductionHypothesis later
          · simp [replaceEntry, List.lookup_cons, differs, sought,
              map_replaceEntry_of_not_mem later]
        · have later : key ∈ rest.map Prod.fst := by
            simpa [Ne.symm same] using present
          simpa [replaceEntry, same, List.lookup_cons, differs] using
            inductionHypothesis later

/-- Looking a key up behind entries that a new one follows. -/
theorem lookup_concat
    {key : String}
    {entries : List (String × String)}
    (absent : key ∉ entries.map Prod.fst)
    (value other : String) :
    (entries ++ [(key, value)]).lookup other =
      if other = key then some value else entries.lookup other := by
  induction entries with
  | nil =>
      by_cases sought : other = key
      · simp [sought]
      · have differs : (other == key) = false := by
          simpa using sought
        simp [List.lookup_cons, differs, sought]
  | cons entry rest inductionHypothesis =>
      obtain ⟨name, current⟩ := entry
      simp only [List.map_cons, List.mem_cons, not_or] at absent
      have restResult := inductionHypothesis absent.2
      by_cases sought : other = name
      · subst sought
        simp [Ne.symm absent.1]
      · have differs : (other == name) = false := by
          simpa using sought
        simp [List.lookup_cons, differs, restResult]

/-- A key that was set has its new value, and every other key the value it had. -/
theorem get?_set (store : Variables) (key value other : String) :
    (store.set key value).get? other =
      if other = key then some value else store.get? other := by
  unfold set get?
  split
  · next present =>
      exact lookup_map_replaceEntry present value other
  · next absent =>
      exact lookup_concat absent value other

/-- Setting a key keeps the keys in their order and puts a new one last. -/
theorem keys_set (store : Variables) (key value : String) :
    (store.set key value).keys =
      if key ∈ store.keys then store.keys else store.keys ++ [key] := by
  unfold set
  split
  · exact map_fst_replaceEntry key value store.entries
  · next absent =>
      simp [keys]

end Variables

end CommandConsole
