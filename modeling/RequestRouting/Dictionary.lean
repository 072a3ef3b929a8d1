/-!
# Dictionaries

Finite maps from text to text, in the order in which the keys were first inserted. They hold
the parameters of a path, and the query and headers of a request.
-/

namespace RequestRouting

/-- A finite map from text to text. -/
structure Dictionary where
  entries : List (String × String)
  deriving DecidableEq

namespace Dictionary

/-- The map without keys. -/
def empty : Dictionary := ⟨[]⟩

/-- Entries with the value of `key` replaced, or added at the end. -/
def put (key value : String) : List (String × String) → List (String × String)
  | [] => [(key, value)]
  | entry :: entries =>
    if entry.1 = key then (key, value) :: entries else entry :: put key value entries

/-- The map in which `key` has this value. -/
def insert (map : Dictionary) (key value : String) : Dictionary :=
  ⟨put key value map.entries⟩

/-- The value of a key. -/
def get? (map : Dictionary) (key : String) : Option String :=
  (map.entries.find? (·.1 == key)).map (·.2)

/-- The map that gives each key the value that comes last with it. -/
def ofList (entries : List (String × String)) : Dictionary :=
  entries.foldl (fun map entry => map.insert entry.1 entry.2) empty

/-- The keys, in the order in which they were first inserted. -/
def keys (map : Dictionary) : List String :=
  map.entries.map (·.1)

/-- The number of keys. -/
def size (map : Dictionary) : Nat :=
  map.entries.length

@[simp] theorem get?_empty (key : String) : empty.get? key = none := rfl

theorem get?_insert (map : Dictionary) (key value other : String) :
    (map.insert key value).get? other = if other = key then some value else map.get? other := by
  obtain ⟨entries⟩ := map
  simp only [insert, get?]
  induction entries with
  | nil => grind [put]
  | cons entry entries ih =>
    by_cases same : entry.1 = key <;> by_cases asked : entry.1 = other <;>
      grind [put]

theorem get?_foldl_insert (entries : List (String × String)) (map : Dictionary) (key : String) :
    (entries.foldl (fun map entry => map.insert entry.1 entry.2) map).get? key =
      (entries.reverse.lookup key).or (map.get? key) := by
  induction entries generalizing map with
  | nil => rfl
  | cons entry entries ih =>
    obtain ⟨first, value⟩ := entry
    rw [List.foldl_cons, ih, get?_insert, List.reverse_cons, List.lookup_append, Option.or_assoc,
      List.lookup_cons, List.lookup_nil]
    by_cases same : key = first
    · simp [same]
    · simp [same, beq_eq_false_iff_ne.2 same]

/-- Of several values with one key the last counts. -/
theorem get?_ofList (entries : List (String × String)) (key : String) :
    (ofList entries).get? key = entries.reverse.lookup key := by
  rw [ofList, get?_foldl_insert, get?_empty, Option.or_none]

theorem mem_keys_iff {map : Dictionary} {key : String} :
    key ∈ map.keys ↔ (map.get? key).isSome = true := by
  rw [get?, Option.isSome_map, List.find?_isSome, keys, List.mem_map]
  exact exists_congr fun entry => and_congr_right fun _ => beq_iff_eq.symm

theorem keys_insert (map : Dictionary) (key value : String) :
    (map.insert key value).keys = if key ∈ map.keys then map.keys else map.keys ++ [key] := by
  obtain ⟨entries⟩ := map
  simp only [insert, keys]
  induction entries with
  | nil => simp [put]
  | cons entry entries ih =>
    rw [put]
    by_cases same : entry.1 = key
    · simp [same]
    · rw [if_neg same, List.map_cons, ih]
      by_cases later : key ∈ entries.map (·.1) <;>
        simp only [later, List.map_cons, List.mem_cons, Ne.symm same, false_or, if_true, if_false,
          List.cons_append]

theorem nodup_keys_foldl_insert (entries : List (String × String)) {map : Dictionary}
    (distinct : map.keys.Nodup) :
    (entries.foldl (fun map entry => map.insert entry.1 entry.2) map).keys.Nodup := by
  induction entries generalizing map with
  | nil => exact distinct
  | cons entry entries ih =>
    refine ih ?_
    rw [keys_insert]
    split
    · exact distinct
    · rename_i new
      have others : ∀ key ∈ map.keys, key ≠ entry.1 := fun key member same => new (same ▸ member)
      exact List.nodup_append.2 ⟨distinct, by simp, by simpa using others⟩

/-- No key is there twice. -/
theorem nodup_keys_ofList (entries : List (String × String)) : (ofList entries).keys.Nodup :=
  nodup_keys_foldl_insert entries .nil

end Dictionary
end RequestRouting
