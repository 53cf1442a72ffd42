import RpcReference.Text.Basic
/-!
# Tables in insertion order

A table maps names to values and remembers the order in which the names were first inserted. A
later insertion under the same name replaces the value and keeps the place. The two views are
`keys` and `get?`, and `insert` is described by what it does to each of them.
-/

namespace RpcReference

/-- A finite map on names, in the order of first insertion. -/
structure Table (α : Type) where
  entries : List (Text × α)
  distinct : (entries.map Prod.fst).Nodup
  deriving DecidableEq, Repr

namespace Table

variable {α : Type}

def empty : Table α := ⟨[], List.nodup_nil⟩

instance : Inhabited (Table α) := ⟨empty⟩

def keys (t : Table α) : List Text :=
  t.entries.map Prod.fst

def values (t : Table α) : List α :=
  t.entries.map Prod.snd

def size (t : Table α) : Nat :=
  t.entries.length

def get? (t : Table α) (key : Text) : Option α :=
  (t.entries.find? (·.1 = key)).map Prod.snd

def contains (t : Table α) (key : Text) : Bool :=
  (t.get? key).isSome

/-- Replaces the value under `key` where it stands, or adds the pair at the end. -/
def put (key : Text) (value : α) : List (Text × α) → List (Text × α)
  | [] => [(key, value)]
  | (k, v) :: rest => if k = key then (k, value) :: rest else (k, v) :: put key value rest

theorem map_fst_put (key : Text) (value : α) (entries : List (Text × α)) :
    (put key value entries).map Prod.fst =
      if key ∈ entries.map Prod.fst then entries.map Prod.fst
      else entries.map Prod.fst ++ [key] := by
  induction entries with
  | nil => simp [put]
  | cons e rest ih =>
    obtain ⟨k, v⟩ := e
    by_cases h : k = key
    · simp [put, h]
    · simp only [put, h, if_false, List.map_cons, ih, List.mem_cons, Ne.symm h, false_or]
      split <;> simp

theorem nodup_put (key : Text) (value : α) {entries : List (Text × α)}
    (h : (entries.map Prod.fst).Nodup) : ((put key value entries).map Prod.fst).Nodup := by
  rw [map_fst_put]
  split
  · exact h
  · next hkey =>
    rw [List.nodup_append]
    refine ⟨h, by simp, ?_⟩
    intro a ha b hb
    rw [List.mem_singleton] at hb
    subst hb
    intro heq
    exact hkey (heq ▸ ha)

/-- Gives `key` the value: in its place if it has one, else at the end. -/
def insert (t : Table α) (key : Text) (value : α) : Table α :=
  ⟨put key value t.entries, nodup_put key value t.distinct⟩

theorem put_of_not_mem {key : Text} (value : α) {entries : List (Text × α)}
    (h : key ∉ entries.map Prod.fst) : put key value entries = entries ++ [(key, value)] := by
  induction entries with
  | nil => rfl
  | cons e rest ih =>
    obtain ⟨k, v⟩ := e
    rw [List.map_cons, List.mem_cons, not_or] at h
    simp [put, Ne.symm h.1, ih h.2]

theorem eq_of_entries_eq {s t : Table α} (h : s.entries = t.entries) : s = t := by
  obtain ⟨entries, distinct⟩ := s
  cases h
  rfl

theorem keys_insert (t : Table α) (key : Text) (value : α) :
    (t.insert key value).keys = if key ∈ t.keys then t.keys else t.keys ++ [key] :=
  map_fst_put key value t.entries

theorem size_insert (t : Table α) (key : Text) (value : α) :
    (t.insert key value).size = if key ∈ t.keys then t.size else t.size + 1 := by
  have hsize (s : Table α) : s.size = s.keys.length := (List.length_map _).symm
  rw [hsize, hsize, keys_insert]
  split
  · rfl
  · exact List.length_append

theorem get?_insert (t : Table α) (key k : Text) (value : α) :
    (t.insert key value).get? k = if k = key then some value else t.get? k := by
  obtain ⟨entries, distinct⟩ := t
  simp only [insert, get?]
  clear distinct
  induction entries with
  | nil => by_cases h : k = key <;> simp [put, h, eq_comm]
  | cons e rest ih =>
    obtain ⟨k', v⟩ := e
    by_cases h : k' = key
    · subst h
      by_cases hk : k' = k
      · simp [put, hk]
      · simp [put, hk, Ne.symm hk]
    · by_cases hk : k' = k
      · subst hk
        simp [put, h]
      · simp [put, h, hk, ih]

theorem entries_insert_of_not_mem {t : Table α} {key : Text} (h : key ∉ t.keys) (value : α) :
    (t.insert key value).entries = t.entries ++ [(key, value)] :=
  put_of_not_mem value h

theorem contains_iff_mem_keys (t : Table α) (key : Text) :
    t.contains key = true ↔ key ∈ t.keys := by
  simp [contains, get?, keys]

theorem contains_eq_false_iff (t : Table α) (key : Text) :
    t.contains key = false ↔ key ∉ t.keys := by
  rw [Bool.eq_false_iff, Ne, contains_iff_mem_keys]

/-- The table that results from inserting the pairs one after the other. -/
def ofList (pairs : List (Text × α)) : Table α :=
  pairs.foldl (fun t (key, value) => t.insert key value) empty

end Table

end RpcReference
