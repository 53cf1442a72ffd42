import Mathlib.Data.List.Induction
import RpcReference.Table
/-!
# Laws of tables

A table that is built by inserting pairs one after the other has the names in the order of their
first pair, and under each name the value of its last pair. Tables whose names are disjoint can be
put one behind the other, and what is done to the values commutes with inserting.
-/

namespace RpcReference.Table

variable {α β : Type}

/-! ### Building a table from pairs -/

theorem ofList_concat (pairs : List (Text × α)) (key : Text) (value : α) :
    ofList (pairs ++ [(key, value)]) = (ofList pairs).insert key value := by
  rw [ofList, ofList, List.foldl_append]
  rfl

theorem keys_ofList (pairs : List (Text × α)) :
    (ofList pairs).keys = (pairs.map Prod.fst).eraseDups := by
  induction pairs using List.reverseRecOn with
  | nil => rfl
  | append_singleton pairs pair ih =>
    obtain ⟨key, value⟩ := pair
    rw [ofList_concat, keys_insert, ih, List.map_append, List.eraseDups_append]
    by_cases hkey : key ∈ pairs.map Prod.fst
    · rw [if_pos (List.mem_eraseDups.mpr hkey)]
      simp [List.removeAll, hkey]
    · rw [if_neg fun hmem => hkey (List.mem_eraseDups.mp hmem)]
      simp [List.removeAll, hkey, List.eraseDups_cons]

theorem get?_ofList (pairs : List (Text × α)) (key : Text) :
    (ofList pairs).get? key = (pairs.reverse.find? (·.1 = key)).map Prod.snd := by
  induction pairs using List.reverseRecOn with
  | nil => rfl
  | append_singleton pairs pair ih =>
    obtain ⟨last, value⟩ := pair
    rw [ofList_concat, get?_insert, ih, List.reverse_concat]
    by_cases hlast : last = key
    · simp [hlast]
    · simp [hlast, Ne.symm hlast]

theorem entries_ofList {pairs : List (Text × α)} (h : (pairs.map Prod.fst).Nodup) :
    (ofList pairs).entries = pairs := by
  induction pairs using List.reverseRecOn with
  | nil => rfl
  | append_singleton pairs pair ih =>
    obtain ⟨key, value⟩ := pair
    rw [List.map_append, List.nodup_append] at h
    obtain ⟨hpairs, -, hdisjoint⟩ := h
    have hkey : key ∉ (ofList pairs).keys := by
      rw [keys, ih hpairs]
      exact fun hmem => hdisjoint key hmem key (by simp) rfl
    rw [ofList_concat, entries_insert_of_not_mem hkey, ih hpairs]

theorem ofList_entries (t : Table α) : ofList t.entries = t :=
  eq_of_entries_eq (entries_ofList t.distinct)

theorem mem_values_of_get? {t : Table α} {key : Text} {value : α} (h : t.get? key = some value) :
    value ∈ t.values := by
  obtain ⟨entry, hentry, rfl⟩ := Option.map_eq_some_iff.mp h
  exact List.mem_map_of_mem (List.mem_of_find?_eq_some hentry)

/-! ### One table behind another -/

theorem put_append_of_not_mem {key : Text} (value : α) {front : List (Text × α)}
    (h : key ∉ front.map Prod.fst) (entries : List (Text × α)) :
    put key value (front ++ entries) = front ++ put key value entries := by
  induction front with
  | nil => rfl
  | cons e front ih =>
    obtain ⟨k, v⟩ := e
    rw [List.map_cons, List.mem_cons, not_or] at h
    rw [List.cons_append, put, if_neg (Ne.symm h.1), ih h.2, List.cons_append]

theorem entries_insert_append {front back whole : Table α} {key : Text}
    (hwhole : whole.entries = front.entries ++ back.entries) (hkey : key ∉ front.keys) (value : α) :
    (whole.insert key value).entries = front.entries ++ (back.insert key value).entries := by
  change put key value whole.entries = front.entries ++ put key value back.entries
  rw [hwhole, put_append_of_not_mem value hkey]

theorem contains_append {front back whole : Table α} {key : Text}
    (hwhole : whole.entries = front.entries ++ back.entries) (hkey : key ∉ front.keys) :
    whole.contains key = back.contains key := by
  rw [Bool.eq_iff_iff, contains_iff_mem_keys, contains_iff_mem_keys, keys, hwhole, List.map_append,
    List.mem_append]
  exact or_iff_right hkey

/-! ### Changing the values -/

def map (change : α → β) (t : Table α) : Table β :=
  ⟨t.entries.map fun (key, value) => (key, change value), by
    rw [List.map_map]
    exact t.distinct⟩

theorem contains_map (change : α → β) (t : Table α) (key : Text) :
    (t.map change).contains key = t.contains key := by
  have hkeys : (t.map change).keys = t.keys := by
    rw [keys, map, List.map_map]
    rfl
  rw [Bool.eq_iff_iff, contains_iff_mem_keys, contains_iff_mem_keys, hkeys]

theorem map_put (change : α → β) (key : Text) (value : α) (entries : List (Text × α)) :
    (put key value entries).map (fun (k, v) => (k, change v)) =
      put key (change value) (entries.map fun (k, v) => (k, change v)) := by
  induction entries with
  | nil => rfl
  | cons e entries ih =>
    obtain ⟨k, v⟩ := e
    by_cases hk : k = key
    · simp [put, hk]
    · simp [put, hk, ih]

theorem map_insert (change : α → β) (t : Table α) (key : Text) (value : α) :
    (t.insert key value).map change = (t.map change).insert key (change value) :=
  eq_of_entries_eq (map_put change key value t.entries)

end RpcReference.Table
