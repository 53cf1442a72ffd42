import RpcReference.Json.Basic
import RpcReference.Table
/-!
# Decoding JSON values

The pieces from which records are read: texts, truth values, lists, tables, and the fields of a
record, which is written either as an object or as the array of its fields. Types are strict.
-/

namespace RpcReference.Json

def text? : Json → Option Text
  | .string value => value
  | _ => none

def bool? : Json → Option Bool
  | .bool value => some value
  | _ => none

/-- The text of a string, or nothing for null. -/
def optionalText? : Json → Option (Option Text)
  | .null => some none
  | j => j.text?.map some

def list? {α : Type} (decode : Json → Option α) : Json → Option (List α)
  | .array items => items.mapM decode
  | _ => none

def members? : Json → Option (List (Text × Json))
  | .object members => members.mapM fun (name, value) => name.map (·, value)
  | _ => none

/-- The members of an object as a table; of members with one name, the last counts. -/
def table? {α : Type} (decode : Json → Option α) (j : Json) : Option (Table α) := do
  let members ← j.members?
  let entries ← members.mapM fun (name, value) => (decode value).map (name, ·)
  return .ofList entries

/-- The values of the named fields of a record, in the order of the names. An object gives them by
its members, which may not repeat a name; an array gives them by position, and the last ones may be
absent. -/
def record? (names : List String) : Json → Option (List (Option Json))
  | .array items =>
    if items.length ≤ names.length then
      some (items.map some ++ List.replicate (names.length - items.length) none)
    else none
  | j => do
    let members ← j.members?
    names.mapM fun name =>
      match members.filter (·.1 == name.toList) with
      | [] => some none
      | [(_, value)] => some (some value)
      | _ => none

/-- An optional field that may be absent or null. -/
def optional? : Option Json → Option (Option Text)
  | none => some none
  | some j => j.optionalText?

end RpcReference.Json
