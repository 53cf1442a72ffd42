import RpcReference.Schema.Basic
import RpcReference.Source.Findings
import RpcReference.Json.Printer
import RpcReference.Json.Reader
import RpcReference.Json.Decode
/-!
# Schemas as JSON

Every record is an object with a member for each field, in a fixed order; an absent optional field
has no member. Reading takes members in any order and ignores those it does not know, or takes a
record as the array of its fields. A known member may not be repeated.
-/

namespace RpcReference

open Json Source

/-! ### Writing -/

/-- The member of an optional field, absent with the field. -/
def optionalMember (name : String) : Option Text → List (Literal × Json)
  | none => []
  | some t => [member name (.ofText t)]

def Table.toJson {α : Type} (encode : α → Json) (t : Table α) : Json :=
  .object (t.entries.map fun (key, value) => (some key, encode value))

def Field.toJson (f : Field) : Json :=
  .object <|
    [member "name" (.ofText f.name), member "field_type" (.ofText f.type),
      member "comment" (.ofText f.comment), member "repeated" (.bool f.repeated)]
    ++ optionalMember "key" f.key

def Message.toJson (m : Message) : Json :=
  .object [member "name" (.ofText m.name), member "fields" (.array (m.fields.map Field.toJson))]

def Enumeration.toJson (e : Enumeration) : Json :=
  .object [member "name" (.ofText e.name), member "comment" (.ofText e.comment),
    member "values" (.array (e.values.map .ofText))]

def Call.toJson (c : Call) : Json :=
  .object <|
    [member "name" (.ofText c.name), member "request_type" (.ofText c.request),
      member "response_type" (.ofText c.response), member "comment" (.ofText c.comment),
      member "stream" (.bool c.stream)]
    ++ optionalMember "shell" c.shell

def Service.toJson (s : Service) : Json :=
  .object [member "name" (.ofText s.name), member "comment" (.ofText s.comment),
    member "calls" (.array (s.calls.map Call.toJson))]

def Schema.toJson (s : Schema) : Json :=
  .object [member "services" (.array (s.services.map Service.toJson)),
    member "messages" (s.messages.toJson Message.toJson),
    member "enums" (s.enums.toJson Enumeration.toJson)]

def Source.Diagnostic.toJson (d : Diagnostic) : Json :=
  .object [member "line" (.ofNat d.line), member "message" (.ofText d.message)]

def Source.Findings.toJson (f : Findings) : Json :=
  .object [member "schema" f.schema.toJson,
    member "diagnostics" (.array (f.diagnostics.map Diagnostic.toJson))]

/-! ### Reading -/

def Field.ofJson? (j : Json) : Option Field := do
  match ← j.record? ["name", "field_type", "comment", "repeated", "key"] with
  | [some name, some type, some comment, some repeated, key] =>
    return ⟨← name.text?, ← type.text?, ← comment.text?, ← repeated.bool?, ← optional? key⟩
  | _ => none

def Message.ofJson? (j : Json) : Option Message := do
  match ← j.record? ["name", "fields"] with
  | [some name, some fields] => return ⟨← name.text?, ← fields.list? Field.ofJson?⟩
  | _ => none

def Enumeration.ofJson? (j : Json) : Option Enumeration := do
  match ← j.record? ["name", "comment", "values"] with
  | [some name, some comment, some values] =>
    return ⟨← name.text?, ← comment.text?, ← values.list? text?⟩
  | _ => none

def Call.ofJson? (j : Json) : Option Call := do
  match ← j.record? ["name", "request_type", "response_type", "comment", "stream", "shell"] with
  | [some name, some request, some response, some comment, some stream, shell] =>
    return ⟨← name.text?, ← request.text?, ← response.text?, ← comment.text?, ← stream.bool?,
      ← optional? shell⟩
  | _ => none

def Service.ofJson? (j : Json) : Option Service := do
  match ← j.record? ["name", "comment", "calls"] with
  | [some name, some comment, some calls] =>
    return ⟨← name.text?, ← comment.text?, ← calls.list? Call.ofJson?⟩
  | _ => none

def Schema.ofJson? (j : Json) : Option Schema := do
  match ← j.record? ["services", "messages", "enums"] with
  | [some services, some messages, some enums] =>
    return ⟨← services.list? Service.ofJson?, ← messages.table? Message.ofJson?,
      ← enums.table? Enumeration.ofJson?⟩
  | _ => none

def Schema.parseJson? (t : Text) : Option Schema :=
  (Json.parse? t).bind Schema.ofJson?

end RpcReference
