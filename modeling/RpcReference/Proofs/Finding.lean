import RpcReference.Proofs.Sites
/-!
# Findings line by line

Reading a line takes two steps that do not know of each other. First the line is read in its place,
with the lines above and below it; the outcome is a single finding, whatever was found before. Then
the finding is added to the earlier ones; this sees the number of the line but no text. Laws that
compare two files compare the findings of their lines first and then follow both runs of `add`.
-/

namespace RpcReference.Source

open Text

/-- What a line gives by itself. -/
inductive Finding where
  | service (service : Service)
  | call (call : Call)
  | message (message : Message)
  | enum (enumeration : Enumeration)
  /-- The line is reported, whatever stands above it. -/
  | fault (concern : Concern)

/-- What a line with the keyword gives, where `rest` is the text behind the keyword. -/
def findingOf (site : Site) (keyword : Keyword) (rest : Text) : Finding :=
  match keyword with
  | .service => .service (readService site rest)
  | .rpc =>
    (signature? site.line).elim (.fault (.malformedCall (trimEnd site.line))) fun signature =>
      .call (readCall site signature)
  | .message =>
    if messageName rest = [] then .fault .namelessMessage
    else .message (readMessage site (messageName rest))
  | .enum =>
    if nameBeforeBrace rest = [] then .fault .namelessEnum
    else .enum (readEnum site (nameBeforeBrace rest))

/-- What the line gives in its place, if it declares something. -/
def Site.finding? (site : Site) : Option Finding :=
  (declaration? site.line).map fun (keyword, rest) => findingOf site keyword rest

namespace Findings

def note (f : Findings) (number : Nat) (concern : Concern) : Findings :=
  { f with diagnostics := f.diagnostics ++ [⟨number, concern⟩] }

def noteIf (f : Findings) (condition : Bool) (number : Nat) (concern : Concern) : Findings :=
  if condition then f.note number concern else f

def insertMessage (f : Findings) (m : Message) : Findings :=
  { f with schema := { f.schema with messages := f.schema.messages.insert m.name m } }

def insertEnum (f : Findings) (e : Enumeration) : Findings :=
  { f with schema := { f.schema with enums := f.schema.enums.insert e.name e } }

/-- Adds what the line with the number gives. -/
def add (f : Findings) (number : Nat) : Finding → Findings
  | .service service =>
    { f with schema := { f.schema with services := f.schema.services ++ [service] } }
  | .call call =>
    (addCall call f.schema.services).elim (f.note number (.orphanCall call.name)) fun services =>
      { f with schema := { f.schema with services } }
  | .message m =>
    (f.insertMessage m).noteIf (f.schema.messages.contains m.name) number
      (.replacedMessage m.name)
  | .enum e =>
    (f.insertEnum e).noteIf (f.schema.enums.contains e.name) number (.replacedEnum e.name)
  | .fault concern => f.note number concern

def addOption (f : Findings) (number : Nat) (finding : Option Finding) : Findings :=
  finding.elim f (f.add number)

variable (f : Findings) (site : Site)

theorem addRpc_eq_add (rest : Text) :
    f.addRpc site = f.add site.number (findingOf site .rpc rest) := by
  rw [addRpc, findingOf]
  cases signature? site.line with
  | none => rfl
  | some signature =>
    simp only [Option.elim_some, add]
    cases addCall (readCall site signature) f.schema.services <;> rfl

theorem addMessage_eq_add (rest : Text) :
    f.addMessage site rest = f.add site.number (findingOf site .message rest) := by
  simp only [addMessage, findingOf, List.isEmpty_iff]
  split <;> rfl

theorem addEnum_eq_add (rest : Text) :
    f.addEnum site rest = f.add site.number (findingOf site .enum rest) := by
  simp only [addEnum, findingOf, List.isEmpty_iff]
  split <;> rfl

theorem readLine_eq_addOption : f.readLine site = f.addOption site.number site.finding? := by
  rw [readLine, Site.finding?]
  cases declaration? site.line with
  | none => rfl
  | some found =>
    obtain ⟨keyword, rest⟩ := found
    cases keyword with
    | service => rfl
    | rpc => exact f.addRpc_eq_add site rest
    | message => exact f.addMessage_eq_add site rest
    | enum => exact f.addEnum_eq_add site rest

end Findings

end RpcReference.Source
