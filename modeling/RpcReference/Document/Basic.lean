import RpcReference.Document.Block
/-!
# Documents

A document is written part by part: front matter, services with their calls, messages, enumerations.
A call whose request or response is no declared message stops the writing, and what was written
before it stays.
-/

namespace RpcReference.Document

open Text

/-- A block as text: its lines without line ends around them, and one line end. -/
def blockText (lines : List Text) : Text :=
  trimWhile (· == '\n') (join ['\n'] lines) ++ ['\n']

/-- What a document is made from. -/
structure Subject where
  schema : Schema
  fileName : Text
  config : Config
  deriving DecidableEq, Repr

/-- A part of a document, or why it cannot be written. -/
abbrev Part := Except Unresolved Text

namespace Subject

/-- The part of a call. The request is looked up before the response. -/
def callPart (subject : Subject) (service : Service) (call : Call) : Part := do
  let request ← subject.schema.resolve call.name call.request
  let response ← subject.schema.resolve call.name call.response
  return blockText (callBlock subject.schema service call request response)

/-- The parts of a service: its block, its comment on a line of its own, its calls. -/
def serviceParts (subject : Subject) (service : Service) : List Part :=
  .ok (blockText (serviceBlock subject.fileName service))
  :: .ok (service.comment ++ ['\n'])
  :: service.calls.map (subject.callPart service)

def typeParts (subject : Subject) : List Part :=
  .ok "# Messages\n".toList
  :: subject.schema.messages.values.map (fun m => .ok (blockText (messageBlock subject.schema m)))
  ++ .ok "# Enums\n".toList
  :: subject.schema.enums.values.map (fun e => .ok (blockText (enumBlock e)))

def parts (subject : Subject) : List Part :=
  .ok (blockText (frontMatter subject.config))
  :: subject.schema.services.flatMap subject.serviceParts
  ++ subject.typeParts

end Subject

/-- What was written, and what stopped the writing before the end. -/
structure Rendering where
  written : Text
  failure : Option Unresolved
  deriving DecidableEq, Repr

/-- Writes parts up to the first that cannot be written. -/
def write : List Part → Rendering
  | [] => ⟨[], none⟩
  | .error e :: _ => ⟨[], some e⟩
  | .ok t :: parts =>
    let rest := write parts
    ⟨t ++ rest.written, rest.failure⟩

def render (subject : Subject) : Rendering :=
  write subject.parts

end RpcReference.Document
