import RpcReference.Source.Body
import RpcReference.Source.Diagnostic
/-!
# What a definition file declares

One pass over the lines. Each declaration line is read together with the lines above it, for its
comment, and the lines below it, for its body; then the pass goes on with the very next line, so
declarations inside the body of a message are found too. A call belongs to the latest service.
-/

namespace RpcReference.Source

open Text

/-- What a file declares, and what there is to report about it. -/
structure Findings where
  schema : Schema
  diagnostics : List Diagnostic
  deriving DecidableEq, Repr

def Findings.empty : Findings := ⟨.empty, []⟩

structure Site where
  /-- The lines above, nearest first. -/
  above : List Text
  line : Text
  below : List Text
  deriving DecidableEq, Repr

/-- The number of the line, counted from one. -/
def Site.number (site : Site) : Nat :=
  site.above.length + 1

/-! ### Reading a declaration -/

def readService (site : Site) (rest : Text) : Service :=
  ⟨nameBeforeBrace rest, joinFragments (commentAbove .block site.above), []⟩

/-- The beginning of a comment line that holds a command. -/
def shellMark : Text := "shell: ".toList

/-- The comment of a call: the fragments that are not commands. -/
def callComment (fragments : List Text) : Text :=
  (fragments.filter fun f => (stripStart? shellMark f).isNone).foldl addFragment []

/-- The commands of a call, one a line. -/
def callShell (fragments : List Text) : Option Text :=
  let commands := fragments.filterMap (stripStart? shellMark)
  if commands.isEmpty then none else some (join ['\n'] commands)

def readCall (site : Site) (signature : Signature) : Call :=
  let fragments := commentAbove .block site.above
  { name := signature.name
    request := signature.request
    response := signature.response
    comment := callComment fragments
    stream := signature.stream
    shell := callShell fragments }

/-- The message of the given name that a line declares. A closing brace on the line itself leaves
it without fields. -/
def readMessage (site : Site) (name : Text) : Message :=
  ⟨name, if site.line.contains '}' then [] else bodyFields site.below⟩

def readEnum (site : Site) (name : Text) : Enumeration :=
  ⟨name, joinFragments (commentAbove .line site.above), enumValues site.line site.below⟩

/-! ### Collecting declarations -/

/-- Adds a call to the last service; there must be one. -/
def addCall (call : Call) : List Service → Option (List Service)
  | [] => none
  | [service] => some [{ service with calls := service.calls ++ [call] }]
  | service :: services => (addCall call services).map (service :: ·)

namespace Findings

def report (f : Findings) (site : Site) (concern : Concern) : Findings :=
  { f with diagnostics := f.diagnostics ++ [⟨site.number, concern⟩] }

def addService (f : Findings) (site : Site) (rest : Text) : Findings :=
  { f with schema := { f.schema with services := f.schema.services ++ [readService site rest] } }

def addRpc (f : Findings) (site : Site) : Findings :=
  match signature? site.line with
  | none => f.report site (.malformedCall (trimEnd site.line))
  | some signature =>
    match addCall (readCall site signature) f.schema.services with
    | none => f.report site (.orphanCall signature.name)
    | some services => { f with schema := { f.schema with services } }

def addMessage (f : Findings) (site : Site) (rest : Text) : Findings :=
  let name := messageName rest
  if name.isEmpty then f.report site .namelessMessage
  else
    let messages := f.schema.messages.insert name (readMessage site name)
    let next := { f with schema := { f.schema with messages } }
    if f.schema.messages.contains name then next.report site (.replacedMessage name) else next

def addEnum (f : Findings) (site : Site) (rest : Text) : Findings :=
  let name := nameBeforeBrace rest
  if name.isEmpty then f.report site .namelessEnum
  else
    let enums := f.schema.enums.insert name (readEnum site name)
    let next := { f with schema := { f.schema with enums } }
    if f.schema.enums.contains name then next.report site (.replacedEnum name) else next

def readLine (f : Findings) (site : Site) : Findings :=
  match declaration? site.line with
  | none => f
  | some (.service, rest) => f.addService site rest
  | some (.rpc, _) => f.addRpc site
  | some (.message, rest) => f.addMessage site rest
  | some (.enum, rest) => f.addEnum site rest

/-- Reads the lines from `below` on, with the lines `above` already read. -/
def readLines (f : Findings) (above : List Text) : (below : List Text) → Findings
  | [] => f
  | line :: below => (f.readLine ⟨above, line, below⟩).readLines (line :: above) below

end Findings

def findings (source : Text) : Findings :=
  Findings.empty.readLines [] (lines source)

end RpcReference.Source
