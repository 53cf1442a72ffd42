import RpcReference.Files.Tree
import RpcReference.Failure
import RpcReference.Document.Basic
import RpcReference.Source.Findings
/-!
# Generating a document in a file tree

The steps from a definition file to a document: read the file, find what it declares, write the
document. If a call does not resolve, the file keeps what was written before it.
-/

namespace RpcReference.Files

open Source Document

def loadSource (t : Tree) (path : Text) : Except Failure Text :=
  sourceRead path (t.read path)

def loadConfig (t : Tree) (path : Text) : Except Failure Config :=
  configRead path (t.read path)

def documentOf (path source : Text) (config : Config) : Rendering :=
  render ⟨(findings source).schema, fileName path, config⟩

def writeResult (output : Text) (document : Rendering) :
    Except AccessError Unit → Except Failure Unit
  | .error cause => .error (.outputNotCreated output cause)
  | .ok () =>
    match document.failure with
    | some reference => .error (.unresolvedType reference)
    | none => .ok ()

def saveDocument (t : Tree) (output : Text) (document : Rendering) : Tree × Except Failure Unit :=
  match t.create output document.written with
  | .error cause => (t, writeResult output document (.error cause))
  | .ok t => (t, writeResult output document (.ok ()))

/-- Writes the document of a definition file, with the default configuration, to a path. -/
def generate (t : Tree) (path output : Text) : Tree × Except Failure Unit :=
  match loadSource t path with
  | .error failure => (t, .error failure)
  | .ok source => saveDocument t output (documentOf path source .standard)

end RpcReference.Files
