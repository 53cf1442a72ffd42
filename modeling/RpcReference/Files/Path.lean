import RpcReference.Document.Name
/-!
# Paths

A path is a text whose pieces are separated by slashes. Empty pieces and single dots name no place
of their own.
-/

namespace RpcReference.Files

open Text

/-- The piece that names the place it is in. -/
def here : Text := ['.']

/-- The piece that names the place above. -/
def parent : Text := ['.', '.']

/-- The piece leads somewhere else. -/
def isProper (piece : Text) : Bool :=
  !piece.isEmpty && piece != here

/-- The pieces of a path, without those that name no place of their own. -/
def properPieces (path : Text) : List Text :=
  (split '/' path).filter isProper

/-- The name of the file or directory that a path leads to; empty for a path that ends in the place
above, or that has no name in it. -/
def fileName (path : Text) : Text :=
  match (properPieces path).getLast? with
  | some name => if name = parent then [] else name
  | none => []

/-- The path that leads from a directory on. A path from the root stands for itself. -/
def joinPath (directory path : Text) : Text :=
  if path.startsWith ['/'] || directory.isEmpty then path
  else if directory.getLast? = some '/' then directory ++ path
  else directory ++ '/' :: path

/-- Where the document goes unless told otherwise: into `directory`, under the name of the
definition file up to its first dot. -/
def defaultOutput (input directory : Text) : Text :=
  joinPath directory (Document.stem (fileName input) ++ ".md".toList)

end RpcReference.Files
