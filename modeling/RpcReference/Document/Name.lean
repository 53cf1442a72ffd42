import RpcReference.Text.Case
import RpcReference.Text.Alphanumeric
/-!
# Names in code samples

How names of the schema appear in sample code, and what the name of the definition file is without
its extensions.
-/

namespace RpcReference.Document

open Text

/-- A character before which an underscore is dropped. -/
def isWordChar (c : Char) : Bool :=
  isAlphanumeric c || c == '_'

/-- Joins the words of a name: an underscore before a word character is dropped, and that character
is put into upper case. -/
def camelCase : Text → Text
  | [] => []
  | [c] => [c]
  | c :: next :: rest =>
    if c = '_' ∧ isWordChar next then upperChar next ++ camelCase rest
    else c :: camelCase (next :: rest)

def lowerInitial : Text → Text
  | [] => []
  | c :: rest => lowerChar c ++ rest

/-- The name of a file up to its first dot. -/
def stem (fileName : Text) : Text :=
  upTo '.' fileName

end RpcReference.Document
