import RpcReference.Schema.Basic
import RpcReference.Text.Case
/-!
# Types of fields

A type that the schema declares is shown as a link to its section. In tables a field that is
repeated or a map says so; in code samples only repetition is shown.
-/

namespace RpcReference.Document

open Text

/-- A type by itself: a link if the schema declares it, else its name. -/
def typeLink (schema : Schema) (type : Text) : Text :=
  if schema.declares type then
    "[".toList ++ type ++ "](#".toList ++ lower type ++ ")".toList
  else type

def tableType (schema : Schema) (field : Field) : Text :=
  let link := typeLink schema field.type
  match field.key with
  | some key => "map&lt;".toList ++ key ++ ", ".toList ++ link ++ "&gt;".toList
  | none => if field.repeated then link ++ " array".toList else link

def codeType (schema : Schema) (field : Field) : Text :=
  let link := typeLink schema field.type
  if field.repeated then link ++ "[]".toList else link

end RpcReference.Document
