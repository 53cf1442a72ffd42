import RpcReference.Schema.Basic
/-!
# Writing a definition file

The plain way to write a schema down: services, then messages, then enumerations. A comment stands
directly above what it belongs to, as a block for services and calls and as a line for fields and
enumerations. Every declaration opens its brace on its own line and closes it on a line below.
-/

namespace RpcReference.Source

open Text

/-! ### Comments -/

/-- A block comment with the given lines; nothing if there are none. -/
def blockComment (contents : List Text) : List Text :=
  if contents.isEmpty then []
  else ["/**".toList] ++ contents.map (" * ".toList ++ ·) ++ [" */".toList]

/-- A line comment; nothing if it would be empty. -/
def lineComment (comment : Text) : List Text :=
  if comment.isEmpty then [] else ["// ".toList ++ comment]

/-- The comment as a line of a block; no line if it is empty. -/
def commentLine (comment : Text) : List Text :=
  if comment.isEmpty then [] else [comment]

def shellLines : Option Text → List Text
  | none => []
  | some commands => (split '\n' commands).map ("shell: ".toList ++ ·)

/-! ### Lines of declarations -/

def openingLine (keyword name : Text) : Text :=
  keyword ++ ' ' :: name ++ " \x7b".toList

def closingLine : Text := ['\x7d']

def numberedLine (subject : Text) (number : Nat) : Text :=
  subject ++ " = ".toList ++ decimal number ++ [';']

end RpcReference.Source

namespace RpcReference

open Text Source

def Call.sourceLine (call : Call) : Text :=
  "rpc ".toList ++ call.name ++ " (".toList ++ call.request ++ ") returns (".toList
    ++ (if call.stream then "stream ".toList else []) ++ call.response ++ ");".toList

def Call.sourceLines (call : Call) : List Text :=
  blockComment (commentLine call.comment ++ shellLines call.shell) ++ [call.sourceLine]

def Service.sourceLines (service : Service) : List Text :=
  blockComment (commentLine service.comment)
    ++ [openingLine "service".toList service.name]
    ++ service.calls.flatMap Call.sourceLines
    ++ [closingLine]

def Field.sourceType (field : Field) : Text :=
  match field.key with
  | some key => "map<".toList ++ key ++ ", ".toList ++ field.type ++ ['>']
  | none => (if field.repeated then "repeated ".toList else []) ++ field.type

def Field.sourceLines (field : Field) (number : Nat) : List Text :=
  lineComment field.comment ++ [numberedLine (field.sourceType ++ ' ' :: field.name) number]

/-- The declaration of a message. Fields are numbered from one. -/
def Message.sourceLines (message : Message) : List Text :=
  [openingLine "message".toList message.name]
    ++ (message.fields.zipIdx 1).flatMap (fun (field, number) => field.sourceLines number)
    ++ [closingLine]

/-- The declaration of an enumeration. Values are numbered from zero. -/
def Enumeration.sourceLines (enum : Enumeration) : List Text :=
  lineComment enum.comment
    ++ [openingLine "enum".toList enum.name]
    ++ enum.values.zipIdx.map (fun (value, number) => numberedLine value number)
    ++ [closingLine]

def Schema.sourceLines (schema : Schema) : List Text :=
  schema.services.flatMap Service.sourceLines
    ++ schema.messages.values.flatMap Message.sourceLines
    ++ schema.enums.values.flatMap Enumeration.sourceLines

/-- A definition file that declares the schema. -/
def Schema.sourceText (schema : Schema) : Text :=
  join ['\n'] schema.sourceLines

end RpcReference
