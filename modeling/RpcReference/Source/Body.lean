import RpcReference.Source.Declaration
/-!
# Message bodies

The fields of a message are read from the lines below its declaration. Lines inside nested braces
are passed over; a line directly inside the message is a comment for the next field, opens or
closes braces, or declares a field. The body ends with the brace that closes the message.
-/

namespace RpcReference.Source

open Text

/-! ### Field lines -/

/-- What a field line says, which is the field without its comment. -/
structure FieldHead where
  name : Text
  type : Text
  repeated : Bool
  key : Option Text
  deriving DecidableEq, Repr

def FieldHead.withComment (head : FieldHead) (comment : Text) : Field :=
  ⟨head.name, head.type, comment, head.repeated, head.key⟩

/-- Reads what follows the opening angle bracket of a map field: key type, comma, value type,
closing angle bracket, name, equals sign. -/
def mapField? (rest : Text) : Option FieldHead := do
  let (types, rest) ← cut? '>' rest
  guard (!types.contains '=')
  let (key, value) ← cut? ',' types
  let (name, _) ← cut? '=' rest
  let name := trim name
  guard (!name.isEmpty)
  return ⟨name, trim value, false, some (trim key)⟩

/-- How a line of a body begins that declares no field. -/
def otherStatements : List Text :=
  ["enum ".toList, "oneof ".toList, "message ".toList, "reserved ".toList, "option ".toList,
    "extensions ".toList]

def fieldLabels : List Text :=
  ["repeated".toList, "optional".toList, "required".toList]

/-- Reads a field that is not a map from the words of its line: an optional label, the type, the
name. A field line has at least four words. -/
def plainField? : (words : List Text) → Option FieldHead
  | first :: second :: third :: _ :: _ =>
    if fieldLabels.contains first then
      some ⟨third, second, first == "repeated".toList, none⟩
    else some ⟨second, first, false, none⟩
  | _ => none

def fieldLine? (line : Text) : Option FieldHead :=
  match stripStart? "map<".toList line with
  | some rest => mapField? rest
  | none => if otherStatements.any line.startsWith then none else plainField? (words line)

/-! ### Scanning a body -/

/-- Where a scan stands inside a message. -/
structure BodyState where
  /-- The number of nested braces that are still open. -/
  depth : Nat
  /-- What the comments for the next field say so far. -/
  pending : Text
  deriving DecidableEq, Repr

def BodyState.start : BodyState := ⟨0, []⟩

inductive BodyEffect where
  | close
  /-- The scan goes on, after the field that the line declares, if any. -/
  | next (field : Option Field) (state : BodyState)
  deriving DecidableEq, Repr

def isBodyComment (line : Text) : Bool :=
  line.startsWith "/".toList || line.startsWith "*".toList

def BodyState.readLine (s : BodyState) (line : Text) : BodyEffect :=
  let opens := line.count '{'
  let closes := line.count '}'
  if 0 < s.depth then
    if s.depth + opens < closes then .close
    else .next none { s with depth := s.depth + opens - closes }
  else if isBodyComment line then
    .next none { s with pending := addFragment s.pending (commentText line) }
  else if opens < closes then .close
  else if 0 < opens then .next none ⟨opens - closes, []⟩
  else
    match fieldLine? line with
    | some head => .next (some (head.withComment s.pending)) { s with pending := [] }
    | none => .next none s

/-- The fields that the lines declare up to the end of the message. -/
def BodyState.fields (s : BodyState) : List Text → List Field
  | [] => []
  | line :: lines =>
    match s.readLine line with
    | .close => []
    | .next field s => field.toList ++ s.fields lines

/-- The fields of the message whose declaration stands directly above the lines. -/
def bodyFields (below : List Text) : List Field :=
  BodyState.start.fields below

end RpcReference.Source
