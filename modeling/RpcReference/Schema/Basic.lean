import RpcReference.Table
/-!
# Schemas

What a definition file declares: services with their calls, messages with their fields, and
enumerations with their values. Messages and enumerations are tables by name, so a document lists
them in the order in which the file first names them.
-/

namespace RpcReference

/-- A field of a message. A map field has the type of its keys in `key` and the type of its values
in `type`. -/
structure Field where
  name : Text
  type : Text
  comment : Text
  repeated : Bool
  key : Option Text
  deriving DecidableEq, Repr

def Field.isKeyed (f : Field) : Bool :=
  f.key.isSome

structure Message where
  name : Text
  fields : List Field
  deriving DecidableEq, Repr

def Message.isEmpty (m : Message) : Bool :=
  m.fields.isEmpty

/-- An enumeration. A value is known by its position, not by its declared number. -/
structure Enumeration where
  name : Text
  comment : Text
  values : List Text
  deriving DecidableEq, Repr

structure Call where
  name : Text
  request : Text
  response : Text
  comment : Text
  /-- The server answers with a sequence of responses. -/
  stream : Bool
  /-- Commands that show the call, one a line. -/
  shell : Option Text
  deriving DecidableEq, Repr

structure Service where
  name : Text
  comment : Text
  calls : List Call
  deriving DecidableEq, Repr

/-- Everything that a definition file declares. -/
structure Schema where
  services : List Service
  messages : Table Message
  enums : Table Enumeration
  deriving DecidableEq, Repr

namespace Schema

def empty : Schema := ⟨[], .empty, .empty⟩

/-- The name is declared, as a message or as an enumeration. -/
def declares (s : Schema) (type : Text) : Bool :=
  s.messages.contains type || s.enums.contains type

def calls (s : Schema) : List Call :=
  s.services.flatMap (·.calls)

def numCalls (s : Schema) : Nat :=
  s.calls.length

end Schema

/-- A call names a type that is no declared message. -/
structure Unresolved where
  call : Text
  type : Text
  deriving DecidableEq, Repr

/-- The message that `call` refers to by `type`. An enumeration of that name does not count. -/
def Schema.resolve (s : Schema) (call type : Text) : Except Unresolved Message :=
  match s.messages.get? type with
  | some message => .ok message
  | none => .error ⟨call, type⟩

end RpcReference
