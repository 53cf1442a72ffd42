import RpcReference.Source.Comment
import RpcReference.Schema.Basic
/-!
# Declaration lines

A line declares something when it begins with one of four keywords and a space. This module reads
what stands on the declaring line itself: the keyword, the declared name, the signature of a call,
and the body of an enumeration that is written on one line.
-/

namespace RpcReference.Source

open Text

inductive Keyword where
  | service
  | rpc
  | message
  | enum
  deriving DecidableEq, Repr

/-- How a keyword is written, with the space that ends it. -/
def Keyword.text : Keyword → Text
  | .service => "service ".toList
  | .rpc => "rpc ".toList
  | .message => "message ".toList
  | .enum => "enum ".toList

def Keyword.all : List Keyword :=
  [.service, .rpc, .message, .enum]

/-- The keyword that a line begins with, and the text after it. -/
def declaration? (line : Text) : Option (Keyword × Text) :=
  Keyword.all.findSome? fun keyword =>
    (stripStart? keyword.text line).map fun rest => (keyword, rest)

def nameBeforeBrace (rest : Text) : Text :=
  trim (upTo '{' rest)

/-- The name of a message. A closing brace and blanks inside it are dropped. -/
def messageName (rest : Text) : Text :=
  (nameBeforeBrace rest).filter fun c => !isBlank c && c != '}'

/-! ### Calls -/

/-- What a call line says about the call. -/
structure Signature where
  name : Text
  request : Text
  response : Text
  stream : Bool
  deriving DecidableEq, Repr

def isParenthesis (c : Char) : Bool :=
  c == '(' || c == ')'

/-- Reads the name, the request group and the response group of a call line: the name stands before
the first group, the request is the first group and the response is the last one. -/
def groups? (line : Text) : Option (Text × Text × Text) := do
  let rest ← stripStart? Keyword.rpc.text line
  let (name, rest) ← cut? '(' rest
  let (request, rest) ← cut? ')' rest
  let (rest, tail) ← cutLast? ')' rest
  let (_, response) ← cutLast? '(' rest
  guard (!name.any isParenthesis && !tail.any isParenthesis)
  return (name, request, response)

/-- Reads a call line. The name and both groups must hold more than blanks; a response that begins
with the word `stream` and a space is streamed. -/
def signature? (line : Text) : Option Signature := do
  let (name, request, response) ← groups? line
  let (name, request, response) := (trim name, trim request, trim response)
  guard (!name.isEmpty && !request.isEmpty && !response.isEmpty)
  match stripStart? "stream ".toList response with
  | some streamed => return ⟨name, request, trim streamed, true⟩
  | none => return ⟨name, request, response, false⟩

/-! ### Enumerations -/

/-- The body of an enumeration that opens and closes on its own line. -/
def bodyOnLine? (line : Text) : Option Text := do
  let (_, rest) ← cut? '{' line
  let (body, _) ← cutLast? '}' rest
  return body

def statementValue? (statement : Text) : Option Text :=
  let statement := trim statement
  if statement.startsWith "/".toList || statement.startsWith "*".toList
      || statement.startsWith "option ".toList || statement.startsWith "reserved ".toList then none
  else
    let value := trim (upTo '=' statement)
    if value.isEmpty then none else some value

/-- The values of an enumeration: those of its inline body, or those of the lines below it up to
the first closing brace. -/
def enumValues (line : Text) (below : List Text) : List Text :=
  match bodyOnLine? line with
  | some body => (split ';' body).filterMap statementValue?
  | none => (below.takeWhile fun l => !l.contains '}').filterMap statementValue?

end RpcReference.Source
