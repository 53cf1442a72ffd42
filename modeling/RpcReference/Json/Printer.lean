import RpcReference.Json.Basic
/-!
# Writing JSON

One printer serves the compact and the indented form. They differ only in the blanks that a layout
puts after brackets, commas and colons.
-/

namespace RpcReference.Json

/-- Where a printer puts blanks. -/
structure Layout where
  /-- The text that begins a line at a depth of nesting. -/
  lineBreak : Nat → Text
  afterColon : Text

def Layout.compact : Layout :=
  ⟨fun _ => [], []⟩

/-- Each item on a line of its own, two spaces deeper than its container. -/
def Layout.indented : Layout :=
  ⟨fun depth => '\n' :: List.replicate (2 * depth) ' ', [' ']⟩

def hexDigit (n : Nat) : Char :=
  Nat.digitChar n

/-- One character inside a string literal: quote, backslash and control characters are escaped. -/
def escapeChar (c : Char) : Text :=
  match c with
  | '"' => ['\\', '"']
  | '\\' => ['\\', '\\']
  | '\x08' => ['\\', 'b']
  | '\t' => ['\\', 't']
  | '\n' => ['\\', 'n']
  | '\x0c' => ['\\', 'f']
  | '\r' => ['\\', 'r']
  | c =>
    if c.toNat < 0x20 then
      ['\\', 'u', '0', '0', hexDigit (c.toNat / 16), hexDigit (c.toNat % 16)]
    else [c]

/-- A string literal. One that denotes no text is written as half of a surrogate pair. -/
def renderLiteral : Literal → Text
  | some t => '"' :: t.flatMap escapeChar ++ ['"']
  | none => "\"\\ud800\"".toList

def renderBool : Bool → Text
  | true => "true".toList
  | false => "false".toList

mutual

def render (layout : Layout) (depth : Nat) : Json → Text
  | .null => "null".toList
  | .bool b => renderBool b
  | .number lexeme => lexeme
  | .string s => renderLiteral s
  | .array items => '[' :: renderItems layout depth true items
  | .object members => '\x7b' :: renderMembers layout depth true members

/-- The items of an array from the first or a later one on, and the closing bracket. -/
def renderItems (layout : Layout) (depth : Nat) (first : Bool) : List Json → Text
  | [] => (if first then [] else layout.lineBreak depth) ++ [']']
  | item :: items =>
    (if first then [] else [',']) ++ layout.lineBreak (depth + 1)
      ++ render layout (depth + 1) item ++ renderItems layout depth false items

/-- The members of an object from the first or a later one on, and the closing brace. -/
def renderMembers (layout : Layout) (depth : Nat) (first : Bool) : List (Literal × Json) → Text
  | [] => (if first then [] else layout.lineBreak depth) ++ ['\x7d']
  | (name, value) :: members =>
    (if first then [] else [',']) ++ layout.lineBreak (depth + 1)
      ++ renderLiteral name ++ ':' :: layout.afterColon
      ++ render layout (depth + 1) value ++ renderMembers layout depth false members

end

def compact (j : Json) : Text :=
  j.render .compact 0

def indented (j : Json) : Text :=
  j.render .indented 0

end RpcReference.Json
