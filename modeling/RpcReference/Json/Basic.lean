import RpcReference.Text.Basic
/-!
# JSON values

Values keep what the text says: numbers as they are written, members in order and with repetition.
A string literal can name half of a surrogate pair by an escape; such a literal denotes no text.
-/

namespace RpcReference

/-- The text that a string literal denotes, if it denotes one. -/
abbrev Json.Literal := Option Text

inductive Json where
  | null
  | bool (value : Bool)
  | number (lexeme : Text)
  | string (value : Json.Literal)
  | array (items : List Json)
  | object (members : List (Json.Literal × Json))
  deriving Repr, Inhabited

namespace Json

def ofText (t : Text) : Json :=
  .string (some t)

/-- The number with the given decimal digits. -/
def ofNat (n : Nat) : Json :=
  .number (Text.decimal n)

def member (name : String) (value : Json) : Literal × Json :=
  (some name.toList, value)

end Json

end RpcReference
