import RpcReference.Json.Basic
import RpcReference.Text.Hex
/-!
# Reading JSON

The grammar of the standard, nothing more: four blank characters, no trailing commas, no control
characters inside strings. Escapes may name any sixteen-bit unit; two halves of a surrogate pair
in a row make one character, and a literal with a lone half is read as one that denotes no text.
-/

namespace RpcReference.Json

open Text

def isSpace (c : Char) : Bool :=
  c == ' ' || c == '\n' || c == '\t' || c == '\r'

def skipSpace (t : Text) : Text :=
  t.dropWhile isSpace

/-! ### String literals -/

def simpleEscape? : Char → Option Char
  | '"' => some '"'
  | '\\' => some '\\'
  | '/' => some '/'
  | 'b' => some '\x08'
  | 'f' => some '\x0c'
  | 'n' => some '\n'
  | 'r' => some '\r'
  | 't' => some '\t'
  | _ => none

/-- Where the reader of a literal stands. -/
inductive LiteralState where
  | text
  | escape
  /-- Inside a numeric escape, with `left` digits to come after the next one. -/
  | digits (left value : Nat)
  deriving DecidableEq, Repr

/-- What a character of a literal does. -/
inductive LiteralEffect where
  | close
  /-- It completes a unit or none, and the reader goes on. -/
  | next (unit : Option Nat) (state : LiteralState)
  deriving DecidableEq, Repr

def LiteralState.read? (state : LiteralState) (c : Char) : Option LiteralEffect :=
  match state with
  | .text =>
    if c = '"' then some .close
    else if c = '\\' then some (.next none .escape)
    else if c.toNat < 0x20 then none
    else some (.next (some c.toNat) .text)
  | .escape =>
    if c = 'u' then some (.next none (.digits 3 0))
    else (simpleEscape? c).map fun c => .next (some c.toNat) .text
  | .digits left value =>
    (hexValue? c).map fun digit =>
      let value := 16 * value + digit
      match left with
      | left + 1 => .next none (.digits left value)
      | 0 => .next (some value) .text

/-- The units of a literal up to its closing quote, and the text after it. A unit is a code point,
or half of a surrogate pair. -/
def units? (state : LiteralState) : Text → Option (List Nat × Text)
  | [] => none
  | c :: rest =>
    match state.read? c with
    | none => none
    | some .close => some ([], rest)
    | some (.next unit state) =>
      (units? state rest).map fun (units, rest) => (unit.toList ++ units, rest)

/-- The first half of a surrogate pair. -/
def isHighHalf (n : Nat) : Bool :=
  0xd800 ≤ n && n ≤ 0xdbff

/-- The second half of a surrogate pair. -/
def isLowHalf (n : Nat) : Bool :=
  0xdc00 ≤ n && n ≤ 0xdfff

def pairedChar (high low : Nat) : Char :=
  Char.ofNat (0x10000 + (high - 0xd800) * 0x400 + (low - 0xdc00))

/-- The text that units denote, if every half has its partner. `high` is a first half that waits for
its partner. -/
def textOfUnits? (high : Option Nat) : List Nat → Option Text
  | [] => if high.isNone then some [] else none
  | unit :: units =>
    match high with
    | some high =>
      if isLowHalf unit then (textOfUnits? none units).map (pairedChar high unit :: ·) else none
    | none =>
      if isHighHalf unit then textOfUnits? (some unit) units
      else if isLowHalf unit then none
      else (textOfUnits? none units).map (Char.ofNat unit :: ·)

def readLiteral? (t : Text) : Option (Literal × Text) :=
  (units? .text t).map fun (units, rest) => (textOfUnits? none units, rest)

/-! ### Numbers -/

/-- A row of digits, and the rest. -/
def digits (t : Text) : Text × Text :=
  (t.takeWhile Char.isDigit, t.dropWhile Char.isDigit)

/-- At least one digit, and the rest. -/
def digits1? (t : Text) : Option (Text × Text) :=
  let (ds, rest) := digits t
  if ds.isEmpty then none else some (ds, rest)

/-- The part of a number before its point: no digit follows a leading zero. -/
def integer? : Text → Option (Text × Text)
  | '0' :: rest =>
    match rest with
    | c :: _ => if c.isDigit then none else some (['0'], rest)
    | [] => some (['0'], [])
  | t => digits1? t

def fraction? : Text → Option (Text × Text)
  | '.' :: rest => (digits1? rest).map fun (ds, rest) => ('.' :: ds, rest)
  | t => some ([], t)

def exponentSign : Text → Text × Text
  | '+' :: rest => (['+'], rest)
  | '-' :: rest => (['-'], rest)
  | t => ([], t)

def exponent? : Text → Option (Text × Text)
  | [] => some ([], [])
  | c :: rest =>
    if c = 'e' ∨ c = 'E' then
      let (sign, rest) := exponentSign rest
      (digits1? rest).map fun (ds, rest) => (c :: sign ++ ds, rest)
    else some ([], c :: rest)

def readNumber? (t : Text) : Option (Text × Text) := do
  let (sign, t) := match t with
    | '-' :: rest => (['-'], rest)
    | t => ([], t)
  let (whole, t) ← integer? t
  let (fraction, t) ← fraction? t
  let (exponent, t) ← exponent? t
  return (sign ++ whole ++ fraction ++ exponent, t)

/-! ### Values -/

def wordValues : List (Text × Json) :=
  [("null".toList, .null), ("true".toList, .bool true), ("false".toList, .bool false)]

/-- Reads a value without parts that is not a string. -/
def readAtom? (t : Text) : Option (Json × Text) :=
  match wordValues.findSome? fun (word, value) => (stripStart? word t).map (value, ·) with
  | some found => some found
  | none => (readNumber? t).map fun (lexeme, rest) => (.number lexeme, rest)

mutual

/-- Reads a value. The first argument bounds the number of nested and following values. -/
def readValue? : Nat → Text → Option (Json × Text)
  | 0, _ => none
  | bound + 1, t =>
    match skipSpace t with
    | [] => none
    | c :: rest =>
      if c = '"' then (readLiteral? rest).map fun (s, rest) => (.string s, rest)
      else if c = '[' then
        match stripStart? [']'] (skipSpace rest) with
        | some rest => some (.array [], rest)
        | none => (readItems? bound rest).map fun (items, rest) => (.array items, rest)
      else if c = '\x7b' then
        match stripStart? ['\x7d'] (skipSpace rest) with
        | some rest => some (.object [], rest)
        | none => (readMembers? bound rest).map fun (members, rest) => (.object members, rest)
      else readAtom? (c :: rest)

def readItems? : Nat → Text → Option (List Json × Text)
  | 0, _ => none
  | bound + 1, t => do
    let (item, rest) ← readValue? bound t
    match skipSpace rest with
    | ',' :: rest =>
      let (items, rest) ← readItems? bound rest
      return (item :: items, rest)
    | ']' :: rest => return ([item], rest)
    | _ => none

def readMembers? : Nat → Text → Option (List (Literal × Json) × Text)
  | 0, _ => none
  | bound + 1, t => do
    let (name, rest) ← match skipSpace t with
      | '"' :: rest => readLiteral? rest
      | _ => none
    let (value, rest) ← match skipSpace rest with
      | ':' :: rest => readValue? bound rest
      | _ => none
    match skipSpace rest with
    | ',' :: rest =>
      let (members, rest) ← readMembers? bound rest
      return ((name, value) :: members, rest)
    | '\x7d' :: rest => return ([(name, value)], rest)
    | _ => none

end

/-- The value that a text writes, with nothing but blanks around it. Each level of nesting and each
item takes at least one character, so the bound is never reached. -/
def parse? (t : Text) : Option Json :=
  match readValue? (2 * t.length + 2) t with
  | some (value, rest) => if (skipSpace rest).isEmpty then some value else none
  | none => none

end RpcReference.Json
