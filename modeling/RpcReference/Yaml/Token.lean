import RpcReference.Yaml.Mark
import RpcReference.Text.Hex
/-!
# Tokens of a YAML text

The token type, and the readers of tokens that stay on one line: anchors and aliases, tags, and
directives.
-/

namespace RpcReference.Yaml

open Text

inductive ScalarStyle where
  | plain
  | singleQuoted
  | doubleQuoted
  | literal
  | folded
  deriving DecidableEq, Repr

/-- A token. The starts and ends of block collections come from indentation, and `key` may come from
the colon that follows the key. -/
inductive Token where
  | versionDirective (major minor : Nat)
  | tagDirective (handle start : Text)
  | documentStart
  | documentEnd
  | blockSequenceStart
  | blockMappingStart
  | blockEnd
  | flowSequenceStart
  | flowSequenceEnd
  | flowMappingStart
  | flowMappingEnd
  | blockEntry
  | flowEntry
  | key
  | value
  | alias (name : Text)
  | anchor (name : Text)
  | tag (handle suffix : Text)
  | scalar (value : Text) (style : ScalarStyle)
  deriving DecidableEq, Repr

/-! ### Names -/

/-- A character that may follow the name of an anchor directly. -/
def endsName (c : Char) : Bool :=
  isWhite c || "?:,]\x7d%@`".toList.contains c

def name? (t : Text) : Option (Text × Text) :=
  let name := t.takeWhile isNameChar
  let rest := t.dropWhile isNameChar
  if !name.isEmpty && rest.head?.all endsName then some (name, rest) else none

/-! ### Tags -/

/-- The number of octets of a character whose first octet is given. -/
def octetCount? (octet : Nat) : Option Nat :=
  if octet < 0x80 then some 1
  else if octet < 0xc0 then none
  else if octet < 0xe0 then some 2
  else if octet < 0xf0 then some 3
  else if octet < 0xf8 then some 4
  else none

/-- Reads one octet that is written as a percent sign and two digits. -/
def octet? : Text → Option (Nat × Text)
  | '%' :: a :: b :: rest => (hexNumber? [a, b]).map (·, rest)
  | _ => none

def furtherOctets? : (count value : Nat) → Text → Option (Nat × Text)
  | 0, value, t => some (value, t)
  | count + 1, value, t => do
    let (octet, t) ← octet? t
    guard (octet / 0x40 == 2)
    furtherOctets? count (0x40 * value + octet % 0x40) t

/-- What the first of several octets contributes to the code point. -/
def leadingBits (octet count : Nat) : Nat :=
  match count with
  | 1 => octet
  | 2 => octet % 0x20
  | 3 => octet % 0x10
  | _ => octet % 0x08

/-- Reads a character that is written by its octets. Octets that write an ASCII character the long
way stand for no character of a known tag. -/
def octets? (t : Text) : Option (Char × Text) := do
  let (first, t) ← octet? t
  let count ← octetCount? first
  let (value, t) ← furtherOctets? (count - 1) (leadingBits first count) t
  let c := if count = 1 || 0x80 ≤ value then Char.ofNat value else '\ufffd'
  return (c, t)

/-- A character that may occur in a tag. Between angle brackets there are three more. -/
def isTagChar (verbatim : Bool) (c : Char) : Bool :=
  isNameChar c || ";/?:@&=+$.%!~*'()".toList.contains c
    || verbatim && ",[]".toList.contains c

def tagChars? (verbatim : Bool) : Nat → Text → Option (Text × Text)
  | 0, t => some ([], t)
  | bound + 1, t =>
    match t with
    | [] => some ([], [])
    | '%' :: _ => do
      let (c, rest) ← octets? t
      let (cs, rest) ← tagChars? verbatim bound rest
      return (c :: cs, rest)
    | c :: rest =>
      if isTagChar verbatim c then do
        let (cs, rest) ← tagChars? verbatim bound rest
        return (c :: cs, rest)
      else some ([], t)

def tagText? (verbatim optional : Bool) (t : Text) : Option (Text × Text) := do
  let (cs, rest) ← tagChars? verbatim t.length t
  guard (optional || rest.length < t.length)
  return (cs, rest)

/-- Reads an exclamation mark, a name, and a second exclamation mark if there is one. -/
def tagHandle? : Text → Option (Text × Text)
  | '!' :: rest =>
    let name := rest.takeWhile isNameChar
    match rest.dropWhile isNameChar with
    | '!' :: rest => some ('!' :: name ++ ['!'], rest)
    | rest => some ('!' :: name, rest)
  | _ => none

def isFullHandle (handle : Text) : Bool :=
  1 < handle.length && handle.getLast? == some '!'

def tagParts? (t : Text) : Option ((Text × Text) × Text) :=
  match t with
  | '!' :: '<' :: rest => do
    let (suffix, rest) ← tagText? true false rest
    match rest with
    | '>' :: rest => return (([], suffix), rest)
    | _ => none
  | _ => do
    let (handle, rest) ← tagHandle? t
    if isFullHandle handle then
      let (suffix, rest) ← tagText? false false rest
      return ((handle, suffix), rest)
    else
      let (suffix, rest) ← tagText? false true rest
      let suffix := handle.drop 1 ++ suffix
      return ((if suffix.isEmpty then ([], ['!']) else (['!'], suffix)), rest)

/-- Reads a tag. It ends at white space or, inside a flow collection, at a comma. -/
def tag? (flow : Bool) (t : Text) : Option (Token × Text) := do
  let ((handle, suffix), rest) ← tagParts? t
  guard (atWhite rest || flow && rest.head? == some ',')
  return (.tag handle suffix, rest)

/-! ### Directives -/

def dropBlanks (t : Text) : Text :=
  t.dropWhile isSpaceOrTab

/-- Reads a number of one to nine digits. -/
def versionNumber? (t : Text) : Option (Nat × Text) :=
  let digits := t.takeWhile Char.isDigit
  if 0 < digits.length && digits.length ≤ 9 then
    some (digits.foldl (fun n d => 10 * n + (d.toNat - '0'.toNat)) 0, t.dropWhile Char.isDigit)
  else none

def version? (t : Text) : Option (Token × Text) := do
  let (major, t) ← versionNumber? (dropBlanks t)
  match t with
  | '.' :: t =>
    let (minor, t) ← versionNumber? t
    return (.versionDirective major minor, t)
  | _ => none

def tagDeclaration? (t : Text) : Option (Token × Text) := do
  let (handle, t) ← tagHandle? (dropBlanks t)
  guard (isFullHandle handle || handle == ['!'])
  guard (t.head?.any isSpaceOrTab)
  let (start, t) ← tagText? true false (dropBlanks t)
  guard (atWhite t)
  return (.tagDirective handle start, t)

/-- Reads a directive after the percent sign. Only two are known. -/
def directive? (t : Text) : Option (Token × Text) :=
  let name := t.takeWhile isNameChar
  let rest := t.dropWhile isNameChar
  if !atWhite rest then none
  else if name = "YAML".toList then version? rest
  else if name = "TAG".toList then tagDeclaration? rest
  else none

end RpcReference.Yaml
