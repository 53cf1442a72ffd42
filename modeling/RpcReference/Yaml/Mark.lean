import RpcReference.Text.Basic
/-!
# Characters and places of a YAML text

Which characters a YAML text may hold, which of them end a line or separate words, and how a place
in the text moves over them. A line ends at a line feed, a carriage return, both in a row, a next
line character, or one of the two further separators of Unicode. The first four are one and the same
in every respect, so the text is read with line feeds in their places.
-/

namespace RpcReference.Yaml

open Text

def allowedRanges : Ranges := [
  (0x09, 0x0a), (0x0d, 0x0d), (0x20, 0x7e), (0x85, 0x85), (0xa0, 0xd7ff), (0xe000, 0xfffd),
  (0x10000, 0x10ffff)]

def isAllowed (c : Char) : Bool :=
  allowedRanges.contains c

/-- The mark that may begin a line and has no meaning there. -/
def byteOrderMark : Char := '\ufeff'

def isSpaceOrTab (c : Char) : Bool :=
  c == ' ' || c == '\t'

/-- The character ends a line like a line feed. -/
def isFeed (c : Char) : Bool :=
  c == '\n' || c == '\r' || c == '\u0085'

/-- The text with a line feed for every line end but the two separators. -/
def unifyBreaks : Text → Text
  | [] => []
  | c :: rest =>
    if c = '\r' ∧ rest.head? = some '\n' then unifyBreaks rest
    else (if isFeed c then '\n' else c) :: unifyBreaks rest

/-- The character ends a line: a line feed, a line separator or a paragraph separator. -/
def isBreak (c : Char) : Bool :=
  c == '\n' || c == '\u2028' || c == '\u2029'

/-- A space, a tab, or the end of a line. -/
def isWhite (c : Char) : Bool :=
  isSpaceOrTab c || isBreak c

/-- A character of names: a letter, a digit, a hyphen or an underscore, all of them ASCII. -/
def isNameChar (c : Char) : Bool :=
  c.isAlphanum || c == '-' || c == '_'

/-- The text is at its end or at white space. -/
def atWhite : Text → Bool
  | [] => true
  | c :: _ => isWhite c

def atLineEnd : Text → Bool
  | [] => true
  | c :: _ => isBreak c

/-- Three hyphens or three dots that stand alone: the limits of a document, if they begin a line. -/
def atDocumentLimit (t : Text) : Bool :=
  match t with
  | '-' :: '-' :: '-' :: rest => atWhite rest
  | '.' :: '.' :: '.' :: rest => atWhite rest
  | _ => false

/-- A place in a text: the number of characters and of lines before it, and of characters before it
on its own line. -/
structure Mark where
  index : Nat
  line : Nat
  column : Nat
  deriving DecidableEq, Repr

def Mark.start : Mark := ⟨0, 0, 0⟩

def Mark.forward (m : Mark) (count : Nat) : Mark :=
  ⟨m.index + count, m.line, m.column + count⟩

def Mark.nextLine (m : Mark) : Mark :=
  ⟨m.index + 1, m.line + 1, 0⟩

def Mark.over (m : Mark) (c : Char) : Mark :=
  if isBreak c then m.nextLine else m.forward 1

/-- The place begins a line, and the text from there on is the limit of a document. -/
def Mark.atLimit (m : Mark) (t : Text) : Bool :=
  m.column == 0 && atDocumentLimit t

/-- What was read, the place after it, and the text from there on. -/
structure Scanned (α : Type) where
  value : α
  mark : Mark
  rest : Text
  deriving Repr

def Scanned.after (s : Scanned Text) (front : Text) : Scanned Text :=
  { s with value := front ++ s.value }

end RpcReference.Yaml
