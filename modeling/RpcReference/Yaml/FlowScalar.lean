import RpcReference.Yaml.Mark
import RpcReference.Text.Hex
/-!
# Quoted and plain scalars

Three of the five ways to write a scalar. They share one rule for white space: inside a line it is
kept, and around line ends it is folded. A single line end becomes a space, and of several the first
one is dropped.
-/

namespace RpcReference.Yaml

open Text

/-- White space met since the last character of a scalar. -/
inductive Gap where
  | inline (blanks : Text)
  /-- One or more line ends: what the first contributes, and what the later ones do. -/
  | broken (first later : Text)
  deriving DecidableEq, Repr

namespace Gap

def empty : Gap := .inline []

def isBroken : Gap → Bool
  | .inline _ => false
  | .broken _ _ => true

def isEmpty : Gap → Bool
  | .inline blanks => blanks.isEmpty
  | .broken _ _ => false

/-- Adds a space or a tab; after a line end it counts as indentation. -/
def addBlank (c : Char) : Gap → Gap
  | .inline blanks => .inline (blanks ++ [c])
  | gap => gap

/-- Adds a line end; blanks before it are dropped. -/
def addBreak (c : Char) : Gap → Gap
  | .inline _ => .broken [c] []
  | .broken first later => .broken first (later ++ [c])

def add (gap : Gap) (c : Char) : Gap :=
  if isBreak c then gap.addBreak c else gap.addBlank c

/-- What the white space contributes to the scalar. -/
def text : Gap → Text
  | .inline blanks => blanks
  | .broken first later =>
    if first = ['\n'] then (if later.isEmpty then [' '] else later) else first ++ later

end Gap

/-! ### Double quotes -/

def escapedChar? : Char → Option Char
  | '0' => some '\x00'
  | 'a' => some '\x07'
  | 'b' => some '\x08'
  | 't' => some '\t'
  | '\t' => some '\t'
  | 'n' => some '\n'
  | 'v' => some '\x0b'
  | 'f' => some '\x0c'
  | 'r' => some '\r'
  | 'e' => some '\x1b'
  | ' ' => some ' '
  | '"' => some '"'
  | '/' => some '/'
  | '\\' => some '\\'
  | 'N' => some '\u0085'
  | '_' => some '\u00a0'
  | 'L' => some '\u2028'
  | 'P' => some '\u2029'
  | _ => none

/-- The number of hexadecimal digits that follow an escape letter. -/
def escapeDigits? : Char → Option Nat
  | 'x' => some 2
  | 'u' => some 4
  | 'U' => some 8
  | _ => none

/-- The character with a code point, which may not be half of a surrogate pair. -/
def charOf? (n : Nat) : Option Char :=
  if h : n.isValidChar then some (Char.ofNatAux n h) else none

/-- Where the reader of a double-quoted scalar stands. -/
inductive QuoteState where
  /-- Between characters, after white space that has not been accounted for yet. -/
  | text (gap : Gap)
  | escape
  /-- Inside a numeric escape, with `left` digits to come after the next one. -/
  | digits (left value : Nat)
  deriving DecidableEq, Repr

inductive QuoteEffect where
  /-- It ends the scalar, after some last text. -/
  | close (last : Text)
  /-- It contributes to the scalar, and the reader goes on. -/
  | next (text : Text) (state : QuoteState)
  deriving DecidableEq, Repr

def QuoteState.read? (state : QuoteState) (c : Char) : Option QuoteEffect :=
  match state with
  | .text gap =>
    if isWhite c then some (.next [] (.text (gap.add c)))
    else if c = '"' then some (.close gap.text)
    else if c = '\\' then some (.next gap.text .escape)
    else some (.next (gap.text ++ [c]) (.text .empty))
  | .escape =>
    if isBreak c then some (.next [] (.text (.broken [] [])))
    else
      match escapeDigits? c with
      | some count => some (.next [] (.digits (count - 1) 0))
      | none => (escapedChar? c).map fun c => .next [c] (.text .empty)
  | .digits left value =>
    (hexValue? c).bind fun digit =>
      let value := 16 * value + digit
      match left with
      | left + 1 => some (.next [] (.digits left value))
      | 0 => (charOf? value).map fun c => .next [c] (.text .empty)

/-- Reads a double-quoted scalar from inside the quotes. -/
def doubleQuoted? (state : QuoteState) (mark : Mark) : Text → Option (Scanned Text)
  | [] => none
  | c :: rest =>
    if mark.atLimit (c :: rest) then none
    else
      match state.read? c with
      | none => none
      | some (.close last) => some ⟨last, mark.forward 1, rest⟩
      | some (.next text state) => (doubleQuoted? state (mark.over c) rest).map (·.after text)

/-! ### Single quotes -/

def quoteMark : Char := '\x27'

/-- Reads a single-quoted scalar from inside the quotes, after white space that has not been
accounted for yet. The only escape is a quote written twice; `doubled` says that the first of the
two was just read. -/
def singleQuoted? (doubled : Bool) (gap : Gap) (mark : Mark) : Text → Option (Scanned Text)
  | [] => none
  | c :: rest =>
    if doubled then (singleQuoted? false .empty (mark.forward 1) rest).map (·.after [c])
    else if isWhite c then singleQuoted? false (gap.add c) (mark.over c) rest
    else if mark.atLimit (c :: rest) then none
    else if c ≠ quoteMark then
      (singleQuoted? false .empty (mark.forward 1) rest).map (·.after (gap.text ++ [c]))
    else if rest.head? = some quoteMark then
      (singleQuoted? true .empty (mark.forward 1) rest).map (·.after gap.text)
    else some ⟨gap.text, mark.forward 1, rest⟩

/-! ### Plain scalars -/

/-- An indicator that separates the parts of a flow collection. -/
def isFlowIndicator (c : Char) : Bool :=
  c == ',' || c == '[' || c == ']' || c == '\x7b' || c == '\x7d'

structure PlainContext where
  flow : Bool
  /-- The least column at which a further line of the scalar may begin. -/
  indent : Nat
  deriving DecidableEq, Repr

/-- A plain scalar does not go on with the character `c`, which is not white: a comment begins,
a document ends, a line is not indented enough, a colon ends a key, or a flow collection goes on. -/
def PlainContext.stops (context : PlainContext) (gap : Gap) (mark : Mark) (c : Char)
    (rest : Text) : Bool :=
  !gap.isEmpty && (c == '#' || !context.flow && mark.column < context.indent
      || mark.atLimit (c :: rest))
    || c == ':' && atWhite rest
    || context.flow && isFlowIndicator c

/-- A colon inside a flow collection that neither ends a key nor belongs to a scalar. -/
def PlainContext.refuses (context : PlainContext) (c : Char) (rest : Text) : Bool :=
  context.flow && c == ':' && (rest.head?.any fun d => isFlowIndicator d || d == '?')

/-- A tab where the indentation of a further line is expected. -/
def PlainContext.refusesTab (context : PlainContext) (gap : Gap) (mark : Mark) (c : Char) : Bool :=
  gap.isBroken && mark.column < context.indent && c == '\t'

/-- Reads a plain scalar, after white space that has not been accounted for yet. The flag says
whether a line end follows the scalar. -/
def plain? (context : PlainContext) (gap : Gap) (mark : Mark) :
    Text → Option (Scanned Text × Bool)
  | [] => some (⟨[], mark, []⟩, gap.isBroken)
  | c :: rest =>
    if isWhite c then
      if context.refusesTab gap mark c then none
      else plain? context (gap.add c) (mark.over c) rest
    else if context.stops gap mark c rest then some (⟨[], mark, c :: rest⟩, gap.isBroken)
    else if context.refuses c rest then none
    else
      (plain? context .empty (mark.forward 1) rest).map fun (scanned, broken) =>
        (scanned.after (gap.text ++ [c]), broken)

end RpcReference.Yaml
