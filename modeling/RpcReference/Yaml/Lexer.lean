import RpcReference.Yaml.Token
import RpcReference.Yaml.FlowScalar
import RpcReference.Yaml.BlockScalar
/-!
# From text to tokens

The lexer reads a text token by token. It keeps the columns at which block collections opened, so
that a line further to the left closes them, and the place where an implicit key may have begun,
so that a colon can still turn what stands there into a key. An implicit key stays on one line and
is at most 1024 characters long.
-/

namespace RpcReference.Yaml

open Text

/-- A place where an implicit key may have begun. -/
structure KeyPlace where
  /-- Nothing but a key can stand there. -/
  required : Bool
  /-- The number of tokens before it. -/
  position : Nat
  mark : Mark
  deriving DecidableEq, Repr

structure Lexer where
  rest : Text
  mark : Mark
  /-- The columns of the open block collections, innermost first. -/
  indents : List Nat
  /-- The place of a possible key at the current level of flow collections. -/
  key : Option KeyPlace
  /-- The same for the levels around it, innermost first. -/
  outerKeys : List (Option KeyPlace)
  /-- An implicit key may begin here. -/
  keyAllowed : Bool
  tokens : List Token
  deriving Repr

namespace Lexer

def start (t : Text) : Lexer :=
  ⟨t, .start, [], none, [], true, []⟩

def inFlow (s : Lexer) : Bool :=
  !s.outerKeys.isEmpty

def emit (s : Lexer) (token : Token) : Lexer :=
  { s with tokens := s.tokens ++ [token] }

/-- Goes on with `rest`, which begins on the same line. -/
def moveTo (s : Lexer) (rest : Text) : Lexer :=
  { s with rest, mark := s.mark.forward (s.rest.length - rest.length) }

def skip (s : Lexer) (count : Nat) : Lexer :=
  { s with rest := s.rest.drop count, mark := s.mark.forward count }

/-! ### White space between tokens -/

/-- A character between tokens that has no meaning. A tab may not stand where a key may begin
outside flow collections. -/
def isFiller (flow keyAllowed : Bool) (mark : Mark) (c : Char) : Bool :=
  c == ' ' || c == '\t' && (flow || !keyAllowed) || c == byteOrderMark && mark.column == 0

/-- Passes over white space and comments. After a line end outside flow collections a key may
begin. -/
def skipWhite (flow inComment keyAllowed : Bool) (mark : Mark) : Text → Scanned Bool
  | [] => ⟨keyAllowed, mark, []⟩
  | c :: rest =>
    if isBreak c then skipWhite flow false (keyAllowed || !flow) mark.nextLine rest
    else if inComment || c = '#' then skipWhite flow true keyAllowed (mark.forward 1) rest
    else if isFiller flow keyAllowed mark c then
      skipWhite flow false keyAllowed (mark.forward 1) rest
    else ⟨keyAllowed, mark, c :: rest⟩

def toToken (s : Lexer) : Lexer :=
  let found := skipWhite s.inFlow false s.keyAllowed s.mark s.rest
  { s with rest := found.rest, mark := found.mark, keyAllowed := found.value }

/-! ### Implicit keys -/

/-- Gives up a possible key, which may not be required. -/
def giveUp? : Option KeyPlace → Option (Option KeyPlace)
  | some place => if place.required then none else some none
  | none => some none

/-- The place is too far back for a key at `mark`. -/
def KeyPlace.expired (place : KeyPlace) (mark : Mark) : Bool :=
  place.mark.line < mark.line || place.mark.index + 1024 < mark.index

def expire? (mark : Mark) (key : Option KeyPlace) : Option (Option KeyPlace) :=
  if key.any (KeyPlace.expired · mark) then giveUp? key else some key

def expireKeys? (s : Lexer) : Option Lexer := do
  let key ← expire? s.mark s.key
  let outerKeys ← s.outerKeys.mapM (expire? s.mark)
  return { s with key, outerKeys }

/-- Gives up the possible key of the current level. -/
def dropKey? (s : Lexer) : Option Lexer :=
  (giveUp? s.key).map fun key => { s with key }

def noteKey? (s : Lexer) : Option Lexer :=
  if s.keyAllowed then do
    let s ← s.dropKey?
    let required := !s.inFlow && s.indents.head? == some s.mark.column
    return { s with key := some ⟨required, s.tokens.length, s.mark⟩ }
  else some s

/-! ### Indentation -/

/-- Opens a block collection at a column to the right of the current one. The opening token goes to
the given position among the tokens. -/
def openBlock (s : Lexer) (column position : Nat) (token : Token) : Lexer :=
  if !s.inFlow && s.indents.head?.all (· < column) then
    { s with indents := column :: s.indents, tokens := s.tokens.insertIdx position token }
  else s

def closeBlocks (s : Lexer) (count : Nat) : Lexer :=
  if s.inFlow then s
  else { s with
    indents := s.indents.drop count, tokens := s.tokens ++ List.replicate count .blockEnd }

def closeToColumn (s : Lexer) : Lexer :=
  s.closeBlocks (s.indents.takeWhile (s.mark.column < ·)).length

def closeAll (s : Lexer) : Lexer :=
  s.closeBlocks s.indents.length

/-! ### Tokens -/

def documentLimit? (s : Lexer) (token : Token) : Option Lexer := do
  let s ← s.closeAll.dropKey?
  return { s.skip 3 with keyAllowed := false }.emit token

def directiveLine? (s : Lexer) : Option Lexer := do
  let s ← s.closeAll.dropKey?
  let (token, rest) ← directive? (s.rest.drop 1)
  let lineEnd ← lineTail? rest
  let s := s.moveTo lineEnd
  let (mark, rest) := skipBreak s.mark s.rest
  return { s with mark, rest, keyAllowed := false }.emit token

def openFlow? (s : Lexer) (token : Token) : Option Lexer := do
  let s ← s.noteKey?
  return { s.skip 1 with
    key := none, outerKeys := s.key :: s.outerKeys, keyAllowed := true }.emit token

def closeFlow? (s : Lexer) (token : Token) : Option Lexer := do
  let s ← s.dropKey?
  let s := { s.skip 1 with keyAllowed := false }.emit token
  match s.outerKeys with
  | [] => return s
  | key :: outerKeys => return { s with key, outerKeys }

def flowEntry? (s : Lexer) : Option Lexer := do
  let s ← s.dropKey?
  return { s.skip 1 with keyAllowed := true }.emit .flowEntry

/-- Makes room for an indicator that opens a block collection. -/
def openBlockHere? (s : Lexer) (token : Token) : Option Lexer :=
  if s.inFlow then some s
  else if s.keyAllowed then some (s.openBlock s.mark.column s.tokens.length token)
  else none

/-- Reads the hyphen of a block sequence. -/
def blockEntry? (s : Lexer) : Option Lexer := do
  let s ← (← s.openBlockHere? .blockSequenceStart).dropKey?
  return { s.skip 1 with keyAllowed := true }.emit .blockEntry

/-- Reads the question mark of an explicit key. -/
def explicitKey? (s : Lexer) : Option Lexer := do
  let s ← (← s.openBlockHere? .blockMappingStart).dropKey?
  return { s.skip 1 with keyAllowed := !s.inFlow }.emit .key

/-- Reads the colon between a key and its value. It turns a possible key into a key. -/
def valueMark? (s : Lexer) : Option Lexer :=
  match s.key with
  | some place =>
    let s := { s with tokens := s.tokens.insertIdx place.position .key }
    let s := s.openBlock place.mark.column place.position .blockMappingStart
    some ({ s.skip 1 with key := none, keyAllowed := false }.emit .value)
  | none => do
    let s ← s.openBlockHere? .blockMappingStart
    return { s.skip 1 with keyAllowed := !s.inFlow }.emit .value

def nameToken? (s : Lexer) (token : Text → Token) : Option Lexer := do
  let s ← s.noteKey?
  let (name, rest) ← name? (s.rest.drop 1)
  return { s.moveTo rest with keyAllowed := false }.emit (token name)

def tagToken? (s : Lexer) : Option Lexer := do
  let s ← s.noteKey?
  let (token, rest) ← tag? s.inFlow s.rest
  return { s.moveTo rest with keyAllowed := false }.emit token

def emitScalar (s : Lexer) (scanned : Scanned Text) (style : ScalarStyle) (keyAllowed : Bool) :
    Lexer :=
  { s with rest := scanned.rest, mark := scanned.mark, keyAllowed }.emit
    (.scalar scanned.value style)

def blockScalarToken? (s : Lexer) (folded : Bool) : Option Lexer := do
  let s ← s.dropKey?
  let scanned ← blockScalar? folded s.indents.head? (s.mark.forward 1) (s.rest.drop 1)
  return s.emitScalar scanned (if folded then .folded else .literal) true

def singleQuotedToken? (s : Lexer) : Option Lexer := do
  let s ← s.noteKey?
  let scanned ← singleQuoted? false .empty (s.mark.forward 1) (s.rest.drop 1)
  return s.emitScalar scanned .singleQuoted false

def doubleQuotedToken? (s : Lexer) : Option Lexer := do
  let s ← s.noteKey?
  let scanned ← doubleQuoted? (.text .empty) (s.mark.forward 1) (s.rest.drop 1)
  return s.emitScalar scanned .doubleQuoted false

def plainToken? (s : Lexer) : Option Lexer := do
  let s ← s.noteKey?
  let context : PlainContext := ⟨s.inFlow, s.indents.head?.elim 0 (· + 1)⟩
  let (scanned, broken) ← plain? context .empty s.mark s.rest
  return s.emitScalar scanned .plain broken

/-- A character that has a meaning of its own where a token begins. -/
def isIndicator (c : Char) : Bool :=
  "-?:,[]\x7b\x7d#&*!|>'\"%@`".toList.contains c

def startsPlain (flow : Bool) (c : Char) (rest : Text) : Bool :=
  !(isWhite c || isIndicator c)
    || c == '-' && !rest.head?.any isSpaceOrTab
    || !flow && (c == '?' || c == ':') && !atWhite rest

/-- Reads the token that begins with `c`, the first of the remaining characters; `rest` are the
others. -/
def token? (s : Lexer) (c : Char) (rest : Text) : Option Lexer :=
  if s.mark.column = 0 && c == '%' then s.directiveLine?
  else if s.mark.atLimit (c :: rest) then
    s.documentLimit? (if c = '-' then .documentStart else .documentEnd)
  else if c = '[' then s.openFlow? .flowSequenceStart
  else if c = '\x7b' then s.openFlow? .flowMappingStart
  else if c = ']' then s.closeFlow? .flowSequenceEnd
  else if c = '\x7d' then s.closeFlow? .flowMappingEnd
  else if c = ',' then s.flowEntry?
  else if c = '-' && atWhite rest then s.blockEntry?
  else if c = '?' && (s.inFlow || atWhite rest) then s.explicitKey?
  else if c = ':' && (s.inFlow || atWhite rest) then s.valueMark?
  else if c = '*' then s.nameToken? .alias
  else if c = '&' then s.nameToken? .anchor
  else if c = '!' then s.tagToken?
  else if c = '|' && !s.inFlow then s.blockScalarToken? false
  else if c = '>' && !s.inFlow then s.blockScalarToken? true
  else if c = '\x27' then s.singleQuotedToken?
  else if c = '"' then s.doubleQuotedToken?
  else if startsPlain s.inFlow c rest then s.plainToken?
  else none

/-- Reads the remaining tokens. The first argument bounds their number. -/
def run? : Nat → Lexer → Option (List Token)
  | 0, _ => none
  | bound + 1, s => do
    let s := (← s.toToken.expireKeys?).closeToColumn
    match s.rest with
    | [] => return (← s.closeAll.dropKey?).tokens
    | c :: rest => run? bound (← s.token? c rest)

end Lexer

/-- The tokens of a text. Every token but those that come from indentation takes a character, so the
bound is never reached. -/
def tokens? (t : Text) : Option (List Token) :=
  if t.all isAllowed then (Lexer.start (unifyBreaks t)).run? (t.length + 1) else none

end RpcReference.Yaml
