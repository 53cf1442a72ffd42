import RpcReference.Yaml.Mark
/-!
# Block scalars

A block scalar has a header and indented lines. The header says how line ends at the end of the
scalar are treated and, if it wants to, how deep the lines are indented; otherwise the first line
that is not empty decides.
-/

namespace RpcReference.Yaml

open Text

/-- What becomes of the line ends after the last line. -/
inductive Chomping where
  /-- All are dropped. -/
  | strip
  /-- The first is kept. -/
  | clip
  /-- All are kept. -/
  | keep
  deriving DecidableEq, Repr

structure BlockHeader where
  chomping : Chomping
  /-- The indentation relative to the parent, if it is given. -/
  increment : Option Nat
  deriving DecidableEq, Repr

def chompingOf? : Char → Option Chomping
  | '+' => some .keep
  | '-' => some .strip
  | _ => none

def chomping : Text → Option Chomping × Text
  | [] => (none, [])
  | c :: rest =>
    match chompingOf? c with
    | some mark => (some mark, rest)
    | none => (none, c :: rest)

/-- Reads the digit of the indentation, which may be absent and is never zero. -/
def increment? : Text → Option (Option Nat × Text)
  | [] => some (none, [])
  | c :: rest =>
    if c = '0' then none
    else if c.isDigit then some (some (c.toNat - '0'.toNat), rest)
    else some (none, c :: rest)

/-- Reads a header: the two marks in either order. -/
def blockHeader? (t : Text) : Option (BlockHeader × Text) := do
  match chomping t with
  | (some mark, t) =>
    let (increment, t) ← increment? t
    return (⟨mark, increment⟩, t)
  | (none, t) =>
    let (increment, t) ← increment? t
    match increment with
    | some _ =>
      let (mark, t) := chomping t
      return (⟨mark.getD .clip, increment⟩, t)
    | none => return (⟨.clip, none⟩, t)

/-- Passes over blanks and a comment up to the end of the line, and refuses anything else. -/
def lineTail? (t : Text) : Option Text :=
  let t := t.dropWhile isSpaceOrTab
  let t := if t.head? = some '#' then t.dropWhile (! isBreak ·) else t
  if atLineEnd t then some t else none

def skipBreak (mark : Mark) : Text → Mark × Text
  | [] => (mark, [])
  | c :: rest => if isBreak c then (mark.nextLine, rest) else (mark, c :: rest)

/-- The line ends before a line that is not empty, and the deepest column at which one of the lines
ended or began. -/
structure LeadingBreaks where
  breaks : Text
  deepest : Nat
  deriving DecidableEq, Repr

/-- Passes over empty lines and indentation. An indentation of zero stands for one that is not known
yet. A tab may not stand where indentation is expected. -/
def leadingBreaks? (indent deepest : Nat) (mark : Mark) : Text → Option (Scanned LeadingBreaks)
  | [] => some ⟨⟨[], max deepest mark.column⟩, mark, []⟩
  | c :: rest =>
    if isBreak c then
      (leadingBreaks? indent (max deepest mark.column) mark.nextLine rest).map fun s =>
        { s with value := { s.value with breaks := c :: s.value.breaks } }
    else if (indent == 0 || mark.column < indent) && c == ' ' then
      leadingBreaks? indent deepest (mark.forward 1) rest
    else if (indent == 0 || mark.column < indent) && c == '\t' then none
    else some ⟨⟨[], max deepest mark.column⟩, mark, c :: rest⟩

/-- What a block scalar remembers between two lines. -/
structure BlockGap where
  /-- The line end of the last line. -/
  leading : Text
  /-- The line ends of the empty lines after it. -/
  trailing : Text
  /-- The last line began with a blank. -/
  indented : Bool
  deriving DecidableEq, Repr

/-- What stands between the last line and a next one that begins with `c`. Folding turns a single
line end into a space, unless one of the two lines begins with a blank. -/
def BlockGap.text (gap : BlockGap) (folded : Bool) (c : Char) : Text :=
  (if folded && gap.leading == ['\n'] && !gap.indented && !isSpaceOrTab c then
    (if gap.trailing.isEmpty then [' '] else [])
  else gap.leading) ++ gap.trailing

def BlockGap.tail (gap : BlockGap) : Chomping → Text
  | .strip => []
  | .clip => gap.leading
  | .keep => gap.leading ++ gap.trailing

structure BlockContext where
  folded : Bool
  indent : Nat
  chomping : Chomping
  deriving DecidableEq, Repr

/-- Notes a line end: of the last line, or of an empty line after it. -/
def BlockGap.addBreak (gap : BlockGap) (inLine : Bool) (c : Char) : BlockGap :=
  if inLine then { gap with leading := [c] } else { gap with trailing := gap.trailing ++ [c] }

/-- Reads the lines of a block scalar, from inside a line or from between two lines. -/
def blockLines? (context : BlockContext) (inLine : Bool) (gap : BlockGap) (mark : Mark) :
    Text → Option (Scanned Text)
  | [] => some ⟨gap.tail context.chomping, mark, []⟩
  | c :: rest =>
    if isBreak c then blockLines? context false (gap.addBreak inLine c) mark.nextLine rest
    else if inLine then (blockLines? context true gap (mark.forward 1) rest).map (·.after [c])
    else if mark.column < context.indent && c == ' ' then
      blockLines? context false gap (mark.forward 1) rest
    else if mark.column < context.indent && c == '\t' then none
    else if mark.column = context.indent then
      (blockLines? context true ⟨[], [], isSpaceOrTab c⟩ (mark.forward 1) rest).map
        (·.after (gap.text context.folded c ++ [c]))
    else some ⟨gap.tail context.chomping, mark, c :: rest⟩

/-- Reads a block scalar after its indicator, inside a block whose indentation is `parent` (none at
the top). -/
def blockScalar? (folded : Bool) (parent : Option Nat) (mark : Mark) (t : Text) :
    Option (Scanned Text) := do
  let (header, afterHeader) ← blockHeader? t
  let lineEnd ← lineTail? afterHeader
  let (mark, rest) := skipBreak (mark.forward (t.length - lineEnd.length)) lineEnd
  let given := header.increment.map (parent.getD 0 + ·)
  let s ← leadingBreaks? (given.getD 0) 0 mark rest
  let indent := given.getD (max (max s.value.deepest (parent.elim 0 (· + 1))) 1)
  let context : BlockContext := ⟨folded, indent, header.chomping⟩
  blockLines? context false ⟨[], s.value.breaks, false⟩ s.mark s.rest

end RpcReference.Yaml
