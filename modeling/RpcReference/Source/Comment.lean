import RpcReference.Source.Line
/-!
# Comments above a declaration

The comment of a declaration is the run of comment lines directly above it. Services and calls
take block comments, enumerations take line comments. Each line contributes what is left of it
without comment marks, if anything is left.
-/

namespace RpcReference.Source

open Text

inductive CommentForm where
  /-- Lines that open or continue a block comment. -/
  | block
  /-- Lines that hold a line comment. -/
  | line
  deriving DecidableEq, Repr

def CommentForm.accepts (style : CommentForm) (line : Text) : Bool :=
  match style with
  | .block => line.startsWith "/*".toList || line.startsWith "*".toList
  | .line => line.startsWith "//".toList

/-- A character that decorates a comment at either end. -/
def isCommentMark (c : Char) : Bool :=
  c == '*' || c == '/' || isBlank c

/-- What a comment line says, without the marks at both ends. -/
def commentText (line : Text) : Text :=
  trimWhile isCommentMark line

/-- What the comment directly above a declaration says, line by line from top to bottom. `above`
holds the lines above the declaration, nearest first. -/
def commentAbove (style : CommentForm) (above : List Text) : List Text :=
  (((above.takeWhile style.accepts).map commentText).filter (! ·.isEmpty)).reverse

def joinFragments (fragments : List Text) : Text :=
  join [' '] fragments

/-- Adds a fragment to a comment, with a space between if there is something on both sides. -/
def addFragment (comment fragment : Text) : Text :=
  if fragment.isEmpty then comment
  else if comment.isEmpty then fragment
  else comment ++ ' ' :: fragment

end RpcReference.Source
