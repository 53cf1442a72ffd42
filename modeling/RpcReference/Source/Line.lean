import RpcReference.Text.Basic
/-!
# Lines of a definition file

A file is read line by line. Lines end at a line feed, a carriage return before it belongs to the
line end, and indentation has no meaning, so each line is kept without its leading blanks.
-/

namespace RpcReference.Source

open Text

def dropReturn (line : Text) : Text :=
  match line.getLast? with
  | some '\r' => line.dropLast
  | _ => line

/-- The lines of a file, each without its line end and its indentation. -/
def lines (source : Text) : List Text :=
  (split '\n' source).map fun line => trimStart (dropReturn line)

/-- The lines above the one at `index`, nearest first. -/
def linesAbove (lines : List Text) (index : Nat) : List Text :=
  (lines.take index).reverse

def linesBelow (lines : List Text) (index : Nat) : List Text :=
  lines.drop (index + 1)

theorem length_lines (source : Text) : (lines source).length = (split '\n' source).length := by
  simp [lines]

end RpcReference.Source
