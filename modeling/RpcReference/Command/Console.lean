import RpcReference.Text.Basic
/-!
# Coloured text

Text on a console can be given a colour by control sequences around it. Where the text itself ends
a colour, the colour is taken up again.
-/

namespace RpcReference.Command

open Text

inductive Paint where
  | red
  | yellow
  | cyan
  | bold
  | boldGreen
  deriving DecidableEq, Repr

/-- The parameters of the control sequence. -/
def Paint.code : Paint → Text
  | .red => "31".toList
  | .yellow => "33".toList
  | .cyan => "36".toList
  | .bold => "1".toList
  | .boldGreen => "1;32".toList

def controlSequence (code : Text) : Text :=
  ['\x1b', '['] ++ code ++ ['m']

/-- The control sequence that ends every paint. -/
def resetSequence : Text :=
  controlSequence ['0']

/-- The text with `sequence` after every reset in it. -/
def resume (sequence : Text) : Text → Text
  | '\x1b' :: '[' :: '0' :: 'm' :: rest => resetSequence ++ sequence ++ resume sequence rest
  | c :: rest => c :: resume sequence rest
  | [] => []

def Paint.apply (paint : Paint) (colours : Bool) (t : Text) : Text :=
  if colours then
    let sequence := controlSequence paint.code
    sequence ++ resume sequence t ++ resetSequence
  else t

end RpcReference.Command
