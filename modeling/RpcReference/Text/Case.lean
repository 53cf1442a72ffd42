import RpcReference.Text.Basic
import RpcReference.Text.CaseTable
/-!
# Upper and lower case

Single characters map by the tables alone. A whole text is put into lower case character by
character, except that a capital sigma at the end of a word becomes a final sigma.
-/

namespace RpcReference.Text

/-- The image of a character under a table of runs and expansions; others map to themselves. -/
def mapCase (runs : List CaseRun) (expansions : List (Nat × List Nat)) (c : Char) : Text :=
  match expansions.find? (·.1 == c.toNat) with
  | some (_, image) => image.map Char.ofNat
  | none =>
    match runs.find? (·.covers c.toNat) with
    | some run => [run.apply c.toNat]
    | none => [c]

def lowerChar (c : Char) : Text :=
  mapCase lowerRuns lowerExpansions c

def upperChar (c : Char) : Text :=
  mapCase upperRuns upperExpansions c

/-- The first character that case does not ignore has a case. -/
def meetsCased (t : Text) : Bool :=
  match t.find? (! caseIgnorableRanges.contains ·) with
  | some c => casedRanges.contains c
  | none => false

/-- The lower-case form of a sigma between the text `before`, nearest character first, and the
text `after`: final when a word ends with it. -/
def lowerSigma (before after : Text) : Char :=
  if meetsCased before && !meetsCased after then 'ς' else 'σ'

/-- The lower-case form of `t` where `before`, nearest character first, stands in front of it. -/
def lowerAfter (before : Text) : Text → Text
  | [] => []
  | c :: t =>
    (if c = 'Σ' then [lowerSigma before t] else lowerChar c) ++ lowerAfter (c :: before) t

def lower (t : Text) : Text :=
  lowerAfter [] t

end RpcReference.Text
