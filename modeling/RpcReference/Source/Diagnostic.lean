import RpcReference.Text.Basic
/-!
# Diagnostics

A declaration that is skipped, or that takes the place of an earlier one, is reported with its line
number and the cause.
-/

namespace RpcReference.Source

open Text

/-- Why a declaration is reported. -/
inductive Concern where
  /-- A call line that has no readable signature. -/
  | malformedCall (line : Text)
  /-- A call before the first service. -/
  | orphanCall (name : Text)
  | namelessMessage
  | replacedMessage (name : Text)
  | namelessEnum
  | replacedEnum (name : Text)
  deriving DecidableEq, Repr

def Concern.message : Concern → Text
  | .malformedCall line => "skipping malformed rpc declaration: ".toList ++ line
  | .orphanCall name => "rpc ".toList ++ name ++ " appears before any service".toList
  | .namelessMessage => "skipping message without a name".toList
  | .replacedMessage name => "message ".toList ++ name ++ " replaces an earlier declaration".toList
  | .namelessEnum => "skipping enum without a name".toList
  | .replacedEnum name => "enum ".toList ++ name ++ " replaces an earlier declaration".toList

/-- A concern about the declaration on one line; lines count from one. -/
structure Diagnostic where
  line : Nat
  concern : Concern
  deriving DecidableEq, Repr

def Diagnostic.message (d : Diagnostic) : Text :=
  d.concern.message

/-- The diagnostic with its line number in front. -/
def Diagnostic.text (d : Diagnostic) : Text :=
  "line ".toList ++ decimal d.line ++ ": ".toList ++ d.message

end RpcReference.Source
