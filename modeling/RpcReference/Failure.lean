import RpcReference.Files.Access
import RpcReference.Config.Reader
import RpcReference.Schema.Basic
import RpcReference.Text.Quoted
/-!
# Failures

Everything that can go wrong between a definition file and a document, with its cause, and the one
place where the wording is decided.
-/

namespace RpcReference

open Files

inductive Failure where
  | sourceUnreadable (path : Text) (cause : AccessError)
  | configUnreadable (path : Text) (cause : AccessError)
  /-- The text is no configuration; the path is known if it was read from a file. -/
  | configMalformed (path : Option Text) (problem : Config.Problem)
  | outputNotCreated (path : Text) (cause : AccessError)
  | unresolvedType (reference : Unresolved)
  deriving DecidableEq, Repr

def Failure.message : Failure → Text
  | .sourceUnreadable path cause =>
    "Parse error: Failed to read proto file ".toList ++ path ++ ": ".toList ++ cause.message
  | .configUnreadable path cause =>
    "Config error: Failed to read config file ".toList ++ Text.quoted path ++ ": ".toList
      ++ cause.message
  | .configMalformed path problem =>
    "Config error: Failed to parse config YAML: ".toList ++ problem.message
      ++ (match path with
        | some path => " (in ".toList ++ Text.quoted path ++ ")".toList
        | none => [])
  | .outputNotCreated path cause =>
    "Generation error: Failed to create ".toList ++ path ++ ": ".toList ++ cause.message
  | .unresolvedType reference =>
    "Unresolved type '".toList ++ reference.type ++ "' referenced by rpc ".toList ++ reference.call

def sourceRead (path : Text) : Except AccessError Text → Except Failure Text
  | .ok text => .ok text
  | .error cause => .error (.sourceUnreadable path cause)

def configRead (path : Text) : Except AccessError Text → Except Failure Config
  | .error cause => .error (.configUnreadable path cause)
  | .ok text =>
    match Config.parse text with
    | .ok config => .ok config
    | .error problem => .error (.configMalformed (some path) problem)

end RpcReference
