import RpcReference.Command.Run
/-!
# The executable

Runs the command on the files and the console of the system.
-/

namespace RpcReference

open Command Files

/-- The cause of an error that the system reports. -/
def accessError (e : IO.Error) : AccessError :=
  match e with
  | .noFileOrDirectory _ _ _ => .notFound
  | .inappropriateType _ code _ => if code == 20 then .notDirectory else .isDirectory
  | _ => .denied

def readSystem (path : Text) : IO (Except AccessError Text) := do
  try
    let bytes ← IO.FS.readBinFile (String.ofList path)
    match String.fromUTF8? bytes with
    | some text => return .ok text.toList
    | none => return .error .notText
  catch e => return .error (accessError e)

def createSystem (path text : Text) : IO (Except AccessError Unit) := do
  try
    IO.FS.writeFile (String.ofList path) (String.ofList text)
    return .ok ()
  catch e => return .error (accessError e)

def runSystem : Program → IO UInt32
  | .exit status => return status.toUInt32
  | .print text next => do
    (← IO.getStdout).putStr (String.ofList text)
    runSystem next
  | .complain text next => do
    (← IO.getStderr).putStr (String.ofList text)
    runSystem next
  | .read path next => do runSystem (next (← readSystem path))
  | .create path text next => do runSystem (next (← createSystem path text))

def systemColours : IO Bool := do
  if (← IO.getEnv "CLICOLOR_FORCE").any (· != "0") then return true
  if (← IO.getEnv "NO_COLOR").isSome then return false
  (← IO.getStdout).isTty

end RpcReference

def main (args : List String) : IO UInt32 := do
  let directory := (← IO.currentDir).toString.toList
  let setting : RpcReference.Command.Setting := ⟨← RpcReference.systemColours, directory⟩
  RpcReference.runSystem (RpcReference.Command.program setting (args.map String.toList))
