import RpcReference.Command.Options
import RpcReference.Command.Console
import RpcReference.Command.Program
import RpcReference.Files.Generate
import RpcReference.Schema.Json
/-!
# The command

What the command does with its options: write the document of a definition file, or print what the
file declares as JSON.
-/

namespace RpcReference.Command

open Text Files Source Document

structure Setting where
  /-- The console has colours. -/
  colours : Bool
  /-- The path of the working directory. -/
  directory : Text
  deriving DecidableEq, Repr

def lineOf (parts : List Text) : Text :=
  parts.flatten ++ ['\n']

section

local instance : Coe String Text := ⟨String.toList⟩

/-! ### Texts -/

/-- The report of a failure: what was being done, and the indented cause. -/
def report (activity : Text) (failure : Failure) : Text :=
  line ["Error: ", activity, "\n\nCaused by:\n    ",
    join "\n    " (split '\n' failure.message), "\n"]

def arrow (setting : Setting) : Text :=
  Paint.cyan.apply setting.colours "→"

def warnings (setting : Setting) (path : Text) (diagnostics : List Diagnostic) : Text :=
  diagnostics.flatMap fun d =>
    lineOf [Paint.yellow.apply setting.colours "⚠", " ", path, ": ", d.text]

def summary (setting : Setting) (schema : Schema) : Text :=
  line [
    lineOf ["\n", Paint.bold.apply setting.colours "Schema:"],
    lineOf ["  Services: ", decimal schema.services.length],
    schema.services.flatMap fun s =>
      lineOf ["  • ", Paint.cyan.apply setting.colours s.name, " (", decimal s.calls.length,
        " calls)"],
    lineOf ["  Calls: ", decimal schema.numCalls],
    lineOf ["  Messages: ", decimal schema.messages.size],
    lineOf ["  Enums: ", decimal schema.enums.size]]

def success (setting : Setting) (output : Text) : Text :=
  lineOf ["\n", Paint.boldGreen.apply setting.colours
    (line ["✓ slate markdown written to ", output])]

/-! ### Programs -/

def printIf (verbose : Bool) (text : Text) (next : Program) : Program :=
  if verbose then .print text next else next

def fail (activity : Text) (failure : Failure) : Program :=
  .complain (report activity failure) (.exit 1)

def readSource (path : Text) (next : Text → Program) : Program :=
  .read path fun result =>
    match sourceRead path result with
    | .error failure => fail "Failed to load proto file" failure
    | .ok source => next source

/-- Reads the configuration, if there is one, and goes on with it. -/
def readConfig (verbose : Bool) (path : Option Text) (next : Config → Program) : Program :=
  match path with
  | none => next .standard
  | some path =>
    printIf verbose (lineOf ["  Config: ", path]) <|
      .read path fun result =>
        match configRead path result with
        | .error failure => fail "Failed to load document config" failure
        | .ok config => next config

def writeDocument (output : Text) (document : Rendering) (next : Program) : Program :=
  .create output document.written fun result =>
    match writeResult output document result with
    | .error failure => fail (line ["Failed to generate ", output]) failure
    | .ok () => next

def printFindings (input : Text) : Program :=
  readSource input fun source =>
    .print (lineOf [(findings source).toJson.indented]) (.exit 0)

def makeDocument (setting : Setting) (verbose : Bool) (input output : Text)
    (config : Option Text) : Program :=
  .print (lineOf [arrow setting, " Parsing proto file: ", input]) <|
  readSource input fun source =>
    let found := findings source
    .complain (warnings setting input found.diagnostics) <|
    printIf verbose (summary setting found.schema) <|
    readConfig verbose config fun config =>
      printIf verbose (lineOf ["  Output: ", output]) <|
      .print (lineOf [arrow setting, " Generating markdown..."]) <|
      writeDocument output (render ⟨found.schema, fileName input, config⟩) <|
      .print (success setting output) (.exit 0)

/-- Carries out a command line that follows the rules. -/
def command (setting : Setting) (options : Options) : Program :=
  match options.input with
  | none =>
    .complain (lineOf [Paint.red.apply setting.colours "✗", " no proto file provided"]) (.exit 1)
  | some input =>
    printIf options.verbose (lineOf [arrow setting, " Verbose mode enabled"]) <|
      if options.json then printFindings input
      else
        makeDocument setting options.verbose input
          (options.output.getD (defaultOutput input setting.directory)) options.config

def versionText : Text := "proto-slate 0.1.0\n"

def usageText : Text :=
  line [
    lineOf ["Usage: proto-slate [OPTIONS] [INPUT] [OUTPUT]\n\nOptions:"],
    lineOf ["  -c, --config <CONFIG>"],
    lineOf ["      --json"],
    lineOf ["  -v, --verbose"],
    lineOf ["  -h, --help"],
    lineOf ["  -V, --version"]]

/-- Carries out a command line. -/
def program (setting : Setting) (words : List Text) : Program :=
  match Options.parse words with
  | .ok options => command setting options
  | .error .version => .print versionText (.exit 0)
  | .error .help => .print usageText (.exit 0)
  | .error .misuse => .complain usageText (.exit 2)

end

end RpcReference.Command
