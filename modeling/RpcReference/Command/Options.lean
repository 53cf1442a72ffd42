import RpcReference.Text.Basic
/-!
# Command lines

Which arguments the program takes: up to two paths, an option with a value, and flags, each at most
once. Short flags can be written together, and an option takes the rest of its word as its value.
-/

namespace RpcReference.Command

open Text

structure Options where
  input : Option Text
  output : Option Text
  config : Option Text
  json : Bool
  verbose : Bool
  deriving DecidableEq, Repr

def Options.empty : Options := ⟨none, none, none, false, false⟩

/-- Why a command line is not carried out. -/
inductive Interruption where
  | version
  | help
  /-- The arguments do not follow the rules. -/
  | misuse
  deriving DecidableEq, Repr

inductive Flag where
  | config
  | json
  | verbose
  | version
  | help
  deriving DecidableEq, Repr

def Flag.ofName? (name : Text) : Option Flag :=
  if name = "config".toList then some .config
  else if name = "json".toList then some .json
  else if name = "verbose".toList then some .verbose
  else if name = "version".toList then some .version
  else if name = "help".toList then some .help
  else none

def Flag.ofChar? : Char → Option Flag
  | 'c' => some .config
  | 'v' => some .verbose
  | 'V' => some .version
  | 'h' => some .help
  | _ => none

namespace Options

/-- Takes a path. There may be two, and none of them is empty. -/
def addPath (o : Options) (path : Text) : Except Interruption Options :=
  if path.isEmpty then .error .misuse
  else
    match o.input, o.output with
    | none, _ => .ok { o with input := some path }
    | some _, none => .ok { o with output := some path }
    | some _, some _ => .error .misuse

def addConfig (o : Options) (path : Text) : Except Interruption Options :=
  if path.isEmpty || o.config.isSome then .error .misuse else .ok { o with config := some path }

def addFlag (o : Options) : Flag → Except Interruption Options
  | .config => .error .misuse
  | .json => if o.json then .error .misuse else .ok { o with json := true }
  | .verbose => if o.verbose then .error .misuse else .ok { o with verbose := true }
  | .version => .error .version
  | .help => .error .help

/-- What a word of the command line leads to. -/
inductive Step where
  | done (options : Options)
  /-- The next word is the path of the configuration. -/
  | configNext (options : Options)

/-- Takes a word of short flags, without its hyphen. -/
def shortFlags (o : Options) : Text → Except Interruption Step
  | [] => .ok (.done o)
  | c :: rest =>
    match Flag.ofChar? c with
    | none => .error .misuse
    | some .config =>
      match rest with
      | [] => .ok (.configNext o)
      | '=' :: value => (o.addConfig value).map .done
      | value => (o.addConfig value).map .done
    | some flag => do shortFlags (← o.addFlag flag) rest

/-- Takes a word that begins with two hyphens, without them. -/
def longFlag (o : Options) (word : Text) : Except Interruption Step :=
  match cut? '=' word with
  | some (name, value) =>
    match Flag.ofName? name with
    | some .config => (o.addConfig value).map .done
    | _ => .error .misuse
  | none =>
    match Flag.ofName? word with
    | some .config => .ok (.configNext o)
    | some flag => (o.addFlag flag).map .done
    | none => .error .misuse

/-- The word is a flag, not a path or value. A single hyphen is a path. -/
def isFlagWord (word : Text) : Bool :=
  word.startsWith ['-'] && word != ['-']

def addWord (o : Options) (word : Text) : Except Interruption Step :=
  match stripStart? ['-', '-'] word with
  | some name => o.longFlag name
  | none => if isFlagWord word then o.shortFlags (word.drop 1) else (o.addPath word).map .done

/-- Takes the words of a command line. After a word of two hyphens all words are paths. -/
def addWords (o : Options) : List Text → Except Interruption Options
  | [] => .ok o
  | word :: words =>
    if word = ['-', '-'] then words.foldlM addPath o
    else
      match o.addWord word with
      | .error interruption => .error interruption
      | .ok (.done o) => o.addWords words
      | .ok (.configNext o) =>
        match words with
        | [] => .error .misuse
        | value :: words =>
          if isFlagWord value then .error .misuse
          else
            match o.addConfig value with
            | .error interruption => .error interruption
            | .ok o => o.addWords words

def parse (words : List Text) : Except Interruption Options :=
  Options.empty.addWords words

end Options

end RpcReference.Command
