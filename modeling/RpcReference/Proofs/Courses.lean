import RpcReference.Command.Run
import RpcReference.Proofs.Rendering
import RpcReference.Proofs.SavedFiles
/-!
# How a run of the command goes

A run ends in one of seven ways, and which one is decided by the files and by what the command line
asks for, not by how much the console shows or in which colours. `Course` lists the ways, each with
what was found on it; `Course.account` says what a run that takes it does. The laws about the
command go by cases on the course.
-/

namespace RpcReference.Command

open Text Files Source Document

/-- Some lines on the console. Details are left out unless asked for. -/
structure Passage where
  detail : Bool
  text : Text

/-- What a run does, with all details. -/
structure Account where
  status : Nat
  passages : List Passage
  complaints : Text
  tree : Tree

/-- The passages that a console shows. -/
def shown (verbose : Bool) (passages : List Passage) : Text :=
  (passages.filter fun p => verbose || !p.detail).flatMap Passage.text

def Account.outcome (a : Account) (verbose : Bool) : Outcome :=
  ⟨a.status, shown verbose a.passages, a.complaints, a.tree⟩

def Options.outputPath (o : Options) (input directory : Text) : Text :=
  o.output.getD (defaultOutput input directory)

def settings (t : Tree) : Option Text → Except Failure Config
  | none => .ok .standard
  | some path => loadConfig t path

/-- How a run goes: up to where it gets, and what it finds until then. -/
inductive Course (t : Tree) (directory : Text) (o : Options) where
  | noInput (hinput : o.input = none)
  | noSource (input : Text) (cause : AccessError) (hinput : o.input = some input)
      (hsource : t.read input = .error cause)
  | listed (input source : Text) (hinput : o.input = some input)
      (hsource : t.read input = .ok source) (hjson : o.json = true)
  | noConfig (input source : Text) (failure : Failure) (hinput : o.input = some input)
      (hsource : t.read input = .ok source) (hjson : o.json = false)
      (hconfig : settings t o.config = .error failure)
  | noOutput (input source : Text) (config : Config) (cause : AccessError)
      (hinput : o.input = some input) (hsource : t.read input = .ok source) (hjson : o.json = false)
      (hconfig : settings t o.config = .ok config)
      (houtput : t.create (o.outputPath input directory)
        (documentOf input source config).written = .error cause)
  | stopped (input source : Text) (config : Config) (after : Tree) (reference : Unresolved)
      (hinput : o.input = some input) (hsource : t.read input = .ok source) (hjson : o.json = false)
      (hconfig : settings t o.config = .ok config)
      (houtput : t.create (o.outputPath input directory)
        (documentOf input source config).written = .ok after)
      (hfailure : (documentOf input source config).failure = some reference)
  | finished (input source : Text) (config : Config) (after : Tree)
      (hinput : o.input = some input) (hsource : t.read input = .ok source) (hjson : o.json = false)
      (hconfig : settings t o.config = .ok config)
      (houtput : t.create (o.outputPath input directory)
        (documentOf input source config).written = .ok after)
      (hfailure : (documentOf input source config).failure = none)

theorem nonempty_course (t : Tree) (directory : Text) (o : Options) :
    Nonempty (Course t directory o) := by
  cases hinput : o.input with
  | none => exact ⟨.noInput hinput⟩
  | some input =>
    cases hsource : t.read input with
    | error cause => exact ⟨.noSource input cause hinput hsource⟩
    | ok source =>
      cases hjson : o.json with
      | true => exact ⟨.listed input source hinput hsource hjson⟩
      | false =>
        cases hconfig : settings t o.config with
        | error failure => exact ⟨.noConfig input source failure hinput hsource hjson hconfig⟩
        | ok config =>
          cases houtput : t.create (o.outputPath input directory)
              (documentOf input source config).written with
          | error cause =>
            exact ⟨.noOutput input source config cause hinput hsource hjson hconfig houtput⟩
          | ok after =>
            cases hfailure : (documentOf input source config).failure with
            | some reference =>
              exact ⟨.stopped input source config after reference hinput hsource hjson hconfig
                houtput hfailure⟩
            | none =>
              exact ⟨.finished input source config after hinput hsource hjson hconfig houtput
                hfailure⟩

/-! ### The account of a course -/

section

local instance : Coe String Text := ⟨String.toList⟩

variable (setting : Setting)

/-- The passage in front of all others. -/
def banner : Passage :=
  ⟨true, lineOf [arrow setting, " Verbose mode enabled"]⟩

/-- The passages before a definition file is read. -/
def opening (o : Options) (input : Text) : List Passage :=
  banner setting ::
    if o.json then [] else [⟨false, lineOf [arrow setting, " Parsing proto file: ", input]⟩]

/-- The passages about a configuration. -/
def configPassages (path : Option Text) : List Passage :=
  path.toList.map fun path => ⟨true, lineOf ["  Config: ", path]⟩

/-- The passages about what was found and about the configuration. -/
def survey (o : Options) (source : Text) : List Passage :=
  ⟨true, summary setting (findings source).schema⟩ :: configPassages o.config

/-- The passages before a document is written. -/
def announcement (output : Text) : List Passage :=
  [⟨true, lineOf ["  Output: ", output]⟩,
    ⟨false, lineOf [arrow setting, " Generating markdown..."]⟩]

/-- The passages of a run up to the point where it writes the document. -/
def progress (o : Options) (input source : Text) : List Passage :=
  opening setting o input ++ survey setting o source
    ++ announcement setting (o.outputPath input setting.directory)

/-- The warnings about a definition file. -/
def cautions (input source : Text) : Text :=
  warnings setting input (findings source).diagnostics

/-- The activity that a failed run was about. -/
def generating (output : Text) : Text :=
  line ["Failed to generate ", output]

variable {t : Tree} {o : Options}

/-- What a run that takes the course does. -/
def Course.account : Course t setting.directory o → Account
  | .noInput _ =>
    ⟨1, [], lineOf [Paint.red.apply setting.colours "✗", " no proto file provided"], t⟩
  | .noSource input cause _ _ =>
    ⟨1, opening setting o input,
      report "Failed to load proto file" (.sourceUnreadable input cause), t⟩
  | .listed input source _ _ _ =>
    ⟨0, opening setting o input ++ [⟨false, lineOf [(findings source).toJson.indented]⟩], [], t⟩
  | .noConfig input source failure _ _ _ _ =>
    ⟨1, opening setting o input ++ survey setting o source,
      cautions setting input source ++ report "Failed to load document config" failure, t⟩
  | .noOutput input source _ cause _ _ _ _ _ =>
    let output := o.outputPath input setting.directory
    ⟨1, progress setting o input source,
      cautions setting input source ++ report (generating output) (.outputNotCreated output cause),
      t⟩
  | .stopped input source _ after reference _ _ _ _ _ _ =>
    let output := o.outputPath input setting.directory
    ⟨1, progress setting o input source,
      cautions setting input source ++ report (generating output) (.unresolvedType reference),
      after⟩
  | .finished input source _ after _ _ _ _ _ _ =>
    let output := o.outputPath input setting.directory
    ⟨0, progress setting o input source ++ [⟨false, success setting output⟩],
      cautions setting input source, after⟩

/-! ### Runs take their course

Each piece of the command has a law for every way it can go on, and a run is put together from
them. -/

theorem shown_append (verbose : Bool) (front back : List Passage) :
    shown verbose (front ++ back) = shown verbose front ++ shown verbose back := by
  simp [shown]

theorem shown_plain (verbose : Bool) (text : Text) : shown verbose [⟨false, text⟩] = text := by
  simp [shown]

theorem shown_detail (verbose : Bool) (text : Text) :
    shown verbose [⟨true, text⟩] = if verbose then text else [] := by
  cases verbose <;> simp [shown]

variable {path source : Text} {cause : AccessError} {failure : Failure} {verbose : Bool}

theorem run_printIf (verbose : Bool) (text : Text) (next : Program) :
    (printIf verbose text next).run t = (next.run t).printed (shown verbose [⟨true, text⟩]) := by
  rw [shown_detail, printIf]
  split
  · rfl
  · rfl

theorem run_fail (activity : Text) (failure : Failure) :
    (fail activity failure).run t = ⟨1, [], report activity failure, t⟩ := by
  simp [fail, Program.run, Outcome.complained]

theorem run_readSource_of_ok (h : t.read path = .ok source) (next : Text → Program) :
    (readSource path next).run t = (next source).run t := by
  rw [readSource, Program.run, h]
  rfl

theorem run_readSource_of_error (h : t.read path = .error cause) (next : Text → Program) :
    (readSource path next).run t =
      ⟨1, [], report "Failed to load proto file" (.sourceUnreadable path cause), t⟩ := by
  rw [readSource, Program.run, h]
  exact run_fail _ _

theorem run_readConfig_of_ok {path : Option Text} {config : Config}
    (h : settings t path = .ok config) (next : Config → Program) :
    (readConfig verbose path next).run t =
      ((next config).run t).printed (shown verbose (configPassages path)) := by
  cases path with
  | none =>
    cases h
    simp [readConfig, configPassages, shown, Outcome.printed]
  | some path =>
    have hread : configRead path (t.read path) = .ok config := h
    simp only [readConfig]
    rw [run_printIf, Program.run, hread]
    rfl

theorem run_readConfig_of_error {path : Option Text} (h : settings t path = .error failure)
    (next : Config → Program) :
    (readConfig verbose path next).run t =
      ⟨1, shown verbose (configPassages path), report "Failed to load document config" failure,
        t⟩ := by
  cases path with
  | none => cases h
  | some path =>
    have hread : configRead path (t.read path) = .error failure := h
    simp only [readConfig]
    rw [run_printIf, Program.run, hread, run_fail]
    simp [Outcome.printed, configPassages]

variable {output : Text} {document : Rendering} {after : Tree}

theorem run_writeDocument_of_error (h : t.create output document.written = .error cause)
    (next : Program) :
    (writeDocument output document next).run t =
      ⟨1, [], report (generating output) (.outputNotCreated output cause), t⟩ := by
  rw [writeDocument, Program.run, h]
  exact run_fail _ _

theorem run_writeDocument_of_stopped {reference : Unresolved}
    (h : t.create output document.written = .ok after)
    (hfailure : document.failure = some reference) (next : Program) :
    (writeDocument output document next).run t =
      ⟨1, [], report (generating output) (.unresolvedType reference), after⟩ := by
  rw [writeDocument, Program.run, h]
  simp only [writeResult, hfailure]
  exact run_fail _ _

theorem run_writeDocument_of_complete (h : t.create output document.written = .ok after)
    (hfailure : document.failure = none) (next : Program) :
    (writeDocument output document next).run t = next.run after := by
  rw [writeDocument, Program.run, h]
  simp only [writeResult, hfailure]

theorem printed_printed (a : Outcome) (front back : Text) :
    (a.printed back).printed front = a.printed (front ++ back) := by
  simp only [Outcome.printed, List.append_assoc]

theorem shown_opening_of_json (hjson : o.json = true) (verbose : Bool) (input : Text) :
    shown verbose (opening setting o input) = shown verbose [banner setting] := by
  rw [opening, if_pos hjson]

theorem shown_opening_of_document (hjson : o.json = false) (verbose : Bool) (input : Text) :
    shown verbose (opening setting o input) =
      shown verbose [banner setting] ++ lineOf [arrow setting, " Parsing proto file: ", input] := by
  rw [opening, if_neg (by simp [hjson]), ← List.singleton_append, shown_append, shown_plain]

theorem shown_survey (verbose : Bool) (source : Text) :
    shown verbose (survey setting o source) =
      shown verbose [⟨true, summary setting (findings source).schema⟩]
        ++ shown verbose (configPassages o.config) := by
  rw [survey, ← List.singleton_append, shown_append]

theorem shown_announcement (verbose : Bool) (output : Text) :
    shown verbose (announcement setting output) =
      shown verbose [⟨true, lineOf ["  Output: ", output]⟩]
        ++ lineOf [arrow setting, " Generating markdown..."] := by
  rw [announcement, ← List.singleton_append, shown_append, shown_plain]

theorem run_command_of_json {input : Text} (hinput : o.input = some input) (hjson : o.json = true)
    (verbose : Bool) :
    (command setting { o with verbose := verbose }).run t =
      ((printFindings input).run t).printed (shown verbose (opening setting o input)) := by
  simp only [command, hinput, hjson, if_pos]
  rw [run_printIf, shown_opening_of_json setting hjson, banner]

theorem run_command_of_document {input : Text} (hinput : o.input = some input)
    (hjson : o.json = false) (verbose : Bool) :
    (command setting { o with verbose := verbose }).run t =
      ((readSource input fun source =>
        .complain (cautions setting input source) <|
        printIf verbose (summary setting (findings source).schema) <|
        readConfig verbose o.config fun config =>
          printIf verbose (lineOf ["  Output: ", o.outputPath input setting.directory]) <|
          .print (lineOf [arrow setting, " Generating markdown..."]) <|
          writeDocument (o.outputPath input setting.directory) (documentOf input source config) <|
          .print (success setting (o.outputPath input setting.directory)) (.exit 0)).run t).printed
        (shown verbose (opening setting o input)) := by
  simp only [command, hinput, hjson]
  rw [if_neg Bool.false_ne_true, run_printIf, shown_opening_of_document setting hjson,
    ← printed_printed, banner]
  rfl

theorem run_command (course : Course t setting.directory o) (verbose : Bool) :
    (command setting { o with verbose := verbose }).run t =
      (course.account setting).outcome verbose := by
  cases course with
  | noInput hinput =>
    simp only [command, hinput, Program.run, Outcome.complained, List.append_nil]
    rfl
  | noSource input cause hinput hsource =>
    rcases Bool.eq_false_or_eq_true o.json with hjson | hjson
    · rw [run_command_of_json setting hinput hjson, printFindings, run_readSource_of_error hsource,
        Outcome.printed, List.append_nil]
      rfl
    · rw [run_command_of_document setting hinput hjson, run_readSource_of_error hsource,
        Outcome.printed, List.append_nil]
      rfl
  | listed input source hinput hsource hjson =>
    rw [run_command_of_json setting hinput hjson, printFindings, run_readSource_of_ok hsource,
      Account.outcome, Course.account, shown_append, shown_plain]
    simp only [Program.run, Outcome.printed, List.append_nil]
  | noConfig input source failure hinput hsource hjson hconfig =>
    rw [run_command_of_document setting hinput hjson, run_readSource_of_ok hsource, Program.run,
      run_printIf, run_readConfig_of_error hconfig, Account.outcome, Course.account, shown_append,
      shown_survey]
    rfl
  | noOutput input source config cause hinput hsource hjson hconfig houtput =>
    rw [run_command_of_document setting hinput hjson, run_readSource_of_ok hsource, Program.run,
      run_printIf, run_readConfig_of_ok hconfig, run_printIf, Program.run,
      run_writeDocument_of_error houtput]
    simp only [Account.outcome, Course.account, progress, shown_append, shown_survey,
      shown_announcement, Outcome.printed, Outcome.complained, List.append_assoc, List.append_nil]
  | stopped input source config after reference hinput hsource hjson hconfig houtput hfailure =>
    rw [run_command_of_document setting hinput hjson, run_readSource_of_ok hsource, Program.run,
      run_printIf, run_readConfig_of_ok hconfig, run_printIf, Program.run,
      run_writeDocument_of_stopped houtput hfailure]
    simp only [Account.outcome, Course.account, progress, shown_append, shown_survey,
      shown_announcement, Outcome.printed, Outcome.complained, List.append_assoc, List.append_nil]
  | finished input source config after hinput hsource hjson hconfig houtput hfailure =>
    rw [run_command_of_document setting hinput hjson, run_readSource_of_ok hsource, Program.run,
      run_printIf, run_readConfig_of_ok hconfig, run_printIf, Program.run,
      run_writeDocument_of_complete houtput hfailure]
    simp only [Account.outcome, Course.account, progress, shown_append, shown_survey, shown_plain,
      shown_announcement, Outcome.printed, Outcome.complained, Program.run, List.append_assoc,
      List.append_nil]

end

end RpcReference.Command
