import RpcReference.Proofs.Courses
/-!
# What the command does to files

The definition file and the configuration are read before the output is opened, so a run that fails
to read them, or to open the output, leaves every file alone, even where the output stands at the
path of one of the files that were read. A run that opens the output leaves in it what was written
of the document, all of it exactly if the exit status is zero. A listing changes no file.
-/

namespace RpcReference.Command

open Text Files Source Document

variable {t : Tree} {directory input source : Text} {o : Options} {config : Config}

/-- What a document needs is there: the definition file, the settings, and a place for it. -/
structure Prepared (t : Tree) (directory : Text) (o : Options) (input source : Text)
    (config : Config) : Prop where
  source : t.read input = .ok source
  config : settings t o.config = .ok config
  output : t.CanCreate (o.outputPath input directory)

/-- What a run that makes a document does to files, and how it ends. -/
structure DocumentEffects (t : Tree) (directory : Text) (o : Options) (input : Text)
    (run : Outcome) : Prop where
  success : run.status = 0 ↔ ∃ source config, Prepared t directory o input source config ∧
    (findings source).schema.ResolvesAll
  otherwise : run.status ≠ 0 → run.status = 1
  /-- Without a failure, the output is the whole document. -/
  complete : ∀ source config, Prepared t directory o input source config →
    (findings source).schema.ResolvesAll →
    (documentOf input source config).failure = none ∧
      t.Saved (o.outputPath input directory) (documentOf input source config).written run.tree
  /-- A call that does not resolve leaves what was written before it. -/
  cut : ∀ source config, Prepared t directory o input source config →
    ¬ (findings source).schema.ResolvesAll →
    (∃ reference, (documentOf input source config).failure = some reference) ∧
      t.Saved (o.outputPath input directory) (documentOf input source config).written run.tree
  unchanged : (∀ source config, ¬ Prepared t directory o input source config) → run.tree = t

/-- What a run that lists the findings does to files, and how it ends. -/
structure ListingEffects (t : Tree) (input : Text) (run : Outcome) : Prop where
  success : run.status = 0 ↔ ∃ source, t.read input = .ok source
  otherwise : run.status ≠ 0 → run.status = 1
  unchanged : run.tree = t

/-- A run that finds no definition file, no settings or no place for the document. -/
theorem documentEffects_of_not_prepared {run : Outcome} (hstatus : run.status = 1)
    (htree : run.tree = t) (h : ∀ source config, ¬ Prepared t directory o input source config) :
    DocumentEffects t directory o input run where
  success := by
    rw [hstatus]
    refine iff_of_false Nat.one_ne_zero ?_
    rintro ⟨source, config, hprepared, -⟩
    exact h source config hprepared
  otherwise _ := hstatus
  complete source config hprepared := absurd hprepared (h source config)
  cut source config hprepared := absurd hprepared (h source config)
  unchanged _ := htree

/-- A run that opens the output and writes the document to it. -/
theorem documentEffects_of_create {run : Outcome} (hsource : t.read input = .ok source)
    (hconfig : settings t o.config = .ok config)
    (houtput : t.create (o.outputPath input directory) (documentOf input source config).written =
      .ok run.tree)
    (hsuccess : run.status = 0 ↔ (documentOf input source config).failure = none)
    (hotherwise : run.status ≠ 0 → run.status = 1) :
    DocumentEffects t directory o input run := by
  have hprepared : Prepared t directory o input source config :=
    ⟨hsource, hconfig, (Tree.canCreate_iff _).mpr ⟨run.tree, houtput⟩⟩
  have hunique : ∀ source' config', Prepared t directory o input source' config' →
      source' = source ∧ config' = config := by
    intro source' config' h
    exact ⟨Except.ok.inj (h.source.symm.trans hsource), Except.ok.inj (h.config.symm.trans hconfig)⟩
  have hsaved := Tree.saved_create houtput
  have hfailure : (documentOf input source config).failure = none ↔
      (findings source).schema.ResolvesAll := failure_render_eq_none_iff
  refine ⟨?_, hotherwise, ?_, ?_, fun h => absurd hprepared (h source config)⟩
  · rw [hsuccess, hfailure]
    refine ⟨fun hall => ⟨source, config, hprepared, hall⟩, ?_⟩
    rintro ⟨source', config', h, hall⟩
    obtain ⟨rfl, rfl⟩ := hunique source' config' h
    exact hall
  · intro source' config' h hall
    obtain ⟨rfl, rfl⟩ := hunique source' config' h
    exact ⟨hfailure.mpr hall, hsaved⟩
  · intro source' config' h hall
    obtain ⟨rfl, rfl⟩ := hunique source' config' h
    exact ⟨Option.ne_none_iff_exists'.mp fun hnone => hall (hfailure.mp hnone), hsaved⟩

theorem Course.documentEffects {setting : Setting} (course : Course t setting.directory o)
    (hinput : o.input = some input) (hjson : o.json = false) (verbose : Bool) :
    DocumentEffects t setting.directory o input ((course.account setting).outcome verbose) := by
  cases course with
  | noInput hnone =>
    rw [hinput] at hnone
    cases hnone
  | listed _ _ _ _ hlisted =>
    rw [hjson] at hlisted
    cases hlisted
  | noSource _ _ hinput' hsource =>
    cases hinput.symm.trans hinput'
    refine documentEffects_of_not_prepared rfl rfl fun _ _ h => ?_
    cases h.source.symm.trans hsource
  | noConfig _ _ _ _ _ _ hconfig =>
    refine documentEffects_of_not_prepared rfl rfl fun _ _ h => ?_
    cases h.config.symm.trans hconfig
  | noOutput _ source config _ hinput' hsource _ hconfig houtput =>
    cases hinput.symm.trans hinput'
    refine documentEffects_of_not_prepared rfl rfl fun _ _ h => ?_
    obtain ⟨after, hcreated⟩ :=
      (Tree.canCreate_iff (documentOf input source config).written).mp h.output
    cases houtput.symm.trans hcreated
  | stopped _ _ _ _ _ hinput' hsource _ hconfig houtput hfailure =>
    cases hinput.symm.trans hinput'
    refine documentEffects_of_create hsource hconfig houtput ?_ fun _ => rfl
    rw [hfailure]
    exact iff_of_false Nat.one_ne_zero (Option.some_ne_none _)
  | finished _ _ _ _ hinput' hsource _ hconfig houtput hfailure =>
    cases hinput.symm.trans hinput'
    exact documentEffects_of_create hsource hconfig houtput (iff_of_true rfl hfailure)
      fun hne => absurd rfl hne

theorem Course.listingEffects {setting : Setting} (course : Course t setting.directory o)
    (hinput : o.input = some input) (hjson : o.json = true) (verbose : Bool) :
    ListingEffects t input ((course.account setting).outcome verbose) := by
  cases course with
  | noInput hnone =>
    rw [hinput] at hnone
    cases hnone
  | noSource _ _ hinput' hsource =>
    cases hinput.symm.trans hinput'
    refine ⟨iff_of_false Nat.one_ne_zero ?_, fun _ => rfl, rfl⟩
    rintro ⟨source, h⟩
    cases h.symm.trans hsource
  | listed _ source hinput' hsource _ =>
    cases hinput.symm.trans hinput'
    exact ⟨iff_of_true rfl ⟨source, hsource⟩, fun hne => absurd rfl hne, rfl⟩
  | noConfig _ _ _ _ _ hdocument _ | noOutput _ _ _ _ _ _ hdocument _ _
  | stopped _ _ _ _ _ _ _ hdocument _ _ _ | finished _ _ _ _ _ _ hdocument _ _ _ =>
    rw [hjson] at hdocument
    cases hdocument

/-- What became of the files and of the exit status, for every command line with a definition file
and every file tree. Nothing is asked of the paths: they may lead to one and the same file. -/
theorem effects_command (setting : Setting) (o : Options) (t : Tree) {input : Text}
    (hinput : o.input = some input) :
    (o.json = false →
      DocumentEffects t setting.directory o input ((command setting o).run t)) ∧
    (o.json = true → ListingEffects t input ((command setting o).run t)) := by
  obtain ⟨course⟩ := nonempty_course t setting.directory o
  have hrun : (command setting o).run t = (course.account setting).outcome o.verbose :=
    run_command setting course o.verbose
  rw [hrun]
  exact ⟨fun hjson => course.documentEffects hinput hjson o.verbose,
    fun hjson => course.listingEffects hinput hjson o.verbose⟩

/-- A definition file whose document is to take its own place, under another path. -/
def echoSource : Text :=
  "service Echo \x7b\n  rpc Say (Ping) returns (Ping);\n\x7d\nmessage Ping \x7b\x7d\n".toList

def echoTree : Tree :=
  ⟨"/work".toList, .ofList [("echo.proto".toList, some echoSource)], []⟩

def echoSetting : Setting :=
  ⟨true, "/work".toList⟩

def echoOptions : Options :=
  ⟨some "echo.proto".toList, some "./echo.proto".toList, none, false, false⟩

theorem effects_echoTree :
    echoTree.read "echo.proto".toList = .ok echoSource ∧
    ((command echoSetting echoOptions).run echoTree).status = 0 ∧
    ((command echoSetting echoOptions).run echoTree).tree.read "./echo.proto".toList =
      .ok (documentOf "echo.proto".toList echoSource .standard).written := by
  have hprepared : Prepared echoTree echoSetting.directory echoOptions "echo.proto".toList echoSource
      .standard := ⟨rfl, rfl, ⟨_, rfl⟩⟩
  have hall : (findings echoSource).schema.ResolvesAll := by
    rw [Schema.ResolvesAll]
    decide +kernel
  have heffects := (effects_command echoSetting echoOptions echoTree rfl).1 rfl
  exact ⟨rfl, heffects.success.mpr ⟨echoSource, .standard, hprepared, hall⟩,
    (heffects.complete echoSource .standard hprepared hall).2.read⟩

end RpcReference.Command
