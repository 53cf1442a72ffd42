import RpcReference.Proofs.ConsoleText
import RpcReference.Proofs.Courses
import RpcReference.Proofs.Tables
import RpcReference.Proofs.WholeLines
/-!
# Details and colours are for the console alone

Which course a run takes depends neither on the details it shows nor on colours, so its status and
its files do not either. Details are whole lines between the other lines. Colours are control
sequences around texts that have none of their own, unless a path or a file has.
-/

namespace RpcReference.Command

open Text Files Source Document

/-- The outcomes differ in the details on the console alone. -/
structure Outcome.DifferInDetails (brief detailed : Outcome) : Prop where
  status : detailed.status = brief.status
  complaints : detailed.complaints = brief.complaints
  tree : detailed.tree = brief.tree
  output : (split '\n' brief.output).Sublist (split '\n' detailed.output)

/-- The outcomes differ in the colours on the console alone. -/
structure Outcome.DifferInColours (coloured plain : Outcome) : Prop where
  status : coloured.status = plain.status
  tree : coloured.tree = plain.tree
  output : withoutSequences coloured.output = plain.output
  complaints : withoutSequences coloured.complaints = plain.complaints

/-- No path of the run and no file has a control sequence in it. -/
structure Unstyled (t : Tree) (directory : Text) (o : Options) : Prop where
  directory : Colourless directory
  input : ∀ path ∈ o.input, Colourless path
  output : ∀ path ∈ o.output, Colourless path
  config : ∀ path ∈ o.config, Colourless path
  files : ∀ content ∈ t.files.values, ∀ text ∈ content, Colourless text

section

variable {t : Tree} {directory : Text} {o : Options} {input source : Text}

theorem Unstyled.colourless_source (h : Unstyled t directory o)
    (hsource : t.read input = .ok source) : Colourless source := by
  obtain ⟨place, -, hread⟩ := bind_eq_ok_iff.mp hsource
  split at hread
  · cases hread
  · cases hread
  · cases hread
  · next text hoccupant =>
    cases hread
    unfold Tree.occupant at hoccupant
    split at hoccupant
    · cases hoccupant
    · cases hoccupant
    · dsimp only at hoccupant
      split at hoccupant
      · next content hfile =>
        cases hoccupant
        exact h.files _ (Table.mem_values_of_get? hfile) source rfl
      · split at hoccupant
        · cases hoccupant
        · cases hoccupant

theorem Unstyled.colourless_outputPath (h : Unstyled t directory o)
    (hinput : o.input = some input) : Colourless (o.outputPath input directory) := by
  unfold Options.outputPath
  cases houtput : o.output with
  | none => exact colourless_defaultOutput (h.input input hinput) h.directory
  | some path => exact h.output path houtput

theorem Unstyled.colourless_failure (h : Unstyled t directory o) {failure : Failure}
    (hconfig : settings t o.config = .error failure) : Colourless failure.message := by
  cases hpath : o.config with
  | none =>
    rw [hpath] at hconfig
    cases hconfig
  | some path =>
    rw [hpath] at hconfig
    exact colourless_of_loadConfig hconfig (h.config path hpath)

/-! ### Details -/

variable {setting : Setting}

theorem shown_cons (verbose : Bool) (p : Passage) (ps : List Passage) :
    shown verbose (p :: ps) =
      (if verbose || !p.detail then p.text else []) ++ shown verbose ps := by
  unfold shown
  rw [List.filter_cons]
  split
  · rw [List.flatMap_cons]
  · rfl

theorem sublist_shown {ps : List Passage} (h : ∀ p ∈ ps, WholeLines p.text) :
    (split '\n' (shown false ps)).Sublist (split '\n' (shown true ps)) := by
  induction ps with
  | nil => exact List.Sublist.refl _
  | cons p ps ih =>
    obtain ⟨hp, hps⟩ := List.forall_mem_cons.mp h
    obtain ⟨above, hsplit⟩ := hp.exists_split
    rw [shown_cons, shown_cons, Bool.true_or, if_pos rfl, hsplit]
    -- A detail puts whole lines above the others; any other passage puts the same lines on both.
    cases p.detail with
    | true => exact (ih hps).trans (List.sublist_append_right above _)
    | false =>
      rw [Bool.false_or, Bool.not_false, if_pos rfl, hsplit]
      exact (ih hps).append_left above

theorem wholeLines_lineOf (parts : List Text) : WholeLines (lineOf parts) :=
  Or.inr ⟨parts.flatten, rfl⟩

theorem wholeLines_summary (schema : Schema) : WholeLines (summary setting schema) := by
  unfold summary line
  simp only [List.flatten_cons, List.flatten_nil, List.append_nil]
  refine (wholeLines_lineOf _).append <| (wholeLines_lineOf _).append <|
    (wholeLines_flatMap (fun _ => wholeLines_lineOf _) _).append <|
    (wholeLines_lineOf _).append <| (wholeLines_lineOf _).append (wholeLines_lineOf _)

theorem wholeLines_opening : ∀ p ∈ opening setting o input, WholeLines p.text := by
  unfold opening
  split <;> simp [banner, wholeLines_lineOf]

theorem wholeLines_survey : ∀ p ∈ survey setting o source, WholeLines p.text := by
  simp [survey, configPassages, wholeLines_summary, wholeLines_lineOf]

theorem wholeLines_progress : ∀ p ∈ progress setting o input source, WholeLines p.text := by
  simp only [progress, List.forall_mem_append]
  refine ⟨⟨wholeLines_opening, wholeLines_survey⟩, ?_⟩
  simp [announcement, wholeLines_lineOf]

theorem wholeLines_account (course : Course t setting.directory o) :
    ∀ p ∈ (course.account setting).passages, WholeLines p.text := by
  cases course with
  | noInput => exact List.forall_mem_nil _
  | noSource => exact wholeLines_opening
  | listed =>
    exact List.forall_mem_append.mpr
      ⟨wholeLines_opening, List.forall_mem_singleton.mpr (wholeLines_lineOf _)⟩
  | noConfig => exact List.forall_mem_append.mpr ⟨wholeLines_opening, wholeLines_survey⟩
  | noOutput | stopped => exact wholeLines_progress
  | finished =>
    exact List.forall_mem_append.mpr
      ⟨wholeLines_progress, List.forall_mem_singleton.mpr (wholeLines_lineOf _)⟩

theorem differInDetails_command (setting : Setting) (o : Options) (t : Tree) :
    Outcome.DifferInDetails ((command setting { o with verbose := false }).run t)
      ((command setting { o with verbose := true }).run t) := by
  obtain ⟨course⟩ := nonempty_course t setting.directory o
  rw [run_command setting course, run_command setting course]
  exact ⟨rfl, rfl, rfl, sublist_shown (wholeLines_account course)⟩

/-! ### Colours -/

/-- The passage is the plain form of a coloured one. -/
structure Passage.IsPlainOf (plain coloured : Passage) : Prop where
  detail : coloured.detail = plain.detail
  text : Uncolours coloured.text plain.text

theorem uncolours_shown {ps ps' : List Passage}
    (h : List.Forall₂ (fun coloured plain => plain.IsPlainOf coloured) ps ps') (verbose : Bool) :
    Uncolours (shown verbose ps) (shown verbose ps') := by
  induction h with
  | nil => exact fun _ => rfl
  | cons hp _ ih =>
    rw [shown_cons, shown_cons, hp.detail]
    refine Uncolours.append ?_ ih
    split
    · exact hp.text
    · exact fun _ => rfl

theorem colourless_pair {label text : Text} (hlabel : Colourless label) (htext : Colourless text) :
    ∀ part ∈ [label, text], Colourless part :=
  List.forall_mem_cons.mpr ⟨hlabel, List.forall_mem_singleton.mpr htext⟩

theorem uncolours_lineOf {parts : List Text} (h : ∀ part ∈ parts, Colourless part) :
    Uncolours (lineOf parts) (lineOf parts) := by
  have hline : Colourless (lineOf parts) :=
    colourless_append.mpr ⟨colourless_flatten h, by decide⟩
  exact hline.uncolours

/-- A line with one painted text in it. -/
theorem uncolours_lineOf_paint (front : List Text) (paint : Paint) {t : Text} {back : List Text}
    (hfront : ∀ part ∈ front, Colourless part) (ht : Colourless t)
    (hback : ∀ part ∈ back, Colourless part) :
    Uncolours (lineOf (front ++ paint.apply true t :: back))
      (lineOf (front ++ paint.apply false t :: back)) := by
  simp only [lineOf, List.flatten_append, List.flatten_cons, List.append_assoc]
  refine (colourless_flatten hfront).uncolours.append ((uncolours_apply paint ht).append ?_)
  exact uncolours_lineOf hback

theorem uncolours_arrow {parts : List Text} (h : ∀ part ∈ parts, Colourless part) :
    Uncolours (lineOf (arrow ⟨true, directory⟩ :: parts))
      (lineOf (arrow ⟨false, directory⟩ :: parts)) :=
  uncolours_lineOf_paint [] .cyan (List.forall_mem_nil _) (by decide) h

theorem uncolours_summary {schema : Schema} (h : ∀ s ∈ schema.services, Colourless s.name) :
    Uncolours (summary ⟨true, directory⟩ schema) (summary ⟨false, directory⟩ schema) := by
  have hcount {label : Text} (hlabel : Colourless label) (n : Nat) :
      Uncolours (lineOf [label, decimal n]) (lineOf [label, decimal n]) :=
    uncolours_lineOf (colourless_pair hlabel (colourless_decimal n))
  refine uncolours_flatten (.cons ?heading (.cons (hcount ?_ _) (.cons ?services
    (.cons (hcount ?_ _) (.cons (hcount ?_ _) (.cons (hcount ?_ _) .nil))))))
  case heading =>
    exact uncolours_lineOf_paint ["\n".toList] .bold (by decide) (by decide) (List.forall_mem_nil _)
  case services =>
    refine uncolours_flatMap fun s hs => ?_
    refine uncolours_lineOf_paint ["  • ".toList] .cyan (by decide) (h s hs) ?_
    simp [colourless_decimal]
  all_goals decide

/-- What is printed to the console in colours, and what is printed without. -/
abbrev PlainForms : List Passage → List Passage → Prop :=
  List.Forall₂ fun coloured plain => plain.IsPlainOf coloured

theorem plainForms_opening (h : Unstyled t directory o) (hinput : o.input = some input) :
    PlainForms (opening ⟨true, directory⟩ o input) (opening ⟨false, directory⟩ o input) := by
  have hpath := h.input input hinput
  refine .cons ⟨rfl, uncolours_arrow (by decide)⟩ ?_
  split
  · exact .nil
  · refine .cons ⟨rfl, uncolours_arrow ?_⟩ .nil
    exact colourless_pair (by decide) hpath

theorem plainForms_survey (h : Unstyled t directory o) (hsource : Colourless source) :
    PlainForms (survey ⟨true, directory⟩ o source) (survey ⟨false, directory⟩ o source) := by
  refine .cons ⟨rfl, uncolours_summary fun s hs => ?_⟩ ?_
  · have hname := (takenFrom_findings source).services s hs s.name List.mem_cons_self
    exact hsource.of_subset hname
  · refine List.forall₂_same.mpr fun p hp => ?_
    obtain ⟨path, hpath, rfl⟩ := List.mem_map.mp hp
    have hcolourless := h.config path (Option.mem_toList.mp hpath)
    exact ⟨rfl, uncolours_lineOf (colourless_pair (by decide) hcolourless)⟩

theorem plainForms_progress (h : Unstyled t directory o) (hinput : o.input = some input)
    (hsource : Colourless source) :
    PlainForms (progress ⟨true, directory⟩ o input source)
      (progress ⟨false, directory⟩ o input source) := by
  have houtput := h.colourless_outputPath hinput
  refine List.rel_append
    (List.rel_append (plainForms_opening h hinput) (plainForms_survey h hsource)) ?_
  refine .cons ⟨rfl, uncolours_lineOf ?_⟩ (.cons ⟨rfl, uncolours_arrow (by decide)⟩ .nil)
  exact colourless_pair (by decide) houtput

theorem uncolours_cautions (hinput : Colourless input) (hsource : Colourless source) :
    Uncolours (cautions ⟨true, directory⟩ input source)
      (cautions ⟨false, directory⟩ input source) := by
  refine uncolours_flatMap fun d hd => ?_
  have htext := colourless_diagnostic
    (hsource.of_subset ((takenFrom_findings source).diagnostics d hd))
  refine uncolours_lineOf_paint [] .yellow (List.forall_mem_nil _) (by decide) ?_
  simp only [List.forall_mem_cons]
  exact ⟨by decide, hinput, by decide, htext, List.forall_mem_nil _⟩

theorem uncolours_success {output : Text} (houtput : Colourless output) :
    Uncolours (success ⟨true, directory⟩ output) (success ⟨false, directory⟩ output) := by
  refine uncolours_lineOf_paint ["\n".toList] .boldGreen (by decide) ?_ (List.forall_mem_nil _)
  exact colourless_flatten (colourless_pair (by decide) houtput)

theorem colourless_generating {output : Text} (houtput : Colourless output) :
    Colourless (generating output) :=
  colourless_flatten (colourless_pair (by decide) houtput)

/-- What a run does in colours, and what it does without. -/
structure Account.IsPlainOf (plain coloured : Account) : Prop where
  status : coloured.status = plain.status
  passages : PlainForms coloured.passages plain.passages
  complaints : Uncolours coloured.complaints plain.complaints
  tree : coloured.tree = plain.tree

theorem Course.isPlainOf_account (course : Course t directory o) (h : Unstyled t directory o) :
    (course.account ⟨false, directory⟩).IsPlainOf (course.account ⟨true, directory⟩) := by
  cases course with
  | noInput _ =>
    refine ⟨rfl, .nil, ?_, rfl⟩
    exact uncolours_lineOf_paint [] .red (List.forall_mem_nil _) (by decide) (by decide)
  | noSource input cause hinput _ =>
    have hfailure := colourless_sourceUnreadable (h.input input hinput) cause
    refine ⟨rfl, plainForms_opening h hinput, ?_, rfl⟩
    exact (colourless_report (by decide) hfailure).uncolours
  | listed input source hinput _ _ =>
    have hlisting : Uncolours (lineOf [(findings source).toJson.indented])
        (lineOf [(findings source).toJson.indented]) :=
      uncolours_lineOf (List.forall_mem_singleton.mpr
        (colourless_render (findings source).plain_toJson 0))
    exact ⟨rfl, List.rel_append (plainForms_opening h hinput) (.cons ⟨rfl, hlisting⟩ .nil),
      fun _ => rfl, rfl⟩
  | noConfig input source failure hinput hsource _ hconfig =>
    have hcolourless := h.colourless_source hsource
    refine ⟨rfl, List.rel_append (plainForms_opening h hinput) (plainForms_survey h hcolourless),
      ?_, rfl⟩
    refine (uncolours_cautions (h.input input hinput) hcolourless).append ?_
    exact (colourless_report (by decide) (h.colourless_failure hconfig)).uncolours
  | noOutput input source _ cause hinput hsource _ _ _ =>
    have hcolourless := h.colourless_source hsource
    have houtput := h.colourless_outputPath hinput
    refine ⟨rfl, plainForms_progress h hinput hcolourless, ?_, rfl⟩
    refine (uncolours_cautions (h.input input hinput) hcolourless).append ?_
    exact (colourless_report (colourless_generating houtput)
      (colourless_outputNotCreated houtput cause)).uncolours
  | stopped input source _ _ reference hinput hsource _ _ _ hfailure =>
    have hcolourless := h.colourless_source hsource
    have houtput := h.colourless_outputPath hinput
    obtain ⟨hcall, htype⟩ := colourless_unresolved hfailure hcolourless
    refine ⟨rfl, plainForms_progress h hinput hcolourless, ?_, rfl⟩
    refine (uncolours_cautions (h.input input hinput) hcolourless).append ?_
    exact (colourless_report (colourless_generating houtput)
      (colourless_unresolvedType hcall htype)).uncolours
  | finished input source _ _ hinput hsource _ _ _ _ =>
    have hcolourless := h.colourless_source hsource
    have houtput := h.colourless_outputPath hinput
    refine ⟨rfl, List.rel_append (plainForms_progress h hinput hcolourless) ?_,
      uncolours_cautions (h.input input hinput) hcolourless, rfl⟩
    exact .cons ⟨rfl, uncolours_success houtput⟩ .nil

theorem differInColours_command (h : Unstyled t directory o) :
    Outcome.DifferInColours ((command ⟨true, directory⟩ o).run t)
      ((command ⟨false, directory⟩ o).run t) := by
  obtain ⟨course⟩ := nonempty_course t directory o
  have hplain := course.isPlainOf_account h
  have hrun (colours : Bool) : (command ⟨colours, directory⟩ o).run t =
      (course.account ⟨colours, directory⟩).outcome o.verbose :=
    run_command ⟨colours, directory⟩ course o.verbose
  rw [hrun, hrun]
  exact ⟨hplain.status, hplain.tree, (uncolours_shown hplain.passages o.verbose).eq,
    hplain.complaints.eq⟩

theorem Outcome.differInColours_self {a : Outcome} (houtput : Colourless a.output)
    (hcomplaints : Colourless a.complaints) : a.DifferInColours a :=
  ⟨rfl, rfl, houtput.uncolours.eq, hcomplaints.uncolours.eq⟩

/-- Command lines that are not carried out give texts without colours. -/
theorem differInColours_program {words : List Text}
    (h : ∀ o, Options.parse words = .ok o → Unstyled t directory o) :
    Outcome.DifferInColours ((program ⟨true, directory⟩ words).run t)
      ((program ⟨false, directory⟩ words).run t) := by
  have hversion : Colourless (versionText ++ []) := by decide
  have husage : Colourless (usageText ++ []) := by decide
  unfold program
  split
  · next o ho => exact differInColours_command (h o ho)
  · exact Outcome.differInColours_self hversion colourless_nil
  · exact Outcome.differInColours_self husage colourless_nil
  · exact Outcome.differInColours_self colourless_nil husage

end

/-- With and without details, a run has the same status, complaints and files, and its lines are
among those with details. In colours and without, it has the same status and files, and without its
control sequences a coloured text is the plain one. -/
theorem details_and_colours_stay_on_console (t : Tree) (directory : Text) :
    (∀ (colours : Bool) (o : Options), Outcome.DifferInDetails
      ((command ⟨colours, directory⟩ { o with verbose := false }).run t)
      ((command ⟨colours, directory⟩ { o with verbose := true }).run t)) ∧
    (∀ words, (∀ o, Options.parse words = .ok o → Unstyled t directory o) →
      Outcome.DifferInColours ((program ⟨true, directory⟩ words).run t)
        ((program ⟨false, directory⟩ words).run t)) :=
  ⟨fun colours o => differInDetails_command ⟨colours, directory⟩ o t,
    fun _ h => differInColours_program h⟩

/-- A definition file with a call that does not resolve, and a call before any service. -/
def lostSource : Text :=
  "rpc Early (A) returns (B);\nservice Echo \x7b\n  rpc Say (A) returns (B);\n\x7d\n".toList

def lostTree : Tree :=
  ⟨"/work".toList, .ofList [("lost.proto".toList, some lostSource)], []⟩

theorem colours_of_lostTree :
    (∀ o, Options.parse ["-v".toList, "lost.proto".toList] = .ok o →
      Unstyled lostTree "/work".toList o) ∧
    ((program ⟨true, "/work".toList⟩ ["-v".toList, "lost.proto".toList]).run lostTree).status = 1 ∧
    Outcome.DifferInColours
      ((program ⟨true, "/work".toList⟩ ["-v".toList, "lost.proto".toList]).run lostTree)
      ((program ⟨false, "/work".toList⟩ ["-v".toList, "lost.proto".toList]).run lostTree) := by
  have hunstyled : ∀ o, Options.parse ["-v".toList, "lost.proto".toList] = .ok o →
      Unstyled lostTree "/work".toList o := by
    intro o ho
    have hparse : Options.parse ["-v".toList, "lost.proto".toList] =
        .ok ⟨some "lost.proto".toList, none, none, false, true⟩ := by
      rfl
    cases hparse.symm.trans ho
    constructor <;> decide
  exact ⟨hunstyled, by decide +kernel,
    (details_and_colours_stay_on_console lostTree "/work".toList).2 _ hunstyled⟩

end RpcReference.Command
