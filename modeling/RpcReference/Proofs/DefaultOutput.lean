import RpcReference.Proofs.Courses
/-!
# Where documents go by default

Unless told otherwise, the command writes a document into the working directory. The name of the
file is a single piece without a slash, whatever the path of the definition file looks like, so the
path leads nowhere else. The part of that name in front of its dot is also the package that the
samples of the document import.
-/

namespace RpcReference.Files

open Text Document

variable {name : Text}

/-! ### Pieces of paths -/

theorem properPieces_append_slash (front back : Text) :
    properPieces (front ++ '/' :: back) = properPieces front ++ properPieces back := by
  rw [properPieces, split_append_cons, List.filter_append]
  rfl

theorem properPieces_of_not_mem (hname : isProper name = true) (hslash : '/' ∉ name) :
    properPieces name = [name] := by
  rw [properPieces, split_of_not_mem hslash, List.filter_cons_of_pos hname, List.filter_nil]

theorem slash_not_mem_fileName (path : Text) : '/' ∉ fileName path := by
  unfold fileName
  split
  · next piece hlast =>
    split
    · exact List.not_mem_nil
    · exact not_mem_of_mem_split (List.mem_filter.mp (List.mem_of_getLast? hlast)).1
  · exact List.not_mem_nil

/-- The path leads to the place in `directory` that has the given name. -/
structure IsChild (directory name path : Text) : Prop where
  pieces : properPieces path = properPieces directory ++ [name]
  rooted : path.startsWith ['/'] = directory.startsWith ['/']

theorem isChild_joinPath (directory : Text) (hname : isProper name = true) (hslash : '/' ∉ name) :
    IsChild directory name (joinPath directory name) := by
  have hpiece := properPieces_of_not_mem hname hslash
  have hstart : name.startsWith ['/'] = false := by
    rw [Bool.eq_false_iff]
    intro h
    obtain ⟨rest, rfl⟩ := startsWith_iff.mp h
    exact hslash List.mem_cons_self
  unfold joinPath
  cases directory with
  | nil =>
    rw [if_pos (by simp)]
    exact ⟨hpiece, hstart⟩
  | cons c directory =>
    rw [if_neg (by simp [hstart])]
    split
    · next hlast =>
      obtain ⟨front, hfront⟩ := List.getLast?_eq_some_iff.mp hlast
      have hnone : properPieces [] = [] := rfl
      refine ⟨?_, rfl⟩
      rw [hfront, List.append_assoc, List.singleton_append, properPieces_append_slash, hpiece,
        properPieces_append_slash, hnone, List.append_nil]
    · refine ⟨?_, rfl⟩
      rw [properPieces_append_slash, hpiece]

theorem IsChild.fileName_eq {directory path : Text} (h : IsChild directory name path)
    (hname : name ≠ parent) : fileName path = name := by
  rw [fileName, h.pieces, List.getLast?_concat]
  exact if_neg hname

/-! ### The default name -/

def documentName (input : Text) : Text :=
  stem (fileName input) ++ ".md".toList

theorem dot_not_mem_stem (fileName : Text) : '.' ∉ stem fileName := by
  intro hmem
  simpa using List.mem_takeWhile_imp hmem

theorem slash_not_mem_stem (input : Text) : '/' ∉ stem (fileName input) := fun hmem =>
  slash_not_mem_fileName input ((List.takeWhile_prefix _).subset hmem)

/-- The part up to the first dot is all there is, or a dot follows it. -/
theorem stem_eq_or_append (fileName : Text) :
    fileName = stem fileName ∨ ∃ extension, fileName = stem fileName ++ '.' :: extension := by
  cases hcut : cut? '.' fileName with
  | none => exact .inl (upTo_of_not_mem (cut?_eq_none_iff.mp hcut)).symm
  | some parts =>
    obtain ⟨before, after⟩ := parts
    obtain ⟨rfl, hbefore⟩ := cut?_eq_some_iff.mp hcut
    exact .inr ⟨after, by rw [stem, upTo_append_cons hbefore]⟩

theorem slash_not_mem_documentName (input : Text) : '/' ∉ documentName input := by
  rw [documentName, List.mem_append, not_or]
  exact ⟨slash_not_mem_stem input, by decide⟩

theorem length_documentName (input : Text) : 3 ≤ (documentName input).length := by
  rw [documentName, List.length_append]
  exact Nat.le_add_left 3 _

theorem documentName_ne {piece : Text} (hpiece : piece.length < 3) (input : Text) :
    documentName input ≠ piece := by
  rintro rfl
  exact absurd (length_documentName input) (Nat.not_le.mpr hpiece)

theorem isProper_documentName (input : Text) : isProper (documentName input) = true := by
  have hempty : documentName input ≠ [] := documentName_ne (by decide) input
  have hhere : documentName input ≠ here := documentName_ne (by decide) input
  simp [isProper, hempty, hhere]

theorem isChild_defaultOutput (input directory : Text) :
    IsChild directory (documentName input) (defaultOutput input directory) :=
  isChild_joinPath directory (isProper_documentName input) (slash_not_mem_documentName input)

/-- In a tree, the place is right below the working directory. -/
theorem target_defaultOutput {t : Tree} (hempty : t.location ≠ [])
    (hslash : t.location.getLast? ≠ some '/') (input : Text) {place : Place}
    (h : t.target (defaultOutput input t.location) = .ok place) :
    place = .inside [documentName input] := by
  have hpath : defaultOutput input t.location = t.location ++ '/' :: documentName input := by
    have hstart : (documentName input).startsWith ['/'] = false := by
      rw [Bool.eq_false_iff]
      intro h
      obtain ⟨rest, hrest⟩ := startsWith_iff.mp h
      exact slash_not_mem_documentName input (hrest ▸ List.mem_cons_self)
    rw [defaultOutput, ← documentName, joinPath, if_neg (by simp [hstart, hempty]), if_neg hslash]
  have hentrance : t.entrance (defaultOutput input t.location) =
      (.inside [], [documentName input]) := by
    have hsplit : t.location ++ '/' :: documentName input =
        t.location ++ ['/'] ++ documentName input := by simp
    rw [hpath, Tree.entrance, hsplit, stripStart?_append]
    dsimp only
    rw [split_of_not_mem (slash_not_mem_documentName input)]
  have hresolve := (Tree.of_target_eq_ok h).1
  rw [Tree.resolve, if_neg (by simp [hpath]), hentrance] at hresolve
  obtain ⟨directory, hfollow, hresolve⟩ := bind_eq_ok_iff.mp hresolve
  obtain ⟨_, _, hentered⟩ := bind_eq_ok_iff.mp hfollow
  cases hresolve
  cases hentered
  rw [Tree.Place.enter, isProper_documentName]
  exact if_pos (documentName_ne (by decide) input)

end RpcReference.Files

namespace RpcReference.Command

open Text Files Source Document

/-! ### The document there -/

section

local instance : Coe String Text := ⟨String.toList⟩

/-- The line of a Python sample that imports the modules of a package. -/
def importLine (package : Text) (service : Service) : Text :=
  line ["import ", package, "_pb2 as ", lower service.name, ", ", package, "_pb2_grpc as ",
    lower service.name, "rpc"]

end

/-- The set-up sample of every service imports the modules of the package. -/
def ImportsPackage (subject : Subject) (package : Text) : Prop :=
  ∀ service ∈ subject.schema.services, ∃ above below,
    .ok (blockText (above ++ ["import grpc".toList, importLine package service] ++ below)) ∈
      subject.parts

theorem importsPackage_stem (subject : Subject) :
    ImportsPackage subject (stem subject.fileName) := by
  intro service hservice
  refine ⟨(serviceBlock subject.fileName service).take 17,
    (serviceBlock subject.fileName service).drop 19, ?_⟩
  have hpart : Except.ok (blockText (serviceBlock subject.fileName service)) ∈
      subject.serviceParts service := List.mem_cons_self
  exact List.mem_append_left _ (List.mem_cons_of_mem _
    (List.mem_flatMap.mpr ⟨service, hservice, hpart⟩))

variable {t : Tree} {o : Options} {input : Text}

/-- A run without an output path leaves the tree alone or saves a document at the default path. -/
theorem Course.unchanged_or_saved {setting : Setting} (course : Course t setting.directory o)
    (hinput : o.input = some input) (houtput : o.output = none) (verbose : Bool) :
    ((course.account setting).outcome verbose).tree = t ∨ ∃ source config,
      t.Saved (defaultOutput input setting.directory) (documentOf input source config).written
        ((course.account setting).outcome verbose).tree := by
  have hpath : o.outputPath input setting.directory = defaultOutput input setting.directory := by
    rw [Options.outputPath, houtput, Option.getD_none]
  cases course with
  | noInput | noSource | listed | noConfig | noOutput => exact .inl rfl
  | stopped _ source config _ _ hinput' _ _ _ hcreated _
  | finished _ source config _ hinput' _ _ _ hcreated _ =>
    cases hinput.symm.trans hinput'
    rw [hpath] at hcreated
    exact .inr ⟨source, config, Tree.saved_create hcreated⟩

/-- Without an output path, the document goes to a direct child of the given directory. Its name is
that of the package in front of `.md`, and the package is the name of the definition file up to the
first dot. Every document that a run writes there imports this package in the sample of each of its
services. -/
theorem default_output_in_directory (input directory : Text) :
    ∃ package, package = stem (fileName input) ∧ ('/' ∉ package ∧ '.' ∉ package) ∧
      (fileName input = package ∨ ∃ extension, fileName input = package ++ '.' :: extension) ∧
      defaultOutput input directory = joinPath directory (package ++ ".md".toList) ∧
      IsChild directory (package ++ ".md".toList) (defaultOutput input directory) ∧
      fileName (defaultOutput input directory) = package ++ ".md".toList ∧
      (∀ t : Tree, t.location = directory → directory ≠ [] → directory.getLast? ≠ some '/' →
        ∀ place, t.target (defaultOutput input directory) = .ok place →
          place = .inside [package ++ ".md".toList]) ∧
      ∀ (setting : Setting) (o : Options) (t : Tree), setting.directory = directory →
        o.input = some input → o.output = none →
        ((command setting o).run t).tree = t ∨ ∃ source config,
          t.Saved (defaultOutput input directory) (documentOf input source config).written
            ((command setting o).run t).tree ∧
          ImportsPackage ⟨(findings source).schema, fileName input, config⟩ package := by
  have hchild := isChild_defaultOutput input directory
  refine ⟨_, rfl, ⟨slash_not_mem_stem input, dot_not_mem_stem _⟩, stem_eq_or_append _, rfl, hchild,
    hchild.fileName_eq (documentName_ne (by decide) input), ?_, ?_⟩
  · rintro t rfl hempty hslash place htarget
    exact target_defaultOutput hempty hslash input htarget
  · rintro setting o t rfl hinput houtput
    obtain ⟨course⟩ := nonempty_course t setting.directory o
    have hrun : (command setting o).run t = (course.account setting).outcome o.verbose :=
      run_command setting course o.verbose
    rw [hrun]
    obtain hunchanged | ⟨source, config, hsaved⟩ :=
      course.unchanged_or_saved hinput houtput o.verbose
    · exact .inl hunchanged
    · exact .inr ⟨source, config, hsaved, importsPackage_stem _⟩

def walletTree : Tree :=
  ⟨"/work".toList, .ofList [("protos/wallet.v2.proto".toList,
    some "service Wallet \x7b\n\x7d\n".toList)], []⟩

/-- A command line with a path that has pieces without effect and a name with two dots. -/
def walletOptions : Options :=
  ⟨some "./protos/./wallet.v2.proto".toList, none, none, false, false⟩

theorem default_output_walletTree :
    defaultOutput "./protos/./wallet.v2.proto".toList "/work".toList = "/work/wallet.md".toList ∧
    walletTree.target "/work/wallet.md".toList = .ok (.inside ["wallet.md".toList]) ∧
    ∃ source config,
      walletTree.Saved "/work/wallet.md".toList
        (documentOf "./protos/./wallet.v2.proto".toList source config).written
        ((command ⟨false, "/work".toList⟩ walletOptions).run walletTree).tree ∧
      ImportsPackage ⟨(findings source).schema, "wallet.v2.proto".toList, config⟩
        "wallet".toList := by
  obtain ⟨package, hpackage, -, -, -, -, -, htarget, hrun⟩ :=
    default_output_in_directory "./protos/./wallet.v2.proto".toList "/work".toList
  have hpath : defaultOutput "./protos/./wallet.v2.proto".toList "/work".toList =
      "/work/wallet.md".toList := rfl
  have hname : package = "wallet".toList := hpackage
  subst hname
  rw [hpath] at htarget hrun
  have hplace : walletTree.target "/work/wallet.md".toList = .ok (.inside ["wallet.md".toList]) :=
    rfl
  have hchanged : ((command ⟨false, "/work".toList⟩ walletOptions).run walletTree).tree.files.size ≠
      walletTree.files.size := by decide +kernel
  have hinside : Place.inside ["wallet.md".toList] = .inside ["wallet".toList ++ ".md".toList] :=
    htarget walletTree rfl (by decide) (by decide) _ hplace
  exact ⟨hpath, hplace.trans (congrArg Except.ok hinside),
    (hrun ⟨false, "/work".toList⟩ walletOptions walletTree rfl rfl rfl).resolve_left fun heq =>
      hchanged (by rw [heq])⟩

end RpcReference.Command
