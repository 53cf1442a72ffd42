import RpcReference.Command.Run
import RpcReference.Proofs.ControlSequences
import RpcReference.Proofs.Mentions
import RpcReference.Proofs.Rendering
import RpcReference.Proofs.SchemaJson
/-!
# Texts without control sequences

Where no path and no file has a control sequence in it, no text that the command puts together from
them has one: paths, numbers, names that are taken from the definition file, the wording of
failures, and JSON, where control characters are escaped.
-/

namespace RpcReference.Command

open Text Files Source Document

/-! ### Numbers, quotations and JSON -/

theorem colourless_decimal (n : Nat) : Colourless (decimal n) :=
  colourless_toDigits (by decide) n

theorem colourless_quotedChar {c : Char} (hc : c ≠ '\x1b') : Colourless (quotedChar c) := by
  unfold quotedChar
  split
  case h_7 =>
    split
    · simpa using hc
    · simp [colourless_toDigits]
  all_goals decide

theorem colourless_quoted {t : Text} (h : Colourless t) : Colourless (quoted t) := by
  have hchars : Colourless (t.flatMap quotedChar) := by
    refine colourless_flatMap fun c hc => colourless_quotedChar ?_
    rintro rfl
    exact h hc
  simp [quoted, hchars]

theorem colourless_escapeChar (c : Char) : Colourless (Json.escapeChar c) := by
  unfold Json.escapeChar
  split
  case h_8 =>
    split
    · simp [Json.hexDigit]
    · next hprintable =>
      have hc : c ≠ '\x1b' := by
        rintro rfl
        exact hprintable (by decide)
      simpa using hc
  all_goals decide

theorem colourless_renderLiteral (literal : Json.Literal) :
    Colourless (Json.renderLiteral literal) := by
  cases literal with
  | none =>
    show Colourless "\"\\ud800\"".toList
    decide
  | some t =>
    have hchars : Colourless (t.flatMap Json.escapeChar) :=
      colourless_flatMap fun c _ => colourless_escapeChar c
    show Colourless ('"' :: t.flatMap Json.escapeChar ++ ['"'])
    simp [hchars]

theorem colourless_lineBreak (depth : Nat) : Colourless (Json.Layout.indented.lineBreak depth) := by
  simp [Json.Layout.indented, Colourless]

theorem colourless_renderItems {items : List Json}
    (h : ∀ j ∈ items, ∀ depth, Colourless (Json.render .indented depth j)) (depth : Nat)
    (first : Bool) : Colourless (Json.renderItems .indented depth first items) := by
  induction items generalizing first with
  | nil => cases first <;> simp [Json.renderItems, colourless_lineBreak]
  | cons j items ih =>
    obtain ⟨hj, hitems⟩ := List.forall_mem_cons.mp h
    cases first <;> simp [Json.renderItems, colourless_lineBreak, hj, ih hitems]

theorem colourless_renderMembers {members : List (Json.Literal × Json)}
    (h : ∀ m ∈ members, ∀ depth, Colourless (Json.render .indented depth m.2)) (depth : Nat)
    (first : Bool) : Colourless (Json.renderMembers .indented depth first members) := by
  induction members generalizing first with
  | nil => cases first <;> simp [Json.renderMembers, colourless_lineBreak]
  | cons m members ih =>
    obtain ⟨hm, hmembers⟩ := List.forall_mem_cons.mp h
    have hcolon : Colourless Json.Layout.indented.afterColon := by decide
    cases first <;>
      simp [Json.renderMembers, colourless_lineBreak, colourless_renderLiteral, hcolon, hm,
        ih hmembers]

theorem colourless_render {j : Json} (hj : j.Plain) (depth : Nat) :
    Colourless (j.render .indented depth) := by
  induction hj generalizing depth with
  | null => rw [Json.render]; decide
  | bool value => rw [Json.render]; cases value <;> decide
  | nat n => exact colourless_decimal n
  | string literal => rw [Json.render]; exact colourless_renderLiteral literal
  | array _ ih =>
    rw [Json.render, colourless_cons]
    exact ⟨by decide, colourless_renderItems ih depth true⟩
  | object _ ih =>
    rw [Json.render, colourless_cons]
    exact ⟨by decide, colourless_renderMembers ih depth true⟩

/-! ### Paths -/

theorem colourless_of_mem_split {t piece : Text} {sep : Char} (ht : Colourless t)
    (hpiece : piece ∈ split sep t) : Colourless piece :=
  ht.of_subset (subset_of_mem_splitWhere hpiece)

theorem colourless_join {sep : Text} {parts : List Text} (hsep : Colourless sep)
    (hparts : ∀ part ∈ parts, Colourless part) : Colourless (join sep parts) := by
  induction parts with
  | nil => simp [join]
  | cons part parts ih =>
    obtain ⟨hpart, hrest⟩ := List.forall_mem_cons.mp hparts
    cases parts with
    | nil => simpa [join] using hpart
    | cons next parts =>
      rw [join, List.intercalate_cons_cons, colourless_append, colourless_append]
      exact ⟨⟨hpart, hsep⟩, ih hrest⟩

theorem colourless_fileName {path : Text} (h : Colourless path) : Colourless (fileName path) := by
  unfold fileName
  split
  · next name hname =>
    split
    · simp
    · have hmem : name ∈ properPieces path := List.mem_of_getLast? hname
      exact colourless_of_mem_split h (List.mem_of_mem_filter hmem)
  · simp

theorem colourless_defaultOutput {input directory : Text} (hinput : Colourless input)
    (hdirectory : Colourless directory) : Colourless (defaultOutput input directory) := by
  have hstem : Colourless (stem (fileName input)) :=
    (colourless_fileName hinput).of_subset (List.takeWhile_prefix _).subset
  have hname : Colourless (stem (fileName input) ++ ".md".toList) := by
    rw [colourless_append]
    exact ⟨hstem, by decide⟩
  unfold defaultOutput joinPath
  split
  · exact hname
  · split
    · exact colourless_append.mpr ⟨hdirectory, hname⟩
    · exact colourless_append.mpr ⟨hdirectory, colourless_cons.mpr ⟨by decide, hname⟩⟩

/-! ### Diagnostics and failures -/

theorem colourless_between {front t back : Text} (hfront : Colourless front) (ht : Colourless t)
    (hback : Colourless back) : Colourless (front ++ t ++ back) :=
  colourless_append.mpr ⟨colourless_append.mpr ⟨hfront, ht⟩, hback⟩

theorem colourless_concern {concern : Concern} (h : Colourless concern.quotation) :
    Colourless concern.message := by
  cases concern with
  | malformedCall line => exact colourless_append.mpr ⟨by decide, h⟩
  | namelessMessage | namelessEnum => decide
  | orphanCall name | replacedMessage name | replacedEnum name =>
    exact colourless_between (by decide) h (by decide)

theorem colourless_diagnostic {d : Diagnostic} (h : Colourless d.concern.quotation) :
    Colourless d.text :=
  colourless_append.mpr
    ⟨colourless_between (by decide) (colourless_decimal d.line) (by decide), colourless_concern h⟩

theorem colourless_accessError (cause : AccessError) : Colourless cause.message := by
  cases cause <;> decide

theorem colourless_of_ofName? {name : Text} {key : Config.Key}
    (h : Config.Key.ofName? name = some key) : Colourless name := by
  have hname : key.name = name := by
    simpa using List.find?_some h
  rw [← hname]
  cases key <;> decide

/-- A problem with a configuration is told in words of the program: only keys that it knows are
named. -/
theorem colourless_problem_of_add {o : Config.Overrides} {d : Yaml.Document}
    {entry : Yaml.Node Nat × Yaml.Node Nat} {problem : Config.Problem}
    (h : o.add d entry = .error problem) : Colourless problem.message := by
  unfold Config.Overrides.add at h
  split at h
  · cases h
    decide
  · split at h
    · cases h
    · next key hkey =>
      have hname := colourless_of_ofName? hkey
      split at h
      · cases h
        exact colourless_append.mpr ⟨by decide, hname⟩
      · split at h
        · cases h
        · cases h
          exact colourless_append.mpr ⟨hname, by decide⟩

theorem colourless_problem_of_parse {text : Text} {problem : Config.Problem}
    (h : Config.parse text = .error problem) : Colourless problem.message := by
  unfold Config.parse at h
  split at h
  · cases h
  · split at h
    · cases h
      decide
    · cases h
    · unfold Config.ofDocument at h
      split at h
      · next entries _ =>
        cases hfold : entries.foldlM (fun (o : Config.Overrides) entry => o.add _ entry)
            Config.Overrides.empty with
        | ok o =>
          rw [hfold] at h
          cases h
        | error cause =>
          rw [hfold] at h
          cases h
          obtain ⟨o, entry, hadd⟩ := exists_error_of_foldlM hfold
          exact colourless_problem_of_add hadd
      · split at h
        · cases h
        · cases h
          decide

/-- The unresolved type of a document, and the call that refers to it, are names of the file. -/
theorem colourless_unresolved {input source : Text} {config : Config} {reference : Unresolved}
    (h : (documentOf input source config).failure = some reference) (hsource : Colourless source) :
    Colourless reference.call ∧ Colourless reference.type := by
  rcases (findings source).schema.resolvesAll_or_firstUnresolved with hall | ⟨⟨stop⟩⟩
  · rw [documentOf, render_of_resolvesAll hall] at h
    cases h
  · have hservice : stop.service ∈ (findings source).schema.services := by
      simp [stop.services_eq]
    have hcall : stop.call ∈ stop.service.calls := by
      simp [stop.calls_eq]
    have hmention : ∀ m ∈ callMentions stop.call, Colourless m := by
      intro m hm
      have hmem : m ∈ serviceMentions stop.service :=
        List.mem_cons_of_mem _ (List.mem_flatMap.mpr ⟨stop.call, hcall, hm⟩)
      exact hsource.of_subset ((takenFrom_findings source).services _ hservice m hmem)
    rw [documentOf, render_of_firstUnresolved stop, Option.some_inj] at h
    subst h
    refine ⟨hmention _ (by simp [Schema.missing, callMentions]), hmention _ ?_⟩
    rw [Schema.missing]
    split
    · simp [callMentions]
    · simp [callMentions]

theorem colourless_sourceUnreadable {path : Text} (hpath : Colourless path) (cause : AccessError) :
    Colourless (Failure.sourceUnreadable path cause).message :=
  colourless_append.mpr
    ⟨colourless_between (by decide) hpath (by decide), colourless_accessError cause⟩

theorem colourless_outputNotCreated {path : Text} (hpath : Colourless path) (cause : AccessError) :
    Colourless (Failure.outputNotCreated path cause).message :=
  colourless_append.mpr
    ⟨colourless_between (by decide) hpath (by decide), colourless_accessError cause⟩

theorem colourless_unresolvedType {reference : Unresolved} (hcall : Colourless reference.call)
    (htype : Colourless reference.type) :
    Colourless (Failure.unresolvedType reference).message :=
  colourless_append.mpr ⟨colourless_between (by decide) htype (by decide), hcall⟩

/-- Paths are quoted in what is said about a configuration. -/
theorem colourless_of_loadConfig {t : Tree} {path : Text} {failure : Failure}
    (h : loadConfig t path = .error failure) (hpath : Colourless path) :
    Colourless failure.message := by
  have hquoted := colourless_quoted hpath
  unfold loadConfig configRead at h
  split at h
  · next cause _ =>
    cases h
    exact colourless_append.mpr
      ⟨colourless_between (by decide) hquoted (by decide), colourless_accessError cause⟩
  · split at h
    · cases h
    · next problem hparse =>
      cases h
      have hproblem := colourless_problem_of_parse hparse
      exact colourless_between (by decide) hproblem
        (colourless_between (by decide) hquoted (by decide))

theorem colourless_report {activity : Text} {failure : Failure} (hactivity : Colourless activity)
    (hfailure : Colourless failure.message) : Colourless (report activity failure) := by
  have hlines : Colourless (join "\n    ".toList (split '\n' failure.message)) :=
    colourless_join (by decide) fun _ hpiece => colourless_of_mem_split hfailure hpiece
  simp only [report, line, List.flatten_cons, List.flatten_nil, colourless_append]
  exact ⟨by decide, hactivity, by decide, hlines, by decide, by decide⟩

end RpcReference.Command
