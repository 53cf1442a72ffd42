import RpcReference.Proofs.Courses
import RpcReference.Proofs.SchemaJson
/-!
# The listing that the command prints

A run that lists the findings prints them as one JSON document on lines of its own: an object with
the schema and the diagnostics, from which both are read back. The notice about details comes in
front of the document, on the same stream, so the whole output is a JSON text exactly if no details
are asked for.
-/

namespace RpcReference

open Text Json Source Command Files

/-! ### Texts that are no JSON -/

namespace Json

variable {c : Char}

theorem readAtom?_cons_eq_none (hdigit : c.isDigit = false) (hc : c ∉ ['-', 'n', 't', 'f'])
    (rest : Text) : readAtom? (c :: rest) = none := by
  simp only [List.mem_cons, List.not_mem_nil, not_or, or_false] at hc
  obtain ⟨hminus, hnull, htrue, hfalse⟩ := hc
  have hwords : ∀ entry ∈ wordValues, stripStart? entry.1 (c :: rest) = none := by
    simp [wordValues, stripStart?, Ne.symm hnull, Ne.symm htrue, Ne.symm hfalse]
  have hzero : c ≠ '0' := by
    rintro rfl
    cases hdigit
  have hnumber : readNumber? (c :: rest) = none := by
    simp [readNumber?, integer?, digits1?, digits, hdigit, hminus, hzero]
  unfold readAtom?
  split
  · next found hfound =>
    obtain ⟨entry, hentry, hsome⟩ := List.exists_of_findSome?_eq_some hfound
    simp [hwords entry hentry] at hsome
  · rw [hnumber, Option.map_none]

/-- A text is no JSON if its first character begins no value. -/
theorem parse?_cons_eq_none (hspace : isSpace c = false) (hdigit : c.isDigit = false)
    (hc : c ∉ ['"', '[', '{', '-', 'n', 't', 'f']) (rest : Text) : parse? (c :: rest) = none := by
  have hatom := readAtom?_cons_eq_none hdigit (fun hmem => hc (by simp at hmem ⊢; tauto)) rest
  simp only [List.mem_cons, List.not_mem_nil, not_or] at hc
  have hvalue : readValue? (2 * (c :: rest).length + 1 + 1) (c :: rest) = none := by
    rw [readValue?, skipSpace_cons hspace]
    dsimp only
    rw [if_neg hc.1, if_neg hc.2.1, if_neg hc.2.2.1, hatom]
  rw [parse?, hvalue]

/-- The natural number with the given decimal digits. -/
def nat? : Json → Option Nat
  | .number lexeme => if lexeme.all Char.isDigit then some (Nat.ofDigitChars 10 lexeme 0) else none
  | _ => none

theorem nat?_ofNat (n : Nat) : (ofNat n).nat? = some n := by
  have hdigits : (decimal n).all Char.isDigit = true :=
    List.all_eq_true.mpr fun c hc => isDigit_of_mem_decimal hc
  rw [ofNat, nat?, if_pos hdigits, decimal, Nat.ofDigitChars_ten_toDigits]

end Json

/-! ### Findings -/

namespace Source

/-- The line number and the wording of a diagnostic. -/
def reported? (j : Json) : Option (Nat × Text) := do
  match ← j.record? ["line", "message"] with
  | [some line, some message] => return (← line.nat?, ← message.text?)
  | _ => none

theorem reported?_toJson (d : Diagnostic) : reported? d.toJson = some (d.line, d.message) := by
  have hrecord : d.toJson =
      ofRecord ["line", "message"] [some (.ofNat d.line), some (.ofText d.message)] := rfl
  rw [reported?, hrecord, record?_ofRecord (by simp) rfl]
  simp [nat?_ofNat]

/-- The text is one JSON document: an object with a schema and a list of diagnostics, which are
those of the findings. -/
def IsListing (document : Text) (found : Findings) : Prop :=
  ∃ schema diagnostics : Json,
    Json.parse? document =
      some (.object [member "schema" schema, member "diagnostics" diagnostics]) ∧
    Schema.ofJson? schema = some found.schema ∧
    diagnostics.list? reported? = some (found.diagnostics.map fun d => (d.line, d.message))

theorem Findings.isListing_indented (found : Findings) : IsListing found.toJson.indented found := by
  refine ⟨found.schema.toJson, .array (found.diagnostics.map Diagnostic.toJson), ?_,
    Schema.ofJson?_toJson _, mapM_map_of_forall fun d _ => reported?_toJson d⟩
  have hparse := parse?_render Layout.isBlank_indented found.plain_toJson (List.forall_mem_nil _)
  rwa [List.append_nil] at hparse

end Source

/-! ### The output of a listing -/

namespace Command

/-- No JSON text begins with the notice. -/
theorem parse?_notice_append (setting : Setting) (rest : Text) :
    Json.parse? ((banner setting).text ++ rest) = none := by
  obtain ⟨colours, directory⟩ := setting
  cases colours with
  | true => exact parse?_cons_eq_none rfl rfl (by decide) _
  | false => exact parse?_cons_eq_none rfl rfl (by decide) _

/-- The output of a listing is the JSON document of the findings, and the notice in front of it if
details are asked for. Without the notice, and only then, the whole output is JSON. -/
theorem output_listing (setting : Setting) (o : Options) (t : Tree) {input source : Text}
    (hinput : o.input = some input) (hjson : o.json = true) (hsource : t.read input = .ok source) :
    ((command setting o).run t).status = 0 ∧
    (∃ document, IsListing document (findings source) ∧
      ((command setting o).run t).output =
        (if o.verbose then lineOf [arrow setting, " Verbose mode enabled".toList] else [])
          ++ document ++ ['\n']) ∧
    ((Json.parse? ((command setting o).run t).output).isSome = true ↔ o.verbose = false) := by
  have hrun : (command setting o).run t = _ :=
    run_command setting (.listed input source hinput hsource hjson) o.verbose
  have houtput : ((command setting o).run t).output =
      (if o.verbose then (banner setting).text else [])
        ++ ((findings source).toJson.indented ++ ['\n']) := by
    rw [hrun, Account.outcome, Course.account, shown_append, shown_plain,
      shown_opening_of_json setting hjson, banner, shown_detail]
    simp only [lineOf, List.flatten_cons, List.flatten_nil, List.append_nil]
  refine ⟨by rw [hrun]; rfl, ⟨_, (findings source).isListing_indented, ?_⟩, ?_⟩
  · rw [houtput, List.append_assoc]
    rfl
  · rw [houtput]
    cases o.verbose with
    | true =>
      rw [if_pos rfl, parse?_notice_append]
      simp
    | false =>
      have hline : IsSpaces ['\n'] := List.forall_mem_singleton.mpr rfl
      have hparse := parse?_render Layout.isBlank_indented (findings source).plain_toJson hline
      rw [if_neg Bool.false_ne_true, List.nil_append, indented, hparse]
      simp

/-- A definition file with a nameless message, which is reported. -/
def pingSource : Text :=
  "message \x7b\n\x7d\nmessage Ping \x7b\n  string \"text\" = 1;\n\x7d\n".toList

def pingTree : Tree :=
  ⟨"/work".toList, .ofList [("ping.proto".toList, some pingSource)], []⟩

/-- A command line that asks for a listing. -/
def pingListing (verbose : Bool) : Options :=
  ⟨some "ping.proto".toList, some "ping.md".toList, some "missing.yaml".toList, true, verbose⟩

theorem output_pingListing :
    pingTree.read "ping.proto".toList = .ok pingSource ∧
    ∃ document, IsListing document (findings pingSource) ∧
      ((command ⟨true, "/work".toList⟩ (pingListing false)).run pingTree).output =
        document ++ ['\n'] := by
  obtain ⟨-, houtput, -⟩ :=
    output_listing ⟨true, "/work".toList⟩ (pingListing false) pingTree rfl rfl rfl
  exact ⟨rfl, houtput⟩

/-- With details, the listing is no JSON text. -/
theorem output_pingListing_verbose :
    pingTree.read "ping.proto".toList = .ok pingSource ∧
    ((command ⟨false, "/work".toList⟩ (pingListing true)).run pingTree).status = 0 ∧
    (Json.parse? ((command ⟨false, "/work".toList⟩ (pingListing true)).run pingTree).output).isSome
      = false :=
  ⟨rfl, rfl, by decide +kernel⟩

end Command

end RpcReference
