import RpcReference.Proofs.Steps
import RpcReference.Proofs.WrittenBodies
/-!
# Reading back what was written

A definition file that was written for a schema declares that schema and nothing else, and there is
nothing to report about it. The argument follows the file: reading the lines of one declaration adds
exactly this declaration to what was found before, whatever stands below, as long as no comment
stands directly above; and it leaves no comment directly above what follows. Such steps compose to
the whole file.
-/

namespace RpcReference

open Text Source

/-! ### Steps that compose -/

/-- Reading the lines leads from one state of the findings to another, whatever stands below them,
if no comment stands directly above; and then none stands directly above what follows. -/
def Reads (f : Findings) (ls : List Text) (g : Findings) : Prop :=
  ∀ above below, Clear above →
    ∃ above', Clear above' ∧ f.readLines above (ls ++ below) = g.readLines above' below

theorem Reads.nil (f : Findings) : Reads f [] f :=
  fun above _ habove => ⟨above, habove, rfl⟩

theorem Reads.append {f g h : Findings} {ls ms : List Text} (hls : Reads f ls g)
    (hms : Reads g ms h) : Reads f (ls ++ ms) h := by
  intro above below habove
  obtain ⟨middle, hmiddle, hfirst⟩ := hls above (ms ++ below) habove
  obtain ⟨last, hlast, hsecond⟩ := hms middle below hmiddle
  refine ⟨last, hlast, ?_⟩
  rw [List.append_assoc, hfirst, hsecond]

theorem Reads.readLines_append {ls rest : List Text} {f g : Findings} (h : Reads f ls g)
    (hrest : ∀ line ∈ rest, declaration? line = none) : f.readLines [] (ls ++ rest) = g := by
  obtain ⟨above, -, hread⟩ := h [] rest clear_nil
  rw [hread, ← List.append_nil rest, Findings.readLines_undeclared_append _ _ _ hrest]
  rfl

/-- One declaration: comment lines, the line that declares, and the lines of its body. -/
theorem reads_declaration {f g : Findings} (before after : List Text) (line : Text)
    (hbefore : ∀ l ∈ before, declaration? l = none) (hafter : ∀ l ∈ after, declaration? l = none)
    (hclear : Clear (line :: after).reverse)
    (hline : ∀ above below, Clear above →
      f.readLine ⟨before.reverse ++ above, line, after ++ below⟩ = g) :
    Reads f (before ++ line :: after) g := by
  intro above below habove
  refine ⟨(line :: after).reverse ++ (before.reverse ++ above), ?_, ?_⟩
  · intro l hl
    rw [List.head?_append_of_ne_nil _ (by simp)] at hl
    exact hclear l hl
  · rw [List.append_assoc, Findings.readLines_undeclared_append _ _ _ hbefore, List.cons_append,
      Findings.readLines, hline above below habove,
      Findings.readLines_undeclared_append _ _ _ hafter]
    simp

theorem clear_reverse_concat (ls : List Text) {line : Text} (hline : isBodyComment line = false) :
    Clear (ls ++ [line]).reverse := by
  rw [List.reverse_append, List.reverse_singleton]
  exact clear_cons hline _

theorem reads_closingLine (f : Findings) : Reads f [closingLine] f := by
  intro above below _
  refine ⟨closingLine :: above, clear_cons (by decide) above, ?_⟩
  rw [List.singleton_append, Findings.readLines,
    Findings.readLine_of_undeclared f declaration?_closingLine]

theorem declaration?_body {ls : List Text} (hls : ∀ line ∈ ls, declaration? line = none) :
    ∀ line ∈ ls ++ [closingLine], declaration? line = none := by
  intro line hline
  rw [List.mem_append, List.mem_singleton] at hline
  rcases hline with hline | rfl
  · exact hls line hline
  · exact declaration?_closingLine

theorem declaration?_lineComment (comment : Text) :
    ∀ line ∈ lineComment comment, declaration? line = none := fun line hline =>
  declaration?_of_isBodyComment (isBodyComment_of_accepts (accepts_lineComment comment line hline))

theorem isBodyComment_openingLine (keyword : Keyword) (name : Text) :
    isBodyComment (openingLine keyword.word name) = false := by
  have hbegin := ((beginsWithout_word keyword).append (' ' :: name)).append " \x7b".toList
  exact isBodyComment_of_beginsWithout hbegin

/-! ### Services and calls -/

variable {services : List Service} {messages : Table Message} {enums : Table Enumeration}
  {diagnostics : List Diagnostic}

theorem Call.Writable.map_bare_sourceLines {call : Call} (hcall : call.Writable) :
    call.sourceLines.map bare = blockRun call.contents ++ [call.sourceLine] := by
  have hlines : call.sourceLines = blockComment call.contents ++ [call.sourceLine] := rfl
  rw [hlines, List.map_append, map_bare_blockComment hcall.contents_fragments, List.map_singleton,
    call.bare_sourceLine]

theorem Call.Writable.readCall_eq {call : Call} (hcall : call.Writable) {above : List Text}
    (habove : Clear above) (line : Text) (below : List Text) :
    readCall ⟨(blockRun call.contents).reverse ++ above, line, below⟩
      ⟨call.name, call.request, call.response, call.stream⟩ = call := by
  unfold readCall
  simp only [commentAbove_blockRun hcall.contents_fragments habove, hcall.callComment_contents,
    hcall.callShell_contents]

theorem Call.Writable.reads {call : Call} (hcall : call.Writable) (service : Service) :
    Reads ⟨⟨services ++ [service], messages, enums⟩, diagnostics⟩ (call.sourceLines.map bare)
      ⟨⟨services ++ [{ service with calls := service.calls ++ [call] }], messages, enums⟩,
        diagnostics⟩ := by
  obtain ⟨rest, hdeclaration⟩ := call.declaration?_sourceLine
  have hclear : isBodyComment call.sourceLine = false := by
    rw [Call.sourceLine_eq, Keyword.text_append]
    exact isBodyComment_of_beginsWithout ((beginsWithout_word .rpc).append _)
  rw [hcall.map_bare_sourceLines]
  refine reads_declaration (blockRun call.contents) [] call.sourceLine (declaration?_blockRun _)
    (by simp) (clear_reverse_concat [] hclear) ?_
  intro above below habove
  simp only [Findings.readLine, hdeclaration, Findings.addRpc, hcall.signature?_sourceLine,
    hcall.readCall_eq habove, addCall_concat]

theorem reads_calls {calls : List Call} (hcalls : ∀ call ∈ calls, call.Writable)
    (service : Service) :
    Reads ⟨⟨services ++ [service], messages, enums⟩, diagnostics⟩
      (calls.flatMap (·.sourceLines.map bare))
      ⟨⟨services ++ [{ service with calls := service.calls ++ calls }], messages, enums⟩,
        diagnostics⟩ := by
  induction calls generalizing service with
  | nil =>
    rw [List.append_nil]
    exact Reads.nil _
  | cons call calls ih =>
    have hrest := ih (fun other hother => hcalls other (by simp [hother]))
      { service with calls := service.calls ++ [call] }
    rw [List.flatMap_cons]
    refine ((hcalls call (by simp)).reads service).append ?_
    simpa using hrest

theorem Service.Writable.reads {service : Service} (hservice : service.Writable) :
    Reads ⟨⟨services, messages, enums⟩, diagnostics⟩ (service.sourceLines.map bare)
      ⟨⟨services ++ [service], messages, enums⟩, diagnostics⟩ := by
  have hfragments := hservice.comment.commentLine_fragments
  have hlines : service.sourceLines.map bare =
      (blockRun (commentLine service.comment) ++ [openingLine Keyword.service.word service.name]) ++
        (service.calls.flatMap (·.sourceLines.map bare) ++ [closingLine]) := by
    change (blockComment (commentLine service.comment) ++
      [openingLine Keyword.service.word service.name] ++ service.calls.flatMap Call.sourceLines ++
        [closingLine]).map bare = _
    rw [List.map_append, List.map_append, List.map_append, map_bare_blockComment hfragments,
      List.map_singleton, List.map_singleton, bare_openingLine, bare_closingLine,
      List.map_flatMap, List.append_assoc]
  have hopen : Reads ⟨⟨services, messages, enums⟩, diagnostics⟩
      (blockRun (commentLine service.comment) ++ [openingLine Keyword.service.word service.name])
      ⟨⟨services ++ [⟨service.name, service.comment, []⟩], messages, enums⟩, diagnostics⟩ := by
    refine reads_declaration _ [] _ (declaration?_blockRun _) (by simp)
      (clear_reverse_concat [] (isBodyComment_openingLine _ _)) ?_
    intro above below habove
    simp only [Findings.readLine, declaration?_openingLine, Findings.addService, readService,
      nameBeforeBrace_append hservice.name, commentAbove_blockRun hfragments habove,
      joinFragments_commentLine]
  rw [hlines]
  exact hopen.append ((reads_calls hservice.calls _).append (reads_closingLine _))

/-! ### Messages and enumerations -/

theorem map_bare_eq_self {ls : List Text} (hls : ∀ line ∈ ls, bare line = line) :
    ls.map bare = ls :=
  (List.map_congr_left hls).trans (List.map_id ls)

/-- The lines of the fields of a message, numbered from one. -/
def Message.fieldLines (message : Message) : List Text :=
  (message.fields.zipIdx 1).flatMap fun (field, number) => field.sourceLines number

theorem Message.forall_mem_fieldLines {message : Message} {p : Text → Prop}
    (hcomment : ∀ field ∈ message.fields, ∀ line ∈ lineComment field.comment, p line)
    (hline : ∀ field ∈ message.fields, ∀ number, p (numberedLine field.subject number)) :
    ∀ line ∈ message.fieldLines, p line := by
  intro line hmem
  obtain ⟨⟨field, number⟩, hfield, hfieldLine⟩ := List.mem_flatMap.1 hmem
  have hmemField := List.fst_mem_of_mem_zipIdx hfield
  change line ∈ lineComment field.comment ++ [numberedLine field.subject number] at hfieldLine
  rw [List.mem_append, List.mem_singleton] at hfieldLine
  rcases hfieldLine with hremark | rfl
  · exact hcomment field hmemField line hremark
  · exact hline field hmemField number

namespace Message.Writable

variable {message : Message} (hmessage : message.Writable)

include hmessage

theorem bare_sourceLines : ∀ line ∈ message.sourceLines, bare line = line := by
  have hfields : ∀ line ∈ message.fieldLines, bare line = line :=
    Message.forall_mem_fieldLines
      (fun field hfield => bare_lineComment (hmessage.fields field hfield).comment)
      (fun field hfield number =>
        bare_numberedLine (hmessage.fields field hfield).beginsWithout_subject.blank number)
  intro line hline
  change line ∈ [openingLine Keyword.message.word message.name] ++ message.fieldLines ++
    [closingLine] at hline
  rw [List.mem_append, List.mem_append, List.mem_singleton, List.mem_singleton] at hline
  rcases hline with (rfl | hfield) | rfl
  · exact bare_openingLine _ _
  · exact hfields line hfield
  · exact bare_closingLine

theorem readMessage_eq (above below : List Text) :
    readMessage ⟨above, openingLine Keyword.message.word message.name,
      message.fieldLines ++ [closingLine] ++ below⟩ message.name = message := by
  have hbrace : (openingLine Keyword.message.word message.name).contains '}' = false := by
    rw [List.contains_eq_mem, decide_eq_false_iff_not]
    unfold openingLine
    simp only [List.mem_append, List.mem_cons, not_or]
    exact ⟨⟨by decide, by decide, hmessage.name.not_mem (by decide)⟩, by decide⟩
  unfold readMessage
  simp only [hbrace, Bool.false_eq_true, if_false, List.append_assoc, List.singleton_append]
  have hfields : bodyFields (message.fieldLines ++ closingLine :: below) = message.fields :=
    bodyFields_written hmessage.fields 1 below
  rw [hfields]

theorem reads (hnew : message.name ∉ messages.keys) :
    Reads ⟨⟨services, messages, enums⟩, diagnostics⟩ (message.sourceLines.map bare)
      ⟨⟨services, messages.insert message.name message, enums⟩, diagnostics⟩ := by
  have hfields : ∀ line ∈ message.fieldLines, declaration? line = none :=
    Message.forall_mem_fieldLines (fun field _ => declaration?_lineComment field.comment)
      (fun field hfield number => (hmessage.fields field hfield).declaration?_numberedLine number)
  have hcontains := (Table.contains_eq_false_iff messages message.name).mpr hnew
  have hne : message.name.isEmpty = false := by
    rw [List.isEmpty_eq_false_iff]
    exact hmessage.name.1
  rw [map_bare_eq_self hmessage.bare_sourceLines]
  refine reads_declaration [] (message.fieldLines ++ [closingLine])
    (openingLine Keyword.message.word message.name) (by simp) (declaration?_body hfields)
    (clear_reverse_concat (_ :: message.fieldLines) (by decide)) ?_
  intro above below _
  simp only [Findings.readLine, declaration?_openingLine, Findings.addMessage,
    messageName_append hmessage.name, hne, hcontains, hmessage.readMessage_eq, Bool.false_eq_true,
    if_false]

end Message.Writable

namespace Enumeration.Writable

variable {enum : Enumeration} (henum : enum.Writable)

include henum

theorem bare_sourceLines : ∀ line ∈ enum.sourceLines, bare line = line := by
  have hvalues : ∀ line ∈ valueLines enum.values 0, bare line = line :=
    forall_mem_valueLines fun value hvalue number =>
      bare_numberedLine (beginsWithout_of_isName (henum.values value hvalue).1).blank number
  intro line hline
  change line ∈ lineComment enum.comment ++ [openingLine Keyword.enum.word enum.name] ++
    valueLines enum.values 0 ++ [closingLine] at hline
  rw [List.mem_append, List.mem_append, List.mem_append, List.mem_singleton,
    List.mem_singleton] at hline
  rcases hline with ((hcomment | rfl) | hvalue) | rfl
  · exact bare_lineComment henum.comment line hcomment
  · exact bare_openingLine _ _
  · exact hvalues line hvalue
  · exact bare_closingLine

theorem readEnum_eq {above : List Text} (habove : Clear above) (below : List Text) :
    readEnum ⟨(lineComment enum.comment).reverse ++ above,
      openingLine Keyword.enum.word enum.name,
      valueLines enum.values 0 ++ [closingLine] ++ below⟩ enum.name = enum := by
  unfold readEnum
  simp only [commentAbove_lineComment henum.comment habove, joinFragments_commentLine,
    List.append_assoc, List.singleton_append, enumValues_written henum.values henum.name]

theorem reads (hnew : enum.name ∉ enums.keys) :
    Reads ⟨⟨services, messages, enums⟩, diagnostics⟩ (enum.sourceLines.map bare)
      ⟨⟨services, messages, enums.insert enum.name enum⟩, diagnostics⟩ := by
  have hvalues : ∀ line ∈ valueLines enum.values 0, declaration? line = none :=
    forall_mem_valueLines fun value hvalue number =>
      declaration?_value (henum.values value hvalue).1 (henum.values value hvalue).2 number
  have hcontains := (Table.contains_eq_false_iff enums enum.name).mpr hnew
  have hne : enum.name.isEmpty = false := by
    rw [List.isEmpty_eq_false_iff]
    exact henum.name.1
  have hlines : enum.sourceLines = lineComment enum.comment ++
      openingLine Keyword.enum.word enum.name :: (valueLines enum.values 0 ++ [closingLine]) := by
    change lineComment enum.comment ++ [openingLine Keyword.enum.word enum.name] ++
      valueLines enum.values 0 ++ [closingLine] = _
    rw [List.append_assoc, List.append_assoc, List.singleton_append]
  rw [map_bare_eq_self henum.bare_sourceLines, hlines]
  refine reads_declaration _ _ _ (declaration?_lineComment _) (declaration?_body hvalues)
    (clear_reverse_concat (_ :: valueLines enum.values 0) (by decide)) ?_
  intro above below habove
  simp only [Findings.readLine, declaration?_openingLine, Findings.addEnum,
    nameBeforeBrace_append henum.name, hne, hcontains, henum.readEnum_eq habove,
    Bool.false_eq_true, if_false]

end Enumeration.Writable

/-! ### Whole files -/

theorem reads_services {added : List Service} (hadded : ∀ service ∈ added, service.Writable) :
    Reads ⟨⟨services, messages, enums⟩, diagnostics⟩ (added.flatMap (·.sourceLines.map bare))
      ⟨⟨services ++ added, messages, enums⟩, diagnostics⟩ := by
  induction added generalizing services with
  | nil =>
    rw [List.append_nil]
    exact Reads.nil _
  | cons service added ih =>
    rw [List.flatMap_cons, ← List.singleton_append, ← List.append_assoc]
    exact (hadded service (by simp)).reads.append
      (ih fun other hother => hadded other (by simp [hother]))

/-- A table grows by its entries one at a time if each of them is read as one insertion. -/
theorem reads_entries {α : Type} (state : Table α → Findings) (written : α → List Text)
    {added : List (Text × α)} {final : Table α}
    (hentry : ∀ entry ∈ added, ∀ t : Table α, entry.1 ∉ t.keys →
      Reads (state t) (written entry.2) (state (t.insert entry.1 entry.2)))
    {t : Table α} (hfinal : final.entries = t.entries ++ added) :
    Reads (state t) (added.flatMap fun entry => written entry.2) (state final) := by
  induction added generalizing t with
  | nil =>
    rw [List.append_nil] at hfinal
    rw [Table.eq_of_entries_eq hfinal]
    exact Reads.nil _
  | cons entry added ih =>
    have hnew : entry.1 ∉ t.keys := by
      have hdistinct := final.distinct
      rw [hfinal, List.map_append, List.map_cons, List.nodup_append] at hdistinct
      intro hmem
      exact hdistinct.2.2 entry.1 hmem entry.1 (by simp) rfl
    have hinsert : final.entries = (t.insert entry.1 entry.2).entries ++ added := by
      rw [Table.entries_insert_of_not_mem hnew, hfinal, List.append_assoc, List.singleton_append]
    rw [List.flatMap_cons]
    exact (hentry entry (by simp) t hnew).append
      (ih (fun other hother => hentry other (by simp [hother])) hinsert)

/-! ### Line ends -/

theorem newline_not_mem_blockComment {contents : List Text}
    (hcontents : ∀ t ∈ contents, '\n' ∉ t) : ∀ line ∈ blockComment contents, '\n' ∉ line := by
  intro line hline
  unfold blockComment at hline
  split at hline
  · cases hline
  · rw [List.mem_append, List.mem_append, List.mem_singleton, List.mem_singleton,
      List.mem_map] at hline
    rcases hline with (rfl | ⟨t, ht, rfl⟩) | rfl
    · decide
    · rw [List.mem_append, not_or]
      exact ⟨by decide, hcontents t ht⟩
    · decide

theorem newline_not_mem_lineComment {comment : Text} (hcomment : IsRemark comment) :
    ∀ line ∈ lineComment comment, '\n' ∉ line := by
  intro line hline
  unfold lineComment at hline
  split at hline
  · cases hline
  · rw [List.mem_singleton] at hline
    rw [hline, List.mem_append, not_or]
    exact ⟨by decide, hcomment.1⟩

theorem newline_not_mem_openingLine (keyword : Keyword) {name : Text} (hname : IsName name) :
    '\n' ∉ openingLine keyword.word name := by
  have hword : '\n' ∉ keyword.word := by cases keyword <;> decide
  unfold openingLine
  simp only [List.mem_append, List.mem_cons, not_or]
  exact ⟨⟨hword, by decide, hname.not_mem (by decide)⟩, by decide⟩

theorem newline_not_mem_closingLine : '\n' ∉ closingLine := by decide

theorem Call.Writable.newline_not_mem_sourceLine {call : Call} (hcall : call.Writable) :
    '\n' ∉ call.sourceLine := by
  have hnewline : isNameChar '\n' = false := by decide
  have hmark : '\n' ∉ (if call.stream then "stream ".toList else []) := by
    cases call.stream <;> decide
  unfold Call.sourceLine
  simp only [List.mem_append, not_or]
  exact ⟨⟨⟨⟨⟨⟨⟨by decide, hcall.name.not_mem hnewline⟩, by decide⟩,
    hcall.request.not_mem hnewline⟩, by decide⟩, hmark⟩, hcall.response.not_mem hnewline⟩,
    by decide⟩

theorem Call.Writable.newline_not_mem {call : Call} (hcall : call.Writable) :
    ∀ line ∈ call.sourceLines, '\n' ∉ line := by
  intro line hline
  change line ∈ blockComment call.contents ++ [call.sourceLine] at hline
  rw [List.mem_append, List.mem_singleton] at hline
  rcases hline with hcomment | rfl
  · exact newline_not_mem_blockComment (fun t ht => (hcall.contents_fragments t ht).1.1) line
      hcomment
  · exact hcall.newline_not_mem_sourceLine

theorem Service.Writable.newline_not_mem {service : Service} (hservice : service.Writable) :
    ∀ line ∈ service.sourceLines, '\n' ∉ line := by
  have hfragments := hservice.comment.commentLine_fragments
  intro line hline
  change line ∈ blockComment (commentLine service.comment) ++
    [openingLine Keyword.service.word service.name] ++ service.calls.flatMap Call.sourceLines ++
      [closingLine] at hline
  rw [List.mem_append, List.mem_append, List.mem_append, List.mem_singleton, List.mem_singleton,
    List.mem_flatMap] at hline
  rcases hline with ((hcomment | rfl) | ⟨call, hcall, hcallLine⟩) | rfl
  · exact newline_not_mem_blockComment (fun t ht => (hfragments t ht).1.1) line hcomment
  · exact newline_not_mem_openingLine _ hservice.name
  · exact (hservice.calls call hcall).newline_not_mem line hcallLine
  · exact newline_not_mem_closingLine

theorem Message.Writable.newline_not_mem {message : Message} (hmessage : message.Writable) :
    ∀ line ∈ message.sourceLines, '\n' ∉ line := by
  have hfields : ∀ line ∈ message.fieldLines, '\n' ∉ line :=
    Message.forall_mem_fieldLines
      (fun field hfield => newline_not_mem_lineComment (hmessage.fields field hfield).comment)
      (fun field hfield => not_mem_numberedLine
        ((hmessage.fields field hfield).not_mem_subject (by decide) (by decide))
        (by decide) (by decide))
  intro line hline
  change line ∈ [openingLine Keyword.message.word message.name] ++ message.fieldLines ++
    [closingLine] at hline
  rw [List.mem_append, List.mem_append, List.mem_singleton, List.mem_singleton] at hline
  rcases hline with (rfl | hfield) | rfl
  · exact newline_not_mem_openingLine _ hmessage.name
  · exact hfields line hfield
  · exact newline_not_mem_closingLine

theorem Enumeration.Writable.newline_not_mem {enum : Enumeration} (henum : enum.Writable) :
    ∀ line ∈ enum.sourceLines, '\n' ∉ line := by
  have hvalues : ∀ line ∈ valueLines enum.values 0, '\n' ∉ line :=
    forall_mem_valueLines fun value hvalue => not_mem_numberedLine
      ((henum.values value hvalue).1.not_mem (by decide)) (by decide) (by decide)
  intro line hline
  change line ∈ lineComment enum.comment ++ [openingLine Keyword.enum.word enum.name] ++
    valueLines enum.values 0 ++ [closingLine] at hline
  rw [List.mem_append, List.mem_append, List.mem_append, List.mem_singleton,
    List.mem_singleton] at hline
  rcases hline with ((hcomment | rfl) | hvalue) | rfl
  · exact newline_not_mem_lineComment henum.comment line hcomment
  · exact newline_not_mem_openingLine _ henum.name
  · exact hvalues line hvalue
  · exact newline_not_mem_closingLine

namespace Schema

theorem sourceLines_eq (schema : Schema) :
    schema.sourceLines = schema.services.flatMap Service.sourceLines ++
      schema.messages.entries.flatMap (fun entry => entry.2.sourceLines) ++
      schema.enums.entries.flatMap (fun entry => entry.2.sourceLines) := by
  rw [Schema.sourceLines, Table.values, Table.values, List.flatMap_map, List.flatMap_map]

variable {schema : Schema} (hschema : schema.Writable)

include hschema

theorem Writable.newline_not_mem : ∀ line ∈ schema.sourceLines, '\n' ∉ line := by
  intro line hline
  rw [sourceLines_eq, List.mem_append, List.mem_append, List.mem_flatMap, List.mem_flatMap,
    List.mem_flatMap] at hline
  rcases hline with (⟨service, hservice, h⟩ | ⟨entry, hentry, h⟩) | ⟨entry, hentry, h⟩
  · exact (hschema.services service hservice).newline_not_mem line h
  · exact (hschema.messages entry hentry).2.newline_not_mem line h
  · exact (hschema.enums entry hentry).2.newline_not_mem line h

theorem Writable.reads : Reads .empty (schema.sourceLines.map bare) ⟨schema, []⟩ := by
  have hservices : Reads .empty (schema.services.flatMap (·.sourceLines.map bare))
      ⟨⟨schema.services, .empty, .empty⟩, []⟩ :=
    reads_services hschema.services
  have hmessages : Reads ⟨⟨schema.services, .empty, .empty⟩, []⟩
      (schema.messages.entries.flatMap fun entry => entry.2.sourceLines.map bare)
      ⟨⟨schema.services, schema.messages, .empty⟩, []⟩ := by
    refine reads_entries (fun t => ⟨⟨schema.services, t, .empty⟩, []⟩)
      (fun message => message.sourceLines.map bare) (fun entry hentry t hnew => ?_) rfl
    obtain ⟨hname, hmessage⟩ := hschema.messages entry hentry
    rw [hname] at hnew ⊢
    exact hmessage.reads hnew
  have henums : Reads ⟨⟨schema.services, schema.messages, .empty⟩, []⟩
      (schema.enums.entries.flatMap fun entry => entry.2.sourceLines.map bare)
      ⟨schema, []⟩ := by
    refine reads_entries (fun t => ⟨⟨schema.services, schema.messages, t⟩, []⟩)
      (fun enum => enum.sourceLines.map bare) (fun entry hentry t hnew => ?_) rfl
    obtain ⟨hname, henum⟩ := hschema.enums entry hentry
    rw [hname] at hnew ⊢
    exact henum.reads hnew
  rw [sourceLines_eq, List.map_append, List.map_append, List.map_flatMap, List.map_flatMap,
    List.map_flatMap]
  exact (hservices.append hmessages).append henums

end Schema

/-- A definition file that was written for a schema declares exactly this schema, and there is
nothing to report about it. -/
theorem findings_sourceText {schema : Schema} (hschema : schema.Writable) :
    findings schema.sourceText = ⟨schema, []⟩ := by
  by_cases hempty : schema.sourceLines = []
  · -- A text without lines is still read as one empty line.
    have hlines : lines schema.sourceText = schema.sourceLines.map bare ++ [[]] := by
      rw [Schema.sourceText, hempty]
      rfl
    rw [findings, hlines]
    exact hschema.reads.readLines_append (by decide)
  · have hlines : lines schema.sourceText = schema.sourceLines.map bare ++ [] := by
      rw [Schema.sourceText, lines_join hempty hschema.newline_not_mem, List.append_nil]
    rw [findings, hlines]
    exact hschema.reads.readLines_append (by simp)

/-- A schema with every kind of declaration, comment and field. -/
def walletSchema : Schema where
  services := [
    { name := "Wallet".toList
      comment := "Keeps the funds".toList
      calls := [
        { name := "Balance".toList
          request := "BalanceRequest".toList
          response := "lnrpc.Balance".toList
          comment := "What is \x7b left \x7d".toList
          stream := true
          shell := some "wallet balance\n  --json".toList },
        { name := "Ping".toList
          request := "BalanceRequest".toList
          response := "stream".toList
          comment := []
          stream := false
          shell := none }] },
    { name := "Empty".toList, comment := [], calls := [] }]
  messages := .ofList [
    ("BalanceRequest".toList, {
      name := "BalanceRequest".toList
      fields := [
        { name := "accounts".toList
          type := "string".toList
          comment := "service A \x7b".toList
          repeated := true
          key := none },
        { name := "message".toList
          type := "int64".toList
          comment := []
          repeated := false
          key := some "string".toList }] }),
    ("Nothing".toList, { name := "Nothing".toList, fields := [] })]
  enums := .ofList [
    ("State".toList, {
      name := "State".toList
      comment := "enum of states \x7d".toList
      values := ["OPEN".toList, "CLOSED".toList] })]

theorem findings_walletSchema : walletSchema.Writable ∧
    findings walletSchema.sourceText = ⟨walletSchema, []⟩ := by
  have hwritable : walletSchema.Writable := by decide +kernel
  exact ⟨hwritable, findings_sourceText hwritable⟩

end RpcReference
