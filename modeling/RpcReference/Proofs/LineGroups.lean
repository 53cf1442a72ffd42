import RpcReference.Document.Block
/-!
# Groups of lines

The lines of a call come in groups: headings, samples, tables. A sample or a table has one line for
each field, in the order of the fields, and some lines around them; where there are no fields it is
a single line.
-/

namespace RpcReference.Document

open Text

/-- The lines show the fields one a line and in order, with `above` lines in front and `below` lines
behind. Without fields there is one line. -/
structure Shows (ls : List Text) (above below : Nat) (fields : List Field)
    (entry : Nat → Field → Text) : Prop where
  count : ls.length = if fields.length = 0 then 1 else fields.length + (above + below)
  entries : ∀ i f, fields[i]? = some f → ls[above + i]? = some (entry i f)

section

local instance : Coe String Text := ⟨String.toList⟩

/-! ### Lines about one field -/

def scriptEntry (schema : Schema) (f : Field) : Text :=
  line ["  ", camelCase f.name, ": <", codeType schema f, ">,"]

def pythonEntry (schema : Schema) (f : Field) : Text :=
  line ["  ", f.name, "=<", codeType schema f, ">,"]

def outputEntry (schema : Schema) (mark : Text) (shown : Text → Text) (f : Field) : Text :=
  line [mark, "  \"", shown f.name, "\": <", codeType schema f, ">"]

/-- The `i`-th of `count` items, with a comma behind it if it is not the last. -/
def commaEntry (item : Field → Text) (count i : Nat) (f : Field) : Text :=
  if i + 1 = count then item f else line [item f, ","]

def tableRow (schema : Schema) (f : Field) : Text :=
  line [f.name, " | ", tableType schema f, " | ", f.comment]

/-! ### Samples and tables -/

variable {schema : Schema} {fields : List Field}

/-- A sample or table: a single line if there are no fields, and else one line for each field
between the lines around them. -/
theorem shows_sample {entries : List Text} {entry : Nat → Field → Text}
    (hlength : entries.length = fields.length)
    (hentry : ∀ i f, fields[i]? = some f → entries[i]? = some (entry i f)) (single : Text)
    (top bottom : List Text) :
    Shows (if fields.isEmpty then [single] else stack [top, entries, bottom]) top.length
      bottom.length fields entry := by
  split
  · next hempty =>
    rw [List.isEmpty_iff] at hempty
    subst hempty
    refine ⟨rfl, fun i f hf => ?_⟩
    cases hf
  · next hne =>
    have hpositive : fields.length ≠ 0 := by simpa using hne
    simp only [stack, List.flatten_cons, List.flatten_nil, List.append_nil]
    refine ⟨?_, fun i f hf => ?_⟩
    · rw [if_neg hpositive, List.length_append, List.length_append, hlength]
      omega
    · have hentries := hentry i f hf
      obtain ⟨hi, -⟩ := List.getElem?_eq_some_iff.mp hentries
      rw [List.getElem?_append_right (by omega), Nat.add_sub_cancel_left,
        List.getElem?_append_left hi, hentries]

theorem shows_map (entry : Field → Text) (fields : List Field) (single : Text)
    (top bottom : List Text) :
    Shows (if fields.isEmpty then [single] else stack [top, fields.map entry, bottom]) top.length
      bottom.length fields fun _ => entry := by
  refine shows_sample (List.length_map _) (fun i f hf => ?_) single top bottom
  rw [List.getElem?_map, hf, Option.map_some]

theorem length_commaItems (item : Field → Text) (fields : List Field) :
    (commaItems item fields).length = fields.length := by
  fun_induction commaItems item fields with
  | case1 => rfl
  | case2 => rfl
  | case3 f fields _ ih => rw [List.length_cons, ih, List.length_cons]

theorem getElem?_commaItems (item : Field → Text) {i : Nat} {f : Field} (hf : fields[i]? = some f) :
    (commaItems item fields)[i]? = some (commaEntry item fields.length i f) := by
  fun_induction commaItems item fields generalizing i with
  | case1 => cases hf
  | case2 g =>
    cases i with
    | zero =>
      cases hf
      rfl
    | succ i => cases hf
  | case3 g fields hfields ih =>
    cases i with
    | zero =>
      cases hf
      have hmore : ¬ 0 + 1 = (f :: fields).length := by
        cases fields with
        | nil => exact absurd rfl hfields
        | cons next rest => simp
      rw [commaEntry, if_neg hmore]
      rfl
    | succ i =>
      rw [List.getElem?_cons_succ] at hf ⊢
      rw [ih hf, commaEntry, commaEntry, List.length_cons]
      simp only [Nat.add_right_cancel_iff]

theorem shows_scriptRequest (schema : Schema) (request : Message) :
    Shows (scriptRequest schema request) 1 1 request.fields fun _ => scriptEntry schema :=
  shows_map (scriptEntry schema) request.fields _ [_] [_]

theorem shows_pythonRequest (schema : Schema) (client : Text) (request : Message) :
    Shows (pythonRequest schema client request) 1 1 request.fields fun _ => pythonEntry schema :=
  shows_map (pythonEntry schema) request.fields _ [_] [_]

theorem shows_sampleOutput (schema : Schema) (mark : Text) (shown : Text → Text)
    (response : Message) :
    Shows (sampleOutput schema mark shown response) 2 1 response.fields
      (commaEntry (outputEntry schema mark shown) response.fields.length) :=
  shows_sample (length_commaItems _ _) (fun _ _ => getElem?_commaItems _) _ [_, _] [_]

theorem shows_fieldSection (schema : Schema) (kind : Text) (fields : List Field) :
    Shows (fieldSection schema kind fields) 2 0 fields fun _ => tableRow schema :=
  shows_map (tableRow schema) fields _ [_, _] []

/-! ### Calls -/

/-- The lines of a call in groups, from top to bottom. -/
structure CallGroups where
  heading : List Text
  scriptRequest : List Text
  scriptCall : List Text
  scriptOutput : List Text
  pythonFences : List Text
  pythonRequest : List Text
  pythonCall : List Text
  pythonOutput : List Text
  fence : List Text
  shell : List Text
  comment : List Text
  requestHeading : List Text
  requestTable : List Text
  responseHeading : List Text
  responseTable : List Text

def CallGroups.lines (g : CallGroups) : List Text :=
  stack [g.heading, g.scriptRequest, g.scriptCall, g.scriptOutput, g.pythonFences, g.pythonRequest,
    g.pythonCall, g.pythonOutput, g.fence, g.shell, g.comment, g.requestHeading, g.requestTable,
    g.responseHeading, g.responseTable]

/-- The lines of the commands that show a call. -/
def commandLines (call : Call) : List Text :=
  call.shell.elim [] (split '\n')

/-- How many lines each group of a call has and what they show, for a request and a response. -/
structure CallGroups.Describe (g : CallGroups) (schema : Schema) (call : Call)
    (request response : Message) : Prop where
  heading : g.heading = [line ["## ", call.name], "```javascript".toList]
  scriptRequest : Shows g.scriptRequest 1 1 request.fields fun _ => scriptEntry schema
  scriptCall : g.scriptCall.length = if call.stream then 11 else 8
  scriptOutput : Shows g.scriptOutput 2 1 response.fields
    (commaEntry (outputEntry schema "//" camelCase) response.fields.length)
  pythonFences : g.pythonFences = ["```".toList, "```python".toList]
  pythonRequest : Shows g.pythonRequest 1 1 request.fields fun _ => pythonEntry schema
  pythonCall : g.pythonCall.length = 2
  pythonOutput : Shows g.pythonOutput 2 1 response.fields
    (commaEntry (outputEntry schema "#" id) response.fields.length)
  fence : g.fence = ["```".toList]
  shell : g.shell = if commandLines call = [] then []
    else ["```shell".toList] ++ commandLines call ++ ["```".toList]
  comment : g.comment = [call.comment]
  requestHeading : g.requestHeading = ["### Request".toList]
  requestTable : Shows g.requestTable 2 0 request.fields fun _ => tableRow schema
  responseHeading : g.responseHeading =
    [if call.stream then "### Response (Streaming)".toList else "### Response".toList]
  responseTable : Shows g.responseTable 2 0 response.fields fun _ => tableRow schema

theorem length_scriptInvocation (client : Text) (call : Call) :
    (scriptInvocation client call).length = if call.stream then 11 else 8 := by
  unfold scriptInvocation
  split
  · rfl
  · rfl

theorem length_pythonInvocation (client : Text) (call : Call) :
    (pythonInvocation client call).length = 2 := by
  unfold pythonInvocation
  split
  · rfl
  · rfl

/-- The groups of lines that a call has in a document. -/
def callGroups (schema : Schema) (service : Service) (call : Call) (request response : Message) :
    CallGroups where
  heading := [line ["## ", call.name], "```javascript"]
  scriptRequest := scriptRequest schema request
  scriptCall := scriptInvocation (lower service.name) call
  scriptOutput := sampleOutput schema "//" camelCase response
  pythonFences := ["```", "```python"]
  pythonRequest := pythonRequest schema (lower service.name) request
  pythonCall := pythonInvocation (lower service.name) call
  pythonOutput := sampleOutput schema "#" id response
  fence := ["```"]
  shell := (shellSample call.shell).flatMap (split '\n')
  comment := [call.comment]
  requestHeading := ["### Request"]
  requestTable := fieldSection schema "request" request.fields
  responseHeading := [if call.stream then "### Response (Streaming)" else "### Response"]
  responseTable := fieldSection schema "response" response.fields

theorem flatMap_shellSample {call : Call} (hshell : ∀ commands ∈ call.shell, commands ≠ []) :
    (shellSample call.shell).flatMap (split '\n') = if commandLines call = [] then []
      else ["```shell".toList] ++ commandLines call ++ ["```".toList] := by
  cases hcommands : call.shell with
  | none => simp [commandLines, hcommands, shellSample]
  | some commands =>
    have hne : split '\n' commands ≠ [] := splitWhere_ne_nil _ _
    cases commands with
    | nil => exact absurd rfl (hshell [] hcommands)
    | cons c rest =>
      rw [commandLines, hcommands, Option.elim_some, if_neg hne]
      rfl

theorem describe_callGroups (schema : Schema) (service : Service) {call : Call}
    (hshell : ∀ commands ∈ call.shell, commands ≠ []) (request response : Message) :
    (callGroups schema service call request response).Describe schema call request response where
  heading := rfl
  scriptRequest := shows_scriptRequest schema request
  scriptCall := length_scriptInvocation _ call
  scriptOutput := shows_sampleOutput schema _ camelCase response
  pythonFences := rfl
  pythonRequest := shows_pythonRequest schema _ request
  pythonCall := length_pythonInvocation _ call
  pythonOutput := shows_sampleOutput schema _ id response
  fence := rfl
  shell := flatMap_shellSample hshell
  comment := rfl
  requestHeading := rfl
  requestTable := shows_fieldSection schema _ request.fields
  responseHeading := by
    rfl
  responseTable := shows_fieldSection schema _ response.fields

end

end RpcReference.Document
