import RpcReference.Proofs.LineGroups
import RpcReference.Proofs.OneLine
import RpcReference.Proofs.Rendering
import RpcReference.Proofs.Tables
import RpcReference.Proofs.WellFormed
import RpcReference.Proofs.WholeLines
/-!
# The lines of a document

Behind the front matter, a complete document consists of known lines in a known order: how many they
are and which field each of them shows follows from the schema. Other lines would come out if a name
or a comment had a line end in it, or if a block began or ended with an empty line. Neither is the
case, as names and comments are cut out of single lines of the definition file.
-/

namespace RpcReference.Document

open Text Source

section

local instance : Coe String Text := ⟨String.toList⟩

/-! ### Sections -/

/-- The lines of a call, whose request and response are messages of the schema. -/
def CallLines (schema : Schema) (call : Call) (ls : List Text) : Prop :=
  ∃ request response g, schema.messages.get? call.request = some request ∧
    schema.messages.get? call.response = some response ∧
    CallGroups.Describe g schema call request response ∧ ls = g.lines

/-- A line with something on it. -/
def Solid (l : Text) : Prop :=
  l ≠ [] ∧ OneLine l

instance (l : Text) : Decidable (Solid l) :=
  inferInstanceAs (Decidable (_ ∧ _))

theorem Solid.not_newline {l : Text} (h : Solid l) : ∀ c ∈ l, (c == '\n') = false := by
  intro c hc
  simpa using fun heq : c = '\n' => h.2 (heq ▸ hc)

/-- A block that begins and ends with something keeps all of its lines. -/
theorem blockText_eq_ended {first : Text} {front back : List Text}
    (hfront : front.head? = some first) (hfirst : Solid first) (hne : back ≠ [])
    (hback : ∀ l ∈ back, Solid l) :
    blockText (front ++ back) = ended (front ++ back) := by
  obtain ⟨rest, rfl⟩ := List.head?_eq_some_iff.mp hfront
  obtain ⟨middle, last, rfl⟩ := (List.eq_nil_or_concat' back).resolve_left hne
  have hlast := hback last (by simp)
  have hended := join_append_newline (List.cons_ne_nil first (rest ++ (middle ++ [last])))
  have hjoin : join ['\n'] (first :: (rest ++ (middle ++ [last]))) =
      ended (first :: (rest ++ middle)) ++ last := by
    refine List.append_cancel_right (hended.trans ?_ : _ ++ ['\n'] = _ ++ ['\n'])
    simp [ended]
  have hend : dropEndWhile (· == '\n') (ended (first :: (rest ++ middle)) ++ last) =
      ended (first :: (rest ++ middle)) ++ last :=
    dropEndWhile_append_of_ne_nil _ hlast.1 (dropEndWhile_eq_self_of_forall hlast.not_newline)
  have hstart : (ended (first :: (rest ++ middle)) ++ last).dropWhile (· == '\n') =
      ended (first :: (rest ++ middle)) ++ last := by
    obtain ⟨c, tail, rfl⟩ := List.exists_cons_of_ne_nil hfirst.1
    have hc := hfirst.not_newline c List.mem_cons_self
    exact List.dropWhile_cons_of_neg (by rw [hc]; exact Bool.false_ne_true)
  rw [List.cons_append, ← hended, blockText, hjoin, trimWhile_eq_self_iff.mpr ⟨hstart, hend⟩]

/-- A text of several lines can stand for one line of a block. -/
theorem ended_flatMap_split (ls : List Text) : ended (ls.flatMap (split '\n')) = ended ls := by
  induction ls with
  | nil => rfl
  | cons l ls ih =>
    rw [List.flatMap_cons, ended_append, ih, ended_split]
    rfl

/-! ### Lines without line ends -/

variable {schema : Schema} {f : Field} {fields : List Field}

theorem oneLine_terms (hf : f.WellFormed) :
    OneLine f.name ∧ OneLine f.type ∧ (∀ key ∈ f.key, OneLine key) ∧ OneLine f.comment := by
  refine ⟨hf.one_line _ (by simp [Field.terms]), hf.one_line _ (by simp [Field.terms]),
    fun key hkey => hf.one_line key ?_, hf.comment.1⟩
  simp [Field.terms, Option.mem_toList.mpr hkey]

theorem oneLine_scriptEntry (schema : Schema) (hf : f.WellFormed) :
    OneLine (scriptEntry schema f) := by
  obtain ⟨hname, htype, -, -⟩ := oneLine_terms hf
  simp [scriptEntry, oneLine_camelCase hname, oneLine_codeType schema htype]

theorem oneLine_pythonEntry (schema : Schema) (hf : f.WellFormed) :
    OneLine (pythonEntry schema f) := by
  obtain ⟨hname, htype, -, -⟩ := oneLine_terms hf
  simp [pythonEntry, hname, oneLine_codeType schema htype]

theorem oneLine_outputEntry (schema : Schema) (hf : f.WellFormed) {mark : Text}
    (hmark : OneLine mark) {shown : Text → Text} (hshown : ∀ t, OneLine t → OneLine (shown t)) :
    OneLine (outputEntry schema mark shown f) := by
  obtain ⟨hname, htype, -, -⟩ := oneLine_terms hf
  simp [outputEntry, hmark, hshown _ hname, oneLine_codeType schema htype]

theorem solid_tableRow (schema : Schema) (hf : f.WellFormed) : Solid (tableRow schema f) := by
  obtain ⟨hname, htype, hkey, hcomment⟩ := oneLine_terms hf
  refine ⟨by simp [tableRow, line], ?_⟩
  simp [tableRow, hname, oneLine_tableType schema htype hkey, hcomment]

theorem oneLine_commaItems {item : Field → Text} (h : ∀ f ∈ fields, OneLine (item f)) :
    ∀ l ∈ commaItems item fields, OneLine l := by
  intro l hl
  obtain ⟨i, hi⟩ := List.mem_iff_getElem?.mp hl
  have hlength : i < fields.length := by
    rw [← length_commaItems item]
    exact (List.getElem?_eq_some_iff.mp hi).1
  obtain ⟨f, hf⟩ : ∃ f, fields[i]? = some f := ⟨_, List.getElem?_eq_getElem hlength⟩
  have hitem := h f (List.mem_of_getElem? hf)
  rw [getElem?_commaItems item hf, Option.some_inj] at hi
  subst hi
  unfold commaEntry
  split
  · exact hitem
  · simp [hitem]

/-- What holds of the lines of a sample or a table. -/
theorem forall_mem_sample {p : Text → Prop} {single : Text} {top entries bottom : List Text}
    (hsingle : p single) (htop : ∀ l ∈ top, p l) (hentries : ∀ l ∈ entries, p l)
    (hbottom : ∀ l ∈ bottom, p l) :
    ∀ l ∈ (if fields.isEmpty then [single] else stack [top, entries, bottom]), p l := by
  split
  · exact List.forall_mem_singleton.mpr hsingle
  · intro l hl
    simp only [stack, List.flatten_cons, List.flatten_nil, List.append_nil, List.mem_append] at hl
    obtain hl | hl | hl := hl
    · exact htop l hl
    · exact hentries l hl
    · exact hbottom l hl

variable {request response : Message} {client : Text} {call : Call}

theorem oneLine_scriptRequest (schema : Schema) (h : request.WellFormed) :
    ∀ l ∈ scriptRequest schema request, OneLine l := by
  refine forall_mem_sample (by decide) (by decide) ?_ (by decide)
  exact List.forall_mem_map.mpr fun f hf => oneLine_scriptEntry schema (h.fields f hf)

theorem oneLine_messageName (h : request.WellFormed) : OneLine request.name := by
  intro hmem
  obtain ⟨hblank, -, -⟩ := h.name '\n' hmem
  cases hblank

theorem oneLine_pythonRequest (schema : Schema) (hclient : OneLine client)
    (h : request.WellFormed) : ∀ l ∈ pythonRequest schema client request, OneLine l := by
  have hname := oneLine_messageName h
  refine forall_mem_sample (by simp [hclient, hname]) (by simp [hclient, hname]) ?_ (by decide)
  exact List.forall_mem_map.mpr fun f hf => oneLine_pythonEntry schema (h.fields f hf)

theorem oneLine_sampleOutput (schema : Schema) {mark : Text} (hmark : OneLine mark)
    {shown : Text → Text} (hshown : ∀ t, OneLine t → OneLine (shown t))
    (h : response.WellFormed) : ∀ l ∈ sampleOutput schema mark shown response, OneLine l := by
  refine forall_mem_sample (by simp [hmark]) (by simp [hmark]) ?_ (by simp [hmark])
  exact oneLine_commaItems fun f hf => oneLine_outputEntry schema (h.fields f hf) hmark hshown

theorem solid_fieldSection (schema : Schema) {kind : Text} (hkind : OneLine kind)
    (h : ∀ f ∈ fields, f.WellFormed) : ∀ l ∈ fieldSection schema kind fields, Solid l := by
  have hsingle : Solid (line ["This ", kind, " has no parameters."]) :=
    ⟨by simp [line], by simp [hkind]⟩
  refine forall_mem_sample hsingle (by decide) ?_ (List.forall_mem_nil _)
  exact List.forall_mem_map.mpr fun f hf => solid_tableRow schema (h f hf)

theorem fieldSection_ne_nil (schema : Schema) (kind : Text) (fields : List Field) :
    fieldSection schema kind fields ≠ [] := by
  unfold fieldSection
  split
  · exact List.cons_ne_nil _ _
  · exact List.cons_ne_nil _ _

theorem oneLine_scriptInvocation (hclient : OneLine client) (hname : OneLine call.name) :
    ∀ l ∈ scriptInvocation client call, OneLine l := by
  unfold scriptInvocation
  split <;> simp [hclient, oneLine_lowerInitial hname]

theorem oneLine_pythonInvocation (hclient : OneLine client) (hname : OneLine call.name) :
    ∀ l ∈ pythonInvocation client call, OneLine l := by
  unfold pythonInvocation
  split <;> simp [hclient, hname]

theorem oneLine_callGroups (schema : Schema) {service : Service} (hservice : service.WellFormed)
    (hcall : call.WellFormed) (hrequest : request.WellFormed) (hresponse : response.WellFormed) :
    ∀ l ∈ (callGroups schema service call request response).lines, OneLine l := by
  have hclient := oneLine_lower hservice.one_line
  have hname : OneLine call.name := (hcall.parts call.name List.mem_cons_self).2.2
  have hcomment : OneLine call.comment := hcall.comment.1
  have hshell : ∀ l ∈ (shellSample call.shell).flatMap (split '\n'), OneLine l := by
    intro l hl
    obtain ⟨_, -, hpiece⟩ := List.mem_flatMap.mp hl
    exact not_mem_of_mem_split hpiece
  have htable {kind : Text} {m : Message} (hkind : OneLine kind) (hm : m.WellFormed) :
      ∀ l ∈ fieldSection schema kind m.fields, OneLine l :=
    fun l hl => (solid_fieldSection schema hkind hm.fields l hl).2
  have hheading : ∀ l ∈ [line ["## ", call.name], "```javascript".toList], OneLine l := by
    simp [hname]
  have hfences : ∀ l ∈ ["```".toList, "```python".toList], OneLine l := by decide
  have hfence : ∀ l ∈ ["```".toList], OneLine l := by decide
  have hrequestHeading : ∀ l ∈ ["### Request".toList], OneLine l := by decide
  have hresponseHeading : ∀ l ∈ [if call.stream then "### Response (Streaming)".toList
      else "### Response".toList], OneLine l := by
    split <;> decide
  unfold CallGroups.lines stack
  rw [List.forall_mem_flatten]
  simp only [List.forall_mem_cons]
  exact ⟨hheading, oneLine_scriptRequest schema hrequest, oneLine_scriptInvocation hclient hname,
    oneLine_sampleOutput schema (by decide) (fun _ => oneLine_camelCase) hresponse, hfences,
    oneLine_pythonRequest schema hclient hrequest, oneLine_pythonInvocation hclient hname,
    oneLine_sampleOutput schema (by decide) (fun _ => id) hresponse, hfence, hshell,
    List.forall_mem_singleton.mpr hcomment, hrequestHeading, htable (by decide) hrequest,
    hresponseHeading, htable (by decide) hresponse, List.forall_mem_nil _⟩

/-! ### Sections are written in these lines -/

/-- Writing the parts gives the lines, and none of them has a line end in it. -/
structure Writes (ps : List Part) (ls : List Text) : Prop where
  write_eq : write ps = ⟨ended ls, none⟩
  oneLine : ∀ l ∈ ls, OneLine l

variable {ps ps' : List Part} {ls ls' : List Text}

theorem Writes.append (h : Writes ps ls) (h' : Writes ps' ls') :
    Writes (ps ++ ps') (ls ++ ls') := by
  have hfailure : (write ps).failure = none := by rw [h.write_eq]
  refine ⟨?_, List.forall_mem_append.mpr ⟨h.oneLine, h'.oneLine⟩⟩
  rw [write_append_of_failure_eq_none hfailure, h.write_eq, h'.write_eq, ended_append]

theorem writes_ok {t : Text} (ht : t = ended ls) (h : ∀ l ∈ ls, OneLine l) : Writes [.ok t] ls := by
  refine ⟨?_, h⟩
  rw [write, write, ht, List.append_nil]

theorem solid_heading {mark : Text} (hmark : Solid mark) {name : Text} (hname : OneLine name) :
    Solid (line [mark, name]) := by
  refine ⟨?_, by simp [hmark.2, hname]⟩
  simp [line, hmark.1]

theorem exists_get?_of_mem_keys {α : Type} {t : Table α} {key : Text} (h : key ∈ t.keys) :
    ∃ value, t.get? key = some value :=
  Option.isSome_iff_exists.mp ((Table.contains_iff_mem_keys t key).mpr h)

theorem resolve_of_get? {call type : Text} {message : Message}
    (h : schema.messages.get? type = some message) : schema.resolve call type = .ok message := by
  rw [Schema.resolve, h]

theorem wellFormed_of_get? (hschema : schema.WellFormed) {type : Text} {message : Message}
    (h : schema.messages.get? type = some message) : message.WellFormed := by
  obtain ⟨entry, hentry, rfl⟩ := List.mem_map.mp (Table.mem_values_of_get? h)
  exact (hschema.messages entry hentry).2

theorem ended_callBlock (schema : Schema) (service : Service) (call : Call)
    (request response : Message) :
    ended (callBlock schema service call request response) =
      ended (callGroups schema service call request response).lines := by
  have hpair : ended [call.comment, "### Request".toList] =
      ended [call.comment] ++ ended ["### Request".toList] := ended_append [_] [_]
  simp only [callBlock, callGroups, CallGroups.lines, stack, List.flatten_cons, List.flatten_nil,
    ended_append, ended_flatMap_split, hpair, List.append_assoc]

theorem blockText_callBlock (schema : Schema) (service : Service) {call : Call}
    (hcall : call.WellFormed) (request : Message) {response : Message}
    (hresponse : response.WellFormed) :
    blockText (callBlock schema service call request response) =
      ended (callGroups schema service call request response).lines := by
  have hname : OneLine call.name := (hcall.parts call.name List.mem_cons_self).2.2
  have hheading := solid_heading (by decide : Solid "## ".toList) hname
  have htable := solid_fieldSection schema (by decide : OneLine "response".toList) hresponse.fields
  rw [← ended_callBlock]
  simp only [callBlock, stack, List.flatten_cons, List.flatten_nil, List.append_nil,
    ← List.append_assoc]
  exact blockText_eq_ended rfl hheading (fieldSection_ne_nil schema _ _) htable

theorem commands_ne_nil {call : Call} (hcall : call.WellFormed) :
    ∀ commands ∈ call.shell, commands ≠ [] := by
  intro commands hcommands
  obtain ⟨ls, hne, hls, rfl⟩ := hcall.shell commands hcommands
  obtain ⟨first, rest, rfl⟩ := List.exists_cons_of_ne_nil hne
  have hfirst := (hls first List.mem_cons_self).1
  cases rest with
  | nil => simp [join, hfirst]
  | cons next rest => simp [join, hfirst]

theorem exists_writes_call {subject : Subject} (hschema : subject.schema.WellFormed)
    {service : Service} (hservice : service.WellFormed) {call : Call} (hcall : call.WellFormed)
    (hresolves : subject.schema.Resolves call) :
    ∃ ls, Writes [subject.callPart service call] ls ∧ CallLines subject.schema call ls := by
  obtain ⟨request, hrequest⟩ := exists_get?_of_mem_keys hresolves.1
  obtain ⟨response, hresponse⟩ := exists_get?_of_mem_keys hresolves.2
  have hrequest' := wellFormed_of_get? hschema hrequest
  have hresponse' := wellFormed_of_get? hschema hresponse
  have hpart : subject.callPart service call =
      .ok (blockText (callBlock subject.schema service call request response)) := by
    rw [Subject.callPart, resolve_of_get? hrequest, resolve_of_get? hresponse]
    rfl
  rw [hpart]
  refine ⟨(callGroups subject.schema service call request response).lines, writes_ok ?_ ?_,
    request, response, _, hrequest, hresponse,
    describe_callGroups subject.schema service (commands_ne_nil hcall) request response, rfl⟩
  · exact blockText_callBlock subject.schema service hcall request hresponse'
  · exact oneLine_callGroups subject.schema hservice hcall hrequest' hresponse'

theorem wellFormed_schema (source : Text) : (findings source).schema.WellFormed := by
  rw [findings_eq_foldl]
  refine wellFormed_foldl_readLine (fun _ => unbroken_of_mem_sites) ?_
  exact ⟨List.forall_mem_nil _, List.forall_mem_nil _, List.forall_mem_nil _⟩

end

end RpcReference.Document
