import Mathlib.Data.List.Basic
import RpcReference.Command.Run
import RpcReference.Proofs.JsonText
import RpcReference.Proofs.Tables
/-!
# Schemas are read back from their JSON

A record is written as the members of its present fields, and reading by the names of the fields gives
back each field, present or absent. Lists and tables follow item by item, and the order of a table is
the order of its members. With the reading of texts this gives the round trip of schemas in either
layout, alone and as a member of the printed findings.
-/

namespace RpcReference

open Json Source Command Files

/-! ### Records, lists and tables -/

namespace Json

theorem mapM_map_of_forall {α β γ : Type} {decode : β → Option γ} {encode : α → β} {f : α → γ}
    {items : List α} (h : ∀ x ∈ items, decode (encode x) = some (f x)) :
    (items.map encode).mapM decode = some (items.map f) := by
  induction items with
  | nil => rfl
  | cons x items ih =>
    obtain ⟨hx, hitems⟩ := List.forall_mem_cons.mp h
    simp [List.mapM_cons, hx, ih hitems]

theorem mapM_map_of_inverse {α β : Type} {decode : β → Option α} {encode : α → β}
    (h : ∀ x, decode (encode x) = some x) (items : List α) :
    (items.map encode).mapM decode = some items := by
  have hmapM := mapM_map_of_forall (fun x (_ : x ∈ items) => h x)
  rwa [List.map_id'] at hmapM

def ofMembers (members : List (Text × Json)) : Json :=
  .object (members.map fun (name, value) => (some name, value))

theorem members?_ofMembers (members : List (Text × Json)) :
    (ofMembers members).members? = some members := by
  rw [ofMembers, members?]
  exact mapM_map_of_inverse (fun m => by cases m; rfl) members

theorem plain_ofMembers {members : List (Text × Json)} (h : ∀ m ∈ members, m.2.Plain) :
    (ofMembers members).Plain := by
  refine .object fun m hm => ?_
  obtain ⟨n, hn, rfl⟩ := List.mem_map.mp hm
  exact h n hn

/-- The members of the fields that are present. -/
def present (fields : List (String × Option Json)) : List (Text × Json) :=
  fields.filterMap fun (name, value) => value.map (name.toList, ·)

theorem present_append (front back : List (String × Option Json)) :
    present (front ++ back) = present front ++ present back :=
  List.filterMap_append

theorem present_cons (name : String) (value : Option Json) (fields : List (String × Option Json)) :
    present ((name, value) :: fields) =
      (value.map (name.toList, ·)).toList ++ present fields := by
  cases value <;> rfl

theorem mem_present {fields : List (String × Option Json)} {m : Text × Json}
    (hm : m ∈ present fields) : ∃ name, m.1 = name.toList ∧ (name, some m.2) ∈ fields := by
  obtain ⟨⟨name, value⟩, hfield, hvalue⟩ := List.mem_filterMap.mp hm
  obtain ⟨j, rfl, rfl⟩ := Option.map_eq_some_iff.mp hvalue
  exact ⟨name, rfl, hfield⟩

theorem filter_present_of_not_mem {fields : List (String × Option Json)} {name : String}
    (h : name ∉ fields.map Prod.fst) : (present fields).filter (·.1 == name.toList) = [] := by
  refine List.filter_eq_nil_iff.mpr fun m hm heq => h ?_
  obtain ⟨other, hother, hfield⟩ := mem_present hm
  have hname : other = name := String.toList_inj.mp (hother.symm.trans (beq_iff_eq.mp heq))
  exact hname ▸ List.mem_map_of_mem hfield

theorem filter_present {fields : List (String × Option Json)} (h : (fields.map Prod.fst).Nodup)
    {name : String} {value : Option Json} (hmem : (name, value) ∈ fields) :
    (present fields).filter (·.1 == name.toList) = (value.map (name.toList, ·)).toList := by
  obtain ⟨front, back, rfl⟩ := List.append_of_mem hmem
  rw [List.map_append, List.map_cons, List.nodup_append, List.nodup_cons] at h
  obtain ⟨-, ⟨hback, -⟩, hfront⟩ := h
  have hname : name ∉ front.map Prod.fst := fun hmem => hfront name hmem name List.mem_cons_self rfl
  rw [present_append, present_cons, List.filter_append, List.filter_append,
    filter_present_of_not_mem hname, filter_present_of_not_mem hback]
  cases value <;> simp

/-- Any of the fields of a record are read back by their names, if the names of all are distinct. -/
theorem record?_present {fields wanted : List (String × Option Json)}
    (h : (fields.map Prod.fst).Nodup) (hwanted : wanted ⊆ fields) :
    (ofMembers (present fields)).record? (wanted.map Prod.fst) = some (wanted.map Prod.snd) := by
  rw [record?.eq_def]
  split
  · next heq => cases heq
  · rw [members?_ofMembers]
    refine mapM_map_of_forall fun field hfield => ?_
    obtain ⟨name, value⟩ := field
    dsimp only
    rw [filter_present h (hwanted hfield)]
    cases value <;> rfl

def ofRecord (names : List String) (values : List (Option Json)) : Json :=
  ofMembers (present (names.zip values))

theorem record?_ofRecord {names : List String} {values : List (Option Json)} (hnames : names.Nodup)
    (hlength : names.length = values.length) :
    (ofRecord names values).record? names = some values := by
  have hfst : (names.zip values).map Prod.fst = names := List.map_fst_zip (Nat.le_of_eq hlength)
  have hsnd : (names.zip values).map Prod.snd = values :=
    List.map_snd_zip (Nat.le_of_eq hlength.symm)
  have hread := record?_present (hfst.symm ▸ hnames) (List.Subset.refl _)
  rwa [hfst, hsnd] at hread

theorem plain_ofRecord {names : List String} {values : List (Option Json)}
    (h : ∀ value ∈ values, ∀ j ∈ value, Plain j) : (ofRecord names values).Plain := by
  refine plain_ofMembers fun m hm => ?_
  obtain ⟨name, -, hfield⟩ := mem_present hm
  exact h _ (List.of_mem_zip hfield).2 m.2 rfl

theorem list?_map {α : Type} {encode : α → Json} {decode : Json → Option α}
    (h : ∀ x, decode (encode x) = some x) (items : List α) :
    list? decode (.array (items.map encode)) = some items :=
  mapM_map_of_inverse h items

theorem plain_map {α : Type} {encode : α → Json} (h : ∀ x, (encode x).Plain) (items : List α) :
    Plain (.array (items.map encode)) := by
  refine .array fun j hj => ?_
  obtain ⟨x, -, rfl⟩ := List.mem_map.mp hj
  exact h x

theorem toJson_table {α : Type} (encode : α → Json) (t : Table α) :
    t.toJson encode = ofMembers (t.entries.map fun (key, value) => (key, encode value)) := by
  rw [Table.toJson, ofMembers, List.map_map]
  rfl

theorem table?_toJson {α : Type} {encode : α → Json} {decode : Json → Option α}
    (h : ∀ x, decode (encode x) = some x) (t : Table α) :
    table? decode (t.toJson encode) = some t := by
  have hentries : (t.entries.map fun (key, value) => (key, encode value)).mapM
      (fun (name, value) => (decode value).map (name, ·)) = some t.entries :=
    mapM_map_of_inverse (fun e => by simp [h]) t.entries
  rw [table?, toJson_table, members?_ofMembers]
  simp only [Option.bind_eq_bind, Option.bind_some]
  rw [hentries]
  simp [Table.ofList_entries]

theorem plain_table {α : Type} {encode : α → Json} (h : ∀ x, (encode x).Plain) (t : Table α) :
    (t.toJson encode).Plain := by
  rw [toJson_table]
  refine plain_ofMembers fun m hm => ?_
  obtain ⟨e, -, rfl⟩ := List.mem_map.mp hm
  exact h e.2

end Json

/-! ### The records of a schema

Each record is brought into the form of its names and values once. That it is read back, and that it
holds no odd numbers, follows from this form and from the records inside it. -/

@[simp] theorem text?_ofText (t : Text) : (ofText t).text? = some t :=
  rfl

theorem plain_ofText (t : Text) : (ofText t).Plain :=
  .string t

@[simp] theorem bool?_bool (value : Bool) : (Json.bool value).bool? = some value :=
  rfl

@[simp] theorem optional?_map_ofText (t : Option Text) : optional? (t.map .ofText) = some t := by
  cases t <;> rfl

theorem Field.toJson_eq (f : Field) :
    f.toJson = ofRecord ["name", "field_type", "comment", "repeated", "key"]
      [some (.ofText f.name), some (.ofText f.type), some (.ofText f.comment),
        some (.bool f.repeated), f.key.map .ofText] := by
  rw [Field.toJson]
  cases f.key <;> rfl

theorem Field.ofJson?_toJson (f : Field) : Field.ofJson? f.toJson = some f := by
  rw [Field.ofJson?, f.toJson_eq, record?_ofRecord (by simp) rfl]
  simp

theorem Field.plain_toJson (f : Field) : f.toJson.Plain := by
  rw [f.toJson_eq]
  refine plain_ofRecord ?_
  simp [Plain.bool, plain_ofText]

theorem Message.toJson_eq (m : Message) :
    m.toJson = ofRecord ["name", "fields"]
      [some (.ofText m.name), some (.array (m.fields.map Field.toJson))] :=
  rfl

theorem Message.ofJson?_toJson (m : Message) : Message.ofJson? m.toJson = some m := by
  rw [Message.ofJson?, m.toJson_eq, record?_ofRecord (by simp) rfl]
  simp [list?_map Field.ofJson?_toJson]

theorem Message.plain_toJson (m : Message) : m.toJson.Plain := by
  rw [m.toJson_eq]
  refine plain_ofRecord ?_
  simp [plain_ofText, plain_map Field.plain_toJson]

theorem Enumeration.toJson_eq (e : Enumeration) :
    e.toJson = ofRecord ["name", "comment", "values"]
      [some (.ofText e.name), some (.ofText e.comment), some (.array (e.values.map .ofText))] :=
  rfl

theorem Enumeration.ofJson?_toJson (e : Enumeration) : Enumeration.ofJson? e.toJson = some e := by
  rw [Enumeration.ofJson?, e.toJson_eq, record?_ofRecord (by simp) rfl]
  simp [list?_map text?_ofText]

theorem Enumeration.plain_toJson (e : Enumeration) : e.toJson.Plain := by
  rw [e.toJson_eq]
  refine plain_ofRecord ?_
  simp [plain_ofText, plain_map plain_ofText]

theorem Call.toJson_eq (c : Call) :
    c.toJson = ofRecord ["name", "request_type", "response_type", "comment", "stream", "shell"]
      [some (.ofText c.name), some (.ofText c.request), some (.ofText c.response),
        some (.ofText c.comment), some (.bool c.stream), c.shell.map .ofText] := by
  rw [Call.toJson]
  cases c.shell <;> rfl

theorem Call.ofJson?_toJson (c : Call) : Call.ofJson? c.toJson = some c := by
  rw [Call.ofJson?, c.toJson_eq, record?_ofRecord (by simp) rfl]
  simp

theorem Call.plain_toJson (c : Call) : c.toJson.Plain := by
  rw [c.toJson_eq]
  refine plain_ofRecord ?_
  simp [Plain.bool, plain_ofText]

theorem Service.toJson_eq (s : Service) :
    s.toJson = ofRecord ["name", "comment", "calls"]
      [some (.ofText s.name), some (.ofText s.comment), some (.array (s.calls.map Call.toJson))] :=
  rfl

theorem Service.ofJson?_toJson (s : Service) : Service.ofJson? s.toJson = some s := by
  rw [Service.ofJson?, s.toJson_eq, record?_ofRecord (by simp) rfl]
  simp [list?_map Call.ofJson?_toJson]

theorem Service.plain_toJson (s : Service) : s.toJson.Plain := by
  rw [s.toJson_eq]
  refine plain_ofRecord ?_
  simp [plain_ofText, plain_map Call.plain_toJson]

theorem Schema.toJson_eq (s : Schema) :
    s.toJson = ofRecord ["services", "messages", "enums"]
      [some (.array (s.services.map Service.toJson)), some (s.messages.toJson Message.toJson),
        some (s.enums.toJson Enumeration.toJson)] :=
  rfl

theorem Schema.ofJson?_toJson (s : Schema) : Schema.ofJson? s.toJson = some s := by
  rw [Schema.ofJson?, s.toJson_eq, record?_ofRecord (by simp) rfl]
  simp [list?_map Service.ofJson?_toJson, table?_toJson Message.ofJson?_toJson,
    table?_toJson Enumeration.ofJson?_toJson]

theorem Schema.plain_toJson (s : Schema) : s.toJson.Plain := by
  rw [s.toJson_eq]
  refine plain_ofRecord ?_
  simp [plain_map Service.plain_toJson, plain_table Message.plain_toJson,
    plain_table Enumeration.plain_toJson]

/-! ### Texts -/

theorem Schema.parseJson?_render {layout : Layout} (hlayout : layout.IsBlank) (s : Schema) :
    Schema.parseJson? (s.toJson.render layout 0) = some s := by
  have hparse := parse?_render hlayout s.plain_toJson (List.forall_mem_nil _)
  rw [List.append_nil] at hparse
  rw [Schema.parseJson?, hparse, Option.bind_some, s.ofJson?_toJson]

/-- The schema in the member of that name of the object that a JSON text writes. -/
def Schema.memberOfJson? (t : Text) : Option Schema := do
  let j ← Json.parse? t
  match ← j.record? ["schema"] with
  | [some schema] => Schema.ofJson? schema
  | _ => none

namespace Source

theorem Diagnostic.plain_toJson (d : Diagnostic) : d.toJson.Plain := by
  have hrecord : d.toJson =
      ofRecord ["line", "message"] [some (.ofNat d.line), some (.ofText d.message)] := rfl
  rw [hrecord]
  refine plain_ofRecord ?_
  simp [Plain.nat, plain_ofText]

theorem Findings.toJson_eq (f : Findings) :
    f.toJson = ofRecord ["schema", "diagnostics"]
      [some f.schema.toJson, some (.array (f.diagnostics.map Diagnostic.toJson))] :=
  rfl

theorem Findings.plain_toJson (f : Findings) : f.toJson.Plain := by
  rw [f.toJson_eq]
  refine plain_ofRecord ?_
  simp [Schema.plain_toJson, plain_map Diagnostic.plain_toJson]

theorem Findings.record?_schema (f : Findings) :
    f.toJson.record? ["schema"] = some [some f.schema.toJson] := by
  rw [f.toJson_eq]
  exact @record?_present _ [("schema", some f.schema.toJson)] (by simp) (by simp)

theorem Findings.memberOfJson?_indented (f : Findings) {tail : Text} (htail : IsSpaces tail) :
    Schema.memberOfJson? (f.toJson.indented ++ tail) = some f.schema := by
  have hparse := parse?_render Layout.isBlank_indented f.plain_toJson htail
  rw [Schema.memberOfJson?, indented, hparse]
  simp [f.record?_schema, Schema.ofJson?_toJson]

end Source

/-- The text of a schema, compact or indented, is read back as that schema, and so is the schema in
the text of any findings. In particular it is read back from what the command prints about a
definition file that it can read. -/
theorem Schema.readsBack_toJson :
    (∀ s : Schema, Schema.parseJson? s.toJson.compact = some s ∧
      Schema.parseJson? s.toJson.indented = some s ∧
      ∀ diagnostics, Schema.memberOfJson? (Findings.toJson ⟨s, diagnostics⟩).indented = some s) ∧
    ∀ (t : Tree) (input source : Text), t.read input = .ok source →
      Schema.memberOfJson? ((printFindings input).run t).output =
        some (findings source).schema := by
  refine ⟨fun s => ⟨s.parseJson?_render Layout.isBlank_compact,
    s.parseJson?_render Layout.isBlank_indented, fun diagnostics => ?_⟩,
    fun t input source hread => ?_⟩
  · have hmember := Findings.memberOfJson?_indented ⟨s, diagnostics⟩ (List.forall_mem_nil _)
    rwa [List.append_nil] at hmember
  · have hline : IsSpaces ['\n'] := List.forall_mem_singleton.mpr rfl
    have hmember := (findings source).memberOfJson?_indented hline
    simpa [printFindings, readSource, Program.run, hread, sourceRead, Outcome.printed, lineOf]
      using hmember

/-- A message whose comment holds a quote, a backslash, a tab and a letter beyond ASCII. -/
def quotedSource : Text :=
  "message Note \x7b\n  // say \"é\\\"\tonce\n  string text = 1;\n\x7d\n".toList

/-- A working directory with that file. -/
def quotedTree : Tree :=
  ⟨[], .ofList [("note.proto".toList, some quotedSource)], []⟩

theorem Schema.readsBack_quotedSource :
    quotedTree.read "note.proto".toList = .ok quotedSource ∧
    Schema.memberOfJson? ((printFindings "note.proto".toList).run quotedTree).output =
      some (findings quotedSource).schema :=
  ⟨rfl, Schema.readsBack_toJson.2 quotedTree "note.proto".toList quotedSource rfl⟩

end RpcReference
