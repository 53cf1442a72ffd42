import RpcReference.Proofs.Redeclaration
import RpcReference.Proofs.Rendering
import RpcReference.Proofs.WellFormed
import RpcReference.Proofs.WholeLines
/-!
# Links between types

The type of a field is shown as a link when the schema knows the type by name; what the link points
to is the heading of a section, which is written from the name that a message or an enumeration
carries itself. Both sides meet in the file: a type is linked exactly if some line of the file
declares it, wherever the line stands, and a complete document has the heading of every linked type.
-/

namespace RpcReference.Document

open Text Source

/-! ### Shown types -/

def link (type : Text) : Text :=
  "[".toList ++ type ++ "](#".toList ++ lower type ++ ")".toList

/-- How a table shows the type of a field whose own type is written as `shown`. -/
def tableFrame (field : Field) (shown : Text) : Text :=
  match field.key with
  | some key => "map&lt;".toList ++ key ++ ", ".toList ++ shown ++ "&gt;".toList
  | none => if field.repeated then shown ++ " array".toList else shown

/-- How a code sample shows it. -/
def codeFrame (field : Field) (shown : Text) : Text :=
  if field.repeated then shown ++ "[]".toList else shown

theorem typeLink_eq_link_iff {schema : Schema} {type : Text} :
    typeLink schema type = link type ↔ schema.declares type = true := by
  unfold typeLink
  split
  · next h => exact iff_of_true rfl h
  · next h =>
    refine iff_of_false (fun heq => ?_) h
    have hlength := congrArg List.length heq
    simp only [link, List.length_append] at hlength
    have hbracket : "[".toList.length = 1 := rfl
    omega

theorem tableFrame_injective (field : Field) : Function.Injective (tableFrame field) := by
  intro shown shown' h
  unfold tableFrame at h
  split at h
  · exact List.append_cancel_left (List.append_cancel_right h)
  · split at h
    · exact List.append_cancel_right h
    · exact h

theorem codeFrame_injective (field : Field) : Function.Injective (codeFrame field) := by
  intro shown shown' h
  unfold codeFrame at h
  split at h
  · exact List.append_cancel_right h
  · exact h

theorem tableType_eq_tableFrame_iff {schema : Schema} {field : Field} {shown : Text} :
    tableType schema field = tableFrame field shown ↔ typeLink schema field.type = shown :=
  (tableFrame_injective field).eq_iff

theorem codeType_eq_codeFrame_iff {schema : Schema} {field : Field} {shown : Text} :
    codeType schema field = codeFrame field shown ↔ typeLink schema field.type = shown :=
  (codeFrame_injective field).eq_iff

/-! ### Declared types -/

/-- Some line of the file declares a message or an enumeration of this name. -/
def Declared (source type : Text) : Prop :=
  ∃ site ∈ sites (lines source),
    Kind.messages.name? site = some type ∨ Kind.enums.name? site = some type

theorem declares_findings_iff {source type : Text} :
    (findings source).schema.declares type = true ↔ Declared source type := by
  have hmessages := Kind.lawful_messages.mem_keys_foldl (sites (lines source)) type
  have henums := Kind.lawful_enums.mem_keys_foldl (sites (lines source)) type
  rw [← findings_eq_foldl] at hmessages henums
  rw [Schema.declares, Bool.or_eq_true, Table.contains_iff_mem_keys, Table.contains_iff_mem_keys]
  change type ∈ (Kind.messages.table _).keys ∨ type ∈ (Kind.enums.table _).keys ↔ _
  rw [hmessages, henums, ← exists_or]
  exact exists_congr fun site => and_or_left.symm

theorem Declared.newline_not_mem {source type : Text} (h : Declared source type) : '\n' ∉ type := by
  obtain ⟨site, hsite, hname⟩ := h
  have hunbroken := unbroken_of_mem_sites hsite
  rcases hname with hname | hname
  · obtain ⟨rest, hline, rfl⟩ := Kind.exists_of_name? hname
    intro hmem
    exact hunbroken.nameBeforeBrace hline (List.mem_of_mem_filter hmem)
  · obtain ⟨rest, hline, rfl⟩ := Kind.exists_of_name? hname
    exact hunbroken.nameBeforeBrace hline

/-! ### Blocks in whole lines -/

theorem wholeLines_blockText (ls : List Text) : WholeLines (blockText ls) :=
  Or.inr ⟨_, rfl⟩

theorem wholeLines_write {ps : List Part} (h : ∀ t, .ok t ∈ ps → WholeLines t) :
    WholeLines (write ps).written := by
  induction ps with
  | nil => exact Or.inl rfl
  | cons p ps ih =>
    cases p with
    | error e => exact Or.inl rfl
    | ok t => exact (h t (by simp)).append (ih fun u hu => h u (by simp [hu]))

theorem wholeLines_headParts (subject : Subject) (services : List Service) :
    WholeLines (write (subject.headParts services)).written := by
  refine wholeLines_write fun t ht => ?_
  rw [Subject.headParts, List.mem_cons, List.mem_flatMap] at ht
  rcases ht with ht | ⟨service, -, ht⟩
  · cases ht
    exact wholeLines_blockText _
  · rw [Subject.serviceParts, List.mem_cons, List.mem_cons, List.mem_map] at ht
    rcases ht with ht | ht | ⟨call, -, ht⟩
    · cases ht
      exact wholeLines_blockText _
    · cases ht
      exact Or.inr ⟨_, rfl⟩
    · unfold Subject.callPart at ht
      cases hrequest : subject.schema.resolve call.name call.request with
      | error e => simp [hrequest, bind, Except.bind] at ht
      | ok request =>
        cases hresponse : subject.schema.resolve call.name call.response with
        | error e => simp [hrequest, hresponse, bind, Except.bind] at ht
        | ok response =>
          simp only [hrequest, hresponse, bind, Except.bind, pure, Except.pure,
            Except.ok.injEq] at ht
          rw [← ht]
          exact wholeLines_blockText _

/-! ### Headings -/

def heading (type : Text) : Text :=
  "## ".toList ++ type

theorem exists_join_cons (first : Text) (rest : List Text) :
    ∃ tail, join ['\n'] (first :: rest) = first ++ tail ∧
      (tail = [] ∨ ∃ more, tail = '\n' :: more) := by
  cases rest with
  | nil => exact ⟨[], by simp [join], Or.inl rfl⟩
  | cons second rest =>
    refine ⟨'\n' :: join ['\n'] (second :: rest), ?_, Or.inr ⟨_, rfl⟩⟩
    rw [join, List.intercalate_cons_cons, List.append_assoc, List.singleton_append, join]

/-- A block keeps its first line, whatever line ends are trimmed from it. -/
theorem exists_blockText_cons {first : Text} (hne : first ≠ []) (hfirst : '\n' ∉ first)
    (rest : List Text) : ∃ more, blockText (first :: rest) = first ++ '\n' :: more := by
  obtain ⟨tail, hjoin, htail⟩ := exists_join_cons first rest
  have hkept : ∀ c ∈ first, (c == '\n') = false := by
    intro c hc
    simpa using fun heq : c = '\n' => hfirst (heq ▸ hc)
  have htrim : trimWhile (· == '\n') (first ++ tail) = first ++ dropEndWhile (· == '\n') tail := by
    obtain ⟨c, start, rfl⟩ := List.exists_cons_of_ne_nil hne
    rw [trimWhile, List.cons_append, List.dropWhile_cons_of_neg (by simp [hkept c]),
      ← List.cons_append, dropEndWhile_append_eq (dropEndWhile_eq_self_of_forall hkept)]
  rw [blockText, hjoin, htrim]
  have hleft : dropEndWhile (· == '\n') tail <+: tail := List.rdropWhile_prefix _ tail
  cases hrest : dropEndWhile (· == '\n') tail with
  | nil => exact ⟨[], by simp⟩
  | cons c left =>
    rw [hrest] at hleft
    rcases htail with rfl | ⟨more, rfl⟩
    · exact absurd (List.prefix_nil.mp hleft) (by simp)
    · obtain ⟨rfl, -⟩ := List.cons_prefix_cons.mp hleft
      exact ⟨left ++ ['\n'], by simp⟩

def typeBlocks (schema : Schema) : List (List Text) :=
  schema.messages.values.map (messageBlock schema) ++ schema.enums.values.map enumBlock

theorem exists_block_of_declared {source type : Text} (h : Declared source type) :
    ∃ rest, heading type :: rest ∈ typeBlocks (findings source).schema := by
  have hline : line ["## ".toList, type] = heading type := by simp [line, heading]
  obtain ⟨site, hsite, hname | hname⟩ := h
  · obtain ⟨last, hlast⟩ := Kind.lawful_messages.exists_read_mem_values hsite hname
    refine ⟨fieldSection (findings source).schema "message".toList
      (readMessage last type).fields, ?_⟩
    rw [← hline]
    exact List.mem_append_left _ (List.mem_map_of_mem hlast)
  · obtain ⟨last, hlast⟩ := Kind.lawful_enums.exists_read_mem_values hsite hname
    refine ⟨(enumBlock (readEnum last type)).tail, List.mem_append_right _ ?_⟩
    rw [← hline]
    exact List.mem_map_of_mem hlast

theorem exists_section_of_mem {α : Type} {title : Text} (htitle : WholeLines title)
    {text : α → Text} (htext : ∀ x, WholeLines (text x)) {xs : List α} {x : α} (hx : x ∈ xs)
    (tail : Text) :
    ∃ front back, WholeLines front ∧
      title ++ xs.flatMap text ++ tail = front ++ (text x ++ back) := by
  obtain ⟨before, after, rfl⟩ := List.append_of_mem hx
  refine ⟨title ++ before.flatMap text, after.flatMap text ++ tail,
    htitle.append (wholeLines_flatMap htext before), ?_⟩
  simp only [List.flatMap_append, List.flatMap_cons, List.append_assoc]

theorem exists_typeText_of_mem {subject : Subject} {block : List Text}
    (h : block ∈ typeBlocks subject.schema) :
    ∃ front back, WholeLines front ∧ subject.typeText = front ++ (blockText block ++ back) := by
  have hmessages : WholeLines "# Messages\n".toList := Or.inr ⟨"# Messages".toList, rfl⟩
  have henums : WholeLines "# Enums\n".toList := Or.inr ⟨"# Enums".toList, rfl⟩
  have hmessage (m : Message) := wholeLines_blockText (messageBlock subject.schema m)
  have henum (e : Enumeration) := wholeLines_blockText (enumBlock e)
  unfold Subject.typeText
  generalize "# Messages\n".toList = messages at hmessages ⊢
  generalize "# Enums\n".toList = enums at henums ⊢
  rcases List.mem_append.mp h with h | h
  · obtain ⟨m, hm, rfl⟩ := List.mem_map.mp h
    rw [List.append_assoc _ enums]
    exact exists_section_of_mem hmessages hmessage hm _
  · obtain ⟨e, he, rfl⟩ := List.mem_map.mp h
    have hbefore := hmessages.append (wholeLines_flatMap hmessage subject.schema.messages.values)
    obtain ⟨front, back, hfront, heq⟩ :=
      exists_section_of_mem (hbefore.append henums) henum he []
    rw [List.append_nil] at heq
    exact ⟨front, back, hfront, heq⟩

theorem heading_mem_split_typeText {subject : Subject} {type : Text} {rest : List Text}
    (htype : '\n' ∉ type) (h : heading type :: rest ∈ typeBlocks subject.schema) :
    heading type ∈ split '\n' subject.typeText := by
  have hnewline : '\n' ∉ heading type := by simp [heading, htype]
  obtain ⟨front, back, hfront, htext⟩ := exists_typeText_of_mem h
  obtain ⟨more, hblock⟩ := exists_blockText_cons (by simp [heading]) hnewline rest
  obtain ⟨above, hsplit⟩ := hfront.exists_split
  rw [htext, hsplit, hblock, List.append_assoc, List.cons_append, split_append_cons,
    split_of_not_mem hnewline]
  simp

/-- The lines about types are the last lines of a complete document. -/
theorem exists_split_render {subject : Subject} (h : (render subject).failure = none) :
    ∃ above, split '\n' (render subject).written = above ++ split '\n' subject.typeText := by
  have hhead : (write (subject.headParts subject.schema.services)).failure = none := by
    rw [render, Subject.parts_eq, failure_write_eq_none_iff] at h
    rw [failure_write_eq_none_iff]
    exact fun p hp => h p (List.mem_append_left _ hp)
  rw [render, Subject.parts_eq, write_append_of_failure_eq_none hhead, Subject.write_typeParts]
  obtain ⟨above, hsplit⟩ := (wholeLines_headParts subject subject.schema.services).exists_split
  exact ⟨above, hsplit subject.typeText⟩

/-- The document has a section for the type: among its lines about types is the heading, and the
heading begins the block of a message or an enumeration. -/
structure Headed (subject : Subject) (type : Text) : Prop where
  part : ∃ above, split '\n' (render subject).written = above ++ split '\n' subject.typeText
  line : heading type ∈ split '\n' subject.typeText
  block : ∃ rest, heading type :: rest ∈ typeBlocks subject.schema

/-- The type of a field is linked exactly if some line of the file declares it, in tables and
samples alike, and then a complete document has its heading. -/
theorem linked_iff_declared (source fileName : Text) (config : Config) :
    ∀ m ∈ (findings source).schema.messages.values, ∀ f ∈ m.fields,
      (typeLink (findings source).schema f.type = link f.type ↔ Declared source f.type) ∧
      (tableType (findings source).schema f = tableFrame f (link f.type) ↔
        Declared source f.type) ∧
      (codeType (findings source).schema f = codeFrame f (link f.type) ↔
        Declared source f.type) ∧
      ((render ⟨(findings source).schema, fileName, config⟩).failure = none →
        Declared source f.type →
        Headed ⟨(findings source).schema, fileName, config⟩ f.type) := by
  intro m _ f _
  rw [tableType_eq_tableFrame_iff, codeType_eq_codeFrame_iff, typeLink_eq_link_iff,
    declares_findings_iff]
  refine ⟨Iff.rfl, Iff.rfl, Iff.rfl, fun hcomplete hdeclared => ?_⟩
  obtain ⟨rest, hblock⟩ := exists_block_of_declared hdeclared
  exact ⟨exists_split_render hcomplete,
    heading_mem_split_typeText hdeclared.newline_not_mem hblock, rest, hblock⟩

/-- A message with a map to an enumeration that is declared below, inside another message. -/
def shelfSource : Text :=
  join ['\n'] ["service Library \x7b".toList, "rpc Find (Shelf) returns (stream Book);".toList,
    "\x7d".toList, "message Shelf \x7b".toList, "map<string, Kind> kinds = 1;".toList,
    "repeated Book books = 2;".toList, "\x7d".toList, "message Book \x7b".toList,
    "enum Kind \x7b NOVEL = 0; \x7d".toList, "string title = 1;".toList, "\x7d".toList]

/-- The map of the first message. -/
def kindsField : Field :=
  ⟨"kinds".toList, "Kind".toList, [], false, some "string".toList⟩

theorem kinds_linked_and_headed :
    tableType (findings shelfSource).schema kindsField =
      "map&lt;string, [Kind](#kind)&gt;".toList ∧
    "## Kind".toList ∈ split '\n'
      (Subject.typeText ⟨(findings shelfSource).schema, "shelf.proto".toList, .standard⟩) := by
  have hcomplete : (render ⟨(findings shelfSource).schema, "shelf.proto".toList, .standard⟩).failure
      = none := by decide +kernel
  obtain ⟨m, hm, hf⟩ : ∃ m ∈ (findings shelfSource).schema.messages.values,
      kindsField ∈ m.fields := by
    decide +kernel
  have hdeclared : Declared shelfSource "Kind".toList := by
    refine declares_findings_iff.mp ?_
    decide +kernel
  obtain ⟨-, htable, -, hheaded⟩ :=
    linked_iff_declared shelfSource "shelf.proto".toList .standard m hm kindsField hf
  refine ⟨?_, (hheaded hcomplete hdeclared).line⟩
  rw [htable.mpr hdeclared]
  decide +kernel

end RpcReference.Document
