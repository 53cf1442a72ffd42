import RpcReference.Proofs.NestedDeclarations
import RpcReference.Proofs.WrittenBodies
/-!
# Where the opening brace stands

The readers of bodies expect the opening brace on the line of the keyword. A brace that stands
alone on the next line is a part of the body to them. An enumeration gets it as a first value. To
the scan of a message it opens nested braces, so that the whole body is passed over and fields are
looked for behind the closing line, in whatever comes there.
-/

namespace RpcReference.Source

open Text

/-! ### The line without the brace -/

/-- The first line of a declaration that has its opening brace on the next line. -/
def headLine (keyword : Keyword) (name : Text) : Text :=
  keyword.text ++ name

/-- The opening brace on a line of its own. -/
def braceLine : Text := ['\x7b']

variable {name : Text}

theorem declaration?_headLine (keyword : Keyword) (name : Text) :
    declaration? (headLine keyword name) = some (keyword, name) :=
  declaration?_eq_some_iff.mpr rfl

theorem declaration?_braceLine : declaration? braceLine = none :=
  declaration?_cons (by decide) []

theorem nameBeforeBrace_of_isName (hname : IsName name) : nameBeforeBrace name = name := by
  have hbrace := hname.not_mem (show isNameChar '{' = false by decide)
  rw [nameBeforeBrace, upTo_of_not_mem hbrace, hname.trim_eq]

theorem isName_word (keyword : Keyword) : IsName keyword.word := by
  cases keyword <;> decide

theorem messageName_of_isName (hname : IsName name) : messageName name = name :=
  messageName_of_nameBeforeBrace hname (nameBeforeBrace_of_isName hname)

theorem lineName?_headLine {α : Type} {kind : Kind α} (hname : kind.name name = name)
    (hne : name ≠ []) : kind.lineName? (headLine kind.keyword name) = some name :=
  Kind.name?_of_named (declaration?_headLine kind.keyword name) hname hne

theorem not_mem_headLine {c : Char} (hname : IsName name) (hc : isNameChar c = false)
    (hspace : c ≠ ' ') (keyword : Keyword) : c ∉ headLine keyword name := by
  rw [headLine, Keyword.text_append, List.mem_append, List.mem_cons, not_or, not_or]
  exact ⟨(isName_word keyword).not_mem hc, hspace, hname.not_mem hc⟩

theorem openingLine_eq_headLine_append (keyword : Keyword) (name : Text) :
    openingLine keyword.word name = headLine keyword name ++ [' ', '{'] := by
  rw [headLine, Keyword.text_append]
  rfl

/-! ### Enumerations -/

theorem enumValues_headLine (hname : IsName name) (rest : List Text) :
    enumValues (headLine .enum name) (braceLine :: rest) =
      braceLine :: enumValues (openingLine Keyword.enum.word name) rest := by
  have hhead : bodyOnLine? (headLine .enum name) = none := by
    have hbrace : '{' ∉ headLine .enum name := not_mem_headLine hname (by decide) (by decide) .enum
    unfold bodyOnLine?
    rw [cut?_eq_none_iff.mpr hbrace]
    rfl
  have hvalue : statementValue? braceLine = some braceLine := by decide
  rw [enumValues, hhead, enumValues, bodyOnLine?_openingLine hname]
  dsimp only
  rw [List.takeWhile_cons_of_pos (by decide), List.filterMap_cons_some hvalue]

/-! ### Messages -/

/-- The lines are the body of a message and the line that closes it. -/
structure ClosesBody (body : List Text) (close : Text) : Prop where
  inside : ∀ i ≤ body.length, 0 ≤ totalSurplus (body.take i)
  closed : totalSurplus body + surplus close = -1

instance (body : List Text) (close : Text) : Decidable (ClosesBody body close) :=
  decidable_of_iff ((∀ i ≤ body.length, 0 ≤ totalSurplus (body.take i)) ∧
      totalSurplus body + surplus close = -1)
    ⟨fun ⟨hinside, hclosed⟩ => ⟨hinside, hclosed⟩, fun ⟨hinside, hclosed⟩ => ⟨hinside, hclosed⟩⟩

/-- Inside nested braces. -/
def BodyState.nested : BodyState := ⟨1, []⟩

theorem bodyFields_braceLine (rest : List Text) :
    bodyFields (braceLine :: rest) = BodyState.nested.fields rest := by
  have hline : BodyState.start.readLine braceLine = .next none .nested := by decide
  rw [bodyFields, BodyState.fields, hline]
  rfl

/-- Inside nested braces the scan passes over a body and goes on below it. -/
theorem ClosesBody.fields_nested {body : List Text} {close : Text} (h : ClosesBody body close)
    (below : List Text) :
    BodyState.nested.fields (body ++ close :: below) = bodyFields below := by
  have hdepth : ∀ i ≤ body.length, 1 ≤ (1 : Nat) + totalSurplus (body.take i) := by
    intro i hi
    have hinside := h.inside i hi
    omega
  obtain ⟨hafter, hfields⟩ := after_and_fields_nested 1 [] hdepth
  have hend := hdepth body.length (Nat.le_refl _)
  rw [List.take_length] at hend
  have hclosed := h.closed
  have hclose : BodyState.readLine ⟨((1 : Nat) + totalSurplus body : Int).toNat, []⟩ close =
      .next none .start := readLine_last_closing (by omega) (by omega) []
  rw [BodyState.nested, BodyState.fields_append, hafter, hfields, Option.elim_some,
    BodyState.fields, hclose]
  rfl

theorem readMessage_of_not_mem {site : Site} (hline : '}' ∉ site.line) (name : Text) :
    readMessage site name = ⟨name, bodyFields site.below⟩ := by
  rw [readMessage, if_neg (by simpa using hline)]

/-! ### Both placements -/

/-- With the brace on a line of its own, an enumeration has the brace as its first value, and a
message is scanned as if its body were nested. If the braces of the body are balanced, the message
has the fields that are found below its closing line. -/
theorem brace_on_own_line (hname : IsName name) {source other : Text} {above : List Text} :
    (∀ rest, lines source = above ++ openingLine Keyword.enum.word name :: rest →
      lines other = above ++ headLine .enum name :: braceLine :: rest →
      name ∉ Kind.enums.declared rest →
      ∃ enum, (findings source).schema.enums.get? name = some enum ∧
        (findings other).schema.enums.get? name =
          some { enum with values := braceLine :: enum.values }) ∧
    ∀ rest, lines source = above ++ openingLine Keyword.message.word name :: rest →
      lines other = above ++ headLine .message name :: braceLine :: rest →
      name ∉ Kind.messages.declared rest →
      (findings source).schema.messages.get? name = some ⟨name, bodyFields rest⟩ ∧
        (findings other).schema.messages.get? name =
          some ⟨name, BodyState.nested.fields rest⟩ ∧
        ∀ body close below, rest = body ++ close :: below → ClosesBody body close →
          (findings other).schema.messages.get? name = some ⟨name, bodyFields below⟩ := by
  refine ⟨fun rest hsource hother honly => ?_, fun rest hsource hother honly => ?_⟩
  · have hbrace : name ∉ Kind.enums.declared (braceLine :: rest) := by
      rwa [Kind.declared_cons_of_undeclared declaration?_braceLine]
    have hline : Kind.enums.lineName? (openingLine Keyword.enum.word name) = some name :=
      Kind.lineName?_openingLine (nameBeforeBrace_append hname) hname.1
    have hline' : Kind.enums.lineName? (headLine .enum name) = some name :=
      lineName?_headLine (nameBeforeBrace_of_isName hname) hname.1
    refine ⟨_, Kind.lawful_enums.get?_of_last hsource hline honly,
      (Kind.lawful_enums.get?_of_last hother hline' hbrace).trans ?_⟩
    simp only [Kind.enums, readEnum, enumValues_headLine hname]
  · have hbrace : name ∉ Kind.messages.declared (braceLine :: rest) := by
      rwa [Kind.declared_cons_of_undeclared declaration?_braceLine]
    have hhead : '}' ∉ headLine .message name :=
      not_mem_headLine hname (by decide) (by decide) .message
    have hopening : '}' ∉ openingLine Keyword.message.word name := by
      rw [openingLine_eq_headLine_append, List.mem_append, not_or]
      exact ⟨hhead, by decide⟩
    have hline : Kind.messages.lineName? (openingLine Keyword.message.word name) = some name :=
      Kind.lineName?_openingLine (messageName_append hname) hname.1
    have hline' : Kind.messages.lineName? (headLine .message name) = some name :=
      lineName?_headLine (messageName_of_isName hname) hname.1
    have hnested : (findings other).schema.messages.get? name =
        some ⟨name, BodyState.nested.fields rest⟩ := by
      refine (Kind.lawful_messages.get?_of_last hother hline' hbrace).trans
        (congrArg some ((readMessage_of_not_mem hhead name).trans ?_))
      rw [bodyFields_braceLine]
    refine ⟨?_, hnested, fun body close below hrest hbody => ?_⟩
    · exact (Kind.lawful_messages.get?_of_last hsource hline honly).trans
        (congrArg some (readMessage_of_not_mem hopening name))
    · rw [hnested, hrest, hbody.fields_nested]

/-- A message with a message in it, and an enumeration, without the lines that open the last two. -/
def orderSource (item state : List Text) : Text :=
  join ['\n'] (["message Order \x7b".toList] ++ item ++ ["    string code = 1;".toList,
    "  \x7d".toList, "  int32 count = 2;".toList, "\x7d".toList] ++ state ++
    ["  OPEN = 0;".toList, "\x7d".toList])

def itemOnOneLine : List Text := ["  message Item \x7b".toList]

def itemOnTwoLines : List Text := ["  message Item".toList, "  \x7b".toList]

def stateOnOneLine : List Text := ["enum State \x7b".toList]

def stateOnTwoLines : List Text := ["enum State".toList, "\x7b".toList]

def belowItem : List Text :=
  ["int32 count = 2;".toList, closingLine, "enum State \x7b".toList, "OPEN = 0;".toList,
    closingLine]

def aboveState : List Text :=
  ["message Order \x7b".toList, "message Item \x7b".toList, "string code = 1;".toList,
    closingLine, "int32 count = 2;".toList, closingLine]

/-- The inner message loses its own field and gets that of the outer one. -/
theorem found_orderSource :
    IsName "Item".toList ∧ IsName "State".toList ∧
    ClosesBody ["string code = 1;".toList] closingLine ∧
    (findings (orderSource itemOnOneLine stateOnOneLine)).schema.messages.get? "Item".toList =
      some ⟨"Item".toList, [⟨"code".toList, "string".toList, [], false, none⟩]⟩ ∧
    (findings (orderSource itemOnTwoLines stateOnOneLine)).schema.messages.get? "Item".toList =
      some ⟨"Item".toList, [⟨"count".toList, "int32".toList, [], false, none⟩]⟩ ∧
    ∃ enum, (findings (orderSource itemOnOneLine stateOnOneLine)).schema.enums.get?
        "State".toList = some enum ∧
      (findings (orderSource itemOnOneLine stateOnTwoLines)).schema.enums.get? "State".toList =
        some { enum with values := braceLine :: enum.values } := by
  have hitem : IsName "Item".toList := by decide
  have hstate : IsName "State".toList := by decide
  have hbody : ClosesBody ["string code = 1;".toList] closingLine := by decide
  have hmessages : lines (orderSource itemOnOneLine stateOnOneLine) =
      ["message Order \x7b".toList] ++ openingLine Keyword.message.word "Item".toList ::
        (["string code = 1;".toList] ++ closingLine :: belowItem) := by decide +kernel
  have hmessages' : lines (orderSource itemOnTwoLines stateOnOneLine) =
      ["message Order \x7b".toList] ++ headLine .message "Item".toList :: braceLine ::
        (["string code = 1;".toList] ++ closingLine :: belowItem) := by decide +kernel
  have henums : lines (orderSource itemOnOneLine stateOnOneLine) =
      aboveState ++ openingLine Keyword.enum.word "State".toList ::
        ["OPEN = 0;".toList, closingLine] := by decide +kernel
  have henums' : lines (orderSource itemOnOneLine stateOnTwoLines) =
      aboveState ++ headLine .enum "State".toList :: braceLine ::
        ["OPEN = 0;".toList, closingLine] := by decide +kernel
  obtain ⟨hone, -, htwo⟩ := (brace_on_own_line hitem).2 _ hmessages hmessages' (by decide +kernel)
  have hfields : bodyFields (["string code = 1;".toList] ++ closingLine :: belowItem) =
      [⟨"code".toList, "string".toList, [], false, none⟩] := by decide +kernel
  have hfields' : bodyFields belowItem = [⟨"count".toList, "int32".toList, [], false, none⟩] := by
    decide +kernel
  rw [hfields] at hone
  exact ⟨hitem, hstate, hbody, hone, hfields' ▸ htwo _ _ _ rfl hbody,
    (brace_on_own_line hstate).1 _ henums henums' (by decide +kernel)⟩

theorem not_agree_orderSource :
    ¬ Kind.messages.Agree (orderSource itemOnOneLine stateOnOneLine)
      (orderSource itemOnTwoLines stateOnOneLine) "Item".toList ∧
    ¬ Kind.enums.Agree (orderSource itemOnOneLine stateOnOneLine)
      (orderSource itemOnOneLine stateOnTwoLines) "State".toList := by
  have hmessage : (findings (orderSource itemOnOneLine stateOnOneLine)).schema.messages.get?
      "Item".toList ≠ (findings (orderSource itemOnTwoLines stateOnOneLine)).schema.messages.get?
        "Item".toList := by decide +kernel
  have henum : (findings (orderSource itemOnOneLine stateOnOneLine)).schema.enums.get?
      "State".toList ≠ (findings (orderSource itemOnOneLine stateOnTwoLines)).schema.enums.get?
        "State".toList := by decide +kernel
  constructor
  · rintro ⟨message, hone, htwo⟩
    exact hmessage (hone.trans htwo.symm)
  · rintro ⟨enum, hone, htwo⟩
    exact henum (hone.trans htwo.symm)

end RpcReference.Source
