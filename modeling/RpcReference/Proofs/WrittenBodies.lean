import RpcReference.Proofs.WrittenComments
/-!
# What written bodies read as

The body of a written message is its field lines and the closing brace. A scan that starts below the
declaration finds the fields one by one, each with the comment that stands above it, and stops at
the brace. The values of a written enumeration are found by the lines up to its brace.
-/

namespace RpcReference

open Text Source

/-! ### Bodies of messages -/

theorem readLine_closingLine : BodyState.start.readLine closingLine = .close := by decide

theorem readLine_remark {comment : Text} (hne : comment ≠ []) (hcomment : IsRemark comment) :
    BodyState.start.readLine ("// ".toList ++ comment) = .next none ⟨0, comment⟩ := by
  have hbody : isBodyComment ("// ".toList ++ comment) = true := isBodyComment_cons _ _
  have htext : commentText ("// ".toList ++ comment) = comment :=
    commentText_append hcomment.2 (List.all_eq_true.mp (by decide))
  unfold BodyState.readLine
  simp only [BodyState.start, Nat.lt_irrefl, if_false, hbody, if_true, htext]
  simp [addFragment, hne]

theorem Field.Writable.readLine_numberedLine {field : Field} (hfield : field.Writable)
    (number : Nat) (pending : Text) :
    BodyState.readLine ⟨0, pending⟩ (numberedLine field.subject number) =
      .next (some { field with comment := pending }) .start := by
  have hcount {c : Char} (hname : isNameChar c = false) (hsubject : c ∉ [' ', ',', '<', '>'])
      (hmark : c ∉ [' ', '=', ';']) : (numberedLine field.subject number).count c = 0 :=
    List.count_eq_zero.mpr
      (not_mem_numberedLine (hfield.not_mem_subject hname hsubject) hname hmark number)
  have hopens := hcount (show isNameChar '{' = false by decide) (by decide) (by decide)
  have hcloses := hcount (show isNameChar '}' = false by decide) (by decide) (by decide)
  have hcomment : isBodyComment (numberedLine field.subject number) = false := by
    rw [numberedLine_eq]
    exact isBodyComment_of_beginsWithout (hfield.beginsWithout_subject.append _)
  unfold BodyState.readLine
  simp only [Nat.lt_irrefl, if_false, hcomment, Bool.false_eq_true, hopens, hcloses,
    hfield.fieldLine?_numberedLine number]
  rfl

theorem Field.Writable.fields_sourceLines {field : Field} (hfield : field.Writable) (number : Nat)
    (below : List Text) :
    BodyState.start.fields (field.sourceLines number ++ below) =
      field :: BodyState.start.fields below := by
  have hstatement : ∀ pending, BodyState.fields ⟨0, pending⟩
      (numberedLine field.subject number :: below) =
        { field with comment := pending } :: BodyState.start.fields below := by
    intro pending
    rw [BodyState.fields, hfield.readLine_numberedLine number pending]
    rfl
  have hlines : field.sourceLines number =
      lineComment field.comment ++ [numberedLine field.subject number] := rfl
  rw [hlines, List.append_assoc, List.singleton_append, lineComment]
  split
  · next hempty =>
    have hstart : BodyState.start = ⟨0, field.comment⟩ := by
      rw [List.isEmpty_iff.1 hempty]
      rfl
    calc BodyState.start.fields ([] ++ numberedLine field.subject number :: below)
        = BodyState.fields ⟨0, field.comment⟩ (numberedLine field.subject number :: below) := by
          rw [hstart, List.nil_append]
      _ = field :: BodyState.start.fields below := hstatement field.comment
  · next hne =>
    have hremark := readLine_remark (by simpa using hne) hfield.comment
    rw [List.singleton_append, BodyState.fields, hremark]
    exact hstatement field.comment

theorem bodyFields_written {fields : List Field} (hfields : ∀ field ∈ fields, field.Writable)
    (start : Nat) (below : List Text) :
    bodyFields ((fields.zipIdx start).flatMap (fun (field, number) => field.sourceLines number) ++
      closingLine :: below) = fields := by
  unfold bodyFields
  induction fields generalizing start with
  | nil =>
    rw [List.zipIdx_nil, List.flatMap_nil, List.nil_append, BodyState.fields, readLine_closingLine]
  | cons field fields ih =>
    rw [List.zipIdx_cons, List.flatMap_cons, List.append_assoc,
      (hfields field (by simp)).fields_sourceLines,
      ih (fun other hother => hfields other (by simp [hother]))]

/-! ### Bodies of enumerations -/

def valueLines (values : List Text) (start : Nat) : List Text :=
  (values.zipIdx start).map fun (value, number) => numberedLine value number

theorem filterMap_valueLines {values : List Text}
    (hvalues : ∀ value ∈ values, IsName value ∧ value ∉ reservedValues) (start : Nat) :
    (valueLines values start).filterMap statementValue? = values := by
  induction values generalizing start with
  | nil => rfl
  | cons value values ih =>
    obtain ⟨hname, hreserved⟩ := hvalues value (by simp)
    rw [valueLines, List.zipIdx_cons, List.map_cons,
      List.filterMap_cons_some (statementValue?_value hname hreserved start)]
    exact congrArg _ (ih (fun other hother => hvalues other (by simp [hother])) (start + 1))

theorem forall_mem_valueLines {values : List Text} {start : Nat} {p : Text → Prop}
    (h : ∀ value ∈ values, ∀ number, p (numberedLine value number)) :
    ∀ line ∈ valueLines values start, p line := by
  intro line hline
  obtain ⟨⟨value, number⟩, hmem, rfl⟩ := List.mem_map.1 hline
  exact h value (List.fst_mem_of_mem_zipIdx hmem) number

theorem bodyOnLine?_openingLine {name : Text} (hname : IsName name) :
    bodyOnLine? (openingLine Keyword.enum.word name) = none := by
  have hline : openingLine Keyword.enum.word name =
      (Keyword.enum.word ++ ' ' :: name ++ [' ']) ++ '{' :: [] := by
    simp [openingLine]
  have hbrace : '{' ∉ Keyword.enum.word ++ ' ' :: name ++ [' '] := by
    simp only [List.mem_append, List.mem_cons, List.not_mem_nil, not_or]
    exact ⟨⟨by decide, by decide, hname.not_mem (by decide)⟩, by decide, id⟩
  unfold bodyOnLine?
  rw [hline, cut?_eq_some_iff.2 ⟨rfl, hbrace⟩]
  rfl

/-- Below a line that opens its brace, the values are those of the lines up to the closing line. -/
theorem enumValues_openingLine {name : Text} (hname : IsName name) {ls : List Text}
    (hls : ∀ line ∈ ls, '}' ∉ line) (below : List Text) :
    enumValues (openingLine Keyword.enum.word name) (ls ++ closingLine :: below) =
      ls.filterMap statementValue? := by
  have hlines : ∀ line ∈ ls, (!line.contains '}') = true := by simpa using hls
  rw [enumValues, bodyOnLine?_openingLine hname]
  simp only []
  rw [List.takeWhile_append_of_pos hlines, List.takeWhile_cons_of_neg (by decide), List.append_nil]

theorem enumValues_written {values : List Text}
    (hvalues : ∀ value ∈ values, IsName value ∧ value ∉ reservedValues) {name : Text}
    (hname : IsName name) (below : List Text) :
    enumValues (openingLine Keyword.enum.word name) (valueLines values 0 ++ closingLine :: below) =
      values := by
  have hlines : ∀ line ∈ valueLines values 0, '}' ∉ line := by
    apply forall_mem_valueLines
    intro value hvalue number
    exact not_mem_numberedLine
      ((hvalues value hvalue).1.not_mem (show isNameChar '}' = false by decide))
      (by decide) (by decide) number
  rw [enumValues_openingLine hname hlines, filterMap_valueLines hvalues]

end RpcReference
