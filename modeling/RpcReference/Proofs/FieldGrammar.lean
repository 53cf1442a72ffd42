import RpcReference.Proofs.BodyScan
import RpcReference.Proofs.LineForms
/-!
# The grammar of field lines

Directly inside a message, a line without braces that is no comment either declares a field or says
nothing. It declares one by the rule for maps, which is about the first comma, bracket and equals
sign of the line, or by the rule for all other fields, which is about its words. A field takes the
whole comment that is pending; any other line leaves it where it is.

The second rule looks at the words of the line and at nothing else, except that the first word may
be one that begins another statement. So the blanks between the words of a field have no meaning.
-/

namespace RpcReference.Source

open Text

/-- The line declares a field that says `head`. -/
inductive FieldForm (line : Text) : FieldHead → Prop
  | map {key value name tail : Text}
      (hline : line = "map<".toList ++ key ++ [','] ++ value ++ ['>'] ++ name ++ ['='] ++ tail)
      (hkey : ∀ c ∈ [',', '>', '='], c ∉ key) (hvalue : ∀ c ∈ ['>', '='], c ∉ value)
      (hname : '=' ∉ name) (hsolid : ¬ IsBlank name) :
      FieldForm line ⟨trim name, trim value, false, some (trim key)⟩
  | labelled {label type name fourth : Text} {rest : List Text}
      (hstart : ∀ start ∈ "map<".toList :: otherStatements, line.startsWith start = false)
      (hwords : words line = label :: type :: name :: fourth :: rest)
      (hlabel : label ∈ fieldLabels) :
      FieldForm line ⟨name, type, label == "repeated".toList, none⟩
  | unlabelled {type name third fourth : Text} {rest : List Text}
      (hstart : ∀ start ∈ "map<".toList :: otherStatements, line.startsWith start = false)
      (hwords : words line = type :: name :: third :: fourth :: rest)
      (hlabel : type ∉ fieldLabels) :
      FieldForm line ⟨name, type, false, none⟩

/-! ### The two rules -/

/-- A line that begins no other statement is read by its words. -/
theorem fieldLine?_eq_plainField? {line : Text}
    (hstart : ∀ start ∈ "map<".toList :: otherStatements, line.startsWith start = false) :
    fieldLine? line = plainField? (words line) := by
  obtain ⟨hmap, hother⟩ := List.forall_mem_cons.mp hstart
  rw [startsWith_eq_isSome, Option.isSome_eq_false_iff, Option.isNone_iff_eq_none] at hmap
  have hany : otherStatements.any line.startsWith = false := by simpa using hother
  rw [fieldLine?, hmap]
  dsimp only
  rw [hany, if_neg (by simp)]

theorem form_of_mapField? {rest : Text} {head : FieldHead} (h : mapField? rest = some head) :
    FieldForm ("map<".toList ++ rest) head := by
  obtain ⟨key, value, name, tail, rfl, hclose, hequals, hcomma, hname, hne, rfl⟩ :=
    mapField?_eq_some_iff.mp h
  simp only [List.mem_append, List.mem_cons, not_or] at hclose hequals
  have hline : "map<".toList ++ mapText key value name tail =
      "map<".toList ++ key ++ [','] ++ value ++ ['>'] ++ name ++ ['='] ++ tail := by
    simp only [mapText, List.append_assoc, List.cons_append, List.nil_append]
  refine .map hline ?_ ?_ hname (mt trim_eq_nil_iff.mpr hne)
  · simp [hcomma, hclose.1, hequals.1]
  · simp [hclose.2.2, hequals.2.2]

theorem form_of_plainField? {line : Text} {head : FieldHead}
    (hstart : ∀ start ∈ "map<".toList :: otherStatements, line.startsWith start = false)
    (h : plainField? (words line) = some head) : FieldForm line head := by
  match hwords : words line, h with
  | first :: second :: third :: fourth :: rest, h =>
    rw [plainField?_cons] at h
    split at h
    · next hlabel =>
      cases h
      exact .labelled hstart hwords (List.contains_iff_mem.mp hlabel)
    · next hlabel =>
      cases h
      exact .unlabelled hstart hwords fun hmem => hlabel (List.contains_iff_mem.mpr hmem)

/-- A line is read as a field exactly if it is written by one of the rules. -/
theorem fieldLine?_eq_some_iff {line : Text} {head : FieldHead} :
    fieldLine? line = some head ↔ FieldForm line head := by
  constructor
  · intro h
    cases hmap : stripStart? "map<".toList line with
    | some rest =>
      rw [stripStart?_eq_some_iff.mp hmap] at h ⊢
      rw [fieldLine?_map] at h
      exact form_of_mapField? h
    | none =>
      have hnot : line.startsWith "map<".toList = false := by
        rw [startsWith_eq_isSome, hmap]
        rfl
      rw [fieldLine?, hmap] at h
      dsimp only at h
      split at h
      · cases h
      · next hother =>
        exact form_of_plainField? (List.forall_mem_cons.mpr ⟨hnot, by simpa using hother⟩) h
  · intro hform
    cases hform with
    | @map key value name tail hline hkey hvalue hname hsolid =>
      simp only [List.forall_mem_cons] at hkey hvalue
      have hrest : line = "map<".toList ++ mapText key value name tail := by
        simp only [hline, mapText, List.append_assoc, List.cons_append, List.nil_append]
      rw [hrest, fieldLine?_map, mapField?_eq_some_iff]
      refine ⟨key, value, name, tail, rfl, ?_, ?_, hkey.1, hname, mt trim_eq_nil_iff.mp hsolid, rfl⟩
      · simp [hkey.2.1, hvalue.1]
      · simp [hkey.2.2.1, hvalue.2.1]
    | labelled hstart hwords hlabel =>
      rw [fieldLine?_eq_plainField? hstart, hwords, plainField?_cons,
        if_pos (List.contains_iff_mem.mpr hlabel)]
    | unlabelled hstart hwords hlabel =>
      rw [fieldLine?_eq_plainField? hstart, hwords, plainField?_cons,
        if_neg fun h => hlabel (List.contains_iff_mem.mp h)]

/-! ### Blanks between words -/

/-- The characters up to the first blank. -/
def firstWord (line : Text) : Text :=
  line.takeWhile (! isBlank ·)

theorem not_blank_of_mem_firstWord {line : Text} : ∀ c ∈ firstWord line, isBlank c = false := by
  intro c hc
  simpa using List.mem_takeWhile_imp hc

theorem firstWord_append {w : Text} (hw : ∀ c ∈ w, isBlank c = false) (rest : Text) :
    firstWord (w ++ rest) = w ++ firstWord rest :=
  List.takeWhile_append_of_pos (by simpa using hw)

theorem firstWord_cons_of_isBlank {b : Char} (hb : isBlank b = true) (rest : Text) :
    firstWord (b :: rest) = [] :=
  List.takeWhile_cons_of_neg (by simp [hb])

/-- A line without indentation begins with the first of its words. -/
theorem firstWord_eq_headD_words {line : Text} (htrim : trimStart line = line) :
    firstWord line = (words line).headD [] := by
  cases line with
  | nil => rfl
  | cons c t =>
    have hc : ¬ isBlank c = true := List.dropWhile_eq_self_iff.mp htrim (by simp)
    have hne : firstWord (c :: t) ≠ [] := by simp [firstWord, hc]
    have hsplit : firstWord (c :: t) ++ (c :: t).dropWhile (! isBlank ·) = c :: t :=
      List.takeWhile_append_dropWhile
    cases hrest : (c :: t).dropWhile (! isBlank ·) with
    | nil =>
      rw [hrest, List.append_nil] at hsplit
      conv_rhs => rw [← hsplit]
      rw [words_of_forall_not_blank hne not_blank_of_mem_firstWord, List.headD_cons]
    | cons b rest =>
      have hb : isBlank b = true := by
        have hhead := List.head_dropWhile_not (p := (! isBlank ·)) (l := c :: t) (by simp [hrest])
        simpa [hrest] using hhead
      rw [hrest] at hsplit
      conv_rhs => rw [← hsplit]
      rw [words_append_cons hne not_blank_of_mem_firstWord hb, List.headD_cons]

theorem startsWith_firstWord {v : Text} (hv : ∀ c ∈ v, isBlank c = false) (line : Text) :
    startsWith (firstWord line) v = line.startsWith v := by
  rw [Bool.eq_iff_iff, startsWith_iff, startsWith_iff]
  constructor
  · rintro ⟨rest, hrest⟩
    obtain ⟨tail, htail⟩ := List.takeWhile_prefix (! isBlank ·) (l := line)
    exact ⟨rest ++ tail, by rw [← htail, ← List.append_assoc, ← hrest]; rfl⟩
  · rintro ⟨rest, rfl⟩
    exact ⟨firstWord rest, firstWord_append hv rest⟩

theorem firstWord_of_startsWith {line v : Text} (hv : ∀ c ∈ v, isBlank c = false)
    (h : line.startsWith (v ++ [' ']) = true) : firstWord line = v := by
  obtain ⟨rest, rfl⟩ := startsWith_iff.mp h
  rw [List.append_assoc, firstWord_append hv, List.singleton_append,
    firstWord_cons_of_isBlank (by decide), List.append_nil]

theorem isBodyComment_firstWord (line : Text) :
    isBodyComment (firstWord line) = isBodyComment line := by
  rw [isBodyComment, startsWith_firstWord (isBlank_eq_false_of_all (by decide)),
    startsWith_firstWord (isBlank_eq_false_of_all (by decide)), isBodyComment]

/-- Lines with the same words differ in blanks only. -/
theorem mem_iff_of_words_eq {line line' : Text} (hwords : words line = words line') {c : Char}
    (hc : isBlank c = false) : c ∈ line ↔ c ∈ line' := by
  have hfilter : line.filter (! isBlank ·) = line'.filter (! isBlank ·) := by
    rw [← flatten_words, ← flatten_words, hwords]
  have hmem := congrArg (c ∈ ·) hfilter
  simpa [hc] using hmem

/-- A line that begins no other statement says the same with other blanks between its words. -/
theorem fieldLine?_eq_of_words_eq {line line' : Text}
    (hsame : firstWord line = firstWord line') (hwords : words line = words line')
    (hmap : line.startsWith "map<".toList = false) (hother : firstWord line ∉ otherWords) :
    fieldLine? line = fieldLine? line' := by
  have hbracket : ∀ c ∈ "map<".toList, isBlank c = false := isBlank_eq_false_of_all (by decide)
  have hstart (l : Text) (hl : firstWord line = firstWord l) :
      ∀ start ∈ "map<".toList :: otherStatements, l.startsWith start = false := by
    refine List.forall_mem_cons.mpr ⟨?_, fun start hmem => ?_⟩
    · rw [← startsWith_firstWord hbracket, ← hl, startsWith_firstWord hbracket, hmap]
    · rw [otherStatements_eq] at hmem
      obtain ⟨v, hv, rfl⟩ := List.mem_map.mp hmem
      rw [Bool.eq_false_iff]
      intro hstarts
      rw [hl, firstWord_of_startsWith (isName_otherWords v hv).not_blank hstarts] at hother
      exact hother hv
  rw [fieldLine?_eq_plainField? (hstart line rfl), fieldLine?_eq_plainField? (hstart line' hsame),
    hwords]

/-! ### Lines of a body -/

theorem readLine_eq_of_words_eq {line line' : Text} (hopen : '{' ∉ line) (hclose : '}' ∉ line)
    (hcomment : isBodyComment line = false) (htrim : trimStart line = line)
    (htrim' : trimStart line' = line') (hwords : words line' = words line)
    (hmap : line.startsWith "map<".toList = false)
    (hfirst : ∀ w ∈ (words line).head?, w ∉ otherWords) (pending : Text) :
    BodyState.readLine ⟨0, pending⟩ line' = BodyState.readLine ⟨0, pending⟩ line := by
  have hsame : firstWord line = firstWord line' := by
    rw [firstWord_eq_headD_words htrim, firstWord_eq_headD_words htrim', hwords]
  have hother : firstWord line ∉ otherWords := by
    rw [firstWord_eq_headD_words htrim]
    cases hlist : words line with
    | nil => decide
    | cons w ws => exact hfirst w (by simp [hlist])
  have hcomment' : isBodyComment line' = false := by
    rw [← isBodyComment_firstWord, ← hsame, isBodyComment_firstWord, hcomment]
  rw [readLine_eq_fieldLine? hopen hclose hcomment, readLine_eq_fieldLine?
    (mt (mem_iff_of_words_eq hwords (by decide)).mp hopen)
    (mt (mem_iff_of_words_eq hwords (by decide)).mp hclose) hcomment',
    fieldLine?_eq_of_words_eq hsame hwords.symm hmap hother]

/-- Directly inside a message, a line without braces that is no comment declares a field exactly if
it is written by one of the rules for fields. The field takes the whole pending comment; a line that
declares none leaves everything as it was. Other blanks between the words of a line that is no map
make no difference, unless its first word may begin another statement. -/
theorem readLine_field_iff_form {line : Text} (hopen : '{' ∉ line) (hclose : '}' ∉ line)
    (hcomment : isBodyComment line = false) (pending : Text) :
    (∀ field state, BodyState.readLine ⟨0, pending⟩ line = .next (some field) state ↔
      state = ⟨0, []⟩ ∧ ∃ head, FieldForm line head ∧ field = head.withComment pending) ∧
    (∀ state, BodyState.readLine ⟨0, pending⟩ line = .next none state ↔
      state = ⟨0, pending⟩ ∧ ¬ ∃ head, FieldForm line head) ∧
    BodyState.readLine ⟨0, pending⟩ line ≠ .close ∧
    (∀ line', trimStart line = line → trimStart line' = line' → words line' = words line →
      line.startsWith "map<".toList = false → (∀ w ∈ (words line).head?, w ∉ otherWords) →
      BodyState.readLine ⟨0, pending⟩ line' = BodyState.readLine ⟨0, pending⟩ line) := by
  have hform (head : FieldHead) := @fieldLine?_eq_some_iff line head
  refine ⟨?_, ?_, ?_, fun line' htrim htrim' hwords hmap hfirst =>
    readLine_eq_of_words_eq hopen hclose hcomment htrim htrim' hwords hmap hfirst pending⟩
  all_goals rw [readLine_eq_fieldLine? hopen hclose hcomment]
  · intro field state
    cases hline : fieldLine? line with
    | none => simp [← hform, hline]
    | some head => simp [← hform, hline, eq_comm, and_comm]
  · intro state
    cases hline : fieldLine? line with
    | none => simp [← hform, hline, eq_comm]
    | some head => simp [← hform, hline]
  · cases fieldLine? line <;> simp

-- A tab behind the first word of another statement makes it the type of a field.
example : fieldLine? "option\tpacked = 1;".toList ≠ fieldLine? "option packed = 1;".toList := by
  decide

/-- A field line with blanks of several kinds. -/
def spreadLine : Text := "repeated\tNote  notes\u00a0= 4;".toList

theorem readLine_spreadLine :
    ('{' ∉ spreadLine ∧ '}' ∉ spreadLine ∧ isBodyComment spreadLine = false) ∧
    FieldForm spreadLine ⟨"notes".toList, "Note".toList, true, none⟩ ∧
    BodyState.readLine ⟨0, "Old.".toList⟩ spreadLine =
      .next (some ⟨"notes".toList, "Note".toList, "Old.".toList, true, none⟩) ⟨0, []⟩ ∧
    BodyState.readLine ⟨0, "Old.".toList⟩ "repeated Note notes = 4;".toList =
      BodyState.readLine ⟨0, "Old.".toList⟩ spreadLine := by
  have hbraces : '{' ∉ spreadLine ∧ '}' ∉ spreadLine := by decide
  have hcomment : isBodyComment spreadLine = false := by decide
  have hform : FieldForm spreadLine ⟨"notes".toList, "Note".toList, true, none⟩ :=
    @FieldForm.labelled _ "repeated".toList "Note".toList "notes".toList "=".toList ["4;".toList]
      (by decide) (by decide) (by decide)
  obtain ⟨hfield, -, -, hblanks⟩ :=
    readLine_field_iff_form hbraces.1 hbraces.2 hcomment "Old.".toList
  exact ⟨⟨hbraces.1, hbraces.2, hcomment⟩, hform, (hfield _ _).mpr ⟨rfl, _, hform, rfl⟩,
    hblanks _ (by decide) (by decide) (by decide) (by decide) (by decide)⟩

end RpcReference.Source
