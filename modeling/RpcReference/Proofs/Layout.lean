import Mathlib.Data.List.Forall2
import Mathlib.Data.Option.Basic
import RpcReference.Proofs.Finding
import RpcReference.Proofs.WrittenLines
/-!
# Layout carries no meaning

Reading drops the indentation of every line at once, but nothing drops the blanks at its end: each
reader meets them and has to pass over them by itself. This module shows that every reader of a line
does, with one exception: a keyword that stands alone turns into a declaration when a space follows
it. Files whose lines differ in the blanks around them therefore declare the same, as long as no
line is a bare keyword.
-/

namespace RpcReference.Source

open Text

/-! ### Text with blanks behind it -/

section

variable {tail : Text} (htail : IsBlank tail)

include htail

theorem not_mem_of_isBlank {c : Char} (hc : isBlank c = false) : c ∉ tail := by
  intro hmem
  rw [htail c hmem] at hc
  cases hc

theorem trim_append_blank (t : Text) : trim (t ++ tail) = trim t :=
  trimWhile_append_append t (List.forall_mem_nil _) htail

theorem contains_append_blank {c : Char} (hc : isBlank c = false) (t : Text) :
    (t ++ tail).contains c = t.contains c := by
  simp [not_mem_of_isBlank htail hc]

theorem count_append_blank {c : Char} (hc : isBlank c = false) (t : Text) :
    (t ++ tail).count c = t.count c := by
  rw [List.count_append, List.count_eq_zero.mpr (not_mem_of_isBlank htail hc), Nat.add_zero]

theorem cut?_append_blank {sep : Char} (hsep : isBlank sep = false) (t : Text) :
    cut? sep (t ++ tail) = (cut? sep t).map fun (before, after) => (before, after ++ tail) := by
  cases ht : cut? sep t with
  | some parts =>
    obtain ⟨before, after⟩ := parts
    obtain ⟨rfl, hbefore⟩ := cut?_eq_some_iff.mp ht
    rw [Option.map_some, cut?_eq_some_iff]
    exact ⟨by simp, hbefore⟩
  | none =>
    rw [cut?_eq_none_iff] at ht
    rw [Option.map_none, cut?_eq_none_iff, List.mem_append, not_or]
    exact ⟨ht, not_mem_of_isBlank htail hsep⟩

theorem cutLast?_append_blank {sep : Char} (hsep : isBlank sep = false) (t : Text) :
    cutLast? sep (t ++ tail) =
      (cutLast? sep t).map fun (before, after) => (before, after ++ tail) := by
  have hout := not_mem_of_isBlank htail hsep
  cases ht : cutLast? sep t with
  | some parts =>
    obtain ⟨before, after⟩ := parts
    obtain ⟨rfl, hafter⟩ := cutLast?_eq_some_iff.mp ht
    rw [Option.map_some, cutLast?_eq_some_iff]
    exact ⟨by simp, by simp [hafter, hout]⟩
  | none =>
    rw [cutLast?_eq_none_iff] at ht
    rw [Option.map_none, cutLast?_eq_none_iff, List.mem_append, not_or]
    exact ⟨ht, hout⟩

theorem trim_upTo_append_blank (sep : Char) (t : Text) :
    trim (upTo sep (t ++ tail)) = trim (upTo sep t) := by
  unfold upTo
  rw [List.takeWhile_append]
  split
  · next hall =>
    have ht : t.takeWhile (· != sep) = t := (List.takeWhile_prefix _).eq_of_length hall
    have hblank : IsBlank (tail.takeWhile (· != sep)) := by
      intro c hc
      exact htail c ((List.takeWhile_prefix _).subset hc)
    rw [trim_append_blank hblank, ht]
  · rfl

theorem words_append_blank (t : Text) : words (t ++ tail) = words t := by
  rw [words, splitWhere_append_of_forall htail, List.filter_append, words]
  simp

/-- A word that begins the padded text begins the text itself. -/
theorem exists_of_append_eq_word_append {w t rest : Text} (hw : ∀ c ∈ w, isBlank c = false)
    (h : t ++ tail = w ++ rest) : ∃ rest', t = w ++ rest' ∧ rest = rest' ++ tail := by
  rcases List.append_eq_append_iff.mp h with ⟨missing, hword, hmissing⟩ | ⟨rest', ht, hrest⟩
  · have hnil : missing = [] := by
      refine List.eq_nil_iff_forall_not_mem.mpr fun c hc => ?_
      have hblank := htail c (by simp [hmissing, hc])
      rw [hw c (by simp [hword, hc])] at hblank
      cases hblank
    subst hnil
    exact ⟨[], by simpa using hword.symm, by simpa using hmissing.symm⟩
  · exact ⟨rest', ht, hrest⟩

theorem stripStart?_append_blank {w : Text} (hw : ∀ c ∈ w, isBlank c = false) (t : Text) :
    stripStart? w (t ++ tail) = (stripStart? w t).map (· ++ tail) := by
  ext rest
  rw [Option.map_eq_some_iff, stripStart?_eq_some_iff]
  constructor
  · intro h
    obtain ⟨rest', ht, hrest⟩ := exists_of_append_eq_word_append htail hw h
    exact ⟨rest', stripStart?_eq_some_iff.mpr ht, hrest.symm⟩
  · rintro ⟨rest', ht, rfl⟩
    rw [stripStart?_eq_some_iff.mp ht, List.append_assoc]

theorem startsWith_append_blank {w : Text} (hw : ∀ c ∈ w, isBlank c = false) (t : Text) :
    (t ++ tail).startsWith w = t.startsWith w := by
  rw [startsWith_eq_isSome, startsWith_eq_isSome, stripStart?_append_blank htail hw,
    Option.isSome_map]

/-- The space behind a word may come from the padding only if the text is that word. -/
theorem stripStart?_space_append_blank {w t : Text} (hw : ∀ c ∈ w, isBlank c = false)
    (hne : t ≠ w) :
    stripStart? (w ++ [' ']) (t ++ tail) = (stripStart? (w ++ [' ']) t).map (· ++ tail) := by
  ext rest
  rw [Option.map_eq_some_iff, stripStart?_eq_some_iff]
  constructor
  · intro h
    rw [List.append_assoc] at h
    obtain ⟨behind, rfl, hbehind⟩ := exists_of_append_eq_word_append htail hw h
    cases behind with
    | nil => exact absurd (List.append_nil w) hne
    | cons c behind =>
      rw [List.singleton_append, List.cons_append, List.cons.injEq] at hbehind
      obtain ⟨rfl, rfl⟩ := hbehind
      exact ⟨behind, stripStart?_eq_some_iff.mpr (by simp), rfl⟩
  · rintro ⟨rest', ht, rfl⟩
    rw [stripStart?_eq_some_iff.mp ht, List.append_assoc]

end

/-! ### Readers of one line -/

/-- The reader gives the same with and without blanks at the end of the line. -/
def IgnoresEnd {α : Type} (read : Text → α) : Prop :=
  ∀ line tail, IsBlank tail → read (line ++ tail) = read line

theorem exists_eq_trimEnd_append (line : Text) :
    ∃ tail, IsBlank tail ∧ line = trimEnd line ++ tail :=
  exists_eq_dropEndWhile_append isBlank line

theorem IgnoresEnd.trimEnd {α : Type} {read : Text → α} (h : IgnoresEnd read) (line : Text) :
    read (trimEnd line) = read line := by
  obtain ⟨tail, htail, hline⟩ := exists_eq_trimEnd_append line
  conv_rhs => rw [hline]
  exact (h _ tail htail).symm

theorem ignoresEnd_nameBeforeBrace : IgnoresEnd nameBeforeBrace :=
  fun rest _ htail => trim_upTo_append_blank htail '{' rest

theorem ignoresEnd_messageName : IgnoresEnd messageName := by
  intro rest tail htail
  rw [messageName, ignoresEnd_nameBeforeBrace rest tail htail, messageName]

theorem ignoresEnd_accepts (style : CommentForm) : IgnoresEnd style.accepts := by
  intro line tail htail
  cases style with
  | block =>
    rw [CommentForm.accepts, startsWith_append_blank htail (isBlank_eq_false_of_all (by decide)),
      startsWith_append_blank htail (isBlank_eq_false_of_all (by decide)), CommentForm.accepts]
  | line => exact startsWith_append_blank htail (isBlank_eq_false_of_all (by decide)) line

theorem ignoresEnd_isBodyComment : IgnoresEnd isBodyComment := by
  intro line tail htail
  rw [isBodyComment, startsWith_append_blank htail (isBlank_eq_false_of_all (by decide)),
    startsWith_append_blank htail (isBlank_eq_false_of_all (by decide)), isBodyComment]

theorem ignoresEnd_commentText : IgnoresEnd commentText := by
  intro line tail htail
  have hmarks : ∀ c ∈ tail, isCommentMark c = true := by
    intro c hc
    simp [isCommentMark, htail c hc]
  exact trimWhile_append_append line (List.forall_mem_nil _) hmarks

theorem ignoresEnd_statementValue? : IgnoresEnd statementValue? := by
  intro statement tail htail
  rw [statementValue?, trim_append_blank htail, statementValue?]

theorem ignoresEnd_bodyOnLine? : IgnoresEnd bodyOnLine? := by
  intro line tail htail
  unfold bodyOnLine?
  rw [cut?_append_blank htail (by decide)]
  cases cut? '{' line with
  | none => rfl
  | some parts =>
    simp only [Option.map_some, Option.bind_eq_bind, Option.bind_some]
    rw [cutLast?_append_blank htail (by decide)]
    cases cutLast? '}' parts.2 <;> rfl

theorem ignoresEnd_mapField? : IgnoresEnd mapField? := by
  intro rest tail htail
  unfold mapField?
  rw [cut?_append_blank htail (by decide)]
  cases cut? '>' rest with
  | none => rfl
  | some parts =>
    simp only [Option.map_some, Option.bind_eq_bind, Option.bind_some]
    rw [cut?_append_blank htail (by decide)]
    cases cut? '=' parts.2 <;> rfl

theorem ignoresEnd_fieldLine? : IgnoresEnd fieldLine? := by
  intro line tail htail
  unfold fieldLine?
  rw [stripStart?_append_blank htail (isBlank_eq_false_of_all (by decide)), words_append_blank htail]
  cases stripStart? "map<".toList line with
  | some rest => exact ignoresEnd_mapField? rest tail htail
  | none =>
    dsimp only [Option.map_none]
    by_cases hword : line ∈ otherWords
    · -- A line of one word declares no field, whether a space behind it is seen or not.
      have hline := isName_otherWords line hword
      rw [words_of_forall_not_blank hline.1 hline.not_blank]
      split <;> split <;> rfl
    · have hsame : ∀ w ∈ otherWords,
          (line ++ tail).startsWith (w ++ [' ']) = line.startsWith (w ++ [' ']) := by
        intro w hw
        have hblank := (isName_otherWords w hw).not_blank
        have hne : line ≠ w := fun heq => hword (heq ▸ hw)
        rw [startsWith_eq_isSome, startsWith_eq_isSome,
          stripStart?_space_append_blank htail hblank hne, Option.isSome_map]
      have hany : otherStatements.any (line ++ tail).startsWith =
          otherStatements.any line.startsWith := by
        rw [otherStatements_eq, List.any_map, List.any_map, Bool.eq_iff_iff, List.any_eq_true,
          List.any_eq_true]
        refine exists_congr fun w => and_congr_right fun hw => ?_
        rw [Function.comp_apply, Function.comp_apply, hsame w hw]
      rw [hany]

theorem ignoresEnd_readLine (s : BodyState) : IgnoresEnd s.readLine := by
  intro line tail htail
  unfold BodyState.readLine
  rw [count_append_blank htail (by decide), count_append_blank htail (by decide),
    ignoresEnd_isBodyComment line tail htail, ignoresEnd_commentText line tail htail,
    ignoresEnd_fieldLine? line tail htail]

/-! ### Declaration lines -/

theorem not_blank_word (keyword : Keyword) : ∀ c ∈ keyword.word, isBlank c = false := by
  cases keyword <;> exact isBlank_eq_false_of_all (by decide)

theorem declaration?_append_blank {line tail : Text} (htail : IsBlank tail)
    (hline : ∀ keyword : Keyword, line ≠ keyword.word) :
    declaration? (line ++ tail) =
      (declaration? line).map fun (keyword, rest) => (keyword, rest ++ tail) := by
  ext ⟨keyword, rest⟩
  rw [declaration?_eq_some_iff, Option.map_eq_some_iff]
  constructor
  · intro h
    have hstrip := stripStart?_space_append_blank htail (not_blank_word keyword) (hline keyword)
    rw [← keyword.text_eq, stripStart?_eq_some_iff.mpr h] at hstrip
    obtain ⟨rest', hrest', rfl⟩ := Option.map_eq_some_iff.mp hstrip.symm
    exact ⟨(keyword, rest'), declaration?_eq_some_iff.mpr (stripStart?_eq_some_iff.mp hrest'), rfl⟩
  · rintro ⟨⟨keyword', rest'⟩, hrest', heq⟩
    cases heq
    rw [declaration?_eq_some_iff.mp hrest', List.append_assoc]

theorem groups?_append_blank {line tail : Text} (htail : IsBlank tail)
    (hline : line ≠ Keyword.rpc.word) : groups? (line ++ tail) = groups? line := by
  have hstrip := stripStart?_space_append_blank htail (not_blank_word .rpc) hline
  have hquiet : tail.any isParenthesis = false := by
    rw [List.any_eq_false]
    intro c hc hparenthesis
    rcases Bool.or_eq_true_iff.mp hparenthesis with hc' | hc'
    · exact not_mem_of_isBlank htail (by decide) (eq_of_beq hc' ▸ hc)
    · exact not_mem_of_isBlank htail (by decide) (eq_of_beq hc' ▸ hc)
  unfold groups?
  rw [Keyword.text_eq, hstrip]
  cases stripStart? (Keyword.rpc.word ++ [' ']) line with
  | none => rfl
  | some rest =>
    simp only [Option.map_some, Option.bind_eq_bind, Option.bind_some]
    rw [cut?_append_blank htail (by decide)]
    cases cut? '(' rest with
    | none => rfl
    | some opened =>
      simp only [Option.map_some, Option.bind_some]
      rw [cut?_append_blank htail (by decide)]
      cases cut? ')' opened.2 with
      | none => rfl
      | some closed =>
        simp only [Option.map_some, Option.bind_some]
        rw [cutLast?_append_blank htail (by decide)]
        cases cutLast? ')' closed.2 with
        | none => rfl
        | some last =>
          simp only [Option.map_some, Option.bind_some, List.any_append, hquiet, Bool.or_false]

theorem signature?_append_blank {line tail : Text} (htail : IsBlank tail)
    (hline : line ≠ Keyword.rpc.word) : signature? (line ++ tail) = signature? line := by
  rw [signature?, groups?_append_blank htail hline, signature?]

theorem ignoresEnd_trimEnd : IgnoresEnd trimEnd :=
  fun line _ htail => dropEndWhile_append line htail

/-! ### Declarations in their places -/

theorem commentAbove_map_trimEnd (style : CommentForm) (above : List Text) :
    commentAbove style (above.map trimEnd) = commentAbove style above := by
  have haccepts : style.accepts ∘ trimEnd = style.accepts :=
    funext (ignoresEnd_accepts style).trimEnd
  have htext : commentText ∘ trimEnd = commentText := funext ignoresEnd_commentText.trimEnd
  rw [commentAbove, List.takeWhile_map, haccepts, List.map_map, htext, commentAbove]

theorem fields_map_trimEnd (s : BodyState) (below : List Text) :
    s.fields (below.map trimEnd) = s.fields below := by
  induction below generalizing s with
  | nil => rfl
  | cons line below ih =>
    rw [List.map_cons, BodyState.fields, BodyState.fields, (ignoresEnd_readLine s).trimEnd]
    cases s.readLine line with
    | close => rfl
    | next field next => simp only [ih]

theorem contains_trimEnd {c : Char} (hc : isBlank c = false) (line : Text) :
    (trimEnd line).contains c = line.contains c := by
  have hread : IgnoresEnd fun l : Text => l.contains c :=
    fun l _ htail => contains_append_blank htail hc l
  exact hread.trimEnd line

theorem enumValues_map_trimEnd (line : Text) (below : List Text) :
    enumValues (trimEnd line) (below.map trimEnd) = enumValues line below := by
  have hvalue : statementValue? ∘ trimEnd = statementValue? :=
    funext ignoresEnd_statementValue?.trimEnd
  have hbrace : (fun l : Text => !l.contains '}') ∘ trimEnd = fun l => !l.contains '}' := by
    funext l
    rw [Function.comp_apply, contains_trimEnd (by decide)]
  unfold enumValues
  rw [ignoresEnd_bodyOnLine?.trimEnd, List.takeWhile_map, List.filterMap_map, hvalue, hbrace]

/-- The place with the ends of all lines trimmed. -/
def Site.trimEnds (site : Site) : Site :=
  ⟨site.above.map trimEnd, trimEnd site.line, site.below.map trimEnd⟩

theorem finding?_trimEnds {site : Site}
    (hline : ∀ keyword : Keyword, trimEnd site.line ≠ keyword.word) :
    site.trimEnds.finding? = site.finding? := by
  obtain ⟨above, line, below⟩ := site
  obtain ⟨tail, htail, hpadded⟩ := exists_eq_trimEnd_append line
  have hsignature : signature? (trimEnd line) = signature? line := by
    conv_rhs => rw [hpadded]
    exact (signature?_append_blank htail (hline .rpc)).symm
  have hdeclaration : declaration? line =
      (declaration? (trimEnd line)).map fun (keyword, rest) => (keyword, rest ++ tail) := by
    conv_lhs => rw [hpadded]
    exact declaration?_append_blank htail hline
  unfold Site.finding?
  dsimp only [Site.trimEnds]
  rw [hdeclaration, Option.map_map]
  congr 1
  funext ⟨keyword, rest⟩
  dsimp only [Function.comp_apply]
  cases keyword with
  | service =>
    simp only [findingOf, readService, commentAbove_map_trimEnd,
      ignoresEnd_nameBeforeBrace rest tail htail]
  | rpc =>
    simp only [findingOf, readCall, commentAbove_map_trimEnd, hsignature,
      ignoresEnd_trimEnd.trimEnd]
  | message =>
    have hbrace : (trimEnd line).contains '}' = line.contains '}' :=
      contains_trimEnd (by decide) line
    simp only [findingOf, readMessage, bodyFields, fields_map_trimEnd, hbrace,
      ignoresEnd_messageName rest tail htail]
  | enum =>
    simp only [findingOf, readEnum, commentAbove_map_trimEnd, enumValues_map_trimEnd,
      ignoresEnd_nameBeforeBrace rest tail htail]

/-! ### Files -/

theorem readLines_map_trimEnd (f : Findings) {above below : List Text}
    (hbelow : ∀ line ∈ below, ∀ keyword : Keyword, trimEnd line ≠ keyword.word) :
    f.readLines (above.map trimEnd) (below.map trimEnd) = f.readLines above below := by
  induction below generalizing f above with
  | nil => rfl
  | cons line below ih =>
    obtain ⟨hline, hbelow⟩ := List.forall_mem_cons.mp hbelow
    have hread : f.readLine (Site.trimEnds ⟨above, line, below⟩) =
        f.readLine ⟨above, line, below⟩ := by
      rw [Findings.readLine_eq_addOption, Findings.readLine_eq_addOption, finding?_trimEnds hline]
      simp [Site.number, Site.trimEnds]
    rw [List.map_cons, Findings.readLines, Findings.readLines]
    change (f.readLine (Site.trimEnds ⟨above, line, below⟩)).readLines
      ((line :: above).map trimEnd) (below.map trimEnd) = _
    rw [hread, ih _ hbelow]

theorem trim_dropReturn (line : Text) : trim (dropReturn line) = trim line := by
  unfold dropReturn
  split
  · next hlast =>
    have hreturn : IsBlank ['\r'] := List.forall_mem_singleton.mpr (by decide)
    conv_rhs => rw [← List.dropLast_append_getLast? '\r' hlast, trim_append_blank hreturn]
  · rfl

theorem map_trimEnd_lines (source : Text) :
    (lines source).map trimEnd = (split '\n' source).map trim := by
  rw [lines, List.map_map]
  exact List.map_congr_left fun line _ => trim_dropReturn line

/-- Files with equally many lines that are equal up to blanks around them declare the same and are
reported in the same way, if no line is a bare keyword. -/
theorem findings_eq_of_trim_eq {first second : Text}
    (hlines : List.Forall₂ (fun line line' => trim line = trim line')
      (split '\n' first) (split '\n' second))
    (hwords : ∀ line ∈ split '\n' first, trim line ∉ Keyword.all.map Keyword.word) :
    findings first = findings second := by
  have htrimmed : (split '\n' first).map trim = (split '\n' second).map trim := by
    rw [← List.forall₂_eq_eq_eq, List.forall₂_map_left_iff, List.forall₂_map_right_iff]
    exact hlines
  have hread (source : Text) (h : (split '\n' source).map trim = (split '\n' first).map trim) :
      findings source = Findings.empty.readLines [] ((split '\n' first).map trim) := by
    rw [← h, ← map_trimEnd_lines]
    refine (readLines_map_trimEnd Findings.empty fun line hline keyword hkeyword => ?_).symm
    have hmem : trimEnd line ∈ (split '\n' first).map trim := by
      rw [← h, ← map_trimEnd_lines]
      exact List.mem_map_of_mem hline
    obtain ⟨original, horiginal, heq⟩ := List.mem_map.mp hmem
    apply hwords original horiginal
    rw [heq, hkeyword]
    exact List.mem_map_of_mem keyword.mem_all
  rw [hread first rfl, hread second htrimmed.symm]

/-- A file with every kind of declaration, without blanks around its lines. -/
def plainLayout : Text :=
  join ['\n'] ["/* Sends.".toList, "* shell: send */".toList, "service Mail \x7b".toList,
    "rpc Send (Note) returns (stream Note);".toList, "rpc Drop".toList, "\x7d".toList,
    "message Note \x7b".toList, "// Length.".toList, "int32 size = 1;".toList,
    "map<string, Kind> kinds = 2;".toList, "oneof".toList, "\x7d".toList,
    "enum Kind \x7b".toList, "SHORT = 0;".toList, "\x7d".toList]

/-- The same file with returns, tabs, indentation and blanks at the ends of lines. -/
def looseLayout : Text :=
  join ['\n'] ["  /* Sends.\r".toList, "\t* shell: send */ ".toList, "service Mail \x7b \r".toList,
    "\trpc Send (Note) returns (stream Note);\u00a0".toList, "rpc Drop  \t".toList,
    " \x7d\r".toList, "message Note \x7b\t".toList, "    // Length. \r".toList,
    "  int32 size = 1;  ".toList, "\u3000map<string, Kind> kinds = 2;\r".toList, "oneof ".toList,
    "\x7d ".toList, "  enum Kind \x7b ".toList, "\tSHORT = 0;\r\r".toList, "\x7d\u2003".toList]

theorem findings_looseLayout :
    plainLayout ≠ looseLayout ∧
    List.Forall₂ (fun line line' => trim line = trim line')
      (split '\n' plainLayout) (split '\n' looseLayout) ∧
    (∀ line ∈ split '\n' plainLayout, trim line ∉ Keyword.all.map Keyword.word) ∧
    findings plainLayout = findings looseLayout ∧
    (findings looseLayout).diagnostics = [⟨5, .malformedCall "rpc Drop".toList⟩] := by
  have hlines : List.Forall₂ (fun line line' => trim line = trim line')
      (split '\n' plainLayout) (split '\n' looseLayout) := by decide +kernel
  have hwords : ∀ line ∈ split '\n' plainLayout, trim line ∉ Keyword.all.map Keyword.word := by
    decide +kernel
  exact ⟨by decide +kernel, hlines, hwords, findings_eq_of_trim_eq hlines hwords, by decide +kernel⟩

end RpcReference.Source
