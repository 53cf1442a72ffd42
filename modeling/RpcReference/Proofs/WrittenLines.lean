import RpcReference.Proofs.Sites
import RpcReference.Proofs.Writable
import RpcReference.Source.Printer
/-!
# What written lines read as

Every kind of line that the writer of definition files puts down, and what each reader makes of it:
the keyword it begins with, the name, signature, field or value it declares, and the comment it
holds. Nothing here is about more than one declaration; how the lines of a file play together is the
subject of the round trip.
-/

namespace RpcReference.Source

open Text

/-! ### Lines of a joined text -/

/-- A line without its line end and its indentation. -/
def bare (line : Text) : Text :=
  trimStart (dropReturn line)

theorem lines_join {ls : List Text} (hne : ls ≠ []) (hls : ∀ line ∈ ls, '\n' ∉ line) :
    lines (join ['\n'] ls) = ls.map bare := by
  rw [lines, split_join hne hls]
  rfl

theorem dropReturn_concat (line : Text) {c : Char} (hc : c ≠ '\r') :
    dropReturn (line ++ [c]) = line ++ [c] := by
  have hlast : (line ++ [c]).getLast? = some c := by simp
  rw [dropReturn, hlast]
  split
  · next heq => exact absurd (Option.some.inj heq) hc
  · rfl

/-- The text has a first character, and `p` does not hold of it. -/
def BeginsWithout (p : Char → Bool) (t : Text) : Prop :=
  ∃ c rest, t = c :: rest ∧ p c = false

theorem BeginsWithout.append {p : Char → Bool} {t : Text} (ht : BeginsWithout p t) (rest : Text) :
    BeginsWithout p (t ++ rest) := by
  obtain ⟨c, tail, rfl, hc⟩ := ht
  exact ⟨c, tail ++ rest, rfl, hc⟩

theorem BeginsWithout.blank {t : Text} (ht : BeginsWithout isCommentMark t) :
    BeginsWithout isBlank t := by
  obtain ⟨c, rest, rfl, hc⟩ := ht
  refine ⟨c, rest, rfl, ?_⟩
  rw [isCommentMark, Bool.or_eq_false_iff] at hc
  exact hc.2

theorem beginsWithout_of_isName {t : Text} (ht : IsName t) : BeginsWithout isCommentMark t := by
  obtain ⟨c, rest, rfl⟩ := List.exists_cons_of_ne_nil ht.1
  exact ⟨c, rest, rfl, ht.not_commentMark c (by simp)⟩

theorem beginsWithout_word (keyword : Keyword) : BeginsWithout isCommentMark keyword.word := by
  cases keyword <;> exact ⟨_, _, rfl, by decide⟩

theorem isBodyComment_cons (c : Char) (rest : Text) :
    isBodyComment (c :: rest) = (c == '/' || c == '*') := by
  simp [isBodyComment, startsWith, List.isPrefixOf, Bool.beq_comm]

theorem isBodyComment_of_beginsWithout {line : Text} (hline : BeginsWithout isCommentMark line) :
    isBodyComment line = false := by
  obtain ⟨c, rest, rfl, hc⟩ := hline
  rw [isCommentMark, Bool.or_eq_false_iff, Bool.or_comm] at hc
  rw [isBodyComment_cons, hc.1]

theorem bare_concat {start : Text} (hstart : BeginsWithout isBlank start) (middle : Text) {d : Char}
    (hd : isBlank d = false) : bare (start ++ middle ++ [d]) = start ++ middle ++ [d] := by
  have hreturn : d ≠ '\r' := by
    rintro rfl
    exact absurd hd (by decide)
  obtain ⟨c, rest, rfl, hc⟩ := hstart
  rw [bare, dropReturn_concat _ hreturn, trimStart]
  exact List.dropWhile_cons_of_neg (by simp [hc])

theorem bare_space_concat (line : Text) {d : Char} (hd : d ≠ '\r') :
    bare (' ' :: (line ++ [d])) = bare (line ++ [d]) := by
  have hreturn : dropReturn (' ' :: line ++ [d]) = ' ' :: line ++ [d] := dropReturn_concat _ hd
  rw [bare, bare, ← List.cons_append, hreturn, dropReturn_concat _ hd]
  exact List.dropWhile_cons_of_pos (by decide)

/-! ### Lines that begin a declaration -/

theorem Keyword.exists_cons_word (keyword : Keyword) :
    ∃ c rest, keyword.word = c :: rest ∧ c ∈ ['s', 'r', 'm', 'e'] := by
  cases keyword <;> exact ⟨_, _, rfl, by decide⟩

theorem declaration?_cons {c : Char} (hc : c ∉ ['s', 'r', 'm', 'e']) (rest : Text) :
    declaration? (c :: rest) = none := by
  refine declaration?_eq_none_of_ne fun keyword tail heq => hc ?_
  obtain ⟨d, wordTail, hword, hd⟩ := keyword.exists_cons_word
  rw [Keyword.text_append, hword, List.cons_append] at heq
  rw [(List.cons.inj heq).1]
  exact hd

theorem declaration?_append_space {w : Text} (hspace : ' ' ∉ w)
    (hw : ∀ keyword : Keyword, w ≠ keyword.word) (rest : Text) :
    declaration? (w ++ ' ' :: rest) = none := by
  refine declaration?_eq_none_of_ne fun keyword tail heq => ?_
  rw [Keyword.text_append] at heq
  exact hw keyword (append_cons_inj hspace keyword.space_not_mem_word heq).1

theorem bare_openingLine (keyword : Keyword) (name : Text) :
    bare (openingLine keyword.word name) = openingLine keyword.word name := by
  have hconcat := bare_concat (beginsWithout_word keyword).blank (' ' :: name ++ [' '])
    (show isBlank '{' = false by decide)
  simpa [openingLine] using hconcat

theorem declaration?_openingLine (keyword : Keyword) (name : Text) :
    declaration? (openingLine keyword.word name) = some (keyword, name ++ [' ', '{']) := by
  rw [declaration?_eq_some_iff, Keyword.text_append]
  simp [openingLine]

theorem bare_closingLine : bare closingLine = closingLine := by decide

theorem declaration?_closingLine : declaration? closingLine = none :=
  declaration?_cons (by decide) []

theorem nameBeforeBrace_append_cons {name : Text} (hname : IsName name) (tail : Text) :
    nameBeforeBrace (name ++ ' ' :: '{' :: tail) = name := by
  have hup : upTo '{' ((name ++ [' ']) ++ '{' :: tail) = name ++ [' '] := by
    have hbrace : '{' ∉ name ++ [' '] := by
      simpa using hname.not_mem (show isNameChar '{' = false by decide)
    exact upTo_append_cons hbrace tail
  rw [List.append_assoc, List.singleton_append] at hup
  rw [nameBeforeBrace, hup, trim_append_space, hname.trim_eq]

theorem nameBeforeBrace_append {name : Text} (hname : IsName name) :
    nameBeforeBrace (name ++ [' ', '{']) = name :=
  nameBeforeBrace_append_cons hname []

theorem messageName_of_nameBeforeBrace {rest name : Text} (hname : IsName name)
    (hrest : nameBeforeBrace rest = name) : messageName rest = name := by
  rw [messageName, hrest, List.filter_eq_self]
  intro c hc
  have hbrace : c ≠ '}' := fun heq => hname.not_mem (by decide) (heq ▸ hc)
  simp [hname.not_blank c hc, hbrace]

theorem messageName_append {name : Text} (hname : IsName name) :
    messageName (name ++ [' ', '{']) = name :=
  messageName_of_nameBeforeBrace hname (nameBeforeBrace_append hname)

/-! ### Call lines -/

/-- A call line is cut at its first group and its last, whatever stands between them. -/
theorem groups?_append {name request between response tail : Text}
    (hname : name.any isParenthesis = false) (hrequest : ')' ∉ request)
    (hresponse : '(' ∉ response) (htail : tail.any isParenthesis = false) :
    groups? (Keyword.rpc.text ++ (name ++ '(' :: (request ++ ')' ::
      ((between ++ '(' :: response) ++ ')' :: tail)))) = some (name, request, response) := by
  have hopen : '(' ∉ name := fun hmem => List.any_eq_false.1 hname '(' hmem (by decide)
  have hclose : ')' ∉ tail := fun hmem => List.any_eq_false.1 htail ')' hmem (by decide)
  rw [groups?, stripStart?_append]
  dsimp only [Option.bind_eq_bind, Option.bind_some]
  rw [cut?_eq_some_iff.2 ⟨rfl, hopen⟩]
  dsimp only [Option.bind_some]
  rw [cut?_eq_some_iff.2 ⟨rfl, hrequest⟩]
  dsimp only [Option.bind_some]
  rw [cutLast?_eq_some_iff.2 ⟨rfl, hclose⟩]
  dsimp only [Option.bind_some]
  rw [cutLast?_eq_some_iff.2 ⟨rfl, hresponse⟩]
  dsimp only [Option.bind_some]
  rw [guard_eq_some (by simp [hname, htail])]
  rfl

end RpcReference.Source

namespace RpcReference

open Text Source

def Call.responseText (call : Call) : Text :=
  (if call.stream then "stream ".toList else []) ++ call.response

theorem Call.sourceLine_eq (call : Call) :
    call.sourceLine = Keyword.rpc.text ++ ((call.name ++ [' ']) ++ '(' :: (call.request ++ ')' ::
      ((" returns ".toList ++ '(' :: call.responseText) ++ ')' :: [';']))) := by
  have hrpc : Keyword.rpc.text = "rpc ".toList := rfl
  rw [hrpc]
  unfold Call.sourceLine Call.responseText
  generalize (if call.stream then "stream ".toList else []) = mark
  simp

theorem Call.bare_sourceLine (call : Call) : bare call.sourceLine = call.sourceLine := by
  have hconcat := bare_concat (beginsWithout_word .rpc).blank
    (' ' :: ((call.name ++ [' ']) ++ '(' :: (call.request ++ ')' ::
      ((" returns ".toList ++ '(' :: call.responseText) ++ [')']))))
    (show isBlank ';' = false by decide)
  rw [Call.sourceLine_eq, Keyword.text_append]
  simpa using hconcat

theorem Call.declaration?_sourceLine (call : Call) :
    ∃ rest, declaration? call.sourceLine = some (.rpc, rest) := by
  rw [Call.sourceLine_eq]
  exact ⟨_, declaration?_eq_some_iff.2 rfl⟩

theorem Call.responseText_of_stream {call : Call} (hstream : call.stream = true) :
    call.responseText = "stream ".toList ++ call.response := by
  rw [Call.responseText, if_pos hstream]

theorem Call.responseText_of_not_stream {call : Call} (hstream : call.stream = false) :
    call.responseText = call.response := by
  rw [Call.responseText, if_neg (by simp [hstream]), List.nil_append]

theorem Call.Writable.groups?_sourceLine {call : Call} (hcall : call.Writable) :
    groups? call.sourceLine = some (call.name ++ [' '], call.request, call.responseText) := by
  have hopen : '(' ∉ call.responseText := by
    have hresponse := hcall.response.not_mem (show isNameChar '(' = false by decide)
    cases hstream : call.stream with
    | true => simpa [Call.responseText_of_stream hstream] using hresponse
    | false => rwa [Call.responseText_of_not_stream hstream]
  have hname : (call.name ++ [' ']).any isParenthesis = false := by
    have hleft := hcall.name.not_mem (show isNameChar '(' = false by decide)
    have hright := hcall.name.not_mem (show isNameChar ')' = false by decide)
    simp only [List.any_eq_false, List.mem_append, List.mem_singleton]
    rintro c (hc | rfl)
    · have hne : c ≠ '(' ∧ c ≠ ')' := ⟨fun heq => hleft (heq ▸ hc), fun heq => hright (heq ▸ hc)⟩
      simp [isParenthesis, hne]
    · decide
  rw [Call.sourceLine_eq]
  exact groups?_append hname (hcall.request.not_mem (by decide)) hopen (by decide)

theorem Call.Writable.signature?_sourceLine {call : Call} (hcall : call.Writable) :
    signature? call.sourceLine = some ⟨call.name, call.request, call.response, call.stream⟩ := by
  have hname : trim (call.name ++ [' ']) = call.name := by
    rw [trim_append_space, hcall.name.trim_eq]
  have hparts (response : Text) (hresponse : response ≠ []) :
      (!call.name.isEmpty && !call.request.isEmpty && !response.isEmpty) = true := by
    simp [hcall.name.1, hcall.request.1, hresponse]
  unfold signature?
  rw [hcall.groups?_sourceLine]
  dsimp only [Option.bind_eq_bind, Option.bind_some]
  rw [hname, hcall.request.trim_eq]
  cases hstream : call.stream with
  | true =>
    have hshown : trim call.responseText = "stream ".toList ++ call.response := by
      rw [Call.responseText_of_stream hstream]
      refine trimWhile_eq_self_iff.2 ⟨by simp; decide, ?_⟩
      exact dropEndWhile_append_of_ne_nil _ hcall.response.1
        (dropEndWhile_eq_self_of_forall hcall.response.not_blank)
    rw [hshown, guard_eq_some (hparts _ (by simp)), stripStart?_append]
    dsimp only [Option.bind_some]
    rw [hcall.response.trim_eq]
    rfl
  | false =>
    have hshown : trim call.responseText = call.response := by
      rw [Call.responseText_of_not_stream hstream]
      exact hcall.response.trim_eq
    have hstrip : stripStart? "stream ".toList call.response = none := by
      rw [Option.eq_none_iff_forall_ne_some]
      intro rest hrest
      have hspace := hcall.response.not_mem (show isNameChar ' ' = false by decide)
      rw [stripStart?_eq_some_iff.1 hrest] at hspace
      simp at hspace
    rw [hshown, guard_eq_some (hparts _ hcall.response.1), hstrip]
    rfl

/-! ### Field lines -/

theorem bare_numberedLine {subject : Text} (hsubject : BeginsWithout isBlank subject)
    (number : Nat) : bare (numberedLine subject number) = numberedLine subject number := by
  have hconcat := bare_concat hsubject (" = ".toList ++ decimal number)
    (show isBlank ';' = false by decide)
  simpa [numberedLine] using hconcat

theorem words_numberedLine {subject : Text} {ws : List Text} (number : Nat)
    (hsubject : ∀ rest, words (subject ++ ' ' :: rest) = ws ++ words rest) :
    words (numberedLine subject number) = ws ++ ["=".toList, decimal number ++ [';']] := by
  have hline : numberedLine subject number =
      subject ++ ' ' :: (['='] ++ ' ' :: (decimal number ++ [';'])) := by
    simp [numberedLine]
  have hnumber : ∀ c ∈ decimal number ++ [';'], isBlank c = false := by
    simp only [List.mem_append, List.mem_singleton]
    rintro c (hc | rfl)
    · exact (isName_decimal number).not_blank c hc
    · decide
  rw [hline, hsubject, words_append_space (by simp) (List.forall_mem_singleton.mpr (by decide)),
    words_of_forall_not_blank (by simp) hnumber]
  simp

theorem isName_repeated : IsName "repeated".toList := by decide

/-- The text of a field line before the equals sign. -/
def Field.subject (field : Field) : Text :=
  field.sourceType ++ ' ' :: field.name

theorem Field.subject_of_map {field : Field} {key : Text} (hkey : field.key = some key) :
    field.subject = "map".toList ++ '<' :: (key ++ ',' :: (' ' :: field.type)) ++
      '>' :: ' ' :: field.name := by
  unfold Field.subject Field.sourceType
  rw [hkey]
  simp

theorem Field.subject_of_repeated {field : Field} (hkey : field.key = none)
    (hrepeated : field.repeated = true) :
    field.subject = "repeated".toList ++ ' ' :: (field.type ++ ' ' :: field.name) := by
  unfold Field.subject Field.sourceType
  rw [hkey, hrepeated]
  simp

theorem Field.subject_of_plain {field : Field} (hkey : field.key = none)
    (hrepeated : field.repeated = false) : field.subject = field.type ++ ' ' :: field.name := by
  unfold Field.subject Field.sourceType
  rw [hkey, hrepeated]
  simp

theorem not_mem_numberedLine {c : Char} {subject : Text} (hsubject : c ∉ subject)
    (hc : isNameChar c = false) (hmark : c ∉ [' ', '=', ';']) (number : Nat) :
    c ∉ numberedLine subject number := by
  have hnumber := (isName_decimal number).not_mem hc
  simp only [List.mem_cons, List.not_mem_nil, not_or] at hmark
  simp [numberedLine, hsubject, hmark, hnumber]

/-- The first words of the statements inside a body that declare no field. -/
def otherWords : List Text :=
  ["enum".toList, "oneof".toList, "message".toList, "reserved".toList, "option".toList,
    "extensions".toList]

theorem otherStatements_eq : otherStatements = otherWords.map (· ++ [' ']) := by decide

theorem isName_otherWords : ∀ w ∈ otherWords, IsName w := by decide

theorem space_not_mem_otherWords : ∀ w ∈ otherWords, ' ' ∉ w := by decide

/-- A line that is no map and whose first word begins no other statement is read by its words. -/
theorem fieldLine?_of_words {line w rest : Text} (hline : line = w ++ ' ' :: rest)
    (hangle : '<' ∉ line) (hspace : ' ' ∉ w) (hw : w ∉ otherWords) :
    fieldLine? line = plainField? (words line) := by
  have hmap : stripStart? "map<".toList line = none := by
    rw [Option.eq_none_iff_forall_ne_some]
    intro tail htail
    rw [stripStart?_eq_some_iff.1 htail] at hangle
    simp at hangle
  have hother : otherStatements.any line.startsWith = false := by
    rw [List.any_eq_false, otherStatements_eq]
    intro statement hstatement hstarts
    obtain ⟨v, hv, rfl⟩ := List.mem_map.1 hstatement
    have hne : w ≠ v := fun heq => hw (heq ▸ hv)
    rw [hline, startsWith_append_space hspace (space_not_mem_otherWords v hv) hne] at hstarts
    cases hstarts
  unfold fieldLine?
  rw [hmap]
  simp only [hother, Bool.false_eq_true, if_false]

/-- A map field is cut at its first closing bracket, comma and equals sign. -/
theorem mapField?_append {key value name tail : Text} (hclose : '>' ∉ key ++ ',' :: value)
    (hequals : '=' ∉ key ++ ',' :: value) (hcomma : ',' ∉ key) (hname : '=' ∉ name)
    (hne : trim name ≠ []) :
    mapField? ((key ++ ',' :: value) ++ '>' :: (name ++ '=' :: tail)) =
      some ⟨trim name, trim value, false, some (trim key)⟩ := by
  have hcontains : (key ++ ',' :: value).contains '=' = false := by
    rw [List.contains_eq_mem, decide_eq_false_iff_not]
    exact hequals
  unfold mapField?
  rw [cut?_eq_some_iff.2 ⟨rfl, hclose⟩]
  dsimp only [Option.bind_eq_bind, Option.bind_some]
  rw [guard_eq_some (by rw [hcontains]; rfl)]
  dsimp only [Option.bind_some]
  rw [cut?_eq_some_iff.2 ⟨rfl, hcomma⟩]
  dsimp only [Option.bind_some]
  rw [cut?_eq_some_iff.2 ⟨rfl, hname⟩]
  dsimp only [Option.bind_some]
  rw [guard_eq_some (by simpa using hne)]
  rfl

theorem fieldLine?_map (rest : Text) : fieldLine? ("map<".toList ++ rest) = mapField? rest := by
  unfold fieldLine?
  rw [stripStart?_append]

theorem plainField?_cons (first second third fourth : Text) (rest : List Text) :
    plainField? (first :: second :: third :: fourth :: rest) =
      if fieldLabels.contains first then some ⟨third, second, first == "repeated".toList, none⟩
      else some ⟨second, first, false, none⟩ := rfl

theorem otherWords_reserved : ∀ w ∈ otherWords, w ∈ reservedTypes := by decide

theorem fieldLabels_reserved : ∀ w ∈ fieldLabels, w ∈ reservedTypes := by decide

namespace Field.Writable

variable {field : Field} (hfield : field.Writable)

include hfield

theorem not_mem_subject_of_unkeyed (hkey : field.key = none) {c : Char}
    (hc : isNameChar c = false) (hspace : c ≠ ' ') : c ∉ field.subject := by
  have htype := hfield.type.not_mem hc
  have hname := hfield.name.not_mem hc
  have hlabel := isName_repeated.not_mem hc
  cases hrepeated : field.repeated with
  | true =>
    rw [Field.subject_of_repeated hkey hrepeated]
    simp only [List.mem_append, List.mem_cons, not_or]
    exact ⟨hlabel, hspace, htype, hspace, hname⟩
  | false =>
    rw [Field.subject_of_plain hkey hrepeated]
    simp only [List.mem_append, List.mem_cons, not_or]
    exact ⟨htype, hspace, hname⟩

theorem not_mem_subject {c : Char} (hc : isNameChar c = false)
    (hmark : c ∉ [' ', ',', '<', '>']) : c ∉ field.subject := by
  simp only [List.mem_cons, List.not_mem_nil, not_or] at hmark
  obtain ⟨hspace, hcomma, hopen, hclose, -⟩ := hmark
  cases hkey : field.key with
  | some key =>
    have hmap := (show IsName "map".toList by decide).not_mem hc
    rw [Field.subject_of_map hkey]
    simp only [List.mem_append, List.mem_cons, not_or]
    exact ⟨⟨hmap, hopen, (hfield.key key hkey).not_mem hc, hcomma, hspace, hfield.type.not_mem hc⟩,
      hclose, hspace, hfield.name.not_mem hc⟩
  | none => exact hfield.not_mem_subject_of_unkeyed hkey hc hspace

theorem fieldLine?_plain (hkey : field.key = none) (hrepeated : field.repeated = false)
    (number : Nat) :
    fieldLine? (numberedLine field.subject number) =
      some ⟨field.name, field.type, field.repeated, field.key⟩ := by
  have hsubject := Field.subject_of_plain hkey hrepeated
  have hline : numberedLine field.subject number =
      field.type ++ ' ' :: (field.name ++ " = ".toList ++ decimal number ++ [';']) := by
    simp [numberedLine, hsubject]
  have hangle : '<' ∉ field.subject :=
    hfield.not_mem_subject_of_unkeyed hkey (by decide) (by decide)
  have hwords : ∀ rest, words (field.subject ++ ' ' :: rest) =
      [field.type, field.name] ++ words rest := by
    intro rest
    rw [hsubject, List.append_assoc, List.cons_append,
      words_append_space hfield.type.1 hfield.type.not_blank,
      words_append_space hfield.name.1 hfield.name.not_blank]
    rfl
  have hother : field.type ∉ otherWords :=
    fun hmem => hfield.type_not_reserved (otherWords_reserved _ hmem)
  have hlabel : fieldLabels.contains field.type = false := by
    rw [List.contains_eq_mem, decide_eq_false_iff_not]
    exact fun hmem => hfield.type_not_reserved (fieldLabels_reserved _ hmem)
  rw [fieldLine?_of_words hline (not_mem_numberedLine hangle (by decide) (by decide) number)
      (hfield.type.not_mem (by decide)) hother, words_numberedLine number hwords]
  simp only [List.cons_append, List.nil_append]
  rw [plainField?_cons, if_neg (by rw [hlabel]; decide), hrepeated, hkey]

theorem fieldLine?_repeated (hkey : field.key = none) (hrepeated : field.repeated = true)
    (number : Nat) :
    fieldLine? (numberedLine field.subject number) =
      some ⟨field.name, field.type, field.repeated, field.key⟩ := by
  have hsubject := Field.subject_of_repeated hkey hrepeated
  have hline : numberedLine field.subject number = "repeated".toList ++
      ' ' :: (field.type ++ ' ' :: (field.name ++ " = ".toList ++ decimal number ++ [';'])) := by
    simp [numberedLine, hsubject]
  have hangle : '<' ∉ field.subject :=
    hfield.not_mem_subject_of_unkeyed hkey (by decide) (by decide)
  have hwords : ∀ rest, words (field.subject ++ ' ' :: rest) =
      ["repeated".toList, field.type, field.name] ++ words rest := by
    intro rest
    rw [hsubject, List.append_assoc, List.cons_append, List.append_assoc, List.cons_append,
      words_append_space isName_repeated.1 isName_repeated.not_blank,
      words_append_space hfield.type.1 hfield.type.not_blank,
      words_append_space hfield.name.1 hfield.name.not_blank]
    rfl
  rw [fieldLine?_of_words hline (not_mem_numberedLine hangle (by decide) (by decide) number)
      (by decide) (by decide), words_numberedLine number hwords]
  simp only [List.cons_append, List.nil_append]
  rw [plainField?_cons, if_pos (by decide), hrepeated, hkey, beq_self_eq_true]

theorem fieldLine?_keyed {key : Text} (hkey : field.key = some key) (number : Nat) :
    fieldLine? (numberedLine field.subject number) =
      some ⟨field.name, field.type, field.repeated, field.key⟩ := by
  have hkeyName := hfield.key key hkey
  have hrepeated : field.repeated = false := by
    rw [Bool.eq_false_iff]
    intro htrue
    rw [hfield.not_both htrue] at hkey
    cases hkey
  have hline : numberedLine field.subject number = "map<".toList ++
      ((key ++ ',' :: (' ' :: field.type)) ++ '>' :: ((' ' :: field.name ++ [' ']) ++
        '=' :: (' ' :: decimal number ++ [';']))) := by
    simp [numberedLine, Field.subject_of_map hkey]
  have htypes : ∀ {c}, isNameChar c = false → c ≠ ',' → c ≠ ' ' →
      c ∉ key ++ ',' :: (' ' :: field.type) := by
    intro c hc hcomma hspace
    simp only [List.mem_append, List.mem_cons, not_or]
    exact ⟨hkeyName.not_mem hc, hcomma, hspace, hfield.type.not_mem hc⟩
  have hname : '=' ∉ ' ' :: field.name ++ [' '] := by
    simpa using hfield.name.not_mem (show isNameChar '=' = false by decide)
  have htrimName : trim (' ' :: field.name ++ [' ']) = field.name := by
    rw [trim_append_space, trim_space_cons, hfield.name.trim_eq]
  have htrimType : trim (' ' :: field.type) = field.type := by
    rw [trim_space_cons, hfield.type.trim_eq]
  rw [hline, fieldLine?_map, mapField?_append (htypes (by decide) (by decide) (by decide))
      (htypes (by decide) (by decide) (by decide)) (hkeyName.not_mem (by decide)) hname
      (by rw [htrimName]; exact hfield.name.1),
    htrimName, htrimType, hkeyName.trim_eq, hkey, hrepeated]

theorem fieldLine?_numberedLine (number : Nat) :
    fieldLine? (numberedLine field.subject number) =
      some ⟨field.name, field.type, field.repeated, field.key⟩ := by
  cases hkey : field.key with
  | some key => rw [← hkey, hfield.fieldLine?_keyed hkey]
  | none =>
    rw [← hkey]
    cases hrepeated : field.repeated with
    | true => rw [← hrepeated, hfield.fieldLine?_repeated hkey hrepeated]
    | false => rw [← hrepeated, hfield.fieldLine?_plain hkey hrepeated]

/-- The first word of a field line is the type, a label, or the beginning of a map type. -/
theorem exists_first_word : ∃ w rest, field.subject = w ++ ' ' :: rest ∧ ' ' ∉ w ∧
    BeginsWithout isCommentMark w ∧ ∀ keyword : Keyword, w ≠ keyword.word := by
  cases hkey : field.key with
  | some key =>
    have hspace : ' ' ∉ "map<".toList ++ (key ++ [',']) := by
      simpa using (hfield.key key hkey).not_mem (show isNameChar ' ' = false by decide)
    refine ⟨"map<".toList ++ (key ++ [',']), field.type ++ '>' :: ' ' :: field.name, ?_, hspace,
      ⟨_, _, rfl, by decide⟩, fun keyword heq => ?_⟩
    · simp [Field.subject_of_map hkey]
    · have hangle : '<' ∈ keyword.word := by simp [← heq]
      revert hangle
      cases keyword <;> decide
  | none =>
    cases hrepeated : field.repeated with
    | true =>
      refine ⟨"repeated".toList, _, Field.subject_of_repeated hkey hrepeated, by decide,
        ⟨_, _, rfl, by decide⟩, fun keyword => ?_⟩
      cases keyword <;> decide
    | false =>
      refine ⟨field.type, _, Field.subject_of_plain hkey hrepeated,
        hfield.type.not_mem (by decide), beginsWithout_of_isName hfield.type, ?_⟩
      rintro keyword heq
      apply hfield.type_not_reserved
      rw [heq]
      cases keyword <;> decide

end Field.Writable

theorem numberedLine_eq (subject : Text) (number : Nat) :
    numberedLine subject number = subject ++ ' ' :: '=' :: (' ' :: decimal number ++ [';']) := by
  simp [numberedLine]

theorem Field.Writable.declaration?_numberedLine {field : Field} (hfield : field.Writable)
    (number : Nat) : declaration? (numberedLine field.subject number) = none := by
  obtain ⟨w, rest, hsubject, hspace, -, hw⟩ := hfield.exists_first_word
  rw [numberedLine_eq, hsubject, List.append_assoc, List.cons_append]
  exact declaration?_append_space hspace hw _

theorem Field.Writable.beginsWithout_subject {field : Field} (hfield : field.Writable) :
    BeginsWithout isCommentMark field.subject := by
  obtain ⟨w, rest, hsubject, -, hbegin, -⟩ := hfield.exists_first_word
  rw [hsubject]
  exact hbegin.append _

/-! ### Values of an enumeration -/

theorem declaration?_value {value : Text} (hvalue : IsName value)
    (hreserved : value ∉ reservedValues) (number : Nat) :
    declaration? (numberedLine value number) = none := by
  rw [numberedLine_eq]
  refine declaration?_append_space (hvalue.not_mem (by decide)) (fun keyword heq => ?_) _
  apply hreserved
  rw [heq]
  cases keyword <;> decide

theorem trim_numberedLine {subject : Text} (hsubject : BeginsWithout isBlank subject)
    (number : Nat) : trim (numberedLine subject number) = numberedLine subject number := by
  obtain ⟨c, rest, rfl, hc⟩ := hsubject
  refine trimWhile_eq_self_iff.2 ⟨List.dropWhile_cons_of_neg (by simp [hc]), ?_⟩
  exact dropEndWhile_append_of_ne_nil _ (by simp) (by decide)

theorem statementValue?_value {value : Text} (hvalue : IsName value)
    (hreserved : value ∉ reservedValues) (number : Nat) :
    statementValue? (numberedLine value number) = some value := by
  have hspace := hvalue.not_mem (show isNameChar ' ' = false by decide)
  have hbegin := beginsWithout_of_isName hvalue
  have hcomment : isBodyComment (numberedLine value number) = false := by
    rw [numberedLine_eq]
    exact isBodyComment_of_beginsWithout (hbegin.append _)
  have hword : ∀ w ∈ reservedValues, ' ' ∉ w →
      (numberedLine value number).startsWith (w ++ [' ']) = false := by
    intro w hw hwspace
    rw [numberedLine_eq]
    exact startsWith_append_space hspace hwspace (fun heq => hreserved (heq ▸ hw)) _
  have hoption : (numberedLine value number).startsWith "option ".toList = false :=
    hword "option".toList (by decide) (by decide)
  have hreservedWord : (numberedLine value number).startsWith "reserved ".toList = false :=
    hword "reserved".toList (by decide) (by decide)
  have hup : upTo '=' (numberedLine value number) = value ++ [' '] := by
    have hequals : '=' ∉ value ++ [' '] := by
      simpa using hvalue.not_mem (show isNameChar '=' = false by decide)
    rw [numberedLine_eq, ← List.singleton_append, ← List.append_assoc]
    exact upTo_append_cons hequals _
  have htrim : trim (value ++ [' ']) = value := by
    rw [trim_append_space, hvalue.trim_eq]
  unfold statementValue?
  rw [isBodyComment] at hcomment
  simp only [trim_numberedLine hbegin.blank, hcomment, hoption, hreservedWord, Bool.or_self,
    Bool.false_eq_true, if_false, hup, htrim, List.isEmpty_iff, hvalue.1]

end RpcReference
