import RpcReference.Proofs.CommentLines
import RpcReference.Proofs.LineForms
import RpcReference.Proofs.NestedDeclarations
import RpcReference.Proofs.WrittenBodies
/-!
# Enumerations on one line and on several

The values of an enumeration are read in one of two ways. On a single line the text between the
braces is cut at every semicolon; otherwise the lines below are taken up to a closing brace, and
each keeps its semicolon. For the same statements both find the same values, whatever comments and
empty lines stand between the lines. Indentation plays no part, since lines are read without it.
-/

namespace RpcReference.Source

open Text

/-! ### Statements -/

/-- A statement of the body of an enumeration, without the semicolon that ends it. -/
structure IsStatement (s : Text) : Prop where
  ne_nil : s ≠ []
  trimmed : trim s = s
  plain : ∀ c ∈ [';', '{', '}', '\n'], c ∉ s
  form : '=' ∈ s ∨ s.startsWith "option ".toList = true ∨ s.startsWith "reserved ".toList = true

instance (s : Text) : Decidable (IsStatement s) :=
  decidable_of_iff (s ≠ [] ∧ trim s = s ∧ [';', '{', '}', '\n'].all (! s.contains ·) = true ∧
      ('=' ∈ s ∨ s.startsWith "option ".toList = true ∨ s.startsWith "reserved ".toList = true))
    ⟨fun ⟨hne, htrimmed, hplain, hform⟩ => ⟨hne, htrimmed, by simpa using hplain, hform⟩,
      fun ⟨hne, htrimmed, hplain, hform⟩ => ⟨hne, htrimmed, by simpa using hplain, hform⟩⟩

/-- The statement is a comment, an option or a reservation. -/
def isSilent (s : Text) : Bool :=
  isBodyComment s || s.startsWith "option ".toList || s.startsWith "reserved ".toList

def declaredValues (statements : List Text) : List Text :=
  ((statements.filter (! isSilent ·)).map fun s => trim (upTo '=' s)).filter (! ·.isEmpty)

variable {s : Text}

theorem statementValue?_of_isSilent (hsilent : isSilent (trim s) = true) :
    statementValue? s = none := by
  rw [isSilent, isBodyComment] at hsilent
  rw [statementValue?]
  dsimp only
  rw [hsilent, if_pos rfl]

theorem statementValue?_of_not_isSilent (hspeaks : isSilent (trim s) = false) :
    statementValue? s =
      if trim (upTo '=' (trim s)) = [] then none else some (trim (upTo '=' (trim s))) := by
  rw [isSilent, isBodyComment] at hspeaks
  rw [statementValue?]
  dsimp only
  rw [hspeaks, if_neg Bool.false_ne_true]
  simp only [List.isEmpty_iff]

theorem statementValue?_nil : statementValue? [] = none := by decide

theorem filterMap_statementValue? {statements : List Text}
    (hstatements : ∀ s ∈ statements, trim s = s) :
    statements.filterMap statementValue? = declaredValues statements := by
  induction statements with
  | nil => rfl
  | cons s statements ih =>
    obtain ⟨hs, hrest⟩ := List.forall_mem_cons.mp hstatements
    cases hsilent : isSilent s with
    | true =>
      have hnone : statementValue? s = none := statementValue?_of_isSilent (by rwa [hs])
      rw [List.filterMap_cons_none hnone, ih hrest, declaredValues, declaredValues,
        List.filter_cons_of_neg (by simp [hsilent])]
    | false =>
      have hvalue := @statementValue?_of_not_isSilent s (by rwa [hs])
      rw [hs] at hvalue
      rw [declaredValues, List.filter_cons_of_pos (by simp [hsilent]), List.map_cons]
      by_cases hempty : trim (upTo '=' s) = []
      · rw [if_pos hempty] at hvalue
        rw [List.filterMap_cons_none hvalue, ih hrest, List.filter_cons_of_neg (by simp [hempty]),
          declaredValues]
      · rw [if_neg hempty] at hvalue
        rw [List.filterMap_cons_some hvalue, ih hrest, List.filter_cons_of_pos (by simp [hempty]),
          declaredValues]

/-! ### With and without the semicolon -/

theorem IsStatement.beginsWithout (hs : IsStatement s) : BeginsWithout isBlank s := by
  obtain ⟨c, rest, rfl⟩ := List.exists_cons_of_ne_nil hs.ne_nil
  obtain ⟨hstart, -⟩ := trimWhile_eq_self_iff.mp hs.trimmed
  have hc : ¬ isBlank c = true := List.dropWhile_eq_self_iff.mp hstart (by simp)
  exact ⟨c, rest, rfl, by simpa using hc⟩

theorem IsStatement.trim_concat (hs : IsStatement s) : trim (s ++ [';']) = s ++ [';'] := by
  obtain ⟨c, rest, rfl, hc⟩ := hs.beginsWithout
  refine trimWhile_eq_self_iff.mpr ⟨List.dropWhile_cons_of_neg (by simp [hc]), ?_⟩
  exact dropEndWhile_append_of_ne_nil _ (by simp) (by decide)

theorem isSilent_concat (s : Text) : isSilent (s ++ [';']) = isSilent s := by
  unfold isSilent isBodyComment
  rw [startsWith_concat (by decide), startsWith_concat (by decide), startsWith_concat (by decide),
    startsWith_concat (by decide)]

/-- The semicolon stands behind the equals sign, where nothing is read. -/
theorem IsStatement.statementValue?_concat (hs : IsStatement s) :
    statementValue? (s ++ [';']) = statementValue? s := by
  cases hsilent : isSilent s with
  | true =>
    rw [statementValue?_of_isSilent (by rwa [hs.trim_concat, isSilent_concat]),
      statementValue?_of_isSilent (by rwa [hs.trimmed])]
  | false =>
    have hequals : '=' ∈ s := by
      rw [isSilent, Bool.or_eq_false_iff, Bool.or_eq_false_iff] at hsilent
      refine hs.form.resolve_right (not_or.mpr ⟨?_, ?_⟩)
      · rw [hsilent.1.2]
        exact Bool.false_ne_true
      · rw [hsilent.2]
        exact Bool.false_ne_true
    rw [statementValue?_of_not_isSilent (by rwa [hs.trim_concat, isSilent_concat]),
      statementValue?_of_not_isSilent (by rwa [hs.trimmed]), hs.trim_concat, hs.trimmed,
      upTo_append_of_mem hequals]

/-! ### On one line -/

/-- The enumeration with its body on the line of its declaration. -/
def oneLineEnum (name : Text) (statements : List Text) : Text :=
  openingLine Keyword.enum.word name ++
    (' ' :: statements.flatMap (· ++ "; ".toList) ++ closingLine)

theorem declaration?_oneLineEnum (name : Text) (statements : List Text) :
    declaration? (oneLineEnum name statements) = some (.enum, name ++ ' ' :: '{' ::
      (' ' :: statements.flatMap (· ++ "; ".toList) ++ closingLine)) := by
  rw [declaration?_eq_some_iff, Keyword.text_append, oneLineEnum]
  generalize ' ' :: statements.flatMap (· ++ "; ".toList) ++ closingLine = body
  simp [openingLine]

theorem split_statements {statements : List Text} (hstatements : ∀ s ∈ statements, ';' ∉ s) :
    split ';' (' ' :: statements.flatMap (· ++ "; ".toList)) =
      statements.map (' ' :: ·) ++ [[' ']] := by
  induction statements with
  | nil => rfl
  | cons s statements ih =>
    obtain ⟨hs, hrest⟩ := List.forall_mem_cons.mp hstatements
    have hbody : ' ' :: (s :: statements).flatMap (· ++ "; ".toList) =
        (' ' :: s) ++ ';' :: (' ' :: statements.flatMap (· ++ "; ".toList)) := by
      simp
    have hpiece : ';' ∉ ' ' :: s := by simpa using hs
    rw [hbody, split_append_cons, split_of_not_mem hpiece, ih hrest]
    rfl

theorem statementValue?_space_cons (s : Text) : statementValue? (' ' :: s) = statementValue? s := by
  rw [statementValue?, trim_space_cons]
  rfl

theorem bodyOnLine?_oneLineEnum {name : Text} (hname : IsName name) (statements : List Text) :
    bodyOnLine? (oneLineEnum name statements) =
      some (' ' :: statements.flatMap (· ++ "; ".toList)) := by
  have hbrace : '{' ∉ Keyword.enum.word ++ ' ' :: name ++ [' '] := by
    simp only [List.mem_append, List.mem_cons, List.not_mem_nil, not_or]
    exact ⟨⟨by decide, by decide, hname.not_mem (by decide)⟩, by decide, id⟩
  refine bodyOnLine?_eq_some_iff.mpr ⟨_, [], ?_, hbrace, List.not_mem_nil⟩
  rw [oneLineEnum]
  generalize ' ' :: statements.flatMap (· ++ "; ".toList) = body
  simp [openingLine, closingLine]

theorem enumValues_oneLineEnum {name : Text} (hname : IsName name) {statements : List Text}
    (hstatements : ∀ s ∈ statements, IsStatement s) (below : List Text) :
    enumValues (oneLineEnum name statements) below = declaredValues statements := by
  have hsplit := split_statements fun s hs => (hstatements s hs).plain ';' (by simp)
  have hspaces : statementValue? ∘ (' ' :: ·) = statementValue? :=
    funext statementValue?_space_cons
  rw [enumValues, bodyOnLine?_oneLineEnum hname]
  dsimp only
  rw [hsplit, List.filterMap_append, List.filterMap_map, hspaces,
    filterMap_statementValue? fun s hs => (hstatements s hs).trimmed]
  exact List.append_nil _

/-! ### On several lines -/

/-- A comment or an empty line, without braces. -/
def IsFiller (line : Text) : Prop :=
  (line = [] ∨ isBodyComment line = true) ∧ '{' ∉ line ∧ '}' ∉ line

instance (line : Text) : Decidable (IsFiller line) :=
  inferInstanceAs (Decidable (_ ∧ _))

/-- The lines hold the statements, one a line and in order, and else only fillers. -/
inductive Spread : (statements ls : List Text) → Prop
  | nil : Spread [] []
  | statement (s : Text) {statements ls : List Text} (h : Spread statements ls) :
      Spread (s :: statements) ((s ++ [';']) :: ls)
  | filler {line : Text} {statements ls : List Text} (hline : IsFiller line)
      (h : Spread statements ls) : Spread statements (line :: ls)

theorem IsFiller.statementValue?_eq_none {line : Text} (hline : IsFiller line) :
    statementValue? line = none := by
  rcases hline.1 with rfl | hcomment
  · exact statementValue?_nil
  · exact statementValue?_of_isBodyComment hcomment

variable {statements ls : List Text}

theorem Spread.filterMap_eq (h : Spread statements ls)
    (hstatements : ∀ s ∈ statements, IsStatement s) :
    ls.filterMap statementValue? = declaredValues statements := by
  rw [← filterMap_statementValue? fun s hs => (hstatements s hs).trimmed]
  induction h with
  | nil => rfl
  | statement s h ih =>
    obtain ⟨hs, hrest⟩ := List.forall_mem_cons.mp hstatements
    rw [List.filterMap_cons, List.filterMap_cons, hs.statementValue?_concat, ih hrest]
  | filler hline h ih => rw [List.filterMap_cons_none hline.statementValue?_eq_none, ih hstatements]

theorem Spread.cases_of_mem (h : Spread statements ls) {line : Text} (hline : line ∈ ls) :
    IsFiller line ∨ ∃ s ∈ statements, line = s ++ [';'] := by
  induction h with
  | nil => cases hline
  | statement s h ih =>
    rcases List.mem_cons.mp hline with rfl | hline
    · exact Or.inr ⟨s, List.mem_cons_self, rfl⟩
    · exact (ih hline).imp_right fun ⟨t, ht, heq⟩ => ⟨t, List.mem_cons_of_mem _ ht, heq⟩
  | filler hfiller h ih =>
    rcases List.mem_cons.mp hline with rfl | hline
    · exact Or.inl hfiller
    · exact ih hline

theorem Spread.brace_not_mem (h : Spread statements ls)
    (hstatements : ∀ s ∈ statements, IsStatement s) : ∀ line ∈ ls, '}' ∉ line := by
  intro line hline
  rcases h.cases_of_mem hline with hfiller | ⟨s, hs, rfl⟩
  · exact hfiller.2.2
  · have hbrace := (hstatements s hs).plain '}' (by simp)
    simpa using hbrace

theorem Spread.enumValues_eq (h : Spread statements ls)
    (hstatements : ∀ s ∈ statements, IsStatement s) {name : Text} (hname : IsName name)
    (below : List Text) :
    enumValues (openingLine Keyword.enum.word name) (ls ++ closingLine :: below) =
      declaredValues statements := by
  rw [enumValues_openingLine hname (h.brace_not_mem hstatements), h.filterMap_eq hstatements]

/-! ### In a file -/

theorem lineName?_oneLineEnum {name : Text} (hname : IsName name) (statements : List Text) :
    Kind.enums.lineName? (oneLineEnum name statements) = some name :=
  Kind.name?_of_named (declaration?_oneLineEnum name statements)
    (nameBeforeBrace_append_cons hname _) hname.1

/-- A line of the body may declare something, but under a name with a semicolon. -/
theorem semicolon_mem_of_lineName? (hbrace : '{' ∉ s) {name : Text}
    (hline : Kind.enums.lineName? (s ++ [';']) = some name) : ';' ∈ name := by
  obtain ⟨rest, hrest, rfl⟩ := Kind.exists_of_name? hline
  have hwhole : s ++ [';'] = Keyword.enum.text ++ rest := declaration?_eq_some_iff.mp hrest
  have hmem : ';' ∈ Keyword.enum.text ++ rest := hwhole ▸ List.mem_append_right s List.mem_cons_self
  have hrestMem : ';' ∈ rest := (List.mem_append.mp hmem).resolve_left (by decide)
  have hrestBrace : '{' ∉ rest := by
    intro hopen
    have hall : '{' ∈ s ++ [';'] := hwhole ▸ List.mem_append_right _ hopen
    simp [hbrace] at hall
  show ';' ∈ trim (upTo '{' rest)
  rw [upTo_of_not_mem hrestBrace]
  exact mem_trimWhile hrestMem (by decide)

theorem Spread.not_mem_declared (h : Spread statements ls)
    (hstatements : ∀ s ∈ statements, IsStatement s) {name : Text} (hname : IsName name) :
    name ∉ Kind.enums.declared ls := by
  intro hmem
  obtain ⟨line, hline, hlineName⟩ := Kind.mem_declared.mp hmem
  rcases h.cases_of_mem hline with hfiller | ⟨s, hs, rfl⟩
  · have hnone : declaration? line = none := by
      rcases hfiller.1 with rfl | hcomment
      · rfl
      · exact declaration?_of_isBodyComment hcomment
    rw [Kind.lineName?, Kind.name?_of_undeclared hnone] at hlineName
    cases hlineName
  · have hsemicolon := semicolon_mem_of_lineName? ((hstatements s hs).plain '{' (by simp)) hlineName
    exact hname.not_mem (by decide) hsemicolon

/-- An enumeration has the same values on one line and on several: those that its statements
declare. -/
theorem values_on_one_line_and_on_several {name : Text} (hname : IsName name)
    (hstatements : ∀ s ∈ statements, IsStatement s) (hls : Spread statements ls) :
    (∀ above below, (readEnum ⟨above, oneLineEnum name statements, below⟩ name).values =
      declaredValues statements) ∧
    (∀ above below, (readEnum ⟨above, openingLine Keyword.enum.word name,
      ls ++ closingLine :: below⟩ name).values = declaredValues statements) ∧
    (∀ source above below, lines source = above ++ oneLineEnum name statements :: below →
      name ∉ Kind.enums.declared below →
      ∃ enum, (findings source).schema.enums.get? name = some enum ∧
        enum.values = declaredValues statements) ∧
    ∀ source above below, lines source =
        above ++ openingLine Keyword.enum.word name :: (ls ++ closingLine :: below) →
      name ∉ Kind.enums.declared below →
      ∃ enum, (findings source).schema.enums.get? name = some enum ∧
        enum.values = declaredValues statements := by
  have hone : ∀ above below, (readEnum ⟨above, oneLineEnum name statements, below⟩ name).values =
      declaredValues statements := fun _ => enumValues_oneLineEnum hname hstatements
  have hseveral : ∀ above below, (readEnum ⟨above, openingLine Keyword.enum.word name,
      ls ++ closingLine :: below⟩ name).values = declaredValues statements :=
    fun _ => hls.enumValues_eq hstatements hname
  refine ⟨hone, hseveral, fun source above below hsource honly => ?_,
    fun source above below hsource honly => ?_⟩
  · exact ⟨_, Kind.lawful_enums.get?_of_last hsource (lineName?_oneLineEnum hname statements) honly,
      hone _ _⟩
  · have hbelow : name ∉ Kind.enums.declared (ls ++ closingLine :: below) := by
      rw [Kind.declared_append, Kind.declared_cons_of_undeclared declaration?_closingLine,
        List.mem_append]
      exact not_or.mpr ⟨hls.not_mem_declared hstatements hname, honly⟩
    have hline : Kind.enums.lineName? (openingLine Keyword.enum.word name) = some name :=
      Kind.lineName?_openingLine (nameBeforeBrace_append hname) hname.1
    exact ⟨_, Kind.lawful_enums.get?_of_last hsource hline hbelow, hseveral _ _⟩

/-- Two values, and statements that declare none. -/
def statusStatements : List Text :=
  ["option allow_alias = true".toList, "ACTIVE = 5".toList, "reserved 3 to 4".toList,
    "= 7".toList, "IDLE=2 [deprecated = true]".toList]

def statusLines : List Text :=
  ["option allow_alias = true;".toList, "// Paid.".toList, "ACTIVE = 5;".toList, [],
    "reserved 3 to 4;".toList, "= 7;".toList, "* Idle. */".toList,
    "IDLE=2 [deprecated = true];".toList]

theorem spread_statusLines : Spread statusStatements statusLines :=
  .statement _ (.filler (by decide) (.statement _ (.filler (by decide)
    (.statement _ (.statement _ (.filler (by decide) (.statement _ .nil)))))))

/-- The enumeration below another one of its name, with its lines indented. -/
def statusSource : Text :=
  join ['\n'] (["enum Status \x7b OLD = 0; \x7d".toList, "enum Status \x7b".toList] ++
    statusLines.map ("\t  ".toList ++ ·) ++ ["\x7d".toList, "message Paid \x7b\x7d".toList])

theorem values_statusStatements :
    IsName "Status".toList ∧ (∀ s ∈ statusStatements, IsStatement s) ∧
    Spread statusStatements statusLines ∧
    (readEnum ⟨[], oneLineEnum "Status".toList statusStatements, []⟩ "Status".toList).values =
      ["ACTIVE".toList, "IDLE".toList] ∧
    ∃ enum, (findings statusSource).schema.enums.get? "Status".toList = some enum ∧
      enum.values = ["ACTIVE".toList, "IDLE".toList] := by
  have hname : IsName "Status".toList := by decide
  have hstatements : ∀ s ∈ statusStatements, IsStatement s := by decide +kernel
  have hvalues : declaredValues statusStatements = ["ACTIVE".toList, "IDLE".toList] := by
    decide +kernel
  have hlines : lines statusSource = ["enum Status \x7b OLD = 0; \x7d".toList] ++
      openingLine Keyword.enum.word "Status".toList ::
        (statusLines ++ closingLine :: ["message Paid \x7b\x7d".toList]) := by decide +kernel
  have hbelow : "Status".toList ∉ Kind.enums.declared ["message Paid \x7b\x7d".toList] := by
    decide +kernel
  obtain ⟨hone, -, -, hseveral⟩ :=
    values_on_one_line_and_on_several hname hstatements spread_statusLines
  obtain ⟨enum, hget, henum⟩ := hseveral statusSource _ _ hlines hbelow
  exact ⟨hname, hstatements, spread_statusLines, (hone [] []).trans hvalues, enum, hget,
    henum.trans hvalues⟩

end RpcReference.Source
