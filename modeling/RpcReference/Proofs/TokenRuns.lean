import RpcReference.Proofs.LexerRuns
/-!
# Runs over single tokens

What the lexer does at a scalar, at the brackets and commas of a flow sequence, at the hyphen of an
item, and at a key with its colon.
-/

namespace RpcReference.Yaml.Lexer

open Text

variable {s m : Lexer} {v : View} {rest : Text} {column depth : Nat} {indents : List Nat}
  {keyAllowed : Bool} {tokens : List Token}

/-! ### Flow sequences -/

theorem atLimit_cons {c : Char} (hc : c ≠ '-' ∧ c ≠ '.') (mark : Mark) (rest : Text) :
    mark.atLimit (c :: rest) = false := by
  have hlimit : atDocumentLimit (c :: rest) = false := by
    unfold atDocumentLimit
    split
    · next heq => exact absurd (List.cons.inj heq).1 hc.1
    · next heq => exact absurd (List.cons.inj heq).1 hc.2
    · rfl
  rw [Mark.atLimit, hlimit, Bool.and_false]

/-- An opening bracket. No key can begin with it, where a value is expected. -/
theorem leads_flowSequenceStart (hindents : indents.head?.all (· ≤ column) = true) (rest : Text)
    (tokens : List Token) :
    View.Leads ⟨'[' :: rest, column, indents, 0, false, tokens⟩
      ⟨rest, column + 1, indents, 1, true, tokens ++ [.flowSequenceStart]⟩ := by
  refine leads_of_token (.of_ne rfl (by decide) (by decide)) rfl (.inr hindents)
    (Nat.le_refl _) fun m hm => ?_
  have htoken : m.token? '[' rest = m.openFlow? .flowSequenceStart := by
    simp [token?, atLimit_cons]
  obtain ⟨key, hnote, hm'⟩ := hm.exists_noteKey? (.inl rfl)
  rw [htoken, openFlow?, hnote]
  refine ⟨_, rfl, ?_⟩
  exact {
    rest := congrArg (List.drop 1) hm.rest
    column := congrArg (· + 1) hm'.column
    indents := hm'.indents
    depth := congrArg (· + 1) hm'.depth
    keyAllowed := rfl
    tokens := congrArg (· ++ [Token.flowSequenceStart]) hm'.tokens
    key := free_none
    outerKeys := List.forall_mem_cons.mpr ⟨hm'.key, hm'.outerKeys⟩ }

theorem leads_flowSequenceEnd (rest : Text) (column : Nat) (indents : List Nat) (depth : Nat)
    (keyAllowed : Bool) (tokens : List Token) :
    View.Leads ⟨']' :: rest, column, indents, depth + 1, keyAllowed, tokens⟩
      ⟨rest, column + 1, indents, depth, false, tokens ++ [.flowSequenceEnd]⟩ := by
  refine leads_of_token (.of_ne rfl (by decide) (by decide)) rfl (.inl (Nat.succ_ne_zero _))
    (Nat.le_refl _) fun m hm => ?_
  have htoken : m.token? ']' rest = m.closeFlow? .flowSequenceEnd := by
    simp [token?, atLimit_cons]
  obtain ⟨key, keys, hkeys⟩ : ∃ key keys, m.outerKeys = key :: keys := by
    refine List.exists_cons_of_ne_nil fun hnil => ?_
    have hdepth := hm.depth
    rw [hnil] at hdepth
    cases hdepth
  have hfree := hm.outerKeys
  have hdepth := hm.depth
  rw [hkeys, List.length_cons] at hdepth
  rw [hkeys, List.forall_mem_cons] at hfree
  rw [htoken, closeFlow?, hm.dropKey?_eq]
  refine ⟨{ { m.skip 1 with keyAllowed := false }.emit .flowSequenceEnd with
    key, outerKeys := keys }, ?_, ?_⟩
  · simp [skip, emit, hkeys]
  · exact {
      rest := congrArg (List.drop 1) hm.rest
      column := congrArg (· + 1) hm.column
      indents := hm.indents
      depth := Nat.succ.inj hdepth
      keyAllowed := rfl
      tokens := congrArg (· ++ [Token.flowSequenceEnd]) hm.tokens
      key := hfree.1
      outerKeys := hfree.2 }

theorem leads_flowEntry (rest : Text) (column : Nat) (indents : List Nat) (depth : Nat)
    (keyAllowed : Bool) (tokens : List Token) :
    View.Leads ⟨',' :: rest, column, indents, depth + 1, keyAllowed, tokens⟩
      ⟨rest, column + 1, indents, depth + 1, true, tokens ++ [.flowEntry]⟩ := by
  refine leads_of_token (.of_ne rfl (by decide) (by decide)) rfl (.inl (Nat.succ_ne_zero _))
    (Nat.le_refl _) fun m hm => ?_
  have htoken : m.token? ',' rest = m.flowEntry? := by simp [token?, atLimit_cons]
  rw [htoken, flowEntry?, hm.dropKey?_eq]
  exact ⟨_, rfl, { hm.dropKey with
    rest := congrArg (List.drop 1) hm.rest
    column := congrArg (· + 1) hm.column
    keyAllowed := rfl
    tokens := congrArg (· ++ [Token.flowEntry]) hm.tokens }⟩

/-! ### Scalars -/

theorem Shows.emitScalar (hs : s.Shows v) (scanned : Scanned Text) (style : ScalarStyle)
    (keyAllowed : Bool) :
    (s.emitScalar scanned style keyAllowed).Shows ⟨scanned.rest, scanned.mark.column, v.indents,
      v.depth, keyAllowed, v.tokens ++ [.scalar scanned.value style]⟩ :=
  { hs with
    rest := rfl
    column := rfl
    keyAllowed := rfl
    tokens := congrArg (· ++ [Token.scalar scanned.value style]) hs.tokens }

/-- A scalar in double quotes, where a value or an item of a flow sequence is expected. -/
theorem leads_doubleQuoted {t : Text} (ht : Unbroken t)
    (hblocks : View.InBlocks ⟨doubleQuoted t ++ rest, column, indents, depth, keyAllowed, tokens⟩)
    (hplace : keyAllowed = false ∨ depth ≠ 0) :
    View.Leads ⟨doubleQuoted t ++ rest, column, indents, depth, keyAllowed, tokens⟩
      ⟨rest, column + (doubleQuoted t).length, indents, depth, false,
        tokens ++ [.scalar t .doubleQuoted]⟩ := by
  have htext : doubleQuoted t ++ rest = '"' :: (t.flatMap escaped ++ '"' :: rest) := by
    simp [doubleQuoted]
  have hle : rest.length ≤ (t.flatMap escaped ++ '"' :: rest).length := by
    rw [List.length_append, List.length_cons]
    omega
  refine leads_of_token (.of_ne rfl (by decide) (by decide)) htext
    hblocks hle fun m hm => ?_
  have htoken : m.token? '"' (t.flatMap escaped ++ '"' :: rest) = m.doubleQuotedToken? := by
    simp [token?, atLimit_cons]
  have hrest : m.rest.drop 1 = t.flatMap escaped ++ '"' :: rest := by
    rw [hm.rest]
    exact congrArg (List.drop 1) htext
  have hlength : (doubleQuoted t).length = 1 + ((t.flatMap escaped).length + 1) := by
    rw [doubleQuoted, List.length_cons, List.length_append, List.length_singleton, Nat.add_comm]
  have hscan : doubleQuoted? (.text .empty) (m.mark.forward 1) (m.rest.drop 1) =
      some ⟨t, m.mark.forward (doubleQuoted t).length, rest⟩ := by
    rw [hrest, Gap.empty, doubleQuoted?_escaped ht _ (Nat.succ_pos _), Mark.forward_forward,
      hlength]
    rfl
  obtain ⟨key, hnote, hm'⟩ := hm.exists_noteKey? (hplace.imp_right .inl)
  have hshows :=
    hm'.emitScalar ⟨t, m.mark.forward (doubleQuoted t).length, rest⟩ .doubleQuoted false
  rw [Mark.forward_column, hm.column] at hshows
  refine ⟨_, ?_, hshows⟩
  rw [htoken, doubleQuotedToken?, hnote]
  simp only [Option.bind_eq_bind, Option.bind_some, hscan]
  rfl

theorem atWhite_append_eq_false {t : Text} (ht : Unbroken t)
    (hhead : t.head?.any (! isSpaceOrTab ·) = true) (after : Text) :
    atWhite (t ++ after) = false := by
  cases t with
  | nil => cases hhead
  | cons c t =>
    have hblank : isSpaceOrTab c = false := by simpa using hhead
    exact (isWhite_eq (ht c List.mem_cons_self)).trans hblank

theorem StartsToken.of_plain {c : Char} {t : Text} (ht : IsPlainText (c :: t))
    (hmark : c = byteOrderMark → column ≠ 0) : StartsToken column c where
  notWhite := (isWhite_eq (ht.unbroken c List.mem_cons_self)).trans ht.begins.1
  notComment := by
    rintro rfl
    exact absurd (ht.begins.2 rfl).1 (by decide)
  notMark := hmark

/-- A token that begins like a plain scalar is one. -/
theorem token?_plain {c : Char} {t after : Text} (ht : IsPlainText (c :: t))
    (hflow : m.inFlow = false) (hlimit : m.mark.atLimit (c :: (t ++ after)) = false) :
    m.token? c (t ++ after) = m.plainToken? := by
  obtain ⟨hblank, hindicator⟩ := ht.begins
  cases hc : isIndicator c with
  | false =>
    have hne (d : Char) (hd : isIndicator d = true) : c ≠ d := by
      rintro rfl
      exact absurd (hc.symm.trans hd) Bool.false_ne_true
    have hwhite : isWhite c = false := (isWhite_eq (ht.unbroken c List.mem_cons_self)).trans hblank
    simp [token?, hlimit, startsPlain, hwhite, hc, hne '%' rfl, hne '[' rfl, hne '\x7b' rfl,
      hne ']' rfl, hne '\x7d' rfl, hne ',' rfl, hne '-' rfl, hne '?' rfl, hne ':' rfl, hne '*' rfl,
      hne '&' rfl, hne '!' rfl, hne '|' rfl, hne '>' rfl, hne '\x27' rfl, hne '"' rfl]
  | true =>
    obtain ⟨hmem, hhead⟩ := hindicator hc
    have hwhite : atWhite (t ++ after) = false :=
      atWhite_append_eq_false (List.forall_mem_cons.mp ht.unbroken).2 hhead after
    have hspace : (t ++ after).head?.any isSpaceOrTab = false := by
      cases t with
      | nil => cases hhead
      | cons d t => simpa using hhead
    simp only [List.mem_cons, List.not_mem_nil, or_false] at hmem
    have hstarts : startsPlain false c (t ++ after) = true := by
      rw [startsPlain, hspace, hwhite]
      obtain rfl | rfl | rfl := hmem <;> rfl
    obtain rfl | rfl | rfl := hmem <;> simp [token?, hlimit, hstarts, hflow, hwhite]

theorem Shows.plainToken?_eq {t after next : Text} {mark : Mark} {broken : Bool}
    {key : Option KeyPlace} (hs : s.Shows ⟨t ++ after, column, indents, 0, keyAllowed, tokens⟩)
    (ht : IsPlainText t) (hblocks : indents.head?.all (· ≤ column) = true)
    (hnote : s.noteKey? = some { s with key })
    (hafter : plain? ⟨false, indents.head?.elim 0 (· + 1)⟩ .empty (s.mark.forward t.length) after =
      some (⟨[], mark, next⟩, broken)) :
    s.plainToken? = some (Lexer.emitScalar { s with key } ⟨t, mark, next⟩ .plain broken) := by
  have hindent : indents.head?.elim 0 (· + 1) ≤ s.mark.column + 1 := by
    rw [hs.column]
    cases indents with
    | nil => exact Nat.zero_le _
    | cons indent indents => exact Nat.succ_le_succ (by simpa using hblocks)
  have hflow : s.inFlow = false := hs.inFlow
  have hscan : plain? ⟨s.inFlow, s.indents.head?.elim 0 (· + 1)⟩ .empty s.mark s.rest =
      some (⟨t, mark, next⟩, broken) := by
    rw [hflow, hs.indents, hs.rest, Gap.empty, plain?_text rfl ht.goesOn hindent (absurd rfl ·),
      hafter]
    simp [Scanned.after]
  rw [plainToken?, hnote]
  change (plain? ⟨s.inFlow, s.indents.head?.elim 0 (· + 1)⟩ .empty s.mark s.rest).bind _ = _
  rw [hscan]
  rfl

theorem column_past {spacing : Text} (hspacing : IsSpacing spacing) (mark : Mark) :
    (mark.past spacing).column = columnPast mark.column spacing := by
  induction spacing generalizing mark with
  | nil => rfl
  | cons c spacing ih =>
    obtain ⟨hc, htail⟩ := List.forall_mem_cons.mp hspacing
    rw [Mark.past_cons, ih htail]
    obtain rfl | rfl := hc <;> rfl

/-- A plain scalar behind other tokens of its line, in front of a text that ends it. -/
theorem leads_plainToken {c : Char} {t after next : Text} {column' : Nat} {broken : Bool}
    (ht : IsPlainText (c :: t)) (hcolumn : 0 < column)
    (hblocks : indents.head?.all (· ≤ column) = true)
    (hplace : keyAllowed = false ∨ indents.head? ≠ some column) (hle : next.length ≤ after.length)
    (hafter : ∀ mark : Mark, mark.column = column + (c :: t).length →
      ∃ mark', mark'.column = column' ∧
        plain? ⟨false, indents.head?.elim 0 (· + 1)⟩ .empty mark after =
          some (⟨[], mark', next⟩, broken)) (tokens : List Token) :
    View.Leads ⟨c :: (t ++ after), column, indents, 0, keyAllowed, tokens⟩
      ⟨next, column', indents, 0, broken, tokens ++ [.scalar (c :: t) .plain]⟩ := by
  have hle' : next.length ≤ (t ++ after).length := by
    rw [List.length_append]
    omega
  refine leads_of_token (.of_plain ht fun _ => Nat.ne_of_gt hcolumn) rfl (.inr hblocks) hle'
    fun m hm => ?_
  obtain ⟨key, hnote, hm'⟩ := hm.exists_noteKey? (hplace.imp_right .inr)
  obtain ⟨mark, hmark, hscan⟩ := hafter (m.mark.forward (c :: t).length)
    (congrArg (· + (c :: t).length) hm.column)
  have hshows := hm'.emitScalar ⟨c :: t, mark, next⟩ .plain broken
  rw [hmark] at hshows
  refine ⟨_, ?_, hshows⟩
  have hlimit : m.mark.atLimit (c :: (t ++ after)) = false :=
    Mark.atLimit_of_pos (by rw [hm.column]; exact hcolumn) _
  rw [token?_plain ht hm.inFlow hlimit, hm.plainToken?_eq (t := c :: t) ht hblocks hnote hscan]

/-- A plain scalar in front of the end of the text, or of a later line that is indented less than it
would have to be to go on with the scalar. -/
theorem leads_plain {c : Char} {t spacing next : Text} (ht : IsPlainText (c :: t))
    (hcolumn : 0 < column) (hblocks : indents.head?.all (· ≤ column) = true)
    (hplace : keyAllowed = false ∨ indents.head? ≠ some column) (hspacing : IsSpacing spacing)
    (hnext : next = [] ∨ '\n' ∈ spacing ∧ atWhite next = false ∧
      columnPast (column + (c :: t).length) spacing < indents.head?.elim 0 (· + 1))
    (tokens : List Token) :
    View.Leads ⟨c :: (t ++ (spacing ++ next)), column, indents, 0, keyAllowed, tokens⟩
      ⟨next, columnPast (column + (c :: t).length) spacing, indents, 0, spacing.contains '\n',
        tokens ++ [.scalar (c :: t) .plain]⟩ := by
  refine leads_plainToken ht hcolumn hblocks hplace (by rw [List.length_append]; omega)
    (fun mark hmark => ⟨mark.past spacing, by rw [column_past hspacing, hmark], ?_⟩) tokens
  refine plain?_spacing rfl hspacing .empty ?_
  rw [column_past hspacing, hmark]
  exact hnext.imp_right fun ⟨hbreak, hwhite⟩ => ⟨.inr hbreak, hwhite⟩

/-! ### Items -/

theorem openBlock_eq (hflow : s.inFlow = false) (h : s.indents.head?.all (· < column) = true)
    (position : Nat) (token : Token) :
    s.openBlock column position token = { s with
      indents := column :: s.indents, tokens := s.tokens.insertIdx position token } := by
  rw [openBlock, hflow, h]
  rfl

theorem openBlock_eq_self (h : s.indents.head?.all (· < column) = false) (position : Nat)
    (token : Token) : s.openBlock column position token = s := by
  rw [openBlock, h, Bool.and_false, if_neg Bool.false_ne_true]

theorem Shows.openBlock (hs : s.Shows ⟨rest, column, indents, 0, keyAllowed, tokens⟩)
    (hindents : indents.head?.all (· < column) = true) (token : Token) :
    Shows (s.openBlock s.mark.column s.tokens.length token)
      ⟨rest, column, column :: indents, 0, keyAllowed, tokens ++ [token]⟩ := by
  have hhead : s.indents.head?.all (· < s.mark.column) = true := by
    rw [hs.indents, hs.column]
    exact hindents
  rw [openBlock_eq hs.inFlow hhead, List.insertIdx_length_self]
  exact { hs with
    indents := congrArg₂ List.cons hs.column hs.indents
    tokens := congrArg (· ++ [token]) hs.tokens }

theorem openBlockHere?_eq (hs : s.Shows v) (hdepth : v.depth = 0) (hallowed : v.keyAllowed = true)
    (token : Token) :
    s.openBlockHere? token = some (s.openBlock s.mark.column s.tokens.length token) := by
  have hflow : s.inFlow = false := by rw [hs.inFlow, hdepth]; rfl
  rw [openBlockHere?, if_neg (by rw [hflow]; exact Bool.false_ne_true),
    if_pos (hs.keyAllowed.trans hallowed)]

theorem Shows.exists_blockEntry? (h : s.openBlockHere? .blockSequenceStart = some m)
    (hm : m.Shows ⟨'-' :: rest, column, indents, depth, keyAllowed, tokens⟩) :
    ∃ s', s.blockEntry? = some s' ∧
      s'.Shows ⟨rest, column + 1, indents, depth, true, tokens ++ [.blockEntry]⟩ := by
  rw [ blockEntry?, h]
  simp only [Option.bind_eq_bind, Option.bind_some, hm.dropKey?_eq]
  exact ⟨_, rfl, { hm.dropKey with
    rest := congrArg (List.drop 1) hm.rest
    column := congrArg (· + 1) hm.column
    keyAllowed := rfl
    tokens := congrArg (· ++ [Token.blockEntry]) hm.tokens }⟩

theorem token?_hyphen (hwhite : atWhite rest = true)
    (hlimit : m.mark.atLimit ('-' :: rest) = false) : m.token? '-' rest = m.blockEntry? := by
  simp [token?, hlimit, hwhite]

/-- The hyphen of the first item of a sequence opens a block. -/
theorem leads_firstItem (hwhite : atWhite rest = true) (hcolumn : 0 < column)
    (hindents : indents.head?.all (· < column) = true) (tokens : List Token) :
    View.Leads ⟨'-' :: rest, column, indents, 0, true, tokens⟩
      ⟨rest, column + 1, column :: indents, 0, true,
        tokens ++ [.blockSequenceStart] ++ [.blockEntry]⟩ := by
  have hblocks : indents.head?.all (· ≤ column) = true := by
    cases indents with
    | nil => rfl
    | cons indent indents => simpa using Nat.le_of_lt (by simpa using hindents)
  refine leads_of_token (.of_ne rfl (by decide) (by decide)) rfl (.inr hblocks)
    (Nat.le_refl _) fun m hm => ?_
  rw [token?_hyphen hwhite (Mark.atLimit_of_pos (by rw [hm.column]; exact hcolumn) _)]
  exact Shows.exists_blockEntry? (openBlockHere?_eq hm rfl rfl _) (hm.openBlock hindents _)

theorem leads_nextItem (hwhite : atWhite rest = true) (hcolumn : 0 < column) (indents : List Nat)
    (tokens : List Token) :
    View.Leads ⟨'-' :: rest, column, column :: indents, 0, true, tokens⟩
      ⟨rest, column + 1, column :: indents, 0, true, tokens ++ [.blockEntry]⟩ := by
  refine leads_of_token (.of_ne rfl (by decide) (by decide)) rfl
    (.inr (by simp)) (Nat.le_refl _) fun m hm => ?_
  have hself : m.openBlock m.mark.column m.tokens.length .blockSequenceStart = m :=
    openBlock_eq_self (by simp [hm.indents, hm.column]) _ _
  rw [token?_hyphen hwhite (Mark.atLimit_of_pos (by rw [hm.column]; exact hcolumn) _)]
  exact Shows.exists_blockEntry? (openBlockHere?_eq hm rfl rfl _) (by rwa [hself])

/-! ### Keys -/

theorem insertIdx_length_append {α : Type} (l r : List α) (a : α) :
    (l ++ r).insertIdx l.length a = l ++ a :: r := by
  induction l with
  | nil => rfl
  | cons b l ih =>
    rw [List.cons_append, List.length_cons, List.insertIdx_succ_cons, ih]
    rfl

theorem plain?_colon (hwhite : atWhite rest = true) (context : PlainContext) (mark : Mark) :
    plain? context .empty mark (':' :: rest) = some (⟨[], mark, ':' :: rest⟩, false) := by
  have hstops : context.stops .empty mark ':' rest = true := by
    rw [PlainContext.stops, hwhite]
    simp
  rw [plain?, if_neg (by decide), if_pos hstops]
  rfl

/-- A plain scalar ends in front of the colon of a key. -/
theorem Shows.token?_eq_of_colon {c : Char} {t : Text} {key : Option KeyPlace}
    (hm : m.Shows ⟨c :: (t ++ ':' :: rest), column, indents, 0, keyAllowed, tokens⟩)
    (ht : IsPlainText (c :: t)) (hwhite : atWhite rest = true)
    (hblocks : indents.head?.all (· ≤ column) = true)
    (hlimit : m.mark.atLimit (c :: (t ++ ':' :: rest)) = false)
    (hnote : m.noteKey? = some { m with key }) :
    m.token? c (t ++ ':' :: rest) = some (Lexer.emitScalar { m with key }
      ⟨c :: t, m.mark.forward (c :: t).length, ':' :: rest⟩ .plain false) := by
  rw [token?_plain ht hm.inFlow hlimit, hm.plainToken?_eq (t := c :: t) ht hblocks hnote
    (plain?_colon hwhite _ _)]

/-- The tokens in front of the first key of a block mapping. -/
def opening (indents : List Nat) : List Token :=
  if indents = [] then [.blockMappingStart] else []

/-- The lexer is at the colon behind a scalar that began its line and so may be a key. -/
structure AtColon (s : Lexer) (rest : Text) (column : Nat) (indents : List Nat)
    (before : List Token) (scalar : Token) : Prop where
  place : ∃ place, s.key = some place ∧ KeyPlace.expired place s.mark = false ∧
    place.mark.column = 0 ∧ place.position = before.length
  view : Shows { s with key := none }
    ⟨':' :: rest, column, indents, 0, false, before ++ [scalar]⟩

/-- A scalar at the beginning of a line, in front of a colon. -/
theorem Shows.exists_atColon {c : Char} {t : Text}
    (hs : s.Shows ⟨c :: (t ++ ':' :: rest), 0, indents, 0, true, tokens⟩)
    (ht : IsPlainText (c :: t)) (hc : c ≠ '-' ∧ c ≠ '.' ∧ c ≠ byteOrderMark) (hlength : t.length < 1024)
    (hwhite : atWhite rest = true) (hblocks : indents.head?.all (· ≤ 0) = true) :
    ∃ k : Lexer, Reads s k ∧
      k.AtColon rest (0 + (c :: t).length) indents tokens (.scalar (c :: t) .plain) := by
  obtain ⟨m, hsettled, hm⟩ := StartsToken.exists_settled? (v := ⟨_, 0, indents, 0, true, tokens⟩)
    (.of_plain ht fun h => absurd h hc.2.2) hs rfl (.inr hblocks)
  have htoken := hm.token?_eq_of_colon ht hwhite hblocks (atLimit_cons ⟨hc.1, hc.2.1⟩ _ _)
    (hm.noteKey?_eq rfl)
  refine ⟨_, Reads.of_token hsettled hm.rest htoken ?_, ⟨_, rfl, ?_, hm.column, ?_⟩, ?_⟩
  · rw [hs.rest]
    exact Nat.lt_succ_of_le (List.suffix_append t (':' :: rest)).length_le
  · change (decide (m.mark.line < m.mark.line) ||
      decide (m.mark.index + 1024 < m.mark.index + (c :: t).length)) = false
    rw [List.length_cons, decide_eq_false (Nat.lt_irrefl _), decide_eq_false (by omega)]
    rfl
  · exact congrArg List.length hm.tokens
  · exact { hm.dropKey with
      rest := rfl
      column := congrArg (· + (c :: t).length) hm.column
      keyAllowed := rfl
      tokens := congrArg (· ++ [Token.scalar (c :: t) .plain]) hm.tokens }

namespace AtColon

variable {before : List Token} {scalar : Token}

/-- The place of the key is still there when the colon is read. -/
theorem settled?_eq (hs : s.AtColon rest column indents before scalar)
    (hblocks : indents.head?.all (· ≤ column) = true) : s.settled? = some s := by
  obtain ⟨place, hkey, hexpired, -⟩ := hs.place
  refine hs.view.settled?_eq (fun place' hplace => ?_) (.of_ne rfl (by decide) (by decide)) hblocks
  obtain rfl := Option.some.inj (hkey.symm.trans hplace)
  exact hexpired

/-- The colon turns the scalar in front of it into a key. -/
theorem exists_valueMark? (hs : s.AtColon rest column indents before scalar)
    (hindents : indents = [] ∨ indents = [0]) :
    ∃ s', s.valueMark? = some s' ∧ s'.key = none ∧ s'.Shows ⟨rest, column + 1, [0], 0, false,
      before ++ opening indents ++ [.key, scalar, .value]⟩ := by
  obtain ⟨place, hkey, -, hplace, hposition⟩ := hs.place
  have htokens : s.tokens.insertIdx place.position .key = before ++ [.key, scalar] := by
    have h : s.tokens = before ++ [scalar] := hs.view.tokens
    rw [h, hposition, insertIdx_length_append]
  have hopen : openBlock { s with key := some place, tokens := before ++ [.key, scalar] } 0
      before.length .blockMappingStart = { s with
        key := some place
        indents := [0]
        tokens := before ++ opening indents ++ [.key, scalar] } := by
    have hs' : s.indents = indents := hs.view.indents
    obtain rfl | rfl := hindents
    · rw [openBlock_eq (s := { s with key := some place, tokens := before ++ [.key, scalar] })
        hs.view.inFlow (by rw [hs']; rfl), hs', insertIdx_length_append, opening, if_pos rfl,
        List.append_assoc]
      rfl
    · rw [openBlock_eq_self (by rw [hs']; rfl), opening, if_neg (List.cons_ne_nil 0 []),
        List.append_nil, ← hs']
  rw [valueMark?, hkey]
  dsimp only
  rw [htokens, hplace, hposition, hopen]
  exact ⟨_, rfl, rfl, { hs.view with
    rest := congrArg (List.drop 1) hs.view.rest
    column := congrArg (· + 1) hs.view.column
    indents := rfl
    keyAllowed := rfl
    tokens := by simp [emit, skip] }⟩

end AtColon

/-- A key at the beginning of a line is read with its colon. The first key opens the block of the
mapping. -/
theorem Shows.exists_key {c : Char} {t : Text}
    (hs : s.Shows ⟨c :: (t ++ ':' :: rest), 0, indents, 0, true, tokens⟩)
    (ht : IsPlainText (c :: t)) (hc : c ≠ '-' ∧ c ≠ '.' ∧ c ≠ byteOrderMark) (hlength : t.length < 1024)
    (hwhite : atWhite rest = true) (hindents : indents = [] ∨ indents = [0]) :
    ∃ s' : Lexer, s.Reads s' ∧ s'.key = none ∧
      s'.Shows ⟨rest, 0 + (c :: t).length + 1, [0], 0, false,
        tokens ++ opening indents ++ [.key, .scalar (c :: t) .plain, .value]⟩ := by
  have hblocks (column : Nat) : indents.head?.all (· ≤ column) = true := by
    obtain rfl | rfl := hindents
    · rfl
    · simp
  obtain ⟨k, hreads, hk⟩ := hs.exists_atColon ht hc hlength hwhite (hblocks 0)
  obtain ⟨s', hvalue, hkey, hs'⟩ := hk.exists_valueMark? hindents
  have htoken : k.token? ':' rest = some s' := by
    rw [← hvalue]
    simp [token?, atLimit_cons, hwhite]
  refine ⟨s', hreads.trans ?_, hkey, hs'⟩
  refine Reads.of_token (hk.settled?_eq (hblocks _)) hk.view.rest htoken ?_
  rw [hs'.rest, show k.rest = ':' :: rest from hk.view.rest]
  exact Nat.lt_succ_self _

/-! ### Whole texts -/

theorem closeBlocks_eq (hflow : s.inFlow = false) (count : Nat) :
    s.closeBlocks count = { s with
      indents := s.indents.drop count
      tokens := s.tokens ++ List.replicate count .blockEnd } := by
  rw [closeBlocks, hflow]
  rfl

theorem closeAll_closeBlocks (hflow : s.inFlow = false) {count : Nat}
    (hcount : count ≤ s.indents.length) :
    (s.closeBlocks count).closeAll = { s with
      indents := [], tokens := s.tokens ++ List.replicate s.indents.length .blockEnd } := by
  have hcounts : count + (s.indents.length - count) = s.indents.length := by omega
  have hflow' : (s.closeBlocks count).inFlow = false := by
    rw [closeBlocks_eq hflow]
    exact hflow
  rw [closeAll, closeBlocks_eq hflow', closeBlocks_eq hflow]
  simp [List.replicate_append_replicate, hcounts]

/-- At the end of the text the open blocks are closed. -/
theorem Shows.run?_end (hs : s.Shows ⟨[], column, indents, 0, keyAllowed, tokens⟩) (bound : Nat) :
    s.run? (bound + 1) = some (tokens ++ List.replicate indents.length .blockEnd) := by
  obtain ⟨m, hexpire, hm⟩ := hs.exists_expireKeys?
  have hrest : s.rest = [] := hs.rest
  have htoToken : s.toToken = s := by
    rw [toToken, hrest, skipWhite, ← hrest]
  have hrest' : m.closeToColumn.rest = [] := by
    rw [closeToColumn, closeBlocks]
    split <;> exact hm.rest
  have hclosed : m.closeToColumn.closeAll = { m with
      indents := [], tokens := tokens ++ List.replicate indents.length .blockEnd } := by
    rw [closeToColumn, closeAll_closeBlocks hm.inFlow (List.takeWhile_prefix _).length_le,
      hm.tokens, hm.indents]
  rw [run?_succ, settled?, htoToken, hexpire, Option.map_some, Option.bind_some, hrest']
  dsimp only
  rw [hclosed, dropKey?, giveUp?_of_free hm.key]
  rfl

theorem start_shows (t : Text) : (Lexer.start t).Shows ⟨t, 0, [], 0, true, []⟩ where
  rest := rfl
  column := rfl
  indents := rfl
  depth := rfl
  keyAllowed := rfl
  tokens := rfl
  key := free_none
  outerKeys := List.forall_mem_nil _

end RpcReference.Yaml.Lexer

namespace RpcReference.Yaml

open Text

/-- All characters may occur, and line feeds are the only line ends that are unified. -/
def IsClean (t : Text) : Prop :=
  ∀ c ∈ t, isAllowed c = true ∧ c ≠ '\r' ∧ c ≠ '\u0085'

instance (t : Text) : Decidable (IsClean t) :=
  List.decidableBAll (fun c => isAllowed c = true ∧ c ≠ '\r' ∧ c ≠ '\u0085') t

@[simp] theorem isClean_append {t u : Text} : IsClean (t ++ u) ↔ IsClean t ∧ IsClean u :=
  List.forall_mem_append

@[simp] theorem isClean_cons {c : Char} {t : Text} :
    IsClean (c :: t) ↔ (isAllowed c = true ∧ c ≠ '\r' ∧ c ≠ '\u0085') ∧ IsClean t :=
  List.forall_mem_cons

theorem isClean_flatMap {α : Type} {f : α → Text} {as : List α} (h : ∀ a ∈ as, IsClean (f a)) :
    IsClean (as.flatMap f) := by
  intro c hc
  obtain ⟨a, ha, hc⟩ := List.mem_flatMap.mp hc
  exact h a ha c hc

theorem IsSpacing.isClean {t : Text} (ht : IsSpacing t) : IsClean t := by
  intro c hc
  obtain rfl | rfl := ht c hc <;> decide

theorem isClean_doubleQuoted {t : Text} (ht : IsClean t) : IsClean (doubleQuoted t) := by
  have hescaped : IsClean (t.flatMap escaped) := by
    refine isClean_flatMap fun c hc => ?_
    rw [escaped]
    split
    · exact isClean_cons.mpr ⟨by decide, List.forall_mem_singleton.mpr (ht c hc)⟩
    · exact List.forall_mem_singleton.mpr (ht c hc)
  exact isClean_cons.mpr ⟨by decide, isClean_append.mpr ⟨hescaped, by decide⟩⟩

theorem IsClean.unifyBreaks_eq {t : Text} (ht : IsClean t) : unifyBreaks t = t := by
  induction t with
  | nil => rfl
  | cons c t ih =>
    obtain ⟨⟨-, hreturn, hnext⟩, ht⟩ := List.forall_mem_cons.mp ht
    have hc : (if isFeed c then '\n' else c) = c := by
      by_cases h : c = '\n'
      · rw [h]
        rfl
      · simp [isFeed, h, hreturn, hnext]
    rw [unifyBreaks, if_neg (fun h => hreturn h.1), hc, ih ht]

/-- The bound on the number of tokens is enough for every state on the way. -/
theorem exists_tokens?_eq {t : Text} (ht : IsClean t) {s : Lexer}
    (hreads : (Lexer.start t).Reads s) : ∃ bound, tokens? t = s.run? (bound + 1) := by
  obtain ⟨count, hlength, hrun⟩ := hreads
  have hallowed : t.all isAllowed = true := List.all_eq_true.mpr fun c hc => (ht c hc).1
  have hcount : count ≤ t.length := Nat.le_of_add_right_le hlength
  have hbound : t.length + 1 = count + (t.length - count + 1) := by omega
  refine ⟨t.length - count, ?_⟩
  rw [tokens?, if_pos hallowed, ht.unifyBreaks_eq, hbound, hrun]

theorem tokens?_of_leads {t : Text} {column : Nat} {indents : List Nat} {keyAllowed : Bool}
    {tokens : List Token} (ht : IsClean t)
    (h : Lexer.View.Leads ⟨t, 0, [], 0, true, []⟩ ⟨[], column, indents, 0, keyAllowed, tokens⟩) :
    tokens? t = some (tokens ++ List.replicate indents.length .blockEnd) := by
  obtain ⟨s, hreads, hs⟩ := h (Lexer.start t) (Lexer.start_shows t)
  obtain ⟨bound, htokens⟩ := exists_tokens?_eq ht hreads
  rw [htokens, hs.run?_end]

end RpcReference.Yaml
