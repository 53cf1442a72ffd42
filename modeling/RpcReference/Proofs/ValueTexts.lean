import RpcReference.Proofs.MappingNodes
import RpcReference.Proofs.TokenRuns
/-!
# Values of a mapping

Four ways to write the value of a key: a plain scalar or one in double quotes on the line of the
key, a flow sequence on that line, and a block sequence of plain scalars on the lines below it.
-/

namespace RpcReference.Yaml

open Text

/-! ### Lists in writing -/

/-- The items of a block sequence, each on a line of its own. -/
def itemLines (ts : List Text) : Text :=
  ts.flatMap fun t => '\n' :: ' ' :: ' ' :: '-' :: ' ' :: t

theorem itemLines_cons_append (t : Text) (ts : List Text) (rest : Text) :
    itemLines (t :: ts) ++ rest =
      '\n' :: (List.replicate 2 ' ' ++ '-' :: ' ' :: (t ++ (itemLines ts ++ rest))) := by
  rw [itemLines, List.flatMap_cons, List.append_assoc]
  rfl

/-- How an item of a flow sequence is written: in double quotes, between blanks. -/
structure FlowItem where
  before : Nat
  text : Text
  after : Nat
  deriving DecidableEq, Repr

def FlowItem.written (item : FlowItem) : Text :=
  List.replicate item.before ' ' ++ (doubleQuoted item.text ++ List.replicate item.after ' ')

/-- A flow sequence, with blanks in front of the first item. -/
def flowSequence (blanks : Nat) (items : List FlowItem) : Text :=
  '[' :: (List.replicate blanks ' ' ++ (join [','] (items.map FlowItem.written) ++ [']']))

theorem join_written (item : FlowItem) (items : List FlowItem) :
    join [','] ((item :: items).map FlowItem.written) =
      item.written ++ items.flatMap (fun item => ',' :: item.written) := by
  induction items generalizing item with
  | nil => simp [join]
  | cons next items ih =>
    rw [List.flatMap_cons, List.cons_append, ← ih next]
    simp [join, List.intercalate]

theorem isClean_itemLines {ts : List Text} (hts : ∀ t ∈ ts, IsClean t) :
    IsClean (itemLines ts) := by
  refine isClean_flatMap fun t ht => ?_
  simp only [isClean_cons]
  exact ⟨by decide, by decide, by decide, by decide, by decide, hts t ht⟩

theorem isClean_flowSequence {items : List FlowItem} (hitems : ∀ item ∈ items, IsClean item.text)
    (blanks : Nat) : IsClean (flowSequence blanks items) := by
  have hblanks (count : Nat) : IsClean (List.replicate count ' ') := by
    intro c hc
    obtain rfl := List.eq_of_mem_replicate hc
    decide
  have hwritten {item : FlowItem} (hitem : item ∈ items) : IsClean item.written :=
    isClean_append.mpr ⟨hblanks _, isClean_append.mpr
      ⟨isClean_doubleQuoted (hitems item hitem), hblanks _⟩⟩
  have hjoin : IsClean (join [','] (items.map FlowItem.written)) := by
    cases items with
    | nil => exact List.forall_mem_nil _
    | cons item items =>
      rw [join_written]
      refine isClean_append.mpr ⟨hwritten List.mem_cons_self, isClean_flatMap fun next hnext => ?_⟩
      exact isClean_cons.mpr ⟨by decide, hwritten (List.mem_cons_of_mem _ hnext)⟩
  exact isClean_cons.mpr ⟨by decide, isClean_append.mpr
    ⟨hblanks _, isClean_append.mpr ⟨hjoin, by decide⟩⟩⟩

namespace Lexer

variable {column depth : Nat} {indents : List Nat} {keyAllowed : Bool} {tokens : List Token}
  {rest : Text}

/-! ### Plain scalars -/

theorem head?_all_succ (h : indents.head?.all (· ≤ column) = true) :
    indents.head?.all (· ≤ column + 1) = true := by
  cases indents with
  | nil => rfl
  | cons indent indents => simpa using Nat.le_succ_of_le (by simpa using h)

theorem columnPast_spaces (column k : Nat) :
    columnPast column (List.replicate k ' ') = column + k := by
  induction k generalizing column with
  | zero => rfl
  | succ k ih =>
    change columnPast (column + 1) (List.replicate k ' ') = _
    rw [ih, Nat.add_assoc, Nat.add_comm 1]

theorem columnPast_line (column : Nat) (gap : Text) (k : Nat) :
    columnPast column (gap ++ '\n' :: List.replicate k ' ') = k := by
  rw [columnPast, List.foldl_append, List.foldl_cons, if_pos rfl]
  exact (columnPast_spaces 0 k).trans (Nat.zero_add k)

theorem isSpacing_line {gap : Text} (hgap : IsSpacing gap) (k : Nat) :
    IsSpacing (gap ++ '\n' :: List.replicate k ' ') := by
  intro c hc
  obtain hc | hc := List.mem_append.mp hc
  · exact hgap c hc
  · obtain rfl | hc := List.mem_cons.mp hc
    · exact .inr rfl
    · exact .inl (List.eq_of_mem_replicate hc)

/-- The way to a later line that is indented by `k`. -/
theorem leads_line {gap : Text} (hgap : IsSpacing gap) (k : Nat) (next : Text) (column : Nat)
    (indents : List Nat) (keyAllowed : Bool) (tokens : List Token) :
    View.Leads
      ⟨gap ++ '\n' :: (List.replicate k ' ' ++ next), column, indents, 0, keyAllowed, tokens⟩
      ⟨next, k, indents, 0, true, tokens⟩ := by
  have hleads := leads_spacing (isSpacing_line hgap k) next column indents keyAllowed tokens
  have hcontains : (gap ++ '\n' :: List.replicate k ' ').contains '\n' = true := by simp
  rwa [columnPast_line, hcontains, Bool.or_true, List.append_assoc, List.cons_append] at hleads

/-- A plain scalar or none, in front of a line that is indented by `k`. -/
theorem leads_plainLine {t gap next : Text} (k : Nat) (ht : t = [] ∨ IsPlainText t)
    (hblocks : indents.head?.all (· ≤ column) = true) (hplace : keyAllowed = false ∨
      indents.head? ≠ some (column + 1)) (hgap : IsSpacing gap) (hnext : atWhite next = false)
    (hk : k < indents.head?.elim 0 (· + 1)) (tokens : List Token) :
    View.Leads
      ⟨' ' :: (t ++ (gap ++ '\n' :: (List.replicate k ' ' ++ next))), column, indents, 0,
        keyAllowed, tokens⟩
      ⟨next, k, indents, 0, true, tokens ++ plainTokens t⟩ := by
  refine View.Leads.trans (leads_space _ _ _ _ _ _) ?_
  cases t with
  | nil =>
    rw [plainTokens, if_pos rfl, List.append_nil]
    exact leads_line hgap k next _ _ _ _
  | cons c t =>
    have hplain : IsPlainText (c :: t) := ht.resolve_left (List.cons_ne_nil _ _)
    have hmem : '\n' ∈ gap ++ '\n' :: List.replicate k ' ' :=
      List.mem_append_right _ List.mem_cons_self
    have hleads := leads_plain hplain (Nat.succ_pos column) (head?_all_succ hblocks) hplace
      (isSpacing_line hgap k) (.inr ⟨hmem, hnext, by rwa [columnPast_line]⟩) tokens
    rw [columnPast_line, List.contains_iff_mem.mpr hmem, List.append_assoc, List.cons_append]
      at hleads
    rw [plainTokens, if_neg (List.cons_ne_nil _ _)]
    exact hleads

/-- A plain scalar or none, at the end of the text. -/
theorem leads_plainEnd {t gap : Text} (ht : t = [] ∨ IsPlainText t)
    (hblocks : indents.head?.all (· ≤ column) = true) (hplace : keyAllowed = false ∨
      indents.head? ≠ some (column + 1)) (hgap : IsSpacing gap) (tokens : List Token) :
    ∃ column' keyAllowed', View.Leads
      ⟨' ' :: (t ++ gap), column, indents, 0, keyAllowed, tokens⟩
      ⟨[], column', indents, 0, keyAllowed', tokens ++ plainTokens t⟩ := by
  rw [← List.append_nil gap]
  cases t with
  | nil =>
    rw [plainTokens, if_pos rfl, List.append_nil tokens]
    exact ⟨_, _, (leads_space _ _ _ _ _ _).trans (leads_spacing hgap [] _ _ _ _)⟩
  | cons c t =>
    have hplain : IsPlainText (c :: t) := ht.resolve_left (List.cons_ne_nil _ _)
    rw [plainTokens, if_neg (List.cons_ne_nil _ _)]
    exact ⟨_, _, (leads_space _ _ _ _ _ _).trans (leads_plain hplain (Nat.succ_pos column)
      (head?_all_succ hblocks) hplace hgap (.inl rfl) tokens)⟩

/-! ### Block sequences -/

/-- The rest of a block sequence, from behind the hyphen of an item to the line of the next key. -/
theorem leads_items {t gap : Text} {ts : List Text} {c : Char}
    (hts : ∀ u ∈ t :: ts, u = [] ∨ IsPlainText u) (hgap : IsSpacing gap) (hc : StartsToken 0 c)
    (rest : Text) (tokens : List Token) :
    View.Leads
      ⟨' ' :: (t ++ (itemLines ts ++ (gap ++ '\n' :: c :: rest))), 3, [2, 0], 0, true, tokens⟩
      ⟨c :: rest, 0, [0], 0, true, tokens ++ plainTokens t ++
        (ts.flatMap (fun t => .blockEntry :: plainTokens t) ++ [.blockEnd])⟩ := by
  -- Each item goes up to the hyphen of the next one, the last one to the key that ends the block.
  induction ts generalizing t tokens with
  | nil =>
    obtain ⟨ht, -⟩ := List.forall_mem_cons.mp hts
    refine View.Leads.trans (leads_plainLine 0 ht (by decide) (.inr (by decide)) hgap
      (hc.atWhite_eq rest) (by decide) tokens) ?_
    exact leads_blockEnd hc Nat.two_pos rfl rest true _
  | cons u ts ih =>
    obtain ⟨ht, hts⟩ := List.forall_mem_cons.mp hts
    rw [itemLines_cons_append, ← List.nil_append ('\n' :: _)]
    refine View.Leads.trans (leads_plainLine 2 ht (by decide) (.inr (by decide))
      (List.forall_mem_nil _) rfl (by decide) tokens) ?_
    refine View.Leads.trans (leads_nextItem rfl Nat.two_pos [0] _) ?_
    have hrest := ih hts (tokens ++ plainTokens t ++ [.blockEntry])
    simpa only [List.flatMap_cons, List.append_assoc, List.cons_append, List.nil_append] using hrest

/-- A block sequence below its key. Without items it is left out. -/
theorem leads_block {gap : Text} {ts : List Text} {c : Char}
    (hts : ∀ t ∈ ts, t = [] ∨ IsPlainText t) (hgap : IsSpacing gap) (hc : StartsToken 0 c)
    (rest : Text) (column : Nat) (tokens : List Token) :
    View.Leads
      ⟨itemLines ts ++ (gap ++ '\n' :: c :: rest), column, [0], 0, false, tokens⟩
      ⟨c :: rest, 0, [0], 0, true, tokens ++ if ts = [] then [] else blockTokens ts⟩ := by
  cases ts with
  | nil =>
    rw [if_pos rfl, List.append_nil]
    exact leads_line hgap 0 _ _ _ _ _
  | cons t ts =>
    rw [itemLines_cons_append, if_neg (List.cons_ne_nil _ _), ← List.nil_append ('\n' :: _)]
    refine View.Leads.trans (leads_line (List.forall_mem_nil _) 2 _ _ _ _ _) ?_
    refine View.Leads.trans (leads_firstItem rfl Nat.two_pos rfl _) ?_
    have hitems := leads_items hts hgap hc rest (tokens ++ [.blockSequenceStart] ++ [.blockEntry])
    simpa only [blockTokens, List.flatMap_cons, List.append_assoc, List.cons_append,
      List.nil_append] using hitems

/-! ### Flow sequences -/

theorem leads_flowItem {item : FlowItem} (hitem : Unbroken item.text) (rest : Text) (column : Nat)
    (indents : List Nat) (depth : Nat) (tokens : List Token) :
    ∃ column', View.Leads ⟨item.written ++ rest, column, indents, depth + 1, true, tokens⟩
      ⟨rest, column', indents, depth + 1, false, tokens ++ [.scalar item.text .doubleQuoted]⟩ := by
  rw [FlowItem.written, List.append_assoc, List.append_assoc]
  exact ⟨_, (leads_spaces _ _ _ _ _ _ _).trans ((leads_doubleQuoted hitem
    (.inl (Nat.succ_ne_zero _)) (.inr (Nat.succ_ne_zero _))).trans (leads_spaces _ _ _ _ _ _ _))⟩

theorem leads_furtherItems {items : List FlowItem} (hitems : ∀ item ∈ items, Unbroken item.text)
    (rest : Text) (column : Nat) (indents : List Nat) (tokens : List Token) :
    ∃ column', View.Leads
      ⟨items.flatMap (fun item => ',' :: item.written) ++ ']' :: rest, column, indents, 1, false,
        tokens⟩
      ⟨rest, column', indents, 0, false,
        tokens ++ ((items.map (·.text)).flatMap (fun t => [.flowEntry, .scalar t .doubleQuoted]) ++
          [.flowSequenceEnd])⟩ := by
  induction items generalizing column tokens with
  | nil => exact ⟨_, leads_flowSequenceEnd rest column indents 0 false tokens⟩
  | cons item items ih =>
    obtain ⟨hitem, hitems⟩ := List.forall_mem_cons.mp hitems
    obtain ⟨_, hleads⟩ := leads_flowItem hitem
      (items.flatMap (fun item => ',' :: item.written) ++ ']' :: rest) (column + 1) indents 0
      (tokens ++ [.flowEntry])
    obtain ⟨column', hrest⟩ := ih hitems _ _
    have hall := (leads_flowEntry _ column indents 0 false tokens).trans (hleads.trans hrest)
    refine ⟨column', ?_⟩
    simpa only [List.flatMap_cons, List.map_cons, List.append_assoc, List.cons_append,
      List.nil_append] using hall

theorem leads_flowSequence {items : List FlowItem} (hitems : ∀ item ∈ items, Unbroken item.text)
    (blanks : Nat) (rest : Text) (column : Nat) (indents : List Nat)
    (hblocks : indents.head?.all (· ≤ column) = true) (tokens : List Token) :
    ∃ column', View.Leads ⟨flowSequence blanks items ++ rest, column, indents, 0, false, tokens⟩
      ⟨rest, column', indents, 0, false,
        tokens ++ flowTokens .doubleQuoted (items.map (·.text))⟩ := by
  have hopen := (leads_flowSequenceStart hblocks
    (List.replicate blanks ' ' ++ (join [','] (items.map FlowItem.written) ++ ']' :: rest))
    tokens).trans (leads_spaces _ _ _ _ _ _ _)
  have htext : flowSequence blanks items ++ rest = '[' ::
      (List.replicate blanks ' ' ++ (join [','] (items.map FlowItem.written) ++ ']' :: rest)) := by
    simp [flowSequence]
  rw [htext]
  cases items with
  | nil =>
    refine ⟨column + 1 + blanks + 1, hopen.trans ?_⟩
    have hclose := leads_flowSequenceEnd rest (column + 1 + blanks) indents 0 true
      (tokens ++ [.flowSequenceStart])
    rwa [List.append_assoc] at hclose
  | cons item items =>
    obtain ⟨hitem, hitems⟩ := List.forall_mem_cons.mp hitems
    rw [join_written, List.append_assoc] at hopen ⊢
    obtain ⟨_, hfirst⟩ := leads_flowItem hitem
      (items.flatMap (fun item => ',' :: item.written) ++ ']' :: rest) (column + 1 + blanks)
      indents 0 (tokens ++ [.flowSequenceStart])
    obtain ⟨column', hrest⟩ := leads_furtherItems hitems rest _ indents _
    have hall := hopen.trans (hfirst.trans hrest)
    refine ⟨column', ?_⟩
    simpa only [flowTokens, List.map_cons, List.append_assoc, List.cons_append, List.nil_append]
      using hall

end Lexer

end RpcReference.Yaml
