import RpcReference.Proofs.ScalarTexts
import RpcReference.Proofs.Text
/-!
# Runs of the lexer

How the lexer goes on is decided by a few of the things it keeps: the remaining text, the column,
the open blocks, the depth of flow collections and whether a key may begin. A `View` holds these
together with the tokens so far, and one view leads to another if the lexer gets from the one to the
other. Each token has a law of this form, and the laws compose, so a text that is put together from
known pieces is read piece by piece. A place of a possible key is no part of the view: as long as
the key is not required, the lexer may keep it or give it up.
-/

namespace RpcReference.Yaml.Lexer

open Text

variable {s s' s'' m : Lexer}

/-! ### Steps -/

/-- The lexer at its next token, with the blocks closed that end before it. -/
def settled? (s : Lexer) : Option Lexer :=
  s.toToken.expireKeys?.map closeToColumn

theorem run?_succ (bound : Nat) (s : Lexer) :
    s.run? (bound + 1) = s.settled?.bind fun m =>
      match m.rest with
      | [] => m.closeAll.dropKey?.map (·.tokens)
      | c :: rest => (m.token? c rest).bind (run? bound) := by
  rw [run?, settled?]
  cases s.toToken.expireKeys? with
  | none => rfl
  | some m =>
    dsimp only [Option.bind_eq_bind, Option.bind_some, Option.map_some]
    cases m.closeToColumn.rest with
    | nil => cases m.closeToColumn.closeAll.dropKey? <;> rfl
    | cons c rest => rfl

/-- The lexer gets from one state to the other. Each token on the way takes a character. -/
def Reads (s s' : Lexer) : Prop :=
  ∃ count, count + s'.rest.length ≤ s.rest.length ∧
    ∀ bound, s.run? (count + bound) = s'.run? bound

theorem Reads.refl (s : Lexer) : Reads s s :=
  ⟨0, Nat.le_of_eq (Nat.zero_add _), fun bound => by rw [Nat.zero_add]⟩

theorem Reads.trans (h : Reads s s') (h' : Reads s' s'') : Reads s s'' := by
  obtain ⟨count, hlength, hrun⟩ := h
  obtain ⟨count', hlength', hrun'⟩ := h'
  refine ⟨count + count', by omega, fun bound => ?_⟩
  rw [Nat.add_assoc, hrun, hrun']

/-- What makes no difference at the next token makes none at all. -/
theorem Reads.of_settled (h : s.settled? = s'.settled?) (hlength : s'.rest.length ≤ s.rest.length) :
    Reads s s' := by
  refine ⟨0, by omega, fun bound => ?_⟩
  rw [Nat.zero_add]
  cases bound with
  | zero => rfl
  | succ bound => rw [run?_succ, run?_succ, h]

theorem Reads.of_token {c : Char} {rest : Text} (h : s.settled? = some m)
    (hrest : m.rest = c :: rest) (htoken : m.token? c rest = some s') (hlength : s'.rest.length < s.rest.length) :
    Reads s s' := by
  refine ⟨1, by omega, fun bound => ?_⟩
  rw [Nat.add_comm, run?_succ, h, Option.bind_some, hrest]
  dsimp only
  rw [htoken, Option.bind_some]

/-! ### Views -/

/-- The place of a possible key is not one where nothing else can stand. -/
def Free (key : Option KeyPlace) : Prop :=
  ∀ place ∈ key, place.required = false

theorem free_none : Free none :=
  fun _ h => nomatch h

/-- What decides how the lexer goes on, and the tokens so far. -/
structure View where
  rest : Text
  column : Nat
  indents : List Nat
  /-- The number of flow collections around the place. -/
  depth : Nat
  keyAllowed : Bool
  tokens : List Token

/-- The lexer is in a state with the given view. -/
structure Shows (s : Lexer) (v : View) : Prop where
  rest : s.rest = v.rest
  column : s.mark.column = v.column
  indents : s.indents = v.indents
  depth : s.outerKeys.length = v.depth
  keyAllowed : s.keyAllowed = v.keyAllowed
  tokens : s.tokens = v.tokens
  key : Free s.key
  outerKeys : ∀ key ∈ s.outerKeys, Free key

/-- From each state with the first view the lexer gets to one with the second. -/
def View.Leads (v w : View) : Prop :=
  ∀ s : Lexer, s.Shows v → ∃ s', s.Reads s' ∧ s'.Shows w

theorem View.Leads.refl (v : View) : v.Leads v :=
  fun s hs => ⟨s, Reads.refl s, hs⟩

theorem View.Leads.trans {u v w : View} (h : u.Leads v) (h' : v.Leads w) : u.Leads w := by
  intro s hs
  obtain ⟨s', hreads, hs'⟩ := h s hs
  obtain ⟨s'', hreads', hs''⟩ := h' s' hs'
  exact ⟨s'', hreads.trans hreads', hs''⟩

variable {rest : Text} {column depth : Nat} {indents : List Nat} {keyAllowed : Bool}
  {tokens : List Token} {v w : View}

theorem Shows.inFlow (h : s.Shows v) : s.inFlow = decide (v.depth ≠ 0) := by
  rw [Lexer.inFlow, ← h.depth]
  cases s.outerKeys <;> simp

/-! ### Possible keys -/

theorem giveUp?_of_free {key : Option KeyPlace} (h : Free key) : giveUp? key = some none := by
  cases key with
  | none => rfl
  | some place =>
    have hplace : place.required = false := h place rfl
    rw [giveUp?, hplace]
    rfl

theorem exists_expire? {key : Option KeyPlace} (h : Free key) (mark : Mark) :
    ∃ key', expire? mark key = some key' ∧ Free key' := by
  rw [expire?]
  split
  · exact ⟨none, giveUp?_of_free h, free_none⟩
  · exact ⟨key, rfl, h⟩

theorem exists_mapM_expire? {keys : List (Option KeyPlace)} (h : ∀ key ∈ keys, Free key)
    (mark : Mark) :
    ∃ keys', keys.mapM (expire? mark) = some keys' ∧ keys'.length = keys.length ∧
      ∀ key ∈ keys', Free key := by
  induction keys with
  | nil => exact ⟨[], rfl, rfl, List.forall_mem_nil _⟩
  | cons key keys ih =>
    obtain ⟨hkey, hkeys⟩ := List.forall_mem_cons.mp h
    obtain ⟨key', hexpire, hfree⟩ := exists_expire? hkey mark
    obtain ⟨keys', hmap, hlength, hfree'⟩ := ih hkeys
    refine ⟨key' :: keys', ?_, by rw [List.length_cons, List.length_cons, hlength],
      List.forall_mem_cons.mpr ⟨hfree, hfree'⟩⟩
    rw [List.mapM_cons, hexpire, hmap]
    rfl

theorem Shows.exists_expireKeys? (h : s.Shows v) : ∃ m, s.expireKeys? = some m ∧ m.Shows v := by
  obtain ⟨key, hkey, hfree⟩ := exists_expire? h.key s.mark
  obtain ⟨keys, hkeys, hlength, hfree'⟩ := exists_mapM_expire? h.outerKeys s.mark
  refine ⟨{ s with key, outerKeys := keys }, ?_, { h with
    depth := hlength.trans h.depth, key := hfree, outerKeys := hfree' }⟩
  rw [expireKeys?, hkey, hkeys]
  rfl

theorem Shows.dropKey?_eq (h : s.Shows v) : s.dropKey? = some { s with key := none } := by
  rw [dropKey?, giveUp?_of_free h.key]
  rfl

theorem Shows.dropKey (h : s.Shows v) : Shows { s with key := none } v :=
  { h with key := free_none }

/-- A key may begin here, but need not. -/
def View.KeyOptional (v : View) : Prop :=
  v.keyAllowed = false ∨ v.depth ≠ 0 ∨ v.indents.head? ≠ some v.column

theorem Shows.noteKey?_eq (h : s.Shows v) (hallowed : v.keyAllowed = true) :
    s.noteKey? = some { s with
      key := some
        ⟨!s.inFlow && s.indents.head? == some s.mark.column, s.tokens.length, s.mark⟩ } := by
  rw [noteKey?, if_pos (h.keyAllowed.trans hallowed), h.dropKey?_eq]
  rfl

theorem Shows.exists_noteKey? (h : s.Shows v) (hkey : v.KeyOptional) :
    ∃ key, s.noteKey? = some { s with key } ∧ Shows { s with key } v := by
  cases hallowed : v.keyAllowed with
  | false =>
    rw [noteKey?, if_neg (by rw [h.keyAllowed, hallowed]; exact Bool.false_ne_true)]
    exact ⟨s.key, rfl, h⟩
  | true =>
    refine ⟨_, h.noteKey?_eq hallowed, { h with key := ?_ }⟩
    intro place hplace
    obtain rfl := Option.some.inj hplace
    have hcolumn : v.depth ≠ 0 ∨ v.indents.head? ≠ some v.column :=
      hkey.resolve_left (by rw [hallowed]; exact Bool.noConfusion)
    rw [h.inFlow, h.indents, h.column]
    obtain hdepth | hhead := hcolumn
    · simp [hdepth]
    · simp [hhead]

/-! ### The way to the next token -/

theorem leads_of_toToken (hlength : w.rest.length ≤ v.rest.length)
    (h : ∀ s : Lexer, s.Shows v → ∃ s' : Lexer, s.toToken = s'.toToken ∧ s'.Shows w) :
    v.Leads w := by
  intro s hs
  obtain ⟨s', htoken, hs'⟩ := h s hs
  refine ⟨s', Reads.of_settled ?_ (by rw [hs.rest, hs'.rest]; exact hlength), hs'⟩
  rw [settled?, settled?, htoken]

theorem leads_space (rest : Text) (column : Nat) (indents : List Nat) (depth : Nat)
    (keyAllowed : Bool) (tokens : List Token) :
    View.Leads ⟨' ' :: rest, column, indents, depth, keyAllowed, tokens⟩
      ⟨rest, column + 1, indents, depth, keyAllowed, tokens⟩ := by
  apply leads_of_toToken (Nat.le_succ _)
  intro s hs
  refine ⟨{ s with rest, mark := s.mark.forward 1 }, ?_, { hs with
    rest := rfl, column := congrArg (· + 1) hs.column }⟩
  rw [toToken, hs.rest]
  rfl

theorem leads_newline (rest : Text) (column : Nat) (indents : List Nat) (keyAllowed : Bool)
    (tokens : List Token) :
    View.Leads ⟨'\n' :: rest, column, indents, 0, keyAllowed, tokens⟩
      ⟨rest, 0, indents, 0, true, tokens⟩ := by
  apply leads_of_toToken (Nat.le_succ _)
  intro s hs
  refine ⟨{ s with rest, mark := s.mark.nextLine, keyAllowed := true }, ?_, { hs with
    rest := rfl, column := rfl, keyAllowed := rfl }⟩
  have hflow : s.inFlow = false := hs.inFlow
  have hflow' : Lexer.inFlow { s with rest, mark := s.mark.nextLine, keyAllowed := true } = false :=
    hflow
  have hskip : skipWhite false false s.keyAllowed s.mark ('\n' :: rest) =
      skipWhite false false true s.mark.nextLine rest := by
    rw [skipWhite, if_pos (show isBreak '\n' = true from rfl), Bool.not_false, Bool.or_true]
  rw [toToken, toToken, hs.rest, hflow, hflow', hskip]

theorem leads_spaces (count : Nat) (rest : Text) (column : Nat) (indents : List Nat) (depth : Nat)
    (keyAllowed : Bool) (tokens : List Token) :
    View.Leads ⟨List.replicate count ' ' ++ rest, column, indents, depth, keyAllowed, tokens⟩
      ⟨rest, column + count, indents, depth, keyAllowed, tokens⟩ := by
  induction count generalizing column with
  | zero => exact View.Leads.refl _
  | succ count ih =>
    have hcolumn : column + (count + 1) = column + 1 + count := by omega
    rw [List.replicate_succ, List.cons_append, hcolumn]
    exact (leads_space _ _ _ _ _ _).trans (ih _)

/-- The column behind spaces and line ends. -/
def columnPast (column : Nat) (spacing : Text) : Nat :=
  spacing.foldl (fun column c => if c = '\n' then 0 else column + 1) column

theorem leads_spacing {spacing : Text} (hspacing : IsSpacing spacing) (rest : Text) (column : Nat)
    (indents : List Nat) (keyAllowed : Bool) (tokens : List Token) :
    View.Leads ⟨spacing ++ rest, column, indents, 0, keyAllowed, tokens⟩
      ⟨rest, columnPast column spacing, indents, 0, keyAllowed || spacing.contains '\n',
        tokens⟩ := by
  induction spacing generalizing column keyAllowed with
  | nil =>
    rw [List.contains_nil, Bool.or_false]
    exact View.Leads.refl _
  | cons c spacing ih =>
    obtain ⟨hc, htail⟩ := List.forall_mem_cons.mp hspacing
    obtain rfl | rfl := hc
    · exact (leads_space _ _ _ _ _ _).trans (ih htail _ _)
    · have hline := (leads_newline (spacing ++ rest) column indents keyAllowed tokens).trans
        (ih htail 0 true)
      rw [List.contains_cons, beq_self_eq_true, Bool.true_or, Bool.or_true]
      rwa [Bool.true_or] at hline

/-- A token may begin with the character. -/
structure StartsToken (column : Nat) (c : Char) : Prop where
  notWhite : isWhite c = false
  notComment : c ≠ '#'
  notMark : c = byteOrderMark → column ≠ 0

theorem StartsToken.of_ne {c : Char} (hwhite : isWhite c = false) (hcomment : c ≠ '#')
    (hmark : c ≠ byteOrderMark) : StartsToken column c :=
  ⟨hwhite, hcomment, fun h => absurd h hmark⟩

theorem StartsToken.atWhite_eq {c : Char} (hc : StartsToken column c) (rest : Text) :
    atWhite (c :: rest) = false :=
  hc.notWhite

theorem StartsToken.toToken_eq {c : Char} (hc : StartsToken s.mark.column c)
    (hrest : s.rest = c :: rest) : s.toToken = s := by
  obtain ⟨hblank, hbreak⟩ := Bool.or_eq_false_iff.mp hc.notWhite
  obtain ⟨hspace, htab⟩ := Bool.or_eq_false_iff.mp hblank
  have hfiller : isFiller s.inFlow s.keyAllowed s.mark c = false := by
    rw [isFiller, hspace, htab]
    by_cases hmark : c = byteOrderMark
    · rw [beq_false_of_ne (hc.notMark hmark), Bool.and_false]
      rfl
    · rw [beq_false_of_ne hmark]
      rfl
  have hcomment : ¬ (false || decide (c = '#')) = true := by simp [hc.notComment]
  rw [toToken, hrest, skipWhite, if_neg (by simp [hbreak]), if_neg hcomment,
    if_neg (by simp [hfiller]), ← hrest]

theorem closeToColumn_eq_self
    (h : s.inFlow = true ∨ s.indents.head?.all (· ≤ s.mark.column) = true) :
    s.closeToColumn = s := by
  rw [closeToColumn, closeBlocks]
  obtain hflow | hhead := h
  · rw [if_pos hflow]
  · have hnone : s.indents.takeWhile (s.mark.column < ·) = [] := by
      cases hindents : s.indents with
      | nil => rfl
      | cons indent indents =>
        have hindent : indent ≤ s.mark.column := by simpa [hindents] using hhead
        exact List.takeWhile_cons_of_neg (by simpa using hindent)
    rw [hnone]
    split
    · rfl
    · simp

theorem StartsToken.settled?_eq {c : Char} (hc : StartsToken s.mark.column c)
    (hrest : s.rest = c :: rest) (hexpire : s.expireKeys? = some s)
    (hblocks : s.inFlow = true ∨ s.indents.head?.all (· ≤ s.mark.column) = true) :
    s.settled? = some s := by
  rw [settled?, hc.toToken_eq hrest, hexpire, Option.map_some, closeToColumn_eq_self hblocks]

/-- Outside of flow collections, a possible key that is not too far back stays one. -/
theorem Shows.settled?_eq {c : Char}
    (hs : Shows { s with key := none } ⟨c :: rest, column, indents, 0, keyAllowed, tokens⟩)
    (hkey : ∀ place ∈ s.key, KeyPlace.expired place s.mark = false) (hc : StartsToken column c)
    (hblocks : indents.head?.all (· ≤ column) = true) : s.settled? = some s := by
  have hexpire : expire? s.mark s.key = some s.key := by
    cases hplace : s.key with
    | none => rfl
    | some place =>
      rw [expire?, Option.any_some, hkey place hplace, if_neg Bool.false_ne_true]
  have houter : s.outerKeys = [] := List.length_eq_zero_iff.mp hs.depth
  have hexpires : s.outerKeys.mapM (expire? s.mark) = some s.outerKeys := by
    rw [houter]
    rfl
  have hexpireKeys : s.expireKeys? = some s := by
    rw [expireKeys?, hexpire, hexpires]
    rfl
  have hindents : s.indents = indents := hs.indents
  have hcolumn : s.mark.column = column := hs.column
  refine StartsToken.settled?_eq (by rwa [hcolumn]) hs.rest hexpireKeys (.inr ?_)
  rw [hindents, hcolumn]
  exact hblocks

/-- No block ends before the column. -/
def View.InBlocks (v : View) : Prop :=
  v.depth ≠ 0 ∨ v.indents.head?.all (· ≤ v.column) = true

theorem Shows.closeToColumn_eq_self (hs : s.Shows v) (hblocks : v.InBlocks) :
    s.closeToColumn = s := by
  apply Lexer.closeToColumn_eq_self
  rw [hs.inFlow, hs.indents, hs.column]
  exact hblocks.imp_left fun hdepth => decide_eq_true hdepth

theorem Shows.toToken_eq {c : Char} (hs : s.Shows v) (hc : StartsToken v.column c)
    (hrest : v.rest = c :: rest) : s.toToken = s := by
  rw [← hs.column] at hc
  exact hc.toToken_eq (hs.rest.trans hrest)

theorem StartsToken.exists_settled? {c : Char} (hc : StartsToken v.column c) (hs : s.Shows v)
    (hrest : v.rest = c :: rest) (hblocks : v.InBlocks) :
    ∃ m, s.settled? = some m ∧ m.Shows v := by
  obtain ⟨m, hexpire, hm⟩ := hs.exists_expireKeys?
  refine ⟨m, ?_, hm⟩
  rw [settled?, hs.toToken_eq hc hrest, hexpire, Option.map_some, hm.closeToColumn_eq_self hblocks]

theorem leads_of_token {c : Char} (hc : StartsToken v.column c) (hrest : v.rest = c :: rest)
    (hblocks : v.InBlocks) (hlength : w.rest.length ≤ rest.length)
    (h : ∀ m : Lexer, m.Shows v → ∃ s', m.token? c rest = some s' ∧ s'.Shows w) : v.Leads w := by
  intro s hs
  obtain ⟨m, hsettled, hm⟩ := hc.exists_settled? hs hrest hblocks
  obtain ⟨s', htoken, hs'⟩ := h m hm
  refine ⟨s', Reads.of_token hsettled (hm.rest.trans hrest) htoken ?_, hs'⟩
  rw [hs'.rest, hs.rest, hrest]
  exact Nat.lt_succ_of_le hlength

/-- A line further to the left closes a block. -/
theorem leads_blockEnd {c : Char} {indent : Nat} (hc : StartsToken column c)
    (hindent : column < indent) (hindents : indents.head?.all (· ≤ column) = true) (rest : Text) (keyAllowed : Bool)
    (tokens : List Token) :
    View.Leads ⟨c :: rest, column, indent :: indents, 0, keyAllowed, tokens⟩
      ⟨c :: rest, column, indents, 0, keyAllowed, tokens ++ [.blockEnd]⟩ := by
  intro s hs
  have hs' : Shows { s with indents, tokens := s.tokens ++ [.blockEnd] }
      ⟨c :: rest, column, indents, 0, keyAllowed, tokens ++ [.blockEnd]⟩ := { hs with
    indents := rfl, tokens := congrArg (· ++ [Token.blockEnd]) hs.tokens }
  -- The block is closed on the way to the token, so from there on the two states are the same.
  refine ⟨{ s with indents, tokens := s.tokens ++ [.blockEnd] },
    Reads.of_settled ?_ (Nat.le_refl _), hs'⟩
  obtain ⟨m, hexpire, hm⟩ := hs.exists_expireKeys?
  have hexpire' : expireKeys? { s with indents, tokens := s.tokens ++ [.blockEnd] } =
      some { m with indents, tokens := m.tokens ++ [.blockEnd] } := by
    rw [expireKeys?] at hexpire ⊢
    simp only [Option.bind_eq_bind, Option.pure_def, Option.bind_eq_some_iff,
      Option.some.injEq] at hexpire ⊢
    obtain ⟨key, hkey, keys, hkeys, rfl⟩ := hexpire
    exact ⟨key, hkey, keys, hkeys, rfl⟩
  have hm' : Shows { m with indents, tokens := m.tokens ++ [.blockEnd] }
      ⟨c :: rest, column, indents, 0, keyAllowed, tokens ++ [.blockEnd]⟩ := { hm with
    indents := rfl, tokens := congrArg (· ++ [Token.blockEnd]) hm.tokens }
  have hclosed : m.closeToColumn = { m with indents, tokens := m.tokens ++ [.blockEnd] } := by
    have hflow : m.inFlow = false := hm.inFlow
    have htake : m.indents.takeWhile (m.mark.column < ·) = [indent] := by
      rw [hm.indents, hm.column, List.takeWhile_cons_of_pos (by simpa using hindent)]
      cases indents with
      | nil => rfl
      | cons next indents =>
        have hnext : next ≤ column := by simpa using hindents
        rw [List.takeWhile_cons_of_neg (by simpa using hnext)]
    rw [closeToColumn, htake, closeBlocks, hflow, hm.indents]
    rfl
  rw [settled?, settled?, hs.toToken_eq hc rfl, hs'.toToken_eq hc rfl, hexpire, hexpire',
    Option.map_some, Option.map_some, hclosed, hm'.closeToColumn_eq_self (.inr hindents)]

end RpcReference.Yaml.Lexer
