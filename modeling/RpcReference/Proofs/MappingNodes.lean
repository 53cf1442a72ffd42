import RpcReference.Yaml.Anchors
/-!
# Mappings of scalars and lists

The tokens of a block mapping whose keys are plain scalars and whose values are scalars or lists of
scalars give that mapping. Nothing in it carries an anchor, so nothing is numbered.
-/

namespace RpcReference.Yaml

open Text

variable {ρ : Type} {handles : Handles} {bound : Nat} {rest : List Token}

/-! ### Values -/

def Node.ofScalar (style : ScalarStyle) (t : Text) : Node ρ :=
  .scalar .absent t style

/-- What stands behind a key. -/
inductive Value where
  | scalar (t : Text) (style : ScalarStyle)
  | list (ts : List Text) (style : ScalarStyle)
  deriving DecidableEq, Repr

def Value.node : Value → Node ρ
  | .scalar t style => .ofScalar style t
  | .list ts style => .sequence .absent (ts.map (.ofScalar style))

theorem node?_scalar (context : NodeContext) (t : Text) (style : ScalarStyle) :
    node? handles (bound + 1) context (.scalar t style :: rest) =
      some (.ofScalar style t, rest) := by
  rfl

/-! ### Tokens -/

/-- The tokens of a plain scalar, which is left out if it is empty. -/
def plainTokens (t : Text) : List Token :=
  if t = [] then [] else [.scalar t .plain]

def flowTokens (style : ScalarStyle) : List Text → List Token
  | [] => [.flowSequenceStart, .flowSequenceEnd]
  | t :: ts => .flowSequenceStart :: .scalar t style ::
    (ts.flatMap (fun t => [.flowEntry, .scalar t style]) ++ [.flowSequenceEnd])

def blockTokens (ts : List Text) : List Token :=
  .blockSequenceStart :: (ts.flatMap (fun t => .blockEntry :: plainTokens t) ++ [.blockEnd])

theorem nodeUnless?_plainTokens {stops : List Token} (hrest : nextIn stops rest = true)
    (t : Text) (hstops : Token.scalar t .plain ∉ stops) (context : NodeContext)
    (hbound : 2 ≤ bound) :
    nodeUnless? handles bound stops context (plainTokens t ++ rest) =
      some (.ofScalar .plain t, rest) := by
  obtain ⟨bound, rfl⟩ := Nat.exists_eq_add_of_le' hbound
  rw [nodeUnless?, plainTokens]
  by_cases ht : t = []
  · subst ht
    rw [if_pos rfl, List.nil_append, if_pos hrest]
    rfl
  · have hnext : nextIn stops ([.scalar t .plain] ++ rest) = false := by
      rw [List.singleton_append, nextIn, List.contains_eq_mem]
      exact decide_eq_false hstops
    rw [if_neg ht, hnext, if_neg Bool.false_ne_true, List.singleton_append, node?_scalar]

/-! ### Lists -/

theorem length_le_flatMap {α β : Type} {f : α → List β} (h : ∀ a, f a ≠ []) (as : List α) :
    as.length ≤ (as.flatMap f).length := by
  induction as with
  | nil => exact Nat.zero_le _
  | cons a as ih =>
    have ha : 0 < (f a).length := List.length_pos_iff.mpr (h a)
    rw [List.flatMap_cons, List.length_append, List.length_cons]
    omega

theorem flowItems?_further (style : ScalarStyle) (ts : List Text) (rest : List Token)
    (hbound : ts.length + 2 ≤ bound) :
    flowItems? handles bound false
        (ts.flatMap (fun t => [.flowEntry, .scalar t style]) ++ .flowSequenceEnd :: rest) =
      some (ts.map (.ofScalar style), rest) := by
  induction ts generalizing bound with
  | nil =>
    obtain ⟨bound, rfl⟩ := Nat.exists_eq_add_of_le' hbound
    rfl
  | cons t ts ih =>
    rw [List.length_cons] at hbound
    obtain ⟨bound, rfl⟩ := Nat.exists_eq_add_of_le' (Nat.le_trans (Nat.le_add_left 2 _) hbound)
    have hitem (more : List Token) :
        flowItems? handles (bound + 2) false (.flowEntry :: .scalar t style :: more) =
          (flowItems? handles (bound + 1) false more).bind fun items =>
            some (.ofScalar style t :: items.1, items.2) := rfl
    simp only [List.flatMap_cons, List.cons_append, List.nil_append]
    rw [hitem, ih (by omega)]
    rfl

theorem node?_flowTokens (context : NodeContext) (style : ScalarStyle) (ts : List Text)
    (rest : List Token) (hbound : ts.length + 3 ≤ bound) :
    node? handles bound context (flowTokens style ts ++ rest) =
      some (.sequence .absent (ts.map (.ofScalar style)), rest) := by
  obtain ⟨bound, rfl⟩ := Nat.exists_eq_add_of_le' (Nat.le_trans (Nat.le_add_left 3 _) hbound)
  cases ts with
  | nil => rfl
  | cons t ts =>
    rw [List.length_cons] at hbound
    have hfirst (more : List Token) :
        node? handles (bound + 3) context (.flowSequenceStart :: .scalar t style :: more) =
          (flowItems? handles (bound + 1) false more).bind fun items =>
            some (.sequence .absent (.ofScalar style t :: items.1), items.2) := by
      have hitems : flowItems? handles (bound + 2) true (.scalar t style :: more) =
          (flowItems? handles (bound + 1) false more).bind fun items =>
            some (.ofScalar style t :: items.1, items.2) := rfl
      change (flowItems? handles (bound + 2) true (.scalar t style :: more)).bind _ = _
      rw [hitems, Option.bind_assoc]
      rfl
    rw [flowTokens, List.cons_append, List.cons_append, List.append_assoc, List.singleton_append,
      hfirst, flowItems?_further style ts rest (by omega)]
    rfl

theorem blockItems?_plain (ts : List Text) (rest : List Token) (hbound : ts.length + 3 ≤ bound) :
    blockItems? handles bound
        (ts.flatMap (fun t => .blockEntry :: plainTokens t) ++ .blockEnd :: rest) =
      some (ts.map (.ofScalar .plain), rest) := by
  induction ts generalizing bound with
  | nil =>
    obtain ⟨bound, rfl⟩ := Nat.exists_eq_add_of_le' hbound
    rfl
  | cons t ts ih =>
    rw [List.length_cons] at hbound
    obtain ⟨bound, rfl⟩ := Nat.exists_eq_add_of_le' (Nat.le_trans (Nat.le_add_left 3 _) hbound)
    have hnext : nextIn [.blockEntry, .blockEnd]
        (ts.flatMap (fun t => .blockEntry :: plainTokens t) ++ .blockEnd :: rest) = true := by
      cases ts <;> rfl
    have hstep (more : List Token) : blockItems? handles (bound + 3) (.blockEntry :: more) =
        (nodeUnless? handles (bound + 2) [.blockEntry, .blockEnd] .item more).bind
          fun item => (blockItems? handles (bound + 2) item.2).bind fun items =>
            some (item.1 :: items.1, items.2) := rfl
    rw [List.flatMap_cons, List.cons_append, List.cons_append, List.append_assoc, hstep,
      nodeUnless?_plainTokens hnext t (by simp) .item (Nat.le_add_left 2 bound), Option.bind_some,
      ih (by omega)]
    rfl

theorem node?_blockTokens (ts : List Text) (rest : List Token) (hbound : ts.length + 4 ≤ bound) :
    node? handles bound .entry (blockTokens ts ++ rest) =
      some (.sequence .absent (ts.map (.ofScalar .plain)), rest) := by
  obtain ⟨bound, rfl⟩ := Nat.exists_eq_add_of_le' (Nat.le_trans (Nat.le_add_left 1 _) hbound)
  have hstep (more : List Token) :
      node? handles (bound + 1) .entry (.blockSequenceStart :: more) =
        (blockItems? handles bound more).bind fun items =>
          some (.sequence .absent items.1, items.2) := rfl
  rw [blockTokens, List.cons_append, List.append_assoc, List.singleton_append, hstep,
    blockItems?_plain ts rest (by omega)]
  rfl

/-! ### Entries -/

/-- In a mapping the tokens give the value. -/
def ReadsAs (tokens : List Token) (value : Value) : Prop :=
  ∀ bound rest, tokens.length + 3 ≤ bound → nextIn [.key, .value, .blockEnd] rest = true →
    nodeUnless? .standard bound [.key, .value, .blockEnd] .entry (tokens ++ rest) =
      some (value.node, rest)

theorem readsAs_of_node? {tokens : List Token} {value : Value}
    (hnext : ∀ rest, nextIn [.key, .value, .blockEnd] (tokens ++ rest) = false)
    (h : ∀ bound rest, tokens.length + 2 ≤ bound →
      node? .standard bound .entry (tokens ++ rest) = some (value.node, rest)) :
    ReadsAs tokens value := by
  intro bound rest hbound _
  obtain ⟨bound, rfl⟩ := Nat.exists_eq_add_of_le' (Nat.le_trans (Nat.le_add_left 1 _) hbound)
  rw [nodeUnless?, hnext, if_neg Bool.false_ne_true, h bound rest (by omega)]

theorem readsAs_scalar (t : Text) (style : ScalarStyle) :
    ReadsAs [.scalar t style] (.scalar t style) := by
  refine readsAs_of_node? (fun rest => by simp [nextIn]) fun bound rest hbound => ?_
  obtain ⟨bound, rfl⟩ := Nat.exists_eq_add_of_le' hbound
  exact node?_scalar _ t style

theorem readsAs_plainTokens (t : Text) : ReadsAs (plainTokens t) (.scalar t .plain) :=
  fun _ _ hbound hrest =>
    nodeUnless?_plainTokens hrest t (by simp) _ (by omega)

theorem readsAs_flowTokens (style : ScalarStyle) (ts : List Text) :
    ReadsAs (flowTokens style ts) (.list ts style) := by
  refine readsAs_of_node? (fun rest => by cases ts <;> rfl) fun bound rest hbound => ?_
  refine node?_flowTokens _ style ts rest (Nat.le_trans ?_ hbound)
  cases ts with
  | nil => exact Nat.le_add_left 3 1
  | cons t ts =>
    have hlength := length_le_flatMap (f := fun t => [Token.flowEntry, .scalar t style])
      (fun _ => List.cons_ne_nil _ _) ts
    rw [flowTokens]
    simp only [List.length_cons, List.length_append, List.length_nil]
    omega

theorem readsAs_blockTokens (ts : List Text) : ReadsAs (blockTokens ts) (.list ts .plain) := by
  refine readsAs_of_node? (fun rest => rfl) fun bound rest hbound => ?_
  refine node?_blockTokens ts rest (Nat.le_trans ?_ hbound)
  have hlength := length_le_flatMap (f := fun t => Token.blockEntry :: plainTokens t)
    (fun _ => List.cons_ne_nil _ _) ts
  rw [blockTokens, List.length_cons, List.length_append, List.length_singleton]
  omega

/-- An entry of a mapping: its name, the tokens of its value, and the value. -/
structure Entry where
  name : Text
  tokens : List Token
  value : Value

namespace Entry

def allTokens (e : Entry) : List Token :=
  .key :: .scalar e.name .plain :: .value :: e.tokens

def node (e : Entry) : Node ρ × Node ρ :=
  (.ofScalar .plain e.name, e.value.node)

end Entry

variable {entries : List Entry}

theorem blockEntries?_entries (h : ∀ e ∈ entries, ReadsAs e.tokens e.value)
    (hbound : (entries.flatMap Entry.allTokens).length + 1 ≤ bound) :
    blockEntries? .standard bound (entries.flatMap Entry.allTokens ++ .blockEnd :: rest) =
      some (entries.map Entry.node, rest) := by
  -- Each entry takes one from the bound, and has at least three tokens to make up for it.
  induction entries generalizing bound with
  | nil =>
    obtain ⟨bound, rfl⟩ := Nat.exists_eq_add_of_le' hbound
    rfl
  | cons e entries ih =>
    obtain ⟨he, hentries⟩ := List.forall_mem_cons.mp h
    rw [List.flatMap_cons, List.length_append, Entry.allTokens] at hbound
    simp only [List.length_cons] at hbound
    obtain ⟨bound, rfl⟩ := Nat.exists_eq_add_of_le' (Nat.le_trans (Nat.le_add_left 1 _) hbound)
    have hstep (more : List Token) :
        blockEntries? .standard (bound + 1) (.key :: .scalar e.name .plain :: .value :: more) =
          (nodeUnless? .standard bound [.key, .value, .blockEnd] .entry more).bind fun value =>
            (blockEntries? .standard bound value.2).bind fun entries =>
              some ((.ofScalar .plain e.name, value.1) :: entries.1, entries.2) := by
      obtain ⟨bound, rfl⟩ := Nat.exists_eq_add_of_le' (show 2 ≤ bound by omega)
      rfl
    have hnext : nextIn [.key, .value, .blockEnd]
        (entries.flatMap Entry.allTokens ++ .blockEnd :: rest) = true := by
      cases entries <;> rfl
    rw [List.flatMap_cons, List.append_assoc, Entry.allTokens, List.cons_append, List.cons_append,
      List.cons_append, hstep, he bound _ (by omega) hnext, Option.bind_some,
      ih hentries (by omega)]
    rfl

def mappingOf (entries : List Entry) : Document :=
  ⟨.mapping .absent (entries.map Entry.node), []⟩

theorem node?_entries (h : ∀ e ∈ entries, ReadsAs e.tokens e.value)
    (hbound : (entries.flatMap Entry.allTokens).length + 2 ≤ bound) :
    node? .standard bound .item
        (.blockMappingStart :: (entries.flatMap Entry.allTokens ++ .blockEnd :: rest)) =
      some (.mapping .absent (entries.map Entry.node), rest) := by
  obtain ⟨bound, rfl⟩ := Nat.exists_eq_add_of_le' (Nat.le_trans (Nat.le_add_left 1 _) hbound)
  have hstep (more : List Token) :
      node? .standard (bound + 1) .item (.blockMappingStart :: more) =
        (blockEntries? .standard bound more).bind fun entries =>
          some (.mapping .absent entries.1, entries.2) := rfl
  rw [hstep, blockEntries?_entries h (by omega)]
  rfl

theorem document?_entries (h : ∀ e ∈ entries, ReadsAs e.tokens e.value) :
    document? (.blockMappingStart :: (entries.flatMap Entry.allTokens ++ [.blockEnd])) =
      some (some (.mapping .absent (entries.map Entry.node))) := by
  have hbound : (entries.flatMap Entry.allTokens).length + 2 ≤ 3 * (Token.blockMappingStart ::
      (entries.flatMap Entry.allTokens ++ [.blockEnd])).length + 3 := by
    rw [List.length_cons, List.length_append]
    omega
  change (firstDocument? _ (.blockMappingStart :: _)).bind _ = _
  change (node? .standard _ .item (.blockMappingStart :: _)).bind _ = _
  rw [node?_entries h hbound]
  rfl

/-! ### Documents -/

theorem number?_ofScalar (names : Table Nat) (style : ScalarStyle) (t : Text) :
    number? names (.ofScalar style t) = some ⟨names, [], .ofScalar style t⟩ := rfl

theorem numberItems?_scalars (names : Table Nat) (style : ScalarStyle) (ts : List Text) :
    numberItems? names (ts.map (.ofScalar style)) = some ⟨names, [], ts.map (.ofScalar style)⟩ := by
  induction ts with
  | nil => rfl
  | cons t ts ih =>
    rw [List.map_cons, numberItems?, number?_ofScalar]
    simp only [Option.bind_eq_bind, Option.bind_some, ih]
    rfl

theorem number?_value (names : Table Nat) (value : Value) :
    number? names value.node = some ⟨names, [], value.node⟩ := by
  cases value with
  | scalar t style => rfl
  | list ts style =>
    rw [Value.node, number?]
    simp only [noteAnchor, Properties.absent, numberItems?_scalars, Option.bind_eq_bind,
      Option.bind_some]
    rfl

theorem numberEntries?_entries (names : Table Nat) (entries : List Entry) :
    numberEntries? names (entries.map Entry.node) = some ⟨names, [], entries.map Entry.node⟩ := by
  induction entries with
  | nil => rfl
  | cons e entries ih =>
    rw [List.map_cons, Entry.node, numberEntries?, number?_ofScalar]
    simp only [Option.bind_eq_bind, Option.bind_some, number?_value, ih]
    rfl

theorem parse?_of_tokens? {t : Text} (h : ∀ e ∈ entries, ReadsAs e.tokens e.value)
    (htokens : tokens? t =
      some (.blockMappingStart :: (entries.flatMap Entry.allTokens ++ [.blockEnd]))) :
    parse? t = some (some (mappingOf entries)) := by
  have hnumber : number? .empty (.mapping .absent (entries.map Entry.node)) =
      some ⟨.empty, [], .mapping .absent (entries.map Entry.node)⟩ := by
    rw [number?]
    simp only [noteAnchor, Properties.absent, numberEntries?_entries, Option.bind_eq_bind,
      Option.bind_some]
    rfl
  rw [parse?, htokens]
  simp only [Option.bind_eq_bind, Option.bind_some, document?_entries h, hnumber]
  rfl

end RpcReference.Yaml
