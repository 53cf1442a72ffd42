import RpcReference.Yaml.Token
/-!
# From tokens to nodes

A document is a tree of scalars, sequences and mappings, in which an alias refers to a node that
carries an anchor. This module builds the tree of a single document. What is missing between two
separators is an empty plain scalar.
-/

namespace RpcReference.Yaml

open Text

/-- What may be written in front of a node. -/
structure Properties where
  anchor : Option Text
  tag : Option Text
  deriving DecidableEq, Repr

def Properties.absent : Properties := ⟨none, none⟩

/-- A node whose aliases refer to other nodes by values of type `ρ`. -/
inductive Node (ρ : Type) where
  | scalar (properties : Properties) (value : Text) (style : ScalarStyle)
  | sequence (properties : Properties) (items : List (Node ρ))
  | mapping (properties : Properties) (entries : List (Node ρ × Node ρ))
  | alias (target : ρ)
  deriving Repr

def Node.empty {ρ : Type} (properties : Properties) : Node ρ :=
  .scalar properties [] .plain

/-! ### Directives -/

/-- What the handles of tags stand for. -/
abbrev Handles := List (Text × Text)

def Handles.standard : Handles :=
  [(['!'], ['!']), (['!', '!'], "tag:yaml.org,2002:".toList)]

/-- Reads the directives of a document: at most one version, which must be a known one, and no
handle twice. -/
def directives? (versionSeen : Bool) (declared : Handles) :
    List Token → Option (Handles × List Token)
  | .versionDirective major minor :: rest =>
    if versionSeen || major != 1 || (minor != 1 && minor != 2) then none
    else directives? true declared rest
  | .tagDirective handle start :: rest =>
    if declared.any (·.1 == handle) then none
    else directives? versionSeen (declared ++ [(handle, start)]) rest
  | rest => some (declared ++ Handles.standard, rest)

def Handles.expand? (handles : Handles) (handle suffix : Text) : Option Text :=
  if handle.isEmpty then some suffix
  else (handles.find? (·.1 == handle)).map (·.2 ++ suffix)

/-- Reads an anchor and a tag in either order. -/
def properties? (handles : Handles) : List Token → Option (Properties × List Token)
  | .anchor name :: .tag handle suffix :: rest
  | .tag handle suffix :: .anchor name :: rest => do
    return (⟨some name, some (← handles.expand? handle suffix)⟩, rest)
  | .anchor name :: rest => some (⟨some name, none⟩, rest)
  | .tag handle suffix :: rest => do
    return (⟨none, some (← handles.expand? handle suffix)⟩, rest)
  | rest => some (.absent, rest)

/-! ### Nodes -/

structure NodeContext where
  /-- Block collections are admitted. -/
  block : Bool
  /-- A sequence may be indented no deeper than its key. -/
  indentless : Bool
  deriving DecidableEq, Repr

def NodeContext.inFlow : NodeContext := ⟨false, false⟩

/-- An item of a block sequence, or the root of a document. -/
def NodeContext.item : NodeContext := ⟨true, false⟩

/-- A key or value of a block mapping. -/
def NodeContext.entry : NodeContext := ⟨true, true⟩

def nextIn (stops : List Token) : List Token → Bool
  | [] => false
  | token :: _ => stops.contains token

mutual

/-- Reads a node. The first argument bounds the number of nested and following nodes. -/
def node? (handles : Handles) : Nat → NodeContext → List Token →
    Option (Node Text × List Token)
  | 0, _, _ => none
  | _ + 1, _, .alias name :: rest => some (.alias name, rest)
  | bound + 1, context, tokens => do
    let (properties, tokens) ← properties? handles tokens
    match tokens with
    | .blockEntry :: _ =>
      if context.indentless then
        let (items, rest) ← indentlessItems? handles bound tokens
        return (.sequence properties items, rest)
      else if properties == .absent then none
      else return (.empty properties, tokens)
    | .scalar value style :: rest => return (.scalar properties value style, rest)
    | .flowSequenceStart :: rest =>
      let (items, rest) ← flowItems? handles bound true rest
      return (.sequence properties items, rest)
    | .flowMappingStart :: rest =>
      let (entries, rest) ← flowEntries? handles bound true rest
      return (.mapping properties entries, rest)
    | .blockSequenceStart :: rest =>
      if context.block then
        let (items, rest) ← blockItems? handles bound rest
        return (.sequence properties items, rest)
      else if properties == .absent then none
      else return (.empty properties, tokens)
    | .blockMappingStart :: rest =>
      if context.block then
        let (entries, rest) ← blockEntries? handles bound rest
        return (.mapping properties entries, rest)
      else if properties == .absent then none
      else return (.empty properties, tokens)
    | tokens => if properties == .absent then none else return (.empty properties, tokens)

def nodeUnless? (handles : Handles) : Nat → List Token → NodeContext → List Token →
    Option (Node Text × List Token)
  | 0, _, _, _ => none
  | bound + 1, stops, context, tokens =>
    if nextIn stops tokens then some (.empty .absent, tokens)
    else node? handles bound context tokens

def blockItems? (handles : Handles) : Nat → List Token → Option (List (Node Text) × List Token)
  | 0, _ => none
  | _ + 1, .blockEnd :: rest => some ([], rest)
  | bound + 1, .blockEntry :: rest => do
    let (item, rest) ← nodeUnless? handles bound [.blockEntry, .blockEnd] .item rest
    let (items, rest) ← blockItems? handles bound rest
    return (item :: items, rest)
  | _ + 1, _ => none

def indentlessItems? (handles : Handles) : Nat → List Token →
    Option (List (Node Text) × List Token)
  | 0, _ => none
  | bound + 1, .blockEntry :: rest => do
    let (item, rest) ← nodeUnless? handles bound [.blockEntry, .key, .value, .blockEnd] .item rest
    let (items, rest) ← indentlessItems? handles bound rest
    return (item :: items, rest)
  | _ + 1, rest => some ([], rest)

def blockEntries? (handles : Handles) : Nat → List Token →
    Option (List (Node Text × Node Text) × List Token)
  | 0, _ => none
  | _ + 1, .blockEnd :: rest => some ([], rest)
  | bound + 1, .key :: rest => do
    let stops : List Token := [.key, .value, .blockEnd]
    let (key, rest) ← nodeUnless? handles bound stops .entry rest
    let (value, rest) ← match rest with
      | .value :: rest => nodeUnless? handles bound stops .entry rest
      | rest => some (.empty .absent, rest)
    let (entries, rest) ← blockEntries? handles bound rest
    return ((key, value) :: entries, rest)
  | _ + 1, _ => none

/-- Reads the items of a flow sequence from the first or a later one on, and its end. An item may be
a mapping with a single entry; a key without a node takes the token after it. -/
def flowItems? (handles : Handles) : Nat → Bool → List Token →
    Option (List (Node Text) × List Token)
  | 0, _, _ => none
  | _ + 1, _, .flowSequenceEnd :: rest => some ([], rest)
  | bound + 1, first, tokens => do
    let tokens ← match first, tokens with
      | true, tokens => some tokens
      | false, .flowEntry :: rest => some rest
      | false, _ => none
    match tokens with
    | .flowSequenceEnd :: rest => return ([], rest)
    | .key :: rest =>
      let (key, rest) ←
        if nextIn [.value, .flowEntry, .flowSequenceEnd] rest then
          some (.empty .absent, rest.drop 1)
        else node? handles bound .inFlow rest
      let (value, rest) ← match rest with
        | .value :: rest =>
          nodeUnless? handles bound [.flowEntry, .flowSequenceEnd] .inFlow rest
        | rest => some (.empty .absent, rest)
      let (items, rest) ← flowItems? handles bound false rest
      return (.mapping .absent [(key, value)] :: items, rest)
    | tokens =>
      let (item, rest) ← node? handles bound .inFlow tokens
      let (items, rest) ← flowItems? handles bound false rest
      return (item :: items, rest)

def flowEntries? (handles : Handles) : Nat → Bool → List Token →
    Option (List (Node Text × Node Text) × List Token)
  | 0, _, _ => none
  | _ + 1, _, .flowMappingEnd :: rest => some ([], rest)
  | bound + 1, first, tokens => do
    let tokens ← match first, tokens with
      | true, tokens => some tokens
      | false, .flowEntry :: rest => some rest
      | false, _ => none
    match tokens with
    | .flowMappingEnd :: rest => return ([], rest)
    | .key :: rest =>
      let (key, rest) ← nodeUnless? handles bound [.value, .flowEntry, .flowMappingEnd] .inFlow rest
      let (value, rest) ← match rest with
        | .value :: rest => nodeUnless? handles bound [.flowEntry, .flowMappingEnd] .inFlow rest
        | rest => some (.empty .absent, rest)
      let (entries, rest) ← flowEntries? handles bound false rest
      return ((key, value) :: entries, rest)
    | tokens =>
      let (key, rest) ← node? handles bound .inFlow tokens
      let (entries, rest) ← flowEntries? handles bound false rest
      return ((key, .empty .absent) :: entries, rest)

end

/-! ### Documents -/

def Token.limitsDocument : Token → Bool
  | .versionDirective _ _ | .tagDirective _ _ | .documentStart | .documentEnd => true
  | _ => false

def explicitDocument? (bound : Nat) (tokens : List Token) :
    Option (Node Text × List Token) := do
  let (handles, tokens) ← directives? false [] tokens
  match tokens with
  | .documentStart :: rest =>
    if rest.head?.all Token.limitsDocument then return (.empty .absent, rest)
    else node? handles bound .item rest
  | _ => none

/-- Reads the first document: one without a start mark, or an explicit one. -/
def firstDocument? (bound : Nat) (tokens : List Token) : Option (Node Text × List Token) :=
  match tokens with
  | .versionDirective _ _ :: _ | .tagDirective _ _ :: _ | .documentStart :: _ =>
    explicitDocument? bound tokens
  | tokens => node? Handles.standard bound .item tokens

/-- The root of the only document, if there is one; a second document is refused. -/
def document? (tokens : List Token) : Option (Option (Node Text)) :=
  match tokens with
  | [] => some none
  | tokens => do
    let (root, rest) ← firstDocument? (3 * tokens.length + 3) tokens
    guard (rest.all (· == .documentEnd))
    return some root

end RpcReference.Yaml
