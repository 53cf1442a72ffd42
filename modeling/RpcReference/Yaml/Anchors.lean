import RpcReference.Yaml.Lexer
import RpcReference.Yaml.Node
import RpcReference.Table
/-!
# Aliases

An alias may use every name that an anchor introduced before it. Each anchor takes the number of
different names so far as its number, and an alias stands for the last node that took the number of
its name.
-/

namespace RpcReference.Yaml

/-- The nodes that took a number, in the order of the text. -/
abbrev Bindings := List (Nat × Node Nat)

/-- The numbers of names so far, and the nodes that took one. -/
structure Numbered (α : Type) where
  names : Table Nat
  bindings : Bindings
  value : α

def noteAnchor (names : Table Nat) (properties : Properties) : Table Nat × Option Nat :=
  match properties.anchor with
  | none => (names, none)
  | some name => (names.insert name names.size, some names.size)

def bindingOf (number : Option Nat) (node : Node Nat) : Bindings :=
  number.toList.map (·, node)

mutual

/-- Replaces the names of aliases by numbers. An unknown name is refused. -/
def number? (names : Table Nat) : Node Text → Option (Numbered (Node Nat))
  | .alias name => (names.get? name).map fun n => ⟨names, [], .alias n⟩
  | .scalar properties value style =>
    let (names, own) := noteAnchor names properties
    let node := .scalar properties value style
    some ⟨names, bindingOf own node, node⟩
  | .sequence properties items => do
    let (names, own) := noteAnchor names properties
    let items ← numberItems? names items
    let node := .sequence properties items.value
    return ⟨items.names, bindingOf own node ++ items.bindings, node⟩
  | .mapping properties entries => do
    let (names, own) := noteAnchor names properties
    let entries ← numberEntries? names entries
    let node := .mapping properties entries.value
    return ⟨entries.names, bindingOf own node ++ entries.bindings, node⟩

def numberItems? (names : Table Nat) : List (Node Text) → Option (Numbered (List (Node Nat)))
  | [] => some ⟨names, [], []⟩
  | item :: items => do
    let item ← number? names item
    let items ← numberItems? item.names items
    return ⟨items.names, item.bindings ++ items.bindings, item.value :: items.value⟩

def numberEntries? (names : Table Nat) :
    List (Node Text × Node Text) → Option (Numbered (List (Node Nat × Node Nat)))
  | [] => some ⟨names, [], []⟩
  | (key, value) :: entries => do
    let key ← number? names key
    let value ← number? key.names value
    let entries ← numberEntries? value.names entries
    return ⟨entries.names, key.bindings ++ value.bindings ++ entries.bindings,
      (key.value, value.value) :: entries.value⟩

end

/-- A document with its aliases resolved. -/
structure Document where
  root : Node Nat
  bindings : Bindings

/-- The node that an alias stands for; other nodes stand for themselves. -/
def Document.follow? (d : Document) : Node Nat → Option (Node Nat)
  | .alias n => (d.bindings.reverse.find? (·.1 == n)).map (·.2)
  | node => some node

/-- The only document of a text, if there is one. The outer `none` stands for a text that is not
YAML, has several documents, or uses an alias without an anchor. -/
def parse? (t : Text) : Option (Option Document) := do
  let tokens ← tokens? t
  match ← document? tokens with
  | none => return none
  | some root =>
    let numbered ← number? .empty root
    return some ⟨numbered.value, numbered.bindings⟩

end RpcReference.Yaml
