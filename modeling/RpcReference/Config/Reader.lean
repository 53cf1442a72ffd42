import RpcReference.Config.Basic
import RpcReference.Yaml.Anchors
/-!
# Reading a configuration

A configuration is a YAML mapping. A text setting takes any scalar as it is written, a list takes a
sequence of scalars or nothing at all, and the search box takes an unquoted truth value. Unknown
keys are ignored; a known key may occur once.
-/

namespace RpcReference.Config

open Yaml

/-- Why a text is no configuration. -/
inductive Problem where
  /-- Not a single YAML document. -/
  | notYaml
  | notMapping
  | keyNotScalar
  /-- A known key occurs twice. -/
  | repeatedKey (key : Text)
  /-- The value of a known key has the wrong form. -/
  | wrongValue (key : Text)
  deriving DecidableEq, Repr

def Problem.message : Problem → Text
  | .notYaml => "not a single YAML document".toList
  | .notMapping => "invalid type: expected a mapping".toList
  | .keyNotScalar => "invalid type: expected a scalar as key".toList
  | .repeatedKey key => "duplicate field: ".toList ++ key
  | .wrongValue key => key ++ ": invalid type".toList

/-! ### Values -/

def text? (d : Document) (node : Node Nat) : Option Text := do
  match ← d.follow? node with
  | .scalar _ value _ => return value
  | _ => none

/-- The node is a plain scalar without text. -/
def isNothing : Node Nat → Bool
  | .scalar _ value style => value.isEmpty && style == .plain
  | _ => false

/-- The texts of a sequence of scalars, or of nothing at all. -/
def texts? (d : Document) (node : Node Nat) : Option (List Text) := do
  match ← d.follow? node with
  | .sequence _ items => items.mapM (text? d)
  | node => if isNothing node then return [] else none

def truthValue? (t : Text) : Option Bool :=
  if ["true", "True", "TRUE"].any (·.toList == t) then some true
  else if ["false", "False", "FALSE"].any (·.toList == t) then some false
  else none

def boolTag : Text := "tag:yaml.org,2002:bool".toList

/-- The scalar may spell a truth value: a plain one may, and a literal one with the right tag. -/
def mayBeBool (properties : Properties) : ScalarStyle → Bool
  | .plain => true
  | .literal => properties.tag == some boolTag
  | _ => false

def bool? (d : Document) (node : Node Nat) : Option Bool := do
  match ← d.follow? node with
  | .scalar properties value style =>
    if mayBeBool properties style then truthValue? value else none
  | _ => none

/-! ### Keys -/

inductive Key where
  | title
  | languageTabs
  | tocFooters
  | search
  deriving DecidableEq, Repr

def Key.name : Key → Text
  | .title => "title".toList
  | .languageTabs => "language_tabs".toList
  | .tocFooters => "toc_footers".toList
  | .search => "search".toList

def Key.all : List Key := [.title, .languageTabs, .tocFooters, .search]

def Key.ofName? (name : Text) : Option Key :=
  Key.all.find? (·.name == name)

def Overrides.has (o : Overrides) : Key → Bool
  | .title => o.title.isSome
  | .languageTabs => o.languageTabs.isSome
  | .tocFooters => o.tocFooters.isSome
  | .search => o.search.isSome

def Overrides.set? (o : Overrides) (d : Document) (node : Node Nat) : Key → Option Overrides
  | .title => (text? d node).map fun t => { o with title := some t }
  | .languageTabs => (texts? d node).map fun ts => { o with languageTabs := some ts }
  | .tocFooters => (texts? d node).map fun ts => { o with tocFooters := some ts }
  | .search => (bool? d node).map fun b => { o with search := some b }

def Overrides.add (o : Overrides) (d : Document) (entry : Node Nat × Node Nat) :
    Except Problem Overrides :=
  match text? d entry.1 with
  | none => .error .keyNotScalar
  | some name =>
    match Key.ofName? name with
    | none => .ok o
    | some key =>
      if o.has key then .error (.repeatedKey name)
      else
        match o.set? d entry.2 key with
        | some o => .ok o
        | none => .error (.wrongValue name)

def ofDocument (d : Document) : Except Problem Config :=
  match d.root with
  | .mapping _ entries =>
    (entries.foldlM (fun (o : Overrides) entry => o.add d entry) Overrides.empty).map
      Overrides.config
  | root => if isNothing root then .ok standard else .error .notMapping

/-- The settings that a text gives. A text without a document, or without anything but blanks, gives
none. -/
def parse (t : Text) : Except Problem Config :=
  if (Text.trim t).isEmpty then .ok standard
  else
    match Yaml.parse? t with
    | none => .error .notYaml
    | some none => .ok standard
    | some (some d) => ofDocument d

end RpcReference.Config
