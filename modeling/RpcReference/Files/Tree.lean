import RpcReference.Files.Path
import RpcReference.Files.Access
import RpcReference.Table
/-!
# File trees

The files below a working directory, as a value. Paths are resolved piece by piece: each piece must
be found in a directory. Nothing is known about the places outside the working directory, except
that the directories above it exist.
-/

namespace RpcReference.Files

open Text

/-- What a file holds; `none` if it is not UTF-8 text. -/
abbrev Content := Option Text

/-- The files and directories below a working directory. Their names are paths from there on, made
of proper pieces. -/
structure Tree where
  /-- The path of the working directory. -/
  location : Text
  files : Table Content
  /-- Directories that may be empty; those on the way to a file are implied. -/
  directories : List Text

/-- A place that a path leads to. -/
inductive Place where
  /-- Below the working directory, by the names on the way. -/
  | inside (names : List Text)
  /-- A directory above or beside the working directory. -/
  | outside
  /-- A place outside the working directory of which nothing is known. -/
  | unknown
  deriving DecidableEq, Repr

inductive Occupant where
  | directory
  | file (content : Content)
  | nothing
  deriving DecidableEq, Repr

def pathOf (names : List Text) : Text :=
  join ['/'] names

namespace Tree

/-- The tree with the given files, and directories where there is no content. -/
def ofList (location : Text) (items : List (Text × Option Content)) : Tree where
  location := location
  files := .ofList <| items.filterMap fun (path, content) =>
    content.map (pathOf (properPieces path), ·)
  directories := items.filterMap fun (path, content) =>
    if content.isNone then some (pathOf (properPieces path)) else none

def hasDirectory (t : Tree) (path : Text) : Bool :=
  path.isEmpty || (t.files.keys ++ t.directories).any (·.startsWith (path ++ ['/']))
    || t.directories.contains path

def occupant (t : Tree) : Place → Occupant
  | .outside => .directory
  | .unknown => .nothing
  | .inside names =>
    let path := pathOf names
    match t.files.get? path with
    | some content => .file content
    | none => if t.hasDirectory path then .directory else .nothing

def requireDirectory (t : Tree) (place : Place) : Except AccessError Unit :=
  match t.occupant place with
  | .directory => .ok ()
  | .file _ => .error .notDirectory
  | .nothing => .error .notFound

def Place.enter (place : Place) (piece : Text) : Place :=
  if !isProper piece then place
  else
    match place with
    | .inside names =>
      if piece ≠ parent then .inside (names ++ [piece])
      else if names.isEmpty then .outside
      else .inside names.dropLast
    | .outside => if piece = parent then .outside else .unknown
    | .unknown => .unknown

/-- Follows pieces; each must be looked up in a directory. -/
def follow (t : Tree) (place : Place) (pieces : List Text) : Except AccessError Place :=
  pieces.foldlM (fun place piece => do
    t.requireDirectory place
    return Place.enter place piece) place

/-- Where a path starts, and its pieces from there on. -/
def entrance (t : Tree) (path : Text) : Place × List Text :=
  match stripStart? (t.location ++ ['/']) path with
  | some rest => (.inside [], split '/' rest)
  | none =>
    if path.startsWith ['/'] then (.outside, split '/' path) else (.inside [], split '/' path)

def resolve (t : Tree) (path : Text) : Except AccessError Place :=
  if path.isEmpty then .error .notFound
  else
    let (place, pieces) := t.entrance path
    t.follow place pieces

def read (t : Tree) (path : Text) : Except AccessError Text := do
  match t.occupant (← t.resolve path) with
  | .directory => .error .isDirectory
  | .nothing => .error .notFound
  | .file none => .error .notText
  | .file (some text) => .ok text

/-- The place of a new or existing file that a path leads to. A path that can only lead to a
directory, by its last piece or by a slash behind it, leads to no file. -/
def target (t : Tree) (path : Text) : Except AccessError Place := do
  if path.isEmpty then .error .notFound
  else
    let (place, pieces) := t.entrance path
    let pieces := pieces.reverse
    let slashes := pieces.takeWhile List.isEmpty
    match pieces.dropWhile List.isEmpty with
    | [] => .error .isDirectory
    | last :: above =>
      let directory ← t.follow place above.reverse
      t.requireDirectory directory
      if !isProper last || last = parent || !slashes.isEmpty then .error .isDirectory
      else
        let place := Place.enter directory last
        match t.occupant place, place with
        | .directory, _ => .error .isDirectory
        | _, .inside _ => .ok place
        | _, _ => .error .denied

def put (t : Tree) (place : Place) (text : Text) : Tree :=
  match place with
  | .inside names => { t with files := t.files.insert (pathOf names) (some text) }
  | _ => t

/-- Creates the file at a path, or replaces its content. -/
def create (t : Tree) (path text : Text) : Except AccessError Tree := do
  return t.put (← t.target path) text

/-- The files that are new or have other content than in `before`, sorted by path. -/
def changesSince (t before : Tree) : List (Text × Content) :=
  (t.files.entries.filter fun (path, content) => before.files.get? path != some content).mergeSort
    fun a b => !decide (b.1 < a.1)

end Tree

end RpcReference.Files
